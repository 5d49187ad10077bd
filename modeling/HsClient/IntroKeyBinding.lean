import HsClient.RendezvousLifecycle
import Mathlib.Data.List.Nodup

/-!
# Binding the two legs of an introduction

`send_introduce1` copies the intro point's keys into the rendezvous circuit's
ident, and `handle_rendezvous2` derives the session keys from exactly those
fields. No other callback writes them, so RENDEZVOUS2 is checked against the
intro point of the last INTRODUCE1 that went out.

An opened introduction circuit learns its intro point back from its exit's
legacy identity (`setup_intro_circ_auth_key`), and `send_introduce1` finds the
point again by that auth key. Both searches take the first match, so the
circuit is bound to the point it was built to exactly when no two intro points
of the descriptor share a legacy identity or an auth key.
-/

namespace HsClient

/-- The intro point keys a circuit ident carries: what `handle_rendezvous2`
passes to `hs_ntor_client_get_rendezvous1_keys`. -/
def OriginCircuit.introKeys (o : OriginCircuit) : Ed25519PublicKey × Curve25519PublicKey :=
  (o.hsIdent.introAuthPk, o.hsIdent.introEncPk)

/-- Whether a callback was a `send_introduce1` for rendezvous circuit `R` that
returned 0. -/
def StepRecord.introducedTo (R : Nat) (r : StepRecord) : Bool :=
  match r.event with
  | .sendIntroduce1 _ rend _ => rend == R && r.ret == 0
  | _ => false

namespace ClientCore

open CircuitTable

variable {X : Collaborators} {s : ClientCore}

theorem sendIntroduce1_success_introKeys {intro rend : Nat} {sent : Bool}
    (h : (s.sendIntroduce1 X intro rend sent).2 = 0) :
    ∃ desc ip, s.descCache (s.circuits.circ intro).hsIdent.identityPk = some desc ∧
      findDescIntroPointByIdent (s.circuits.circ intro).hsIdent desc = some ip ∧
      ((s.sendIntroduce1 X intro rend sent).1.circuits.circ rend).introKeys =
        (ip.authKey, ip.encKey) := by
  obtain ⟨desc, ip, -, hd, hip, rfl, heq⟩ := sendIntroduce1_success h
  refine ⟨desc, ip, hd, hip, ?_⟩
  rw [heq]
  simp [OriginCircuit.introKeys, introduce1Sent_hsIdent, hsCircSendIntroduce1_true_hsIdent,
    (findDescIntroPointByIdent_spec hip).2]

theorem step_introKeys (e : Event) {R : Nat} (hR : R < s.circuits.count)
    (hrend : (s.circuits.circ R).purpose.IsRend)
    (hnot : StepRecord.introducedTo R ⟨s, e, (s.step X e).1, (s.step X e).2⟩ = false) :
    ((s.step X e).1.circuits.circ R).introKeys = (s.circuits.circ R).introKeys := by
  rcases (step_hsIdent (X := X) e hR).2 with ⟨h1, h2⟩ | ⟨_, rfl, hp⟩ | ⟨_, _, rfl, h0⟩
  · simp only [OriginCircuit.introKeys, h1, h2]
  · rw [hp] at hrend; exact absurd hrend (by decide)
  · simp [StepRecord.introducedTo, h0] at hnot

end ClientCore

open ClientCore in
/-- The keys `handle_rendezvous2` uses on a rendezvous circuit are those of the
intro point that the last successful `send_introduce1` for it found: a failed
`send_introduce1` writes no ident, no other callback writes the rendezvous
circuit's intro keys, and along any run after a successful send and before the
next one the circuit keeps that intro point's auth and encryption keys. -/
theorem rendezvous_keys_from_last_introduce1 (X : Collaborators) :
    (∀ (s : ClientCore) (intro rend : Nat) (sent : Bool),
      (s.sendIntroduce1 X intro rend sent).2 ≠ 0 →
      ((s.sendIntroduce1 X intro rend sent).1.circuits.circ rend).hsIdent =
        (s.circuits.circ rend).hsIdent) ∧
    (∀ (s : ClientCore) (e : Event) (R : Nat), R < s.circuits.count →
      (s.circuits.circ R).purpose.IsRend →
      StepRecord.introducedTo R ⟨s, e, (s.step X e).1, (s.step X e).2⟩ = false →
      ((s.step X e).1.circuits.circ R).introKeys = (s.circuits.circ R).introKeys) ∧
    (∀ (s : ClientCore) (intro R : Nat) (sent : Bool) (evs : List Event),
      R < s.circuits.count → (s.circuits.circ R).purpose.IsRend →
      (s.sendIntroduce1 X intro R sent).2 = 0 →
      (∀ r ∈ (s.sendIntroduce1 X intro R sent).1.trace X evs, r.introducedTo R = false) →
      ∃ desc ip, s.descCache (s.circuits.circ intro).hsIdent.identityPk = some desc ∧
        findDescIntroPointByIdent (s.circuits.circ intro).hsIdent desc = some ip ∧
        (((s.sendIntroduce1 X intro R sent).1.run X evs).circuits.circ R).introKeys =
          (ip.authKey, ip.encKey)) := by
  refine ⟨fun s intro rend sent h => (sendIntroduce1_failure h).hsIdent rend,
    fun s e R hR hrend hnot => step_introKeys e hR hrend hnot, ?_⟩
  intro s intro R sent evs hR hrend h0 hlast
  obtain ⟨desc, ip, hok, -, -, rfl, heq⟩ := sendIntroduce1_success h0
  have hne : R ≠ intro := fun h =>
    CircuitPurpose.not_isIntro_of_isRend (h ▸ hrend) (introCircIsOk_isIntro hok)
  obtain ⟨desc, ip, hd, hip, hkeys⟩ := sendIntroduce1_success_introKeys h0
  refine ⟨desc, ip, hd, hip, ?_⟩
  have hstart : R < (s.sendIntroduce1 X intro R true).1.circuits.count ∧
      ((s.sendIntroduce1 X intro R true).1.circuits.circ R).purpose.IsRend ∧
      ((s.sendIntroduce1 X intro R true).1.circuits.circ R).introKeys =
        (ip.authKey, ip.encKey) := by
    rw [heq] at hkeys ⊢; simpa [hne] using ⟨hR, hrend, hkeys⟩
  refine (run_of_trace X (P := fun s => R < s.circuits.count ∧ (s.circuits.circ R).purpose.IsRend ∧
      (s.circuits.circ R).introKeys = (ip.authKey, ip.encKey))
    (Q := fun r => r.introducedTo R = false) ?_ _ evs hstart hlast).2.2
  rintro s e ⟨hR, hrend, hk⟩ hnot
  exact ⟨Nat.lt_of_lt_of_le hR (step_count_mono e),
    (step_rendStepLawful e hR hrend).move.isRend hrend, (step_introKeys e hR hrend hnot).trans hk⟩

theorem rendezvous_keys_from_last_introduce1_handshake :
    1 < sampleIntroduction.circuits.count ∧ (sampleIntroduction.circuits.circ 1).purpose.IsRend ∧
    (sampleIntroduction.sendIntroduce1 sampleCollaborators 0 1 true).2 = 0 ∧
    (∀ r ∈ (sampleIntroduction.sendIntroduce1 sampleCollaborators 0 1 true).1.trace
        sampleCollaborators [.receiveIntroduceAck 0 [0] [] none], r.introducedTo 1 = false) ∧
    ∃ desc ip,
      sampleIntroduction.descCache (sampleIntroduction.circuits.circ 0).hsIdent.identityPk =
        some desc ∧
      findDescIntroPointByIdent (sampleIntroduction.circuits.circ 0).hsIdent desc = some ip ∧
      (((sampleIntroduction.sendIntroduce1 sampleCollaborators 0 1 true).1.run sampleCollaborators
        [.receiveIntroduceAck 0 [0] [] none]).circuits.circ 1).introKeys =
          (ip.authKey, ip.encKey) :=
  ⟨by decide, by decide, by decide, by decide,
    (rendezvous_keys_from_last_introduce1 sampleCollaborators).2.2 _ 0 1 true _ (by decide)
      (by decide) (by decide) (by decide)⟩

/-! ## Binding an opened intro circuit to its intro point -/

/-- Two intro points on one relay: the same legacy id and address, their own
keys. -/
def twinIntroPoint : IntroPoint := ⟨[.legacyId 5, .ipv4 7 80], 9, 8, 10⟩

def twinDescriptor : Descriptor := ⟨⟨0, 0, 0⟩, [sampleIntroPoint, twinIntroPoint]⟩

/-- Service `1` with `twinDescriptor` cached. -/
def twinState : ClientCore :=
  (ClientCore.init sampleOptions sampleNetwork 0).run sampleCollaborators
    [.newStream 1, .dirFetchDone 1 (some twinDescriptor)]

/-- When two intro points share a relay, the circuit built to the second one is
bound on opening to the first: `client_get_random_intro` returns the second
point's extend info, `setup_intro_circ_auth_key` gives the circuit the first
point's auth key, and `send_introduce1` then finds the first point. -/
theorem intro_circuit_binds_first_legacy_match :
    clientGetRandomIntro twinState.descCache twinState.introStateCache twinState.options 1 [1] =
      descIntroPointToExtendInfo sampleOptions twinIntroPoint ∧
    descIntroPointToExtendInfo sampleOptions sampleIntroPoint ≠
      descIntroPointToExtendInfo sampleOptions twinIntroPoint ∧
    ((twinState.run sampleCollaborators
      [.launchIntroCircuit 1 [1] 8, .circuitHasOpened 0 true]).circuits.circ
      0).hsIdent.introAuthPk = sampleIntroPoint.authKey ∧
    findDescIntroPointByIdent ((twinState.run sampleCollaborators
      [.launchIntroCircuit 1 [1] 8, .circuitHasOpened 0 true]).circuits.circ 0).hsIdent
        twinDescriptor = some sampleIntroPoint ∧
    sampleIntroPoint.authKey ≠ twinIntroPoint.authKey := by
  decide

open ClientCore in
/-- When the intro points of the cached descriptor have pairwise distinct first
legacy ids and pairwise distinct auth keys, an introduction circuit built to the
extend info `client_get_random_intro` returned is bound on opening to the intro
point that extend info came from: the circuit's ident gets that point's auth
key, every later `send_introduce1` on it finds that point and writes its keys
into the rendezvous circuit, and a NACK noted against the ident makes that
point, and no other, unusable. -/
theorem intro_circuit_binds_picked_point (X : Collaborators) (s : ClientCore)
    (descCache : Ed25519PublicKey → Option Descriptor) (cache : IntroStateCache) (options : Options)
    (S : Ed25519PublicKey) (desc : Descriptor) (picks : List Nat) (ei : ExtendInfo) (c : Nat)
    (established : Bool)
    (hlegacy : (desc.introPoints.map fun ip => firstLegacyId ip.linkSpecifiers).Nodup)
    (hauth : (desc.introPoints.map IntroPoint.authKey).Nodup)
    (hdc : descCache S = some desc)
    (hpick : clientGetRandomIntro descCache cache options S picks = some ei)
    (hdesc : s.descCache S = some desc) (hc : (s.circuits.circ c).purpose = .cIntroducing)
    (hS : (s.circuits.circ c).hsIdent.identityPk = S)
    (hexit : (s.circuits.circ c).chosenExit = some ei) :
    ∃ ip ∈ desc.introPoints, introPointIsUsable cache S ip = true ∧
      descIntroPointToExtendInfo options ip = some ei ∧
      let s' := (s.step X (.circuitHasOpened c established)).1
      (s'.circuits.circ c).hsIdent.identityPk = S ∧
      (s'.circuits.circ c).hsIdent.introAuthPk = ip.authKey ∧
      findDescIntroPointByIdent (s'.circuits.circ c).hsIdent desc = some ip ∧
      (∀ rend sent, (s'.sendIntroduce1 X c rend sent).2 = 0 →
        ((s'.sendIntroduce1 X c rend sent).1.circuits.circ rend).introKeys =
          (ip.authKey, ip.encKey)) ∧
      (∀ (cache' : IntroStateCache) (now : Nat), ∀ ip' ∈ desc.introPoints,
        introPointIsUsable (hsCacheClientIntroStateNote cache' now
          (s'.circuits.circ c).hsIdent.identityPk
          (s'.circuits.circ c).hsIdent.introAuthPk .generic) S ip' =
          (decide (ip' ≠ ip) && introPointIsUsable cache' S ip')) := by
  obtain ⟨desc', hdc', ip, hip, husable, hei⟩ := clientGetRandomIntro_sound hpick
  rw [hdc] at hdc'; cases hdc'
  have hfound : findDescIntroPointByLegacyId ei.identityDigest desc = some ip :=
    findDescIntroPointByLegacyId_of_nodup hlegacy hip
      (descIntroPointToExtendInfo_identityDigest hei)
  have hpost : ((s.step X (.circuitHasOpened c established)).1.circuits.circ c).hsIdent =
      { (s.circuits.circ c).hsIdent with introAuthPk := ip.authKey } := by
    simp [step, hsClientCircuitHasOpened, clientIntroCircHasOpened, setupIntroCircAuthKey, hc, hS,
      hdesc, hexit, hfound]
  have hframe := (step_circuitHasOpened X s c established).1
  have hident : findDescIntroPointByIdent
    ((s.step X (.circuitHasOpened c established)).1.circuits.circ
      c).hsIdent desc = some ip := findDescIntroPointByIdent_of_nodup hauth hip (by rw [hpost])
  have honly : ∀ ip' ∈ desc.introPoints, ip'.authKey = ip.authKey → ip' = ip :=
    fun ip' hip' h => List.inj_on_of_nodup_map hauth hip' hip h
  refine ⟨ip, hip, husable, hei, by rw [hpost, hS], by rw [hpost], hident, ?_, ?_⟩
  · intro rend sent h0
    obtain ⟨desc2, ip2, hd2, hip2, hkeys⟩ := sendIntroduce1_success_introKeys h0
    rw [hpost, hframe] at hd2
    simp only [hS, hdesc, Option.some.injEq] at hd2
    subst hd2
    rw [hident] at hip2; cases hip2
    exact hkeys
  · intro cache' now ip' hip'
    rw [hpost]
    by_cases h : ip' = ip
    · subst h; simp [hS, introPointIsUsable_note_generic]
    · have hk : ip'.authKey ≠ ip.authKey := fun hk => h (honly ip' hip' hk)
      simp [hS, introPointIsUsable_note_of_ne _ _ _ _ _ hk, h]

/-- Two intro points on distinct relays. -/
def relayPairDescriptor : Descriptor :=
  ⟨⟨0, 0, 0⟩, [sampleIntroPoint, ⟨[.legacyId 6, .ipv4 8 80], 9, 8, 10⟩]⟩

/-- Service `1` with `relayPairDescriptor` cached and an intro circuit built to
the second point. -/
def relayPairState : ClientCore :=
  (ClientCore.init sampleOptions sampleNetwork 0).run sampleCollaborators
    [.newStream 1, .dirFetchDone 1 (some relayPairDescriptor), .launchIntroCircuit 1 [1] 8]

theorem intro_circuit_binds_picked_point_relayPair :
    (relayPairDescriptor.introPoints.map fun ip => firstLegacyId ip.linkSpecifiers).Nodup ∧
    (relayPairDescriptor.introPoints.map IntroPoint.authKey).Nodup ∧
    relayPairState.descCache 1 = some relayPairDescriptor ∧
    clientGetRandomIntro relayPairState.descCache relayPairState.introStateCache sampleOptions 1 [1]
      = some ⟨6, none, 9, 8, 80⟩ ∧
    (relayPairState.circuits.circ 0).purpose = .cIntroducing ∧
    (relayPairState.circuits.circ 0).hsIdent.identityPk = 1 ∧
    (relayPairState.circuits.circ 0).chosenExit = some ⟨6, none, 9, 8, 80⟩ ∧
    ∃ ip ∈ relayPairDescriptor.introPoints,
      introPointIsUsable relayPairState.introStateCache 1 ip = true ∧
      descIntroPointToExtendInfo sampleOptions ip = some ⟨6, none, 9, 8, 80⟩ ∧
      let s' := (relayPairState.step sampleCollaborators (.circuitHasOpened 0 true)).1
      (s'.circuits.circ 0).hsIdent.identityPk = 1 ∧
      (s'.circuits.circ 0).hsIdent.introAuthPk = ip.authKey ∧
      findDescIntroPointByIdent (s'.circuits.circ 0).hsIdent relayPairDescriptor = some ip ∧
      (∀ rend sent, (s'.sendIntroduce1 sampleCollaborators 0 rend sent).2 = 0 →
        ((s'.sendIntroduce1 sampleCollaborators 0 rend sent).1.circuits.circ rend).introKeys =
          (ip.authKey, ip.encKey)) ∧
      (∀ (cache' : IntroStateCache) (now : Nat), ∀ ip' ∈ relayPairDescriptor.introPoints,
        introPointIsUsable (hsCacheClientIntroStateNote cache' now
          (s'.circuits.circ 0).hsIdent.identityPk
          (s'.circuits.circ 0).hsIdent.introAuthPk .generic) 1 ip' =
          (decide (ip' ≠ ip) && introPointIsUsable cache' 1 ip')) :=
  ⟨by decide, by decide, by decide, by decide, by decide, by decide, by decide,
    intro_circuit_binds_picked_point sampleCollaborators relayPairState relayPairState.descCache
      relayPairState.introStateCache sampleOptions 1 relayPairDescriptor [1] ⟨6, none, 9, 8, 80⟩ 0
      true (by decide) (by decide) (by decide) (by decide) (by decide) (by decide) (by decide)
      (by decide)⟩

end HsClient
