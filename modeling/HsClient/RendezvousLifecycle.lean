import HsClient.CircuitSteps

/-!
# The rendezvous circuit's lifecycle

A rendezvous circuit moves `ESTABLISH_REND → REND_READY → READY_INTRO_ACKED →
REND_JOINED`, or skips `READY_INTRO_ACKED` when RENDEZVOUS2 overtakes the
INTRODUCE_ACK. It never leaves `REND_JOINED`, and it joins only on a RENDEZVOUS2
whose MAC verifies; every cell in the wrong purpose or failing its checks closes
it as a protocol violation. The law is stated for one callback, for every event
and payload, and carried along every run.
-/

namespace HsClient

/-- The purpose moves of a rendezvous circuit; `stay` is no move. -/
inductive RendMove : CircuitPurpose → CircuitPurpose → Prop
  | stay (p : CircuitPurpose) : RendMove p p
  | ready : RendMove .cEstablishRend .cRendReady
  | introAcked : RendMove .cRendReady .cRendReadyIntroAcked
  | joinedAfterAck : RendMove .cRendReadyIntroAcked .cRendJoined
  | joinedBeforeAck : RendMove .cRendReady .cRendJoined

theorem RendMove.isRend {p q : CircuitPurpose} (h : RendMove p q) (hp : p.IsRend) : q.IsRend := by
  cases h <;> simp_all [CircuitPurpose.IsRend]

theorem RendMove.of_joined {q : CircuitPurpose} (h : RendMove .cRendJoined q) :
    q = .cRendJoined := by
  cases h; rfl

variable (X : Collaborators)

/-- A rendezvous cell that must close circuit `R`: RENDEZVOUS_ESTABLISHED
outside `ESTABLISH_REND`, or a RENDEZVOUS2 outside `REND_READY` and
`READY_INTRO_ACKED`, or one that does not parse, derive keys or verify. -/
def RendViolation (R : Nat) (r : StepRecord) : Prop :=
  (∃ payload, r.event = .receiveRendezvousAcked R payload ∧
    (r.pre.circuits.circ R).purpose ≠ .cEstablishRend) ∨
  (∃ payload, r.event = .receiveRendezvous2 R payload ∧
    (((r.pre.circuits.circ R).purpose ≠ .cRendReady ∧
        (r.pre.circuits.circ R).purpose ≠ .cRendReadyIntroAcked) ∨
      ∀ keys authMac, ClientCore.rendezvous2Keys X (r.pre.circuits.circ R) payload =
        some (keys, authMac) →
        keys.rendCellAuthMac ≠ authMac))

/-- The law one callback obeys at rendezvous circuit `R`. -/
structure RendStepLawful (R : Nat) (r : StepRecord) : Prop where
  move : RendMove (r.pre.circuits.circ R).purpose (r.post.circuits.circ R).purpose
  joined : (r.post.circuits.circ R).purpose = .cRendJoined →
    (r.pre.circuits.circ R).purpose ≠ .cRendJoined →
    ∃ payload keys authMac, r.event = .receiveRendezvous2 R payload ∧
      ((r.pre.circuits.circ R).purpose = .cRendReady ∨
        (r.pre.circuits.circ R).purpose = .cRendReadyIntroAcked) ∧
      ClientCore.rendezvous2Keys X (r.pre.circuits.circ R) payload = some (keys, authMac) ∧
      keys.rendCellAuthMac = authMac ∧
      (r.post.circuits.circ R).e2eKeySeed = some keys.ntorKeySeed ∧ r.ret = 0
  violation : RendViolation X R r →
    (r.post.circuits.circ R).purpose = (r.pre.circuits.circ R).purpose ∧
    (r.post.circuits.circ R).markedForClose =
      some ((r.pre.circuits.circ R).markedForClose.getD .torprotocol) ∧
    r.ret = -1

namespace ClientCore

open CircuitTable

variable {X} {s : ClientCore} {R : Nat}

theorem step_rend_purpose_of_other (e : Event) (hR : R < s.circuits.count)
    (hrend : (s.circuits.circ R).purpose.IsRend)
    (hacked : ∀ payload, e ≠ .receiveRendezvousAcked R payload)
    (hrend2 : ∀ payload, e ≠ .receiveRendezvous2 R payload) :
    ((s.step X e).1.circuits.circ R).purpose = (s.circuits.circ R).purpose ∨
      ((s.circuits.circ R).purpose = .cRendReady ∨
        (s.circuits.circ R).purpose = .cRendReadyIntroAcked) ∧
      ((s.step X e).1.circuits.circ R).purpose = .cRendReadyIntroAcked := by
  rcases step_purpose (X := X) e hR with h | h
  · exact .inl h
  generalize ((s.step X e).1.circuits.circ R).purpose = p at h ⊢
  cases h with
  | introduce1Sent _ hok =>
    exact absurd (introCircIsOk_isIntro hok) (CircuitPurpose.not_isIntro_of_isRend hrend)
  | rendezvousAcked => exact absurd rfl (hacked _)
  | introduceNacked hc | introduceAcked hc _ => rw [hc] at hrend; exact absurd hrend (by decide)
  | rendIntroAcked _ _ hp => exact .inr ⟨hp, rfl⟩
  | rendJoined => exact absurd rfl (hrend2 _)

theorem step_rendStepLawful (e : Event) (hR : R < s.circuits.count)
    (hrend : (s.circuits.circ R).purpose.IsRend) :
    RendStepLawful X R ⟨s, e, (s.step X e).1, (s.step X e).2⟩ := by
  by_cases hacked : ∃ payload, e = .receiveRendezvousAcked R payload
  · obtain ⟨payload, rfl⟩ := hacked
    simp only [step]
    unfold hsClientReceiveRendezvousAcked
    split
    · rename_i hne
      refine ⟨by simpa using RendMove.stay _, fun hj hnj => absurd (by simpa using hj) hnj,
        fun _ => ⟨by simp, by simp, rfl⟩⟩
    · rename_i hest
      have hest : (s.circuits.circ R).purpose = .cEstablishRend := not_not.mp hest
      refine ⟨by simpa [hest] using RendMove.ready, fun hj => by simp at hj, ?_⟩
      rintro (⟨_, -, hne⟩ | ⟨_, he, -⟩)
      · exact absurd hest hne
      · cases he
  by_cases hrend2 : ∃ payload, e = .receiveRendezvous2 R payload
  · obtain ⟨payload, rfl⟩ := hrend2
    simp only [step]
    rcases hsClientReceiveRendezvous2_cases (X := X) (s := s) R payload with
      ⟨keys, authMac, hp, hk, hm, heq⟩ | ⟨hbad, heq⟩ <;> rw [heq]
    · refine ⟨?_, fun _ _ => ⟨payload, keys, authMac, rfl, hp, hk, hm, by simp, rfl⟩, ?_⟩
      · rcases hp with hp | hp <;> simpa [hp] using (by constructor : RendMove _ .cRendJoined)
      · rintro (⟨_, he, -⟩ | ⟨_, he, hbad⟩)
        · cases he
        · cases he
          rcases hbad with ⟨h1, h2⟩ | hbad
          · rcases hp with hp | hp <;> contradiction
          · exact absurd hm (hbad keys authMac hk)
    · exact ⟨by simpa using RendMove.stay _, fun hj hnj => absurd (by simpa using hj) hnj,
        fun _ => ⟨by simp, by simp, rfl⟩⟩
  replace hacked : ∀ p, e ≠ .receiveRendezvousAcked R p := fun p he => hacked ⟨p, he⟩
  replace hrend2 : ∀ p, e ≠ .receiveRendezvous2 R p := fun p he => hrend2 ⟨p, he⟩
  rcases step_rend_purpose_of_other (X := X) e hR hrend hacked hrend2 with h | ⟨hp, h⟩
  · refine ⟨by rw [h]; exact .stay _, fun hj hnj => absurd (h ▸ hj) hnj, ?_⟩
    rintro (⟨p, he, -⟩ | ⟨p, he, -⟩)
    · exact absurd he (hacked p)
    · exact absurd he (hrend2 p)
  · refine ⟨?_, fun hj => by simp [h] at hj, ?_⟩
    · rcases hp with hp | hp <;> rw [hp, h]
      · exact .introAcked
      · exact .stay _
    · rintro (⟨p, he, -⟩ | ⟨p, he, -⟩)
      · exact absurd he (hacked p)
      · exact absurd he (hrend2 p)

end ClientCore

/-- Along every run from a state in which `R` is a rendezvous circuit just
launched, every callback obeys the rendezvous law at `R`. -/
theorem rendezvous_circuit_lifecycle (s : ClientCore) (R : Nat) (evs : List Event)
    (hR : R < s.circuits.count) (hest : (s.circuits.circ R).purpose = .cEstablishRend) :
    ∀ r ∈ s.trace X evs, RendStepLawful X R r :=
  ClientCore.trace_forall X
    (P := fun s => R < s.circuits.count ∧ (s.circuits.circ R).purpose.IsRend)
    (fun s e ⟨hR, hrend⟩ => ⟨ClientCore.step_rendStepLawful e hR hrend,
      Nat.lt_of_lt_of_le hR (ClientCore.step_count_mono e),
      (ClientCore.step_rendStepLawful e hR hrend).move.isRend hrend⟩)
    s evs ⟨hR, by rw [hest]; exact .inl rfl⟩

theorem rendezvous_circuit_lifecycle_launched :
    0 < ((ClientCore.init sampleOptions sampleNetwork 0).step sampleCollaborators
        (.launchRendCircuit 1 sampleRendezvousPoint 6 ⟨11, 12⟩ 8)).1.circuits.count ∧
    (((ClientCore.init sampleOptions sampleNetwork 0).step sampleCollaborators
        (.launchRendCircuit 1 sampleRendezvousPoint 6 ⟨11, 12⟩ 8)).1.circuits.circ 0).purpose = .cEstablishRend ∧
    ∀ r ∈ ((ClientCore.init sampleOptions sampleNetwork 0).step sampleCollaborators
        (.launchRendCircuit 1 sampleRendezvousPoint 6 ⟨11, 12⟩ 8)).1.trace sampleCollaborators
        [.circuitHasOpened 0 true, .receiveRendezvousAcked 0 [], .receiveRendezvous2 0 [1, 2]],
      RendStepLawful sampleCollaborators 0 r :=
  ⟨by decide, rfl, rendezvous_circuit_lifecycle sampleCollaborators _ 0 _ (by decide) rfl⟩

/-! ## The circuit map

`handle_introduce_ack_success` and `close_or_reextend_intro_circ` find the
rendezvous circuit of an introduction through the circuit map, under the
intro circuit's cookie. Every entry of the map names a rendezvous circuit of
the table that carries the entry's cookie: only a rendezvous circuit opening
registers one, under its own cookie, and a rendezvous circuit never changes its
cookie nor leaves the rendezvous purposes. -/

/-- Every entry of the circuit map names a rendezvous circuit of the table
that carries the entry's cookie. -/
def CircuitTable.RendMapOk (t : CircuitTable) : Prop :=
  ∀ C R, t.rendMap C = some R →
    R < t.count ∧ (t.circ R).hsIdent.rendezvousCookie = C ∧ (t.circ R).purpose.IsRend

namespace ClientCore

variable {X : Collaborators} {s : ClientCore}

theorem step_keeps_rend {e : Event} {C : RendCookie} {R : Nat} (hR : R < s.circuits.count)
    (hC : (s.circuits.circ R).hsIdent.rendezvousCookie = C)
    (hrend : (s.circuits.circ R).purpose.IsRend) :
    R < (s.step X e).1.circuits.count ∧
      ((s.step X e).1.circuits.circ R).hsIdent.rendezvousCookie = C ∧
      ((s.step X e).1.circuits.circ R).purpose.IsRend :=
  ⟨Nat.lt_of_lt_of_le hR (step_count_mono e), (step_rendezvousCookie e hR hrend).trans hC,
    (step_rendStepLawful e hR hrend).move.isRend hrend⟩

theorem step_rendMapOk {e : Event} (hadm : s.admissible e = true) (h : s.circuits.RendMapOk) :
    (s.step X e).1.circuits.RendMapOk := by
  intro C R hR
  rcases step_rendMap (X := X) (s := s) e with hm | ⟨c, est, rfl, hp, hm⟩
  · obtain ⟨hlt, hC, hrend⟩ := h C R (hm ▸ hR)
    exact step_keeps_rend hlt hC hrend
  rw [hm] at hR
  by_cases hC : C = (s.circuits.circ c).hsIdent.rendezvousCookie
  · -- the entry the opening circuit registers
    subst hC
    obtain rfl : c = R := Option.some.inj (by rw [← hR, Function.update_same])
    simp only [admissible, liveCircuit, Bool.and_eq_true, decide_eq_true_eq] at hadm
    exact step_keeps_rend hadm.1.1 rfl (by rw [hp]; exact .inl rfl)
  · -- an entry the step leaves alone
    obtain ⟨hlt, hC', hrend⟩ := h C R (by rwa [Function.update_noteq hC] at hR)
    exact step_keeps_rend hlt hC' hrend

end ClientCore

/-- In every reachable state each entry of the client's circuit map names a
rendezvous circuit of the table, in one of the rendezvous purposes, whose
cookie is the entry's: a lookup of the map by an intro circuit's cookie finds
only the rendezvous circuit of that introduction. -/
theorem rend_map_consistent {X : Collaborators} {s : ClientCore} (hs : Reachable X s) :
    ∀ C R, s.circuits.rendMap C = some R →
      R < s.circuits.count ∧ (s.circuits.circ R).hsIdent.rendezvousCookie = C ∧
        (s.circuits.circ R).purpose.IsRend := by
  induction hs with
  | init => intro C R h; cases h
  | step _ hadm ih => exact ClientCore.step_rendMapOk hadm ih

theorem rend_map_consistent_introduction :
    Reachable sampleCollaborators sampleIntroduction ∧
    ∀ C R, sampleIntroduction.circuits.rendMap C = some R →
      R < sampleIntroduction.circuits.count ∧
        (sampleIntroduction.circuits.circ R).hsIdent.rendezvousCookie = C ∧
        (sampleIntroduction.circuits.circ R).purpose.IsRend :=
  ⟨reachable_sampleIntroduction, rend_map_consistent reachable_sampleIntroduction⟩

/-! ## The two orders of the last handshake cells -/

/-- The state with circuit `R`'s dirty timestamp cleared: two states are equal
up to that timestamp when their erasures are. -/
def ClientCore.eraseTimestampDirty (s : ClientCore) (R : Nat) : ClientCore :=
  { s with circuits := s.circuits.modify R fun o => { o with timestampDirty := 0 } }

open CircuitTable in
/-- INTRODUCE_ACK success on the intro circuit and a verified RENDEZVOUS2 on the
rendezvous circuit it introduced commute: both orders return 0 twice and end in
the same state up to the rendezvous circuit's dirty timestamp, with the
rendezvous circuit live and joined on the derived key seed and the intro
circuit acknowledged and closed as finished. -/
theorem introduce_ack_rendezvous2_commute (s : ClientCore) (I R : Nat) (C : RendCookie)
    (ackPayload rendPayload : Payload) (picks : List Nat) (extendFailure : Option CircEndReason)
    (keys : NtorRendCellKeys) (authMac : Digest256)
    (hR : (s.circuits.circ R).purpose = .cRendReady)
    (hRlive : (s.circuits.circ R).markedForClose = none)
    (hreg : s.circuits.rendMap C = some R)
    (hI : (s.circuits.circ I).purpose = .cIntroduceAckWait)
    (hIlive : (s.circuits.circ I).markedForClose = none)
    (hIC : (s.circuits.circ I).hsIdent.rendezvousCookie = C)
    (hack : X.hsCellParseIntroduceAck ackPayload = hsCellIntroAckSuccess)
    (hkeys : ClientCore.rendezvous2Keys X (s.circuits.circ R) rendPayload = some (keys, authMac))
    (hmac : keys.rendCellAuthMac = authMac) :
    let ackFirst := s.step X (.receiveIntroduceAck I ackPayload picks extendFailure)
    let ackThen := ackFirst.1.step X (.receiveRendezvous2 R rendPayload)
    let rendFirst := s.step X (.receiveRendezvous2 R rendPayload)
    let rendThen := rendFirst.1.step X (.receiveIntroduceAck I ackPayload picks extendFailure)
    ackThen.1.eraseTimestampDirty R = rendThen.1.eraseTimestampDirty R ∧
    ackFirst.2 = 0 ∧ ackThen.2 = 0 ∧ rendFirst.2 = 0 ∧ rendThen.2 = 0 ∧
    (rendThen.1.circuits.circ R).markedForClose = none ∧
    (rendThen.1.circuits.circ R).purpose = .cRendJoined ∧
    (rendThen.1.circuits.circ R).e2eKeySeed = some keys.ntorKeySeed ∧
    (rendThen.1.circuits.circ I).purpose = .cIntroduceAcked ∧
    (rendThen.1.circuits.circ I).markedForClose = some .finished := by
  have hIR : I ≠ R := by rintro rfl; rw [hR] at hI; cases hI
  have hlook : s.circuits.hsCircuitmapGetEstablishedRendCircClientSide
      (s.circuits.circ I).hsIdent.rendezvousCookie = some R :=
    (hsCircuitmapGetEstablishedRendCircClientSide_eq_some _).mpr ⟨hIC ▸ hreg, hRlive, .inl hR⟩
  -- INTRODUCE_ACK first: the rendezvous circuit is acknowledged, then joined.
  have hA1 := ClientCore.hsClientReceiveIntroduceAck_of_success (X := X) (s := s)
    picks extendFailure hI hack
  rw [handleIntroduceAckSuccess_of_established _ _ hlook (by rw [hR]; simp)] at hA1
  have hA2 := ClientCore.hsClientReceiveRendezvous2_of_verified
    (s := { s with
      circuits := ((((s.circuits.changePurpose R .cRendReadyIntroAcked).setTimestampDirty R s.now
        ).changePurpose I .cIntroduceAcked).markForClose I .finished).pathbiasMarkUseSuccess I })
    (X := X) (c := R) (by simp [Ne.symm hIR])
    (show ClientCore.rendezvous2Keys X _ rendPayload = _ from
      (ClientCore.rendezvous2Keys_congr (by simp) _).trans hkeys) hmac
  -- RENDEZVOUS2 first: the rendezvous circuit joins, and the ACK leaves it joined.
  have hB1 := ClientCore.hsClientReceiveRendezvous2_of_verified (X := X) (s := s)
    (.inl hR) hkeys hmac
  have hB2 := ClientCore.hsClientReceiveIntroduceAck_of_success
    (s := { s with circuits := s.circuits.hsCircuitSetupE2eRendCirc R keys.ntorKeySeed })
    (X := X) (c := I) picks extendFailure (by simp [hIR, hI]) hack
  have hlookB : hsCircuitmapGetEstablishedRendCircClientSide
      (s.circuits.hsCircuitSetupE2eRendCirc R keys.ntorKeySeed)
      ((s.circuits.hsCircuitSetupE2eRendCirc R keys.ntorKeySeed).circ I).hsIdent.rendezvousCookie =
      some R :=
    (hsCircuitmapGetEstablishedRendCircClientSide_eq_some _).mpr
      ⟨by simpa [hIC] using hreg, by simp [hRlive], .inr (.inr (by simp))⟩
  rw [handleIntroduceAckSuccess_of_joined _ _ hlookB (by simp)] at hB2
  simp only [ClientCore.step, hA1, hA2, hB1, hB2, true_and]
  refine ⟨?_, by simp [hIR, Ne.symm hIR, hRlive], by simp [Ne.symm hIR],
    by simp [Ne.symm hIR], by simp, by simp [hIlive]⟩
  simp only [ClientCore.eraseTimestampDirty, ClientCore.mk.injEq, and_true, true_and]
  ext i
  · by_cases hiR : i = R
    · subst hiR
      simp [hIR, Ne.symm hIR, changePurpose, setTimestampDirty, markForClose,
        pathbiasMarkUseSuccess, hsCircuitSetupE2eRendCirc]
    · by_cases hiI : i = I
      · subst hiI
        simp [hiR, changePurpose, setTimestampDirty, markForClose, pathbiasMarkUseSuccess,
          hsCircuitSetupE2eRendCirc]
      · simp [hiR, hiI, changePurpose, setTimestampDirty, markForClose, pathbiasMarkUseSuccess,
          hsCircuitSetupE2eRendCirc]
  · rfl
  · rfl

theorem introduce_ack_rendezvous2_commute_handshake :
    (sampleHandshake.circuits.circ 1).purpose = .cRendReady ∧
    (sampleHandshake.circuits.circ 1).markedForClose = none ∧
    sampleHandshake.circuits.rendMap 6 = some 1 ∧
    (sampleHandshake.circuits.circ 0).purpose = .cIntroduceAckWait ∧
    (sampleHandshake.circuits.circ 0).markedForClose = none ∧
    (sampleHandshake.circuits.circ 0).hsIdent.rendezvousCookie = 6 ∧
    sampleCollaborators.hsCellParseIntroduceAck [0] = hsCellIntroAckSuccess ∧
    ClientCore.rendezvous2Keys sampleCollaborators (sampleHandshake.circuits.circ 1) [1, 7] =
      some (⟨7, 12⟩, 7) ∧
    (⟨7, 12⟩ : NtorRendCellKeys).rendCellAuthMac = 7 ∧
    let ackFirst := sampleHandshake.step sampleCollaborators (.receiveIntroduceAck 0 [0] [] none)
    let ackThen := ackFirst.1.step sampleCollaborators (.receiveRendezvous2 1 [1, 7])
    let rendFirst := sampleHandshake.step sampleCollaborators (.receiveRendezvous2 1 [1, 7])
    let rendThen := rendFirst.1.step sampleCollaborators (.receiveIntroduceAck 0 [0] [] none)
    ackThen.1.eraseTimestampDirty 1 = rendThen.1.eraseTimestampDirty 1 ∧
    ackFirst.2 = 0 ∧ ackThen.2 = 0 ∧ rendFirst.2 = 0 ∧ rendThen.2 = 0 ∧
    (rendThen.1.circuits.circ 1).markedForClose = none ∧
    (rendThen.1.circuits.circ 1).purpose = .cRendJoined ∧
    (rendThen.1.circuits.circ 1).e2eKeySeed = some 12 ∧
    (rendThen.1.circuits.circ 0).purpose = .cIntroduceAcked ∧
    (rendThen.1.circuits.circ 0).markedForClose = some .finished :=
  ⟨by decide, by decide, by decide, by decide, by decide, by decide, by decide, by decide, rfl,
    introduce_ack_rendezvous2_commute sampleCollaborators sampleHandshake 0 1 6 [0] [1, 7] [] none
      ⟨7, 12⟩ 7 (by decide) (by decide) (by decide) (by decide) (by decide) (by decide) (by decide)
      (by decide) rfl⟩

end HsClient
