import HsClient.FetchInvariants

/-!
# A fetched descriptor: decoding it, and the streams waiting for it

`hs_client_decode_descriptor` derives the blinded key and the subcredential of
the current time period, hands the string to the descriptor parser and checks
the signing-key certificate against the blinded key. `hs_client_desc_has_arrived`
then walks the streams waiting for the descriptor: at a stream of the service it
sends the stream on to wait for a circuit or, when no intro point is usable,
closes it and forgets the HSDir queries made for the service.
`descHasArrivedAt_eq` says what one visit does and
`hsClientDescHasArrivedLoop_spec` what the walk does to each position.
-/

namespace HsClient

/-! ## Decoding -/

/-- The collaborators of `hs_client_decode_descriptor` besides the key
blinding; none of them is part of the modelled file. -/
structure DecodeCollaborators where
  /-- Modelled from the spec: `hs_get_subcredential` of the service key and its
  blinded key. -/
  hsGetSubcredential : Ed25519PublicKey → Ed25519PublicKey → Digest256
  /-- Modelled from the spec: `hs_desc_decode_descriptor`, the parser and
  decryptor; `none` when the string does not decode, and `*desc` is then
  `NULL`. -/
  hsDescDecodeDescriptor : List UInt8 → Digest256 → Option Descriptor
  /-- Modelled from the spec: `tor_cert_checksig`, negative when the
  certificate does not verify under the key at the time. -/
  torCertChecksig : TorCert → Ed25519PublicKey → Nat → Int

/-- `hs_client_decode_descriptor` on the bytes of `desc_str` at time `now`: the
return code and what `*desc` holds after the call. -/
def hsClientDecodeDescriptor (X : Collaborators) (D : DecodeCollaborators) (descStr : List UInt8)
    (servicePk : Ed25519PublicKey) (now : Nat) : Int × Option Descriptor :=
  let currentTimePeriod := X.hsGetTimePeriodNum now
  let blindedPubkey := X.hsBuildBlindedPubkey servicePk currentTimePeriod
  let subcredential := D.hsGetSubcredential servicePk blindedPubkey
  match D.hsDescDecodeDescriptor descStr subcredential with
  | none => (-1, none)
  | some desc =>
    if D.torCertChecksig desc.signingKeyCert blindedPubkey now < 0 then (-1, some desc)
    else (0, some desc)

theorem hsClientDecodeDescriptor_spec (X : Collaborators) (D : DecodeCollaborators)
    (descStr : List UInt8) (servicePk : Ed25519PublicKey) (now : Nat) :
    let blindedPubkey := X.hsBuildBlindedPubkey servicePk (X.hsGetTimePeriodNum now)
    let decoded :=
      D.hsDescDecodeDescriptor descStr (D.hsGetSubcredential servicePk blindedPubkey)
    let r := hsClientDecodeDescriptor X D descStr servicePk now
    (r.1 = 0 ∨ r.1 = -1) ∧
    (r.1 = 0 ↔ ∃ desc, decoded = some desc ∧
      ¬ D.torCertChecksig desc.signingKeyCert blindedPubkey now < 0) ∧
    r.2 = decoded := by
  dsimp only
  unfold hsClientDecodeDescriptor
  dsimp only
  split
  · rename_i hdec; simp [hdec]
  · rename_i desc hdec
    split <;> simp_all

/-- A parser that takes every string to `sampleDescriptor`, whose certificate
is signed by key 0, and a check that accepts a certificate signed by the key
before it expires. -/
def forgingDecoder : DecodeCollaborators where
  hsGetSubcredential identityPk blindedPk := identityPk + blindedPk
  hsDescDecodeDescriptor _ _ := some sampleDescriptor
  torCertChecksig cert key now :=
    if cert.signingKey = key ∧ now ≤ cert.validUntil then 0 else -1

/-- A descriptor for service 1 that decodes but is signed by another key than
the blinded key: the call fails, and `*desc` still holds the rejected
descriptor. -/
theorem decode_descriptor_keeps_forged :
    forgingDecoder.hsDescDecodeDescriptor [] (forgingDecoder.hsGetSubcredential 1
      (sampleCollaborators.hsBuildBlindedPubkey 1 (sampleCollaborators.hsGetTimePeriodNum 0))) =
      some sampleDescriptor ∧
    forgingDecoder.torCertChecksig sampleDescriptor.signingKeyCert
        (sampleCollaborators.hsBuildBlindedPubkey 1 (sampleCollaborators.hsGetTimePeriodNum 0))
        0 < 0 ∧
    hsClientDecodeDescriptor sampleCollaborators forgingDecoder [] 1 0 =
      (-1, some sampleDescriptor) := by
  decide

/-! ## The streams waiting for the descriptor -/

/-- What `hs_client_desc_has_arrived` does to a stream of the service: sent on
to wait for a circuit with fresh timestamps, or closed when the descriptor has
no usable intro point. -/
def descArrivedStream (usable : Bool) (now : Nat) (c : Connection) : Connection :=
  if usable then
    { c with timestampCreated := now, timestampLastReadAllowed := now,
             timestampLastWriteAllowed := now, state := apConnStateCircuitWait, pending := true }
  else { c with markedForClose := true, endReason := some .resolvefailed }

@[simp] theorem descArrivedStream_hsIdent (usable : Bool) (now : Nat) (c : Connection) :
    (descArrivedStream usable now c).hsIdent = c.hsIdent := by
  unfold descArrivedStream; split <;> rfl

theorem hsPurgeHidServFromLastHidServRequests_idem (history : List (Digest × Ed25519PublicKey))
    (blindedPk : Ed25519PublicKey) :
    hsPurgeHidServFromLastHidServRequests
        (hsPurgeHidServFromLastHidServRequests history blindedPk) blindedPk =
      hsPurgeHidServFromLastHidServRequests history blindedPk := by
  simp [hsPurgeHidServFromLastHidServRequests, List.filter_filter]

namespace ClientCore

variable (X : Collaborators) (S : Ed25519PublicKey) (now : Nat) (desc : Descriptor)

theorem descHasArrivedAt_eq (s : ClientCore) (i : Nat) :
    s.descHasArrivedAt X S now i desc =
      { s with
        conns := s.conns.modify i
          (descArrivedStream (hsClientAnyIntroPointsUsable s.introStateCache S desc) now),
        lastHidServRequests :=
          if hsClientAnyIntroPointsUsable s.introStateCache S desc then s.lastHidServRequests
          else hsPurgeHidServFromLastHidServRequests s.lastHidServRequests
            (s.currentBlindedPubkey X S) } := by
  unfold descHasArrivedAt
  cases hsClientAnyIntroPointsUsable s.introStateCache S desc <;> rfl

theorem hsClientDescHasArrivedLoop_spec :
    ∀ (l : List Nat) (s : ClientCore), l.Nodup → s.descCache S = some desc →
      FetchFrame s (hsClientDescHasArrivedLoop X S now l s) ∧
      (hsClientDescHasArrivedLoop X S now l s).conns.count = s.conns.count ∧
      (∀ j, (hsClientDescHasArrivedLoop X S now l s).conns.conn j =
        if j ∈ l ∧ (s.conns.conn j).hsIdent = some S then
          descArrivedStream (hsClientAnyIntroPointsUsable s.introStateCache S desc) now
            (s.conns.conn j)
        else s.conns.conn j) ∧
      (hsClientDescHasArrivedLoop X S now l s).lastHidServRequests =
        if !hsClientAnyIntroPointsUsable s.introStateCache S desc &&
            l.any fun j => (s.conns.conn j).hsIdent == some S then
          hsPurgeHidServFromLastHidServRequests s.lastHidServRequests (s.currentBlindedPubkey X S)
        else s.lastHidServRequests
  | [], s, _, _ => ⟨FetchFrame.refl s, rfl, fun _ => by simp [hsClientDescHasArrivedLoop],
      by simp [hsClientDescHasArrivedLoop]⟩
  | i :: rest, s, hl, hd => by
    rw [List.nodup_cons] at hl
    by_cases hi : (s.conns.conn i).hsIdent = some S
    · -- a stream of the service: visited, then the rest of the walk
      have hloop : hsClientDescHasArrivedLoop X S now (i :: rest) s =
          hsClientDescHasArrivedLoop X S now rest (s.descHasArrivedAt X S now i desc) := by
        simp [hsClientDescHasArrivedLoop, hi, hd]
      have hf := descHasArrivedAt_frame X s S now i desc
      obtain ⟨hfr, hc, hj, hh⟩ :=
        hsClientDescHasArrivedLoop_spec rest _ hl.2 (hf.descCache ▸ hd)
      rw [hloop]
      refine ⟨hf.trans hfr, by simpa [descHasArrivedAt_eq] using hc, fun j => ?_, ?_⟩
      · rw [hj, descHasArrivedAt_eq]
        by_cases hji : j = i
        · subst hji; simp [hi, hl.1]
        · simp [hji]
      · rw [hh, descHasArrivedAt_eq]
        cases hsClientAnyIntroPointsUsable s.introStateCache S desc <;>
          simp [hi, currentBlindedPubkey, hsPurgeHidServFromLastHidServRequests_idem]
    · -- another stream: skipped
      have hloop : hsClientDescHasArrivedLoop X S now (i :: rest) s =
          hsClientDescHasArrivedLoop X S now rest s := by
        simp [hsClientDescHasArrivedLoop, hi]
      obtain ⟨hfr, hc, hj, hh⟩ := hsClientDescHasArrivedLoop_spec rest s hl.2 hd
      rw [hloop]
      refine ⟨hfr, hc, fun j => ?_, ?_⟩
      · rw [hj]
        by_cases hji : j = i
        · subst hji; simp [hi, hl.1]
        · simp [hji]
      · simp [hh, hi]

end ClientCore

/-- With the service's descriptor cached, `hs_client_desc_has_arrived` sends
every live stream of the service waiting for it on to wait for a circuit, or
closes them all when no intro point is usable, forgetting the HSDir queries for
the service if it closed one; it touches no other stream. -/
theorem desc_has_arrived_law (X : Collaborators) (s : ClientCore) (S : Ed25519PublicKey)
    (desc : Descriptor) (hd : s.descCache S = some desc) :
    let r := s.hsClientDescHasArrived X S
    let waiting := fun j => j < s.conns.count ∧ (s.conns.conn j).type = .ap ∧
      (s.conns.conn j).state = apConnStateRenddescWait ∧
      (s.conns.conn j).markedForClose = false ∧ (s.conns.conn j).hsIdent = some S
    r.conns.count = s.conns.count ∧
    (hsClientAnyIntroPointsUsable s.introStateCache S desc = true →
      (∀ j, waiting j → r.conns.conn j =
        { s.conns.conn j with
          timestampCreated := s.now, timestampLastReadAllowed := s.now,
          timestampLastWriteAllowed := s.now, state := apConnStateCircuitWait,
          pending := true }) ∧
      r.lastHidServRequests = s.lastHidServRequests) ∧
    (hsClientAnyIntroPointsUsable s.introStateCache S desc = false →
      (∀ j, waiting j → r.conns.conn j =
        { s.conns.conn j with markedForClose := true, endReason := some .resolvefailed }) ∧
      ((∃ j, waiting j) → r.lastHidServRequests =
        hsPurgeHidServFromLastHidServRequests s.lastHidServRequests
          (s.currentBlindedPubkey X S)) ∧
      ((¬ ∃ j, waiting j) → r.lastHidServRequests = s.lastHidServRequests)) ∧
    (∀ j, (s.conns.conn j).hsIdent ≠ some S ∨
        (s.conns.conn j).state ≠ apConnStateRenddescWait →
      r.conns.conn j = s.conns.conn j) := by
  dsimp only
  obtain ⟨-, hc, hj, hh⟩ := ClientCore.hsClientDescHasArrivedLoop_spec X S s.now desc
    (s.conns.connectionListByTypeState .ap apConnStateRenddescWait) s
    (ConnTable.connectionListByTypeState_nodup _ _ _) hd
  -- a waiting stream of the service is one the walk visits
  have hw : ∀ j, (j ∈ s.conns.connectionListByTypeState .ap apConnStateRenddescWait ∧
      (s.conns.conn j).hsIdent = some S) ↔ j < s.conns.count ∧ (s.conns.conn j).type = .ap ∧
      (s.conns.conn j).state = apConnStateRenddescWait ∧
      (s.conns.conn j).markedForClose = false ∧ (s.conns.conn j).hsIdent = some S := by
    intro j; rw [ConnTable.mem_connectionListByTypeState]; simp only [and_assoc]
  have hany : ((s.conns.connectionListByTypeState .ap apConnStateRenddescWait).any fun j =>
      (s.conns.conn j).hsIdent == some S) = true ↔ ∃ j, j < s.conns.count ∧
        (s.conns.conn j).type = .ap ∧ (s.conns.conn j).state = apConnStateRenddescWait ∧
        (s.conns.conn j).markedForClose = false ∧ (s.conns.conn j).hsIdent = some S := by
    simp only [List.any_eq_true, beq_iff_eq, ← hw]
  unfold ClientCore.hsClientDescHasArrived
  refine ⟨hc, fun hu => ⟨fun j hj' => ?_, by simp [hh, hu]⟩,
    fun hu => ⟨fun j hj' => ?_, fun hex => ?_, fun hno => ?_⟩, fun j hj' => ?_⟩
  · simp [hj, (hw j).mpr hj', hu, descArrivedStream]
  · simp [hj, (hw j).mpr hj', hu, descArrivedStream]
  · rw [hh, if_pos (by simpa [hu] using hany.mpr hex)]
  · rw [hh, if_neg (by simpa [hu] using mt hany.mp hno)]
  · -- a stream of another service or in another state is not visited
    rw [hj, if_neg]
    rintro ⟨hm, hk⟩
    rcases hj' with h | h
    · exact h hk
    · exact h ((ConnTable.mem_connectionListByTypeState _).mp hm).2.2.1

/-- A stream of service 1 waits for the descriptor, which has just been stored. -/
def descJustStored : ClientCore :=
  let s := (ClientCore.init sampleOptions sampleNetwork 0).run sampleCollaborators [.newStream 1]
  { s with descCache := Function.update s.descCache 1 (some sampleDescriptor) }

theorem desc_has_arrived_law_justStored :
    descJustStored.descCache 1 = some sampleDescriptor ∧
    let r := descJustStored.hsClientDescHasArrived sampleCollaborators 1
    let waiting := fun j => j < descJustStored.conns.count ∧
      (descJustStored.conns.conn j).type = .ap ∧
      (descJustStored.conns.conn j).state = apConnStateRenddescWait ∧
      (descJustStored.conns.conn j).markedForClose = false ∧
      (descJustStored.conns.conn j).hsIdent = some 1
    r.conns.count = descJustStored.conns.count ∧
    (hsClientAnyIntroPointsUsable descJustStored.introStateCache 1 sampleDescriptor = true →
      (∀ j, waiting j → r.conns.conn j =
        { descJustStored.conns.conn j with
          timestampCreated := descJustStored.now,
          timestampLastReadAllowed := descJustStored.now,
          timestampLastWriteAllowed := descJustStored.now, state := apConnStateCircuitWait,
          pending := true }) ∧
      r.lastHidServRequests = descJustStored.lastHidServRequests) ∧
    (hsClientAnyIntroPointsUsable descJustStored.introStateCache 1 sampleDescriptor = false →
      (∀ j, waiting j → r.conns.conn j =
        { descJustStored.conns.conn j with
          markedForClose := true, endReason := some .resolvefailed }) ∧
      ((∃ j, waiting j) → r.lastHidServRequests =
        hsPurgeHidServFromLastHidServRequests descJustStored.lastHidServRequests
          (descJustStored.currentBlindedPubkey sampleCollaborators 1)) ∧
      ((¬ ∃ j, waiting j) → r.lastHidServRequests = descJustStored.lastHidServRequests)) ∧
    (∀ j, (descJustStored.conns.conn j).hsIdent ≠ some 1 ∨
        (descJustStored.conns.conn j).state ≠ apConnStateRenddescWait →
      r.conns.conn j = descJustStored.conns.conn j) :=
  ⟨by decide, desc_has_arrived_law _ _ _ _ (by decide)⟩

/-- With no stream waiting, an unusable descriptor forgets no HSDir query: the
purge is done per closed stream. In `sampleUnusableIntro` the service's stream
waits for a circuit and its HSDir was asked for the current blinded key. -/
theorem desc_has_arrived_keeps_history :
    sampleUnusableIntro.descCache 1 = some sampleDescriptor ∧
    hsClientAnyIntroPointsUsable sampleUnusableIntro.introStateCache 1 sampleDescriptor = false ∧
    sampleUnusableIntro.conns.connectionListByTypeState .ap apConnStateRenddescWait = [] ∧
    (sampleUnusableIntro.hsClientDescHasArrived sampleCollaborators 1).lastHidServRequests ≠
      hsPurgeHidServFromLastHidServRequests sampleUnusableIntro.lastHidServRequests
        (sampleUnusableIntro.currentBlindedPubkey sampleCollaborators 1) := by
  decide

/-! ## A descriptor handed in twice

After `hs_client_desc_has_arrived` no live stream of the service waits for its
descriptor any more, so a second arrival of the same descriptor finds nothing
to do: the directory connection that brought it is closed, and that is all. -/

theorem ConnTable.eq_of_conn {t t' : ConnTable} (hc : t'.count = t.count)
    (h : ∀ j, t'.conn j = t.conn j) : t' = t := by
  cases t; cases t'
  simp only [ConnTable.mk.injEq] at hc h ⊢
  exact ⟨funext h, hc⟩

theorem FetchFrame.eq_of_conns {s s' : ClientCore} (h : FetchFrame s s') (hc : s'.conns = s.conns)
    (hh : s'.lastHidServRequests = s.lastHidServRequests) : s' = s := by
  obtain ⟨h1, h2, h3, h4, h5, h6⟩ := h
  cases s; cases s'
  simp_all

namespace ClientCore

open ConnTable

variable {X : Collaborators} {s : ClientCore} {S : Ed25519PublicKey}

/-- No live stream of service `S` waits for its descriptor. -/
def NoneWaiting (s : ClientCore) (S : Ed25519PublicKey) : Prop :=
  ∀ j ∈ s.conns.connectionListByTypeState .ap apConnStateRenddescWait,
    (s.conns.conn j).hsIdent ≠ some S

theorem NoneWaiting.markForClose (h : s.NoneWaiting S) (i : Nat) :
    ({ s with conns := s.conns.connectionMarkForClose i } : ClientCore).NoneWaiting S := by
  intro j hm hS
  rw [mem_connectionListByTypeState] at hm
  by_cases hj : j = i
  · subst hj; simp [connectionMarkForClose] at hm
  · simp only [connectionMarkForClose, modify_conn_of_ne _ _ hj, modify_count] at hm hS
    exact h j ((mem_connectionListByTypeState _).mpr hm) hS

theorem hsClientDescHasArrived_of_noneWaiting {desc : Descriptor}
    (hd : s.descCache S = some desc) (hn : s.NoneWaiting S) : s.hsClientDescHasArrived X S = s := by
  obtain ⟨hf, hc, hj, hh⟩ := hsClientDescHasArrivedLoop_spec X S s.now desc
    (s.conns.connectionListByTypeState .ap apConnStateRenddescWait) s
    (connectionListByTypeState_nodup _ _ _) hd
  refine hf.eq_of_conns (eq_of_conn hc fun j => by rw [hj, if_neg fun h => hn j h.1 h.2]) ?_
  rw [hh, if_neg]
  simp only [Bool.and_eq_true, List.any_eq_true, beq_iff_eq, not_and]
  rintro - ⟨j, hm, hS⟩
  exact hn j hm hS

theorem hsClientDescHasArrived_noneWaiting {desc : Descriptor} (hd : s.descCache S = some desc) :
    (s.hsClientDescHasArrived X S).NoneWaiting S := by
  obtain ⟨-, hc, hj, -⟩ := hsClientDescHasArrivedLoop_spec X S s.now desc
    (s.conns.connectionListByTypeState .ap apConnStateRenddescWait) s
    (connectionListByTypeState_nodup _ _ _) hd
  unfold hsClientDescHasArrived
  intro j hm hS
  obtain ⟨hjc, ht, hst, hmk⟩ := (mem_connectionListByTypeState _).mp hm
  rw [hj] at ht hst hmk hS
  by_cases hw : j ∈ s.conns.connectionListByTypeState .ap apConnStateRenddescWait ∧
      (s.conns.conn j).hsIdent = some S
  · rw [if_pos hw] at hst hmk
    unfold descArrivedStream at hst hmk
    by_cases hu : hsClientAnyIntroPointsUsable s.introStateCache S desc = true
    · simp [hu, apConnStateCircuitWait, apConnStateRenddescWait] at hst
    · simp [hu] at hmk
  · rw [if_neg hw] at ht hst hmk hS
    exact hw ⟨(mem_connectionListByTypeState _).mpr ⟨hc ▸ hjc, ht, hst, hmk⟩, hS⟩

theorem dirFetchDone_of_hsIdent {i : Nat} {d : Descriptor} (h : (s.conns.conn i).hsIdent = some S) :
    s.dirFetchDone X i (some d) =
      { ({ s with descCache := Function.update s.descCache S (some d) } : ClientCore
          ).hsClientDescHasArrived X S with
        conns := (({ s with descCache := Function.update s.descCache S (some d) } : ClientCore
          ).hsClientDescHasArrived X S).conns.connectionMarkForClose i } := by
  simp only [dirFetchDone, h]

end ClientCore

open ClientCore in
/-- A descriptor handed in a second time, on any connection of the same
service, changes nothing but closing that connection: the first arrival left
no stream of the service waiting for it. -/
theorem duplicate_descriptor_harmless (X : Collaborators) (s : ClientCore) (i i' : Nat)
    (S : Ed25519PublicKey) (d : Descriptor) (hi : (s.conns.conn i).hsIdent = some S)
    (hi' : ((s.dirFetchDone X i (some d)).conns.conn i').hsIdent = some S) :
    (s.dirFetchDone X i (some d)).dirFetchDone X i' (some d) =
      { s.dirFetchDone X i (some d) with
        conns := (s.dirFetchDone X i (some d)).conns.connectionMarkForClose i' } := by
  let s₀ : ClientCore := { s with descCache := Function.update s.descCache S (some d) }
  have hd₀ : s₀.descCache S = some d := by simp [s₀]
  have h₁ := dirFetchDone_of_hsIdent (X := X) (d := d) hi
  have hd₁ : (s.dirFetchDone X i (some d)).descCache S = some d := by
    rw [h₁]; exact (hsClientDescHasArrived_frame X s₀ S).descCache ▸ hd₀
  have hn₁ : (s.dirFetchDone X i (some d)).NoneWaiting S := by
    rw [h₁]; exact (hsClientDescHasArrived_noneWaiting hd₀).markForClose i
  have hstore : ({ s.dirFetchDone X i (some d) with
      descCache := Function.update (s.dirFetchDone X i (some d)).descCache S (some d) } : ClientCore) =
      s.dirFetchDone X i (some d) := by
    have hupd : Function.update (s.dirFetchDone X i (some d)).descCache S (some d) =
        (s.dirFetchDone X i (some d)).descCache := by
      funext k
      by_cases hk : k = S
      · subst hk; rw [Function.update_same, hd₁]
      · exact Function.update_noteq hk _ _
    rw [hupd]
  rw [dirFetchDone_of_hsIdent hi', hstore, hsClientDescHasArrived_of_noneWaiting hd₁ hn₁]

theorem duplicate_descriptor_harmless_fetching :
    (sampleFetching.conns.conn 1).hsIdent = some 1 ∧
    ((sampleFetching.dirFetchDone sampleCollaborators 1 (some sampleDescriptor)).conns.conn
      1).hsIdent = some 1 ∧
    (sampleFetching.dirFetchDone sampleCollaborators 1 (some sampleDescriptor)).dirFetchDone
        sampleCollaborators 1 (some sampleDescriptor) =
      { sampleFetching.dirFetchDone sampleCollaborators 1 (some sampleDescriptor) with
        conns := (sampleFetching.dirFetchDone sampleCollaborators 1
          (some sampleDescriptor)).conns.connectionMarkForClose 1 } :=
  ⟨by decide, by decide,
    duplicate_descriptor_harmless _ _ 1 1 1 sampleDescriptor (by decide) (by decide)⟩

/-! ## Descriptors for two services -/

namespace ClientCore

open ConnTable

variable {X : Collaborators} {s : ClientCore} {S : Ed25519PublicKey}

theorem dirFetchDone_spec_of_hsIdent {i : Nat} {d : Descriptor}
    (h : (s.conns.conn i).hsIdent = some S) :
    let r := s.dirFetchDone X i (some d)
    r = { s with descCache := Function.update s.descCache S (some d), conns := r.conns,
                 lastHidServRequests := r.lastHidServRequests } ∧
    r.conns.count = s.conns.count ∧
    (∀ j, r.conns.conn j =
      if (s.conns.conn j).hsIdent = some S then
        (if j = i then fun c => { c with markedForClose := true } else id)
          (if j ∈ s.conns.connectionListByTypeState .ap apConnStateRenddescWait then
            descArrivedStream (hsClientAnyIntroPointsUsable s.introStateCache S d) s.now
              (s.conns.conn j)
          else s.conns.conn j)
      else s.conns.conn j) ∧
    r.lastHidServRequests =
      if !hsClientAnyIntroPointsUsable s.introStateCache S d &&
          (s.conns.connectionListByTypeState .ap apConnStateRenddescWait).any
            fun j => (s.conns.conn j).hsIdent == some S then
        hsPurgeHidServFromLastHidServRequests s.lastHidServRequests (s.currentBlindedPubkey X S)
      else s.lastHidServRequests := by
  obtain ⟨-, hc, hj, hh⟩ := hsClientDescHasArrivedLoop_spec X S s.now d
    (s.conns.connectionListByTypeState .ap apConnStateRenddescWait)
    { s with descCache := Function.update s.descCache S (some d) }
    (connectionListByTypeState_nodup _ _ _) (by simp)
  obtain ⟨h1, h2, h3, h4, h5, h6⟩ := hsClientDescHasArrived_frame X
    ({ s with descCache := Function.update s.descCache S (some d) } : ClientCore) S
  rw [dirFetchDone_of_hsIdent h]
  refine ⟨?_, hc, fun j => ?_, hh⟩
  · generalize (({ s with descCache := Function.update s.descCache S (some d) } : ClientCore
      ).hsClientDescHasArrived X S) = A at h1 h2 h3 h4 h5 h6 ⊢
    cases A
    simp_all
  · rw [connectionMarkForClose, modify_conn]
    simp only [hsClientDescHasArrived, hj]
    by_cases hS : (s.conns.conn j).hsIdent = some S
    · by_cases hji : j = i
      · subst hji; simp [hS]
      · simp [hS, hji]
    · have hji : j ≠ i := fun hji => hS (hji ▸ h)
      simp [hS, hji]

theorem dirFetchDone_hsIdent_conn {i : Nat} {d : Descriptor}
    (h : (s.conns.conn i).hsIdent = some S) (j : Nat) :
    ((s.dirFetchDone X i (some d)).conns.conn j).hsIdent = (s.conns.conn j).hsIdent := by
  rw [(dirFetchDone_spec_of_hsIdent h).2.2.1]
  split
  · by_cases hji : j = i <;> simp only [hji, if_true, if_false, id] <;> split <;> simp
  · rfl

theorem dirFetchDone_conn_of_ne {i j : Nat} {d : Descriptor}
    (h : (s.conns.conn i).hsIdent = some S) (hj : (s.conns.conn j).hsIdent ≠ some S) :
    (s.dirFetchDone X i (some d)).conns.conn j = s.conns.conn j := by
  rw [(dirFetchDone_spec_of_hsIdent h).2.2.1, if_neg hj]

theorem dirFetchDone_any_waiting_of_ne {i : Nat} {d : Descriptor} {S' : Ed25519PublicKey}
    (h : (s.conns.conn i).hsIdent = some S) (hne : S' ≠ S) :
    ((s.dirFetchDone X i (some d)).conns.connectionListByTypeState .ap apConnStateRenddescWait).any
        (fun j => ((s.dirFetchDone X i (some d)).conns.conn j).hsIdent == some S') =
      (s.conns.connectionListByTypeState .ap apConnStateRenddescWait).any
        (fun j => (s.conns.conn j).hsIdent == some S') := by
  rw [Bool.eq_iff_iff, List.any_eq_true, List.any_eq_true]
  simp only [beq_iff_eq, dirFetchDone_hsIdent_conn h]
  refine exists_congr fun j => and_congr_left fun hj => ?_
  exact mem_connectionListByTypeState_of_conn _ (dirFetchDone_spec_of_hsIdent h).2.1
    (dirFetchDone_conn_of_ne h (by rw [hj]; simpa using hne))

theorem hsPurgeHidServFromLastHidServRequests_ite_comm (history : List (Digest × Ed25519PublicKey)) (b b' : Bool)
    (k k' : Ed25519PublicKey) :
    (if b' = true then hsPurgeHidServFromLastHidServRequests
        (if b = true then hsPurgeHidServFromLastHidServRequests history k else history) k'
      else if b = true then hsPurgeHidServFromLastHidServRequests history k else history) =
    (if b = true then hsPurgeHidServFromLastHidServRequests
        (if b' = true then hsPurgeHidServFromLastHidServRequests history k' else history) k
      else if b' = true then hsPurgeHidServFromLastHidServRequests history k' else history) := by
  cases b <;> cases b' <;> simp [hsPurgeHidServFromLastHidServRequests_comm]

end ClientCore

attribute [ext] ClientCore

open ClientCore ConnTable in
/-- Two fetches for two different services that both bring back a descriptor
leave the same state, whichever completes first: each arrival rewrites only its
own service's streams and connection, reads only its own failures, and forgets
only its own HSDir queries. -/
theorem fetch_results_commute (X : Collaborators) (s : ClientCore) (i i' : Nat)
    (S S' : Ed25519PublicKey) (d d' : Descriptor) (hi : (s.conns.conn i).hsIdent = some S)
    (hi' : (s.conns.conn i').hsIdent = some S') (hne : S ≠ S') :
    (s.step X (.dirFetchDone i (some d))).1.step X (.dirFetchDone i' (some d')) =
      (s.step X (.dirFetchDone i' (some d'))).1.step X (.dirFetchDone i (some d)) := by
  show ((s.dirFetchDone X i (some d)).dirFetchDone X i' (some d'), 0) =
    ((s.dirFetchDone X i' (some d')).dirFetchDone X i (some d), 0)
  obtain ⟨hA, hAc, hAj, hAh⟩ := dirFetchDone_spec_of_hsIdent (X := X) (d := d) hi
  obtain ⟨hB, hBc, hBj, hBh⟩ := dirFetchDone_spec_of_hsIdent (X := X) (d := d') hi'
  have idA := dirFetchDone_hsIdent_conn (X := X) (d := d) hi
  have idB := dirFetchDone_hsIdent_conn (X := X) (d := d') hi'
  have keepA := fun j => dirFetchDone_conn_of_ne (X := X) (d := d) (j := j) hi
  have keepB := fun j => dirFetchDone_conn_of_ne (X := X) (d := d') (j := j) hi'
  have anyA := dirFetchDone_any_waiting_of_ne (X := X) (d := d) hi hne.symm
  have anyB := dirFetchDone_any_waiting_of_ne (X := X) (d := d') hi' hne
  generalize s.dirFetchDone X i (some d) = A at hA hAc hAj hAh idA keepA anyA
  generalize s.dirFetchDone X i' (some d') = B at hB hBc hBj hBh idB keepB anyB
  obtain ⟨hAB, hABc, hABj, hABh⟩ := dirFetchDone_spec_of_hsIdent (X := X) (d := d')
    (show (A.conns.conn i').hsIdent = some S' by rw [idA]; exact hi')
  obtain ⟨hBA, hBAc, hBAj, hBAh⟩ := dirFetchDone_spec_of_hsIdent (X := X) (d := d)
    (show (B.conns.conn i).hsIdent = some S by rw [idB]; exact hi)
  generalize A.dirFetchDone X i' (some d') = AB at hAB hABc hABj hABh
  generalize B.dirFetchDone X i (some d) = BA at hBA hBAc hBAj hBAh
  have fA : A.introStateCache = s.introStateCache ∧ A.now = s.now := by rw [hA]; exact ⟨rfl, rfl⟩
  have fB : B.introStateCache = s.introStateCache ∧ B.now = s.now := by rw [hB]; exact ⟨rfl, rfl⟩
  congr 1
  apply ClientCore.ext
  case conns =>
    apply ConnTable.eq_of_conn (by rw [hABc, hBAc, hAc, hBc])
    intro j
    rw [hABj, hBAj, idA, idB]
    by_cases hS : (s.conns.conn j).hsIdent = some S
    · -- a connection of `S`: only the arrival for `S` rewrites it, from the same view
      have hS' : (s.conns.conn j).hsIdent ≠ some S' := by rw [hS]; simpa using hne
      rw [if_neg hS', if_pos hS, hAj, if_pos hS, keepB j hS', fB.1, fB.2]
      simp only [mem_connectionListByTypeState_of_conn _ hBc (keepB j hS')]
    · by_cases hS' : (s.conns.conn j).hsIdent = some S'
      · rw [if_pos hS', if_neg hS, hBj, if_pos hS', keepA j hS, fA.1, fA.2]
        simp only [mem_connectionListByTypeState_of_conn _ hAc (keepA j hS)]
      · rw [if_neg hS', if_neg hS, keepA j hS, keepB j hS']
  case descCache =>
    rw [hAB, hBA, hA, hB]
    exact Function.update_comm hne _ _ _
  case lastHidServRequests =>
    -- each arrival sees the other service's waiting streams as they were
    rw [hABh, hBAh, anyA, anyB, fA.1, fB.1, hAh, hBh]
    simp only [currentBlindedPubkey, fA.2, fB.2]
    exact hsPurgeHidServFromLastHidServRequests_ite_comm _ _ _ _ _
  all_goals rw [hAB, hBA, hA, hB]

/-- Streams of services `1` and `2`, each with its fetch out: connections `1`
and `3`. -/
def sampleTwoFetches : ClientCore :=
  (ClientCore.init sampleOptions sampleNetwork 0).run sampleCollaborators [.newStream 1, .newStream 2]

theorem fetch_results_commute_twoFetches :
    (sampleTwoFetches.conns.conn 1).hsIdent = some 1 ∧
    (sampleTwoFetches.conns.conn 3).hsIdent = some 2 ∧ (1 : Ed25519PublicKey) ≠ 2 ∧
    (sampleTwoFetches.step sampleCollaborators (.dirFetchDone 1 (some sampleDescriptor))).1.step
        sampleCollaborators (.dirFetchDone 3 (some sampleDescriptor)) =
      (sampleTwoFetches.step sampleCollaborators (.dirFetchDone 3 (some sampleDescriptor))).1.step
        sampleCollaborators (.dirFetchDone 1 (some sampleDescriptor)) :=
  ⟨by decide, by decide, by decide,
    fetch_results_commute _ _ 1 3 1 2 _ _ (by decide) (by decide) (by decide)⟩

end HsClient
