import HsClient.CircuitSteps

/-!
# The introduction circuit's lifecycle

An introduction circuit is `INTRODUCING` until INTRODUCE1 goes out, then waits
in `INTRODUCE_ACK_WAIT`; the ACK closes it in `INTRODUCE_ACKED`, a NACK sends it
back to `INTRODUCING` re-extended to another intro point, or closes it with its
rendezvous circuit. The invariant of every reachable state and the law of each
callback are read off the inversion lemmas of `CircuitSteps`. Once acknowledged,
the circuit ignores a repeated ACK.
-/

namespace HsClient

/-- What the client keeps true of every circuit it launched. -/
structure OriginCircuit.WellFormed (o : OriginCircuit) : Prop where
  introPurpose : o.hsIdent.circuitType = .intro → o.purpose.IsIntro
  rendPurpose : o.hsIdent.circuitType = .rendezvous → o.purpose.IsRend
  ackWaitKey : o.purpose = .cIntroduceAckWait → o.hsIdent.introAuthPk ≠ 0
  ackedMarked : o.purpose = .cIntroduceAcked → o.markedForClose.isSome

def CircuitTable.WellFormed (t : CircuitTable) : Prop := ∀ i < t.count, (t.circ i).WellFormed

namespace OriginCircuit.WellFormed

theorem introCircuitLaunched (identityPk : Ed25519PublicKey) (ei : ExtendInfo) (relayEarly : Nat) :
    (introCircuitLaunched identityPk ei relayEarly).WellFormed :=
  ⟨fun _ => .inl rfl, nofun, nofun, nofun⟩

theorem rendCircuitLaunched (identityPk : Ed25519PublicKey) (rp : ExtendInfo) (cookie : RendCookie)
    (kp : Curve25519Keypair) (relayEarly : Nat) :
    (rendCircuitLaunched identityPk rp cookie kp relayEarly).WellFormed :=
  ⟨nofun, fun _ => .inl rfl, nofun, nofun⟩

theorem of_step {o o' : OriginCircuit} (h : o.WellFormed)
    (htype : o'.hsIdent.circuitType = o.hsIdent.circuitType)
    (hkind : (o.purpose.IsIntro → o'.purpose.IsIntro) ∧ (o.purpose.IsRend → o'.purpose.IsRend))
    (hkey : o'.purpose = .cIntroduceAckWait → o'.hsIdent.introAuthPk ≠ 0)
    (hmark : o'.purpose = .cIntroduceAcked → o'.markedForClose.isSome) : o'.WellFormed :=
  ⟨fun ht => hkind.1 (h.introPurpose (htype ▸ ht)), fun ht => hkind.2 (h.rendPurpose (htype ▸ ht)),
    hkey, hmark⟩

end OriginCircuit.WellFormed

namespace ClientCore

variable {X : Collaborators} {s : ClientCore} {i : Nat} {e : Event}

theorem PurposeChange.ackWait (h : PurposeChange X s i e .cIntroduceAckWait) :
    ∃ rend sent, e = .sendIntroduce1 i rend sent ∧ (s.sendIntroduce1 X i rend sent).2 = 0 ∧
      introCircIsOk (s.circuits.circ i) = true := by
  cases h with
  | introduce1Sent h0 hok => exact ⟨_, _, rfl, h0, hok⟩

theorem PurposeChange.acked (h : PurposeChange X s i e .cIntroduceAcked) :
    ((s.step X e).1.circuits.circ i).markedForClose.isSome := by
  cases h with
  | introduceAcked _ hm => exact hm

theorem PurposeChange.pre_ne_acked {p : CircuitPurpose} (h : PurposeChange X s i e p)
    (hadm : s.admissible e = true) : (s.circuits.circ i).purpose ≠ .cIntroduceAcked := by
  cases h with
  | introduce1Sent =>
    simp only [admissible, Bool.and_eq_true, beq_iff_eq] at hadm
    rw [hadm.1.1.2]; decide
  | rendezvousAcked h | introduceNacked h | introduceAcked h => rw [h]; decide
  | rendIntroAcked _ _ h | rendJoined h => rcases h with h | h <;> rw [h] <;> decide

theorem step_ackWaitKey (hwf : (s.circuits.circ i).WellFormed) (hadm : s.admissible e = true)
    (hi : i < s.circuits.count)
    (hw : ((s.step X e).1.circuits.circ i).purpose = .cIntroduceAckWait) :
    ((s.step X e).1.circuits.circ i).hsIdent.introAuthPk ≠ 0 := by
  have hkey := (step_hsIdent (X := X) e hi).2
  rcases step_purpose (X := X) e hi with hp | hp
  · rw [hw] at hp
    rcases hkey with ⟨hk, -⟩ | ⟨_, rfl, hintro⟩ | ⟨_, _, rfl, -⟩
    · rw [hk]; exact hwf.ackWaitKey hp.symm
    · rw [← hp] at hintro; cases hintro
    · simp only [admissible, Bool.and_eq_true, beq_iff_eq] at hadm
      exact absurd (hp.trans hadm.2) (by decide)
  · obtain ⟨rend, sent, rfl, -, hok⟩ := (hw ▸ hp).ackWait
    have hpk : (s.circuits.circ i).hsIdent.introAuthPk ≠ 0 := by
      simp only [introCircIsOk, hsIdentIntroCircIsValid, Bool.and_eq_true, bne_iff_ne] at hok
      exact hok.2.2
    rcases hkey with ⟨hk, -⟩ | ⟨_, h, -⟩ | ⟨_, _, h, -⟩
    · rw [hk]; exact hpk
    · cases h
    · cases h
      simp only [admissible, Bool.and_eq_true, beq_iff_eq] at hadm
      exact absurd (hadm.1.1.2.symm.trans hadm.2) (by decide)

theorem step_wellFormed (hwf : s.circuits.WellFormed) (hadm : s.admissible e = true) :
    (s.step X e).1.circuits.WellFormed := by
  intro i hi'
  by_cases hi : i < s.circuits.count
  · have hpre := hwf i hi
    refine hpre.of_step (step_hsIdent e hi).1 (step_kind e hi) (step_ackWaitKey hpre hadm hi)
      fun ha => ?_
    rcases step_purpose (X := X) e hi with hp | hp
    · exact step_marked e hi (hpre.ackedMarked (hp ▸ ha))
    · exact (ha ▸ hp).acked
  · rcases step_count_cases (X := X) (s := s) e with h | ⟨h, hnew⟩
    · omega
    · obtain rfl : i = s.circuits.count := by omega
      rcases hnew with ⟨k, ei, re, h⟩ | ⟨k, rp, c, kp, re, h⟩ <;> rw [h]
      · exact .introCircuitLaunched k ei re
      · exact .rendCircuitLaunched k rp c kp re

/-- The law of one admissible callback for intro circuits: only a successful
`send_introduce1` makes a circuit wait for the ACK, `INTRODUCE_ACKED` is final,
and an INTRODUCE_ACK outside `INTRODUCE_ACK_WAIT` only closes its circuit as a
protocol violation. -/
structure IntroStepLawful (X : Collaborators) (s : ClientCore) (e : Event) : Prop where
  ackWait : ∀ i < s.circuits.count, (s.circuits.circ i).purpose ≠ .cIntroduceAckWait →
    ((s.step X e).1.circuits.circ i).purpose = .cIntroduceAckWait →
    ∃ rend sent, e = .sendIntroduce1 i rend sent ∧ (s.step X e).2 = 0
  acked : ∀ i < s.circuits.count, (s.circuits.circ i).purpose = .cIntroduceAcked →
    ((s.step X e).1.circuits.circ i).purpose = .cIntroduceAcked
  unexpectedAck : ∀ c payload picks extendFailure,
    e = .receiveIntroduceAck c payload picks extendFailure →
    (s.circuits.circ c).purpose ≠ .cIntroduceAckWait →
    s.step X e = ({ s with circuits := s.circuits.markForClose c .torprotocol }, -1) ∧
    ((s.step X e).1.circuits.circ c).markedForClose = some .torprotocol

theorem step_introStepLawful (hadm : s.admissible e = true) : IntroStepLawful X s e where
  ackWait i hi hne hw := by
    rcases step_purpose (X := X) e hi with hp | hp
    · exact absurd (hp ▸ hw) hne
    · obtain ⟨rend, sent, rfl, h0, -⟩ := (hw ▸ hp).ackWait
      exact ⟨rend, sent, rfl, h0⟩
  acked i hi ha := by
    rcases step_purpose (X := X) e hi with hp | hp
    · rw [hp, ha]
    · exact absurd ha (hp.pre_ne_acked hadm)
  unexpectedAck c payload picks extendFailure he hne := by
    subst he
    have hlive : (s.circuits.circ c).markedForClose = none := by
      simp only [admissible, liveCircuit, Bool.and_eq_true, Option.isNone_iff_eq_none] at hadm
      exact hadm.2
    have hr : s.step X (.receiveIntroduceAck c payload picks extendFailure) =
        ({ s with circuits := s.circuits.markForClose c .torprotocol }, -1) := by
      simp [step, hsClientReceiveIntroduceAck, hne]
    exact ⟨hr, by rw [hr]; simp [hlive]⟩

end ClientCore

/-- In every reachable state every circuit is well formed (an intro circuit is
`INTRODUCING`, `INTRODUCE_ACK_WAIT` with its auth key set, or `INTRODUCE_ACKED`
and marked for close), and every admissible callback obeys the intro-circuit
law. -/
theorem intro_circuit_lifecycle {X : Collaborators} {s : ClientCore} (hs : Reachable X s) :
    s.circuits.WellFormed ∧ ∀ e, s.admissible e = true → ClientCore.IntroStepLawful X s e := by
  refine ⟨?_, fun e hadm => ClientCore.step_introStepLawful hadm⟩
  induction hs with
  | init => intro i hi; exact absurd hi (Nat.not_lt_zero i)
  | step _ hadm ih => exact ClientCore.step_wellFormed ih hadm

theorem intro_circuit_lifecycle_introduction :
    Reachable sampleCollaborators sampleIntroduction ∧ sampleIntroduction.circuits.WellFormed ∧
    ∀ e, sampleIntroduction.admissible e = true →
      ClientCore.IntroStepLawful sampleCollaborators sampleIntroduction e :=
  ⟨reachable_sampleIntroduction, intro_circuit_lifecycle reachable_sampleIntroduction⟩

/-! ## A NACK on a circuit waiting for the ACK -/

open ClientCore CircuitTable in
/-- A NACK (FAILURE, BADFMT or NORELAY) on a live intro circuit waiting for the
ACK: the failure cache holds an error for its intro point, and the circuit is
re-extended to a usable intro point with another auth key, or closed as
finished for want of RELAY_EARLY cells, every other circuit untouched; or it
is abandoned together with the rendezvous circuit registered under its
cookie. -/
theorem introduce_nack_outcome (X : Collaborators) (s : ClientCore) (I : Nat) (payload : Payload)
    (picks : List Nat) (extendFailure : Option CircEndReason)
    (hI : (s.circuits.circ I).purpose = .cIntroduceAckWait)
    (hlive : (s.circuits.circ I).markedForClose = none)
    (hnack : X.hsCellParseIntroduceAck payload = hsCellIntroAckFailure ∨
      X.hsCellParseIntroduceAck payload = hsCellIntroAckBadfmt ∨
      X.hsCellParseIntroduceAck payload = hsCellIntroAckNorelay) :
    let S := (s.circuits.circ I).hsIdent.identityPk
    let k := (s.circuits.circ I).hsIdent.introAuthPk
    let r := s.step X (.receiveIntroduceAck I payload picks extendFailure)
    (∃ st, r.1.introStateCache (S, k) = some st ∧ st.error = true) ∧
    ((r.2 = 0 ∧ (r.1.circuits.circ I).markedForClose = none ∧
        (r.1.circuits.circ I).purpose = .cIntroducing ∧
        (r.1.circuits.circ I).remainingRelayEarlyCells + 1 =
          (s.circuits.circ I).remainingRelayEarlyCells ∧
        (∃ desc ip ei, s.descCache S = some desc ∧ ip ∈ desc.introPoints ∧
          introPointIsUsable r.1.introStateCache S ip = true ∧ ip.authKey ≠ k ∧
          descIntroPointToExtendInfo s.options ip = some ei ∧
            (r.1.circuits.circ I).chosenExit = some ei) ∧
        ∀ j ≠ I, r.1.circuits.circ j = s.circuits.circ j) ∨
      (r.2 = 0 ∧ (s.circuits.circ I).remainingRelayEarlyCells = 0 ∧
        (r.1.circuits.circ I).markedForClose = some .finished ∧
        ∀ j ≠ I, r.1.circuits.circ j = s.circuits.circ j) ∨
      (r.2 = -1 ∧ (r.1.circuits.circ I).markedForClose.isSome ∧
        ∀ R, s.circuits.rendMap (s.circuits.circ I).hsIdent.rendezvousCookie = some R →
          (s.circuits.circ R).purpose.IsRend → (r.1.circuits.circ R).markedForClose.isSome)) := by
  dsimp only
  simp only [step, hsClientReceiveIntroduceAck_of_nack picks extendFailure hI hnack]
  obtain ⟨hframe, -⟩ := closeOrReextendIntroCirc_spec (s := s.handleIntroduceAckBad I)
    I picks extendFailure
  refine ⟨by rw [hframe]; exact hsCacheClientIntroStateNote_error _ _ _ _, ?_⟩
  have hIR : ∀ R, (s.circuits.circ R).purpose.IsRend → R ≠ I := fun R hR hRI => by
    rw [hRI, hI] at hR; simp [CircuitPurpose.IsRend] at hR
  rcases closeOrReextendIntroCirc_cases (s := s.handleIntroduceAckBad I) I picks extendFailure with
    ⟨hnn, heq⟩ | ⟨hret, t, hmo, heq⟩
  · rw [heq]
    rcases hsClientReextendIntroCircuit_cases (s := s.handleIntroduceAckBad I)
      I picks extendFailure with
      ⟨ei, hei, hre, heq'⟩ | ⟨hre, heq'⟩ | ⟨hneg, -, -⟩
    · -- re-extended to the exit of a usable intro point
      left
      rw [heq']
      obtain ⟨desc, hdesc, ip, hip, husable, hext⟩ := clientGetRandomIntro_sound hei
      simp only [handleIntroduceAckBad, changePurpose_hsIdent, if_true] at hdesc husable hext hre
      simp only [changePurpose, modify_circ_self] at hre
      have hcirc : ∀ j, ((((s.handleIntroduceAckBad I).circuits.circuitExtendToNewExit I ei none
          ).1.setTimestampDirty I (s.handleIntroduceAckBad I).now).pathbiasMarkUseSuccess I).circ j =
          if j = I then
            { s.circuits.circ I with
              purpose := .cIntroducing, opened := false, chosenExit := some ei,
              remainingRelayEarlyCells := (s.circuits.circ I).remainingRelayEarlyCells - 1,
              timestampDirty := s.now, pathbiasUseSuccess := true }
          else s.circuits.circ j := fun j => by
        by_cases hj : j = I <;>
          simp [hj, handleIntroduceAckBad, circuitExtendToNewExit, setTimestampDirty,
            pathbiasMarkUseSuccess, changePurpose]
      refine ⟨rfl, by simp [hcirc, hlive], by simp [hcirc], by simp [hcirc]; omega,
        ⟨desc, ip, ei, hdesc, hip, husable, fun hk => ?_, hext, by simp [hcirc]⟩,
          fun j hj => by simp [hcirc, hj]⟩
      rw [← hk, introPointIsUsable_note_generic] at husable; cases husable
    · -- out of RELAY_EARLY cells
      right; left
      rw [heq']
      simp only [handleIntroduceAckBad, changePurpose_hsIdent] at hre
      refine ⟨rfl, by simpa [changePurpose] using hre, by simp [handleIntroduceAckBad, markForClose,
        pathbiasMarkUseSuccess, changePurpose, hlive], fun j hj => by
        simp [handleIntroduceAckBad, markForClose, pathbiasMarkUseSuccess, changePurpose, hj]⟩
    · rw [hneg] at hnn; exact absurd (by decide) hnn
  · -- abandoned with the rendezvous circuit
    right; right
    rw [heq]
    refine ⟨hret, by simpa using closeIntroAndRendCircs_marked_self t, fun R hR hrend => ?_⟩
    have hRI := hIR R hrend
    have hmark := closeIntroAndRendCircs_marked_rend (c := I) t (r := R)
      (by rw [hmo.rendMap, hmo.hsIdent]; simpa [handleIntroduceAckBad] using hR)
      (by rw [hmo.purpose]; simpa [handleIntroduceAckBad, hRI] using hrend)
    simpa using hmark

/-- `sampleIntroduction` with a descriptor of two intro points, on relays `5` and
`6`, after INTRODUCE1 went out on the circuit to the first. -/
def samplePairHandshake : ClientCore :=
  (ClientCore.init sampleOptions sampleNetwork 0).run sampleCollaborators
    [.newStream 1, .dirFetchDone 1 (some excludedPairDescriptor), .launchIntroCircuit 1 [0] 8,
     .launchRendCircuit 1 sampleRendezvousPoint 6 ⟨11, 12⟩ 8, .circuitHasOpened 0 true,
     .circuitHasOpened 1 true, .receiveRendezvousAcked 1 [], .sendIntroduce1 0 1 true]

theorem introduce_nack_outcome_handshake :
    ((sampleHandshake.circuits.circ 0).purpose = .cIntroduceAckWait ∧
      (sampleHandshake.circuits.circ 0).markedForClose = none ∧
      (sampleCollaborators.hsCellParseIntroduceAck [1] = hsCellIntroAckFailure ∨
        sampleCollaborators.hsCellParseIntroduceAck [1] = hsCellIntroAckBadfmt ∨
        sampleCollaborators.hsCellParseIntroduceAck [1] = hsCellIntroAckNorelay) ∧
      let S := (sampleHandshake.circuits.circ 0).hsIdent.identityPk
      let k := (sampleHandshake.circuits.circ 0).hsIdent.introAuthPk
      let r := sampleHandshake.step sampleCollaborators (.receiveIntroduceAck 0 [1] [] none)
      (∃ st, r.1.introStateCache (S, k) = some st ∧ st.error = true) ∧
      ((r.2 = 0 ∧ (r.1.circuits.circ 0).markedForClose = none ∧
          (r.1.circuits.circ 0).purpose = .cIntroducing ∧
          (r.1.circuits.circ 0).remainingRelayEarlyCells + 1 =
            (sampleHandshake.circuits.circ 0).remainingRelayEarlyCells ∧
          (∃ desc ip ei, sampleHandshake.descCache S = some desc ∧ ip ∈ desc.introPoints ∧
            introPointIsUsable r.1.introStateCache S ip = true ∧ ip.authKey ≠ k ∧
            descIntroPointToExtendInfo sampleHandshake.options ip = some ei ∧
            (r.1.circuits.circ 0).chosenExit = some ei) ∧
          ∀ j ≠ 0, r.1.circuits.circ j = sampleHandshake.circuits.circ j) ∨
        (r.2 = 0 ∧ (sampleHandshake.circuits.circ 0).remainingRelayEarlyCells = 0 ∧
          (r.1.circuits.circ 0).markedForClose = some .finished ∧
          ∀ j ≠ 0, r.1.circuits.circ j = sampleHandshake.circuits.circ j) ∨
        (r.2 = -1 ∧ (r.1.circuits.circ 0).markedForClose.isSome ∧
          ∀ R, sampleHandshake.circuits.rendMap
              (sampleHandshake.circuits.circ 0).hsIdent.rendezvousCookie = some R →
            (sampleHandshake.circuits.circ R).purpose.IsRend →
              (r.1.circuits.circ R).markedForClose.isSome))) ∧
    (((samplePairHandshake.circuits.circ 0).purpose = .cIntroduceAckWait ∧
        (samplePairHandshake.circuits.circ 0).markedForClose = none ∧
        (sampleCollaborators.hsCellParseIntroduceAck [1] = hsCellIntroAckFailure ∨
          sampleCollaborators.hsCellParseIntroduceAck [1] = hsCellIntroAckBadfmt ∨
          sampleCollaborators.hsCellParseIntroduceAck [1] = hsCellIntroAckNorelay) ∧
        let S := (samplePairHandshake.circuits.circ 0).hsIdent.identityPk
        let k := (samplePairHandshake.circuits.circ 0).hsIdent.introAuthPk
        let r :=
          samplePairHandshake.step sampleCollaborators (.receiveIntroduceAck 0 [1] [0] none)
        (∃ st, r.1.introStateCache (S, k) = some st ∧ st.error = true) ∧
        ((r.2 = 0 ∧ (r.1.circuits.circ 0).markedForClose = none ∧
            (r.1.circuits.circ 0).purpose = .cIntroducing ∧
            (r.1.circuits.circ 0).remainingRelayEarlyCells + 1 =
              (samplePairHandshake.circuits.circ 0).remainingRelayEarlyCells ∧
            (∃ desc ip ei,
              samplePairHandshake.descCache S = some desc ∧ ip ∈ desc.introPoints ∧
              introPointIsUsable r.1.introStateCache S ip = true ∧ ip.authKey ≠ k ∧
              descIntroPointToExtendInfo samplePairHandshake.options ip = some ei ∧
              (r.1.circuits.circ 0).chosenExit = some ei) ∧
            ∀ j ≠ 0, r.1.circuits.circ j = samplePairHandshake.circuits.circ j) ∨
          (r.2 = 0 ∧ (samplePairHandshake.circuits.circ 0).remainingRelayEarlyCells = 0 ∧
            (r.1.circuits.circ 0).markedForClose = some .finished ∧
            ∀ j ≠ 0, r.1.circuits.circ j = samplePairHandshake.circuits.circ j) ∨
          (r.2 = -1 ∧ (r.1.circuits.circ 0).markedForClose.isSome ∧
            ∀ R, samplePairHandshake.circuits.rendMap
                (samplePairHandshake.circuits.circ 0).hsIdent.rendezvousCookie = some R →
              (samplePairHandshake.circuits.circ R).purpose.IsRend →
                (r.1.circuits.circ R).markedForClose.isSome))) ∧
      ((samplePairHandshake.step sampleCollaborators
        (.receiveIntroduceAck 0 [1] [0] none)).1.circuits.circ 0).chosenExit =
        some ⟨6, none, 8, 2, 80⟩) :=
  ⟨⟨by decide, by decide, .inl rfl,
      introduce_nack_outcome sampleCollaborators sampleHandshake 0 [1] [] none (by decide)
        (by decide) (.inl rfl)⟩,
    ⟨by decide, by decide, .inl rfl,
      introduce_nack_outcome sampleCollaborators samplePairHandshake 0 [1] [0] none (by decide)
        (by decide) (.inl rfl)⟩, by decide⟩

/-! ## A repeated INTRODUCE_ACK -/

open ClientCore CircuitTable in
/-- After an INTRODUCE_ACK success the intro circuit is acknowledged and marked
for close, so a further INTRODUCE_ACK on it, whatever its status, is answered
with -1 and changes nothing. -/
theorem second_introduce_ack_noop (X : Collaborators) (s : ClientCore) (I : Nat)
    (payload : Payload) (picks : List Nat) (extendFailure : Option CircEndReason)
    (hI : (s.circuits.circ I).purpose = .cIntroduceAckWait)
    (hack : X.hsCellParseIntroduceAck payload = hsCellIntroAckSuccess)
    (payload' : Payload) (picks' : List Nat) (extendFailure' : Option CircEndReason) :
    let s₁ := (s.step X (.receiveIntroduceAck I payload picks extendFailure)).1
    s₁.step X (.receiveIntroduceAck I payload' picks' extendFailure') = (s₁, -1) := by
  dsimp only
  simp only [step, hsClientReceiveIntroduceAck_of_success picks extendFailure hI hack]
  have hm : (((s.circuits.handleIntroduceAckSuccess I s.now).pathbiasMarkUseSuccess I).circ
      I).markedForClose.isSome := by
    simp [handleIntroduceAckSuccess_markedForClose]
  simp [hsClientReceiveIntroduceAck, handleIntroduceAckSuccess_purpose,
    markForClose_of_isSome _ _ hm]

theorem second_introduce_ack_noop_handshake :
    (sampleHandshake.circuits.circ 0).purpose = .cIntroduceAckWait ∧
    sampleCollaborators.hsCellParseIntroduceAck [0] = hsCellIntroAckSuccess ∧
    let s₁ := (sampleHandshake.step sampleCollaborators (.receiveIntroduceAck 0 [0] [] none)).1
    s₁.step sampleCollaborators (.receiveIntroduceAck 0 [1] [] none) = (s₁, -1) :=
  ⟨by decide, rfl, second_introduce_ack_noop _ _ 0 [0] [] none (by decide) rfl [1] [] none⟩

end HsClient
