import HsClient.EventLoop

/-!
# What one event does to one circuit

Every event, admissible or not, changes a circuit already in the table in few
ways: its type never changes, a close mark is never lifted, its intro keys are
written only when it opens as an intro circuit (the auth key) or when a
successful INTRODUCE1 names it as the rendezvous circuit, and its purpose moves
only along the edges of `PurposeChange`, each taken by one callback after the
check that callback makes. The table only grows, by circuits the driver
launched. The lifecycle laws of both kinds of circuit are derived from these
lemmas without unfolding a handler again.
-/

namespace HsClient

namespace ClientCore

open CircuitTable

variable (X : Collaborators) (s : ClientCore)

/-- The purpose changes of circuit `i`: the event that makes each, with what
its callback checked. -/
inductive PurposeChange (i : Nat) : Event → CircuitPurpose → Prop
  | introduce1Sent {rend : Nat} {sent : Bool} :
      (s.sendIntroduce1 X i rend sent).2 = 0 → introCircIsOk (s.circuits.circ i) = true →
      PurposeChange i (.sendIntroduce1 i rend sent) .cIntroduceAckWait
  | rendezvousAcked {payload : Payload} : (s.circuits.circ i).purpose = .cEstablishRend →
      PurposeChange i (.receiveRendezvousAcked i payload) .cRendReady
  | introduceNacked {payload : Payload} {picks : List Nat} {extendFailure : Option CircEndReason} :
      (s.circuits.circ i).purpose = .cIntroduceAckWait →
      PurposeChange i (.receiveIntroduceAck i payload picks extendFailure) .cIntroducing
  | introduceAcked {payload : Payload} {picks : List Nat} {extendFailure : Option CircEndReason} :
      (s.circuits.circ i).purpose = .cIntroduceAckWait →
      ((s.step X (.receiveIntroduceAck i payload picks extendFailure)).1.circuits.circ i
        ).markedForClose.isSome →
      PurposeChange i (.receiveIntroduceAck i payload picks extendFailure) .cIntroduceAcked
  | rendIntroAcked {c : Nat} {payload : Payload} {picks : List Nat}
      {extendFailure : Option CircEndReason} : c ≠ i →
      (s.circuits.circ c).purpose = .cIntroduceAckWait →
      ((s.circuits.circ i).purpose = .cRendReady ∨
        (s.circuits.circ i).purpose = .cRendReadyIntroAcked) →
      PurposeChange i (.receiveIntroduceAck c payload picks extendFailure) .cRendReadyIntroAcked
  | rendJoined {payload : Payload} :
      ((s.circuits.circ i).purpose = .cRendReady ∨
        (s.circuits.circ i).purpose = .cRendReadyIntroAcked) →
      PurposeChange i (.receiveRendezvous2 i payload) .cRendJoined

variable {X s}

theorem PurposeChange.kind {i : Nat} {e : Event} {p : CircuitPurpose}
    (h : PurposeChange X s i e p) :
    ((s.circuits.circ i).purpose.IsIntro → p.IsIntro) ∧
      ((s.circuits.circ i).purpose.IsRend → p.IsRend) := by
  cases h with
  | introduce1Sent _ hok =>
    exact ⟨fun _ => by decide, fun hr => absurd (introCircIsOk_isIntro hok)
      (CircuitPurpose.not_isIntro_of_isRend hr)⟩
  | rendezvousAcked h | introduceNacked h | introduceAcked h => rw [h]; decide
  | rendIntroAcked _ _ h | rendJoined h => rcases h with h | h <;> rw [h] <;> decide

theorem step_purpose (e : Event) {i : Nat} (hi : i < s.circuits.count) :
    ((s.step X e).1.circuits.circ i).purpose = (s.circuits.circ i).purpose ∨
      PurposeChange X s i e ((s.step X e).1.circuits.circ i).purpose := by
  cases e
  case sendIntroduce1 intro rend sent =>
    by_cases h0 : (s.sendIntroduce1 X intro rend sent).2 = 0
    · obtain ⟨desc, ip, hok, -, -, rfl, heq⟩ := sendIntroduce1_success h0
      simp only [step, heq, introduce1Sent_purpose, hsCircSendIntroduce1_true_purpose]
      split
      · subst i; exact .inr (.introduce1Sent h0 hok)
      · exact .inl rfl
    · exact .inl ((sendIntroduce1_failure h0).purpose i)
  case circuitHasOpened c established =>
    exact .inl ((step_circuitHasOpened X s c established).2.2 i).1
  case receiveRendezvousAcked c payload =>
    simp only [step, (hsClientReceiveRendezvousAcked_spec c).2.2 i]
    split
    · rename_i h; obtain ⟨rfl, h⟩ := h; exact .inr (.rendezvousAcked h)
    · exact .inl rfl
  case receiveIntroduceAck c payload picks extendFailure =>
    rcases (hsClientReceiveIntroduceAck_spec (X := X) (s := s)
      c payload picks extendFailure).2.2 i with
      h | ⟨hc, ⟨rfl, h | ⟨h, hm⟩⟩ | ⟨hne, hp, h⟩⟩
    · exact .inl h
    · right; simp only [step] at h ⊢; rw [h]; exact .introduceNacked hc
    · right; simp only [step] at h hm ⊢; rw [h]; exact .introduceAcked hc hm
    · right; simp only [step] at h ⊢; rw [h]; exact .rendIntroAcked (Ne.symm hne) hc hp
  case receiveRendezvous2 c payload =>
    rcases hsClientReceiveRendezvous2_cases (X := X) (s := s) c payload with
      ⟨_, _, hp, -, -, heq⟩ | ⟨-, heq⟩
    · simp only [step, heq, hsCircuitSetupE2eRendCirc_purpose]
      split
      · subst i; exact .inr (.rendJoined hp)
      · exact .inl rfl
    · exact .inl (by simp [step, heq])
  case launchIntroCircuit k picks relayEarly =>
    left; simp only [step]; split <;> simp [launch_circ_of_lt _ _ hi]
  case launchRendCircuit k rp cookie kp relayEarly =>
    exact .inl (by simp [step, launch_circ_of_lt _ _ hi])
  case circuitClosed c reason => exact .inl (by simp [step])
  all_goals exact .inl (by rw [step_circuits_of_quiet X s (by rfl)])

theorem step_kind (e : Event) {i : Nat} (hi : i < s.circuits.count) :
    ((s.circuits.circ i).purpose.IsIntro → ((s.step X e).1.circuits.circ i).purpose.IsIntro) ∧
    ((s.circuits.circ i).purpose.IsRend → ((s.step X e).1.circuits.circ i).purpose.IsRend) := by
  rcases step_purpose (X := X) e hi with hp | hp
  · rw [hp]; exact ⟨id, id⟩
  · exact hp.kind

theorem step_hsIdent_cases (e : Event) {i : Nat} (hi : i < s.circuits.count) :
    ((s.step X e).1.circuits.circ i).hsIdent = (s.circuits.circ i).hsIdent ∨
      (∃ established k, e = .circuitHasOpened i established ∧
        (s.circuits.circ i).purpose = .cIntroducing ∧
        ((s.step X e).1.circuits.circ i).hsIdent =
          { (s.circuits.circ i).hsIdent with introAuthPk := k }) ∨
      (∃ rend sent cookie, e = .sendIntroduce1 i rend sent ∧
        introCircIsOk (s.circuits.circ i) = true ∧
        ((s.step X e).1.circuits.circ i).hsIdent =
          { (s.circuits.circ i).hsIdent with rendezvousCookie := cookie }) ∨
      ∃ intro sent encPk authPk, e = .sendIntroduce1 intro i sent ∧ (s.step X e).2 = 0 ∧
        ((s.step X e).1.circuits.circ i).hsIdent =
          { (s.circuits.circ i).hsIdent with introEncPk := encPk, introAuthPk := authPk } := by
  cases e
  case sendIntroduce1 intro rend sent =>
    by_cases h0 : (s.sendIntroduce1 X intro rend sent).2 = 0
    · obtain ⟨desc, ip, hok, -, -, rfl, heq⟩ := sendIntroduce1_success h0
      by_cases hr : i = rend
      · subst hr
        refine .inr (.inr (.inr ⟨intro, true, ip.encKey,
          ((s.circuits.hsCircSendIntroduce1 intro i true).1.circ intro).hsIdent.introAuthPk,
          rfl, h0, ?_⟩))
        simp only [step, heq, introduce1Sent_hsIdent, if_true, hsCircSendIntroduce1_true_hsIdent]
        split
        · subst_vars; rfl
        · rfl
      · simp only [step, heq, introduce1Sent_hsIdent, hr, if_false,
          hsCircSendIntroduce1_true_hsIdent]
        split
        · subst i; exact .inr (.inr (.inl ⟨rend, true, _, rfl, hok, rfl⟩))
        · exact .inl rfl
    · exact .inl ((sendIntroduce1_failure h0).hsIdent i)
  case circuitHasOpened c established =>
    rcases ((step_circuitHasOpened X s c established).2.2 i).2.2.2 with h | ⟨rfl, hp, h⟩
    · exact .inl h
    · exact .inr (.inl ⟨established, _, rfl, hp, h⟩)
  case receiveRendezvousAcked c payload =>
    exact .inl ((hsClientReceiveRendezvousAcked_spec c).2.1.hsIdent i)
  case receiveIntroduceAck c payload picks extendFailure =>
    exact .inl ((hsClientReceiveIntroduceAck_spec (X := X) (s := s)
      c payload picks extendFailure).2.1.hsIdent i)
  case receiveRendezvous2 c payload =>
    rcases hsClientReceiveRendezvous2_cases (X := X) (s := s) c payload with
      ⟨_, _, -, -, -, heq⟩ | ⟨-, heq⟩ <;> exact .inl (by simp [step, heq])
  case launchIntroCircuit k picks relayEarly =>
    left; simp only [step]; split <;> simp [launch_circ_of_lt _ _ hi]
  case launchRendCircuit k rp cookie kp relayEarly =>
    exact .inl (by simp [step, launch_circ_of_lt _ _ hi])
  case circuitClosed c reason => exact .inl (by simp [step])
  all_goals exact .inl (by rw [step_circuits_of_quiet X s (by rfl)])

theorem step_identityPk (e : Event) {i : Nat} (hi : i < s.circuits.count) :
    ((s.step X e).1.circuits.circ i).hsIdent.identityPk = (s.circuits.circ i).hsIdent.identityPk := by
  rcases step_hsIdent_cases e hi with h | ⟨_, _, _, _, h⟩ | ⟨_, _, _, _, _, h⟩ |
    ⟨_, _, _, _, _, _, h⟩ <;> rw [h]

theorem step_hsIdent (e : Event) {i : Nat} (hi : i < s.circuits.count) :
    ((s.step X e).1.circuits.circ i).hsIdent.circuitType = (s.circuits.circ i).hsIdent.circuitType ∧
    ((((s.step X e).1.circuits.circ i).hsIdent.introAuthPk =
      (s.circuits.circ i).hsIdent.introAuthPk ∧
        ((s.step X e).1.circuits.circ i).hsIdent.introEncPk =
          (s.circuits.circ i).hsIdent.introEncPk) ∨
      (∃ established, e = .circuitHasOpened i established ∧
        (s.circuits.circ i).purpose = .cIntroducing) ∨
      ∃ intro sent, e = .sendIntroduce1 intro i sent ∧ (s.step X e).2 = 0) := by
  rcases step_hsIdent_cases e hi with h | ⟨est, k, rfl, hp, h⟩ | ⟨rend, sent, cookie, rfl, -, h⟩ |
    ⟨intro, sent, _, _, rfl, h0, h⟩
  · exact ⟨by rw [h], .inl ⟨by rw [h], by rw [h]⟩⟩
  · exact ⟨by rw [h], .inr (.inl ⟨est, rfl, hp⟩)⟩
  · exact ⟨by rw [h], .inl ⟨by rw [h], by rw [h]⟩⟩
  · exact ⟨by rw [h], .inr (.inr ⟨intro, sent, rfl, h0⟩)⟩

theorem step_rendezvousCookie (e : Event) {i : Nat} (hi : i < s.circuits.count)
    (hrend : (s.circuits.circ i).purpose.IsRend) :
    ((s.step X e).1.circuits.circ i).hsIdent.rendezvousCookie =
      (s.circuits.circ i).hsIdent.rendezvousCookie := by
  rcases step_hsIdent_cases e hi with h | ⟨_, _, _, _, h⟩ | ⟨_, _, _, _, hok, -⟩ |
    ⟨_, _, _, _, _, _, h⟩
  · rw [h]
  · rw [h]
  · exact absurd (introCircIsOk_isIntro hok) (CircuitPurpose.not_isIntro_of_isRend hrend)
  · rw [h]

theorem step_rendMap (e : Event) :
    (s.step X e).1.circuits.rendMap = s.circuits.rendMap ∨
    ∃ c established, e = .circuitHasOpened c established ∧
      (s.circuits.circ c).purpose = .cEstablishRend ∧
      (s.step X e).1.circuits.rendMap =
        Function.update s.circuits.rendMap (s.circuits.circ c).hsIdent.rendezvousCookie (some c) := by
  cases e
  case sendIntroduce1 intro rend sent =>
    by_cases h0 : (s.sendIntroduce1 X intro rend sent).2 = 0
    · obtain ⟨desc, ip, -, -, -, rfl, heq⟩ := sendIntroduce1_success h0
      exact .inl (by simp [step, heq])
    · exact .inl (sendIntroduce1_failure h0).rendMap
  case circuitHasOpened c established =>
    let s' : ClientCore :=
      { s with circuits := s.circuits.modify c fun o => { o with opened := true } }
    have hc : s'.circuits.circ c = { s.circuits.circ c with opened := true } := by simp [s']
    rw [show (s.step X (.circuitHasOpened c established)).1 = s'.hsClientCircuitHasOpened c established
      from rfl]
    unfold hsClientCircuitHasOpened
    split
    · obtain ⟨t, ht, -, hmap, -⟩ := setupIntroCircAuthKey_spec (s := s') c
      exact .inl (by rw [clientIntroCircHasOpened, ht]; exact hmap)
    · rename_i hp
      rw [hc] at hp
      rcases clientRendezvousCircHasOpened_rendMap (s := s') c established with h | h
      · exact .inl h
      · exact .inr ⟨c, established, rfl, hp, h.trans (by rw [hc]; rfl)⟩
    · exact .inl rfl
  case receiveRendezvousAcked c payload =>
    exact .inl (hsClientReceiveRendezvousAcked_spec c).2.1.rendMap
  case receiveIntroduceAck c payload picks extendFailure =>
    exact .inl (hsClientReceiveIntroduceAck_spec (X := X) (s := s)
      c payload picks extendFailure).2.1.rendMap
  case receiveRendezvous2 c payload =>
    rcases hsClientReceiveRendezvous2_cases (X := X) (s := s) c payload with
      ⟨_, _, -, -, -, heq⟩ | ⟨-, heq⟩ <;> exact .inl (by simp [step, heq])
  case launchIntroCircuit k picks relayEarly =>
    left; simp only [step]; split <;> rfl
  case launchRendCircuit k rp cookie kp relayEarly => exact .inl rfl
  case circuitClosed c reason => exact .inl rfl
  all_goals exact .inl (by rw [step_circuits_of_quiet X s (by rfl)])

theorem step_marked (e : Event) {i : Nat} (hi : i < s.circuits.count)
    (hm : (s.circuits.circ i).markedForClose.isSome) :
    ((s.step X e).1.circuits.circ i).markedForClose.isSome := by
  cases e
  case sendIntroduce1 intro rend sent =>
    by_cases h0 : (s.sendIntroduce1 X intro rend sent).2 = 0
    · obtain ⟨desc, ip, -, -, -, rfl, heq⟩ := sendIntroduce1_success h0
      simpa [step, heq] using hm
    · exact (sendIntroduce1_failure h0).isSome hm
  case circuitHasOpened c established =>
    exact ((step_circuitHasOpened X s c established).2.2 i).2.2.1 hm
  case receiveRendezvousAcked c payload =>
    exact (hsClientReceiveRendezvousAcked_spec c).2.1.marked i hm
  case receiveIntroduceAck c payload picks extendFailure =>
    exact (hsClientReceiveIntroduceAck_spec (X := X) (s := s)
      c payload picks extendFailure).2.1.marked i hm
  case receiveRendezvous2 c payload =>
    rcases hsClientReceiveRendezvous2_cases (X := X) (s := s) c payload with
      ⟨_, _, -, -, -, heq⟩ | ⟨-, heq⟩
    · simpa [step, heq] using hm
    · simp only [step, heq]; exact (markForClose_marksOnly _ _ _).isSome hm
  case launchIntroCircuit k picks relayEarly =>
    simp only [step]; split <;> simpa [launch_circ_of_lt _ _ hi] using hm
  case launchRendCircuit k rp cookie kp relayEarly => simpa [step, launch_circ_of_lt _ _ hi] using hm
  case circuitClosed c reason => exact (markForClose_marksOnly _ _ _).isSome hm
  all_goals rw [step_circuits_of_quiet X s (by rfl)]; exact hm

theorem step_count_or_launch (e : Event) :
    (s.step X e).1.circuits.count = s.circuits.count ∨
    (∃ k picks relayEarly ei, e = .launchIntroCircuit k picks relayEarly ∧
      clientGetRandomIntro s.descCache s.introStateCache s.options k picks = some ei ∧
      (s.step X e).1 =
        { s with circuits := s.circuits.launch (introCircuitLaunched k ei relayEarly) }) ∨
    ∃ k rp cookie kp relayEarly, e = .launchRendCircuit k rp cookie kp relayEarly ∧
      (s.step X e).1 =
        { s with circuits := s.circuits.launch (rendCircuitLaunched k rp cookie kp relayEarly) } := by
  cases e
  case sendIntroduce1 intro rend sent =>
    by_cases h0 : (s.sendIntroduce1 X intro rend sent).2 = 0
    · obtain ⟨desc, ip, -, -, -, rfl, heq⟩ := sendIntroduce1_success h0
      exact .inl (by simp [step, heq])
    · exact .inl (sendIntroduce1_failure h0).count
  case circuitHasOpened c established => exact .inl (step_circuitHasOpened X s c established).2.1
  case receiveRendezvousAcked c payload =>
    exact .inl (hsClientReceiveRendezvousAcked_spec c).2.1.count
  case receiveIntroduceAck c payload picks extendFailure =>
    exact .inl (hsClientReceiveIntroduceAck_spec (X := X) (s := s)
      c payload picks extendFailure).2.1.count
  case receiveRendezvous2 c payload =>
    rcases hsClientReceiveRendezvous2_cases (X := X) (s := s) c payload with
      ⟨_, _, -, -, -, heq⟩ | ⟨-, heq⟩ <;> exact .inl (by simp [step, heq])
  case launchIntroCircuit k picks relayEarly =>
    cases hp : clientGetRandomIntro s.descCache s.introStateCache s.options k picks with
    | none => exact .inl (by simp [step, hp])
    | some ei => exact .inr (.inl ⟨k, picks, relayEarly, ei, rfl, hp, by simp [step, hp]⟩)
  case launchRendCircuit k rp cookie kp relayEarly => exact .inr (.inr ⟨k, rp, cookie, kp, relayEarly, rfl, rfl⟩)
  case circuitClosed c reason => exact .inl rfl
  all_goals exact .inl (by rw [step_circuits_of_quiet X s (by rfl)])

theorem step_count_cases (e : Event) :
    (s.step X e).1.circuits.count = s.circuits.count ∨
    (s.step X e).1.circuits.count = s.circuits.count + 1 ∧
      ((∃ k ei relayEarly, (s.step X e).1.circuits.circ s.circuits.count =
          introCircuitLaunched k ei relayEarly) ∨
        ∃ k rp cookie kp relayEarly, (s.step X e).1.circuits.circ s.circuits.count =
          rendCircuitLaunched k rp cookie kp relayEarly) := by
  rcases step_count_or_launch (X := X) (s := s) e with h | ⟨k, -, relayEarly, ei, -, -, heq⟩ |
    ⟨k, rp, cookie, kp, relayEarly, -, heq⟩
  · exact .inl h
  · exact .inr ⟨by rw [heq]; rfl, .inl ⟨k, ei, relayEarly, by rw [heq]; simp⟩⟩
  · exact .inr ⟨by rw [heq]; rfl, .inr ⟨k, rp, cookie, kp, relayEarly, by rw [heq]; simp⟩⟩

theorem step_count_mono (e : Event) : s.circuits.count ≤ (s.step X e).1.circuits.count := by
  rcases step_count_cases (X := X) (s := s) e with h | ⟨h, -⟩ <;> omega

end ClientCore

end HsClient
