import HsClient.CircuitSteps

/-!
# Exits and the RELAY_EARLY budget

`hs_client.c` has three kinds of cell sent past a circuit's first hop, each
going out as RELAY_EARLY while the circuit has such cells left: INTRODUCE1 on an
intro circuit, ESTABLISH_RENDEZVOUS on a rendezvous circuit, and the EXTEND2 of
`hs_client_reextend_intro_circuit`, which re-extends an intro circuit on an
INTRODUCE_ACK NACK and only while cells are left. A circuit is launched with the
budget its build left; the cells a joined rendezvous circuit carries for its
streams are sent outside the client core. So an intro circuit spends its budget
one cell at a time, on INTRODUCE1 and on re-extensions, and nowhere else.

A re-extension's exit, like a launched intro circuit's, is what
`client_get_random_intro` returns: every exit an intro circuit is given is a
usable intro point of its service's cached descriptor.
-/

namespace HsClient

namespace CircuitTable

/-- `t'` keeps every circuit's exit and RELAY_EARLY budget. -/
structure KeepsExits (t t' : CircuitTable) : Prop where
  exit : ∀ i, (t'.circ i).chosenExit = (t.circ i).chosenExit
  budget : ∀ i, (t'.circ i).remainingRelayEarlyCells = (t.circ i).remainingRelayEarlyCells

namespace KeepsExits

variable {t t' t'' : CircuitTable}

theorem refl (t : CircuitTable) : KeepsExits t t := ⟨fun _ => rfl, fun _ => rfl⟩

theorem trans (h : KeepsExits t t') (h' : KeepsExits t' t'') : KeepsExits t t'' :=
  ⟨fun i => (h'.exit i).trans (h.exit i), fun i => (h'.budget i).trans (h.budget i)⟩

theorem exit_budget (h : KeepsExits t t') (i : Nat) :
    (t'.circ i).chosenExit = (t.circ i).chosenExit ∧
      (t'.circ i).remainingRelayEarlyCells = (t.circ i).remainingRelayEarlyCells :=
  ⟨h.exit i, h.budget i⟩

theorem of_marksOnly (h : MarksOnly t t') : KeepsExits t t' :=
  ⟨fun i => by rw [h.circ i], fun i => by rw [h.circ i]⟩

theorem modify {c : Nat} {f : OriginCircuit → OriginCircuit}
    (hx : ∀ o, (f o).chosenExit = o.chosenExit)
    (hb : ∀ o, (f o).remainingRelayEarlyCells = o.remainingRelayEarlyCells) :
    KeepsExits t (t.modify c f) :=
  ⟨modify_proj t _ hx, modify_proj t _ hb⟩

end KeepsExits

variable (t : CircuitTable) {c : Nat}

theorem markForClose_keepsExits (reason : CircEndReason) :
    KeepsExits t (t.markForClose c reason) :=
  .of_marksOnly (markForClose_marksOnly t c reason)

theorem changePurpose_keepsExits (p : CircuitPurpose) : KeepsExits t (t.changePurpose c p) :=
  .modify (fun _ => rfl) (fun _ => rfl)

theorem setTimestampDirty_keepsExits (now : Nat) : KeepsExits t (t.setTimestampDirty c now) :=
  .modify (fun _ => rfl) (fun _ => rfl)

theorem pathbiasMarkUseSuccess_keepsExits : KeepsExits t (t.pathbiasMarkUseSuccess c) :=
  .modify (fun _ => rfl) (fun _ => rfl)

theorem pathbiasCountUseAttempt_keepsExits : KeepsExits t (t.pathbiasCountUseAttempt c) :=
  .modify (fun _ => rfl) (fun _ => rfl)

theorem hsCircuitSetupE2eRendCirc_keepsExits (ntorKeySeed : Digest256) :
    KeepsExits t (t.hsCircuitSetupE2eRendCirc c ntorKeySeed) :=
  .modify (fun _ => rfl) (fun _ => rfl)

theorem introduce1Sent_keepsExits (intro rend : Nat) (ip : IntroPoint) (now : Nat) :
    KeepsExits t (t.introduce1Sent intro rend ip now) := by
  unfold introduce1Sent
  dsimp only
  refine (((?_ : KeepsExits t (t.modify rend _)).trans (changePurpose_keepsExits _ _)).trans
    (setTimestampDirty_keepsExits _ _)).trans (pathbiasCountUseAttempt_keepsExits _)
  apply KeepsExits.modify <;> intro <;> rfl

theorem closeIntroAndRendCircs_keepsExits : KeepsExits t (t.closeIntroAndRendCircs c) := by
  refine KeepsExits.trans ?_ (.of_marksOnly (closeIntroAndRendCircs_marksOnly t))
  split
  · exact (changePurpose_keepsExits t _).trans (markForClose_keepsExits _ _)
  · exact .refl t

theorem handleIntroduceAckSuccess_keepsExits (now : Nat) :
    KeepsExits t (t.handleIntroduceAckSuccess c now) := by
  unfold handleIntroduceAckSuccess
  refine KeepsExits.trans ?_ ((changePurpose_keepsExits _ _).trans (markForClose_keepsExits _ _))
  split
  · exact .refl t
  · split
    · exact .refl t
    · exact (changePurpose_keepsExits t _).trans (setTimestampDirty_keepsExits _ _)

end CircuitTable

namespace ClientCore

open CircuitTable

variable {X : Collaborators} {s : ClientCore}

theorem sendIntroduce1_exits (intro rend : Nat) (sent : Bool) (i : Nat) :
    ((s.sendIntroduce1 X intro rend sent).1.circuits.circ i).chosenExit =
      (s.circuits.circ i).chosenExit ∧
    (((s.sendIntroduce1 X intro rend sent).1.circuits.circ i).remainingRelayEarlyCells =
        (s.circuits.circ i).remainingRelayEarlyCells ∨
      i = intro ∧ sent = true ∧ (s.sendIntroduce1 X intro rend sent).2 = 0 ∧
      ((s.sendIntroduce1 X intro rend sent).1.circuits.circ i).remainingRelayEarlyCells =
        (s.circuits.circ i).remainingRelayEarlyCells - 1) := by
  by_cases h0 : (s.sendIntroduce1 X intro rend sent).2 = 0
  · obtain ⟨desc, ip, -, -, -, rfl, heq⟩ := sendIntroduce1_success h0
    have hk := introduce1Sent_keepsExits (s.circuits.hsCircSendIntroduce1 intro rend true).1
      intro rend ip s.now
    rw [heq, hk.exit i, hk.budget i, hsCircSendIntroduce1_true_chosenExit,
      hsCircSendIntroduce1_true_remainingRelayEarlyCells]
    split
    · subst i; exact ⟨rfl, .inr ⟨rfl, rfl, h0, rfl⟩⟩
    · exact ⟨rfl, .inl rfl⟩
  · have hk := KeepsExits.of_marksOnly (sendIntroduce1_failure h0)
    exact ⟨hk.exit i, .inl (hk.budget i)⟩

theorem hsClientCircuitHasOpened_exits (c : Nat) (established : Bool) (i : Nat) :
    ((s.hsClientCircuitHasOpened c established).circuits.circ i).chosenExit =
      (s.circuits.circ i).chosenExit ∧
    (((s.hsClientCircuitHasOpened c established).circuits.circ i).remainingRelayEarlyCells =
        (s.circuits.circ i).remainingRelayEarlyCells ∨
      i = c ∧ established = true ∧ (s.circuits.circ c).purpose = .cEstablishRend ∧
      ((s.hsClientCircuitHasOpened c established).circuits.circ i).remainingRelayEarlyCells =
        (s.circuits.circ i).remainingRelayEarlyCells - 1) := by
  unfold hsClientCircuitHasOpened
  split
  · obtain ⟨t, ht, -, -, hne, k, hk⟩ := setupIntroCircAuthKey_spec (s := s) c
    simp only [clientIntroCircHasOpened, ht]
    by_cases hi : i = c
    · subst hi; simp [hk]
    · simp [hne i hi]
  · rename_i hp
    rw [clientRendezvousCircHasOpened_circ]
    split
    · exact ⟨rfl, .inl rfl⟩
    unfold hsCircSendEstablishRendezvous
    split
    · -- ESTABLISH_RENDEZVOUS went out to the rendezvous point
      simp only [relaySendCommandFromEdge_chosenExit, relaySendCommandFromEdge_remainingRelayEarlyCells]
      split
      · subst i; exact ⟨trivial, .inr ⟨rfl, ‹_›, hp, rfl⟩⟩
      · exact ⟨trivial, .inl rfl⟩
    · exact ⟨(markForClose_keepsExits _ _).exit i, .inl ((markForClose_keepsExits _ _).budget i)⟩
  · exact ⟨rfl, .inl rfl⟩

theorem hsClientReceiveIntroduceAck_exits (c : Nat) (payload : Payload) (picks : List Nat)
    (extendFailure : Option CircEndReason) (i : Nat) :
    let r := (s.hsClientReceiveIntroduceAck X c payload picks extendFailure).1
    ((r.circuits.circ i).chosenExit = (s.circuits.circ i).chosenExit ∧
      (r.circuits.circ i).remainingRelayEarlyCells =
        (s.circuits.circ i).remainingRelayEarlyCells) ∨
    (i = c ∧ (s.circuits.circ c).purpose = .cIntroduceAckWait ∧
      (X.hsCellParseIntroduceAck payload = hsCellIntroAckFailure ∨
        X.hsCellParseIntroduceAck payload = hsCellIntroAckBadfmt ∨
        X.hsCellParseIntroduceAck payload = hsCellIntroAckNorelay) ∧
      (s.circuits.circ c).remainingRelayEarlyCells ≠ 0 ∧
      (r.circuits.circ c).remainingRelayEarlyCells + 1 =
        (s.circuits.circ c).remainingRelayEarlyCells ∧
      (r.circuits.circ c).purpose = .cIntroducing ∧ (r.circuits.circ c).opened = false ∧
      ∃ ei, (r.circuits.circ c).chosenExit = some ei ∧
        introExitFor r.descCache r.introStateCache r.options
          (s.circuits.circ c).hsIdent.identityPk ei = true) := by
  dsimp only
  by_cases hc : (s.circuits.circ c).purpose = .cIntroduceAckWait
  swap
  · -- an ACK outside `INTRODUCE_ACK_WAIT` only closes the circuit
    simp only [hsClientReceiveIntroduceAck, hc, ne_eq, not_false_eq_true, if_true]
    exact .inl ((markForClose_keepsExits _ _).exit_budget i)
  by_cases hack : X.hsCellParseIntroduceAck payload = hsCellIntroAckSuccess
  · rw [hsClientReceiveIntroduceAck_of_success picks extendFailure hc hack]
    exact .inl (((handleIntroduceAckSuccess_keepsExits _ _).trans
      (pathbiasMarkUseSuccess_keepsExits _)).exit_budget i)
  by_cases hnack : X.hsCellParseIntroduceAck payload = hsCellIntroAckFailure ∨
      X.hsCellParseIntroduceAck payload = hsCellIntroAckBadfmt ∨
      X.hsCellParseIntroduceAck payload = hsCellIntroAckNorelay
  swap
  · -- an unknown status is only logged
    simp only [hsClientReceiveIntroduceAck, hc, ne_eq, not_true_eq_false, if_false,
      handleIntroduceAck, hack, hnack]
    exact .inl ((pathbiasMarkUseSuccess_keepsExits _).exit_budget i)
  rw [hsClientReceiveIntroduceAck_of_nack picks extendFailure hc hnack]
  dsimp only
  have hbad : KeepsExits s.circuits (s.handleIntroduceAckBad c).circuits :=
    changePurpose_keepsExits _ _
  rcases closeOrReextendIntroCirc_cases (s := s.handleIntroduceAckBad c) c picks extendFailure with
    ⟨-, heq⟩ | ⟨-, t, hmo, heq⟩
  · rw [heq]
    rcases hsClientReextendIntroCircuit_cases (s := s.handleIntroduceAckBad c) c picks
      extendFailure with ⟨ei, hei, hre, heq'⟩ | ⟨-, heq'⟩ | ⟨-, hmo', heq'⟩ <;> rw [heq']
    · -- re-extended: one RELAY_EARLY cell spent, to an exit the selection may pick
      by_cases hi : i = c
      · subst hi
        have hfor := clientGetRandomIntro_introExitFor hei
        simp only [handleIntroduceAckBad, changePurpose_hsIdent] at hre hfor
        simp only [changePurpose, modify_circ_self] at hre
        refine .inr ⟨rfl, hc, hnack, hre, ?_⟩
        simp [handleIntroduceAckBad, changePurpose, circuitExtendToNewExit, setTimestampDirty,
          pathbiasMarkUseSuccess, hfor]
        omega
      · exact .inl (by simp [hi, handleIntroduceAckBad, changePurpose, circuitExtendToNewExit,
          setTimestampDirty, pathbiasMarkUseSuccess])
    · exact .inl (((hbad.trans (markForClose_keepsExits _ _)).trans
        (pathbiasMarkUseSuccess_keepsExits _)).exit_budget i)
    · exact .inl (((hbad.trans (.of_marksOnly hmo')).trans
        (pathbiasMarkUseSuccess_keepsExits _)).exit_budget i)
  · rw [heq]
    exact .inl ((((hbad.trans (.of_marksOnly hmo)).trans
      (closeIntroAndRendCircs_keepsExits _)).trans (pathbiasMarkUseSuccess_keepsExits _)).exit_budget i)

theorem keep_or_spend {o o' : OriginCircuit} {P : Prop} (hx : o'.chosenExit = o.chosenExit)
    (hb : o'.remainingRelayEarlyCells = o.remainingRelayEarlyCells - 1) (hP : P) :
    (o'.chosenExit = o.chosenExit ∧ o'.remainingRelayEarlyCells = o.remainingRelayEarlyCells) ∨
    (o'.chosenExit = o.chosenExit ∧ o.remainingRelayEarlyCells ≠ 0 ∧
      o'.remainingRelayEarlyCells + 1 = o.remainingRelayEarlyCells ∧ P) := by
  by_cases h : o.remainingRelayEarlyCells = 0
  · exact .inl ⟨hx, by omega⟩
  · exact .inr ⟨hx, h, by omega, hP⟩

theorem step_exits (e : Event) {i : Nat} (hi : i < s.circuits.count) :
    (((s.step X e).1.circuits.circ i).chosenExit = (s.circuits.circ i).chosenExit ∧
      ((s.step X e).1.circuits.circ i).remainingRelayEarlyCells =
        (s.circuits.circ i).remainingRelayEarlyCells) ∨
    (((s.step X e).1.circuits.circ i).chosenExit = (s.circuits.circ i).chosenExit ∧
      (s.circuits.circ i).remainingRelayEarlyCells ≠ 0 ∧
      ((s.step X e).1.circuits.circ i).remainingRelayEarlyCells + 1 =
        (s.circuits.circ i).remainingRelayEarlyCells ∧
      ((∃ rend, e = .sendIntroduce1 i rend true ∧ (s.step X e).2 = 0) ∨
        e = .circuitHasOpened i true ∧ (s.circuits.circ i).purpose = .cEstablishRend)) ∨
    (∃ payload picks extendFailure, e = .receiveIntroduceAck i payload picks extendFailure ∧
      (s.circuits.circ i).purpose = .cIntroduceAckWait ∧
      (X.hsCellParseIntroduceAck payload = hsCellIntroAckFailure ∨
        X.hsCellParseIntroduceAck payload = hsCellIntroAckBadfmt ∨
        X.hsCellParseIntroduceAck payload = hsCellIntroAckNorelay) ∧
      (s.circuits.circ i).remainingRelayEarlyCells ≠ 0 ∧
      ((s.step X e).1.circuits.circ i).remainingRelayEarlyCells + 1 =
        (s.circuits.circ i).remainingRelayEarlyCells ∧
      ((s.step X e).1.circuits.circ i).purpose = .cIntroducing ∧
      ((s.step X e).1.circuits.circ i).opened = false ∧
      ∃ ei, ((s.step X e).1.circuits.circ i).chosenExit = some ei ∧
        introExitFor (s.step X e).1.descCache (s.step X e).1.introStateCache
          (s.step X e).1.options (s.circuits.circ i).hsIdent.identityPk ei = true) := by
  cases e
  case sendIntroduce1 intro rend sent =>
    obtain ⟨hx, hb | ⟨rfl, rfl, h0, hb⟩⟩ :=
      sendIntroduce1_exits (X := X) (s := s) intro rend sent i
    · exact .inl ⟨hx, hb⟩
    · exact (keep_or_spend hx hb (.inl ⟨rend, rfl, h0⟩)).elim .inl (.inr ∘ .inl)
  case circuitHasOpened c established =>
    -- the circuit is flagged open, then the callback runs
    have hop : KeepsExits s.circuits (s.circuits.modify c fun o => { o with opened := true }) :=
      .modify (fun _ => rfl) (fun _ => rfl)
    have hp : ((s.circuits.modify c fun o => { o with opened := true }).circ c).purpose =
        (s.circuits.circ c).purpose := by simp
    obtain ⟨hx, hb | ⟨rfl, rfl, hc, hb⟩⟩ := hsClientCircuitHasOpened_exits
      (s := { s with circuits := s.circuits.modify c fun o => { o with opened := true } })
      c established i
    · exact .inl ⟨hx.trans (hop.exit i), hb.trans (hop.budget i)⟩
    · rw [hop.budget] at hb
      exact (keep_or_spend (hx.trans (hop.exit i)) hb (.inr ⟨rfl, hp ▸ hc⟩)).elim .inl
        (.inr ∘ .inl)
  case receiveRendezvousAcked c payload =>
    simp only [step, hsClientReceiveRendezvousAcked]
    split
    · exact .inl ((markForClose_keepsExits _ _).exit_budget i)
    · exact .inl ((((changePurpose_keepsExits _ _).trans (setTimestampDirty_keepsExits _ _)
        ).trans (pathbiasMarkUseSuccess_keepsExits _)).exit_budget i)
  case receiveIntroduceAck c payload picks extendFailure =>
    rcases hsClientReceiveIntroduceAck_exits (X := X) (s := s) c payload picks extendFailure i with
      h | ⟨rfl, h⟩
    · exact .inl h
    · exact .inr (.inr ⟨payload, picks, extendFailure, rfl, h⟩)
  case receiveRendezvous2 c payload =>
    rcases hsClientReceiveRendezvous2_cases (X := X) (s := s) c payload with
      ⟨_, _, -, -, -, heq⟩ | ⟨-, heq⟩ <;> simp only [step, heq]
    · exact .inl ((hsCircuitSetupE2eRendCirc_keepsExits _ _).exit_budget i)
    · exact .inl ((markForClose_keepsExits _ _).exit_budget i)
  case launchIntroCircuit k picks relayEarly =>
    left; simp only [step]; split <;> simp [launch_circ_of_lt _ _ hi]
  case launchRendCircuit k rp cookie kp relayEarly =>
    exact .inl (by simp [step, launch_circ_of_lt _ _ hi])
  case circuitClosed c reason => exact .inl ((markForClose_keepsExits _ _).exit_budget i)
  all_goals exact .inl (by rw [step_circuits_of_quiet X s (by rfl)]; exact ⟨rfl, rfl⟩)

theorem run_isRend (evs : List Event) {i : Nat} (hi : i < s.circuits.count)
    (h : (s.circuits.circ i).purpose.IsRend) : ((s.run X evs).circuits.circ i).purpose.IsRend := by
  induction evs generalizing s with
  | nil => exact h
  | cons e es ih => exact ih (Nat.lt_of_lt_of_le hi (step_count_mono e)) ((step_kind e hi).2 h)

theorem step_exit_source (e : Event) {i : Nat} (hi : i < (s.step X e).1.circuits.count)
    (hrend : ¬ ((s.step X e).1.circuits.circ i).purpose.IsRend)
    {ei : ExtendInfo} (hei : ((s.step X e).1.circuits.circ i).chosenExit = some ei) :
    (i < s.circuits.count ∧ (s.circuits.circ i).chosenExit = some ei) ∨
    introExitFor (s.step X e).1.descCache (s.step X e).1.introStateCache (s.step X e).1.options
      ((s.step X e).1.circuits.circ i).hsIdent.identityPk ei = true := by
  by_cases hlt : i < s.circuits.count
  · rcases step_exits (X := X) (s := s) e hlt with ⟨hx, -⟩ | ⟨hx, -⟩ |
      ⟨_, _, _, _, _, _, _, _, _, _, ei', hx, hfor⟩
    · exact .inl ⟨hlt, hx ▸ hei⟩
    · exact .inl ⟨hlt, hx ▸ hei⟩
    · -- the NACK re-extension
      rw [hx] at hei
      cases hei
      exact .inr (by rwa [step_identityPk e hlt])
  · rcases step_count_or_launch (X := X) (s := s) e with h | ⟨k, picks, relayEarly, ei', -, hp, heq⟩ |
      ⟨k, rp, cookie, kp, relayEarly, -, heq⟩
    · omega
    · -- the launched intro circuit
      rw [heq] at hi hei ⊢
      obtain rfl : i = s.circuits.count := by simp only [launch_count] at hi; omega
      simp only [launch_circ_count, introCircuitLaunched, Option.some.injEq] at hei ⊢
      exact .inr (hei ▸ clientGetRandomIntro_introExitFor hp)
    · -- a launched rendezvous circuit is excluded
      rw [heq] at hi hrend
      obtain rfl : i = s.circuits.count := by simp only [launch_count] at hi; omega
      exact absurd (by simp [rendCircuitLaunched, CircuitPurpose.IsRend]) hrend

theorem run_identityPk (evs : List Event) {i : Nat} (hi : i < s.circuits.count) :
    ((s.run X evs).circuits.circ i).hsIdent.identityPk = (s.circuits.circ i).hsIdent.identityPk := by
  induction evs generalizing s with
  | nil => rfl
  | cons e es ih => rw [run, ih (Nat.lt_of_lt_of_le hi (step_count_mono e)), step_identityPk e hi]

end ClientCore

open ClientCore in
/-- Along every run, an intro circuit spends its RELAY_EARLY budget one cell at
a time: every change of its exit or budget is INTRODUCE1 going out on it, which
keeps the exit, or the re-extension that an INTRODUCE_ACK NACK on it triggers
while it waits for the ACK, and either spends one cell of a positive budget.
The steps that spend a cell plus the budget left equal the budget the run
started with, so the circuit is never re-extended more often than its budget
allows. -/
theorem relay_early_budget (X : Collaborators) (s : ClientCore) (evs : List Event) {c : Nat}
    (hc : c < s.circuits.count) (hintro : (s.circuits.circ c).purpose.IsIntro) :
    ((s.trace X evs).countP fun r =>
        (r.post.circuits.circ c).remainingRelayEarlyCells ≠
          (r.pre.circuits.circ c).remainingRelayEarlyCells) +
      ((s.run X evs).circuits.circ c).remainingRelayEarlyCells =
        (s.circuits.circ c).remainingRelayEarlyCells ∧
    ∀ r ∈ s.trace X evs,
      ((r.post.circuits.circ c).chosenExit ≠ (r.pre.circuits.circ c).chosenExit ∨
        (r.post.circuits.circ c).remainingRelayEarlyCells ≠
          (r.pre.circuits.circ c).remainingRelayEarlyCells) →
      (r.pre.circuits.circ c).remainingRelayEarlyCells ≠ 0 ∧
      (r.post.circuits.circ c).remainingRelayEarlyCells + 1 =
        (r.pre.circuits.circ c).remainingRelayEarlyCells ∧
      ((∃ rend, r.event = .sendIntroduce1 c rend true ∧ r.ret = 0 ∧
          (r.post.circuits.circ c).chosenExit = (r.pre.circuits.circ c).chosenExit) ∨
        (∃ payload picks extendFailure,
          r.event = .receiveIntroduceAck c payload picks extendFailure ∧
          (X.hsCellParseIntroduceAck payload = hsCellIntroAckFailure ∨
            X.hsCellParseIntroduceAck payload = hsCellIntroAckBadfmt ∨
            X.hsCellParseIntroduceAck payload = hsCellIntroAckNorelay)) ∧
        (r.pre.circuits.circ c).purpose = .cIntroduceAckWait ∧
        (r.post.circuits.circ c).purpose = .cIntroducing ∧
        (r.post.circuits.circ c).opened = false) := by
  induction evs generalizing s with
  | nil => simp [trace, run]
  | cons e es ih =>
    obtain ⟨ih1, ih2⟩ := ih (s.step X e).1 (Nat.lt_of_lt_of_le hc (step_count_mono e))
      ((step_kind e hc).1 hintro)
    simp only [trace, run, List.countP_cons, List.mem_cons, forall_eq_or_imp]
    rcases step_exits (X := X) (s := s) e hc with ⟨hx, hb⟩ |
        ⟨hx, h0, hb, ⟨rend, rfl, hr⟩ | ⟨rfl, hp⟩⟩ | ⟨p, pk, ef, rfl, hp, hn, h0, hb, hpo, ho, -⟩
    · -- the step keeps the exit and the budget
      refine ⟨by rw [if_neg (by simp [hb])]; omega, fun h => ?_, ih2⟩
      simp [hx, hb] at h
    · -- INTRODUCE1 went out on the circuit
      refine ⟨by rw [if_pos (decide_eq_true (by omega))]; omega,
        fun _ => ⟨h0, hb, .inl ⟨rend, rfl, hr, hx⟩⟩, ih2⟩
    · -- ESTABLISH_RENDEZVOUS goes out on rendezvous circuits only
      exact absurd hintro (by rw [hp]; decide)
    · -- the NACK re-extended the circuit
      refine ⟨by rw [if_pos (decide_eq_true (by omega))]; omega,
        fun _ => ⟨h0, hb, .inr ⟨⟨p, pk, ef, rfl, hn⟩, hp, hpo, ho⟩⟩, ih2⟩

/-- INTRODUCE1 on `sampleIntroduction`'s intro circuit, then a NACK that
re-extends it. -/
def sampleNackEvents : List Event := [.sendIntroduce1 0 1 true, .receiveIntroduceAck 0 [1] [0] none]

theorem relay_early_budget_introduction :
    0 < sampleIntroduction.circuits.count ∧ (sampleIntroduction.circuits.circ 0).purpose.IsIntro ∧
    ((sampleIntroduction.trace sampleCollaborators sampleNackEvents).countP
        fun r => (r.post.circuits.circ 0).remainingRelayEarlyCells ≠
          (r.pre.circuits.circ 0).remainingRelayEarlyCells) +
      ((sampleIntroduction.run sampleCollaborators sampleNackEvents).circuits.circ
        0).remainingRelayEarlyCells =
        (sampleIntroduction.circuits.circ 0).remainingRelayEarlyCells ∧
    ∀ r ∈ sampleIntroduction.trace sampleCollaborators sampleNackEvents,
      ((r.post.circuits.circ 0).chosenExit ≠ (r.pre.circuits.circ 0).chosenExit ∨
        (r.post.circuits.circ 0).remainingRelayEarlyCells ≠
          (r.pre.circuits.circ 0).remainingRelayEarlyCells) →
      (r.pre.circuits.circ 0).remainingRelayEarlyCells ≠ 0 ∧
      (r.post.circuits.circ 0).remainingRelayEarlyCells + 1 =
        (r.pre.circuits.circ 0).remainingRelayEarlyCells ∧
      ((∃ rend, r.event = .sendIntroduce1 0 rend true ∧ r.ret = 0 ∧
          (r.post.circuits.circ 0).chosenExit = (r.pre.circuits.circ 0).chosenExit) ∨
        (∃ payload picks extendFailure,
          r.event = .receiveIntroduceAck 0 payload picks extendFailure ∧
          (sampleCollaborators.hsCellParseIntroduceAck payload = hsCellIntroAckFailure ∨
            sampleCollaborators.hsCellParseIntroduceAck payload = hsCellIntroAckBadfmt ∨
            sampleCollaborators.hsCellParseIntroduceAck payload = hsCellIntroAckNorelay)) ∧
        (r.pre.circuits.circ 0).purpose = .cIntroduceAckWait ∧
        (r.post.circuits.circ 0).purpose = .cIntroducing ∧
        (r.post.circuits.circ 0).opened = false) :=
  ⟨by decide, by decide,
    relay_early_budget sampleCollaborators sampleIntroduction _ (by decide) (by decide)⟩

/-! ## Where an intro circuit's exit comes from -/

open ClientCore in
/-- Along every run, every exit an intro circuit holds at the end it held at the
start, or some step of the run gave it as `client_get_random_intro` may for the
circuit's service: the extend info of a usable intro point of the descriptor
then cached, and under `StrictNodes` one outside `ExcludeNodes`. The client
builds or re-extends an intro circuit to no other relay. -/
theorem intro_exits_from_descriptor (X : Collaborators) (s : ClientCore) (evs : List Event) :
    ∀ i < (s.run X evs).circuits.count, ((s.run X evs).circuits.circ i).purpose.IsIntro → ∀ ei,
      ((s.run X evs).circuits.circ i).chosenExit = some ei →
      (i < s.circuits.count ∧ (s.circuits.circ i).chosenExit = some ei) ∨
      ∃ r ∈ s.trace X evs, i < r.post.circuits.count ∧
        (r.post.circuits.circ i).chosenExit = some ei ∧
        introExitFor r.post.descCache r.post.introStateCache r.post.options
          ((s.run X evs).circuits.circ i).hsIdent.identityPk ei = true := by
  induction evs generalizing s with
  | nil => exact fun i hi _ ei h => .inl ⟨hi, h⟩
  | cons e es ih =>
    intro i hi hintro ei h
    simp only [run, trace] at hi hintro h ⊢
    rcases ih _ i hi hintro ei h with ⟨hi1, h1⟩ | ⟨r, hr, hr'⟩
    · have hrend : ¬ ((s.step X e).1.circuits.circ i).purpose.IsRend := fun hR =>
        CircuitPurpose.not_isIntro_of_isRend (run_isRend es hi1 hR) hintro
      rcases step_exit_source (X := X) (s := s) e hi1 hrend h1 with h0 | hfor
      · exact .inl h0
      · -- this step chose the exit
        exact .inr ⟨_, List.mem_cons_self _ _, hi1, h1, by rwa [run_identityPk es hi1]⟩
    · exact .inr ⟨r, List.mem_cons_of_mem _ hr, hr'⟩

/-- Service `1`'s descriptor fetched, an intro circuit launched to its one intro
point, and a rendezvous circuit launched. -/
def sampleLaunchEvents : List Event :=
  [.newStream 1, .dirFetchDone 1 (some sampleDescriptor), .launchIntroCircuit 1 [0] 8,
   .launchRendCircuit 1 sampleRendezvousPoint 6 ⟨11, 12⟩ 8]

/-- The extend info of `sampleIntroPoint`. -/
def sampleIntroExit : ExtendInfo := ⟨5, none, 3, 7, 80⟩

theorem intro_exits_from_descriptor_launched :
    0 < ((ClientCore.init sampleOptions sampleNetwork 0).run sampleCollaborators
      sampleLaunchEvents).circuits.count ∧
    (((ClientCore.init sampleOptions sampleNetwork 0).run sampleCollaborators
      sampleLaunchEvents).circuits.circ 0).purpose.IsIntro ∧
    (((ClientCore.init sampleOptions sampleNetwork 0).run sampleCollaborators
      sampleLaunchEvents).circuits.circ 0).chosenExit = some sampleIntroExit ∧
    ((0 < (ClientCore.init sampleOptions sampleNetwork 0).circuits.count ∧
        ((ClientCore.init sampleOptions sampleNetwork 0).circuits.circ 0).chosenExit =
          some sampleIntroExit) ∨
      ∃ r ∈ (ClientCore.init sampleOptions sampleNetwork 0).trace sampleCollaborators
          sampleLaunchEvents, 0 < r.post.circuits.count ∧
        (r.post.circuits.circ 0).chosenExit = some sampleIntroExit ∧
        introExitFor r.post.descCache r.post.introStateCache r.post.options
          (((ClientCore.init sampleOptions sampleNetwork 0).run sampleCollaborators
            sampleLaunchEvents).circuits.circ 0).hsIdent.identityPk sampleIntroExit = true) :=
  ⟨by decide, by decide, by decide,
    intro_exits_from_descriptor _ _ _ 0 (by decide) (by decide) _ (by decide)⟩

end HsClient
