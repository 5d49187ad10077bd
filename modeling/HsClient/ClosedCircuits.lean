import HsClient.CircuitSteps

/-!
# Closed circuits are left alone

Once a circuit is marked for close, no callback of `hs_client.c` changes it
again. Each callback rewrites the circuit it is called on, which its caller
delivers only while the circuit is live, and the rendezvous circuit it finds
through the circuit map, whose lookups skip closed circuits; every other
rewrite only marks circuits, and a second mark keeps the first. So a closed
circuit keeps its purpose, ident, keys and exit for the rest of every
admissible run.

`Touches A t t'` says that `t'` rewrites no circuit outside `A`; for one event,
`A` is the set of circuits live before it.
-/

namespace HsClient

namespace CircuitTable

/-- `t'` rewrites only circuits in `A` and drops none. -/
def Touches (A : Nat → Prop) (t t' : CircuitTable) : Prop :=
  t.count ≤ t'.count ∧ ∀ i, ¬ A i → t'.circ i = t.circ i

/-- Every circuit outside `A` is closed in `t`. -/
def ClosedOutside (A : Nat → Prop) (t : CircuitTable) : Prop :=
  ∀ i, ¬ A i → (t.circ i).markedForClose.isSome

/-- Circuit `i` is live in `t`, or is not yet in it. -/
def Live (t : CircuitTable) (i : Nat) : Prop := i < t.count → (t.circ i).markedForClose = none

theorem live_closedOutside (t : CircuitTable) : t.ClosedOutside t.Live := fun i hi => by
  simp only [Live, Classical.not_imp] at hi
  exact Option.ne_none_iff_isSome.mp hi.2

variable {A : Nat → Prop} {t t' t'' : CircuitTable}

theorem ClosedOutside.mem (h : t.ClosedOutside A) {r : Nat}
    (hr : (t.circ r).markedForClose = none) : A r :=
  Classical.byContradiction fun hA => by simpa [hr] using h r hA

namespace Touches

theorem refl (t : CircuitTable) : Touches A t t := ⟨le_rfl, fun _ _ => rfl⟩

theorem trans (h : Touches A t t') (h' : Touches A t' t'') : Touches A t t'' :=
  ⟨h.1.trans h'.1, fun i hi => (h'.2 i hi).trans (h.2 i hi)⟩

theorem of_eq (h : t' = t) : Touches A t t' := by subst h; exact refl _

theorem closedOutside (h : Touches A t t') (hc : t.ClosedOutside A) : t'.ClosedOutside A :=
  fun i hi => by rw [h.2 i hi]; exact hc i hi

theorem modify {c : Nat} (hc : A c) (f : OriginCircuit → OriginCircuit) :
    Touches A t (t.modify c f) :=
  ⟨le_rfl, fun _ hi => modify_circ_of_ne t f fun h => hi (h ▸ hc)⟩

theorem of_marksOnly (h : MarksOnly t t') (hc : t.ClosedOutside A) : Touches A t t' :=
  ⟨h.count.ge, fun i hi => by rw [h.circ i, h.keep i (hc i hi)]⟩

theorem launch (h : A t.count) (o : OriginCircuit) : Touches A t (t.launch o) :=
  ⟨Nat.le_succ _, fun i hi => by
    simp [CircuitTable.launch, Function.update_noteq fun e : i = t.count => hi (e ▸ h)]⟩

end Touches

variable {intro rend c : Nat}

theorem circuitExtendToNewExit_touches (hc : A c) (ei : ExtendInfo) :
    Touches A t (t.circuitExtendToNewExit c ei none).1 :=
  .modify hc _

theorem closeIntroductionLegs_touches (hc : t.ClosedOutside A) :
    Touches A t (t.closeIntroductionLegs intro rend) :=
  .of_marksOnly (closeIntroductionLegs_marksOnly t) hc

theorem introduce1Sent_touches (hi : A intro) (hr : A rend) (ip : IntroPoint) (now : Nat) :
    Touches A t (((t.hsCircSendIntroduce1 intro rend true).1).introduce1Sent intro rend ip now) := by
  simp only [hsCircSendIntroduce1, if_true, relaySendCommandFromEdge, introduce1Sent]
  exact (((((Touches.modify hi _).trans (.modify hi _)).trans (.modify hr _)).trans
    (.modify hi _)).trans (.modify hi _)).trans (.modify hi _)

theorem closeIntroAndRendCircs_touches (hc : A c) (hcl : t.ClosedOutside A) :
    Touches A t (t.closeIntroAndRendCircs c) := by
  have h1 : Touches A t (if (t.circ c).markedForClose.isNone then
      (t.changePurpose c .cIntroduceAcked).markForClose c .finished else t) := by
    split
    · exact (Touches.modify hc _).trans (.modify hc _)
    · exact .refl t
  exact h1.trans (.of_marksOnly (closeIntroAndRendCircs_marksOnly t) (h1.closedOutside hcl))

theorem handleIntroduceAckSuccess_touches (hc : A c) (hcl : t.ClosedOutside A) (now : Nat) :
    Touches A t (t.handleIntroduceAckSuccess c now) := by
  unfold handleIntroduceAckSuccess
  refine Touches.trans ?_ ((Touches.modify hc _).trans (.modify hc _))
  split
  · exact .refl t
  · rename_i r hr
    have hA : A r := hcl.mem ((hsCircuitmapGetEstablishedRendCircClientSide_eq_some _).mp hr).2.1
    split
    · exact .refl t
    · exact (Touches.modify hA _).trans (.modify hA _)

end CircuitTable

namespace ClientCore

open CircuitTable

variable {X : Collaborators} {s : ClientCore} {A : Nat → Prop} {c : Nat}

theorem hsClientCircuitHasOpened_touches (hc : A c) (established : Bool) :
    Touches A s.circuits (s.hsClientCircuitHasOpened c established).circuits := by
  unfold hsClientCircuitHasOpened
  split
  · obtain ⟨t, ht, hcount, -, hne, -⟩ := setupIntroCircAuthKey_spec (s := s) c
    simp only [clientIntroCircHasOpened, ht]
    exact ⟨hcount.ge, fun i hi => hne i fun h => hi (h ▸ hc)⟩
  · refine ⟨(clientRendezvousCircHasOpened_count c established).ge, fun i hi => ?_⟩
    rw [clientRendezvousCircHasOpened_circ]
    split
    · rfl
    · unfold hsCircSendEstablishRendezvous relaySendCommandFromEdge
      split
      · exact modify_circ_of_ne _ _ fun h => hi (h ▸ hc)
      · exact markForClose_of_ne _ _ fun h => hi (h ▸ hc)
  · exact .refl _

theorem hsClientReceiveIntroduceAck_touches (hc : A c) (hcl : s.circuits.ClosedOutside A)
    (payload : Payload) (picks : List Nat) (extendFailure : Option CircEndReason) :
    Touches A s.circuits (s.hsClientReceiveIntroduceAck X c payload picks extendFailure).1.circuits := by
  by_cases hp : (s.circuits.circ c).purpose = .cIntroduceAckWait
  swap
  · simp only [hsClientReceiveIntroduceAck, hp, ne_eq, not_false_eq_true, if_true]
    exact .modify hc _
  by_cases hack : X.hsCellParseIntroduceAck payload = hsCellIntroAckSuccess
  · rw [hsClientReceiveIntroduceAck_of_success picks extendFailure hp hack]
    exact (handleIntroduceAckSuccess_touches hc hcl _).trans (.modify hc _)
  by_cases hnack : X.hsCellParseIntroduceAck payload = hsCellIntroAckFailure ∨
      X.hsCellParseIntroduceAck payload = hsCellIntroAckBadfmt ∨
      X.hsCellParseIntroduceAck payload = hsCellIntroAckNorelay
  swap
  · simp only [hsClientReceiveIntroduceAck, hp, ne_eq, not_true_eq_false, if_false,
      handleIntroduceAck, hack, hnack]
    exact .modify hc _
  rw [hsClientReceiveIntroduceAck_of_nack picks extendFailure hp hnack]
  have hbad : Touches A s.circuits (s.handleIntroduceAckBad c).circuits := .modify hc _
  have hcl₁ := hbad.closedOutside hcl
  refine (hbad.trans ?_).trans (.modify hc _)
  rcases closeOrReextendIntroCirc_cases (s := s.handleIntroduceAckBad c) c picks extendFailure with
    ⟨-, heq⟩ | ⟨-, t, hmo, heq⟩ <;> rw [heq]
  · rcases hsClientReextendIntroCircuit_cases (s := s.handleIntroduceAckBad c) c picks
      extendFailure with ⟨ei, -, -, heq'⟩ | ⟨-, heq'⟩ | ⟨-, hmo', -⟩
    · rw [heq']; dsimp only
      exact (circuitExtendToNewExit_touches hc ei).trans (.modify hc _)
    · rw [heq']; exact .modify hc _
    · exact .of_marksOnly hmo' hcl₁
  · have h₁ := Touches.of_marksOnly hmo hcl₁
    exact h₁.trans (closeIntroAndRendCircs_touches hc (h₁.closedOutside hcl₁))

theorem step_touches {e : Event} (hadm : s.admissible e = true) :
    Touches s.circuits.Live s.circuits (s.step X e).1.circuits := by
  have hcl := live_closedOutside s.circuits
  have live : ∀ {c}, s.liveCircuit c = true → s.circuits.Live c := fun h _ => by
    simp only [liveCircuit, Bool.and_eq_true, decide_eq_true_eq] at h
    exact Option.isNone_iff_eq_none.mp h.2
  cases e with
  | sendIntroduce1 intro rend sent =>
    simp only [admissible, Bool.and_eq_true] at hadm
    obtain ⟨⟨⟨⟨hi, -⟩, -⟩, hr⟩, -⟩ := hadm
    show Touches _ s.circuits (s.sendIntroduce1 X intro rend sent).1.circuits
    rcases sendIntroduce1_cases (X := X) (s := s) intro rend sent with
      ⟨_, h⟩ | ⟨_, _, h⟩ | ⟨_, _, _, _, ⟨_, h⟩ | ⟨_, _, ⟨_, h⟩ | ⟨_, h⟩⟩⟩
    all_goals rw [h]
    · exact closeIntroductionLegs_touches hcl
    · exact .of_eq (refetchAndFlagConnWaitDesc_frame _).circuits
    · exact closeIntroductionLegs_touches hcl
    · exact .of_marksOnly ((markForClose_marksOnly _ _ _).trans (closeIntroductionLegs_marksOnly _))
        hcl
    · exact introduce1Sent_touches (live hi) (live hr) _ _
  | circuitHasOpened c established =>
    simp only [admissible, Bool.and_eq_true] at hadm
    exact (Touches.modify (live hadm.1) fun o => { o with opened := true }).trans
      (hsClientCircuitHasOpened_touches (s := { s with circuits := _ }) (live hadm.1) established)
  | receiveRendezvousAcked c payload =>
    have hc := live hadm
    show Touches _ s.circuits (s.hsClientReceiveRendezvousAcked c).1.circuits
    unfold hsClientReceiveRendezvousAcked
    split
    · exact .modify hc _
    · exact ((Touches.modify hc _).trans (.modify hc _)).trans (.modify hc _)
  | receiveIntroduceAck c payload picks extendFailure =>
    exact hsClientReceiveIntroduceAck_touches (live hadm) hcl payload picks extendFailure
  | receiveRendezvous2 c payload =>
    show Touches _ s.circuits (s.hsClientReceiveRendezvous2 X c payload).1.circuits
    rcases hsClientReceiveRendezvous2_cases (X := X) (s := s) c payload with
      ⟨_, _, -, -, -, heq⟩ | ⟨-, heq⟩ <;> rw [heq] <;> exact .modify (live hadm) _
  | launchIntroCircuit k picks relayEarly =>
    simp only [step]
    split
    · exact .launch (fun h => absurd h (Nat.lt_irrefl _)) _
    · exact .refl _
  | launchRendCircuit k rp cookie kp relayEarly => exact .launch (fun h => absurd h (Nat.lt_irrefl _)) _
  | circuitClosed c reason =>
    by_cases hm : (s.circuits.circ c).markedForClose.isSome
    · exact .of_eq (markForClose_of_isSome _ reason hm)
    · exact .modify (fun _ => Option.not_isSome_iff_eq_none.mp hm) _
  | _ => exact .of_eq (step_circuits_of_quiet X s (by rfl))

theorem step_keeps_closed {e : Event} (hadm : s.admissible e = true) {i : Nat}
    (hi : i < s.circuits.count) (hm : (s.circuits.circ i).markedForClose.isSome) :
    (s.step X e).1.circuits.circ i = s.circuits.circ i :=
  (step_touches hadm).2 i fun h => by simp [h hi] at hm

end ClientCore

open ClientCore in
/-- Along every admissible run, a circuit already marked for close is never
changed again: it keeps its purpose, its ident and keys, its exit and its
close reason. -/
theorem closed_circuits_frozen (X : Collaborators) (s : ClientCore) (evs : List Event)
    (hrun : s.admissibleRun X evs = true) :
    ∀ i < s.circuits.count, (s.circuits.circ i).markedForClose.isSome →
      (s.run X evs).circuits.circ i = s.circuits.circ i := by
  induction evs generalizing s with
  | nil => intro _ _ _; rfl
  | cons e es ih =>
    simp only [admissibleRun, Bool.and_eq_true] at hrun
    intro i hi hm
    have h₁ := step_keeps_closed (X := X) hrun.1 hi hm
    rw [run, ih _ hrun.2 i (Nat.lt_of_lt_of_le hi (step_count_mono e)) (h₁ ▸ hm), h₁]

/-- `sampleHandshake` after the INTRODUCE_ACK: the intro circuit `0` is closed
as finished, the rendezvous circuit `1` waits for RENDEZVOUS2. -/
def sampleAcked : ClientCore :=
  (sampleHandshake.step sampleCollaborators (.receiveIntroduceAck 0 [0] [] none)).1

theorem closed_circuits_frozen_acked :
    sampleAcked.admissibleRun sampleCollaborators
        [.receiveRendezvous2 1 [1, 7], .circuitClosed 0 .internal] = true ∧
    ∀ i < sampleAcked.circuits.count, (sampleAcked.circuits.circ i).markedForClose.isSome →
      (sampleAcked.run sampleCollaborators
        [.receiveRendezvous2 1 [1, 7], .circuitClosed 0 .internal]).circuits.circ i =
        sampleAcked.circuits.circ i :=
  ⟨by decide, closed_circuits_frozen _ _ _ (by decide)⟩

end HsClient
