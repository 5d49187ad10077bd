import HsClient.Basic

/-!
# Circuit operations

The circuit-layer operations that `hs_client.c` calls: marking for close,
changing purpose, path-bias signals, extending to a new exit, installing the
end-to-end hop, and the client side of the HS circuit map. None of them is in
the modelled file; each is modelled from the spec (§6). Every operation
rewrites one circuit through `CircuitTable.modify`, so what it leaves alone is
read off one lemma.
-/

namespace HsClient

namespace CircuitPurpose

/-- The purposes of a client introduction circuit. -/
def IsIntro (p : CircuitPurpose) : Prop :=
  p = .cIntroducing ∨ p = .cIntroduceAckWait ∨ p = .cIntroduceAcked

/-- The purposes of a client rendezvous circuit. -/
def IsRend (p : CircuitPurpose) : Prop :=
  p = .cEstablishRend ∨ p = .cRendReady ∨ p = .cRendReadyIntroAcked ∨ p = .cRendJoined

instance (p : CircuitPurpose) : Decidable p.IsIntro := inferInstanceAs (Decidable (_ ∨ _))
instance (p : CircuitPurpose) : Decidable p.IsRend := inferInstanceAs (Decidable (_ ∨ _))

theorem not_isIntro_of_isRend {p : CircuitPurpose} (h : p.IsRend) : ¬ p.IsIntro := by
  unfold IsRend at h; unfold IsIntro; rcases h with h | h | h | h <;> simp [h]

end CircuitPurpose

namespace CircuitTable

variable (t : CircuitTable)

/-- Rewrite circuit `c` with `f`. -/
def modify (c : Nat) (f : OriginCircuit → OriginCircuit) : CircuitTable :=
  { t with circ := Function.update t.circ c (f (t.circ c)) }

/-- `circuit_mark_for_close`: a second mark keeps the first reason. -/
def markForClose (c : Nat) (reason : CircEndReason) : CircuitTable :=
  t.modify c fun o =>
    if o.markedForClose.isSome then o else { o with markedForClose := some reason }

def changePurpose (c : Nat) (purpose : CircuitPurpose) : CircuitTable :=
  t.modify c fun o => { o with purpose := purpose }

/-- `TO_CIRCUIT(circ)->timestamp_dirty = time(NULL)`. -/
def setTimestampDirty (c now : Nat) : CircuitTable :=
  t.modify c fun o => { o with timestampDirty := now }

/-- Modelled from the spec: `pathbias_count_use_attempt` records a use attempt. -/
def pathbiasCountUseAttempt (c : Nat) : CircuitTable :=
  t.modify c fun o => { o with pathbiasUseAttempt := true }

/-- Modelled from the spec: `pathbias_mark_use_success` records a use success. -/
def pathbiasMarkUseSuccess (c : Nat) : CircuitTable :=
  t.modify c fun o => { o with pathbiasUseSuccess := true }

/-- Modelled from the spec: `circuit_extend_to_new_exit` makes `ei` the
circuit's exit and starts building towards it with one RELAY_EARLY cell;
when the extension cannot be sent (`failure = some r`), the circuit is marked
for close. -/
def circuitExtendToNewExit (c : Nat) (ei : ExtendInfo) (failure : Option CircEndReason) :
    CircuitTable × Int :=
  match failure with
  | none =>
    (t.modify c fun o =>
      { o with chosenExit := some ei, opened := false,
               remainingRelayEarlyCells := o.remainingRelayEarlyCells - 1 }, 0)
  | some reason => (t.markForClose c reason, -1)

/-- Modelled from the spec (the RELAY_EARLY budget of §4.4) and Tor's relay
layer: `relay_send_command_from_edge` sends a cell for a hop past the first as
RELAY_EARLY while the circuit has any left, spending one. -/
def relaySendCommandFromEdge (c : Nat) : CircuitTable :=
  t.modify c fun o => { o with remainingRelayEarlyCells := o.remainingRelayEarlyCells - 1 }

/-- Modelled from the spec: `hs_circuit_setup_e2e_rend_circ` installs the
end-to-end keys from the ntor key seed and moves the circuit to
`REND_JOINED`. -/
def hsCircuitSetupE2eRendCirc (c : Nat) (ntorKeySeed : Digest256) : CircuitTable :=
  t.modify c fun o => { o with e2eKeySeed := some ntorKeySeed, purpose := .cRendJoined }

/-- Modelled from the spec: `hs_circuitmap_register_rend_circ_client_side`
makes `c` the one circuit of the map under `cookie`. -/
def hsCircuitmapRegisterRendCircClientSide (c : Nat) (cookie : RendCookie) : CircuitTable :=
  { t with rendMap := Function.update t.rendMap cookie (some c) }

/-- Modelled from the spec: `hs_circuitmap_get_established_rend_circ_client_side`,
the live circuit under `cookie` once its rendezvous point acknowledged it. -/
def hsCircuitmapGetEstablishedRendCircClientSide (cookie : RendCookie) : Option Nat :=
  (t.rendMap cookie).filter fun c =>
    (t.circ c).markedForClose.isNone &&
      ((t.circ c).purpose == .cRendReady || (t.circ c).purpose == .cRendReadyIntroAcked ||
        (t.circ c).purpose == .cRendJoined)

/-- Modelled from the spec: `hs_circuitmap_get_rend_circ_client_side`, the live
circuit under `cookie`, also before it is established. -/
def hsCircuitmapGetRendCircClientSide (cookie : RendCookie) : Option Nat :=
  (t.rendMap cookie).filter fun c =>
    (t.circ c).markedForClose.isNone && (t.circ c).purpose.IsRend

/-- A new circuit takes the next id. -/
def launch (o : OriginCircuit) : CircuitTable :=
  { t with circ := Function.update t.circ t.count o, count := t.count + 1 }

/-! ## What each operation changes -/

@[simp] theorem modify_count (c : Nat) (f : OriginCircuit → OriginCircuit) :
    (t.modify c f).count = t.count := rfl

@[simp] theorem modify_rendMap (c : Nat) (f : OriginCircuit → OriginCircuit) :
    (t.modify c f).rendMap = t.rendMap := rfl

theorem modify_circ (c : Nat) (f : OriginCircuit → OriginCircuit) (i : Nat) :
    (t.modify c f).circ i = if i = c then f (t.circ c) else t.circ i := by
  by_cases h : i = c
  · subst h; simp [modify]
  · simp [modify, h]

@[simp] theorem modify_circ_self (c : Nat) (f : OriginCircuit → OriginCircuit) :
    (t.modify c f).circ c = f (t.circ c) := by simp [modify_circ]

@[simp] theorem modify_circ_of_ne {c i : Nat} (f : OriginCircuit → OriginCircuit) (h : i ≠ c) :
    (t.modify c f).circ i = t.circ i := by simp [modify_circ, h]

@[simp] theorem launch_count (o : OriginCircuit) : (t.launch o).count = t.count + 1 := rfl

@[simp] theorem launch_rendMap (o : OriginCircuit) : (t.launch o).rendMap = t.rendMap := rfl

theorem launch_circ_of_lt (o : OriginCircuit) {i : Nat} (h : i < t.count) :
    (t.launch o).circ i = t.circ i := by
  simp [launch, Function.update_noteq (Nat.ne_of_lt h)]

@[simp] theorem launch_circ_count (o : OriginCircuit) : (t.launch o).circ t.count = o := by
  simp [launch]

@[simp] theorem register_count (c : Nat) (cookie : RendCookie) :
    (t.hsCircuitmapRegisterRendCircClientSide c cookie).count = t.count := rfl

@[simp] theorem register_circ (c : Nat) (cookie : RendCookie) :
    (t.hsCircuitmapRegisterRendCircClientSide c cookie).circ = t.circ := rfl

theorem markForClose_circ (c : Nat) (reason : CircEndReason) :
    (t.markForClose c reason).circ c =
      { t.circ c with markedForClose := some ((t.circ c).markedForClose.getD reason) } := by
  cases h : (t.circ c).markedForClose with
  | none => simp [markForClose, h]
  | some r => simp only [markForClose, modify_circ_self, h, Option.isSome_some, if_true,
      Option.getD_some]; rw [← h]

@[simp] theorem markForClose_purpose (c : Nat) (reason : CircEndReason) (i : Nat) :
    ((t.markForClose c reason).circ i).purpose = (t.circ i).purpose := by
  by_cases h : i = c
  · subst h; simp only [markForClose, modify_circ_self]; split <;> rfl
  · simp [markForClose, h]

@[simp] theorem markForClose_hsIdent (c : Nat) (reason : CircEndReason) (i : Nat) :
    ((t.markForClose c reason).circ i).hsIdent = (t.circ i).hsIdent := by
  by_cases h : i = c
  · subst h; simp only [markForClose, modify_circ_self]; split <;> rfl
  · simp [markForClose, h]

@[simp] theorem markForClose_e2eKeySeed (c : Nat) (reason : CircEndReason) (i : Nat) :
    ((t.markForClose c reason).circ i).e2eKeySeed = (t.circ i).e2eKeySeed := by
  by_cases h : i = c
  · subst h; simp only [markForClose, modify_circ_self]; split <;> rfl
  · simp [markForClose, h]

theorem markForClose_isSome (c : Nat) (reason : CircEndReason) :
    ((t.markForClose c reason).circ c).markedForClose.isSome := by
  simp [markForClose_circ]

theorem markForClose_of_ne {c i : Nat} (reason : CircEndReason) (h : i ≠ c) :
    (t.markForClose c reason).circ i = t.circ i := by
  simp [markForClose, h]

theorem markForClose_marked_mono (c : Nat) (reason : CircEndReason) (i : Nat)
    (h : (t.circ i).markedForClose.isSome) :
    ((t.markForClose c reason).circ i).markedForClose.isSome := by
  by_cases hi : i = c
  · subst hi; exact markForClose_isSome t i reason
  · simpa [markForClose_of_ne t reason hi] using h

theorem markForClose_of_isSome {c : Nat} (reason : CircEndReason)
    (h : (t.circ c).markedForClose.isSome) : t.markForClose c reason = t := by
  simp [markForClose, modify, h]

/-! ## Fields each operation keeps

`modify_proj` says once that a rewrite keeping a field keeps it everywhere;
the simp lemmas below instantiate it for each operation and field. -/

theorem modify_proj {β : Type} (proj : OriginCircuit → β) {c : Nat}
    {f : OriginCircuit → OriginCircuit} (h : ∀ o, proj (f o) = proj o) (i : Nat) :
    proj ((t.modify c f).circ i) = proj (t.circ i) := by
  by_cases hi : i = c
  · subst hi; simp [h]
  · simp [hi]

theorem modify_proj_if {β : Type} (proj : OriginCircuit → β) {c : Nat}
    {f : OriginCircuit → OriginCircuit} (i : Nat) :
    proj ((t.modify c f).circ i) = if i = c then proj (f (t.circ c)) else proj (t.circ i) := by
  by_cases hi : i = c
  · subst hi; simp
  · simp [hi]

variable {c : Nat} (i : Nat)

@[simp] theorem changePurpose_purpose (p : CircuitPurpose) :
    ((t.changePurpose c p).circ i).purpose = if i = c then p else (t.circ i).purpose :=
  modify_proj_if t OriginCircuit.purpose i
@[simp] theorem changePurpose_hsIdent (p : CircuitPurpose) :
    ((t.changePurpose c p).circ i).hsIdent = (t.circ i).hsIdent := by
  apply modify_proj; intro; rfl
@[simp] theorem changePurpose_markedForClose (p : CircuitPurpose) :
    ((t.changePurpose c p).circ i).markedForClose = (t.circ i).markedForClose :=
  by apply modify_proj; intro; rfl
@[simp] theorem changePurpose_e2eKeySeed (p : CircuitPurpose) :
    ((t.changePurpose c p).circ i).e2eKeySeed = (t.circ i).e2eKeySeed :=
  by apply modify_proj; intro; rfl
@[simp] theorem changePurpose_count (p : CircuitPurpose) :
    (t.changePurpose c p).count = t.count := rfl
@[simp] theorem changePurpose_rendMap (p : CircuitPurpose) :
    (t.changePurpose c p).rendMap = t.rendMap := rfl

@[simp] theorem setTimestampDirty_purpose (now : Nat) :
    ((t.setTimestampDirty c now).circ i).purpose = (t.circ i).purpose := by
  apply modify_proj; intro; rfl
@[simp] theorem setTimestampDirty_hsIdent (now : Nat) :
    ((t.setTimestampDirty c now).circ i).hsIdent = (t.circ i).hsIdent := by
  apply modify_proj; intro; rfl
@[simp] theorem setTimestampDirty_markedForClose (now : Nat) :
    ((t.setTimestampDirty c now).circ i).markedForClose = (t.circ i).markedForClose :=
  by apply modify_proj; intro; rfl
@[simp] theorem setTimestampDirty_e2eKeySeed (now : Nat) :
    ((t.setTimestampDirty c now).circ i).e2eKeySeed = (t.circ i).e2eKeySeed :=
  by apply modify_proj; intro; rfl
@[simp] theorem setTimestampDirty_count (now : Nat) :
    (t.setTimestampDirty c now).count = t.count := rfl
@[simp] theorem setTimestampDirty_rendMap (now : Nat) :
    (t.setTimestampDirty c now).rendMap = t.rendMap := rfl

@[simp] theorem pathbiasCountUseAttempt_purpose :
    ((t.pathbiasCountUseAttempt c).circ i).purpose = (t.circ i).purpose := by
  apply modify_proj; intro; rfl
@[simp] theorem pathbiasCountUseAttempt_hsIdent :
    ((t.pathbiasCountUseAttempt c).circ i).hsIdent = (t.circ i).hsIdent := by
  apply modify_proj; intro; rfl
@[simp] theorem pathbiasCountUseAttempt_markedForClose :
    ((t.pathbiasCountUseAttempt c).circ i).markedForClose = (t.circ i).markedForClose :=
  by apply modify_proj; intro; rfl
@[simp] theorem pathbiasCountUseAttempt_e2eKeySeed :
    ((t.pathbiasCountUseAttempt c).circ i).e2eKeySeed = (t.circ i).e2eKeySeed :=
  by apply modify_proj; intro; rfl
@[simp] theorem pathbiasCountUseAttempt_count : (t.pathbiasCountUseAttempt c).count = t.count := rfl
@[simp] theorem pathbiasCountUseAttempt_rendMap :
    (t.pathbiasCountUseAttempt c).rendMap = t.rendMap := rfl

@[simp] theorem pathbiasMarkUseSuccess_purpose :
    ((t.pathbiasMarkUseSuccess c).circ i).purpose = (t.circ i).purpose := by
  apply modify_proj; intro; rfl
@[simp] theorem pathbiasMarkUseSuccess_hsIdent :
    ((t.pathbiasMarkUseSuccess c).circ i).hsIdent = (t.circ i).hsIdent := by
  apply modify_proj; intro; rfl
@[simp] theorem pathbiasMarkUseSuccess_markedForClose :
    ((t.pathbiasMarkUseSuccess c).circ i).markedForClose = (t.circ i).markedForClose :=
  by apply modify_proj; intro; rfl
@[simp] theorem pathbiasMarkUseSuccess_e2eKeySeed :
    ((t.pathbiasMarkUseSuccess c).circ i).e2eKeySeed = (t.circ i).e2eKeySeed :=
  by apply modify_proj; intro; rfl
@[simp] theorem pathbiasMarkUseSuccess_count : (t.pathbiasMarkUseSuccess c).count = t.count := rfl
@[simp] theorem pathbiasMarkUseSuccess_rendMap :
    (t.pathbiasMarkUseSuccess c).rendMap = t.rendMap := rfl

@[simp] theorem markForClose_markedForClose (reason : CircEndReason) :
    ((t.markForClose c reason).circ i).markedForClose =
      if i = c then some ((t.circ c).markedForClose.getD reason) else
        (t.circ i).markedForClose := by
  by_cases hi : i = c
  · subst hi; simp [markForClose_circ]
  · simp [markForClose_of_ne t reason hi, hi]
@[simp] theorem markForClose_count (reason : CircEndReason) :
    (t.markForClose c reason).count = t.count := rfl
@[simp] theorem markForClose_rendMap (reason : CircEndReason) :
    (t.markForClose c reason).rendMap = t.rendMap := rfl

@[simp] theorem hsCircuitSetupE2eRendCirc_purpose (seed : Digest256) :
    ((t.hsCircuitSetupE2eRendCirc c seed).circ i).purpose =
      if i = c then .cRendJoined else (t.circ i).purpose := modify_proj_if t _ i
@[simp] theorem hsCircuitSetupE2eRendCirc_e2eKeySeed (seed : Digest256) :
    ((t.hsCircuitSetupE2eRendCirc c seed).circ i).e2eKeySeed =
      if i = c then some seed else (t.circ i).e2eKeySeed := modify_proj_if t _ i
@[simp] theorem hsCircuitSetupE2eRendCirc_hsIdent (seed : Digest256) :
    ((t.hsCircuitSetupE2eRendCirc c seed).circ i).hsIdent = (t.circ i).hsIdent :=
  by apply modify_proj; intro; rfl
@[simp] theorem hsCircuitSetupE2eRendCirc_markedForClose (seed : Digest256) :
    ((t.hsCircuitSetupE2eRendCirc c seed).circ i).markedForClose = (t.circ i).markedForClose :=
  by apply modify_proj; intro; rfl
@[simp] theorem hsCircuitSetupE2eRendCirc_count (seed : Digest256) :
    (t.hsCircuitSetupE2eRendCirc c seed).count = t.count := rfl
@[simp] theorem hsCircuitSetupE2eRendCirc_rendMap (seed : Digest256) :
    (t.hsCircuitSetupE2eRendCirc c seed).rendMap = t.rendMap := rfl

@[simp] theorem circuitExtendToNewExit_purpose (ei : ExtendInfo) (failure : Option CircEndReason) :
    (((t.circuitExtendToNewExit c ei failure).1).circ i).purpose = (t.circ i).purpose := by
  cases failure
  · dsimp only [circuitExtendToNewExit]; apply modify_proj; intro; rfl
  · simp [circuitExtendToNewExit]
@[simp] theorem circuitExtendToNewExit_hsIdent (ei : ExtendInfo) (failure : Option CircEndReason) :
    (((t.circuitExtendToNewExit c ei failure).1).circ i).hsIdent = (t.circ i).hsIdent := by
  cases failure
  · dsimp only [circuitExtendToNewExit]; apply modify_proj; intro; rfl
  · simp [circuitExtendToNewExit]
@[simp] theorem circuitExtendToNewExit_e2eKeySeed (ei : ExtendInfo)
    (failure : Option CircEndReason) :
    (((t.circuitExtendToNewExit c ei failure).1).circ i).e2eKeySeed = (t.circ i).e2eKeySeed := by
  cases failure
  · dsimp only [circuitExtendToNewExit]; apply modify_proj; intro; rfl
  · simp [circuitExtendToNewExit]
@[simp] theorem circuitExtendToNewExit_count (ei : ExtendInfo) (failure : Option CircEndReason) :
    (t.circuitExtendToNewExit c ei failure).1.count = t.count := by
  cases failure <;> rfl
@[simp] theorem circuitExtendToNewExit_rendMap (ei : ExtendInfo) (failure : Option CircEndReason) :
    (t.circuitExtendToNewExit c ei failure).1.rendMap = t.rendMap := by
  cases failure <;> rfl

@[simp] theorem relaySendCommandFromEdge_purpose :
    ((t.relaySendCommandFromEdge c).circ i).purpose = (t.circ i).purpose := by
  apply modify_proj; intro; rfl
@[simp] theorem relaySendCommandFromEdge_hsIdent :
    ((t.relaySendCommandFromEdge c).circ i).hsIdent = (t.circ i).hsIdent := by
  apply modify_proj; intro; rfl
@[simp] theorem relaySendCommandFromEdge_markedForClose :
    ((t.relaySendCommandFromEdge c).circ i).markedForClose = (t.circ i).markedForClose := by
  apply modify_proj; intro; rfl
@[simp] theorem relaySendCommandFromEdge_e2eKeySeed :
    ((t.relaySendCommandFromEdge c).circ i).e2eKeySeed = (t.circ i).e2eKeySeed := by
  apply modify_proj; intro; rfl
@[simp] theorem relaySendCommandFromEdge_chosenExit :
    ((t.relaySendCommandFromEdge c).circ i).chosenExit = (t.circ i).chosenExit := by
  apply modify_proj; intro; rfl
@[simp] theorem relaySendCommandFromEdge_remainingRelayEarlyCells :
    ((t.relaySendCommandFromEdge c).circ i).remainingRelayEarlyCells =
      if i = c then (t.circ c).remainingRelayEarlyCells - 1
      else (t.circ i).remainingRelayEarlyCells :=
  modify_proj_if t _ i
@[simp] theorem relaySendCommandFromEdge_count : (t.relaySendCommandFromEdge c).count = t.count :=
  rfl
@[simp] theorem relaySendCommandFromEdge_rendMap :
    (t.relaySendCommandFromEdge c).rendMap = t.rendMap := rfl

/-! ## The circuit map -/

theorem hsCircuitmapGetRendCircClientSide_eq_some {cookie : RendCookie} {r : Nat}
    (hr : t.rendMap cookie = some r) (hm : (t.circ r).markedForClose = none)
    (hrend : (t.circ r).purpose.IsRend) : t.hsCircuitmapGetRendCircClientSide cookie = some r := by
  simp [hsCircuitmapGetRendCircClientSide, hr, Option.filter, hm, hrend]

theorem hsCircuitmapGetEstablishedRendCircClientSide_eq_some {cookie : RendCookie} {r : Nat} :
    t.hsCircuitmapGetEstablishedRendCircClientSide cookie = some r ↔
      t.rendMap cookie = some r ∧ (t.circ r).markedForClose = none ∧
        ((t.circ r).purpose = .cRendReady ∨ (t.circ r).purpose = .cRendReadyIntroAcked ∨
          (t.circ r).purpose = .cRendJoined) := by
  unfold hsCircuitmapGetEstablishedRendCircClientSide
  cases h : t.rendMap cookie with
  | none => simp
  | some r' =>
    simp only [Option.filter, Option.some.injEq, Bool.and_eq_true, Option.isNone_iff_eq_none,
      Bool.or_eq_true, beq_iff_eq]
    constructor
    · intro hr; split at hr <;> simp_all [or_assoc]
    · rintro ⟨rfl, hm, hp | hp | hp⟩ <;> simp [hm, hp]

/-! ## Tables that differ only by close marks -/

/-- `t'` is `t` with more circuits marked for close; a circuit already marked
keeps its reason. Every failure path of the client ends in such a table. -/
structure MarksOnly (t t' : CircuitTable) : Prop where
  count : t'.count = t.count
  rendMap : t'.rendMap = t.rendMap
  circ : ∀ i, t'.circ i = { t.circ i with markedForClose := (t'.circ i).markedForClose }
  keep : ∀ i, (t.circ i).markedForClose.isSome →
    (t'.circ i).markedForClose = (t.circ i).markedForClose

namespace MarksOnly

variable {t t' t'' : CircuitTable}

theorem refl (t : CircuitTable) : MarksOnly t t := ⟨rfl, rfl, fun _ => rfl, fun _ _ => rfl⟩

theorem trans (h : MarksOnly t t') (h' : MarksOnly t' t'') : MarksOnly t t'' where
  count := h'.count.trans h.count
  rendMap := h'.rendMap.trans h.rendMap
  circ i := by rw [h'.circ i, h.circ i]
  keep i hi := by
    have hi' : (t'.circ i).markedForClose.isSome := by rw [h.keep i hi]; exact hi
    rw [h'.keep i hi', h.keep i hi]

theorem purpose (h : MarksOnly t t') (i : Nat) : (t'.circ i).purpose = (t.circ i).purpose := by
  rw [h.circ i]

theorem hsIdent (h : MarksOnly t t') (i : Nat) : (t'.circ i).hsIdent = (t.circ i).hsIdent := by
  rw [h.circ i]

theorem e2eKeySeed (h : MarksOnly t t') (i : Nat) :
    (t'.circ i).e2eKeySeed = (t.circ i).e2eKeySeed := by
  rw [h.circ i]

theorem isSome (h : MarksOnly t t') {i : Nat} (hi : (t.circ i).markedForClose.isSome) :
    (t'.circ i).markedForClose.isSome := by
  rw [h.keep i hi]; exact hi

end MarksOnly

theorem markForClose_marksOnly (c : Nat) (reason : CircEndReason) :
    MarksOnly t (t.markForClose c reason) where
  count := rfl
  rendMap := rfl
  circ i := by
    by_cases hi : i = c
    · subst hi; rw [markForClose_circ]
    · rw [markForClose_of_ne t reason hi]
  keep i hi := by
    by_cases hc : i = c
    · subst hc; rw [markForClose_circ, Option.getD_of_ne_none (Option.isSome_iff_ne_none.mp hi)]
    · rw [markForClose_of_ne t reason hc]

/-! ## Tables that keep every ident -/

/-- `t'` keeps every circuit's ident and end-to-end keys and the circuit map,
and a closed circuit stays closed: only purposes, exits, timestamps, path-bias
state and new marks may differ. The INTRODUCE_ACK path ends in such a table. -/
structure KeepsIdents (t t' : CircuitTable) : Prop where
  count : t'.count = t.count
  rendMap : t'.rendMap = t.rendMap
  hsIdent : ∀ i, (t'.circ i).hsIdent = (t.circ i).hsIdent
  e2eKeySeed : ∀ i, (t'.circ i).e2eKeySeed = (t.circ i).e2eKeySeed
  marked : ∀ i, (t.circ i).markedForClose.isSome → (t'.circ i).markedForClose.isSome

namespace KeepsIdents

variable {t t' t'' : CircuitTable}

theorem refl (t : CircuitTable) : KeepsIdents t t :=
  ⟨rfl, rfl, fun _ => rfl, fun _ => rfl, fun _ h => h⟩

theorem trans (h : KeepsIdents t t') (h' : KeepsIdents t' t'') : KeepsIdents t t'' :=
  ⟨h'.count.trans h.count, h'.rendMap.trans h.rendMap, fun i => (h'.hsIdent i).trans (h.hsIdent i),
    fun i => (h'.e2eKeySeed i).trans (h.e2eKeySeed i), fun i hi => h'.marked i (h.marked i hi)⟩

theorem of_marksOnly (h : MarksOnly t t') : KeepsIdents t t' :=
  ⟨h.count, h.rendMap, h.hsIdent, h.e2eKeySeed, fun _ hi => h.isSome hi⟩

theorem modify {c : Nat} {f : OriginCircuit → OriginCircuit} (hi : ∀ o, (f o).hsIdent = o.hsIdent)
    (he : ∀ o, (f o).e2eKeySeed = o.e2eKeySeed)
    (hm : ∀ o, (f o).markedForClose = o.markedForClose) :
    KeepsIdents t (t.modify c f) :=
  ⟨rfl, rfl, modify_proj t _ hi, modify_proj t _ he, fun i h => by rwa [modify_proj t _ hm i]⟩

end KeepsIdents

variable {c : Nat}

theorem changePurpose_keepsIdents (p : CircuitPurpose) : KeepsIdents t (t.changePurpose c p) :=
  .modify (fun _ => rfl) (fun _ => rfl) (fun _ => rfl)

theorem setTimestampDirty_keepsIdents (now : Nat) : KeepsIdents t (t.setTimestampDirty c now) :=
  .modify (fun _ => rfl) (fun _ => rfl) (fun _ => rfl)

theorem pathbiasMarkUseSuccess_keepsIdents : KeepsIdents t (t.pathbiasMarkUseSuccess c) :=
  .modify (fun _ => rfl) (fun _ => rfl) (fun _ => rfl)

theorem relaySendCommandFromEdge_keepsIdents : KeepsIdents t (t.relaySendCommandFromEdge c) :=
  .modify (fun _ => rfl) (fun _ => rfl) (fun _ => rfl)

theorem circuitExtendToNewExit_keepsIdents (ei : ExtendInfo) (failure : Option CircEndReason) :
    KeepsIdents t (t.circuitExtendToNewExit c ei failure).1 := by
  cases failure
  · dsimp only [circuitExtendToNewExit]
    exact .modify (fun _ => rfl) (fun _ => rfl) (fun _ => rfl)
  · exact .of_marksOnly (markForClose_marksOnly t c _)

end CircuitTable

end HsClient
