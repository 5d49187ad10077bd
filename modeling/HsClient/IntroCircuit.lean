import HsClient.Circuits
import HsClient.FetchScheduler
import HsClient.IntroSelection

/-!
# The introduction circuit

`send_introduce1`, the binding of an opened introduction circuit to its intro
point (`setup_intro_circ_auth_key`), and the handling of INTRODUCE_ACK:
success, a NACK that re-extends or gives up, and an unknown status. The
circuit-layer call that builds and relays INTRODUCE1 is modelled from the
spec; whether the cell went out is an input (`sent`), as are the random picks
and the outcome of the re-extension.
-/

namespace HsClient

/-- The `HS_CELL_INTRO_ACK_*` status codes of the INTRODUCE_ACK cell. -/
def hsCellIntroAckSuccess : Int := 0
def hsCellIntroAckFailure : Int := 1
def hsCellIntroAckBadfmt : Int := 2
def hsCellIntroAckNorelay : Int := 3

/-- Modelled from the spec: `hs_ident_intro_circ_is_valid`, an intro circuit's
ident is well formed when its service key and intro auth key are set. -/
def hsIdentIntroCircIsValid (ident : HsIdentCircuit) : Bool :=
  ident.identityPk != 0 && ident.introAuthPk != 0

def introCircIsOk (o : OriginCircuit) : Bool :=
  (o.purpose == .cIntroducing || o.purpose == .cIntroduceAckWait ||
    o.purpose == .cIntroduceAcked) && hsIdentIntroCircIsValid o.hsIdent

theorem introCircIsOk_isIntro {o : OriginCircuit} (h : introCircIsOk o = true) :
    o.purpose.IsIntro := by
  simp only [introCircIsOk, Bool.and_eq_true, Bool.or_eq_true, beq_iff_eq] at h
  unfold CircuitPurpose.IsIntro; exact or_assoc.mp h.1

namespace CircuitTable

variable (t : CircuitTable)

/-- Modelled from the spec: `hs_circ_send_introduce1` builds INTRODUCE1 from
the intro point and the rendezvous circuit and relays it to the intro point,
the last hop; after it the intro circuit carries the rendezvous cookie. When
the cell cannot be sent the intro circuit is already marked for close. -/
def hsCircSendIntroduce1 (intro rend : Nat) (sent : Bool) : CircuitTable × Int :=
  if sent then
    ((t.modify intro fun o =>
      { o with
        hsIdent := { o.hsIdent with rendezvousCookie := (t.circ rend).hsIdent.rendezvousCookie } }
      ).relaySendCommandFromEdge intro, 0)
  else (t.markForClose intro .internal, -1)

/-- The `perm_err:` path of `send_introduce1`: the intro circuit is closed
unless it already is, and the rendezvous circuit is closed. -/
def closeIntroductionLegs (intro rend : Nat) : CircuitTable :=
  let t := if (t.circ intro).markedForClose.isSome then t else t.markForClose intro .internal
  t.markForClose rend .internal

/-- What a successful `send_introduce1` writes: the intro point's keys into the
rendezvous circuit's ident, and the intro circuit waits for the ACK. -/
def introduce1Sent (intro rend : Nat) (ip : IntroPoint) (now : Nat) : CircuitTable :=
  let t := t.modify rend fun o =>
    { o with hsIdent := { o.hsIdent with introEncPk := ip.encKey,
                                         introAuthPk := (t.circ intro).hsIdent.introAuthPk } }
  ((t.changePurpose intro .cIntroduceAckWait).setTimestampDirty intro now
    ).pathbiasCountUseAttempt intro

/-- The `close:` path of `close_or_reextend_intro_circ`: the intro circuit is
moved to `INTRODUCE_ACKED` and closed unless it already is, and the live
rendezvous circuit under its cookie is closed. -/
def closeIntroAndRendCircs (c : Nat) : CircuitTable :=
  let t := if (t.circ c).markedForClose.isNone then
      (t.changePurpose c .cIntroduceAcked).markForClose c .finished
    else t
  match t.hsCircuitmapGetRendCircClientSide (t.circ c).hsIdent.rendezvousCookie with
  | some r => t.markForClose r .finished
  | none => t

/-- `handle_introduce_ack_success` on the circuits: the established rendezvous
circuit under the cookie moves to `REND_READY_INTRO_ACKED` unless it is
already joined, and the intro circuit is done. -/
def handleIntroduceAckSuccess (c now : Nat) : CircuitTable :=
  let t' := match t.hsCircuitmapGetEstablishedRendCircClientSide
    (t.circ c).hsIdent.rendezvousCookie with
    | none => t
    | some r =>
      if (t.circ r).purpose = CircuitPurpose.cRendJoined then t
      else (t.changePurpose r .cRendReadyIntroAcked).setTimestampDirty r now
  (t'.changePurpose c .cIntroduceAcked).markForClose c .finished

/-! ### What the intro-circuit operations change -/

variable {intro rend c : Nat} (i : Nat)

theorem closeIntroductionLegs_marksOnly : MarksOnly t (t.closeIntroductionLegs intro rend) := by
  unfold closeIntroductionLegs
  split
  · exact markForClose_marksOnly t rend _
  · exact (markForClose_marksOnly t intro _).trans (markForClose_marksOnly _ rend _)

theorem closeIntroductionLegs_marks :
    ((t.closeIntroductionLegs intro rend).circ intro).markedForClose =
        some ((t.circ intro).markedForClose.getD .internal) ∧
      ((t.closeIntroductionLegs intro rend).circ rend).markedForClose.isSome := by
  refine ⟨?_, markForClose_isSome _ _ _⟩
  by_cases hir : intro = rend
  · subst hir
    cases hm : (t.circ intro).markedForClose <;> simp [closeIntroductionLegs, hm]
  · cases hm : (t.circ intro).markedForClose <;> simp [closeIntroductionLegs, hm, hir]

@[simp] theorem hsCircSendIntroduce1_true_purpose :
    (((t.hsCircSendIntroduce1 intro rend true).1).circ i).purpose = (t.circ i).purpose := by
  by_cases h : i = intro <;> simp [hsCircSendIntroduce1, h]
@[simp] theorem hsCircSendIntroduce1_true_markedForClose :
    (((t.hsCircSendIntroduce1 intro rend true).1).circ i).markedForClose =
      (t.circ i).markedForClose := by
  by_cases h : i = intro <;> simp [hsCircSendIntroduce1, h]
@[simp] theorem hsCircSendIntroduce1_true_e2eKeySeed :
    (((t.hsCircSendIntroduce1 intro rend true).1).circ i).e2eKeySeed = (t.circ i).e2eKeySeed := by
  by_cases h : i = intro <;> simp [hsCircSendIntroduce1, h]
@[simp] theorem hsCircSendIntroduce1_true_chosenExit :
    (((t.hsCircSendIntroduce1 intro rend true).1).circ i).chosenExit = (t.circ i).chosenExit := by
  by_cases h : i = intro <;> simp [hsCircSendIntroduce1, h]
@[simp] theorem hsCircSendIntroduce1_true_remainingRelayEarlyCells :
    (((t.hsCircSendIntroduce1 intro rend true).1).circ i).remainingRelayEarlyCells =
      if i = intro then (t.circ intro).remainingRelayEarlyCells - 1
      else (t.circ i).remainingRelayEarlyCells := by
  by_cases h : i = intro <;> simp [hsCircSendIntroduce1, h]
theorem hsCircSendIntroduce1_true_hsIdent :
    (((t.hsCircSendIntroduce1 intro rend true).1).circ i).hsIdent =
      if i = intro then
        { (t.circ intro).hsIdent with rendezvousCookie := (t.circ rend).hsIdent.rendezvousCookie }
      else (t.circ i).hsIdent := by
  by_cases h : i = intro <;> simp [hsCircSendIntroduce1, h]
@[simp] theorem hsCircSendIntroduce1_count (sent : Bool) :
    (t.hsCircSendIntroduce1 intro rend sent).1.count = t.count := by cases sent <;> rfl
@[simp] theorem hsCircSendIntroduce1_rendMap (sent : Bool) :
    (t.hsCircSendIntroduce1 intro rend sent).1.rendMap = t.rendMap := by cases sent <;> rfl

variable (ip : IntroPoint) (now : Nat)

@[simp] theorem introduce1Sent_purpose :
    ((t.introduce1Sent intro rend ip now).circ i).purpose =
      if i = intro then .cIntroduceAckWait else (t.circ i).purpose := by
  by_cases h : i = rend <;> simp [introduce1Sent, h]
@[simp] theorem introduce1Sent_markedForClose :
    ((t.introduce1Sent intro rend ip now).circ i).markedForClose = (t.circ i).markedForClose := by
  by_cases h : i = rend <;> simp [introduce1Sent, h]
@[simp] theorem introduce1Sent_e2eKeySeed :
    ((t.introduce1Sent intro rend ip now).circ i).e2eKeySeed = (t.circ i).e2eKeySeed := by
  by_cases h : i = rend <;> simp [introduce1Sent, h]
theorem introduce1Sent_hsIdent :
    ((t.introduce1Sent intro rend ip now).circ i).hsIdent =
      if i = rend then
        { (t.circ rend).hsIdent with
          introEncPk := ip.encKey, introAuthPk := (t.circ intro).hsIdent.introAuthPk }
      else (t.circ i).hsIdent := by
  by_cases h : i = rend <;> simp [introduce1Sent, h]
@[simp] theorem introduce1Sent_count : (t.introduce1Sent intro rend ip now).count = t.count := rfl
@[simp] theorem introduce1Sent_rendMap :
    (t.introduce1Sent intro rend ip now).rendMap = t.rendMap := rfl

theorem closeIntroAndRendCircs_marksOnly :
    MarksOnly (if (t.circ c).markedForClose.isNone then
      (t.changePurpose c .cIntroduceAcked).markForClose c .finished else t)
      (t.closeIntroAndRendCircs c) := by
  have key : ∀ t' : CircuitTable, MarksOnly t'
      (match t'.hsCircuitmapGetRendCircClientSide (t'.circ c).hsIdent.rendezvousCookie with
        | some r => t'.markForClose r .finished
        | none => t') := by
    intro t'; split
    · exact markForClose_marksOnly _ _ _
    · exact MarksOnly.refl _
  exact key _

theorem closeIntroAndRendCircs_purpose :
    ((t.closeIntroAndRendCircs c).circ i).purpose =
      if i = c ∧ (t.circ c).markedForClose = none then .cIntroduceAcked else
        (t.circ i).purpose := by
  rw [(closeIntroAndRendCircs_marksOnly t).purpose i]
  by_cases hm : (t.circ c).markedForClose = none <;> by_cases hi : i = c <;> simp [hm, hi]

theorem closeIntroAndRendCircs_keepsIdents : KeepsIdents t (t.closeIntroAndRendCircs c) := by
  refine KeepsIdents.trans ?_ (.of_marksOnly (closeIntroAndRendCircs_marksOnly t))
  split
  · exact (changePurpose_keepsIdents t _).trans (.of_marksOnly (markForClose_marksOnly _ c _))
  · exact .refl t

theorem closeIntroAndRendCircs_marked_mono (hi : (t.circ i).markedForClose.isSome) :
    ((t.closeIntroAndRendCircs c).circ i).markedForClose.isSome := by
  apply (closeIntroAndRendCircs_marksOnly t).isSome
  split
  · exact markForClose_marked_mono _ c _ i (by simpa using hi)
  · exact hi

theorem closeIntroAndRendCircs_marked_self :
    ((t.closeIntroAndRendCircs c).circ c).markedForClose.isSome := by
  apply (closeIntroAndRendCircs_marksOnly t).isSome
  split
  · exact markForClose_isSome _ c _
  · rename_i h; cases hc : (t.circ c).markedForClose <;> simp_all

theorem closeIntroAndRendCircs_marked_rend {r : Nat}
    (hr : t.rendMap (t.circ c).hsIdent.rendezvousCookie = some r)
    (hrend : (t.circ r).purpose.IsRend) :
    ((t.closeIntroAndRendCircs c).circ r).markedForClose.isSome := by
  by_cases hrc : r = c
  · subst hrc; exact closeIntroAndRendCircs_marked_self t
  by_cases hm : (t.circ r).markedForClose.isSome
  · exact closeIntroAndRendCircs_marked_mono t r hm
  have hun : (t.circ r).markedForClose = none := Option.not_isSome_iff_eq_none.mp hm
  have key : ∀ t' : CircuitTable, t'.rendMap = t.rendMap → t'.circ r = t.circ r →
      (t'.circ c).hsIdent = (t.circ c).hsIdent →
      ((match t'.hsCircuitmapGetRendCircClientSide (t'.circ c).hsIdent.rendezvousCookie with
        | some r => t'.markForClose r .finished
        | none => t').circ r).markedForClose.isSome := by
    intro t' h1 h2 h3
    rw [hsCircuitmapGetRendCircClientSide_eq_some t' (by rw [h3, h1, hr]) (by rw [h2, hun])
      (by rw [h2]; exact hrend)]
    exact markForClose_isSome _ r _
  unfold closeIntroAndRendCircs
  exact key _ (by split <;> rfl)
    (by split <;> simp [markForClose_of_ne _ _ hrc, changePurpose, hrc])
    (by split <;> simp)

variable (now : Nat)

theorem handleIntroduceAckSuccess_purpose :
    ((t.handleIntroduceAckSuccess c now).circ i).purpose =
      if i = c then .cIntroduceAcked
      else if t.hsCircuitmapGetEstablishedRendCircClientSide (t.circ c).hsIdent.rendezvousCookie =
          some i ∧ (t.circ i).purpose ≠ .cRendJoined then .cRendReadyIntroAcked
      else (t.circ i).purpose := by
  unfold handleIntroduceAckSuccess
  dsimp only
  by_cases hi : i = c
  · simp [hi]
  simp only [markForClose_purpose, changePurpose_purpose, hi, if_false]
  split
  · simp_all
  · rename_i r hr
    by_cases hj : (t.circ r).purpose = .cRendJoined
    · by_cases hir : i = r
      · subst hir; simp [hj]
      · simp [hj, hr, Ne.symm hir]
    · by_cases hir : i = r
      · subst hir; simp [hj, hr]
      · simp [hj, hr, Ne.symm hir, hir]

theorem handleIntroduceAckSuccess_markedForClose :
    ((t.handleIntroduceAckSuccess c now).circ i).markedForClose =
      if i = c then some ((t.circ c).markedForClose.getD .finished) else
        (t.circ i).markedForClose := by
  unfold handleIntroduceAckSuccess
  dsimp only
  split
  · by_cases hi : i = c <;> simp [hi]
  · split <;> by_cases hi : i = c <;> simp [hi]

theorem handleIntroduceAckSuccess_of_established {r : Nat}
    (hr : t.hsCircuitmapGetEstablishedRendCircClientSide
    (t.circ c).hsIdent.rendezvousCookie = some r)
    (hj : (t.circ r).purpose ≠ .cRendJoined) :
    t.handleIntroduceAckSuccess c now =
      ((((t.changePurpose r .cRendReadyIntroAcked).setTimestampDirty r now).changePurpose c
        .cIntroduceAcked).markForClose c .finished) := by
  simp [handleIntroduceAckSuccess, hr, hj]

theorem handleIntroduceAckSuccess_of_joined {r : Nat}
    (hr : t.hsCircuitmapGetEstablishedRendCircClientSide
    (t.circ c).hsIdent.rendezvousCookie = some r)
    (hj : (t.circ r).purpose = .cRendJoined) :
    t.handleIntroduceAckSuccess c now =
      (t.changePurpose c .cIntroduceAcked).markForClose c .finished := by
  simp [handleIntroduceAckSuccess, hr, hj]

theorem handleIntroduceAckSuccess_keepsIdents :
    KeepsIdents t (t.handleIntroduceAckSuccess c now) := by
  unfold handleIntroduceAckSuccess
  refine KeepsIdents.trans ?_
    ((changePurpose_keepsIdents _ _).trans (.of_marksOnly (markForClose_marksOnly _ c _)))
  split
  · exact .refl t
  · split
    · exact .refl t
    · exact (changePurpose_keepsIdents t _).trans (setTimestampDirty_keepsIdents _ _)

end CircuitTable

namespace ClientCore

variable (X : Collaborators) (s : ClientCore)

/-- The transient path of `send_introduce1`: a refetch is ordered, then every
stream of the service waits for the descriptor again. -/
def refetchAndFlagConnWaitDesc (identityPk : Ed25519PublicKey) : ClientCore :=
  let s' := (s.hsClientRefetchHsdesc X identityPk).1
  { s' with conns := s'.conns.flagAllConnWaitDesc identityPk }

/-- `send_introduce1`: 0 on success, -1 for the transient error, -2 for the
permanent error (both circuits closed). -/
def sendIntroduce1 (intro rend : Nat) (sent : Bool) : ClientCore × Int :=
  if !introCircIsOk (s.circuits.circ intro) then
    ({ s with circuits := s.circuits.closeIntroductionLegs intro rend }, -2)
  else
    let identityPk := (s.circuits.circ intro).hsIdent.identityPk
    match s.descCache identityPk with
    | some desc =>
      if !hsClientAnyIntroPointsUsable s.introStateCache identityPk desc then
        (s.refetchAndFlagConnWaitDesc X identityPk, -1)
      else
        match findDescIntroPointByIdent (s.circuits.circ intro).hsIdent desc with
        | none => ({ s with circuits := s.circuits.closeIntroductionLegs intro rend }, -2)
        | some ip =>
          let r := s.circuits.hsCircSendIntroduce1 intro rend sent
          if r.2 < 0 then ({ s with circuits := r.1.closeIntroductionLegs intro rend }, -2)
          else ({ s with circuits := r.1.introduce1Sent intro rend ip s.now }, 0)
    | none => (s.refetchAndFlagConnWaitDesc X identityPk, -1)

/-- `setup_intro_circ_auth_key`: the intro point whose first legacy id is the
chosen exit's digest gives the circuit its intro auth key. -/
def setupIntroCircAuthKey (c : Nat) : ClientCore :=
  let o := s.circuits.circ c
  match s.descCache o.hsIdent.identityPk, o.chosenExit with
  | some desc, some exit =>
    match findDescIntroPointByLegacyId exit.identityDigest desc with
    | some ip =>
      { s with circuits := s.circuits.modify c fun o =>
          { o with hsIdent := { o.hsIdent with introAuthPk := ip.authKey } } }
    | none => s
  | _, _ => s

/-- `hs_client_reextend_intro_circuit`; `picks` feeds the random pick and
`extendFailure` is the outcome of `circuit_extend_to_new_exit`. -/
def hsClientReextendIntroCircuit (c : Nat) (picks : List Nat)
    (extendFailure : Option CircEndReason) : ClientCore × Int :=
  match clientGetRandomIntro s.descCache s.introStateCache s.options
      (s.circuits.circ c).hsIdent.identityPk picks with
  | none => ({ s with circuits := s.circuits.markForClose c .internal }, -1)
  | some ei =>
    if (s.circuits.circ c).remainingRelayEarlyCells != 0 then
      let r := s.circuits.circuitExtendToNewExit c ei extendFailure
      if r.2 == 0 then ({ s with circuits := r.1.setTimestampDirty c s.now }, 0)
      else ({ s with circuits := r.1 }, r.2)
    else ({ s with circuits := s.circuits.markForClose c .finished }, 0)

/-- `close_or_reextend_intro_circ`: 0 when re-extending, -1 when closing both
circuits. -/
def closeOrReextendIntroCirc (c : Nat) (picks : List Nat)
    (extendFailure : Option CircEndReason) : ClientCore × Int :=
  let identityPk := (s.circuits.circ c).hsIdent.identityPk
  match s.descCache identityPk with
  | none => ({ s with circuits := s.circuits.closeIntroAndRendCircs c }, -1)
  | some desc =>
    if !hsClientAnyIntroPointsUsable s.introStateCache identityPk desc then
      ({ s with circuits := s.circuits.closeIntroAndRendCircs c }, -1)
    else
      let r := s.hsClientReextendIntroCircuit c picks extendFailure
      if r.2 < 0 then ({ r.1 with circuits := r.1.circuits.closeIntroAndRendCircs c }, -1)
      else (r.1, 0)

/-- `handle_introduce_ack_bad`: back to `INTRODUCING`, and a generic failure
is noted against the circuit's intro point. -/
def handleIntroduceAckBad (c : Nat) : ClientCore :=
  let ident := (s.circuits.circ c).hsIdent
  { s with circuits := s.circuits.changePurpose c .cIntroducing,
           introStateCache := hsCacheClientIntroStateNote s.introStateCache s.now ident.identityPk
             ident.introAuthPk .generic }

/-- `handle_introduce_ack`; an unknown status is only logged. -/
def handleIntroduceAck (c : Nat) (payload : Payload) (picks : List Nat)
    (extendFailure : Option CircEndReason) : ClientCore × Int :=
  let status := X.hsCellParseIntroduceAck payload
  if status = hsCellIntroAckSuccess then
    ({ s with circuits := s.circuits.handleIntroduceAckSuccess c s.now }, 0)
  else if status = hsCellIntroAckFailure ∨ status = hsCellIntroAckBadfmt ∨
      status = hsCellIntroAckNorelay then
    (s.handleIntroduceAckBad c).closeOrReextendIntroCirc c picks extendFailure
  else (s, -1)

/-- `hs_client_receive_introduce_ack`: an ACK outside `INTRODUCE_ACK_WAIT` is a
protocol violation. -/
def hsClientReceiveIntroduceAck (c : Nat) (payload : Payload) (picks : List Nat)
    (extendFailure : Option CircEndReason) : ClientCore × Int :=
  if (s.circuits.circ c).purpose ≠ .cIntroduceAckWait then
    ({ s with circuits := s.circuits.markForClose c .torprotocol }, -1)
  else
    let r := s.handleIntroduceAck X c payload picks extendFailure
    ({ r.1 with circuits := r.1.circuits.pathbiasMarkUseSuccess c }, r.2)

/-! ### What the intro-circuit callbacks change -/

open CircuitTable

variable {X s}

theorem refetchAndFlagConnWaitDesc_frame (identityPk : Ed25519PublicKey) :
    FetchFrame s (s.refetchAndFlagConnWaitDesc X identityPk) :=
  (hsClientRefetchHsdesc_frame X s identityPk).trans (FetchFrame.conns _ _)

theorem sendIntroduce1_cases (intro rend : Nat) (sent : Bool) :
    (introCircIsOk (s.circuits.circ intro) = false ∧
      s.sendIntroduce1 X intro rend sent =
        ({ s with circuits := s.circuits.closeIntroductionLegs intro rend }, -2)) ∨
    (introCircIsOk (s.circuits.circ intro) = true ∧
      s.hasUsableDesc (s.circuits.circ intro).hsIdent.identityPk = false ∧
      s.sendIntroduce1 X intro rend sent =
        (s.refetchAndFlagConnWaitDesc X (s.circuits.circ intro).hsIdent.identityPk, -1)) ∨
    (introCircIsOk (s.circuits.circ intro) = true ∧
      s.hasUsableDesc (s.circuits.circ intro).hsIdent.identityPk = true ∧
      ∃ desc, s.descCache (s.circuits.circ intro).hsIdent.identityPk = some desc ∧
      (findDescIntroPointByIdent (s.circuits.circ intro).hsIdent desc = none ∧
        s.sendIntroduce1 X intro rend sent =
          ({ s with circuits := s.circuits.closeIntroductionLegs intro rend }, -2) ∨
       ∃ ip, findDescIntroPointByIdent (s.circuits.circ intro).hsIdent desc = some ip ∧
        (sent = false ∧ s.sendIntroduce1 X intro rend sent =
          ({ s with
              circuits :=
                (s.circuits.markForClose intro .internal).closeIntroductionLegs intro rend },
            -2) ∨
         sent = true ∧ s.sendIntroduce1 X intro rend sent =
          ({ s with
              circuits :=
                (s.circuits.hsCircSendIntroduce1 intro rend true).1.introduce1Sent intro rend ip
                  s.now },
            0)))) := by
  unfold sendIntroduce1 hasUsableDesc
  split
  · rename_i hok
    exact .inl ⟨by simpa using hok, rfl⟩
  rename_i hok
  replace hok : introCircIsOk (s.circuits.circ intro) = true := by simpa using hok
  dsimp only
  split
  · rename_i desc hd
    split
    · rename_i hu
      exact .inr (.inl ⟨hok, by simpa [hd] using hu, rfl⟩)
    rename_i hu
    refine .inr (.inr ⟨hok, by simpa [hd] using hu, desc, hd, ?_⟩)
    split
    · exact .inl ⟨‹_›, rfl⟩
    · rename_i ip hip
      cases sent
      · exact .inr ⟨ip, hip, .inl ⟨rfl, rfl⟩⟩
      · exact .inr ⟨ip, hip, .inr ⟨rfl, rfl⟩⟩
  · rename_i hd
    exact .inr (.inl ⟨hok, by simp [hd], rfl⟩)

theorem sendIntroduce1_failure {intro rend : Nat} {sent : Bool}
    (h : (s.sendIntroduce1 X intro rend sent).2 ≠ 0) :
    MarksOnly s.circuits (s.sendIntroduce1 X intro rend sent).1.circuits := by
  rcases sendIntroduce1_cases (X := X) (s := s) intro rend sent with
    ⟨_, h'⟩ | ⟨_, _, h'⟩ |
      ⟨_, _, _, _, ⟨_, h'⟩ | ⟨_, _, ⟨_, h'⟩ | ⟨_, h'⟩⟩⟩
  all_goals rw [h'] at h ⊢
  · exact closeIntroductionLegs_marksOnly _
  · rw [(refetchAndFlagConnWaitDesc_frame _).circuits]; exact .refl _
  · exact closeIntroductionLegs_marksOnly _
  · exact (markForClose_marksOnly _ _ _).trans (closeIntroductionLegs_marksOnly _)
  · exact absurd rfl h

theorem sendIntroduce1_success {intro rend : Nat} {sent : Bool}
    (h : (s.sendIntroduce1 X intro rend sent).2 = 0) :
    ∃ desc ip, introCircIsOk (s.circuits.circ intro) = true ∧
      s.descCache (s.circuits.circ intro).hsIdent.identityPk = some desc ∧
      findDescIntroPointByIdent (s.circuits.circ intro).hsIdent desc = some ip ∧ sent = true ∧
      (s.sendIntroduce1 X intro rend sent).1 =
        { s with
          circuits :=
            (s.circuits.hsCircSendIntroduce1 intro rend true).1.introduce1Sent intro rend ip
              s.now } := by
  rcases sendIntroduce1_cases (X := X) (s := s) intro rend sent with
    ⟨_, h'⟩ | ⟨_, _, h'⟩ |
      ⟨hok, _, desc, hd, ⟨_, h'⟩ | ⟨ip, hip, ⟨_, h'⟩ | ⟨hs, h'⟩⟩⟩ <;>
    rw [h'] at h ⊢ <;> try simp at h
  exact ⟨desc, ip, hok, hd, hip, hs, rfl⟩

theorem refetchAndFlagConnWaitDesc_parks {identityPk : Ed25519PublicKey} {i : Nat}
    (hi : i ∈ s.conns.connectionListByTypeState .ap apConnStateCircuitWait)
    (hk : (s.conns.conn i).hsIdent = some identityPk) :
    ((s.refetchAndFlagConnWaitDesc X identityPk).conns.conn i).state = apConnStateRenddescWait ∧
      ((s.refetchAndFlagConnWaitDesc X identityPk).conns.conn i).pending = false := by
  rw [ConnTable.mem_connectionListByTypeState] at hi
  have hw : i ∉ s.conns.connectionListByTypeState .ap apConnStateRenddescWait := by
    simp [ConnTable.mem_connectionListByTypeState, hi.2.2.1, apConnStateCircuitWait,
      apConnStateRenddescWait]
  obtain ⟨hle, heq⟩ := hsClientRefetchHsdesc_conn_of_lt X s identityPk hi.1 hw
  simp [refetchAndFlagConnWaitDesc, ConnTable.flagAllConnWaitDesc_conn,
    ConnTable.mem_connectionListByTypeState, heq, hi.2, Nat.lt_of_lt_of_le hi.1 hle,
    ConnTable.flagConnWaitDescIfFor, hk]

/-- `send_introduce1` returns -1, -2 or 0, each exactly under its guards. The
transient error changes no circuit, refetches the descriptor and parks the
service's streams that waited for a circuit; the permanent error closes both
circuits, the intro circuit at most once; success leaves the intro circuit
waiting for the ACK. -/
theorem send_introduce1_law (X : Collaborators) (s : ClientCore) (intro rend : Nat) (sent : Bool) :
    let S := (s.circuits.circ intro).hsIdent.identityPk
    let r := s.sendIntroduce1 X intro rend sent
    (r.2 = -1 ↔ introCircIsOk (s.circuits.circ intro) = true ∧
      (s.descCache S = none ∨
        ∃ desc, s.descCache S = some desc ∧
          hsClientAnyIntroPointsUsable s.introStateCache S desc = false)) ∧
    (r.2 = -2 ↔ introCircIsOk (s.circuits.circ intro) = false ∨
      introCircIsOk (s.circuits.circ intro) = true ∧
        ∃ desc, s.descCache S = some desc ∧
          hsClientAnyIntroPointsUsable s.introStateCache S desc = true ∧
          ((∀ ip ∈ desc.introPoints,
              ip.authKey ≠ (s.circuits.circ intro).hsIdent.introAuthPk) ∨
            sent = false)) ∧
    (r.2 = 0 ∨ r.2 = -1 ∨ r.2 = -2) ∧
    (r.2 = -1 →
      r.1.circuits = s.circuits ∧
      r.1 = { (s.hsClientRefetchHsdesc X S).1 with
              conns := (s.hsClientRefetchHsdesc X S).1.conns.flagAllConnWaitDesc S } ∧
      ∀ i < s.conns.count, (s.conns.conn i).type = .ap →
        (s.conns.conn i).state = apConnStateCircuitWait →
        (s.conns.conn i).markedForClose = false → (s.conns.conn i).hsIdent = some S →
        (r.1.conns.conn i).state = apConnStateRenddescWait ∧
          (r.1.conns.conn i).pending = false) ∧
    (r.2 = -2 →
      (r.1.circuits.circ intro).markedForClose =
        some ((s.circuits.circ intro).markedForClose.getD .internal) ∧
      (r.1.circuits.circ rend).markedForClose.isSome ∧
      (r.1.circuits.circ rend).hsIdent = (s.circuits.circ rend).hsIdent) ∧
    (r.2 = 0 → (r.1.circuits.circ intro).purpose = .cIntroduceAckWait) := by
  dsimp only
  rcases sendIntroduce1_cases (X := X) (s := s) intro rend sent with
    ⟨hok, h⟩ | ⟨hok, hu, h⟩ |
      ⟨hok, hu, desc, hd, ⟨hf, h⟩ | ⟨ip, hf, ⟨rfl, h⟩ | ⟨rfl, h⟩⟩⟩ <;>
    rw [h]
  · -- I fails intro_circ_is_ok
    simp [hok, closeIntroductionLegs_marks, (closeIntroductionLegs_marksOnly _).hsIdent]
  · -- no usable descriptor: the transient path
    have hu' := (hasUsableDesc_eq_false_iff _ _).mp hu
    refine ⟨by simpa [hok] using hu', ?_, by simp,
      fun _ => ⟨(refetchAndFlagConnWaitDesc_frame _).circuits, rfl, fun i hi hty hst hm hk =>
        refetchAndFlagConnWaitDesc_parks
          ((ConnTable.mem_connectionListByTypeState _).mpr ⟨hi, hty, hst, hm⟩) hk⟩,
      by simp, by simp⟩
    rcases hu' with hd | ⟨desc, hd, ha⟩
    · simp [hok, hd]
    · simp [hok, hd, ha]
  all_goals
    have ha : hsClientAnyIntroPointsUsable s.introStateCache
        (s.circuits.circ intro).hsIdent.identityPk desc = true := by
      simpa [hasUsableDesc, hd] using hu
  · -- the intro point of the ident is missing
    simp [hok, hd, ha, closeIntroductionLegs_marks, (closeIntroductionLegs_marksOnly _).hsIdent]
    exact .inl (findDescIntroPointByIdent_eq_none_iff.mp hf)
  · -- the cell could not be sent
    simp [hok, hd, ha, closeIntroductionLegs_marks, (closeIntroductionLegs_marksOnly _).hsIdent]
  · -- the cell was sent
    have hnf : ¬ ∀ ip ∈ desc.introPoints,
        ip.authKey ≠ (s.circuits.circ intro).hsIdent.introAuthPk := by
      rw [← findDescIntroPointByIdent_eq_none_iff, hf]; simp
    simp [hok, hd, ha, hnf]

theorem setupIntroCircAuthKey_spec (c : Nat) :
    ∃ t, s.setupIntroCircAuthKey c = { s with circuits := t } ∧ t.count = s.circuits.count ∧
      t.rendMap = s.circuits.rendMap ∧ (∀ i, i ≠ c → t.circ i = s.circuits.circ i) ∧
      ∃ k, t.circ c =
        { s.circuits.circ c with
          hsIdent := { (s.circuits.circ c).hsIdent with introAuthPk := k } } := by
  unfold setupIntroCircAuthKey
  dsimp only
  split
  · split
    · rename_i ip _
      exact ⟨_, rfl, rfl, rfl, fun i h => by simp [h], ip.authKey, by simp⟩
    · exact ⟨_, rfl, rfl, rfl, fun _ _ => rfl, _, rfl⟩
  · exact ⟨_, rfl, rfl, rfl, fun _ _ => rfl, _, rfl⟩

theorem hsClientReextendIntroCircuit_spec (c : Nat) (picks : List Nat)
    (extendFailure : Option CircEndReason) :
    (s.hsClientReextendIntroCircuit c picks extendFailure).1 =
      { s with circuits := (s.hsClientReextendIntroCircuit c picks extendFailure).1.circuits } ∧
    KeepsIdents s.circuits (s.hsClientReextendIntroCircuit c picks extendFailure).1.circuits ∧
    ∀ i, ((s.hsClientReextendIntroCircuit c picks extendFailure).1.circuits.circ i).purpose =
      (s.circuits.circ i).purpose := by
  unfold hsClientReextendIntroCircuit
  split
  · exact ⟨rfl, .of_marksOnly (markForClose_marksOnly _ _ _), by simp⟩
  · dsimp only
    split
    · split
      · exact ⟨rfl, (circuitExtendToNewExit_keepsIdents _ _ _).trans
          (setTimestampDirty_keepsIdents _ _), by simp⟩
      · exact ⟨rfl, circuitExtendToNewExit_keepsIdents _ _ _, by simp⟩
    · exact ⟨rfl, .of_marksOnly (markForClose_marksOnly _ _ _), by simp⟩

theorem hsClientReextendIntroCircuit_cases (c : Nat) (picks : List Nat)
    (extendFailure : Option CircEndReason) :
    (∃ ei, clientGetRandomIntro s.descCache s.introStateCache s.options
        (s.circuits.circ c).hsIdent.identityPk picks = some ei ∧
      (s.circuits.circ c).remainingRelayEarlyCells ≠ 0 ∧
      s.hsClientReextendIntroCircuit c picks extendFailure =
        ({ s with
            circuits := (s.circuits.circuitExtendToNewExit c ei none).1.setTimestampDirty c s.now },
          0)) ∨
    ((s.circuits.circ c).remainingRelayEarlyCells = 0 ∧
      s.hsClientReextendIntroCircuit c picks extendFailure =
        ({ s with circuits := s.circuits.markForClose c .finished }, 0)) ∨
    ((s.hsClientReextendIntroCircuit c picks extendFailure).2 = -1 ∧
      MarksOnly s.circuits (s.hsClientReextendIntroCircuit c picks extendFailure).1.circuits ∧
      (s.hsClientReextendIntroCircuit c picks extendFailure).1 =
        { s with
          circuits := (s.hsClientReextendIntroCircuit c picks extendFailure).1.circuits }) := by
  unfold hsClientReextendIntroCircuit
  split
  · exact .inr (.inr ⟨rfl, markForClose_marksOnly _ _ _, rfl⟩)
  · rename_i ei hei
    dsimp only
    split
    · rename_i hre
      cases extendFailure with
      | none => exact .inl ⟨ei, hei, by simpa using hre, rfl⟩
      | some reason => exact .inr (.inr ⟨rfl, markForClose_marksOnly _ _ _, rfl⟩)
    · rename_i hre
      exact .inr (.inl ⟨by simpa using hre, rfl⟩)

theorem closeOrReextendIntroCirc_spec (c : Nat) (picks : List Nat)
    (extendFailure : Option CircEndReason) :
    (s.closeOrReextendIntroCirc c picks extendFailure).1 =
      { s with circuits := (s.closeOrReextendIntroCirc c picks extendFailure).1.circuits } ∧
    KeepsIdents s.circuits (s.closeOrReextendIntroCirc c picks extendFailure).1.circuits ∧
    ∀ i, ((s.closeOrReextendIntroCirc c picks extendFailure).1.circuits.circ i).purpose =
        (s.circuits.circ i).purpose ∨
      (i = c ∧ ((s.closeOrReextendIntroCirc c picks extendFailure).1.circuits.circ c).purpose =
          .cIntroduceAcked ∧
        ((s.closeOrReextendIntroCirc c picks extendFailure).1.circuits.circ c
          ).markedForClose.isSome) := by
  have hclose : ∀ t : CircuitTable, ∀ i, ((t.closeIntroAndRendCircs c).circ i).purpose =
      (t.circ i).purpose ∨ (i = c ∧
        ((t.closeIntroAndRendCircs c).circ c).purpose = .cIntroduceAcked ∧
        ((t.closeIntroAndRendCircs c).circ c).markedForClose.isSome) := by
    intro t i
    rw [closeIntroAndRendCircs_purpose]
    split
    · rename_i h; obtain ⟨rfl, hm⟩ := h
      exact .inr ⟨rfl, by simp [closeIntroAndRendCircs_purpose, hm],
        closeIntroAndRendCircs_marked_self t⟩
    · exact .inl rfl
  unfold closeOrReextendIntroCirc
  dsimp only
  split
  · exact ⟨rfl, closeIntroAndRendCircs_keepsIdents _, hclose _⟩
  · split
    · exact ⟨rfl, closeIntroAndRendCircs_keepsIdents _, hclose _⟩
    · obtain ⟨h1, h2, h3⟩ := hsClientReextendIntroCircuit_spec (s := s) c picks extendFailure
      split
      · refine ⟨by rw [h1], h2.trans (closeIntroAndRendCircs_keepsIdents _), fun i => ?_⟩
        rcases hclose _ i with h | h
        · exact .inl (h.trans (h3 i))
        · exact .inr h
      · exact ⟨h1, h2, fun i => .inl (h3 i)⟩

theorem closeOrReextendIntroCirc_cases (c : Nat) (picks : List Nat)
    (extendFailure : Option CircEndReason) :
    (¬ (s.hsClientReextendIntroCircuit c picks extendFailure).2 < 0 ∧
      s.closeOrReextendIntroCirc c picks extendFailure =
        ((s.hsClientReextendIntroCircuit c picks extendFailure).1, 0)) ∨
    ((s.closeOrReextendIntroCirc c picks extendFailure).2 = -1 ∧ ∃ t, MarksOnly s.circuits t ∧
      (s.closeOrReextendIntroCirc c picks extendFailure).1 =
        { s with circuits := t.closeIntroAndRendCircs c }) := by
  unfold closeOrReextendIntroCirc
  dsimp only
  split
  · exact .inr ⟨rfl, _, .refl _, rfl⟩
  · split
    · exact .inr ⟨rfl, _, .refl _, rfl⟩
    · split
      · rename_i hneg
        rcases hsClientReextendIntroCircuit_cases (s := s) c picks extendFailure with
          ⟨_, _, _, h⟩ | ⟨_, h⟩ | ⟨-, hm, h⟩
        · rw [h] at hneg; exact absurd hneg (Int.lt_irrefl 0)
        · rw [h] at hneg; exact absurd hneg (Int.lt_irrefl 0)
        · exact .inr ⟨rfl, _, hm, by rw [h]⟩
      · exact .inl ⟨‹_›, rfl⟩

theorem hsClientReceiveIntroduceAck_of_success {c : Nat} {payload : Payload} (picks : List Nat)
    (extendFailure : Option CircEndReason) (hc : (s.circuits.circ c).purpose = .cIntroduceAckWait)
    (hack : X.hsCellParseIntroduceAck payload = hsCellIntroAckSuccess) :
    s.hsClientReceiveIntroduceAck X c payload picks extendFailure =
      ({ s with
          circuits := (s.circuits.handleIntroduceAckSuccess c s.now).pathbiasMarkUseSuccess c },
        0) := by
  simp [hsClientReceiveIntroduceAck, hc, handleIntroduceAck, hack]

theorem hsClientReceiveIntroduceAck_of_nack {c : Nat} {payload : Payload} (picks : List Nat)
    (extendFailure : Option CircEndReason) (hc : (s.circuits.circ c).purpose = .cIntroduceAckWait)
    (hnack : X.hsCellParseIntroduceAck payload = hsCellIntroAckFailure ∨
      X.hsCellParseIntroduceAck payload = hsCellIntroAckBadfmt ∨
      X.hsCellParseIntroduceAck payload = hsCellIntroAckNorelay) :
    s.hsClientReceiveIntroduceAck X c payload picks extendFailure =
      ({ ((s.handleIntroduceAckBad c).closeOrReextendIntroCirc c picks extendFailure).1 with
          circuits := ((s.handleIntroduceAckBad c).closeOrReextendIntroCirc c picks extendFailure
            ).1.circuits.pathbiasMarkUseSuccess c },
        ((s.handleIntroduceAckBad c).closeOrReextendIntroCirc c picks extendFailure).2) := by
  have hne : X.hsCellParseIntroduceAck payload ≠ hsCellIntroAckSuccess := by
    rcases hnack with h | h | h <;> rw [h] <;> decide
  simp only [hsClientReceiveIntroduceAck, hc, ne_eq, not_true_eq_false, if_false,
    handleIntroduceAck,
    hne, hnack, if_true]

theorem hsClientReceiveIntroduceAck_spec (c : Nat) (payload : Payload) (picks : List Nat)
    (extendFailure : Option CircEndReason) :
    let r := (s.hsClientReceiveIntroduceAck X c payload picks extendFailure).1
    r = { s with circuits := r.circuits, introStateCache := r.introStateCache } ∧
    KeepsIdents s.circuits r.circuits ∧
    ∀ i, (r.circuits.circ i).purpose = (s.circuits.circ i).purpose ∨
      (s.circuits.circ c).purpose = .cIntroduceAckWait ∧
        (i = c ∧ ((r.circuits.circ c).purpose = .cIntroducing ∨
            (r.circuits.circ c).purpose = .cIntroduceAcked ∧
              (r.circuits.circ c).markedForClose.isSome) ∨
          i ≠ c ∧ ((s.circuits.circ i).purpose = .cRendReady ∨
            (s.circuits.circ i).purpose = .cRendReadyIntroAcked) ∧
            (r.circuits.circ i).purpose = .cRendReadyIntroAcked) := by
  unfold hsClientReceiveIntroduceAck
  split
  · exact ⟨rfl, .of_marksOnly (markForClose_marksOnly _ _ _), fun i => .inl (by simp)⟩
  rename_i hc
  have hc : (s.circuits.circ c).purpose = .cIntroduceAckWait := not_not.mp hc
  have hpb : ∀ t, KeepsIdents t (t.pathbiasMarkUseSuccess c) := fun t =>
    pathbiasMarkUseSuccess_keepsIdents t
  dsimp only
  unfold handleIntroduceAck
  dsimp only
  split
  · refine ⟨rfl, (handleIntroduceAckSuccess_keepsIdents _ _).trans (hpb _), fun i => ?_⟩
    simp only [pathbiasMarkUseSuccess_purpose, pathbiasMarkUseSuccess_markedForClose,
      handleIntroduceAckSuccess_purpose, handleIntroduceAckSuccess_markedForClose]
    by_cases hi : i = c
    · subst hi; simp [hc]
    · simp only [hi, if_false]
      split
      · rename_i hr
        obtain ⟨-, -, hp⟩ := (hsCircuitmapGetEstablishedRendCircClientSide_eq_some _).mp hr.1
        exact .inr ⟨hc, .inr ⟨hi, by simpa [hr.2] using hp, rfl⟩⟩
      · exact .inl rfl
  · split
    · obtain ⟨h1, h2, h3⟩ := closeOrReextendIntroCirc_spec (s := s.handleIntroduceAckBad c) c picks
        extendFailure
      refine ⟨by rw [h1]; rfl,
        ((changePurpose_keepsIdents _ _).trans h2).trans (hpb _), fun i => ?_⟩
      simp only [pathbiasMarkUseSuccess_purpose, pathbiasMarkUseSuccess_markedForClose]
      rcases h3 i with h | ⟨rfl, h⟩
      · by_cases hi : i = c
        · subst hi
          exact .inr ⟨hc, .inl ⟨rfl, .inl (by simpa [handleIntroduceAckBad] using h)⟩⟩
        · exact .inl (by simpa [handleIntroduceAckBad, hi] using h)
      · exact .inr ⟨hc, .inl ⟨rfl, .inr h⟩⟩
    · exact ⟨rfl, hpb _, fun i => .inl (by simp)⟩

end ClientCore

end HsClient
