import HsClient.Circuits

/-!
# The rendezvous circuit

Opening the rendezvous circuit (the v3 check of its rendezvous point,
ESTABLISH_RENDEZVOUS and registration in the circuit map),
RENDEZVOUS_ESTABLISHED, and RENDEZVOUS2: the cell is parsed,
the ntor keys are derived from the circuit ident and the server's key, and
the received AUTH_MAC must equal the derived one before the end-to-end keys
are installed. Every other outcome closes the circuit as a protocol violation.
-/

namespace HsClient

/-- Modelled from the spec: `hs_ntor_client_rendezvous2_mac_is_good`, the
constant-time comparison of the received AUTH_MAC with the derived one. -/
def hsNtorClientRendezvous2MacIsGood (keys : NtorRendCellKeys) (authMac : Digest256) : Bool :=
  keys.rendCellAuthMac == authMac

/-- Modelled from the spec: `hs_circ_send_establish_rendezvous` sends
ESTABLISH_RENDEZVOUS to the rendezvous point, the last hop; `established` is
whether the cell went out, and when it cannot the circuit is marked for
close. -/
def CircuitTable.hsCircSendEstablishRendezvous (t : CircuitTable) (c : Nat) (established : Bool) :
    CircuitTable :=
  if established then t.relaySendCommandFromEdge c else t.markForClose c .internal

namespace ClientCore

variable (X : Collaborators) (s : ClientCore)

/-- The `BUG()` check of `client_rendezvous_circ_has_opened`: the node list
knows the circuit's rendezvous point and it does not support v3. -/
def rendezvousPointLacksV3 (c : Nat) : Bool :=
  match (s.circuits.circ c).chosenExit with
  | some rpEi => s.net.nodeSupportsV3RendezvousPoint rpEi.identityDigest == some false
  | none => false

def clientRendezvousCircHasOpened (c : Nat) (established : Bool) : ClientCore :=
  if s.rendezvousPointLacksV3 c then s
  else
    let t := s.circuits.hsCircSendEstablishRendezvous c established
    let t := if (t.circ c).markedForClose.isNone then
        t.hsCircuitmapRegisterRendCircClientSide c (t.circ c).hsIdent.rendezvousCookie
      else t
    { s with circuits := t }

def hsClientReceiveRendezvousAcked (c : Nat) : ClientCore × Int :=
  if (s.circuits.circ c).purpose ≠ .cEstablishRend then
    ({ s with circuits := s.circuits.markForClose c .torprotocol }, -1)
  else
    ({ s with
        circuits := ((s.circuits.changePurpose c .cRendReady).setTimestampDirty c s.now
          ).pathbiasMarkUseSuccess c },
      0)

/-- The keys `handle_rendezvous2` derives for a RENDEZVOUS2 payload on circuit
`o`, with the AUTH_MAC the payload carries; `none` when the cell does not
parse or the derivation fails. -/
def rendezvous2Keys (o : OriginCircuit) (payload : Payload) :
    Option (NtorRendCellKeys × Digest256) :=
  match X.hsCellParseRendezvous2 payload with
  | none => none
  | some (serverPk, authMac) =>
    (X.hsNtorClientGetRendezvous1Keys o.hsIdent.introAuthPk o.hsIdent.rendezvousClientKp
      o.hsIdent.introEncPk serverPk).map fun keys => (keys, authMac)

def handleRendezvous2 (c : Nat) (payload : Payload) : ClientCore × Int :=
  match rendezvous2Keys X (s.circuits.circ c) payload with
  | some (keys, authMac) =>
    if hsNtorClientRendezvous2MacIsGood keys authMac then
      ({ s with circuits := s.circuits.hsCircuitSetupE2eRendCirc c keys.ntorKeySeed }, 0)
    else ({ s with circuits := s.circuits.markForClose c .torprotocol }, -1)
  | none => ({ s with circuits := s.circuits.markForClose c .torprotocol }, -1)

/-- `hs_client_receive_rendezvous2`: the cell is expected in `REND_READY` and,
when it overtakes the INTRODUCE_ACK, in `REND_READY_INTRO_ACKED`. -/
def hsClientReceiveRendezvous2 (c : Nat) (payload : Payload) : ClientCore × Int :=
  if (s.circuits.circ c).purpose ≠ .cRendReady ∧
      (s.circuits.circ c).purpose ≠ .cRendReadyIntroAcked then
    ({ s with circuits := s.circuits.markForClose c .torprotocol }, -1)
  else s.handleRendezvous2 X c payload

/-! ## What the rendezvous callbacks change -/

open CircuitTable

variable {X s}

theorem hsCircSendEstablishRendezvous_keepsIdents (t : CircuitTable) (c : Nat)
    (established : Bool) : KeepsIdents t (t.hsCircSendEstablishRendezvous c established) := by
  unfold hsCircSendEstablishRendezvous
  split
  · exact relaySendCommandFromEdge_keepsIdents t
  · exact .of_marksOnly (markForClose_marksOnly t c _)

@[simp] theorem hsCircSendEstablishRendezvous_purpose (t : CircuitTable) (c : Nat)
    (established : Bool) (i : Nat) :
    ((t.hsCircSendEstablishRendezvous c established).circ i).purpose = (t.circ i).purpose := by
  unfold hsCircSendEstablishRendezvous; split <;> simp

theorem clientRendezvousCircHasOpened_circ (c : Nat) (established : Bool) :
    (s.clientRendezvousCircHasOpened c established).circuits.circ =
      (if s.rendezvousPointLacksV3 c then s.circuits
        else s.circuits.hsCircSendEstablishRendezvous c established).circ := by
  unfold clientRendezvousCircHasOpened; split
  · rfl
  · dsimp only; split <;> rfl

theorem clientRendezvousCircHasOpened_count (c : Nat) (established : Bool) :
    (s.clientRendezvousCircHasOpened c established).circuits.count = s.circuits.count := by
  unfold clientRendezvousCircHasOpened hsCircSendEstablishRendezvous
  split
  · rfl
  · dsimp only; split <;> split <;> rfl

theorem clientRendezvousCircHasOpened_rendMap (c : Nat) (established : Bool) :
    (s.clientRendezvousCircHasOpened c established).circuits.rendMap = s.circuits.rendMap ∨
    (s.clientRendezvousCircHasOpened c established).circuits.rendMap =
      Function.update s.circuits.rendMap (s.circuits.circ c).hsIdent.rendezvousCookie (some c) := by
  unfold clientRendezvousCircHasOpened hsCircSendEstablishRendezvous
  split
  · exact .inl rfl
  dsimp only
  split <;> split
  all_goals first
    | exact .inl rfl
    | exact .inr (by simp [hsCircuitmapRegisterRendCircClientSide])

theorem hsClientReceiveRendezvousAcked_spec (c : Nat) :
    let r := (s.hsClientReceiveRendezvousAcked c).1
    r = { s with circuits := r.circuits } ∧ KeepsIdents s.circuits r.circuits ∧
    ∀ i, (r.circuits.circ i).purpose =
      if i = c ∧ (s.circuits.circ c).purpose = .cEstablishRend then .cRendReady
      else (s.circuits.circ i).purpose := by
  unfold hsClientReceiveRendezvousAcked
  split
  · rename_i h
    exact ⟨rfl, .of_marksOnly (markForClose_marksOnly _ _ _), fun i => by simp [h]⟩
  · rename_i h
    refine ⟨rfl, ((changePurpose_keepsIdents _ _).trans (setTimestampDirty_keepsIdents _ _)).trans
      (pathbiasMarkUseSuccess_keepsIdents _), fun i => ?_⟩
    by_cases hi : i = c <;> simp_all

theorem hsClientReceiveRendezvous2_cases (c : Nat) (payload : Payload) :
    (∃ keys authMac, ((s.circuits.circ c).purpose = .cRendReady ∨
        (s.circuits.circ c).purpose = .cRendReadyIntroAcked) ∧
      rendezvous2Keys X (s.circuits.circ c) payload = some (keys, authMac) ∧
      keys.rendCellAuthMac = authMac ∧
      s.hsClientReceiveRendezvous2 X c payload =
        ({ s with circuits := s.circuits.hsCircuitSetupE2eRendCirc c keys.ntorKeySeed }, 0)) ∨
    ((((s.circuits.circ c).purpose ≠ .cRendReady ∧
        (s.circuits.circ c).purpose ≠ .cRendReadyIntroAcked) ∨
      ∀ keys authMac, rendezvous2Keys X (s.circuits.circ c) payload = some (keys, authMac) →
        keys.rendCellAuthMac ≠ authMac) ∧
      s.hsClientReceiveRendezvous2 X c payload =
        ({ s with circuits := s.circuits.markForClose c .torprotocol }, -1)) := by
  unfold hsClientReceiveRendezvous2
  split
  · exact .inr ⟨.inl ‹_›, rfl⟩
  rename_i hp
  have hp : (s.circuits.circ c).purpose = .cRendReady ∨
      (s.circuits.circ c).purpose = .cRendReadyIntroAcked := by
    by_cases h : (s.circuits.circ c).purpose = .cRendReady
    · exact .inl h
    · exact .inr (by simpa [h] using hp)
  unfold handleRendezvous2
  split
  · rename_i keys authMac hk
    by_cases hm : keys.rendCellAuthMac = authMac
    · exact .inl ⟨keys, authMac, hp, hk, hm, by simp [hsNtorClientRendezvous2MacIsGood, hm]⟩
    · refine .inr ⟨.inr fun k m h => ?_, by simp [hsNtorClientRendezvous2MacIsGood, hm]⟩
      rw [hk] at h; cases h; exact hm
  · rename_i hk
    exact .inr ⟨.inr fun k m h => absurd h (by rw [hk]; simp), rfl⟩

theorem rendezvous2Keys_congr {o o' : OriginCircuit} (h : o'.hsIdent = o.hsIdent)
    (payload : Payload) :
    rendezvous2Keys X o' payload = rendezvous2Keys X o payload := by
  unfold rendezvous2Keys; rw [h]

theorem hsClientReceiveRendezvous2_of_verified {c : Nat} {payload : Payload}
    {keys : NtorRendCellKeys} {authMac : Digest256}
    (hp : (s.circuits.circ c).purpose = .cRendReady ∨
      (s.circuits.circ c).purpose = .cRendReadyIntroAcked)
    (hk : rendezvous2Keys X (s.circuits.circ c) payload = some (keys, authMac))
    (hm : keys.rendCellAuthMac = authMac) :
    s.hsClientReceiveRendezvous2 X c payload =
      ({ s with circuits := s.circuits.hsCircuitSetupE2eRendCirc c keys.ntorKeySeed }, 0) := by
  rcases hsClientReceiveRendezvous2_cases (X := X) (s := s) c payload with
    ⟨keys', authMac', -, hk', -, heq⟩ | ⟨hbad, -⟩
  · rw [hk] at hk'; cases hk'; exact heq
  · rcases hbad with ⟨h1, h2⟩ | hbad
    · rcases hp with hp | hp <;> contradiction
    · exact absurd hm (hbad keys authMac hk)

end ClientCore

end HsClient
