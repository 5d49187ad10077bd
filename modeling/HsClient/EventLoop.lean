import HsClient.IntroCircuit
import HsClient.RendCircuit

/-!
# The client core as a state machine

One event is one callback run to completion on the single-threaded event
loop (§5): a callback of `hs_client.c`, or what a collaborator does between
callbacks (the driver opens streams and launches circuits, the circuit layer
closes circuits, failure-cache entries are noted and expire, the
configuration and the directory information change, time passes). The
outcomes a collaborator decides (whether a cell went out, the random picks,
a re-extension's result) travel with the event.

`admissible` is what the callers promise: cells and opens are delivered to
live circuits only, `send_introduce1` is called on an open `INTRODUCING`
circuit and a `REND_READY` one, and a fetch completes on a live
`FETCH_HSDESC` connection. `Reachable` closes the initial state under
admissible events.
-/

namespace HsClient

/-- An introduction circuit as the driver launches it towards `ei`. -/
def introCircuitLaunched (identityPk : Ed25519PublicKey) (ei : ExtendInfo) (relayEarly : Nat) :
    OriginCircuit where
  purpose := .cIntroducing
  markedForClose := none
  opened := false
  hsIdent := ⟨identityPk, .intro, 0, 0, 0, ⟨0, 0⟩⟩
  chosenExit := some ei
  remainingRelayEarlyCells := relayEarly
  timestampDirty := 0
  e2eKeySeed := none
  pathbiasUseAttempt := false
  pathbiasUseSuccess := false

/-- A rendezvous circuit as the driver launches it towards the rendezvous
point `rp`, with a fresh cookie and client keypair. -/
def rendCircuitLaunched (identityPk : Ed25519PublicKey) (rp : ExtendInfo) (cookie : RendCookie)
    (kp : Curve25519Keypair) (relayEarly : Nat) : OriginCircuit where
  purpose := .cEstablishRend
  markedForClose := none
  opened := false
  hsIdent := ⟨identityPk, .rendezvous, 0, 0, cookie, kp⟩
  chosenExit := some rp
  remainingRelayEarlyCells := relayEarly
  timestampDirty := 0
  e2eKeySeed := none
  pathbiasUseAttempt := false
  pathbiasUseSuccess := false

/-- A new SOCKS stream for the service. -/
def apStream (identityPk : Ed25519PublicKey) (state : Nat) (pending : Bool) (now : Nat) :
    Connection where
  type := .ap
  state := state
  purpose := 0
  markedForClose := false
  hsIdent := some identityPk
  pending := pending
  endReason := none
  timestampCreated := now
  timestampLastReadAllowed := now
  timestampLastWriteAllowed := now

inductive Event where
  /-- `hs_client_send_introduce1`; `sent` is whether INTRODUCE1 went out. -/
  | sendIntroduce1 (intro rend : Nat) (sent : Bool)
  /-- `hs_client_circuit_has_opened`; `established` is whether
  ESTABLISH_RENDEZVOUS went out. -/
  | circuitHasOpened (c : Nat) (established : Bool)
  | receiveRendezvousAcked (c : Nat) (payload : Payload)
  /-- `hs_client_receive_introduce_ack`, with the picks and the outcome of a
  re-extension. -/
  | receiveIntroduceAck (c : Nat) (payload : Payload) (picks : List Nat)
      (extendFailure : Option CircEndReason)
  | receiveRendezvous2 (c : Nat) (payload : Payload)
  /-- A descriptor fetch on connection `i` ends: with a decoded descriptor it is
  stored and `hs_client_desc_has_arrived` runs; the connection closes. -/
  | dirFetchDone (i : Nat) (desc : Option Descriptor)
  | dirInfoChanged
  /-- `hs_client_purge_state`, on NEWNYM. -/
  | purgeState
  | noteConnectionAttemptSucceeded (i : Nat)
  /-- The driver opens a SOCKS stream for a service. -/
  | newStream (identityPk : Ed25519PublicKey)
  /-- The driver launches an introduction circuit to a random intro point. -/
  | launchIntroCircuit (identityPk : Ed25519PublicKey) (picks : List Nat) (relayEarly : Nat)
  /-- The driver launches a rendezvous circuit to a rendezvous point. -/
  | launchRendCircuit (identityPk : Ed25519PublicKey) (rp : ExtendInfo) (cookie : RendCookie)
      (kp : Curve25519Keypair) (relayEarly : Nat)
  /-- The circuit layer closes a circuit (timeout, DESTROY). -/
  | circuitClosed (c : Nat) (reason : CircEndReason)
  /-- A connection closes (the application, or a failed directory request). -/
  | connClosed (i : Nat)
  /-- A stream waiting for a circuit is attached to one. -/
  | streamAttached (i : Nat)
  /-- A directory connection moves to another state. -/
  | dirConnStateChanged (i state : Nat)
  | introStateNote (servicePk authKey : Ed25519PublicKey) (failure : IntroPointFailure)
  | introStateClean
  /-- A cached descriptor expires. -/
  | descCacheRemove (identityPk : Ed25519PublicKey)
  | setOptions (options : Options)
  | setNetwork (net : NetworkStatus)
  | tick (dt : Nat)

/-- The events that may change the circuit table: the circuit callbacks, and
what the driver and the circuit layer do to circuits. -/
def Event.touchesCircuits : Event → Bool
  | .sendIntroduce1 .. | .circuitHasOpened .. | .receiveRendezvousAcked .. | .receiveIntroduceAck ..
  | .receiveRendezvous2 .. | .launchIntroCircuit .. | .launchRendCircuit .. |
    .circuitClosed .. => true
  | _ => false

/-- The events that may change the connection table: what the driver and the
directory layer do to connections, and the callbacks that refetch. -/
def Event.touchesConns : Event → Bool
  | .sendIntroduce1 .. | .dirFetchDone .. | .dirInfoChanged | .purgeState | .newStream .. |
    .connClosed .. | .streamAttached .. | .dirConnStateChanged .. => true
  | _ => false

namespace ClientCore

/-- Nothing yet: no circuit, no connection, empty caches. -/
def init (options : Options) (net : NetworkStatus) (now : Nat) : ClientCore where
  circuits := ⟨fun _ => default, 0, fun _ => none⟩
  conns := ⟨fun _ => default, 0⟩
  descCache := fun _ => none
  introStateCache := fun _ => none
  lastHidServRequests := []
  options := options
  net := net
  now := now

variable (X : Collaborators) (s : ClientCore)

def clientIntroCircHasOpened (c : Nat) : ClientCore := s.setupIntroCircAuthKey c

/-- `hs_client_circuit_has_opened`, dispatched on the purpose. -/
def hsClientCircuitHasOpened (c : Nat) (established : Bool) : ClientCore :=
  match (s.circuits.circ c).purpose with
  | .cIntroducing => s.clientIntroCircHasOpened c
  | .cEstablishRend => s.clientRendezvousCircHasOpened c established
  | _ => s

/-- Modelled from the spec (§2, and the terminal statuses of §4.2 and I4): a
stream for a service with a usable descriptor waits for a circuit; otherwise it
waits for the descriptor and a fetch is ordered, and a terminal status of that
fetch closes the new stream. -/
def newStream (identityPk : Ed25519PublicKey) : ClientCore :=
  if s.hasUsableDesc identityPk then
    { s with conns := s.conns.add (apStream identityPk apConnStateCircuitWait true s.now) }
  else
    let r := { s with conns := s.conns.add (apStream identityPk apConnStateRenddescWait false s.now)
      }.hsClientRefetchHsdesc X identityPk
    if fetchStatusShouldCloseSocks r.2 then
      { r.1 with conns := r.1.conns.connectionMarkUnattachedAp s.conns.count .resolvefailed }
    else r.1

/-- A fetch on connection `i` ends, with the decoded descriptor if any. -/
def dirFetchDone (i : Nat) (desc : Option Descriptor) : ClientCore :=
  let s' := match (s.conns.conn i).hsIdent, desc with
    | some identityPk, some desc =>
      { s with descCache := Function.update s.descCache identityPk (some desc)
        }.hsClientDescHasArrived X identityPk
    | _, _ => s
  { s' with conns := s'.conns.connectionMarkForClose i }

/-- Deliver one event to the callback of `hs_client.c` it reaches; the `Int` is
that callback's return value (0 where it returns nothing). -/
def step : Event → ClientCore × Int
  | .sendIntroduce1 intro rend sent => s.sendIntroduce1 X intro rend sent
  | .circuitHasOpened c established =>
    ({ s with circuits := s.circuits.modify c fun o => { o with opened := true }
      }.hsClientCircuitHasOpened c established, 0)
  | .receiveRendezvousAcked c _ => s.hsClientReceiveRendezvousAcked c
  | .receiveIntroduceAck c payload picks extendFailure =>
    s.hsClientReceiveIntroduceAck X c payload picks extendFailure
  | .receiveRendezvous2 c payload => s.hsClientReceiveRendezvous2 X c payload
  | .dirFetchDone i desc => (s.dirFetchDone X i desc, 0)
  | .dirInfoChanged => (s.hsClientDirInfoChanged X, 0)
  | .purgeState => (s.hsClientPurgeState, 0)
  | .noteConnectionAttemptSucceeded i => (s.hsClientNoteConnectionAttemptSucceeded X i, 0)
  | .newStream identityPk => (s.newStream X identityPk, 0)
  | .launchIntroCircuit identityPk picks relayEarly =>
    match clientGetRandomIntro s.descCache s.introStateCache s.options identityPk picks with
    | some ei =>
      ({ s with circuits := s.circuits.launch (introCircuitLaunched identityPk ei relayEarly) }, 0)
    | none => (s, 0)
  | .launchRendCircuit identityPk rp cookie kp relayEarly =>
    ({ s with
        circuits := s.circuits.launch (rendCircuitLaunched identityPk rp cookie kp relayEarly) },
      0)
  | .circuitClosed c reason => ({ s with circuits := s.circuits.markForClose c reason }, 0)
  | .connClosed i => ({ s with conns := s.conns.connectionMarkForClose i }, 0)
  | .streamAttached i =>
    ({ s with
        conns := s.conns.modify i fun c => { c with state := apConnStateOpen, pending := false } },
      0)
  | .dirConnStateChanged i state =>
    ({ s with conns := s.conns.modify i fun c => { c with state := state } }, 0)
  | .introStateNote servicePk authKey failure =>
    ({ s with introStateCache :=
        hsCacheClientIntroStateNote s.introStateCache s.now servicePk authKey failure }, 0)
  | .introStateClean =>
    ({ s with introStateCache := hsCacheClientIntroStateClean s.introStateCache s.now }, 0)
  | .descCacheRemove identityPk =>
    ({ s with descCache := Function.update s.descCache identityPk none }, 0)
  | .setOptions options => ({ s with options := options }, 0)
  | .setNetwork net => ({ s with net := net }, 0)
  | .tick dt => ({ s with now := s.now + dt }, 0)

/-! ## What each event changes -/

theorem newStream_frame (identityPk : Ed25519PublicKey) :
    FetchFrame s (s.newStream X identityPk) := by
  unfold newStream
  split
  · exact FetchFrame.conns s _
  · have h := (FetchFrame.conns s (s.conns.add (apStream identityPk apConnStateRenddescWait false
      s.now))).trans (hsClientRefetchHsdesc_frame X _ identityPk)
    dsimp only
    split
    · exact h.trans (FetchFrame.conns _ _)
    · exact h

theorem dirFetchDone_circuits (i : Nat) (desc : Option Descriptor) :
    (s.dirFetchDone X i desc).circuits = s.circuits := by
  unfold dirFetchDone
  split
  · exact (hsClientDescHasArrived_frame X _ _).circuits
  · rfl

theorem step_circuits_of_quiet {e : Event} (h : e.touchesCircuits = false) :
    (s.step X e).1.circuits = s.circuits := by
  cases e <;> simp only [Event.touchesCircuits, Bool.true_eq_false] at h <;> simp only [step]
  case dirFetchDone i desc => exact dirFetchDone_circuits X s i desc
  case dirInfoChanged => exact (hsClientDirInfoChanged_frame X s).circuits
  case noteConnectionAttemptSucceeded i =>
    exact (hsClientNoteConnectionAttemptSucceeded_frame X s i).circuits
  case newStream k => exact (newStream_frame X s k).circuits
  all_goals rfl

open CircuitTable in
theorem hsClientCircuitHasOpened_spec (c : Nat) (established : Bool) :
    let r := s.hsClientCircuitHasOpened c established
    r = { s with circuits := r.circuits } ∧ r.circuits.count = s.circuits.count ∧
    ∀ i, (r.circuits.circ i).purpose = (s.circuits.circ i).purpose ∧
      (r.circuits.circ i).e2eKeySeed = (s.circuits.circ i).e2eKeySeed ∧
      ((s.circuits.circ i).markedForClose.isSome → (r.circuits.circ i).markedForClose.isSome) ∧
      ((r.circuits.circ i).hsIdent = (s.circuits.circ i).hsIdent ∨
        i = c ∧ (s.circuits.circ c).purpose = .cIntroducing ∧
        (r.circuits.circ c).hsIdent =
          { (s.circuits.circ c).hsIdent with
            introAuthPk := (r.circuits.circ c).hsIdent.introAuthPk }) := by
  unfold hsClientCircuitHasOpened
  split
  · rename_i hp
    obtain ⟨t, ht, hcount, -, hne, k, hk⟩ := setupIntroCircAuthKey_spec (s := s) c
    simp only [clientIntroCircHasOpened]
    rw [ht]
    refine ⟨rfl, hcount, fun i => ?_⟩
    by_cases hi : i = c
    · subst hi
      exact ⟨by rw [hk], by rw [hk], fun h => by rw [hk]; exact h, .inr ⟨rfl, hp, by rw [hk]⟩⟩
    · rw [hne i hi]
      exact ⟨rfl, rfl, id, .inl rfl⟩
  · refine ⟨by unfold clientRendezvousCircHasOpened; split <;> rfl,
      clientRendezvousCircHasOpened_count c established, fun i => ?_⟩
    rw [clientRendezvousCircHasOpened_circ]
    have hk : KeepsIdents s.circuits (if s.rendezvousPointLacksV3 c then s.circuits
        else s.circuits.hsCircSendEstablishRendezvous c established) := by
      split
      · exact .refl _
      · exact hsCircSendEstablishRendezvous_keepsIdents _ c established
    exact ⟨by split <;> simp, hk.e2eKeySeed i, hk.marked i, .inl (hk.hsIdent i)⟩
  · exact ⟨rfl, rfl, fun i => ⟨rfl, rfl, id, .inl rfl⟩⟩

open CircuitTable in
theorem step_circuitHasOpened (c : Nat) (established : Bool) :
    let r := (s.step X (.circuitHasOpened c established)).1
    r = { s with circuits := r.circuits } ∧ r.circuits.count = s.circuits.count ∧
    ∀ i, (r.circuits.circ i).purpose = (s.circuits.circ i).purpose ∧
      (r.circuits.circ i).e2eKeySeed = (s.circuits.circ i).e2eKeySeed ∧
      ((s.circuits.circ i).markedForClose.isSome → (r.circuits.circ i).markedForClose.isSome) ∧
      ((r.circuits.circ i).hsIdent = (s.circuits.circ i).hsIdent ∨
        i = c ∧ (s.circuits.circ c).purpose = .cIntroducing ∧
        (r.circuits.circ c).hsIdent =
          { (s.circuits.circ c).hsIdent with
            introAuthPk := (r.circuits.circ c).hsIdent.introAuthPk }) := by
  let s' : ClientCore :=
    { s with circuits := s.circuits.modify c fun o => { o with opened := true } }
  have h' : ∀ i, s'.circuits.circ i =
      { s.circuits.circ i with opened := (s'.circuits.circ i).opened } := fun i => by
    by_cases hi : i = c
    · subst hi; simp [s']
    · simp [s', hi]
  obtain ⟨h1, h2, h3⟩ := hsClientCircuitHasOpened_spec (s := s') c established
  refine ⟨h1, h2, fun i => ?_⟩
  obtain ⟨p1, p2, p3, p4⟩ := h3 i
  have hid : (s'.circuits.circ i).hsIdent = (s.circuits.circ i).hsIdent := by rw [h' i]
  have hpu : (s'.circuits.circ i).purpose = (s.circuits.circ i).purpose := by rw [h' i]
  refine ⟨p1.trans hpu, p2.trans (by rw [h' i]), fun hm => p3 (by rw [h' i]; exact hm), ?_⟩
  rcases p4 with p4 | ⟨rfl, hp, hk⟩
  · exact .inl (p4.trans hid)
  · exact .inr ⟨rfl, hpu ▸ hp, hk.trans (by rw [hid]; rfl)⟩

theorem step_conns_of_quiet {e : Event} (h : e.touchesConns = false) :
    (s.step X e).1.conns = s.conns := by
  cases e <;> simp only [Event.touchesConns, Bool.true_eq_false] at h
  case circuitHasOpened c established => rw [(step_circuitHasOpened X s c established).1]
  case receiveRendezvousAcked c payload =>
    show (s.hsClientReceiveRendezvousAcked c).1.conns = _
    rw [(hsClientReceiveRendezvousAcked_spec c).1]
  case receiveIntroduceAck c payload picks extendFailure =>
    show (s.hsClientReceiveIntroduceAck X c payload picks extendFailure).1.conns = _
    rw [(hsClientReceiveIntroduceAck_spec c payload picks extendFailure).1]
  case receiveRendezvous2 c payload =>
    rcases hsClientReceiveRendezvous2_cases (X := X) (s := s) c payload with
      ⟨_, _, -, -, -, heq⟩ | ⟨-, heq⟩ <;> simp only [step, heq]
  case noteConnectionAttemptSucceeded i =>
    show (s.hsClientNoteConnectionAttemptSucceeded X i).conns = _
    unfold hsClientNoteConnectionAttemptSucceeded
    split <;> rfl
  case launchIntroCircuit k picks relayEarly => simp only [step]; split <;> rfl
  all_goals rfl

/-- A live circuit of the table. -/
def liveCircuit (c : Nat) : Bool :=
    c < s.circuits.count && (s.circuits.circ c).markedForClose.isNone

/-- What the callers of each callback promise about its arguments. -/
def admissible : Event → Bool
  | .sendIntroduce1 intro rend _ =>
    s.liveCircuit intro && (s.circuits.circ intro).opened &&
      (s.circuits.circ intro).purpose == .cIntroducing &&
      s.liveCircuit rend && (s.circuits.circ rend).purpose == .cRendReady
  | .circuitHasOpened c _ => s.liveCircuit c && !(s.circuits.circ c).opened
  | .receiveRendezvousAcked c _ | .receiveIntroduceAck c _ _ _ | .receiveRendezvous2 c _ =>
    s.liveCircuit c
  | .dirFetchDone i _ =>
    i < s.conns.count && (s.conns.conn i).type == .dir &&
      (s.conns.conn i).purpose == dirPurposeFetchHsdesc && !(s.conns.conn i).markedForClose
  | .noteConnectionAttemptSucceeded i => i < s.conns.count && (s.conns.conn i).type == .ap
  | .circuitClosed c _ => c < s.circuits.count
  | .connClosed i => i < s.conns.count
  | .streamAttached i =>
    i < s.conns.count && (s.conns.conn i).type == .ap &&
      (s.conns.conn i).state == apConnStateCircuitWait && !(s.conns.conn i).markedForClose
  | .dirConnStateChanged i _ => i < s.conns.count && (s.conns.conn i).type == .dir
  | _ => true

/-- The state after a list of events. -/
def run : ClientCore → List Event → ClientCore
  | s, [] => s
  | s, e :: es => run (s.step X e).1 es

/-- Whether every event of the list is admissible where it is delivered. -/
def admissibleRun : ClientCore → List Event → Bool
  | _, [] => true
  | s, e :: es => s.admissible e && admissibleRun (s.step X e).1 es

end ClientCore

/-- One callback of a run: the state it starts from, the event, the state it
leaves and its return value. -/
structure StepRecord where
  pre : ClientCore
  event : Event
  post : ClientCore
  ret : Int

namespace ClientCore

variable (X : Collaborators)

/-- The callbacks of a run, in order. -/
def trace : ClientCore → List Event → List StepRecord
  | _, [] => []
  | s, e :: es => ⟨s, e, (s.step X e).1, (s.step X e).2⟩ :: trace (s.step X e).1 es

theorem trace_forall {P : ClientCore → Prop} {Q : StepRecord → Prop}
    (hstep : ∀ s e, P s → Q ⟨s, e, (s.step X e).1, (s.step X e).2⟩ ∧ P (s.step X e).1) :
    ∀ (s : ClientCore) (evs : List Event), P s → ∀ r ∈ s.trace X evs, Q r
  | _, [], _, _, h => by simp [trace] at h
  | s, e :: es, hs, r, h => by
    simp only [trace, List.mem_cons] at h
    rcases h with rfl | h
    · exact (hstep s e hs).1
    · exact trace_forall hstep _ es (hstep s e hs).2 r h

theorem run_of_trace {P : ClientCore → Prop} {Q : StepRecord → Prop}
    (hstep : ∀ s e, P s → Q ⟨s, e, (s.step X e).1, (s.step X e).2⟩ → P (s.step X e).1) :
    ∀ (s : ClientCore) (evs : List Event), P s → (∀ r ∈ s.trace X evs, Q r) → P (s.run X evs)
  | _, [], hs, _ => hs
  | s, e :: es, hs, h =>
    run_of_trace hstep _ es (hstep s e hs (h _ (List.mem_cons_self _ _)))
      fun r hr => h r (List.mem_cons_of_mem _ hr)

end ClientCore

/-- The states the client core reaches from a start under admissible events. -/
inductive Reachable (X : Collaborators) : ClientCore → Prop
  | init (options : Options) (net : NetworkStatus) (now : Nat) :
      Reachable X (ClientCore.init options net now)
  | step {s : ClientCore} {e : Event} :
      Reachable X s → s.admissible e = true → Reachable X (s.step X e).1

/-! ## A concrete client

Collaborators and a configuration to run the model on: blinding adds the time
period to the key, the cell parsers read the first bytes of the payload, and the
ntor derivation adds keys. -/

def sampleCollaborators : Collaborators where
  hsBuildBlindedPubkey identityPk period := identityPk + BitVec.ofNat 256 period
  hsGetTimePeriodNum now := now / 1440
  hsCellParseIntroduceAck
    | [] => 0
    | b :: _ => (b.toNat : Int)
  hsCellParseRendezvous2
    | a :: b :: _ => some (BitVec.ofNat 256 a.toNat, BitVec.ofNat 256 b.toNat)
    | _ => none
  hsNtorClientGetRendezvous1Keys authKey kp encKey serverPk :=
    some ⟨authKey + encKey + serverPk, kp.pubkey + serverPk⟩

/-- Fetches allowed, no node excluded, every address reachable. -/
def sampleOptions : Options := ⟨true, false, fun _ => false, fun _ => true⟩

/-- A live consensus in which one HSDir is responsible for every key and every
relay supports the v3 rendezvous protocol. -/
def sampleNetwork : NetworkStatus := ⟨true, true, fun _ _ => [9#160], fun _ => some true⟩

/-- The rendezvous point the driver picks, relay `13` at `15:80`. -/
def sampleRendezvousPoint : ExtendInfo := ⟨13, none, 14, 15, 80⟩

/-- One intro point, on relay `5` at `7:80`, with auth key `2` and encryption
key `4`. -/
def sampleIntroPoint : IntroPoint := ⟨[.legacyId 5, .ipv4 7 80], 3, 2, 4⟩

def sampleDescriptor : Descriptor := ⟨⟨0, 0, 0⟩, [sampleIntroPoint]⟩

/-- Service `1`'s introduction run until INTRODUCE1 is due: intro circuit `0`
is open and bound to `sampleIntroPoint`, rendezvous circuit `1` is ready under
cookie `6`. -/
def sampleIntroduction : ClientCore :=
  (ClientCore.init sampleOptions sampleNetwork 0).run sampleCollaborators
    [.newStream 1, .dirFetchDone 1 (some sampleDescriptor), .launchIntroCircuit 1 [0] 8,
     .launchRendCircuit 1 sampleRendezvousPoint 6 ⟨11, 12⟩ 8, .circuitHasOpened 0 true, .circuitHasOpened 1 true,
     .receiveRendezvousAcked 1 []]

/-- `sampleIntroduction` after INTRODUCE1 went out: INTRODUCE_ACK and RENDEZVOUS2 are both
due. -/
def sampleHandshake : ClientCore :=
  (sampleIntroduction.step sampleCollaborators (.sendIntroduce1 0 1 true)).1

theorem Reachable.run {X : Collaborators} :
    ∀ {s : ClientCore} (evs : List Event), Reachable X s → s.admissibleRun X evs = true →
      Reachable X (s.run X evs)
  | _, [], hs, _ => hs
  | _, _ :: es, hs, h => by
    simp only [ClientCore.admissibleRun, Bool.and_eq_true] at h
    exact Reachable.run es (hs.step h.1) h.2

theorem reachable_sampleIntroduction : Reachable sampleCollaborators sampleIntroduction :=
  Reachable.run _ (.init _ _ _) (by decide)

end HsClient
