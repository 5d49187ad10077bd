import HsClient.Caches
import HsClient.Connections

/-!
# Descriptor fetches and the streams waiting for them

`hs_client_refetch_hsdesc` with its pre-checks and the HSDir pick, the loops
that react to a fetch's outcome (`close_all_socks_conns_waiting_for_desc`,
`retry_all_socks_conn_waiting_for_desc`, `hs_client_desc_has_arrived`), and
`hs_client_purge_state`. The directory request itself is modelled from the
spec: one new live connection of purpose `DIR_PURPOSE_FETCH_HSDESC` that
carries the service key.
-/

namespace HsClient

inductive HsClientFetchStatus where
  | error
  | launched
  | haveDesc
  | noHsdirs
  | notAllowed
  | missingInfo
  | pending
  deriving DecidableEq, Repr

def fetchStatusShouldCloseSocks : HsClientFetchStatus → Bool
  | .noHsdirs | .error | .notAllowed => true
  | .missingInfo | .haveDesc | .pending | .launched => false

/-- Modelled from the spec: the directory connection that
`directory_launch_v3_desc_fetch` opens, sending its request. -/
def hsDescFetchConnection (identityPk : Ed25519PublicKey) (now : Nat) : Connection where
  type := .dir
  state := dirConnStateClientSending
  purpose := dirPurposeFetchHsdesc
  markedForClose := false
  hsIdent := some identityPk
  pending := false
  endReason := none
  timestampCreated := now
  timestampLastReadAllowed := now
  timestampLastWriteAllowed := now

namespace ClientCore

variable (X : Collaborators) (s : ClientCore)

/-- The service's blinded key for the current time period: `hs_build_blinded_pubkey`
at `hs_get_time_period_num(0)`. -/
def currentBlindedPubkey (identityPk : Ed25519PublicKey) : Ed25519PublicKey :=
  X.hsBuildBlindedPubkey identityPk (X.hsGetTimePeriodNum s.now)

/-- `directory_request_is_pending`: a live `FETCH_HSDESC` directory connection
carries the key (one without an ident is skipped). -/
def directoryRequestIsPending (identityPk : Ed25519PublicKey) : Bool :=
  (s.conns.connectionListByTypePurpose .dir dirPurposeFetchHsdesc).any fun i =>
    (s.conns.conn i).hsIdent == some identityPk

/-- Whether the cached descriptor of the service has a usable intro point. -/
def hasUsableDesc (identityPk : Ed25519PublicKey) : Bool :=
  match s.descCache identityPk with
  | some desc => hsClientAnyIntroPointsUsable s.introStateCache identityPk desc
  | none => false

/-- `can_client_refetch_desc`: `none` when the client may fetch, else the
status it reports. -/
def canClientRefetchDesc (identityPk : Ed25519PublicKey) : Option HsClientFetchStatus :=
  if !s.options.fetchHidServDescriptors then some .notAllowed
  else if !s.net.liveConsensus then some .missingInfo
  else if !s.net.minimumDirInfo then some .missingInfo
  else if s.hasUsableDesc identityPk then some .haveDesc
  else if s.directoryRequestIsPending identityPk then some .pending
  else none

/-- `pick_hsdir_v3`; the pick is remembered in the request history. The
base64 encoding of the blinded key cannot fail. -/
def pickHsdirV3 (identityPk : Ed25519PublicKey) : Option Digest × ClientCore :=
  let period := X.hsGetTimePeriodNum s.now
  let blindedPk := X.hsBuildBlindedPubkey identityPk period
  let pick := hsPickHsdir s.lastHidServRequests (s.net.responsibleHsdirs blindedPk period) blindedPk
  (pick.1, { s with lastHidServRequests := pick.2 })

def directoryLaunchV3DescFetch (identityPk : Ed25519PublicKey) : ClientCore × HsClientFetchStatus :=
  ({ s with conns := s.conns.add (hsDescFetchConnection identityPk s.now) }, .launched)

def fetchV3Desc (identityPk : Ed25519PublicKey) : ClientCore × HsClientFetchStatus :=
  match s.pickHsdirV3 X identityPk with
  | (none, s') => (s', .noHsdirs)
  | (some _, s') => s'.directoryLaunchV3DescFetch identityPk

def purgeHidServRequest (identityPk : Ed25519PublicKey) : ClientCore :=
  { s with
    lastHidServRequests :=
      hsPurgeHidServFromLastHidServRequests s.lastHidServRequests
        (s.currentBlindedPubkey X identityPk) }

def hsClientRefetchHsdesc (identityPk : Ed25519PublicKey) : ClientCore × HsClientFetchStatus :=
  match s.canClientRefetchDesc identityPk with
  | some status => (s, status)
  | none =>
    let r := s.fetchV3Desc X identityPk
    if fetchStatusShouldCloseSocks r.2 then
      ({ r.1 with conns := r.1.conns.closeAllSocksConnsWaitingForDesc identityPk .resolvefailed
        }.purgeHidServRequest X identityPk, r.2)
    else r

/-- The loop of `retry_all_socks_conn_waiting_for_desc` over its snapshot. It
also returns the status of every refetch it orders, in order. -/
def retryAllSocksConnWaitingForDescLoop : List Nat → ClientCore →
    ClientCore × List HsClientFetchStatus
  | [], s => (s, [])
  | i :: rest, s =>
    match (s.conns.conn i).hsIdent with
    | none => retryAllSocksConnWaitingForDescLoop rest s
    | some identityPk =>
      if (s.conns.conn i).markedForClose then retryAllSocksConnWaitingForDescLoop rest s
      else
        let r := s.hsClientRefetchHsdesc X identityPk
        let next := retryAllSocksConnWaitingForDescLoop rest r.1
        (next.1, r.2 :: next.2)

def retryAllSocksConnWaitingForDesc : ClientCore × List HsClientFetchStatus :=
  retryAllSocksConnWaitingForDescLoop X
    (s.conns.connectionListByTypeState .ap apConnStateRenddescWait) s

def hsClientDirInfoChanged : ClientCore := (s.retryAllSocksConnWaitingForDesc X).1

def noteConnectionAttemptSucceeded (identityPk : Ed25519PublicKey) : ClientCore :=
  s.purgeHidServRequest X identityPk

/-- The body of `hs_client_desc_has_arrived` at a stream of the service. -/
def descHasArrivedAt (identityPk : Ed25519PublicKey) (now i : Nat) (desc : Descriptor) :
    ClientCore :=
  if !hsClientAnyIntroPointsUsable s.introStateCache identityPk desc then
    { s with conns := s.conns.connectionMarkUnattachedAp i .resolvefailed
      }.noteConnectionAttemptSucceeded X identityPk
  else
    { s with conns := s.conns.modify i fun c =>
        { c with timestampCreated := now, timestampLastReadAllowed := now,
                 timestampLastWriteAllowed := now, state := apConnStateCircuitWait,
                 pending := true } }

/-- The loop of `hs_client_desc_has_arrived`; a missing descriptor ends it. -/
def hsClientDescHasArrivedLoop (identityPk : Ed25519PublicKey) (now : Nat) :
    List Nat → ClientCore → ClientCore
  | [], s => s
  | i :: rest, s =>
    if (s.conns.conn i).hsIdent != some identityPk then
      hsClientDescHasArrivedLoop identityPk now rest s
    else
      match s.descCache identityPk with
      | none => s
      | some desc =>
        hsClientDescHasArrivedLoop identityPk now rest (s.descHasArrivedAt X identityPk now i desc)

/-- `hs_client_desc_has_arrived` for the service key of the directory ident. -/
def hsClientDescHasArrived (identityPk : Ed25519PublicKey) : ClientCore :=
  hsClientDescHasArrivedLoop X identityPk s.now
    (s.conns.connectionListByTypeState .ap apConnStateRenddescWait) s

/-- `hs_client_note_connection_attempt_succeeded` for the stream at `i`. -/
def hsClientNoteConnectionAttemptSucceeded (i : Nat) : ClientCore :=
  match (s.conns.conn i).hsIdent with
  | some identityPk => s.noteConnectionAttemptSucceeded X identityPk
  | none => s

/-- `hs_client_purge_state`: cancel the descriptor fetches, then purge the
failure cache, the descriptor cache and the HSDir request history. -/
def hsClientPurgeState : ClientCore :=
  { s with conns := s.conns.cancelDescriptorFetches, introStateCache := fun _ => none,
           descCache := fun _ => none, lastHidServRequests := [] }

end ClientCore

/-! ## What the fetch layer leaves alone -/

/-- `s'` differs from `s` at most in the connections and the HSDir request
history: the fetch layer never touches a circuit, a cache or the
configuration. -/
structure FetchFrame (s s' : ClientCore) : Prop where
  circuits : s'.circuits = s.circuits
  descCache : s'.descCache = s.descCache
  introStateCache : s'.introStateCache = s.introStateCache
  options : s'.options = s.options
  net : s'.net = s.net
  now : s'.now = s.now

namespace FetchFrame

theorem refl (s : ClientCore) : FetchFrame s s := ⟨rfl, rfl, rfl, rfl, rfl, rfl⟩

theorem trans {s₁ s₂ s₃ : ClientCore} (h₁ : FetchFrame s₁ s₂) (h₂ : FetchFrame s₂ s₃) :
    FetchFrame s₁ s₃ :=
  ⟨h₂.1.trans h₁.1, h₂.2.trans h₁.2, h₂.3.trans h₁.3, h₂.4.trans h₁.4, h₂.5.trans h₁.5,
    h₂.6.trans h₁.6⟩

theorem update (s : ClientCore) (conns : ConnTable) (history : List (Digest × Ed25519PublicKey)) :
    FetchFrame s { s with conns := conns, lastHidServRequests := history } :=
  ⟨rfl, rfl, rfl, rfl, rfl, rfl⟩

theorem conns (s : ClientCore) (conns : ConnTable) : FetchFrame s { s with conns := conns } :=
  update s conns s.lastHidServRequests

end FetchFrame

theorem FetchFrame.hasUsableDesc {s s' : ClientCore} (h : FetchFrame s s') :
    s'.hasUsableDesc = s.hasUsableDesc := by
  funext k
  simp only [ClientCore.hasUsableDesc, h.descCache, h.introStateCache]

namespace ClientCore

variable (X : Collaborators) (s : ClientCore) (identityPk : Ed25519PublicKey)

theorem purgeHidServRequest_frame : FetchFrame s (s.purgeHidServRequest X identityPk) :=
  FetchFrame.update s s.conns _

theorem noteConnectionAttemptSucceeded_frame :
    FetchFrame s (s.noteConnectionAttemptSucceeded X identityPk) :=
  purgeHidServRequest_frame X s identityPk

theorem fetchV3Desc_frame : FetchFrame s (s.fetchV3Desc X identityPk).1 := by
  have hp : FetchFrame s (s.pickHsdirV3 X identityPk).2 := FetchFrame.update s _ _
  unfold fetchV3Desc
  split <;> rename_i h <;> simp only [h] at hp
  · exact hp
  · exact hp.trans (FetchFrame.conns _ _)

theorem hsClientRefetchHsdesc_frame : FetchFrame s (s.hsClientRefetchHsdesc X identityPk).1 := by
  unfold hsClientRefetchHsdesc
  split
  · exact FetchFrame.refl s
  · have h := fetchV3Desc_frame X s identityPk
    dsimp only
    split
    · exact (h.trans (FetchFrame.conns _ _)).trans (purgeHidServRequest_frame X _ identityPk)
    · exact h

theorem hasUsableDesc_eq_false_iff :
    s.hasUsableDesc identityPk = false ↔ s.descCache identityPk = none ∨
      ∃ desc, s.descCache identityPk = some desc ∧
        hsClientAnyIntroPointsUsable s.introStateCache identityPk desc = false := by
  unfold hasUsableDesc; split <;> simp_all

theorem fetchV3Desc_conns :
    (s.fetchV3Desc X identityPk).1.conns = s.conns ∨
      (s.fetchV3Desc X identityPk).1.conns =
        s.conns.add (hsDescFetchConnection identityPk s.now) := by
  unfold fetchV3Desc
  split <;> rename_i h <;> simp only [pickHsdirV3, Prod.mk.injEq] at h <;> obtain ⟨-, rfl⟩ := h
  · exact .inl rfl
  · exact .inr rfl

theorem hsClientRefetchHsdesc_conn_of_lt {i : Nat} (hi : i < s.conns.count)
    (hw : i ∉ s.conns.connectionListByTypeState .ap apConnStateRenddescWait) :
    s.conns.count ≤ (s.hsClientRefetchHsdesc X identityPk).1.conns.count ∧
      (s.hsClientRefetchHsdesc X identityPk).1.conns.conn i = s.conns.conn i := by
  have hf : s.conns.count ≤ (s.fetchV3Desc X identityPk).1.conns.count ∧
      (s.fetchV3Desc X identityPk).1.conns.conn i = s.conns.conn i := by
    rcases fetchV3Desc_conns X s identityPk with h | h <;> rw [h]
    · exact ⟨le_rfl, rfl⟩
    · exact ⟨by simp, ConnTable.add_conn_of_lt _ _ hi⟩
  unfold hsClientRefetchHsdesc
  split
  · exact ⟨le_rfl, rfl⟩
  · dsimp only
    split
    · simp only [purgeHidServRequest, ConnTable.closeAllSocksConnsWaitingForDesc_count,
        ConnTable.closeAllSocksConnsWaitingForDesc_conn, ConnTable.mem_connectionListByTypeState,
        hf.2]
      simp_all [ConnTable.mem_connectionListByTypeState]
    · exact hf

theorem retryAllSocksConnWaitingForDescLoop_frame :
    ∀ (l : List Nat) (s : ClientCore), FetchFrame s (retryAllSocksConnWaitingForDescLoop X l s).1
  | [], s => FetchFrame.refl s
  | i :: rest, s => by
    unfold retryAllSocksConnWaitingForDescLoop
    split
    · exact retryAllSocksConnWaitingForDescLoop_frame rest s
    · split
      · exact retryAllSocksConnWaitingForDescLoop_frame rest s
      · exact (hsClientRefetchHsdesc_frame X s _).trans
          (retryAllSocksConnWaitingForDescLoop_frame rest _)

theorem hsClientDirInfoChanged_frame : FetchFrame s (s.hsClientDirInfoChanged X) :=
  retryAllSocksConnWaitingForDescLoop_frame X _ s

theorem descHasArrivedAt_frame (now i : Nat) (desc : Descriptor) :
    FetchFrame s (s.descHasArrivedAt X identityPk now i desc) := by
  unfold descHasArrivedAt
  split
  · exact (FetchFrame.conns s _).trans (noteConnectionAttemptSucceeded_frame X _ identityPk)
  · exact FetchFrame.conns s _

theorem hsClientDescHasArrivedLoop_frame (now : Nat) :
    ∀ (l : List Nat) (s : ClientCore),
      FetchFrame s (hsClientDescHasArrivedLoop X identityPk now l s)
  | [], s => FetchFrame.refl s
  | i :: rest, s => by
    unfold hsClientDescHasArrivedLoop
    split
    · exact hsClientDescHasArrivedLoop_frame now rest s
    · split
      · exact FetchFrame.refl s
      · exact (descHasArrivedAt_frame X s identityPk now i _).trans
          (hsClientDescHasArrivedLoop_frame now rest _)

theorem hsClientDescHasArrived_frame : FetchFrame s (s.hsClientDescHasArrived X identityPk) :=
  hsClientDescHasArrivedLoop_frame X identityPk s.now _ s

theorem hsClientNoteConnectionAttemptSucceeded_frame (i : Nat) :
    FetchFrame s (s.hsClientNoteConnectionAttemptSucceeded X i) := by
  unfold hsClientNoteConnectionAttemptSucceeded
  split
  · exact noteConnectionAttemptSucceeded_frame X s _
  · exact FetchFrame.refl s

end ClientCore

end HsClient
