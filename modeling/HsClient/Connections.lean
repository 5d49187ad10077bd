import HsClient.Basic

/-!
# Connections and the loops over them

The connection array is kept by position. `connection_list_by_type_state`
and `connection_list_by_type_purpose` take a snapshot of the positions of the
live connections that match; the loops of `hs_client.c` then walk that
snapshot. The three loops here only rewrite the connection they are at:
`close_all_socks_conns_waiting_for_desc`, `flag_all_conn_wait_desc` and
`cancel_descriptor_fetches`.
-/

namespace HsClient

namespace ConnTable

variable (t : ConnTable)

/-- Rewrite connection `i` with `f`. -/
def modify (i : Nat) (f : Connection → Connection) : ConnTable :=
  { t with conn := Function.update t.conn i (f (t.conn i)) }

/-- A new connection takes the next position. -/
def add (c : Connection) : ConnTable :=
  { conn := Function.update t.conn t.count c, count := t.count + 1 }

/-- Modelled from the spec (§9, "skip `marked_for_close` entries"):
`connection_list_by_type_state`, the live connections of a type and a state. -/
def connectionListByTypeState (type : ConnType) (state : Nat) : List Nat :=
  (List.range t.count).filter fun i =>
    (t.conn i).type == type && (t.conn i).state == state && !(t.conn i).markedForClose

/-- Modelled from the spec (§9): `connection_list_by_type_purpose`, the live
connections of a type and a purpose. -/
def connectionListByTypePurpose (type : ConnType) (purpose : Nat) : List Nat :=
  (List.range t.count).filter fun i =>
    (t.conn i).type == type && (t.conn i).purpose == purpose && !(t.conn i).markedForClose

def connectionMarkForClose (i : Nat) : ConnTable :=
  t.modify i fun c => { c with markedForClose := true }

/-- `connection_mark_unattached_ap`: the stream is closed with `reason`. -/
def connectionMarkUnattachedAp (i : Nat) (reason : StreamEndReason) : ConnTable :=
  t.modify i fun c => { c with markedForClose := true, endReason := some reason }

/-- The body of `close_all_socks_conns_waiting_for_desc` at one stream: a
stream of the service is closed with `reason`, any other is skipped. -/
def closeSocksConnIfFor (identityPk : Ed25519PublicKey) (reason : StreamEndReason)
    (c : Connection) : Connection :=
  if c.hsIdent == some identityPk then { c with markedForClose := true, endReason := some reason }
  else c

def closeAllSocksConnsWaitingForDesc (identityPk : Ed25519PublicKey)
    (reason : StreamEndReason) : ConnTable :=
  (t.connectionListByTypeState .ap apConnStateRenddescWait).foldl
    (fun t i => t.modify i (closeSocksConnIfFor identityPk reason)) t

/-- The body of `flag_all_conn_wait_desc` at one stream: a stream of the
service leaves the pending list and waits for the descriptor again. -/
def flagConnWaitDescIfFor (identityPk : Ed25519PublicKey) (c : Connection) : Connection :=
  if c.hsIdent == some identityPk then { c with pending := false, state := apConnStateRenddescWait }
  else c

def flagAllConnWaitDesc (identityPk : Ed25519PublicKey) : ConnTable :=
  (t.connectionListByTypeState .ap apConnStateCircuitWait).foldl
    (fun t i => t.modify i (flagConnWaitDescIfFor identityPk)) t

/-- The body of `cancel_descriptor_fetches` at one connection: one without an
HS ident is skipped. -/
def cancelFetchIfIdent (c : Connection) : Connection :=
  if c.hsIdent.isSome then { c with markedForClose := true } else c

/-- `cancel_descriptor_fetches`, which lists directory connections by type and
*state*, comparing the state to `DIR_PURPOSE_FETCH_HSDESC`. -/
def cancelDescriptorFetches : ConnTable :=
  (t.connectionListByTypeState .dir dirPurposeFetchHsdesc).foldl
    (fun t i => t.modify i cancelFetchIfIdent) t

/-! ## Positions and snapshots -/

@[simp] theorem modify_count (i : Nat) (f : Connection → Connection) :
    (t.modify i f).count = t.count := rfl

theorem modify_conn (i : Nat) (f : Connection → Connection) (j : Nat) :
    (t.modify i f).conn j = if j = i then f (t.conn i) else t.conn j := by
  by_cases h : j = i
  · subst h; simp [modify]
  · simp [modify, h]

@[simp] theorem modify_conn_self (i : Nat) (f : Connection → Connection) :
    (t.modify i f).conn i = f (t.conn i) := by simp [modify_conn]

@[simp] theorem modify_conn_of_ne {i j : Nat} (f : Connection → Connection) (h : j ≠ i) :
    (t.modify i f).conn j = t.conn j := by simp [modify_conn, h]

@[simp] theorem add_count (c : Connection) : (t.add c).count = t.count + 1 := rfl

theorem add_conn_of_lt (c : Connection) {j : Nat} (h : j < t.count) :
    (t.add c).conn j = t.conn j := by
  simp [add, Function.update_noteq (Nat.ne_of_lt h)]

@[simp] theorem add_conn_count (c : Connection) : (t.add c).conn t.count = c := by
  simp [add]

theorem mem_connectionListByTypeState {type : ConnType} {state i : Nat} :
    i ∈ t.connectionListByTypeState type state ↔
      i < t.count ∧ (t.conn i).type = type ∧ (t.conn i).state = state ∧
        (t.conn i).markedForClose = false := by
  simp [connectionListByTypeState, and_assoc]

theorem mem_connectionListByTypeState_of_conn {t' : ConnTable} (hc : t'.count = t.count)
    {j : Nat} (h : t'.conn j = t.conn j) {type : ConnType} {state : Nat} :
    j ∈ t'.connectionListByTypeState type state ↔ j ∈ t.connectionListByTypeState type state := by
  simp only [mem_connectionListByTypeState, hc, h]

theorem mem_connectionListByTypePurpose {type : ConnType} {purpose i : Nat} :
    i ∈ t.connectionListByTypePurpose type purpose ↔
      i < t.count ∧ (t.conn i).type = type ∧ (t.conn i).purpose = purpose ∧
        (t.conn i).markedForClose = false := by
  simp [connectionListByTypePurpose, and_assoc]

theorem connectionListByTypeState_nodup (type : ConnType) (state : Nat) :
    (t.connectionListByTypeState type state).Nodup :=
  (List.nodup_range t.count).filter _

/-! ## Loops that rewrite only the connection they are at

A fold over distinct positions that rewrites each with the same function
leaves every other position alone and rewrites each listed position once. -/

theorem foldl_modify_count (g : Connection → Connection) (l : List Nat) (t : ConnTable) :
    (l.foldl (fun t i => t.modify i g) t).count = t.count := by
  induction l generalizing t with
  | nil => rfl
  | cons i l ih => simp [ih]

theorem foldl_modify_conn (g : Connection → Connection) (l : List Nat) (hl : l.Nodup)
    (t : ConnTable) (j : Nat) :
    (l.foldl (fun t i => t.modify i g) t).conn j = if j ∈ l then g (t.conn j) else t.conn j := by
  induction l generalizing t with
  | nil => simp
  | cons i l ih =>
    rw [List.nodup_cons] at hl
    simp only [List.foldl_cons, ih hl.2, List.mem_cons]
    by_cases hj : j = i
    · subst hj; simp [hl.1]
    · simp [hj]

@[simp] theorem closeAllSocksConnsWaitingForDesc_count (identityPk : Ed25519PublicKey)
    (reason : StreamEndReason) :
    (t.closeAllSocksConnsWaitingForDesc identityPk reason).count = t.count :=
  foldl_modify_count _ _ _

theorem closeAllSocksConnsWaitingForDesc_conn (identityPk : Ed25519PublicKey)
    (reason : StreamEndReason) (j : Nat) :
    (t.closeAllSocksConnsWaitingForDesc identityPk reason).conn j =
      if j ∈ t.connectionListByTypeState .ap apConnStateRenddescWait then
        closeSocksConnIfFor identityPk reason (t.conn j)
      else t.conn j :=
  foldl_modify_conn _ _ (connectionListByTypeState_nodup _ _ _) _ _

@[simp] theorem flagAllConnWaitDesc_count (identityPk : Ed25519PublicKey) :
    (t.flagAllConnWaitDesc identityPk).count = t.count :=
  foldl_modify_count _ _ _

theorem flagAllConnWaitDesc_conn (identityPk : Ed25519PublicKey) (j : Nat) :
    (t.flagAllConnWaitDesc identityPk).conn j =
      if j ∈ t.connectionListByTypeState .ap apConnStateCircuitWait then
        flagConnWaitDescIfFor identityPk (t.conn j)
      else t.conn j :=
  foldl_modify_conn _ _ (connectionListByTypeState_nodup _ _ _) _ _

@[simp] theorem cancelDescriptorFetches_count : t.cancelDescriptorFetches.count = t.count :=
  foldl_modify_count _ _ _

@[simp] theorem cancelFetchIfIdent_hsIdent (c : Connection) :
    (cancelFetchIfIdent c).hsIdent = c.hsIdent := by
  unfold cancelFetchIfIdent; split <;> rfl

theorem cancelDescriptorFetches_conn (j : Nat) :
    t.cancelDescriptorFetches.conn j =
      if j ∈ t.connectionListByTypeState .dir dirPurposeFetchHsdesc then
        cancelFetchIfIdent (t.conn j)
      else t.conn j :=
  foldl_modify_conn _ _ (connectionListByTypeState_nodup _ _ _) _ _

end ConnTable

end HsClient
