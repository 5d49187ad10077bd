import HsClient.StreamLifecycle

/-!
# Stream decisions follow the descriptor cache

Two decisions the client takes about a SOCKS stream depend on the descriptor of
its service. `close_all_socks_conns_waiting_for_desc`, run by
`hs_client_refetch_hsdesc`, and `hs_client_desc_has_arrived` close the stream
with RESOLVEFAILED; `hs_client_desc_has_arrived` sends it on to wait for a
circuit. The first is taken only when no usable descriptor is cached (the
refetch passed `can_client_refetch_desc`, or the arrived descriptor has no
usable intro point), the second only when one is. `Connection.FollowsCache`
says this of one rewritten connection; it composes along the loops and the
refetch, so every admissible event leaves decisions that agree with the caches
it leaves.
-/

namespace HsClient

namespace Connection

/-- `c'` is `c` after rewrites by the client, with `usable` telling which
services have a usable descriptor: it keeps its type and service, is closed
with RESOLVEFAILED only for a service without one, and is sent to
`CIRCUIT_WAIT` only for a service with one. -/
structure FollowsCache (usable : Ed25519PublicKey → Bool) (c c' : Connection) : Prop where
  type : c'.type = c.type
  hsIdent : c'.hsIdent = c.hsIdent
  failed : c'.endReason = some .resolvefailed → c.endReason ≠ some .resolvefailed →
    ∃ S, c.hsIdent = some S ∧ usable S = false
  waits : c'.type = .ap → c'.state = apConnStateCircuitWait →
    c.state ≠ apConnStateCircuitWait → ∃ S, c.hsIdent = some S ∧ usable S = true

/-- A connection the client creates: closed with RESOLVEFAILED, or waiting for
a circuit, only as `FollowsCache` allows. -/
structure FreshFollowsCache (usable : Ed25519PublicKey → Bool) (c : Connection) : Prop where
  failed : c.endReason = some .resolvefailed → ∃ S, c.hsIdent = some S ∧ usable S = false
  waits : c.type = .ap → c.state = apConnStateCircuitWait →
    ∃ S, c.hsIdent = some S ∧ usable S = true

variable {u : Ed25519PublicKey → Bool} {c c' c'' : Connection}

namespace FollowsCache

theorem refl (u : Ed25519PublicKey → Bool) (c : Connection) : FollowsCache u c c :=
  ⟨rfl, rfl, fun h h' => absurd h h', fun _ h h' => absurd h h'⟩

theorem trans (h : FollowsCache u c c') (h' : FollowsCache u c' c'') : FollowsCache u c c'' where
  type := h'.type.trans h.type
  hsIdent := h'.hsIdent.trans h.hsIdent
  failed he hne := by
    by_cases he' : c'.endReason = some .resolvefailed
    · exact h.failed he' hne
    · rw [← h.hsIdent]; exact h'.failed he he'
  waits ht hs hne := by
    by_cases hs' : c'.state = apConnStateCircuitWait
    · exact h.waits (h'.type ▸ ht) hs' hne
    · rw [← h.hsIdent]; exact h'.waits ht hs hs'

theorem of_keeps (ht : c'.type = c.type) (hi : c'.hsIdent = c.hsIdent)
    (he : c'.endReason = c.endReason)
    (hs : c'.state = c.state ∨ c'.state ≠ apConnStateCircuitWait) : FollowsCache u c c' :=
  ⟨ht, hi, fun h h' => absurd (he ▸ h) h', fun _ h h' => hs.elim (fun hs => absurd (hs ▸ h) h')
    (fun hs => absurd h hs)⟩

end FollowsCache

theorem FreshFollowsCache.follows (h : FreshFollowsCache u c) (h' : FollowsCache u c c') :
    FreshFollowsCache u c' where
  failed he := by
    rw [h'.hsIdent]
    by_cases he' : c.endReason = some .resolvefailed
    · exact h.failed he'
    · exact h'.failed he he'
  waits ht hs := by
    rw [h'.hsIdent]
    by_cases hs' : c.state = apConnStateCircuitWait
    · exact h.waits (h'.type ▸ ht) hs'
    · exact h'.waits ht hs hs'

theorem closeSocksConnIfFor_followsCache {S : Ed25519PublicKey} (hu : u S = false)
    (c : Connection) : FollowsCache u c (ConnTable.closeSocksConnIfFor S .resolvefailed c) := by
  unfold ConnTable.closeSocksConnIfFor
  split
  · rename_i h
    exact ⟨rfl, rfl, fun _ _ => ⟨S, by simpa using h, hu⟩, fun _ hs hne => absurd hs hne⟩
  · exact .refl u c

theorem flagConnWaitDescIfFor_followsCache (S : Ed25519PublicKey) (c : Connection) :
    FollowsCache u c (ConnTable.flagConnWaitDescIfFor S c) := by
  unfold ConnTable.flagConnWaitDescIfFor
  split
  · exact .of_keeps rfl rfl rfl (.inr (by simp [apConnStateRenddescWait, apConnStateCircuitWait]))
  · exact .refl u c

theorem cancelFetchIfIdent_followsCache (c : Connection) :
    FollowsCache u c (ConnTable.cancelFetchIfIdent c) := by
  unfold ConnTable.cancelFetchIfIdent
  split
  · exact .of_keeps rfl rfl rfl (.inl rfl)
  · exact .refl u c

theorem descArrivedStream_followsCache {S : Ed25519PublicKey} (now : Nat)
    (hc : c.hsIdent = some S) : FollowsCache u c (descArrivedStream (u S) now c) := by
  unfold descArrivedStream
  split
  · rename_i hu
    exact ⟨rfl, rfl, fun h h' => absurd h h', fun _ _ _ => ⟨S, hc, hu⟩⟩
  · rename_i hu
    exact ⟨rfl, rfl, fun _ _ => ⟨S, hc, by simpa using hu⟩, fun _ hs hne => absurd hs hne⟩

end Connection

namespace ConnTable

/-- Every connection of `t'` follows the cache from its place in `t`, or is
new and follows it from its creation. -/
def FollowsCache (u : Ed25519PublicKey → Bool) (t t' : ConnTable) : Prop :=
  t.count ≤ t'.count ∧ ∀ j, (t.conn j).FollowsCache u (t'.conn j) ∨
    t.count ≤ j ∧ (t'.conn j).FreshFollowsCache u

namespace FollowsCache

variable {u : Ed25519PublicKey → Bool} {t t' t'' : ConnTable}

theorem refl (u : Ed25519PublicKey → Bool) (t : ConnTable) : FollowsCache u t t :=
  ⟨le_rfl, fun _ => .inl (.refl u _)⟩

theorem trans (h : FollowsCache u t t') (h' : FollowsCache u t' t'') : FollowsCache u t t'' :=
  ⟨h.1.trans h'.1, fun j => by
    rcases h.2 j with h1 | ⟨hj, h1⟩ <;> rcases h'.2 j with h2 | ⟨hj', h2⟩
    · exact .inl (h1.trans h2)
    · exact .inr ⟨h.1.trans hj', h2⟩
    · exact .inr ⟨hj, h1.follows h2⟩
    · exact .inr ⟨hj, h2⟩⟩

theorem modify {i : Nat} {f : Connection → Connection}
    (hf : (t.conn i).FollowsCache u (f (t.conn i))) : FollowsCache u t (t.modify i f) :=
  ⟨le_rfl, fun j => .inl (by
    rw [modify_conn]
    split
    · subst j; exact hf
    · exact .refl u _)⟩

theorem add {c : Connection} (hc : c.FreshFollowsCache u) : FollowsCache u t (t.add c) :=
  ⟨Nat.le_succ _, fun j => by
    by_cases hj : j = t.count
    · subst hj; exact .inr ⟨le_rfl, by rw [add_conn_count]; exact hc⟩
    · exact .inl (by
        rw [show (t.add c).conn j = t.conn j from Function.update_noteq hj _ _]; exact .refl u _)⟩

theorem foldl_modify {g : Connection → Connection} (hg : ∀ c : Connection, c.FollowsCache u (g c)) :
    ∀ (l : List Nat) (t : ConnTable), FollowsCache u t (l.foldl (fun t i => t.modify i g) t)
  | [], t => .refl u t
  | _ :: l, _ => (modify (hg _)).trans (foldl_modify hg l _)

theorem closeAll {S : Ed25519PublicKey} (hu : u S = false) :
    FollowsCache u t (t.closeAllSocksConnsWaitingForDesc S .resolvefailed) :=
  foldl_modify (Connection.closeSocksConnIfFor_followsCache hu) _ _

theorem flagAll (S : Ed25519PublicKey) : FollowsCache u t (t.flagAllConnWaitDesc S) :=
  foldl_modify (Connection.flagConnWaitDescIfFor_followsCache S) _ _

theorem cancel : FollowsCache u t t.cancelDescriptorFetches :=
  foldl_modify Connection.cancelFetchIfIdent_followsCache _ _

theorem markForClose (i : Nat) : FollowsCache u t (t.connectionMarkForClose i) :=
  modify (.of_keeps rfl rfl rfl (.inl rfl))

theorem markUnattachedAp {i : Nat} {S : Ed25519PublicKey} (hi : (t.conn i).hsIdent = some S)
    (hu : u S = false) : FollowsCache u t (t.connectionMarkUnattachedAp i .resolvefailed) :=
  modify ⟨rfl, rfl, fun _ _ => ⟨S, hi, hu⟩, fun _ hs hne => absurd hs hne⟩

end FollowsCache

end ConnTable

namespace ClientCore

open ConnTable

variable {X : Collaborators} {s : ClientCore}

theorem hsClientRefetchHsdesc_followsCache (k : Ed25519PublicKey) :
    FollowsCache s.hasUsableDesc s.conns (s.hsClientRefetchHsdesc X k).1.conns := by
  have hf : FollowsCache s.hasUsableDesc s.conns (s.fetchV3Desc X k).1.conns := by
    rcases fetchV3Desc_conns X s k with h | h <;> rw [h]
    · exact .refl _ _
    · exact .add ⟨fun h => by simp [hsDescFetchConnection] at h,
        fun h => by simp [hsDescFetchConnection] at h⟩
  unfold hsClientRefetchHsdesc
  split
  · exact .refl _ _
  · rename_i hcan
    dsimp only
    split
    · exact hf.trans (.closeAll ((canClientRefetchDesc_eq_none k).mp hcan).2.2.2.1)
    · exact hf

theorem retryAllSocksConnWaitingForDescLoop_followsCache :
    ∀ (l : List Nat) (s : ClientCore),
      FollowsCache s.hasUsableDesc s.conns (retryAllSocksConnWaitingForDescLoop X l s).1.conns
  | [], _ => .refl _ _
  | i :: l, s => by
    simp only [retryAllSocksConnWaitingForDescLoop]
    split
    · exact retryAllSocksConnWaitingForDescLoop_followsCache l s
    · split
      · exact retryAllSocksConnWaitingForDescLoop_followsCache l s
      · rename_i k _ _
        have hrest := retryAllSocksConnWaitingForDescLoop_followsCache l (s.hsClientRefetchHsdesc X k).1
        rw [(hsClientRefetchHsdesc_frame X s k).hasUsableDesc] at hrest
        exact (hsClientRefetchHsdesc_followsCache k).trans hrest

theorem hsClientDescHasArrived_followsCache {k : Ed25519PublicKey} {desc : Descriptor}
    (hd : s.descCache k = some desc) :
    FollowsCache s.hasUsableDesc s.conns (s.hsClientDescHasArrived X k).conns := by
  obtain ⟨-, hc, hj, -⟩ := hsClientDescHasArrivedLoop_spec X k s.now desc
    (s.conns.connectionListByTypeState .ap apConnStateRenddescWait) s
    (connectionListByTypeState_nodup _ _ _) hd
  have hu : s.hasUsableDesc k = hsClientAnyIntroPointsUsable s.introStateCache k desc := by
    simp [hasUsableDesc, hd]
  refine ⟨hc.ge, fun j => .inl ?_⟩
  rw [hsClientDescHasArrived, hj]
  split
  · rename_i hm; rw [← hu]; exact Connection.descArrivedStream_followsCache _ hm.2
  · exact .refl _ _

theorem dirFetchDone_followsCache (i : Nat) (desc : Option Descriptor) :
    FollowsCache (s.dirFetchDone X i desc).hasUsableDesc s.conns (s.dirFetchDone X i desc).conns := by
  unfold dirFetchDone
  split
  · rename_i k d _
    let s₀ : ClientCore := { s with descCache := Function.update s.descCache k (some d) }
    rw [(FetchFrame.conns _ _).hasUsableDesc, (hsClientDescHasArrived_frame X s₀ k).hasUsableDesc]
    exact (hsClientDescHasArrived_followsCache (show s₀.descCache k = some d by simp [s₀])).trans
      (.markForClose i)
  · exact .markForClose i

theorem newStream_followsCache (k : Ed25519PublicKey) :
    FollowsCache (s.newStream X k).hasUsableDesc s.conns (s.newStream X k).conns := by
  rw [(newStream_frame X s k).hasUsableDesc]
  unfold newStream
  split
  · rename_i hu
    exact .add ⟨fun h => by simp [apStream] at h, fun _ _ => ⟨k, rfl, hu⟩⟩
  · rename_i hu
    have hr := hsClientRefetchHsdesc_followsCache (X := X)
      (s := { s with conns := s.conns.add (apStream k apConnStateRenddescWait false s.now) }) k
    have h := (FollowsCache.add (t := s.conns) ⟨fun h => by simp [apStream] at h,
      fun _ h => by simp [apStream, apConnStateRenddescWait, apConnStateCircuitWait] at h⟩).trans hr
    dsimp only
    split
    · -- a terminal status closes the new stream, of a service without a usable descriptor
      refine h.trans (.markUnattachedAp ?_ (by simpa using hu))
      rcases hr.2 s.conns.count with h' | ⟨hj, -⟩
      · rw [h'.hsIdent]; simp [apStream]
      · simp only [ConnTable.add] at hj; omega
    · exact h

theorem step_followsCache {e : Event} (hadm : s.admissible e = true) :
    FollowsCache (s.step X e).1.hasUsableDesc s.conns (s.step X e).1.conns := by
  cases e with
  | sendIntroduce1 intro rend sent =>
    show FollowsCache (s.sendIntroduce1 X intro rend sent).1.hasUsableDesc s.conns
      (s.sendIntroduce1 X intro rend sent).1.conns
    rcases sendIntroduce1_conns (X := X) (s := s) intro rend sent with heq | heq
    · rw [heq]; exact .refl _ _
    · rw [heq, (refetchAndFlagConnWaitDesc_frame _).hasUsableDesc]
      exact (hsClientRefetchHsdesc_followsCache _).trans (.flagAll _)
  | dirFetchDone i desc => exact dirFetchDone_followsCache i desc
  | dirInfoChanged =>
    show FollowsCache (s.hsClientDirInfoChanged X).hasUsableDesc s.conns
      (s.hsClientDirInfoChanged X).conns
    rw [(hsClientDirInfoChanged_frame X s).hasUsableDesc]
    exact retryAllSocksConnWaitingForDescLoop_followsCache _ s
  | purgeState => exact .cancel
  | newStream k => exact newStream_followsCache k
  | connClosed i => exact .markForClose i
  | streamAttached i =>
    exact .modify (.of_keeps rfl rfl rfl
      (.inr (by simp [apConnStateOpen, apConnStateCircuitWait])))
  | dirConnStateChanged i st =>
    simp only [admissible, Bool.and_eq_true, decide_eq_true_eq, beq_iff_eq] at hadm
    exact .modify ⟨rfl, rfl, fun h h' => absurd h h',
      fun ht => absurd (hadm.2.symm.trans ht) (by decide)⟩
  | _ => rw [step_conns_of_quiet X s (by rfl)]; exact .refl _ _

end ClientCore

/-- Every admissible event closes a stream with RESOLVEFAILED only when the
service of the stream has no usable descriptor in the caches it leaves, and
sends a stream on to wait for a circuit only when its service has one. -/
theorem stream_decisions_follow_cache (X : Collaborators) (s : ClientCore) (e : Event)
    (hadm : s.admissible e = true) :
    (∀ j, ((s.step X e).1.conns.conn j).endReason = some .resolvefailed →
      (s.conns.conn j).endReason ≠ some .resolvefailed →
      ∃ S, ((s.step X e).1.conns.conn j).hsIdent = some S ∧
        (s.step X e).1.hasUsableDesc S = false) ∧
    (∀ j, ((s.step X e).1.conns.conn j).type = .ap →
      ((s.step X e).1.conns.conn j).state = apConnStateCircuitWait →
      (s.conns.conn j).state ≠ apConnStateCircuitWait →
      ∃ S, ((s.step X e).1.conns.conn j).hsIdent = some S ∧
        (s.step X e).1.hasUsableDesc S = true) := by
  obtain ⟨-, h⟩ := ClientCore.step_followsCache (X := X) hadm
  refine ⟨fun j he hne => ?_, fun j ht hs hne => ?_⟩ <;> rcases h j with h | ⟨-, h⟩
  · obtain ⟨S, hS, hu⟩ := h.failed he hne; exact ⟨S, h.hsIdent.trans hS, hu⟩
  · exact h.failed he
  · obtain ⟨S, hS, hu⟩ := h.waits ht hs hne; exact ⟨S, h.hsIdent.trans hS, hu⟩
  · exact h.waits ht hs

theorem stream_decisions_follow_cache_fetched :
    sampleFetching.admissible (.dirFetchDone 1 (some sampleDescriptor)) = true ∧
    (∀ j, ((sampleFetching.step sampleCollaborators (.dirFetchDone 1 (some sampleDescriptor))).1.conns.conn
        j).endReason = some .resolvefailed →
      (sampleFetching.conns.conn j).endReason ≠ some .resolvefailed →
      ∃ S, ((sampleFetching.step sampleCollaborators
          (.dirFetchDone 1 (some sampleDescriptor))).1.conns.conn j).hsIdent = some S ∧
        (sampleFetching.step sampleCollaborators
          (.dirFetchDone 1 (some sampleDescriptor))).1.hasUsableDesc S = false) ∧
    (∀ j, ((sampleFetching.step sampleCollaborators (.dirFetchDone 1 (some sampleDescriptor))).1.conns.conn
        j).type = .ap →
      ((sampleFetching.step sampleCollaborators
          (.dirFetchDone 1 (some sampleDescriptor))).1.conns.conn j).state = apConnStateCircuitWait →
      (sampleFetching.conns.conn j).state ≠ apConnStateCircuitWait →
      ∃ S, ((sampleFetching.step sampleCollaborators
          (.dirFetchDone 1 (some sampleDescriptor))).1.conns.conn j).hsIdent = some S ∧
        (sampleFetching.step sampleCollaborators
          (.dirFetchDone 1 (some sampleDescriptor))).1.hasUsableDesc S = true) :=
  ⟨by decide, stream_decisions_follow_cache _ _ _ (by decide)⟩

end HsClient
