import HsClient.ServiceIsolation

/-!
# What `hs_client_dir_info_changed` leaves behind

`retry_all_socks_conn_waiting_for_desc` walks a snapshot of the streams waiting
for a descriptor and orders a refetch for the service of each live one. A
refetch returns at once (fetches off, directory information missing, a usable
descriptor cached, or a fetch pending), or launches a fetch, after which the
next refetch for the service reports `PENDING`, or finds no HSDir and closes
every stream of the service waiting for the descriptor. Nothing the loop does
later undoes any of these: close marks stay, fetches stay, and the
configuration and the caches do not change.

So when the loop is done, every live stream still waiting for a descriptor
belongs to a service whose refetch returns at once, and a second notification
with nothing in between orders no fetch and closes nothing.
-/

namespace HsClient

namespace ConnTable

theorem OnlyTouches.hsIdent {S : Ed25519PublicKey} {t t' : ConnTable} (h : OnlyTouches S t t')
    {j : Nat} (hj : j < t.count) : (t'.conn j).hsIdent = (t.conn j).hsIdent := by
  by_cases he : t'.conn j = t.conn j
  · rw [he]
  · obtain ⟨h1, h2⟩ := h.2 j hj he
    rw [h1, h2]

end ConnTable

namespace ClientCore

open ConnTable

variable {X : Collaborators} {s : ClientCore}

theorem canClientRefetchDesc_isSome_iff (k : Ed25519PublicKey) :
    (s.canClientRefetchDesc k).isSome = true ↔
      s.directoryRequestIsPending k = true ∨ s.hasUsableDesc k = true ∨
      s.options.fetchHidServDescriptors = false ∨ s.net.liveConsensus = false ∨
      s.net.minimumDirInfo = false := by
  unfold canClientRefetchDesc
  repeat' split
  all_goals simp_all

theorem hsClientRefetchHsdesc_cases (k : Ed25519PublicKey) :
    (s.canClientRefetchDesc k).isSome = true ∧ (s.hsClientRefetchHsdesc X k).1 = s ∨
    ((s.hsClientRefetchHsdesc X k).1.conns = s.conns.add (hsDescFetchConnection k s.now) ∨
      (s.hsClientRefetchHsdesc X k).1.conns =
        s.conns.closeAllSocksConnsWaitingForDesc k .resolvefailed) := by
  cases hc : s.canClientRefetchDesc k with
  | some status => exact .inl ⟨rfl, by rw [hsClientRefetchHsdesc_of_canClientRefetchDesc hc]⟩
  | none =>
    right
    simp only [hsClientRefetchHsdesc, hc]
    rcases fetchV3Desc_cases (X := X) (s := s) k with ⟨hst, hconns⟩ | ⟨hst, hconns⟩
    · exact .inr (by simp [hst, fetchStatusShouldCloseSocks, purgeHidServRequest, hconns])
    · exact .inl (by simp [hst, fetchStatusShouldCloseSocks, hconns])

theorem hsClientRefetchHsdesc_pending {k k' : Ed25519PublicKey}
    (h : s.directoryRequestIsPending k' = true) :
    (s.hsClientRefetchHsdesc X k).1.directoryRequestIsPending k' = true := by
  rw [directoryRequestIsPending_iff] at h ⊢
  obtain ⟨i, hi⟩ := h
  rcases hsClientRefetchHsdesc_cases (X := X) (s := s) k with ⟨-, heq⟩ | heq | heq <;> rw [heq]
  · exact ⟨i, hi⟩
  · refine ⟨i, ?_⟩
    simp only [IsFetchFor, add_count, add_conn_of_lt _ _ hi.1]
    exact ⟨Nat.lt_succ_of_lt hi.1, hi.2⟩
  · -- a fetch is a directory connection, which the close loop skips
    have hw : i ∉ s.conns.connectionListByTypeState .ap apConnStateRenddescWait := fun hm => by
      have := ((mem_connectionListByTypeState _).mp hm).2.1
      rw [hi.2.1] at this
      cases this
    refine ⟨i, ?_⟩
    rw [IsFetchFor, closeAllSocksConnsWaitingForDesc_count, closeAllSocksConnsWaitingForDesc_conn,
      if_neg hw]
    exact hi

theorem hsClientRefetchHsdesc_keeps_settled {k k' : Ed25519PublicKey}
    (h : (s.canClientRefetchDesc k').isSome = true) :
    ((s.hsClientRefetchHsdesc X k).1.canClientRefetchDesc k').isSome = true := by
  have hf := hsClientRefetchHsdesc_frame X s k
  rw [canClientRefetchDesc_isSome_iff] at h ⊢
  rw [hf.hasUsableDesc, hf.options, hf.net]
  exact h.imp_left hsClientRefetchHsdesc_pending

theorem hsClientRefetchHsdesc_settles (k : Ed25519PublicKey) :
    ((s.hsClientRefetchHsdesc X k).1.canClientRefetchDesc k).isSome = true ∨
    ∀ j ∈ s.conns.connectionListByTypeState .ap apConnStateRenddescWait,
      (s.conns.conn j).hsIdent = some k →
      ((s.hsClientRefetchHsdesc X k).1.conns.conn j).markedForClose = true := by
  rcases hsClientRefetchHsdesc_cases (X := X) (s := s) k with ⟨h, heq⟩ | heq | heq
  · exact .inl (by rw [heq]; exact h)
  · -- the fetch it launched is pending
    refine .inl ((canClientRefetchDesc_isSome_iff k).mpr (.inl ?_))
    rw [directoryRequestIsPending_iff, heq]
    exact ⟨s.conns.count, by simp [IsFetchFor, hsDescFetchConnection]⟩
  · refine .inr fun j hj hk => ?_
    rw [heq, closeAllSocksConnsWaitingForDesc_conn, if_pos hj]
    simp [closeSocksConnIfFor, hk]

theorem hsClientRefetchHsdesc_waiting {k : Ed25519PublicKey} {j : Nat}
    (hj : j ∈ (s.hsClientRefetchHsdesc X k).1.conns.connectionListByTypeState .ap
      apConnStateRenddescWait) :
    j ∈ s.conns.connectionListByTypeState .ap apConnStateRenddescWait := by
  rcases hsClientRefetchHsdesc_cases (X := X) (s := s) k with ⟨-, heq⟩ | heq | heq <;>
    rw [heq] at hj
  · exact hj
  · rw [mem_connectionListByTypeState, add_count] at hj
    rcases Nat.lt_succ_iff_lt_or_eq.mp hj.1 with hlt | rfl
    · rw [add_conn_of_lt _ _ hlt] at hj
      exact (mem_connectionListByTypeState _).mpr ⟨hlt, hj.2⟩
    · simp [hsDescFetchConnection] at hj
  · rw [mem_connectionListByTypeState, closeAllSocksConnsWaitingForDesc_count,
      closeAllSocksConnsWaitingForDesc_conn] at hj
    split at hj
    · assumption
    · exact (mem_connectionListByTypeState _).mpr hj

/-- What the retry loop never undoes: `s'` opens no stream waiting for a
descriptor, keeps every connection's service and close mark, and keeps every
service whose refetch returns at once. -/
structure KeepsSettled (s s' : ClientCore) : Prop where
  count : s.conns.count ≤ s'.conns.count
  waiting : ∀ j ∈ s'.conns.connectionListByTypeState .ap apConnStateRenddescWait,
    j ∈ s.conns.connectionListByTypeState .ap apConnStateRenddescWait
  hsIdent : ∀ j < s.conns.count, (s'.conns.conn j).hsIdent = (s.conns.conn j).hsIdent
  marked : ∀ j < s.conns.count, (s.conns.conn j).markedForClose = true →
    (s'.conns.conn j).markedForClose = true
  settled : ∀ k, (s.canClientRefetchDesc k).isSome = true →
    (s'.canClientRefetchDesc k).isSome = true

namespace KeepsSettled

theorem refl (s : ClientCore) : KeepsSettled s s :=
  ⟨le_rfl, fun _ => id, fun _ _ => rfl, fun _ _ => id, fun _ => id⟩

theorem trans {s₁ s₂ s₃ : ClientCore} (h₁ : KeepsSettled s₁ s₂) (h₂ : KeepsSettled s₂ s₃) :
    KeepsSettled s₁ s₃ :=
  ⟨h₁.count.trans h₂.count, fun j hj => h₁.waiting j (h₂.waiting j hj),
    fun j hj => (h₂.hsIdent j (Nat.lt_of_lt_of_le hj h₁.count)).trans (h₁.hsIdent j hj),
    fun j hj hm => h₂.marked j (Nat.lt_of_lt_of_le hj h₁.count) (h₁.marked j hj hm),
    fun k hk => h₂.settled k (h₁.settled k hk)⟩

end KeepsSettled

theorem hsClientRefetchHsdesc_keepsSettled (k : Ed25519PublicKey) :
    KeepsSettled s (s.hsClientRefetchHsdesc X k).1 :=
  ⟨(hsClientRefetchHsdesc_onlyTouches k).1, fun _ => hsClientRefetchHsdesc_waiting,
    fun _ hj => (hsClientRefetchHsdesc_onlyTouches k).hsIdent hj,
    fun j hj => ((hsClientRefetchHsdesc_movesAlong k).2 j hj).marked,
    fun _ => hsClientRefetchHsdesc_keeps_settled⟩

theorem retryAllSocksConnWaitingForDescLoop_keepsSettled :
    ∀ (l : List Nat) (s : ClientCore), KeepsSettled s (retryAllSocksConnWaitingForDescLoop X l s).1
  | [], s => .refl s
  | i :: l, s => by
    simp only [retryAllSocksConnWaitingForDescLoop]
    split
    · exact retryAllSocksConnWaitingForDescLoop_keepsSettled l s
    · split
      · exact retryAllSocksConnWaitingForDescLoop_keepsSettled l s
      · exact (hsClientRefetchHsdesc_keepsSettled _).trans
          (retryAllSocksConnWaitingForDescLoop_keepsSettled l _)

theorem retryAllSocksConnWaitingForDescLoop_settles :
    ∀ (l : List Nat) (s : ClientCore), ∀ j ∈ l,
      j ∈ (retryAllSocksConnWaitingForDescLoop X l s).1.conns.connectionListByTypeState .ap
        apConnStateRenddescWait →
      ∀ k, ((retryAllSocksConnWaitingForDescLoop X l s).1.conns.conn j).hsIdent = some k →
      ((retryAllSocksConnWaitingForDescLoop X l s).1.canClientRefetchDesc k).isSome = true
  | [], _, j, hj => absurd hj (List.not_mem_nil j)
  | i :: l, s, j, hj => by
    -- the state the first stream leaves, and the rest of the loop from it
    obtain ⟨s₁, hs₁, hloop, hnext⟩ : ∃ s₁, KeepsSettled s s₁ ∧
        (retryAllSocksConnWaitingForDescLoop X (i :: l) s).1 =
          (retryAllSocksConnWaitingForDescLoop X l s₁).1 ∧
        ((s.conns.conn i).markedForClose = false → ∀ k, (s.conns.conn i).hsIdent = some k →
          (s₁.canClientRefetchDesc k).isSome = true ∨
          ∀ j ∈ s.conns.connectionListByTypeState .ap apConnStateRenddescWait,
            (s.conns.conn j).hsIdent = some k → (s₁.conns.conn j).markedForClose = true) := by
      simp only [retryAllSocksConnWaitingForDescLoop]
      split
      · rename_i hid
        exact ⟨s, .refl s, rfl, fun _ k hk => absurd (hid.symm.trans hk) (by simp)⟩
      · rename_i k0 hid
        split
        · rename_i hm
          exact ⟨s, .refl s, rfl, fun hm' => absurd hm' (by simp [hm])⟩
        · refine ⟨_, hsClientRefetchHsdesc_keepsSettled k0, rfl, fun _ k hk => ?_⟩
          obtain rfl : k0 = k := Option.some.inj (hid.symm.trans hk)
          exact hsClientRefetchHsdesc_settles k0
    intro hw k hk
    rw [hloop] at hw hk ⊢
    have hrest := retryAllSocksConnWaitingForDescLoop_keepsSettled (X := X) l s₁
    rcases List.mem_cons.mp hj with rfl | hj
    · -- the stream the loop visited first
      have hws := hs₁.waiting j (hrest.waiting j hw)
      have hlt := ((mem_connectionListByTypeState _).mp hws).1
      have hlive := ((mem_connectionListByTypeState _).mp hw).2.2.2
      rw [hrest.hsIdent j (Nat.lt_of_lt_of_le hlt hs₁.count), hs₁.hsIdent j hlt] at hk
      rcases hnext ((mem_connectionListByTypeState _).mp hws).2.2.2 k hk with h | h
      · exact hrest.settled k h
      · have := hrest.marked j (Nat.lt_of_lt_of_le hlt hs₁.count) (h j hws hk)
        rw [hlive] at this
        cases this
    · exact retryAllSocksConnWaitingForDescLoop_settles l s₁ j hj hw k hk

theorem retryAllSocksConnWaitingForDescLoop_idle :
    ∀ (l : List Nat) (s : ClientCore),
      (∀ j ∈ l, (s.conns.conn j).markedForClose = false → ∀ k, (s.conns.conn j).hsIdent = some k →
        (s.canClientRefetchDesc k).isSome = true) →
      (retryAllSocksConnWaitingForDescLoop X l s).1 = s
  | [], _, _ => rfl
  | i :: l, s, h => by
    have ih := retryAllSocksConnWaitingForDescLoop_idle l s fun j hj =>
      h j (List.mem_cons_of_mem _ hj)
    simp only [retryAllSocksConnWaitingForDescLoop]
    split
    · exact ih
    · rename_i k hk
      split
      · exact ih
      · rename_i hm
        obtain ⟨status, hst⟩ := Option.isSome_iff_exists.mp
          (h i (List.mem_cons_self _ _) (by simpa using hm) k hk)
        rw [hsClientRefetchHsdesc_of_canClientRefetchDesc hst]
        exact ih

end ClientCore

open ClientCore ConnTable in
/-- After `hs_client_dir_info_changed`, every live stream still waiting for a
descriptor belongs to a service whose refetch returns at once: a fetch for it
is pending, a usable descriptor is cached, or the client may not fetch or
lacks directory information. So a second notification with nothing in
between orders no fetch and closes nothing. -/
theorem dir_info_retry_settles (X : Collaborators) (s : ClientCore) :
    (∀ j ∈ (s.hsClientDirInfoChanged X).conns.connectionListByTypeState .ap apConnStateRenddescWait,
      ∀ k, ((s.hsClientDirInfoChanged X).conns.conn j).hsIdent = some k →
      (s.hsClientDirInfoChanged X).directoryRequestIsPending k = true ∨
      (s.hsClientDirInfoChanged X).hasUsableDesc k = true ∨
      s.options.fetchHidServDescriptors = false ∨ s.net.liveConsensus = false ∨
      s.net.minimumDirInfo = false) ∧
    (s.hsClientDirInfoChanged X).hsClientDirInfoChanged X = s.hsClientDirInfoChanged X := by
  have hkeep := retryAllSocksConnWaitingForDescLoop_keepsSettled (X := X)
    (s.conns.connectionListByTypeState .ap apConnStateRenddescWait) s
  have hset : ∀ j ∈ (s.hsClientDirInfoChanged X).conns.connectionListByTypeState .ap
      apConnStateRenddescWait, ∀ k, ((s.hsClientDirInfoChanged X).conns.conn j).hsIdent = some k →
      ((s.hsClientDirInfoChanged X).canClientRefetchDesc k).isSome = true := fun j hj =>
    retryAllSocksConnWaitingForDescLoop_settles _ s j (hkeep.waiting j hj) hj
  have hf := hsClientDirInfoChanged_frame X s
  refine ⟨fun j hj k hk => ?_, ?_⟩
  · have := (canClientRefetchDesc_isSome_iff k).mp (hset j hj k hk)
    rwa [hf.options, hf.net] at this
  · exact retryAllSocksConnWaitingForDescLoop_idle _ _ fun j hj _ k hk => hset j hj k hk

/-- The stream parked while the consensus was missing and fetches were off,
once both are back: the retry launches its fetch. -/
def sampleReenabled : ClientCore :=
  noFetchStream.run sampleCollaborators [.setOptions sampleOptions, .setNetwork sampleNetwork]

theorem dir_info_retry_settles_reenabled :
    0 ∈ (sampleReenabled.hsClientDirInfoChanged sampleCollaborators).conns.connectionListByTypeState
      .ap apConnStateRenddescWait ∧
    ((sampleReenabled.hsClientDirInfoChanged sampleCollaborators).conns.conn 0).hsIdent = some 1 ∧
    ((sampleReenabled.hsClientDirInfoChanged sampleCollaborators).directoryRequestIsPending 1 = true ∨
      (sampleReenabled.hsClientDirInfoChanged sampleCollaborators).hasUsableDesc 1 = true ∨
      sampleReenabled.options.fetchHidServDescriptors = false ∨
      sampleReenabled.net.liveConsensus = false ∨ sampleReenabled.net.minimumDirInfo = false) ∧
    (sampleReenabled.hsClientDirInfoChanged sampleCollaborators).hsClientDirInfoChanged
        sampleCollaborators =
      sampleReenabled.hsClientDirInfoChanged sampleCollaborators :=
  ⟨by decide, by decide, (dir_info_retry_settles _ _).1 0 (by decide) 1 (by decide),
    (dir_info_retry_settles _ _).2⟩

end HsClient
