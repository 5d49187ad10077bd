import HsClient.EventLoop

/-!
# One descriptor fetch per service

`directory_request_is_pending` is what keeps the client from asking the HSDirs
twice for one descriptor: `hs_client_refetch_hsdesc` launches a fetch only
when no live `FETCH_HSDESC` connection carries the service key, and the launch
attaches exactly that key. Every other write of the fetch layer rewrites a
connection keeping its type, purpose and ident, or closes it. So along every
run, admissible or not, at most one live fetch carries each key.

Once a fetch is out, every further refetch for its key reports `PENDING` and
changes nothing. The next sections look at the fetch layer's error handling:
what a failed refetch leaves parked, whether `HAVE_DESC` can reach the retry
loop, and which fetches `hs_client_purge_state` cancels. The last shows that
every fetch a run opens passed the other pre-checks of
`can_client_refetch_desc` in the state it was opened from.
-/

namespace HsClient

namespace ConnTable

variable (t : ConnTable)

/-- Connection `i` is a live `FETCH_HSDESC` directory request for the key:
what `directory_request_is_pending` looks for. -/
def IsFetchFor (k : Ed25519PublicKey) (i : Nat) : Prop :=
  i < t.count ∧ (t.conn i).type = .dir ∧ (t.conn i).purpose = dirPurposeFetchHsdesc ∧
    (t.conn i).markedForClose = false ∧ (t.conn i).hsIdent = some k

/-- At most one live fetch carries each service key. -/
def FetchesUnique : Prop := ∀ k i j, t.IsFetchFor k i → t.IsFetchFor k j → i = j

/-- `t'` has no live fetch that `t` did not have. -/
def NoNewFetch (t t' : ConnTable) : Prop := ∀ k i, t'.IsFetchFor k i → t.IsFetchFor k i

/-- A rewrite of one connection that keeps what makes it a request for a key
and never reopens it. -/
def KeepsRequest (f : Connection → Connection) : Prop :=
  ∀ c, (f c).type = c.type ∧ (f c).purpose = c.purpose ∧ (f c).hsIdent = c.hsIdent ∧
    ((f c).markedForClose = false → c.markedForClose = false)

namespace NoNewFetch

theorem refl : NoNewFetch t t := fun _ _ => id

theorem trans {t₁ t₂ t₃ : ConnTable} (h₁ : NoNewFetch t₁ t₂) (h₂ : NoNewFetch t₂ t₃) :
    NoNewFetch t₁ t₃ := fun k i h => h₁ k i (h₂ k i h)

theorem unique {t t' : ConnTable} (h : NoNewFetch t t') (hu : t.FetchesUnique) :
    t'.FetchesUnique := fun k i j hi hj => hu k i j (h k i hi) (h k j hj)

end NoNewFetch

theorem noNewFetch_modify {f : Connection → Connection} (hf : KeepsRequest f) (i : Nat) :
    NoNewFetch t (t.modify i f) := by
  rintro k j ⟨hj, htype, hpurpose, hmarked, hident⟩
  rw [modify_count] at hj
  by_cases hji : j = i
  · subst hji
    obtain ⟨h1, h2, h3, h4⟩ := hf (t.conn j)
    simp only [modify_conn_self] at htype hpurpose hmarked hident
    exact ⟨hj, h1 ▸ htype, h2 ▸ hpurpose, h4 hmarked, h3 ▸ hident⟩
  · simp only [modify_conn_of_ne _ _ hji] at htype hpurpose hmarked hident
    exact ⟨hj, htype, hpurpose, hmarked, hident⟩

theorem noNewFetch_foldl_modify {f : Connection → Connection} (hf : KeepsRequest f) :
    ∀ (l : List Nat) (t : ConnTable), NoNewFetch t (l.foldl (fun t i => t.modify i f) t)
  | [], t => .refl t
  | i :: l, t => (noNewFetch_modify t hf i).trans (noNewFetch_foldl_modify hf l _)

theorem noNewFetch_add {c : Connection} (hc : c.type ≠ .dir) : NoNewFetch t (t.add c) := by
  rintro k j ⟨hj, htype, hrest⟩
  rw [add_count] at hj
  rcases Nat.lt_succ_iff_lt_or_eq.mp hj with hj | rfl
  · rw [add_conn_of_lt _ _ hj] at htype hrest
    exact ⟨hj, htype, hrest⟩
  · rw [add_conn_count] at htype
    exact absurd htype hc

theorem fetchesUnique_add_fetch (hu : t.FetchesUnique) {k : Ed25519PublicKey}
    (hk : ∀ i, ¬ t.IsFetchFor k i) (now : Nat) :
    (t.add (hsDescFetchConnection k now)).FetchesUnique := by
  have old : ∀ k' i, (t.add (hsDescFetchConnection k now)).IsFetchFor k' i → i < t.count →
      t.IsFetchFor k' i := by
    rintro k' i ⟨-, hrest⟩ hi
    rw [add_conn_of_lt _ _ hi] at hrest
    exact ⟨hi, hrest⟩
  have new : ∀ k' i, (t.add (hsDescFetchConnection k now)).IsFetchFor k' i → i = t.count ∨
      t.IsFetchFor k' i := fun k' i h =>
    (Nat.lt_succ_iff_lt_or_eq.mp h.1).elim (fun hi => .inr (old k' i h hi)) .inl
  intro k' i j hi hj
  rcases new k' i hi with rfl | hi' <;> rcases new k' j hj with rfl | hj'
  · rfl
  · have : k' = k := by simpa [hsDescFetchConnection] using hi.2.2.2.2.symm
    exact absurd (this ▸ hj') (hk j)
  · have : k' = k := by simpa [hsDescFetchConnection] using hj.2.2.2.2.symm
    exact absurd (this ▸ hi') (hk i)
  · exact hu k' i j hi' hj'

/-! The rewrites of the fetch layer and of the driver keep every request key. -/

theorem keepsRequest_closeSocksConnIfFor (identityPk : Ed25519PublicKey)
    (reason : StreamEndReason) :
    KeepsRequest (closeSocksConnIfFor identityPk reason) := fun c => by
  unfold closeSocksConnIfFor; split <;> simp

theorem keepsRequest_flagConnWaitDescIfFor (identityPk : Ed25519PublicKey) :
    KeepsRequest (flagConnWaitDescIfFor identityPk) := fun c => by
  unfold flagConnWaitDescIfFor; split <;> simp

theorem keepsRequest_cancelFetchIfIdent : KeepsRequest cancelFetchIfIdent := fun c => by
  unfold cancelFetchIfIdent; split <;> simp

end ConnTable

namespace ConnTable

variable (t : ConnTable)

theorem closeAllSocksConnsWaitingForDesc_noNewFetch (identityPk : Ed25519PublicKey)
    (reason : StreamEndReason) :
    NoNewFetch t (t.closeAllSocksConnsWaitingForDesc identityPk reason) :=
  noNewFetch_foldl_modify (keepsRequest_closeSocksConnIfFor identityPk reason) _ t

theorem flagAllConnWaitDesc_noNewFetch (identityPk : Ed25519PublicKey) :
    NoNewFetch t (t.flagAllConnWaitDesc identityPk) :=
  noNewFetch_foldl_modify (keepsRequest_flagConnWaitDescIfFor identityPk) _ t

theorem cancelDescriptorFetches_noNewFetch : NoNewFetch t t.cancelDescriptorFetches :=
  noNewFetch_foldl_modify keepsRequest_cancelFetchIfIdent _ t

end ConnTable

namespace ClientCore

open ConnTable

variable {X : Collaborators} {s : ClientCore}

theorem directoryRequestIsPending_iff (k : Ed25519PublicKey) :
    s.directoryRequestIsPending k = true ↔ ∃ i, s.conns.IsFetchFor k i := by
  simp [directoryRequestIsPending, mem_connectionListByTypePurpose, IsFetchFor, and_assoc]

theorem canClientRefetchDesc_ne_launched (k : Ed25519PublicKey) :
    s.canClientRefetchDesc k ≠ some .launched := by
  unfold canClientRefetchDesc
  repeat' split
  all_goals simp

theorem canClientRefetchDesc_eq_none (k : Ed25519PublicKey) :
    s.canClientRefetchDesc k = none ↔ s.options.fetchHidServDescriptors = true ∧
      s.net.liveConsensus = true ∧ s.net.minimumDirInfo = true ∧ s.hasUsableDesc k = false ∧
      s.directoryRequestIsPending k = false := by
  unfold canClientRefetchDesc
  repeat' split
  all_goals simp_all

theorem fetchV3Desc_cases (k : Ed25519PublicKey) :
    ((s.fetchV3Desc X k).2 = .noHsdirs ∧ (s.fetchV3Desc X k).1.conns = s.conns) ∨
    ((s.fetchV3Desc X k).2 = .launched ∧
      (s.fetchV3Desc X k).1.conns = s.conns.add (hsDescFetchConnection k s.now)) := by
  have hpick : (s.pickHsdirV3 X k).2.conns = s.conns ∧
    (s.pickHsdirV3 X k).2.now = s.now := ⟨rfl, rfl⟩
  unfold fetchV3Desc
  split <;> rename_i s' h <;> rw [h] at hpick
  · exact .inl ⟨rfl, hpick.1⟩
  · simp only at hpick
    exact .inr ⟨rfl, by simp only [directoryLaunchV3DescFetch, hpick.1, hpick.2]⟩

theorem hsClientRefetchHsdesc_conns (k : Ed25519PublicKey) :
    ((s.hsClientRefetchHsdesc X k).2 ≠ .launched ∧
      NoNewFetch s.conns (s.hsClientRefetchHsdesc X k).1.conns) ∨
    ((s.hsClientRefetchHsdesc X k).2 = .launched ∧ (∀ i, ¬ s.conns.IsFetchFor k i) ∧
      (s.hsClientRefetchHsdesc X k).1.conns = s.conns.add (hsDescFetchConnection k s.now)) := by
  unfold hsClientRefetchHsdesc
  split
  · rename_i status h
    exact .inl ⟨fun he => canClientRefetchDesc_ne_launched k (h.trans (congrArg some he)), .refl _⟩
  · rename_i hcan
    have hfree : ∀ i, ¬ s.conns.IsFetchFor k i := fun i hi => by
      have hnp := ((canClientRefetchDesc_eq_none k).mp hcan).2.2.2.2
      rw [(directoryRequestIsPending_iff k).mpr ⟨i, hi⟩] at hnp
      cases hnp
    dsimp only
    rcases fetchV3Desc_cases (X := X) (s := s) k with ⟨hst, hconns⟩ | ⟨hst, hconns⟩
    · simp only [hst, fetchStatusShouldCloseSocks, if_true]
      refine .inl ⟨by decide, ?_⟩
      show NoNewFetch s.conns
        ((s.fetchV3Desc X k).1.conns.closeAllSocksConnsWaitingForDesc k .resolvefailed)
      rw [hconns]
      exact closeAllSocksConnsWaitingForDesc_noNewFetch _ _ _
    · simp only [hst, fetchStatusShouldCloseSocks, Bool.false_eq_true, if_false]
      exact .inr ⟨trivial, hfree, hconns⟩

theorem hsClientRefetchHsdesc_fetchesUnique (k : Ed25519PublicKey) (h : s.conns.FetchesUnique) :
    (s.hsClientRefetchHsdesc X k).1.conns.FetchesUnique := by
  rcases hsClientRefetchHsdesc_conns (X := X) (s := s) k with ⟨-, hn⟩ | ⟨-, hk, heq⟩
  · exact hn.unique h
  · rw [heq]; exact fetchesUnique_add_fetch _ h hk _

theorem retryAllSocksConnWaitingForDescLoop_fetchesUnique :
    ∀ (l : List Nat) (s : ClientCore), s.conns.FetchesUnique →
      (retryAllSocksConnWaitingForDescLoop X l s).1.conns.FetchesUnique
  | [], _, h => h
  | i :: l, s, h => by
    simp only [retryAllSocksConnWaitingForDescLoop]
    split
    · exact retryAllSocksConnWaitingForDescLoop_fetchesUnique l s h
    · split
      · exact retryAllSocksConnWaitingForDescLoop_fetchesUnique l s h
      · exact retryAllSocksConnWaitingForDescLoop_fetchesUnique l _
          (hsClientRefetchHsdesc_fetchesUnique _ h)

theorem descHasArrivedAt_noNewFetch (k : Ed25519PublicKey) (now i : Nat) (desc : Descriptor) :
    NoNewFetch s.conns (s.descHasArrivedAt X k now i desc).conns := by
  unfold descHasArrivedAt
  split
  · exact noNewFetch_modify _ (fun _ => by simp) i
  · apply noNewFetch_modify
    exact fun _ => ⟨rfl, rfl, rfl, id⟩

theorem hsClientDescHasArrivedLoop_noNewFetch (k : Ed25519PublicKey) (now : Nat) :
    ∀ (l : List Nat) (s : ClientCore),
      NoNewFetch s.conns (hsClientDescHasArrivedLoop X k now l s).conns
  | [], s => .refl _
  | i :: l, s => by
    simp only [hsClientDescHasArrivedLoop]
    split
    · exact hsClientDescHasArrivedLoop_noNewFetch k now l s
    · split
      · exact .refl _
      · exact (descHasArrivedAt_noNewFetch k now i _).trans
          (hsClientDescHasArrivedLoop_noNewFetch k now l _)

theorem dirFetchDone_noNewFetch (i : Nat) (desc : Option Descriptor) :
    NoNewFetch s.conns (s.dirFetchDone X i desc).conns := by
  unfold dirFetchDone
  refine NoNewFetch.trans ?_ (noNewFetch_modify _ (fun _ => by simp) i)
  split
  · exact hsClientDescHasArrivedLoop_noNewFetch _ _ _ _
  · exact .refl _

theorem sendIntroduce1_conns (intro rend : Nat) (sent : Bool) :
    (s.sendIntroduce1 X intro rend sent).1.conns = s.conns ∨
    (s.sendIntroduce1 X intro rend sent).1 =
      s.refetchAndFlagConnWaitDesc X (s.circuits.circ intro).hsIdent.identityPk := by
  unfold sendIntroduce1
  split
  · exact .inl rfl
  · dsimp only
    split
    · split
      · exact .inr rfl
      · split
        · exact .inl rfl
        · split <;> exact .inl rfl
    · exact .inr rfl

theorem refetchAndFlagConnWaitDesc_fetchesUnique (k : Ed25519PublicKey)
    (h : s.conns.FetchesUnique) :
    (s.refetchAndFlagConnWaitDesc X k).conns.FetchesUnique :=
  (flagAllConnWaitDesc_noNewFetch _ k).unique (hsClientRefetchHsdesc_fetchesUnique k h)

theorem step_fetch_cases (e : Event) :
    NoNewFetch s.conns (s.step X e).1.conns ∨
    (∃ k, e = .newStream k ∧
      NoNewFetch ({ s with conns := s.conns.add (apStream k apConnStateRenddescWait false s.now)
        }.hsClientRefetchHsdesc X k).1.conns (s.step X e).1.conns ∧
      FetchFrame ({ s with conns := s.conns.add (apStream k apConnStateRenddescWait false s.now)
        }.hsClientRefetchHsdesc X k).1 (s.step X e).1) ∨
    (e = .dirInfoChanged ∧ (s.step X e).1 = s.hsClientDirInfoChanged X) ∨
    ∃ intro rend sent, e = .sendIntroduce1 intro rend sent ∧
      (s.step X e).1 = s.refetchAndFlagConnWaitDesc X (s.circuits.circ intro).hsIdent.identityPk := by
  cases e with
  | sendIntroduce1 intro rend sent =>
    rcases sendIntroduce1_conns (X := X) (s := s) intro rend sent with heq | heq
    · exact .inl (heq ▸ .refl _)
    · exact .inr (.inr (.inr ⟨intro, rend, sent, rfl, heq⟩))
  | dirFetchDone i desc => exact .inl (dirFetchDone_noNewFetch i desc)
  | dirInfoChanged => exact .inr (.inr (.inl ⟨rfl, rfl⟩))
  | purgeState => exact .inl (cancelDescriptorFetches_noNewFetch _)
  | newStream k =>
    cases h : s.hasUsableDesc k
    · refine .inr (.inl ⟨k, rfl, ?_⟩)
      simp only [step, newStream, h, Bool.false_eq_true, if_false]
      split
      · exact ⟨noNewFetch_modify _ (fun _ => by simp) _, FetchFrame.conns _ _⟩
      · exact ⟨.refl _, .refl _⟩
    · exact .inl (by simp only [step, newStream, h, if_true]; exact noNewFetch_add _ (by simp [apStream]))
  | connClosed i => exact .inl (noNewFetch_modify _ (fun _ => by simp) i)
  | streamAttached i | dirConnStateChanged i _ =>
    left
    refine noNewFetch_modify _ ?_ i
    exact fun _ => ⟨rfl, rfl, rfl, id⟩
  | _ => exact .inl (by rw [step_conns_of_quiet X s (by rfl)]; exact .refl _)

theorem step_fetchesUnique (e : Event) (h : s.conns.FetchesUnique) :
    (s.step X e).1.conns.FetchesUnique := by
  rcases step_fetch_cases (X := X) (s := s) e with hn | ⟨k, -, hn, -⟩ | ⟨-, heq⟩ |
    ⟨intro, rend, sent, -, heq⟩ <;> try rw [heq]
  · exact hn.unique h
  · exact hn.unique (hsClientRefetchHsdesc_fetchesUnique (s := { s with conns := _ }) k
      ((noNewFetch_add _ (by simp [apStream])).unique h))
  · exact retryAllSocksConnWaitingForDescLoop_fetchesUnique _ s h
  · exact refetchAndFlagConnWaitDesc_fetchesUnique _ h

end ClientCore

open ClientCore ConnTable in
/-- Along every run at most one live `FETCH_HSDESC` connection carries each
service key, and a refetch reports `LAUNCHED` only when none carried it
before, adding exactly one connection: the fetch for the key. -/
theorem fetch_requests_unique {X : Collaborators} {s : ClientCore} (hs : Reachable X s) :
    s.conns.FetchesUnique ∧
    ∀ k, (s.hsClientRefetchHsdesc X k).2 = .launched →
      (∀ i, ¬ s.conns.IsFetchFor k i) ∧
      (s.hsClientRefetchHsdesc X k).1.conns = s.conns.add (hsDescFetchConnection k s.now) := by
  refine ⟨?_, fun k hl => ?_⟩
  · induction hs with
    | init => intro k i j hi; exact absurd hi.1 (Nat.not_lt_zero i)
    | step _ _ ih => exact step_fetchesUnique _ ih
  · rcases hsClientRefetchHsdesc_conns (X := X) (s := s) k with ⟨hne, -⟩ | ⟨-, hfree, heq⟩
    · exact absurd hl hne
    · exact ⟨hfree, heq⟩


theorem fetch_requests_unique_twoStreams :
    Reachable sampleCollaborators
      ((ClientCore.init sampleOptions sampleNetwork 0).run sampleCollaborators
        [.newStream 1, .newStream 1]) ∧
    ((ClientCore.init sampleOptions sampleNetwork 0).run sampleCollaborators
        [.newStream 1, .newStream 1]).conns.FetchesUnique ∧
    ∀ k, ((((ClientCore.init sampleOptions sampleNetwork 0).run sampleCollaborators
        [.newStream 1, .newStream 1]).hsClientRefetchHsdesc sampleCollaborators k).2 = .launched →
      (∀ i, ¬ ((ClientCore.init sampleOptions sampleNetwork 0).run sampleCollaborators
        [.newStream 1, .newStream 1]).conns.IsFetchFor k i) ∧
      (((ClientCore.init sampleOptions sampleNetwork 0).run sampleCollaborators
        [.newStream 1, .newStream 1]).hsClientRefetchHsdesc sampleCollaborators k).1.conns =
        ((ClientCore.init sampleOptions sampleNetwork 0).run sampleCollaborators
          [.newStream 1, .newStream 1]).conns.add (hsDescFetchConnection k 0)) :=
  have hs := Reachable.run [.newStream 1, .newStream 1] (.init _ _ _) (by decide)
  ⟨hs, fetch_requests_unique hs⟩

/-! ## Refetching while the fetch is out -/

namespace ClientCore

open ConnTable

variable {X : Collaborators} {s : ClientCore}

theorem hsClientRefetchHsdesc_of_canClientRefetchDesc {k : Ed25519PublicKey}
    {status : HsClientFetchStatus} (h : s.canClientRefetchDesc k = some status) :
    s.hsClientRefetchHsdesc X k = (s, status) := by
  simp [hsClientRefetchHsdesc, h]

theorem canClientRefetchDesc_of_launched {k : Ed25519PublicKey}
    (h : (s.hsClientRefetchHsdesc X k).2 = .launched) : s.canClientRefetchDesc k = none := by
  cases hc : s.canClientRefetchDesc k with
  | none => rfl
  | some status =>
    rw [hsClientRefetchHsdesc_of_canClientRefetchDesc hc] at h
    exact absurd (hc.trans (congrArg some h)) (canClientRefetchDesc_ne_launched k)

theorem canClientRefetchDesc_pending {s' : ClientCore} {k : Ed25519PublicKey}
    (hf : FetchFrame s s') (hnone : s.canClientRefetchDesc k = none)
    (hp : s'.directoryRequestIsPending k = true) : s'.canClientRefetchDesc k = some .pending := by
  obtain ⟨h1, h2, h3, h4, -⟩ := (canClientRefetchDesc_eq_none k).mp hnone
  have hu : s'.hasUsableDesc k = s.hasUsableDesc k := by
    simp only [hasUsableDesc, hf.descCache, hf.introStateCache]
  simp [canClientRefetchDesc, hf.options, hf.net, hu, hp, h1, h2, h3, h4]

theorem hsClientRefetchHsdesc_after_launch {k : Ed25519PublicKey}
    (h : (s.hsClientRefetchHsdesc X k).2 = .launched) :
    (s.hsClientRefetchHsdesc X k).1.hsClientRefetchHsdesc X k =
      ((s.hsClientRefetchHsdesc X k).1, .pending) := by
  refine hsClientRefetchHsdesc_of_canClientRefetchDesc (canClientRefetchDesc_pending
    (hsClientRefetchHsdesc_frame X s k) (canClientRefetchDesc_of_launched h) ?_)
  rcases hsClientRefetchHsdesc_conns (X := X) (s := s) k with ⟨hne, -⟩ | ⟨-, -, hconns⟩
  · exact absurd h hne
  rw [directoryRequestIsPending_iff, hconns]
  exact ⟨s.conns.count, by simp [IsFetchFor, add_conn_count, hsDescFetchConnection]⟩

end ClientCore

/-- Once a refetch has launched a fetch for a service, refetching it again,
however often, reports `PENDING` each time and changes nothing. -/
theorem refetch_pending_after_launch (X : Collaborators) (s : ClientCore) (k : Ed25519PublicKey)
    (h : (s.hsClientRefetchHsdesc X k).2 = .launched) (n : Nat) :
    (fun r : ClientCore × HsClientFetchStatus => r.1.hsClientRefetchHsdesc X k)^[n + 1]
      (s.hsClientRefetchHsdesc X k) = ((s.hsClientRefetchHsdesc X k).1, .pending) := by
  induction n with
  | zero => exact ClientCore.hsClientRefetchHsdesc_after_launch h
  | succ n ih =>
    rw [Function.iterate_succ_apply', ih]
    exact ClientCore.hsClientRefetchHsdesc_after_launch h

theorem refetch_pending_after_launch_init :
    ((ClientCore.init sampleOptions sampleNetwork 0).hsClientRefetchHsdesc sampleCollaborators
      1).2 = .launched ∧
    (fun r : ClientCore × HsClientFetchStatus => r.1.hsClientRefetchHsdesc sampleCollaborators 1)^[3]
      ((ClientCore.init sampleOptions sampleNetwork 0).hsClientRefetchHsdesc sampleCollaborators 1) =
      (((ClientCore.init sampleOptions sampleNetwork 0).hsClientRefetchHsdesc sampleCollaborators
        1).1, .pending) :=
  ⟨by decide, refetch_pending_after_launch _ _ _ (by decide) 2⟩

/-! ## What a failed refetch leaves parked -/

/-- Descriptor fetches switched off (`FetchHidServDescriptors 0`). -/
def noFetchOptions : Options := ⟨false, false, fun _ => false, fun _ => true⟩

/-- `sampleIntroduction` after its intro point was noted as timed out: INTRODUCE1
is due but the cached descriptor has no usable intro point left. -/
def sampleUnusableIntro : ClientCore :=
  (sampleIntroduction.step sampleCollaborators (.introStateNote 1 2 .timeout)).1

/-- A stream opened for service `1` before the consensus is live waits for the
descriptor (`MISSING_INFO`); then descriptor fetches are switched off. -/
def noFetchStream : ClientCore :=
  (ClientCore.init sampleOptions { sampleNetwork with liveConsensus := false } 0).run
    sampleCollaborators [.newStream 1, .setOptions noFetchOptions]

/-- Two callbacks whose refetch fails and leave a live stream of the service
waiting for the descriptor. `hs_client_dir_info_changed` once fetches are
switched off: the pre-check of the refetch reports `NOT_ALLOWED` and returns
before closing anything. `send_introduce1` with no usable intro point and the only
HSDir already asked: the refetch reports `NO_HSDIRS` and closes the streams
waiting for the descriptor, and `flag_all_conn_wait_desc` then parks the
stream that was waiting for a circuit. -/
theorem refetch_failure_leaves_stream_parked :
    Reachable sampleCollaborators noFetchStream ∧
    (noFetchStream.retryAllSocksConnWaitingForDesc sampleCollaborators).2 = [.notAllowed] ∧
    (noFetchStream.hsClientDirInfoChanged sampleCollaborators).conns.conn 0 =
      apStream 1 apConnStateRenddescWait false 0 ∧
    Reachable sampleCollaborators sampleUnusableIntro ∧
    (sampleUnusableIntro.hsClientRefetchHsdesc sampleCollaborators 1).2 = .noHsdirs ∧
    (sampleUnusableIntro.sendIntroduce1 sampleCollaborators 0 1 true).2 = -1 ∧
    (sampleUnusableIntro.sendIntroduce1 sampleCollaborators 0 1 true).1.conns.conn 0 =
      apStream 1 apConnStateRenddescWait false 0 :=
  ⟨Reachable.run _ (.init _ _ _) (by decide), by decide, by decide,
    reachable_sampleIntroduction.step (by decide), by decide, by decide, by decide⟩

/-! ## `HAVE_DESC` in the retry loop -/

/-- `sampleUnusableIntro` after INTRODUCE1 parked the stream and the
timeout note expired: the cached descriptor is usable again and no descriptor
arrived to wake the stream. -/
def sampleExpiredNote : ClientCore :=
  sampleUnusableIntro.run sampleCollaborators
    [.sendIntroduce1 0 1 true, .tick 200, .introStateClean]

/-- A reachable state with a live stream waiting for a descriptor that is
cached and usable; the retry loop's refetch for it reports `HAVE_DESC`. -/
theorem retry_reaches_have_desc :
    Reachable sampleCollaborators sampleExpiredNote ∧
    (sampleExpiredNote.conns.conn 0).type = .ap ∧
    (sampleExpiredNote.conns.conn 0).hsIdent = some 1 ∧
    (sampleExpiredNote.conns.conn 0).markedForClose = false ∧
    (sampleExpiredNote.conns.conn 0).state = apConnStateRenddescWait ∧
    sampleExpiredNote.hasUsableDesc 1 = true ∧
    (sampleExpiredNote.retryAllSocksConnWaitingForDesc sampleCollaborators).2 = [.haveDesc] :=
  ⟨Reachable.run _ (reachable_sampleIntroduction.step (by decide)) (by decide), by decide,
    by decide, by decide, by decide, by decide, by decide⟩

/-! ## What NEWNYM cancels -/

namespace ClientCore

open ConnTable

variable {s : ClientCore}

/-- `cancel_descriptor_fetches` compares the connection *state* with
`DIR_PURPOSE_FETCH_HSDESC`: after `hs_client_purge_state` a fetch for the key
is still pending exactly when a live one was in any other state. -/
theorem directoryRequestIsPending_hsClientPurgeState (k : Ed25519PublicKey) :
    s.hsClientPurgeState.directoryRequestIsPending k = true ↔
      ∃ i, s.conns.IsFetchFor k i ∧ (s.conns.conn i).state ≠ dirPurposeFetchHsdesc := by
  have key : ∀ i, s.hsClientPurgeState.conns.IsFetchFor k i ↔
      s.conns.IsFetchFor k i ∧ (s.conns.conn i).state ≠ dirPurposeFetchHsdesc := fun i => by
    simp only [IsFetchFor, hsClientPurgeState, cancelDescriptorFetches_count,
      cancelDescriptorFetches_conn]
    split
    · -- selected by its state: cancelled, since it carries the key
      obtain ⟨-, -, hst, -⟩ := (mem_connectionListByTypeState _).mp ‹_›
      simp only [hst, ne_eq, not_true_eq_false, and_false, iff_false]
      rintro ⟨-, -, -, hm, hid⟩
      rw [cancelFetchIfIdent_hsIdent] at hid
      simp [cancelFetchIfIdent, hid] at hm
    · -- not selected: untouched, and live only in another state
      refine ⟨fun h => ⟨h, fun hst => ‹¬_› ?_⟩, And.left⟩
      exact (mem_connectionListByTypeState _).mpr ⟨h.1, h.2.1, hst, h.2.2.2.1⟩
  simp only [directoryRequestIsPending_iff, key]

end ClientCore

/-- Service `1`'s first stream has launched its descriptor fetch, connection
`1`, which is sending its request. -/
def sampleFetching : ClientCore :=
  (ClientCore.init sampleOptions sampleNetwork 0).run sampleCollaborators [.newStream 1]

/-- A fetch as `directory_launch_v3_desc_fetch` leaves it, sending its request,
survives `hs_client_purge_state`: it stays live and pending. -/
theorem purge_state_keeps_sending_fetch :
    (sampleFetching.conns.conn 1).type = .dir ∧
    (sampleFetching.conns.conn 1).purpose = dirPurposeFetchHsdesc ∧
    (sampleFetching.conns.conn 1).state = dirConnStateClientSending ∧
    sampleFetching.directoryRequestIsPending 1 = true ∧
    (sampleFetching.hsClientPurgeState.conns.conn 1).markedForClose = false ∧
    sampleFetching.hsClientPurgeState.directoryRequestIsPending 1 = true := by
  decide

/-! ## Fetches pass the pre-checks -/

namespace ClientCore

open ConnTable

/-- Every live fetch of `s'` was live in `s`, or carries a key for which, in `s`,
descriptor fetches are on, the directory information suffices and no usable
descriptor is cached: the pre-checks of `can_client_refetch_desc`. -/
def FetchesGated (s s' : ClientCore) : Prop :=
  ∀ k i, s'.conns.IsFetchFor k i → s.conns.IsFetchFor k i ∨
    (s.options.fetchHidServDescriptors = true ∧ s.net.liveConsensus = true ∧
      s.net.minimumDirInfo = true ∧ s.hasUsableDesc k = false)

namespace FetchesGated

theorem of_noNewFetch {s s' : ClientCore} (h : NoNewFetch s.conns s'.conns) :
    FetchesGated s s' :=
  fun k i hi => .inl (h k i hi)

theorem trans {s₁ s₂ s₃ : ClientCore} (h₁ : FetchesGated s₁ s₂) (hf : FetchFrame s₁ s₂)
    (h₂ : FetchesGated s₂ s₃) : FetchesGated s₁ s₃ := fun k i hi => by
  rcases h₂ k i hi with h | h
  · exact h₁ k i h
  · rw [hf.options, hf.net, hf.hasUsableDesc] at h
    exact .inr h

end FetchesGated

variable {X : Collaborators} {s : ClientCore}

theorem hsClientRefetchHsdesc_fetchesGated (k : Ed25519PublicKey) :
    FetchesGated s (s.hsClientRefetchHsdesc X k).1 := by
  rcases hsClientRefetchHsdesc_conns (X := X) (s := s) k with ⟨-, hn⟩ | ⟨hl, -, heq⟩
  · exact .of_noNewFetch hn
  · obtain ⟨h1, h2, h3, h4, -⟩ :=
      (canClientRefetchDesc_eq_none k).mp (canClientRefetchDesc_of_launched hl)
    intro k' i hi
    rw [heq] at hi
    rcases Nat.lt_succ_iff_lt_or_eq.mp hi.1 with hlt | rfl
    · -- an older fetch
      obtain ⟨-, hrest⟩ := hi
      rw [add_conn_of_lt _ _ hlt] at hrest
      exact .inl ⟨hlt, hrest⟩
    · -- the fetch just launched
      have : k' = k := by simpa [hsDescFetchConnection] using hi.2.2.2.2.symm
      exact .inr (this ▸ ⟨h1, h2, h3, h4⟩)

theorem retryAllSocksConnWaitingForDescLoop_fetchesGated :
    ∀ (l : List Nat) (s : ClientCore), FetchesGated s (retryAllSocksConnWaitingForDescLoop X l s).1
  | [], _ => .of_noNewFetch (.refl _)
  | i :: l, s => by
    simp only [retryAllSocksConnWaitingForDescLoop]
    split
    · exact retryAllSocksConnWaitingForDescLoop_fetchesGated l s
    · split
      · exact retryAllSocksConnWaitingForDescLoop_fetchesGated l s
      · exact (hsClientRefetchHsdesc_fetchesGated _).trans (hsClientRefetchHsdesc_frame X s _)
          (retryAllSocksConnWaitingForDescLoop_fetchesGated l _)

theorem step_fetchesGated (e : Event) : FetchesGated s (s.step X e).1 := by
  rcases step_fetch_cases (X := X) (s := s) e with hn | ⟨k, -, hn, -⟩ | ⟨-, heq⟩ |
    ⟨intro, rend, sent, -, heq⟩ <;> try rw [heq]
  · exact .of_noNewFetch hn
  · exact ((FetchesGated.of_noNewFetch (noNewFetch_add _ (by simp [apStream]))).trans
      (FetchFrame.conns s _) (hsClientRefetchHsdesc_fetchesGated k)).trans
      ((FetchFrame.conns s _).trans (hsClientRefetchHsdesc_frame X _ k)) (.of_noNewFetch hn)
  · exact retryAllSocksConnWaitingForDescLoop_fetchesGated _ s
  · exact (hsClientRefetchHsdesc_fetchesGated _).trans (hsClientRefetchHsdesc_frame X s _)
      (.of_noNewFetch (flagAllConnWaitDesc_noNewFetch _ _))

end ClientCore

open ClientCore ConnTable in
/-- Along every run, every live descriptor fetch at the end was live at the
start, or some step opened it while the pre-checks of `can_client_refetch_desc`
passed: descriptor fetches on, a live consensus, enough directory information,
and no usable descriptor of the service cached. The client never asks an HSDir
for a descriptor it can use, nor while fetching is off or its directory
information falls short. -/
theorem fetches_pass_prechecks (X : Collaborators) (s : ClientCore) (evs : List Event) :
    ∀ k i, (s.run X evs).conns.IsFetchFor k i → s.conns.IsFetchFor k i ∨
      ∃ r ∈ s.trace X evs, ¬ r.pre.conns.IsFetchFor k i ∧ r.post.conns.IsFetchFor k i ∧
        r.pre.options.fetchHidServDescriptors = true ∧ r.pre.net.liveConsensus = true ∧
        r.pre.net.minimumDirInfo = true ∧ r.pre.hasUsableDesc k = false := by
  induction evs generalizing s with
  | nil => exact fun k i h => .inl h
  | cons e es ih =>
    intro k i h
    simp only [run, trace] at h ⊢
    rcases ih _ k i h with h1 | ⟨r, hr, hr'⟩
    · by_cases h0 : s.conns.IsFetchFor k i
      · exact .inl h0
      · -- this step opened the fetch
        rcases step_fetchesGated (X := X) (s := s) e k i h1 with h' | hgate
        · exact absurd h' h0
        · exact .inr ⟨_, List.mem_cons_self _ _, h0, h1, hgate⟩
    · exact .inr ⟨r, List.mem_cons_of_mem _ hr, hr'⟩

theorem fetches_pass_prechecks_fetching :
    ((ClientCore.init sampleOptions sampleNetwork 0).run sampleCollaborators
      [.newStream 1]).conns.IsFetchFor 1 1 ∧
    ((ClientCore.init sampleOptions sampleNetwork 0).conns.IsFetchFor 1 1 ∨
      ∃ r ∈ (ClientCore.init sampleOptions sampleNetwork 0).trace sampleCollaborators
          [.newStream 1], ¬ r.pre.conns.IsFetchFor 1 1 ∧ r.post.conns.IsFetchFor 1 1 ∧
        r.pre.options.fetchHidServDescriptors = true ∧ r.pre.net.liveConsensus = true ∧
        r.pre.net.minimumDirInfo = true ∧ r.pre.hasUsableDesc 1 = false) :=
  have h : ((ClientCore.init sampleOptions sampleNetwork 0).run sampleCollaborators
      [.newStream 1]).conns.IsFetchFor 1 1 := by
    unfold ConnTable.IsFetchFor
    decide
  ⟨h, fetches_pass_prechecks _ _ _ 1 1 h⟩

end HsClient
