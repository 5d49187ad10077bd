import HsClient.StreamDecisions

/-!
# One service's events leave the other services' streams alone

`hs_client.c` reaches the connections of a service through loops over
snapshots, and each loop body checks the connection's HS ident against the
service it works for: `close_all_socks_conns_waiting_for_desc`,
`flag_all_conn_wait_desc` and `hs_client_desc_has_arrived`. So a refetch, a
descriptor arrival and the transient path of `send_introduce1` change only
connections of their own service, and append new ones. Only the retry loop of
`hs_client_dir_info_changed` and `hs_client_purge_state` reach every service,
and an event on one connection reaches that connection.
-/

namespace HsClient

namespace ConnTable

/-- `t'` keeps every connection of `t` that is not of service `S`, and keeps the
service of those it changes; it may append connections. -/
def OnlyTouches (S : Ed25519PublicKey) (t t' : ConnTable) : Prop :=
  t.count ≤ t'.count ∧ ∀ j < t.count, t'.conn j ≠ t.conn j →
    (t.conn j).hsIdent = some S ∧ (t'.conn j).hsIdent = some S

theorem closeSocksConnIfFor_eq_or (S : Ed25519PublicKey) (reason : StreamEndReason)
    (c : Connection) : closeSocksConnIfFor S reason c = c ∨
      c.hsIdent = some S ∧ (closeSocksConnIfFor S reason c).hsIdent = some S := by
  unfold closeSocksConnIfFor; split <;> simp_all

theorem flagConnWaitDescIfFor_eq_or (S : Ed25519PublicKey) (c : Connection) :
    flagConnWaitDescIfFor S c = c ∨
      c.hsIdent = some S ∧ (flagConnWaitDescIfFor S c).hsIdent = some S := by
  unfold flagConnWaitDescIfFor; split <;> simp_all

namespace OnlyTouches

variable {S : Ed25519PublicKey} {t t' t'' : ConnTable}

theorem of_conn (hc : t.count ≤ t'.count)
    (h : ∀ j < t.count, t'.conn j = t.conn j ∨
      (t.conn j).hsIdent = some S ∧ (t'.conn j).hsIdent = some S) :
    OnlyTouches S t t' :=
  ⟨hc, fun j hj hne => (h j hj).resolve_left hne⟩

theorem refl (t : ConnTable) : OnlyTouches S t t := ⟨le_rfl, fun _ _ h => absurd rfl h⟩

theorem trans (h : OnlyTouches S t t') (h' : OnlyTouches S t' t'') : OnlyTouches S t t'' :=
  ⟨h.1.trans h'.1, fun j hj hne => by
    have hj' := Nat.lt_of_lt_of_le hj h.1
    by_cases h1 : t'.conn j = t.conn j
    · rw [← h1] at hne ⊢
      exact h'.2 j hj' hne
    · refine ⟨(h.2 j hj h1).1, ?_⟩
      by_cases h2 : t''.conn j = t'.conn j
      · rw [h2]; exact (h.2 j hj h1).2
      · exact (h'.2 j hj' h2).2⟩

theorem add (c : Connection) : OnlyTouches S t (t.add c) :=
  ⟨Nat.le_succ _, fun _ hj hne => absurd (add_conn_of_lt _ _ hj) hne⟩

theorem closeAll (reason : StreamEndReason) :
    OnlyTouches S t (t.closeAllSocksConnsWaitingForDesc S reason) :=
  of_conn (closeAllSocksConnsWaitingForDesc_count _ _ _).ge fun j _ => by
    rw [closeAllSocksConnsWaitingForDesc_conn]
    split
    · exact closeSocksConnIfFor_eq_or S reason _
    · exact .inl rfl

theorem markUnattachedAp_of_le (h : OnlyTouches S t t') {i : Nat} (hi : t.count ≤ i)
    (reason : StreamEndReason) : OnlyTouches S t (t'.connectionMarkUnattachedAp i reason) :=
  ⟨h.1, fun j hj hne => by
    have hji : j ≠ i := by omega
    simp only [connectionMarkUnattachedAp, modify_conn, hji, if_false] at hne ⊢
    exact h.2 j hj hne⟩

theorem flagAll : OnlyTouches S t (t.flagAllConnWaitDesc S) :=
  of_conn (flagAllConnWaitDesc_count _ _).ge fun j _ => by
    rw [flagAllConnWaitDesc_conn]
    split
    · exact flagConnWaitDescIfFor_eq_or S _
    · exact .inl rfl

end OnlyTouches

end ConnTable

namespace ClientCore

open ConnTable

variable {X : Collaborators} {s : ClientCore}

theorem hsClientRefetchHsdesc_onlyTouches (k : Ed25519PublicKey) :
    OnlyTouches k s.conns (s.hsClientRefetchHsdesc X k).1.conns := by
  have hf : OnlyTouches k s.conns (s.fetchV3Desc X k).1.conns := by
    rcases fetchV3Desc_conns X s k with h | h <;> rw [h]
    · exact .refl _
    · exact .add _
  unfold hsClientRefetchHsdesc
  split
  · exact .refl _
  · dsimp only
    split
    · exact hf.trans (.closeAll _)
    · exact hf

theorem refetchAndFlagConnWaitDesc_onlyTouches (k : Ed25519PublicKey) :
    OnlyTouches k s.conns (s.refetchAndFlagConnWaitDesc X k).conns :=
  (hsClientRefetchHsdesc_onlyTouches k).trans .flagAll

theorem hsClientDescHasArrived_onlyTouches {k : Ed25519PublicKey} {desc : Descriptor}
    (hd : s.descCache k = some desc) : OnlyTouches k s.conns (s.hsClientDescHasArrived X k).conns := by
  obtain ⟨-, hc, hj, -⟩ := hsClientDescHasArrivedLoop_spec X k s.now desc
    (s.conns.connectionListByTypeState .ap apConnStateRenddescWait) s
    (connectionListByTypeState_nodup _ _ _) hd
  refine .of_conn hc.ge fun j _ => ?_
  rw [hsClientDescHasArrived, hj]
  split
  · rename_i hm
    refine .inr ⟨hm.2, ?_⟩
    unfold descArrivedStream
    split <;> exact hm.2
  · exact .inl rfl

theorem newStream_onlyTouches (k : Ed25519PublicKey) :
    OnlyTouches k s.conns (s.newStream X k).conns := by
  unfold newStream
  split
  · exact .add _
  · have h := (OnlyTouches.add (S := k) (t := s.conns)
      (apStream k apConnStateRenddescWait false s.now)).trans (hsClientRefetchHsdesc_onlyTouches
        (X := X) (s := { s with conns := s.conns.add (apStream k apConnStateRenddescWait false s.now) })
        k)
    dsimp only
    split
    · exact h.markUnattachedAp_of_le le_rfl _
    · exact h

end ClientCore

open ClientCore ConnTable in
/-- Every step leaves a connection alone unless it is the retry loop of
`hs_client_dir_info_changed`, `hs_client_purge_state`, an event on that very
connection, or an event for the connection's own service: a new stream, a
fetched descriptor, or `send_introduce1` on one of its intro circuits. No
refetch, descriptor arrival or introduction failure of one service touches the
streams of another. -/
theorem streams_isolated_by_service (X : Collaborators) (s : ClientCore) (e : Event) :
    ∀ j < s.conns.count, (s.step X e).1.conns.conn j ≠ s.conns.conn j →
    e = .dirInfoChanged ∨ e = .purgeState ∨
    (e = .connClosed j ∨ e = .streamAttached j ∨ (∃ state, e = .dirConnStateChanged j state) ∨
      ∃ desc, e = .dirFetchDone j desc) ∨
    ∃ S, (s.conns.conn j).hsIdent = some S ∧
      (e = .newStream S ∨ (∃ i desc, e = .dirFetchDone i (some desc) ∧
          (s.conns.conn i).hsIdent = some S) ∨
        ∃ intro rend sent, e = .sendIntroduce1 intro rend sent ∧
          (s.circuits.circ intro).hsIdent.identityPk = S) := by
  intro j hj hne
  have other : ∀ {i : Nat} {f : Connection → Connection}, i ≠ j →
      (s.conns.modify i f).conn j = s.conns.conn j := fun hij => modify_conn_of_ne _ _ (Ne.symm hij)
  cases e
  case sendIntroduce1 intro rend sent =>
    rcases sendIntroduce1_conns (X := X) (s := s) intro rend sent with heq | heq
    · exact absurd (by show (s.sendIntroduce1 X intro rend sent).1.conns.conn j = _; rw [heq]) hne
    · have h := (refetchAndFlagConnWaitDesc_onlyTouches (X := X) (s := s) _).2 j hj
        (by rw [← heq]; exact hne)
      exact .inr (.inr (.inr ⟨_, h.1, .inr (.inr ⟨intro, rend, sent, rfl, rfl⟩)⟩))
  case dirFetchDone i desc =>
    by_cases hij : i = j
    · exact .inr (.inr (.inl (.inr (.inr (.inr ⟨desc, hij ▸ rfl⟩)))))
    rcases hk : (s.conns.conn i).hsIdent with _ | k
    · -- no service: only the connection itself closes
      simp only [step, dirFetchDone, hk, connectionMarkForClose, other hij] at hne
      exact absurd rfl hne
    cases desc with
    | none =>
      simp only [step, dirFetchDone, hk, connectionMarkForClose, other hij] at hne
      exact absurd rfl hne
    | some d =>
      -- the descriptor arrived for service `k`
      obtain ⟨hS, -⟩ := (hsClientDescHasArrived_onlyTouches (X := X)
        (s := { s with descCache := Function.update s.descCache k (some d) })
        (show Function.update s.descCache k (some d) k = some d by simp)).2 j hj (by
          rw [show (s.step X (.dirFetchDone i (some d))).1 = _ from dirFetchDone_of_hsIdent hk] at hne
          simpa only [connectionMarkForClose, modify_conn_of_ne _ _ (Ne.symm hij)] using hne)
      exact .inr (.inr (.inr ⟨k, hS, .inr (.inl ⟨i, d, rfl, hk⟩)⟩))
  case dirInfoChanged => exact .inl rfl
  case purgeState => exact .inr (.inl rfl)
  case newStream k =>
    exact .inr (.inr (.inr ⟨k, ((newStream_onlyTouches k).2 j hj hne).1, .inl rfl⟩))
  case connClosed i | streamAttached i | dirConnStateChanged i _ =>
    by_cases hij : i = j
    · subst hij; simp
    · simp only [step, connectionMarkForClose, other hij] at hne
      exact absurd rfl hne
  all_goals exact absurd (by rw [step_conns_of_quiet X s (by rfl)]) hne

theorem streams_isolated_by_service_fetched :
    0 < sampleFetching.conns.count ∧
    (sampleFetching.step sampleCollaborators (.dirFetchDone 1 (some sampleDescriptor))).1.conns.conn
      0 ≠ sampleFetching.conns.conn 0 ∧
    (Event.dirFetchDone 1 (some sampleDescriptor) = .dirInfoChanged ∨
      Event.dirFetchDone 1 (some sampleDescriptor) = .purgeState ∨
      (Event.dirFetchDone 1 (some sampleDescriptor) = .connClosed 0 ∨
        Event.dirFetchDone 1 (some sampleDescriptor) = .streamAttached 0 ∨
        (∃ state, Event.dirFetchDone 1 (some sampleDescriptor) = .dirConnStateChanged 0 state) ∨
        ∃ desc, Event.dirFetchDone 1 (some sampleDescriptor) = .dirFetchDone 0 desc) ∨
      ∃ S, (sampleFetching.conns.conn 0).hsIdent = some S ∧
        (Event.dirFetchDone 1 (some sampleDescriptor) = .newStream S ∨
          (∃ i desc, Event.dirFetchDone 1 (some sampleDescriptor) = .dirFetchDone i (some desc) ∧
            (sampleFetching.conns.conn i).hsIdent = some S) ∨
          ∃ intro rend sent, Event.dirFetchDone 1 (some sampleDescriptor) =
              .sendIntroduce1 intro rend sent ∧
            (sampleFetching.circuits.circ intro).hsIdent.identityPk = S)) :=
  ⟨by decide, by decide,
    streams_isolated_by_service sampleCollaborators _ _ 0 (by decide) (by decide)⟩

end HsClient
