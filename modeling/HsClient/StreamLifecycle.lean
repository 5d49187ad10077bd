import HsClient.DescriptorArrival

/-!
# The states of a SOCKS stream

A live v3 stream waits for its descriptor (`RENDDESC_WAIT`, off the pending
list), waits for a circuit (`CIRCUIT_WAIT`, on the pending list), or is
attached (`OPEN`). `flag_all_conn_wait_desc` takes a stream off the pending
list as it moves it back to `RENDDESC_WAIT`, `hs_client_desc_has_arrived`
puts it on the list as it moves it to `CIRCUIT_WAIT`, and every other rewrite
of `hs_client.c` closes a stream or leaves it alone. `Connection.StreamOk`
says this of one connection; each rewrite keeps it, each admissible event
keeps it for the whole table, and so every reachable state has it:
`connection_ap_attach_pending` finds on the pending list exactly the streams
waiting for a circuit.
-/

namespace HsClient

/-- A live stream carries a v3 ident and is on the pending list exactly when
it waits for a circuit. -/
def Connection.StreamOk (c : Connection) : Prop :=
  c.type = .ap → c.markedForClose = false →
    c.hsIdent.isSome ∧
      (c.state = apConnStateRenddescWait ∧ c.pending = false ∨
        c.state = apConnStateCircuitWait ∧ c.pending = true ∨
        c.state = apConnStateOpen ∧ c.pending = false)

namespace Connection

theorem streamOk_of_marked {c : Connection} (h : c.markedForClose = true) : c.StreamOk :=
  fun _ hm => by simp [h] at hm

theorem closeSocksConnIfFor_streamOk (identityPk : Ed25519PublicKey) (reason : StreamEndReason)
    {c : Connection} (hc : c.StreamOk) :
    (ConnTable.closeSocksConnIfFor identityPk reason c).StreamOk := by
  unfold ConnTable.closeSocksConnIfFor
  split
  · exact streamOk_of_marked rfl
  · exact hc

theorem flagConnWaitDescIfFor_streamOk (identityPk : Ed25519PublicKey) {c : Connection}
    (hc : c.StreamOk) : (ConnTable.flagConnWaitDescIfFor identityPk c).StreamOk := by
  unfold ConnTable.flagConnWaitDescIfFor
  split
  · rename_i h
    exact fun _ _ => ⟨by simp_all, .inl ⟨rfl, rfl⟩⟩
  · exact hc

theorem cancelFetchIfIdent_streamOk {c : Connection} (hc : c.StreamOk) :
    (ConnTable.cancelFetchIfIdent c).StreamOk := by
  unfold ConnTable.cancelFetchIfIdent
  split
  · exact streamOk_of_marked rfl
  · exact hc

theorem descArrivedStream_streamOk (usable : Bool) (now : Nat) {c : Connection}
    (hc : c.hsIdent.isSome) : (descArrivedStream usable now c).StreamOk := by
  unfold descArrivedStream
  split
  · exact fun _ _ => ⟨hc, .inr (.inl ⟨rfl, rfl⟩)⟩
  · exact streamOk_of_marked rfl

end Connection

namespace ConnTable

/-- Every connection of the table is `StreamOk`. -/
def StreamsOk (t : ConnTable) : Prop := ∀ i < t.count, (t.conn i).StreamOk

variable {t : ConnTable}

theorem StreamsOk.modify (h : t.StreamsOk) {i : Nat} {f : Connection → Connection}
    (hf : i < t.count → (f (t.conn i)).StreamOk) : (t.modify i f).StreamsOk := fun j hj => by
  rw [modify_conn]
  split
  · subst j; exact hf hj
  · exact h j hj

theorem StreamsOk.add (h : t.StreamsOk) {c : Connection} (hc : c.StreamOk) :
    (t.add c).StreamsOk := fun j hj => by
  rcases Nat.lt_succ_iff_lt_or_eq.mp hj with hj | rfl
  · rw [add_conn_of_lt _ _ hj]; exact h j hj
  · rw [add_conn_count]; exact hc

theorem StreamsOk.foldl_modify {f : Connection → Connection}
    (hf : ∀ c, c.StreamOk → (f c).StreamOk) :
    ∀ (l : List Nat) {t : ConnTable}, t.StreamsOk →
      (l.foldl (fun t i => t.modify i f) t).StreamsOk
  | [], _, h => h
  | i :: l, _, h => StreamsOk.foldl_modify hf l (h.modify fun hi => hf _ (h i hi))

theorem StreamsOk.closeAll (h : t.StreamsOk) (identityPk : Ed25519PublicKey)
    (reason : StreamEndReason) : (t.closeAllSocksConnsWaitingForDesc identityPk reason).StreamsOk :=
  StreamsOk.foldl_modify (fun _ => Connection.closeSocksConnIfFor_streamOk identityPk reason) _ h

theorem StreamsOk.flagAll (h : t.StreamsOk) (identityPk : Ed25519PublicKey) :
    (t.flagAllConnWaitDesc identityPk).StreamsOk :=
  StreamsOk.foldl_modify (fun _ => Connection.flagConnWaitDescIfFor_streamOk identityPk) _ h

theorem StreamsOk.cancel (h : t.StreamsOk) : t.cancelDescriptorFetches.StreamsOk :=
  StreamsOk.foldl_modify (fun _ => Connection.cancelFetchIfIdent_streamOk) _ h

theorem StreamsOk.markForClose (h : t.StreamsOk) (i : Nat) :
    (t.connectionMarkForClose i).StreamsOk :=
  h.modify fun _ => Connection.streamOk_of_marked rfl

theorem StreamsOk.markUnattachedAp (h : t.StreamsOk) (i : Nat) (reason : StreamEndReason) :
    (t.connectionMarkUnattachedAp i reason).StreamsOk :=
  h.modify fun _ => Connection.streamOk_of_marked rfl

end ConnTable

namespace ClientCore

open ConnTable

variable {X : Collaborators} {s : ClientCore}

theorem hsClientRefetchHsdesc_streamsOk (k : Ed25519PublicKey) (h : s.conns.StreamsOk) :
    (s.hsClientRefetchHsdesc X k).1.conns.StreamsOk := by
  have hf : (s.fetchV3Desc X k).1.conns.StreamsOk := by
    rcases fetchV3Desc_conns X s k with hc | hc <;> rw [hc]
    · exact h
    · exact h.add fun ht => by simp [hsDescFetchConnection] at ht
  unfold hsClientRefetchHsdesc
  split
  · exact h
  · dsimp only
    split
    · exact hf.closeAll _ _
    · exact hf

theorem retryAllSocksConnWaitingForDescLoop_streamsOk :
    ∀ (l : List Nat) (s : ClientCore), s.conns.StreamsOk →
      (retryAllSocksConnWaitingForDescLoop X l s).1.conns.StreamsOk
  | [], _, h => h
  | i :: l, s, h => by
    simp only [retryAllSocksConnWaitingForDescLoop]
    split
    · exact retryAllSocksConnWaitingForDescLoop_streamsOk l s h
    · split
      · exact retryAllSocksConnWaitingForDescLoop_streamsOk l s h
      · exact retryAllSocksConnWaitingForDescLoop_streamsOk l _
          (hsClientRefetchHsdesc_streamsOk _ h)

theorem hsClientDescHasArrived_streamsOk {k : Ed25519PublicKey} {desc : Descriptor}
    (hd : s.descCache k = some desc) (h : s.conns.StreamsOk) :
    (s.hsClientDescHasArrived X k).conns.StreamsOk := by
  obtain ⟨-, hc, hj, -⟩ := hsClientDescHasArrivedLoop_spec X k s.now desc
    (s.conns.connectionListByTypeState .ap apConnStateRenddescWait) s
    (connectionListByTypeState_nodup _ _ _) hd
  intro j hjc
  rw [hsClientDescHasArrived, hj]
  split
  · rename_i hm; exact Connection.descArrivedStream_streamOk _ _ (by simp [hm.2])
  · exact h j (hc ▸ hjc)

theorem dirFetchDone_streamsOk (i : Nat) (desc : Option Descriptor) (h : s.conns.StreamsOk) :
    (s.dirFetchDone X i desc).conns.StreamsOk := by
  unfold dirFetchDone
  refine StreamsOk.markForClose ?_ i
  split
  · rename_i k d _
    exact hsClientDescHasArrived_streamsOk
      (show Function.update s.descCache k (some d) k = some d by simp) h
  · exact h

theorem newStream_streamsOk (k : Ed25519PublicKey) (h : s.conns.StreamsOk) :
    (s.newStream X k).conns.StreamsOk := by
  unfold newStream
  split
  · exact h.add fun _ _ => ⟨rfl, .inr (.inl ⟨rfl, rfl⟩)⟩
  · have h' := hsClientRefetchHsdesc_streamsOk (X := X)
      (s := { s with conns := s.conns.add (apStream k apConnStateRenddescWait false s.now) }) k
      (h.add fun _ _ => ⟨rfl, .inl ⟨rfl, rfl⟩⟩)
    dsimp only
    split
    · exact h'.markUnattachedAp _ _
    · exact h'

theorem step_streamsOk {e : Event} (hadm : s.admissible e = true) (h : s.conns.StreamsOk) :
    (s.step X e).1.conns.StreamsOk := by
  cases e with
  | sendIntroduce1 intro rend sent =>
    rcases sendIntroduce1_conns (X := X) (s := s) intro rend sent with heq | heq
    · exact heq ▸ h
    · show (s.sendIntroduce1 X intro rend sent).1.conns.StreamsOk
      rw [heq]; exact (hsClientRefetchHsdesc_streamsOk _ h).flagAll _
  | dirFetchDone i desc => exact dirFetchDone_streamsOk i desc h
  | dirInfoChanged => exact retryAllSocksConnWaitingForDescLoop_streamsOk _ s h
  | purgeState => exact h.cancel
  | newStream k => exact newStream_streamsOk k h
  | connClosed i => exact h.markForClose i
  | streamAttached i =>
    refine h.modify fun hi _ hm => ⟨(h i hi ‹_› hm).1, .inr (.inr ⟨rfl, rfl⟩)⟩
  | dirConnStateChanged i st =>
    simp only [admissible, Bool.and_eq_true, decide_eq_true_eq, beq_iff_eq] at hadm
    exact h.modify fun _ ht => by simp [hadm.2] at ht
  | _ => rw [step_conns_of_quiet X s (by rfl)]; exact h

end ClientCore

/-- Every live v3 stream of a reachable state carries its service key and is
in one of the three states the client uses, on the pending list exactly when
it waits for a circuit. -/
theorem stream_states_consistent {X : Collaborators} {s : ClientCore} (hs : Reachable X s) :
    ∀ i < s.conns.count, (s.conns.conn i).type = .ap →
      (s.conns.conn i).markedForClose = false →
      (s.conns.conn i).hsIdent.isSome ∧
      ((s.conns.conn i).state = apConnStateRenddescWait ∧ (s.conns.conn i).pending = false ∨
        (s.conns.conn i).state = apConnStateCircuitWait ∧ (s.conns.conn i).pending = true ∨
        (s.conns.conn i).state = apConnStateOpen ∧ (s.conns.conn i).pending = false) := by
  induction hs with
  | init => intro i hi; exact absurd hi (Nat.not_lt_zero _)
  | step _ hadm ih => exact ClientCore.step_streamsOk hadm ih

theorem stream_states_consistent_introduction :
    Reachable sampleCollaborators sampleIntroduction ∧
    ∀ i < sampleIntroduction.conns.count, (sampleIntroduction.conns.conn i).type = .ap →
      (sampleIntroduction.conns.conn i).markedForClose = false →
      (sampleIntroduction.conns.conn i).hsIdent.isSome ∧
      ((sampleIntroduction.conns.conn i).state = apConnStateRenddescWait ∧
          (sampleIntroduction.conns.conn i).pending = false ∨
        (sampleIntroduction.conns.conn i).state = apConnStateCircuitWait ∧
          (sampleIntroduction.conns.conn i).pending = true ∨
        (sampleIntroduction.conns.conn i).state = apConnStateOpen ∧
          (sampleIntroduction.conns.conn i).pending = false) :=
  ⟨reachable_sampleIntroduction, stream_states_consistent reachable_sampleIntroduction⟩

/-! ## Transitions

A live stream leaves `RENDDESC_WAIT` for `CIRCUIT_WAIT` only when its
descriptor arrives usable, goes back from `CIRCUIT_WAIT` only on the transient
error of `send_introduce1`, and reaches `OPEN` only from `CIRCUIT_WAIT`, when it
is attached; every other rewrite closes it or leaves its state alone, and no
rewrite reopens a closed connection. -/

/-- The state moves of stream `j`: the event that makes each. -/
inductive StreamMove (X : Collaborators) (s : ClientCore) (j : Nat) :
    Event → Nat → Nat → Prop
  | descArrived {i : Nat} {desc : Descriptor} :
      StreamMove X s j (.dirFetchDone i (some desc)) apConnStateRenddescWait apConnStateCircuitWait
  | flagged {intro rend : Nat} {sent : Bool} : (s.sendIntroduce1 X intro rend sent).2 = -1 →
      StreamMove X s j (.sendIntroduce1 intro rend sent) apConnStateCircuitWait
        apConnStateRenddescWait
  | attached : StreamMove X s j (.streamAttached j) apConnStateCircuitWait apConnStateOpen

namespace Connection

/-- `c'` is `c` after rewrites whose state moves are among `M`: it keeps its
type, a close mark is never lifted, and a live stream is closed, keeps its
state, or moves along `M`. -/
structure MovesAlong (M : Nat → Nat → Prop) (c c' : Connection) : Prop where
  type : c'.type = c.type
  marked : c.markedForClose = true → c'.markedForClose = true
  move : c.type = .ap → c.markedForClose = false →
    c'.markedForClose = true ∨ c'.state = c.state ∨ M c.state c'.state

namespace MovesAlong

variable {M M' : Nat → Nat → Prop} {c c' c'' : Connection}

theorem refl (c : Connection) : MovesAlong M c c := ⟨rfl, id, fun _ _ => .inr (.inl rfl)⟩

theorem mono (h : MovesAlong M c c') (hM : ∀ a b, M a b → M' a b) : MovesAlong M' c c' :=
  ⟨h.type, h.marked, fun ht hm => (h.move ht hm).imp_right (Or.imp_right (hM _ _))⟩

theorem none_trans (h : MovesAlong (fun _ _ => False) c c') (h' : MovesAlong M c' c'') :
    MovesAlong M c c'' where
  type := h'.type.trans h.type
  marked hm := h'.marked (h.marked hm)
  move ht hm := by
    by_cases hm' : c'.markedForClose = true
    · exact .inl (h'.marked hm')
    rcases h.move ht hm with h1 | h1 | h1
    · exact absurd h1 hm'
    · rw [← h1]; exact h'.move (h.type ▸ ht) (by simpa using hm')
    · exact h1.elim

theorem trans_none (h : MovesAlong M c c') (h' : MovesAlong (fun _ _ => False) c' c'') :
    MovesAlong M c c'' where
  type := h'.type.trans h.type
  marked hm := h'.marked (h.marked hm)
  move ht hm := by
    by_cases hm' : c'.markedForClose = true
    · exact .inl (h'.marked hm')
    have hs : c''.markedForClose = true ∨ c''.state = c'.state := by
      rcases h'.move (h.type ▸ ht) (by simpa using hm') with h2 | h2 | h2
      · exact .inl h2
      · exact .inr h2
      · exact h2.elim
    rcases hs with hs | hs
    · exact .inl hs
    rw [hs]
    rcases h.move ht hm with h1 | h1 | h1
    · exact absurd h1 hm'
    · exact .inr (.inl h1)
    · exact .inr (.inr h1)

theorem of_close (ht : c'.type = c.type) (hm : c'.markedForClose = true) : MovesAlong M c c' :=
  ⟨ht, fun _ => hm, fun _ _ => .inl hm⟩

theorem of_state (ht : c'.type = c.type) (hm : c'.markedForClose = c.markedForClose)
    (hs : M c.state c'.state) : MovesAlong M c c' :=
  ⟨ht, fun h => hm ▸ h, fun _ _ => .inr (.inr hs)⟩

end MovesAlong

theorem closeSocksConnIfFor_movesAlong {M : Nat → Nat → Prop} (S : Ed25519PublicKey)
    (reason : StreamEndReason) (c : Connection) :
    c.MovesAlong M (ConnTable.closeSocksConnIfFor S reason c) := by
  unfold ConnTable.closeSocksConnIfFor
  split
  · exact .of_close rfl rfl
  · exact .refl c

theorem cancelFetchIfIdent_movesAlong {M : Nat → Nat → Prop} (c : Connection) :
    c.MovesAlong M (ConnTable.cancelFetchIfIdent c) := by
  unfold ConnTable.cancelFetchIfIdent
  split
  · exact .of_close rfl rfl
  · exact .refl c

end Connection

namespace ConnTable

/-- Every connection of `t` is rewritten in `t'` with its state moves among
`M j`; new connections may follow. -/
def MovesAlong (M : Nat → Nat → Nat → Prop) (t t' : ConnTable) : Prop :=
  t.count ≤ t'.count ∧ ∀ j < t.count, (t.conn j).MovesAlong (M j) (t'.conn j)

namespace MovesAlong

variable {M M' : Nat → Nat → Nat → Prop} {t t' t'' : ConnTable}

theorem refl (t : ConnTable) : MovesAlong M t t := ⟨le_rfl, fun _ _ => .refl _⟩

theorem mono (h : MovesAlong M t t') (hM : ∀ j a b, M j a b → M' j a b) : MovesAlong M' t t' :=
  ⟨h.1, fun j hj => (h.2 j hj).mono (hM j)⟩

theorem none_trans (h : MovesAlong (fun _ _ _ => False) t t') (h' : MovesAlong M t' t'') :
    MovesAlong M t t'' :=
  ⟨h.1.trans h'.1, fun j hj => (h.2 j hj).none_trans (h'.2 j (Nat.lt_of_lt_of_le hj h.1))⟩

theorem trans_none (h : MovesAlong M t t') (h' : MovesAlong (fun _ _ _ => False) t' t'') :
    MovesAlong M t t'' :=
  ⟨h.1.trans h'.1, fun j hj => (h.2 j hj).trans_none (h'.2 j (Nat.lt_of_lt_of_le hj h.1))⟩

theorem modify {i : Nat} {f : Connection → Connection}
    (hf : i < t.count → (t.conn i).MovesAlong (M i) (f (t.conn i))) : MovesAlong M t (t.modify i f) :=
  ⟨le_rfl, fun j hj => by
    rw [modify_conn]
    split
    · subst j; exact hf hj
    · exact .refl _⟩

theorem add (c : Connection) : MovesAlong M t (t.add c) :=
  ⟨Nat.le_succ _, fun j hj => by rw [add_conn_of_lt _ _ hj]; exact .refl _⟩

theorem closeAll (S : Ed25519PublicKey) (reason : StreamEndReason) :
    MovesAlong M t (t.closeAllSocksConnsWaitingForDesc S reason) :=
  ⟨le_of_eq (closeAllSocksConnsWaitingForDesc_count _ _ _).symm, fun j _ => by
    rw [closeAllSocksConnsWaitingForDesc_conn]
    split
    · exact Connection.closeSocksConnIfFor_movesAlong _ _ _
    · exact .refl _⟩

theorem cancel : MovesAlong M t t.cancelDescriptorFetches :=
  ⟨le_of_eq (cancelDescriptorFetches_count _).symm, fun j _ => by
    rw [cancelDescriptorFetches_conn]
    split
    · exact Connection.cancelFetchIfIdent_movesAlong _
    · exact .refl _⟩

theorem markForClose (i : Nat) : MovesAlong M t (t.connectionMarkForClose i) :=
  modify fun _ => .of_close rfl rfl

theorem markUnattachedAp (i : Nat) (reason : StreamEndReason) :
    MovesAlong M t (t.connectionMarkUnattachedAp i reason) :=
  modify fun _ => .of_close rfl rfl

theorem flagAll (S : Ed25519PublicKey)
    (hM : ∀ j, M j apConnStateCircuitWait apConnStateRenddescWait) :
    MovesAlong M t (t.flagAllConnWaitDesc S) :=
  ⟨le_of_eq (flagAllConnWaitDesc_count _ _).symm, fun j _ => by
    rw [flagAllConnWaitDesc_conn]
    split
    · rename_i hj
      have hw := ((mem_connectionListByTypeState _).mp hj).2.2.1
      unfold flagConnWaitDescIfFor
      split
      · exact .of_state rfl rfl (hw ▸ hM j)
      · exact .refl _
    · exact .refl _⟩

end MovesAlong

end ConnTable

namespace ClientCore

open ConnTable

variable {X : Collaborators} {s : ClientCore}

theorem hsClientRefetchHsdesc_movesAlong (k : Ed25519PublicKey) :
    MovesAlong (fun _ _ _ => False) s.conns (s.hsClientRefetchHsdesc X k).1.conns := by
  have hf : MovesAlong (fun _ _ _ => False) s.conns (s.fetchV3Desc X k).1.conns := by
    rcases fetchV3Desc_conns X s k with h | h <;> rw [h]
    · exact .refl _
    · exact .add _
  unfold hsClientRefetchHsdesc
  split
  · exact .refl _
  · dsimp only
    split
    · exact hf.none_trans (.closeAll _ _)
    · exact hf

theorem retryAllSocksConnWaitingForDescLoop_movesAlong :
    ∀ (l : List Nat) (s : ClientCore),
      MovesAlong (fun _ _ _ => False) s.conns (retryAllSocksConnWaitingForDescLoop X l s).1.conns
  | [], _ => .refl _
  | i :: l, s => by
    simp only [retryAllSocksConnWaitingForDescLoop]
    split
    · exact retryAllSocksConnWaitingForDescLoop_movesAlong l s
    · split
      · exact retryAllSocksConnWaitingForDescLoop_movesAlong l s
      · exact (hsClientRefetchHsdesc_movesAlong _).none_trans
          (retryAllSocksConnWaitingForDescLoop_movesAlong l _)

theorem hsClientDescHasArrived_movesAlong {k : Ed25519PublicKey} {desc : Descriptor}
    (hd : s.descCache k = some desc) :
    MovesAlong (fun _ a b => a = apConnStateRenddescWait ∧ b = apConnStateCircuitWait) s.conns
      (s.hsClientDescHasArrived X k).conns := by
  obtain ⟨-, hc, hj, -⟩ := hsClientDescHasArrivedLoop_spec X k s.now desc
    (s.conns.connectionListByTypeState .ap apConnStateRenddescWait) s
    (connectionListByTypeState_nodup _ _ _) hd
  refine ⟨hc.ge, fun j _ => ?_⟩
  rw [hsClientDescHasArrived, hj]
  split
  · rename_i hm
    have hw := ((mem_connectionListByTypeState _).mp hm.1).2.2.1
    unfold descArrivedStream
    split
    · exact .of_state rfl rfl ⟨hw, rfl⟩
    · exact .of_close rfl rfl
  · exact .refl _

theorem step_movesAlong {e : Event} (hadm : s.admissible e = true) :
    MovesAlong (fun j => StreamMove X s j e) s.conns (s.step X e).1.conns := by
  cases e with
  | sendIntroduce1 intro rend sent =>
    show MovesAlong _ s.conns (s.sendIntroduce1 X intro rend sent).1.conns
    rcases sendIntroduce1_cases (X := X) (s := s) intro rend sent with
      ⟨_, h⟩ | ⟨_, _, h⟩ | ⟨_, _, _, _, ⟨_, h⟩ | ⟨_, _, ⟨_, h⟩ | ⟨_, h⟩⟩⟩
    all_goals rw [h]
    · exact .refl _
    · exact (hsClientRefetchHsdesc_movesAlong _).none_trans
        (.flagAll _ fun _ => .flagged (by rw [h]))
    all_goals exact .refl _
  | dirFetchDone i desc =>
    show MovesAlong _ s.conns (s.dirFetchDone X i desc).conns
    unfold dirFetchDone
    split
    · rename_i k d _
      let s₀ : ClientCore := { s with descCache := Function.update s.descCache k (some d) }
      refine ((hsClientDescHasArrived_movesAlong (s := s₀)
        (show s₀.descCache k = some d by simp [s₀])).mono ?_).trans_none (.markForClose i)
      rintro _ _ _ ⟨rfl, rfl⟩
      exact .descArrived
    · exact .markForClose i
  | dirInfoChanged => exact (retryAllSocksConnWaitingForDescLoop_movesAlong _ s).mono nofun
  | purgeState => exact .cancel
  | newStream k =>
    show MovesAlong _ s.conns (s.newStream X k).conns
    unfold newStream
    split
    · exact .add _
    · have h' := (MovesAlong.add (apStream k apConnStateRenddescWait false s.now)).none_trans
        (hsClientRefetchHsdesc_movesAlong (X := X)
          (s := { s with conns := s.conns.add (apStream k apConnStateRenddescWait false s.now) }) k)
      dsimp only
      split
      · exact (h'.trans_none (.markUnattachedAp _ _)).mono nofun
      · exact h'.mono nofun
  | connClosed i => exact .markForClose i
  | streamAttached i =>
    simp only [admissible, Bool.and_eq_true, decide_eq_true_eq, beq_iff_eq] at hadm
    exact .modify fun _ => .of_state rfl rfl (hadm.1.2 ▸ .attached)
  | dirConnStateChanged i st =>
    simp only [admissible, Bool.and_eq_true, decide_eq_true_eq, beq_iff_eq] at hadm
    exact .modify fun _ => ⟨rfl, id, fun ht => absurd (hadm.2.symm.trans ht) (by decide)⟩
  | _ => rw [step_conns_of_quiet X s (by rfl)]; exact .refl _

end ClientCore

/-- Every admissible event leaves closed connections closed, and closes each
live stream, leaves its state alone, or moves it along one edge: from
`RENDDESC_WAIT` to `CIRCUIT_WAIT` when a fetched descriptor is handed in, from
`CIRCUIT_WAIT` back to `RENDDESC_WAIT` when `send_introduce1` takes its
transient error, and from `CIRCUIT_WAIT` to `OPEN` when the stream itself is
attached. -/
theorem stream_transitions (X : Collaborators) (s : ClientCore) (e : Event)
    (hadm : s.admissible e = true) :
    ∀ j < s.conns.count,
      ((s.conns.conn j).markedForClose = true →
        ((s.step X e).1.conns.conn j).markedForClose = true) ∧
      ((s.conns.conn j).type = .ap → (s.conns.conn j).markedForClose = false →
        ((s.step X e).1.conns.conn j).markedForClose = true ∨
        ((s.step X e).1.conns.conn j).state = (s.conns.conn j).state ∨
        StreamMove X s j e (s.conns.conn j).state ((s.step X e).1.conns.conn j).state) :=
  fun j hj => ⟨((ClientCore.step_movesAlong hadm).2 j hj).marked,
    ((ClientCore.step_movesAlong hadm).2 j hj).move⟩

theorem stream_transitions_fetched :
    sampleFetching.admissible (.dirFetchDone 1 (some sampleDescriptor)) = true ∧
    ∀ j < sampleFetching.conns.count,
      ((sampleFetching.conns.conn j).markedForClose = true →
        ((sampleFetching.step sampleCollaborators
          (.dirFetchDone 1 (some sampleDescriptor))).1.conns.conn j).markedForClose = true) ∧
      ((sampleFetching.conns.conn j).type = .ap →
        (sampleFetching.conns.conn j).markedForClose = false →
        ((sampleFetching.step sampleCollaborators
          (.dirFetchDone 1 (some sampleDescriptor))).1.conns.conn j).markedForClose = true ∨
        ((sampleFetching.step sampleCollaborators
          (.dirFetchDone 1 (some sampleDescriptor))).1.conns.conn j).state =
          (sampleFetching.conns.conn j).state ∨
        StreamMove sampleCollaborators sampleFetching j (.dirFetchDone 1 (some sampleDescriptor))
          (sampleFetching.conns.conn j).state
          ((sampleFetching.step sampleCollaborators
            (.dirFetchDone 1 (some sampleDescriptor))).1.conns.conn j).state) :=
  ⟨by decide, stream_transitions _ _ _ (by decide)⟩

end HsClient
