import HsClient.Caches

/-!
# Random intro-point selection

`client_get_random_intro` samples the descriptor's intro points without
replacement. The values `crypto_rand_int` returns are an input (`picks`, each
taken modulo the length of what is left), so every order of sampling is one
input. `smartlist_del` fills the hole with the last element. The loop runs on
fuel equal to the list length, one element removed per round.

The loop is the selection of the spec (§4.4.2) run along the order in which
the draws take the intro points out; that order is a permutation of the list,
so every intro point is examined at most once and, when no pick ends the
loop, all of them are.
-/

namespace HsClient

/-- `smartlist_del`: the last element takes the place of the removed one. -/
def smartlistDel {α : Type} (l : List α) (idx : Nat) : List α :=
  match l.getLast? with
  | none => l
  | some last => (l.set idx last).dropLast

/-- The sampling loop of `client_get_random_intro`; `eiExcluded` is the last
usable, translatable pick found in `ExcludeNodes`. -/
def clientGetRandomIntroLoop (cache : IntroStateCache) (options : Options)
    (servicePk : Ed25519PublicKey) :
    Nat → List IntroPoint → List Nat → Option ExtendInfo → Option ExtendInfo
  | fuel + 1, ip0 :: ips, picks, eiExcluded =>
    let idx := picks.headD 0 % (ip0 :: ips).length
    let ip := (ip0 :: ips).getD idx ip0
    let rest := smartlistDel (ip0 :: ips) idx
    if !introPointIsUsable cache servicePk ip then
      clientGetRandomIntroLoop cache options servicePk fuel rest picks.tail eiExcluded
    else
      match descIntroPointToExtendInfo options ip with
      | none => clientGetRandomIntroLoop cache options servicePk fuel rest picks.tail eiExcluded
      | some ei =>
        if options.excludeNodes ei then
          clientGetRandomIntroLoop cache options servicePk fuel rest picks.tail (some ei)
        else some ei
  | _, _, _, eiExcluded => if options.strictNodes then none else eiExcluded

/-- `client_get_random_intro` over the cached descriptor of the service. -/
def clientGetRandomIntro (descCache : Ed25519PublicKey → Option Descriptor)
    (cache : IntroStateCache) (options : Options) (servicePk : Ed25519PublicKey)
    (picks : List Nat) : Option ExtendInfo :=
  match descCache servicePk with
  | none => none
  | some desc =>
    if !hsClientAnyIntroPointsUsable cache servicePk desc then none
    else clientGetRandomIntroLoop cache options servicePk desc.introPoints.length desc.introPoints
      picks none

theorem mem_of_mem_smartlistDel {α : Type} {l : List α} {idx : Nat} {x : α}
    (h : x ∈ smartlistDel l idx) : x ∈ l := by
  unfold smartlistDel at h
  cases hl : l.getLast? with
  | none => simpa [hl] using h
  | some last =>
    rw [hl] at h
    rcases List.mem_or_eq_of_mem_set (List.dropLast_subset _ h) with hx | rfl
    · exact hx
    · exact List.mem_of_getLast?_eq_some hl

theorem smartlistDel_perm {α : Type} (l : List α) {idx : Nat} (d : α) (h : idx < l.length) :
    (l.getD idx d :: smartlistDel l idx).Perm l := by
  obtain ⟨A, x, B, rfl, rfl⟩ : ∃ A x B, l = A ++ x :: B ∧ A.length = idx :=
    ⟨l.take idx, l[idx], l.drop (idx + 1),
      by rw [← List.drop_eq_getElem_cons h, List.take_append_drop], by simp [Nat.le_of_lt h]⟩
  have hx : (A ++ x :: B).getD A.length d = x := by simp [List.getElem_append]
  rw [hx]
  rcases List.eq_nil_or_concat B with rfl | ⟨B', b, rfl⟩
  · -- the last element is removed
    simpa [smartlistDel, List.set_append_right] using (List.perm_append_singleton x A).symm
  · -- the last element fills the hole
    have hdel : smartlistDel (A ++ x :: B'.concat b) A.length = A ++ b :: B' := by
      simp [smartlistDel, List.getLast?_cons, List.set_append_right, List.dropLast_cons_of_ne_nil]
    rw [hdel, List.concat_eq_append]
    exact (List.perm_middle.cons x).trans (((List.perm_append_singleton b _).symm.cons x).trans
      (by rw [List.append_assoc]; exact List.perm_middle.symm))

theorem clientGetRandomIntroLoop_sound {cache : IntroStateCache} {options : Options}
    {servicePk : Ed25519PublicKey} {ei : ExtendInfo} :
    ∀ (fuel : Nat) (l : List IntroPoint) (picks : List Nat) (eiExcluded : Option ExtendInfo),
      clientGetRandomIntroLoop cache options servicePk fuel l picks eiExcluded = some ei →
      (∃ ip ∈ l, introPointIsUsable cache servicePk ip = true ∧
        descIntroPointToExtendInfo options ip = some ei) ∨ eiExcluded = some ei
  | 0, l, picks, eiExcluded, h => by
    right; simp only [clientGetRandomIntroLoop] at h; split at h <;> simp_all
  | fuel + 1, [], picks, eiExcluded, h => by
    right; simp only [clientGetRandomIntroLoop] at h; split at h <;> simp_all
  | fuel + 1, ip0 :: ips, picks, eiExcluded, h => by
    simp only [clientGetRandomIntroLoop] at h
    have hmem : (ip0 :: ips).getD (picks.headD 0 % (ip0 :: ips).length) ip0 ∈ ip0 :: ips := by
      rw [List.getD_eq_getElem?_getD, List.getElem?_eq_getElem (Nat.mod_lt _ (by simp))]
      exact List.getElem_mem _
    have lift : ∀ e, (∃ ip ∈ smartlistDel (ip0 :: ips) (picks.headD 0 % (ip0 :: ips).length),
        introPointIsUsable cache servicePk ip = true ∧
          descIntroPointToExtendInfo options ip = some ei) ∨ e = some ei →
        (∃ ip ∈ ip0 :: ips, introPointIsUsable cache servicePk ip = true ∧
          descIntroPointToExtendInfo options ip = some ei) ∨ e = some ei := by
      rintro e (⟨ip, hip, hu⟩ | he)
      · exact .inl ⟨ip, mem_of_mem_smartlistDel hip, hu⟩
      · exact .inr he
    split at h
    · exact lift _ (clientGetRandomIntroLoop_sound fuel _ _ _ h)
    · rename_i hu
      split at h
      · exact lift _ (clientGetRandomIntroLoop_sound fuel _ _ _ h)
      · rename_i ei' hei
        split at h
        · rcases clientGetRandomIntroLoop_sound fuel _ _ _ h with hr | hr
          · exact lift _ (.inl hr)
          · cases hr
            exact .inl ⟨_, hmem, by simpa using hu, hei⟩
        · cases h
          exact .inl ⟨_, hmem, by simpa using hu, hei⟩

theorem clientGetRandomIntro_sound {descCache : Ed25519PublicKey → Option Descriptor}
    {cache : IntroStateCache} {options : Options} {servicePk : Ed25519PublicKey}
    {picks : List Nat} {ei : ExtendInfo}
    (h : clientGetRandomIntro descCache cache options servicePk picks = some ei) :
    ∃ desc, descCache servicePk = some desc ∧ ∃ ip ∈ desc.introPoints,
      introPointIsUsable cache servicePk ip = true ∧
        descIntroPointToExtendInfo options ip = some ei := by
  unfold clientGetRandomIntro at h
  split at h
  · cases h
  · rename_i desc hd
    split at h
    · cases h
    · rcases clientGetRandomIntroLoop_sound _ _ _ _ h with hr | hr
      · exact ⟨desc, hd, hr⟩
      · cases hr

/-! ## The law of the selection -/

/-- The intro points the sampling loop of `client_get_random_intro` examines, in
order, when no pick ends it early: the pick of each round while there is fuel
and a list. -/
def samplingOrder {α : Type} : Nat → List α → List Nat → List α
  | fuel + 1, ip0 :: ips, picks =>
    let idx := picks.headD 0 % (ip0 :: ips).length
    (ip0 :: ips).getD idx ip0 :: samplingOrder fuel (smartlistDel (ip0 :: ips) idx) picks.tail
  | _, _, _ => []

section
variable (cache : IntroStateCache) (options : Options) (servicePk : Ed25519PublicKey)

/-- The selection of the spec (§4.4.2) along a given order of examination: skip
an unusable or untranslatable candidate, hold an excluded one aside, return the
first other one; after the list, nothing under `StrictNodes`, else the last
candidate held aside. -/
def pickAlongOrder : List IntroPoint → Option ExtendInfo → Option ExtendInfo
  | [], eiExcluded => if options.strictNodes then none else eiExcluded
  | ip :: rest, eiExcluded =>
    if !introPointIsUsable cache servicePk ip then pickAlongOrder rest eiExcluded
    else
      match descIntroPointToExtendInfo options ip with
      | none => pickAlongOrder rest eiExcluded
      | some ei => if options.excludeNodes ei then pickAlongOrder rest (some ei) else some ei

/-- The extend info of a usable, translatable intro point outside `ExcludeNodes`. -/
def goodIntroPick (ip : IntroPoint) : Option ExtendInfo :=
  if introPointIsUsable cache servicePk ip then
    (descIntroPointToExtendInfo options ip).filter fun ei => !options.excludeNodes ei
  else none

/-- The extend info of a usable, translatable intro point inside `ExcludeNodes`. -/
def excludedIntroPick (ip : IntroPoint) : Option ExtendInfo :=
  if introPointIsUsable cache servicePk ip then
    (descIntroPointToExtendInfo options ip).filter options.excludeNodes
  else none

theorem clientGetRandomIntroLoop_eq : ∀ (fuel : Nat) (l : List IntroPoint) (picks : List Nat)
    (eiExcluded : Option ExtendInfo),
    clientGetRandomIntroLoop cache options servicePk fuel l picks eiExcluded =
      pickAlongOrder cache options servicePk (samplingOrder fuel l picks) eiExcluded
  | 0, _, _, _ => rfl
  | _ + 1, [], _, _ => rfl
  | fuel + 1, ip0 :: ips, picks, eiExcluded => by
    simp only [clientGetRandomIntroLoop, samplingOrder, pickAlongOrder,
      clientGetRandomIntroLoop_eq fuel]

theorem pickAlongOrder_eq (o : List IntroPoint) (eiExcluded : Option ExtendInfo) :
    pickAlongOrder cache options servicePk o eiExcluded =
      (o.findSome? (goodIntroPick cache options servicePk)).or
        (if options.strictNodes then none
         else (o.filterMap (excludedIntroPick cache options servicePk)).getLast?.or
           eiExcluded) := by
  induction o generalizing eiExcluded with
  | nil => simp [pickAlongOrder]
  | cons ip rest ih =>
    simp only [pickAlongOrder, List.findSome?_cons, List.filterMap_cons, goodIntroPick,
      excludedIntroPick]
    cases hu : introPointIsUsable cache servicePk ip
    · simpa using ih eiExcluded
    cases ht : descIntroPointToExtendInfo options ip with
    | none => simpa using ih eiExcluded
    | some ei =>
      cases hx : options.excludeNodes ei
      · simp [Option.filter, hx]
      · simp only [Option.filter, hx, ih]
        cases hl : (rest.filterMap (excludedIntroPick cache options servicePk)).getLast? <;>
          simp [List.getLast?_cons, hl]

theorem samplingOrder_perm {α : Type} : ∀ (fuel : Nat) (l : List α) (picks : List Nat),
    l.length ≤ fuel → (samplingOrder fuel l picks).Perm l
  | _, [], _, _ => by cases ‹Nat› <;> exact .nil
  | 0, _ :: _, _, h => absurd h (by simp)
  | fuel + 1, ip0 :: ips, picks, h => by
    simp only [samplingOrder]
    generalize hidx : picks.headD 0 % (ip0 :: ips).length = idx
    have hdel := smartlistDel_perm (ip0 :: ips) ip0 (hidx ▸ Nat.mod_lt _ (by simp))
    have hlen : (smartlistDel (ip0 :: ips) idx).length ≤ fuel := by
      have := hdel.length_eq; simp only [List.length_cons] at this h; omega
    exact ((samplingOrder_perm fuel _ _ hlen).cons _).trans hdel

theorem goodIntroPick_eq_some {ip : IntroPoint} {ei : ExtendInfo} :
    goodIntroPick cache options servicePk ip = some ei ↔
      introPointIsUsable cache servicePk ip = true ∧
        descIntroPointToExtendInfo options ip = some ei ∧ options.excludeNodes ei = false := by
  unfold goodIntroPick
  cases introPointIsUsable cache servicePk ip
  · simp
  cases descIntroPointToExtendInfo options ip with
  | none => simp
  | some e =>
    by_cases hx : options.excludeNodes e <;> simp [Option.filter, hx] <;> rintro rfl <;>
      simpa using hx

theorem clientGetRandomIntro_eq {descCache : Ed25519PublicKey → Option Descriptor}
    {desc : Descriptor} (hdesc : descCache servicePk = some desc) (picks : List Nat) :
    clientGetRandomIntro descCache cache options servicePk picks =
      ((samplingOrder desc.introPoints.length desc.introPoints picks).findSome?
          (goodIntroPick cache options servicePk)).or
        (if options.strictNodes then none
         else ((samplingOrder desc.introPoints.length desc.introPoints picks).filterMap
          (excludedIntroPick cache options servicePk)).getLast?) := by
  have hsub := (samplingOrder_perm desc.introPoints.length desc.introPoints picks le_rfl).subset
  unfold clientGetRandomIntro
  rw [hdesc]
  dsimp only
  split
  · -- no usable intro point: nothing is picked along the order
    rename_i hany
    simp only [hsClientAnyIntroPointsUsable, Bool.not_eq_true', List.any_eq_false,
      Bool.not_eq_true] at hany
    generalize samplingOrder desc.introPoints.length desc.introPoints picks = o at hsub ⊢
    have hg : o.findSome? (goodIntroPick cache options servicePk) = none :=
      List.findSome?_eq_none_iff.mpr fun ip hip => by simp [goodIntroPick, hany ip (hsub hip)]
    have he : o.filterMap (excludedIntroPick cache options servicePk) = [] :=
      List.filterMap_eq_nil_iff.mpr fun ip hip => by simp [excludedIntroPick, hany ip (hsub hip)]
    simp [hg, he]
  · rw [clientGetRandomIntroLoop_eq, pickAlongOrder_eq, Option.or_none]

end

/-- `client_get_random_intro` examines the intro points of the cached descriptor
in an order that holds each of them once, and returns the first usable,
translatable intro point outside `ExcludeNodes` in that order. Failing one it
returns nothing under `StrictNodes`, else the last usable, translatable intro
point it examined inside `ExcludeNodes`, if any. So it never returns an unusable
intro point, and nothing when `hs_client_any_intro_points_usable` is false. -/
theorem client_get_random_intro_law (descCache : Ed25519PublicKey → Option Descriptor)
    (cache : IntroStateCache) (options : Options) (S : Ed25519PublicKey) (picks : List Nat)
    (desc : Descriptor) (hdesc : descCache S = some desc) :
    let order := samplingOrder desc.introPoints.length desc.introPoints picks
    let r := clientGetRandomIntro descCache cache options S picks
    order.Perm desc.introPoints ∧
    r = (order.findSome? (goodIntroPick cache options S)).or
      (if options.strictNodes then none
       else (order.filterMap (excludedIntroPick cache options S)).getLast?) ∧
    ((∃ ip ∈ desc.introPoints, ∃ ei, introPointIsUsable cache S ip = true ∧
        descIntroPointToExtendInfo options ip = some ei ∧ options.excludeNodes ei = false) →
      ∃ ip ∈ desc.introPoints, ∃ ei, introPointIsUsable cache S ip = true ∧
        descIntroPointToExtendInfo options ip = some ei ∧ options.excludeNodes ei = false ∧
        r = some ei) ∧
    ((¬ ∃ ip ∈ desc.introPoints, ∃ ei, introPointIsUsable cache S ip = true ∧
        descIntroPointToExtendInfo options ip = some ei ∧ options.excludeNodes ei = false) →
      r = if options.strictNodes then none
        else (order.filterMap (excludedIntroPick cache options S)).getLast?) ∧
    (∀ ei, r = some ei → ∃ ip ∈ desc.introPoints, introPointIsUsable cache S ip = true ∧
      descIntroPointToExtendInfo options ip = some ei) ∧
    (hsClientAnyIntroPointsUsable cache S desc = false → r = none) := by
  dsimp only
  have hperm := samplingOrder_perm desc.introPoints.length desc.introPoints picks le_rfl
  have hr := clientGetRandomIntro_eq cache options S hdesc picks
  generalize samplingOrder desc.introPoints.length desc.introPoints picks = order at hperm hr ⊢
  refine ⟨hperm, hr, fun ⟨ip, hip, ei, hgood⟩ => ?_, fun hno => ?_, fun ei h => ?_,
    fun hany => ?_⟩
  · -- a good intro point lies on the order, so the first good one is returned
    obtain ⟨ei', hfind⟩ : ∃ ei', order.findSome? (goodIntroPick cache options S) = some ei' :=
      Option.ne_none_iff_exists'.mp fun hn => by
        have := List.findSome?_eq_none_iff.mp hn ip (hperm.mem_iff.mpr hip)
        rw [(goodIntroPick_eq_some cache options S).mpr hgood] at this
        cases this
    obtain ⟨ip', hip', hg⟩ := List.exists_of_findSome?_eq_some hfind
    obtain ⟨h1, h2, h3⟩ := (goodIntroPick_eq_some cache options S).mp hg
    exact ⟨ip', hperm.subset hip', ei', h1, h2, h3, by rw [hr, hfind]; rfl⟩
  · -- no good intro point: the last excluded one, unless `StrictNodes`
    have hnone : order.findSome? (goodIntroPick cache options S) = none :=
      List.findSome?_eq_none_iff.mpr fun ip hip => Option.eq_none_iff_forall_not_mem.mpr
        fun ei hei =>
          hno ⟨ip, hperm.subset hip, ei, (goodIntroPick_eq_some cache options S).mp hei⟩
    rw [hr, hnone, Option.none_or]
  · obtain ⟨desc', hd', hsound⟩ := clientGetRandomIntro_sound h
    rw [hdesc] at hd'
    cases hd'
    exact hsound
  · simp [clientGetRandomIntro, hdesc, hany]

/-- Two intro points of service `1`; the relay of the second is in `ExcludeNodes`
under `excludeSecondOptions`. -/
def excludedPairDescriptor : Descriptor :=
  ⟨⟨0, 0, 0⟩,
    [⟨[.legacyId 5, .ipv4 1 80], 7, 3, 4⟩, ⟨[.legacyId 6, .ipv4 2 80], 8, 4, 5⟩]⟩

/-- Fetches allowed, `StrictNodes` unset, the relay at address `2` excluded. -/
def excludeSecondOptions : Options := ⟨true, false, fun ei => ei.addr == 2, fun _ => true⟩

theorem client_get_random_intro_law_excludedPair :
    (fun _ => some excludedPairDescriptor : Ed25519PublicKey → Option Descriptor) 1 =
      some excludedPairDescriptor ∧
    let order := samplingOrder excludedPairDescriptor.introPoints.length
      excludedPairDescriptor.introPoints [1]
    let r := clientGetRandomIntro (fun _ => some excludedPairDescriptor) (fun _ => none)
      excludeSecondOptions 1 [1]
    order.Perm excludedPairDescriptor.introPoints ∧
    r = (order.findSome? (goodIntroPick (fun _ => none) excludeSecondOptions 1)).or
      (if excludeSecondOptions.strictNodes then none
       else (order.filterMap
         (excludedIntroPick (fun _ => none) excludeSecondOptions 1)).getLast?) ∧
    ((∃ ip ∈ excludedPairDescriptor.introPoints, ∃ ei,
        introPointIsUsable (fun _ => none) 1 ip = true ∧
        descIntroPointToExtendInfo excludeSecondOptions ip = some ei ∧
        excludeSecondOptions.excludeNodes ei = false) →
      ∃ ip ∈ excludedPairDescriptor.introPoints, ∃ ei,
        introPointIsUsable (fun _ => none) 1 ip = true ∧
        descIntroPointToExtendInfo excludeSecondOptions ip = some ei ∧
        excludeSecondOptions.excludeNodes ei = false ∧ r = some ei) ∧
    ((¬ ∃ ip ∈ excludedPairDescriptor.introPoints, ∃ ei,
        introPointIsUsable (fun _ => none) 1 ip = true ∧
        descIntroPointToExtendInfo excludeSecondOptions ip = some ei ∧
        excludeSecondOptions.excludeNodes ei = false) →
      r = if excludeSecondOptions.strictNodes then none
        else (order.filterMap
         (excludedIntroPick (fun _ => none) excludeSecondOptions 1)).getLast?) ∧
    (∀ ei, r = some ei → ∃ ip ∈ excludedPairDescriptor.introPoints,
      introPointIsUsable (fun _ => none) 1 ip = true ∧
      descIntroPointToExtendInfo excludeSecondOptions ip = some ei) ∧
    (hsClientAnyIntroPointsUsable (fun _ => none) 1 excludedPairDescriptor = false → r = none) :=
  ⟨rfl, client_get_random_intro_law _ _ _ _ _ _ rfl⟩

/-! ## The exits the selection hands out -/

/-- The exits `client_get_random_intro` may hand out for service `S`: the
extend info of a usable intro point of the cached descriptor, and under
`StrictNodes` only one outside `ExcludeNodes`. -/
def introExitFor (descCache : Ed25519PublicKey → Option Descriptor) (cache : IntroStateCache)
    (options : Options) (S : Ed25519PublicKey) (ei : ExtendInfo) : Bool :=
  match descCache S with
  | none => false
  | some desc => desc.introPoints.any fun ip =>
      introPointIsUsable cache S ip && descIntroPointToExtendInfo options ip == some ei &&
        !(options.strictNodes && options.excludeNodes ei)

theorem introExitFor_eq_true {descCache : Ed25519PublicKey → Option Descriptor}
    {cache : IntroStateCache} {options : Options} {S : Ed25519PublicKey} {ei : ExtendInfo} :
    introExitFor descCache cache options S ei = true ↔ ∃ desc, descCache S = some desc ∧
      ∃ ip ∈ desc.introPoints, introPointIsUsable cache S ip = true ∧
        descIntroPointToExtendInfo options ip = some ei ∧
        (options.strictNodes = true → options.excludeNodes ei = false) := by
  unfold introExitFor
  cases descCache S with
  | none => simp
  | some desc =>
    simp only [List.any_eq_true, Bool.and_eq_true, beq_iff_eq, Bool.not_eq_true',
      Bool.and_eq_false_imp, Option.some.injEq, exists_eq_left', and_assoc]

theorem clientGetRandomIntro_introExitFor {descCache : Ed25519PublicKey → Option Descriptor}
    {cache : IntroStateCache} {options : Options} {S : Ed25519PublicKey} {picks : List Nat}
    {ei : ExtendInfo} (h : clientGetRandomIntro descCache cache options S picks = some ei) :
    introExitFor descCache cache options S ei = true := by
  obtain ⟨desc, hd, -⟩ := clientGetRandomIntro_sound h
  have hsub := (samplingOrder_perm desc.introPoints.length desc.introPoints picks le_rfl).subset
  rw [clientGetRandomIntro_eq cache options S hd picks] at h
  cases hg : (samplingOrder desc.introPoints.length desc.introPoints picks).findSome?
      (goodIntroPick cache options S) with
  | some ei' =>
    -- the first good pick along the order
    rw [hg] at h
    obtain rfl : ei' = ei := Option.some.inj h
    obtain ⟨ip, hip, hgood⟩ := List.exists_of_findSome?_eq_some hg
    obtain ⟨hu, he, hx⟩ := (goodIntroPick_eq_some cache options S).mp hgood
    exact introExitFor_eq_true.mpr ⟨desc, hd, ip, hsub hip, hu, he, fun _ => hx⟩
  | none =>
    -- the last excluded pick, only without `StrictNodes`
    rw [hg, Option.none_or] at h
    split at h
    · cases h
    · obtain ⟨ip, hip, hex⟩ := List.mem_filterMap.mp (List.mem_of_getLast?_eq_some h)
      simp only [excludedIntroPick] at hex
      split at hex
      · obtain ⟨he, -⟩ := Option.filter_eq_some.mp hex
        exact introExitFor_eq_true.mpr ⟨desc, hd, ip, hsub hip, ‹_›, he, fun hs => absurd hs ‹_›⟩
      · cases hex

end HsClient
