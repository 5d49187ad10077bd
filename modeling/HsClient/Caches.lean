import HsClient.Basic
import Mathlib.Data.List.Nodup

/-!
# The caches the client reads

The intro-point failure cache of `hs_cache.c` and the HSDir request history
of `hs_common.c` are not part of the modelled file; they are modelled from
the spec (§4.3, §4.2). Over them sit the functions of `hs_client.c` that read
the caches: `intro_point_is_usable`, `hs_client_any_intro_points_usable`,
and the two searches of a descriptor's intro points.
-/

namespace HsClient

/-- The intro-point failure cache, by service key and intro auth key. -/
abbrev IntroStateCache := Ed25519PublicKey × Ed25519PublicKey → Option HsCacheIntroState

/-- Modelled from the spec: `MAX_INTRO_POINT_REACHABILITY_FAILURES`, "3 by
convention". -/
def maxIntroPointReachabilityFailures : UInt32 := 3

/-- Modelled from the spec: the TTL of a failure-cache entry, about two
minutes of wall time. -/
def hsCacheClientIntroStateMaxAge : Nat := 120

/-- Modelled from the spec: `hs_cache_client_intro_state_note` sets `error`
on a generic failure, `timed_out` on a timeout, and counts unreachability. -/
def cacheClientIntroStateNote (state : HsCacheIntroState) : IntroPointFailure → HsCacheIntroState
  | .generic => { state with error := true }
  | .timeout => { state with timedOut := true }
  | .unreachable => { state with unreachableCount := state.unreachableCount + 1 }

/-- Modelled from the spec: the entry is created on the first note. -/
def hsCacheClientIntroStateNote (cache : IntroStateCache) (now : Nat)
    (servicePk authKey : Ed25519PublicKey) (failure : IntroPointFailure) : IntroStateCache :=
  let state := (cache (servicePk, authKey)).getD ⟨false, false, 0, now⟩
  Function.update cache (servicePk, authKey) (some (cacheClientIntroStateNote state failure))

/-- Modelled from the spec: entries older than the TTL are dropped. -/
def hsCacheClientIntroStateClean (cache : IntroStateCache) (now : Nat) : IntroStateCache :=
  fun key => (cache key).filter fun state =>
    !(state.createdTs + hsCacheClientIntroStateMaxAge < now)

/-- `intro_point_is_usable`: no entry, or no error, no timeout and fewer
unreachable notes than the maximum. -/
def introPointIsUsable (cache : IntroStateCache) (servicePk : Ed25519PublicKey)
    (ip : IntroPoint) : Bool :=
  match cache (servicePk, ip.authKey) with
  | none => true
  | some state =>
    if state.error then false
    else if state.timedOut then false
    else if state.unreachableCount ≥ maxIntroPointReachabilityFailures then false
    else true

def hsClientAnyIntroPointsUsable (cache : IntroStateCache) (servicePk : Ed25519PublicKey)
    (desc : Descriptor) : Bool :=
  desc.introPoints.any (introPointIsUsable cache servicePk)

/-- `find_desc_intro_point_by_ident`: the first intro point whose auth key is
the ident's `intro_auth_pk`. -/
def findDescIntroPointByIdent (ident : HsIdentCircuit) (desc : Descriptor) : Option IntroPoint :=
  desc.introPoints.find? fun ip => ip.authKey == ident.introAuthPk

/-- The inner loop of `find_desc_intro_point_by_legacy_id` over one intro
point's link specifiers: other types are skipped, and the first legacy id
decides (a different one `break`s out to the next intro point). -/
def lspecsMatchLegacyId (legacyId : Digest) : List LinkSpecifier → Bool
  | [] => false
  | .legacyId d :: _ => d == legacyId
  | _ :: rest => lspecsMatchLegacyId legacyId rest

def findDescIntroPointByLegacyId (legacyId : Digest) (desc : Descriptor) : Option IntroPoint :=
  desc.introPoints.find? fun ip => lspecsMatchLegacyId legacyId ip.linkSpecifiers

/-- The first legacy identity digest among link specifiers. -/
def firstLegacyId : List LinkSpecifier → Option Digest
  | [] => none
  | .legacyId d :: _ => some d
  | _ :: rest => firstLegacyId rest

/-- The first Ed25519 identity among link specifiers. -/
def firstEd25519Id : List LinkSpecifier → Option Ed25519PublicKey
  | [] => none
  | .ed25519Id k :: _ => some k
  | _ :: rest => firstEd25519Id rest

/-- The first IPv4 address and port among link specifiers. -/
def firstIpv4 : List LinkSpecifier → Option (BitVec 32 × BitVec 16)
  | [] => none
  | .ipv4 a p :: _ => some (a, p)
  | _ :: rest => firstIpv4 rest

/-- Modelled from the spec: `hs_get_extend_info_from_lspecs` translates link
specifiers into an extend info, which needs a legacy identity digest and an
IPv4 address the options allow extending to; the first of each is used. -/
def hsGetExtendInfoFromLspecs (options : Options) (lspecs : List LinkSpecifier)
    (onionKey : Curve25519PublicKey) : Option ExtendInfo :=
  match firstLegacyId lspecs, firstIpv4 lspecs with
  | some d, some (a, p) =>
    if options.extendAllowed a then some ⟨d, firstEd25519Id lspecs, onionKey, a, p⟩ else none
  | _, _ => none

def descIntroPointToExtendInfo (options : Options) (ip : IntroPoint) : Option ExtendInfo :=
  hsGetExtendInfoFromLspecs options ip.linkSpecifiers ip.onionKey

/-- Modelled from the spec: `hs_pick_hsdir` picks the first responsible HSDir
not recently queried for this blinded key, and remembers the query. -/
def hsPickHsdir (history : List (Digest × Ed25519PublicKey)) (responsible : List Digest)
    (blindedPk : Ed25519PublicKey) : Option Digest × List (Digest × Ed25519PublicKey) :=
  match responsible.find? fun d => !history.contains (d, blindedPk) with
  | none => (none, history)
  | some d => (some d, (d, blindedPk) :: history)

/-- Modelled from the spec: `hs_purge_hid_serv_from_last_hid_serv_requests`
forgets the queries made for one blinded key. -/
def hsPurgeHidServFromLastHidServRequests (history : List (Digest × Ed25519PublicKey))
    (blindedPk : Ed25519PublicKey) : List (Digest × Ed25519PublicKey) :=
  history.filter fun q => q.2 != blindedPk

theorem hsPurgeHidServFromLastHidServRequests_comm (history : List (Digest × Ed25519PublicKey))
    (k k' : Ed25519PublicKey) :
    hsPurgeHidServFromLastHidServRequests (hsPurgeHidServFromLastHidServRequests history k) k' =
      hsPurgeHidServFromLastHidServRequests (hsPurgeHidServFromLastHidServRequests history k') k := by
  simp only [hsPurgeHidServFromLastHidServRequests, List.filter_filter, Bool.and_comm]

/-! ## Usability -/

theorem introPointIsUsable_iff {cache : IntroStateCache} {servicePk : Ed25519PublicKey}
    {ip : IntroPoint} :
    introPointIsUsable cache servicePk ip = true ↔ ∀ state,
      cache (servicePk, ip.authKey) = some state →
      state.error = false ∧ state.timedOut = false ∧
        state.unreachableCount < maxIntroPointReachabilityFailures := by
  unfold introPointIsUsable
  cases h : cache (servicePk, ip.authKey) with
  | none => simp
  | some state =>
    simp only [Option.some.injEq, forall_eq']
    cases state.error <;> cases state.timedOut <;> simp

theorem hsClientAnyIntroPointsUsable_iff {cache : IntroStateCache} {servicePk : Ed25519PublicKey}
    {desc : Descriptor} :
    hsClientAnyIntroPointsUsable cache servicePk desc = true ↔
      ∃ ip ∈ desc.introPoints, introPointIsUsable cache servicePk ip = true := by
  simp [hsClientAnyIntroPointsUsable]

theorem introPointIsUsable_note_generic (cache : IntroStateCache) (now : Nat)
    (servicePk : Ed25519PublicKey) (ip : IntroPoint) :
    introPointIsUsable (hsCacheClientIntroStateNote cache now servicePk ip.authKey .generic)
      servicePk ip = false := by
  simp [introPointIsUsable, hsCacheClientIntroStateNote, cacheClientIntroStateNote]

theorem introPointIsUsable_note_of_ne (cache : IntroStateCache) (now : Nat)
    (servicePk authKey : Ed25519PublicKey) (failure : IntroPointFailure) {ip : IntroPoint}
    (h : ip.authKey ≠ authKey) :
    introPointIsUsable (hsCacheClientIntroStateNote cache now servicePk authKey failure)
      servicePk ip =
      introPointIsUsable cache servicePk ip := by
  have hk : (servicePk, ip.authKey) ≠ (servicePk, authKey) := fun e => h (Prod.ext_iff.mp e).2
  simp [introPointIsUsable, hsCacheClientIntroStateNote, Function.update_noteq hk]

theorem hsCacheClientIntroStateNote_error (cache : IntroStateCache) (now : Nat)
    (servicePk authKey : Ed25519PublicKey) :
    ∃ state, hsCacheClientIntroStateNote cache now servicePk authKey .generic (servicePk, authKey) =
      some state ∧ state.error = true := by
  simp [hsCacheClientIntroStateNote, cacheClientIntroStateNote]

/-! ## The two searches -/

theorem findDescIntroPointByIdent_spec {ident : HsIdentCircuit} {desc : Descriptor}
    {ip : IntroPoint} (h : findDescIntroPointByIdent ident desc = some ip) :
    ip ∈ desc.introPoints ∧ ip.authKey = ident.introAuthPk := by
  unfold findDescIntroPointByIdent at h
  exact ⟨List.mem_of_find?_eq_some h, by simpa using List.find?_some h⟩

theorem findDescIntroPointByIdent_eq_none_iff {ident : HsIdentCircuit} {desc : Descriptor} :
    findDescIntroPointByIdent ident desc = none ↔
      ∀ ip ∈ desc.introPoints, ip.authKey ≠ ident.introAuthPk := by
  simp [findDescIntroPointByIdent, List.find?_eq_none]

theorem lspecsMatchLegacyId_iff {legacyId : Digest} {lspecs : List LinkSpecifier} :
    lspecsMatchLegacyId legacyId lspecs = true ↔ firstLegacyId lspecs = some legacyId := by
  induction lspecs with
  | nil => simp [lspecsMatchLegacyId, firstLegacyId]
  | cons l rest ih =>
    cases l <;> simp [lspecsMatchLegacyId, firstLegacyId, ih]

theorem findDescIntroPointByLegacyId_spec {legacyId : Digest} {desc : Descriptor}
    {ip : IntroPoint} (h : findDescIntroPointByLegacyId legacyId desc = some ip) :
    ip ∈ desc.introPoints ∧ firstLegacyId ip.linkSpecifiers = some legacyId := by
  unfold findDescIntroPointByLegacyId at h
  have hp := List.find?_some h
  exact ⟨List.mem_of_find?_eq_some h, lspecsMatchLegacyId_iff.mp hp⟩

theorem descIntroPointToExtendInfo_identityDigest {options : Options} {ip : IntroPoint}
    {ei : ExtendInfo} (h : descIntroPointToExtendInfo options ip = some ei) :
    firstLegacyId ip.linkSpecifiers = some ei.identityDigest := by
  unfold descIntroPointToExtendInfo hsGetExtendInfoFromLspecs at h
  split at h
  · split at h
    · cases h; assumption
    · cases h
  · cases h

/-! ## When the first match is the only one -/

theorem findDescIntroPointByLegacyId_of_nodup {desc : Descriptor} {ip : IntroPoint}
    {legacyId : Digest}
    (hnodup : (desc.introPoints.map fun ip => firstLegacyId ip.linkSpecifiers).Nodup)
    (hip : ip ∈ desc.introPoints) (hid : firstLegacyId ip.linkSpecifiers = some legacyId) :
    findDescIntroPointByLegacyId legacyId desc = some ip := by
  cases h : findDescIntroPointByLegacyId legacyId desc with
  | none =>
    unfold findDescIntroPointByLegacyId at h
    exact absurd (lspecsMatchLegacyId_iff.mpr hid) (by simpa using List.find?_eq_none.mp h ip hip)
  | some ip' =>
    obtain ⟨hip', hid'⟩ := findDescIntroPointByLegacyId_spec h
    exact congrArg some (List.inj_on_of_nodup_map hnodup hip' hip (hid'.trans hid.symm))

theorem findDescIntroPointByIdent_of_nodup {desc : Descriptor} {ip : IntroPoint}
    {ident : HsIdentCircuit} (hnodup : (desc.introPoints.map IntroPoint.authKey).Nodup)
    (hip : ip ∈ desc.introPoints) (hkey : ident.introAuthPk = ip.authKey) :
    findDescIntroPointByIdent ident desc = some ip := by
  cases h : findDescIntroPointByIdent ident desc with
  | none =>
    unfold findDescIntroPointByIdent at h
    exact absurd (List.find?_eq_none.mp h ip hip) (by simp [hkey])
  | some ip' =>
    obtain ⟨hip', hkey'⟩ := findDescIntroPointByIdent_spec h
    exact congrArg some (List.inj_on_of_nodup_map hnodup hip' hip (hkey'.trans hkey))

end HsClient
