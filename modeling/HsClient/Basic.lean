import Mathlib.Logic.Function.Basic

/-!
# Data model of the v3 onion-service client

Keys, descriptors, circuits and connections as `hs_client.c` reads and
writes them. Fixed-size keys are bit vectors of their byte length and are
compared byte for byte. The v2 paths of the source are out of scope, so a
circuit always carries its v3 identifier `hs_ident`.
-/

namespace HsClient

abbrev Ed25519PublicKey := BitVec 256
abbrev Curve25519PublicKey := BitVec 256
/-- A relay's legacy identity digest (`DIGEST_LEN` bytes). -/
abbrev Digest := BitVec 160
/-- `DIGEST256_LEN` bytes: MACs and the ntor key seed. -/
abbrev Digest256 := BitVec 256
/-- The rendezvous cookie (`HS_REND_COOKIE_LEN` bytes). -/
abbrev RendCookie := BitVec 160
/-- A relay cell payload. -/
abbrev Payload := List UInt8

structure Curve25519Keypair where
  pubkey : Curve25519PublicKey
  seckey : BitVec 256
  deriving DecidableEq, Repr, Inhabited

structure NtorRendCellKeys where
  rendCellAuthMac : Digest256
  ntorKeySeed : Digest256
  deriving DecidableEq, Repr

/-- `hs_desc_link_specifier_t`, by its `type`. -/
inductive LinkSpecifier where
  | ipv4 (addr : BitVec 32) (port : BitVec 16)
  | ipv6 (addr : BitVec 128) (port : BitVec 16)
  | legacyId (digest : Digest)
  | ed25519Id (key : Ed25519PublicKey)
  deriving DecidableEq, Repr

/-- `hs_desc_intro_point_t`; `authKey` is `auth_key_cert->signed_key`. -/
structure IntroPoint where
  linkSpecifiers : List LinkSpecifier
  onionKey : Curve25519PublicKey
  authKey : Ed25519PublicKey
  encKey : Curve25519PublicKey
  deriving DecidableEq, Repr

/-- `tor_cert_t` as the client reads it. -/
structure TorCert where
  signedKey : Ed25519PublicKey
  signingKey : Ed25519PublicKey
  validUntil : Nat
  deriving DecidableEq, Repr

/-- A decoded `hs_descriptor_t`. -/
structure Descriptor where
  signingKeyCert : TorCert
  introPoints : List IntroPoint
  deriving DecidableEq, Repr

/-- `extend_info_t`: where a circuit is built or extended to. -/
structure ExtendInfo where
  identityDigest : Digest
  ed25519Id : Option Ed25519PublicKey
  onionKey : Curve25519PublicKey
  addr : BitVec 32
  port : BitVec 16
  deriving DecidableEq, Repr, Inhabited

inductive CircuitPurpose where
  | cIntroducing
  | cIntroduceAckWait
  | cIntroduceAcked
  | cEstablishRend
  | cRendReady
  | cRendReadyIntroAcked
  | cRendJoined
  | other (n : Nat)
  deriving DecidableEq, Repr, Inhabited

/-- The `END_CIRC_REASON_*` a circuit is marked for close with. -/
inductive CircEndReason where
  | torprotocol
  | internal
  | finished
  | other (n : Nat)
  deriving DecidableEq, Repr, Inhabited

inductive HsIdentCircuitType where
  | intro
  | rendezvous
  deriving DecidableEq, Repr, Inhabited

structure HsIdentCircuit where
  identityPk : Ed25519PublicKey
  circuitType : HsIdentCircuitType
  introAuthPk : Ed25519PublicKey
  introEncPk : Curve25519PublicKey
  rendezvousCookie : RendCookie
  rendezvousClientKp : Curve25519Keypair
  deriving DecidableEq, Repr, Inhabited

/-- `origin_circuit_t`. `markedForClose` is `some reason` once the circuit is
marked; `opened` is `state == CIRCUIT_STATE_OPEN`; `e2eKeySeed` is the seed of
the end-to-end hop installed by `hs_circuit_setup_e2e_rend_circ`. -/
structure OriginCircuit where
  purpose : CircuitPurpose
  markedForClose : Option CircEndReason
  opened : Bool
  hsIdent : HsIdentCircuit
  chosenExit : Option ExtendInfo
  remainingRelayEarlyCells : Nat
  timestampDirty : Nat
  e2eKeySeed : Option Digest256
  pathbiasUseAttempt : Bool
  pathbiasUseSuccess : Bool
  deriving DecidableEq, Repr, Inhabited

inductive ConnType where
  | ap
  | dir
  | other
  deriving DecidableEq, Repr, Inhabited

/-- The `END_STREAM_REASON_*` a stream is closed with. -/
inductive StreamEndReason where
  | resolvefailed
  | other (n : Nat)
  deriving DecidableEq, Repr, Inhabited

/-- `connection_t` with the fields of `edge_connection_t`, `entry_connection_t`
and `dir_connection_t` that the client reads: `hsIdent` is the `identity_pk` of
the stream's or the directory request's `hs_ident`, and `pending` is membership
in the pending-circuit list. `state` and `purpose` are the raw `uint8_t`s. -/
structure Connection where
  type : ConnType
  state : Nat
  purpose : Nat
  markedForClose : Bool
  hsIdent : Option Ed25519PublicKey
  pending : Bool
  endReason : Option StreamEndReason
  timestampCreated : Nat
  timestampLastReadAllowed : Nat
  timestampLastWriteAllowed : Nat
  deriving DecidableEq, Repr, Inhabited

/-! The numeric `AP_CONN_STATE_*`, `DIR_CONN_STATE_*` and `DIR_PURPOSE_*`
constants of `or.h` that the client compares connections against. -/

def apConnStateRenddescWait : Nat := 6
def apConnStateCircuitWait : Nat := 8
def apConnStateOpen : Nat := 11
def dirConnStateClientSending : Nat := 2
def dirConnStateClientReading : Nat := 3
def dirPurposeFetchHsdesc : Nat := 21

/-- `hs_cache_intro_state_t`: one entry of the intro-point failure cache. -/
structure HsCacheIntroState where
  error : Bool
  timedOut : Bool
  unreachableCount : UInt32
  createdTs : Nat
  deriving DecidableEq, Repr

inductive IntroPointFailure where
  | generic
  | timeout
  | unreachable
  deriving DecidableEq, Repr

/-- The configuration the client reads: `FetchHidServDescriptors`,
`StrictNodes`, membership in `ExcludeNodes`, and whether an address may be
extended to (`ExtendAllowPrivateAddresses`). -/
structure Options where
  fetchHidServDescriptors : Bool
  strictNodes : Bool
  excludeNodes : ExtendInfo → Bool
  extendAllowed : BitVec 32 → Bool

/-- What the directory subsystem reports: a live consensus, enough directory
information, the responsible HSDirs of a blinded key in a time period, and for
a relay the node list knows (`node_get_by_id`) whether it supports the v3
rendezvous protocol (`node_supports_v3_rendezvous_point`). -/
structure NetworkStatus where
  liveConsensus : Bool
  minimumDirInfo : Bool
  responsibleHsdirs : Ed25519PublicKey → Nat → List Digest
  nodeSupportsV3RendezvousPoint : Digest → Option Bool

/-- The circuits, by id, with the client side of the HS circuit map: the
rendezvous circuit registered under each cookie. -/
@[ext] structure CircuitTable where
  circ : Nat → OriginCircuit
  count : Nat
  rendMap : RendCookie → Option Nat

/-- The connection array, by position. -/
structure ConnTable where
  conn : Nat → Connection
  count : Nat

/-- The whole client core: its circuits and connections, the client
descriptor cache, the intro-point failure cache (by service key and intro
auth key), the HSDir request history (by HSDir and blinded key), the
configuration, the directory information and the current time. -/
structure ClientCore where
  circuits : CircuitTable
  conns : ConnTable
  descCache : Ed25519PublicKey → Option Descriptor
  introStateCache : Ed25519PublicKey × Ed25519PublicKey → Option HsCacheIntroState
  lastHidServRequests : List (Digest × Ed25519PublicKey)
  options : Options
  net : NetworkStatus
  now : Nat

/-- The cryptographic and cell-parsing collaborators, which are not part of
the modelled file. -/
structure Collaborators where
  hsBuildBlindedPubkey : Ed25519PublicKey → Nat → Ed25519PublicKey
  hsGetTimePeriodNum : Nat → Nat
  hsCellParseIntroduceAck : Payload → Int
  hsCellParseRendezvous2 : Payload → Option (Curve25519PublicKey × Digest256)
  hsNtorClientGetRendezvous1Keys : Ed25519PublicKey → Curve25519Keypair →
    Curve25519PublicKey → Curve25519PublicKey → Option NtorRendCellKeys

end HsClient
