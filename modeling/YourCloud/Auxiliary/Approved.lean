import YourCloud.Auxiliary.Approve
import YourCloud.Auxiliary.Passage
import YourCloud.Auxiliary.UserServices
import YourCloud.Plan.Pairs

/-!
# The pair an approval carries

An approval travels beside two documents.  Before a machine is read at all, each of
them is decoded and held against the digest that was signed, the plan against this
machine and the operation that was approved, and the rollback against the plan it has
to undo; only then is it said where what they describe is placed.

## Main results

* `declaredSchema_canonical` — a plan that was frozen declares its schema.
* `approvedInstances_ok` — what stands behind a pair that is accepted.
* `approvedInstances_built` — a pair that was built and approved is accepted.
-/

namespace YourCloud.Auxiliary

open YourCloud.Foundation
open YourCloud.Plan (Schema PlanDocument V2Document V3Document WebServiceDocument
  EntrypointDocument RouteDocument PrivateServiceDocument LinkRouteDocument SnapshotDocument
  RestoreDocument UserServiceDocument LinkDocument ListenerPeerDocument InitiatorPeerDocument
  Pair)

/-! ## The schema a document declares -/

/-- A name without regard to case: of all the characters beyond ASCII, two fold into it. -/
def foldName : Bytes → Bytes
  | 0xC5 :: 0xBF :: rest => 0x53 :: foldName rest
  | 0xE2 :: 0x84 :: 0xAA :: rest => 0x4B :: foldName rest
  | b :: rest => (if isLower b then b - 0x20 else b) :: foldName rest
  | [] => []

/-- What one member of a document leaves of the version read so far. -/
def declareVersion (declared : Option Int) (member : Bytes × Json) : Option (Option Int) :=
  if foldName (unquote member.1) = text "SCHEMA_VERSION" then
    Json.readPointer Json.readInt member.2
  else some declared

/-- The version a document declares, read without the rest of it: the last member of that name
counts, and every other is passed over. -/
def declaredVersion (document : Bytes) : Option Int :=
  match Json.parse document with
  | some (.object members) => (members.foldlM declareVersion none).join
  | _ => none

/-- The schema version of a carried document. -/
def declaredSchema (document : Bytes) (role : String) : Except Sentence Int := do
  demand (Plan.withinPlanBound document) (say ("carried " ++ role ++ ": ") ++ Plan.planSizeProblem)
  found (declaredVersion document)
    (say ("carried " ++ role ++ ": no plan schema version is declared"))

/-! ## What was signed -/

/-- One validated document against the digest a human signed for it. -/
def requireSignedDigest (digest : Except Sentence Bytes) (signedDigest : Bytes) (role : String) :
    Except Sentence Unit := do
  let digest ← digest.mapError (say ("carried " ++ role ++ ": ") ++ ·)
  demand (digest = signedDigest)
    (say ("the carried " ++ role ++ " is not the document the approval signed"))

/-- The plan of a schema that a digest names. -/
def documentMatching {α : Type} (decode : Bytes → Except Sentence α)
    (sha256 : α → Except Sentence Bytes) (document signedDigest : Bytes) (role : String) :
    Except Sentence α := do
  let parsed ← (decode document).mapError (say ("carried " ++ role ++ ": ") ++ ·)
  requireSignedDigest (sha256 parsed) signedDigest role
  return parsed

/-- One document against this machine's own position and the approval that carries it. -/
def requireApprovedTarget (accepted : Acceptance) (head : Plan.Head) : Except Sentence Unit := do
  demand (head.infrastructureID = accepted.state.infrastructureID)
    (say "the approved plan targets another infrastructure than this machine's anchor")
  demand (head.machineID = accepted.state.machineID)
    (say "the approved plan targets another machine than this one")
  demand (head.operation = accepted.envelope.operation.name)
    (say "the approved plan describes " ++ cite head.operation ++
      say " while the approval names " ++ cite accepted.envelope.operation.name)

/-! ## Where it is placed -/

/-- The placement of a profile, its image required once more to be the profile's own. -/
def requirePinned (serviceProfile imageReference imageDigest : Bytes) (placement : Placement) :
    Except Sentence Unit :=
  demand (imageReference ++ text "@" ++ imageDigest = placement.image)
    (say "the approved plan names another image than the " ++ [.words serviceProfile] ++
      say " profile pins")

def placementFor (document : WebServiceDocument) : Except Sentence Placement := do
  let placement ← found (profilePlacements.lookup document.serviceProfile)
    (say "plan service_profile " ++ cite document.serviceProfile ++
      say " is not one this Auxiliary places")
  requirePinned document.serviceProfile document.imageReference document.imageDigest placement
  return placement

/-- `archivedPlacementFor`, its refusal as a sentence. -/
def archivedPlacement (serviceProfile : Bytes) : Except Sentence Placement :=
  (archivedPlacementFor serviceProfile).mapError fun why => [.words why]

def privatePlacementFor (document : PrivateServiceDocument) : Except Sentence Placement := do
  let placement ← archivedPlacement document.serviceProfile
  requirePinned document.serviceProfile document.imageReference document.imageDigest placement
  return placement

def requireEntrypointImage (document : EntrypointDocument) : Except Sentence Unit :=
  demand (document.imageReference ++ text "@" ++ document.imageDigest = entrypointPlacement.image)
    (say "the approved plan names another image than the entrypoint of this palier pins")

def routeFragmentSuffix : Bytes := text ".yaml"

def maxFragmentNameBytes : Nat := 255

/-- Refused where a declared name cannot be held as a single file. -/
def requireHoldableFragmentName (host : Bytes) : Except Sentence Unit :=
  let needed := host.length + routeFragmentSuffix.length
  demand (needed ≤ maxFragmentNameBytes)
    (say "the declared name is " ++ count host.length ++ say " bytes and its fragment would need " ++
      count needed ++ say ", which is more than the " ++ count maxFragmentNameBytes ++
      say (" bytes one file name may occupy on this machine: the route is refused before any " ++
        "effect"))

/-! ## The two instances -/

/-- The operation of a document.  No valid document names one that is not among them. -/
def operationOf (head : Plan.Head) : Approval.Operation :=
  (Approval.Operation.ofName head.operation).getD .diagnoseProtocolReadOnly

def probeInstance (document : Plan.Document) : Instance where
  kind := .webService
  operation := operationOf document.toHead
  placement := probePlacement
  localPort := Int64.ofInt document.localPort

def webServiceInstance (placement : Placement) (document : WebServiceDocument) : Instance where
  kind := .webService
  operation := operationOf document.toHead
  placement
  localPort := Int64.ofInt document.localPort

def entrypointInstance (document : EntrypointDocument) : Instance where
  kind := .entrypoint
  operation := operationOf document.toHead
  placement := entrypointPlacement

def routeInstance (document : RouteDocument) : Instance where
  kind := .route
  operation := operationOf document.toHead
  placement := entrypointPlacement
  routeHost := document.routeHost
  backendPort := Int64.ofInt document.backendPort

def privateServiceInstance (placement : Placement) (document : PrivateServiceDocument) :
    Instance where
  kind := .privateService
  operation := operationOf document.toHead
  placement
  localPort := Int64.ofInt document.localPort
  originHost := document.originHost

def archiveInstance (placement : Placement) (head : Plan.Head) (snapshotSlot : Bytes) :
    Instance where
  kind := .archive
  operation := operationOf head
  placement
  snapshotSlot

def linkRouteInstance (document : LinkRouteDocument) : Instance where
  kind := .linkRoute
  operation := operationOf document.toHead
  placement := entrypointPlacement
  routeHost := document.routeHost
  backendPort := Int64.ofInt document.backendPort

def userServiceInstance (placement : Placement) (document : UserServiceDocument) : Instance where
  kind := .userService
  operation := operationOf document.toHead
  placement
  localPort := Int64.ofInt document.localPort
  originHost := document.originHost

def linkInstance (document : LinkDocument) : Instance where
  kind := .link
  operation := operationOf document.toHead
  linkRole := document.linkRole

def listenerPeerInstance (document : ListenerPeerDocument) : Instance where
  kind := .link
  operation := operationOf document.toHead
  linkRole := text "listener"
  peerPublicKey := document.peerPublicKey
  servicePort := Int64.ofInt document.servicePort

def initiatorPeerInstance (document : InitiatorPeerDocument) : Instance where
  kind := .link
  operation := operationOf document.toHead
  linkRole := text "initiator"
  peerPublicKey := document.peerPublicKey
  peerEndpointHost := document.peerEndpointHost
  servicePort := Int64.ofInt document.servicePort

def mismatchedPair : Sentence :=
  say "the approved rollback is not a document of the same shape as the plan it undoes"

/-- What a schema 1 pair is placed as: no document names where the probe lives. -/
def placeProbes (subject undoing : Plan.Document) : Except Sentence (Instance × Instance) :=
  .ok (probeInstance subject, probeInstance undoing)

/-- What a schema 2 pair is placed as, shape by shape. -/
def placeServices (definitionDocument : Option Bytes) :
    V2Document → V2Document → Except Sentence (Instance × Instance)
  | .webService subject, .webService undoing => do
      let placement ← placementFor subject
      return (webServiceInstance placement subject, webServiceInstance placement undoing)
  | .entrypoint subject, .entrypoint undoing => do
      requireEntrypointImage subject
      return (entrypointInstance subject, entrypointInstance undoing)
  | .route subject, .route undoing => do
      requireHoldableFragmentName subject.routeHost
      return (routeInstance subject, routeInstance undoing)
  | .privateService subject, .privateService undoing => do
      let placement ← privatePlacementFor subject
      return (privateServiceInstance placement subject, privateServiceInstance placement undoing)
  | .snapshot subject, .snapshot undoing => do
      let placement ← archivedPlacement subject.serviceProfile
      return (archiveInstance placement subject.toHead subject.snapshotSlot,
        archiveInstance placement undoing.toHead undoing.snapshotSlot)
  | .restore subject, .restore undoing => do
      let placement ← archivedPlacement subject.serviceProfile
      return (archiveInstance placement subject.toHead subject.snapshotSlot,
        archiveInstance placement undoing.toHead undoing.snapshotSlot)
  | .linkRoute subject, .linkRoute undoing => do
      requireHoldableFragmentName subject.routeHost
      return (linkRouteInstance subject, linkRouteInstance undoing)
  | .userService subject, .userService undoing => do
      let placement ← userServicePlacementFor subject (definitionDocument.getD [])
      return (userServiceInstance placement subject, userServiceInstance placement undoing)
  | _, _ => .error mismatchedPair

/-- What a schema 3 pair is placed as. -/
def placeLinks : V3Document → V3Document → Except Sentence (Instance × Instance)
  | .link subject, .link undoing => do
      let _ ← (linkPlacementFor subject.linkRole).mapError fun why => [.words why]
      return (linkInstance subject, linkInstance undoing)
  | .listenerPeer subject, .listenerPeer undoing =>
      .ok (listenerPeerInstance subject, listenerPeerInstance undoing)
  | .initiatorPeer subject, .initiatorPeer undoing =>
      .ok (initiatorPeerInstance subject, initiatorPeerInstance undoing)
  | _, _ => .error mismatchedPair

/-! ## What an approval carries -/

variable (accepted : Acceptance) (planDocument rollbackDocument : Bytes)
  (definitionDocument : Option Bytes)

/-- One pair against the approval that carries it, in the schema of its decoder. -/
def pairInstances {α : Type} (decode : Bytes → Except Sentence α)
    (transcript : α → Except Sentence Bytes) (head : α → Plan.Head) (undoes : α → α → Bool)
    (place : α → α → Except Sentence (Instance × Instance)) :
    Except Sentence (Instance × Instance) := do
  let digest (document : α) := Plan.digestOf (transcript document)
  let requested ← documentMatching decode digest planDocument accepted.envelope.planSHA256 "plan"
  let rollback ← documentMatching decode digest rollbackDocument
    accepted.envelope.rollbackSHA256 "rollback"
  requireApprovedTarget accepted (head requested)
  demand (undoes rollback requested)
    (say "the approved rollback does not undo exactly the approved plan")
  place requested rollback

def probeInstances : Except Sentence (Instance × Instance) :=
  pairInstances accepted planDocument rollbackDocument Plan.decode Plan.Document.transcript
    Plan.Document.toHead Plan.Document.isExactInverseOf placeProbes

def serviceInstances : Except Sentence (Instance × Instance) :=
  pairInstances accepted planDocument rollbackDocument Plan.decodeV2 V2Document.transcript
    V2Document.head V2Document.isExactInverseOf (placeServices definitionDocument)

def linkInstances : Except Sentence (Instance × Instance) :=
  pairInstances accepted planDocument rollbackDocument Plan.decodeV3 V3Document.transcript
    V3Document.head V3Document.isExactInverseOf placeLinks

/-- The two carried documents, as the two instances that are acted on. -/
def approvedInstances : Except Sentence (Instance × Instance) := do
  let planSchema ← declaredSchema planDocument "plan"
  let rollbackSchema ← declaredSchema rollbackDocument "rollback"
  demand (planSchema = rollbackSchema)
    (say "the approved plan is written in plan schema " ++ [.words (decimalInt planSchema)] ++
      say " and its rollback in plan schema " ++ [.words (decimalInt rollbackSchema)] ++
      say ": a pair written in two schemas is not a pair")
  demand (accepted.envelope.planSHA256 ≠ accepted.envelope.rollbackSHA256)
    (say ("the approval names one digest as both the plan and its rollback: a document is not its " ++
      "own undoing"))
  if planSchema = Plan.schemaVersion then
    probeInstances accepted planDocument rollbackDocument
  else if planSchema = Plan.schemaVersionV2 then
    serviceInstances accepted planDocument rollbackDocument definitionDocument
  else if planSchema = Plan.schemaVersionV3 then
    linkInstances accepted planDocument rollbackDocument
  else
    .error (say "the approved documents declare plan schema " ++ [.words (decimalInt planSchema)] ++
      say ", which this Auxiliary does not read")

/-! ## What stands behind an accepted pair -/

theorem documentMatching_iff {α : Type} {decode : Bytes → Except Sentence α}
    {sha256 : α → Except Sentence Bytes} {document signedDigest : Bytes} {role : String}
    {parsed : α} :
    documentMatching decode sha256 document signedDigest role = .ok parsed ↔
      decode document = .ok parsed ∧ sha256 parsed = .ok signedDigest := by
  constructor
  · intro h
    obtain ⟨_, hdecode, h⟩ := bind_ok_iff.1 h
    obtain ⟨_, hsigned, h⟩ := bind_ok_iff.1 h
    cases h
    obtain ⟨digest, hdigest, hequal⟩ := bind_ok_iff.1 hsigned
    have hequal : digest = signedDigest := of_decide_eq_true (demand_eq_ok.1 hequal)
    exact ⟨Plan.mapError_eq_ok.1 hdecode, hequal ▸ Plan.mapError_eq_ok.1 hdigest⟩
  · rintro ⟨hdecode, hdigest⟩
    refine bind_ok_iff.2 ⟨parsed, Plan.mapError_eq_ok.2 hdecode, ?_⟩
    refine bind_ok_iff.2 ⟨(), ?_, rfl⟩
    exact bind_ok_iff.2 ⟨_, Plan.mapError_eq_ok.2 hdigest, demand_eq_ok.2 (decide_eq_true rfl)⟩

/-- A plan for this machine, of the operation that was approved. -/
structure Targets (accepted : Acceptance) (head : Plan.Head) : Prop where
  infrastructureID : head.infrastructureID = accepted.state.infrastructureID
  machineID : head.machineID = accepted.state.machineID
  operation : head.operation = accepted.envelope.operation.name

theorem requireApprovedTarget_iff {accepted : Acceptance} {head : Plan.Head} :
    requireApprovedTarget accepted head = .ok () ↔ Targets accepted head := by
  constructor
  · intro h
    obtain ⟨_, hinfrastructure, h⟩ := bind_ok_iff.1 h
    obtain ⟨_, hmachine, hoperation⟩ := bind_ok_iff.1 h
    exact ⟨of_decide_eq_true (demand_eq_ok.1 hinfrastructure),
      of_decide_eq_true (demand_eq_ok.1 hmachine), of_decide_eq_true (demand_eq_ok.1 hoperation)⟩
  · rintro ⟨hinfrastructure, hmachine, hoperation⟩
    refine bind_ok_iff.2 ⟨(), demand_eq_ok.2 (decide_eq_true hinfrastructure), ?_⟩
    refine bind_ok_iff.2 ⟨(), demand_eq_ok.2 (decide_eq_true hmachine), ?_⟩
    exact demand_eq_ok.2 (decide_eq_true hoperation)

/-- What a pair of any schema is placed as. -/
def placePair (definitionDocument : Option Bytes) :
    PlanDocument → PlanDocument → Except Sentence (Instance × Instance)
  | .v1 subject, .v1 undoing => placeProbes subject undoing
  | .v2 subject, .v2 undoing => placeServices definitionDocument subject undoing
  | .v3 subject, .v3 undoing => placeLinks subject undoing
  | _, _ => .error mismatchedPair

/-- Everything that was required of two carried documents, and what they are placed as. -/
structure Carried (accepted : Acceptance) (planDocument rollbackDocument : Bytes)
    (definitionDocument : Option Bytes) (pair : Pair PlanDocument)
    (instances : Instance × Instance) : Prop where
  planSchema : declaredSchema planDocument "plan" = .ok pair.plan.schema.version
  rollbackSchema : declaredSchema rollbackDocument "rollback" = .ok pair.plan.schema.version
  distinct : accepted.envelope.planSHA256 ≠ accepted.envelope.rollbackSHA256
  plan : pair.plan.schema.decode planDocument = .ok pair.plan
  rollback : pair.plan.schema.decode rollbackDocument = .ok pair.rollback
  planSHA256 : pair.plan.sha256 = .ok accepted.envelope.planSHA256
  rollbackSHA256 : pair.rollback.sha256 = .ok accepted.envelope.rollbackSHA256
  target : Targets accepted pair.plan.head
  inverse : pair.plan.inverse = some pair.rollback
  placed : placePair definitionDocument pair.plan pair.rollback = .ok instances

variable {accepted : Acceptance} {planDocument rollbackDocument : Bytes}
  {definitionDocument : Option Bytes} {instances : Instance × Instance}

theorem pairInstances_iff {α : Type} {decode : Bytes → Except Sentence α}
    {transcript : α → Except Sentence Bytes} {head : α → Plan.Head} {undoes : α → α → Bool}
    {place : α → α → Except Sentence (Instance × Instance)} :
    pairInstances accepted planDocument rollbackDocument decode transcript head undoes place =
        .ok instances ↔
      ∃ requested rollback, decode planDocument = .ok requested ∧
        decode rollbackDocument = .ok rollback ∧
        Plan.digestOf (transcript requested) = .ok accepted.envelope.planSHA256 ∧
        Plan.digestOf (transcript rollback) = .ok accepted.envelope.rollbackSHA256 ∧
        Targets accepted (head requested) ∧ undoes rollback requested = true ∧
        place requested rollback = .ok instances := by
  constructor
  · intro h
    obtain ⟨requested, hrequested, h⟩ := bind_ok_iff.1 h
    obtain ⟨rollback, hrollback, h⟩ := bind_ok_iff.1 h
    obtain ⟨_, htarget, h⟩ := bind_ok_iff.1 h
    obtain ⟨_, hundoes, hplaced⟩ := bind_ok_iff.1 h
    obtain ⟨hplan, hplanSHA256⟩ := documentMatching_iff.1 hrequested
    obtain ⟨hundoing, hrollbackSHA256⟩ := documentMatching_iff.1 hrollback
    exact ⟨requested, rollback, hplan, hundoing, hplanSHA256, hrollbackSHA256,
      requireApprovedTarget_iff.1 htarget, demand_eq_ok.1 hundoes, hplaced⟩
  · rintro ⟨requested, rollback, hplan, hundoing, hplanSHA256, hrollbackSHA256, htarget, hundoes,
      hplaced⟩
    refine bind_ok_iff.2 ⟨_, documentMatching_iff.2 ⟨hplan, hplanSHA256⟩, ?_⟩
    refine bind_ok_iff.2 ⟨_, documentMatching_iff.2 ⟨hundoing, hrollbackSHA256⟩, ?_⟩
    refine bind_ok_iff.2 ⟨(), requireApprovedTarget_iff.2 htarget, ?_⟩
    exact bind_ok_iff.2 ⟨(), demand_eq_ok.2 hundoes, hplaced⟩

/-- A pair is accepted exactly where everything that is required of it holds. -/
theorem approvedInstances_iff :
    approvedInstances accepted planDocument rollbackDocument definitionDocument = .ok instances ↔
      ∃ pair, Carried accepted planDocument rollbackDocument definitionDocument pair instances := by
  constructor
  · intro h
    obtain ⟨version, hplanSchema, h⟩ := bind_ok_iff.1 h
    obtain ⟨version', hrollbackSchema, h⟩ := bind_ok_iff.1 h
    obtain ⟨_, hversions, h⟩ := bind_ok_iff.1 h
    obtain ⟨_, hdistinct, h⟩ := bind_ok_iff.1 h
    rw [← of_decide_eq_true (demand_eq_ok.1 hversions)] at hrollbackSchema
    have hdistinct := of_decide_eq_true (demand_eq_ok.1 hdistinct)
    split at h
    · rename_i hversion
      rw [hversion] at hplanSchema hrollbackSchema
      obtain ⟨requested, rollback, hplan, hundoing, hplanSHA256, hrollbackSHA256, htarget, hundoes,
        hplaced⟩ := pairInstances_iff.1 h
      have hinverse := Plan.Document.isExactInverseOf_iff.1 hundoes
      exact ⟨⟨.v1 requested, .v1 rollback⟩, hplanSchema, hrollbackSchema, hdistinct,
        Schema.decode_v1.2 hplan, Schema.decode_v1.2 hundoing, hplanSHA256, hrollbackSHA256,
        htarget, congrArg (Option.map _) hinverse, hplaced⟩
    · split at h
      · rename_i hversion
        rw [hversion] at hplanSchema hrollbackSchema
        obtain ⟨requested, rollback, hplan, hundoing, hplanSHA256, hrollbackSHA256, htarget, hundoes,
          hplaced⟩ := pairInstances_iff.1 h
        have hinverse := V2Document.isExactInverseOf_iff.1 hundoes
        exact ⟨⟨.v2 requested, .v2 rollback⟩, hplanSchema, hrollbackSchema, hdistinct,
          Schema.decode_v2.2 hplan, Schema.decode_v2.2 hundoing, hplanSHA256, hrollbackSHA256,
          htarget, congrArg (Option.map _) hinverse, hplaced⟩
      · split at h
        · rename_i hversion
          rw [hversion] at hplanSchema hrollbackSchema
          obtain ⟨requested, rollback, hplan, hundoing, hplanSHA256, hrollbackSHA256, htarget,
            hundoes, hplaced⟩ := pairInstances_iff.1 h
          have hinverse := V3Document.isExactInverseOf_iff.1 hundoes
          exact ⟨⟨.v3 requested, .v3 rollback⟩, hplanSchema, hrollbackSchema, hdistinct,
            Schema.decode_v3.2 hplan, Schema.decode_v3.2 hundoing, hplanSHA256, hrollbackSHA256,
            htarget, congrArg (Option.map _) hinverse, hplaced⟩
        · cases h
  · rintro ⟨⟨plan, rollback⟩, hcarried⟩
    refine bind_ok_iff.2 ⟨_, hcarried.planSchema, bind_ok_iff.2 ⟨_, hcarried.rollbackSchema, ?_⟩⟩
    refine bind_ok_iff.2 ⟨(), demand_eq_ok.2 (decide_eq_true rfl), ?_⟩
    refine bind_ok_iff.2 ⟨(), demand_eq_ok.2 (decide_eq_true hcarried.distinct), ?_⟩
    obtain ⟨-, -, -, hplan, hrollback, hplanSHA256, hrollbackSHA256, htarget, hinverse, hplaced⟩ :=
      hcarried
    cases plan with
    | v1 requested =>
        obtain ⟨undoing, hundoing, rfl⟩ := Option.map_eq_some_iff.1 hinverse
        refine (if_pos rfl).trans (pairInstances_iff.2 ⟨requested, undoing, ?_⟩)
        exact ⟨Schema.decode_v1.1 hplan, Schema.decode_v1.1 hrollback, hplanSHA256,
          hrollbackSHA256, htarget, Plan.Document.isExactInverseOf_iff.2 hundoing, hplaced⟩
    | v2 requested =>
        obtain ⟨undoing, hundoing, rfl⟩ := Option.map_eq_some_iff.1 hinverse
        have hfirst : Plan.schemaVersionV2 ≠ Plan.schemaVersion := by decide
        refine (if_neg hfirst).trans <| (if_pos rfl).trans
          (pairInstances_iff.2 ⟨requested, undoing, ?_⟩)
        exact ⟨Schema.decode_v2.1 hplan, Schema.decode_v2.1 hrollback, hplanSHA256,
          hrollbackSHA256, htarget, V2Document.isExactInverseOf_iff.2 hundoing, hplaced⟩
    | v3 requested =>
        obtain ⟨undoing, hundoing, rfl⟩ := Option.map_eq_some_iff.1 hinverse
        have hfirst : Plan.schemaVersionV3 ≠ Plan.schemaVersion := by decide
        have hsecond : Plan.schemaVersionV3 ≠ Plan.schemaVersionV2 := by decide
        refine (if_neg hfirst).trans <| (if_neg hsecond).trans <| (if_pos rfl).trans
          (pairInstances_iff.2 ⟨requested, undoing, ?_⟩)
        exact ⟨Schema.decode_v3.1 hplan, Schema.decode_v3.1 hrollback, hplanSHA256,
          hrollbackSHA256, htarget, V3Document.isExactInverseOf_iff.2 hundoing, hplaced⟩

/-- What the two halves of a placed pair have in common with their documents. -/
structure PlacedPair (plan rollback : PlanDocument) (instances : Instance × Instance) : Prop where
  requested : instances.1.operation = operationOf plan.head
  undoing : instances.2.operation = operationOf rollback.head
  placement : instances.2.placement = instances.1.placement

theorem placeServices_placed {subject undoing : V2Document}
    (h : placeServices definitionDocument subject undoing = .ok instances) :
    PlacedPair (.v2 subject) (.v2 undoing) instances := by
  cases subject <;> cases undoing <;> try cases h
  case webService.webService =>
    obtain ⟨placement, -, h⟩ := bind_ok_iff.1 h
    cases h
    exact ⟨rfl, rfl, rfl⟩
  case entrypoint.entrypoint =>
    obtain ⟨_, -, h⟩ := bind_ok_iff.1 h
    cases h
    exact ⟨rfl, rfl, rfl⟩
  case route.route =>
    obtain ⟨_, -, h⟩ := bind_ok_iff.1 h
    cases h
    exact ⟨rfl, rfl, rfl⟩
  case privateService.privateService =>
    obtain ⟨placement, -, h⟩ := bind_ok_iff.1 h
    cases h
    exact ⟨rfl, rfl, rfl⟩
  case linkRoute.linkRoute =>
    obtain ⟨_, -, h⟩ := bind_ok_iff.1 h
    cases h
    exact ⟨rfl, rfl, rfl⟩
  case snapshot.snapshot =>
    obtain ⟨placement, -, h⟩ := bind_ok_iff.1 h
    cases h
    exact ⟨rfl, rfl, rfl⟩
  case restore.restore =>
    obtain ⟨placement, -, h⟩ := bind_ok_iff.1 h
    cases h
    exact ⟨rfl, rfl, rfl⟩
  case userService.userService =>
    obtain ⟨placement, -, h⟩ := bind_ok_iff.1 h
    cases h
    exact ⟨rfl, rfl, rfl⟩

theorem placeLinks_placed {subject undoing : V3Document}
    (h : placeLinks subject undoing = .ok instances) :
    PlacedPair (.v3 subject) (.v3 undoing) instances := by
  cases subject with
  | link subject =>
      cases undoing with
      | link undoing =>
          obtain ⟨placement, -, h⟩ := bind_ok_iff.1 h
          cases h
          exact ⟨rfl, rfl, rfl⟩
      | _ undoing => cases h
  | listenerPeer subject =>
      cases undoing with
      | listenerPeer undoing =>
          cases h
          exact ⟨rfl, rfl, rfl⟩
      | _ undoing => cases h
  | initiatorPeer subject =>
      cases undoing with
      | initiatorPeer undoing =>
          cases h
          exact ⟨rfl, rfl, rfl⟩
      | _ undoing => cases h

/-- Both halves of a placed pair are of one placement, each under its own operation. -/
theorem placePair_placed {plan rollback : PlanDocument}
    (h : placePair definitionDocument plan rollback = .ok instances) :
    PlacedPair plan rollback instances := by
  cases plan with
  | v1 subject =>
      cases rollback with
      | v1 undoing =>
          cases h
          exact ⟨rfl, rfl, rfl⟩
      | _ undoing => cases h
  | v2 subject =>
      cases rollback with
      | v2 undoing => exact placeServices_placed h
      | _ undoing => cases h
  | v3 subject =>
      cases rollback with
      | v3 undoing => exact placeLinks_placed h
      | _ undoing => cases h

/-- The operation of an instance is the one its document names. -/
theorem operationOf_eq {head : Plan.Head} {operation : Approval.Operation}
    (h : operationOf head = operation) (hnamed : operation ≠ .diagnoseProtocolReadOnly) :
    head.operation = operation.name := by
  unfold operationOf at h
  cases hread : Approval.Operation.ofName head.operation with
  | none =>
      rw [hread] at h
      exact absurd h.symm hnamed
  | some other =>
      rw [hread] at h
      have hsame : other = operation := h
      rw [Approval.Operation.name_of_ofName hread, hsame]

/-! ## A frozen plan declares its schema -/

theorem declareVersion_other {declared : Option Int} {member : Bytes × Json}
    (h : foldName (unquote member.1) ≠ text "SCHEMA_VERSION") :
    declareVersion declared member = some declared := if_neg h

/-- Members of other names leave the version that was read. -/
theorem declareVersion_others {members : List (Bytes × Json)} {declared : Option Int}
    (h : ∀ member ∈ members, foldName (unquote member.1) ≠ text "SCHEMA_VERSION") :
    members.foldlM declareVersion declared = some declared := by
  induction members with
  | nil => rfl
  | cons member members ih =>
      rw [List.foldlM_cons, declareVersion_other (h member List.mem_cons_self)]
      exact ih fun member hmember => h member (List.mem_cons_of_mem _ hmember)

/-- The fields of a plan behind the first are named otherwise. -/
theorem columns_fold (plan : PlanDocument) : ∃ rest,
    plan.columns = (text "schema_version", Json.Column.number) :: rest ∧
      ∀ column ∈ rest, foldName column.1 ≠ text "SCHEMA_VERSION" := by
  have hv2 : ∀ group : Plan.OperationGroup, ∀ column ∈ group.columns.tail,
      foldName column.1 ≠ text "SCHEMA_VERSION" := by
    intro group
    cases group <;> decide
  have hv3 : ∀ group : Plan.LinkOperationGroup, ∀ column ∈ group.columns.tail,
      foldName column.1 ≠ text "SCHEMA_VERSION" := by
    intro group
    cases group <;> decide
  cases plan with
  | v1 document =>
      refine ⟨Plan.Document.columns.tail, rfl, ?_⟩
      decide
  | v2 document => exact ⟨_, by cases document <;> rfl, hv2 document.group⟩
  | v3 document => exact ⟨_, by cases document <;> rfl, hv3 document.group⟩

theorem cells_head (plan : PlanDocument) : ∃ rest,
    plan.cells = Json.Cell.number plan.head.schemaVersion :: rest := by
  cases plan with
  | v1 document => exact ⟨_, rfl⟩
  | v2 document => cases document <;> exact ⟨_, rfl⟩
  | v3 document => cases document <;> exact ⟨_, rfl⟩

theorem declaredVersion_canonical {plan : PlanDocument} (h : plan.validate = .ok ()) :
    declaredVersion plan.canonical = some plan.head.schemaVersion := by
  have hfits := PlanDocument.fits h
  have hnames := plan.names
  have hparsed := Json.decode_written some hnames hfits
  obtain ⟨columns, hcolumns, hothers⟩ := columns_fold plan
  obtain ⟨cells, hcells⟩ := cells_head plan
  have hvalue : Json.parse plan.canonical = some (Json.row plan.columns plan.cells) := by
    obtain ⟨value, hvalue, hread⟩ := Option.bind_eq_some_iff.1 hparsed
    split at hread
    · rw [← Option.some.inj hread]
      exact hvalue
    · cases hread
  rw [hcolumns, hcells] at hfits hvalue
  rw [hcolumns] at hnames
  have hfirst : foldName (unquote (text "schema_version")) = text "SCHEMA_VERSION" := by
    decide
  have hversion : Json.readPointer Json.readInt (Json.numeralInt plan.head.schemaVersion) =
      some (some plan.head.schemaVersion) := by
    have hrange := (List.forall₂_cons.1 hfits).1.2
    show (Json.readInt (Json.numeralInt _)).map some = _
    rw [Json.readInt_numeralInt hrange.1 hrange.2]
    rfl
  have hrest : ∀ member ∈ Json.present (Json.rowFields columns cells),
      foldName (unquote member.1) ≠ text "SCHEMA_VERSION" := by
    intro member hmember
    have hname := List.mem_map_of_mem (f := Prod.fst) (Json.mem_present hmember)
    rw [Json.rowFields_names (List.forall₂_cons.1 hfits).2] at hname
    obtain ⟨column, hcolumn, hsame⟩ := List.mem_map.1 hname
    have hplain := hnames.plain column.1
      (List.mem_map_of_mem (f := Prod.fst) (List.mem_cons_of_mem _ hcolumn))
    rw [← hsame, hplain.unquote]
    exact hothers column hcolumn
  unfold declaredVersion
  rw [hvalue]
  show (List.foldlM declareVersion none ((text "schema_version",
    Json.numeralInt plan.head.schemaVersion) :: Json.present (Json.rowFields columns cells))).join =
      some plan.head.schemaVersion
  rw [List.foldlM_cons]
  have hdeclared : declareVersion none (text "schema_version",
      Json.numeralInt plan.head.schemaVersion) = some (some plan.head.schemaVersion) :=
    (if_pos hfirst).trans hversion
  rw [hdeclared]
  show (List.foldlM declareVersion (some plan.head.schemaVersion) _).join = _
  rw [declareVersion_others hrest]
  rfl

/-- A plan that was frozen declares its schema. -/
theorem declaredSchema_canonical {plan : PlanDocument} (h : plan.validate = .ok ())
    (role : String) : declaredSchema plan.canonical role = .ok plan.schema.version := by
  rw [← PlanDocument.version_of_validate h]
  refine bind_ok_iff.2 ⟨(), demand_eq_ok.2 (PlanDocument.canonical_bound h), ?_⟩
  exact found_eq_ok.2 (declaredVersion_canonical h)

/-! ## A valid pair is placed -/

/-- The name a plan publishes. -/
def routeHostOf : PlanDocument → Option Bytes
  | .v2 (.route document) => some document.routeHost
  | .v2 (.linkRoute document) => some document.routeHost
  | _ => none

theorem validatePinnedImage_eq {reference digest : Bytes} {pinned : Plan.PinnedImage}
    (h : Plan.validatePinnedImage reference digest pinned = .ok ()) :
    reference = pinned.reference ∧ digest = pinned.digest := by
  obtain ⟨_, hreference, h⟩ := bind_ok_iff.1 h
  obtain ⟨_, -, hdigest⟩ := bind_ok_iff.1 h
  exact ⟨of_decide_eq_true (demand_eq_ok.1 hreference), of_decide_eq_true (demand_eq_ok.1 hdigest)⟩

/-- The image a plan pins, as one name. -/
def pinnedName (image : Plan.PinnedImage) : Bytes := image.reference ++ text "@" ++ image.digest

/-- Every profile of the public door is placed, under the image it pins. -/
theorem profiles_placed : ∀ entry ∈ Plan.profileImage,
    (profilePlacements.lookup entry.1).map Placement.image = some (pinnedName entry.2) := by
  decide

/-- Every profile of the private door is placed, under the image it pins. -/
theorem privateProfiles_placed : ∀ entry ∈ Plan.privateProfileImage,
    (archivedPlacementFor entry.1).toOption.map Placement.image = some (pinnedName entry.2) := by
  decide

theorem placementFor_ok {document : WebServiceDocument} (h : document.validate = .ok ()) :
    ∃ placement, placementFor document = .ok placement := by
  obtain ⟨_, -, h⟩ := bind_ok_iff.1 h
  obtain ⟨image, himage, h⟩ := bind_ok_iff.1 h
  obtain ⟨_, hpinned, -⟩ := bind_ok_iff.1 h
  obtain ⟨hreference, hdigest⟩ := validatePinnedImage_eq hpinned
  have hplaced := profiles_placed _ (Json.mem_of_lookup (found_eq_ok.1 himage))
  obtain ⟨placement, hplacement, hname⟩ := Option.map_eq_some_iff.1 hplaced
  refine ⟨placement, bind_ok_iff.2 ⟨placement, found_eq_ok.2 hplacement, ?_⟩⟩
  refine bind_ok_iff.2 ⟨(), demand_eq_ok.2 (decide_eq_true ?_), rfl⟩
  rw [hname, hreference, hdigest]
  rfl

theorem privatePlacementFor_ok {document : PrivateServiceDocument}
    (h : document.validate = .ok ()) : ∃ placement, privatePlacementFor document = .ok placement := by
  obtain ⟨_, -, h⟩ := bind_ok_iff.1 h
  obtain ⟨image, himage, h⟩ := bind_ok_iff.1 h
  obtain ⟨_, hpinned, -⟩ := bind_ok_iff.1 h
  obtain ⟨hreference, hdigest⟩ := validatePinnedImage_eq hpinned
  have hplaced := privateProfiles_placed _ (Json.mem_of_lookup (found_eq_ok.1 himage))
  obtain ⟨placement, hplacement, hname⟩ := Option.map_eq_some_iff.1 hplaced
  have hplacement : archivedPlacementFor document.serviceProfile = .ok placement := by
    cases hcase : archivedPlacementFor document.serviceProfile with
    | error why =>
        rw [hcase] at hplacement
        cases hplacement
    | ok other =>
        rw [hcase] at hplacement
        exact congrArg Except.ok (Option.some.inj hplacement)
  refine ⟨placement, bind_ok_iff.2 ⟨placement, Plan.mapError_eq_ok.2 hplacement, ?_⟩⟩
  refine bind_ok_iff.2 ⟨(), demand_eq_ok.2 (decide_eq_true ?_), rfl⟩
  rw [hname, hreference, hdigest]
  rfl

theorem requireEntrypointImage_ok {document : EntrypointDocument} (h : document.validate = .ok ()) :
    requireEntrypointImage document = .ok () := by
  obtain ⟨_, -, hpinned⟩ := bind_ok_iff.1 h
  obtain ⟨hreference, hdigest⟩ := validatePinnedImage_eq hpinned
  have hname : pinnedName Plan.entrypointImage = entrypointPlacement.image := by decide
  refine demand_eq_ok.2 (decide_eq_true ?_)
  rw [hreference, hdigest]
  exact hname

/-- The slugs of a plan are those a service may take on a machine. -/
theorem validateSlug_of_plan {slug : Bytes} (h : ServiceDefinition.validateSlug slug = .ok ()) :
    validateSlug slug = true := by
  obtain ⟨_, hslug, hfree⟩ := bind_ok_iff.1 h
  have hfree := demand_eq_ok.1 hfree
  have hslug := demand_eq_ok.1 hslug
  unfold validateSlug
  rw [Bool.and_eq_true]
  exact ⟨hslug, hfree⟩

theorem archivedPlacement_ok {profile : Bytes} (h : Plan.validateArchivedProfile profile = .ok ()) :
    ∃ placement, archivedPlacement profile = .ok placement := by
  have hbears : ∀ entry ∈ privateProfilePlacements, entry.2.bearsData = true := by decide
  have hplaced : ∃ placement, archivedPlacementFor profile = .ok placement := by
    unfold archivedPlacementFor
    cases hlookup : privateProfilePlacements.lookup profile with
    | some placement =>
        exact ⟨placement, if_pos (hbears _ (Json.mem_of_lookup hlookup))⟩
    | none =>
        refine ⟨_, if_pos ?_⟩
        unfold Plan.validateArchivedProfile at h
        split at h
        · rename_i hpinned
          have hprofile := Json.mem_of_lookup hpinned
          have hboth : ∀ entry ∈ Plan.privateProfileImage,
              privateProfilePlacements.lookup entry.1 ≠ none := by decide
          exact absurd hlookup (hboth _ hprofile)
        · exact validateSlug_of_plan (Plan.mapError_ok h)
  obtain ⟨placement, hplacement⟩ := hplaced
  exact ⟨placement, Plan.mapError_eq_ok.2 hplacement⟩

theorem linkPlacementFor_ok {document : LinkDocument} (h : document.validate = .ok ()) :
    ∃ placement, linkPlacementFor document.linkRole = .ok placement := by
  obtain ⟨_, -, hrole⟩ := bind_ok_iff.1 h
  have hrole : document.linkRole ∈ Plan.linkRoles := of_decide_eq_true (demand_eq_ok.1 hrole)
  have hroles : ∀ role ∈ Plan.linkRoles, (linkPlacementFor role).toOption.isSome = true := by
    decide
  cases hcase : linkPlacementFor document.linkRole with
  | ok placement => exact ⟨placement, rfl⟩
  | error why =>
      have hsome := hroles _ hrole
      rw [hcase] at hsome
      cases hsome

/-- What a user service needs beside its plan: the definition it agrees with, as bytes. -/
def DefinitionCarried (definitionDocument : Option Bytes) (document : UserServiceDocument) : Prop :=
  ∃ definition carried, definitionDocument = some carried ∧
    ServiceDefinition.decode carried = .ok definition ∧ Plan.Agree document definition

/-- A name that one file can hold. -/
def Holdable (host : Bytes) : Prop :=
  host.length + routeFragmentSuffix.length ≤ maxFragmentNameBytes

theorem requireHoldableFragmentName_ok {host : Bytes} (h : Holdable host) :
    requireHoldableFragmentName host = .ok () := demand_eq_ok.2 (decide_eq_true h)

theorem placeServices_ok {subject undoing : V2Document} (h : subject.validate = .ok ())
    (hinverse : subject.inverse = some undoing)
    (hroute : ∀ host, routeHostOf (.v2 subject) = some host → Holdable host)
    (hdefinition : ∀ document, subject = .userService document →
      DefinitionCarried definitionDocument document) :
    ∃ instances, placeServices definitionDocument subject undoing = .ok instances := by
  cases subject with
  | restore document =>
      have hrestore : document.inverse = some undoing := hinverse
      unfold RestoreDocument.inverse at hrestore
      split at hrestore
      · cases hrestore
        obtain ⟨_, -, h⟩ := bind_ok_iff.1 h
        obtain ⟨_, hprofile, -⟩ := bind_ok_iff.1 h
        obtain ⟨placement, hplacement⟩ := archivedPlacement_ok hprofile
        exact ⟨_, bind_ok_iff.2 ⟨placement, hplacement, rfl⟩⟩
      · cases hrestore
  | webService document =>
      obtain ⟨head, -, rfl⟩ := Option.map_eq_some_iff.1 hinverse
      obtain ⟨placement, hplacement⟩ := placementFor_ok h
      exact ⟨_, bind_ok_iff.2 ⟨placement, hplacement, rfl⟩⟩
  | entrypoint document =>
      obtain ⟨head, -, rfl⟩ := Option.map_eq_some_iff.1 hinverse
      exact ⟨_, bind_ok_iff.2 ⟨(), requireEntrypointImage_ok h, rfl⟩⟩
  | route document =>
      obtain ⟨head, -, rfl⟩ := Option.map_eq_some_iff.1 hinverse
      exact ⟨_, bind_ok_iff.2 ⟨(), requireHoldableFragmentName_ok (hroute _ rfl), rfl⟩⟩
  | privateService document =>
      obtain ⟨head, -, rfl⟩ := Option.map_eq_some_iff.1 hinverse
      obtain ⟨placement, hplacement⟩ := privatePlacementFor_ok h
      exact ⟨_, bind_ok_iff.2 ⟨placement, hplacement, rfl⟩⟩
  | linkRoute document =>
      obtain ⟨head, -, rfl⟩ := Option.map_eq_some_iff.1 hinverse
      exact ⟨_, bind_ok_iff.2 ⟨(), requireHoldableFragmentName_ok (hroute _ rfl), rfl⟩⟩
  | snapshot document =>
      obtain ⟨head, -, rfl⟩ := Option.map_eq_some_iff.1 hinverse
      obtain ⟨_, -, h⟩ := bind_ok_iff.1 h
      obtain ⟨_, hprofile, -⟩ := bind_ok_iff.1 h
      obtain ⟨placement, hplacement⟩ := archivedPlacement_ok hprofile
      exact ⟨_, bind_ok_iff.2 ⟨placement, hplacement, rfl⟩⟩
  | userService document =>
      obtain ⟨head, -, rfl⟩ := Option.map_eq_some_iff.1 hinverse
      obtain ⟨definition, carried, rfl, hdecode, hagree⟩ := hdefinition document rfl
      have hplacement := userServicePlacementFor_iff.2 ⟨definition, hdecode, h, hagree, rfl⟩
      exact ⟨_, bind_ok_iff.2 ⟨_, hplacement, rfl⟩⟩

theorem placeLinks_ok {subject undoing : V3Document} (h : subject.validate = .ok ())
    (hinverse : subject.inverse = some undoing) :
    ∃ instances, placeLinks subject undoing = .ok instances := by
  cases subject with
  | link document =>
      obtain ⟨head, -, rfl⟩ := Option.map_eq_some_iff.1 hinverse
      obtain ⟨placement, hplacement⟩ := linkPlacementFor_ok h
      exact ⟨_, bind_ok_iff.2 ⟨placement, Plan.mapError_eq_ok.2 hplacement, rfl⟩⟩
  | listenerPeer document =>
      obtain ⟨head, -, rfl⟩ := Option.map_eq_some_iff.1 hinverse
      exact ⟨_, rfl⟩
  | initiatorPeer document =>
      obtain ⟨head, -, rfl⟩ := Option.map_eq_some_iff.1 hinverse
      exact ⟨_, rfl⟩

/-- Whatever undoes a valid plan, the two are placed. -/
theorem placePair_ok {plan rollback : PlanDocument} (h : plan.validate = .ok ())
    (hinverse : plan.inverse = some rollback)
    (hroute : ∀ host, routeHostOf plan = some host → Holdable host)
    (hdefinition : ∀ document, plan = .v2 (.userService document) →
      DefinitionCarried definitionDocument document) :
    ∃ instances, placePair definitionDocument plan rollback = .ok instances := by
  cases plan with
  | v1 document =>
      obtain ⟨inverted, -, rfl⟩ := Option.map_eq_some_iff.1 hinverse
      exact ⟨_, rfl⟩
  | v2 document =>
      obtain ⟨inverted, hinverted, rfl⟩ := Option.map_eq_some_iff.1 hinverse
      exact placeServices_ok h hinverted hroute fun subject hsubject =>
        hdefinition subject (congrArg PlanDocument.v2 hsubject)
  | v3 document =>
      obtain ⟨inverted, hinverted, rfl⟩ := Option.map_eq_some_iff.1 hinverse
      exact placeLinks_ok h hinverted

/-! ## Built, approved and accepted -/

/-- An approval that names the two digests of a frozen pair, its operation and this machine. -/
structure Approves (accepted : Acceptance) (pair : Pair PlanDocument) (frozen : Plan.Frozen) :
    Prop where
  planSHA256 : accepted.envelope.planSHA256 = frozen.planSHA256
  rollbackSHA256 : accepted.envelope.rollbackSHA256 = frozen.rollbackSHA256
  target : Targets accepted pair.plan.head

/-- Two transcripts that SHA-256 does not tell apart. -/
def Collides (transcript other : Except Sentence Bytes) : Prop :=
  ∃ message message', transcript = .ok message ∧ other = .ok message' ∧ message ≠ message' ∧
    sha256Hex message = sha256Hex message'

/-- One digest for both documents is a collision of their transcripts. -/
theorem collides_of_digests {pair : Pair PlanDocument} (h : Plan.Undoing pair) {digest : Bytes}
    (hplan : pair.plan.sha256 = .ok digest) (hrollback : pair.rollback.sha256 = .ok digest) :
    Collides pair.plan.transcript pair.rollback.transcript := by
  rw [PlanDocument.sha256_eq] at hplan hrollback
  obtain ⟨message, hmessage, hdigest⟩ := map_ok_iff.1 hplan
  obtain ⟨message', hmessage', hdigest'⟩ := map_ok_iff.1 hrollback
  refine ⟨message, message', hmessage, hmessage', ?_, hdigest.trans hdigest'.symm⟩
  intro hsame
  rw [← hsame] at hmessage'
  exact h.transcripts_ne (hmessage.trans hmessage'.symm)

/-- A frozen pair that is approved is accepted as what it is placed as, unless its transcripts
collide. -/
theorem approvedInstances_frozen {pair : Pair PlanDocument} (h : Plan.Undoing pair)
    {frozen : Plan.Frozen} (hfrozen : pair.FrozenAs frozen) (hnames : Approves accepted pair frozen)
    (hplaced : placePair definitionDocument pair.plan pair.rollback = .ok instances)
    (hhash : ¬ Collides pair.plan.transcript pair.rollback.transcript) :
    approvedInstances accepted frozen.planDocument frozen.rollbackDocument definitionDocument =
      .ok instances := by
  have hplanSHA256 := hnames.planSHA256 ▸ hfrozen.planSHA256
  have hrollbackSHA256 := hnames.rollbackSHA256 ▸ hfrozen.rollbackSHA256
  have hschema : pair.rollback.schema = pair.plan.schema := PlanDocument.inverse_schema h.inverse
  refine approvedInstances_iff.2 ⟨pair, ?_⟩
  rw [hfrozen.planDocument, hfrozen.rollbackDocument]
  constructor
  · exact declaredSchema_canonical h.plan "plan"
  · rw [← hschema]
    exact declaredSchema_canonical h.rollback "rollback"
  · intro hsame
    rw [hsame] at hplanSHA256
    exact hhash (collides_of_digests h hplanSHA256 hrollbackSHA256)
  · exact Schema.decode_canonical h.plan
  · rw [← hschema]
    exact Schema.decode_canonical h.rollback
  · exact hplanSHA256
  · exact hrollbackSHA256
  · exact hnames.target
  · exact h.inverse
  · exact hplaced

/-- A pair that was built and approved is accepted, unless its transcripts collide. -/
theorem approvedInstances_built {call : Plan.BuildCall} {pair : Pair PlanDocument}
    (hbuilt : call.Built pair) {frozen : Plan.Frozen} (hfrozen : pair.FrozenAs frozen)
    (hnames : Approves accepted pair frozen)
    (hroute : ∀ host, routeHostOf pair.plan = some host → Holdable host)
    (hdefinition : ∀ definition, call.definition = some definition →
      ∃ carried, definitionDocument = some carried ∧
        ServiceDefinition.decode carried = .ok definition)
    (hhash : ¬ Collides pair.plan.transcript pair.rollback.transcript) :
    ∃ instances, approvedInstances accepted frozen.planDocument frozen.rollbackDocument
      definitionDocument = .ok instances := by
  have hcarried : ∀ document, pair.plan = .v2 (.userService document) →
      DefinitionCarried definitionDocument document := by
    intro document hdocument
    obtain ⟨definition, hcalled, hagree⟩ := hbuilt.agrees document hdocument
    obtain ⟨carried, hcarried, hdecode⟩ := hdefinition definition hcalled
    exact ⟨definition, carried, hcarried, hdecode, hagree⟩
  obtain ⟨instances, hplaced⟩ := placePair_ok hbuilt.plan hbuilt.inverse hroute hcarried
  exact ⟨instances, approvedInstances_frozen hbuilt.toUndoing hfrozen hnames hplaced hhash⟩

/-- Whatever a builder is called with, the pair it builds can be frozen; an approval can name its
operation; and where one names its two digests and this machine, the frozen pair is accepted,
its host within the bound of a file name and its definition carried along, unless two different
transcripts have one SHA-256.  Conversely an accepted pair is a plan and the exact inverse of it,
both for this machine and under two digests.  The inverse of a valid plan is undone by the plan,
except for a return, whose inverse returns to the reserved slot and undoes itself; and no return
that was built or accepted names that slot. -/
theorem pairs_agree :
    (∀ (call : Plan.BuildCall) (pair : Pair PlanDocument), call.build = .ok pair →
      (∃ operation : Approval.Operation, pair.plan.head.operation = operation.name) ∧
      ∃ frozen, pair.freeze = .ok frozen ∧
        ∀ (accepted : Acceptance) (definitionDocument : Option Bytes),
          Approves accepted pair frozen →
          (∀ host, routeHostOf pair.plan = some host → Holdable host) →
          (∀ definition, call.definition = some definition →
            ∃ carried, definitionDocument = some carried ∧
              ServiceDefinition.decode carried = .ok definition) →
          (∃ instances, approvedInstances accepted frozen.planDocument frozen.rollbackDocument
            definitionDocument = .ok instances) ∨
              Collides pair.plan.transcript pair.rollback.transcript) ∧
    (∀ (accepted : Acceptance) (planDocument rollbackDocument : Bytes)
      (definitionDocument : Option Bytes) (instances : Instance × Instance),
      approvedInstances accepted planDocument rollbackDocument definitionDocument = .ok instances →
      ∃ plan rollback : PlanDocument, plan.schema.decode planDocument = .ok plan ∧
        plan.schema.decode rollbackDocument = .ok rollback ∧ plan.inverse = some rollback ∧
        plan.sha256 = .ok accepted.envelope.planSHA256 ∧
        rollback.sha256 = .ok accepted.envelope.rollbackSHA256 ∧
        accepted.envelope.planSHA256 ≠ accepted.envelope.rollbackSHA256 ∧
        (∀ document ∈ [plan, rollback],
          document.head.infrastructureID = accepted.state.infrastructureID ∧
            document.head.machineID = accepted.state.machineID) ∧
        ∀ document, plan = .v2 (.restore document) →
          document.snapshotSlot ≠ Plan.reservedSnapshotSlot) ∧
    (∀ plan : PlanDocument, plan.validate = .ok () →
      plan.head.operation ≠ text "restore_service" →
      ∃ rollback, plan.inverse = some rollback ∧ rollback.inverse = some plan) ∧
    (∀ document : RestoreDocument, (PlanDocument.v2 (.restore document)).validate = .ok () →
      let returning := { document with snapshotSlot := Plan.reservedSnapshotSlot }
      (PlanDocument.v2 (.restore document)).inverse = some (.v2 (.restore returning)) ∧
        (PlanDocument.v2 (.restore returning)).inverse = some (.v2 (.restore returning))) ∧
    ∀ (call : Plan.BuildCall) (pair : Pair PlanDocument) (document : RestoreDocument),
      call.build = .ok pair → pair.plan = .v2 (.restore document) →
        document.snapshotSlot ≠ Plan.reservedSnapshotSlot := by
  refine ⟨?_, ?_, ?_, ?_, ?_⟩
  · intro call pair hbuild
    have hbuilt := Plan.BuildCall.build_ok hbuild
    obtain ⟨frozen, hfreeze, hfrozen⟩ := hbuilt.toUndoing.freeze_ok
    refine ⟨PlanDocument.operation_named hbuilt.plan, frozen, hfreeze, ?_⟩
    intro accepted definitionDocument hnames hroute hdefinition
    by_cases hhash : Collides pair.plan.transcript pair.rollback.transcript
    · exact Or.inr hhash
    · exact Or.inl (approvedInstances_built hbuilt hfrozen hnames hroute hdefinition hhash)
  · intro accepted planDocument rollbackDocument definitionDocument instances h
    obtain ⟨⟨plan, rollback⟩, hcarried⟩ := approvedInstances_iff.1 h
    have htarget := PlanDocument.inverse_target hcarried.inverse
    refine ⟨plan, rollback, hcarried.plan, hcarried.rollback, hcarried.inverse,
      hcarried.planSHA256, hcarried.rollbackSHA256, hcarried.distinct, ?_, ?_⟩
    · intro document hdocument
      rcases List.mem_cons.1 hdocument with rfl | hdocument
      · exact ⟨hcarried.target.infrastructureID, hcarried.target.machineID⟩
      · rw [List.mem_singleton.1 hdocument]
        exact ⟨htarget.1.trans hcarried.target.infrastructureID,
          htarget.2.trans hcarried.target.machineID⟩
    · rintro document rfl hslot
      have hsame : rollback = .v2 (.restore document) :=
        PlanDocument.inverse_reserved hslot hcarried.inverse
      have hrollback : rollback.sha256 = .ok accepted.envelope.planSHA256 :=
        hsame ▸ hcarried.planSHA256
      exact hcarried.distinct (Except.ok.inj (hrollback.symm.trans hcarried.rollbackSHA256))
  · intro plan hvalid hoperation
    obtain ⟨rollback, hrollback⟩ := PlanDocument.inverse_isSome hvalid
    have hrestores : plan.restores = false := by
      apply Bool.eq_false_of_not_eq_true
      exact fun hrestores => hoperation (PlanDocument.operation_of_restores hvalid hrestores)
    exact ⟨rollback, hrollback, PlanDocument.inverse_inverse hrestores hrollback⟩
  · intro document hvalid
    have hvalid : (V2Document.restore document).validate = .ok () := hvalid
    have hgroup := (V2Document.head_of_validate hvalid).2
    exact ⟨PlanDocument.inverse_restore hgroup, PlanDocument.inverse_restore hgroup⟩
  · intro call pair document hbuild hplan
    exact (Plan.BuildCall.build_ok hbuild).not_reserved hplan

/-- A call that publishes a route, and what it builds. -/
def routeCall : Plan.BuildCall :=
  .route (text "publish_route") (text "8b0f3a52-7c1d-4e6f-9a2b-5d4c3b2a1f00") (text "front-1")
    (text "www.example.org") 8080

def routePair : Pair PlanDocument where
  plan := .v2 (.route Plan.sampleRoute)
  rollback := .v2 (.route { Plan.sampleRoute with operation := text "retire_route" })

/-- An approval of a frozen pair, on the machine of the route. -/
def approvalOf (operation : Approval.Operation) (frozen : Plan.Frozen) : Acceptance where
  envelope := {
    schemaVersion := 1
    infrastructureID := text "8b0f3a52-7c1d-4e6f-9a2b-5d4c3b2a1f00"
    machineID := text "front-1"
    approvalEpoch := 1
    sequence := 1
    operation
    planSHA256 := frozen.planSHA256
    rollbackSHA256 := frozen.rollbackSHA256
    privileges := [.mutateLocalState]
    issuedAtUnix := 1
    expiresAtUnix := 2
    approvalPublicKey := [] }
  state := {
    schemaVersion := 1
    infrastructureID := text "8b0f3a52-7c1d-4e6f-9a2b-5d4c3b2a1f00"
    machineID := text "front-1"
    approvalEpoch := 1
    consumedSequence := 1 }

theorem route_accepted : ∃ frozen instances, routePair.freeze = .ok frozen ∧
    approvedInstances (approvalOf .publishRoute frozen) frozen.planDocument frozen.rollbackDocument none =
      .ok instances ∧
    frozen.planSHA256 ≠ frozen.rollbackSHA256 := by
  have hbuild : routeCall.build = .ok routePair := by decide
  have hdigests : routePair.plan.sha256 ≠ routePair.rollback.sha256 := by decide +kernel
  have hoperation : text "publish_route" = Approval.Operation.publishRoute.name := by decide
  have hholdable : Holdable (text "www.example.org") := by
    unfold Holdable
    decide
  obtain ⟨-, frozen, hfreeze, haccepted⟩ := pairs_agree.1 routeCall routePair hbuild
  have happroves : Approves (approvalOf .publishRoute frozen) routePair frozen :=
    ⟨rfl, rfl, rfl, rfl, hoperation⟩
  rcases haccepted _ none happroves (fun host hhost => Option.some.inj hhost ▸ hholdable) nofun with
    ⟨instances, hinstances⟩ | ⟨message, message', hmessage, hmessage', -, hsame⟩
  · obtain ⟨-, -, -, -, -, -, -, hdistinct, -⟩ := pairs_agree.2.1 _ _ _ _ _ hinstances
    exact ⟨frozen, instances, hfreeze, hinstances, hdistinct⟩
  · rw [PlanDocument.sha256_eq, PlanDocument.sha256_eq, hmessage, hmessage'] at hdigests
    exact absurd (congrArg Except.ok hsame) hdigests

end YourCloud.Auxiliary
