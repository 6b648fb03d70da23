import YourCloud.Plan.Agreement
import YourCloud.Plan.RoundTrip

/-!
# A plan and the document that undoes it

Every plan travels with a second plan that undoes it.  The undoing names the opposite
operation and is the same document otherwise; a restore is undone by a restore of the
one slot that the return mechanism owns.  A caller chooses the fields of one plan and
is never asked for the other.

## Main results

* `BuildCall.build_ok` — what stands behind a pair that was built.
* `PlanDocument.inverse_inverse` — what undoes the undoing.
* `Undoing.freeze_ok` — a pair that was built can be frozen.
-/

namespace YourCloud.Plan

open YourCloud.Foundation

/-! ## The opposite operations -/

def inverseOperationV2 : List (Bytes × Bytes) :=
  [(text "deploy_web_service", text "remove_web_service"),
    (text "remove_web_service", text "deploy_web_service"),
    (text "deploy_entrypoint", text "remove_entrypoint"),
    (text "remove_entrypoint", text "deploy_entrypoint"),
    (text "publish_route", text "retire_route"),
    (text "retire_route", text "publish_route"),
    (text "deploy_private_service", text "remove_private_service"),
    (text "remove_private_service", text "deploy_private_service"),
    (text "publish_link_route", text "retire_link_route"),
    (text "retire_link_route", text "publish_link_route"),
    (text "snapshot_service", text "discard_snapshot"),
    (text "discard_snapshot", text "snapshot_service"),
    (text "restore_service", text "restore_service"),
    (text "deploy_user_service", text "remove_user_service"),
    (text "remove_user_service", text "deploy_user_service")]

def inverseOperationV3 : List (Bytes × Bytes) :=
  [(text "prepare_link", text "withdraw_link"),
    (text "withdraw_link", text "prepare_link"),
    (text "attach_link_peer", text "detach_link_peer"),
    (text "detach_link_peer", text "attach_link_peer"),
    (text "join_link_peer", text "leave_link_peer"),
    (text "leave_link_peer", text "join_link_peer")]

/-- The head with the operation a table gives for its own. -/
def Head.inverse (table : List (Bytes × Bytes)) (head : Head) : Option Head :=
  (table.lookup head.operation).map fun inverted => { head with operation := inverted }

/-! ## The document that undoes another one -/

def Document.inverse (document : Document) : Option Document :=
  (document.toHead.inverse inverseOperation).map fun head => { document with toHead := head }

def Document.isExactInverseOf (document other : Document) : Bool :=
  match other.inverse with
  | none => false
  | some expected => document = expected

theorem Document.isExactInverseOf_iff {document other : Document} :
    document.isExactInverseOf other = true ↔ other.inverse = some document := by
  unfold isExactInverseOf
  cases other.inverse with
  | none => exact ⟨nofun, nofun⟩
  | some expected => simp [eq_comm]

def WebServiceDocument.inverse (document : WebServiceDocument) : Option V2Document :=
  (document.toHead.inverse inverseOperationV2).map fun head =>
    .webService { document with toHead := head }

def EntrypointDocument.inverse (document : EntrypointDocument) : Option V2Document :=
  (document.toHead.inverse inverseOperationV2).map fun head =>
    .entrypoint { document with toHead := head }

def RouteDocument.inverse (document : RouteDocument) : Option V2Document :=
  (document.toHead.inverse inverseOperationV2).map fun head =>
    .route { document with toHead := head }

def PrivateServiceDocument.inverse (document : PrivateServiceDocument) : Option V2Document :=
  (document.toHead.inverse inverseOperationV2).map fun head =>
    .privateService { document with toHead := head }

def LinkRouteDocument.inverse (document : LinkRouteDocument) : Option V2Document :=
  (document.toHead.inverse inverseOperationV2).map fun head =>
    .linkRoute { document with toHead := head }

def SnapshotDocument.inverse (document : SnapshotDocument) : Option V2Document :=
  (document.toHead.inverse inverseOperationV2).map fun head =>
    .snapshot { document with toHead := head }

/-- The one undoing that moves a field instead of the operation. -/
def RestoreDocument.inverse (document : RestoreDocument) : Option V2Document :=
  if operationGroups.lookup document.operation = some .restore then
    some (.restore { document with snapshotSlot := reservedSnapshotSlot })
  else none

def UserServiceDocument.inverse (document : UserServiceDocument) : Option V2Document :=
  (document.toHead.inverse inverseOperationV2).map fun head =>
    .userService { document with toHead := head }

def LinkDocument.inverse (document : LinkDocument) : Option V3Document :=
  (document.toHead.inverse inverseOperationV3).map fun head =>
    .link { document with toHead := head }

def ListenerPeerDocument.inverse (document : ListenerPeerDocument) : Option V3Document :=
  (document.toHead.inverse inverseOperationV3).map fun head =>
    .listenerPeer { document with toHead := head }

def InitiatorPeerDocument.inverse (document : InitiatorPeerDocument) : Option V3Document :=
  (document.toHead.inverse inverseOperationV3).map fun head =>
    .initiatorPeer { document with toHead := head }

namespace V2Document

def inverse : V2Document → Option V2Document
  | webService document => document.inverse
  | entrypoint document => document.inverse
  | route document => document.inverse
  | privateService document => document.inverse
  | linkRoute document => document.inverse
  | snapshot document => document.inverse
  | restore document => document.inverse
  | userService document => document.inverse

def isExactInverseOf (document other : V2Document) : Bool :=
  match other.inverse with
  | none => false
  | some expected => document = expected

theorem isExactInverseOf_iff {document other : V2Document} :
    document.isExactInverseOf other = true ↔ other.inverse = some document := by
  unfold isExactInverseOf
  cases other.inverse with
  | none => exact ⟨nofun, nofun⟩
  | some expected => simp [eq_comm]

end V2Document

namespace V3Document

def inverse : V3Document → Option V3Document
  | link document => document.inverse
  | listenerPeer document => document.inverse
  | initiatorPeer document => document.inverse

def isExactInverseOf (document other : V3Document) : Bool :=
  match other.inverse with
  | none => false
  | some expected => document = expected

theorem isExactInverseOf_iff {document other : V3Document} :
    document.isExactInverseOf other = true ↔ other.inverse = some document := by
  unfold isExactInverseOf
  cases other.inverse with
  | none => exact ⟨nofun, nofun⟩
  | some expected => simp [eq_comm]

end V3Document

namespace PlanDocument

def inverse : PlanDocument → Option PlanDocument
  | v1 document => document.inverse.map v1
  | v2 document => document.inverse.map v2
  | v3 document => document.inverse.map v3

end PlanDocument

/-! ## Building a pair -/

/-- A plan and its rollback. -/
structure Pair (α : Type) where
  plan : α
  rollback : α
  deriving DecidableEq, Repr

def notBuilt (operation : Bytes) : Sentence :=
  say "plan operation " ++ cite operation ++ say " is not one this palier builds"

def buildPair (operation infrastructureID machineID : Bytes) (localPort : Int) :
    Except Sentence (Pair Document) := do
  let inverse ← found (inverseOperation.lookup operation) (notBuilt operation)
  let subject : Document :=
    { schemaVersion, infrastructureID, machineID, operation, imageReference := probeImageReference
      imageDigest := probeImageDigest, localPort }
  subject.validate
  let rollback : Document := { subject with operation := inverse }
  rollback.validate
  return { plan := subject, rollback }

def buildV2Pair (subject : V2Document) : Except Sentence (Pair V2Document) := do
  subject.validate
  let rollback ← found subject.inverse (notBuilt subject.head.operation)
  rollback.validate
  demand (rollback ≠ subject) (say "a plan and its rollback must be two documents")
  return { plan := subject, rollback }

def buildV3Pair (subject : V3Document) : Except Sentence (Pair V3Document) := do
  subject.validate
  let rollback ← found subject.inverse (notBuilt subject.head.operation)
  rollback.validate
  return { plan := subject, rollback }

def buildWebServicePair (operation infrastructureID machineID serviceProfile : Bytes)
    (localPort : Int) : Except Sentence (Pair V2Document) := do
  let image ← found (profileImage.lookup serviceProfile)
    (say "plan service_profile " ++ cite serviceProfile ++ say " is not one this palier builds")
  buildV2Pair (.webService
    { schemaVersion := schemaVersionV2, infrastructureID, machineID, operation, serviceProfile
      imageReference := image.reference, imageDigest := image.digest, localPort })

def buildEntrypointPair (operation infrastructureID machineID : Bytes) :
    Except Sentence (Pair V2Document) :=
  buildV2Pair (.entrypoint
    { schemaVersion := schemaVersionV2, infrastructureID, machineID, operation
      imageReference := entrypointImage.reference, imageDigest := entrypointImage.digest })

def buildRoutePair (operation infrastructureID machineID routeHost : Bytes) (backendPort : Int) :
    Except Sentence (Pair V2Document) :=
  buildV2Pair (.route
    { schemaVersion := schemaVersionV2, infrastructureID, machineID, operation, routeHost
      backendPort })

def buildPrivateServicePair (operation infrastructureID machineID serviceProfile : Bytes)
    (localPort : Int) (originHost : Bytes) : Except Sentence (Pair V2Document) := do
  let image ← found (privateProfileImage.lookup serviceProfile)
    (say "plan service_profile " ++ cite serviceProfile ++
      say " is not one this palier builds behind the private door")
  buildV2Pair (.privateService
    { schemaVersion := schemaVersionV2, infrastructureID, machineID, operation, serviceProfile
      imageReference := image.reference, imageDigest := image.digest, localPort, originHost })

def buildLinkRoutePair (operation infrastructureID machineID routeHost : Bytes)
    (backendPort : Int) : Except Sentence (Pair V2Document) :=
  buildV2Pair (.linkRoute
    { schemaVersion := schemaVersionV2, infrastructureID, machineID, operation, routeHost
      backendPort })

def buildSnapshotPair (operation infrastructureID machineID serviceProfile snapshotSlot : Bytes) :
    Except Sentence (Pair V2Document) := do
  validateArchivedProfile serviceProfile
  buildV2Pair (.snapshot
    { schemaVersion := schemaVersionV2, infrastructureID, machineID, operation, serviceProfile
      snapshotSlot })

def buildRestorePair (infrastructureID machineID serviceProfile snapshotSlot : Bytes) :
    Except Sentence (Pair V2Document) := do
  validateArchivedProfile serviceProfile
  demand (snapshotSlot ≠ reservedSnapshotSlot)
    (say "plan snapshot_slot " ++ cite reservedSnapshotSlot ++
      say " belongs to the return mechanism and no plan may name it")
  buildV2Pair (.restore
    { schemaVersion := schemaVersionV2, infrastructureID, machineID
      operation := text "restore_service", serviceProfile, snapshotSlot })

def buildUserServicePair (operation infrastructureID machineID : Bytes)
    (definition : ServiceDefinition.Document) (imageDigest : Bytes) (localPort : Int)
    (originHost : Bytes) : Except Sentence (Pair V2Document) := do
  let digest ← (definition.sha256).mapError (say "plan definition_digest: " ++ ·)
  let subject : UserServiceDocument :=
    { schemaVersion := schemaVersionV2, infrastructureID, machineID, operation
      definitionSlug := definition.slug, definitionDigest := digest
      imageReference := definition.imageRepository, imageDigest, localPort, originHost }
  requireDefinitionAgreement subject definition
  buildV2Pair (.userService subject)

def buildLinkPair (operation infrastructureID machineID linkRole : Bytes) :
    Except Sentence (Pair V3Document) :=
  buildV3Pair (.link
    { schemaVersion := schemaVersionV3, infrastructureID, machineID, operation, linkRole })

def buildListenerPeerPair (operation infrastructureID machineID peerPublicKey : Bytes)
    (servicePort : Int) : Except Sentence (Pair V3Document) :=
  buildV3Pair (.listenerPeer
    { schemaVersion := schemaVersionV3, infrastructureID, machineID, operation, peerPublicKey
      servicePort })

def buildInitiatorPeerPair (operation infrastructureID machineID peerPublicKey
    peerEndpointHost : Bytes) (servicePort : Int) : Except Sentence (Pair V3Document) :=
  buildV3Pair (.initiatorPeer
    { schemaVersion := schemaVersionV3, infrastructureID, machineID, operation, peerPublicKey
      peerEndpointHost, servicePort })

/-- A call of a builder: what a caller chooses. -/
inductive BuildCall where
  | probe (operation infrastructureID machineID : Bytes) (localPort : Int)
  | webService (operation infrastructureID machineID serviceProfile : Bytes) (localPort : Int)
  | entrypoint (operation infrastructureID machineID : Bytes)
  | route (operation infrastructureID machineID routeHost : Bytes) (backendPort : Int)
  | privateService (operation infrastructureID machineID serviceProfile : Bytes) (localPort : Int)
      (originHost : Bytes)
  | linkRoute (operation infrastructureID machineID routeHost : Bytes) (backendPort : Int)
  | snapshot (operation infrastructureID machineID serviceProfile snapshotSlot : Bytes)
  | restore (infrastructureID machineID serviceProfile snapshotSlot : Bytes)
  | userService (operation infrastructureID machineID : Bytes)
      (definition : ServiceDefinition.Document) (imageDigest : Bytes) (localPort : Int)
      (originHost : Bytes)
  | link (operation infrastructureID machineID linkRole : Bytes)
  | listenerPeer (operation infrastructureID machineID peerPublicKey : Bytes) (servicePort : Int)
  | initiatorPeer (operation infrastructureID machineID peerPublicKey peerEndpointHost : Bytes)
      (servicePort : Int)
  deriving DecidableEq

def Pair.map {α β : Type} (f : α → β) (pair : Pair α) : Pair β :=
  { plan := f pair.plan, rollback := f pair.rollback }

namespace BuildCall

def build : BuildCall → Except Sentence (Pair PlanDocument)
  | probe operation infrastructureID machineID localPort =>
      (buildPair operation infrastructureID machineID localPort).map (Pair.map .v1)
  | webService operation infrastructureID machineID serviceProfile localPort =>
      (buildWebServicePair operation infrastructureID machineID serviceProfile localPort).map
        (Pair.map .v2)
  | entrypoint operation infrastructureID machineID =>
      (buildEntrypointPair operation infrastructureID machineID).map (Pair.map .v2)
  | route operation infrastructureID machineID routeHost backendPort =>
      (buildRoutePair operation infrastructureID machineID routeHost backendPort).map (Pair.map .v2)
  | privateService operation infrastructureID machineID serviceProfile localPort originHost =>
      (buildPrivateServicePair operation infrastructureID machineID serviceProfile localPort
        originHost).map (Pair.map .v2)
  | linkRoute operation infrastructureID machineID routeHost backendPort =>
      (buildLinkRoutePair operation infrastructureID machineID routeHost backendPort).map
        (Pair.map .v2)
  | snapshot operation infrastructureID machineID serviceProfile snapshotSlot =>
      (buildSnapshotPair operation infrastructureID machineID serviceProfile snapshotSlot).map
        (Pair.map .v2)
  | restore infrastructureID machineID serviceProfile snapshotSlot =>
      (buildRestorePair infrastructureID machineID serviceProfile snapshotSlot).map (Pair.map .v2)
  | userService operation infrastructureID machineID definition imageDigest localPort originHost =>
      (buildUserServicePair operation infrastructureID machineID definition imageDigest localPort
        originHost).map (Pair.map .v2)
  | link operation infrastructureID machineID linkRole =>
      (buildLinkPair operation infrastructureID machineID linkRole).map (Pair.map .v3)
  | listenerPeer operation infrastructureID machineID peerPublicKey servicePort =>
      (buildListenerPeerPair operation infrastructureID machineID peerPublicKey servicePort).map
        (Pair.map .v3)
  | initiatorPeer operation infrastructureID machineID peerPublicKey peerEndpointHost servicePort =>
      (buildInitiatorPeerPair operation infrastructureID machineID peerPublicKey peerEndpointHost
        servicePort).map (Pair.map .v3)

/-- The definition a pair was built from. -/
def definition : BuildCall → Option ServiceDefinition.Document
  | userService _ _ _ definition _ _ _ => some definition
  | _ => none

end BuildCall

/-! ## Freezing it -/

/-- A pair as it travels. -/
structure Frozen where
  planDocument : Bytes
  planSHA256 : Bytes
  rollbackDocument : Bytes
  rollbackSHA256 : Bytes
  deriving DecidableEq, Repr

def Pair.freeze (pair : Pair PlanDocument) : Except Sentence Frozen := do
  let planDocument ← pair.plan.encode
  let planSHA256 ← pair.plan.sha256
  let rollbackDocument ← pair.rollback.encode
  let rollbackSHA256 ← pair.rollback.sha256
  return { planDocument, planSHA256, rollbackDocument, rollbackSHA256 }

/-! ## What the undoing is -/

/-- A table that undoes what it did. -/
def Involutive (table : List (Bytes × Bytes)) : Prop :=
  ∀ entry ∈ table, table.lookup entry.2 = some entry.1

theorem Head.inverse_inverse {table : List (Bytes × Bytes)} (htable : Involutive table)
    {head inverted : Head} (h : head.inverse table = some inverted) :
    inverted.inverse table = some head := by
  obtain ⟨operation, hlookup, rfl⟩ := Option.map_eq_some_iff.1 h
  have hback := htable _ (Json.mem_of_lookup hlookup)
  unfold Head.inverse
  rw [hback]
  rfl

theorem involutive_v1 : Involutive inverseOperation := by
  unfold Involutive
  decide

theorem involutive_v2 : Involutive inverseOperationV2 := by
  unfold Involutive
  decide

theorem involutive_v3 : Involutive inverseOperationV3 := by
  unfold Involutive
  decide

/-- Two heads that invert each other, under whatever the rest of a document is. -/
private theorem inverse_of_heads {α : Type} {table : List (Bytes × Bytes)}
    (htable : Involutive table) {head : Head} {inverted : α} {build : Head → α}
    (h : (head.inverse table).map build = some inverted) :
    ∃ other, build other = inverted ∧ other.inverse table = some head := by
  obtain ⟨other, hother, rfl⟩ := Option.map_eq_some_iff.1 h
  exact ⟨other, rfl, Head.inverse_inverse htable hother⟩

theorem Document.inverse_inverse {document inverted : Document}
    (h : document.inverse = some inverted) : inverted.inverse = some document := by
  obtain ⟨other, rfl, hother⟩ := inverse_of_heads involutive_v1 h
  exact congrArg (Option.map _) hother

theorem V2Document.inverse_inverse {document inverted : V2Document}
    (hgroup : document.group ≠ .restore) (h : document.inverse = some inverted) :
    inverted.inverse = some document := by
  cases document with
  | restore document => exact absurd rfl hgroup
  | _ document =>
      obtain ⟨other, rfl, hother⟩ := inverse_of_heads involutive_v2 h
      exact congrArg (Option.map _) hother

theorem V3Document.inverse_inverse {document inverted : V3Document}
    (h : document.inverse = some inverted) : inverted.inverse = some document := by
  cases document with
  | _ document =>
      obtain ⟨other, rfl, hother⟩ := inverse_of_heads involutive_v3 h
      exact congrArg (Option.map _) hother

/-- Every operation a table of groups has is undone by the table of inverses. -/
theorem Head.inverse_isSome {γ : Type} {groups : List (Bytes × γ)} {table : List (Bytes × Bytes)}
    (htable : ∀ entry ∈ groups, (table.lookup entry.1).isSome = true) {head : Head} {group : γ}
    (h : groups.lookup head.operation = some group) :
    ∃ inverted, head.inverse table = some inverted := by
  have hsome := htable _ (Json.mem_of_lookup h)
  obtain ⟨operation, hlookup⟩ := Option.isSome_iff_exists.1 hsome
  exact ⟨_, congrArg (Option.map _) hlookup⟩

theorem undone_v2 :
    ∀ entry ∈ operationGroups, (inverseOperationV2.lookup entry.1).isSome = true := by
  decide

theorem undone_v3 :
    ∀ entry ∈ linkOperationGroups, (inverseOperationV3.lookup entry.1).isSome = true := by
  decide

theorem Document.inverse_isSome {document : Document} (h : document.validate = .ok ()) :
    ∃ inverted, document.inverse = some inverted := by
  obtain ⟨_, -, h⟩ := bind_ok_iff.1 h
  obtain ⟨operation, hlookup, -⟩ := bind_ok_iff.1 h
  exact ⟨_, congrArg (Option.map _) (congrArg (Option.map _) (found_eq_ok.1 hlookup))⟩

theorem V2Document.inverse_isSome {document : V2Document} (h : document.validate = .ok ()) :
    ∃ inverted, document.inverse = some inverted := by
  have hgroup := (V2Document.head_of_validate h).2
  obtain ⟨inverted, hinverted⟩ := Head.inverse_isSome undone_v2 hgroup
  cases document with
  | restore document => exact ⟨_, if_pos hgroup⟩
  | _ document => exact ⟨_, congrArg (Option.map _) hinverted⟩

theorem V3Document.inverse_isSome {document : V3Document} (h : document.validate = .ok ()) :
    ∃ inverted, document.inverse = some inverted := by
  have hgroup := (V3Document.head_of_validate h).2
  obtain ⟨inverted, hinverted⟩ := Head.inverse_isSome undone_v3 hgroup
  cases document with
  | _ document => exact ⟨_, congrArg (Option.map _) hinverted⟩

namespace PlanDocument

theorem inverse_isSome {plan : PlanDocument} (h : plan.validate = .ok ()) :
    ∃ rollback, plan.inverse = some rollback := by
  cases plan with
  | v1 document =>
      obtain ⟨inverted, hinverted⟩ := Document.inverse_isSome h
      exact ⟨_, congrArg (Option.map _) hinverted⟩
  | v2 document =>
      obtain ⟨inverted, hinverted⟩ := V2Document.inverse_isSome h
      exact ⟨_, congrArg (Option.map _) hinverted⟩
  | v3 document =>
      obtain ⟨inverted, hinverted⟩ := V3Document.inverse_isSome h
      exact ⟨_, congrArg (Option.map _) hinverted⟩

/-- A plan that returns a service to an archive. -/
def restores : PlanDocument → Bool
  | v2 (.restore _) => true
  | _ => false

/-- Except for a return, what undoes the undoing is the plan. -/
theorem inverse_inverse {plan rollback : PlanDocument} (hrestores : plan.restores = false)
    (h : plan.inverse = some rollback) : rollback.inverse = some plan := by
  cases plan with
  | v1 document =>
      obtain ⟨inverted, hinverted, rfl⟩ := Option.map_eq_some_iff.1 h
      exact congrArg (Option.map _) (Document.inverse_inverse hinverted)
  | v2 document =>
      obtain ⟨inverted, hinverted, rfl⟩ := Option.map_eq_some_iff.1 h
      have hgroup : document.group ≠ .restore := by
        cases document with
        | restore document => cases hrestores
        | _ document => exact nofun
      exact congrArg (Option.map _) (V2Document.inverse_inverse hgroup hinverted)
  | v3 document =>
      obtain ⟨inverted, hinverted, rfl⟩ := Option.map_eq_some_iff.1 h
      exact congrArg (Option.map _) (V3Document.inverse_inverse hinverted)

/-- A valid plan that returns a service names the one operation that does. -/
theorem operation_of_restores {plan : PlanDocument} (h : plan.validate = .ok ())
    (hrestores : plan.restores = true) : plan.head.operation = text "restore_service" := by
  have honly : ∀ entry ∈ operationGroups, entry.2 = OperationGroup.restore →
      entry.1 = text "restore_service" := by decide
  cases plan with
  | v2 document =>
      cases document with
      | restore document =>
          have hvalid : (V2Document.restore document).validate = .ok () := h
          have hgroup := (V2Document.head_of_validate hvalid).2
          exact honly _ (Json.mem_of_lookup hgroup) rfl
      | _ document => cases hrestores
  | _ document => cases hrestores

/-- What undoes a plan about archives is about archives. -/
theorem inverse_archives {plan rollback : PlanDocument} (h : plan.inverse = some rollback)
    (hoperation : plan.head.operation = text "snapshot_service" ∨
      plan.head.operation = text "restore_service") :
    rollback.head.operation = text "discard_snapshot" ∨
      rollback.head.operation = text "restore_service" := by
  have hhead : ∀ {table : List (Bytes × Bytes)} {head other : Head},
      (∀ entry ∈ table, (entry.1 = text "snapshot_service" ∨ entry.1 = text "restore_service") →
        entry.2 = text "discard_snapshot" ∨ entry.2 = text "restore_service") →
      head.inverse table = some other →
      (head.operation = text "snapshot_service" ∨ head.operation = text "restore_service") →
        other.operation = text "discard_snapshot" ∨ other.operation = text "restore_service" := by
    intro table head other htable hother hnamed
    obtain ⟨operation, hlookup, rfl⟩ := Option.map_eq_some_iff.1 hother
    exact htable _ (Json.mem_of_lookup hlookup) hnamed
  cases plan with
  | v1 document =>
      obtain ⟨inverted, hinverted, rfl⟩ := Option.map_eq_some_iff.1 h
      obtain ⟨head, hinverse, rfl⟩ := Option.map_eq_some_iff.1 hinverted
      exact hhead (by decide) hinverse hoperation
  | v2 document =>
      obtain ⟨inverted, hinverted, rfl⟩ := Option.map_eq_some_iff.1 h
      cases document with
      | restore document =>
          have hinverted : document.inverse = some inverted := hinverted
          unfold RestoreDocument.inverse at hinverted
          split at hinverted
          · rename_i hgroup
            cases hinverted
            rcases hoperation with hsnapshot | hrestore
            · have hname : document.operation = text "snapshot_service" := hsnapshot
              rw [hname] at hgroup
              exact absurd hgroup (by decide)
            · exact Or.inr hrestore
          · cases hinverted
      | _ document =>
          obtain ⟨head, hinverse, rfl⟩ := Option.map_eq_some_iff.1 hinverted
          exact hhead (by decide) hinverse hoperation
  | v3 document =>
      obtain ⟨inverted, hinverted, rfl⟩ := Option.map_eq_some_iff.1 h
      cases document with
      | _ document =>
          obtain ⟨head, hinverse, rfl⟩ := Option.map_eq_some_iff.1 hinverted
          exact hhead (by decide) hinverse hoperation

/-- A return is undone by a return to the reserved slot. -/
theorem inverse_restore {document : RestoreDocument}
    (hgroup : operationGroups.lookup document.operation = some .restore) :
    (v2 (.restore document)).inverse =
      some (v2 (.restore { document with snapshotSlot := reservedSnapshotSlot })) := by
  have hinverse : document.inverse =
      some (.restore { document with snapshotSlot := reservedSnapshotSlot }) := if_pos hgroup
  exact congrArg (Option.map v2) hinverse

/-- Undoing a plan keeps the machine it is for. -/
theorem inverse_target {plan rollback : PlanDocument} (h : plan.inverse = some rollback) :
    rollback.head.infrastructureID = plan.head.infrastructureID ∧
      rollback.head.machineID = plan.head.machineID := by
  have hheads : ∀ {table : List (Bytes × Bytes)} {head other : Head},
      head.inverse table = some other →
        other.infrastructureID = head.infrastructureID ∧ other.machineID = head.machineID := by
    intro table head other hother
    obtain ⟨operation, -, rfl⟩ := Option.map_eq_some_iff.1 hother
    exact ⟨rfl, rfl⟩
  cases plan with
  | v1 document =>
      obtain ⟨inverted, hinverted, rfl⟩ := Option.map_eq_some_iff.1 h
      obtain ⟨head, hhead, rfl⟩ := Option.map_eq_some_iff.1 hinverted
      exact hheads hhead
  | v2 document =>
      obtain ⟨inverted, hinverted, rfl⟩ := Option.map_eq_some_iff.1 h
      cases document with
      | restore document =>
          have hinverted : document.inverse = some inverted := hinverted
          unfold RestoreDocument.inverse at hinverted
          split at hinverted
          · cases hinverted
            exact ⟨rfl, rfl⟩
          · cases hinverted
      | _ document =>
          obtain ⟨head, hhead, rfl⟩ := Option.map_eq_some_iff.1 hinverted
          exact hheads hhead
  | v3 document =>
      obtain ⟨inverted, hinverted, rfl⟩ := Option.map_eq_some_iff.1 h
      cases document with
      | _ document =>
          obtain ⟨head, hhead, rfl⟩ := Option.map_eq_some_iff.1 hinverted
          exact hheads hhead

theorem inverse_schema {plan rollback : PlanDocument} (h : plan.inverse = some rollback) :
    rollback.schema = plan.schema := by
  cases plan with
  | _ document =>
      obtain ⟨inverted, -, rfl⟩ := Option.map_eq_some_iff.1 h
      rfl

/-- The operation of a valid plan is one an approval can name. -/
theorem operation_named {plan : PlanDocument} (h : plan.validate = .ok ()) :
    ∃ operation : Approval.Operation, plan.head.operation = operation.name := by
  have hnamed : ∀ {name : Bytes}, (Approval.Operation.ofName name).isSome = true →
      ∃ operation : Approval.Operation, name = operation.name := by
    intro name hname
    obtain ⟨operation, hoperation⟩ := Option.isSome_iff_exists.1 hname
    exact ⟨operation, Approval.Operation.name_of_ofName hoperation⟩
  apply hnamed
  cases plan with
  | v1 document =>
      have hall : ∀ entry ∈ inverseOperation,
          (Approval.Operation.ofName entry.1).isSome = true := by decide
      obtain ⟨_, -, h⟩ := bind_ok_iff.1 h
      obtain ⟨inverse, hlookup, -⟩ := bind_ok_iff.1 h
      exact hall _ (Json.mem_of_lookup (found_eq_ok.1 hlookup))
  | v2 document =>
      have hall : ∀ entry ∈ operationGroups,
          (Approval.Operation.ofName entry.1).isSome = true := by decide
      exact hall _ (Json.mem_of_lookup (V2Document.head_of_validate h).2)
  | v3 document =>
      have hall : ∀ entry ∈ linkOperationGroups,
          (Approval.Operation.ofName entry.1).isSome = true := by decide
      exact hall _ (Json.mem_of_lookup (V3Document.head_of_validate h).2)

/-- A return to the reserved slot is its own undoing. -/
theorem inverse_reserved {document : RestoreDocument} {rollback : PlanDocument}
    (hslot : document.snapshotSlot = reservedSnapshotSlot)
    (h : (v2 (.restore document)).inverse = some rollback) :
    rollback = v2 (.restore document) := by
  obtain ⟨inverted, hinverted, rfl⟩ := Option.map_eq_some_iff.1 h
  have hsame : { document with snapshotSlot := reservedSnapshotSlot } = document := by
    rw [← hslot]
  have hinverted : document.inverse = some inverted := hinverted
  unfold RestoreDocument.inverse at hinverted
  split at hinverted
  · rw [hsame] at hinverted
    rw [← Option.some.inj hinverted]
  · cases hinverted

end PlanDocument

/-! ## What was built -/

/-- A plan that is valid, and the other plan that undoes it. -/
structure Undoing (pair : Pair PlanDocument) : Prop where
  plan : pair.plan.validate = .ok ()
  rollback : pair.rollback.validate = .ok ()
  inverse : pair.plan.inverse = some pair.rollback
  apart : pair.rollback ≠ pair.plan

/-- A return that has another undoing than itself names no reserved slot. -/
theorem Undoing.not_reserved {pair : Pair PlanDocument} (h : Undoing pair)
    {document : RestoreDocument} (hplan : pair.plan = .v2 (.restore document)) :
    document.snapshotSlot ≠ reservedSnapshotSlot := by
  intro hslot
  have hinverse := h.inverse
  rw [hplan] at hinverse
  have hsame := PlanDocument.inverse_reserved hslot hinverse
  exact h.apart (hsame.trans hplan.symm)

theorem buildPair_ok {operation infrastructureID machineID : Bytes} {localPort : Int}
    {pair : Pair Document} (h : buildPair operation infrastructureID machineID localPort = .ok pair) :
    Undoing (pair.map .v1) := by
  obtain ⟨inverse, hinverse, h⟩ := bind_ok_iff.1 h
  obtain ⟨_, hplan, h⟩ := bind_ok_iff.1 h
  obtain ⟨_, hrollback, h⟩ := bind_ok_iff.1 h
  cases h
  have hlookup := found_eq_ok.1 hinverse
  have hapart : ∀ entry ∈ inverseOperation, entry.2 ≠ entry.1 := by decide
  refine ⟨hplan, hrollback, ?_, ?_⟩
  · exact congrArg (Option.map _) (congrArg (Option.map _) (congrArg (Option.map _) hlookup))
  · intro hsame
    have hoperation := congrArg (fun plan => plan.head.operation) hsame
    exact hapart _ (Json.mem_of_lookup hlookup) hoperation

theorem buildV2Pair_ok {subject : V2Document} {pair : Pair V2Document}
    (h : buildV2Pair subject = .ok pair) : pair.plan = subject ∧ Undoing (pair.map .v2) := by
  obtain ⟨_, hplan, h⟩ := bind_ok_iff.1 h
  obtain ⟨rollback, hinverse, h⟩ := bind_ok_iff.1 h
  obtain ⟨_, hrollback, h⟩ := bind_ok_iff.1 h
  obtain ⟨_, hapart, h⟩ := bind_ok_iff.1 h
  cases h
  have hapart : rollback ≠ subject := of_decide_eq_true (demand_eq_ok.1 hapart)
  refine ⟨rfl, hplan, hrollback, congrArg (Option.map _) (found_eq_ok.1 hinverse), ?_⟩
  exact fun hsame => hapart (PlanDocument.v2.inj hsame)

/-- No document of schema 3 undoes itself. -/
theorem V3Document.inverse_ne {document inverted : V3Document}
    (h : document.inverse = some inverted) : inverted ≠ document := by
  have hapart : ∀ entry ∈ inverseOperationV3, entry.2 ≠ entry.1 := by decide
  have hheads : ∀ {head other : Head}, head.inverse inverseOperationV3 = some other →
      other.operation ≠ head.operation := by
    intro head other hother
    obtain ⟨operation, hlookup, rfl⟩ := Option.map_eq_some_iff.1 hother
    exact hapart _ (Json.mem_of_lookup hlookup)
  cases document with
  | _ document =>
      obtain ⟨other, hother, rfl⟩ := Option.map_eq_some_iff.1 h
      exact fun hsame => hheads hother (congrArg (fun document => document.head.operation) hsame)

theorem buildV3Pair_ok {subject : V3Document} {pair : Pair V3Document}
    (h : buildV3Pair subject = .ok pair) : pair.plan = subject ∧ Undoing (pair.map .v3) := by
  obtain ⟨_, hplan, h⟩ := bind_ok_iff.1 h
  obtain ⟨rollback, hinverse, h⟩ := bind_ok_iff.1 h
  obtain ⟨_, hrollback, h⟩ := bind_ok_iff.1 h
  cases h
  have hinverse := found_eq_ok.1 hinverse
  refine ⟨rfl, hplan, hrollback, congrArg (Option.map _) hinverse, ?_⟩
  exact fun hsame => V3Document.inverse_ne hinverse (PlanDocument.v3.inj hsame)

/-- A pair and the definition, if any, that its plan was built from. -/
structure BuildCall.Built (call : BuildCall) (pair : Pair PlanDocument) : Prop
    extends Undoing pair where
  agrees : ∀ document, pair.plan = .v2 (.userService document) →
    ∃ definition, call.definition = some definition ∧ Agree document definition

/-- A pair of schema 2 whose builder needs no definition. -/
private theorem built_v2 {call : BuildCall} {subject : V2Document} {inner : Pair V2Document}
    (h : buildV2Pair subject = .ok inner) (hgroup : subject.group ≠ .userService) :
    call.Built (inner.map .v2) := by
  obtain ⟨hplan, hundoing⟩ := buildV2Pair_ok h
  refine ⟨hundoing, fun document hdocument => ?_⟩
  have hsubject : subject = .userService document := by
    rw [← hplan]
    exact PlanDocument.v2.inj hdocument
  rw [hsubject] at hgroup
  exact absurd rfl hgroup

private theorem built_v3 {call : BuildCall} {subject : V3Document} {inner : Pair V3Document}
    (h : buildV3Pair subject = .ok inner) : call.Built (inner.map .v3) :=
  ⟨(buildV3Pair_ok h).2, fun _ hdocument => nomatch hdocument⟩

/-- What stands behind a pair that was built. -/
theorem BuildCall.build_ok {call : BuildCall} {pair : Pair PlanDocument}
    (hbuild : call.build = .ok pair) : call.Built pair := by
  cases call <;> obtain ⟨inner, h, rfl⟩ := map_ok_iff.1 hbuild
  case probe => exact ⟨buildPair_ok h, fun _ hdocument => nomatch hdocument⟩
  case webService =>
    obtain ⟨image, -, h⟩ := bind_ok_iff.1 h
    exact built_v2 h nofun
  case entrypoint => exact built_v2 h nofun
  case route => exact built_v2 h nofun
  case privateService =>
    obtain ⟨image, -, h⟩ := bind_ok_iff.1 h
    exact built_v2 h nofun
  case linkRoute => exact built_v2 h nofun
  case snapshot =>
    obtain ⟨_, -, h⟩ := bind_ok_iff.1 h
    exact built_v2 h nofun
  case restore =>
    obtain ⟨_, -, h⟩ := bind_ok_iff.1 h
    obtain ⟨_, -, h⟩ := bind_ok_iff.1 h
    exact built_v2 h nofun
  case userService operation infrastructureID machineID definition imageDigest localPort
      originHost =>
    obtain ⟨digest, -, h⟩ := bind_ok_iff.1 h
    obtain ⟨_, hagreement, h⟩ := bind_ok_iff.1 h
    obtain ⟨hplan, hundoing⟩ := buildV2Pair_ok h
    refine ⟨hundoing, fun document hdocument => ⟨definition, rfl, ?_⟩⟩
    have hsubject := hplan.symm.trans (PlanDocument.v2.inj hdocument)
    rw [← V2Document.userService.inj hsubject]
    exact (requireDefinitionAgreement_iff.1 hagreement).2
  case link => exact built_v3 h
  case listenerPeer => exact built_v3 h
  case initiatorPeer => exact built_v3 h

/-! ## What was frozen -/

def PlanDocument.transcript : PlanDocument → Except Sentence Bytes
  | v1 document => document.transcript
  | v2 document => document.transcript
  | v3 document => document.transcript

theorem PlanDocument.sha256_eq (plan : PlanDocument) : plan.sha256 = digestOf plan.transcript := by
  cases plan <;> rfl

/-- A plan among the documents that digests are taken over. -/
def PlanDocument.transcribed : PlanDocument → Transcribed
  | v1 document => .probe document
  | v2 document => .schema2 document
  | v3 document => .schema3 document

theorem PlanDocument.admitted {plan : PlanDocument} (h : plan.validate = .ok ()) :
    plan.transcribed.Admitted := by
  cases plan <;> exact h

theorem PlanDocument.transcribed_transcript (plan : PlanDocument) :
    plan.transcribed.transcript = plan.transcript.toOption := by
  cases plan <;> rfl

/-- Valid plans with one transcript are one plan. -/
theorem PlanDocument.transcript_inj {plan other : PlanDocument} (h : plan.validate = .ok ())
    (hother : other.validate = .ok ()) (hsame : plan.transcript = other.transcript) :
    plan = other := by
  have htranscript : plan.transcribed.transcript = other.transcribed.transcript := by
    rw [transcribed_transcript, transcribed_transcript, hsame]
  have htranscribed := (one_document (admitted h) (admitted hother)).2 htranscript
  cases plan <;> cases other <;> cases htranscribed <;> rfl

/-- What is frozen of a pair: canonical documents, and the digests of two transcripts. -/
structure Pair.FrozenAs (pair : Pair PlanDocument) (frozen : Frozen) : Prop where
  planDocument : frozen.planDocument = pair.plan.canonical
  planSHA256 : pair.plan.sha256 = .ok frozen.planSHA256
  rollbackDocument : frozen.rollbackDocument = pair.rollback.canonical
  rollbackSHA256 : pair.rollback.sha256 = .ok frozen.rollbackSHA256

theorem Undoing.freeze_ok {pair : Pair PlanDocument} (h : Undoing pair) :
    ∃ frozen, pair.freeze = .ok frozen ∧ pair.FrozenAs frozen := by
  obtain ⟨planSHA256, hplan⟩ := PlanDocument.sha256_isOk h.plan
  obtain ⟨rollbackSHA256, hrollback⟩ := PlanDocument.sha256_isOk h.rollback
  refine ⟨⟨_, planSHA256, _, rollbackSHA256⟩, ?_, rfl, hplan, rfl, hrollback⟩
  unfold Pair.freeze
  refine bind_ok_iff.2 ⟨_, PlanDocument.encode_eq h.plan, bind_ok_iff.2 ⟨_, hplan, ?_⟩⟩
  exact bind_ok_iff.2 ⟨_, PlanDocument.encode_eq h.rollback, bind_ok_iff.2 ⟨_, hrollback, rfl⟩⟩

/-- The two digests of a pair are taken over two transcripts. -/
theorem Undoing.transcripts_ne {pair : Pair PlanDocument} (h : Undoing pair) :
    pair.plan.transcript ≠ pair.rollback.transcript :=
  fun hsame => h.apart (PlanDocument.transcript_inj h.plan h.rollback hsame).symm

end YourCloud.Plan
