import YourCloud.Auxiliary.Host
import YourCloud.Auxiliary.UnitState

/-!
# What an approved instance is about

The operation of an approved instance and what it is about agree: a service has a
placement of this package's own, whose sheet lies with its account, and a route has a
name that one line can hold.  The two halves of an approved pair are one instance
under an operation and its opposite.

## Main results

* `approved_opposed` — the two halves of an approved pair that is not about archives.
-/

namespace YourCloud.Auxiliary

open YourCloud.Foundation
open YourCloud.Plan (Schema PlanDocument V2Document V3Document UserServiceDocument OperationGroup
  LinkOperationGroup Pair)

/-! ## Placements -/

/-- A service whose sheet lies with its account, and says what it runs in one line each. -/
structure WellPlaced (placement : Placement) : Prop where
  unitPath : placement.unitPath = sheetPathOf placement.account
  description : 0x0A ∉ placement.description
  image : 0x0A ∉ placement.image

/-- The accounts whose sheets decide who is confined. -/
def Watched (account : Bytes) : Prop :=
  account = vaultwardenAccount ∨ ∃ slug, validateSlug slug = true ∧ account = userServiceAccount slug

/-- One whose account is confined. -/
structure Confinable (placement : Placement) : Prop extends WellPlaced placement where
  confined : placement.confined = true
  watched : Watched placement.account

theorem wellPlaced_probe : WellPlaced probePlacement :=
  ⟨unitPath_named rfl rfl, by decide, by decide⟩

theorem wellPlaced_bentoPDF : WellPlaced bentoPDFPlacement :=
  ⟨unitPath_named rfl rfl, by decide, by decide⟩

theorem confinable_vaultwarden : Confinable vaultwardenPlacement where
  unitPath := unitPath_named rfl rfl
  description := by decide
  image := by decide
  confined := rfl
  watched := Or.inl rfl

/-! ### The image of a definition -/

theorem newline_digest {digest : Bytes} (h : Plan.canonicalOCIDigest digest = true) :
    0x0A ∉ digest := by
  rw [Plan.canonicalOCIDigest, Bool.and_eq_true] at h
  obtain ⟨rest, rfl⟩ := List.isPrefixOf_iff_prefix.1 h.1
  have hword : (0x0A : UInt8) ∉ text "sha256:" := by decide
  have hrest : Approval.canonicalDigest rest = true := by
    have hdigest := h.2
    rwa [show (7 : Nat) = (text "sha256:").length from by decide, List.drop_left] at hdigest
  rw [List.mem_append]
  rintro (hmem | hmem)
  · exact hword hmem
  · rw [Approval.canonicalDigest, exactly, Bool.and_eq_true, List.all_eq_true] at hrest
    exact absurd (hrest.2 _ hmem) (by decide)

theorem newline_slug {slug : Bytes} (h : validateSlug slug = true) : 0x0A ∉ slug := by
  intro hmem
  have hcanonical : canonicalSlug slug = true := (Bool.and_eq_true _ _ ▸ h).1
  simp only [canonicalSlug, Bool.and_eq_true, List.all_eq_true] at hcanonical
  exact absurd (hcanonical.1.2 _ hmem) (by decide)

/-- An accepted placement of a user service. -/
theorem confinable_userService {document : UserServiceDocument} {carried : Bytes}
    {placement : Placement} (h : userServicePlacementFor document carried = .ok placement) :
    Confinable placement := by
  obtain ⟨definition, hdecode, hvalid, hagree, rfl⟩ := userServicePlacementFor_iff.1 h
  have hdefinition := ServiceDefinition.decode_valid hdecode
  obtain ⟨_, -, hdefinition⟩ := bind_ok_iff.1 hdefinition
  obtain ⟨_, hslug, hdefinition⟩ := bind_ok_iff.1 hdefinition
  obtain ⟨_, hrepository, -⟩ := bind_ok_iff.1 hdefinition
  have hslug := validateSlug_of_plan hslug
  have hdigest : Plan.canonicalOCIDigest document.imageDigest = true := by
    obtain ⟨_, -, hvalid⟩ := bind_ok_iff.1 hvalid
    obtain ⟨_, -, hvalid⟩ := bind_ok_iff.1 hvalid
    obtain ⟨_, -, hvalid⟩ := bind_ok_iff.1 hvalid
    obtain ⟨_, -, hvalid⟩ := bind_ok_iff.1 hvalid
    obtain ⟨_, hdigest, -⟩ := bind_ok_iff.1 hvalid
    exact demand_eq_ok.1 hdigest
  constructor
  · constructor
    · exact unitPath_named rfl rfl
    · have hopening : (0x0A : UInt8) ∉ text "Your Cloud managed " := by decide
      have hending : (0x0A : UInt8) ∉ text " user service" := by decide
      show 0x0A ∉ text "Your Cloud managed " ++ definition.slug ++ text " user service"
      simp [hopening, hending, newline_slug hslug]
    · have hat : (0x0A : UInt8) ∉ text "@" := by decide
      show 0x0A ∉ definition.imageRepository ++ text "@" ++ document.imageDigest
      have hrepository : 0x0A ∉ definition.imageRepository :=
        (ServiceDefinition.repository_bytes hrepository).not_mem (by decide)
      simp [hat, hrepository, newline_digest hdigest]
  · rfl
  · exact Or.inr ⟨definition.slug, hslug, rfl⟩

/-! ## Instances -/

/-- The operation that takes back what another one does. -/
def undone : Approval.Operation → Approval.Operation
  | .diagnoseProtocolReadOnly => .diagnoseProtocolReadOnly
  | .deployOCIProbe => .removeOCIProbe
  | .removeOCIProbe => .deployOCIProbe
  | .deployWebService => .removeWebService
  | .removeWebService => .deployWebService
  | .deployEntrypoint => .removeEntrypoint
  | .removeEntrypoint => .deployEntrypoint
  | .publishRoute => .retireRoute
  | .retireRoute => .publishRoute
  | .prepareLink => .withdrawLink
  | .withdrawLink => .prepareLink
  | .attachLinkPeer => .detachLinkPeer
  | .detachLinkPeer => .attachLinkPeer
  | .joinLinkPeer => .leaveLinkPeer
  | .leaveLinkPeer => .joinLinkPeer
  | .deployPrivateService => .removePrivateService
  | .removePrivateService => .deployPrivateService
  | .publishLinkRoute => .retireLinkRoute
  | .retireLinkRoute => .publishLinkRoute
  | .snapshotService => .discardSnapshot
  | .discardSnapshot => .snapshotService
  | .restoreService => .restoreService
  | .deployUserService => .removeUserService
  | .removeUserService => .deployUserService

/-- What an operation is about is what it needs. -/
def Sited (subject : Instance) : Prop :=
  match subject.operation with
  | .deployOCIProbe | .removeOCIProbe | .deployWebService | .removeWebService =>
      WellPlaced subject.placement
  | .deployEntrypoint | .removeEntrypoint => subject.placement = entrypointPlacement
  | .publishRoute | .retireRoute | .publishLinkRoute | .retireLinkRoute =>
      Plan.canonicalRouteHost subject.routeHost = true
  | .deployPrivateService | .removePrivateService | .deployUserService | .removeUserService =>
      Confinable subject.placement
  | _ => True

/-- The same instance under the opposite operation. -/
def Reversed (requested rollback : Instance) : Prop :=
  rollback = { requested with operation := undone requested.operation }

/-- The operations of a group of plans. -/
def operationsOf : OperationGroup → List Approval.Operation
  | .webService => [.deployWebService, .removeWebService]
  | .entrypoint => [.deployEntrypoint, .removeEntrypoint]
  | .route => [.publishRoute, .retireRoute]
  | .privateService => [.deployPrivateService, .removePrivateService]
  | .linkRoute => [.publishLinkRoute, .retireLinkRoute]
  | .snapshot => [.snapshotService, .discardSnapshot]
  | .restore => [.restoreService]
  | .userService => [.deployUserService, .removeUserService]

theorem operationOf_group {head : Plan.Head} {group : OperationGroup}
    (h : Plan.operationGroups.lookup head.operation = some group) :
    operationOf head ∈ operationsOf group := by
  have hall : ∀ entry ∈ Plan.operationGroups,
      (Approval.Operation.ofName entry.1).getD .diagnoseProtocolReadOnly ∈ operationsOf entry.2 := by
    decide
  exact hall _ (Json.mem_of_lookup h)

theorem operationOf_linkGroup {head : Plan.Head} {group : LinkOperationGroup}
    (h : Plan.linkOperationGroups.lookup head.operation = some group) :
    operationOf head ∈ [Approval.Operation.prepareLink, .withdrawLink, .attachLinkPeer,
      .detachLinkPeer, .joinLinkPeer, .leaveLinkPeer] := by
  have hall : ∀ entry ∈ Plan.linkOperationGroups,
      (Approval.Operation.ofName entry.1).getD .diagnoseProtocolReadOnly ∈
        [Approval.Operation.prepareLink, .withdrawLink, .attachLinkPeer, .detachLinkPeer,
          .joinLinkPeer, .leaveLinkPeer] := by
    decide
  exact hall _ (Json.mem_of_lookup h)

/-- The three tables of opposite operations are parts of one. -/
theorem operationOf_inverse {head inverted : Plan.Head} {table : List (Bytes × Bytes)}
    (htable : table ∈ [Plan.inverseOperation, Plan.inverseOperationV2, Plan.inverseOperationV3])
    (h : head.inverse table = some inverted) : operationOf inverted = undone (operationOf head) := by
  have hall : ∀ table ∈ [Plan.inverseOperation, Plan.inverseOperationV2, Plan.inverseOperationV3],
      ∀ entry ∈ table, (Approval.Operation.ofName entry.2).getD .diagnoseProtocolReadOnly =
        undone ((Approval.Operation.ofName entry.1).getD .diagnoseProtocolReadOnly) := by
    decide
  obtain ⟨operation, hlookup, rfl⟩ := Option.map_eq_some_iff.1 h
  exact hall _ htable _ (Json.mem_of_lookup hlookup)

/-! ### Of each shape -/

variable {definitionDocument : Option Bytes} {requested rollback : Instance}

theorem sited_of_mem {subject : Instance} {operations : List Approval.Operation}
    (hmem : subject.operation ∈ operations)
    (h : ∀ operation ∈ operations, Sited { subject with operation }) : Sited subject :=
  h subject.operation hmem

theorem reversed_of (hsame : rollback = { requested with operation := rollback.operation })
    (h : rollback.operation = undone requested.operation) : Reversed requested rollback := by
  rw [Reversed, ← h]
  exact hsame

/-- Everything of a placed pair that is not about archives. -/
def Opposed (requested rollback : Instance) : Prop :=
  requested.operation ∉ aboutArchives → Reversed requested rollback ∧ Sited requested

theorem placementFor_wellPlaced {document : Plan.WebServiceDocument} {placement : Placement}
    (h : placementFor document = .ok placement) : WellPlaced placement := by
  have hall : ∀ entry ∈ profilePlacements, entry.2 = bentoPDFPlacement := by decide
  obtain ⟨_, hfound, h⟩ := bind_ok_iff.1 h
  obtain ⟨_, -, h⟩ := bind_ok_iff.1 h
  cases h
  have hplacement : placement = bentoPDFPlacement :=
    hall _ (Json.mem_of_lookup (found_eq_ok.1 hfound))
  rw [hplacement]
  exact wellPlaced_bentoPDF

theorem privatePlacementFor_confinable {document : Plan.PrivateServiceDocument}
    {placement : Placement} (hvalid : document.validate = .ok ())
    (h : privatePlacementFor document = .ok placement) : Confinable placement := by
  have hall : ∀ entry ∈ Plan.privateProfileImage,
      (archivedPlacementFor entry.1).toOption = some vaultwardenPlacement := by decide
  obtain ⟨_, -, hvalid⟩ := bind_ok_iff.1 hvalid
  obtain ⟨image, himage, -⟩ := bind_ok_iff.1 hvalid
  have hprofile := hall _ (Json.mem_of_lookup (found_eq_ok.1 himage))
  obtain ⟨other, hfound, h⟩ := bind_ok_iff.1 h
  obtain ⟨_, -, h⟩ := bind_ok_iff.1 h
  cases h
  have hfound := Plan.mapError_eq_ok.1 hfound
  rw [hfound] at hprofile
  rw [Option.some.inj hprofile]
  exact confinable_vaultwarden

theorem placeServices_opposed {subject undoing : V2Document} (h : subject.validate = .ok ())
    (hinverse : subject.inverse = some undoing)
    (hplaced : placeServices definitionDocument subject undoing = .ok (requested, rollback)) :
    Opposed requested rollback := by
  have hgroup := operationOf_group (V2Document.head_of_validate h).2
  intro harchives
  cases subject with
  | webService document =>
      obtain ⟨head, hhead, rfl⟩ := Option.map_eq_some_iff.1 hinverse
      obtain ⟨placement, hplacement, hplaced⟩ := bind_ok_iff.1 hplaced
      cases hplaced
      refine ⟨reversed_of rfl (operationOf_inverse (by simp) hhead), ?_⟩
      apply sited_of_mem (show operationOf document.toHead ∈ operationsOf .webService from hgroup)
      have hwell := placementFor_wellPlaced hplacement
      simp only [operationsOf, List.forall_mem_cons]
      exact ⟨hwell, hwell, List.forall_mem_nil _⟩
  | entrypoint document =>
      obtain ⟨head, hhead, rfl⟩ := Option.map_eq_some_iff.1 hinverse
      obtain ⟨_, -, hplaced⟩ := bind_ok_iff.1 hplaced
      cases hplaced
      refine ⟨reversed_of rfl (operationOf_inverse (by simp) hhead), ?_⟩
      apply sited_of_mem (show operationOf document.toHead ∈ operationsOf .entrypoint from hgroup)
      simp only [operationsOf, List.forall_mem_cons]
      exact ⟨rfl, rfl, List.forall_mem_nil _⟩
  | route document =>
      obtain ⟨head, hhead, rfl⟩ := Option.map_eq_some_iff.1 hinverse
      obtain ⟨_, -, hplaced⟩ := bind_ok_iff.1 hplaced
      cases hplaced
      refine ⟨reversed_of rfl (operationOf_inverse (by simp) hhead), ?_⟩
      apply sited_of_mem (show operationOf document.toHead ∈ operationsOf .route from hgroup)
      have hhost : Plan.canonicalRouteHost document.routeHost = true := by
        obtain ⟨_, -, h⟩ := bind_ok_iff.1 h
        obtain ⟨_, hbound, -⟩ := bind_ok_iff.1 h
        obtain ⟨_, hhost, -⟩ := bind_ok_iff.1 hbound
        exact demand_eq_ok.1 hhost
      simp only [operationsOf, List.forall_mem_cons]
      exact ⟨hhost, hhost, List.forall_mem_nil _⟩
  | privateService document =>
      obtain ⟨head, hhead, rfl⟩ := Option.map_eq_some_iff.1 hinverse
      obtain ⟨placement, hplacement, hplaced⟩ := bind_ok_iff.1 hplaced
      cases hplaced
      refine ⟨reversed_of rfl (operationOf_inverse (by simp) hhead), ?_⟩
      apply sited_of_mem (show operationOf document.toHead ∈ operationsOf .privateService from hgroup)
      have hconfinable := privatePlacementFor_confinable h hplacement
      simp only [operationsOf, List.forall_mem_cons]
      exact ⟨hconfinable, hconfinable, List.forall_mem_nil _⟩
  | linkRoute document =>
      obtain ⟨head, hhead, rfl⟩ := Option.map_eq_some_iff.1 hinverse
      obtain ⟨_, -, hplaced⟩ := bind_ok_iff.1 hplaced
      cases hplaced
      refine ⟨reversed_of rfl (operationOf_inverse (by simp) hhead), ?_⟩
      apply sited_of_mem (show operationOf document.toHead ∈ operationsOf .linkRoute from hgroup)
      have hhost : Plan.canonicalRouteHost document.routeHost = true := by
        obtain ⟨_, -, h⟩ := bind_ok_iff.1 h
        obtain ⟨_, hbound, -⟩ := bind_ok_iff.1 h
        obtain ⟨_, hhost, -⟩ := bind_ok_iff.1 hbound
        exact demand_eq_ok.1 hhost
      simp only [operationsOf, List.forall_mem_cons]
      exact ⟨hhost, hhost, List.forall_mem_nil _⟩
  | snapshot document =>
      obtain ⟨head, hhead, rfl⟩ := Option.map_eq_some_iff.1 hinverse
      obtain ⟨placement, -, hplaced⟩ := bind_ok_iff.1 hplaced
      cases hplaced
      have hsubset : operationsOf .snapshot ⊆ aboutArchives := by decide
      exact absurd (hsubset hgroup) harchives
  | restore document =>
      cases undoing with
      | restore other =>
          obtain ⟨placement, -, hplaced⟩ := bind_ok_iff.1 hplaced
          cases hplaced
          have hsubset : operationsOf .restore ⊆ aboutArchives := by decide
          exact absurd (hsubset hgroup) harchives
      | _ other => cases hplaced
  | userService document =>
      obtain ⟨head, hhead, rfl⟩ := Option.map_eq_some_iff.1 hinverse
      obtain ⟨placement, hplacement, hplaced⟩ := bind_ok_iff.1 hplaced
      cases hplaced
      refine ⟨reversed_of rfl (operationOf_inverse (by simp) hhead), ?_⟩
      apply sited_of_mem (show operationOf document.toHead ∈ operationsOf .userService from hgroup)
      have hconfinable := confinable_userService hplacement
      simp only [operationsOf, List.forall_mem_cons]
      exact ⟨hconfinable, hconfinable, List.forall_mem_nil _⟩

theorem placeProbes_opposed {subject undoing : Plan.Document}
    (hinverse : subject.inverse = some undoing)
    (hplaced : placeProbes subject undoing = .ok (requested, rollback)) :
    Opposed requested rollback := by
  intro _
  obtain ⟨head, hhead, rfl⟩ := Option.map_eq_some_iff.1 hinverse
  cases hplaced
  refine ⟨reversed_of rfl (operationOf_inverse (by simp) hhead), ?_⟩
  have hall : ∀ entry ∈ Plan.inverseOperation,
      (Approval.Operation.ofName entry.1).getD .diagnoseProtocolReadOnly ∈
        [Approval.Operation.deployOCIProbe, .removeOCIProbe] := by
    decide
  obtain ⟨operation, hlookup, -⟩ := Option.map_eq_some_iff.1 hhead
  show Sited (probeInstance subject)
  apply sited_of_mem (hall _ (Json.mem_of_lookup hlookup))
  simp only [List.forall_mem_cons]
  exact ⟨wellPlaced_probe, wellPlaced_probe, List.forall_mem_nil _⟩

/-- An instance of the passage is about the passage alone. -/
theorem sited_link {subject : Instance}
    (h : subject.operation ∈ [Approval.Operation.prepareLink, .withdrawLink, .attachLinkPeer,
      .detachLinkPeer, .joinLinkPeer, .leaveLinkPeer]) : Sited subject := by
  apply sited_of_mem h
  simp only [List.forall_mem_cons]
  exact ⟨trivial, trivial, trivial, trivial, trivial, trivial, List.forall_mem_nil _⟩

theorem placeLinks_opposed {subject undoing : V3Document} (h : subject.validate = .ok ())
    (hinverse : subject.inverse = some undoing)
    (hplaced : placeLinks subject undoing = .ok (requested, rollback)) :
    Opposed requested rollback := by
  have hgroup := operationOf_linkGroup (V3Document.head_of_validate h).2
  intro _
  cases subject with
  | link document =>
      obtain ⟨head, hhead, rfl⟩ := Option.map_eq_some_iff.1 hinverse
      obtain ⟨_, -, hplaced⟩ := bind_ok_iff.1 hplaced
      cases hplaced
      exact ⟨reversed_of rfl (operationOf_inverse (by simp) hhead), sited_link hgroup⟩
  | listenerPeer document =>
      obtain ⟨head, hhead, rfl⟩ := Option.map_eq_some_iff.1 hinverse
      cases hplaced
      exact ⟨reversed_of rfl (operationOf_inverse (by simp) hhead), sited_link hgroup⟩
  | initiatorPeer document =>
      obtain ⟨head, hhead, rfl⟩ := Option.map_eq_some_iff.1 hinverse
      cases hplaced
      exact ⟨reversed_of rfl (operationOf_inverse (by simp) hhead), sited_link hgroup⟩

/-- An approved pair is one instance under an operation and its opposite, and the operation is
about what the instance is. -/
theorem approved_opposed {accepted : Acceptance} {planDocument rollbackDocument : Bytes}
    (happroved : approvedInstances accepted planDocument rollbackDocument definitionDocument =
      .ok (requested, rollback)) : Opposed requested rollback := by
  obtain ⟨⟨plan, undoing⟩, hcarried⟩ := approvedInstances_iff.1 happroved
  have hvalid := (Schema.decode_ok hcarried.plan).2.1
  have hplaced := hcarried.placed
  cases plan with
  | v1 document =>
      obtain ⟨inverted, hinverse, rfl⟩ := Option.map_eq_some_iff.1 hcarried.inverse
      exact placeProbes_opposed hinverse hplaced
  | v2 document =>
      obtain ⟨inverted, hinverse, rfl⟩ := Option.map_eq_some_iff.1 hcarried.inverse
      exact placeServices_opposed hvalid hinverse hplaced
  | v3 document =>
      obtain ⟨inverted, hinverse, rfl⟩ := Option.map_eq_some_iff.1 hcarried.inverse
      exact placeLinks_opposed hvalid hinverse hplaced

end YourCloud.Auxiliary
