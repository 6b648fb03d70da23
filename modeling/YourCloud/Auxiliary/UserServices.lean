import YourCloud.Auxiliary.Placement
import YourCloud.Plan.Agreement

/-!
# Placing a user service

A user service is placed from the definition that its plan pins.  The definition
travels beside the plan and is believed in nothing: it is read and checked, its
digest is taken again, and plan and definition are then held against each other by
the rule that the Controller held when it froze the plan.

## Main results

* `userServicePlacement_accepted` — a placement is accepted exactly where plan and
  definition agree, and no brace is left in its environment.
-/

namespace YourCloud.Auxiliary

open YourCloud.Foundation
open ServiceDefinition (Inert originHostPlaceholder replaceAll)

/-- The definition's own lines with the one interpolation this product has. -/
def interpolatedEnvironment (definition : ServiceDefinition.Document) (originHost : Bytes) :
    List Bytes :=
  if originHost = [] then definition.environment
  else definition.environment.map (replaceAll originHostPlaceholder originHost)

/-- The placement of one revision of a user service.  One that declares no volume keeps
nothing. -/
def userServicePlacementOf (definition : ServiceDefinition.Document)
    (imageDigest originHost : Bytes) : Placement :=
  let slug := userServicePlacementOfSlug definition.slug
  let volumes := definition.volumes.map fun containerPath =>
    { host := slug.dataDirectory ++ containerPath, container := containerPath : VolumeMount }
  { slug with
    image := definition.imageRepository ++ text "@" ++ imageDigest
    containerPort := Int64.ofInt definition.containerPort
    writablePaths := definition.tmpfs
    environment := interpolatedEnvironment definition originHost
    secretKeys := definition.secretKeys
    volumes
    dataDirectory := if volumes = [] then [] else slug.dataDirectory
    snapshotDirectory := if volumes = [] then [] else slug.snapshotDirectory }

/-- Where one approved user service lives on this machine. -/
def userServicePlacementFor (document : Plan.UserServiceDocument) (carried : Bytes) :
    Except Sentence Placement := do
  demand (carried.length ≠ 0)
    (say ("the approved plan pins a service definition and none travelled with it: a user service " ++
      "cannot be placed without the revision it names"))
  let definition ← (ServiceDefinition.verify carried document.definitionDigest).mapError
    (say "carried definition: " ++ ·)
  Plan.requireDefinitionAgreement document definition
  return userServicePlacementOf definition document.imageDigest document.originHost

/-- What an accepted placement was derived from. -/
theorem userServicePlacementFor_iff {document : Plan.UserServiceDocument} {carried : Bytes}
    {placement : Placement} :
    userServicePlacementFor document carried = .ok placement ↔
      ∃ definition, ServiceDefinition.decode carried = .ok definition ∧
        document.validate = .ok () ∧ Plan.Agree document definition ∧
        userServicePlacementOf definition document.imageDigest document.originHost = placement := by
  constructor
  · intro h
    obtain ⟨_, -, h⟩ := bind_ok_iff.1 h
    obtain ⟨definition, hverified, h⟩ := bind_ok_iff.1 h
    obtain ⟨_, hagreement, h⟩ := bind_ok_iff.1 h
    obtain ⟨hdecode, -⟩ := ServiceDefinition.verify_iff.1 (Plan.mapError_eq_ok.1 hverified)
    obtain ⟨hvalid, hagree⟩ := Plan.requireDefinitionAgreement_iff.1 hagreement
    exact ⟨definition, hdecode, hvalid, hagree, Except.ok.inj h⟩
  · rintro ⟨definition, hdecode, hvalid, hagree, rfl⟩
    unfold userServicePlacementFor
    have hcarried : carried.length ≠ 0 := by
      obtain ⟨_, hsize, -⟩ := bind_ok_iff.1 hdecode
      have hsize := demand_eq_ok.1 hsize
      rw [Bool.and_eq_true, decide_eq_true_eq] at hsize
      exact hsize.1
    refine bind_ok_iff.2 ⟨(), demand_eq_ok.2 (decide_eq_true hcarried), ?_⟩
    refine bind_ok_iff.2 ⟨definition,
      Plan.mapError_eq_ok.2 (ServiceDefinition.verify_iff.2 ⟨hdecode, hagree.digest⟩), ?_⟩
    exact bind_ok_iff.2 ⟨(), Plan.requireDefinitionAgreement_iff.2 ⟨hvalid, hagree⟩, rfl⟩

/-- No line that was interpolated has a brace. -/
theorem interpolatedEnvironment_inert {document : Plan.UserServiceDocument}
    {definition : ServiceDefinition.Document} (hdefinition : definition.validate = .ok ())
    (hplan : document.validate = .ok ()) (hagree : Plan.Agree document definition) :
    ∀ line ∈ interpolatedEnvironment definition document.originHost, Inert line := by
  have hlines := ServiceDefinition.lines_of_validate hdefinition
  unfold interpolatedEnvironment
  split
  · rename_i hempty
    intro line hline
    apply ServiceDefinition.inert_of_consumes (hlines line hline)
    by_contra hconsumes
    have hpresent := hagree.origin.2 (List.any_eq_true.2 ⟨line, hline, by simpa using hconsumes⟩)
    exact hpresent hempty
  · intro line hline
    obtain ⟨original, horiginal, rfl⟩ := List.mem_map.1 hline
    exact ServiceDefinition.replaceAll_inert (hlines original horiginal)
      (Plan.UserServiceDocument.origin_inert hplan)

/-- A placement is accepted exactly where the plan is valid, the definition that travelled is
one, and the two agree: the digest taken from what was carried is the pinned one, slug and
repository are the same, and there is an origin exactly where some line consumes it.  No brace
is left in the environment of an accepted placement. -/
theorem userServicePlacement_accepted (document : Plan.UserServiceDocument) (carried : Bytes) :
    ((∃ placement, userServicePlacementFor document carried = .ok placement) ↔
      document.validate = .ok () ∧
      ∃ definition, ServiceDefinition.decode carried = .ok definition ∧
        definition.sha256 = .ok document.definitionDigest ∧
        document.definitionSlug = definition.slug ∧
        document.imageReference = definition.imageRepository ∧
        (document.originHost ≠ [] ↔
          ∃ line ∈ definition.environment, originHostPlaceholder <:+: line)) ∧
    ∀ placement, userServicePlacementFor document carried = .ok placement →
      ∀ line ∈ placement.environment, 0x7B ∉ line ∧ 0x7D ∉ line := by
  have hconsumes : ∀ definition : ServiceDefinition.Document,
      definition.interpolatesOriginHost = true ↔
        ∃ line ∈ definition.environment, originHostPlaceholder <:+: line := by
    intro definition
    simp [ServiceDefinition.Document.interpolatesOriginHost, ServiceDefinition.consumesOriginHost]
  constructor
  · constructor
    · rintro ⟨placement, h⟩
      obtain ⟨definition, hdecode, hvalid, hagree, -⟩ := userServicePlacementFor_iff.1 h
      exact ⟨hvalid, definition, hdecode, hagree.digest, hagree.slug, hagree.repository,
        hagree.origin.trans (hconsumes definition)⟩
    · rintro ⟨hvalid, definition, hdecode, hdigest, hslug, hrepository, horigin⟩
      exact ⟨_, userServicePlacementFor_iff.2 ⟨definition, hdecode, hvalid,
        ⟨hdigest, hslug, hrepository, horigin.trans (hconsumes definition).symm⟩, rfl⟩⟩
  · intro placement h
    obtain ⟨definition, hdecode, hvalid, hagree, rfl⟩ := userServicePlacementFor_iff.1 h
    exact interpolatedEnvironment_inert (ServiceDefinition.decode_valid hdecode) hvalid hagree

end YourCloud.Auxiliary
