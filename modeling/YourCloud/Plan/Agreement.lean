import YourCloud.Plan.Documents
import YourCloud.ServiceDefinition.Characters

/-!
# A plan and the definition it pins

A plan of a user service names a definition by its digest.  Whoever holds both, the
Controller that builds the plan and the machine that applies it, holds them against
each other by one rule.

## Main results

* `requireDefinitionAgreement_iff` — the agreement, part by part.
-/

namespace YourCloud.Plan

open YourCloud.Foundation

/-- One user service plan against the definition it pins. -/
def requireDefinitionAgreement (document : UserServiceDocument)
    (definition : ServiceDefinition.Document) : Except Sentence Unit := do
  document.validate
  let digest ← (definition.sha256).mapError (say "plan definition_digest: " ++ ·)
  demand (document.definitionDigest = digest)
    (say "plan definition_digest is not the digest of the definition it travels with")
  demand (document.definitionSlug = definition.slug)
    (say "plan definition_slug " ++ cite document.definitionSlug ++
      say " is not the slug the pinned definition declares")
  demand (document.imageReference = definition.imageRepository)
    (say "plan image_reference is not the repository the pinned definition names")
  if definition.interpolatesOriginHost then
    demand (document.originHost ≠ [])
      (say "plan origin_host is required because the pinned definition interpolates the origin")
  else
    demand (document.originHost = [])
      (say ("plan origin_host is refused because no line of the pinned definition consumes the " ++
        "origin"))

/-- A definition and a plan that agree. -/
structure Agree (document : UserServiceDocument) (definition : ServiceDefinition.Document) :
    Prop where
  digest : definition.sha256 = .ok document.definitionDigest
  slug : document.definitionSlug = definition.slug
  repository : document.imageReference = definition.imageRepository
  origin : document.originHost ≠ [] ↔ definition.interpolatesOriginHost = true

theorem mapError_eq_ok {ε ε' α : Type} {f : ε → ε'} {x : Except ε α} {a : α} :
    x.mapError f = .ok a ↔ x = .ok a := by
  cases x with
  | error e => exact ⟨nofun, nofun⟩
  | ok b => exact ⟨fun h => congrArg _ (Except.ok.inj h), fun h => congrArg _ (Except.ok.inj h)⟩

theorem requireDefinitionAgreement_iff {document : UserServiceDocument}
    {definition : ServiceDefinition.Document} :
    requireDefinitionAgreement document definition = .ok () ↔
      document.validate = .ok () ∧ Agree document definition := by
  constructor
  · intro h
    obtain ⟨_, hvalid, h⟩ := bind_ok_iff.1 h
    obtain ⟨digest, hdigest, h⟩ := bind_ok_iff.1 h
    obtain ⟨_, hpinned, h⟩ := bind_ok_iff.1 h
    obtain ⟨_, hslug, h⟩ := bind_ok_iff.1 h
    obtain ⟨_, hrepository, h⟩ := bind_ok_iff.1 h
    have hpinned : document.definitionDigest = digest := of_decide_eq_true (demand_eq_ok.1 hpinned)
    refine ⟨hvalid, hpinned ▸ mapError_eq_ok.1 hdigest, of_decide_eq_true (demand_eq_ok.1 hslug),
      of_decide_eq_true (demand_eq_ok.1 hrepository), ?_⟩
    split at h
    · rename_i hconsumes
      exact ⟨fun _ => hconsumes, fun _ => of_decide_eq_true (demand_eq_ok.1 h)⟩
    · rename_i hnone
      have hempty : document.originHost = [] := of_decide_eq_true (demand_eq_ok.1 h)
      exact ⟨fun hpresent => absurd hempty hpresent, fun hconsumes => absurd hconsumes hnone⟩
  · rintro ⟨hvalid, hdigest, hslug, hrepository, horigin⟩
    unfold requireDefinitionAgreement
    refine bind_ok_iff.2 ⟨(), hvalid, ?_⟩
    refine bind_ok_iff.2 ⟨_, mapError_eq_ok.2 hdigest, ?_⟩
    refine bind_ok_iff.2 ⟨(), demand_eq_ok.2 (decide_eq_true rfl), ?_⟩
    refine bind_ok_iff.2 ⟨(), demand_eq_ok.2 (decide_eq_true hslug), ?_⟩
    refine bind_ok_iff.2 ⟨(), demand_eq_ok.2 (decide_eq_true hrepository), ?_⟩
    split
    · rename_i hconsumes
      exact demand_eq_ok.2 (decide_eq_true (horigin.2 hconsumes))
    · rename_i hnone
      exact demand_eq_ok.2 (decide_eq_true (by_contra fun hpresent => hnone (horigin.1 hpresent)))

/-- A host is spelled with lower-case letters, digits, dots and hyphens. -/
theorem canonicalRouteHost_bytes {host : Bytes} (h : canonicalRouteHost host = true) :
    ServiceDefinition.Reference host := by
  simp only [canonicalRouteHost, Bool.and_eq_true, List.all_eq_true] at h
  intro b hb
  have hbyte := h.1.1.2 b hb
  simp only [Bool.or_eq_true, decide_eq_true_eq] at hbyte
  rcases hbyte with (hname | rfl) | rfl
  · exact ServiceDefinition.isNameByte_reference hname
  · decide
  · decide

/-- So is the origin a plan carries. -/
theorem UserServiceDocument.origin_bytes {document : UserServiceDocument}
    (h : document.validate = .ok ()) : ServiceDefinition.Reference document.originHost := by
  obtain ⟨_, -, h⟩ := bind_ok_iff.1 h
  obtain ⟨_, -, h⟩ := bind_ok_iff.1 h
  obtain ⟨_, -, h⟩ := bind_ok_iff.1 h
  obtain ⟨_, -, h⟩ := bind_ok_iff.1 h
  obtain ⟨_, -, h⟩ := bind_ok_iff.1 h
  obtain ⟨_, -, h⟩ := bind_ok_iff.1 h
  split at h
  · rename_i hempty
    rw [hempty]
    exact List.forall_mem_nil _
  · obtain ⟨_, hhost, -⟩ := bind_ok_iff.1 h
    exact canonicalRouteHost_bytes (demand_eq_ok.1 hhost)

/-- The origin a plan carries has no brace. -/
theorem UserServiceDocument.origin_inert {document : UserServiceDocument}
    (h : document.validate = .ok ()) : ServiceDefinition.Inert document.originHost :=
  ⟨(origin_bytes h).not_mem (by decide), (origin_bytes h).not_mem (by decide)⟩

end YourCloud.Plan
