import YourCloud.Plan.Transport

/-!
# Plans encoded and read back

Every plan begins with the same four fields, and the first of them is its schema.  A
decoder of another schema that could read the row at all would read that field as it
was written, and its checks refuse it.

## Main results

* `plan_round_trip` — every valid plan is encoded within the bound and read back by
  the decoder of its own schema alone, and what a decoder accepts has one canonical
  form with the same digest.
-/

namespace YourCloud.Plan

open YourCloud.Foundation
open YourCloud.Foundation.Json (Column Cell)

/-! ## Rows of valid plans -/

theorem Document.fits {document : Document} (h : document.validate = .ok ()) :
    Json.Fits Document.columns document.cells :=
  Json.fits_of_kinds rfl fun cell hcell => (Document.short h cell hcell).representable

theorem V2Document.fits {document : V2Document} (h : document.validate = .ok ()) :
    Json.Fits document.group.columns document.cells := by
  apply Json.fits_of_kinds
  · cases document <;> rfl
  · exact fun cell hcell => (V2Document.short h cell hcell).representable

theorem V3Document.fits {document : V3Document} (h : document.validate = .ok ()) :
    Json.Fits document.group.columns document.cells := by
  apply Json.fits_of_kinds
  · cases document <;> rfl
  · exact fun cell hcell => (V3Document.short h cell hcell).representable

theorem Document.ofCells_cells (document : Document) :
    Document.ofCells document.cells = some document := rfl

theorem V2Document.ofCells_cells (document : V2Document) :
    V2Document.ofCells document.group document.cells = some document := by
  cases document <;> rfl

theorem V3Document.ofCells_cells (document : V3Document) :
    V3Document.ofCells document.group document.cells = some document := by
  cases document <;> rfl

/-! ### What a decoder read -/

theorem Head.ofCells_eq {cells tail : List Cell} {head : Head}
    (h : Head.ofCells cells = some (head, tail)) : head.cells ++ tail = cells := by
  unfold Head.ofCells at h
  split at h
  · cases h
    rfl
  · cases h

theorem Document.ofCells_eq {cells : List Cell} {parsed : Document}
    (h : Document.ofCells cells = some parsed) : parsed.cells = cells := by
  obtain ⟨⟨head, tail⟩, hhead, h⟩ := Option.bind_eq_some_iff.1 h
  rw [← Head.ofCells_eq hhead]
  dsimp only at h
  split at h
  · cases h
    rfl
  · cases h

theorem V2Document.ofCells_eq {group : OperationGroup} {cells : List Cell} {parsed : V2Document}
    (h : V2Document.ofCells group cells = some parsed) :
    parsed.group = group ∧ parsed.cells = cells := by
  obtain ⟨⟨head, tail⟩, hhead, h⟩ := Option.bind_eq_some_iff.1 h
  rw [← Head.ofCells_eq hhead]
  dsimp only at h
  split at h <;> cases h <;> exact ⟨rfl, rfl⟩

theorem V3Document.ofCells_eq {group : LinkOperationGroup} {cells : List Cell}
    {parsed : V3Document} (h : V3Document.ofCells group cells = some parsed) :
    parsed.group = group ∧ parsed.cells = cells := by
  obtain ⟨⟨head, tail⟩, hhead, h⟩ := Option.bind_eq_some_iff.1 h
  rw [← Head.ofCells_eq hhead]
  dsimp only at h
  split at h <;> cases h <;> exact ⟨rfl, rfl⟩

/-! ## Across the schemas -/

inductive Schema where
  | v1
  | v2
  | v3
  deriving DecidableEq, Repr

/-- A plan of any schema. -/
inductive PlanDocument where
  | v1 (document : Document)
  | v2 (document : V2Document)
  | v3 (document : V3Document)
  deriving DecidableEq, Repr

def digestOf (transcript : Except Sentence Bytes) : Except Sentence Bytes :=
  transcript.map sha256Hex

namespace PlanDocument

def schema : PlanDocument → Schema
  | v1 _ => .v1
  | v2 _ => .v2
  | v3 _ => .v3

def validate : PlanDocument → Except Sentence Unit
  | v1 document => document.validate
  | v2 document => document.validate
  | v3 document => document.validate

def encode : PlanDocument → Except Sentence Bytes
  | v1 document => document.encode
  | v2 document => document.encode
  | v3 document => document.encode

/-- The value an envelope names. -/
def sha256 : PlanDocument → Except Sentence Bytes
  | v1 document => digestOf document.transcript
  | v2 document => digestOf document.transcript
  | v3 document => digestOf document.transcript

def head : PlanDocument → Head
  | v1 document => document.toHead
  | v2 document => document.head
  | v3 document => document.head

def columns : PlanDocument → List (Bytes × Column)
  | v1 _ => Document.columns
  | v2 document => document.group.columns
  | v3 document => document.group.columns

def cells : PlanDocument → List Cell
  | v1 document => document.cells
  | v2 document => document.cells
  | v3 document => document.cells

end PlanDocument

/-- The decoder of a schema. -/
def Schema.decode : Schema → Bytes → Except Sentence PlanDocument
  | v1, document => (Plan.decode document).map PlanDocument.v1
  | v2, document => (decodeV2 document).map PlanDocument.v2
  | v3, document => (decodeV3 document).map PlanDocument.v3

theorem Schema.decode_v1 {document : Bytes} {plan : Document} :
    Schema.v1.decode document = .ok (.v1 plan) ↔ Plan.decode document = .ok plan := by
  simp [Schema.decode, map_ok_iff]

theorem Schema.decode_v2 {document : Bytes} {plan : V2Document} :
    Schema.v2.decode document = .ok (.v2 plan) ↔ decodeV2 document = .ok plan := by
  simp [Schema.decode, map_ok_iff]

theorem Schema.decode_v3 {document : Bytes} {plan : V3Document} :
    Schema.v3.decode document = .ok (.v3 plan) ↔ decodeV3 document = .ok plan := by
  simp [Schema.decode, map_ok_iff]

def Schema.version : Schema → Int
  | v1 => schemaVersion
  | v2 => schemaVersionV2
  | v3 => schemaVersionV3

namespace PlanDocument

theorem fits {plan : PlanDocument} (h : plan.validate = .ok ()) :
    Json.Fits plan.columns plan.cells := by
  cases plan with
  | v1 document => exact Document.fits h
  | v2 document => exact V2Document.fits h
  | v3 document => exact V3Document.fits h

theorem short {plan : PlanDocument} (h : plan.validate = .ok ()) :
    ∀ cell ∈ plan.cells, Short cell := by
  cases plan with
  | v1 document => exact Document.short h
  | v2 document => exact V2Document.short h
  | v3 document => exact V3Document.short h

theorem names (plan : PlanDocument) : Json.Names (plan.columns.map Prod.fst) := by
  have hv1 : Json.Names (Document.columns.map Prod.fst) := .of_check (by decide)
  have hv2 : ∀ group : OperationGroup, Json.Names (group.columns.map Prod.fst) := by
    intro group
    apply Json.Names.of_check
    cases group <;> decide
  have hv3 : ∀ group : LinkOperationGroup, Json.Names (group.columns.map Prod.fst) := by
    intro group
    apply Json.Names.of_check
    cases group <;> decide
  cases plan with
  | v1 document => exact hv1
  | v2 document => exact hv2 document.group
  | v3 document => exact hv3 document.group

/-- The names of every plan leave room for ten cells and more. -/
theorem room (plan : PlanDocument) :
    (plan.columns.map fun column => column.1.length + 4).sum + 257 * plan.columns.length + 2 ≤
      maxPlanBytes := by
  have hv2 : ∀ group : OperationGroup, (group.columns.map fun column => column.1.length + 4).sum +
      257 * group.columns.length + 2 ≤ maxPlanBytes := by
    intro group
    cases group <;> decide
  have hv3 : ∀ group : LinkOperationGroup,
      (group.columns.map fun column => column.1.length + 4).sum + 257 * group.columns.length + 2 ≤
        maxPlanBytes := by
    intro group
    cases group <;> decide
  cases plan with
  | v1 document =>
      show (Document.columns.map fun column => column.1.length + 4).sum +
        257 * Document.columns.length + 2 ≤ maxPlanBytes
      decide
  | v2 document => exact hv2 document.group
  | v3 document => exact hv3 document.group

/-- The canonical form of a plan. -/
def canonical (plan : PlanDocument) : Bytes := (Json.row plan.columns plan.cells).render

theorem canonical_bound {plan : PlanDocument} (h : plan.validate = .ok ()) :
    withinPlanBound plan.canonical = true := by
  have hroom := plan.room
  have hsize := Json.size_row_le plan.columns plan.cells
  have hcells : (plan.cells.map fun cell => cell.json.size).sum ≤ 257 * plan.cells.length := by
    have hall := short h
    generalize plan.cells = cells at hall ⊢
    induction cells with
    | nil => exact Nat.le_refl _
    | cons cell cells ih =>
        obtain ⟨hcell, hrest⟩ := List.forall_mem_cons.1 hall
        have hsize := hcell.size
        have hsum := ih hrest
        rw [List.map_cons, List.sum_cons, List.length_cons]
        omega
  have hlength := (fits h).length_eq
  have hpos : 0 < plan.canonical.length := by
    unfold canonical Json.row Json.render
    exact Nat.succ_pos _
  have hbound : plan.canonical.length ≤ maxPlanBytes := by
    have hcanonical : plan.canonical.length = (Json.row plan.columns plan.cells).size := rfl
    omega
  unfold withinPlanBound
  rw [Bool.and_eq_true, decide_eq_true_eq, decide_eq_true_eq]
  exact ⟨hpos, hbound⟩

theorem encode_eq {plan : PlanDocument} (h : plan.validate = .ok ()) :
    plan.encode = .ok plan.canonical := by
  have hbound := canonical_bound h
  have hencoded : encodeCanonicalPlan (Json.row plan.columns plan.cells) = .ok plan.canonical := by
    unfold encodeCanonicalPlan
    exact bind_ok_iff.2 ⟨(), demand_eq_ok.2 hbound, rfl⟩
  cases plan with
  | v1 document => exact bind_ok_iff.2 ⟨(), h, hencoded⟩
  | v2 document => exact bind_ok_iff.2 ⟨(), h, hencoded⟩
  | v3 document => exact bind_ok_iff.2 ⟨(), h, hencoded⟩

theorem schemaVersion_mem (plan : PlanDocument) :
    ((text "schema_version", Column.number), Cell.number plan.head.schemaVersion) ∈
      plan.columns.zip plan.cells := by
  cases plan with
  | v1 document => exact List.mem_cons_self
  | v2 document => cases document <;> exact List.mem_cons_self
  | v3 document => cases document <;> exact List.mem_cons_self

theorem operation_mem (plan : PlanDocument) :
    ((text "operation", Column.text), Cell.text plan.head.operation) ∈
      plan.columns.zip plan.cells := by
  have hthird : ∀ {α : Type} {a b c d : α} {l : List α}, d ∈ a :: b :: c :: d :: l := by
    intro α a b c d l
    simp
  cases plan with
  | v1 document => exact hthird
  | v2 document => cases document <;> exact hthird
  | v3 document => cases document <;> exact hthird

/-- A valid plan names its schema. -/
theorem version_of_validate {plan : PlanDocument} (h : plan.validate = .ok ()) :
    plan.head.schemaVersion = plan.schema.version := by
  cases plan with
  | v1 document => exact (Document.bounded_of_validate h).head.schemaVersion
  | v2 document => exact (V2Document.head_of_validate h).1.schemaVersion
  | v3 document => exact (V3Document.head_of_validate h).1.schemaVersion

theorem declaredOperation_canonical {plan : PlanDocument} (h : plan.validate = .ok ()) :
    declaredOperation plan.canonical = .ok plan.head.operation := by
  have hfields := (Json.decode_written Json.openFields plan.names (fits h)).trans
    (Json.openFields_row plan.names (fits h))
  have hlookup := Json.lookup_row plan.names (fits h) plan.operation_mem
  have hcell := (List.forall₂_iff_zip.1 (fits h)).2 plan.operation_mem
  have hread := Json.readString_quoted_valid false hcell.2
  unfold declaredOperation
  refine bind_ok_iff.2 ⟨_, found_eq_ok.2 hfields, ?_⟩
  exact bind_ok_iff.2 ⟨_, found_eq_ok.2 hlookup, found_eq_ok.2 hread⟩

end PlanDocument

/-! ## The decoders -/

/-- What a decoder accepts: valid, of its schema, and read from a row of its columns. -/
theorem Schema.decode_ok {schema : Schema} {document : Bytes} {plan : PlanDocument}
    (h : schema.decode document = .ok plan) : plan.schema = schema ∧ plan.validate = .ok () ∧
      Json.decode (Json.readRow plan.columns) document = some plan.cells := by
  cases schema with
  | v1 =>
      obtain ⟨parsed, hparsed, hplan⟩ := bind_ok_iff.1 h
      obtain ⟨_, -, hparsed⟩ := bind_ok_iff.1 hparsed
      obtain ⟨cells, hcells, hparsed⟩ := bind_ok_iff.1 hparsed
      obtain ⟨document, hdocument, hparsed⟩ := bind_ok_iff.1 hparsed
      obtain ⟨_, hvalid, hparsed⟩ := bind_ok_iff.1 hparsed
      cases hparsed
      cases hplan
      refine ⟨rfl, hvalid, ?_⟩
      rw [← Document.ofCells_eq (found_eq_ok.1 hdocument)] at hcells
      exact found_eq_ok.1 hcells
  | v2 =>
      obtain ⟨parsed, hparsed, hplan⟩ := bind_ok_iff.1 h
      obtain ⟨_, -, hparsed⟩ := bind_ok_iff.1 hparsed
      obtain ⟨operation, -, hparsed⟩ := bind_ok_iff.1 hparsed
      obtain ⟨group, -, hparsed⟩ := bind_ok_iff.1 hparsed
      obtain ⟨cells, hcells, hparsed⟩ := bind_ok_iff.1 hparsed
      obtain ⟨document, hdocument, hparsed⟩ := bind_ok_iff.1 hparsed
      obtain ⟨_, hvalid, hparsed⟩ := bind_ok_iff.1 hparsed
      cases hparsed
      cases hplan
      obtain ⟨rfl, rfl⟩ := V2Document.ofCells_eq (found_eq_ok.1 hdocument)
      exact ⟨rfl, hvalid, found_eq_ok.1 hcells⟩
  | v3 =>
      obtain ⟨parsed, hparsed, hplan⟩ := bind_ok_iff.1 h
      obtain ⟨_, -, hparsed⟩ := bind_ok_iff.1 hparsed
      obtain ⟨operation, -, hparsed⟩ := bind_ok_iff.1 hparsed
      obtain ⟨group, -, hparsed⟩ := bind_ok_iff.1 hparsed
      obtain ⟨cells, hcells, hparsed⟩ := bind_ok_iff.1 hparsed
      obtain ⟨document, hdocument, hparsed⟩ := bind_ok_iff.1 hparsed
      obtain ⟨_, hvalid, hparsed⟩ := bind_ok_iff.1 hparsed
      cases hparsed
      cases hplan
      obtain ⟨rfl, rfl⟩ := V3Document.ofCells_eq (found_eq_ok.1 hdocument)
      exact ⟨rfl, hvalid, found_eq_ok.1 hcells⟩

/-- A valid plan is read back from its canonical form by the decoder of its schema. -/
theorem Schema.decode_canonical {plan : PlanDocument} (h : plan.validate = .ok ()) :
    plan.schema.decode plan.canonical = .ok plan := by
  have hbound : demand (withinPlanBound plan.canonical) planSizeProblem = .ok () :=
    demand_eq_ok.2 (PlanDocument.canonical_bound h)
  have hoperation := PlanDocument.declaredOperation_canonical h
  have hcells : strictDecodePlan plan.columns plan.canonical = .ok plan.cells :=
    found_eq_ok.2 (Json.decode_row plan.names (PlanDocument.fits h))
  cases plan with
  | v1 document =>
      refine bind_ok_iff.2 ⟨document, ?_, rfl⟩
      refine bind_ok_iff.2 ⟨(), hbound, bind_ok_iff.2 ⟨_, hcells, ?_⟩⟩
      exact bind_ok_iff.2 ⟨document, found_eq_ok.2 document.ofCells_cells,
        bind_ok_iff.2 ⟨(), h, rfl⟩⟩
  | v2 document =>
      have hgroup := (V2Document.head_of_validate h).2
      refine bind_ok_iff.2 ⟨document, ?_, rfl⟩
      refine bind_ok_iff.2 ⟨(), hbound, bind_ok_iff.2 ⟨_, hoperation, ?_⟩⟩
      refine bind_ok_iff.2 ⟨_, found_eq_ok.2 hgroup, bind_ok_iff.2 ⟨_, hcells, ?_⟩⟩
      exact bind_ok_iff.2 ⟨document, found_eq_ok.2 document.ofCells_cells,
        bind_ok_iff.2 ⟨(), h, rfl⟩⟩
  | v3 document =>
      have hgroup := (V3Document.head_of_validate h).2
      refine bind_ok_iff.2 ⟨document, ?_, rfl⟩
      refine bind_ok_iff.2 ⟨(), hbound, bind_ok_iff.2 ⟨_, hoperation, ?_⟩⟩
      refine bind_ok_iff.2 ⟨_, found_eq_ok.2 hgroup, bind_ok_iff.2 ⟨_, hcells, ?_⟩⟩
      exact bind_ok_iff.2 ⟨document, found_eq_ok.2 document.ofCells_cells,
        bind_ok_iff.2 ⟨(), h, rfl⟩⟩

/-- The schema a row begins with is read as it was written, whichever decoder reads it. -/
theorem Schema.decode_other {plan : PlanDocument} (h : plan.validate = .ok ()) {schema : Schema}
    (hschema : schema ≠ plan.schema) : (schema.decode plan.canonical).toOption = none := by
  cases hother : schema.decode plan.canonical with
  | error why => rfl
  | ok other =>
      obtain ⟨rfl, hvalid, hcells⟩ := Schema.decode_ok hother
      have hversion := Json.decode_row_cell plan.names (PlanDocument.fits h) hcells
        plan.schemaVersion_mem other.schemaVersion_mem
      have hsame : other.schema.version = plan.schema.version := by
        rw [← PlanDocument.version_of_validate h, ← PlanDocument.version_of_validate hvalid]
        exact Cell.number.inj hversion
      have hinjective : ∀ a b : Schema, a.version = b.version → a = b := by
        intro a b
        cases a <;> cases b <;> decide
      exact absurd (hinjective _ _ hsame) hschema

/-- A valid plan has a digest. -/
theorem PlanDocument.sha256_isOk {plan : PlanDocument} (h : plan.validate = .ok ()) :
    ∃ digest, plan.sha256 = .ok digest := by
  cases plan with
  | v1 document =>
      exact ⟨_, congrArg digestOf (Document.transcript_eq h)⟩
  | v2 document =>
      exact ⟨_, congrArg digestOf (V2Document.transcript_eq h)⟩
  | v3 document =>
      exact ⟨_, congrArg digestOf (V3Document.transcript_eq h)⟩

/-- Every valid plan is encoded within the bound, read back by the decoder of its schema and
refused by the two others; and whatever bytes a decoder accepts, what it made of them has one
canonical form, which is read as a plan with the same form and the same digest. -/
theorem plan_round_trip :
    (∀ plan : PlanDocument, plan.validate = .ok () → ∃ document, plan.encode = .ok document ∧
      0 < document.length ∧ document.length ≤ maxPlanBytes ∧
      ∀ schema : Schema, (schema.decode document).toOption =
        if schema = plan.schema then some plan else none) ∧
    ∀ (schema : Schema) (document : Bytes) (plan : PlanDocument),
      schema.decode document = .ok plan → ∃ canonical digest again,
        plan.encode = .ok canonical ∧ plan.sha256 = .ok digest ∧
          schema.decode canonical = .ok again ∧ again.encode = .ok canonical ∧
          again.sha256 = .ok digest := by
  constructor
  · intro plan h
    have hbound := PlanDocument.canonical_bound h
    rw [withinPlanBound, Bool.and_eq_true, decide_eq_true_eq, decide_eq_true_eq] at hbound
    refine ⟨plan.canonical, PlanDocument.encode_eq h, hbound.1, hbound.2, fun schema => ?_⟩
    by_cases hschema : schema = plan.schema
    · rw [if_pos hschema, hschema, Schema.decode_canonical h]
      rfl
    · rw [if_neg hschema]
      exact Schema.decode_other h hschema
  · intro schema document plan hdecode
    obtain ⟨rfl, hvalid, -⟩ := Schema.decode_ok hdecode
    obtain ⟨digest, hdigest⟩ := PlanDocument.sha256_isOk hvalid
    exact ⟨plan.canonical, digest, plan, PlanDocument.encode_eq hvalid, hdigest,
      Schema.decode_canonical hvalid, PlanDocument.encode_eq hvalid, hdigest⟩

/-- A route, read back as the route it is. -/
theorem route_round_trip : ∃ document,
    (PlanDocument.v2 (.route sampleRoute)).encode = .ok document ∧
      (Schema.v2.decode document).toOption = some (.v2 (.route sampleRoute)) ∧
      (Schema.v1.decode document).toOption = none ∧
      (Schema.v3.decode document).toOption = none := by
  have hvalid : (PlanDocument.v2 (.route sampleRoute)).validate = .ok () := by decide
  obtain ⟨document, hencode, -, -, hdecode⟩ :=
    plan_round_trip.1 (.v2 (.route sampleRoute)) hvalid
  exact ⟨document, hencode, hdecode .v2, hdecode .v1, hdecode .v3⟩

end YourCloud.Plan
