import YourCloud.Controller.RelaySnapshot
import YourCloud.Foundation.JsonSize
import YourCloud.Foundation.Search
import YourCloud.ServiceDefinition.Encode

/-!
# The frozen definitions of a Controller

The definitions that a human wrote are kept in one document of their own, each as its
canonical bytes beside the digest of what they spell.  They stand in the order of their
slugs, and under one slug in that of their digests.

## Main results

* `validateDefinitionsFrom_iff`, `validateServiceDefinitionInventory_iff` — what a valid
  document is.
* `readServiceDefinitions_encode` — a document that was written is read back.
* `empty_recordable` — the document of a new Controller is within every bound.
-/

namespace YourCloud.Controller.Definitions

open YourCloud.Foundation
open YourCloud.Approval (canonicalUUIDv4 canonicalUUIDv4_word canonicalUUIDv4_length
  canonicalDigest_word)
open YourCloud.Observation (Slice)
open YourCloud.ServiceDefinition (verify verify_iff verify_encode encode_valid slug_of_validate
  slug_bytes)

/-! ## Data -/

def serviceDefinitionSchema : Int := 1

def maxServiceDefinitionStateBytes : Nat := 256 * 1024

def maxFrozenServiceDefinitions : Nat := 128

def maxAppResponseBytes : Nat := 128 * 1024

/-- One revision: its canonical bytes and the digest of what they spell. -/
structure FrozenServiceDefinition where
  slug : Bytes
  digest : Bytes
  document : Bytes
  frozenAt : Bytes
  deriving DecidableEq, Repr

structure ServiceDefinitionInventory where
  schemaVersion : Int
  controllerID : Bytes
  infrastructureID : Bytes
  definitionRevision : Nat
  definitions : Slice FrozenServiceDefinition
  deriving DecidableEq, Repr

/-- One revision as the App reads it. -/
structure ServiceDefinitionEntry where
  slug : Bytes
  definitionDocument : Bytes
  definitionSHA256 : Bytes
  frozenAt : Bytes
  deriving DecidableEq, Repr

structure ServiceDefinitionsView where
  schemaVersion : Int
  controllerID : Bytes
  infrastructureID : Bytes
  definitionRevision : Nat
  definitions : List ServiceDefinitionEntry
  deriving DecidableEq, Repr

/-! ## Order -/

def serviceDefinitionKeyLess (leftSlug leftDigest rightSlug rightDigest : Bytes) : Bool :=
  if leftSlug ≠ rightSlug then leftSlug < rightSlug else leftDigest < rightDigest

/-- The order of two revisions. -/
def Precedes (left right : FrozenServiceDefinition) : Prop :=
  serviceDefinitionKeyLess left.slug left.digest right.slug right.digest = true

/-- The index of a revision, or the one where it goes. -/
def serviceDefinitionSearch (definitions : List FrozenServiceDefinition) (slug digest : Bytes) :
    Nat :=
  searchList (fun definition =>
    !serviceDefinitionKeyLess definition.slug definition.digest slug digest) definitions

/-! ## Checks -/

/-- The revisions from an index on, after one of a slug and a digest. -/
def validateDefinitionsFrom : (index : Nat) → (previousSlug previousDigest : Bytes) →
    List FrozenServiceDefinition → Except Sentence Unit
  | _, _, _, [] => .ok ()
  | index, previousSlug, previousDigest, definition :: rest => do
      let parsed ← (verify definition.document definition.digest).mapError fun reason =>
        say "frozen service definition " ++ count index ++ say ": " ++ reason
      demand (parsed.slug = definition.slug)
        (say "a frozen service definition is filed under a slug its document does not declare")
      demand (parsed.encode.toOption.any fun canonical => canonical = definition.document)
        (say "a frozen service definition is not held as its canonical bytes")
      demand (parseCanonicalUTC definition.frozenAt).isOk (say "frozen_at is not canonical UTC")
      demand (!(0 < index && !serviceDefinitionKeyLess previousSlug previousDigest
          definition.slug definition.digest))
        (say "frozen service definitions must be unique and sorted by slug and digest")
      validateDefinitionsFrom (index + 1) definition.slug definition.digest rest

def validateServiceDefinitionInventory (state : ServiceDefinitionInventory) :
    Except Sentence Unit := do
  demand (state.schemaVersion = serviceDefinitionSchema)
    (say "unsupported frozen service definition schema_version")
  demand (canonicalUUIDv4 state.controllerID)
    (say "controller_id: identifier must be a canonical lower-case UUIDv4")
  demand (canonicalUUIDv4 state.infrastructureID)
    (say "infrastructure_id: identifier must be a canonical lower-case UUIDv4")
  demand (state.definitions ≠ none &&
      state.definitions.items.length ≤ maxFrozenServiceDefinitions)
    (say "frozen service definitions must be a present bounded array")
  validateDefinitionsFrom 0 [] [] state.definitions.items

/-! ## Writing and reading -/

def frozenFields : List Bytes :=
  [text "slug", text "definition_sha256", text "definition_document", text "frozen_at"]

def FrozenServiceDefinition.fields (definition : FrozenServiceDefinition) :
    List (Bytes × Option Json) :=
  [(text "slug", some (Json.quoted true definition.slug)),
    (text "definition_sha256", some (Json.quoted true definition.digest)),
    (text "definition_document", some (Json.quoted true definition.document)),
    (text "frozen_at", some (Json.quoted true definition.frozenAt))]

def FrozenServiceDefinition.json (definition : FrozenServiceDefinition) : Json :=
  .object (Json.present definition.fields)

def FrozenServiceDefinition.read (j : Json) : Option FrozenServiceDefinition := do
  let ms ← j.members frozenFields
  let slug ← (Json.field ms (text "slug")).readString
  let digest ← (Json.field ms (text "definition_sha256")).readString
  let document ← (Json.field ms (text "definition_document")).readString
  let frozenAt ← (Json.field ms (text "frozen_at")).readString
  return { slug, digest, document, frozenAt }

def definitionInventoryFields : List Bytes :=
  [text "schema_version", text "controller_id", text "infrastructure_id",
    text "definition_revision", text "definitions"]

def ServiceDefinitionInventory.fields (state : ServiceDefinitionInventory) :
    List (Bytes × Option Json) :=
  [(text "schema_version", some (Json.numeralInt state.schemaVersion)),
    (text "controller_id", some (Json.quoted true state.controllerID)),
    (text "infrastructure_id", some (Json.quoted true state.infrastructureID)),
    (text "definition_revision", some (Json.numeral state.definitionRevision)),
    (text "definitions", some (Slice.json FrozenServiceDefinition.json state.definitions))]

/-- `json.Marshal(state)` -/
def ServiceDefinitionInventory.encode (state : ServiceDefinitionInventory) : Bytes :=
  (Json.object (Json.present state.fields)).render

def ServiceDefinitionInventory.read (j : Json) : Option ServiceDefinitionInventory := do
  let ms ← j.members definitionInventoryFields
  let schemaVersion ← (Json.field ms (text "schema_version")).readInt
  let controllerID ← (Json.field ms (text "controller_id")).readString
  let infrastructureID ← (Json.field ms (text "infrastructure_id")).readString
  let definitionRevision ← (Json.field ms (text "definition_revision")).readUint64
  let definitions ← Slice.read FrozenServiceDefinition.read (Json.field ms (text "definitions"))
  return { schemaVersion, controllerID, infrastructureID, definitionRevision, definitions }

/-- The frozen definitions as they were written, by this installation. -/
def readServiceDefinitions (controllerID infrastructureID file : Bytes) :
    Except Sentence ServiceDefinitionInventory := do
  demand (file.length ≠ 0 && file.length ≤ maxServiceDefinitionStateBytes)
    (say "Controller state file is empty, unreadable or too large")
  let state ← found (Json.decode ServiceDefinitionInventory.read file)
    (say "decode frozen service definitions")
  validateServiceDefinitionInventory state
  demand (state.controllerID = controllerID && state.infrastructureID = infrastructureID)
    (say "frozen service definitions belong to another installation")
  return state

/-! ## The listing -/

def serviceDefinitionEntry (definition : FrozenServiceDefinition) : ServiceDefinitionEntry where
  slug := definition.slug
  definitionDocument := definition.document
  definitionSHA256 := definition.digest
  frozenAt := definition.frozenAt

def serviceDefinitionsView (state : ServiceDefinitionInventory) : ServiceDefinitionsView where
  schemaVersion := 1
  controllerID := state.controllerID
  infrastructureID := state.infrastructureID
  definitionRevision := state.definitionRevision
  definitions := state.definitions.items.map serviceDefinitionEntry

def projectServiceDefinitions (state : ServiceDefinitionInventory) :
    Except Sentence ServiceDefinitionsView := do
  validateServiceDefinitionInventory state
  return serviceDefinitionsView state

def ServiceDefinitionEntry.json (entry : ServiceDefinitionEntry) : Json :=
  .object (Json.present
    [(text "slug", some (Json.quoted true entry.slug)),
      (text "definition_document", some (Json.quoted true entry.definitionDocument)),
      (text "definition_sha256", some (Json.quoted true entry.definitionSHA256)),
      (text "frozen_at", some (Json.quoted true entry.frozenAt))])

def ServiceDefinitionsView.json (view : ServiceDefinitionsView) : Json :=
  .object (Json.present
    [(text "schema_version", some (Json.numeralInt view.schemaVersion)),
      (text "controller_id", some (Json.quoted true view.controllerID)),
      (text "infrastructure_id", some (Json.quoted true view.infrastructureID)),
      (text "definition_revision", some (Json.numeral view.definitionRevision)),
      (text "definitions", some (.array (view.definitions.map ServiceDefinitionEntry.json)))])

def encodeServiceDefinitionsView (view : ServiceDefinitionsView) : Except Sentence Bytes := do
  let encoded := view.json.render
  demand (encoded.length ≤ maxAppResponseBytes)
    (say "frozen service definitions exceed their response bound")
  return encoded

/-! ## What the order is -/

theorem precedes_iff {left right : FrozenServiceDefinition} :
    Precedes left right ↔
      left.slug < right.slug ∨ left.slug = right.slug ∧ left.digest < right.digest := by
  unfold Precedes serviceDefinitionKeyLess
  by_cases hsame : left.slug = right.slug
  · have hirrefl : ¬ right.slug < right.slug := List.lt_irrefl right.slug
    simp [hsame, hirrefl]
  · simp [hsame]

theorem Precedes.trans {a b c : FrozenServiceDefinition} (hab : Precedes a b)
    (hbc : Precedes b c) : Precedes a c := by
  rw [precedes_iff] at *
  cases hab with
  | inl hslug =>
      cases hbc with
      | inl hslug' => exact Or.inl (List.lt_trans hslug hslug')
      | inr hdigest => exact Or.inl (hdigest.1 ▸ hslug)
  | inr hdigest =>
      cases hbc with
      | inl hslug' => exact Or.inl (hdigest.1 ▸ hslug')
      | inr hdigest' =>
          exact Or.inr ⟨hdigest.1.trans hdigest'.1, List.lt_trans hdigest.2 hdigest'.2⟩

theorem Precedes.irrefl (a : FrozenServiceDefinition) : ¬ Precedes a a := by
  rw [precedes_iff]
  intro h
  cases h with
  | inl hslug => exact List.lt_irrefl _ hslug
  | inr hdigest => exact List.lt_irrefl _ hdigest.2

/-! ## What a valid document is -/

/-- A revision under its own slug and digest, in its own spelling, and dated. -/
structure Filed (definition : FrozenServiceDefinition) : Prop where
  spelled : ∃ parsed : ServiceDefinition.Document, parsed.slug = definition.slug ∧
    parsed.encode = .ok definition.document ∧ parsed.sha256 = .ok definition.digest
  dated : ∃ t, parseCanonicalUTC definition.frozenAt = .ok t

theorem isOk_iff {ε α : Type} {x : Except ε α} : x.isOk = true ↔ ∃ a, x = .ok a := by
  cases x with
  | error e => simp [Except.isOk, Except.toBool]
  | ok a => simp [Except.isOk, Except.toBool]

theorem mapError_eq_ok {ε ε' α : Type} {x : Except ε α} {f : ε → ε'} {a : α} :
    x.mapError f = .ok a ↔ x = .ok a := by
  cases x with
  | error e => simp [Except.mapError]
  | ok b => simp [Except.mapError]

/-- The revisions from an index on are filed and in order, after the one before. -/
theorem validateDefinitionsFrom_iff (definitions : List FrozenServiceDefinition) {index : Nat}
    {previousSlug previousDigest : Bytes} :
    validateDefinitionsFrom index previousSlug previousDigest definitions = .ok () ↔
      (∀ definition ∈ definitions, Filed definition) ∧ definitions.Pairwise Precedes ∧
      (0 < index → ∀ definition ∈ definitions, serviceDefinitionKeyLess previousSlug
        previousDigest definition.slug definition.digest = true) := by
  induction definitions generalizing index previousSlug previousDigest with
  | nil => simp [validateDefinitionsFrom]
  | cons definition rest ih =>
      unfold validateDefinitionsFrom
      constructor
      · intro h
        obtain ⟨parsed, hverify, h⟩ := bind_ok_iff.1 h
        obtain ⟨_, hslug, h⟩ := bind_ok_iff.1 h
        obtain ⟨_, hcanonical, h⟩ := bind_ok_iff.1 h
        obtain ⟨_, hdated, h⟩ := bind_ok_iff.1 h
        obtain ⟨_, hlater, h⟩ := bind_ok_iff.1 h
        obtain ⟨hfiled, hordered, hfirst⟩ := ih.1 h
        have hdigest := (verify_iff.1 (mapError_eq_ok.1 hverify)).2
        have hencode : parsed.encode = .ok definition.document := by
          cases hencode : parsed.encode with
          | error reason =>
              rw [hencode] at hcanonical
              cases hcanonical
          | ok canonical =>
              rw [hencode] at hcanonical
              have hsame : canonical = definition.document :=
                of_decide_eq_true (demand_eq_ok.1 hcanonical)
              rw [hsame]
        have hself : Filed definition :=
          ⟨⟨parsed, of_decide_eq_true (demand_eq_ok.1 hslug), hencode, hdigest⟩,
            isOk_iff.1 (demand_eq_ok.1 hdated)⟩
        have hnext : ∀ other ∈ rest, Precedes definition other := hfirst (Nat.succ_pos index)
        refine ⟨List.forall_mem_cons.2 ⟨hself, hfiled⟩, List.pairwise_cons.2 ⟨hnext, hordered⟩, ?_⟩
        intro hindex
        have hless : serviceDefinitionKeyLess previousSlug previousDigest definition.slug
            definition.digest = true := by
          simpa [hindex] using demand_eq_ok.1 hlater
        -- The rest comes after this one, which comes after the one before.
        let previous : FrozenServiceDefinition := ⟨previousSlug, previousDigest, [], []⟩
        have hprevious : Precedes previous definition := hless
        exact List.forall_mem_cons.2 ⟨hless, fun other hother =>
          hprevious.trans (hnext other hother)⟩
      · rintro ⟨hfiled, hordered, hfirst⟩
        rw [List.forall_mem_cons] at hfiled
        rw [List.pairwise_cons] at hordered
        obtain ⟨⟨⟨parsed, hslug, hencode, hdigest⟩, hdated⟩, hrest⟩ := hfiled
        refine bind_ok_iff.2 ⟨parsed, mapError_eq_ok.2 (verify_encode hencode hdigest), ?_⟩
        refine bind_ok_iff.2 ⟨(), demand_eq_ok.2 (decide_eq_true hslug), ?_⟩
        refine bind_ok_iff.2 ⟨(), demand_eq_ok.2 (by simp [hencode, Except.toOption]), ?_⟩
        refine bind_ok_iff.2 ⟨(), demand_eq_ok.2 (isOk_iff.2 hdated), ?_⟩
        refine bind_ok_iff.2 ⟨(), demand_eq_ok.2 ?_, ?_⟩
        · by_cases hindex : 0 < index
          · simp [(hfirst hindex) definition List.mem_cons_self]
          · simp [hindex]
        · exact ih.2 ⟨hrest, hordered.2, fun _ => hordered.1⟩

/-- What passes as the frozen definitions of an installation. -/
structure ServiceDefinitionInventory.Admitted (state : ServiceDefinitionInventory) : Prop where
  schema : state.schemaVersion = serviceDefinitionSchema
  controller : canonicalUUIDv4 state.controllerID = true
  infrastructure : canonicalUUIDv4 state.infrastructureID = true
  present : state.definitions ≠ none
  bounded : state.definitions.items.length ≤ maxFrozenServiceDefinitions
  filed : ∀ definition ∈ state.definitions.items, Filed definition
  ordered : state.definitions.items.Pairwise Precedes

theorem validateServiceDefinitionInventory_iff {state : ServiceDefinitionInventory} :
    validateServiceDefinitionInventory state = .ok () ↔ state.Admitted := by
  constructor
  · intro h
    obtain ⟨_, hschema, h⟩ := bind_ok_iff.1 h
    obtain ⟨_, hcontroller, h⟩ := bind_ok_iff.1 h
    obtain ⟨_, hinfrastructure, h⟩ := bind_ok_iff.1 h
    obtain ⟨_, hdefinitions, h⟩ := bind_ok_iff.1 h
    obtain ⟨hfiled, hordered, -⟩ := (validateDefinitionsFrom_iff _).1 h
    have hdefinitions := demand_eq_ok.1 hdefinitions
    rw [Bool.and_eq_true, decide_eq_true_eq, decide_eq_true_eq] at hdefinitions
    exact ⟨of_decide_eq_true (demand_eq_ok.1 hschema), demand_eq_ok.1 hcontroller,
      demand_eq_ok.1 hinfrastructure, hdefinitions.1, hdefinitions.2, hfiled, hordered⟩
  · intro h
    refine bind_ok_iff.2 ⟨(), demand_eq_ok.2 (decide_eq_true h.schema), ?_⟩
    refine bind_ok_iff.2 ⟨(), demand_eq_ok.2 h.controller, ?_⟩
    refine bind_ok_iff.2 ⟨(), demand_eq_ok.2 h.infrastructure, ?_⟩
    refine bind_ok_iff.2 ⟨(), demand_eq_ok.2 ?_, ?_⟩
    · rw [Bool.and_eq_true, decide_eq_true_eq, decide_eq_true_eq]
      exact ⟨h.present, h.bounded⟩
    · exact (validateDefinitionsFrom_iff _).2
        ⟨h.filed, h.ordered, fun hindex => absurd hindex (Nat.lt_irrefl 0)⟩

/-! ## What is written is read back -/

private theorem frozen_names : Json.Names frozenFields := Json.Names.of_check (by decide)

private theorem definition_names : Json.Names definitionInventoryFields :=
  Json.Names.of_check (by decide)

theorem FrozenServiceDefinition.read_json {definition : FrozenServiceDefinition}
    (h : Filed definition) : FrozenServiceDefinition.read definition.json = some definition := by
  obtain ⟨⟨parsed, hslug, hencode, hdigest⟩, t, hdated⟩ := h
  have hvalid := (ServiceDefinition.encode_iff.1 hencode).1
  have hslugValid : Valid definition.slug := by
    rw [← hslug]
    exact (slug_bytes (slug_of_validate hvalid)).printable.valid
  have hdigestValid : Valid definition.digest := by
    obtain ⟨transcript, -, htaken⟩ := bind_ok_iff.1 hdigest
    rw [← Except.ok.inj htaken]
    exact (canonicalDigest_word (sha256Hex_canonical transcript)).plain.valid
  have hdatedValid : Valid definition.frozenAt := by
    unfold parseCanonicalUTC at hdated
    split at hdated
    · cases hdated
    split at hdated
    · cases hdated
    · rename_i hparse
      exact Rfc3339.valid_of_parse hparse
  refine Json.bind_read (Json.members_present frozenFields rfl frozen_names) ?_
  refine Json.bind_read (Json.read_written frozen_names rfl
    (Json.readString_quoted_valid true hslugValid) rfl) ?_
  refine Json.bind_read (Json.read_written frozen_names rfl
    (Json.readString_quoted_valid true hdigestValid) rfl) ?_
  refine Json.bind_read (Json.read_written frozen_names rfl
    (Json.readString_quoted_valid true (encode_valid hencode)) rfl) ?_
  exact Json.bind_read (Json.read_written frozen_names rfl
    (Json.readString_quoted_valid true hdatedValid) rfl) rfl

private theorem FrozenServiceDefinition.sound_json (definition : FrozenServiceDefinition) :
    Json.Sound (some definition.json) := by
  have fields : ∀ f ∈ definition.fields, Json.Sound f.2 := by
    simp [FrozenServiceDefinition.fields, Json.sound_quoted]
  obtain ⟨hwellFormed, hdistinct⟩ := Json.sound_present frozenFields rfl frozen_names fields
  exact Json.sound_some hwellFormed hdistinct

/-- A document that may be in the file, and that can be listed. -/
structure ServiceDefinitionInventory.Recordable (state : ServiceDefinitionInventory) : Prop where
  admitted : state.Admitted
  revision : state.definitionRevision = state.definitions.items.length
  length : state.encode.length ≤ maxServiceDefinitionStateBytes
  listed : ∃ encoded, encodeServiceDefinitionsView (serviceDefinitionsView state) = .ok encoded

/-- A document that was written is read back. -/
theorem readServiceDefinitions_encode {state : ServiceDefinitionInventory}
    (h : state.Recordable) :
    readServiceDefinitions state.controllerID state.infrastructureID state.encode =
      .ok state := by
  have hadmitted := h.admitted
  have hempty : state.encode.length ≠ 0 := by
    rw [ServiceDefinitionInventory.encode, Json.render]
    simp
  have hrevision : state.definitionRevision < 2 ^ 64 := by
    have hfew : state.definitions.items.length ≤ 128 := hadmitted.bounded
    have hsmall : 128 < 2 ^ 64 := by decide
    rw [h.revision]
    omega
  have hdefinitions : ∀ definition ∈ state.definitions.items,
      FrozenServiceDefinition.read definition.json = some definition := fun definition hmem =>
    FrozenServiceDefinition.read_json (hadmitted.filed definition hmem)
  have hsound : ∀ f ∈ state.fields, Json.Sound f.2 := by
    have hall : Json.Sound
        (some (Slice.json FrozenServiceDefinition.json state.definitions)) :=
      Slice.sound_json fun definition _ => definition.sound_json
    simp only [ServiceDefinitionInventory.fields, List.forall_mem_cons, List.not_mem_nil,
      false_implies, implies_true, Json.sound_numeralInt, Json.sound_quoted, Json.sound_numeral,
      hall, and_self]
  have hread : ServiceDefinitionInventory.read (.object (Json.present state.fields)) =
      some state := by
    refine Json.bind_read (Json.members_present definitionInventoryFields rfl definition_names) ?_
    refine Json.bind_read (Json.read_written definition_names rfl (Json.readInt_numeralInt
      (by rw [hadmitted.schema]; decide) (by rw [hadmitted.schema]; decide)) rfl) ?_
    refine Json.bind_read (Json.read_written definition_names rfl (Json.readString_quoted_valid
      true (canonicalUUIDv4_word hadmitted.controller).plain.valid) rfl) ?_
    refine Json.bind_read (Json.read_written definition_names rfl (Json.readString_quoted_valid
      true (canonicalUUIDv4_word hadmitted.infrastructure).plain.valid) rfl) ?_
    refine Json.bind_read (Json.read_written definition_names rfl
      (Json.readUint64_numeral hrevision) rfl) ?_
    exact Json.bind_read (Json.read_written definition_names rfl
      (Slice.read_json hdefinitions) rfl) rfl
  have hdecode := Json.decode_present ServiceDefinitionInventory.read definitionInventoryFields
    rfl definition_names hsound (w := []) rfl
  rw [List.append_nil] at hdecode
  refine bind_ok_iff.2 ⟨(), demand_eq_ok.2 ?_, ?_⟩
  · rw [Bool.and_eq_true, decide_eq_true_eq, decide_eq_true_eq]
    exact ⟨hempty, h.length⟩
  refine bind_ok_iff.2 ⟨state, found_eq_ok.2 (hdecode.trans hread), ?_⟩
  refine bind_ok_iff.2 ⟨(), validateServiceDefinitionInventory_iff.2 hadmitted, ?_⟩
  exact bind_ok_iff.2 ⟨(), demand_eq_ok.2 (by simp), rfl⟩

/-! ## The document of a new Controller -/

def emptyInventory (controllerID infrastructureID : Bytes) : ServiceDefinitionInventory where
  schemaVersion := serviceDefinitionSchema
  controllerID := controllerID
  infrastructureID := infrastructureID
  definitionRevision := 0
  definitions := some []

theorem empty_length {controllerID infrastructureID : Bytes}
    (hcontroller : canonicalUUIDv4 controllerID = true)
    (hinfrastructure : canonicalUUIDv4 infrastructureID = true) :
    (emptyInventory controllerID infrastructureID).encode.length ≤ 1000 := by
  have hquoted (id : Bytes) (h : canonicalUUIDv4 id = true) :
      (Json.quoted true id).size ≤ 218 := by
    have hsize := Json.size_quoted_le true id
    have hlength := canonicalUUIDv4_length h
    omega
  have hcontrollerSize := hquoted controllerID hcontroller
  have hinfrastructureSize := hquoted infrastructureID hinfrastructure
  have hversion : (Json.numeralInt serviceDefinitionSchema).size = 1 := rfl
  have hrevision : (Json.numeral 0).size = 1 := rfl
  have hdefinitions : (Slice.json FrozenServiceDefinition.json (some [])).size = 2 := rfl
  have hnames : (text "schema_version").length = 14 ∧ (text "controller_id").length = 13 ∧
      (text "infrastructure_id").length = 17 ∧ (text "definition_revision").length = 19 ∧
      (text "definitions").length = 11 := by decide
  have hsize := Json.size_record_le (emptyInventory controllerID infrastructureID).fields
  simp only [ServiceDefinitionInventory.fields, emptyInventory, List.map_cons, List.map_nil,
    List.sum_cons, List.sum_nil, Json.fieldSize_some, hversion, hrevision, hdefinitions, hnames]
    at hsize
  show Json.size _ ≤ _
  simp only [ServiceDefinitionInventory.fields, emptyInventory]
  omega

/-- The document of a new Controller is within every bound. -/
theorem empty_recordable {controllerID infrastructureID : Bytes}
    (hcontroller : canonicalUUIDv4 controllerID = true)
    (hinfrastructure : canonicalUUIDv4 infrastructureID = true) :
    (emptyInventory controllerID infrastructureID).Recordable := by
  have hlength := empty_length hcontroller hinfrastructure
  constructor
  · exact ⟨rfl, hcontroller, hinfrastructure, by simp [emptyInventory], Nat.zero_le _,
      List.forall_mem_nil _, List.Pairwise.nil⟩
  · rfl
  · have hbound : maxServiceDefinitionStateBytes = 262144 := rfl
    omega
  · -- Without definitions the listing is the document itself.
    have hbound : maxAppResponseBytes = 131072 := rfl
    have hlisted : (serviceDefinitionsView (emptyInventory controllerID
        infrastructureID)).json.render.length ≤ maxAppResponseBytes := by
      show (emptyInventory controllerID infrastructureID).encode.length ≤ maxAppResponseBytes
      omega
    exact ⟨_, bind_ok_iff.2 ⟨(), demand_eq_ok.2 (decide_eq_true hlisted), rfl⟩⟩

end YourCloud.Controller.Definitions
