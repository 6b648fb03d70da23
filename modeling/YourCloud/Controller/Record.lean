import YourCloud.Approval.Envelope

/-!
# The document of the dispatch registry

One record is one launch of one signed approval.  The registry is one bounded
document; this module gives its data, what a valid one is, how it is written
and what it reads as.

A machine's own sentence is kept as received, so a record's texts are not known
to be well formed: what is read back is the document with the invalid bytes of
its texts replaced.

## Main results

* `DispatchRegistry.decode_encode` — a written registry reads as the registry
  with its texts replaced.
* `DispatchRecord.validate_iff` — the rules a record has to meet.
* `DispatchRecord.sanitize_approvalSHA256` — replacing leaves the digests by
  which the registry remembers.
-/

namespace YourCloud.Controller

open YourCloud.Foundation
open YourCloud.Approval

def dispatchRegistrySchema : Int := 1

/-- What a machine's own refusal may leave in the document. -/
def maxDispatchMachineSentenceBytes : Nat := 512

/-- What the Controller's account of its own attempt may leave in it. -/
def maxDispatchObservationBytes : Nat := 256

/-- The history one machine keeps. -/
def maxDispatchRecordsPerMachine : Nat := 32

/-- The bound of the whole file. -/
def maxDispatchStateBytes : Nat := 8 * 1024 * 1024

/-! ## Records -/

/-- Where a dispatch stands. -/
inductive DispatchState where
  | inFlight
  | notLaunched
  | machineRefused
  | reported
  | launchedUnreported
  deriving DecidableEq, Repr

namespace DispatchState

/-- How the document spells a state. -/
def name : DispatchState → Bytes
  | inFlight => text "in_flight"
  | notLaunched => text "not_launched"
  | machineRefused => text "machine_refused"
  | reported => text "reported"
  | launchedUnreported => text "launched_unreported"

def all : List DispatchState :=
  [inFlight, notLaunched, machineRefused, reported, launchedUnreported]

/-- The state a spelling names. -/
def ofName (s : Bytes) : Option DispatchState := all.find? fun state => state.name = s

theorem ofName_name (state : DispatchState) : ofName state.name = some state := by
  cases state <;> decide

theorem name_valid (state : DispatchState) : Valid state.name := by
  cases state <;> decide

end DispatchState

/-- One launch of one signed approval. -/
structure DispatchRecord where
  approvalSHA256 : Bytes
  machineID : Bytes
  operation : Bytes
  approvalEpoch : Nat
  sequence : Nat
  planSHA256 : Bytes
  rollbackSHA256 : Bytes
  state : DispatchState
  acceptedAtUnix : Nat
  finishedAtUnix : Nat
  expiresAtUnix : Nat
  machineSentence : Bytes
  controllerObservation : Bytes
  definitionSlug : Bytes
  definitionSHA256 : Bytes
  reportedChanged : Bool
  reportedOutcome : Bytes
  deriving DecidableEq, Repr

/-- Everything one launch established. -/
structure DispatchConclusion where
  state : DispatchState
  machineSentence : Bytes
  controllerObservation : Bytes
  reportedChanged : Bool
  reportedOutcome : Bytes
  deriving DecidableEq, Repr

/-- The durable document. -/
structure DispatchRegistry where
  schemaVersion : Int
  controllerID : Bytes
  infrastructureID : Bytes
  records : List DispatchRecord
  deriving DecidableEq, Repr

namespace DispatchRecord

def terminal (record : DispatchRecord) : Bool := decide (record.state ≠ .inFlight)

/-- The operations whose plan pins a definition. -/
def pinned (record : DispatchRecord) : Bool :=
  decide (record.operation = text "deploy_user_service" ∨
    record.operation = text "remove_user_service")

/-- The revision travels exactly with its door. -/
def definitionMatches (record : DispatchRecord) : Bool :=
  if record.pinned then
    decide (record.definitionSlug ≠ []) && canonicalDigest record.definitionSHA256
  else decide (record.definitionSlug = [] ∧ record.definitionSHA256 = [])

def validate (record : DispatchRecord) : Bool :=
  canonicalDigest record.approvalSHA256 &&
    canonicalDigest record.planSHA256 &&
    canonicalDigest record.rollbackSHA256 &&
    canonicalMachine record.machineID &&
    decide (record.operation ≠ [] ∧ record.approvalEpoch ≠ 0 ∧ record.sequence ≠ 0) &&
    record.definitionMatches &&
    decide (record.acceptedAtUnix < record.expiresAtUnix) &&
    decide (record.machineSentence.length ≤ maxDispatchMachineSentenceBytes) &&
    decide (record.controllerObservation.length ≤ maxDispatchObservationBytes) &&
    decide (record.machineSentence = [] ∨ record.controllerObservation = []) &&
    decide (record.acceptedAtUnix ≠ 0) &&
    decide (record.state = .inFlight → record.finishedAtUnix = 0)

end DispatchRecord

namespace DispatchRegistry

/-- The digests of the open records. -/
def openDigests (records : List DispatchRecord) : List Bytes :=
  (records.filter fun record => !record.terminal).map DispatchRecord.approvalSHA256

/-- What the registry may hold: no two open records hold the same signed bytes. -/
def validate (registry : DispatchRegistry) : Bool :=
  decide (registry.schemaVersion = dispatchRegistrySchema) &&
    canonicalUUIDv4 registry.controllerID &&
    canonicalUUIDv4 registry.infrastructureID &&
    registry.records.all DispatchRecord.validate &&
    decide (openDigests registry.records).Nodup

end DispatchRegistry

/-! ## Writing -/

/-- Whether the writer escapes markup: the registry's does. -/
def escapeHTML : Bool := true

def DispatchRecord.fields (record : DispatchRecord) : List (Bytes × Option Json) :=
  [(text "approval_sha256", some (Json.quoted escapeHTML record.approvalSHA256)),
    (text "machine_id", some (Json.quoted escapeHTML record.machineID)),
    (text "operation", some (Json.quoted escapeHTML record.operation)),
    (text "approval_epoch", some (Json.numeral record.approvalEpoch)),
    (text "sequence", some (Json.numeral record.sequence)),
    (text "plan_sha256", some (Json.quoted escapeHTML record.planSHA256)),
    (text "rollback_sha256", some (Json.quoted escapeHTML record.rollbackSHA256)),
    (text "state", some (Json.quoted escapeHTML record.state.name)),
    (text "accepted_at_unix", some (Json.numeral record.acceptedAtUnix)),
    (text "finished_at_unix", some (Json.numeral record.finishedAtUnix)),
    (text "expires_at_unix", some (Json.numeral record.expiresAtUnix)),
    (text "machine_sentence", some (Json.quoted escapeHTML record.machineSentence)),
    (text "controller_observation", some (Json.quoted escapeHTML record.controllerObservation)),
    (text "definition_slug", some (Json.quoted escapeHTML record.definitionSlug)),
    (text "definition_sha256", some (Json.quoted escapeHTML record.definitionSHA256)),
    (text "reported_changed", some (.bool record.reportedChanged)),
    (text "reported_outcome", some (Json.quoted escapeHTML record.reportedOutcome))]

def DispatchRecord.json (record : DispatchRecord) : Json :=
  .object (Json.present record.fields)

def DispatchRegistry.fields (registry : DispatchRegistry) : List (Bytes × Option Json) :=
  [(text "schema_version", some (Json.numeralInt registry.schemaVersion)),
    (text "controller_id", some (Json.quoted escapeHTML registry.controllerID)),
    (text "infrastructure_id", some (Json.quoted escapeHTML registry.infrastructureID)),
    (text "records", some (.array (registry.records.map DispatchRecord.json)))]

/-- The rendered document. -/
def DispatchRegistry.encode (registry : DispatchRegistry) : Bytes :=
  (Json.object (Json.present registry.fields)).render

/-! ## Reading -/

def recordFields : List Bytes :=
  [text "approval_sha256", text "machine_id", text "operation", text "approval_epoch",
    text "sequence", text "plan_sha256", text "rollback_sha256", text "state",
    text "accepted_at_unix", text "finished_at_unix", text "expires_at_unix",
    text "machine_sentence", text "controller_observation", text "definition_slug",
    text "definition_sha256", text "reported_changed", text "reported_outcome"]

def DispatchRecord.read (j : Json) : Option DispatchRecord := do
  let ms ← j.members recordFields
  let approvalSHA256 ← (Json.field ms (text "approval_sha256")).readString
  let machineID ← (Json.field ms (text "machine_id")).readString
  let operation ← (Json.field ms (text "operation")).readString
  let approvalEpoch ← (Json.field ms (text "approval_epoch")).readUint64
  let sequence ← (Json.field ms (text "sequence")).readUint64
  let planSHA256 ← (Json.field ms (text "plan_sha256")).readString
  let rollbackSHA256 ← (Json.field ms (text "rollback_sha256")).readString
  let state ← (Json.field ms (text "state")).readString
  let acceptedAtUnix ← (Json.field ms (text "accepted_at_unix")).readUint64
  let finishedAtUnix ← (Json.field ms (text "finished_at_unix")).readUint64
  let expiresAtUnix ← (Json.field ms (text "expires_at_unix")).readUint64
  let machineSentence ← (Json.field ms (text "machine_sentence")).readString
  let controllerObservation ← (Json.field ms (text "controller_observation")).readString
  let definitionSlug ← (Json.field ms (text "definition_slug")).readString
  let definitionSHA256 ← (Json.field ms (text "definition_sha256")).readString
  let reportedChanged ← (Json.field ms (text "reported_changed")).readBool
  let reportedOutcome ← (Json.field ms (text "reported_outcome")).readString
  -- A state outside the closed list is what the validation of the whole refuses.
  let state ← DispatchState.ofName state
  return { approvalSHA256, machineID, operation, approvalEpoch, sequence, planSHA256,
           rollbackSHA256, state, acceptedAtUnix, finishedAtUnix, expiresAtUnix,
           machineSentence, controllerObservation, definitionSlug, definitionSHA256,
           reportedChanged, reportedOutcome }

/-- The records must be present, even empty. -/
def readRecords : Json → Option (List DispatchRecord)
  | .array elements => elements.mapM DispatchRecord.read
  | _ => none

def registryFields : List Bytes :=
  [text "schema_version", text "controller_id", text "infrastructure_id", text "records"]

def DispatchRegistry.read (j : Json) : Option DispatchRegistry := do
  let ms ← j.members registryFields
  let schemaVersion ← (Json.field ms (text "schema_version")).readInt
  let controllerID ← (Json.field ms (text "controller_id")).readString
  let infrastructureID ← (Json.field ms (text "infrastructure_id")).readString
  let records ← readRecords (Json.field ms (text "records"))
  return { schemaVersion, controllerID, infrastructureID, records }

/-! ## What is written is read back, texts replaced -/

/-- The record whose texts have their invalid bytes replaced. -/
def DispatchRecord.sanitize (record : DispatchRecord) : DispatchRecord :=
  { record with
    approvalSHA256 := Foundation.sanitize record.approvalSHA256
    machineID := Foundation.sanitize record.machineID
    operation := Foundation.sanitize record.operation
    planSHA256 := Foundation.sanitize record.planSHA256
    rollbackSHA256 := Foundation.sanitize record.rollbackSHA256
    machineSentence := Foundation.sanitize record.machineSentence
    controllerObservation := Foundation.sanitize record.controllerObservation
    definitionSlug := Foundation.sanitize record.definitionSlug
    definitionSHA256 := Foundation.sanitize record.definitionSHA256
    reportedOutcome := Foundation.sanitize record.reportedOutcome }

def DispatchRegistry.sanitize (registry : DispatchRegistry) : DispatchRegistry :=
  { registry with
    controllerID := Foundation.sanitize registry.controllerID
    infrastructureID := Foundation.sanitize registry.infrastructureID
    records := registry.records.map DispatchRecord.sanitize }

/-- The numbers of a record fit the words they are held in. -/
structure DispatchRecord.Bounded (record : DispatchRecord) : Prop where
  approvalEpoch : record.approvalEpoch < 2 ^ 64
  sequence : record.sequence < 2 ^ 64
  acceptedAtUnix : record.acceptedAtUnix < 2 ^ 64
  finishedAtUnix : record.finishedAtUnix < 2 ^ 64
  expiresAtUnix : record.expiresAtUnix < 2 ^ 64

theorem record_names : Json.Names recordFields := Json.Names.of_check (by decide)

theorem registry_names : Json.Names registryFields := Json.Names.of_check (by decide)

theorem DispatchRecord.read_json {record : DispatchRecord} (h : record.Bounded) :
    DispatchRecord.read record.json = some record.sanitize := by
  have hms : record.json.members recordFields = some (Json.present record.fields) :=
    Json.members_present recordFields rfl record_names
  have hfield : ∀ name value, record.fields.lookup name = some value →
      Json.field (Json.present record.fields) name = value.getD .null :=
    fun name value hl => Json.field_present record_names.nodup hl
  have kept : ∀ name s, record.fields.lookup name = some (some (Json.quoted escapeHTML s)) →
      Json.readString (Json.field (Json.present record.fields) name) =
        some (Foundation.sanitize s) := by
    intro name s hl
    rw [hfield _ _ hl]
    exact Json.readString_quoted escapeHTML s
  have counter : ∀ name n, n < 2 ^ 64 → record.fields.lookup name = some (some (Json.numeral n)) →
      Json.readUint64 (Json.field (Json.present record.fields) name) = some n := by
    intro name n hn hl
    rw [hfield _ _ hl]
    exact Json.readUint64_numeral hn
  have changed : Json.readBool
      (Json.field (Json.present record.fields) (text "reported_changed")) =
      some record.reportedChanged := by
    rw [hfield (text "reported_changed") (some (.bool record.reportedChanged)) rfl]
    rfl
  have state : DispatchState.ofName (Foundation.sanitize record.state.name) =
      some record.state := by
    rw [record.state.name_valid]
    exact record.state.ofName_name
  refine Json.bind_read hms ?_
  refine Json.bind_read (kept (text "approval_sha256") record.approvalSHA256 rfl) ?_
  refine Json.bind_read (kept (text "machine_id") record.machineID rfl) ?_
  refine Json.bind_read (kept (text "operation") record.operation rfl) ?_
  refine Json.bind_read (counter (text "approval_epoch") _ h.approvalEpoch rfl) ?_
  refine Json.bind_read (counter (text "sequence") _ h.sequence rfl) ?_
  refine Json.bind_read (kept (text "plan_sha256") record.planSHA256 rfl) ?_
  refine Json.bind_read (kept (text "rollback_sha256") record.rollbackSHA256 rfl) ?_
  refine Json.bind_read (kept (text "state") record.state.name rfl) ?_
  refine Json.bind_read (counter (text "accepted_at_unix") _ h.acceptedAtUnix rfl) ?_
  refine Json.bind_read (counter (text "finished_at_unix") _ h.finishedAtUnix rfl) ?_
  refine Json.bind_read (counter (text "expires_at_unix") _ h.expiresAtUnix rfl) ?_
  refine Json.bind_read (kept (text "machine_sentence") record.machineSentence rfl) ?_
  refine Json.bind_read (kept (text "controller_observation") record.controllerObservation rfl) ?_
  refine Json.bind_read (kept (text "definition_slug") record.definitionSlug rfl) ?_
  refine Json.bind_read (kept (text "definition_sha256") record.definitionSHA256 rfl) ?_
  refine Json.bind_read changed ?_
  refine Json.bind_read (kept (text "reported_outcome") record.reportedOutcome rfl) ?_
  exact Json.bind_read state rfl

private theorem DispatchRecord.sound (record : DispatchRecord) :
    ∀ f ∈ record.fields, Json.Sound f.2 := by
  unfold DispatchRecord.fields
  repeat
    refine List.forall_mem_cons.2 ⟨?_, ?_⟩
    · first
        | exact Json.sound_quoted _ _
        | exact Json.sound_numeral _
        | exact Json.sound_bool _
  exact fun f hf => absurd hf List.not_mem_nil

theorem DispatchRecord.json_sound (record : DispatchRecord) :
    record.json.WellFormed ∧ record.json.distinct = true :=
  Json.sound_present recordFields rfl record_names record.sound

private theorem readRecords_json {records : List DispatchRecord}
    (h : ∀ record ∈ records, record.Bounded) :
    readRecords (.array (records.map DispatchRecord.json)) =
      some (records.map DispatchRecord.sanitize) := by
  rw [readRecords]
  induction records with
  | nil => rfl
  | cons record records ih =>
      rw [List.map_cons, List.mapM_cons, DispatchRecord.read_json (h record List.mem_cons_self),
        ih fun r hr => h r (List.mem_cons_of_mem _ hr)]
      rfl

private theorem DispatchRegistry.sound (registry : DispatchRegistry) :
    ∀ f ∈ registry.fields, Json.Sound f.2 := by
  have records : Json.Sound (some (.array (registry.records.map DispatchRecord.json))) := by
    refine Json.sound_some (Json.wellFormed_array fun j hj => ?_)
      (Json.distinct_array fun j hj => ?_)
    · obtain ⟨record, -, rfl⟩ := List.mem_map.1 hj
      exact record.json_sound.1
    · obtain ⟨record, -, rfl⟩ := List.mem_map.1 hj
      exact record.json_sound.2
  unfold DispatchRegistry.fields
  refine List.forall_mem_cons.2 ⟨Json.sound_numeralInt _, ?_⟩
  refine List.forall_mem_cons.2 ⟨Json.sound_quoted _ _, ?_⟩
  refine List.forall_mem_cons.2 ⟨Json.sound_quoted _ _, ?_⟩
  refine List.forall_mem_cons.2 ⟨records, ?_⟩
  exact fun f hf => absurd hf List.not_mem_nil

/-- The written registry reads as the registry, texts replaced. -/
theorem DispatchRegistry.decode_encode {registry : DispatchRegistry}
    (hschema : registry.schemaVersion = dispatchRegistrySchema)
    (h : ∀ record ∈ registry.records, record.Bounded) :
    Json.decode DispatchRegistry.read registry.encode = some registry.sanitize := by
  have hdecode := Json.decode_present DispatchRegistry.read registryFields rfl registry_names
    registry.sound (w := []) rfl
  rw [List.append_nil] at hdecode
  rw [DispatchRegistry.encode, hdecode]
  have hfield : ∀ name value, registry.fields.lookup name = some value →
      Json.field (Json.present registry.fields) name = value.getD .null :=
    fun name value hl => Json.field_present registry_names.nodup hl
  have schemaVersion : Json.readInt
      (Json.field (Json.present registry.fields) (text "schema_version")) =
      some registry.schemaVersion := by
    rw [hfield (text "schema_version") (some (Json.numeralInt registry.schemaVersion)) rfl]
    refine Json.readInt_numeralInt ?_ ?_ <;> rw [hschema] <;> decide
  have controllerID : Json.readString
      (Json.field (Json.present registry.fields) (text "controller_id")) =
      some (Foundation.sanitize registry.controllerID) := by
    rw [hfield (text "controller_id") (some (Json.quoted escapeHTML registry.controllerID)) rfl]
    exact Json.readString_quoted escapeHTML _
  have infrastructureID : Json.readString
      (Json.field (Json.present registry.fields) (text "infrastructure_id")) =
      some (Foundation.sanitize registry.infrastructureID) := by
    rw [hfield (text "infrastructure_id")
      (some (Json.quoted escapeHTML registry.infrastructureID)) rfl]
    exact Json.readString_quoted escapeHTML _
  have records : readRecords (Json.field (Json.present registry.fields) (text "records")) =
      some (registry.records.map DispatchRecord.sanitize) := by
    rw [hfield (text "records") (some (.array (registry.records.map DispatchRecord.json))) rfl]
    exact readRecords_json h
  refine Json.bind_read (Json.members_present registryFields rfl registry_names) ?_
  refine Json.bind_read schemaVersion ?_
  refine Json.bind_read controllerID ?_
  refine Json.bind_read infrastructureID ?_
  exact Json.bind_read records rfl

/-! ## What a valid document is known to be -/

theorem DispatchRecord.validate_iff {record : DispatchRecord} :
    record.validate = true ↔
      canonicalDigest record.approvalSHA256 = true ∧
      canonicalDigest record.planSHA256 = true ∧
      canonicalDigest record.rollbackSHA256 = true ∧
      canonicalMachine record.machineID = true ∧
      (record.operation ≠ [] ∧ record.approvalEpoch ≠ 0 ∧ record.sequence ≠ 0) ∧
      record.definitionMatches = true ∧
      record.acceptedAtUnix < record.expiresAtUnix ∧
      record.machineSentence.length ≤ maxDispatchMachineSentenceBytes ∧
      record.controllerObservation.length ≤ maxDispatchObservationBytes ∧
      (record.machineSentence = [] ∨ record.controllerObservation = []) ∧
      record.acceptedAtUnix ≠ 0 ∧
      (record.state = .inFlight → record.finishedAtUnix = 0) := by
  simp only [DispatchRecord.validate, Bool.and_eq_true, decide_eq_true_eq, and_assoc]

/-- Replacing leaves the digest of a valid record. -/
theorem DispatchRecord.sanitize_approvalSHA256 {record : DispatchRecord}
    (h : record.validate = true) : record.sanitize.approvalSHA256 = record.approvalSHA256 :=
  (canonicalDigest_word (validate_iff.1 h).1).plain.valid

theorem DispatchRegistry.validate_iff {registry : DispatchRegistry} :
    registry.validate = true ↔
      registry.schemaVersion = dispatchRegistrySchema ∧
      canonicalUUIDv4 registry.controllerID = true ∧
      canonicalUUIDv4 registry.infrastructureID = true ∧
      (∀ record ∈ registry.records, record.validate = true) ∧
      (openDigests registry.records).Nodup := by
  simp only [DispatchRegistry.validate, Bool.and_eq_true, decide_eq_true_eq, List.all_eq_true,
    and_assoc]

end YourCloud.Controller
