import YourCloud.Foundation.JsonText

/-!
# The report document

The one document a machine renders when an approved operation concluded, and
the one document the Controller reads back.  It holds field definitions and no
behaviour; what is written and what is read are stated once here, for both
programs.

A text of a report is not known to be well formed, so what is read back is the
report with the invalid bytes of its texts replaced.

## Main results

* `Report.read_json` — a written report reads as the report with its texts
  replaced.
* `Observation.sanitize_eq_iff` — an observation is left as it is exactly when
  its texts are well formed.
* `Report.decode_render` — a written report is read back through its bytes.
* `Report.decode_cut` — a report that lost more than its line break is none.
-/

namespace YourCloud.AuxiliaryReport

open YourCloud.Foundation

/-- The closed vocabulary of conclusions. -/
def outcomeApplied : Bytes := text "applied"

def outcomeRolledBack : Bytes := text "rolled_back_after_controlled_failure"

def outcomePartial : Bytes := text "partial_state_after_failed_rollback"

/-! ## The document -/

/-- What read-only calls could still establish about a machine. -/
structure Observation where
  account : Bytes
  unitFile : Bytes
  service : Bytes
  container : Bytes
  fragment : Bytes
  linkKey : Bytes
  linkInterface : Bytes
  linkPeer : Bytes
  linkBounds : Bytes
  data : Bytes
  egress : Bytes
  archive : Bytes
  deriving DecidableEq, Repr

/-- What one accepted approval is answered with. -/
structure Report where
  schemaVersion : Int
  operation : Bytes
  infrastructureID : Bytes
  machineID : Bytes
  approvalEpoch : Nat
  consumedSequence : Nat
  planSHA256 : Bytes
  rollbackSHA256 : Bytes
  privileges : List Bytes
  planOperation : Bytes
  localPort : Int
  unitPath : Bytes
  routeHost : Bytes
  fragmentPath : Bytes
  passageState : Bytes
  linkPublicKey : Bytes
  dataPath : Bytes
  secretsPath : Bytes
  snapshotSlot : Bytes
  previousSlot : Bytes
  archiveSHA256 : Bytes
  archivedAt : Bytes
  snapshotSlots : List Bytes
  serviceState : Bytes
  outcome : Bytes
  rollbackAttempted : Bool
  observed : Option Observation
  changed : Bool
  deriving DecidableEq, Repr

/-! ## Writing -/

/-- Whether the writer escapes markup: the report's does. -/
def escapeHTML : Bool := true

def Observation.fields (o : Observation) : List (Bytes × Option Json) :=
  [(text "account", Json.omitEmpty escapeHTML o.account),
    (text "unit_file", Json.omitEmpty escapeHTML o.unitFile),
    (text "service", Json.omitEmpty escapeHTML o.service),
    (text "container", Json.omitEmpty escapeHTML o.container),
    (text "fragment", Json.omitEmpty escapeHTML o.fragment),
    (text "link_key", Json.omitEmpty escapeHTML o.linkKey),
    (text "link_interface", Json.omitEmpty escapeHTML o.linkInterface),
    (text "link_peer", Json.omitEmpty escapeHTML o.linkPeer),
    (text "link_bounds", Json.omitEmpty escapeHTML o.linkBounds),
    (text "data", Json.omitEmpty escapeHTML o.data),
    (text "egress", Json.omitEmpty escapeHTML o.egress),
    (text "archive", Json.omitEmpty escapeHTML o.archive)]

def Observation.json (o : Observation) : Json := .object (Json.present o.fields)

/-- A list of texts. -/
def textsJson (texts : List Bytes) : Json :=
  .array (texts.map (Json.quoted escapeHTML))

def Report.fields (r : Report) : List (Bytes × Option Json) :=
  [(text "schema_version", some (Json.numeralInt r.schemaVersion)),
    (text "operation", some (Json.quoted escapeHTML r.operation)),
    (text "infrastructure_id", some (Json.quoted escapeHTML r.infrastructureID)),
    (text "machine_id", some (Json.quoted escapeHTML r.machineID)),
    (text "approval_epoch", some (Json.numeral r.approvalEpoch)),
    (text "consumed_sequence", some (Json.numeral r.consumedSequence)),
    (text "plan_sha256", some (Json.quoted escapeHTML r.planSHA256)),
    (text "rollback_sha256", some (Json.quoted escapeHTML r.rollbackSHA256)),
    (text "privileges", some (textsJson r.privileges)),
    (text "plan_operation", Json.omitEmpty escapeHTML r.planOperation),
    (text "local_port", Json.omitZero r.localPort),
    (text "unit_path", Json.omitEmpty escapeHTML r.unitPath),
    (text "route_host", Json.omitEmpty escapeHTML r.routeHost),
    (text "fragment_path", Json.omitEmpty escapeHTML r.fragmentPath),
    (text "passage_state", Json.omitEmpty escapeHTML r.passageState),
    (text "link_public_key", Json.omitEmpty escapeHTML r.linkPublicKey),
    (text "data_path", Json.omitEmpty escapeHTML r.dataPath),
    (text "secrets_path", Json.omitEmpty escapeHTML r.secretsPath),
    (text "snapshot_slot", Json.omitEmpty escapeHTML r.snapshotSlot),
    (text "previous_slot", Json.omitEmpty escapeHTML r.previousSlot),
    (text "archive_sha256", Json.omitEmpty escapeHTML r.archiveSHA256),
    (text "archived_at", Json.omitEmpty escapeHTML r.archivedAt),
    (text "snapshot_slots",
      if r.snapshotSlots = [] then none else some (textsJson r.snapshotSlots)),
    (text "service_state", Json.omitEmpty escapeHTML r.serviceState),
    (text "outcome", Json.omitEmpty escapeHTML r.outcome),
    (text "rollback_attempted", if r.rollbackAttempted then some (.bool true) else none),
    (text "observed", r.observed.map Observation.json),
    (text "changed", some (.bool r.changed))]

def Report.json (r : Report) : Json := .object (Json.present r.fields)

/-- The rendered document, with the line break the encoder ends it with. -/
def Report.encode (r : Report) : Bytes := r.json.render ++ text "\n"

/-! ## Reading -/

def observationFields : List Bytes :=
  [text "account", text "unit_file", text "service", text "container", text "fragment",
    text "link_key", text "link_interface", text "link_peer", text "link_bounds", text "data",
    text "egress", text "archive"]

def Observation.read (j : Json) : Option Observation := do
  let ms ← j.members observationFields
  let account ← (Json.field ms (text "account")).readString
  let unitFile ← (Json.field ms (text "unit_file")).readString
  let service ← (Json.field ms (text "service")).readString
  let container ← (Json.field ms (text "container")).readString
  let fragment ← (Json.field ms (text "fragment")).readString
  let linkKey ← (Json.field ms (text "link_key")).readString
  let linkInterface ← (Json.field ms (text "link_interface")).readString
  let linkPeer ← (Json.field ms (text "link_peer")).readString
  let linkBounds ← (Json.field ms (text "link_bounds")).readString
  let data ← (Json.field ms (text "data")).readString
  let egress ← (Json.field ms (text "egress")).readString
  let archive ← (Json.field ms (text "archive")).readString
  return { account, unitFile, service, container, fragment, linkKey, linkInterface, linkPeer,
           linkBounds, data, egress, archive }

/-- A pointer field: `null` leaves it empty. -/
def readObserved : Json → Option (Option Observation)
  | .null => some none
  | j => (Observation.read j).map some

def reportFields : List Bytes :=
  [text "schema_version", text "operation", text "infrastructure_id", text "machine_id",
    text "approval_epoch", text "consumed_sequence", text "plan_sha256", text "rollback_sha256",
    text "privileges", text "plan_operation", text "local_port", text "unit_path",
    text "route_host", text "fragment_path", text "passage_state", text "link_public_key",
    text "data_path", text "secrets_path", text "snapshot_slot", text "previous_slot",
    text "archive_sha256", text "archived_at", text "snapshot_slots", text "service_state",
    text "outcome", text "rollback_attempted", text "observed", text "changed"]

def Report.read (j : Json) : Option Report := do
  let ms ← j.members reportFields
  let schemaVersion ← (Json.field ms (text "schema_version")).readInt
  let operation ← (Json.field ms (text "operation")).readString
  let infrastructureID ← (Json.field ms (text "infrastructure_id")).readString
  let machineID ← (Json.field ms (text "machine_id")).readString
  let approvalEpoch ← (Json.field ms (text "approval_epoch")).readUint64
  let consumedSequence ← (Json.field ms (text "consumed_sequence")).readUint64
  let planSHA256 ← (Json.field ms (text "plan_sha256")).readString
  let rollbackSHA256 ← (Json.field ms (text "rollback_sha256")).readString
  let privileges ← (Json.field ms (text "privileges")).readStrings
  let planOperation ← (Json.field ms (text "plan_operation")).readString
  let localPort ← (Json.field ms (text "local_port")).readInt
  let unitPath ← (Json.field ms (text "unit_path")).readString
  let routeHost ← (Json.field ms (text "route_host")).readString
  let fragmentPath ← (Json.field ms (text "fragment_path")).readString
  let passageState ← (Json.field ms (text "passage_state")).readString
  let linkPublicKey ← (Json.field ms (text "link_public_key")).readString
  let dataPath ← (Json.field ms (text "data_path")).readString
  let secretsPath ← (Json.field ms (text "secrets_path")).readString
  let snapshotSlot ← (Json.field ms (text "snapshot_slot")).readString
  let previousSlot ← (Json.field ms (text "previous_slot")).readString
  let archiveSHA256 ← (Json.field ms (text "archive_sha256")).readString
  let archivedAt ← (Json.field ms (text "archived_at")).readString
  let snapshotSlots ← (Json.field ms (text "snapshot_slots")).readStrings
  let serviceState ← (Json.field ms (text "service_state")).readString
  let outcome ← (Json.field ms (text "outcome")).readString
  let rollbackAttempted ← (Json.field ms (text "rollback_attempted")).readBool
  let observed ← readObserved (Json.field ms (text "observed"))
  let changed ← (Json.field ms (text "changed")).readBool
  return { schemaVersion, operation, infrastructureID, machineID, approvalEpoch,
           consumedSequence, planSHA256, rollbackSHA256, privileges, planOperation, localPort,
           unitPath, routeHost, fragmentPath, passageState, linkPublicKey, dataPath, secretsPath,
           snapshotSlot, previousSlot, archiveSHA256, archivedAt, snapshotSlots, serviceState,
           outcome, rollbackAttempted, observed, changed }

/-! ## What is written is read back, texts replaced -/

def Observation.sanitize (o : Observation) : Observation where
  account := Foundation.sanitize o.account
  unitFile := Foundation.sanitize o.unitFile
  service := Foundation.sanitize o.service
  container := Foundation.sanitize o.container
  fragment := Foundation.sanitize o.fragment
  linkKey := Foundation.sanitize o.linkKey
  linkInterface := Foundation.sanitize o.linkInterface
  linkPeer := Foundation.sanitize o.linkPeer
  linkBounds := Foundation.sanitize o.linkBounds
  data := Foundation.sanitize o.data
  egress := Foundation.sanitize o.egress
  archive := Foundation.sanitize o.archive

/-- The texts of an observation. -/
def Observation.texts (o : Observation) : List Bytes :=
  [o.account, o.unitFile, o.service, o.container, o.fragment, o.linkKey, o.linkInterface,
    o.linkPeer, o.linkBounds, o.data, o.egress, o.archive]

theorem Observation.sanitize_eq_iff {o : Observation} :
    o.sanitize = o ↔ ∀ s ∈ o.texts, Valid s := by
  obtain ⟨account, unitFile, service, container, fragment, linkKey, linkInterface, linkPeer,
    linkBounds, data, egress, archive⟩ := o
  simp only [Observation.sanitize, Observation.mk.injEq, Observation.texts,
    List.forall_mem_cons, List.not_mem_nil, false_implies, implies_true, and_true, Valid]

/-- The report whose texts have their invalid bytes replaced. -/
def Report.sanitize (r : Report) : Report :=
  { r with
    operation := Foundation.sanitize r.operation
    infrastructureID := Foundation.sanitize r.infrastructureID
    machineID := Foundation.sanitize r.machineID
    planSHA256 := Foundation.sanitize r.planSHA256
    rollbackSHA256 := Foundation.sanitize r.rollbackSHA256
    privileges := r.privileges.map Foundation.sanitize
    planOperation := Foundation.sanitize r.planOperation
    unitPath := Foundation.sanitize r.unitPath
    routeHost := Foundation.sanitize r.routeHost
    fragmentPath := Foundation.sanitize r.fragmentPath
    passageState := Foundation.sanitize r.passageState
    linkPublicKey := Foundation.sanitize r.linkPublicKey
    dataPath := Foundation.sanitize r.dataPath
    secretsPath := Foundation.sanitize r.secretsPath
    snapshotSlot := Foundation.sanitize r.snapshotSlot
    previousSlot := Foundation.sanitize r.previousSlot
    archiveSHA256 := Foundation.sanitize r.archiveSHA256
    archivedAt := Foundation.sanitize r.archivedAt
    snapshotSlots := r.snapshotSlots.map Foundation.sanitize
    serviceState := Foundation.sanitize r.serviceState
    outcome := Foundation.sanitize r.outcome
    observed := r.observed.map Observation.sanitize }

/-- The numbers of a report fit the words they are held in. -/
structure Report.Bounded (r : Report) : Prop where
  schemaVersion : -2 ^ 63 ≤ r.schemaVersion ∧ r.schemaVersion < 2 ^ 63
  approvalEpoch : r.approvalEpoch < 2 ^ 64
  consumedSequence : r.consumedSequence < 2 ^ 64
  localPort : -2 ^ 63 ≤ r.localPort ∧ r.localPort < 2 ^ 63

theorem observation_names : Json.Names observationFields := Json.Names.of_check (by decide)

theorem report_names : Json.Names reportFields := Json.Names.of_check (by decide)

theorem Observation.read_json (o : Observation) : Observation.read o.json = some o.sanitize := by
  have hms : o.json.members observationFields = some (Json.present o.fields) :=
    Json.members_present observationFields rfl observation_names
  have omitted : ∀ name s, o.fields.lookup name = some (Json.omitEmpty escapeHTML s) →
      Json.readString (Json.field (Json.present o.fields) name) =
        some (Foundation.sanitize s) := by
    intro name s hl
    have hnodup : (o.fields.map Prod.fst).Nodup := observation_names.nodup
    rw [Json.field_present hnodup hl]
    exact Json.readString_omitEmpty escapeHTML s
  refine Json.bind_read hms ?_
  refine Json.bind_read (omitted (text "account") o.account rfl) ?_
  refine Json.bind_read (omitted (text "unit_file") o.unitFile rfl) ?_
  refine Json.bind_read (omitted (text "service") o.service rfl) ?_
  refine Json.bind_read (omitted (text "container") o.container rfl) ?_
  refine Json.bind_read (omitted (text "fragment") o.fragment rfl) ?_
  refine Json.bind_read (omitted (text "link_key") o.linkKey rfl) ?_
  refine Json.bind_read (omitted (text "link_interface") o.linkInterface rfl) ?_
  refine Json.bind_read (omitted (text "link_peer") o.linkPeer rfl) ?_
  refine Json.bind_read (omitted (text "link_bounds") o.linkBounds rfl) ?_
  refine Json.bind_read (omitted (text "data") o.data rfl) ?_
  refine Json.bind_read (omitted (text "egress") o.egress rfl) ?_
  exact Json.bind_read (omitted (text "archive") o.archive rfl) rfl

private theorem readObserved_json (observed : Option Observation) :
    readObserved ((observed.map Observation.json).getD .null) =
      some (observed.map Observation.sanitize) := by
  cases observed with
  | none => rfl
  | some o =>
      show (Observation.read o.json).map some = _
      rw [o.read_json]
      rfl

private theorem readStrings_slots (slots : List Bytes) :
    Json.readStrings ((if slots = [] then none else some (textsJson slots)).getD .null) =
      some (slots.map Foundation.sanitize) := by
  split
  · subst_vars
    rfl
  · exact Json.readStrings_quoted escapeHTML slots

private theorem readBool_flag (flag : Bool) :
    Json.readBool ((if flag then some (.bool true) else none : Option Json).getD .null) =
      some flag := by
  cases flag <;> rfl

theorem Report.read_json {r : Report} (h : r.Bounded) : Report.read r.json = some r.sanitize := by
  have hms : r.json.members reportFields = some (Json.present r.fields) :=
    Json.members_present reportFields rfl report_names
  have hfield : ∀ name value, r.fields.lookup name = some value →
      Json.field (Json.present r.fields) name = value.getD .null :=
    fun name value hl => Json.field_present report_names.nodup hl
  -- A text that is always there, and one that is left out when it is empty.
  have kept : ∀ name s, r.fields.lookup name = some (some (Json.quoted escapeHTML s)) →
      Json.readString (Json.field (Json.present r.fields) name) =
        some (Foundation.sanitize s) := by
    intro name s hl
    rw [hfield _ _ hl]
    exact Json.readString_quoted escapeHTML s
  have omitted : ∀ name s, r.fields.lookup name = some (Json.omitEmpty escapeHTML s) →
      Json.readString (Json.field (Json.present r.fields) name) =
        some (Foundation.sanitize s) := by
    intro name s hl
    rw [hfield _ _ hl]
    exact Json.readString_omitEmpty escapeHTML s
  have counter : ∀ name n, n < 2 ^ 64 → r.fields.lookup name = some (some (Json.numeral n)) →
      Json.readUint64 (Json.field (Json.present r.fields) name) = some n := by
    intro name n hn hl
    rw [hfield _ _ hl]
    exact Json.readUint64_numeral hn
  have schemaVersion : Json.readInt (Json.field (Json.present r.fields) (text "schema_version")) =
      some r.schemaVersion := by
    rw [hfield (text "schema_version") (some (Json.numeralInt r.schemaVersion)) rfl]
    exact Json.readInt_numeralInt h.schemaVersion.1 h.schemaVersion.2
  have privileges : Json.readStrings (Json.field (Json.present r.fields) (text "privileges")) =
      some (r.privileges.map Foundation.sanitize) := by
    rw [hfield (text "privileges") (some (textsJson r.privileges)) rfl]
    exact Json.readStrings_quoted escapeHTML r.privileges
  have localPort : Json.readInt (Json.field (Json.present r.fields) (text "local_port")) =
      some r.localPort := by
    rw [hfield (text "local_port") (Json.omitZero r.localPort) rfl]
    exact Json.readInt_omitZero h.localPort.1 h.localPort.2
  have slots : Json.readStrings (Json.field (Json.present r.fields) (text "snapshot_slots")) =
      some (r.snapshotSlots.map Foundation.sanitize) := by
    rw [hfield (text "snapshot_slots") _ rfl]
    exact readStrings_slots r.snapshotSlots
  have attempted : Json.readBool
      (Json.field (Json.present r.fields) (text "rollback_attempted")) =
      some r.rollbackAttempted := by
    rw [hfield (text "rollback_attempted") _ rfl]
    exact readBool_flag r.rollbackAttempted
  have observed : readObserved (Json.field (Json.present r.fields) (text "observed")) =
      some (r.observed.map Observation.sanitize) := by
    rw [hfield (text "observed") (r.observed.map Observation.json) rfl]
    exact readObserved_json r.observed
  have changed : Json.readBool (Json.field (Json.present r.fields) (text "changed")) =
      some r.changed := by
    rw [hfield (text "changed") (some (.bool r.changed)) rfl]
    rfl
  refine Json.bind_read hms ?_
  refine Json.bind_read schemaVersion ?_
  refine Json.bind_read (kept (text "operation") r.operation rfl) ?_
  refine Json.bind_read (kept (text "infrastructure_id") r.infrastructureID rfl) ?_
  refine Json.bind_read (kept (text "machine_id") r.machineID rfl) ?_
  refine Json.bind_read (counter (text "approval_epoch") _ h.approvalEpoch rfl) ?_
  refine Json.bind_read (counter (text "consumed_sequence") _ h.consumedSequence rfl) ?_
  refine Json.bind_read (kept (text "plan_sha256") r.planSHA256 rfl) ?_
  refine Json.bind_read (kept (text "rollback_sha256") r.rollbackSHA256 rfl) ?_
  refine Json.bind_read privileges ?_
  refine Json.bind_read (omitted (text "plan_operation") r.planOperation rfl) ?_
  refine Json.bind_read localPort ?_
  refine Json.bind_read (omitted (text "unit_path") r.unitPath rfl) ?_
  refine Json.bind_read (omitted (text "route_host") r.routeHost rfl) ?_
  refine Json.bind_read (omitted (text "fragment_path") r.fragmentPath rfl) ?_
  refine Json.bind_read (omitted (text "passage_state") r.passageState rfl) ?_
  refine Json.bind_read (omitted (text "link_public_key") r.linkPublicKey rfl) ?_
  refine Json.bind_read (omitted (text "data_path") r.dataPath rfl) ?_
  refine Json.bind_read (omitted (text "secrets_path") r.secretsPath rfl) ?_
  refine Json.bind_read (omitted (text "snapshot_slot") r.snapshotSlot rfl) ?_
  refine Json.bind_read (omitted (text "previous_slot") r.previousSlot rfl) ?_
  refine Json.bind_read (omitted (text "archive_sha256") r.archiveSHA256 rfl) ?_
  refine Json.bind_read (omitted (text "archived_at") r.archivedAt rfl) ?_
  refine Json.bind_read slots ?_
  refine Json.bind_read (omitted (text "service_state") r.serviceState rfl) ?_
  refine Json.bind_read (omitted (text "outcome") r.outcome rfl) ?_
  refine Json.bind_read attempted ?_
  refine Json.bind_read observed ?_
  exact Json.bind_read changed rfl

private theorem Observation.sound (o : Observation) : ∀ f ∈ o.fields, Json.Sound f.2 := by
  unfold Observation.fields
  repeat
    refine List.forall_mem_cons.2 ⟨Json.sound_omitEmpty _ _, ?_⟩
  exact fun f hf => absurd hf List.not_mem_nil

private theorem Report.sound (r : Report) : ∀ f ∈ r.fields, Json.Sound f.2 := by
  have slots : Json.Sound (if r.snapshotSlots = [] then none
      else some (textsJson r.snapshotSlots)) := by
    split
    · exact Json.sound_none
    · exact Json.sound_texts _ _
  have attempted : Json.Sound (if r.rollbackAttempted then some (.bool true) else none) := by
    split
    · exact Json.sound_bool true
    · exact Json.sound_none
  have observed : Json.Sound (r.observed.map Observation.json) := by
    cases r.observed with
    | none => exact Json.sound_none
    | some o =>
        obtain ⟨hw, hd⟩ := Json.sound_present observationFields rfl observation_names o.sound
        exact Json.sound_some hw hd
  unfold Report.fields
  repeat
    refine List.forall_mem_cons.2 ⟨?_, ?_⟩
    · first
        | exact Json.sound_omitEmpty _ _
        | exact Json.sound_quoted _ _
        | exact Json.sound_numeral _
        | exact Json.sound_numeralInt _
        | exact Json.sound_omitZero _
        | exact Json.sound_bool _
        | exact Json.sound_texts _ _
        | exact slots
        | exact attempted
        | exact observed
  exact fun f hf => absurd hf List.not_mem_nil

theorem Report.json_wellFormed (r : Report) : r.json.WellFormed :=
  (Json.sound_present reportFields rfl report_names r.sound).1

/-- The rendered report reads as the report, texts replaced. -/
theorem Report.decode_render {r : Report} (h : r.Bounded) {w : Bytes}
    (hw : w.all Json.isSpace = true) :
    Json.decode Report.read (r.json.render ++ w) = some r.sanitize := by
  rw [Report.json, Json.decode_present Report.read reportFields rfl report_names r.sound hw]
  exact Report.read_json h

/-- Less than a whole report is no report. -/
theorem Report.decode_cut (r : Report) {n : Nat} (h : n < r.json.render.length) :
    Json.decode Report.read (r.json.render.take n) = none := by
  have hrest : r.json.render.drop n ≠ [] := by
    intro hnil
    have := List.length_drop (i := n) (l := r.json.render)
    rw [hnil, List.length_nil] at this
    omega
  have hcut : Json.parse (r.json.render.take n) = none :=
    Json.parse_cut r.json_wellFormed (List.take_append_drop n _).symm hrest
  rw [Json.decode, hcut]
  rfl

end YourCloud.AuxiliaryReport
