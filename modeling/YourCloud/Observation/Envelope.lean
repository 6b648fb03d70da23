import YourCloud.Foundation.JsonRead
import YourCloud.Foundation.Instants

/-!
# The host-health message

What a Daemon reports of its machine: the state of the host, the declared
loopback targets, and the ranges of observations that were discarded before it.
A message is queued, sent and stored as the bytes its encoding gives, so the
encoding of a message that a Daemon queued must read as that message.

## Main results

* `Envelope.decode_encode` — an encoded message is read back.
* `representable_of_validate`, `decode_representable` — what passes the checks, and
  what was decoded, can be written.
-/

namespace YourCloud.Observation

open YourCloud.Foundation

/-! ## Data -/

/-- The only accepted schema of the message. -/
def schemaVersion : Int := 1

/-- The producer version the Relay accepts. -/
def daemonVersion : Bytes := text "v0.3.0"

/-- The fixed set of collectors. -/
def profile : Bytes := text "host-health.v1"

/-- Bounds an encoded message. -/
def maxMessageBytes : Nat := 4096

/-- Bounds the declared-target section. -/
def maxExternalReadings : Nat := 16

def externalAnswered : Bytes := text "answered"

def externalNoListener : Bytes := text "no_listener"

def externalTooLarge : Bytes := text "response_too_large"

def externalManaged : Bytes := text "managed_by_this_product"

def statusOK : Bytes := text "ok"

def statusError : Bytes := text "error"

def errorRead : Bytes := text "source_unavailable"

def errorValue : Bytes := text "source_invalid"

/-- One contiguous range of discarded observations. -/
structure Gap where
  firstSequence : Nat
  lastSequence : Nat
  droppedCount : Nat
  firstObservedAt : Bytes
  lastObservedAt : Bytes
  deriving DecidableEq, Repr

/-- A typed value or a bounded failure code. -/
structure UptimeResult where
  status : Bytes
  uptimeSeconds : Option UInt64
  error : Bytes
  deriving DecidableEq, Repr

/-- A total with what is available of it, or a bounded failure code. -/
structure PairResult where
  status : Bytes
  totalBytes : Option UInt64
  availableBytes : Option UInt64
  error : Bytes
  deriving DecidableEq, Repr

/-- The three approved collectors. -/
structure HostHealth where
  uptime : UptimeResult
  memory : PairResult
  rootFS : PairResult
  deriving DecidableEq, Repr

/-- One bounded conclusion about one declared loopback port. -/
structure ExternalReading where
  probePort : Int
  outcome : Bytes
  deriving DecidableEq, Repr

structure Envelope where
  schemaVersion : Int
  machineID : Bytes
  daemonVersion : Bytes
  profile : Bytes
  sequence : Nat
  observedAt : Bytes
  health : HostHealth
  gaps : List Gap
  external : List ExternalReading
  deriving DecidableEq, Repr

/-! ## Checks

A check answers with the error it fails with, and with none where it passes. -/

def validErrorCode (value : Bytes) : Bool := value = errorRead || value = errorValue

def validateUptime (result : UptimeResult) : Option String :=
  if result.status = statusOK then
    if result.uptimeSeconds = none ∨ result.error ≠ [] then
      some "ok result must contain only uptime_seconds"
    else none
  else if result.status = statusError then
    if result.uptimeSeconds ≠ none ∨ validErrorCode result.error = false then
      some "error result must contain one supported error code"
    else none
  else some "unsupported collector status"

/-- Whether both numbers are there and the second does not exceed the first. -/
def validAmounts : Option UInt64 → Option UInt64 → Bool
  | some total, some available => available ≤ total
  | _, _ => false

def validatePair (result : PairResult) : Option String :=
  if result.status = statusOK then
    if validAmounts result.totalBytes result.availableBytes = false ∨ result.error ≠ [] then
      some "ok result must contain a valid total and available pair"
    else none
  else if result.status = statusError then
    if result.totalBytes ≠ none ∨ result.availableBytes ≠ none ∨
        validErrorCode result.error = false then
      some "error result must contain one supported error code"
    else none
  else some "unsupported collector status"

def validOutcome (outcome : Bytes) : Bool :=
  outcome = externalAnswered || outcome = externalNoListener || outcome = externalTooLarge ||
    outcome = externalManaged

/-- The readings after a port, in order. -/
def validateReadings (previousPort : Int) : List ExternalReading → Option String
  | [] => none
  | reading :: rest =>
      if reading.probePort < 1 ∨ 65535 < reading.probePort then
        some "external reading probe_port is outside 1..65535"
      else if reading.probePort ≤ previousPort then
        some "external readings must be unique and sorted by probe_port"
      else if validOutcome reading.outcome = false then
        some "external reading outcome is outside its closed list"
      else validateReadings reading.probePort rest

def validateExternalReadings (readings : List ExternalReading) : Option String :=
  if maxExternalReadings < readings.length then
    some "observation carries more external readings than the bound"
  else validateReadings 0 readings

/-- The interval of a gap, where both of its ends are instants. -/
def Gap.interval (gap : Gap) : Option (Instant × Instant) := do
  let first ← Rfc3339.parse gap.firstObservedAt
  let last ← Rfc3339.parse gap.lastObservedAt
  return (first, last)

def Gap.validate (gap : Gap) : Option String :=
  if gap.firstSequence = 0 ∨ gap.lastSequence < gap.firstSequence then
    some "gap sequence range is invalid"
  else if gap.droppedCount ≠ (gap.lastSequence - gap.firstSequence + 1) % 2 ^ 64 then
    some "gap dropped_count does not match its sequence range"
  else
    match gap.interval with
    | none => some "gap observation interval is invalid"
    | some (first, last) =>
        if last < first then some "gap observation interval is invalid" else none

/-- The gaps of a message, from an index on and after an earlier gap. -/
def validateGaps (sequence : Nat) : Nat → Option Gap → List Gap → Option String
  | _, _, [] => none
  | index, previous, gap :: rest =>
      match gap.validate with
      | some reason => some s!"gap {index}: {reason}"
      | none =>
          if sequence ≤ gap.lastSequence then some "observation gap must precede its sequence"
          else if previous.any fun before => gap.firstSequence ≤ before.lastSequence then
            some "observation gaps must be ordered and disjoint"
          else validateGaps sequence (index + 1) (some gap) rest

/-- `^[a-z0-9][a-z0-9-]{2,62}$` -/
def machineIDPattern (value : Bytes) : Bool :=
  let plain := fun b => isLower b || isDigit b
  3 ≤ value.length && value.length ≤ 63 && value.head?.any plain &&
    value.tail.all fun b => plain b || b = 0x2D

/-- `machineid.Validate` -/
def validateMachineID (value : Bytes) : Option String :=
  if value = [] then some "machine_id is required"
  else if machineIDPattern value = false then some "machine_id is malformed"
  else none

/-- An error under the name of what it is about. -/
def named (name : String) (check : Option String) : Option String :=
  check.map fun reason => name ++ ": " ++ reason

def refuseUnless (holds : Bool) (reason : String) : Option String :=
  if holds then none else some reason

/-- The first error of a message, in the order of the checks. -/
def Envelope.validate (e : Envelope) : Option String :=
  (refuseUnless (e.schemaVersion = Observation.schemaVersion)
      "unsupported observation schema_version").or <|
  (validateMachineID e.machineID).or <|
  (refuseUnless (e.daemonVersion = Observation.daemonVersion)
      "unsupported daemon_version").or <|
  (refuseUnless (e.profile = Observation.profile) "unsupported observation profile").or <|
  (refuseUnless (e.sequence ≠ 0) "observation sequence must be positive").or <|
  (refuseUnless (Rfc3339.parse e.observedAt).isSome
      "observed_at must be an RFC 3339 timestamp").or <|
  (named "uptime collector" (validateUptime e.health.uptime)).or <|
  (named "memory collector" (validatePair e.health.memory)).or <|
  (named "rootfs collector" (validatePair e.health.rootFS)).or <|
  (validateExternalReadings e.external).or <|
  validateGaps e.sequence 0 none e.gaps

/-! ## Writing -/

/-- A counter left out when it is missing. -/
def counter (n : Option UInt64) : Option Json := n.map fun n => Json.numeral n.toNat

/-- A sequence left out when it is empty. -/
def omitNone {α : Type} (json : α → Json) (values : List α) : Option Json :=
  if values.isEmpty then none else some (.array (values.map json))

def Gap.fields (gap : Gap) : List (Bytes × Option Json) :=
  [(text "first_sequence", some (Json.numeral gap.firstSequence)),
    (text "last_sequence", some (Json.numeral gap.lastSequence)),
    (text "dropped_count", some (Json.numeral gap.droppedCount)),
    (text "first_observed_at", some (Json.quoted true gap.firstObservedAt)),
    (text "last_observed_at", some (Json.quoted true gap.lastObservedAt))]

def Gap.json (gap : Gap) : Json := .object (Json.present gap.fields)

def UptimeResult.fields (result : UptimeResult) : List (Bytes × Option Json) :=
  [(text "status", some (Json.quoted true result.status)),
    (text "uptime_seconds", counter result.uptimeSeconds),
    (text "error", Json.omitEmpty true result.error)]

def UptimeResult.json (result : UptimeResult) : Json := .object (Json.present result.fields)

def PairResult.fields (result : PairResult) : List (Bytes × Option Json) :=
  [(text "status", some (Json.quoted true result.status)),
    (text "total_bytes", counter result.totalBytes),
    (text "available_bytes", counter result.availableBytes),
    (text "error", Json.omitEmpty true result.error)]

def PairResult.json (result : PairResult) : Json := .object (Json.present result.fields)

def HostHealth.fields (health : HostHealth) : List (Bytes × Option Json) :=
  [(text "uptime", some health.uptime.json),
    (text "memory", some health.memory.json),
    (text "rootfs", some health.rootFS.json)]

def HostHealth.json (health : HostHealth) : Json := .object (Json.present health.fields)

def ExternalReading.fields (reading : ExternalReading) : List (Bytes × Option Json) :=
  [(text "probe_port", some (Json.numeralInt reading.probePort)),
    (text "outcome", some (Json.quoted true reading.outcome))]

def ExternalReading.json (reading : ExternalReading) : Json :=
  .object (Json.present reading.fields)

def Envelope.fields (e : Envelope) : List (Bytes × Option Json) :=
  [(text "schema_version", some (Json.numeralInt e.schemaVersion)),
    (text "machine_id", some (Json.quoted true e.machineID)),
    (text "daemon_version", some (Json.quoted true e.daemonVersion)),
    (text "profile", some (Json.quoted true e.profile)),
    (text "sequence", some (Json.numeral e.sequence)),
    (text "observed_at", some (Json.quoted true e.observedAt)),
    (text "health", some e.health.json),
    (text "gaps", omitNone Gap.json e.gaps),
    (text "external", omitNone ExternalReading.json e.external)]

def Envelope.json (e : Envelope) : Json := .object (Json.present e.fields)

/-- Binds one collected state to its machine and sequence. -/
def newEnvelope (machineID : Bytes) (sequence : Nat) (observedAt : Instant)
    (health : HostHealth) (external : List ExternalReading) : Except String Envelope :=
  let result : Envelope :=
    { schemaVersion, machineID, daemonVersion, profile, sequence,
      observedAt := Rfc3339.format observedAt, health, gaps := [], external }
  match result.validate with
  | some reason => .error reason
  | none => .ok result

/-- The bytes of a message. -/
def Envelope.encode (e : Envelope) : Except String Bytes :=
  match e.validate with
  | some reason => .error reason
  | none =>
      if maxMessageBytes < e.json.render.length then
        .error "observation exceeds the maximum encoded size"
      else .ok e.json.render

/-! ## Reading -/

def gapFields : List Bytes :=
  [text "first_sequence", text "last_sequence", text "dropped_count", text "first_observed_at",
    text "last_observed_at"]

def Gap.read (j : Json) : Option Gap := do
  let ms ← j.members gapFields
  let firstSequence ← (Json.field ms (text "first_sequence")).readUint64
  let lastSequence ← (Json.field ms (text "last_sequence")).readUint64
  let droppedCount ← (Json.field ms (text "dropped_count")).readUint64
  let firstObservedAt ← (Json.field ms (text "first_observed_at")).readString
  let lastObservedAt ← (Json.field ms (text "last_observed_at")).readString
  return { firstSequence, lastSequence, droppedCount, firstObservedAt, lastObservedAt }

/-- A counter of 64 bits that may be missing. -/
def readCounter (j : Json) : Option (Option UInt64) :=
  (Json.readPointer Json.readUint64 j).map fun n => n.map UInt64.ofNat

def uptimeFields : List Bytes := [text "status", text "uptime_seconds", text "error"]

def UptimeResult.read (j : Json) : Option UptimeResult := do
  let ms ← j.members uptimeFields
  let status ← (Json.field ms (text "status")).readString
  let uptimeSeconds ← readCounter (Json.field ms (text "uptime_seconds"))
  let error ← (Json.field ms (text "error")).readString
  return { status, uptimeSeconds, error }

def pairFields : List Bytes :=
  [text "status", text "total_bytes", text "available_bytes", text "error"]

def PairResult.read (j : Json) : Option PairResult := do
  let ms ← j.members pairFields
  let status ← (Json.field ms (text "status")).readString
  let totalBytes ← readCounter (Json.field ms (text "total_bytes"))
  let availableBytes ← readCounter (Json.field ms (text "available_bytes"))
  let error ← (Json.field ms (text "error")).readString
  return { status, totalBytes, availableBytes, error }

def healthFields : List Bytes := [text "uptime", text "memory", text "rootfs"]

def HostHealth.read (j : Json) : Option HostHealth := do
  let ms ← j.members healthFields
  let uptime ← UptimeResult.read (Json.field ms (text "uptime"))
  let memory ← PairResult.read (Json.field ms (text "memory"))
  let rootFS ← PairResult.read (Json.field ms (text "rootfs"))
  return { uptime, memory, rootFS }

def readingFields : List Bytes := [text "probe_port", text "outcome"]

def ExternalReading.read (j : Json) : Option ExternalReading := do
  let ms ← j.members readingFields
  let probePort ← (Json.field ms (text "probe_port")).readInt
  let outcome ← (Json.field ms (text "outcome")).readString
  return { probePort, outcome }

def envelopeFields : List Bytes :=
  [text "schema_version", text "machine_id", text "daemon_version", text "profile",
    text "sequence", text "observed_at", text "health", text "gaps", text "external"]

def Envelope.read (j : Json) : Option Envelope := do
  let ms ← j.members envelopeFields
  let schemaVersion ← (Json.field ms (text "schema_version")).readInt
  let machineID ← (Json.field ms (text "machine_id")).readString
  let daemonVersion ← (Json.field ms (text "daemon_version")).readString
  let profile ← (Json.field ms (text "profile")).readString
  let sequence ← (Json.field ms (text "sequence")).readUint64
  let observedAt ← (Json.field ms (text "observed_at")).readString
  let health ← HostHealth.read (Json.field ms (text "health"))
  let gaps ← (Json.field ms (text "gaps")).readArray Gap.read
  let external ← (Json.field ms (text "external")).readArray ExternalReading.read
  return { schemaVersion, machineID, daemonVersion, profile, sequence, observedAt, health, gaps,
           external }

/-! ## What is written is read back -/

/-- The texts are well formed and the numbers fit the words they are held in. -/
structure Gap.Representable (gap : Gap) : Prop where
  firstSequence : gap.firstSequence < 2 ^ 64
  lastSequence : gap.lastSequence < 2 ^ 64
  droppedCount : gap.droppedCount < 2 ^ 64
  firstObservedAt : Valid gap.firstObservedAt
  lastObservedAt : Valid gap.lastObservedAt

structure UptimeResult.Representable (result : UptimeResult) : Prop where
  status : Valid result.status
  error : Valid result.error

structure PairResult.Representable (result : PairResult) : Prop where
  status : Valid result.status
  error : Valid result.error

structure HostHealth.Representable (health : HostHealth) : Prop where
  uptime : health.uptime.Representable
  memory : health.memory.Representable
  rootFS : health.rootFS.Representable

structure ExternalReading.Representable (reading : ExternalReading) : Prop where
  probePort : -2 ^ 63 ≤ reading.probePort ∧ reading.probePort < 2 ^ 63
  outcome : Valid reading.outcome

structure Envelope.Representable (e : Envelope) : Prop where
  schemaVersion : -2 ^ 63 ≤ e.schemaVersion ∧ e.schemaVersion < 2 ^ 63
  machineID : Valid e.machineID
  daemonVersion : Valid e.daemonVersion
  profile : Valid e.profile
  sequence : e.sequence < 2 ^ 64
  observedAt : Valid e.observedAt
  health : e.health.Representable
  gaps : ∀ gap ∈ e.gaps, gap.Representable
  external : ∀ reading ∈ e.external, reading.Representable

private theorem gap_names : Json.Names gapFields := Json.Names.of_check (by decide)

private theorem uptime_names : Json.Names uptimeFields := Json.Names.of_check (by decide)

private theorem pair_names : Json.Names pairFields := Json.Names.of_check (by decide)

private theorem health_names : Json.Names healthFields := Json.Names.of_check (by decide)

private theorem reading_names : Json.Names readingFields := Json.Names.of_check (by decide)

private theorem envelope_names : Json.Names envelopeFields := Json.Names.of_check (by decide)

private theorem readCounter_counter (n : Option UInt64) :
    readCounter ((counter n).getD .null) = some n := by
  cases n with
  | none => rfl
  | some n =>
      have hn : n.toNat < 2 ^ 64 := n.toNat_lt
      have hread : Json.readPointer Json.readUint64 (Json.numeral n.toNat) = some (some n.toNat) := by
        show (Json.readUint64 (Json.numeral n.toNat)).map some = _
        rw [Json.readUint64_numeral hn]
        rfl
      show (Json.readPointer Json.readUint64 (Json.numeral n.toNat)).map _ = _
      rw [hread]
      simp

private theorem readArray_omitNone {α : Type} {read : Json → Option α} {json : α → Json}
    {values : List α} (h : ∀ a ∈ values, read (json a) = some a) :
    Json.readArray read ((omitNone json values).getD .null) = some values := by
  cases values with
  | nil => rfl
  | cons a values => exact Json.readArray_map h

theorem Gap.read_json {gap : Gap} (h : gap.Representable) : Gap.read gap.json = some gap := by
  refine Json.bind_read (Json.members_present gapFields rfl gap_names) ?_
  refine Json.bind_read (Json.read_written gap_names rfl
    (Json.readUint64_numeral h.firstSequence) rfl) ?_
  refine Json.bind_read (Json.read_written gap_names rfl
    (Json.readUint64_numeral h.lastSequence) rfl) ?_
  refine Json.bind_read (Json.read_written gap_names rfl
    (Json.readUint64_numeral h.droppedCount) rfl) ?_
  refine Json.bind_read (Json.read_written gap_names rfl
    (Json.readString_quoted_valid true h.firstObservedAt) rfl) ?_
  exact Json.bind_read (Json.read_written gap_names rfl
    (Json.readString_quoted_valid true h.lastObservedAt) rfl) rfl

private theorem readString_omitEmpty_valid {s : Bytes} (h : Valid s) :
    Json.readString ((Json.omitEmpty true s).getD .null) = some s := by
  rw [Json.readString_omitEmpty, h]

private theorem UptimeResult.read_json {result : UptimeResult} (h : result.Representable) :
    UptimeResult.read result.json = some result := by
  refine Json.bind_read (Json.members_present uptimeFields rfl uptime_names) ?_
  refine Json.bind_read (Json.read_written uptime_names rfl
    (Json.readString_quoted_valid true h.status) rfl) ?_
  refine Json.bind_read (Json.read_omitted uptime_names rfl
    (readCounter_counter result.uptimeSeconds) rfl) ?_
  exact Json.bind_read (Json.read_omitted uptime_names rfl
    (readString_omitEmpty_valid h.error) rfl) rfl

private theorem PairResult.read_json {result : PairResult} (h : result.Representable) :
    PairResult.read result.json = some result := by
  refine Json.bind_read (Json.members_present pairFields rfl pair_names) ?_
  refine Json.bind_read (Json.read_written pair_names rfl
    (Json.readString_quoted_valid true h.status) rfl) ?_
  refine Json.bind_read (Json.read_omitted pair_names rfl
    (readCounter_counter result.totalBytes) rfl) ?_
  refine Json.bind_read (Json.read_omitted pair_names rfl
    (readCounter_counter result.availableBytes) rfl) ?_
  exact Json.bind_read (Json.read_omitted pair_names rfl
    (readString_omitEmpty_valid h.error) rfl) rfl

theorem HostHealth.read_json {health : HostHealth} (h : health.Representable) :
    HostHealth.read health.json = some health := by
  refine Json.bind_read (Json.members_present healthFields rfl health_names) ?_
  refine Json.bind_read (Json.read_written health_names rfl
    (UptimeResult.read_json h.uptime) rfl) ?_
  refine Json.bind_read (Json.read_written health_names rfl
    (PairResult.read_json h.memory) rfl) ?_
  exact Json.bind_read (Json.read_written health_names rfl
    (PairResult.read_json h.rootFS) rfl) rfl

theorem ExternalReading.read_json {reading : ExternalReading}
    (h : reading.Representable) : ExternalReading.read reading.json = some reading := by
  refine Json.bind_read (Json.members_present readingFields rfl reading_names) ?_
  refine Json.bind_read (Json.read_written reading_names rfl
    (Json.readInt_numeralInt h.probePort.1 h.probePort.2) rfl) ?_
  exact Json.bind_read (Json.read_written reading_names rfl
    (Json.readString_quoted_valid true h.outcome) rfl) rfl

theorem Envelope.read_json {e : Envelope} (h : e.Representable) :
    Envelope.read e.json = some e := by
  refine Json.bind_read (Json.members_present envelopeFields rfl envelope_names) ?_
  refine Json.bind_read (Json.read_written envelope_names rfl
    (Json.readInt_numeralInt h.schemaVersion.1 h.schemaVersion.2) rfl) ?_
  refine Json.bind_read (Json.read_written envelope_names rfl
    (Json.readString_quoted_valid true h.machineID) rfl) ?_
  refine Json.bind_read (Json.read_written envelope_names rfl
    (Json.readString_quoted_valid true h.daemonVersion) rfl) ?_
  refine Json.bind_read (Json.read_written envelope_names rfl
    (Json.readString_quoted_valid true h.profile) rfl) ?_
  refine Json.bind_read (Json.read_written envelope_names rfl
    (Json.readUint64_numeral h.sequence) rfl) ?_
  refine Json.bind_read (Json.read_written envelope_names rfl
    (Json.readString_quoted_valid true h.observedAt) rfl) ?_
  refine Json.bind_read (Json.read_written envelope_names rfl
    (HostHealth.read_json h.health) rfl) ?_
  refine Json.bind_read (Json.read_omitted envelope_names rfl
    (readArray_omitNone fun gap hgap => Gap.read_json (h.gaps gap hgap)) rfl) ?_
  exact Json.bind_read (Json.read_omitted envelope_names rfl
    (readArray_omitNone fun reading hr => ExternalReading.read_json (h.external reading hr)) rfl) rfl

/-! ## What is written is well formed -/

private theorem sound_counter (n : Option UInt64) : Json.Sound (counter n) := by
  cases n with
  | none => exact Json.sound_none
  | some n => exact Json.sound_numeral n.toNat

theorem sound_omitNone {α : Type} {json : α → Json} {values : List α}
    (h : ∀ a ∈ values, Json.Sound (some (json a))) : Json.Sound (omitNone json values) := by
  unfold omitNone
  split
  · exact Json.sound_none
  · apply Json.sound_array
    intro e he
    obtain ⟨a, ha, rfl⟩ := List.mem_map.1 he
    exact h a ha

theorem sound_record {fields : List (Bytes × Option Json)} {ns : List Bytes}
    (h : Json.Names ns) (hns : fields.map Prod.fst = ns) (hs : ∀ f ∈ fields, Json.Sound f.2) :
    Json.Sound (some (.object (Json.present fields))) := by
  obtain ⟨hw, hd⟩ := Json.sound_present ns hns h hs
  exact Json.sound_some hw hd

theorem Gap.sound_json (gap : Gap) : Json.Sound (some gap.json) := by
  apply sound_record gap_names rfl
  simp only [Gap.fields, List.forall_mem_cons, List.not_mem_nil, false_implies, implies_true,
    Json.sound_numeral, Json.sound_quoted, and_self]

private theorem UptimeResult.sound_json (result : UptimeResult) :
    Json.Sound (some result.json) := by
  apply sound_record uptime_names rfl
  simp only [UptimeResult.fields, List.forall_mem_cons, List.not_mem_nil, false_implies,
    implies_true, Json.sound_quoted, Json.sound_omitEmpty, sound_counter, and_self]

private theorem PairResult.sound_json (result : PairResult) : Json.Sound (some result.json) := by
  apply sound_record pair_names rfl
  simp only [PairResult.fields, List.forall_mem_cons, List.not_mem_nil, false_implies,
    implies_true, Json.sound_quoted, Json.sound_omitEmpty, sound_counter, and_self]

theorem HostHealth.sound_json (health : HostHealth) : Json.Sound (some health.json) := by
  apply sound_record health_names rfl
  simp only [HostHealth.fields, List.forall_mem_cons, List.not_mem_nil, false_implies,
    implies_true, UptimeResult.sound_json, PairResult.sound_json, and_self]

theorem ExternalReading.sound_json (reading : ExternalReading) :
    Json.Sound (some reading.json) := by
  apply sound_record reading_names rfl
  simp only [ExternalReading.fields, List.forall_mem_cons, List.not_mem_nil, false_implies,
    implies_true, Json.sound_quoted, Json.sound_numeralInt, and_self]

theorem Envelope.sound_fields (e : Envelope) : ∀ f ∈ e.fields, Json.Sound f.2 := by
  have gaps : Json.Sound (omitNone Gap.json e.gaps) :=
    sound_omitNone fun gap _ => gap.sound_json
  have external : Json.Sound (omitNone ExternalReading.json e.external) :=
    sound_omitNone fun reading _ => reading.sound_json
  simp only [Envelope.fields, List.forall_mem_cons, List.not_mem_nil, false_implies,
    implies_true, Json.sound_quoted, Json.sound_numeral, Json.sound_numeralInt,
    HostHealth.sound_json, gaps, external, and_self]

theorem Envelope.sound_json (e : Envelope) : Json.Sound (some e.json) :=
  sound_record envelope_names rfl e.sound_fields

/-- The message a document holds: strict JSON within the bound, and every check passed. -/
def decode (data : Bytes) : Except String Envelope :=
  if data.length = 0 ∨ maxMessageBytes < data.length then
    .error "observation size is outside the allowed range"
  else
    match Json.decode Envelope.read data with
    | none => .error "decode observation"
    | some envelope =>
        match envelope.validate with
        | some reason => .error reason
        | none => .ok envelope

/-- The bytes of a message that can be written are read as that message. -/
theorem Envelope.decode_encode {e : Envelope} {data : Bytes} (h : e.Representable)
    (he : e.encode = .ok data) : decode data = .ok e := by
  unfold Envelope.encode at he
  split at he
  · cases he
  · rename_i hvalid
    split at he
    · cases he
    · rename_i hlength
      cases he
      have hempty : e.json.render.length ≠ 0 := by
        rw [Envelope.json, Json.render]
        simp
      have hread : Json.decode Envelope.read e.json.render = some e := by
        have hdecode := Json.decode_present Envelope.read envelopeFields rfl envelope_names
          e.sound_fields (w := []) rfl
        rw [List.append_nil] at hdecode
        rw [Envelope.json, hdecode]
        exact Envelope.read_json h
      rw [decode, if_neg (by omega), hread]
      simp only [hvalid]

/-! ## What passes the checks can be written -/

private theorem validErrorCode_valid {s : Bytes} (h : validErrorCode s = true) : Valid s := by
  rw [validErrorCode, Bool.or_eq_true, decide_eq_true_eq, decide_eq_true_eq] at h
  rcases h with rfl | rfl
  · decide
  · decide

private theorem validateUptime_representable {result : UptimeResult}
    (h : validateUptime result = none) : result.Representable := by
  unfold validateUptime at h
  split at h
  · rename_i hok
    split at h
    · cases h
    · rename_i hnot
      rw [not_or, not_not] at hnot
      constructor
      · rw [hok]
        decide
      · rw [hnot.2]
        decide
  · split at h
    · rename_i herror
      split at h
      · cases h
      · rename_i hnot
        rw [not_or, Bool.not_eq_false] at hnot
        constructor
        · rw [herror]
          decide
        · exact validErrorCode_valid hnot.2
    · cases h

private theorem validatePair_representable {result : PairResult}
    (h : validatePair result = none) : result.Representable := by
  unfold validatePair at h
  split at h
  · rename_i hok
    split at h
    · cases h
    · rename_i hnot
      rw [not_or, not_not] at hnot
      constructor
      · rw [hok]
        decide
      · rw [hnot.2]
        decide
  · split at h
    · rename_i herror
      split at h
      · cases h
      · rename_i hnot
        rw [not_or, not_or, Bool.not_eq_false] at hnot
        constructor
        · rw [herror]
          decide
        · exact validErrorCode_valid hnot.2.2
    · cases h

private theorem validOutcome_valid {s : Bytes} (h : validOutcome s = true) : Valid s := by
  simp only [validOutcome, Bool.or_eq_true, decide_eq_true_eq] at h
  rcases h with ((rfl | rfl) | rfl) | rfl
  · decide
  · decide
  · decide
  · decide

private theorem validateReadings_representable {previous : Int} {readings : List ExternalReading}
    (h : validateReadings previous readings = none) :
    ∀ reading ∈ readings, reading.Representable := by
  induction readings generalizing previous with
  | nil => exact fun reading hr => absurd hr List.not_mem_nil
  | cons reading rest ih =>
      unfold validateReadings at h
      split at h
      · cases h
      · rename_i hrange
        split at h
        · cases h
        · split at h
          · cases h
          · rename_i houtcome
            intro other hother
            rcases List.mem_cons.1 hother with rfl | hrest
            · constructor
              · omega
              · exact validOutcome_valid (Bool.not_eq_false _ |>.mp houtcome)
            · exact ih h other hrest

theorem machineIDPattern_valid {s : Bytes} (h : validateMachineID s = none) :
    Valid s := by
  unfold validateMachineID at h
  split at h
  · cases h
  · split at h
    · cases h
    · rename_i hpattern
      rw [Bool.not_eq_false] at hpattern
      simp only [machineIDPattern, Bool.and_eq_true, List.all_eq_true] at hpattern
      apply valid_ascii
      cases s with
      | nil => exact fun b hb => absurd hb List.not_mem_nil
      | cons first rest =>
          have ascii : ∀ b, (isLower b || isDigit b || decide (b = 0x2D)) = true → b < 0x80 := by
            intro b hb
            simp only [isLower, isDigit, Bool.or_eq_true, Bool.and_eq_true, decide_eq_true_eq,
              UInt8.le_iff_toNat_le] at hb
            rw [UInt8.lt_iff_toNat_lt]
            rcases hb with (hb | hb) | rfl
            · have := hb.2
              simp at *
              omega
            · have := hb.2
              simp at *
              omega
            · decide
          intro b hb
          rcases List.mem_cons.1 hb with rfl | hb
          · have hfirst : (isLower b || isDigit b) = true := hpattern.1.2
            apply ascii
            rw [hfirst, Bool.true_or]
          · exact ascii b (hpattern.2 b hb)

theorem refuseUnless_eq_none {holds : Bool} {reason : String}
    (h : refuseUnless holds reason = none) : holds = true := by
  cases holds with
  | true => rfl
  | false => cases h

/-- The fixed vocabularies hold nothing that JSON could not carry. -/
theorem representable_of_validate {e : Envelope} (h : e.validate = none)
    (hsequence : e.sequence < 2 ^ 64) (hobserved : Valid e.observedAt)
    (hgaps : ∀ gap ∈ e.gaps, gap.Representable) : e.Representable := by
  simp only [Envelope.validate, Option.or_eq_none_iff, named, Option.map_eq_none_iff] at h
  obtain ⟨hschema, hmachine, hversion, hprofile, -, -, huptime, hmemory, hrootFS, hexternal, -⟩ := h
  have hschema := of_decide_eq_true (refuseUnless_eq_none hschema)
  have hversion := of_decide_eq_true (refuseUnless_eq_none hversion)
  have hprofile := of_decide_eq_true (refuseUnless_eq_none hprofile)
  have hreadings : validateReadings 0 e.external = none := by
    unfold validateExternalReadings at hexternal
    split at hexternal
    · cases hexternal
    · exact hexternal
  exact
    { schemaVersion := by rw [hschema]; decide
      machineID := machineIDPattern_valid hmachine
      daemonVersion := by rw [hversion]; decide
      profile := by rw [hprofile]; decide
      sequence := hsequence
      observedAt := hobserved
      health := ⟨validateUptime_representable huptime, validatePair_representable hmemory,
        validatePair_representable hrootFS⟩
      gaps := hgaps
      external := validateReadings_representable hreadings }

/-- What `newEnvelope` answers with, field by field. -/
theorem newEnvelope_ok {machineID : Bytes} {sequence : Nat} {observedAt : Instant}
    {health : HostHealth} {external : List ExternalReading} {e : Envelope}
    (h : newEnvelope machineID sequence observedAt health external = .ok e) :
    e = { schemaVersion, machineID, daemonVersion, profile, sequence,
          observedAt := Rfc3339.format observedAt, health, gaps := [], external } ∧
      e.validate = none := by
  dsimp only [newEnvelope] at h
  split at h
  · cases h
  · rename_i hvalid
    cases h
    exact ⟨rfl, hvalid⟩

theorem validate_of_encode {e : Envelope} {encoded : Bytes} (h : e.encode = .ok encoded) :
    e.validate = none := by
  unfold Envelope.encode at h
  split at h
  · cases h
  · assumption

theorem sequence_of_validate {e : Envelope} (h : e.validate = none) : e.sequence ≠ 0 := by
  simp only [Envelope.validate, Option.or_eq_none_iff] at h
  exact of_decide_eq_true (refuseUnless_eq_none h.2.2.2.2.1)

/-! ## What a decoded message satisfies -/

theorem Gap.validate_ok {gap : Gap} (h : gap.validate = none) :
    0 < gap.firstSequence ∧ gap.firstSequence ≤ gap.lastSequence ∧
      gap.droppedCount = (gap.lastSequence - gap.firstSequence + 1) % 2 ^ 64 ∧
      ∃ first last, gap.interval = some (first, last) ∧ first ≤ last := by
  unfold Gap.validate at h
  split at h
  · cases h
  · rename_i hrange
    split at h
    · cases h
    · rename_i hcount
      split at h
      · cases h
      · rename_i first last hinterval
        split at h
        · cases h
        · rename_i hordered
          rw [not_or] at hrange
          exact ⟨Nat.pos_of_ne_zero hrange.1, not_lt.1 hrange.2, not_not.1 hcount, first, last,
            hinterval, not_lt.1 hordered⟩

theorem validateGaps_ok {sequence index : Nat} {previous : Option Gap} {gaps : List Gap}
    (h : validateGaps sequence index previous gaps = none) :
    ∀ gap ∈ gaps, gap.validate = none ∧ gap.lastSequence < sequence := by
  induction gaps generalizing index previous with
  | nil => exact fun gap hgap => absurd hgap List.not_mem_nil
  | cons gap rest ih =>
      unfold validateGaps at h
      split at h
      · cases h
      · rename_i hvalid
        split at h
        · cases h
        · rename_i hbefore
          split at h
          · cases h
          · intro other hother
            rcases List.mem_cons.1 hother with rfl | hother
            · exact ⟨hvalid, not_le.1 hbefore⟩
            · exact ih h other hother

/-- Ranges that pass one by one, in order and before the sequence. -/
theorem validateGaps_none {sequence index : Nat} {previous : Option Gap} {gaps : List Gap}
    (h : ∀ gap ∈ gaps, gap.validate = none ∧ gap.lastSequence < sequence)
    (hordered : gaps.Pairwise fun left right => left.lastSequence < right.firstSequence)
    (hprevious : ∀ before ∈ previous, ∀ gap ∈ gaps, before.lastSequence < gap.firstSequence) :
    validateGaps sequence index previous gaps = none := by
  induction gaps generalizing index previous with
  | nil => rfl
  | cons gap rest ih =>
      obtain ⟨hvalid, hbefore⟩ := h gap List.mem_cons_self
      obtain ⟨hgap, hrest⟩ := List.pairwise_cons.1 hordered
      have hafter : (previous.any fun before => gap.firstSequence ≤ before.lastSequence) = false := by
        cases previous with
        | none => rfl
        | some before =>
            exact decide_eq_false (not_le.2 (hprevious before rfl gap List.mem_cons_self))
      rw [validateGaps, hvalid]
      dsimp only
      rw [if_neg (not_le.2 hbefore), if_neg (by rw [hafter]; decide)]
      apply ih (fun other hother => h other (List.mem_cons_of_mem _ hother)) hrest
      intro before hbefore other hother
      rw [← Option.some.inj hbefore]
      exact hgap other hother

/-- A message that passes still does with its times and its ranges written otherwise. -/
theorem validate_rewritten {e : Envelope} (h : e.validate = none) {observedAt : Bytes}
    {gaps : List Gap} (hobserved : (Rfc3339.parse observedAt).isSome = true)
    (hgaps : validateGaps e.sequence 0 none gaps = none) :
    ({ e with observedAt, gaps } : Envelope).validate = none := by
  simp only [Envelope.validate, Option.or_eq_none_iff] at h ⊢
  obtain ⟨hschema, hmachine, hversion, hprofile, hsequence, -, huptime, hmemory, hrootFS,
    hexternal, -⟩ := h
  refine ⟨hschema, hmachine, hversion, hprofile, hsequence, ?_, huptime, hmemory, hrootFS,
    hexternal, hgaps⟩
  rw [hobserved]
  rfl

theorem gaps_of_validate {e : Envelope} (h : e.validate = none) :
    ∀ gap ∈ e.gaps, gap.validate = none ∧ gap.lastSequence < e.sequence := by
  simp only [Envelope.validate, Option.or_eq_none_iff] at h
  exact validateGaps_ok h.2.2.2.2.2.2.2.2.2.2

theorem observedAt_of_validate {e : Envelope} (h : e.validate = none) :
    ∃ t, Rfc3339.parse e.observedAt = some t := by
  simp only [Envelope.validate, Option.or_eq_none_iff] at h
  exact Option.isSome_iff_exists.1 (refuseUnless_eq_none h.2.2.2.2.2.1)

theorem Envelope.read_sequence {j : Json} {e : Envelope} (h : Envelope.read j = some e) :
    e.sequence < 2 ^ 64 := by
  simp only [Envelope.read, Option.bind_eq_bind, Option.bind_eq_some_iff] at h
  obtain ⟨ms, -, schemaVersion, -, machineID, -, daemonVersion, -, profile, -, sequence, hsequence,
    observedAt, -, health, -, gaps, -, external, -, hresult⟩ := h
  rw [← Option.some.inj hresult]
  exact Json.readUint64_lt hsequence

theorem decode_ok {data : Bytes} {e : Envelope} (h : decode data = .ok e) :
    e.validate = none ∧ e.sequence < 2 ^ 64 := by
  unfold decode at h
  split at h
  · cases h
  · split at h
    · cases h
    · rename_i envelope hdecode
      split at h
      · cases h
      · rename_i hvalid
        cases h
        refine ⟨hvalid, ?_⟩
        unfold Json.decode at hdecode
        obtain ⟨j, -, hread⟩ := Option.bind_eq_some_iff.1 hdecode
        split at hread
        · exact Envelope.read_sequence hread
        · cases hread

/-- What passed the checks of a range can be written. -/
theorem Gap.representable_of_validate {gap : Gap} (h : gap.validate = none)
    (hlast : gap.lastSequence < 2 ^ 64) : gap.Representable := by
  obtain ⟨hpositive, hle, hcount, first, last, hinterval, -⟩ := Gap.validate_ok h
  obtain ⟨t, ht, hinterval⟩ := Option.bind_eq_some_iff.1 hinterval
  obtain ⟨u, hu, -⟩ := Option.bind_eq_some_iff.1 hinterval
  exact
    { firstSequence := by omega
      lastSequence := hlast
      droppedCount := by omega
      firstObservedAt := Rfc3339.valid_of_parse ht
      lastObservedAt := Rfc3339.valid_of_parse hu }

/-- A message that was decoded can be written again. -/
theorem decode_representable {data : Bytes} {e : Envelope} (h : decode data = .ok e) :
    e.Representable := by
  obtain ⟨hvalid, hsequence⟩ := decode_ok h
  obtain ⟨t, ht⟩ := observedAt_of_validate hvalid
  apply representable_of_validate hvalid hsequence (Rfc3339.valid_of_parse ht)
  intro gap hgap
  obtain ⟨hgapvalid, hlast⟩ := gaps_of_validate hvalid gap hgap
  exact Gap.representable_of_validate hgapvalid (by omega)

end YourCloud.Observation
