import YourCloud.Observation.Gaps

/-!
# The Daemon's delivery queue

The queue is one state: the number of the next observation, the observations
not yet confirmed, oldest first, and the ranges discarded before them.  It is
held in memory by the running Daemon and published to one file, by a temporary
file and a rename; every operation prepares a copy, publishes it, and only then
works with it.

A write may stop before or after the rename took place, by an error or with
the process, so the file may be ahead of the memory.

A slice of the program that was never allocated is written as `null`, so a
slice is a list that may be missing.

## Main results

* `State.read_json` — a published state is read back.
-/

namespace YourCloud.Observation

open YourCloud.Foundation

/-! ## Slices -/

/-- A slice, missing where it was never allocated. -/
abbrev Slice (α : Type) := Option (List α)

namespace Slice

variable {α : Type}

def items (s : Slice α) : List α := s.getD []

/-- `append([]T(nil), values...)` -/
def fresh (values : List α) : Slice α := if values.isEmpty then none else some values

@[simp] theorem items_some (values : List α) : items (some values) = values := rfl

@[simp] theorem items_fresh (values : List α) : items (fresh values) = values := by
  unfold fresh
  split
  · rename_i h
    rw [List.isEmpty_iff] at h
    subst h
    rfl
  · rfl

def json (json : α → Json) : Slice α → Json
  | none => .null
  | some values => .array (values.map json)

def read (read : Json → Option α) : Json → Option (Slice α)
  | .null => some none
  | j => (Json.readArray read j).map some

end Slice

/-! ## Data -/

def stateSchema : Int := 1

def hardMaxBytes : Nat := 16 * 1024 * 1024

def hardMaxRecords : Int := 10000

/-- Twenty-four hours. -/
def hardMaxAge : Int := 24 * 3600 * 1000000000

def minimumMaxBytes : Int := 16 * 1024

/-- Bounds that can reduce, never enlarge, the ceilings. -/
structure Limits where
  maxBytes : Int
  maxRecords : Int
  maxAge : Int
  deriving DecidableEq, Repr

structure State where
  schema : Int
  nextSequence : Nat
  current : Option Envelope
  pending : Slice Envelope
  gaps : Slice Gap
  lastDelivered : Bytes
  deliveryState : Bytes
  lastTransition : Bytes
  deriving DecidableEq, Repr

def deliveryUnknown : Bytes := text "unknown"

def deliveryAvailable : Bytes := text "available"

def deliveryUnavailable : Bytes := text "unavailable"

def State.fields (s : State) : List (Bytes × Option Json) :=
  [(text "schema", some (Json.numeralInt s.schema)),
    (text "next_sequence", some (Json.numeral s.nextSequence)),
    (text "current", s.current.map Envelope.json),
    (text "pending", some (Slice.json Envelope.json s.pending)),
    (text "gaps", some (Slice.json Gap.json s.gaps)),
    (text "last_delivered_at", Json.omitEmpty true s.lastDelivered),
    (text "delivery_state", some (Json.quoted true s.deliveryState)),
    (text "last_delivery_transition_at", Json.omitEmpty true s.lastTransition)]

def State.json (s : State) : Json := .object (Json.present s.fields)

/-- The bytes of the state file. -/
def State.encode (s : State) : Bytes := s.json.render

def stateFields : List Bytes :=
  [text "schema", text "next_sequence", text "current", text "pending", text "gaps",
    text "last_delivered_at", text "delivery_state", text "last_delivery_transition_at"]

def State.read (j : Json) : Option State := do
  let ms ← j.members stateFields
  let schema ← (Json.field ms (text "schema")).readInt
  let nextSequence ← (Json.field ms (text "next_sequence")).readUint64
  let current ← Json.readPointer Envelope.read (Json.field ms (text "current"))
  let pending ← Slice.read Envelope.read (Json.field ms (text "pending"))
  let gaps ← Slice.read Gap.read (Json.field ms (text "gaps"))
  let lastDelivered ← (Json.field ms (text "last_delivered_at")).readString
  let deliveryState ← (Json.field ms (text "delivery_state")).readString
  let lastTransition ← (Json.field ms (text "last_delivery_transition_at")).readString
  return { schema, nextSequence, current, pending, gaps, lastDelivered, deliveryState,
           lastTransition }

/-! ## Checks -/

def validateLimits (limits : Limits) : Option String :=
  if limits.maxBytes < minimumMaxBytes ∨ hardMaxBytes < limits.maxBytes then
    some "buffer MaxBytes is outside the approved range"
  else if limits.maxRecords < 1 ∨ hardMaxRecords < limits.maxRecords then
    some "buffer MaxRecords is outside the approved range"
  else if limits.maxAge ≤ 0 ∨ hardMaxAge < limits.maxAge then
    some "buffer MaxAge is outside the approved range"
  else none

/-- The observations after one sequence, in strict order and below the next. -/
def validatePending (nextSequence previous : Nat) : List Envelope → Option String
  | [] => none
  | pending :: rest =>
      match pending.validate with
      | some reason => some ("pending observation: " ++ reason)
      | none =>
          if pending.sequence ≤ previous ∨ nextSequence ≤ pending.sequence then
            some "pending observation sequences are not strictly ordered"
          else validatePending nextSequence pending.sequence rest

def validateCurrent (nextSequence : Nat) : Option Envelope → Option String
  | none => none
  | some current =>
      match current.validate with
      | some reason => some ("current observation: " ++ reason)
      | none =>
          if nextSequence ≤ current.sequence then
            some "current observation sequence is outside the persisted range"
          else none

def validInstant (value : Bytes) : Bool := value = [] || (Rfc3339.parse value).isSome

def validDeliveryState (value : Bytes) : Bool :=
  value = deliveryUnknown || value = deliveryAvailable || value = deliveryUnavailable

/-- The first error of a loaded state. -/
def validateState (s : State) : Option String :=
  (refuseUnless (s.schema = stateSchema && s.nextSequence ≠ 0)
      "buffer state has an unsupported schema or sequence").or <|
  (validatePending s.nextSequence 0 s.pending.items).or <|
  (validateCurrent s.nextSequence s.current).or <|
  (s.gaps.items.findSome? Gap.validate).or <|
  (refuseUnless (validInstant s.lastDelivered) "last_delivered_at is invalid").or <|
  (refuseUnless (validDeliveryState s.deliveryState) "delivery_state is invalid").or <|
  refuseUnless (validInstant s.lastTransition) "last_delivery_transition_at is invalid"

/-- The state of a file within the hard ceiling. -/
def readState (file : Bytes) : Except String State :=
  if file.length = 0 ∨ hardMaxBytes < file.length then
    .error "buffer state file has unsafe type, mode or size"
  else
    match Json.decode State.read file with
    | none => .error "decode buffer state"
    | some loaded => .ok loaded

/-! ## The limits -/

/-- The oldest observation is discarded, and with it the ranges it carried. -/
def dropOldest (s : State) (dropped : Envelope) (rest : List Envelope) : State :=
  { s with
    pending := Slice.fresh rest
    gaps := some (addGap (dropped.gaps.foldl addGap s.gaps.items)
      (single dropped.sequence dropped.observedAt)) }

/-- Discards from the oldest on until the limits are met. -/
def enforceFrom (limits : Limits) (now : Instant) : List Envelope → State → Except String State
  | [], s =>
      if limits.maxBytes < s.encode.length then .error "buffer metadata exceeds its byte limit"
      else .ok s
  | oldest :: rest, s =>
      match Rfc3339.parse oldest.observedAt with
      | none => .error "pending observation has an invalid timestamp"
      | some oldestTime =>
          if ¬ oldestTime < now - limits.maxAge ∧ (rest.length + 1 : Int) ≤ limits.maxRecords ∧
              (s.encode.length : Int) ≤ limits.maxBytes then
            .ok s
          else enforceFrom limits now rest (dropOldest s oldest rest)

def enforce (limits : Limits) (now : Instant) (s : State) : Except String State :=
  enforceFrom limits now s.pending.items s

/-! ## Publication -/

/-- What a write of the state file meets: it is published, it stops with an
error, or the process ends; the rename may have taken place before. -/
inductive Write where
  | done
  | fails (renamed : Bool)
  | dies (renamed : Bool)
  deriving DecidableEq, Repr

/-- The queue of a running Daemon. -/
structure Buffer where
  limits : Limits
  state : State
  deriving DecidableEq, Repr

/-- A Daemon: its queue while it runs, and its state file. -/
structure Daemon where
  buffer : Option Buffer
  file : Option Bytes
  deriving DecidableEq, Repr

/-- Makes a candidate visible after its complete publication. -/
def commit (limits : Limits) (write : Write) (candidate : State) (d : Daemon) :
    Except String Unit × Daemon :=
  if limits.maxBytes < candidate.encode.length then
    (.error "buffer state exceeds its byte limit", d)
  else
    match write with
    | .done => (.ok (), { buffer := some { limits, state := candidate },
                          file := some candidate.encode })
    | .fails renamed =>
        (.error "publish buffer state",
          { d with file := if renamed then some candidate.encode else d.file })
    | .dies renamed =>
        (.error "publish buffer state",
          { buffer := none, file := if renamed then some candidate.encode else d.file })

/-! ## Operations -/

def cloneState (s : State) : State :=
  { s with pending := some s.pending.items, gaps := Slice.fresh s.gaps.items }

/-- The state of an empty queue. -/
def initialState : State :=
  { schema := stateSchema, nextSequence := 1, current := none, pending := some [],
    gaps := some [], lastDelivered := [], deliveryState := deliveryUnknown, lastTransition := [] }

/-- What a call on a Daemon that does not run is answered with. -/
def notRunning : String := "the Daemon is not running"

/-- The queue of a Daemon that starts. -/
def openAt (limits : Limits) (now : Instant) (write : Write) (d : Daemon) :
    Except String Unit × Daemon :=
  let stopped : Daemon := { d with buffer := none }
  match validateLimits limits with
  | some reason => (.error reason, stopped)
  | none =>
      match d.file with
      | none => commit limits write initialState stopped
      | some file =>
          match readState file with
          | .error reason => (.error reason, stopped)
          | .ok loaded =>
              match validateState loaded with
              | some reason => (.error reason, stopped)
              | none =>
                  match enforce limits now (cloneState loaded) with
                  | .error reason => (.error reason, stopped)
                  | .ok candidate => commit limits write candidate stopped

/-- The candidate with one new observation, before the limits. -/
def appended (s : State) (envelope : Envelope) : State :=
  let candidate := cloneState s
  { candidate with
    nextSequence := wrap (candidate.nextSequence + 1)
    current := some envelope
    pending := some (candidate.pending.items ++ [envelope]) }

/-- Publishes one new observation before it can be sent. -/
def enqueue (machineID : Bytes) (health : HostHealth) (external : List ExternalReading)
    (now : Instant) (write : Write) (d : Daemon) : Except String Envelope × Daemon :=
  match d.buffer with
  | none => (.error notRunning, d)
  | some buffer =>
      match newEnvelope machineID buffer.state.nextSequence now health external with
      | .error reason => (.error reason, d)
      | .ok envelope =>
          match enforce buffer.limits now (appended buffer.state envelope) with
          | .error reason => (.error reason, d)
          | .ok candidate =>
              match commit buffer.limits write candidate d with
              | (.error reason, d) => (.error reason, d)
              | (.ok (), d) => (.ok envelope, d)

/-- The candidate in which the oldest observation carries the ranges before it. -/
def attached (s : State) (oldest : Envelope) (rest : List Envelope) : State :=
  { cloneState s with
    pending := some ({ oldest with gaps := s.gaps.items } :: rest), gaps := some [] }

/-- The bytes of the oldest observation and its sequence. -/
def encodeOldest (s : State) : Except String (Bytes × Nat) :=
  match s.pending.items with
  | [] => .error "EOF"
  | oldest :: _ =>
      match oldest.encode with
      | .error reason => .error ("encode pending observation: " ++ reason)
      | .ok encoded => .ok (encoded, oldest.sequence)

/-- The oldest observation, its ranges attached and published before its bytes
can leave the machine. -/
def peek (write : Write) (d : Daemon) : Except String (Bytes × Nat) × Daemon :=
  match d.buffer with
  | none => (.error notRunning, d)
  | some buffer =>
      match buffer.state.pending.items with
      | [] => (.error "EOF", d)
      | oldest :: rest =>
          if buffer.state.gaps.items.isEmpty then (encodeOldest buffer.state, d)
          else
            match commit buffer.limits write (attached buffer.state oldest rest) d with
            | (.error reason, d) => (.error reason, d)
            | (.ok (), d) => (encodeOldest (attached buffer.state oldest rest), d)

/-- The candidate without its oldest observation. -/
def acknowledged (deliveredAt : Instant) (s : State) (rest : List Envelope) : State :=
  { cloneState s with pending := Slice.fresh rest, lastDelivered := Rfc3339.format deliveredAt }

/-- Removes only the oldest sequence, as the Relay confirmed it. -/
def acknowledge (sequence : Nat) (deliveredAt : Instant) (write : Write) (d : Daemon) :
    Except String Unit × Daemon :=
  match d.buffer with
  | none => (.error notRunning, d)
  | some buffer =>
      match buffer.state.pending.items with
      | [] => (.error "acknowledgement does not match the oldest pending sequence", d)
      | oldest :: rest =>
          if oldest.sequence ≠ sequence then
            (.error "acknowledgement does not match the oldest pending sequence", d)
          else commit buffer.limits write (acknowledged deliveredAt buffer.state rest) d

/-- The candidate in which the delivery took another state. -/
def transitioned (value : Bytes) (changedAt : Instant) (s : State) : State :=
  { cloneState s with deliveryState := value, lastTransition := Rfc3339.format changedAt }

/-- Publishes only a real transition. -/
def setDeliveryState (value : Bytes) (changedAt : Instant) (write : Write) (d : Daemon) :
    Except String Unit × Daemon :=
  if value ≠ deliveryAvailable ∧ value ≠ deliveryUnavailable then
    (.error "delivery state must be available or unavailable", d)
  else
    match d.buffer with
    | none => (.error notRunning, d)
    | some buffer =>
        if buffer.state.deliveryState = value then (.ok (), d)
        else commit buffer.limits write (transitioned value changedAt buffer.state) d

/-! ## What is published is read back -/

structure State.Representable (s : State) : Prop where
  schema : -2 ^ 63 ≤ s.schema ∧ s.schema < 2 ^ 63
  nextSequence : s.nextSequence < 2 ^ 64
  current : ∀ e ∈ s.current, e.Representable
  pending : ∀ e ∈ s.pending.items, e.Representable
  gaps : ∀ gap ∈ s.gaps.items, gap.Representable
  lastDelivered : Valid s.lastDelivered
  deliveryState : Valid s.deliveryState
  lastTransition : Valid s.lastTransition

private theorem state_names : Json.Names stateFields := Json.Names.of_check (by decide)

theorem Slice.read_json {α : Type} {read : Json → Option α} {json : α → Json}
    {slice : Slice α} (h : ∀ a ∈ slice.items, read (json a) = some a) :
    Slice.read read (Slice.json json slice) = some slice := by
  cases slice with
  | none => rfl
  | some values =>
      have hvalues : ∀ a ∈ values, read (json a) = some a := h
      show (Json.readArray read (.array (values.map json))).map some = _
      rw [Json.readArray_map hvalues]
      rfl

theorem Slice.sound_json {α : Type} {json : α → Json} {slice : Slice α}
    (h : ∀ a ∈ slice.items, Json.Sound (some (json a))) :
    Json.Sound (some (Slice.json json slice)) := by
  cases slice with
  | none => exact Json.sound_some trivial rfl
  | some values =>
      apply Json.sound_array
      intro e he
      obtain ⟨a, ha, rfl⟩ := List.mem_map.1 he
      exact h a ha

private theorem readPointer_json {current : Option Envelope}
    (h : ∀ e ∈ current, e.Representable) :
    Json.readPointer Envelope.read ((current.map Envelope.json).getD .null) = some current := by
  cases current with
  | none => rfl
  | some e =>
      show (Envelope.read e.json).map some = _
      rw [Envelope.read_json (h e rfl)]
      rfl

private theorem readString_text {s : Bytes} (h : Valid s) :
    Json.readString ((Json.omitEmpty true s).getD .null) = some s := by
  rw [Json.readString_omitEmpty, h]

theorem State.read_json {s : State} (h : s.Representable) : State.read s.json = some s := by
  refine Json.bind_read (Json.members_present stateFields rfl state_names) ?_
  refine Json.bind_read (Json.read_written state_names rfl
    (Json.readInt_numeralInt h.schema.1 h.schema.2) rfl) ?_
  refine Json.bind_read (Json.read_written state_names rfl
    (Json.readUint64_numeral h.nextSequence) rfl) ?_
  refine Json.bind_read (Json.read_omitted state_names rfl (readPointer_json h.current) rfl) ?_
  refine Json.bind_read (Json.read_written state_names rfl
    (Slice.read_json fun e he => Envelope.read_json (h.pending e he)) rfl) ?_
  refine Json.bind_read (Json.read_written state_names rfl
    (Slice.read_json fun gap hgap => Gap.read_json (h.gaps gap hgap)) rfl) ?_
  refine Json.bind_read (Json.read_omitted state_names rfl
    (readString_text h.lastDelivered) rfl) ?_
  refine Json.bind_read (Json.read_written state_names rfl
    (Json.readString_quoted_valid true h.deliveryState) rfl) ?_
  exact Json.bind_read (Json.read_omitted state_names rfl
    (readString_text h.lastTransition) rfl) rfl

private theorem State.sound_fields (s : State) : ∀ f ∈ s.fields, Json.Sound f.2 := by
  have current : Json.Sound (s.current.map Envelope.json) := by
    cases s.current with
    | none => exact Json.sound_none
    | some e => exact e.sound_json
  have pending : Json.Sound (some (Slice.json Envelope.json s.pending)) :=
    Slice.sound_json fun e _ => e.sound_json
  have gaps : Json.Sound (some (Slice.json Gap.json s.gaps)) :=
    Slice.sound_json fun gap _ => gap.sound_json
  simp only [State.fields, List.forall_mem_cons, List.not_mem_nil, false_implies, implies_true,
    Json.sound_quoted, Json.sound_numeral, Json.sound_numeralInt, Json.sound_omitEmpty, current,
    pending, gaps, and_self]

/-- A published state is loaded as it was. -/
theorem readState_encode {s : State} (h : s.Representable)
    (hlength : s.encode.length ≤ hardMaxBytes) : readState s.encode = .ok s := by
  have hempty : s.encode.length ≠ 0 := by
    rw [State.encode, State.json, Json.render]
    simp
  have hread : Json.decode State.read s.encode = some s := by
    have hdecode := Json.decode_present State.read stateFields rfl state_names s.sound_fields
      (w := []) rfl
    rw [List.append_nil] at hdecode
    rw [State.encode, State.json, hdecode]
    exact State.read_json h
  rw [readState, if_neg (by omega), hread]

end YourCloud.Observation
