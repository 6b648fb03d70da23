import YourCloud.Approval.Envelope

/-!
# The anti-replay position of one machine

The one fact an Auxiliary remembers between runs is which sequence has already
been spent.  It is a file of fixed fields, read back whole or refused, and it
is replaced by a rename over a synchronised temporary file.

The replacement is modelled step by step, because the step it stops at decides
what the machine holds afterwards.  A step that fails abandons the temporary
file and reports the failure; a crash leaves everything where it stands.  The
rename is atomic: it is the one step that changes the position.

## Main results

* `readState_encodeState` — a position that was written is read back whole.
* `successor_cases` — everything the decision can accept.
* `writeState_position` — after a replacement that stopped anywhere, the
  position is the one before, or the new one.
-/

namespace YourCloud.Approval

open YourCloud.Foundation

/-! ## The anchor -/

/-- What one machine believes about who may approve on it. -/
structure Anchor where
  schemaVersion : Int
  infrastructureID : Bytes
  machineID : Bytes
  approvalEpoch : Nat
  approvalPublicKey : Bytes
  deriving DecidableEq, Repr

namespace Anchor

/-- Whether an envelope is addressed to this very machine under this very
authority. -/
def binds (anchor : Anchor) (envelope : Envelope) : Bool :=
  decide (envelope.infrastructureID = anchor.infrastructureID) &&
    decide (envelope.machineID = anchor.machineID) &&
    decide (envelope.approvalEpoch = anchor.approvalEpoch) &&
    decide (envelope.approvalPublicKey = anchor.approvalPublicKey)

/-- The one key this machine accepts approvals from. -/
def publicKey (anchor : Anchor) : Option Bytes :=
  decodeRawURL anchor.approvalPublicKey publicKeySize

theorem binds_iff {anchor : Anchor} {envelope : Envelope} :
    anchor.binds envelope = true ↔
      envelope.infrastructureID = anchor.infrastructureID ∧
      envelope.machineID = anchor.machineID ∧
      envelope.approvalEpoch = anchor.approvalEpoch ∧
      envelope.approvalPublicKey = anchor.approvalPublicKey := by
  simp only [binds, Bool.and_eq_true, decide_eq_true_eq, and_assoc]

end Anchor

/-! ## The position -/

/-- It bounds the state before it is parsed. -/
def maxStateBytes : Nat := 512

/-- The anti-replay position of one machine under one authority. -/
structure State where
  schemaVersion : Int
  infrastructureID : Bytes
  machineID : Bytes
  approvalEpoch : Nat
  consumedSequence : Nat
  deriving DecidableEq, Repr

/-- What a position must be to be read as one. -/
def State.canonical (state : State) : Bool :=
  decide (state.schemaVersion = Approval.schemaVersion) &&
    canonicalUUIDv4 state.infrastructureID && canonicalMachine state.machineID &&
    decide (state.approvalEpoch ≠ 0 ∧ state.consumedSequence ≠ 0)

def stateFields : List Bytes :=
  [text "schema_version", text "infrastructure_id", text "machine_id", text "approval_epoch",
    text "consumed_sequence"]

def State.read (j : Json) : Option State := do
  let ms ← j.members stateFields
  let schemaVersion ← (Json.field ms (text "schema_version")).readInt
  let infrastructureID ← (Json.field ms (text "infrastructure_id")).readString
  let machineID ← (Json.field ms (text "machine_id")).readString
  let approvalEpoch ← (Json.field ms (text "approval_epoch")).readUint64
  let consumedSequence ← (Json.field ms (text "consumed_sequence")).readUint64
  return { schemaVersion, infrastructureID, machineID, approvalEpoch, consumedSequence }

/-- The position a file holds: nothing when there is no file, and an error when
there is one that cannot be read as a position. -/
def readState (file : Option Bytes) : Option (Option State) :=
  match file with
  | none => some none
  | some data =>
      if data.length = 0 ∨ maxStateBytes < data.length then none
      else
        match Json.decode State.read data with
        | some state => if state.canonical then some (some state) else none
        | none => none

/-- The bytes between the quotes of the `%q` verb; bytes outside seven-bit text
are taken to be printable, which no canonical identity has. -/
def quotedSpelling (s : Bytes) : Bytes :=
  s.flatMap fun b =>
    if b = 0x22 ∨ b = 0x5C then [0x5C, b]
    else if b = 0x07 then text "\\a"
    else if b = 0x08 then text "\\b"
    else if b = 0x0C then text "\\f"
    else if b = 0x0A then text "\\n"
    else if b = 0x0D then text "\\r"
    else if b = 0x09 then text "\\t"
    else if b = 0x0B then text "\\v"
    else if b < 0x20 ∨ b = 0x7F then
      text "\\x" ++ [hexDigit (b.toNat / 16), hexDigit (b.toNat % 16)]
    else [b]

def State.members (state : State) : List (Bytes × Json) :=
  [(text "schema_version", .number (decimalInt state.schemaVersion)),
    (text "infrastructure_id", .string (quotedSpelling state.infrastructureID)),
    (text "machine_id", .string (quotedSpelling state.machineID)),
    (text "approval_epoch", .number (decimal state.approvalEpoch)),
    (text "consumed_sequence", .number (decimal state.consumedSequence))]

/-- The document of a position, when it fits its own bound. -/
def encodeState (state : State) : Option Bytes :=
  let document := (Json.object state.members).render ++ text "\n"
  if maxStateBytes < document.length then none else some document

/-- Whether this envelope is the one and only sequence the machine may accept
next, and the position it leads to. -/
def successor (current : Option State) (anchor : Anchor) (envelope : Envelope) :
    Option State :=
  let next : State :=
    { schemaVersion := schemaVersion
      infrastructureID := anchor.infrastructureID
      machineID := anchor.machineID
      approvalEpoch := envelope.approvalEpoch
      consumedSequence := envelope.sequence }
  match current with
  | none => if envelope.sequence ≠ 1 then none else some next
  | some current =>
      if current.infrastructureID ≠ anchor.infrastructureID ∨
          current.machineID ≠ anchor.machineID then none
      else if envelope.approvalEpoch < current.approvalEpoch then none
      else if current.approvalEpoch < envelope.approvalEpoch then
        if envelope.sequence ≠ 1 then none else some next
      else if envelope.sequence ≠ (current.consumedSequence + 1) % 2 ^ 64 then none
      else some next

/-! ## Replacing the position -/

/-- The two files of the state directory. -/
structure StateDirectory where
  position : Option Bytes
  temporary : Option Bytes
  deriving DecidableEq, Repr

/-- The steps of a replacement, each of which can fail or be cut short. -/
inductive WriteStep where
  | removeTemporary
  | createTemporary
  | writeTemporary
  | syncTemporary
  | closeTemporary
  | rename
  | syncDirectory
  deriving DecidableEq, Repr

def writeSteps : List WriteStep :=
  [.removeTemporary, .createTemporary, .writeTemporary, .syncTemporary, .closeTemporary, .rename,
    .syncDirectory]

/-- What one step does to the directory. -/
def WriteStep.perform (document : Bytes) (directory : StateDirectory) :
    WriteStep → StateDirectory
  | removeTemporary => { directory with temporary := none }
  | createTemporary => { directory with temporary := some [] }
  | writeTemporary => { directory with temporary := some document }
  | syncTemporary => directory
  | closeTemporary => directory
  | rename => { position := directory.temporary, temporary := none }
  | syncDirectory => directory

/-- Where a replacement stops before its end, by an error it returns or by a
crash, and what is then left under the temporary name. -/
structure Stop where
  step : WriteStep
  crash : Bool
  debris : Option Bytes
  deriving DecidableEq, Repr

/-- How a replacement ended. -/
inductive WriteOutcome where
  | written
  | failed
  | crashed
  deriving DecidableEq, Repr

/-- The steps one after the other, up to the one the replacement stops at. -/
def performSteps (document : Bytes) (stop : Option Stop) :
    List WriteStep → StateDirectory → StateDirectory × WriteOutcome
  | [], directory => (directory, .written)
  | step :: rest, directory =>
      match stop with
      | some at_ =>
          if at_.step = step then
            ({ directory with temporary := at_.debris }, if at_.crash then .crashed else .failed)
          else performSteps document stop rest (step.perform document directory)
      | none => performSteps document stop rest (step.perform document directory)

/-- The position replaced durably. -/
def writeState (stop : Option Stop) (directory : StateDirectory) (state : State) :
    StateDirectory × WriteOutcome :=
  match encodeState state with
  | none => (directory, .failed)
  | some document => performSteps document stop writeSteps directory

/-! ## A written position is read back -/

private theorem quotedSpelling_plain {s : Bytes} (h : Plain s) : quotedSpelling s = s := by
  induction s with
  | nil => rfl
  | cons b s ih =>
      obtain ⟨hb, hs⟩ := h.of_cons
      obtain ⟨hctl, hdel, hquote, hslash⟩ := isPlain_iff.1 hb
      have hne : ∀ c : UInt8, c < 0x20 → b ≠ c := by
        rintro c hc rfl
        exact hctl hc
      have hend : b ≠ 0x7F := by
        rintro rfl
        exact absurd hdel (by decide)
      have := ih hs
      rw [quotedSpelling] at this ⊢
      rw [List.flatMap_cons, this]
      simp [hquote, hslash, hctl, hend, hne 0x07 (by decide), hne 0x08 (by decide),
        hne 0x0C (by decide), hne 0x0A (by decide), hne 0x0D (by decide),
        hne 0x09 (by decide), hne 0x0B (by decide)]

theorem State.canonical_iff {state : State} :
    state.canonical = true ↔ state.schemaVersion = Approval.schemaVersion ∧
      canonicalUUIDv4 state.infrastructureID = true ∧
      canonicalMachine state.machineID = true ∧
      state.approvalEpoch ≠ 0 ∧ state.consumedSequence ≠ 0 := by
  simp only [State.canonical, Bool.and_eq_true, decide_eq_true_eq, and_assoc]

/-- A position whose counters fit their words. -/
def State.Bounded (state : State) : Prop :=
  state.approvalEpoch < 2 ^ 64 ∧ state.consumedSequence < 2 ^ 64

private theorem State.members_eq {state : State} (h : state.canonical = true) :
    state.members =
      [(text "schema_version", Json.numeral 1),
        (text "infrastructure_id", .string state.infrastructureID),
        (text "machine_id", .string state.machineID),
        (text "approval_epoch", Json.numeral state.approvalEpoch),
        (text "consumed_sequence", Json.numeral state.consumedSequence)] := by
  obtain ⟨hschema, hinfra, hmachine, -⟩ := State.canonical_iff.1 h
  rw [State.members, hschema, quotedSpelling_plain (canonicalUUIDv4_word hinfra).plain,
    quotedSpelling_plain (canonicalMachine_word hmachine).plain]
  rfl

private theorem State.wellFormed_members {state : State} (h : state.canonical = true) :
    (Json.object state.members).WellFormed := by
  obtain ⟨-, hinfra, hmachine, -⟩ := State.canonical_iff.1 h
  rw [State.members_eq h]
  refine Json.wellFormed_object ?_
  simp only [List.forall_mem_cons, List.not_mem_nil, IsEmpty.forall_iff, implies_true, and_true]
  exact ⟨⟨by decide, Json.wellFormed_numeral _⟩,
    ⟨by decide, (canonicalUUIDv4_word hinfra).plain.spelled⟩,
    ⟨by decide, (canonicalMachine_word hmachine).plain.spelled⟩,
    ⟨by decide, Json.wellFormed_numeral _⟩, ⟨by decide, Json.wellFormed_numeral _⟩⟩

private theorem State.read_members {state : State} (h : state.canonical = true)
    (hb : state.Bounded) : State.read (.object state.members) = some state := by
  obtain ⟨hschema, hinfra, hmachine, -⟩ := State.canonical_iff.1 h
  have hms : (Json.object state.members).members stateFields = some state.members :=
    Json.members_object stateFields rfl (by decide)
  rw [State.read, hms]
  have h1 : Json.field state.members (text "schema_version") =
      .number (decimalInt state.schemaVersion) := rfl
  have h2 : Json.field state.members (text "infrastructure_id") =
      .string (quotedSpelling state.infrastructureID) := rfl
  have h3 : Json.field state.members (text "machine_id") =
      .string (quotedSpelling state.machineID) := rfl
  have h4 : Json.field state.members (text "approval_epoch") =
      Json.numeral state.approvalEpoch := rfl
  have h5 : Json.field state.members (text "consumed_sequence") =
      Json.numeral state.consumedSequence := rfl
  have hone : (Json.number (decimalInt state.schemaVersion)).readInt =
      some state.schemaVersion := by
    rw [hschema]
    exact Json.readInt_numeral (n := 1) (by decide)
  simp only [Option.bind_eq_bind, Option.bind_some, h1, h2, h3, h4, h5, hone, Json.readString,
    Json.readUint64_numeral hb.1, Json.readUint64_numeral hb.2,
    quotedSpelling_plain (canonicalUUIDv4_word hinfra).plain,
    quotedSpelling_plain (canonicalMachine_word hmachine).plain,
    (canonicalUUIDv4_word hinfra).plain.unquote, (canonicalMachine_word hmachine).plain.unquote]
  rfl

theorem readState_encodeState {state : State} {document : Bytes} (h : state.canonical = true)
    (hb : state.Bounded) (hd : encodeState state = some document) :
    readState (some document) = some (some state) := by
  rw [encodeState] at hd
  split at hd
  · cases hd
  · rename_i hfits
    obtain rfl := Option.some.inj hd
    have hparse := Json.parse_render_space (State.wellFormed_members h) (w := text "\n") (by decide)
    have hdistinct : (Json.object state.members).distinct = true := by
      refine Json.distinct_object stateFields rfl (by decide) ?_
      rw [State.members_eq h]
      simp [Json.numeral, Json.distinct]
    have hpos : ((Json.object state.members).render ++ text "\n").length ≠ 0 := by
      rw [List.length_append, Json.render]
      simp
    have hdecode : Json.decode State.read ((Json.object state.members).render ++ text "\n") =
        some state := by
      rw [Json.decode, hparse]
      simp only [Option.bind_eq_bind, Option.bind_some, hdistinct, if_true]
      exact State.read_members h hb
    rw [readState, if_neg (not_or.2 ⟨hpos, hfits⟩), hdecode]
    exact if_pos h

/-! ## What the decision accepts -/

/-- The position an accepted envelope leads to, and how it continues the one
before: it opens a series, opens the series of a later epoch, or is the exact
successor. -/
theorem successor_cases {current : Option State} {anchor : Anchor} {envelope : Envelope}
    {next : State} (h : successor current anchor envelope = some next) :
    next = ⟨schemaVersion, anchor.infrastructureID, anchor.machineID, envelope.approvalEpoch,
      envelope.sequence⟩ ∧
      match current with
      | none => envelope.sequence = 1
      | some state =>
          state.infrastructureID = anchor.infrastructureID ∧
          state.machineID = anchor.machineID ∧
          ((state.approvalEpoch < envelope.approvalEpoch ∧ envelope.sequence = 1) ∨
            (state.approvalEpoch = envelope.approvalEpoch ∧
              envelope.sequence = (state.consumedSequence + 1) % 2 ^ 64)) := by
  cases current with
  | none =>
      simp only [successor] at h
      split at h
      · cases h
      · rename_i hone
        exact ⟨(Option.some.inj h).symm, not_not.1 hone⟩
  | some state =>
      simp only [successor] at h
      split at h
      · cases h
      · rename_i hid
        rw [not_or, not_not, not_not] at hid
        split at h
        · cases h
        · rename_i hold
          split at h
          · rename_i hnew
            split at h
            · cases h
            · rename_i hone
              exact ⟨(Option.some.inj h).symm, hid.1, hid.2, Or.inl ⟨hnew, not_not.1 hone⟩⟩
          · rename_i hsame
            split at h
            · cases h
            · rename_i hseq
              exact ⟨(Option.some.inj h).symm, hid.1, hid.2,
                Or.inr ⟨by omega, not_not.1 hseq⟩⟩

/-! ## What a replacement leaves -/

/-- Whether a replacement got past its rename. -/
def renamed (stop : Option Stop) : Bool :=
  match stop with
  | none => true
  | some at_ => decide (at_.step = .syncDirectory)

/-- The position after a replacement is the new one exactly when it got past
its rename, and the one before otherwise. -/
theorem writeState_position (stop : Option Stop) (directory : StateDirectory) {state : State}
    {document : Bytes} (h : encodeState state = some document) :
    (writeState stop directory state).1.position =
      if renamed stop then some document else directory.position := by
  rw [writeState, h]
  cases stop with
  | none => rfl
  | some at_ =>
      obtain ⟨step, crash, debris⟩ := at_
      cases step <;> rfl

theorem writeState_outcome {stop : Option Stop} {directory : StateDirectory} {state : State}
    (h : (writeState stop directory state).2 = .written) :
    stop = none ∧ ∃ document, encodeState state = some document := by
  rw [writeState] at h
  cases hd : encodeState state with
  | none =>
      rw [hd] at h
      cases h
  | some document =>
      rw [hd] at h
      refine ⟨?_, document, rfl⟩
      cases stop with
      | none => rfl
      | some at_ =>
          obtain ⟨step, crash, debris⟩ := at_
          cases step <;> cases crash <;> cases h

end YourCloud.Approval
