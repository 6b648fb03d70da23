import YourCloud.Controller.CommandReport
import YourCloud.Controller.RelaySnapshot

/-!
# The inventory of a Controller

The inventory names the machines of an infrastructure, in the order of their
identities, and gives each a label.  A label is kept in the form that Unicode
normalises it to and holds letters, marks, digits and a few signs.  What is known of
characters is a parameter.

## Main results

* `Inventory.decode_encode` — an inventory that was written is read back.
* `validateInventory_iff` — what a valid inventory is.
-/

namespace YourCloud.Controller

open YourCloud.Foundation
open YourCloud.Approval (canonicalUUIDv4 canonicalUUIDv4_word)
open YourCloud.Observation

/-! ## Labels -/

/-- What Unicode says of characters: the normalization form C of a text, and the
categories of letters, of marks and of decimal digits. -/
structure Unicode where
  nfc : Bytes → Bytes
  isLetter : Nat → Bool
  isMark : Nat → Bool
  isDecimal : Nat → Bool

def maxLabelBytes : Nat := 256

def maxLabelScalars : Nat := 80

/-- The characters of a string after so many bytes of it. -/
def runesFrom : Nat → Bytes → List Nat
  | _, [] => []
  | k + 1, _ :: rest => runesFrom k rest
  | 0, b :: rest =>
      if runeSize (b :: rest) = 0 then 0xFFFD :: runesFrom 0 rest
      else
        codePoint ((b :: rest).take (runeSize (b :: rest))) ::
          runesFrom (runeSize (b :: rest) - 1) rest

/-- `[]rune(s)` -/
def runes (s : Bytes) : List Nat := runesFrom 0 s

variable (unicode : Unicode)

def letterOrDigit (value : Nat) : Bool := unicode.isLetter value || unicode.isDecimal value

/-- The signs of a label besides the space. -/
def labelSigns : List Nat := [0x2D, 0x5F, 0x2E, 0x27, 0x28, 0x29]

/-- The characters after a letter or mark, or after a space. -/
def checkRunes : (previousWasLetterOrMark previousWasSpace : Bool) → List Nat → Option String
  | _, _, [] => none
  | previousWasLetterOrMark, previousWasSpace, value :: rest =>
      if unicode.isLetter value then checkRunes true false rest
      else if unicode.isMark value then
        if previousWasLetterOrMark = false then
          some "combining mark must follow a letter or mark"
        else checkRunes true false rest
      else if unicode.isDecimal value then checkRunes false false rest
      else if value = 0x20 then
        if previousWasSpace then some "consecutive spaces are forbidden"
        else checkRunes false true rest
      else if value ∈ labelSigns then checkRunes false false rest
      else some "label contains a character outside the positive list"

/-- The form in which a label is kept. -/
def canonicalLabel (raw : Bytes) : Except String Bytes :=
  if raw = [] ∨ maxLabelBytes < raw.length ∨ ¬ Valid raw then
    .error "label byte length or UTF-8 is invalid"
  else
    let canonical := unicode.nfc raw
    if canonical = [] ∨ maxLabelBytes < canonical.length ∨ ¬ Valid canonical then
      .error "canonical label byte length is invalid"
    else
      let runes := runes canonical
      if runes = [] ∨ maxLabelScalars < runes.length then
        .error "label scalar count is invalid"
      else if ¬ (runes.head?.any (letterOrDigit unicode) = true ∧
          runes.getLast?.any (letterOrDigit unicode) = true) then
        .error "label must start and end with a letter or digit"
      else
        match checkRunes unicode false false runes with
        | some reason => .error reason
        | none => .ok canonical

/-- A label that is in the form it is kept in. -/
def isCanonicalLabel (label : Bytes) : Bool :=
  match canonicalLabel unicode label with
  | .error _ => false
  | .ok canonical => canonical = label

/-! ## Data -/

def inventorySchema : Int := 1

def maxInventoryBytes : Nat := 65536

structure InventoryMachine where
  machineID : Bytes
  label : Bytes
  deriving DecidableEq, Repr

structure Inventory where
  schemaVersion : Int
  controllerID : Bytes
  infrastructureID : Bytes
  inventoryRevision : Nat
  infrastructureLabel : Option Bytes
  machines : Slice InventoryMachine
  deriving DecidableEq, Repr

/-! ## Checks -/

/-- The machines after one of a name. -/
def validateInventoryMachines : Bytes → List InventoryMachine → Option String
  | _, [] => none
  | previous, machine :: rest =>
      match validateMachineID machine.machineID with
      | some reason => some reason
      | none =>
          if machine.machineID ≤ previous then
            some "inventory machines must be unique and sorted"
          else if isCanonicalLabel unicode machine.label = false then
            some "machine label is not canonical"
          else validateInventoryMachines machine.machineID rest

def validateInventory (state : Inventory) : Option String :=
  if state.schemaVersion ≠ inventorySchema then some "unsupported inventory schema_version"
  else if canonicalUUIDv4 state.controllerID = false then
    some "controller_id: identifier must be a canonical lower-case UUIDv4"
  else if canonicalUUIDv4 state.infrastructureID = false then
    some "infrastructure_id: identifier must be a canonical lower-case UUIDv4"
  else if state.infrastructureLabel.any (fun label => !isCanonicalLabel unicode label) then
    some "infrastructure label is not canonical"
  else if state.machines = none ∨ maxMachines < state.machines.items.length then
    some "inventory machines must be a present bounded array"
  else validateInventoryMachines unicode [] state.machines.items

/-! ## Writing and reading -/

def inventoryMachineFields : List Bytes := [text "machine_id", text "label"]

def InventoryMachine.fields (machine : InventoryMachine) : List (Bytes × Option Json) :=
  [(text "machine_id", some (Json.quoted true machine.machineID)),
    (text "label", some (Json.quoted true machine.label))]

def InventoryMachine.json (machine : InventoryMachine) : Json :=
  .object (Json.present machine.fields)

def InventoryMachine.read (j : Json) : Option InventoryMachine := do
  let ms ← j.members inventoryMachineFields
  let machineID ← (Json.field ms (text "machine_id")).readString
  let label ← (Json.field ms (text "label")).readString
  return { machineID, label }

def inventoryFields : List Bytes :=
  [text "schema_version", text "controller_id", text "infrastructure_id",
    text "inventory_revision", text "infrastructure_label", text "machines"]

/-- A label, or null. -/
def labelJson : Option Bytes → Json
  | none => .null
  | some label => Json.quoted true label

def Inventory.fields (state : Inventory) : List (Bytes × Option Json) :=
  [(text "schema_version", some (Json.numeralInt state.schemaVersion)),
    (text "controller_id", some (Json.quoted true state.controllerID)),
    (text "infrastructure_id", some (Json.quoted true state.infrastructureID)),
    (text "inventory_revision", some (Json.numeral state.inventoryRevision)),
    (text "infrastructure_label", some (labelJson state.infrastructureLabel)),
    (text "machines", some (Slice.json InventoryMachine.json state.machines))]

/-- `json.Marshal(state)` -/
def Inventory.encode (state : Inventory) : Bytes :=
  (Json.object (Json.present state.fields)).render

def Inventory.read (j : Json) : Option Inventory := do
  let ms ← j.members inventoryFields
  let schemaVersion ← (Json.field ms (text "schema_version")).readInt
  let controllerID ← (Json.field ms (text "controller_id")).readString
  let infrastructureID ← (Json.field ms (text "infrastructure_id")).readString
  let inventoryRevision ← (Json.field ms (text "inventory_revision")).readUint64
  let infrastructureLabel ← Json.readPointer Json.readString
    (Json.field ms (text "infrastructure_label"))
  let machines ← Slice.read InventoryMachine.read (Json.field ms (text "machines"))
  return { schemaVersion, controllerID, infrastructureID, inventoryRevision,
           infrastructureLabel, machines }

/-- An inventory as it was written. -/
def readInventory (file : Bytes) : Except String Inventory :=
  if file.length = 0 ∨ maxInventoryBytes < file.length then
    .error "Controller state file is empty, unreadable or too large"
  else
    match Json.decode Inventory.read file with
    | none => .error "decode inventory authority"
    | some state =>
        match validateInventory unicode state with
        | some reason => .error reason
        | none => .ok state

/-! ## What a valid inventory is -/

theorem canonicalLabel_valid {raw canonical : Bytes}
    (h : canonicalLabel unicode raw = .ok canonical) : Valid canonical := by
  unfold canonicalLabel at h
  split at h
  · cases h
  dsimp only at h
  split at h
  · cases h
  rename_i hcanonical
  split at h
  · cases h
  split at h
  · cases h
  split at h
  · cases h
  · cases h
    by_contra hinvalid
    exact hcanonical (Or.inr (Or.inr hinvalid))

theorem isCanonicalLabel_valid {label : Bytes} (h : isCanonicalLabel unicode label = true) :
    Valid label := by
  unfold isCanonicalLabel at h
  split at h
  · cases h
  · rename_i canonical hcanonical
    have hsame : canonical = label := of_decide_eq_true h
    rw [← hsame]
    exact canonicalLabel_valid unicode hcanonical

/-- Machines in the order of their names, each under a name and a label of the right form. -/
structure MachinesKept (machines : List InventoryMachine) : Prop where
  sorted : (machines.map InventoryMachine.machineID).Pairwise (· < ·)
  names : ∀ machine ∈ machines, validateMachineID machine.machineID = none
  labels : ∀ machine ∈ machines, isCanonicalLabel unicode machine.label = true

theorem validateInventoryMachines_iff (previous : Bytes) (machines : List InventoryMachine) :
    validateInventoryMachines unicode previous machines = none ↔
      (∀ machine ∈ machines, previous < machine.machineID) ∧ MachinesKept unicode machines := by
  induction machines generalizing previous with
  | nil =>
      simp only [validateInventoryMachines, true_iff]
      exact ⟨by simp, by simp, by simp, by simp⟩
  | cons machine rest ih =>
      unfold validateInventoryMachines
      constructor
      · intro h
        split at h
        · cases h
        rename_i hname
        split at h
        · cases h
        rename_i hlate
        split at h
        · cases h
        rename_i hlabel
        obtain ⟨hlater, hkept⟩ := (ih machine.machineID).1 h
        have hprevious : previous < machine.machineID := List.not_le.1 hlate
        refine ⟨?_, ?_, ?_, ?_⟩
        · intro other hother
          rw [List.mem_cons] at hother
          cases hother with
          | inl hfirst => rwa [hfirst]
          | inr hrest => exact List.lt_trans hprevious (hlater other hrest)
        · simp only [List.map_cons, List.pairwise_cons]
          exact ⟨by simpa using hlater, hkept.sorted⟩
        · simp only [List.forall_mem_cons]
          exact ⟨hname, hkept.names⟩
        · simp only [List.forall_mem_cons]
          exact ⟨by simpa using hlabel, hkept.labels⟩
      · rintro ⟨hlater, hsorted, hnames, hlabels⟩
        simp only [List.map_cons, List.pairwise_cons] at hsorted
        simp only [List.forall_mem_cons] at hlater hnames hlabels
        rw [hnames.1]
        dsimp only
        rw [if_neg (List.not_le.2 hlater.1), hlabels.1, if_neg (by decide)]
        exact (ih machine.machineID).2
          ⟨by simpa using hsorted.1, hsorted.2, hnames.2, hlabels.2⟩

/-- What passes as an inventory. -/
structure Inventory.Admitted (state : Inventory) : Prop where
  schema : state.schemaVersion = inventorySchema
  controller : canonicalUUIDv4 state.controllerID = true
  infrastructure : canonicalUUIDv4 state.infrastructureID = true
  label : ∀ label ∈ state.infrastructureLabel, isCanonicalLabel unicode label = true
  present : state.machines ≠ none
  bounded : state.machines.items.length ≤ maxMachines
  machines : MachinesKept unicode state.machines.items

theorem name_pos {name : Bytes} (h : validateMachineID name = none) : [] < name := by
  cases name with
  | nil => simp [validateMachineID] at h
  | cons b rest => exact List.nil_lt_cons b rest

theorem validateInventory_iff (state : Inventory) :
    validateInventory unicode state = none ↔ state.Admitted unicode := by
  unfold validateInventory
  constructor
  · intro h
    split at h
    · cases h
    rename_i hschema
    split at h
    · cases h
    rename_i hcontroller
    split at h
    · cases h
    rename_i hinfrastructure
    split at h
    · cases h
    rename_i hlabel
    split at h
    · cases h
    rename_i hmachines
    obtain ⟨hpresent, hbounded⟩ := not_or.1 hmachines
    refine ⟨not_not.1 hschema, by simpa using hcontroller, by simpa using hinfrastructure, ?_,
      hpresent, not_lt.1 hbounded, ((validateInventoryMachines_iff unicode _ _).1 h).2⟩
    intro label hsome
    rw [Option.mem_def] at hsome
    simpa [hsome] using hlabel
  · intro h
    have hlabel : ¬ state.infrastructureLabel.any (fun label => !isCanonicalLabel unicode label) =
        true := by
      cases hsome : state.infrastructureLabel with
      | none => simp
      | some label => simp [h.label label hsome]
    have hmachines : ¬ (state.machines = none ∨ maxMachines < state.machines.items.length) :=
      not_or.2 ⟨h.present, not_lt.2 h.bounded⟩
    rw [if_neg (not_not.2 h.schema), h.controller, if_neg (by decide), h.infrastructure,
      if_neg (by decide), if_neg hlabel, if_neg hmachines, validateInventoryMachines_iff]
    exact ⟨fun machine hmachine => name_pos (h.machines.names machine hmachine), h.machines⟩

/-! ## What is written is read back -/

private theorem machine_names : Json.Names inventoryMachineFields := Json.Names.of_check (by decide)

private theorem inventory_names : Json.Names inventoryFields := Json.Names.of_check (by decide)

theorem InventoryMachine.read_json {machine : InventoryMachine} (hname : Valid machine.machineID)
    (hlabel : Valid machine.label) : InventoryMachine.read machine.json = some machine := by
  refine Json.bind_read (Json.members_present inventoryMachineFields rfl machine_names) ?_
  refine Json.bind_read (Json.read_written machine_names rfl
    (Json.readString_quoted_valid true hname) rfl) ?_
  exact Json.bind_read (Json.read_written machine_names rfl
    (Json.readString_quoted_valid true hlabel) rfl) rfl

private theorem InventoryMachine.sound_json (machine : InventoryMachine) :
    Json.Sound (some machine.json) := by
  have fields : ∀ f ∈ machine.fields, Json.Sound f.2 := by
    simp [InventoryMachine.fields, Json.sound_quoted]
  obtain ⟨hwellFormed, hdistinct⟩ :=
    Json.sound_present inventoryMachineFields rfl machine_names fields
  exact Json.sound_some hwellFormed hdistinct

private theorem readLabel_json {label : Option Bytes} (h : ∀ l ∈ label, Valid l) :
    Json.readPointer Json.readString (labelJson label) = some label := by
  cases label with
  | none => rfl
  | some label =>
      have hread : Json.readString (Json.quoted true label) = some label :=
        Json.readString_quoted_valid true (h label rfl)
      show (Json.readString (Json.quoted true label)).map some = _
      rw [hread]
      rfl

private theorem sound_label (label : Option Bytes) : Json.Sound (some (labelJson label)) := by
  cases label with
  | none => exact Json.sound_some trivial rfl
  | some label => exact Json.sound_quoted true label

/-- An inventory that was written is read back. -/
theorem Inventory.decode_encode {state : Inventory} (h : state.Admitted unicode)
    (hrevision : state.inventoryRevision < 2 ^ 64)
    (hlength : state.encode.length ≤ maxInventoryBytes) :
    readInventory unicode state.encode = .ok state := by
  have hempty : state.encode.length ≠ 0 := by
    rw [Inventory.encode, Json.render]
    simp
  have hmachines : ∀ machine ∈ state.machines.items,
      InventoryMachine.read machine.json = some machine := fun machine hmachine =>
    InventoryMachine.read_json (machineIDPattern_valid (h.machines.names machine hmachine))
      (isCanonicalLabel_valid unicode (h.machines.labels machine hmachine))
  have hsound : ∀ f ∈ state.fields, Json.Sound f.2 := by
    have machines : Json.Sound (some (Slice.json InventoryMachine.json state.machines)) :=
      Slice.sound_json fun machine _ => machine.sound_json
    simp only [Inventory.fields, List.forall_mem_cons, List.not_mem_nil, false_implies,
      implies_true, Json.sound_numeralInt, Json.sound_quoted, Json.sound_numeral, sound_label,
      machines, and_self]
  have hread : Inventory.read (.object (Json.present state.fields)) = some state := by
    refine Json.bind_read (Json.members_present inventoryFields rfl inventory_names) ?_
    refine Json.bind_read (Json.read_written inventory_names rfl
      (Json.readInt_numeralInt (by rw [h.schema]; decide) (by rw [h.schema]; decide)) rfl) ?_
    refine Json.bind_read (Json.read_written inventory_names rfl
      (Json.readString_quoted_valid true (canonicalUUIDv4_word h.controller).plain.valid) rfl) ?_
    refine Json.bind_read (Json.read_written inventory_names rfl
      (Json.readString_quoted_valid true (canonicalUUIDv4_word h.infrastructure).plain.valid)
      rfl) ?_
    refine Json.bind_read (Json.read_written inventory_names rfl
      (Json.readUint64_numeral hrevision) rfl) ?_
    refine Json.bind_read (Json.read_written inventory_names rfl
      (readLabel_json fun label hlabel =>
        isCanonicalLabel_valid unicode (h.label label hlabel)) rfl) ?_
    exact Json.bind_read (Json.read_written inventory_names rfl
      (Slice.read_json hmachines) rfl) rfl
  have hdecode := Json.decode_present Inventory.read inventoryFields rfl inventory_names hsound
    (w := []) rfl
  rw [List.append_nil] at hdecode
  rw [readInventory, if_neg (by omega), Inventory.encode, hdecode, hread]
  dsimp only
  rw [(validateInventory_iff unicode state).2 h]

/-! ## Seven-bit labels -/

/-- What holds of characters in texts of seven bits: these are normalized, their letters
and digits are the known ones, and there is no mark among them. -/
def sevenBits : Unicode :=
  { nfc := id
    isLetter := fun value => (0x41 ≤ value && value ≤ 0x5A) || (0x61 ≤ value && value ≤ 0x7A)
    isMark := fun _ => false
    isDecimal := fun value => 0x30 ≤ value && value ≤ 0x39 }

end YourCloud.Controller
