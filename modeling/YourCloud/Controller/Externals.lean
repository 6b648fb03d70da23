import YourCloud.Controller.InventoryStore
import YourCloud.Foundation.Checks

/-!
# The declared elements of a Controller

A human declares what is reached from a machine through one of its ports.  The Controller
keeps the declarations in an inventory of its own, with the last conclusion of a reading
beside each, and draws the conclusions from what the Relay's snapshots say about the ports
of the machines.  It infers nothing: a port that is silent contradicts a declaration only
where it was found answering.

## Main results

* `concludeExternalReading_again` — what was concluded once is not concluded otherwise.
* `absorb_cases`, `declare_cases` — everything that a snapshot and a declaration can leave.
* `validateElements_ok` — what a valid inventory is used for.
* `absorbed_valid` — the candidate of a snapshot passes.
-/

namespace YourCloud.Controller.Externals

open YourCloud.Foundation
open YourCloud.Approval (canonicalUUIDv4)
open YourCloud.Observation

/-! ## Data -/

def externalSchema : Int := 1

def maxExternalElements : Nat := 128

def maxExternalLabelBytes : Nat := 64

def kindService : Bytes := text "external_service"

def kindPassage : Bytes := text "external_passage"

def stateVerified : Bytes := text "verified"

def stateContradicted : Bytes := text "contradicted"

def stateUnverifiable : Bytes := text "unverifiable"

def reasonNothingListening : Bytes := text "nothing_listening"

def reasonResponseTooLarge : Bytes := text "response_too_large"

def reasonMachineUnreachable : Bytes := text "machine_unreachable"

def reasonPortIsManaged : Bytes := text "port_is_managed"

/-- What a reading concluded and when. -/
structure ExternalObservation where
  state : Bytes
  reason : Bytes
  observedAt : Bytes
  deriving DecidableEq, Repr

/-- A declaration and the last reading taken against it. -/
structure ExternalElement where
  elementID : Bytes
  machineID : Bytes
  label : Bytes
  kind : Bytes
  probePort : Int
  declaredAt : Bytes
  observation : Option ExternalObservation
  deriving DecidableEq, Repr

structure ExternalInventory where
  schemaVersion : Int
  controllerID : Bytes
  infrastructureID : Bytes
  externalRevision : Nat
  elements : Slice ExternalElement
  deriving DecidableEq, Repr

/-- The four values that a human chooses. -/
structure ExternalDeclaration where
  machineID : Bytes
  label : Bytes
  kind : Bytes
  probePort : Int
  deriving DecidableEq, Repr

/-- The installation that a store belongs to, and what it serves. -/
structure ExternalStore where
  controllerID : Bytes
  infrastructureID : Bytes
  state : ExternalInventory
  deriving DecidableEq, Repr

/-! ## Checks -/

/-- A check of another kind that has found nothing. -/
def demandNone (problem : Option String) : Except Sentence Unit :=
  match problem with
  | some reason => .error (say reason)
  | none => .ok ()

/-- A label of 1 to 64 printable ASCII characters, as it was written. -/
def canonicalExternalLabel (raw : Bytes) : Except Sentence Bytes := do
  demand (raw.length ≠ 0 && raw.length ≤ maxExternalLabelBytes)
    (say "external label length is outside 1..64")
  demand (raw.all fun b => 0x20 ≤ b && b ≤ 0x7E)
    (say "external label carries a byte outside printable ASCII")
  return raw

def validateExternalObservation (observed : ExternalObservation) : Except Sentence Unit := do
  if observed.state = stateVerified ∨ observed.state = stateContradicted then
    demand (observed.reason = []) (say "only an unverifiable reading carries a reason")
  else if observed.state = stateUnverifiable then
    demand (observed.reason = reasonNothingListening || observed.reason = reasonResponseTooLarge ||
        observed.reason = reasonMachineUnreachable || observed.reason = reasonPortIsManaged)
      (say "an unverifiable reading must name a reason of the closed list")
  else .error (say "external observation state is outside its closed list")
  demand (parseCanonicalUTC observed.observedAt).isOk (say "observed_at is not canonical UTC")

def externalKeyLess (leftMachine : Bytes) (leftPort : Int) (rightMachine : Bytes)
    (rightPort : Int) : Bool :=
  if leftMachine ≠ rightMachine then leftMachine < rightMachine else leftPort < rightPort

/-- What of an element no reading changes. -/
def validateDeclared (element : ExternalElement) : Except Sentence Unit := do
  demandNone (validateMachineID element.machineID)
  demand ((canonicalExternalLabel element.label).toOption = some element.label)
    (say "external label is not canonical")
  demand (element.kind = kindService || element.kind = kindPassage)
    (say "external kind is outside its closed list")
  demand (1 ≤ element.probePort && element.probePort ≤ 65535)
    (say "probe_port is outside 1..65535")
  demand (parseCanonicalUTC element.declaredAt).isOk (say "declared_at is not canonical UTC")

def validateHeld : Option ExternalObservation → Except Sentence Unit
  | some observed => validateExternalObservation observed
  | none => .ok ()

/-- The elements from an index on, after the names seen and after one of a machine and port. -/
def validateElements : (seen : List Bytes) → (index : Nat) → (previousMachine : Bytes) →
    (previousPort : Int) → List ExternalElement → Except Sentence Unit
  | _, _, _, _, [] => .ok ()
  | seen, index, previousMachine, previousPort, element :: rest => do
      demand (decodeRawURL element.elementID 16).isSome (say "element_id is malformed")
      demand (element.elementID ∉ seen) (say "element_id is duplicated")
      validateDeclared element
      validateHeld element.observation
      demand (!(0 < index && !externalKeyLess previousMachine previousPort element.machineID
          element.probePort))
        (say "external elements must be unique and sorted by machine and port")
      validateElements (element.elementID :: seen) (index + 1) element.machineID
        element.probePort rest

def validateExternalInventory (state : ExternalInventory) : Except Sentence Unit := do
  demand (state.schemaVersion = externalSchema)
    (say "unsupported external inventory schema_version")
  demand (canonicalUUIDv4 state.controllerID)
    (say "controller_id: identifier must be a canonical lower-case UUIDv4")
  demand (canonicalUUIDv4 state.infrastructureID)
    (say "infrastructure_id: identifier must be a canonical lower-case UUIDv4")
  demand (state.elements ≠ none && state.elements.items.length ≤ maxExternalElements)
    (say "external elements must be a present bounded array")
  validateElements [] 0 [] 0 state.elements.items

/-! ## Declarations -/

/-- A candidate that is valid and of this installation is served once it is written.  The
writing fails with an error or with none. -/
def ExternalStore.commit (store : ExternalStore) (failure : Option Sentence)
    (candidate : ExternalInventory) : ExternalStore × Except Sentence Unit :=
  match validateExternalInventory candidate with
  | .error reason => (store, .error reason)
  | .ok () =>
      if candidate.controllerID ≠ store.controllerID ∨
          candidate.infrastructureID ≠ store.infrastructureID then
        (store, .error (say "external inventory identities are immutable"))
      else
        match failure with
        | some reason => (store, .error reason)
        | none => ({ store with state := candidate }, .ok ())

/-- The index of a machine and port, or the one where they go. -/
def externalSearch (elements : List ExternalElement) (machineID : Bytes) (probePort : Int) : Nat :=
  searchList (fun element =>
    !externalKeyLess element.machineID element.probePort machineID probePort) elements

/-- The name made of sixteen random bytes, where there are that many. -/
def mintElementID (random : Bytes) : Except Sentence Bytes := do
  demand (16 ≤ random.length) (say "external element identifier cannot be minted")
  return encodeRawURL (random.take 16)

/-- What is asked of a declaration before the inventory is looked at: its date. -/
def admitDeclaration (declaration : ExternalDeclaration) (machineAttached : Bool)
    (now : Instant) : Except Sentence Bytes := do
  demandNone (validateMachineID declaration.machineID)
  let _ ← canonicalExternalLabel declaration.label
  demand (declaration.kind = kindService || declaration.kind = kindPassage)
    (say "external kind is outside its closed list")
  demand (1 ≤ declaration.probePort && declaration.probePort ≤ 65535)
    (say "probe_port is outside 1..65535")
  demand machineAttached (say "declared machine is not in the managed inventory")
  let declaredAt := Rfc3339.format now
  demand (parseCanonicalUTC declaredAt).isOk (say "declaration time is not canonical UTC")
  return declaredAt

/-- The element that is added, and where. -/
def newElement (state : ExternalInventory) (declaration : ExternalDeclaration)
    (machineAttached : Bool) (now : Instant) (random : Bytes) :
    Except Sentence (Nat × ExternalElement) := do
  let declaredAt ← admitDeclaration declaration machineAttached now
  let elements := state.elements.items
  let index := externalSearch elements declaration.machineID declaration.probePort
  demand (!(elements[index]?.any fun element =>
      element.machineID = declaration.machineID && element.probePort = declaration.probePort))
    (say "this machine and probe_port are already declared")
  demand (!(maxExternalElements ≤ elements.length || state.externalRevision = maxRevision))
    (say "external inventory capacity or revision is exhausted")
  let elementID ← mintElementID random
  return (index, { elementID, machineID := declaration.machineID, label := declaration.label
                   kind := declaration.kind, probePort := declaration.probePort, declaredAt
                   observation := none })

/-- The inventory with one more element. -/
def ExternalInventory.insert (state : ExternalInventory) (index : Nat)
    (element : ExternalElement) : ExternalInventory :=
  { state with
    elements := some (state.elements.items.insertIdx index element)
    externalRevision := state.externalRevision + 1 }

/-- One declaration recorded: the element and the revision of the inventory. -/
def declare (declaration : ExternalDeclaration) (machineAttached : Bool) (now : Instant)
    (random : Bytes) (failure : Option Sentence) (store : ExternalStore) :
    ExternalStore × Except Sentence (ExternalElement × Nat) :=
  match newElement store.state declaration machineAttached now random with
  | .error reason => (store, .error reason)
  | .ok (index, element) =>
      match store.commit failure (store.state.insert index element) with
      | (store, .error reason) => (store, .error reason)
      | (store, .ok ()) => (store, .ok (element, store.state.externalRevision))

/-! ## Readings -/

/-- The outcome for a port, where the readings name it. -/
def readingForPort (readings : List ExternalReading) (port : Int) : Option Bytes :=
  (readings.find? fun reading => reading.probePort = port).map ExternalReading.outcome

/-- What a snapshot carries of a machine; of two of one name the last one counts. -/
def observationOf (snapshot : RelaySnapshot) (machineID : Bytes) :
    Option RelaySnapshotObservation :=
  (Table.find RelaySnapshotMachine.machineID machineID
    (machinesByID snapshot.machines.items)).bind RelaySnapshotMachine.observation

/-- Whether the last reading has found the port answering, or contradicts that it did. -/
def ExternalObservation.answered (observed : ExternalObservation) : Bool :=
  observed.state = stateVerified || observed.state = stateContradicted

/-- What the outcome of a reading stands for, after an answer or after none. -/
def conclusionOf (outcome : Bytes) (answered : Bool) (observedAt : Bytes) :
    Option ExternalObservation :=
  if outcome = externalAnswered then some ⟨stateVerified, [], observedAt⟩
  else if outcome = externalTooLarge then
    some ⟨stateUnverifiable, reasonResponseTooLarge, observedAt⟩
  else if outcome = externalManaged then
    some ⟨stateUnverifiable, reasonPortIsManaged, observedAt⟩
  else if outcome = externalNoListener then
    if answered then some ⟨stateContradicted, [], observedAt⟩
    else some ⟨stateUnverifiable, reasonNothingListening, observedAt⟩
  else none

/-- What a snapshot lets conclude about an element, if anything. -/
def concludeExternalReading (element : ExternalElement) (snapshot : RelaySnapshot) :
    Option ExternalObservation :=
  match observationOf snapshot element.machineID with
  | none =>
      -- The machine has stopped answering, which is said of what was read before.
      match element.observation with
      | none => none
      | some held =>
          if held.state = stateUnverifiable ∧ held.reason = reasonMachineUnreachable then none
          else some ⟨stateUnverifiable, reasonMachineUnreachable, snapshot.snapshotAt⟩
  | some current =>
      match readingForPort current.external.items element.probePort with
      | none => none
      | some outcome =>
          (conclusionOf outcome (element.observation.any ExternalObservation.answered)
            current.observedAt).filter fun concluded =>
              (validateExternalObservation concluded).isOk

/-- Whether both texts are instants and the second one is not before the first. -/
def notBefore (previous observed : Bytes) : Bool :=
  match parseCanonicalUTC previous, parseCanonicalUTC observed with
  | .ok previous, .ok observed => previous ≤ observed
  | _, _ => false

/-- Whether a conclusion may follow the one held: it is another one, and not of an earlier
time. -/
def follows (held concluded : ExternalObservation) : Bool :=
  held ≠ concluded && notBefore held.observedAt concluded.observedAt

/-- The conclusion that is recorded of an element, if any. -/
def recordedReading (snapshot : RelaySnapshot) (element : ExternalElement) :
    Option ExternalObservation :=
  (concludeExternalReading element snapshot).filter fun concluded =>
    element.observation.all fun held => follows held concluded

/-- An element after a snapshot. -/
def ExternalElement.absorb (snapshot : RelaySnapshot) (element : ExternalElement) :
    ExternalElement :=
  { element with observation := (recordedReading snapshot element).or element.observation }

/-- The inventory with what was recorded of each element. -/
def ExternalInventory.absorb (state : ExternalInventory) (snapshot : RelaySnapshot) :
    ExternalInventory :=
  { state with
    elements := some (state.elements.items.map (ExternalElement.absorb snapshot))
    externalRevision := state.externalRevision + 1 }

/-- Everything that a snapshot says about the declared ports, recorded. -/
def absorbSnapshot (snapshot : Option RelaySnapshot) (failure : Option Sentence)
    (store : ExternalStore) : ExternalStore × Except Sentence Unit :=
  match snapshot with
  | none => (store, .ok ())
  | some snapshot =>
      if (parseCanonicalUTC snapshot.snapshotAt).isOk = false then
        (store, .error (say "Relay snapshot timestamp is not canonical UTC"))
      else if store.state.elements.items.all
          (fun element => (recordedReading snapshot element).isNone) then (store, .ok ())
      else if store.state.externalRevision = maxRevision then
        (store, .error (say "external revision is saturated"))
      else store.commit failure (store.state.absorb snapshot)

/-! ## What is concluded -/

section Conclusions

variable {element : ExternalElement} {snapshot : RelaySnapshot}
  {concluded held : ExternalObservation}

@[simp] theorem answered_unverifiable (reason observedAt : Bytes) :
    (ExternalObservation.mk stateUnverifiable reason observedAt).answered = false := rfl

theorem isOk_iff {x : Except Sentence Unit} : x.isOk = true ↔ x = .ok () := by
  cases x with
  | error reason => simp [Except.isOk, Except.toBool]
  | ok u => simp [Except.isOk, Except.toBool]

/-- The four conclusions of a reading. -/
theorem conclusionOf_cases {outcome observedAt : Bytes} {answered : Bool}
    (h : conclusionOf outcome answered observedAt = some concluded) :
    outcome = externalAnswered ∧ concluded = ⟨stateVerified, [], observedAt⟩ ∨
      (outcome = externalTooLarge ∧
          concluded = ⟨stateUnverifiable, reasonResponseTooLarge, observedAt⟩ ∨
        outcome = externalManaged ∧
          concluded = ⟨stateUnverifiable, reasonPortIsManaged, observedAt⟩) ∨
      outcome = externalNoListener ∧
        concluded = if answered then ⟨stateContradicted, [], observedAt⟩
          else ⟨stateUnverifiable, reasonNothingListening, observedAt⟩ := by
  unfold conclusionOf at h
  by_cases hanswered : outcome = externalAnswered
  · rw [if_pos hanswered] at h
    exact Or.inl ⟨hanswered, (Option.some.inj h).symm⟩
  rw [if_neg hanswered] at h
  by_cases hlarge : outcome = externalTooLarge
  · rw [if_pos hlarge] at h
    exact Or.inr (Or.inl (Or.inl ⟨hlarge, (Option.some.inj h).symm⟩))
  rw [if_neg hlarge] at h
  by_cases hmanaged : outcome = externalManaged
  · rw [if_pos hmanaged] at h
    exact Or.inr (Or.inl (Or.inr ⟨hmanaged, (Option.some.inj h).symm⟩))
  rw [if_neg hmanaged] at h
  by_cases hsilent : outcome = externalNoListener
  · rw [if_pos hsilent] at h
    refine Or.inr (Or.inr ⟨hsilent, ?_⟩)
    cases answered with
    | false => exact (Option.some.inj h).symm
    | true => exact (Option.some.inj h).symm
  · rw [if_neg hsilent] at h
    cases h

/-- A contradiction goes on being one, and so does a silence that was none. -/
theorem conclusionOf_again {outcome observedAt : Bytes} {answered : Bool}
    (h : conclusionOf outcome answered observedAt = some concluded) :
    conclusionOf outcome concluded.answered observedAt = some concluded := by
  rcases conclusionOf_cases h with ⟨houtcome, hsame⟩ |
    (⟨houtcome, hsame⟩ | ⟨houtcome, hsame⟩) | ⟨houtcome, hsame⟩
  · rw [houtcome, hsame]
    rfl
  · rw [houtcome, hsame]
    rfl
  · rw [houtcome, hsame]
    rfl
  · rw [houtcome, hsame]
    cases answered with
    | false => rfl
    | true => rfl

/-- Everything that a snapshot lets conclude. -/
theorem concludeExternalReading_cases
    (h : concludeExternalReading element snapshot = some concluded) :
    (observationOf snapshot element.machineID = none ∧ element.observation.isSome ∧
        concluded = ⟨stateUnverifiable, reasonMachineUnreachable, snapshot.snapshotAt⟩) ∨
      ∃ current outcome, observationOf snapshot element.machineID = some current ∧
        readingForPort current.external.items element.probePort = some outcome ∧
        conclusionOf outcome (element.observation.any ExternalObservation.answered)
          current.observedAt = some concluded ∧
        validateExternalObservation concluded = .ok () := by
  unfold concludeExternalReading at h
  cases hcurrent : observationOf snapshot element.machineID with
  | none =>
      rw [hcurrent] at h
      cases hheld : element.observation with
      | none =>
          rw [hheld] at h
          cases h
      | some held =>
          rw [hheld] at h
          dsimp only at h
          split at h
          · cases h
          · exact Or.inl ⟨rfl, rfl, (Option.some.inj h).symm⟩
  | some current =>
      rw [hcurrent] at h
      dsimp only at h
      cases houtcome : readingForPort current.external.items element.probePort with
      | none =>
          rw [houtcome] at h
          cases h
      | some outcome =>
          rw [houtcome] at h
          obtain ⟨hconcluded, hvalid⟩ := Option.filter_eq_some_iff.1 h
          exact Or.inr ⟨current, outcome, rfl, houtcome, hconcluded, isOk_iff.1 hvalid⟩

/-- What is concluded is valid. -/
theorem concludeExternalReading_valid (hat : (parseCanonicalUTC snapshot.snapshotAt).isOk = true)
    (h : concludeExternalReading element snapshot = some concluded) :
    validateExternalObservation concluded = .ok () := by
  rcases concludeExternalReading_cases h with ⟨-, -, hsame⟩ | ⟨_, _, -, -, -, hvalid⟩
  · rw [hsame]
    show demand _ _ = .ok ()
    exact demand_eq_ok.2 hat
  · exact hvalid

/-- Once a conclusion is held, the same snapshot lets conclude no other. -/
theorem concludeExternalReading_again
    (h : concludeExternalReading element snapshot = some concluded) {again : ExternalObservation}
    (hagain : concludeExternalReading { element with observation := some concluded } snapshot =
      some again) : again = concluded := by
  rcases concludeExternalReading_cases h with ⟨hnone, -, hsame⟩ |
    ⟨current, outcome, hcurrent, houtcome, hconcluded, -⟩
  · rw [hsame] at hagain
    unfold concludeExternalReading at hagain
    dsimp only at hagain
    rw [hnone] at hagain
    cases hagain
  · rcases concludeExternalReading_cases hagain with ⟨hnone, -, -⟩ |
      ⟨current', outcome', hcurrent', houtcome', hconcluded', -⟩
    · rw [hcurrent] at hnone
      cases hnone
    · rw [← Option.some.inj (hcurrent.symm.trans hcurrent')] at houtcome' hconcluded'
      rw [← Option.some.inj (houtcome.symm.trans houtcome')] at hconcluded'
      exact Option.some.inj (hconcluded'.symm.trans (conclusionOf_again hconcluded))

end Conclusions

/-! ## What is recorded -/

section Recording

variable {element : ExternalElement} {snapshot : RelaySnapshot} {recorded held : ExternalObservation}

theorem notBefore_iff {previous observed : Bytes} : notBefore previous observed = true ↔
    ∃ t u, parseCanonicalUTC previous = .ok t ∧ parseCanonicalUTC observed = .ok u ∧ t ≤ u := by
  unfold notBefore
  cases hprevious : parseCanonicalUTC previous with
  | error reason => simp
  | ok t =>
      cases hobserved : parseCanonicalUTC observed with
      | error reason => simp
      | ok u => simp

theorem recordedReading_eq_some : recordedReading snapshot element = some recorded ↔
    concludeExternalReading element snapshot = some recorded ∧
      ∀ held, element.observation = some held → follows held recorded = true := by
  unfold recordedReading
  rw [Option.filter_eq_some_iff]
  cases element.observation with
  | none => simp
  | some held => simp

theorem absorb_of_none (h : recordedReading snapshot element = none) :
    element.absorb snapshot = element := by
  unfold ExternalElement.absorb
  rw [h, Option.none_or]

theorem absorb_of_some (h : recordedReading snapshot element = some recorded) :
    element.absorb snapshot = { element with observation := some recorded } := by
  unfold ExternalElement.absorb
  rw [h, Option.some_or]

/-- What was recorded is not recorded again. -/
theorem recordedReading_absorb (snapshot : RelaySnapshot) (element : ExternalElement) :
    recordedReading snapshot (element.absorb snapshot) = none := by
  cases hrecorded : recordedReading snapshot element with
  | none => rwa [absorb_of_none hrecorded]
  | some recorded =>
      rw [absorb_of_some hrecorded, Option.eq_none_iff_forall_ne_some]
      intro again hagain
      obtain ⟨hconcluded, hfollows⟩ := recordedReading_eq_some.1 hagain
      have hsame : again = recorded :=
        concludeExternalReading_again (recordedReading_eq_some.1 hrecorded).1 hconcluded
      have hself := hfollows recorded rfl
      simp [follows, hsame] at hself

/-- An element is another one after a snapshot exactly where a reading is recorded. -/
theorem absorb_eq_iff : element.absorb snapshot = element ↔
    recordedReading snapshot element = none := by
  constructor
  · intro hsame
    have hnone := recordedReading_absorb snapshot element
    rwa [hsame] at hnone
  · exact absorb_of_none

end Recording

/-! ## What is valid -/

section Validity

variable {elements : List ExternalElement} {seen : List Bytes} {index : Nat}
  {previousMachine : Bytes} {previousPort : Int} {snapshot : RelaySnapshot}

/-- The elements that pass have names of their own, and valid conclusions. -/
theorem validateElements_ok
    (h : validateElements seen index previousMachine previousPort elements = .ok ()) :
    (elements.map ExternalElement.elementID).Nodup ∧
      (∀ element ∈ elements, element.elementID ∉ seen) ∧
      ∀ element ∈ elements, ∀ held, element.observation = some held →
        validateExternalObservation held = .ok () := by
  induction elements generalizing seen index previousMachine previousPort with
  | nil => simp
  | cons element rest ih =>
      unfold validateElements at h
      obtain ⟨_, -, h⟩ := bind_ok_iff.1 h
      obtain ⟨_, hnew, h⟩ := bind_ok_iff.1 h
      obtain ⟨_, -, h⟩ := bind_ok_iff.1 h
      obtain ⟨_, hobserved, h⟩ := bind_ok_iff.1 h
      obtain ⟨_, -, h⟩ := bind_ok_iff.1 h
      obtain ⟨hnodup, hlater, hvalid⟩ := ih h
      have hself : ∀ held, element.observation = some held →
          validateExternalObservation held = .ok () := by
        intro held hheld
        rwa [hheld] at hobserved
      refine ⟨?_, ?_, List.forall_mem_cons.2 ⟨hself, hvalid⟩⟩
      · rw [List.map_cons, List.nodup_cons]
        refine ⟨?_, hnodup⟩
        intro hmem
        obtain ⟨other, hother, hsame⟩ := List.mem_map.1 hmem
        exact hlater other hother (hsame ▸ List.mem_cons_self)
      · refine List.forall_mem_cons.2 ⟨of_decide_eq_true (demand_eq_ok.1 hnew), ?_⟩
        intro other hother hseen
        exact hlater other hother (List.mem_cons_of_mem _ hseen)

/-- The elements pass after a snapshot as they did before it. -/
theorem validateElements_absorb (hat : (parseCanonicalUTC snapshot.snapshotAt).isOk = true)
    (h : validateElements seen index previousMachine previousPort elements = .ok ()) :
    validateElements seen index previousMachine previousPort
      (elements.map (ExternalElement.absorb snapshot)) = .ok () := by
  induction elements generalizing seen index previousMachine previousPort with
  | nil => rfl
  | cons element rest ih =>
      unfold validateElements at h
      obtain ⟨_, hname, h⟩ := bind_ok_iff.1 h
      obtain ⟨_, hnew, h⟩ := bind_ok_iff.1 h
      obtain ⟨_, hdeclared, h⟩ := bind_ok_iff.1 h
      obtain ⟨_, hobserved, h⟩ := bind_ok_iff.1 h
      obtain ⟨_, hordered, h⟩ := bind_ok_iff.1 h
      rw [List.map_cons]
      unfold validateElements
      refine bind_ok_iff.2 ⟨(), hname, bind_ok_iff.2 ⟨(), hnew, ?_⟩⟩
      refine bind_ok_iff.2 ⟨(), hdeclared, bind_ok_iff.2 ⟨(), ?_, ?_⟩⟩
      · cases hrecorded : recordedReading snapshot element with
        | none => rwa [absorb_of_none hrecorded]
        | some recorded =>
            rw [absorb_of_some hrecorded]
            exact concludeExternalReading_valid hat (recordedReading_eq_some.1 hrecorded).1
      · exact bind_ok_iff.2 ⟨(), hordered, ih h⟩

theorem validateExternalInventory_ok {state : ExternalInventory} :
    validateExternalInventory state = .ok () ↔
      (state.schemaVersion = externalSchema ∧ canonicalUUIDv4 state.controllerID = true ∧
        canonicalUUIDv4 state.infrastructureID = true ∧ state.elements ≠ none ∧
        state.elements.items.length ≤ maxExternalElements) ∧
      validateElements [] 0 [] 0 state.elements.items = .ok () := by
  unfold validateExternalInventory
  simp [bind_ok_iff, demand_eq_ok, and_assoc]

/-- The candidate of a snapshot passes where what is served does. -/
theorem absorbed_valid {state : ExternalInventory}
    (hat : (parseCanonicalUTC snapshot.snapshotAt).isOk = true)
    (h : validateExternalInventory state = .ok ()) :
    validateExternalInventory (state.absorb snapshot) = .ok () := by
  obtain ⟨⟨hschema, hcontroller, hinfrastructure, -, hlength⟩, helements⟩ :=
    validateExternalInventory_ok.1 h
  refine validateExternalInventory_ok.2
    ⟨⟨hschema, hcontroller, hinfrastructure, Option.some_ne_none _, ?_⟩,
      validateElements_absorb hat helements⟩
  simpa [ExternalInventory.absorb, Slice.items] using hlength

end Validity

/-! ## What an operation leaves -/

section Operations

variable {store : ExternalStore} {failure : Option Sentence}

/-- A commit changes nothing and fails, or serves its candidate. -/
theorem commit_cases (store : ExternalStore) (failure : Option Sentence)
    (candidate : ExternalInventory) :
    (∃ reason, store.commit failure candidate = (store, .error reason)) ∨
      store.commit failure candidate = ({ store with state := candidate }, .ok ()) ∧
        failure = none ∧ validateExternalInventory candidate = .ok () ∧
        candidate.controllerID = store.controllerID ∧
        candidate.infrastructureID = store.infrastructureID := by
  unfold ExternalStore.commit
  cases hvalid : validateExternalInventory candidate with
  | error reason => exact Or.inl ⟨reason, rfl⟩
  | ok _ =>
      dsimp only
      by_cases hcrossed : candidate.controllerID ≠ store.controllerID ∨
          candidate.infrastructureID ≠ store.infrastructureID
      · rw [if_pos hcrossed]
        exact Or.inl ⟨_, rfl⟩
      · rw [if_neg hcrossed]
        rw [not_or, not_not, not_not] at hcrossed
        cases failure with
        | some reason => exact Or.inl ⟨reason, rfl⟩
        | none => exact Or.inr ⟨rfl, rfl, rfl, hcrossed⟩

/-- A declaration changes nothing, or adds an element that nothing is known of. -/
theorem declare_cases (declaration : ExternalDeclaration) (machineAttached : Bool) (now : Instant)
    (random : Bytes) (failure : Option Sentence) (store : ExternalStore) :
    (declare declaration machineAttached now random failure store).1 = store ∨
      ∃ index element, element.observation = none ∧
        index ≤ store.state.elements.items.length ∧
        (declare declaration machineAttached now random failure store).1 =
          { store with state := store.state.insert index element } ∧
        validateExternalInventory (store.state.insert index element) = .ok () ∧
        store.state.controllerID = store.controllerID ∧
        store.state.infrastructureID = store.infrastructureID := by
  unfold declare
  cases hnew : newElement store.state declaration machineAttached now random with
  | error reason => exact Or.inl rfl
  | ok new =>
      obtain ⟨index, element⟩ := new
      unfold newElement at hnew
      obtain ⟨_, -, hnew⟩ := bind_ok_iff.1 hnew
      obtain ⟨_, -, hnew⟩ := bind_ok_iff.1 hnew
      obtain ⟨_, -, hnew⟩ := bind_ok_iff.1 hnew
      obtain ⟨elementID, -, hnew⟩ := bind_ok_iff.1 hnew
      obtain ⟨hindex, helement⟩ := Prod.mk.inj (Except.ok.inj hnew)
      rcases commit_cases store failure (store.state.insert index element) with
        ⟨reason, hfailed⟩ | ⟨hserved, -, hvalid, hcontroller, hinfrastructure⟩
      · dsimp only
        rw [hfailed]
        exact Or.inl rfl
      · dsimp only
        rw [hserved]
        refine Or.inr ⟨index, element, ?_, ?_, rfl, hvalid, hcontroller, hinfrastructure⟩
        · rw [← helement]
        · rw [← hindex]
          exact searchList_le _ _

/-- A snapshot changes nothing, or what is recorded of it is served. -/
theorem absorb_cases (snapshot : Option RelaySnapshot) (failure : Option Sentence)
    (store : ExternalStore) :
    (absorbSnapshot snapshot failure store).1 = store ∧
        ((absorbSnapshot snapshot failure store).2 = .ok () →
          ∀ again, absorbSnapshot snapshot again store = (store, .ok ())) ∨
      ∃ read, snapshot = some read ∧ failure = none ∧
        (parseCanonicalUTC read.snapshotAt).isOk = true ∧
        store.state.externalRevision ≠ maxRevision ∧
        (∃ element ∈ store.state.elements.items, ∃ recorded,
          recordedReading read element = some recorded) ∧
        absorbSnapshot snapshot failure store =
          ({ store with state := store.state.absorb read }, .ok ()) ∧
        validateExternalInventory (store.state.absorb read) = .ok () ∧
        store.state.controllerID = store.controllerID ∧
        store.state.infrastructureID = store.infrastructureID := by
  unfold absorbSnapshot
  cases snapshot with
  | none => exact Or.inl ⟨rfl, fun _ _ => rfl⟩
  | some read =>
      dsimp only
      by_cases hat : (parseCanonicalUTC read.snapshotAt).isOk = false
      · rw [if_pos hat]
        refine Or.inl ⟨rfl, ?_⟩
        intro h
        cases h
      rw [if_neg hat]
      by_cases hnone : (store.state.elements.items.all
          fun element => (recordedReading read element).isNone) = true
      · rw [if_pos hnone]
        refine Or.inl ⟨rfl, ?_⟩
        intro _ _
        rw [if_neg hat, if_pos hnone]
      rw [if_neg hnone]
      have hsome : ∃ element ∈ store.state.elements.items, ∃ recorded,
          recordedReading read element = some recorded := by
        simpa [Option.ne_none_iff_exists'] using hnone
      by_cases hsaturated : store.state.externalRevision = maxRevision
      · rw [if_pos hsaturated]
        refine Or.inl ⟨rfl, ?_⟩
        intro h
        cases h
      rw [if_neg hsaturated]
      rcases commit_cases store failure (store.state.absorb read) with
        ⟨reason, hfailed⟩ | ⟨hserved, hfailure, hvalid, hcontroller, hinfrastructure⟩
      · rw [hfailed]
        refine Or.inl ⟨rfl, ?_⟩
        intro h
        cases h
      · refine Or.inr ⟨read, rfl, hfailure, ?_, hsaturated, hsome, hserved, hvalid, hcontroller,
          hinfrastructure⟩
        simpa using hat

end Operations

end YourCloud.Controller.Externals
