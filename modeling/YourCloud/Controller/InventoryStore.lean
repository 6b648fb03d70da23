import YourCloud.Controller.Inventory
import YourCloud.Controller.Registry
import YourCloud.Foundation.Run
import YourCloud.Foundation.Search

/-!
# The inventory store of a Controller

The inventory is served from memory and kept in a file, which is replaced as a whole:
what is served changes once the replacement has succeeded.  The revision goes up by one
with every change.

A replacement that fails after its rename has changed the file all the same.

## Main results

* `commit_kept` — what a commit does to memory and file.
* `putInfrastructure_put`, `putMachine_put` — what a request does to them.
* `inventory_run` — the inventory of every run whose replacements fail before their
  rename or not at all.
-/

namespace YourCloud.Controller

open YourCloud.Foundation
open YourCloud.Approval (canonicalUUIDv4)
open YourCloud.Observation

variable (unicode : Unicode)

/-! ## The store -/

/-- `math.MaxUint64` -/
def maxRevision : Nat := 2 ^ 64 - 1

structure InfrastructureView where
  schemaVersion : Int
  controllerID : Bytes
  infrastructureID : Bytes
  initialized : Bool
  label : Option Bytes
  inventoryRevision : Nat
  deriving DecidableEq, Repr

structure MachineMutationView where
  schemaVersion : Int
  inventoryRevision : Nat
  machineID : Bytes
  label : Bytes
  deriving DecidableEq, Repr

def infrastructureView (state : Inventory) : InfrastructureView :=
  { schemaVersion := 1, controllerID := state.controllerID
    infrastructureID := state.infrastructureID
    initialized := state.infrastructureLabel.isSome, label := state.infrastructureLabel
    inventoryRevision := state.inventoryRevision }

def machineMutationView (state : Inventory) (machine : InventoryMachine) : MachineMutationView :=
  { schemaVersion := 1, inventoryRevision := state.inventoryRevision
    machineID := machine.machineID, label := machine.label }

/-- The copy that a candidate is made of: its machines are always allocated. -/
def cloneInventory (state : Inventory) : Inventory :=
  { state with machines := some state.machines.items }

/-- What a Controller serves, nothing while it is down, and the file. -/
structure InventoryStore where
  state : Option Inventory
  file : Option Bytes
  deriving DecidableEq, Repr

/-- The file replaced, and the error met. -/
def persistInventory (outcome : Persisted) (candidate : Inventory) (file : Option Bytes) :
    Option Bytes × Option String :=
  match validateInventory unicode candidate with
  | some reason => (file, some reason)
  | none =>
      if maxInventoryBytes < candidate.encode.length then
        (file, some "inventory cannot be encoded within its bound")
      else
        match outcome with
        | .written => (some candidate.encode, none)
        | .renamed => (some candidate.encode, some "synchronise the state directory")
        | .lost => (file, some "replace the state file")

/-- A candidate served once it is written. -/
def InventoryStore.commit (store : InventoryStore) (outcome : Persisted) (candidate : Inventory) :
    InventoryStore × Option String :=
  match validateInventory unicode candidate with
  | some reason => (store, some reason)
  | none =>
      match persistInventory unicode outcome candidate store.file with
      | (file, some reason) => ({ store with file }, some reason)
      | (file, none) => ({ state := some candidate, file }, none)

/-- The file of a new Controller, where there is none. -/
def createInventory (controllerID infrastructureID : Bytes) (directory : Bool)
    (outcome : Persisted) (store : InventoryStore) : InventoryStore × Option String :=
  if canonicalUUIDv4 controllerID = false then
    (store, some "controller_id: identifier must be a canonical lower-case UUIDv4")
  else if canonicalUUIDv4 infrastructureID = false then
    (store, some "infrastructure_id: identifier must be a canonical lower-case UUIDv4")
  else if directory = false then
    (store, some "Controller state directory must be a real private directory")
  else if store.file.isSome then
    (store, some "inventory authority already exists or cannot be inspected")
  else
    let state : Inventory :=
      { schemaVersion := inventorySchema, controllerID, infrastructureID, inventoryRevision := 0,
        infrastructureLabel := none, machines := some [] }
    let (file, problem) := persistInventory unicode outcome state store.file
    ({ store with file }, problem)

/-- A Controller that starts; the file may be out of reach. -/
def openInventoryStore (reached : Bool) (store : InventoryStore) :
    InventoryStore × Option String :=
  match if reached then store.file else none with
  | none => ({ store with state := none }, some "open the state file")
  | some file =>
      match readInventory unicode file with
      | .error reason => ({ store with state := none }, some reason)
      | .ok state => ({ store with state := some state }, none)

/-! ## Requests -/

/-- The one label of an infrastructure; whether it was new. -/
def putInfrastructure (infrastructureID rawLabel : Bytes) (outcome : Persisted)
    (store : InventoryStore) : InventoryStore × Except String (InfrastructureView × Bool) :=
  match canonicalLabel unicode rawLabel with
  | .error reason => (store, .error reason)
  | .ok canonical =>
      match store.state with
      | none => (store, .error "the Controller is not running")
      | some state =>
          if infrastructureID ≠ state.infrastructureID then
            (store, .error "infrastructure identity conflicts with local authority")
          else
            match state.infrastructureLabel with
            | some label =>
                if label ≠ canonical then
                  (store, .error "infrastructure is already initialized differently")
                else (store, .ok (infrastructureView state, false))
            | none =>
                if state.inventoryRevision = maxRevision then
                  (store, .error "inventory revision is saturated")
                else
                  let candidate : Inventory :=
                    { cloneInventory state with
                      inventoryRevision := state.inventoryRevision + 1
                      infrastructureLabel := some canonical }
                  match store.commit unicode outcome candidate with
                  | (store, some reason) => (store, .error reason)
                  | (store, none) => (store, .ok (infrastructureView candidate, true))

/-- The index of a machine, or the one where it goes. -/
def machineIndex (machineID : Bytes) (machines : List InventoryMachine) : Nat :=
  searchList (fun machine => machineID ≤ machine.machineID) machines

/-- The label of a machine, which is new only where it may be; whether it was another. -/
def putMachine (machineID rawLabel : Bytes) (allowNew : Bool) (outcome : Persisted)
    (store : InventoryStore) : InventoryStore × Except String (MachineMutationView × Bool) :=
  match validateMachineID machineID with
  | some reason => (store, .error reason)
  | none =>
      match canonicalLabel unicode rawLabel with
      | .error reason => (store, .error reason)
      | .ok canonical =>
          match store.state with
          | none => (store, .error "the Controller is not running")
          | some state =>
              let machines := state.machines.items
              let index := machineIndex machineID machines
              let machine : InventoryMachine := { machineID, label := canonical }
              match machines[index]?.filter (fun machine => machine.machineID = machineID) with
              | some found =>
                  if found.label = canonical then
                    (store, .ok (machineMutationView state found, false))
                  else if state.inventoryRevision = maxRevision then
                    (store, .error "inventory revision is saturated")
                  else
                    let candidate : Inventory :=
                      { cloneInventory state with
                        machines := some (machines.set index machine)
                        inventoryRevision := state.inventoryRevision + 1 }
                    match store.commit unicode outcome candidate with
                    | (store, some reason) => (store, .error reason)
                    | (store, none) => (store, .ok (machineMutationView candidate machine, true))
              | none =>
                  if allowNew = false then
                    (store, .error "machine is not active in a fresh Relay snapshot")
                  else if maxMachines ≤ machines.length ∨ state.inventoryRevision = maxRevision then
                    (store, .error "inventory capacity or revision is exhausted")
                  else
                    let candidate : Inventory :=
                      { cloneInventory state with
                        machines := some (machines.insertIdx index machine)
                        inventoryRevision := state.inventoryRevision + 1 }
                    match store.commit unicode outcome candidate with
                    | (store, some reason) => (store, .error reason)
                    | (store, none) => (store, .ok (machineMutationView candidate machine, true))

/-! ## Runs -/

inductive InventoryEvent where
  | create (controllerID infrastructureID : Bytes) (directory : Bool) (outcome : Persisted)
  | start (reached : Bool)
  | stop
  | putInfrastructure (infrastructureID rawLabel : Bytes) (outcome : Persisted)
  | putMachine (machineID rawLabel : Bytes) (allowNew : Bool) (outcome : Persisted)
  deriving Repr

/-- How an event would replace the file. -/
def InventoryEvent.outcome : InventoryEvent → Option Persisted
  | .create _ _ _ outcome => some outcome
  | .putInfrastructure _ _ outcome => some outcome
  | .putMachine _ _ _ outcome => some outcome
  | _ => none

/-- Whether an event is a request. -/
def InventoryEvent.isPut : InventoryEvent → Bool
  | .putInfrastructure _ _ _ => true
  | .putMachine _ _ _ _ => true
  | _ => false

inductive InventoryAnswer where
  | done (problem : Option String)
  | infrastructure (result : Except String (InfrastructureView × Bool))
  | machine (result : Except String (MachineMutationView × Bool))
  deriving DecidableEq, Repr

/-- Whether a request was answered with a change. -/
def InventoryAnswer.changed : InventoryAnswer → Bool
  | .infrastructure (.ok (_, changed)) => changed
  | .machine (.ok (_, changed)) => changed
  | _ => false

def inventoryStep (store : InventoryStore) : InventoryEvent → InventoryStore × InventoryAnswer
  | .create controllerID infrastructureID directory outcome =>
      let (store, problem) :=
        createInventory unicode controllerID infrastructureID directory outcome store
      (store, .done problem)
  | .start reached =>
      let (store, problem) := openInventoryStore unicode reached store
      (store, .done problem)
  | .stop => ({ store with state := none }, .done none)
  | .putInfrastructure infrastructureID rawLabel outcome =>
      let (store, result) := putInfrastructure unicode infrastructureID rawLabel outcome store
      (store, .infrastructure result)
  | .putMachine machineID rawLabel allowNew outcome =>
      let (store, result) := putMachine unicode machineID rawLabel allowNew outcome store
      (store, .machine result)

/-- A directory where there was no Controller yet. -/
def newStore : InventoryStore := ⟨none, none⟩

/-- How many requests of a run were answered with a change. -/
def changes (h : List (InventoryEvent × InventoryAnswer)) : Nat :=
  h.countP fun entry => entry.2.changed

/-- The inventory that the file holds. -/
def InventoryStore.recorded (store : InventoryStore) : Option Inventory :=
  store.file.bind fun file => (readInventory unicode file).toOption

def Inventory.names (state : Inventory) : List Bytes :=
  state.machines.items.map InventoryMachine.machineID

/-! ## What a commit does -/

/-- An inventory that may be in the file. -/
structure Inventory.Recordable (state : Inventory) : Prop where
  admitted : state.Admitted unicode
  revision : state.inventoryRevision < 2 ^ 64
  length : state.encode.length ≤ maxInventoryBytes

/-- What is left by a request: what was there, or, where it is answered with a change, a
candidate of the next revision that names every machine named before, served and recorded. -/
def Put (store later : InventoryStore) (changed : Bool) : Prop :=
  match changed with
  | false => later = store
  | true => ∃ state candidate, store.state = some state ∧
      later = { state := some candidate, file := some candidate.encode } ∧
      candidate.Admitted unicode ∧ candidate.encode.length ≤ maxInventoryBytes ∧
      state.inventoryRevision ≠ maxRevision ∧
      candidate.inventoryRevision = state.inventoryRevision + 1 ∧
      ∀ name ∈ state.names, name ∈ candidate.names

/-- What is served is what the file holds, and the file can be read back; its revision is
the number of the changes so far. -/
structure InventoryStore.Kept (store : InventoryStore)
    (h : List (InventoryEvent × InventoryAnswer)) : Prop where
  file : ∀ file ∈ store.file, ∃ state : Inventory, file = state.encode ∧
    state.Recordable unicode ∧ state.inventoryRevision = changes h
  served : ∀ state ∈ store.state, store.file = some state.encode ∧ state.Recordable unicode
  missing : store.file = none → changes h = 0

variable {unicode}

theorem persist_kept {outcome : Persisted} (houtcome : outcome ≠ .renamed) (candidate : Inventory)
    (file : Option Bytes) :
    (∃ reason, persistInventory unicode outcome candidate file = (file, some reason)) ∨
      persistInventory unicode outcome candidate file = (some candidate.encode, none) ∧
        candidate.Admitted unicode ∧ candidate.encode.length ≤ maxInventoryBytes := by
  unfold persistInventory
  cases hvalid : validateInventory unicode candidate with
  | some reason => exact Or.inl ⟨reason, rfl⟩
  | none =>
      dsimp only
      by_cases hlength : maxInventoryBytes < candidate.encode.length
      · rw [if_pos hlength]
        exact Or.inl ⟨_, rfl⟩
      · rw [if_neg hlength]
        cases outcome with
        | written =>
            have hadmitted := (validateInventory_iff unicode candidate).1 hvalid
            exact Or.inr ⟨rfl, hadmitted, not_lt.1 hlength⟩
        | renamed => exact absurd rfl houtcome
        | lost => exact Or.inl ⟨_, rfl⟩

/-- A commit changes nothing, or serves and records its candidate. -/
theorem commit_kept {outcome : Persisted} (houtcome : outcome ≠ .renamed) (store : InventoryStore)
    (candidate : Inventory) :
    (∃ reason, store.commit unicode outcome candidate = (store, some reason)) ∨
      store.commit unicode outcome candidate =
          ({ state := some candidate, file := some candidate.encode }, none) ∧
        candidate.Admitted unicode ∧ candidate.encode.length ≤ maxInventoryBytes := by
  unfold InventoryStore.commit
  cases hvalid : validateInventory unicode candidate with
  | some reason => exact Or.inl ⟨reason, rfl⟩
  | none =>
      dsimp only
      obtain ⟨reason, hlost⟩ | ⟨hwritten, hcandidate⟩ := persist_kept houtcome candidate store.file
      · rw [hlost]
        exact Or.inl ⟨reason, rfl⟩
      · rw [hwritten]
        exact Or.inr ⟨rfl, hcandidate⟩

/-! ## What a request does -/

theorem put_of_commit {outcome : Persisted} (houtcome : outcome ≠ .renamed)
    {store : InventoryStore} {state : Inventory} (hstate : store.state = some state)
    (hrevision : state.inventoryRevision ≠ maxRevision) (candidate : Inventory)
    (hnext : candidate.inventoryRevision = state.inventoryRevision + 1)
    (hnames : ∀ name ∈ state.names, name ∈ candidate.names) :
    ∃ later problem, store.commit unicode outcome candidate = (later, problem) ∧
      Put unicode store later problem.isNone := by
  obtain ⟨reason, hlost⟩ | ⟨hwritten, hadmitted, hlength⟩ := commit_kept houtcome store candidate
  · exact ⟨store, some reason, hlost, rfl⟩
  · exact ⟨_, none, hwritten, state, candidate, hstate, rfl, hadmitted, hlength, hrevision, hnext,
      hnames⟩

variable (unicode) in
theorem putInfrastructure_put {outcome : Persisted} (houtcome : outcome ≠ .renamed)
    (infrastructureID rawLabel : Bytes) (store : InventoryStore) :
    let result := putInfrastructure unicode infrastructureID rawLabel outcome store
    Put unicode store result.1 (InventoryAnswer.infrastructure result.2).changed := by
  unfold putInfrastructure
  dsimp only
  split
  · rfl
  rename_i canonical hcanonical
  split
  · rfl
  rename_i state hstate
  split
  · rfl
  split
  · split <;> rfl
  split
  · rfl
  rename_i hrevision
  obtain ⟨later, problem, hcommit, hput⟩ := put_of_commit houtcome hstate hrevision
    { cloneInventory state with
      inventoryRevision := state.inventoryRevision + 1, infrastructureLabel := some canonical }
    rfl (fun name hname => hname)
  rw [hcommit]
  cases problem with
  | some reason => exact hput
  | none => exact hput

/-- A machine under another label keeps its name. -/
theorem names_set {machines : List InventoryMachine} {index : Nat} {found : InventoryMachine}
    (hat : machines[index]? = some found) {machineID label : Bytes}
    (hname : found.machineID = machineID) :
    (machines.set index { machineID, label }).map InventoryMachine.machineID =
      machines.map InventoryMachine.machineID := by
  obtain ⟨hlt, hget⟩ := List.getElem?_eq_some_iff.1 hat
  apply List.ext_getElem?
  intro i
  rw [List.map_set, List.getElem?_set]
  by_cases hi : index = i
  · simp [← hi, hlt, hget, hname]
  · simp [hi]

variable (unicode) in
theorem putMachine_put {outcome : Persisted} (houtcome : outcome ≠ .renamed)
    (machineID rawLabel : Bytes) (allowNew : Bool) (store : InventoryStore) :
    let result := putMachine unicode machineID rawLabel allowNew outcome store
    Put unicode store result.1 (InventoryAnswer.machine result.2).changed := by
  unfold putMachine
  dsimp only
  split
  · rfl
  split
  · rfl
  rename_i canonical hcanonical
  split
  · rfl
  rename_i state hstate
  split
  · rename_i found hfound
    split
    · rfl
    split
    · rfl
    rename_i hrevision
    obtain ⟨hat, hname⟩ := Option.filter_eq_some_iff.1 hfound
    obtain ⟨later, problem, hcommit, hput⟩ := put_of_commit houtcome hstate hrevision
      { cloneInventory state with
        machines := some (state.machines.items.set (machineIndex machineID state.machines.items)
          { machineID, label := canonical })
        inventoryRevision := state.inventoryRevision + 1 }
      rfl (fun name hmem => by
        unfold Inventory.names at hmem ⊢
        rwa [Slice.items, Option.getD_some, names_set hat (of_decide_eq_true hname)])
    rw [hcommit]
    cases problem with
    | some reason => exact hput
    | none => exact hput
  · split
    · rfl
    split
    · rfl
    rename_i hroom
    obtain ⟨later, problem, hcommit, hput⟩ := put_of_commit houtcome hstate (not_or.1 hroom).2
      { cloneInventory state with
        machines := some (state.machines.items.insertIdx
          (machineIndex machineID state.machines.items) { machineID, label := canonical })
        inventoryRevision := state.inventoryRevision + 1 }
      rfl (fun name hmem => by
        unfold Inventory.names at hmem ⊢
        obtain ⟨machine, hmachine, hname⟩ := List.mem_map.1 hmem
        exact List.mem_map.2 ⟨machine, List.subset_insertIdx _ _ _ hmachine, hname⟩)
    rw [hcommit]
    cases problem with
    | some reason => exact hput
    | none => exact hput

/-! ## The invariant -/

theorem Inventory.Recordable.read {state : Inventory} (h : state.Recordable unicode) :
    readInventory unicode state.encode = .ok state :=
  Inventory.decode_encode unicode h.admitted h.revision h.length

/-- An inventory is known by what is recorded of it. -/
theorem Inventory.Recordable.eq_of_encode {state other : Inventory} (h : state.Recordable unicode)
    (hother : other.Recordable unicode) (hsame : state.encode = other.encode) : state = other := by
  have hread := h.read
  rw [hsame, hother.read] at hread
  exact (Except.ok.inj hread).symm

theorem changes_concat (h : List (InventoryEvent × InventoryAnswer))
    (entry : InventoryEvent × InventoryAnswer) :
    changes (h ++ [entry]) = changes h + if entry.2.changed then 1 else 0 := by
  simp [changes, List.countP_append, List.countP_singleton]

variable {store : InventoryStore} {h : List (InventoryEvent × InventoryAnswer)}

/-- What changes nothing that is recorded. -/
theorem InventoryStore.Kept.still (hkept : store.Kept unicode h) {later : InventoryStore}
    {entry : InventoryEvent × InventoryAnswer} (hentry : entry.2.changed = false)
    (hfile : later.file = store.file)
    (hserved : ∀ state ∈ later.state, later.file = some state.encode ∧ state.Recordable unicode) :
    later.Kept unicode (h ++ [entry]) := by
  have hchanges : changes (h ++ [entry]) = changes h := by
    simp [changes_concat, hentry]
  constructor
  · rw [hfile, hchanges]
    exact hkept.file
  · exact hserved
  · rw [hfile, hchanges]
    exact hkept.missing

theorem InventoryStore.Kept.put (hkept : store.Kept unicode h) {later : InventoryStore}
    {entry : InventoryEvent × InventoryAnswer}
    (hput : Put unicode store later entry.2.changed) :
    later.Kept unicode (h ++ [entry]) := by
  cases hchanged : entry.2.changed with
  | false =>
      rw [hchanged] at hput
      have hsame : later = store := hput
      rw [hsame]
      exact hkept.still hchanged rfl hkept.served
  | true =>
      rw [hchanged] at hput
      obtain ⟨state, candidate, hstate, hlater, hadmitted, hlength, hroom, hnext, -⟩ := hput
      obtain ⟨hfile, hrecordable⟩ := hkept.served state hstate
      -- The file held the state that was served, of the revision that was counted.
      have hcount : state.inventoryRevision = changes h := by
        obtain ⟨other, hother, hothers, hrevision⟩ := hkept.file _ hfile
        rwa [hrecordable.eq_of_encode hothers hother]
      have hbound : candidate.inventoryRevision < 2 ^ 64 := by
        have hlt := hrecordable.revision
        unfold maxRevision at hroom
        omega
      have hrecord : candidate.Recordable unicode := ⟨hadmitted, hbound, hlength⟩
      rw [hlater]
      constructor
      · intro file hsome
        rw [← Option.some.inj hsome]
        refine ⟨candidate, rfl, hrecord, ?_⟩
        rw [hnext, hcount, changes_concat, hchanged, if_pos rfl]
      · intro other hsome
        rw [← Option.some.inj hsome]
        exact ⟨rfl, hrecord⟩
      · intro hnone
        cases hnone

theorem InventoryStore.Kept.create (hkept : store.Kept unicode h) {outcome : Persisted}
    (houtcome : outcome ≠ .renamed) (controllerID infrastructureID : Bytes) (directory : Bool)
    {entry : InventoryEvent × InventoryAnswer} (hentry : entry.2.changed = false) :
    (createInventory unicode controllerID infrastructureID directory outcome store).1.Kept unicode
      (h ++ [entry]) := by
  have hstill := hkept.still hentry rfl hkept.served
  unfold createInventory
  split
  · exact hstill
  split
  · exact hstill
  split
  · exact hstill
  split
  · exact hstill
  rename_i hfile
  have hnofile : store.file = none := by simpa using hfile
  dsimp only
  obtain ⟨reason, hlost⟩ | ⟨hwritten, hadmitted, hlength⟩ := persist_kept houtcome
    { schemaVersion := inventorySchema, controllerID, infrastructureID, inventoryRevision := 0,
      infrastructureLabel := none, machines := some [] } store.file
  · rw [hlost]
    exact hstill
  · rw [hwritten]
    constructor
    · intro file hsome
      rw [← Option.some.inj hsome]
      refine ⟨_, rfl, ⟨hadmitted, Nat.two_pow_pos 64, hlength⟩, ?_⟩
      simp [changes_concat, hentry, hkept.missing hnofile]
    · intro state hstate
      have hserved := (hkept.served state hstate).1
      rw [hnofile] at hserved
      cases hserved
    · intro hnone
      cases hnone

theorem InventoryStore.Kept.opened (hkept : store.Kept unicode h) (reached : Bool)
    {entry : InventoryEvent × InventoryAnswer} (hentry : entry.2.changed = false) :
    (openInventoryStore unicode reached store).1.Kept unicode (h ++ [entry]) := by
  have hclosed : ({ store with state := none } : InventoryStore).Kept unicode (h ++ [entry]) :=
    hkept.still hentry rfl (by simp)
  unfold openInventoryStore
  split
  · exact hclosed
  rename_i file hfile
  split
  · exact hclosed
  rename_i state hread
  have hheld : store.file = some file := by
    cases reached with
    | false => cases hfile
    | true => exact hfile
  obtain ⟨recorded, hencode, hrecordable, -⟩ := hkept.file file hheld
  have hsame : recorded = state := by
    rw [hencode, hrecordable.read] at hread
    exact Except.ok.inj hread
  refine hkept.still hentry rfl ?_
  intro other hother
  rw [← Option.some.inj hother, ← hsame, hheld, hencode]
  exact ⟨rfl, hrecordable⟩

theorem kept_step (hkept : store.Kept unicode h) (e : InventoryEvent)
    (he : e.outcome ≠ some .renamed) :
    (next (inventoryStep unicode) store e).Kept unicode
      (h ++ [(e, answer (inventoryStep unicode) store e)]) := by
  cases e with
  | create controllerID infrastructureID directory outcome =>
      have houtcome : outcome ≠ .renamed := fun hsame => he (congrArg some hsame)
      exact hkept.create houtcome controllerID infrastructureID directory rfl
  | start reached => exact hkept.opened reached rfl
  | stop =>
      refine hkept.still rfl rfl ?_
      intro state hstate
      have hdown : (none : Option Inventory) = some state := hstate
      cases hdown
  | putInfrastructure infrastructureID rawLabel outcome =>
      have houtcome : outcome ≠ .renamed := fun hsame => he (congrArg some hsame)
      exact hkept.put (putInfrastructure_put unicode houtcome infrastructureID rawLabel store)
  | putMachine machineID rawLabel allowNew outcome =>
      have houtcome : outcome ≠ .renamed := fun hsame => he (congrArg some hsame)
      exact hkept.put (putMachine_put unicode houtcome machineID rawLabel allowNew store)


/-! ## The run -/

theorem newStore_kept : newStore.Kept unicode [] :=
  ⟨by simp [newStore], by simp [newStore], fun _ => rfl⟩

variable (unicode) in
theorem kept_run {es : List InventoryEvent} (hes : ∀ e ∈ es, e.outcome ≠ some .renamed) :
    (run (inventoryStep unicode) newStore es).Kept unicode
      (history (inventoryStep unicode) newStore es) := by
  have hadmits : ∀ (es : List InventoryEvent) (store : InventoryStore),
      (∀ e ∈ es, e.outcome ≠ some .renamed) →
      Admits (inventoryStep unicode) (fun _ e => e.outcome ≠ some .renamed) store es := by
    intro es
    induction es with
    | nil => exact fun _ _ => trivial
    | cons e es ih =>
        intro store hes
        rw [List.forall_mem_cons] at hes
        exact ⟨hes.1, ih _ hes.2⟩
  have hkept := history_invariant_of_admits (fun h store => InventoryStore.Kept unicode store h)
    (fun _ _ e hkept he => kept_step hkept e he) newStore_kept (hadmits es newStore hes)
  exact hkept

theorem InventoryStore.Kept.recorded_served (hkept : store.Kept unicode h) {state : Inventory}
    (hstate : store.state = some state) : store.recorded unicode = some state := by
  obtain ⟨hfile, hrecordable⟩ := hkept.served state hstate
  rw [InventoryStore.recorded, hfile, Option.bind_some, hrecordable.read]
  rfl

theorem InventoryStore.Kept.of_recorded (hkept : store.Kept unicode h) {state : Inventory}
    (hstate : store.recorded unicode = some state) :
    store.file = some state.encode ∧ state.Recordable unicode ∧
      state.inventoryRevision = changes h := by
  obtain ⟨file, hfile, hread⟩ := Option.bind_eq_some_iff.1 hstate
  obtain ⟨recorded, hencode, hrecordable, hrevision⟩ := hkept.file file hfile
  rw [hencode, hrecordable.read] at hread
  have hsame : recorded = state := Option.some.inj hread
  rw [← hsame]
  exact ⟨by rw [hfile, hencode], hrecordable, hrevision⟩

/-- The machines that are recorded stay recorded. -/
def Grows (unicode : Unicode) (store later : InventoryStore) : Prop :=
  ∀ state ∈ store.recorded unicode, ∃ other ∈ later.recorded unicode,
    ∀ name ∈ state.names, name ∈ other.names

theorem grows_of_file {later : InventoryStore}
    (hfile : ∀ file ∈ store.file, later.file = some file) : Grows unicode store later := by
  intro state hstate
  obtain ⟨file, hheld, hread⟩ := Option.bind_eq_some_iff.1 hstate
  refine ⟨state, ?_, fun _ hname => hname⟩
  rw [InventoryStore.recorded, hfile file hheld]
  exact hread

theorem Put.grows {changed : Bool} {later : InventoryStore} (hput : Put unicode store later changed)
    (hkept : store.Kept unicode h) {h' : List (InventoryEvent × InventoryAnswer)}
    (hlater : later.Kept unicode h') : Grows unicode store later := by
  cases changed with
  | false =>
      have hsame : later = store := hput
      rw [hsame]
      exact grows_of_file fun _ hfile => hfile
  | true =>
      obtain ⟨state, candidate, hstate, hcandidate, -, -, -, -, hnames⟩ := hput
      intro recorded hrecorded
      rw [hkept.recorded_served hstate] at hrecorded
      rw [← Option.some.inj hrecorded]
      refine ⟨candidate, hlater.recorded_served ?_, hnames⟩
      rw [hcandidate]

theorem grows_step (hkept : store.Kept unicode h) (e : InventoryEvent)
    (he : e.outcome ≠ some .renamed) :
    Grows unicode store (next (inventoryStep unicode) store e) := by
  have hlater := kept_step hkept e he
  cases e with
  | create controllerID infrastructureID directory outcome =>
      apply grows_of_file
      intro file hfile
      have hsome : store.file.isSome = true := by simp [Option.mem_def.1 hfile]
      have hsame : (createInventory unicode controllerID infrastructureID directory outcome
          store).1 = store := by
        unfold createInventory
        simp only [hsome, if_true]
        split
        · rfl
        split
        · rfl
        split <;> rfl
      show (createInventory unicode controllerID infrastructureID directory outcome store).1.file = _
      rw [hsame]
      exact hfile
  | start reached =>
      apply grows_of_file
      intro file hfile
      have hsame : (openInventoryStore unicode reached store).1.file = store.file := by
        unfold openInventoryStore
        split
        · rfl
        split <;> rfl
      show (openInventoryStore unicode reached store).1.file = _
      rw [hsame]
      exact hfile
  | stop => exact grows_of_file fun _ hfile => hfile
  | putInfrastructure infrastructureID rawLabel outcome =>
      have houtcome : outcome ≠ .renamed := fun hsame => he (congrArg some hsame)
      exact (putInfrastructure_put unicode houtcome infrastructureID rawLabel store).grows hkept hlater
  | putMachine machineID rawLabel allowNew outcome =>
      have houtcome : outcome ≠ .renamed := fun hsame => he (congrArg some hsame)
      exact (putMachine_put unicode houtcome machineID rawLabel allowNew store).grows hkept hlater

theorem grows_run {es : List InventoryEvent} (hkept : store.Kept unicode h)
    (hes : ∀ e ∈ es, e.outcome ≠ some .renamed) :
    Grows unicode store (run (inventoryStep unicode) store es) := by
  induction es generalizing store h with
  | nil => exact grows_of_file fun _ hfile => hfile
  | cons e es ih =>
      rw [List.forall_mem_cons] at hes
      have hfirst := grows_step hkept e hes.1
      have hrest := ih (kept_step hkept e hes.1) hes.2
      intro state hstate
      obtain ⟨middle, hmiddle, hnames⟩ := hfirst state hstate
      obtain ⟨last, hlast, hlater⟩ := hrest middle hmiddle
      exact ⟨last, hlast, fun name hname => hlater name (hnames name hname)⟩

theorem Put.same {changed : Bool} {later : InventoryStore} (hput : Put unicode store later changed)
    (hchanged : changed = false) : later = store := by
  rw [hchanged] at hput
  exact hput

theorem unchanged_step (e : InventoryEvent) (he : e.outcome ≠ some .renamed)
    (hput : e.isPut = true)
    (hchanged : (answer (inventoryStep unicode) store e).changed = false) :
    next (inventoryStep unicode) store e = store := by
  cases e with
  | putInfrastructure infrastructureID rawLabel outcome =>
      have houtcome : outcome ≠ .renamed := fun hsame => he (congrArg some hsame)
      exact (putInfrastructure_put unicode houtcome infrastructureID rawLabel store).same hchanged
  | putMachine machineID rawLabel allowNew outcome =>
      have houtcome : outcome ≠ .renamed := fun hsame => he (congrArg some hsame)
      exact (putMachine_put unicode houtcome machineID rawLabel allowNew store).same hchanged
  | _ => cases hput

/-- A Controller is created and starts. -/
def created : List InventoryEvent :=
  [.create (text "0b6f3c1e-5a2d-4e7f-8c9b-1a2b3c4d5e6f")
      (text "7d1e9a40-3c5b-4f68-9a7e-0f1e2d3c4b5a") true .written, .start true]

/-- Then it is asked to name a machine. -/
def nameOne (outcome : Persisted) : InventoryEvent :=
  .putMachine (text "lab-1") (text "Lab") true outcome

end YourCloud.Controller
