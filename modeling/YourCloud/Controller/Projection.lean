import YourCloud.Controller.Inventory
import YourCloud.Controller.RelayRead
import YourCloud.Foundation.Checks
import YourCloud.Foundation.Durations

/-!
# What an App sees of the machines

The inventory says which machines there are, and the snapshot in the cache what the
Relay knows of each.  The age of an observation is a span of 64 bits, and so is the
difference between the clocks of a machine and of the Relay.

## Main results

* `projectMachines_ok` — valid inputs are projected.
* `recent_iff_aged` — when no old observation is reported as recent.
* `warning_iff` — when the warning says whether the clocks are apart.
-/

namespace YourCloud.Controller

open YourCloud.Foundation
open YourCloud.Observation

/-! ## Data -/

/-- 90 seconds. -/
def observationFreshnessLimit : Duration := 90000000000

/-- 30 seconds. -/
def observedTimeTolerance : Duration := 30000000000

structure GapSummary where
  rangeCount : Nat
  droppedCount : Nat
  firstSequence : Nat
  lastSequence : Nat
  deriving DecidableEq, Repr

structure ProjectedObservation where
  profile : Bytes
  sequence : Nat
  observedAt : Bytes
  receivedAt : Bytes
  observedTimeWarning : Bool
  continuity : Bytes
  gapSummary : Option GapSummary
  health : HostHealth
  deriving DecidableEq, Repr

structure ProjectedCommandPosition where
  lastReportedSequence : Nat
  certain : Bool
  deriving DecidableEq, Repr

structure ProjectedMachine where
  machineID : Bytes
  label : Bytes
  enrollmentStatus : Option Bytes
  observationStatus : Option Bytes
  observation : Option ProjectedObservation
  commandPosition : ProjectedCommandPosition
  deriving DecidableEq, Repr

structure MachinesView where
  schemaVersion : Int
  controllerID : Bytes
  infrastructureID : Bytes
  inventoryRevision : Nat
  relayStatus : RelayStatus
  relaySnapshotAt : Option Bytes
  machines : List ProjectedMachine
  deriving DecidableEq, Repr

/-! ## Observations -/

/-- The count of the dropped observations of some ranges, after others. -/
def sumDropped : Nat → List Gap → Except String Nat
  | dropped, [] => .ok dropped
  | dropped, gap :: rest =>
      if 2 ^ 64 - 1 - dropped < gap.droppedCount then .error "gap summary overflows"
      else sumDropped (dropped + gap.droppedCount) rest

/-- The summary of the ranges of an observation, if it has any. -/
def summarizeGaps : List Gap → Except String (Option GapSummary)
  | [] => .ok none
  | first :: rest => do
      let dropped ← sumDropped 0 (first :: rest)
      return some
        { rangeCount := (first :: rest).length
          droppedCount := dropped
          firstSequence := first.firstSequence
          lastSequence := ((first :: rest).getLast (List.cons_ne_nil _ _)).lastSequence }

/-- `observedAt.Sub(receivedAt)`, without its sign, past the tolerance. -/
def clocksApart (observedAt receivedAt : Instant) : Bool :=
  observedTimeTolerance < Duration.absolute (Duration.nearest (observedAt - receivedAt))

def projectObservation (source : RelaySnapshotObservation) :
    Except String ProjectedObservation := do
  let observedAt ← parseCanonicalUTC source.observedAt
  let receivedAt ← parseCanonicalUTC source.receivedAt
  let gapSummary ← summarizeGaps source.gaps.items
  return {
    profile := source.profile
    sequence := source.sequence
    observedAt := source.observedAt
    receivedAt := source.receivedAt
    observedTimeWarning := clocksApart observedAt receivedAt
    continuity := if gapSummary.isSome then text "gapped" else text "complete"
    gapSummary
    health := source.health }

/-! ## Machines -/

/-- The age of what was received at an instant, after so long. -/
def observationAge (snapshotAt receivedAt : Instant) (ageIncrement : Duration) : Duration :=
  Duration.nearest (snapshotAt - receivedAt) + ageIncrement

/-- What is said of the age of an observation. -/
def statusOfAge (snapshotAt : Instant) (ageIncrement : Duration)
    (cached : RelaySnapshotObservation) : Except String Bytes :=
  match parseCanonicalUTC cached.receivedAt with
  | .error _ => .error "cached observation age is invalid"
  | .ok receivedAt =>
      if snapshotAt < receivedAt then .error "cached observation age is invalid"
      else if observationAge snapshotAt receivedAt ageIncrement ≤ observationFreshnessLimit then
        .ok (text "recent")
      else .ok (text "old")

/-- What is said of what the cache holds of a machine. -/
def observationStatus (status : RelayStatus) (snapshotAt : Instant) (ageIncrement : Duration)
    (observation : Option RelaySnapshotObservation) : Except String Bytes :=
  if status ≠ .available then .ok (text "untrusted")
  else
    match observation with
    | none => .ok (text "absent")
    | some cached => statusOfAge snapshotAt ageIncrement cached

/-- A machine of the inventory, with what the cache holds of it. -/
def projectMachine (cacheByID : List RelaySnapshotMachine) (status : RelayStatus)
    (snapshotAt : Instant) (ageIncrement : Duration) (expected : InventoryMachine) :
    Except String ProjectedMachine :=
  let machine : ProjectedMachine :=
    { machineID := expected.machineID, label := expected.label, enrollmentStatus := none
      observationStatus := none, observation := none, commandPosition := ⟨0, false⟩ }
  match Table.find RelaySnapshotMachine.machineID expected.machineID cacheByID with
  | none => .ok machine
  | some cached => do
      let observationStatus ← observationStatus status snapshotAt ageIncrement cached.observation
      let observation ← cached.observation.mapM projectObservation
      return { machine with
        enrollmentStatus := some cached.enrollmentStatus
        observationStatus := some observationStatus
        observation }

/-- The first day of the first year, where an instant that was never set is. -/
def unsetInstant : Instant := -62135596800000000000

/-- The machines of a cached snapshot by name, and its time. -/
def readCache (inventory : Inventory) :
    Option RelaySnapshot → Except SnapshotProblem (List RelaySnapshotMachine × Instant)
  | none => .ok ([], unsetInstant)
  | some cache =>
      match cache.validate inventory.controllerID inventory.infrastructureID with
      | some problem => .error problem
      | none => do
          let snapshotAt ← (parseCanonicalUTC cache.snapshotAt).mapError refused
          return (machinesByID cache.machines.items, snapshotAt)

/-- `ProjectMachines`.  A status is one of three by its type. -/
def projectMachines (unicode : Unicode) (inventory : Inventory) (cache : Option RelaySnapshot)
    (status : RelayStatus) (ageIncrement : Duration) : Except SnapshotProblem MachinesView :=
  match validateInventory unicode inventory with
  | some reason => .error (refused reason)
  | none =>
      if ageIncrement < 0 then .error (refused "monotonic cache age cannot be negative")
      else do
        let (cacheByID, snapshotAt) ← readCache inventory cache
        let machines ← (inventory.machines.items.mapM
          (projectMachine cacheByID status snapshotAt ageIncrement)).mapError refused
        return {
          schemaVersion := 1
          controllerID := inventory.controllerID
          infrastructureID := inventory.infrastructureID
          inventoryRevision := inventory.inventoryRevision
          relayStatus := status
          relaySnapshotAt := cache.map RelaySnapshot.snapshotAt
          machines }

/-! ## Ranges of an observation -/

/-- Ranges in order and before a sequence count no more than the sequences before it. -/
theorem sumDropped_ok {sequence dropped : Nat} {gaps : List Gap}
    (hgaps : ∀ gap ∈ gaps, gap.validate = none ∧ gap.lastSequence < sequence)
    (hordered : gaps.Pairwise fun left right => left.lastSequence < right.firstSequence)
    (hsequence : sequence < 2 ^ 64) (hdropped : ∀ gap ∈ gaps, dropped < gap.firstSequence) :
    ∃ n, sumDropped dropped gaps = .ok n := by
  induction gaps generalizing dropped with
  | nil => exact ⟨dropped, rfl⟩
  | cons gap rest ih =>
      obtain ⟨hvalid, hbefore⟩ := hgaps gap List.mem_cons_self
      obtain ⟨-, hrange, hcount, -⟩ := Gap.validate_ok hvalid
      obtain ⟨hlater, hrest⟩ := List.pairwise_cons.1 hordered
      have hfirst := hdropped gap List.mem_cons_self
      have hle : gap.droppedCount ≤ gap.lastSequence - gap.firstSequence + 1 := by
        rw [hcount]
        exact Nat.mod_le _ _
      rw [sumDropped, if_neg (by omega)]
      apply ih (fun other hother => hgaps other (List.mem_cons_of_mem _ hother)) hrest
      intro other hother
      have hafter := hlater other hother
      omega

theorem summarizeGaps_ok {sequence : Nat} {gaps : List Gap}
    (hgaps : ∀ gap ∈ gaps, gap.validate = none ∧ gap.lastSequence < sequence)
    (hordered : gaps.Pairwise fun left right => left.lastSequence < right.firstSequence)
    (hsequence : sequence < 2 ^ 64) : ∃ summary, summarizeGaps gaps = .ok summary := by
  cases gaps with
  | nil => exact ⟨none, rfl⟩
  | cons gap rest =>
      have hpos : ∀ other ∈ gap :: rest, 0 < other.firstSequence := by
        intro other hother
        exact (Gap.validate_ok (hgaps other hother).1).1
      obtain ⟨n, hn⟩ := sumDropped_ok hgaps hordered hsequence hpos
      exact ⟨_, bind_ok_iff.2 ⟨n, hn, rfl⟩⟩

/-! ## Observations that pass -/

/-- What the check of an observation says of its two instants. -/
theorem instants_of_validate {machineID : Bytes} {snapshotAt : Instant}
    {source : RelaySnapshotObservation}
    (h : validateSnapshotObservation machineID snapshotAt source = none) :
    (∃ observedAt, parseCanonicalUTC source.observedAt = .ok observedAt) ∧
      ∃ receivedAt, parseCanonicalUTC source.receivedAt = .ok receivedAt ∧
        receivedAt ≤ snapshotAt := by
  unfold validateSnapshotObservation at h
  split at h
  · cases h
  split at h
  · cases h
  split at h
  · cases h
  split at h
  · cases h
  rename_i observedAt hobserved
  split at h
  · cases h
  rename_i hreceived
  refine ⟨⟨observedAt, hobserved⟩, ?_⟩
  rw [receivedBy] at hreceived
  split at hreceived
  · exact absurd rfl hreceived
  · rename_i receivedAt hparse
    exact ⟨receivedAt, hparse, by simpa using hreceived⟩

theorem gaps_of_snapshot {machineID : Bytes} {snapshotAt : Instant}
    {source : RelaySnapshotObservation}
    (h : validateSnapshotObservation machineID snapshotAt source = none) :
    ∀ gap ∈ source.gaps.items, gap.validate = none ∧ gap.lastSequence < source.sequence := by
  unfold validateSnapshotObservation at h
  split at h
  · cases h
  split at h
  · cases h
  split at h
  · cases h
  rename_i henvelope
  exact gaps_of_validate henvelope

/-- An observation that passes is projected, with the warning of its two instants. -/
theorem projectObservation_ok {machineID : Bytes} {snapshotAt observedAt receivedAt : Instant}
    {source : RelaySnapshotObservation}
    (h : validateSnapshotObservation machineID snapshotAt source = none)
    (hsequence : source.sequence < 2 ^ 64)
    (hobserved : parseCanonicalUTC source.observedAt = .ok observedAt)
    (hreceived : parseCanonicalUTC source.receivedAt = .ok receivedAt) :
    ∃ projected, projectObservation source = .ok projected ∧
      projected.observedTimeWarning = clocksApart observedAt receivedAt := by
  obtain ⟨summary, hsummary⟩ :=
    summarizeGaps_ok (gaps_of_snapshot h) (gaps_ordered h).apart hsequence
  rw [projectObservation, hobserved, hreceived, hsummary]
  exact ⟨_, rfl, rfl⟩

/-- The warning of an observation that passes says whether the clocks of its machine and
of the Relay are more than the tolerance apart, exactly where the machine is not behind by
the lowest span of all, or by more. -/
theorem warning_iff {machineID : Bytes} {snapshotAt : Instant} {source : RelaySnapshotObservation}
    (h : validateSnapshotObservation machineID snapshotAt source = none)
    (hsequence : source.sequence < 2 ^ 64) :
    ∃ observedAt receivedAt projected,
      parseCanonicalUTC source.observedAt = .ok observedAt ∧
      parseCanonicalUTC source.receivedAt = .ok receivedAt ∧
      projectObservation source = .ok projected ∧
      ((projected.observedTimeWarning = true ↔
          observedTimeTolerance.toInt < |observedAt - receivedAt|) ↔
        (-2 ^ 63 : Int) < observedAt - receivedAt) := by
  obtain ⟨⟨observedAt, hobserved⟩, receivedAt, hreceived, -⟩ := instants_of_validate h
  obtain ⟨projected, hprojected, hwarning⟩ :=
    projectObservation_ok h hsequence hobserved hreceived
  refine ⟨observedAt, receivedAt, projected, hobserved, hreceived, hprojected, ?_⟩
  rw [hwarning, clocksApart, decide_eq_true_eq]
  exact Duration.lt_absolute_sound_iff (by decide) (by decide)

/-! ## Machines of the inventory -/

theorem observations_of_machines {snapshotAt : Instant} {previous : Bytes} {totalGaps : Nat}
    {machines : List RelaySnapshotMachine}
    (h : validateMachines snapshotAt previous totalGaps machines = none) :
    ∀ m ∈ machines, ∀ o ∈ m.observation,
      validateSnapshotObservation m.machineID snapshotAt o = none := by
  induction machines generalizing previous totalGaps with
  | nil => exact fun m hm => absurd hm List.not_mem_nil
  | cons machine rest ih =>
      unfold validateMachines at h
      split at h
      · cases h
      split at h
      · cases h
      rw [List.forall_mem_cons]
      split at h
      · rename_i hnone
        refine ⟨fun o ho => ?_, ih h⟩
        rw [hnone] at ho
        cases ho
      · rename_i candidate hcandidate
        split at h
        · cases h
        rename_i hpass
        split at h
        · cases h
        refine ⟨fun o ho => ?_, ih h⟩
        rw [hcandidate] at ho
        rw [← Option.some.inj ho]
        exact hpass

/-- What a snapshot that passes holds: it has one time, and each observation passes. -/
theorem observations_of_validate {snapshot : RelaySnapshot} {controllerID infrastructureID : Bytes}
    (h : snapshot.validate controllerID infrastructureID = none) :
    ∃ snapshotAt, parseCanonicalUTC snapshot.snapshotAt = .ok snapshotAt ∧
      ∀ m ∈ snapshot.machines.items, ∀ o ∈ m.observation,
        validateSnapshotObservation m.machineID snapshotAt o = none := by
  obtain ⟨-, -, snapshotAt, htime⟩ := RelaySnapshot.validate_ok h
  refine ⟨snapshotAt, htime, ?_⟩
  unfold RelaySnapshot.validate at h
  rw [htime] at h
  split at h
  · cases h
  split at h
  · cases h
  split at h
  · cases h
  dsimp only at h
  split at h
  · cases h
  exact observations_of_machines h

/-- A cache holds an observation of a machine that was received at an instant, and was
taken at another one. -/
def Cached (cache : Option RelaySnapshot) (machineID : Bytes) (receivedAt snapshotAt : Instant) :
    Prop :=
  ∃ snapshot ∈ cache, parseCanonicalUTC snapshot.snapshotAt = .ok snapshotAt ∧
    ∃ cached ∈ snapshot.machines.items, cached.machineID = machineID ∧
      ∃ source ∈ cached.observation, parseCanonicalUTC source.receivedAt = .ok receivedAt

/-- A cache that the Controller may hold of an infrastructure: its snapshot passes, and its
sequences are of 64 bits. -/
structure ValidCache (cache : Option RelaySnapshot) (controllerID infrastructureID : Bytes) :
    Prop where
  valid : ∀ snapshot ∈ cache, snapshot.validate controllerID infrastructureID = none
  sequences : ∀ snapshot ∈ cache, ∀ m ∈ snapshot.machines.items, ∀ o ∈ m.observation,
    o.sequence < 2 ^ 64

section Caches

variable {cache : Option RelaySnapshot} {snapshot : RelaySnapshot}
  {controllerID infrastructureID machineID : Bytes} {receivedAt snapshotAt : Instant}

theorem Cached.le (h : Cached cache machineID receivedAt snapshotAt)
    (hcache : ValidCache cache controllerID infrastructureID) : receivedAt ≤ snapshotAt := by
  obtain ⟨snapshot, hsnapshot, htime, cached, hcached, -, source, hsource, hreceived⟩ := h
  obtain ⟨_, htime', hvalid⟩ := observations_of_validate (hcache.valid snapshot hsnapshot)
  rw [htime] at htime'
  rw [← Except.ok.inj htime'] at hvalid
  obtain ⟨-, _, hreceived', hle⟩ := instants_of_validate (hvalid cached hcached source hsource)
  rw [hreceived] at hreceived'
  rw [Except.ok.inj hreceived']
  exact hle

/-- Of one machine a cache holds at most one observation. -/
theorem Cached.unique {receivedAt' snapshotAt' : Instant}
    (h : Cached cache machineID receivedAt snapshotAt)
    (h' : Cached cache machineID receivedAt' snapshotAt')
    (hcache : ValidCache cache controllerID infrastructureID) :
    receivedAt = receivedAt' ∧ snapshotAt = snapshotAt' := by
  obtain ⟨snapshot, hsnapshot, htime, cached, hcached, hname, source, hsource, hreceived⟩ := h
  obtain ⟨snapshot', hsnapshot', htime', cached', hcached', hname', source', hsource',
    hreceived'⟩ := h'
  have hone : snapshot = snapshot' := Option.mem_unique hsnapshot hsnapshot'
  subst hone
  have hnodup := (valid_of_validate (hcache.valid snapshot hsnapshot)).machines.nodup
  have hsame : cached = cached' :=
    List.inj_on_of_nodup_map hnodup hcached hcached' (hname.trans hname'.symm)
  subst hsame
  have hsource : source = source' := Option.mem_unique hsource hsource'
  subst hsource
  exact ⟨Except.ok.inj (hreceived.symm.trans hreceived'),
    Except.ok.inj (htime.symm.trans htime')⟩

/-- What is said of a cached observation whose age the word holds so. -/
theorem statusOfAge_ok {source : RelaySnapshotObservation} (ageIncrement : Duration)
    (hreceived : parseCanonicalUTC source.receivedAt = .ok receivedAt)
    (hle : receivedAt ≤ snapshotAt) :
    ∃ said, statusOfAge snapshotAt ageIncrement source = .ok said ∧
      (said = text "recent" ↔
        observationAge snapshotAt receivedAt ageIncrement ≤ observationFreshnessLimit) := by
  rw [statusOfAge, hreceived]
  dsimp only
  rw [if_neg (not_lt.2 hle)]
  by_cases hage : observationAge snapshotAt receivedAt ageIncrement ≤ observationFreshnessLimit
  · rw [if_pos hage]
    exact ⟨_, rfl, fun _ => hage, fun _ => rfl⟩
  · rw [if_neg hage]
    exact ⟨_, rfl, fun h => absurd h (by decide), fun h => absurd h hage⟩

/-- A cached machine is said to be recent where the Relay is available, and an observation
of it is there whose age is. -/
theorem observationStatus_ok {observation : Option RelaySnapshotObservation}
    (status : RelayStatus) (ageIncrement : Duration)
    (hreceived : ∀ source ∈ observation, ∃ receivedAt,
      parseCanonicalUTC source.receivedAt = .ok receivedAt ∧ receivedAt ≤ snapshotAt) :
    ∃ said, observationStatus status snapshotAt ageIncrement observation = .ok said ∧
      (said = text "recent" ↔ status = .available ∧ ∃ source ∈ observation, ∃ receivedAt,
        parseCanonicalUTC source.receivedAt = .ok receivedAt ∧
          observationAge snapshotAt receivedAt ageIncrement ≤ observationFreshnessLimit) := by
  unfold observationStatus
  by_cases havailable : status = .available
  · rw [if_neg (not_not.2 havailable)]
    cases observation with
    | none =>
        refine ⟨_, rfl, fun h => absurd h (by decide), ?_⟩
        rintro ⟨-, source, hsource, -⟩
        cases hsource
    | some source =>
        obtain ⟨receivedAt, hparse, hle⟩ := hreceived source rfl
        obtain ⟨said, hsaid, hwhen⟩ := statusOfAge_ok ageIncrement hparse hle
        refine ⟨said, hsaid, fun h => ⟨havailable, source, rfl, receivedAt, hparse, hwhen.1 h⟩, ?_⟩
        rintro ⟨-, source', hsource', receivedAt', hparse', hage⟩
        rw [← Option.some.inj hsource', hparse] at hparse'
        rw [← Except.ok.inj hparse'] at hage
        exact hwhen.2 hage
  · rw [if_pos havailable]
    exact ⟨_, rfl, fun h => absurd h (by decide), fun h => absurd h.1 havailable⟩

/-- A machine of the inventory is projected, and is recent where the Relay is available and
what the cache holds of it is. -/
theorem projectMachine_ok (hcache : ValidCache (some snapshot) controllerID infrastructureID)
    (htime : parseCanonicalUTC snapshot.snapshotAt = .ok snapshotAt) (status : RelayStatus)
    (ageIncrement : Duration) (expected : InventoryMachine) :
    ∃ machine, projectMachine (machinesByID snapshot.machines.items) status snapshotAt
        ageIncrement expected = .ok machine ∧ machine.machineID = expected.machineID ∧
      (machine.observationStatus = some (text "recent") ↔ status = .available ∧
        ∃ receivedAt, Cached (some snapshot) expected.machineID receivedAt snapshotAt ∧
          observationAge snapshotAt receivedAt ageIncrement ≤ observationFreshnessLimit) := by
  have hmachines := (valid_of_validate (hcache.valid snapshot rfl)).machines
  obtain ⟨hmem, -⟩ := machinesByID_valid hmachines
  obtain ⟨_, htime', hvalid⟩ := observations_of_validate (hcache.valid snapshot rfl)
  rw [htime] at htime'
  rw [← Except.ok.inj htime'] at hvalid
  unfold projectMachine
  cases hfind : Table.find RelaySnapshotMachine.machineID expected.machineID
      (machinesByID snapshot.machines.items) with
  | none =>
      refine ⟨_, rfl, rfl, nofun, ?_⟩
      rintro ⟨-, receivedAt, ⟨_, hsnapshot, -, cached, hcached, hname, -⟩, -⟩
      rw [← Option.some.inj hsnapshot] at hcached
      have hno := List.find?_eq_none.1 hfind cached ((hmem cached).2 hcached)
      exact absurd (decide_eq_true hname) hno
  | some cached =>
      have hcached := (hmem cached).1 (Table.find_mem hfind)
      have hname := Table.find_key hfind
      have hreceived : ∀ source ∈ cached.observation, ∃ receivedAt,
          parseCanonicalUTC source.receivedAt = .ok receivedAt ∧ receivedAt ≤ snapshotAt :=
        fun source hsource => (instants_of_validate (hvalid cached hcached source hsource)).2
      obtain ⟨said, hsaid, hwhen⟩ := observationStatus_ok status ageIncrement hreceived
      have hprojected : ∃ observation,
          cached.observation.mapM projectObservation = .ok observation := by
        cases hobservation : cached.observation with
        | none => exact ⟨none, rfl⟩
        | some source =>
            have hpass := hvalid cached hcached source hobservation
            obtain ⟨⟨observedAt, hobserved⟩, receivedAt, hparse, -⟩ := instants_of_validate hpass
            obtain ⟨projected, hprojected, -⟩ := projectObservation_ok hpass
              (hcache.sequences snapshot rfl cached hcached source hobservation) hobserved hparse
            rw [Option.mapM_some, hprojected]
            exact ⟨some projected, rfl⟩
      obtain ⟨observation, hobservation⟩ := hprojected
      dsimp only
      rw [hsaid, hobservation]
      refine ⟨_, rfl, rfl, ?_⟩
      dsimp only
      rw [Option.some.injEq, hwhen]
      apply and_congr_right
      intro _
      constructor
      · rintro ⟨source, hsource, receivedAt, hparse, hage⟩
        exact ⟨receivedAt, ⟨snapshot, rfl, htime, cached, hcached, hname, source, hsource, hparse⟩,
          hage⟩
      · rintro ⟨receivedAt, ⟨_, hsnapshot, -, other, hother, hsame, source, hsource, hparse⟩, hage⟩
        rw [← Option.some.inj hsnapshot] at hother
        have hone : other = cached :=
          List.inj_on_of_nodup_map hmachines.nodup hother hcached (hsame.trans hname.symm)
        rw [hone] at hsource
        exact ⟨source, hsource, receivedAt, hparse, hage⟩

end Caches

/-! ## Views -/

/-- A view in which a machine is recent only where the Relay is available and the true age
of what the cache holds of it is within the limit: the time from its reception to the
snapshot, and the time since. -/
def RecentOnlyFresh (cache : Option RelaySnapshot) (status : RelayStatus)
    (ageIncrement : Duration) (view : MachinesView) : Prop :=
  ∀ machine ∈ view.machines, machine.observationStatus = some (text "recent") →
    status = .available ∧
      ∃ receivedAt snapshotAt, Cached cache machine.machineID receivedAt snapshotAt ∧
        snapshotAt - receivedAt + ageIncrement.toInt ≤ observationFreshnessLimit.toInt

/-- The span since the reception of each observation of a machine of the inventory,
saturated, and the time since stay in the word. -/
def AgesFit (inventory : Inventory) (cache : Option RelaySnapshot) (ageIncrement : Duration) :
    Prop :=
  ∀ expected ∈ inventory.machines.items, ∀ receivedAt snapshotAt,
    Cached cache expected.machineID receivedAt snapshotAt →
      min (snapshotAt - receivedAt) Duration.longest + ageIncrement.toInt ≤ Duration.longest

/-- A step that succeeds on every value of a list succeeds on the list. -/
theorem mapM_ok {ε α β : Type} {f : α → Except ε β} {p : α → β → Prop} {values : List α}
    (h : ∀ a ∈ values, ∃ b, f a = .ok b ∧ p a b) :
    ∃ results, values.mapM f = .ok results ∧ List.Forall₂ p values results := by
  induction values with
  | nil => exact ⟨[], rfl, .nil⟩
  | cons a values ih =>
      obtain ⟨b, hb, hp⟩ := h a List.mem_cons_self
      obtain ⟨results, hresults, hall⟩ := ih fun c hc => h c (List.mem_cons_of_mem _ hc)
      refine ⟨b :: results, ?_, .cons hp hall⟩
      rw [List.mapM_cons, hb, hresults]
      rfl

theorem forall₂_exists {α β : Type} {p : α → β → Prop} {as : List α} {bs : List β}
    (h : List.Forall₂ p as bs) {a : α} (ha : a ∈ as) : ∃ b ∈ bs, p a b := by
  induction h with
  | nil => cases ha
  | cons hp hrest ih =>
      rcases List.mem_cons.1 ha with rfl | ha
      · exact ⟨_, List.mem_cons_self, hp⟩
      · obtain ⟨b, hb, hp⟩ := ih ha
        exact ⟨b, List.mem_cons_of_mem _ hb, hp⟩

section Views

variable {unicode : Unicode} {inventory : Inventory} {cache : Option RelaySnapshot}
  {ageIncrement : Duration}

/-- Valid inputs are projected, machine by machine. -/
theorem projectMachines_ok (hinventory : validateInventory unicode inventory = none)
    (hcache : ValidCache cache inventory.controllerID inventory.infrastructureID)
    (hincrement : 0 ≤ ageIncrement) (status : RelayStatus) :
    ∃ view, projectMachines unicode inventory cache status ageIncrement = .ok view ∧
      List.Forall₂ (fun expected machine => machine.machineID = expected.machineID ∧
        (machine.observationStatus = some (text "recent") ↔ status = .available ∧
          ∃ receivedAt snapshotAt, Cached cache expected.machineID receivedAt snapshotAt ∧
            observationAge snapshotAt receivedAt ageIncrement ≤ observationFreshnessLimit))
        inventory.machines.items view.machines := by
  have hread : ∃ cacheByID at_, readCache inventory cache = .ok (cacheByID, at_) ∧
      ∀ expected ∈ inventory.machines.items, ∃ machine,
        projectMachine cacheByID status at_ ageIncrement expected = .ok machine ∧
        machine.machineID = expected.machineID ∧
        (machine.observationStatus = some (text "recent") ↔ status = .available ∧
          ∃ receivedAt snapshotAt, Cached cache expected.machineID receivedAt snapshotAt ∧
            observationAge snapshotAt receivedAt ageIncrement ≤ observationFreshnessLimit) := by
    cases cache with
    | none =>
        refine ⟨[], unsetInstant, rfl, fun expected _ => ⟨_, rfl, rfl, nofun, ?_⟩⟩
        rintro ⟨-, _, _, ⟨_, hsnapshot, -⟩, -⟩
        cases hsnapshot
    | some snapshot =>
        have hvalid := hcache.valid snapshot rfl
        obtain ⟨snapshotAt, htime, -⟩ := observations_of_validate hvalid
        refine ⟨machinesByID snapshot.machines.items, snapshotAt, ?_, fun expected _ => ?_⟩
        · rw [readCache, hvalid, htime]
          rfl
        obtain ⟨machine, hmachine, hname, hwhen⟩ :=
          projectMachine_ok hcache htime status ageIncrement expected
        refine ⟨machine, hmachine, hname, hwhen.trans (and_congr_right fun _ => ?_)⟩
        constructor
        · exact fun ⟨receivedAt, hcached, hage⟩ => ⟨receivedAt, snapshotAt, hcached, hage⟩
        · rintro ⟨receivedAt, at_, hcached, hage⟩
          have hsame : at_ = snapshotAt := by
            obtain ⟨_, hsnapshot, htime', -⟩ := hcached
            rw [← Option.some.inj hsnapshot, htime] at htime'
            exact (Except.ok.inj htime').symm
          subst hsame
          exact ⟨receivedAt, hcached, hage⟩
  obtain ⟨cacheByID, at_, hread, hmachines⟩ := hread
  obtain ⟨machines, hprojected, hall⟩ := mapM_ok hmachines
  rw [projectMachines, hinventory]
  dsimp only
  rw [if_neg (Int64.not_lt.2 hincrement), hread]
  dsimp only [bind, Except.bind]
  rw [hprojected]
  exact ⟨_, rfl, hall⟩

/-- No machine of a view is recent past the limit, exactly where the Relay is not
available or the word holds every age. -/
theorem recent_iff_aged (hinventory : validateInventory unicode inventory = none)
    (hcache : ValidCache cache inventory.controllerID inventory.infrastructureID)
    (hincrement : 0 ≤ ageIncrement) (status : RelayStatus) :
    ∃ view, projectMachines unicode inventory cache status ageIncrement = .ok view ∧
      (RecentOnlyFresh cache status ageIncrement view ↔
        status ≠ .available ∨ AgesFit inventory cache ageIncrement) := by
  obtain ⟨view, hview, hall⟩ := projectMachines_ok hinventory hcache hincrement status
  refine ⟨view, hview, ?_⟩
  have hsound : ∀ machineID receivedAt snapshotAt, Cached cache machineID receivedAt snapshotAt →
      ((observationAge snapshotAt receivedAt ageIncrement ≤ observationFreshnessLimit →
          snapshotAt - receivedAt + ageIncrement.toInt ≤ observationFreshnessLimit.toInt) ↔
        min (snapshotAt - receivedAt) Duration.longest + ageIncrement.toInt ≤
          Duration.longest) := by
    intro machineID receivedAt snapshotAt hcached
    have hle := hcached.le hcache
    have hnonneg : (0 : Int) ≤ ageIncrement.toInt := Int64.le_iff_toInt_le.1 hincrement
    exact Duration.nearest_add_sound_iff (sub_nonneg.2 hle) hnonneg (by decide) (by decide)
  constructor
  · intro hfresh
    by_cases havailable : status = .available
    · right
      intro expected hexpected receivedAt snapshotAt hcached
      obtain ⟨machine, hmachine, hname, hwhen⟩ :=
        forall₂_exists hall hexpected
      rw [← hsound _ _ _ hcached]
      intro hage
      obtain ⟨-, receivedAt', snapshotAt', hcached', hwithin⟩ := hfresh machine hmachine
        (hwhen.2 ⟨havailable, receivedAt, snapshotAt, hcached, hage⟩)
      rw [hname] at hcached'
      obtain ⟨hreceived, htaken⟩ := hcached.unique hcached' hcache
      rw [hreceived, htaken]
      exact hwithin
    · exact Or.inl havailable
  · intro hfits machine hmachine hrecent
    obtain ⟨expected, hexpected, hname, hwhen⟩ := forall₂_exists hall.flip hmachine
    obtain ⟨havailable, receivedAt, snapshotAt, hcached, hage⟩ := hwhen.1 hrecent
    rcases hfits with hnot | hfits
    · exact absurd havailable hnot
    · rw [hname]
      exact ⟨havailable, receivedAt, snapshotAt, hcached,
        (hsound _ _ _ hcached).2 (hfits expected hexpected _ _ hcached) hage⟩

end Views

/-! ## One machine -/

/-- An observation with the instants of a machine and of the Relay. -/
def observedOnce (observedAt receivedAt : Bytes) : RelaySnapshotObservation :=
  { schemaVersion := 1, machineID := text "lab-1", daemonVersion := Observation.daemonVersion
    profile := Observation.profile, sequence := 1, observedAt, receivedAt, gaps := some []
    health :=
      { uptime := ⟨statusOK, some 1, []⟩, memory := ⟨statusOK, some 2, some 1, []⟩
        rootFS := ⟨statusOK, some 2, some 1, []⟩ }
    external := none }

/-- A snapshot of the first day of 2026, with an observation received at some instant. -/
def snapshotOnce (receivedAt : Bytes) : RelaySnapshot :=
  { someSnapshot with
    snapshotAt := text "2026-01-01T00:00:00Z"
    machines := some
      [{ machineID := text "lab-1", enrollmentStatus := text "active"
         observation := some (observedOnce receivedAt receivedAt) }] }

def oneInventory : Inventory :=
  { schemaVersion := 1, controllerID := someController, infrastructureID := someInfrastructure
    inventoryRevision := 1, infrastructureLabel := none
    machines := some [{ machineID := text "lab-1", label := text "Lab" }] }

theorem oneInventory_valid : validateInventory sevenBits oneInventory = none := by
  decide +kernel

/-- A snapshot that passes, with an observation of one sequence. -/
theorem snapshotOnce_valid {receivedAt : Bytes}
    (h : (snapshotOnce receivedAt).validate someController someInfrastructure = none) :
    ValidCache (some (snapshotOnce receivedAt)) oneInventory.controllerID
      oneInventory.infrastructureID := by
  constructor
  · intro snapshot hsnapshot
    rw [← Option.some.inj hsnapshot]
    exact h
  · intro snapshot hsnapshot m hm o ho
    rw [← Option.some.inj hsnapshot] at hm
    rw [List.mem_singleton.1 hm] at ho
    rw [← Option.some.inj ho]
    exact Nat.lt_of_le_of_lt (Nat.le_refl 1) (by decide)

/-- An instant before any that a word can be from the snapshot. -/
def firstDay : Bytes := text "0001-01-01T00:00:00Z"

theorem recent_iff_aged_once :
    ∃ view, projectMachines sevenBits oneInventory (some (snapshotOnce firstDay)) .available 0 =
        .ok view ∧
      (RecentOnlyFresh (some (snapshotOnce firstDay)) .available 0 view ↔
        RelayStatus.available ≠ .available ∨
          AgesFit oneInventory (some (snapshotOnce firstDay)) 0) :=
  recent_iff_aged oneInventory_valid (snapshotOnce_valid (by decide +kernel)) (by decide) .available

/-- The longest span and one nanosecond more are an age in the past of any limit. -/
theorem ancient_recent :
    ¬ ∀ (unicode : Unicode) (inventory : Inventory) (cache : Option RelaySnapshot)
      (status : RelayStatus) (ageIncrement : Duration) (view : MachinesView),
      validateInventory unicode inventory = none →
      ValidCache cache inventory.controllerID inventory.infrastructureID → 0 ≤ ageIncrement →
      projectMachines unicode inventory cache status ageIncrement = .ok view →
      RecentOnlyFresh cache status ageIncrement view := by
  intro h
  have hvalid : (snapshotOnce firstDay).validate someController someInfrastructure = none ∧
      parseCanonicalUTC (snapshotOnce firstDay).snapshotAt = .ok 1767225600000000000 ∧
      parseCanonicalUTC firstDay = .ok (-62135596800000000000) ∧
      (projectMachines sevenBits oneInventory (some (snapshotOnce firstDay)) .available
        1).toOption.map (fun view => view.machines.map ProjectedMachine.observationStatus) =
        some [some (text "recent")] := by
    decide +kernel
  obtain ⟨hvalid, htaken, hreceived, hrecent⟩ := hvalid
  cases hprojected : projectMachines sevenBits oneInventory (some (snapshotOnce firstDay))
      .available 1 with
  | error problem =>
      rw [hprojected] at hrecent
      cases hrecent
  | ok view =>
      rw [hprojected] at hrecent
      obtain ⟨machine, hmachines, hone⟩ := List.map_eq_singleton_iff.1 (Option.some.inj hrecent)
      have hfresh := h sevenBits oneInventory (some (snapshotOnce firstDay)) .available 1 view
        oneInventory_valid (snapshotOnce_valid hvalid) (by decide) hprojected
      obtain ⟨-, receivedAt, snapshotAt, ⟨snapshot, hsnapshot, htime, cached, hcached, -, source,
        hsource, hparse⟩, hage⟩ := hfresh machine (by rw [hmachines]; simp) hone
      rw [← Option.some.inj hsnapshot] at htime hcached
      rw [List.mem_singleton.1 hcached] at hsource
      rw [← Option.some.inj hsource] at hparse
      rw [Except.ok.inj (htime.symm.trans htaken), Except.ok.inj (hparse.symm.trans hreceived)]
        at hage
      exact absurd hage (by decide)

/-! ## Two clocks -/

theorem observedOnce_valid : validateSnapshotObservation (text "lab-1") 1767225600000000000
    (observedOnce firstDay (text "2026-01-01T00:00:00Z")) = none := by
  decide +kernel

theorem warning_iff_once :
    ∃ observedAt receivedAt projected,
      parseCanonicalUTC firstDay = .ok observedAt ∧
      parseCanonicalUTC (text "2026-01-01T00:00:00Z") = .ok receivedAt ∧
      projectObservation (observedOnce firstDay (text "2026-01-01T00:00:00Z")) = .ok projected ∧
      ((projected.observedTimeWarning = true ↔
          observedTimeTolerance.toInt < |observedAt - receivedAt|) ↔
        (-2 ^ 63 : Int) < observedAt - receivedAt) :=
  warning_iff observedOnce_valid (by exact Nat.lt_of_le_of_lt (Nat.le_refl 1) (by decide))

/-- A machine whose clock is at the first day of all is not warned of. -/
theorem first_day_unwarned :
    ¬ ∀ (machineID : Bytes) (snapshotAt observedAt receivedAt : Instant)
      (source : RelaySnapshotObservation) (projected : ProjectedObservation),
      validateSnapshotObservation machineID snapshotAt source = none →
      parseCanonicalUTC source.observedAt = .ok observedAt →
      parseCanonicalUTC source.receivedAt = .ok receivedAt →
      projectObservation source = .ok projected →
      (projected.observedTimeWarning = true ↔
        observedTimeTolerance.toInt < |observedAt - receivedAt|) := by
  intro h
  have hparsed : parseCanonicalUTC (text "2026-01-01T00:00:00Z") = .ok 1767225600000000000 ∧
      parseCanonicalUTC firstDay = .ok (-62135596800000000000) ∧
      (projectObservation (observedOnce firstDay (text "2026-01-01T00:00:00Z"))).toOption.map
        ProjectedObservation.observedTimeWarning = some false := by
    decide +kernel
  obtain ⟨hreceived, hobserved, hunwarned⟩ := hparsed
  cases hprojected : projectObservation
      (observedOnce firstDay (text "2026-01-01T00:00:00Z")) with
  | error problem =>
      rw [hprojected] at hunwarned
      cases hunwarned
  | ok projected =>
      rw [hprojected] at hunwarned
      have hwarned := (h _ _ _ _ _ projected observedOnce_valid hobserved hreceived hprojected).2
        (by decide)
      rw [Option.some.inj hunwarned] at hwarned
      cases hwarned

end YourCloud.Controller
