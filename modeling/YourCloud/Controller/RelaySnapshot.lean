import YourCloud.Approval.Envelope
import YourCloud.Foundation.Table
import YourCloud.Observation.Buffer

/-!
# The snapshots a Controller reads

A Controller reads the Relay's document strictly and checks it on its own: the
identities it expects, machines in order, times in the one form it would write
them in, and ranges that do not touch.  The document replaces the one in its
cache only where nothing known went back: no machine is gone or active again,
no sequence is smaller or has other content, and no range of lost observations
is shorter.

## Main results

* `parseCanonicalUTC_format` — a time of a year of four digits has its one form.
* `allowsMachines_ok` — a document whose machines are each allowed is allowed.
* `gapsPreserved_append` — ranges that were only added to are preserved.
-/

namespace YourCloud.Controller

open YourCloud.Foundation
open YourCloud.Approval (canonicalUUIDv4)
open YourCloud.Observation

/-! ## Data -/

def maxRelaySnapshotBytes : Nat := 2 * 1024 * 1024

def maxRelaySnapshotGaps : Nat := 8192

/-- Bounds the machines of an infrastructure. -/
def maxMachines : Nat := 64

structure RelaySnapshotObservation where
  schemaVersion : Int
  machineID : Bytes
  daemonVersion : Bytes
  profile : Bytes
  sequence : Nat
  observedAt : Bytes
  receivedAt : Bytes
  gaps : Slice Gap
  health : HostHealth
  external : Slice ExternalReading
  deriving DecidableEq, Repr

structure RelaySnapshotMachine where
  machineID : Bytes
  enrollmentStatus : Bytes
  observation : Option RelaySnapshotObservation
  deriving DecidableEq, Repr

structure RelaySnapshot where
  schemaVersion : Int
  infrastructureID : Bytes
  controllerID : Bytes
  snapshotAt : Bytes
  machines : Slice RelaySnapshotMachine
  deriving DecidableEq, Repr

/-- An error, with the machine it names if it names one. -/
structure SnapshotProblem where
  machine : Option Bytes
  reason : String
  deriving DecidableEq, Repr

def refused (reason : String) : SnapshotProblem := { machine := none, reason }

/-! ## Reading -/

def snapshotObservationFields : List Bytes :=
  [text "schema_version", text "machine_id", text "daemon_version", text "profile",
    text "sequence", text "observed_at", text "received_at", text "gaps", text "health",
    text "external"]

def RelaySnapshotObservation.read (j : Json) : Option RelaySnapshotObservation := do
  let ms ← j.members snapshotObservationFields
  let schemaVersion ← (Json.field ms (text "schema_version")).readInt
  let machineID ← (Json.field ms (text "machine_id")).readString
  let daemonVersion ← (Json.field ms (text "daemon_version")).readString
  let profile ← (Json.field ms (text "profile")).readString
  let sequence ← (Json.field ms (text "sequence")).readUint64
  let observedAt ← (Json.field ms (text "observed_at")).readString
  let receivedAt ← (Json.field ms (text "received_at")).readString
  let gaps ← Slice.read Gap.read (Json.field ms (text "gaps"))
  let health ← HostHealth.read (Json.field ms (text "health"))
  let external ← Slice.read ExternalReading.read (Json.field ms (text "external"))
  return { schemaVersion, machineID, daemonVersion, profile, sequence, observedAt, receivedAt,
           gaps, health, external }

def snapshotMachineFields : List Bytes :=
  [text "machine_id", text "enrollment_status", text "observation"]

def RelaySnapshotMachine.read (j : Json) : Option RelaySnapshotMachine := do
  let ms ← j.members snapshotMachineFields
  let machineID ← (Json.field ms (text "machine_id")).readString
  let enrollmentStatus ← (Json.field ms (text "enrollment_status")).readString
  let observation ← Json.readPointer RelaySnapshotObservation.read
    (Json.field ms (text "observation"))
  return { machineID, enrollmentStatus, observation }

def snapshotFields : List Bytes :=
  [text "schema_version", text "infrastructure_id", text "controller_id", text "snapshot_at",
    text "machines"]

def RelaySnapshot.read (j : Json) : Option RelaySnapshot := do
  let ms ← j.members snapshotFields
  let schemaVersion ← (Json.field ms (text "schema_version")).readInt
  let infrastructureID ← (Json.field ms (text "infrastructure_id")).readString
  let controllerID ← (Json.field ms (text "controller_id")).readString
  let snapshotAt ← (Json.field ms (text "snapshot_at")).readString
  let machines ← Slice.read RelaySnapshotMachine.read (Json.field ms (text "machines"))
  return { schemaVersion, infrastructureID, controllerID, snapshotAt, machines }

/-! ## Checks -/

/-- An instant in the one form it is written in. -/
def parseCanonicalUTC (value : Bytes) : Except String Instant :=
  if value.getLast? ≠ some 0x5A then .error "timestamp must use Z"
  else
    match Rfc3339.parse value with
    | none => .error "timestamp must use canonical RFC3339Nano UTC"
    | some t =>
        if Rfc3339.format t ≠ value then .error "timestamp must use canonical RFC3339Nano UTC"
        else .ok t

/-- The message an observation stands for. -/
def RelaySnapshotObservation.envelope (candidate : RelaySnapshotObservation) : Envelope :=
  { schemaVersion := candidate.schemaVersion
    machineID := candidate.machineID
    daemonVersion := candidate.daemonVersion
    profile := candidate.profile
    sequence := candidate.sequence
    observedAt := candidate.observedAt
    health := candidate.health
    gaps := candidate.gaps.items
    external := candidate.external.items }

/-- The ranges of an observation, after the one before. -/
def validateSnapshotGaps : Option Gap → List Gap → Option String
  | _, [] => none
  | previous, gap :: rest =>
      match parseCanonicalUTC gap.firstObservedAt with
      | .error _ => some "gap first_observed_at is not canonical UTC"
      | .ok _ =>
          match parseCanonicalUTC gap.lastObservedAt with
          | .error _ => some "gap last_observed_at is not canonical UTC"
          | .ok _ =>
              if previous.any fun before => gap.firstSequence ≤ wrap (before.lastSequence + 1) then
                some "Relay snapshot gaps must be merged and non-adjacent"
              else validateSnapshotGaps (some gap) rest

/-- Whether a text is a reception that is not after an instant. -/
def receivedBy (snapshotAt : Instant) (receivedAt : Bytes) : Bool :=
  match parseCanonicalUTC receivedAt with
  | .error _ => false
  | .ok t => t ≤ snapshotAt

def validateSnapshotObservation (machineID : Bytes) (snapshotAt : Instant)
    (candidate : RelaySnapshotObservation) : Option String :=
  if candidate.schemaVersion ≠ Observation.schemaVersion ∨ candidate.machineID ≠ machineID then
    some "observation identity or schema is invalid"
  else if candidate.gaps = none then some "observation gaps must be a present array"
  else
    match candidate.envelope.validate with
    | some reason => some reason
    | none =>
        match parseCanonicalUTC candidate.observedAt with
        | .error _ => some "observed_at is not canonical UTC"
        | .ok _ =>
            if receivedBy snapshotAt candidate.receivedAt = false then
              some "received_at is invalid or later than snapshot_at"
            else validateSnapshotGaps none candidate.gaps.items

/-- The machines after one of a name, and after so many ranges. -/
def validateMachines (snapshotAt : Instant) :
    Bytes → Nat → List RelaySnapshotMachine → Option SnapshotProblem
  | _, _, [] => none
  | previousMachine, totalGaps, machine :: rest =>
      if validateMachineID machine.machineID ≠ none ∨ machine.machineID ≤ previousMachine then
        some (refused "Relay snapshot machines are invalid, duplicated or unsorted")
      else if machine.enrollmentStatus ≠ text "active" ∧
          machine.enrollmentStatus ≠ text "revoked" then
        some (refused "Relay snapshot enrollment status is invalid")
      else
        match machine.observation with
        | none => validateMachines snapshotAt machine.machineID totalGaps rest
        | some candidate =>
            match validateSnapshotObservation machine.machineID snapshotAt candidate with
            | some reason => some { machine := some machine.machineID, reason }
            | none =>
                if maxRelaySnapshotGaps < totalGaps + candidate.gaps.items.length then
                  some (refused "Relay snapshot contains too many gaps")
                else
                  validateMachines snapshotAt machine.machineID
                    (totalGaps + candidate.gaps.items.length) rest

def RelaySnapshot.validate (snapshot : RelaySnapshot) (controllerID infrastructureID : Bytes) :
    Option SnapshotProblem :=
  if snapshot.schemaVersion ≠ 1 then
    some (refused "unsupported Relay snapshot schema_version")
  else if canonicalUUIDv4 snapshot.controllerID = false ∨
      snapshot.controllerID ≠ controllerID then
    some (refused "Relay snapshot controller_id is invalid or crossed")
  else if canonicalUUIDv4 snapshot.infrastructureID = false ∨
      snapshot.infrastructureID ≠ infrastructureID then
    some (refused "Relay snapshot infrastructure_id is invalid or crossed")
  else
    match parseCanonicalUTC snapshot.snapshotAt with
    | .error _ => some (refused "Relay snapshot timestamp is not canonical UTC")
    | .ok snapshotAt =>
        if snapshot.machines = none ∨ maxMachines < snapshot.machines.items.length then
          some (refused "Relay snapshot machines must be a present bounded array")
        else validateMachines snapshotAt [] 0 snapshot.machines.items

def decodeRelaySnapshot (data controllerID infrastructureID : Bytes) :
    Except SnapshotProblem RelaySnapshot :=
  if data.length = 0 ∨ maxRelaySnapshotBytes < data.length then
    .error (refused "Relay snapshot size is outside its bound")
  else
    match Json.decode RelaySnapshot.read data with
    | none => .error (refused "decode Relay snapshot")
    | some snapshot =>
        match snapshot.validate controllerID infrastructureID with
        | some problem => .error problem
        | none => .ok snapshot

/-! ## What may replace the cache -/

/-- Whether every known range lies within one of the next ones. -/
def gapsPreserved : List Gap → List Gap → Bool
  | [], _ => true
  | known :: rest, next =>
      match next.dropWhile fun gap => gap.lastSequence < known.firstSequence with
      | [] => false
      | gap :: after =>
          if known.firstSequence < gap.firstSequence ∨ gap.lastSequence < known.lastSequence then
            false
          else gapsPreserved rest (gap :: after)

/-- What is wrong with the next observation of a machine beside the one before. -/
def allowsMachine (previous next : RelaySnapshotMachine) : Option String :=
  if previous.enrollmentStatus = text "revoked" ∧ next.enrollmentStatus ≠ text "revoked" then
    some "cannot be reactivated"
  else
    match previous.observation with
    | none => none
    | some before =>
        match next.observation with
        | none => some "cannot lose its observation"
        | some after =>
            if after.sequence < before.sequence then some "observation sequence regressed"
            else if after.sequence = before.sequence ∧ after ≠ before then
              some "reused a sequence with different content"
            else if before.sequence < after.sequence ∧
                gapsPreserved before.gaps.items after.gaps.items = false then
              some "removed a known gap"
            else none

/-- The machines by name; of two of one name the last one counts. -/
def machinesByID (machines : List RelaySnapshotMachine) : List RelaySnapshotMachine :=
  machines.foldl (fun table machine => Table.put RelaySnapshotMachine.machineID machine table) []

/-- The known machines that the next ones leave out, unless one of these is refused. -/
def allowsMachines (currentByID : List RelaySnapshotMachine) :
    List RelaySnapshotMachine → Except SnapshotProblem (List RelaySnapshotMachine)
  | [] => .ok currentByID
  | next :: rest =>
      match Table.find RelaySnapshotMachine.machineID next.machineID currentByID with
      | none => allowsMachines currentByID rest
      | some previous =>
          match allowsMachine previous next with
          | some reason => .error { machine := some next.machineID, reason }
          | none =>
              allowsMachines
                (Table.remove RelaySnapshotMachine.machineID next.machineID currentByID) rest

/-- Why the candidate may not replace the current snapshot. -/
def allowsSnapshotTransition (current candidate : RelaySnapshot) : Option SnapshotProblem :=
  if current.controllerID ≠ candidate.controllerID ∨
      current.infrastructureID ≠ candidate.infrastructureID then
    some (refused "Relay cache identities are immutable")
  else
    match parseCanonicalUTC current.snapshotAt, parseCanonicalUTC candidate.snapshotAt with
    | .ok currentAt, .ok candidateAt =>
        if candidateAt < currentAt then
          some (refused "Relay cache snapshot time cannot regress")
        else
          match allowsMachines (machinesByID current.machines.items)
              candidate.machines.items with
          | .error problem => some problem
          | .ok missing =>
              match (missing.map RelaySnapshotMachine.machineID).insertionSort (· ≤ ·) with
              | [] => none
              | machineID :: _ =>
                  some { machine := some machineID,
                         reason := "Relay snapshot omitted known machine" }
    | _, _ => some (refused "Relay cache snapshot time cannot regress")

/-! ## Times -/

/-- A written instant is canonical where it can be read at all. -/
theorem parseCanonicalUTC_format {t u : Instant} :
    parseCanonicalUTC (Rfc3339.format t) = .ok u ↔ Rfc3339.Writable t ∧ u = t := by
  have hzone : (Rfc3339.format t).getLast? = some 0x5A := by
    unfold Rfc3339.format
    exact List.getLast?_append_cons _ _ _
  unfold parseCanonicalUTC
  rw [if_neg (not_not.2 hzone)]
  constructor
  · intro h
    split at h
    · cases h
    · rename_i v hparse
      split at h
      · cases h
      · rw [← Except.ok.inj h]
        exact Rfc3339.parse_format_iff.1 hparse
  · rintro ⟨hwritable, rfl⟩
    rw [Rfc3339.parse_format hwritable]
    exact if_neg (not_not.2 rfl)

/-! ## Ranges -/

/-- Ranges each of which ends before the next one begins are found again among
more of them. -/
theorem gapsPreserved_append {known more : List Gap}
    (hordered : known.Pairwise fun left right => left.lastSequence < right.firstSequence)
    (hrange : ∀ gap ∈ known, gap.firstSequence ≤ gap.lastSequence) :
    gapsPreserved known (known ++ more) = true := by
  -- The walk over the next ranges stands at the range found last.
  have hwalk : ∀ (known before : List Gap),
      known.Pairwise (fun left right => left.lastSequence < right.firstSequence) →
      (∀ gap ∈ known, gap.firstSequence ≤ gap.lastSequence) →
      (∀ a ∈ before, ∀ b ∈ known, a.lastSequence < b.firstSequence) →
      gapsPreserved known (before ++ (known ++ more)) = true := by
    intro known
    induction known with
    | nil => exact fun _ _ _ _ => rfl
    | cons gap rest ih =>
        intro before hordered hrange hbefore
        obtain ⟨hgap, hrest⟩ := List.pairwise_cons.1 hordered
        have hskip : (before ++ (gap :: rest ++ more)).dropWhile
            (fun other => other.lastSequence < gap.firstSequence) = gap :: (rest ++ more) := by
          rw [List.dropWhile_append_of_pos]
          · have hle := hrange gap List.mem_cons_self
            exact List.dropWhile_cons_of_neg (by simpa using hle)
          · intro other hother
            exact decide_eq_true (hbefore other hother gap List.mem_cons_self)
        rw [gapsPreserved, hskip]
        dsimp only
        rw [if_neg (by omega)]
        apply ih [gap] hrest fun other hother => hrange other (List.mem_cons_of_mem _ hother)
        intro a ha b hb
        rw [List.mem_singleton.1 ha]
        exact hgap b hb
  exact hwalk known [] hordered hrange fun a ha => absurd ha List.not_mem_nil

/-! ## Machines -/

/-- An observation passes check by check. -/
theorem validateSnapshotObservation_ok {machineID : Bytes} {snapshotAt observedAt : Instant}
    {candidate : RelaySnapshotObservation}
    (hschema : candidate.schemaVersion = Observation.schemaVersion)
    (hmachine : candidate.machineID = machineID) (hpresent : candidate.gaps ≠ none)
    (henvelope : candidate.envelope.validate = none)
    (hobserved : parseCanonicalUTC candidate.observedAt = .ok observedAt)
    (hreceived : receivedBy snapshotAt candidate.receivedAt = true)
    (hgaps : validateSnapshotGaps none candidate.gaps.items = none) :
    validateSnapshotObservation machineID snapshotAt candidate = none := by
  rw [validateSnapshotObservation,
    if_neg (not_or.2 ⟨not_not.2 hschema, not_not.2 hmachine⟩), if_neg hpresent, henvelope]
  dsimp only
  rw [hobserved]
  dsimp only
  rw [hreceived]
  exact hgaps

/-- A machine that stays revoked, and whose observation stays or is replaced by a
later one with the known ranges, is allowed. -/
theorem allowsMachine_ok {previous next : RelaySnapshotMachine}
    (hstatus : previous.enrollmentStatus = text "revoked" → next.enrollmentStatus = text "revoked")
    (hobservation : ∀ before ∈ previous.observation, ∃ after, next.observation = some after ∧
      (after = before ∨ before.sequence < after.sequence ∧
        gapsPreserved before.gaps.items after.gaps.items = true)) :
    allowsMachine previous next = none := by
  unfold allowsMachine
  rw [if_neg (fun h => h.2 (hstatus h.1))]
  cases hprevious : previous.observation with
  | none => rfl
  | some before =>
      obtain ⟨after, hafter, hcase⟩ := hobservation before hprevious
      rw [hafter]
      dsimp only
      rcases hcase with rfl | ⟨hlt, hpreserved⟩
      · rw [if_neg (lt_irrefl _), if_neg (fun h => h.2 rfl), if_neg (fun h => lt_irrefl _ h.1)]
      · rw [if_neg (by omega), if_neg (by omega), if_neg (by rw [hpreserved]; simp)]

/-- What a snapshot that passes says of its identities and its time. -/
theorem RelaySnapshot.validate_ok {snapshot : RelaySnapshot} {controllerID infrastructureID : Bytes}
    (h : snapshot.validate controllerID infrastructureID = none) :
    snapshot.controllerID = controllerID ∧ snapshot.infrastructureID = infrastructureID ∧
      ∃ t, parseCanonicalUTC snapshot.snapshotAt = .ok t := by
  unfold RelaySnapshot.validate at h
  split at h
  · cases h
  · split at h
    · cases h
    · rename_i hcontroller
      split at h
      · cases h
      · rename_i hinfrastructure
        split at h
        · cases h
        · rename_i t ht
          exact ⟨not_not.1 (not_or.1 hcontroller).2, not_not.1 (not_or.1 hinfrastructure).2, t, ht⟩

/-- The transition of two snapshots of one Relay, part by part. -/
theorem allowsSnapshotTransition_ok {current candidate : RelaySnapshot} {t u : Instant}
    (hcontroller : current.controllerID = candidate.controllerID)
    (hinfrastructure : current.infrastructureID = candidate.infrastructureID)
    (ht : parseCanonicalUTC current.snapshotAt = .ok t)
    (hu : parseCanonicalUTC candidate.snapshotAt = .ok u) (hle : t ≤ u)
    (hmachines : allowsMachines (machinesByID current.machines.items)
      candidate.machines.items = .ok []) :
    allowsSnapshotTransition current candidate = none := by
  unfold allowsSnapshotTransition
  rw [if_neg (not_or.2 ⟨not_not.2 hcontroller, not_not.2 hinfrastructure⟩), ht, hu]
  dsimp only
  rw [if_neg (not_lt.2 hle), hmachines]
  rfl

theorem mem_machinesByID {machines : List RelaySnapshotMachine} {machine : RelaySnapshotMachine}
    (h : machine ∈ machinesByID machines) : machine ∈ machines := by
  have hfold : ∀ (machines table : List RelaySnapshotMachine),
      machine ∈ machines.foldl (fun table machine =>
        Table.put RelaySnapshotMachine.machineID machine table) table →
      machine ∈ table ∨ machine ∈ machines := by
    intro machines
    induction machines with
    | nil => exact fun _ hmem => .inl hmem
    | cons first rest ih =>
        intro table hmem
        rcases ih _ hmem with hput | hrest
        · rcases Table.mem_put.1 hput with rfl | ⟨htable, -⟩
          · exact .inr List.mem_cons_self
          · exact .inl htable
        · exact .inr (List.mem_cons_of_mem _ hrest)
  rcases hfold machines [] h with hnil | hmem
  · exact absurd hnil List.not_mem_nil
  · exact hmem

/-- Where each known machine is among the next ones, and allowed there, none is
left out. -/
theorem allowsMachines_ok {currentByID next : List RelaySnapshotMachine}
    (hfound : ∀ previous ∈ currentByID, ∃ machine ∈ next,
      machine.machineID = previous.machineID)
    (hallowed : ∀ previous ∈ currentByID, ∀ machine ∈ next,
      machine.machineID = previous.machineID → allowsMachine previous machine = none) :
    allowsMachines currentByID next = .ok [] := by
  induction next generalizing currentByID with
  | nil =>
      cases currentByID with
      | nil => rfl
      | cons previous rest =>
          obtain ⟨machine, hmachine, -⟩ := hfound previous List.mem_cons_self
          exact absurd hmachine List.not_mem_nil
  | cons machine rest ih =>
      unfold allowsMachines
      split
      · rename_i hnone
        apply ih
        · intro previous hprevious
          obtain ⟨other, hother, heq⟩ := hfound previous hprevious
          rcases List.mem_cons.1 hother with rfl | hother
          · have hne := List.find?_eq_none.1 hnone previous hprevious
            exact absurd (decide_eq_true heq.symm) hne
          · exact ⟨other, hother, heq⟩
        · exact fun previous hprevious other hother =>
            hallowed previous hprevious other (List.mem_cons_of_mem _ hother)
      · rename_i previous hprevious
        have hmem := Table.find_mem hprevious
        have hkey := Table.find_key hprevious
        rw [hallowed previous hmem machine List.mem_cons_self hkey.symm]
        dsimp only
        apply ih
        · intro other hother
          obtain ⟨hother, hne⟩ := Table.mem_remove.1 hother
          obtain ⟨found, hfound, heq⟩ := hfound other hother
          rcases List.mem_cons.1 hfound with rfl | hfound
          · exact absurd heq.symm hne
          · exact ⟨found, hfound, heq⟩
        · intro other hother found hfound
          exact hallowed other (Table.mem_remove.1 hother).1 found
            (List.mem_cons_of_mem _ hfound)

/-- The ranges of some machines. -/
def relayedGaps (machines : List RelaySnapshotMachine) : Nat :=
  (machines.map fun m => ((m.observation.map fun o => o.gaps.items).getD []).length).sum

/-- Machines in order, each of which passes, with ranges within the bound. -/
theorem validateMachines_ok {snapshotAt : Instant} {previous : Bytes} {totalGaps : Nat}
    {machines : List RelaySnapshotMachine}
    (hsorted : (previous :: machines.map RelaySnapshotMachine.machineID).Pairwise (· < ·))
    (hmachines : ∀ m ∈ machines, validateMachineID m.machineID = none ∧
      (m.enrollmentStatus = text "active" ∨ m.enrollmentStatus = text "revoked") ∧
      ∀ o ∈ m.observation, validateSnapshotObservation m.machineID snapshotAt o = none)
    (hgaps : totalGaps + relayedGaps machines ≤ maxRelaySnapshotGaps) :
    validateMachines snapshotAt previous totalGaps machines = none := by
  induction machines generalizing previous totalGaps with
  | nil => rfl
  | cons machine rest ih =>
      obtain ⟨hfirst, hrest⟩ := List.pairwise_cons.1 hsorted
      obtain ⟨hname, hstatus, hobservation⟩ := hmachines machine List.mem_cons_self
      have htail := fun m hm => hmachines m (List.mem_cons_of_mem machine hm)
      have hlater : ¬ machine.machineID ≤ previous :=
        List.not_le.2 (hfirst machine.machineID List.mem_cons_self)
      have hsum : relayedGaps (machine :: rest) =
          ((machine.observation.map fun o => o.gaps.items).getD []).length + relayedGaps rest := by
        rw [relayedGaps, List.map_cons, List.sum_cons]
        rfl
      rw [hsum] at hgaps
      rw [validateMachines, if_neg (not_or.2 ⟨not_not.2 hname, hlater⟩),
        if_neg (fun hnot => hstatus.elim hnot.1 hnot.2)]
      cases hcandidate : machine.observation with
      | none =>
          rw [hcandidate] at hgaps
          exact ih hrest htail (by simpa using hgaps)
      | some candidate =>
          rw [hcandidate] at hgaps
          have hlength : ((some candidate : Option RelaySnapshotObservation).map
              fun o => o.gaps.items).getD [] = candidate.gaps.items := rfl
          rw [hlength] at hgaps
          dsimp only
          rw [hobservation candidate hcandidate]
          dsimp only
          rw [if_neg (by omega)]
          exact ih hrest htail (by omega)

end YourCloud.Controller
