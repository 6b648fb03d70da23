import YourCloud.Relay.Enrollment
import YourCloud.Relay.Retained

/-!
# The snapshot a Relay serves

A reader asks for one document: every machine of the registry in order, and
beside each the last message the Relay holds of it.  Times are written again in
universal time, whatever offset they were sent with, and the ranges are the
ones the Relay joined, not those of the message.

## Main results

* `snapshot_ok` — what a document that is served holds.
-/

namespace YourCloud.Relay

open YourCloud.Foundation YourCloud.Observation
open YourCloud.Approval (canonicalUUIDv4)
open YourCloud.Enrollment (Entry Registry)

/-! ## The reader's identity -/

def manifestSchema : Int := 1

/-- The one reader certificate an infrastructure accepts. -/
structure Manifest where
  schemaVersion : Int
  controllerID : Bytes
  infrastructureID : Bytes
  uri : Bytes
  certificateSerial : Bytes
  certificateSHA256 : Bytes
  status : Bytes
  deriving DecidableEq, Repr

/-- The one name permitted for a reader. -/
def readerURI (infrastructureID controllerID : Bytes) : Bytes :=
  text "urn:your-cloud:controller-reader:" ++ infrastructureID ++ text ":" ++ controllerID

def Manifest.validate (manifest : Manifest) : Option String :=
  if manifest.schemaVersion ≠ manifestSchema then
    some "unsupported reader manifest schema_version"
  else if canonicalUUIDv4 manifest.controllerID = false then
    some "controller_id: identifier must be a canonical lower-case UUIDv4"
  else if canonicalUUIDv4 manifest.infrastructureID = false then
    some "infrastructure_id: identifier must be a canonical lower-case UUIDv4"
  else if manifest.uri ≠ readerURI manifest.infrastructureID manifest.controllerID then
    some "reader URI does not match controller and infrastructure identifiers"
  else if Enrollment.hexSerialPattern manifest.certificateSerial = false then
    some "certificate_serial must be canonical lower-case hexadecimal"
  else if Enrollment.hexFingerprintPattern manifest.certificateSHA256 = false then
    some "certificate_sha256 must be 64 lower-case hexadecimal characters"
  else if manifest.status ≠ Enrollment.statusActive ∧
      manifest.status ≠ Enrollment.statusRevoked then
    some "reader status must be active or revoked"
  else none

theorem Manifest.controllerID_of_validate {manifest : Manifest} (h : manifest.validate = none) :
    canonicalUUIDv4 manifest.controllerID = true := by
  unfold Manifest.validate at h
  split at h
  · cases h
  · split at h
    · cases h
    · rename_i hcanonical
      exact Bool.not_eq_false _ |>.mp hcanonical

/-! ## The document -/

def maxSnapshotBytes : Nat := 2 * 1024 * 1024

def maxSnapshotGaps : Nat := 8192

structure SnapshotObservation where
  schemaVersion : Int
  machineID : Bytes
  daemonVersion : Bytes
  profile : Bytes
  sequence : Nat
  observedAt : Bytes
  receivedAt : Bytes
  gaps : List Gap
  health : HostHealth
  external : List ExternalReading
  deriving DecidableEq, Repr

structure SnapshotMachine where
  machineID : Bytes
  enrollmentStatus : Bytes
  observation : Option SnapshotObservation
  deriving DecidableEq, Repr

structure SnapshotDocument where
  schemaVersion : Int
  infrastructureID : Bytes
  controllerID : Bytes
  snapshotAt : Bytes
  machines : List SnapshotMachine
  deriving DecidableEq, Repr

def SnapshotObservation.fields (o : SnapshotObservation) : List (Bytes × Option Json) :=
  [(text "schema_version", some (Json.numeralInt o.schemaVersion)),
    (text "machine_id", some (Json.quoted true o.machineID)),
    (text "daemon_version", some (Json.quoted true o.daemonVersion)),
    (text "profile", some (Json.quoted true o.profile)),
    (text "sequence", some (Json.numeral o.sequence)),
    (text "observed_at", some (Json.quoted true o.observedAt)),
    (text "received_at", some (Json.quoted true o.receivedAt)),
    (text "gaps", some (.array (o.gaps.map Gap.json))),
    (text "health", some o.health.json),
    (text "external", omitNone ExternalReading.json o.external)]

def SnapshotObservation.json (o : SnapshotObservation) : Json := .object (Json.present o.fields)

/-- A machine of which nothing is held has `null` for its observation. -/
def SnapshotMachine.fields (m : SnapshotMachine) : List (Bytes × Option Json) :=
  [(text "machine_id", some (Json.quoted true m.machineID)),
    (text "enrollment_status", some (Json.quoted true m.enrollmentStatus)),
    (text "observation", some ((m.observation.map SnapshotObservation.json).getD .null))]

def SnapshotMachine.json (m : SnapshotMachine) : Json := .object (Json.present m.fields)

def SnapshotDocument.fields (d : SnapshotDocument) : List (Bytes × Option Json) :=
  [(text "schema_version", some (Json.numeralInt d.schemaVersion)),
    (text "infrastructure_id", some (Json.quoted true d.infrastructureID)),
    (text "controller_id", some (Json.quoted true d.controllerID)),
    (text "snapshot_at", some (Json.quoted true d.snapshotAt)),
    (text "machines", some (.array (d.machines.map SnapshotMachine.json)))]

def SnapshotDocument.encode (d : SnapshotDocument) : Bytes :=
  (Json.object (Json.present d.fields)).render

/-! ## Making it -/

/-- A range with its times in universal time. -/
def canonicalGap (gap : Gap) : Option Gap := do
  let first ← Rfc3339.parse gap.firstObservedAt
  let last ← Rfc3339.parse gap.lastObservedAt
  return { gap with
    firstObservedAt := Rfc3339.format first
    lastObservedAt := Rfc3339.format last }

def canonicalSnapshotObservation (stored : StoredObservation) :
    Except String SnapshotObservation :=
  match stored.envelope.validate with
  | some reason => .error reason
  | none =>
      match Rfc3339.parse stored.envelope.observedAt, Rfc3339.parse stored.receivedAt with
      | some observedAt, some receivedAt =>
          match stored.gaps.mapM canonicalGap with
          | none => .error "snapshot gap contains an invalid timestamp"
          | some gaps =>
              .ok
                { schemaVersion := stored.envelope.schemaVersion
                  machineID := stored.envelope.machineID
                  daemonVersion := stored.envelope.daemonVersion
                  profile := stored.envelope.profile
                  sequence := stored.envelope.sequence
                  observedAt := Rfc3339.format observedAt
                  receivedAt := Rfc3339.format receivedAt
                  gaps
                  health := stored.envelope.health
                  external := stored.envelope.external }
      | _, _ => .error "parsing time"

/-- The machines of the registry with what is held of them, after so many ranges. -/
def snapshotMachines (store : ObservationStore) :
    Nat → List Entry → Except String (List SnapshotMachine)
  | _, [] => .ok []
  | totalGaps, entry :: rest =>
      let machine : SnapshotMachine :=
        { machineID := entry.machineID, enrollmentStatus := entry.status, observation := none }
      match store entry.machineID with
      | none =>
          match snapshotMachines store totalGaps rest with
          | .error reason => .error reason
          | .ok machines => .ok (machine :: machines)
      | some stored =>
          match canonicalSnapshotObservation stored with
          | .error reason => .error reason
          | .ok view =>
              if maxSnapshotGaps < totalGaps + view.gaps.length then
                .error "snapshot contains too many gaps"
              else
                match snapshotMachines store (totalGaps + view.gaps.length) rest with
                | .error reason => .error reason
                | .ok machines => .ok ({ machine with observation := some view } :: machines)

def snapshotDocument (registry : Registry) (manifest : Manifest) (now : Instant)
    (machines : List SnapshotMachine) : SnapshotDocument :=
  { schemaVersion := 1
    infrastructureID := registry.infrastructureID
    controllerID := manifest.controllerID
    snapshotAt := Rfc3339.format now
    machines }

/-- The document a reader is answered with. -/
def snapshot (registry : Registry) (manifest : Manifest) (store : ObservationStore)
    (now : Instant) : Except String Bytes :=
  if registry.readerReady = false then .error "snapshot authorities are unavailable"
  else if registry.infrastructureID ≠ manifest.infrastructureID then
    .error "snapshot infrastructure identities diverge"
  else
    match snapshotMachines store 0 registry.machines with
    | .error reason => .error reason
    | .ok machines =>
        let document := snapshotDocument registry manifest now
          (machines.insertionSort fun left right => left.machineID ≤ right.machineID)
        if maxSnapshotBytes < document.encode.length then
          .error "snapshot cannot be encoded within its bound"
        else .ok document.encode

/-! ## What is served -/

/-- What a document says of one machine of the registry. -/
inductive Shows (store : ObservationStore) (entry : Entry) : SnapshotMachine → Prop where
  | unseen (h : store entry.machineID = none) :
      Shows store entry
        { machineID := entry.machineID, enrollmentStatus := entry.status, observation := none }
  | seen {stored : StoredObservation} {view : SnapshotObservation}
      (h : store entry.machineID = some stored)
      (hview : canonicalSnapshotObservation stored = .ok view) :
      Shows store entry
        { machineID := entry.machineID, enrollmentStatus := entry.status,
          observation := some view }

theorem Shows.machineID {store : ObservationStore} {entry : Entry} {machine : SnapshotMachine}
    (h : Shows store entry machine) : machine.machineID = entry.machineID := by
  cases h with
  | unseen h => rfl
  | seen h hview => rfl

/-- The ranges of some machines. -/
def gapCount (machines : List SnapshotMachine) : Nat :=
  (machines.map fun m => ((m.observation.map SnapshotObservation.gaps).getD []).length).sum

theorem snapshotMachines_ok {store : ObservationStore} {totalGaps : Nat} {entries : List Entry}
    {machines : List SnapshotMachine} (htotal : totalGaps ≤ maxSnapshotGaps)
    (h : snapshotMachines store totalGaps entries = .ok machines) :
    List.Forall₂ (Shows store) entries machines ∧
      totalGaps + gapCount machines ≤ maxSnapshotGaps := by
  induction entries generalizing totalGaps machines with
  | nil =>
      rw [← Except.ok.inj h]
      exact ⟨List.Forall₂.nil, htotal⟩
  | cons entry rest ih =>
      unfold snapshotMachines at h
      dsimp only at h
      split at h
      · rename_i hstore
        split at h
        · cases h
        · rename_i machines' hrest
          obtain ⟨hshows, hcount⟩ := ih htotal hrest
          rw [← Except.ok.inj h]
          refine ⟨List.Forall₂.cons (.unseen hstore) hshows, ?_⟩
          simpa [gapCount] using hcount
      · rename_i stored hstore
        split at h
        · cases h
        · rename_i view hview
          split at h
          · cases h
          · rename_i hbound
            split at h
            · cases h
            · rename_i machines' hrest
              obtain ⟨hshows, hcount⟩ := ih (not_lt.1 hbound) hrest
              rw [← Except.ok.inj h]
              refine ⟨List.Forall₂.cons (.seen hstore hview) hshows, ?_⟩
              simpa [gapCount, Nat.add_assoc] using hcount

/-- The machines shown are those of the registry, in its order. -/
theorem shown_names {store : ObservationStore} {entries : List Entry}
    {machines : List SnapshotMachine} (h : List.Forall₂ (Shows store) entries machines) :
    machines.map SnapshotMachine.machineID = entries.map Entry.machineID := by
  induction h with
  | nil => rfl
  | cons hshows hrest ih => rw [List.map_cons, List.map_cons, hshows.machineID, ih]

theorem shown_sorted {store : ObservationStore} {registry : Registry}
    {machines : List SnapshotMachine} (hregistry : registry.Admitted)
    (h : List.Forall₂ (Shows store) registry.machines machines) :
    machines.Pairwise fun left right => left.machineID < right.machineID := by
  have hsorted : (registry.machines.map Entry.machineID).Pairwise (· < ·) :=
    List.pairwise_map.2 hregistry.sorted
  rw [← shown_names h] at hsorted
  exact List.pairwise_map.1 hsorted

/-- A document that is served shows the machines of its registry. -/
theorem snapshot_ok {registry : Registry} {manifest : Manifest} {store : ObservationStore}
    {now : Instant} {data : Bytes} (hregistry : registry.Admitted)
    (h : snapshot registry manifest store now = .ok data) :
    registry.readerReady = true ∧ registry.infrastructureID = manifest.infrastructureID ∧
      data.length ≤ maxSnapshotBytes ∧
      ∃ machines, List.Forall₂ (Shows store) registry.machines machines ∧
        gapCount machines ≤ maxSnapshotGaps ∧
        data = (snapshotDocument registry manifest now machines).encode := by
  unfold snapshot at h
  split at h
  · cases h
  · rename_i hready
    split at h
    · cases h
    · rename_i hid
      split at h
      · cases h
      · rename_i machines hmachines
        obtain ⟨hshows, hcount⟩ := snapshotMachines_ok (Nat.zero_le _) hmachines
        have hsort : (machines.insertionSort fun left right =>
            left.machineID ≤ right.machineID) = machines := by
          apply List.Pairwise.insertionSort_eq
          exact (shown_sorted hregistry hshows).imp fun h => List.le_of_lt h
        dsimp only at h
        rw [hsort] at h
        split at h
        · cases h
        · rename_i hlength
          cases h
          exact ⟨Bool.not_eq_false _ |>.mp hready, not_not.1 hid, not_lt.1 hlength, machines,
            hshows, by omega, rfl⟩

end YourCloud.Relay
