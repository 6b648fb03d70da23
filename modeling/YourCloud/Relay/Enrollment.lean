import Mathlib.Data.List.Sort
import YourCloud.Approval.Envelope
import YourCloud.Foundation.Table
import YourCloud.Observation.Envelope

/-!
# The enrollment registry

The registry names the machines an infrastructure knows, each with the one
certificate it may come under.  It is replaced as a whole: a new one is read
strictly, checked and sorted, and takes the place of the old one only where it
forgets no machine, reuses no certificate and takes back no revocation.

## Main results

* `Registry.admitted_of_validate` — what a checked registry satisfies.
* `reload_keeps`, `Follows.trans` — what any number of replacements keeps.
-/

namespace YourCloud.Enrollment

open YourCloud.Foundation
open YourCloud.Approval (canonicalUUIDv4)
open YourCloud.Observation (validateMachineID)

/-! ## Data -/

/-- The schema without an infrastructure, which ingestion accepts. -/
def schemaVersionV1 : Int := 1

/-- The schema required before the reader opens. -/
def schemaVersion : Int := 2

/-- Bounds the document. -/
def maxRegistryBytes : Nat := 16 * 1024

def statusActive : Bytes := text "active"

def statusRevoked : Bytes := text "revoked"

/-- One machine, and the one certificate it comes under. -/
structure Entry where
  machineID : Bytes
  certificateSerial : Bytes
  certificateSHA256 : Bytes
  status : Bytes
  deriving DecidableEq, Repr

structure Registry where
  schema : Int
  infrastructureID : Bytes
  machines : List Entry
  deriving DecidableEq, Repr

/-- An error, with the machine it names if it names one. -/
structure Problem where
  machine : Option Bytes
  reason : String
  deriving DecidableEq, Repr

/-- The entry of a machine. -/
def Registry.entry (registry : Registry) (machine : Bytes) : Option Entry :=
  Table.find Entry.machineID machine registry.machines

/-! ## Checks -/

/-- `^[0-9a-f]{1,64}$` -/
def hexSerialPattern (value : Bytes) : Bool :=
  1 ≤ value.length && value.length ≤ 64 && value.all isLowerHex

/-- `^[0-9a-f]{64}$` -/
def hexFingerprintPattern (value : Bytes) : Bool := exactly 64 isLowerHex value

def validateEntry (entry : Entry) : Option String :=
  match validateMachineID entry.machineID with
  | some reason => some reason
  | none =>
      if hexSerialPattern entry.certificateSerial = false then
        some "certificate_serial must be canonical lower-case hexadecimal"
      else if hexFingerprintPattern entry.certificateSHA256 = false then
        some "certificate_sha256 must be 64 lower-case hexadecimal characters"
      else if entry.status ≠ statusActive ∧ entry.status ≠ statusRevoked then
        some "status must be active or revoked"
      else none

/-- The entries beside those that were seen. -/
def validateEntries (seen : List Bytes) : List Entry → Option Problem
  | [] => none
  | entry :: rest =>
      match validateEntry entry with
      | some reason => some { machine := some entry.machineID, reason }
      | none =>
          if entry.machineID ∈ seen then
            some { machine := some entry.machineID, reason := "is duplicated" }
          else validateEntries (entry.machineID :: seen) rest

def Registry.validateSchema (registry : Registry) : Option String :=
  if registry.schema ≠ schemaVersionV1 ∧ registry.schema ≠ schemaVersion then
    some "unsupported enrollment registry schema"
  else if registry.schema = schemaVersionV1 then
    if registry.infrastructureID ≠ [] then
      some "schema 1 enrollment registry cannot contain infrastructure_id"
    else if registry.machines.length = 0 ∨ 64 < registry.machines.length then
      some "schema 1 enrollment registry must contain 1..64 machines"
    else none
  else if canonicalUUIDv4 registry.infrastructureID = false then
    some "infrastructure_id: identifier must be a canonical lower-case UUIDv4"
  else if 64 < registry.machines.length then
    some "schema 2 enrollment registry must contain 0..64 machines"
  else none

/-- The registry with its machines in order, or what is wrong with it. -/
def Registry.validate (registry : Registry) : Except Problem Registry :=
  match registry.validateSchema with
  | some reason => .error { machine := none, reason }
  | none =>
      match validateEntries [] registry.machines with
      | some problem => .error problem
      | none =>
          .ok { registry with
            machines := registry.machines.insertionSort fun left right =>
              left.machineID ≤ right.machineID }

def Registry.readerReady (registry : Registry) : Bool := registry.schema = schemaVersion

/-! ## Reading -/

def entryFields : List Bytes :=
  [text "machine_id", text "certificate_serial", text "certificate_sha256", text "status"]

def Entry.read (j : Json) : Option Entry := do
  let ms ← j.members entryFields
  let machineID ← (Json.field ms (text "machine_id")).readString
  let certificateSerial ← (Json.field ms (text "certificate_serial")).readString
  let certificateSHA256 ← (Json.field ms (text "certificate_sha256")).readString
  let status ← (Json.field ms (text "status")).readString
  return { machineID, certificateSerial, certificateSHA256, status }

def registryFields : List Bytes := [text "schema", text "infrastructure_id", text "machines"]

def Registry.read (j : Json) : Option Registry := do
  let ms ← j.members registryFields
  let schema ← (Json.field ms (text "schema")).readInt
  let infrastructureID ← (Json.field ms (text "infrastructure_id")).readString
  let machines ← (Json.field ms (text "machines")).readArray Entry.read
  return { schema, infrastructureID, machines }

/-- The registry of a document. -/
def decode (data : Bytes) : Except Problem Registry :=
  if data.length = 0 ∨ maxRegistryBytes < data.length then
    .error { machine := none, reason := "enrollment registry size is outside the allowed range" }
  else
    match Json.decode Registry.read data with
    | none => .error { machine := none, reason := "decode enrollment registry" }
    | some registry => registry.validate

/-! ## Replacement -/

/-- What a new registry does to the entry of a machine; the machines are gone
through in no fixed order. -/
def allowsEntry (candidate : Registry) (current : Entry) : Option Problem :=
  match candidate.entry current.machineID with
  | none => some { machine := some current.machineID, reason := "cannot be removed" }
  | some next =>
      if current.certificateSerial ≠ next.certificateSerial ∨
          current.certificateSHA256 ≠ next.certificateSHA256 then
        some { machine := some current.machineID,
               reason := "certificate identity cannot be reused" }
      else if current.status = statusRevoked ∧ next.status ≠ statusRevoked then
        some { machine := some current.machineID, reason := "cannot be reactivated" }
      else none

/-- Refuses deletion, reuse and the return of a revoked machine. -/
def Registry.allowsTransition (registry candidate : Registry) : Option Problem :=
  if registry.schema = schemaVersion ∧ candidate.schema ≠ schemaVersion then
    some { machine := none, reason := "enrollment registry cannot return to schema 1" }
  else if registry.schema = schemaVersion ∧
      registry.infrastructureID ≠ candidate.infrastructureID then
    some { machine := none, reason := "infrastructure_id is immutable" }
  else registry.machines.findSome? (allowsEntry candidate)

/-- The registry in force after a document was read in its place; what is
refused leaves the old one in force. -/
def reload (data : Bytes) (registry : Registry) : Except Problem Unit × Registry :=
  match decode data with
  | .error problem => (.error problem, registry)
  | .ok candidate =>
      match registry.allowsTransition candidate with
      | some problem => (.error problem, registry)
      | none => (.ok (), candidate)

/-! ## What a checked registry satisfies -/

structure Registry.Admitted (registry : Registry) : Prop where
  count : registry.machines.length ≤ 64
  infrastructureID : registry.readerReady = true → canonicalUUIDv4 registry.infrastructureID = true
  sorted : registry.machines.Pairwise fun left right => left.machineID < right.machineID
  entries : ∀ entry ∈ registry.machines, validateEntry entry = none

/-- A machine has one entry. -/
theorem Registry.Admitted.unique {registry : Registry} (h : registry.Admitted) {a b : Entry}
    (ha : a ∈ registry.machines) (hb : b ∈ registry.machines)
    (heq : a.machineID = b.machineID) : a = b := by
  have hne : (registry.machines.map Entry.machineID).Nodup := by
    refine List.pairwise_map.2 (h.sorted.imp fun {left right} hlt heq => ?_)
    rw [heq] at hlt
    exact List.lt_irrefl _ hlt
  exact List.inj_on_of_nodup_map hne ha hb heq

theorem validateEntries_ok {seen : List Bytes} {entries : List Entry}
    (h : validateEntries seen entries = none) :
    (∀ entry ∈ entries, validateEntry entry = none ∧ entry.machineID ∉ seen) ∧
      (entries.map Entry.machineID).Nodup := by
  induction entries generalizing seen with
  | nil => exact ⟨fun entry hentry => absurd hentry List.not_mem_nil, List.nodup_nil⟩
  | cons entry rest ih =>
      unfold validateEntries at h
      split at h
      · cases h
      · rename_i hvalid
        split at h
        · cases h
        · rename_i hseen
          obtain ⟨hrest, hnodup⟩ := ih h
          constructor
          · intro other hother
            rcases List.mem_cons.1 hother with rfl | hother
            · exact ⟨hvalid, hseen⟩
            · exact ⟨(hrest other hother).1, fun hmem =>
                (hrest other hother).2 (List.mem_cons_of_mem _ hmem)⟩
          · refine List.nodup_cons.2 ⟨fun hmem => ?_, hnodup⟩
            obtain ⟨other, hother, heq⟩ := List.mem_map.1 hmem
            exact (hrest other hother).2 (heq ▸ List.mem_cons_self)

theorem validateEntry_ok {entry : Entry} (h : validateEntry entry = none) :
    validateMachineID entry.machineID = none ∧
      (entry.status = statusActive ∨ entry.status = statusRevoked) := by
  unfold validateEntry at h
  split at h
  · cases h
  · rename_i hmachine
    refine ⟨hmachine, ?_⟩
    split at h
    · cases h
    · split at h
      · cases h
      · split at h
        · cases h
        · rename_i hstatus
          by_contra hnot
          exact hstatus (not_or.1 hnot)

theorem validateSchema_ok {registry : Registry} (h : registry.validateSchema = none) :
    registry.machines.length ≤ 64 ∧
      (registry.readerReady = true → canonicalUUIDv4 registry.infrastructureID = true) := by
  unfold Registry.validateSchema at h
  unfold Registry.readerReady
  split at h
  · cases h
  · split at h
    · rename_i hv1
      split at h
      · cases h
      · split at h
        · cases h
        · rename_i hcount
          rw [hv1]
          exact ⟨by omega, fun hready => absurd hready (by decide)⟩
    · split at h
      · cases h
      · rename_i hcanonical
        split at h
        · cases h
        · rename_i hcount
          exact ⟨not_lt.1 hcount, fun _ => Bool.not_eq_false _ |>.mp hcanonical⟩

private theorem pairwise_sorted (entries : List Entry) :
    (entries.insertionSort fun left right => left.machineID ≤ right.machineID).Pairwise
      fun left right => left.machineID ≤ right.machineID := by
  have : Std.Total fun left right : Entry => left.machineID ≤ right.machineID :=
    ⟨fun left right => List.le_total left.machineID right.machineID⟩
  have : IsTrans Entry fun left right => left.machineID ≤ right.machineID :=
    ⟨fun _ _ _ => List.le_trans⟩
  exact List.pairwise_insertionSort _ entries

private theorem lt_of_le_of_ne {left right : Bytes} (hle : left ≤ right) (hne : left ≠ right) :
    left < right := by
  rcases List.le_iff_lt_or_eq.1 hle with hlt | heq
  · exact hlt
  · exact absurd heq hne

theorem Registry.admitted_of_validate {registry checked : Registry}
    (h : registry.validate = .ok checked) : checked.Admitted := by
  unfold Registry.validate at h
  split at h
  · cases h
  · rename_i hschema
    split at h
    · cases h
    · rename_i hentries
      rw [← Except.ok.inj h]
      obtain ⟨hcount, hready⟩ := validateSchema_ok hschema
      obtain ⟨hvalid, hnodup⟩ := validateEntries_ok hentries
      have hperm := List.perm_insertionSort
        (fun left right : Entry => left.machineID ≤ right.machineID) registry.machines
      constructor
      · show (registry.machines.insertionSort _).length ≤ 64
        rw [List.length_insertionSort]
        exact hcount
      · exact hready
      · have hle : (registry.machines.insertionSort fun left right =>
            left.machineID ≤ right.machineID).Pairwise fun left right =>
              left.machineID ≤ right.machineID := pairwise_sorted registry.machines
        have hne : ((registry.machines.insertionSort fun left right =>
            left.machineID ≤ right.machineID).map Entry.machineID).Nodup :=
          (hperm.map _).nodup_iff.2 hnodup
        exact (hle.and (List.pairwise_map.1 hne)).imp fun h => lt_of_le_of_ne h.1 h.2
      · exact fun entry hentry => (hvalid entry (hperm.subset hentry)).1

/-! ## What replacements keep -/

/-- A registry and one that may stand in its place. -/
structure Follows (current next : Registry) : Prop where
  readerReady : current.readerReady = true →
    next.readerReady = true ∧ next.infrastructureID = current.infrastructureID
  entries : ∀ entry ∈ current.machines, ∃ other ∈ next.machines,
    other.machineID = entry.machineID ∧ other.certificateSerial = entry.certificateSerial ∧
      other.certificateSHA256 = entry.certificateSHA256 ∧
      (entry.status = statusRevoked → other.status = statusRevoked)

theorem Follows.refl (registry : Registry) : Follows registry registry :=
  ⟨fun hready => ⟨hready, rfl⟩, fun entry hentry => ⟨entry, hentry, rfl, rfl, rfl, id⟩⟩

theorem Follows.trans {first second third : Registry} (h : Follows first second)
    (h' : Follows second third) : Follows first third := by
  constructor
  · intro hready
    obtain ⟨hsecond, hid⟩ := h.readerReady hready
    obtain ⟨hthird, hid'⟩ := h'.readerReady hsecond
    exact ⟨hthird, hid'.trans hid⟩
  · intro entry hentry
    obtain ⟨next, hnext, hmachine, hserial, hdigest, hrevoked⟩ := h.entries entry hentry
    obtain ⟨last, hlast, hmachine', hserial', hdigest', hrevoked'⟩ := h'.entries next hnext
    exact ⟨last, hlast, hmachine'.trans hmachine, hserial'.trans hserial, hdigest'.trans hdigest,
      fun hstatus => hrevoked' (hrevoked hstatus)⟩

theorem allowsEntry_ok {candidate : Registry} {current : Entry}
    (h : allowsEntry candidate current = none) :
    ∃ other ∈ candidate.machines, other.machineID = current.machineID ∧
      other.certificateSerial = current.certificateSerial ∧
      other.certificateSHA256 = current.certificateSHA256 ∧
      (current.status = statusRevoked → other.status = statusRevoked) := by
  unfold allowsEntry at h
  split at h
  · cases h
  · rename_i next hnext
    split at h
    · cases h
    · rename_i hpinned
      rw [not_or, not_not, not_not] at hpinned
      split at h
      · cases h
      · rename_i hstatus
        exact ⟨next, Table.find_mem hnext, Table.find_key hnext, hpinned.1.symm, hpinned.2.symm,
          fun hrevoked => not_not.1 fun hne => hstatus ⟨hrevoked, hne⟩⟩

theorem follows_of_allowsTransition {registry candidate : Registry}
    (h : registry.allowsTransition candidate = none) : Follows registry candidate := by
  unfold Registry.allowsTransition at h
  split at h
  · cases h
  · rename_i hschema
    split at h
    · cases h
    · rename_i hid
      constructor
      · intro hready
        have hready := of_decide_eq_true hready
        have hnext := not_not.1 fun hne => hschema ⟨hready, hne⟩
        exact ⟨decide_eq_true hnext, (not_not.1 fun hne => hid ⟨hready, hne⟩).symm⟩
      · rw [List.findSome?_eq_none_iff] at h
        exact fun entry hentry => allowsEntry_ok (h entry hentry)

theorem decode_admitted {data : Bytes} {registry : Registry} (h : decode data = .ok registry) :
    registry.Admitted := by
  unfold decode at h
  split at h
  · cases h
  · split at h
    · cases h
    · exact Registry.admitted_of_validate h

/-- What a document leaves in force. -/
theorem reload_keeps (data : Bytes) {registry : Registry} (h : registry.Admitted) :
    (reload data registry).2.Admitted ∧ Follows registry (reload data registry).2 := by
  unfold reload
  split
  · exact ⟨h, Follows.refl registry⟩
  · rename_i candidate hdecode
    split
    · exact ⟨h, Follows.refl registry⟩
    · rename_i hallowed
      exact ⟨decode_admitted hdecode, follows_of_allowsTransition hallowed⟩

end YourCloud.Enrollment
