import YourCloud.Foundation.Table
import YourCloud.Relay.Retained

/-!
# The Relay's state file

The Relay publishes its whole store as one file, by a temporary file and a
rename, and checks the file again when it starts.  What it checks there is not
what it checked when it accepted the messages: the ranges of a message are
checked one by one before they are joined, and the joined range is checked for
the first time after a restart.  It lies about its times where the pieces were
not observed in their order, and then the whole store is refused.

A write may stop before or after the rename took place, by an error or with the
process, so the file may be ahead of the memory.

## Main results

* `StoreState.decode_encode` — a published store is read back.
* `step_sound` — a message whose ranges were observed in order keeps the file
  one that is accepted.
* `restarts` — after any such run the Relay starts from its file.
* `out_of_order` — two pieces observed out of order prevent the next start.
-/

namespace YourCloud.Relay

open YourCloud.Foundation YourCloud.Observation

/-! ## Data -/

def observationStoreSchema : Int := 1

def maxObservationStoreBytes : Nat := 1024 * 1024

/-- The entry of a machine, as the file holds it. -/
structure StoredEntry where
  sequence : Nat
  sha256 : Bytes
  receivedAt : Bytes
  envelope : Envelope
  gaps : Slice Gap
  deriving DecidableEq, Repr

/-- The entry, whether or not its ranges were ever allocated. -/
def StoredEntry.view (e : StoredEntry) : StoredObservation :=
  { sequence := e.sequence, sha256 := e.sha256, receivedAt := e.receivedAt, envelope := e.envelope,
    gaps := e.gaps.items }

/-- The entries of the machines, one for each. -/
abbrev Machines := List (Bytes × StoredEntry)

structure StoreState where
  schema : Int
  machines : Option Machines
  deriving DecidableEq, Repr

def StoreState.entries (s : StoreState) : Machines := s.machines.getD []

def StoreState.find (s : StoreState) (machine : Bytes) : Option StoredEntry :=
  (Table.find Prod.fst machine s.entries).map Prod.snd

/-! ## Writing -/

def StoredEntry.fields (e : StoredEntry) : List (Bytes × Option Json) :=
  [(text "sequence", some (Json.numeral e.sequence)),
    (text "sha256", some (Json.quoted true e.sha256)),
    (text "received_at", some (Json.quoted true e.receivedAt)),
    (text "envelope", some e.envelope.json),
    (text "gaps", some (Slice.json Gap.json e.gaps))]

def StoredEntry.json (e : StoredEntry) : Json := .object (Json.present e.fields)

/-- The entries in the order of their machines. -/
def sortedMachines (machines : Machines) : Machines :=
  machines.insertionSort fun left right => left.1 ≤ right.1

/-- A table is written in the order of its keys. -/
def machinesJson : Option Machines → Json
  | none => .null
  | some machines =>
      .object ((sortedMachines machines).map fun m => (quote true m.1, m.2.json))

def StoreState.fields (s : StoreState) : List (Bytes × Option Json) :=
  [(text "schema", some (Json.numeralInt s.schema)),
    (text "machines", some (machinesJson s.machines))]

def StoreState.encode (s : StoreState) : Bytes := (Json.object (Json.present s.fields)).render

/-! ## Reading -/

def entryFields : List Bytes :=
  [text "sequence", text "sha256", text "received_at", text "envelope", text "gaps"]

def StoredEntry.read (j : Json) : Option StoredEntry := do
  let ms ← j.members entryFields
  let sequence ← (Json.field ms (text "sequence")).readUint64
  let sha256 ← (Json.field ms (text "sha256")).readString
  let receivedAt ← (Json.field ms (text "received_at")).readString
  let envelope ← Envelope.read (Json.field ms (text "envelope"))
  let gaps ← Slice.read Gap.read (Json.field ms (text "gaps"))
  return { sequence, sha256, receivedAt, envelope, gaps }

def readMachines : Json → Option (Option Machines)
  | .null => some none
  | .object ms => (ms.mapM fun m => (StoredEntry.read m.2).map fun e => (unquote m.1, e)).map some
  | _ => none

def storeFields : List Bytes := [text "schema", text "machines"]

def StoreState.read (j : Json) : Option StoreState := do
  let ms ← j.members storeFields
  let schema ← (Json.field ms (text "schema")).readInt
  let machines ← readMachines (Json.field ms (text "machines"))
  return { schema, machines }

/-! ## Checks -/

/-- The first error of an entry under its machine. -/
def validateEntry (machine : Bytes) (stored : StoredEntry) : Option String :=
  if stored.envelope.machineID ≠ machine ∨ stored.sequence ≠ stored.envelope.sequence then
    some "Relay observation store identity or sequence is inconsistent"
  else
    match stored.envelope.validate with
    | some reason => some ("Relay observation store contains an invalid envelope: " ++ reason)
    | none =>
        if stored.sha256.length ≠ 64 then
          some "Relay observation store contains an invalid digest"
        else if stored.gaps.items.any fun gap => (Gap.validate gap).isSome then
          some "Relay observation store contains an invalid retained gap"
        else if (Rfc3339.parse stored.receivedAt).isNone then
          some "Relay observation store contains an invalid reception time"
        else none

/-- An error of a loaded store; the entries are checked in no fixed order. -/
def StoreState.validate (s : StoreState) : Option String :=
  if s.schema ≠ observationStoreSchema ∨ s.machines = none ∨ 64 < s.entries.length then
    some "Relay observation store has an unsupported schema or size"
  else s.entries.findSome? fun m => validateEntry m.1 m.2

/-- The store of a file within the bound. -/
def readObservationStore (file : Bytes) : Except String StoreState :=
  if file.length = 0 ∨ maxObservationStoreBytes < file.length then
    .error "Relay observation store has unsafe type, mode or size"
  else
    match Json.decode StoreState.read file with
    | none => .error "decode Relay observation store"
    | some loaded => .ok loaded

/-! ## Publication -/

/-- A Relay: its store while it runs, and its state file. -/
structure Held where
  state : Option StoreState
  file : Option Bytes
  deriving DecidableEq, Repr

/-- Makes a candidate visible after its complete publication. -/
def commit (write : Write) (candidate : StoreState) (h : Held) : Except String Unit × Held :=
  if maxObservationStoreBytes < candidate.encode.length then
    (.error "Relay observation store exceeds its maximum size", h)
  else
    match write with
    | .done => (.ok (), { state := some candidate, file := some candidate.encode })
    | .fails renamed =>
        (.error "publish Relay observation store",
          { h with file := if renamed then some candidate.encode else h.file })
    | .dies renamed =>
        (.error "publish Relay observation store",
          { state := none, file := if renamed then some candidate.encode else h.file })

/-- The store of a Relay that starts. -/
def openObservationStore (write : Write) (h : Held) : Except String Unit × Held :=
  match h.file with
  | none =>
      commit write { schema := observationStoreSchema, machines := some [] } { h with state := none }
  | some file =>
      match readObservationStore file with
      | .error reason => (.error reason, { h with state := none })
      | .ok loaded =>
          match loaded.validate with
          | some reason => (.error reason, { h with state := none })
          | none => (.ok (), { h with state := some loaded })

/-- The copy of a store that a candidate is made of: ranges that are none were
never allocated. -/
def cloneObservationStoreState (s : StoreState) : Machines :=
  s.entries.map fun m => (m.1, { m.2 with gaps := Slice.fresh m.2.gaps.items })

/-- The candidate with the entry of a new message. -/
def receivedState (machine encoded : Bytes) (receivedAt : Instant) (envelope : Envelope)
    (s : StoreState) : StoreState :=
  let entry := received encoded receivedAt envelope ((s.find machine).map StoredEntry.view)
  { s with
    machines := some (Table.put Prod.fst
      (machine, { sequence := entry.sequence, sha256 := entry.sha256,
                  receivedAt := entry.receivedAt, envelope := entry.envelope,
                  gaps := some entry.gaps })
      (cloneObservationStoreState s)) }

/-- Accepts a message for the machine of the certificate it came under. -/
def saveObservation (machine encoded : Bytes) (receivedAt : Instant) (write : Write) (h : Held) :
    Except String (Envelope × Bool) × Held :=
  match h.state with
  | none => (.error "the Relay is not running", h)
  | some s =>
      match decode encoded with
      | .error reason => (.error reason, h)
      | .ok envelope =>
          if envelope.machineID ≠ machine then (.error Refusal.otherMachine.message, h)
          else
            let current := (s.find machine).map StoredEntry.view
            match compareSequence envelope encoded current with
            | .error refusal => (.error refusal.message, h)
            | .ok true => (.ok (envelope, true), h)
            | .ok false =>
                if gapsMatchSkippedRange envelope.gaps (firstSkipped current)
                    (envelope.sequence - 1) = false then
                  (.error Refusal.gaps.message, h)
                else
                  match commit write (receivedState machine encoded receivedAt envelope s) h with
                  | (.error reason, h) => (.error reason, h)
                  | (.ok (), h) => (.ok (envelope, false), h)

/-! ## What is published is read back -/

structure StoredEntry.Representable (e : StoredEntry) : Prop where
  sequence : e.sequence < 2 ^ 64
  sha256 : Valid e.sha256
  receivedAt : Valid e.receivedAt
  envelope : e.envelope.Representable
  gaps : ∀ gap ∈ e.gaps.items, gap.Representable

private theorem entry_names : Json.Names entryFields := Json.Names.of_check (by decide)

private theorem store_names : Json.Names storeFields := Json.Names.of_check (by decide)

theorem StoredEntry.read_json {e : StoredEntry} (h : e.Representable) :
    StoredEntry.read e.json = some e := by
  refine Json.bind_read (Json.members_present entryFields rfl entry_names) ?_
  refine Json.bind_read (Json.read_written entry_names rfl
    (Json.readUint64_numeral h.sequence) rfl) ?_
  refine Json.bind_read (Json.read_written entry_names rfl
    (Json.readString_quoted_valid true h.sha256) rfl) ?_
  refine Json.bind_read (Json.read_written entry_names rfl
    (Json.readString_quoted_valid true h.receivedAt) rfl) ?_
  refine Json.bind_read (Json.read_written entry_names rfl
    (Envelope.read_json h.envelope) rfl) ?_
  exact Json.bind_read (Json.read_written entry_names rfl
    (Slice.read_json fun gap hgap => Gap.read_json (h.gaps gap hgap)) rfl) rfl

private theorem StoredEntry.sound_json (e : StoredEntry) : Json.Sound (some e.json) := by
  have gaps : Json.Sound (some (Slice.json Gap.json e.gaps)) :=
    Slice.sound_json fun gap _ => gap.sound_json
  have fields : ∀ f ∈ e.fields, Json.Sound f.2 := by
    simp only [StoredEntry.fields, List.forall_mem_cons, List.not_mem_nil, false_implies,
      implies_true, Json.sound_numeral, Json.sound_quoted, Envelope.sound_json, gaps, and_self]
  obtain ⟨hwellFormed, hdistinct⟩ := Json.sound_present entryFields rfl entry_names fields
  exact Json.sound_some hwellFormed hdistinct

structure StoreState.Representable (s : StoreState) : Prop where
  schema : -2 ^ 63 ≤ s.schema ∧ s.schema < 2 ^ 63
  machines : ∀ m ∈ s.entries, Valid m.1 ∧ m.2.Representable
  distinct : (s.entries.map Prod.fst).Nodup

/-- The store with its entries in order. -/
def StoreState.sorted (s : StoreState) : StoreState :=
  { s with machines := s.machines.map sortedMachines }

theorem sortedMachines_perm (machines : Machines) : (sortedMachines machines).Perm machines :=
  List.perm_insertionSort _ machines

theorem StoreState.sorted_perm (s : StoreState) : s.sorted.entries.Perm s.entries := by
  unfold StoreState.entries StoreState.sorted
  cases s.machines with
  | none => exact List.Perm.refl _
  | some machines => exact sortedMachines_perm machines

private theorem readMachines_json {machines : Option Machines}
    (h : ∀ m ∈ machines.getD [], Valid m.1 ∧ m.2.Representable) :
    readMachines (machinesJson machines) = some (machines.map sortedMachines) := by
  cases machines with
  | none => rfl
  | some machines =>
      have hread : ∀ (ms : Machines), (∀ m ∈ ms, Valid m.1 ∧ m.2.Representable) →
          (ms.map fun m => (quote true m.1, m.2.json)).mapM
            (fun m : Bytes × Json => (StoredEntry.read m.2).map fun e => (unquote m.1, e)) =
          some ms := by
        intro ms hms
        induction ms with
        | nil => rfl
        | cons m ms ih =>
            obtain ⟨hname, hentry⟩ := hms m List.mem_cons_self
            rw [List.map_cons, List.mapM_cons, StoredEntry.read_json hentry,
              ih fun k hk => hms k (List.mem_cons_of_mem _ hk), unquote_quote_valid true hname]
            rfl
      show ((_ : Option Machines).map some) = _
      rw [hread _ fun m hm => h m ((sortedMachines_perm machines).subset hm)]
      rfl

private theorem sound_machines {machines : Option Machines}
    (hvalid : ∀ m ∈ machines.getD [], Valid m.1)
    (hdistinct : ((machines.getD []).map Prod.fst).Nodup) :
    Json.Sound (some (machinesJson machines)) := by
  cases machines with
  | none => exact Json.sound_some trivial rfl
  | some machines =>
      have hperm := sortedMachines_perm machines
      have hnames : ((sortedMachines machines).map fun m => (quote true m.1, m.2.json)).map
          Prod.fst = (sortedMachines machines).map fun m => quote true m.1 := by
        rw [List.map_map]
        rfl
      apply Json.sound_some
      · apply Json.wellFormed_object
        intro m hm
        obtain ⟨k, -, rfl⟩ := List.mem_map.1 hm
        exact ⟨spelled_quote true k.1, (k.2.sound_json _ rfl).1⟩
      · apply Json.distinct_object _ hnames
        · have hkeys : ((sortedMachines machines).map fun m => quote true m.1).map unquote =
              (sortedMachines machines).map Prod.fst := by
            rw [List.map_map]
            apply List.map_congr_left
            intro m hm
            exact unquote_quote_valid true (hvalid m (hperm.subset hm))
          rw [hkeys]
          exact (hperm.map Prod.fst).nodup_iff.2 hdistinct
        · intro m hm
          obtain ⟨k, -, rfl⟩ := List.mem_map.1 hm
          exact (k.2.sound_json _ rfl).2

/-- A published store is loaded as it was, its entries in order. -/
theorem StoreState.decode_encode {s : StoreState} (h : s.Representable)
    (hlength : s.encode.length ≤ maxObservationStoreBytes) :
    readObservationStore s.encode = .ok s.sorted := by
  have hempty : s.encode.length ≠ 0 := by
    rw [StoreState.encode, Json.render]
    simp
  have hsound : ∀ f ∈ s.fields, Json.Sound f.2 := by
    have machines := sound_machines (fun m hm => (h.machines m hm).1) h.distinct
    simp only [StoreState.fields, List.forall_mem_cons, List.not_mem_nil, false_implies,
      implies_true, Json.sound_numeralInt, machines, and_self]
  have hread : StoreState.read (.object (Json.present s.fields)) = some s.sorted := by
    refine Json.bind_read (Json.members_present storeFields rfl store_names) ?_
    refine Json.bind_read (Json.read_written store_names rfl
      (Json.readInt_numeralInt h.schema.1 h.schema.2) rfl) ?_
    exact Json.bind_read (Json.read_written store_names rfl
      (readMachines_json h.machines) rfl) rfl
  have hdecode := Json.decode_present StoreState.read storeFields rfl store_names hsound
    (w := []) rfl
  rw [List.append_nil] at hdecode
  rw [readObservationStore, if_neg (by omega), StoreState.encode, hdecode, hread]

/-! ## Entries that are accepted again -/

/-- What an entry made by a message satisfies. -/
structure Proper (machine : Bytes) (e : StoredEntry) : Prop where
  machine : e.envelope.machineID = machine
  sequence : e.sequence = e.envelope.sequence
  valid : e.envelope.validate = none
  envelope : e.envelope.Representable
  digest : ∃ encoded, e.sha256 = sha256Hex encoded
  receivedAt : ∃ t, Rfc3339.Writable t ∧ e.receivedAt = Rfc3339.format t
  gaps : ∀ gap ∈ e.gaps.items, Gap.validate gap = none
  kept : ∃ received, Kept received (some e.view)

theorem sha256Hex_length (message : Bytes) : (sha256Hex message).length = 64 := by
  have h := sha256Hex_canonical message
  rw [exactly, Bool.and_eq_true, beq_iff_eq] at h
  exact h.1

theorem sha256Hex_valid (message : Bytes) : Valid (sha256Hex message) := by
  have h := sha256Hex_canonical message
  rw [exactly, Bool.and_eq_true, List.all_eq_true] at h
  apply valid_ascii
  intro b hb
  have hhex := h.2 b hb
  simp only [isLowerHex, isDigit, Bool.or_eq_true, Bool.and_eq_true, decide_eq_true_eq,
    UInt8.le_iff_toNat_le] at hhex
  rw [UInt8.lt_iff_toNat_lt]
  rcases hhex with hhex | hhex
  · have := hhex.2
    simp at *
    omega
  · have := hhex.2
    simp at *
    omega

theorem Proper.validate {machine : Bytes} {e : StoredEntry} (h : Proper machine e) :
    validateEntry machine e = none := by
  obtain ⟨encoded, hdigest⟩ := h.digest
  obtain ⟨t, ht, hreceived⟩ := h.receivedAt
  have hgaps : (e.gaps.items.any fun gap => (Gap.validate gap).isSome) = false := by
    rw [List.any_eq_false]
    intro gap hgap
    rw [h.gaps gap hgap]
    decide
  rw [validateEntry, if_neg (not_or.2 ⟨not_not.2 h.machine, not_not.2 h.sequence⟩), h.valid]
  dsimp only
  rw [if_neg (not_not.2 (hdigest ▸ sha256Hex_length encoded)), hgaps, hreceived,
    Rfc3339.parse_format ht]
  rfl

theorem Proper.representable {machine : Bytes} {e : StoredEntry} (h : Proper machine e) :
    e.Representable := by
  obtain ⟨encoded, hdigest⟩ := h.digest
  obtain ⟨t, -, hreceived⟩ := h.receivedAt
  obtain ⟨received, hkept⟩ := h.kept
  have hfits : e.sequence < 2 ^ 64 := hkept.fits
  exact
    { sequence := hfits
      sha256 := hdigest ▸ sha256Hex_valid encoded
      receivedAt := hreceived ▸ (Rfc3339.format_plain t).valid
      envelope := h.envelope
      gaps := by
        intro gap hgap
        apply Gap.representable_of_validate (h.gaps gap hgap)
        have hcovers := covers_iff.2 ⟨(hkept.complement.counted gap hgap).1, le_refl _⟩
        have hle : gap.lastSequence ≤ e.sequence :=
          ((hkept.complement.exact gap.lastSequence).1 ⟨gap, hgap, hcovers⟩).2.1
        omega }

/-- A copy whose empty ranges were not allocated. -/
theorem Proper.clone {machine : Bytes} {e : StoredEntry} (h : Proper machine e) :
    Proper machine { e with gaps := Slice.fresh e.gaps.items } where
  machine := h.machine
  sequence := h.sequence
  valid := h.valid
  envelope := h.envelope
  digest := h.digest
  receivedAt := h.receivedAt
  gaps := by
    rw [Slice.items_fresh]
    exact h.gaps
  kept := by
    obtain ⟨received, hkept⟩ := h.kept
    refine ⟨received, ?_⟩
    rwa [StoredEntry.view, Slice.items_fresh]

/-! ## Stores that are accepted again -/

/-- What a store made by messages of enrolled machines satisfies. -/
structure Fine (enrolled : List Bytes) (s : StoreState) : Prop where
  schema : s.schema = observationStoreSchema
  present : s.machines ≠ none
  distinct : (s.entries.map Prod.fst).Nodup
  enrolled : ∀ m ∈ s.entries, m.1 ∈ enrolled
  entries : ∀ m ∈ s.entries, Proper m.1 m.2

section Fine

variable {enrolled : List Bytes} {s : StoreState}

theorem Fine.validate (h : Fine enrolled s) (henrolled : enrolled.length ≤ 64) :
    s.validate = none := by
  have hcount : s.entries.length ≤ 64 := by
    have hsubset : s.entries.map Prod.fst ⊆ enrolled := by
      intro machine hmachine
      obtain ⟨m, hm, rfl⟩ := List.mem_map.1 hmachine
      exact h.enrolled m hm
    have hle := (h.distinct.subperm hsubset).length_le
    rw [List.length_map] at hle
    omega
  rw [StoreState.validate, if_neg]
  · rw [List.findSome?_eq_none_iff]
    exact fun m hm => (h.entries m hm).validate
  · rw [not_or, not_or]
    exact ⟨not_not.2 h.schema, h.present, by omega⟩

theorem Proper.valid_name {machine : Bytes} {e : StoredEntry} (h : Proper machine e) :
    Valid machine := h.machine ▸ h.envelope.machineID

theorem Fine.representable (h : Fine enrolled s) : s.Representable where
  schema := by
    rw [h.schema]
    decide
  machines := fun m hm => ⟨(h.entries m hm).valid_name, (h.entries m hm).representable⟩
  distinct := h.distinct

theorem Fine.sorted (h : Fine enrolled s) : Fine enrolled s.sorted where
  schema := h.schema
  present := fun hnone => h.present (Option.map_eq_none_iff.1 hnone)
  distinct := (s.sorted_perm.map Prod.fst).nodup_iff.2 h.distinct
  enrolled := fun m hm => h.enrolled m (s.sorted_perm.subset hm)
  entries := fun m hm => h.entries m (s.sorted_perm.subset hm)

/-- A fine store in a file is accepted, and what is loaded of it is fine. -/
theorem Fine.loaded (h : Fine enrolled s) (henrolled : enrolled.length ≤ 64)
    (hlength : s.encode.length ≤ maxObservationStoreBytes) :
    ∃ loaded, readObservationStore s.encode = .ok loaded ∧ loaded.validate = none ∧
      Fine enrolled loaded :=
  ⟨s.sorted, StoreState.decode_encode h.representable hlength, h.sorted.validate henrolled, h.sorted⟩

theorem fine_initial :
    Fine enrolled { schema := observationStoreSchema, machines := some [] } where
  schema := rfl
  present := by simp
  distinct := List.nodup_nil
  enrolled := fun m hm => absurd hm List.not_mem_nil
  entries := fun m hm => absurd hm List.not_mem_nil

theorem Fine.found (h : Fine enrolled s) {machine : Bytes} {e : StoredEntry}
    (hfind : s.find machine = some e) : Proper machine e := by
  obtain ⟨m, hm, rfl⟩ := Option.map_eq_some_iff.1 hfind
  rw [← Table.find_key hm]
  exact h.entries m (Table.find_mem hm)

/-- The entry of a machine, in whatever store it is. -/
theorem Fine.kept (h : Fine enrolled s) (machine : Bytes) :
    ∃ received, Kept received ((s.find machine).map StoredEntry.view) := by
  cases hfind : s.find machine with
  | none => exact ⟨_, kept_none⟩
  | some e => exact (h.found hfind).kept

/-- The store with the entry of a new message. -/
theorem Fine.receive (h : Fine enrolled s) {machine encoded : Bytes} {receivedAt : Instant}
    {e : Envelope} (henrolled : machine ∈ enrolled) (hdecode : decode encoded = .ok e)
    (hmachine : e.machineID = machine)
    (hstores : Stores ((s.find machine).map StoredEntry.view) e)
    (hordered : observedInOrder e.gaps = true) (hwritable : Rfc3339.Writable receivedAt) :
    Fine enrolled (receivedState machine encoded receivedAt e s) := by
  obtain ⟨received, hkept⟩ := h.kept machine
  obtain ⟨hvalid, hsequence⟩ := decode_ok hdecode
  obtain ⟨hmatches, hgaps⟩ := received_gaps hkept hdecode hstores receivedAt
  have hpositive := sequence_of_validate hvalid
  have hknown : ∀ gap ∈ retained ((s.find machine).map StoredEntry.view),
      Gap.validate gap = none := by
    cases hfind : s.find machine with
    | none => exact fun gap hgap => absurd hgap List.not_mem_nil
    | some current => exact (h.found hfind).gaps
  have hclone : ∀ m ∈ cloneObservationStoreState s, m.1 ∈ enrolled ∧ Proper m.1 m.2 := by
    intro m hm
    obtain ⟨k, hk, rfl⟩ := List.mem_map.1 hm
    exact ⟨h.enrolled k hk, (h.entries k hk).clone⟩
  have hkeys : (cloneObservationStoreState s).map Prod.fst = s.entries.map Prod.fst := by
    rw [cloneObservationStoreState, List.map_map]
    rfl
  constructor
  · exact h.schema
  · exact fun hnone => nomatch hnone
  · show (_ :: (Table.remove Prod.fst machine (cloneObservationStoreState s)).map Prod.fst).Nodup
    refine List.nodup_cons.2 ⟨fun hmem => ?_, ?_⟩
    · obtain ⟨m, hm, heq⟩ := List.mem_map.1 hmem
      exact (Table.mem_remove.1 hm).2 heq
    · have hsub : ((Table.remove Prod.fst machine (cloneObservationStoreState s)).map
          Prod.fst).Sublist (s.entries.map Prod.fst) := by
        rw [← hkeys]
        exact List.filter_sublist.map _
      exact hsub.nodup h.distinct
  · intro m hm
    rcases Table.mem_put.1 hm with rfl | ⟨hm, -⟩
    · exact henrolled
    · exact (hclone m hm).1
  · intro m hm
    rcases Table.mem_put.1 hm with rfl | ⟨hm, -⟩
    · exact
        { machine := hmachine
          sequence := rfl
          valid := hvalid
          envelope := decode_representable hdecode
          digest := ⟨encoded, rfl⟩
          receivedAt := ⟨receivedAt, hwritable, rfl⟩
          gaps := by
            intro gap hgap
            have hgap : gap ∈ (Observation.received encoded receivedAt e
              ((s.find machine).map StoredEntry.view)).gaps := hgap
            rw [hgaps] at hgap
            rcases List.mem_append.1 hgap with hgap | hgap
            · exact hknown gap hgap
            · exact joined_validate (Nat.succ_pos _) (by omega) hmatches hordered gap hgap
          kept := ⟨_, hkept.accept hdecode hstores receivedAt⟩ }
    · exact (hclone m hm).2

end Fine

/-! ## Runs -/

inductive Event where
  | start (write : Write)
  | stop
  /-- A message arrives under the certificate of an enrolled machine. -/
  | save (machine encoded : Bytes) (receivedAt : Instant) (write : Write)
  deriving DecidableEq, Repr

/-- Before the first start there is no file. -/
def absent : Held := { state := none, file := none }

section Runs

variable (enrolled : List Bytes)

/-- One step of the Relay; a certificate of no enrolled machine is turned away
before its message is read. -/
def act (h : Held) (event : Event) : Held × Option (Except String (Envelope × Bool)) :=
  match event with
  | .start write => ((openObservationStore write h).2, none)
  | .stop => ({ h with state := none }, none)
  | .save machine encoded receivedAt write =>
      if machine ∈ enrolled then
        ((saveObservation machine encoded receivedAt write h).2,
          some (saveObservation machine encoded receivedAt write h).1)
      else (h, none)

/-- A message that is stored as new and reaches the file: its ranges were
observed in order, and its reception has a year of four digits. -/
def StoresInOrder (h : Held) (event : Event) : Prop :=
  match event with
  | .save machine encoded receivedAt write =>
      machine ∈ enrolled → write.renames = true → ∀ s ∈ h.state, ∀ e ∈ (decode encoded).toOption,
        e.machineID = machine → Stores ((s.find machine).map StoredEntry.view) e →
          (receivedState machine encoded receivedAt e s).encode.length ≤ maxObservationStoreBytes →
            observedInOrder e.gaps = true ∧ Rfc3339.Writable receivedAt
  | _ => True

instance (h : Held) : ∀ event, Decidable (StoresInOrder enrolled h event)
  | .save machine encoded receivedAt write =>
      inferInstanceAs (Decidable (machine ∈ enrolled → write.renames = true → ∀ s ∈ h.state,
        ∀ e ∈ (decode encoded).toOption, e.machineID = machine →
          Stores ((s.find machine).map StoredEntry.view) e →
            (receivedState machine encoded receivedAt e s).encode.length ≤
              maxObservationStoreBytes →
              observedInOrder e.gaps = true ∧ Rfc3339.Writable receivedAt))
  | .start _ | .stop => inferInstanceAs (Decidable True)

/-- The memory and the file of a Relay between two steps. -/
structure Sound (h : Held) : Prop where
  state : ∀ s ∈ h.state, Fine enrolled s
  file : ∀ file ∈ h.file, ∃ s, Fine enrolled s ∧ file = s.encode ∧
    s.encode.length ≤ maxObservationStoreBytes

variable {enrolled} {h : Held}

theorem Sound.stopped (hh : Sound enrolled h) : Sound enrolled { h with state := none } where
  state := fun _ hs => nomatch hs
  file := hh.file

/-- A candidate is published, or not, or only in the file. -/
theorem commit_sound (hh : Sound enrolled h) (write : Write) {c : StoreState}
    (hc : c.encode.length ≤ maxObservationStoreBytes → write.renames = true → Fine enrolled c) :
    Sound enrolled (commit write c h).2 := by
  unfold commit
  split
  · exact hh
  · rename_i hlength
    have hfine := hc (not_lt.1 hlength)
    have hfile : Fine enrolled c → ∀ file ∈ some c.encode, ∃ s, Fine enrolled s ∧
        file = s.encode ∧ s.encode.length ≤ maxObservationStoreBytes := by
      intro hfine file hfile
      exact ⟨c, hfine, (Option.some.inj hfile).symm, not_lt.1 hlength⟩
    cases write with
    | done => exact ⟨fun s hs => Option.some.inj hs ▸ hfine rfl, hfile (hfine rfl)⟩
    | fails renamed =>
        cases renamed with
        | true => exact ⟨hh.state, hfile (hfine rfl)⟩
        | false => exact hh
    | dies renamed =>
        cases renamed with
        | true => exact ⟨(fun _ hs => nomatch hs), hfile (hfine rfl)⟩
        | false => exact hh.stopped

/-- The Relay starts from a file it wrote. -/
theorem open_loaded (hh : Sound enrolled h) (henrolled : enrolled.length ≤ 64) (write : Write)
    {file : Bytes} (hfile : h.file = some file) :
    ∃ loaded, readObservationStore file = .ok loaded ∧ loaded.validate = none ∧
      Fine enrolled loaded ∧
      openObservationStore write h = (.ok (), { h with state := some loaded }) := by
  obtain ⟨s, hs, rfl, hlength⟩ := hh.file file hfile
  obtain ⟨loaded, hread, hvalid, hfine⟩ := hs.loaded henrolled hlength
  refine ⟨loaded, hread, hvalid, hfine, ?_⟩
  rw [openObservationStore, hfile]
  dsimp only
  rw [hread]
  dsimp only
  rw [hvalid]

theorem start_sound (hh : Sound enrolled h) (henrolled : enrolled.length ≤ 64) (write : Write) :
    Sound enrolled (openObservationStore write h).2 := by
  cases hfile : h.file with
  | none =>
      have hopened : openObservationStore write h = commit write
          { schema := observationStoreSchema, machines := some [] } { h with state := none } := by
        unfold openObservationStore
        split
        · rfl
        · rename_i hsome
          rw [hfile] at hsome
          cases hsome
      rw [hopened]
      exact commit_sound hh.stopped write fun _ _ => fine_initial
  | some file =>
      obtain ⟨loaded, -, -, hfine, hopened⟩ := open_loaded hh henrolled write hfile
      rw [hopened]
      exact ⟨fun s hs => Option.some.inj hs ▸ hfine, hh.file⟩

/-- What a message does to a running Relay: it leaves it, or it prepares the
candidate of a new entry. -/
theorem saveObservation_cases (machine encoded : Bytes) (receivedAt : Instant) (write : Write)
    (h : Held) :
    (saveObservation machine encoded receivedAt write h).2 = h ∨
      ∃ s e, h.state = some s ∧ decode encoded = .ok e ∧ e.machineID = machine ∧
        Stores ((s.find machine).map StoredEntry.view) e ∧
        (saveObservation machine encoded receivedAt write h).2 =
          (commit write (receivedState machine encoded receivedAt e s) h).2 := by
  unfold saveObservation
  split
  · exact .inl rfl
  · rename_i s hs
    split
    · exact .inl rfl
    · rename_i e hdecode
      split
      · exact .inl rfl
      · rename_i hmachine
        dsimp only
        split
        · exact .inl rfl
        · exact .inl rfl
        · rename_i hcompare
          split
          · exact .inl rfl
          · rename_i hmatches
            refine .inr ⟨s, e, hs, hdecode, not_not.1 hmachine,
              ⟨compareSequence_later hdecode hcompare, Bool.not_eq_false _ |>.mp hmatches⟩, ?_⟩
            split
            · rename_i heq
              rw [heq]
            · rename_i heq
              rw [heq]

/-- One step whose message, if it is stored, was observed in order. -/
theorem step_sound (hh : Sound enrolled h) (henrolled : enrolled.length ≤ 64) (event : Event)
    (hok : StoresInOrder enrolled h event) : Sound enrolled (next (act enrolled) h event) := by
  cases event with
  | start write => exact start_sound hh henrolled write
  | stop => exact hh.stopped
  | save machine encoded receivedAt write =>
      unfold next act
      dsimp only
      split
      · rename_i hmachine
        rcases saveObservation_cases machine encoded receivedAt write h with
          hsame | ⟨s, e, hs, hdecode, hown, hstores, hcommitted⟩
        · rw [hsame]
          exact hh
        · rw [hcommitted]
          apply commit_sound hh write
          intro hlength hrenames
          have hmem : e ∈ (decode encoded).toOption := by
            rw [hdecode]
            rfl
          obtain ⟨hordered, hwritable⟩ :=
            hok hmachine hrenames s hs e hmem hown hstores hlength
          exact (hh.state s hs).receive hmachine hdecode hown hstores hordered hwritable
      · exact hh

end Runs

/-! ## The Relay starts again -/

/-- In a run in which the ranges of every stored message were observed in
order, the Relay accepts its own file. -/
theorem restarts (enrolled : List Bytes) (henrolled : enrolled.length ≤ 64) {events : List Event}
    (hok : Admits (act enrolled) (StoresInOrder enrolled) absent events) :
    ∀ file, (run (act enrolled) absent events).file = some file →
      ∃ loaded, readObservationStore file = .ok loaded ∧ loaded.validate = none ∧
        ∀ write, openObservationStore write (run (act enrolled) absent events) =
          (.ok (), { state := some loaded, file := some file }) := by
  have hstart : Sound enrolled absent :=
    ⟨(fun _ hs => nomatch hs), (fun _ hfile => nomatch hfile)⟩
  have hstep : ∀ h event, Sound enrolled h → StoresInOrder enrolled h event →
      Sound enrolled (next (act enrolled) h event) :=
    fun _ event hh hok => step_sound hh henrolled event hok
  have hreached := run_invariant_of_admits hstep hstart hok
  intro file hfile
  obtain ⟨loaded, hread, hvalid, -, -⟩ := open_loaded hreached henrolled .done hfile
  refine ⟨loaded, hread, hvalid, fun write => ?_⟩
  obtain ⟨loaded', hread', -, -, hopened⟩ := open_loaded hreached henrolled write hfile
  rw [hread] at hread'
  rw [hopened, hfile, Except.ok.inj hread']

namespace Sample

open Observation.Sample

def outOfOrder : List Event :=
  [.start .done, .save machine (thirdAt (text "2026-01-01T00:00:00Z")).json.render now .done]

def inTime : List Event :=
  [.start .done, .save machine (thirdAt (text "2026-01-01T00:00:20Z")).json.render now .done]

end Sample

open Sample Observation.Sample in
/-- A clock set back between two discarded observations: the message is
accepted, and the Relay does not start again. -/
theorem out_of_order :
    ((history (act [machine]) absent outOfOrder).map Prod.snd =
      [none, some (.ok (thirdAt (text "2026-01-01T00:00:00Z"), false))]) ∧
      (openObservationStore .done (run (act [machine]) absent outOfOrder)).1 =
        .error "Relay observation store contains an invalid retained gap" := by
  constructor
  · decide +kernel
  · decide +kernel

open Sample Observation.Sample in
/-- The same pieces observed in order. -/
theorem in_time_restarts :
    ∃ file loaded, (run (act [machine]) absent inTime).file = some file ∧
      (readObservationStore file = .ok loaded ∧ loaded.validate = none ∧
        ∀ write, openObservationStore write (run (act [machine]) absent inTime) =
          (.ok (), { state := some loaded, file := some file })) := by
  have hok : Admits (act [machine]) (StoresInOrder [machine]) absent inTime := by decide +kernel
  have hfile : (run (act [machine]) absent inTime).file.isSome = true := by decide +kernel
  obtain ⟨file, hfile⟩ := Option.isSome_iff_exists.1 hfile
  obtain ⟨loaded, hloaded⟩ := restarts [machine] (by decide) hok file hfile
  exact ⟨file, loaded, hfile, hloaded⟩

end YourCloud.Relay
