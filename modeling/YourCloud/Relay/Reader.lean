import YourCloud.Controller.RelaySnapshot
import YourCloud.Relay.Snapshot

/-!
# What a Controller reads of a Relay's snapshot

The Relay writes a document and the Controller reads it, each with its own
checks.  What the Relay checked when it accepted a message is less than what
the Controller asks of the document: a message may carry times whose year in
universal time has five digits, and pieces of a range that were not observed in
their order, and one of either spoils the document of all machines.

Nothing of this can go back.  An entry is replaced by one of a later sequence,
ranges are only added behind those that are there, and a registry takes back no
revocation, so a document that is read at all is never refused as older.

## Main results

* `SnapshotDocument.decode_encode` — a document is read as what was written.
* `step_each` — what a new entry satisfies, every entry does.
* `snapshot_accepted` — after such messages the Controller accepts the document.
* `later_allowed` — a later document may replace an earlier one.
-/

namespace YourCloud.Relay

open YourCloud.Foundation YourCloud.Observation YourCloud.Controller
open YourCloud.Enrollment (Entry Registry)

/-! ## What is written is read back -/

/-- An observation as it is read. -/
def SnapshotObservation.seen (o : SnapshotObservation) : RelaySnapshotObservation :=
  { schemaVersion := o.schemaVersion
    machineID := o.machineID
    daemonVersion := o.daemonVersion
    profile := o.profile
    sequence := o.sequence
    observedAt := o.observedAt
    receivedAt := o.receivedAt
    gaps := some o.gaps
    health := o.health
    external := Slice.fresh o.external }

def SnapshotMachine.seen (m : SnapshotMachine) : RelaySnapshotMachine :=
  { machineID := m.machineID
    enrollmentStatus := m.enrollmentStatus
    observation := m.observation.map SnapshotObservation.seen }

def SnapshotDocument.seen (d : SnapshotDocument) : RelaySnapshot :=
  { schemaVersion := d.schemaVersion
    infrastructureID := d.infrastructureID
    controllerID := d.controllerID
    snapshotAt := d.snapshotAt
    machines := some (d.machines.map SnapshotMachine.seen) }

structure SnapshotObservation.Representable (o : SnapshotObservation) : Prop where
  schemaVersion : -2 ^ 63 ≤ o.schemaVersion ∧ o.schemaVersion < 2 ^ 63
  machineID : Valid o.machineID
  daemonVersion : Valid o.daemonVersion
  profile : Valid o.profile
  sequence : o.sequence < 2 ^ 64
  observedAt : Valid o.observedAt
  receivedAt : Valid o.receivedAt
  gaps : ∀ gap ∈ o.gaps, gap.Representable
  health : o.health.Representable
  external : ∀ reading ∈ o.external, reading.Representable

structure SnapshotMachine.Representable (m : SnapshotMachine) : Prop where
  machineID : Valid m.machineID
  enrollmentStatus : Valid m.enrollmentStatus
  observation : ∀ o ∈ m.observation, o.Representable

structure SnapshotDocument.Representable (d : SnapshotDocument) : Prop where
  schemaVersion : -2 ^ 63 ≤ d.schemaVersion ∧ d.schemaVersion < 2 ^ 63
  infrastructureID : Valid d.infrastructureID
  controllerID : Valid d.controllerID
  snapshotAt : Valid d.snapshotAt
  machines : ∀ m ∈ d.machines, m.Representable

private theorem observation_names : Json.Names snapshotObservationFields :=
  Json.Names.of_check (by decide)

private theorem machine_names : Json.Names snapshotMachineFields := Json.Names.of_check (by decide)

private theorem document_names : Json.Names snapshotFields := Json.Names.of_check (by decide)

private theorem read_omitNone {α : Type} {read : Json → Option α} {json : α → Json}
    {values : List α} (h : ∀ a ∈ values, read (json a) = some a) :
    Slice.read read ((omitNone json values).getD .null) = some (Slice.fresh values) := by
  cases values with
  | nil => rfl
  | cons a values =>
      have hread : Slice.read read (Slice.json json (some (a :: values))) = some (some (a :: values)) :=
        Slice.read_json h
      exact hread

theorem SnapshotObservation.read_json {o : SnapshotObservation} (h : o.Representable) :
    RelaySnapshotObservation.read o.json = some o.seen := by
  refine Json.bind_read (Json.members_present snapshotObservationFields rfl observation_names) ?_
  refine Json.bind_read (Json.read_written observation_names rfl
    (Json.readInt_numeralInt h.schemaVersion.1 h.schemaVersion.2) rfl) ?_
  refine Json.bind_read (Json.read_written observation_names rfl
    (Json.readString_quoted_valid true h.machineID) rfl) ?_
  refine Json.bind_read (Json.read_written observation_names rfl
    (Json.readString_quoted_valid true h.daemonVersion) rfl) ?_
  refine Json.bind_read (Json.read_written observation_names rfl
    (Json.readString_quoted_valid true h.profile) rfl) ?_
  refine Json.bind_read (Json.read_written observation_names rfl
    (Json.readUint64_numeral h.sequence) rfl) ?_
  refine Json.bind_read (Json.read_written observation_names rfl
    (Json.readString_quoted_valid true h.observedAt) rfl) ?_
  refine Json.bind_read (Json.read_written observation_names rfl
    (Json.readString_quoted_valid true h.receivedAt) rfl) ?_
  have hgaps : Slice.read Gap.read (Slice.json Gap.json (some o.gaps)) = some (some o.gaps) :=
    Slice.read_json fun gap hgap => Gap.read_json (h.gaps gap hgap)
  refine Json.bind_read (Json.read_written observation_names rfl hgaps rfl) ?_
  refine Json.bind_read (Json.read_written observation_names rfl
    (HostHealth.read_json h.health) rfl) ?_
  exact Json.bind_read (Json.read_omitted observation_names rfl
    (read_omitNone fun reading hr => ExternalReading.read_json (h.external reading hr)) rfl) rfl

theorem SnapshotMachine.read_json {m : SnapshotMachine} (h : m.Representable) :
    RelaySnapshotMachine.read m.json = some m.seen := by
  refine Json.bind_read (Json.members_present snapshotMachineFields rfl machine_names) ?_
  refine Json.bind_read (Json.read_written machine_names rfl
    (Json.readString_quoted_valid true h.machineID) rfl) ?_
  refine Json.bind_read (Json.read_written machine_names rfl
    (Json.readString_quoted_valid true h.enrollmentStatus) rfl) ?_
  have hobservation : Json.readPointer RelaySnapshotObservation.read
      ((m.observation.map SnapshotObservation.json).getD .null) =
      some (m.observation.map SnapshotObservation.seen) := by
    cases hm : m.observation with
    | none => rfl
    | some o =>
        show (RelaySnapshotObservation.read o.json).map some = _
        rw [SnapshotObservation.read_json (h.observation o hm)]
        rfl
  exact Json.bind_read (Json.read_written machine_names rfl hobservation rfl) rfl

theorem SnapshotObservation.sound_json (o : SnapshotObservation) : Json.Sound (some o.json) := by
  have gaps : Json.Sound (some (Slice.json Gap.json (some o.gaps))) :=
    Slice.sound_json fun gap _ => gap.sound_json
  have gaps : Json.Sound (some (.array (o.gaps.map Gap.json))) := gaps
  have external : Json.Sound (omitNone ExternalReading.json o.external) :=
    sound_omitNone fun reading _ => reading.sound_json
  apply sound_record observation_names rfl
  simp only [SnapshotObservation.fields, List.forall_mem_cons, List.not_mem_nil, false_implies,
    implies_true, Json.sound_quoted, Json.sound_numeral, Json.sound_numeralInt,
    HostHealth.sound_json, gaps, external, and_self]

theorem SnapshotMachine.sound_json (m : SnapshotMachine) : Json.Sound (some m.json) := by
  have observation :
      Json.Sound (some ((m.observation.map SnapshotObservation.json).getD .null)) := by
    cases m.observation with
    | none => exact Json.sound_some trivial rfl
    | some o => exact o.sound_json
  apply sound_record machine_names rfl
  simp only [SnapshotMachine.fields, List.forall_mem_cons, List.not_mem_nil, false_implies,
    implies_true, Json.sound_quoted, observation, and_self]

/-- A document is read as what was written. -/
theorem SnapshotDocument.decode_encode {d : SnapshotDocument} (h : d.Representable) :
    Json.decode RelaySnapshot.read d.encode = some d.seen := by
  have machines : Json.Sound (some (Slice.json SnapshotMachine.json (some d.machines))) :=
    Slice.sound_json fun m _ => m.sound_json
  have machines : Json.Sound (some (.array (d.machines.map SnapshotMachine.json))) := machines
  have hsound : ∀ f ∈ d.fields, Json.Sound f.2 := by
    simp only [SnapshotDocument.fields, List.forall_mem_cons, List.not_mem_nil, false_implies,
      implies_true, Json.sound_quoted, Json.sound_numeralInt, machines, and_self]
  have hmachines : Slice.read RelaySnapshotMachine.read
      (.array (d.machines.map SnapshotMachine.json)) =
      some (some (d.machines.map SnapshotMachine.seen)) := by
    have hread : ∀ ms : List SnapshotMachine, (∀ m ∈ ms, m.Representable) →
        (ms.map SnapshotMachine.json).mapM RelaySnapshotMachine.read =
          some (ms.map SnapshotMachine.seen) := by
      intro ms hms
      induction ms with
      | nil => rfl
      | cons m ms ih =>
          rw [List.map_cons, List.mapM_cons, SnapshotMachine.read_json (hms m List.mem_cons_self),
            ih fun k hk => hms k (List.mem_cons_of_mem _ hk)]
          rfl
    show ((d.machines.map SnapshotMachine.json).mapM RelaySnapshotMachine.read).map some = _
    rw [hread d.machines h.machines]
    rfl
  have hread : RelaySnapshot.read (.object (Json.present d.fields)) = some d.seen := by
    refine Json.bind_read (Json.members_present snapshotFields rfl document_names) ?_
    refine Json.bind_read (Json.read_written document_names rfl
      (Json.readInt_numeralInt h.schemaVersion.1 h.schemaVersion.2) rfl) ?_
    refine Json.bind_read (Json.read_written document_names rfl
      (Json.readString_quoted_valid true h.infrastructureID) rfl) ?_
    refine Json.bind_read (Json.read_written document_names rfl
      (Json.readString_quoted_valid true h.controllerID) rfl) ?_
    refine Json.bind_read (Json.read_written document_names rfl
      (Json.readString_quoted_valid true h.snapshotAt) rfl) ?_
    exact Json.bind_read (Json.read_written document_names rfl hmachines rfl) rfl
  have hdecode := Json.decode_present RelaySnapshot.read snapshotFields rfl document_names hsound
    (w := []) rfl
  rw [List.append_nil] at hdecode
  rw [SnapshotDocument.encode, hdecode, hread]

/-! ## Entries -/

/-- What is true of every entry: it holds a message of its machine that passed
the checks, and the ranges of what was not received up to it. -/
structure Entered (machine : Bytes) (stored : StoredObservation) : Prop where
  machine : stored.envelope.machineID = machine
  sequence : stored.sequence = stored.envelope.sequence
  valid : stored.envelope.validate = none
  envelope : stored.envelope.Representable
  receivedAt : ∃ t, stored.receivedAt = Rfc3339.format t
  kept : ∃ received, Kept received (some stored)

/-- Entries of which each retains what it should and satisfies a predicate. -/
def Each (p : Bytes → StoredObservation → Prop) (store : ObservationStore) : Prop :=
  (∀ machine, ∃ received, Kept received (store machine)) ∧
    ∀ machine stored, store machine = some stored → p machine stored

/-- One message whose entry, if it makes one, satisfies the predicate. -/
theorem step_each {p : Bytes → StoredObservation → Prop} {store : ObservationStore}
    {message : Message} (hstore : Each p store)
    (hnew : ∀ e, decode message.encoded = .ok e → e.machineID = message.machine →
      message.published = true → Stores (store message.machine) e →
      p message.machine
        (received message.encoded message.receivedAt e (store message.machine))) :
    Each p (step store message).1 := by
  unfold step
  dsimp only
  rcases save_outcome message.machine message.encoded message.receivedAt message.published store
    with ⟨_, hsave⟩ | ⟨_, _, -, -, -, hsave⟩ | ⟨e, hdecode, hown, hpublished, hstores, hsave⟩
  · rw [hsave]
    exact hstore
  · rw [hsave]
    exact hstore
  · rw [hsave]
    constructor
    · intro machine
      obtain ⟨received, hkept⟩ := hstore.1 machine
      by_cases heq : machine = message.machine
      · subst heq
        dsimp only
        rw [if_pos rfl]
        exact ⟨_, hkept.accept hdecode hstores message.receivedAt⟩
      · dsimp only
        rw [if_neg heq]
        exact ⟨received, hkept⟩
    · intro machine stored hstored
      dsimp only at hstored
      by_cases heq : machine = message.machine
      · subst heq
        rw [if_pos rfl] at hstored
        rw [← Option.some.inj hstored]
        exact hnew e hdecode hown hpublished hstores
      · rw [if_neg heq] at hstored
        exact hstore.2 machine stored hstored

theorem each_empty (p : Bytes → StoredObservation → Prop) : Each p empty :=
  ⟨fun _ => ⟨_, kept_none⟩, fun _ _ hstored => nomatch hstored⟩

theorem new_entered {store : ObservationStore} {message : Message} {e : Envelope}
    (hkept : ∃ received, Kept received (store message.machine))
    (hdecode : decode message.encoded = .ok e) (hown : e.machineID = message.machine)
    (hstores : Stores (store message.machine) e) :
    Entered message.machine
      (received message.encoded message.receivedAt e (store message.machine)) where
  machine := hown
  sequence := rfl
  valid := (decode_ok hdecode).1
  envelope := decode_representable hdecode
  receivedAt := ⟨message.receivedAt, rfl⟩
  kept := by
    obtain ⟨received, hkept⟩ := hkept
    exact ⟨_, hkept.accept hdecode hstores message.receivedAt⟩

/-! ## Entries with clear times -/

/-- Whether a text is an instant whose year in universal time has four digits. -/
def writable (value : Bytes) : Bool := (Rfc3339.parse value).any fun t => Rfc3339.Writable t

/-- Whether pieces were observed in order, from one such instant to another. -/
def observedClearly : List Gap → Bool
  | [] => true
  | gap :: rest =>
      observedInOrder (gap :: rest) && writable gap.firstObservedAt &&
        writable (rest.getLastD gap).lastObservedAt

/-- An entry all of whose times can be written, in ranges that pass their check. -/
structure Clear (stored : StoredObservation) : Prop where
  observedAt : writable stored.envelope.observedAt = true
  gaps : ∀ gap ∈ stored.gaps, gap.validate = none ∧ writable gap.firstObservedAt = true ∧
    writable gap.lastObservedAt = true

theorem writable_iff {value : Bytes} :
    writable value = true ↔ ∃ t, Rfc3339.parse value = some t ∧ Rfc3339.Writable t := by
  unfold writable
  cases Rfc3339.parse value with
  | none => simp
  | some t => simp

theorem joined_writable {first last : Nat} {gaps : List Gap} (h : observedClearly gaps = true) :
    ∀ gap ∈ joined first last gaps, writable gap.firstObservedAt = true ∧
      writable gap.lastObservedAt = true := by
  cases gaps with
  | nil => exact fun gap hgap => absurd hgap List.not_mem_nil
  | cons gap rest =>
      intro other hother
      rw [List.mem_singleton.1 hother]
      rw [observedClearly, Bool.and_eq_true, Bool.and_eq_true] at h
      exact ⟨h.1.2, h.2⟩

theorem observedInOrder_of_clearly {gaps : List Gap} (h : observedClearly gaps = true) :
    observedInOrder gaps = true := by
  cases gaps with
  | nil => rfl
  | cons gap rest =>
      rw [observedClearly, Bool.and_eq_true, Bool.and_eq_true] at h
      exact h.1.1

theorem new_clear {store : ObservationStore} {message : Message} {e : Envelope}
    (hkept : ∃ received, Kept received (store message.machine))
    (hclear : ∀ stored, store message.machine = some stored → Clear stored)
    (hdecode : decode message.encoded = .ok e)
    (hstores : Stores (store message.machine) e)
    (hobserved : writable e.observedAt = true) (hgaps : observedClearly e.gaps = true) :
    Clear (received message.encoded message.receivedAt e (store message.machine)) := by
  obtain ⟨hits, hkept⟩ := hkept
  obtain ⟨hmatches, heq⟩ := received_gaps hkept hdecode hstores message.receivedAt
  have hsequence := (decode_ok hdecode).2
  refine ⟨hobserved, fun gap hgap => ?_⟩
  rw [heq] at hgap
  rcases List.mem_append.1 hgap with hgap | hgap
  · cases hstore : store message.machine with
    | none =>
        rw [hstore] at hgap
        exact absurd hgap List.not_mem_nil
    | some current =>
        rw [hstore] at hgap
        exact (hclear current hstore).gaps gap hgap
  · exact ⟨joined_validate (Nat.succ_pos _) (by omega) hmatches
      (observedInOrder_of_clearly hgaps) gap hgap, joined_writable hgaps gap hgap⟩

/-! ## The view of an entry -/

/-- A range with its times in universal time, where they can be read. -/
def universal (gap : Gap) : Gap := (canonicalGap gap).getD gap

theorem canonicalGap_ok {gap written : Gap} (h : canonicalGap gap = some written) :
    ∃ first last, Rfc3339.parse gap.firstObservedAt = some first ∧
      Rfc3339.parse gap.lastObservedAt = some last ∧
      written = { gap with
        firstObservedAt := Rfc3339.format first
        lastObservedAt := Rfc3339.format last } := by
  unfold canonicalGap at h
  obtain ⟨first, hfirst, h⟩ := Option.bind_eq_some_iff.1 h
  obtain ⟨last, hlast, h⟩ := Option.bind_eq_some_iff.1 h
  exact ⟨first, last, hfirst, hlast, (Option.some.inj h).symm⟩

/-- The numbers of a range are those it had. -/
theorem universal_numbers (gap : Gap) :
    (universal gap).firstSequence = gap.firstSequence ∧
      (universal gap).lastSequence = gap.lastSequence ∧
      (universal gap).droppedCount = gap.droppedCount := by
  unfold universal
  cases h : canonicalGap gap with
  | none => exact ⟨rfl, rfl, rfl⟩
  | some written =>
      obtain ⟨first, last, -, -, rfl⟩ := canonicalGap_ok h
      exact ⟨rfl, rfl, rfl⟩

theorem mapM_canonicalGap {gaps written : List Gap} (h : gaps.mapM canonicalGap = some written) :
    written = gaps.map universal ∧ ∀ gap ∈ gaps, canonicalGap gap = some (universal gap) := by
  induction gaps generalizing written with
  | nil => exact ⟨(Option.some.inj h).symm, fun gap hgap => absurd hgap List.not_mem_nil⟩
  | cons gap rest ih =>
      rw [List.mapM_cons] at h
      obtain ⟨first, hfirst, h⟩ := Option.bind_eq_some_iff.1 h
      obtain ⟨others, hothers, h⟩ := Option.bind_eq_some_iff.1 h
      obtain ⟨rfl, hrest⟩ := ih hothers
      have huniversal : universal gap = first := by
        rw [universal, hfirst]
        rfl
      constructor
      · rw [List.map_cons, huniversal]
        exact (Option.some.inj h).symm
      · intro other hother
        rcases List.mem_cons.1 hother with rfl | hother
        · rw [hfirst, huniversal]
        · exact hrest other hother

/-- What the view of an entry holds. -/
theorem view_ok {stored : StoredObservation} {view : SnapshotObservation}
    (h : canonicalSnapshotObservation stored = .ok view) :
    ∃ observedAt receivedAt, Rfc3339.parse stored.envelope.observedAt = some observedAt ∧
      Rfc3339.parse stored.receivedAt = some receivedAt ∧
      (∀ gap ∈ stored.gaps, canonicalGap gap = some (universal gap)) ∧
      view =
        { schemaVersion := stored.envelope.schemaVersion
          machineID := stored.envelope.machineID
          daemonVersion := stored.envelope.daemonVersion
          profile := stored.envelope.profile
          sequence := stored.envelope.sequence
          observedAt := Rfc3339.format observedAt
          receivedAt := Rfc3339.format receivedAt
          gaps := stored.gaps.map universal
          health := stored.envelope.health
          external := stored.envelope.external } := by
  unfold canonicalSnapshotObservation at h
  split at h
  · cases h
  · split at h
    · rename_i observedAt receivedAt hobserved hreceived
      split at h
      · cases h
      · rename_i gaps hgaps
        obtain ⟨rfl, hall⟩ := mapM_canonicalGap hgaps
        exact ⟨observedAt, receivedAt, hobserved, hreceived, hall, (Except.ok.inj h).symm⟩
    · cases h

section View

variable {machine : Bytes} {stored : StoredObservation} {view : SnapshotObservation}

/-- The bounds of a retained range. -/
theorem Entered.bounds (h : Entered machine stored) :
    ∀ gap ∈ stored.gaps, gap.firstSequence ≤ gap.lastSequence ∧
      gap.lastSequence < stored.envelope.sequence ∧ stored.envelope.sequence < 2 ^ 64 ∧
      gap.droppedCount = gap.lastSequence - gap.firstSequence + 1 := by
  obtain ⟨received, hkept⟩ := h.kept
  have hfits : stored.sequence < 2 ^ 64 := hkept.fits
  intro gap hgap
  obtain ⟨hle, hcounted⟩ := hkept.complement.counted gap hgap
  obtain ⟨hlow, hhigh, hnot⟩ := (hkept.complement.exact gap.lastSequence).1
    ⟨gap, hgap, covers_iff.2 ⟨hle, le_refl _⟩⟩
  have hhigh : gap.lastSequence ≤ stored.sequence := hhigh
  have hne : gap.lastSequence ≠ stored.sequence := by
    rcases hkept.last with hzero | hlast
    · have hzero : stored.sequence = 0 := hzero
      omega
    · exact fun heq => hnot (heq ▸ hlast)
  rw [← h.sequence]
  exact ⟨hle, by omega, hfits, hcounted⟩

theorem Entered.apart (h : Entered machine stored) : stored.gaps.Pairwise Before := by
  obtain ⟨received, hkept⟩ := h.kept
  exact hkept.complement.apart

theorem view_representable (h : Entered machine stored)
    (hview : canonicalSnapshotObservation stored = .ok view) : view.Representable := by
  obtain ⟨observedAt, receivedAt, -, -, hgaps, rfl⟩ := view_ok hview
  exact
    { schemaVersion := h.envelope.schemaVersion
      machineID := h.envelope.machineID
      daemonVersion := h.envelope.daemonVersion
      profile := h.envelope.profile
      sequence := h.envelope.sequence
      observedAt := (Rfc3339.format_plain observedAt).valid
      receivedAt := (Rfc3339.format_plain receivedAt).valid
      health := h.envelope.health
      external := h.envelope.external
      gaps := by
        intro gap hgap
        obtain ⟨known, hknown, rfl⟩ := List.mem_map.1 hgap
        obtain ⟨first, last, -, -, heq⟩ := canonicalGap_ok (hgaps known hknown)
        obtain ⟨hle, hlast, hfits, hcount⟩ := h.bounds known hknown
        rw [heq]
        exact
          { firstSequence := by dsimp only; omega
            lastSequence := by dsimp only; omega
            droppedCount := by dsimp only; omega
            firstObservedAt := (Rfc3339.format_plain first).valid
            lastObservedAt := (Rfc3339.format_plain last).valid } }

/-- A range whose times can be written passes as it is written. -/
theorem universal_validate {gap : Gap} (hvalid : gap.validate = none)
    (hfirst : writable gap.firstObservedAt = true) (hlast : writable gap.lastObservedAt = true) :
    (universal gap).validate = none ∧
      (∃ t, parseCanonicalUTC (universal gap).firstObservedAt = .ok t) ∧
      ∃ t, parseCanonicalUTC (universal gap).lastObservedAt = .ok t := by
  obtain ⟨first, hfirst, hwritable⟩ := writable_iff.1 hfirst
  obtain ⟨last, hlast, hwritable'⟩ := writable_iff.1 hlast
  obtain ⟨hpositive, hle, hcount, t, u, hinterval, hordered⟩ := Gap.validate_ok hvalid
  have hcanonical : canonicalGap gap = some { gap with
      firstObservedAt := Rfc3339.format first, lastObservedAt := Rfc3339.format last } := by
    rw [canonicalGap, hfirst, hlast]
    rfl
  have hinterval' : gap.interval = some (first, last) := by
    rw [Gap.interval, hfirst, hlast]
    rfl
  obtain ⟨rfl, rfl⟩ := Prod.mk.inj (Option.some.inj (hinterval.symm.trans hinterval'))
  have heq : universal gap = { gap with
      firstObservedAt := Rfc3339.format t, lastObservedAt := Rfc3339.format u } := by
    rw [universal, hcanonical]
    rfl
  rw [heq]
  refine ⟨?_, ⟨t, parseCanonicalUTC_format.2 ⟨hwritable, rfl⟩⟩,
    ⟨u, parseCanonicalUTC_format.2 ⟨hwritable', rfl⟩⟩⟩
  have hwritten : ({ gap with
      firstObservedAt := Rfc3339.format t, lastObservedAt := Rfc3339.format u } : Gap).interval =
      some (t, u) := by
    rw [Gap.interval]
    dsimp only
    rw [Rfc3339.parse_format hwritable, Rfc3339.parse_format hwritable']
    rfl
  rw [Gap.validate, if_neg (by dsimp only; omega), if_neg (not_not.2 hcount), hwritten]
  exact if_neg (not_lt.2 hordered)

private theorem validateSnapshotGaps_ok {previous : Option Gap} {gaps : List Gap}
    (hgaps : ∀ gap ∈ gaps, gap.lastSequence + 1 < 2 ^ 64 ∧
      (∃ t, parseCanonicalUTC gap.firstObservedAt = .ok t) ∧
      ∃ t, parseCanonicalUTC gap.lastObservedAt = .ok t)
    (hapart : gaps.Pairwise Before)
    (hprevious : ∀ before ∈ previous, before.lastSequence + 1 < 2 ^ 64 ∧
      ∀ gap ∈ gaps, Before before gap) :
    validateSnapshotGaps previous gaps = none := by
  induction gaps generalizing previous with
  | nil => rfl
  | cons gap rest ih =>
      obtain ⟨hlast, ⟨t, ht⟩, ⟨u, hu⟩⟩ := hgaps gap List.mem_cons_self
      obtain ⟨hgap, hrest⟩ := List.pairwise_cons.1 hapart
      have hafter : (previous.any fun before =>
          gap.firstSequence ≤ wrap (before.lastSequence + 1)) = false := by
        cases previous with
        | none => rfl
        | some before =>
            obtain ⟨hfits, hbefore⟩ := hprevious before rfl
            have hbefore : before.lastSequence + 1 < gap.firstSequence :=
              hbefore gap List.mem_cons_self
            have hwrap : wrap (before.lastSequence + 1) = before.lastSequence + 1 :=
              Nat.mod_eq_of_lt hfits
            refine decide_eq_false ?_
            rw [hwrap]
            omega
      rw [validateSnapshotGaps, ht]
      dsimp only
      rw [hu]
      dsimp only
      rw [hafter]
      apply ih (fun other hother => hgaps other (List.mem_cons_of_mem _ hother)) hrest
      intro before hbefore
      rw [← Option.some.inj hbefore]
      exact ⟨hlast, hgap⟩

/-- The view of an entry with clear times passes the Controller's checks. -/
theorem view_accepted (h : Entered machine stored) (hclear : Clear stored)
    (hview : canonicalSnapshotObservation stored = .ok view) {now : Instant}
    (hreceived : ∃ t, stored.receivedAt = Rfc3339.format t ∧ t ≤ now) :
    validateSnapshotObservation machine now view.seen = none := by
  obtain ⟨observedAt, receivedAt, hobserved, hparsed, -, rfl⟩ := view_ok hview
  obtain ⟨t, htext, hle⟩ := hreceived
  rw [htext] at hparsed
  obtain ⟨hwritable, rfl⟩ := Rfc3339.parse_format_iff.1 hparsed
  obtain ⟨observed, hobserved', hwritable'⟩ := writable_iff.1 hclear.observedAt
  obtain rfl := Option.some.inj (hobserved.symm.trans hobserved')
  have hschema := h.valid
  simp only [Envelope.validate, Option.or_eq_none_iff] at hschema
  have hschema := of_decide_eq_true (refuseUnless_eq_none hschema.1)
  have hwritten : ∀ gap ∈ stored.gaps.map universal, gap.validate = none ∧
      gap.lastSequence < stored.envelope.sequence ∧ gap.lastSequence + 1 < 2 ^ 64 ∧
      (∃ t, parseCanonicalUTC gap.firstObservedAt = .ok t) ∧
      ∃ t, parseCanonicalUTC gap.lastObservedAt = .ok t := by
    intro gap hgap
    obtain ⟨known, hknown, rfl⟩ := List.mem_map.1 hgap
    obtain ⟨hvalid, hfirst, hlast⟩ := hclear.gaps known hknown
    obtain ⟨hvalid, hfirst, hlast⟩ := universal_validate hvalid hfirst hlast
    obtain ⟨-, hend, hfits, -⟩ := h.bounds known hknown
    have hnumber := (universal_numbers known).2.1
    exact ⟨hvalid, by omega, by omega, hfirst, hlast⟩
  have hapart : (stored.gaps.map universal).Pairwise Before := by
    rw [List.pairwise_map]
    apply h.apart.imp
    intro left right hbefore
    unfold Before at hbefore ⊢
    rw [(universal_numbers left).2.1, (universal_numbers right).1]
    exact hbefore
  have hordered : (stored.gaps.map universal).Pairwise
      fun left right => left.lastSequence < right.firstSequence :=
    hapart.imp fun hbefore => by unfold Before at hbefore; omega
  have henvelope : ({ stored.envelope with
      observedAt := Rfc3339.format observedAt
      gaps := stored.gaps.map universal } : Envelope).validate = none := by
    apply validate_rewritten h.valid
    · rw [Rfc3339.parse_format hwritable']
      rfl
    · apply validateGaps_none _ hordered (fun before hbefore => by cases hbefore)
      exact fun gap hgap => ⟨(hwritten gap hgap).1, (hwritten gap hgap).2.1⟩
  have hexternal : (Slice.fresh stored.envelope.external).items = stored.envelope.external :=
    Slice.items_fresh _
  apply validateSnapshotObservation_ok hschema h.machine
  · exact Option.some_ne_none _
  · show Envelope.validate _ = none
    unfold RelaySnapshotObservation.envelope SnapshotObservation.seen
    dsimp only
    rw [hexternal]
    exact henvelope
  · exact parseCanonicalUTC_format.2 ⟨hwritable', rfl⟩
  · show receivedBy now (Rfc3339.format receivedAt) = true
    rw [receivedBy, parseCanonicalUTC_format.2 ⟨hwritable, rfl⟩]
    exact decide_eq_true hle
  · show validateSnapshotGaps none (stored.gaps.map universal) = none
    apply validateSnapshotGaps_ok _ hapart (fun before hbefore => by cases hbefore)
    exact fun gap hgap => (hwritten gap hgap).2.2

end View

/-! ## The document -/

section Document

variable {registry : Registry} {manifest : Manifest} {store : ObservationStore} {now : Instant}
  {machines : List SnapshotMachine}

/-- Where each machine of a document comes from. -/
theorem shown_entry {entries : List Entry} (h : List.Forall₂ (Shows store) entries machines) :
    ∀ m ∈ machines, ∃ entry ∈ entries, Shows store entry m := by
  induction h with
  | nil => exact fun m hm => absurd hm List.not_mem_nil
  | cons hshows _ ih =>
      intro m hm
      rcases List.mem_cons.1 hm with rfl | hm
      · exact ⟨_, List.mem_cons_self, hshows⟩
      · obtain ⟨entry, hentry, hshows⟩ := ih m hm
        exact ⟨entry, List.mem_cons_of_mem _ hentry, hshows⟩

/-- Each entry of the registry has its machine in the document. -/
theorem entry_shown {entries : List Entry} (h : List.Forall₂ (Shows store) entries machines) :
    ∀ entry ∈ entries, ∃ m ∈ machines, Shows store entry m := by
  induction h with
  | nil => exact fun entry hentry => absurd hentry List.not_mem_nil
  | cons hshows _ ih =>
      intro entry hentry
      rcases List.mem_cons.1 hentry with rfl | hentry
      · exact ⟨_, List.mem_cons_self, hshows⟩
      · obtain ⟨m, hm, hshows⟩ := ih entry hentry
        exact ⟨m, List.mem_cons_of_mem _ hm, hshows⟩

/-- Whatever the times of its entries, a document is read as it was written. -/
theorem document_representable (hregistry : registry.Admitted) (hmanifest : manifest.validate = none)
    (hready : registry.readerReady = true)
    (hentries : ∀ machine stored, store machine = some stored → Entered machine stored)
    (hshows : List.Forall₂ (Shows store) registry.machines machines) :
    (snapshotDocument registry manifest now machines).Representable where
  schemaVersion := by
    show -2 ^ 63 ≤ (1 : Int) ∧ (1 : Int) < 2 ^ 63
    decide
  infrastructureID := (Approval.canonicalUUIDv4_word (hregistry.infrastructureID hready)).plain.valid
  controllerID :=
    (Approval.canonicalUUIDv4_word (Manifest.controllerID_of_validate hmanifest)).plain.valid
  snapshotAt := (Rfc3339.format_plain now).valid
  machines := by
    intro m hm
    obtain ⟨entry, hentry, hshown⟩ := shown_entry hshows m hm
    obtain ⟨hmachine, hstatus⟩ := Enrollment.validateEntry_ok (hregistry.entries entry hentry)
    have hstatus : Valid entry.status := by
      rcases hstatus with hstatus | hstatus
      · rw [hstatus]
        decide
      · rw [hstatus]
        decide
    cases hshown with
    | unseen hnone =>
        exact ⟨machineIDPattern_valid hmachine, hstatus, fun o ho => by cases ho⟩
    | seen hstore hview =>
        refine ⟨machineIDPattern_valid hmachine, hstatus, fun o ho => ?_⟩
        rw [← Option.some.inj ho]
        exact view_representable (hentries _ _ hstore) hview

/-- What the Controller decodes of a document is what was written. -/
theorem decode_document {controllerID infrastructureID : Bytes}
    (h : (snapshotDocument registry manifest now machines).Representable)
    (hlength : (snapshotDocument registry manifest now machines).encode.length ≤ maxSnapshotBytes) :
    decodeRelaySnapshot (snapshotDocument registry manifest now machines).encode controllerID
        infrastructureID =
      match (snapshotDocument registry manifest now machines).seen.validate controllerID
          infrastructureID with
      | some problem => .error problem
      | none => .ok (snapshotDocument registry manifest now machines).seen := by
  have hempty : (snapshotDocument registry manifest now machines).encode.length ≠ 0 := by
    simp [SnapshotDocument.encode, Json.render]
  have hbound : ¬ maxRelaySnapshotBytes <
      (snapshotDocument registry manifest now machines).encode.length := not_lt.2 hlength
  unfold decodeRelaySnapshot
  rw [if_neg (not_or.2 ⟨hempty, hbound⟩), SnapshotDocument.decode_encode h] <;> rfl

theorem decoded_document {controllerID infrastructureID : Bytes} {seen : RelaySnapshot}
    (h : (snapshotDocument registry manifest now machines).Representable)
    (hlength : (snapshotDocument registry manifest now machines).encode.length ≤ maxSnapshotBytes)
    (hseen : decodeRelaySnapshot (snapshotDocument registry manifest now machines).encode
      controllerID infrastructureID = .ok seen) :
    (snapshotDocument registry manifest now machines).seen.validate controllerID
        infrastructureID = none ∧
      (snapshotDocument registry manifest now machines).seen = seen := by
  rw [decode_document h hlength] at hseen
  split at hseen
  · cases hseen
  · rename_i hvalid
    exact ⟨hvalid, Except.ok.inj hseen⟩

theorem relayedGaps_seen (machines : List SnapshotMachine) :
    relayedGaps (machines.map SnapshotMachine.seen) = gapCount machines := by
  rw [relayedGaps, gapCount, List.map_map]
  congr 1
  apply List.map_congr_left
  intro m _
  obtain ⟨machineID, enrollmentStatus, observation⟩ := m
  cases observation with
  | none => rfl
  | some o => rfl

/-- A document of entries with clear times passes. -/
theorem document_accepted (hregistry : registry.Admitted) (hmanifest : manifest.validate = none)
    (hready : registry.readerReady = true) (hnow : Rfc3339.Writable now)
    (hentries : ∀ machine stored, store machine = some stored →
      Entered machine stored ∧ Clear stored ∧
        ∃ t, stored.receivedAt = Rfc3339.format t ∧ t ≤ now)
    (hshows : List.Forall₂ (Shows store) registry.machines machines)
    (hcount : gapCount machines ≤ maxSnapshotGaps) :
    (snapshotDocument registry manifest now machines).seen.validate manifest.controllerID
      registry.infrastructureID = none := by
  have hlength : (machines.map SnapshotMachine.seen).length ≤ maxMachines := by
    rw [List.length_map, ← hshows.length_eq]
    exact hregistry.count
  have hnames : (machines.map SnapshotMachine.seen).map RelaySnapshotMachine.machineID =
      machines.map SnapshotMachine.machineID := by
    rw [List.map_map]
    rfl
  have hmachines : validateMachines now [] 0 (machines.map SnapshotMachine.seen) = none := by
    apply validateMachines_ok
    · rw [hnames]
      refine List.pairwise_cons.2 ⟨fun name hname => ?_,
        List.pairwise_map.2 (shown_sorted hregistry hshows)⟩
      rw [shown_names hshows] at hname
      obtain ⟨entry, hentry, rfl⟩ := List.mem_map.1 hname
      have hvalid := (Enrollment.validateEntry_ok (hregistry.entries entry hentry)).1
      cases hid : entry.machineID with
      | nil =>
          rw [hid] at hvalid
          cases hvalid
      | cons b rest => exact List.nil_lt_cons b rest
    · intro m hm
      obtain ⟨k, hk, rfl⟩ := List.mem_map.1 hm
      obtain ⟨entry, hentry, hshown⟩ := shown_entry hshows k hk
      obtain ⟨hmachine, hstatus⟩ := Enrollment.validateEntry_ok (hregistry.entries entry hentry)
      cases hshown with
      | unseen hnone => exact ⟨hmachine, hstatus, fun o ho => by cases ho⟩
      | seen hstore hview =>
          refine ⟨hmachine, hstatus, fun o ho => ?_⟩
          rw [← Option.some.inj ho]
          obtain ⟨hentered, hclear, hreceived⟩ := hentries _ _ hstore
          exact view_accepted hentered hclear hview hreceived
    · rw [relayedGaps_seen, Nat.zero_add]
      exact hcount
  have hcontroller := Manifest.controllerID_of_validate hmanifest
  have hinfrastructure := hregistry.infrastructureID hready
  unfold RelaySnapshot.validate SnapshotDocument.seen snapshotDocument
  dsimp only
  rw [if_neg (not_not.2 rfl), if_neg (by rw [hcontroller]; simp), if_neg (by rw [hinfrastructure]; simp),
    parseCanonicalUTC_format.2 ⟨hnow, rfl⟩]
  dsimp only
  rw [Slice.items_some, if_neg (not_or.2 ⟨Option.some_ne_none _, not_lt.2 hlength⟩)]
  exact hmachines

end Document

/-! ## A document after clear messages -/

/-- A message that is stored as new: its time and those of its ranges are of
years of four digits, and the ranges were observed in order. -/
def StoresClearly (store : ObservationStore) (message : Message) : Prop :=
  message.published = true → ∀ e ∈ (decode message.encoded).toOption,
    e.machineID = message.machine → Stores (store message.machine) e →
      writable e.observedAt = true ∧ observedClearly e.gaps = true

instance (store : ObservationStore) (message : Message) :
    Decidable (StoresClearly store message) :=
  inferInstanceAs (Decidable (message.published = true →
    ∀ e ∈ (decode message.encoded).toOption, e.machineID = message.machine →
      Stores (store message.machine) e →
        writable e.observedAt = true ∧ observedClearly e.gaps = true))

private theorem run_clear {messages : List Message} {now : Instant}
    (hok : Admits step StoresClearly empty messages)
    (hclock : ∀ message ∈ messages, message.receivedAt ≤ now) :
    Each (fun machine stored => Entered machine stored ∧ Clear stored ∧
      ∃ t, stored.receivedAt = Rfc3339.format t ∧ t ≤ now) (run step empty messages) := by
  refine run_invariant_of_admits (fun store message hstore hok => ?_) (each_empty _)
    (admits_and hok hclock)
  apply step_each hstore
  intro e hdecode hown hpublished hstores
  have hmem : e ∈ (decode message.encoded).toOption := by
    rw [hdecode]
    rfl
  obtain ⟨hobserved, hgaps⟩ := hok.1 hpublished e hmem hown hstores
  refine ⟨new_entered (hstore.1 _) hdecode hown hstores, ?_, message.receivedAt, rfl, hok.2⟩
  exact new_clear (hstore.1 _) (fun stored hstored => (hstore.2 _ stored hstored).2.1) hdecode
    hstores hobserved hgaps

/-- The Controller accepts the document of a Relay all of whose messages had
clear times, whatever registry is in force. -/
theorem snapshot_accepted {messages : List Message} {document : Bytes} {registry : Registry}
    {manifest : Manifest} {now : Instant} {data : Bytes}
    (hok : Admits step StoresClearly empty messages)
    (hclock : ∀ message ∈ messages, message.receivedAt ≤ now) (hnow : Rfc3339.Writable now)
    (hregistry : Enrollment.decode document = .ok registry)
    (hmanifest : manifest.validate = none)
    (hdata : snapshot registry manifest (run step empty messages) now = .ok data) :
    ∃ seen, decodeRelaySnapshot data manifest.controllerID registry.infrastructureID = .ok seen := by
  have hregistry := Enrollment.decode_admitted hregistry
  have hentries := (run_clear hok hclock).2
  obtain ⟨hready, -, hlength, machines, hshows, hcount, rfl⟩ := snapshot_ok hregistry hdata
  have hrepresentable : (snapshotDocument registry manifest now machines).Representable :=
    document_representable hregistry hmanifest hready
      (fun machine stored hstored => (hentries machine stored hstored).1) hshows
  rw [decode_document hrepresentable hlength,
    document_accepted hregistry hmanifest hready hnow hentries hshows hcount]
  exact ⟨_, rfl⟩

namespace Sample

open Observation.Sample

def controllerID : Bytes := text "22222222-2222-4222-8222-222222222222"

def infrastructureID : Bytes := text "11111111-1111-4111-8111-111111111111"

def manifest : Manifest :=
  { schemaVersion := 1, controllerID, infrastructureID,
    uri := readerURI infrastructureID controllerID, certificateSerial := text "0a",
    certificateSHA256 := List.replicate 64 0x61, status := text "active" }

/-- The file of a registry with two machines, the first in a state of one's choice. -/
def registryFile (status : Bytes) : Bytes :=
  text "\x7b\"schema\":2,\"infrastructure_id\":\"" ++ infrastructureID ++
    text "\",\"machines\":[" ++ line machine (text "0b") status ++ text "," ++
    line (text "lab-machine-2") (text "0c") (text "active") ++ text "]\x7d"
where
  line (machine serial status : Bytes) : Bytes :=
    text "\x7b\"machine_id\":\"" ++ machine ++ text "\",\"certificate_serial\":\"" ++ serial ++
      text "\",\"certificate_sha256\":\"" ++ List.replicate 64 0x62 ++
      text "\",\"status\":\"" ++ status ++ text "\"\x7d"

def registry : Registry :=
  ((Enrollment.decode (registryFile (text "active"))).toOption).getD
    { schema := 0, infrastructureID := [], machines := [] }

def arrival (e : Envelope) : Message :=
  { machine, encoded := e.json.render, receivedAt := now, published := true }

/-- A minute later. -/
def asked : Instant := now + 60000000000

/-- What the Controller says to the document after one message. -/
def verdict (e : Envelope) : Option (Except SnapshotProblem RelaySnapshot) :=
  (snapshot registry manifest (run step empty [arrival e]) asked).toOption.map fun data =>
    decodeRelaySnapshot data controllerID infrastructureID

end Sample

open Sample Observation.Sample in
/-- A clock set back between two discarded observations of one machine: the
document of both machines is refused. -/
theorem one_spoils_all :
    (history step empty [arrival (thirdAt (text "2026-01-01T00:00:00Z"))]).map Prod.snd =
      [.ok (thirdAt (text "2026-01-01T00:00:00Z"), false)] ∧
      verdict (thirdAt (text "2026-01-01T00:00:00Z")) =
        some (.error { machine := some machine,
                       reason := "gap 0: gap observation interval is invalid" }) := by
  constructor
  · decide +kernel
  · decide +kernel

open Sample Observation.Sample in
/-- The same pieces observed in order. -/
theorem clear_accepted :
    ∃ data seen, snapshot registry manifest
        (run step empty [arrival (thirdAt (text "2026-01-01T02:00:20+02:00"))]) asked = .ok data ∧
      decodeRelaySnapshot data manifest.controllerID registry.infrastructureID = .ok seen := by
  have hok : Admits step StoresClearly empty
      [arrival (thirdAt (text "2026-01-01T02:00:20+02:00"))] := by decide +kernel
  have hregistry : Enrollment.decode (registryFile (text "active")) = .ok registry := by
    decide +kernel
  have hdata : (snapshot registry manifest
      (run step empty [arrival (thirdAt (text "2026-01-01T02:00:20+02:00"))]) asked).toOption.isSome =
      true := by decide +kernel
  cases hsnapshot : snapshot registry manifest
      (run step empty [arrival (thirdAt (text "2026-01-01T02:00:20+02:00"))]) asked with
  | error reason =>
      rw [hsnapshot] at hdata
      cases hdata
  | ok data =>
      have hclock : ∀ message ∈ [arrival (thirdAt (text "2026-01-01T02:00:20+02:00"))],
          message.receivedAt ≤ asked := by decide
      obtain ⟨seen, hseen⟩ := snapshot_accepted hok hclock (by decide) hregistry
        (by decide) hsnapshot
      exact ⟨data, seen, rfl, hseen⟩

/-! ## A later document -/

/-- A Relay that serves: the registry in force and the entries of the machines. -/
structure Serving where
  registry : Registry
  observations : ObservationStore

inductive Change where
  | save (message : Message)
  | reload (document : Bytes)
  deriving DecidableEq, Repr

/-- One message, or one reading of the registry's file. -/
def serve (serving : Serving) (change : Change) :
    Serving × (Except Refusal (Envelope × Bool) ⊕ Except Enrollment.Problem Unit) :=
  match change with
  | .save message =>
      ({ serving with observations := (step serving.observations message).1 },
        .inl (step serving.observations message).2)
  | .reload document =>
      ({ serving with registry := (Enrollment.reload document serving.registry).2 },
        .inr (Enrollment.reload document serving.registry).1)

/-- An entry is kept as it is, or replaced by a later one with the same ranges
and perhaps more behind them. -/
def Grows (before after : ObservationStore) : Prop :=
  ∀ machine stored, before machine = some stored → ∃ later, after machine = some later ∧
    (later = stored ∨ stored.sequence < later.sequence ∧ ∃ more, later.gaps = stored.gaps ++ more)

theorem Grows.refl (store : ObservationStore) : Grows store store :=
  fun _ stored hstored => ⟨stored, hstored, .inl rfl⟩

theorem Grows.trans {first second third : ObservationStore} (h : Grows first second)
    (h' : Grows second third) : Grows first third := by
  intro machine stored hstored
  obtain ⟨next, hnext, hcase⟩ := h machine stored hstored
  obtain ⟨last, hlast, hcase'⟩ := h' machine next hnext
  refine ⟨last, hlast, ?_⟩
  rcases hcase' with rfl | ⟨hlt', more', hmore'⟩
  · exact hcase
  · rcases hcase with rfl | ⟨hlt, more, hmore⟩
    · exact .inr ⟨hlt', more', hmore'⟩
    · exact .inr ⟨hlt.trans hlt', more ++ more', by rw [hmore', hmore, List.append_assoc]⟩

/-- One message, where the entry of its machine is one of a run. -/
theorem step_grows {store : ObservationStore}
    (hkept : ∀ machine, ∃ received, Kept received (store machine)) (message : Message) :
    Grows store (step store message).1 := by
  unfold step
  dsimp only
  rcases save_outcome message.machine message.encoded message.receivedAt message.published store
    with ⟨_, hsave⟩ | ⟨_, _, -, -, -, hsave⟩ | ⟨e, hdecode, -, -, hstores, hsave⟩
  · rw [hsave]
    exact Grows.refl store
  · rw [hsave]
    exact Grows.refl store
  · rw [hsave]
    intro machine stored hstored
    dsimp only
    by_cases heq : machine = message.machine
    · subst heq
      obtain ⟨received, hkept⟩ := hkept message.machine
      have hgaps := (received_gaps hkept hdecode hstores message.receivedAt).2
      rw [if_pos rfl]
      refine ⟨_, rfl, .inr ⟨?_,
        joined (lastStored (store message.machine) + 1) (e.sequence - 1) e.gaps, ?_⟩⟩
      · have hlater := hstores.1
        rw [hstored] at hlater
        exact hlater
      · rw [hgaps, hstored]
        rfl
    · rw [if_neg heq]
      exact ⟨stored, hstored, .inl rfl⟩

/-- What every state of a serving Relay satisfies. -/
structure Regular (serving : Serving) : Prop where
  registry : serving.registry.Admitted
  observations : Each Entered serving.observations

theorem serve_regular {serving : Serving} (h : Regular serving) (change : Change) :
    Regular (next serve serving change) := by
  cases change with
  | save message =>
      refine ⟨h.registry, ?_⟩
      apply step_each h.observations
      intro e hdecode hown _ hstores
      exact new_entered (h.observations.1 _) hdecode hown hstores
  | reload document => exact ⟨(Enrollment.reload_keeps document h.registry).1, h.observations⟩

/-- A Relay later in a run. -/
structure Later (before after : Serving) : Prop where
  registry : Enrollment.Follows before.registry after.registry
  observations : Grows before.observations after.observations

theorem serve_later {serving : Serving} (h : Regular serving) (change : Change) :
    Later serving (next serve serving change) := by
  cases change with
  | save message => exact ⟨Enrollment.Follows.refl _, step_grows h.observations.1 message⟩
  | reload document =>
      exact ⟨(Enrollment.reload_keeps document h.registry).2, Grows.refl _⟩

theorem run_later {serving : Serving} (h : Regular serving) (changes : List Change) :
    Regular (run serve serving changes) ∧ Later serving (run serve serving changes) := by
  have hstep : ∀ s change, (Regular s ∧ Later serving s) →
      Regular (next serve s change) ∧ Later serving (next serve s change) := by
    intro s change hs
    have hlater := serve_later hs.1 change
    exact ⟨serve_regular hs.1 change, hs.2.registry.trans hlater.registry,
      hs.2.observations.trans hlater.observations⟩
  exact run_invariant hstep ⟨h, Enrollment.Follows.refl _, Grows.refl _⟩ changes

/-- The ranges of an entry are among those of one that was added to. -/
theorem gaps_preserved {machine : Bytes} {stored later : StoredObservation}
    (h : Entered machine stored) {more : List Gap} (hmore : later.gaps = stored.gaps ++ more) :
    gapsPreserved (stored.gaps.map universal) (later.gaps.map universal) = true := by
  rw [hmore, List.map_append]
  apply gapsPreserved_append
  · rw [List.pairwise_map]
    apply h.apart.imp
    intro left right hbefore
    unfold Before at hbefore
    rw [(universal_numbers left).2.1, (universal_numbers right).1]
    omega
  · intro gap hgap
    obtain ⟨known, hknown, rfl⟩ := List.mem_map.1 hgap
    rw [(universal_numbers known).1, (universal_numbers known).2.1]
    exact (h.bounds known hknown).1

/-- The views of one machine in two documents. -/
theorem view_allowed {machine : Bytes} {before after : SnapshotMachine} {first last : Entry}
    {store store' : ObservationStore} (hbefore : Each Entered store)
    (hafter : Each Entered store') (hgrows : Grows store store')
    (hshown : Shows store first before) (hshown' : Shows store' last after)
    (hfirst : first.machineID = machine) (hlast : last.machineID = machine)
    (hrevoked : first.status = Enrollment.statusRevoked →
      last.status = Enrollment.statusRevoked) :
    allowsMachine before.seen after.seen = none := by
  have hstatus : before.seen.enrollmentStatus = first.status := by
    cases hshown with
    | unseen h => rfl
    | seen h hview => rfl
  have hstatus' : after.seen.enrollmentStatus = last.status := by
    cases hshown' with
    | unseen h => rfl
    | seen h hview => rfl
  apply allowsMachine_ok
  · rw [hstatus, hstatus']
    exact hrevoked
  · cases hshown with
    | unseen h => exact fun o ho => by cases ho
    | seen hstored hview =>
        rename_i stored view
        intro o ho
        rw [← Option.some.inj ho]
        obtain ⟨later, hlater, hcase⟩ := hgrows _ stored hstored
        rw [hfirst, ← hlast] at hlater
        cases hshown' with
        | unseen hnone =>
            rw [hnone] at hlater
            cases hlater
        | seen hstored' hview' =>
            rename_i stored' view'
            obtain rfl := Option.some.inj (hstored'.symm.trans hlater)
            refine ⟨view'.seen, rfl, ?_⟩
            rcases hcase with rfl | ⟨hlt, more, hmore⟩
            · exact .inl (by rw [Except.ok.inj (hview.symm.trans hview')])
            · have hsequence := (hbefore.2 _ stored hstored).sequence
              have hsequence' := (hafter.2 _ stored' hstored').sequence
              have hpreserved := gaps_preserved (hbefore.2 _ stored hstored) hmore
              obtain ⟨_, _, -, -, -, rfl⟩ := view_ok hview
              obtain ⟨_, _, -, -, -, rfl⟩ := view_ok hview'
              refine .inr ⟨?_, hpreserved⟩
              show stored.envelope.sequence < stored'.envelope.sequence
              omega

/-- An honest Relay's later document may replace an earlier one. -/
theorem later_allowed {document : Bytes} {start : Registry}
    (hstart : Enrollment.decode document = .ok start) {before between : List Change}
    {manifest manifest' : Manifest} {now now' : Instant} (hnow : now ≤ now')
    {data data' controllerID infrastructureID : Bytes} {seen seen' : RelaySnapshot}
    (hmanifest : manifest.validate = none) (hmanifest' : manifest'.validate = none)
    (hdata : snapshot
      (run serve { registry := start, observations := empty } before).registry manifest
      (run serve { registry := start, observations := empty } before).observations now = .ok data)
    (hdata' : snapshot
      (run serve { registry := start, observations := empty } (before ++ between)).registry manifest'
      (run serve { registry := start, observations := empty } (before ++ between)).observations
      now' = .ok data')
    (hseen : decodeRelaySnapshot data controllerID infrastructureID = .ok seen)
    (hseen' : decodeRelaySnapshot data' controllerID infrastructureID = .ok seen') :
    allowsSnapshotTransition seen seen' = none := by
  have hinitial : Regular { registry := start, observations := empty } :=
    ⟨Enrollment.decode_admitted hstart, each_empty _⟩
  have hfirst := (run_later hinitial before).1
  rw [run_append] at hdata'
  obtain ⟨hsecond, hlater⟩ := run_later hfirst between
  generalize run serve { registry := start, observations := empty } before = first at *
  generalize run serve first between = second at *
  obtain ⟨hready, -, hlength, machines, hshows, -, rfl⟩ := snapshot_ok hfirst.registry hdata
  obtain ⟨hready', -, hlength', machines', hshows', -, rfl⟩ := snapshot_ok hsecond.registry hdata'
  obtain ⟨hvalid, rfl⟩ := decoded_document (document_representable hfirst.registry hmanifest hready
    hfirst.observations.2 hshows) hlength hseen
  obtain ⟨hvalid', rfl⟩ := decoded_document (document_representable hsecond.registry hmanifest'
    hready' hsecond.observations.2 hshows') hlength' hseen'
  obtain ⟨hcontroller, hinfrastructure, t, ht⟩ := RelaySnapshot.validate_ok hvalid
  obtain ⟨hcontroller', hinfrastructure', u, hu⟩ := RelaySnapshot.validate_ok hvalid'
  obtain ⟨-, rfl⟩ := parseCanonicalUTC_format.1 ht
  obtain ⟨-, rfl⟩ := parseCanonicalUTC_format.1 hu
  apply allowsSnapshotTransition_ok (hcontroller.trans hcontroller'.symm)
    (hinfrastructure.trans hinfrastructure'.symm) ht hu hnow
  apply allowsMachines_ok
  · intro previous hprevious
    obtain ⟨m, hm, rfl⟩ := List.mem_map.1 (mem_machinesByID hprevious)
    obtain ⟨entry, hentry, hshown⟩ := shown_entry hshows m hm
    obtain ⟨other, hother, heq, -⟩ := hlater.registry.entries entry hentry
    obtain ⟨m', hm', hshown'⟩ := entry_shown hshows' other hother
    refine ⟨m'.seen, List.mem_map_of_mem hm', ?_⟩
    show m'.machineID = m.machineID
    rw [hshown'.machineID, hshown.machineID, heq]
  · intro previous hprevious next hnext heq
    obtain ⟨m, hm, rfl⟩ := List.mem_map.1 (mem_machinesByID hprevious)
    obtain ⟨m', hm', rfl⟩ := List.mem_map.1 hnext
    obtain ⟨entry, hentry, hshown⟩ := shown_entry hshows m hm
    obtain ⟨entry', hentry', hshown'⟩ := shown_entry hshows' m' hm'
    have heq : entry'.machineID = entry.machineID := by
      rw [← hshown'.machineID, ← hshown.machineID]
      exact heq
    obtain ⟨other, hother, hother', -, -, hrevoked⟩ := hlater.registry.entries entry hentry
    obtain rfl := hsecond.registry.unique hother hentry' (hother'.trans heq.symm)
    exact view_allowed hfirst.observations hsecond.observations hlater.observations hshown hshown'
      rfl heq hrevoked

namespace Sample

open Observation.Sample

/-- A message of sequence six after that of sequence three. -/
def sixth : Envelope :=
  { third with
    sequence := 6
    gaps := [{ firstSequence := 4, lastSequence := 5, droppedCount := 2,
               firstObservedAt := text "2026-01-01T00:01:00Z",
               lastObservedAt := text "2026-01-01T00:02:00Z" }] }

def start : Serving := { registry, observations := empty }

def early : List Change := [.save (arrival third)]

/-- Another message, and the machine is revoked. -/
def late : List Change := [.save (arrival sixth), .reload (registryFile (text "revoked"))]

/-- What is served and read after some changes. -/
def read (changes : List Change) (instant : Instant) : Option (Bytes × RelaySnapshot) := do
  let data ← (snapshot (run serve start changes).registry manifest
    (run serve start changes).observations instant).toOption
  let seen ← (decodeRelaySnapshot data controllerID infrastructureID).toOption
  return (data, seen)

theorem of_toOption {ε α : Type} {x : Except ε α} {a : α} (h : x.toOption = some a) :
    x = .ok a := by
  cases x with
  | error e => cases h
  | ok b => exact congrArg _ (Option.some.inj h)

theorem read_ok {changes : List Change} {instant : Instant} {data : Bytes} {seen : RelaySnapshot}
    (h : read changes instant = some (data, seen)) :
    snapshot (run serve start changes).registry manifest (run serve start changes).observations instant =
        .ok data ∧
      decodeRelaySnapshot data controllerID infrastructureID = .ok seen := by
  unfold read at h
  obtain ⟨data', hdata, h⟩ := Option.bind_eq_some_iff.1 h
  obtain ⟨seen', hseen, h⟩ := Option.bind_eq_some_iff.1 h
  obtain ⟨rfl, rfl⟩ := Prod.mk.inj (Option.some.inj h)
  exact ⟨of_toOption hdata, of_toOption hseen⟩

end Sample

open Sample Observation.Sample in
/-- Two documents, a message and a revocation apart. -/
theorem revoked_allowed :
    ∃ first last, read early asked = some first ∧ read (early ++ late) (asked + 1) = some last ∧
      allowsSnapshotTransition first.2 last.2 = none := by
  have hfirst : (read early asked).isSome = true := by decide +kernel
  have hlast : (read (early ++ late) (asked + 1)).isSome = true := by decide +kernel
  obtain ⟨first, hfirst⟩ := Option.isSome_iff_exists.1 hfirst
  obtain ⟨last, hlast⟩ := Option.isSome_iff_exists.1 hlast
  have hstart : Enrollment.decode (registryFile (text "active")) = .ok registry := by
    decide +kernel
  have hmanifest : manifest.validate = none := by decide
  have hle : asked ≤ asked + 1 := by decide
  obtain ⟨hdata, hseen⟩ := read_ok hfirst
  obtain ⟨hdata', hseen'⟩ := read_ok hlast
  exact ⟨first, last, hfirst, hlast,
    later_allowed hstart hle hmanifest hmanifest hdata hdata' hseen hseen'⟩

end YourCloud.Relay
