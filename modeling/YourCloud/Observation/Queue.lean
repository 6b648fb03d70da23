import YourCloud.Observation.Buffer
import YourCloud.Observation.Store

/-!
# What a queue says of the sequences

The pending observations of a queue have consecutive sequences that end right
before the next one, so its oldest sequence is known from the lengths alone.
What lies between the Relay's last sequence and the oldest one is one range,
and it stands in one of two places: with the queue, or with its oldest
observation once that one was looked at.

Beside the Relay's entry a queue is in one of two states.  Either its oldest
observation has not arrived and the range is exactly what the Relay is going to
ask for, or it has, under the very bytes that would be sent again.

## Main results

* `Queued` and `Advances` for each operation of the queue.
* `Aligned.accepted` — beside an aligned entry the oldest observation is
  accepted.
* `enforce_aligned` — the limits keep the alignment where they keep what the
  Relay has stored.
-/

namespace YourCloud.Observation

open YourCloud.Foundation

/-! ## Consecutive sequences -/

/-- The sequences of a list count from one number up to another. -/
def Follows (first : Nat) : List Envelope → Nat → Prop
  | [], last => first = last
  | e :: rest, last => e.sequence = first ∧ Follows (first + 1) rest last

theorem Follows.length {first last : Nat} {pending : List Envelope}
    (h : Follows first pending last) : first + pending.length = last := by
  induction pending generalizing first with
  | nil => exact h
  | cons e rest ih =>
      have := ih h.2
      rw [List.length_cons]
      omega

theorem Follows.append {first last : Nat} {pending : List Envelope} {e : Envelope}
    (h : Follows first pending last) (he : e.sequence = last) :
    Follows first (pending ++ [e]) (last + 1) := by
  induction pending generalizing first with
  | nil =>
      have hfirst : first = last := h
      exact ⟨he.trans hfirst.symm, congrArg (· + 1) hfirst⟩
  | cons head rest ih => exact ⟨h.1, ih h.2⟩

theorem Follows.mem {first last n : Nat} {pending : List Envelope}
    (h : Follows first pending last) (hn : n ∈ pending.map Envelope.sequence) : first ≤ n := by
  induction pending generalizing first with
  | nil => exact absurd hn List.not_mem_nil
  | cons e rest ih =>
      rw [List.map_cons, List.mem_cons] at hn
      rcases hn with rfl | hn
      · exact h.1.ge
      · have := ih h.2 hn
        omega

/-- The sequence after the last one a state gave; the counter wraps to zero
after the largest. -/
def State.upTo (s : State) : Nat := if s.nextSequence = 0 then 2 ^ 64 else s.nextSequence

/-- The oldest sequence that a state still holds, or else the next one. -/
def State.first (s : State) : Nat := s.upTo - s.pending.items.length

/-- The pending sequences of a state. -/
def State.sequences (s : State) : List Nat := s.pending.items.map Envelope.sequence

/-- What every state of a Daemon satisfies by itself. -/
structure Queued (machine : Bytes) (s : State) : Prop where
  representable : s.Representable
  positive : 0 < s.first
  follows : Follows s.first s.pending.items s.upTo
  machine : ∀ e ∈ s.pending.items, e.machineID = machine
  /-- Only the oldest observation carries ranges, -/
  bare : ∀ e ∈ s.pending.items.tail, e.gaps = []
  /-- and never beside the queue. -/
  once : ∀ oldest ∈ s.pending.items.head?, oldest.gaps = [] ∨ s.gaps.items = []

/-- What the oldest observation and the queue say of the sequences before. -/
def State.skipped (s : State) : List Gap :=
  ((s.pending.items.head?).map Envelope.gaps).getD [] ++ s.gaps.items

/-- A state that comes of another: it may have left observations behind, and
where it left none it has the same oldest observation, unless that one was
about to take up the ranges. -/
def Advances (s s' : State) : Prop :=
  s.first ≤ s'.first ∧
    (s.first = s'.first → s.gaps.items = [] → ∀ oldest rest, s.pending.items = oldest :: rest →
      s'.gaps.items = [] ∧ ∃ rest', s'.pending.items = oldest :: rest')

theorem Advances.refl (s : State) : Advances s s :=
  ⟨le_refl _, fun _ hgaps _ rest hpending => ⟨hgaps, rest, hpending⟩⟩

theorem Advances.trans {s t u : State} (hst : Advances s t) (htu : Advances t u) :
    Advances s u := by
  constructor
  · exact hst.1.trans htu.1
  · intro hfirst hgaps oldest rest hpending
    have hle := hst.1
    have hle' := htu.1
    obtain ⟨hgaps', rest', hpending'⟩ := hst.2 (by omega) hgaps oldest rest hpending
    exact htu.2 (by omega) hgaps' oldest rest' hpending'

/-- A state with the same queue. -/
structure SameQueue (s s' : State) : Prop where
  nextSequence : s'.nextSequence = s.nextSequence
  pending : s'.pending.items = s.pending.items
  gaps : s'.gaps.items = s.gaps.items

theorem SameQueue.first {s s' : State} (h : SameQueue s s') : s'.first = s.first := by
  rw [State.first, State.first, State.upTo, State.upTo, h.nextSequence, h.pending]

theorem SameQueue.advances {s s' : State} (h : SameQueue s s') : Advances s s' := by
  refine ⟨h.first.ge, fun _ hgaps oldest rest hpending => ?_⟩
  rw [h.gaps, h.pending]
  exact ⟨hgaps, rest, hpending⟩

theorem SameQueue.queued {machine : Bytes} {s s' : State} (h : SameQueue s s')
    (hs : Queued machine s) (hrepresentable : s'.Representable) : Queued machine s' where
  representable := hrepresentable
  positive := h.first ▸ hs.positive
  follows := by
    have hupTo : s'.upTo = s.upTo := by rw [State.upTo, State.upTo, h.nextSequence]
    rw [h.first, h.pending, hupTo]
    exact hs.follows
  machine := h.pending ▸ hs.machine
  bare := h.pending ▸ hs.bare
  once := by
    rw [h.pending, h.gaps]
    exact hs.once

theorem SameQueue.skipped {s s' : State} (h : SameQueue s s') : s'.skipped = s.skipped := by
  rw [State.skipped, State.skipped, h.pending, h.gaps]

theorem cloneState_same (s : State) : SameQueue s (cloneState s) :=
  ⟨rfl, rfl, Slice.items_fresh _⟩

theorem cloneState_representable {s : State} (h : s.Representable) :
    (cloneState s).Representable :=
  { h with
    gaps := by
      rw [(cloneState_same s).gaps]
      exact h.gaps }

/-- A change of the delivery state leaves the queue. -/
theorem transitioned_same (value : Bytes) (changedAt : Instant) (s : State) :
    SameQueue s (transitioned value changedAt s) :=
  ⟨rfl, rfl, Slice.items_fresh _⟩

private theorem format_valid (t : Instant) : Valid (Rfc3339.format t) :=
  (Rfc3339.format_plain t).valid

theorem transitioned_representable {value : Bytes} (hvalue : Valid value) (changedAt : Instant)
    {s : State} (h : s.Representable) : (transitioned value changedAt s).Representable :=
  { cloneState_representable h with
    deliveryState := hvalue
    lastTransition := format_valid changedAt }

/-! ## One more observation -/

theorem newEnvelope_representable {machineID : Bytes} {sequence : Nat} {now : Instant}
    {health : HostHealth} {external : List ExternalReading} {e : Envelope}
    (h : newEnvelope machineID sequence now health external = .ok e)
    (hsequence : sequence < 2 ^ 64) : e.Representable := by
  obtain ⟨rfl, hvalid⟩ := newEnvelope_ok h
  exact representable_of_validate hvalid hsequence (format_valid now)
    fun gap hgap => absurd hgap List.not_mem_nil

section Appended

variable {machine : Bytes} {s : State} {now : Instant} {health : HostHealth}
  {external : List ExternalReading} {envelope : Envelope}

theorem appended_upTo (h : newEnvelope machine s.nextSequence now health external = .ok envelope)
    (hs : s.nextSequence < 2 ^ 64) :
    s.upTo = s.nextSequence ∧ (appended s envelope).upTo = s.nextSequence + 1 := by
  obtain ⟨rfl, hvalid⟩ := newEnvelope_ok h
  have hne : s.nextSequence ≠ 0 := sequence_of_validate hvalid
  refine ⟨if_neg hne, ?_⟩
  show (if wrap (s.nextSequence + 1) = 0 then 2 ^ 64 else wrap (s.nextSequence + 1)) = _
  unfold wrap
  split
  · omega
  · omega

theorem appended_first (hs : Queued machine s)
    (h : newEnvelope machine s.nextSequence now health external = .ok envelope) :
    (appended s envelope).first = s.first := by
  obtain ⟨hupTo, hupTo'⟩ := appended_upTo h hs.representable.nextSequence
  rw [State.first, State.first, hupTo, hupTo']
  show s.nextSequence + 1 - (s.pending.items ++ [envelope]).length = _
  rw [List.length_append, List.length_singleton]
  omega

theorem appended_skipped
    (h : newEnvelope machine s.nextSequence now health external = .ok envelope) :
    (appended s envelope).skipped = s.skipped := by
  obtain ⟨rfl, -⟩ := newEnvelope_ok h
  rw [State.skipped, State.skipped]
  show (Option.map Envelope.gaps (s.pending.items ++ [_]).head?).getD [] ++
    (Slice.fresh s.gaps.items).items = _
  rw [Slice.items_fresh]
  cases s.pending.items with
  | nil => rfl
  | cons oldest rest => rfl

theorem appended_advances (hs : Queued machine s)
    (h : newEnvelope machine s.nextSequence now health external = .ok envelope) :
    Advances s (appended s envelope) := by
  refine ⟨(appended_first hs h).ge, fun _ hgaps oldest rest hpending => ⟨?_, ?_⟩⟩
  · exact (Slice.items_fresh s.gaps.items).trans hgaps
  · refine ⟨rest ++ [envelope], ?_⟩
    show s.pending.items ++ [envelope] = _
    rw [hpending, List.cons_append]

theorem appended_queued (hs : Queued machine s)
    (h : newEnvelope machine s.nextSequence now health external = .ok envelope) :
    Queued machine (appended s envelope) := by
  obtain ⟨hupTo, hupTo'⟩ := appended_upTo h hs.representable.nextSequence
  have hrepresentable := newEnvelope_representable h hs.representable.nextSequence
  have hfirst := appended_first hs h
  have hgaps : (appended s envelope).gaps.items = s.gaps.items := Slice.items_fresh _
  obtain ⟨hfields, -⟩ := newEnvelope_ok h
  have hbare : envelope.gaps = [] := by rw [hfields]
  have hitems : (appended s envelope).pending.items = s.pending.items ++ [envelope] := rfl
  have hmem : ∀ {q : Envelope → Prop}, (∀ e ∈ s.pending.items, q e) → q envelope →
      ∀ e ∈ (appended s envelope).pending.items, q e := by
    intro q hall hnew e he
    rw [hitems, List.mem_append, List.mem_singleton] at he
    rcases he with he | rfl
    · exact hall e he
    · exact hnew
  exact
    { representable :=
        { cloneState_representable hs.representable with
          nextSequence := Nat.mod_lt _ (by decide)
          current := fun e he => Option.some.inj he ▸ hrepresentable
          pending := hmem hs.representable.pending hrepresentable }
      positive := hfirst ▸ hs.positive
      follows := by
        rw [hfirst, hupTo', hitems]
        apply Follows.append
        · exact hupTo ▸ hs.follows
        · rw [hfields]
      machine := hmem hs.machine (by rw [hfields])
      bare := by
        rw [hitems]
        have hbares := hs.bare
        cases hpending : s.pending.items with
        | nil => exact fun e he => absurd he List.not_mem_nil
        | cons oldest rest =>
            rw [hpending] at hbares
            intro e he
            rw [List.cons_append, List.tail_cons, List.mem_append, List.mem_singleton] at he
            rcases he with he | rfl
            · exact hbares e he
            · exact hbare
      once := by
        rw [hitems, hgaps]
        have honce := hs.once
        cases hpending : s.pending.items with
        | nil =>
            intro oldest holdest
            obtain rfl : envelope = oldest := Option.some.inj holdest
            exact .inl hbare
        | cons oldest rest =>
            rw [hpending] at honce
            exact honce }

end Appended

/-! ## The oldest observation leaves, or takes up the ranges -/

section Oldest

variable {machine : Bytes} {s : State} {oldest : Envelope} {rest : List Envelope}

theorem Queued.head (hs : Queued machine s) (h : s.pending.items = oldest :: rest) :
    oldest.sequence = s.first ∧ Follows (s.first + 1) rest s.upTo := by
  have hfollows := hs.follows
  rwa [h] at hfollows

/-- A state that left the oldest observation behind. -/
structure Leaves (s s' : State) (rest : List Envelope) : Prop where
  nextSequence : s'.nextSequence = s.nextSequence
  pending : s'.pending.items = rest

theorem Leaves.first {s' : State} (h : Leaves s s' rest) (hs : Queued machine s)
    (hpending : s.pending.items = oldest :: rest) : s'.first = s.first + 1 := by
  have hlength := hs.follows.length
  have hpositive := hs.positive
  rw [hpending, List.length_cons] at hlength
  have hupTo : s'.upTo = s.upTo := by rw [State.upTo, State.upTo, h.nextSequence]
  rw [State.first, h.pending, hupTo]
  omega

theorem Leaves.advances {s' : State} (h : Leaves s s' rest) (hs : Queued machine s)
    (hpending : s.pending.items = oldest :: rest) : Advances s s' := by
  have hfirst := h.first hs hpending
  exact ⟨by omega, fun heq => by omega⟩

theorem Leaves.queued {s' : State} (h : Leaves s s' rest) (hs : Queued machine s)
    (hpending : s.pending.items = oldest :: rest) (hrepresentable : s'.Representable) :
    Queued machine s' := by
  have hfirst := h.first hs hpending
  have hupTo : s'.upTo = s.upTo := by rw [State.upTo, State.upTo, h.nextSequence]
  have hbare : ∀ e ∈ rest, e.gaps = [] := by
    have := hs.bare
    rwa [hpending] at this
  exact
    { representable := hrepresentable
      positive := by omega
      follows := by
        rw [hfirst, hupTo, h.pending]
        exact (hs.head hpending).2
      machine := by
        rw [h.pending]
        intro e he
        apply hs.machine
        rw [hpending]
        exact List.mem_cons_of_mem _ he
      bare := by
        rw [h.pending]
        exact fun e he => hbare e (List.mem_of_mem_tail he)
      once := by
        rw [h.pending]
        exact fun e he => .inl (hbare e (List.mem_of_head? he)) }

/-- What is skipped before the rest stands with the queue. -/
theorem Leaves.skipped {s' : State} (h : Leaves s s' rest) (hs : Queued machine s)
    (hpending : s.pending.items = oldest :: rest) : s'.skipped = s'.gaps.items := by
  have hbare : ∀ e ∈ rest, e.gaps = [] := by
    have := hs.bare
    rwa [hpending] at this
  rw [State.skipped, h.pending]
  cases rest with
  | nil => rfl
  | cons e rest =>
      show e.gaps ++ _ = _
      rw [hbare e List.mem_cons_self, List.nil_append]

theorem acknowledged_leaves (deliveredAt : Instant) :
    Leaves s (acknowledged deliveredAt s rest) rest :=
  ⟨rfl, Slice.items_fresh rest⟩

theorem acknowledged_representable (hs : s.Representable) (deliveredAt : Instant)
    (hpending : s.pending.items = oldest :: rest) :
    (acknowledged deliveredAt s rest).Representable :=
  { cloneState_representable hs with
    pending := by
      rw [(acknowledged_leaves deliveredAt).pending]
      intro e he
      apply hs.pending
      rw [hpending]
      exact List.mem_cons_of_mem _ he
    lastDelivered := format_valid deliveredAt }

theorem dropOldest_leaves : Leaves s (dropOldest s oldest rest) rest :=
  ⟨rfl, Slice.items_fresh rest⟩

theorem dropOldest_first (hs : Queued machine s) (hpending : s.pending.items = oldest :: rest) :
    (dropOldest s oldest rest).first = s.first + 1 :=
  dropOldest_leaves.first hs hpending

/-- The ranges an observation carried are added again as they were. -/
theorem foldl_addGap {first next : Nat} (hs : Queued machine s)
    (hpending : s.pending.items = oldest :: rest) (hspans : Spans s.skipped first next) :
    oldest.gaps.foldl addGap s.gaps.items = s.skipped := by
  have hskipped : s.skipped = oldest.gaps ++ s.gaps.items := by
    rw [State.skipped, hpending]
    rfl
  rcases hs.once oldest (by rw [hpending]; rfl) with hbare | hgaps
  · rw [hskipped, hbare]
    rfl
  · rw [hskipped, hgaps, List.append_nil] at hspans ⊢
    rcases hspans with ⟨-, hnil⟩ | ⟨gap, hone, -⟩
    · rw [hnil]
      rfl
    · rw [hone]
      rfl

theorem Queued.first_lt (hs : Queued machine s) (hpending : s.pending.items = oldest :: rest) :
    s.first < 2 ^ 64 := by
  have holdest := hs.representable.pending oldest (by rw [hpending]; exact List.mem_cons_self)
  rw [← (hs.head hpending).1]
  exact holdest.sequence

theorem dropOldest_skipped {first : Nat} (hs : Queued machine s)
    (hpending : s.pending.items = oldest :: rest) (hspans : Spans s.skipped first s.first) :
    (dropOldest s oldest rest).skipped =
      addGap s.skipped (single s.first oldest.observedAt) := by
  rw [dropOldest_leaves.skipped hs hpending, ← (hs.head hpending).1,
    ← foldl_addGap hs hpending hspans]
  rfl

theorem dropOldest_spans {first : Nat} (hs : Queued machine s)
    (hpending : s.pending.items = oldest :: rest) (hspans : Spans s.skipped first s.first) :
    Spans (dropOldest s oldest rest).skipped first (s.first + 1) ∧
      ∀ gap ∈ (dropOldest s oldest rest).skipped, gap.Representable := by
  have holdest := hs.representable.pending oldest (by rw [hpending]; exact List.mem_cons_self)
  have hbound := hs.first_lt hpending
  rw [dropOldest_skipped hs hpending hspans]
  refine ⟨addGap_spans oldest.observedAt hspans hbound, ?_⟩
  apply addGap_representable hspans hbound holdest.observedAt
  intro gap hgap
  rw [State.skipped, List.mem_append, hpending] at hgap
  rcases hgap with hgap | hgap
  · exact holdest.gaps gap hgap
  · exact hs.representable.gaps gap hgap

theorem dropOldest_queued {first : Nat} (hs : Queued machine s)
    (hpending : s.pending.items = oldest :: rest) (hspans : Spans s.skipped first s.first) :
    Queued machine (dropOldest s oldest rest) := by
  apply dropOldest_leaves.queued hs hpending
  have hgaps := (dropOldest_spans hs hpending hspans).2
  rw [dropOldest_leaves.skipped hs hpending] at hgaps
  exact
    { hs.representable with
      pending := by
        rw [dropOldest_leaves.pending]
        intro e he
        apply hs.representable.pending
        rw [hpending]
        exact List.mem_cons_of_mem _ he
      gaps := hgaps }

theorem attached_first (hpending : s.pending.items = oldest :: rest) :
    (attached s oldest rest).first = s.first := by
  rw [State.first, State.first, hpending]
  rfl

/-- The ranges only change place. -/
theorem attached_skipped (hs : Queued machine s) (hpending : s.pending.items = oldest :: rest)
    (hgaps : s.gaps.items ≠ []) : (attached s oldest rest).skipped = s.skipped := by
  have hbare : oldest.gaps = [] :=
    (hs.once oldest (by rw [hpending]; rfl)).resolve_right hgaps
  rw [State.skipped, State.skipped, hpending]
  show s.gaps.items ++ [] = oldest.gaps ++ s.gaps.items
  rw [hbare, List.append_nil, List.nil_append]

theorem attached_advances (hpending : s.pending.items = oldest :: rest)
    (hgaps : s.gaps.items ≠ []) : Advances s (attached s oldest rest) :=
  ⟨(attached_first hpending).ge, fun _ hnil => absurd hnil hgaps⟩

theorem attached_queued (hs : Queued machine s) (hpending : s.pending.items = oldest :: rest) :
    Queued machine (attached s oldest rest) := by
  have hmem : ∀ {q : Envelope → Prop}, (∀ e ∈ s.pending.items, q e) →
      (q oldest → q { oldest with gaps := s.gaps.items }) →
      ∀ e ∈ (attached s oldest rest).pending.items, q e := by
    intro q hall holdest e he
    rw [hpending] at hall
    rcases List.mem_cons.1 he with rfl | he
    · exact holdest (hall oldest List.mem_cons_self)
    · exact hall e (List.mem_cons_of_mem _ he)
  exact
    { representable :=
        { cloneState_representable hs.representable with
          pending := hmem hs.representable.pending fun h =>
            { h with gaps := hs.representable.gaps }
          gaps := fun gap hgap => absurd hgap List.not_mem_nil }
      positive := attached_first hpending ▸ hs.positive
      follows := by
        rw [attached_first hpending]
        have hhead := hs.head hpending
        exact ⟨hhead.1, hhead.2⟩
      machine := hmem hs.machine fun h => h
      bare := by
        have := hs.bare
        rwa [hpending] at this
      once := fun _ _ => .inr rfl }

end Oldest

/-! ## Beside the Relay's entry -/

/-- The last sequence the Relay has stored, zero before the first. -/
def lastStored (entry : Option StoredObservation) : Nat :=
  (entry.map StoredObservation.sequence).getD 0

/-- The queue's oldest observation is one the Relay is going to accept. -/
inductive Aligned (entry : Option StoredObservation) (s : State) : Prop
  /-- It has not arrived, and the ranges before it are what the Relay skipped. -/
  | waiting (spans : Spans s.skipped (lastStored entry + 1) s.first)
  /-- It has arrived as it would be sent again. -/
  | delivered (current : StoredObservation) (oldest : Envelope) (rest : List Envelope)
      (encoded : Bytes) (stored : entry = some current)
      (pending : s.pending.items = oldest :: rest) (gaps : s.gaps.items = [])
      (encode : oldest.encode = .ok encoded) (sequence : current.sequence = oldest.sequence)
      (digest : current.sha256 = sha256Hex encoded)

/-- The limits keep what the Relay has stored and the queue still holds. -/
def Keeps (entry : Option StoredObservation) (before after : State) : Prop :=
  ∀ current ∈ entry, current.sequence ∈ before.sequences → current.sequence ∈ after.sequences

instance (entry : Option StoredObservation) (before after : State) :
    Decidable (Keeps entry before after) :=
  inferInstanceAs (Decidable (∀ current ∈ entry, _ → _))

variable {machine : Bytes} {entry : Option StoredObservation} {s : State}

/-- The exact bytes of the oldest observation, nothing left to attach. -/
def Holds (s : State) (encoded : Bytes) : Prop :=
  s.gaps.items = [] ∧ ∃ oldest rest, s.pending.items = oldest :: rest ∧
    oldest.encode = .ok encoded

theorem save_encoded {e : Envelope} {encoded : Bytes} (he : e.Representable)
    (hencode : e.encode = .ok encoded) (receivedAt : Instant) (published : Bool)
    (store : ObservationStore) :
    save e.machineID encoded receivedAt published store =
      match compareSequence e encoded (store e.machineID) with
      | .error refusal => (.error refusal, store)
      | .ok true => (.ok (e, true), store)
      | .ok false =>
          if gapsMatchSkippedRange e.gaps (firstSkipped (store e.machineID))
              (e.sequence - 1) = false then
            (.error .gaps, store)
          else if published = false then (.error .unpublished, store)
          else
            (.ok (e, false), fun machine =>
              if machine = e.machineID then
                some (received encoded receivedAt e (store e.machineID))
              else store machine) := by
  rw [save, Envelope.decode_encode he hencode]
  exact if_neg (not_not.2 rfl)

/-- Beside an aligned entry the oldest observation is accepted: as new, or as
the exact replay of the one that is stored. -/
theorem Aligned.accepted {store : ObservationStore} {encoded : Bytes}
    (h : Aligned (store machine) s) (hs : Queued machine s) (hholds : Holds s encoded)
    (receivedAt : Instant) :
    ∃ e replay, (save machine encoded receivedAt true store).1 = .ok (e, replay) := by
  obtain ⟨hgaps, oldest, rest, hpending, hencode⟩ := hholds
  have hmem : oldest ∈ s.pending.items := by
    rw [hpending]
    exact List.mem_cons_self
  have hrepresentable := hs.representable.pending oldest hmem
  obtain rfl := hs.machine oldest hmem
  have hsequence := (hs.head hpending).1
  rw [save_encoded hrepresentable hencode]
  cases h with
  | delivered current oldest' rest' encoded' hstored hpending' _ hencode' hcurrent hdigest =>
      obtain ⟨rfl, rfl⟩ := List.cons.inj (hpending.symm.trans hpending')
      obtain rfl : encoded = encoded' := Except.ok.inj (hencode.symm.trans hencode')
      rw [hstored, compareSequence, if_pos hcurrent.symm, if_pos hdigest.symm]
      exact ⟨oldest, true, rfl⟩
  | waiting hspans =>
      have hskipped : s.skipped = oldest.gaps := by
        rw [State.skipped, hpending, hgaps, List.append_nil]
        rfl
      rw [hskipped, ← hsequence] at hspans
      have hlast : lastStored (store oldest.machineID) + 1 ≤ oldest.sequence := hspans.le
      have hbound := hrepresentable.sequence
      have hnew : compareSequence oldest encoded (store oldest.machineID) = .ok false := by
        cases hstore : store oldest.machineID with
        | none => rfl
        | some current =>
            rw [hstore] at hlast
            have hlt : current.sequence + 1 ≤ oldest.sequence := hlast
            rw [compareSequence, if_neg (by omega), if_neg (by omega)]
      have hfirst : firstSkipped (store oldest.machineID) =
          lastStored (store oldest.machineID) + 1 := by
        cases hstore : store oldest.machineID with
        | none => rfl
        | some current =>
            rw [hstore] at hlast
            have hlt : current.sequence + 1 ≤ oldest.sequence := hlast
            exact Nat.mod_eq_of_lt (by omega)
      have hmatches := hspans.matches (by omega)
      rw [hnew, hfirst]
      simp only [hmatches, Bool.true_eq_false, if_false]
      exact ⟨oldest, false, rfl⟩

theorem SameQueue.aligned {s' : State} (h : SameQueue s s') (hs : Aligned entry s) :
    Aligned entry s' := by
  cases hs with
  | waiting hspans =>
      apply Aligned.waiting
      rw [h.skipped, h.first]
      exact hspans
  | delivered current oldest rest encoded hstored hpending hgaps hencode hsequence hdigest =>
      exact .delivered current oldest rest encoded hstored (h.pending.trans hpending)
        (h.gaps.trans hgaps) hencode hsequence hdigest

theorem appended_aligned {now : Instant} {health : HostHealth} {external : List ExternalReading}
    {envelope : Envelope} (hs : Queued machine s)
    (h : newEnvelope machine s.nextSequence now health external = .ok envelope)
    (haligned : Aligned entry s) : Aligned entry (appended s envelope) := by
  cases haligned with
  | waiting hspans =>
      apply Aligned.waiting
      rw [appended_skipped h, appended_first hs h]
      exact hspans
  | delivered current oldest rest encoded hstored hpending hgaps hencode hsequence hdigest =>
      have hitems : (appended s envelope).pending.items = oldest :: (rest ++ [envelope]) := by
        show s.pending.items ++ [envelope] = _
        rw [hpending, List.cons_append]
      exact .delivered current oldest (rest ++ [envelope]) encoded hstored hitems
        ((Slice.items_fresh _).trans hgaps) hencode hsequence hdigest

theorem attached_aligned {oldest : Envelope} {rest : List Envelope} (hs : Queued machine s)
    (hpending : s.pending.items = oldest :: rest) (hgaps : s.gaps.items ≠ [])
    (haligned : Aligned entry s) : Aligned entry (attached s oldest rest) := by
  cases haligned with
  | waiting hspans =>
      apply Aligned.waiting
      rw [attached_skipped hs hpending hgaps, attached_first hpending]
      exact hspans
  | delivered _ _ _ _ _ _ hnil => exact absurd hnil hgaps

/-- What was acknowledged had arrived. -/
theorem acknowledged_aligned {oldest : Envelope} {rest : List Envelope} (hs : Queued machine s)
    (hpending : s.pending.items = oldest :: rest) (haligned : Aligned entry s)
    (hlast : oldest.sequence ≤ lastStored entry) (deliveredAt : Instant) :
    Aligned entry (acknowledged deliveredAt s rest) := by
  have hsequence := (hs.head hpending).1
  have hleaves : Leaves s (acknowledged deliveredAt s rest) rest := acknowledged_leaves deliveredAt
  cases haligned with
  | waiting hspans =>
      have := hspans.le
      omega
  | delivered current oldest' rest' encoded hstored hpending' hgaps hencode hcurrent hdigest =>
      obtain ⟨rfl, rfl⟩ := List.cons.inj (hpending.symm.trans hpending')
      apply Aligned.waiting
      rw [hleaves.skipped hs hpending, hleaves.first hs hpending]
      have hnil : (acknowledged deliveredAt s rest).gaps.items = [] :=
        (Slice.items_fresh _).trans hgaps
      rw [hnil, hstored]
      exact .inl ⟨by rw [← hsequence, ← hcurrent]; rfl, rfl⟩

/-! ## The limits -/

/-- Enforcing the limits leaves a state alone or discards its oldest observation. -/
theorem enforceFrom_cases {limits : Limits} {now : Instant} {pending : List Envelope}
    {s' : State} (h : enforceFrom limits now pending s = .ok s') :
    s' = s ∨ ∃ oldest rest, pending = oldest :: rest ∧
      enforceFrom limits now rest (dropOldest s oldest rest) = .ok s' := by
  cases pending with
  | nil =>
      rw [enforceFrom] at h
      split at h
      · cases h
      · exact .inl (Except.ok.inj h).symm
  | cons oldest rest =>
      rw [enforceFrom] at h
      split at h
      · cases h
      · split at h
        · exact .inl (Except.ok.inj h).symm
        · exact .inr ⟨oldest, rest, rfl, h⟩

/-- What survives the loss of the oldest observation survives the limits. -/
theorem enforceFrom_keeps {good : State → Prop}
    (hdrop : ∀ s oldest rest, good s → s.pending.items = oldest :: rest →
      good (dropOldest s oldest rest))
    {limits : Limits} {now : Instant} {s' : State} (hs : good s) {pending : List Envelope}
    (hpending : s.pending.items = pending) (h : enforceFrom limits now pending s = .ok s') :
    good s' := by
  induction pending generalizing s with
  | nil =>
      rcases enforceFrom_cases h with rfl | ⟨oldest, rest, hnil, -⟩
      · exact hs
      · cases hnil
  | cons oldest rest ih =>
      rcases enforceFrom_cases h with rfl | ⟨_, _, heq, hrest⟩
      · exact hs
      · obtain ⟨rfl, rfl⟩ := List.cons.inj heq
        exact ih (hdrop s oldest rest hs hpending) dropOldest_leaves.pending hrest

theorem enforceFrom_waiting {limits : Limits} {now : Instant} {first : Nat} {s' : State}
    (hs : Queued machine s) (hspans : Spans s.skipped first s.first) {pending : List Envelope}
    (hpending : s.pending.items = pending) (h : enforceFrom limits now pending s = .ok s') :
    Queued machine s' ∧ Spans s'.skipped first s'.first ∧ s.first ≤ s'.first := by
  induction pending generalizing s with
  | nil =>
      rcases enforceFrom_cases h with rfl | ⟨oldest, rest, hnil, -⟩
      · exact ⟨hs, hspans, le_refl _⟩
      · cases hnil
  | cons oldest rest ih =>
      rcases enforceFrom_cases h with rfl | ⟨_, _, heq, hrest⟩
      · exact ⟨hs, hspans, le_refl _⟩
      · obtain ⟨rfl, rfl⟩ := List.cons.inj heq
        have hfirst := dropOldest_first hs hpending
        have hspans' := (dropOldest_spans hs hpending hspans).1
        rw [← hfirst] at hspans'
        have hqueued := dropOldest_queued hs hpending hspans
        obtain ⟨hs', hspans', hle⟩ := ih hqueued hspans' dropOldest_leaves.pending hrest
        exact ⟨hs', hspans', by omega⟩

/-- A discarded observation does not come back. -/
theorem enforceFrom_pending {limits : Limits} {now : Instant} {s' : State}
    {pending : List Envelope} (hpending : s.pending.items = pending)
    (h : enforceFrom limits now pending s = .ok s') : s'.pending.items <:+ pending := by
  induction pending generalizing s with
  | nil =>
      rcases enforceFrom_cases h with rfl | ⟨oldest, rest, hnil, -⟩
      · exact hpending ▸ List.suffix_refl _
      · cases hnil
  | cons oldest rest ih =>
      rcases enforceFrom_cases h with rfl | ⟨_, _, heq, hrest⟩
      · exact hpending ▸ List.suffix_refl _
      · obtain ⟨rfl, rfl⟩ := List.cons.inj heq
        exact (ih dropOldest_leaves.pending hrest).trans (List.suffix_cons oldest rest)

theorem enforce_advances {limits : Limits} {now : Instant} {s' : State} (hs : Queued machine s)
    (hspans : Spans s.skipped (lastStored entry + 1) s.first)
    (h : enforce limits now s = .ok s') : Advances s s' := by
  rcases enforceFrom_cases h with rfl | ⟨oldest, rest, hpending, hrest⟩
  · exact Advances.refl _
  · have hfirst := dropOldest_first hs hpending
    have hspans' := (dropOldest_spans hs hpending hspans).1
    rw [← hfirst] at hspans'
    have hle := (enforceFrom_waiting (dropOldest_queued hs hpending hspans) hspans'
      dropOldest_leaves.pending hrest).2.2
    exact ⟨by omega, fun heq => by omega⟩

/-- Where the limits keep what the Relay has stored, they keep the alignment. -/
theorem enforce_aligned {limits : Limits} {now : Instant} {s' : State} (hs : Queued machine s)
    (haligned : Aligned entry s) (hkeeps : Keeps entry s s')
    (h : enforce limits now s = .ok s') :
    Queued machine s' ∧ Aligned entry s' ∧ Advances s s' := by
  cases haligned with
  | waiting hspans =>
      obtain ⟨hs', hspans', -⟩ := enforceFrom_waiting hs hspans rfl h
      exact ⟨hs', .waiting hspans', enforce_advances hs hspans h⟩
  | delivered current oldest rest encoded hstored hpending hgaps hencode hsequence hdigest =>
      rcases enforceFrom_cases h with rfl | ⟨oldest', rest', hpending', hrest⟩
      · exact ⟨hs, .delivered current oldest rest encoded hstored hpending hgaps hencode hsequence
          hdigest, Advances.refl _⟩
      -- The oldest observation is the stored one, and it would be discarded.
      · obtain ⟨rfl, rfl⟩ := List.cons.inj (hpending.symm.trans hpending')
        have hbefore : current.sequence ∈ s.sequences := by
          rw [State.sequences, hpending, hsequence]
          exact List.mem_cons_self
        have hafter := hkeeps current hstored hbefore
        have hsuffix := enforceFrom_pending dropOldest_leaves.pending hrest
        have hrestmem : current.sequence ∈ rest.map Envelope.sequence :=
          List.map_subset Envelope.sequence hsuffix.subset hafter
        obtain ⟨hfirst, hfollows⟩ := hs.head hpending
        have := hfollows.mem hrestmem
        omega

end YourCloud.Observation
