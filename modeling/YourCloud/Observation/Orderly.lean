import YourCloud.Observation.Ledger
import YourCloud.Observation.Sizes

/-!
# Ranges over any sequence of calls

The queue takes its calls as they come: an acknowledgement may name an
observation that was never offered, one observation may name another machine
than the next, and the clock may say anything.  What was discarded then stands
in several ranges, at most the last of which touches the oldest observation; a
discarded observation extends that one or begins a new one, and the ranges
before it are never touched again.

The times of a range are those of the observations at its ends, so a range is
an interval as long as no observation that extends it is older than its first.

## Main results

* `enforce_orderly` — the limits keep the ranges where what they discard last is
  not older than the range it ends in.
* `appended_orderly`, `attached_orderly`, `acknowledged_orderly` — the other
  candidates keep them.
-/

namespace YourCloud.Observation

open YourCloud.Foundation

/-! ## A queue in order -/

/-- What every state of a Daemon satisfies, whatever it was called with. -/
structure Lined (s : State) : Prop where
  representable : s.Representable
  positive : 0 < s.first
  follows : Follows s.first s.pending.items s.upTo
  valid : ∀ e ∈ s.pending.items, e.validate = none
  written : ∀ e ∈ s.pending.items, e.observedAt.length ≤ 30
  /-- Only the oldest observation carries ranges, -/
  bare : ∀ e ∈ s.pending.items.tail, e.gaps = []
  /-- and never beside the queue. -/
  once : ∀ oldest ∈ s.pending.items.head?, oldest.gaps = [] ∨ s.gaps.items = []

/-- The ranges of a state: some that touch nothing, and the one right before
the oldest observation. -/
structure Ranged (s : State) (before : List Gap) (first : Nat) (range : List Gap) : Prop where
  skipped : s.skipped = before ++ range
  apart : Apart before first
  spans : Spans range first s.first
  positive : 0 < first
  valid : ∀ gap ∈ before, gap.validate = none

/-- A state all of whose ranges are intervals. -/
structure Orderly (s : State) : Prop where
  lined : Lined s
  ranged : ∃ before first range, Ranged s before first range
  valid : ∀ gap ∈ s.skipped, gap.validate = none

section Candidates

variable {s c : State} {oldest : Envelope} {rest : List Envelope}

theorem Lined.head (hs : Lined s) (h : s.pending.items = oldest :: rest) :
    oldest.sequence = s.first ∧ Follows (s.first + 1) rest s.upTo := by
  have hfollows := hs.follows
  rwa [h] at hfollows

theorem Lined.first_lt (hs : Lined s) (h : s.pending.items = oldest :: rest) :
    s.first < 2 ^ 64 := by
  have holdest := hs.representable.pending oldest (by rw [h]; exact List.mem_cons_self)
  rw [← (hs.head h).1]
  exact holdest.sequence

theorem SameQueue.lined (h : SameQueue s c) (hs : Lined s) (hrepresentable : c.Representable) :
    Lined c where
  representable := hrepresentable
  positive := h.first ▸ hs.positive
  follows := by
    have hupTo : c.upTo = s.upTo := by rw [State.upTo, State.upTo, h.nextSequence]
    rw [h.first, h.pending, hupTo]
    exact hs.follows
  valid := h.pending ▸ hs.valid
  written := h.pending ▸ hs.written
  bare := h.pending ▸ hs.bare
  once := by
    rw [h.pending, h.gaps]
    exact hs.once

theorem SameQueue.orderly (h : SameQueue s c) (hs : Orderly s) (hrepresentable : c.Representable) :
    Orderly c where
  lined := h.lined hs.lined hrepresentable
  ranged := by
    obtain ⟨before, first, range, hranged⟩ := hs.ranged
    refine ⟨before, first, range, { hranged with skipped := ?_, spans := ?_ }⟩
    · rw [h.skipped]
      exact hranged.skipped
    · rw [h.first]
      exact hranged.spans
  valid := by
    rw [h.skipped]
    exact hs.valid

/-! ## The oldest observation leaves -/

theorem Leaves.first_succ (h : Leaves s c rest) (hs : Lined s)
    (hpending : s.pending.items = oldest :: rest) : c.first = s.first + 1 := by
  have hlength := hs.follows.length
  have hpositive := hs.positive
  rw [hpending, List.length_cons] at hlength
  have hupTo : c.upTo = s.upTo := by rw [State.upTo, State.upTo, h.nextSequence]
  rw [State.first, h.pending, hupTo]
  omega

theorem Leaves.lined (h : Leaves s c rest) (hs : Lined s)
    (hpending : s.pending.items = oldest :: rest) (hrepresentable : c.Representable) :
    Lined c := by
  have hfirst := h.first_succ hs hpending
  have hupTo : c.upTo = s.upTo := by rw [State.upTo, State.upTo, h.nextSequence]
  have hbare : ∀ e ∈ rest, e.gaps = [] := by
    have := hs.bare
    rwa [hpending] at this
  have hsub : ∀ e ∈ rest, e ∈ s.pending.items := by
    rw [hpending]
    exact fun e he => List.mem_cons_of_mem _ he
  constructor
  · exact hrepresentable
  · omega
  · rw [hfirst, hupTo, h.pending]
    exact (hs.head hpending).2
  · rw [h.pending]
    exact fun e he => hs.valid e (hsub e he)
  · rw [h.pending]
    exact fun e he => hs.written e (hsub e he)
  · rw [h.pending]
    exact fun e he => hbare e (List.mem_of_mem_tail he)
  · rw [h.pending]
    exact fun e he => .inl (hbare e (List.mem_of_head? he))

/-- What is skipped before the rest stands with the queue. -/
theorem Leaves.beside (h : Leaves s c rest) (hs : Lined s)
    (hpending : s.pending.items = oldest :: rest) : c.skipped = c.gaps.items := by
  have hbare : ∀ e ∈ rest, e.gaps = [] := by
    have := hs.bare
    rwa [hpending] at this
  rw [State.skipped, h.pending]
  cases rest with
  | nil => rfl
  | cons e rest =>
      show e.gaps ++ _ = _
      rw [hbare e List.mem_cons_self, List.nil_append]

theorem acknowledged_orderly (hs : Orderly s) (hpending : s.pending.items = oldest :: rest)
    (deliveredAt : Instant) : Orderly (acknowledged deliveredAt s rest) := by
  have hleaves : Leaves s (acknowledged deliveredAt s rest) rest := acknowledged_leaves deliveredAt
  have hfirst := hleaves.first_succ hs.lined hpending
  have hgaps : (acknowledged deliveredAt s rest).gaps.items = s.gaps.items := Slice.items_fresh _
  have hskipped := hleaves.beside hs.lined hpending
  rw [hgaps] at hskipped
  obtain ⟨before, first, range, hranged⟩ := hs.ranged
  -- The ranges beside the queue stay, those the observation carried leave with it.
  have hapart : Apart s.gaps.items (s.first + 1) := by
    have hall : Apart s.skipped (s.first + 1) := by
      rw [hranged.skipped]
      exact hranged.apart.spans hranged.spans (Nat.lt_succ_self _)
    have hsub : s.gaps.items.Sublist s.skipped := List.sublist_append_right _ _
    exact ⟨fun gap hgap => hall.shaped gap (hsub.subset hgap), hall.apart.sublist hsub,
      fun gap hgap => hall.before gap (hsub.subset hgap)⟩
  have hvalid : ∀ gap ∈ s.gaps.items, gap.validate = none := fun gap hgap =>
    hs.valid gap (List.mem_append_right _ hgap)
  constructor
  · exact hleaves.lined hs.lined hpending
      (acknowledged_representable hs.lined.representable deliveredAt hpending)
  · refine ⟨s.gaps.items, s.first + 1, [], ?_⟩
    constructor
    · rw [hskipped, List.append_nil]
    · exact hapart
    · rw [hfirst]
      exact .inl ⟨rfl, rfl⟩
    · exact Nat.succ_pos _
    · exact hvalid
  · rw [hskipped]
    exact hvalid

/-! ## The limits -/

theorem foldl_addGap_lined {before range : List Gap} {first : Nat} (hs : Lined s)
    (hr : Ranged s before first range) (hpending : s.pending.items = oldest :: rest) :
    oldest.gaps.foldl addGap s.gaps.items = s.skipped := by
  have hskipped : s.skipped = oldest.gaps ++ s.gaps.items := by
    rw [State.skipped, hpending]
    rfl
  rcases hs.once oldest (by rw [hpending]; rfl) with hbare | hgaps
  · rw [hskipped, hbare]
    rfl
  · have hfirst := hs.first_lt hpending
    have hapart : Apart ([] ++ oldest.gaps) (s.first + 1) := by
      rw [hgaps, List.append_nil] at hskipped
      rw [List.nil_append, ← hskipped, hr.skipped]
      exact hr.apart.spans hr.spans (Nat.lt_succ_self _)
    rw [hgaps, foldl_addGap_apart hapart hfirst, hskipped, hgaps, List.append_nil]
    rfl

/-- The discarded observation extends the range right before it, or begins one. -/
theorem dropOldest_ranged {before range : List Gap} {first : Nat} (hs : Lined s)
    (hr : Ranged s before first range) (hpending : s.pending.items = oldest :: rest) :
    Ranged (dropOldest s oldest rest) before first
      [ended first s.first (beganOf range oldest.observedAt) oldest.observedAt] := by
  have hbound := hs.first_lt hpending
  have hended := addGap_ended oldest.observedAt hr.spans hr.positive hbound
  have hspans := addGap_spans oldest.observedAt hr.spans hbound
  rw [hended] at hspans
  constructor
  · rw [dropOldest_leaves.beside hs hpending, ← hended,
      ← addGap_append oldest.observedAt hr.apart hr.spans hbound, ← hr.skipped,
      ← foldl_addGap_lined hs hr hpending, ← (hs.head hpending).1]
    rfl
  · exact hr.apart
  · rw [dropOldest_leaves.first_succ hs hpending]
    exact hspans
  · exact hr.positive
  · exact hr.valid

theorem dropOldest_lined {before range : List Gap} {first : Nat} (hs : Lined s)
    (hr : Ranged s before first range) (hpending : s.pending.items = oldest :: rest) :
    Lined (dropOldest s oldest rest) := by
  have hbound := hs.first_lt hpending
  have holdest := hs.representable.pending oldest (by rw [hpending]; exact List.mem_cons_self)
  have hskipped : ∀ gap ∈ s.skipped, gap.Representable := by
    intro gap hgap
    rw [State.skipped, List.mem_append, hpending] at hgap
    rcases hgap with hgap | hgap
    · exact holdest.gaps gap hgap
    · exact hs.representable.gaps gap hgap
  have hranged := dropOldest_ranged hs hr hpending
  have hspans := hr.spans.le
  have hlast := addGap_representable hr.spans hbound holdest.observedAt fun gap hgap =>
    hskipped gap (by rw [hr.skipped]; exact List.mem_append_right _ hgap)
  rw [addGap_ended oldest.observedAt hr.spans hr.positive hbound] at hlast
  apply dropOldest_leaves.lined hs hpending
  exact
    { hs.representable with
      pending := by
        rw [dropOldest_leaves.pending]
        intro e he
        apply hs.representable.pending
        rw [hpending]
        exact List.mem_cons_of_mem _ he
      gaps := by
        rw [← dropOldest_leaves.beside hs hpending, hranged.skipped]
        intro gap hgap
        rcases List.mem_append.1 hgap with hgap | hgap
        · exact hskipped gap (by rw [hr.skipped]; exact List.mem_append_left _ hgap)
        · exact hlast gap hgap }

end Candidates

/-- The observations that the limits discard, where they can be met. -/
def discardedFrom (limits : Limits) (now : Instant) : List Envelope → State →
    Option (List Envelope)
  | [], s => if limits.maxBytes < s.encode.length then none else some []
  | oldest :: rest, s =>
      match Rfc3339.parse oldest.observedAt with
      | none => none
      | some oldestTime =>
          if ¬ oldestTime < now - limits.maxAge ∧ (rest.length + 1 : Int) ≤ limits.maxRecords ∧
              (s.encode.length : Int) ≤ limits.maxBytes then
            some []
          else
            (discardedFrom limits now rest (dropOldest s oldest rest)).map fun gone =>
              oldest :: gone

def discarded (limits : Limits) (now : Instant) (s : State) : Option (List Envelope) :=
  discardedFrom limits now s.pending.items s

/-- When the range began, or begins, that ends right before an observation. -/
def State.began (s : State) (oldest : Envelope) : Bytes :=
  match s.skipped.getLast? with
  | some gap =>
      if gap.lastSequence + 1 = oldest.sequence then gap.firstObservedAt else oldest.observedAt
  | none => oldest.observedAt

/-- Whether two times are in order. -/
def inOrder (first last : Bytes) : Bool :=
  match Rfc3339.parse first, Rfc3339.parse last with
  | some first, some last => first ≤ last
  | _, _ => false

/-- The last of the discarded observations is not older than the range it ends. -/
def EndsInOrder (s : State) (gone : List Envelope) : Prop :=
  ∀ oldest ∈ gone.head?, ∀ newest ∈ gone.getLast?,
    inOrder (s.began oldest) newest.observedAt = true

instance (s : State) (gone : List Envelope) : Decidable (EndsInOrder s gone) :=
  inferInstanceAs (Decidable (∀ oldest ∈ gone.head?, ∀ newest ∈ gone.getLast?, _ = true))

section Enforce

variable {limits : Limits} {now : Instant} {s s' : State} {before range : List Gap} {first : Nat}

theorem Ranged.began {oldest : Envelope} (hr : Ranged s before first range)
    (holdest : oldest.sequence = s.first) :
    s.began oldest = beganOf range oldest.observedAt := by
  rw [State.began, hr.skipped, holdest]
  rcases hr.spans with ⟨hfirst, rfl⟩ | ⟨gap, rfl, -, hlast, -⟩
  · rw [List.append_nil]
    split
    · rename_i gap hgap
      have := hr.apart.before gap (List.mem_of_getLast? hgap)
      rw [if_neg (by omega)]
      rfl
    · rfl
  · rw [List.getLast?_concat]
    exact if_pos hlast

/-- Enforcing the limits leaves a state as it is, or ends one range with the
last observation it discards. -/
theorem enforceFrom_ranged {pending : List Envelope} (hs : Lined s)
    (hr : Ranged s before first range) (hpending : s.pending.items = pending)
    (h : enforceFrom limits now pending s = .ok s') :
    ∃ gone, discardedFrom limits now pending s = some gone ∧ Lined s' ∧
      ((gone = [] ∧ s' = s) ∨
        ∃ oldest newest, gone.head? = some oldest ∧ gone.getLast? = some newest ∧
          pending.head? = some oldest ∧ s'.pending.items <:+ pending.tail ∧
          Ranged s' before first [ended first newest.sequence (beganOf range oldest.observedAt)
            newest.observedAt]) := by
  induction pending generalizing s range with
  | nil =>
      rw [enforceFrom] at h
      split at h
      · cases h
      · rename_i hlength
        rw [← Except.ok.inj h]
        exact ⟨[], if_neg hlength, hs, .inl ⟨rfl, rfl⟩⟩
  | cons oldest rest ih =>
      rw [enforceFrom] at h
      split at h
      · cases h
      · rename_i oldestTime hparse
        split at h
        · rename_i hkept
          rw [← Except.ok.inj h]
          refine ⟨[], ?_, hs, .inl ⟨rfl, rfl⟩⟩
          rw [discardedFrom, hparse]
          exact if_pos hkept
        · rename_i hdropped
          have hsequence := (hs.head hpending).1
          have hranged := dropOldest_ranged hs hr hpending
          have hlined := dropOldest_lined hs hr hpending
          obtain ⟨gone, hgone, hs', hcases⟩ := ih hlined hranged dropOldest_leaves.pending h
          refine ⟨oldest :: gone, ?_, hs', .inr ⟨oldest, ?_⟩⟩
          · rw [discardedFrom, hparse]
            dsimp only
            rw [if_neg hdropped, hgone]
            rfl
          · rcases hcases with ⟨rfl, rfl⟩ | ⟨head, newest, hhead, hnewest, -, hleft, hranged'⟩
            · refine ⟨oldest, rfl, rfl, rfl, ?_, ?_⟩
              · rw [dropOldest_leaves.pending]
                exact List.suffix_refl _
              · rw [hsequence]
                exact hranged
            · refine ⟨newest, rfl, ?_, rfl, hleft.trans (List.tail_suffix rest), hranged'⟩
              rw [List.getLast?_cons, hnewest]
              rfl

theorem ended_validate {next : Nat} {began observedAt : Bytes} (hpos : 0 < first)
    (hle : first ≤ next) (hbound : next < 2 ^ 64) (h : inOrder began observedAt = true) :
    (ended first next began observedAt).validate = none := by
  unfold inOrder at h
  split at h
  · rename_i t u ht hu
    have hinterval : (ended first next began observedAt).interval = some (t, u) := by
      show (Rfc3339.parse began).bind _ = _
      rw [ht]
      show (Rfc3339.parse observedAt).bind _ = _
      rw [hu]
      rfl
    have hcount : (next - first + 1) % 2 ^ 64 = next - first + 1 := Nat.mod_eq_of_lt (by omega)
    unfold Gap.validate
    split
    · rename_i hshape
      have hshape : first = 0 ∨ next < first := hshape
      omega
    · split
      · rename_i hwrong
        exact absurd hcount.symm hwrong
      · rw [hinterval]
        exact if_neg (not_lt.2 (of_decide_eq_true h))
  · cases h

/-- The limits keep the ranges where what they discard last is not older than
the range it ends in. -/
theorem enforce_orderly (hs : Orderly s) (h : enforce limits now s = .ok s')
    (horder : ∀ gone ∈ discarded limits now s, EndsInOrder s gone) : Orderly s' := by
  obtain ⟨before, first, range, hranged⟩ := hs.ranged
  obtain ⟨gone, hgone, hs', hcases⟩ := enforceFrom_ranged hs.lined hranged rfl h
  rcases hcases with ⟨-, rfl⟩ | ⟨oldest, newest, holdest, hnewest, hhead, -, hranged'⟩
  · exact hs
  · obtain ⟨rest, hpending⟩ := List.head?_eq_some_iff.1 hhead
    have hbegan := hranged.began (hs.lined.head hpending).1
    have horder := horder gone hgone oldest holdest newest hnewest
    rw [hbegan] at horder
    have hrange : first ≤ newest.sequence ∧ newest.sequence < 2 ^ 64 := by
      rcases hranged'.spans with ⟨-, hnil⟩ | ⟨gap, hone, hfirst, hlast, hlt⟩
      · cases hnil
      · obtain rfl := List.singleton_injective hone
        have hlast : newest.sequence + 1 = s'.first := hlast
        have hlength := hs'.follows.length
        have hupTo : s'.upTo ≤ 2 ^ 64 := by
          have := hs'.representable.nextSequence
          unfold State.upTo
          split <;> omega
        omega
    refine ⟨hs', ⟨before, first, _, hranged'⟩, ?_⟩
    rw [hranged'.skipped]
    intro gap hgap
    rcases List.mem_append.1 hgap with hgap | hgap
    · exact hranged'.valid gap hgap
    · rw [List.mem_singleton.1 hgap]
      exact ended_validate hranged.positive hrange.1 hrange.2 horder

theorem Orderly.discards (hs : Orderly s) (h : enforce limits now s = .ok s') :
    ∃ gone, discarded limits now s = some gone := by
  obtain ⟨before, first, range, hranged⟩ := hs.ranged
  obtain ⟨gone, hgone, -⟩ := enforceFrom_ranged hs.lined hranged rfl h
  exact ⟨gone, hgone⟩

end Enforce

/-! ## One more observation -/

section Appended

variable {machineID : Bytes} {s : State} {now : Instant} {health : HostHealth}
  {external : List ExternalReading} {envelope : Envelope}

theorem appended_first_eq (hs : s.nextSequence < 2 ^ 64)
    (h : newEnvelope machineID s.nextSequence now health external = .ok envelope) :
    (appended s envelope).first = s.first := by
  obtain ⟨hupTo, hupTo'⟩ := appended_upTo h hs
  rw [State.first, State.first, hupTo, hupTo']
  show s.nextSequence + 1 - (s.pending.items ++ [envelope]).length = _
  rw [List.length_append, List.length_singleton]
  omega

theorem appended_lined (hs : Lined s)
    (h : newEnvelope machineID s.nextSequence now health external = .ok envelope) :
    Lined (appended s envelope) := by
  obtain ⟨hupTo, hupTo'⟩ := appended_upTo h hs.representable.nextSequence
  have hrepresentable := newEnvelope_representable h hs.representable.nextSequence
  have hfirst := appended_first_eq hs.representable.nextSequence h
  have hgaps : (appended s envelope).gaps.items = s.gaps.items := Slice.items_fresh _
  obtain ⟨hfields, hvalid⟩ := newEnvelope_ok h
  have hbare : envelope.gaps = [] := by rw [hfields]
  have hwritten : envelope.observedAt.length ≤ 30 := by
    obtain ⟨t, ht⟩ := observedAt_of_validate hvalid
    rw [hfields] at ht ⊢
    exact Rfc3339.format_length (Rfc3339.writable_of_parse_format ht)
  have hitems : (appended s envelope).pending.items = s.pending.items ++ [envelope] := rfl
  have hmem : ∀ {q : Envelope → Prop}, (∀ e ∈ s.pending.items, q e) → q envelope →
      ∀ e ∈ (appended s envelope).pending.items, q e := by
    intro q hall hnew e he
    rw [hitems, List.mem_append, List.mem_singleton] at he
    rcases he with he | rfl
    · exact hall e he
    · exact hnew
  constructor
  · exact
      { cloneState_representable hs.representable with
        nextSequence := Nat.mod_lt _ (by decide)
        current := fun e he => Option.some.inj he ▸ hrepresentable
        pending := hmem hs.representable.pending hrepresentable }
  · exact hfirst ▸ hs.positive
  · rw [hfirst, hupTo', hitems]
    apply Follows.append
    · exact hupTo ▸ hs.follows
    · rw [hfields]
  · exact hmem hs.valid hvalid
  · exact hmem hs.written hwritten
  · rw [hitems]
    have hbares := hs.bare
    cases hpending : s.pending.items with
    | nil => exact fun e he => absurd he List.not_mem_nil
    | cons oldest rest =>
        rw [hpending] at hbares
        intro e he
        rw [List.cons_append, List.tail_cons, List.mem_append, List.mem_singleton] at he
        rcases he with he | rfl
        · exact hbares e he
        · exact hbare
  · rw [hitems, hgaps]
    have honce := hs.once
    cases hpending : s.pending.items with
    | nil =>
        intro oldest holdest
        obtain rfl : envelope = oldest := Option.some.inj holdest
        exact .inl hbare
    | cons oldest rest =>
        rw [hpending] at honce
        exact honce

theorem appended_orderly (hs : Orderly s)
    (h : newEnvelope machineID s.nextSequence now health external = .ok envelope) :
    Orderly (appended s envelope) := by
  obtain ⟨before, first, range, hranged⟩ := hs.ranged
  refine ⟨appended_lined hs.lined h, ⟨before, first, range, { hranged with
    skipped := ?_, spans := ?_ }⟩, ?_⟩
  · rw [appended_skipped h]
    exact hranged.skipped
  · rw [appended_first_eq hs.lined.representable.nextSequence h]
    exact hranged.spans
  · rw [appended_skipped h]
    exact hs.valid

end Appended

/-! ## The oldest observation takes up the ranges -/

section Attached

variable {s : State} {oldest : Envelope} {rest : List Envelope}

theorem Lined.bare_oldest (hs : Lined s) (hpending : s.pending.items = oldest :: rest)
    (hgaps : s.gaps.items ≠ []) : oldest.gaps = [] :=
  (hs.once oldest (by rw [hpending]; rfl)).resolve_right hgaps

theorem attached_orderly (hs : Orderly s) (hpending : s.pending.items = oldest :: rest)
    (hgaps : s.gaps.items ≠ []) : Orderly (attached s oldest rest) := by
  have hlined := hs.lined
  have hbare := hlined.bare_oldest hpending hgaps
  have hskipped : s.skipped = s.gaps.items := by
    rw [State.skipped, hpending]
    show oldest.gaps ++ _ = _
    rw [hbare, List.nil_append]
  have hskipped' : (attached s oldest rest).skipped = s.skipped := by
    rw [hskipped]
    exact List.append_nil _
  have hfirst : (attached s oldest rest).first = s.first := attached_first hpending
  have hmem : ∀ {q : Envelope → Prop}, (∀ e ∈ s.pending.items, q e) →
      (q oldest → q { oldest with gaps := s.gaps.items }) →
      ∀ e ∈ (attached s oldest rest).pending.items, q e := by
    intro q hall holdest e he
    rw [hpending] at hall
    rcases List.mem_cons.1 he with rfl | he
    · exact holdest (hall oldest List.mem_cons_self)
    · exact hall e (List.mem_cons_of_mem _ he)
  obtain ⟨before, first, range, hranged⟩ := hs.ranged
  have hgapsvalid : validateGaps oldest.sequence 0 none s.gaps.items = none := by
    have hall : Apart s.gaps.items (s.first + 1) := by
      rw [← hskipped, hranged.skipped]
      exact hranged.apart.spans hranged.spans (Nat.lt_succ_self _)
    apply validateGaps_none
    · intro gap hgap
      refine ⟨hs.valid gap (hskipped ▸ hgap), ?_⟩
      have := hall.before gap hgap
      rw [(hlined.head hpending).1]
      omega
    · exact hall.apart.imp fun hlt => by omega
    · exact fun _ hnone => absurd hnone (Option.some_ne_none _).symm
  refine ⟨?_, ⟨before, first, range, { hranged with skipped := ?_, spans := ?_ }⟩, ?_⟩
  · constructor
    · exact
        { cloneState_representable hlined.representable with
          pending := hmem hlined.representable.pending fun h =>
            { h with gaps := hlined.representable.gaps }
          gaps := fun gap hgap => absurd hgap List.not_mem_nil }
    · exact hfirst ▸ hlined.positive
    · have hhead := hlined.head hpending
      rw [hfirst]
      exact ⟨hhead.1, hhead.2⟩
    · exact hmem hlined.valid fun h =>
        validate_rewritten h (Option.isSome_iff_exists.2 (observedAt_of_validate h)) hgapsvalid
    · exact hmem hlined.written fun h => h
    · have := hlined.bare
      rwa [hpending] at this
    · exact fun _ _ => .inr rfl
  · rw [hskipped']
    exact hranged.skipped
  · rw [hfirst]
    exact hranged.spans
  · rw [hskipped']
    exact hs.valid

end Attached

/-! ## Calls -/

/-- A call on the queue of a Daemon, or the end of its process. -/
inductive Call where
  | start (limits : Limits) (now : Instant) (write : Write)
  | stop
  | enqueue (machineID : Bytes) (health : HostHealth) (external : List ExternalReading)
      (now : Instant) (write : Write)
  | peek (write : Write)
  | acknowledge (sequence : Nat) (deliveredAt : Instant) (write : Write)
  | setDeliveryState (value : Bytes) (changedAt : Instant) (write : Write)

/-- What one call makes of a Daemon. -/
def called (d : Daemon) : Call → Daemon × Unit
  | .start limits now write => ((openAt limits now write d).2, ())
  | .stop => ({ d with buffer := none }, ())
  | .enqueue machineID health external now write =>
      ((enqueue machineID health external now write d).2, ())
  | .peek write => ((peek write d).2, ())
  | .acknowledge sequence deliveredAt write => ((acknowledge sequence deliveredAt write d).2, ())
  | .setDeliveryState value changedAt write => ((setDeliveryState value changedAt write d).2, ())

/-- Before the first start there is no file. -/
def unborn : Daemon := { buffer := none, file := none }

/-- A candidate within the limits whose write takes place. -/
def Reaches (limits : Limits) (write : Write) (c : State) : Prop :=
  write.renames = true ∧ (c.encode.length : Int) ≤ limits.maxBytes

instance (limits : Limits) (write : Write) (c : State) : Decidable (Reaches limits write c) :=
  inferInstanceAs (Decidable (_ ∧ _))

/-- A Daemon whose states are good and whose file can be read. -/
structure Daemon.Steady (good : State → Prop) (d : Daemon) : Prop where
  states : ∀ s ∈ d.states, good s
  limits : ∀ b ∈ d.buffer, validateLimits b.limits = none
  readable : ∀ content ∈ d.file, ∃ s, readState content = .ok s

section Steady

variable {good : State → Prop} {d : Daemon} {limits : Limits} {c : State}

theorem unborn_steady : unborn.Steady good where
  states := fun _ hs => nomatch hs
  limits := fun _ hb => nomatch hb
  readable := fun _ hfile => nomatch hfile

theorem Daemon.Steady.stopped (h : d.Steady good) :
    Daemon.Steady good { d with buffer := none } where
  states s hs := by
    apply h.states
    rw [Daemon.mem_states] at hs ⊢
    rcases hs with ⟨b, hb, -⟩ | hs
    · cases hb
    · exact .inr hs
  limits := fun _ hb => nomatch hb
  readable := h.readable

theorem Daemon.Steady.buffer {b : Buffer} (h : d.Steady good) (hb : d.buffer = some b) :
    good b.state :=
  h.states _ (Daemon.mem_states.2 (.inl ⟨b, hb, rfl⟩))

private theorem Daemon.Steady.published {buffer : Option Buffer} (hrepresentable : c.Representable)
    (hc : good c) (hlength : c.encode.length ≤ hardMaxBytes)
    (hbuffer : ∀ b ∈ buffer, good b.state ∧ validateLimits b.limits = none) :
    Daemon.Steady good { buffer, file := some c.encode } where
  states s hs := by
    rw [Daemon.mem_states, loaded_encode buffer hrepresentable hlength] at hs
    rcases hs with ⟨b, hb, rfl⟩ | hs
    · exact (hbuffer b hb).1
    · rw [← Option.some.inj hs]
      exact hc
  limits := fun b hb => (hbuffer b hb).2
  readable content hcontent := by
    rw [← Option.some.inj hcontent]
    exact ⟨c, readState_encode hrepresentable hlength⟩

/-- A candidate is published, or not, or only in the file. -/
theorem commit_steady (h : d.Steady good) (hlimits : validateLimits limits = none) (write : Write)
    (hc : Reaches limits write c → c.Representable ∧ good c) :
    (commit limits write c d).2.Steady good := by
  unfold commit
  split
  · exact h
  · rename_i hlength
    have hbytes := hardMax_of_limits hlimits
    have hlength' : c.encode.length ≤ hardMaxBytes := by omega
    have hold : ∀ b ∈ d.buffer, good b.state ∧ validateLimits b.limits = none := fun b hb =>
      ⟨h.buffer hb, h.limits b hb⟩
    have hreaches : write.renames = true → c.Representable ∧ good c := fun hrenames =>
      hc ⟨hrenames, not_lt.1 hlength⟩
    cases write with
    | done =>
        obtain ⟨hrepresentable, hgood⟩ := hreaches rfl
        apply Daemon.Steady.published hrepresentable hgood hlength'
        intro b hb
        rw [← Option.some.inj hb]
        exact ⟨hgood, hlimits⟩
    | fails renamed =>
        cases renamed with
        | true =>
            obtain ⟨hrepresentable, hgood⟩ := hreaches rfl
            exact Daemon.Steady.published hrepresentable hgood hlength' hold
        | false => exact h
    | dies renamed =>
        cases renamed with
        | true =>
            obtain ⟨hrepresentable, hgood⟩ := hreaches rfl
            exact Daemon.Steady.published hrepresentable hgood hlength' fun b hb => nomatch hb
        | false => exact h.stopped

end Steady

theorem initialState_orderly : Orderly initialState where
  lined :=
    { representable := (initialState_queued : Queued [] initialState).representable
      positive := by decide
      follows := rfl
      valid := fun _ he => absurd he List.not_mem_nil
      written := fun _ he => absurd he List.not_mem_nil
      bare := fun _ he => absurd he List.not_mem_nil
      once := fun _ he => nomatch he }
  ranged := ⟨[], 1, [], rfl, Apart.nil 1, .inl ⟨rfl, rfl⟩, Nat.one_pos,
    fun _ hgap => absurd hgap List.not_mem_nil⟩
  valid := fun _ hgap => absurd hgap List.not_mem_nil

end YourCloud.Observation
