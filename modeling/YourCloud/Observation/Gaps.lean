import YourCloud.Observation.Envelope
import Mathlib.Data.List.Sort

/-!
# Ranges of discarded observations

A Daemon adds what it discards to a list of ranges and merges the ranges that
touch; a Relay merges the ranges it received in the same way, and compares
those of a message with the sequences it has not seen.  Sequences are words of
64 bits, and their successor wraps.

Where observations are discarded oldest first the list is one range, and the
Relay's comparison asks for exactly that range.

## Main results

* `addGap_spans` — one more discarded observation extends the range.
* `addGap_append` — ranges that do not touch it stay as they are.
* `Spans.matches` — the range is the one the Relay asks for.
-/

namespace YourCloud.Observation

open YourCloud.Foundation

/-! ## Merging -/

/-- The successor of a sequence. -/
def wrap (n : Nat) : Nat := n % 2 ^ 64

/-- The ranges after one, each merged into the last where they touch. -/
def mergeInto (last : Gap) : List Gap → List Gap
  | [] => [last]
  | gap :: rest =>
      if wrap (last.lastSequence + 1) < gap.firstSequence then last :: mergeInto gap rest
      else
        let extended :=
          if last.lastSequence < gap.lastSequence then
            { last with lastSequence := gap.lastSequence, lastObservedAt := gap.lastObservedAt }
          else last
        let counted :=
          { extended with
            droppedCount := wrap (extended.lastSequence + 2 ^ 64 - extended.firstSequence + 1) }
        mergeInto counted rest

/-- The ranges in order of their first sequence, those that touch merged. -/
def mergeGaps (gaps : List Gap) : List Gap :=
  match gaps.insertionSort (fun left right => left.firstSequence ≤ right.firstSequence) with
  | [] => []
  | first :: rest => mergeInto first rest

/-- One more range. -/
def addGap (gaps : List Gap) (candidate : Gap) : List Gap := mergeGaps (gaps ++ [candidate])

def mergeReceivedGaps (gaps : List Gap) : List Gap := mergeGaps gaps

/-! ## Comparing -/

/-- Whether ranges follow each other from one sequence to the last. -/
def gapsReach (last next : Nat) : List Gap → Bool
  | [] => false
  | gap :: rest =>
      if gap.firstSequence ≠ next ∨ last < gap.lastSequence then false
      else if gap.lastSequence = last then rest.isEmpty
      else gapsReach last (wrap (gap.lastSequence + 1)) rest

def gapsMatchSkippedRange (gaps : List Gap) (first last : Nat) : Bool :=
  if last < first then gaps.isEmpty
  else if gaps.isEmpty then false
  else gapsReach last first gaps

/-! ## One range -/

/-- The list is the one range from a sequence up to another, or empty where
there is none. -/
def Spans (gaps : List Gap) (first next : Nat) : Prop :=
  (first = next ∧ gaps = []) ∨
    ∃ gap, gaps = [gap] ∧ gap.firstSequence = first ∧ gap.lastSequence + 1 = next ∧
      first < next

theorem Spans.le {gaps : List Gap} {first next : Nat} (h : Spans gaps first next) :
    first ≤ next := by
  rcases h with ⟨rfl, -⟩ | ⟨gap, -, -, -, hlt⟩
  · exact le_refl _
  · exact hlt.le

/-- Whether a range covers a sequence. -/
def Gap.covers (gap : Gap) (n : Nat) : Bool := gap.firstSequence ≤ n && n ≤ gap.lastSequence

/-- A range counts the sequences it covers. -/
def Gap.Counted (gap : Gap) : Prop :=
  gap.droppedCount = gap.lastSequence - gap.firstSequence + 1

/-- The range covers each of its sequences once and no other. -/
theorem Spans.countP {gaps : List Gap} {first next : Nat} (h : Spans gaps first next) (n : Nat) :
    gaps.countP (fun gap => gap.covers n) = if first ≤ n ∧ n < next then 1 else 0 := by
  rcases h with ⟨rfl, rfl⟩ | ⟨gap, rfl, rfl, rfl, -⟩
  · rw [if_neg (by omega)]
    rfl
  · rw [List.countP_singleton]
    congr 1
    rw [Gap.covers, Bool.and_eq_true, decide_eq_true_eq, decide_eq_true_eq, Nat.lt_succ_iff]

theorem Spans.matches {gaps : List Gap} {first next : Nat} (h : Spans gaps first next)
    (hpos : 0 < next) : gapsMatchSkippedRange gaps first (next - 1) = true := by
  rcases h with ⟨rfl, rfl⟩ | ⟨gap, rfl, rfl, rfl, hlt⟩
  · rw [gapsMatchSkippedRange, if_pos (by omega)]
    rfl
  · rw [gapsMatchSkippedRange, if_neg (by omega)]
    simp [gapsReach]

@[simp] theorem addGap_nil (gap : Gap) : addGap [] gap = [gap] := rfl

/-- The range of one discarded observation. -/
def single (sequence : Nat) (observedAt : Bytes) : Gap :=
  { firstSequence := sequence, lastSequence := sequence, droppedCount := 1,
    firstObservedAt := observedAt, lastObservedAt := observedAt }

private theorem addGap_single {gap : Gap} {observedAt : Bytes}
    (hfirst : gap.firstSequence ≤ gap.lastSequence) (hbound : gap.lastSequence + 1 < 2 ^ 64) :
    addGap [gap] (single (gap.lastSequence + 1) observedAt) =
      [{ gap with
          lastSequence := gap.lastSequence + 1
          lastObservedAt := observedAt
          droppedCount := wrap (gap.lastSequence + 1 + 2 ^ 64 - gap.firstSequence + 1) }] := by
  have hsort : [gap, single (gap.lastSequence + 1) observedAt].insertionSort
      (fun left right => left.firstSequence ≤ right.firstSequence) =
      [gap, single (gap.lastSequence + 1) observedAt] := by
    have hle : gap.firstSequence ≤ (single (gap.lastSequence + 1) observedAt).firstSequence :=
      Nat.le_succ_of_le hfirst
    simp [List.insertionSort, hle]
  have htouch : ¬ wrap (gap.lastSequence + 1) <
      (single (gap.lastSequence + 1) observedAt).firstSequence := by
    rw [wrap, Nat.mod_eq_of_lt hbound]
    exact Nat.lt_irrefl _
  have hlater : gap.lastSequence < (single (gap.lastSequence + 1) observedAt).lastSequence :=
    Nat.lt_succ_self _
  rw [addGap, List.singleton_append, mergeGaps, hsort]
  show mergeInto gap [single (gap.lastSequence + 1) observedAt] = _
  rw [mergeInto, if_neg htouch, if_pos hlater]
  rfl

/-- A discarded observation that follows a range extends it. -/
theorem addGap_spans {gaps : List Gap} {first next : Nat} (observedAt : Bytes)
    (h : Spans gaps first next) (hbound : next < 2 ^ 64) :
    Spans (addGap gaps (single next observedAt)) first (next + 1) := by
  rcases h with ⟨rfl, rfl⟩ | ⟨gap, rfl, rfl, rfl, hlt⟩
  · rw [addGap_nil]
    exact .inr ⟨_, rfl, rfl, rfl, Nat.lt_succ_self _⟩
  · rw [addGap_single (by omega) hbound]
    exact .inr ⟨_, rfl, rfl, rfl, by omega⟩

/-- A range from where and when it began to the observation that ends it. -/
def ended (first next : Nat) (began observedAt : Bytes) : Gap :=
  { firstSequence := first, lastSequence := next, droppedCount := next - first + 1,
    firstObservedAt := began, lastObservedAt := observedAt }

/-- When the range began that an observation is added to. -/
def beganOf (range : List Gap) (observedAt : Bytes) : Bytes :=
  (range.head?.map Gap.firstObservedAt).getD observedAt

theorem addGap_ended {gaps : List Gap} {first next : Nat} (observedAt : Bytes)
    (h : Spans gaps first next) (hpos : 0 < first) (hbound : next < 2 ^ 64) :
    addGap gaps (single next observedAt) =
      [ended first next (beganOf gaps observedAt) observedAt] := by
  rcases h with ⟨rfl, rfl⟩ | ⟨gap, rfl, rfl, rfl, hlt⟩
  · rw [addGap_nil, single, ended, Nat.sub_self]
    rfl
  · have hcount : wrap (gap.lastSequence + 1 + 2 ^ 64 - gap.firstSequence + 1) =
        gap.lastSequence + 1 - gap.firstSequence + 1 := by
      unfold wrap
      omega
    rw [addGap_single (by omega) hbound, hcount]
    rfl

/-- What is merged counts what it covers. -/
theorem addGap_counted {gaps : List Gap} {first next : Nat} (observedAt : Bytes)
    (h : Spans gaps first next) (hpos : 0 < first) (hbound : next < 2 ^ 64) :
    ∀ gap ∈ addGap gaps (single next observedAt), gap.Counted := by
  rw [addGap_ended observedAt h hpos hbound]
  intro gap hgap
  rw [List.mem_singleton.1 hgap]
  rfl

/-- What is merged can be written where its parts can. -/
theorem addGap_representable {gaps : List Gap} {first next : Nat} {observedAt : Bytes}
    (h : Spans gaps first next) (hbound : next < 2 ^ 64) (hvalid : Valid observedAt)
    (hgaps : ∀ gap ∈ gaps, gap.Representable) :
    ∀ gap ∈ addGap gaps (single next observedAt), gap.Representable := by
  rcases h with ⟨rfl, rfl⟩ | ⟨gap, rfl, rfl, rfl, hlt⟩
  · rw [addGap_nil]
    intro gap hgap
    rw [List.mem_singleton] at hgap
    subst hgap
    exact ⟨hbound, hbound, by show 1 < 2 ^ 64; decide, hvalid, hvalid⟩
  · rw [addGap_single (by omega) hbound]
    intro other hother
    rw [List.mem_singleton] at hother
    subst hother
    have hgap := hgaps gap List.mem_cons_self
    exact ⟨hgap.firstSequence, hbound, Nat.mod_lt _ (by decide), hgap.firstObservedAt, hvalid⟩

/-! ## Ranges that do not touch -/

/-- Ranges in order that touch neither each other nor a sequence after them. -/
structure Apart (gaps : List Gap) (next : Nat) : Prop where
  shaped : ∀ gap ∈ gaps, gap.firstSequence ≤ gap.lastSequence
  apart : gaps.Pairwise fun left right => left.lastSequence + 1 < right.firstSequence
  before : ∀ gap ∈ gaps, gap.lastSequence + 1 < next

theorem Apart.nil (next : Nat) : Apart [] next :=
  ⟨fun _ h => absurd h List.not_mem_nil, List.Pairwise.nil, fun _ h => absurd h List.not_mem_nil⟩

/-- One range more, at a sequence after the others. -/
theorem Apart.concat {gaps : List Gap} {gap : Gap} {next : Nat}
    (h : Apart gaps gap.firstSequence) (hgap : gap.firstSequence ≤ gap.lastSequence)
    (hnext : gap.lastSequence + 1 < next) : Apart (gaps ++ [gap]) next where
  shaped other hother := by
    rcases List.mem_append.1 hother with hother | hother
    · exact h.shaped other hother
    · rw [List.mem_singleton.1 hother]
      exact hgap
  apart := by
    apply List.pairwise_append.2
    refine ⟨h.apart, List.pairwise_singleton _ _, fun left hleft right hright => ?_⟩
    rw [List.mem_singleton.1 hright]
    exact h.before left hleft
  before other hother := by
    rcases List.mem_append.1 hother with hother | hother
    · have := h.before other hother
      omega
    · rw [List.mem_singleton.1 hother]
      exact hnext

/-- The ranges after those that do not touch, once a later sequence begins. -/
theorem Apart.spans {before range : List Gap} {first next later : Nat} (h : Apart before first)
    (hrange : Spans range first next) (hlater : next < later) : Apart (before ++ range) later := by
  rcases hrange with ⟨rfl, rfl⟩ | ⟨gap, rfl, rfl, rfl, hlt⟩
  · rw [List.append_nil]
    exact ⟨h.shaped, h.apart, fun gap hgap => (h.before gap hgap).trans hlater⟩
  · exact h.concat (by omega) hlater

private theorem Apart.sorted {gaps : List Gap} {next : Nat} (h : Apart gaps next) :
    gaps.Pairwise fun left right => left.firstSequence ≤ right.firstSequence := by
  apply h.apart.imp_of_mem
  intro left right hleft _ hlt
  have := h.shaped left hleft
  omega

/-- Ranges before a list that do not touch it stay as they are. -/
theorem mergeInto_append {last gap : Gap} {front back : List Gap}
    (h : (last :: front ++ [gap]).Pairwise fun left right =>
      left.lastSequence + 1 < right.firstSequence)
    (hbound : gap.firstSequence < 2 ^ 64) :
    mergeInto last (front ++ gap :: back) = last :: front ++ mergeInto gap back := by
  induction front generalizing last with
  | nil =>
      have hlt : last.lastSequence + 1 < gap.firstSequence :=
        (List.pairwise_cons.1 h).1 gap List.mem_cons_self
      rw [List.nil_append, mergeInto, wrap, Nat.mod_eq_of_lt (by omega), if_pos hlt]
      rfl
  | cons next front ih =>
      obtain ⟨hlast, hrest⟩ := List.pairwise_cons.1 h
      have hnext := hlast next List.mem_cons_self
      have hgap := hlast gap (List.mem_append_right _ List.mem_cons_self)
      rw [List.cons_append, mergeInto, wrap, Nat.mod_eq_of_lt (by omega), if_pos hnext, ih hrest]
      rfl

private theorem mergeGaps_append {front back : List Gap} {gap : Gap}
    (h : (front ++ [gap]).Pairwise fun left right =>
      left.lastSequence + 1 < right.firstSequence)
    (hsorted : (front ++ gap :: back).Pairwise fun left right =>
      left.firstSequence ≤ right.firstSequence)
    (hbound : gap.firstSequence < 2 ^ 64) :
    mergeGaps (front ++ gap :: back) = front ++ mergeGaps (gap :: back) := by
  rw [mergeGaps, mergeGaps, hsorted.insertionSort_eq,
    (List.pairwise_append.1 hsorted).2.1.insertionSort_eq]
  cases front with
  | nil => rfl
  | cons last front => exact mergeInto_append h hbound

/-- Ranges that do not touch are added as they are. -/
theorem foldl_addGap_apart {gaps more : List Gap} {next : Nat} (h : Apart (gaps ++ more) next)
    (hbound : next ≤ 2 ^ 64) : more.foldl addGap gaps = gaps ++ more := by
  induction more generalizing gaps with
  | nil => exact (List.append_nil gaps).symm
  | cons gap more ih =>
      rw [List.append_cons] at h ⊢
      have hsub : (gaps ++ [gap]).Sublist (gaps ++ [gap] ++ more) := List.sublist_append_left _ _
      have hmem : gap ∈ gaps ++ [gap] ++ more := by simp
      have hgap := h.shaped gap hmem
      have hbefore := h.before gap hmem
      have hadd : addGap gaps gap = gaps ++ [gap] :=
        mergeGaps_append (h.apart.sublist hsub) (h.sorted.sublist hsub) (by omega)
      rw [List.foldl_cons, hadd, ih h]

/-- One more discarded observation extends the range right before it, or begins
a new one; the ranges before that one stay. -/
theorem addGap_append {before range : List Gap} {first next : Nat} (observedAt : Bytes)
    (h : Apart before first) (hrange : Spans range first next) (hbound : next < 2 ^ 64) :
    addGap (before ++ range) (single next observedAt) =
      before ++ addGap range (single next observedAt) := by
  rcases hrange with ⟨rfl, rfl⟩ | ⟨gap, rfl, rfl, rfl, hlt⟩
  · have hbefore : Apart before (single first observedAt).firstSequence := h
    have hall : Apart (before ++ [single first observedAt]) (first + 2) :=
      hbefore.concat (le_refl first) (Nat.lt_succ_self _)
    rw [List.append_nil]
    exact mergeGaps_append hall.apart hall.sorted hbound
  · have hfront : Apart (before ++ [gap]) (gap.lastSequence + 2) :=
      h.concat (by omega) (Nat.lt_succ_self _)
    have hsorted : (before ++ [gap] ++ [single (gap.lastSequence + 1) observedAt]).Pairwise
        fun left right => left.firstSequence ≤ right.firstSequence := by
      apply List.pairwise_append.2
      refine ⟨hfront.sorted, List.pairwise_singleton _ _, fun left hleft right hright => ?_⟩
      have hshaped := hfront.shaped left hleft
      have hbefore := hfront.before left hleft
      rw [List.mem_singleton.1 hright]
      show left.firstSequence ≤ gap.lastSequence + 1
      omega
    rw [addGap, addGap, List.append_assoc]
    rw [List.append_assoc] at hsorted
    exact mergeGaps_append hfront.apart hsorted (by omega)

end YourCloud.Observation
