import Mathlib.Data.List.Infix
import Mathlib.Data.List.TakeWhile

/-!
# Paths and their segments

An absolute path is its segments, each behind a separator.  One path contains another
when it is the other, or opens it up to a separator: what decides is the segments, so a
path never contains a longer name that merely starts like it.

Segments and separators are of any type; a segment holds no separator.

## Main results

* `pathOf_injective` — a path has one list of segments.
* `contains_iff` — one path contains another exactly when its segments open the other's.
* `apart_of_ne` — paths that part at a segment contain neither the other.
* `pathOf_splitOn`, `splitOn_pathOf` — splitting a path gives its segments.
-/

namespace YourCloud.Foundation.Paths

variable {α : Type*} (separator : α)

/-- The path of some segments. -/
def pathOf (segments : List (List α)) : List α := segments.flatMap fun segment => separator :: segment

/-- The first path is the second, or contains it. -/
def Contains (outer inner : List α) : Prop := inner = outer ∨ outer ++ [separator] <+: inner

/-- Neither path is the other, or inside it. -/
def Apart (first second : List α) : Prop :=
  ¬ Contains separator first second ∧ ¬ Contains separator second first

variable {separator}

@[simp] theorem pathOf_nil : pathOf separator [] = [] := rfl

@[simp] theorem pathOf_cons (segment : List α) (segments : List (List α)) :
    pathOf separator (segment :: segments) = separator :: (segment ++ pathOf separator segments) :=
  rfl

theorem pathOf_append (first second : List (List α)) :
    pathOf separator (first ++ second) = pathOf separator first ++ pathOf separator second :=
  List.flatMap_append

/-- A text that a segment can end at. -/
def Ends (separator : α) (rest : List α) : Prop := rest = [] ∨ rest.head? = some separator

theorem pathOf_ends (segments : List (List α)) : Ends separator (pathOf separator segments) := by
  cases segments with
  | nil => exact Or.inl rfl
  | cons segment segments => exact Or.inr rfl

theorem pathOf_append_ends (segments : List (List α)) {rest : List α} (h : Ends separator rest) :
    Ends separator (pathOf separator segments ++ rest) := by
  cases segments with
  | nil => exact h
  | cons segment segments => exact Or.inr rfl

/-- A segment ends at the first separator. -/
theorem segment_cut {first second rest rest' : List α} (hfirst : separator ∉ first)
    (hsecond : separator ∉ second) (hrest : Ends separator rest) (hrest' : Ends separator rest')
    (h : first ++ rest = second ++ rest') : first = second ∧ rest = rest' := by
  induction first generalizing second with
  | nil =>
      cases second with
      | nil => exact ⟨rfl, h⟩
      | cons b second =>
          rw [List.nil_append] at h
          rw [h] at hrest
          simp only [Ends, List.cons_append, reduceCtorEq, List.head?_cons, Option.some.injEq,
            false_or] at hrest
          simp [hrest] at hsecond
  | cons a first ih =>
      cases second with
      | nil =>
          rw [List.nil_append] at h
          rw [← h] at hrest'
          simp only [Ends, List.cons_append, reduceCtorEq, List.head?_cons, Option.some.injEq,
            false_or] at hrest'
          simp [hrest'] at hfirst
      | cons b second =>
          rw [List.cons_append, List.cons_append, List.cons.injEq] at h
          rw [List.mem_cons, not_or] at hfirst hsecond
          obtain ⟨hsegments, hrests⟩ := ih hfirst.2 hsecond.2 h.2
          exact ⟨by rw [h.1, hsegments], hrests⟩

/-- A path that opens a text up to a separator opens its segments. -/
theorem prefix_of_pathOf {outer inner : List (List α)} (houter : ∀ s ∈ outer, separator ∉ s)
    (hinner : ∀ s ∈ inner, separator ∉ s) {rest : List α} (hrest : Ends separator rest)
    (h : pathOf separator inner = pathOf separator outer ++ rest) :
    ∃ more, inner = outer ++ more ∧ rest = pathOf separator more := by
  induction outer generalizing inner with
  | nil => exact ⟨inner, rfl, h.symm⟩
  | cons segment outer ih =>
      cases inner with
      | nil => simp at h
      | cons other inner =>
          rw [List.forall_mem_cons] at houter hinner
          rw [pathOf_cons, pathOf_cons, List.cons_append, List.append_assoc, List.cons.injEq] at h
          obtain ⟨hsegment, hpaths⟩ := segment_cut hinner.1 houter.1 (pathOf_ends inner)
            (pathOf_append_ends outer hrest) h.2
          obtain ⟨more, hmore, hpath⟩ := ih houter.2 hinner.2 hpaths
          exact ⟨more, by rw [hsegment, hmore, List.cons_append], hpath⟩

theorem pathOf_injective {first second : List (List α)} (hfirst : ∀ s ∈ first, separator ∉ s)
    (hsecond : ∀ s ∈ second, separator ∉ s) (h : pathOf separator first = pathOf separator second) :
    first = second := by
  obtain ⟨more, hmore, hnothing⟩ := prefix_of_pathOf hfirst hsecond (Or.inl rfl)
    (by rw [List.append_nil, h])
  cases more with
  | nil => rw [hmore, List.append_nil]
  | cons segment more => cases hnothing

theorem contains_iff {outer inner : List (List α)} (houter : ∀ s ∈ outer, separator ∉ s)
    (hinner : ∀ s ∈ inner, separator ∉ s) :
    Contains separator (pathOf separator outer) (pathOf separator inner) ↔ outer <+: inner := by
  constructor
  · intro h
    cases h with
    | inl hsame => rw [pathOf_injective hinner houter hsame]
    | inr hprefix =>
        obtain ⟨rest, hrest⟩ := hprefix
        rw [List.append_assoc] at hrest
        obtain ⟨more, hmore, -⟩ := prefix_of_pathOf houter hinner (Or.inr rfl) hrest.symm
        exact ⟨more, hmore.symm⟩
  · rintro ⟨more, rfl⟩
    rw [pathOf_append]
    cases more with
    | nil => exact Or.inl (List.append_nil _)
    | cons segment more =>
        right
        rw [pathOf_cons]
        exact ⟨segment ++ pathOf separator more, by simp⟩

theorem apart_iff {first second : List (List α)} (hfirst : ∀ s ∈ first, separator ∉ s)
    (hsecond : ∀ s ∈ second, separator ∉ s) :
    Apart separator (pathOf separator first) (pathOf separator second) ↔
      ¬ first <+: second ∧ ¬ second <+: first := by
  rw [Apart, contains_iff hfirst hsecond, contains_iff hsecond hfirst]

/-- Segments that part after a common beginning. -/
theorem not_prefix_of_ne {common first second : List (List α)} {a b : List α} (h : a ≠ b) :
    ¬ common ++ a :: first <+: common ++ b :: second := by
  rw [List.prefix_append_right_inj, List.cons_prefix_cons]
  exact fun hprefix => h hprefix.1

theorem apart_of_ne {common first second : List (List α)} {a b : List α} (h : a ≠ b)
    (hfirst : ∀ s ∈ common ++ a :: first, separator ∉ s)
    (hsecond : ∀ s ∈ common ++ b :: second, separator ∉ s) :
    Apart separator (pathOf separator (common ++ a :: first))
      (pathOf separator (common ++ b :: second)) :=
  (apart_iff hfirst hsecond).2 ⟨not_prefix_of_ne h, not_prefix_of_ne h.symm⟩

/-- Paths below one directory are apart where what they are below it is. -/
theorem apart_append_left {common first second : List (List α)}
    (hcommon : ∀ s ∈ common, separator ∉ s) (hfirst : ∀ s ∈ first, separator ∉ s)
    (hsecond : ∀ s ∈ second, separator ∉ s) :
    Apart separator (pathOf separator (common ++ first)) (pathOf separator (common ++ second)) ↔
      Apart separator (pathOf separator first) (pathOf separator second) := by
  rw [apart_iff (List.forall_mem_append.2 ⟨hcommon, hfirst⟩)
      (List.forall_mem_append.2 ⟨hcommon, hsecond⟩),
    apart_iff hfirst hsecond, List.prefix_append_right_inj, List.prefix_append_right_inj]

/-! ## Splitting -/

section Split

variable [BEq α] [LawfulBEq α]

/-- A text behind a separator is the path of what it splits into. -/
theorem pathOf_splitOn (s : List α) : pathOf separator (s.splitOn separator) = separator :: s := by
  induction s with
  | nil => simp
  | cons a s ih =>
      rw [List.splitOn_cons_eq_if_modifyHead]
      by_cases hsep : a = separator
      · simp [hsep, ih]
      · cases hsplit : s.splitOn separator with
        | nil => exact absurd hsplit (List.splitOn_ne_nil separator s)
        | cons first rest =>
            rw [hsplit, pathOf_cons, List.cons.injEq] at ih
            simp [hsep, ih.2]

theorem splitOn_pathOf {segments : List (List α)} (hne : segments ≠ [])
    (h : ∀ s ∈ segments, separator ∉ s) :
    (pathOf separator segments).tail.splitOn separator = segments := by
  induction segments with
  | nil => exact absurd rfl hne
  | cons segment segments ih =>
      rw [List.forall_mem_cons] at h
      rw [pathOf_cons, List.tail_cons]
      cases segments with
      | nil => rw [pathOf_nil, List.append_nil, List.splitOn_eq_singleton h.1]
      | cons other segments =>
          have hrest := ih (List.cons_ne_nil _ _) h.2
          rw [pathOf_cons, List.tail_cons] at hrest
          rw [pathOf_cons, List.splitOn_append_cons_self_of_not_mem h.1, hrest]

/-- No part of a split text holds the separator. -/
theorem not_mem_of_mem_splitOn {s part : List α} (h : part ∈ s.splitOn separator) :
    separator ∉ part := by
  induction s generalizing part with
  | nil =>
      rw [List.splitOn_nil, List.mem_singleton] at h
      simp [h]
  | cons a s ih =>
      rw [List.splitOn_cons_eq_if_modifyHead] at h
      by_cases hsep : a = separator
      · simp only [hsep, beq_self_eq_true, if_true, List.mem_cons] at h
        cases h with
        | inl hnil => simp [hnil]
        | inr hmem => exact ih hmem
      · rw [if_neg (by simpa using hsep)] at h
        cases hsplit : s.splitOn separator with
        | nil => exact absurd hsplit (List.splitOn_ne_nil separator s)
        | cons first rest =>
            rw [hsplit] at h ih
            rw [List.modifyHead_cons, List.mem_cons] at h
            cases h with
            | inl hfirst =>
                rw [hfirst, List.mem_cons, not_or]
                exact ⟨fun hsame => hsep hsame.symm, ih List.mem_cons_self⟩
            | inr hrest => exact ih (List.mem_cons_of_mem _ hrest)

end Split

end YourCloud.Foundation.Paths
