import Mathlib.Data.List.Nodup

/-!
# Gathering a list without repetition

What is new is put at the end of what is there already, so each entry stands where it was
first met.  Where entries have parents, an order in which parents come first survives this:
an entry that is left out was met before, and its parent was met before that.

## Main results

* `gather_nodup`, `gather_prefix`, `mem_gather` — what is gathered.
* `gather_ordered` — parents stay first.
-/

namespace YourCloud.Foundation.Gather

variable {α : Type*}

section Gathered

variable [DecidableEq α]

/-- One more entry, unless it is there already. -/
def add (seen : List α) (entry : α) : List α := if entry ∈ seen then seen else seen ++ [entry]

/-- Entries in the order in which each is first met. -/
def gather (seen entries : List α) : List α := entries.foldl add seen

@[simp] theorem gather_nil (seen : List α) : gather seen [] = seen := rfl

@[simp] theorem gather_cons (seen entries : List α) (entry : α) :
    gather seen (entry :: entries) = gather (add seen entry) entries := rfl

theorem add_of_mem {seen : List α} {entry : α} (h : entry ∈ seen) : add seen entry = seen :=
  if_pos h

theorem add_of_not_mem {seen : List α} {entry : α} (h : entry ∉ seen) :
    add seen entry = seen ++ [entry] := if_neg h

theorem mem_add {seen : List α} {entry other : α} :
    other ∈ add seen entry ↔ other ∈ seen ∨ other = entry := by
  by_cases h : entry ∈ seen
  · rw [add_of_mem h, or_iff_left_of_imp]
    intro hsame
    rw [hsame]
    exact h
  · rw [add_of_not_mem h, List.mem_append, List.mem_singleton]

theorem prefix_add (seen : List α) (entry : α) : seen <+: add seen entry := by
  by_cases h : entry ∈ seen
  · exact (add_of_mem h).symm ▸ List.prefix_refl seen
  · rw [add_of_not_mem h]
    exact List.prefix_append _ _

theorem add_nodup {seen : List α} (h : seen.Nodup) (entry : α) : (add seen entry).Nodup := by
  by_cases hentry : entry ∈ seen
  · rwa [add_of_mem hentry]
  · rw [add_of_not_mem hentry]
    rw [← List.concat_eq_append]
    exact h.concat hentry

theorem gather_nodup {seen : List α} (h : seen.Nodup) (entries : List α) :
    (gather seen entries).Nodup := by
  induction entries generalizing seen with
  | nil => exact h
  | cons entry entries ih => exact ih (add_nodup h entry)

theorem gather_prefix (seen entries : List α) : seen <+: gather seen entries := by
  induction entries generalizing seen with
  | nil => exact List.prefix_refl _
  | cons entry entries ih => exact (prefix_add seen entry).trans (ih _)

theorem mem_gather {seen entries : List α} {other : α} :
    other ∈ gather seen entries ↔ other ∈ seen ∨ other ∈ entries := by
  induction entries generalizing seen with
  | nil => simp
  | cons entry entries ih => rw [gather_cons, ih, mem_add, List.mem_cons, or_assoc]

end Gathered

/-! ## Parents first -/

section Ordered

variable (child : α → Prop) (parent : α → α)

/-- The parent of every child stands before it. -/
def Ordered (entries : List α) : Prop :=
  ∀ before entry after, entries = before ++ entry :: after → child entry → parent entry ∈ before

/-- The parent of every child is among what is there already, or stands before it. -/
def Follows : List α → List α → Prop
  | _, [] => True
  | seen, entry :: entries =>
      (child entry → parent entry ∈ seen) ∧ Follows (seen ++ [entry]) entries

variable {child} {parent}

theorem Follows.mono {seen more entries : List α} (h : Follows child parent seen entries)
    (hsub : seen ⊆ more) : Follows child parent more entries := by
  induction entries generalizing seen more with
  | nil => trivial
  | cons entry entries ih =>
      constructor
      · intro hchild
        exact hsub (h.1 hchild)
      · apply ih h.2
        intro other hother
        simp only [List.mem_append] at hother ⊢
        exact hother.imp_left fun hmem => hsub hmem

theorem Follows.append {seen first second : List α} (hfirst : Follows child parent seen first)
    (hsecond : Follows child parent seen second) : Follows child parent seen (first ++ second) := by
  induction first generalizing seen with
  | nil => exact hsecond
  | cons entry first ih =>
      exact ⟨hfirst.1, ih hfirst.2 (hsecond.mono (List.subset_append_left _ _))⟩

theorem Follows.flatMap {β : Type*} {f : β → List α} {seen : List α} {l : List β}
    (h : ∀ b ∈ l, Follows child parent seen (f b)) : Follows child parent seen (l.flatMap f) := by
  induction l with
  | nil => trivial
  | cons b l ih =>
      rw [List.forall_mem_cons] at h
      rw [List.flatMap_cons]
      exact h.1.append (ih h.2)

theorem Ordered.concat {entries : List α} {entry : α} (h : Ordered child parent entries)
    (hentry : child entry → parent entry ∈ entries) : Ordered child parent (entries ++ [entry]) := by
  intro before other after hsplit hother
  cases List.eq_nil_or_concat after with
  | inl hnil =>
      rw [hnil] at hsplit
      obtain ⟨hbefore, hlast⟩ := List.append_inj' hsplit rfl
      rw [List.cons.injEq] at hlast
      rw [← hbefore, ← hlast.1]
      rw [← hlast.1] at hother
      exact hentry hother
  | inr hlast =>
      obtain ⟨init, last, hinit⟩ := hlast
      rw [hinit, List.concat_eq_append, ← List.cons_append, ← List.append_assoc] at hsplit
      exact h before other init (List.append_inj_left' hsplit rfl) hother

/-- Entries that follow what is gathered are gathered with their parents first. -/
theorem gather_ordered [DecidableEq α] {seen entries : List α} (hseen : Ordered child parent seen)
    (hentries : Follows child parent seen entries) :
    Ordered child parent (gather seen entries) := by
  induction entries generalizing seen with
  | nil => exact hseen
  | cons entry entries ih =>
      rw [gather_cons]
      by_cases hmem : entry ∈ seen
      · rw [add_of_mem hmem]
        apply ih hseen
        exact hentries.2.mono (by simp [hmem])
      · rw [add_of_not_mem hmem]
        exact ih (hseen.concat hentries.1) hentries.2

end Ordered

end YourCloud.Foundation.Gather
