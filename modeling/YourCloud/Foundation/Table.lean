import Mathlib.Data.List.Basic
import Mathlib.Data.List.Count

/-!
# Tables

A table holds at most one entry for each key, and the key is a part of the entry.
It is a list in which what was put last comes first.

## Main results

* `find_put`, `find_remove` — what is found after a change.
* `count_put_le`, `count_remove_add_le` — how often an entry is there: putting adds
  it once, and removing the one that was found takes it away.
-/

namespace YourCloud.Foundation

namespace Table

variable {α κ : Type*} [DecidableEq κ] (key : α → κ)

def find (k : κ) (table : List α) : Option α := table.find? fun a => key a = k

def remove (k : κ) (table : List α) : List α := table.filter fun a => key a ≠ k

def put (a : α) (table : List α) : List α := a :: remove key (key a) table

variable {key} {k : κ} {a b : α} {table : List α}

theorem find_key (h : find key k table = some a) : key a = k := by
  have := List.find?_some h
  exact of_decide_eq_true this

theorem find_mem (h : find key k table = some a) : a ∈ table := List.mem_of_find?_eq_some h

theorem mem_remove : a ∈ remove key k table ↔ a ∈ table ∧ key a ≠ k := by
  simp [remove]

theorem mem_put : b ∈ put key a table ↔ b = a ∨ b ∈ table ∧ key b ≠ key a := by
  rw [put, List.mem_cons, mem_remove]

theorem find_remove (k' : κ) : find key k' (remove key k table) =
    if k' = k then none else find key k' table := by
  unfold find remove
  rw [List.find?_filter]
  by_cases hk : k' = k
  · rw [if_pos hk, List.find?_eq_none]
    intro x _
    simp [hk]
  · rw [if_neg hk]
    congr 1
    funext x
    by_cases hx : key x = k'
    · simp [hx, hk]
    · simp [hx]

theorem find_put (k' : κ) : find key k' (put key a table) =
    if k' = key a then some a else find key k' table := by
  by_cases hk : k' = key a
  · rw [if_pos hk]
    exact List.find?_cons_of_pos (decide_eq_true hk.symm)
  · rw [if_neg hk]
    have hne : ¬ decide (key a = k') = true := by simpa using fun h => hk h.symm
    have hrest : find key k' (remove key (key a) table) =
        if k' = key a then none else find key k' table := find_remove k'
    rw [if_neg hk] at hrest
    have hfirst : find key k' (put key a table) = find key k' (remove key (key a) table) :=
      List.find?_cons_of_neg hne
    rw [hfirst, hrest]

variable [DecidableEq α]

theorem count_remove_le (b : α) : (remove key k table).count b ≤ table.count b :=
  List.filter_sublist.count_le b

theorem count_one (a b : α) : [a].count b = if b = a then 1 else 0 := by
  by_cases h : b = a
  · rw [if_pos h, h, List.count_singleton_self]
  · rw [if_neg h, List.count_eq_zero]
    exact fun hmem => h (List.mem_singleton.1 hmem)

theorem count_put_le (b : α) :
    (put key a table).count b ≤ table.count b + if b = a then 1 else 0 := by
  have hrest : (remove key (key a) table).count b ≤ table.count b := count_remove_le b
  unfold put
  by_cases h : b = a
  · rw [if_pos h, h, List.count_cons_self]
    rw [h] at hrest
    omega
  · rw [if_neg h, List.count_cons_of_ne (Ne.symm h)]
    omega

/-- What was found goes. -/
theorem count_remove_add_le (ha : a ∈ table) (hkey : key a = k) (b : α) :
    (remove key k table).count b + (if b = a then 1 else 0) ≤ table.count b := by
  by_cases h : b = a
  · rw [if_pos h, h]
    have hgone : (remove key k table).count a = 0 :=
      List.count_eq_zero.2 fun hmem => (mem_remove.1 hmem).2 hkey
    have hthere := List.count_pos_iff.2 ha
    omega
  · rw [if_neg h]
    exact count_remove_le b

end Table

end YourCloud.Foundation
