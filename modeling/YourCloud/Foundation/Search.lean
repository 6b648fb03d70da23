import Mathlib.Order.Basic
import Mathlib.Data.List.InsertIdx

/-!
# Binary search

The search halves an interval of indices until it is empty.  What it finds is the first
index of those where a condition holds, when the condition holds from there on.

## Main results

* `search_spec` — what is known of the index found.
* `searchList_cut` — where a list is cut at the index found.
-/

namespace YourCloud.Foundation

/-- The search between two indices, with as many steps as there are indices. -/
def searchFrom (f : Nat → Bool) : (steps i j : Nat) → Nat
  | 0, i, _ => i
  | steps + 1, i, j =>
      if i < j then
        if f ((i + j) / 2) then searchFrom f steps i ((i + j) / 2)
        else searchFrom f steps ((i + j) / 2 + 1) j
      else i

/-- The first of so many indices where a condition holds that holds from there on. -/
def search (n : Nat) (f : Nat → Bool) : Nat := searchFrom f n 0 n

theorem searchFrom_spec {f : Nat → Bool} {steps i j n : Nat} (hij : i ≤ j) (hjn : j ≤ n)
    (hsteps : j - i ≤ steps) (hbefore : 0 < i → f (i - 1) = false) (hafter : j < n → f j = true) :
    let k := searchFrom f steps i j
    k ≤ n ∧ (0 < k → f (k - 1) = false) ∧ (k < n → f k = true) := by
  induction steps generalizing i j with
  | zero =>
      have hsame : i = j := by omega
      rw [searchFrom, hsame]
      rw [hsame] at hbefore
      exact ⟨hjn, hbefore, hafter⟩
  | succ steps ih =>
      unfold searchFrom
      by_cases hlt : i < j
      · rw [if_pos hlt]
        by_cases hmiddle : f ((i + j) / 2) = true
        · rw [if_pos hmiddle]
          exact ih (by omega) (by omega) (by omega) hbefore fun _ => hmiddle
        · rw [if_neg hmiddle]
          apply ih (by omega) hjn (by omega) _ hafter
          intro _
          simpa using hmiddle
      · rw [if_neg hlt]
        have hsame : i = j := by omega
        rw [← hsame] at hafter hjn
        exact ⟨hjn, hbefore, hafter⟩

/-- The index found: the condition holds there, unless it is past the last one, and not
right before it. -/
theorem search_spec (n : Nat) (f : Nat → Bool) :
    search n f ≤ n ∧ (0 < search n f → f (search n f - 1) = false) ∧
      (search n f < n → f (search n f) = true) :=
  searchFrom_spec (Nat.zero_le n) (Nat.le_refl n) (Nat.le_refl n)
    (fun h => absurd h (Nat.lt_irrefl 0)) fun h => absurd h (Nat.lt_irrefl n)

section Lists

variable {α : Type*} {p : α → Bool} {l : List α}

/-- The index of the first entry of a list where a condition holds. -/
def searchList (p : α → Bool) (l : List α) : Nat :=
  search l.length fun i => (l[i]?).any p

theorem searchList_le (p : α → Bool) (l : List α) : searchList p l ≤ l.length :=
  (search_spec l.length _).1

/-- Where the condition holds from some entry on, the search cuts the list there. -/
theorem searchList_cut (h : l.Pairwise fun a b => p a = true → p b = true) :
    (∀ a ∈ l.take (searchList p l), p a = false) ∧ ∀ a ∈ l.drop (searchList p l), p a = true := by
  obtain ⟨hle, hbefore, hat⟩ := search_spec l.length fun i => (l[i]?).any p
  change searchList p l ≤ l.length at hle
  change 0 < searchList p l → (l[searchList p l - 1]?).any p = false at hbefore
  change searchList p l < l.length → (l[searchList p l]?).any p = true at hat
  generalize searchList p l = k at hle hbefore hat
  rw [List.pairwise_iff_getElem] at h
  constructor
  · intro a ha
    obtain ⟨i, hi, rfl⟩ := List.mem_take_iff_getElem.1 ha
    have hik : i < k := by omega
    have hlast := hbefore (by omega)
    rw [List.getElem?_eq_getElem (by omega), Option.any_some] at hlast
    by_cases hsame : i = k - 1
    · simpa [hsame] using hlast
    · by_contra hholds
      have hlater := h i (k - 1) (by omega) (by omega) (by omega) (by simpa using hholds)
      rw [hlast] at hlater
      cases hlater
  · intro a ha
    obtain ⟨i, hi, rfl⟩ := List.mem_drop_iff_getElem.1 ha
    have hfirst := hat (by omega)
    rw [List.getElem?_eq_getElem (by omega), Option.any_some] at hfirst
    by_cases hzero : i = 0
    · simpa [hzero] using hfirst
    · exact h k (k + i) (by omega) (by omega) (by omega) hfirst

theorem insertIdx_cut (a : α) {k : Nat} (hk : k ≤ l.length) :
    l.insertIdx k a = l.take k ++ a :: l.drop k := by
  induction l generalizing k with
  | nil =>
      have hzero : k = 0 := by simpa using hk
      simp [hzero]
  | cons b l ih =>
      cases k with
      | zero => simp
      | succ k => simpa using ih (by simpa using hk)

/-- The entry at the index is the first one where the condition holds. -/
theorem searchList_find (hp : l.Pairwise fun a b => p a = true → p b = true) :
    l[searchList p l]? = l.find? p := by
  obtain ⟨htake, hdrop⟩ := searchList_cut hp
  have hsplit : l.find? p = (l.drop (searchList p l)).find? p := by
    have hnone : (l.take (searchList p l)).find? p = none := by
      rw [List.find?_eq_none]
      intro a ha
      simp [htake a ha]
    conv => lhs; rw [← List.take_append_drop (searchList p l) l]
    rw [List.find?_append, hnone, Option.none_or]
  rw [hsplit, ← List.head?_drop]
  cases hrest : l.drop (searchList p l) with
  | nil => rfl
  | cons a rest =>
      have hholds : p a = true := hdrop a (by simp [hrest])
      simp [hholds]

end Lists

end YourCloud.Foundation
