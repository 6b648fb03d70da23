import Mathlib.Data.List.Sort

/-!
# A bounded history for each owner

A history is a list of items, the oldest first.  Of the closed items of each owner the
latest ones are retained, as many as a bound says; an open item is retained whatever its
age.

A history that only grows at its end and whose items only close can be trimmed at every
step: what a step retains of what was retained before is what it would have retained of
everything.

## Main results

* `countClosed_retained` — how many closed items of an owner are left.
* `retained_append` — an arrival after trimming, or before.
* `retained_settle` — an item closed after trimming, or before.
* `retained_map_of_closing` — closing all items forgets none where no owner has too many.
* `insertionSort_reverse` — sorting by strictly growing stamps puts a history in order.
-/

namespace YourCloud.Foundation.Retention

variable {α β κ : Type*} [DecidableEq κ] (closed : α → Bool) (owner : α → κ) (bound : Nat)

/-- How many closed items an owner has. -/
def countClosed (k : κ) (items : List α) : Nat := items.countP fun a => closed a && owner a = k

/-- The open items, and of each owner the latest closed ones. -/
def retained : List α → List α
  | [] => []
  | a :: later =>
      if closed a = true ∧ bound ≤ countClosed closed owner (owner a) later then retained later
      else a :: retained later

/-- The first item that meets a condition, replaced. -/
def settle (p : α → Bool) (f : α → α) : List α → List α
  | [] => []
  | a :: later => if p a then f a :: later else a :: settle p f later

variable {closed owner bound}

theorem countClosed_cons (k : κ) (a : α) (later : List α) :
    countClosed closed owner k (a :: later) =
      countClosed closed owner k later + if closed a = true ∧ owner a = k then 1 else 0 := by
  simp [countClosed, List.countP_cons]

theorem retained_sublist (items : List α) :
    (retained closed owner bound items).Sublist items := by
  induction items with
  | nil => exact List.Sublist.refl _
  | cons a later ih =>
      unfold retained
      split
      · exact ih.cons a
      · exact ih.cons_cons a

theorem countClosed_retained (k : κ) (items : List α) :
    countClosed closed owner k (retained closed owner bound items) =
      min bound (countClosed closed owner k items) := by
  induction items with
  | nil => simp [retained, countClosed]
  | cons a later ih =>
      rw [retained, countClosed_cons]
      by_cases hfull : closed a = true ∧ bound ≤ countClosed closed owner (owner a) later
      · rw [if_pos hfull, ih]
        by_cases hk : closed a = true ∧ owner a = k
        · have hbound := hfull.2
          rw [hk.2] at hbound
          rw [if_pos hk]
          omega
        · rw [if_neg hk]
          omega
      · rw [if_neg hfull, countClosed_cons, ih]
        by_cases hk : closed a = true ∧ owner a = k
        · rw [not_and, hk.2] at hfull
          have hroom := hfull hk.1
          rw [if_pos hk]
          omega
        · rw [if_neg hk]
          omega

/-- Whether an item is retained is told by what is retained after it. -/
theorem retained_cons_congr (a : α) {xs ys : List α}
    (h : retained closed owner bound xs = retained closed owner bound ys) :
    retained closed owner bound (a :: xs) = retained closed owner bound (a :: ys) := by
  have hcount := congrArg (countClosed closed owner (owner a)) h
  rw [countClosed_retained, countClosed_retained] at hcount
  have hfull : bound ≤ countClosed closed owner (owner a) xs ↔
      bound ≤ countClosed closed owner (owner a) ys := by omega
  rw [retained, retained, h]
  simp only [hfull]

theorem retained_retained (items : List α) :
    retained closed owner bound (retained closed owner bound items) =
      retained closed owner bound items := by
  induction items with
  | nil => rfl
  | cons a later ih =>
      have hcons := retained_cons_congr a ih
      rw [retained] at hcons ⊢
      by_cases hfull : closed a = true ∧ bound ≤ countClosed closed owner (owner a) later
      · rw [if_pos hfull, ih]
      · rw [if_neg hfull]
        rw [retained.eq_2 closed owner bound a later, if_neg hfull] at hcons
        exact hcons

theorem countClosed_append (k : κ) (xs ys : List α) :
    countClosed closed owner k (xs ++ ys) =
      countClosed closed owner k xs + countClosed closed owner k ys := List.countP_append ..

/-- Trimming before items arrive forgets nothing that would be retained after. -/
theorem retained_append (items arrived : List α) :
    retained closed owner bound (retained closed owner bound items ++ arrived) =
      retained closed owner bound (items ++ arrived) := by
  induction items with
  | nil => rfl
  | cons a later ih =>
      by_cases hfull : closed a = true ∧ bound ≤ countClosed closed owner (owner a) later
      · have hstill : closed a = true ∧
            bound ≤ countClosed closed owner (owner a) (later ++ arrived) := by
          rw [countClosed_append]
          exact ⟨hfull.1, by omega⟩
        rw [retained, if_pos hfull, List.cons_append, retained.eq_2, if_pos hstill, ih]
      · rw [retained, if_neg hfull]
        exact retained_cons_congr a ih

/-- An open item that arrives makes none leave. -/
theorem retained_concat_open (items : List α) {a : α} (h : closed a = false) :
    retained closed owner bound (items ++ [a]) = retained closed owner bound items ++ [a] := by
  induction items with
  | nil => simp [retained, h]
  | cons first later ih =>
      have hcount : countClosed closed owner (owner first) (later ++ [a]) =
          countClosed closed owner (owner first) later := by
        rw [countClosed_append, countClosed_cons, h]
        simp [countClosed]
      rw [List.cons_append, retained, hcount, ih, retained]
      split
      · rfl
      · rfl

/-- Where no owner has more than the bound, everything is retained. -/
theorem retained_of_few {items : List α}
    (h : ∀ k, countClosed closed owner k items ≤ bound) :
    retained closed owner bound items = items := by
  induction items with
  | nil => rfl
  | cons a later ih =>
      have hlater (k : κ) : countClosed closed owner k later ≤ bound := by
        have hall := h k
        rw [countClosed_cons] at hall
        omega
      have hroom : ¬ (closed a = true ∧ bound ≤ countClosed closed owner (owner a) later) := by
        intro hfull
        have hself := h (owner a)
        rw [countClosed_cons, if_pos ⟨hfull.1, rfl⟩] at hself
        omega
      rw [retained, if_neg hroom, ih hlater]

/-! ## Closing -/

/-- What a replacement leaves of each item, it leaves of all. -/
theorem settle_map {γ : Type*} {p : α → Bool} {f : α → α}
    (g : α → γ) (hg : ∀ a, g (f a) = g a) (items : List α) :
    (settle p f items).map g = items.map g := by
  induction items with
  | nil => rfl
  | cons first rest ih =>
      rw [settle]
      split
      · rw [List.map_cons, List.map_cons, hg]
      · rw [List.map_cons, List.map_cons, ih]

theorem mem_settle {p : α → Bool} {f : α → α}
    {items : List α} {a : α} (h : a ∈ settle p f items) :
    a ∈ items ∨ ∃ before ∈ items, a = f before := by
  induction items with
  | nil => cases h
  | cons first rest ih =>
      rw [settle] at h
      split at h
      · cases List.mem_cons.1 h with
        | inl hfirst => exact Or.inr ⟨first, List.mem_cons_self, hfirst⟩
        | inr hrest => exact Or.inl (List.mem_cons_of_mem _ hrest)
      · cases List.mem_cons.1 h with
        | inl hfirst => exact Or.inl (hfirst ▸ List.mem_cons_self)
        | inr hrest =>
            cases ih hrest with
            | inl hkept => exact Or.inl (List.mem_cons_of_mem _ hkept)
            | inr hreplaced =>
                obtain ⟨before, hbefore, hsame⟩ := hreplaced
                exact Or.inr ⟨before, List.mem_cons_of_mem _ hbefore, hsame⟩

/-- An open item that is replaced takes no closed one away. -/
theorem countClosed_settle_le {p : α → Bool} {f : α → α}
    (hp : ∀ a, p a = true → closed a = false) (k : κ) (items : List α) :
    countClosed closed owner k items ≤ countClosed closed owner k (settle p f items) := by
  induction items with
  | nil => exact Nat.le_refl _
  | cons a later ih =>
      rw [settle]
      by_cases ha : p a = true
      · rw [if_pos ha, countClosed_cons, countClosed_cons, hp a ha]
        simp
      · rw [if_neg ha, countClosed_cons, countClosed_cons]
        omega

/-- Trimming before an open item is replaced forgets nothing that would be retained after. -/
theorem retained_settle {p : α → Bool} {f : α → α} (hp : ∀ a, p a = true → closed a = false)
    (items : List α) :
    retained closed owner bound (settle p f (retained closed owner bound items)) =
      retained closed owner bound (settle p f items) := by
  induction items with
  | nil => rfl
  | cons a later ih =>
      by_cases hfull : closed a = true ∧ bound ≤ countClosed closed owner (owner a) later
      · have hpa : ¬ p a = true := by
          intro hpa
          rw [hp a hpa] at hfull
          exact absurd hfull.1 Bool.false_ne_true
        have hstill : closed a = true ∧
            bound ≤ countClosed closed owner (owner a) (settle p f later) :=
          ⟨hfull.1, hfull.2.trans (countClosed_settle_le hp _ later)⟩
        rw [retained, if_pos hfull, settle, if_neg hpa, retained.eq_2, if_pos hstill, ih]
      · rw [retained, if_neg hfull, settle, settle]
        by_cases hpa : p a = true
        · rw [if_pos hpa, if_pos hpa]
          exact retained_cons_congr (f a) (retained_retained later)
        · rw [if_neg hpa, if_neg hpa]
          exact retained_cons_congr a ih

theorem countClosed_map {f : α → β} {closed' : β → Bool} {owner' : β → κ} {items : List α}
    (hclosed : ∀ a ∈ items, closed' (f a) = closed a)
    (howner : ∀ a ∈ items, owner' (f a) = owner a) (k : κ) :
    countClosed closed' owner' k (items.map f) = countClosed closed owner k items := by
  rw [countClosed, List.countP_map]
  exact List.countP_congr fun a ha => by simp [hclosed a ha, howner a ha]

/-- Items under another name are retained alike. -/
theorem retained_map {f : α → β} {closed' : β → Bool} {owner' : β → κ} {items : List α}
    (hclosed : ∀ a ∈ items, closed' (f a) = closed a)
    (howner : ∀ a ∈ items, owner' (f a) = owner a) :
    retained closed' owner' bound (items.map f) = (retained closed owner bound items).map f := by
  induction items with
  | nil => rfl
  | cons a later ih =>
      rw [List.forall_mem_cons] at hclosed howner
      rw [List.map_cons, retained, retained, hclosed.1, howner.1,
        countClosed_map hclosed.2 howner.2, ih hclosed.2 howner.2]
      split
      · rfl
      · rfl

/-- All items closed: none is forgotten by it where no owner had more than the bound. -/
theorem retained_map_of_closing {f : α → α} {items : List α}
    (hclosed : ∀ a ∈ items, closed (f a) = true) (howner : ∀ a ∈ items, owner (f a) = owner a)
    (hfew : ∀ k, (retained closed owner bound items).countP (fun a => owner a = k) ≤ bound) :
    retained closed owner bound (items.map f) = (retained closed owner bound items).map f := by
  induction items with
  | nil => rfl
  | cons a later ih =>
      rw [List.forall_mem_cons] at hclosed howner
      -- Once they are closed, the retained items of an owner count as they are.
      have hcount (hlater : ∀ k,
          (retained closed owner bound later).countP (fun b => owner b = k) ≤ bound) :
          min bound (countClosed closed owner (owner a) (later.map f)) =
            (retained closed owner bound later).countP fun b => owner b = owner a := by
        rw [← countClosed_retained, ih hclosed.2 howner.2 hlater, countClosed, List.countP_map]
        apply List.countP_congr
        intro b hb
        have hmem := (retained_sublist later).subset hb
        simp [hclosed.2 b hmem, howner.2 b hmem]
      rw [List.map_cons, retained, hclosed.1, howner.1]
      rw [retained] at hfew ⊢
      by_cases hfull : closed a = true ∧ bound ≤ countClosed closed owner (owner a) later
      · rw [if_pos hfull] at hfew ⊢
        have hclosedCount : countClosed closed owner (owner a) (retained closed owner bound later) ≤
            (retained closed owner bound later).countP fun b => owner b = owner a := by
          apply List.countP_mono_left
          intro b _ hb
          simp only [Bool.and_eq_true] at hb
          exact hb.2
        rw [countClosed_retained] at hclosedCount
        have hleft := hcount hfew
        rw [if_pos ⟨rfl, by omega⟩, ih hclosed.2 howner.2 hfew]
      · rw [if_neg hfull] at hfew ⊢
        have hlater (k : κ) :
            (retained closed owner bound later).countP (fun b => owner b = k) ≤ bound := by
          have hall := hfew k
          rw [List.countP_cons] at hall
          omega
        have hself := hfew (owner a)
        rw [List.countP_cons, if_pos (by simp)] at hself
        have hleft := hcount hlater
        rw [if_neg (by omega), ih hclosed.2 howner.2 hlater, List.map_cons]

/-! ## Order -/

/-- Where stamps grow, sorting by them puts a reversed history in order. -/
theorem insertionSort_reverse (stamp : α → Nat) {items : List α}
    (h : items.Pairwise fun a b => stamp a < stamp b) :
    items.reverse.insertionSort (fun a b => stamp a ≤ stamp b) = items := by
  have hdistinct : (items.map stamp).Nodup :=
    List.pairwise_map.2 (h.imp fun hlt => Nat.ne_of_lt hlt)
  have hsorted : (items.reverse.insertionSort fun a b => stamp a ≤ stamp b).Pairwise
      fun a b => stamp a ≤ stamp b := by
    have : Std.Total fun a b : α => stamp a ≤ stamp b := ⟨fun a b => Nat.le_total _ _⟩
    have : IsTrans α fun a b => stamp a ≤ stamp b := ⟨fun a b c => Nat.le_trans⟩
    exact List.pairwise_insertionSort _ _
  have hperm := (List.perm_insertionSort (fun a b => stamp a ≤ stamp b) items.reverse).trans
    (List.reverse_perm items)
  refine hperm.eq_of_pairwise ?_ hsorted (h.imp Nat.le_of_lt)
  intro a b ha hb hab hba
  exact List.inj_on_of_nodup_map hdistinct (hperm.subset ha) hb (Nat.le_antisymm hab hba)

end YourCloud.Foundation.Retention
