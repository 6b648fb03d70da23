import Mathlib.Tactic.Linarith

/-!
# Spans of time in a word

A span of time counts nanoseconds in a signed word of 64 bits.  The span between two
instants further apart than a word can say is the longest one, while a sum and a
negation that leave the word go around.  What a program concludes from a span is
compared here with what holds of the numbers.

## Main results

* `nearest_add_sound_iff` — when a saturated span and a delay are within a bound only
  where the numbers are.
* `lt_absolute_sound_iff` — when the size of a saturated span says that of the number.
-/

namespace YourCloud.Foundation

/-- Nanoseconds, in a word of 64 bits. -/
abbrev Duration := Int64

namespace Duration

/-- The number of the longest span. -/
def longest : Int := 9223372036854775807

/-- The span that is nearest to a number of nanoseconds. -/
def nearest (n : Int) : Duration := Int64.ofIntClamp n

/-- `d < 0 ? -d : d` -/
def absolute (d : Duration) : Duration := if d < 0 then -d else d

/-! ## Numbers of spans -/

theorem toInt_nearest (n : Int) : (nearest n).toInt = max (-longest - 1) (min n longest) := by
  unfold nearest Int64.ofIntClamp longest
  by_cases hlow : Int64.minValue.toInt ≤ n
  · by_cases hhigh : n ≤ Int64.maxValue.toInt
    · rw [dif_pos hlow, dif_pos hhigh, Int64.toInt_ofIntLE]
      rw [Int64.toInt_minValue] at hlow
      rw [Int64.toInt_maxValue] at hhigh
      omega
    · rw [dif_pos hlow, dif_neg hhigh]
      rw [Int64.toInt_maxValue] at hhigh ⊢
      omega
  · rw [dif_neg hlow]
    rw [Int64.toInt_minValue] at hlow ⊢
    omega

theorem toInt_le_longest (d : Duration) : d.toInt ≤ longest := by
  have h := d.toInt_lt
  unfold longest
  omega

theorem le_toInt (d : Duration) : -longest - 1 ≤ d.toInt := by
  have h := Int64.le_toInt d
  unfold longest
  omega

/-- A sum of two spans of which none is negative, as a number: it is the sum, or goes
around to a negative one. -/
theorem toInt_add {a b : Duration} (ha : 0 ≤ a.toInt) (hb : 0 ≤ b.toInt) :
    (a + b).toInt =
      if a.toInt + b.toInt ≤ longest then a.toInt + b.toInt
      else a.toInt + b.toInt - 2 * (longest + 1) := by
  have ha' := toInt_le_longest a
  have hb' := toInt_le_longest b
  rw [Int64.toInt_add, Int.bmod_def]
  unfold longest at *
  split_ifs <;> omega

/-- The size of a span, as a number, the lowest one apart, which is its own negation. -/
theorem toInt_absolute (d : Duration) :
    (absolute d).toInt = if d.toInt = -longest - 1 then d.toInt else |d.toInt| := by
  have hlow := le_toInt d
  have hhigh := toInt_le_longest d
  unfold absolute
  by_cases hneg : d < 0
  · have hneg' : d.toInt < 0 := Int64.lt_iff_toInt_lt.1 hneg
    rw [if_pos hneg, Int64.toInt_neg, Int.bmod_def, abs_of_neg hneg']
    unfold longest at *
    split_ifs <;> omega
  · have hneg' : ¬ d.toInt < 0 := fun h => hneg (Int64.lt_iff_toInt_lt.2 h)
    have hne : d.toInt ≠ -longest - 1 := by
      unfold longest
      omega
    rw [if_neg hneg, if_neg hne, abs_of_nonneg (by omega)]

/-! ## Conclusions from spans -/

/-- A saturated span that is not negative, and a delay, are within a bound where their sum
is, and where it leaves the word. -/
theorem nearest_add_le_iff {n : Int} {delay bound : Duration} (hn : 0 ≤ n)
    (hdelay : 0 ≤ delay.toInt) (hbound : 0 ≤ bound.toInt) (hfinite : bound.toInt < longest) :
    nearest n + delay ≤ bound ↔
      n + delay.toInt ≤ bound.toInt ∨ longest < min n longest + delay.toInt := by
  have hnearest : (nearest n).toInt = min n longest := by
    rw [toInt_nearest]
    unfold longest
    omega
  have hnonneg : 0 ≤ (nearest n).toInt := by
    rw [hnearest]
    unfold longest
    omega
  have hdelay' := toInt_le_longest delay
  rw [Int64.le_iff_toInt_le, toInt_add hnonneg hdelay, hnearest]
  unfold longest at *
  split_ifs <;> omega

/-- The size of a saturated span is past a bound where that of the number is, unless the
number is as low as the lowest span. -/
theorem lt_absolute_nearest_iff {n : Int} {bound : Duration} (hbound : 0 ≤ bound.toInt)
    (hfinite : bound.toInt < longest) :
    bound < absolute (nearest n) ↔ bound.toInt < |n| ∧ -longest - 1 < n := by
  rw [Int64.lt_iff_toInt_lt, toInt_absolute, toInt_nearest]
  unfold longest at *
  by_cases hlow : n ≤ -9223372036854775807 - 1
  · rw [if_pos (by omega)]
    omega
  · rw [if_neg (by omega)]
    rcases abs_cases n with ⟨habs, hsign⟩ | ⟨habs, hsign⟩ <;>
      rcases abs_cases (max (-9223372036854775807 - 1) (min n 9223372036854775807)) with
        ⟨hcut, hsign'⟩ | ⟨hcut, hsign'⟩ <;>
      rw [habs, hcut] <;> omega

/-- A saturated span and a delay are within a bound only where their sum is, exactly where
they stay in the word. -/
theorem nearest_add_sound_iff {n : Int} {delay bound : Duration} (hn : 0 ≤ n)
    (hdelay : 0 ≤ delay.toInt) (hbound : 0 ≤ bound.toInt) (hfinite : bound.toInt < longest) :
    (nearest n + delay ≤ bound → n + delay.toInt ≤ bound.toInt) ↔
      min n longest + delay.toInt ≤ longest := by
  rw [nearest_add_le_iff hn hdelay hbound hfinite]
  unfold longest at *
  constructor
  · intro h
    by_contra hover
    have hwithin := h (Or.inr (by omega))
    omega
  · intro hfits hwithin
    omega

/-- The size of a saturated span says whether that of the number is past a bound, exactly
where the number is not as low as the lowest span. -/
theorem lt_absolute_sound_iff {n : Int} {bound : Duration} (hbound : 0 ≤ bound.toInt)
    (hfinite : bound.toInt < longest) :
    (bound < absolute (nearest n) ↔ bound.toInt < |n|) ↔ -longest - 1 < n := by
  rw [lt_absolute_nearest_iff hbound hfinite]
  unfold longest at *
  constructor
  · intro h
    by_contra hlow
    have habs : |n| = -n := abs_of_neg (by omega)
    have hpast := h.2 (by omega)
    omega
  · intro hlow
    exact ⟨fun h => h.1, fun h => ⟨h, hlow⟩⟩

end Duration

end YourCloud.Foundation
