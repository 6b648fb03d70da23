import YourCloud.Auxiliary.Placement

/-!
# Numbers and lines that are read back

What this package writes into a file it may read again: a number from its numeral, and a
line without the white space around it, none of which is lost of a line that has none.  A
text of one line is searched for in every line of a file.

## Main results

* `atoi_numeral` — a number is read from its numeral.
* `trimSpace_solid`, `trimSpace_starts` — what trimming leaves of a line.
* `contains_lines` — where a text of one line is found.
-/

namespace YourCloud.Auxiliary

open YourCloud.Foundation

/-! ## Numbers -/

/-- A numeral has digits alone, and a sign at most. -/
theorem numeral_bytes {n : Int64} {b : UInt8} (h : b ∈ numeral n) : isDigit b = true ∨ b = 0x2D := by
  unfold numeral decimalInt at h
  split at h
  · exact Or.inl (decimal_digits _ b h)
  · rw [List.mem_cons] at h
    exact h.elim Or.inr fun hdigit => Or.inl (decimal_digits _ b hdigit)

theorem numeral_not_mem {n : Int64} {b : UInt8} (hdigit : isDigit b = false) (hsign : b ≠ 0x2D) :
    b ∉ numeral n := by
  intro hmem
  cases numeral_bytes hmem with
  | inl h =>
      rw [hdigit] at h
      cases h
  | inr h => exact hsign h

theorem numeral_ofInt {n : Int} (hlow : -2 ^ 63 ≤ n) (hhigh : n < 2 ^ 63) :
    numeral (Int64.ofInt n) = decimalInt n := by
  rw [numeral, Int64.toInt_ofInt_of_le hlow hhigh]

theorem numeral_ne_nil (n : Int64) : numeral n ≠ [] := by
  unfold numeral decimalInt
  split
  · exact decimal_ne_nil _
  · exact List.cons_ne_nil _ _

/-- A number without a sign is read by its digits. -/
theorem atoi_decimal {m : Nat} (h : m ≤ 2 ^ 63 - 1) : atoi (decimal m) = some (Int64.ofInt m) := by
  have hsign : ∀ b rest, decimal m = b :: rest → isDigit b = true := by
    intro b rest hdecimal
    apply decimal_digits m
    rw [hdecimal]
    exact List.mem_cons_self
  unfold atoi
  split
  · rename_i rest hminus
    exact absurd (hsign _ _ hminus) (by decide)
  · rename_i rest hplus
    exact absurd (hsign _ _ hplus) (by decide)
  · simp only [ofDecimal_decimal, Option.bind_some, if_pos h]
    rfl

/-- What is written as a number is read as that number. -/
theorem atoi_numeral (n : Int64) : atoi (numeral n) = some n := by
  have hlow := n.le_toInt
  have hhigh := n.toInt_lt
  have hback := Int64.ofInt_toInt n
  unfold numeral
  cases hn : n.toInt with
  | ofNat m =>
      rw [hn] at hhigh hback
      have hm : (m : Int) < 2 ^ 63 := hhigh
      rw [decimalInt, atoi_decimal (by omega)]
      exact congrArg some hback
  | negSucc m =>
      rw [hn] at hlow hback
      have hm : m + 1 ≤ 2 ^ 63 := by omega
      have hneg : -((m + 1 : Nat) : Int) = Int.negSucc m := rfl
      simp only [decimalInt, atoi, ofDecimal_decimal, Option.bind_some, if_pos hm]
      show some (Int64.ofInt (-((m + 1 : Nat) : Int))) = some n
      rw [hneg, hback]

/-! ## The space around a line -/

/-- A byte that is seen. -/
def isSolid (b : UInt8) : Bool := 0x21 ≤ b && b ≤ 0x7E

theorem isSolid_ne {b : UInt8} (h : isSolid b = true) (c : UInt8) (hc : isSolid c = false) :
    b ≠ c := by
  rintro rfl
  rw [h] at hc
  cases hc

theorem isSolid_low {b : UInt8} (h : isSolid b = true) : ¬ b ≤ 0x0D := by
  simp only [isSolid, Bool.and_eq_true, decide_eq_true_eq, UInt8.le_iff_toNat_le,
    UInt8.reduceToNat] at h
  simp only [UInt8.le_iff_toNat_le, UInt8.reduceToNat]
  omega

theorem isSolid_high {b : UInt8} (h : isSolid b = true) : ¬ 0x80 ≤ b := by
  simp only [isSolid, Bool.and_eq_true, decide_eq_true_eq, UInt8.le_iff_toNat_le,
    UInt8.reduceToNat] at h
  simp only [UInt8.le_iff_toNat_le, UInt8.reduceToNat]
  omega

theorem spaceAt_solid {b : UInt8} (h : isSolid b = true) (s : Bytes) : spaceAt (b :: s) = 0 := by
  unfold spaceAt
  split
  · rename_i hs
    exact absurd (List.cons.inj hs).1 (isSolid_ne h 0xC2 (by decide))
  · rename_i hs
    exact absurd (List.cons.inj hs).1 (isSolid_ne h 0xE1 (by decide))
  · rename_i hs
    exact absurd (List.cons.inj hs).1 (isSolid_ne h 0xE2 (by decide))
  · rename_i hs
    exact absurd (List.cons.inj hs).1 (isSolid_ne h 0xE2 (by decide))
  · rename_i hs
    exact absurd (List.cons.inj hs).1 (isSolid_ne h 0xE3 (by decide))
  · rename_i hs
    rw [← (List.cons.inj hs).1]
    simp [isSolid_low h, isSolid_ne h 0x20 (by decide)]
  · rfl

theorem spaceBefore_solid {b : UInt8} (h : isSolid b = true) (s : Bytes) :
    spaceBefore (b :: s) = 0 := by
  unfold spaceBefore
  split
  · rename_i hs
    rw [← (List.cons.inj hs).1]
    simp [isSolid_ne h 0x85 (by decide), isSolid_ne h 0xA0 (by decide)]
  · rename_i hs
    exact absurd (List.cons.inj hs).1 (isSolid_ne h 0x80 (by decide))
  · rename_i hs
    rw [← (List.cons.inj hs).1]
    simp [isSolid_high h, isSolid_ne h 0xA8 (by decide), isSolid_ne h 0xA9 (by decide),
      isSolid_ne h 0xAF (by decide)]
  · rename_i hs
    exact absurd (List.cons.inj hs).1 (isSolid_ne h 0x9F (by decide))
  · rename_i hs
    exact absurd (List.cons.inj hs).1 (isSolid_ne h 0x80 (by decide))
  · rename_i hs
    rw [← (List.cons.inj hs).1]
    simp [isSolid_low h, isSolid_ne h 0x20 (by decide)]
  · rfl

theorem dropSpace_of_zero {space : Bytes → Nat} {s : Bytes} (h : space s = 0) (fuel : Nat) :
    dropSpace space fuel s = s := by
  cases fuel with
  | zero => rfl
  | succ fuel => rw [dropSpace, if_pos h]

theorem dropSpace_suffix (space : Bytes → Nat) (fuel : Nat) (s : Bytes) :
    dropSpace space fuel s <:+ s := by
  induction fuel generalizing s with
  | zero => exact List.suffix_refl s
  | succ fuel ih =>
      rw [dropSpace]
      split
      · exact List.suffix_refl s
      · exact (ih _).trans (List.drop_suffix _ _)

/-- A line that starts with a byte that is seen loses at its end alone. -/
theorem trimSpace_starts {b : UInt8} (h : isSolid b = true) (s : Bytes) :
    trimSpace (b :: s) <+: b :: s := by
  rw [trimSpace, dropSpace_of_zero (spaceAt_solid h s)]
  rw [← List.reverse_suffix, List.reverse_reverse]
  exact dropSpace_suffix _ _ _

/-- One that ends with such a byte as well loses nothing. -/
theorem trimSpace_solid {b : UInt8} (h : isSolid b = true) {s : Bytes}
    (hlast : ∀ c ∈ (b :: s).getLast?, isSolid c = true) : trimSpace (b :: s) = b :: s := by
  rw [trimSpace, dropSpace_of_zero (spaceAt_solid h s)]
  cases hreverse : (b :: s).reverse with
  | nil => simp at hreverse
  | cons c rest =>
      have hc : isSolid c = true := by
        apply hlast
        rw [List.getLast?_eq_head?_reverse, hreverse]
        rfl
      rw [dropSpace_of_zero (spaceBefore_solid hc rest), ← hreverse, List.reverse_reverse]

/-! ## Parts of lines -/

theorem fromMarker_isSome (marker s : Bytes) : (fromMarker marker s).isSome = true ↔ marker <:+: s := by
  induction s with
  | nil =>
      rw [fromMarker, List.infix_nil]
      by_cases h : marker = [] <;> simp [h]
  | cons b s ih =>
      rw [fromMarker, List.infix_cons_iff]
      by_cases h : marker.isPrefixOf (b :: s) = true
      · simp [h, List.isPrefixOf_iff_prefix.1 h]
      · have hstart : ¬ marker <+: b :: s := fun hstart => h (List.isPrefixOf_iff_prefix.2 hstart)
        simp [h, hstart, ih]

theorem contains_iff (s part : Bytes) : contains s part = true ↔ part <:+: s :=
  fromMarker_isSome part s

/-- A part without the byte that separates two texts lies in one of them. -/
theorem infix_separated {part s t : Bytes} {c : UInt8} (hc : c ∉ part) :
    part <:+: s ++ c :: t ↔ part <:+: s ∨ part <:+: t := by
  rw [List.infix_append_iff]
  constructor
  · rintro (hleft | hright | ⟨first, last, rfl, hfirst, hlast⟩)
    · exact Or.inl hleft
    · rw [List.infix_cons_iff] at hright
      cases hright with
      | inl hstart =>
          cases part with
          | nil => exact Or.inr List.nil_infix
          | cons b part =>
              have hsame : b = c := (List.cons_prefix_cons.1 hstart).1
              exact absurd List.mem_cons_self (hsame ▸ hc)
      | inr hright => exact Or.inr hright
    · cases last with
      | nil =>
          rw [List.append_nil]
          exact Or.inl hfirst.isInfix
      | cons b last =>
          have hsame : b = c := (List.cons_prefix_cons.1 hlast).1
          exact absurd (List.mem_append_right _ List.mem_cons_self) (hsame ▸ hc)
  · rintro (hleft | hright)
    · exact Or.inl hleft
    · exact Or.inr (Or.inl (List.infix_cons hright))

/-- What is searched for in a file of lines is found in one of them. -/
theorem contains_lines {part : Bytes} (hline : 0x0A ∉ part) (hsome : part ≠ []) (ls : List Bytes) :
    contains (lines ls) part = true ↔ ∃ line ∈ ls, part <:+: line := by
  rw [contains_iff]
  induction ls with
  | nil => simpa [lines] using hsome
  | cons line ls ih =>
      have hsplit : lines (line :: ls) = line ++ 0x0A :: lines ls := by
        show (line ++ text "\n") ++ lines ls = _
        rw [List.append_assoc]
        rfl
      rw [hsplit, infix_separated hline, ih]
      simp

end YourCloud.Auxiliary
