import YourCloud.Foundation.Bytes

/-!
# Text with invalid bytes in it

A string read from another program is not known to be well-formed text.  The
readers and writers of such strings walk it one unit at a time, where a unit
is a well-formed character or one byte that starts none, and replace the
latter by U+FFFD.  This module gives that walk once, as `rewrite`, and the
replacement of invalid bytes as its first instance.

A string is well formed when replacing changes nothing, which is the form in
which the other modules use it: what is written is what is read back.

## Main results

* `unit_induction` — a string is empty, or a character followed by a string,
  or an invalid byte followed by a string.
* `rewrite_unit` — what `rewrite` does to a string whose first unit is known.
-/

namespace YourCloud.Foundation

/-! ## Characters -/

/-- A continuation byte. -/
def isCont (b : UInt8) : Bool := 0x80 ≤ b && b ≤ 0xBF

/-- The length a leading byte announces, zero for a byte that leads nothing. -/
def leadLength (a : UInt8) : Nat :=
  if a < 0x80 then 1
  else if 0xC2 ≤ a && a ≤ 0xDF then 2
  else if 0xE0 ≤ a && a ≤ 0xEF then 3
  else if 0xF0 ≤ a && a ≤ 0xF4 then 4
  else 0

/-- The second byte of a character, which excludes overlong spellings,
surrogates and everything past U+10FFFF. -/
def isSecond (a b : UInt8) : Bool :=
  (if a = 0xE0 then 0xA0 else if a = 0xF0 then 0x90 else 0x80) ≤ b &&
    b ≤ (if a = 0xED then 0x9F else if a = 0xF4 then 0x8F else 0xBF)

/-- The bytes after a leading one complete a character of the given length. -/
def completes (a : UInt8) : Nat → Bytes → Bool
  | 1, _ => true
  | 2, b :: _ => isSecond a b
  | 3, b :: c :: _ => isSecond a b && isCont c
  | 4, b :: c :: d :: _ => isSecond a b && isCont c && isCont d
  | _, _ => false

/-- The number of bytes of the character a string starts with, zero when it
starts with none. -/
def runeSize : Bytes → Nat
  | [] => 0
  | a :: rest => if completes a (leadLength a) rest then leadLength a else 0

/-- One whole character and nothing else. -/
def IsRune (p : Bytes) : Prop := p ≠ [] ∧ runeSize p = p.length

private theorem completes_prefix {a : UInt8} {n : Nat} {rest : Bytes}
    (h : completes a n rest = true) :
    ∃ p r, rest = p ++ r ∧ p.length + 1 = n ∧ ∀ t, completes a n (p ++ t) = true := by
  unfold completes at h
  split at h
  · exact ⟨[], rest, rfl, rfl, fun _ => rfl⟩
  · rename_i b r
    exact ⟨[b], r, rfl, rfl, fun _ => h⟩
  · rename_i b c r
    exact ⟨[b, c], r, rfl, rfl, fun _ => h⟩
  · rename_i b c d r
    exact ⟨[b, c, d], r, rfl, rfl, fun _ => h⟩
  · cases h

/-- The character a string starts with does not depend on what follows it. -/
theorem runeSize_prefix {s : Bytes} (h : runeSize s ≠ 0) :
    ∃ p r, s = p ++ r ∧ p.length = runeSize s ∧ ∀ t, runeSize (p ++ t) = p.length := by
  cases s with
  | nil => exact absurd rfl h
  | cons a rest =>
      rw [runeSize] at h ⊢
      split at h
      · rename_i hc
        obtain ⟨p, r, rfl, hlen, ht⟩ := completes_prefix hc
        refine ⟨a :: p, r, rfl, ?_, fun t => ?_⟩
        · rw [if_pos hc, List.length_cons, hlen]
        · rw [List.cons_append, runeSize, if_pos (ht t), List.length_cons, hlen]
      · exact absurd rfl h

/-- Every string starts with a character or with a byte that starts none. -/
theorem unit_cases (b : UInt8) (s : Bytes) :
    runeSize (b :: s) = 0 ∨
      ∃ p r, b :: s = p ++ r ∧ IsRune p ∧ runeSize (b :: s) = p.length ∧
        ∀ t, runeSize (p ++ t) = p.length := by
  by_cases h : runeSize (b :: s) = 0
  · exact Or.inl h
  · obtain ⟨p, r, hs, hp, ht⟩ := runeSize_prefix h
    refine Or.inr ⟨p, r, hs, ⟨?_, ?_⟩, hp.symm, ht⟩
    · rintro rfl
      exact h hp.symm
    · have := ht []
      rwa [List.append_nil] at this

theorem IsRune.append {p : Bytes} (h : IsRune p) (t : Bytes) :
    runeSize (p ++ t) = p.length := by
  have hne : runeSize p ≠ 0 := by
    rw [h.2]
    exact fun h0 => h.1 (List.length_eq_zero_iff.1 h0)
  obtain ⟨q, r, hs, hq, ht⟩ := runeSize_prefix hne
  have hlen := congrArg List.length hs
  rw [List.length_append, hq, h.2] at hlen
  obtain rfl : r = [] := List.length_eq_zero_iff.1 (by omega)
  obtain rfl : p = q := by simpa using hs
  exact ht t

/-- A string is empty, a character followed by a string, or an invalid byte
followed by a string. -/
theorem unit_induction {motive : Bytes → Prop} (nil : motive [])
    (rune : ∀ p s, IsRune p → motive s → motive (p ++ s))
    (invalid : ∀ b s, runeSize (b :: s) = 0 → motive s → motive (b :: s))
    (s : Bytes) : motive s := by
  induction hn : s.length using Nat.strongRecOn generalizing s with
  | ind n ih =>
      cases s with
      | nil => exact nil
      | cons b s =>
          rcases unit_cases b s with h0 | ⟨p, r, hs, hp, -, -⟩
          · exact invalid b s h0 (ih s.length (by simp only [List.length_cons] at hn; omega) s rfl)
          · have hlen := congrArg List.length hs
            have hpos : 0 < p.length := List.length_pos_iff.2 hp.1
            rw [List.length_append] at hlen
            rw [hs]
            exact rune p r hp (ih r.length (by omega) r rfl)

/-! ## Rewriting unit by unit -/

/-- Rewrite a string one unit after the other: `unit` gives what the first
unit becomes and how many bytes it is.  The counter holds the bytes of the
current unit that are still to be passed over. -/
def rewriteFrom (unit : Bytes → Bytes × Nat) : Nat → Bytes → Bytes
  | _, [] => []
  | k + 1, _ :: rest => rewriteFrom unit k rest
  | 0, b :: rest =>
      (unit (b :: rest)).1 ++ rewriteFrom unit ((unit (b :: rest)).2 - 1) rest

def rewrite (unit : Bytes → Bytes × Nat) (s : Bytes) : Bytes := rewriteFrom unit 0 s

theorem rewriteFrom_skip (unit : Bytes → Bytes × Nat) (p s : Bytes) :
    rewriteFrom unit p.length (p ++ s) = rewrite unit s := by
  induction p with
  | nil => rfl
  | cons b p ih => exact ih

/-- A string whose first unit is known. -/
theorem rewrite_unit {unit : Bytes → Bytes × Nat} {p s o : Bytes} (hp : p ≠ [])
    (h : unit (p ++ s) = (o, p.length)) :
    rewrite unit (p ++ s) = o ++ rewrite unit s := by
  cases p with
  | nil => exact absurd rfl hp
  | cons b p =>
      rw [List.cons_append] at h ⊢
      rw [rewrite, rewriteFrom, h]
      simp only [List.length_cons, Nat.add_sub_cancel]
      rw [rewriteFrom_skip]

/-- A unit of a single byte. -/
theorem rewrite_cons {unit : Bytes → Bytes × Nat} {b : UInt8} {s o : Bytes}
    (h : unit (b :: s) = (o, 1)) : rewrite unit (b :: s) = o ++ rewrite unit s :=
  rewrite_unit (p := [b]) (by simp) h

/-! ## Replacing invalid bytes -/

/-- U+FFFD. -/
def replacement : Bytes := [0xEF, 0xBF, 0xBD]

/-- A character stands for itself, an invalid byte for U+FFFD. -/
def sanitizeUnit (s : Bytes) : Bytes × Nat :=
  if runeSize s = 0 then (replacement, 1) else (s.take (runeSize s), runeSize s)

/-- Every invalid byte replaced by U+FFFD. -/
def sanitize (s : Bytes) : Bytes := rewrite sanitizeUnit s

/-- A string in which there is nothing to replace. -/
def Valid (s : Bytes) : Prop := sanitize s = s

instance (s : Bytes) : Decidable (Valid s) := inferInstanceAs (Decidable (_ = _))

theorem sanitizeUnit_rune {p : Bytes} (hp : IsRune p) (s : Bytes) :
    sanitizeUnit (p ++ s) = (p, p.length) := by
  have hsize := hp.append s
  have hpos : 0 < p.length := List.length_pos_iff.2 hp.1
  rw [sanitizeUnit, if_neg (by omega), hsize, List.take_left]

theorem sanitize_rune {p : Bytes} (hp : IsRune p) (s : Bytes) :
    sanitize (p ++ s) = p ++ sanitize s :=
  rewrite_unit hp.1 (sanitizeUnit_rune hp s)

theorem sanitize_invalid {b : UInt8} {s : Bytes} (h : runeSize (b :: s) = 0) :
    sanitize (b :: s) = replacement ++ sanitize s := by
  refine rewrite_cons ?_
  rw [sanitizeUnit, if_pos h]

/-! ## Seven-bit strings -/

theorem completes_cont {a : UInt8} {n : Nat} {rest : Bytes} (h : completes a n rest = true) :
    ∀ b ∈ rest.take (n - 1), isCont b = true := by
  have hsecond : ∀ b, isSecond a b = true → isCont b = true := by
    intro b hb
    simp only [isSecond, isCont, Bool.and_eq_true, decide_eq_true_eq,
      UInt8.le_iff_toNat_le] at hb ⊢
    refine ⟨le_trans ?_ hb.1, le_trans hb.2 ?_⟩
    all_goals repeat' split
    all_goals decide
  unfold completes at h
  split at h
  · simp
  · simpa using hsecond _ h
  · simp only [Bool.and_eq_true] at h
    simpa using ⟨hsecond _ h.1, h.2⟩
  · simp only [Bool.and_eq_true] at h
    simpa using ⟨hsecond _ h.1.1, h.1.2, h.2⟩
  · cases h

theorem runeSize_ascii {b : UInt8} (h : b < 0x80) (s : Bytes) : runeSize (b :: s) = 1 := by
  simp [runeSize, leadLength, completes, h]

theorem isRune_ascii {b : UInt8} (h : b < 0x80) : IsRune [b] :=
  ⟨by simp, runeSize_ascii h []⟩

/-- A character is one seven-bit byte, or a leading byte and continuation
bytes. -/
theorem IsRune.cases {p : Bytes} (hp : IsRune p) :
    (∃ b, b < 0x80 ∧ p = [b]) ∨
      ∃ a q, p = a :: q ∧ ¬ a < 0x80 ∧ q ≠ [] ∧ ∀ b ∈ q, isCont b = true := by
  obtain ⟨hne, hsize⟩ := hp
  cases p with
  | nil => exact absurd rfl hne
  | cons a q =>
      rw [runeSize] at hsize
      split at hsize
      · rename_i hc
        have hcont := completes_cont hc
        have hq : q.length = leadLength a - 1 := by
          rw [hsize, List.length_cons, Nat.add_sub_cancel]
        rw [← hq, List.take_length] at hcont
        by_cases ha : a < 0x80
        · have hone : leadLength a = 1 := if_pos ha
          obtain rfl : q = [] := List.length_eq_zero_iff.1 (by omega)
          exact Or.inl ⟨a, ha, rfl⟩
        · refine Or.inr ⟨a, q, rfl, ha, ?_, hcont⟩
          rintro rfl
          have hone : leadLength a = 1 := hsize
          rw [leadLength, if_neg ha] at hone
          revert hone
          repeat' split
          all_goals simp
      · cases hsize

theorem sanitize_ascii {b : UInt8} (h : b < 0x80) (s : Bytes) :
    sanitize (b :: s) = b :: sanitize s :=
  sanitize_rune (isRune_ascii h) s

theorem valid_ascii {s : Bytes} (h : ∀ b ∈ s, b < 0x80) : Valid s := by
  induction s with
  | nil => rfl
  | cons b s ih =>
      rw [Valid, sanitize_ascii (h b List.mem_cons_self),
        ih fun c hc => h c (List.mem_cons_of_mem _ hc)]

end YourCloud.Foundation
