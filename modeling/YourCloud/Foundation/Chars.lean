import Mathlib.Data.List.DropRight
import YourCloud.Foundation.Bytes

/-!
# Text as characters

A text is a list of characters, with the operations a program cuts a file into
lines and words with.  White space is that of Unicode; a reader that takes only
spaces and tabs for blanks sees other words in the same text, so the two are kept
apart here.

## Main results

* `trimmed_lines` — what is left of the lines once they are trimmed does not
  depend on how a line ends.
* `splitWhitespace_append` — the first word of a text.
-/

namespace YourCloud.Foundation

abbrev Chars := List Char

instance instLawfulBEqChars : LawfulBEq Chars := inferInstance

/-- `char::is_whitespace` -/
def isWhitespace (c : Char) : Bool :=
  (0x09 ≤ c.toNat && c.toNat ≤ 0x0D) || (0x2000 ≤ c.toNat && c.toNat ≤ 0x200A) ||
    c.toNat ∈ [0x20, 0x85, 0xA0, 0x1680, 0x2028, 0x2029, 0x202F, 0x205F, 0x3000]

/-- A condition on the characters of a text is tried on these, not on every character. -/
instance (priority := high) decidableForallChar (p : Char → Prop) [DecidablePred p] (s : Chars) :
    Decidable (∀ c ∈ s, p c) :=
  List.decidableBAll p s

/-- A space or a tab. -/
def isBlank (c : Char) : Bool := c = ' ' || c = '\t'

namespace Chars

def trimStart (s : Chars) : Chars := s.dropWhile isWhitespace

def trimEnd (s : Chars) : Chars := s.rdropWhile isWhitespace

def trim (s : Chars) : Chars := trimEnd (trimStart s)

/-- What a text holds in bytes. -/
def byteLength (s : Chars) : Nat := (s.map Char.utf8Size).sum

def stripPrefix (start s : Chars) : Option Chars :=
  if start.isPrefixOf s then some (s.drop start.length) else none

def stripSuffix (ending s : Chars) : Option Chars :=
  if ending.isSuffixOf s then some (s.take (s.length - ending.length)) else none

/-- The text before the first character of a kind, and the text after it. -/
def splitOnce (p : Char → Bool) (s : Chars) : Option (Chars × Chars) :=
  match s.dropWhile (!p ·) with
  | [] => none
  | _ :: after => some (s.takeWhile (!p ·), after)

/-- Whether a text stands somewhere in another. -/
def contains (part s : Chars) : Bool := s.tails.any part.isPrefixOf

/-- The line without the carriage return that came before its end. -/
def stripReturn (line : Chars) : Chars := (stripSuffix ['\r'] line).getD line

/-- `str::lines`: a last line that is empty is none. -/
def lines (s : Chars) : List Chars :=
  let pieces := s.splitOn '\n'
  pieces.dropLast.map stripReturn ++ (pieces.getLast?.toList.filter (· ≠ []))

def splitWhitespace (s : Chars) : List Chars := (s.splitOnP isWhitespace).filter (· ≠ [])

end Chars

open Chars

/-! ## Lines -/

/-- White space at the end of a text is trimmed. -/
theorem trim_concat {c : Char} (h : isWhitespace c = true) (s : Chars) : trim (s ++ [c]) = trim s := by
  unfold trim trimEnd trimStart
  rw [List.dropWhile_append]
  split
  · rename_i hempty
    rw [List.isEmpty_iff.1 hempty, List.dropWhile_cons_of_pos h, List.dropWhile_nil]
  · exact List.rdropWhile_concat_pos _ _ _ h

theorem trim_stripReturn (s : Chars) : trim (stripReturn s) = trim s := by
  unfold stripReturn stripSuffix
  split
  · rename_i h
    obtain ⟨t, rfl⟩ := List.isSuffixOf_iff_suffix.1 h
    show trim ((t ++ ['\r']).take ((t ++ ['\r']).length - 1)) = _
    rw [List.length_append, List.length_singleton, Nat.add_sub_cancel, List.take_left,
      trim_concat (by decide)]
  · rfl

/-- What is left of the lines once they are trimmed, whichever way they end. -/
theorem trimmed_lines (s : Chars) :
    ((lines s).map trim).filter (· ≠ []) = ((s.splitOn '\n').map trim).filter (· ≠ []) := by
  have hpieces : s.splitOn '\n' ≠ [] := List.splitOn_ne_nil _ _
  unfold lines
  generalize s.splitOn '\n' = pieces at hpieces
  have hlast : pieces = pieces.dropLast ++ [pieces.getLast hpieces] :=
    (List.dropLast_append_getLast hpieces).symm
  have hreturns : (pieces.dropLast.map stripReturn).map trim = pieces.dropLast.map trim := by
    rw [List.map_map]
    apply List.map_congr_left
    intro line _
    exact trim_stripReturn line
  dsimp only
  rw [List.map_append, List.filter_append, hreturns, List.getLast?_eq_some_getLast hpieces]
  generalize pieces.getLast hpieces = last at hlast
  conv => rhs; rw [hlast]
  rw [List.map_append, List.filter_append]
  congr 1
  by_cases hempty : last = []
  · subst hempty
    rfl
  · simp [hempty]

/-! ## Blanks -/

theorem isWhitespace_of_isBlank {c : Char} (h : isBlank c = true) : isWhitespace c = true := by
  simp only [isBlank, Bool.or_eq_true, decide_eq_true_eq] at h
  rcases h with rfl | rfl <;> decide

/-- Where characters stop being dropped. -/
theorem dropWhile_head {p : Char → Bool} {s t : Chars} {c : Char} (h : s.dropWhile p = c :: t) :
    p c = false := by
  have hhead := List.head?_dropWhile_not p s
  rw [h] at hhead
  simpa using hhead

theorem trimStart_dropBlanks (s : Chars) : trimStart (s.dropWhile isBlank) = trimStart s := by
  induction s with
  | nil => rfl
  | cons c s ih =>
      by_cases h : isBlank c = true
      · rw [List.dropWhile_cons_of_pos h, ih]
        exact (List.dropWhile_cons_of_pos (isWhitespace_of_isBlank h)).symm
      · rw [List.dropWhile_cons_of_neg h]

theorem trim_prefix (s : Chars) : trim s <+: trimStart s := List.rdropWhile_prefix _ _

/-- A text of which nothing is left was white space. -/
theorem trimStart_of_trim {s : Chars} (h : trim s = []) : trimStart s = [] := by
  have hall := List.rdropWhile_eq_nil_iff.1 h
  cases hstart : trimStart s with
  | nil => rfl
  | cons c t =>
      have hc : isWhitespace c = true := hall c (by rw [hstart]; exact List.mem_cons_self)
      rw [dropWhile_head hstart] at hc
      cases hc

theorem isWhitespace_of_isAlphanum {c : Char} (h : c.isAlphanum = true) : isWhitespace c = false := by
  have hrange : (0x41 ≤ c.toNat ∧ c.toNat ≤ 0x5A) ∨ (0x61 ≤ c.toNat ∧ c.toNat ≤ 0x7A) ∨
      (0x30 ≤ c.toNat ∧ c.toNat ≤ 0x39) := by
    have hclass : (decide (c.val ≥ 65 ∧ c.val ≤ 90) ||
        (decide (c.val ≥ 97) && decide (c.val ≤ 122)) ||
        (decide (c.val ≥ 48) && decide (c.val ≤ 57))) = true := h
    simpa [UInt32.le_iff_toNat_le, or_assoc] using hclass
  by_contra hspace
  simp [isWhitespace] at hspace
  omega

/-- What comes first after the characters that were taken. -/
theorem dropWhile_head? {p : Char → Bool} (s : Chars) : ∀ c ∈ (s.dropWhile p).head?, p c = false := by
  intro c hc
  obtain ⟨t, ht⟩ := List.head?_eq_some_iff.1 hc
  exact dropWhile_head ht

/-- A first word, up to the first character of another kind. -/
theorem span_append {p : Char → Bool} {word rest : Chars} (hword : ∀ c ∈ word, p c = true)
    (hrest : ∀ c ∈ rest.head?, p c = false) :
    (word ++ rest).takeWhile p = word ∧ (word ++ rest).dropWhile p = rest := by
  rw [List.takeWhile_append_of_pos hword, List.dropWhile_append_of_pos hword]
  cases rest with
  | nil => simp
  | cons c rest =>
      have hc : ¬ p c = true := by simp [hrest c rfl]
      rw [List.takeWhile_cons_of_neg hc, List.dropWhile_cons_of_neg hc, List.append_nil]
      exact ⟨rfl, rfl⟩

/-- A text that neither begins nor ends with white space. -/
theorem trim_eq_self {s : Chars} (hfirst : ∀ c ∈ s.head?, isWhitespace c = false)
    (hlast : ∀ c ∈ s.getLast?, isWhitespace c = false) : trim s = s := by
  have hstart : trimStart s = s := by
    cases s with
    | nil => rfl
    | cons c s => exact List.dropWhile_cons_of_neg (by simp [hfirst c rfl])
  rw [trim, hstart, trimEnd, List.rdropWhile_eq_self_iff]
  intro hne
  simp [hlast _ (List.getLast?_eq_some_getLast hne)]

/-! ## Cutting a text in two -/

theorem splitOnce_cons_pos {p : Char → Bool} {c : Char} (h : p c = true) (s : Chars) :
    splitOnce p (c :: s) = some ([], s) := by
  simp [splitOnce, h]

theorem splitOnce_cons_neg {p : Char → Bool} {c : Char} (h : p c = false) (s : Chars) :
    splitOnce p (c :: s) = (splitOnce p s).map fun parts => (c :: parts.1, parts.2) := by
  unfold splitOnce
  rw [List.dropWhile_cons_of_pos (by simpa using h), List.takeWhile_cons_of_pos (by simpa using h)]
  cases s.dropWhile (!p ·) with
  | nil => rfl
  | cons d after => rfl

/-- The text before the first character of a kind is the one without any. -/
theorem splitOnce_append {p : Char → Bool} {before : Chars} (h : ∀ c ∈ before, p c = false)
    {c : Char} (hc : p c = true) (after : Chars) :
    splitOnce p (before ++ c :: after) = some (before, after) := by
  induction before with
  | nil => exact splitOnce_cons_pos hc after
  | cons d before ih =>
      rw [List.cons_append, splitOnce_cons_neg (h d List.mem_cons_self),
        ih fun c hmem => h c (List.mem_cons_of_mem d hmem)]
      rfl

/-! ## Words -/

theorem splitWhitespace_nil : splitWhitespace [] = [] := by
  simp [splitWhitespace]

/-- White space before the first word is passed over. -/
theorem splitWhitespace_cons {c : Char} (h : isWhitespace c = true) (s : Chars) :
    splitWhitespace (c :: s) = splitWhitespace s := by
  simp [splitWhitespace, List.splitOnP_cons_eq_if_modifyHead, h]

theorem splitWhitespace_trimStart (s : Chars) : splitWhitespace (trimStart s) = splitWhitespace s := by
  induction s with
  | nil => rfl
  | cons c s ih =>
      by_cases h : isWhitespace c = true
      · rw [trimStart, List.dropWhile_cons_of_pos h, splitWhitespace_cons h]
        exact ih
      · rw [trimStart, List.dropWhile_cons_of_neg h]

theorem splitWhitespace_dropBlanks (s : Chars) :
    splitWhitespace (s.dropWhile isBlank) = splitWhitespace s := by
  rw [← splitWhitespace_trimStart, trimStart_dropBlanks, splitWhitespace_trimStart]

/-- White space after the last word is passed over. -/
theorem splitWhitespace_append_space {tail : Chars} (h : ∀ c ∈ tail, isWhitespace c = true)
    (s : Chars) : splitWhitespace (s ++ tail) = splitWhitespace s := by
  induction tail generalizing s with
  | nil => rw [List.append_nil]
  | cons c tail ih =>
      have hc : isWhitespace c = true := h c List.mem_cons_self
      have hempty : splitWhitespace ([] ++ tail) = splitWhitespace [] :=
        ih (fun d hd => h d (List.mem_cons_of_mem c hd)) []
      rw [List.nil_append, splitWhitespace_nil, splitWhitespace] at hempty
      rw [splitWhitespace, List.splitOnP_append_cons _ _ hc, List.filter_append, hempty,
        List.append_nil]
      rfl

/-- The first word of a text, and the others. -/
theorem splitWhitespace_append {word rest : Chars} (hword : ∀ c ∈ word, isWhitespace c = false)
    (hne : word ≠ []) (hrest : ∀ c ∈ rest.head?, isWhitespace c = true) :
    splitWhitespace (word ++ rest) = word :: splitWhitespace rest := by
  cases rest with
  | nil =>
      rw [List.append_nil, splitWhitespace_nil, splitWhitespace, List.splitOnP_eq_singleton hword]
      simp [hne]
  | cons c rest =>
      have hc : isWhitespace c = true := hrest c rfl
      rw [splitWhitespace_cons hc, splitWhitespace,
        List.splitOnP_append_cons_of_forall_mem hword c hc]
      simp [hne, splitWhitespace]

end YourCloud.Foundation
