import YourCloud.Foundation.Utf8

/-!
# JSON strings

Between its quotes a JSON string is a spelling: escapes, characters and bytes
that start no character.  Three walks over strings are defined here, each an
instance of `rewrite`: `quote`, which spells a string; `unquote`, which reads a
spelling; and `htmlEscape`, which respells one so that it carries no angle
bracket and no ampersand.

The set of spellings is regular, and is given by the automaton `spellStep`
that a scanner runs byte by byte.

## Main results

* `unquote_quote` — reading what was written gives the string with its invalid
  bytes replaced.
* `spelled_quote`, `spelled_htmlEscape` — both write spellings.
* `quote_length_le` — a byte is spelled with six bytes at most.
* `valid_unquote` — whatever is read is well formed.
-/

namespace YourCloud.Foundation

/-! ## Spellings -/

/-- The letters a backslash may stand before, `u` apart. -/
def isEscapeLetter (b : UInt8) : Bool :=
  b = 0x22 || b = 0x5C || b = 0x2F || b = 0x62 || b = 0x66 || b = 0x6E || b = 0x72 || b = 0x74

def isHex (b : UInt8) : Bool := (hexValue b).isSome

/-- Where a scanner stands inside a string. -/
inductive Spelling where
  | plain
  | escape
  /-- This many hexadecimal digits are still due after the next one. -/
  | unicode (left : Nat)
  deriving DecidableEq, Repr

/-- One byte of a spelling.  The closing quote is no byte of the spelling. -/
def spellStep : Spelling → UInt8 → Option Spelling
  | .plain, b =>
      if b = 0x5C then some .escape
      else if b = 0x22 || b < 0x20 then none
      else some .plain
  | .escape, b =>
      if isEscapeLetter b then some .plain
      else if b = 0x75 then some (.unicode 3)
      else none
  | .unicode left, b =>
      if isHex b then
        match left with
        | 0 => some .plain
        | left + 1 => some (.unicode left)
      else none

/-- A run of the scanner over a whole string. -/
def spell (q : Spelling) (s : Bytes) : Option Spelling := s.foldlM spellStep q

/-- What may stand between two quotes. -/
def Spelled (s : Bytes) : Prop := spell .plain s = some .plain

instance (s : Bytes) : Decidable (Spelled s) := inferInstanceAs (Decidable (_ = _))

theorem spell_append (q : Spelling) (s t : Bytes) :
    spell q (s ++ t) = (spell q s).bind fun q' => spell q' t :=
  List.foldlM_append

theorem spell_cons (q : Spelling) (b : UInt8) (s : Bytes) :
    spell q (b :: s) = (spellStep q b).bind fun q' => spell q' s :=
  List.foldlM_cons

theorem Spelled.append {s t : Bytes} (hs : Spelled s) (ht : Spelled t) :
    Spelled (s ++ t) := by
  rw [Spelled, spell_append, hs]
  exact ht

theorem Spelled.of_append {s t : Bytes} (hs : Spelled s) (h : Spelled (s ++ t)) :
    Spelled t := by
  rw [Spelled, spell_append, hs] at h
  exact h

/-- The scanner of a string body: the spelling up to the closing quote, and
what follows that quote. -/
def lexString : Spelling → Bytes → Option (Bytes × Bytes)
  | _, [] => none
  | q, b :: rest =>
      if q = .plain ∧ b = 0x22 then some ([], rest)
      else
        match spellStep q b with
        | none => none
        | some q' => (lexString q' rest).map fun p => (b :: p.1, p.2)

theorem lexString_spelled {s : Bytes} {q : Spelling} (h : spell q s = some .plain)
    (r : Bytes) : lexString q (s ++ 0x22 :: r) = some (s, r) := by
  induction s generalizing q with
  | nil =>
      obtain rfl : q = .plain := Option.some.inj h
      rfl
  | cons b s ih =>
      rw [spell_cons] at h
      obtain ⟨q', hq, hs⟩ := Option.bind_eq_some_iff.1 h
      rw [List.cons_append, lexString, if_neg, hq]
      · simp only [ih hs, Option.map_some]
      · rintro ⟨rfl, rfl⟩
        exact absurd hq (by simp [spellStep])

/-! ## Writing -/

/-- `\u00xx` -/
def escapeHex (b : UInt8) : Bytes :=
  [0x5C, 0x75, 0x30, 0x30, hexDigit (b.toNat / 16), hexDigit (b.toNat % 16)]

/-- The three bytes an embedding in HTML would interpret. -/
def isMarkup (b : UInt8) : Bool := b = 0x3C || b = 0x3E || b = 0x26

/-- The spelling of a seven-bit byte. -/
def quoteByte (html : Bool) (b : UInt8) : Bytes :=
  if b = 0x22 ∨ b = 0x5C then [0x5C, b]
  else if b = 0x08 then [0x5C, 0x62]
  else if b = 0x0C then [0x5C, 0x66]
  else if b = 0x0A then [0x5C, 0x6E]
  else if b = 0x0D then [0x5C, 0x72]
  else if b = 0x09 then [0x5C, 0x74]
  else if b < 0x20 ∨ (html ∧ isMarkup b) then escapeHex b
  else [b]

/-- U+2028 and U+2029, which are spelled with escapes everywhere. -/
def lineSeparator : Bytes → Option Bytes
  | 0xE2 :: 0x80 :: 0xA8 :: _ => some (text "\\u2028")
  | 0xE2 :: 0x80 :: 0xA9 :: _ => some (text "\\u2029")
  | _ => none

def quoteUnit (html : Bool) (s : Bytes) : Bytes × Nat :=
  if runeSize s = 0 then (text "\\ufffd", 1)
  else if runeSize s = 1 then (quoteByte html (s.headD 0), 1)
  else
    match lineSeparator s with
    | some spelling => (spelling, runeSize s)
    | none => (s.take (runeSize s), runeSize s)

/-- The spelling of a string. -/
def quote (html : Bool) (s : Bytes) : Bytes := rewrite (quoteUnit html) s

/-- A spelling without markup bytes and line separators. -/
def htmlUnit (s : Bytes) : Bytes × Nat :=
  match lineSeparator s, s with
  | some spelling, _ => (spelling, 3)
  | none, b :: _ => (if isMarkup b then escapeHex b else [b], 1)
  | none, [] => ([], 0)

def htmlEscape (s : Bytes) : Bytes := rewrite htmlUnit s

/-! ## Reading -/

/-- The bytes of a code point. -/
def encodeRune (n : Nat) : Bytes :=
  if n < 0x80 then [n.toUInt8]
  else if n < 0x800 then [(0xC0 + n / 64).toUInt8, (0x80 + n % 64).toUInt8]
  else if n < 0x10000 then
    [(0xE0 + n / 4096).toUInt8, (0x80 + n / 64 % 64).toUInt8, (0x80 + n % 64).toUInt8]
  else
    [(0xF0 + n / 262144).toUInt8, (0x80 + n / 4096 % 64).toUInt8,
      (0x80 + n / 64 % 64).toUInt8, (0x80 + n % 64).toUInt8]

/-- The code unit a string starts with, when it starts with `\uxxxx`. -/
def codeUnit : Bytes → Option Nat
  | 0x5C :: 0x75 :: a :: b :: c :: d :: _ => do
      let a ← hexValue a
      let b ← hexValue b
      let c ← hexValue c
      let d ← hexValue d
      return 4096 * a + 256 * b + 16 * c + d
  | _ => none

/-- The low surrogate a string starts with. -/
def lowSurrogate (s : Bytes) : Option Nat :=
  (codeUnit s).filter fun n => decide (0xDC00 ≤ n ∧ n < 0xE000)

/-- What a one-letter escape stands for. -/
def unescape (c : UInt8) : UInt8 :=
  if c = 0x62 then 0x08
  else if c = 0x66 then 0x0C
  else if c = 0x6E then 0x0A
  else if c = 0x72 then 0x0D
  else if c = 0x74 then 0x09
  else c

/-- What a code unit stands for, given the string that follows it.  A surrogate
outside a pair is replaced. -/
def unquoteCodeUnit (n : Nat) (rest : Bytes) : Bytes × Nat :=
  if 0xD800 ≤ n ∧ n < 0xE000 then
    match lowSurrogate rest with
    | some low =>
        if n < 0xDC00 then (encodeRune (0x10000 + (n - 0xD800) * 1024 + (low - 0xDC00)), 12)
        else (replacement, 6)
    | none => (replacement, 6)
  else (encodeRune n, 6)

def unquoteUnit (s : Bytes) : Bytes × Nat :=
  match s with
  | 0x5C :: 0x75 :: _ =>
      match codeUnit s with
      | some n => unquoteCodeUnit n (s.drop 6)
      | none => (replacement, 1)
  | 0x5C :: c :: _ => ([unescape c], 2)
  | s => sanitizeUnit s

/-- What a spelling stands for. -/
def unquote (s : Bytes) : Bytes := rewrite unquoteUnit s

/-! ## Bytes of a unit -/

theorem not_markup_of_cont {b : UInt8} (h : ¬ b < 0x80) : isMarkup b = false := by
  have hb : 0x80 ≤ b.toNat := by simpa [UInt8.lt_iff_toNat_lt] using h
  simp only [isMarkup, Bool.or_eq_false_iff, decide_eq_false_iff_not]
  refine ⟨⟨?_, ?_⟩, ?_⟩
  all_goals rintro rfl; revert hb; decide

theorem spellStep_high {b : UInt8} (h : ¬ b < 0x80) : spellStep .plain b = some .plain := by
  have hb : 0x80 ≤ b.toNat := by simpa [UInt8.lt_iff_toNat_lt] using h
  rw [spellStep, if_neg, if_neg]
  · simp only [Bool.or_eq_true, decide_eq_true_eq, UInt8.lt_iff_toNat_lt]
    rintro (rfl | hlt)
    · revert hb
      decide
    · have : b.toNat < 32 := hlt
      omega
  · rintro rfl
    revert hb
    decide

theorem not_ascii_of_cont {b : UInt8} (h : isCont b = true) : ¬ b < 0x80 := by
  simp only [isCont, Bool.and_eq_true, decide_eq_true_eq, UInt8.le_iff_toNat_le] at h
  rw [UInt8.lt_iff_toNat_lt]
  exact Nat.not_lt.2 h.1

theorem spelled_high {p : Bytes} (h : ∀ b ∈ p, ¬ b < 0x80) : Spelled p := by
  induction p with
  | nil => rfl
  | cons b p ih =>
      rw [Spelled, spell_cons, spellStep_high (h b List.mem_cons_self)]
      exact ih fun c hc => h c (List.mem_cons_of_mem _ hc)

/-- A line separator is a character of its own. -/
theorem lineSeparator_rune {p s spelling : Bytes} (hp : IsRune p)
    (h : lineSeparator (p ++ s) = some spelling) :
    (p = [0xE2, 0x80, 0xA8] ∧ spelling = text "\\u2028") ∨
      (p = [0xE2, 0x80, 0xA9] ∧ spelling = text "\\u2029") := by
  have hsize := hp.append s
  unfold lineSeparator at h
  split at h
  · rename_i r heq
    rw [heq] at hsize
    have hlen : p.length = 3 := hsize.symm
    have htake := congrArg (List.take 3) heq
    rw [← hlen, List.take_left, hlen] at htake
    exact Or.inl ⟨htake, (Option.some.inj h).symm⟩
  · rename_i r heq
    rw [heq] at hsize
    have hlen : p.length = 3 := hsize.symm
    have htake := congrArg (List.take 3) heq
    rw [← hlen, List.take_left, hlen] at htake
    exact Or.inr ⟨htake, (Option.some.inj h).symm⟩
  · cases h

theorem runeSize_lineSeparator {s spelling : Bytes} (h : lineSeparator s = some spelling) :
    runeSize s ≠ 0 := by
  unfold lineSeparator at h
  split at h
  · exact (by decide : (3 : Nat) ≠ 0)
  · exact (by decide : (3 : Nat) ≠ 0)
  · cases h

/-! ## What is written is read back -/

theorem unquote_plain {b : UInt8} (hb : b < 0x80) (h : b ≠ 0x5C) (s : Bytes) :
    unquote (b :: s) = b :: unquote s := by
  refine rewrite_cons (o := [b]) ?_
  have hunit : unquoteUnit (b :: s) = sanitizeUnit (b :: s) := by
    unfold unquoteUnit
    split
    · rename_i heq
      exact absurd (List.cons.inj heq).1 h
    · rename_i heq
      exact absurd (List.cons.inj heq).1 h
    · rfl
  rw [hunit]
  exact sanitizeUnit_rune (isRune_ascii hb) s

theorem unquote_high {b : UInt8} (h : ¬ b < 0x80) (s : Bytes) :
    unquoteUnit (b :: s) = sanitizeUnit (b :: s) := by
  have hb : b ≠ 0x5C := by
    rintro rfl
    exact h (by decide)
  unfold unquoteUnit
  split
  · rename_i heq
    exact absurd (List.cons.inj heq).1 hb
  · rename_i heq
    exact absurd (List.cons.inj heq).1 hb
  · rfl

theorem unquote_rune {p : Bytes} (hp : IsRune p) (h : p ≠ [0x5C]) (s : Bytes) :
    unquote (p ++ s) = p ++ unquote s := by
  rcases hp.cases with ⟨b, hb, rfl⟩ | ⟨a, q, rfl, ha, -, -⟩
  · exact unquote_plain hb (fun he => h (by rw [he])) s
  · exact rewrite_unit hp.1 ((unquote_high ha _).trans (sanitizeUnit_rune hp s))

/-- An escape of one letter. -/
theorem unquote_escape {c : UInt8} (h : c ≠ 0x75) (s : Bytes) :
    unquote (0x5C :: c :: s) = unescape c :: unquote s := by
  refine rewrite_unit (p := [0x5C, c]) (o := [unescape c]) (by simp) ?_
  show unquoteUnit (0x5C :: c :: s) = _
  unfold unquoteUnit
  split
  · rename_i heq
    exact absurd (List.cons.inj (List.cons.inj heq).2).1 h
  · rename_i heq
    obtain ⟨rfl, -⟩ := List.cons.inj (List.cons.inj heq).2
    rfl
  · rename_i hno
    exact absurd rfl (hno c s)

theorem unquote_escapeHex {b : UInt8} (hb : b < 0x80) (s : Bytes) :
    unquote (escapeHex b ++ s) = b :: unquote s := by
  have hlt : b.toNat < 0x80 := by simpa [UInt8.lt_iff_toNat_lt] using hb
  refine rewrite_unit (p := escapeHex b) (o := [b]) (by simp [escapeHex]) ?_
  have hunit : codeUnit (escapeHex b ++ s) = some b.toNat := by
    have hzero : hexValue 0x30 = some 0 := by decide
    simp only [escapeHex, List.cons_append, codeUnit, hexValue_hexDigit _
      (show b.toNat / 16 < 16 by omega), hexValue_hexDigit _ (show b.toNat % 16 < 16 by omega),
      hzero, Option.bind_eq_bind, Option.bind_some, Option.pure_def]
    congr 1
    omega
  show (match codeUnit (escapeHex b ++ s) with
    | some n => unquoteCodeUnit n ((escapeHex b ++ s).drop 6)
    | none => (replacement, 1)) = _
  rw [hunit]
  simp only [unquoteCodeUnit, encodeRune]
  rw [if_neg (by omega), if_pos hlt]
  simp [escapeHex]

theorem unquote_quoteByte (html : Bool) {b : UInt8} (hb : b < 0x80) (s : Bytes) :
    unquote (quoteByte html b ++ s) = b :: unquote s := by
  unfold quoteByte
  split
  · rename_i h
    rcases h with rfl | rfl
    · exact unquote_escape (by decide) s
    · exact unquote_escape (by decide) s
  · rename_i hplain
    split
    · subst_vars
      exact unquote_escape (by decide) s
    split
    · subst_vars
      exact unquote_escape (by decide) s
    split
    · subst_vars
      exact unquote_escape (by decide) s
    split
    · subst_vars
      exact unquote_escape (by decide) s
    split
    · subst_vars
      exact unquote_escape (by decide) s
    split
    · exact unquote_escapeHex hb s
    · exact unquote_plain hb (fun he => hplain (Or.inr he)) s

theorem quote_ascii (html : Bool) {b : UInt8} (hb : b < 0x80) (s : Bytes) :
    quote html (b :: s) = quoteByte html b ++ quote html s := by
  refine rewrite_cons ?_
  rw [quoteUnit, runeSize_ascii hb]
  rfl

theorem quote_invalid (html : Bool) {b : UInt8} {s : Bytes} (h : runeSize (b :: s) = 0) :
    quote html (b :: s) = text "\\ufffd" ++ quote html s := by
  refine rewrite_cons ?_
  rw [quoteUnit, if_pos h]

/-- A character of several bytes is copied, a line separator apart. -/
theorem quote_rune (html : Bool) {p : Bytes} (hp : IsRune p) (hlen : 2 ≤ p.length)
    (s : Bytes) :
    quote html (p ++ s) = (lineSeparator (p ++ s)).getD p ++ quote html s := by
  have hsize := hp.append s
  refine rewrite_unit hp.1 ?_
  rw [quoteUnit, if_neg (by omega), if_neg (by omega), hsize, List.take_left]
  cases lineSeparator (p ++ s) <;> rfl

/-- The three shapes a unit of a written string has. -/
theorem quote_cases (html : Bool) {p : Bytes} (hp : IsRune p) (s : Bytes) :
    (∃ b, b < 0x80 ∧ p = [b] ∧ quote html (p ++ s) = quoteByte html b ++ quote html s) ∨
      ((∀ b ∈ p, ¬ b < 0x80) ∧
        (quote html (p ++ s) = p ++ quote html s ∨
          ∃ spelling, lineSeparator (p ++ s) = some spelling ∧
            quote html (p ++ s) = spelling ++ quote html s)) := by
  rcases hp.cases with ⟨b, hb, rfl⟩ | ⟨a, q, rfl, ha, hq, hcont⟩
  · exact Or.inl ⟨b, hb, rfl, quote_ascii html hb s⟩
  · have hlen : 2 ≤ (a :: q).length := by
      have := List.length_pos_iff.2 hq
      rw [List.length_cons]
      omega
    refine Or.inr ⟨?_, ?_⟩
    · intro b hb
      rcases List.mem_cons.1 hb with rfl | hb
      · exact ha
      · exact not_ascii_of_cont (hcont b hb)
    · rw [quote_rune html hp hlen]
      cases h : lineSeparator (a :: q ++ s) with
      | none => exact Or.inl rfl
      | some spelling => exact Or.inr ⟨spelling, rfl, rfl⟩

theorem unquote_lineSeparator {p s spelling : Bytes} (hp : IsRune p)
    (h : lineSeparator (p ++ s) = some spelling) (t : Bytes) :
    unquote (spelling ++ t) = p ++ unquote t := by
  rcases lineSeparator_rune hp h with ⟨rfl, rfl⟩ | ⟨rfl, rfl⟩
  · exact rewrite_unit (p := text "\\u2028") (by decide) rfl
  · exact rewrite_unit (p := text "\\u2029") (by decide) rfl

theorem unquote_quote (html : Bool) (s : Bytes) :
    unquote (quote html s) = sanitize s := by
  induction s using unit_induction with
  | nil => rfl
  | rune p s hp ih =>
      rw [sanitize_rune hp, ← ih]
      rcases quote_cases html hp s with ⟨b, hb, rfl, hq⟩ | ⟨hhigh, hq | ⟨spelling, hs, hq⟩⟩
      · rw [hq]
        exact unquote_quoteByte html hb _
      · rw [hq, unquote_rune hp]
        rintro rfl
        exact hhigh 0x5C (by simp) (by decide)
      · rw [hq, unquote_lineSeparator hp hs]
  | invalid b s h ih =>
      rw [quote_invalid html h, sanitize_invalid h, ← ih]
      exact rewrite_unit (p := text "\\ufffd") (by decide) rfl

theorem unquote_quote_valid (html : Bool) {s : Bytes} (h : Valid s) :
    unquote (quote html s) = s := by
  rw [unquote_quote, h]

/-! ## What is written is a spelling -/

theorem spelled_escapeHex (b : UInt8) : Spelled (escapeHex b) := by
  have hhigh := hexValue_hexDigit _ (show b.toNat / 16 < 16 by have := b.toNat_lt; omega)
  have hlow := hexValue_hexDigit _ (show b.toNat % 16 < 16 by omega)
  have h0 : isHex 0x30 = true := by decide
  have h1 : isHex (hexDigit (b.toNat / 16)) = true := by rw [isHex, hhigh]; rfl
  have h2 : isHex (hexDigit (b.toNat % 16)) = true := by rw [isHex, hlow]; rfl
  have hu : spellStep .escape 0x75 = some (.unicode 3) := by decide
  have hb : spellStep .plain 0x5C = some .escape := by decide
  simp only [Spelled, escapeHex, spell_cons, hb, hu, Option.bind_some]
  simp [spellStep, h0, h1, h2, spell]

theorem spelled_quoteByte (html : Bool) (b : UInt8) : Spelled (quoteByte html b) := by
  unfold quoteByte
  split
  · rename_i h
    rcases h with rfl | rfl <;> decide
  · rename_i hplain
    split
    · decide
    split
    · decide
    split
    · decide
    split
    · decide
    split
    · decide
    split
    · exact spelled_escapeHex b
    · rename_i hctl
      rw [not_or] at hplain hctl
      rw [Spelled, spell_cons, spellStep, if_neg hplain.2, if_neg]
      · rfl
      · simpa using ⟨hplain.1, by simpa using hctl.1⟩

theorem spelled_lineSeparator {s spelling : Bytes} (h : lineSeparator s = some spelling) :
    Spelled spelling := by
  unfold lineSeparator at h
  split at h
  · obtain rfl := Option.some.inj h
    decide
  · obtain rfl := Option.some.inj h
    decide
  · cases h

theorem spelled_quote (html : Bool) (s : Bytes) : Spelled (quote html s) := by
  induction s using unit_induction with
  | nil => rfl
  | rune p s hp ih =>
      rcases quote_cases html hp s with ⟨b, -, -, hq⟩ | ⟨hhigh, hq | ⟨spelling, hs, hq⟩⟩
      · rw [hq]
        exact (spelled_quoteByte html b).append ih
      · rw [hq]
        exact (spelled_high hhigh).append ih
      · rw [hq]
        exact (spelled_lineSeparator hs).append ih
  | invalid b s h ih =>
      rw [quote_invalid html h]
      exact Spelled.append (by decide) ih

theorem quoteByte_length_le (html : Bool) (b : UInt8) : (quoteByte html b).length ≤ 6 := by
  unfold quoteByte
  repeat' split
  all_goals simp [escapeHex]

theorem quote_length_le (html : Bool) (s : Bytes) :
    (quote html s).length ≤ 6 * s.length := by
  induction s using unit_induction with
  | nil => exact Nat.le_refl _
  | rune p s hp ih =>
      have hpos : 0 < p.length := List.length_pos_iff.2 hp.1
      rcases quote_cases html hp s with ⟨b, -, -, hq⟩ | ⟨-, hq | ⟨spelling, hs, hq⟩⟩
      · have := quoteByte_length_le html b
        rw [hq, List.length_append, List.length_append]
        omega
      · rw [hq, List.length_append, List.length_append]
        omega
      · have hlen : spelling.length = 6 := by
          rcases lineSeparator_rune hp hs with ⟨-, rfl⟩ | ⟨-, rfl⟩ <;> decide
        rw [hq, List.length_append, List.length_append]
        omega
  | invalid b s h ih =>
      have : (text "\\ufffd").length = 6 := by decide
      rw [quote_invalid html h, List.length_append, List.length_cons]
      omega

/-! ## Respelling without markup -/

theorem htmlEscape_copy {b : UInt8} (hb : isMarkup b = false) {s : Bytes}
    (hs : lineSeparator (b :: s) = none) : htmlEscape (b :: s) = b :: htmlEscape s := by
  refine rewrite_cons (o := [b]) ?_
  simp [htmlUnit, hs, hb]

theorem lineSeparator_eq_none {b : UInt8} (hb : b ≠ 0xE2) (s : Bytes) :
    lineSeparator (b :: s) = none := by
  unfold lineSeparator
  split
  · rename_i heq
    exact absurd (List.cons.inj heq).1 hb
  · rename_i heq
    exact absurd (List.cons.inj heq).1 hb
  · rfl

theorem htmlEscape_markup {b : UInt8} (hb : isMarkup b = true) (s : Bytes) :
    htmlEscape (b :: s) = escapeHex b ++ htmlEscape s := by
  refine rewrite_cons ?_
  have hs : lineSeparator (b :: s) = none := by
    refine lineSeparator_eq_none ?_ s
    rintro rfl
    revert hb
    decide
  simp [htmlUnit, hs, hb]

theorem htmlEscape_cont {q : Bytes} (hq : ∀ b ∈ q, isCont b = true) (s : Bytes) :
    htmlEscape (q ++ s) = q ++ htmlEscape s := by
  induction q with
  | nil => rfl
  | cons b q ih =>
      have hb := hq b List.mem_cons_self
      have hne : b ≠ 0xE2 := by
        rintro rfl
        revert hb
        decide
      rw [List.cons_append, htmlEscape_copy (not_markup_of_cont (not_ascii_of_cont hb))
        (lineSeparator_eq_none hne _), ih fun c hc => hq c (List.mem_cons_of_mem _ hc)]
      rfl

/-- A character of several bytes is copied, a line separator apart. -/
theorem htmlEscape_rune {p : Bytes} (hp : IsRune p) (hhigh : ∀ b ∈ p, ¬ b < 0x80) (s : Bytes) :
    htmlEscape (p ++ s) = (lineSeparator (p ++ s)).getD p ++ htmlEscape s := by
  rcases hp.cases with ⟨b, hb, rfl⟩ | ⟨a, q, rfl, ha, hq, hcont⟩
  · exact absurd hb (hhigh b List.mem_cons_self)
  · cases h : lineSeparator (a :: q ++ s) with
    | none =>
        rw [List.cons_append] at h ⊢
        rw [htmlEscape_copy (not_markup_of_cont ha) h, htmlEscape_cont hcont]
        rfl
    | some spelling =>
        have hlen : (a :: q).length = 3 := by
          rcases lineSeparator_rune hp h with ⟨hs, -⟩ | ⟨hs, -⟩ <;> rw [hs] <;> rfl
        refine rewrite_unit (o := spelling) hp.1 ?_
        unfold htmlUnit
        rw [h, hlen]

private theorem spell_hex {left : Nat} {s : Bytes} (h : spell (.unicode left) s = some .plain) :
    ∃ a r, s = a :: r ∧ isHex a = true ∧
      spell (match left with
        | 0 => .plain
        | left + 1 => .unicode left) r = some .plain := by
  cases s with
  | nil => cases h
  | cons a r =>
      have hstep : spellStep (.unicode left) a = if isHex a then
          (match left with
            | 0 => some .plain
            | left + 1 => some (.unicode left)) else none := by cases left <;> rfl
      rw [spell_cons, hstep] at h
      split at h
      · rename_i ha
        cases left with
        | zero => exact ⟨a, r, rfl, ha, h⟩
        | succ left => exact ⟨a, r, rfl, ha, h⟩
      · cases h

private theorem spell_unicode {s : Bytes} (h : spell (.unicode 3) s = some .plain) :
    ∃ a b c d r, s = a :: b :: c :: d :: r ∧ isHex a = true ∧ isHex b = true ∧
      isHex c = true ∧ isHex d = true ∧ Spelled r := by
  obtain ⟨a, s, rfl, ha, h⟩ := spell_hex h
  obtain ⟨b, s, rfl, hb, h⟩ := spell_hex h
  obtain ⟨c, s, rfl, hc, h⟩ := spell_hex h
  obtain ⟨d, s, rfl, hd, h⟩ := spell_hex h
  exact ⟨a, b, c, d, s, rfl, ha, hb, hc, hd, h⟩

/-- What can follow a backslash. -/
private theorem spelled_escape_tail {motive : Bytes → Prop} {s : Bytes}
    (next : ∀ t : Bytes, t.length < (0x5C :: s).length → Spelled t → motive t)
    (escape : ∀ c s, isEscapeLetter c = true → motive s → motive (0x5C :: c :: s))
    (unicode : ∀ a b c d s, isHex a = true → isHex b = true → isHex c = true →
      isHex d = true → Spelled s → motive s → motive (0x5C :: 0x75 :: a :: b :: c :: d :: s))
    (h : spell .escape s = some .plain) : motive (0x5C :: s) := by
  cases s with
  | nil => cases h
  | cons c s =>
      rw [spell_cons, spellStep] at h
      split at h
      · rename_i hc
        exact escape c s hc (next s (by simp) h)
      · split at h
        · subst_vars
          obtain ⟨a, b, c, d, r, rfl, ha, hb, hc, hd, hr⟩ := spell_unicode h
          exact unicode a b c d r ha hb hc hd hr (next r (by simp; omega) hr)
        · cases h

/-- A spelling is empty, or starts with an escape, a seven-bit byte, a
character of several bytes or an invalid byte. -/
theorem spelled_induction {motive : Bytes → Prop} (nil : motive [])
    (escape : ∀ c s, isEscapeLetter c = true → motive s → motive (0x5C :: c :: s))
    (unicode : ∀ a b c d s, isHex a = true → isHex b = true → isHex c = true →
      isHex d = true → Spelled s → motive s → motive (0x5C :: 0x75 :: a :: b :: c :: d :: s))
    (plain : ∀ b s, spellStep .plain b = some .plain → b < 0x80 → motive s → motive (b :: s))
    (rune : ∀ p s, IsRune p → (∀ b ∈ p, ¬ b < 0x80) → motive s → motive (p ++ s))
    (invalid : ∀ b s, runeSize (b :: s) = 0 → motive s → motive (b :: s))
    {s : Bytes} (h : Spelled s) : motive s := by
  induction hn : s.length using Nat.strongRecOn generalizing s with
  | ind n ih =>
      -- Every tail met below is itself spelled and shorter.
      have next : ∀ t, t.length < n → Spelled t → motive t :=
        fun t ht hs => ih t.length ht hs rfl
      cases s with
      | nil => exact nil
      | cons b s =>
          subst hn
          rcases unit_cases b s with h0 | ⟨p, r, hs, hp, -, -⟩
          · have hb : ¬ b < 0x80 := fun hlt => by
              rw [runeSize_ascii hlt] at h0
              cases h0
            rw [Spelled, spell_cons, spellStep_high hb] at h
            exact invalid b s h0 (next s (by simp) h)
          · rcases hp.cases with ⟨b', hb, rfl⟩ | ⟨a, q, rfl, ha, hq, hcont⟩
            · obtain ⟨rfl, rfl⟩ := List.cons.inj hs
              rw [Spelled, spell_cons] at h
              obtain ⟨q1, hq1, h1⟩ := Option.bind_eq_some_iff.1 h
              have hcases := hq1
              rw [spellStep] at hcases
              split at hcases
              · subst_vars
                obtain rfl := Option.some.inj hcases
                exact spelled_escape_tail next escape unicode h1
              · split at hcases
                · cases hcases
                · obtain rfl := Option.some.inj hcases
                  exact plain b s hq1 hb (next s (by simp) h1)
            · have hhigh : ∀ c ∈ a :: q, ¬ c < 0x80 := by
                intro c hc
                rcases List.mem_cons.1 hc with rfl | hc
                · exact ha
                · exact not_ascii_of_cont (hcont c hc)
              rw [hs] at h next ⊢
              have hlen : r.length < (a :: q ++ r).length := by simp
              exact rune _ r hp hhigh (next r hlen ((spelled_high hhigh).of_append h))

/-- A byte that respelling never touches. -/
private def Kept (b : UInt8) : Prop := isMarkup b = false ∧ b ≠ 0xE2

private theorem htmlEscape_kept {b : UInt8} (hb : Kept b) (s : Bytes) :
    htmlEscape (b :: s) = b :: htmlEscape s :=
  htmlEscape_copy hb.1 (lineSeparator_eq_none hb.2 s)

private theorem kept_of_hex {b : UInt8} (h : isHex b = true) : Kept b := by
  refine ⟨?_, ?_⟩
  · by_contra hne
    rw [Bool.not_eq_false] at hne
    simp only [isMarkup, Bool.or_eq_true, decide_eq_true_eq] at hne
    rcases hne with (rfl | rfl) | rfl
    all_goals revert h; decide
  · rintro rfl
    revert h
    decide

private theorem kept_of_escapeLetter {c : UInt8} (h : isEscapeLetter c = true) :
    Kept c ∧ c ≠ 0x75 := by
  simp only [isEscapeLetter, Bool.or_eq_true, decide_eq_true_eq] at h
  rcases h with ((((((rfl | rfl) | rfl) | rfl) | rfl) | rfl) | rfl) | rfl
  all_goals exact ⟨⟨by decide, by decide⟩, by decide⟩

private theorem kept_slash : Kept 0x5C := ⟨by decide, by decide⟩

private theorem htmlEscape_escape {c : UInt8} (h : isEscapeLetter c = true) (s : Bytes) :
    htmlEscape (0x5C :: c :: s) = 0x5C :: c :: htmlEscape s := by
  rw [htmlEscape_kept kept_slash, htmlEscape_kept (kept_of_escapeLetter h).1]

private theorem htmlEscape_unicode {a b c d : UInt8} (ha : isHex a = true)
    (hb : isHex b = true) (hc : isHex c = true) (hd : isHex d = true) (s : Bytes) :
    htmlEscape (0x5C :: 0x75 :: a :: b :: c :: d :: s) =
      0x5C :: 0x75 :: a :: b :: c :: d :: htmlEscape s := by
  rw [htmlEscape_kept kept_slash, htmlEscape_kept ⟨by decide, by decide⟩,
    htmlEscape_kept (kept_of_hex ha), htmlEscape_kept (kept_of_hex hb),
    htmlEscape_kept (kept_of_hex hc), htmlEscape_kept (kept_of_hex hd)]

/-- A seven-bit byte is kept or spelled with an escape. -/
private theorem htmlEscape_plain {b : UInt8} (hb : b < 0x80) (s : Bytes) :
    htmlEscape (b :: s) = b :: htmlEscape s ∨
      isMarkup b = true ∧ htmlEscape (b :: s) = escapeHex b ++ htmlEscape s := by
  cases hm : isMarkup b with
  | true => exact Or.inr ⟨rfl, htmlEscape_markup hm s⟩
  | false =>
      refine Or.inl (htmlEscape_kept ⟨hm, ?_⟩ s)
      rintro rfl
      exact absurd hb (by decide)

private theorem htmlEscape_invalid {b : UInt8} {s : Bytes} (h : runeSize (b :: s) = 0) :
    htmlEscape (b :: s) = b :: htmlEscape s := by
  have hb : ¬ b < 0x80 := fun hlt => by
    rw [runeSize_ascii hlt] at h
    cases h
  refine htmlEscape_copy (not_markup_of_cont hb) ?_
  cases hl : lineSeparator (b :: s) with
  | none => rfl
  | some spelling => exact absurd h (runeSize_lineSeparator hl)

theorem spelled_htmlEscape {s : Bytes} (h : Spelled s) : Spelled (htmlEscape s) := by
  refine spelled_induction (motive := fun s => Spelled (htmlEscape s))
    ?nil ?escape ?unicode ?plain ?rune ?invalid h
  case nil => rfl
  case escape =>
    intro c s hc ih
    rw [htmlEscape_escape hc]
    refine Spelled.append (s := [0x5C, c]) ?_ ih
    simp [Spelled, spell, spellStep, hc]
  case unicode =>
    intro a b c d s ha hb hc hd hs ih
    rw [htmlEscape_unicode ha hb hc hd]
    refine Spelled.append (s := [0x5C, 0x75, a, b, c, d]) ?_ ih
    have hu : isEscapeLetter 0x75 = false := by decide
    simp [Spelled, spell, spellStep, ha, hb, hc, hd, hu]
  case plain =>
    intro b s hp hb ih
    rcases htmlEscape_plain hb s with hs | ⟨-, hs⟩
    · rw [hs, Spelled, spell_cons, hp]
      exact ih
    · rw [hs]
      exact (spelled_escapeHex b).append ih
  case rune =>
    intro p s hp hhigh ih
    rw [htmlEscape_rune hp hhigh]
    refine Spelled.append ?_ ih
    cases hl : lineSeparator (p ++ s) with
    | none => exact spelled_high hhigh
    | some spelling => exact spelled_lineSeparator hl
  case invalid =>
    intro b s hi ih
    have hb : ¬ b < 0x80 := fun hlt => by
      rw [runeSize_ascii hlt] at hi
      cases hi
    rw [htmlEscape_invalid hi, Spelled, spell_cons, spellStep_high hb]
    exact ih

/-! ## Respelling changes nothing that is read -/

/-! ## Strings that spell themselves -/

/-- A printable seven-bit byte that needs no escape. -/
def isPlain (b : UInt8) : Bool := 0x20 ≤ b && b < 0x7F && b ≠ 0x22 && b ≠ 0x5C

/-- A string of such bytes. -/
def Plain (s : Bytes) : Prop := ∀ b ∈ s, isPlain b = true

theorem isPlain_iff {b : UInt8} :
    isPlain b = true ↔ ¬ b < 0x20 ∧ b < 0x7F ∧ b ≠ 0x22 ∧ b ≠ 0x5C := by
  simp [isPlain, and_assoc]

theorem isPlain_ascii {b : UInt8} (h : isPlain b = true) : b < 0x80 :=
  UInt8.lt_trans (isPlain_iff.1 h).2.1 (by decide)

theorem Plain.of_cons {b : UInt8} {s : Bytes} (h : Plain (b :: s)) :
    isPlain b = true ∧ Plain s :=
  ⟨h b List.mem_cons_self, fun c hc => h c (List.mem_cons_of_mem _ hc)⟩

theorem Plain.valid {s : Bytes} (h : Plain s) : Valid s :=
  valid_ascii fun b hb => isPlain_ascii (h b hb)

theorem Plain.spelled {s : Bytes} (h : Plain s) : Spelled s := by
  induction s with
  | nil => rfl
  | cons b s ih =>
      obtain ⟨hb, hs⟩ := h.of_cons
      obtain ⟨hctl, -, hquote, hslash⟩ := isPlain_iff.1 hb
      have hstep : spellStep .plain b = some .plain := by simp [spellStep, hctl, hquote, hslash]
      rw [Spelled, spell_cons, hstep]
      exact ih hs

theorem Plain.unquote {s : Bytes} (h : Plain s) : unquote s = s := by
  induction s with
  | nil => rfl
  | cons b s ih =>
      obtain ⟨hb, hs⟩ := h.of_cons
      rw [unquote_plain (isPlain_ascii hb) (isPlain_iff.1 hb).2.2.2, ih hs]

/-- A plain string is written as it is, unless the writer escapes the markup it
carries. -/
theorem quote_plain {s : Bytes} {html : Bool} (h : Plain s)
    (hm : html = true → ∀ b ∈ s, isMarkup b = false) : quote html s = s := by
  induction s with
  | nil => rfl
  | cons b s ih =>
      obtain ⟨hb, hs⟩ := h.of_cons
      obtain ⟨hctl, -, hquote, hslash⟩ := isPlain_iff.1 hb
      have hbyte : quoteByte html b = [b] := by
        have hne : ∀ c : UInt8, c < 0x20 → b ≠ c := by
          rintro c hc rfl
          exact hctl hc
        have hmarkup : ¬ (html = true ∧ isMarkup b = true) := fun hboth =>
          absurd (hboth.2.symm.trans (hm hboth.1 b List.mem_cons_self)) (by decide)
        simp [quoteByte, hquote, hslash, hctl, hmarkup, hne 0x08 (by decide),
          hne 0x0C (by decide), hne 0x0A (by decide), hne 0x0D (by decide), hne 0x09 (by decide)]
      rw [quote_ascii html (isPlain_ascii hb), hbyte,
        ih hs fun he c hc => hm he c (List.mem_cons_of_mem _ hc)]
      rfl

theorem Plain.quote {s : Bytes} (h : Plain s) : quote false s = s :=
  quote_plain h fun he => by cases he

/-! ## Words -/

/-- A letter, a digit or one of the two joining bytes. -/
def isWord (b : UInt8) : Bool :=
  isUpper b || isLower b || isDigit b || b = 0x2D || b = 0x5F

/-- A string of such bytes, which no writer respells. -/
def Word (s : Bytes) : Prop := ∀ b ∈ s, isWord b = true

instance (s : Bytes) : Decidable (Word s) :=
  decidable_of_iff (s.all isWord = true) List.all_eq_true

theorem isWord_iff {b : UInt8} :
    isWord b = true ↔
      (0x41 ≤ b.toNat ∧ b.toNat ≤ 0x5A) ∨ (0x61 ≤ b.toNat ∧ b.toNat ≤ 0x7A) ∨
        (0x30 ≤ b.toNat ∧ b.toNat ≤ 0x39) ∨ b.toNat = 0x2D ∨ b.toNat = 0x5F := by
  simp only [isWord, isUpper, isLower, isDigit, Bool.or_eq_true, Bool.and_eq_true,
    decide_eq_true_eq, UInt8.le_iff_toNat_le, ← UInt8.toNat_inj, or_assoc]
  rfl

theorem isWord_plain {b : UInt8} (h : isWord b = true) : isPlain b = true := by
  rw [isWord_iff] at h
  rw [isPlain_iff, UInt8.lt_iff_toNat_lt, UInt8.lt_iff_toNat_lt, Ne, Ne, ← UInt8.toNat_inj,
    ← UInt8.toNat_inj]
  show ¬ b.toNat < 0x20 ∧ b.toNat < 0x7F ∧ ¬ b.toNat = 0x22 ∧ ¬ b.toNat = 0x5C
  omega

theorem isWord_markup {b : UInt8} (h : isWord b = true) : isMarkup b = false := by
  rw [isWord_iff] at h
  simp only [isMarkup, Bool.or_eq_false_iff, decide_eq_false_iff_not, ← UInt8.toNat_inj]
  show (¬ b.toNat = 0x3C ∧ ¬ b.toNat = 0x3E) ∧ ¬ b.toNat = 0x26
  omega

theorem Word.plain {s : Bytes} (h : Word s) : Plain s := fun b hb => isWord_plain (h b hb)

theorem Word.quote {s : Bytes} (html : Bool) (h : Word s) : quote html s = s :=
  quote_plain h.plain fun _ b hb => isWord_markup (h b hb)

end YourCloud.Foundation
