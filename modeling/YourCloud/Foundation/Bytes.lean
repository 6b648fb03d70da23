import Mathlib.Data.Nat.Digits.Defs
import Mathlib.Data.Nat.Digits.Lemmas

/-!
# Byte strings and their numerals

The strings of the modelled programs are byte sequences: nothing guarantees
that they hold well-formed text, and several results below turn on the ones
that do not.  A string is therefore a list of bytes here, and a literal is
written with `text`.

Everything in this module is elementary: the character classes the anchored
patterns are made of, decimal numerals with their reader, lower-case
hexadecimal, unpadded URL-safe base 64 with its canonical reader, and big-endian
words.

## Main results

* `ofDecimal_decimal` — reading a written numeral gives the number back.
* `decimal_digits`, `decimal_ne_nil` — a written numeral is a non-empty run
  of digits.
* `decimal_length` — of no more digits than the bound of the number.
* `hexEncode_length`, `hexEncode_lower` — the shape of written hexadecimal.
-/

namespace YourCloud.Foundation

/-- A string of the modelled programs. -/
abbrev Bytes := List UInt8

instance instLawfulBEqBytes : LawfulBEq Bytes := inferInstance

/-- The bytes of a literal. -/
def text (s : String) : Bytes := s.toUTF8.data.toList

/-! ## Character classes -/

def isDigit (b : UInt8) : Bool := 0x30 ≤ b && b ≤ 0x39

def isLower (b : UInt8) : Bool := 0x61 ≤ b && b ≤ 0x7A

def isUpper (b : UInt8) : Bool := 0x41 ≤ b && b ≤ 0x5A

/-- `[0-9a-f]` -/
def isLowerHex (b : UInt8) : Bool := isDigit b || (0x61 ≤ b && b ≤ 0x66)

/-- The anchored pattern `^[class]{n}$`. -/
def exactly (n : Nat) (cls : UInt8 → Bool) (s : Bytes) : Bool :=
  s.length == n && s.all cls

/-- An anchored pattern given by the class of each of its bytes. -/
def matchesEach : List (UInt8 → Bool) → Bytes → Bool
  | [], [] => true
  | cls :: classes, b :: s => cls b && matchesEach classes s
  | _, _ => false

theorem matchesEach_length {classes : List (UInt8 → Bool)} {s : Bytes}
    (h : matchesEach classes s = true) : s.length = classes.length := by
  induction classes generalizing s with
  | nil =>
      cases s with
      | nil => rfl
      | cons b s => cases h
  | cons cls classes ih =>
      cases s with
      | nil => cases h
      | cons b s =>
          rw [matchesEach, Bool.and_eq_true] at h
          rw [List.length_cons, List.length_cons, ih h.2]

/-- Every byte of a match is in one of the classes. -/
theorem matchesEach_forall {classes : List (UInt8 → Bool)} {s : Bytes} {q : UInt8 → Prop}
    (h : matchesEach classes s = true) (hq : ∀ cls ∈ classes, ∀ b, cls b = true → q b) :
    ∀ b ∈ s, q b := by
  induction classes generalizing s with
  | nil =>
      cases s with
      | nil => exact fun b hb => absurd hb List.not_mem_nil
      | cons b s => cases h
  | cons cls classes ih =>
      cases s with
      | nil => cases h
      | cons b s =>
          rw [matchesEach, Bool.and_eq_true] at h
          intro c hc
          rcases List.mem_cons.1 hc with rfl | hc
          · exact hq cls List.mem_cons_self _ h.1
          · exact ih h.2 (fun d hd => hq d (List.mem_cons_of_mem _ hd)) c hc

/-! ## Decimal numerals -/

/-- The digit byte of a number below ten. -/
def digitByte (d : Nat) : UInt8 := (d + 0x30).toUInt8

/-- The value of a digit byte. -/
def digitValue (b : UInt8) : Nat := b.toNat - 0x30

/-- The decimal numeral of a number, without a leading zero. -/
def decimal (n : Nat) : Bytes :=
  if n = 0 then [0x30] else (Nat.digits 10 n).reverse.map digitByte

/-- The numeral of a signed number. -/
def decimalInt : Int → Bytes
  | .ofNat n => decimal n
  | .negSucc n => 0x2D :: decimal (n + 1)

/-- The value of a non-empty run of digits, and nothing else. -/
def ofDecimal (s : Bytes) : Option Nat :=
  if s ≠ [] ∧ s.all isDigit then some (s.foldl (fun n b => 10 * n + digitValue b) 0)
  else none

private theorem digitByte_toNat {d : Nat} (h : d < 10) :
    (digitByte d).toNat = d + 0x30 := by
  simp only [digitByte, Nat.toUInt8, UInt8.toNat_ofNat']
  omega

theorem isDigit_digitByte {d : Nat} (h : d < 10) : isDigit (digitByte d) = true := by
  have hd := digitByte_toNat h
  simp only [isDigit, Bool.and_eq_true, decide_eq_true_eq, UInt8.le_iff_toNat_le, hd]
  constructor
  · show 48 ≤ d + 48
    omega
  · show d + 48 ≤ 57
    omega

theorem digitValue_digitByte {d : Nat} (h : d < 10) : digitValue (digitByte d) = d := by
  rw [digitValue, digitByte_toNat h, Nat.add_sub_cancel]

theorem decimal_ne_nil (n : Nat) : decimal n ≠ [] := by
  unfold decimal
  split
  · exact List.cons_ne_nil _ _
  · rename_i h
    simpa [Nat.digits_ne_nil_iff_ne_zero] using h

theorem decimal_digits (n : Nat) : ∀ b ∈ decimal n, isDigit b = true := by
  intro b hb
  unfold decimal at hb
  split at hb
  · obtain rfl := List.mem_singleton.1 hb
    decide
  · obtain ⟨d, hd, rfl⟩ := List.mem_map.1 hb
    exact isDigit_digitByte (Nat.digits_lt_base (by decide) (List.mem_reverse.1 hd))

theorem decimal_length {w n : Nat} (hw : 0 < w) (hn : n < 10 ^ w) : (decimal n).length ≤ w := by
  unfold decimal
  split
  · exact hw
  · rw [List.length_map, List.length_reverse]
    exact (Nat.digits_length_le_iff (by decide) n).2 hn

/-- No leading zero, the numeral of zero apart. -/
theorem decimal_head {n : Nat} (h : n ≠ 0) :
    ∃ b t, decimal n = b :: t ∧ isDigit b = true ∧ b ≠ 0x30 := by
  have hne : Nat.digits 10 n ≠ [] := Nat.digits_ne_nil_iff_ne_zero.2 h
  have hlast := Nat.getLast_digit_ne_zero 10 h
  have hlt : (Nat.digits 10 n).getLast hne < 10 :=
    Nat.digits_lt_base (by decide) (List.getLast_mem hne)
  refine ⟨digitByte ((Nat.digits 10 n).getLast hne),
    ((Nat.digits 10 n).dropLast.reverse).map digitByte, ?_, isDigit_digitByte hlt, ?_⟩
  · rw [decimal, if_neg h]
    conv_lhs => rw [← List.dropLast_concat_getLast hne]
    rw [List.reverse_append, List.map_append]
    rfl
  · intro hzero
    have hv := digitValue_digitByte hlt
    rw [hzero] at hv
    exact hlast hv.symm

/-- Folding the digits from the most significant one is the base-ten value of
the least significant first list. -/
private theorem foldl_digits (ds : List Nat) (h : ∀ d ∈ ds, d < 10) :
    (ds.reverse.map digitByte).foldl (fun n b => 10 * n + digitValue b) 0 =
      Nat.ofDigits 10 ds := by
  induction ds with
  | nil => rfl
  | cons d ds ih =>
      have hd : d < 10 := h d List.mem_cons_self
      have hds := ih fun e he => h e (List.mem_cons_of_mem _ he)
      simp only [List.reverse_cons, List.map_append, List.foldl_append, hds,
        List.map_cons, List.map_nil, List.foldl_cons, List.foldl_nil,
        digitValue_digitByte hd, Nat.ofDigits_cons]
      omega

theorem ofDecimal_decimal (n : Nat) : ofDecimal (decimal n) = some n := by
  have hall : (decimal n).all isDigit = true := List.all_eq_true.2 (decimal_digits n)
  rw [ofDecimal, if_pos ⟨decimal_ne_nil n, hall⟩]
  unfold decimal
  split
  · subst_vars
    rfl
  · rw [foldl_digits _ fun d hd => Nat.digits_lt_base (by decide) hd,
      Nat.ofDigits_digits]

/-! ## Hexadecimal -/

/-- The lower-case digit of a number below sixteen. -/
def hexDigit (n : Nat) : UInt8 :=
  if n < 10 then (n + 0x30).toUInt8 else (n + 0x57).toUInt8

/-- The value of a hexadecimal digit of either case. -/
def hexValue (b : UInt8) : Option Nat :=
  if isDigit b then some (b.toNat - 0x30)
  else if 0x61 ≤ b && b ≤ 0x66 then some (b.toNat - 0x57)
  else if 0x41 ≤ b && b ≤ 0x46 then some (b.toNat - 0x37)
  else none

/-- Lower-case hexadecimal, two digits a byte. -/
def hexEncode : Bytes → Bytes
  | [] => []
  | b :: rest => hexDigit (b.toNat / 16) :: hexDigit (b.toNat % 16) :: hexEncode rest

/-- The bytes an even run of hexadecimal digits of either case spells. -/
def hexDecode : Bytes → Option Bytes
  | [] => some []
  | [_] => none
  | a :: b :: rest => do
      let high ← hexValue a
      let low ← hexValue b
      let tail ← hexDecode rest
      return (16 * high + low).toUInt8 :: tail

theorem hexEncode_length (s : Bytes) : (hexEncode s).length = 2 * s.length := by
  induction s with
  | nil => rfl
  | cons b rest ih =>
      simp only [hexEncode, List.length_cons, ih]
      omega

private theorem hexDigit_lower : ∀ n, n < 16 → isLowerHex (hexDigit n) = true := by
  decide

theorem hexEncode_lower (s : Bytes) : (hexEncode s).all isLowerHex = true := by
  induction s with
  | nil => rfl
  | cons b rest ih =>
      have hb : b.toNat < 256 := b.toNat_lt
      simp only [hexEncode, List.all_cons, ih, Bool.and_true, Bool.and_eq_true]
      exact ⟨hexDigit_lower _ (by omega), hexDigit_lower _ (by omega)⟩

theorem hexValue_hexDigit : ∀ n, n < 16 → hexValue (hexDigit n) = some n := by
  decide

/-- What was spelled is read back. -/
theorem hexDecode_hexEncode (s : Bytes) : hexDecode (hexEncode s) = some s := by
  induction s with
  | nil => rfl
  | cons b rest ih =>
      have hb : b.toNat < 256 := b.toNat_lt
      have hvalue : 16 * (b.toNat / 16) + b.toNat % 16 = b.toNat := by omega
      rw [hexEncode, hexDecode, hexValue_hexDigit _ (by omega), hexValue_hexDigit _ (by omega), ih]
      show some ((16 * (b.toNat / 16) + b.toNat % 16).toUInt8 :: rest) = some (b :: rest)
      rw [hvalue, Nat.toUInt8_eq, UInt8.ofNat_toNat]

private theorem hexDigit_hexValue {b : UInt8} (h : isLowerHex b = true) :
    ∃ n, hexValue b = some n ∧ n < 16 ∧ hexDigit n = b := by
  have hall : ∀ k, k < 256 → isLowerHex k.toUInt8 = true →
      (hexValue k.toUInt8).any (fun n => n < 16 && hexDigit n = k.toUInt8) = true := by
    decide +kernel
  have hb := hall b.toNat b.toNat_lt (by simpa using h)
  simp only [Nat.toUInt8_eq, UInt8.ofNat_toNat, Option.any_eq_true, Bool.and_eq_true,
    decide_eq_true_eq] at hb
  exact hb

/-- What spells bytes in lower case is their only such spelling. -/
theorem hexEncode_hexDecode {s decoded : Bytes} (hs : s.all isLowerHex = true)
    (h : hexDecode s = some decoded) : hexEncode decoded = s := by
  fun_induction hexDecode s generalizing decoded with
  | case1 => rw [← Option.some.inj h]; rfl
  | case2 a => cases h
  | case3 a b rest ih =>
      simp only [List.all_cons, Bool.and_eq_true] at hs
      obtain ⟨high, hhigh, hhighBound, hhighDigit⟩ := hexDigit_hexValue hs.1
      obtain ⟨low, hlow, hlowBound, hlowDigit⟩ := hexDigit_hexValue hs.2.1
      rw [hhigh, hlow] at h
      cases htail : hexDecode rest with
      | none => rw [htail] at h; cases h
      | some tail =>
          rw [htail] at h
          rw [← Option.some.inj h, hexEncode, ih hs.2.2 htail]
          have hvalue : (16 * high + low).toUInt8.toNat = 16 * high + low := by
            simp only [Nat.toUInt8, UInt8.toNat_ofNat']
            omega
          rw [hvalue, show (16 * high + low) / 16 = high by omega,
            show (16 * high + low) % 16 = low by omega, hhighDigit, hlowDigit]

/-! ## URL-safe base 64 without padding -/

/-- The letter of a six-bit value. -/
def base64Letter (n : Nat) : UInt8 :=
  if n < 26 then (n + 0x41).toUInt8
  else if n < 52 then (n - 26 + 0x61).toUInt8
  else if n < 62 then (n - 52 + 0x30).toUInt8
  else if n = 62 then 0x2D
  else 0x5F

/-- The six-bit value of a letter. -/
def base64Value (b : UInt8) : Option Nat :=
  if isUpper b then some (b.toNat - 0x41)
  else if isLower b then some (b.toNat - 0x61 + 26)
  else if isDigit b then some (b.toNat - 0x30 + 52)
  else if b = 0x2D then some 62
  else if b = 0x5F then some 63
  else none

def encodeRawURL : Bytes → Bytes
  | [] => []
  | [a] => [base64Letter (a.toNat / 4), base64Letter (a.toNat % 4 * 16)]
  | [a, b] =>
      [base64Letter (a.toNat / 4), base64Letter (a.toNat % 4 * 16 + b.toNat / 16),
        base64Letter (b.toNat % 16 * 4)]
  | a :: b :: c :: rest =>
      base64Letter (a.toNat / 4) :: base64Letter (a.toNat % 4 * 16 + b.toNat / 16) ::
        base64Letter (b.toNat % 16 * 4 + c.toNat / 64) :: base64Letter (c.toNat % 64) ::
        encodeRawURL rest

/-- The reader before canonicality is asked for: unused low bits of the last
letter are dropped. -/
def decodeLetters : Bytes → Option Bytes
  | [] => some []
  | [_] => none
  | [w, x] => do
      let w ← base64Value w
      let x ← base64Value x
      return [(w * 4 + x / 16).toUInt8]
  | [w, x, y] => do
      let w ← base64Value w
      let x ← base64Value x
      let y ← base64Value y
      return [(w * 4 + x / 16).toUInt8, (x % 16 * 16 + y / 4).toUInt8]
  | w :: x :: y :: z :: rest => do
      let w ← base64Value w
      let x ← base64Value x
      let y ← base64Value y
      let z ← base64Value z
      let tail ← decodeLetters rest
      return (w * 4 + x / 16).toUInt8 :: (x % 16 * 16 + y / 4).toUInt8 ::
        (y % 4 * 64 + z).toUInt8 :: tail

/-- The one reader the programs use: exactly `expected` bytes in their only
canonical spelling.  A line break, which a lenient reader skips, never
survives the comparison with the written form. -/
def decodeRawURL (value : Bytes) (expected : Nat) : Option Bytes :=
  match decodeLetters value with
  | none => none
  | some decoded =>
      if decoded.length = expected ∧ encodeRawURL decoded = value then some decoded
      else none

private theorem base64Value_letter : ∀ n, n < 64 → base64Value (base64Letter n) = some n := by
  decide

private theorem toUInt8_eq {n : Nat} {b : UInt8} (h : n = b.toNat) : n.toUInt8 = b := by
  rw [h]
  exact UInt8.ofNat_toNat

/-- What was written is read back. -/
theorem decodeLetters_encodeRawURL (s : Bytes) : decodeLetters (encodeRawURL s) = some s := by
  fun_induction encodeRawURL s with
  | case1 => rfl
  | case2 a =>
      have ha : a.toNat < 256 := a.toNat_lt
      rw [decodeLetters, base64Value_letter _ (by omega), base64Value_letter _ (by omega)]
      show some [_] = some [a]
      rw [toUInt8_eq (b := a) (by omega)]
  | case3 a b =>
      have ha : a.toNat < 256 := a.toNat_lt
      have hb : b.toNat < 256 := b.toNat_lt
      rw [decodeLetters, base64Value_letter _ (by omega), base64Value_letter _ (by omega),
        base64Value_letter _ (by omega)]
      show some [_, _] = some [a, b]
      rw [toUInt8_eq (b := a) (by omega), toUInt8_eq (b := b) (by omega)]
  | case4 a b c rest ih =>
      have ha : a.toNat < 256 := a.toNat_lt
      have hb : b.toNat < 256 := b.toNat_lt
      have hc : c.toNat < 256 := c.toNat_lt
      rw [decodeLetters, base64Value_letter _ (by omega), base64Value_letter _ (by omega),
        base64Value_letter _ (by omega), base64Value_letter _ (by omega), ih]
      show some (_ :: _ :: _ :: rest) = some (a :: b :: c :: rest)
      rw [toUInt8_eq (b := a) (by omega), toUInt8_eq (b := b) (by omega),
        toUInt8_eq (b := c) (by omega)]

/-- The reader takes the written form of exactly that many bytes. -/
theorem decodeRawURL_eq_some {value decoded : Bytes} {expected : Nat} :
    decodeRawURL value expected = some decoded ↔
      decoded.length = expected ∧ encodeRawURL decoded = value := by
  constructor
  · intro h
    unfold decodeRawURL at h
    split at h
    · cases h
    · rename_i read hread
      split at h
      · rename_i hcanonical
        rw [← Option.some.inj h]
        exact hcanonical
      · cases h
  · rintro ⟨hlength, rfl⟩
    unfold decodeRawURL
    rw [decodeLetters_encodeRawURL]
    exact if_pos ⟨hlength, rfl⟩

theorem decodeRawURL_getD_length_le (value : Bytes) (expected : Nat) :
    ((decodeRawURL value expected).getD []).length ≤ expected := by
  cases h : decodeRawURL value expected with
  | none => exact Nat.zero_le _
  | some decoded => exact (decodeRawURL_eq_some.1 h).1.le

theorem encodeRawURL_length_le (s : Bytes) : (encodeRawURL s).length ≤ 2 * s.length := by
  fun_induction encodeRawURL s with
  | case1 => exact Nat.le_refl _
  | case2 a => exact Nat.le_refl _
  | case3 a b => exact (by decide : 3 ≤ 4)
  | case4 a b c rest ih =>
      simp only [List.length_cons]
      omega

theorem encodeRawURL_injective {s t : Bytes} (h : encodeRawURL s = encodeRawURL t) : s = t := by
  have hread := congrArg decodeLetters h
  rw [decodeLetters_encodeRawURL, decodeLetters_encodeRawURL] at hread
  exact Option.some.inj hread

/-! ## Words -/

/-- A number as big-endian bytes. -/
def bigEndian : Nat → Nat → Bytes
  | 0, _ => []
  | width + 1, n => bigEndian width (n / 256) ++ [(n % 256).toUInt8]

@[simp] theorem bigEndian_length (width n : Nat) : (bigEndian width n).length = width := by
  induction width generalizing n with
  | zero => rfl
  | succ width ih => rw [bigEndian, List.length_append, ih, List.length_singleton]

/-- A word determines its number up to its width. -/
theorem bigEndian_mod {width m n : Nat} (h : bigEndian width m = bigEndian width n) :
    m % 256 ^ width = n % 256 ^ width := by
  induction width generalizing m n with
  | zero => rw [Nat.pow_zero, Nat.mod_one, Nat.mod_one]
  | succ width ih =>
      obtain ⟨hinit, hlast⟩ := List.append_inj h (by simp)
      have hdigit : m % 256 = n % 256 := by
        have hvalue := congrArg UInt8.toNat (List.cons.inj hlast).1
        simpa using hvalue
      rw [Nat.pow_succ', Nat.mod_mul, Nat.mod_mul, ih hinit, hdigit]

theorem bigEndian_injective {width m n : Nat} (hm : m < 256 ^ width) (hn : n < 256 ^ width)
    (h : bigEndian width m = bigEndian width n) : m = n := by
  have hmod := bigEndian_mod h
  rwa [Nat.mod_eq_of_lt hm, Nat.mod_eq_of_lt hn] at hmod

end YourCloud.Foundation
