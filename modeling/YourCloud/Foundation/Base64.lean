import YourCloud.Foundation.Bytes

/-!
# Standard base 64 with padding

Four letters stand for three bytes, and the last four are padded where fewer are
left.  What a reader takes need not be what a writer writes: the unused low bits
of the last letter are dropped.  A reader that wants one spelling for each value
writes what it read and compares.
-/

namespace YourCloud.Foundation

/-- The letter of a six-bit value. -/
def stdLetter (n : Nat) : UInt8 :=
  if n = 62 then 0x2B else if n = 63 then 0x2F else base64Letter n

/-- The six-bit value of a letter of the standard alphabet. -/
def stdValue (b : UInt8) : Option Nat :=
  if isUpper b then some (b.toNat - 0x41)
  else if isLower b then some (b.toNat - 0x61 + 26)
  else if isDigit b then some (b.toNat - 0x30 + 52)
  else if b = 0x2B then some 62
  else if b = 0x2F then some 63
  else none

/-- `base64.StdEncoding.EncodeToString` -/
def encodeStd : Bytes → Bytes
  | [] => []
  | [a] => [stdLetter (a.toNat / 4), stdLetter (a.toNat % 4 * 16), 0x3D, 0x3D]
  | [a, b] =>
      [stdLetter (a.toNat / 4), stdLetter (a.toNat % 4 * 16 + b.toNat / 16),
        stdLetter (b.toNat % 16 * 4), 0x3D]
  | a :: b :: c :: rest =>
      stdLetter (a.toNat / 4) :: stdLetter (a.toNat % 4 * 16 + b.toNat / 16) ::
        stdLetter (b.toNat % 16 * 4 + c.toNat / 64) :: stdLetter (c.toNat % 64) :: encodeStd rest

/-- `base64.StdEncoding.DecodeString` on a text without line ends: four letters at a time, the
last of them padded. -/
def decodeStd : Bytes → Option Bytes
  | [] => some []
  | w :: x :: y :: z :: rest => do
      let w ← stdValue w
      let x ← stdValue x
      if y = 0x3D ∧ z = 0x3D ∧ rest = [] then return [(w * 4 + x / 16).toUInt8]
      else
        let y ← stdValue y
        if z = 0x3D ∧ rest = [] then
          return [(w * 4 + x / 16).toUInt8, (x % 16 * 16 + y / 4).toUInt8]
        else
          let z ← stdValue z
          let tail ← decodeStd rest
          return (w * 4 + x / 16).toUInt8 :: (x % 16 * 16 + y / 4).toUInt8 ::
            (y % 4 * 64 + z).toUInt8 :: tail
  | _ => none

/-- The bytes of the one spelling a writer gives them.  A line end, which a lenient reader
skips, never survives the comparison. -/
def decodeCanonicalStd (value : Bytes) (expected : Nat) : Option Bytes :=
  (decodeStd value).filter fun decoded => decoded.length = expected && encodeStd decoded = value

theorem decodeCanonicalStd_inj {value value' decoded : Bytes} {expected : Nat}
    (h : decodeCanonicalStd value expected = some decoded)
    (h' : decodeCanonicalStd value' expected = some decoded) : value = value' := by
  have hcanonical : ∀ value, decodeCanonicalStd value expected = some decoded →
      encodeStd decoded = value := by
    intro value h
    have hfilter := (Option.filter_eq_some_iff.1 h).2
    rw [Bool.and_eq_true, decide_eq_true_eq, decide_eq_true_eq] at hfilter
    exact hfilter.2
  rw [← hcanonical value h, ← hcanonical value' h']

theorem decodeCanonicalStd_length {value decoded : Bytes} {expected : Nat}
    (h : decodeCanonicalStd value expected = some decoded) : decoded.length = expected := by
  have hfilter := (Option.filter_eq_some_iff.1 h).2
  rw [Bool.and_eq_true, decide_eq_true_eq, decide_eq_true_eq] at hfilter
  exact hfilter.1

end YourCloud.Foundation
