import YourCloud.Foundation.Bytes
import Mathlib.Tactic.IntervalCases

/-!
# Base 32 without padding

The letters of a text are drawn off an accumulator of 32 bits, into which its bytes are
shifted one after the other; what was drawn is never masked out and leaves at the top.  A
reader shifts the letters in and draws the bytes off.

A letter depends on the low bits of the accumulator alone, which is what the proofs below
keep of it: how many of them are left to draw, and their value.

## Main results

* `base32Decode_encode` — a text is read from its letters.
* `base32Encode_length` — how many letters it has.
-/

namespace YourCloud.Foundation

/-- The letter of a value of five bits. -/
def base32Letter (n : UInt32) : UInt8 :=
  if n < 26 then 0x41 + n.toUInt8 else 0x32 + (n - 26).toUInt8

/-- The value of a letter. -/
def base32Value (b : UInt8) : Option UInt8 :=
  if isUpper b then some (b - 0x41)
  else if 0x32 ≤ b ∧ b ≤ 0x37 then some (b - 0x32 + 26)
  else none

/-- The letters that can be drawn, and how many bits stay. -/
def drawLetters (accumulator : UInt32) : Nat → Bytes × Nat
  | bits + 5 =>
      let (letters, left) := drawLetters accumulator bits
      (base32Letter ((accumulator >>> UInt32.ofNat bits) &&& 0x1F) :: letters, left)
  | bits => ([], bits)

def encodeFrom (accumulator : UInt32) (bits : Nat) : Bytes → Bytes
  | [] =>
      if 0 < bits then
        [base32Letter ((accumulator <<< UInt32.ofNat (5 - bits)) &&& 0x1F)]
      else []
  | byte :: rest =>
      let accumulator := (accumulator <<< 8) ||| byte.toUInt32
      let (letters, bits) := drawLetters accumulator (bits + 8)
      letters ++ encodeFrom accumulator bits rest

def base32Encode (input : Bytes) : Bytes := encodeFrom 0 0 input

/-- A letter that is none, or bits that are left and not all zero, are refused. -/
def decodeFrom (accumulator : UInt32) (bits : Nat) : Bytes → Option Bytes
  | [] => if 0 < bits ∧ accumulator &&& ((1 <<< UInt32.ofNat bits) - 1) ≠ 0 then none else some []
  | letter :: rest => do
      let value ← base32Value letter
      let accumulator := (accumulator <<< 5) ||| value.toUInt32
      let bits := bits + 5
      if 8 ≤ bits then
        let output ← decodeFrom accumulator (bits - 8) rest
        return ((accumulator >>> UInt32.ofNat (bits - 8)) &&& 0xFF).toUInt8 :: output
      else decodeFrom accumulator bits rest

def base32Decode (input : Bytes) : Option Bytes := decodeFrom 0 0 input

/-! ## One letter, one byte -/

theorem base32Value_letter {n : UInt32} (h : n.toNat < 32) :
    (base32Value (base32Letter n)).map UInt8.toUInt32 = some n := by
  have hall : ∀ k : Fin 32, (base32Value (base32Letter (UInt32.ofNat k))).map UInt8.toUInt32 =
      some (UInt32.ofNat k) := by decide
  have hn := hall ⟨n.toNat, h⟩
  simpa using hn

theorem shifted_letter (a : UInt32) {v : UInt32} (h : v.toNat < 32) :
    ((a <<< 5) ||| v).toNat = a.toNat * 32 % 2 ^ 32 + v.toNat := by
  have hshift : (a <<< 5).toNat = a.toNat * 32 % 2 ^ 32 := by
    rw [UInt32.toNat_shiftLeft]
    simp [Nat.shiftLeft_eq]
  have hlow : a.toNat * 32 % 2 ^ 32 = 2 ^ 5 * (a.toNat % 2 ^ 27) := by omega
  rw [UInt32.toNat_or, hshift, hlow, Nat.two_pow_add_eq_or_of_lt (i := 5) h]

theorem shifted_byte (a : UInt32) (b : UInt8) :
    ((a <<< 8) ||| b.toUInt32).toNat = a.toNat * 256 % 2 ^ 32 + b.toNat := by
  have hshift : (a <<< 8).toNat = a.toNat * 256 % 2 ^ 32 := by
    rw [UInt32.toNat_shiftLeft]
    simp [Nat.shiftLeft_eq]
  have hlow : a.toNat * 256 % 2 ^ 32 = 2 ^ 8 * (a.toNat % 2 ^ 24) := by omega
  rw [UInt32.toNat_or, hshift, hlow, UInt8.toNat_toUInt32, Nat.two_pow_add_eq_or_of_lt (i := 8) b.toNat_lt]

theorem drawn_letter (a : UInt32) {k : Nat} (h : k < 32) :
    ((a >>> UInt32.ofNat k) &&& 0x1F).toNat = a.toNat / 2 ^ k % 32 := by
  rw [UInt32.toNat_and, UInt32.toNat_shiftRight]
  have hk : (UInt32.ofNat k).toNat % 32 = k := by
    rw [UInt32.toNat_ofNat']
    omega
  rw [hk, Nat.shiftRight_eq_div_pow]
  exact Nat.and_two_pow_sub_one_eq_mod _ 5

theorem filled_letter (a : UInt32) {k : Nat} (h : k < 32) :
    ((a <<< UInt32.ofNat k) &&& 0x1F).toNat = a.toNat * 2 ^ k % 2 ^ 32 % 32 := by
  have hk : (UInt32.ofNat k).toNat % 32 = k := by
    rw [UInt32.toNat_ofNat']
    omega
  rw [UInt32.toNat_and, UInt32.toNat_shiftLeft, hk, Nat.shiftLeft_eq]
  exact Nat.and_two_pow_sub_one_eq_mod _ 5

theorem drawn_byte (a : UInt32) {k : Nat} (h : k < 32) :
    ((a >>> UInt32.ofNat k) &&& 0xFF).toUInt8.toNat = a.toNat / 2 ^ k % 256 := by
  rw [UInt32.toNat_toUInt8, UInt32.toNat_and, UInt32.toNat_shiftRight]
  have hk : (UInt32.ofNat k).toNat % 32 = k := by
    rw [UInt32.toNat_ofNat']
    omega
  rw [hk, Nat.shiftRight_eq_div_pow]
  have hmask := Nat.and_two_pow_sub_one_eq_mod (a.toNat / 2 ^ k) 8
  simp_all

/-- One letter read: the accumulator it leaves, and a byte where one is complete. -/
theorem decodeFrom_letter (accumulator : UInt32) (bits : Nat) {n : UInt32} (h : n.toNat < 32)
    (rest : Bytes) :
    decodeFrom accumulator bits (base32Letter n :: rest) =
      if 8 ≤ bits + 5 then
        (decodeFrom ((accumulator <<< 5) ||| n) (bits + 5 - 8) rest).map
          (((((accumulator <<< 5) ||| n) >>> UInt32.ofNat (bits + 5 - 8)) &&& 0xFF).toUInt8 :: ·)
      else decodeFrom ((accumulator <<< 5) ||| n) (bits + 5) rest := by
  have hvalue := base32Value_letter h
  rw [Option.map_eq_some_iff] at hvalue
  obtain ⟨value, hread, hsame⟩ := hvalue
  rw [decodeFrom, hread]
  simp only [Option.bind_eq_bind, Option.bind_some, hsame]
  by_cases h8 : 8 ≤ bits + 5
  · simp only [if_pos h8, Option.map_eq_bind]
    rfl
  · simp only [if_neg h8]

/-! ## Reader and writer in step -/

/-- What a reader of the letters drawn so far has in common with the writer: the bits that were not
drawn are those of the byte that it has not completed. -/
inductive InStep (written read : UInt32) : Nat → Nat → Bytes → Prop
  | level : InStep written read 0 0 []
  | inside {bits : Nat} (byte : UInt8) (hpos : 0 < bits) (hbits : bits < 5)
      (hlow : written.toNat % 2 ^ bits = byte.toNat % 2 ^ bits)
      (hhigh : read.toNat % 2 ^ (8 - bits) = byte.toNat / 2 ^ bits) :
      InStep written read bits (8 - bits) [byte]

/-- A letter that completes a byte, and the bits of it that are left. -/
theorem decodeFrom_complete {read n : UInt32} {byte : UInt8} {bits m : Nat} (hpos : 0 < bits)
    (hbits : bits ≤ 5) (hhigh : read.toNat % 2 ^ (8 - bits) = byte.toNat / 2 ^ bits)
    (hn : n.toNat = byte.toNat % 2 ^ bits * 2 ^ (5 - bits) + m) (hm : m < 2 ^ (5 - bits))
    (rest : Bytes) :
    decodeFrom read (8 - bits) (base32Letter n :: rest) =
        (decodeFrom ((read <<< 5) ||| n) (5 - bits) rest).map (byte :: ·) ∧
      ((read <<< 5) ||| n).toNat % 2 ^ (5 - bits) = m := by
  have hbyte := byte.toNat_lt
  have hletter : n.toNat < 32 := by
    rw [hn]
    interval_cases bits <;> omega
  have hshifted := shifted_letter read hletter
  have hwhole : (((read <<< 5 ||| n) >>> UInt32.ofNat (5 - bits)) &&& 0xFF).toUInt8 = byte := by
    rw [← UInt8.toNat_inj, drawn_byte _ (by omega), hshifted, hn]
    interval_cases bits <;> omega
  constructor
  · rw [decodeFrom_letter _ _ hletter, if_pos (by omega)]
    have hleft : 8 - bits + 5 - 8 = 5 - bits := by omega
    rw [hleft, hwhole]
  · rw [hshifted, hn]
    interval_cases bits <;> omega

/-- Bits that are left over and all zero are no byte. -/
theorem decodeFrom_nil {accumulator : UInt32} {bits : Nat} (hbits : bits < 8)
    (h : accumulator.toNat % 2 ^ bits = 0) : decodeFrom accumulator bits [] = some [] := by
  have hmask : (1 <<< UInt32.ofNat bits - 1 : UInt32) = UInt32.ofNat (2 ^ bits - 1) := by
    have hall : ∀ k : Fin 8, (1 <<< UInt32.ofNat k.1 - 1 : UInt32) = UInt32.ofNat (2 ^ k.1 - 1) := by
      decide
    exact hall ⟨bits, hbits⟩
  have hzero : accumulator &&& (1 <<< UInt32.ofNat bits - 1) = 0 := by
    have hpow : 2 ^ bits ≤ 2 ^ 7 := Nat.pow_le_pow_right (by omega) (by omega)
    have hsmall : 2 ^ bits - 1 < UInt32.size := by
      show 2 ^ bits - 1 < 2 ^ 32
      omega
    rw [← UInt32.toNat_inj, UInt32.toNat_and, hmask, UInt32.toNat_ofNat_of_lt' hsmall,
      Nat.and_two_pow_sub_one_eq_mod, h]
    rfl
  rw [decodeFrom, if_neg (by simp [hzero])]

/-- A letter that completes none: with `m` bits of a byte before it, the rest stays in step. -/
theorem inStep_letter {written n : UInt32} {byte : UInt8} (read : UInt32) {m : Nat} (hm : m < 3)
    (hwritten : written.toNat % 2 ^ 8 = byte.toNat)
    (hread : read.toNat % 2 ^ m = byte.toNat / 2 ^ (8 - m))
    (hn : n.toNat = byte.toNat / 2 ^ (3 - m) % 32) (rest : Bytes) :
    InStep written ((read <<< 5) ||| n) (3 - m) (m + 5) [byte] ∧
      decodeFrom read m (base32Letter n :: rest) =
        decodeFrom ((read <<< 5) ||| n) (m + 5) rest := by
  have hbyte := byte.toNat_lt
  have hletter : n.toNat < 32 := by omega
  constructor
  · have hsum : m + 5 = 8 - (3 - m) := by omega
    rw [hsum]
    apply InStep.inside byte (by omega) (by omega)
    · interval_cases m <;> omega
    · rw [shifted_letter read hletter, hn]
      interval_cases m <;> omega
  · rw [decodeFrom_letter _ _ hletter, if_neg (by omega)]

/-- A reader in step reads what is still to be written, after the byte it has not completed. -/
theorem decodeFrom_encodeFrom {written read : UInt32} {bits dbits : Nat} {pending : Bytes}
    (h : InStep written read bits dbits pending) (rest : Bytes) :
    decodeFrom read dbits (encodeFrom written bits rest) = some (pending ++ rest) := by
  induction rest generalizing written read bits dbits pending with
  | nil =>
      cases h with
      | level => rfl
      | inside byte hpos hbits hlow hhigh =>
          have hfilled : ((written <<< UInt32.ofNat (5 - bits)) &&& 0x1F).toNat =
              byte.toNat % 2 ^ bits * 2 ^ (5 - bits) + 0 := by
            rw [filled_letter _ (by omega)]
            interval_cases bits <;> omega
          obtain ⟨hcomplete, hleft⟩ := decodeFrom_complete hpos (by omega) hhigh hfilled
            (Nat.two_pow_pos _) []
          rw [encodeFrom, if_pos hpos, hcomplete, decodeFrom_nil (by omega) hleft]
          rfl
  | cons next rest ih =>
      have hnext := next.toNat_lt
      have hshifted := shifted_byte written next
      have hlast : (written <<< 8 ||| next.toUInt32).toNat % 2 ^ 8 = next.toNat := by omega
      -- The letter that ends `k` bits before the byte does.
      have hdrawn (k : Nat) (hk : k ≤ 3) :
          (((written <<< 8 ||| next.toUInt32) >>> UInt32.ofNat k) &&& 0x1F).toNat =
            next.toNat / 2 ^ k % 32 := by
        rw [drawn_letter _ (by omega)]
        interval_cases k <;> omega
      have hfirst (hbits : bits < 5) :=
        drawn_letter (written <<< 8 ||| next.toUInt32) (by omega : bits + 3 < 32)
      simp only [encodeFrom]
      generalize written <<< 8 ||| next.toUInt32 = shifted at hshifted hlast hdrawn hfirst
      cases h with
      | level =>
          obtain ⟨hstep, hread⟩ := inStep_letter read (by omega : 0 < 3) hlast (by omega)
            (hdrawn 3 (by omega)) (encodeFrom shifted 3 rest)
          exact hread.trans (ih hstep)
      | inside byte hpos hbits hlow hhigh =>
          have hbyte := byte.toNat_lt
          have htop : next.toNat / 2 ^ (bits + 3) < 2 ^ (5 - bits) := by
            interval_cases bits <;> omega
          have hletter : ((shifted >>> UInt32.ofNat (bits + 3)) &&& 0x1F).toNat =
              byte.toNat % 2 ^ bits * 2 ^ (5 - bits) + next.toNat / 2 ^ (bits + 3) := by
            rw [hfirst hbits, hshifted]
            interval_cases bits <;> omega
          have hcomplete := decodeFrom_complete hpos (by omega) hhigh hletter htop
          generalize read <<< 5 ||| ((shifted >>> UInt32.ofNat (bits + 3)) &&& 0x1F) = read' at hcomplete
          interval_cases bits
          · obtain ⟨hread, hleft⟩ := hcomplete (encodeFrom shifted 4 rest)
            have hstep : InStep shifted read' 4 4 [next] :=
              .inside next (by omega) (by omega) (by omega) hleft
            have hrest := congrArg (Option.map (byte :: ·)) (ih hstep)
            exact hread.trans hrest
          · -- The second letter completes the next byte as well.
            obtain ⟨hread, hleft⟩ := hcomplete (base32Letter (shifted >>> UInt32.ofNat 0 &&& 0x1F) ::
              encodeFrom shifted 0 rest)
            have hlow : ((shifted >>> UInt32.ofNat 0) &&& 0x1F).toNat =
                next.toNat % 2 ^ 5 * 2 ^ (5 - 5) + 0 := by
              rw [hdrawn 0 (by omega)]
              omega
            obtain ⟨hsecond, -⟩ := decodeFrom_complete (by omega) (by omega) hleft hlow (by omega)
              (encodeFrom shifted 0 rest)
            have hrest := congrArg (Option.map (next :: ·)) (ih (.level : InStep shifted
              (read' <<< 5 ||| (shifted >>> UInt32.ofNat 0 &&& 0x1F)) 0 0 []))
            exact hread.trans (congrArg (Option.map (byte :: ·)) (hsecond.trans hrest))
          · obtain ⟨hread, hleft⟩ := hcomplete (base32Letter (shifted >>> UInt32.ofNat 1 &&& 0x1F) ::
              encodeFrom shifted 1 rest)
            obtain ⟨hstep, hsecond⟩ := inStep_letter read' (by omega : 2 < 3) hlast hleft
              (hdrawn 1 (by omega)) (encodeFrom shifted 1 rest)
            have hrest := congrArg (Option.map (byte :: ·)) (hsecond.trans (ih hstep))
            exact hread.trans hrest
          · obtain ⟨hread, hleft⟩ := hcomplete (base32Letter (shifted >>> UInt32.ofNat 2 &&& 0x1F) ::
              encodeFrom shifted 2 rest)
            obtain ⟨hstep, hsecond⟩ := inStep_letter read' (by omega : 1 < 3) hlast hleft
              (hdrawn 2 (by omega)) (encodeFrom shifted 2 rest)
            have hrest := congrArg (Option.map (byte :: ·)) (hsecond.trans (ih hstep))
            exact hread.trans hrest

/-- A text is read from its letters. -/
theorem base32Decode_encode (input : Bytes) : base32Decode (base32Encode input) = some input :=
  decodeFrom_encodeFrom .level input

example : base32Encode [0x5A, 0x5A] = text "LJNA" := by decide
example : base32Decode (text "LJNA") = some [0x5A, 0x5A] := by decide

/-! ## The letters -/

theorem drawLetters_length (accumulator : UInt32) (bits : Nat) :
    (drawLetters accumulator bits).1.length = bits / 5 ∧
      (drawLetters accumulator bits).2 = bits % 5 := by
  fun_induction drawLetters accumulator bits with
  | case1 bits letters left hrest ih =>
      simp only [hrest] at ih
      show letters.length + 1 = (bits + 5) / 5 ∧ left = (bits + 5) % 5
      omega
  | case2 bits hbits =>
      have hfew : bits < 5 := Nat.lt_of_not_le fun hle => hbits (bits - 5) (by omega)
      simp only [List.length_nil]
      omega

theorem encodeFrom_length (accumulator : UInt32) {bits : Nat} (h : bits < 5) (input : Bytes) :
    (encodeFrom accumulator bits input).length = (8 * input.length + bits + 4) / 5 := by
  induction input generalizing accumulator bits with
  | nil =>
      by_cases hpos : 0 < bits
      · simp only [encodeFrom, if_pos hpos, List.length_cons, List.length_nil]
        omega
      · simp only [encodeFrom, if_neg hpos, List.length_nil]
        omega
  | cons byte rest ih =>
      obtain ⟨hletters, hleft⟩ :=
        drawLetters_length ((accumulator <<< 8) ||| byte.toUInt32) (bits + 8)
      simp only [encodeFrom, List.length_append, hletters, hleft, List.length_cons]
      rw [ih _ (by omega)]
      omega

theorem base32Encode_length (input : Bytes) :
    (base32Encode input).length = (8 * input.length + 4) / 5 :=
  encodeFrom_length 0 (by omega) input

/-- A byte that spells five bits. -/
def isBase32 (b : UInt8) : Bool := (base32Value b).isSome

theorem isBase32_letter {n : UInt32} (h : n.toNat < 32) : isBase32 (base32Letter n) = true := by
  have hvalue := congrArg Option.isSome (base32Value_letter h)
  simpa [isBase32] using hvalue

/-- The bits above the lowest five are masked out. -/
theorem masked_lt (n : UInt32) : (n &&& 0x1F).toNat < 32 := by
  rw [UInt32.toNat_and]
  exact Nat.and_lt_two_pow n.toNat (by decide : 0x1F < 2 ^ 5)

theorem drawLetters_letters (accumulator : UInt32) (bits : Nat) :
    ∀ b ∈ (drawLetters accumulator bits).1, isBase32 b = true := by
  fun_induction drawLetters accumulator bits with
  | case1 bits letters left hrest ih =>
      rw [hrest] at ih
      exact List.forall_mem_cons.2 ⟨isBase32_letter (masked_lt _), ih⟩
  | case2 bits hbits => exact List.forall_mem_nil _

theorem encodeFrom_letters (accumulator : UInt32) (bits : Nat) (input : Bytes) :
    ∀ b ∈ encodeFrom accumulator bits input, isBase32 b = true := by
  induction input generalizing accumulator bits with
  | nil =>
      rw [encodeFrom]
      split
      · exact List.forall_mem_singleton.2 (isBase32_letter (masked_lt _))
      · exact List.forall_mem_nil _
  | cons byte rest ih =>
      simp only [encodeFrom]
      exact List.forall_mem_append.2 ⟨drawLetters_letters _ _, ih _ _⟩

theorem base32Encode_letters (input : Bytes) : ∀ b ∈ base32Encode input, isBase32 b = true :=
  encodeFrom_letters 0 0 input

end YourCloud.Foundation
