import YourCloud.Foundation.Codes
import YourCloud.Assistant.KeyEnvelope

/-!
# The fields of a personal key

A reader of fields behind their length holds a buffer and an offset.  Whatever
length is declared, what it hands out lies in the buffer, and it hands out what a
writer put there.

## Main results

* `readU32_bounded`, `readString_bounded` — what a read takes lies in the buffer.
* `readU32_of_rest`, `readString_of_rest` — what was written is read.
* `mpintBits_eq` — the bits of an integer are those of its value, whatever zeros
  stand before it.
-/

namespace YourCloud.Assistant.OpensshKey

open YourCloud.Foundation

/-! ## Words -/

theorem fromBigEndian_append (s : Bytes) (b : UInt8) :
    fromBigEndian (s ++ [b]) = fromBigEndian s * 256 + b.toNat := by
  rw [fromBigEndian, List.foldl_append]
  rfl

theorem fromBigEndian_lt (s : Bytes) : fromBigEndian s < 256 ^ s.length := by
  induction s using List.reverseRecOn with
  | nil => exact Nat.one_pos
  | append_singleton s b ih =>
      have hb : b.toNat < 256 := b.toNat_lt
      rw [fromBigEndian_append, List.length_append, List.length_singleton, Nat.pow_succ]
      omega

theorem bigEndian_fromBigEndian (s : Bytes) : bigEndian s.length (fromBigEndian s) = s := by
  induction s using List.reverseRecOn with
  | nil => rfl
  | append_singleton s b ih =>
      have hb : b.toNat < 256 := b.toNat_lt
      rw [fromBigEndian_append, List.length_append, List.length_singleton, bigEndian,
        show (fromBigEndian s * 256 + b.toNat) / 256 = fromBigEndian s by omega, ih,
        show (fromBigEndian s * 256 + b.toNat) % 256 = b.toNat by omega]
      exact congrArg (s ++ [·]) UInt8.ofNat_toNat

theorem fromBigEndian_bigEndian {width n : Nat} (h : n < 256 ^ width) :
    fromBigEndian (bigEndian width n) = n := by
  have hword := bigEndian_fromBigEndian (bigEndian width n)
  have hlt := fromBigEndian_lt (bigEndian width n)
  rw [bigEndian_length] at hword hlt
  exact bigEndian_injective hlt h hword

/-! ## Reads -/

theorem getRange_eq_some {bytes slice : Bytes} {start stop : Nat} :
    getRange bytes start stop = some slice ↔
      start ≤ stop ∧ stop ≤ bytes.length ∧ (bytes.drop start).take (stop - start) = slice := by
  unfold getRange
  split
  · rename_i h
    simp [h]
  · rename_i h
    simp
    omega

namespace WireReader

/-- What has not been read. -/
def rest (r : WireReader) : Bytes := r.bytes.drop r.offset

/-- The reader behind the bytes it read. -/
def skip (r : WireReader) (n : Nat) : WireReader := ⟨r.bytes, r.offset + n⟩

/-- A reader that stands in its buffer. -/
structure Within (r : WireReader) : Prop where
  offset : r.offset ≤ r.bytes.length
  buffer : r.bytes.length < 2 ^ 64

@[simp] theorem rest_new (bytes : Bytes) : (new bytes).rest = bytes := rfl

theorem within_new {bytes : Bytes} (h : bytes.length < 2 ^ 64) : (new bytes).Within :=
  ⟨Nat.zero_le _, h⟩

theorem rest_skip (r : WireReader) (n : Nat) : (r.skip n).rest = r.rest.drop n := by
  rw [rest, rest, List.drop_drop]
  rfl

theorem remaining_eq_zero {r : WireReader} : r.remaining = 0 ↔ r.rest = [] := by
  rw [remaining, rest, List.drop_eq_nil_iff, Nat.sub_eq_zero_iff_le]

theorem rest_length (r : WireReader) : r.rest.length = r.bytes.length - r.offset :=
  List.length_drop

/-- What a reader took off its rest leaves it in the buffer. -/
theorem Within.skip {r : WireReader} (h : r.Within) {taken left : Bytes}
    (hrest : r.rest = taken ++ left) : (r.skip taken.length).Within := by
  have hlength := congrArg List.length hrest
  rw [rest_length, List.length_append] at hlength
  have hoffset := h.offset
  refine ⟨?_, h.buffer⟩
  show r.offset + taken.length ≤ r.bytes.length
  omega

/-- A word that is read lies in the buffer. -/
theorem readU32_bounded {r r' : WireReader} {n : Nat} (h : r.readU32 = some (n, r')) :
    r' = r.skip 4 ∧ r'.offset ≤ r.bytes.length ∧ n < 256 ^ 4 ∧
      r.rest = bigEndian 4 n ++ r'.rest := by
  unfold readU32 at h
  obtain ⟨stop, hstop, h⟩ := Option.bind_eq_some_iff.1 h
  obtain ⟨slice, hslice, h⟩ := Option.bind_eq_some_iff.1 h
  obtain ⟨rfl, rfl⟩ := Prod.mk.inj (Option.some.inj h)
  obtain ⟨-, hend, rfl⟩ := getRange_eq_some.1 hslice
  unfold checkedAdd at hstop
  split at hstop
  · obtain rfl := Option.some.inj hstop
    have hfour : ((r.bytes.drop r.offset).take 4).length = 4 := by
      rw [List.length_take, List.length_drop]
      omega
    rw [show r.offset + 4 - r.offset = 4 by omega]
    refine ⟨rfl, hend, ?_, ?_⟩
    · exact (fromBigEndian_lt _).trans_eq (by rw [hfour])
    · have hword := bigEndian_fromBigEndian ((r.bytes.drop r.offset).take 4)
      rw [hfour] at hword
      rw [hword]
      show r.rest = r.rest.take 4 ++ (r.skip 4).rest
      rw [rest_skip, List.take_append_drop]
  · cases hstop

/-- A string that is read lies in the buffer, whatever length it declares. -/
theorem readString_bounded {r r' : WireReader} {value : Bytes}
    (h : r.readString = some (value, r')) :
    r' = r.skip (4 + value.length) ∧ r'.offset ≤ r.bytes.length ∧ value.length < 256 ^ 4 ∧
      r.rest = writeField value ++ r'.rest := by
  unfold readString at h
  obtain ⟨⟨length, mid⟩, hlength, h⟩ := Option.bind_eq_some_iff.1 h
  obtain ⟨stop, hstop, h⟩ := Option.bind_eq_some_iff.1 h
  obtain ⟨slice, hslice, h⟩ := Option.bind_eq_some_iff.1 h
  obtain ⟨rfl, rfl⟩ := Prod.mk.inj (Option.some.inj h)
  obtain ⟨rfl, hfirst, hsmall, hword⟩ := readU32_bounded hlength
  obtain ⟨-, hend, rfl⟩ := getRange_eq_some.1 hslice
  unfold checkedAdd at hstop
  split at hstop
  · obtain rfl := Option.some.inj hstop
    show _ = _ ∧ _
    rw [show (r.skip 4).offset + length - (r.skip 4).offset = length by omega]
    have hall : (((r.skip 4).bytes.drop (r.skip 4).offset).take length).length = length := by
      rw [List.length_take, List.length_drop]
      omega
    rw [hall]
    have hskip : (r.skip 4).skip length = r.skip (4 + length) := by
      rw [skip, skip, skip, Nat.add_assoc]
    refine ⟨hskip, hend, hsmall, ?_⟩
    rw [hword, writeField, hall, List.append_assoc]
    congr 1
    show (r.skip 4).rest = (r.skip 4).rest.take length ++ ((r.skip 4).skip length).rest
    rw [rest_skip (r.skip 4) length, List.take_append_drop]
  · cases hstop

theorem readU32_of_rest {r : WireReader} (hw : r.Within) {n : Nat} {left : Bytes} (hn : n < 256 ^ 4)
    (h : r.rest = bigEndian 4 n ++ left) :
    r.readU32 = some (n, r.skip 4) ∧ (r.skip 4).rest = left ∧ (r.skip 4).Within := by
  have hskip := hw.skip h
  rw [bigEndian_length] at hskip
  have hend : r.offset + 4 ≤ r.bytes.length := hskip.offset
  have hbuffer := hw.buffer
  refine ⟨?_, ?_, hskip⟩
  · have hslice : getRange r.bytes r.offset (r.offset + 4) = some (bigEndian 4 n) := by
      rw [getRange_eq_some, Nat.add_sub_cancel_left]
      refine ⟨by omega, hend, ?_⟩
      show r.rest.take 4 = _
      rw [h, List.take_left' (bigEndian_length 4 n)]
    rw [readU32, checkedAdd, if_pos (by omega), Option.bind_eq_bind, Option.bind_some, hslice,
      Option.bind_eq_bind, Option.bind_some, fromBigEndian_bigEndian hn]
    rfl
  · rw [rest_skip, h, List.drop_left' (bigEndian_length 4 n)]

theorem readString_of_rest {r : WireReader} (hw : r.Within) {value left : Bytes}
    (hvalue : value.length < 256 ^ 4) (h : r.rest = writeField value ++ left) :
    ∃ r', r.readString = some (value, r') ∧ r'.rest = left ∧ r'.Within := by
  rw [writeField, List.append_assoc] at h
  obtain ⟨hlength, hrest, hmid⟩ := readU32_of_rest hw hvalue h
  have hskip := hmid.skip hrest
  have hend : (r.skip 4).offset + value.length ≤ (r.skip 4).bytes.length := hskip.offset
  have hbuffer : (r.skip 4).bytes.length < 2 ^ 64 := hw.buffer
  refine ⟨(r.skip 4).skip value.length, ?_, ?_, hskip⟩
  · have hslice : getRange (r.skip 4).bytes (r.skip 4).offset ((r.skip 4).offset + value.length) =
        some value := by
      rw [getRange_eq_some, Nat.add_sub_cancel_left]
      refine ⟨by omega, hend, ?_⟩
      show (r.skip 4).rest.take value.length = _
      rw [hrest, List.take_left]
    rw [readString, hlength, Option.bind_eq_bind, Option.bind_some]
    dsimp only
    rw [checkedAdd, if_pos (by omega), Option.bind_eq_bind, Option.bind_some, hslice,
      Option.bind_eq_bind, Option.bind_some]
    rfl
  · rw [rest_skip, hrest, List.drop_left]

end WireReader

/-! ## Integers -/

theorem fromBigEndian_cons (b : UInt8) (s : Bytes) :
    fromBigEndian (b :: s) = b.toNat * 256 ^ s.length + fromBigEndian s := by
  induction s using List.reverseRecOn with
  | nil =>
      show 0 * 256 + b.toNat = b.toNat * 1 + 0
      omega
  | append_singleton s c ih =>
      rw [← List.cons_append, fromBigEndian_append, ih, fromBigEndian_append, List.length_append,
        List.length_singleton, Nat.pow_succ]
      ring

theorem size_toNat_pos {b : UInt8} (hb : b ≠ 0) : 0 < Nat.size b.toNat := by
  rw [Nat.size_pos]
  by_contra hzero
  apply hb
  exact UInt8.toNat_inj.1 (by simp; omega)

/-- The bits of a value whose first byte is none of the zeros before it. -/
theorem size_fromBigEndian {b : UInt8} (hb : b ≠ 0) (s : Bytes) :
    Nat.size (fromBigEndian (b :: s)) = s.length * 8 + Nat.size b.toNat := by
  have hsize := size_toNat_pos hb
  have hlow := fromBigEndian_lt s
  have hunit : 256 ^ s.length = 2 ^ (s.length * 8) := by
    rw [Nat.mul_comm, Nat.pow_mul]
  rw [fromBigEndian_cons]
  rw [hunit] at hlow ⊢
  apply Nat.le_antisymm
  · rw [Nat.size_le]
    have hbyte : b.toNat < 2 ^ Nat.size b.toNat := Nat.lt_size_self _
    calc b.toNat * 2 ^ (s.length * 8) + fromBigEndian s
        < (b.toNat + 1) * 2 ^ (s.length * 8) := by
          rw [Nat.add_mul]
          omega
      _ ≤ 2 ^ Nat.size b.toNat * 2 ^ (s.length * 8) := Nat.mul_le_mul_right _ hbyte
      _ = 2 ^ (s.length * 8 + Nat.size b.toNat) := by rw [← Nat.pow_add, Nat.add_comm]
  · have hbyte : 2 ^ (Nat.size b.toNat - 1) ≤ b.toNat := Nat.lt_size.1 (by omega)
    have htop : s.length * 8 + Nat.size b.toNat - 1 < Nat.size
        (b.toNat * 2 ^ (s.length * 8) + fromBigEndian s) := by
      rw [Nat.lt_size]
      calc 2 ^ (s.length * 8 + Nat.size b.toNat - 1)
          = 2 ^ (Nat.size b.toNat - 1) * 2 ^ (s.length * 8) := by
            rw [← Nat.pow_add]
            congr 1
            omega
        _ ≤ b.toNat * 2 ^ (s.length * 8) := Nat.mul_le_mul_right _ hbyte
        _ ≤ _ := Nat.le_add_right _ _
    omega

theorem mpintBits_cons_zero (s : Bytes) : mpintBits (0 :: s) = mpintBits s := by
  unfold mpintBits
  rw [List.findIdx?_cons]
  cases s.findIdx? fun b => decide (b ≠ 0) with
  | none => rfl
  | some i => rfl

/-- The bits of an integer are those of its value; zero has none. -/
theorem mpintBits_eq {value : Bytes} (h : value.length * 8 < 2 ^ 32) :
    mpintBits value =
      if fromBigEndian value = 0 then none else some (Nat.size (fromBigEndian value)) := by
  induction value with
  | nil => rfl
  | cons b s ih =>
      rw [List.length_cons] at h
      by_cases hb : b = 0
      · subst hb
        rw [mpintBits_cons_zero, ih (by omega), fromBigEndian_cons]
        simp
      · have hvalue := size_fromBigEndian hb s
        have hbyte : Nat.size b.toNat ≤ 8 := Nat.size_le.2 b.toNat_lt
        have hpos := size_toNat_pos hb
        have hsize : 0 < Nat.size (fromBigEndian (b :: s)) := by omega
        rw [if_neg (Nat.size_pos.1 hsize).ne', hvalue]
        have hindex : (b :: s).findIdx? (fun c => decide (c ≠ 0)) = some 0 := by
          simp [List.findIdx?_cons, hb]
        unfold mpintBits
        rw [hindex]
        show (if 2 ^ 32 ≤ s.length + 1 then none
          else if 2 ^ 32 ≤ (s.length + 1) * 8 then none
          else if (s.length + 1) * 8 < leadingZeros b then none
          else some ((s.length + 1) * 8 - leadingZeros b)) = _
        have hzeros : leadingZeros b = 8 - Nat.size b.toNat := rfl
        rw [if_neg (by omega), if_neg (by omega), if_neg (by omega)]
        congr 1
        omega

end YourCloud.Assistant.OpensshKey
