import YourCloud.Foundation.Base64
import YourCloud.Assistant.KeyEnvelope

/-!
# The armour of a personal key

The decoder keeps every bit it ever read in a word it never masks; what it puts
out depends on the last twelve of them alone.  So it takes the one spelling of
each byte string and gives that string back, and no other text.

## Main results

* `decodeBase64_eq_some` — the decoder takes what a writer writes and nothing else.
* `pemBody_eq_some` — the lines an armour is made of.
-/

namespace YourCloud.Assistant.OpensshKey

open YourCloud.Foundation
open Chars (lines trim trimEnd stripReturn stripSuffix)

/-! ## Letters -/

theorem base64Value_stdLetter : ∀ n, n < 64 → base64Value (stdLetter n) = some n := by
  decide

theorem stdLetter_ne_padding : ∀ n, n < 64 → stdLetter n ≠ 0x3D := by
  decide

private theorem base64Value_byte : ∀ n, n < 256 → ∀ value,
    base64Value n.toUInt8 = some value → value < 64 ∧ stdLetter value = n.toUInt8 := by
  have hall : ∀ n, n < 256 →
      (base64Value n.toUInt8).all fun value => value < 64 && stdLetter value == n.toUInt8 := by
    decide +kernel
  intro n hn value hvalue
  have hbyte := hall n hn
  simpa [hvalue] using hbyte

/-- A letter is the one of its value. -/
theorem base64Value_eq_some {byte : UInt8} {value : Nat} (h : base64Value byte = some value) :
    value < 64 ∧ stdLetter value = byte := by
  have hbyte : byte.toNat.toUInt8 = byte := UInt8.ofNat_toNat
  have hall := base64Value_byte byte.toNat byte.toNat_lt value
  rw [hbyte] at hall
  exact hall h

/-! ## The decoder -/

/-- Six bits put behind a word of which twelve are kept. -/
theorem push_accumulator {accumulator value : Nat} (h : value < 64) :
    ((accumulator <<< 6) % 2 ^ 32) ||| value = accumulator % 2 ^ 26 * 64 + value := by
  have hshift : (accumulator <<< 6) % 2 ^ 32 = (accumulator % 2 ^ 26) <<< 6 := by
    rw [Nat.shiftLeft_eq, Nat.shiftLeft_eq]
    omega
  rw [hshift, ← Nat.shiftLeft_add_eq_or_of_lt (show value < 2 ^ 6 from h), Nat.shiftLeft_eq]

theorem push_first {s : DecodeState} {value : Nat} (h : value < 64) (hbits : s.bits = 0) :
    s.push value = { s with accumulator := s.accumulator % 2 ^ 26 * 64 + value, bits := 6 } := by
  rw [DecodeState.push, push_accumulator h, hbits]
  rfl

/-- The byte a letter completes, by the bits that are left over after it. -/
theorem push_byte (bits : Nat) {s : DecodeState} {value : Nat} (h : value < 64)
    (hbits : s.bits = bits + 2) :
    s.push value =
      { s with
        accumulator := s.accumulator % 2 ^ 26 * 64 + value
        bits := bits
        output := s.output ++
          [((s.accumulator % 2 ^ 26 * 64 + value) / 2 ^ bits % 256).toUInt8] } := by
  rw [DecodeState.push, push_accumulator h, hbits]
  rw [if_pos (by omega), show bits + 2 + 6 - 8 = bits by omega, Nat.shiftRight_eq_div_pow,
    show (0xFF : Nat) = 2 ^ 8 - 1 from rfl, Nat.and_two_pow_sub_one_eq_mod]

/-- What three letters leave behind a whole number of bytes. -/
theorem push_two {s : DecodeState} {w x : Nat} (hw : w < 64) (hx : x < 64) (hbits : s.bits = 0) :
    ∃ accumulator, accumulator % 64 = x ∧ (s.push w).push x =
      { s with accumulator, bits := 4, output := s.output ++ [(w * 4 + x / 16).toUInt8] } := by
  rw [push_first hw hbits, push_byte 4 hx rfl]
  refine ⟨(s.accumulator % 2 ^ 26 * 64 + w) % 2 ^ 26 * 64 + x, by omega, ?_⟩
  rw [show ((s.accumulator % 2 ^ 26 * 64 + w) % 2 ^ 26 * 64 + x) / 2 ^ 4 % 256 = w * 4 + x / 16 by
    omega]

theorem push_three {s : DecodeState} {w x y : Nat} (hw : w < 64) (hx : x < 64) (hy : y < 64)
    (hbits : s.bits = 0) :
    ∃ accumulator, accumulator % 64 = y ∧ ((s.push w).push x).push y =
      { s with
        accumulator
        bits := 2
        output := s.output ++ [(w * 4 + x / 16).toUInt8, (x % 16 * 16 + y / 4).toUInt8] } := by
  obtain ⟨accumulator, hleft, hpushed⟩ := push_two hw hx hbits
  rw [hpushed, push_byte 2 hy rfl]
  refine ⟨accumulator % 2 ^ 26 * 64 + y, by omega, ?_⟩
  rw [show (accumulator % 2 ^ 26 * 64 + y) / 2 ^ 2 % 256 = x % 16 * 16 + y / 4 by omega]
  simp only [List.append_assoc, List.singleton_append]

theorem push_four {s : DecodeState} {w x y z : Nat} (hw : w < 64) (hx : x < 64) (hy : y < 64)
    (hz : z < 64) (hbits : s.bits = 0) :
    ∃ accumulator, (((s.push w).push x).push y).push z =
      { s with
        accumulator
        bits := 0
        output := s.output ++ [(w * 4 + x / 16).toUInt8, (x % 16 * 16 + y / 4).toUInt8,
          (y % 4 * 64 + z).toUInt8] } := by
  obtain ⟨accumulator, hleft, hpushed⟩ := push_three hw hx hy hbits
  rw [hpushed, push_byte 0 hz rfl]
  refine ⟨accumulator % 2 ^ 26 * 64 + z, ?_⟩
  rw [show (accumulator % 2 ^ 26 * 64 + z) / 2 ^ 0 % 256 = y % 4 * 64 + z by omega]
  simp only [List.append_assoc, List.cons_append, List.nil_append]

/-- The letters of a list of values. -/
def letters (values : List Nat) : Bytes := values.map stdLetter

def paddingOf (n : Nat) : Bytes := List.replicate n 0x3D

theorem push_padding (s : DecodeState) (value : Nat) : (s.push value).padding = s.padding := by
  unfold DecodeState.push
  dsimp only
  split <;> rfl

theorem decodeByte_letter {s : DecodeState} {value : Nat} (h : value < 64) (hs : s.padding = 0) :
    decodeByte s (stdLetter value) = some (s.push value) := by
  rw [decodeByte, if_neg (stdLetter_ne_padding value h), if_neg (by omega),
    base64Value_stdLetter value h, Option.map_some]

theorem foldlM_letters {s : DecodeState} {values : List Nat} {rest : Bytes}
    (h : ∀ value ∈ values, value < 64) (hs : s.padding = 0) :
    (letters values ++ rest).foldlM decodeByte s =
      rest.foldlM decodeByte (values.foldl DecodeState.push s) := by
  induction values generalizing s with
  | nil => rfl
  | cons value values ih =>
      rw [List.forall_mem_cons] at h
      show ((stdLetter value :: (letters values ++ rest)).foldlM decodeByte s) = _
      rw [List.foldlM_cons, decodeByte_letter h.1 hs]
      show (letters values ++ rest).foldlM decodeByte (s.push value) = _
      rw [ih h.2 (by rw [push_padding, hs])]
      rfl

theorem foldlM_padding (s : DecodeState) (n : Nat) :
    (paddingOf n).foldlM decodeByte s = some { s with padding := s.padding + n } := by
  induction n generalizing s with
  | zero => rfl
  | succ n ih =>
      rw [paddingOf, List.replicate_succ, List.foldlM_cons, decodeByte, if_pos rfl]
      show (paddingOf n).foldlM decodeByte { s with padding := s.padding + 1 } = _
      rw [ih]
      simp only [Nat.add_assoc, Nat.add_comm 1 n]

/-- Only padding comes behind padding. -/
theorem eq_padding {s t : DecodeState} {input : Bytes} (h : input.foldlM decodeByte s = some t)
    (hs : 0 < s.padding) : input = paddingOf input.length := by
  induction input generalizing s with
  | nil => rfl
  | cons byte input ih =>
      rw [List.foldlM_cons] at h
      by_cases hbyte : byte = 0x3D
      · rw [decodeByte, if_pos hbyte] at h
        have hrest := ih h (Nat.succ_pos _)
        rw [hbyte, List.length_cons, paddingOf, List.replicate_succ]
        exact congrArg (0x3D :: ·) hrest
      · rw [decodeByte, if_neg hbyte, if_pos hs] at h
        simp at h

/-- What the decoder goes through is letters and then padding. -/
theorem eq_letters {s t : DecodeState} {input : Bytes} (h : input.foldlM decodeByte s = some t)
    (hs : s.padding = 0) : ∃ values n, (∀ value ∈ values, value < 64) ∧
      input = letters values ++ paddingOf n := by
  induction input generalizing s with
  | nil => exact ⟨[], 0, by simp, rfl⟩
  | cons byte input ih =>
      rw [List.foldlM_cons] at h
      by_cases hbyte : byte = 0x3D
      · rw [decodeByte, if_pos hbyte] at h
        have hrest := eq_padding h (Nat.succ_pos _)
        refine ⟨[], input.length + 1, by simp, ?_⟩
        rw [hbyte, paddingOf, List.replicate_succ]
        exact congrArg (0x3D :: ·) hrest
      · rw [decodeByte, if_neg hbyte, if_neg (by omega)] at h
        cases hvalue : base64Value byte with
        | none => simp [hvalue] at h
        | some value =>
            rw [hvalue] at h
            obtain ⟨hsmall, hletter⟩ := base64Value_eq_some hvalue
            obtain ⟨values, n, hvalues, rfl⟩ := ih h (by rw [push_padding, hs])
            refine ⟨value :: values, n, List.forall_mem_cons.2 ⟨hsmall, hvalues⟩, ?_⟩
            rw [← hletter]
            rfl

/-- What is asked for at the end: the padding of the bits left over, and none of them set. -/
theorem finish_eq {s : DecodeState} {bits expected : Nat} (hbits : s.bits = bits)
    (hexpected : expectedPadding bits = some expected) :
    s.finish =
      if s.padding = expected ∧ s.accumulator % 2 ^ bits = 0 then some s.output else none := by
  have hmask : s.accumulator &&& (1 <<< bits - 1) = s.accumulator % 2 ^ bits := by
    rw [Nat.one_shiftLeft, Nat.and_two_pow_sub_one_eq_mod]
  rw [DecodeState.finish, hbits, hexpected, Option.bind_eq_bind, Option.bind_some, hmask]
  by_cases hpadding : s.padding = expected
  · by_cases hleft : s.accumulator % 2 ^ bits = 0
    · simp [hpadding, hleft]
    · have hpos : 0 < bits := by
        by_contra hzero
        apply hleft
        rw [show bits = 0 by omega, Nat.pow_zero, Nat.mod_one]
      simp [hpadding, hleft, hpos]
  · simp [hpadding]

/-- The decoder over letters and padding. -/
theorem foldlM_finish {s : DecodeState} {values : List Nat} {n : Nat}
    (h : ∀ value ∈ values, value < 64) (hs : s.padding = 0) :
    ((letters values ++ paddingOf n).foldlM decodeByte s).bind DecodeState.finish =
      { values.foldl DecodeState.push s with padding := n }.finish := by
  have hpadding : (values.foldl DecodeState.push s).padding = 0 := by
    induction values generalizing s with
    | nil => exact hs
    | cons value values ih =>
        exact ih (List.forall_mem_cons.1 h).2 (by rw [push_padding, hs])
  rw [foldlM_letters h hs, foldlM_padding, Option.bind_some, hpadding, Nat.zero_add]

/-! ## What is written is read back -/

private theorem toUInt8_eq {n : Nat} {b : UInt8} (h : n = b.toNat) : n.toUInt8 = b := by
  rw [h]
  exact UInt8.ofNat_toNat

theorem decode_encodeStd (output : Bytes) {s : DecodeState} (hbits : s.bits = 0)
    (hpadding : s.padding = 0) :
    ((encodeStd output).foldlM decodeByte s).bind DecodeState.finish =
      some (s.output ++ output) := by
  fun_induction encodeStd output generalizing s with
  | case1 =>
      show s.finish = _
      rw [finish_eq hbits rfl, if_pos ⟨hpadding, Nat.mod_one _⟩, List.append_nil]
  | case2 a =>
      have ha : a.toNat < 256 := a.toNat_lt
      obtain ⟨accumulator, hleft, hpushed⟩ := @push_two s (a.toNat / 4) (a.toNat % 4 * 16)
        (by omega) (by omega) hbits
      show ((letters [a.toNat / 4, a.toNat % 4 * 16] ++ paddingOf 2).foldlM decodeByte s).bind _ = _
      rw [foldlM_finish (by simp; omega) hpadding]
      show ({ (s.push _).push _ with padding := 2 } : DecodeState).finish = _
      rw [hpushed, finish_eq rfl rfl, if_pos ⟨rfl, by simp; omega⟩,
        toUInt8_eq (b := a) (by omega)]
  | case3 a b =>
      have ha : a.toNat < 256 := a.toNat_lt
      have hb : b.toNat < 256 := b.toNat_lt
      obtain ⟨accumulator, hleft, hpushed⟩ := @push_three s (a.toNat / 4)
        (a.toNat % 4 * 16 + b.toNat / 16) (b.toNat % 16 * 4) (by omega) (by omega) (by omega) hbits
      show ((letters [a.toNat / 4, a.toNat % 4 * 16 + b.toNat / 16, b.toNat % 16 * 4] ++
        paddingOf 1).foldlM decodeByte s).bind _ = _
      rw [foldlM_finish (by simp; omega) hpadding]
      show ({ ((s.push _).push _).push _ with padding := 1 } : DecodeState).finish = _
      rw [hpushed, finish_eq rfl rfl, if_pos ⟨rfl, by simp; omega⟩,
        toUInt8_eq (b := a) (by omega), toUInt8_eq (b := b) (by omega)]
  | case4 a b c rest ih =>
      have ha : a.toNat < 256 := a.toNat_lt
      have hb : b.toNat < 256 := b.toNat_lt
      have hc : c.toNat < 256 := c.toNat_lt
      obtain ⟨accumulator, hpushed⟩ := @push_four s (a.toNat / 4)
        (a.toNat % 4 * 16 + b.toNat / 16) (b.toNat % 16 * 4 + c.toNat / 64) (c.toNat % 64)
        (by omega) (by omega) (by omega) (by omega) hbits
      show ((letters [a.toNat / 4, a.toNat % 4 * 16 + b.toNat / 16,
        b.toNat % 16 * 4 + c.toNat / 64, c.toNat % 64] ++ encodeStd rest).foldlM
          decodeByte s).bind _ = _
      rw [foldlM_letters (by simp; omega) hpadding]
      show ((encodeStd rest).foldlM decodeByte ((((s.push _).push _).push _).push _)).bind _ = _
      rw [hpushed]
      refine Eq.trans (ih ?_ ?_) ?_
      · rfl
      · exact hpadding
      rw [toUInt8_eq (b := a) (by omega), toUInt8_eq (b := b) (by omega),
        toUInt8_eq (b := c) (by omega), List.append_assoc]
      rfl

/-! ## What is read was written -/

private theorem toNat_toUInt8 {n : Nat} (h : n < 256) : n.toUInt8.toNat = n := by
  show (UInt8.ofNat n).toNat = n
  rw [UInt8.toNat_ofNat']
  omega

theorem encodeStd_of_finish (n : Nat) {output : Bytes} : ∀ (values : List Nat) {s : DecodeState},
    (∀ value ∈ values, value < 64) → s.bits = 0 →
    { values.foldl DecodeState.push s with padding := n }.finish = some output →
    ∃ tail, output = s.output ++ tail ∧ encodeStd tail = letters values ++ paddingOf n
  | [], s, _, hbits, hfinish => by
      have hs : (DecodeState.mk s.accumulator s.bits n s.output).finish = some output := hfinish
      rw [@finish_eq ⟨s.accumulator, s.bits, n, s.output⟩ _ _ hbits rfl] at hs
      split at hs
      · rename_i hdone
        refine ⟨[], ?_, ?_⟩
        · rw [← Option.some.inj hs, List.append_nil]
        · rw [show n = 0 from hdone.1]
          rfl
      · cases hs
  | [w], s, h, hbits, hfinish => by
      have hw : w < 64 := h w List.mem_cons_self
      rw [List.foldl_cons, List.foldl_nil, push_first hw hbits] at hfinish
      cases hfinish
  | [w, x], s, h, hbits, hfinish => by
      have hw : w < 64 := h w (by simp)
      have hx : x < 64 := h x (by simp)
      obtain ⟨accumulator, hleft, hpushed⟩ := push_two hw hx hbits
      rw [List.foldl_cons, List.foldl_cons, List.foldl_nil, hpushed, finish_eq rfl rfl] at hfinish
      split at hfinish
      · rename_i hdone
        have hzero : accumulator % 16 = 0 := hdone.2
        refine ⟨[(w * 4 + x / 16).toUInt8], (Option.some.inj hfinish).symm, ?_⟩
        rw [encodeStd, toNat_toUInt8 (by omega), show (w * 4 + x / 16) / 4 = w by omega,
          show (w * 4 + x / 16) % 4 * 16 = x by omega, show n = 2 from hdone.1]
        rfl
      · cases hfinish
  | [w, x, y], s, h, hbits, hfinish => by
      have hw : w < 64 := h w (by simp)
      have hx : x < 64 := h x (by simp)
      have hy : y < 64 := h y (by simp)
      obtain ⟨accumulator, hleft, hpushed⟩ := push_three hw hx hy hbits
      rw [List.foldl_cons, List.foldl_cons, List.foldl_cons, List.foldl_nil, hpushed,
        finish_eq rfl rfl] at hfinish
      split at hfinish
      · rename_i hdone
        have hzero : accumulator % 4 = 0 := hdone.2
        refine ⟨[(w * 4 + x / 16).toUInt8, (x % 16 * 16 + y / 4).toUInt8],
          (Option.some.inj hfinish).symm, ?_⟩
        rw [encodeStd, toNat_toUInt8 (by omega), toNat_toUInt8 (by omega),
          show (w * 4 + x / 16) / 4 = w by omega,
          show (w * 4 + x / 16) % 4 * 16 + (x % 16 * 16 + y / 4) / 16 = x by omega,
          show (x % 16 * 16 + y / 4) % 16 * 4 = y by omega, show n = 1 from hdone.1]
        rfl
      · cases hfinish
  | w :: x :: y :: z :: rest, s, h, hbits, hfinish => by
      have hw : w < 64 := h w (by simp)
      have hx : x < 64 := h x (by simp)
      have hy : y < 64 := h y (by simp)
      have hz : z < 64 := h z (by simp)
      obtain ⟨accumulator, hpushed⟩ := push_four hw hx hy hz hbits
      rw [List.foldl_cons, List.foldl_cons, List.foldl_cons, List.foldl_cons, hpushed] at hfinish
      obtain ⟨tail, houtput, htail⟩ := encodeStd_of_finish n rest
        (fun value hvalue => h value (by simp [hvalue])) rfl hfinish
      refine ⟨(w * 4 + x / 16).toUInt8 :: (x % 16 * 16 + y / 4).toUInt8 ::
        (y % 4 * 64 + z).toUInt8 :: tail, ?_, ?_⟩
      · rw [houtput, List.append_assoc]
        rfl
      · rw [encodeStd, toNat_toUInt8 (by omega), toNat_toUInt8 (by omega), toNat_toUInt8 (by omega),
          show (w * 4 + x / 16) / 4 = w by omega,
          show (w * 4 + x / 16) % 4 * 16 + (x % 16 * 16 + y / 4) / 16 = x by omega,
          show (x % 16 * 16 + y / 4) % 16 * 4 + (y % 4 * 64 + z) / 64 = y by omega,
          show (y % 4 * 64 + z) % 64 = z by omega, htail]
        rfl

/-- The decoder takes the one spelling of each byte string, and no other text. -/
theorem decodeBase64_eq_some {input output : Bytes} :
    decodeBase64 input = some output ↔ encodeStd output = input := by
  constructor
  · intro h
    obtain ⟨s, hs, hfinish⟩ := Option.bind_eq_some_iff.1 h
    obtain ⟨values, n, hvalues, rfl⟩ := eq_letters hs rfl
    have hdone := foldlM_finish (s := {}) (n := n) hvalues rfl
    rw [hs, Option.bind_some, hfinish] at hdone
    obtain ⟨tail, houtput, htail⟩ := encodeStd_of_finish n values hvalues rfl hdone.symm
    rw [houtput]
    exact htail
  · rintro rfl
    exact decode_encodeStd output rfl rfl

theorem length_le_encodeStd (output : Bytes) : output.length ≤ (encodeStd output).length := by
  fun_induction encodeStd output with
  | case1 => exact Nat.le_refl 0
  | case2 a => exact (by decide : 1 ≤ 4)
  | case3 a b => exact (by decide : 2 ≤ 4)
  | case4 a b c rest ih =>
      simp only [List.length_cons]
      omega

/-! ## Lines -/

theorem flatten_intercalate (sep : Chars) (pieces : List Chars) :
    pieces.flatten.Sublist (sep.intercalate pieces) := by
  induction pieces with
  | nil => exact List.Sublist.refl _
  | cons piece pieces ih =>
      cases pieces with
      | nil => simp
      | cons next pieces =>
          rw [List.intercalate_cons_cons, List.flatten_cons, List.append_assoc]
          exact (List.Sublist.refl piece).append (ih.trans (List.sublist_append_right _ _))

theorem stripReturn_sublist (line : Chars) : (stripReturn line).Sublist line := by
  unfold stripReturn stripSuffix
  split
  · exact List.take_sublist _ _
  · exact List.Sublist.refl _

/-- The lines of a text are what is left of it without their ends. -/
theorem flatten_lines (s : Chars) : (lines s).flatten.Sublist s := by
  have hpieces : (s.splitOn '\n').flatten.Sublist s := by
    have hsub := flatten_intercalate ['\n'] (s.splitOn '\n')
    rwa [List.intercalate_splitOn] at hsub
  apply List.Sublist.trans _ hpieces
  have hne : s.splitOn '\n' ≠ [] := List.splitOn_ne_nil _ _
  unfold lines
  generalize s.splitOn '\n' = pieces at hne
  dsimp only
  have hlast : pieces = pieces.dropLast ++ pieces.getLast?.toList := by
    rw [List.getLast?_eq_some_getLast hne]
    exact (List.dropLast_append_getLast hne).symm
  conv => rhs; rw [hlast]
  rw [List.flatten_append, List.flatten_append]
  apply List.Sublist.append
  · have hstrip : (pieces.dropLast.flatMap stripReturn).Sublist (pieces.dropLast.flatMap id) :=
      List.Sublist.flatMap_right pieces.dropLast fun line _ => stripReturn_sublist line
    rwa [List.flatMap_id] at hstrip
  · exact List.Sublist.flatten (List.filter_sublist)

/-- The lines of an armour: the two markers, lines that are not empty between them, and nothing
behind them. -/
structure Armour where
  first : Chars
  middle : List Chars
  last : Chars
  after : List Chars
  begins : trimEnd first = PEM_BEGIN
  full : ∀ line ∈ middle, trimEnd line ≠ PEM_END ∧ trimEnd line ≠ []
  ends : trimEnd last = PEM_END
  nothing : ∀ line ∈ after, trim line = []

namespace Armour

def lines (a : Armour) : List Chars := a.first :: (a.middle ++ a.last :: a.after)

/-- What stands between the markers. -/
def body (a : Armour) : Chars := a.middle.flatMap trimEnd

end Armour

theorem readBody_eq_some {body joined : Chars} {lines after : List Chars} :
    readBody body lines = some (joined, after) ↔
      ∃ middle last, lines = middle ++ last :: after ∧ trimEnd last = PEM_END ∧
        (∀ line ∈ middle, trimEnd line ≠ PEM_END ∧ trimEnd line ≠ []) ∧
        joined = body ++ middle.flatMap trimEnd := by
  induction lines generalizing body with
  | nil => simp [readBody]
  | cons line lines ih =>
      rw [readBody]
      split
      · rename_i hend
        constructor
        · intro h
          obtain ⟨rfl, rfl⟩ := Prod.mk.inj (Option.some.inj h)
          exact ⟨[], line, rfl, hend, by simp, by simp⟩
        · rintro ⟨middle, last, hlines, hlast, hmiddle, rfl⟩
          cases middle with
          | nil =>
              obtain ⟨rfl, rfl⟩ := List.cons.inj hlines
              simp
          | cons other middle =>
              obtain ⟨rfl, -⟩ := List.cons.inj hlines
              exact absurd hend (hmiddle line List.mem_cons_self).1
      · rename_i hother
        split
        · rename_i hempty
          constructor
          · intro h
            cases h
          · rintro ⟨middle, last, hlines, hlast, hmiddle, -⟩
            cases middle with
            | nil =>
                obtain ⟨rfl, -⟩ := List.cons.inj hlines
                exact absurd hlast hother
            | cons other middle =>
                obtain ⟨rfl, -⟩ := List.cons.inj hlines
                exact absurd hempty (hmiddle line List.mem_cons_self).2
        · rename_i hfull
          rw [ih]
          constructor
          · rintro ⟨middle, last, rfl, hlast, hmiddle, rfl⟩
            refine ⟨line :: middle, last, rfl, hlast, ?_, ?_⟩
            · exact List.forall_mem_cons.2 ⟨⟨hother, hfull⟩, hmiddle⟩
            · rw [List.flatMap_cons, List.append_assoc]
          · rintro ⟨middle, last, hlines, hlast, hmiddle, rfl⟩
            cases middle with
            | nil =>
                obtain ⟨rfl, -⟩ := List.cons.inj hlines
                exact absurd hlast hother
            | cons other middle =>
                obtain ⟨rfl, rfl⟩ := List.cons.inj hlines
                refine ⟨middle, last, rfl, hlast, (List.forall_mem_cons.1 hmiddle).2, ?_⟩
                rw [List.flatMap_cons, List.append_assoc]

/-- The reader of the armour takes the lines of one, and what stands between the markers. -/
theorem pemBody_eq_some {bytes : Bytes} {body : Chars} :
    pemBody bytes = some body ↔
      ∃ file armour, Chars.bytes file = bytes ∧ lines file = Armour.lines armour ∧
        armour.body = body := by
  unfold pemBody
  rw [Option.bind_eq_bind, Option.bind_eq_some_iff]
  constructor
  · rintro ⟨file, hfile, h⟩
    split at h
    · cases h
    · rename_i first rest hlines
      split at h
      · cases h
      · rename_i hfirst
        obtain ⟨⟨joined, after⟩, hread, h⟩ := Option.bind_eq_some_iff.1 h
        obtain ⟨middle, last, rfl, hlast, hmiddle, rfl⟩ := readBody_eq_some.1 hread
        dsimp only at h
        split at h
        · cases h
        · rename_i hafter
          have hnothing : ∀ line ∈ after, trim line = [] := by
            simpa using hafter
          exact ⟨file, ⟨first, middle, last, after, not_not.1 hfirst, hmiddle, hlast, hnothing⟩,
            fromUtf8_eq_some.1 hfile, hlines, Option.some.inj h⟩
  · rintro ⟨file, armour, hfile, hlines, rfl⟩
    refine ⟨file, fromUtf8_eq_some.2 hfile, ?_⟩
    rw [hlines, Armour.lines]
    dsimp only
    have hread : readBody [] (armour.middle ++ armour.last :: armour.after) =
        some (armour.body, armour.after) :=
      readBody_eq_some.2 ⟨armour.middle, armour.last, rfl, armour.ends, armour.full, rfl⟩
    have hafter : ¬ (armour.after.any fun line => decide (trim line ≠ [])) = true := by
      simpa using armour.nothing
    rw [if_neg (not_not.2 armour.begins), hread, Option.bind_eq_bind, Option.bind_some]
    dsimp only
    rw [if_neg hafter]

/-- What an armour holds is no longer than the file. -/
theorem Armour.body_length {armour : Armour} {file : Chars} (h : Chars.lines file = armour.lines) :
    (Chars.bytes armour.body).length ≤ (Chars.bytes file).length := by
  have hmiddle : armour.body.Sublist armour.middle.flatten := by
    have htrim : (armour.middle.flatMap trimEnd).Sublist (armour.middle.flatMap id) :=
      List.Sublist.flatMap_right _ fun line _ => (List.rdropWhile_prefix _ line).sublist
    rwa [List.flatMap_id] at htrim
  have hlines : armour.middle.flatten.Sublist (Chars.lines file).flatten := by
    rw [h]
    apply List.Sublist.flatten
    exact (List.sublist_append_left _ _).trans (List.sublist_cons_self _ _)
  exact (((hmiddle.trans hlines).trans (flatten_lines file)).flatMap _).length_le

end YourCloud.Assistant.OpensshKey
