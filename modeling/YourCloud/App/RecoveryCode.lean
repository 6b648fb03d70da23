import YourCloud.App.Document
import YourCloud.Foundation.Base32
import YourCloud.Foundation.Checks

/-!
# The recovery code on paper

The secret is shown in 52 letters of base 32 and two more that check them, in nine groups
of six.  What is typed back is read without regard to case, with the dashes of all groups
or without any; it is spelled out again from what was read, and has to be the same.

## Main results

* `formatRecoveryCode_grouped` — where the dashes of a displayed code stand.
* `parseRecoveryCode_exact` — a displayed code is read back, and nothing else is accepted.
-/

namespace YourCloud.App

open YourCloud.Foundation

def RAW_RECOVERY_MAX_BYTES : Nat := 80

def RECOVERY_DOMAIN : Bytes := text "your-cloud/recovery-check.v1"

def dash : UInt8 := 0x2D

/-! ## What is shown -/

/-- The letters of the first ten bits of the checksum. -/
def checksumLetters (raw : Bytes) : Bytes :=
  let checksum := sha256 (RECOVERY_DOMAIN ++ raw)
  let opening := checksum.getD 0 0
  let next := checksum.getD 1 0
  [base32Letter (opening >>> 3).toUInt32,
    base32Letter (((opening &&& 0x07) <<< 2) ||| (next >>> 6)).toUInt32]

def completeRecoveryCode (raw : Bytes) : Bytes := base32Encode raw ++ checksumLetters raw

/-- The group of six that has this index. -/
def group (complete : Bytes) (index : Nat) : Bytes := (complete.drop (index * 6)).take 6

def formatRecoveryCode (raw : Bytes) : Bytes :=
  (List.range 9).flatMap fun index =>
    (if 0 < index then [dash] else []) ++ group (completeRecoveryCode raw) index

/-- `replace('-', "")`. -/
def withoutDashes (s : Bytes) : Bytes := s.filter (· ≠ dash)

/-! ## What is read -/

def isAscii (b : UInt8) : Bool := b < 0x80

def toAsciiUppercase (b : UInt8) : UInt8 := if isLower b then b - 0x20 else b

def uppercase (s : Bytes) : Bytes := s.map toAsciiUppercase

/-- A dash after every six letters but the last ones, and no other. -/
def grouped (s : Bytes) : Bool :=
  s.zipIdx.all fun (value, index) =>
    (index + 1) % 7 = 0 && index < 56 && value = dash ||
      ((index + 1) % 7 ≠ 0 || 56 ≤ index) && value ≠ dash

/-- The 54 letters that were meant. -/
def canonicalRecoveryCode (uppercase : Bytes) : Except VaultError Bytes :=
  if uppercase.length = 54 ∧ dash ∉ uppercase then .ok uppercase
  else if uppercase.length = 62 ∧ grouped uppercase then .ok (withoutDashes uppercase)
  else .error .invalidInput

def parseRecoveryCode (raw : Bytes) : Except VaultError Bytes := do
  demand (raw ≠ [] && raw.length ≤ RAW_RECOVERY_MAX_BYTES && raw.all isAscii)
    VaultError.invalidInput
  let canonical ← canonicalRecoveryCode (uppercase raw)
  demand (canonical.length = 54) VaultError.invalidInput
  let decoded ← found (base32Decode (canonical.take 52)) VaultError.invalidInput
  demand (decoded.length = 32 && base32Encode decoded = canonical.take 52)
    VaultError.invalidInput
  demand (withoutDashes (formatRecoveryCode decoded) = canonical) VaultError.authenticationFailed
  return decoded

/-! ## The letters of a code -/

theorem isBase32_range {b : UInt8} (h : isBase32 b = true) : 0x32 ≤ b.toNat ∧ b.toNat ≤ 0x5A := by
  by_contra hrange
  have hupper : isUpper b = false := by
    simp only [isUpper, Bool.and_eq_false_iff, decide_eq_false_iff_not, UInt8.le_iff_toNat_le,
      UInt8.reduceToNat]
    omega
  have hdigit : ¬ (0x32 ≤ b ∧ b ≤ 0x37) := by
    simp only [UInt8.le_iff_toNat_le, UInt8.reduceToNat]
    omega
  simp [isBase32, base32Value, hupper, hdigit] at h

theorem isBase32_ne_dash {b : UInt8} (h : isBase32 b = true) : b ≠ dash := by
  intro hdash
  subst hdash
  exact absurd h (by decide)

/-- A letter is ASCII, and is what it is in upper case. -/
theorem isBase32_plain {b : UInt8} (h : isBase32 b = true) :
    isLower b = false ∧ isAscii b = true := by
  have hrange := isBase32_range h
  simp only [isLower, isAscii, Bool.and_eq_false_iff, decide_eq_false_iff_not, decide_eq_true_eq,
    UInt8.le_iff_toNat_le, UInt8.lt_iff_toNat_lt, UInt8.reduceToNat]
  omega

theorem checksumLetters_letters (raw : Bytes) :
    ∀ b ∈ checksumLetters raw, isBase32 b = true := by
  have hopening (b : UInt8) : (b >>> 3).toUInt32.toNat < 32 := by
    have hb := b.toNat_lt
    rw [UInt8.toNat_toUInt32, UInt8.toNat_shiftRight, Nat.shiftRight_eq_div_pow]
    show b.toNat / 2 ^ 3 < 32
    omega
  have hnext (b c : UInt8) : (((b &&& 0x07) <<< 2) ||| (c >>> 6)).toUInt32.toNat < 32 := by
    have hc := c.toNat_lt
    have hlow : (b &&& 0x07).toNat < 8 := Nat.and_lt_two_pow b.toNat (by decide : 7 < 2 ^ 3)
    rw [UInt8.toNat_toUInt32, UInt8.toNat_or]
    apply Nat.or_lt_two_pow (n := 5)
    · rw [UInt8.toNat_shiftLeft, Nat.shiftLeft_eq]
      show (b &&& 0x07).toNat * 2 ^ 2 % 2 ^ 8 < 2 ^ 5
      omega
    · rw [UInt8.toNat_shiftRight, Nat.shiftRight_eq_div_pow]
      show c.toNat / 2 ^ 6 < 2 ^ 5
      omega
  simp only [checksumLetters, List.forall_mem_cons, List.not_mem_nil, false_implies, implies_true,
    and_true]
  exact ⟨isBase32_letter (hopening _), isBase32_letter (hnext _ _)⟩

theorem completeRecoveryCode_letters (raw : Bytes) :
    ∀ b ∈ completeRecoveryCode raw, isBase32 b = true :=
  List.forall_mem_append.2 ⟨base32Encode_letters raw, checksumLetters_letters raw⟩

theorem completeRecoveryCode_length {raw : Bytes} (h : raw.length = 32) :
    (completeRecoveryCode raw).length = 54 := by
  have hletters : (base32Encode raw).length = 52 := by
    rw [base32Encode_length, h]
  rw [completeRecoveryCode, List.length_append, hletters]
  rfl

/-! ## The groups -/

/-- The groups follow one another. -/
theorem flatMap_group (complete : Bytes) (n : Nat) :
    (List.range n).flatMap (group complete) = complete.take (6 * n) := by
  induction n with
  | zero => rfl
  | succ n ih =>
      rw [List.range_succ, List.flatMap_append, ih, List.flatMap_singleton, group,
        Nat.mul_comm n 6, ← List.take_add]
      rfl

theorem group_letters {complete : Bytes} (h : ∀ b ∈ complete, isBase32 b = true) (index : Nat) :
    ∀ b ∈ group complete index, isBase32 b = true := by
  intro b hb
  exact h b (List.mem_of_mem_drop (List.mem_of_mem_take hb))

theorem withoutDashes_letters {s : Bytes} (h : ∀ b ∈ s, isBase32 b = true) :
    withoutDashes s = s := by
  rw [withoutDashes, List.filter_eq_self]
  intro b hb
  simpa using isBase32_ne_dash (h b hb)

theorem withoutDashes_append (s t : Bytes) :
    withoutDashes (s ++ t) = withoutDashes s ++ withoutDashes t := List.filter_append s t

theorem withoutDashes_format {raw : Bytes} (h : raw.length = 32) :
    withoutDashes (formatRecoveryCode raw) = completeRecoveryCode raw := by
  have hgroup (index : Nat) :
      withoutDashes ((if 0 < index then [dash] else []) ++ group (completeRecoveryCode raw) index) =
        group (completeRecoveryCode raw) index := by
    have hdash : withoutDashes (if 0 < index then [dash] else []) = [] := by
      by_cases hindex : 0 < index
      · rw [if_pos hindex]
        rfl
      · rw [if_neg hindex]
        rfl
    rw [withoutDashes_append, hdash, List.nil_append,
      withoutDashes_letters (group_letters (completeRecoveryCode_letters raw) index)]
  calc
    withoutDashes (formatRecoveryCode raw) =
        (List.range 9).flatMap fun index => withoutDashes
          ((if 0 < index then [dash] else []) ++ group (completeRecoveryCode raw) index) :=
      List.filter_flatMap
    _ = (List.range 9).flatMap (group (completeRecoveryCode raw)) := by
      rw [funext hgroup]
    _ = completeRecoveryCode raw := by
      rw [flatMap_group, List.take_of_length_le (by rw [completeRecoveryCode_length h])]

/-- Where dashes stand before the groups: every seventh place. -/
theorem dashed_getElem? {complete : Bytes} (h : ∀ b ∈ complete, isBase32 b = true) {n : Nat}
    (hlength : 6 * n ≤ complete.length) (i : Nat) :
    ((List.range n).flatMap fun index => dash :: group complete index).length = 7 * n ∧
    (((List.range n).flatMap fun index => dash :: group complete index)[i]? = some dash ↔
      i % 7 = 0 ∧ i < 7 * n) := by
  induction n with
  | zero => simp
  | succ n ih =>
      obtain ⟨hlen, hplaces⟩ := ih (by omega)
      have hgroup : (group complete n).length = 6 := by
        rw [group, List.length_take, List.length_drop]
        omega
      rw [List.range_succ, List.flatMap_append, List.flatMap_singleton]
      constructor
      · rw [List.length_append, hlen, List.length_cons, hgroup]
        omega
      · rw [List.getElem?_append, hlen]
        by_cases hi : i < 7 * n
        · rw [if_pos hi, hplaces]
          omega
        · rw [if_neg hi, List.getElem?_cons]
          by_cases hfirst : i - 7 * n = 0
          · rw [if_pos hfirst]
            simp only [true_iff]
            omega
          · rw [if_neg hfirst]
            have hno : (group complete n)[i - 7 * n - 1]? ≠ some dash := by
              intro hdash
              exact isBase32_ne_dash (group_letters h n _ (List.mem_of_getElem? hdash)) rfl
            simp only [hno, false_iff]
            omega

theorem dash_format (raw : Bytes) :
    dash :: formatRecoveryCode raw =
      (List.range 9).flatMap fun index => dash :: group (completeRecoveryCode raw) index := by
  rw [formatRecoveryCode]
  rfl

/-- The dashes of a displayed code stand after every six letters but the last ones. -/
theorem formatRecoveryCode_dashes {raw : Bytes} (h : raw.length = 32) (i : Nat) :
    (formatRecoveryCode raw).length = 62 ∧
    ((formatRecoveryCode raw)[i]? = some dash ↔ (i + 1) % 7 = 0 ∧ i < 56) := by
  have hlength : 6 * 9 ≤ (completeRecoveryCode raw).length := by
    rw [completeRecoveryCode_length h]
  obtain ⟨hlen, hplaces⟩ :=
    dashed_getElem? (completeRecoveryCode_letters raw) hlength (i + 1)
  rw [← dash_format, List.length_cons] at hlen
  rw [← dash_format, List.getElem?_cons_succ] at hplaces
  rw [hplaces]
  omega

/-- `grouped` says where dashes stand. -/
theorem grouped_iff {s : Bytes} (h : s.length = 62) :
    grouped s = true ↔ ∀ i : Nat, s[i]? = some dash ↔ (i + 1) % 7 = 0 ∧ i < 56 := by
  simp only [grouped, List.all_eq_true, Prod.forall, List.mem_zipIdx_iff_getElem?,
    Bool.or_eq_true, Bool.and_eq_true, decide_eq_true_eq]
  constructor
  · intro hall i
    constructor
    · intro hdash
      have hplace := hall dash i hdash
      simp only [ne_eq, not_true, and_false, or_false, and_true] at hplace
      exact hplace
    · intro hplace
      have hi : i < s.length := by omega
      have hvalue := hall s[i] i (List.getElem?_eq_getElem hi)
      rw [List.getElem?_eq_getElem hi]
      by_cases hdash : s[i] = dash
      · rw [hdash]
      · simp only [hdash, and_false, false_or, ne_eq, not_false_eq_true, and_true] at hvalue
        omega
  · intro hplaces value index hvalue
    have hplace := hplaces index
    rw [hvalue, Option.some.injEq] at hplace
    by_cases hdash : value = dash
    · exact Or.inl ⟨hplace.1 hdash, hdash⟩
    · right
      refine ⟨?_, hdash⟩
      by_cases hindex : (index + 1) % 7 = 0
      · right
        by_contra hless
        exact hdash (hplace.2 ⟨hindex, by omega⟩)
      · exact Or.inl hindex

theorem formatRecoveryCode_grouped {raw : Bytes} (h : raw.length = 32) :
    grouped (formatRecoveryCode raw) = true :=
  (grouped_iff (formatRecoveryCode_dashes h 0).1).2 fun i => (formatRecoveryCode_dashes h i).2

/-- Texts with dashes at the same places and the same letters are the same. -/
theorem eq_of_withoutDashes {s t : Bytes} (hlength : s.length = t.length)
    (hplaces : ∀ i : Nat, s[i]? = some dash ↔ t[i]? = some dash)
    (hletters : withoutDashes s = withoutDashes t) : s = t := by
  induction s generalizing t with
  | nil => exact (List.length_eq_zero_iff.1 hlength.symm).symm
  | cons b s ih =>
      cases t with
      | nil => simp at hlength
      | cons c t =>
          have hfirst := hplaces 0
          have hrest (i : Nat) := hplaces (i + 1)
          simp only [List.getElem?_cons_zero, Option.some.injEq] at hfirst
          simp only [List.getElem?_cons_succ] at hrest
          rw [List.length_cons, List.length_cons, Nat.add_right_cancel_iff] at hlength
          rw [withoutDashes, withoutDashes, List.filter_cons, List.filter_cons] at hletters
          by_cases hb : b = dash
          · have hc := hfirst.1 hb
            rw [hb, hc] at hletters ⊢
            rw [ih hlength hrest (by simpa [withoutDashes] using hletters)]
          · have hc : c ≠ dash := fun hc => hb (hfirst.2 hc)
            simp only [hb, hc, ne_eq, not_false_eq_true, decide_true, if_true,
              List.cons.injEq] at hletters
            rw [hletters.1, ih hlength hrest hletters.2]

/-! ## Upper case -/

theorem uppercase_letters {s : Bytes} (h : ∀ b ∈ s, isLower b = false) : uppercase s = s := by
  induction s with
  | nil => rfl
  | cons b s ih =>
      rw [List.forall_mem_cons] at h
      have hrest := ih h.2
      rw [uppercase] at hrest
      rw [uppercase, List.map_cons, hrest, toAsciiUppercase, h.1]
      rfl

theorem uppercase_length (s : Bytes) : (uppercase s).length = s.length := List.length_map ..

/-- What is no ASCII stays none. -/
theorem isAscii_uppercase (s : Bytes) : (uppercase s).all isAscii = s.all isAscii := by
  have hbyte (b : UInt8) : isAscii (toAsciiUppercase b) = isAscii b := by
    cases hlower : isLower b with
    | false => simp [toAsciiUppercase, hlower]
    | true =>
        rw [toAsciiUppercase, hlower, if_pos rfl]
        simp only [isLower, Bool.and_eq_true, decide_eq_true_eq, UInt8.le_iff_toNat_le,
          UInt8.reduceToNat] at hlower
        simp only [isAscii, decide_eq_decide, UInt8.lt_iff_toNat_lt, UInt8.toNat_sub,
          UInt8.reduceToNat]
        omega
  rw [uppercase, List.all_map]
  exact congrArg (List.all s) (funext hbyte)

theorem formatRecoveryCode_letters {raw : Bytes} (h : raw.length = 32) :
    ∀ b ∈ formatRecoveryCode raw, b = dash ∨ isBase32 b = true := by
  intro b hb
  by_cases hdash : b = dash
  · exact Or.inl hdash
  · right
    have hletter : b ∈ withoutDashes (formatRecoveryCode raw) :=
      List.mem_filter.2 ⟨hb, by simpa using hdash⟩
    rw [withoutDashes_format h] at hletter
    exact completeRecoveryCode_letters raw b hletter

/-- A displayed code is in upper case, and so are its letters alone. -/
theorem uppercase_shown {s : Bytes} (h : ∀ b ∈ s, b = dash ∨ isBase32 b = true) :
    uppercase s = s ∧ s.all isAscii = true := by
  have hbyte (b : UInt8) (hb : b = dash ∨ isBase32 b = true) :
      isLower b = false ∧ isAscii b = true := by
    cases hb with
    | inl hdash =>
        subst hdash
        decide
    | inr hletter => exact isBase32_plain hletter
  exact ⟨uppercase_letters fun b hb => (hbyte b (h b hb)).1,
    List.all_eq_true.2 fun b hb => (hbyte b (h b hb)).2⟩

/-! ## What is accepted -/

theorem canonicalRecoveryCode_eq_ok {typed canonical : Bytes} :
    canonicalRecoveryCode typed = .ok canonical ↔
      typed.length = 54 ∧ dash ∉ typed ∧ canonical = typed ∨
      typed.length = 62 ∧ grouped typed = true ∧ canonical = withoutDashes typed := by
  unfold canonicalRecoveryCode
  by_cases hplain : typed.length = 54 ∧ dash ∉ typed
  · rw [if_pos hplain, Except.ok.injEq]
    constructor
    · intro h
      exact Or.inl ⟨hplain.1, hplain.2, h.symm⟩
    · intro h
      cases h with
      | inl h => exact h.2.2.symm
      | inr h => omega
  · rw [if_neg hplain]
    by_cases hgrouped : typed.length = 62 ∧ grouped typed = true
    · rw [if_pos hgrouped, Except.ok.injEq]
      constructor
      · intro h
        exact Or.inr ⟨hgrouped.1, hgrouped.2, h.symm⟩
      · intro h
        cases h with
        | inl h => omega
        | inr h => exact h.2.2.symm
    · rw [if_neg hgrouped]
      constructor
      · intro h
        cases h
      · intro h
        cases h with
        | inl h => exact absurd ⟨h.1, h.2.1⟩ hplain
        | inr h => exact absurd ⟨h.1, h.2.1⟩ hgrouped

theorem parseRecoveryCode_eq_ok {raw secret : Bytes} :
    parseRecoveryCode raw = .ok secret ↔
      (raw ≠ [] ∧ raw.length ≤ RAW_RECOVERY_MAX_BYTES ∧ raw.all isAscii = true) ∧
      ∃ canonical, canonicalRecoveryCode (uppercase raw) = .ok canonical ∧
        canonical.length = 54 ∧ base32Decode (canonical.take 52) = some secret ∧
        (secret.length = 32 ∧ base32Encode secret = canonical.take 52) ∧
        withoutDashes (formatRecoveryCode secret) = canonical := by
  unfold parseRecoveryCode
  simp only [bind_ok_iff, demand_eq_ok, found_eq_ok, Bool.and_eq_true, decide_eq_true_eq, and_assoc]
  constructor
  · intro h
    obtain ⟨_, hne, hlen, hascii, canonical, hcanonical, _, h54, decoded, hdecoded, _, h32, hencode,
      _, hformat, hsame⟩ := h
    cases hsame
    exact ⟨hne, hlen, hascii, canonical, hcanonical, h54, hdecoded, h32, hencode, hformat⟩
  · intro h
    obtain ⟨hne, hlen, hascii, canonical, hcanonical, h54, hdecoded, h32, hencode, hformat⟩ := h
    exact ⟨(), hne, hlen, hascii, canonical, hcanonical, (), h54, secret, hdecoded, (), h32, hencode,
      (), hformat, rfl⟩

/-- What is accepted spells the code of what it is read as. -/
theorem parseRecoveryCode_spells {raw secret : Bytes} (h : parseRecoveryCode raw = .ok secret) :
    secret.length = 32 ∧ (uppercase raw = formatRecoveryCode secret ∨
      uppercase raw = withoutDashes (formatRecoveryCode secret)) := by
  obtain ⟨-, canonical, hcanonical, -, -, ⟨h32, -⟩, hformat⟩ := parseRecoveryCode_eq_ok.1 h
  refine ⟨h32, ?_⟩
  cases canonicalRecoveryCode_eq_ok.1 hcanonical with
  | inl hplain =>
      right
      rw [hformat, hplain.2.2]
  | inr hgrouped =>
      left
      obtain ⟨hlength, hdashes, hsame⟩ := hgrouped
      have hshown (i : Nat) := formatRecoveryCode_dashes h32 i
      apply eq_of_withoutDashes
      · rw [hlength, (hshown 0).1]
      · intro i
        rw [(grouped_iff hlength).1 hdashes, (hshown i).2]
      · rw [hformat, hsame]

/-- What spells a code, grouped or not, is read as its secret. -/
theorem parseRecoveryCode_of_spelled {raw secret : Bytes} (h32 : secret.length = 32)
    (h : uppercase raw = formatRecoveryCode secret ∨
      uppercase raw = withoutDashes (formatRecoveryCode secret)) :
    parseRecoveryCode raw = .ok secret := by
  have hcomplete := completeRecoveryCode_length h32
  have hletters : (base32Encode secret).length = 52 := by
    rw [base32Encode_length, h32]
  have htake : (completeRecoveryCode secret).take 52 = base32Encode secret := by
    rw [completeRecoveryCode, ← hletters, List.take_left]
  have hcanonical : canonicalRecoveryCode (uppercase raw) = .ok (completeRecoveryCode secret) := by
    rw [canonicalRecoveryCode_eq_ok]
    cases h with
    | inl hshown =>
        right
        rw [hshown]
        exact ⟨(formatRecoveryCode_dashes h32 0).1, formatRecoveryCode_grouped h32,
          (withoutDashes_format h32).symm⟩
    | inr hplain =>
        left
        rw [hplain, withoutDashes_format h32]
        refine ⟨hcomplete, ?_, rfl⟩
        intro hmem
        exact isBase32_ne_dash (completeRecoveryCode_letters secret _ hmem) rfl
  have hascii : (uppercase raw).all isAscii = true := by
    cases h with
    | inl hshown =>
        rw [hshown]
        exact (uppercase_shown (formatRecoveryCode_letters h32)).2
    | inr hplain =>
        rw [hplain, withoutDashes_format h32]
        exact (uppercase_shown fun b hb => Or.inr (completeRecoveryCode_letters secret b hb)).2
  have hlength : raw.length = 54 ∨ raw.length = 62 := by
    rw [← uppercase_length]
    cases h with
    | inl hshown => rw [hshown, (formatRecoveryCode_dashes h32 0).1]; exact Or.inr rfl
    | inr hplain => rw [hplain, withoutDashes_format h32]; exact Or.inl hcomplete
  rw [isAscii_uppercase] at hascii
  have hbound : raw.length ≤ RAW_RECOVERY_MAX_BYTES := by
    show raw.length ≤ 80
    omega
  have hne : raw ≠ [] := by
    intro hnil
    rw [hnil, List.length_nil] at hlength
    omega
  rw [parseRecoveryCode_eq_ok]
  refine ⟨⟨hne, hbound, hascii⟩, completeRecoveryCode secret, hcanonical, hcomplete, ?_, ?_, ?_⟩
  · rw [htake, base32Decode_encode]
  · exact ⟨h32, htake.symm⟩
  · exact withoutDashes_format h32

/-- A displayed code is read back; what is accepted is such a code, in either case, with the
dashes of all its groups or with none. -/
theorem parseRecoveryCode_exact :
    (∀ secret : Bytes, secret.length = 32 →
      parseRecoveryCode (formatRecoveryCode secret) = .ok secret) ∧
    (∀ raw secret : Bytes, parseRecoveryCode raw = .ok secret ↔
      secret.length = 32 ∧
      (uppercase raw = uppercase (formatRecoveryCode secret) ∨
        uppercase raw = uppercase (withoutDashes (formatRecoveryCode secret)))) := by
  have hupper {secret : Bytes} (h32 : secret.length = 32) :
      uppercase (formatRecoveryCode secret) = formatRecoveryCode secret ∧
        uppercase (withoutDashes (formatRecoveryCode secret)) =
          withoutDashes (formatRecoveryCode secret) := by
    rw [withoutDashes_format h32]
    exact ⟨(uppercase_shown (formatRecoveryCode_letters h32)).1,
      (uppercase_shown fun b hb => Or.inr (completeRecoveryCode_letters secret b hb)).1⟩
  constructor
  · intro secret h32
    exact parseRecoveryCode_of_spelled h32 (Or.inl (hupper h32).1)
  · intro raw secret
    constructor
    · intro h
      obtain ⟨h32, hspelled⟩ := parseRecoveryCode_spells h
      rw [(hupper h32).1, (hupper h32).2]
      exact ⟨h32, hspelled⟩
    · intro h
      obtain ⟨h32, hspelled⟩ := h
      rw [(hupper h32).1, (hupper h32).2] at hspelled
      exact parseRecoveryCode_of_spelled h32 hspelled

/-- A secret of 32 times the same byte. -/
theorem parseRecoveryCode_exact_even :
    parseRecoveryCode (formatRecoveryCode (List.replicate 32 0x5A)) =
      .ok (List.replicate 32 0x5A) :=
  parseRecoveryCode_exact.1 _ List.length_replicate

end YourCloud.App
