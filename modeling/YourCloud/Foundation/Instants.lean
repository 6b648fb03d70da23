import YourCloud.Foundation.Rfc3339
import Mathlib.Data.List.TakeWhile
import Mathlib.Data.Nat.Digits.Lemmas
import Mathlib.Tactic.Ring

/-!
# Written instants are read back

Four hundred years of days fall into centuries, spans of four years and years,
each of which but the last has the same length; what the calendar computes by
corrected divisions is the place in that partition.  The text of an instant
whose year has four digits is read as that instant.

## Main results

* `daysOf_civil` — the date of a day names that day.
* `parse_format`, `parse_format_iff` — a written instant is read back, where its year
  has four digits and only there.
* `format_length` — such a text has at most thirty bytes.
* `valid_of_parse` — what is read as an instant is ASCII.
-/

namespace YourCloud.Foundation

namespace Rfc3339

/-! ## Dates -/

/-- The place of a day in an era: century, span of four years, year and day. -/
private theorem day_split (day : Nat) (h : day < 146097) :
    ∃ c q k d, day = 36524 * c + 1461 * q + 365 * k + d ∧ c ≤ 3 ∧ q ≤ 24 ∧ k ≤ 3 ∧ d ≤ 365 ∧
      (d = 365 → k = 3) ∧ (q = 24 ∧ k = 3 ∧ d = 365 → c = 3) := by
  let c := min (day / 36524) 3
  let s := (day - 36524 * c) % 1461
  let k := min (s / 365) 3
  refine ⟨c, (day - 36524 * c) / 1461, k, s - 365 * k, ?_⟩
  omega

/-- The corrected division gives the year of that place. -/
private theorem year_split {day c q k d : Nat} (h : day = 36524 * c + 1461 * q + 365 * k + d)
    (hc : c ≤ 3) (hq : q ≤ 24) (hk : k ≤ 3) (hd : d ≤ 365) (hlast : d = 365 → k = 3)
    (hend : q = 24 ∧ k = 3 ∧ d = 365 → c = 3) :
    (day - day / 1460 + day / 36524 - day / 146096) / 365 = 100 * c + 4 * q + k := by
  have hcentury : day / 36524 - day / 146096 = c := by omega
  have hle : day / 146096 ≤ day / 36524 := by omega
  have hspan : day / 1460 = 25 * c + q + (q + 24 * c + 365 * k + d) / 1460 := by omega
  generalize (q + 24 * c + 365 * k + d) / 1460 = w at hspan
  have hsum : day - day / 1460 + day / 36524 - day / 146096 =
      365 * (100 * c + 4 * q + k) + (d - w) := by omega
  rw [hsum]
  omega

private theorem year_start {c q k : Nat} (hq : q ≤ 24) (hk : k ≤ 3) :
    365 * (100 * c + 4 * q + k) + (100 * c + 4 * q + k) / 4 - (100 * c + 4 * q + k) / 100 =
      36524 * c + 1461 * q + 365 * k := by omega

/-- What the day of an era says: the year of the era, which starts on or before
the day, and the day of that year, which has a last one only in leap years. -/
private theorem dayOfEra_year (day : Nat) (h : day < 146097) :
    let year := (day - day / 1460 + day / 36524 - day / 146096) / 365
    let start := 365 * year + year / 4 - year / 100
    year ≤ 399 ∧ start ≤ day ∧ day - start ≤ 365 ∧
      (day - start = 365 → (year + 1) % 4 = 0 ∧ ((year + 1) % 100 ≠ 0 ∨ (year + 1) % 400 = 0)) := by
  obtain ⟨c, q, k, d, hday, hc, hq, hk, hd, hlast, hend⟩ := day_split day h
  dsimp only
  rw [year_split hday hc hq hk hd hlast hend, year_start hq hk]
  refine ⟨by omega, by omega, by omega, fun hfull => ?_⟩
  have hk' : k = 3 := by omega
  subst hk'
  omega

/-- The length of a month of the shifted year, its last one apart. -/
private theorem month_length {m : Nat} (h : m < 11) (year : Nat) :
    daysIn year (if m < 10 then m + 3 else m - 9) = (153 * (m + 1) + 2) / 5 - (153 * m + 2) / 5 := by
  have hcases : m = 0 ∨ m = 1 ∨ m = 2 ∨ m = 3 ∨ m = 4 ∨ m = 5 ∨ m = 6 ∨ m = 7 ∨ m = 8 ∨ m = 9 ∨
      m = 10 := by omega
  rcases hcases with rfl | rfl | rfl | rfl | rfl | rfl | rfl | rfl | rfl | rfl | rfl <;> rfl

private theorem daysIn_february {year : Nat} (h : year % 4 = 0 ∧ (year % 100 ≠ 0 ∨ year % 400 = 0)) :
    daysIn year 2 = 29 := by
  have hleap : isLeap year = true := by
    simp only [isLeap, Bool.and_eq_true, Bool.or_eq_true, decide_eq_true_eq]
    exact h
  rw [daysIn, if_pos rfl, if_pos hleap]

/-- Eras are leap alike. -/
private theorem leap_era {year y : Nat} {era : Int} (h : (y : Int) + era * 400 + 1 = year)
    (hfour : (y + 1) % 4 = 0) (hcentury : (y + 1) % 100 ≠ 0 ∨ (y + 1) % 400 = 0) :
    year % 4 = 0 ∧ (year % 100 ≠ 0 ∨ year % 400 = 0) := by omega

/-- The date of a day names that day, and its parts are those of a calendar. -/
theorem daysOf_civil (days : Int) :
    daysOf (civil days).1 (civil days).2.1 (civil days).2.2 = days ∧
      (1 ≤ (civil days).2.1 ∧ (civil days).2.1 ≤ 12) ∧ 1 ≤ (civil days).2.2 ∧
      ∀ year : Nat, (civil days).1 = year → (civil days).2.2 ≤ daysIn year (civil days).2.1 := by
  have hday : ((days + 719468) % 146097).toNat < 146097 := by omega
  obtain ⟨hyear, hstart, hlength, hleap⟩ := dayOfEra_year _ hday
  unfold civil
  dsimp only
  generalize hdoe : ((days + 719468) % 146097).toNat = doe at *
  generalize hera : (days + 719468) / 146097 = era at *
  generalize (doe - doe / 1460 + doe / 36524 - doe / 146096) / 365 = y at *
  have hwhole : days = era * 146097 + doe - 719468 := by omega
  have hfirst : 365 * y + y / 4 - y / 100 = y * 365 + y / 4 - y / 100 := by omega
  generalize hdoy : doe - (365 * y + y / 4 - y / 100) = doy at *
  generalize hm : (5 * doy + 2) / 153 = m at *
  have hm11 : m ≤ 11 := by omega
  have hmonth : (153 * m + 2) / 5 ≤ doy := by omega
  refine ⟨?_, ?_, by omega, ?_⟩
  · unfold daysOf
    dsimp only
    by_cases h10 : m < 10
    · rw [if_pos h10, if_neg (by omega), if_neg (by omega), if_pos (by omega)]
      have hback : (((y : Int) + era * 400 + 0) % 400).toNat = y := by omega
      have hera' : ((y : Int) + era * 400 + 0) / 400 = era := by omega
      rw [hback, hera', Nat.add_sub_cancel]
      omega
    · rw [if_neg h10, if_pos (by omega), if_pos (by omega), if_neg (by omega)]
      have hback : (((y : Int) + era * 400 + 1 - 1) % 400).toNat = y := by omega
      have hera' : ((y : Int) + era * 400 + 1 - 1) / 400 = era := by omega
      rw [hback, hera', Nat.sub_add_cancel (by omega)]
      omega
  · split
    · omega
    · omega
  · intro year hyear'
    by_cases h11 : m < 11
    · rw [month_length h11]
      omega
    · have hm' : m = 11 := by omega
      subst hm'
      have hfeb : (if (11 : Nat) < 10 then 11 + 3 else 11 - 9) = 2 := rfl
      rw [hfeb, if_pos (by omega)] at hyear'
      by_cases hfull : doy = 365
      · obtain ⟨hfour, hcentury⟩ := hleap hfull
        have hlong : daysIn year 2 = 29 := daysIn_february (leap_era hyear' hfour hcentury)
        show doy - (153 * 11 + 2) / 5 + 1 ≤ daysIn year 2
        omega
      · have hshort : 28 ≤ daysIn year 2 := by
          rw [daysIn, if_pos rfl]
          split
          · decide
          · decide
        show doy - (153 * 11 + 2) / 5 + 1 ≤ daysIn year 2
        omega

/-! ## Numerals -/

/-- The value of a run of digits. -/
private def value (s : Bytes) : Nat := s.foldl (fun n b => 10 * n + digitValue b) 0

private theorem ofDecimal_value {s : Bytes} (hne : s ≠ []) (hs : ∀ b ∈ s, isDigit b = true) :
    ofDecimal s = some (value s) :=
  if_pos ⟨hne, List.all_eq_true.2 hs⟩

private theorem value_decimal (n : Nat) : value (decimal n) = n := by
  have h := ofDecimal_value (decimal_ne_nil n) (decimal_digits n)
  rw [ofDecimal_decimal] at h
  exact (Option.some.inj h).symm

private theorem value_zeros (k : Nat) (s : Bytes) :
    value (List.replicate k 0x30 ++ s) = value s := by
  induction k with
  | zero => rfl
  | succ k ih => exact ih

private theorem value_shift (s : Bytes) (k : Nat) :
    value (s ++ List.replicate k 0x30) = value s * 10 ^ k := by
  induction k with
  | zero =>
      rw [List.replicate_zero, List.append_nil]
      omega
  | succ k ih =>
      have hlast : value (s ++ List.replicate k 0x30 ++ [0x30]) =
          10 * value (s ++ List.replicate k 0x30) + 0 := by
        unfold value
        rw [List.foldl_concat]
        rfl
      rw [List.replicate_succ', ← List.append_assoc, hlast, ih, Nat.pow_succ]
      ring

theorem padded_length {w n : Nat} (hw : 0 < w) (hn : n < 10 ^ w) : (padded w n).length = w := by
  have hlength := decimal_length hw hn
  rw [padded, List.length_append, List.length_replicate]
  omega

private theorem padded_digits (w n : Nat) : ∀ b ∈ padded w n, isDigit b = true := by
  intro b hb
  rcases List.mem_append.1 hb with hb | hb
  · rw [List.eq_of_mem_replicate hb]
    decide
  · exact decimal_digits n b hb

private theorem padded_value (w n : Nat) : value (padded w n) = n := by
  rw [padded, value_zeros, value_decimal]

private theorem padded_ne_nil (w n : Nat) : padded w n ≠ [] :=
  List.append_ne_nil_of_right_ne_nil _ (decimal_ne_nil n)

/-- A padded numeral is read to its end. -/
theorem digits_padded {w n : Nat} (hw : 0 < w) (hn : n < 10 ^ w) (rest : Bytes) :
    digits w (padded w n ++ rest) = some (n, rest) := by
  have hlength := padded_length hw hn
  have htake : (padded w n ++ rest).take w = padded w n := List.take_left' hlength
  have hdrop : (padded w n ++ rest).drop w = rest := List.drop_left' hlength
  rw [digits, htake, hdrop, if_pos hlength,
    ofDecimal_value (padded_ne_nil w n) (padded_digits w n), padded_value]
  rfl

/-! ## Fractions -/

/-- The digits of a fraction with its trailing zeros, and how many those are. -/
private theorem fraction_split {n : Nat} (hn : n ≠ 0) (hlt : n < 10 ^ 9) :
    ∃ ds k, fraction n = 0x2E :: ds ∧ ds ≠ [] ∧ (∀ b ∈ ds, isDigit b = true) ∧
      ds.length + k = 9 ∧ value ds * 10 ^ k = n := by
  let isZero : UInt8 → Bool := fun b => b = 0x30
  let ds := ((padded 9 n).reverse.dropWhile isZero).reverse
  let zeros := ((padded 9 n).reverse.takeWhile isZero).reverse
  have hsplit : ds ++ zeros = padded 9 n := by
    rw [← List.reverse_append, List.takeWhile_append_dropWhile, List.reverse_reverse]
  have hzeros : zeros = List.replicate zeros.length 0x30 := by
    apply List.eq_replicate_length.2
    intro b hb
    have := List.mem_takeWhile_imp (List.mem_reverse.1 hb)
    exact of_decide_eq_true this
  have hvalue : value ds * 10 ^ zeros.length = n := by
    rw [← value_shift, ← hzeros, hsplit, padded_value]
  refine ⟨ds, zeros.length, ?_, ?_, ?_, ?_, hvalue⟩
  · rw [fraction, if_neg hn]
  · intro hnil
    rw [hnil] at hvalue
    have hzero : 0 * 10 ^ zeros.length = n := hvalue
    omega
  · intro b hb
    apply padded_digits 9 n
    rw [← hsplit]
    exact List.mem_append_left _ hb
  · have hlength := congrArg List.length hsplit
    rw [List.length_append, padded_length (by decide) hlt] at hlength
    exact hlength

theorem readFraction_fraction {n : Nat} (hlt : n < 10 ^ 9) :
    readFraction (fraction n ++ [0x5A]) = (n, [0x5A]) := by
  by_cases hn : n = 0
  · subst hn
    rfl
  · obtain ⟨ds, k, hfraction, hne, hdigits, hlength, hvalue⟩ := fraction_split hn hlt
    rw [hfraction]
    have hhead : (ds ++ [0x5A]).head?.any isDigit = true := by
      cases ds with
      | nil => exact absurd rfl hne
      | cons b ds => exact hdigits b List.mem_cons_self
    have hnot : ∀ b ∈ [(0x5A : UInt8)], ¬ isDigit b = true := by
      intro b hb
      rw [List.mem_singleton.1 hb]
      decide
    have htake : (ds ++ [0x5A]).takeWhile isDigit = ds := by
      rw [List.takeWhile_append_of_pos hdigits]
      exact List.append_nil ds
    have hdrop : (ds ++ [0x5A]).dropWhile isDigit = [0x5A] := by
      rw [List.dropWhile_append_of_pos hdigits]
      rfl
    have hvalues : nanoseconds ds = n := by
      have htake9 : ds.take 9 = ds := List.take_of_length_le (by omega)
      have hk : 9 - ds.length = k := by omega
      rw [nanoseconds, htake9, ofDecimal_value hne hdigits, hk]
      exact hvalue
    rw [List.cons_append, readFraction, hhead, htake, hdrop, hvalues]
    rfl

/-! ## Instants -/

/-- The year of an instant, in universal time. -/
def yearOf (t : Instant) : Int := (civil (t / 86400000000000)).1

/-- The layout has four digits for a year. -/
def Writable (t : Instant) : Prop := 0 ≤ yearOf t ∧ yearOf t ≤ 9999

instance (t : Instant) : Decidable (Writable t) := inferInstanceAs (Decidable (_ ∧ _))

/-- An instant is the sum of its parts. -/
private theorem instant_parts (t : Int) {rest : Nat}
    (hrest : (t % 86400000000000).toNat = rest) :
    (t / 86400000000000 * 86400 + (rest / 1000000000 / 3600 : Nat) * 3600 +
        (rest / 1000000000 / 60 % 60 : Nat) * 60 + (rest / 1000000000 % 60 : Nat) - 0) *
      1000000000 + (rest % 1000000000 : Nat) = t := by
  omega

private theorem bind_some_eq {α β : Type} {x : Option α} {a : α} {f : α → Option β}
    {b : Option β} (hx : x = some a) (hf : f a = b) : x >>= f = b := by
  rw [hx]
  exact hf

private theorem daysIn_le (year month : Nat) : daysIn year month ≤ 31 := by
  unfold daysIn
  split
  · split
    · decide
    · decide
  · split
    · decide
    · decide

/-- A written instant is read back. -/
theorem parse_format {t : Instant} (h : Writable t) : parse (format t) = some t := by
  obtain ⟨hlow, hhigh⟩ := h
  obtain ⟨hdays, ⟨hmonth, hmonth'⟩, hday, hlast⟩ := daysOf_civil (t / 86400000000000)
  obtain ⟨year, hyear⟩ := Int.eq_ofNat_of_zero_le hlow
  have hlast := hlast year hyear
  have hyear : (civil (t / 86400000000000)).1 = year := hyear
  have hin := daysIn_le year (civil (t / 86400000000000)).2.1
  have hyearlt : year < 10 ^ 4 := by
    have : yearOf t = year := hyear
    omega
  rw [hyear] at hdays
  unfold format
  dsimp only
  rw [hyear]
  generalize hcivil : civil (t / 86400000000000) = date at *
  obtain ⟨y, month, day⟩ := date
  dsimp only at *
  generalize hrest : (t % 86400000000000).toNat = rest at *
  have hrestlt : rest < 86400000000000 := by omega
  have hwrite : formatYear (year : Int) = padded 4 year := rfl
  rw [hwrite]
  simp only [List.append_assoc, List.cons_append]
  have hy := digits_padded (w := 4) (by decide) hyearlt
  have hm := digits_padded (w := 2) (n := month) (by decide) (by omega)
  have hd := digits_padded (w := 2) (n := day) (by decide) (by omega)
  have hh := digits_padded (w := 2) (n := rest / 1000000000 / 3600) (by decide) (by omega)
  have hn := digits_padded (w := 2) (n := rest / 1000000000 / 60 % 60) (by decide) (by omega)
  have hs := digits_padded (w := 2) (n := rest / 1000000000 % 60) (by decide) (by omega)
  have hf := readFraction_fraction (n := rest % 1000000000) (by omega)
  have hhour : ∀ r, oneOrTwo (padded 2 (rest / 1000000000 / 3600) ++ r) =
      some (rest / 1000000000 / 3600, r) := by
    intro r
    rw [oneOrTwo, hh]
    rfl
  have hl : ∀ b r, literal b (b :: r) = some r := fun b r => if_pos rfl
  unfold parse
  refine bind_some_eq (hy _) ?_
  refine bind_some_eq (hl _ _) ?_
  refine bind_some_eq (hm _) ?_
  refine bind_some_eq (hl _ _) ?_
  refine bind_some_eq (hd _) ?_
  refine bind_some_eq (hl _ _) ?_
  refine bind_some_eq (hhour _) ?_
  refine bind_some_eq (hl _ _) ?_
  refine bind_some_eq (hn _) ?_
  refine bind_some_eq (hl _ _) ?_
  refine bind_some_eq (hs _) ?_
  dsimp only
  rw [hf]
  refine bind_some_eq (a := ((0 : Int), [])) rfl ?_
  dsimp only
  rw [if_neg (by omega), if_neg (by simp; omega), hdays]
  exact congrArg some (instant_parts t hrest)

private theorem fraction_length {n : Nat} (hn : n < 10 ^ 9) : (fraction n).length ≤ 10 := by
  unfold fraction
  split
  · exact Nat.zero_le _
  · have hpadded := padded_length (w := 9) (by decide) hn
    have hdrop := ((padded 9 n).reverse.dropWhile_suffix (· = 0x30)).length_le
    rw [List.length_reverse] at hdrop
    rw [List.length_cons, List.length_reverse]
    omega

/-- A written instant is short. -/
theorem format_length {t : Instant} (h : Writable t) : (format t).length ≤ 30 := by
  obtain ⟨hlow, hhigh⟩ := h
  obtain ⟨-, ⟨hmonth, hmonth'⟩, hday, hlast⟩ := daysOf_civil (t / 86400000000000)
  obtain ⟨year, hyear⟩ := Int.eq_ofNat_of_zero_le hlow
  have hlast := hlast year hyear
  have hin := daysIn_le year (civil (t / 86400000000000)).2.1
  have hyearlt : year < 10 ^ 4 := by omega
  have hyear : (civil (t / 86400000000000)).1 = year := hyear
  have hfraction := fraction_length (n := (t % 86400000000000).toNat % 1000000000) (by omega)
  have hy := padded_length (w := 4) (by decide) hyearlt
  have hm := padded_length (w := 2) (n := (civil (t / 86400000000000)).2.1) (by decide) (by omega)
  have hd := padded_length (w := 2) (n := (civil (t / 86400000000000)).2.2) (by decide) (by omega)
  have hh := padded_length (w := 2)
    (n := (t % 86400000000000).toNat / 1000000000 / 3600) (by decide) (by omega)
  have hn := padded_length (w := 2)
    (n := (t % 86400000000000).toNat / 1000000000 / 60 % 60) (by decide) (by omega)
  have hs := padded_length (w := 2)
    (n := (t % 86400000000000).toNat / 1000000000 % 60) (by decide) (by omega)
  have hwrite : formatYear (year : Int) = padded 4 year := rfl
  rw [format, hyear, hwrite]
  simp only [List.append_assoc, List.cons_append, List.length_append, List.length_cons,
    List.length_nil, hy, hm, hd, hh, hn, hs]
  omega

/-- What is read begins with four digits and a hyphen. -/
private theorem parse_year {s : Bytes} {t : Instant} (h : parse s = some t) :
    ∃ year rest, s = year ++ 0x2D :: rest ∧ year.length = 4 ∧ ∀ b ∈ year, isDigit b = true := by
  unfold parse at h
  obtain ⟨⟨n, rest⟩, hyear, h⟩ := Option.bind_eq_some_iff.1 h
  obtain ⟨rest', hliteral, -⟩ := Option.bind_eq_some_iff.1 h
  unfold digits at hyear
  split at hyear
  · rename_i hlength
    obtain ⟨m, hm, heq⟩ := Option.map_eq_some_iff.1 hyear
    obtain ⟨-, rfl⟩ := Prod.mk.inj heq
    have hdigits : ∀ b ∈ s.take 4, isDigit b = true := by
      unfold ofDecimal at hm
      split at hm
      · rename_i hall
        exact List.all_eq_true.1 hall.2
      · cases hm
    have hdrop : s.drop 4 = 0x2D :: rest' := by
      cases hs : s.drop 4 with
      | nil =>
          rw [hs] at hliteral
          cases hliteral
      | cons c tail =>
          rw [hs, literal] at hliteral
          split at hliteral
          · rename_i hc
            rw [hc, Option.some.inj hliteral]
          · cases hliteral
    refine ⟨s.take 4, rest', ?_, hlength, hdigits⟩
    rw [← hdrop, List.take_append_drop]
  · cases hyear

/-- Only the instants of years of four digits are read back. -/
theorem writable_of_parse_format {t u : Instant} (h : parse (format t) = some u) :
    Writable t := by
  obtain ⟨year, rest, heq, hlength, hdigits⟩ := parse_year h
  have hyear : ∃ tail, format t = formatYear (yearOf t) ++ 0x2D :: tail := by
    unfold format yearOf
    simp only [List.append_assoc, List.cons_append]
    exact ⟨_, rfl⟩
  obtain ⟨tail, htail⟩ := hyear
  rw [htail] at heq
  have hfifth : (formatYear (yearOf t) ++ 0x2D :: tail)[4]? = some 0x2D := by
    rw [heq, List.getElem?_append_right hlength.le, hlength]
    rfl
  unfold Writable
  cases hy : yearOf t with
  | negSucc before =>
      rw [hy] at heq
      cases year with
      | nil => cases hlength
      | cons b year =>
          obtain ⟨rfl, -⟩ := List.cons.inj heq
          have := hdigits _ List.mem_cons_self
          cases this
  | ofNat year =>
      refine ⟨Int.natCast_nonneg year, ?_⟩
      by_contra hlarge
      have hlong : 4 < (padded 4 year).length := by
        have hdecimal : 4 < (decimal year).length := by
          have hne : year ≠ 0 := by
            rintro rfl
            exact hlarge (by decide)
          unfold decimal
          rw [if_neg hne, List.length_map, List.length_reverse, Nat.lt_digits_length_iff (by decide)]
          have : ¬ (year : Int) ≤ 9999 := hlarge
          omega
        rw [padded, List.length_append]
        omega
      rw [hy] at hfifth
      have hin : (padded 4 year ++ 0x2D :: tail)[4]? = some 0x2D := hfifth
      rw [List.getElem?_append_left hlong] at hin
      have := padded_digits 4 year _ (List.mem_of_getElem? hin)
      cases this

theorem parse_format_iff {t u : Instant} : parse (format t) = some u ↔ Writable t ∧ u = t := by
  constructor
  · intro h
    have hwritable := writable_of_parse_format h
    rw [parse_format hwritable] at h
    exact ⟨hwritable, (Option.some.inj h).symm⟩
  · rintro ⟨hwritable, rfl⟩
    exact parse_format hwritable

/-! ## What is read is ASCII -/

private theorem digit_ascii {b : UInt8} (h : isDigit b = true) : b < 0x80 := by
  simp only [isDigit, Bool.and_eq_true, decide_eq_true_eq, UInt8.le_iff_toNat_le] at h
  rw [UInt8.lt_iff_toNat_lt]
  have := h.2
  simp at *
  omega

/-- A reading took some ASCII bytes off the front of a text. -/
private def Takes (s rest : Bytes) : Prop := ∃ front, s = front ++ rest ∧ ∀ b ∈ front, b < 0x80

private theorem Takes.refl (s : Bytes) : Takes s s := ⟨[], rfl, fun _ hb => absurd hb List.not_mem_nil⟩

private theorem Takes.trans {s t u : Bytes} (hst : Takes s t) (htu : Takes t u) : Takes s u := by
  obtain ⟨front, rfl, hfront⟩ := hst
  obtain ⟨middle, rfl, hmiddle⟩ := htu
  refine ⟨front ++ middle, (List.append_assoc _ _ _).symm, fun b hb => ?_⟩
  rcases List.mem_append.1 hb with hb | hb
  · exact hfront b hb
  · exact hmiddle b hb

private theorem Takes.cons {b : UInt8} (hb : b < 0x80) (s : Bytes) : Takes (b :: s) s :=
  ⟨[b], rfl, fun c hc => by rwa [List.mem_singleton.1 hc]⟩

private theorem digits_takes {w n : Nat} {s rest : Bytes} (h : digits w s = some (n, rest)) :
    Takes s rest := by
  unfold digits at h
  split at h
  · obtain ⟨m, hm, heq⟩ := Option.map_eq_some_iff.1 h
    obtain ⟨-, rfl⟩ := Prod.mk.inj heq
    refine ⟨s.take w, (List.take_append_drop w s).symm, fun b hb => ?_⟩
    unfold ofDecimal at hm
    split at hm
    · rename_i hdigits
      exact digit_ascii (List.all_eq_true.1 hdigits.2 b hb)
    · cases hm
  · cases h

private theorem oneOrTwo_takes {n : Nat} {s rest : Bytes} (h : oneOrTwo s = some (n, rest)) :
    Takes s rest := by
  rcases Option.or_eq_some_iff.1 h with h | ⟨-, h⟩
  · exact digits_takes h
  · exact digits_takes h

private theorem literal_takes {b : UInt8} (hb : b < 0x80) {s rest : Bytes}
    (h : literal b s = some rest) : Takes s rest := by
  cases s with
  | nil => cases h
  | cons c s =>
      by_cases hc : c = b
      · have hrest : literal b (c :: s) = some s := if_pos hc
        rw [hrest] at h
        rw [← Option.some.inj h]
        exact Takes.cons (hc ▸ hb) s
      · have hnone : literal b (c :: s) = none := if_neg hc
        rw [hnone] at h
        cases h

private theorem readFraction_takes (s : Bytes) : Takes s (readFraction s).2 := by
  unfold readFraction
  split
  · rename_i point rest
    split
    · rename_i hpoint
      rw [Bool.and_eq_true, Bool.or_eq_true, decide_eq_true_eq, decide_eq_true_eq] at hpoint
      have hascii : point < 0x80 := by
        rcases hpoint.1 with rfl | rfl
        · decide
        · decide
      apply (Takes.cons hascii rest).trans
      exact ⟨rest.takeWhile isDigit, List.takeWhile_append_dropWhile.symm,
        fun b hb => digit_ascii (List.mem_takeWhile_imp hb)⟩
    · exact Takes.refl _
  · exact Takes.refl _

private theorem readZone_takes {offset : Int} {s rest : Bytes}
    (h : readZone s = some (offset, rest)) : Takes s rest := by
  unfold readZone at h
  split at h
  · obtain ⟨-, rfl⟩ := Prod.mk.inj (Option.some.inj h)
    exact Takes.cons (by decide) _
  · rename_i sign tail _
    simp only [Option.bind_eq_bind, Option.bind_eq_some_iff] at h
    obtain ⟨⟨hours, s₁⟩, hhours, s₂, hcolon, ⟨minutes, s₃⟩, hminutes, h⟩ := h
    have htail : Takes tail s₃ :=
      (digits_takes hhours).trans ((literal_takes (by decide) hcolon).trans (digits_takes hminutes))
    dsimp only at h
    split at h
    · cases h
    · split at h
      · rename_i hplus
        obtain ⟨-, rfl⟩ := Prod.mk.inj (Option.some.inj h)
        exact (Takes.cons (hplus ▸ by decide) tail).trans htail
      · split at h
        · rename_i hminus
          obtain ⟨-, rfl⟩ := Prod.mk.inj (Option.some.inj h)
          exact (Takes.cons (hminus ▸ by decide) tail).trans htail
        · cases h
  · cases h

/-- What is read as an instant is ASCII, so JSON carries it. -/
theorem valid_of_parse {s : Bytes} {t : Instant} (h : parse s = some t) : Valid s := by
  unfold parse at h
  obtain ⟨⟨year, s₁⟩, hyear, h⟩ := Option.bind_eq_some_iff.1 h
  obtain ⟨s₂, h₂, h⟩ := Option.bind_eq_some_iff.1 h
  obtain ⟨⟨month, s₃⟩, hmonth, h⟩ := Option.bind_eq_some_iff.1 h
  obtain ⟨s₄, h₄, h⟩ := Option.bind_eq_some_iff.1 h
  obtain ⟨⟨day, s₅⟩, hday, h⟩ := Option.bind_eq_some_iff.1 h
  obtain ⟨s₆, h₆, h⟩ := Option.bind_eq_some_iff.1 h
  obtain ⟨⟨hour, s₇⟩, hhour, h⟩ := Option.bind_eq_some_iff.1 h
  obtain ⟨s₈, h₈, h⟩ := Option.bind_eq_some_iff.1 h
  obtain ⟨⟨minute, s₉⟩, hminute, h⟩ := Option.bind_eq_some_iff.1 h
  obtain ⟨s₁₀, h₁₀, h⟩ := Option.bind_eq_some_iff.1 h
  obtain ⟨⟨second, s₁₁⟩, hsecond, h⟩ := Option.bind_eq_some_iff.1 h
  obtain ⟨⟨offset, s₁₂⟩, hzone, h⟩ := Option.bind_eq_some_iff.1 h
  dsimp only at h
  split at h
  · cases h
  · split at h
    · cases h
    · rename_i hend
      have hnil : s₁₂ = [] := by
        by_contra hne
        exact hend (.inr (.inr hne))
      have htakes : Takes s s₁₂ :=
        (digits_takes hyear).trans <| (literal_takes (by decide) h₂).trans <|
        (digits_takes hmonth).trans <| (literal_takes (by decide) h₄).trans <|
        (digits_takes hday).trans <| (literal_takes (by decide) h₆).trans <|
        (oneOrTwo_takes hhour).trans <| (literal_takes (by decide) h₈).trans <|
        (digits_takes hminute).trans <| (literal_takes (by decide) h₁₀).trans <|
        (digits_takes hsecond).trans <| (readFraction_takes s₁₁).trans (readZone_takes hzone)
      obtain ⟨front, hfront, hascii⟩ := htakes
      rw [hfront, hnil, List.append_nil]
      exact valid_ascii hascii

end Rfc3339

end YourCloud.Foundation
