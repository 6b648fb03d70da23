import YourCloud.Foundation.JsonString

/-!
# Instants and their RFC 3339 texts

An instant is its number of nanoseconds since the first day of 1970, and its
text has the layout `2006-01-02T15:04:05.999999999Z07:00`.  Writing gives the
form in universal time whose fraction has no trailing zero.  Reading follows
the same layout and admits what it admits besides: an hour of one digit, a
comma for the point, any number of digits of a fraction, and an offset, of
which hours up to twenty-four and minutes up to sixty are taken.

## Main results

* `format_plain` — a written instant is printable ASCII.
-/

namespace YourCloud.Foundation

/-- Nanoseconds since 1970-01-01T00:00:00Z. -/
abbrev Instant := Int

namespace Rfc3339

/-! ## Days -/

/-- The year, month and day of a day counted from 1970-01-01.  Years are taken
to begin in March, in eras of four hundred. -/
def civil (days : Int) : Int × Nat × Nat :=
  let shifted := days + 719468
  let era := shifted / 146097
  let dayOfEra := (shifted % 146097).toNat
  let yearOfEra :=
    (dayOfEra - dayOfEra / 1460 + dayOfEra / 36524 - dayOfEra / 146096) / 365
  let dayOfYear := dayOfEra - (365 * yearOfEra + yearOfEra / 4 - yearOfEra / 100)
  let shiftedMonth := (5 * dayOfYear + 2) / 153
  let day := dayOfYear - (153 * shiftedMonth + 2) / 5 + 1
  let month := if shiftedMonth < 10 then shiftedMonth + 3 else shiftedMonth - 9
  (yearOfEra + era * 400 + (if month ≤ 2 then 1 else 0), month, day)

/-- The day of a date, counted from 1970-01-01. -/
def daysOf (year : Int) (month day : Nat) : Int :=
  let shifted := if month ≤ 2 then year - 1 else year
  let era := shifted / 400
  let yearOfEra := (shifted % 400).toNat
  let shiftedMonth := if 2 < month then month - 3 else month + 9
  let dayOfYear := (153 * shiftedMonth + 2) / 5 + day - 1
  let dayOfEra := yearOfEra * 365 + yearOfEra / 4 - yearOfEra / 100 + dayOfYear
  era * 146097 + dayOfEra - 719468

def isLeap (year : Nat) : Bool := year % 4 = 0 && (year % 100 ≠ 0 || year % 400 = 0)

def daysIn (year month : Nat) : Nat :=
  if month = 2 then (if isLeap year then 29 else 28)
  else if month = 4 ∨ month = 6 ∨ month = 9 ∨ month = 11 then 30
  else 31

/-! ## Writing -/

/-- A numeral of at least so many digits. -/
def padded (width n : Nat) : Bytes :=
  List.replicate (width - (decimal n).length) 0x30 ++ decimal n

/-- The fraction of a second, without trailing zeros. -/
def fraction (nanoseconds : Nat) : Bytes :=
  if nanoseconds = 0 then []
  else 0x2E :: ((padded 9 nanoseconds).reverse.dropWhile (· = 0x30)).reverse

def formatYear : Int → Bytes
  | .ofNat year => padded 4 year
  | .negSucc before => 0x2D :: padded 4 (before + 1)

/-- `t.UTC().Format(time.RFC3339Nano)` -/
def format (t : Instant) : Bytes :=
  let date := civil (t / 86400000000000)
  let rest := (t % 86400000000000).toNat
  let seconds := rest / 1000000000
  formatYear date.1 ++ 0x2D :: padded 2 date.2.1 ++ 0x2D :: padded 2 date.2.2 ++
    0x54 :: padded 2 (seconds / 3600) ++ 0x3A :: padded 2 (seconds / 60 % 60) ++
    0x3A :: padded 2 (seconds % 60) ++ fraction (rest % 1000000000) ++ [0x5A]

/-! ## Reading -/

/-- A number of exactly so many digits, and what follows it. -/
def digits (width : Nat) (s : Bytes) : Option (Nat × Bytes) :=
  if (s.take width).length = width then
    (ofDecimal (s.take width)).map fun n => (n, s.drop width)
  else none

/-- A number of two digits, or of one where the next byte is none. -/
def oneOrTwo (s : Bytes) : Option (Nat × Bytes) :=
  (digits 2 s).or (digits 1 s)

def literal (b : UInt8) : Bytes → Option Bytes
  | [] => none
  | c :: rest => if c = b then some rest else none

/-- The value of a fraction's digits: nine of them count. -/
def nanoseconds (ds : Bytes) : Nat :=
  (ofDecimal (ds.take 9)).getD 0 * 10 ^ (9 - (ds.take 9).length)

/-- The nanoseconds of a fraction, if there is one. -/
def readFraction (s : Bytes) : Nat × Bytes :=
  match s with
  | point :: rest =>
      if (point = 0x2E || point = 0x2C) && (rest.head?.any isDigit) then
        (nanoseconds (rest.takeWhile isDigit), rest.dropWhile isDigit)
      else (0, s)
  | [] => (0, s)

/-- The offset from universal time, in seconds. -/
def readZone (s : Bytes) : Option (Int × Bytes) :=
  match s with
  | 0x5A :: rest => some (0, rest)
  | sign :: rest => do
      let (hours, rest) ← digits 2 rest
      let rest ← literal 0x3A rest
      let (minutes, rest) ← digits 2 rest
      let offset : Int := (hours * 60 + minutes) * 60
      if 24 < hours ∨ 60 < minutes then none
      else if sign = 0x2B then some (offset, rest)
      else if sign = 0x2D then some (-offset, rest)
      else none
  | [] => none

/-- `time.Parse(time.RFC3339Nano, value)` -/
def parse (value : Bytes) : Option Instant := do
  let (year, rest) ← digits 4 value
  let rest ← literal 0x2D rest
  let (month, rest) ← digits 2 rest
  let rest ← literal 0x2D rest
  let (day, rest) ← digits 2 rest
  let rest ← literal 0x54 rest
  let (hour, rest) ← oneOrTwo rest
  let rest ← literal 0x3A rest
  let (minute, rest) ← digits 2 rest
  let rest ← literal 0x3A rest
  let (second, rest) ← digits 2 rest
  let (nanos, rest) := readFraction rest
  let (offset, rest) ← readZone rest
  if month = 0 ∨ 12 < month ∨ 23 < hour ∨ 59 < minute ∨ 59 < second then none
  else if day = 0 ∨ daysIn year month < day ∨ rest ≠ [] then none
  else
    some ((daysOf year month day * 86400 + hour * 3600 + minute * 60 + second - offset) *
      1000000000 + nanos)

/-! ## What is written is printable -/

private theorem isPlain_digit {b : UInt8} (h : isDigit b = true) : isPlain b = true := by
  simp only [isDigit, isPlain, Bool.and_eq_true, decide_eq_true_eq, UInt8.le_iff_toNat_le,
    UInt8.lt_iff_toNat_lt, ne_eq, ← UInt8.toNat_inj] at h ⊢
  have := h.1
  have := h.2
  simp at *
  omega

private theorem plain_append {s t : Bytes} (hs : Plain s) (ht : Plain t) : Plain (s ++ t) := by
  intro b hb
  rcases List.mem_append.1 hb with h | h
  · exact hs b h
  · exact ht b h

private theorem plain_cons {b : UInt8} {s : Bytes} (hb : isPlain b = true) (hs : Plain s) :
    Plain (b :: s) := by
  intro c hc
  rcases List.mem_cons.1 hc with rfl | h
  · exact hb
  · exact hs c h

private theorem plain_padded (width n : Nat) : Plain (padded width n) := by
  apply plain_append
  · intro b hb
    rw [List.eq_of_mem_replicate hb]
    decide
  · exact fun b hb => isPlain_digit (decimal_digits n b hb)

private theorem plain_fraction (n : Nat) : Plain (fraction n) := by
  unfold fraction
  split
  · exact fun b hb => absurd hb List.not_mem_nil
  · apply plain_cons (by decide)
    intro b hb
    have hmem : b ∈ (padded 9 n).reverse :=
      (List.dropWhile_suffix _).subset (List.mem_reverse.1 hb)
    exact plain_padded 9 n b (List.mem_reverse.1 hmem)

private theorem plain_formatYear (year : Int) : Plain (formatYear year) := by
  cases year with
  | ofNat year => exact plain_padded 4 year
  | negSucc before => exact plain_cons (by decide) (plain_padded 4 _)

theorem format_plain (t : Instant) : Plain (format t) := by
  have two := plain_padded 2
  have hzone : Plain (text "Z") := by
    have hall : (text "Z").all isPlain = true := by decide
    exact List.all_eq_true.1 hall
  refine plain_append (plain_append ?_ (plain_fraction _)) hzone
  refine plain_append ?_ (plain_cons (by decide) (two _))
  refine plain_append ?_ (plain_cons (by decide) (two _))
  refine plain_append ?_ (plain_cons (by decide) (two _))
  refine plain_append ?_ (plain_cons (by decide) (two _))
  exact plain_append (plain_formatYear _) (plain_cons (by decide) (two _))

example : format 1721649600123456000 = text "2024-07-22T12:00:00.123456Z" := by decide

example : parse (text "2024-07-22T14:00:00,123456+02:00") = some 1721649600123456000 := by
  decide

end Rfc3339

end YourCloud.Foundation
