import Mathlib.Data.List.DropRight
import YourCloud.Foundation.Bytes

/-!
# Unit files

A unit file is read line by line: a line is a comment, is empty, opens a section, or sets
a key of the section it stands in.  A line that ends on a backslash goes on in the next
one, and white space around a key and around its value is none of them.  So a value that
carries a line break, or ends on a backslash, would set something else than it says.

## Main results

* `read_render` — a file written line by line is read as it was written, as long as
  every value stays within its line.
-/

namespace YourCloud.Foundation.UnitFile

abbrev newline : UInt8 := 0x0A

abbrev backslash : UInt8 := 0x5C

/-- One setting, and the section it stands in. -/
structure Directive where
  group : Bytes
  key : Bytes
  value : Bytes
  deriving DecidableEq, Repr

/-! ## Reading -/

def isBlank (b : UInt8) : Bool := b = 0x20 || b = 0x09 || b = 0x0D

/-- A text without the white space around it. -/
def strip (s : Bytes) : Bytes := (s.dropWhile isBlank).rdropWhile isBlank

/-- A line that is passed over, even within one that goes on. -/
def isComment (line : Bytes) : Bool :=
  (line.dropWhile isBlank).head?.any fun b => b = 0x23 || b = 0x3B

/-- The lines, each with those it goes on in. -/
def joined : List Bytes → List Bytes
  | [] => []
  | line :: rest =>
      if line.getLast? = some backslash then
        match joined rest with
        | [] => [line.dropLast ++ [0x20]]
        | next :: more => (line.dropLast ++ 0x20 :: next) :: more
      else line :: joined rest

/-- What a line says. -/
inductive Entry where
  | nothing
  | opens (group : Bytes)
  | sets (key value : Bytes)
  deriving DecidableEq, Repr

/-- What a line that is no comment says, where it says something. -/
def entry (line : Bytes) : Option Entry :=
  match strip line with
  | [] => some .nothing
  | b :: s =>
      if b = 0x5B then if s.getLast? = some 0x5D then some (.opens s.dropLast) else none
      else
        match (b :: s).dropWhile (· ≠ 0x3D) with
        | [] => none
        | _ :: value => some (.sets (strip ((b :: s).takeWhile (· ≠ 0x3D))) (strip value))

/-- The settings of some lines, from within a section. -/
def readLines : Option Bytes → List Bytes → Option (List Directive)
  | _, [] => some []
  | group, line :: rest => do
      match ← entry line with
      | .nothing => readLines group rest
      | .opens name => readLines (some name) rest
      | .sets key value => do
          let name ← group
          return ⟨name, key, value⟩ :: (← readLines group rest)

def read (content : Bytes) : Option (List Directive) :=
  readLines none (joined ((content.splitOn newline).filter fun line => !isComment line))

/-! ## Writing -/

/-- What one line is written for. -/
inductive Piece where
  | comment (words : Bytes)
  | gap
  | group (name : Bytes)
  | setting (key value : Bytes)
  deriving DecidableEq, Repr

def Piece.line : Piece → Bytes
  | .comment words => 0x23 :: words
  | .gap => []
  | .group name => 0x5B :: (name ++ [0x5D])
  | .setting key value => key ++ 0x3D :: value

/-- Lines, each of them ended. -/
def ended (ls : List Bytes) : Bytes := ls.flatMap fun line => line ++ [newline]

def render (pieces : List Piece) : Bytes := ended (pieces.map Piece.line)

/-- What a file says, as it was meant. -/
def meant : Option Bytes → List Piece → Option (List Directive)
  | _, [] => some []
  | group, .comment _ :: rest => meant group rest
  | group, .gap :: rest => meant group rest
  | _, .group name :: rest => meant (some name) rest
  | group, .setting key value :: rest => do
      let name ← group
      return ⟨name, key, value⟩ :: (← meant group rest)

/-- Settings of one section, in a row. -/
def settings (pairs : List (Bytes × Bytes)) : List Piece :=
  pairs.map fun pair => .setting pair.1 pair.2

def inGroup (name : Bytes) (pairs : List (Bytes × Bytes)) : List Directive :=
  pairs.map fun pair => ⟨name, pair.1, pair.2⟩

theorem meant_settings (name : Bytes) (pairs : List (Bytes × Bytes)) (rest : List Piece) :
    meant (some name) (settings pairs ++ rest) =
      (meant (some name) rest).map (inGroup name pairs ++ ·) := by
  induction pairs with
  | nil =>
      show meant (some name) rest = _
      cases meant (some name) rest with
      | none => rfl
      | some directives => rfl
  | cons pair pairs ih =>
      have hsettings : settings (pair :: pairs) ++ rest =
          .setting pair.1 pair.2 :: (settings pairs ++ rest) := rfl
      rw [hsettings, meant, ih]
      cases meant (some name) rest with
      | none => rfl
      | some directives => rfl

/-- A value that stays within its line. -/
structure Fits (value : Bytes) : Prop where
  newline : UnitFile.newline ∉ value
  head : ∀ b ∈ value.head?, isBlank b = false
  last : ∀ b ∈ value.getLast?, isBlank b = false ∧ b ≠ backslash

/-- A key: letters alone. -/
def isKey (key : Bytes) : Bool := key ≠ [] && key.all fun b => isUpper b || isLower b

/-- A piece that stays within its line. -/
def Piece.Fits : Piece → Prop
  | .comment words => newline ∉ words
  | .gap => True
  | .group name => newline ∉ name
  | .setting key value => isKey key = true ∧ UnitFile.Fits value

/-- Settings of which each stays within its line. -/
theorem settings_fit {pairs : List (Bytes × Bytes)}
    (h : ∀ pair ∈ pairs, isKey pair.1 = true ∧ Fits pair.2) : ∀ piece ∈ settings pairs, piece.Fits :=
  List.forall_mem_map.2 h

/-! ## What was written is read -/

theorem splitOn_ended {ls : List Bytes} (h : ∀ line ∈ ls, newline ∉ line) :
    (ended ls).splitOn newline = ls ++ [[]] := by
  induction ls with
  | nil => rfl
  | cons line ls ih =>
      rw [List.forall_mem_cons] at h
      have hended : ended (line :: ls) = line ++ newline :: ended ls := by simp [ended]
      rw [hended, List.splitOn_append_cons_self_of_not_mem h.1, ih h.2, List.cons_append]

/-- Lines of which none ends on a backslash go on nowhere. -/
theorem joined_eq {ls : List Bytes} (h : ∀ line ∈ ls, line.getLast? ≠ some backslash) :
    joined ls = ls := by
  induction ls with
  | nil => rfl
  | cons line ls ih =>
      rw [List.forall_mem_cons] at h
      rw [joined, if_neg h.1, ih h.2]

theorem strip_eq {s : Bytes} (hhead : ∀ b ∈ s.head?, isBlank b = false)
    (hlast : ∀ b ∈ s.getLast?, isBlank b = false) : strip s = s := by
  cases s with
  | nil => rfl
  | cons b s =>
      have hopening : isBlank b = false := hhead b rfl
      rw [strip, List.dropWhile_cons_of_neg (by simp [hopening]), List.rdropWhile_eq_self_iff]
      intro hne
      have hclosing := hlast _ (List.getLast?_eq_some_getLast hne)
      simp [hclosing]

theorem Fits.strip {value : Bytes} (h : Fits value) : strip value = value :=
  strip_eq h.head fun b hb => (h.last b hb).1

/-- A byte that neither ends a line nor is stripped off one. -/
def isTight (b : UInt8) : Bool := !isBlank b && b ≠ newline && b ≠ backslash

/-- A text of these alone. -/
def Tight (value : Bytes) : Prop := ∀ b ∈ value, isTight b = true

instance (value : Bytes) : Decidable (Tight value) :=
  List.decidableBAll (fun b => isTight b = true) value

theorem Tight.append {s t : Bytes} (hs : Tight s) (ht : Tight t) : Tight (s ++ t) :=
  List.forall_mem_append.2 ⟨hs, ht⟩

/-- It stays within its line. -/
theorem Tight.fits {value : Bytes} (h : Tight value) : Fits value := by
  have hparts : ∀ b ∈ value, isBlank b = false ∧ b ≠ UnitFile.newline ∧ b ≠ backslash := by
    intro b hb
    simpa [isTight, and_assoc] using h b hb
  refine ⟨fun hmem => (hparts _ hmem).2.1 rfl, ?_, ?_⟩
  · exact fun b hb => (hparts b (List.mem_of_mem_head? hb)).1
  · intro b hb
    have hlast := hparts b (List.mem_of_getLast? hb)
    exact ⟨hlast.1, hlast.2.2⟩

/-- What stands between two of these only has to be without a line break. -/
theorem Fits.between {a b : UInt8} {value : Bytes} (ha : isTight a = true) (hb : isTight b = true)
    (h : UnitFile.newline ∉ value) : Fits (a :: (value ++ [b])) := by
  simp only [isTight, Bool.and_eq_true, Bool.not_eq_true', decide_eq_true_eq, and_assoc] at ha hb
  refine ⟨?_, ?_, ?_⟩
  · rw [List.mem_cons, List.mem_append, List.mem_singleton]
    rintro (hopening | hmem | hclosing)
    · exact ha.2.1 hopening.symm
    · exact h hmem
    · exact hb.2.1 hclosing.symm
  · intro c hc
    obtain rfl := Option.some.inj hc
    exact ha.1
  · intro c hc
    rw [← List.cons_append, List.getLast?_concat] at hc
    obtain rfl := Option.some.inj hc
    exact ⟨hb.1, hb.2.2⟩

/-- A letter is none of the bytes a line is read by. -/
theorem isKey_ne {key : Bytes} (h : isKey key = true) {b : UInt8} (hb : b ∈ key) (c : UInt8)
    (hc : (isUpper c || isLower c) = false) : b ≠ c := by
  rw [isKey, Bool.and_eq_true, List.all_eq_true] at h
  have hletter := h.2 b hb
  rintro rfl
  rw [hc] at hletter
  cases hletter

theorem isKey_blank {key : Bytes} (h : isKey key = true) {b : UInt8} (hb : b ∈ key) :
    isBlank b = false := by
  simp [isBlank, isKey_ne h hb 0x20 (by decide), isKey_ne h hb 0x09 (by decide),
    isKey_ne h hb 0x0D (by decide)]

theorem isKey_ne_nil {key : Bytes} (h : isKey key = true) : key ≠ [] := by
  rw [isKey, Bool.and_eq_true, decide_eq_true_eq] at h
  exact h.1

/-! ### One line -/

theorem entry_gap : entry [] = some .nothing := rfl

theorem entry_group (name : Bytes) : entry (Piece.line (.group name)) = some (.opens name) := by
  have hstrip : strip (0x5B :: (name ++ [0x5D])) = 0x5B :: (name ++ [0x5D]) := by
    apply strip_eq
    · intro b hb
      obtain rfl := Option.some.inj hb
      decide
    · intro b hb
      rw [← List.cons_append, List.getLast?_concat] at hb
      obtain rfl := Option.some.inj hb
      decide
  rw [Piece.line, entry, hstrip]
  simp

theorem entry_setting {key value : Bytes} (hkey : isKey key = true) (hvalue : Fits value) :
    entry (Piece.line (.setting key value)) = some (.sets key value) := by
  cases key with
  | nil => exact absurd rfl (isKey_ne_nil hkey)
  | cons b key =>
      have hne : ∀ c ∈ b :: key, (decide (c ≠ 0x3D)) = true := by
        intro c hc
        exact decide_eq_true (isKey_ne hkey hc 0x3D (by decide))
      have hbracket : b ≠ 0x5B := isKey_ne hkey List.mem_cons_self 0x5B (by decide)
      have hline : strip (b :: key ++ 0x3D :: value) = b :: key ++ 0x3D :: value := by
        apply strip_eq
        · intro c hc
          obtain rfl := Option.some.inj hc
          exact isKey_blank hkey List.mem_cons_self
        · intro c hc
          rw [List.getLast?_append_cons] at hc
          cases value with
          | nil =>
              obtain rfl := Option.some.inj hc
              decide
          | cons d value => exact (hvalue.last c hc).1
      have hstripped : strip (b :: key) = b :: key := by
        apply strip_eq
        · intro c hc
          exact isKey_blank hkey (List.mem_of_mem_head? hc)
        · intro c hc
          exact isKey_blank hkey (List.mem_of_getLast? hc)
      rw [Piece.line, entry, hline]
      simp only [List.cons_append, if_neg hbracket]
      rw [← List.cons_append, List.dropWhile_append_of_pos hne, List.takeWhile_append_of_pos hne]
      simp [hstripped, hvalue.strip]

theorem isComment_line {piece : Piece} (h : piece.Fits) :
    isComment piece.line = true ↔ ∃ words, piece = .comment words := by
  cases piece with
  | comment words => simp [Piece.line, isComment, isBlank]
  | gap => simp [Piece.line, isComment]
  | group name => simp [Piece.line, isComment, isBlank]
  | setting key value =>
      cases key with
      | nil => exact absurd rfl (isKey_ne_nil h.1)
      | cons b key =>
          have hblank := isKey_blank h.1 List.mem_cons_self
          have hhash := isKey_ne h.1 List.mem_cons_self 0x23 (by decide)
          have hsemicolon := isKey_ne h.1 List.mem_cons_self 0x3B (by decide)
          simp [Piece.line, isComment, hblank, hhash, hsemicolon]

theorem newline_line {piece : Piece} (h : piece.Fits) : newline ∉ piece.line := by
  cases piece with
  | comment words => exact List.not_mem_cons_of_ne_of_not_mem (by decide) h
  | gap => exact List.not_mem_nil
  | group name =>
      rw [Piece.line, List.mem_cons, List.mem_append, List.mem_singleton]
      rintro (hopening | hname | hclosing)
      · exact absurd hopening (by decide)
      · exact h hname
      · exact absurd hclosing (by decide)
  | setting key value =>
      rw [Piece.line, List.mem_append, List.mem_cons]
      rintro (hkey | hequals | hvalue)
      · exact isKey_ne h.1 hkey newline (by decide) rfl
      · exact absurd hequals (by decide)
      · exact h.2.newline hvalue

/-- No line goes on in the next one, comments apart. -/
theorem last_line {piece : Piece} (h : piece.Fits) (hcomment : isComment piece.line = false) :
    piece.line.getLast? ≠ some backslash := by
  cases piece with
  | comment words => simp [Piece.line, isComment, isBlank] at hcomment
  | gap => simp [Piece.line]
  | group name => rw [Piece.line, ← List.cons_append, List.getLast?_concat]; decide
  | setting key value =>
      rw [Piece.line, List.getLast?_append_cons]
      cases value with
      | nil => decide
      | cons b value => exact fun hlast => (h.2.last backslash hlast).2 rfl

/-! ### The whole file -/

theorem readLines_pieces (group : Option Bytes) {pieces : List Piece}
    (h : ∀ piece ∈ pieces, piece.Fits) :
    readLines group (((pieces.map Piece.line).filter fun line => !isComment line) ++ [[]]) =
      meant group pieces := by
  induction pieces generalizing group with
  | nil => rfl
  | cons piece pieces ih =>
      rw [List.forall_mem_cons] at h
      have hkept := isComment_line h.1
      rw [List.map_cons]
      cases piece with
      | comment words =>
          have hcomment := hkept.2 ⟨words, rfl⟩
          rw [List.filter_cons_of_neg (by simp [hcomment]), ih group h.2, meant]
      | gap =>
          rw [List.filter_cons_of_pos (by decide), List.cons_append, readLines, Piece.line, entry_gap]
          exact ih group h.2
      | group name =>
          have hcomment : isComment (Piece.line (.group name)) = false := by
            simpa using hkept
          rw [List.filter_cons_of_pos (by simp [hcomment]), List.cons_append, readLines, entry_group]
          exact ih (some name) h.2
      | setting key value =>
          have hcomment : isComment (Piece.line (.setting key value)) = false := by
            simpa using hkept
          rw [List.filter_cons_of_pos (by simp [hcomment]), List.cons_append, readLines,
            entry_setting h.1.1 h.1.2, meant, ← ih group h.2]
          rfl

/-- A file whose pieces stay within their lines is read as it was meant. -/
theorem read_render {pieces : List Piece} (h : ∀ piece ∈ pieces, piece.Fits) :
    read (render pieces) = meant none pieces := by
  have hsplit : (render pieces).splitOn newline = pieces.map Piece.line ++ [[]] := by
    apply splitOn_ended
    rw [List.forall_mem_map]
    exact fun piece hpiece => newline_line (h piece hpiece)
  have hempty : [([] : Bytes)].filter (fun line => !isComment line) = [[]] := by decide
  rw [read, hsplit, List.filter_append, hempty, joined_eq, readLines_pieces none h]
  intro line hline
  rw [List.mem_append, List.mem_singleton] at hline
  cases hline with
  | inl hmem =>
      obtain ⟨hmem, hkept⟩ := List.mem_filter.1 hmem
      obtain ⟨piece, hpiece, rfl⟩ := List.mem_map.1 hmem
      exact last_line (h piece hpiece) (by simpa using hkept)
  | inr hempty =>
      rw [hempty]
      decide

end YourCloud.Foundation.UnitFile
