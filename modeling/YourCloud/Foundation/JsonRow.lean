import YourCloud.Foundation.JsonSize

/-!
# Records of texts and numbers

A record whose fields are texts and whole numbers is given by its columns: a
name and a kind for each field, in the order they are written.  What is written
of a row of cells under its columns is read back, and it is read under other
columns only if they have all of its names.

## Main results

* `decode_row` — a written row is read back from its text.
* `decode_row_cell` — what is read of a written row under other columns, cell by
  cell.
* `size_row_le` — how long a written row is.
-/

namespace YourCloud.Foundation.Json

/-- What a field holds. -/
inductive Column where
  | text
  | number
  deriving DecidableEq, Repr

inductive Cell where
  | text (s : Bytes)
  | number (n : Int)
  deriving DecidableEq, Repr

def Column.read : Column → Json → Option Cell
  | text, j => j.readString.map Cell.text
  | number, j => j.readInt.map Cell.number

namespace Cell

def column : Cell → Column
  | text _ => .text
  | number _ => .number

def json : Cell → Json
  | text s => quoted false s
  | number n => numeralInt n

/-- A cell that its writing keeps. -/
def Representable : Cell → Prop
  | text s => Valid s
  | number n => -2 ^ 63 ≤ n ∧ n < 2 ^ 63

theorem read_json {cell : Cell} (h : cell.Representable) :
    cell.column.read cell.json = some cell := by
  cases cell with
  | text s =>
      show (readString (quoted false s)).map text = some (text s)
      rw [readString_quoted_valid false h]
      rfl
  | number n =>
      show (readInt (numeralInt n)).map number = some (number n)
      rw [readInt_numeralInt h.1 h.2]
      rfl

theorem sound_json (cell : Cell) : Sound (some cell.json) := by
  cases cell with
  | text s => exact sound_quoted false s
  | number n => exact sound_numeralInt n

end Cell

/-! ## Rows -/

variable {columns columns' : List (Bytes × Column)} {cells cells' : List Cell}

/-- The cells of a record under its columns. -/
def readRow (columns : List (Bytes × Column)) (j : Json) : Option (List Cell) := do
  let ms ← j.members (columns.map Prod.fst)
  columns.mapM fun column => column.2.read (field ms column.1)

def rowFields (columns : List (Bytes × Column)) (cells : List Cell) :
    List (Bytes × Option Json) :=
  List.zipWith (fun column cell => (column.1, some cell.json)) columns cells

/-- The record with the given cells. -/
def row (columns : List (Bytes × Column)) (cells : List Cell) : Json :=
  .object (present (rowFields columns cells))

/-- Cells that can be written under the columns. -/
def Fits (columns : List (Bytes × Column)) (cells : List Cell) : Prop :=
  List.Forall₂ (fun column cell => cell.column = column.2 ∧ cell.Representable) columns cells

theorem fits_of_kinds (hkinds : cells.map Cell.column = columns.map Prod.snd)
    (h : ∀ cell ∈ cells, cell.Representable) : Fits columns cells := by
  induction columns generalizing cells with
  | nil =>
      rw [List.map_eq_nil_iff.1 hkinds]
      exact .nil
  | cons column columns ih =>
      cases cells with
      | nil => cases hkinds
      | cons cell cells =>
          rw [List.map_cons, List.map_cons, List.cons.injEq] at hkinds
          obtain ⟨hcell, hcells⟩ := List.forall_mem_cons.1 h
          exact .cons ⟨hkinds.1, hcell⟩ (ih hkinds.2 hcells)

theorem rowFields_names (h : Fits columns cells) :
    (rowFields columns cells).map Prod.fst = columns.map Prod.fst := by
  induction h with
  | nil => rfl
  | cons hcell hrest ih => exact congrArg (List.cons _) ih

theorem sound_rowFields (columns : List (Bytes × Column)) (cells : List Cell) :
    ∀ f ∈ rowFields columns cells, Sound f.2 := by
  intro f hf
  obtain ⟨n, hn, rfl⟩ := List.mem_iff_getElem.1 hf
  simp only [rowFields, List.getElem_zipWith]
  exact Cell.sound_json _

/-- Each column of a written row holds its cell. -/
theorem lookup_row (hnames : Names (columns.map Prod.fst)) (h : Fits columns cells)
    {column : Bytes × Column} {cell : Cell} (hmem : (column, cell) ∈ columns.zip cells) :
    (present (rowFields columns cells)).lookup column.1 = some cell.json := by
  have hnodup : ((present (rowFields columns cells)).map Prod.fst).Nodup := by
    have hsub := present_names (rowFields columns cells)
    rw [rowFields_names h] at hsub
    exact hsub.nodup hnames.nodup
  have hfield : (column.1, some cell.json) ∈ rowFields columns cells := by
    rw [rowFields, ← List.map_uncurry_zip_eq_zipWith]
    exact List.mem_map_of_mem (f := Function.uncurry _) hmem
  have hpresent : (column.1, cell.json) ∈ present (rowFields columns cells) :=
    List.mem_filterMap.2 ⟨_, hfield, rfl⟩
  exact lookup_of_nodup hnodup hpresent

/-- The fields of a record whose names are open. -/
def openFields : Json → Option (List (Bytes × Json))
  | .null => some []
  | .object ms => some (ms.map fun m => (unquote m.1, m.2))
  | _ => none

/-! ## Written and read -/

private theorem mapM_eq_some {α β : Type} {f : α → Option β} {as : List α} {bs : List β} :
    as.mapM f = some bs ↔ List.Forall₂ (fun a b => f a = some b) as bs := by
  induction as generalizing bs with
  | nil =>
      rw [List.mapM_nil, List.forall₂_nil_left_iff]
      exact ⟨fun h => (Option.some.inj h).symm, fun h => h ▸ rfl⟩
  | cons a as ih =>
      rw [List.mapM_cons, List.forall₂_cons_left_iff]
      constructor
      · intro h
        obtain ⟨b, hb, h⟩ := Option.bind_eq_some_iff.1 h
        obtain ⟨rest, hrest, h⟩ := Option.bind_eq_some_iff.1 h
        exact ⟨b, rest, hb, ih.1 hrest, (Option.some.inj h).symm⟩
      · rintro ⟨b, rest, hb, hrest, rfl⟩
        exact bind_read hb (bind_read (ih.2 hrest) rfl)

/-- What is read of the text of a written row is read of the row. -/
theorem decode_written {α : Type} (read : Json → Option α) (hnames : Names (columns.map Prod.fst))
    (h : Fits columns cells) :
    decode read (row columns cells).render = read (row columns cells) := by
  have hdecode := decode_present read _ (rowFields_names h) hnames
    (sound_rowFields columns cells) (w := []) rfl
  rwa [List.append_nil] at hdecode

/-- Under whatever names, a written row is read from the members it was written with. -/
theorem members_row (hnames : Names (columns.map Prod.fst)) (h : Fits columns cells)
    {known : List Bytes} {ms : List (Bytes × Json)}
    (hread : (row columns cells).members known = some ms) :
    ms = present (rowFields columns cells) := by
  have hown := members_present _ (rowFields_names h) hnames
  rw [members] at hown
  rw [row, members] at hread
  split at hown
  · split at hread
    · exact (Option.some.inj hread).symm.trans (Option.some.inj hown)
    · cases hread
  · cases hown

theorem readRow_row (hnames : Names (columns.map Prod.fst)) (h : Fits columns cells) :
    readRow columns (row columns cells) = some cells := by
  have hown := members_present _ (rowFields_names h) hnames
  have hcells : columns.mapM (fun column =>
      column.2.read (field (present (rowFields columns cells)) column.1)) = some cells := by
    rw [mapM_eq_some, List.forall₂_iff_zip]
    refine ⟨h.length_eq, fun {column cell} hmem => ?_⟩
    obtain ⟨hkind, hcell⟩ := (List.forall₂_iff_zip.1 h).2 hmem
    rw [field, lookup_row hnames h hmem, ← hkind]
    exact Cell.read_json hcell
  rw [readRow, row]
  exact bind_read hown hcells

/-- A written row is read back from its text. -/
theorem decode_row (hnames : Names (columns.map Prod.fst)) (h : Fits columns cells) :
    decode (readRow columns) (row columns cells).render = some cells :=
  (decode_written _ hnames h).trans (readRow_row hnames h)

/-- What is read of a written row under other columns. -/
theorem decode_row_cell (hnames : Names (columns.map Prod.fst)) (h : Fits columns cells)
    (hread : decode (readRow columns') (row columns cells).render = some cells')
    {column : Bytes × Column} {cell cell' : Cell} (hmem : (column, cell) ∈ columns.zip cells)
    (hmem' : (column, cell') ∈ columns'.zip cells') : cell' = cell := by
  rw [decode_written _ hnames h] at hread
  obtain ⟨ms, hmembers, hcells⟩ := Option.bind_eq_some_iff.1 hread
  rw [members_row hnames h hmembers, mapM_eq_some] at hcells
  have hcell := (List.forall₂_iff_zip.1 hcells).2 hmem'
  obtain ⟨hkind, hown⟩ := (List.forall₂_iff_zip.1 h).2 hmem
  rw [field, lookup_row hnames h hmem, ← hkind] at hcell
  exact Option.some.inj (hcell.symm.trans (Cell.read_json hown))

/-- With its names left open, a written row is read as the same members. -/
theorem openFields_row (hnames : Names (columns.map Prod.fst)) (h : Fits columns cells) :
    openFields (row columns cells) = some (present (rowFields columns cells)) := by
  have hown := members_present _ (rowFields_names h) hnames
  rw [members] at hown
  split at hown
  · exact hown
  · cases hown

/-! ## Sizes -/

/-- A row costs its names, its cells and four signs for each. -/
theorem size_row_le (columns : List (Bytes × Column)) (cells : List Cell) :
    (row columns cells).size ≤ (columns.map fun column => column.1.length + 4).sum +
      (cells.map fun cell => cell.json.size).sum + 2 := by
  have hfields : ((rowFields columns cells).map fieldSize).sum ≤
      (columns.map fun column => column.1.length + 4).sum +
        (cells.map fun cell => cell.json.size).sum := by
    induction columns generalizing cells with
    | nil => exact Nat.zero_le _
    | cons column columns ih =>
        cases cells with
        | nil => exact Nat.zero_le _
        | cons cell cells =>
            have hrest := ih cells
            simp only [rowFields, List.zipWith_cons_cons, List.map_cons, List.sum_cons,
              fieldSize_some] at hrest ⊢
            omega
  have hsize := size_record_le (rowFields columns cells)
  rw [row]
  omega

end YourCloud.Foundation.Json
