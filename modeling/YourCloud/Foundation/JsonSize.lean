import YourCloud.Foundation.JsonRead

/-!
# How long a written document is

The compact text of a tree is as long as its parts and the signs between them.
A sequence or a record costs one sign for each of its entries and one more, so
lengths are stated as sums over the entries, and a record that is left out or
moved to another place changes the length by what the sum says.

## Main results

* `size_array`, `size_record` — the length of a sequence and of a record.
* `size_quoted_le`, `size_numeral_le` — bounds for written strings and numbers.
-/

namespace YourCloud.Foundation.Json

/-- The length of the compact text. -/
def size (j : Json) : Nat := j.render.length

@[simp] theorem size_string (spelling : Bytes) : (string spelling).size = spelling.length + 2 := by
  rw [size, render, List.length_append, List.length_cons, List.length_singleton]

/-! ## Sequences and records -/

theorem renderElements_length {es : List Json} (h : es ≠ []) :
    (renderElements es).length + 1 = (es.map fun e => e.size + 1).sum := by
  induction es with
  | nil => exact absurd rfl h
  | cons e rest ih =>
      cases rest with
      | nil => rfl
      | cons e' rest =>
          have hrest := ih (List.cons_ne_nil _ _)
          rw [List.map_cons, List.sum_cons, ← hrest]
          simp only [renderElements, List.length_append, List.length_cons, size]
          omega

theorem renderMembers_length {ms : List (Bytes × Json)} (h : ms ≠ []) :
    (renderMembers ms).length + 1 = (ms.map fun m => m.1.length + m.2.size + 4).sum := by
  induction ms with
  | nil => exact absurd rfl h
  | cons m rest ih =>
      obtain ⟨name, value⟩ := m
      cases rest with
      | nil =>
          simp only [renderMembers, List.map_cons, List.map_nil, List.sum_cons, List.sum_nil,
            List.length_append, List.length_cons, size]
          omega
      | cons m' rest =>
          have hrest := ih (List.cons_ne_nil _ _)
          rw [List.map_cons, List.sum_cons, ← hrest]
          simp only [renderMembers, List.length_append, List.length_cons, size]
          omega

/-- Each element costs its own length and one sign. -/
theorem size_array {α : Type} (json : α → Json) {values : List α} (h : values ≠ []) :
    (array (values.map json)).size = (values.map fun a => (json a).size + 1).sum + 1 := by
  have hne : values.map json ≠ [] := fun hnil => h (List.map_eq_nil_iff.1 hnil)
  have hmap : (values.map json).map (fun e => e.size + 1) =
      values.map fun a => (json a).size + 1 := List.map_map
  rw [← hmap, ← renderElements_length hne, size, render, List.length_append, List.length_cons,
    List.length_singleton]

/-- What a field costs: nothing where it is left out. -/
def fieldSize (f : Bytes × Option Json) : Nat :=
  match f.2 with
  | none => 0
  | some value => f.1.length + value.size + 4

@[simp] theorem fieldSize_some (name : Bytes) (value : Json) :
    fieldSize (name, some value) = name.length + value.size + 4 := rfl

@[simp] theorem fieldSize_none (name : Bytes) : fieldSize (name, none) = 0 := rfl

theorem present_sum (fields : List (Bytes × Option Json)) :
    ((present fields).map fun m => m.1.length + m.2.size + 4).sum =
      (fields.map fieldSize).sum := by
  induction fields with
  | nil => rfl
  | cons f rest ih =>
      obtain ⟨name, value⟩ := f
      cases value with
      | none =>
          rw [List.map_cons, List.sum_cons, ← ih]
          exact (Nat.zero_add _).symm
      | some value =>
          rw [List.map_cons, List.sum_cons, ← ih]
          rfl

/-- Each field that is written costs its name, its value and four signs. -/
theorem size_record {fields : List (Bytes × Option Json)} (h : present fields ≠ []) :
    (object (present fields)).size = (fields.map fieldSize).sum + 1 := by
  rw [← present_sum, ← renderMembers_length h, size, render, List.length_append,
    List.length_cons, List.length_singleton]

/-- A record whose first field is always written. -/
theorem size_record_cons (name : Bytes) (value : Json) (rest : List (Bytes × Option Json)) :
    (object (present ((name, some value) :: rest))).size =
      (((name, some value) :: rest).map fieldSize).sum + 1 :=
  size_record (List.cons_ne_nil _ _)

theorem size_record_le (fields : List (Bytes × Option Json)) :
    (object (present fields)).size ≤ (fields.map fieldSize).sum + 2 := by
  by_cases h : present fields = []
  · rw [h]
    exact Nat.le_add_left _ _
  · rw [size_record h]
    exact Nat.le_succ _

/-! ## Strings and numbers -/

theorem size_quoted_le (html : Bool) (s : Bytes) : (quoted html s).size ≤ 6 * s.length + 2 := by
  rw [quoted, size_string]
  have := quote_length_le html s
  omega

theorem size_numeral_le {w n : Nat} (hw : 0 < w) (hn : n < 10 ^ w) : (numeral n).size ≤ w :=
  decimal_length hw hn

end YourCloud.Foundation.Json
