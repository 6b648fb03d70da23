import YourCloud.Foundation.JsonString
import Mathlib.Data.List.TakeWhile

/-!
# JSON documents

A document is read into its tree, in which strings and numbers keep the
spelling they were received with: what a string stands for is `unquote` of it,
and the tree alone is enough to write the document again without its white
space.  Reading is a recursive descent over fuel; `parse` gives it more than
any document needs.

## Main results

* `parseValue_render` — a tree of spelled strings and well-formed numbers is read
  back from its compact text.
-/

namespace YourCloud.Foundation

/-- A JSON value with the spellings of its strings and numbers. -/
inductive Json where
  | null
  | bool (value : Bool)
  | number (literal : Bytes)
  | string (spelling : Bytes)
  | array (elements : List Json)
  | object (members : List (Bytes × Json))

namespace Json

/-! ## Writing -/

mutual

/-- The compact text of a value. -/
def render : Json → Bytes
  | .null => text "null"
  | .bool true => text "true"
  | .bool false => text "false"
  | .number literal => literal
  | .string spelling => 0x22 :: spelling ++ [0x22]
  | .array elements => 0x5B :: renderElements elements ++ [0x5D]
  | .object members => 0x7B :: renderMembers members ++ [0x7D]

def renderElements : List Json → Bytes
  | [] => []
  | [value] => render value
  | value :: rest => render value ++ 0x2C :: renderElements rest

def renderMembers : List (Bytes × Json) → Bytes
  | [] => []
  | [(name, value)] => 0x22 :: name ++ 0x22 :: 0x3A :: render value
  | (name, value) :: rest =>
      0x22 :: name ++ 0x22 :: 0x3A :: render value ++ 0x2C :: renderMembers rest

end

/-! ## Numbers -/

/-- Where a scanner stands inside a number. -/
inductive Numeral where
  | start
  | minus
  | zero
  | digits
  | point
  | fraction
  | exponent
  | exponentSign
  | exponentDigits
  deriving DecidableEq, Repr

/-- One byte of a number. -/
def numeralStep (q : Numeral) (b : UInt8) : Option Numeral :=
  let digit := isDigit b
  let exponent := b = 0x65 || b = 0x45
  match q with
  | .start =>
      if b = 0x2D then some .minus
      else if b = 0x30 then some .zero
      else if digit then some .digits
      else none
  | .minus => if b = 0x30 then some .zero else if digit then some .digits else none
  | .zero => if b = 0x2E then some .point else if exponent then some .exponent else none
  | .digits =>
      if digit then some .digits
      else if b = 0x2E then some .point
      else if exponent then some .exponent
      else none
  | .point => if digit then some .fraction else none
  | .fraction =>
      if digit then some .fraction else if exponent then some .exponent else none
  | .exponent =>
      if b = 0x2B || b = 0x2D then some .exponentSign
      else if digit then some .exponentDigits
      else none
  | .exponentSign => if digit then some .exponentDigits else none
  | .exponentDigits => if digit then some .exponentDigits else none

/-- The places at which a number may end. -/
def Numeral.complete : Numeral → Bool
  | .zero | .digits | .fraction | .exponentDigits => true
  | _ => false

/-- The number a string starts with: as many bytes as continue it. -/
def lexNumber : Numeral → Bytes → Option (Bytes × Bytes)
  | q, [] => if q.complete then some ([], []) else none
  | q, b :: rest =>
      match numeralStep q b with
      | some q' => (lexNumber q' rest).map fun p => (b :: p.1, p.2)
      | none => if q.complete then some ([], b :: rest) else none

/-! ## Reading -/

def isSpace (b : UInt8) : Bool := b = 0x20 || b = 0x09 || b = 0x0A || b = 0x0D

def skipSpace (s : Bytes) : Bytes := s.dropWhile isSpace

/-- What follows a word. -/
def expect (word : Bytes) (s : Bytes) : Option Bytes :=
  if s.take word.length = word then some (s.drop word.length) else none

mutual

/-- The value a text starts with, white space before it passed over. -/
def parseValue : Nat → Bytes → Option (Json × Bytes)
  | 0, _ => none
  | fuel + 1, s =>
      match skipSpace s with
      | [] => none
      | b :: rest =>
          if b = 0x22 then
            (lexString .plain rest).map fun p => (.string p.1, p.2)
          else if b = 0x5B then
            match skipSpace rest with
            | 0x5D :: rest => some (.array [], rest)
            | rest => (parseElements fuel rest).map fun p => (.array p.1, p.2)
          else if b = 0x7B then
            match skipSpace rest with
            | 0x7D :: rest => some (.object [], rest)
            | rest => (parseMembers fuel rest).map fun p => (.object p.1, p.2)
          else if b = 0x6E then (expect (text "ull") rest).map fun r => (.null, r)
          else if b = 0x74 then (expect (text "rue") rest).map fun r => (.bool true, r)
          else if b = 0x66 then (expect (text "alse") rest).map fun r => (.bool false, r)
          else (lexNumber .start (b :: rest)).map fun p => (.number p.1, p.2)

/-- The elements of an array up to its closing bracket. -/
def parseElements : Nat → Bytes → Option (List Json × Bytes)
  | 0, _ => none
  | fuel + 1, s => do
      let (value, s) ← parseValue fuel s
      match skipSpace s with
      | 0x5D :: rest => return ([value], rest)
      | 0x2C :: rest =>
          let (values, rest) ← parseElements fuel rest
          return (value :: values, rest)
      | _ => none

/-- The members of an object up to its closing brace. -/
def parseMembers : Nat → Bytes → Option (List (Bytes × Json) × Bytes)
  | 0, _ => none
  | fuel + 1, s =>
      match skipSpace s with
      | 0x22 :: rest => do
          let (name, s) ← lexString .plain rest
          match skipSpace s with
          | 0x3A :: rest =>
              let (value, s) ← parseValue fuel rest
              match skipSpace s with
              | 0x7D :: rest => return ([(name, value)], rest)
              | 0x2C :: rest =>
                  let (members, rest) ← parseMembers fuel rest
                  return ((name, value) :: members, rest)
              | _ => none
          | _ => none
      | _ => none

end

/-- The one value a document consists of. -/
def parse (document : Bytes) : Option Json :=
  match parseValue (2 * document.length + 2) document with
  | some (value, rest) => if skipSpace rest = [] then some value else none
  | none => none

example : (parse (text " \x7b \"a\" : [ 1 , -2.5e+3 , null ] \x7d ")).map render =
    some (text "\x7b\"a\":[1,-2.5e+3,null]\x7d") := by decide

/-! ## Well-formed trees -/

mutual

/-- Strings are spelled and numbers are numerals. -/
def WellFormed : Json → Prop
  | .null => True
  | .bool _ => True
  | .number literal => lexNumber .start literal = some (literal, [])
  | .string spelling => Spelled spelling
  | .array elements => WellFormedElements elements
  | .object members => WellFormedMembers members

def WellFormedElements : List Json → Prop
  | [] => True
  | value :: rest => WellFormed value ∧ WellFormedElements rest

def WellFormedMembers : List (Bytes × Json) → Prop
  | [] => True
  | (name, value) :: rest => Spelled name ∧ WellFormed value ∧ WellFormedMembers rest

end

mutual

/-- Well-formed trees can be checked. -/
def decideWellFormed : ∀ j : Json, Decidable j.WellFormed
  | .null => isTrue trivial
  | .bool _ => isTrue trivial
  | .number literal =>
      inferInstanceAs (Decidable (lexNumber .start literal = some (literal, [])))
  | .string spelling => inferInstanceAs (Decidable (spell .plain spelling = some .plain))
  | .array elements => decideWellFormedElements elements
  | .object members => decideWellFormedMembers members

def decideWellFormedElements : ∀ es : List Json, Decidable (WellFormedElements es)
  | [] => isTrue trivial
  | value :: rest =>
      @instDecidableAnd _ _ (decideWellFormed value) (decideWellFormedElements rest)

def decideWellFormedMembers : ∀ ms : List (Bytes × Json), Decidable (WellFormedMembers ms)
  | [] => isTrue trivial
  | (name, value) :: rest =>
      @instDecidableAnd _ _ (inferInstanceAs (Decidable (spell .plain name = some .plain)))
        (@instDecidableAnd _ _ (decideWellFormed value) (decideWellFormedMembers rest))

end

instance (j : Json) : Decidable j.WellFormed := decideWellFormed j

/-! ## Numbers are read up to their end -/

/-- The bytes that can continue a number. -/
def isNumeric (b : UInt8) : Bool :=
  isDigit b || b = 0x2E || b = 0x65 || b = 0x45 || b = 0x2B || b = 0x2D

/-- Nothing in front of a string continues a number. -/
def EndsNumber (s : Bytes) : Prop := ∀ b, s.head? = some b → isNumeric b = false

theorem endsNumber_nil : EndsNumber [] := by
  intro b hb
  cases hb

theorem endsNumber_cons {b : UInt8} (h : isNumeric b = false) (s : Bytes) :
    EndsNumber (b :: s) := by
  intro c hc
  obtain rfl := Option.some.inj hc
  exact h

theorem numeralStep_of_not_numeric {b : UInt8} (h : isNumeric b = false) (q : Numeral) :
    numeralStep q b = none := by
  simp only [isNumeric, Bool.or_eq_false_iff, decide_eq_false_iff_not] at h
  obtain ⟨⟨⟨⟨⟨hd, hp⟩, he⟩, hE⟩, hs⟩, hm⟩ := h
  have h0 : b ≠ 0x30 := by
    rintro rfl
    revert hd
    decide
  cases q <;> simp [numeralStep, hd, hp, he, hE, hs, hm, h0]

/-- Whatever follows the number, as long as nothing in front continues it. -/
theorem lexNumber_append {q : Numeral} {s l r t : Bytes} (h : lexNumber q s = some (l, r))
    (ht : EndsNumber t) : lexNumber q (l ++ t) = some (l, t) := by
  -- A number that ends here ends before `t` as well.
  have stop : ∀ q : Numeral, q.complete = true → lexNumber q t = some ([], t) := by
    intro q hq
    cases t with
    | nil => simp [lexNumber, hq]
    | cons b t => simp [lexNumber, numeralStep_of_not_numeric (ht b rfl), hq]
  induction s generalizing q l with
  | nil =>
      rw [lexNumber] at h
      split at h
      · rename_i hq
        obtain ⟨rfl, -⟩ := Prod.mk.inj (Option.some.inj h)
        exact stop q hq
      · cases h
  | cons b s ih =>
      rw [lexNumber] at h
      split at h
      · rename_i q' hq'
        obtain ⟨⟨l', r'⟩, hl, he⟩ := Option.map_eq_some_iff.1 h
        obtain ⟨rfl, rfl⟩ := Prod.mk.inj he
        rw [List.cons_append, lexNumber, hq']
        simp only [ih hl, Option.map_some]
      · split at h
        · rename_i hq
          obtain ⟨rfl, -⟩ := Prod.mk.inj (Option.some.inj h)
          exact stop q hq
        · cases h

/-- A number starts with a digit or a minus sign. -/
theorem lexNumber_head {s l r : Bytes} (h : lexNumber .start s = some (l, r)) :
    ∃ b t, l = b :: t ∧ (isDigit b = true ∨ b = 0x2D) := by
  cases s with
  | nil => cases h
  | cons b s =>
      rw [lexNumber] at h
      split at h
      · rename_i q' hq'
        obtain ⟨⟨l', r'⟩, -, he⟩ := Option.map_eq_some_iff.1 h
        obtain ⟨rfl, -⟩ := Prod.mk.inj he
        refine ⟨b, l', rfl, ?_⟩
        simp only [numeralStep] at hq'
        split at hq'
        · exact Or.inr (by assumption)
        split at hq'
        · subst_vars
          exact Or.inl (by decide)
        split at hq'
        · exact Or.inl (by assumption)
        · cases hq'
      · cases h

/-! ## What is written is read back -/

theorem skipSpace_cons {b : UInt8} (h : isSpace b = false) (s : Bytes) :
    skipSpace (b :: s) = b :: s := by
  rw [skipSpace, List.dropWhile_cons, h]
  rfl

/-- The first byte of a compact text. -/
theorem render_head {j : Json} (h : j.WellFormed) :
    ∃ b t, j.render = b :: t ∧ isSpace b = false ∧ b ≠ 0x5D ∧ b ≠ 0x7D := by
  cases j with
  | null => exact ⟨0x6E, text "ull", by decide, by decide, by decide, by decide⟩
  | bool value =>
      cases value with
      | true => exact ⟨0x74, text "rue", by decide, by decide, by decide, by decide⟩
      | false => exact ⟨0x66, text "alse", by decide, by decide, by decide, by decide⟩
  | number literal =>
      obtain ⟨b, t, hl, hb⟩ := lexNumber_head h
      refine ⟨b, t, hl, ?_⟩
      rcases hb with hb | rfl
      · refine ⟨?_, ?_, ?_⟩
        · by_contra hs
          rw [Bool.not_eq_false] at hs
          simp only [isSpace, Bool.or_eq_true, decide_eq_true_eq] at hs
          rcases hs with ((rfl | rfl) | rfl) | rfl
          all_goals revert hb; decide
        all_goals rintro rfl; revert hb; decide
      · decide
  | string spelling => exact ⟨0x22, spelling ++ [0x22], rfl, by decide, by decide, by decide⟩
  | array elements =>
      exact ⟨0x5B, renderElements elements ++ [0x5D], rfl, by decide, by decide, by decide⟩
  | object members =>
      exact ⟨0x7B, renderMembers members ++ [0x7D], rfl, by decide, by decide, by decide⟩

theorem renderElements_cons (value next : Json) (rest : List Json) :
    renderElements (value :: next :: rest) =
      value.render ++ 0x2C :: renderElements (next :: rest) := by
  rw [renderElements]
  exact List.cons_ne_nil _ _

theorem renderMembers_cons (name : Bytes) (value : Json) (next : Bytes × Json)
    (rest : List (Bytes × Json)) :
    renderMembers ((name, value) :: next :: rest) =
      0x22 :: name ++ 0x22 :: 0x3A :: value.render ++ 0x2C :: renderMembers (next :: rest) := by
  rw [renderMembers]
  exact List.cons_ne_nil _ _

theorem renderElements_ne_nil {value : Json} (rest : List Json) (h : value.WellFormed) :
    ∃ b t, renderElements (value :: rest) = b :: t ∧ isSpace b = false ∧ b ≠ 0x5D := by
  obtain ⟨b, t, hb, hs, hne, -⟩ := render_head h
  cases rest with
  | nil => exact ⟨b, t, hb, hs, hne⟩
  | cons next rest =>
      refine ⟨b, t ++ 0x2C :: renderElements (next :: rest), ?_, hs, hne⟩
      show value.render ++ _ = _
      rw [hb]
      rfl

theorem renderMembers_ne_nil (name : Bytes) (value : Json) (rest : List (Bytes × Json)) :
    ∃ t, renderMembers ((name, value) :: rest) = 0x22 :: t := by
  cases rest with
  | nil => exact ⟨_, rfl⟩
  | cons next rest => exact ⟨_, rfl⟩

private theorem fuel_pos {n fuel : Nat} (h : n ≤ fuel) (hn : 0 < n) : ∃ m, fuel = m + 1 :=
  ⟨fuel - 1, by omega⟩

theorem parseValue_cons {fuel : Nat} {b : UInt8} {s : Bytes} (h : isSpace b = false) :
    parseValue (fuel + 1) (b :: s) =
      if b = 0x22 then (lexString .plain s).map fun p => (.string p.1, p.2)
      else if b = 0x5B then
        match skipSpace s with
        | 0x5D :: rest => some (.array [], rest)
        | rest => (parseElements fuel rest).map fun p => (.array p.1, p.2)
      else if b = 0x7B then
        match skipSpace s with
        | 0x7D :: rest => some (.object [], rest)
        | rest => (parseMembers fuel rest).map fun p => (.object p.1, p.2)
      else if b = 0x6E then (expect (text "ull") s).map fun r => (.null, r)
      else if b = 0x74 then (expect (text "rue") s).map fun r => (.bool true, r)
      else if b = 0x66 then (expect (text "alse") s).map fun r => (.bool false, r)
      else (lexNumber .start (b :: s)).map fun p => (.number p.1, p.2) := by
  rw [parseValue, skipSpace_cons h]

/-- A number is read as one: no other value starts with a digit or a minus
sign. -/
theorem parseValue_number {fuel : Nat} {s l r : Bytes} (h : lexNumber .start s = some (l, r)) :
    parseValue (fuel + 1) s = some (.number l, r) := by
  cases s with
  | nil => cases h
  | cons b s =>
      have hb : isDigit b = true ∨ b = 0x2D := by
        obtain ⟨b', t, rfl, hb'⟩ := lexNumber_head h
        rw [lexNumber] at h
        split at h
        · obtain ⟨p, -, he⟩ := Option.map_eq_some_iff.1 h
          obtain ⟨rfl, -⟩ := List.cons.inj (Prod.mk.inj he).1
          exact hb'
        · cases h
      have hspace : isSpace b = false := by
        by_contra hs
        rw [Bool.not_eq_false] at hs
        simp only [isSpace, Bool.or_eq_true, decide_eq_true_eq] at hs
        rcases hs with ((rfl | rfl) | rfl) | rfl
        all_goals revert hb; decide
      have hne : ∀ c : UInt8, isDigit c = false ∧ c ≠ 0x2D → b ≠ c := by
        rintro c ⟨hc, hm⟩ rfl
        rcases hb with hb | hb
        · rw [hc] at hb
          cases hb
        · exact hm hb
      rw [parseValue_cons hspace, if_neg (hne _ (by decide)), if_neg (hne _ (by decide)),
        if_neg (hne _ (by decide)), if_neg (hne _ (by decide)), if_neg (hne _ (by decide)),
        if_neg (hne _ (by decide)), h]
      rfl

theorem parseValue_string {fuel : Nat} {s : Bytes} (h : Spelled s) (r : Bytes) :
    parseValue (fuel + 1) (0x22 :: s ++ 0x22 :: r) = some (.string s, r) := by
  rw [List.cons_append, parseValue_cons (by decide), if_pos rfl, lexString_spelled h]
  rfl

theorem parseValue_array {fuel : Nat} {b : UInt8} {s r : Bytes} {es : List Json}
    (hb : isSpace b = false) (hne : b ≠ 0x5D)
    (h : parseElements fuel (b :: s) = some (es, r)) :
    parseValue (fuel + 1) (0x5B :: b :: s) = some (.array es, r) := by
  rw [parseValue_cons (by decide), if_neg (by decide), if_pos rfl, skipSpace_cons hb]
  split
  · rename_i heq
    exact absurd (List.cons.inj heq).1 hne
  · rw [h]
    rfl

theorem parseValue_object {fuel : Nat} {s r : Bytes} {ms : List (Bytes × Json)}
    (h : parseMembers fuel (0x22 :: s) = some (ms, r)) :
    parseValue (fuel + 1) (0x7B :: 0x22 :: s) = some (.object ms, r) := by
  rw [parseValue_cons (by decide), if_neg (by decide), if_neg (by decide), if_pos rfl,
    skipSpace_cons (by decide)]
  split
  · rename_i heq
    exact absurd (List.cons.inj heq).1 (by decide)
  · rw [h]
    rfl

mutual

theorem parseValue_render : ∀ (j : Json) (_ : j.WellFormed) {r : Bytes} (_ : EndsNumber r)
    {fuel : Nat} (_ : 2 * j.render.length ≤ fuel),
    parseValue fuel (j.render ++ r) = some (j, r)
  | .null, _, r, _, fuel, hf => by
      obtain ⟨m, rfl⟩ := fuel_pos hf (by decide)
      rfl
  | .bool true, _, r, _, fuel, hf => by
      obtain ⟨m, rfl⟩ := fuel_pos hf (by decide)
      rfl
  | .bool false, _, r, _, fuel, hf => by
      obtain ⟨m, rfl⟩ := fuel_pos hf (by decide)
      rfl
  | .number literal, hj, r, hr, fuel, hf => by
      obtain ⟨b, t, rfl, -⟩ := lexNumber_head hj
      obtain ⟨m, rfl⟩ := fuel_pos hf (by simp [render])
      exact parseValue_number (lexNumber_append hj hr)
  | .string spelling, hj, r, _, fuel, hf => by
      obtain ⟨m, rfl⟩ := fuel_pos hf (by simp [render])
      rw [render, List.append_assoc]
      exact parseValue_string hj r
  | .array [], _, r, _, fuel, hf => by
      obtain ⟨m, rfl⟩ := fuel_pos hf (by simp [render])
      rfl
  | .array (value :: rest), hj, r, _, fuel, hf => by
      obtain ⟨m, rfl⟩ := fuel_pos hf (by simp [render])
      obtain ⟨b, t, hb, hspace, hne⟩ := renderElements_ne_nil rest hj.1
      have hlen : 2 * (renderElements (value :: rest)).length + 1 ≤ m := by
        simp only [render, List.length_append, List.length_cons] at hf
        omega
      have ih := parseElements_render (value :: rest) (by simp) hj r hlen
      simp only [render, hb, List.cons_append, List.append_assoc, List.nil_append] at ih ⊢
      exact parseValue_array hspace hne ih
  | .object [], _, r, _, fuel, hf => by
      obtain ⟨m, rfl⟩ := fuel_pos hf (by simp [render])
      rfl
  | .object ((name, value) :: rest), hj, r, _, fuel, hf => by
      obtain ⟨m, rfl⟩ := fuel_pos hf (by simp [render])
      obtain ⟨t, ht⟩ := renderMembers_ne_nil name value rest
      have hlen : 2 * (renderMembers ((name, value) :: rest)).length + 1 ≤ m := by
        simp only [render, List.length_append, List.length_cons] at hf
        omega
      have ih := parseMembers_render ((name, value) :: rest) (by simp) hj r hlen
      simp only [render, ht, List.cons_append, List.append_assoc, List.nil_append] at ih ⊢
      exact parseValue_object ih

theorem parseElements_render : ∀ (es : List Json) (_ : es ≠ []) (_ : WellFormedElements es)
    (r : Bytes) {fuel : Nat} (_ : 2 * (renderElements es).length + 1 ≤ fuel),
    parseElements fuel (renderElements es ++ 0x5D :: r) = some (es, r)
  | [], h, _, _, _, _ => absurd rfl h
  | [value], _, hes, r, fuel, hf => by
      obtain ⟨m, rfl⟩ := fuel_pos hf (by omega)
      have hlen : 2 * value.render.length ≤ m := by
        simp only [renderElements] at hf
        omega
      have ih := parseValue_render value hes.1 (r := 0x5D :: r)
        (endsNumber_cons (by decide) r) hlen
      rw [parseElements, renderElements, ih]
      rfl
  | value :: next :: rest, _, hes, r, fuel, hf => by
      obtain ⟨m, rfl⟩ := fuel_pos hf (by omega)
      have hlen : 2 * value.render.length ≤ m ∧
          2 * (renderElements (next :: rest)).length + 1 ≤ m := by
        simp only [renderElements, List.length_append, List.length_cons] at hf ⊢
        omega
      have ihv := parseValue_render value hes.1
        (r := 0x2C :: (renderElements (next :: rest) ++ 0x5D :: r))
        (endsNumber_cons (by decide) _) hlen.1
      have ihr := parseElements_render (next :: rest) (by simp) hes.2 r hlen.2
      have hsep : skipSpace (0x2C :: (renderElements (next :: rest) ++ 0x5D :: r)) =
          0x2C :: (renderElements (next :: rest) ++ 0x5D :: r) :=
        skipSpace_cons (by decide) _
      rw [parseElements, renderElements_cons, List.append_assoc, List.cons_append, ihv]
      simp only [Option.bind_eq_bind, Option.bind_some, hsep, ihr]
      rfl

theorem parseMembers_render : ∀ (ms : List (Bytes × Json)) (_ : ms ≠ [])
    (_ : WellFormedMembers ms) (r : Bytes) {fuel : Nat}
    (_ : 2 * (renderMembers ms).length + 1 ≤ fuel),
    parseMembers fuel (renderMembers ms ++ 0x7D :: r) = some (ms, r)
  | [], h, _, _, _, _ => absurd rfl h
  | [(name, value)], _, hms, r, fuel, hf => by
      obtain ⟨m, rfl⟩ := fuel_pos hf (by omega)
      have hlen : 2 * value.render.length ≤ m := by
        simp only [renderMembers, List.length_append, List.length_cons] at hf
        omega
      have ih := parseValue_render value hms.2.1 (r := 0x7D :: r)
        (endsNumber_cons (by decide) r) hlen
      have hname := lexString_spelled (q := .plain) hms.1 (0x3A :: (value.render ++ 0x7D :: r))
      have hquote : skipSpace (0x22 :: (name ++ 0x22 :: 0x3A :: (value.render ++ 0x7D :: r))) =
          0x22 :: (name ++ 0x22 :: 0x3A :: (value.render ++ 0x7D :: r)) :=
        skipSpace_cons (by decide) _
      have hcolon : skipSpace (0x3A :: (value.render ++ 0x7D :: r)) =
          0x3A :: (value.render ++ 0x7D :: r) := skipSpace_cons (by decide) _
      rw [renderMembers, parseMembers]
      simp only [List.cons_append, List.append_assoc, hquote, Option.bind_eq_bind, hname,
        Option.bind_some, hcolon, ih]
      rfl
  | (name, value) :: next :: rest, _, hms, r, fuel, hf => by
      obtain ⟨m, rfl⟩ := fuel_pos hf (by omega)
      have hlen : 2 * value.render.length ≤ m ∧
          2 * (renderMembers (next :: rest)).length + 1 ≤ m := by
        simp only [renderMembers, List.length_append, List.length_cons] at hf ⊢
        omega
      have ihv := parseValue_render value hms.2.1
        (r := 0x2C :: (renderMembers (next :: rest) ++ 0x7D :: r))
        (endsNumber_cons (by decide) _) hlen.1
      have ihr := parseMembers_render (next :: rest) (by simp) hms.2.2 r hlen.2
      have hname := lexString_spelled (q := .plain) hms.1
        (0x3A :: (value.render ++ 0x2C :: (renderMembers (next :: rest) ++ 0x7D :: r)))
      have hquote := skipSpace_cons (b := 0x22) (by decide)
        (name ++ 0x22 :: 0x3A :: (value.render ++
          0x2C :: (renderMembers (next :: rest) ++ 0x7D :: r)))
      have hcolon := skipSpace_cons (b := 0x3A) (by decide)
        (value.render ++ 0x2C :: (renderMembers (next :: rest) ++ 0x7D :: r))
      have hsep := skipSpace_cons (b := 0x2C) (by decide)
        (renderMembers (next :: rest) ++ 0x7D :: r)
      rw [renderMembers_cons, parseMembers]
      simp only [List.cons_append, List.append_assoc, hquote, Option.bind_eq_bind, hname,
        Option.bind_some, hcolon, ihv, hsep, ihr]
      rfl

end

theorem endsNumber_space {w : Bytes} (h : w.all isSpace = true) : EndsNumber w := by
  intro b hb
  have hs := List.all_eq_true.1 h b (List.mem_of_mem_head? hb)
  simp only [isSpace, Bool.or_eq_true, decide_eq_true_eq] at hs
  rcases hs with ((rfl | rfl) | rfl) | rfl <;> decide

/-- White space after the value changes nothing. -/
theorem parse_render_space {j : Json} (h : j.WellFormed) {w : Bytes}
    (hw : w.all isSpace = true) : parse (j.render ++ w) = some j := by
  have hlen : 2 * j.render.length ≤ 2 * (j.render ++ w).length + 2 := by
    rw [List.length_append]
    omega
  have hv := parseValue_render j h (endsNumber_space hw) hlen
  have hskip : skipSpace w = [] := List.dropWhile_eq_nil_iff.2 (List.all_eq_true.1 hw)
  rw [parse, hv]
  exact if_pos hskip

/-! ## Compact documents -/

mutual

/-- A tree whose strings carry no markup byte. -/
def escapeMarkup : Json → Json
  | .null => .null
  | .bool value => .bool value
  | .number literal => .number literal
  | .string spelling => .string (htmlEscape spelling)
  | .array elements => .array (escapeElements elements)
  | .object members => .object (escapeMembers members)

def escapeElements : List Json → List Json
  | [] => []
  | value :: rest => escapeMarkup value :: escapeElements rest

def escapeMembers : List (Bytes × Json) → List (Bytes × Json)
  | [] => []
  | (name, value) :: rest => (htmlEscape name, escapeMarkup value) :: escapeMembers rest

end

mutual

theorem escapeMarkup_wellFormed : ∀ j : Json, j.WellFormed → j.escapeMarkup.WellFormed
  | .null, _ => trivial
  | .bool _, _ => trivial
  | .number _, h => h
  | .string _, h => spelled_htmlEscape h
  | .array es, h => escapeElements_wellFormed es h
  | .object ms, h => escapeMembers_wellFormed ms h

theorem escapeElements_wellFormed :
    ∀ es : List Json, WellFormedElements es → WellFormedElements (escapeElements es)
  | [], _ => trivial
  | value :: rest, h =>
      ⟨escapeMarkup_wellFormed value h.1, escapeElements_wellFormed rest h.2⟩

theorem escapeMembers_wellFormed :
    ∀ ms : List (Bytes × Json), WellFormedMembers ms → WellFormedMembers (escapeMembers ms)
  | [], _ => trivial
  | (_, value) :: rest, h =>
      ⟨spelled_htmlEscape h.1, escapeMarkup_wellFormed value h.2.1,
        escapeMembers_wellFormed rest h.2.2⟩

end

end Json

end YourCloud.Foundation
