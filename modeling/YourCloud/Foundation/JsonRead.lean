import YourCloud.Foundation.Json

/-!
# Reading records out of JSON

A record is read strictly: the document is one value, no object at any depth
repeats a name, an object has no name outside the record's own, and every
member has the shape its field asks for.  An absent member and `null` leave a
field at its zero value, which is for the record's own checks to refuse.

A member that is kept as received, rather than read, is its exact text.

## Main results

* `readString_quoted`, `readUint64_decimal`, `readInt_decimal` — a written
  field is read back.
* `members_object` — the members of a written record.
* `rawMembers_render` — the texts of the members of a compact object.
-/

namespace YourCloud.Foundation.Json

/-! ## Names -/

/-- The names of an object, as they read. -/
def names (ms : List (Bytes × Json)) : List Bytes := ms.map fun m => unquote m.1

mutual

/-- No object at any depth repeats a name. -/
def distinct : Json → Bool
  | .array elements => distinctElements elements
  | .object members =>
      decide ((members.map fun m => unquote m.1).Nodup) && distinctMembers members
  | _ => true

def distinctElements : List Json → Bool
  | [] => true
  | value :: rest => distinct value && distinctElements rest

def distinctMembers : List (Bytes × Json) → Bool
  | [] => true
  | (_, value) :: rest => distinct value && distinctMembers rest

end

/-- The members of a record with the given field names, by name. -/
def members (known : List Bytes) : Json → Option (List (Bytes × Json))
  | .null => some []
  | .object ms =>
      let named := ms.map fun m => (unquote m.1, m.2)
      if named.all (fun m => m.1 ∈ known) then some named else none
  | _ => none

/-- The member of a field; what is absent is read as `null` is. -/
def field (ms : List (Bytes × Json)) (name : Bytes) : Json :=
  (ms.lookup name).getD .null

/-! ## Field types -/

def readString : Json → Option Bytes
  | .null => some []
  | .string spelling => some (unquote spelling)
  | _ => none

def readBool : Json → Option Bool
  | .null => some false
  | .bool value => some value
  | _ => none

/-- An unsigned integer of 64 bits. -/
def readUint64 : Json → Option Nat
  | .null => some 0
  | .number literal => (ofDecimal literal).filter fun n => decide (n < 2 ^ 64)
  | _ => none

/-- A signed integer of 64 bits. -/
def readInt : Json → Option Int
  | .null => some 0
  | .number literal =>
      match literal with
      | 0x2D :: digits =>
          ((ofDecimal digits).filter fun n => decide (n ≤ 2 ^ 63)).map fun n => -(n : Int)
      | digits => ((ofDecimal digits).filter fun n => decide (n < 2 ^ 63)).map fun n => (n : Int)
  | _ => none

/-- A sequence of strings. -/
def readStrings : Json → Option (List Bytes)
  | .null => some []
  | .array elements => elements.mapM readString
  | _ => none

/-- A sequence of records. -/
def readArray {α : Type} (read : Json → Option α) : Json → Option (List α)
  | .null => some []
  | .array elements => elements.mapM read
  | _ => none

/-- A value that may be missing. -/
def readPointer {α : Type} (read : Json → Option α) : Json → Option (Option α)
  | .null => some none
  | j => (read j).map some

/-- A whole document read strictly. -/
def decode {α : Type} (read : Json → Option α) (document : Bytes) : Option α := do
  let value ← parse document
  if value.distinct then read value else none

/-! ## Written fields -/

/-- A string field. -/
def quoted (html : Bool) (s : Bytes) : Json := .string (quote html s)

/-- An unsigned integer field. -/
def numeral (n : Nat) : Json := .number (decimal n)

/-- A signed integer field. -/
def numeralInt (n : Int) : Json := .number (decimalInt n)

@[simp] theorem readString_quoted (html : Bool) (s : Bytes) :
    readString (quoted html s) = some (sanitize s) := by
  rw [quoted, readString, unquote_quote]

theorem readString_quoted_valid (html : Bool) {s : Bytes} (h : Valid s) :
    readString (quoted html s) = some s := by
  rw [readString_quoted, h]

theorem readUint64_numeral {n : Nat} (h : n < 2 ^ 64) : readUint64 (numeral n) = some n := by
  rw [numeral, readUint64, ofDecimal_decimal, Option.filter_some, if_pos (by simpa using h)]

theorem readUint64_lt {j : Json} {n : Nat} (h : readUint64 j = some n) : n < 2 ^ 64 := by
  cases j with
  | null =>
      obtain rfl := Option.some.inj h
      decide
  | number literal =>
      obtain ⟨-, hn⟩ := Option.filter_eq_some_iff.1 h
      simpa using hn
  | _ => cases h

theorem readInt_numeral {n : Nat} (h : n < 2 ^ 63) : readInt (numeral n) = some (n : Int) := by
  have hd : ∀ t, decimal n ≠ 0x2D :: t := by
    intro t ht
    have := decimal_digits n 0x2D (by rw [ht]; exact List.mem_cons_self)
    revert this
    decide
  rw [numeral, readInt]
  · rw [ofDecimal_decimal, Option.filter_some, if_pos (by simpa using h)]
    rfl
  · exact hd

theorem readInt_numeralInt {n : Int} (hlow : -2 ^ 63 ≤ n) (hhigh : n < 2 ^ 63) :
    readInt (numeralInt n) = some n := by
  cases n with
  | ofNat n => exact readInt_numeral (by simpa using hhigh)
  | negSucc n =>
      rw [numeralInt, decimalInt, readInt]
      simp only [ofDecimal_decimal, Option.filter_some]
      rw [if_pos (by rw [decide_eq_true_eq]; omega)]
      rfl

/-- The members of a written record, whose names spell themselves. -/
theorem members_object {known : List Bytes} {ms : List (Bytes × Json)} (ns : List Bytes)
    (hns : ms.map Prod.fst = ns) (h : ∀ n ∈ ns, unquote n = n ∧ n ∈ known) :
    members known (.object ms) = some ms := by
  have hnamed : ms.map (fun m => (unquote m.1, m.2)) = ms := by
    conv_rhs => rw [← List.map_id ms]
    refine List.map_congr_left fun m hm => ?_
    rw [(h m.1 (hns ▸ List.mem_map_of_mem hm)).1]
    rfl
  have hall : ms.all (fun m => m.1 ∈ known) = true := by
    rw [List.all_eq_true]
    intro m hm
    rw [decide_eq_true_eq]
    exact (h m.1 (hns ▸ List.mem_map_of_mem hm)).2
  rw [members]
  simp only [hnamed, hall, if_true]

theorem distinct_object {ms : List (Bytes × Json)} (ns : List Bytes)
    (hns : ms.map Prod.fst = ns) (h : (ns.map unquote).Nodup)
    (hvalues : ∀ m ∈ ms, distinct m.2 = true) : distinct (.object ms) = true := by
  have hmembers : distinctMembers ms = true := by
    clear h hns
    induction ms with
    | nil => rfl
    | cons m ms ih =>
        rw [distinctMembers, hvalues m List.mem_cons_self,
          ih fun k hk => hvalues k (List.mem_cons_of_mem _ hk)]
        rfl
  have hmap : (ms.map fun m => unquote m.1) = ns.map unquote := by
    rw [← hns, List.map_map]
    rfl
  rw [distinct, hmembers, hmap, Bool.and_true, decide_eq_true h]

theorem distinct_array {es : List Json} (h : ∀ e ∈ es, distinct e = true) :
    distinct (.array es) = true := by
  rw [distinct]
  induction es with
  | nil => rfl
  | cons e es ih =>
      rw [distinctElements, h e List.mem_cons_self,
        ih fun k hk => h k (List.mem_cons_of_mem _ hk)]
      rfl

theorem wellFormed_quoted (html : Bool) (s : Bytes) : (quoted html s).WellFormed :=
  spelled_quote html s

theorem wellFormed_array {es : List Json} (h : ∀ e ∈ es, e.WellFormed) :
    (Json.array es).WellFormed := by
  rw [WellFormed]
  induction es with
  | nil => trivial
  | cons e es ih =>
      exact ⟨h e List.mem_cons_self, ih fun k hk => h k (List.mem_cons_of_mem _ hk)⟩

theorem wellFormed_object {ms : List (Bytes × Json)}
    (h : ∀ m ∈ ms, Spelled m.1 ∧ m.2.WellFormed) : (Json.object ms).WellFormed := by
  rw [WellFormed]
  induction ms with
  | nil => trivial
  | cons m ms ih =>
      obtain ⟨hn, hv⟩ := h m List.mem_cons_self
      exact ⟨hn, hv, ih fun k hk => h k (List.mem_cons_of_mem _ hk)⟩

/-! ## Records with fields left out -/

/-- The members of a record some of whose fields are left out. -/
def present (fields : List (Bytes × Option Json)) : List (Bytes × Json) :=
  fields.filterMap fun f => f.2.map fun value => (f.1, value)

/-- A string field left out when it is empty. -/
def omitEmpty (html : Bool) (s : Bytes) : Option Json :=
  if s = [] then none else some (quoted html s)

/-- A signed field left out when it is zero. -/
def omitZero (n : Int) : Option Json := if n = 0 then none else some (numeralInt n)

theorem mem_of_lookup {γ : Type} {table : List (Bytes × γ)} {name : Bytes} {value : γ}
    (h : table.lookup name = some value) : (name, value) ∈ table := by
  obtain ⟨before, after, rfl, -⟩ := List.lookup_eq_some_iff.1 h
  simp

theorem lookup_of_nodup {γ : Type} {table : List (Bytes × γ)}
    (hd : (table.map Prod.fst).Nodup) {entry : Bytes × γ} (h : entry ∈ table) :
    table.lookup entry.1 = some entry.2 := by
  induction table with
  | nil => cases h
  | cons first table ih =>
      rw [List.map_cons, List.nodup_cons] at hd
      rcases List.mem_cons.1 h with rfl | hrest
      · exact List.lookup_cons_self
      · have hne : entry.1 ≠ first.1 := by
          intro heq
          exact hd.1 (heq ▸ List.mem_map_of_mem hrest)
        rw [List.lookup_cons, beq_false_of_ne hne]
        exact ih hd.2 hrest

private theorem lookup_present_of_not_mem {fields : List (Bytes × Option Json)} {name : Bytes}
    (h : name ∉ fields.map Prod.fst) : (present fields).lookup name = none := by
  induction fields with
  | nil => rfl
  | cons f fields ih =>
      rw [List.map_cons, List.mem_cons, not_or] at h
      have hne : (name == f.1) = false := beq_false_of_ne h.1
      cases hf : f.2 with
      | none =>
          rw [present, List.filterMap_cons_none (by rw [hf]; rfl)]
          exact ih h.2
      | some value =>
          rw [present, List.filterMap_cons_some (by rw [hf]; rfl), List.lookup_cons, hne]
          exact ih h.2

/-- A field that is left out reads as `null` does. -/
theorem field_present {fields : List (Bytes × Option Json)} {name : Bytes}
    {value : Option Json} (hnodup : (fields.map Prod.fst).Nodup)
    (h : fields.lookup name = some value) :
    field (present fields) name = value.getD .null := by
  induction fields with
  | nil => cases h
  | cons f fields ih =>
      rw [List.map_cons, List.nodup_cons] at hnodup
      rw [List.lookup_cons] at h
      cases hname : name == f.1 with
      | true =>
          rw [hname] at h
          have hf : f.2 = value := Option.some.inj h
          obtain rfl : name = f.1 := eq_of_beq hname
          cases value with
          | none =>
              rw [field, present, List.filterMap_cons_none (by rw [hf]; rfl), ← present,
                lookup_present_of_not_mem hnodup.1]
          | some value =>
              rw [field, present, List.filterMap_cons_some (by rw [hf]; rfl),
                List.lookup_cons, hname]
      | false =>
          rw [hname] at h
          cases hf : f.2 with
          | none =>
              rw [present, List.filterMap_cons_none (by rw [hf]; rfl)]
              exact ih hnodup.2 h
          | some value =>
              rw [field, present, List.filterMap_cons_some (by rw [hf]; rfl),
                List.lookup_cons, hname]
              exact ih hnodup.2 h

theorem mem_present {fields : List (Bytes × Option Json)} {m : Bytes × Json}
    (h : m ∈ present fields) : (m.1, some m.2) ∈ fields := by
  obtain ⟨⟨name, value⟩, hf, he⟩ := List.mem_filterMap.1 h
  obtain ⟨v, rfl, rfl⟩ := Option.map_eq_some_iff.1 he
  exact hf

theorem present_names (fields : List (Bytes × Option Json)) :
    ((present fields).map Prod.fst).Sublist (fields.map Prod.fst) := by
  induction fields with
  | nil => exact List.Sublist.refl _
  | cons f fields ih =>
      cases hf : f.2 with
      | none =>
          rw [present, List.filterMap_cons_none (by rw [hf]; rfl)]
          exact ih.cons _
      | some value =>
          rw [present, List.filterMap_cons_some (by rw [hf]; rfl)]
          exact ih.cons_cons _

/-- One field read after the other. -/
theorem bind_read {α β : Type} {x : Option α} {a : α} {f : α → Option β} {b : Option β}
    (hx : x = some a) (hf : f a = b) : (x >>= f) = b := by
  rw [hx]
  exact hf

/-- The names of a record, fixed once: they spell themselves and differ. -/
structure Names (ns : List Bytes) : Prop where
  plain : ∀ n ∈ ns, Plain n
  nodup : ns.Nodup

/-- The same, as a check that computes. -/
theorem Names.of_check {ns : List Bytes}
    (h : (ns.all (fun n => n.all isPlain) && decide ns.Nodup) = true) : Names ns := by
  rw [Bool.and_eq_true, List.all_eq_true, decide_eq_true_eq] at h
  exact ⟨fun n hn => List.all_eq_true.1 (h.1 n hn), h.2⟩

theorem Names.unquote {ns : List Bytes} (h : Names ns) : ns.map Foundation.unquote = ns := by
  conv_rhs => rw [← List.map_id ns]
  exact List.map_congr_left fun n hn => (h.plain n hn).unquote

/-- A written record whose fields may be left out: its members, that they do
not repeat a name, and that its text is well formed. -/
theorem members_present {fields : List (Bytes × Option Json)} (ns : List Bytes)
    (hns : fields.map Prod.fst = ns) (h : Names ns) :
    members ns (.object (present fields)) = some (present fields) := by
  refine members_object ((present fields).map Prod.fst) rfl fun n hn => ?_
  have hmem : n ∈ ns := hns ▸ (present_names fields).subset hn
  exact ⟨(h.plain n hmem).unquote, hmem⟩

/-- A field that may be left out is read as what was written of it. -/
theorem read_omitted {α : Type} {read : Json → Option α} {fields : List (Bytes × Option Json)}
    {ns : List Bytes} (h : Names ns) (hns : fields.map Prod.fst = ns) {name : Bytes}
    {value : Option Json} {a : α} (ha : read (value.getD .null) = some a)
    (hl : fields.lookup name = some value) : read (field (present fields) name) = some a := by
  have hnodup : (fields.map Prod.fst).Nodup := hns ▸ h.nodup
  rw [field_present hnodup hl]
  exact ha

/-- A field that is always there is read as what was written of it. -/
theorem read_written {α : Type} {read : Json → Option α} {fields : List (Bytes × Option Json)}
    {ns : List Bytes} (h : Names ns) (hns : fields.map Prod.fst = ns) {name : Bytes}
    {value : Json} {a : α} (ha : read value = some a)
    (hl : fields.lookup name = some (some value)) :
    read (field (present fields) name) = some a :=
  read_omitted h hns (show read ((some value).getD .null) = some a from ha) hl

/-- A field whose value, if it is there, is well formed and repeats no name. -/
def Sound (value : Option Json) : Prop :=
  ∀ v, value = some v → v.WellFormed ∧ distinct v = true

/-- A written record is well formed and repeats no name. -/
theorem sound_present {fields : List (Bytes × Option Json)} (ns : List Bytes)
    (hns : fields.map Prod.fst = ns) (h : Names ns) (hs : ∀ f ∈ fields, Sound f.2) :
    (Json.object (present fields)).WellFormed ∧
      distinct (.object (present fields)) = true := by
  constructor
  · refine wellFormed_object fun m hm => ⟨?_, (hs _ (mem_present hm) m.2 rfl).1⟩
    have hmem : m.1 ∈ fields.map Prod.fst := List.mem_map_of_mem (mem_present hm)
    exact (h.plain m.1 (hns ▸ hmem)).spelled
  · refine distinct_object ((present fields).map Prod.fst) rfl ?_ fun m hm =>
      (hs _ (mem_present hm) m.2 rfl).2
    have hsub := (present_names fields).map Foundation.unquote
    rw [hns, h.unquote] at hsub
    exact hsub.nodup h.nodup

/-- A written record is read strictly, white space after it passed over. -/
theorem decode_present {α : Type} (read : Json → Option α)
    {fields : List (Bytes × Option Json)} (ns : List Bytes)
    (hns : fields.map Prod.fst = ns) (h : Names ns) (hs : ∀ f ∈ fields, Sound f.2)
    {w : Bytes} (hw : w.all isSpace = true) :
    decode read ((Json.object (present fields)).render ++ w) =
      read (.object (present fields)) := by
  obtain ⟨hwf, hd⟩ := sound_present ns hns h hs
  rw [decode, parse_render_space hwf hw]
  simp only [Option.bind_eq_bind, Option.bind_some, hd, if_true]

private theorem lexNumber_digits {ds : Bytes} (h : ∀ b ∈ ds, isDigit b = true) :
    lexNumber .digits ds = some (ds, []) := by
  induction ds with
  | nil => rfl
  | cons b ds ih =>
      have hb : numeralStep .digits b = some .digits := by
        simp [numeralStep, h b List.mem_cons_self]
      rw [lexNumber, hb]
      simp only [ih fun c hc => h c (List.mem_cons_of_mem _ hc), Option.map_some]

/-- Every numeral is a JSON number. -/
theorem wellFormed_numeral (n : Nat) : (numeral n).WellFormed := by
  rw [numeral, WellFormed]
  by_cases h : n = 0
  · subst h
    decide
  · obtain ⟨b, t, ht, hb, hzero⟩ := decimal_head h
    have hdigits := decimal_digits n
    rw [ht] at hdigits ⊢
    have hminus : b ≠ 0x2D := by
      rintro rfl
      revert hb
      decide
    have hstep : numeralStep .start b = some .digits := by
      simp [numeralStep, hminus, hzero, hb]
    rw [lexNumber, hstep]
    simp only [lexNumber_digits fun c hc => hdigits c (List.mem_cons_of_mem _ hc),
      Option.map_some]

theorem wellFormed_numeralInt (n : Int) : (numeralInt n).WellFormed := by
  cases n with
  | ofNat n => exact wellFormed_numeral n
  | negSucc n =>
      obtain ⟨b, t, ht, hb, hzero⟩ := decimal_head (Nat.succ_ne_zero n)
      have hdigits := decimal_digits (n + 1)
      rw [numeralInt, WellFormed, decimalInt]
      rw [ht] at hdigits ⊢
      have hminus : numeralStep .start 0x2D = some .minus := by decide
      have hstep : numeralStep .minus b = some .digits := by simp [numeralStep, hzero, hb]
      rw [lexNumber, hminus]
      simp only [lexNumber, hstep,
        lexNumber_digits fun c hc => hdigits c (List.mem_cons_of_mem _ hc), Option.map_some]

@[simp] theorem readString_omitEmpty (html : Bool) (s : Bytes) :
    readString ((omitEmpty html s).getD .null) = some (sanitize s) := by
  unfold omitEmpty
  split
  · subst_vars
    rfl
  · exact readString_quoted html s

theorem readInt_omitZero {n : Int} (hlow : -2 ^ 63 ≤ n) (hhigh : n < 2 ^ 63) :
    readInt ((omitZero n).getD .null) = some n := by
  unfold omitZero
  split
  · subst_vars
    rfl
  · exact readInt_numeralInt hlow hhigh

theorem readStrings_quoted (html : Bool) (texts : List Bytes) :
    readStrings (.array (texts.map (quoted html))) = some (texts.map sanitize) := by
  rw [readStrings]
  induction texts with
  | nil => rfl
  | cons s texts ih =>
      rw [List.map_cons, List.mapM_cons, readString_quoted, ih]
      rfl

theorem wellFormed_texts (html : Bool) (texts : List Bytes) :
    (Json.array (texts.map (quoted html))).WellFormed := by
  refine wellFormed_array fun e he => ?_
  obtain ⟨s, -, rfl⟩ := List.mem_map.1 he
  exact wellFormed_quoted html s

theorem distinct_texts (html : Bool) (texts : List Bytes) :
    distinct (.array (texts.map (quoted html))) = true := by
  refine distinct_array fun e he => ?_
  obtain ⟨s, -, rfl⟩ := List.mem_map.1 he
  rfl

theorem sound_none : Sound none := by
  intro v hv
  cases hv

theorem sound_some {v : Json} (hw : v.WellFormed) (hd : distinct v = true) :
    Sound (some v) := by
  intro v' hv
  obtain rfl := Option.some.inj hv
  exact ⟨hw, hd⟩

theorem sound_quoted (html : Bool) (s : Bytes) : Sound (some (quoted html s)) :=
  sound_some (wellFormed_quoted html s) rfl

theorem sound_numeral (n : Nat) : Sound (some (numeral n)) :=
  sound_some (wellFormed_numeral n) rfl

theorem sound_numeralInt (n : Int) : Sound (some (numeralInt n)) :=
  sound_some (wellFormed_numeralInt n) rfl

theorem sound_bool (b : Bool) : Sound (some (.bool b)) := sound_some trivial rfl

theorem sound_texts (html : Bool) (texts : List Bytes) :
    Sound (some (.array (texts.map (quoted html)))) :=
  sound_some (wellFormed_texts html texts) (distinct_texts html texts)

theorem sound_omitEmpty (html : Bool) (s : Bytes) : Sound (omitEmpty html s) := by
  unfold omitEmpty
  split
  · exact sound_none
  · exact sound_quoted html s

theorem sound_array {es : List Json} (h : ∀ e ∈ es, Sound (some e)) :
    Sound (some (.array es)) := by
  apply sound_some
  · exact wellFormed_array fun e he => (h e he e rfl).1
  · exact distinct_array fun e he => (h e he e rfl).2

/-- A written sequence is read element by element. -/
theorem readArray_map {α : Type} {read : Json → Option α} {json : α → Json} {values : List α}
    (h : ∀ a ∈ values, read (json a) = some a) :
    readArray read (.array (values.map json)) = some values := by
  rw [readArray]
  induction values with
  | nil => rfl
  | cons a values ih =>
      rw [List.map_cons, List.mapM_cons, h a List.mem_cons_self,
        ih fun b hb => h b (List.mem_cons_of_mem _ hb)]
      rfl

theorem sound_omitZero (n : Int) : Sound (omitZero n) := by
  unfold omitZero
  split
  · exact sound_none
  · exact sound_numeralInt n

end YourCloud.Foundation.Json
