import YourCloud.Foundation.JsonRead

/-!
# Texts of documents

Three facts about the bytes of a document rather than about its tree.  The text
of a member of an object is the exact run of bytes its value was read from,
which is how a value is handed on as received.  And reading does not look past
the end of a value: what was read from a text is read from every longer one, so
that a document cut short is no document.  And a document whose strings are
spelled in seven bits has no other bytes.

## Main results

* `parse_extend` — reading is not changed by what follows a value.
* `parse_cut` — a compact object that lost its end is refused.
* `render_sevenBit` — the text of a value that is spelled in seven bits.
-/

namespace YourCloud.Foundation.Json

/-! ## The texts of members -/

/-- The members of an object with the text of each value, up to the closing
brace. -/
def rawMembersFrom : Nat → Bytes → Option (List (Bytes × Bytes))
  | 0, _ => none
  | fuel + 1, s =>
      match skipSpace s with
      | 0x22 :: rest => do
          let (name, s) ← lexString .plain rest
          match skipSpace s with
          | 0x3A :: rest =>
              let start := skipSpace rest
              let (_, s) ← parseValue (2 * start.length + 2) start
              let raw := start.take (start.length - s.length)
              match skipSpace s with
              | 0x7D :: _ => return [(unquote name, raw)]
              | 0x2C :: rest =>
                  let members ← rawMembersFrom fuel rest
                  return (unquote name, raw) :: members
              | _ => none
          | _ => none
      | _ => none

/-- The names of the members of an object and the exact texts of their values. -/
def rawMembers (document : Bytes) : Option (List (Bytes × Bytes)) :=
  match skipSpace document with
  | 0x7B :: rest =>
      match skipSpace rest with
      | 0x7D :: _ => some []
      | rest => rawMembersFrom (rest.length + 1) rest
  | _ => none

/-! ## Reading does not look past a value -/

theorem lexString_extend {q : Spelling} {s p r : Bytes} (h : lexString q s = some (p, r))
    (t : Bytes) : lexString q (s ++ t) = some (p, r ++ t) := by
  induction s generalizing q p with
  | nil => cases h
  | cons b s ih =>
      rw [List.cons_append, lexString]
      rw [lexString] at h
      split at h
      · rename_i hq
        obtain ⟨rfl, rfl⟩ := Prod.mk.inj (Option.some.inj h)
        rw [if_pos hq]
      · rename_i hq
        rw [if_neg hq]
        split at h
        · cases h
        · rename_i q' hq'
          obtain ⟨⟨p', r'⟩, hp, he⟩ := Option.map_eq_some_iff.1 h
          obtain ⟨rfl, rfl⟩ := Prod.mk.inj he
          simp only [ih hp, Option.map_some]

/-- A number that is followed by something ends where it ended. -/
theorem lexNumber_extend {q : Numeral} {s l r : Bytes} (h : lexNumber q s = some (l, r))
    (hr : r ≠ []) (t : Bytes) : lexNumber q (s ++ t) = some (l, r ++ t) := by
  induction s generalizing q l with
  | nil =>
      rw [lexNumber] at h
      split at h
      · exact absurd (Prod.mk.inj (Option.some.inj h)).2.symm hr
      · cases h
  | cons b s ih =>
      rw [List.cons_append, lexNumber]
      rw [lexNumber] at h
      split at h
      · rename_i q' hq'
        obtain ⟨⟨l', r'⟩, hl, he⟩ := Option.map_eq_some_iff.1 h
        obtain ⟨rfl, rfl⟩ := Prod.mk.inj he
        simp only [ih hl, Option.map_some]
      · split at h
        · rename_i hc
          obtain ⟨rfl, rfl⟩ := Prod.mk.inj (Option.some.inj h)
          simp only [hc, if_true, List.cons_append]
        · cases h

theorem expect_extend {word s r : Bytes} (h : expect word s = some r) (t : Bytes) :
    expect word (s ++ t) = some (r ++ t) := by
  rw [expect] at h
  split at h
  · rename_i hw
    obtain rfl := Option.some.inj h
    have hlen : word.length ≤ s.length := by
      have := congrArg List.length hw
      rw [List.length_take] at this
      omega
    rw [expect, List.take_append_of_le_length hlen, if_pos hw, List.drop_append_of_le_length hlen]
  · cases h

theorem skipSpace_extend {b : UInt8} {s r : Bytes} (h : skipSpace s = b :: r) (t : Bytes) :
    skipSpace (s ++ t) = b :: (r ++ t) := by
  induction s with
  | nil => cases h
  | cons c s ih =>
      rw [skipSpace, List.dropWhile_cons] at h
      rw [skipSpace, List.cons_append, List.dropWhile_cons]
      split at h
      · rename_i hc
        rw [if_pos hc]
        exact ih h
      · rename_i hc
        rw [if_neg hc]
        obtain ⟨rfl, rfl⟩ := List.cons.inj h
        rfl

/-- Whether a value ends by itself, as every value but a number does. -/
def selfDelimiting : Json → Bool
  | .number _ => false
  | _ => true

private theorem parseElements_nil (fuel : Nat) {p : List Json × Bytes} :
    parseElements fuel [] ≠ some p := by
  intro h
  cases fuel with
  | zero => cases h
  | succ fuel =>
      cases fuel with
      | zero => cases h
      | succ fuel => cases h

private theorem parseMembers_nil (fuel : Nat) {p : List (Bytes × Json) × Bytes} :
    parseMembers fuel [] ≠ some p := by
  intro h
  cases fuel with
  | zero => cases h
  | succ fuel => cases h

theorem parseValue_extend_step {fuel more : Nat}
    (ihe : ∀ s es r t, parseElements fuel s = some (es, r) →
      parseElements more (s ++ t) = some (es, r ++ t))
    (ihm : ∀ s ms r t, parseMembers fuel s = some (ms, r) →
      parseMembers more (s ++ t) = some (ms, r ++ t))
    {s r : Bytes} {j : Json} (h : parseValue (fuel + 1) s = some (j, r))
    (hend : r ≠ [] ∨ j.selfDelimiting = true) (t : Bytes) :
    parseValue (more + 1) (s ++ t) = some (j, r ++ t) := by
  rw [parseValue] at h
  split at h
  · cases h
  · rename_i b rest hskip
    rw [parseValue, skipSpace_extend hskip]
    simp only
    split at h
    · rename_i hb
      obtain ⟨⟨p, r'⟩, hp, he⟩ := Option.map_eq_some_iff.1 h
      obtain ⟨rfl, rfl⟩ := Prod.mk.inj he
      rw [if_pos hb, lexString_extend hp]
      rfl
    rename_i hquote
    rw [if_neg hquote]
    split at h
    · rename_i hb
      rw [if_pos hb]
      split at h
      · rename_i rest' hclose
        obtain ⟨rfl, rfl⟩ := Prod.mk.inj (Option.some.inj h)
        rw [skipSpace_extend hclose]
        rfl
      · rename_i hopen
        obtain ⟨⟨es, r'⟩, hes, he⟩ := Option.map_eq_some_iff.1 h
        obtain ⟨rfl, rfl⟩ := Prod.mk.inj he
        cases hs : skipSpace rest with
        | nil =>
            rw [hs] at hes
            exact absurd hes (parseElements_nil fuel)
        | cons c rest' =>
            rw [hs] at hes
            have hes' := ihe _ _ _ t hes
            rw [List.cons_append] at hes'
            rw [skipSpace_extend hs]
            split
            · rename_i heq
              exact absurd (hs.trans (congrArg (· :: rest') (List.cons.inj heq).1)) (hopen rest')
            · rw [hes']
              rfl
    rename_i harray
    rw [if_neg harray]
    split at h
    · rename_i hb
      rw [if_pos hb]
      split at h
      · rename_i rest' hclose
        obtain ⟨rfl, rfl⟩ := Prod.mk.inj (Option.some.inj h)
        rw [skipSpace_extend hclose]
        rfl
      · rename_i hopen
        obtain ⟨⟨ms, r'⟩, hms, he⟩ := Option.map_eq_some_iff.1 h
        obtain ⟨rfl, rfl⟩ := Prod.mk.inj he
        cases hs : skipSpace rest with
        | nil =>
            rw [hs] at hms
            exact absurd hms (parseMembers_nil fuel)
        | cons c rest' =>
            rw [hs] at hms
            have hms' := ihm _ _ _ t hms
            rw [List.cons_append] at hms'
            rw [skipSpace_extend hs]
            split
            · rename_i heq
              exact absurd (hs.trans (congrArg (· :: rest') (List.cons.inj heq).1)) (hopen rest')
            · rw [hms']
              rfl
    rename_i hobject
    rw [if_neg hobject]
    split at h
    · rename_i hb
      obtain ⟨r', hr, he⟩ := Option.map_eq_some_iff.1 h
      obtain ⟨rfl, rfl⟩ := Prod.mk.inj he
      rw [if_pos hb, expect_extend hr]
      rfl
    rename_i hnull
    rw [if_neg hnull]
    split at h
    · rename_i hb
      obtain ⟨r', hr, he⟩ := Option.map_eq_some_iff.1 h
      obtain ⟨rfl, rfl⟩ := Prod.mk.inj he
      rw [if_pos hb, expect_extend hr]
      rfl
    rename_i htrue
    rw [if_neg htrue]
    split at h
    · rename_i hb
      obtain ⟨r', hr, he⟩ := Option.map_eq_some_iff.1 h
      obtain ⟨rfl, rfl⟩ := Prod.mk.inj he
      rw [if_pos hb, expect_extend hr]
      rfl
    · rename_i hfalse
      rw [if_neg hfalse]
      obtain ⟨⟨l, r'⟩, hl, he⟩ := Option.map_eq_some_iff.1 h
      obtain ⟨rfl, rfl⟩ := Prod.mk.inj he
      have hne : r' ≠ [] := by
        rcases hend with hne | hd
        · exact hne
        · cases hd
      rw [← List.cons_append, lexNumber_extend hl hne]
      rfl

/-- What was read from a text is read from every longer one, with more fuel or
the same. -/
theorem parse_extend_aux (fuel : Nat) :
    (∀ s j r more t, parseValue fuel s = some (j, r) → fuel ≤ more →
      (r ≠ [] ∨ j.selfDelimiting = true) → parseValue more (s ++ t) = some (j, r ++ t)) ∧
    (∀ s es r more t, parseElements fuel s = some (es, r) → fuel ≤ more →
      parseElements more (s ++ t) = some (es, r ++ t)) ∧
    (∀ s ms r more t, parseMembers fuel s = some (ms, r) → fuel ≤ more →
      parseMembers more (s ++ t) = some (ms, r ++ t)) := by
  induction fuel with
  | zero =>
      refine ⟨?_, ?_, ?_⟩
      all_goals
        intro s v r more t h
        simp [parseValue, parseElements, parseMembers] at h
  | succ fuel ih =>
      obtain ⟨ihv, ihe, ihm⟩ := ih
      refine ⟨?_, ?_, ?_⟩
      · intro s j r more t h hmore hend
        obtain ⟨more, rfl⟩ : ∃ m, more = m + 1 := ⟨more - 1, by omega⟩
        exact parseValue_extend_step (fun s es r t h => ihe s es r more t h (by omega))
          (fun s ms r t h => ihm s ms r more t h (by omega)) h hend t
      · intro s es r more t h hmore
        obtain ⟨more, rfl⟩ : ∃ m, more = m + 1 := ⟨more - 1, by omega⟩
        rw [parseElements, Option.bind_eq_bind] at h
        obtain ⟨⟨value, s'⟩, hv, h⟩ := Option.bind_eq_some_iff.1 h
        simp only at h
        have hne : s' ≠ [] := by
          rintro rfl
          cases h
        have hvalue := ihv _ _ _ more t hv (by omega) (Or.inl hne)
        rw [parseElements, hvalue]
        simp only [Option.bind_eq_bind, Option.bind_some]
        split at h
        · rename_i rest hs
          obtain ⟨rfl, rfl⟩ := Prod.mk.inj (Option.some.inj h)
          rw [skipSpace_extend hs]
          rfl
        · rename_i rest hs
          obtain ⟨⟨values, rest'⟩, hes, he⟩ := Option.bind_eq_some_iff.1 h
          obtain ⟨rfl, rfl⟩ := Prod.mk.inj (Option.some.inj he)
          rw [skipSpace_extend hs]
          simp only [ihe _ _ _ more t hes (by omega), Option.bind_some]
          rfl
        · cases h
      · intro s ms r more t h hmore
        obtain ⟨more, rfl⟩ : ∃ m, more = m + 1 := ⟨more - 1, by omega⟩
        rw [parseMembers] at h
        split at h
        · rename_i rest hquote
          obtain ⟨⟨name, s'⟩, hname, h⟩ := Option.bind_eq_some_iff.1 h
          simp only at h
          split at h
          · rename_i rest' hcolon
            obtain ⟨⟨value, s''⟩, hv, h⟩ := Option.bind_eq_some_iff.1 h
            simp only at h
            have hne : s'' ≠ [] := by
              rintro rfl
              cases h
            have hvalue := ihv _ _ _ more t hv (by omega) (Or.inl hne)
            rw [parseMembers, skipSpace_extend hquote]
            simp only [Option.bind_eq_bind, lexString_extend hname, Option.bind_some,
              skipSpace_extend hcolon, hvalue]
            split at h
            · rename_i rest'' hs
              obtain ⟨rfl, rfl⟩ := Prod.mk.inj (Option.some.inj h)
              rw [skipSpace_extend hs]
              rfl
            · rename_i rest'' hs
              obtain ⟨⟨members, last⟩, hms, he⟩ := Option.bind_eq_some_iff.1 h
              obtain ⟨rfl, rfl⟩ := Prod.mk.inj (Option.some.inj he)
              rw [skipSpace_extend hs]
              simp only [ihm _ _ _ more t hms (by omega), Option.bind_some]
              rfl
            · cases h
          · cases h
        · cases h

/-- Reading is not changed by what follows a value that ends by itself. -/
theorem parse_extend {s r : Bytes} {j : Json} {fuel more : Nat}
    (h : parseValue fuel s = some (j, r)) (hmore : fuel ≤ more)
    (hj : j.selfDelimiting = true) (t : Bytes) :
    parseValue more (s ++ t) = some (j, r ++ t) :=
  (parse_extend_aux fuel).1 s j r more t h hmore (Or.inr hj)

/-- A text that starts with an opening brace is read as an object. -/
theorem selfDelimiting_of_brace {fuel : Nat} {s r : Bytes} {j : Json}
    (h : parseValue fuel (0x7B :: s) = some (j, r)) : j.selfDelimiting = true := by
  cases fuel with
  | zero => cases h
  | succ fuel =>
      rw [parseValue_cons (by decide), if_neg (by decide), if_neg (by decide), if_pos rfl] at h
      split at h
      · obtain ⟨rfl, -⟩ := Prod.mk.inj (Option.some.inj h)
        rfl
      · obtain ⟨p, -, he⟩ := Option.map_eq_some_iff.1 h
        obtain ⟨rfl, -⟩ := Prod.mk.inj he
        rfl

/-- A compact object that lost its end is no document. -/
theorem parse_cut {ms : List (Bytes × Json)} (h : (Json.object ms).WellFormed) {s t : Bytes}
    (hs : (Json.object ms).render = s ++ t) (ht : t ≠ []) : parse s = none := by
  cases hp : parse s with
  | none => rfl
  | some v =>
      exfalso
      rw [parse] at hp
      split at hp
      · rename_i value rest hv
        cases s with
        | nil => cases hv
        | cons b s =>
            have hbrace : b = 0x7B := by
              rw [render, List.cons_append, List.cons_append] at hs
              exact (List.cons.inj hs).1.symm
            subst hbrace
            have hfull := parseValue_render _ h endsNumber_nil
              (Nat.le_add_right (2 * (Json.object ms).render.length) 2)
            have hlen : 2 * (0x7B :: s : Bytes).length + 2 ≤
                2 * (Json.object ms).render.length + 2 := by
              rw [hs, List.length_append]
              omega
            have hext := parse_extend hv hlen (selfDelimiting_of_brace hv) t
            rw [List.append_nil, hs] at hfull
            rw [hs] at hext
            rw [hfull] at hext
            have hnil := (Prod.mk.inj (Option.some.inj hext)).2
            exact ht (List.append_eq_nil_iff.1 hnil.symm).2
      · cases hp

/-! ## Compact texts -/

/-- A document is no shorter than any of its members. -/
theorem render_length_member {ms : List (Bytes × Json)} {m : Bytes × Json} (hm : m ∈ ms) :
    m.2.render.length ≤ (Json.object ms).render.length := by
  have hmembers : m.2.render.length ≤ (renderMembers ms).length := by
    induction ms with
    | nil => cases hm
    | cons k ms ih =>
        obtain ⟨name, value⟩ := k
        cases ms with
        | nil =>
            obtain rfl := List.mem_singleton.1 hm
            simp only [renderMembers, List.length_append, List.length_cons]
            omega
        | cons next rest =>
            rw [renderMembers_cons]
            simp only [List.length_append, List.length_cons]
            rcases List.mem_cons.1 hm with rfl | hm
            · simp only
              omega
            · have := ih hm
              omega
  simp only [render, List.length_append, List.length_cons]
  omega

/-- An array is no shorter than its elements together. -/
theorem render_length_elements (es : List Json) :
    (es.map fun e => e.render.length).sum ≤ (Json.array es).render.length := by
  have helements : (es.map fun e => e.render.length).sum ≤ (renderElements es).length := by
    induction es with
    | nil => exact Nat.le_refl _
    | cons e es ih =>
        cases es with
        | nil => simp [renderElements]
        | cons next rest =>
            rw [renderElements_cons, List.map_cons, List.sum_cons, List.length_append,
              List.length_cons]
            omega
  simp only [render, List.length_append, List.length_cons]
  omega

/-! ## Seven-bit texts -/

mutual

/-- Every string and number of a value is spelled in seven bits. -/
def SevenBit : Json → Prop
  | .number literal => ∀ b ∈ literal, b < 0x80
  | .string spelling => ∀ b ∈ spelling, b < 0x80
  | .array elements => SevenBitElements elements
  | .object members => SevenBitMembers members
  | _ => True

def SevenBitElements : List Json → Prop
  | [] => True
  | value :: rest => SevenBit value ∧ SevenBitElements rest

def SevenBitMembers : List (Bytes × Json) → Prop
  | [] => True
  | (name, value) :: rest => (∀ b ∈ name, b < 0x80) ∧ SevenBit value ∧ SevenBitMembers rest

end

theorem sevenBit_array {es : List Json} (h : ∀ e ∈ es, e.SevenBit) : (Json.array es).SevenBit := by
  rw [SevenBit]
  induction es with
  | nil => trivial
  | cons e es ih => exact ⟨h e List.mem_cons_self, ih fun k hk => h k (List.mem_cons_of_mem _ hk)⟩

theorem sevenBit_object {ms : List (Bytes × Json)}
    (h : ∀ m ∈ ms, (∀ b ∈ m.1, b < 0x80) ∧ m.2.SevenBit) : (Json.object ms).SevenBit := by
  rw [SevenBit]
  induction ms with
  | nil => trivial
  | cons m ms ih =>
      obtain ⟨hname, hvalue⟩ := h m List.mem_cons_self
      exact ⟨hname, hvalue, ih fun k hk => h k (List.mem_cons_of_mem _ hk)⟩

theorem sevenBit_of_all {s : Bytes} (h : (s.all fun b => b < 0x80) = true) :
    ∀ b ∈ s, b < 0x80 := by
  simpa using h

private theorem renderMember_sevenBit {name : Bytes} {value : Json}
    (hname : ∀ b ∈ name, b < 0x80) (hvalue : ∀ b ∈ value.render, b < 0x80) :
    ∀ b ∈ 0x22 :: name ++ 0x22 :: 0x3A :: value.render, b < 0x80 := by
  simp only [List.forall_mem_append, List.forall_mem_cons]
  exact ⟨⟨by decide, hname⟩, by decide, by decide, hvalue⟩

mutual

/-- The text of a value spelled in seven bits has no other bytes. -/
theorem render_sevenBit : ∀ (j : Json), j.SevenBit → ∀ b ∈ j.render, b < 0x80
  | .null, _ => sevenBit_of_all (by decide)
  | .bool true, _ => sevenBit_of_all (by decide)
  | .bool false, _ => sevenBit_of_all (by decide)
  | .number literal, h => h
  | .string spelling, h => by
      simp only [render, List.forall_mem_append, List.forall_mem_cons]
      exact ⟨⟨by decide, h⟩, by decide, List.forall_mem_nil _⟩
  | .array elements, h => by
      simp only [render, List.forall_mem_append, List.forall_mem_cons]
      exact ⟨⟨by decide, renderElements_sevenBit elements h⟩, by decide, List.forall_mem_nil _⟩
  | .object members, h => by
      simp only [render, List.forall_mem_append, List.forall_mem_cons]
      exact ⟨⟨by decide, renderMembers_sevenBit members h⟩, by decide, List.forall_mem_nil _⟩

theorem renderElements_sevenBit : ∀ (es : List Json), SevenBitElements es →
    ∀ b ∈ renderElements es, b < 0x80
  | [], _ => List.forall_mem_nil _
  | [value], h => render_sevenBit value h.1
  | value :: next :: rest, h => by
      rw [renderElements_cons, List.forall_mem_append, List.forall_mem_cons]
      exact ⟨render_sevenBit value h.1, by decide, renderElements_sevenBit (next :: rest) h.2⟩

theorem renderMembers_sevenBit : ∀ (ms : List (Bytes × Json)), SevenBitMembers ms →
    ∀ b ∈ renderMembers ms, b < 0x80
  | [], _ => List.forall_mem_nil _
  | [(name, value)], h => renderMember_sevenBit h.1 (render_sevenBit value h.2.1)
  | (name, value) :: next :: rest, h => by
      rw [renderMembers_cons, List.forall_mem_append, List.forall_mem_cons]
      exact ⟨renderMember_sevenBit h.1 (render_sevenBit value h.2.1), by decide,
        renderMembers_sevenBit (next :: rest) h.2.2⟩

end

theorem quoteByte_sevenBit (html : Bool) {b : UInt8} (hb : b < 0x80) :
    ∀ c ∈ quoteByte html b, c < 0x80 := by
  have hdigit : ∀ n, n < 16 → hexDigit n < 0x80 := by decide
  have hlt : b.toNat < 256 := b.toNat_lt
  have hhex : ∀ c ∈ escapeHex b, c < 0x80 := by
    simp only [escapeHex, List.forall_mem_cons]
    exact ⟨by decide, by decide, by decide, by decide, hdigit _ (by omega), hdigit _ (by omega),
      List.forall_mem_nil _⟩
  have hpair (c : UInt8) (hc : c < 0x80) : ∀ d ∈ [(0x5C : UInt8), c], d < 0x80 := by
    simp only [List.forall_mem_cons]
    exact ⟨by decide, hc, List.forall_mem_nil _⟩
  unfold quoteByte
  split
  · exact hpair b hb
  split
  · exact hpair _ (by decide)
  split
  · exact hpair _ (by decide)
  split
  · exact hpair _ (by decide)
  split
  · exact hpair _ (by decide)
  split
  · exact hpair _ (by decide)
  split
  · exact hhex
  · exact List.forall_mem_singleton.2 hb

/-- A seven-bit string is written in seven bits. -/
theorem quote_sevenBit (html : Bool) {s : Bytes} (h : ∀ b ∈ s, b < 0x80) :
    ∀ b ∈ quote html s, b < 0x80 := by
  induction s with
  | nil => exact List.forall_mem_nil _
  | cons b s ih =>
      rw [List.forall_mem_cons] at h
      rw [quote_ascii html h.1, List.forall_mem_append]
      exact ⟨quoteByte_sevenBit html h.1, ih h.2⟩

theorem decimal_sevenBit (n : Nat) : ∀ b ∈ decimal n, b < 0x80 := by
  intro b hb
  have hdigit := decimal_digits n b hb
  simp only [isDigit, Bool.and_eq_true, decide_eq_true_eq] at hdigit
  exact UInt8.lt_of_le_of_lt hdigit.2 (by decide)

end YourCloud.Foundation.Json
