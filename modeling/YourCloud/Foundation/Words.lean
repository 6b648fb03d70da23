import Mathlib.Data.List.Basic

/-!
# Words and how they are quoted

A text is read into words: blanks part them, but not between two marks, and a character
behind an escape stands for itself.  What a sign is behind another one of itself is one,
and behind anything else it is not a text any more but something to look up.

Who writes a text so that it is read back has three layers to put on, and the order in
which they come off is the order of the reader.

## Main results

* `words_quoted` — a text between marks is one word, whatever is in it.
* `words_bare` — so is one that has nothing to quote.
* `single_doubled` — a doubled sign is a sign.
-/

namespace YourCloud.Foundation.Words

universe u

/-- The characters a reader of words stops at. -/
structure Quoting (α : Type u) where
  blank : α → Bool
  mark : α → Bool
  escape : α
  /-- What stands for itself behind an escape. -/
  escaped : α → Bool

variable {α : Type u} [DecidableEq α] (quoting : Quoting α)

/-- The words of a text: from behind an escape, behind a mark, and within a word.  A mark that is
not closed, or an escape of something else, makes the whole unreadable. -/
def wordsFrom : Bool → Option α → Option (List α) → List α → Option (List (List α))
  | false, none, word, [] => some word.toList
  | false, some _, _, [] => none
  | true, _, _, [] => none
  | true, opened, word, c :: rest =>
      if quoting.escaped c then wordsFrom false opened (some (word.getD [] ++ [c])) rest else none
  | false, some mark, word, c :: rest =>
      if c = quoting.escape then wordsFrom true (some mark) word rest
      else if c = mark then wordsFrom false none (some (word.getD [])) rest
      else wordsFrom false (some mark) (some (word.getD [] ++ [c])) rest
  | false, none, word, c :: rest =>
      if c = quoting.escape then wordsFrom true none word rest
      else if quoting.mark c then wordsFrom false (some c) (some (word.getD [])) rest
      else if quoting.blank c then (wordsFrom false none none rest).map (word.toList ++ ·)
      else wordsFrom false none (some (word.getD [] ++ [c])) rest

def words (s : List α) : Option (List (List α)) := wordsFrom quoting false none none s

/-- A text whose marks and escapes are escaped. -/
def guarded (guard : α → Bool) (s : List α) : List α :=
  s.flatMap fun c => if guard c then [quoting.escape, c] else [c]

/-- A text in which a sign is doubled wherever it stands. -/
def doubled (sign : α) (s : List α) : List α := s.flatMap fun c => if c = sign then [sign, c] else [c]

/-- A text in which each doubled sign is one, from behind a sign.  None of them stands alone. -/
def singleFrom (sign : α) : Bool → List α → Option (List α)
  | false, [] => some []
  | true, [] => none
  | false, c :: rest =>
      if c = sign then singleFrom sign true rest else (singleFrom sign false rest).map (c :: ·)
  | true, c :: rest =>
      if c = sign then (singleFrom sign false rest).map (sign :: ·) else none

def single (sign : α) (s : List α) : Option (List α) := singleFrom sign false s

theorem single_doubled (sign : α) (s : List α) : single sign (doubled sign s) = some s := by
  unfold single
  induction s with
  | nil => rfl
  | cons c s ih =>
      by_cases hc : c = sign
      · have hdoubled : doubled sign (c :: s) = sign :: sign :: doubled sign s := by
          simp [doubled, hc]
        rw [hdoubled, singleFrom, if_pos rfl, singleFrom, if_pos rfl, ih, hc]
        rfl
      · have hdoubled : doubled sign (c :: s) = c :: doubled sign s := by simp [doubled, hc]
        rw [hdoubled, singleFrom, if_neg hc, ih]
        rfl

variable {quoting}

/-- What stands between two marks is read as it was before it was guarded. -/
theorem wordsFrom_guarded {mark : α} {guard : α → Bool} (hmark : guard mark = true)
    (hescape : guard quoting.escape = true) (hguard : ∀ c, guard c = true → quoting.escaped c = true)
    (hne : mark ≠ quoting.escape) (word s rest : List α) :
    wordsFrom quoting false (some mark) (some word) (guarded quoting guard s ++ mark :: rest) =
      wordsFrom quoting false none (some (word ++ s)) rest := by
  induction s generalizing word with
  | nil =>
      have hguarded : guarded quoting guard [] = [] := rfl
      rw [hguarded, List.nil_append, wordsFrom, if_neg hne, if_pos rfl, List.append_nil]
      rfl
  | cons c s ih =>
      by_cases hc : guard c = true
      · have hguarded : guarded quoting guard (c :: s) =
            quoting.escape :: c :: guarded quoting guard s := by simp [guarded, hc]
        rw [hguarded, List.cons_append, List.cons_append, wordsFrom, if_pos rfl, wordsFrom,
          if_pos (hguard c hc), Option.getD_some, ih, List.append_assoc, List.singleton_append]
      · have hguarded : guarded quoting guard (c :: s) = c :: guarded quoting guard s := by
          simp [guarded, hc]
        have hcEscape : c ≠ quoting.escape := by
          rintro rfl
          exact hc hescape
        have hcMark : c ≠ mark := by
          rintro rfl
          exact hc hmark
        rw [hguarded, List.cons_append, wordsFrom, if_neg hcEscape, if_neg hcMark,
          Option.getD_some, ih, List.append_assoc, List.singleton_append]

/-- A text between two marks is one word. -/
theorem words_quoted {mark : α} {guard : α → Bool} (hmark : quoting.mark mark = true)
    (hguarded : guard mark = true) (hescape : guard quoting.escape = true)
    (hguard : ∀ c, guard c = true → quoting.escaped c = true) (hne : mark ≠ quoting.escape)
    (s : List α) :
    words quoting (mark :: (guarded quoting guard s ++ [mark])) = some [s] := by
  rw [words, wordsFrom, if_neg hne, if_pos hmark, Option.getD_none,
    wordsFrom_guarded hguarded hescape hguard hne, wordsFrom]
  rfl

/-- A character that no reader of words stops at. -/
structure Bare (quoting : Quoting α) (c : α) : Prop where
  escape : c ≠ quoting.escape
  mark : quoting.mark c = false
  blank : quoting.blank c = false

theorem wordsFrom_bare {c : α} (h : Bare quoting c) (word : Option (List α)) (rest : List α) :
    wordsFrom quoting false none word (c :: rest) =
      wordsFrom quoting false none (some (word.getD [] ++ [c])) rest := by
  rw [wordsFrom, if_neg h.escape, if_neg (by simp [h.mark]), if_neg (by simp [h.blank])]

/-- A text that has nothing to quote is one word. -/
theorem words_bare {s : List α} (hne : s ≠ []) (h : ∀ c ∈ s, Bare quoting c) :
    words quoting s = some [s] := by
  have hword : ∀ (s word : List α), (∀ c ∈ s, Bare quoting c) →
      wordsFrom quoting false none (some word) s = some [word ++ s] := by
    intro s
    induction s with
    | nil => simp [wordsFrom]
    | cons c s ih =>
        intro word h
        rw [List.forall_mem_cons] at h
        rw [wordsFrom_bare h.1, ih _ h.2, Option.getD_some, List.append_assoc, List.singleton_append]
  cases s with
  | nil => exact absurd rfl hne
  | cons c s =>
      rw [List.forall_mem_cons] at h
      rw [words, wordsFrom_bare h.1, hword s _ h.2]
      rfl

end YourCloud.Foundation.Words
