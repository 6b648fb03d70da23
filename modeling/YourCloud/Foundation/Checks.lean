import YourCloud.Foundation.Bytes

/-!
# Checks that refuse

A validator makes one check after the other and ends with the first error.  An
error is a sentence that may quote a value of the document; how a value is
quoted is not spelled out here, so that a sentence keeps the values it quotes.

## Main results

* `demand_eq_ok`, `bind_ok_iff` — what a document that passes has passed.
* `foldlM_passed` — every value of a list that passes has passed.
* `forM_ok_iff`, `mapM_ok_iff` — when a list passes, and what it is read into.
-/

namespace YourCloud.Foundation

/-- A part of an error. -/
inductive Fragment where
  | words (s : Bytes)
  | quoted (value : Bytes)
  deriving DecidableEq, Repr

abbrev Sentence := List Fragment

def say (s : String) : Sentence := [.words (text s)]

def cite (value : Bytes) : Sentence := [.quoted value]

/-- The numeral of a number. -/
def count (n : Nat) : Sentence := [.words (decimal n)]

universe u

variable {ε : Type*} {α β σ : Type u}

/-- Goes on only where a condition holds. -/
def demand (holds : Bool) (why : ε) : Except ε Unit := if holds then .ok () else .error why

/-- Goes on with what was found. -/
def found (o : Option α) (why : ε) : Except ε α :=
  match o with
  | some a => .ok a
  | none => .error why

theorem demand_eq_ok {holds : Bool} {why : ε} {u : Unit} :
    demand holds why = .ok u ↔ holds = true := by
  cases holds with
  | true => exact ⟨fun _ => rfl, fun _ => rfl⟩
  | false => exact ⟨nofun, nofun⟩

theorem found_eq_ok {o : Option α} {why : ε} {a : α} :
    found o why = .ok a ↔ o = some a := by
  cases o with
  | some b => simp [found]
  | none => exact ⟨nofun, nofun⟩

/-- What succeeded did so in each of its two parts. -/
theorem bind_ok_iff {x : Except ε α} {f : α → Except ε β} {b : β} :
    (x >>= f) = .ok b ↔ ∃ a, x = .ok a ∧ f a = .ok b := by
  cases x with
  | error e => exact ⟨nofun, fun ⟨_, h, _⟩ => nomatch h⟩
  | ok a =>
      constructor
      · exact fun h => ⟨a, rfl, h⟩
      · rintro ⟨a', ha, h⟩
        rw [← Except.ok.inj ha] at h
        exact h

theorem map_ok_iff {x : Except ε α} {f : α → β} {b : β} :
    x.map f = .ok b ↔ ∃ a, x = .ok a ∧ f a = b := by
  cases x with
  | error e => exact ⟨nofun, fun ⟨_, h, _⟩ => nomatch h⟩
  | ok a =>
      constructor
      · exact fun h => ⟨a, rfl, Except.ok.inj h⟩
      · rintro ⟨a', ha, rfl⟩
        rw [← Except.ok.inj ha]
        rfl

/-- Every value of a list that passes has passed, from some state. -/
theorem foldlM_passed {step : σ → α → Except ε σ} {s t : σ} {l : List α}
    (h : l.foldlM step s = .ok t) : ∀ a ∈ l, ∃ u v, step u a = .ok v := by
  induction l generalizing s with
  | nil => exact fun _ ha => absurd ha List.not_mem_nil
  | cons b l ih =>
      rw [List.foldlM_cons] at h
      obtain ⟨u, hstep, hrest⟩ := bind_ok_iff.1 h
      intro a ha
      rcases List.mem_cons.1 ha with rfl | ha
      · exact ⟨s, u, hstep⟩
      · exact ih hrest a ha

theorem mapM_passed {f : α → Except ε β} {l : List α} {l' : List β} (h : l.mapM f = .ok l') :
    ∀ a ∈ l, ∃ b, f a = .ok b := by
  induction l generalizing l' with
  | nil => exact fun _ ha => absurd ha List.not_mem_nil
  | cons c l ih =>
      rw [List.mapM_cons] at h
      obtain ⟨b, hb, hrest⟩ := bind_ok_iff.1 h
      obtain ⟨bs, hbs, -⟩ := bind_ok_iff.1 hrest
      intro a ha
      rcases List.mem_cons.1 ha with rfl | ha
      · exact ⟨b, hb⟩
      · exact ih hbs a ha

/-- A check of every value of a list passes exactly where each does. -/
theorem forM_ok_iff {f : α → Except ε PUnit.{u + 1}} {l : List α} :
    l.forM f = .ok ⟨⟩ ↔ ∀ a ∈ l, f a = .ok ⟨⟩ := by
  induction l with
  | nil => simp [List.forM, pure, Except.pure]
  | cons b l ih =>
      show (f b >>= fun _ => l.forM f) = .ok ⟨⟩ ↔ _
      rw [bind_ok_iff, List.forall_mem_cons, ← ih]
      constructor
      · rintro ⟨⟨⟩, hb, hrest⟩
        exact ⟨hb, hrest⟩
      · rintro ⟨hb, hrest⟩
        exact ⟨⟨⟩, hb, hrest⟩

/-- What a list is read into is what each of its values is read into. -/
theorem mapM_ok_iff {f : α → Except ε β} {l : List α} {l' : List β} :
    l.mapM f = .ok l' ↔ List.Forall₂ (fun a b => f a = .ok b) l l' := by
  induction l generalizing l' with
  | nil =>
      rw [List.mapM_nil]
      simp [pure, Except.pure, eq_comm]
  | cons b l ih =>
      rw [List.mapM_cons, bind_ok_iff]
      constructor
      · rintro ⟨c, hc, hrest⟩
        obtain ⟨cs, hcs, hl'⟩ := bind_ok_iff.1 hrest
        rw [← Except.ok.inj hl']
        exact .cons hc (ih.1 hcs)
      · intro h
        cases h with
        | cons hc hcs => exact ⟨_, hc, bind_ok_iff.2 ⟨_, ih.2 hcs, rfl⟩⟩

end YourCloud.Foundation
