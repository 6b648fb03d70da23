import Mathlib.Data.List.Induction
import Mathlib.Order.Defs.Unbundled

/-!
# Runs of deterministic machines

A machine answers each event and moves to a new state.  Everything the machine
does not decide — which request comes next, where a crash falls, whether a
lock is free, what another program writes — is part of the event, so a run is
a fold over a list of events and every run can be computed.

The rules below turn what one step preserves into what a whole run preserves.
A guarded rule asks for the step only where a condition on the state and the
event holds, and gives the conclusion for the runs whose every step meets it.

## Main results

* `run_invariant`, `run_invariant_of_admits` — an invariant of every step, or
  of every admitted step, holds after every such run.
* `admits_of_invariant` — what the admitted steps meet under the invariant.
* `run_relation_of_admits` — a preorder that every admitted step respects relates
  the ends of a run.
* `history_invariant` — an invariant that speaks of the answers given so far.
* `run_noting` — what is noted of the steps does not change the run.
-/

namespace YourCloud.Foundation

variable {σ ε ω : Type*} (step : σ → ε → σ × ω)

/-- The state after one event. -/
def next (s : σ) (e : ε) : σ := (step s e).1

/-- The answer to one event. -/
def answer (s : σ) (e : ε) : ω := (step s e).2

/-- The state after a list of events. -/
def run (s : σ) (es : List ε) : σ := es.foldl (next step) s

/-- The events of a run with their answers, in order. -/
def history (s : σ) : List ε → List (ε × ω)
  | [] => []
  | e :: es => (e, answer step s e) :: history (next step s e) es

/-- Every step of a run meets a condition on its state and event. -/
def Admits (ok : σ → ε → Prop) (s : σ) : List ε → Prop
  | [] => True
  | e :: es => ok s e ∧ Admits ok (next step s e) es

instance decidableAdmits (ok : σ → ε → Prop) [∀ s e, Decidable (ok s e)] :
    ∀ (s : σ) (es : List ε), Decidable (Admits step ok s es)
  | _, [] => inferInstanceAs (Decidable True)
  | s, e :: es =>
      have := decidableAdmits ok (next step s e) es
      inferInstanceAs (Decidable (ok s e ∧ Admits step ok (next step s e) es))

/-- Some step of a run meets a condition on its state and event. -/
def Occurs (ok : σ → ε → Prop) (s : σ) : List ε → Prop
  | [] => False
  | e :: es => ok s e ∨ Occurs ok (next step s e) es

@[simp] theorem run_nil (s : σ) : run step s [] = s := rfl

@[simp] theorem run_cons (s : σ) (e : ε) (es : List ε) :
    run step s (e :: es) = run step (next step s e) es := rfl

theorem run_append (s : σ) (es fs : List ε) :
    run step s (es ++ fs) = run step (run step s es) fs :=
  List.foldl_append

theorem history_append (s : σ) (es fs : List ε) :
    history step s (es ++ fs) = history step s es ++ history step (run step s es) fs := by
  induction es generalizing s with
  | nil => rfl
  | cons e es ih =>
      rw [List.cons_append, history, ih, history, run_cons]
      rfl

theorem admits_append {ok : σ → ε → Prop} {s : σ} {es fs : List ε} :
    Admits step ok s (es ++ fs) ↔ Admits step ok s es ∧ Admits step ok (run step s es) fs := by
  induction es generalizing s with
  | nil => simp [Admits]
  | cons e es ih =>
      rw [List.cons_append, Admits, ih, Admits, run_cons, and_assoc]

theorem occurs_append {ok : σ → ε → Prop} {s : σ} {es fs : List ε} :
    Occurs step ok s (es ++ fs) ↔ Occurs step ok s es ∨ Occurs step ok (run step s es) fs := by
  induction es generalizing s with
  | nil => simp [Occurs]
  | cons e es ih =>
      rw [List.cons_append, Occurs, ih, Occurs, run_cons, or_assoc]

/-! ## Notes

What is noted of a step does not change where the system goes. -/

/-- A system with what is noted of its steps, from the state before each. -/
def noting {γ : Type*} (note : σ → ε → γ → γ) (s : σ × γ) (e : ε) : (σ × γ) × ω :=
  ((next step s.1 e, note s.1 e s.2), answer step s.1 e)

theorem next_noting {γ : Type*} (note : σ → ε → γ → γ) (s : σ × γ) (e : ε) :
    next (noting step note) s e = (next step s.1 e, note s.1 e s.2) := rfl

theorem run_noting {γ : Type*} (note : σ → ε → γ → γ) (s : σ × γ) (es : List ε) :
    (run (noting step note) s es).1 = run step s.1 es := by
  induction es generalizing s with
  | nil => rfl
  | cons e es ih => rw [run_cons, ih, next_noting, run_cons]

section Rules

variable {step}

/-- An invariant of every admitted step. -/
theorem run_invariant_of_admits {ok : σ → ε → Prop} {inv : σ → Prop}
    (hstep : ∀ s e, inv s → ok s e → inv (next step s e))
    {s : σ} {es : List ε} (hs : inv s) (hes : Admits step ok s es) : inv (run step s es) := by
  induction es generalizing s with
  | nil => exact hs
  | cons e es ih => exact ih (hstep s e hs hes.1) hes.2

/-- An invariant of every step. -/
theorem run_invariant {inv : σ → Prop} (hstep : ∀ s e, inv s → inv (next step s e))
    {s : σ} (hs : inv s) (es : List ε) : inv (run step s es) := by
  induction es generalizing s with
  | nil => exact hs
  | cons e es ih => exact ih (hstep s e hs)

/-- What every admitted step that starts in the invariant meets, every step of the run meets. -/
theorem admits_of_invariant {ok good : σ → ε → Prop} {inv : σ → Prop}
    (hstep : ∀ s e, inv s → ok s e → inv (next step s e))
    (hgood : ∀ s e, inv s → ok s e → good s e)
    {s : σ} {es : List ε} (hs : inv s) (hes : Admits step ok s es) : Admits step good s es := by
  induction es generalizing s with
  | nil => exact trivial
  | cons e es ih => exact ⟨hgood s e hs hes.1, ih (hstep s e hs hes.1) hes.2⟩

/-- A condition on the events alone joins that of the steps. -/
theorem admits_and {ok : σ → ε → Prop} {p : ε → Prop} {s : σ} {es : List ε}
    (h : Admits step ok s es) (hp : ∀ e ∈ es, p e) :
    Admits step (fun s e => ok s e ∧ p e) s es := by
  induction es generalizing s with
  | nil => exact trivial
  | cons e es ih =>
      exact ⟨⟨h.1, hp e List.mem_cons_self⟩, ih h.2 fun e he => hp e (List.mem_cons_of_mem _ he)⟩

/-- A preorder that every admitted step respects. -/
theorem run_relation_of_admits (r : σ → σ → Prop) {ok : σ → ε → Prop} (hrefl : ∀ s, r s s)
    (htrans : ∀ s t u, r s t → r t u → r s u) (hstep : ∀ s e, ok s e → r s (next step s e))
    {s : σ} {es : List ε} (hes : Admits step ok s es) : r s (run step s es) := by
  induction es generalizing s with
  | nil => exact hrefl s
  | cons e es ih => exact htrans _ _ _ (hstep s e hes.1) (ih hes.2)

/-- An invariant of the history so far and the state reached. -/
theorem history_invariant_of_admits (inv : List (ε × ω) → σ → Prop) {ok : σ → ε → Prop}
    (hstep : ∀ h s e, inv h s → ok s e → inv (h ++ [(e, answer step s e)]) (next step s e))
    {h : List (ε × ω)} {s : σ} {es : List ε} (hs : inv h s) (hes : Admits step ok s es) :
    inv (h ++ history step s es) (run step s es) := by
  induction es generalizing s h with
  | nil =>
      rw [history, List.append_nil]
      exact hs
  | cons e es ih =>
      have := ih (hstep h s e hs hes.1) hes.2
      rwa [List.append_assoc] at this

/-- Every run meets no condition at all. -/
theorem admits_true (s : σ) (es : List ε) : Admits step (fun _ _ => True) s es := by
  induction es generalizing s with
  | nil => exact trivial
  | cons e es ih => exact ⟨trivial, ih _⟩

theorem history_invariant {inv : List (ε × ω) → σ → Prop}
    (hstep : ∀ h s e, inv h s → inv (h ++ [(e, answer step s e)]) (next step s e))
    {s : σ} (hs : inv [] s) (es : List ε) : inv (history step s es) (run step s es) := by
  have hguarded : ∀ h s e, inv h s → (fun _ _ => True : σ → ε → Prop) s e →
      inv (h ++ [(e, answer step s e)]) (next step s e) := fun h s e hi _ => hstep h s e hi
  exact history_invariant_of_admits inv hguarded hs (admits_true s es)

end Rules

end YourCloud.Foundation
