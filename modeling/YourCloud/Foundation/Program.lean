import Mathlib.Init

/-!
# Programs that can fail or die at every step

A program changes a state and then returns, fails or dies: it fails where a
step answers with an error, and dies where the process ends at that step.  What
each step meets is a verdict the program does not choose, so that a statement
about all verdicts is one about every failure and every crash.

An assertion about a program has three ends: what holds of a value returned,
what holds after a failure and what holds where the program died.

## Main results

* `Ensures.bind`, `Ensures.attempt`, `Ensures.otherwise` — the rules by which
  the assertions of parts make up the assertion of a whole.
-/

namespace YourCloud.Foundation

/-- A condition of a computation that may refuse. -/
def require (b : Bool) : Option Unit := if b then some () else none

@[simp] theorem require_eq_some {b : Bool} {u : Unit} : require b = some u ↔ b = true := by
  cases b with
  | true => exact ⟨fun _ => rfl, fun _ => rfl⟩
  | false => exact ⟨nofun, nofun⟩

universe u v

variable {σ : Type u} {α β : Type v}

/-- What one step of a program meets. -/
inductive Verdict where
  | done
  | fails
  | dies
  deriving DecidableEq, Repr

/-- How a program ends. -/
inductive Ending (α : Type v) where
  | returned (a : α)
  | failed
  /-- The process ended where it stood. -/
  | died
  deriving DecidableEq, Repr

/-- A program over a state. -/
def Program (σ : Type u) (α : Type v) := σ → Ending α × σ

namespace Program

def pure (a : α) : Program σ α := fun s => (.returned a, s)

def bind (p : Program σ α) (f : α → Program σ β) : Program σ β := fun s =>
  match p s with
  | (.returned a, s) => f a s
  | (.failed, s) => (.failed, s)
  | (.died, s) => (.died, s)

instance : Monad (Program σ : Type v → Type (max u v)) where
  pure := pure
  bind := bind

/-- An error of the program's own. -/
def fail : Program σ α := fun s => (.failed, s)

/-- The process ends, with what a step leaves half done. -/
def die (part : σ → σ) : Program σ α := fun s => (.died, part s)

/-- Goes on only where a condition holds. -/
def check (b : Bool) : Program σ Unit := if b then pure () else fail

/-- A value read off the state, or an error. -/
def ask (f : σ → Option α) : Program σ α := fun s =>
  match f s with
  | some a => (.returned a, s)
  | none => (.failed, s)

/-- A step that takes effect, or stops before it does. -/
def effect (v : Verdict) (f : σ → σ) : Program σ Unit := fun s =>
  match v with
  | .done => (.returned (), f s)
  | .fails => (.failed, s)
  | .dies => (.died, s)

/-- A step without an effect on the state. -/
def call (v : Verdict) : Program σ Unit := effect v id

/-- A step that leaves a part of its effect behind where it stops. -/
def torn (v : Verdict) (part : σ → σ) (f : σ → σ) : Program σ Unit := fun s =>
  match v with
  | .done => (.returned (), f s)
  | .fails => (.failed, part s)
  | .dies => (.died, part s)

/-- The result of a program whose error is passed over. -/
def attempt (p : Program σ α) : Program σ (Option α) := fun s =>
  match p s with
  | (.returned a, s) => (.returned (some a), s)
  | (.failed, s) => (.returned none, s)
  | (.died, s) => (.died, s)

/-- A program whose failure is cleaned up after. -/
def otherwise (p : Program σ α) (cleanup : Program σ Unit) : Program σ α := fun s =>
  match p s with
  | (.failed, s) =>
      match cleanup s with
      | (.died, s) => (.died, s)
      | (_, s) => (.failed, s)
  | result => result

end Program

theorem Program.map_apply (g : α → β) (p : Program σ α) (s : σ) :
    (g <$> p) s = match p s with
      | (.returned a, s) => (.returned (g a), s)
      | (.failed, s) => (.failed, s)
      | (.died, s) => (.died, s) := rfl

/-! ## Assertions -/

/-- What holds of an ending: `post` of a value returned, `failed` and `died` of
the other two. -/
def Ends (post : α → σ → Prop) (failed died : σ → Prop) : Ending α × σ → Prop
  | (.returned a, s) => post a s
  | (.failed, s) => failed s
  | (.died, s) => died s

/-- From a state with `pre`, the program returns with `post`, fails with
`failed` or dies with `died`. -/
def Ensures (pre : σ → Prop) (p : Program σ α) (post : α → σ → Prop) (failed died : σ → Prop) :
    Prop :=
  ∀ s, pre s → Ends post failed died (p s)

namespace Ensures

variable {pre pre' : σ → Prop} {p : Program σ α} {f : α → Program σ β}
variable {m post' : α → σ → Prop} {post : β → σ → Prop} {failed failed' died died' : σ → Prop}

theorem weaken (h : Ensures pre p m failed died) (hpre : ∀ s, pre' s → pre s)
    (hpost : ∀ a s, m a s → post' a s) (hfailed : ∀ s, failed s → failed' s)
    (hdied : ∀ s, died s → died' s) : Ensures pre' p post' failed' died' := by
  intro s hs
  have hend := h s (hpre s hs)
  cases hr : p s with
  | mk ending t =>
      rw [hr] at hend
      cases ending with
      | returned a => exact hpost a t hend
      | failed => exact hfailed t hend
      | died => exact hdied t hend

theorem from_pre (h : Ensures pre p m failed died) (hpre : ∀ s, pre' s → pre s) :
    Ensures pre' p m failed died :=
  fun s hs => h s (hpre s hs)

/-- An assertion from each state alone. -/
theorem each (h : ∀ s, pre s → Ensures (· = s) p m failed died) : Ensures pre p m failed died :=
  fun s hs => h s hs s rfl

theorem bind (hp : Ensures pre p m failed died)
    (hf : ∀ a, Ensures (m a) (f a) post failed died) :
    Ensures pre (p >>= f) post failed died := by
  intro s hs
  have hend := hp s hs
  show Ends post failed died (Program.bind p f s)
  unfold Program.bind
  cases hr : p s with
  | mk ending t =>
      rw [hr] at hend
      cases ending with
      | returned a => exact hf a t hend
      | failed => exact hend
      | died => exact hend

/-- What a part returns with may say something of the steps it met alone. -/
theorem bind_of {q : α → Prop} (hp : Ensures pre p (fun a s => q a ∧ m a s) failed died)
    (hf : ∀ a, q a → Ensures (m a) (f a) post failed died) :
    Ensures pre (p >>= f) post failed died :=
  bind hp fun a s h => hf a h.1 s h.2

theorem pure {a : α} (h : ∀ s, pre s → m a s) :
    Ensures pre (Pure.pure a : Program σ α) m failed died :=
  h

theorem map {g : α → β} (h : Ensures pre p (fun a s => post (g a) s) failed died) :
    Ensures pre (g <$> p) post failed died :=
  bind h fun _ _ hs => hs

theorem fail (h : ∀ s, pre s → failed s) :
    Ensures pre (Program.fail : Program σ α) m failed died :=
  h

theorem die {part : σ → σ} (h : ∀ s, pre s → died (part s)) :
    Ensures pre (Program.die part : Program σ α) m failed died :=
  h

/-- What was checked may be used after it. -/
theorem check {b : Bool} {post : Unit → σ → Prop} (h : ∀ s, pre s → b = true → post () s)
    (hfailed : ∀ s, pre s → b = false → failed s) :
    Ensures pre (Program.check b) post failed died := by
  intro s hs
  cases b with
  | true => exact h s hs rfl
  | false => exact hfailed s hs rfl

theorem ask {f : σ → Option α} (h : ∀ s a, pre s → f s = some a → m a s)
    (hfailed : ∀ s, pre s → f s = none → failed s) :
    Ensures pre (Program.ask f) m failed died := by
  intro s hs
  unfold Program.ask
  cases hf : f s with
  | some a => exact h s a hs hf
  | none => exact hfailed s hs hf

/-- A value read off a known state; the state stays known. -/
theorem ask_known {s : σ} {f : σ → Option α} (hfailed : f s = none → failed s) :
    Ensures (· = s) (Program.ask f) (fun a t => f s = some a ∧ t = s) failed died :=
  ask (fun _ _ h ha => h ▸ ⟨ha, rfl⟩) fun _ h ha => h ▸ hfailed (h ▸ ha)

theorem effect {v : Verdict} {f : σ → σ} {post : Unit → σ → Prop}
    (h : ∀ s, pre s → v = .done → post () (f s)) (hfailed : ∀ s, pre s → v = .fails → failed s)
    (hdied : ∀ s, pre s → v = .dies → died s) :
    Ensures pre (Program.effect v f) post failed died := by
  intro s hs
  cases v with
  | done => exact h s hs rfl
  | fails => exact hfailed s hs rfl
  | dies => exact hdied s hs rfl

theorem call {v : Verdict} {post : Unit → σ → Prop} (h : ∀ s, pre s → v = .done → post () s)
    (hfailed : ∀ s, pre s → v = .fails → failed s) (hdied : ∀ s, pre s → v = .dies → died s) :
    Ensures pre (Program.call v) post failed died :=
  effect h hfailed hdied

theorem torn {v : Verdict} {part f : σ → σ} {post : Unit → σ → Prop}
    (h : ∀ s, pre s → v = .done → post () (f s)) (hfailed : ∀ s, pre s → failed (part s))
    (hdied : ∀ s, pre s → died (part s)) :
    Ensures pre (Program.torn v part f) post failed died := by
  intro s hs
  cases v with
  | done => exact h s hs rfl
  | fails => exact hfailed s hs
  | dies => exact hdied s hs

/-- A torn step whose verdict matters after it. -/
theorem torn_met {v : Verdict} {part f : σ → σ} {post : Unit → σ → Prop}
    (h : ∀ s, pre s → v = .done → post () (f s))
    (hfailed : ∀ s, pre s → v = .fails → failed (part s))
    (hdied : ∀ s, pre s → v = .dies → died (part s)) :
    Ensures pre (Program.torn v part f) post failed died := by
  intro s hs
  cases v with
  | done => exact h s hs rfl
  | fails => exact hfailed s hs rfl
  | dies => exact hdied s hs rfl

/-- What holds once an error was passed over. -/
def Attempted (post : α → σ → Prop) (failed : σ → Prop) : Option α → σ → Prop
  | some a, s => post a s
  | none, s => failed s

/-- An error passed over is a result of its own. -/
theorem attempt {broken : σ → Prop} (hp : Ensures pre p m broken died) :
    Ensures pre (Program.attempt p) (Attempted m broken) failed died := by
  intro s hs
  have hend := hp s hs
  unfold Program.attempt
  cases hr : p s with
  | mk ending t =>
      rw [hr] at hend
      cases ending with
      | returned a => exact hend
      | failed => exact hend
      | died => exact hend

/-- An assertion that holds after an attempt whatever becomes of it. -/
theorem attempt_either {after : σ → Prop} (hp : Ensures pre p (fun _ => after) after died) :
    Ensures pre (Program.attempt p) (fun _ => after) failed died :=
  (attempt hp).weaken (fun _ h => h)
    (fun o s h => by
      cases o with
      | some a => exact h
      | none => exact h)
    (fun _ h => h) (fun _ h => h)

/-- An assertion that an attempt keeps. -/
theorem attempt_keep (hp : Ensures pre p (fun _ => pre) pre died) :
    Ensures pre (Program.attempt p) (fun _ => pre) failed died :=
  attempt_either hp

theorem otherwise {cleanup : Program σ Unit} {broken : σ → Prop}
    (hp : Ensures pre p m broken died)
    (hc : Ensures broken cleanup (fun _ => failed) failed died) :
    Ensures pre (Program.otherwise p cleanup) m failed died := by
  intro s hs
  have hend := hp s hs
  unfold Program.otherwise
  cases hr : p s with
  | mk ending t =>
      rw [hr] at hend
      cases ending with
      | returned a => exact hend
      | died => exact hend
      | failed =>
          have hclean := hc t hend
          simp only
          cases hr' : cleanup t with
          | mk ending' t' =>
              rw [hr'] at hclean
              cases ending' with
              | returned u => exact hclean
              | failed => exact hclean
              | died => exact hclean

end Ensures

end YourCloud.Foundation
