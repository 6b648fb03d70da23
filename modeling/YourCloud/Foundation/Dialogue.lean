import Mathlib.Init

/-!
# Dialogues with an environment

A program that acts on a machine through calls is a tree: it ends, or it makes
a call and goes on with the answer.  What the environment answers is left open,
so that a statement about every transcript of a dialogue is one about every
machine and every failing call.

A procedure is a dialogue that can fail.  Some calls have an effect and the
others only look.  An operation is a procedure that examines the machine first:
it finds that nothing is to be done, or it hands on the effects that it then
carries out.  Where its effects are reached, that is marked, and the rules below
say from the parts of an operation that its own account of itself — that it
changed something or not — is true of the calls it made.

## Main results

* `Plays.bind_iff` — the transcripts of a sequence.
* `converse_plays` — what happens against any environment is a transcript.
* `Meets.bind` — what a procedure does against one environment, part by part.
* `Accounts.bind`, `Accounts.effects` — the account of an operation that looks
  and then acts.
* `Performs.bind`, `Performs.proceed` — what an operation does against one environment.
-/

namespace YourCloud.Foundation

universe u

variable {ρ : Type u} {ans : ρ → Type u} {α β : Type u}

/-- A program that ends or makes a call. -/
inductive Dialogue (ρ : Type u) (ans : ρ → Type u) (α : Type u) where
  | done (a : α)
  | ask (r : ρ) (rest : ans r → Dialogue ρ ans α)

/-- A call with its answer. -/
abbrev Exchanged (ρ : Type u) (ans : ρ → Type u) := (r : ρ) × ans r

namespace Dialogue

def bind : Dialogue ρ ans α → (α → Dialogue ρ ans β) → Dialogue ρ ans β
  | done a, f => f a
  | ask r rest, f => ask r fun x => (rest x).bind f

instance : Monad (Dialogue ρ ans) where
  pure := done
  bind := bind

/-- The calls of a dialogue, with the answers they got, and its end. -/
inductive Plays : Dialogue ρ ans α → List (Exchanged ρ ans) → α → Prop
  | done (a : α) : Plays (.done a) [] a
  | ask {r : ρ} {rest : ans r → Dialogue ρ ans α} {calls : List (Exchanged ρ ans)} {a : α}
      (x : ans r) (h : Plays (rest x) calls a) : Plays (.ask r rest) (⟨r, x⟩ :: calls) a

theorem Plays.done_iff {a b : α} {calls : List (Exchanged ρ ans)} :
    Plays (.done a) calls b ↔ calls = [] ∧ b = a := by
  constructor
  · intro h
    cases h with
    | done => exact ⟨rfl, rfl⟩
  · rintro ⟨rfl, rfl⟩
    exact .done b

/-- A transcript of a sequence is one of its first part and one of the rest. -/
theorem Plays.bind_iff {d : Dialogue ρ ans α} {f : α → Dialogue ρ ans β}
    {calls : List (Exchanged ρ ans)} {b : β} :
    Plays (d.bind f) calls b ↔
      ∃ before a after, calls = before ++ after ∧ Plays d before a ∧ Plays (f a) after b := by
  induction d generalizing calls with
  | done a =>
      constructor
      · intro h
        exact ⟨[], a, calls, rfl, .done a, h⟩
      · rintro ⟨before, a', after, rfl, hfirst, hrest⟩
        cases hfirst with
        | done => exact hrest
  | ask r rest ih =>
      constructor
      · intro h
        cases h with
        | ask x h =>
            obtain ⟨before, a, after, rfl, hfirst, hrest⟩ := (ih x).1 h
            exact ⟨⟨r, x⟩ :: before, a, after, rfl, .ask x hfirst, hrest⟩
      · rintro ⟨before, a, after, rfl, hfirst, hrest⟩
        cases hfirst with
        | ask x hfirst => exact .ask x ((ih x).2 ⟨_, a, after, rfl, hfirst, hrest⟩)

/-- A dialogue against an environment with a state: its calls, its end and the state after. -/
def converse {σ : Type u} (env : (r : ρ) → σ → ans r × σ) :
    Dialogue ρ ans α → σ → List (Exchanged ρ ans) × α × σ
  | done a, s => ([], a, s)
  | ask r rest, s =>
      let after := converse env (rest (env r s).1) (env r s).2
      (⟨r, (env r s).1⟩ :: after.1, after.2)

theorem converse_plays {σ : Type u} (env : (r : ρ) → σ → ans r × σ) (d : Dialogue ρ ans α)
    (s : σ) : Plays d (converse env d s).1 (converse env d s).2.1 := by
  induction d generalizing s with
  | done a => exact .done a
  | ask r rest ih => exact .ask _ (ih _ _)

/-- Two parts of a sequence meet the environment one after the other. -/
theorem converse_bind {σ : Type u} (env : (r : ρ) → σ → ans r × σ) (d : Dialogue ρ ans α)
    (f : α → Dialogue ρ ans β) (s : σ) :
    (converse env (d.bind f) s).2 =
      (converse env (f (converse env d s).2.1) (converse env d s).2.2).2 := by
  induction d generalizing s with
  | done a => rfl
  | ask r rest ih => exact ih _ _

/-- At some call of a dialogue, its answer and the state after it are of a kind. -/
def happens {σ : Type u} (env : (r : ρ) → σ → ans r × σ) (kind : (r : ρ) → ans r → σ → Bool) :
    Dialogue ρ ans α → σ → Bool
  | done _, _ => false
  | ask r rest, s =>
      kind r (env r s).1 (env r s).2 || happens env kind (rest (env r s).1) (env r s).2

/-- An environment beside a note of whether that has happened. -/
def watching {σ : Type u} (env : (r : ρ) → σ → ans r × σ) (kind : (r : ρ) → ans r → σ → Bool)
    (r : ρ) (t : σ × Bool) : ans r × (σ × Bool) :=
  ((env r t.1).1, (env r t.1).2, t.2 || kind r (env r t.1).1 (env r t.1).2)

/-- A note changes nothing of a dialogue. -/
theorem converse_watching {σ : Type u} (env : (r : ρ) → σ → ans r × σ)
    (kind : (r : ρ) → ans r → σ → Bool) (d : Dialogue ρ ans α) (t : σ × Bool) :
    (converse (watching env kind) d t).2 =
      ((converse env d t.1).2.1, (converse env d t.1).2.2, t.2 || happens env kind d t.1) := by
  induction d generalizing t with
  | done a =>
      show (a, t) = (a, t.1, t.2 || false)
      rw [Bool.or_false]
  | ask r rest ih =>
      have hrest := ih (env r t.1).1 (watching env kind r t).2
      refine Eq.trans hrest ?_
      show (_, _, (t.2 || kind r _ _) || _) = (_, _, t.2 || (kind r _ _ || _))
      rw [Bool.or_assoc]
      rfl

end Dialogue

open Dialogue

/-! ## Procedures -/

/-- A dialogue that can fail. -/
def Procedure (ρ : Type u) (ans : ρ → Type u) (ε α : Type u) := Dialogue ρ ans (Except ε α)

namespace Procedure

variable {ε : Type u}

/-- Goes on after a success and ends with an error. -/
def andThen (f : α → Dialogue ρ ans (Except ε β)) : Except ε α → Dialogue ρ ans (Except ε β)
  | .ok a => f a
  | .error e => .done (.error e)

instance : Monad (Procedure ρ ans ε) where
  pure a := Dialogue.done (.ok a)
  bind p f := Dialogue.bind p (andThen f)

/-- An error of the procedure's own. -/
def fail (e : ε) : Procedure ρ ans ε α := Dialogue.done (.error e)

/-- One call, which may be answered with an error. -/
def call {ans : ρ → Type u} (r : ρ) : Procedure ρ (fun r => Except ε (ans r)) ε (ans r) :=
  Dialogue.ask r Dialogue.done

/-- A procedure under other words for its errors. -/
def reword (g : ε → ε) (p : Procedure ρ ans ε α) : Procedure ρ ans ε α :=
  Dialogue.bind p fun ending => .done (ending.mapError g)

/-- A part that is left out unless a condition holds. -/
def whenever (b : Bool) (p : Procedure ρ ans ε PUnit) : Procedure ρ ans ε PUnit :=
  if b then p else pure ⟨⟩

/-- A procedure on its own, whose error is passed over. -/
def passedOver (p : Procedure ρ ans ε α) : Dialogue ρ ans (Option α) :=
  Dialogue.bind p fun ending => .done ending.toOption

variable {p : Procedure ρ ans ε α} {f : α → Procedure ρ ans ε β}
variable {calls : List (Exchanged ρ ans)}

theorem plays_pure {a : α} {result : Except ε α} :
    Plays (pure a : Procedure ρ ans ε α) calls result ↔ calls = [] ∧ result = .ok a :=
  Plays.done_iff

/-- A transcript of a sequence: the first part failed, or it returned and the rest followed. -/
theorem plays_bind {result : Except ε β} :
    Plays (p >>= f : Procedure ρ ans ε β) calls result ↔
      (∃ e, result = .error e ∧ Plays p calls (.error e)) ∨
      ∃ before a after, calls = before ++ after ∧ Plays p before (.ok a) ∧
        Plays (f a) after result := by
  have hiff : Plays (p >>= f : Procedure ρ ans ε β) calls result ↔ _ := Plays.bind_iff
  rw [hiff]
  constructor
  · rintro ⟨before, ending, after, rfl, hfirst, hrest⟩
    cases ending with
    | ok a => exact .inr ⟨before, a, after, rfl, hfirst, hrest⟩
    | error e =>
        obtain ⟨rfl, rfl⟩ := Plays.done_iff.1 hrest
        rw [List.append_nil]
        exact .inl ⟨e, rfl, hfirst⟩
  · rintro (⟨e, rfl, hfirst⟩ | ⟨before, a, after, rfl, hfirst, hrest⟩)
    · exact ⟨calls, _, [], (List.append_nil _).symm, hfirst, .done _⟩
    · exact ⟨before, _, after, rfl, hfirst, hrest⟩

theorem plays_reword {g : ε → ε} {result : Except ε α} :
    Plays (reword g p) calls result ↔
      ∃ inner, Plays p calls inner ∧ result = inner.mapError g := by
  have hiff : Plays (reword g p) calls result ↔ _ := Plays.bind_iff
  rw [hiff]
  constructor
  · rintro ⟨before, inner, after, rfl, hfirst, hrest⟩
    obtain ⟨rfl, rfl⟩ := Plays.done_iff.1 hrest
    rw [List.append_nil]
    exact ⟨inner, hfirst, rfl⟩
  · rintro ⟨inner, hinner, rfl⟩
    exact ⟨calls, inner, [], (List.append_nil _).symm, hinner, .done _⟩

end Procedure

/-! ## Dialogues that look only -/

variable (effect : ρ → Bool)

/-- Some call of a transcript has an effect. -/
def affects (calls : List (Exchanged ρ ans)) : Bool := calls.any fun call => effect call.1

/-- However it ends, no call has an effect. -/
def Looks (d : Dialogue ρ ans α) : Prop :=
  ∀ calls a, Plays d calls a → affects effect calls = false

variable {effect}

theorem affects_append (before after : List (Exchanged ρ ans)) :
    affects effect (before ++ after) = (affects effect before || affects effect after) :=
  List.any_append

namespace Looks

theorem done (a : α) : Looks effect (.done a : Dialogue ρ ans α) := by
  intro calls b h
  rw [(Plays.done_iff.1 h).1]
  rfl

theorem ask {r : ρ} {rest : ans r → Dialogue ρ ans α} (hr : effect r = false)
    (hrest : ∀ x, Looks effect (rest x)) : Looks effect (.ask r rest) := by
  intro calls a h
  cases h with
  | ask x h =>
      show (effect r || affects effect _) = false
      rw [hr, hrest x _ _ h]
      rfl

theorem next {d : Dialogue ρ ans α} {f : α → Dialogue ρ ans β} (hd : Looks effect d)
    (hf : ∀ a, Looks effect (f a)) : Looks effect (d.bind f) := by
  intro calls b h
  obtain ⟨before, a, after, rfl, hfirst, hrest⟩ := Plays.bind_iff.1 h
  rw [affects_append, hd _ _ hfirst, hf a _ _ hrest]
  rfl

theorem ite {c : Prop} [Decidable c] {d e : Dialogue ρ ans α} (hd : Looks effect d)
    (he : Looks effect e) : Looks effect (if c then d else e) := by
  by_cases h : c
  · rwa [if_pos h]
  · rwa [if_neg h]

variable {ε : Type u} {p : Procedure ρ ans ε α} {f : α → Procedure ρ ans ε β}

theorem pure (a : α) : Looks effect (pure a : Procedure ρ ans ε α) := done _

theorem fail (e : ε) : Looks effect (Procedure.fail e : Procedure ρ ans ε α) := done _

theorem bind (hp : Looks effect p) (hf : ∀ a, Looks effect (f a)) :
    Looks effect (p >>= f : Procedure ρ ans ε β) := by
  apply next hp
  intro ending
  cases ending with
  | ok a => exact hf a
  | error e => exact done _

theorem reword {g : ε → ε} (hp : Looks effect p) : Looks effect (Procedure.reword g p) :=
  next hp fun _ => done _

theorem passedOver (hp : Looks effect p) : Looks effect (Procedure.passedOver p) :=
  next hp fun _ => done _

theorem whenever {b : Bool} {p : Procedure ρ ans ε PUnit} (hp : Looks effect p) :
    Looks effect (Procedure.whenever b p) :=
  ite hp (done _)

end Looks

/-! ## Procedures that act -/

namespace Procedure

variable {ε : Type u} {p : Procedure ρ ans ε α} {f : α → Procedure ρ ans ε β}

/-- Where it succeeds, some call had an effect. -/
def Effective (effect : ρ → Bool) (p : Procedure ρ ans ε α) : Prop :=
  ∀ calls a, Plays p calls (.ok a) → affects effect calls = true

namespace Effective

/-- An effect early on. -/
theorem before (hp : Effective effect p) : Effective effect (p >>= f) := by
  intro calls b h
  rcases plays_bind.1 h with ⟨e, hresult, -⟩ | ⟨before, a, after, rfl, hfirst, -⟩
  · cases hresult
  · rw [affects_append, hp _ _ hfirst, Bool.true_or]

/-- An effect later on. -/
theorem after (hf : ∀ a, Effective effect (f a)) : Effective effect (p >>= f) := by
  intro calls b h
  rcases plays_bind.1 h with ⟨e, hresult, -⟩ | ⟨before, a, after, rfl, -, hrest⟩
  · cases hresult
  · rw [affects_append, hf a _ _ hrest, Bool.or_true]

theorem reword {g : ε → ε} (hp : Effective effect p) :
    Effective effect (Procedure.reword g p) := by
  intro calls b h
  obtain ⟨inner, hinner, hresult⟩ := plays_reword.1 h
  cases inner with
  | ok a => exact hp _ _ hinner
  | error e => cases hresult

end Effective

/-- What it returns satisfies a condition. -/
def Tells (q : α → Prop) (p : Procedure ρ ans ε α) : Prop :=
  ∀ calls a, Plays p calls (.ok a) → q a

namespace Tells

theorem pure {q : α → Prop} {a : α} (h : q a) : Tells q (Pure.pure a : Procedure ρ ans ε α) := by
  intro calls b hplays
  cases (plays_pure.1 hplays).2
  exact h

/-- Only the end of a sequence returns. -/
theorem bind {q : β → Prop} (hf : ∀ a, Tells q (f a)) : Tells q (p >>= f) := by
  intro calls b h
  rcases plays_bind.1 h with ⟨e, hresult, -⟩ | ⟨before, a, after, -, -, hrest⟩
  · cases hresult
  · exact hf a _ _ hrest

end Tells

end Procedure

/-! ## Against an environment -/

section Environment

variable {σ ε : Type u} {env : (r : ρ) → σ → ans r × σ} {pre pre' : σ → Prop}

/-- From a state with `pre`, a dialogue ends with `post`. -/
def Leads (env : (r : ρ) → σ → ans r × σ) (pre : σ → Prop) (d : Dialogue ρ ans α)
    (post : α → σ → Prop) : Prop :=
  ∀ s, pre s → post (converse env d s).2.1 (converse env d s).2.2

namespace Leads

theorem done {a : α} {post : α → σ → Prop} (h : ∀ s, pre s → post a s) :
    Leads env pre (.done a) post := h

theorem ask {r : ρ} {rest : ans r → Dialogue ρ ans α} {m : ans r → σ → Prop}
    {post : α → σ → Prop} (h : ∀ s, pre s → m (env r s).1 (env r s).2)
    (hrest : ∀ x, Leads env (m x) (rest x) post) : Leads env pre (.ask r rest) post :=
  fun s hs => hrest _ _ (h s hs)

theorem next {d : Dialogue ρ ans α} {f : α → Dialogue ρ ans β} {m : α → σ → Prop}
    {post : β → σ → Prop} (hd : Leads env pre d m) (hf : ∀ a, Leads env (m a) (f a) post) :
    Leads env pre (d.bind f) post := by
  intro s hs
  have hrest := hf _ _ (hd s hs)
  rwa [← converse_bind env d f s] at hrest

theorem weaken {d : Dialogue ρ ans α} {m post : α → σ → Prop} (h : Leads env pre d m)
    (hpre : ∀ s, pre' s → pre s) (hpost : ∀ a s, m a s → post a s) : Leads env pre' d post :=
  fun s hs => hpost _ _ (h s (hpre s hs))

/-- An assertion from each state alone. -/
theorem each {d : Dialogue ρ ans α} {post : α → σ → Prop}
    (h : ∀ s, pre s → Leads env (· = s) d post) : Leads env pre d post :=
  fun s hs => h s hs s rfl

end Leads

/-- What holds of the end of a procedure. -/
def Settles (post : α → σ → Prop) (failed : σ → Prop) : Except ε α → σ → Prop
  | .ok a, s => post a s
  | .error _, s => failed s

/-- From a state with `pre`, a procedure returns with `post` or fails with `failed`. -/
def Meets (env : (r : ρ) → σ → ans r × σ) (pre : σ → Prop) (p : Procedure ρ ans ε α)
    (post : α → σ → Prop) (failed : σ → Prop) : Prop :=
  Leads env pre p (Settles post failed)

namespace Meets

variable {p : Procedure ρ ans ε α} {f : α → Procedure ρ ans ε β} {m m' : α → σ → Prop}
variable {post : β → σ → Prop} {failed failed' : σ → Prop}

theorem pure {a : α} (h : ∀ s, pre s → m a s) :
    Meets env pre (Pure.pure a : Procedure ρ ans ε α) m failed := h

theorem fail {e : ε} (h : ∀ s, pre s → failed s) :
    Meets env pre (Procedure.fail e : Procedure ρ ans ε α) m failed := h

theorem bind (hp : Meets env pre p m failed) (hf : ∀ a, Meets env (m a) (f a) post failed) :
    Meets env pre (p >>= f : Procedure ρ ans ε β) post failed := by
  refine Leads.next (f := Procedure.andThen f) hp ?_
  intro ending
  cases ending with
  | ok a => exact hf a
  | error e => exact fun s hs => hs

/-- What a part returns with may say something of the answers it got alone. -/
theorem bind_of {q : α → Prop} (hp : Meets env pre p (fun a s => q a ∧ m a s) failed)
    (hf : ∀ a, q a → Meets env (m a) (f a) post failed) :
    Meets env pre (p >>= f : Procedure ρ ans ε β) post failed :=
  bind hp fun a s h => hf a h.1 s h.2

theorem call {ans : ρ → Type u} {env : (r : ρ) → σ → Except ε (ans r) × σ} {r : ρ}
    {m : ans r → σ → Prop} (h : ∀ s, pre s → Settles m failed (env r s).1 (env r s).2) :
    Meets env pre (Procedure.call r) m failed := h

theorem reword {g : ε → ε} (hp : Meets env pre p m failed) :
    Meets env pre (Procedure.reword g p) m failed := by
  refine Leads.next hp ?_
  intro ending
  cases ending with
  | ok a => exact fun s hs => hs
  | error e => exact fun s hs => hs

theorem whenever {b : Bool} {p : Procedure ρ ans ε PUnit} {post : σ → Prop}
    (hp : b = true → Meets env pre p (fun _ => post) failed)
    (hnot : b = false → ∀ s, pre s → post s) :
    Meets env pre (Procedure.whenever b p) (fun _ => post) failed := by
  cases b with
  | true => exact hp rfl
  | false => exact hnot rfl

/-- An assertion from each state alone. -/
theorem each (h : ∀ s, pre s → Meets env (· = s) p m failed) : Meets env pre p m failed :=
  Leads.each h

theorem weaken (hp : Meets env pre p m failed) (hpre : ∀ s, pre' s → pre s)
    (hpost : ∀ a s, m a s → m' a s) (hfailed : ∀ s, failed s → failed' s) :
    Meets env pre' p m' failed' := by
  refine Leads.weaken hp hpre ?_
  intro ending s h
  cases ending with
  | ok a => exact hpost a s h
  | error e => exact hfailed s h

end Meets

end Environment

/-- The call a dialogue that looks only begins with has no effect, and neither has what follows. -/
theorem Looks.parts {σ : Type u} (env : (r : ρ) → σ → ans r × σ) (s : σ) {r : ρ}
    {rest : ans r → Dialogue ρ ans α} (hd : Looks effect (.ask r rest)) :
    effect r = false ∧ Looks effect (rest (env r s).1) := by
  have hlooks := hd _ _ (Plays.ask (env r s).1 (converse_plays env (rest (env r s).1) s))
  refine ⟨(Bool.or_eq_false_iff.1 hlooks).1, ?_⟩
  intro calls a hplays
  exact (Bool.or_eq_false_iff.1 (hd _ _ (Plays.ask _ hplays))).2

/-- What every call without an effect keeps, a dialogue that looks only keeps. -/
theorem Looks.leads {σ : Type u} {env : (r : ρ) → σ → ans r × σ} {inv : σ → Prop}
    (hstep : ∀ r s, effect r = false → inv s → inv (env r s).2) {d : Dialogue ρ ans α}
    (hd : Looks effect d) : Leads env inv d fun _ => inv := by
  induction d with
  | done a => exact fun s hs => hs
  | ask r rest ih =>
      intro s hs
      obtain ⟨hr, hrest⟩ := hd.parts env s
      exact ih _ hrest _ (hstep r s hr hs)

/-- Two environments that answer alike whatever has no effect: a dialogue that looks only cannot
tell them apart. -/
theorem Looks.alike {σ τ : Type u} {env : (r : ρ) → σ → ans r × σ}
    {env' : (r : ρ) → τ → ans r × τ} {related : σ → τ → Prop}
    (hstep : ∀ r s t, effect r = false → related s t →
      (env' r t).1 = (env r s).1 ∧ related (env r s).2 (env' r t).2)
    {d : Dialogue ρ ans α} (hd : Looks effect d) {s : σ} {t : τ} (h : related s t) :
    (converse env' d t).2.1 = (converse env d s).2.1 ∧
      related (converse env d s).2.2 (converse env' d t).2.2 := by
  induction d generalizing s t with
  | done a => exact ⟨rfl, h⟩
  | ask r rest ih =>
      obtain ⟨hr, hrest⟩ := hd.parts env s
      obtain ⟨hanswer, hrelated⟩ := hstep r s t hr h
      have halike := ih _ hrest hrelated
      unfold converse
      rw [hanswer]
      exact halike

/-- What a procedure that looks only meets in one environment it meets in the other. -/
theorem Looks.transfer {σ τ ε : Type u} {env : (r : ρ) → σ → ans r × σ}
    {env' : (r : ρ) → τ → ans r × τ} {related : σ → τ → Prop}
    (hstep : ∀ r s t, effect r = false → related s t →
      (env' r t).1 = (env r s).1 ∧ related (env r s).2 (env' r t).2)
    {p : Procedure ρ ans ε α} (hp : Looks effect p) {pre : σ → Prop} {m : α → σ → Prop}
    {failed : σ → Prop} (h : Meets env pre p m failed) :
    Meets env' (fun t => ∃ s, related s t ∧ pre s) p (fun a t => ∃ s, related s t ∧ m a s)
      (fun t => ∃ s, related s t ∧ failed s) := by
  rintro t ⟨s, hrelated, hs⟩
  obtain ⟨hending, hafter⟩ := hp.alike hstep hrelated
  have hend := h s hs
  rw [hending]
  cases hresult : (converse env p s).2.1 with
  | ok a =>
      rw [hresult] at hend
      exact ⟨_, hafter, hend⟩
  | error e =>
      rw [hresult] at hend
      exact ⟨_, hafter, hend⟩

/-! ## Operations -/

/-- What an examination finds: an end, or effects to be carried out. -/
inductive Examined (ρ : Type u) (ans : ρ → Type u) (ε α : Type u) where
  | settled (a : α)
  | effects (p : Procedure ρ ans ε α)

/-- An examination of the machine, and what follows from it. -/
abbrev Operation (ρ : Type u) (ans : ρ → Type u) (ε α : Type u) :=
  Procedure ρ ans ε (Examined ρ ans ε α)

namespace Operation

variable {ε : Type u}

/-- Nothing is to be done. -/
def settle (a : α) : Operation ρ ans ε α := Dialogue.done (.ok (.settled a))

/-- From here on the machine is changed. -/
def proceed (p : Procedure ρ ans ε α) : Operation ρ ans ε α := Dialogue.done (.ok (.effects p))

/-- What follows from an examination, marked where the effects were reached. -/
def conclude : Except ε (Examined ρ ans ε α) → Dialogue ρ ans (Except ε α × Bool)
  | .error e => .done (.error e, false)
  | .ok (.settled a) => .done (.ok a, false)
  | .ok (.effects p) => Dialogue.bind p fun ending => .done (ending, true)

/-- An operation carried out. -/
def carriedOut (p : Operation ρ ans ε α) : Dialogue ρ ans (Except ε α × Bool) :=
  Dialogue.bind p conclude

/-- What is returned says truly whether some call had an effect, and a failure before
the effects were reached comes before any effect. -/
def Accounts (effect : ρ → Bool) (changed : α → Bool) (p : Operation ρ ans ε α) : Prop :=
  ∀ calls result mark, Plays (carriedOut p) calls (result, mark) →
    match result with
    | .ok a => changed a = affects effect calls
    | .error _ => mark = false → affects effect calls = false

namespace Accounts

variable {changed : β → Bool}

theorem settled {b : β} (h : changed b = false) :
    Accounts effect changed (settle b : Operation ρ ans ε β) := by
  intro calls result mark hplays
  obtain ⟨rfl, hresult⟩ := Plays.done_iff.1 hplays
  cases hresult
  exact h

/-- Once the effects are reached, only a success is accounted for. -/
theorem effects {p : Procedure ρ ans ε β} (hacts : p.Effective effect)
    (htells : p.Tells fun b => changed b = true) :
    Accounts effect changed (proceed p) := by
  intro calls result mark hplays
  have hiff : Plays (carriedOut (proceed p)) calls (result, mark) ↔ _ := Plays.bind_iff
  obtain ⟨before, ending, after, rfl, hfirst, hrest⟩ := hiff.1 hplays
  obtain ⟨rfl, hresult⟩ := Plays.done_iff.1 hfirst
  cases hresult
  obtain ⟨calls, ending, after, rfl, hp, hend⟩ := Plays.bind_iff.1 hrest
  obtain ⟨rfl, hresult⟩ := Plays.done_iff.1 hend
  cases hresult
  rw [List.nil_append, List.append_nil]
  cases result with
  | ok b =>
      show changed b = affects effect calls
      rw [htells _ _ hp, hacts _ _ hp]
  | error e => exact nofun

/-- An operation that looks before it goes on. -/
theorem bind {p : Procedure ρ ans ε α} {f : α → Operation ρ ans ε β} (hp : Looks effect p)
    (hf : ∀ a, Accounts effect changed (f a)) :
    Accounts effect changed (p >>= f : Procedure ρ ans ε (Examined ρ ans ε β)) := by
  intro calls result mark h
  obtain ⟨before, ending, after, rfl, hfirst, hrest⟩ := Plays.bind_iff.1 h
  rcases Procedure.plays_bind.1 hfirst with ⟨e, rfl, hp'⟩ | ⟨look, a, examined, rfl, hlook, hexam⟩
  · obtain ⟨rfl, hresult⟩ := Plays.done_iff.1 hrest
    cases hresult
    rw [List.append_nil]
    exact fun _ => hp _ _ hp'
  · have hrest := hf a _ _ _ (Plays.bind_iff.2 ⟨examined, ending, after, rfl, hexam, hrest⟩)
    rw [List.append_assoc, affects_append, hp _ _ hlook, Bool.false_or]
    exact hrest

theorem ite {c : Prop} [Decidable c] {p q : Operation ρ ans ε β} (hp : Accounts effect changed p)
    (hq : ¬ c → Accounts effect changed q) : Accounts effect changed (if c then p else q) := by
  by_cases h : c
  · rwa [if_pos h]
  · rw [if_neg h]
    exact hq h

end Accounts

/-! ### Against an environment -/

variable {σ : Type u} {env : (r : ρ) → σ → ans r × σ} {pre : σ → Prop}

/-- What holds of the end of an operation: it was performed, it broke off among its effects, or
it was refused before them. -/
def Closes (performed : α → σ → Prop) (broken refused : σ → Prop) :
    Except ε α × Bool → σ → Prop
  | (.ok a, _), s => performed a s
  | (.error _, true), s => broken s
  | (.error _, false), s => refused s

/-- From a state with `pre`, an operation is performed, breaks off or is refused. -/
def Performs (env : (r : ρ) → σ → ans r × σ) (pre : σ → Prop) (p : Operation ρ ans ε α)
    (performed : α → σ → Prop) (broken refused : σ → Prop) : Prop :=
  Leads env pre (carriedOut p) (Closes performed broken refused)

namespace Performs

variable {performed : β → σ → Prop} {broken refused : σ → Prop}

theorem settle {b : β} (h : ∀ s, pre s → performed b s) :
    Performs env pre (settle b : Operation ρ ans ε β) performed broken refused := h

/-- The effects of an operation, which break off where one of them fails. -/
theorem proceed {p : Procedure ρ ans ε β} (hp : Meets env pre p performed broken) :
    Performs env pre (proceed p) performed broken refused := by
  show Leads env pre (Dialogue.bind p fun ending => .done (ending, true)) _
  refine Leads.next hp ?_
  intro ending
  cases ending with
  | ok b => exact fun s hs => hs
  | error e => exact fun s hs => hs

/-- An operation that examines the machine before it goes on. -/
theorem bind {p : Procedure ρ ans ε α} {f : α → Operation ρ ans ε β} {m : α → σ → Prop}
    (hp : Meets env pre p m refused)
    (hf : ∀ a, Performs env (m a) (f a) performed broken refused) :
    Performs env pre (p >>= f : Procedure ρ ans ε (Examined ρ ans ε β)) performed broken
      refused := by
  intro s hs
  have hfirst := hp s hs
  have hwhole := converse_bind env (p >>= f : Procedure ρ ans ε (Examined ρ ans ε β)) conclude s
  have hparts : (converse env (p >>= f : Procedure ρ ans ε (Examined ρ ans ε β)) s).2 = _ :=
    converse_bind env p (Procedure.andThen f) s
  show Closes performed broken refused (converse env (Dialogue.bind _ conclude) s).2.1
    (converse env (Dialogue.bind _ conclude) s).2.2
  rw [hwhole, hparts]
  cases hending : (converse env p s).2.1 with
  | error e =>
      rw [hending] at hfirst
      exact hfirst
  | ok a =>
      rw [hending] at hfirst
      have hrest := hf a _ hfirst
      have hafter := converse_bind env (f a) conclude (converse env p s).2.2
      have hcarried : (converse env (carriedOut (f a)) (converse env p s).2.2).2 = _ := hafter
      rw [hcarried] at hrest
      exact hrest

/-- What an examination returns may say something of the answers it got alone. -/
theorem bind_of {p : Procedure ρ ans ε α} {f : α → Operation ρ ans ε β} {q : α → Prop}
    {m : α → σ → Prop} (hp : Meets env pre p (fun a s => q a ∧ m a s) refused)
    (hf : ∀ a, q a → Performs env (m a) (f a) performed broken refused) :
    Performs env pre (p >>= f : Procedure ρ ans ε (Examined ρ ans ε β)) performed broken
      refused :=
  bind hp fun a s h => hf a h.1 s h.2

theorem ite {c : Prop} [Decidable c] {p q : Operation ρ ans ε β}
    (hp : c → Performs env pre p performed broken refused)
    (hq : ¬ c → Performs env pre q performed broken refused) :
    Performs env pre (if c then p else q) performed broken refused := by
  by_cases h : c
  · rw [if_pos h]
    exact hp h
  · rw [if_neg h]
    exact hq h

end Performs

end Operation

end YourCloud.Foundation
