import YourCloud.Foundation.Dialogue

/-!
# Dialogues that keep a register

A procedure may keep a register as it goes.  It writes into the register what it has
done, and what it wrote there stays when it stops: whoever has to clear up afterwards
reads the register, and no longer the procedure.

Two rules of reasoning go part by part.  A course follows a script where the calls it
makes are those of the script, all of them if it comes to its end and the first ones if
it stops.  A course keeps a condition on what was exchanged and on the register, with one
condition for where it ends and one for where it stops.

## Main results

* `runs_bind` — the runs of a sequence.
* `Follows.bind`, `Follows.each` — the script of a sequence and of a list of parts.
* `Follows.guarded` — a script whose calls are allowed as they come.
* `Holds.bind`, `Holds.each` — what a sequence keeps, and a list of parts.
-/

namespace YourCloud.Foundation

universe u

variable {ρ : Type u} {ans : ρ → Type u} {σ ε α β : Type u}

/-- A dialogue that keeps a register and can stop. -/
def Course (ρ : Type u) (ans : ρ → Type u) (σ ε α : Type u) := σ → Dialogue ρ ans (Except ε α × σ)

namespace Course

open Dialogue

/-- Goes on after a success, with the register as it is. -/
def onward (f : α → Course ρ ans σ ε β) : Except ε α × σ → Dialogue ρ ans (Except ε β × σ)
  | (.ok a, s) => f a s
  | (.error e, s) => .done (.error e, s)

instance : Monad (Course ρ ans σ ε) where
  pure a := fun s => .done (.ok a, s)
  bind p f := fun s => (p s).bind (onward f)

/-- The end of a course before its last part. -/
def stop (e : ε) : Course ρ ans σ ε α := fun s => .done (.error e, s)

/-- An entry in the register. -/
def note (f : σ → σ) : Course ρ ans σ ε PUnit := fun s => .done (.ok ⟨⟩, f s)

/-- A call; without an answer the course stops. -/
def call {rep : ρ → Type u} (r : ρ) (e : ε) : Course ρ (fun r => Option (rep r)) σ ε (rep r) :=
  fun s => .ask r fun
    | some a => .done (.ok a, s)
    | none => .done (.error e, s)

/-- The calls of a course from a register, how it ended and the register then. -/
def Runs (p : Course ρ ans σ ε α) (s : σ) (calls : List (Exchanged ρ ans)) (result : Except ε α)
    (t : σ) : Prop :=
  Plays (p s) calls (result, t)

variable {p : Course ρ ans σ ε α} {f : α → Course ρ ans σ ε β} {s t : σ}
variable {calls : List (Exchanged ρ ans)}

theorem runs_pure {a : α} {result : Except ε α} :
    Runs (pure a : Course ρ ans σ ε α) s calls result t ↔ calls = [] ∧ result = .ok a ∧ t = s := by
  refine Plays.done_iff.trans ?_
  rw [Prod.mk.injEq]

theorem runs_stop {e : ε} {result : Except ε α} :
    Runs (stop e : Course ρ ans σ ε α) s calls result t ↔
      calls = [] ∧ result = .error e ∧ t = s := by
  refine Plays.done_iff.trans ?_
  rw [Prod.mk.injEq]

theorem runs_note {g : σ → σ} {result : Except ε PUnit} :
    Runs (note g : Course ρ ans σ ε PUnit) s calls result t ↔
      calls = [] ∧ result = .ok ⟨⟩ ∧ t = g s := by
  refine Plays.done_iff.trans ?_
  rw [Prod.mk.injEq]

theorem runs_call {rep : ρ → Type u} {r : ρ} {e : ε}
    {calls : List (Exchanged ρ fun r => Option (rep r))} {result : Except ε (rep r)} :
    Runs (@call ρ σ ε rep r e) s calls result t ↔
      t = s ∧ ((calls = [⟨r, none⟩] ∧ result = .error e) ∨
        ∃ a, calls = [⟨r, some a⟩] ∧ result = .ok a) := by
  constructor
  · intro h
    cases h with
    | ask x h =>
        cases x with
        | none =>
            obtain ⟨rfl, hend⟩ := Plays.done_iff.1 h
            obtain ⟨rfl, rfl⟩ := Prod.mk.inj hend
            exact ⟨rfl, .inl ⟨rfl, rfl⟩⟩
        | some a =>
            obtain ⟨rfl, hend⟩ := Plays.done_iff.1 h
            obtain ⟨rfl, rfl⟩ := Prod.mk.inj hend
            exact ⟨rfl, .inr ⟨a, rfl, rfl⟩⟩
  · rintro ⟨rfl, ⟨rfl, rfl⟩ | ⟨a, rfl, rfl⟩⟩
    · exact @Plays.ask ρ (fun r => Option (rep r)) _ r _ _ _ none (.done _)
    · exact @Plays.ask ρ (fun r => Option (rep r)) _ r _ _ _ (some a) (.done _)

/-- A run of a sequence: its first part stopped, or it ended and the rest followed. -/
theorem runs_bind {result : Except ε β} :
    Runs (p >>= f) s calls result t ↔
      (∃ e, result = .error e ∧ Runs p s calls (.error e) t) ∨
        ∃ before a m after, calls = before ++ after ∧ Runs p s before (.ok a) m ∧
          Runs (f a) m after result t := by
  have hiff : Runs (p >>= f) s calls result t ↔ _ := Plays.bind_iff
  rw [hiff]
  constructor
  · rintro ⟨before, ⟨first, m⟩, after, rfl, hfirst, hrest⟩
    cases first with
    | error e =>
        obtain ⟨rfl, hend⟩ := Plays.done_iff.1 hrest
        obtain ⟨rfl, rfl⟩ := Prod.mk.inj hend
        rw [List.append_nil]
        exact .inl ⟨e, rfl, hfirst⟩
    | ok a => exact .inr ⟨before, a, m, after, rfl, hfirst, hrest⟩
  · rintro (⟨e, rfl, hfirst⟩ | ⟨before, a, m, after, rfl, hfirst, hrest⟩)
    · exact ⟨calls, (.error e, t), [], by rw [List.append_nil], hfirst, .done _⟩
    · exact ⟨before, (.ok a, m), after, rfl, hfirst, hrest⟩

theorem runs_bind_ok {b : β} :
    Runs (p >>= f) s calls (.ok b) t ↔
      ∃ before a m after, calls = before ++ after ∧ Runs p s before (.ok a) m ∧
        Runs (f a) m after (.ok b) t := by
  rw [runs_bind]
  constructor
  · rintro (⟨e, he, -⟩ | h)
    · cases he
    · exact h
  · exact .inr

theorem runs_call_ok {rep : ρ → Type u} {r : ρ} {e : ε} {a : rep r}
    {calls : List (Exchanged ρ fun r => Option (rep r))} :
    Runs (@call ρ σ ε rep r e) s calls (.ok a) t ↔ t = s ∧ calls = [⟨r, some a⟩] := by
  rw [runs_call]
  constructor
  · rintro ⟨ht, ⟨-, he⟩ | ⟨a', hcalls, ha⟩⟩
    · cases he
    · rw [Except.ok.inj ha]
      exact ⟨ht, hcalls⟩
  · exact fun h => ⟨h.1, .inr ⟨a, h.2, rfl⟩⟩

/-! ## Scripts -/

/-- What was called, without the answers. -/
def called (calls : List (Exchanged ρ ans)) : List ρ := calls.map Sigma.fst

/-- The calls are those of a script: all of them at the end, the first ones before it. -/
def Follows (p : Course ρ ans σ ε α) (script : List ρ) : Prop :=
  ∀ s calls result t, Runs p s calls result t →
    called calls <+: script ∧ (result.isOk = true → called calls = script)

namespace Follows

theorem pure (a : α) : Follows (pure a : Course ρ ans σ ε α) [] := by
  intro s calls result t h
  obtain ⟨rfl, rfl, -⟩ := runs_pure.1 h
  exact ⟨List.nil_prefix, fun _ => rfl⟩

theorem stop (e : ε) (script : List ρ) :
    Follows (Course.stop e : Course ρ ans σ ε α) script := by
  intro s calls result t h
  obtain ⟨rfl, rfl, -⟩ := runs_stop.1 h
  exact ⟨List.nil_prefix, nofun⟩

theorem note (g : σ → σ) : Follows (Course.note g : Course ρ ans σ ε PUnit) [] := by
  intro s calls result t h
  obtain ⟨rfl, rfl, -⟩ := runs_note.1 h
  exact ⟨List.nil_prefix, fun _ => rfl⟩

theorem call {rep : ρ → Type u} (r : ρ) (e : ε) : Follows (@Course.call ρ σ ε rep r e) [r] := by
  intro s calls result t h
  obtain ⟨-, ⟨rfl, rfl⟩ | ⟨a, rfl, rfl⟩⟩ := runs_call.1 h
  · exact ⟨List.prefix_rfl, nofun⟩
  · exact ⟨List.prefix_rfl, fun _ => rfl⟩

/-- A part that keeps to its script hands over to one that keeps to the rest of it. -/
theorem bind {first rest : List ρ} (hp : Follows p first) (hf : ∀ a, Follows (f a) rest) :
    Follows (p >>= f) (first ++ rest) := by
  intro s calls result t h
  rcases runs_bind.1 h with ⟨e, rfl, hstop⟩ | ⟨before, a, m, after, rfl, hfirst, hrest⟩
  · exact ⟨(hp _ _ _ _ hstop).1.trans (List.prefix_append _ _), nofun⟩
  · have hbefore : called before = first := (hp _ _ _ _ hfirst).2 rfl
    have hafter := hf a _ _ _ _ hrest
    rw [called, List.map_append, ← called, ← called, hbefore]
    exact ⟨(List.prefix_append_right_inj first).2 hafter.1, fun h => by rw [hafter.2 h]⟩

theorem ite {c : Prop} [Decidable c] {q : Course ρ ans σ ε α} {script : List ρ}
    (hp : Follows p script) (hq : Follows q script) : Follows (if c then p else q) script := by
  by_cases h : c
  · rw [if_pos h]
    exact hp
  · rw [if_neg h]
    exact hq

/-- The parts of a list one after the other, each with what the one before returned. -/
theorem each {step : β → α → Course ρ ans σ ε β} {script : α → List ρ} {l : List α}
    (h : ∀ a ∈ l, ∀ b, Follows (step b a) (script a)) (b : β) :
    Follows (l.foldlM step b) (l.flatMap script) := by
  induction l generalizing b with
  | nil => exact pure b
  | cons a l ih =>
      rw [List.foldlM_cons, List.flatMap_cons]
      rw [List.forall_mem_cons] at h
      exact bind (h.1 b) fun b => ih h.2 b

end Follows

/-! ## Calls that have to be allowed -/

/-- Every call was allowed by what had been exchanged before it. -/
def Guarded (allowed : List (Exchanged ρ ans) → ρ → Prop) (past : List (Exchanged ρ ans)) : Prop :=
  ∀ before call after, past = before ++ call :: after → allowed before call.1

theorem guarded_nil (allowed : List (Exchanged ρ ans) → ρ → Prop) : Guarded allowed [] := by
  intro before call after h
  simp at h

/-- A course whose script is allowed, whatever is exchanged meanwhile. -/
theorem Follows.guarded {script : List ρ} (hp : Follows p script)
    {allowed : List (Exchanged ρ ans) → ρ → Prop} {past : List (Exchanged ρ ans)}
    (hscript : ∀ more, ∀ r ∈ script, allowed (past ++ more) r) (hpast : Guarded allowed past)
    {result : Except ε α} (h : Runs p s calls result t) : Guarded allowed (past ++ calls) := by
  intro before call after hsplit
  rcases List.append_eq_append_iff.1 hsplit with ⟨more, rfl, hcalls⟩ | ⟨more, rfl, htail⟩
  · have hmem : call.1 ∈ called calls :=
      List.mem_map_of_mem (by rw [hcalls]; exact List.mem_append_right _ List.mem_cons_self)
    exact hscript more _ ((hp _ _ _ _ h).1.subset hmem)
  · cases more with
    | nil =>
        rw [List.nil_append] at htail
        have hmem : call.1 ∈ called calls :=
          List.mem_map_of_mem (by rw [← htail]; exact List.mem_cons_self)
        have hallowed := hscript [] _ ((hp _ _ _ _ h).1.subset hmem)
        rw [List.append_nil, List.append_nil] at hallowed
        exact hallowed
    | cons c more =>
        rw [List.cons_append, List.cons.injEq] at htail
        exact hpast before call more (by rw [htail.1])

/-! ## Conditions -/

/-- From where a condition holds of what was exchanged and of the register, another one holds
where the course ends, and a third one where it stops. -/
def Holds (pre : List (Exchanged ρ ans) → σ → Prop) (p : Course ρ ans σ ε α)
    (post : α → List (Exchanged ρ ans) → σ → Prop)
    (stopped : ε → List (Exchanged ρ ans) → σ → Prop) : Prop :=
  ∀ past s, pre past s → ∀ calls result t, Runs p s calls result t →
    (∀ a, result = .ok a → post a (past ++ calls) t) ∧
      ∀ e, result = .error e → stopped e (past ++ calls) t

namespace Holds

variable {pre : List (Exchanged ρ ans) → σ → Prop}
variable {m post : α → List (Exchanged ρ ans) → σ → Prop}
variable {last : β → List (Exchanged ρ ans) → σ → Prop}
variable {stopped : ε → List (Exchanged ρ ans) → σ → Prop}

theorem pure {a : α} (h : ∀ past s, pre past s → post a past s) :
    Holds pre (pure a : Course ρ ans σ ε α) post stopped := by
  intro past s hpre calls result t hruns
  obtain ⟨rfl, rfl, rfl⟩ := runs_pure.1 hruns
  rw [List.append_nil]
  exact ⟨fun _ ha => Except.ok.inj ha ▸ h past _ hpre, nofun⟩

theorem stop {e : ε} (h : ∀ past s, pre past s → stopped e past s) :
    Holds pre (Course.stop e : Course ρ ans σ ε α) post stopped := by
  intro past s hpre calls result t hruns
  obtain ⟨rfl, rfl, rfl⟩ := runs_stop.1 hruns
  rw [List.append_nil]
  exact ⟨nofun, fun _ he => Except.error.inj he ▸ h past _ hpre⟩

theorem note {g : σ → σ} {post : PUnit → List (Exchanged ρ ans) → σ → Prop}
    (h : ∀ past s, pre past s → post ⟨⟩ past (g s)) :
    Holds pre (Course.note g : Course ρ ans σ ε PUnit) post stopped := by
  intro past s hpre calls result t hruns
  obtain ⟨rfl, rfl, rfl⟩ := runs_note.1 hruns
  rw [List.append_nil]
  exact ⟨fun _ _ => h past s hpre, nofun⟩

theorem call {rep : ρ → Type u} {r : ρ} {e : ε}
    {pre : List (Exchanged ρ fun r => Option (rep r)) → σ → Prop}
    {post : rep r → List (Exchanged ρ fun r => Option (rep r)) → σ → Prop}
    {stopped : ε → List (Exchanged ρ fun r => Option (rep r)) → σ → Prop}
    (hans : ∀ past s, pre past s → ∀ a, post a (past ++ [⟨r, some a⟩]) s)
    (hnone : ∀ past s, pre past s → stopped e (past ++ [⟨r, none⟩]) s) :
    Holds pre (@Course.call ρ σ ε rep r e) post stopped := by
  intro past s hpre calls result t hruns
  obtain ⟨rfl, ⟨rfl, rfl⟩ | ⟨a, rfl, rfl⟩⟩ := runs_call.1 hruns
  · exact ⟨nofun, fun _ he => Except.error.inj he ▸ hnone past _ hpre⟩
  · exact ⟨fun _ ha => Except.ok.inj ha ▸ hans past _ hpre a, nofun⟩

theorem bind (hp : Holds pre p m stopped) (hf : ∀ a, Holds (m a) (f a) last stopped) :
    Holds pre (p >>= f) last stopped := by
  intro past s hpre calls result t hruns
  rcases runs_bind.1 hruns with ⟨e, rfl, hstop⟩ | ⟨before, a, mid, after, rfl, hfirst, hrest⟩
  · exact ⟨nofun, fun e' he => Except.error.inj he ▸ (hp past s hpre _ _ _ hstop).2 e rfl⟩
  · have hmid := (hp past s hpre _ _ _ hfirst).1 a rfl
    rw [← List.append_assoc]
    exact hf a _ _ hmid _ _ _ hrest

theorem ite {c : Prop} [Decidable c] {q : Course ρ ans σ ε α}
    (hp : c → Holds pre p post stopped) (hq : ¬ c → Holds pre q post stopped) :
    Holds pre (if c then p else q) post stopped := by
  by_cases h : c
  · rw [if_pos h]
    exact hp h
  · rw [if_neg h]
    exact hq h

/-- What every part of a list keeps, the whole list keeps. -/
theorem each {step : β → α → Course ρ ans σ ε β} {l : List α}
    {inv : β → List (Exchanged ρ ans) → σ → Prop}
    (h : ∀ a ∈ l, ∀ b, Holds (inv b) (step b a) inv stopped) (b : β) :
    Holds (inv b) (l.foldlM step b) inv stopped := by
  induction l generalizing b with
  | nil => exact pure fun _ _ hinv => hinv
  | cons a l ih =>
      rw [List.foldlM_cons]
      rw [List.forall_mem_cons] at h
      exact bind (h.1 b) fun b => ih h.2 b

theorem of_pre {pre' : List (Exchanged ρ ans) → σ → Prop} (hp : Holds pre p post stopped)
    (hpre : ∀ past s, pre' past s → pre past s) : Holds pre' p post stopped :=
  fun past s h => hp past s (hpre past s h)

theorem of_post {post' : α → List (Exchanged ρ ans) → σ → Prop} (hp : Holds pre p post stopped)
    (hpost : ∀ a past s, post a past s → post' a past s) : Holds pre p post' stopped :=
  fun past s h calls result t hruns =>
    ⟨fun a ha => hpost a _ _ ((hp past s h calls result t hruns).1 a ha),
      (hp past s h calls result t hruns).2⟩

end Holds

end Course

end YourCloud.Foundation
