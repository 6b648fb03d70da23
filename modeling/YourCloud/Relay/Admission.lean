import Mathlib.Algebra.Order.Group.Int
import Mathlib.Data.List.Perm.Subperm
import Mathlib.Logic.Function.Basic
import YourCloud.Foundation.Rfc3339
import YourCloud.Foundation.Run
import YourCloud.Foundation.SlidingWindow

/-!
# The requests that the Relay admits of its reader

A request of the one reader that the Relay knows is counted under a lock, then takes the
place of the request in progress, if it is free, and gives it back at its end.  Between
these sections any other request may run.

A request is counted when it begins: one that finds the place taken was counted.  The
times are those at which requests are counted, in the order in which they take the lock.

## Main results

* `fair_step` — the invariant of the handler and of every request.
* `others_kept` — a request that is not counted changes nothing for the others.
* `snapshot_admission` — the bounds, over every run.
-/

namespace YourCloud.Relay.Admission

open YourCloud.Foundation

/-! ## The handler -/

def minute : Instant := 60000000000

/-- How many requests may begin in a window of a minute. -/
def maxStarts : Nat := 12

/-- When the last requests were counted, and whether one is in progress. -/
structure Handler where
  requestStarts : List Instant
  requestSlot : Bool
  deriving DecidableEq, Repr

/-- `enterRequest`, under its lock. -/
def Handler.enterRequestStart (handler : Handler) (now : Instant) : Handler × Bool :=
  let (requestStarts, counted) := SlidingWindow.arrive maxStarts minute now handler.requestStarts
  ({ handler with requestStarts }, counted)

/-- `enterRequest`, once the request is counted. -/
def Handler.enterRequestSlot (handler : Handler) : Handler × Bool :=
  if handler.requestSlot then (handler, false) else ({ handler with requestSlot := true }, true)

def Handler.leaveRequest (handler : Handler) : Handler := { handler with requestSlot := false }

/-! ## Requests -/

/-- Where a request stands. -/
inductive Phase where
  | waiting
  | counted (now : Instant)
  | inside (now : Instant)
  | gone
  deriving DecidableEq, Repr

inductive Event where
  | start (request : Nat) (now : Instant)
  | slot (request : Nat)
  | leave (request : Nat)
  deriving DecidableEq, Repr

/-- What a request is told; it is admitted with the time at which it was counted. -/
inductive Answer where
  | counted
  | rateLimited
  | admitted (now : Instant)
  | busy
  | left
  /-- The request cannot do this where it stands. -/
  | ignored
  deriving DecidableEq, Repr

def Event.request : Event → Nat
  | .start request _ => request
  | .slot request => request
  | .leave request => request

def Event.time : Event → Option Instant
  | .start _ now => some now
  | _ => none

structure State where
  handler : Handler
  phases : Nat → Phase

/-- A request goes on to a phase, and the handler with it. -/
def State.move (s : State) (request : Nat) (handler : Handler) (phase : Phase) : State :=
  { handler, phases := Function.update s.phases request phase }

def step (s : State) : Event → State × Answer
  | .start request now =>
      match s.phases request with
      | .waiting =>
          match s.handler.enterRequestStart now with
          | (handler, true) => (s.move request handler (.counted now), .counted)
          | (handler, false) => (s.move request handler .gone, .rateLimited)
      | _ => (s, .ignored)
  | .slot request =>
      match s.phases request with
      | .counted now =>
          match s.handler.enterRequestSlot with
          | (handler, true) => (s.move request handler (.inside now), .admitted now)
          | (handler, false) => (s.move request handler .gone, .busy)
      | _ => (s, .ignored)
  | .leave request =>
      match s.phases request with
      | .inside _ => (s.move request s.handler.leaveRequest .gone, .left)
      | _ => (s, .ignored)

/-- A handler as it is made. -/
def newHandler : State := ⟨⟨[], false⟩, fun _ => .waiting⟩

/-- The clock does not go back between two requests that are counted. -/
def InOrder (es : List Event) : Prop := (es.filterMap Event.time).Pairwise (· ≤ ·)

instance (es : List Event) : Decidable (InOrder es) :=
  inferInstanceAs (Decidable (List.Pairwise _ _))

/-! ## What a run says of its requests -/

/-- The request that an event counts, with its time. -/
def countedBy : Event × Answer → Option (Nat × Instant)
  | (.start request now, .counted) => some (request, now)
  | _ => none

/-- The request that an event admits, with the time at which it was counted. -/
def admittedBy : Event × Answer → Option (Nat × Instant)
  | (.slot request, .admitted now) => some (request, now)
  | _ => none

/-- The request that an event turns away from a taken place. -/
def turnedBy : Event × Answer → Option Nat
  | (.slot request, .busy) => some request
  | _ => none

/-- The requests that were counted, in order. -/
def counted (h : List (Event × Answer)) : List (Nat × Instant) := h.filterMap countedBy

/-- The requests that were admitted, in order. -/
def admitted (h : List (Event × Answer)) : List (Nat × Instant) := h.filterMap admittedBy

/-- The requests that were turned away from a taken place, in order. -/
def turned (h : List (Event × Answer)) : List Nat := h.filterMap turnedBy

/-- How many of some requests were counted in a window of a minute. -/
def inMinute (first : Instant) (requests : List (Nat × Instant)) : Nat :=
  SlidingWindow.within minute first (requests.map Prod.snd)

/-- A run without one of its requests. -/
def othersOf (request : Nat) (h : List (Event × Answer)) : List (Event × Answer) :=
  h.filter fun entry => entry.1.request ≠ request

/-! ## One step -/

/-- What an event can do, and what it is answered. -/
inductive Does (s : State) : Event → State × Answer → Prop
  | ignored (e : Event) : Does s e (s, .ignored)
  | counted {request : Nat} {now : Instant} (hphase : s.phases request = .waiting)
      (hcounted : (s.handler.enterRequestStart now).2 = true) :
      Does s (.start request now)
        (s.move request (s.handler.enterRequestStart now).1 (.counted now), .counted)
  | rateLimited {request : Nat} {now : Instant} (hphase : s.phases request = .waiting)
      (hlimited : (s.handler.enterRequestStart now).2 = false) :
      Does s (.start request now)
        (s.move request (s.handler.enterRequestStart now).1 .gone, .rateLimited)
  | admitted {request : Nat} {now : Instant} (hphase : s.phases request = .counted now)
      (hfree : s.handler.requestSlot = false) :
      Does s (.slot request)
        (s.move request { s.handler with requestSlot := true } (.inside now), .admitted now)
  | busy {request : Nat} {now : Instant} (hphase : s.phases request = .counted now)
      (htaken : s.handler.requestSlot = true) :
      Does s (.slot request) (s.move request s.handler .gone, .busy)
  | left {request : Nat} {now : Instant} (hphase : s.phases request = .inside now) :
      Does s (.leave request) (s.move request s.handler.leaveRequest .gone, .left)

theorem step_does (s : State) (e : Event) : Does s e (step s e) := by
  cases e with
  | start request now =>
      unfold step
      dsimp only
      split
      · rename_i hphase
        split
        · rename_i handler hstart
          have hyes : (s.handler.enterRequestStart now).2 = true := by rw [hstart]
          have hcounted : Does s _ _ := .counted hphase hyes
          rwa [hstart] at hcounted
        · rename_i handler hstart
          have hno : (s.handler.enterRequestStart now).2 = false := by rw [hstart]
          have hlimited : Does s _ _ := .rateLimited hphase hno
          rwa [hstart] at hlimited
      · exact .ignored _
  | slot request =>
      unfold step
      dsimp only
      split
      · rename_i now hphase
        by_cases htaken : s.handler.requestSlot = true
        · simpa [Handler.enterRequestSlot, htaken] using Does.busy hphase htaken
        · have hfree : s.handler.requestSlot = false := by simpa using htaken
          simpa [Handler.enterRequestSlot, hfree] using Does.admitted hphase hfree
      · exact .ignored _
  | leave request =>
      unfold step
      dsimp only
      split
      · rename_i now hphase
        exact .left hphase
      · exact .ignored _

/-! ## The invariant -/

@[simp] theorem move_handler (s : State) (request : Nat) (handler : Handler) (phase : Phase) :
    (s.move request handler phase).handler = handler := rfl

@[simp] theorem move_phases (s : State) (request : Nat) (handler : Handler) (phase : Phase)
    (other : Nat) : (s.move request handler phase).phases other =
      if other = request then phase else s.phases other := by
  simp [State.move, Function.update_apply]

/-- The invariant, of the requests counted, admitted and turned away from a taken place, and
of the time last seen. -/
structure Fair (counts admissions : List (Nat × Instant)) (away : List Nat) (s : State)
    (seen : Instant) : Prop where
  kept : SlidingWindow.Kept maxStarts minute seen (counts.map Prod.snd) s.handler.requestStarts
  /-- A request is counted once, -/
  waiting : ∀ request now, s.phases request = .waiting → (request, now) ∉ counts
  once : (counts.map Prod.fst).Nodup
  /-- before it is admitted, once. -/
  begun : ∀ request now, s.phases request = .counted now →
    (request, now) ∈ counts ∧ request ∉ admissions.map Prod.fst
  admitted : ∀ entry ∈ admissions, entry ∈ counts
  admittedOnce : (admissions.map Prod.fst).Nodup
  /-- The one request in progress holds the place. -/
  alone : ∀ request now, s.phases request = .inside now → s.handler.requestSlot = true ∧
    ∀ other later, s.phases other = .inside later → other = request
  away : ∀ request ∈ away, request ∈ counts.map Prod.fst

variable {counts admissions : List (Nat × Instant)} {away : List Nat} {s : State}
  {seen now : Instant} {request : Nat}

theorem Fair.start (seen : Instant) : Fair [] [] [] newHandler seen where
  kept := SlidingWindow.Kept.nil _ _ _
  waiting := by simp
  once := by simp
  begun := by simp [newHandler]
  admitted := by simp
  admittedOnce := by simp
  alone := by simp [newHandler]
  away := by simp

theorem Fair.later (h : Fair counts admissions away s seen) (hnow : seen ≤ now) :
    Fair counts admissions away s now :=
  { h with kept := h.kept.later hnow }

/-- A request that goes takes nothing from the others, whatever it leaves of the place it
did not hold. -/
theorem Fair.gone (h : Fair counts admissions away s seen) {handler : Handler}
    (hkept : SlidingWindow.Kept maxStarts minute seen (counts.map Prod.snd) handler.requestStarts)
    (hslot : handler.requestSlot = s.handler.requestSlot ∨ ∃ now, s.phases request = .inside now) :
    Fair counts admissions away (s.move request handler .gone) seen where
  kept := hkept
  waiting := by
    intro other now hother
    by_cases hsame : other = request
    · simp [hsame] at hother
    · simp only [move_phases, hsame, if_false] at hother
      exact h.waiting other now hother
  once := h.once
  begun := by
    intro other now hother
    by_cases hsame : other = request
    · simp [hsame] at hother
    · simp only [move_phases, hsame, if_false] at hother
      exact h.begun other now hother
  admitted := h.admitted
  admittedOnce := h.admittedOnce
  alone := by
    intro other now hother
    by_cases hsame : other = request
    · simp [hsame] at hother
    · simp only [move_phases, hsame, if_false] at hother
      obtain ⟨htaken, halone⟩ := h.alone other now hother
      constructor
      · cases hslot with
        | inl hslot => simp [hslot, htaken]
        | inr hinside =>
            obtain ⟨later, hinside⟩ := hinside
            exact absurd (halone request later hinside).symm hsame
      · intro another later hanother
        by_cases hgone : another = request
        · simp [hgone] at hanother
        · simp only [move_phases, hgone, if_false] at hanother
          exact halone another later hanother
  away := h.away

theorem Fair.counted (h : Fair counts admissions away s seen) {starts : List Instant}
    (hphase : s.phases request = .waiting)
    (hkept : SlidingWindow.Kept maxStarts minute seen (counts.map Prod.snd ++ [now]) starts) :
    Fair (counts ++ [(request, now)]) admissions away
      (s.move request { s.handler with requestStarts := starts } (.counted now)) seen where
  kept := by simpa using hkept
  waiting := by
    intro other later hother
    by_cases hsame : other = request
    · simp [hsame] at hother
    · simp only [move_phases, hsame, if_false] at hother
      simp [h.waiting other later hother, hsame]
  once := by
    have hnew : ∀ later, (request, later) ∉ counts := fun later => h.waiting request later hphase
    simp [List.nodup_append, h.once]
    intro other later hmem hsame
    exact hnew later (hsame ▸ hmem)
  begun := by
    intro other later hother
    by_cases hsame : other = request
    · simp only [move_phases, hsame, if_true, Phase.counted.injEq] at hother
      rw [hsame, ← hother]
      refine ⟨by simp, ?_⟩
      intro hmem
      obtain ⟨entry, hentry, hname⟩ := List.mem_map.1 hmem
      refine h.waiting request entry.2 hphase ?_
      rw [← hname]
      exact h.admitted entry hentry
    · simp only [move_phases, hsame, if_false] at hother
      obtain ⟨hmem, hnot⟩ := h.begun other later hother
      exact ⟨List.mem_append_left _ hmem, hnot⟩
  admitted := fun entry hentry => List.mem_append_left _ (h.admitted entry hentry)
  admittedOnce := h.admittedOnce
  alone := by
    intro other later hother
    by_cases hsame : other = request
    · simp [hsame] at hother
    · simp only [move_phases, hsame, if_false] at hother
      obtain ⟨htaken, halone⟩ := h.alone other later hother
      refine ⟨htaken, ?_⟩
      intro another latest hanother
      by_cases hgone : another = request
      · simp [hgone] at hanother
      · simp only [move_phases, hgone, if_false] at hanother
        exact halone another latest hanother
  away := by
    intro other hother
    rw [List.map_append]
    exact List.mem_append_left _ (h.away other hother)

theorem Fair.enters (h : Fair counts admissions away s seen)
    (hphase : s.phases request = .counted now) (hfree : s.handler.requestSlot = false) :
    Fair counts (admissions ++ [(request, now)]) away
      (s.move request { s.handler with requestSlot := true } (.inside now)) seen where
  kept := h.kept
  waiting := by
    intro other later hother
    by_cases hsame : other = request
    · simp [hsame] at hother
    · simp only [move_phases, hsame, if_false] at hother
      exact h.waiting other later hother
  once := h.once
  begun := by
    intro other later hother
    by_cases hsame : other = request
    · simp [hsame] at hother
    · simp only [move_phases, hsame, if_false] at hother
      obtain ⟨hmem, hnot⟩ := h.begun other later hother
      refine ⟨hmem, ?_⟩
      simp only [List.map_append, List.mem_append, not_or]
      exact ⟨hnot, by simp [hsame]⟩
  admitted := by
    intro entry hentry
    rw [List.mem_append, List.mem_singleton] at hentry
    cases hentry with
    | inl hmem => exact h.admitted entry hmem
    | inr hnew =>
        rw [hnew]
        exact (h.begun request now hphase).1
  admittedOnce := by
    have hnew := (h.begun request now hphase).2
    rw [List.map_append, List.nodup_append]
    refine ⟨h.admittedOnce, by simp, ?_⟩
    intro other hother another hanother hsame
    simp only [List.map_cons, List.map_nil, List.mem_singleton] at hanother
    rw [hsame, hanother] at hother
    exact hnew hother
  alone := by
    -- Nobody holds a place that is free.
    have hnone : ∀ other later, s.phases other ≠ .inside later := by
      intro other later hother
      have htaken := (h.alone other later hother).1
      simp [hfree] at htaken
    intro other later hother
    refine ⟨rfl, ?_⟩
    intro another latest hanother
    by_cases hsame : other = request
    · by_cases hgone : another = request
      · rw [hgone, hsame]
      · simp only [move_phases, hgone, if_false] at hanother
        exact absurd hanother (hnone another latest)
    · simp only [move_phases, hsame, if_false] at hother
      exact absurd hother (hnone other later)
  away := h.away

theorem Fair.turns (h : Fair counts admissions away s seen)
    (hcounted : request ∈ counts.map Prod.fst) :
    Fair counts admissions (away ++ [request]) s seen := by
  refine { h with away := ?_ }
  intro other hother
  rw [List.mem_append, List.mem_singleton] at hother
  cases hother with
  | inl hmem => exact h.away other hmem
  | inr hsame => rwa [hsame]

/-! ## Runs -/

theorem counted_concat (h : List (Event × Answer)) (entry : Event × Answer) :
    counted (h ++ [entry]) = counted h ++ (countedBy entry).toList := by
  rw [counted, List.filterMap_append, ← counted]
  cases hentry : countedBy entry <;> simp [hentry]

theorem admitted_concat (h : List (Event × Answer)) (entry : Event × Answer) :
    admitted (h ++ [entry]) = admitted h ++ (admittedBy entry).toList := by
  rw [admitted, List.filterMap_append, ← admitted]
  cases hentry : admittedBy entry <;> simp [hentry]

theorem turned_concat (h : List (Event × Answer)) (entry : Event × Answer) :
    turned (h ++ [entry]) = turned h ++ (turnedBy entry).toList := by
  rw [turned, List.filterMap_append, ← turned]
  cases hentry : turnedBy entry <;> simp [hentry]

theorem fair_step {h : List (Event × Answer)}
    (hfair : Fair (counted h) (admitted h) (turned h) s seen) (e : Event)
    (hseen : ∀ now, e.time = some now → seen ≤ now) :
    let h' := h ++ [(e, answer step s e)]
    Fair (counted h') (admitted h') (turned h') (next step s e) (e.time.getD seen) := by
  have hlater : Fair (counted h) (admitted h) (turned h) s (e.time.getD seen) := by
    apply hfair.later
    cases htime : e.time with
    | none => exact le_refl seen
    | some now => exact hseen now htime
  have hdoes := step_does s e
  unfold answer next
  dsimp only
  rw [counted_concat, admitted_concat, turned_concat]
  generalize step s e = result at hdoes
  cases hdoes with
  | ignored =>
      have hnothing : countedBy (e, .ignored) = none ∧ admittedBy (e, .ignored) = none ∧
          turnedBy (e, .ignored) = none := by
        cases e <;> exact ⟨rfl, rfl, rfl⟩
      simpa [hnothing] using hlater
  | @counted request now hphase hcounted =>
      have hyes : (SlidingWindow.arrive maxStarts minute now s.handler.requestStarts).2 = true :=
        hcounted
      have hkept := hfair.kept.arrive (hseen now rfl)
      rw [hyes, if_pos rfl] at hkept
      have hnext : Fair (counted h ++ [(request, now)]) (admitted h) (turned h)
          (s.move request (s.handler.enterRequestStart now).1 (.counted now)) now :=
        Fair.counted hlater hphase hkept
      simpa [countedBy, admittedBy, turnedBy, Event.time] using hnext
  | @rateLimited request now hphase hlimited =>
      have hno : (SlidingWindow.arrive maxStarts minute now s.handler.requestStarts).2 = false :=
        hlimited
      have hkept := hfair.kept.arrive (hseen now rfl)
      rw [hno, if_neg Bool.false_ne_true] at hkept
      have hnext : Fair _ _ _ (s.move request (s.handler.enterRequestStart now).1 .gone) now :=
        Fair.gone hlater hkept (Or.inl rfl)
      simpa [countedBy, admittedBy, turnedBy, Event.time] using hnext
  | admitted hphase hfree =>
      simpa [countedBy, admittedBy, turnedBy] using hlater.enters hphase hfree
  | @busy request now hphase htaken =>
      have hcounted : request ∈ (counted h).map Prod.fst :=
        List.mem_map.2 ⟨_, (hlater.begun request now hphase).1, rfl⟩
      have hnext : Fair _ _ _ (s.move request s.handler .gone) _ :=
        hlater.gone hlater.kept (Or.inl rfl)
      simpa [countedBy, admittedBy, turnedBy] using hnext.turns hcounted
  | @left request now hphase =>
      have hnext : Fair _ _ _ (s.move request s.handler.leaveRequest .gone) _ :=
        hlater.gone hlater.kept (Or.inr ⟨now, hphase⟩)
      simpa [countedBy, admittedBy, turnedBy] using hnext

/-- The times of events, after one that was seen. -/
def After (seen : Instant) (es : List Event) : Prop :=
  List.Pairwise (· ≤ ·) (seen :: es.filterMap Event.time)

theorem After.cons {e : Event} {es : List Event} (h : After seen (e :: es)) :
    (∀ now, e.time = some now → seen ≤ now) ∧ After (e.time.getD seen) es := by
  unfold After at h ⊢
  cases htime : e.time with
  | none =>
      rw [List.filterMap_cons_none htime] at h
      exact ⟨by simp, h⟩
  | some now =>
      rw [List.filterMap_cons_some htime] at h
      refine ⟨?_, (List.pairwise_cons.1 h).2⟩
      intro later hlater
      rw [← Option.some.inj hlater]
      exact (List.pairwise_cons.1 h).1 now List.mem_cons_self

theorem InOrder.after {es : List Event} (h : InOrder es) : ∃ seen, After seen es := by
  unfold InOrder at h
  cases htimes : es.filterMap Event.time with
  | nil => exact ⟨0, by simp [After, htimes]⟩
  | cons first rest =>
      refine ⟨first, ?_⟩
      rw [htimes] at h
      unfold After
      rw [htimes, List.pairwise_cons]
      refine ⟨?_, h⟩
      intro now hnow
      rw [List.mem_cons] at hnow
      cases hnow with
      | inl hfirst => exact le_of_eq hfirst.symm
      | inr hrest => exact (List.pairwise_cons.1 h).1 now hrest

theorem fair_history {es : List Event} (hes : After seen es) {h : List (Event × Answer)}
    (hfair : Fair (counted h) (admitted h) (turned h) s seen) :
    let h' := h ++ history step s es
    ∃ last, Fair (counted h') (admitted h') (turned h') (run step s es) last := by
  induction es generalizing h s seen with
  | nil => exact ⟨seen, by simpa [history] using hfair⟩
  | cons e es ih =>
      obtain ⟨hseen, hafter⟩ := hes.cons
      have hrest := ih hafter (fair_step hfair e hseen)
      simpa [history, List.append_assoc] using hrest

theorem fair_run {es : List Event} (hes : InOrder es) :
    let h := history step newHandler es
    ∃ last, Fair (counted h) (admitted h) (turned h) (run step newHandler es) last := by
  obtain ⟨seen, hafter⟩ := hes.after
  have hstart : Fair (counted []) (admitted []) (turned []) newHandler seen := Fair.start seen
  exact fair_history hafter hstart

/-! ## Without a request -/

/-- A state beside the one where a request that is not counted was never made. -/
structure Without (request : Nat) (seen : Instant) (s t : State) : Prop where
  slot : s.handler.requestSlot = t.handler.requestSlot
  /-- Whoever arrives next finds the same requests in its window. -/
  starts : ∀ now, seen ≤ now → SlidingWindow.prune minute now s.handler.requestStarts =
    SlidingWindow.prune minute now t.handler.requestStarts
  phases : ∀ other, other ≠ request → s.phases other = t.phases other
  idle : ∀ now, s.phases request ≠ .counted now ∧ s.phases request ≠ .inside now

theorem Without.refl (request : Nat) (seen : Instant) :
    Without request seen newHandler newHandler where
  slot := rfl
  starts := fun _ _ => rfl
  phases := fun _ _ => rfl
  idle := by simp [newHandler]

theorem Without.later {t : State} (h : Without request seen s t) (hnow : seen ≤ now) :
    Without request now s t :=
  { h with starts := fun later hlater => h.starts later (le_trans hnow hlater) }

/-- A request that is not counted moves nothing of what the others see. -/
theorem Without.passed {t : State} (h : Without request seen s t) {e : Event}
    (hrequest : e.request = request) (hseen : ∀ now, e.time = some now → seen ≤ now)
    (hnot : answer step s e ≠ .counted) :
    Without request (e.time.getD seen) (next step s e) t := by
  have hlater : Without request (e.time.getD seen) s t := by
    cases htime : e.time with
    | none => exact h
    | some now => exact h.later (hseen now htime)
  have hdoes := step_does s e
  unfold answer at hnot
  unfold next
  generalize step s e = result at hdoes hnot
  cases hdoes with
  | ignored => exact hlater
  | counted hphase hcounted => exact absurd rfl hnot
  | @rateLimited caller now hphase hlimited =>
      have hcaller : caller = request := hrequest
      have hpruned : (s.handler.enterRequestStart now).1.requestStarts =
          SlidingWindow.prune minute now s.handler.requestStarts :=
        SlidingWindow.arrive_of_refused hlimited
      refine ⟨h.slot, ?_, ?_, ?_⟩
      · intro later hlate
        have hle : now ≤ later := hlate
        rw [move_handler, hpruned, SlidingWindow.prune_prune hle]
        exact h.starts later (le_trans (hseen now rfl) hle)
      · intro other hother
        simp [hcaller, hother, h.phases other hother]
      · intro later
        simp [hcaller]
  | @admitted caller now hphase hfree =>
      have hcaller : caller = request := hrequest
      exact absurd (hcaller ▸ hphase) (h.idle now).1
  | @busy caller now hphase htaken =>
      have hcaller : caller = request := hrequest
      exact absurd (hcaller ▸ hphase) (h.idle now).1
  | @left caller now hphase =>
      have hcaller : caller = request := hrequest
      exact absurd (hcaller ▸ hphase) (h.idle now).2

theorem Without.moved {t : State} (h : Without request seen s t) {other : Nat}
    (hother : other ≠ request) {handler twin : Handler} (phase : Phase)
    (hslot : handler.requestSlot = twin.requestSlot)
    (hstarts : ∀ now, seen ≤ now → SlidingWindow.prune minute now handler.requestStarts =
      SlidingWindow.prune minute now twin.requestStarts) :
    Without request seen (s.move other handler phase) (t.move other twin phase) where
  slot := hslot
  starts := hstarts
  phases := by
    intro another hanother
    simp [h.phases another hanother]
  idle := by
    intro now
    simpa [hother.symm] using h.idle now

/-- The other requests are told the same. -/
theorem Without.told {t : State} (h : Without request seen s t) {e : Event}
    (hother : e.request ≠ request) (hseen : ∀ now, e.time = some now → seen ≤ now) :
    answer step s e = answer step t e ∧
      Without request (e.time.getD seen) (next step s e) (next step t e) := by
  have hphase := h.phases e.request hother
  unfold answer next
  cases e with
  | start caller now =>
      have hlater : Without request now s t := h.later (hseen now rfl)
      have harrive := SlidingWindow.arrive_congr maxStarts (h.starts now (hseen now rfl))
      have henter : s.handler.enterRequestStart now = t.handler.enterRequestStart now := by
        rw [Handler.enterRequestStart, Handler.enterRequestStart, harrive, h.slot]
      rw [Event.request] at hphase
      rw [step, step, hphase, henter]
      cases t.phases caller with
      | waiting =>
          obtain ⟨handler, counted⟩ := t.handler.enterRequestStart now
          cases counted <;> exact ⟨rfl, hlater.moved hother _ rfl fun _ _ => rfl⟩
      | counted _ => exact ⟨rfl, hlater⟩
      | inside _ => exact ⟨rfl, hlater⟩
      | gone => exact ⟨rfl, hlater⟩
  | slot caller =>
      rw [Event.request] at hphase
      rw [step, step, hphase, Handler.enterRequestSlot, Handler.enterRequestSlot, h.slot]
      cases t.phases caller with
      | counted now =>
          by_cases htaken : t.handler.requestSlot = true
          · simp only [htaken, if_true]
            exact ⟨trivial, h.moved hother _ h.slot h.starts⟩
          · simp only [htaken]
            exact ⟨rfl, h.moved hother _ rfl h.starts⟩
      | waiting => exact ⟨rfl, h⟩
      | inside _ => exact ⟨rfl, h⟩
      | gone => exact ⟨rfl, h⟩
  | leave caller =>
      rw [Event.request] at hphase
      rw [step, step, hphase]
      cases t.phases caller with
      | inside now => exact ⟨rfl, h.moved hother _ rfl h.starts⟩
      | waiting => exact ⟨rfl, h⟩
      | counted _ => exact ⟨rfl, h⟩
      | gone => exact ⟨rfl, h⟩

/-- Only a request's first event counts it. -/
theorem start_of_counted {e : Event} (h : answer step s e = .counted) :
    ∃ now, e = .start e.request now := by
  have hdoes := step_does s e
  unfold answer at h
  generalize step s e = result at hdoes h
  cases hdoes with
  | counted hphase hcounted => exact ⟨_, rfl⟩
  | _ => cases h

theorem others_kept {es : List Event} {t : State} (hes : After seen es)
    (h : Without request seen s t)
    (hnot : ∀ now, (Event.start request now, Answer.counted) ∉ history step s es) :
    othersOf request (history step s es) =
      history step t (es.filter fun e => e.request ≠ request) := by
  induction es generalizing s t seen with
  | nil => rfl
  | cons e es ih =>
      obtain ⟨hseen, hafter⟩ := hes.cons
      have hlater : ∀ now, (Event.start request now, Answer.counted) ∉
          history step (next step s e) es := fun now hmem => hnot now (List.mem_cons_of_mem _ hmem)
      by_cases hother : e.request = request
      · have huncounted : answer step s e ≠ .counted := by
          intro hanswer
          obtain ⟨now, hstart⟩ := start_of_counted hanswer
          rw [hother] at hstart
          apply hnot now
          rw [history, hanswer, ← hstart]
          exact List.mem_cons_self
        have hrest := ih hafter (h.passed hother hseen huncounted) hlater
        simpa [history, othersOf, hother] using hrest
      · obtain ⟨hanswer, hnext⟩ := h.told hother hseen
        have hrest := ih hafter hnext hlater
        simpa [history, othersOf, hother, hanswer] using hrest

/-- A request that came too soon is not counted later. -/
structure Dismissed (h : List (Event × Answer)) (s : State) : Prop where
  waiting : ∀ request now, s.phases request = .waiting →
    (Event.start request now, Answer.counted) ∉ h
  limited : ∀ request now later, (Event.start request now, Answer.rateLimited) ∈ h →
    s.phases request = .gone ∧ (Event.start request later, Answer.counted) ∉ h

/-- A request that goes on is counted, or comes too soon, only where it was waiting. -/
theorem Dismissed.moved {h : List (Event × Answer)} (hd : Dismissed h s) {handler : Handler}
    {phase : Phase} {entry : Event × Answer} (hbefore : s.phases request ≠ .gone)
    (hafter : phase ≠ .waiting)
    (hcounted : ∀ other now, entry = (.start other now, .counted) → other = request)
    (hlimited : ∀ other now, entry = (.start other now, .rateLimited) →
      other = request ∧ s.phases request = .waiting ∧ phase = .gone) :
    Dismissed (h ++ [entry]) (s.move request handler phase) := by
  constructor
  · intro other later hwaiting hmem
    rw [List.mem_append, List.mem_singleton] at hmem
    by_cases hsame : other = request
    · simp [hsame, hafter] at hwaiting
    · simp only [move_phases, hsame, if_false] at hwaiting
      cases hmem with
      | inl hmem => exact hd.waiting other later hwaiting hmem
      | inr hentry => exact hsame (hcounted other later hentry.symm)
  · intro other now later hmem
    rw [List.mem_append, List.mem_singleton] at hmem ⊢
    cases hmem with
    | inl hmem =>
        obtain ⟨hover, hnot⟩ := hd.limited other now later hmem
        have hother : other ≠ request := by
          intro hsame
          rw [hsame] at hover
          exact hbefore hover
        refine ⟨by simp [hother, hover], ?_⟩
        rintro (hearlier | hentry)
        · exact hnot hearlier
        · exact hother (hcounted other later hentry.symm)
    | inr hentry =>
        obtain ⟨hsame, hwaiting, hover⟩ := hlimited other now hentry.symm
        refine ⟨by simp [hsame, hover], ?_⟩
        rintro (hearlier | hcount)
        · rw [hsame] at hearlier
          exact hd.waiting request later hwaiting hearlier
        · simp [← hentry] at hcount

theorem dismissed_step {h : List (Event × Answer)} (hd : Dismissed h s) (e : Event) :
    Dismissed (h ++ [(e, answer step s e)]) (next step s e) := by
  have hdoes := step_does s e
  unfold answer next
  generalize step s e = result at hdoes
  cases hdoes with
  | ignored =>
      constructor
      · intro other later hwaiting
        simpa using hd.waiting other later hwaiting
      · intro other now later hmem
        simpa using hd.limited other now later (by simpa using hmem)
  | counted hphase hcounted => apply hd.moved <;> simp [hphase, eq_comm]
  | rateLimited hphase hlimited => apply hd.moved <;> simp [hphase, eq_comm]
  | admitted hphase hfree => apply hd.moved <;> simp [hphase]
  | busy hphase htaken => apply hd.moved <;> simp [hphase]
  | left hphase => apply hd.moved <;> simp [hphase]

theorem dismissed_run (es : List Event) :
    Dismissed (history step newHandler es) (run step newHandler es) := by
  have hstep : ∀ h s e, Dismissed h s → Dismissed (h ++ [(e, answer step s e)]) (next step s e) :=
    fun _ _ e hd => dismissed_step hd e
  have hstart : Dismissed [] newHandler := ⟨by simp, by simp⟩
  exact history_invariant hstep hstart es

/-! ## The bounds -/

/-- In any window of a minute no more than the limit of requests is counted, and so
admitted, and one at most is in progress.  A request that comes too soon changes nothing
for the others; one that finds another in progress was counted, once. -/
theorem snapshot_admission {es : List Event} (hes : InOrder es) :
    let h := history step newHandler es
    (∀ first, inMinute first (counted h) ≤ maxStarts ∧ inMinute first (admitted h) ≤ maxStarts) ∧
    (∀ request now other later, (run step newHandler es).phases request = .inside now →
      (run step newHandler es).phases other = .inside later → request = other) ∧
    (∀ request now, (Event.start request now, Answer.rateLimited) ∈ h →
      othersOf request h = history step newHandler (es.filter fun e => e.request ≠ request)) ∧
    ∀ request ∈ turned h, ((counted h).map Prod.fst).count request = 1 := by
  intro h
  obtain ⟨last, hfair⟩ := fair_run hes
  refine ⟨?_, ?_, ?_, ?_⟩
  · intro first
    have hcounted : inMinute first (counted h) ≤ maxStarts := hfair.kept.bounded first
    -- An admitted request is one of those that were counted.
    have hsub : List.Subperm (admitted h) (counted h) := by
      apply List.subperm_of_subset
      · exact hfair.admittedOnce.of_map
      · exact hfair.admitted
    have hle : inMinute first (admitted h) ≤ inMinute first (counted h) := by
      unfold inMinute SlidingWindow.within
      rw [List.countP_map, List.countP_map]
      exact hsub.countP_le _
    exact ⟨hcounted, le_trans hle hcounted⟩
  · intro request now other later hrequest hother
    exact ((hfair.alone request now hrequest).2 other later hother).symm
  · intro request now hlimited
    have hnot := fun later => ((dismissed_run es).limited request now later hlimited).2
    obtain ⟨seen, hafter⟩ := hes.after
    exact others_kept hafter (Without.refl request seen) hnot
  · intro request hturned
    exact List.count_eq_one_of_mem hfair.once (hfair.away request hturned)

/-- One request is in progress, and the eleven that find it so are counted. -/
def crowd : List Event :=
  [.start 0 0, .slot 0] ++ (List.range 11).flatMap (fun k => [.start (k + 1) 0, .slot (k + 1)]) ++
    [.leave 0, .start 12 0]

theorem crowd_turned : ¬ ∀ es : List Event, InOrder es →
    let h := history step newHandler es
    (∀ first, inMinute first (admitted h) ≤ maxStarts) ∧
    (∀ request now other later, (run step newHandler es).phases request = .inside now →
      (run step newHandler es).phases other = .inside later → request = other) ∧
    ∀ request, (∃ now, (Event.start request now, Answer.rateLimited) ∈ h) ∨ request ∈ turned h →
      othersOf request h = history step newHandler (es.filter fun e => e.request ≠ request) := by
  intro h
  have hcrowd := (h crowd (by decide)).2.2 1 (Or.inr (by decide))
  revert hcrowd
  decide

theorem snapshot_admission_crowd :
    let h := history step newHandler crowd
    (∀ first, inMinute first (counted h) ≤ maxStarts ∧ inMinute first (admitted h) ≤ maxStarts) ∧
    (∀ request now other later, (run step newHandler crowd).phases request = .inside now →
      (run step newHandler crowd).phases other = .inside later → request = other) ∧
    (∀ request now, (Event.start request now, Answer.rateLimited) ∈ h →
      othersOf request h = history step newHandler (crowd.filter fun e => e.request ≠ request)) ∧
    ∀ request ∈ turned h, ((counted h).map Prod.fst).count request = 1 :=
  snapshot_admission (by decide)

end YourCloud.Relay.Admission
