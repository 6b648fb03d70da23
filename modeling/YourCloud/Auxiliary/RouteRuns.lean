import YourCloud.Auxiliary.RouteKinds
import YourCloud.Auxiliary.Sited

/-!
# What a name is served by, over whole runs

Every call of every applied plan is recorded with the machine before and after it, and so
is whatever else happens to the machine.  An operation about a route takes one of three
steps: none, the fragment of its own name written where the other kind does not hold it,
or that fragment removed.

## Main results

* `RouteStep.serves_kept` — a step that leaves a name its fragment leaves it its kind.
* `run_orderly` — every call of every plan about a route takes such a step.
-/

namespace YourCloud.Auxiliary

open YourCloud.Foundation
open Dialogue (converse)
open Operation (Performs carriedOut proceed settle)
open Plan (PlanDocument)

/-- What is published: a name, by a kind of route and towards a port. -/
structure Route where
  kind : RouteKind
  host : Bytes
  port : Int64
  deriving DecidableEq, Repr

namespace Route

def path (route : Route) : Bytes := routeFragmentPath route.host

def fragment (route : Route) : Bytes := route.kind.render route.host route.port

end Route

def routeKindOf : Approval.Operation → Option RouteKind
  | .publishRoute | .retireRoute => some .service
  | .publishLinkRoute | .retireLinkRoute => some .passage
  | _ => none

/-- The route an instance is about. -/
def Instance.route (subject : Instance) : Option Route :=
  (routeKindOf subject.operation).map fun kind => ⟨kind, subject.routeHost, subject.backendPort⟩

namespace Host

def fragment (host : Host) (name : Bytes) : Option Bytes := host.files (routeFragmentPath name)

/-- A name is served by a kind of route. -/
def serves (host : Host) (name : Bytes) (kind : RouteKind) : Bool :=
  (host.fragment name).any kind.serves

end Host

/-! ## Steps -/

/-- What one call of an operation about a route does to the machine. -/
inductive RouteStep (route : Route) (before : Host) : Host → Prop
  | still : RouteStep route before before
  | published (h : ∀ kind, before.serves route.host kind = true → kind = route.kind) :
      RouteStep route before (before.write route.path route.fragment)
  | retired : RouteStep route before (before.erase route.path)

theorem routeFragmentPath_injective {name other : Bytes}
    (h : routeFragmentPath name = routeFragmentPath other) : name = other :=
  List.append_cancel_left (List.append_cancel_right h)

variable {route : Route} {before after : Host} {name : Bytes}

/-- No step touches the fragment of another name. -/
theorem RouteStep.fragment_other (h : RouteStep route before after) (hother : name ≠ route.host) :
    after.fragment name = before.fragment name := by
  have hpath : routeFragmentPath name ≠ route.path :=
    fun hsame => hother (routeFragmentPath_injective hsame)
  cases h with
  | still => rfl
  | published => exact Function.update_of_ne hpath _ _
  | retired => exact Function.update_of_ne hpath _ _

theorem serves_of_fragment (h : after.fragment name = before.fragment name) (kind : RouteKind) :
    after.serves name kind = before.serves name kind := by
  unfold Host.serves
  rw [h]

/-- A step that leaves a name its fragment leaves it the kinds it is served by. -/
theorem RouteStep.serves_kept (hhost : Plan.canonicalRouteHost route.host = true)
    (h : RouteStep route before after) (hserved : ∃ kind, before.serves name kind = true)
    (hheld : after.fragment name ≠ none) (kind : RouteKind) :
    after.serves name kind = before.serves name kind := by
  by_cases hname : name = route.host
  · subst hname
    cases h with
    | still => rfl
    | published hfree =>
        -- The name was served by the kind of the route, and by no other.
        obtain ⟨held, hheldBy⟩ := hserved
        have hkind := hfree held hheldBy
        have hwritten : (before.write route.path route.fragment).fragment route.host =
            some route.fragment := Function.update_self _ _ _
        rw [Bool.eq_iff_iff, Host.serves, hwritten, Option.any_some, Route.fragment,
          serves_render hhost]
        constructor
        · intro hsame
          rwa [hsame, ← hkind]
        · exact hfree kind
    | retired => exact absurd (Function.update_self _ _ _) hheld
  · exact serves_of_fragment (h.fragment_other hname) kind

/-! ## Courses of steps -/

/-- The machine before and after something happened to it, with the route that a plan is about
where it was one of its calls. -/
structure Transition where
  route : Option Route
  before : Host
  after : Host

/-- What a plan about a route may do. -/
def Transition.Permitted (t : Transition) : Prop :=
  ∀ route, t.route = some route →
    Plan.canonicalRouteHost route.host = true ∧ RouteStep route t.before t.after

/-- A name keeps a fragment, which nothing but a plan about a route touches. -/
def Transition.Holds (t : Transition) (name : Bytes) : Prop :=
  t.after.fragment name ≠ none ∧ (t.route = none → t.after.fragment name = t.before.fragment name)

/-- Transitions that lead from a machine to another. -/
def Connects (start : Host) : List Transition → Host → Prop
  | [], stop => stop = start
  | t :: ts, stop => t.before = start ∧ Connects t.after ts stop

theorem Connects.append {start middle stop : Host} {ts us : List Transition}
    (h : Connects start ts middle) (h' : Connects middle us stop) : Connects start (ts ++ us) stop := by
  induction ts generalizing start with
  | nil =>
      rw [Connects] at h
      rwa [← h]
  | cons t ts ih => exact ⟨h.1, ih h.2⟩

theorem Connects.concat {start middle stop : Host} {ts : List Transition} (route : Option Route)
    (h : Connects start ts middle) : Connects start (ts ++ [⟨route, middle, stop⟩]) stop :=
  h.append ⟨rfl, rfl⟩

/-- Over a course in which a name keeps a fragment, it keeps the kinds it is served by. -/
theorem Connects.serves_kept {start stop : Host} {ts : List Transition} (h : Connects start ts stop)
    (hpermitted : ∀ t ∈ ts, t.Permitted) (hholds : ∀ t ∈ ts, t.Holds name)
    (hserved : ∃ kind, start.serves name kind = true) (kind : RouteKind) :
    stop.serves name kind = start.serves name kind := by
  induction ts generalizing start with
  | nil =>
      rw [Connects] at h
      rw [h]
  | cons t ts ih =>
      obtain ⟨rfl, hrest⟩ := h
      rw [List.forall_mem_cons] at hpermitted hholds
      have hstep (kind : RouteKind) : t.after.serves name kind = t.before.serves name kind := by
        cases hroute : t.route with
        | none => exact serves_of_fragment (hholds.1.2 hroute) kind
        | some route =>
            obtain ⟨hhost, hstep⟩ := hpermitted.1 route hroute
            exact hstep.serves_kept hhost hserved hholds.1.1 kind
      have hstill : ∃ kind, t.after.serves name kind = true := by
        obtain ⟨held, hheld⟩ := hserved
        exact ⟨held, (hstep held).trans hheld⟩
      rw [ih hrest hpermitted.2 hholds.2 hstill, hstep]

/-! ## Calls -/

/-- A machine with what is recorded of it. -/
structure Recording where
  attendance : Attendance
  transitions : List Transition

/-- A call of a plan about a route, or of another plan. -/
def recorded (route : Option Route) (call : Executor) (w : Recording) : call.Outcome × Recording :=
  let answered := attended call w.attendance
  (answered.1, ⟨answered.2, w.transitions ++ [⟨route, w.attendance.host, answered.2.host⟩]⟩)

/-- What was recorded leads from a machine to the one that stands now, each step permitted. -/
structure Orderly (start : Host) (w : Recording) : Prop where
  connects : Connects start w.transitions w.attendance.host
  permitted : ∀ t ∈ w.transitions, t.Permitted

variable {start host : Host}

/-- Of one step of a call, none is taken or that one. -/
theorem takes_one (reply : Reply) (effect : Host → Host) (host : Host) :
    reply.takes [effect] host = host ∨ reply.takes [effect] host = effect host := by
  unfold Reply.takes
  cases reply.failing with
  | none => exact Or.inr rfl
  | some failing =>
      obtain ⟨why, steps⟩ := failing
      cases steps with
      | zero => exact Or.inl rfl
      | succ steps => exact Or.inr (by simp)

/-- A call whose effect is permitted. -/
theorem Orderly.call {call : Executor} {w : Recording} {about : Option Route} (h : Orderly start w)
    (hpermitted : (Transition.mk about w.attendance.host
      (respond call (w.attendance.replies 0) w.attendance.host).2).Permitted) :
    Orderly start (recorded about call w).2 where
  connects := h.connects.concat about
  permitted := List.forall_mem_append.2 ⟨h.permitted, List.forall_mem_singleton.2 hpermitted⟩

/-- The machine stands so. -/
def Standing (start host : Host) (w : Recording) : Prop :=
  Orderly start w ∧ w.attendance.host = host

/-- A name that the other kind holds is refused. -/
theorem uncontested_standing {other : RouteKind} {heldKind askedKind : Bytes} :
    Meets (recorded (some route)) (Standing start host)
      (requireUncontestedName (host.fragment route.host) route.host other.address heldKind askedKind)
      (fun _ w => host.serves route.host other = false ∧ Standing start host w) (Orderly start) := by
  apply Meets.whenever
  · intro hheld
    exact Meets.fail fun w hw => hw.1
  · intro hfree w hw
    exact ⟨hfree, hw⟩

/-- What keeps the order however it ends. -/
theorem settles_orderly {α : Type} {p : Acts α}
    (h : Leads (recorded (some route)) (Orderly start) p fun _ => Orderly start) :
    Meets (recorded (some route)) (Orderly start) p (fun _ => Orderly start) (Orderly start) := by
  refine h.weaken (fun _ hw => hw) fun ending w hw => ?_
  cases ending with
  | ok a => exact hw
  | error why => exact hw

section Calls

variable (hhost : Plan.canonicalRouteHost route.host = true)
include hhost

/-- A call that only reads. -/
theorem Orderly.look {call : Executor} {w : Recording} (hlook : call.mutates = false)
    (h : Orderly start w) : Orderly start (recorded (some route) call w).2 := by
  apply h.call
  rw [respond_looks hlook]
  rintro _ ⟨⟩
  exact ⟨hhost, .still⟩

/-- A part that only reads keeps what is recorded in order, and the machine as it is. -/
theorem looks_orderly {α : Type} {p : Acts α} (hp : Looks Executor.mutates p) :
    Meets (recorded (some route)) (Orderly start) p (fun _ => Orderly start) (Orderly start) := by
  apply settles_orderly
  exact hp.leads fun call w hlook hw => hw.look hhost hlook

theorem looks_standing {α : Type} {p : Acts α} (hp : Looks Executor.mutates p) :
    Meets (recorded (some route)) (Standing start host) p (fun _ => Standing start host)
      (Orderly start) := by
  have hkept : Leads (recorded (some route)) (Standing start host) p fun _ => Standing start host :=
    hp.leads fun call w hlook hw => ⟨hw.1.look hhost hlook, by
      rw [← hw.2]
      exact respond_looks hlook _ _⟩
  refine hkept.weaken (fun _ hw => hw) fun ending w hw => ?_
  cases ending with
  | ok a => exact hw
  | error why => exact hw.1

/-- What the fragment of the name is when it is read. -/
theorem readFragment_standing :
    Meets (recorded (some route)) (Standing start host) (readFragment route.path)
      (fun current w => current = host.fragment route.host ∧ Standing start host w)
      (Orderly start) := by
  apply Meets.reword
  apply Meets.call
  intro w hw
  have hlook : Executor.mutates (.readUnitFile route.path) = false := rfl
  have hstill : Standing start host (recorded (some route) (.readUnitFile route.path) w).2 :=
    ⟨hw.1.look hhost hlook, hw.2⟩
  show Settles _ _ (Reply.answers _ (w.attendance.host.files route.path)) _
  rw [hw.2]
  unfold Reply.answers
  cases (w.attendance.replies 0).failing with
  | none => exact ⟨rfl, hstill⟩
  | some failing => exact hstill.1

/-- A call with one effect, which a plan about the route may have. -/
theorem Orderly.act {call : Executor} {w : Recording} {effect : Host → Host}
    (hcall : ∀ reply host, (respond call reply host).2 = reply.takes [effect] host)
    (h : Orderly start w) (hstep : RouteStep route w.attendance.host (effect w.attendance.host)) :
    Orderly start (recorded (some route) call w).2 := by
  apply h.call
  rintro _ ⟨⟩
  refine ⟨hhost, ?_⟩
  rw [hcall]
  cases takes_one (w.attendance.replies 0) effect w.attendance.host with
  | inl hnone =>
      rw [hnone]
      exact .still
  | inr hdone =>
      rw [hdone]
      exact hstep

/-- The fragment is written where the other kind does not hold the name, and asked for. -/
theorem publishing_orderly {why : Bytes → Bytes} {answers : Executor} {a : answers.Answer → Application}
    (hlook : answers.mutates = false)
    (hfree : ∀ kind, host.serves route.host kind = true → kind = route.kind) :
    Meets (recorded (some route)) (Standing start host)
      (do
        during "write the route fragment" (ask (.writeUnitFile route.path route.fragment))
        let answer ← (ask answers).reword why
        return a answer)
      (fun _ => Orderly start) (Orderly start) := by
  have hwrite : Meets (recorded (some route)) (Standing start host)
      (during "write the route fragment" (ask (.writeUnitFile route.path route.fragment)))
      (fun _ => Orderly start) (Orderly start) := by
    apply Meets.reword
    apply Meets.call
    intro w hw
    have hafter : Orderly start (recorded (some route)
        (.writeUnitFile route.path route.fragment) w).2 := by
      apply hw.1.act hhost fun _ _ => rfl
      rw [hw.2]
      exact .published hfree
    cases (recorded (some route) (.writeUnitFile route.path route.fragment) w).1 with
    | ok u => exact hafter
    | error why => exact hafter
  apply Meets.bind hwrite
  intro written
  apply Meets.bind (looks_orderly hhost (looks_ask hlook).reword)
  intro answer
  exact Meets.pure fun _ hw => hw

/-- The fragment is removed. -/
theorem retiring_orderly {a : Application} :
    Meets (recorded (some route)) (Orderly start)
      (do
        during "remove the route fragment" (ask (.removeUnitFile route.path))
        return a)
      (fun _ => Orderly start) (Orderly start) := by
  have hremove : Meets (recorded (some route)) (Orderly start)
      (during "remove the route fragment" (ask (.removeUnitFile route.path)))
      (fun _ => Orderly start) (Orderly start) := by
    apply Meets.reword
    apply Meets.call
    intro w hw
    have hafter : Orderly start (recorded (some route) (.removeUnitFile route.path) w).2 :=
      hw.act hhost (fun _ _ => rfl) .retired
    cases (recorded (some route) (.removeUnitFile route.path) w).1 with
    | ok u => exact hafter
    | error why => exact hafter
  apply Meets.bind hremove
  intro removed
  exact Meets.pure fun _ hw => hw

/-- A plan about a route, carried out. -/
abbrev KeepsOrder (route : Route) (start host : Host) (p : Acts Examination) : Prop :=
  Performs (recorded (some route)) (Standing start host) p (fun _ => Orderly start) (Orderly start)
    (Orderly start)

/-- What follows the examination of a plan that publishes a route. -/
theorem published_orderly (other : RouteKind) (hother : ∀ kind, kind = other ∨ kind = route.kind)
    {heldKind askedKind : Bytes} {why : Bytes → Bytes} {answers : Executor} {kept : Application}
    {a : answers.Answer → Application} (hlook : answers.mutates = false) :
    KeepsOrder route start host (do
      let current ← readFragment route.path
      requireUncontestedName current route.host other.address heldKind askedKind
      if current == some route.fragment then settle kept
      else
        proceed do
          during "write the route fragment" (ask (.writeUnitFile route.path route.fragment))
          let answer ← (ask answers).reword why
          return a answer) := by
  apply Performs.bind_of (readFragment_standing hhost)
  rintro current rfl
  apply Performs.bind_of uncontested_standing
  intro uncontested hfree
  apply Performs.ite
  · intro hsame
    exact Performs.settle fun w hw => hw.1
  · intro hdrifted
    apply Performs.proceed
    apply publishing_orderly hhost hlook
    intro kind hserves
    cases hother kind with
    | inl hheld =>
        rw [hheld, hfree] at hserves
        cases hserves
    | inr hkind => exact hkind

theorem publishRoute_orderly {subject : Instance}
    (hroute : route = ⟨.service, subject.routeHost, subject.backendPort⟩) :
    KeepsOrder route start host (publishRoute subject) := by
  subst hroute
  unfold publishRoute
  apply Performs.bind (looks_standing hhost looks_requireEntrypointPresent)
  intro present
  apply Performs.bind (looks_standing hhost (looks_requireManagedBackend _))
  intro managed
  refine published_orderly hhost .passage (fun kind => ?_) rfl
  cases kind with
  | service => exact Or.inr rfl
  | passage => exact Or.inl rfl

theorem publishLinkRoute_orderly {subject : Instance}
    (hroute : route = ⟨.passage, subject.routeHost, subject.backendPort⟩) :
    KeepsOrder route start host (publishLinkRoute subject) := by
  subst hroute
  unfold publishLinkRoute
  apply Performs.bind (looks_standing hhost looks_requireEntrypointPresent)
  intro present
  apply Performs.bind (looks_standing hhost (looks_requireBoundedJunction _))
  intro bounded
  refine published_orderly hhost .service (fun kind => ?_) rfl
  cases kind with
  | service => exact Or.inl rfl
  | passage => exact Or.inr rfl

theorem retireRoute_orderly {subject : Instance} {kind : RouteKind}
    (hroute : route = ⟨kind, subject.routeHost, subject.backendPort⟩) :
    KeepsOrder route start host (retireRoute subject) := by
  subst hroute
  unfold retireRoute
  apply Performs.bind (looks_standing hhost (looks_during rfl))
  intro current
  apply Performs.ite
  · intro hnone
    exact Performs.settle fun w hw => hw.1
  · intro hheld
    apply Performs.proceed
    exact Meets.weaken (retiring_orderly hhost) (fun w hw => hw.1) (fun _ _ hw => hw) fun _ hw => hw

theorem retireLinkRoute_orderly {subject : Instance} {kind : RouteKind}
    (hroute : route = ⟨kind, subject.routeHost, subject.backendPort⟩) :
    KeepsOrder route start host (retireLinkRoute subject) := by
  subst hroute
  unfold retireLinkRoute
  apply Performs.bind (looks_standing hhost (looks_during rfl))
  intro current
  apply Performs.bind (looks_standing hhost looks_junctionState)
  intro passage
  apply Performs.ite
  · intro hnone
    exact Performs.settle fun w hw => hw.1
  · intro hheld
    apply Performs.proceed
    exact Meets.weaken (retiring_orderly hhost) (fun w hw => hw.1) (fun _ _ hw => hw) fun _ hw => hw

/-- Every operation about a route takes the steps of its route. -/
theorem flow_orderly {capabilities : Capabilities} {subject : Instance} {p : Acts Examination}
    (hroute : subject.route = some route) (hflow : flow capabilities subject = some p) :
    KeepsOrder route start host p := by
  obtain ⟨kind, hkind, rfl⟩ := Option.map_eq_some_iff.1 hroute
  unfold flow at hflow
  cases hoperation : subject.operation <;> rw [hoperation] at hkind hflow <;> cases hkind
  case publishRoute =>
    cases hflow
    exact publishRoute_orderly hhost rfl
  case retireRoute =>
    cases hflow
    exact retireRoute_orderly hhost rfl
  case publishLinkRoute =>
    cases hflow
    exact publishLinkRoute_orderly hhost rfl
  case retireLinkRoute =>
    cases hflow
    exact retireLinkRoute_orderly hhost rfl

/-- An operation carried out keeps the order, however it ends. -/
theorem carriedOut_orderly {capabilities : Capabilities} {subject : Instance} {p : Acts Examination}
    (hroute : subject.route = some route) (hflow : flow capabilities subject = some p) :
    Leads (recorded (some route)) (Orderly start) (carriedOut p) fun _ => Orderly start := by
  apply Leads.each
  intro w hw
  have hstanding : ∀ t, t = w → Standing start w.attendance.host t := by
    rintro t rfl
    exact ⟨hw, rfl⟩
  refine Leads.weaken (flow_orderly hhost hroute hflow) hstanding fun ending t ht => ?_
  obtain ⟨result, mark⟩ := ending
  cases result with
  | ok application => exact ht
  | error why =>
      cases mark with
      | true => exact ht
      | false => exact ht

/-- So does the attempt at a rollback, which is an operation about the same route. -/
theorem attemptRollback_orderly {rollback : Instance} (hroute : rollback.route = some route) :
    Meets (recorded (some route)) (Orderly start) (attemptRollback rollback)
      (fun _ => Orderly start) (Orderly start) := by
  unfold attemptRollback
  apply Meets.bind (looks_orderly hhost (looks_during rfl))
  intro capabilities
  apply Meets.bind (looks_orderly hhost (looks_given _))
  intro capable
  cases hflow : flow capabilities rollback with
  | none => exact Meets.fail fun _ hw => hw
  | some p =>
      have hcarried : Meets (recorded (some route)) (Orderly start) (unmarked p)
          (fun _ => Orderly start) (Orderly start) := by
        apply settles_orderly
        refine Leads.next (carriedOut_orderly hhost hroute hflow) fun ending => ?_
        exact Leads.done fun _ hw => hw
      apply Meets.bind hcarried
      intro application
      exact Meets.pure fun _ hw => hw

/-- And so does what follows from the end of an operation, which is observed at most. -/
theorem concludeApplication_orderly {requested rollback : Instance}
    (hrollback : rollback.route = some route) (ending : Except Bytes Application × Bool) :
    Leads (recorded (some route)) (Orderly start) (concludeApplication requested rollback ending)
      fun _ => Orderly start := by
  obtain ⟨result, mark⟩ := ending
  cases result with
  | ok application => exact Leads.done fun _ hw => hw
  | error cause =>
      cases mark with
      | false => exact Leads.done fun _ hw => hw
      | true =>
          refine Leads.next (attemptRollback_orderly hhost hrollback) fun ending => ?_
          cases ending with
          | ok u => exact Leads.done fun _ hw => hw
          | error why =>
              have hobserved : Leads (recorded (some route)) (Orderly start) (observe rollback)
                  fun _ => Orderly start :=
                (looks_observe rollback).leads fun call w hlook hw => hw.look hhost hlook
              refine Leads.next (hobserved.weaken (fun _ hw => hw) fun _ _ hw => hw) ?_
              exact fun observed => Leads.done fun _ hw => hw

/-- A whole application of a plan about a route takes the steps of the route. -/
theorem apply_orderly {requested rollback : Instance} (hrequested : requested.route = some route)
    (hrollback : rollback.route = some route) (input : Input) :
    Leads (recorded (some route)) (Orderly start) (apply (.ok (requested, rollback)) input)
      fun _ => Orderly start := by
  unfold apply
  cases input with
  | diagnose signed => exact Leads.done fun _ hw => hw
  | apply signed planDocument rollbackDocument definitionDocument =>
      dsimp only
      cases requireDefinitionCarriedByItsOwnDoor requested definitionDocument with
      | error why => exact Leads.done fun _ hw => hw
      | ok u =>
          have hlook : (Executor.capabilities requested.placement.account).mutates = false := rfl
          refine Leads.ask (m := fun _ => Orderly start) (fun w hw => hw.look hhost hlook) ?_
          intro answer
          cases answer with
          | error cause => exact Leads.done fun _ hw => hw
          | ok capabilities =>
              unfold applyTo
              dsimp only
              cases requireCapableMachineFor requested capabilities with
              | error why => exact Leads.done fun _ hw => hw
              | ok u =>
                  cases hflow : flow capabilities requested with
                  | none => exact Leads.done fun _ hw => hw
                  | some p =>
                      refine Leads.next (carriedOut_orderly hhost hrequested hflow) ?_
                      exact concludeApplication_orderly hhost hrollback

end Calls

/-! ## Runs -/

inductive RouteEvent where
  /-- A plan is presented; `replies` is what becomes of each of its calls. -/
  | applied (accepted : Acceptance) (signed : Approval.SignedApproval)
      (planDocument rollbackDocument : Bytes) (definitionDocument : Option Bytes)
      (replies : Nat → Reply)
  /-- Something else leaves the machine so. -/
  | drifted (host : Host)

/-- One event, and what was recorded of it. -/
def onRoutes (host : Host) : RouteEvent → Host × List Transition
  | .drifted after => (after, [⟨none, host, after⟩])
  | .applied accepted signed planDocument rollbackDocument definitionDocument replies =>
      match approvedInstances accepted planDocument rollbackDocument definitionDocument with
      -- Refused before the machine is asked anything.
      | .error _ => (host, [])
      | .ok (requested, rollback) =>
          let input := Input.apply signed planDocument rollbackDocument definitionDocument
          let w := (converse (recorded requested.route) (apply (.ok (requested, rollback)) input)
            ⟨⟨host, replies⟩, []⟩).2.2
          (w.attendance.host, w.transitions)

/-- Everything that was recorded over a run. -/
def transitions (host : Host) (events : List RouteEvent) : List Transition :=
  (history onRoutes host events).flatMap Prod.snd

/-- A plan that is not about a route is not followed. -/
theorem unfollowed_orderly {α : Type} (d : Converses α) :
    Leads (recorded none) (Orderly start) d fun _ => Orderly start := by
  have hquiet : Looks (fun _ : Executor => false) d := fun calls a _ => by simp [affects]
  apply hquiet.leads
  intro call w _ hw
  apply hw.call
  rintro _ ⟨⟩

/-- An approved plan about a route is one of a name that may be published, and is undone by a plan
about that route. -/
theorem approved_route {accepted : Acceptance} {planDocument rollbackDocument : Bytes}
    {definitionDocument : Option Bytes} {requested rollback : Instance}
    (happroved : approvedInstances accepted planDocument rollbackDocument definitionDocument =
      .ok (requested, rollback)) (hroute : requested.route = some route) :
    Plan.canonicalRouteHost route.host = true ∧ rollback.route = some route := by
  obtain ⟨kind, hkind, rfl⟩ := Option.map_eq_some_iff.1 hroute
  have hopposed := approved_opposed happroved
  cases hoperation : requested.operation <;> rw [hoperation] at hkind <;> cases hkind
  all_goals
    obtain ⟨hreversed, hsited⟩ := hopposed (by rw [hoperation]; decide)
    rw [Sited, hoperation] at hsited
    refine ⟨hsited, ?_⟩
    rw [hreversed, Instance.route, hoperation]
    rfl

/-- One event is recorded in order. -/
theorem onRoutes_orderly (host : Host) (event : RouteEvent) :
    Connects host (onRoutes host event).2 (onRoutes host event).1 ∧
      ∀ t ∈ (onRoutes host event).2, t.Permitted := by
  cases event with
  | drifted after =>
      refine ⟨⟨rfl, rfl⟩, List.forall_mem_singleton.2 ?_⟩
      rintro _ ⟨⟩
  | applied accepted signed planDocument rollbackDocument definitionDocument replies =>
      unfold onRoutes
      dsimp only
      cases happroved : approvedInstances accepted planDocument rollbackDocument
          definitionDocument with
      | error why => exact ⟨rfl, List.forall_mem_nil _⟩
      | ok pair =>
          obtain ⟨requested, rollback⟩ := pair
          have hfresh : Orderly host ⟨⟨host, replies⟩, []⟩ := ⟨rfl, List.forall_mem_nil _⟩
          have hend : Orderly host (converse (recorded requested.route)
              (apply (.ok (requested, rollback))
                (.apply signed planDocument rollbackDocument definitionDocument))
              ⟨⟨host, replies⟩, []⟩).2.2 := by
            cases hroute : requested.route with
            | none => exact unfollowed_orderly _ _ hfresh
            | some route =>
                obtain ⟨hhost, hrollback⟩ := approved_route happroved hroute
                exact apply_orderly hhost hroute hrollback _ _ hfresh
          exact ⟨hend.connects, hend.permitted⟩

/-- What was recorded over a run leads to where it ended. -/
def Followed (start : Host) (h : List (RouteEvent × List Transition)) (stop : Host) : Prop :=
  Connects start (h.flatMap Prod.snd) stop ∧ ∀ t ∈ h.flatMap Prod.snd, t.Permitted

/-- A whole run is recorded in order. -/
theorem run_orderly (host : Host) (events : List RouteEvent) :
    Connects host (transitions host events) (run onRoutes host events) ∧
      ∀ t ∈ transitions host events, t.Permitted := by
  have hstep : ∀ h s e, Followed host h s →
      Followed host (h ++ [(e, answer onRoutes s e)]) (next onRoutes s e) := by
    rintro h s e ⟨hconnects, hpermitted⟩
    obtain ⟨hnext, hallowed⟩ := onRoutes_orderly s e
    unfold Followed
    rw [List.flatMap_append, List.flatMap_singleton]
    exact ⟨hconnects.append hnext, List.forall_mem_append.2 ⟨hpermitted, hallowed⟩⟩
  have hstart : Followed host [] host := ⟨rfl, List.forall_mem_nil _⟩
  exact history_invariant hstep hstart events

/-- Every call of every plan about a route, its rollback included, leaves the machine as it is,
writes the fragment of its own name where no other kind holds it, or removes that fragment.  While
a name keeps a fragment that only such plans touch, it keeps the kinds it is served by.  And the
kind that is read off a rendered fragment is the kind that was rendered. -/
theorem kinds_kept :
    (∀ (host : Host) (events : List RouteEvent),
      Connects host (transitions host events) (run onRoutes host events) ∧
      (∀ t ∈ transitions host events, ∀ route, t.route = some route →
        RouteStep route t.before t.after) ∧
      ∀ (name : Bytes) (earlier between later : List Transition) (start stop : Host),
        transitions host events = earlier ++ between ++ later → Connects start between stop →
        (∀ t ∈ between, t.Holds name) → (∃ kind, start.serves name kind = true) →
        ∀ kind, stop.serves name kind = start.serves name kind) ∧
    ∀ (host : Bytes) (port : Int64), Plan.canonicalRouteHost host = true →
      ∀ kind other : RouteKind, other.serves (kind.render host port) = true ↔ other = kind := by
  constructor
  · intro host events
    obtain ⟨hconnects, hpermitted⟩ := run_orderly host events
    refine ⟨hconnects, fun t ht route hroute => (hpermitted t ht route hroute).2, ?_⟩
    intro name earlier between later start stop hsplit hbetween hholds hserved kind
    apply hbetween.serves_kept _ hholds hserved kind
    intro t ht
    apply hpermitted
    rw [hsplit]
    exact List.mem_append_left _ (List.mem_append_right _ ht)
  · intro host port hhost kind other
    exact serves_render hhost other kind port

/-! ### A name that the passage serves -/

def photosPlan (operation : Bytes) : Plan.RouteDocument where
  schemaVersion := 2
  infrastructureID := text "8b0f3a52-7c1d-4e6f-9a2b-5d4c3b2a1f00"
  machineID := text "front-1"
  operation
  routeHost := text "photos.example.org"
  backendPort := 8080

def photosPair : Plan.Pair PlanDocument where
  plan := .v2 (.route (photosPlan (text "publish_route")))
  rollback := .v2 (.route (photosPlan (text "retire_route")))

def photosRoute : Route := ⟨.service, text "photos.example.org", 8080⟩

theorem photosPair_approved : ∃ accepted planDocument rollbackDocument,
    approvedInstances accepted planDocument rollbackDocument none =
      .ok (routeInstance (photosPlan (text "publish_route")),
        routeInstance (photosPlan (text "retire_route"))) := by
  have hundoing : Plan.Undoing photosPair := ⟨by decide, by decide, by decide, by decide⟩
  obtain ⟨frozen, -, hfrozen⟩ := hundoing.freeze_ok
  have hdigests : photosPair.plan.sha256 ≠ photosPair.rollback.sha256 := by decide +kernel
  have hoperation : text "publish_route" = Approval.Operation.publishRoute.name := by decide
  have hnames : Approves (approvalOf .publishRoute frozen) photosPair frozen :=
    ⟨rfl, rfl, rfl, rfl, hoperation⟩
  have hplaced : placePair none photosPair.plan photosPair.rollback =
      .ok (routeInstance (photosPlan (text "publish_route")),
        routeInstance (photosPlan (text "retire_route"))) := by decide
  refine ⟨_, _, _, approvedInstances_frozen hundoing hfrozen hnames hplaced ?_⟩
  rintro ⟨message, message', hmessage, hmessage', -, hsame⟩
  rw [PlanDocument.sha256_eq, PlanDocument.sha256_eq, hmessage, hmessage'] at hdigests
  exact absurd (congrArg Except.ok hsame) hdigests

/-- A machine with nothing on it but the fragment of one name. -/
def servedThroughPassage : Host where
  systemd := true
  unifiedCgroupHierarchy := true
  podmanPresent := true
  rootless _ := true
  files path := if path = photosRoute.path then
    some (renderLinkRouteFragment photosRoute.host 8443) else none
  paths := [photosRoute.path]
  loaded _ := none
  atBoot _ := false
  units _ := none
  container _ := none
  lingering _ := false
  accounts _ := none
  directories _ := false
  secrets _ := none
  linkKey := none
  linkUp := false
  networkManaged := true
  known path h := by
    by_cases hpath : path = photosRoute.path
    · rw [hpath]
      exact List.mem_singleton_self _
    · rw [if_neg hpath] at h
      cases h
  apart := List.nodup_singleton _

/-- Every call is answered. -/
def answering : Reply where
  failing := none
  identifier := ⟨1001, by decide⟩
  linkKey := []
  archive := Archive.zero
  archived := []

/-- A plan that publishes the name towards this machine leaves it to the passage. -/
theorem kinds_kept_photos : ∃ accepted planDocument rollbackDocument,
    approvedInstances accepted planDocument rollbackDocument none =
      .ok (routeInstance (photosPlan (text "publish_route")),
        routeInstance (photosPlan (text "retire_route"))) ∧
    ∀ kind, (run onRoutes servedThroughPassage [.applied accepted Approval.sampleFirst planDocument
      rollbackDocument none fun _ => answering]).serves photosRoute.host kind =
        servedThroughPassage.serves photosRoute.host kind := by
  obtain ⟨accepted, planDocument, rollbackDocument, happroved⟩ := photosPair_approved
  refine ⟨accepted, planDocument, rollbackDocument, happroved, ?_⟩
  have hevent : onRoutes servedThroughPassage (.applied accepted Approval.sampleFirst planDocument
      rollbackDocument none fun _ => answering) =
      (servedThroughPassage, List.replicate 2
        ⟨some photosRoute, servedThroughPassage, servedThroughPassage⟩) := by
    unfold onRoutes
    simp only [happroved]
    rfl
  have hrecorded : transitions servedThroughPassage [.applied accepted Approval.sampleFirst
      planDocument rollbackDocument none fun _ => answering] =
      [] ++ List.replicate 2 ⟨some photosRoute, servedThroughPassage, servedThroughPassage⟩ ++ [] := by
    unfold transitions history answer
    rw [hevent]
    rfl
  have hstop : run onRoutes servedThroughPassage [.applied accepted Approval.sampleFirst
      planDocument rollbackDocument none fun _ => answering] = servedThroughPassage :=
    congrArg Prod.fst hevent
  intro kind
  refine (kinds_kept.1 servedThroughPassage _).2.2 photosRoute.host [] _ [] _ _ hrecorded
    ⟨rfl, rfl, hstop⟩ ?_ ⟨.passage, ?_⟩ kind
  · intro t ht
    rw [List.eq_of_mem_replicate ht]
    exact ⟨by decide, by simp⟩
  · have hwritten : servedThroughPassage.fragment photosRoute.host =
        some (RouteKind.passage.render photosRoute.host 8443) := by
      show (if photosRoute.path = photosRoute.path then
        some (renderLinkRouteFragment photosRoute.host 8443) else none) = _
      exact if_pos rfl
    rw [Host.serves, hwritten, Option.any_some]
    exact (kinds_kept.2 photosRoute.host 8443 (by decide) .passage .passage).2 rfl

end YourCloud.Auxiliary
