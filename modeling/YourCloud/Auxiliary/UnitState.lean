import YourCloud.Auxiliary.Approved
import YourCloud.Auxiliary.Engine

/-!
# The unit an archive operation stops

An archive is taken, and returned to, with the service stopped, and the service is
put back as it was found once that is done.  Where an effect in between fails, the
rollback reads the unit again and puts it back as it finds it then.

The machine here is any machine whose unit does what it is told; where starting or
stopping it fails, it may be left either way.

## Main results

* `flow_at` — each of the three operations puts the unit back as it found it, where
  it succeeds.
* `unit_put_back_iff` — a run that concludes put the unit back as it was found
  exactly where no effect failed that left a running service stopped.
-/

namespace YourCloud.Auxiliary

open YourCloud.Foundation
open AuxiliaryReport (outcomeRolledBack outcomePartial)
open Dialogue (converse happens watching)
open Operation (Performs Closes carriedOut)
open Plan (PlanDocument)

variable {σ : Type}

/-! ## A machine with a unit -/

/-- A machine whose unit does what it is told, and is touched by nothing else. -/
structure Obeys (env : (call : Executor) → σ → call.Outcome × σ) (running : σ → Bool)
    (placement : Placement) : Prop where
  told : ∀ s b, (env (.serviceActive placement.account placement.serviceName) s).1 = .ok b →
    b = running s
  started : ∀ s u, (env (.startService placement.account placement.serviceName) s).1 = .ok u →
    running (env (.startService placement.account placement.serviceName) s).2 = true
  stopped : ∀ s u, (env (.stopService placement.account placement.serviceName) s).1 = .ok u →
    running (env (.stopService placement.account placement.serviceName) s).2 = false
  kept : ∀ call s, call ≠ .startService placement.account placement.serviceName →
    call ≠ .stopService placement.account placement.serviceName →
      running (env call s).2 = running s

/-- An effect that failed, after which the unit is stopped. -/
def strands (running : σ → Bool) (call : Executor) (outcome : call.Outcome) (s : σ) : Bool :=
  call.mutates && !outcome.isOk && !running s

/-- What is known of the unit, and whether an effect failed that left it stopped. -/
def At (running : σ → Bool) (unit stranded : Bool) (t : σ × Bool) : Prop :=
  running t.1 = unit ∧ t.2 = stranded

/-- A failure is told apart: an effect that failed is noted where the unit is stopped after it, and
starts no unit; a call that only reads leaves everything. -/
structure Tolerates (running : σ → Bool) (unit stranded : Bool) (failed : σ × Bool → Prop) :
    Prop where
  effect : ∀ t, (unit = false → running t.1 = false) → t.2 = (stranded || !running t.1) → failed t
  look : ∀ t, At running unit stranded t → failed t

variable {env : (call : Executor) → σ → call.Outcome × σ} {running : σ → Bool}
variable {placement : Placement} {unit now stranded : Bool} {failed : σ × Bool → Prop}

theorem tolerates_anything : Tolerates running unit stranded fun _ => True :=
  ⟨fun _ _ _ => trivial, fun _ _ => trivial⟩

/-! ## One call -/

/-- What a call leaves of the note, by its answer. -/
theorem strands_ok {call : Executor} (a : call.Answer) (s : σ) :
    strands running call (.ok a) s = false := by
  unfold strands
  rw [Bool.and_assoc]
  exact Bool.and_false _

theorem strands_error {call : Executor} (why : Bytes) (s : σ) :
    strands running call (.error why) s = (call.mutates && !running s) := by
  unfold strands
  rw [show (Except.error why : call.Outcome).isOk = false from rfl, Bool.not_false, Bool.and_true]

section Calls

variable (hobeys : Obeys env running placement)
include hobeys

/-- A call that neither starts nor stops the unit. -/
theorem other_meets {call : Executor}
    (hstart : call ≠ .startService placement.account placement.serviceName)
    (hstop : call ≠ .stopService placement.account placement.serviceName)
    (hfailed : ∀ t, At running now (stranded || (call.mutates && !now)) t → failed t) :
    Meets (watching env (strands running)) (At running now stranded) (ask call)
      (fun _ => At running now stranded) failed := by
  apply Meets.call
  rintro ⟨s, note⟩ ⟨hnow, hnote⟩
  have hkept : running (env call s).2 = now := (hobeys.kept call s hstart hstop).trans hnow
  have hnote : note = stranded := hnote
  show Settles _ _ (env call s).1
    ((env call s).2, note || strands running call (env call s).1 (env call s).2)
  cases houtcome : (env call s).1 with
  | ok a =>
      refine ⟨hkept, ?_⟩
      rw [strands_ok, Bool.or_false]
      exact hnote
  | error why =>
      refine hfailed _ ⟨hkept, ?_⟩
      rw [strands_error, hkept, hnote]

/-- A call that only reads, of a unit that is as it was found. -/
theorem look_meets {call : Executor} (hreads : call.mutates = false)
    (hfailed : Tolerates running unit stranded failed) :
    Meets (watching env (strands running)) (At running unit stranded) (ask call)
      (fun _ => At running unit stranded) failed := by
  apply other_meets hobeys
  · rintro rfl
    cases hreads
  · rintro rfl
    cases hreads
  · intro t ht
    rw [hreads, Bool.false_and, Bool.or_false] at ht
    exact hfailed.look t ht

/-- An effect on something else than the unit, which may be stopped meanwhile. -/
theorem effect_meets {call : Executor} (hmutates : call.mutates = true)
    (hstart : call ≠ .startService placement.account placement.serviceName)
    (hstop : call ≠ .stopService placement.account placement.serviceName)
    (hnow : unit = false → now = false) (hfailed : Tolerates running unit stranded failed) :
    Meets (watching env (strands running)) (At running now stranded) (ask call)
      (fun _ => At running now stranded) failed := by
  apply other_meets hobeys hstart hstop
  rintro t ⟨hunit, hnote⟩
  apply hfailed.effect
  · exact fun hstill => hunit.trans (hnow hstill)
  · rw [hnote, hmutates, Bool.true_and, hunit]

/-- The unit is read as it is. -/
theorem active_meets (hfailed : Tolerates running unit stranded failed) :
    Meets (watching env (strands running)) (At running unit stranded)
      (ask (.serviceActive placement.account placement.serviceName))
      (fun active t => active = unit ∧ At running unit stranded t) failed := by
  have hlook : Meets (watching env (strands running)) (At running unit stranded)
      (ask (.serviceActive placement.account placement.serviceName))
      (fun _ => At running unit stranded) failed := look_meets hobeys rfl hfailed
  rintro ⟨s, note⟩ hat
  have hend : Settles _ _ (env (.serviceActive placement.account placement.serviceName) s).1 _ :=
    hlook (s, note) hat
  have htold := hobeys.told s
  show Settles _ _ (env (.serviceActive placement.account placement.serviceName) s).1 _
  cases houtcome : (env (.serviceActive placement.account placement.serviceName) s).1 with
  | ok active =>
      rw [houtcome] at hend
      exact ⟨(htold active houtcome).trans hat.1, hend⟩
  | error why =>
      rw [houtcome] at hend
      exact hend

theorem stop_meets (hfailed : Tolerates running true stranded failed) :
    Meets (watching env (strands running)) (At running true stranded)
      (ask (.stopService placement.account placement.serviceName))
      (fun _ => At running false stranded) failed := by
  apply Meets.call
  rintro ⟨s, note⟩ ⟨-, hnote⟩
  have hnote : note = stranded := hnote
  show Settles _ _ (env _ s).1 ((env _ s).2, note || strands running _ (env _ s).1 (env _ s).2)
  cases houtcome : (env (.stopService placement.account placement.serviceName) s).1 with
  | ok u =>
      refine ⟨hobeys.stopped s u houtcome, ?_⟩
      rw [strands_ok, Bool.or_false]
      exact hnote
  | error why =>
      apply hfailed.effect
      · exact nofun
      · rw [strands_error, hnote]
        rfl

theorem start_meets (hfailed : Tolerates running true stranded failed) :
    Meets (watching env (strands running)) (At running false stranded)
      (ask (.startService placement.account placement.serviceName))
      (fun _ => At running true stranded) failed := by
  apply Meets.call
  rintro ⟨s, note⟩ ⟨-, hnote⟩
  have hnote : note = stranded := hnote
  show Settles _ _ (env _ s).1 ((env _ s).2, note || strands running _ (env _ s).1 (env _ s).2)
  cases houtcome : (env (.startService placement.account placement.serviceName) s).1 with
  | ok u =>
      refine ⟨hobeys.started s u houtcome, ?_⟩
      rw [strands_ok, Bool.or_false]
      exact hnote
  | error why =>
      apply hfailed.effect
      · exact nofun
      · rw [strands_error, hnote]
        rfl

end Calls

/-! ## The operations -/

/-- Refused under a condition, with the unit as it was found. -/
theorem refusal_at (hfailed : Tolerates running unit stranded failed) {b : Bool} {why : Bytes} :
    Meets (watching env (strands running)) (At running unit stranded)
      (Procedure.whenever b (refuse why)) (fun _ => At running unit stranded) failed :=
  Meets.whenever (fun _ => Meets.fail hfailed.look) fun _ _ ht => ht

section Operations

variable {subject : Instance} (hobeys : Obeys env running subject.placement)
variable (hfailed : Tolerates running unit stranded failed)
include hobeys hfailed

theorem requirePlacedService_at :
    Meets (watching env (strands running)) (At running unit stranded)
      (requirePlacedService subject.placement) (fun _ => At running unit stranded) failed := by
  unfold requirePlacedService
  apply Meets.bind
  · exact (look_meets hobeys rfl hfailed).reword
  intro sheet
  cases sheet with
  | none => exact Meets.fail hfailed.look
  | some sheet =>
      dsimp only
      cases publishedLoopbackPort sheet with
      | none => exact Meets.fail hfailed.look
      | some port => exact Meets.pure fun _ ht => ht

/-- A running unit is stopped, and one that is not is left. -/
theorem stop_at {what : String} :
    Meets (watching env (strands running)) (At running unit stranded)
      (Procedure.whenever unit (during what
        (ask (.stopService subject.placement.account subject.placement.serviceName))))
      (fun _ => At running false stranded) failed := by
  apply Meets.whenever
  · rintro rfl
    exact (stop_meets hobeys hfailed).reword
  · rintro rfl t ht
    exact ht

/-- The unit is put back as it was found. -/
theorem restartAndProve_at {port : Int64} :
    Meets (watching env (strands running)) (At running false stranded)
      (restartAndProve subject.placement unit port) (fun _ => At running unit stranded) failed := by
  apply Meets.whenever
  · rintro rfl
    apply Meets.bind
    · exact (start_meets hobeys hfailed).reword
    · intro u
      exact (look_meets hobeys rfl hfailed).reword
  · rintro rfl t ht
    exact ht

theorem returnData_at {port : Int64} :
    Meets (watching env (strands running)) (At running unit stranded)
      (returnData subject unit port) (fun _ => At running unit stranded) failed := by
  unfold returnData
  apply Meets.bind (stop_at hobeys hfailed)
  intro stopped
  apply Meets.bind
  · apply Meets.reword
    apply effect_meets hobeys _ _ _ (fun _ => rfl) hfailed
    · rfl
    · exact nofun
    · exact nofun
  intro ensured
  apply Meets.bind
  · apply Meets.reword
    apply effect_meets hobeys _ _ _ (fun _ => rfl) hfailed
    · rfl
    · exact nofun
    · exact nofun
  intro kept
  apply Meets.bind (restartAndProve_at hobeys hfailed)
  intro restarted
  apply Meets.bind
  · exact (look_meets hobeys rfl hfailed).reword
  intro slots
  exact Meets.pure fun _ ht => ht

theorem snapshotService_at :
    Performs (watching env (strands running)) (At running unit stranded) (snapshotService subject)
      (fun _ => At running unit stranded) failed (fun _ => True) := by
  unfold snapshotService
  apply Performs.bind (requirePlacedService_at hobeys tolerates_anything)
  intro port
  apply Performs.bind (look_meets hobeys rfl tolerates_anything).reword
  intro dataPresent
  apply Performs.bind (refusal_at tolerates_anything)
  intro bearing
  apply Performs.bind (look_meets hobeys rfl tolerates_anything).reword
  intro taken
  apply Performs.bind (refusal_at tolerates_anything)
  intro free
  apply Performs.bind_of (active_meets hobeys tolerates_anything).reword
  rintro active rfl
  apply Performs.proceed
  apply Meets.bind (stop_at hobeys hfailed)
  intro stopped
  apply Meets.bind
  · apply Meets.reword
    apply effect_meets hobeys _ _ _ (fun _ => rfl) hfailed
    · rfl
    · exact nofun
    · exact nofun
  intro archive
  apply Meets.bind (restartAndProve_at hobeys hfailed)
  intro restarted
  apply Meets.bind (look_meets hobeys rfl hfailed).reword
  intro slots
  exact Meets.pure fun _ ht => ht

theorem restoreService_at :
    Performs (watching env (strands running)) (At running unit stranded) (restoreService subject)
      (fun _ => At running unit stranded) failed (fun _ => True) := by
  unfold restoreService
  apply Performs.bind (requirePlacedService_at hobeys tolerates_anything)
  intro port
  apply Performs.bind (look_meets hobeys rfl tolerates_anything).reword
  intro present
  apply Performs.bind (refusal_at tolerates_anything)
  intro held
  apply Performs.bind_of (active_meets hobeys tolerates_anything).reword
  rintro active rfl
  exact Performs.proceed (returnData_at hobeys hfailed)

theorem discardSnapshot_at :
    Performs (watching env (strands running)) (At running unit stranded) (discardSnapshot subject)
      (fun _ => At running unit stranded) failed (fun _ => True) := by
  unfold discardSnapshot
  apply Performs.bind (look_meets hobeys rfl tolerates_anything).reword
  intro present
  apply Performs.ite
  · intro habsent
    apply Performs.bind (look_meets hobeys rfl tolerates_anything).reword
    intro slots
    exact Performs.settle fun _ ht => ht
  · intro hpresent
    apply Performs.proceed
    apply Meets.bind
    · apply Meets.reword
      apply effect_meets hobeys _ _ _ id hfailed
      · rfl
      · exact nofun
      · exact nofun
    intro removed
    apply Meets.bind (look_meets hobeys rfl hfailed).reword
    intro slots
    exact Meets.pure fun _ ht => ht

end Operations

/-- The operations about archives. -/
def aboutArchives : List Approval.Operation := [.snapshotService, .discardSnapshot, .restoreService]

/-- Whichever of the three it is, it puts the unit back as it found it where it succeeds. -/
theorem flow_at {subject : Instance} (hobeys : Obeys env running subject.placement)
    (hfailed : Tolerates running unit stranded failed)
    (hoperation : subject.operation ∈ aboutArchives) {capabilities : Capabilities}
    {p : Acts Examination} (hflow : flow capabilities subject = some p) :
    Performs (watching env (strands running)) (At running unit stranded) p
      (fun _ => At running unit stranded) failed (fun _ => True) := by
  unfold flow at hflow
  rcases List.mem_cons.1 hoperation with hoperation | hoperation
  · rw [hoperation] at hflow
    cases hflow
    exact snapshotService_at hobeys hfailed
  · rcases List.mem_cons.1 hoperation with hoperation | hoperation
    · rw [hoperation] at hflow
      cases hflow
      exact discardSnapshot_at hobeys hfailed
    · rw [List.mem_singleton.1 hoperation] at hflow
      cases hflow
      exact restoreService_at hobeys hfailed

/-! ## A whole run -/

/-- The one attempt at a rollback leaves the unit as it finds it, where it succeeds. -/
theorem attemptRollback_at {rollback : Instance} (hobeys : Obeys env running rollback.placement)
    (hoperation : rollback.operation ∈ aboutArchives) :
    Meets (watching env (strands running)) (At running unit stranded) (attemptRollback rollback)
      (fun _ => At running unit stranded) (fun _ => True) := by
  unfold attemptRollback
  apply Meets.bind (look_meets hobeys rfl tolerates_anything).reword
  intro capabilities
  apply Meets.bind (m := fun _ => At running unit stranded)
  · cases requireCapableMachineFor rollback capabilities with
    | ok u => exact Meets.pure fun _ ht => ht
    | error why => exact Meets.fail fun _ _ => trivial
  intro capable
  cases hflow : flow capabilities rollback with
  | none => exact Meets.fail fun _ _ => trivial
  | some p =>
      dsimp only
      have hperforms : Performs (watching env (strands running)) (At running unit stranded) p
          (fun _ => At running unit stranded) (fun _ => True) (fun _ => True) :=
        flow_at hobeys tolerates_anything hoperation hflow
      have hunmarked : Meets (watching env (strands running)) (At running unit stranded)
          (unmarked p) (fun _ => At running unit stranded) (fun _ => True) := by
        refine Leads.next hperforms ?_
        rintro ⟨ending, mark⟩
        cases ending with
        | ok application => exact Leads.done fun _ ht => ht
        | error why => exact Leads.done fun _ _ => trivial
      apply Meets.bind hunmarked
      intro application
      exact Meets.pure fun _ ht => ht

/-- How a unit is left that was found so: one that ran was left stopped exactly where an effect
failed that stranded it. -/
def Left (running : σ → Bool) (found : Bool) (t : σ × Bool) : Prop :=
  if found then t.2 = !running t.1 else running t.1 = false

theorem left_of_at {found : Bool} {t : σ × Bool} (h : At running found false t) :
    Left running found t := by
  obtain ⟨hunit, hnote⟩ := h
  cases found with
  | true =>
      show t.2 = !running t.1
      rw [hunit, hnote]
      rfl
  | false => exact hunit

theorem tolerates_left (found : Bool) : Tolerates running found false (Left running found) := by
  constructor
  · intro t hstill hnote
    cases found with
    | true => exact hnote
    | false => exact hstill rfl
  · exact fun _ => left_of_at

/-- Whatever leaves the unit as it finds it leaves it as it was left. -/
theorem Left.kept {α : Type} {found : Bool} {p : Acts α}
    (h : ∀ unit stranded, Meets (watching env (strands running)) (At running unit stranded) p
      (fun _ => At running unit stranded) (fun _ => True)) :
    Meets (watching env (strands running)) (Left running found) p
      (fun _ => Left running found) (fun _ => True) := by
  intro t ht
  have hend := h (running t.1) t.2 t ⟨rfl, rfl⟩
  cases hresult : (converse (watching env (strands running)) p t).2.1 with
  | error why => trivial
  | ok a =>
      rw [hresult] at hend
      obtain ⟨hunit, hnote⟩ : At running (running t.1) t.2 _ := hend
      cases found with
      | true =>
          show _ = !_
          rw [hunit, hnote]
          exact ht
      | false =>
          show _ = false
          rw [hunit]
          exact ht

/-- A run that was applied or rolled back. -/
def Applied.concluded : Applied → Bool
  | .application _ => true
  | .refused _ => false
  | .controlled failure _ _ => failure.rollback.outcome == outcomeRolledBack

/-- A run that goes on from the end of its operation. -/
theorem concludeApplication_left {requested rollback : Instance} {found : Bool}
    (hobeys : Obeys env running rollback.placement) (hoperation : rollback.operation ∈ aboutArchives)
    (ending : Except Bytes Application × Bool) :
    Leads (watching env (strands running))
      (Closes (fun _ => At running found false) (Left running found) (fun _ => True) ending)
      (concludeApplication requested rollback ending)
      (fun applied t => applied.concluded = true → Left running found t) := by
  obtain ⟨result, mark⟩ := ending
  cases result with
  | ok application => exact Leads.done fun t ht _ => left_of_at ht
  | error cause =>
      cases mark with
      | false => exact Leads.done fun t _ hconcluded => nomatch hconcluded
      | true =>
          refine Leads.next (Left.kept fun unit stranded => attemptRollback_at hobeys hoperation) ?_
          intro undone
          cases undone with
          | ok u => exact Leads.done fun t ht _ => ht
          | error why =>
              refine Leads.next (m := fun _ _ => True) (fun _ _ => trivial) ?_
              intro observed
              apply Leads.done
              intro t _ hconcluded
              have hpartial : (outcomePartial == outcomeRolledBack) = false := by decide
              cases hpartial.symm.trans hconcluded

theorem applyTo_left {requested rollback : Instance} {found : Bool}
    (hobeys : Obeys env running requested.placement)
    (hplacement : rollback.placement = requested.placement)
    (hrequested : requested.operation ∈ aboutArchives)
    (hrollback : rollback.operation ∈ aboutArchives) (answer : Except Bytes Capabilities) :
    Leads (watching env (strands running)) (At running found false)
      (applyTo requested rollback answer)
      (fun applied t => applied.concluded = true → Left running found t) := by
  cases answer with
  | error cause => exact Leads.done fun t _ hconcluded => nomatch hconcluded
  | ok capabilities =>
      unfold applyTo
      dsimp only
      cases requireCapableMachineFor requested capabilities with
      | error why => exact Leads.done fun t _ hconcluded => nomatch hconcluded
      | ok u =>
          cases hflow : flow capabilities requested with
          | none => exact Leads.done fun t _ hconcluded => nomatch hconcluded
          | some p =>
              refine Leads.next (d := carriedOut p)
                (flow_at hobeys (tolerates_left found) hrequested hflow) ?_
              intro ending
              exact concludeApplication_left (hplacement ▸ hobeys) hrollback ending

/-- A whole run about archives leaves the unit as `Left` says where it concludes. -/
theorem apply_left {requested rollback : Instance} {found : Bool}
    (hobeys : Obeys env running requested.placement)
    (hplacement : rollback.placement = requested.placement)
    (hrequested : requested.operation ∈ aboutArchives)
    (hrollback : rollback.operation ∈ aboutArchives) (input : Input) :
    Leads (watching env (strands running)) (At running found false)
      (apply (.ok (requested, rollback)) input)
      (fun applied t => applied.concluded = true → Left running found t) := by
  unfold apply
  cases input with
  | diagnose signed => exact Leads.done fun t _ hconcluded => nomatch hconcluded
  | apply signed planDocument rollbackDocument definitionDocument =>
      dsimp only
      cases requireDefinitionCarriedByItsOwnDoor requested definitionDocument with
      | error why => exact Leads.done fun t _ hconcluded => nomatch hconcluded
      | ok u =>
          refine Leads.ask (m := fun _ => At running found false) ?_
            (applyTo_left hobeys hplacement hrequested hrollback)
          rintro ⟨s, note⟩ ⟨hunit, hnote⟩
          have hnote : note = false := hnote
          have hkept := hobeys.kept (.capabilities requested.placement.account) s nofun nofun
          refine ⟨hkept.trans hunit, ?_⟩
          show (note || (false && _ && _)) = false
          rw [hnote]
          rfl

/-- An approved pair about archives is one in both halves, of one placement. -/
theorem approved_archives {accepted : Acceptance} {planDocument rollbackDocument : Bytes}
    {definitionDocument : Option Bytes} {requested rollback : Instance}
    (happroved : approvedInstances accepted planDocument rollbackDocument definitionDocument =
      .ok (requested, rollback))
    (hrequested : requested.operation = .snapshotService ∨ requested.operation = .restoreService) :
    rollback.placement = requested.placement ∧ requested.operation ∈ aboutArchives ∧
      rollback.operation ∈ aboutArchives := by
  obtain ⟨⟨plan, undoing⟩, hcarried⟩ := approvedInstances_iff.1 happroved
  obtain ⟨hplan, hundoing, hplacement⟩ := placePair_placed hcarried.placed
  have hnamed : plan.head.operation = text "snapshot_service" ∨
      plan.head.operation = text "restore_service" := by
    rcases hrequested with hoperation | hoperation
    · exact Or.inl (operationOf_eq (hplan.symm.trans hoperation) nofun)
    · exact Or.inr (operationOf_eq (hplan.symm.trans hoperation) nofun)
  have hforward : requested.operation ∈ aboutArchives := by
    rcases hrequested with hoperation | hoperation <;> rw [hoperation] <;> decide
  refine ⟨hplacement, hforward, ?_⟩
  have hoperation : rollback.operation = .discardSnapshot ∨ rollback.operation = .restoreService := by
    have hrollback : rollback.operation = operationOf undoing.head := hundoing
    rw [hrollback, operationOf]
    rcases PlanDocument.inverse_archives hcarried.inverse hnamed with hundone | hundone <;>
      rw [hundone] <;> decide
  rcases hoperation with hoperation | hoperation <;> rw [hoperation] <;> decide

/-- Where a run concludes, applied or rolled back, the unit is as it was found exactly where no
effect failed after which a unit that had been found running was stopped. -/
theorem unit_put_back_iff (env : (call : Executor) → σ → call.Outcome × σ) (running : σ → Bool)
    {accepted : Acceptance} {planDocument rollbackDocument : Bytes}
    {definitionDocument : Option Bytes} {requested rollback : Instance}
    (happroved : approvedInstances accepted planDocument rollbackDocument definitionDocument =
      .ok (requested, rollback))
    (hrequested : requested.operation = .snapshotService ∨ requested.operation = .restoreService)
    (hobeys : Obeys env running requested.placement) (signed : Approval.SignedApproval) (s : σ) :
    let run := apply (.ok (requested, rollback))
      (.apply signed planDocument rollbackDocument definitionDocument)
    (converse env run s).2.1.concluded = true →
      (running (converse env run s).2.2 = running s ↔
        (running s = true → happens env (strands running) run s = false)) := by
  intro run hconcluded
  obtain ⟨hplacement, hforward, hbackward⟩ := approved_archives happroved hrequested
  have hleft := apply_left hobeys hplacement hforward hbackward
    (.apply signed planDocument rollbackDocument definitionDocument) (s, false) ⟨rfl, rfl⟩
  have hsame := Dialogue.converse_watching env (strands running) run (s, false)
  rw [hsame] at hleft
  have hleft : Left running (running s) _ := hleft hconcluded
  unfold Left at hleft
  cases hfound : running s with
  | true =>
      rw [hfound] at hleft
      have hnote : happens env (strands running) run s = !running (converse env run s).2.2 := hleft
      rw [hnote]
      simp
  | false =>
      rw [hfound] at hleft
      have hstill : running (converse env run s).2.2 = false := hleft
      simp [hstill]

/-! ### A disk that is full -/

/-- A machine with the service placed, whose state is that of its unit and whose disk is full. -/
def diskFull : (call : Executor) → Bool → call.Outcome × Bool
  | .capabilities _, unit => (.ok ⟨true, true, true, true, true⟩, unit)
  | .readUnitFile _, unit => (.ok (some (text "PublishPort=127.0.0.1:8222:80")), unit)
  | .serviceDataPresent _, unit => (.ok true, unit)
  | .serviceArchivePresent _, unit => (.ok false, unit)
  | .serviceArchives _, unit => (.ok [], unit)
  | .serviceActive _ _, unit => (.ok unit, unit)
  | .startService account service, unit =>
      (.ok (), if account = vaultwardenPlacement.account ∧
        service = vaultwardenPlacement.serviceName then true else unit)
  | .stopService account service, unit =>
      (.ok (), if account = vaultwardenPlacement.account ∧
        service = vaultwardenPlacement.serviceName then false else unit)
  | _, unit => (.error (text "no space left on device"), unit)

theorem diskFull_obeys : Obeys diskFull id vaultwardenPlacement where
  told _ _ h := (Except.ok.inj h).symm
  started s _ _ := by
    cases s <;> decide
  stopped s _ _ := by
    cases s <;> decide
  kept call s hstart hstop := by
    cases call with
    | startService account service =>
        refine if_neg fun hsame => hstart ?_
        rw [hsame.1, hsame.2]
    | stopService account service =>
        refine if_neg fun hsame => hstop ?_
        rw [hsame.1, hsame.2]
    | _ => rfl

def archivePlan (operation : Bytes) : Plan.SnapshotDocument where
  schemaVersion := 2
  infrastructureID := text "8b0f3a52-7c1d-4e6f-9a2b-5d4c3b2a1f00"
  machineID := text "front-1"
  operation
  serviceProfile := text "vaultwarden"
  snapshotSlot := text "kept"

def archivePair : Plan.Pair PlanDocument where
  plan := .v2 (.snapshot (archivePlan (text "snapshot_service")))
  rollback := .v2 (.snapshot (archivePlan (text "discard_snapshot")))

def archiving (operation : Approval.Operation) : Instance where
  kind := .archive
  operation
  placement := vaultwardenPlacement
  snapshotSlot := text "kept"

/-- The pair is frozen, approved and accepted as the two instances. -/
theorem archivePair_approved : ∃ accepted planDocument rollbackDocument,
    approvedInstances accepted planDocument rollbackDocument none =
      .ok (archiving .snapshotService, archiving .discardSnapshot) := by
  have hundoing : Plan.Undoing archivePair := by
    refine ⟨by decide, by decide, by decide, by decide⟩
  obtain ⟨frozen, -, hfrozen⟩ := hundoing.freeze_ok
  have hdigests : archivePair.plan.sha256 ≠ archivePair.rollback.sha256 := by decide +kernel
  have hoperation : text "snapshot_service" = Approval.Operation.snapshotService.name := by
    decide
  have hnames : Approves (approvalOf .snapshotService frozen) archivePair frozen :=
    ⟨rfl, rfl, rfl, rfl, hoperation⟩
  have hplaced : placePair none archivePair.plan archivePair.rollback =
      .ok (archiving .snapshotService, archiving .discardSnapshot) := by decide
  refine ⟨_, _, _, approvedInstances_frozen hundoing hfrozen hnames hplaced ?_⟩
  rintro ⟨message, message', hmessage, hmessage', -, hsame⟩
  rw [PlanDocument.sha256_eq, PlanDocument.sha256_eq, hmessage, hmessage'] at hdigests
  exact absurd (congrArg Except.ok hsame) hdigests

/-- The run of the pair on the machine whose disk is full. -/
def fullDiskRun (planDocument rollbackDocument : Bytes) (unit : Bool) :
    List Exchange × Applied × Bool :=
  converse diskFull (apply (.ok (archiving .snapshotService, archiving .discardSnapshot))
    (.apply Approval.sampleFirst planDocument rollbackDocument none)) unit

/-- A service that was running is stopped after an archive of it was rolled back. -/
theorem snapshot_left_stopped : ∃ accepted planDocument rollbackDocument,
    approvedInstances accepted planDocument rollbackDocument none =
      .ok (archiving .snapshotService, archiving .discardSnapshot) ∧
    Obeys diskFull id (archiving .snapshotService).placement ∧
    (fullDiskRun planDocument rollbackDocument true).2.1.concluded = true ∧
    (fullDiskRun planDocument rollbackDocument true).2.2 = false := by
  obtain ⟨accepted, planDocument, rollbackDocument, happroved⟩ := archivePair_approved
  have hrun : fullDiskRun planDocument rollbackDocument true = fullDiskRun [] [] true := rfl
  refine ⟨accepted, planDocument, rollbackDocument, happroved, diskFull_obeys, ?_, ?_⟩
  · rw [hrun]
    decide
  · rw [hrun]
    decide

/-- The condition on that run: the archive fails while the service is stopped for it. -/
theorem fullDisk_put_back_iff : ∃ planDocument rollbackDocument,
    ((fullDiskRun planDocument rollbackDocument true).2.2 = true ↔
      (true = true → happens diskFull (strands id)
        (apply (.ok (archiving .snapshotService, archiving .discardSnapshot))
          (.apply Approval.sampleFirst planDocument rollbackDocument none)) true = false)) := by
  obtain ⟨accepted, planDocument, rollbackDocument, happroved⟩ := archivePair_approved
  have hconcluded : (fullDiskRun planDocument rollbackDocument true).2.1.concluded = true := by
    have hrun : fullDiskRun planDocument rollbackDocument true = fullDiskRun [] [] true := rfl
    rw [hrun]
    decide
  exact ⟨planDocument, rollbackDocument, unit_put_back_iff diskFull id happroved (Or.inl rfl)
    diskFull_obeys Approval.sampleFirst true hconcluded⟩

end YourCloud.Auxiliary
