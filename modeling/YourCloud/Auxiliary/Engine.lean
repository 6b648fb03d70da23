import YourCloud.Auxiliary.Archives
import YourCloud.Auxiliary.Junctions

/-!
# Applying an accepted plan

Applying a plan is one operation of the machine, and where it fails after it
reached its effects one attempt at the rollback the approval froze beside it.
The attempt goes through the operations like any other plan, and where it fails
in its turn the machine is observed with calls that only read.

What the two carried documents are decoded to is an input here: nothing of it
asks the machine anything.

## Main results

* `flow_accounts` — every operation gives a true account of itself.
* `apply_accounts` — what an application answers is true of the calls it made.
-/

namespace YourCloud.Auxiliary

open YourCloud.Foundation
open AuxiliaryReport (Observation outcomeRolledBack outcomePartial)
open Dialogue (Plays)
open Operation (Accounts carriedOut)
open Procedure (whenever)

/-! ## What a machine has to be able to do -/

/-- Refused before any write on a machine that cannot hold what the instance is about. -/
def requireCapableMachineFor (subject : Instance) (capabilities : Capabilities) :
    Except Bytes Unit :=
  let managed := text ": the managed OCI deployment is refused before any write"
  if subject.kind = .link then
    if capabilities.systemd then .ok ()
    else .error (text ("this machine is not run by systemd: the private passage is refused " ++
      "before any write"))
  else if !capabilities.systemd then
    .error (text "this machine is not run by systemd" ++ managed)
  else if !capabilities.unifiedCgroupHierarchy then
    .error (text "this machine has no cgroup v2 unified hierarchy" ++ managed)
  else if !capabilities.podmanPresent then
    .error (text "this machine has no Podman" ++ managed)
  else if capabilities.accountPresent && !capabilities.rootlessPodman then
    .error (text "the account " ++ subject.placement.account ++
      text " cannot run Podman rootless" ++ managed)
  else .ok ()

/-! ## The operations -/

/-- The operation that applies an instance. -/
def flow (capabilities : Capabilities) (subject : Instance) : Option (Acts Examination) :=
  match subject.operation with
  | .deployOCIProbe | .deployWebService => some (deploy capabilities subject)
  | .removeOCIProbe | .removeWebService => some (remove subject)
  | .deployEntrypoint => some (deployEntrypoint capabilities subject)
  | .removeEntrypoint => some (removeEntrypoint subject)
  | .publishRoute => some (publishRoute subject)
  | .retireRoute => some (retireRoute subject)
  | .publishLinkRoute => some (publishLinkRoute subject)
  | .retireLinkRoute => some (retireLinkRoute subject)
  | .deployPrivateService => some (deployPrivateService capabilities subject)
  | .removePrivateService => some (removePrivateService subject)
  | .deployUserService => some (deployUserService capabilities subject)
  | .removeUserService => some (removeUserService subject)
  | .snapshotService => some (snapshotService subject)
  | .discardSnapshot => some (discardSnapshot subject)
  | .restoreService => some (restoreService subject)
  | .prepareLink => some (prepareLink subject)
  | .withdrawLink => some (withdrawLink subject)
  | .attachLinkPeer | .joinLinkPeer => some (joinLinkPeer subject)
  | .detachLinkPeer | .leaveLinkPeer => some (partLinkPeer subject)
  | .diagnoseProtocolReadOnly => none

/-- How an operation ends, without the mark. -/
def unmarked (p : Acts Examination) : Acts Application :=
  (carriedOut p).bind fun ending => .done ending.1

/-- The one attempt at the rollback of a plan, through the ordinary operations. -/
def attemptRollback (rollback : Instance) : Acts Unit := do
  let capabilities ← during "observe this machine before rolling back"
    (ask (.capabilities rollback.placement.account))
  given (requireCapableMachineFor rollback capabilities)
  match flow capabilities rollback with
  | none =>
      refuse (text "the approved rollback describes " ++ quoted rollback.operation.name ++
        text ", which this Auxiliary does not apply")
  | some p => do
      let _application ← unmarked p
      return ()

/-! ## What is observed of a machine left in a partial state -/

def Instance.reportedUnitPath (subject : Instance) : Bytes :=
  match subject.kind with
  | .route | .linkRoute | .archive => []
  | .link => linkNetdevPath
  | _ => subject.placement.unitPath

def Instance.reportedFragmentPath (subject : Instance) : Bytes :=
  if subject.kind = .route ∨ subject.kind = .linkRoute then routeFragmentPath subject.routeHost
  else []

/-- A call whose failure leaves nothing known. -/
def peek (call : Executor) : Converses (Option call.Answer) := (ask call).passedOver

/-- What a call answers to a question that some instances do not raise. -/
def peekIf (b : Bool) (call : Executor) : Converses (Option (Option call.Answer)) :=
  if b then (peek call).bind fun answer => .done (some answer) else .done none

/-- The observation of a fragment and of the junction it needs. -/
def observeFragment (subject : Instance) : Converses (Bytes × Bytes) := do
  let fragment ← peekIf (subject.kind = .route ∨ subject.kind = .linkRoute)
    (.readUnitFile subject.reportedFragmentPath)
  let netdev ← peekIf (subject.kind = .linkRoute) (.readUnitFile linkNetdevPath)
  let held := (fragment.map fun content => observedPresence (content.map Option.isSome)).getD []
  let peer := (netdev.map fun content => observedPresence
    (content.map fun content => sectionAfter content linkPeerSectionMarker != [])).getD []
  return (if held = observedPresent ∧ peer = observedAbsent then text "unbacked" else held, peer)

/-- The observation of the data of a service and of the confinement of its account. -/
def observeData (placement : Placement) : Converses (Bytes × Bytes) := do
  let bearing := placement.bearsData || placement.confined
  let data ← peekIf placement.bearsData (.serviceDataPresent placement.dataDirectory)
  let rules ← peekIf bearing (.egressRules egressRulesPath)
  return ((data.map observedPresence).getD [],
    (rules.map fun content => observedPresence (content.map Option.isSome)).getD [])

/-- How the image of a container is reported. -/
def observedContainer (placement : Placement) : Option Bytes → Bytes
  | none => observedUnknown
  | some image =>
      if image = [] then text "none"
      else if placement.image = [] then observedPresent
      else if image = placement.image then text "pinned"
      else text "other"

def observe (subject : Instance) : Converses Observation :=
  if subject.kind = .link then observeLink
  else do
    let placement := subject.placement
    let (fragment, peer) ← observeFragment subject
    let (data, egress) ← observeData placement
    let archive ← peekIf (subject.kind = .archive)
      (.serviceArchivePresent (placement.archivePath subject.snapshotSlot))
    let capabilities ← peek (.capabilities placement.account)
    let sheet ← peek (.readUnitFile placement.unitPath)
    let active ← peek (.serviceActive placement.account placement.serviceName)
    let image ← peek (.containerImage placement.account placement.containerName)
    return { unobserved with
      account := observedPresence (capabilities.map Capabilities.accountPresent)
      unitFile := observedPresence (sheet.map Option.isSome)
      service := observedActivity active
      container := observedContainer placement image
      fragment := fragment
      linkPeer := peer
      data := data
      egress := egress
      archive := (archive.map observedPresence).getD [] }

/-! ## Applying -/

/-- What applying a plan answers. -/
inductive Applied where
  | application (application : Application)
  /-- A plain error. -/
  | refused (why : Bytes)
  | controlled (failure : ControlledFailure) (cause : Bytes) (rollbackError : Option Bytes)
  deriving DecidableEq, Repr

/-- What a failure after the effects names. -/
def controlledFailure (requested : Instance) (rollback : Rollback) : ControlledFailure where
  operation := requested.operation.name
  localPort := requested.localPort
  unitPath := requested.reportedUnitPath
  routeHost := requested.routeHost
  fragmentPath := requested.reportedFragmentPath
  snapshotSlot := requested.snapshotSlot
  rollback

/-- What follows from the attempt at a rollback. -/
def afterRollback (requested rollback : Instance) (cause : Bytes) :
    Except Bytes Unit → Converses Applied
  | .ok () => .done (.controlled (controlledFailure requested .succeeded) cause none)
  | .error why =>
      (observe rollback).bind fun observed =>
        .done (.controlled (controlledFailure requested (.failed observed)) cause (some why))

/-- What follows from the end of an operation. -/
def concludeApplication (requested rollback : Instance) :
    Except Bytes Application × Bool → Converses Applied
  | (.ok application, _) => .done (.application application)
  | (.error why, false) => .done (.refused why)
  | (.error cause, true) =>
      Dialogue.bind (attemptRollback rollback) (afterRollback requested rollback cause)

/-- Refused where a definition came along with a plan that pins none. -/
def requireDefinitionCarriedByItsOwnDoor (subject : Instance) (definitionDocument : Option Bytes) :
    Except Bytes Unit :=
  if subject.kind = .userService ∨ definitionDocument = none then .ok ()
  else .error (text "a service definition travelled beside " ++ quoted subject.operation.name ++
    text ", which pins none: it is refused before any effect")

/-- The application of a plan whose machine answered what it can do. -/
def applyTo (requested rollback : Instance) : Except Bytes Capabilities → Converses Applied
  | .error cause =>
      .done (.refused (text "observe this machine's capabilities: " ++ cause))
  | .ok capabilities =>
      match requireCapableMachineFor requested capabilities, flow capabilities requested with
      | .error why, _ => .done (.refused why)
      | .ok (), none =>
          .done (.refused (text "operation " ++ quoted requested.operation.name ++
            text " is not one this Auxiliary applies"))
      | .ok (), some p => (carriedOut p).bind (concludeApplication requested rollback)

/-- One application, given what the approved documents are decoded to. -/
def apply (approvedInstances : Except Bytes (Instance × Instance)) (input : Input) :
    Converses Applied :=
  match input with
  | .diagnose _ =>
      .done (.refused (text ("an applied operation requires the plan and the rollback the " ++
        "approval signed")))
  | .apply _ _ _ definitionDocument =>
      match approvedInstances with
      | .error why => .done (.refused why)
      | .ok (requested, rollback) =>
          match requireDefinitionCarriedByItsOwnDoor requested definitionDocument with
          | .error why => .done (.refused why)
          | .ok () =>
              Dialogue.ask (.capabilities requested.placement.account) (applyTo requested rollback)

/-! ## The account an application gives -/

/-- Every operation gives a true account of the calls it made. -/
theorem flow_accounts {capabilities : Capabilities} {subject : Instance} {p : Acts Examination}
    (h : flow capabilities subject = some p) :
    Accounts Executor.mutates Application.changed p := by
  unfold flow at h
  cases hoperation : subject.operation <;> rw [hoperation] at h <;> cases h
  case deployOCIProbe | deployWebService => exact deploy_accounts _ _
  case removeOCIProbe | removeWebService => exact remove_accounts _
  case deployEntrypoint => exact deployEntrypoint_accounts _ _
  case removeEntrypoint => exact removeEntrypoint_accounts _
  case publishRoute => exact publishRoute_accounts _
  case retireRoute => exact retireRoute_accounts _
  case publishLinkRoute => exact publishLinkRoute_accounts _
  case retireLinkRoute => exact retireLinkRoute_accounts _
  case deployPrivateService => exact deployPrivateService_accounts _ _
  case removePrivateService => exact removePrivateService_accounts _
  case deployUserService => exact deployUserService_accounts _ _
  case removeUserService => exact removeUserService_accounts _
  case snapshotService => exact snapshotService_accounts _
  case discardSnapshot => exact discardSnapshot_accounts _
  case restoreService => exact restoreService_accounts _
  case prepareLink => exact prepareLink_accounts _
  case withdrawLink => exact withdrawLink_accounts _
  case attachLinkPeer | joinLinkPeer => exact joinLinkPeer_accounts _
  case detachLinkPeer | leaveLinkPeer => exact partLinkPeer_accounts _

theorem looks_peekIf (b : Bool) {call : Executor} (h : call.mutates = false) :
    Looks Executor.mutates (peekIf b call) :=
  Looks.ite (Looks.next (looks_ask h).passedOver fun _ => Looks.done _) (Looks.done _)

/-- Observing a machine changes nothing of it. -/
theorem looks_observe (subject : Instance) : Looks Executor.mutates (observe subject) := by
  unfold observe
  apply Looks.ite looks_observeLink
  apply Looks.next
  · apply Looks.next (looks_peekIf _ rfl)
    intro fragment
    apply Looks.next (looks_peekIf _ rfl)
    intro netdev
    exact Looks.done _
  intro fragment
  apply Looks.next
  · apply Looks.next (looks_peekIf _ rfl)
    intro data
    apply Looks.next (looks_peekIf _ rfl)
    intro rules
    exact Looks.done _
  intro data
  apply Looks.next (looks_peekIf _ rfl)
  intro archive
  apply Looks.next (looks_ask rfl).passedOver
  intro capabilities
  apply Looks.next (looks_ask rfl).passedOver
  intro sheet
  apply Looks.next (looks_ask rfl).passedOver
  intro active
  apply Looks.next (looks_ask rfl).passedOver
  intro image
  exact Looks.done _

/-- What stands behind a controlled failure: the calls of the operation, those of the one
attempt at the rollback, which ended in `ending`, and those of the observation. -/
structure RolledBackOnce (requested rollback : Instance) (forward backward observing : List Exchange)
    (ending : Except Bytes Unit) (failure : ControlledFailure) (cause : Bytes)
    (rollbackError : Option Bytes) : Prop where
  failed : ∃ capabilities p effects,
    forward = ⟨.capabilities requested.placement.account, .ok capabilities⟩ :: effects ∧
      flow capabilities requested = some p ∧ Plays (carriedOut p) effects (.error cause, true)
  attempted : Plays (attemptRollback rollback) backward ending
  named : failure = controlledFailure requested failure.rollback
  rolledBack : failure.rollback.outcome = outcomeRolledBack ↔ ending = .ok ()
  undone : ending = .ok () → observing = [] ∧ rollbackError = none
  partly : ∀ why, ending = .error why → failure.rollback.outcome = outcomePartial ∧
    rollbackError = some why ∧ ∃ observed, failure.rollback.observed = some observed ∧
      Plays (observe rollback) observing observed
  observed : affects Executor.mutates observing = false

/-- What an answer says of the calls that led to it. -/
def Applied.Accounted (approvedInstances : Except Bytes (Instance × Instance))
    (calls : List Exchange) : Applied → Prop
  | .application applied => applied.changed = affects Executor.mutates calls
  | .refused _ => affects Executor.mutates calls = false
  | .controlled failure cause rollbackError =>
      ∃ requested rollback forward backward observing ending,
        approvedInstances = .ok (requested, rollback) ∧ calls = forward ++ backward ++ observing ∧
        RolledBackOnce requested rollback forward backward observing ending failure cause
          rollbackError

/-- What follows from the attempt at a rollback makes no other attempt. -/
theorem afterRollback_rolledBackOnce {requested rollback : Instance}
    {forward backward observing : List Exchange} {cause : Bytes} {ending : Except Bytes Unit}
    {applied : Applied}
    (hfailed : ∃ capabilities p effects,
      forward = ⟨.capabilities requested.placement.account, .ok capabilities⟩ :: effects ∧
        flow capabilities requested = some p ∧ Plays (carriedOut p) effects (.error cause, true))
    (hattempted : Plays (attemptRollback rollback) backward ending)
    (h : Plays (afterRollback requested rollback cause ending) observing applied) :
    ∃ failure rollbackError, applied = .controlled failure cause rollbackError ∧
      RolledBackOnce requested rollback forward backward observing ending failure cause
        rollbackError := by
  have hdistinct : outcomePartial ≠ outcomeRolledBack := by decide
  cases ending with
  | ok u =>
      obtain ⟨rfl, rfl⟩ := Plays.done_iff.1 h
      refine ⟨_, none, rfl, hfailed, hattempted, rfl, ?_, ?_, ?_, rfl⟩
      · exact ⟨fun _ => rfl, fun _ => rfl⟩
      · exact fun _ => ⟨rfl, rfl⟩
      · intro why hwhy
        cases hwhy
  | error why =>
      obtain ⟨calls, observed, after, rfl, hobserve, hdone⟩ := Plays.bind_iff.1 h
      obtain ⟨rfl, rfl⟩ := Plays.done_iff.1 hdone
      rw [List.append_nil]
      refine ⟨_, some why, rfl, hfailed, hattempted, rfl, ?_, ?_, ?_, looks_observe _ _ _ hobserve⟩
      · exact ⟨fun houtcome => absurd houtcome hdistinct, nofun⟩
      · intro hok
        cases hok
      · intro other hother
        cases hother
        exact ⟨rfl, rfl, observed, rfl, hobserve⟩

/-- A plain error before any call. -/
theorem accounted_of_done {approvedInstances : Except Bytes (Instance × Instance)} {why : Bytes}
    {calls : List Exchange} {applied : Applied} (h : Plays (.done (.refused why)) calls applied) :
    applied.Accounted approvedInstances calls := by
  obtain ⟨rfl, rfl⟩ := Plays.done_iff.1 h
  show affects Executor.mutates [] = false
  rfl

/-- A plain error after the one call that reads what the machine can do. -/
theorem accounted_of_capabilities {approvedInstances : Except Bytes (Instance × Instance)}
    {account why : Bytes} {answer : Except Bytes Capabilities} {calls : List Exchange}
    {applied : Applied} (h : Plays (.done (.refused why)) calls applied) :
    applied.Accounted approvedInstances (⟨.capabilities account, answer⟩ :: calls) := by
  obtain ⟨rfl, rfl⟩ := Plays.done_iff.1 h
  show affects Executor.mutates [⟨.capabilities account, answer⟩] = false
  rfl

theorem applyTo_accounts {requested rollback : Instance} {answer : Except Bytes Capabilities}
    {calls : List Exchange} {applied : Applied}
    (h : Plays (applyTo requested rollback answer) calls applied) :
    applied.Accounted (.ok (requested, rollback))
      (⟨.capabilities requested.placement.account, answer⟩ :: calls) := by
  cases answer with
  | error cause => exact accounted_of_capabilities h
  | ok capabilities =>
      unfold applyTo at h
      dsimp only at h
      cases hcapable : requireCapableMachineFor requested capabilities with
      | error why =>
          rw [hcapable] at h
          exact accounted_of_capabilities h
      | ok u =>
          rw [hcapable] at h
          cases hflow : flow capabilities requested with
          | none =>
              rw [hflow] at h
              exact accounted_of_capabilities h
          | some p =>
              rw [hflow] at h
              obtain ⟨effects, ⟨result, mark⟩, after, rfl, hcarried, hrest⟩ := Plays.bind_iff.1 h
              have haccounts := flow_accounts hflow _ _ _ hcarried
              cases result with
              | ok application =>
                  obtain ⟨rfl, rfl⟩ := Plays.done_iff.1 hrest
                  rw [List.append_nil]
                  exact haccounts
              | error cause =>
                  cases mark with
                  | false =>
                      obtain ⟨rfl, rfl⟩ := Plays.done_iff.1 hrest
                      rw [List.append_nil]
                      exact haccounts rfl
                  | true =>
                      obtain ⟨backward, ending, observing, rfl, hattempted, hafter⟩ :=
                        Plays.bind_iff.1 hrest
                      obtain ⟨failure, rollbackError, rfl, honce⟩ :=
                        afterRollback_rolledBackOnce ⟨capabilities, p, effects, rfl, hflow, hcarried⟩
                          hattempted hafter
                      refine ⟨requested, rollback, _, backward, observing, ending, rfl, ?_, honce⟩
                      rw [List.cons_append, List.cons_append, List.append_assoc]

/-- Whatever is asked for and whatever the machine answers, failures included: a plain error
comes before any effect, a success says truly whether there was one, and a controlled failure
is a failure after which the frozen rollback was attempted once. -/
theorem apply_accounts (approvedInstances : Except Bytes (Instance × Instance)) (input : Input)
    (calls : List Exchange) (applied : Applied)
    (h : Plays (apply approvedInstances input) calls applied) :
    applied.Accounted approvedInstances calls := by
  unfold apply at h
  cases input with
  | diagnose signed => exact accounted_of_done h
  | apply signed planDocument rollbackDocument definitionDocument =>
      cases approvedInstances with
      | error why => exact accounted_of_done h
      | ok instances =>
          obtain ⟨requested, rollback⟩ := instances
          dsimp only at h
          cases hdoor : requireDefinitionCarriedByItsOwnDoor requested definitionDocument with
          | error why =>
              rw [hdoor] at h
              exact accounted_of_done h
          | ok u =>
              rw [hdoor] at h
              cases h with
              | ask answer h => exact applyTo_accounts h

/-! ### A deployment whose image cannot be fetched -/

/-- A machine without the service, which reaches no registry. -/
def withoutRegistry : (call : Executor) → Unit → call.Outcome × Unit
  | .capabilities _, u => (.ok ⟨true, true, true, true, true⟩, u)
  | .readUnitFile _, u => (.ok none, u)
  | .serviceActive _ _, u => (.ok false, u)
  | .containerImage _ _, u => (.ok [], u)
  | _, u => (.error (text "no route to host"), u)

def deployment : Instance where
  kind := .webService
  operation := .deployWebService
  placement := bentoPDFPlacement
  localPort := 8081

def deploymentInput : Input := .apply Approval.sampleFirst (text "plan") (text "rollback") none

def deploymentRun : List Exchange × Applied × Unit :=
  Dialogue.converse withoutRegistry
    (apply (.ok (deployment, { deployment with operation := .removeWebService })) deploymentInput) ()

/-- The deployment fails, its rollback finds nothing to remove, and both are accounted for. -/
theorem deployment_accounted :
    deploymentRun.2.1 = .controlled (controlledFailure deployment .succeeded)
        (text "fetch the pinned image: no route to host") none ∧
      deploymentRun.2.1.Accounted (.ok (deployment, { deployment with operation := .removeWebService }))
        deploymentRun.1 :=
  ⟨by decide, apply_accounts _ _ _ _ (Dialogue.converse_plays withoutRegistry _ ())⟩

end YourCloud.Auxiliary
