import YourCloud.Assistant.InstallJudges
import YourCloud.Foundation.Course

/-!
# The installation sequence

The sequence carries bytes between fixed commands and the judges, step by step, and keeps
the ledger of what was really done.  A channel answers a command or does not; what it
answers is left open.

Before the first command the channel is asked to adopt a budget.  An effect that was made
and that nobody has established yet waits for the finding that covers it; whatever still
waits when the sequence ends is written down as unknown.  On every ending the secret is
destroyed, and `sudo` is told to forget.
-/

namespace YourCloud.Assistant.Installation

open YourCloud.Foundation
open App.Bootstrap (BootstrapAction)

/-! ## The channel -/

structure Answer where
  exitStatus : UInt32
  stdout : Bytes
  deriving DecidableEq, Repr

inductive ChannelInput where
  | terminalAnswer (bytes : Bytes)
  | exactBytes (bytes : Bytes)
  deriving DecidableEq, Repr

/-- What the sequence asks of its channel. -/
inductive Request where
  | adoptBudget (budget : Nat)
  | run (command : FixedCommand) (input : Option ChannelInput)
  deriving DecidableEq, Repr

def Request.Reply : Request → Type
  | .adoptBudget _ => Unit
  | .run _ _ => Answer

/-- Why a judge refused, under the name of the judge. -/
inductive Reason where
  | transfer (refusal : TransferRefusal)
  | configurationMissingFromPayload
  | identity (sentence : Identity.Sentence)
  | packageRead (refusal : Package.ReadingRefusal)
  | packagePosed (refusal : Package.PoseRefusal)
  | unit (refusal : Unit.UnitRefusal)
  | nodes (refusal : Nodes.NodeRefusal)
  deriving DecidableEq, Repr

inductive SequenceStop where
  | budgetRefused
  | unanswered (step : Step)
  | actFailed (step : Step) (exitStatus : UInt32)
  | refused (step : Step) (reason : Reason)
  deriving DecidableEq, Repr

/-- The ledger, and the steps whose effect waits for a finding. -/
structure Register where
  ledger : Ledger
  pending : List Step
  deriving DecidableEq, Repr

abbrev Sequence := Course Request (fun r => Option r.Reply) Register SequenceStop

/-- One command on the machine; without an answer the step is unanswered. -/
def runCommand (step : Step) (command : FixedCommand) (input : Option ChannelInput) :
    Sequence Answer :=
  @Course.call Request Register SequenceStop Request.Reply (.run command input) (.unanswered step)

/-! ## What a step writes down -/

/-- What a step puts on the machine. -/
def Step.items : Step → List (ItemKind × String)
  | .installPackage => [(.package, PACKAGE_NAME)]
  | .createState => [(.directory, CONTROLLER_STATE_DIRECTORY)]
  | .installCredentialSources => [(.credentialSource, CREDENTIAL_SOURCE_DIRECTORY)]
  | .activateController => [(.unitState, CONTROLLER_UNIT)]
  | .writeMachineConfiguration => [(.file, MACHINE_CONFIGURATION)]
  | .initialiseController => [(.file, AUTHORITY_FILE)]
  | .mintReaderIdentity => [(.file, READER_CERTIFICATE), (.file, READER_KEY)]
  | .transferBundle | .associateApp | .preflight => []

def recordStep (ledger : Ledger) (step : Step) (provenance : Provenance) : Ledger :=
  step.items.foldl (fun ledger item => ledger.record item.1 item.2 provenance) ledger

def Register.record (register : Register) (kind : ItemKind) (name : String)
    (provenance : Provenance) : Register :=
  { register with ledger := register.ledger.record kind name provenance }

def Register.recordStep (register : Register) (step : Step) (provenance : Provenance) : Register :=
  { register with ledger := Installation.recordStep register.ledger step provenance }

def Register.wait (register : Register) (step : Step) : Register :=
  { register with pending := register.pending ++ [step] }

/-- A finding establishes the steps it covers that wait for it, and those only. -/
def Register.establish (register : Register) (covered : List Step) : Register :=
  { ledger := (register.pending.filter (· ∈ covered)).foldl
      (fun ledger step => Installation.recordStep ledger step .created) register.ledger
    pending := register.pending.filter (· ∉ covered) }

/-! ## The parts of a step -/

/-- What is to be put on the machine, judged here before. -/
structure InstallPayload where
  bundle : VerifiedBundle
  artifact : Bytes
  configuration : Option MachineConfiguration

/-- Who runs the sequence: the plan, what it carries, and the policy with its secret. -/
structure Conduct where
  plan : InstallPlan
  payload : InstallPayload
  passwordRequired : Bool
  secret : Option Bytes

namespace Conduct

/-- What is handed to an elevated command. -/
def presented (c : Conduct) : Option ChannelInput :=
  if c.passwordRequired then c.secret.map .terminalAnswer else none

/-- Writes the bytes, and has the machine read back their size and their digest; all three run
whatever they answer. -/
def depositAndMeasure (step : Step) (deposit : FixedCommand) (bytes : Bytes)
    (size digest : FixedCommand) : Sequence TransferReadings := do
  let deposited ← runCommand step deposit (some (.exactBytes bytes))
  let size ← runCommand step size none
  let digest ← runCommand step digest none
  return { depositStatus := deposited.exitStatus
           sizeStatus := size.exitStatus
           sizeStdout := size.stdout
           digestStatus := digest.exitStatus
           digestStdout := digest.stdout }

/-- The deposited file is written down whatever its judge says. -/
def recordDeposit (step : Step) (name : String) (verdict : Except TransferRefusal StagedFile) :
    Sequence Unit :=
  match verdict with
  | .ok _ => Course.note fun register => register.record .file name .created
  | .error refusal => do
      Course.note fun register => register.record .file name .unknown
      Course.stop (.refused step (.transfer refusal))

/-- What a step puts on the machine before any privilege. -/
def deposit (c : Conduct) (step : Step) : Sequence Unit :=
  match step with
  | .transferBundle => do
      let created ← runCommand step CREATE_STAGING none
      match stagingCreated created.exitStatus with
      | .error refusal => Course.stop (.refused step (.transfer refusal))
      | .ok _ => do
          -- Written down before anything is written into it.
          Course.note fun register => register.record .directory STAGING_DIRECTORY .created
          let readings ← depositAndMeasure step DEPOSIT_BUNDLE c.payload.artifact
            MEASURE_STAGED_SIZE MEASURE_STAGED
          recordDeposit step STAGED_ARTIFACT_SUFFIX (staged c.payload.bundle readings)
  | .writeMachineConfiguration =>
      match c.payload.configuration with
      | none => Course.stop (.refused step .configurationMissingFromPayload)
      | some configuration => do
          let readings ← depositAndMeasure step DEPOSIT_CONFIGURATION configuration.bytes
            MEASURE_CONFIGURATION_SIZE MEASURE_CONFIGURATION
          recordDeposit step STAGED_CONFIGURATION_SUFFIX
            (stagedConfiguration configuration readings)
  | .installPackage | .createState | .installCredentialSources | .initialiseController
  | .mintReaderIdentity | .activateController | .associateApp | .preflight => pure ()

/-- One act; when it complains, its step waits as one that nobody established. -/
def act (c : Conduct) (step : Step) (act : ElevatedAct) : Sequence Answer := do
  let answer ← runCommand step (act.command c.passwordRequired) c.presented
  if answer.exitStatus ≠ 0 then do
    Course.note fun register => register.wait step
    Course.stop (.actFailed step answer.exitStatus)
  else return answer

/-- The acts of a step, and what the last of them answered. -/
def acts (c : Conduct) (step : Step) : Sequence (Option Answer) :=
  (ElevatedAct.authorisedFor c.plan step).foldlM
    (fun _ authorised => do
      let answer ← c.act step authorised
      return some answer)
    none

/-- What an act that makes an identity printed is judged; other steps are not judged here. -/
def identityVerdict (step : Step) (lastAnswer : Option Answer) : Except Identity.Sentence Unit :=
  let stdout := (lastAnswer.map Answer.stdout).getD []
  match step with
  | .initialiseController => Identity.initialised stdout
  | .mintReaderIdentity => Identity.mintedReader stdout
  | .transferBundle | .installPackage | .writeMachineConfiguration | .createState
  | .installCredentialSources | .activateController | .associateApp | .preflight => .ok ()

/-- What the judge of a finding says of an answer. -/
def judge (c : Conduct) (constat : Constat) (answer : Answer) : Except Reason Unit :=
  match constat with
  | .package => do
      let state ← (Package.read answer.exitStatus answer.stdout).mapError .packageRead
      let _ ← (Package.posed state c.plan.version).mapError .packagePosed
  | .unit => do
      let _ ← (Unit.running answer.exitStatus answer.stdout).mapError .unit
  | .nodes => do
      let _ ← (Nodes.owned answer.stdout).mapError .nodes

/-- Asks for the finding of a step and has it judged. -/
def constate (c : Conduct) (step : Step) (constat : Constat) : Sequence Unit := do
  let answer ← runCommand step (constat.command c.passwordRequired)
    (if constat.elevated then c.presented else none)
  match c.judge constat answer with
  | .ok _ => Course.note fun register => register.establish (coveredBy constat)
  | .error reason => Course.stop (.refused step reason)

/-- The acts of a step, and what is found of them. -/
def carryOut (c : Conduct) (step : Step) : Sequence Unit := do
  let lastAnswer ← c.acts step
  match identityVerdict step lastAnswer with
  | .error sentence => do
      Course.note fun register => register.wait step
      Course.stop (.refused step (.identity sentence))
  | .ok _ =>
      -- What the initialisation printed is all there is to find of it.
      if step = .initialiseController then
        Course.note fun register => register.recordStep step .created
      else do
        if ElevatedAct.authorisedFor c.plan step ≠ [] then
          Course.note fun register => register.wait step
        match constatFor step with
        | none => pure ()
        | some constat => c.constate step constat

/-- One step of the scope. -/
def perform (c : Conduct) (step : Step) : Sequence Unit := do
  c.deposit step
  c.carryOut step

/-- The steps of a scope, after the budget was adopted. -/
def drive (c : Conduct) (actions : List BootstrapAction) : Sequence Unit := do
  @Course.call Request Register SequenceStop Request.Reply (.adoptBudget (channelBudget actions))
    .budgetRefused
  (authorizedStepsFor actions).foldlM (fun _ step => c.perform step) ()

end Conduct

/-! ## The sequence -/

structure SequenceOutcome where
  ledger : Ledger
  stopped : Option SequenceStop
  deriving DecidableEq, Repr

/-- Writes down what still waits. -/
def Register.close (register : Register) : Ledger :=
  register.pending.foldl (fun ledger step => Installation.recordStep ledger step .unknown)
    register.ledger

def stopOf : Except SequenceStop Unit → Option SequenceStop
  | .ok _ => none
  | .error stopped => some stopped

/-- The sequence, with what is left of the secret. -/
def run (c : Conduct) (actions : List BootstrapAction) :
    Dialogue Request (fun r => Option r.Reply) (SequenceOutcome × Option Bytes) :=
  (c.drive actions { ledger := .new, pending := [] }).bind fun (outcome, register) =>
    .ask (.run DROP_CREDENTIAL none) fun _ =>
      .done ({ ledger := register.close, stopped := stopOf outcome }, none)

end YourCloud.Assistant.Installation
