import YourCloud.Approval.AntiReplay
import YourCloud.Auxiliary.Input
import YourCloud.AuxiliaryReport

/-!
# One run of the Auxiliary

The Auxiliary reads one document, verifies it under the machine's anchor,
spends its sequence, applies it and renders one report.  Everything it does not
decide itself — the anchor and the clock it reads, the lock, where the
replacement of the position stops, what the application of the plan reaches —
is a circumstance of the run.

A run is described from two sides: what its caller can hear, which is two byte
streams and an exit code, and what it did, which the caller can only infer.

## Main results

* `presentation_accepted` — an accepted position is the envelope's own.
* `approve_of_decodeInput` — a run that got no input consumes nothing.
* `approve_changed` — a run that consumes nothing changes nothing.
-/

namespace YourCloud.Auxiliary

open YourCloud.Foundation
open YourCloud.Approval
open YourCloud.AuxiliaryReport

/-! ## What applying a plan concludes -/

/-- What an applied operation concluded. -/
structure Application where
  operation : Bytes
  localPort : Int64
  unitPath : Bytes
  routeHost : Bytes
  fragmentPath : Bytes
  serviceState : Bytes
  linkPublicKey : Bytes
  dataPath : Bytes
  secretsPath : Bytes
  snapshotSlot : Bytes
  previousSlot : Bytes
  archiveSHA256 : Bytes
  archivedAt : Bytes
  snapshotSlots : List Bytes
  passageState : Bytes
  changed : Bool
  deriving DecidableEq, Repr

/-- What the one attempt at the approved rollback reached: what could still be
observed is kept exactly when it failed. -/
inductive Rollback where
  | succeeded
  | failed (observed : Observation)
  deriving DecidableEq, Repr

def Rollback.outcome : Rollback → Bytes
  | succeeded => outcomeRolledBack
  | failed _ => outcomePartial

def Rollback.observed : Rollback → Option Observation
  | succeeded => none
  | failed observed => some observed

/-- A failure met once the machine had been changed. -/
structure ControlledFailure where
  operation : Bytes
  localPort : Int64
  unitPath : Bytes
  routeHost : Bytes
  fragmentPath : Bytes
  snapshotSlot : Bytes
  rollback : Rollback
  deriving DecidableEq, Repr

/-- How the application of an accepted plan ends. -/
inductive Conclusion where
  | applied (application : Application)
  /-- Refused before the first effect. -/
  | refused
  | controlled (failure : ControlledFailure)
  /-- The process was ended from outside, with effects behind it or not. -/
  | died (changed : Bool)
  deriving DecidableEq, Repr

/-- What the application did to the machine. -/
def Conclusion.changed : Conclusion → Bool
  | applied application => application.changed
  | refused => false
  | controlled _ => true
  | died changed => changed

/-! ## The report -/

/-- An accepted approval: its envelope and the position it left. -/
structure Acceptance where
  envelope : Envelope
  state : State
  deriving DecidableEq, Repr

/-- A read-only diagnostic, which changed nothing. -/
def buildAuxiliaryReport (accepted : Acceptance) : Report where
  schemaVersion := Approval.schemaVersion
  operation := accepted.envelope.operation.name
  infrastructureID := accepted.state.infrastructureID
  machineID := accepted.state.machineID
  approvalEpoch := accepted.state.approvalEpoch
  consumedSequence := accepted.state.consumedSequence
  planSHA256 := accepted.envelope.planSHA256
  rollbackSHA256 := accepted.envelope.rollbackSHA256
  privileges := accepted.envelope.privileges.map Privilege.name
  planOperation := []
  localPort := 0
  unitPath := []
  routeHost := []
  fragmentPath := []
  passageState := []
  linkPublicKey := []
  dataPath := []
  secretsPath := []
  snapshotSlot := []
  previousSlot := []
  archiveSHA256 := []
  archivedAt := []
  snapshotSlots := []
  serviceState := []
  outcome := []
  rollbackAttempted := false
  observed := none
  changed := false

/-- An applied operation. -/
def buildAppliedAuxiliaryReport (accepted : Acceptance) (application : Application) : Report :=
  { buildAuxiliaryReport accepted with
    planOperation := application.operation
    localPort := application.localPort.toInt
    unitPath := application.unitPath
    routeHost := application.routeHost
    fragmentPath := application.fragmentPath
    passageState := application.passageState
    linkPublicKey := application.linkPublicKey
    dataPath := application.dataPath
    secretsPath := application.secretsPath
    snapshotSlot := application.snapshotSlot
    previousSlot := application.previousSlot
    archiveSHA256 := application.archiveSHA256
    archivedAt := application.archivedAt
    snapshotSlots := application.snapshotSlots
    serviceState := application.serviceState
    outcome := outcomeApplied
    changed := application.changed }

/-- A controlled failure, which says that the rollback was attempted and what it
reached, and no service state. -/
def buildFailedAuxiliaryReport (accepted : Acceptance) (failure : ControlledFailure) : Report :=
  { buildAuxiliaryReport accepted with
    planOperation := failure.operation
    localPort := failure.localPort.toInt
    unitPath := failure.unitPath
    routeHost := failure.routeHost
    fragmentPath := failure.fragmentPath
    snapshotSlot := failure.snapshotSlot
    outcome := failure.rollback.outcome
    rollbackAttempted := true
    observed := failure.rollback.observed
    changed := true }

/-! ## The process -/

/-- What one run meets on its machine. -/
structure Circumstances where
  effectiveUserID : Nat
  /-- The anchor, when it could be read. -/
  anchor : Option Anchor
  nowUnixSeconds : Nat
  /-- Whether the lock was there to be taken. -/
  lockable : Bool
  /-- Whether the position could be read. -/
  readable : Bool
  /-- Where the replacement of the position stops before its end. -/
  stop : Option Stop
  conclusion : Conclusion
  /-- The words of whatever error the run ends on. -/
  sentence : Bytes

/-- What the caller of a process can hear. -/
structure Exit where
  standardOutput : Bytes
  standardError : Bytes
  exitCode : Int
  deriving DecidableEq, Repr

/-- What a run did, beside what can be heard of it. -/
structure Outcome where
  exit : Exit
  directory : StateDirectory
  consumed : Bool
  changed : Bool
  deriving DecidableEq, Repr

/-- An error ends the process with its words and nothing else. -/
def failure (sentence : Bytes) : Exit :=
  ⟨[], text "your-cloud: " ++ sentence ++ text "\n", 2⟩

/-- What the client of a session answers for a command that a signal ended. -/
def killed : Exit := ⟨[], [], 255⟩

/-- A report and the end of the process beside it. -/
def answered (report : Report) : Exit := ⟨report.encode, [], 0⟩

/-- A report of a failure, which stays a failure. -/
def answeredFailure (report : Report) (sentence : Bytes) : Exit :=
  { failure sentence with standardOutput := report.encode }

section Process

variable (ed25519Verify : Bytes → Bytes → Bytes → Bool)

/-- One presentation from end to end: the checks and the lock, the decision, and
the replacement. -/
def presentation (circumstances : Circumstances) (directory : StateDirectory)
    (subject : Subject) (anchor : Anchor) (signed : SignedApproval) : System × Answer :=
  step ed25519Verify
    (run (step ed25519Verify) ⟨directory, none⟩
      [.present subject anchor signed circumstances.nowUnixSeconds circumstances.lockable,
        .decide circumstances.readable])
    (.write circumstances.stop)

/-- How a presentation that was not accepted ends the process. -/
def notAccepted (circumstances : Circumstances) : Exit :=
  match circumstances.stop with
  | some stop => if stop.crash then killed else failure circumstances.sentence
  | none => failure circumstances.sentence

/-- The accepted approval applied, when its documents travelled along, and
reported. -/
def concluded (circumstances : Circumstances) (directory : StateDirectory)
    (accepted : Acceptance) : Input → Outcome
  | .diagnose _ =>
      { exit :=
          match circumstances.conclusion with
          | .died _ => killed
          | _ => answered (buildAuxiliaryReport accepted)
        directory
        consumed := true
        changed := false }
  | .apply _ _ _ _ =>
      { exit :=
          match circumstances.conclusion with
          | .applied application => answered (buildAppliedAuxiliaryReport accepted application)
          | .refused => failure circumstances.sentence
          | .controlled controlled =>
              answeredFailure (buildFailedAuxiliaryReport accepted controlled)
                circumstances.sentence
          | .died _ => killed
        directory
        consumed := true
        changed := circumstances.conclusion.changed }

/-- The subject a shape is verified by. -/
def Input.subject : Input → Subject
  | diagnose _ => .readOnly
  | apply _ _ _ _ => .mutating

def Input.signed : Input → SignedApproval
  | diagnose signed => signed
  | apply signed _ _ _ => signed

/-- One run over the document on the standard input. -/
def approve (circumstances : Circumstances) (directory : StateDirectory) (document : Bytes) :
    Outcome :=
  if circumstances.effectiveUserID ≠ 0 then
    ⟨failure circumstances.sentence, directory, false, false⟩
  else
    match circumstances.anchor, decodeInput document with
    | some anchor, some input =>
        let (system, answer) := presentation ed25519Verify circumstances directory input.subject
          anchor input.signed
        match answer with
        | .accepted state =>
            concluded circumstances system.directory ⟨input.signed.envelope, state⟩ input
        | answer =>
            ⟨notAccepted circumstances, system.directory, answer.spends.isSome, false⟩
    | _, _ => ⟨failure circumstances.sentence, directory, false, false⟩

/-! ## What a run is known to do -/

/-- A run that got no input consumes nothing and changes nothing. -/
theorem approve_of_decodeInput {document : Bytes} (h : decodeInput document = none)
    (circumstances : Circumstances) (directory : StateDirectory) :
    approve ed25519Verify circumstances directory document =
      ⟨failure circumstances.sentence, directory, false, false⟩ := by
  unfold approve
  rw [h]
  split
  · rfl
  · cases circumstances.anchor <;> rfl

/-- What stands inside the lock once a presentation decided. -/
private theorem presentation_holder {circumstances : Circumstances} {directory : StateDirectory}
    {subject : Subject} {anchor : Anchor} {signed : SignedApproval} {state : State}
    (h : (run (step ed25519Verify) ⟨directory, none⟩
      [.present subject anchor signed circumstances.nowUnixSeconds circumstances.lockable,
        .decide circumstances.readable]).holder = some (.decided state)) :
    subject.checks ed25519Verify anchor signed circumstances.nowUnixSeconds = true ∧
      anchor.binds signed.envelope = true ∧
      ∃ current, successor current anchor signed.envelope = some state := by
  simp only [run_cons, run_nil, next, step] at h
  by_cases hchecks :
      subject.checks ed25519Verify anchor signed circumstances.nowUnixSeconds = false
  · rw [if_pos hchecks] at h
    cases h
  by_cases hbinds : anchor.binds signed.envelope = false
  · rw [if_neg hchecks, if_pos hbinds] at h
    cases h
  by_cases hlock : circumstances.lockable = false
  · rw [if_neg hchecks, if_neg hbinds, if_pos hlock] at h
    cases h
  rw [if_neg hchecks, if_neg hbinds, if_neg hlock] at h
  refine ⟨by simpa using hchecks, by simpa using hbinds, ?_⟩
  simp only at h
  split at h
  · cases h
  · rename_i current _
    cases hs : successor current anchor signed.envelope with
    | none =>
        rw [hs] at h
        cases h
    | some next =>
        rw [hs] at h
        obtain rfl : next = state := by simpa using h
        exact ⟨current, hs⟩

/-- An accepted position is the envelope's own, and its checks passed. -/
theorem presentation_accepted {circumstances : Circumstances} {directory : StateDirectory}
    {subject : Subject} {anchor : Anchor} {signed : SignedApproval} {state : State}
    (h : (presentation ed25519Verify circumstances directory subject anchor signed).2 =
      .accepted state) :
    subject.checks ed25519Verify anchor signed circumstances.nowUnixSeconds = true ∧
      state = ⟨schemaVersion, signed.envelope.infrastructureID, signed.envelope.machineID,
        signed.envelope.approvalEpoch, signed.envelope.sequence⟩ := by
  unfold presentation at h
  simp only [step] at h
  split at h
  · rename_i next hholder
    obtain ⟨hchecks, hbinds, current, hs⟩ := presentation_holder ed25519Verify hholder
    obtain ⟨hinfra, hmachine, -, -⟩ := Anchor.binds_iff.1 hbinds
    refine ⟨hchecks, ?_⟩
    obtain rfl : next = state := by
      simp only [writeAnswer] at h
      split at h
      · exact Answer.accepted.inj h
      · cases h
    rw [(successor_cases hs).1, hinfra, hmachine]
  · cases h

/-- Nothing is changed by a run that consumes nothing. -/
theorem approve_changed {circumstances : Circumstances} {directory : StateDirectory}
    {document : Bytes}
    (h : (approve ed25519Verify circumstances directory document).consumed = false) :
    (approve ed25519Verify circumstances directory document).changed = false := by
  unfold approve at h ⊢
  split
  · rfl
  · rename_i hroot
    rw [if_neg hroot] at h
    split
    · rename_i anchor input ha hi
      rw [ha, hi] at h
      simp only at h ⊢
      split
      · rename_i hanswer
        rw [hanswer] at h
        cases input <;> cases h
      · rfl
    · rfl

end Process

end YourCloud.Auxiliary
