import YourCloud.Assistant.InstallSequence

/-!
# The script of an installation

What an installation sends is fixed before it begins: the plan, its payload, the policy
and the secret decide it, and no answer of the machine changes it.  An answer only decides
how far the script is played.

## Main results

* `perform_follows`, `drive_follows` — a step and a scope play their script.
* `deposited_ok` — what the machine answered to an accepted deposit.
-/

namespace YourCloud.Assistant.Installation

open YourCloud.Foundation
open App.Bootstrap (BootstrapAction)

/-! ## The script -/

namespace Conduct

def depositScript (c : Conduct) : Step → List Request
  | .transferBundle =>
      [.run CREATE_STAGING none, .run DEPOSIT_BUNDLE (some (.exactBytes c.payload.artifact)),
        .run MEASURE_STAGED_SIZE none, .run MEASURE_STAGED none]
  | .writeMachineConfiguration =>
      match c.payload.configuration with
      | none => []
      | some configuration =>
          [.run DEPOSIT_CONFIGURATION (some (.exactBytes configuration.bytes)),
            .run MEASURE_CONFIGURATION_SIZE none, .run MEASURE_CONFIGURATION none]
  | .installPackage | .createState | .installCredentialSources | .initialiseController
  | .mintReaderIdentity | .activateController | .associateApp | .preflight => []

def actScript (c : Conduct) (step : Step) : List Request :=
  (ElevatedAct.authorisedFor c.plan step).map fun act =>
    .run (act.command c.passwordRequired) c.presented

def constatScript (c : Conduct) (step : Step) : List Request :=
  (constatFor step).toList.map fun constat =>
    .run (constat.command c.passwordRequired) (if constat.elevated then c.presented else none)

def stepScript (c : Conduct) (step : Step) : List Request :=
  c.depositScript step ++ c.actScript step ++ c.constatScript step

def script (c : Conduct) (actions : List BootstrapAction) : List Request :=
  .adoptBudget (channelBudget actions) :: (authorizedStepsFor actions).flatMap c.stepScript

end Conduct

/-! ## Playing it -/

open Course (Follows)

theorem follows_command (step : Step) (command : FixedCommand) (input : Option ChannelInput) :
    Follows (runCommand step command input) [.run command input] :=
  @Follows.call Request Register SequenceStop Request.Reply (.run command input) (.unanswered step)

theorem depositAndMeasure_follows (step : Step) (deposit : FixedCommand) (bytes : Bytes)
    (size digest : FixedCommand) :
    Follows (Conduct.depositAndMeasure step deposit bytes size digest)
      [.run deposit (some (.exactBytes bytes)), .run size none, .run digest none] := by
  unfold Conduct.depositAndMeasure
  refine Follows.bind (follows_command step deposit _) fun deposited => ?_
  refine Follows.bind (follows_command step size none) fun size => ?_
  exact Follows.bind (follows_command step digest none) fun digest => Follows.pure _

theorem recordDeposit_follows (step : Step) (name : String)
    (verdict : Except TransferRefusal StagedFile) :
    Follows (Conduct.recordDeposit step name verdict) [] := by
  cases verdict with
  | ok file => exact Follows.note _
  | error refusal =>
      exact Follows.bind (Follows.note _) fun _ => Follows.stop _ _

variable (c : Conduct)

theorem deposit_follows (step : Step) : Follows (c.deposit step) (c.depositScript step) := by
  cases step with
  | transferBundle =>
      refine Follows.bind (follows_command _ CREATE_STAGING none) fun created => ?_
      cases stagingCreated created.exitStatus with
      | error refusal => exact Follows.stop _ _
      | ok created =>
          refine Follows.bind (Follows.note _) fun _ => ?_
          exact Follows.bind (depositAndMeasure_follows _ _ _ _ _) fun readings =>
            recordDeposit_follows _ _ _
  | writeMachineConfiguration =>
      unfold Conduct.deposit Conduct.depositScript
      cases c.payload.configuration with
      | none => exact Follows.stop _ _
      | some configuration =>
          exact Follows.bind (depositAndMeasure_follows _ _ _ _ _) fun readings =>
            recordDeposit_follows _ _ _
  | _ => exact Follows.pure _

theorem act_follows (step : Step) (act : ElevatedAct) :
    Follows (c.act step act) [.run (act.command c.passwordRequired) c.presented] := by
  unfold Conduct.act
  refine Follows.bind (follows_command step _ _) fun answer => ?_
  exact Follows.ite (Follows.bind (Follows.note _) fun _ => Follows.stop _ _) (Follows.pure _)

theorem acts_follows (step : Step) : Follows (c.acts step) (c.actScript step) := by
  have heach := @Follows.each Request (fun r => Option r.Reply) Register SequenceStop
    ElevatedAct (Option Answer)
    (fun _ authorised => c.act step authorised >>= fun answer => pure (some answer))
    (fun act => [.run (act.command c.passwordRequired) c.presented])
    (ElevatedAct.authorisedFor c.plan step)
    (fun act _ _ => Follows.bind (act_follows c step act) fun answer => Follows.pure _) none
  rw [← List.map_eq_flatMap] at heach
  exact heach

theorem constate_follows (step : Step) (constat : Constat) :
    Follows (c.constate step constat)
      [.run (constat.command c.passwordRequired)
        (if constat.elevated then c.presented else none)] := by
  unfold Conduct.constate
  refine Follows.bind (follows_command step _ _) fun answer => ?_
  cases c.judge constat answer with
  | ok found => exact Follows.note _
  | error reason => exact Follows.stop _ _

theorem carryOut_follows (step : Step) :
    Follows (c.carryOut step) (c.actScript step ++ c.constatScript step) := by
  unfold Conduct.carryOut
  refine Follows.bind (acts_follows c step) fun lastAnswer => ?_
  cases Conduct.identityVerdict step lastAnswer with
  | error sentence => exact Follows.bind (Follows.note _) fun _ => Follows.stop _ _
  | ok verdict =>
      by_cases hinit : step = .initialiseController
      · subst hinit
        exact Follows.note _
      · dsimp only
        rw [if_neg hinit]
        unfold Conduct.constatScript
        cases constatFor step with
        | none =>
            exact Follows.ite (Follows.bind (Follows.note _) fun _ => Follows.pure _)
              (Follows.pure _)
        | some constat =>
            have hconstat := constate_follows c step constat
            exact Follows.ite (Follows.bind (Follows.note _) fun _ => hconstat) hconstat

/-- A step plays its script, as far as the machine's answers let it. -/
theorem perform_follows (step : Step) : Follows (c.perform step) (c.stepScript step) := by
  unfold Conduct.stepScript
  rw [List.append_assoc]
  exact Follows.bind (deposit_follows c step) fun _ => carryOut_follows c step

theorem drive_follows (actions : List BootstrapAction) :
    Follows (c.drive actions) (c.script actions) := by
  refine Follows.bind (@Follows.call Request Register SequenceStop Request.Reply _ _) fun _ => ?_
  exact Follows.each (fun step _ _ => perform_follows c step) ()

/-! ## What a read back deposit says -/

theorem splitOnText_eq {separator s before after : Chars}
    (h : splitOnText separator s = some (before, after)) : s = before ++ separator ++ after := by
  induction s generalizing before with
  | nil =>
      unfold splitOnText at h
      split at h
      · rename_i hnil
        obtain ⟨rfl, rfl⟩ := Prod.mk.inj (Option.some.inj h)
        rw [hnil]
        rfl
      · cases h
  | cons c s ih =>
      unfold splitOnText at h
      split at h
      · rename_i hprefix
        obtain ⟨rfl, rfl⟩ := Prod.mk.inj (Option.some.inj h)
        obtain ⟨rest, hrest⟩ := List.isPrefixOf_iff_prefix.1 hprefix
        rw [← hrest, List.drop_left, List.nil_append]
      · obtain ⟨parts, hparts, hsame⟩ := Option.map_eq_some_iff.1 h
        obtain ⟨rfl, rfl⟩ := Prod.mk.inj hsame
        rw [ih hparts]
        rfl

theorem stripSuffix_eq {ending s rest : Chars} (h : Chars.stripSuffix ending s = some rest) :
    s = rest ++ ending := by
  unfold Chars.stripSuffix at h
  split at h
  · rename_i hsuffix
    obtain ⟨before, rfl⟩ := List.isSuffixOf_iff_suffix.1 hsuffix
    rw [← Option.some.inj h, List.length_append, Nat.add_sub_cancel, List.take_left]
  · cases h

/-- The size that was read back. -/
theorem readSize_ok {expected : Nat} {readings : TransferReadings}
    (h : readSize expected readings = .ok ()) :
    readings.sizeStatus = 0 ∧ ∃ numeral, readings.sizeStdout = Chars.bytes (numeral ++ ['\n']) ∧
      parseU64 numeral = some expected := by
  unfold readSize at h
  simp only [bind_ok_iff, found_eq_ok, demand_eq_ok, decide_eq_true_eq] at h
  obtain ⟨-, -, -, hstatus, text, htext, line, hline, observed, hobserved, rfl⟩ := h
  refine ⟨hstatus, line, ?_, hobserved⟩
  rw [← stripSuffix_eq hline]
  exact (fromUtf8_eq_some.1 htext).symm

/-- What the machine answered to a deposit that is accepted. -/
theorem deposited_ok {size : Nat} {sha256 suffix : Chars} {readings : TransferReadings}
    {file : StagedFile} (h : deposited size sha256 suffix readings = .ok file) :
    readings.depositStatus = 0 ∧ readSize size readings = .ok () ∧ readings.digestStatus = 0 ∧
      readings.digestStdout =
        Chars.bytes (sha256 ++ MEASUREMENT_SEPARATOR ++ file.path ++ ['\n']) ∧
      suffix <:+ file.path := by
  unfold deposited at h
  simp only [bind_ok_iff, found_eq_ok, demand_eq_ok, decide_eq_true_eq, Bool.and_eq_true] at h
  obtain ⟨-, hdeposit, ⟨⟩, hsize, -, -, -, hstatus, text, htext, line, hline, ⟨digest, path⟩,
    hparts,
    -, -, -, ⟨hsuffix, -⟩, -, hdigest, hfile⟩ := h
  obtain rfl := Except.ok.inj hfile
  refine ⟨hdeposit, hsize, hstatus, ?_, List.isSuffixOf_iff_suffix.1 hsuffix⟩
  dsimp only at hdigest
  rw [← hdigest, ← splitOnText_eq hparts, ← stripSuffix_eq hline]
  exact (fromUtf8_eq_some.1 htext).symm

end YourCloud.Assistant.Installation
