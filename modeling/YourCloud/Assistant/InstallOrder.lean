import YourCloud.Assistant.InstallScript

/-!
# In what order an installation acts

Nothing is done as `root` before the bundle was read back on the machine, and the
configuration is put in its place only after its own digest was read back.  The secret is
handed to commands that ask for it and to no other.  The channels opened stay within the
budget, and on every ending the secret is destroyed and `sudo` is told to forget, last.

This holds whatever the channel answers, and wherever it stops answering.

## Main results

* `perform_guarded` — a step keeps that every call was allowed when it was made.
* `run_ordered` — what is true of every transcript of an installation.
-/

namespace YourCloud.Assistant.Installation

open YourCloud.Foundation
open App.Bootstrap (BootstrapAction)
open Course (Follows Holds Runs Guarded called)

/-- A call of the sequence with its answer. -/
abbrev Exchange := Exchanged Request fun r => Option r.Reply

/-! ## What a command is -/

/-- The command runs as `root`. -/
def FixedCommand.elevated (command : FixedCommand) : Bool :=
  "/usr/bin/sudo ".toList.isPrefixOf command.text.toList

/-- The command has `sudo` read a password from its input. -/
def FixedCommand.asksPassword (command : FixedCommand) : Bool :=
  "/usr/bin/sudo -k -S ".toList.isPrefixOf command.text.toList

def INSTALL_CONFIGURATION_FORMS : List FixedCommand :=
  [INSTALL_CONFIGURATION.withoutPassword, INSTALL_CONFIGURATION.withPassword]

def depositCommands : Step → List FixedCommand
  | .transferBundle => [CREATE_STAGING, DEPOSIT_BUNDLE, MEASURE_STAGED_SIZE, MEASURE_STAGED]
  | .writeMachineConfiguration =>
      [DEPOSIT_CONFIGURATION, MEASURE_CONFIGURATION_SIZE, MEASURE_CONFIGURATION]
  | .installPackage | .createState | .installCredentialSources | .initialiseController
  | .mintReaderIdentity | .activateController | .associateApp | .preflight => []

/-- Two texts that are spelled out begin alike where their characters do. -/
theorem begins {start s : Chars} :
    (String.ofList start).toList.isPrefixOf (String.ofList s).toList = start.isPrefixOf s := by
  rw [String.toList_ofList, String.toList_ofList]

theorem FixedCommand.apart {s t : Chars} (h : decide (s = t) = false) :
    FixedCommand.mk (String.ofList s) ≠ ⟨String.ofList t⟩ := by
  intro hsame
  have htext := congrArg (fun command => command.text.toList) hsame
  dsimp only at htext
  rw [String.toList_ofList, String.toList_ofList] at htext
  exact of_decide_eq_false h htext

theorem depositCommands_plain (step : Step) :
    ∀ command ∈ depositCommands step, command.elevated = false := by
  have hbundle : ∀ command ∈ depositCommands .transferBundle, command.elevated = false := by
    simp only [depositCommands, List.forall_mem_cons]
    exact ⟨begins.trans (by decide +kernel), begins.trans (by decide +kernel),
      begins.trans (by decide +kernel), begins.trans (by decide +kernel), by simp⟩
  have hconfiguration :
      ∀ command ∈ depositCommands .writeMachineConfiguration, command.elevated = false := by
    simp only [depositCommands, List.forall_mem_cons]
    exact ⟨begins.trans (by decide +kernel), begins.trans (by decide +kernel),
      begins.trans (by decide +kernel), by simp⟩
  cases step with
  | transferBundle => exact hbundle
  | writeMachineConfiguration => exact hconfiguration
  | _ => simp [depositCommands]

set_option maxRecDepth 8000 in
theorem acts_asksPassword : ∀ entry ∈ ACTS, entry.2.withPassword.asksPassword = true := by
  simp only [ACTS, List.forall_mem_cons]
  exact ⟨begins.trans (by decide +kernel), begins.trans (by decide +kernel),
    begins.trans (by decide +kernel), begins.trans (by decide +kernel),
    begins.trans (by decide +kernel), begins.trans (by decide +kernel),
    begins.trans (by decide +kernel), begins.trans (by decide +kernel), by simp⟩

set_option maxRecDepth 8000 in
theorem acts_elevated : ∀ form ∈ INSTALL_CONFIGURATION_FORMS, form.elevated = true := by
  simp only [INSTALL_CONFIGURATION_FORMS, List.forall_mem_cons]
  exact ⟨begins.trans (by decide +kernel), begins.trans (by decide +kernel), by simp⟩

set_option maxRecDepth 8000 in
theorem constat_asksPassword {constat : Constat} (h : constat.elevated = true) :
    (constat.command true).asksPassword = true := by
  cases constat with
  | nodes => exact begins.trans (by decide +kernel)
  | package => cases h
  | unit => cases h

set_option maxRecDepth 8000 in
/-- The configuration is put in its place by the acts of its own step. -/
theorem acts_apart : ∀ entry ∈ ACTS, entry.1 ≠ .writeMachineConfiguration →
    entry.2.withoutPassword ∉ INSTALL_CONFIGURATION_FORMS ∧
      entry.2.withPassword ∉ INSTALL_CONFIGURATION_FORMS := by
  have hapart : ∀ {command : FixedCommand}, command ≠ INSTALL_CONFIGURATION.withoutPassword →
      command ≠ INSTALL_CONFIGURATION.withPassword → command ∉ INSTALL_CONFIGURATION_FORMS := by
    intro command hwithout hwith
    simp [INSTALL_CONFIGURATION_FORMS, hwithout, hwith]
  intro entry hentry hstep
  simp only [ACTS, List.mem_cons, List.not_mem_nil, or_false] at hentry
  rcases hentry with rfl | rfl | rfl | rfl | rfl | rfl | rfl | rfl <;>
    first
    | exact absurd rfl hstep
    | exact ⟨hapart (FixedCommand.apart (by decide +kernel))
          (FixedCommand.apart (by decide +kernel)),
        hapart (FixedCommand.apart (by decide +kernel))
          (FixedCommand.apart (by decide +kernel))⟩

set_option maxRecDepth 8000 in
theorem constat_apart (constat : Constat) (passwordRequired : Bool) :
    constat.command passwordRequired ∉ INSTALL_CONFIGURATION_FORMS := by
  intro hmem
  simp only [INSTALL_CONFIGURATION_FORMS, List.mem_cons, List.not_mem_nil, or_false] at hmem
  revert hmem
  rw [imp_false, not_or]
  cases constat with
  | package =>
      exact ⟨FixedCommand.apart (by decide +kernel), FixedCommand.apart (by decide +kernel)⟩
  | unit =>
      exact ⟨FixedCommand.apart (by decide +kernel), FixedCommand.apart (by decide +kernel)⟩
  | nodes =>
      cases passwordRequired with
      | true =>
          exact ⟨FixedCommand.apart (by decide +kernel), FixedCommand.apart (by decide +kernel)⟩
      | false =>
          exact ⟨FixedCommand.apart (by decide +kernel), FixedCommand.apart (by decide +kernel)⟩

variable (c : Conduct)

theorem mem_depositScript {step : Step} {r : Request} (h : r ∈ c.depositScript step) :
    ∃ command input, r = .run command input ∧ command ∈ depositCommands step ∧
      ∀ bytes, input ≠ some (.terminalAnswer bytes) := by
  cases step with
  | transferBundle =>
      simp only [Conduct.depositScript, List.mem_cons, List.not_mem_nil, or_false] at h
      rcases h with rfl | rfl | rfl | rfl <;> exact ⟨_, _, rfl, by simp [depositCommands], by simp⟩
  | writeMachineConfiguration =>
      unfold Conduct.depositScript at h
      cases hc : c.payload.configuration with
      | none => simp [hc] at h
      | some configuration =>
          simp only [hc, List.mem_cons, List.not_mem_nil, or_false] at h
          rcases h with rfl | rfl | rfl <;> exact ⟨_, _, rfl, by simp [depositCommands], by simp⟩
  | _ => exact absurd h List.not_mem_nil

theorem mem_actScript {step : Step} {r : Request} (h : r ∈ c.actScript step) :
    ∃ entry ∈ ACTS, entry.1 = step ∧
      r = .run (if c.passwordRequired then entry.2.withPassword else entry.2.withoutPassword)
        c.presented := by
  obtain ⟨act, hact, rfl⟩ := List.mem_map.1 h
  obtain ⟨entry, hentry, rfl⟩ := List.mem_map.1 hact
  obtain ⟨hmem, hstep⟩ := List.mem_filter.1 hentry
  exact ⟨entry, hmem, of_decide_eq_true hstep, rfl⟩

theorem mem_constatScript {step : Step} {r : Request} (h : r ∈ c.constatScript step) :
    ∃ constat, constatFor step = some constat ∧
      r = .run (constat.command c.passwordRequired)
        (if constat.elevated then c.presented else none) := by
  obtain ⟨constat, hconstat, rfl⟩ := List.mem_map.1 h
  exact ⟨constat, Option.mem_toList.1 hconstat, rfl⟩

/-- The secret is handed to commands that ask for it. -/
theorem secret_presented {step : Step} {command : FixedCommand} {bytes : Bytes}
    (h : .run command (some (.terminalAnswer bytes)) ∈ c.stepScript step) :
    c.passwordRequired = true ∧ c.secret = some bytes ∧ command.asksPassword = true := by
  have hpresented : ∀ {input : ChannelInput}, c.presented = some input →
      c.passwordRequired = true ∧ c.secret.map .terminalAnswer = some input := by
    intro input hinput
    unfold Conduct.presented at hinput
    split at hinput
    · exact ⟨by assumption, hinput⟩
    · cases hinput
  have hsecret : c.secret.map ChannelInput.terminalAnswer = some (.terminalAnswer bytes) →
      c.secret = some bytes := by
    cases c.secret with
    | none => exact nofun
    | some secret => simp
  unfold Conduct.stepScript at h
  rcases List.mem_append.1 h with h | h
  · rcases List.mem_append.1 h with h | h
    · obtain ⟨command', input, hrun, -, hinput⟩ := mem_depositScript c h
      obtain ⟨rfl, rfl⟩ := Request.run.inj hrun
      exact absurd rfl (hinput bytes)
    · obtain ⟨entry, hentry, -, hrun⟩ := mem_actScript c h
      obtain ⟨rfl, hinput⟩ := Request.run.inj hrun
      obtain ⟨hpassword, hbytes⟩ := hpresented hinput.symm
      rw [if_pos hpassword]
      exact ⟨hpassword, hsecret hbytes, acts_asksPassword entry hentry⟩
  · obtain ⟨constat, -, hrun⟩ := mem_constatScript c h
    obtain ⟨rfl, hinput⟩ := Request.run.inj hrun
    split at hinput
    · rename_i helevated
      obtain ⟨hpassword, hbytes⟩ := hpresented hinput.symm
      rw [hpassword]
      exact ⟨rfl, hsecret hbytes, constat_asksPassword helevated⟩
    · cases hinput

/-! ## What was read back -/

/-- The machine was given some bytes and read back their size and digest, one right after the
other. -/
def ReadBack (deposit size digest : FixedCommand) (bytes : Bytes) (expected : Nat)
    (sha256 suffix : Chars) (past : List Exchange) : Prop :=
  ∃ (written measured hashed : Answer) (numeral path : Chars),
    [(⟨.run deposit (some (.exactBytes bytes)), some written⟩ : Exchange),
      ⟨.run size none, some measured⟩, ⟨.run digest none, some hashed⟩] <:+: past ∧
    written.exitStatus = 0 ∧
    (measured.exitStatus = 0 ∧ measured.stdout = Chars.bytes (numeral ++ ['\n']) ∧
      parseU64 numeral = some expected) ∧
    hashed.exitStatus = 0 ∧
    hashed.stdout = Chars.bytes (sha256 ++ MEASUREMENT_SEPARATOR ++ path ++ ['\n']) ∧
    suffix <:+ path

theorem ReadBack.later {deposit size digest : FixedCommand} {bytes : Bytes} {expected : Nat}
    {sha256 suffix : Chars} {past : List Exchange}
    (h : ReadBack deposit size digest bytes expected sha256 suffix past) (more : List Exchange) :
    ReadBack deposit size digest bytes expected sha256 suffix (past ++ more) := by
  obtain ⟨written, measured, hashed, numeral, path, hinfix, hrest⟩ := h
  exact ⟨written, measured, hashed, numeral, path,
    hinfix.trans (List.prefix_append past more).isInfix, hrest⟩

namespace Conduct

def BundleReadBack (c : Conduct) : List Exchange → Prop :=
  ReadBack DEPOSIT_BUNDLE MEASURE_STAGED_SIZE MEASURE_STAGED c.payload.artifact
    c.payload.bundle.size c.payload.bundle.sha256 STAGED_ARTIFACT_SUFFIX.toList

def ConfigurationReadBack (c : Conduct) (past : List Exchange) : Prop :=
  ∃ configuration, c.payload.configuration = some configuration ∧
    ReadBack DEPOSIT_CONFIGURATION MEASURE_CONFIGURATION_SIZE MEASURE_CONFIGURATION
      configuration.bytes configuration.size configuration.sha256
      STAGED_CONFIGURATION_SUFFIX.toList past

/-- What a deposit has left behind when its step goes on. -/
def Deposited (c : Conduct) (step : Step) (past : List Exchange) : Prop :=
  (step = .transferBundle → c.BundleReadBack past) ∧
    (step = .writeMachineConfiguration → c.ConfigurationReadBack past)

end Conduct

theorem depositAndMeasure_runs {step : Step} {deposit size digest : FixedCommand} {bytes : Bytes}
    {s t : Register} {calls : List Exchange} {readings : TransferReadings}
    (h : Runs (Conduct.depositAndMeasure step deposit bytes size digest) s calls (.ok readings) t) :
    t = s ∧ ∃ written measured hashed : Answer,
      calls = [⟨.run deposit (some (.exactBytes bytes)), some written⟩,
        ⟨.run size none, some measured⟩, ⟨.run digest none, some hashed⟩] ∧
      readings = ⟨written.exitStatus, measured.exitStatus, measured.stdout, hashed.exitStatus,
        hashed.stdout⟩ := by
  unfold Conduct.depositAndMeasure at h
  obtain ⟨_, written, _, _, rfl, hwritten, hsizes⟩ := Course.runs_bind_ok.1 h
  obtain ⟨rfl, rfl⟩ := Course.runs_call_ok.1 hwritten
  obtain ⟨_, measured, _, _, rfl, hmeasured, hhashes⟩ := Course.runs_bind_ok.1 hsizes
  obtain ⟨rfl, rfl⟩ := Course.runs_call_ok.1 hmeasured
  obtain ⟨_, hashed, _, _, rfl, hhashed, hend⟩ := Course.runs_bind_ok.1 hhashes
  obtain ⟨rfl, rfl⟩ := Course.runs_call_ok.1 hhashed
  obtain ⟨rfl, hreadings, rfl⟩ := Course.runs_pure.1 hend
  exact ⟨rfl, written, measured, hashed, rfl, Except.ok.inj hreadings⟩

theorem recordDeposit_ok {step : Step} {name : String}
    {verdict : Except TransferRefusal StagedFile} {s t : Register} {calls : List Exchange}
    (h : Runs (Conduct.recordDeposit step name verdict) s calls (.ok ()) t) :
    calls = [] ∧ t = s.record .file name .created ∧ ∃ file, verdict = .ok file := by
  cases verdict with
  | ok file =>
      obtain ⟨hcalls, -, ht⟩ := Course.runs_note.1 h
      exact ⟨hcalls, ht, file, rfl⟩
  | error refusal =>
      obtain ⟨_, _, _, _, -, -, h⟩ := Course.runs_bind_ok.1 h
      obtain ⟨-, he, -⟩ := Course.runs_stop.1 h
      cases he

/-- What was deposited and accepted was read back. -/
theorem readBack_of_deposited {deposit size digest : FixedCommand} {bytes : Bytes}
    {expected : Nat} {sha256 suffix : Chars} {file : StagedFile} {past : List Exchange}
    {written measured hashed : Answer}
    (h : deposited expected sha256 suffix ⟨written.exitStatus, measured.exitStatus,
      measured.stdout, hashed.exitStatus, hashed.stdout⟩ = .ok file) :
    ReadBack deposit size digest bytes expected sha256 suffix
      (past ++ [⟨.run deposit (some (.exactBytes bytes)), some written⟩,
        ⟨.run size none, some measured⟩, ⟨.run digest none, some hashed⟩]) := by
  obtain ⟨hwritten, hsize, hhashed, hstdout, hsuffix⟩ := deposited_ok h
  obtain ⟨hmeasured, numeral, hnumeral, hparsed⟩ := readSize_ok hsize
  exact ⟨written, measured, hashed, numeral, file.path, (List.suffix_append past _).isInfix,
    hwritten, ⟨hmeasured, hnumeral, hparsed⟩, hhashed, hstdout, hsuffix⟩

theorem deposit_ok {step : Step} {s t : Register} {calls : List Exchange}
    (h : Runs (c.deposit step) s calls (.ok ()) t) (past : List Exchange) :
    c.Deposited step (past ++ calls) := by
  constructor
  · rintro rfl
    unfold Conduct.deposit at h
    obtain ⟨before, created, _, _, rfl, -, hgate⟩ := Course.runs_bind_ok.1 h
    cases hstaging : stagingCreated created.exitStatus with
    | error refusal =>
        rw [hstaging] at hgate
        obtain ⟨-, he, -⟩ := Course.runs_stop.1 hgate
        cases he
    | ok fresh =>
        rw [hstaging] at hgate
        obtain ⟨_, _, _, _, rfl, hnote, hbundle⟩ := Course.runs_bind_ok.1 hgate
        obtain ⟨rfl, -, rfl⟩ := Course.runs_note.1 hnote
        obtain ⟨_, readings, _, _, rfl, htriple, hverdict⟩ := Course.runs_bind_ok.1 hbundle
        obtain ⟨rfl, written, measured, hashed, rfl, rfl⟩ := depositAndMeasure_runs htriple
        obtain ⟨rfl, -, file, hfile⟩ := recordDeposit_ok hverdict
        rw [List.nil_append, List.append_nil, ← List.append_assoc]
        exact readBack_of_deposited hfile
  · rintro rfl
    unfold Conduct.deposit at h
    cases hc : c.payload.configuration with
    | none =>
        rw [hc] at h
        obtain ⟨-, he, -⟩ := Course.runs_stop.1 h
        cases he
    | some configuration =>
        rw [hc] at h
        obtain ⟨_, readings, _, _, rfl, htriple, hverdict⟩ := Course.runs_bind_ok.1 h
        obtain ⟨rfl, written, measured, hashed, rfl, rfl⟩ := depositAndMeasure_runs htriple
        obtain ⟨rfl, -, file, hfile⟩ := recordDeposit_ok hverdict
        rw [List.append_nil]
        exact ⟨configuration, hc, readBack_of_deposited hfile⟩

/-! ## Every call is allowed when it is made -/

/-- What has to have been read back before a command may be sent. -/
def Conduct.Allowed (c : Conduct) (scope : List Step) (past : List Exchange) : Request → Prop
  | .adoptBudget _ => True
  | .run command _ =>
      (command.elevated = true → .transferBundle ∈ scope → c.BundleReadBack past) ∧
        (command ∈ INSTALL_CONFIGURATION_FORMS → c.ConfigurationReadBack past)

theorem deposit_allowed (scope : List Step) (step : Step) (past : List Exchange) :
    ∀ r ∈ c.depositScript step, c.Allowed scope past r := by
  intro r hr
  obtain ⟨command, input, rfl, hcommand, -⟩ := mem_depositScript c hr
  have hplain := depositCommands_plain step command hcommand
  constructor
  · intro helevated
    rw [hplain] at helevated
    cases helevated
  · intro hform
    rw [acts_elevated command hform] at hplain
    cases hplain

theorem carryOut_allowed {scope : List Step} {step : Step} {past : List Exchange}
    (hbundle : .transferBundle ∈ scope → c.BundleReadBack past) (h : c.Deposited step past)
    (more : List Exchange) :
    ∀ r ∈ c.actScript step ++ c.constatScript step, c.Allowed scope (past ++ more) r := by
  have hread : .transferBundle ∈ scope → c.BundleReadBack (past ++ more) :=
    fun hscope => (hbundle hscope).later more
  intro r hr
  rcases List.mem_append.1 hr with hr | hr
  · obtain ⟨entry, hentry, hstep, rfl⟩ := mem_actScript c hr
    refine ⟨fun _ => hread, fun hform => ?_⟩
    by_cases hwrite : entry.1 = .writeMachineConfiguration
    · obtain ⟨configuration, hc, hback⟩ := h.2 (hstep.symm.trans hwrite)
      exact ⟨configuration, hc, hback.later more⟩
    · obtain ⟨hwithout, hwith⟩ := acts_apart entry hentry hwrite
      split at hform
      · exact absurd hform hwith
      · exact absurd hform hwithout
  · obtain ⟨constat, -, rfl⟩ := mem_constatScript c hr
    exact ⟨fun _ => hread, fun hform => absurd hform (constat_apart constat _)⟩

/-- A step keeps that every call was allowed when it was made; the bundle's own step brings about
what the others need. -/
theorem perform_guarded (scope : List Step) (step : Step) :
    Holds
      (fun past _ => (step ≠ .transferBundle → .transferBundle ∈ scope → c.BundleReadBack past) ∧
        Guarded (c.Allowed scope) past)
      (c.perform step)
      (fun _ past _ => (.transferBundle ∈ scope → c.BundleReadBack past) ∧
        Guarded (c.Allowed scope) past)
      (fun _ past _ => Guarded (c.Allowed scope) past) := by
  rintro past s ⟨hbundle, hpast⟩ calls result t h
  have hdeposit : ∀ {before : List Exchange} {outcome : Except SequenceStop Unit} {m : Register},
      Runs (c.deposit step) s before outcome m → Guarded (c.Allowed scope) (past ++ before) :=
    fun hruns => (deposit_follows c step).guarded
      (fun more => deposit_allowed c scope step (past ++ more)) hpast hruns
  rcases Course.runs_bind.1 h with ⟨e, rfl, hstop⟩ | ⟨before, ⟨⟩, m, after, rfl, hfirst, hrest⟩
  · exact ⟨nofun, fun _ _ => hdeposit hstop⟩
  · have hdeposited := deposit_ok c hfirst past
    have hread : .transferBundle ∈ scope → c.BundleReadBack (past ++ before) := by
      intro hscope
      by_cases hstep : step = .transferBundle
      · exact hdeposited.1 hstep
      · exact (hbundle hstep hscope).later before
    have hguarded := (carryOut_follows c step).guarded (carryOut_allowed c hread hdeposited)
      (hdeposit hfirst) hrest
    rw [List.append_assoc] at hguarded
    refine ⟨fun _ _ => ⟨fun hscope => ?_, hguarded⟩, fun _ _ => hguarded⟩
    rw [← List.append_assoc]
    exact (hread hscope).later after

/-- A scope that transfers a bundle begins with it. -/
theorem scope_begins {actions : List BootstrapAction}
    (h : .transferBundle ∈ authorizedStepsFor actions) :
    ∃ rest, authorizedStepsFor actions = .transferBundle :: rest := by
  unfold authorizedStepsFor at h ⊢
  split at h
  · exact ⟨_, rfl⟩
  · rename_i only
    cases only with
    | auditTargetReadOnly => exact absurd h List.not_mem_nil
    | installServerBundle => exact ⟨_, rfl⟩
    | activateApprovedController => simp [authorizedSteps] at h
  · exact absurd h List.not_mem_nil

theorem drive_guarded {actions : List BootstrapAction} {s t : Register} {calls : List Exchange}
    {result : Except SequenceStop Unit} (h : Runs (c.drive actions) s calls result t) :
    Guarded (c.Allowed (authorizedStepsFor actions)) calls := by
  let scope := authorizedStepsFor actions
  let kept : List Exchange → Register → Prop := fun past _ =>
    (.transferBundle ∈ scope → c.BundleReadBack past) ∧ Guarded (c.Allowed scope) past
  have hstep : ∀ step, Holds kept (c.perform step) (fun _ => kept)
      (fun _ past _ => Guarded (c.Allowed scope) past) := fun step =>
    (perform_guarded c scope step).of_pre fun _ _ hpre => ⟨fun _ => hpre.1, hpre.2⟩
  have hscope : Holds (fun past _ => Guarded (c.Allowed scope) past)
      (scope.foldlM (fun _ step => c.perform step) ())
      (fun _ past _ => Guarded (c.Allowed scope) past)
      (fun _ past _ => Guarded (c.Allowed scope) past) := by
    by_cases htransfer : .transferBundle ∈ scope
    · obtain ⟨rest, hrest⟩ := scope_begins htransfer
      show Holds _ ((authorizedStepsFor actions).foldlM _ ()) _ _
      rw [hrest, List.foldlM_cons]
      refine Holds.bind ((perform_guarded c scope .transferBundle).of_pre
        fun _ _ hpre => ⟨fun hne => absurd rfl hne, hpre⟩) fun _ => ?_
      exact (Holds.each (fun step _ _ => hstep step) ()).of_post fun _ _ _ hpost => hpost.2
    · exact ((Holds.each (fun step _ _ => hstep step) ()).of_pre
        fun _ _ hpre => ⟨fun hin => absurd hin htransfer, hpre⟩).of_post
          fun _ _ _ hpost => hpost.2
  have hadopt : Holds (fun past (_ : Register) => Guarded (c.Allowed scope) past)
      (@Course.call Request Register SequenceStop Request.Reply
        (.adoptBudget (channelBudget actions)) .budgetRefused)
      (fun _ past _ => Guarded (c.Allowed scope) past)
      (fun _ past _ => Guarded (c.Allowed scope) past) := by
    intro past s hpast calls result t hruns
    have hguarded := (Follows.call _ _).guarded (fun more r hr => by
      rw [List.mem_singleton.1 hr]
      exact trivial) hpast hruns
    exact ⟨fun _ _ => hguarded, fun _ _ => hguarded⟩
  have hends := (Holds.bind hadopt fun _ => hscope) [] s (Course.guarded_nil _) calls result t h
  cases result with
  | ok u => exact hends.1 u rfl
  | error e => exact hends.2 e rfl

/-! ## The channels -/

def Request.opensChannel : Request → Bool
  | .adoptBudget _ => false
  | .run _ _ => true

theorem depositScript_length (step : Step) :
    (c.depositScript step).length ≤ (depositCommands step).length := by
  cases step with
  | writeMachineConfiguration =>
      unfold Conduct.depositScript
      cases c.payload.configuration with
      | none => exact Nat.zero_le _
      | some configuration => exact Nat.le_refl 3
  | transferBundle => exact Nat.le_refl 4
  | _ => exact Nat.le_refl 0

/-- A step opens at most the channels that the budget counts for it. -/
theorem stepScript_length (step : Step) : (c.stepScript step).length ≤ channelsFor step := by
  have hacts : (c.actScript step).length = (ACTS.filter fun entry => entry.1 = step).length := by
    rw [Conduct.actScript, List.length_map, ElevatedAct.authorisedFor, List.length_map]
  have hconstat : (c.constatScript step).length = (constatFor step).toList.length := by
    rw [Conduct.constatScript, List.length_map]
  have hcounted : (depositCommands step).length +
      (ACTS.filter fun entry => entry.1 = step).length + (constatFor step).toList.length ≤
        channelsFor step := by
    cases step <;> decide
  have hdeposit := depositScript_length c step
  rw [Conduct.stepScript, List.length_append, List.length_append, hacts, hconstat]
  omega

theorem script_channels (actions : List BootstrapAction) :
    (c.script actions).countP Request.opensChannel ≤
      ((authorizedStepsFor actions).map channelsFor).sum := by
  show (Request.adoptBudget _ :: _).countP Request.opensChannel ≤ _
  rw [List.countP_cons_of_neg (by simp [Request.opensChannel])]
  generalize authorizedStepsFor actions = scope
  refine List.countP_le_length.trans ?_
  induction scope with
  | nil => exact Nat.le_refl 0
  | cons step scope ih =>
      rw [List.flatMap_cons, List.length_append, List.map_cons, List.sum_cons]
      have hstep := stepScript_length c step
      omega

theorem opened_pos {actions : List BootstrapAction} (h : authorizedStepsFor actions ≠ []) :
    ((authorizedStepsFor actions).map channelsFor).sum ≠ 0 := by
  revert h
  unfold authorizedStepsFor
  split
  · exact fun _ => by decide
  · rename_i only
    cases only with
    | auditTargetReadOnly => exact fun h => absurd rfl h
    | installServerBundle => exact fun _ => by decide
    | activateApprovedController => exact fun _ => by decide
  · exact fun h => absurd rfl h

/-! ## The whole run -/

/-- A transcript of the sequence: what the steps sent, and last that `sudo` is to forget. -/
theorem run_plays {actions : List BootstrapAction} {calls : List Exchange}
    {ending : SequenceOutcome × Option Bytes} (h : Dialogue.Plays (run c actions) calls ending) :
    ∃ sent last outcome register, calls = sent ++ [⟨.run DROP_CREDENTIAL none, last⟩] ∧
      Runs (c.drive actions) { ledger := .new, pending := [] } sent outcome register ∧
      ending = ({ ledger := register.close, stopped := stopOf outcome }, none) := by
  obtain ⟨sent, ⟨outcome, register⟩, after, rfl, hdrive, hdrop⟩ := Dialogue.Plays.bind_iff.1 h
  cases hdrop with
  | ask last hend =>
      obtain ⟨rfl, rfl⟩ := Dialogue.Plays.done_iff.1 hend
      exact ⟨sent, last, outcome, register, rfl, hdrive, rfl⟩

/-- Whatever the channel answers and wherever it falls silent: the commands are those of the
script, none of them before what it rests on was read back; the secret is handed to commands
that ask for it, and is destroyed; the channels stay within the budget. -/
theorem run_ordered (actions : List BootstrapAction) (calls : List Exchange)
    (ending : SequenceOutcome × Option Bytes) (h : Dialogue.Plays (run c actions) calls ending) :
    ending.2 = none ∧
    (∃ sent last, calls = sent ++ [⟨.run DROP_CREDENTIAL none, last⟩] ∧
      called sent <+: c.script actions ∧
      (ending.1.stopped = none → called sent = c.script actions) ∧
      ∀ before after command input answer, sent = before ++ ⟨.run command input, answer⟩ :: after →
        (command.elevated = true → .transferBundle ∈ authorizedStepsFor actions →
          c.BundleReadBack before) ∧
        (command ∈ INSTALL_CONFIGURATION_FORMS → c.ConfigurationReadBack before)) ∧
    (∀ command bytes answer,
      (⟨.run command (some (.terminalAnswer bytes)), answer⟩ : Exchange) ∈ calls →
        c.passwordRequired = true ∧ c.secret = some bytes ∧ command.asksPassword = true) ∧
    (authorizedStepsFor actions ≠ [] →
      MAX_EXEC_CHANNELS + OBSERVATION_CHANNELS + (called calls).countP Request.opensChannel ≤
        channelBudget actions) := by
  obtain ⟨sent, last, outcome, register, rfl, hdrive, rfl⟩ := run_plays c h
  obtain ⟨hopens, hwhole⟩ := drive_follows c actions _ _ _ _ hdrive
  refine ⟨rfl, ⟨sent, last, rfl, hopens, fun hnone => hwhole ?_, ?_⟩, ?_, ?_⟩
  · cases outcome with
    | ok u => rfl
    | error stopped => cases hnone
  · intro before after command input answer hsplit
    exact drive_guarded c hdrive before _ after hsplit
  · intro command bytes answer hmem
    rcases List.mem_append.1 hmem with hmem | hmem
    · have hscript := hopens.subset (List.mem_map_of_mem hmem)
      rcases List.mem_cons.1 hscript with hadopt | hscript
      · cases hadopt
      · obtain ⟨step, -, hstep⟩ := List.mem_flatMap.1 hscript
        exact secret_presented c hstep
    · have hdrop := congrArg Sigma.fst (List.mem_singleton.1 hmem)
      cases hdrop
  · intro hscope
    have hsent : (called sent).countP Request.opensChannel ≤
        ((authorizedStepsFor actions).map channelsFor).sum :=
      (hopens.sublist.countP_le).trans (script_channels c actions)
    have hopened := opened_pos hscope
    have hcount : (called (sent ++ [(⟨.run DROP_CREDENTIAL none, last⟩ : Exchange)])).countP
        Request.opensChannel = (called sent).countP Request.opensChannel + 1 := by
      rw [Course.called, List.map_append, List.countP_append]
      rfl
    have hbudget : channelBudget actions = MAX_EXEC_CHANNELS + OBSERVATION_CHANNELS +
        ((authorizedStepsFor actions).map channelsFor).sum + 1 := if_neg hopened
    rw [hcount, hbudget]
    omega

/-- A machine that answers every command with success and prints nothing. -/
def quiet : (r : Request) → PUnit → Option r.Reply × PUnit
  | .adoptBudget _, s => (some (), s)
  | .run _ _, s => (some ⟨0, []⟩, s)

def sampleConduct : Conduct where
  plan := { endpoint := ['a'], version := ['1'] }
  payload :=
    { bundle := { version := ['1'], size := 1, sha256 := ['a'] }
      artifact := [0x61]
      configuration := none }
  passwordRequired := true
  secret := some [0x73]

theorem run_ordered_quiet :
    (Dialogue.converse quiet
        (run sampleConduct [.installServerBundle, .activateApprovedController]) ⟨⟩).2.1.2 = none ∧
      MAX_EXEC_CHANNELS + OBSERVATION_CHANNELS +
          (called (Dialogue.converse quiet
            (run sampleConduct [.installServerBundle, .activateApprovedController]) ⟨⟩).1).countP
              Request.opensChannel ≤
        channelBudget [.installServerBundle, .activateApprovedController] := by
  have h := run_ordered sampleConduct [.installServerBundle, .activateApprovedController] _ _
    (Dialogue.converse_plays quiet _ ⟨⟩)
  exact ⟨h.1, h.2.2.2 (by decide)⟩

end YourCloud.Assistant.Installation
