import YourCloud.Assistant.InstallOrder

/-!
# What the ledger of an installation accounts for

A thing is written down as created only when the machine was seen to have it: the deposit
was read back, the judge of the finding that covers it accepted, or the act that makes it
printed what it has to.  What waits when the sequence ends is written down as unknown.

So what an unwinding takes back was seen on the machine in this run, and it is promised to
be all there is only when everything was seen.

## Main results

* `drive_sound` — what the parts of a run keep.
* `ledger_accounts` — what the ledger of every transcript says.
-/

namespace YourCloud.Assistant.Installation

open YourCloud.Foundation
open App.Bootstrap (BootstrapAction)
open Course (Holds Runs)

def Item.named (item : Item) : ItemKind × String := (item.kind, item.name)

theorem items_recordStep (ledger : Ledger) (step : Step) (provenance : Provenance) :
    (recordStep ledger step provenance).items =
      ledger.items ++ step.items.map fun item => ⟨item.1, item.2, provenance⟩ := by
  cases step with
  | mintReaderIdentity => simp [recordStep, Step.items, Ledger.record]
  | installPackage => rfl
  | createState => rfl
  | installCredentialSources => rfl
  | activateController => rfl
  | writeMachineConfiguration => rfl
  | initialiseController => rfl
  | transferBundle => simp [recordStep, Step.items]
  | associateApp => simp [recordStep, Step.items]
  | preflight => simp [recordStep, Step.items]

theorem items_recordSteps (ledger : Ledger) (steps : List Step) (provenance : Provenance) :
    (steps.foldl (fun ledger step => recordStep ledger step provenance) ledger).items =
      ledger.items ++ (steps.flatMap Step.items).map fun item => ⟨item.1, item.2, provenance⟩ := by
  induction steps generalizing ledger with
  | nil => simp
  | cons step steps ih =>
      rw [List.foldl_cons, ih, items_recordStep, List.flatMap_cons, List.map_append,
        List.append_assoc]

theorem transferred_recordSteps (ledger : Ledger) (steps : List Step) (provenance : Provenance) :
    (steps.foldl (fun ledger step => recordStep ledger step provenance)
      ledger).authorityTransferred = ledger.authorityTransferred := by
  induction steps generalizing ledger with
  | nil => rfl
  | cons step steps ih =>
      rw [List.foldl_cons, ih]
      cases step <;> rfl

/-! ## What was seen -/

namespace Conduct

/-- The machine answered a finding so that its judge accepted. -/
def Finds (c : Conduct) (calls : List Exchange) (constat : Constat) : Prop :=
  ∃ input answer,
    (⟨.run (constat.command c.passwordRequired) input, some answer⟩ : Exchange) ∈ calls ∧
      c.judge constat answer = .ok ()

/-- The machine was seen to have what a step puts there. -/
def Established (c : Conduct) (calls : List Exchange) (step : Step) : Prop :=
  (∃ constat, step ∈ coveredBy constat ∧ c.Finds calls constat) ∨
    (step = .initialiseController ∧ ∃ act ∈ ElevatedAct.authorisedFor c.plan step, ∃ answer,
      (⟨.run (act.command c.passwordRequired) c.presented, some answer⟩ : Exchange) ∈ calls ∧
        answer.exitStatus = 0 ∧ Identity.initialised answer.stdout = .ok ())

/-- The machine was seen to have a thing. -/
inductive Seen (c : Conduct) (calls : List Exchange) : ItemKind × String → Prop
  | staging {answer : Answer}
      (h : (⟨.run CREATE_STAGING none, some answer⟩ : Exchange) ∈ calls)
      (hzero : answer.exitStatus = 0) : Seen c calls (.directory, STAGING_DIRECTORY)
  | artifact (h : c.BundleReadBack calls) : Seen c calls (.file, STAGED_ARTIFACT_SUFFIX)
  | configuration (h : c.ConfigurationReadBack calls) :
      Seen c calls (.file, STAGED_CONFIGURATION_SUFFIX)
  | step {step : Step} {item : ItemKind × String} (hitem : item ∈ step.items)
      (h : c.Established calls step) : Seen c calls item

end Conduct

variable (c : Conduct)

theorem Conduct.Seen.later {calls : List Exchange} {item : ItemKind × String}
    (h : c.Seen calls item) (more : List Exchange) : c.Seen (calls ++ more) item := by
  cases h with
  | staging h hzero => exact .staging (List.mem_append_left _ h) hzero
  | artifact h => exact .artifact (h.later more)
  | configuration h =>
      obtain ⟨configuration, hc, hback⟩ := h
      exact .configuration ⟨configuration, hc, hback.later more⟩
  | step hitem h =>
      refine .step hitem ?_
      rcases h with ⟨constat, hcovered, input, answer, hmem, hjudge⟩ |
        ⟨hstep, act, hact, answer, hmem, hrest⟩
      · exact .inl ⟨constat, hcovered, input, answer, List.mem_append_left _ hmem, hjudge⟩
      · exact .inr ⟨hstep, act, hact, answer, List.mem_append_left _ hmem, hrest⟩

/-! ## What the parts of a run keep -/

/-- The authority was not handed over, what is written down as created was seen, and all the rest
is written down as unknown. -/
structure Conduct.Sound (c : Conduct) (past : List Exchange) (register : Register) : Prop where
  transferred : register.ledger.authorityTransferred = false
  written : ∀ item ∈ register.ledger.items,
    (item.provenance = .created ∧ c.Seen past item.named) ∨ item.provenance = .unknown

variable {c}

namespace Conduct.Sound

variable {past : List Exchange} {register : Register}

theorem later (h : c.Sound past register) (more : List Exchange) :
    c.Sound (past ++ more) register where
  transferred := h.transferred
  written item hitem :=
    (h.written item hitem).imp (fun hseen => ⟨hseen.1, hseen.2.later c more⟩) id

theorem record (h : c.Sound past register) {kind : ItemKind} {name : String}
    {provenance : Provenance}
    (hnew : (provenance = .created ∧ c.Seen past (kind, name)) ∨ provenance = .unknown) :
    c.Sound past (register.record kind name provenance) where
  transferred := h.transferred
  written item hitem := by
    rcases List.mem_append.1 hitem with hitem | hitem
    · exact h.written item hitem
    · rw [List.mem_singleton.1 hitem]
      exact hnew

theorem recordSteps (h : c.Sound past register) {steps : List Step} {provenance : Provenance}
    (hnew : (provenance = .created ∧ ∀ step ∈ steps, c.Established past step) ∨
      provenance = .unknown) (pending : List Step) :
    c.Sound past ⟨steps.foldl (fun ledger step => recordStep ledger step provenance)
      register.ledger, pending⟩ where
  transferred := (transferred_recordSteps _ _ _).trans h.transferred
  written item hitem := by
    dsimp only at hitem
    rw [items_recordSteps] at hitem
    rcases List.mem_append.1 hitem with hitem | hitem
    · exact h.written item hitem
    · obtain ⟨entry, hentry, rfl⟩ := List.mem_map.1 hitem
      obtain ⟨step, hstep, hin⟩ := List.mem_flatMap.1 hentry
      exact hnew.imp (fun hcreated => ⟨hcreated.1, .step hin (hcreated.2 step hstep)⟩) id

end Conduct.Sound

variable (c)

theorem command_sound (step : Step) (command : FixedCommand) (input : Option ChannelInput) :
    Holds c.Sound (runCommand step command input)
      (fun answer past t => c.Sound past t ∧
        (⟨.run command input, some answer⟩ : Exchange) ∈ past)
      (fun _ => c.Sound) :=
  Holds.call
    (fun _ _ h _ => ⟨h.later _, List.mem_append_right _ (List.mem_singleton.2 rfl)⟩)
    fun _ _ h => h.later _

theorem wait_sound (step : Step) {pre : List Exchange → Register → Prop}
    (hpre : ∀ past s, pre past s → c.Sound past s) {stopped : SequenceStop → List Exchange →
      Register → Prop} :
    Holds pre (Course.note fun register => register.wait step) (fun _ => c.Sound) stopped :=
  Holds.note fun past s h => ⟨(hpre past s h).transferred, (hpre past s h).written⟩

/-- A deposited file is written down as created where it was read back. -/
theorem deposited_sound {step : Step} {deposit size digest : FixedCommand} {bytes : Bytes}
    {name : String} {expected : Nat} {sha256 suffix : Chars}
    (hseen : ∀ past, ReadBack deposit size digest bytes expected sha256 suffix past →
      c.Seen past (.file, name)) :
    Holds c.Sound
      (Conduct.depositAndMeasure step deposit bytes size digest >>= fun readings =>
        Conduct.recordDeposit step name (deposited expected sha256 suffix readings))
      (fun _ => c.Sound) (fun _ => c.Sound) := by
  have hkeeps : Holds c.Sound (Conduct.depositAndMeasure step deposit bytes size digest)
      (fun _ => c.Sound) (fun _ => c.Sound) := by
    unfold Conduct.depositAndMeasure
    refine Holds.bind (command_sound c step _ _) fun written => ?_
    refine Holds.bind ((command_sound c step _ _).of_pre fun _ _ h => h.1) fun measured => ?_
    exact Holds.bind ((command_sound c step _ _).of_pre fun _ _ h => h.1) fun hashed =>
      Holds.pure fun _ _ h => h.1
  have hmeasure : Holds c.Sound (Conduct.depositAndMeasure step deposit bytes size digest)
      (fun readings past t => c.Sound past t ∧ ∀ file,
        deposited expected sha256 suffix readings = .ok file → c.Seen past (.file, name))
      (fun _ => c.Sound) := by
    intro past s h calls result t hruns
    have hends := hkeeps past s h calls result t hruns
    refine ⟨fun readings hr => ⟨hends.1 readings hr, fun file hfile => ?_⟩, hends.2⟩
    rw [hr] at hruns
    obtain ⟨-, written, measured, hashed, rfl, rfl⟩ := depositAndMeasure_runs hruns
    exact hseen _ (readBack_of_deposited hfile)
  refine Holds.bind hmeasure fun readings => ?_
  cases deposited expected sha256 suffix readings with
  | ok file => exact Holds.note fun past s h => h.1.record (.inl ⟨rfl, h.2 file rfl⟩)
  | error refusal =>
      have hnote : Holds
          (fun past s => c.Sound past s ∧ ∀ file,
            (.error refusal : Except TransferRefusal StagedFile) = .ok file →
              c.Seen past (.file, name))
          (Course.note fun register => register.record .file name .unknown)
          (fun _ => c.Sound) (fun (_ : SequenceStop) => c.Sound) :=
        Holds.note fun past s h => h.1.record (.inr rfl)
      exact Holds.bind hnote fun _ => Holds.stop fun _ _ h => h

theorem deposit_sound (step : Step) :
    Holds c.Sound (c.deposit step) (fun _ => c.Sound) (fun _ => c.Sound) := by
  cases step with
  | transferBundle =>
      refine Holds.bind (command_sound c _ CREATE_STAGING none) fun created => ?_
      cases hcreated : stagingCreated created.exitStatus with
      | error refusal => exact Holds.stop fun _ _ h => h.1
      | ok fresh =>
          have hzero : created.exitStatus = 0 := of_decide_eq_true (demand_eq_ok.1 hcreated)
          have hnote : Holds
              (fun past s => c.Sound past s ∧
                (⟨.run CREATE_STAGING none, some created⟩ : Exchange) ∈ past)
              (Course.note fun register =>
                register.record .directory STAGING_DIRECTORY .created)
              (fun _ => c.Sound) (fun (_ : SequenceStop) => c.Sound) :=
            Holds.note fun past s h => h.1.record (.inl ⟨rfl, .staging h.2 hzero⟩)
          exact Holds.bind hnote fun _ => deposited_sound c fun past => .artifact
  | writeMachineConfiguration =>
      unfold Conduct.deposit
      cases hc : c.payload.configuration with
      | none => exact Holds.stop fun _ _ h => h
      | some configuration =>
          exact deposited_sound c fun past h => .configuration ⟨configuration, hc, h⟩
  | _ => exact Holds.pure fun _ _ h => h

/-- An act of the step was sent, and answered that it was done. -/
def Conduct.Acted (c : Conduct) (step : Step) (past : List Exchange) (answer : Answer) : Prop :=
  ∃ act ∈ ElevatedAct.authorisedFor c.plan step,
    (⟨.run (act.command c.passwordRequired) c.presented, some answer⟩ : Exchange) ∈ past ∧
      answer.exitStatus = 0

/-- What the last act of a step answered is among the calls, and was a success. -/
theorem acts_sound (step : Step) :
    Holds c.Sound (c.acts step)
      (fun last past t => c.Sound past t ∧
        ∀ answer, last = some answer → c.Acted step past answer)
      (fun _ => c.Sound) := by
  have hact : ∀ act ∈ ElevatedAct.authorisedFor c.plan step,
      Holds c.Sound (c.act step act)
        (fun answer past t => c.Sound past t ∧ c.Acted step past answer) (fun _ => c.Sound) := by
    intro act hact
    unfold Conduct.act
    refine Holds.bind (command_sound c step _ _) fun answer => ?_
    refine Holds.ite (fun _ => Holds.bind (wait_sound c step fun _ _ h => h.1) fun _ =>
      Holds.stop fun _ _ h => h) fun hzero => Holds.pure fun past s h => ?_
    exact ⟨h.1, act, hact, h.2, not_not.1 hzero⟩
  have heach : ∀ act ∈ ElevatedAct.authorisedFor c.plan step, ∀ before : Option Answer,
      Holds (fun past t => c.Sound past t ∧
          ∀ answer, before = some answer → c.Acted step past answer)
        (c.act step act >>= fun answer => pure (some answer))
        (fun last past t => c.Sound past t ∧
          ∀ answer, last = some answer → c.Acted step past answer)
        (fun _ => c.Sound) := by
    intro act hmem before
    refine Holds.bind ((hact act hmem).of_pre fun _ _ h => h.1) fun answer =>
      Holds.pure fun past t h => ⟨h.1, fun other hsame => ?_⟩
    rw [← Option.some.inj hsame]
    exact h.2
  exact (Holds.each heach none).of_pre fun past s h => ⟨h, nofun⟩

theorem constate_sound (step : Step) (constat : Constat) :
    Holds c.Sound (c.constate step constat) (fun _ => c.Sound) (fun _ => c.Sound) := by
  unfold Conduct.constate
  refine Holds.bind (command_sound c step _ _) fun answer => ?_
  cases hjudge : c.judge constat answer with
  | error reason => exact Holds.stop fun _ _ h => h.1
  | ok found =>
      refine Holds.note fun past s h => h.1.recordSteps (.inl ⟨rfl, fun covered hin => ?_⟩) _
      have hcovered : covered ∈ coveredBy constat := of_decide_eq_true (List.mem_filter.1 hin).2
      exact .inl ⟨constat, hcovered, _, answer, h.2, hjudge⟩

/-- An initialisation that was accepted printed something. -/
theorem initialised_nothing : Identity.initialised [] ≠ .ok () := by
  decide

theorem carryOut_sound (step : Step) :
    Holds c.Sound (c.carryOut step) (fun _ => c.Sound) (fun _ => c.Sound) := by
  unfold Conduct.carryOut
  refine Holds.bind (acts_sound c step) fun lastAnswer => ?_
  cases hverdict : Conduct.identityVerdict step lastAnswer with
  | error sentence =>
      exact Holds.bind (wait_sound c step fun _ _ h => h.1) fun _ => Holds.stop fun _ _ h => h
  | ok verdict =>
      by_cases hinit : step = .initialiseController
      · subst hinit
        refine Holds.note fun past s h => ?_
        refine @Conduct.Sound.recordSteps c past s h.1 [.initialiseController] .created
          (.inl ⟨rfl, fun step hstep => ?_⟩) s.pending
        rw [List.mem_singleton.1 hstep]
        cases lastAnswer with
        | none => exact absurd hverdict initialised_nothing
        | some answer =>
            obtain ⟨act, hact, hmem, hzero⟩ := h.2 answer rfl
            exact .inr ⟨rfl, act, hact, answer, hmem, hzero, hverdict⟩
      · dsimp only
        rw [if_neg hinit]
        cases constatFor step with
        | none =>
            exact Holds.ite (fun _ => Holds.bind (wait_sound c step fun _ _ h => h.1) fun _ =>
              Holds.pure fun _ _ h => h) fun _ => Holds.pure fun _ _ h => h.1
        | some constat =>
            have hconstat := constate_sound c step constat
            exact Holds.ite (fun _ => Holds.bind (wait_sound c step fun _ _ h => h.1) fun _ =>
              hconstat) fun _ => hconstat.of_pre fun _ _ h => h.1

theorem drive_sound (actions : List BootstrapAction) :
    Holds c.Sound (c.drive actions) (fun _ => c.Sound) (fun _ => c.Sound) := by
  have hadopt : Holds c.Sound
      (@Course.call Request Register SequenceStop Request.Reply
        (.adoptBudget (channelBudget actions)) .budgetRefused)
      (fun _ => c.Sound) (fun _ => c.Sound) :=
    Holds.call (fun _ _ h _ => h.later _) fun _ _ h => h.later _
  refine Holds.bind hadopt fun _ => ?_
  exact Holds.each (fun step _ _ => Holds.bind (deposit_sound c step) fun _ =>
    carryOut_sound c step) ()

/-! ## The whole run -/

/-- Whatever the channel answers and wherever it falls silent: what the ledger writes down as
created was seen on the machine, and all the rest is unknown; an unwinding takes back what was
seen, and is complete only when everything was. -/
theorem ledger_accounts (actions : List BootstrapAction) (calls : List Exchange)
    (ending : SequenceOutcome × Option Bytes) (h : Dialogue.Plays (run c actions) calls ending) :
    (∀ item ∈ ending.1.ledger.items,
      (item.provenance = .created ∧ c.Seen calls item.named) ∨ item.provenance = .unknown) ∧
    (∀ removal ∈ ending.1.ledger.unwind.removals, c.Seen calls (removal.kind, removal.name)) ∧
    (ending.1.ledger.unwind = .complete ending.1.ledger.removals ↔
      ∀ item ∈ ending.1.ledger.items, item.provenance = .created) := by
  obtain ⟨sent, last, outcome, register, rfl, hdrive, rfl⟩ := run_plays c h
  have hempty : c.Sound [] { ledger := .new, pending := [] } := ⟨rfl, nofun⟩
  have hdriven := drive_sound c actions [] _ hempty _ _ _ hdrive
  have hsound : c.Sound sent register := by
    cases outcome with
    | ok u => exact hdriven.1 u rfl
    | error e => exact hdriven.2 e rfl
  have hclosed : c.Sound (sent ++ [⟨.run DROP_CREDENTIAL none, last⟩]) ⟨register.close, []⟩ :=
    Conduct.Sound.later (hsound.recordSteps (.inr rfl) []) _
  refine ⟨hclosed.written, fun removal hremoval => ?_, ?_⟩
  · rcases hclosed.written _ (mem_unwind_removals hremoval) with hseen | hunknown
    · exact hseen.2
    · cases hunknown
  · rw [unwind_complete_iff hclosed.transferred]
    refine forall₂_congr fun item hitem => ?_
    rcases hclosed.written item hitem with hseen | hunknown
    · simp [hseen.1]
    · simp [hunknown]

/-- The ledger of a run in which nothing is printed. -/
def quietLedger : Ledger :=
  (Dialogue.converse quiet
    (run sampleConduct [.installServerBundle, .activateApprovedController]) ⟨⟩).2.1.1.ledger

theorem ledger_accounts_quiet :
    quietLedger.unwind = .complete quietLedger.removals ↔
      ∀ item ∈ quietLedger.items, item.provenance = .created :=
  (ledger_accounts sampleConduct [.installServerBundle, .activateApprovedController] _ _
    (Dialogue.converse_plays quiet _ ⟨⟩)).2.2

end YourCloud.Assistant.Installation
