import YourCloud.Controller.Launch
import YourCloud.Controller.Wrapper

/-!
# What a launch concludes and what happened

Between the Controller and one machine a session can fail to open, drop, be cut
at the deadline, or run to its end; behind it a machine runs whatever it runs
over the bytes that reached it.  A session fixes all of that, and yields both
the run of the client that the Controller concludes from and the outcome the
machine was left with.

A conclusion is honest when it claims no more than what happened: `not_launched`
and `machine_refused` say that nothing was consumed and nothing changed, and a
session lost after the wrapper was handed over leaves the dispatch unreported.

## Main results

* `outcome_of_not_handedOver` — a wrapper that was not handed over whole had no
  effect.
* `launch_honest_iff` — exactly when a launch is concluded honestly.
-/

namespace YourCloud.Controller

open YourCloud.Foundation
open YourCloud.Approval
open YourCloud.Auxiliary

/-! ## Sessions -/

/-- A machine to which nothing happened. -/
def idle (directory : StateDirectory) : Auxiliary.Outcome := ⟨⟨[], [], 0⟩, directory, false, false⟩

/-- What answers at the other end. -/
inductive Remote where
  /-- The forced command did not reach the Auxiliary: nothing is consumed,
  whatever is answered. -/
  | unreached (exit : Exit)
  | auxiliary (circumstances : Circumstances)

/-- What happens at the other end once a session is open. -/
def Remote.run (ed25519Verify : Bytes → Bytes → Bytes → Bool) (directory : StateDirectory)
    (received : Bytes) : Remote → Auxiliary.Outcome
  | unreached exit => ⟨exit, directory, false, false⟩
  | auxiliary circumstances => approve ed25519Verify circumstances directory received

/-- How a session ends. -/
inductive Transport where
  /-- The client could not open it. -/
  | neverOpened
  /-- The connection dropped once it was open. -/
  | dropped (received heard : Nat)
  /-- The client was killed at the deadline. -/
  | killed (received heard : Nat)
  /-- The client passed the exit of the remote command on. -/
  | completed (received : Nat)

/-- How much of the wrapper reached the machine. -/
def Transport.received : Transport → Nat
  | neverOpened => 0
  | dropped received _ => received
  | killed received _ => received
  | completed received => received

def Transport.opened : Transport → Bool
  | neverOpened => false
  | _ => true

/-- Whether the session was lost: it expired, or it dropped. -/
def Transport.lost : Transport → Bool
  | dropped _ _ => true
  | killed _ _ => true
  | _ => false

/-- Everything that happens between the Controller and one machine. -/
structure Session where
  started : Bool
  written : Nat
  closed : Bool
  /-- Waiting for the client failed on the Controller's side. -/
  waitFailed : Bool
  transport : Transport
  /-- What the client itself wrote on its error channel. -/
  diagnostics : Bytes
  remote : Remote
  directory : StateDirectory
  /-- No byte reaches the machine that the pipe did not take. -/
  received_le : transport.received ≤ written

namespace Session

variable (ed25519Verify : Bytes → Bytes → Bytes → Bool)

/-- What the machine was left with. -/
def outcome (session : Session) (wrapper : Wrapper) : Auxiliary.Outcome :=
  if (session.started && session.transport.opened) = false then idle session.directory
  else
    session.remote.run ed25519Verify session.directory
      (wrapper.bytes.take session.transport.received)

/-- What was heard of the machine's answer. -/
def heard (session : Session) (wrapper : Wrapper) : Bytes :=
  let answer := (session.outcome ed25519Verify wrapper).exit.standardOutput
  match session.transport with
  | .neverOpened => []
  | .dropped _ heard => answer.take heard
  | .killed _ heard => answer.take heard
  | .completed _ => answer

/-- The exit of the client: its own failure, the deadline, or the machine's. -/
def exitCode (session : Session) (wrapper : Wrapper) : Int :=
  match session.transport with
  | .neverOpened => sshClientFailureExitCode
  | .dropped _ _ => sshClientFailureExitCode
  | .killed _ _ => -1
  | .completed _ => (session.outcome ed25519Verify wrapper).exit.exitCode

/-- The run of the client that the Controller observes. -/
def client (session : Session) (wrapper : Wrapper) : ClientRun where
  started := session.started
  written := session.written
  closed := session.closed
  wait :=
    if session.waitFailed then .failed else .exited (session.exitCode ed25519Verify wrapper)
  standardOutput := session.heard ed25519Verify wrapper
  standardError :=
    match session.transport with
    | .completed _ =>
        (session.outcome ed25519Verify wrapper).exit.standardError ++ session.diagnostics
    | _ => session.diagnostics

/-- The wrapper was written whole to a client that runs. -/
def handedOver (session : Session) (wrapper : Wrapper) : Bool :=
  session.started && decide (wrapper.bytes.length ≤ session.written)

/-- The Controller failed on its own side once the wrapper was handed over. -/
def broken (session : Session) : Bool := session.waitFailed || !session.closed

/-- A wrapper that was not handed over whole had no effect. -/
theorem outcome_of_not_handedOver {session : Session} {wrapper : Wrapper}
    (h : session.handedOver wrapper = false) :
    (session.outcome ed25519Verify wrapper).consumed = false := by
  unfold outcome
  split
  · rfl
  · rename_i hopen
    have hstarted : session.started = true := by
      cases hs : session.started with
      | true => rfl
      | false => exact absurd (by rw [hs]; rfl) hopen
    have hwritten : session.written < wrapper.bytes.length := by
      rw [handedOver, hstarted, Bool.true_and, decide_eq_false_iff_not] at h
      exact Nat.not_le.1 h
    cases session.remote with
    | unreached exit => rfl
    | auxiliary circumstances =>
        have hcut := wrapper.decodeInput_cut (lt_of_le_of_lt session.received_le hwritten)
        rw [Remote.run, approve_of_decodeInput ed25519Verify hcut]

/-- Nothing is changed where nothing is consumed. -/
theorem outcome_changed {session : Session} {wrapper : Wrapper}
    (h : (session.outcome ed25519Verify wrapper).consumed = false) :
    (session.outcome ed25519Verify wrapper).changed = false := by
  unfold outcome at h ⊢
  split
  · rfl
  · rename_i hopen
    rw [if_neg hopen] at h
    cases hr : session.remote with
    | unreached exit => rfl
    | auxiliary circumstances =>
        rw [hr] at h
        exact approve_changed ed25519Verify h

/-- A session that never opened left the machine as it was. -/
theorem outcome_of_neverOpened {session : Session} {wrapper : Wrapper}
    (h : session.transport = .neverOpened) :
    session.outcome ed25519Verify wrapper = idle session.directory := by
  rw [outcome, h]
  exact if_pos (Bool.and_false _)

end Session

/-! ## Honest conclusions -/

/-- A conclusion claims no more than what happened. -/
structure Honest (conclusion : DispatchConclusion) (outcome : Auxiliary.Outcome) (lost : Bool) :
    Prop where
  unclaimed : conclusion.state = .notLaunched ∨ conclusion.state = .machineRefused →
    outcome.consumed = false ∧ outcome.changed = false
  unreported : lost = true → conclusion.state = .launchedUnreported

section Launch

variable (ed25519Verify : Bytes → Bytes → Bytes → Bool) (isPrint : Nat → Bool)
variable (infrastructure : Bytes) (preparation : Preparation) (session : Session)
variable (record : DispatchRecord) (wrapper : Wrapper)

/-- The answer, as far as it is read, is a report about this dispatch. -/
def Acceptable (answer : Bytes) : Prop :=
  ∃ report concluded,
    ingestReport record infrastructure (boundedAnswer answer maxCommandAnswerBytes) = .ok report ∧
      reportedConclusion isPrint report = .ok concluded

/-- The client ran, and was handed the whole wrapper. -/
def launched : Bool := preparation.complete record && session.handedOver wrapper

/-- What a launch concludes. -/
def launch : DispatchConclusion :=
  dispatch isPrint infrastructure preparation (session.client ed25519Verify wrapper) record
    wrapper.bytes

/-- What the machine was left with: nothing happens to it unless the client
runs. -/
def launchOutcome : Auxiliary.Outcome :=
  if preparation.complete record then session.outcome ed25519Verify wrapper
  else idle session.directory

/-- The sessions whose end tells enough: one that ran to its end and failed
without a word spent nothing, and one that was lost had let something through
that is no report. -/
def Telling : Prop :=
  match session.transport with
  | .neverOpened => True
  | .completed _ =>
      session.heard ed25519Verify wrapper = [] → session.exitCode ed25519Verify wrapper ≠ 0 →
        (session.outcome ed25519Verify wrapper).consumed = false
  | _ =>
      session.heard ed25519Verify wrapper ≠ [] ∧
        ¬ Acceptable isPrint infrastructure record (session.heard ed25519Verify wrapper)

/-! ## When a launch is concluded honestly -/

/-- The three ways a result that was written and read concludes. -/
theorem concludeLaunch_cases {result : CommandResult} (maxSentence : Nat)
    (hwrote : result.wroteStandardInput = true) (herr : result.err = false) :
    ((concludeLaunch isPrint record infrastructure result maxSentence).state = .notLaunched ∨
        (concludeLaunch isPrint record infrastructure result maxSentence).state =
          .machineRefused) ∧ result.standardOutput = [] ∧ result.exitCode ≠ 0 ∨
      (concludeLaunch isPrint record infrastructure result maxSentence).state =
          .launchedUnreported ∧ (result.standardOutput = [] → result.exitCode = 0) ∧
        (∀ report concluded, ingestReport record infrastructure result.standardOutput = .ok report →
          reportedConclusion isPrint report ≠ .ok concluded) ∨
      (concludeLaunch isPrint record infrastructure result maxSentence).state = .reported ∧
        (result.standardOutput = [] → result.exitCode = 0) ∧
        ∃ report concluded, ingestReport record infrastructure result.standardOutput = .ok report ∧
          reportedConclusion isPrint report = .ok concluded := by
  unfold concludeLaunch
  rw [if_neg (by rw [hwrote]; decide), if_neg (by rw [herr]; decide)]
  by_cases h255 : result.exitCode = sshClientFailureExitCode ∧ result.standardOutput.length = 0
  · rw [if_pos h255]
    refine Or.inl ⟨Or.inl rfl, List.length_eq_zero_iff.1 h255.2, ?_⟩
    rw [h255.1]
    decide
  by_cases hrefused : result.exitCode ≠ 0 ∧ result.standardOutput.length = 0
  · rw [if_neg h255, if_pos hrefused]
    exact Or.inl ⟨Or.inr rfl, List.length_eq_zero_iff.1 hrefused.2, hrefused.1⟩
  have hspoke : result.standardOutput = [] → result.exitCode = 0 := by
    intro hnil
    by_contra hcode
    exact hrefused ⟨hcode, by rw [hnil]; rfl⟩
  rw [if_neg h255, if_neg hrefused]
  right
  cases hi : ingestReport record infrastructure result.standardOutput with
  | error reason =>
      refine Or.inl ⟨rfl, hspoke, fun report concluded h => ?_⟩
      cases h
  | ok report =>
      cases hc : reportedConclusion isPrint report with
      | error reason =>
          refine Or.inl ⟨by simp only [hc, unreported], hspoke, fun report' concluded h => ?_⟩
          obtain rfl := Except.ok.inj h
          rw [hc]
          simp
      | ok concluded =>
          exact Or.inr ⟨by simp only [hc], hspoke, report, concluded, rfl, hc⟩

/-- A launch that did not hand the wrapper over says so, and nothing happened. -/
theorem honest_of_not_launched
    (h : launched preparation session record wrapper = false) :
    (launch ed25519Verify isPrint infrastructure preparation session record wrapper).state =
        .notLaunched ∧
      (launchOutcome ed25519Verify preparation session record wrapper).consumed = false ∧
      (launchOutcome ed25519Verify preparation session record wrapper).changed = false := by
  unfold launch dispatch launchOutcome
  cases hp : preparation.complete record with
  | false =>
      refine ⟨?_, rfl, rfl⟩
      rw [Preparation.complete, Bool.and_eq_false_iff, Bool.and_eq_false_iff,
        Bool.and_eq_false_iff] at hp
      split
      · rfl
      split
      · rfl
      split
      · rfl
      split
      · rfl
      · rename_i he hi hr hk
        rcases hp with ((hp | hp) | hp) | hp
        · exact absurd hp he
        · exact absurd hp hi
        · exact absurd hp hr
        · exact absurd hp hk
  | true =>
      rw [launched, hp, Bool.true_and] at h
      have hconsumed := Session.outcome_of_not_handedOver ed25519Verify h
      refine ⟨?_, hconsumed, Session.outcome_changed ed25519Verify hconsumed⟩
      have hwrote : (systemCommandRunner (session.client ed25519Verify wrapper)
          wrapper.bytes).wroteStandardInput = false := by
        rw [Session.handedOver, Bool.and_eq_false_iff] at h
        unfold systemCommandRunner
        rcases h with h | h
        · rw [if_pos (show (session.client ed25519Verify wrapper).started = false from h)]
        · split
          · rfl
          · exact h
      split
      · rfl
      split
      · rfl
      split
      · rfl
      split
      · rfl
      · rw [concludeLaunch, if_pos hwrote]
        rfl

/-- The result of a launch that handed the wrapper over. -/
theorem launch_of_launched (h : launched preparation session record wrapper = true) :
    ∃ result : CommandResult,
      launch ed25519Verify isPrint infrastructure preparation session record wrapper =
        concludeLaunch isPrint record infrastructure result maxDispatchMachineSentenceBytes ∧
      launchOutcome ed25519Verify preparation session record wrapper =
        session.outcome ed25519Verify wrapper ∧
      result.wroteStandardInput = true ∧ result.err = session.broken ∧
      result.standardOutput =
        boundedAnswer (session.heard ed25519Verify wrapper) maxCommandAnswerBytes ∧
      (session.waitFailed = false → result.exitCode = session.exitCode ed25519Verify wrapper) := by
  rw [launched, Bool.and_eq_true, Preparation.complete] at h
  obtain ⟨hprep, hover⟩ := h
  rw [Bool.and_eq_true, Bool.and_eq_true, Bool.and_eq_true] at hprep
  obtain ⟨⟨⟨he, hi⟩, hr⟩, hk⟩ := hprep
  rw [Session.handedOver, Bool.and_eq_true] at hover
  obtain ⟨hstarted, hwritten⟩ := hover
  refine ⟨systemCommandRunner (session.client ed25519Verify wrapper) wrapper.bytes, ?_, ?_, ?_⟩
  · rw [launch, dispatch, if_neg (by simp [he]), if_neg (by simp [hi]), if_neg (by simp [hr]),
      if_neg (by simp [hk])]
  · rw [launchOutcome, Preparation.complete, he, hi, hr, hk]
    rfl
  · have hrun : (session.client ed25519Verify wrapper).started = true := hstarted
    rw [systemCommandRunner, if_neg (by rw [hrun]; decide)]
    refine ⟨hwritten, ?_, rfl, ?_⟩
    · show (decide ((session.client ed25519Verify wrapper).wait = .failed) ||
        (decide (wrapper.bytes.length ≤ session.written) && !session.closed)) = session.broken
      rw [hwritten, Bool.true_and, Session.broken, Session.client]
      cases session.waitFailed <;> rfl
    · intro hwait
      simp only [Session.client, hwait]
      rfl

theorem boundedAnswer_eq_nil {answer : Bytes} :
    boundedAnswer answer maxCommandAnswerBytes = [] ↔ answer = [] := by
  cases answer with
  | nil => exact iff_of_true rfl rfl
  | cons b answer => exact iff_of_false (List.cons_ne_nil _ _) (List.cons_ne_nil _ _)

/-- A client that failed after it was handed the wrapper is unreported exactly
when something was heard that is no report about the dispatch. -/
private theorem honest_of_lost {result : CommandResult} {answer : Bytes} {maxSentence : Nat}
    (outcome : Auxiliary.Outcome) (hwrote : result.wroteStandardInput = true)
    (herr : result.err = false)
    (hcode : result.exitCode ≠ 0)
    (hout : result.standardOutput = boundedAnswer answer maxCommandAnswerBytes) :
    Honest (concludeLaunch isPrint record infrastructure result maxSentence) outcome true ↔
      answer ≠ [] ∧ ¬ Acceptable isPrint infrastructure record answer := by
  rcases concludeLaunch_cases isPrint infrastructure record maxSentence hwrote
    herr with ⟨hstate, hnil, -⟩ | ⟨hstate, hspoke, hno⟩ | ⟨hstate, -, report, concluded, hi, hc⟩
  · refine iff_of_false (fun h => ?_) (fun h => ?_)
    · rw [h.unreported rfl] at hstate
      rcases hstate with hs | hs <;> cases hs
    · exact h.1 (boundedAnswer_eq_nil.1 (hout ▸ hnil))
  · refine iff_of_true ⟨fun h => ?_, fun _ => hstate⟩ ⟨fun hnil => ?_, ?_⟩
    · rw [hstate] at h
      rcases h with h | h <;> cases h
    · exact hcode (hspoke (hout.trans (boundedAnswer_eq_nil.2 hnil)))
    · rintro ⟨report, concluded, hi, hc⟩
      exact hno report concluded (hout ▸ hi) hc
  · refine iff_of_false (fun h => ?_) (fun h => ?_)
    · rw [h.unreported rfl] at hstate
      cases hstate
    · exact h.2 ⟨report, concluded, hout ▸ hi, hc⟩

/-- A client whose machine ran to its end claims that nothing happened exactly
when that machine failed without a word. -/
private theorem honest_of_completed {result : CommandResult} {answer : Bytes} {maxSentence : Nat}
    {outcome : Auxiliary.Outcome} (hwrote : result.wroteStandardInput = true)
    (herr : result.err = false)
    (hout : result.standardOutput = boundedAnswer answer maxCommandAnswerBytes)
    (hchanged : outcome.consumed = false → outcome.changed = false) :
    Honest (concludeLaunch isPrint record infrastructure result maxSentence) outcome false ↔
      (answer = [] → result.exitCode ≠ 0 → outcome.consumed = false) := by
  rcases concludeLaunch_cases isPrint infrastructure record maxSentence hwrote
    herr with ⟨hstate, hnil, hcode⟩ | ⟨hstate, hspoke, -⟩ | ⟨hstate, hspoke, -⟩
  · constructor
    · exact fun h _ _ => (h.unclaimed hstate).1
    · intro h
      have hconsumed := h (boundedAnswer_eq_nil.1 (hout ▸ hnil)) hcode
      exact ⟨fun _ => ⟨hconsumed, hchanged hconsumed⟩, fun hl => by cases hl⟩
  all_goals
    refine iff_of_true ⟨fun h => ?_, fun hl => by cases hl⟩ (fun hnil hcode => ?_)
    · rw [hstate] at h
      rcases h with h | h <;> cases h
    · exact absurd (hspoke (hout.trans (boundedAnswer_eq_nil.2 hnil))) hcode

/-- A launch is concluded honestly exactly when it was not handed over, or broke
on the Controller's side, or its session tells enough. -/
theorem launch_honest_iff :
    Honest (launch ed25519Verify isPrint infrastructure preparation session record wrapper)
        (launchOutcome ed25519Verify preparation session record wrapper)
        (launched preparation session record wrapper && session.transport.lost) ↔
      (launched preparation session record wrapper = true → session.broken = false →
        Telling ed25519Verify isPrint infrastructure session record wrapper) := by
  cases hl : launched preparation session record wrapper with
  | false =>
      obtain ⟨-, hnothing⟩ :=
        honest_of_not_launched ed25519Verify isPrint infrastructure preparation session record
          wrapper hl
      refine iff_of_true ⟨fun _ => hnothing, ?_⟩ (fun h => absurd h (by decide))
      intro h
      cases h
  | true =>
      obtain ⟨result, hlaunch, houtcome, hwrote, herr, hout, hcode⟩ :=
        launch_of_launched ed25519Verify isPrint infrastructure preparation session record wrapper
          hl
      rw [hlaunch, houtcome, Bool.true_and]
      cases hb : session.broken with
      | true =>
          have hstate : (concludeLaunch isPrint record infrastructure result
              maxDispatchMachineSentenceBytes).state = .launchedUnreported := by
            rw [concludeLaunch, if_neg (by rw [hwrote]; decide), if_pos (herr.trans hb)]
            rfl
          refine iff_of_true ⟨fun h => ?_, fun _ => hstate⟩ (fun _ h => by cases h)
          rw [hstate] at h
          rcases h with h | h <;> cases h
      | false =>
          have hwait : session.waitFailed = false := (Bool.or_eq_false_iff.1 hb).1
          have hexit := hcode hwait
          have hclean := herr.trans hb
          have hguard : (Telling ed25519Verify isPrint infrastructure session record wrapper) ↔
              (true = true → false = false →
                Telling ed25519Verify isPrint infrastructure session record wrapper) :=
            ⟨fun h _ _ => h, fun h => h rfl rfl⟩
          refine Iff.trans ?_ hguard
          unfold Telling
          cases ht : session.transport with
          | neverOpened =>
              refine iff_of_true ⟨fun _ => ?_, fun h => by cases h⟩ trivial
              rw [Session.outcome_of_neverOpened ed25519Verify ht]
              exact ⟨rfl, rfl⟩
          | dropped received heard =>
              refine honest_of_lost isPrint infrastructure record _ hwrote hclean ?_ hout
              rw [hexit, Session.exitCode, ht]
              show sshClientFailureExitCode ≠ 0
              decide
          | killed received heard =>
              refine honest_of_lost isPrint infrastructure record _ hwrote hclean ?_ hout
              rw [hexit, Session.exitCode, ht]
              show (-1 : Int) ≠ 0
              decide
          | completed received =>
              rw [← hexit]
              exact honest_of_completed isPrint infrastructure record hwrote hclean hout
                (Session.outcome_changed ed25519Verify)

end Launch

/-! ## A launch cut at its deadline -/

/-- An approval of a fixed machine on its way. -/
def sampleRecord : DispatchRecord where
  approvalSHA256 := List.replicate 64 0x30
  machineID := text "machine"
  operation := text "deploy_oci_probe"
  approvalEpoch := 1
  sequence := 1
  planSHA256 := List.replicate 64 0x31
  rollbackSHA256 := List.replicate 64 0x32
  state := .inFlight
  acceptedAtUnix := 1
  finishedAtUnix := 0
  expiresAtUnix := 2
  machineSentence := []
  controllerObservation := []
  definitionSlug := []
  definitionSHA256 := []
  reportedChanged := false
  reportedOutcome := []

def sampleWrapper : Wrapper where
  signedApproval := .object []
  plan := text "plan"
  rollback := text "rollback"
  definition := []
  wellFormed := trivial

/-- A session whose client is killed at the deadline, with the wrapper handed
over and nothing heard. -/
def sampleSession : Session where
  started := true
  written := sampleWrapper.bytes.length
  closed := true
  waitFailed := false
  transport := .killed sampleWrapper.bytes.length 0
  diagnostics := []
  remote := .unreached ⟨[], [], 0⟩
  directory := ⟨none, none⟩
  received_le := Nat.le_refl _

/-- The deadline passes once the wrapper is handed over, and the launch is
concluded as a refusal of the machine. -/
theorem launch_killed :
    ¬ ∀ (ed25519Verify : Bytes → Bytes → Bytes → Bool) (isPrint : Nat → Bool)
        (infrastructure : Bytes) (preparation : Preparation) (session : Session)
        (record : DispatchRecord) (wrapper : Wrapper),
      Honest (launch ed25519Verify isPrint infrastructure preparation session record wrapper)
        (launchOutcome ed25519Verify preparation session record wrapper)
        (launched preparation session record wrapper && session.transport.lost) := by
  intro h
  have hkilled := (h (fun _ _ _ => false) (fun _ => true) [] ⟨true, true, 1, true⟩ sampleSession
    sampleRecord sampleWrapper).unreported (by decide)
  revert hkilled
  decide

end YourCloud.Controller
