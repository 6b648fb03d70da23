import Mathlib.Algebra.Order.BigOperators.Group.List
import Mathlib.Data.Nat.Cast.Basic
import YourCloud.Controller.Session
import YourCloud.Controller.Submission

/-!
# From the report of a machine to the conclusion of its dispatch

The Auxiliary renders a report and the Controller ingests one; between the two
stands a client that bounds what it reads.  What the record of the dispatch
keeps is what the machine wrote as long as the report fits that bound, and no
text of the observation had to be replaced on the way.

## Main results

* `rendered_names` — a rendered report names the dispatch of its envelope.
* `reported_iff` — exactly when a rendered report is ingested and concluded with
  what the machine wrote.
* `launch_named` — nothing is concluded reported on a document about something
  else.
-/

namespace YourCloud.Controller

open YourCloud.Foundation
open YourCloud.Approval
open YourCloud.Auxiliary
open YourCloud.AuxiliaryReport

/-! ## The report a run renders -/

/-- The report an accepted run renders; a refusal and a death render none. -/
def rendered (conclusion : Conclusion) (accepted : Acceptance) : Input → Option Report
  | .diagnose _ =>
      match conclusion with
      | .died _ => none
      | _ => some (buildAuxiliaryReport accepted)
  | .apply _ _ _ _ =>
      match conclusion with
      | .applied application => some (buildAppliedAuxiliaryReport accepted application)
      | .controlled controlled => some (buildFailedAuxiliaryReport accepted controlled)
      | _ => none

theorem rendered_cases {conclusion : Conclusion} {accepted : Acceptance} {input : Input}
    {report : Report} (h : rendered conclusion accepted input = some report) :
    report = buildAuxiliaryReport accepted ∨
      (∃ application, report = buildAppliedAuxiliaryReport accepted application) ∨
      ∃ controlled, report = buildFailedAuxiliaryReport accepted controlled := by
  cases input with
  | diagnose signed =>
      cases conclusion with
      | died changed => cases h
      | _ => exact Or.inl (Option.some.inj h).symm
  | apply signed plan rollback definition =>
      cases conclusion with
      | applied application => exact Or.inr (Or.inl ⟨application, (Option.some.inj h).symm⟩)
      | controlled controlled => exact Or.inr (Or.inr ⟨controlled, (Option.some.inj h).symm⟩)
      | refused => cases h
      | died changed => cases h

/-- The report is what the process writes on its output. -/
theorem concluded_standardOutput {circumstances : Circumstances} {accepted : Acceptance}
    {input : Input} {report : Report} (directory : StateDirectory)
    (h : rendered circumstances.conclusion accepted input = some report) :
    (concluded circumstances directory accepted input).exit.standardOutput = report.encode := by
  unfold concluded
  unfold rendered at h
  cases input with
  | diagnose signed =>
      cases hc : circumstances.conclusion with
      | died changed =>
          rw [hc] at h
          cases h
      | _ =>
          rw [hc] at h
          obtain rfl := Option.some.inj h
          rfl
  | apply signed plan rollback definition =>
      cases hc : circumstances.conclusion with
      | applied application =>
          rw [hc] at h
          obtain rfl := Option.some.inj h
          rfl
      | controlled controlled =>
          rw [hc] at h
          obtain rfl := Option.some.inj h
          rfl
      | refused =>
          rw [hc] at h
          cases h
      | died changed =>
          rw [hc] at h
          cases h

/-! ## The dispatch of an envelope -/

/-- The record was made for this envelope. -/
structure DispatchOf (record : DispatchRecord) (envelope : Envelope) : Prop where
  machineID : record.machineID = envelope.machineID
  operation : record.operation = envelope.operation.name
  approvalEpoch : record.approvalEpoch = envelope.approvalEpoch
  sequence : record.sequence = envelope.sequence
  planSHA256 : record.planSHA256 = envelope.planSHA256
  rollbackSHA256 : record.rollbackSHA256 = envelope.rollbackSHA256

/-- Every record a submission makes is one. -/
theorem dispatchOf_recordOf (digest : Bytes → Bytes) (approval : Bytes) (envelope : Envelope)
    (now : UInt64) (pinned : Bytes × Bytes) :
    DispatchOf (Submission.recordOf digest approval envelope now pinned) envelope :=
  ⟨rfl, rfl, rfl, rfl, rfl, rfl⟩

/-- The position a machine records for an envelope it accepts. -/
def acceptance (envelope : Envelope) : Acceptance :=
  ⟨envelope, ⟨schemaVersion, envelope.infrastructureID, envelope.machineID,
    envelope.approvalEpoch, envelope.sequence⟩⟩

section Rendered

variable {conclusion : Conclusion} {signed : SignedApproval} {input : Input} {report : Report}

theorem rendered_bounded (h : rendered conclusion (acceptance signed.envelope) input =
    some report) : report.Bounded := by
  have hschema : -2 ^ 63 ≤ Approval.schemaVersion ∧ Approval.schemaVersion < 2 ^ 63 := by decide
  rcases rendered_cases h with rfl | ⟨application, rfl⟩ | ⟨controlled, rfl⟩
  · exact ⟨hschema, signed.epoch_lt, signed.sequence_lt,
      (by decide : (-2 ^ 63 : Int) ≤ 0), (by decide : (0 : Int) < 2 ^ 63)⟩
  · exact ⟨hschema, signed.epoch_lt, signed.sequence_lt,
      application.localPort.le_toInt, application.localPort.toInt_lt⟩
  · exact ⟨hschema, signed.epoch_lt, signed.sequence_lt,
      controlled.localPort.le_toInt, controlled.localPort.toInt_lt⟩

/-- A rendered report still names its dispatch once it was read back. -/
theorem rendered_names {record : DispatchRecord} (hrecord : DispatchOf record signed.envelope)
    (h : rendered conclusion (acceptance signed.envelope) input = some report) :
    Names record signed.envelope.infrastructureID report.sanitize := by
  have hinfrastructure := (canonicalUUIDv4_word signed.infrastructure_canonical).plain.valid
  have hmachine := (canonicalMachine_word signed.machine_canonical).plain.valid
  have hoperation := signed.envelope.operation.name_word.plain.valid
  have hplan := (canonicalDigest_word signed.plan_canonical).plain.valid
  have hrollback := (canonicalDigest_word signed.rollback_canonical).plain.valid
  obtain ⟨h1, h2, h3, h4, h5, h6⟩ := hrecord
  rcases rendered_cases h with rfl | ⟨application, rfl⟩ | ⟨controlled, rfl⟩
  all_goals
    exact ⟨hinfrastructure, hmachine.trans h1.symm, hoperation.trans h2.symm, h3.symm, h4.symm,
      hplan.trans h5.symm, hrollback.trans h6.symm⟩

/-- Its outcome is one the Controller knows. -/
theorem rendered_conclusion (isPrint : Nat → Bool)
    (h : rendered conclusion (acceptance signed.envelope) input = some report) :
    reportedConclusion isPrint report.sanitize = .ok (report.changed, report.outcome) := by
  have known : ∀ r : Report, r.outcome ∈ [[], outcomeApplied, outcomeRolledBack, outcomePartial] →
      reportedConclusion isPrint r.sanitize = .ok (r.changed, r.outcome) := by
    intro r hr
    have hvalid : Foundation.sanitize r.outcome = r.outcome := by
      simp only [List.mem_cons, List.not_mem_nil, or_false] at hr
      rcases hr with hr | hr | hr | hr
      all_goals
        rw [hr]
        decide
    have hsame : r.sanitize.outcome = r.outcome := hvalid
    unfold reportedConclusion
    rw [hsame]
    simp only [List.mem_cons, List.not_mem_nil, or_false] at hr
    by_cases hnil : r.outcome = []
    · rw [if_pos hnil, hnil]
      rfl
    · rw [if_neg hnil, if_pos (hr.resolve_left hnil)]
      rfl
  apply known
  rcases rendered_cases h with rfl | ⟨application, rfl⟩ | ⟨controlled, rfl⟩
  · exact List.mem_cons_self
  · exact List.mem_cons_of_mem _ List.mem_cons_self
  · show controlled.rollback.outcome ∈ _
    cases controlled.rollback with
    | succeeded => exact List.mem_cons_of_mem _ (List.mem_cons_of_mem _ List.mem_cons_self)
    | failed observed =>
        exact List.mem_cons_of_mem _
          (List.mem_cons_of_mem _ (List.mem_cons_of_mem _ List.mem_cons_self))

end Rendered

/-! ## From the session to the record -/

section Session

variable (ed25519Verify : Bytes → Bytes → Bytes → Bool) (isPrint : Nat → Bool)

/-- A session at whose end a machine accepted an approval and rendered a report,
which came back whole. -/
structure Renders (session : Session) (wrapper : Wrapper) (input : Input) (report : Report) :
    Prop where
  unbroken : session.broken = false
  completed : session.transport = .completed wrapper.bytes.length
  run : ∃ circumstances anchor state, session.remote = .auxiliary circumstances ∧
    circumstances.effectiveUserID = 0 ∧ circumstances.anchor = some anchor ∧
    decodeInput wrapper.bytes = some input ∧
    (presentation ed25519Verify circumstances session.directory input.subject anchor
      input.signed).2 = .accepted state ∧
    rendered circumstances.conclusion ⟨input.signed.envelope, state⟩ input = some report

/-- What the record keeps is what the machine wrote, and so is what was read of
the observation. -/
structure Reported (infrastructure : Bytes) (preparation : Preparation) (session : Session)
    (record : DispatchRecord) (wrapper : Wrapper) (report : Report) : Prop where
  concluded : launch ed25519Verify isPrint infrastructure preparation session record wrapper =
    ⟨.reported, [], [], report.changed, report.outcome⟩
  observed : ∃ read, ingestReport record infrastructure
      (boundedAnswer (session.heard ed25519Verify wrapper) maxCommandAnswerBytes) = .ok read ∧
    read.observed = report.observed

variable {ed25519Verify}
variable {session : Session} {record : DispatchRecord} {wrapper : Wrapper} {input : Input}
variable {report : Report}

/-- The machine's report is heard whole, for the envelope that was accepted. -/
theorem Renders.heard (h : Renders ed25519Verify session wrapper input report)
    (hstarted : session.started = true) :
    session.heard ed25519Verify wrapper = report.encode ∧
      ∃ conclusion, rendered conclusion (acceptance input.signed.envelope) input = some report := by
  obtain ⟨-, hcompleted, circumstances, anchor, state, hremote, hroot, hanchor, hinput, haccepted,
    hrendered⟩ := h
  obtain ⟨-, rfl⟩ := presentation_accepted ed25519Verify haccepted
  refine ⟨?_, circumstances.conclusion, hrendered⟩
  have hopen : ¬ (session.started && session.transport.opened) = false := by
    rw [hstarted, hcompleted]
    exact Bool.noConfusion
  unfold Session.heard Session.outcome
  rw [if_neg hopen, hremote, hcompleted]
  show (approve ed25519Verify circumstances session.directory
    (wrapper.bytes.take wrapper.bytes.length)).exit.standardOutput = _
  rw [List.take_length, approve, if_neg (by rw [hroot]; decide), hanchor, hinput]
  simp only [haccepted]
  exact concluded_standardOutput _ hrendered

/-- An answer that is heard at all is held against the dispatch. -/
theorem concludeLaunch_of_answer {infrastructure : Bytes} {result : CommandResult}
    (maxSentence : Nat) (hwrote : result.wroteStandardInput = true) (herr : result.err = false)
    (hne : result.standardOutput ≠ []) :
    concludeLaunch isPrint record infrastructure result maxSentence =
      match ingestReport record infrastructure result.standardOutput with
      | .error reason => unreported reason
      | .ok report =>
          match reportedConclusion isPrint report with
          | .error reason => unreported reason
          | .ok (changed, outcome) => ⟨.reported, [], [], changed, outcome⟩ := by
  have hlength : ¬ result.standardOutput.length = 0 := fun h => hne (List.length_eq_zero_iff.1 h)
  rw [concludeLaunch, if_neg (by rw [hwrote]; decide), if_neg (by rw [herr]; decide),
    if_neg fun h => hlength h.2]
  refine (if_neg fun h => hlength h.2).trans ?_
  cases ingestReport record infrastructure result.standardOutput with
  | error reason => rfl
  | ok report => rfl

/-- The bounded reading of a report: the whole of it, or less. -/
theorem decode_bounded (hbounded : report.Bounded) :
    Json.decode Report.read (boundedAnswer report.encode maxCommandAnswerBytes) =
      if report.json.render.length ≤ maxCommandAnswerBytes then some report.sanitize else none := by
  unfold boundedAnswer Report.encode
  by_cases h : report.json.render.length ≤ maxCommandAnswerBytes
  · rw [if_pos h, List.take_append, List.take_of_length_le h]
    refine Report.decode_render hbounded (List.all_eq_true.2 fun b hb => ?_)
    have hline := (List.take_sublist _ _).subset hb
    obtain rfl := List.mem_singleton.1 hline
    decide
  · rw [if_neg h, List.take_append_of_le_length (by omega)]
    exact report.decode_cut (by omega)

/-- A rendered report is ingested and concluded with what the machine wrote
exactly when it fits the bound of the client and its observation is made of
characters. -/
theorem reported_iff (preparation : Preparation)
    (hlaunched : launched preparation session record wrapper = true)
    (hrecord : DispatchOf record input.signed.envelope)
    (hrenders : Renders ed25519Verify session wrapper input report) :
    Reported ed25519Verify isPrint input.signed.envelope.infrastructureID preparation session
        record wrapper report ↔
      report.json.render.length ≤ maxCommandAnswerBytes ∧
        ∀ observed, report.observed = some observed → ∀ s ∈ observed.texts, Valid s := by
  obtain ⟨result, hlaunch, -, hwrote, herr, hout, -⟩ :=
    launch_of_launched ed25519Verify isPrint input.signed.envelope.infrastructureID preparation
      session record wrapper hlaunched
  have hstarted : session.started = true := by
    rw [launched, Session.handedOver, Bool.and_eq_true, Bool.and_eq_true] at hlaunched
    exact hlaunched.2.1
  obtain ⟨hheard, conclusion, hrendered⟩ := hrenders.heard hstarted
  have hdecode := decode_bounded (rendered_bounded hrendered)
  rw [← hheard] at hdecode
  constructor
  · rintro ⟨-, read, hread, hobserved⟩
    obtain ⟨-, hsome, -⟩ := ingestReport_iff.1 hread
    rw [hdecode] at hsome
    split at hsome
    · rename_i hfits
      obtain rfl := Option.some.inj hsome
      refine ⟨hfits, fun observed ho => Observation.sanitize_eq_iff.1 ?_⟩
      have hmap : report.observed.map Observation.sanitize = report.observed := hobserved
      rw [ho] at hmap
      exact Option.some.inj hmap
    · cases hsome
  · rintro ⟨hfits, hvalid⟩
    rw [if_pos hfits] at hdecode
    have hlength : (boundedAnswer (session.heard ed25519Verify wrapper)
        maxCommandAnswerBytes).length ≤ maxCommandReportBytes := by
      rw [boundedAnswer, List.length_take]
      exact Nat.min_le_left _ _
    have hingest := ingestReport_iff.2 ⟨hlength, hdecode, rendered_names hrecord hrendered⟩
    constructor
    · rw [hlaunch, concludeLaunch_of_answer isPrint _ hwrote (herr.trans hrenders.unbroken), hout,
        hingest]
      · simp only [rendered_conclusion isPrint hrendered]
      · rw [hout, Ne, boundedAnswer_eq_nil, hheard]
        exact List.append_ne_nil_of_right_ne_nil _ (List.cons_ne_nil _ _)
    · refine ⟨_, hingest, ?_⟩
      show report.observed.map Observation.sanitize = report.observed
      cases ho : report.observed with
      | none => rfl
      | some observed =>
          rw [Option.map_some, Observation.sanitize_eq_iff.2 (hvalid observed ho)]

/-- Nothing is concluded reported on a document about something else. -/
theorem launch_named {infrastructure : Bytes} {preparation : Preparation}
    (h : (launch ed25519Verify isPrint infrastructure preparation session record wrapper).state =
      .reported) :
    ∃ report, Json.decode Report.read
        (boundedAnswer (session.heard ed25519Verify wrapper) maxCommandAnswerBytes) = some report ∧
      Names record infrastructure report := by
  cases hl : launched preparation session record wrapper with
  | false =>
      have hstate := (honest_of_not_launched ed25519Verify isPrint infrastructure preparation
        session record wrapper hl).1
      rw [hstate] at h
      cases h
  | true =>
      obtain ⟨result, hlaunch, -, hwrote, herr, hout, -⟩ :=
        launch_of_launched ed25519Verify isPrint infrastructure preparation session record wrapper
          hl
      rw [hlaunch] at h
      cases hb : session.broken with
      | true =>
          rw [concludeLaunch, if_neg (by rw [hwrote]; decide), if_pos (herr.trans hb)] at h
          cases h
      | false =>
          rcases concludeLaunch_cases isPrint infrastructure record
            maxDispatchMachineSentenceBytes hwrote (herr.trans hb) with
            ⟨hstate | hstate, -⟩ | ⟨hstate, -⟩ | ⟨-, -, report, concluded, hi, -⟩
          · rw [hstate] at h
            cases h
          · rw [hstate] at h
            cases h
          · rw [hstate] at h
            cases h
          · rw [hout] at hi
            exact ⟨report, (ingestReport_iff.1 hi).2⟩

variable (ed25519Verify)

/-- No document that names something else than its dispatch is concluded
reported. -/
def Discerning : Prop :=
  ∀ (infrastructure : Bytes) (preparation : Preparation) (session : Session)
    (record : DispatchRecord) (wrapper : Wrapper),
    (launch ed25519Verify isPrint infrastructure preparation session record wrapper).state =
      .reported →
    ∃ report, Json.decode Report.read
        (boundedAnswer (session.heard ed25519Verify wrapper) maxCommandAnswerBytes) = some report ∧
      Names record infrastructure report

variable {ed25519Verify}

/-- A rendered report is concluded with what the machine wrote, and no other
document is, exactly when the report fits and its observation is made of
characters. -/
theorem report_concluded_iff (preparation : Preparation)
    (hlaunched : launched preparation session record wrapper = true)
    (hrecord : DispatchOf record input.signed.envelope)
    (hrenders : Renders ed25519Verify session wrapper input report) :
    (Reported ed25519Verify isPrint input.signed.envelope.infrastructureID preparation session
          record wrapper report ∧
        Discerning ed25519Verify isPrint) ↔
      report.json.render.length ≤ maxCommandAnswerBytes ∧
        ∀ observed, report.observed = some observed → ∀ s ∈ observed.texts, Valid s := by
  rw [reported_iff isPrint preparation hlaunched hrecord hrenders]
  exact and_iff_left fun _ _ _ _ _ => launch_named isPrint

end Session

/-! ## A machine that holds many archives -/

/-- An approved snapshot of a fixed machine. -/
def snapshotApproval : SignedApproval where
  envelope :=
    { sampleEnvelope 1 with
      operation := .snapshotService, privileges := requiredPrivileges .snapshotService }
  signature := List.replicate 86 0x41
  validated := by decide
  canonicalSignature := sampleFirst.canonicalSignature

def snapshotWrapper : Wrapper where
  signedApproval := snapshotApproval.json
  plan := text "plan"
  rollback := text "rollback"
  definition := []
  wellFormed := by decide

def snapshotInput : Input := .apply snapshotApproval (text "plan") (text "rollback") none

/-- What the machine reports beside the archives it holds. -/
def snapshotApplication (slots : List Bytes) : Application where
  operation := text "snapshot_service"
  localPort := 0
  unitPath := []
  routeHost := []
  fragmentPath := []
  serviceState := []
  linkPublicKey := []
  dataPath := text "/var/lib/your-cloud-vault/data"
  secretsPath := []
  snapshotSlot := text "first"
  previousSlot := []
  archiveSHA256 := List.replicate 64 0x30
  archivedAt := text "1970-01-01T00:00:01Z"
  snapshotSlots := slots
  passageState := []
  changed := true

def snapshotCircumstances (slots : List Bytes) : Circumstances where
  effectiveUserID := 0
  anchor := some sampleAnchor
  nowUnixSeconds := 1
  lockable := true
  readable := true
  stop := none
  conclusion := .applied (snapshotApplication slots)
  sentence := []

def snapshotSession (slots : List Bytes) : Session where
  started := true
  written := snapshotWrapper.bytes.length
  closed := true
  waitFailed := false
  transport := .completed snapshotWrapper.bytes.length
  diagnostics := []
  remote := .auxiliary (snapshotCircumstances slots)
  directory := ⟨none, none⟩
  received_le := Nat.le_refl _

def snapshotReport (slots : List Bytes) : Report :=
  buildAppliedAuxiliaryReport (acceptance snapshotApproval.envelope) (snapshotApplication slots)

def snapshotRecord : DispatchRecord :=
  Submission.recordOf sha256Hex snapshotApproval.json.render snapshotApproval.envelope 1 ([], [])

private theorem snapshot_record : DispatchOf snapshotRecord snapshotInput.signed.envelope :=
  dispatchOf_recordOf ..

/-- A key holds whatever is signed. -/
def trusting : Bytes → Bytes → Bytes → Bool := fun _ _ _ => true

private theorem snapshot_renders (slots : List Bytes) :
    Renders trusting (snapshotSession slots) snapshotWrapper snapshotInput
      (snapshotReport slots) := by
  refine ⟨rfl, rfl, snapshotCircumstances slots, sampleAnchor, _, rfl, rfl, rfl, ?_, ?_, rfl⟩
  · decide +kernel
  · show (presentation trusting (snapshotCircumstances []) ⟨none, none⟩ .mutating sampleAnchor
      snapshotApproval).2 = .accepted (acceptance snapshotApproval.envelope).state
    decide +kernel

private theorem snapshot_launched (slots : List Bytes) :
    launched ⟨true, true, 1, true⟩ (snapshotSession slots) snapshotRecord snapshotWrapper =
      true := by
  show launched ⟨true, true, 1, true⟩ (snapshotSession []) snapshotRecord snapshotWrapper = true
  decide +kernel

/-- A machine that holds one archive is reported. -/
theorem report_concluded_first :
    Reported trusting (fun _ => true) snapshotApproval.envelope.infrastructureID
        ⟨true, true, 1, true⟩ (snapshotSession [text "first"]) snapshotRecord snapshotWrapper
        (snapshotReport [text "first"]) ∧
      Discerning trusting (fun _ => true) :=
  (report_concluded_iff (fun _ => true) ⟨true, true, 1, true⟩ (snapshot_launched _)
    snapshot_record (snapshot_renders _)).2
    ⟨by decide +kernel, fun observed h => by cases h⟩

/-- The slots of a machine that was snapshotted every day for years, each named
with thirty-two bytes. -/
def manySlots : List Bytes :=
  (List.range 3000).map fun n => List.replicate 28 0x61 ++ decimal (1000 + n)

/-- A report is no shorter than the list of the archives it names. -/
theorem slots_length_le {r : Report} (h : r.snapshotSlots ≠ []) :
    (r.snapshotSlots.map fun s => (quote true s).length + 2).sum ≤ r.json.render.length := by
  have hfield : r.fields[22]? = some (text "snapshot_slots",
      if r.snapshotSlots = [] then none else some (textsJson r.snapshotSlots)) := rfl
  rw [if_neg h] at hfield
  have hmember : (text "snapshot_slots", textsJson r.snapshotSlots) ∈ Json.present r.fields :=
    List.mem_filterMap.2 ⟨_, List.mem_of_getElem? hfield, rfl⟩
  refine le_trans ?_ (Json.render_length_member hmember)
  refine le_trans (Nat.le_of_eq ?_) (Json.render_length_elements _)
  rw [List.map_map]
  refine congrArg List.sum (List.map_congr_left fun s _ => ?_)
  simp [Json.quoted, Json.render, AuxiliaryReport.escapeHTML]

/-- Three thousand names of twenty-eight bytes do not fit. -/
private theorem snapshotReport_length {slots : List Bytes} (hlength : slots.length = 3000)
    (hslots : ∀ s ∈ slots, Word s ∧ 28 ≤ s.length) :
    maxCommandAnswerBytes < (snapshotReport slots).json.render.length := by
  have hsum := List.card_nsmul_le_sum (slots.map fun s => (quote true s).length + 2) 30 (by
    intro l hl
    obtain ⟨s, hs, rfl⟩ := List.mem_map.1 hl
    obtain ⟨hword, hlen⟩ := hslots s hs
    rw [hword.quote]
    omega)
  have hne : slots ≠ [] := by
    rintro rfl
    cases hlength
  have hle : (slots.map fun s => (quote true s).length + 2).sum ≤
      (snapshotReport slots).json.render.length := slots_length_le (r := snapshotReport slots) hne
  rw [List.length_map, hlength, nsmul_eq_mul] at hsum
  have hbound : maxCommandAnswerBytes = 65536 := rfl
  omega

private theorem manySlots_length :
    maxCommandAnswerBytes < (snapshotReport manySlots).json.render.length := by
  refine snapshotReport_length (by rw [manySlots, List.length_map, List.length_range]) ?_
  intro s hs
  obtain ⟨n, -, rfl⟩ := List.mem_map.1 hs
  constructor
  · intro b hb
    rcases List.mem_append.1 hb with hb | hb
    · obtain rfl := List.eq_of_mem_replicate hb
      decide
    · exact isDigit_word (decimal_digits _ b hb)
  · rw [List.length_append, List.length_replicate]
    omega

/-- The archives a machine holds have no bound, and the report names them all. -/
theorem report_past_the_bound :
    ¬ ∀ (ed25519Verify : Bytes → Bytes → Bytes → Bool) (isPrint : Nat → Bool)
        (preparation : Preparation) (session : Session) (record : DispatchRecord)
        (wrapper : Wrapper) (input : Input) (report : Report),
      launched preparation session record wrapper = true →
      DispatchOf record input.signed.envelope →
      Renders ed25519Verify session wrapper input report →
      Reported ed25519Verify isPrint input.signed.envelope.infrastructureID preparation session
          record wrapper report ∧
        Discerning ed25519Verify isPrint := by
  intro h
  have hreported := h trusting (fun _ => true) _ _ _ _ _ _ (snapshot_launched manySlots)
    snapshot_record (snapshot_renders manySlots)
  have hfits := ((reported_iff (fun _ => true) _ (snapshot_launched manySlots)
    snapshot_record (snapshot_renders manySlots)).1 hreported.1).1
  exact absurd hfits (Nat.not_le.2 manySlots_length)

end YourCloud.Controller
