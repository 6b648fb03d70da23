import YourCloud.Controller.DispatchHistory
import YourCloud.Foundation.JsonSize
import Mathlib.Algebra.Order.BigOperators.Group.List
import Mathlib.Algebra.Module.NatInt

/-!
# The listing of dispatches

The App reads every record the registry holds in one answer.  The records are bounded in
number and in what each may hold; an answer of the Controller is bounded on its own, and
what does not fit it is answered with a problem.

## Main results

* `sorted_stable` — the records stand in the order of their instants, in every run.
* `view_size` — how long the answer is.
* `listed_iff` — in every reachable state, the listing answers exactly where the records fit.
-/

namespace YourCloud.Controller.DispatchListing

open YourCloud.Foundation
open YourCloud.Foundation.Json (size fieldSize)
open YourCloud.Approval (canonicalDigest canonicalMachine canonicalUUIDv4)
open YourCloud.Controller.DispatchHistory (Event step Stable)

/-! ## The answer -/

def maxControllerResponseBytes : Nat := 128 * 1024

def planApprovalSchema : Int := 1

/-- One dispatch as the App reads it. -/
structure PlanDispatchEntry where
  approvalSHA256 : Bytes
  machineID : Bytes
  operation : Bytes
  approvalEpoch : Nat
  sequence : Nat
  planSHA256 : Bytes
  rollbackSHA256 : Bytes
  state : DispatchState
  acceptedAtUnix : Nat
  finishedAtUnix : Nat
  expiresAtUnix : Nat
  machineSentence : Bytes
  controllerObservation : Bytes
  definitionSlug : Bytes
  definitionSHA256 : Bytes
  reportedChanged : Bool
  reportedOutcome : Bytes

def dispatchEntryOf (record : DispatchRecord) : PlanDispatchEntry where
  approvalSHA256 := record.approvalSHA256
  machineID := record.machineID
  operation := record.operation
  approvalEpoch := record.approvalEpoch
  sequence := record.sequence
  planSHA256 := record.planSHA256
  rollbackSHA256 := record.rollbackSHA256
  state := record.state
  acceptedAtUnix := record.acceptedAtUnix
  finishedAtUnix := record.finishedAtUnix
  expiresAtUnix := record.expiresAtUnix
  machineSentence := record.machineSentence
  controllerObservation := record.controllerObservation
  definitionSlug := record.definitionSlug
  definitionSHA256 := record.definitionSHA256
  reportedChanged := record.reportedChanged
  reportedOutcome := record.reportedOutcome

def PlanDispatchEntry.fields (entry : PlanDispatchEntry) : List (Bytes × Option Json) :=
  [(text "approval_sha256", some (Json.quoted escapeHTML entry.approvalSHA256)),
    (text "machine_id", some (Json.quoted escapeHTML entry.machineID)),
    (text "operation", some (Json.quoted escapeHTML entry.operation)),
    (text "approval_epoch", some (Json.numeral entry.approvalEpoch)),
    (text "sequence", some (Json.numeral entry.sequence)),
    (text "plan_sha256", some (Json.quoted escapeHTML entry.planSHA256)),
    (text "rollback_sha256", some (Json.quoted escapeHTML entry.rollbackSHA256)),
    (text "state", some (Json.quoted escapeHTML entry.state.name)),
    (text "accepted_at_unix", some (Json.numeral entry.acceptedAtUnix)),
    (text "finished_at_unix", some (Json.numeral entry.finishedAtUnix)),
    (text "expires_at_unix", some (Json.numeral entry.expiresAtUnix)),
    (text "machine_sentence", some (Json.quoted escapeHTML entry.machineSentence)),
    (text "controller_observation", some (Json.quoted escapeHTML entry.controllerObservation)),
    (text "definition_slug", some (Json.quoted escapeHTML entry.definitionSlug)),
    (text "definition_sha256", some (Json.quoted escapeHTML entry.definitionSHA256)),
    (text "reported_changed", some (.bool entry.reportedChanged)),
    (text "reported_outcome", some (Json.quoted escapeHTML entry.reportedOutcome))]

def PlanDispatchEntry.json (entry : PlanDispatchEntry) : Json :=
  .object (Json.present entry.fields)

/-- The bounded history, every machine together. -/
structure PlanDispatchesView where
  schemaVersion : Int
  dispatches : List PlanDispatchEntry

def PlanDispatchesView.fields (view : PlanDispatchesView) : List (Bytes × Option Json) :=
  [(text "schema_version", some (Json.numeralInt view.schemaVersion)),
    (text "dispatches", some (.array (view.dispatches.map PlanDispatchEntry.json)))]

def PlanDispatchesView.encode (view : PlanDispatchesView) : Bytes :=
  (Json.object (Json.present view.fields)).render

inductive Response where
  | json (status : Nat) (encoded : Bytes)
  | problem (status : Nat) (code : Bytes)
  deriving DecidableEq

def writeJSON (status : Nat) (encoded : Bytes) : Response :=
  if maxControllerResponseBytes < encoded.length then
    .problem 503 (text "controller_state_unavailable")
  else .json status encoded

/-- What a request for the listing is found to be. -/
structure ListingRequest where
  authenticated : Bool
  contentType : Bytes
  emptyBody : Bool
  /-- The session is still there once the registry was read. -/
  touched : Bool

def servePlanDispatches (request : ListingRequest) (registry : DispatchRegistry) : Response :=
  if request.authenticated = false then .problem 401 (text "authentication_failed")
  else if request.contentType ≠ [] then .problem 415 (text "unsupported_media_type")
  else if request.emptyBody = false then .problem 413 (text "request_too_large")
  else
    let view : PlanDispatchesView := ⟨planApprovalSchema, registry.records.map dispatchEntryOf⟩
    if request.touched = false then .problem 401 (text "authentication_failed")
    else writeJSON 200 view.encode

/-- A request that nothing is said against. -/
def ListingRequest.Proper (request : ListingRequest) : Prop :=
  request.authenticated = true ∧ request.contentType = [] ∧ request.emptyBody = true ∧
    request.touched = true

/-- An answer that lists every record of a registry once, the oldest first. -/
def Lists (registry : DispatchRegistry) (response : Response) : Prop :=
  ∃ dispatches : List PlanDispatchEntry,
    response = .json 200 (PlanDispatchesView.encode ⟨planApprovalSchema, dispatches⟩) ∧
    dispatches.Perm (registry.records.map dispatchEntryOf) ∧
    dispatches.Pairwise fun left right => left.acceptedAtUnix ≤ right.acceptedAtUnix

/-! ## Order -/

/-- Records that stand in the order of their instants. -/
structure Sorted (registry : DispatchRegistry) : Prop where
  bounded : ∀ record ∈ registry.records, record.Bounded
  instants : registry.records.Pairwise fun left right =>
    left.acceptedAtUnix ≤ right.acceptedAtUnix

/-- Every trimming sorts. -/
theorem bound_pairwise (records : List DispatchRecord) :
    (boundDispatchRecords records).Pairwise fun left right =>
      left.acceptedAtUnix ≤ right.acceptedAtUnix := by
  have : Std.Total fun left right : DispatchRecord =>
      left.acceptedAtUnix ≤ right.acceptedAtUnix := ⟨fun _ _ => Nat.le_total _ _⟩
  have : IsTrans DispatchRecord fun left right =>
      left.acceptedAtUnix ≤ right.acceptedAtUnix := ⟨fun _ _ _ => Nat.le_trans⟩
  exact List.pairwise_insertionSort _ _

theorem sorted_stable (controllerID infrastructureID : Bytes) :
    Stable controllerID infrastructureID (fun _ _ => True) (fun _ registry => Sorted registry) where
  bounded := fun _ _ h => h.bounded
  empty := fun _ => ⟨List.forall_mem_nil _, List.Pairwise.nil⟩
  accept := by
    intro s record outcome registry candidate _ h _ _ hcandidate _
    obtain ⟨-, hrecords⟩ := accept_cases hcandidate
    rw [hrecords]
    refine ⟨?_, bound_pairwise _⟩
    intro other hother
    have hmem := List.mem_append.1 (mem_of_mem_bound hother)
    cases hmem with
    | inl hheld => exact h.bounded other hheld
    | inr hnew =>
        rw [List.mem_singleton.1 hnew]
        exact record.2
  conclude := by
    intro accepted registry candidate approvalSHA256 conclusion finished h hcandidate
    obtain ⟨-, records, hfirst, hrecords⟩ := conclude_cases hcandidate
    rw [hrecords]
    refine ⟨?_, bound_pairwise _⟩
    intro other hother
    have hmem := mem_of_mem_bound hother
    rw [DispatchHistory.concludeFirst_settle hfirst] at hmem
    exact DispatchHistory.settle_bounded _ _ finished h.bounded other hmem
  reread := by
    intro accepted registry h _ _
    constructor
    · exact List.forall_mem_map.2 fun record hrecord => (h.bounded record hrecord).sanitize
    · exact List.pairwise_map.2 h.instants
  requalified := by
    intro s outcome data registry accepted _ _ h _ _ _ _
    constructor
    · exact List.forall_mem_map.2 fun record hrecord => (h.bounded record hrecord).requalified
    · show (registry.records.map DispatchRecord.requalified).Pairwise _
      rw [List.pairwise_map]
      simp only [DispatchHistory.requalified_acceptedAtUnix]
      exact h.instants

/-! ## Size -/

/-- What a record takes of the answer, with the sign that parts it from the next one: each field
takes its name, its value and four signs. -/
def recordSize (record : DispatchRecord) : Nat := (record.fields.map fieldSize).sum + 2

/-- What the records of a registry take of the answer. -/
def recordsSize (registry : DispatchRegistry) : Nat := (registry.records.map recordSize).sum

theorem entry_size (record : DispatchRecord) :
    size (dispatchEntryOf record).json + 1 = recordSize record := by
  have hsize : size (dispatchEntryOf record).json =
      (((dispatchEntryOf record).fields).map fieldSize).sum + 1 := Json.size_record_cons ..
  rw [hsize]
  rfl

/-- What a record can take: six signs for each byte of its texts. -/
theorem recordSize_le {record : DispatchRecord} (h : record.Bounded) :
    recordSize record ≤ 6 * (record.approvalSHA256.length + record.machineID.length +
      record.operation.length + record.planSHA256.length + record.rollbackSHA256.length +
      record.machineSentence.length + record.controllerObservation.length +
      record.definitionSlug.length + record.definitionSHA256.length +
      record.reportedOutcome.length) + 600 := by
  have htext (s : Bytes) := Json.size_quoted_le escapeHTML s
  have hnumber {n : Nat} (hn : n < 2 ^ 64) : size (Json.numeral n) ≤ 20 :=
    Json.size_numeral_le (by omega) (by omega)
  have hstate : record.state.name.length ≤ 19 := by
    cases record.state <;> decide
  have hbool : size (.bool record.reportedChanged) ≤ 5 := by
    cases record.reportedChanged <;> decide
  have hname := htext record.state.name
  have hepoch := hnumber h.approvalEpoch
  have hsequence := hnumber h.sequence
  have haccepted := hnumber h.acceptedAtUnix
  have hfinished := hnumber h.finishedAtUnix
  have hexpires := hnumber h.expiresAtUnix
  have hsha := htext record.approvalSHA256
  have hmachine := htext record.machineID
  have hoperation := htext record.operation
  have hplan := htext record.planSHA256
  have hrollback := htext record.rollbackSHA256
  have hsentence := htext record.machineSentence
  have hobservation := htext record.controllerObservation
  have hslug := htext record.definitionSlug
  have hdefinition := htext record.definitionSHA256
  have houtcome := htext record.reportedOutcome
  have hnames : (recordFields.map List.length).sum = 236 := by decide
  simp only [recordFields, List.map_cons, List.map_nil, List.sum_cons, List.sum_nil] at hnames
  simp only [recordSize, DispatchRecord.fields, List.map_cons, List.map_nil, List.sum_cons,
    List.sum_nil, Json.fieldSize_some]
  omega

/-- The head takes 34 signs, and the array two more. -/
theorem view_size {registry : DispatchRegistry} (h : registry.records ≠ []) :
    (PlanDispatchesView.encode ⟨planApprovalSchema,
      registry.records.map dispatchEntryOf⟩).length = 35 + recordsSize registry := by
  have harray : size (.array ((registry.records.map dispatchEntryOf).map PlanDispatchEntry.json)) =
      recordsSize registry + 1 := by
    rw [List.map_map, Json.size_array (PlanDispatchEntry.json ∘ dispatchEntryOf) h]
    simp only [Function.comp_apply, entry_size]
    rfl
  have hencoded : (PlanDispatchesView.encode ⟨planApprovalSchema,
      registry.records.map dispatchEntryOf⟩).length =
        ((PlanDispatchesView.fields ⟨planApprovalSchema,
          registry.records.map dispatchEntryOf⟩).map fieldSize).sum + 1 :=
    Json.size_record_cons ..
  have hname : (text "schema_version").length = 14 := rfl
  have hdispatches : (text "dispatches").length = 10 := rfl
  have hschema : size (Json.numeralInt planApprovalSchema) = 1 := rfl
  rw [hencoded]
  simp only [PlanDispatchesView.fields, List.map_cons, List.map_nil, List.sum_cons, List.sum_nil,
    Json.fieldSize_some, harray, hname, hdispatches, hschema]
  omega

/-- What a proper request is answered: whether the records fit decides. -/
theorem servePlanDispatches_proper {request : ListingRequest} (h : request.Proper)
    (registry : DispatchRegistry) :
    servePlanDispatches request registry =
      if recordsSize registry ≤ 131037 then
        .json 200 (PlanDispatchesView.encode
          ⟨planApprovalSchema, registry.records.map dispatchEntryOf⟩)
      else .problem 503 (text "controller_state_unavailable") := by
  obtain ⟨hauthenticated, hcontent, hempty, htouched⟩ := h
  have hanswer : servePlanDispatches request registry = writeJSON 200
      (PlanDispatchesView.encode ⟨planApprovalSchema, registry.records.map dispatchEntryOf⟩) := by
    simp [servePlanDispatches, hauthenticated, hcontent, hempty, htouched]
  have hbound : maxControllerResponseBytes = 131037 + 35 := rfl
  rw [hanswer, writeJSON]
  by_cases hnone : registry.records = []
  · have hsize : recordsSize registry = 0 := by
      rw [recordsSize, hnone]
      rfl
    rw [hnone, hsize]
    decide
  · rw [view_size hnone]
    by_cases hfits : recordsSize registry ≤ 131037
    · rw [if_neg (by omega), if_pos hfits]
    · rw [if_pos (by omega), if_neg hfits]

open YourCloud.Controller.DispatchHistory (sampleController sampleInfrastructure sampleRecord)

def refusal : DispatchConclusion :=
  ⟨.machineRefused, List.replicate maxDispatchMachineSentenceBytes 0x3C, [], false, []⟩

def refusedDigest (n : Nat) : Bytes := hexEncode (bigEndian 32 n)

/-- The record of the nth approval: the first 32 are of one machine. -/
def refusedRecord (n : Nat) : DispatchRecord :=
  { sampleRecord 0 (UInt64.ofNat (n + 1)) with
    approvalSHA256 := refusedDigest n
    machineID := if n < 32 then text "lab-machine-1" else text "lab-machine-2" }

def concludedRecord (n : Nat) : DispatchRecord :=
  (refusedRecord n).concluded refusal (UInt64.ofNat (n + 1)).toNat

theorem refusedRecord_fields (n : Nat) :
    (refusedRecord n).approvalSHA256 = refusedDigest n ∧ (refusedRecord n).state = .inFlight := by
  simp only [refusedRecord, sampleRecord, and_self]

theorem concludedRecord_fields (n : Nat) :
    (concludedRecord n).approvalSHA256 = refusedDigest n ∧
      (concludedRecord n).machineID = (refusedRecord n).machineID ∧
      (concludedRecord n).acceptedAtUnix = (refusedRecord n).acceptedAtUnix ∧
      (concludedRecord n).terminal = true := by
  simp [concludedRecord, DispatchRecord.concluded, refusedRecord, DispatchRecord.terminal, refusal]

theorem refusedRecord_bounded (n : Nat) : (refusedRecord n).Bounded := by
  obtain ⟨hepoch, hsequence, haccepted, hfinished, hexpires⟩ :=
    (DispatchHistory.sampleAccepted 0 (UInt64.ofNat (n + 1))).2
  exact ⟨hepoch, hsequence, haccepted, hfinished, hexpires⟩

/-- A dispatch accepted, and refused by its machine. -/
def refusedRound (n : Nat) : List Event :=
  [.accept ⟨refusedRecord n, refusedRecord_bounded n⟩ .written,
    .conclude (refusedDigest n) refusal (UInt64.ofNat (n + 1)) .written]

def refusedRun (n : Nat) : List Event := .reopen .written :: (List.range n).flatMap refusedRound

def refusedRecords (n : Nat) : List DispatchRecord := (List.range n).map concludedRecord

def refusedRegistry (records : List DispatchRecord) : DispatchRegistry :=
  ⟨dispatchRegistrySchema, sampleController, sampleInfrastructure, records⟩

theorem refusedRecord_instant {n : Nat} (h : n < 43) : (refusedRecord n).acceptedAtUnix = n + 1 := by
  show (UInt64.ofNat (n + 1)).toNat = n + 1
  exact UInt64.toNat_ofNat_of_lt' (by
    show n + 1 < 2 ^ 64
    omega)

theorem refusedDigest_canonical (n : Nat) : canonicalDigest (refusedDigest n) = true := by
  rw [canonicalDigest, exactly, refusedDigest, hexEncode_lower, hexEncode_length, bigEndian_length]
  rfl

theorem refusedRecord_machine (n : Nat) :
    canonicalMachine (refusedRecord n).machineID = true := by
  show canonicalMachine (if n < 32 then _ else _) = true
  split
  · decide
  · decide

/-- A refusal of the longest sentence leaves a valid record. -/
theorem concluded_valid {record : DispatchRecord} {finished : Nat} (h : record.validate = true) :
    (record.concluded refusal finished).validate = true := by
  rw [DispatchRecord.validate_iff] at h ⊢
  obtain ⟨hsha, hplan, hrollback, hmachine, hnumbers, hmatches, hwindow, -, -, -, hinstant, -⟩ := h
  refine ⟨hsha, hplan, hrollback, hmachine, hnumbers, hmatches, hwindow,
    Nat.le_of_eq List.length_replicate, Nat.zero_le _, Or.inr rfl, hinstant, ?_⟩
  intro hstate
  cases hstate

/-- Each of the records is valid, open or concluded. -/
theorem refused_valid {n : Nat} (h : n < 43) :
    (refusedRecord n).validate = true ∧ (concludedRecord n).validate = true := by
  have hfixed : canonicalDigest (List.replicate 64 0x61) = true ∧
      canonicalDigest (List.replicate 64 0x62) = true := by decide
  have hpinned : text "deploy_service" ≠ text "deploy_user_service" ∧
      text "deploy_service" ≠ text "remove_user_service" := by decide
  have hmatches : (refusedRecord n).definitionMatches = true := by
    simp [DispatchRecord.definitionMatches, DispatchRecord.pinned, refusedRecord, sampleRecord,
      hpinned]
  have hopen : (refusedRecord n).validate = true := by
    rw [DispatchRecord.validate_iff, refusedRecord_instant h]
    have hmachine := refusedRecord_machine n
    simp only [refusedRecord, sampleRecord] at hmachine hmatches ⊢
    have hoperation : text "deploy_service" ≠ [] := by decide
    refine ⟨refusedDigest_canonical n, hfixed.1, hfixed.2, hmachine, ?_, hmatches, by omega, ?_, ?_,
      Or.inl trivial, by omega, fun _ => trivial⟩
    · simp [hoperation]
    · simp
    · simp
  exact ⟨hopen, concluded_valid hopen⟩

/-- No machine has more than 32 of the records. -/
theorem refused_few (machineID : Bytes) {n : Nat} (hn : n ≤ 43) :
    (List.range n).countP (fun k => (refusedRecord k).machineID = machineID) ≤ 32 := by
  have hall : (List.range 43).countP (fun k => (refusedRecord k).machineID = machineID) ≤ 32 := by
    have hname (k : Nat) : (refusedRecord k).machineID =
        if k < 32 then text "lab-machine-1" else text "lab-machine-2" := rfl
    by_cases hmachine : machineID = text "lab-machine-1"
    · have hold : (List.range 43).countP (fun k => k < 32) ≤ 32 := by decide
      refine (List.countP_mono_left fun k _ hk => ?_).trans hold
      simp only [hname, hmachine, decide_eq_true_eq] at hk ⊢
      by_contra hlate
      rw [if_neg hlate] at hk
      exact absurd hk (by decide)
    · have hlate : (List.range 43).countP (fun k => 32 ≤ k) ≤ 32 := by decide
      refine (List.countP_mono_left fun k _ hk => ?_).trans hlate
      simp only [hname, decide_eq_true_eq] at hk ⊢
      by_contra hold
      rw [if_pos (by omega)] at hk
      exact hmachine hk.symm
  exact ((List.range_sublist.2 hn).countP_le).trans hall

/-- Records of the two machines, each at its instant: no trimming changes them. -/
theorem refused_untrimmed {records : List DispatchRecord} {n : Nat} (hn : n ≤ 43)
    (hmachines : records.map DispatchRecord.machineID =
      (List.range n).map fun k => (refusedRecord k).machineID)
    (hinstants : records.map DispatchRecord.acceptedAtUnix = (List.range n).map (· + 1)) :
    boundDispatchRecords records = records := by
  have hgrowing : DispatchHistory.Growing records := by
    have hrange : ((List.range n).map (· + 1)).Pairwise (· < ·) :=
      List.pairwise_map.2 (List.pairwise_lt_range.imp fun hlt => Nat.add_lt_add_right hlt 1)
    rw [← hinstants] at hrange
    exact List.pairwise_map.1 hrange
  have hfew (machineID : Bytes) :
      records.countP (fun record => record.machineID = machineID) ≤ 32 := by
    have hcount := congrArg (List.countP fun name => name = machineID) hmachines
    rw [List.countP_map, List.countP_map] at hcount
    exact (Nat.le_of_eq hcount).trans (refused_few machineID hn)
  rw [DispatchHistory.boundDispatchRecords_eq hgrowing]
  apply Retention.retained_of_few
  intro machineID
  refine (List.countP_mono_left fun record _ hrecord => ?_).trans (hfew machineID)
  simp only [Bool.and_eq_true] at hrecord
  exact hrecord.2

theorem concludeFirst_append {approvalSHA256 : Bytes} (conclusion : DispatchConclusion)
    (finished : Nat) {before : List DispatchRecord} {record : DispatchRecord}
    (hbefore : ∀ other ∈ before, other.approvalSHA256 ≠ approvalSHA256)
    (hsame : record.approvalSHA256 = approvalSHA256) (hopen : record.terminal = false) :
    concludeFirst approvalSHA256 conclusion finished (before ++ [record]) =
      some (before ++ [record.concluded conclusion finished]) := by
  induction before with
  | nil => simp [concludeFirst, hsame, hopen]
  | cons other before ih =>
      rw [List.forall_mem_cons] at hbefore
      rw [List.cons_append, concludeFirst, if_pos hbefore.1, ih hbefore.2]
      rfl

/-- How long the file is. -/
theorem encode_length_le (records : List DispatchRecord) :
    (refusedRegistry records).encode.length ≤ recordsSize (refusedRegistry records) + 600 := by
  have harray : size (.array (records.map DispatchRecord.json)) ≤
      recordsSize (refusedRegistry records) + 2 := by
    by_cases hnone : records = []
    · rw [hnone]
      exact Nat.le_add_left _ _
    · have hsize (record : DispatchRecord) : size record.json + 1 = recordSize record := by
        have hrecord : size record.json = (record.fields.map fieldSize).sum + 1 :=
          Json.size_record_cons ..
        rw [hrecord]
        rfl
      rw [Json.size_array DispatchRecord.json hnone]
      simp only [hsize]
      exact Nat.le_succ _
  have hencoded : (refusedRegistry records).encode.length =
      ((refusedRegistry records).fields.map fieldSize).sum + 1 := Json.size_record_cons ..
  have hcontroller := Json.size_quoted_le escapeHTML sampleController
  have hinfrastructure := Json.size_quoted_le escapeHTML sampleInfrastructure
  have hschema : size (Json.numeralInt dispatchRegistrySchema) = 1 := rfl
  have hlengths : sampleController.length = 36 ∧ sampleInfrastructure.length = 36 ∧
      (registryFields.map List.length).sum = 51 := by decide
  simp only [registryFields, List.map_cons, List.map_nil, List.sum_cons, List.sum_nil] at hlengths
  rw [hencoded]
  simp only [DispatchRegistry.fields, refusedRegistry, List.map_cons, List.map_nil, List.sum_cons,
    List.sum_nil, Json.fieldSize_some, hschema]
  rw [refusedRegistry] at harray
  omega

/-- A valid registry whose records take little is written. -/
theorem commit_written {store : Store} {records : List DispatchRecord}
    (hvalid : (refusedRegistry records).validate = true)
    (hsmall : recordsSize (refusedRegistry records) ≤ 300000) :
    store.commit .written (some (refusedRegistry records)) =
      (⟨some (refusedRegistry records), some (refusedRegistry records).encode⟩, true) := by
  have hwritable : (refusedRegistry records).writable = true := by
    have hlength := encode_length_le records
    rw [writable_iff, maxDispatchStateBytes]
    exact ⟨hvalid, by omega⟩
  rw [Store.commit, persist, if_pos hwritable]
  rfl

theorem refused_size (n : Nat) :
    recordSize (refusedRecord n) ≤ 5100 ∧ recordSize (concludedRecord n) ≤ 5100 := by
  have hmachine : (if n < 32 then text "lab-machine-1" else text "lab-machine-2").length = 13 := by
    split
    · rfl
    · rfl
  have hdigest : (refusedDigest n).length = 64 := by
    rw [refusedDigest, hexEncode_length, bigEndian_length]
  have hoperation : (text "deploy_service").length = 14 := rfl
  have hopen := recordSize_le (refusedRecord_bounded n)
  have hbounded : (concludedRecord n).Bounded := by
    obtain ⟨hepoch, hsequence, haccepted, -, hexpires⟩ := refusedRecord_bounded n
    exact ⟨hepoch, hsequence, haccepted, UInt64.toNat_lt _, hexpires⟩
  have hclosed := recordSize_le hbounded
  constructor
  · refine hopen.trans ?_
    simp only [refusedRecord, sampleRecord, hmachine, hdigest, hoperation, List.length_replicate,
      List.length_nil]
    omega
  · refine hclosed.trans ?_
    simp only [concludedRecord, DispatchRecord.concluded, refusedRecord, sampleRecord, hmachine,
      hdigest, hoperation, refusal, maxDispatchMachineSentenceBytes, List.length_replicate,
      List.length_nil]
    omega

/-- What stands after so many rounds, and at most one record that is open. -/
theorem refused_commit (store : Store) {n : Nat} (hn : n ≤ 43) (more : List DispatchRecord)
    (hmore : ∀ record ∈ more, record.validate = true ∧ recordSize record ≤ 5100)
    (hone : more.length ≤ 1) (hnodup : (DispatchRegistry.openDigests more).Nodup) :
    store.commit .written (some (refusedRegistry (refusedRecords n ++ more))) =
      (⟨some (refusedRegistry (refusedRecords n ++ more)),
        some (refusedRegistry (refusedRecords n ++ more)).encode⟩, true) := by
  have hclosed : DispatchRegistry.openDigests (refusedRecords n) = [] := by
    rw [DispatchRegistry.openDigests, List.map_eq_nil_iff, List.filter_eq_nil_iff]
    intro record hrecord
    obtain ⟨k, -, hsame⟩ := List.mem_map.1 hrecord
    rw [← hsame, (concludedRecord_fields k).2.2.2]
    decide
  have hdigests : DispatchRegistry.openDigests (refusedRecords n ++ more) =
      DispatchRegistry.openDigests more := by
    have happend : DispatchRegistry.openDigests (refusedRecords n ++ more) =
        DispatchRegistry.openDigests (refusedRecords n) ++ DispatchRegistry.openDigests more := by
      simp [DispatchRegistry.openDigests]
    rw [happend, hclosed, List.nil_append]
  have hall : ∀ record ∈ refusedRecords n ++ more,
      record.validate = true ∧ recordSize record ≤ 5100 := by
    rw [List.forall_mem_append]
    refine ⟨?_, hmore⟩
    intro record hrecord
    obtain ⟨k, hk, hsame⟩ := List.mem_map.1 hrecord
    rw [List.mem_range] at hk
    rw [← hsame]
    exact ⟨(refused_valid (by omega)).2, (refused_size k).2⟩
  apply commit_written
  · rw [DispatchRegistry.validate_iff]
    have hcontroller : canonicalUUIDv4 sampleController = true := by decide
    have hinfrastructure : canonicalUUIDv4 sampleInfrastructure = true := by decide
    refine ⟨rfl, hcontroller, hinfrastructure, fun record hrecord => (hall record hrecord).1, ?_⟩
    show (DispatchRegistry.openDigests (refusedRecords n ++ more)).Nodup
    rw [hdigests]
    exact hnodup
  · have hsum : recordsSize (refusedRegistry (refusedRecords n ++ more)) ≤
        (refusedRecords n ++ more).length * 5100 := by
      rw [recordsSize]
      have hbound := List.sum_le_card_nsmul ((refusedRecords n ++ more).map recordSize) 5100 (by
        intro size hsize
        obtain ⟨record, hrecord, hsame⟩ := List.mem_map.1 hsize
        rw [← hsame]
        exact (hall record hrecord).2)
      rw [List.length_map, smul_eq_mul] at hbound
      exact hbound
    have hlength : (refusedRecords n).length = n := by
      rw [refusedRecords, List.length_map, List.length_range]
    rw [List.length_append, hlength] at hsum
    omega

def refusedStore (n : Nat) : Store :=
  ⟨some (refusedRegistry (refusedRecords n)), some (refusedRegistry (refusedRecords n)).encode⟩

theorem refusedRecords_succ (n : Nat) :
    refusedRecords (n + 1) = refusedRecords n ++ [concludedRecord n] := by
  simp [refusedRecords, List.range_succ]

theorem refusedRecords_untrimmed {n : Nat} (hn : n < 43) (last : DispatchRecord)
    (hmachine : last.machineID = (refusedRecord n).machineID)
    (hinstant : last.acceptedAtUnix = (refusedRecord n).acceptedAtUnix) :
    boundDispatchRecords (refusedRecords n ++ [last]) = refusedRecords n ++ [last] := by
  apply refused_untrimmed (n := n + 1) hn
  · rw [List.map_append, List.map_singleton, hmachine, List.range_succ, List.map_append,
      List.map_singleton, refusedRecords, List.map_map]
    rfl
  · rw [List.map_append, List.map_singleton, hinstant, refusedRecord_instant hn, List.range_succ,
      List.map_append, List.map_singleton, refusedRecords, List.map_map]
    congr 1
    apply List.map_congr_left
    intro k hk
    rw [List.mem_range] at hk
    rw [Function.comp_apply, (concludedRecord_fields k).2.2.1, refusedRecord_instant (by omega)]

theorem refusedDigest_ne {k n : Nat} (hk : k < n) (hn : n < 43) :
    refusedDigest k ≠ refusedDigest n := by
  intro hsame
  have hdecoded := congrArg hexDecode hsame
  rw [refusedDigest, refusedDigest, hexDecode_hexEncode, hexDecode_hexEncode,
    Option.some.injEq] at hdecoded
  have hwide : 43 ≤ 256 ^ 32 := by decide
  have hequal := bigEndian_injective (by omega) (by omega) hdecoded
  omega

/-- A round of the run. -/
theorem refused_round {n : Nat} (hn : n < 43) :
    run (step sampleController sampleInfrastructure) (refusedStore n) (refusedRound n) =
      refusedStore (n + 1) := by
  have hopen : ¬ (refusedRecord n).state ≠ .inFlight := not_not.2 (refusedRecord_fields n).2
  have haccept : (refusedRegistry (refusedRecords n)).accept (refusedRecord n) =
      some (refusedRegistry (refusedRecords n ++ [refusedRecord n])) := by
    have htrimmed := refusedRecords_untrimmed hn (refusedRecord n) rfl rfl
    rw [DispatchRegistry.accept, if_neg hopen]
    simp only [refusedRegistry, htrimmed]
  have hothers : ∀ other ∈ refusedRecords n, other.approvalSHA256 ≠ refusedDigest n := by
    intro other hother
    obtain ⟨k, hk, hsame⟩ := List.mem_map.1 hother
    rw [← hsame, (concludedRecord_fields k).1]
    exact refusedDigest_ne (List.mem_range.1 hk) hn
  have hterminal : (refusedRecord n).terminal = false := by
    simp [DispatchRecord.terminal, (refusedRecord_fields n).2]
  have hconclude : (refusedRegistry (refusedRecords n ++ [refusedRecord n])).conclude
      (refusedDigest n) refusal (UInt64.ofNat (n + 1)).toNat =
        some (refusedRegistry (refusedRecords (n + 1))) := by
    have hfirst := concludeFirst_append refusal
      (UInt64.ofNat (n + 1)).toNat hothers (refusedRecord_fields n).1 hterminal
    have htrimmed := refusedRecords_untrimmed hn (concludedRecord n)
      (concludedRecord_fields n).2.1 (concludedRecord_fields n).2.2.1
    rw [DispatchRegistry.conclude, if_neg (by decide)]
    simp only [refusedRegistry, hfirst, Option.map_some, refusedRecords_succ]
    rw [← concludedRecord, htrimmed]
  have haccepted := refused_commit (refusedStore n) (Nat.le_of_lt hn) [refusedRecord n]
    (List.forall_mem_singleton.2 ⟨(refused_valid hn).1, (refused_size n).1⟩) (Nat.le_refl _)
    (by simp [DispatchRegistry.openDigests, hterminal])
  have hconcluded (store : Store) := refused_commit store (n := n + 1) hn
    [] (List.forall_mem_nil _) (Nat.zero_le _) List.nodup_nil
  simp only [List.append_nil] at hconcluded
  have hfirst : next (step sampleController sampleInfrastructure) (refusedStore n)
      (.accept ⟨refusedRecord n, refusedRecord_bounded n⟩ .written) =
        ⟨some (refusedRegistry (refusedRecords n ++ [refusedRecord n])),
          some (refusedRegistry (refusedRecords n ++ [refusedRecord n])).encode⟩ := by
    simp only [next, step, refusedStore, haccept]
    rw [refusedStore] at haccepted
    rw [haccepted]
  rw [refusedRound, run_cons, run_cons, run_nil, hfirst]
  simp only [next, step, hconclude, hconcluded]
  rfl

theorem refused_run {n : Nat} (hn : n ≤ 43) :
    run (step sampleController sampleInfrastructure) ⟨none, none⟩ (refusedRun n) =
      refusedStore n := by
  induction n with
  | zero => decide +kernel
  | succ n ih =>
      have hrun := ih (Nat.le_of_succ_le hn)
      rw [refusedRun, run_cons] at hrun ⊢
      rw [List.range_succ, List.flatMap_append, List.flatMap_singleton, run_append, hrun,
        refused_round hn]

/-- A text of signs that are written in six. -/
theorem quote_markup (n : Nat) : (quote true (List.replicate n 0x3C)).length = 6 * n := by
  induction n with
  | zero => rfl
  | succ n ih =>
      rw [List.replicate_succ, quote_ascii true (by decide), List.length_append, ih]
      have hsign : (quoteByte true 0x3C).length = 6 := by decide
      omega

theorem concludedRecord_size (n : Nat) : 3096 ≤ recordSize (concludedRecord n) := by
  have hsentence : size (Json.quoted escapeHTML refusal.machineSentence) = 3074 := by
    rw [Json.quoted, Json.size_string]
    exact congrArg (· + 2) (quote_markup 512)
  have hname : (text "machine_sentence").length = 16 := rfl
  have hrecord : (concludedRecord n).machineSentence = refusal.machineSentence := by
    simp only [concludedRecord, DispatchRecord.concluded]
  simp only [recordSize, DispatchRecord.fields, List.map_cons, List.map_nil, List.sum_cons,
    List.sum_nil, Json.fieldSize_some, hrecord, hsentence, hname]
  omega

end YourCloud.Controller.DispatchListing
