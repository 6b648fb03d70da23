import YourCloud.Approval.AntiReplay
import YourCloud.Controller.Registry
import YourCloud.Foundation.Sha256

/-!
# Submissions of approvals

A submission reads the clock, is held against what the Controller can attest,
asks whether its bytes were spent, writes its record, launches, and writes its
conclusion.  Each of these takes the registry's lock on its own, so the steps
of concurrent submissions fall between one another, and a restart falls between
any two of them.

## Main results

* `kept_step` — what one step keeps: bytes that were launched, or are about to
  be, are remembered by the registry until their window is closed and nobody
  holds them.
* `dispatch_once` — in every run whose steps all meet `Remembering`, the engine
  is invoked at most once for any signed bytes.
-/

namespace YourCloud.Controller.Submission

open YourCloud.Foundation
open YourCloud.Approval

/-! ## Handlers -/

/-- How far a submission went. -/
inductive Phase where
  /-- The clock was read and the request verified. -/
  | arrived
  /-- Its sequence is past what the registry attests. -/
  | judged
  /-- No record held its bytes. -/
  | unspent
  /-- Its record is written. -/
  | accepted
  /-- The engine was invoked. -/
  | launched
  deriving DecidableEq, Repr

/-- Before its record is written. -/
def Phase.undecided : Phase → Bool
  | arrived => true
  | judged => true
  | unspent => true
  | _ => false

/-- One request being served. -/
structure Handler where
  approval : Bytes
  record : DispatchRecord
  phase : Phase
  deriving DecidableEq

/-- A Controller: its registry, the requests it serves, by number, and the
latest instant that one of them read. -/
structure Service where
  store : Store
  handlers : Nat → Option Handler
  latest : Nat

/-- A Controller that never ran. -/
def Service.initial : Service := ⟨⟨none, none⟩, fun _ => none, 0⟩

/-- Another answer for one request, none when it is done. -/
def Service.set (service : Service) (id : Nat) (handler : Option Handler) : Service :=
  { service with handlers := Function.update service.handlers id handler }

@[simp] theorem Service.set_same (service : Service) (id : Nat) (handler : Option Handler) :
    (service.set id handler).handlers id = handler := Function.update_self ..

@[simp] theorem Service.set_other (service : Service) {id other : Nat} (h : other ≠ id)
    (handler : Option Handler) :
    (service.set id handler).handlers other = service.handlers other := Function.update_of_ne h ..

/-! ## Steps -/

section Steps

-- The digest the registry is indexed by, and the installation.
variable (digest : Bytes → Bytes) (controllerID infrastructureID : Bytes)

/-- The record of a submission, as it is accepted. -/
def recordOf (approval : Bytes) (envelope : Envelope) (now : UInt64) (pinned : Bytes × Bytes) :
    DispatchRecord where
  approvalSHA256 := digest approval
  machineID := envelope.machineID
  operation := envelope.operation.name
  approvalEpoch := envelope.approvalEpoch
  sequence := envelope.sequence
  planSHA256 := envelope.planSHA256
  rollbackSHA256 := envelope.rollbackSHA256
  state := .inFlight
  acceptedAtUnix := now.toNat
  finishedAtUnix := 0
  expiresAtUnix := envelope.expiresAtUnix
  machineSentence := []
  controllerObservation := []
  definitionSlug := pinned.1
  definitionSHA256 := pinned.2
  reportedChanged := false
  reportedOutcome := []

inductive Event where
  /-- A request arrives and reads the clock; `admitted` is what its session, its
  body, its machine, its signature and its documents are answered. -/
  | arrive (id : Nat) (approval : Bytes) (now : UInt64) (admitted : Bool)
      (pinned : Bytes × Bytes)
  /-- The sequence is held against the highest one reported. -/
  | judge (id : Nat)
  /-- The registry is asked whether it holds these bytes. -/
  | look (id : Nat)
  /-- The session is held open and the record is written. -/
  | accept (id : Nat) (session : Bool) (outcome : Persisted)
  | launch (id : Nat)
  | conclude (id : Nat) (conclusion : DispatchConclusion) (finished : UInt64)
      (outcome : Persisted)
  /-- The process ends wherever it stands, and starts again. -/
  | restart (outcome : Persisted)

inductive Answer where
  | refused
  | going
  /-- The engine is handed these signed bytes. -/
  | dispatched (approval : Bytes)
  | concluded
  | idle
  deriving DecidableEq

def step (service : Service) : Event → Service × Answer
  | .arrive id approval now admitted pinned =>
      match service.handlers id, service.store.served, decodeSigned approval with
      | none, some _, some signed =>
          let service := { service with latest := max service.latest now.toNat }
          if admitted = false then (service, .refused)
          else if signed.envelope.infrastructureID ≠ infrastructureID then (service, .refused)
          else if now.toNat < signed.envelope.issuedAtUnix ∨
              signed.envelope.expiresAtUnix ≤ now.toNat then (service, .refused)
          else
            (service.set id
              (some ⟨approval, recordOf digest approval signed.envelope now pinned, .arrived⟩),
              .going)
      | _, _, _ => (service, .idle)
  | .judge id =>
      match service.handlers id, service.store.served with
      | some ⟨approval, record, .arrived⟩, some registry =>
          if record.sequence ≤ registry.highestReportedSequence record.machineID then
            (service.set id none, .refused)
          else (service.set id (some ⟨approval, record, .judged⟩), .going)
      | _, _ => (service, .idle)
  | .look id =>
      match service.handlers id, service.store.served with
      | some ⟨approval, record, .judged⟩, some registry =>
          if registry.alreadySpent record.approvalSHA256 then
            (service.set id none, .refused)
          else (service.set id (some ⟨approval, record, .unspent⟩), .going)
      | _, _ => (service, .idle)
  | .accept id session outcome =>
      match service.handlers id, service.store.served with
      | some ⟨approval, record, .unspent⟩, some registry =>
          if session = false then (service.set id none, .refused)
          else
            match service.store.commit outcome (registry.accept record) with
            | (store, true) =>
                ({ service with store }.set id (some ⟨approval, record, .accepted⟩), .going)
            | (store, false) => ({ service with store }.set id none, .refused)
      | _, _ => (service, .idle)
  | .launch id =>
      match service.handlers id with
      | some ⟨approval, record, .accepted⟩ =>
          (service.set id (some ⟨approval, record, .launched⟩), .dispatched approval)
      | _ => (service, .idle)
  | .conclude id conclusion finished outcome =>
      match service.handlers id, service.store.served with
      | some ⟨_, record, .launched⟩, some registry =>
          match service.store.commit outcome
              (registry.conclude record.approvalSHA256 conclusion finished.toNat) with
          | (store, true) => ({ service with store }.set id none, .concluded)
          | (store, false) => ({ service with store }.set id none, .refused)
      | _, _ => (service, .idle)
  | .restart outcome =>
      ({ service with
          store := service.store.reopen controllerID infrastructureID outcome
          handlers := fun _ => none }, .idle)

/-- The bytes the engine was handed, in order. -/
def dispatched (h : List (Event × Answer)) : List Bytes :=
  h.filterMap fun e =>
    match e.2 with
    | .dispatched approval => some approval
    | _ => none

/-! ## The condition on a run -/

/-- The instant the window of some signed bytes closes. -/
def expiry (approval : Bytes) : Nat :=
  ((decodeSigned approval).map fun signed => signed.envelope.expiresAtUnix).getD 0

/-- Trimming these records forgets none whose window is open or whose bytes an
undecided submission holds. -/
def Forgetful (service : Service) (records : List DispatchRecord) : Prop :=
  ∀ record ∈ records, record ∉ boundDispatchRecords records →
    record.expiresAtUnix ≤ service.latest ∧
      ∀ id handler, service.handlers id = some handler → handler.phase.undecided = true →
        handler.record.approvalSHA256 ≠ record.approvalSHA256

/-- A step under which the registry keeps what it has to remember: the clock does
not go back, no record of the same bytes was written since the question whether
they were spent, and trimming forgets nothing that could still be submitted. -/
def Remembering (service : Service) : Event → Prop
  | .arrive _ _ now _ _ => service.latest ≤ now.toNat
  | .accept id _ _ => ∀ handler registry, service.handlers id = some handler →
      service.store.served = some registry →
      registry.alreadySpent handler.record.approvalSHA256 = false ∧
        Forgetful service (registry.records ++ [handler.record])
  | .conclude id conclusion finished _ => ∀ handler registry records,
      service.handlers id = some handler → service.store.served = some registry →
      concludeFirst handler.record.approvalSHA256 conclusion finished.toNat registry.records =
        some records → Forgetful service records
  | _ => True

/-! ## The invariant -/

/-- A submission before its record is written holds these bytes. -/
def Pending (service : Service) (approval : Bytes) : Prop :=
  ∃ id handler, service.handlers id = some handler ∧ handler.approval = approval ∧
    handler.phase.undecided = true

/-- A submission that is about to launch holds these bytes. -/
def Due (service : Service) (id : Nat) (approval : Bytes) : Prop :=
  ∃ handler, service.handlers id = some handler ∧ handler.approval = approval ∧
    handler.phase = .accepted

/-- A registry remembers some bytes, or they can be submitted no more. -/
def Remembered (service : Service) (registry : DispatchRegistry) (approval : Bytes) : Prop :=
  (∃ record ∈ registry.records, record.approvalSHA256 = digest approval ∧
      record.expiresAtUnix = expiry approval) ∨
    (expiry approval ≤ service.latest ∧ ¬ Pending service approval)

/-- The registry of a file, as it was written. -/
structure Written (file : Option Bytes) (registry : DispatchRegistry) : Prop where
  encoded : file = some registry.encode
  valid : registry.validate = true
  bounded : ∀ record ∈ registry.records, record.Bounded

/-- What was launched or is about to be is remembered by what is served and by
the file, and is launched or about to be only once. -/
structure Kept (h : List (Event × Answer)) (service : Service) : Prop where
  handlers : ∀ id handler, service.handlers id = some handler →
    ∃ signed now pinned, decodeSigned handler.approval = some signed ∧
      handler.record = recordOf digest handler.approval signed.envelope now pinned
  served : ∀ registry, service.store.served = some registry →
    registry.validate = true ∧ ∀ record ∈ registry.records, record.Bounded
  file : ∀ data, service.store.file = some data →
    ∃ registry, Written service.store.file registry
  once : ∀ approval, (dispatched h).count approval ≤ 1
  due : ∀ id approval, Due service id approval →
    approval ∉ dispatched h ∧ ∀ other, Due service other approval → other = id
  remembered : ∀ approval, (approval ∈ dispatched h ∨ ∃ id, Due service id approval) →
    (∀ registry, service.store.served = some registry →
      Remembered digest service registry approval) ∧
    ∃ registry, Written service.store.file registry ∧ Remembered digest service registry approval

/-! ## What a step keeps -/

theorem kept_initial : Kept digest [] Service.initial where
  handlers := by
    intro id handler h
    cases h
  served := by
    intro registry h
    cases h
  file := by
    intro data h
    cases h
  once := fun _ => Nat.zero_le 1
  due := by
    rintro id approval ⟨handler, h, -⟩
    cases h
  remembered := by
    rintro approval (h | ⟨id, handler, h, -⟩)
    · cases h
    · cases h

private theorem dispatched_append (h : List (Event × Answer)) (e : Event) (a : Answer) :
    dispatched (h ++ [(e, a)]) = dispatched h ++ dispatched [(e, a)] :=
  List.filterMap_append

/-- The accepted record is bounded, open, and closes with its window. -/
theorem recordOf_spec {approval : Bytes} {signed : SignedApproval} (now : UInt64)
    (pinned : Bytes × Bytes) (h : decodeSigned approval = some signed) :
    (recordOf digest approval signed.envelope now pinned).Bounded ∧
      (recordOf digest approval signed.envelope now pinned).terminal = false ∧
      (recordOf digest approval signed.envelope now pinned).expiresAtUnix = expiry approval := by
  refine ⟨⟨signed.epoch_lt, signed.sequence_lt, now.toNat_lt, ?_, decodeSigned_expires_lt h⟩,
    rfl, ?_⟩
  · show (0 : Nat) < 2 ^ 64
    decide
  · rw [expiry, h]
    rfl

section Keep

variable {digest} {h : List (Event × Answer)} {service service' : Service} {e : Event} {a : Answer}

/-- Remembering survives as long as nobody new holds the bytes. -/
theorem Remembered.mono {registry : DispatchRegistry} {approval : Bytes}
    (hr : Remembered digest service registry approval)
    (hlatest : service.latest ≤ service'.latest)
    (hpending : Pending service' approval → Pending service approval) :
    Remembered digest service' registry approval := by
  rcases hr with hrecord | ⟨hclosed, hfree⟩
  · exact Or.inl hrecord
  · exact Or.inr ⟨hclosed.trans hlatest, fun hp => hfree (hpending hp)⟩

/-- A step that dispatches nothing and makes nothing due keeps the invariant as
long as what is remembered stays so. -/
theorem Kept.frame (hk : Kept digest h service) (ha : dispatched [(e, a)] = [])
    (hhandlers : ∀ id handler, service'.handlers id = some handler →
      ∃ signed now pinned, decodeSigned handler.approval = some signed ∧
        handler.record = recordOf digest handler.approval signed.envelope now pinned)
    (hdue : ∀ id approval, Due service' id approval → Due service id approval)
    (hserved : ∀ registry, service'.store.served = some registry →
      registry.validate = true ∧ ∀ record ∈ registry.records, record.Bounded)
    (hfile : ∀ data, service'.store.file = some data →
      ∃ registry, Written service'.store.file registry)
    (hremembered : ∀ approval, (approval ∈ dispatched h ∨ ∃ id, Due service id approval) →
      (∀ registry, service'.store.served = some registry →
        Remembered digest service' registry approval) ∧
      ∃ registry, Written service'.store.file registry ∧
        Remembered digest service' registry approval) :
    Kept digest (h ++ [(e, a)]) service' := by
  have hlog : dispatched (h ++ [(e, a)]) = dispatched h := by
    rw [dispatched_append, ha, List.append_nil]
  refine ⟨hhandlers, hserved, hfile, ?_, ?_, ?_⟩
  · rw [hlog]
    exact hk.once
  · intro id approval hd
    rw [hlog]
    obtain ⟨hnot, honly⟩ := hk.due id approval (hdue id approval hd)
    exact ⟨hnot, fun other ho => honly other (hdue other approval ho)⟩
  · intro approval hspent
    rw [hlog] at hspent
    refine hremembered approval (hspent.imp id ?_)
    rintro ⟨id, hd⟩
    exact ⟨id, hdue id approval hd⟩

/-- A step that leaves the registry, dispatches nothing, makes nothing due and
brings no new submission. -/
theorem Kept.stay (hk : Kept digest h service) (ha : dispatched [(e, a)] = [])
    (hstore : service'.store = service.store) (hlatest : service.latest ≤ service'.latest)
    (hhandlers : ∀ id handler, service'.handlers id = some handler →
      ∃ old, service.handlers id = some old ∧ handler.approval = old.approval ∧
        handler.record = old.record ∧
        (handler.phase.undecided = true → old.phase.undecided = true) ∧
        (handler.phase = .accepted → old.phase = .accepted)) :
    Kept digest (h ++ [(e, a)]) service' := by
  refine hk.frame ha ?_ ?_ (hstore ▸ hk.served) (hstore ▸ hk.file) ?_
  · intro id handler hid
    obtain ⟨old, hold, happroval, hrecord, -⟩ := hhandlers id handler hid
    rw [happroval, hrecord]
    exact hk.handlers id old hold
  · rintro id approval ⟨handler, hid, happroval, hphase⟩
    obtain ⟨old, hold, hsame, -, -, hacc⟩ := hhandlers id handler hid
    exact ⟨old, hold, hsame ▸ happroval, hacc hphase⟩
  · intro approval hspent
    have hpending : Pending service' approval → Pending service approval := by
      rintro ⟨id, handler, hid, happroval, hphase⟩
      obtain ⟨old, hold, hsame, -, hund, -⟩ := hhandlers id handler hid
      exact ⟨id, old, hold, hsame ▸ happroval, hund hphase⟩
    obtain ⟨hserved, registry, hwritten, hremembered⟩ := hk.remembered approval hspent
    rw [hstore]
    exact ⟨fun r hr => (hserved r hr).mono hlatest hpending, registry, hwritten,
      hremembered.mono hlatest hpending⟩

/-- One request done, or one step further before its record is written. -/
theorem Kept.set (hk : Kept digest h service) (ha : dispatched [(e, a)] = []) (id : Nat)
    {new : Option Handler}
    (hnew : ∀ handler, new = some handler →
      ∃ old, service.handlers id = some old ∧ handler.approval = old.approval ∧
        handler.record = old.record ∧ old.phase.undecided = true ∧
        handler.phase.undecided = true) :
    Kept digest (h ++ [(e, a)]) (service.set id new) := by
  refine hk.stay ha rfl (Nat.le_refl _) ?_
  intro other handler hother
  by_cases ho : other = id
  · subst ho
    rw [Service.set_same] at hother
    obtain ⟨old, hold, happroval, hrecord, hund, hnewund⟩ := hnew handler hother
    refine ⟨old, hold, happroval, hrecord, fun _ => hund, fun hacc => ?_⟩
    rw [hacc] at hnewund
    cases hnewund
  · rw [Service.set_other _ ho] at hother
    exact ⟨handler, hother, rfl, rfl, fun hp => hp, fun hp => hp⟩

/-- Trimming keeps what is remembered, when it forgets only what is closed. -/
theorem Remembered.trim (hk : Kept digest h service) {records : List DispatchRecord}
    {registry : DispatchRegistry} {approval : Bytes}
    (hr : Remembered digest service ⟨registry.schemaVersion, registry.controllerID,
      registry.infrastructureID, records⟩ approval)
    (hforgetful : Forgetful service records) (hlatest : service.latest = service'.latest)
    (hpending : Pending service' approval → Pending service approval) :
    Remembered digest service'
      { registry with records := boundDispatchRecords records } approval := by
  rcases hr with ⟨record, hmem, hd, hexp⟩ | ⟨hclosed, hfree⟩
  · by_cases hkept : record ∈ boundDispatchRecords records
    · exact Or.inl ⟨record, hkept, hd, hexp⟩
    · obtain ⟨hclosed, hfree⟩ := hforgetful record hmem hkept
      refine Or.inr ⟨by rw [← hexp, ← hlatest]; exact hclosed, fun hp => ?_⟩
      obtain ⟨id, handler, hid, happroval, hund⟩ := hpending hp
      obtain ⟨signed, now, pinned, -, hrecord⟩ := hk.handlers id handler hid
      refine hfree id handler hid hund ?_
      rw [hrecord, hd, ← happroval]
      rfl
  · exact Or.inr ⟨hlatest ▸ hclosed, fun hp => hfree (hpending hp)⟩

/-- Two submissions of the same bytes cannot both be about to launch: the later
one would have met a record, or a closed window. -/
theorem Kept.not_spent (hk : Kept digest h service) {id : Nat} {handler : Handler}
    {registry : DispatchRegistry} (hid : service.handlers id = some handler)
    (hphase : handler.phase.undecided = true) (hserved : service.store.served = some registry)
    (hfresh : registry.alreadySpent handler.record.approvalSHA256 = false) :
    handler.approval ∉ dispatched h ∧ ∀ other, ¬ Due service other handler.approval := by
  obtain ⟨signed, now, pinned, -, hrecord⟩ := hk.handlers id handler hid
  have hnot : ¬ (handler.approval ∈ dispatched h ∨ ∃ other, Due service other handler.approval) := by
    intro hspent
    rcases (hk.remembered _ hspent).1 registry hserved with ⟨record, hmem, hd, -⟩ | ⟨-, hfree⟩
    · have hspent := alreadySpent_iff.2 ⟨record, hmem, hd⟩
      rw [hrecord] at hfresh
      exact absurd (hspent.symm.trans hfresh) (by decide)
    · exact hfree ⟨id, handler, hid, rfl, hphase⟩
  rw [not_or, not_exists] at hnot
  exact hnot

/-- A request that arrives while its window is open holds bytes that are
remembered by a record, if they were spent. -/
theorem Kept.arrive (hk : Kept digest h service) (ha : dispatched [(e, a)] = []) {id : Nat}
    {approval : Bytes} {signed : SignedApproval} {now : UInt64} {pinned : Bytes × Bytes}
    (hdecoded : decodeSigned approval = some signed)
    (hlatest : service.latest ≤ now.toNat) (hopen : now.toNat < signed.envelope.expiresAtUnix)
    (hstore : service'.store = service.store)
    (hlater : service'.latest = max service.latest now.toNat)
    (hother : ∀ other, other ≠ id → service'.handlers other = service.handlers other)
    (hself : service'.handlers id =
      some ⟨approval, recordOf digest approval signed.envelope now pinned, .arrived⟩) :
    Kept digest (h ++ [(e, a)]) service' := by
  have hle : service.latest ≤ service'.latest := hlater ▸ le_max_left _ _
  refine hk.frame ha ?_ ?_ (hstore ▸ hk.served) (hstore ▸ hk.file) ?_
  · intro other handler hhandler
    by_cases ho : other = id
    · subst ho
      rw [hself] at hhandler
      obtain rfl := Option.some.inj hhandler
      exact ⟨signed, now, pinned, hdecoded, rfl⟩
    · exact hk.handlers other handler (hother other ho ▸ hhandler)
  · rintro other b ⟨handler, hhandler, happroval, hphase⟩
    by_cases ho : other = id
    · subst ho
      rw [hself] at hhandler
      obtain rfl := Option.some.inj hhandler
      cases hphase
    · exact ⟨handler, hother other ho ▸ hhandler, happroval, hphase⟩
  · intro b hspent
    -- The window of the arriving bytes is open, so only a record can remember them.
    have keep : ∀ registry, Remembered digest service registry b →
        Remembered digest service' registry b := by
      intro registry hr
      by_cases hb : b = approval
      · subst hb
        rcases hr with hrecord | ⟨hclosed, -⟩
        · exact Or.inl hrecord
        · exfalso
          rw [expiry, hdecoded] at hclosed
          exact absurd (hclosed.trans hlatest) (Nat.not_le.2 hopen)
      · refine hr.mono hle ?_
        rintro ⟨other, handler, hhandler, happroval, hphase⟩
        by_cases ho : other = id
        · subst ho
          rw [hself] at hhandler
          obtain rfl := Option.some.inj hhandler
          exact absurd happroval.symm hb
        · exact ⟨other, handler, hother other ho ▸ hhandler, happroval, hphase⟩
    obtain ⟨hserved, registry, hwritten, hremembered⟩ := hk.remembered b hspent
    rw [hstore]
    exact ⟨fun r hr => keep r (hserved r hr), registry, hwritten, keep registry hremembered⟩

/-- The engine is handed bytes that were not handed over before. -/
theorem Kept.launch (hk : Kept digest h service) {id : Nat} {approval : Bytes}
    {record : DispatchRecord} (hid : service.handlers id = some ⟨approval, record, .accepted⟩)
    (ha : dispatched [(e, a)] = [approval]) :
    Kept digest (h ++ [(e, a)]) (service.set id (some ⟨approval, record, .launched⟩)) := by
  have hdue : Due service id approval := ⟨_, hid, rfl, rfl⟩
  obtain ⟨hnot, honly⟩ := hk.due id approval hdue
  have hlog : dispatched (h ++ [(e, a)]) = dispatched h ++ [approval] := by
    rw [dispatched_append, ha]
  -- The request that launches is about to launch no more; the others stay.
  have hback : ∀ other b, Due (service.set id (some ⟨approval, record, .launched⟩)) other b →
      other ≠ id ∧ Due service other b := by
    rintro other b ⟨handler, hhandler, happroval, hphase⟩
    by_cases ho : other = id
    · subst ho
      rw [Service.set_same] at hhandler
      obtain rfl := Option.some.inj hhandler
      cases hphase
    · exact ⟨ho, handler, by rwa [Service.set_other _ ho] at hhandler, happroval, hphase⟩
  refine ⟨?_, hk.served, hk.file, ?_, ?_, ?_⟩
  · intro other handler hhandler
    by_cases ho : other = id
    · subst ho
      rw [Service.set_same] at hhandler
      obtain rfl := Option.some.inj hhandler
      exact (hk.handlers other ⟨approval, record, .accepted⟩ hid :)
    · rw [Service.set_other _ ho] at hhandler
      exact hk.handlers other handler hhandler
  · intro b
    rw [hlog, List.count_append]
    by_cases hb : b = approval
    · subst hb
      rw [List.count_eq_zero_of_not_mem hnot, List.count_singleton_self]
    · rw [List.count_singleton, if_neg (by simpa using Ne.symm hb)]
      exact hk.once b
  · intro other b hd
    obtain ⟨ho, hold⟩ := hback other b hd
    obtain ⟨hb, hunique⟩ := hk.due other b hold
    refine ⟨?_, fun third ht => hunique third (hback third b ht).2⟩
    rw [hlog, List.mem_append, List.mem_singleton]
    rintro (hmem | rfl)
    · exact hb hmem
    · exact ho (honly other hold)
  · intro b hspent
    have hspent' : b ∈ dispatched h ∨ ∃ other, Due service other b := by
      rcases hspent with hmem | ⟨other, hd⟩
      · rw [hlog, List.mem_append, List.mem_singleton] at hmem
        rcases hmem with hmem | rfl
        · exact Or.inl hmem
        · exact Or.inr ⟨id, hdue⟩
      · exact Or.inr ⟨other, (hback other b hd).2⟩
    have hpending : Pending (service.set id (some ⟨approval, record, .launched⟩)) b →
        Pending service b := by
      rintro ⟨other, handler, hhandler, happroval, hphase⟩
      by_cases ho : other = id
      · subst ho
        rw [Service.set_same] at hhandler
        obtain rfl := Option.some.inj hhandler
        cases hphase
      · exact ⟨other, handler, by rwa [Service.set_other _ ho] at hhandler, happroval, hphase⟩
    obtain ⟨hserved, registry, hwritten, hremembered⟩ := hk.remembered b hspent'
    exact ⟨fun r hr => (hserved r hr).mono (Nat.le_refl _) hpending, registry, hwritten,
      hremembered.mono (Nat.le_refl _) hpending⟩

/-- A candidate trimmed out of the served records: what the file or the service
may hold after its commit. -/
private theorem written_bound {registry : DispatchRegistry} {records : List DispatchRecord}
    (hw : { registry with records := boundDispatchRecords records }.writable = true)
    (hb : ∀ record ∈ records, record.Bounded) :
    Written (some { registry with records := boundDispatchRecords records }.encode)
      { registry with records := boundDispatchRecords records } :=
  ⟨rfl, (writable_iff.1 hw).1, fun record hr => hb record (mem_of_mem_bound hr)⟩

/-- A commit of trimmed records, whether it reports a failure or not, when every
spent approval was remembered by the records before they were trimmed and the
requests bring nothing new. -/
theorem Kept.commit (hk : Kept digest h service) (ha : dispatched [(e, a)] = [])
    {registry : DispatchRegistry} {records : List DispatchRecord}
    (hw : { registry with records := boundDispatchRecords records }.writable = true)
    (hb : ∀ record ∈ records, record.Bounded) (hforgetful : Forgetful service records)
    (hrecords : ∀ approval, (approval ∈ dispatched h ∨ ∃ id, Due service id approval) →
      Remembered digest service ⟨registry.schemaVersion, registry.controllerID,
        registry.infrastructureID, records⟩ approval)
    (hlatest : service.latest = service'.latest)
    (hhandlers : ∀ id handler, service'.handlers id = some handler →
      service.handlers id = some handler)
    (hfile : service'.store.file =
      some { registry with records := boundDispatchRecords records }.encode)
    (hserved : service'.store.served = service.store.served ∨
      service'.store.served = some { registry with records := boundDispatchRecords records }) :
    Kept digest (h ++ [(e, a)]) service' := by
  have hwritten := written_bound hw hb
  have hpending : ∀ approval, Pending service' approval → Pending service approval := by
    rintro approval ⟨id, handler, hid, hrest⟩
    exact ⟨id, handler, hhandlers id handler hid, hrest⟩
  refine hk.frame ha (fun id handler hid => hk.handlers id handler (hhandlers id handler hid))
    ?_ ?_ ?_ ?_
  · rintro id approval ⟨handler, hid, hrest⟩
    exact ⟨handler, hhandlers id handler hid, hrest⟩
  · intro r hr
    rcases hserved with hs | hs
    · exact hk.served r (hs ▸ hr)
    · obtain rfl := Option.some.inj (hs.symm.trans hr)
      exact ⟨hwritten.valid, hwritten.bounded⟩
  · intro data hdata
    exact ⟨_, hfile ▸ hwritten⟩
  · intro approval hspent
    have htrim := (hrecords approval hspent).trim hk hforgetful hlatest (hpending approval)
    refine ⟨fun r hr => ?_, _, hfile ▸ hwritten, htrim⟩
    rcases hserved with hs | hs
    · exact ((hk.remembered approval hspent).1 r (hs ▸ hr)).mono (Nat.le_of_eq hlatest)
        (hpending approval)
    · obtain rfl := Option.some.inj (hs.symm.trans hr)
      exact htrim

/-- An acceptance that was written: its bytes were never launched, and its record
remembers them from here on. -/
theorem Kept.accept (hk : Kept digest h service) (ha : dispatched [(e, a)] = []) {id : Nat}
    {approval : Bytes} {record : DispatchRecord} {registry : DispatchRegistry}
    (hid : service.handlers id = some ⟨approval, record, .unspent⟩)
    (hserved : service.store.served = some registry)
    (hfresh : registry.alreadySpent record.approvalSHA256 = false)
    (hforgetful : Forgetful service (registry.records ++ [record]))
    (hw : { registry with
      records := boundDispatchRecords (registry.records ++ [record]) }.writable = true)
    (hstore : service'.store =
      ⟨some { registry with records := boundDispatchRecords (registry.records ++ [record]) },
        some { registry with
          records := boundDispatchRecords (registry.records ++ [record]) }.encode⟩)
    (hlatest : service.latest = service'.latest)
    (hother : ∀ other, other ≠ id → service'.handlers other = service.handlers other)
    (hself : service'.handlers id = some ⟨approval, record, .accepted⟩) :
    Kept digest (h ++ [(e, a)]) service' := by
  obtain ⟨signed, now, pinned, hdecoded, hrecord⟩ := hk.handlers id _ hid
  change record = recordOf digest approval signed.envelope now pinned at hrecord
  obtain ⟨hbounded, hopen, hexpires⟩ := recordOf_spec digest now pinned hdecoded
  rw [← hrecord] at hbounded hopen hexpires
  have hdigest : record.approvalSHA256 = digest approval := by
    rw [hrecord]
    rfl
  obtain ⟨hnot, hnodue⟩ := hk.not_spent hid rfl hserved hfresh
  have hall : ∀ r ∈ registry.records ++ [record], r.Bounded := by
    intro r hr
    rcases List.mem_append.1 hr with hr | hr
    · exact (hk.served registry hserved).2 r hr
    · exact List.mem_singleton.1 hr ▸ hbounded
  have hwritten := written_bound hw hall
  have hlog : dispatched (h ++ [(e, a)]) = dispatched h := by
    rw [dispatched_append, ha, List.append_nil]
  have hback : ∀ other b, Due service' other b →
      (other = id ∧ b = approval) ∨ Due service other b := by
    rintro other b ⟨handler, hhandler, happroval, hphase⟩
    by_cases ho : other = id
    · subst ho
      rw [hself] at hhandler
      obtain rfl := Option.some.inj hhandler
      exact Or.inl ⟨rfl, happroval.symm⟩
    · exact Or.inr ⟨handler, hother other ho ▸ hhandler, happroval, hphase⟩
  have hpending : ∀ b, Pending service' b → Pending service b := by
    rintro b ⟨other, handler, hhandler, happroval, hphase⟩
    by_cases ho : other = id
    · subst ho
      rw [hself] at hhandler
      obtain rfl := Option.some.inj hhandler
      cases hphase
    · exact ⟨other, handler, hother other ho ▸ hhandler, happroval, hphase⟩
  refine ⟨?_, ?_, ?_, ?_, ?_, ?_⟩
  · intro other handler hhandler
    by_cases ho : other = id
    · subst ho
      rw [hself] at hhandler
      obtain rfl := Option.some.inj hhandler
      exact ⟨signed, now, pinned, hdecoded, hrecord⟩
    · exact hk.handlers other handler (hother other ho ▸ hhandler)
  · intro r hr
    rw [hstore] at hr
    obtain rfl := Option.some.inj hr
    exact ⟨hwritten.valid, hwritten.bounded⟩
  · intro data hdata
    rw [hstore]
    exact ⟨_, hwritten⟩
  · rw [hlog]
    exact hk.once
  · intro other b hd
    rw [hlog]
    rcases hback other b hd with ⟨rfl, rfl⟩ | hold
    · refine ⟨hnot, fun third ht => ?_⟩
      rcases hback third b ht with ⟨rfl, -⟩ | hthird
      · rfl
      · exact absurd hthird (hnodue third)
    · obtain ⟨hb, hunique⟩ := hk.due other b hold
      refine ⟨hb, fun third ht => ?_⟩
      rcases hback third b ht with ⟨-, rfl⟩ | hthird
      · exact absurd hold (hnodue other)
      · exact hunique third hthird
  · intro b hspent
    rw [hlog] at hspent
    have hb : Remembered digest service'
        { registry with records := boundDispatchRecords (registry.records ++ [record]) } b := by
      by_cases hsame : b = approval
      · subst hsame
        exact Or.inl ⟨record, mem_bound_of_open (List.mem_append_right _ List.mem_cons_self) hopen,
          hdigest, hexpires⟩
      · have hold : b ∈ dispatched h ∨ ∃ other, Due service other b := by
          refine hspent.imp_right ?_
          rintro ⟨other, hd⟩
          rcases hback other b hd with ⟨-, rfl⟩ | hold
          · exact absurd rfl hsame
          · exact ⟨other, hold⟩
        refine Remembered.trim hk ?_ hforgetful hlatest (hpending b)
        rcases (hk.remembered b hold).1 registry hserved with ⟨r, hr, hd⟩ | hclosed
        · exact Or.inl ⟨r, List.mem_append_left _ hr, hd⟩
        · exact Or.inr hclosed
    rw [hstore]
    refine ⟨fun r hr => ?_, _, hwritten, hb⟩
    obtain rfl := Option.some.inj hr
    exact hb

/-- A registry that was read back, requalified or not, remembers what the written
one did. -/
private theorem Remembered.reread {registry : DispatchRegistry} {approval : Bytes}
    (hr : Remembered digest service registry approval) (hvalid : registry.validate = true)
    {records : List DispatchRecord}
    (hrecords : ∀ record ∈ registry.records, ∃ r ∈ records,
      r.approvalSHA256 = record.sanitize.approvalSHA256 ∧
        r.expiresAtUnix = record.expiresAtUnix)
    (hlatest : service.latest = service'.latest) (hnone : ∀ id, service'.handlers id = none)
    (controllerID infrastructureID : Bytes) (schemaVersion : Int) :
    Remembered digest service' ⟨schemaVersion, controllerID, infrastructureID, records⟩
      approval := by
  rcases hr with ⟨record, hmem, hd, hexp⟩ | ⟨hclosed, -⟩
  · obtain ⟨r, hr, hrd, hrexp⟩ := hrecords record hmem
    have hrecord := (DispatchRegistry.validate_iff.1 hvalid).2.2.2.1 record hmem
    exact Or.inl ⟨r, hr, hrd.trans ((DispatchRecord.sanitize_approvalSHA256 hrecord).trans hd),
      hrexp.trans hexp⟩
  · refine Or.inr ⟨hlatest ▸ hclosed, ?_⟩
    rintro ⟨id, handler, hid, -⟩
    rw [hnone id] at hid
    cases hid

/-- A restart forgets every request and serves what the file remembers. -/
theorem Kept.restart (hk : Kept digest h service) (ha : dispatched [(e, a)] = [])
    (controllerID infrastructureID : Bytes) (outcome : Persisted) :
    Kept digest (h ++ [(e, a)])
      { service with
        store := service.store.reopen controllerID infrastructureID outcome
        handlers := fun _ => none } := by
  generalize hservice' : ({ service with
    store := service.store.reopen controllerID infrastructureID outcome
    handlers := fun _ => none } : Service) = service'
  have hnone : ∀ id, service'.handlers id = none := fun id => by rw [← hservice']
  have hlatest : service.latest = service'.latest := by rw [← hservice']
  have hnopending : ∀ approval, ¬ Pending service' approval := by
    rintro approval ⟨id, handler, hid, -⟩
    rw [hnone id] at hid
    cases hid
  -- A registry that is valid and remembers whatever was spent so far.
  let Good (registry : DispatchRegistry) : Prop :=
    registry.validate = true ∧ (∀ record ∈ registry.records, record.Bounded) ∧
      ∀ approval, (approval ∈ dispatched h ∨ ∃ id, Due service id approval) →
        Remembered digest service' registry approval
  have hread : ∀ data read, service.store.file = some data →
      readRegistry controllerID infrastructureID data = some read →
      Good read ∧ (read.requalified.validate = true → Good read.requalified) := by
    intro data read hdata hr
    have hback : ∀ registry, Written service.store.file registry → read = registry.sanitize := by
      intro registry hw
      obtain rfl := Option.some.inj (hdata.symm.trans hw.encoded)
      exact readRegistry_encode hw.valid hw.bounded hr
    have hbounded : ∀ record ∈ read.records, record.Bounded := by
      obtain ⟨registry, hw⟩ := hk.file data hdata
      rw [hback registry hw]
      intro record hmem
      obtain ⟨old, hold, rfl⟩ := List.mem_map.1 hmem
      exact (hw.bounded old hold).sanitize
    refine ⟨⟨(readRegistry_iff.1 hr).2.2.1, hbounded, fun approval hspent => ?_⟩, fun hvalid =>
      ⟨hvalid, fun record hmem => ?_, fun approval hspent => ?_⟩⟩
    · obtain ⟨registry, hw, hremembered⟩ := (hk.remembered approval hspent).2
      rw [hback registry hw]
      refine hremembered.reread hw.valid (fun record hmem => ?_) hlatest hnone _ _ _
      exact ⟨_, List.mem_map_of_mem hmem, rfl, rfl⟩
    · obtain ⟨old, hold, rfl⟩ := List.mem_map.1 hmem
      exact (hbounded old hold).requalified
    · obtain ⟨registry, hw, hremembered⟩ := (hk.remembered approval hspent).2
      rw [hback registry hw]
      refine hremembered.reread hw.valid (fun record hmem => ?_) hlatest hnone _ _ _
      exact ⟨_, List.mem_map_of_mem (List.mem_map_of_mem hmem), requalified_approvalSHA256 _,
        requalified_expiresAtUnix _⟩
  have hfile : ∀ approval, (approval ∈ dispatched h ∨ ∃ id, Due service id approval) →
      ∃ registry, Written service.store.file registry ∧
        Remembered digest service' registry approval := by
    intro approval hspent
    obtain ⟨registry, hw, hremembered⟩ := (hk.remembered approval hspent).2
    exact ⟨registry, hw, hremembered.mono (Nat.le_of_eq hlatest)
      fun hp => absurd hp (hnopending approval)⟩
  have hgood : (∀ registry, service'.store.served = some registry → Good registry) ∧
      (service'.store.file = service.store.file ∨
        ∃ registry, service'.store.file = some registry.encode ∧ Good registry) := by
    rw [← hservice']
    rcases reopen_cases controllerID infrastructureID outcome service.store with
      h0 | ⟨registry, hfrom, hw, hstore⟩ | ⟨data, registry, hdata, hr, hstore⟩
    · rw [h0]
      exact ⟨fun r hr => (by cases hr), Or.inl rfl⟩
    · have hregistry : Good registry := by
        have hvalid := (writable_iff.1 hw).1
        rcases hfrom with ⟨hempty, rfl⟩ | ⟨data, read, hdata, hr, rfl⟩
        · refine ⟨hvalid, fun record hmem => absurd hmem List.not_mem_nil, fun approval hspent => ?_⟩
          obtain ⟨_, hwritten, -⟩ := hfile approval hspent
          rw [hempty] at hwritten
          cases hwritten.encoded
        · exact (hread data read hdata hr).2 hvalid
      rcases hstore with hstore | hstore
      · rw [hstore]
        exact ⟨fun r hr => Option.some.inj hr ▸ hregistry, Or.inr ⟨registry, rfl, hregistry⟩⟩
      · rw [hstore]
        exact ⟨fun r hr => (by cases hr), Or.inr ⟨registry, rfl, hregistry⟩⟩
    · rw [hstore]
      exact ⟨fun r hr' => Option.some.inj hr' ▸ (hread data registry hdata hr).1,
        Or.inl hdata.symm⟩
  refine hk.frame ha ?_ ?_ (fun r hr => ⟨(hgood.1 r hr).1, (hgood.1 r hr).2.1⟩) ?_ ?_
  · intro id handler hid
    rw [hnone id] at hid
    cases hid
  · rintro id approval ⟨handler, hid, -⟩
    rw [hnone id] at hid
    cases hid
  · intro data hdata
    rcases hgood.2 with hsame | ⟨registry, hencoded, hregistry⟩
    · rw [hsame] at hdata ⊢
      exact hk.file data hdata
    · exact ⟨registry, hencoded, hregistry.1, hregistry.2.1⟩
  · intro approval hspent
    refine ⟨fun r hr => (hgood.1 r hr).2.2 approval hspent, ?_⟩
    rcases hgood.2 with hsame | ⟨registry, hencoded, hregistry⟩
    · rw [hsame]
      exact hfile approval hspent
    · exact ⟨registry, ⟨hencoded, hregistry.1, hregistry.2.1⟩, hregistry.2.2 approval hspent⟩

end Keep

/-- One step under the condition keeps the invariant. -/
theorem kept_step (h : List (Event × Answer)) (service : Service) (e : Event)
    (hk : Kept digest h service) (hok : Remembering service e) :
    Kept digest (h ++ [(e, answer (step digest controllerID infrastructureID) service e)])
      (next (step digest controllerID infrastructureID) service e) := by
  unfold answer next
  -- A step that leaves everything but the latest instant.
  have stays : ∀ (service' : Service) (a : Answer), dispatched [(e, a)] = [] →
      service'.store = service.store → service'.handlers = service.handlers →
      service.latest ≤ service'.latest → Kept digest (h ++ [(e, a)]) service' :=
    fun service' a ha hstore hhandlers hlatest => hk.stay ha hstore hlatest fun id handler hid =>
      ⟨handler, hhandlers ▸ hid, rfl, rfl, fun hp => hp, fun hp => hp⟩
  cases e with
  | arrive id approval now admitted pinned =>
      simp only [step]
      split
      · rename_i registry signed hfree hserved hdecoded
        split
        · exact stays _ _ rfl rfl rfl (le_max_left _ _)
        split
        · exact stays _ _ rfl rfl rfl (le_max_left _ _)
        split
        · exact stays _ _ rfl rfl rfl (le_max_left _ _)
        · rename_i hwindow
          rw [not_or, Nat.not_lt, Nat.not_le] at hwindow
          exact hk.arrive rfl hdecoded hok hwindow.2 rfl rfl
            (fun other ho => Service.set_other _ ho _) (Service.set_same _ _ _)
      · exact stays _ _ rfl rfl rfl (Nat.le_refl _)
  | judge id =>
      simp only [step]
      split
      · rename_i approval record registry hid hserved
        split
        · exact hk.set rfl id fun handler hh => by cases hh
        · refine hk.set rfl id fun handler hh => ?_
          obtain rfl := Option.some.inj hh
          exact ⟨_, hid, rfl, rfl, rfl, rfl⟩
      · exact stays _ _ rfl rfl rfl (Nat.le_refl _)
  | look id =>
      simp only [step]
      split
      · rename_i approval record registry hid hserved
        split
        · exact hk.set rfl id fun handler hh => by cases hh
        · refine hk.set rfl id fun handler hh => ?_
          obtain rfl := Option.some.inj hh
          exact ⟨_, hid, rfl, rfl, rfl, rfl⟩
      · exact stays _ _ rfl rfl rfl (Nat.le_refl _)
  | accept id session outcome =>
      simp only [step]
      split
      · rename_i approval record registry hid hserved
        obtain ⟨hfresh, hforgetful⟩ := hok _ registry hid hserved
        split
        · exact hk.set rfl id fun handler hh => by cases hh
        rcases commit_cases service.store outcome (registry.accept record) with
          hc | ⟨candidate, hcandidate, hw, hc | hc⟩
        · rw [hc]
          exact hk.set rfl id fun handler hh => by cases hh
        · obtain ⟨-, rfl⟩ := accept_cases hcandidate
          rw [hc]
          exact hk.accept rfl hid hserved hfresh hforgetful hw rfl rfl
            (fun other ho => Service.set_other _ ho _) (Service.set_same _ _ _)
        · obtain ⟨-, rfl⟩ := accept_cases hcandidate
          rw [hc]
          obtain ⟨signed, now, pinned, hdecoded, hrecord⟩ := hk.handlers id _ hid
          refine hk.commit rfl hw ?_ hforgetful ?_ rfl ?_ rfl (Or.inl rfl)
          · intro r hr
            rcases List.mem_append.1 hr with hr | hr
            · exact (hk.served registry hserved).2 r hr
            · rw [List.mem_singleton.1 hr, show record = _ from hrecord]
              exact (recordOf_spec digest now pinned hdecoded).1
          · intro b hspent
            refine ((hk.remembered b hspent).1 registry hserved).imp_left ?_
            rintro ⟨r, hr, hd⟩
            exact ⟨r, List.mem_append_left _ hr, hd⟩
          · intro other handler hother
            by_cases ho : other = id
            · subst ho
              rw [Service.set_same] at hother
              cases hother
            · rwa [Service.set_other _ ho] at hother
      · exact stays _ _ rfl rfl rfl (Nat.le_refl _)
  | launch id =>
      simp only [step]
      split
      · rename_i approval record hid
        exact hk.launch hid rfl
      · exact stays _ _ rfl rfl rfl (Nat.le_refl _)
  | conclude id conclusion finished outcome =>
      simp only [step]
      split
      · rename_i approval record registry hid hserved
        rcases commit_cases service.store outcome
            (registry.conclude record.approvalSHA256 conclusion finished.toNat) with
          hc | ⟨candidate, hcandidate, hw, hc⟩
        · rw [hc]
          exact hk.set rfl id fun handler hh => by cases hh
        · obtain ⟨-, records, hfirst, rfl⟩ := conclude_cases hcandidate
          have hforgetful := hok _ registry records hid hserved hfirst
          obtain ⟨before, old, after, hrecords, -, -, -, hresult⟩ := concludeFirst_cases hfirst
          have hbounded : ∀ r ∈ records, r.Bounded := by
            intro r hr
            have hall := (hk.served registry hserved).2
            rw [hrecords] at hall
            rw [hresult] at hr
            rcases List.mem_append.1 hr with hr | hr
            · exact hall r (List.mem_append_left _ hr)
            rcases List.mem_cons.1 hr with rfl | hr
            · have hb := hall old (List.mem_append_right _ List.mem_cons_self)
              exact ⟨hb.approvalEpoch, hb.sequence, hb.acceptedAtUnix, finished.toNat_lt,
                hb.expiresAtUnix⟩
            · exact hall r (List.mem_append_right _ (List.mem_cons_of_mem _ hr))
          have hkept : ∀ b, (b ∈ dispatched h ∨ ∃ id, Due service id b) →
              Remembered digest service ⟨registry.schemaVersion, registry.controllerID,
                registry.infrastructureID, records⟩ b := by
            intro b hspent
            refine ((hk.remembered b hspent).1 registry hserved).imp_left ?_
            rintro ⟨r, hr, hd, hexp⟩
            rw [hrecords] at hr
            rcases List.mem_append.1 hr with hr | hr
            · exact ⟨r, hresult ▸ List.mem_append_left _ hr, hd, hexp⟩
            rcases List.mem_cons.1 hr with rfl | hr
            · exact ⟨r.concluded conclusion finished.toNat,
                hresult ▸ List.mem_append_right _ List.mem_cons_self, hd, hexp⟩
            · exact ⟨r, hresult ▸ List.mem_append_right _ (List.mem_cons_of_mem _ hr), hd, hexp⟩
          have hothers : ∀ (service' : Service), service'.handlers = service.handlers →
              ∀ other handler, (service'.set id none).handlers other = some handler →
                service.handlers other = some handler := by
            intro service' hsame other handler hother
            by_cases ho : other = id
            · subst ho
              rw [Service.set_same] at hother
              cases hother
            · rwa [Service.set_other _ ho, hsame] at hother
          rcases hc with hc | hc
          · rw [hc]
            exact hk.commit rfl hw hbounded hforgetful hkept rfl (hothers _ rfl) rfl (Or.inr rfl)
          · rw [hc]
            exact hk.commit rfl hw hbounded hforgetful hkept rfl (hothers _ rfl) rfl (Or.inl rfl)
      · exact stays _ _ rfl rfl rfl (Nat.le_refl _)
  | restart outcome => exact hk.restart rfl controllerID infrastructureID outcome

end Steps

/-! ## Two submissions of the same bytes -/

/-- A signed approval of a fixed machine, as it is submitted. -/
def sampleApproval : Bytes := sampleFirst.json.render

def sampleController : Bytes := text "11111111-1111-4111-8111-111111111111"

def sampleInfrastructure : Bytes := text "00000000-0000-4000-8000-000000000000"

def sampleStep : Service → Event → Service × Answer :=
  step sha256Hex sampleController sampleInfrastructure

/-- A Controller starts, and one submission gets as far as its record. -/
def sampleArrival : List Event :=
  [.restart .written, .arrive 0 sampleApproval 1 true ([], []), .judge 0, .look 0]

/-- Both submissions ask whether the bytes were spent before either record is
written, and the second one accepts once the first one is concluded. -/
def racingRun : List Event :=
  [.restart .written, .arrive 0 sampleApproval 1 true ([], []), .judge 0, .look 0,
    .arrive 1 sampleApproval 1 true ([], []), .judge 1, .look 1, .accept 0 true .written,
    .launch 0, .conclude 0 ⟨.notLaunched, [], [], false, []⟩ 1 .written,
    .accept 1 true .written, .launch 1]

end YourCloud.Controller.Submission
