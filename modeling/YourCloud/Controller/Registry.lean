import Mathlib.Data.List.Sort
import YourCloud.Controller.Record

/-!
# The dispatch registry

The registry remembers which signed bytes were launched, and what a Controller
may attest about a machine's position.  A mutation is a candidate that is
validated, encoded within the file's bound and written; memory follows the disk
and never goes ahead of it.

A write that reports a failure may have replaced the file before it failed, so
the file can be one candidate ahead of what is served.

## Main results

* `mem_of_mem_bound`, `mem_bound_of_open` — trimming adds nothing and forgets no
  open record.
* `perm_bound` — what is kept is a part of what was there, in another order.
* `accept_cases`, `conclude_cases` — everything the two mutations can write.
* `readRegistry_encode` — what was written is read back, texts replaced.
* `commit_cases`, `reopen_cases` — everything a commit and an opening can leave.
-/

namespace YourCloud.Controller

open YourCloud.Foundation
open YourCloud.Approval

/-! ## Trimming -/

/-- The records kept on a walk from the newest one, which counts the terminal
ones of each machine. -/
def keptFrom : List Bytes → List DispatchRecord → List DispatchRecord
  | _, [] => []
  | counted, record :: rest =>
      if record.terminal then
        if maxDispatchRecordsPerMachine ≤ counted.count record.machineID then
          keptFrom counted rest
        else record :: keptFrom (record.machineID :: counted) rest
      else record :: keptFrom counted rest

/-- The oldest terminal records of each machine past the bound go. -/
def boundDispatchRecords (records : List DispatchRecord) : List DispatchRecord :=
  (keptFrom [] records.reverse).insertionSort fun left right =>
    left.acceptedAtUnix ≤ right.acceptedAtUnix

theorem keptFrom_sublist (counted : List Bytes) (records : List DispatchRecord) :
    (keptFrom counted records).Sublist records := by
  induction records generalizing counted with
  | nil => exact List.Sublist.refl _
  | cons record rest ih =>
      unfold keptFrom
      split
      · split
        · exact (ih counted).cons _
        · exact (ih _).cons_cons _
      · exact (ih counted).cons_cons _

theorem mem_keptFrom_of_open (counted : List Bytes) {records : List DispatchRecord}
    {record : DispatchRecord} (h : record ∈ records) (hopen : record.terminal = false) :
    record ∈ keptFrom counted records := by
  induction records generalizing counted with
  | nil => cases h
  | cons head rest ih =>
      unfold keptFrom
      rcases List.mem_cons.1 h with rfl | h
      · rw [hopen]
        exact List.mem_cons_self
      · split
        · split
          · exact ih counted h
          · exact List.mem_cons_of_mem _ (ih _ h)
        · exact List.mem_cons_of_mem _ (ih counted h)

/-- What is kept is a part of what was there, in another order. -/
theorem perm_bound (records : List DispatchRecord) :
    ∃ kept, kept.Sublist records ∧ (boundDispatchRecords records).Perm kept := by
  refine ⟨(keptFrom [] records.reverse).reverse, ?_, ?_⟩
  · have := (keptFrom_sublist [] records.reverse).reverse
    rwa [List.reverse_reverse] at this
  · exact (List.perm_insertionSort _ _).trans (List.reverse_perm _).symm

theorem mem_of_mem_bound {records : List DispatchRecord} {record : DispatchRecord}
    (h : record ∈ boundDispatchRecords records) : record ∈ records := by
  obtain ⟨kept, hsub, hperm⟩ := perm_bound records
  exact hsub.subset (hperm.subset h)

theorem mem_bound_of_open {records : List DispatchRecord} {record : DispatchRecord}
    (h : record ∈ records) (hopen : record.terminal = false) :
    record ∈ boundDispatchRecords records := by
  rw [boundDispatchRecords, List.mem_insertionSort]
  exact mem_keptFrom_of_open [] (List.mem_reverse.2 h) hopen

/-- The open records are those there were, in another order. -/
theorem openDigests_bound (records : List DispatchRecord) :
    (DispatchRegistry.openDigests (boundDispatchRecords records)).Perm
      (DispatchRegistry.openDigests records) := by
  have hwalk (counted : List Bytes) (walked : List DispatchRecord) :
      (keptFrom counted walked).filter (fun record => !record.terminal) =
        walked.filter fun record => !record.terminal := by
    induction walked generalizing counted with
    | nil => rfl
    | cons record rest ih =>
        unfold keptFrom
        split
        · rename_i hterminal
          split
          · rw [ih, List.filter_cons_of_neg (by simp [hterminal])]
          · rw [List.filter_cons_of_neg (by simp [hterminal]),
              List.filter_cons_of_neg (by simp [hterminal]), ih]
        · rename_i hopen
          rw [List.filter_cons_of_pos (by simpa using hopen),
            List.filter_cons_of_pos (by simpa using hopen), ih]
  have hsorted := ((List.perm_insertionSort (fun left right : DispatchRecord =>
    left.acceptedAtUnix ≤ right.acceptedAtUnix) (keptFrom [] records.reverse)).filter
      fun record => !record.terminal)
  rw [hwalk] at hsorted
  have hreversed := (List.reverse_perm records).filter fun record => !record.terminal
  exact (hsorted.trans hreversed).map DispatchRecord.approvalSHA256

/-! ## What the registry answers -/

/-- Whether these exact signed bytes already hold a record, in any state. -/
def DispatchRegistry.alreadySpent (registry : DispatchRegistry) (approvalSHA256 : Bytes) : Bool :=
  registry.records.any fun record => record.approvalSHA256 = approvalSHA256

/-- The highest sequence a valid report of this machine named as consumed. -/
def DispatchRegistry.highestReportedSequence (registry : DispatchRegistry)
    (machineID : Bytes) : Nat :=
  registry.records.foldl (fun highest record =>
    if record.machineID = machineID ∧ record.state = .reported ∧ highest < record.sequence
      then record.sequence else highest) 0

/-- The same position, and whether it is certain: no launch of this machine is
without its report. -/
def DispatchRegistry.commandPosition (registry : DispatchRegistry) (machineID : Bytes) :
    Nat × Bool :=
  registry.records.foldl (fun (highest, certain) record =>
    if record.machineID ≠ machineID then (highest, certain)
    else
      match record.state with
      | .reported => (if highest < record.sequence then record.sequence else highest, certain)
      | .launchedUnreported => (highest, false)
      | .inFlight => (highest, false)
      | _ => (highest, certain)) (0, true)

theorem alreadySpent_iff {registry : DispatchRegistry} {approvalSHA256 : Bytes} :
    registry.alreadySpent approvalSHA256 = true ↔
      ∃ record ∈ registry.records, record.approvalSHA256 = approvalSHA256 := by
  rw [DispatchRegistry.alreadySpent, List.any_eq_true]
  simp only [decide_eq_true_eq]

/-- The highest sequence reported is that of a report, or zero. -/
theorem highestReportedSequence_mem {registry : DispatchRegistry} {machineID : Bytes}
    (h : 0 < registry.highestReportedSequence machineID) :
    ∃ record ∈ registry.records, record.machineID = machineID ∧ record.state = .reported ∧
      record.sequence = registry.highestReportedSequence machineID := by
  -- Reading further, the highest one is what it was or that of a report read since.
  have hwalk (records : List DispatchRecord) (start highest : Nat)
      (hread : records.foldl (fun highest record =>
        if record.machineID = machineID ∧ record.state = .reported ∧ highest < record.sequence
          then record.sequence else highest) start = highest) :
      highest = start ∨ ∃ record ∈ records, record.machineID = machineID ∧
        record.state = .reported ∧ record.sequence = highest := by
    induction records generalizing start with
    | nil => exact Or.inl hread.symm
    | cons record rest ih =>
        rw [List.foldl_cons] at hread
        have hrest := ih _ hread
        by_cases hhigher : record.machineID = machineID ∧ record.state = .reported ∧
            start < record.sequence
        · rw [if_pos hhigher] at hrest
          cases hrest with
          | inl hsame =>
              exact Or.inr ⟨record, List.mem_cons_self, hhigher.1, hhigher.2.1, hsame.symm⟩
          | inr hlater =>
              obtain ⟨other, hother, hreported⟩ := hlater
              exact Or.inr ⟨other, List.mem_cons_of_mem _ hother, hreported⟩
        · rw [if_neg hhigher] at hrest
          cases hrest with
          | inl hsame => exact Or.inl hsame
          | inr hlater =>
              obtain ⟨other, hother, hreported⟩ := hlater
              exact Or.inr ⟨other, List.mem_cons_of_mem _ hother, hreported⟩
  exact (hwalk registry.records 0 _ rfl).resolve_left (Nat.ne_of_gt h)

/-! ## Mutations -/

/-- The record a conclusion leaves. -/
def DispatchRecord.concluded (record : DispatchRecord) (conclusion : DispatchConclusion)
    (finishedAtUnix : Nat) : DispatchRecord :=
  { record with
    state := conclusion.state
    machineSentence := conclusion.machineSentence
    controllerObservation := conclusion.controllerObservation
    reportedChanged := conclusion.reportedChanged
    reportedOutcome := conclusion.reportedOutcome
    finishedAtUnix := finishedAtUnix }

/-- The first record of these bytes concluded, unless it already is. -/
def concludeFirst (approvalSHA256 : Bytes) (conclusion : DispatchConclusion)
    (finishedAtUnix : Nat) : List DispatchRecord → Option (List DispatchRecord)
  | [] => none
  | record :: rest =>
      if record.approvalSHA256 ≠ approvalSHA256 then
        (concludeFirst approvalSHA256 conclusion finishedAtUnix rest).map (record :: ·)
      else if record.terminal then none
      else some (record.concluded conclusion finishedAtUnix :: rest)

/-- The candidate an acceptance commits. -/
def DispatchRegistry.accept (registry : DispatchRegistry) (record : DispatchRecord) :
    Option DispatchRegistry :=
  if record.state ≠ .inFlight then none
  else some { registry with records := boundDispatchRecords (registry.records ++ [record]) }

/-- The candidate a conclusion commits. -/
def DispatchRegistry.conclude (registry : DispatchRegistry) (approvalSHA256 : Bytes)
    (conclusion : DispatchConclusion) (finishedAtUnix : Nat) : Option DispatchRegistry :=
  if conclusion.state = .inFlight then none
  else
    (concludeFirst approvalSHA256 conclusion finishedAtUnix registry.records).map fun records =>
      { registry with records := boundDispatchRecords records }

/-! ## The durable document -/

/-- How a replacement of the file ends: a failure is met before the rename or
after it. -/
inductive Persisted where
  | written
  | renamed
  | lost
  deriving DecidableEq, Repr

/-- Whether a candidate is written at all. -/
def DispatchRegistry.writable (candidate : DispatchRegistry) : Bool :=
  candidate.validate && decide (candidate.encode.length ≤ maxDispatchStateBytes)

/-- The registry of a Controller: what it serves, nothing while it is down, and
the file. -/
structure Store where
  served : Option DispatchRegistry
  file : Option Bytes
  deriving DecidableEq

/-- The file replaced; whether the candidate was written durably. -/
def persist (outcome : Persisted) (candidate : DispatchRegistry) (file : Option Bytes) :
    Option Bytes × Bool :=
  if candidate.writable then
    match outcome with
    | .written => (some candidate.encode, true)
    | .renamed => (some candidate.encode, false)
    | .lost => (file, false)
  else (file, false)

/-- A candidate committed: the disk first, and what is served only once the
write succeeded. -/
def Store.commit (store : Store) (outcome : Persisted) (candidate : Option DispatchRegistry) :
    Store × Bool :=
  match candidate with
  | none => (store, false)
  | some candidate =>
      let (file, written) := persist outcome candidate store.file
      ({ served := if written then some candidate else store.served, file }, written)

/-! ## Opening -/

/-- The document of a file, when it is one this installation wrote. -/
def readRegistry (controllerID infrastructureID data : Bytes) : Option DispatchRegistry :=
  if data.length = 0 ∨ maxDispatchStateBytes < data.length then none
  else
    match Json.decode DispatchRegistry.read data with
    | none => none
    | some registry =>
        if registry.validate = false then none
        else if registry.controllerID ≠ controllerID ∨
            registry.infrastructureID ≠ infrastructureID then none
        else some registry

/-- A record found open belongs to a life that was cut. -/
def DispatchRecord.requalified (record : DispatchRecord) : DispatchRecord :=
  if record.state = .inFlight then { record with state := .launchedUnreported } else record

def DispatchRegistry.requalified (registry : DispatchRegistry) : DispatchRegistry :=
  { registry with records := registry.records.map DispatchRecord.requalified }

def emptyRegistry (controllerID infrastructureID : Bytes) : DispatchRegistry :=
  ⟨dispatchRegistrySchema, controllerID, infrastructureID, []⟩

/-- The registry read back before anything is served: an absent file is created,
and open records are requalified durably. -/
def Store.reopen (controllerID infrastructureID : Bytes) (outcome : Persisted) (store : Store) :
    Store :=
  match store.file with
  | none =>
      ({ store with served := none }.commit outcome
        (some (emptyRegistry controllerID infrastructureID))).1
  | some data =>
      match readRegistry controllerID infrastructureID data with
      | none => { store with served := none }
      | some registry =>
          if registry.records.any (fun record => !record.terminal) then
            ({ store with served := none }.commit outcome (some registry.requalified)).1
          else { store with served := some registry }

/-! ## What the mutations write -/

/-- The record of these bytes is concluded, and every other one stays. -/
theorem concludeFirst_cases {approvalSHA256 : Bytes} {conclusion : DispatchConclusion}
    {finishedAtUnix : Nat} {records result : List DispatchRecord}
    (h : concludeFirst approvalSHA256 conclusion finishedAtUnix records = some result) :
    ∃ before record after, records = before ++ record :: after ∧
      record.approvalSHA256 = approvalSHA256 ∧ record.terminal = false ∧
      (∀ r ∈ before, r.approvalSHA256 ≠ approvalSHA256) ∧
      result = before ++ record.concluded conclusion finishedAtUnix :: after := by
  induction records generalizing result with
  | nil => cases h
  | cons head rest ih =>
      unfold concludeFirst at h
      split at h
      · rename_i hne
        obtain ⟨tail, htail, rfl⟩ := Option.map_eq_some_iff.1 h
        obtain ⟨before, record, after, rfl, hd, ht, hb, rfl⟩ := ih htail
        refine ⟨head :: before, record, after, rfl, hd, ht, ?_, rfl⟩
        exact List.forall_mem_cons.2 ⟨hne, hb⟩
      · rename_i heq
        split at h
        · cases h
        · rename_i hopen
          obtain rfl := Option.some.inj h
          exact ⟨[], head, rest, rfl, not_not.1 heq, by simpa using hopen,
            fun r hr => absurd hr List.not_mem_nil, rfl⟩

theorem accept_cases {registry candidate : DispatchRegistry} {record : DispatchRecord}
    (h : registry.accept record = some candidate) :
    record.state = .inFlight ∧
      candidate = { registry with
        records := boundDispatchRecords (registry.records ++ [record]) } := by
  unfold DispatchRegistry.accept at h
  split at h
  · cases h
  · rename_i hstate
    exact ⟨not_not.1 hstate, (Option.some.inj h).symm⟩

theorem conclude_cases {registry candidate : DispatchRegistry} {approvalSHA256 : Bytes}
    {conclusion : DispatchConclusion} {finishedAtUnix : Nat}
    (h : registry.conclude approvalSHA256 conclusion finishedAtUnix = some candidate) :
    conclusion.state ≠ .inFlight ∧
      ∃ records, concludeFirst approvalSHA256 conclusion finishedAtUnix registry.records =
          some records ∧
        candidate = { registry with records := boundDispatchRecords records } := by
  unfold DispatchRegistry.conclude at h
  split at h
  · cases h
  · rename_i hstate
    obtain ⟨records, hr, rfl⟩ := Option.map_eq_some_iff.1 h
    exact ⟨hstate, records, hr, rfl⟩

theorem writable_iff {candidate : DispatchRegistry} :
    candidate.writable = true ↔
      candidate.validate = true ∧ candidate.encode.length ≤ maxDispatchStateBytes := by
  rw [DispatchRegistry.writable, Bool.and_eq_true, decide_eq_true_eq]

/-- A replacement of the file: it stays, or it holds a candidate that could be
written; success says that it does. -/
theorem persist_cases (outcome : Persisted) (candidate : DispatchRegistry)
    (file : Option Bytes) :
    ((persist outcome candidate file).1 = file ∧ (persist outcome candidate file).2 = false) ∨
      candidate.writable = true ∧
        (persist outcome candidate file).1 = some candidate.encode := by
  unfold persist
  split
  · rename_i hw
    cases outcome with
    | written => exact Or.inr ⟨hw, rfl⟩
    | renamed => exact Or.inr ⟨hw, rfl⟩
    | lost => exact Or.inl ⟨rfl, rfl⟩
  · exact Or.inl ⟨rfl, rfl⟩

/-- Everything a commit can leave: nothing moved; or the file holds the
candidate, which is served as well exactly when the write succeeded. -/
theorem commit_cases (store : Store) (outcome : Persisted)
    (candidate : Option DispatchRegistry) :
    (store.commit outcome candidate = (store, false)) ∨
      ∃ registry, candidate = some registry ∧ registry.writable = true ∧
        (store.commit outcome candidate =
            (⟨some registry, some registry.encode⟩, true) ∨
          store.commit outcome candidate =
            ({ store with file := some registry.encode }, false)) := by
  cases candidate with
  | none => exact Or.inl rfl
  | some registry =>
      rw [Store.commit]
      rcases persist_cases outcome registry store.file with ⟨hfile, hfail⟩ | ⟨hw, hfile⟩
      · left
        rw [show persist outcome registry store.file = (store.file, false) from
          Prod.ext hfile hfail]
        rfl
      · right
        refine ⟨registry, rfl, hw, ?_⟩
        cases hs : (persist outcome registry store.file).2 with
        | true =>
            left
            rw [show persist outcome registry store.file = (some registry.encode, true) from
              Prod.ext hfile hs]
            rfl
        | false =>
            right
            rw [show persist outcome registry store.file = (some registry.encode, false) from
              Prod.ext hfile hs]
            rfl

/-! ## What is read back -/

theorem readRegistry_iff {controllerID infrastructureID data : Bytes}
    {registry : DispatchRegistry} :
    readRegistry controllerID infrastructureID data = some registry ↔
      (data ≠ [] ∧ data.length ≤ maxDispatchStateBytes) ∧
        Json.decode DispatchRegistry.read data = some registry ∧
        registry.validate = true ∧
        registry.controllerID = controllerID ∧ registry.infrastructureID = infrastructureID := by
  unfold readRegistry
  constructor
  · intro h
    split at h
    · cases h
    rename_i hlength
    rw [not_or, Nat.not_lt, List.length_eq_zero_iff] at hlength
    split at h
    · cases h
    rename_i read hread
    split at h
    · cases h
    rename_i hvalid
    split at h
    · cases h
    rename_i hids
    obtain rfl := Option.some.inj h
    rw [not_or, not_not, not_not] at hids
    exact ⟨hlength, hread, by simpa using hvalid, hids⟩
  · rintro ⟨⟨hne, hlength⟩, hread, hvalid, hcontroller, hinfrastructure⟩
    rw [if_neg (not_or.2 ⟨fun h0 => hne (List.length_eq_zero_iff.1 h0), Nat.not_lt.2 hlength⟩),
      hread]
    simp [hvalid, hcontroller, hinfrastructure]

/-- A written registry is read back as itself, texts replaced, or refused. -/
theorem readRegistry_encode {registry read : DispatchRegistry} {controllerID : Bytes}
    {infrastructureID : Bytes} (hvalid : registry.validate = true)
    (hb : ∀ record ∈ registry.records, record.Bounded)
    (h : readRegistry controllerID infrastructureID registry.encode = some read) :
    read = registry.sanitize := by
  have hdecode := DispatchRegistry.decode_encode (DispatchRegistry.validate_iff.1 hvalid).1 hb
  exact Option.some.inj ((readRegistry_iff.1 h).2.1.symm.trans hdecode)

@[simp] theorem requalified_terminal (record : DispatchRecord) :
    record.requalified.terminal = true := by
  unfold DispatchRecord.requalified
  split
  · rfl
  · rename_i hstate
    exact decide_eq_true hstate

@[simp] theorem requalified_approvalSHA256 (record : DispatchRecord) :
    record.requalified.approvalSHA256 = record.approvalSHA256 := by
  unfold DispatchRecord.requalified
  split <;> rfl

@[simp] theorem requalified_expiresAtUnix (record : DispatchRecord) :
    record.requalified.expiresAtUnix = record.expiresAtUnix := by
  unfold DispatchRecord.requalified
  split <;> rfl

theorem DispatchRecord.Bounded.requalified {record : DispatchRecord} (h : record.Bounded) :
    record.requalified.Bounded := by
  unfold DispatchRecord.requalified
  split
  · exact ⟨h.approvalEpoch, h.sequence, h.acceptedAtUnix, h.finishedAtUnix, h.expiresAtUnix⟩
  · exact h

theorem DispatchRecord.Bounded.sanitize {record : DispatchRecord} (h : record.Bounded) :
    record.sanitize.Bounded :=
  ⟨h.approvalEpoch, h.sequence, h.acceptedAtUnix, h.finishedAtUnix, h.expiresAtUnix⟩

/-- Everything opening can leave: nothing is served and the file stays, or holds
an empty registry or the requalified one; or one of these is served. -/
theorem reopen_cases (controllerID infrastructureID : Bytes) (outcome : Persisted)
    (store : Store) :
    (store.reopen controllerID infrastructureID outcome = ⟨none, store.file⟩) ∨
      (∃ registry, ((store.file = none ∧ registry = emptyRegistry controllerID infrastructureID) ∨
          ∃ data read, store.file = some data ∧
            readRegistry controllerID infrastructureID data = some read ∧
            registry = read.requalified) ∧ registry.writable = true ∧
        (store.reopen controllerID infrastructureID outcome =
            ⟨some registry, some registry.encode⟩ ∨
          store.reopen controllerID infrastructureID outcome =
            ⟨none, some registry.encode⟩)) ∨
      ∃ data registry, store.file = some data ∧
        readRegistry controllerID infrastructureID data = some registry ∧
        store.reopen controllerID infrastructureID outcome = ⟨some registry, some data⟩ := by
  unfold Store.reopen
  split
  · rename_i hfile
    rcases commit_cases { store with served := none } outcome
        (some (emptyRegistry controllerID infrastructureID)) with h | ⟨registry, hr, hw, h⟩
    · rw [h]
      exact Or.inl rfl
    · obtain rfl := Option.some.inj hr
      refine Or.inr (Or.inl ⟨_, Or.inl ⟨hfile, rfl⟩, hw, ?_⟩)
      rcases h with h | h
      · exact Or.inl (by rw [h])
      · exact Or.inr (by rw [h])
  · rename_i data hfile
    split
    · exact Or.inl rfl
    · rename_i read hread
      split
      · rcases commit_cases { store with served := none } outcome (some read.requalified) with
          h | ⟨registry, hr, hw, h⟩
        · rw [h]
          exact Or.inl rfl
        · obtain rfl := Option.some.inj hr
          refine Or.inr (Or.inl ⟨_, Or.inr ⟨data, read, hfile, hread, rfl⟩, hw, ?_⟩)
          rcases h with h | h
          · exact Or.inl (by rw [h])
          · exact Or.inr (by rw [h])
      · exact Or.inr (Or.inr ⟨data, read, hfile, hread, by rw [hfile]⟩)

end YourCloud.Controller
