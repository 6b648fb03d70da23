import YourCloud.Controller.Registry
import YourCloud.Foundation.Retention
import YourCloud.Foundation.Run
import YourCloud.Foundation.Sha256

/-!
# The history that the dispatch registry keeps

Beside the registry stands everything that was ever accepted, in the order in which it was:
what the registry serves and what its file holds are held against it.  The open records
should be there, and of each machine the latest 32 terminal ones, in that order.

A trimming walks the records from the newest one, and sorts what it kept by the second of
its acceptance; so records of one second change places at every write, and a clock that
went back moves a record to before those it was accepted after.  An opening requalifies
open records and trims nothing.

## Main results

* `boundDispatchRecords_eq` — what a trimming leaves where the seconds grow.
* `Tracks.accept`, `Tracks.conclude`, `Tracks.reread`, `Tracks.requalified` — what each
  mutation keeps.
* `good_run` — what the mutations keep, a run keeps.
* `ordered_run` — in every run whose steps all meet `InOrder`, what is kept is what should be.
-/

namespace YourCloud.Controller.DispatchHistory

open YourCloud.Foundation
open YourCloud.Foundation.Retention (retained countClosed settle)
open YourCloud.Approval

/-! ## What should be kept -/

/-- The open records, and the most recently accepted terminal ones of each machine. -/
def recent (accepted : List DispatchRecord) : List DispatchRecord :=
  retained DispatchRecord.terminal DispatchRecord.machineID maxDispatchRecordsPerMachine accepted

/-- An open record of these bytes. -/
def openRecord (approvalSHA256 : Bytes) (record : DispatchRecord) : Bool :=
  record.approvalSHA256 = approvalSHA256 && !record.terminal

/-- Everything that was accepted, as far as what is served goes, and as far as the file. -/
structure Accepted where
  served : List DispatchRecord
  file : List DispatchRecord

def Accepted.initial : Accepted := ⟨[], []⟩

/-- A record whose numbers are words, as every one is that is submitted. -/
abbrev WordedRecord := { record : DispatchRecord // record.Bounded }

inductive Event where
  | accept (record : WordedRecord) (outcome : Persisted)
  | conclude (approvalSHA256 : Bytes) (conclusion : DispatchConclusion) (finished : UInt64)
      (outcome : Persisted)
  | reopen (outcome : Persisted)

section Steps

-- The installation.
variable (controllerID infrastructureID : Bytes)

/-- Nothing is served before the first opening, or after one that failed. -/
def step (store : Store) : Event → Store × Bool
  | .accept record outcome =>
      match store.served with
      | none => (store, false)
      | some registry => store.commit outcome (registry.accept record)
  | .conclude approvalSHA256 conclusion finished outcome =>
      match store.served with
      | none => (store, false)
      | some registry =>
          store.commit outcome (registry.conclude approvalSHA256 conclusion finished.toNat)
  | .reopen outcome =>
      let store := store.reopen controllerID infrastructureID outcome
      (store, store.served.isSome)

/-- What is accepted once a candidate was committed. -/
def Accepted.commit (accepted : Accepted) (outcome : Persisted)
    (candidate : Option DispatchRegistry) (records : List DispatchRecord) : Accepted :=
  match candidate with
  | none => accepted
  | some candidate =>
      if candidate.writable then
        match outcome with
        | .written => ⟨records, records⟩
        | .renamed => { accepted with file := records }
        | .lost => accepted
      else accepted

/-- What a step adds to what was accepted, or changes of it. -/
def note (store : Store) (event : Event) (accepted : Accepted) : Accepted :=
  match event with
  | .accept record outcome =>
      match store.served with
      | none => accepted
      | some registry =>
          accepted.commit outcome (registry.accept record) (accepted.served ++ [record.1])
  | .conclude approvalSHA256 conclusion finished outcome =>
      match store.served with
      | none => accepted
      | some registry =>
          accepted.commit outcome (registry.conclude approvalSHA256 conclusion finished.toNat)
            (settle (openRecord approvalSHA256)
              (DispatchRecord.concluded · conclusion finished.toNat) accepted.served)
  | .reopen outcome =>
      match store.file with
      | none => accepted.commit outcome (some (emptyRegistry controllerID infrastructureID)) []
      | some data =>
          match readRegistry controllerID infrastructureID data with
          | none => accepted
          | some registry =>
              let read := accepted.file.map DispatchRecord.sanitize
              if registry.records.any (fun record => !record.terminal) then
                accepted.commit outcome (some registry.requalified)
                  (read.map DispatchRecord.requalified)
              else { accepted with served := read }

/-- What is served, and what the file holds, is what should be kept. -/
structure Ordered (s : Store × Accepted) : Prop where
  served : ∀ registry, s.1.served = some registry → registry.records = recent s.2.served
  file : ∀ data, s.1.file = some data →
    ∃ registry : DispatchRegistry, data = registry.encode ∧ registry.records = recent s.2.file

/-- A step under which it is: a valid record that may be written is accepted after every record
that is held, and what an opening may requalify is not more of any machine than is kept of
terminal records. -/
def InOrder (s : Store × Accepted) : Event → Prop
  | .accept record outcome => record.1.validate = true → record.1.state = .inFlight →
      outcome ≠ .lost → ∀ registry, s.1.served = some registry →
        ∀ held ∈ registry.records, held.acceptedAtUnix < record.1.acceptedAtUnix
  | .conclude _ _ _ _ => True
  | .reopen outcome => outcome ≠ .lost → ∀ data registry, s.1.file = some data →
      readRegistry controllerID infrastructureID data = some registry →
      (registry.records.any fun record => !record.terminal) = true →
        ∀ machineID, (registry.records.countP fun record => record.machineID = machineID) ≤
          maxDispatchRecordsPerMachine

end Steps

/-! ## Trimming -/

/-- The walk from the newest record keeps what should be kept. -/
theorem keptFrom_retained (walked : List DispatchRecord) {counted : List Bytes}
    {later : List DispatchRecord}
    (h : ∀ machineID, counted.count machineID = min maxDispatchRecordsPerMachine
      (countClosed DispatchRecord.terminal DispatchRecord.machineID machineID later)) :
    (keptFrom counted walked).reverse ++ recent later = recent (walked.reverse ++ later) := by
  induction walked generalizing counted later with
  | nil => rfl
  | cons record rest ih =>
      rw [List.reverse_cons, List.append_assoc, List.singleton_append, keptFrom]
      have hself := h record.machineID
      have hrecent : recent (record :: later) =
          if record.terminal = true ∧ maxDispatchRecordsPerMachine ≤
            countClosed DispatchRecord.terminal DispatchRecord.machineID record.machineID later
          then recent later else record :: recent later := rfl
      have hcons (machineID : Bytes) :
          countClosed DispatchRecord.terminal DispatchRecord.machineID machineID
            (record :: later) =
          countClosed DispatchRecord.terminal DispatchRecord.machineID machineID later +
            if record.terminal = true ∧ record.machineID = machineID then 1 else 0 :=
        Retention.countClosed_cons machineID record later
      cases hterminal : record.terminal with
      | false =>
          rw [hterminal, if_neg (by simp)] at hrecent
          rw [if_neg (by simp), List.reverse_cons, List.append_assoc, List.singleton_append,
            ← hrecent]
          apply ih
          intro machineID
          rw [h, hcons, hterminal]
          simp
      | true =>
          rw [if_pos rfl]
          by_cases hfull : maxDispatchRecordsPerMachine ≤ counted.count record.machineID
          · rw [hterminal, if_pos ⟨rfl, by omega⟩] at hrecent
            rw [if_pos hfull, ← hrecent]
            apply ih
            intro machineID
            rw [h, hcons, hterminal]
            by_cases hsame : record.machineID = machineID
            · rw [← hsame, if_pos ⟨rfl, rfl⟩]
              omega
            · rw [if_neg (by simp [hsame])]
              rfl
          · rw [hterminal, if_neg (by omega)] at hrecent
            rw [if_neg hfull, List.reverse_cons, List.append_assoc, List.singleton_append,
              ← hrecent]
            apply ih
            intro machineID
            rw [List.count_cons, h, hcons, hterminal]
            by_cases hsame : record.machineID = machineID
            · rw [← hsame, if_pos (by simp), if_pos ⟨rfl, rfl⟩]
              omega
            · rw [if_neg (by simpa using hsame), if_neg (by simp [hsame])]
              rfl

/-- Records whose seconds grow. -/
def Growing (records : List DispatchRecord) : Prop :=
  records.Pairwise fun left right => left.acceptedAtUnix < right.acceptedAtUnix

theorem Growing.recent {records : List DispatchRecord} (h : Growing records) :
    Growing (recent records) := h.sublist (Retention.retained_sublist records)

/-- What a trimming leaves where the seconds grow. -/
theorem boundDispatchRecords_eq {records : List DispatchRecord} (h : Growing records) :
    boundDispatchRecords records = recent records := by
  have hkept : keptFrom [] records.reverse = (recent records).reverse := by
    have hnothing (machineID : Bytes) : ([] : List Bytes).count machineID =
        min maxDispatchRecordsPerMachine
          (countClosed DispatchRecord.terminal DispatchRecord.machineID machineID []) := rfl
    have hwalk := keptFrom_retained records.reverse hnothing
    rw [List.reverse_reverse, List.append_nil] at hwalk
    have hnone : recent [] = [] := rfl
    rw [← hwalk, hnone, List.append_nil, List.reverse_reverse]
  rw [boundDispatchRecords, hkept]
  exact Retention.insertionSort_reverse DispatchRecord.acceptedAtUnix h.recent

/-! ## What a mutation keeps -/

/-- A registry holds what should be kept of what was accepted, in growing seconds. -/
structure Tracks (accepted : List DispatchRecord) (registry : DispatchRegistry) : Prop where
  kept : registry.records = recent accepted
  growing : Growing registry.records
  bounded : ∀ record ∈ registry.records, record.Bounded
  -- The name of a machine is plain, so that nothing is replaced in it when it is read back.
  named : ∀ record ∈ accepted, canonicalMachine record.machineID = true

theorem Tracks.accept {accepted : List DispatchRecord} {registry candidate : DispatchRegistry}
    {record : DispatchRecord} (h : Tracks accepted registry) (hbounded : record.Bounded)
    (hlater : record.validate = true → record.state = .inFlight →
      ∀ held ∈ registry.records, held.acceptedAtUnix < record.acceptedAtUnix)
    (hcandidate : registry.accept record = some candidate) (hvalid : candidate.validate = true) :
    Tracks (accepted ++ [record]) candidate := by
  obtain ⟨hstate, hrecords⟩ := accept_cases hcandidate
  have hopen : record.terminal = false := by
    simp [DispatchRecord.terminal, hstate]
  have hmember : record ∈ candidate.records := by
    rw [hrecords]
    exact mem_bound_of_open (by simp) hopen
  have hrecord := (DispatchRegistry.validate_iff.1 hvalid).2.2.2.1 record hmember
  have hgrowing : Growing (registry.records ++ [record]) := by
    refine List.pairwise_append.2 ⟨h.growing, List.pairwise_singleton _ _, ?_⟩
    intro held hheld other hother
    rw [List.mem_singleton] at hother
    rw [hother]
    exact hlater hrecord hstate held hheld
  have hkept : candidate.records = recent (accepted ++ [record]) := by
    rw [hrecords]
    show boundDispatchRecords (registry.records ++ [record]) = recent (accepted ++ [record])
    rw [boundDispatchRecords_eq hgrowing, h.kept]
    exact Retention.retained_append accepted [record]
  have hsame : recent (accepted ++ [record]) = registry.records ++ [record] := by
    rw [h.kept]
    exact Retention.retained_concat_open accepted hopen
  constructor
  · exact hkept
  · rw [hkept, hsame]
    exact hgrowing
  · rw [hkept, hsame, List.forall_mem_append, List.forall_mem_singleton]
    exact ⟨h.bounded, hbounded⟩
  · rw [List.forall_mem_append, List.forall_mem_singleton]
    exact ⟨h.named, (DispatchRecord.validate_iff.1 hrecord).2.2.2.1⟩

/-- A conclusion is that of the first open record of its bytes. -/
theorem concludeFirst_settle {approvalSHA256 : Bytes} {conclusion : DispatchConclusion}
    {finished : Nat} {records result : List DispatchRecord}
    (h : concludeFirst approvalSHA256 conclusion finished records = some result) :
    result = settle (openRecord approvalSHA256) (DispatchRecord.concluded · conclusion finished)
      records := by
  induction records generalizing result with
  | nil => cases h
  | cons record rest ih =>
      unfold concludeFirst at h
      rw [settle]
      by_cases hsame : record.approvalSHA256 = approvalSHA256
      · rw [if_neg (not_not.2 hsame)] at h
        cases hterminal : record.terminal with
        | true =>
            rw [hterminal, if_pos rfl] at h
            cases h
        | false =>
            rw [hterminal, if_neg Bool.false_ne_true] at h
            have hopen : openRecord approvalSHA256 record = true := by
              simp [openRecord, hsame, hterminal]
            rw [if_pos hopen]
            exact (Option.some.inj h).symm
      · rw [if_pos hsame] at h
        obtain ⟨tail, htail, hresult⟩ := Option.map_eq_some_iff.1 h
        have hother : ¬ openRecord approvalSHA256 record = true := by
          simp [openRecord, hsame]
        rw [if_neg hother, ← ih htail]
        exact hresult.symm

/-- A conclusion keeps numbers words. -/
theorem settle_bounded {records : List DispatchRecord} (approvalSHA256 : Bytes)
    (conclusion : DispatchConclusion) (finished : UInt64)
    (h : ∀ record ∈ records, record.Bounded) :
    ∀ record ∈ settle (openRecord approvalSHA256)
      (DispatchRecord.concluded · conclusion finished.toNat) records, record.Bounded := by
  intro record hrecord
  cases Retention.mem_settle hrecord with
  | inl hheld => exact h record hheld
  | inr hconcluded =>
      obtain ⟨before, hbefore, hsame⟩ := hconcluded
      obtain ⟨hepoch, hsequence, haccepted, -, hexpires⟩ := h before hbefore
      rw [hsame]
      exact ⟨hepoch, hsequence, haccepted, finished.toNat_lt, hexpires⟩

theorem Tracks.conclude {accepted : List DispatchRecord} {registry candidate : DispatchRegistry}
    {approvalSHA256 : Bytes} {conclusion : DispatchConclusion} (h : Tracks accepted registry)
    (finished : UInt64)
    (hcandidate : registry.conclude approvalSHA256 conclusion finished.toNat = some candidate) :
    Tracks (settle (openRecord approvalSHA256)
      (DispatchRecord.concluded · conclusion finished.toNat) accepted) candidate := by
  obtain ⟨-, records, hfirst, hrecords⟩ := conclude_cases hcandidate
  have hsettled := concludeFirst_settle hfirst
  have hopen (record : DispatchRecord) (hp : openRecord approvalSHA256 record = true) :
      record.terminal = false := by
    simpa using ((Bool.and_eq_true _ _).mp hp).2
  have hgrowing : Growing records := by
    have hinstants := Retention.settle_map (p := openRecord approvalSHA256)
      (f := (DispatchRecord.concluded · conclusion finished.toNat)) DispatchRecord.acceptedAtUnix
      (fun _ => rfl) registry.records
    have hgrowing : (registry.records.map DispatchRecord.acceptedAtUnix).Pairwise (· < ·) :=
      List.pairwise_map.2 h.growing
    rw [← hinstants, ← hsettled] at hgrowing
    exact List.pairwise_map.1 hgrowing
  have hkept : candidate.records = recent records := by
    rw [hrecords]
    exact boundDispatchRecords_eq hgrowing
  constructor
  · rw [hkept, hsettled, h.kept]
    exact Retention.retained_settle hopen accepted
  · rw [hkept]
    exact hgrowing.recent
  · intro record hrecord
    rw [hkept] at hrecord
    have hmem := (Retention.retained_sublist records).subset hrecord
    rw [hsettled] at hmem
    exact settle_bounded approvalSHA256 conclusion finished h.bounded record hmem
  · have hnames := Retention.settle_map (p := openRecord approvalSHA256)
      (f := (DispatchRecord.concluded · conclusion finished.toNat)) DispatchRecord.machineID
      (fun _ => rfl) accepted
    intro record hrecord
    have hname : record.machineID ∈ accepted.map DispatchRecord.machineID := by
      rw [← hnames]
      exact List.mem_map_of_mem hrecord
    obtain ⟨before, hbefore, hsame⟩ := List.mem_map.1 hname
    rw [← hsame]
    exact h.named before hbefore

/-- What is read back is what was written, texts replaced, and so is what was accepted. -/
theorem Tracks.reread {accepted : List DispatchRecord} {registry : DispatchRegistry}
    (h : Tracks accepted registry) :
    Tracks (accepted.map DispatchRecord.sanitize) registry.sanitize := by
  have hmachine (record : DispatchRecord) (hrecord : record ∈ accepted) :
      record.sanitize.machineID = record.machineID :=
    (canonicalMachine_word (h.named record hrecord)).plain.valid
  constructor
  · show registry.records.map DispatchRecord.sanitize = _
    rw [h.kept]
    have hterminal (record : DispatchRecord) (_ : record ∈ accepted) :
        record.sanitize.terminal = record.terminal := rfl
    exact (Retention.retained_map hterminal hmachine).symm
  · exact List.pairwise_map.2 h.growing
  · exact List.forall_mem_map.2 fun record hrecord => (h.bounded record hrecord).sanitize
  · refine List.forall_mem_map.2 fun record hrecord => ?_
    rw [hmachine record hrecord]
    exact h.named record hrecord

@[simp] theorem requalified_machineID (record : DispatchRecord) :
    record.requalified.machineID = record.machineID := by
  unfold DispatchRecord.requalified
  split
  · rfl
  · rfl

@[simp] theorem requalified_acceptedAtUnix (record : DispatchRecord) :
    record.requalified.acceptedAtUnix = record.acceptedAtUnix := by
  unfold DispatchRecord.requalified
  split
  · rfl
  · rfl

/-- Records requalified: none leaves where no machine has more than is kept. -/
theorem Tracks.requalified {accepted : List DispatchRecord} {registry : DispatchRegistry}
    (h : Tracks accepted registry)
    (hfew : ∀ machineID, (registry.records.countP fun record => record.machineID = machineID) ≤
      maxDispatchRecordsPerMachine) :
    Tracks (accepted.map DispatchRecord.requalified) registry.requalified := by
  constructor
  · show registry.records.map DispatchRecord.requalified = _
    rw [h.kept] at hfew ⊢
    exact (Retention.retained_map_of_closing (fun record _ => requalified_terminal record)
      (fun record _ => requalified_machineID record) hfew).symm
  · show Growing (registry.records.map DispatchRecord.requalified)
    rw [Growing, List.pairwise_map]
    simp only [requalified_acceptedAtUnix]
    exact h.growing
  · exact List.forall_mem_map.2 fun record hrecord => (h.bounded record hrecord).requalified
  · refine List.forall_mem_map.2 fun record hrecord => ?_
    rw [requalified_machineID]
    exact h.named record hrecord

/-! ## Runs

What the mutations keep of a registry beside what was accepted, a run keeps. -/

/-- What is served and what the file holds are in a relation to what was accepted. -/
structure Good (tracks : List DispatchRecord → DispatchRegistry → Prop) (s : Store × Accepted) :
    Prop where
  served : ∀ registry, s.1.served = some registry → tracks s.2.served registry
  file : ∀ data, s.1.file = some data → ∃ registry : DispatchRegistry, data = registry.encode ∧
    registry.validate = true ∧ tracks s.2.file registry

/-- A relation that an opening keeps, where its step meets a condition. -/
structure Reopens (controllerID infrastructureID : Bytes) (ok : Store × Accepted → Event → Prop)
    (tracks : List DispatchRecord → DispatchRegistry → Prop) : Prop where
  bounded : ∀ accepted registry, tracks accepted registry →
    ∀ record ∈ registry.records, record.Bounded
  empty : (emptyRegistry controllerID infrastructureID).validate = true →
    tracks [] (emptyRegistry controllerID infrastructureID)
  reread : ∀ accepted registry, tracks accepted registry → registry.validate = true →
    registry.sanitize.validate = true →
    tracks (accepted.map DispatchRecord.sanitize) registry.sanitize
  requalified : ∀ s outcome data registry accepted, s.1.file = some data →
    readRegistry controllerID infrastructureID data = some registry → tracks accepted registry →
    ok s (.reopen outcome) → outcome ≠ .lost →
    (registry.records.any fun record => !record.terminal) = true →
    registry.requalified.validate = true →
    tracks (accepted.map DispatchRecord.requalified) registry.requalified

/-- A relation that each mutation keeps as well. -/
structure Stable (controllerID infrastructureID : Bytes) (ok : Store × Accepted → Event → Prop)
    (tracks : List DispatchRecord → DispatchRegistry → Prop) : Prop
    extends Reopens controllerID infrastructureID ok tracks where
  accept : ∀ s record outcome registry candidate, s.1.served = some registry →
    tracks s.2.served registry → ok s (.accept record outcome) → outcome ≠ .lost →
    registry.accept record.1 = some candidate → candidate.validate = true →
    tracks (s.2.served ++ [record.1]) candidate
  conclude : ∀ accepted registry candidate approvalSHA256 conclusion (finished : UInt64),
    tracks accepted registry →
    registry.conclude approvalSHA256 conclusion finished.toNat = some candidate →
    tracks (settle (openRecord approvalSHA256)
      (DispatchRecord.concluded · conclusion finished.toNat) accepted) candidate

section Keep

variable {tracks : List DispatchRecord → DispatchRegistry → Prop}

/-- A candidate that tracks what would be accepted with it, committed. -/
theorem Good.commit {store : Store} {accepted : Accepted} (h : Good tracks (store, accepted))
    {outcome : Persisted} {candidate : Option DispatchRegistry} {records : List DispatchRecord}
    (htracks : ∀ registry, candidate = some registry → registry.validate = true →
      outcome ≠ .lost → tracks records registry) :
    Good tracks ((store.commit outcome candidate).1,
      accepted.commit outcome candidate records) := by
  cases candidate with
  | none => exact h
  | some registry =>
      have htrack := htracks registry rfl
      unfold Store.commit persist Accepted.commit
      by_cases hwritable : registry.writable = true
      · have hvalid := (writable_iff.1 hwritable).1
        simp only [if_pos hwritable]
        cases outcome with
        | written =>
            have hnew := htrack hvalid (by decide)
            constructor
            · intro other hother
              obtain rfl := Option.some.inj hother
              exact hnew
            · intro data hdata
              exact ⟨registry, (Option.some.inj hdata).symm, hvalid, hnew⟩
        | renamed =>
            have hnew := htrack hvalid (by decide)
            constructor
            · exact h.served
            · intro data hdata
              exact ⟨registry, (Option.some.inj hdata).symm, hvalid, hnew⟩
        | lost => exact ⟨h.served, h.file⟩
      · simp only [if_neg hwritable]
        exact ⟨h.served, h.file⟩

theorem good_initial : Good tracks (⟨none, none⟩, Accepted.initial) := by
  constructor
  · intro registry hserved
    cases hserved
  · intro data hfile
    cases hfile

variable {controllerID infrastructureID : Bytes} {ok : Store × Accepted → Event → Prop}

/-- An opening: what the file held is served, requalified or not. -/
theorem Good.reopen (hreopens : Reopens controllerID infrastructureID ok tracks)
    {s : Store × Accepted} (h : Good tracks s) (outcome : Persisted)
    (hok : ok s (.reopen outcome)) :
    Good tracks (s.1.reopen controllerID infrastructureID outcome,
      note controllerID infrastructureID s.1 (.reopen outcome) s.2) := by
  obtain ⟨⟨served, file⟩, accepted⟩ := s
  have hdown : Good tracks (⟨none, file⟩, accepted) := by
    constructor
    · intro registry hserved
      cases hserved
    · exact h.file
  cases file with
  | none =>
      apply hdown.commit
      intro registry hregistry hvalid _
      obtain rfl := Option.some.inj hregistry
      exact hreopens.empty hvalid
  | some data =>
      unfold Store.reopen note
      simp only
      cases hread : readRegistry controllerID infrastructureID data with
      | none => exact hdown
      | some registry =>
          have htracks : tracks (accepted.file.map DispatchRecord.sanitize) registry := by
            obtain ⟨written, hencoded, hvalid, htracks⟩ := h.file data rfl
            have hreadValid := (readRegistry_iff.1 hread).2.2.1
            rw [hencoded] at hread
            have hsame := readRegistry_encode hvalid (hreopens.bounded _ _ htracks) hread
            rw [hsame] at hreadValid ⊢
            exact hreopens.reread _ _ htracks hvalid hreadValid
          simp only
          cases hany : registry.records.any fun record => !record.terminal with
          | false =>
              rw [if_neg Bool.false_ne_true, if_neg Bool.false_ne_true]
              constructor
              · intro other hother
                obtain rfl := Option.some.inj hother
                exact htracks
              · exact h.file
          | true =>
              rw [if_pos rfl, if_pos rfl]
              apply hdown.commit
              intro other hother hvalid hwritten
              obtain rfl := Option.some.inj hother
              exact hreopens.requalified _ outcome data registry _ rfl hread htracks hok hwritten
                hany hvalid

/-- A property of what is served and of what the file holds. -/
abbrev Throughout (p : DispatchRegistry → Prop) (store : Store) : Prop :=
  Good (fun _ registry => p registry) (store, Accepted.initial)

theorem Throughout.commit {p : DispatchRegistry → Prop} {store : Store} (h : Throughout p store)
    (outcome : Persisted) {candidate : Option DispatchRegistry}
    (hp : ∀ registry, candidate = some registry → registry.validate = true → p registry) :
    Throughout p (store.commit outcome candidate).1 := by
  have hgood : Good (fun _ registry => p registry) ((store.commit outcome candidate).1,
      Accepted.initial.commit outcome candidate []) :=
    Good.commit h fun registry hregistry hvalid _ => hp registry hregistry hvalid
  exact ⟨hgood.served, hgood.file⟩

theorem Throughout.reopen {p : DispatchRegistry → Prop} {store : Store} (h : Throughout p store)
    (hreopens : Reopens controllerID infrastructureID (fun _ _ => True) fun _ => p)
    (outcome : Persisted) :
    Throughout p (store.reopen controllerID infrastructureID outcome) := by
  have hgood := Good.reopen hreopens h outcome trivial
  exact ⟨hgood.served, hgood.file⟩

theorem Throughout.mono {p q : DispatchRegistry → Prop} {store : Store} (h : Throughout p store)
    (hpq : ∀ registry, p registry → q registry) : Throughout q store := by
  constructor
  · intro registry hserved
    exact hpq registry (h.served registry hserved)
  · intro data hdata
    obtain ⟨registry, hencoded, hvalid, hp⟩ := h.file data hdata
    exact ⟨registry, hencoded, hvalid, hpq registry hp⟩

/-- What one step keeps. -/
theorem good_step (hstable : Stable controllerID infrastructureID ok tracks)
    (s : Store × Accepted) (e : Event) (h : Good tracks s) (hok : ok s e) :
    Good tracks (next (noting (step controllerID infrastructureID)
      (note controllerID infrastructureID)) s e) := by
  obtain ⟨store, accepted⟩ := s
  rw [next_noting, next]
  cases e with
  | accept record outcome =>
      unfold step note
      cases hserved : store.served with
      | none => exact h
      | some registry =>
          apply h.commit
          intro candidate hcandidate hvalid hwritten
          exact hstable.accept _ record outcome registry candidate hserved
            (h.served registry hserved) hok hwritten hcandidate hvalid
  | conclude approvalSHA256 conclusion finished outcome =>
      unfold step note
      cases hserved : store.served with
      | none => exact h
      | some registry =>
          apply h.commit
          intro candidate hcandidate _ _
          exact hstable.conclude _ registry candidate _ _ finished (h.served registry hserved)
            hcandidate
  | reopen outcome => exact h.reopen hstable.toReopens outcome hok

/-- What a run keeps. -/
theorem good_run (hstable : Stable controllerID infrastructureID ok tracks) {es : List Event}
    (hes : Admits (noting (step controllerID infrastructureID)
      (note controllerID infrastructureID)) ok (⟨none, none⟩, Accepted.initial) es) :
    Good tracks (run (noting (step controllerID infrastructureID)
      (note controllerID infrastructureID)) (⟨none, none⟩, Accepted.initial) es) :=
  run_invariant_of_admits (good_step hstable) good_initial hes

end Keep

/-- Where each step meets `InOrder`, what should be kept is kept by each mutation. -/
theorem tracks_stable (controllerID infrastructureID : Bytes) :
    Stable controllerID infrastructureID (InOrder controllerID infrastructureID) Tracks where
  bounded := fun _ _ h => h.bounded
  empty := fun _ => ⟨rfl, List.Pairwise.nil, List.forall_mem_nil _, List.forall_mem_nil _⟩
  accept := by
    intro s record outcome registry candidate hserved h hok hwritten hcandidate hvalid
    have hlater := fun hrecord hstate => hok hrecord hstate hwritten registry hserved
    exact h.accept record.2 hlater hcandidate hvalid
  conclude := by
    intro accepted registry candidate approvalSHA256 conclusion finished h hcandidate
    exact h.conclude finished hcandidate
  reread := fun _ _ h _ _ => h.reread
  requalified := by
    intro s outcome data registry accepted hfile hread h hok hwritten hany _
    exact h.requalified (hok hwritten data registry hfile hread hany)

/-- In every run whose steps all meet `InOrder`, the open records are kept and of each machine
the most recently accepted terminal ones, in the order in which they were accepted. -/
theorem ordered_run (controllerID infrastructureID : Bytes) {es : List Event}
    (hes : Admits (noting (step controllerID infrastructureID)
      (note controllerID infrastructureID)) (InOrder controllerID infrastructureID)
      (⟨none, none⟩, Accepted.initial) es) :
    Ordered (run (noting (step controllerID infrastructureID)
      (note controllerID infrastructureID)) (⟨none, none⟩, Accepted.initial) es) := by
  have hgood := good_run (tracks_stable controllerID infrastructureID) hes
  constructor
  · intro registry hserved
    exact (hgood.served registry hserved).kept
  · intro data hfile
    obtain ⟨registry, hencoded, -, htracks⟩ := hgood.file data hfile
    exact ⟨registry, hencoded, htracks.kept⟩

/-! ## Two records of one second -/

def sampleController : Bytes := text "11111111-1111-4111-8111-111111111111"

def sampleInfrastructure : Bytes := text "00000000-0000-4000-8000-000000000000"

/-- The record of an approval whose digest repeats one letter. -/
def sampleRecord (letter : UInt8) (accepted : UInt64) : DispatchRecord where
  approvalSHA256 := List.replicate 64 letter
  machineID := text "lab-machine-1"
  operation := text "deploy_service"
  approvalEpoch := 1
  sequence := 1
  planSHA256 := List.replicate 64 0x61
  rollbackSHA256 := List.replicate 64 0x62
  state := .inFlight
  acceptedAtUnix := accepted.toNat
  finishedAtUnix := 0
  expiresAtUnix := 2 ^ 40
  machineSentence := []
  controllerObservation := []
  definitionSlug := []
  definitionSHA256 := []
  reportedChanged := false
  reportedOutcome := []

def sampleAccepted (letter : UInt8) (accepted : UInt64) : WordedRecord :=
  have hsmall : 2 ^ 40 < 2 ^ 64 := by decide
  ⟨sampleRecord letter accepted, by simp [sampleRecord], by simp [sampleRecord],
    accepted.toNat_lt, by simp [sampleRecord], hsmall⟩

def sampleStep : Store × Accepted → Event → (Store × Accepted) × Bool :=
  noting (step sampleController sampleInfrastructure) (note sampleController sampleInfrastructure)

/-- A record accepted on its own. -/
theorem ordered_run_alone :
    Ordered (run sampleStep (⟨none, none⟩, Accepted.initial)
      [.reopen .written, .accept (sampleAccepted 0x61 1) .written]) := by
  have hserved : (run sampleStep (⟨none, none⟩, Accepted.initial) [.reopen .written]).1.served =
      some (emptyRegistry sampleController sampleInfrastructure) := by
    decide +kernel
  have hadmits : Admits sampleStep (InOrder sampleController sampleInfrastructure)
      (⟨none, none⟩, Accepted.initial)
      [.reopen .written, .accept (sampleAccepted 0x61 1) .written] := by
    refine ⟨?_, ?_, trivial⟩
    · intro _ data registry hfile
      cases hfile
    · intro _ _ _ registry hregistry held hheld
      rw [← run_nil sampleStep (next sampleStep _ _), ← run_cons, hserved] at hregistry
      obtain rfl := Option.some.inj hregistry
      cases hheld
  exact ordered_run sampleController sampleInfrastructure hadmits

/-- The second of two records accepted in one second is kept before the first one. -/
theorem misordered_run :
    ¬ ∀ es : List Event, Ordered (run sampleStep (⟨none, none⟩, Accepted.initial) es) := by
  intro h
  have hordered := h [.reopen .written, .accept (sampleAccepted 0x61 1) .written,
    .accept (sampleAccepted 0x62 1) .written]
  generalize hreached : run sampleStep (⟨none, none⟩, Accepted.initial) [.reopen .written,
    .accept (sampleAccepted 0x61 1) .written, .accept (sampleAccepted 0x62 1) .written] = reached
    at hordered
  have hserved : reached.1.served.map DispatchRegistry.records =
      some [sampleRecord 0x62 1, sampleRecord 0x61 1] := by
    rw [← hreached]
    decide +kernel
  have haccepted : reached.2.served = [sampleRecord 0x61 1, sampleRecord 0x62 1] := by
    rw [← hreached]
    decide +kernel
  obtain ⟨registry, hregistry, hrecords⟩ := Option.map_eq_some_iff.1 hserved
  have hkept := hordered.served registry hregistry
  rw [hrecords, haccepted] at hkept
  exact absurd hkept (by decide)

end YourCloud.Controller.DispatchHistory
