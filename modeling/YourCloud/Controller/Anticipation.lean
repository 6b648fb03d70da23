import YourCloud.Controller.DispatchHistory
import YourCloud.Controller.Submission

/-!
# What the Controller anticipates of a machine

A submission is refused early where a machine already reported a sequence as high as its
own.  The machine decides on more: its position is an epoch and a sequence, and a new epoch
begins again at one.

Controller and machine take their steps in any order.  A machine reports the position of an
approval that it accepted, at any time after it did and as often as it is asked; any other
conclusion can be drawn at any time.

## Main results

* `store_cases` — everything a step of the Controller does to its registry.
* `linked_step` — what a reported record names was spent by the machine.
* `anticipates_run` — in every run whose steps all meet `Covered`, what is refused early the
  machine refuses.
-/

namespace YourCloud.Controller.Anticipation

open YourCloud.Foundation
open YourCloud.Approval
open YourCloud.Controller.Submission (Service Handler Phase recordOf)

/-! ## Controller and machine -/

/-- A Controller, a machine, and what the machine did so far. -/
structure Joint where
  service : Service
  machine : Approval.System
  done : List (Approval.Event × Approval.Answer)

def Joint.initial : Joint := ⟨Service.initial, Approval.initial, []⟩

inductive Event where
  | controller (event : Submission.Event)
  | machine (event : Approval.Event)

/-- The machine accepted the position that a record names. -/
def accepts (joint : Joint) (record : DispatchRecord) : Bool :=
  (accepted joint.done).any fun state =>
    state.machineID = record.machineID && state.approvalEpoch = record.approvalEpoch &&
      state.consumedSequence = record.sequence

section Steps

variable (digest : Bytes → Bytes) (ed25519Verify : Bytes → Bytes → Bytes → Bool)
variable (controllerID infrastructureID machineID : Bytes)

/-- A report of this machine that it did not write. -/
def unwritten (joint : Joint) : Submission.Event → Bool
  | .conclude id conclusion _ _ =>
      conclusion.state = .reported &&
        match joint.service.handlers id with
        | none => false
        | some handler => handler.record.machineID = machineID && !accepts joint handler.record
  | _ => false

def step (joint : Joint) : Event → Joint × Submission.Answer
  | .controller event =>
      if unwritten machineID joint event then (joint, .idle)
      else
        let (service, answer) :=
          Submission.step digest controllerID infrastructureID joint.service event
        ({ joint with service }, answer)
  | .machine event =>
      let (machine, answer) := Approval.step ed25519Verify joint.machine event
      ({ joint with machine, done := joint.done ++ [(event, answer)] }, .idle)

/-- Whatever the machine is anchored to, it would not accept this approval next. -/
def Replayed (joint : Joint) (signed : SignedApproval) : Prop :=
  ∀ anchor : Anchor, anchor.binds signed.envelope = true →
    ∀ position, readState joint.machine.directory.position = some position →
      successor position anchor signed.envelope = none

/-- A submission for the machine that is refused for its sequence is one the machine refuses. -/
def Anticipates (joint : Joint) (event : Event) : Prop :=
  ∀ id handler signed, event = .controller (.judge id) →
    joint.service.handlers id = some handler → handler.phase = .arrived →
    decodeSigned handler.approval = some signed → signed.envelope.machineID = machineID →
    answer (step digest ed25519Verify controllerID infrastructureID machineID) joint event =
      .refused → Replayed joint signed

/-- A reported record of the machine of another one whose sequence is as high. -/
def AsHigh (record other : DispatchRecord) : Prop :=
  other.machineID = record.machineID ∧ other.state = .reported ∧ record.sequence ≤ other.sequence

/-- A step at which comparing sequences alone does no harm: where some reported sequence is as
high as the one submitted, one that was reported under its epoch or a later one is. -/
def Covered (joint : Joint) : Event → Prop
  | .controller (.judge id) => ∀ handler registry, joint.service.handlers id = some handler →
      joint.service.store.served = some registry →
      (∃ other ∈ registry.records, AsHigh handler.record other) →
      ∃ other ∈ registry.records, AsHigh handler.record other ∧
        handler.record.approvalEpoch ≤ other.approvalEpoch
  | _ => True

end Steps

/-! ## What the Controller does to its registry -/

section Controller

variable (digest : Bytes → Bytes) (controllerID infrastructureID : Bytes)

/-- Everything a step of the Controller does to its registry. -/
theorem store_cases (service : Service) (event : Submission.Event) :
    (next (Submission.step digest controllerID infrastructureID) service event).store =
        service.store ∨
      (∃ id handler registry outcome, event = .accept id true outcome ∧
        service.handlers id = some handler ∧ service.store.served = some registry ∧
        (next (Submission.step digest controllerID infrastructureID) service event).store =
          (service.store.commit outcome (registry.accept handler.record)).1) ∨
      (∃ id conclusion finished outcome handler registry,
        event = .conclude id conclusion finished outcome ∧
        service.handlers id = some handler ∧ handler.phase = .launched ∧
        service.store.served = some registry ∧
        (next (Submission.step digest controllerID infrastructureID) service event).store =
          (service.store.commit outcome (registry.conclude handler.record.approvalSHA256
            conclusion finished.toNat)).1) ∨
      ∃ outcome, event = .restart outcome ∧
        (next (Submission.step digest controllerID infrastructureID) service event).store =
          service.store.reopen controllerID infrastructureID outcome := by
  unfold next
  cases event with
  | arrive id approval now admitted pinned =>
      left
      simp only [Submission.step]
      repeat' split
      all_goals rfl
  | judge id =>
      left
      simp only [Submission.step]
      repeat' split
      all_goals rfl
  | look id =>
      left
      simp only [Submission.step]
      repeat' split
      all_goals rfl
  | accept id session outcome =>
      simp only [Submission.step]
      split
      · rename_i approval record registry hhandler hserved
        cases session with
        | false => exact Or.inl rfl
        | true =>
            rw [if_neg (by decide)]
            right
            left
            refine ⟨id, _, registry, outcome, rfl, hhandler, hserved, ?_⟩
            cases hcommit : service.store.commit outcome (registry.accept record) with
            | mk store written =>
                cases written with
                | true => rfl
                | false => rfl
      · exact Or.inl rfl
  | launch id =>
      left
      simp only [Submission.step]
      split
      all_goals rfl
  | conclude id conclusion finished outcome =>
      simp only [Submission.step]
      split
      · rename_i approval record registry hhandler hserved
        right
        right
        left
        refine ⟨id, conclusion, finished, outcome, _, registry, rfl, hhandler, rfl, hserved, ?_⟩
        cases hcommit : service.store.commit outcome
            (registry.conclude record.approvalSHA256 conclusion finished.toNat) with
        | mk store written =>
            cases written with
            | true => rfl
            | false => rfl
      · exact Or.inl rfl
  | restart outcome => exact Or.inr (Or.inr (Or.inr ⟨outcome, rfl, rfl⟩))

end Controller

/-! ## What a registry attests -/

/-- A valid registry whose reported records of the machine name positions it spent. -/
structure Attested (machineID : Bytes) (positions : List State) (registry : DispatchRegistry) :
    Prop where
  valid : registry.validate = true
  bounded : ∀ record ∈ registry.records, record.Bounded
  spent : ∀ record ∈ registry.records, record.state = .reported → record.machineID = machineID →
    ∃ state ∈ positions, state.approvalEpoch = record.approvalEpoch ∧
      state.consumedSequence = record.sequence

section Registry

variable {machineID : Bytes} {positions : List State} {registry candidate : DispatchRegistry}

theorem Attested.mono {more : List State} (h : Attested machineID positions registry)
    (hmore : ∀ state ∈ positions, state ∈ more) : Attested machineID more registry := by
  refine ⟨h.valid, h.bounded, ?_⟩
  intro record hrecord hreported hmachine
  obtain ⟨state, hstate, hnames⟩ := h.spent record hrecord hreported hmachine
  exact ⟨state, hmore state hstate, hnames⟩

theorem Attested.accept (h : Attested machineID positions registry) {record : DispatchRecord}
    (hbounded : record.Bounded) (hcandidate : registry.accept record = some candidate)
    (hvalid : candidate.validate = true) : Attested machineID positions candidate := by
  obtain ⟨hstate, hrecords⟩ := accept_cases hcandidate
  have hmember (other : DispatchRecord) (hother : other ∈ candidate.records) :
      other ∈ registry.records ∨ other = record := by
    rw [hrecords] at hother
    simpa using mem_of_mem_bound hother
  refine ⟨hvalid, ?_, ?_⟩
  · intro other hother
    cases hmember other hother with
    | inl hheld => exact h.bounded other hheld
    | inr hnew => exact hnew ▸ hbounded
  · intro other hother hreported hmachine
    cases hmember other hother with
    | inl hheld => exact h.spent other hheld hreported hmachine
    | inr hnew =>
        rw [hnew, hstate] at hreported
        cases hreported

/-- A conclusion: a report is concluded of a position that was spent. -/
theorem Attested.conclude (h : Attested machineID positions registry) {approvalSHA256 : Bytes}
    {conclusion : DispatchConclusion} (finished : UInt64)
    (hcandidate : registry.conclude approvalSHA256 conclusion finished.toNat = some candidate)
    (hvalid : candidate.validate = true)
    (hreport : conclusion.state = .reported → ∀ record ∈ registry.records,
      record.terminal = false → record.approvalSHA256 = approvalSHA256 →
      record.machineID = machineID → ∃ state ∈ positions,
        state.approvalEpoch = record.approvalEpoch ∧ state.consumedSequence = record.sequence) :
    Attested machineID positions candidate := by
  obtain ⟨-, records, hfirst, hrecords⟩ := conclude_cases hcandidate
  have hbounded := DispatchHistory.settle_bounded approvalSHA256 conclusion finished h.bounded
  rw [← DispatchHistory.concludeFirst_settle hfirst] at hbounded
  obtain ⟨before, record, after, hsplit, hsha, hopen, -, hconcluded⟩ := concludeFirst_cases hfirst
  have hrecord : record ∈ registry.records := by
    rw [hsplit]
    simp
  have hmember (other : DispatchRecord) (hother : other ∈ candidate.records) :
      other ∈ records := by
    rw [hrecords] at hother
    exact mem_of_mem_bound hother
  refine ⟨hvalid, fun other hother => hbounded other (hmember other hother), ?_⟩
  intro other hother hreported hmachine
  have hplace := hmember other hother
  rw [hconcluded, List.mem_append, List.mem_cons] at hplace
  have hheld (hkept : other ∈ before ∨ other ∈ after) : other ∈ registry.records := by
    rw [hsplit, List.mem_append, List.mem_cons]
    cases hkept with
    | inl hbefore => exact Or.inl hbefore
    | inr hafter => exact Or.inr (Or.inr hafter)
  cases hplace with
  | inl hbefore => exact h.spent other (hheld (Or.inl hbefore)) hreported hmachine
  | inr hrest =>
      cases hrest with
      | inr hafter => exact h.spent other (hheld (Or.inr hafter)) hreported hmachine
      | inl hsame =>
          rw [hsame] at hreported hmachine ⊢
          exact hreport hreported record hrecord hopen hsha hmachine

theorem attested_reopens (controllerID infrastructureID machineID : Bytes)
    (positions : List State) :
    DispatchHistory.Reopens controllerID infrastructureID (fun _ _ => True)
      (fun _ registry => Attested machineID positions registry) where
  bounded := fun _ _ h => h.bounded
  empty := fun hvalid => ⟨hvalid, List.forall_mem_nil _, List.forall_mem_nil _⟩
  reread := by
    intro _ registry h hwritten hvalid
    refine ⟨hvalid, ?_, ?_⟩
    · exact List.forall_mem_map.2 fun record hrecord => (h.bounded record hrecord).sanitize
    · refine List.forall_mem_map.2 fun record hrecord hreported hmachine => ?_
      have hrecordValid := (DispatchRegistry.validate_iff.1 hwritten).2.2.2.1 record hrecord
      have hname := (DispatchRecord.validate_iff.1 hrecordValid).2.2.2.1
      have hsame : record.sanitize.machineID = record.machineID :=
        (canonicalMachine_word hname).plain.valid
      rw [hsame] at hmachine
      exact h.spent record hrecord hreported hmachine
  requalified := by
    intro s outcome data registry _ _ _ h _ _ _ hvalid
    refine ⟨hvalid, ?_, ?_⟩
    · exact List.forall_mem_map.2 fun record hrecord => (h.bounded record hrecord).requalified
    · refine List.forall_mem_map.2 fun record hrecord hreported hmachine => ?_
      unfold DispatchRecord.requalified at hreported hmachine ⊢
      split at hreported
      · cases hreported
      · rename_i hstate
        rw [if_neg hstate] at hmachine ⊢
        exact h.spent record hrecord hreported hmachine

end Registry

/-! ## The machine refuses what was spent -/

/-- No position comes after the last one. -/
theorem le_last {positions : List State} (h : Series positions) {last state : State}
    (hlast : positions.getLast? = some last) (hstate : state ∈ positions) :
    state = last ∨ state.Before last := by
  obtain ⟨before, hsplit⟩ := List.getLast?_eq_some_iff.1 hlast
  have hpairwise := h.pairwise
  rw [hsplit, List.pairwise_append] at hpairwise
  rw [hsplit, List.mem_append, List.mem_singleton] at hstate
  cases hstate with
  | inl hbefore => exact Or.inr (hpairwise.2.2 state hbefore last (List.mem_singleton_self last))
  | inr hsame => exact Or.inl hsame

/-- An approval whose position is at or before one that was spent is refused. -/
theorem successor_of_spent {positions : List State} (h : Series positions)
    (hbounded : ∀ state ∈ positions, state.Bounded) {state : State}
    (hstate : state ∈ positions) (anchor : Anchor) {signed : SignedApproval}
    (hepoch : signed.envelope.approvalEpoch ≤ state.approvalEpoch)
    (hsequence : signed.envelope.sequence ≤ state.consumedSequence) :
    successor positions.getLast? anchor signed.envelope = none := by
  cases hlast : positions.getLast? with
  | none =>
      rw [List.getLast?_eq_none_iff.1 hlast] at hstate
      cases hstate
  | some last =>
      have hpos := signed.sequence_pos
      -- A counter that wraps is zero, which no approval carries.
      have hword := (hbounded last (List.mem_of_getLast? hlast)).2
      have hposition : state.approvalEpoch < last.approvalEpoch ∨
          state.approvalEpoch = last.approvalEpoch ∧
            state.consumedSequence ≤ last.consumedSequence := by
        cases le_last h hlast hstate with
        | inl hsame =>
            rw [hsame]
            exact Or.inr ⟨rfl, Nat.le_refl _⟩
        | inr hbefore =>
            cases hbefore with
            | inl hepoch => exact Or.inl hepoch
            | inr hsame => exact Or.inr ⟨hsame.1, Nat.le_of_lt hsame.2⟩
      simp only [successor]
      by_cases hother : last.infrastructureID ≠ anchor.infrastructureID ∨
          last.machineID ≠ anchor.machineID
      · rw [if_pos hother]
      · rw [if_neg hother]
        by_cases hold : signed.envelope.approvalEpoch < last.approvalEpoch
        · rw [if_pos hold]
        · have hnext : signed.envelope.sequence ≠ (last.consumedSequence + 1) % 2 ^ 64 := by
            omega
          rw [if_neg hold, if_neg (by omega), if_pos hnext]

/-! ## Requests that are past their acceptance -/

section Requests

variable {digest : Bytes → Bytes} {service service' : Service}

/-- The record of a request is the one its approval yields. -/
def Recorded (digest : Bytes → Bytes) (handler : Handler) : Prop :=
  ∃ signed now pinned, decodeSigned handler.approval = some signed ∧
    handler.record = recordOf digest handler.approval signed.envelope now pinned

/-- The record of a request that was accepted stands in the registry, and no two such requests
have the same digest. -/
structure Standing (digest : Bytes → Bytes) (service : Service) : Prop where
  recorded : ∀ id handler, service.handlers id = some handler → Recorded digest handler
  standing : ∀ id handler, service.handlers id = some handler →
    handler.phase.undecided = false →
    ∃ registry, service.store.served = some registry ∧ handler.record ∈ registry.records
  alone : ∀ id other handler handler', service.handlers id = some handler →
    service.handlers other = some handler' → handler.phase.undecided = false →
    handler'.phase.undecided = false →
    handler.record.approvalSHA256 = handler'.record.approvalSHA256 → id = other

theorem Recorded.spec {handler : Handler} (h : Recorded digest handler) :
    handler.record.Bounded ∧ handler.record.terminal = false := by
  obtain ⟨signed, now, pinned, hdecoded, hrecord⟩ := h
  obtain ⟨hbounded, hopen, -⟩ := Submission.recordOf_spec digest now pinned hdecoded
  rw [hrecord]
  exact ⟨hbounded, hopen⟩

/-- A step that leaves the registry: each request is one that was there, or undecided. -/
theorem Standing.frame (h : Standing digest service)
    (hserved : service'.store.served = service.store.served)
    (hhandlers : ∀ id handler', service'.handlers id = some handler' →
      (∃ handler, service.handlers id = some handler ∧ handler'.approval = handler.approval ∧
        handler'.record = handler.record ∧
        (handler'.phase.undecided = false → handler.phase.undecided = false)) ∨
      handler'.phase.undecided = true ∧ Recorded digest handler') :
    Standing digest service' := by
  have hdecided (id : Nat) (handler' : Handler) (hid : service'.handlers id = some handler')
      (hphase : handler'.phase.undecided = false) : ∃ handler,
        service.handlers id = some handler ∧ handler'.record = handler.record ∧
        handler.phase.undecided = false := by
    cases hhandlers id handler' hid with
    | inl hold =>
        obtain ⟨handler, hhandler, -, hrecord, hundecided⟩ := hold
        exact ⟨handler, hhandler, hrecord, hundecided hphase⟩
    | inr hnew =>
        rw [hnew.1] at hphase
        cases hphase
  constructor
  · intro id handler' hid
    cases hhandlers id handler' hid with
    | inl hold =>
        obtain ⟨handler, hhandler, happroval, hrecord, -⟩ := hold
        rw [Recorded, happroval, hrecord]
        exact h.recorded id handler hhandler
    | inr hnew => exact hnew.2
  · intro id handler' hid hphase
    obtain ⟨handler, hhandler, hrecord, hundecided⟩ := hdecided id handler' hid hphase
    rw [hserved, hrecord]
    exact h.standing id handler hhandler hundecided
  · intro id other handler handler' hid hother hphase hphase' hsame
    obtain ⟨before, hbefore, hrecord, hundecided⟩ := hdecided id handler hid hphase
    obtain ⟨before', hbefore', hrecord', hundecided'⟩ := hdecided other handler' hother hphase'
    rw [hrecord, hrecord'] at hsame
    exact h.alone id other before before' hbefore hbefore' hundecided hundecided' hsame

/-- A request that goes on without being decided, or that is done. -/
theorem Standing.set (h : Standing digest service)
    (hserved : service'.store.served = service.store.served)
    (hhandlers : service'.handlers = service.handlers) (id : Nat) {next : Option Handler}
    (hnext : ∀ handler', next = some handler' →
      (∃ handler, service.handlers id = some handler ∧ handler'.approval = handler.approval ∧
        handler'.record = handler.record ∧
        (handler'.phase.undecided = false → handler.phase.undecided = false)) ∨
      handler'.phase.undecided = true ∧ Recorded digest handler') :
    Standing digest (service'.set id next) := by
  have hstore : (service'.set id next).store.served = service.store.served := hserved
  refine h.frame hstore fun other handler' hother => ?_
  by_cases hsame : other = id
  · rw [hsame, Service.set_same] at hother
    rw [hsame]
    exact hnext handler' hother
  · rw [Service.set_other service' hsame, hhandlers] at hother
    exact Or.inl ⟨handler', hother, rfl, rfl, fun hphase => hphase⟩

/-- A request whose record is written: no open record had its digest. -/
theorem Standing.accept (h : Standing digest service) {id : Nat} {handler : Handler}
    {registry candidate : DispatchRegistry} {file : Option Bytes}
    (hid : service.handlers id = some handler) (hserved : service.store.served = some registry)
    (hcandidate : registry.accept handler.record = some candidate)
    (hvalid : candidate.validate = true) :
    Standing digest (Service.set { service with store := ⟨some candidate, file⟩ } id
      (some ⟨handler.approval, handler.record, .accepted⟩)) := by
  obtain ⟨hstate, hrecords⟩ := accept_cases hcandidate
  have hopen : handler.record.terminal = false := (h.recorded id handler hid).spec.2
  have hkept (record : DispatchRecord) (hrecord : record ∈ registry.records)
      (hterminal : record.terminal = false) : record ∈ candidate.records := by
    rw [hrecords]
    exact mem_bound_of_open (List.mem_append_left _ hrecord) hterminal
  have hnew : handler.record ∈ candidate.records := by
    rw [hrecords]
    exact mem_bound_of_open (by simp) hopen
  have hfresh : handler.record.approvalSHA256 ∉
      DispatchRegistry.openDigests registry.records := by
    have hnodup := (DispatchRegistry.validate_iff.1 hvalid).2.2.2.2
    rw [hrecords] at hnodup
    have hperm := (openDigests_bound (registry.records ++ [handler.record])).nodup_iff.1 hnodup
    have hsplit : DispatchRegistry.openDigests (registry.records ++ [handler.record]) =
        DispatchRegistry.openDigests registry.records ++ [handler.record.approvalSHA256] := by
      simp [DispatchRegistry.openDigests, hopen]
    rw [hsplit, List.nodup_append] at hperm
    intro hmem
    exact hperm.2.2 _ hmem _ (List.mem_singleton_self _) rfl
  -- A request decided before has its open record in the registry.
  have hother (other : Nat) (handler' : Handler) (hother : service.handlers other = some handler')
      (hphase : handler'.phase.undecided = false) :
      handler'.record ∈ registry.records ∧
        handler'.record.approvalSHA256 ≠ handler.record.approvalSHA256 := by
    obtain ⟨registry', hregistry, hmem⟩ := h.standing other handler' hother hphase
    obtain rfl := Option.some.inj (hserved.symm.trans hregistry)
    refine ⟨hmem, ?_⟩
    intro hsame
    have hterminal := (h.recorded other handler' hother).spec.2
    have hdigest : handler'.record.approvalSHA256 ∈
        DispatchRegistry.openDigests registry.records :=
      List.mem_map_of_mem (List.mem_filter.2 ⟨hmem, by simp [hterminal]⟩)
    rw [hsame] at hdigest
    exact hfresh hdigest
  constructor
  · intro other handler' hother'
    by_cases hsame : other = id
    · rw [hsame, Service.set_same] at hother'
      obtain rfl := Option.some.inj hother'
      exact h.recorded id handler hid
    · rw [Service.set_other _ hsame] at hother'
      exact h.recorded other handler' hother'
  · intro other handler' hother' hphase
    refine ⟨candidate, rfl, ?_⟩
    by_cases hsame : other = id
    · rw [hsame, Service.set_same] at hother'
      obtain rfl := Option.some.inj hother'
      exact hnew
    · rw [Service.set_other _ hsame] at hother'
      exact hkept _ (hother other handler' hother' hphase).1
        (h.recorded other handler' hother').spec.2
  · intro first second handler₁ handler₂ hfirst hsecond hphase₁ hphase₂ hsame
    by_cases hone : first = id
    · by_cases htwo : second = id
      · rw [hone, htwo]
      · rw [hone, Service.set_same] at hfirst
        rw [Service.set_other _ htwo] at hsecond
        obtain rfl := Option.some.inj hfirst
        exact absurd hsame.symm (hother second handler₂ hsecond hphase₂).2
    · rw [Service.set_other _ hone] at hfirst
      by_cases htwo : second = id
      · rw [htwo, Service.set_same] at hsecond
        obtain rfl := Option.some.inj hsecond
        exact absurd hsame (hother first handler₁ hfirst hphase₁).2
      · rw [Service.set_other _ htwo] at hsecond
        exact h.alone first second handler₁ handler₂ hfirst hsecond hphase₁ hphase₂ hsame

/-- A request that is concluded is done; the records of the others stay. -/
theorem Standing.conclude (h : Standing digest service) {id : Nat} {handler : Handler}
    {registry candidate : DispatchRegistry} {file : Option Bytes}
    {conclusion : DispatchConclusion} {finished : UInt64}
    (hid : service.handlers id = some handler) (hphase : handler.phase.undecided = false)
    (hserved : service.store.served = some registry)
    (hcandidate : registry.conclude handler.record.approvalSHA256 conclusion finished.toNat =
      some candidate) :
    Standing digest (Service.set { service with store := ⟨some candidate, file⟩ } id none) := by
  obtain ⟨-, records, hfirst, hrecords⟩ := conclude_cases hcandidate
  obtain ⟨before, record, after, hsplit, hsha, -, -, hconcluded⟩ := concludeFirst_cases hfirst
  have hback (other : Nat) (handler' : Handler)
      (hother : (Service.set { service with store := ⟨some candidate, file⟩ } id none).handlers
        other = some handler') : other ≠ id ∧ service.handlers other = some handler' := by
    by_cases hsame : other = id
    · rw [hsame, Service.set_same] at hother
      cases hother
    · rw [Service.set_other _ hsame] at hother
      exact ⟨hsame, hother⟩
  constructor
  · intro other handler' hother
    exact h.recorded other handler' (hback other handler' hother).2
  · intro other handler' hother hphase'
    obtain ⟨hne, hbefore⟩ := hback other handler' hother
    obtain ⟨registry', hregistry, hmem⟩ := h.standing other handler' hbefore hphase'
    obtain rfl := Option.some.inj (hserved.symm.trans hregistry)
    have hsha' : handler'.record ≠ record := by
      intro hsame
      rw [← hsame] at hsha
      exact hne (h.alone other id handler' handler hbefore hid hphase' hphase hsha)
    refine ⟨candidate, rfl, ?_⟩
    rw [hrecords]
    refine mem_bound_of_open ?_ (h.recorded other handler' hbefore).spec.2
    rw [hsplit, List.mem_append, List.mem_cons] at hmem
    rw [hconcluded, List.mem_append, List.mem_cons]
    cases hmem with
    | inl hmem => exact Or.inl hmem
    | inr hmem => exact Or.inr (Or.inr (hmem.resolve_left hsha'))
  · intro first second handler₁ handler₂ hfirst hsecond
    exact h.alone first second handler₁ handler₂ (hback first handler₁ hfirst).2
      (hback second handler₂ hsecond).2

/-- A request that goes one step further without being decided by it. -/
theorem Standing.go (h : Standing digest service) {id : Nat} {approval : Bytes}
    {record : DispatchRecord} {phase : Phase}
    (hid : service.handlers id = some ⟨approval, record, phase⟩) {later : Phase}
    (hlater : later.undecided = false → phase.undecided = false) :
    Standing digest (service.set id (some ⟨approval, record, later⟩)) := by
  apply h.set rfl rfl
  intro handler' hnext
  obtain rfl := Option.some.inj hnext
  exact Or.inl ⟨_, hid, rfl, rfl, hlater⟩

/-- A request that is answered, whatever became of the file. -/
theorem Standing.drop (h : Standing digest service) (store : Store)
    (hserved : store.served = service.store.served) (id : Nat) :
    Standing digest (Service.set { service with store } id none) := by
  have hkept : ({ service with store } : Service).store.served = service.store.served := hserved
  refine h.set hkept rfl id fun handler' hnext => ?_
  cases hnext

/-- What one step of the Controller keeps. -/
theorem standing_step (controllerID infrastructureID : Bytes) (event : Submission.Event)
    (h : Standing digest service) :
    Standing digest (next (Submission.step digest controllerID infrastructureID) service event) := by
  unfold next
  cases event with
  | arrive id approval now admitted pinned =>
      simp only [Submission.step]
      split
      · rename_i registry signed hfree hserved hdecoded
        have hread : Standing digest { service with latest := max service.latest now.toNat } := by
          refine h.frame (Eq.refl service.store.served) ?_
          intro id handler' hid
          exact Or.inl ⟨handler', hid, rfl, rfl, fun hphase => hphase⟩
        split
        · exact hread
        split
        · exact hread
        split
        · exact hread
        · apply hread.set rfl rfl
          intro handler' hnext
          obtain rfl := Option.some.inj hnext
          exact Or.inr ⟨rfl, signed, now, pinned, hdecoded, rfl⟩
      · exact h
  | judge id =>
      simp only [Submission.step]
      split
      · rename_i approval record registry hid hserved
        split
        · exact h.drop service.store rfl id
        · exact h.go hid fun hphase => hphase
      · exact h
  | look id =>
      simp only [Submission.step]
      split
      · rename_i approval record registry hid hserved
        split
        · exact h.drop service.store rfl id
        · exact h.go hid fun hphase => hphase
      · exact h
  | accept id session outcome =>
      simp only [Submission.step]
      split
      · rename_i approval record registry hid hserved
        split
        · exact h.drop service.store rfl id
        · rcases commit_cases service.store outcome (registry.accept record) with
            hfailed | ⟨candidate, hcandidate, hwritable, hwritten | hrenamed⟩
          · rw [hfailed]
            exact h.drop service.store rfl id
          · rw [hwritten]
            exact h.accept hid hserved hcandidate (writable_iff.1 hwritable).1
          · rw [hrenamed]
            exact h.drop ⟨service.store.served, some candidate.encode⟩ rfl id
      · exact h
  | launch id =>
      simp only [Submission.step]
      split
      · rename_i approval record hid
        exact h.go hid fun hphase => hphase
      · exact h
  | conclude id conclusion finished outcome =>
      simp only [Submission.step]
      split
      · rename_i approval record registry hid hserved
        rcases commit_cases service.store outcome
            (registry.conclude record.approvalSHA256 conclusion finished.toNat) with
          hfailed | ⟨candidate, hcandidate, -, hwritten | hrenamed⟩
        · rw [hfailed]
          exact h.drop service.store rfl id
        · rw [hwritten]
          exact h.conclude hid rfl hserved hcandidate
        · rw [hrenamed]
          exact h.drop ⟨service.store.served, some candidate.encode⟩ rfl id
      · exact h
  | restart outcome =>
      constructor
      · intro id handler hid
        cases hid
      · intro id handler hid
        cases hid
      · intro id other handler handler' hid
        cases hid

end Requests

/-! ## Runs -/

section Runs

variable {digest : Bytes → Bytes} {ed25519Verify : Bytes → Bytes → Bytes → Bool}
variable {controllerID infrastructureID machineID : Bytes}

/-- What the registry attests of the machine, the machine spent. -/
structure Linked (digest : Bytes → Bytes) (machineID : Bytes) (joint : Joint) : Prop where
  held : Held joint.done joint.machine
  attested : DispatchHistory.Throughout (Attested machineID (spent joint.done)) joint.service.store
  standing : Standing digest joint.service

theorem linked_initial : Linked digest machineID Joint.initial where
  held := held_initial
  attested := ⟨fun _ h => absurd h (by simp [Joint.initial, Service.initial]),
    fun _ h => absurd h (by simp [Joint.initial, Service.initial])⟩
  standing := by
    constructor
    · intro id handler hid
      cases hid
    · intro id handler hid
      cases hid
    · intro id other handler handler' hid
      cases hid

/-- Two open records of a valid registry have two digests. -/
theorem open_unique {registry : DispatchRegistry} (hvalid : registry.validate = true)
    {left right : DispatchRecord} (hleft : left ∈ registry.records)
    (hright : right ∈ registry.records) (hleftOpen : left.terminal = false)
    (hrightOpen : right.terminal = false) (hsame : left.approvalSHA256 = right.approvalSHA256) :
    left = right := by
  have hnodup := (DispatchRegistry.validate_iff.1 hvalid).2.2.2.2
  have hopen (record : DispatchRecord) (hrecord : record ∈ registry.records)
      (hterminal : record.terminal = false) :
      record ∈ registry.records.filter fun record => !record.terminal :=
    List.mem_filter.2 ⟨hrecord, by simp [hterminal]⟩
  exact List.inj_on_of_nodup_map hnodup (hopen left hleft hleftOpen)
    (hopen right hright hrightOpen) hsame

/-- A report that the machine wrote is of a record that names what it spent. -/
theorem Linked.reports {joint : Joint} (h : Linked digest machineID joint) {id : Nat}
    {handler : Handler} {registry : DispatchRegistry} {conclusion : DispatchConclusion}
    {finished : UInt64} {outcome : Persisted}
    (hwritten : unwritten machineID joint (.conclude id conclusion finished outcome) = false)
    (hid : joint.service.handlers id = some handler)
    (hphase : handler.phase.undecided = false)
    (hserved : joint.service.store.served = some registry)
    (hreported : conclusion.state = .reported) :
    ∀ record ∈ registry.records, record.terminal = false →
      record.approvalSHA256 = handler.record.approvalSHA256 → record.machineID = machineID →
      ∃ state ∈ spent joint.done, state.approvalEpoch = record.approvalEpoch ∧
        state.consumedSequence = record.sequence := by
  intro record hrecord hopen hsha hmachine
  obtain ⟨registry', hregistry, hmem⟩ := h.standing.standing id handler hid hphase
  obtain rfl := Option.some.inj (hserved.symm.trans hregistry)
  have hsame := open_unique (h.attested.served registry hserved).valid hrecord hmem hopen
    (h.standing.recorded id handler hid).spec.2 hsha
  have haccepts : accepts joint handler.record = true := by
    simpa [unwritten, hreported, hid, ← hsame, hmachine] using hwritten
  obtain ⟨state, hstate, hnames⟩ := List.any_eq_true.1 haccepts
  simp only [Bool.and_eq_true, decide_eq_true_eq] at hnames
  rw [hsame]
  exact ⟨state, (accepted_sublist_spent joint.done).subset hstate, hnames.1.2, hnames.2⟩

/-- What one step keeps, of either of them. -/
theorem linked_step (joint : Joint) (event : Event) (h : Linked digest machineID joint) :
    Linked digest machineID
      (next (step digest ed25519Verify controllerID infrastructureID machineID) joint event) := by
  unfold next
  cases event with
  | machine event =>
      have hheld := held_step ed25519Verify joint.done joint.machine event h.held
      constructor
      · exact hheld
      · refine h.attested.mono fun registry hregistry => hregistry.mono fun state hstate => ?_
        show state ∈ (joint.done ++ [_]).filterMap _
        rw [List.filterMap_append]
        exact List.mem_append_left _ hstate
      · exact h.standing
  | controller event =>
      simp only [step]
      cases hunwritten : unwritten machineID joint event with
      | true =>
          rw [if_pos rfl]
          exact h
      | false =>
          rw [if_neg Bool.false_ne_true]
          constructor
          · exact h.held
          · show DispatchHistory.Throughout _
              (next (Submission.step digest controllerID infrastructureID) joint.service event).store
            rcases store_cases digest controllerID infrastructureID joint.service event with
              hsame | ⟨id, handler, registry, outcome, hevent, hid, hserved, hstore⟩ |
              ⟨id, conclusion, finished, outcome, handler, registry, hevent, hid, hphase, hserved,
                hstore⟩ | ⟨outcome, hevent, hstore⟩
            · rw [hsame]
              exact h.attested
            · rw [hstore]
              apply h.attested.commit
              intro candidate hcandidate hvalid
              exact (h.attested.served registry hserved).accept
                (h.standing.recorded id handler hid).spec.1 hcandidate hvalid
            · rw [hstore]
              apply h.attested.commit
              intro candidate hcandidate hvalid
              rw [hevent] at hunwritten
              exact (h.attested.served registry hserved).conclude finished hcandidate hvalid
                (h.reports hunwritten hid (by rw [hphase]; rfl) hserved)
            · rw [hstore]
              exact h.attested.reopen
                (attested_reopens controllerID infrastructureID machineID _) outcome
          · exact standing_step controllerID infrastructureID event h.standing

/-- A submission refused early, where comparing sequences does no harm. -/
theorem Linked.anticipates {joint : Joint} (h : Linked digest machineID joint) {event : Event}
    (hcovered : Covered joint event) :
    Anticipates digest ed25519Verify controllerID infrastructureID machineID joint event := by
  intro id handler signed hevent hid hphase hdecoded hmachine hrefused anchor hbinds position hread
  obtain ⟨signed', now, pinned, hdecoded', hrecord⟩ := h.standing.recorded id handler hid
  obtain rfl := Option.some.inj (hdecoded.symm.trans hdecoded')
  obtain ⟨approval, record, phase⟩ := handler
  simp only at hphase hrecord hdecoded
  rw [hevent] at hcovered hrefused
  cases hserved : joint.service.store.served with
  | none =>
      exfalso
      simp [answer, step, unwritten, Submission.step, hid, hserved, hphase] at hrefused
  | some registry =>
      have hjudged : record.sequence ≤ registry.highestReportedSequence record.machineID := by
        by_contra hpast
        simp [answer, step, unwritten, Submission.step, hid, hserved, hphase, hpast] at hrefused
      have hpos : 0 < record.sequence := by
        rw [hrecord]
        exact Nat.pos_of_ne_zero signed.sequence_pos
      obtain ⟨highest, hhighest, hof, hreported, hsequence⟩ :=
        highestReportedSequence_mem (Nat.lt_of_lt_of_le hpos hjudged)
      obtain ⟨other, hother, ⟨hsame, hotherReported, hhigh⟩, hepoch⟩ :=
        hcovered _ registry hid hserved ⟨highest, hhighest, hof, hreported, hsequence ▸ hjudged⟩
      have hself : record.machineID = machineID := by
        rw [hrecord]
        exact hmachine
      obtain ⟨state, hstate, hstateEpoch, hstateSequence⟩ :=
        (h.attested.served registry hserved).spent other hother hotherReported (hsame.trans hself)
      rw [h.held.readState_eq] at hread
      obtain rfl := Option.some.inj hread
      have hnames : record.approvalEpoch = signed.envelope.approvalEpoch ∧
          record.sequence = signed.envelope.sequence := by
        rw [hrecord]
        exact ⟨rfl, rfl⟩
      simp only at hepoch hhigh
      exact successor_of_spent h.held.series (fun state hstate => (h.held.readable state hstate).2.1)
        hstate anchor (by omega) (by omega)

/-- In every run whose steps all meet `Covered`, a submission for the machine that is refused
for its sequence is one that the machine refuses. -/
theorem anticipates_run {es : List Event}
    (hes : Admits (step digest ed25519Verify controllerID infrastructureID machineID) Covered
      Joint.initial es) :
    Admits (step digest ed25519Verify controllerID infrastructureID machineID)
      (Anticipates digest ed25519Verify controllerID infrastructureID machineID)
      Joint.initial es := by
  have hstep (joint : Joint) (event : Event) (h : Linked digest machineID joint)
      (_ : Covered joint event) : Linked digest machineID
        (next (step digest ed25519Verify controllerID infrastructureID machineID) joint event) :=
    linked_step joint event h
  have hgood (joint : Joint) (event : Event) (h : Linked digest machineID joint)
      (hcovered : Covered joint event) :
      Anticipates digest ed25519Verify controllerID infrastructureID machineID joint event :=
    h.anticipates hcovered
  exact admits_of_invariant hstep hgood linked_initial hes

end Runs

/-! ## The first approval of a new epoch -/

def sampleMachine : Bytes := text "machine"

def sampleStep : Joint → Event → Joint × Submission.Answer :=
  step sha256Hex (fun _ _ _ => false) Submission.sampleController Submission.sampleInfrastructure
    sampleMachine

def sampleReport : DispatchConclusion := ⟨.reported, [], [], true, text "applied"⟩

/-- The first approval of the first epoch is submitted and launched, the machine accepts its
position and reports it. -/
def sampleReported : List Event :=
  [.controller (.restart .written),
    .controller (.arrive 0 Submission.sampleApproval 1 true ([], [])), .controller (.judge 0),
    .controller (.look 0), .controller (.accept 0 true .written), .controller (.launch 0),
    .machine (.present .consumption sampleAnchor sampleFirst 1 true), .machine (.decide true),
    .machine (.write none), .controller (.conclude 0 sampleReport 1 .written)]

/-- The first approval of the second epoch. -/
def renewedApproval : SignedApproval where
  envelope := { sampleEnvelope 1 with approvalEpoch := 2 }
  signature := List.replicate 86 0x41
  validated := by decide
  canonicalSignature := sampleFirst.canonicalSignature

def renewedAnchor : Anchor := { sampleAnchor with approvalEpoch := 2 }

/-- A registry without a record of an earlier epoch. -/
theorem covered_judge {joint : Joint} {id : Nat}
    (h : ((joint.service.handlers id).all fun handler => joint.service.store.served.all
      fun registry => registry.records.all fun other =>
        handler.record.approvalEpoch ≤ other.approvalEpoch) = true) :
    Covered joint (.controller (.judge id)) := by
  intro handler registry hid hserved hhigh
  obtain ⟨other, hother, hasHigh⟩ := hhigh
  rw [hid, Option.all_some, hserved, Option.all_some] at h
  exact ⟨other, hother, hasHigh, by simpa using List.all_eq_true.1 h other hother⟩

/-- The same approval submitted again is refused by both. -/
theorem anticipates_run_again :
    Admits sampleStep (Anticipates sha256Hex (fun _ _ _ => false) Submission.sampleController
      Submission.sampleInfrastructure sampleMachine) Joint.initial
      (sampleReported ++ [.controller (.arrive 1 Submission.sampleApproval 1 true ([], [])),
        .controller (.judge 1)]) := by
  have hadmits : Admits sampleStep Covered Joint.initial
      (sampleReported ++ [.controller (.arrive 1 Submission.sampleApproval 1 true ([], [])),
        .controller (.judge 1)]) :=
    ⟨trivial, trivial, covered_judge (by decide +kernel), trivial, trivial, trivial, trivial,
      trivial, trivial, trivial, trivial, covered_judge (by decide +kernel), trivial⟩
  exact anticipates_run hadmits

/-- The machine would accept the first approval of the second epoch, which is refused early. -/
theorem unanticipated_run :
    ¬ ∀ es : List Event, Admits sampleStep (Anticipates sha256Hex (fun _ _ _ => false)
      Submission.sampleController Submission.sampleInfrastructure sampleMachine)
      Joint.initial es := by
  intro h
  have hadmits := ((admits_append sampleStep).1 (h (sampleReported ++
    [.controller (.arrive 1 renewedApproval.json.render 1 true ([], [])),
      .controller (.judge 1)]))).2
  generalize hreached : run sampleStep Joint.initial sampleReported = reached at hadmits
  have hanticipates := hadmits.2.1
  generalize harrived : next sampleStep reached (.controller (.arrive 1
    renewedApproval.json.render 1 true ([], []))) = arrived at hanticipates
  have hhandler : arrived.service.handlers 1 = some ⟨renewedApproval.json.render,
      recordOf sha256Hex renewedApproval.json.render renewedApproval.envelope 1 ([], []),
      .arrived⟩ := by
    rw [← harrived, ← hreached]
    decide +kernel
  have hrefused : answer sampleStep arrived (.controller (.judge 1)) = .refused := by
    rw [← harrived, ← hreached]
    decide +kernel
  have hposition : (readState arrived.machine.directory.position).map (fun position =>
      (successor position renewedAnchor renewedApproval.envelope).isSome) = some true := by
    rw [← harrived, ← hreached]
    decide +kernel
  obtain ⟨position, hread, haccepts⟩ := Option.map_eq_some_iff.1 hposition
  have hreplayed := hanticipates 1 _ renewedApproval rfl hhandler rfl (by decide +kernel)
    (by decide) hrefused renewedAnchor (by decide) position hread
  rw [hreplayed] at haccepts
  cases haccepts

end YourCloud.Controller.Anticipation
