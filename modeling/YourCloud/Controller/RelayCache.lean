import YourCloud.Controller.RelaySnapshot
import YourCloud.Foundation.Run

/-!
# The cache of what the Relay said

A Controller keeps the last snapshot it accepted.  A candidate that passes on its
own replaces it only where the transition is allowed, and memory follows the disk.

The transition is checked against the snapshot before alone.  It is a preorder
on the snapshots that pass, so what it says of one replacement it says of every
snapshot that was ever in the cache beside every later one.

## Main results

* `gapsPreserved_iff` — the walk over two lists of ranges decides whether each of
  the known ones lies within one of the next.
* `allowsSnapshotTransition_iff` — the transition, part by part.
* `transition_refl`, `transition_trans` — it is a preorder.
* `cache_never_regresses` — what holds over a run of the cache.
-/

namespace YourCloud.Controller

open YourCloud.Foundation
open YourCloud.Observation

/-! ## The cache -/

/-- What a cache holds in memory, and why it could not read its file. -/
structure RelayCacheStore where
  controllerID : Bytes
  infrastructureID : Bytes
  state : Option RelaySnapshot
  loadError : Option SnapshotProblem
  deriving DecidableEq, Repr

/-- A file that is there and cannot be read leaves the cache empty. -/
def openRelayCacheStore (data : Option Bytes) (controllerID infrastructureID : Bytes) :
    RelayCacheStore :=
  match data with
  | none => { controllerID, infrastructureID, state := none, loadError := none }
  | some data =>
      match decodeRelaySnapshot data controllerID infrastructureID with
      | .error problem =>
          { controllerID, infrastructureID, state := none, loadError := some problem }
      | .ok state => { controllerID, infrastructureID, state := some state, loadError := none }

/-- A copy of an empty list of readings is an absent one. -/
def cloneObservation (observation : RelaySnapshotObservation) : RelaySnapshotObservation :=
  { observation with
    external := if observation.external.items.isEmpty then none else observation.external }

def cloneRelaySnapshot (snapshot : RelaySnapshot) : RelaySnapshot :=
  { snapshot with
    machines := some (snapshot.machines.items.map fun machine =>
      { machine with observation := machine.observation.map cloneObservation }) }

/-- What the cache answers: its snapshot, or why it has none. -/
def RelayCacheStore.snapshot (store : RelayCacheStore) :
    Except (Option SnapshotProblem) RelaySnapshot :=
  match store.state with
  | some state => .ok (cloneRelaySnapshot state)
  | none => .error store.loadError

/-- Why a candidate may not be committed. -/
def RelayCacheStore.refuses (store : RelayCacheStore) (candidate : RelaySnapshot) :
    Option SnapshotProblem :=
  (candidate.validate store.controllerID store.infrastructureID).or
    (store.state.bind fun current => allowsSnapshotTransition current candidate)

/-- A candidate that is allowed is written, and then kept; the writing may fail. -/
def RelayCacheStore.commit (store : RelayCacheStore) (candidate : RelaySnapshot) (written : Bool) :
    RelayCacheStore × Except SnapshotProblem Unit :=
  match store.refuses candidate with
  | some problem => (store, .error problem)
  | none =>
      if written then
        ({ store with state := some (cloneRelaySnapshot candidate), loadError := none }, .ok ())
      else (store, .error (refused "write Relay cache"))

/-- One candidate after the other, each with whether it could be written. -/
def cacheStep (store : RelayCacheStore) (event : RelaySnapshot × Bool) :
    RelayCacheStore × Except SnapshotProblem Unit :=
  store.commit event.1 event.2

/-! ## Ranges -/

/-- Each known range lies within one of the next ones. -/
def Preserves (known next : List Gap) : Prop :=
  ∀ gap ∈ known, ∃ other ∈ next,
    other.firstSequence ≤ gap.firstSequence ∧ gap.lastSequence ≤ other.lastSequence

theorem Preserves.trans {first second third : List Gap} (h : Preserves first second)
    (h' : Preserves second third) : Preserves first third := by
  intro gap hgap
  obtain ⟨other, hother, hfirst, hlast⟩ := h gap hgap
  obtain ⟨outer, houter, hfirst', hlast'⟩ := h' other hother
  exact ⟨outer, houter, hfirst'.trans hfirst, hlast.trans hlast'⟩

/-- What known ranges cover is still covered. -/
theorem Preserves.covers {known next : List Gap} (h : Preserves known next) {n : Nat}
    (hn : ∃ gap ∈ known, gap.covers n = true) : ∃ gap ∈ next, gap.covers n = true := by
  obtain ⟨gap, hgap, hcovers⟩ := hn
  obtain ⟨other, hother, hfirst, hlast⟩ := h gap hgap
  refine ⟨other, hother, ?_⟩
  rw [Gap.covers, Bool.and_eq_true, decide_eq_true_eq, decide_eq_true_eq] at hcovers ⊢
  exact ⟨hfirst.trans hcovers.1, hcovers.2.trans hlast⟩

/-- Ranges in order, each of which ends before the next one begins. -/
structure Ordered (gaps : List Gap) : Prop where
  apart : gaps.Pairwise fun left right => left.lastSequence < right.firstSequence
  range : ∀ gap ∈ gaps, gap.firstSequence ≤ gap.lastSequence

theorem Ordered.tail {gap : Gap} {rest : List Gap} (h : Ordered (gap :: rest)) : Ordered rest :=
  ⟨(List.pairwise_cons.1 h.apart).2, fun other hother => h.range other (List.mem_cons_of_mem _ hother)⟩

/-- Ranges that end before a known one begins hold neither it nor a later one. -/
theorem preserves_dropWhile {known : List Gap} (next : List Gap) {bound : Nat}
    (hbound : ∀ gap ∈ known, bound ≤ gap.firstSequence ∧ gap.firstSequence ≤ gap.lastSequence) :
    Preserves known (next.dropWhile fun gap => gap.lastSequence < bound) ↔ Preserves known next := by
  constructor
  · intro h gap hgap
    obtain ⟨other, hother, hwithin⟩ := h gap hgap
    exact ⟨other, (List.dropWhile_sublist _).subset hother, hwithin⟩
  · intro h gap hgap
    obtain ⟨other, hother, hfirst, hlast⟩ := h gap hgap
    obtain ⟨hfrom, hrange⟩ := hbound gap hgap
    rw [← List.takeWhile_append_dropWhile (p := fun gap : Gap => decide (gap.lastSequence < bound))
      (l := next)] at hother
    rcases List.mem_append.1 hother with htaken | hleft
    · have hbefore := List.mem_takeWhile_imp
        (p := fun gap : Gap => decide (gap.lastSequence < bound)) htaken
      have hbefore := of_decide_eq_true hbefore
      omega
    · exact ⟨other, hleft, hfirst, hlast⟩

/-- The walk over two lists of ranges in order. -/
theorem gapsPreserved_iff {known next : List Gap} (hknown : Ordered known) (hnext : Ordered next) :
    gapsPreserved known next = true ↔ Preserves known next := by
  induction known generalizing next with
  | nil => simp [gapsPreserved, Preserves]
  | cons gap rest ih =>
      have hbound : ∀ other ∈ gap :: rest,
          gap.firstSequence ≤ other.firstSequence ∧ other.firstSequence ≤ other.lastSequence := by
        intro other hother
        have hrange := hknown.range other hother
        rcases List.mem_cons.1 hother with rfl | hlater
        · exact ⟨le_refl _, hrange⟩
        · have hapart := (List.pairwise_cons.1 hknown.apart).1 other hlater
          have hgap := hknown.range gap List.mem_cons_self
          exact ⟨by omega, hrange⟩
      rw [← preserves_dropWhile next hbound, gapsPreserved]
      have hordered : Ordered (next.dropWhile fun other => other.lastSequence < gap.firstSequence) :=
        ⟨hnext.apart.sublist (List.dropWhile_sublist _),
          fun other hother => hnext.range other ((List.dropWhile_sublist _).subset hother)⟩
      split
      · rename_i hnone
        rw [hnone]
        constructor
        · exact fun h => absurd h Bool.false_ne_true
        · intro h
          obtain ⟨other, hother, -⟩ := h gap List.mem_cons_self
          exact absurd hother List.not_mem_nil
      · rename_i first after hsome
        rw [hsome] at hordered ⊢
        have hreaches : gap.firstSequence ≤ first.lastSequence := by
          have hhead := List.head_dropWhile_not (fun other : Gap =>
            decide (other.lastSequence < gap.firstSequence)) (l := next) (by rw [hsome]; simp)
          simp only [hsome, List.head_cons, decide_eq_false_iff_not, not_lt] at hhead
          exact hhead
        split
        · rename_i hout
          constructor
          · exact fun h => absurd h Bool.false_ne_true
          · intro h
            obtain ⟨other, hother, hfirst, hlast⟩ := h gap List.mem_cons_self
            -- A range after the first one begins after it, so after the known one.
            rcases List.mem_cons.1 hother with rfl | hlater
            · omega
            · have hapart := (List.pairwise_cons.1 hordered.apart).1 other hlater
              omega
        · rename_i hwithin
          rw [ih hknown.tail hordered]
          constructor
          · intro h other hother
            rcases List.mem_cons.1 hother with rfl | hlater
            · exact ⟨first, List.mem_cons_self, by omega, by omega⟩
            · exact h other hlater
          · exact fun h other hother => h other (List.mem_cons_of_mem _ hother)

/-! ## Snapshots that pass -/

/-- The ranges of a message follow each other. -/
theorem validateGaps_ordered {sequence index : Nat} {previous : Option Gap} {gaps : List Gap}
    (h : validateGaps sequence index previous gaps = none) :
    (∀ before ∈ previous, ∀ gap ∈ gaps, before.lastSequence < gap.firstSequence) ∧
      Ordered gaps := by
  induction gaps generalizing index previous with
  | nil => exact ⟨fun _ _ _ h => absurd h List.not_mem_nil, List.Pairwise.nil,
      fun _ h => absurd h List.not_mem_nil⟩
  | cons gap rest ih =>
      unfold validateGaps at h
      split at h
      · cases h
      rename_i hgap
      split at h
      · cases h
      split at h
      · cases h
      rename_i hprevious
      obtain ⟨-, hrange, -⟩ := Gap.validate_ok hgap
      obtain ⟨hlater, hordered⟩ := ih h
      have hlater := hlater gap rfl
      constructor
      · intro before hbefore other hother
        rw [Option.mem_def.1 hbefore, Option.any_some, decide_eq_true_eq, not_le] at hprevious
        rcases List.mem_cons.1 hother with rfl | hother
        · exact hprevious
        · have := hlater other hother
          omega
      · refine ⟨List.pairwise_cons.2 ⟨hlater, hordered.apart⟩, ?_⟩
        intro other hother
        rcases List.mem_cons.1 hother with rfl | hother
        · omega
        · exact hordered.range other hother

theorem gaps_ordered {machineID : Bytes} {snapshotAt : Instant}
    {candidate : RelaySnapshotObservation}
    (h : validateSnapshotObservation machineID snapshotAt candidate = none) :
    Ordered candidate.gaps.items := by
  unfold validateSnapshotObservation at h
  split at h
  · cases h
  split at h
  · cases h
  split at h
  · cases h
  rename_i henvelope
  rw [Envelope.validate] at henvelope
  simp only [Option.or_eq_none_iff] at henvelope
  exact (validateGaps_ordered henvelope.2.2.2.2.2.2.2.2.2.2).2

/-- The machines of a snapshot that passes: in order of their names, each with an
observation that passes. -/
structure MachinesValid (machines : List RelaySnapshotMachine) : Prop where
  sorted : (machines.map RelaySnapshotMachine.machineID).Pairwise (· < ·)
  ordered : ∀ m ∈ machines, ∀ o ∈ m.observation, Ordered o.gaps.items

theorem validateMachines_valid {snapshotAt : Instant} {previous : Bytes} {totalGaps : Nat}
    {machines : List RelaySnapshotMachine}
    (h : validateMachines snapshotAt previous totalGaps machines = none) :
    (∀ m ∈ machines, previous < m.machineID) ∧ MachinesValid machines := by
  induction machines generalizing previous totalGaps with
  | nil => exact ⟨fun _ h => absurd h List.not_mem_nil, List.Pairwise.nil,
      fun _ h => absurd h List.not_mem_nil⟩
  | cons machine rest ih =>
      unfold validateMachines at h
      split at h
      · cases h
      rename_i hname
      split at h
      · cases h
      have hprevious : previous < machine.machineID := List.not_le.1 (not_or.1 hname).2
      -- The rest passes whether or not there is an observation, and that passes as well.
      have hrest : ∃ total, validateMachines snapshotAt machine.machineID total rest = none ∧
          ∀ o ∈ machine.observation, Ordered o.gaps.items := by
        split at h
        · rename_i hnone
          exact ⟨totalGaps, h, fun o ho => by rw [hnone] at ho; cases ho⟩
        · rename_i candidate hcandidate
          split at h
          · cases h
          rename_i hvalid
          split at h
          · cases h
          refine ⟨_, h, fun o ho => ?_⟩
          rw [hcandidate] at ho
          rw [← Option.some.inj ho]
          exact gaps_ordered hvalid
      obtain ⟨total, hrest, hordered⟩ := hrest
      obtain ⟨hlater, hsorted, hgaps⟩ := ih hrest
      constructor
      · intro m hm
        rcases List.mem_cons.1 hm with rfl | hm
        · exact hprevious
        · exact List.lt_trans hprevious (hlater m hm)
      · constructor
        · refine List.pairwise_cons.2 ⟨fun name hname => ?_, hsorted⟩
          obtain ⟨m, hm, rfl⟩ := List.mem_map.1 hname
          exact hlater m hm
        · intro m hm
          rcases List.mem_cons.1 hm with rfl | hm
          · exact hordered
          · exact hgaps m hm

/-- What passing says of a snapshot beside another one. -/
structure RelaySnapshot.Valid (snapshot : RelaySnapshot) : Prop where
  time : ∃ t, parseCanonicalUTC snapshot.snapshotAt = .ok t
  machines : MachinesValid snapshot.machines.items

theorem valid_of_validate {snapshot : RelaySnapshot} {controllerID infrastructureID : Bytes}
    (h : snapshot.validate controllerID infrastructureID = none) : snapshot.Valid := by
  obtain ⟨-, -, t, ht⟩ := RelaySnapshot.validate_ok h
  refine ⟨⟨t, ht⟩, ?_⟩
  unfold RelaySnapshot.validate at h
  rw [ht] at h
  split at h
  · cases h
  split at h
  · cases h
  split at h
  · cases h
  dsimp only at h
  split at h
  · cases h
  exact (validateMachines_valid h).2

/-! ## The transition -/

/-- What has to hold of a machine and the one of its name in the next snapshot. -/
structure Follows (previous next : RelaySnapshotMachine) : Prop where
  name : next.machineID = previous.machineID
  status : previous.enrollmentStatus = text "revoked" → next.enrollmentStatus = text "revoked"
  observation : ∀ before ∈ previous.observation, ∃ after, next.observation = some after ∧
    (after = before ∨ before.sequence < after.sequence ∧
      gapsPreserved before.gaps.items after.gaps.items = true)

theorem allowsMachine_iff {previous next : RelaySnapshotMachine}
    (hname : next.machineID = previous.machineID) :
    allowsMachine previous next = none ↔ Follows previous next := by
  constructor
  · intro h
    unfold allowsMachine at h
    split at h
    · cases h
    rename_i hstatus
    refine ⟨hname, fun hrevoked => by_contra fun hactive => hstatus ⟨hrevoked, hactive⟩, ?_⟩
    intro before hbefore
    rw [hbefore] at h
    dsimp only at h
    split at h
    · cases h
    rename_i after hafter
    split at h
    · cases h
    rename_i hregressed
    split at h
    · cases h
    rename_i hreused
    split at h
    · cases h
    rename_i hgaps
    refine ⟨after, hafter, ?_⟩
    by_cases heq : after.sequence = before.sequence
    · exact .inl (by_contra fun hne => hreused ⟨heq, hne⟩)
    · have hlt : before.sequence < after.sequence := by omega
      exact .inr ⟨hlt, by_contra fun hlost => hgaps ⟨hlt, Bool.not_eq_true _ ▸ hlost⟩⟩
  · exact fun h => allowsMachine_ok h.status h.observation

/-- The walk over the next machines succeeds with no known one left exactly where
each of these is among them, and is followed there. -/
theorem allowsMachines_iff {currentByID next : List RelaySnapshotMachine}
    (hknown : (currentByID.map RelaySnapshotMachine.machineID).Nodup)
    (hnext : (next.map RelaySnapshotMachine.machineID).Nodup) :
    allowsMachines currentByID next = .ok [] ↔
      ∀ previous ∈ currentByID, ∃ machine ∈ next, Follows previous machine := by
  constructor
  · intro h
    induction next generalizing currentByID with
    | nil =>
        rw [allowsMachines] at h
        rw [Except.ok.inj h]
        exact fun _ hprevious => absurd hprevious List.not_mem_nil
    | cons machine rest ih =>
        intro previous hprevious
        unfold allowsMachines at h
        have hrest := (List.nodup_cons.1 hnext).2
        split at h
        · obtain ⟨later, hlater, hfollows⟩ := ih hknown hrest h previous hprevious
          exact ⟨later, List.mem_cons_of_mem _ hlater, hfollows⟩
        · rename_i found hfound
          split at h
          · cases h
          rename_i hallowed
          by_cases hname : previous.machineID = machine.machineID
          · -- Of one name there is one known machine.
            have hsame : found = previous := by
              apply List.inj_on_of_nodup_map hknown (Table.find_mem hfound) hprevious
              rw [Table.find_key hfound, hname]
            rw [hsame] at hallowed
            exact ⟨machine, List.mem_cons_self, (allowsMachine_iff hname.symm).1 hallowed⟩
          · have hkept := Table.mem_remove.2 ⟨hprevious, hname⟩
            have hnodup : ((Table.remove RelaySnapshotMachine.machineID machine.machineID
                currentByID).map RelaySnapshotMachine.machineID).Nodup :=
              hknown.sublist (List.filter_sublist.map _)
            obtain ⟨later, hlater, hfollows⟩ := ih hnodup hrest h previous hkept
            exact ⟨later, List.mem_cons_of_mem _ hlater, hfollows⟩
  · intro h
    apply allowsMachines_ok
    · intro previous hprevious
      obtain ⟨machine, hmachine, hfollows⟩ := h previous hprevious
      exact ⟨machine, hmachine, hfollows.name⟩
    · intro previous hprevious machine hmachine hname
      obtain ⟨found, hfound, hfollows⟩ := h previous hprevious
      have hsame : found = machine :=
        List.inj_on_of_nodup_map hnext hfound hmachine (hfollows.name.trans hname.symm)
      exact (allowsMachine_iff hname).2 (hsame ▸ hfollows)

/-- Machines in order each have their own name. -/
theorem MachinesValid.nodup {machines : List RelaySnapshotMachine} (h : MachinesValid machines) :
    (machines.map RelaySnapshotMachine.machineID).Nodup :=
  h.sorted.imp fun {a b} (hlt : a < b) (heq : a = b) => List.lt_irrefl b (heq ▸ hlt)

/-- The table of machines by name holds the machines, each once. -/
theorem machinesByID_valid {machines : List RelaySnapshotMachine} (h : MachinesValid machines) :
    (∀ m, m ∈ machinesByID machines ↔ m ∈ machines) ∧
      ((machinesByID machines).map RelaySnapshotMachine.machineID).Nodup := by
  -- Putting a machine of a new name puts it in front.
  have hfold : ∀ machines table : List RelaySnapshotMachine,
      ((machines ++ table).map RelaySnapshotMachine.machineID).Nodup →
      machines.foldl (fun table machine => Table.put RelaySnapshotMachine.machineID machine table)
        table = machines.reverse ++ table := by
    intro machines
    induction machines with
    | nil => exact fun _ _ => rfl
    | cons machine rest ih =>
        intro table hnodup
        rw [List.cons_append, List.map_cons, List.nodup_cons] at hnodup
        have hput : Table.put RelaySnapshotMachine.machineID machine table = machine :: table := by
          rw [Table.put, Table.remove, List.filter_eq_self.2]
          intro other hother
          apply decide_eq_true
          intro hname
          exact hnodup.1 (List.mem_map.2 ⟨other, List.mem_append_right _ hother, hname⟩)
        rw [List.foldl_cons, hput, ih, List.reverse_cons, List.append_assoc]
        · rfl
        · have hperm : (rest ++ machine :: table).Perm (machine :: (rest ++ table)) :=
            List.perm_middle
          exact (hperm.map _).nodup_iff.2 (List.nodup_cons.2 hnodup)
  have hall : machinesByID machines = machines.reverse := by
    rw [machinesByID, hfold, List.append_nil]
    rw [List.append_nil]
    exact h.nodup
  rw [hall]
  refine ⟨fun m => List.mem_reverse, ?_⟩
  rw [List.map_reverse]
  exact List.nodup_reverse.2 h.nodup

/-- The transition, part by part. -/
theorem allowsSnapshotTransition_iff {current candidate : RelaySnapshot}
    (hcurrent : current.Valid) (hcandidate : candidate.Valid) :
    allowsSnapshotTransition current candidate = none ↔
      current.controllerID = candidate.controllerID ∧
      current.infrastructureID = candidate.infrastructureID ∧
      (∃ t u, parseCanonicalUTC current.snapshotAt = .ok t ∧
        parseCanonicalUTC candidate.snapshotAt = .ok u ∧ t ≤ u) ∧
      ∀ previous ∈ current.machines.items, ∃ next ∈ candidate.machines.items,
        Follows previous next := by
  obtain ⟨⟨t, ht⟩, hmachines⟩ := hcurrent
  obtain ⟨⟨u, hu⟩, hnext⟩ := hcandidate
  obtain ⟨hmem, hnodup⟩ := machinesByID_valid hmachines
  have hwalk := allowsMachines_iff hnodup hnext.nodup
  constructor
  · intro h
    unfold allowsSnapshotTransition at h
    rw [ht, hu] at h
    split at h
    · cases h
    rename_i hidentities
    rw [not_or, not_not, not_not] at hidentities
    dsimp only at h
    split at h
    · cases h
    rename_i hregressed
    split at h
    · cases h
    rename_i missing hmissing
    split at h
    · rename_i hnone
      have hempty : missing = [] := by
        have hlength := congrArg List.length hnone
        rw [List.length_insertionSort, List.length_map] at hlength
        exact List.length_eq_zero_iff.1 hlength
      rw [hempty] at hmissing
      refine ⟨hidentities.1, hidentities.2, ⟨t, u, ht, hu, not_lt.1 hregressed⟩, ?_⟩
      exact fun previous hprevious => hwalk.1 hmissing previous ((hmem previous).2 hprevious)
    · cases h
  · rintro ⟨hcontroller, hinfrastructure, ⟨t', u', ht', hu', hle⟩, hfollows⟩
    apply allowsSnapshotTransition_ok hcontroller hinfrastructure ht' hu' hle
    exact hwalk.2 fun previous hprevious => hfollows previous ((hmem previous).1 hprevious)

theorem Follows.refl (machine : RelaySnapshotMachine) : Follows machine machine :=
  ⟨rfl, id, fun before hbefore => ⟨before, hbefore, .inl rfl⟩⟩

/-- A machine whose observation has its ranges in order. -/
def RelaySnapshotMachine.Ordered (machine : RelaySnapshotMachine) : Prop :=
  ∀ o ∈ machine.observation, Controller.Ordered o.gaps.items

theorem Follows.trans {first second third : RelaySnapshotMachine} (hfirst : first.Ordered)
    (hsecond : second.Ordered) (hthird : third.Ordered) (h : Follows first second)
    (h' : Follows second third) : Follows first third := by
  refine ⟨h'.name.trans h.name, fun hrevoked => h'.status (h.status hrevoked), ?_⟩
  intro before hbefore
  obtain ⟨between, hbetween, hcase⟩ := h.observation before hbefore
  obtain ⟨after, hafter, hcase'⟩ := h'.observation between hbetween
  refine ⟨after, hafter, ?_⟩
  rcases hcase with rfl | ⟨hlt, hgaps⟩
  · exact hcase'
  · rcases hcase' with rfl | ⟨hlt', hgaps'⟩
    · exact .inr ⟨hlt, hgaps⟩
    · refine .inr ⟨hlt.trans hlt', ?_⟩
      rw [gapsPreserved_iff (hfirst before hbefore) (hsecond between hbetween)] at hgaps
      rw [gapsPreserved_iff (hsecond between hbetween) (hthird after hafter)] at hgaps'
      rw [gapsPreserved_iff (hfirst before hbefore) (hthird after hafter)]
      exact hgaps.trans hgaps'

theorem transition_refl {snapshot : RelaySnapshot} (h : snapshot.Valid) :
    allowsSnapshotTransition snapshot snapshot = none := by
  rw [allowsSnapshotTransition_iff h h]
  obtain ⟨t, ht⟩ := h.time
  exact ⟨rfl, rfl, ⟨t, t, ht, ht, le_refl t⟩, fun m hm => ⟨m, hm, Follows.refl m⟩⟩

theorem transition_trans {first second third : RelaySnapshot} (hfirst : first.Valid)
    (hsecond : second.Valid) (hthird : third.Valid)
    (h : allowsSnapshotTransition first second = none)
    (h' : allowsSnapshotTransition second third = none) :
    allowsSnapshotTransition first third = none := by
  rw [allowsSnapshotTransition_iff hfirst hsecond] at h
  rw [allowsSnapshotTransition_iff hsecond hthird] at h'
  rw [allowsSnapshotTransition_iff hfirst hthird]
  obtain ⟨hcontroller, hinfrastructure, ⟨t, u, ht, hu, hle⟩, hmachines⟩ := h
  obtain ⟨hcontroller', hinfrastructure', ⟨u', v, hu', hv, hle'⟩, hmachines'⟩ := h'
  have hsame : u' = u := by
    rw [hu] at hu'
    exact (Except.ok.inj hu').symm
  refine ⟨hcontroller.trans hcontroller', hinfrastructure.trans hinfrastructure',
    ⟨t, v, ht, hv, hle.trans (hsame ▸ hle')⟩, ?_⟩
  intro previous hprevious
  obtain ⟨between, hbetween, hfollows⟩ := hmachines previous hprevious
  obtain ⟨next, hnext, hfollows'⟩ := hmachines' between hbetween
  exact ⟨next, hnext, hfollows.trans (hfirst.machines.ordered previous hprevious)
    (hsecond.machines.ordered between hbetween) (hthird.machines.ordered next hnext) hfollows'⟩

/-! ## Runs of the cache -/

/-- What never goes back from a machine to the one of its name in a later snapshot. -/
structure Kept (machine later : RelaySnapshotMachine) : Prop where
  name : later.machineID = machine.machineID
  status : machine.enrollmentStatus = text "revoked" → later.enrollmentStatus = text "revoked"
  observation : ∀ before ∈ machine.observation, ∃ after ∈ later.observation,
    before.sequence ≤ after.sequence ∧
      ∀ n, (∃ gap ∈ before.gaps.items, gap.covers n = true) →
        ∃ gap ∈ after.gaps.items, gap.covers n = true

def Retains (before after : RelaySnapshot) : Prop :=
  ∀ machine ∈ before.machines.items, ∃ later ∈ after.machines.items, Kept machine later

theorem Retains.refl (snapshot : RelaySnapshot) : Retains snapshot snapshot :=
  fun machine hmachine => ⟨machine, hmachine, rfl, id,
    fun before hbefore => ⟨before, hbefore, le_refl _, fun _ hn => hn⟩⟩

theorem Retains.trans {first second third : RelaySnapshot} (h : Retains first second)
    (h' : Retains second third) : Retains first third := by
  intro machine hmachine
  obtain ⟨between, hbetween, hname, hstatus, hobservation⟩ := h machine hmachine
  obtain ⟨later, hlater, hname', hstatus', hobservation'⟩ := h' between hbetween
  refine ⟨later, hlater, hname'.trans hname, fun hrevoked => hstatus' (hstatus hrevoked), ?_⟩
  intro before hbefore
  obtain ⟨middle, hmiddle, hle, hcovers⟩ := hobservation before hbefore
  obtain ⟨after, hafter, hle', hcovers'⟩ := hobservation' middle hmiddle
  exact ⟨after, hafter, hle.trans hle', fun n hn => hcovers' n (hcovers n hn)⟩

/-- An allowed transition loses nothing, nor does the copy that is kept of it. -/
theorem retains_of_transition {current candidate : RelaySnapshot} (hcurrent : current.Valid)
    (hcandidate : candidate.Valid) (h : allowsSnapshotTransition current candidate = none) :
    Retains current (cloneRelaySnapshot candidate) := by
  obtain ⟨-, -, -, hmachines⟩ := (allowsSnapshotTransition_iff hcurrent hcandidate).1 h
  intro machine hmachine
  obtain ⟨next, hnext, hfollows⟩ := hmachines machine hmachine
  refine ⟨_, List.mem_map.2 ⟨next, hnext, rfl⟩, hfollows.name, hfollows.status, ?_⟩
  intro before hbefore
  obtain ⟨after, hafter, hcase⟩ := hfollows.observation before hbefore
  refine ⟨cloneObservation after, by simp [hafter], ?_⟩
  rcases hcase with rfl | ⟨hlt, hgaps⟩
  · exact ⟨le_refl _, fun _ hn => hn⟩
  · rw [gapsPreserved_iff (hcurrent.machines.ordered machine hmachine before hbefore)
      (hcandidate.machines.ordered next hnext after hafter)] at hgaps
    exact ⟨hlt.le, fun _ hn => hgaps.covers hn⟩

/-- A copy passes where the snapshot does. -/
theorem RelaySnapshot.Valid.clone {snapshot : RelaySnapshot} (h : snapshot.Valid) :
    (cloneRelaySnapshot snapshot).Valid := by
  obtain ⟨htime, hsorted, hordered⟩ := h
  refine ⟨htime, ?_, ?_⟩
  · simp only [cloneRelaySnapshot, Slice.items, Option.getD_some, List.map_map]
    exact hsorted
  · intro machine hmachine observation hobservation
    obtain ⟨original, horiginal, rfl⟩ := List.mem_map.1 hmachine
    obtain ⟨before, hbefore, rfl⟩ := Option.mem_map.1 hobservation
    exact hordered original horiginal before hbefore

/-- What a cache holds passes, whatever it was loaded from. -/
def RelayCacheStore.Sound (store : RelayCacheStore) : Prop := ∀ state ∈ store.state, state.Valid

theorem open_sound (data : Option Bytes) (controllerID infrastructureID : Bytes) :
    (openRelayCacheStore data controllerID infrastructureID).Sound := by
  unfold openRelayCacheStore
  split
  · exact fun _ h => absurd h (Option.not_mem_none _)
  · rename_i data
    split
    · exact fun _ h => absurd h (Option.not_mem_none _)
    · rename_i state hdecoded
      intro loaded hloaded
      rw [← Option.some.inj hloaded]
      unfold decodeRelaySnapshot at hdecoded
      split at hdecoded
      · cases hdecoded
      split at hdecoded
      · cases hdecoded
      split at hdecoded
      · cases hdecoded
      rename_i hvalid
      rw [← Except.ok.inj hdecoded]
      exact valid_of_validate hvalid

/-- Everything a commit can leave: the cache as it was, or a copy of a candidate
that passes and may replace the snapshot before. -/
theorem cache_cases (store : RelayCacheStore) (candidate : RelaySnapshot) (written : Bool) :
    (store.commit candidate written).1 = store ∨
      ((store.commit candidate written).1 =
          { store with state := some (cloneRelaySnapshot candidate), loadError := none } ∧
        candidate.validate store.controllerID store.infrastructureID = none ∧
        ∀ current ∈ store.state, allowsSnapshotTransition current candidate = none) := by
  unfold RelayCacheStore.commit
  split
  · exact .inl rfl
  · rename_i hallowed
    rw [RelayCacheStore.refuses, Option.or_eq_none_iff] at hallowed
    split
    · refine .inr ⟨rfl, hallowed.1, fun current hcurrent => ?_⟩
      have htransition := hallowed.2
      rwa [Option.mem_def.1 hcurrent, Option.bind_some] at htransition
    · exact .inl rfl

/-- A cache that went from one state to a later one: what it held then it holds, no
part of it gone back. -/
def RelayCacheStore.Advances (store later : RelayCacheStore) : Prop :=
  ∀ before ∈ store.state, ∃ after ∈ later.state, Retains before after

theorem commit_sound {store : RelayCacheStore} (h : store.Sound) (event : RelaySnapshot × Bool) :
    (next cacheStep store event).Sound ∧ store.Advances (next cacheStep store event) := by
  have hsame : store.Advances store := fun before hbefore => ⟨before, hbefore, Retains.refl before⟩
  rcases cache_cases store event.1 event.2 with heq | ⟨heq, hvalid, hallowed⟩
  · have heq : next cacheStep store event = store := heq
    rw [heq]
    exact ⟨h, hsame⟩
  · have heq : next cacheStep store event =
      { store with state := some (cloneRelaySnapshot event.1), loadError := none } := heq
    rw [heq]
    have hcandidate := valid_of_validate hvalid
    constructor
    · intro state hstate
      rw [← Option.some.inj hstate]
      exact hcandidate.clone
    · intro before hbefore
      exact ⟨_, rfl, retains_of_transition (h before hbefore) hcandidate (hallowed before hbefore)⟩

/-- Over a run nothing that was in the cache goes back. -/
theorem run_advances {store : RelayCacheStore} (h : store.Sound)
    (events : List (RelaySnapshot × Bool)) :
    (run cacheStep store events).Sound ∧ store.Advances (run cacheStep store events) := by
  induction events generalizing store with
  | nil => exact ⟨h, fun before hbefore => ⟨before, hbefore, Retains.refl before⟩⟩
  | cons event rest ih =>
      obtain ⟨hsound, hadvances⟩ := commit_sound h event
      obtain ⟨hlast, hlater⟩ := ih hsound
      refine ⟨hlast, fun before hbefore => ?_⟩
      obtain ⟨between, hbetween, hretains⟩ := hadvances before hbefore
      obtain ⟨after, hafter, hretains'⟩ := hlater between hbetween
      exact ⟨after, hafter, hretains.trans hretains'⟩

/-- The walk decides containment, the transition is a preorder, and so no run of
commits from a loaded cache loses a machine, a revocation, a sequence or a range. -/
theorem cache_never_regresses :
    (∀ (previous next : RelaySnapshot) (c i c' i' : Bytes), previous.validate c i = none →
      next.validate c' i' = none →
      ∀ machine ∈ previous.machines.items, ∀ other ∈ next.machines.items,
      ∀ before ∈ machine.observation, ∀ after ∈ other.observation,
        (gapsPreserved before.gaps.items after.gaps.items = true ↔
          ∀ gap ∈ before.gaps.items, ∃ outer ∈ after.gaps.items,
            outer.firstSequence ≤ gap.firstSequence ∧ gap.lastSequence ≤ outer.lastSequence)) ∧
    (∀ (snapshot : RelaySnapshot) (c i : Bytes), snapshot.validate c i = none →
      allowsSnapshotTransition snapshot snapshot = none) ∧
    (∀ (first second third : RelaySnapshot) (c i c' i' c'' i'' : Bytes),
      first.validate c i = none → second.validate c' i' = none → third.validate c'' i'' = none →
      allowsSnapshotTransition first second = none →
      allowsSnapshotTransition second third = none →
      allowsSnapshotTransition first third = none) ∧
    ∀ (data : Option Bytes) (c i : Bytes) (events later : List (RelaySnapshot × Bool)),
      ∀ before ∈ (run cacheStep (openRelayCacheStore data c i) events).state,
      ∃ after ∈ (run cacheStep (openRelayCacheStore data c i) (events ++ later)).state,
        ∀ machine ∈ before.machines.items, ∃ kept ∈ after.machines.items,
          kept.machineID = machine.machineID ∧
          (machine.enrollmentStatus = text "revoked" → kept.enrollmentStatus = text "revoked") ∧
          ∀ observed ∈ machine.observation, ∃ last ∈ kept.observation,
            observed.sequence ≤ last.sequence ∧
            ∀ n, (∃ gap ∈ observed.gaps.items, gap.covers n = true) →
              ∃ gap ∈ last.gaps.items, gap.covers n = true := by
  refine ⟨?_, ?_, ?_, ?_⟩
  · intro previous next c i c' i' hprevious hnext machine hmachine other hother before hbefore
      after hafter
    exact gapsPreserved_iff
      ((valid_of_validate hprevious).machines.ordered machine hmachine before hbefore)
      ((valid_of_validate hnext).machines.ordered other hother after hafter)
  · exact fun snapshot c i h => transition_refl (valid_of_validate h)
  · exact fun first second third c i c' i' c'' i'' h h' h'' =>
      transition_trans (valid_of_validate h) (valid_of_validate h') (valid_of_validate h'')
  · intro data c i events later before hbefore
    have hsound := (run_advances (open_sound data c i) events).1
    obtain ⟨after, hafter, hretains⟩ := (run_advances hsound later).2 before hbefore
    refine ⟨after, ?_, ?_⟩
    · rw [run_append]
      exact hafter
    · intro machine hmachine
      obtain ⟨kept, hkept, hname, hstatus, hobservation⟩ := hretains machine hmachine
      exact ⟨kept, hkept, hname, hstatus, hobservation⟩

end YourCloud.Controller
