import YourCloud.Foundation.Run
import YourCloud.Approval.Replay

/-!
# Runs of the acceptance of approvals

Any number of Auxiliaries present approvals to one machine, under whatever
anchor the machine holds at that instant.  A presentation that passes its own
checks takes the lock without waiting, reads the position and decides, then
replaces the position and gives the lock back; other presentations, a kill and
a crash fall anywhere in between.

The abstract account is a *series*: the sequence of positions spent so far, in
which each one opens the series of a later epoch or is the exact successor of
the one before.  The invariant `Held` ties the file, the lock and the history
of answers to such a series.

## Main results

* `Series.pairwise`, `Series.filter_epoch` — a series spends every position
  once, and spends exactly `1, 2, 3, …` under each epoch.
* `held_step`, `held_history` — every run keeps the invariant.
* `approval_run` — no approval is accepted twice, what is spent under an epoch
  has no hole, the recorded epoch never decreases, and whatever stops before
  the rename leaves the recorded position as it was.
-/

namespace YourCloud.Approval

open YourCloud.Foundation

/-! ## Series of spent positions -/

/-- A position that may follow the last one spent. -/
def Continues : Option State → State → Prop
  | none, next => next.consumedSequence = 1
  | some last, next =>
      last.infrastructureID = next.infrastructureID ∧ last.machineID = next.machineID ∧
      ((last.approvalEpoch < next.approvalEpoch ∧ next.consumedSequence = 1) ∨
        (last.approvalEpoch = next.approvalEpoch ∧
          next.consumedSequence = last.consumedSequence + 1))

/-- The positions a machine spent, oldest first. -/
inductive Series : List State → Prop where
  | nil : Series []
  | snoc {spent : List State} {next : State} (series : Series spent)
      (continues : Continues spent.getLast? next) : Series (spent ++ [next])

/-- The sequences spent under one epoch. -/
def underEpoch (epoch : Nat) (spent : List State) : List Nat :=
  (spent.filter fun state => state.approvalEpoch = epoch).map State.consumedSequence

/-- A later position: of a later epoch, or further in the same one. -/
def State.Before (a b : State) : Prop :=
  a.approvalEpoch < b.approvalEpoch ∨
    a.approvalEpoch = b.approvalEpoch ∧ a.consumedSequence < b.consumedSequence

/-- What is spent so far stands in the series of its epoch, and the last one is
at its end. -/
private theorem Series.spine {spent : List State} (h : Series spent) :
    spent.Pairwise State.Before ∧
      (∀ epoch, underEpoch epoch spent = List.range' 1 (underEpoch epoch spent).length) ∧
      ∀ last ∈ spent.getLast?,
        (∀ state ∈ spent, state = last ∨ state.Before last) ∧
        (underEpoch last.approvalEpoch spent).length = last.consumedSequence := by
  induction h with
  | nil =>
      refine ⟨List.Pairwise.nil, fun _ => rfl, ?_⟩
      intro last hlast
      cases hlast
  | @snoc spent next series continues ih =>
      obtain ⟨hpair, hrange, hlast⟩ := ih
      have hadd : ∀ epoch, underEpoch epoch (spent ++ [next]) =
          underEpoch epoch spent ++ if next.approvalEpoch = epoch
            then [next.consumedSequence] else [] := by
        intro epoch
        rw [underEpoch, underEpoch, List.filter_append, List.map_append]
        congr 1
        by_cases he : next.approvalEpoch = epoch <;> simp [he]
      -- The new position comes after all others and next in its own epoch.
      have hnew : (∀ state ∈ spent, state.Before next) ∧
          (underEpoch next.approvalEpoch spent).length + 1 = next.consumedSequence := by
        cases hl : spent.getLast? with
        | none =>
            obtain rfl := List.getLast?_eq_none_iff.1 hl
            rw [hl] at continues
            exact ⟨fun _ hs => absurd hs List.not_mem_nil, continues.symm⟩
        | some last =>
            rw [hl] at continues
            obtain ⟨hall, hcount⟩ := hlast last hl
            obtain ⟨-, -, ⟨hlt, hone⟩ | ⟨heq, hsucc⟩⟩ := continues
            · have hbefore : ∀ state ∈ spent, state.approvalEpoch < next.approvalEpoch := by
                intro state hs
                rcases hall state hs with rfl | hb | hb
                · exact hlt
                · exact lt_trans hb hlt
                · exact hb.1 ▸ hlt
              refine ⟨fun state hs => Or.inl (hbefore state hs), ?_⟩
              have hnil : underEpoch next.approvalEpoch spent = [] := by
                rw [underEpoch, List.map_eq_nil_iff, List.filter_eq_nil_iff]
                intro state hs
                have := hbefore state hs
                simp only [decide_eq_true_eq]
                omega
              rw [hnil, hone]
              rfl
            · refine ⟨?_, ?_⟩
              · intro state hs
                rcases hall state hs with rfl | hb | hb
                · exact Or.inr ⟨heq, by omega⟩
                · exact Or.inl (heq ▸ hb)
                · exact Or.inr ⟨hb.1.trans heq, by omega⟩
              · rw [← heq, hcount, hsucc]
      refine ⟨?_, ?_, ?_⟩
      · rw [List.pairwise_append]
        refine ⟨hpair, List.pairwise_singleton _ _, ?_⟩
        intro state hs b hb
        obtain rfl := List.mem_singleton.1 hb
        exact hnew.1 state hs
      · intro epoch
        rw [hadd]
        by_cases he : next.approvalEpoch = epoch
        · subst he
          rw [if_pos rfl, List.length_append, List.length_singleton, List.range'_concat,
            ← hrange]
          congr 2
          omega
        · rw [if_neg he, List.append_nil]
          exact hrange epoch
      · intro last hl
        rw [List.getLast?_append, List.getLast?_singleton] at hl
        obtain rfl := Option.some.inj hl
        refine ⟨?_, ?_⟩
        · intro state hs
          rcases List.mem_append.1 hs with hs | hs
          · exact Or.inr (hnew.1 state hs)
          · exact Or.inl (List.mem_singleton.1 hs)
        · rw [hadd, if_pos rfl, List.length_append, List.length_singleton]
          exact hnew.2

theorem Series.pairwise {spent : List State} (h : Series spent) :
    spent.Pairwise State.Before := h.spine.1

/-- The last epoch spent under never decreases as a series grows. -/
theorem Series.epoch_le_of_prefix {spent more : List State} (h : Series more)
    (hp : spent <+: more) :
    (spent.getLast?.map State.approvalEpoch).getD 0 ≤
      (more.getLast?.map State.approvalEpoch).getD 0 := by
  cases hl : spent.getLast? with
  | none => exact Nat.zero_le _
  | some last =>
      have hmem : last ∈ more := hp.subset (List.mem_of_getLast? hl)
      obtain ⟨top, htop⟩ := Option.isSome_iff_exists.1
        (List.getLast?_isSome.2 (List.ne_nil_of_mem hmem))
      rw [htop]
      show last.approvalEpoch ≤ top.approvalEpoch
      rcases (h.spine.2.2 top htop).1 last hmem with rfl | hb | hb
      · exact Nat.le_refl _
      · exact Nat.le_of_lt hb
      · exact Nat.le_of_eq hb.1

/-- Under each epoch exactly `1, 2, 3, …` is spent. -/
theorem Series.filter_epoch {spent : List State} (h : Series spent) (epoch : Nat) :
    ∃ k, underEpoch epoch spent = List.range' 1 k := ⟨_, h.spine.2.1 epoch⟩

/-! ## Presentations -/

/-- The two subjects of the acceptance, and the consumption on its own. -/
inductive Subject where
  | readOnly
  | mutating
  | consumption
  deriving DecidableEq, Repr

/-- The limit of the read-only subject. -/
def requireReadOnlyDiagnostic (envelope : Envelope) : Bool :=
  !envelope.isMutating && decide (envelope.operation = .diagnoseProtocolReadOnly)

/-- The symmetric limit of the mutating subject. -/
def requireAppliedMutation (envelope : Envelope) : Bool :=
  mutatingOperation envelope.operation && envelope.isMutating

section System

variable (ed25519Verify : Bytes → Bytes → Bytes → Bool)

/-- The checks an acceptance makes before it reaches the state. -/
def acceptChecks (requireSubject : Envelope → Bool) (anchor : Anchor)
    (signed : SignedApproval) (nowUnixSeconds : Nat) : Bool :=
  anchor.binds signed.envelope &&
    requireSubject signed.envelope &&
    !decide (nowUnixSeconds < signed.envelope.issuedAtUnix) &&
    !decide (signed.envelope.expiresAtUnix ≤ nowUnixSeconds) &&
    match anchor.publicKey with
    | some anchoredKey => signed.verifySignature ed25519Verify anchoredKey
    | none => false

def Subject.checks : Subject → Anchor → SignedApproval → Nat → Bool
  | readOnly => acceptChecks ed25519Verify requireReadOnlyDiagnostic
  | mutating => acceptChecks ed25519Verify requireAppliedMutation
  | consumption => fun _ _ _ => true

/-- The process inside the lock: it holds it, or it has also decided. -/
inductive Holder where
  | locked (anchor : Anchor) (signed : SignedApproval)
  | decided (next : State)

/-- The state directory and the lock on it. -/
structure System where
  directory : StateDirectory
  holder : Option Holder

/-- What can happen next. -/
inductive Event where
  /-- An approval is presented; `lockable` tells whether the lock file of a sound
  directory could be opened. -/
  | present (subject : Subject) (anchor : Anchor) (signed : SignedApproval)
      (nowUnixSeconds : Nat) (lockable : Bool)
  /-- The holder reads the position, which an error of the system can prevent,
  and decides. -/
  | decide (readable : Bool)
  /-- The holder replaces the position. -/
  | write (stop : Option Stop)
  /-- The holder is killed, and the system gives its lock back. -/
  | die

/-- What is known of one event. -/
inductive Answer where
  | refused
  | locked
  | decided
  | accepted (state : State)
  /-- The replacement stopped by an error or a crash, after its rename or not. -/
  | interrupted (pastRename : Bool) (state : State)
  | idle
  deriving DecidableEq

/-- What a replacement answers. -/
def writeAnswer (stop : Option Stop) (next : State) : WriteOutcome → Answer
  | .written => .accepted next
  | _ => .interrupted ((encodeState next).isSome && renamed stop) next

/-- One event. -/
def step (system : System) : Event → System × Answer
  | .present subject anchor signed nowUnixSeconds lockable =>
      if subject.checks ed25519Verify anchor signed nowUnixSeconds = false then
        (system, .refused)
      else if anchor.binds signed.envelope = false then (system, .refused)
      else if lockable = false then (system, .refused)
      else
        match system.holder with
        | some _ => (system, .refused)
        | none => ({ system with holder := some (.locked anchor signed) }, .locked)
  | .decide readable =>
      match system.holder with
      | some (.locked anchor signed) =>
          match if readable then readState system.directory.position else none with
          | none => ({ system with holder := none }, .refused)
          | some current =>
              match successor current anchor signed.envelope with
              | none => ({ system with holder := none }, .refused)
              | some next => ({ system with holder := some (.decided next) }, .decided)
      | _ => (system, .idle)
  | .write stop =>
      match system.holder with
      | some (.decided next) =>
          let (directory, outcome) := writeState stop system.directory next
          ({ directory, holder := none }, writeAnswer stop next outcome)
      | _ => (system, .idle)
  | .die => ({ system with holder := none }, .idle)

/-- A machine on which nothing was ever consumed. -/
def initial : System := ⟨⟨none, none⟩, none⟩

end System

/-! ## What a history tells -/

/-- The position an answer gives out. -/
def Answer.accepts : Answer → Option State
  | accepted state => some state
  | _ => none

/-- The position an answer leaves recorded. -/
def Answer.spends : Answer → Option State
  | accepted state => some state
  | interrupted true state => some state
  | _ => none

def accepted (h : List (Event × Answer)) : List State := h.filterMap fun e => e.2.accepts

def spent (h : List (Event × Answer)) : List State := h.filterMap fun e => e.2.spends

/-- The epoch a directory records, zero when it records no position. -/
def recordedEpoch (directory : StateDirectory) : Nat :=
  match readState directory.position with
  | some (some state) => state.approvalEpoch
  | _ => 0

/-- Whom an acceptance was for. -/
def State.identity (state : State) : Bytes × Bytes × Nat × Nat :=
  (state.infrastructureID, state.machineID, state.approvalEpoch, state.consumedSequence)

/-! ## The invariant -/

/-- The file, the lock and the answers so far agree with one series. -/
structure Held (h : List (Event × Answer)) (system : System) : Prop where
  series : Series (spent h)
  readable : ∀ state ∈ spent h, state.canonical = true ∧ state.Bounded ∧
    (encodeState state).isSome = true
  recorded : system.directory.position = (spent h).getLast?.bind encodeState
  holder : match system.holder with
    | none => True
    | some (.locked anchor signed) => anchor.binds signed.envelope = true
    | some (.decided next) =>
        next.canonical = true ∧ next.Bounded ∧ Continues (spent h).getLast? next

private theorem spent_append (h : List (Event × Answer)) (e : Event) (a : Answer) :
    spent (h ++ [(e, a)]) = spent h ++ a.spends.toList := by
  rw [spent, List.filterMap_append, ← spent]
  cases ha : a.spends with
  | none => simp [ha]
  | some state => simp [ha]

theorem accepted_sublist_spent (h : List (Event × Answer)) :
    (accepted h).Sublist (spent h) := by
  induction h with
  | nil => exact List.Sublist.refl _
  | cons e h ih =>
      obtain ⟨e, a⟩ := e
      cases a with
      | accepted state => exact ih.cons_cons state
      | interrupted pastRename state =>
          cases pastRename with
          | true => exact ih.cons state
          | false => exact ih
      | refused => exact ih
      | locked => exact ih
      | decided => exact ih
      | idle => exact ih

/-- What is spent and not accepted was interrupted after its rename. -/
theorem accepted_or_interrupted {h : List (Event × Answer)} {state : State}
    (hs : state ∈ spent h) :
    state ∈ accepted h ∨ ∃ e, (e, .interrupted true state) ∈ h := by
  obtain ⟨⟨e, a⟩, he, ha⟩ := List.mem_filterMap.1 hs
  cases a with
  | accepted s =>
      obtain rfl := Option.some.inj ha
      exact Or.inl (List.mem_filterMap.2 ⟨_, he, rfl⟩)
  | interrupted pastRename s =>
      cases pastRename with
      | true =>
          obtain rfl := Option.some.inj ha
          exact Or.inr ⟨e, he⟩
      | false => cases ha
  | refused => cases ha
  | locked => cases ha
  | decided => cases ha
  | idle => cases ha

theorem held_initial : Held [] initial where
  series := Series.nil
  readable := fun _ hs => absurd hs List.not_mem_nil
  recorded := rfl
  holder := trivial

/-- The file reads as the last position spent. -/
theorem Held.readState_eq {h : List (Event × Answer)} {system : System} (hh : Held h system) :
    readState system.directory.position = some (spent h).getLast? := by
  rw [hh.recorded]
  cases hl : (spent h).getLast? with
  | none => rfl
  | some last =>
      obtain ⟨hc, hb, hsome⟩ := hh.readable last (List.mem_of_getLast? hl)
      obtain ⟨document, hd⟩ := Option.isSome_iff_exists.1 hsome
      rw [Option.bind_some, hd]
      exact readState_encodeState hc hb hd

/-- An answer that spends nothing keeps the invariant as long as the directory
stays and the holder is still accounted for. -/
private theorem Held.keep {h : List (Event × Answer)} {system system' : System} {e : Event}
    {a : Answer} (hh : Held h system) (ha : a.spends = none)
    (hdir : system'.directory.position = system.directory.position)
    (hholder : match system'.holder with
      | none => True
      | some (.locked anchor signed) => anchor.binds signed.envelope = true
      | some (.decided next) =>
          next.canonical = true ∧ next.Bounded ∧ Continues (spent h).getLast? next) :
    Held (h ++ [(e, a)]) system' := by
  have hspent : spent (h ++ [(e, a)]) = spent h := by
    rw [spent_append, ha]
    exact List.append_nil _
  exact
    { series := hspent ▸ hh.series
      readable := hspent ▸ hh.readable
      recorded := by rw [hspent, hdir, hh.recorded]
      holder := hspent ▸ hholder }

/-- What the decision accepts continues the series. -/
theorem continues_of_successor {current : Option State} {anchor : Anchor}
    {signed : SignedApproval} {next : State} (hbinds : anchor.binds signed.envelope = true)
    (hcurrent : ∀ state ∈ current, state.Bounded)
    (h : successor current anchor signed.envelope = some next) :
    next.canonical = true ∧ next.Bounded ∧ Continues current next := by
  obtain ⟨rfl, hcases⟩ := successor_cases h
  obtain ⟨hinfra, hmachine, -, -⟩ := Anchor.binds_iff.1 hbinds
  refine ⟨?_, ⟨signed.epoch_lt, signed.sequence_lt⟩, ?_⟩
  · exact State.canonical_iff.2 ⟨rfl, hinfra ▸ signed.infrastructure_canonical,
      hmachine ▸ signed.machine_canonical, signed.epoch_pos, signed.sequence_pos⟩
  · cases current with
    | none => exact hcases
    | some state =>
        obtain ⟨hid, hmach, hor⟩ := hcases
        refine ⟨hid, hmach, ?_⟩
        rcases hor with hnew | ⟨hsame, hseq⟩
        · exact Or.inl hnew
        · -- A wrapped counter would be the sequence zero, which no envelope carries.
          have hlt := (hcurrent state rfl).2
          have hpos := signed.sequence_pos
          refine Or.inr ⟨hsame, ?_⟩
          show signed.envelope.sequence = state.consumedSequence + 1
          omega

/-- The answer of a replacement spends the position exactly when the rename took
place. -/
private theorem writeAnswer_spends (stop : Option Stop) (directory : StateDirectory)
    (next : State) :
    (writeAnswer stop next (writeState stop directory next).2).spends =
      if (encodeState next).isSome && renamed stop then some next else none := by
  cases ho : (writeState stop directory next).2 with
  | written =>
      obtain ⟨rfl, document, hd⟩ := writeState_outcome ho
      rw [hd]
      rfl
  | failed =>
      show (Answer.interrupted _ next).spends = _
      cases (encodeState next).isSome && renamed stop <;> rfl
  | crashed =>
      show (Answer.interrupted _ next).spends = _
      cases (encodeState next).isSome && renamed stop <;> rfl

/-- The replacement, wherever it stops. -/
private theorem Held.write {h : List (Event × Answer)} {system : System} {next : State}
    {e : Event} (hh : Held h system)
    (hnext : next.canonical = true ∧ next.Bounded ∧ Continues (spent h).getLast? next)
    (stop : Option Stop) :
    Held (h ++ [(e, writeAnswer stop next (writeState stop system.directory next).2)])
      ⟨(writeState stop system.directory next).1, none⟩ := by
  obtain ⟨hc, hb, hcontinues⟩ := hnext
  have hspends := writeAnswer_spends stop system.directory next
  cases hd : encodeState next with
  | none =>
      rw [hd] at hspends
      refine hh.keep hspends ?_ trivial
      rw [writeState, hd]
  | some document =>
      have hposition := writeState_position stop system.directory hd
      rw [hd] at hspends
      cases hr : renamed stop with
      | false =>
          rw [hr] at hspends hposition
          exact hh.keep hspends hposition trivial
      | true =>
          rw [hr] at hspends hposition
          have hspent := spent_append h e
            (writeAnswer stop next (writeState stop system.directory next).2)
          rw [hspends] at hspent
          exact
            { series := hspent ▸ hh.series.snoc hcontinues
              readable := by
                rw [hspent]
                intro state hs
                rcases List.mem_append.1 hs with hs | hs
                · exact hh.readable state hs
                · obtain rfl : state = next := by simpa using hs
                  exact ⟨hc, hb, by rw [hd]; rfl⟩
              recorded := by
                rw [hspent]
                simp [hposition, hd]
              holder := trivial }

section Runs

variable (ed25519Verify : Bytes → Bytes → Bytes → Bool)

theorem held_step (h : List (Event × Answer)) (system : System) (e : Event)
    (hh : Held h system) :
    Held (h ++ [(e, answer (step ed25519Verify) system e)])
      (next (step ed25519Verify) system e) := by
  unfold answer next
  cases e with
  | present subject anchor signed nowUnixSeconds lockable =>
      simp only [step]
      split
      · exact hh.keep rfl rfl hh.holder
      split
      · exact hh.keep rfl rfl hh.holder
      · rename_i hbinds
        split
        · exact hh.keep rfl rfl hh.holder
        split
        · exact hh.keep rfl rfl hh.holder
        · exact hh.keep rfl rfl (by simpa using hbinds)
  | decide readable =>
      simp only [step]
      split
      · rename_i anchor signed hholder
        have hbinds := hh.holder
        rw [hholder] at hbinds
        split
        · exact hh.keep rfl rfl trivial
        · rename_i current hread
          have hcurrent : current = (spent h).getLast? := by
            cases readable with
            | true => exact Option.some.inj (hread.symm.trans hh.readState_eq)
            | false => cases hread
          split
          · exact hh.keep rfl rfl trivial
          · rename_i next hnext
            subst hcurrent
            exact hh.keep rfl rfl (continues_of_successor hbinds
              (fun state hs => (hh.readable state (List.mem_of_getLast? hs)).2.1) hnext)
      · exact hh.keep rfl rfl hh.holder
  | write stop =>
      simp only [step]
      split
      · rename_i next hholder
        have hnext := hh.holder
        rw [hholder] at hnext
        exact hh.write hnext stop
      · exact hh.keep rfl rfl hh.holder
  | die => exact hh.keep rfl rfl trivial

theorem held_history (es : List Event) :
    Held (history (step ed25519Verify) initial es) (run (step ed25519Verify) initial es) :=
  history_invariant (held_step ed25519Verify) held_initial es

/-- The recorded epoch is that of the last position spent. -/
theorem Held.recordedEpoch_eq {h : List (Event × Answer)} {system : System}
    (hh : Held h system) :
    recordedEpoch system.directory = ((spent h).getLast?.map State.approvalEpoch).getD 0 := by
  rw [recordedEpoch, hh.readState_eq]
  cases (spent h).getLast? <;> rfl

/-- Whatever is answered before a rename leaves the recorded position. -/
theorem step_position (system : System) (e : Event)
    (h : (answer (step ed25519Verify) system e).spends = none) :
    (next (step ed25519Verify) system e).directory.position = system.directory.position := by
  unfold answer at h
  unfold next
  cases e with
  | present subject anchor signed nowUnixSeconds lockable =>
      simp only [step]
      repeat' split
      all_goals rfl
  | decide readable =>
      simp only [step]
      repeat' split
      all_goals rfl
  | write stop =>
      simp only [step] at h ⊢
      split at h
      · rename_i next hholder
        rw [writeAnswer_spends] at h
        cases hd : encodeState next with
        | none =>
            show (writeState stop system.directory next).1.position = _
            rw [writeState, hd]
        | some document =>
            rw [hd] at h
            show (writeState stop system.directory next).1.position = _
            rw [writeState_position stop system.directory hd]
            cases hr : renamed stop with
            | true =>
                rw [hr] at h
                cases h
            | false => rfl
      · rfl
  | die => rfl

private theorem identity_ne_of_before {a b : State} (h : a.Before b) :
    a.identity ≠ b.identity := by
  intro heq
  simp only [State.identity, Prod.mk.injEq] at heq
  rcases h with h | ⟨-, h⟩
  · exact Nat.ne_of_lt h heq.2.2.1
  · exact Nat.ne_of_lt h heq.2.2.2

/-- Over every run: no approval is accepted twice; what is accepted is spent,
and what is spent is accepted or was interrupted after its rename; what is spent
under an epoch is `1, 2, 3, …` without a hole; the recorded epoch never
decreases; and every event that answers before a rename leaves the recorded
position as it was. -/
theorem approval_run (es fs : List Event) :
    ((accepted (history (step ed25519Verify) initial es)).map State.identity).Nodup ∧
    (accepted (history (step ed25519Verify) initial es)).Sublist
      (spent (history (step ed25519Verify) initial es)) ∧
    (∀ state ∈ spent (history (step ed25519Verify) initial es),
      state ∈ accepted (history (step ed25519Verify) initial es) ∨
        ∃ e, (e, .interrupted true state) ∈ history (step ed25519Verify) initial es) ∧
    (∀ epoch, ∃ k,
      underEpoch epoch (spent (history (step ed25519Verify) initial es)) = List.range' 1 k) ∧
    recordedEpoch (run (step ed25519Verify) initial es).directory ≤
      recordedEpoch (run (step ed25519Verify) initial (es ++ fs)).directory ∧
    ∀ e, (answer (step ed25519Verify) (run (step ed25519Verify) initial es) e).spends = none →
      (run (step ed25519Verify) initial (es ++ [e])).directory.position =
        (run (step ed25519Verify) initial es).directory.position := by
  have hes := held_history ed25519Verify es
  have hall := held_history ed25519Verify (es ++ fs)
  refine ⟨?_, accepted_sublist_spent _, fun _ => accepted_or_interrupted,
    hes.series.filter_epoch, ?_, ?_⟩
  · exact List.pairwise_map.2
      ((hes.series.pairwise.sublist (accepted_sublist_spent _)).imp identity_ne_of_before)
  · rw [hes.recordedEpoch_eq, hall.recordedEpoch_eq]
    refine hall.series.epoch_le_of_prefix ?_
    rw [history_append, spent, spent, List.filterMap_append]
    exact List.prefix_append _ _
  · intro e he
    rw [run_append]
    exact step_position ed25519Verify _ e he

end Runs

/-! ## A sequence can be spent and never accepted -/

/-- An approval of the given sequence for one fixed machine. -/
def sampleEnvelope (sequence : Nat) : Envelope where
  schemaVersion := 1
  infrastructureID := text "00000000-0000-4000-8000-000000000000"
  machineID := text "machine"
  approvalEpoch := 1
  sequence := sequence
  operation := .deployOCIProbe
  planSHA256 := List.replicate 64 0x30
  rollbackSHA256 := List.replicate 64 0x31
  privileges := requiredPrivileges .deployOCIProbe
  issuedAtUnix := 1
  expiresAtUnix := 2
  approvalPublicKey := List.replicate 43 0x41

def sampleFirst : SignedApproval where
  envelope := sampleEnvelope 1
  signature := List.replicate 86 0x41
  validated := by decide
  canonicalSignature := by decide

def sampleSecond : SignedApproval where
  envelope := sampleEnvelope 2
  signature := List.replicate 86 0x41
  validated := by decide
  canonicalSignature := by decide

def sampleAnchor : Anchor where
  schemaVersion := 1
  infrastructureID := text "00000000-0000-4000-8000-000000000000"
  machineID := text "machine"
  approvalEpoch := 1
  approvalPublicKey := List.replicate 43 0x41

/-- The first consumption fails to synchronise its directory, the second one
succeeds. -/
def interruptedRun : List Event :=
  [.present .consumption sampleAnchor sampleFirst 1 true, .decide true,
    .write (some ⟨.syncDirectory, false, none⟩),
    .present .consumption sampleAnchor sampleSecond 1 true, .decide true, .write none]

/-- The accepted sequences alone can have a hole: one that was spent by a
replacement that failed after its rename. -/
theorem accepted_hole :
    ¬ ∀ (es : List Event) (epoch : Nat), ∃ k,
      underEpoch epoch (accepted (history (step fun _ _ _ => false) initial es)) =
        List.range' 1 k := by
  intro h
  obtain ⟨k, hk⟩ := h interruptedRun 1
  have hrun : underEpoch 1
      (accepted (history (step fun _ _ _ => false) initial interruptedRun)) = [2] := by
    decide +kernel
  rw [hrun] at hk
  cases k with
  | zero => cases hk
  | succ k =>
      rw [List.range'_succ] at hk
      cases hk

end YourCloud.Approval
