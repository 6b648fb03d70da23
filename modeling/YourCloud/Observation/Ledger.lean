import YourCloud.Observation.Chain

/-!
# The account of every sequence

A Daemon between its collector and its Publisher.  The collector adds
observations at any time; the Publisher confirms only the observation the queue
offered last, and it may be late: the observation may have been discarded
meanwhile, and the Daemon may have been started again under other limits.

Every number the queue ever gave is in one place.  It was confirmed, it is
pending, or one range covers it: a range of the queue, of its oldest
observation, or of an observation that was confirmed.

A confirmation whose write stopped after the rename is in the file and not in
the memory, so the confirmed observations are those of a state: all whose
confirmation succeeded and none whose confirmation was never asked for.

## Main results

* `Accounted.once` — a sequence below the next one is in one place.
* `step_kept` — every operation keeps the account of every state.
* `accounted_everywhere` — so does a run from an empty directory.
-/

namespace YourCloud.Observation

open YourCloud.Foundation

/-! ## The account of one state -/

theorem Follows.count {first last : Nat} {pending : List Envelope}
    (h : Follows first pending last) (n : Nat) :
    (pending.map Envelope.sequence).count n = if first ≤ n ∧ n < last then 1 else 0 := by
  induction pending generalizing first with
  | nil =>
      have hlast : first = last := h
      rw [if_neg (by omega)]
      rfl
  | cons e rest ih =>
      obtain ⟨hfirst, hrest⟩ := h
      have hlength := hrest.length
      rw [List.map_cons, List.count_cons, ih hrest, hfirst]
      by_cases heq : first = n
      · rw [if_neg (fun h => by omega), if_pos (beq_iff_eq.2 heq), if_pos (by omega)]
      · rw [if_neg (fun h => heq (beq_iff_eq.1 h)), Nat.add_zero]
        congr 1
        rw [eq_iff_iff]
        omega

theorem Follows.chain {first last : Nat} {pending : List Envelope}
    (h : Follows first pending last) :
    (pending.map Envelope.sequence).IsChain (fun n m => m = n + 1) := by
  induction pending generalizing first with
  | nil => exact List.isChain_nil
  | cons e rest ih =>
      have hrest := ih h.2
      cases rest with
      | nil => exact List.isChain_singleton _
      | cons e' rest =>
          refine List.isChain_cons_cons.2 ⟨?_, hrest⟩
          rw [h.2.1, h.1]

theorem Follows.newest {first last : Nat} {pending : List Envelope}
    (h : Follows first pending last) : ∀ newest ∈ pending.getLast?, newest.sequence + 1 = last := by
  induction pending generalizing first with
  | nil => exact fun _ hnewest => nomatch hnewest
  | cons e rest ih =>
      cases rest with
      | nil =>
          intro newest hnewest
          obtain rfl : e = newest := Option.some.inj hnewest
          have hlast : first + 1 = last := h.2
          rw [h.1, hlast]
      | cons e' rest =>
          intro newest hnewest
          rw [List.getLast?_cons_cons] at hnewest
          exact ih h.2 newest hnewest

/-- Observations that left the queue in order, each with the range before it. -/
def Delivered (first : Nat) : List Envelope → Nat → Prop
  | [], next => first = next
  | e :: rest, next => Spans e.gaps first e.sequence ∧ Delivered (e.sequence + 1) rest next

theorem Delivered.le {first next : Nat} {delivered : List Envelope}
    (h : Delivered first delivered next) : first ≤ next := by
  induction delivered generalizing first with
  | nil => exact Nat.le_of_eq h
  | cons e rest ih =>
      have hspans := h.1.le
      have hrest := ih h.2
      omega

theorem Delivered.append {first next : Nat} {delivered : List Envelope} {e : Envelope}
    (h : Delivered first delivered next) (he : Spans e.gaps next e.sequence) :
    Delivered first (delivered ++ [e]) (e.sequence + 1) := by
  induction delivered generalizing first with
  | nil =>
      have hfirst : first = next := h
      exact ⟨hfirst ▸ he, rfl⟩
  | cons head rest ih => exact ⟨h.1, ih h.2⟩

theorem Delivered.count {first next : Nat} {delivered : List Envelope}
    (h : Delivered first delivered next) (n : Nat) :
    (delivered.map Envelope.sequence).count n +
        (delivered.flatMap Envelope.gaps).countP (fun gap => gap.covers n) =
      if first ≤ n ∧ n < next then 1 else 0 := by
  induction delivered generalizing first with
  | nil =>
      have hnext : first = next := h
      rw [if_neg (by omega)]
      rfl
  | cons e rest ih =>
      obtain ⟨hspans, hrest⟩ := h
      have hbefore := hspans.le
      have hafter := hrest.le
      have hcovered := hspans.countP n
      have hcounted := ih hrest
      rw [List.map_cons, List.count_cons, List.flatMap_cons, List.countP_append, hcovered]
      by_cases heq : e.sequence = n
      · rw [if_neg (by omega)] at hcounted
        rw [if_pos (beq_iff_eq.2 heq), if_neg (by omega), if_pos (by omega)]
        omega
      · rw [if_neg (fun h => heq (beq_iff_eq.1 h))]
        by_cases hin : first ≤ n ∧ n < e.sequence
        · rw [if_neg (by omega)] at hcounted
          rw [if_pos hin, if_pos (by omega)]
          omega
        · rw [if_neg hin, Nat.add_zero, Nat.zero_add, hcounted]
          congr 1
          rw [eq_iff_iff]
          omega

/-- In how many places a state has a sequence: among the confirmed
observations, among the pending ones, and in the ranges of either. -/
def places (delivered : List Envelope) (s : State) (n : Nat) : Nat :=
  (delivered.map Envelope.sequence).count n + s.sequences.count n +
    (delivered.flatMap Envelope.gaps ++ s.skipped).countP fun gap => gap.covers n

/-- The account of a state, beside the observations that were confirmed. -/
structure Accounted (machine : Bytes) (delivered : List Envelope) (s : State) : Prop where
  queued : Queued machine s
  /-- The ranges at hand go from the last confirmed observation to the oldest one. -/
  range : ∃ first, Delivered 1 delivered first ∧ Spans s.skipped first s.first
  counted : ∀ gap ∈ delivered.flatMap Envelope.gaps ++ s.skipped, gap.Counted

section Account

variable {machine : Bytes} {delivered : List Envelope} {s : State}

/-- Every sequence below the next one is in one place, and no other is in any. -/
theorem Accounted.once (h : Accounted machine delivered s) (n : Nat) :
    places delivered s n = if 1 ≤ n ∧ n < s.upTo then 1 else 0 := by
  obtain ⟨first, hdelivered, hspans⟩ := h.range
  have hbefore := hdelivered.count n
  have hskipped := hspans.countP n
  have hpending : s.sequences.count n = if s.first ≤ n ∧ n < s.upTo then 1 else 0 :=
    h.queued.follows.count n
  have hfirst := hdelivered.le
  have hrange := hspans.le
  have hlength := h.queued.follows.length
  rw [places, List.countP_append, hpending, hskipped]
  by_cases hone : n < first
  · rw [if_neg (by omega), if_neg (by omega)]
    rw [Nat.add_zero, Nat.add_zero, hbefore]
    congr 1
    rw [eq_iff_iff]
    omega
  · rw [if_neg (by omega)] at hbefore
    by_cases htwo : n < s.first
    · rw [if_neg (by omega), if_pos (by omega), if_pos (by omega)]
      omega
    · rw [if_neg (by omega : ¬ (first ≤ n ∧ n < s.first)), Nat.add_zero]
      have hsplit : (s.first ≤ n ∧ n < s.upTo) = (1 ≤ n ∧ n < s.upTo) := by
        rw [eq_iff_iff]
        omega
      simp only [hsplit]
      omega

/-! ## What a candidate keeps -/

/-- A candidate made of a state, with the same confirmed observations. -/
structure Continues (machine : Bytes) (delivered : List Envelope) (s c : State) : Prop where
  accounted : Accounted machine delivered c
  advances : Advances s c
  upTo : s.upTo ≤ c.upTo

theorem Continues.trans {t u : State} (hst : Continues machine delivered s t)
    (htu : Continues machine delivered t u) : Continues machine delivered s u where
  accounted := htu.accounted
  advances := hst.advances.trans htu.advances
  upTo := hst.upTo.trans htu.upTo

theorem SameQueue.continues {c : State} (h : SameQueue s c) (hs : Accounted machine delivered s)
    (hrepresentable : c.Representable) : Continues machine delivered s c where
  accounted :=
    { queued := h.queued hs.queued hrepresentable
      range := by
        rw [h.skipped, h.first]
        exact hs.range
      counted := by
        rw [h.skipped]
        exact hs.counted }
  advances := h.advances
  upTo := by rw [State.upTo, State.upTo, h.nextSequence]

theorem appended_continues {now : Instant} {health : HostHealth}
    {external : List ExternalReading} {envelope : Envelope}
    (hs : Accounted machine delivered s)
    (h : newEnvelope machine s.nextSequence now health external = .ok envelope) :
    Continues machine delivered s (appended s envelope) where
  accounted :=
    { queued := appended_queued hs.queued h
      range := by
        rw [appended_skipped h, appended_first hs.queued h]
        exact hs.range
      counted := by
        rw [appended_skipped h]
        exact hs.counted }
  advances := appended_advances hs.queued h
  upTo := by
    obtain ⟨hupTo, hupTo'⟩ := appended_upTo h hs.queued.representable.nextSequence
    omega

theorem attached_continues {oldest : Envelope} {rest : List Envelope}
    (hs : Accounted machine delivered s) (hpending : s.pending.items = oldest :: rest)
    (hgaps : s.gaps.items ≠ []) : Continues machine delivered s (attached s oldest rest) where
  accounted :=
    { queued := attached_queued hs.queued hpending
      range := by
        rw [attached_skipped hs.queued hpending hgaps, attached_first hpending]
        exact hs.range
      counted := by
        rw [attached_skipped hs.queued hpending hgaps]
        exact hs.counted }
  advances := attached_advances hpending hgaps
  upTo := le_refl _

theorem dropOldest_continues {oldest : Envelope} {rest : List Envelope}
    (hs : Accounted machine delivered s) (hpending : s.pending.items = oldest :: rest) :
    Continues machine delivered s (dropOldest s oldest rest) := by
  obtain ⟨first, hdelivered, hspans⟩ := hs.range
  have hpositive := hdelivered.le
  have hnext := addGap_counted oldest.observedAt hspans hpositive (hs.queued.first_lt hpending)
  constructor
  · constructor
    · exact dropOldest_queued hs.queued hpending hspans
    · refine ⟨first, hdelivered, ?_⟩
      rw [dropOldest_first hs.queued hpending]
      exact (dropOldest_spans hs.queued hpending hspans).1
    · intro gap hgap
      rcases List.mem_append.1 hgap with hgap | hgap
      · exact hs.counted gap (List.mem_append_left _ hgap)
      · rw [dropOldest_skipped hs.queued hpending hspans] at hgap
        exact hnext gap hgap
  · exact dropOldest_leaves.advances hs.queued hpending
  · exact le_refl _

theorem enforce_continues {limits : Limits} {now : Instant} {c : State}
    (hs : Accounted machine delivered s) (h : enforce limits now s = .ok c) :
    Continues machine delivered s c := by
  have hstart : Continues machine delivered s s := ⟨hs, Advances.refl s, le_refl _⟩
  have hdrop : ∀ t oldest rest, Continues machine delivered s t →
      t.pending.items = oldest :: rest → Continues machine delivered s (dropOldest t oldest rest) :=
    fun t oldest rest ht hpending =>
      ht.trans (dropOldest_continues ht.accounted hpending)
  exact enforceFrom_keeps hdrop hstart rfl h

/-- The oldest observation is confirmed, with the range it carries. -/
theorem acknowledged_accounted {oldest : Envelope} {rest : List Envelope}
    (hs : Accounted machine delivered s) (hpending : s.pending.items = oldest :: rest)
    (hgaps : s.gaps.items = []) (deliveredAt : Instant) :
    Accounted machine (delivered ++ [oldest]) (acknowledged deliveredAt s rest) := by
  obtain ⟨first, hdelivered, hspans⟩ := hs.range
  have hleaves : Leaves s (acknowledged deliveredAt s rest) rest := acknowledged_leaves deliveredAt
  have hcarried : s.skipped = oldest.gaps := by
    rw [State.skipped, hpending, hgaps, List.append_nil]
    rfl
  have hnone : (acknowledged deliveredAt s rest).skipped = [] := by
    rw [hleaves.skipped hs.queued hpending]
    exact (Slice.items_fresh _).trans hgaps
  have hsequence := (hs.queued.head hpending).1
  constructor
  · exact hleaves.queued hs.queued hpending
      (acknowledged_representable hs.queued.representable deliveredAt hpending)
  · refine ⟨oldest.sequence + 1, hdelivered.append ?_, .inl ⟨?_, hnone⟩⟩
    · rw [← hcarried, hsequence]
      exact hspans
    · rw [hleaves.first hs.queued hpending, hsequence]
  · intro gap hgap
    apply hs.counted gap
    rw [hnone, List.append_nil, List.flatMap_append, List.flatMap_singleton, ← hcarried] at hgap
    exact hgap

end Account

/-! ## The states of a Daemon -/

/-- A Daemon whose states are good, its file where its memory is or one
publication ahead. -/
structure Daemon.Kept (good : State → Prop) (d : Daemon) : Prop where
  states : ∀ s ∈ d.states, good s
  limits : ∀ b ∈ d.buffer, validateLimits b.limits = none
  behind : ∀ b ∈ d.buffer, ∃ s, d.loaded = some s ∧ Advances b.state s

section Kept

variable {good : State → Prop} {d : Daemon} {limits : Limits} {write : Write} {c : State}

theorem Daemon.Kept.stopped (h : d.Kept good) : Daemon.Kept good { d with buffer := none } where
  states s hs := by
    apply h.states
    rw [Daemon.mem_states] at hs ⊢
    rcases hs with ⟨b, hb, -⟩ | hs
    · cases hb
    · exact .inr hs
  limits := fun b hb => nomatch hb
  behind := fun b hb => nomatch hb

theorem Daemon.Kept.buffer {b : Buffer} (h : d.Kept good) (hb : d.buffer = some b) :
    good b.state :=
  h.states _ (Daemon.mem_states.2 (.inl ⟨b, hb, rfl⟩))

theorem Daemon.Kept.imp {better : State → Prop} (h : d.Kept good)
    (himp : ∀ s ∈ d.states, good s → better s) : d.Kept better where
  states := fun s hs => himp s hs (h.states s hs)
  limits := h.limits
  behind := h.behind

/-- A Daemon whose file is a good candidate. -/
theorem Daemon.Kept.published {buffer : Option Buffer} (hc : good c)
    (hloaded : Daemon.loaded { buffer, file := some c.encode } = some c)
    (hbuffer : ∀ b ∈ buffer, good b.state ∧ validateLimits b.limits = none ∧ Advances b.state c) :
    Daemon.Kept good { buffer, file := some c.encode } where
  states s hs := by
    rw [Daemon.mem_states, hloaded] at hs
    rcases hs with ⟨b, hb, rfl⟩ | hs
    · exact (hbuffer b hb).1
    · rw [← Option.some.inj hs]
      exact hc
  limits := fun b hb => (hbuffer b hb).2.1
  behind := fun b hb => ⟨c, hloaded, (hbuffer b hb).2.2⟩

theorem commit_kept (h : d.Kept good) (write : Write) (hlimits : validateLimits limits = none)
    (hrepresentable : c.Representable) (hc : good c)
    (hadvances : ∀ b ∈ d.buffer, Advances b.state c) :
    (commit limits write c d).2.Kept good := by
  unfold commit
  split
  · exact h
  · rename_i hlength
    have hbytes := hardMax_of_limits hlimits
    have hloaded : ∀ buffer, Daemon.loaded { buffer, file := some c.encode } = some c :=
      fun buffer => loaded_encode buffer hrepresentable (by omega)
    have hold : ∀ b ∈ d.buffer,
        good b.state ∧ validateLimits b.limits = none ∧ Advances b.state c :=
      fun b hb => ⟨h.buffer hb, h.limits b hb, hadvances b hb⟩
    have hnew : ∀ b ∈ some { limits, state := c : Buffer },
        good b.state ∧ validateLimits b.limits = none ∧ Advances b.state c := by
      intro b hb
      rw [← Option.some.inj hb]
      exact ⟨hc, hlimits, Advances.refl c⟩
    cases write with
    | done => exact .published hc (hloaded _) hnew
    | fails renamed =>
        cases renamed with
        | true => exact .published hc (hloaded _) hold
        | false => exact h
    | dies renamed =>
        cases renamed with
        | true => exact .published hc (hloaded _) fun b hb => nomatch hb
        | false => exact h.stopped

/-- After a publication that succeeded there is one state. -/
theorem commit_ok (hlimits : validateLimits limits = none) (hrepresentable : c.Representable)
    (h : (commit limits write c d).1 = .ok ()) :
    ∀ s ∈ (commit limits write c d).2.states, s = c := by
  unfold commit at h ⊢
  split at h
  · cases h
  · rename_i hlength
    have hbytes := hardMax_of_limits hlimits
    rw [if_neg hlength]
    cases write with
    | done =>
        intro s hs
        rw [Daemon.mem_states, loaded_encode _ hrepresentable (by omega)] at hs
        rcases hs with ⟨b, hb, rfl⟩ | hs
        · rw [← Option.some.inj hb]
        · exact (Option.some.inj hs).symm
    | fails renamed => cases h
    | dies renamed => cases h

theorem commit_buffer (h : (commit limits write c d).1 = .ok ()) :
    ∃ b, (commit limits write c d).2.buffer = some b ∧ b.state = c := by
  unfold commit at h ⊢
  split at h
  · cases h
  · rename_i hlength
    rw [if_neg hlength]
    cases write with
    | done => exact ⟨_, rfl, rfl⟩
    | fails renamed => cases h
    | dies renamed => cases h

end Kept

/-! ## What an operation publishes -/

theorem openAt_cases (limits : Limits) (now : Instant) (write : Write) (d : Daemon) :
    (openAt limits now write d).2 = { d with buffer := none } ∨
      ∃ c, validateLimits limits = none ∧
        (openAt limits now write d).2 = (commit limits write c { d with buffer := none }).2 ∧
        (d.file = none ∧ c = initialState ∨
          ∃ loaded, d.loaded = some loaded ∧ enforce limits now (cloneState loaded) = .ok c) := by
  unfold openAt
  dsimp only
  split
  · exact .inl rfl
  · rename_i hlimits
    split
    · rename_i hfile
      exact .inr ⟨_, hlimits, rfl, .inl ⟨hfile, rfl⟩⟩
    · rename_i file hfile
      split
      · exact .inl rfl
      · rename_i loaded hread
        split
        · exact .inl rfl
        · split
          · exact .inl rfl
          · rename_i c henforce
            refine .inr ⟨c, hlimits, rfl, .inr ⟨loaded, ?_, henforce⟩⟩
            rw [Daemon.loaded, hfile]
            show (readState file).toOption = _
            rw [hread]
            rfl

theorem enqueue_cases (machine : Bytes) (health : HostHealth) (external : List ExternalReading)
    (now : Instant) (write : Write) (d : Daemon) :
    (∃ reason, enqueue machine health external now write d = (.error reason, d)) ∨
      ∃ b envelope c, d.buffer = some b ∧
        newEnvelope machine b.state.nextSequence now health external = .ok envelope ∧
        enforce b.limits now (appended b.state envelope) = .ok c ∧
        enqueue machine health external now write d =
          ((commit b.limits write c d).1.map fun _ => envelope, (commit b.limits write c d).2) := by
  unfold enqueue
  split
  · exact .inl ⟨_, rfl⟩
  · rename_i b hb
    split
    · exact .inl ⟨_, rfl⟩
    · rename_i envelope hnew
      split
      · exact .inl ⟨_, rfl⟩
      · rename_i c henforce
        refine .inr ⟨b, envelope, c, hb, hnew, henforce, ?_⟩
        split
        · rename_i heq
          rw [heq]
          rfl
        · rename_i heq
          rw [heq]
          rfl

theorem peek_cases (write : Write) (d : Daemon) :
    (∃ reason, peek write d = (.error reason, d)) ∨
      (∃ b, d.buffer = some b ∧ b.state.gaps.items = [] ∧
        peek write d = (encodeOldest b.state, d)) ∨
      ∃ b oldest rest, d.buffer = some b ∧ b.state.pending.items = oldest :: rest ∧
        b.state.gaps.items ≠ [] ∧
        peek write d =
          ((commit b.limits write (attached b.state oldest rest) d).1.bind fun _ =>
              encodeOldest (attached b.state oldest rest),
            (commit b.limits write (attached b.state oldest rest) d).2) := by
  unfold peek
  split
  · exact .inl ⟨_, rfl⟩
  · rename_i b hb
    split
    · exact .inl ⟨_, rfl⟩
    · rename_i oldest rest hpending
      split
      · rename_i hempty
        exact .inr (.inl ⟨b, hb, List.isEmpty_iff.1 hempty, rfl⟩)
      · rename_i hgaps
        refine .inr (.inr ⟨b, oldest, rest, hb, hpending,
          fun hnil => hgaps (List.isEmpty_iff.2 hnil), ?_⟩)
        split
        · rename_i heq
          rw [heq]
          rfl
        · rename_i heq
          rw [heq]
          rfl

theorem encodeOldest_ok {s : State} {encoded : Bytes} {n : Nat}
    (h : encodeOldest s = .ok (encoded, n)) :
    ∃ oldest rest, s.pending.items = oldest :: rest ∧ oldest.encode = .ok encoded ∧
      oldest.sequence = n := by
  unfold encodeOldest at h
  split at h
  · cases h
  · rename_i oldest rest hpending
    split at h
    · cases h
    · rename_i hencode
      obtain ⟨rfl, rfl⟩ := Prod.mk.inj (Except.ok.inj h)
      exact ⟨oldest, rest, hpending, hencode, rfl⟩

theorem acknowledge_cases (sequence : Nat) (deliveredAt : Instant) (write : Write) (d : Daemon) :
    (∃ reason, acknowledge sequence deliveredAt write d = (.error reason, d)) ∨
      ∃ b oldest rest, d.buffer = some b ∧ b.state.pending.items = oldest :: rest ∧
        oldest.sequence = sequence ∧
        acknowledge sequence deliveredAt write d =
          commit b.limits write (acknowledged deliveredAt b.state rest) d := by
  unfold acknowledge
  split
  · exact .inl ⟨_, rfl⟩
  · rename_i b hb
    split
    · exact .inl ⟨_, rfl⟩
    · rename_i oldest rest hpending
      split
      · exact .inl ⟨_, rfl⟩
      · rename_i heq
        exact .inr ⟨b, oldest, rest, hb, hpending, not_not.1 heq, rfl⟩

theorem setDeliveryState_cases (value : Bytes) (changedAt : Instant) (write : Write)
    (d : Daemon) :
    (setDeliveryState value changedAt write d).2 = d ∨
      ∃ b, d.buffer = some b ∧ (value = deliveryAvailable ∨ value = deliveryUnavailable) ∧
        b.state.deliveryState ≠ value ∧
        (setDeliveryState value changedAt write d).2 =
          (commit b.limits write (transitioned value changedAt b.state) d).2 := by
  unfold setDeliveryState
  split
  · exact .inl rfl
  · rename_i hvalue
    split
    · exact .inl rfl
    · rename_i b hb
      split
      · exact .inl rfl
      · rename_i hchanged
        refine .inr ⟨b, hb, ?_, hchanged, rfl⟩
        by_cases hdown : value = deliveryUnavailable
        · exact .inr hdown
        · left
          by_contra hup
          exact hvalue ⟨hup, hdown⟩

theorem deliveryState_valid {value : Bytes}
    (h : value = deliveryAvailable ∨ value = deliveryUnavailable) : Valid value := by
  rcases h with rfl | rfl
  · decide
  · decide

/-! ## Runs -/

/-- What was done with the sequences of a Daemon. -/
structure Deeds where
  /-- The bytes and the sequence that `peek` returned last. -/
  peeked : Option (Bytes × Nat)
  /-- The sequences of the observations that `enqueue` returned. -/
  assigned : List Nat
  /-- The observations whose confirmation was asked for, -/
  asked : List Bytes
  /-- and those whose confirmation succeeded. -/
  confirmed : List Bytes

/-- A Daemon with its Publisher. -/
structure Ledger where
  daemon : Daemon
  deeds : Deeds

namespace Ledger

inductive Event where
  | start (limits : Limits) (now : Instant) (write : Write)
  | stop
  | enqueue (health : HostHealth) (external : List ExternalReading) (now : Instant)
      (write : Write)
  | peek (write : Write)
  /-- The Publisher confirms the observation that `peek` returned last. -/
  | acknowledge (deliveredAt : Instant) (write : Write)
  | setDeliveryState (value : Bytes) (changedAt : Instant) (write : Write)

/-- Before the first start there is no file. -/
def empty : Ledger :=
  { daemon := { buffer := none, file := none }
    deeds := { peeked := none, assigned := [], asked := [], confirmed := [] } }

/-- What the result of `enqueue` adds. -/
def enqueued (deeds : Deeds) : Except String Envelope → Deeds
  | .ok envelope => { deeds with assigned := envelope.sequence :: deeds.assigned }
  | .error _ => deeds

/-- What the result of `peek` adds. -/
def offered (deeds : Deeds) : Except String (Bytes × Nat) → Deeds
  | .ok offer => { deeds with peeked := some offer }
  | .error _ => deeds

/-- What the result of a confirmation adds. -/
def settled (deeds : Deeds) (encoded : Bytes) : Except String Unit → Deeds
  | .ok () => { deeds with asked := encoded :: deeds.asked,
                           confirmed := encoded :: deeds.confirmed }
  | .error _ => { deeds with asked := encoded :: deeds.asked }

section Machine

variable (machine : Bytes)

/-- One step of the Daemon of a machine. -/
def step (w : Ledger) (event : Event) : Ledger × Unit :=
  match event with
  | .start limits now write => ({ w with daemon := (openAt limits now write w.daemon).2 }, ())
  | .stop => ({ w with daemon := { w.daemon with buffer := none } }, ())
  | .enqueue health external now write =>
      let (result, daemon) := Observation.enqueue machine health external now write w.daemon
      ({ daemon, deeds := enqueued w.deeds result }, ())
  | .peek write =>
      let (result, daemon) := Observation.peek write w.daemon
      ({ daemon, deeds := offered w.deeds result }, ())
  | .acknowledge deliveredAt write =>
      match w.deeds.peeked with
      | none => (w, ())
      | some (encoded, sequence) =>
          let (result, daemon) := Observation.acknowledge sequence deliveredAt write w.daemon
          ({ daemon, deeds := settled w.deeds encoded result }, ())
  | .setDeliveryState value changedAt write =>
      ({ w with daemon := (Observation.setDeliveryState value changedAt write w.daemon).2 }, ())

/-- The observations a state counts as confirmed: all whose confirmation
succeeded, none whose confirmation was never asked for. -/
structure Confirms (confirmed asked : List Bytes) (delivered : List Envelope) : Prop where
  confirmed : ∀ encoded ∈ confirmed, ∃ e ∈ delivered, e.encode = .ok encoded
  asked : ∀ e ∈ delivered, ∃ encoded ∈ asked, e.encode = .ok encoded

/-- What was offered last is still the oldest observation of a state, or left
behind. -/
def Offers (deeds : Deeds) (s : State) : Prop :=
  ∀ encoded n, deeds.peeked = some (encoded, n) → ∃ e : Envelope, e.Representable ∧
    e.encode = .ok encoded ∧ e.sequence = n ∧ (Holds s encoded ∨ e.sequence < s.first)

/-- What the deeds say of a state of the Daemon. -/
structure Books (deeds : Deeds) (s : State) : Prop where
  account : ∃ delivered, Accounted machine delivered s ∧
    Confirms deeds.confirmed deeds.asked delivered
  assigned : ∀ n ∈ deeds.assigned, 1 ≤ n ∧ n < s.upTo
  peeked : Offers deeds s

/-- The ledger, between two steps. -/
structure Invariant (w : Ledger) : Prop where
  kept : w.daemon.Kept (Books machine w.deeds)
  unborn : w.daemon.file = none →
    w.deeds.peeked = none ∧ w.deeds.assigned = [] ∧ w.deeds.confirmed = []

section Steps

variable {machine} {w : Ledger} {deeds : Deeds} {s c : State}

theorem Books.queued (h : Books machine deeds s) : Queued machine s := by
  obtain ⟨delivered, haccount, -⟩ := h.account
  exact haccount.queued

theorem Offers.advances (h : Offers deeds s) (hs : Queued machine s)
    (hadvances : Advances s c) : Offers deeds c := by
  intro encoded n hpeeked
  obtain ⟨e, he, hencode, hsequence, hheld⟩ := h encoded n hpeeked
  exact ⟨e, he, hencode, hsequence, hadvances.holds hs he hencode hheld⟩

/-- A candidate made of a state is in its books. -/
theorem Books.continues (h : Books machine deeds s)
    (hc : ∀ delivered, Accounted machine delivered s → Continues machine delivered s c) :
    Books machine deeds c ∧ Advances s c := by
  obtain ⟨delivered, haccount, hconfirms⟩ := h.account
  obtain ⟨haccount', hadvances, hupTo⟩ := hc delivered haccount
  refine ⟨⟨⟨delivered, haccount', hconfirms⟩, fun n hn => ?_,
    h.peeked.advances h.queued hadvances⟩, hadvances⟩
  obtain ⟨hpositive, hlt⟩ := h.assigned n hn
  exact ⟨hpositive, by omega⟩

/-- A candidate made of the state a Daemon works with is published, or not, or
only in the file. -/
theorem commit_books {d : Daemon} (hd : d.Kept (Books machine deeds)) {b : Buffer}
    (hb : d.buffer = some b) (hc : Books machine deeds c) (hadvances : Advances b.state c)
    (write : Write) : (commit b.limits write c d).2.Kept (Books machine deeds) := by
  apply commit_kept hd write (hd.limits b hb) hc.queued.representable hc
  intro b' hb'
  rw [← Option.some.inj (hb.symm.trans hb')]
  exact hadvances

theorem commit_file {limits : Limits} {write : Write} {d : Daemon}
    (h : (commit limits write c d).2.file = none) : d.file = none := by
  unfold commit at h
  split at h
  · exact h
  · cases write with
    | done => cases h
    | fails renamed =>
        cases renamed with
        | true => cases h
        | false => exact h
    | dies renamed =>
        cases renamed with
        | true => cases h
        | false => exact h

theorem Invariant.file_ne (hw : w.Invariant machine) {b : Buffer}
    (hb : w.daemon.buffer = some b) : w.daemon.file ≠ none := by
  intro hfile
  obtain ⟨s, hloaded, -⟩ := hw.kept.behind b hb
  rw [Daemon.loaded, hfile] at hloaded
  cases hloaded

/-- A step that published, or tried to, on behalf of a running Daemon. -/
theorem Invariant.committed (hw : w.Invariant machine) {b : Buffer} {write : Write}
    (hb : w.daemon.buffer = some b)
    (hkept : (commit b.limits write c w.daemon).2.Kept (Books machine deeds)) :
    Invariant machine { daemon := (commit b.limits write c w.daemon).2, deeds } :=
  ⟨hkept, fun hfile => absurd (commit_file hfile) (hw.file_ne hb)⟩

theorem initialState_books
    (hunborn : deeds.peeked = none ∧ deeds.assigned = [] ∧ deeds.confirmed = []) :
    Books machine deeds initialState := by
  obtain ⟨hpeeked, hassigned, hconfirmed⟩ := hunborn
  refine ⟨⟨[], ⟨initialState_queued, ⟨1, rfl, .inl ⟨rfl, rfl⟩⟩, ?_⟩, ?_, ?_⟩, ?_, ?_⟩
  · exact fun gap hgap => absurd hgap List.not_mem_nil
  · rw [hconfirmed]
    exact fun encoded hencoded => absurd hencoded List.not_mem_nil
  · exact fun e he => absurd he List.not_mem_nil
  · rw [hassigned]
    exact fun n hn => absurd hn List.not_mem_nil
  · intro encoded n h
    rw [hpeeked] at h
    cases h

theorem start_kept (hw : w.Invariant machine) (limits : Limits) (now : Instant) (write : Write) :
    Invariant machine { w with daemon := (openAt limits now write w.daemon).2 } := by
  rcases openAt_cases limits now write w.daemon with hstopped | ⟨c, hlimits, hopened, hc⟩
  · rw [hstopped]
    exact ⟨hw.kept.stopped, hw.unborn⟩
  · have hbooks : Books machine w.deeds c := by
      rcases hc with ⟨hfile, rfl⟩ | ⟨loaded, hloaded, henforce⟩
      · exact initialState_books (hw.unborn hfile)
      · have hbooks := hw.kept.states loaded (Daemon.mem_states.2 (.inr hloaded))
        have hsame := cloneState_same loaded
        refine (hbooks.continues fun delivered haccount => ?_).1
        have hclone := hsame.continues haccount
          (cloneState_representable haccount.queued.representable)
        exact hclone.trans (enforce_continues hclone.accounted henforce)
    rw [hopened]
    constructor
    · exact commit_kept hw.kept.stopped write hlimits hbooks.queued.representable hbooks
        fun b hb => nomatch hb
    · intro hfile
      have hnone : ({ w.daemon with buffer := none } : Daemon).file = none := commit_file hfile
      exact hw.unborn hnone

theorem enqueue_kept (hw : w.Invariant machine) (health : HostHealth)
    (external : List ExternalReading) (now : Instant) (write : Write) :
    Invariant machine (next (step machine) w (.enqueue health external now write)) := by
  unfold next step
  dsimp only
  rcases enqueue_cases machine health external now write w.daemon with
    ⟨reason, hrefused⟩ | ⟨b, envelope, c, hb, hnew, henforce, hcommitted⟩
  · rw [hrefused]
    exact hw
  · rw [hcommitted]
    have hbuffer := hw.kept.buffer hb
    obtain ⟨hbooks, hadvances⟩ := hbuffer.continues fun delivered haccount =>
      (appended_continues haccount hnew).trans
        (enforce_continues (appended_continues haccount hnew).accounted henforce)
    have hkept := commit_books hw.kept hb hbooks hadvances write
    apply hw.committed hb
    cases hresult : (commit b.limits write c w.daemon).1 with
    | error reason => exact hkept
    | ok _ =>
        apply hkept.imp
        intro s hs hgood
        obtain rfl :=
          commit_ok (hw.kept.limits b hb) hbooks.queued.representable hresult s hs
        refine { hgood with assigned := fun n hn => ?_ }
        rcases List.mem_cons.1 hn with rfl | hn
        · obtain ⟨delivered, haccount, -⟩ := hbuffer.account
          have happended := appended_continues haccount hnew
          have hupTo := (enforce_continues happended.accounted henforce).upTo
          have hnext := (appended_upTo hnew haccount.queued.representable.nextSequence).2
          obtain ⟨hfields, hvalid⟩ := newEnvelope_ok hnew
          have hsequence : envelope.sequence = b.state.nextSequence := by rw [hfields]
          have hpositive := sequence_of_validate hvalid
          show 1 ≤ envelope.sequence ∧ envelope.sequence < s.upTo
          omega
        · exact hgood.assigned n hn

/-- What `peek` returned is the oldest observation of every state, or left
behind by it. -/
theorem Books.offered (h : Books machine deeds s) {b : Buffer} {d : Daemon}
    {encoded : Bytes} {n : Nat} (hd : d.Kept (Books machine deeds)) (hb : d.buffer = some b)
    (hgaps : b.state.gaps.items = []) (hoffer : encodeOldest b.state = .ok (encoded, n))
    (hs : s ∈ d.states) : Books machine { deeds with peeked := some (encoded, n) } s := by
  obtain ⟨oldest, rest, hpending, hencode, rfl⟩ := encodeOldest_ok hoffer
  have hqueued := (hd.buffer hb).queued
  have hrepresentable := hqueued.representable.pending oldest (hpending ▸ List.mem_cons_self)
  have hholds : Holds b.state encoded := ⟨hgaps, oldest, rest, hpending, hencode⟩
  refine { h with peeked := fun encoded' n' hpeeked => ?_ }
  obtain ⟨rfl, rfl⟩ := Prod.mk.inj (Option.some.inj hpeeked)
  refine ⟨oldest, hrepresentable, hencode, rfl, ?_⟩
  rcases Daemon.mem_states.1 hs with ⟨b', hb', rfl⟩ | hs
  · obtain rfl := Option.some.inj (hb.symm.trans hb')
    exact .inl hholds
  · obtain ⟨loaded, hloaded, hadvances⟩ := hd.behind b hb
    obtain rfl := Option.some.inj (hloaded.symm.trans hs)
    exact hadvances.holds hqueued hrepresentable hencode (.inl hholds)

theorem peek_kept (hw : w.Invariant machine) (write : Write) :
    Invariant machine (next (step machine) w (.peek write)) := by
  unfold next step
  dsimp only
  rcases peek_cases write w.daemon with
    ⟨reason, hrefused⟩ | ⟨b, hb, hgaps, hoffered⟩ | ⟨b, oldest, rest, hb, hpending, hgaps, hcommitted⟩
  · rw [hrefused]
    exact hw
  · rw [hoffered]
    cases hresult : encodeOldest b.state with
    | error reason => exact hw
    | ok offer =>
        refine ⟨hw.kept.imp fun s hs hgood => ?_, fun hfile => absurd hfile (hw.file_ne hb)⟩
        exact hgood.offered hw.kept hb hgaps hresult hs
  · rw [hcommitted]
    obtain ⟨hbooks, hadvances⟩ := (hw.kept.buffer hb).continues fun delivered haccount =>
      attached_continues haccount hpending hgaps
    have hkept := commit_books hw.kept hb hbooks hadvances write
    apply hw.committed hb
    cases hresult : (commit b.limits write (attached b.state oldest rest) w.daemon).1 with
    | error reason => exact hkept
    | ok _ =>
        show Daemon.Kept (Books machine (offered w.deeds
          (encodeOldest (attached b.state oldest rest)))) _
        cases hoffer : encodeOldest (attached b.state oldest rest) with
        | error reason => exact hkept
        | ok offer =>
            obtain ⟨b', hb', hstate⟩ := commit_buffer hresult
            apply hkept.imp
            intro s hs hgood
            rw [← hstate] at hoffer
            exact hgood.offered hkept hb' (hstate ▸ rfl) hoffer hs

/-- A confirmation that was asked for, whatever became of it. -/
theorem Books.ask (h : Books machine deeds s) (encoded : Bytes) :
    Books machine { deeds with asked := encoded :: deeds.asked } s := by
  obtain ⟨delivered, haccount, hconfirms⟩ := h.account
  refine { h with account := ⟨delivered, haccount, hconfirms.confirmed, fun e he => ?_⟩ }
  obtain ⟨other, hother, hencode⟩ := hconfirms.asked e he
  exact ⟨other, List.mem_cons_of_mem _ hother, hencode⟩

/-- The candidate without the confirmed observation. -/
theorem acknowledged_books {oldest : Envelope} {rest : List Envelope} {encoded : Bytes} {n : Nat}
    (h : Books machine deeds s) (hpeeked : deeds.peeked = some (encoded, n))
    (hpending : s.pending.items = oldest :: rest) (hoffered : oldest.sequence = n)
    (deliveredAt : Instant) :
    Books machine { deeds with asked := encoded :: deeds.asked,
                               confirmed := encoded :: deeds.confirmed }
      (acknowledged deliveredAt s rest) := by
  have hleaves : Leaves s (acknowledged deliveredAt s rest) rest := acknowledged_leaves deliveredAt
  have hadvances := hleaves.advances h.queued hpending
  have hfirst := (h.queued.head hpending).1
  obtain ⟨delivered, haccount, hconfirms⟩ := h.account
  -- The oldest observation is the offered one: it has its sequence.
  obtain ⟨e, he, hencode, hsequence, hheld⟩ := h.peeked encoded n hpeeked
  obtain ⟨hgaps, oldest', rest', hpending', hencode'⟩ := hheld.resolve_right (by omega)
  obtain ⟨rfl, rfl⟩ := List.cons.inj (hpending.symm.trans hpending')
  refine ⟨⟨_, acknowledged_accounted haccount hpending hgaps deliveredAt, ?_, ?_⟩, h.assigned,
    h.peeked.advances h.queued hadvances⟩
  · intro other hother
    rcases List.mem_cons.1 hother with rfl | hother
    · exact ⟨oldest, List.mem_append_right _ List.mem_cons_self, hencode'⟩
    · obtain ⟨e, he, hencode⟩ := hconfirms.confirmed other hother
      exact ⟨e, List.mem_append_left _ he, hencode⟩
  · intro other hother
    rcases List.mem_append.1 hother with hother | hother
    · obtain ⟨encoded', hencoded', hencode⟩ := hconfirms.asked other hother
      exact ⟨encoded', List.mem_cons_of_mem _ hencoded', hencode⟩
    · rw [List.mem_singleton] at hother
      subst hother
      exact ⟨encoded, List.mem_cons_self, hencode'⟩

/-- What counts as confirmed in a state may be fewer than what was confirmed
since. -/
theorem Books.forget {encoded : Bytes} (h : Books machine { deeds with
    asked := encoded :: deeds.asked, confirmed := encoded :: deeds.confirmed } s) :
    Books machine { deeds with asked := encoded :: deeds.asked } s := by
  obtain ⟨delivered, haccount, hconfirms⟩ := h.account
  exact ⟨⟨delivered, haccount, fun other hother =>
    hconfirms.confirmed other (List.mem_cons_of_mem _ hother), hconfirms.asked⟩, h.assigned,
    h.peeked⟩

theorem acknowledge_kept (hw : w.Invariant machine) (deliveredAt : Instant) (write : Write) :
    Invariant machine (next (step machine) w (.acknowledge deliveredAt write)) := by
  unfold next step
  dsimp only
  cases hpeeked : w.deeds.peeked with
  | none => exact hw
  | some offer =>
      obtain ⟨encoded, n⟩ := offer
      dsimp only
      have hask := hw.kept.imp fun s _ hgood => hgood.ask encoded
      rcases acknowledge_cases n deliveredAt write w.daemon with
        ⟨reason, hrefused⟩ | ⟨b, oldest, rest, hb, hpending, hoffered, hcommitted⟩
      · rw [hrefused]
        exact ⟨hask, hw.unborn⟩
      · rw [hcommitted]
        have hbuffer := hw.kept.buffer hb
        have hbooks := acknowledged_books hbuffer hpeeked hpending hoffered deliveredAt
        have hleaves : Leaves b.state (acknowledged deliveredAt b.state rest) rest :=
          acknowledged_leaves deliveredAt
        have hkept := commit_books hask hb hbooks.forget
          (hleaves.advances hbuffer.queued hpending) write
        apply hw.committed hb
        cases hresult :
            (commit b.limits write (acknowledged deliveredAt b.state rest) w.daemon).1 with
        | error reason => exact hkept
        | ok _ =>
            apply hkept.imp
            intro s hs _
            rw [commit_ok (hw.kept.limits b hb) hbooks.queued.representable hresult s hs]
            exact hbooks

theorem setDeliveryState_kept (hw : w.Invariant machine) (value : Bytes) (changedAt : Instant)
    (write : Write) :
    Invariant machine (next (step machine) w (.setDeliveryState value changedAt write)) := by
  unfold next step
  dsimp only
  rcases setDeliveryState_cases value changedAt write w.daemon with
    hsame | ⟨b, hb, hvalue, -, hcommitted⟩
  · rw [hsame]
    exact hw
  · rw [hcommitted]
    obtain ⟨hbooks, hadvances⟩ := (hw.kept.buffer hb).continues fun delivered haccount =>
      (transitioned_same value changedAt b.state).continues haccount
        (transitioned_representable (deliveryState_valid hvalue) changedAt
          haccount.queued.representable)
    exact hw.committed hb (commit_books hw.kept hb hbooks hadvances write)

/-- Every operation keeps the account of every state. -/
theorem step_kept (hw : w.Invariant machine) (event : Event) :
    Invariant machine (next (step machine) w event) := by
  cases event with
  | start limits now write => exact start_kept hw limits now write
  | stop => exact ⟨hw.kept.stopped, hw.unborn⟩
  | enqueue health external now write => exact enqueue_kept hw health external now write
  | peek write => exact peek_kept hw write
  | acknowledge deliveredAt write => exact acknowledge_kept hw deliveredAt write
  | setDeliveryState value changedAt write => exact setDeliveryState_kept hw value changedAt write

end Steps

theorem empty_kept : empty.Invariant machine where
  kept :=
    { states := fun _ hs => nomatch hs
      limits := fun _ hb => nomatch hb
      behind := fun _ hb => nomatch hb }
  unborn := fun _ => ⟨rfl, rfl, rfl⟩

end Machine

/-! ## Nothing is lost or counted twice -/

/-- What a state of the Daemon shows of its sequences. -/
structure Sheet (deeds : Deeds) (delivered : List Envelope) (s : State) : Prop where
  confirms : Confirms deeds.confirmed deeds.asked delivered
  /-- What `enqueue` returned is below the next sequence. -/
  assigned : ∀ n ∈ deeds.assigned, 1 ≤ n ∧ n < s.upTo
  /-- The pending sequences are consecutive and end right before the next one. -/
  contiguous : (s.pending.items.map Envelope.sequence).IsChain (fun n m => m = n + 1)
  ends : ∀ newest ∈ s.pending.items.getLast?, wrap (newest.sequence + 1) = s.nextSequence
  /-- The ranges at hand are one range that ends right before the oldest observation. -/
  range : ∃ first, Spans s.skipped first s.first
  oldest : ∀ oldest ∈ s.pending.items.head?, oldest.sequence = s.first
  /-- Only the oldest observation carries ranges. -/
  bare : ∀ e ∈ s.pending.items.tail, e.gaps = []
  counted : ∀ gap ∈ delivered.flatMap Envelope.gaps ++ s.skipped,
    gap.droppedCount = gap.lastSequence - gap.firstSequence + 1
  /-- A sequence that was given is confirmed, or pending, or in one range; no
  other is in any place. -/
  once : ∀ n, places delivered s n = if 1 ≤ n ∧ n < s.upTo then 1 else 0

theorem Books.sheet {machine : Bytes} {deeds : Deeds} {s : State}
    (h : Books machine deeds s) : ∃ delivered, Sheet deeds delivered s := by
  obtain ⟨delivered, haccount, hconfirms⟩ := h.account
  have hqueued := haccount.queued
  refine ⟨delivered, ?_⟩
  constructor
  · exact hconfirms
  · exact h.assigned
  · exact hqueued.follows.chain
  · intro newest hnewest
    have hupTo := hqueued.follows.newest newest hnewest
    have hbound := hqueued.representable.nextSequence
    rw [hupTo, State.upTo]
    unfold wrap
    split
    · rename_i hzero
      rw [hzero, Nat.mod_self]
    · exact Nat.mod_eq_of_lt hbound
  · obtain ⟨first, -, hspans⟩ := haccount.range
    exact ⟨first, hspans⟩
  · intro oldest holdest
    cases hpending : s.pending.items with
    | nil =>
        rw [hpending] at holdest
        cases holdest
    | cons e rest =>
        rw [hpending] at holdest
        rw [← Option.some.inj holdest]
        exact (hqueued.head hpending).1
  · exact hqueued.bare
  · exact haccount.counted
  · exact haccount.once

/-- After any run of the Daemon from an empty directory, its memory and its
file account for every sequence ever given. -/
theorem accounted_everywhere (machine : Bytes) (events : List Event) :
    ∀ s ∈ (run (step machine) empty events).daemon.states,
      ∃ delivered, Sheet (run (step machine) empty events).deeds delivered s := by
  intro s hs
  have hstep : ∀ w event, Invariant machine w → Invariant machine (next (step machine) w event) :=
    fun _ event hw => step_kept hw event
  have hreached := run_invariant hstep (empty_kept machine) events
  exact (hreached.kept.states s hs).sheet

namespace Sample

open Observation.Sample

/-- Two observations under a limit of one, the second offered and confirmed. -/
def events : List Event :=
  [.start limits now .done, .enqueue health [] now .done,
    .enqueue health [] (now + 30000000000) .done, .peek .done,
    .acknowledge (now + 31000000000) .done]

end Sample

open Observation.Sample Sample in
/-- The first observation is in a range of the second, which was confirmed. -/
theorem discarded_and_confirmed :
    ∃ s ∈ (run (step machine) empty events).daemon.states,
      (s.nextSequence = 3 ∧ s.pending.items = []) ∧
        ∃ delivered, Sheet (run (step machine) empty events).deeds delivered s := by
  have hreached : ∃ s ∈ (run (step machine) empty events).daemon.states,
      s.nextSequence = 3 ∧ s.pending.items = [] := by decide +kernel
  obtain ⟨s, hs, hlast⟩ := hreached
  exact ⟨s, hs, hlast, accounted_everywhere machine events s hs⟩

end Ledger

end YourCloud.Observation
