import YourCloud.Observation.Queue
import YourCloud.Foundation.Run

/-!
# A Daemon and its Relay

One Daemon, the Relay, and the network between them.  Every request that ever
left the Daemon may arrive, late and more than once or never, and so may every
acknowledgement the Relay gave; the Daemon may stop at any point and start
again from its file.

The two keep each other's meaning of a sequence only as long as they agree on
what was lost.  An observation that the Relay has stored and that the limits
discard before the acknowledgement came counts as received on one side and as
skipped on the other; from then on the Relay refuses what the queue offers.

## Main results

* `step_invariant` — one step keeps both sides aligned where neither gives up
  what the other keeps.
* `peeked_accepted` — in every such run what `peek` returns is accepted.
-/

namespace YourCloud.Observation

open YourCloud.Foundation

/-! ## Steps -/

/-- A Daemon, the Relay's store, and what is on the way between them. -/
structure World where
  daemon : Daemon
  store : ObservationStore
  /-- The requests that left the Daemon. -/
  sent : List Bytes
  /-- The sequences the Relay acknowledged. -/
  acknowledged : List Nat

inductive Event where
  | start (limits : Limits) (now : Instant) (write : Write)
  | stop
  | enqueue (health : HostHealth) (external : List ExternalReading) (now : Instant)
      (write : Write)
  | peek (write : Write)
  /-- A request of the Daemon arrives at the Relay. -/
  | arrive (encoded : Bytes) (receivedAt : Instant) (published : Bool)
  /-- An acknowledgement of the Relay arrives at the Daemon. -/
  | acknowledge (sequence : Nat) (deliveredAt : Instant) (write : Write)
  | setDeliveryState (value : Bytes) (changedAt : Instant) (write : Write)
  /-- A request of another machine arrives at the Relay. -/
  | arriveOther (machine encoded : Bytes) (receivedAt : Instant) (published : Bool)

section Machine

variable (machine : Bytes)

/-- One step of the Daemon of a machine, the Relay or the network. -/
def step (w : World) (event : Event) : World × Unit :=
  match event with
  | .start limits now write => ({ w with daemon := (openAt limits now write w.daemon).2 }, ())
  | .stop => ({ w with daemon := { w.daemon with buffer := none } }, ())
  | .enqueue health external now write =>
      ({ w with daemon := (enqueue machine health external now write w.daemon).2 }, ())
  | .peek write =>
      match peek write w.daemon with
      | (.ok (encoded, _), daemon) => ({ w with daemon, sent := encoded :: w.sent }, ())
      | (.error _, daemon) => ({ w with daemon }, ())
  | .arrive encoded receivedAt published =>
      if encoded ∈ w.sent then
        match save machine encoded receivedAt published w.store with
        | (.ok (envelope, _), store) =>
            ({ w with store, acknowledged := envelope.sequence :: w.acknowledged }, ())
        | (.error _, store) => ({ w with store }, ())
      else (w, ())
  | .acknowledge sequence deliveredAt write =>
      if sequence ∈ w.acknowledged then
        ({ w with daemon := (acknowledge sequence deliveredAt write w.daemon).2 }, ())
      else (w, ())
  | .setDeliveryState value changedAt write =>
      ({ w with daemon := (setDeliveryState value changedAt write w.daemon).2 }, ())
  | .arriveOther other encoded receivedAt published =>
      if other = machine then (w, ())
      else ({ w with store := (save other encoded receivedAt published w.store).2 }, ())

/-- The start: no file, an empty entry, nothing on the way. -/
def World.Fresh (w : World) : Prop :=
  w.daemon = { buffer := none, file := none } ∧ w.store machine = none ∧ w.sent = [] ∧
    w.acknowledged = []

/-! ## Giving up nothing the other keeps -/

/-- Whether a write reached the file. -/
def Write.renames : Write → Bool
  | .done => true
  | .fails renamed => renamed
  | .dies renamed => renamed

/-- The state in the file of a Daemon. -/
def Daemon.loaded (d : Daemon) : Option State :=
  d.file.bind fun file => (readState file).toOption

/-- The states a Daemon has: the one it works with and the one in its file. -/
def Daemon.states (d : Daemon) : List State :=
  (d.buffer.map Buffer.state).toList ++ d.loaded.toList

/-- Enforcing the limits on a state keeps what the Relay has stored. -/
def KeepsEnforced (entry : Option StoredObservation) (limits : Limits) (now : Instant)
    (before : State) : Prop :=
  ∀ after ∈ (enforce limits now before).toOption, Keeps entry before after

/-- A message that the Relay would store as new. -/
def Stores (entry : Option StoredObservation) (envelope : Envelope) : Prop :=
  lastStored entry < envelope.sequence ∧
    gapsMatchSkippedRange envelope.gaps (firstSkipped entry) (envelope.sequence - 1) = true

/-- No observation is both stored by the Relay and discarded by the limits
before its acknowledgement was applied: what the Relay has stored is kept by
the limits, and what it stores as new is still held. -/
def GivesUpNothing (w : World) (event : Event) : Prop :=
  match event with
  | .start limits now write =>
      write.renames = true → validateLimits limits = none → ∀ before ∈ w.daemon.loaded,
        validateState before = none →
          KeepsEnforced (w.store machine) limits now (cloneState before)
  | .enqueue health external now write =>
      write.renames = true → ∀ buffer ∈ w.daemon.buffer,
        ∀ envelope ∈ (newEnvelope machine buffer.state.nextSequence now health external).toOption,
          KeepsEnforced (w.store machine) buffer.limits now (appended buffer.state envelope)
  | .arrive encoded _ published =>
      published = true → ∀ envelope ∈ (decode encoded).toOption,
        Stores (w.store machine) envelope →
          ∀ s ∈ w.daemon.states, envelope.sequence ∈ s.sequences
  | _ => True

instance (entry : Option StoredObservation) (limits : Limits) (now : Instant) (before : State) :
    Decidable (KeepsEnforced entry limits now before) :=
  inferInstanceAs (Decidable (∀ after ∈ (enforce limits now before).toOption, _))

instance (entry : Option StoredObservation) (envelope : Envelope) :
    Decidable (Stores entry envelope) :=
  inferInstanceAs (Decidable (_ ∧ _))

instance (w : World) : ∀ event, Decidable (GivesUpNothing machine w event)
  | .start limits now write =>
      inferInstanceAs (Decidable (write.renames = true → validateLimits limits = none →
        ∀ before ∈ w.daemon.loaded, validateState before = none →
          KeepsEnforced (w.store machine) limits now (cloneState before)))
  | .enqueue health external now write =>
      inferInstanceAs (Decidable (write.renames = true → ∀ buffer ∈ w.daemon.buffer,
        ∀ envelope ∈ (newEnvelope machine buffer.state.nextSequence now health external).toOption,
          KeepsEnforced (w.store machine) buffer.limits now (appended buffer.state envelope)))
  | .arrive encoded _ published =>
      inferInstanceAs (Decidable (published = true → ∀ envelope ∈ (decode encoded).toOption,
        Stores (w.store machine) envelope →
          ∀ s ∈ w.daemon.states, envelope.sequence ∈ s.sequences))
  | .stop | .peek _ | .acknowledge _ _ _ | .setDeliveryState _ _ _ | .arriveOther _ _ _ _ =>
      inferInstanceAs (Decidable True)

/-! ## The invariant -/

/-- What every reached state of the two sides satisfies. -/
structure Invariant (w : World) : Prop where
  states : ∀ s ∈ w.daemon.states, Queued machine s ∧ Aligned (w.store machine) s
  limits : ∀ b ∈ w.daemon.buffer, validateLimits b.limits = none
  /-- The file is where the memory is, or one publication ahead. -/
  behind : ∀ b ∈ w.daemon.buffer, ∃ s, w.daemon.loaded = some s ∧ Advances b.state s
  unborn : w.daemon.file = none → w.store machine = none ∧ w.sent = [] ∧ w.daemon.buffer = none
  /-- A request is stored, or still the oldest one, or was discarded. -/
  sent : ∀ encoded ∈ w.sent, ∃ e : Envelope, e.Representable ∧ e.machineID = machine ∧
    e.encode = .ok encoded ∧ (e.sequence ≤ lastStored (w.store machine) ∨
      ∀ s ∈ w.daemon.states, Holds s encoded ∨ e.sequence < s.first)
  acknowledged : ∀ n ∈ w.acknowledged, n ≤ lastStored (w.store machine)

variable {machine}

theorem Daemon.mem_states {d : Daemon} {s : State} :
    s ∈ d.states ↔ (∃ b, d.buffer = some b ∧ b.state = s) ∨ d.loaded = some s := by
  rw [Daemon.states, List.mem_append, Option.mem_toList, Option.mem_toList, Option.map_eq_some_iff]

/-- The bytes of a message tell which one it is. -/
theorem encode_injective {e e' : Envelope} {encoded : Bytes} (he : e.Representable)
    (he' : e'.Representable) (h : e.encode = .ok encoded) (h' : e'.encode = .ok encoded) :
    e = e' :=
  Except.ok.inj ((Envelope.decode_encode he h).symm.trans (Envelope.decode_encode he' h'))

/-- A request that a state holds is held on, or left behind. -/
theorem Advances.holds {s s' : State} {e : Envelope} {encoded : Bytes} (h : Advances s s')
    (hs : Queued machine s) (he : e.Representable) (hencode : e.encode = .ok encoded)
    (hheld : Holds s encoded ∨ e.sequence < s.first) :
    Holds s' encoded ∨ e.sequence < s'.first := by
  rcases hheld with ⟨hgaps, oldest, rest, hpending, holdest⟩ | hlt
  · have hmem : oldest ∈ s.pending.items := hpending ▸ List.mem_cons_self
    obtain rfl := encode_injective he (hs.representable.pending oldest hmem) hencode holdest
    have hfirst := (hs.head hpending).1
    by_cases heq : s.first = s'.first
    · obtain ⟨hgaps', rest', hpending'⟩ := h.2 heq hgaps e rest hpending
      exact .inl ⟨hgaps', e, rest', hpending', holdest⟩
    · have := h.1
      exact .inr (by omega)
  · have := h.1
    exact .inr (by omega)

section Steps

variable {w : World}

/-- A Daemon that changed, each of its states an old one or one that comes of
an old one. -/
theorem Invariant.daemon {d : Daemon} (hw : Invariant machine w)
    (hstates : ∀ s ∈ d.states, s ∈ w.daemon.states ∨
      (Queued machine s ∧ Aligned (w.store machine) s ∧
        (w.sent = [] ∨ ∃ before ∈ w.daemon.states, Advances before s)))
    (hlimits : ∀ b ∈ d.buffer, validateLimits b.limits = none)
    (hbehind : ∀ b ∈ d.buffer, ∃ s, d.loaded = some s ∧ Advances b.state s)
    (hunborn : d.file = none → w.daemon.file = none ∧ d.buffer = none) :
    Invariant machine { w with daemon := d } where
  states s hs := by
    rcases hstates s hs with hold | ⟨hqueued, haligned, -⟩
    · exact hw.states s hold
    · exact ⟨hqueued, haligned⟩
  limits := hlimits
  behind := hbehind
  unborn hfile := by
    obtain ⟨hfile, hbuffer⟩ := hunborn hfile
    obtain ⟨hstore, hsent, -⟩ := hw.unborn hfile
    exact ⟨hstore, hsent, hbuffer⟩
  sent encoded hencoded := by
    obtain ⟨e, he, hmachine, hencode, hcases⟩ := hw.sent encoded hencoded
    refine ⟨e, he, hmachine, hencode, hcases.imp_right fun hheld s hs => ?_⟩
    rcases hstates s hs with hold | ⟨-, -, hnil | ⟨before, hbefore, hadvances⟩⟩
    · exact hheld s hold
    · rw [hnil] at hencoded
      cases hencoded
    · exact hadvances.holds (hw.states before hbefore).1 he hencode (hheld before hbefore)
  acknowledged := hw.acknowledged

theorem hardMax_of_limits {limits : Limits} (h : validateLimits limits = none) :
    limits.maxBytes ≤ hardMaxBytes := by
  unfold validateLimits at h
  split at h
  · cases h
  · omega

theorem loaded_encode {c : State} (buffer : Option Buffer) (hc : c.Representable)
    (hlength : c.encode.length ≤ hardMaxBytes) :
    Daemon.loaded { buffer, file := some c.encode } = some c := by
  show ((readState c.encode).toOption) = some c
  rw [readState_encode hc hlength]
  rfl

/-- A candidate that both sides can go on with. -/
structure Sound (machine : Bytes) (w : World) (d : Daemon) (c : State) : Prop where
  queued : Queued machine c
  aligned : Aligned (w.store machine) c
  advances : ∀ b ∈ d.buffer, Advances b.state c
  comes : w.sent = [] ∨ ∃ before ∈ w.daemon.states, Advances before c

/-- A Daemon whose file stands and whose process may have ended. -/
theorem Invariant.process {d : Daemon} (hw : Invariant machine w)
    (hfile : d.file = w.daemon.file) (hbuffer : ∀ b ∈ d.buffer, w.daemon.buffer = some b) :
    Invariant machine { w with daemon := d } := by
  have hloaded : d.loaded = w.daemon.loaded := by rw [Daemon.loaded, hfile, Daemon.loaded]
  apply hw.daemon
  · intro s hs
    rw [Daemon.mem_states] at hs
    rcases hs with ⟨b, hb, rfl⟩ | hs
    · exact .inl (Daemon.mem_states.2 (.inl ⟨b, hbuffer b hb, rfl⟩))
    · exact .inl (Daemon.mem_states.2 (.inr (hloaded ▸ hs)))
  · exact fun b hb => hw.limits b (hbuffer b hb)
  · intro b hb
    rw [hloaded]
    exact hw.behind b (hbuffer b hb)
  · intro hnone
    have hnone' : w.daemon.file = none := hfile ▸ hnone
    refine ⟨hnone', ?_⟩
    cases hb : d.buffer with
    | none => rfl
    | some b =>
        have := hbuffer b hb
        rw [(hw.unborn hnone').2.2] at this
        cases this

theorem Invariant.stopped (hw : Invariant machine w) :
    Invariant machine { w with daemon := { w.daemon with buffer := none } } :=
  hw.process rfl fun _ hb => nomatch hb

/-- A Daemon whose file is a sound candidate. -/
theorem Invariant.published {d : Daemon} {c : State} {limits : Limits} (hw : Invariant machine w)
    (hbuffer : ∀ b ∈ d.buffer, w.daemon.buffer = some b) (hlimits : validateLimits limits = none)
    (hc : Sound machine w d c) (hlength : c.encode.length ≤ hardMaxBytes)
    (buffer : Option Buffer)
    (hsub : ∀ b ∈ buffer, d.buffer = some b ∨ b = { limits, state := c }) :
    Invariant machine { w with daemon := { buffer, file := some c.encode } } := by
  have hloaded := loaded_encode buffer hc.queued.representable hlength
  apply hw.daemon
  · intro s hs
    rw [Daemon.mem_states, hloaded] at hs
    rcases hs with ⟨b, hb, rfl⟩ | hs
    · rcases hsub b hb with hb | rfl
      · exact .inl (Daemon.mem_states.2 (.inl ⟨b, hbuffer b hb, rfl⟩))
      · exact .inr ⟨hc.queued, hc.aligned, hc.comes⟩
    · obtain rfl := Option.some.inj hs
      exact .inr ⟨hc.queued, hc.aligned, hc.comes⟩
  · intro b hb
    rcases hsub b hb with hb | rfl
    · exact hw.limits b (hbuffer b hb)
    · exact hlimits
  · intro b hb
    refine ⟨c, hloaded, ?_⟩
    rcases hsub b hb with hb | rfl
    · exact hc.advances b hb
    · exact Advances.refl c
  · exact fun hnone => nomatch hnone

/-- A candidate is published, or not, or only in the file. -/
theorem commit_invariant (hw : Invariant machine w) {d : Daemon} {c : State} {limits : Limits}
    (write : Write) (hfile : d.file = w.daemon.file)
    (hbuffer : ∀ b ∈ d.buffer, w.daemon.buffer = some b)
    (hlimits : validateLimits limits = none)
    (hc : write.renames = true → Sound machine w d c) :
    Invariant machine { w with daemon := (commit limits write c d).2 } := by
  unfold commit
  split
  · exact hw.process hfile hbuffer
  · rename_i hlength
    have hbytes := hardMax_of_limits hlimits
    have hlength : c.encode.length ≤ hardMaxBytes := by omega
    cases write with
    | done =>
        exact hw.published hbuffer hlimits (hc rfl) hlength _ fun b hb =>
          .inr (Option.some.inj hb).symm
    | fails renamed =>
        cases renamed with
        | true => exact hw.published hbuffer hlimits (hc rfl) hlength d.buffer fun b hb => .inl hb
        | false => exact hw.process hfile hbuffer
    | dies renamed =>
        cases renamed with
        | true => exact hw.published hbuffer hlimits (hc rfl) hlength none fun b hb => nomatch hb
        | false => exact hw.process hfile fun b hb => nomatch hb

/-! ## The operations of the Daemon -/

theorem Invariant.buffer {b : Buffer} (hw : Invariant machine w) (hb : w.daemon.buffer = some b) :
    b.state ∈ w.daemon.states ∧ Queued machine b.state ∧ Aligned (w.store machine) b.state := by
  have hmem : b.state ∈ w.daemon.states := Daemon.mem_states.2 (.inl ⟨b, hb, rfl⟩)
  exact ⟨hmem, hw.states b.state hmem⟩

/-- A candidate made of the state a Daemon works with. -/
theorem Invariant.sound {b : Buffer} {c : State} (hw : Invariant machine w)
    (hb : w.daemon.buffer = some b) (hqueued : Queued machine c)
    (haligned : Aligned (w.store machine) c) (hadvances : Advances b.state c) :
    Sound machine w w.daemon c where
  queued := hqueued
  aligned := haligned
  advances b' hb' := by
    obtain rfl := Option.some.inj (hb.symm.trans hb')
    exact hadvances
  comes := .inr ⟨b.state, (hw.buffer hb).1, hadvances⟩

theorem initialState_queued : Queued machine initialState where
  representable :=
    { schema := by decide
      nextSequence := by decide
      current := fun e he => nomatch he
      pending := fun e he => absurd he List.not_mem_nil
      gaps := fun gap hgap => absurd hgap List.not_mem_nil
      lastDelivered := by decide
      deliveryState := by decide
      lastTransition := by decide }
  positive := by decide
  follows := rfl
  machine := fun e he => absurd he List.not_mem_nil
  bare := fun e he => absurd he List.not_mem_nil
  once := fun e he => nomatch he

theorem start_invariant (hw : Invariant machine w) {limits : Limits} {now : Instant}
    {write : Write} (hok : GivesUpNothing machine w (.start limits now write)) :
    Invariant machine { w with daemon := (openAt limits now write w.daemon).2 } := by
  unfold openAt
  dsimp only
  split
  · exact hw.stopped
  · rename_i hlimits
    split
    · rename_i hfile
      obtain ⟨hstore, hsent, -⟩ := hw.unborn hfile
      refine commit_invariant hw (d := { w.daemon with buffer := none }) write rfl
        (fun b hb => nomatch hb) hlimits fun _ => ?_
      exact
        { queued := initialState_queued
          aligned := by
            rw [hstore]
            exact .waiting (.inl ⟨rfl, rfl⟩)
          advances := fun b hb => nomatch hb
          comes := .inl hsent }
    · rename_i file hfile
      split
      · exact hw.stopped
      · rename_i loaded hread
        split
        · exact hw.stopped
        · rename_i hvalid
          split
          · exact hw.stopped
          · rename_i candidate henforce
            refine commit_invariant hw (d := { w.daemon with buffer := none }) write rfl
              (fun b hb => nomatch hb) hlimits fun hrenames => ?_
            have hloaded : w.daemon.loaded = some loaded := by
              rw [Daemon.loaded, hfile]
              show (readState file).toOption = _
              rw [hread]
              rfl
            have hmem : loaded ∈ w.daemon.states := Daemon.mem_states.2 (.inr hloaded)
            obtain ⟨hqueued, haligned⟩ := hw.states loaded hmem
            have hsame := cloneState_same loaded
            have hclone := hsame.queued hqueued (cloneState_representable hqueued.representable)
            have hkeeps : Keeps (w.store machine) (cloneState loaded) candidate := by
              apply hok hrenames hlimits loaded hloaded hvalid
              rw [henforce]
              rfl
            obtain ⟨hqueued', haligned', hadvances⟩ :=
              enforce_aligned hclone (hsame.aligned haligned) hkeeps henforce
            exact
              { queued := hqueued'
                aligned := haligned'
                advances := fun b hb => nomatch hb
                comes := .inr ⟨loaded, hmem, hsame.advances.trans hadvances⟩ }

theorem enqueue_invariant (hw : Invariant machine w) {health : HostHealth}
    {external : List ExternalReading} {now : Instant} {write : Write}
    (hok : GivesUpNothing machine w (.enqueue health external now write)) :
    Invariant machine
      { w with daemon := (enqueue machine health external now write w.daemon).2 } := by
  unfold enqueue
  split
  · exact hw
  · rename_i b hb
    split
    · exact hw
    · rename_i envelope hnew
      split
      · exact hw
      · rename_i candidate henforce
        have hcommit : Invariant machine
            { w with daemon := (commit b.limits write candidate w.daemon).2 } := by
          apply commit_invariant hw write rfl (fun b hb => hb) (hw.limits b hb)
          intro hrenames
          obtain ⟨-, hqueued, haligned⟩ := hw.buffer hb
          have hkeeps : Keeps (w.store machine) (appended b.state envelope) candidate := by
            apply hok hrenames b hb envelope
            · rw [hnew]
              rfl
            · rw [henforce]
              rfl
          obtain ⟨hqueued', haligned', hadvances⟩ := enforce_aligned (appended_queued hqueued hnew)
            (appended_aligned hqueued hnew haligned) hkeeps henforce
          exact hw.sound hb hqueued' haligned' ((appended_advances hqueued hnew).trans hadvances)
        split
        · rename_i heq
          rwa [heq] at hcommit
        · rename_i heq
          rwa [heq] at hcommit

/-- What `peek` returns is the exact oldest observation of the state it leaves. -/
theorem peek_invariant (hw : Invariant machine w) (write : Write) :
    Invariant machine { w with daemon := (peek write w.daemon).2 } ∧
      ∀ encoded n, (peek write w.daemon).1 = .ok (encoded, n) →
        ∃ b, (peek write w.daemon).2.buffer = some b ∧ Holds b.state encoded := by
  unfold peek
  split
  · exact ⟨hw, nofun⟩
  · rename_i b hb
    obtain ⟨-, hqueued, haligned⟩ := hw.buffer hb
    split
    · exact ⟨hw, nofun⟩
    · rename_i oldest rest hpending
      have hencode : ∀ {s : State} {oldest : Envelope} {rest : List Envelope} {encoded : Bytes}
          {n : Nat}, s.pending.items = oldest :: rest → s.gaps.items = [] →
          encodeOldest s = .ok (encoded, n) → Holds s encoded := by
        intro s oldest rest encoded n hpending hgaps h
        unfold encodeOldest at h
        rw [hpending] at h
        dsimp only at h
        split at h
        · cases h
        · rename_i hencoded
          obtain ⟨rfl, -⟩ := Prod.mk.inj (Except.ok.inj h)
          exact ⟨hgaps, oldest, rest, hpending, hencoded⟩
      split
      · rename_i hempty
        refine ⟨hw, fun encoded n h => ⟨b, hb, hencode hpending ?_ h⟩⟩
        exact List.isEmpty_iff.1 hempty
      · rename_i hgaps
        have hgaps : b.state.gaps.items ≠ [] := fun hnil => hgaps (List.isEmpty_iff.2 hnil)
        have hcommit : Invariant machine
            { w with
              daemon := (commit b.limits write (attached b.state oldest rest) w.daemon).2 } :=
          commit_invariant hw write rfl (fun b hb => hb) (hw.limits b hb) fun _ =>
            hw.sound hb (attached_queued hqueued hpending)
              (attached_aligned hqueued hpending hgaps haligned)
              (attached_advances hpending hgaps)
        split
        · rename_i heq
          rw [heq] at hcommit
          exact ⟨hcommit, nofun⟩
        · rename_i d heq
          rw [heq] at hcommit
          refine ⟨hcommit, fun encoded n h => ?_⟩
          have hbuffer : d.buffer =
              some { limits := b.limits, state := attached b.state oldest rest } := by
            unfold commit at heq
            split at heq
            · cases heq
            · cases write with
              | done =>
                  obtain ⟨-, rfl⟩ := Prod.mk.inj heq
                  rfl
              | fails renamed => cases heq
              | dies renamed => cases heq
          exact ⟨_, hbuffer, hencode rfl rfl h⟩

theorem acknowledge_invariant (hw : Invariant machine w) {sequence : Nat}
    (hsequence : sequence ∈ w.acknowledged) (deliveredAt : Instant) (write : Write) :
    Invariant machine
      { w with daemon := (acknowledge sequence deliveredAt write w.daemon).2 } := by
  unfold acknowledge
  split
  · exact hw
  · rename_i b hb
    split
    · exact hw
    · rename_i oldest rest hpending
      split
      · exact hw
      · rename_i heq
        obtain rfl : oldest.sequence = sequence := not_not.1 heq
        obtain ⟨-, hqueued, haligned⟩ := hw.buffer hb
        have hlast := hw.acknowledged _ hsequence
        have hleaves : Leaves b.state (acknowledged deliveredAt b.state rest) rest :=
          acknowledged_leaves deliveredAt
        have hrepresentable := acknowledged_representable hqueued.representable deliveredAt hpending
        exact commit_invariant hw write rfl (fun b hb => hb) (hw.limits b hb) fun _ =>
          hw.sound hb (hleaves.queued hqueued hpending hrepresentable)
            (acknowledged_aligned hqueued hpending haligned hlast deliveredAt)
            (hleaves.advances hqueued hpending)

theorem setDeliveryState_invariant (hw : Invariant machine w) (value : Bytes)
    (changedAt : Instant) (write : Write) :
    Invariant machine
      { w with daemon := (setDeliveryState value changedAt write w.daemon).2 } := by
  unfold setDeliveryState
  split
  · exact hw
  · rename_i hvalue
    split
    · exact hw
    · rename_i b hb
      split
      · exact hw
      · obtain ⟨-, hqueued, haligned⟩ := hw.buffer hb
        have hvalid : Valid value := by
          by_cases hdown : value = deliveryUnavailable
          · rw [hdown]
            decide
          · have hup : value = deliveryAvailable := by
              by_contra hup
              exact hvalue ⟨hup, hdown⟩
            rw [hup]
            decide
        have hsame := transitioned_same value changedAt b.state
        have hrepresentable := transitioned_representable hvalid changedAt hqueued.representable
        exact commit_invariant hw write rfl (fun b hb => hb) (hw.limits b hb) fun _ =>
          hw.sound hb (hsame.queued hqueued hrepresentable) (hsame.aligned haligned)
            hsame.advances

/-! ## The network and the Relay -/

theorem send_invariant (hw : Invariant machine w) {b : Buffer} {encoded : Bytes}
    (hb : w.daemon.buffer = some b) (hholds : Holds b.state encoded) :
    Invariant machine { w with sent := encoded :: w.sent } := by
  obtain ⟨-, hqueued, -⟩ := hw.buffer hb
  obtain ⟨loaded, hloaded, hadvances⟩ := hw.behind b hb
  refine { hw with unborn := fun hfile => ?_, sent := fun other hother => ?_ }
  · have := (hw.unborn hfile).2.2
    rw [hb] at this
    cases this
  · rcases List.mem_cons.1 hother with rfl | hother
    · obtain ⟨oldest, rest, hpending, hencode⟩ := hholds.2
      have hmem : oldest ∈ b.state.pending.items := hpending ▸ List.mem_cons_self
      have hrepresentable := hqueued.representable.pending oldest hmem
      refine ⟨oldest, hrepresentable, hqueued.machine oldest hmem, hencode, .inr fun s hs => ?_⟩
      rcases Daemon.mem_states.1 hs with ⟨b', hb', rfl⟩ | hs
      · obtain rfl := Option.some.inj (hb.symm.trans hb')
        exact .inl hholds
      · obtain rfl := Option.some.inj (hloaded.symm.trans hs)
        exact hadvances.holds hqueued hrepresentable hencode (.inl hholds)
    · exact hw.sent other hother

/-- An entry that a newer message replaced. -/
theorem lastStored_received (encoded : Bytes) (receivedAt : Instant) (e : Envelope)
    (current : Option StoredObservation) :
    lastStored (some (received encoded receivedAt e current)) = e.sequence := rfl

/-- What is stored as new is the oldest observation of every state that still
holds it. -/
theorem received_aligned {s : State} {e : Envelope} {encoded : Bytes} (hs : Queued machine s)
    (he : e.Representable) (hencode : e.encode = .ok encoded)
    (hheld : Holds s encoded ∨ e.sequence < s.first) (hmem : e.sequence ∈ s.sequences)
    (receivedAt : Instant) (current : Option StoredObservation) :
    Aligned (some (received encoded receivedAt e current)) s := by
  rcases hheld with ⟨hgaps, oldest, rest, hpending, holdest⟩ | hlt
  · have holdestMem : oldest ∈ s.pending.items := hpending ▸ List.mem_cons_self
    obtain rfl := encode_injective he (hs.representable.pending oldest holdestMem) hencode holdest
    exact .delivered _ e rest encoded rfl hpending hgaps hencode rfl rfl
  · have := hs.follows.mem hmem
    omega

/-- What the Relay makes of a request of the Daemon: it refuses, it has it
already, or it stores it. -/
theorem save_cases (store : ObservationStore) {e : Envelope} {encoded : Bytes}
    (he : e.Representable) (hencode : e.encode = .ok encoded) (receivedAt : Instant)
    (published : Bool) :
    (∃ refusal, save e.machineID encoded receivedAt published store = (.error refusal, store)) ∨
      (save e.machineID encoded receivedAt published store = (.ok (e, true), store) ∧
        e.sequence ≤ lastStored (store e.machineID)) ∨
      (published = true ∧ Stores (store e.machineID) e ∧
        save e.machineID encoded receivedAt published store =
          (.ok (e, false), fun machine =>
            if machine = e.machineID then
              some (received encoded receivedAt e (store e.machineID))
            else store machine)) := by
  rw [save_encoded he hencode]
  split
  · exact .inl ⟨_, rfl⟩
  · rename_i hcompare
    refine .inr (.inl ⟨rfl, ?_⟩)
    cases hstore : store e.machineID with
    | none =>
        rw [hstore] at hcompare
        cases hcompare
    | some current =>
        rw [hstore, compareSequence] at hcompare
        split at hcompare
        · rename_i heq
          exact heq.le
        · split at hcompare
          · cases hcompare
          · cases hcompare
  · rename_i hcompare
    split
    · exact .inl ⟨_, rfl⟩
    · rename_i hmatches
      split
      · exact .inl ⟨_, rfl⟩
      · rename_i hpublished
        refine .inr (.inr ⟨Bool.not_eq_false _ |>.mp hpublished, ⟨?_, ?_⟩, rfl⟩)
        · cases hstore : store e.machineID with
          | none => exact Nat.pos_of_ne_zero (sequence_of_validate (validate_of_encode hencode))
          | some current =>
              rw [hstore, compareSequence] at hcompare
              show current.sequence < e.sequence
              split at hcompare
              · split at hcompare
                · cases hcompare
                · cases hcompare
              · split at hcompare
                · cases hcompare
                · omega
        · exact Bool.not_eq_false _ |>.mp hmatches

/-- The Relay stores a request as new. -/
theorem stored_invariant (hw : Invariant machine w) {e : Envelope} {encoded : Bytes}
    (he : e.Representable) (hencode : e.encode = .ok encoded)
    (hheld : ∀ s ∈ w.daemon.states, Holds s encoded ∨ e.sequence < s.first)
    (hmem : ∀ s ∈ w.daemon.states, e.sequence ∈ s.sequences)
    (hlater : lastStored (w.store machine) < e.sequence) (hfile : w.daemon.file ≠ none)
    {store : ObservationStore} {receivedAt : Instant} {current : Option StoredObservation}
    (hstore : store machine = some (received encoded receivedAt e current)) :
    Invariant machine { w with store, acknowledged := e.sequence :: w.acknowledged } where
  states s hs := by
    obtain ⟨hqueued, -⟩ := hw.states s hs
    refine ⟨hqueued, ?_⟩
    show Aligned (store machine) s
    rw [hstore]
    exact received_aligned hqueued he hencode (hheld s hs) (hmem s hs) receivedAt current
  limits := hw.limits
  behind := hw.behind
  unborn := fun hnone => absurd hnone hfile
  sent other hother := by
    obtain ⟨e', he', hmachine', hencode', hcases'⟩ := hw.sent other hother
    refine ⟨e', he', hmachine', hencode', hcases'.imp_left fun hle => ?_⟩
    show _ ≤ lastStored (store machine)
    rw [hstore, lastStored_received]
    omega
  acknowledged n hn := by
    show _ ≤ lastStored (store machine)
    rw [hstore, lastStored_received]
    rcases List.mem_cons.1 hn with rfl | hn
    · exact le_refl _
    · have := hw.acknowledged n hn
      omega

theorem arrive_invariant (hw : Invariant machine w) {encoded : Bytes} {receivedAt : Instant}
    {published : Bool} (hok : GivesUpNothing machine w (.arrive encoded receivedAt published)) :
    Invariant machine (next (step machine) w (.arrive encoded receivedAt published)) := by
  unfold next step
  dsimp only
  split
  · rename_i hsent
    obtain ⟨e, he, rfl, hencode, hcases⟩ := hw.sent encoded hsent
    rcases save_cases w.store he hencode receivedAt published with
      ⟨refusal, hsave⟩ | ⟨hsave, hlast⟩ | ⟨hpublished, hstores, hsave⟩
    · rw [hsave]
      exact hw
    · rw [hsave]
      refine { hw with acknowledged := fun n hn => ?_ }
      rcases List.mem_cons.1 hn with rfl | hn
      · exact hlast
      · exact hw.acknowledged n hn
    · rw [hsave]
      have hlater : lastStored (w.store e.machineID) < e.sequence := hstores.1
      have hheld := hcases.resolve_left (by omega)
      have hmem : ∀ s ∈ w.daemon.states, e.sequence ∈ s.sequences := by
        apply hok hpublished e
        · rw [Envelope.decode_encode he hencode]
          rfl
        · exact hstores
      have hfile : w.daemon.file ≠ none := by
        intro hnone
        rw [(hw.unborn hnone).2.1] at hsent
        cases hsent
      exact stored_invariant hw he hencode hheld hmem hlater hfile (if_pos rfl)
  · exact hw

theorem arriveOther_invariant (hw : Invariant machine w) {other : Bytes} (hother : machine ≠ other)
    (encoded : Bytes) (receivedAt : Instant) (published : Bool) :
    Invariant machine
      { w with store := (save other encoded receivedAt published w.store).2 } := by
  have hentry := save_other encoded receivedAt published w.store hother
  constructor
  · intro s hs
    show _ ∧ Aligned ((save other encoded receivedAt published w.store).2 machine) s
    rw [hentry]
    exact hw.states s hs
  · exact hw.limits
  · exact hw.behind
  · intro hfile
    show (save other encoded receivedAt published w.store).2 machine = none ∧ _
    rw [hentry]
    exact hw.unborn hfile
  · intro encoded' hsent
    show ∃ e : Envelope, _ ∧ _ ∧ _ ∧
      (_ ≤ lastStored ((save other encoded receivedAt published w.store).2 machine) ∨ _)
    rw [hentry]
    exact hw.sent encoded' hsent
  · intro n hn
    show _ ≤ lastStored ((save other encoded receivedAt published w.store).2 machine)
    rw [hentry]
    exact hw.acknowledged n hn

/-- One step in which neither side gives up what the other keeps. -/
theorem step_invariant (hw : Invariant machine w) (event : Event)
    (hok : GivesUpNothing machine w event) : Invariant machine (next (step machine) w event) := by
  cases event with
  | start limits now write => exact start_invariant hw hok
  | stop => exact hw.stopped
  | enqueue health external now write => exact enqueue_invariant hw hok
  | peek write =>
      obtain ⟨hdaemon, hholds⟩ := peek_invariant hw write
      unfold next step
      dsimp only
      split
      · rename_i encoded n d heq
        rw [heq] at hdaemon hholds
        obtain ⟨b, hb, hheld⟩ := hholds encoded n rfl
        exact send_invariant hdaemon hb hheld
      · rename_i d heq
        rw [heq] at hdaemon
        exact hdaemon
  | arrive encoded receivedAt published => exact arrive_invariant hw hok
  | acknowledge sequence deliveredAt write =>
      unfold next step
      dsimp only
      split
      · rename_i hmem
        exact acknowledge_invariant hw hmem deliveredAt write
      · exact hw
  | setDeliveryState value changedAt write => exact setDeliveryState_invariant hw value changedAt write
  | arriveOther other encoded receivedAt published =>
      unfold next step
      dsimp only
      split
      · exact hw
      · rename_i hother
        exact arriveOther_invariant hw (fun heq => hother heq.symm) encoded receivedAt published

end Steps

theorem fresh_invariant {w : World} (h : w.Fresh machine) : Invariant machine w := by
  obtain ⟨hdaemon, hstore, hsent, hacknowledged⟩ := h
  have hnone : ∀ s, s ∉ w.daemon.states := by
    intro s hs
    rw [hdaemon] at hs
    cases hs
  constructor
  · exact fun s hs => absurd hs (hnone s)
  · intro b hb
    rw [hdaemon] at hb
    cases hb
  · intro b hb
    rw [hdaemon] at hb
    cases hb
  · exact fun _ => ⟨hstore, hsent, by rw [hdaemon]⟩
  · intro encoded hencoded
    rw [hsent] at hencoded
    cases hencoded
  · intro n hn
    rw [hacknowledged] at hn
    cases hn

end Machine

/-! ## What `peek` returns is accepted -/

/-- In a run in which neither side gives up what the other keeps, whatever the
queue offers is accepted at the Relay's current state: as a new observation or
as an exact replay. -/
theorem peeked_accepted (machine : Bytes) {w : World} (hfresh : w.Fresh machine)
    {events : List Event} (hok : Admits (step machine) (GivesUpNothing machine) w events)
    (write : Write) {encoded : Bytes} {sequence : Nat}
    (hpeek : (peek write (run (step machine) w events).daemon).1 = .ok (encoded, sequence))
    (receivedAt : Instant) :
    ∃ envelope replay,
      (save machine encoded receivedAt true (run (step machine) w events).store).1 =
        .ok (envelope, replay) := by
  have hstep : ∀ w event, Invariant machine w → GivesUpNothing machine w event →
      Invariant machine (next (step machine) w event) :=
    fun _ event hw hok => step_invariant hw event hok
  have hreached := run_invariant_of_admits hstep (fresh_invariant hfresh) hok
  obtain ⟨hdaemon, hholds⟩ := peek_invariant hreached write
  obtain ⟨b, hb, hheld⟩ := hholds encoded sequence hpeek
  obtain ⟨-, hqueued, haligned⟩ := hdaemon.buffer hb
  exact haligned.accepted hqueued hheld receivedAt

/-! ## An acknowledgement lost before a discard -/

namespace Sample

def machine : Bytes := text "lab-machine-1"

def health : HostHealth :=
  { uptime := { status := statusOK, uptimeSeconds := some 10, error := [] }
    memory := { status := statusOK, totalBytes := some 1024, availableBytes := some 512,
                error := [] }
    rootFS := { status := statusError, totalBytes := none, availableBytes := none,
                error := errorRead } }

/-- One record at a time, for one hour. -/
def limits : Limits := { maxBytes := 65536, maxRecords := 1, maxAge := 3600000000000 }

/-- 2026-01-01T00:00:00Z -/
def now : Instant := 1767225600000000000

def world : World :=
  { daemon := { buffer := none, file := none }, store := fun _ => none, sent := [],
    acknowledged := [] }

/-- What `peek` returns next. -/
def offered (w : World) : Bytes :=
  match (peek .done w.daemon).1 with
  | .ok (encoded, _) => encoded
  | .error _ => []

/-- The first observation is sent. -/
def opening : List Event :=
  [.start limits now .done, .enqueue health [] now .done, .peek .done]

def request : Bytes := offered (run (step machine) world opening)

/-- It arrives and is stored, and the acknowledgement is lost. -/
def stored : List Event := opening ++ [.arrive request now true]

/-- The next observation takes its place. -/
def replaced : List Event := stored ++ [.enqueue health [] (now + 30000000000) .done]

/-- The acknowledgement comes, and the next observation follows. -/
def followed : List Event :=
  stored ++ [.acknowledge 1 now .done, .enqueue health [] (now + 30000000000) .done]

end Sample

open Sample in
/-- What the Relay stored is discarded for want of its acknowledgement, and the
next observation reports it as skipped. -/
theorem discarded_after_storage :
    world.Fresh machine ∧
      (peek .done (run (step machine) world replaced).daemon).1 =
        .ok (offered (run (step machine) world replaced), 2) ∧
      (save machine (offered (run (step machine) world replaced)) now true
        (run (step machine) world replaced).store).1 = .error .gaps := by
  refine ⟨⟨rfl, rfl, rfl, rfl⟩, ?_, ?_⟩
  · decide +kernel
  · decide +kernel

open Sample in
/-- With its acknowledgement in time the next observation is accepted. -/
theorem followed_accepted :
    Admits (step machine) (GivesUpNothing machine) world followed ∧
      ∃ envelope replay,
        (save machine (offered (run (step machine) world followed)) now true
          (run (step machine) world followed).store).1 = .ok (envelope, replay) := by
  have hok : Admits (step machine) (GivesUpNothing machine) world followed := by decide +kernel
  have hpeek : (peek .done (run (step machine) world followed).daemon).1 =
      .ok (offered (run (step machine) world followed), 2) := by decide +kernel
  exact ⟨hok, peeked_accepted machine ⟨rfl, rfl, rfl, rfl⟩ hok .done hpeek now⟩

end YourCloud.Observation
