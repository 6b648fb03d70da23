import YourCloud.Observation.Orderly

/-!
# A queue that can be opened again

The checks of a state run when the Daemon starts, on what an earlier process
published without them.  They ask for times that can be read and for ranges that
are intervals; both come from the clock, which is read once for each
observation and may have been set back between two of them.  A range whose last
observation is older than its first keeps the Daemon from starting, and the
observation that carries it cannot be sent.

## Main results

* `called_openable` — a call keeps the states such as the next start accepts
  them, where what it publishes is in order.
* `reopened` — so does a run from an empty directory.
-/

namespace YourCloud.Observation

open YourCloud.Foundation

/-! ## What a start accepts -/

/-- A state that the next start accepts, and whose oldest observation fits into
a message. -/
structure Openable (s : State) : Prop where
  orderly : Orderly s
  schema : s.schema = stateSchema
  nextSequence : s.nextSequence ≠ 0
  current : validateCurrent s.nextSequence s.current = none
  lastDelivered : validInstant s.lastDelivered = true
  deliveryState : validDeliveryState s.deliveryState = true
  lastTransition : validInstant s.lastTransition = true
  fits : ∀ oldest ∈ s.pending.items.head?, oldest.json.render.length ≤ maxMessageBytes

theorem Follows.validatePending {first last previous : Nat} {pending : List Envelope}
    (h : Follows first pending last) (hprevious : previous < first)
    (hvalid : ∀ e ∈ pending, e.validate = none) :
    validatePending last previous pending = none := by
  induction pending generalizing first previous with
  | nil => rfl
  | cons e rest ih =>
      have hlength := h.2.length
      have hfirst := h.1
      rw [Observation.validatePending, hvalid e List.mem_cons_self]
      dsimp only
      rw [if_neg (by omega)]
      exact ih h.2 (by omega) fun e he => hvalid e (List.mem_cons_of_mem _ he)

theorem Openable.validateState {s : State} (h : Openable s) : validateState s = none := by
  have hlined := h.orderly.lined
  have hupTo : s.upTo = s.nextSequence := if_neg h.nextSequence
  have hpending : validatePending s.nextSequence 0 s.pending.items = none := by
    rw [← hupTo]
    exact hlined.follows.validatePending hlined.positive hlined.valid
  have hgaps : s.gaps.items.findSome? Gap.validate = none := by
    rw [List.findSome?_eq_none_iff]
    exact fun gap hgap => h.orderly.valid gap (List.mem_append_right _ hgap)
  have hsequence : (s.schema = stateSchema && s.nextSequence ≠ 0) = true := by
    simp [h.schema, h.nextSequence]
  rw [Observation.validateState, hsequence, hpending, h.current, hgaps, h.lastDelivered,
    h.deliveryState, h.lastTransition]
  rfl

theorem Openable.encodes {s : State} (h : Openable s) :
    ∀ oldest ∈ s.pending.items.head?, oldest.validate = none ∧
      ∃ encoded, oldest.encode = .ok encoded := by
  intro oldest holdest
  have hvalid := h.orderly.lined.valid oldest (List.mem_of_mem_head? holdest)
  refine ⟨hvalid, oldest.json.render, ?_⟩
  rw [Envelope.encode, hvalid]
  exact if_neg (not_lt.2 (h.fits oldest holdest))

/-! ## What a candidate keeps -/

section Candidates

variable {s c : State} {oldest : Envelope} {rest : List Envelope}

theorem Lined.fits (hs : Lined s) (hbare : ∀ oldest ∈ s.pending.items.head?, oldest.gaps = []) :
    ∀ oldest ∈ s.pending.items.head?, oldest.json.render.length ≤ maxMessageBytes := by
  intro oldest holdest
  have hmem := List.mem_of_mem_head? holdest
  exact bare_length (hs.valid oldest hmem) (hbare oldest holdest)
    (hs.representable.pending oldest hmem).sequence (hs.written oldest hmem)

theorem cloneState_openable (hs : Openable s) : Openable (cloneState s) :=
  { hs with
    orderly := (cloneState_same s).orderly hs.orderly
      (cloneState_representable hs.orderly.lined.representable)
    fits := hs.fits }

private theorem validInstant_format {t : Instant} (h : Rfc3339.Writable t) :
    validInstant (Rfc3339.format t) = true := by
  rw [validInstant, Rfc3339.parse_format h, Option.isSome_some, Bool.or_true]

theorem transitioned_openable (hs : Openable s) {value : Bytes}
    (hvalue : value = deliveryAvailable ∨ value = deliveryUnavailable) {changedAt : Instant}
    (hwritable : Rfc3339.Writable changedAt) : Openable (transitioned value changedAt s) :=
  { hs with
    orderly := (transitioned_same value changedAt s).orderly hs.orderly
      (transitioned_representable (deliveryState_valid hvalue) changedAt
        hs.orderly.lined.representable)
    deliveryState := by
      show validDeliveryState value = true
      rcases hvalue with rfl | rfl
      · decide
      · decide
    lastTransition := validInstant_format hwritable
    fits := hs.fits }

theorem acknowledged_openable (hs : Openable s) (hpending : s.pending.items = oldest :: rest)
    {deliveredAt : Instant} (hwritable : Rfc3339.Writable deliveredAt) :
    Openable (acknowledged deliveredAt s rest) := by
  have horderly := acknowledged_orderly hs.orderly hpending deliveredAt
  refine
    { hs with
      orderly := horderly
      lastDelivered := validInstant_format hwritable
      fits := horderly.lined.fits ?_ }
  intro next hnext
  have hbare := hs.orderly.lined.bare
  rw [hpending] at hbare
  apply hbare next
  rw [(acknowledged_leaves deliveredAt).pending] at hnext
  exact List.mem_of_mem_head? hnext

theorem attached_openable (hs : Openable s) (hpending : s.pending.items = oldest :: rest)
    (hgaps : s.gaps.items ≠ [])
    (hfits : ({ oldest with gaps := s.gaps.items } : Envelope).json.render.length ≤
      maxMessageBytes) : Openable (attached s oldest rest) :=
  { hs with
    orderly := attached_orderly hs.orderly hpending hgaps
    fits := fun _ hhead => Option.some.inj hhead ▸ hfits }

theorem appended_openable {machineID : Bytes} {now : Instant} {health : HostHealth}
    {external : List ExternalReading} {envelope : Envelope} (hs : Openable s)
    (h : newEnvelope machineID s.nextSequence now health external = .ok envelope)
    (hroom : s.nextSequence + 1 < 2 ^ 64) : Openable (appended s envelope) := by
  have horderly := appended_orderly hs.orderly h
  have hnext : (appended s envelope).nextSequence = s.nextSequence + 1 := Nat.mod_eq_of_lt hroom
  obtain ⟨hfields, hvalid⟩ := newEnvelope_ok h
  refine
    { hs with
      orderly := horderly
      nextSequence := by rw [hnext]; exact Nat.succ_ne_zero _
      current := ?_
      fits := ?_ }
  · have hsequence : envelope.sequence = s.nextSequence := by rw [hfields]
    rw [hnext]
    show validateCurrent _ (some envelope) = none
    rw [validateCurrent, hvalid]
    dsimp only
    rw [hsequence, if_neg (by omega)]
  · have hitems : (appended s envelope).pending.items = s.pending.items ++ [envelope] := rfl
    have hmem : ∀ e ∈ (appended s envelope).pending.items.head?,
        e ∈ s.pending.items.head? ∨ e.gaps = [] := by
      intro e he
      rw [hitems] at he
      cases hpending : s.pending.items with
      | nil =>
          rw [hpending] at he
          rw [← Option.some.inj he, hfields]
          exact .inr rfl
      | cons oldest rest =>
          rw [hpending] at he
          exact .inl he
    intro e he
    rcases hmem e he with hold | hbare
    · exact hs.fits e hold
    · apply horderly.lined.fits _ e he
      intro e' he'
      rw [← Option.some.inj (he.symm.trans he')]
      exact hbare

theorem enforceFrom_rest {limits : Limits} {now : Instant} {s' : State}
    (h : enforce limits now s = .ok s') :
    ∃ pending gaps, s' = { s with pending, gaps } := by
  have hdrop : ∀ (t : State) oldest rest, (∃ pending gaps, t = { s with pending, gaps }) →
      t.pending.items = oldest :: rest →
      ∃ pending gaps, dropOldest t oldest rest = { s with pending, gaps } := by
    rintro t oldest rest ⟨pending, gaps, rfl⟩ -
    exact ⟨_, _, rfl⟩
  exact enforceFrom_keeps hdrop ⟨s.pending, s.gaps, rfl⟩ rfl h

theorem enforce_openable {limits : Limits} {now : Instant} {s' : State} (hs : Openable s)
    (h : enforce limits now s = .ok s')
    (horder : ∀ gone ∈ discarded limits now s, EndsInOrder s gone) : Openable s' := by
  have horderly := enforce_orderly hs.orderly h horder
  have hsuffix := enforceFrom_pending rfl h
  -- What is left is the whole queue, or begins with an observation without ranges.
  have hmem : ∀ e ∈ s'.pending.items.head?, e ∈ s.pending.items.head? ∨ e.gaps = [] := by
    intro e he
    have hbare := hs.orderly.lined.bare
    cases hpending : s.pending.items with
    | nil =>
        rw [hpending, List.suffix_nil] at hsuffix
        rw [hsuffix] at he
        cases he
    | cons oldest rest =>
        rw [hpending] at hsuffix hbare
        rcases List.suffix_cons_iff.1 hsuffix with hall | hrest
        · exact .inl (hall ▸ he)
        · exact .inr (hbare e (hrest.subset (List.mem_of_mem_head? he)))
  have hfits : ∀ e ∈ s'.pending.items.head?, e.json.render.length ≤ maxMessageBytes := by
    intro e he
    rcases hmem e he with hold | hbare
    · exact hs.fits e hold
    · apply horderly.lined.fits _ e he
      intro e' he'
      rw [← Option.some.inj (he.symm.trans he')]
      exact hbare
  obtain ⟨pending, gaps, rfl⟩ := enforceFrom_rest h
  exact
    { hs with
      orderly := horderly
      fits := hfits }

end Candidates

theorem initialState_openable : Openable initialState where
  orderly := initialState_orderly
  schema := rfl
  nextSequence := by decide
  current := rfl
  lastDelivered := by decide
  deliveryState := by decide
  lastTransition := by decide
  fits := fun _ he => nomatch he

/-! ## Runs -/

/-- What a call publishes is in order: the observation it discards last is not
older than the range it ends, the times it writes have a year of four digits,
the next sequence is not the one after the largest, and the oldest observation
fits into a message with the ranges it takes up. -/
def PublishesInOrder (d : Daemon) : Call → Prop
  | .start limits now write =>
      write.renames = true → validateLimits limits = none → ∀ loaded ∈ d.loaded,
        ∀ gone ∈ discarded limits now (cloneState loaded), EndsInOrder (cloneState loaded) gone
  | .stop => True
  | .enqueue machineID health external now write =>
      write.renames = true → ∀ b ∈ d.buffer,
        ∀ envelope ∈ (newEnvelope machineID b.state.nextSequence now health external).toOption,
          ∀ gone ∈ discarded b.limits now (appended b.state envelope),
            b.state.nextSequence + 1 < 2 ^ 64 ∧ EndsInOrder (appended b.state envelope) gone
  | .peek write =>
      ∀ b ∈ d.buffer, ∀ oldest ∈ b.state.pending.items.head?, b.state.gaps.items ≠ [] →
        Reaches b.limits write (attached b.state oldest b.state.pending.items.tail) →
          ({ oldest with gaps := b.state.gaps.items } : Envelope).json.render.length ≤
            maxMessageBytes
  | .acknowledge sequence deliveredAt write =>
      ∀ b ∈ d.buffer, ∀ oldest ∈ b.state.pending.items.head?, oldest.sequence = sequence →
        Reaches b.limits write (acknowledged deliveredAt b.state b.state.pending.items.tail) →
          Rfc3339.Writable deliveredAt
  | .setDeliveryState value changedAt write =>
      ∀ b ∈ d.buffer, value = deliveryAvailable ∨ value = deliveryUnavailable →
        b.state.deliveryState ≠ value →
          Reaches b.limits write (transitioned value changedAt b.state) →
            Rfc3339.Writable changedAt

instance (d : Daemon) : ∀ call, Decidable (PublishesInOrder d call)
  | .start limits now write =>
      inferInstanceAs (Decidable (write.renames = true → validateLimits limits = none →
        ∀ loaded ∈ d.loaded, ∀ gone ∈ discarded limits now (cloneState loaded),
          EndsInOrder (cloneState loaded) gone))
  | .stop => inferInstanceAs (Decidable True)
  | .enqueue machineID health external now write =>
      inferInstanceAs (Decidable (write.renames = true → ∀ b ∈ d.buffer,
        ∀ envelope ∈ (newEnvelope machineID b.state.nextSequence now health external).toOption,
          ∀ gone ∈ discarded b.limits now (appended b.state envelope),
            b.state.nextSequence + 1 < 2 ^ 64 ∧ EndsInOrder (appended b.state envelope) gone))
  | .peek write =>
      inferInstanceAs (Decidable (∀ b ∈ d.buffer, ∀ oldest ∈ b.state.pending.items.head?,
        b.state.gaps.items ≠ [] →
          Reaches b.limits write (attached b.state oldest b.state.pending.items.tail) → _ ≤ _))
  | .acknowledge sequence deliveredAt write =>
      inferInstanceAs (Decidable (∀ b ∈ d.buffer, ∀ oldest ∈ b.state.pending.items.head?,
        oldest.sequence = sequence →
          Reaches b.limits write (acknowledged deliveredAt b.state b.state.pending.items.tail) →
            Rfc3339.Writable deliveredAt))
  | .setDeliveryState value changedAt write =>
      inferInstanceAs (Decidable (∀ b ∈ d.buffer,
        value = deliveryAvailable ∨ value = deliveryUnavailable → b.state.deliveryState ≠ value →
          Reaches b.limits write (transitioned value changedAt b.state) →
            Rfc3339.Writable changedAt))

/-- A call keeps every state such as the next start accepts it. -/
theorem called_openable {d : Daemon} {call : Call} (h : d.Steady Openable)
    (hcall : PublishesInOrder d call) : (next called d call).Steady Openable := by
  cases call with
  | start limits now write =>
      show Daemon.Steady Openable (openAt limits now write d).2
      rcases openAt_cases limits now write d with
        hstopped | ⟨c, hlimits, hcommitted, ⟨-, rfl⟩ | ⟨loaded, hloaded, henforce⟩⟩
      · rw [hstopped]
        exact h.stopped
      · rw [hcommitted]
        exact commit_steady h.stopped hlimits write fun _ =>
          ⟨initialState_orderly.lined.representable, initialState_openable⟩
      · rw [hcommitted]
        apply commit_steady h.stopped hlimits write
        intro hreaches
        have hgood := h.states loaded (Daemon.mem_states.2 (.inr hloaded))
        have hopenable := enforce_openable (cloneState_openable hgood) henforce
          (hcall hreaches.1 hlimits loaded hloaded)
        exact ⟨hopenable.orderly.lined.representable, hopenable⟩
  | stop => exact h.stopped
  | enqueue machineID health external now write =>
      show Daemon.Steady Openable (enqueue machineID health external now write d).2
      rcases enqueue_cases machineID health external now write d with
        ⟨reason, hrefused⟩ | ⟨b, envelope, c, hb, hnew, henforce, hcommitted⟩
      · rw [hrefused]
        exact h
      · rw [hcommitted]
        apply commit_steady h (h.limits b hb) write
        intro hreaches
        have hbuffer := h.buffer hb
        have hnew' : envelope ∈ (newEnvelope machineID b.state.nextSequence now health
            external).toOption := by
          rw [hnew]
          rfl
        have horder := hcall hreaches.1 b hb envelope hnew'
        obtain ⟨gone, hgone⟩ := (appended_orderly hbuffer.orderly hnew).discards henforce
        have happended := appended_openable hbuffer hnew (horder gone hgone).1
        have hopenable := enforce_openable happended henforce
          fun gone hgone => (horder gone hgone).2
        exact ⟨hopenable.orderly.lined.representable, hopenable⟩
  | peek write =>
      show Daemon.Steady Openable (peek write d).2
      rcases peek_cases write d with
        ⟨reason, hrefused⟩ | ⟨b, hb, -, hsame⟩ | ⟨b, oldest, rest, hb, hpending, hgaps, hcommitted⟩
      · rw [hrefused]
        exact h
      · rw [hsame]
        exact h
      · rw [hcommitted]
        apply commit_steady h (h.limits b hb) write
        intro hreaches
        have hfits := hcall b hb oldest (by rw [hpending]; rfl) hgaps (by rwa [hpending])
        have hopenable := attached_openable (h.buffer hb) hpending hgaps hfits
        exact ⟨hopenable.orderly.lined.representable, hopenable⟩
  | acknowledge sequence deliveredAt write =>
      show Daemon.Steady Openable (acknowledge sequence deliveredAt write d).2
      rcases acknowledge_cases sequence deliveredAt write d with
        ⟨reason, hrefused⟩ | ⟨b, oldest, rest, hb, hpending, hsequence, hcommitted⟩
      · rw [hrefused]
        exact h
      · rw [hcommitted]
        apply commit_steady h (h.limits b hb) write
        intro hreaches
        have hwritable := hcall b hb oldest (by rw [hpending]; rfl) hsequence (by rwa [hpending])
        have hopenable := acknowledged_openable (h.buffer hb) hpending hwritable
        exact ⟨hopenable.orderly.lined.representable, hopenable⟩
  | setDeliveryState value changedAt write =>
      show Daemon.Steady Openable (setDeliveryState value changedAt write d).2
      rcases setDeliveryState_cases value changedAt write d with
        hsame | ⟨b, hb, hvalue, hchanged, hcommitted⟩
      · rw [hsame]
        exact h
      · rw [hcommitted]
        apply commit_steady h (h.limits b hb) write
        intro hreaches
        have hopenable := transitioned_openable (h.buffer hb) hvalue
          (hcall b hb hvalue hchanged hreaches)
        exact ⟨hopenable.orderly.lined.representable, hopenable⟩

/-- After any run in which every call publishes in order, the file is accepted
by the next start, and its oldest observation passes the checks and encodes. -/
theorem reopened (calls : List Call) (h : Admits called PublishesInOrder unborn calls) :
    ∀ content ∈ (run called unborn calls).file, ∃ s, readState content = .ok s ∧
      validateState s = none ∧ ∀ oldest ∈ s.pending.items.head?, oldest.validate = none ∧
        ∃ encoded, oldest.encode = .ok encoded := by
  intro content hcontent
  have hsteady := run_invariant_of_admits (fun d call hd hcall => called_openable hd hcall)
    unborn_steady h
  obtain ⟨s, hs⟩ := hsteady.readable content hcontent
  have hloaded : (run called unborn calls).loaded = some s := by
    rw [Daemon.loaded, hcontent]
    show (readState content).toOption = _
    rw [hs]
    rfl
  have hopenable := hsteady.states s (Daemon.mem_states.2 (.inr hloaded))
  exact ⟨s, hs, hopenable.validateState, hopenable.encodes⟩

namespace Reopened

open Observation.Sample

/-- Three observations under a limit of one, the clock set back by a minute
between the first two. -/
def setBack : List Call :=
  [.start limits now .done, .enqueue machine health [] now .done,
    .enqueue machine health [] (now - 60000000000) .done,
    .enqueue machine health [] (now - 30000000000) .done]

/-- The range of the two discarded observations ends before it begins, and the
next start refuses the file. -/
theorem refused_by_the_next_start : ¬ ∀ calls, ∀ content ∈ (run called unborn calls).file,
    ∃ s, readState content = .ok s ∧ validateState s = none ∧
      ∀ oldest ∈ s.pending.items.head?, oldest.validate = none ∧
        ∃ encoded, oldest.encode = .ok encoded := by
  intro hclaim
  have hrefused : (run called unborn setBack).loaded.bind validateState =
      some "gap observation interval is invalid" := by decide +kernel
  obtain ⟨loaded, hloaded, hreason⟩ := Option.bind_eq_some_iff.1 hrefused
  obtain ⟨content, hcontent, hread⟩ := Option.bind_eq_some_iff.1 hloaded
  obtain ⟨s, hs, haccepted, -⟩ := hclaim setBack content hcontent
  rw [hs] at hread
  obtain rfl : s = loaded := Option.some.inj hread
  rw [haccepted] at hreason
  cases hreason

/-- The same with a clock that goes on, the ranges offered and confirmed. -/
def goesOn : List Call :=
  [.start limits now .done, .enqueue machine health [] now .done,
    .enqueue machine health [] (now + 30000000000) .done,
    .enqueue machine health [] (now + 60000000000) .done, .peek .done,
    .acknowledge 3 (now + 61000000000) .done,
    .setDeliveryState deliveryAvailable (now + 62000000000) .done]

theorem goesOn_reopened :
    Admits called PublishesInOrder unborn goesOn ∧
      ∀ content ∈ (run called unborn goesOn).file, ∃ s, readState content = .ok s ∧
        validateState s = none ∧ ∀ oldest ∈ s.pending.items.head?, oldest.validate = none ∧
          ∃ encoded, oldest.encode = .ok encoded := by
  have hadmits : Admits called PublishesInOrder unborn goesOn := by decide +kernel
  exact ⟨hadmits, reopened goesOn hadmits⟩

end Reopened

end YourCloud.Observation
