import YourCloud.Observation.Orderly

/-!
# Offering the oldest observation

The limits are enforced on a queue whose ranges stand beside the observations.
Before the oldest observation is offered it takes the ranges up, and in that
form the queue is ten bytes longer: within ten bytes of the limit it cannot be
published, and nothing is offered until an observation more is discarded.

With a clock that is never set back every range is an interval, so nothing but
the two lengths keeps the oldest observation from being offered.

## Main results

* `called_timely` — with a clock that goes on, a call keeps every range an
  interval.
* `peek_offers_iff` — when the oldest observation can be offered, after any run.
-/

namespace YourCloud.Observation

open YourCloud.Foundation

/-! ## Times in order -/

/-- The times of a state: when each range began, then when each pending
observation was made. -/
def State.times (s : State) : List Bytes :=
  s.skipped.map Gap.firstObservedAt ++ s.pending.items.map Envelope.observedAt

/-- A state whose times are in order and before all that the clock will say. -/
structure Timely (clocks : List Instant) (s : State) : Prop where
  orderly : Orderly s
  sorted : s.times.Pairwise fun first last => inOrder first last = true
  past : ∀ time ∈ s.times, ∃ t, Rfc3339.parse time = some t ∧ ∀ clock ∈ clocks, t ≤ clock

section Times

variable {s c : State} {clocks : List Instant} {oldest : Envelope} {rest : List Envelope}

/-- A candidate without new times. -/
theorem Timely.sublist (hs : Timely clocks s) (hc : Orderly c)
    (hsub : c.times.Sublist s.times) : Timely clocks c where
  orderly := hc
  sorted := hs.sorted.sublist hsub
  past time htime := hs.past time (hsub.subset htime)

theorem SameQueue.times (h : SameQueue s c) : c.times = s.times := by
  rw [State.times, State.times, h.skipped, h.pending]

theorem acknowledged_times (hs : Orderly s) (hpending : s.pending.items = oldest :: rest)
    (deliveredAt : Instant) : (acknowledged deliveredAt s rest).times.Sublist s.times := by
  have hleaves : Leaves s (acknowledged deliveredAt s rest) rest := acknowledged_leaves deliveredAt
  have hgaps : (acknowledged deliveredAt s rest).gaps.items = s.gaps.items := Slice.items_fresh _
  rw [State.times, State.times, hleaves.beside hs.lined hpending, hgaps, hleaves.pending,
    hpending]
  apply List.Sublist.append
  · exact (List.sublist_append_right _ _).map _
  · exact List.sublist_cons_self _ _

theorem attached_times (hs : Orderly s) (hpending : s.pending.items = oldest :: rest)
    (hgaps : s.gaps.items ≠ []) : (attached s oldest rest).times = s.times := by
  have hbare := hs.lined.bare_oldest hpending hgaps
  rw [State.times, State.times, State.skipped, State.skipped, hpending]
  show List.map _ (s.gaps.items ++ []) ++ _ = List.map _ (oldest.gaps ++ s.gaps.items) ++ _
  rw [hbare, List.append_nil, List.nil_append]
  rfl

/-- What is discarded is the front of the queue. -/
theorem discardedFrom_starts {limits : Limits} {now : Instant} {pending gone : List Envelope}
    (h : discardedFrom limits now pending s = some gone) : gone <+: pending := by
  induction pending generalizing s gone with
  | nil =>
      rw [discardedFrom] at h
      split at h
      · cases h
      · rw [← Option.some.inj h]
  | cons oldest rest ih =>
      rw [discardedFrom] at h
      split at h
      · cases h
      · split at h
        · rw [← Option.some.inj h]
          exact List.nil_prefix
        · obtain ⟨gone', hgone', rfl⟩ := Option.map_eq_some_iff.1 h
          exact List.cons_prefix_cons.2 ⟨rfl, ih hgone'⟩

theorem inOrder_refl {time : Bytes} {t : Instant} (h : Rfc3339.parse time = some t) :
    inOrder time time = true := by
  rw [inOrder, h]
  exact decide_eq_true (le_refl t)

/-- Where the times are in order, what is discarded last is not older than the
range it ends. -/
theorem Timely.ends (hs : Timely clocks s) {gone : List Envelope}
    (h : gone <+: s.pending.items) : EndsInOrder s gone := by
  intro oldest holdest newest hnewest
  obtain ⟨more, hpending⟩ := h
  have hmem : newest ∈ s.pending.items := by
    rw [← hpending]
    exact List.mem_append_left _ (List.mem_of_getLast? hnewest)
  have htimes := List.pairwise_append.1 hs.sorted
  have hself : inOrder oldest.observedAt newest.observedAt = true := by
    obtain ⟨rest, rfl⟩ := List.head?_eq_some_iff.1 holdest
    rw [← hpending, List.cons_append, List.map_cons, List.pairwise_cons] at htimes
    rw [← hpending, List.cons_append, List.mem_cons] at hmem
    rcases hmem with rfl | hmem
    · obtain ⟨t, ht⟩ := observedAt_of_validate (hs.orderly.lined.valid newest
        (by rw [← hpending]; exact List.mem_cons_self))
      exact inOrder_refl ht
    · exact htimes.2.1.1 _ (List.mem_map_of_mem hmem)
  unfold State.began
  split
  · rename_i gap hgap
    split
    · exact htimes.2.2 _ (List.mem_map_of_mem (List.mem_of_getLast? hgap)) _
        (List.mem_map_of_mem hmem)
    · exact hself
  · exact hself

theorem enforce_timely {limits : Limits} {now : Instant} {s' : State} (hs : Timely clocks s)
    (h : enforce limits now s = .ok s') : Timely clocks s' := by
  have horderly := enforce_orderly hs.orderly h
    fun gone hgone => hs.ends (discardedFrom_starts hgone)
  obtain ⟨before, first, range, hranged⟩ := hs.orderly.ranged
  obtain ⟨gone, hgone, hs', hcases⟩ := enforceFrom_ranged hs.orderly.lined hranged rfl h
  rcases hcases with ⟨-, rfl⟩ | ⟨oldest, newest, -, -, hhead, hleft, hranged'⟩
  · exact hs
  · apply hs.sublist horderly
    obtain ⟨rest, hpending⟩ := List.head?_eq_some_iff.1 hhead
    rw [hpending] at hleft
    have hrest : s'.pending.items.Sublist rest := hleft.sublist
    rw [State.times, State.times, hranged'.skipped, hranged.skipped, hpending, List.map_append,
      List.map_append, List.append_assoc, List.append_assoc]
    apply List.Sublist.append (List.Sublist.refl _)
    -- The range that grew began where it did, or with the first discarded observation.
    rcases hranged.spans with ⟨-, rfl⟩ | ⟨gap, rfl, -⟩
    · exact (hrest.map Envelope.observedAt).cons_cons oldest.observedAt
    · exact ((hrest.map Envelope.observedAt).cons oldest.observedAt).cons_cons
        gap.firstObservedAt

theorem appended_timely {machineID : Bytes} {now : Instant} {health : HostHealth}
    {external : List ExternalReading} {envelope : Envelope} (hs : Timely (now :: clocks) s)
    (hclock : ∀ clock ∈ clocks, now ≤ clock)
    (h : newEnvelope machineID s.nextSequence now health external = .ok envelope) :
    Timely clocks (appended s envelope) := by
  obtain ⟨hfields, hvalid⟩ := newEnvelope_ok h
  have hobserved : envelope.observedAt = Rfc3339.format now := by rw [hfields]
  have hparse : Rfc3339.parse envelope.observedAt = some now := by
    obtain ⟨t, ht⟩ := observedAt_of_validate hvalid
    rw [hobserved] at ht ⊢
    exact Rfc3339.parse_format (Rfc3339.writable_of_parse_format ht)
  have htimes : (appended s envelope).times = s.times ++ [envelope.observedAt] := by
    rw [State.times, State.times, appended_skipped h, List.append_assoc]
    show _ ++ List.map _ (s.pending.items ++ [envelope]) = _
    rw [List.map_append]
    rfl
  constructor
  · exact appended_orderly hs.orderly h
  · rw [htimes, List.pairwise_append]
    refine ⟨hs.sorted, List.pairwise_singleton _ _, fun time htime last hlast => ?_⟩
    obtain ⟨t, ht, hpast⟩ := hs.past time htime
    rw [List.mem_singleton.1 hlast, inOrder, ht, hparse]
    exact decide_eq_true (hpast now List.mem_cons_self)
  · rw [htimes]
    intro time htime
    rcases List.mem_append.1 htime with htime | htime
    · obtain ⟨t, ht, hpast⟩ := hs.past time htime
      exact ⟨t, ht, fun clock hclock => hpast clock (List.mem_cons_of_mem _ hclock)⟩
    · rw [List.mem_singleton.1 htime]
      exact ⟨now, hparse, hclock⟩

theorem Timely.weaken {fewer : List Instant} (hs : Timely clocks s)
    (h : ∀ clock ∈ fewer, clock ∈ clocks) : Timely fewer s where
  orderly := hs.orderly
  sorted := hs.sorted
  past time htime := by
    obtain ⟨t, ht, hpast⟩ := hs.past time htime
    exact ⟨t, ht, fun clock hclock => hpast clock (h clock hclock)⟩

end Times

/-! ## Runs -/

/-- What a call read from the clock. -/
def Call.clock : Call → Option Instant
  | .start _ now _ => some now
  | .stop => none
  | .enqueue _ _ _ now _ => some now
  | .peek _ => none
  | .acknowledge _ deliveredAt _ => some deliveredAt
  | .setDeliveryState _ changedAt _ => some changedAt

/-- The clock is never set back. -/
def Monotone (calls : List Call) : Prop := (calls.filterMap Call.clock).Pairwise (· ≤ ·)

instance (calls : List Call) : Decidable (Monotone calls) :=
  inferInstanceAs (Decidable (List.Pairwise _ _))

theorem initialState_timely (clocks : List Instant) : Timely clocks initialState where
  orderly := initialState_orderly
  sorted := List.Pairwise.nil
  past := fun _ htime => absurd htime List.not_mem_nil

section Calls

variable {d : Daemon} {clocks : List Instant}

theorem Daemon.Steady.imp {good better : State → Prop} (h : d.Steady good)
    (himp : ∀ s, good s → better s) : d.Steady better where
  states := fun s hs => himp s (h.states s hs)
  limits := h.limits
  readable := h.readable

/-- What a call that keeps the times of the state in hand publishes. -/
theorem commit_timely {limits : Limits} {c : State} (h : d.Steady (Timely clocks))
    (hlimits : validateLimits limits = none) (write : Write) (hc : Timely clocks c) :
    (commit limits write c d).2.Steady (Timely clocks) :=
  commit_steady h hlimits write fun _ => ⟨hc.orderly.lined.representable, hc⟩

/-- With a clock that goes on, a call keeps every range an interval. -/
theorem called_timely (call : Call) (h : d.Steady (Timely (call.clock.toList ++ clocks)))
    (hclock : ∀ now ∈ call.clock, ∀ clock ∈ clocks, now ≤ clock) :
    (next called d call).Steady (Timely clocks) := by
  have hsame : d.Steady (Timely clocks) := h.imp fun s hs =>
    hs.weaken fun clock hclock => List.mem_append_right _ hclock
  cases call with
  | start limits now write =>
      show Daemon.Steady _ (openAt limits now write d).2
      rcases openAt_cases limits now write d with
        hstopped | ⟨c, hlimits, hcommitted, ⟨-, rfl⟩ | ⟨loaded, hloaded, henforce⟩⟩
      · rw [hstopped]
        exact hsame.stopped
      · rw [hcommitted]
        exact commit_timely hsame.stopped hlimits write (initialState_timely clocks)
      · rw [hcommitted]
        have hgood := hsame.states loaded (Daemon.mem_states.2 (.inr hloaded))
        have hclone := (cloneState_same loaded).orderly hgood.orderly
          (cloneState_representable hgood.orderly.lined.representable)
        have htimely := hgood.sublist hclone (by rw [(cloneState_same loaded).times])
        exact commit_timely hsame.stopped hlimits write (enforce_timely htimely henforce)
  | stop => exact hsame.stopped
  | enqueue machineID health external now write =>
      show Daemon.Steady _ (enqueue machineID health external now write d).2
      rcases enqueue_cases machineID health external now write d with
        ⟨reason, hrefused⟩ | ⟨b, envelope, c, hb, hnew, henforce, hcommitted⟩
      · rw [hrefused]
        exact hsame
      · rw [hcommitted]
        have happended := appended_timely (h.buffer hb) (hclock now rfl) hnew
        exact commit_timely hsame (h.limits b hb) write (enforce_timely happended henforce)
  | peek write =>
      show Daemon.Steady _ (peek write d).2
      rcases peek_cases write d with
        ⟨reason, hrefused⟩ | ⟨b, hb, -, hsent⟩ | ⟨b, oldest, rest, hb, hpending, hgaps, hcommitted⟩
      · rw [hrefused]
        exact hsame
      · rw [hsent]
        exact hsame
      · rw [hcommitted]
        have hbuffer := hsame.buffer hb
        have horderly := attached_orderly hbuffer.orderly hpending hgaps
        have htimes := attached_times hbuffer.orderly hpending hgaps
        exact commit_timely hsame (h.limits b hb) write
          (hbuffer.sublist horderly (by rw [htimes]))
  | acknowledge sequence deliveredAt write =>
      show Daemon.Steady _ (acknowledge sequence deliveredAt write d).2
      rcases acknowledge_cases sequence deliveredAt write d with
        ⟨reason, hrefused⟩ | ⟨b, oldest, rest, hb, hpending, -, hcommitted⟩
      · rw [hrefused]
        exact hsame
      · rw [hcommitted]
        have hbuffer := hsame.buffer hb
        have horderly := acknowledged_orderly hbuffer.orderly hpending deliveredAt
        exact commit_timely hsame (h.limits b hb) write
          (hbuffer.sublist horderly (acknowledged_times hbuffer.orderly hpending deliveredAt))
  | setDeliveryState value changedAt write =>
      show Daemon.Steady _ (setDeliveryState value changedAt write d).2
      rcases setDeliveryState_cases value changedAt write d with
        hunchanged | ⟨b, hb, hvalue, -, hcommitted⟩
      · rw [hunchanged]
        exact hsame
      · rw [hcommitted]
        have hbuffer := hsame.buffer hb
        have hqueue := transitioned_same value changedAt b.state
        have horderly := hqueue.orderly hbuffer.orderly
          (transitioned_representable (deliveryState_valid hvalue) changedAt
            hbuffer.orderly.lined.representable)
        exact commit_timely hsame (h.limits b hb) write
          (hbuffer.sublist horderly (by rw [hqueue.times]))

theorem run_timely {calls : List Call} (hclock : Monotone calls)
    (h : d.Steady (Timely (calls.filterMap Call.clock))) :
    (run called d calls).Steady (Timely []) := by
  induction calls generalizing d with
  | nil => exact h
  | cons call calls ih =>
      have hsplit : (call :: calls).filterMap Call.clock =
          call.clock.toList ++ calls.filterMap Call.clock := by
        cases hcall : call.clock with
        | none => exact List.filterMap_cons_none hcall
        | some now => exact List.filterMap_cons_some hcall
      rw [Monotone, hsplit, List.pairwise_append] at hclock
      rw [hsplit] at h
      rw [run_cons]
      apply ih hclock.2.1
      apply called_timely call h
      intro now hnow clock hclock'
      exact hclock.2.2 now (Option.mem_toList.2 hnow) clock hclock'

end Calls

/-! ## Offering -/

theorem encodeOldest_ok_iff {s : State} {oldest : Envelope} {rest : List Envelope}
    (hpending : s.pending.items = oldest :: rest) (hvalid : oldest.validate = none) :
    (∃ offer, encodeOldest s = .ok offer) ↔ oldest.json.render.length ≤ maxMessageBytes := by
  rw [encodeOldest, hpending]
  dsimp only
  rw [Envelope.encode, hvalid]
  dsimp only
  by_cases hlength : maxMessageBytes < oldest.json.render.length
  · rw [if_pos hlength]
    exact iff_of_false (fun hoffer => nomatch hoffer) (not_le.2 hlength)
  · rw [if_neg hlength]
    exact iff_of_true ⟨_, rfl⟩ (not_lt.1 hlength)

/-- The oldest observation of a Daemon with the ranges beside it. -/
theorem peek_attaches {d : Daemon} {b : Buffer} {oldest : Envelope} {rest : List Envelope}
    (hb : d.buffer = some b) (hpending : b.state.pending.items = oldest :: rest)
    (hgaps : b.state.gaps.items ≠ []) :
    (peek .done d).1 =
      if b.limits.maxBytes < (attached b.state oldest rest).encode.length then
        .error "buffer state exceeds its byte limit"
      else encodeOldest (attached b.state oldest rest) := by
  rw [peek, hb]
  dsimp only
  rw [hpending]
  dsimp only
  rw [if_neg (fun hempty => hgaps (List.isEmpty_iff.1 hempty)), commit]
  by_cases hlength : b.limits.maxBytes < (attached b.state oldest rest).encode.length
  · rw [if_pos hlength, if_pos hlength]
  · rw [if_neg hlength, if_neg hlength]

/-- After any run with a clock that is never set back, `peek` offers the oldest
observation exactly where it has no ranges to take up, or ten bytes are free for
them, and it fits into a message with them. -/
theorem peek_offers_iff (calls : List Call) (hclock : Monotone calls) :
    ∀ b ∈ (run called unborn calls).buffer, ∀ oldest ∈ b.state.pending.items.head?,
      ((∃ offer, (peek .done (run called unborn calls)).1 = .ok offer) ↔
        (b.state.gaps.items = [] ∨ b.state.encode.length + 10 ≤ b.limits.maxBytes) ∧
          ({ oldest with gaps := oldest.gaps ++ b.state.gaps.items } :
            Envelope).json.render.length ≤ maxMessageBytes) := by
  intro b hb oldest holdest
  have hsteady := run_timely hclock unborn_steady
  have horderly := (hsteady.buffer hb).orderly
  obtain ⟨rest, hpending⟩ := List.head?_eq_some_iff.1 holdest
  by_cases hgaps : b.state.gaps.items = []
  · have hoffer : (peek .done (run called unborn calls)).1 = encodeOldest b.state := by
      rw [peek, hb]
      dsimp only
      rw [hpending, hgaps]
      rfl
    have hvalid := horderly.lined.valid oldest (List.mem_of_mem_head? holdest)
    rw [hoffer, encodeOldest_ok_iff hpending hvalid, hgaps, List.append_nil]
    exact (and_iff_right (.inl rfl)).symm
  · have hbare := horderly.lined.bare_oldest hpending hgaps
    have hattached := attached_orderly horderly hpending hgaps
    have hvalid := hattached.lined.valid _ List.mem_cons_self
    rw [peek_attaches hb hpending hgaps, attached_length hpending hbare hgaps, hbare,
      List.nil_append]
    by_cases hlength : b.limits.maxBytes < (b.state.encode.length + 10 : Nat)
    · rw [if_pos hlength]
      apply iff_of_false
      · exact fun hoffer => nomatch hoffer
      · rintro ⟨hnone | hroom, -⟩
        · exact hgaps hnone
        · omega
    · rw [if_neg hlength, encodeOldest_ok_iff rfl hvalid]
      exact (and_iff_right (.inr (by omega))).symm

namespace Offered

open Observation.Sample

/-- Two observations under a limit of one, far from the limit of bytes. -/
def roomy : List Call :=
  [.start limits now .done, .enqueue machine health [] now .done,
    .enqueue machine health [] (now + 30000000000) .done]

theorem roomy_offered : Monotone roomy ∧ ∃ b ∈ (run called unborn roomy).buffer,
    ∃ oldest ∈ b.state.pending.items.head?,
      ((∃ offer, (peek .done (run called unborn roomy)).1 = .ok offer) ↔
        (b.state.gaps.items = [] ∨ b.state.encode.length + 10 ≤ b.limits.maxBytes) ∧
          ({ oldest with gaps := oldest.gaps ++ b.state.gaps.items } :
            Envelope).json.render.length ≤ maxMessageBytes) := by
  have hclock : Monotone roomy := by decide
  have hreached : ∃ b ∈ (run called unborn roomy).buffer,
      ∃ oldest ∈ b.state.pending.items.head?, oldest.sequence = 2 := by decide +kernel
  obtain ⟨b, hb, oldest, holdest, -⟩ := hreached
  exact ⟨hclock, b, hb, oldest, holdest, peek_offers_iff roomy hclock b hb oldest holdest⟩

/-! A machine with sixteen declared targets fills a queue of eleven. -/

def targets : List ExternalReading :=
  (List.range 16).map fun n => { probePort := 50001 + n, outcome := externalManaged }

def busy : HostHealth :=
  let most := some 18446744073709551615
  let pair := { status := statusOK, totalBytes := most, availableBytes := most, error := [] }
  { uptime := { status := statusOK, uptimeSeconds := most, error := [] }
    memory := pair
    rootFS := pair }

/-- Eleven records, and as many bytes as eleven of them take with one range. -/
def tight : Limits := { maxBytes := 16435, maxRecords := 11, maxAge := 3600000000000 }

def observed (n : Nat) : Envelope :=
  { schemaVersion, machineID := machine, daemonVersion, profile, sequence := n,
    observedAt := Rfc3339.format now, health := busy, gaps := [], external := targets }

def enqueues : Call := .enqueue machine busy targets now .done

def filling (k : Nat) : List Call := .start tight now .done :: List.replicate k enqueues

theorem filling_succ (k : Nat) :
    run called unborn (filling (k + 1)) = next called (run called unborn (filling k)) enqueues := by
  have hsplit : filling (k + 1) = filling k ++ [enqueues] := by
    rw [filling, filling, List.replicate_succ', List.cons_append]
  rw [hsplit, run_append, run_cons, run_nil]

/-- The queue after so many observations and one more, before the limits. -/
def filled (k : Nat) : State :=
  { schema := stateSchema, nextSequence := k + 2, current := some (observed (k + 1))
    pending := some ((List.range (k + 1)).map fun n => observed (n + 1)), gaps := none
    lastDelivered := [], deliveryState := deliveryUnknown, lastTransition := [] }

/-- What a call publishes that stays within the limits. -/
theorem enqueue_done {b : Buffer} {file : Option Bytes} {envelope : Envelope} {c : State}
    (hnew : newEnvelope machine b.state.nextSequence now busy targets = .ok envelope)
    (henforce : enforce b.limits now (appended b.state envelope) = .ok c)
    (hlength : (c.encode.length : Int) ≤ b.limits.maxBytes) :
    next called { buffer := some b, file } enqueues =
      { buffer := some { limits := b.limits, state := c }, file := some c.encode } := by
  show (enqueue machine busy targets now .done { buffer := some b, file }).2 = _
  rw [enqueue]
  dsimp only
  rw [hnew]
  dsimp only
  rw [henforce]
  dsimp only
  rw [commit, if_neg (not_lt.2 hlength)]

theorem newEnvelope_observed (n : Nat) (h : n ≠ 0) :
    newEnvelope machine n now busy targets = .ok (observed n) := by
  have hone : (observed 1).validate = none := by decide
  have hvalid : (observed n).validate = none := by
    simp only [Envelope.validate, Option.or_eq_none_iff] at hone ⊢
    obtain ⟨hschema, hmachine, hversion, hprofile, -, hrest⟩ := hone
    exact ⟨hschema, hmachine, hversion, hprofile, if_pos (decide_eq_true h), hrest⟩
  unfold newEnvelope
  dsimp only
  split
  · rename_i reason hreason
    exact absurd (hvalid.symm.trans hreason) (Option.some_ne_none reason).symm
  · rfl

theorem appended_filled (k : Nat) (hk : k < 100) :
    appended (filled k) (observed (k + 2)) = filled (k + 1) := by
  have hnext : wrap (k + 2 + 1) = k + 3 := Nat.mod_eq_of_lt (by omega)
  have hpending : (filled k).pending.items ++ [observed (k + 2)] =
      (List.range (k + 2)).map fun n => observed (n + 1) := by
    rw [List.range_succ, List.map_append]
    rfl
  have hcandidate : appended (filled k) (observed (k + 2)) =
      { filled k with
        nextSequence := wrap (k + 2 + 1)
        current := some (observed (k + 2))
        pending := some ((filled k).pending.items ++ [observed (k + 2)]) } := rfl
  rw [hcandidate, hnext, hpending]
  rfl

theorem observed_size_eq (n : Nat) : (observed n).json.size = 1348 + (Json.numeral n).size := by
  have hone : (observed 1).json.size = 1349 := by decide +kernel
  have hdigit : (Json.numeral 1).size = 1 := rfl
  rw [Envelope.json_size, Envelope.fields] at hone ⊢
  simp only [List.map_cons, List.sum_cons, Json.fieldSize_some, observed] at hone ⊢
  omega

theorem observed_size {n : Nat} (h : n < 100) : (observed n).json.size ≤ 1350 := by
  have hnumber : (Json.numeral n).size ≤ 2 := Json.size_numeral_le (by decide) (by omega)
  rw [observed_size_eq]
  omega

/-- The length of a queue that never delivered. -/
theorem undelivered_length {s : State} {current : Envelope} (hcurrent : s.current = some current)
    (hdelivered : s.lastDelivered = []) (htransition : s.lastTransition = []) :
    s.encode.length = (Json.numeralInt s.schema).size + (Json.numeral s.nextSequence).size +
      current.json.size + (Slice.json Envelope.json s.pending).size +
      (Slice.json Gap.json s.gaps).size + (Json.quoted true s.deliveryState).size + 76 := by
  have hnames : (text "schema").length = 6 ∧ (text "next_sequence").length = 13 ∧
      (text "current").length = 7 ∧ (text "pending").length = 7 ∧ (text "gaps").length = 4 ∧
      (text "delivery_state").length = 14 := by decide
  have hnone : Json.omitEmpty true [] = none := rfl
  show s.json.size = _
  rw [State.json_size, State.fields, hcurrent, hdelivered, htransition, hnone]
  simp only [List.map_cons, List.map_nil, List.sum_cons, List.sum_nil, Option.map_some,
    Json.fieldSize_some, Json.fieldSize_none]
  omega

theorem filled_length {k : Nat} (h : k ≤ 10) : (filled k).encode.length ≤ 16435 := by
  have hnumber : (Json.numeral (k + 2)).size ≤ 2 := Json.size_numeral_le (by decide) (by omega)
  have hcurrent := observed_size (n := k + 1) (by omega)
  have hpending : (Slice.json Envelope.json (filled k).pending).size ≤ (k + 1) * 1351 + 1 := by
    have hne : (List.range (k + 1)).map (fun n => observed (n + 1)) ≠ [] := by
      rw [ne_eq, List.map_eq_nil_iff, List.range_eq_nil]
      exact Nat.succ_ne_zero k
    have hone : ∀ n ∈ ((List.range (k + 1)).map fun n => observed (n + 1)).map
        (fun e => e.json.size + 1), n ≤ 1351 := by
      rw [List.map_map]
      intro n hn
      obtain ⟨m, hm, rfl⟩ := List.mem_map.1 hn
      have := List.mem_range.1 hm
      exact Nat.succ_le_succ (observed_size (by omega))
    have hsum := List.sum_le_card_nsmul _ 1351 hone
    rw [List.length_map, List.length_map, List.length_range, Nat.nsmul_eq_mul] at hsum
    show (Json.array _).size ≤ _
    rw [Json.size_array _ hne]
    exact Nat.succ_le_succ hsum
  have hconstants : (Json.numeralInt stateSchema).size = 1 ∧
      (Json.quoted true deliveryUnknown).size = 9 ∧ (Slice.json Gap.json none).size = 4 := by decide
  rw [undelivered_length (s := filled k) rfl rfl rfl]
  dsimp only [filled] at hpending ⊢
  omega

theorem filled_fits {k : Nat} (h : k ≤ 10) :
    ((filled k).encode.length : Int) ≤ tight.maxBytes := Int.ofNat_le.2 (filled_length h)

/-- The observations after the oldest one. -/
def younger (k : Nat) : List Envelope := (List.range k).map fun n => observed (n + 2)

theorem filled_pending (k : Nat) : (filled k).pending.items = observed 1 :: younger k := by
  show (List.range (k + 1)).map (fun n => observed (n + 1)) = _
  rw [List.range_succ_eq_map, List.map_cons, List.map_map]
  rfl

theorem parse_observed (n : Nat) : Rfc3339.parse (observed n).observedAt = some now :=
  Rfc3339.parse_format (by decide)

theorem enforce_filled {k : Nat} (h : k ≤ 10) : enforce tight now (filled k) = .ok (filled k) := by
  have hage : ¬ now < now - tight.maxAge := by decide
  have hcount : ((younger k).length + 1 : Int) ≤ 11 := by
    rw [younger, List.length_map, List.length_range]
    omega
  rw [enforce, filled_pending, enforceFrom, parse_observed]
  exact if_pos ⟨hage, hcount, filled_fits h⟩

/-- Up to eleven observations are kept. -/
theorem filling_filled {k : Nat} (h : k ≤ 10) : run called unborn (filling (k + 1)) =
    { buffer := some { limits := tight, state := filled k }, file := some (filled k).encode } := by
  induction k with
  | zero =>
      have hstart : run called unborn (filling 0) =
          { buffer := some { limits := tight, state := initialState }
            file := some initialState.encode } := by decide
      have happended : appended initialState (observed 1) = filled 0 := rfl
      rw [filling_succ, hstart]
      apply enqueue_done (newEnvelope_observed 1 Nat.one_ne_zero)
      · rw [happended]
        exact enforce_filled (Nat.zero_le _)
      · exact filled_fits (Nat.zero_le _)
  | succ k ih =>
      rw [filling_succ, ih (by omega)]
      apply enqueue_done (newEnvelope_observed (k + 2) (Nat.succ_ne_zero _))
      · rw [appended_filled k (by omega)]
        exact enforce_filled h
      · exact filled_fits h

/-- The queue of the last eleven observations, with a range of one before them. -/
def full : State := dropOldest (filled 11) (observed 1) (younger 11)

theorem full_length : full.encode.length = 16435 := by
  have hnewest : full.current = some (observed 12) := rfl
  have hcurrent : (observed 12).json.size = 1350 := observed_size_eq 12
  have hpending : (Slice.json Envelope.json full.pending).size = 14854 := by
    have hsizes : (younger 11).map (fun e => e.json.size + 1) =
        (List.range 11).map fun n => 1348 + (Json.numeral (n + 2)).size + 1 := by
      rw [younger, List.map_map]
      exact List.map_congr_left fun n _ => congrArg Nat.succ (observed_size_eq (n + 2))
    have hne : younger 11 ≠ [] := List.cons_ne_nil (observed 2) _
    show (Json.array ((younger 11).map Envelope.json)).size = _
    rw [Json.size_array Envelope.json hne, hsizes]
    decide
  have hgaps : (Slice.json Gap.json full.gaps).size = 143 := by decide +kernel
  have hrest : (Json.numeralInt full.schema).size = 1 ∧ (Json.numeral full.nextSequence).size = 2 ∧
      (Json.quoted true full.deliveryState).size = 9 := by decide
  rw [undelivered_length hnewest rfl rfl, hcurrent, hpending,
    hgaps, hrest.1, hrest.2.1, hrest.2.2]

theorem filling_full : run called unborn (filling 12) =
    { buffer := some { limits := tight, state := full }, file := some full.encode } := by
  have hlength : (full.encode.length : Int) ≤ 16435 := by rw [full_length]; decide
  have henforce : enforce tight now (filled 11) = .ok full := by
    have hage : ¬ now < now - tight.maxAge := by decide
    have hyounger : younger 11 = observed 2 :: (List.range 10).map fun n => observed (n + 3) := rfl
    rw [enforce, filled_pending, enforceFrom, parse_observed]
    dsimp only
    rw [if_neg (by decide), ← full, hyounger, enforceFrom, parse_observed]
    exact if_pos ⟨hage, by decide, hlength⟩
  rw [filling_succ 11, filling_filled (le_refl 10)]
  apply enqueue_done (newEnvelope_observed 12 (by decide))
  · rw [appended_filled 10 (by decide)]
    exact henforce
  · exact hlength

/-- The queue is within its limit, and its oldest observation is not offered. -/
theorem within_the_limit_not_offered : ¬ ∀ calls, Monotone calls →
    ∀ b ∈ (run called unborn calls).buffer, b.state.pending.items ≠ [] →
      ∃ offer, (peek .done (run called unborn calls)).1 = .ok offer := by
  intro hclaim
  have hclock : Monotone (filling 12) := by decide
  have hpending : full.pending.items = observed 2 :: (List.range 10).map fun n => observed (n + 3) :=
    rfl
  have hbuffer : (run called unborn (filling 12)).buffer =
      some { limits := tight, state := full } := by rw [filling_full]
  have hgaps : full.gaps.items ≠ [] := List.cons_ne_nil _ _
  have hne : full.pending.items ≠ [] := by
    rw [hpending]
    exact List.cons_ne_nil _ _
  obtain ⟨offer, hoffer⟩ := hclaim (filling 12) hclock _ hbuffer hne
  rw [peek_attaches hbuffer hpending hgaps, attached_length hpending rfl hgaps, full_length] at hoffer
  cases hoffer

end Offered

end YourCloud.Observation
