import YourCloud.Controller.RelayCache
import Mathlib.Logic.Function.Basic

/-!
# Reading the Relay for several callers at once

Callers of one reader share an exchange with the Relay, the cache that an exchange
commits to, and the delay after one that failed.  A caller that asks for what the
Relay said after an instant takes what is there only where the exchange behind it
began late enough; otherwise it waits for an exchange in flight, or makes its own.

A caller runs from one section under the lock to the next.  Between two of them, and
between its exchange and its answer, any other caller may run, and the clock goes on.

## Main results

* `advance_cases` — what one step of a caller does to what is shared.
* `Sound.step` — the invariant of the reader and of every caller.
* `read_fresh` — where what a caller is answered with comes from.
-/

namespace YourCloud.Controller

open YourCloud.Foundation

/-! ## Data -/

inductive RelayStatus where
  | available
  | unavailable
  | clockUntrusted
  deriving DecidableEq, Repr

/-- A reading of the monotonic clock, in nanoseconds from the zero time. -/
abbrev Moment := Int

/-- `time.Time{}` -/
def zeroTime : Moment := 0

structure ClockSample where
  civil : Instant
  monotonic : Moment
  deriving DecidableEq, Repr

def second : Int := 1000000000

/-- How long an answer serves callers that ask for no instant. -/
def readerReuseWindow : Int := 5 * second

/-- What a caller is answered with. -/
structure Outcome where
  snapshot : Option RelaySnapshot
  status : RelayStatus
  problem : Option String
  deriving DecidableEq, Repr

/-! ## One exchange -/

/-- A response of the Relay; of a refusal, what is wrong with its document. -/
structure RelayResponse where
  statusCode : Nat
  problem : Option String
  contentType : Bytes
  cacheControl : Bytes
  contentEncoding : Bytes
  transferEncoding : List Bytes
  contentLength : Int
  body : Option Bytes
  deriving DecidableEq, Repr

/-- What becomes of a request. -/
inductive Exchange where
  | noBudget
  | unreachable (reason : String)
  | answered (start finish : ClockSample) (response : RelayResponse)
  deriving DecidableEq, Repr

/-- Whether the clocks ran together over the exchange, and the snapshot is of its time. -/
def validateFreshness (start finish : ClockSample) (snapshot : RelaySnapshot) : Bool :=
  let monotonicDuration := finish.monotonic - start.monotonic
  let wallDuration := finish.civil - start.civil
  if monotonicDuration < 0 ∨ 6 * second < monotonicDuration ∨
      second < |wallDuration - monotonicDuration| then false
  else
    match parseCanonicalUTC snapshot.snapshotAt with
    | .error _ => false
    | .ok snapshotAt =>
        ¬ (snapshotAt < finish.civil - 30 * second ∨ start.civil + 30 * second < snapshotAt)

/-- An error of an exchange, with the status it leaves. -/
abbrev RelayFailure := RelayStatus × String

/-- The snapshot of a response, before it is committed. -/
def receiveSnapshot (cache : RelayCacheStore) (start finish : ClockSample)
    (response : RelayResponse) : Except RelayFailure RelaySnapshot :=
  if response.statusCode ≠ 200 then
    .error (.unavailable, response.problem.getD "Relay refused the snapshot request")
  else if response.contentType ≠ text "application/json" ∨
      response.cacheControl ≠ text "no-store" ∨ response.contentEncoding ≠ [] ∨
      response.transferEncoding ≠ [] ∨ response.contentLength < 0 ∨
      (maxRelaySnapshotBytes : Int) < response.contentLength then
    .error (.unavailable, "Relay response envelope is invalid")
  else
    match response.body.map fun body => body.take (maxRelaySnapshotBytes + 1) with
    | none => .error (.unavailable, "Relay response body is truncated or outside its bound")
    | some body =>
        if maxRelaySnapshotBytes < body.length ∨ (body.length : Int) ≠ response.contentLength then
          .error (.unavailable, "Relay response body is truncated or outside its bound")
        else
          match decodeRelaySnapshot body cache.controllerID cache.infrastructureID with
          | .error problem => .error (.unavailable, problem.reason)
          | .ok snapshot =>
              if validateFreshness start finish snapshot then .ok snapshot
              else .error (.clockUntrusted, "Relay clock is not trustworthy")

/-- An exchange up to its commit, which may fail to write. -/
def perform (cache : RelayCacheStore) (written : Bool) :
    Exchange → RelayCacheStore × Except RelayFailure RelaySnapshot
  | .noBudget => (cache, .error (.unavailable, "external request has no safe Relay budget"))
  | .unreachable reason => (cache, .error (.unavailable, reason))
  | .answered start finish response =>
      match receiveSnapshot cache start finish response with
      | .error failure => (cache, .error failure)
      | .ok snapshot =>
          match cache.commit snapshot written with
          | (cache, .error problem) => (cache, .error (.unavailable, problem.reason))
          | (cache, .ok ()) => (cache, .ok snapshot)

/-! ## What is shared -/

/-- The fields of a reader under its lock.  A channel is known by its number. -/
structure RelayReader where
  inflight : Option Nat
  inflightStarted : Moment
  lastSuccess : Moment
  lastNetworkStart : Moment
  nextRetry : Moment
  failures : UInt8
  lastStatus : RelayStatus
  deriving DecidableEq, Repr

def newRelayReader : RelayReader :=
  { inflight := none, inflightStarted := zeroTime, lastSuccess := zeroTime,
    lastNetworkStart := zeroTime, nextRetry := zeroTime, failures := 0,
    lastStatus := .unavailable }

def RelayReader.canReuse (reader : RelayReader) (now freshAfter : Moment) : Bool :=
  if reader.lastStatus ≠ .available ∨ reader.lastSuccess = zeroTime then false
  else if freshAfter = zeroTime then now - reader.lastSuccess < readerReuseWindow
  else ¬ reader.lastNetworkStart < freshAfter

def nominalSeconds : List Int := [1, 2, 4, 8, 16, 30]

/-- The delay after so many failures, shortened by up to a fifth at random. -/
def backoffDelay (failures : UInt8) (random : Option UInt8) : Int :=
  let index := min (failures.toNat - 1) (nominalSeconds.length - 1)
  let percentage := random.elim 100 fun random => 80 + random % 21
  nominalSeconds.getD index 0 * second * percentage.toNat / 100

/-- What the callers of a reader share: the clock, the reader, its cache, how many channels
were made and which are closed.  What was committed is kept with when its exchange began,
the last one first. -/
structure Shared where
  clock : Moment
  reader : RelayReader
  cache : RelayCacheStore
  made : Nat
  closed : List Nat
  commits : List (Moment × RelaySnapshot)
  deriving DecidableEq, Repr

/-! ## A caller -/

/-- Where a caller stands. -/
inductive Phase where
  /-- at the top of the loop -/
  | reading
  /-- about to take the lock, with the time -/
  | sampled (now : Moment)
  /-- about to ask the cache -/
  | answering (status : RelayStatus) (problem : Option String)
  | waiting (pending : Nat) (compatible : Bool)
  /-- about to take the lock after a wait -/
  | woken
  | performing (pending : Nat) (started : Moment)
  /-- about to take the lock after an exchange -/
  | performed (pending : Nat) (started : Moment) (result : Except RelayFailure RelaySnapshot)
  | returned (outcome : Outcome)
  deriving DecidableEq, Repr

structure Call where
  freshAfter : Moment
  called : Moment
  phase : Phase
  deriving DecidableEq, Repr

/-- What a caller does next, with what it does not decide. -/
inductive Action where
  | sample
  | enter
  | cancel (reason : String)
  | wake
  | readStatus
  | exchange (written : Bool) (exchange : Exchange)
  | conclude (random : Option UInt8)
  | answer
  deriving Repr

/-- The section under the lock that begins a Read. -/
def enter (shared : Shared) (freshAfter now : Moment) : Shared × Phase :=
  let reader := shared.reader
  if reader.canReuse now freshAfter then (shared, .answering reader.lastStatus none)
  else if now < reader.nextRetry then
    (shared, .answering reader.lastStatus (some "Relay backoff is active"))
  else
    match reader.inflight with
    | some pending =>
        let compatible := freshAfter = zeroTime ∨ ¬ reader.inflightStarted < freshAfter
        (shared, .waiting pending compatible)
    | none =>
        let started := shared.clock
        ({ shared with
            reader := { reader with inflight := some shared.made, inflightStarted := started }
            made := shared.made + 1 },
          .performing shared.made started)

/-- The exchange of a caller.  What it commits is kept with when it began. -/
def exchangeWith (shared : Shared) (pending : Nat) (started : Moment) (written : Bool)
    (exchange : Exchange) : Shared × Phase :=
  match perform shared.cache written exchange with
  | (cache, .error failure) =>
      ({ shared with cache }, .performed pending started (.error failure))
  | (cache, .ok snapshot) =>
      ({ shared with cache, commits := (started, snapshot) :: shared.commits },
        .performed pending started (.ok (cloneRelaySnapshot snapshot)))

/-- The reader after an exchange. -/
def concludeReader (reader : RelayReader) (clock started : Moment) (random : Option UInt8) :
    Except RelayFailure RelaySnapshot → RelayReader
  | .ok _ =>
      { reader with
        lastNetworkStart := started, failures := 0, nextRetry := zeroTime, lastSuccess := clock,
        lastStatus := .available, inflight := none }
  | .error (status, _) =>
      { reader with
        lastNetworkStart := started, failures := reader.failures + 1
        nextRetry := clock + backoffDelay (reader.failures + 1) random
        lastStatus := status, inflight := none }

/-- The section under the lock that ends an exchange. -/
def conclude (shared : Shared) (pending : Nat) (started : Moment) (random : Option UInt8)
    (result : Except RelayFailure RelaySnapshot) : Shared × Phase :=
  let reader := concludeReader shared.reader shared.clock started random result
  ({ shared with reader, closed := pending :: shared.closed },
    match result with
    | .ok snapshot =>
        .returned { snapshot := some snapshot, status := .available, problem := none }
    | .error (status, reason) => .answering status (some reason))

/-- The answer of the cache.  After a problem a cache without a snapshot is no other. -/
def answerFrom (cache : RelayCacheStore) (status : RelayStatus) (problem : Option String) :
    Outcome :=
  match cache.snapshot with
  | .ok snapshot => { snapshot := some snapshot, status, problem }
  | .error reason =>
      { snapshot := none, status
        problem := problem.or (some (reason.elim "file does not exist" SnapshotProblem.reason)) }

/-- One step of a caller, where it can take it. -/
def advance (shared : Shared) (call : Call) : Action → Option (Shared × Phase)
  | .sample =>
      match call.phase with
      | .reading => some (shared, .sampled shared.clock)
      | _ => none
  | .enter =>
      match call.phase with
      | .sampled now => some (enter shared call.freshAfter now)
      | _ => none
  | .cancel reason =>
      match call.phase with
      | .waiting _ _ =>
          some (shared,
            .returned { snapshot := none, status := .unavailable, problem := some reason })
      | _ => none
  | .wake =>
      match call.phase with
      | .waiting pending compatible =>
          if pending ∈ shared.closed then some (shared, if compatible then .woken else .reading)
          else none
      | _ => none
  | .readStatus =>
      match call.phase with
      | .woken => some (shared, .answering shared.reader.lastStatus none)
      | _ => none
  | .exchange written exchange =>
      match call.phase with
      | .performing pending started => some (exchangeWith shared pending started written exchange)
      | _ => none
  | .conclude random =>
      match call.phase with
      | .performed pending started result => some (conclude shared pending started random result)
      | _ => none
  | .answer =>
      match call.phase with
      | .answering status problem =>
          some (shared, .returned (answerFrom shared.cache status problem))
      | _ => none

/-! ## The reader and its callers -/

structure ReaderState where
  shared : Shared
  callers : Nat → Option Call

/-- A Read begins, a caller goes on, or time passes. -/
inductive ReaderEvent where
  | call (caller : Nat) (freshAfter : Moment)
  | act (caller : Nat) (action : Action)
  | elapse (duration : Nat)
  deriving Repr

/-- Whether a caller is in no Read. -/
def Call.over (call : Call) : Bool :=
  match call.phase with
  | .returned _ => true
  | _ => false

def readerStep (s : ReaderState) : ReaderEvent → ReaderState × Unit
  | .call caller freshAfter =>
      if (s.callers caller).all Call.over then
        ({ s with
            callers := Function.update s.callers caller
              (some { freshAfter, called := s.shared.clock, phase := .reading }) }, ())
      else (s, ())
  | .act caller action =>
      match s.callers caller with
      | none => (s, ())
      | some call =>
          match advance s.shared call action with
          | none => (s, ())
          | some (shared, phase) =>
              ({ shared, callers := Function.update s.callers caller (some { call with phase }) },
                ())
  | .elapse duration =>
      ({ s with shared := { s.shared with clock := s.shared.clock + duration } }, ())

/-- A reader over a cache as it was loaded, before its first Read. -/
def openReader (clock : Nat) (cache : RelayCacheStore) : ReaderState :=
  { shared := { clock, reader := newRelayReader, cache, made := 0, closed := [], commits := [] }
    callers := fun _ => none }

/-! ## What one step does -/

/-- The exchange a caller is in, if it is in one. -/
def Phase.busy : Phase → Option (Nat × Moment)
  | .performing pending started => some (pending, started)
  | .performed pending started _ => some (pending, started)
  | _ => none

/-- The last commit is of an exchange that began no earlier than a moment, and the cache
holds a copy of it. -/
def Shared.Holds (shared : Shared) (moment : Moment) : Prop :=
  ∃ started committed rest, shared.commits = (started, committed) :: rest ∧
    shared.cache.state = some (cloneRelaySnapshot committed) ∧ moment ≤ started

/-- What a Read is answered with: a copy of what an exchange committed that began no earlier
than the instant asked for, or than the Read where that instant is still to come. -/
def Fresh (shared : Shared) (call : Call) (snapshot : RelaySnapshot) : Prop :=
  ∃ started committed, (started, committed) ∈ shared.commits ∧
    snapshot = cloneRelaySnapshot committed ∧ min call.freshAfter call.called ≤ started

/-- What holds of a caller, by where it stands. -/
def Phase.Sound (shared : Shared) (call : Call) : Phase → Prop
  | .reading => True
  | .sampled _ => True
  | .answering status problem => status = .available → problem = none →
      call.freshAfter = zeroTime ∨ shared.Holds call.freshAfter
  | .waiting pending compatible => compatible = true → call.freshAfter = zeroTime ∨
      (pending ∈ shared.closed ∧ call.freshAfter ≤ shared.reader.lastNetworkStart) ∨
      (pending ∉ shared.closed ∧ shared.reader.inflight = some pending ∧
        call.freshAfter ≤ shared.reader.inflightStarted)
  | .woken => call.freshAfter = zeroTime ∨
      call.freshAfter ≤ shared.reader.lastNetworkStart
  | .performing pending started => shared.reader.inflight = some pending ∧
      shared.reader.inflightStarted = started ∧ call.called ≤ started ∧
      pending ∉ shared.closed ∧ ∀ commit ∈ shared.commits, commit.1 ≤ started
  | .performed pending started result => shared.reader.inflight = some pending ∧
      shared.reader.inflightStarted = started ∧ call.called ≤ started ∧
      pending ∉ shared.closed ∧
      match result with
      | .ok snapshot => shared.Holds started ∧ Fresh shared call snapshot
      | .error (status, _) => status ≠ .available
  | .returned outcome => call.freshAfter ≠ zeroTime → outcome.status = .available →
      outcome.problem = none → ∀ snapshot ∈ outcome.snapshot, Fresh shared call snapshot

/-- What holds of what is shared. -/
structure Shared.Sound (shared : Shared) : Prop where
  inflight : ∀ pending, shared.reader.inflight = some pending →
    pending ∉ shared.closed ∧ pending < shared.made ∧
      shared.reader.lastNetworkStart ≤ shared.reader.inflightStarted ∧
      shared.reader.inflightStarted ≤ shared.clock
  network : shared.reader.lastNetworkStart ≤ shared.clock
  commits : ∀ commit ∈ shared.commits, commit.1 ≤ shared.clock
  closed : ∀ pending ∈ shared.closed, pending < shared.made
  available : shared.reader.lastStatus = .available →
    shared.Holds shared.reader.lastNetworkStart

/-- The invariant: of what is shared, of every caller, and of the one exchange in flight. -/
structure ReaderState.Sound (s : ReaderState) : Prop where
  shared : s.shared.Sound
  callers : ∀ caller call, s.callers caller = some call →
    call.called ≤ s.shared.clock ∧ call.phase.Sound s.shared call
  alone : ∀ caller other call otherCall, s.callers caller = some call →
    s.callers other = some otherCall → call.phase.busy ≠ none → otherCall.phase.busy ≠ none →
    caller = other

/-! ### What others see of it -/

/-- A change of what is shared that takes nothing from a caller in no exchange. -/
structure Shared.Follows (shared later : Shared) : Prop where
  clock : shared.clock ≤ later.clock
  holds : ∀ moment, shared.Holds moment → later.Holds moment
  commits : ∀ commit ∈ shared.commits, commit ∈ later.commits
  network : shared.reader.lastNetworkStart ≤ later.reader.lastNetworkStart
  /-- A channel that stays open is that of the exchange in flight, and one that closes
  leaves the exchange concluded. -/
  pending : ∀ pending, shared.reader.inflight = some pending → pending ∉ shared.closed →
    (pending ∉ later.closed ∧ later.reader.inflight = some pending ∧
      later.reader.inflightStarted = shared.reader.inflightStarted) ∨
    (pending ∈ later.closed ∧
      shared.reader.inflightStarted ≤ later.reader.lastNetworkStart)
  closed : ∀ pending ∈ shared.closed, pending ∈ later.closed

theorem Fresh.mono {shared later : Shared} {call : Call} {snapshot : RelaySnapshot}
    (h : Fresh shared call snapshot)
    (hcommits : ∀ commit ∈ shared.commits, commit ∈ later.commits) : Fresh later call snapshot := by
  obtain ⟨started, committed, hcommit, hcopy, hle⟩ := h
  exact ⟨started, committed, hcommits _ hcommit, hcopy, hle⟩

/-- What holds of a caller in no exchange goes on holding. -/
theorem Phase.Sound.mono {shared later : Shared} {call : Call} {phase : Phase}
    (h : phase.Sound shared call) (hidle : phase.busy = none) (hlater : shared.Follows later) :
    phase.Sound later call := by
  cases phase with
  | reading => trivial
  | sampled now => trivial
  | answering status problem =>
      intro hstatus hproblem
      exact (h hstatus hproblem).imp id (hlater.holds _)
  | waiting pending compatible =>
      intro hcompatible
      rcases h hcompatible with hzero | ⟨hclosed, hle⟩ | ⟨hopen, hinflight, hle⟩
      · exact .inl hzero
      · exact .inr (.inl ⟨hlater.closed pending hclosed, hle.trans hlater.network⟩)
      · rcases hlater.pending pending hinflight hopen with
          ⟨hopen', hinflight', hstarted⟩ | ⟨hclosed, hstarted⟩
        · exact .inr (.inr ⟨hopen', hinflight', hstarted ▸ hle⟩)
        · exact .inr (.inl ⟨hclosed, hle.trans hstarted⟩)
  | woken => exact h.imp id fun hle => hle.trans hlater.network
  | performing pending started => cases hidle
  | performed pending started result => cases hidle
  | returned outcome =>
      intro hfresh hstatus hproblem snapshot hsnapshot
      exact (h hfresh hstatus hproblem snapshot hsnapshot).mono hlater.commits

theorem Shared.Follows.refl (shared : Shared) : shared.Follows shared :=
  ⟨le_refl _, fun _ h => h, fun _ h => h, le_refl _,
    fun _ hinflight hopen => .inl ⟨hopen, hinflight, rfl⟩, fun _ h => h⟩

/-- A caller in no exchange leaves what is shared as it is, unless it begins one. -/
theorem advance_idle {shared later : Shared} {call : Call} {action : Action} {phase : Phase}
    (hidle : call.phase.busy = none) (hinflight : shared.reader.inflight ≠ none)
    (h : advance shared call action = some (later, phase)) :
    later = shared ∧ phase.busy = none := by
  obtain ⟨freshAfter, called, before⟩ := call
  obtain ⟨pending, hpending⟩ := Option.ne_none_iff_exists'.1 hinflight
  cases before with
  | performing pending started => cases hidle
  | performed pending started result => cases hidle
  | reading =>
      cases action <;> cases h
      exact ⟨rfl, rfl⟩
  | sampled now =>
      cases action <;> try cases h
      have h : enter shared freshAfter now = (later, phase) := Option.some.inj h
      unfold enter at h
      dsimp only at h
      rw [hpending] at h
      split at h
      · cases h
        exact ⟨rfl, rfl⟩
      · split at h
        · cases h
          exact ⟨rfl, rfl⟩
        · cases h
          exact ⟨rfl, rfl⟩
  | answering status problem =>
      cases action <;> cases h
      exact ⟨rfl, rfl⟩
  | waiting pending compatible =>
      cases action <;> try cases h
      · exact ⟨rfl, rfl⟩
      · simp only [advance] at h
        split at h
        · cases h
          exact ⟨rfl, by cases compatible <;> rfl⟩
        · cases h
  | woken =>
      cases action <;> cases h
      exact ⟨rfl, rfl⟩
  | returned outcome => cases action <;> cases h

/-! ### Under the lock -/

/-- Nothing is held of a commit before the first one. -/
theorem Shared.Sound.holds {shared : Shared} (h : shared.Sound)
    (hstatus : shared.reader.lastStatus = .available) {moment : Moment}
    (hle : moment ≤ shared.reader.lastNetworkStart) : shared.Holds moment := by
  obtain ⟨started, committed, rest, hcommits, hstate, hlast⟩ := h.available hstatus
  exact ⟨started, committed, rest, hcommits, hstate, hle.trans hlast⟩

/-- What an answer is taken from began late enough. -/
theorem canReuse_fresh {reader : RelayReader} {now freshAfter : Moment}
    (h : reader.canReuse now freshAfter = true) :
    freshAfter = zeroTime ∨ freshAfter ≤ reader.lastNetworkStart := by
  unfold RelayReader.canReuse at h
  split at h
  · cases h
  · split at h
    · rename_i hzero
      exact .inl hzero
    · exact .inr (not_lt.1 (of_decide_eq_true h))

/-- What a caller in no exchange and what is shared are left with by a step. -/
structure Advanced (shared later : Shared) (call : Call) (phase : Phase) : Prop where
  sound : later.Sound
  follows : shared.Follows later
  phase : phase.Sound later call

theorem enter_advanced {shared later : Shared} {call : Call} {now : Moment} {phase : Phase}
    (hshared : shared.Sound) (hcalled : call.called ≤ shared.clock)
    (h : enter shared call.freshAfter now = (later, phase)) :
    Advanced shared later call phase := by
  unfold enter at h
  dsimp only at h
  split at h
  · rename_i hreuse
    cases h
    refine ⟨hshared, .refl _, fun hstatus _ => ?_⟩
    exact (canReuse_fresh hreuse).imp id (hshared.holds hstatus)
  · split at h
    · cases h
      exact ⟨hshared, .refl _, fun _ hproblem => by cases hproblem⟩
    · split at h
      · rename_i pending hinflight
        cases h
        refine ⟨hshared, .refl _, fun hcompatible => ?_⟩
        rcases of_decide_eq_true hcompatible with hzero | hle
        · exact .inl hzero
        · exact .inr (.inr ⟨(hshared.inflight pending hinflight).1, hinflight, not_lt.1 hle⟩)
      · rename_i hinflight
        cases h
        have hfresh : shared.made ∉ shared.closed :=
          fun hmade => lt_irrefl _ (hshared.closed _ hmade)
        constructor
        · refine ⟨?_, hshared.network, hshared.commits, ?_, hshared.available⟩
          · intro pending hpending
            rw [← Option.some.inj hpending]
            exact ⟨hfresh, Nat.lt_succ_self _, hshared.network, le_refl _⟩
          · exact fun pending hpending => Nat.lt_succ_of_lt (hshared.closed pending hpending)
        · refine ⟨le_refl _, fun _ h => h, fun _ h => h, le_refl _, ?_, fun _ h => h⟩
          intro pending hpending
          rw [hinflight] at hpending
          cases hpending
        · exact ⟨rfl, rfl, hcalled, hfresh, hshared.commits⟩

/-- An exchange that fails leaves no status of an available Relay. -/
theorem receive_failure {cache : RelayCacheStore} {start finish : ClockSample}
    {response : RelayResponse} {failure : RelayFailure}
    (h : receiveSnapshot cache start finish response = .error failure) :
    failure.1 ≠ .available := by
  unfold receiveSnapshot at h
  split at h
  · cases h
    exact nofun
  · split at h
    · cases h
      exact nofun
    · split at h
      · cases h
        exact nofun
      · split at h
        · cases h
          exact nofun
        · split at h
          · cases h
            exact nofun
          · split at h
            · cases h
            · cases h
              exact nofun

/-- A commit is a copy of a candidate, or leaves the cache. -/
theorem perform_cases (cache : RelayCacheStore) (written : Bool) (exchange : Exchange) :
    (∃ failure, perform cache written exchange = (cache, .error failure) ∧
      failure.1 ≠ .available) ∨
    ∃ later snapshot, perform cache written exchange = (later, .ok snapshot) ∧
      later.state = some (cloneRelaySnapshot snapshot) := by
  cases exchange with
  | noBudget => exact .inl ⟨_, rfl, nofun⟩
  | unreachable reason => exact .inl ⟨_, rfl, nofun⟩
  | answered start finish response =>
      unfold perform
      dsimp only
      split
      · rename_i failure hfailure
        exact .inl ⟨failure, rfl, receive_failure hfailure⟩
      · rename_i snapshot hsnapshot
        unfold RelayCacheStore.commit
        cases cache.refuses snapshot with
        | some problem => exact .inl ⟨_, rfl, nofun⟩
        | none =>
            cases written with
            | false => exact .inl ⟨_, rfl, nofun⟩
            | true => exact .inr ⟨_, snapshot, rfl, rfl⟩

/-- A moment that the last commit reaches is reached by a later one. -/
theorem exchange_advanced {shared later : Shared} {call : Call} {pending : Nat} {started : Moment}
    {written : Bool} {exchange : Exchange} {phase : Phase} (hshared : shared.Sound)
    (hphase : (Phase.performing pending started).Sound shared call)
    (h : exchangeWith shared pending started written exchange = (later, phase)) :
    Advanced shared later call phase := by
  obtain ⟨hinflight, hstarted, hcalled, hopen, hcommits⟩ := hphase
  obtain ⟨-, -, hnetwork, hclock⟩ := hshared.inflight pending hinflight
  unfold exchangeWith at h
  rcases perform_cases shared.cache written exchange with
    ⟨failure, heq, hfailure⟩ | ⟨cache, snapshot, heq, hstate⟩
  · rw [heq] at h
    cases h
    exact ⟨hshared, .refl _, hinflight, hstarted, hcalled, hopen, hfailure⟩
  · rw [heq] at h
    cases h
    have hholds : ∀ moment, moment ≤ started → Shared.Holds
        { shared with cache, commits := (started, snapshot) :: shared.commits } moment :=
      fun moment hle => ⟨started, snapshot, shared.commits, rfl, hstate, hle⟩
    have hafter : ∀ moment, shared.Holds moment → moment ≤ started := by
      rintro moment ⟨earlier, committed, rest, hlist, -, hle⟩
      apply hle.trans
      apply hcommits (earlier, committed)
      rw [hlist]
      exact List.mem_cons_self
    constructor
    · refine ⟨hshared.inflight, hshared.network, ?_, hshared.closed, ?_⟩
      · intro commit hcommit
        rcases List.mem_cons.1 hcommit with rfl | hcommit
        · exact hstarted ▸ hclock
        · exact hshared.commits commit hcommit
      · exact fun hstatus => hholds _ (hafter _ (hshared.available hstatus))
    · exact ⟨le_refl _, fun moment hmoment => hholds moment (hafter moment hmoment),
        fun commit hcommit => List.mem_cons_of_mem _ hcommit, le_refl _,
        fun _ hpending hunclosed => .inl ⟨hunclosed, hpending, rfl⟩, fun _ hclosed => hclosed⟩
    · refine ⟨hinflight, hstarted, hcalled, hopen, hholds started (le_refl _), ?_⟩
      exact ⟨started, snapshot, List.mem_cons_self, rfl, (min_le_right _ _).trans hcalled⟩

theorem conclude_advanced {shared later : Shared} {call : Call} {pending : Nat} {started : Moment}
    {random : Option UInt8} {result : Except RelayFailure RelaySnapshot} {phase : Phase}
    (hshared : shared.Sound) (hphase : (Phase.performed pending started result).Sound shared call)
    (h : conclude shared pending started random result = (later, phase)) :
    Advanced shared later call phase := by
  obtain ⟨hinflight, hstarted, hcalled, hopen, hresult⟩ := hphase
  obtain ⟨-, hmade, hnetwork, hclock⟩ := hshared.inflight pending hinflight
  rw [hstarted] at hnetwork hclock
  unfold conclude at h
  have hclosed : ∀ other ∈ pending :: shared.closed, other < shared.made := by
    intro other hother
    rcases List.mem_cons.1 hother with rfl | hother
    · exact hmade
    · exact hshared.closed other hother
  have hpending : ∀ other, shared.reader.inflight = some other → other ∈ pending :: shared.closed ∧
      shared.reader.inflightStarted ≤ started := by
    intro other hother
    rw [hinflight] at hother
    rw [← Option.some.inj hother, hstarted]
    exact ⟨List.mem_cons_self, le_refl _⟩
  cases result with
  | ok snapshot =>
      cases h
      obtain ⟨hholds, hfresh⟩ := hresult
      constructor
      · exact ⟨nofun, hclock, hshared.commits, hclosed, fun _ => hholds⟩
      · exact ⟨le_refl _, fun _ hmoment => hmoment, fun _ hcommit => hcommit, hnetwork,
          fun other hother _ => .inr (hpending other hother),
          fun _ hother => List.mem_cons_of_mem _ hother⟩
      · intro _ _ _ returned hreturned
        rw [← Option.some.inj hreturned]
        exact hfresh
  | error failure =>
      obtain ⟨status, reason⟩ := failure
      cases h
      constructor
      · exact ⟨nofun, hclock, hshared.commits, hclosed, fun hstatus => absurd hstatus hresult⟩
      · exact ⟨le_refl _, fun _ hmoment => hmoment, fun _ hcommit => hcommit, hnetwork,
          fun other hother _ => .inr (hpending other hother),
          fun _ hother => List.mem_cons_of_mem _ hother⟩
      · exact fun hstatus => absurd hstatus hresult

/-- A copy of a copy is the copy. -/
theorem cloneRelaySnapshot_clone (snapshot : RelaySnapshot) :
    cloneRelaySnapshot (cloneRelaySnapshot snapshot) = cloneRelaySnapshot snapshot := by
  have hobservation : ∀ observation : RelaySnapshotObservation,
      cloneObservation (cloneObservation observation) = cloneObservation observation := by
    intro observation
    unfold cloneObservation
    by_cases hempty : observation.external.items.isEmpty = true
    · simp [hempty]
    · simp [hempty]
  simp [cloneRelaySnapshot, Observation.Slice.items, Function.comp_def, hobservation]

theorem answer_fresh {shared : Shared} {call : Call} {status : RelayStatus}
    {problem : Option String}
    (hphase : (Phase.answering status problem).Sound shared call) :
    (Phase.returned (answerFrom shared.cache status problem)).Sound shared call := by
  intro hnonzero hstatus hproblem snapshot hsnapshot
  unfold answerFrom at hstatus hproblem hsnapshot
  unfold RelayCacheStore.snapshot at hstatus hproblem hsnapshot
  cases hstate : shared.cache.state with
  | none =>
      rw [hstate] at hsnapshot
      cases hsnapshot
  | some state =>
      rw [hstate] at hstatus hproblem hsnapshot
      rcases hphase hstatus hproblem with hzero | ⟨started, committed, rest, hcommits, hcopy, hle⟩
      · exact absurd hzero hnonzero
      · rw [hstate] at hcopy
        refine ⟨started, committed, by rw [hcommits]; exact List.mem_cons_self, ?_,
          (min_le_left _ _).trans hle⟩
        rw [← Option.some.inj hsnapshot, Option.some.inj hcopy, cloneRelaySnapshot_clone]

/-- One step of a caller. -/
theorem advance_cases {shared later : Shared} {call : Call} {action : Action} {phase : Phase}
    (hshared : shared.Sound) (hcalled : call.called ≤ shared.clock)
    (hphase : call.phase.Sound shared call) (h : advance shared call action = some (later, phase)) :
    Advanced shared later call phase := by
  unfold advance at h
  cases action with
  | sample =>
      dsimp only at h
      split at h
      · cases h
        exact ⟨hshared, .refl _, trivial⟩
      · cases h
  | enter =>
      dsimp only at h
      split at h
      · exact enter_advanced hshared hcalled (Option.some.inj h)
      · cases h
  | cancel reason =>
      dsimp only at h
      split at h
      · cases h
        exact ⟨hshared, .refl _, fun _ hstatus => by cases hstatus⟩
      · cases h
  | wake =>
      dsimp only at h
      split at h
      · rename_i pending compatible hwaiting
        rw [hwaiting] at hphase
        split at h
        · rename_i hclosed
          cases h
          refine ⟨hshared, .refl _, ?_⟩
          cases compatible with
          | false => trivial
          | true =>
              rcases hphase rfl with hzero | ⟨-, hle⟩ | ⟨hopen, -⟩
              · exact .inl hzero
              · exact .inr hle
              · exact absurd hclosed hopen
        · cases h
      · cases h
  | readStatus =>
      dsimp only at h
      split at h
      · rename_i hwoken
        rw [hwoken] at hphase
        cases h
        exact ⟨hshared, .refl _, fun hstatus _ => hphase.imp id (hshared.holds hstatus)⟩
      · cases h
  | exchange written exchange =>
      dsimp only at h
      split at h
      · rename_i pending started hperforming
        rw [hperforming] at hphase
        exact exchange_advanced hshared hphase (Option.some.inj h)
      · cases h
  | conclude random =>
      dsimp only at h
      split at h
      · rename_i pending started result hperformed
        rw [hperformed] at hphase
        exact conclude_advanced hshared hphase (Option.some.inj h)
      · cases h
  | answer =>
      dsimp only at h
      split at h
      · rename_i status problem hanswering
        rw [hanswering] at hphase
        cases h
        exact ⟨hshared, .refl _, answer_fresh hphase⟩
      · cases h

/-! ## Runs -/

/-- Time passing is no matter of where a caller stands. -/
theorem Phase.Sound.elapse {shared : Shared} {call : Call} {phase : Phase}
    (h : phase.Sound shared call) (clock : Moment) :
    phase.Sound { shared with clock } call := by
  cases phase <;> exact h

/-- A caller that is in an exchange is in the one in flight. -/
theorem Phase.Sound.inflight {shared : Shared} {call : Call} {phase : Phase}
    (h : phase.Sound shared call) (hbusy : phase.busy ≠ none) : shared.reader.inflight ≠ none := by
  cases phase with
  | performing pending started =>
      rw [h.1]
      exact nofun
  | performed pending started result =>
      rw [h.1]
      exact nofun
  | reading => exact absurd rfl hbusy
  | sampled now => exact absurd rfl hbusy
  | answering status problem => exact absurd rfl hbusy
  | waiting pending compatible => exact absurd rfl hbusy
  | woken => exact absurd rfl hbusy
  | returned outcome => exact absurd rfl hbusy

theorem ReaderState.Sound.call {s : ReaderState} (h : s.Sound) (caller : Nat)
    (freshAfter : Moment) : (next readerStep s (.call caller freshAfter)).Sound := by
  unfold next readerStep
  dsimp only
  split
  · obtain ⟨hshared, hcallers, halone⟩ := h
    have hold : ∀ other call, Function.update s.callers caller
        (some { freshAfter, called := s.shared.clock, phase := .reading }) other = some call →
        call.phase.busy ≠ none → s.callers other = some call := by
      intro other call hother hbusy
      rcases eq_or_ne other caller with rfl | hne
      · rw [Function.update_self] at hother
        rw [← Option.some.inj hother] at hbusy
        exact absurd rfl hbusy
      · rwa [Function.update_of_ne hne] at hother
    refine ⟨hshared, ?_, ?_⟩
    · intro other call hother
      dsimp only at hother
      rcases eq_or_ne other caller with rfl | hne
      · rw [Function.update_self] at hother
        rw [← Option.some.inj hother]
        exact ⟨le_refl _, trivial⟩
      · rw [Function.update_of_ne hne] at hother
        exact hcallers other call hother
    · intro first second call otherCall hfirst hsecond hbusy hbusy'
      exact halone first second call otherCall (hold first call hfirst hbusy)
        (hold second otherCall hsecond hbusy') hbusy hbusy'
  · exact h

theorem ReaderState.Sound.elapse {s : ReaderState} (h : s.Sound) (duration : Nat) :
    (next readerStep s (.elapse duration)).Sound := by
  obtain ⟨⟨hinflight, hnetwork, hcommits, hclosed, havailable⟩, hcallers, halone⟩ := h
  have hle : s.shared.clock ≤ s.shared.clock + duration :=
    Int.le_add_of_nonneg_right (Int.natCast_nonneg duration)
  refine ⟨⟨?_, hnetwork.trans hle, fun commit hcommit => (hcommits commit hcommit).trans hle,
    hclosed, havailable⟩, ?_, halone⟩
  · intro pending hpending
    obtain ⟨hopen, hmade, hstarted, hclock⟩ := hinflight pending hpending
    exact ⟨hopen, hmade, hstarted, hclock.trans hle⟩
  · intro caller call hcall
    obtain ⟨hcalled, hphase⟩ := hcallers caller call hcall
    exact ⟨hcalled.trans hle, hphase.elapse _⟩

theorem ReaderState.Sound.act {s : ReaderState} (h : s.Sound) (caller : Nat) (action : Action) :
    (next readerStep s (.act caller action)).Sound := by
  unfold next readerStep
  dsimp only
  split
  · exact h
  · rename_i call hcall
    split
    · exact h
    · rename_i later phase hadvance
      obtain ⟨hshared, hcallers, halone⟩ := h
      obtain ⟨hcalled, hphase⟩ := hcallers caller call hcall
      obtain ⟨hsound, hfollows, hafter⟩ := advance_cases hshared hcalled hphase hadvance
      -- Another caller in an exchange leaves this one none to begin or to end.
      have hother : ∀ other otherCall, other ≠ caller → s.callers other = some otherCall →
          otherCall.phase.busy ≠ none → later = s.shared ∧ phase.busy = none := by
        intro other otherCall hne hotherCall hbusy
        apply advance_idle _ ((hcallers other otherCall hotherCall).2.inflight hbusy) hadvance
        by_contra hbusy'
        exact hne (halone other caller otherCall call hotherCall hcall hbusy hbusy')
      refine ⟨hsound, ?_, ?_⟩
      · intro other otherCall hotherCall
        dsimp only at hotherCall
        rcases eq_or_ne other caller with rfl | hne
        · rw [Function.update_self] at hotherCall
          rw [← Option.some.inj hotherCall]
          exact ⟨hcalled.trans hfollows.clock, by cases phase <;> exact hafter⟩
        · rw [Function.update_of_ne hne] at hotherCall
          obtain ⟨hotherCalled, hotherPhase⟩ := hcallers other otherCall hotherCall
          refine ⟨hotherCalled.trans hfollows.clock, ?_⟩
          by_cases hidle : otherCall.phase.busy = none
          · exact hotherPhase.mono hidle hfollows
          · rw [(hother other otherCall hne hotherCall hidle).1]
            exact hotherPhase
      · intro first second firstCall secondCall hfirst hsecond hbusy hbusy'
        dsimp only at hfirst hsecond
        rcases eq_or_ne first caller with rfl | hne
        · rcases eq_or_ne second first with rfl | hne'
          · rfl
          · rw [Function.update_self] at hfirst
            rw [Function.update_of_ne hne'] at hsecond
            rw [← Option.some.inj hfirst] at hbusy
            exact absurd (hother second secondCall hne' hsecond hbusy').2 hbusy
        · rw [Function.update_of_ne hne] at hfirst
          rcases eq_or_ne second caller with rfl | hne'
          · rw [Function.update_self] at hsecond
            rw [← Option.some.inj hsecond] at hbusy'
            exact absurd (hother first firstCall hne hfirst hbusy).2 hbusy'
          · rw [Function.update_of_ne hne'] at hsecond
            exact halone first second firstCall secondCall hfirst hsecond hbusy hbusy'

theorem open_reader_sound (clock : Nat) (cache : RelayCacheStore) :
    (openReader clock cache).Sound := by
  constructor
  · constructor
    · exact fun _ hinflight => by cases hinflight
    · exact Int.natCast_nonneg clock
    · exact fun _ hcommit => absurd hcommit List.not_mem_nil
    · exact fun _ hclosed => absurd hclosed List.not_mem_nil
    · exact fun hstatus => by cases hstatus
  · exact fun _ _ hcall => by cases hcall
  · exact fun _ _ _ _ hcall => by cases hcall

/-- Every state a reader and its callers reach. -/
theorem reader_sound (clock : Nat) (cache : RelayCacheStore) (events : List ReaderEvent) :
    (run readerStep (openReader clock cache) events).Sound := by
  apply run_invariant _ (open_reader_sound clock cache)
  intro s event h
  cases event with
  | call caller freshAfter => exact h.call caller freshAfter
  | act caller action => exact h.act caller action
  | elapse duration => exact h.elapse duration

/-- Whatever callers there are and however their steps fall, a Read that asks for an instant
and is answered with a snapshot of an available Relay is answered with a copy of what an
exchange committed that began no earlier than that instant; where the instant is still to
come when the Read is called, than the call. -/
theorem read_fresh (clock : Nat) (cache : RelayCacheStore) (events : List ReaderEvent)
    (caller : Nat) (call : Call) (snapshot : RelaySnapshot)
    (hcall : (run readerStep (openReader clock cache) events).callers caller = some call)
    (hreturned : call.phase =
      .returned { snapshot := some snapshot, status := .available, problem := none })
    (hfresh : call.freshAfter ≠ zeroTime) :
    ∃ started committed,
      (started, committed) ∈ (run readerStep (openReader clock cache) events).shared.commits ∧
      snapshot = cloneRelaySnapshot committed ∧
      (call.freshAfter ≤ call.called → call.freshAfter ≤ started) ∧
      (call.called ≤ call.freshAfter → call.called ≤ started) := by
  have hphase := ((reader_sound clock cache events).callers caller call hcall).2
  rw [hreturned] at hphase
  obtain ⟨started, committed, hcommit, hcopy, hle⟩ := hphase hfresh rfl rfl snapshot rfl
  refine ⟨started, committed, hcommit, hcopy, fun hpast => ?_, fun hahead => ?_⟩
  · rwa [min_eq_left hpast] at hle
  · rwa [min_eq_right hahead] at hle

/-! ## Two runs -/

def someController : Bytes := text "0b6f3c1e-5a2d-4e7f-8c9b-1a2b3c4d5e6f"

def someInfrastructure : Bytes := text "7d1e9a40-3c5b-4f68-9a7e-0f1e2d3c4b5a"

def someSnapshot : RelaySnapshot :=
  { schemaVersion := 1, infrastructureID := someInfrastructure, controllerID := someController
    snapshotAt := text "1970-01-01T00:00:00Z", machines := some [] }

def someBody : Bytes :=
  text "\x7b\"schema_version\":1,\"infrastructure_id\":\"7d1e9a40-3c5b-4f68-9a7e-0f1e2d3c4b5a\"," ++
  text "\"controller_id\":\"0b6f3c1e-5a2d-4e7f-8c9b-1a2b3c4d5e6f\"," ++
  text "\"snapshot_at\":\"1970-01-01T00:00:00Z\",\"machines\":[]\x7d"

def someResponse : RelayResponse :=
  { statusCode := 200, problem := none, contentType := text "application/json"
    cacheControl := text "no-store", contentEncoding := [], transferEncoding := []
    contentLength := someBody.length, body := some someBody }

def someExchange : Exchange :=
  .answered { civil := 0, monotonic := 10 } { civil := 0, monotonic := 10 } someResponse

def emptyCache : RelayCacheStore := openRelayCacheStore none someController someInfrastructure

/-- One caller, which asks for an instant that is still to come. -/
def aheadEvents : List ReaderEvent :=
  [.call 0 11, .act 0 .sample, .act 0 .enter, .act 0 (.exchange true someExchange),
    .act 0 (.conclude none)]

/-- A caller that takes the answer of another one's exchange. -/
def sharedEvents : List ReaderEvent :=
  [.call 0 zeroTime, .act 0 .sample, .act 0 .enter, .call 1 10, .act 1 .sample, .act 1 .enter,
    .elapse 3, .act 0 (.exchange true someExchange), .act 0 (.conclude none), .act 1 .wake,
    .act 1 .readStatus, .act 1 .answer]

/-- A Read makes one exchange and takes its answer, even where it asks for an instant that
this exchange began before. -/
theorem ahead_of_the_clock :
    ¬ ∀ (clock : Nat) (cache : RelayCacheStore) (events : List ReaderEvent) (caller : Nat)
      (call : Call) (snapshot : RelaySnapshot),
      (run readerStep (openReader clock cache) events).callers caller = some call →
      call.phase = .returned { snapshot := some snapshot, status := .available, problem := none } →
      call.freshAfter ≠ zeroTime →
      ∃ started committed,
        (started, committed) ∈ (run readerStep (openReader clock cache) events).shared.commits ∧
        snapshot = cloneRelaySnapshot committed ∧ call.freshAfter ≤ started := by
  intro h
  have hcommits : (run readerStep (openReader 10 emptyCache) aheadEvents).shared.commits =
      [(10, someSnapshot)] := by decide +kernel
  obtain ⟨started, committed, hcommit, -, hle⟩ := h 10 emptyCache aheadEvents 0
    { freshAfter := 11, called := 10,
      phase := .returned { snapshot := some someSnapshot, status := .available, problem := none } }
    someSnapshot (by decide +kernel) rfl (by decide)
  rw [hcommits, List.mem_singleton, Prod.mk.injEq] at hcommit
  rw [hcommit.1] at hle
  exact absurd hle (by decide)

theorem read_fresh_shared :
    ∃ started committed,
      (started, committed) ∈
        (run readerStep (openReader 10 emptyCache) sharedEvents).shared.commits ∧
      someSnapshot = cloneRelaySnapshot committed ∧
      ((10 : Moment) ≤ 10 → (10 : Moment) ≤ started) ∧
      ((10 : Moment) ≤ 10 → (10 : Moment) ≤ started) :=
  read_fresh 10 emptyCache sharedEvents 1
    { freshAfter := 10, called := 10,
      phase := .returned { snapshot := some someSnapshot, status := .available, problem := none } }
    someSnapshot (by decide +kernel) rfl (by decide)

end YourCloud.Controller
