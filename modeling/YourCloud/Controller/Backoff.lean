import YourCloud.Controller.RelayRead

/-!
# The delays of a failing Relay

A reader waits after each failed exchange, longer each time up to half a minute, and counts
the failures in a byte.  The delays of the failures since the last success are noted along
a run of the reader and its callers, and compared with the delays that were announced.

## Main results

* `failures_noted` — the counter says how many failures there were, modulo its width.
* `onSchedule_iff` — when the delays of so many failures are the announced ones.
* `backoff_on_schedule_iff` — the same of every run of a reader.
-/

namespace YourCloud.Controller

open YourCloud.Foundation

/-! ## Delays -/

/-- The delay, in seconds, that the counter of failures stands for. -/
def nominalBackoff (failures : UInt8) : Int :=
  nominalSeconds.getD (min (failures.toNat - 1) (nominalSeconds.length - 1)) 0

/-- The delay is the nominal one, of which up to a fifth is taken at random. -/
theorem backoffDelay_eq (failures : UInt8) (random : Option UInt8) :
    backoffDelay failures random =
      nominalBackoff failures * second * (random.elim 100 fun r => 80 + r % 21).toNat / 100 :=
  rfl

/-- The delay that is announced after so many failures: 1, 2, 4, 8 and 16 seconds, then 30. -/
def announced (n : Nat) : Int := min (2 ^ (n - 1)) 30

/-- Delays that are the announced ones, and never shrink. -/
def OnSchedule (delays : List Int) : Prop :=
  (∀ n, (h : n < delays.length) → delays[n] = announced (n + 1)) ∧ delays.Pairwise (· ≤ ·)

/-! ## Failures of a run -/

theorem enter_failures (shared : Shared) (freshAfter now : Moment) :
    (enter shared freshAfter now).1.reader.failures = shared.reader.failures := by
  unfold enter
  dsimp only
  split
  · rfl
  split
  · rfl
  split <;> rfl

theorem exchangeWith_failures (shared : Shared) (pending : Nat) (started : Moment)
    (written : Bool) (exchange : Exchange) :
    (exchangeWith shared pending started written exchange).1.reader.failures =
      shared.reader.failures := by
  unfold exchangeWith
  split <;> rfl

/-- How a caller's action ends the exchange it is in, if it ends it. -/
def Phase.concluded : Phase → Action → Option Bool
  | .performed _ _ (.ok _), .conclude _ => some true
  | .performed _ _ (.error _), .conclude _ => some false
  | _, _ => none

/-- What an action does to the counter of failures. -/
theorem advance_failures {shared : Shared} {call : Call} {action : Action}
    {result : Shared × Phase} (h : advance shared call action = some result) :
    result.1.reader.failures =
      match call.phase.concluded action with
      | none => shared.reader.failures
      | some true => 0
      | some false => shared.reader.failures + 1 := by
  unfold advance at h
  cases action with
  | conclude random =>
      dsimp only at h
      split at h
      · rename_i pending started result hphase
        cases h
        rw [hphase]
        cases result with
        | ok snapshot => rfl
        | error failure => rfl
      · cases h
  | sample =>
      dsimp only at h
      split at h
      · rename_i hphase
        cases h
        rw [hphase]
        rfl
      · cases h
  | enter =>
      dsimp only at h
      split at h
      · rename_i now hphase
        cases h
        rw [hphase]
        exact enter_failures shared call.freshAfter now
      · cases h
  | cancel reason =>
      dsimp only at h
      split at h
      · rename_i hphase
        cases h
        rw [hphase]
        rfl
      · cases h
  | wake =>
      dsimp only at h
      split at h
      · rename_i pending compatible hphase
        by_cases hclosed : pending ∈ shared.closed
        · rw [if_pos hclosed] at h
          cases h
          rw [hphase]
          rfl
        · rw [if_neg hclosed] at h
          cases h
      · cases h
  | readStatus =>
      dsimp only at h
      split at h
      · rename_i hphase
        cases h
        rw [hphase]
        rfl
      · cases h
  | exchange written exchange =>
      dsimp only at h
      split at h
      · rename_i pending started hphase
        cases h
        rw [hphase]
        exact exchangeWith_failures shared pending started written exchange
      · cases h
  | answer =>
      dsimp only at h
      split at h
      · rename_i status problem hphase
        cases h
        rw [hphase]
        rfl
      · cases h

/-- A caller that may end its exchange can. -/
theorem advance_concluded {shared : Shared} {call : Call} {action : Action}
    (h : advance shared call action = none) : call.phase.concluded action = none := by
  unfold Phase.concluded
  split
  · rename_i hphase
    simp [advance, hphase] at h
  · rename_i hphase
    simp [advance, hphase] at h
  · rfl

/-- How an event ends an exchange, if it ends one. -/
def endedBy (s : ReaderState) : ReaderEvent → Option Bool
  | .act caller action => (s.callers caller).bind fun call => call.phase.concluded action
  | _ => none

/-- The nominal delays since the last success, in order. -/
def noteDelay (s : ReaderState) (e : ReaderEvent) (delays : List Int) : List Int :=
  match endedBy s e with
  | none => delays
  | some true => []
  | some false => delays ++ [nominalBackoff (next readerStep s e).shared.reader.failures]

/-- A reader with the nominal delays since its last success. -/
def watchedReader : ReaderState × List Int → ReaderEvent → (ReaderState × List Int) × Unit :=
  noting readerStep noteDelay

/-- What a step does to the counter of failures. -/
theorem failures_step (s : ReaderState) (e : ReaderEvent) :
    (next readerStep s e).shared.reader.failures =
      match endedBy s e with
      | none => s.shared.reader.failures
      | some true => 0
      | some false => s.shared.reader.failures + 1 := by
  cases e with
  | call caller freshAfter =>
      show (readerStep s (.call caller freshAfter)).1.shared.reader.failures = _
      rw [readerStep]
      split <;> rfl
  | elapse duration => rfl
  | act caller action =>
      show (readerStep s (.act caller action)).1.shared.reader.failures = _
      rw [readerStep, endedBy]
      cases hcall : s.callers caller with
      | none => rfl
      | some call =>
          cases hadvance : advance s.shared call action with
          | none =>
              rw [Option.bind_some, advance_concluded hadvance]
              dsimp only
              rw [hadvance]
          | some result =>
              dsimp only
              rw [hadvance]
              exact advance_failures hadvance

/-- The delays after so many failures in a row, from the counter of a byte. -/
def backoffs (n : Nat) : List Int := (List.range n).map fun k => nominalBackoff (UInt8.ofNat (k + 1))

/-- The counter is the number of the failures since the last success, modulo its width, and
their delays are those of that number. -/
def Noted (watched : ReaderState × List Int) : Prop :=
  watched.1.shared.reader.failures = UInt8.ofNat watched.2.length ∧
    watched.2 = backoffs watched.2.length

theorem noted_step {watched : ReaderState × List Int} (h : Noted watched) (e : ReaderEvent) :
    Noted (next watchedReader watched e) := by
  obtain ⟨s, delays⟩ := watched
  obtain ⟨hcounter, hdelays⟩ := h
  dsimp only at hcounter hdelays
  have hstep := failures_step s e
  rw [watchedReader, next_noting, noteDelay]
  dsimp only
  cases hconcluded : endedBy s e with
  | none =>
      rw [hconcluded] at hstep
      exact ⟨hstep.trans hcounter, hdelays⟩
  | some success =>
      rw [hconcluded] at hstep
      cases success with
      | true => exact ⟨hstep, rfl⟩
      | false =>
          have hnext : (next readerStep s e).shared.reader.failures =
              UInt8.ofNat (delays.length + 1) := by
            rw [hstep, hcounter, UInt8.ofNat_add]
            rfl
          unfold Noted
          dsimp only
          rw [hnext, List.length_append, List.length_singleton]
          constructor
          · rfl
          · rw [backoffs, List.range_succ, List.map_append, ← backoffs, ← hdelays]
            rfl

theorem failures_noted (clock : Nat) (cache : RelayCacheStore) (events : List ReaderEvent) :
    Noted (run watchedReader (openReader clock cache, []) events) := by
  have hstart : Noted (openReader clock cache, []) := ⟨rfl, rfl⟩
  have hstep : ∀ watched e, Noted watched → Noted (next watchedReader watched e) :=
    fun _ e h => noted_step h e
  exact run_invariant hstep hstart events

/-! ## The schedule -/

theorem nominalBackoff_ofNat {n : Nat} (hpos : 0 < n) (hlt : n < 256) :
    nominalBackoff (UInt8.ofNat n) = announced n := by
  have hcounter : (UInt8.ofNat n).toNat = n := by
    rw [UInt8.toNat_ofNat']
    omega
  rw [nominalBackoff, hcounter, announced]
  by_cases hsmall : n ≤ 5
  · have hcases : n = 1 ∨ n = 2 ∨ n = 3 ∨ n = 4 ∨ n = 5 := by omega
    rcases hcases with rfl | rfl | rfl | rfl | rfl <;> decide
  · have hpow : (2 : Int) ^ 5 ≤ 2 ^ (n - 1) := pow_le_pow_right₀ (by decide) (by omega)
    have hindex : min (n - 1) (nominalSeconds.length - 1) = 5 := by
      show min (n - 1) 5 = 5
      omega
    rw [hindex, min_eq_right (by omega)]
    rfl

theorem announced_mono {m n : Nat} (h : m ≤ n) : announced m ≤ announced n := by
  unfold announced
  have hpow : (2 : Int) ^ (m - 1) ≤ 2 ^ (n - 1) := pow_le_pow_right₀ (by decide) (by omega)
  omega

/-- The delays of so many failures in a row are the announced ones while the counter does
not go around. -/
theorem onSchedule_iff (n : Nat) : OnSchedule (backoffs n) ↔ n < 256 := by
  have hlength : (backoffs n).length = n := by simp [backoffs]
  have hget : ∀ k (h : k < (backoffs n).length),
      (backoffs n)[k] = nominalBackoff (UInt8.ofNat (k + 1)) := by
    intro k h
    simp [backoffs]
  constructor
  · rintro ⟨hannounced, -⟩
    by_contra hmany
    have hzero := hannounced 255 (by omega)
    rw [hget] at hzero
    exact absurd hzero (by decide)
  · intro hfew
    have hentry : ∀ k (h : k < (backoffs n).length), (backoffs n)[k] = announced (k + 1) := by
      intro k h
      rw [hget, nominalBackoff_ofNat (by omega) (by omega)]
    refine ⟨hentry, ?_⟩
    rw [List.pairwise_iff_getElem]
    intro i j hi hj hij
    rw [hentry, hentry]
    exact announced_mono (by omega)

/-- In every run of a reader, the nominal delays since the last success are the announced
ones, and none is shorter than one before it, exactly where there were fewer failures since
than a byte counts. -/
theorem backoff_on_schedule_iff (clock : Nat) (cache : RelayCacheStore)
    (events : List ReaderEvent) :
    OnSchedule (run watchedReader (openReader clock cache, []) events).2 ↔
      (run watchedReader (openReader clock cache, []) events).2.length < 256 := by
  have hdelays := (failures_noted clock cache events).2
  rw [hdelays, onSchedule_iff]
  simp [backoffs]

/-! ## A Relay that is never reached -/

/-- Half a minute later, a Read that does not reach the Relay. -/
def failedRead : List ReaderEvent :=
  [.elapse 30000000000, .call 0 zeroTime, .act 0 .sample, .act 0 .enter,
    .act 0 (.exchange false (.unreachable "no route to host")), .act 0 (.conclude none),
    .act 0 .answer]

/-- A reader that may make an exchange half a minute later. -/
structure Idle (s : ReaderState) : Prop where
  caller : (s.callers 0).all Call.over = true
  status : s.shared.reader.lastStatus ≠ .available
  inflight : s.shared.reader.inflight = none
  retry : s.shared.reader.nextRetry ≤ s.shared.clock + 30000000000

theorem backoffDelay_le (failures : UInt8) : backoffDelay failures none ≤ 30000000000 := by
  have hnominal : nominalBackoff failures ≤ 30 := by
    have hlist : ∀ n, nominalSeconds.getD n 0 ≤ 30 := by
      intro n
      by_cases hn : n < 6
      · have hcases : n = 0 ∨ n = 1 ∨ n = 2 ∨ n = 3 ∨ n = 4 ∨ n = 5 := by omega
        rcases hcases with rfl | rfl | rfl | rfl | rfl | rfl <;> decide
      · have hlength : nominalSeconds.length ≤ n := by
          show 6 ≤ n
          omega
        simp [List.getElem?_eq_none hlength]
    exact hlist _
  have hsecond : second = 1000000000 := rfl
  have hwhole : ((none : Option UInt8).elim 100 fun r => 80 + r % 21 : UInt8).toNat = 100 := rfl
  rw [backoffDelay_eq, hwhole, hsecond]
  omega

/-- A Read that fails so leaves the reader as it was, one failure later. -/
theorem failedRead_step {s : ReaderState} (h : Idle s) (delays : List Int) :
    Idle (run watchedReader (s, delays) failedRead).1 ∧
      (run watchedReader (s, delays) failedRead).2.length = delays.length + 1 := by
  obtain ⟨hcaller, hstatus, hinflight, hretry⟩ := h
  have hreuse : ∀ now freshAfter, s.shared.reader.canReuse now freshAfter = false := by
    intro now freshAfter
    rw [RelayReader.canReuse, if_pos (Or.inl hstatus)]
  have hdue : ¬ s.shared.clock + 30000000000 < s.shared.reader.nextRetry := not_lt.2 hretry
  simp only [failedRead, run_cons, run_nil, watchedReader, noting, noteDelay, endedBy, next,
    answer, readerStep, hcaller, if_true, Function.update_self, Option.bind_some, advance, enter,
    hreuse, Bool.false_eq_true, if_false, hdue, hinflight, exchangeWith, perform, conclude,
    concludeReader, Phase.concluded, Nat.cast_ofNat]
  constructor
  · constructor
    · simp [Call.over]
    · simp
    · rfl
    · simpa using backoffDelay_le (s.shared.reader.failures + 1)
  · simp

/-- So many Reads that fail one after the other. -/
def outage (n : Nat) : List ReaderEvent := (List.replicate n failedRead).flatten

theorem outage_idle (n : Nat) :
    let watched := run watchedReader (openReader 0 emptyCache, []) (outage n)
    Idle watched.1 ∧ watched.2.length = n := by
  induction n with
  | zero =>
      refine ⟨⟨rfl, ?_, rfl, ?_⟩, rfl⟩
      · show RelayStatus.unavailable ≠ .available
        decide
      · show (0 : Int) ≤ 0 + 30000000000
        decide
  | succ n ih =>
      obtain ⟨hidle, hlength⟩ := ih
      have hsplit : outage (n + 1) = outage n ++ failedRead := by
        rw [outage, List.replicate_succ', List.flatten_append, List.flatten_singleton, outage]
      have hstep := failedRead_step hidle
        (run watchedReader (openReader 0 emptyCache, []) (outage n)).2
      rw [hlength] at hstep
      rw [hsplit, run_append]
      exact hstep

/-- After 256 failures the counter is zero again, and the delay one second. -/
theorem delay_restarts : ¬ ∀ events : List ReaderEvent,
    OnSchedule (run watchedReader (openReader 0 emptyCache, []) events).2 := by
  intro h
  have hdelays := (failures_noted 0 emptyCache (outage 256)).2
  have hlength := (outage_idle 256).2
  have hschedule := h (outage 256)
  rw [hdelays, onSchedule_iff, hlength] at hschedule
  omega

end YourCloud.Controller
