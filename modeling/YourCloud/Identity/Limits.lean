import YourCloud.Foundation.SlidingWindow
import YourCloud.Identity.Sessions

/-!
# How often a device may ask, and fail

A device is given few new challenges in a minute, and a proof that fails is kept for ten
minutes: the fifth of them shuts the device out for five minutes.  Both windows are
pruned only when something is added to them, on calls that come whenever they come.

A proof that holds forgets the ones that failed before it.

## Main results

* `step_starts` — what a step does to the times of the challenges of a device.
* `proof_does` — what a proof comes to, and what it leaves of the failures.
* `device_limited` — over every run: five challenges a minute, and five minutes without a
  proof after five failures.
-/

namespace YourCloud.Identity

open YourCloud.Foundation

namespace Sessions

/-- A clock that never goes back. -/
def Timed (events : List Event) : Prop := events.Pairwise fun event later => event.now ≤ later.now

instance (events : List Event) : Decidable (Timed events) :=
  inferInstanceAs (Decidable (events.Pairwise fun event later => event.now ≤ later.now))

/-! ## New challenges -/

section Challenges

variable (p : Primitives) {world : World} {now : Int} {event : Event} {deviceID : Bytes}

/-- Whether a new challenge was issued to a device. -/
def Outcome.issuedFor (deviceID : Bytes) (outcome : Outcome) : Bool :=
  outcome.issued.any fun challenge => challenge.device.deviceID = deviceID

/-- When new challenges were issued to a device. -/
def issuedTo (deviceID : Bytes) (world : World) (events : List Event) : List Int :=
  ((history (step p) world events).filter fun h => h.2.issuedFor deviceID).map fun h => h.1.now

variable {p}

theorem issuedFor_iff {outcome : Outcome} : outcome.issuedFor deviceID = true ↔
    ∃ challenge, outcome.issued = some challenge ∧ challenge.device.deviceID = deviceID := by
  unfold Outcome.issuedFor
  cases outcome.issued with
  | none => simp
  | some challenge => simp

theorem startsOf_congr {other : World}
    (h : other.manager.challengeStarts = world.manager.challengeStarts) (deviceID : Bytes) :
    startsOf other deviceID = startsOf world deviceID := by
  rw [startsOf, startsOf, h]

theorem startsOf_setStarts (starts : List Int) (other : Bytes) :
    startsOf (world.setStarts deviceID starts) other =
      if other = deviceID then starts else startsOf world other := by
  have hfind : Table.find ChallengeStarts.deviceID other
      (world.setStarts deviceID starts).manager.challengeStarts =
      if other = deviceID then some ⟨deviceID, starts⟩
      else Table.find ChallengeStarts.deviceID other world.manager.challengeStarts :=
    Table.find_put other
  rw [startsOf, hfind]
  by_cases hsame : other = deviceID
  · rw [if_pos hsame, if_pos hsame]
    rfl
  · rw [if_neg hsame, if_neg hsame]
    rfl

@[simp] theorem touch_challengeStarts :
    (world.touch deviceID now).manager.challengeStarts = world.manager.challengeStarts := by
  unfold World.touch
  split <;> rfl

@[simp] theorem extend_challengeStarts {request : SessionChallengeRequest} :
    (extend world now request deviceID).manager.challengeStarts = world.manager.challengeStarts := by
  unfold extend
  split
  · exact touch_challengeStarts
  · rfl

/-- An arrival of a device at its limit. -/
def arrival (world : World) (now : Int) (deviceID : Bytes) : List Int × Bool :=
  SlidingWindow.arrive sessionChallengeLimit (60 * second) now (startsOf world deviceID)

/-- What a step does to the times of a device: nothing, or an arrival, which is let in where
a challenge is issued. -/
def StartsDoes (world : World) (now : Int) (deviceID : Bytes) (result : World × Outcome) : Prop :=
  startsOf result.1 deviceID = startsOf world deviceID ∧ result.2.issuedFor deviceID = false ∨
  startsOf result.1 deviceID = (arrival world now deviceID).1 ∧
    (result.2.issuedFor deviceID = true → (arrival world now deviceID).2 = true)

theorem startsDoes_of_same {result : World × Outcome}
    (hstarts : result.1.manager.challengeStarts = world.manager.challengeStarts)
    (hissued : result.2.issued = none) : StartsDoes world now deviceID result := by
  left
  refine ⟨startsOf_congr hstarts deviceID, ?_⟩
  rw [Outcome.issuedFor, hissued]
  rfl

/-- The times of the device that arrived are changed, and those of no other. -/
theorem startsDoes_of_arrival {result : World × Outcome} {starts : List Int} {arrived : Bytes}
    (hstarts : result.1.manager.challengeStarts = (world.setStarts arrived starts).manager.challengeStarts)
    (harrival : starts = (arrival world now arrived).1)
    (hissued : ∀ challenge, result.2.issued = some challenge →
      challenge.device.deviceID = arrived ∧ (arrival world now arrived).2 = true) :
    StartsDoes world now deviceID result := by
  have hafter : startsOf result.1 deviceID = if deviceID = arrived then starts
      else startsOf world deviceID := by
    rw [startsOf_congr hstarts, startsOf_setStarts]
  by_cases hsame : deviceID = arrived
  · right
    rw [hafter, if_pos hsame, harrival, hsame]
    refine ⟨rfl, ?_⟩
    intro hfor
    obtain ⟨challenge, hchallenge, -⟩ := issuedFor_iff.1 hfor
    exact (hissued challenge hchallenge).2
  · left
    rw [hafter, if_neg hsame]
    refine ⟨rfl, ?_⟩
    by_contra hfor
    obtain ⟨challenge, hchallenge, hdevice⟩ := issuedFor_iff.1 (by simpa using hfor)
    exact hsame (hdevice.symm.trans (hissued challenge hchallenge).1)

theorem challenge_starts (certificate : Certificate) (request : SessionChallengeRequest)
    (existing : Option SessionContext) (draws : Option (Fixed 16 × Fixed 32)) :
    StartsDoes world now deviceID (challenge world now certificate request existing draws) := by
  unfold challenge
  split
  · exact startsDoes_of_same rfl rfl
  · rename_i device hdevice
    split
    · exact startsDoes_of_same rfl rfl
    · split
      · split
        · exact startsDoes_of_same rfl rfl
        · exact startsDoes_of_same extend_challengeStarts rfl
      · dsimp only
        split
        · rename_i hfull
          have harrival : arrival world now device.deviceID =
              (retainAfter (startsOf world device.deviceID) (now - 60 * second), false) := if_pos hfull
          refine startsDoes_of_arrival rfl (by rw [harrival]) ?_
          intro challenge hissued
          cases hissued
        · rename_i hroom
          have harrival : arrival world now device.deviceID =
              (retainAfter (startsOf world device.deviceID) (now - 60 * second) ++ [now], true) :=
            if_neg hroom
          split
          · refine startsDoes_of_arrival rfl (by rw [harrival]) ?_
            intro challenge hissued
            cases hissued
          · refine startsDoes_of_arrival extend_challengeStarts (by rw [harrival]) ?_
            intro challenge hissued
            rw [← Option.some.inj hissued, harrival]
            exact ⟨rfl, rfl⟩

/-- No other operation touches the times of the challenges but a new process. -/
theorem other_starts (hchallenge : ∀ certificate request existing draws,
      event.operation ≠ .challenge certificate request existing draws)
    (hrestart : event.operation ≠ .restart) :
    (next (step p) world event).manager.challengeStarts = world.manager.challengeStarts := by
  obtain ⟨now, operation⟩ := event
  cases operation with
  | challenge certificate request existing draws => exact absurd rfl (hchallenge _ _ _ _)
  | openSession certificate request order token =>
      simp only [next, step, openSession]
      split
      · rfl
      · split
        · rfl
        · split
          · rfl
          · rfl
          · split
            · rfl
            · split
              · rfl
              · split <;> rfl
  | authenticate certificate authorization =>
      simp only [next, step, authenticate]
      split
      · split <;> rfl
      · rfl
  | verifySensitive certificate context purpose bodyDigest challengeID signature =>
      simp only [next, step, verifySensitive]
      split
      · rfl
      · split
        · rfl
        · split
          · rfl
          · rfl
          · split <;> rfl
  | accept context succeeds =>
      simp only [next, step, accept]
      split
      · rfl
      · split
        · rfl
        · exact touch_challengeStarts
  | logout context certificate authorization =>
      simp only [next, step, logout]
      split
      · simp only [replayLogout]
        split
        · rfl
        · split <;> rfl
      · rfl
  | invalidateAll | identity authority => rfl
  | restart => exact absurd rfl hrestart

theorem step_starts (h : event.operation ≠ .restart) :
    StartsDoes world event.now deviceID (step p world event) := by
  by_cases hchallenge : ∃ certificate request existing draws,
      event.operation = .challenge certificate request existing draws
  · obtain ⟨certificate, request, existing, draws, hoperation⟩ := hchallenge
    unfold step
    rw [hoperation]
    exact challenge_starts certificate request existing draws
  · have hother : ∀ certificate request existing draws,
        event.operation ≠ .challenge certificate request existing draws :=
      fun certificate request existing draws heq => hchallenge ⟨_, _, _, _, heq⟩
    apply startsDoes_of_same (other_starts hother h)
    cases hissued : (step p world event).2.issued with
    | none => rfl
    | some challenge =>
        obtain ⟨certificate, request, existing, draws, hoperation, -⟩ := issued_by hissued
        exact absurd hoperation (hother certificate request existing draws)

/-- A step keeps what the limiter let in, and a challenge is issued for no more. -/
theorem StartsDoes.kept {result : World × Outcome} (h : StartsDoes world now deviceID result)
    {issued admitted : List Int} (hissued : issued.Sublist admitted)
    (hkept : SlidingWindow.Kept sessionChallengeLimit (60 * second) now admitted
      (startsOf world deviceID)) :
    ∃ admitted', (issued ++ if result.2.issuedFor deviceID then [now] else []).Sublist admitted' ∧
      SlidingWindow.Kept sessionChallengeLimit (60 * second) now admitted'
        (startsOf result.1 deviceID) := by
  cases h with
  | inl hsame =>
      refine ⟨admitted, ?_, ?_⟩
      · simpa [hsame.2] using hissued
      · rw [hsame.1]
        exact hkept
  | inr harrived =>
      have harrive := hkept.arrive (le_refl now)
      refine ⟨if (arrival world now deviceID).2 then admitted ++ [now] else admitted, ?_, ?_⟩
      · by_cases hfor : result.2.issuedFor deviceID = true
        · rw [if_pos hfor, if_pos (harrived.2 hfor)]
          exact hissued.append (List.Sublist.refl _)
        · rw [if_neg hfor, List.append_nil]
          split
          · exact hissued.trans (List.sublist_append_left _ _)
          · exact hissued
      · rw [harrived.1]
        exact harrive

theorem issuedTo_append (world : World) (events : List Event) (event : Event) :
    issuedTo p deviceID world (events ++ [event]) = issuedTo p deviceID world events ++
      if (answer (step p) (run (step p) world events) event).issuedFor deviceID then [event.now]
      else [] := by
  unfold issuedTo
  rw [history_append, List.filter_append, List.map_append]
  simp only [history, List.filter_cons, List.filter_nil]
  split <;> rfl

/-- The limiter of a device keeps what it let in over every run. -/
theorem issued_kept {authority : AuthorityState} {events : List Event} (htimed : Timed events)
    (hrestart : ∀ event ∈ events, event.operation ≠ .restart) {seen : Int}
    (hseen : ∀ event ∈ events, event.now ≤ seen) :
    ∃ admitted, (issuedTo p deviceID (World.initial authority) events).Sublist admitted ∧
      SlidingWindow.Kept sessionChallengeLimit (60 * second) seen admitted
        (startsOf (run (step p) (World.initial authority) events) deviceID) := by
  induction events using List.reverseRecOn generalizing seen with
  | nil => exact ⟨[], List.Sublist.slnil, SlidingWindow.Kept.nil _ _ _⟩
  | append_singleton events event ih =>
      rw [List.forall_mem_append, List.forall_mem_singleton] at hrestart hseen
      have hbefore : ∀ other ∈ events, other.now ≤ event.now := fun other hother =>
        (List.pairwise_append.1 htimed).2.2 other hother event (List.mem_singleton_self _)
      obtain ⟨admitted, hissued, hkept⟩ := ih (List.pairwise_append.1 htimed).1 hrestart.1 hbefore
      obtain ⟨admitted', hissued', hkept'⟩ := (step_starts (p := p) hrestart.2).kept hissued hkept
      rw [run_append_singleton, issuedTo_append]
      exact ⟨admitted', hissued', hkept'.later hseen.2⟩

/-- In every window of a minute, a device is issued five challenges at most. -/
theorem issued_within {authority : AuthorityState} {events : List Event} (htimed : Timed events)
    (hrestart : ∀ event ∈ events, event.operation ≠ .restart) (first : Int) :
    SlidingWindow.within (60 * second) first
      (issuedTo p deviceID (World.initial authority) events) ≤ sessionChallengeLimit := by
  obtain ⟨seen, hseen⟩ : ∃ seen : Int, ∀ event ∈ events, event.now ≤ seen := by
    obtain ⟨seen, hseen⟩ := (events.map Event.now).toFinset.bddAbove
    refine ⟨seen, ?_⟩
    intro event hevent
    exact hseen (by simpa using ⟨event, hevent, rfl⟩)
  obtain ⟨admitted, hissued, hkept⟩ : ∃ admitted,
      (issuedTo p deviceID (World.initial authority) events).Sublist admitted ∧
        SlidingWindow.Kept sessionChallengeLimit (60 * second) seen admitted
          (startsOf (run (step p) (World.initial authority) events) deviceID) :=
    issued_kept htimed hrestart hseen
  exact (hissued.countP_le).trans (hkept.bounded first)

end Challenges

/-! ## Proofs -/

section Proofs

/-- The device whose proof an event carries, well formed but for the signature. -/
def proofOf (world : World) (event : Event) : Option Bytes :=
  match event.operation with
  | .openSession certificate request _ _ =>
      (authorizeActive world.authority certificate event.now).bind fun device =>
        if request.schemaVersion ≠ 1 || !canonicalRawURLBytes request.challengeID 16 then none
        else some device.deviceID
  | .verifySensitive certificate _ purpose _ challengeID _ =>
      (authorizeActive world.authority certificate event.now).bind fun device =>
        if purpose ≠ text "rotate_device" && purpose ≠ text "rotate_recovery_key" ||
          !canonicalRawURLBytes challengeID 16 then none
        else some device.deviceID
  | _ => none

def Answer.isDelayed : Answer → Bool
  | .delayed _ => true
  | _ => false

variable (p : Primitives)

/-- A proof of a device that was evaluated and failed. -/
def fails (deviceID : Bytes) (world : World) (event : Event) : Bool :=
  proofOf world event = some deviceID && (blockDelay world event.now deviceID).isNone &&
    (answer (step p) world event).answer.isDelayed

/-- A proof of a device that holds: it took its challenge, and did not fail. -/
def succeeds (deviceID : Bytes) (world : World) (event : Event) : Bool :=
  proofOf world event = some deviceID && (answer (step p) world event).consumed.isSome &&
    !(answer (step p) world event).answer.isDelayed

/-- When the proofs of a device failed. -/
def failedIn (deviceID : Bytes) : World → List Event → List Int
  | _, [] => []
  | world, event :: events =>
      (if fails p deviceID world event then [event.now] else []) ++
        failedIn deviceID (next (step p) world event) events

/-- An operation that forgets every failure: a new process, or an activation that
invalidates all there is. -/
def Operation.forgets : Operation → Bool
  | .invalidateAll | .restart => true
  | _ => false

/-- A challenge request, or a proof. -/
def Operation.asks : Operation → Bool
  | .challenge .. | .openSession .. | .verifySensitive .. => true
  | _ => false

variable {p} {world : World} {now : Int} {event : Event} {deviceID : Bytes}

/-- What a proof comes to, and what it leaves of the failures. -/
inductive ProofDoes (world : World) (now : Int) (deviceID : Bytes) : World × Outcome → Prop
  /-- The device is shut out: nothing is looked at, and nothing changes. -/
  | blocked (delay : Int) : blockDelay world now deviceID = some delay →
      ProofDoes world now deviceID (world, answered (.delayed delay))
  /-- There is no challenge it could answer. -/
  | refused (result : World × Outcome) : blockDelay world now deviceID = none →
      result.1.manager.failures = world.manager.failures → result.2.answer.isDelayed = false →
      result.2.consumed = none → ProofDoes world now deviceID result
  | failed (result : World × Outcome) : blockDelay world now deviceID = none →
      result.1.manager.failures = (invalidSignature world now deviceID).1.manager.failures →
      result.2.answer.isDelayed = true → ProofDoes world now deviceID result
  | held (result : World × Outcome) : blockDelay world now deviceID = none →
      result.1.manager.failures = (clearFailures world deviceID).manager.failures →
      result.2.answer.isDelayed = false → result.2.consumed.isSome = true →
      ProofDoes world now deviceID result

theorem openSession_does {certificate : Certificate} {request : SessionOpenRequest} {order : Nat}
    {token : Option (Fixed 32)} {device : DeviceRecord}
    (hdevice : authorizeActive world.authority certificate now = some device)
    (hformed : ¬ (request.schemaVersion ≠ 1 || !canonicalRawURLBytes request.challengeID 16) = true) :
    ProofDoes world now device.deviceID
      (openSession p world now certificate request order token) := by
  unfold openSession
  rw [hdevice]
  simp only [if_neg hformed]
  split
  · rename_i delay hblocked
    exact .blocked delay hblocked
  · rename_i hfree _
    exact .failed _ hfree rfl rfl
  · rename_i signature hfree _
    split
    · exact .refused _ hfree rfl rfl rfl
    · split
      · exact .failed _ hfree rfl rfl
      · split
        · exact .held _ hfree rfl rfl rfl
        · exact .held _ hfree rfl rfl rfl

theorem verifySensitive_does {certificate : Certificate} {context : SessionContext}
    {purpose bodyDigest challengeID signature : Bytes} {device : DeviceRecord}
    (hdevice : authorizeActive world.authority certificate now = some device)
    (hformed : ¬ (purpose ≠ text "rotate_device" && purpose ≠ text "rotate_recovery_key" ||
      !canonicalRawURLBytes challengeID 16) = true) :
    ProofDoes world now device.deviceID
      (verifySensitive p world now certificate context purpose bodyDigest challengeID signature) := by
  unfold verifySensitive
  rw [hdevice]
  simp only [if_neg hformed]
  split
  · rename_i delay hblocked
    exact .blocked delay hblocked
  · rename_i hfree _
    exact .refused _ hfree rfl rfl rfl
  · rename_i hfree _
    split
    · exact .failed _ hfree rfl rfl
    · exact .held _ hfree rfl rfl rfl

theorem proof_does (h : proofOf world event = some deviceID) :
    ProofDoes world event.now deviceID (step p world event) := by
  obtain ⟨now, operation⟩ := event
  cases operation with
  | openSession certificate request order token =>
      obtain ⟨device, hdevice, hformed⟩ := Option.bind_eq_some_iff.1 h
      split at hformed
      · cases hformed
      · rename_i hwell
        rw [← Option.some.inj hformed]
        exact openSession_does hdevice hwell
  | verifySensitive certificate context purpose bodyDigest challengeID signature =>
      obtain ⟨device, hdevice, hformed⟩ := Option.bind_eq_some_iff.1 h
      split at hformed
      · cases hformed
      · rename_i hwell
        rw [← Option.some.inj hformed]
        exact verifySensitive_does hdevice hwell
  | challenge | authenticate | accept | logout | invalidateAll | identity | restart => cases h

@[simp] theorem touch_failures :
    (world.touch deviceID now).manager.failures = world.manager.failures := by
  unfold World.touch
  split <;> rfl

@[simp] theorem extend_failures {request : SessionChallengeRequest} :
    (extend world now request deviceID).manager.failures = world.manager.failures := by
  unfold extend
  split
  · exact touch_failures
  · rfl

/-- What carries no proof leaves the failures as they are. -/
theorem other_failures (h : proofOf world event = none) (hkeeps : event.operation.forgets = false) :
    (next (step p) world event).manager.failures = world.manager.failures := by
  obtain ⟨now, operation⟩ := event
  cases operation with
  | challenge certificate request existing draws =>
      simp only [next, step, Sessions.challenge]
      split
      · rfl
      · split
        · rfl
        · split
          · split
            · rfl
            · exact extend_failures
          · split
            · rfl
            · split
              · rfl
              · exact extend_failures
  | openSession certificate request order token =>
      simp only [next, step, openSession]
      split
      · rfl
      · rename_i device hdevice
        split
        · rfl
        · rename_i hformed
          simp only [proofOf, hdevice, Option.bind_some, if_neg hformed] at h
          cases h
  | authenticate certificate authorization =>
      simp only [next, step, authenticate]
      split
      · split <;> rfl
      · rfl
  | verifySensitive certificate context purpose bodyDigest challengeID signature =>
      simp only [next, step, verifySensitive]
      split
      · rfl
      · rename_i device hdevice
        split
        · rfl
        · rename_i hformed
          simp only [proofOf, hdevice, Option.bind_some, if_neg hformed] at h
          cases h
  | accept context succeeds =>
      simp only [next, step, accept]
      split
      · rfl
      · split
        · rfl
        · exact touch_failures
  | logout context certificate authorization =>
      simp only [next, step, logout]
      split
      · simp only [replayLogout]
        split
        · rfl
        · split <;> rfl
      · rfl
  | invalidateAll => cases hkeeps
  | identity authority => rfl
  | restart => cases hkeeps

/-! ### The failures of one device -/

theorem failuresOf_congr {other : World} (h : other.manager.failures = world.manager.failures)
    (deviceID : Bytes) : failuresOf other deviceID = failuresOf world deviceID := by
  rw [failuresOf, failuresOf, h]

/-- What is kept of a device once a proof of it failed. -/
def afterFailure (world : World) (now : Int) (deviceID : Bytes) : SignatureFailures :=
  let starts := retainAfter (failuresOf world deviceID).starts (now - 600 * second) ++ [now]
  ⟨deviceID, starts, if 5 ≤ starts.length then some (now + 300 * second)
    else (failuresOf world deviceID).blockedUntil⟩

theorem failuresOf_invalidSignature (other : Bytes) :
    failuresOf (invalidSignature world now deviceID).1 other =
      if other = deviceID then afterFailure world now deviceID else failuresOf world other := by
  have hfind : Table.find SignatureFailures.deviceID other
      (invalidSignature world now deviceID).1.manager.failures =
      if other = deviceID then some (afterFailure world now deviceID)
      else Table.find SignatureFailures.deviceID other world.manager.failures :=
    Table.find_put other
  rw [failuresOf, hfind]
  by_cases hsame : other = deviceID
  · rw [if_pos hsame, if_pos hsame]
    rfl
  · rw [if_neg hsame, if_neg hsame]
    rfl

theorem failuresOf_clearFailures {other : Bytes} (h : other ≠ deviceID) :
    failuresOf (clearFailures world deviceID) other = failuresOf world other := by
  have hfind : Table.find SignatureFailures.deviceID other
      (clearFailures world deviceID).manager.failures =
      if other = deviceID then none
      else Table.find SignatureFailures.deviceID other world.manager.failures :=
    Table.find_remove other
  rw [failuresOf, hfind, if_neg h]
  rfl

theorem fails_of_other {proving : Bytes} (hproof : proofOf world event = some proving)
    (h : deviceID ≠ proving) : fails p deviceID world event = false := by
  unfold fails
  rw [hproof]
  simp [Ne.symm h]

/-- What a step leaves of the failures of a device: they stay, unless a proof of it failed or
held. -/
theorem step_failures (hkeeps : event.operation.forgets = false) :
    failuresOf (next (step p) world event) deviceID = failuresOf world deviceID ∧
      fails p deviceID world event = false ∨
    failuresOf (next (step p) world event) deviceID = afterFailure world event.now deviceID ∧
      fails p deviceID world event = true ∨
    succeeds p deviceID world event = true ∧ blockDelay world event.now deviceID = none := by
  cases hproof : proofOf world event with
  | none =>
      left
      refine ⟨failuresOf_congr (other_failures hproof hkeeps) deviceID, ?_⟩
      simp [fails, hproof]
  | some proving =>
      have hdoes : ProofDoes world event.now proving (step p world event) := proof_does hproof
      by_cases hsame : deviceID = proving
      · rw [← hsame] at hproof hdoes
        generalize hresult : step p world event = result at hdoes
        have hnext : next (step p) world event = result.1 := congrArg Prod.fst hresult
        have hanswer : answer (step p) world event = result.2 := congrArg Prod.snd hresult
        simp only [fails, succeeds, hproof, hnext, hanswer, decide_true, Bool.true_and]
        cases hdoes with
        | blocked delay hblocked => simp [hblocked]
        | refused _ hfree hfailures hdelayed hconsumed =>
            simp [failuresOf_congr hfailures, hdelayed]
        | failed _ hfree hfailures hdelayed =>
            simp [failuresOf_congr hfailures, failuresOf_invalidSignature, hfree, hdelayed]
        | held _ hfree hfailures hdelayed hconsumed => simp [hfree, hdelayed, hconsumed]
      · left
        refine ⟨?_, fails_of_other hproof hsame⟩
        generalize hresult : step p world event = result at hdoes
        have hnext : next (step p) world event = result.1 := congrArg Prod.fst hresult
        rw [hnext]
        cases hdoes with
        | blocked delay hblocked => rfl
        | refused _ hfree hfailures hdelayed hconsumed => exact failuresOf_congr hfailures deviceID
        | failed _ hfree hfailures hdelayed =>
            rw [failuresOf_congr hfailures, failuresOf_invalidSignature, if_neg hsame]
        | held _ hfree hfailures hdelayed hconsumed =>
            rw [failuresOf_congr hfailures, failuresOf_clearFailures hsame]

/-- How many failures of a device are kept from a time on. -/
def keptFrom (world : World) (deviceID : Bytes) (first : Int) : Nat :=
  (failuresOf world deviceID).starts.countP fun start => first ≤ start

/-- What is in a window is not dropped before the window is over. -/
theorem countP_retainAfter {starts : List Int} {cutoff first : Int} (h : cutoff ≤ first) :
    (retainAfter starts cutoff).countP (fun start => first ≤ start) =
      starts.countP fun start => first ≤ start := by
  unfold retainAfter
  conv => rhs; rw [← List.takeWhile_append_dropWhile (p := fun start => decide (start < cutoff))
    (l := starts), List.countP_append]
  have hnone : (starts.takeWhile fun start => decide (start < cutoff)).countP
      (fun start => first ≤ start) = 0 := by
    rw [List.countP_eq_zero]
    intro start hstart
    have htaken := List.mem_takeWhile_imp hstart
    have hearly : start < cutoff := of_decide_eq_true htaken
    simp only [decide_eq_true_eq]
    omega
  rw [hnone, Nat.zero_add]

/-- The failures of a window are kept as long as none of its proofs holds. -/
theorem keptFrom_run {events : List Event} {first : Int} (htimes : ∀ event ∈ events,
      event.now - 600 * second ≤ first)
    (hadmits : Admits (step p) (fun world event =>
      succeeds p deviceID world event = false ∧ event.operation.forgets = false) world events) :
    (failedIn p deviceID world events).countP (fun time => first ≤ time) +
        keptFrom world deviceID first ≤
      keptFrom (run (step p) world events) deviceID first := by
  induction events generalizing world with
  | nil => simp [failedIn]
  | cons event events ih =>
      rw [List.forall_mem_cons] at htimes
      obtain ⟨⟨hnot, hkeeps⟩, hrest⟩ := hadmits
      have hstep : (if fails p deviceID world event then [event.now] else []).countP
            (fun time => first ≤ time) + keptFrom world deviceID first ≤
          keptFrom (next (step p) world event) deviceID first := by
        rcases @step_failures p world _ deviceID hkeeps with
          ⟨hsame, hfails⟩ | ⟨hafter, hfails⟩ | ⟨hheld, -⟩
        · simp [keptFrom, hsame, hfails]
        · rw [keptFrom, keptFrom, hafter, if_pos hfails]
          show _ ≤ (retainAfter _ _ ++ [event.now]).countP _
          rw [List.countP_append, countP_retainAfter htimes.1]
          omega
        · rw [hnot] at hheld
          cases hheld
      have hrun := ih htimes.2 hrest
      rw [failedIn, List.countP_append, run_cons]
      omega

/-- A device that is shut out until a time. -/
def ShutOut (world : World) (deviceID : Bytes) (until_ : Int) : Prop :=
  (failuresOf world deviceID).blockedUntil = some until_

theorem ShutOut.blockDelay {until_ : Int} (h : ShutOut world deviceID until_) (hnow : now < until_) :
    Sessions.blockDelay world now deviceID = some (until_ - now) := by
  rw [Sessions.blockDelay, h]
  simp [hnow]

/-- Nothing lets a device in before its time. -/
theorem ShutOut.run {until_ : Int} {events : List Event} (h : ShutOut world deviceID until_)
    (hkeeps : ∀ event ∈ events, event.operation.forgets = false) (hnow : ∀ event ∈ events, event.now < until_) :
    ShutOut (run (step p) world events) deviceID until_ := by
  induction events generalizing world with
  | nil => exact h
  | cons event events ih =>
      rw [List.forall_mem_cons] at hkeeps hnow
      apply ih _ hkeeps.2 hnow.2
      have hblocked := h.blockDelay hnow.1
      rcases @step_failures p world _ deviceID hkeeps.1 with
        ⟨hsame, -⟩ | ⟨-, hfails⟩ | ⟨-, hfree⟩
      · rw [ShutOut, hsame]
        exact h
      · simp [fails, hblocked] at hfails
      · rw [hblocked] at hfree
        cases hfree

/-- The fifth failure of a window shuts the device out for five minutes. -/
theorem shutOut_of_fails (hkeeps : event.operation.forgets = false) (hfails : fails p deviceID world event = true)
    (hkept : 4 ≤ keptFrom world deviceID (event.now - 600 * second)) :
    ShutOut (next (step p) world event) deviceID (event.now + 300 * second) := by
  rcases @step_failures p world _ deviceID hkeeps with
    ⟨-, hno⟩ | ⟨hafter, -⟩ | ⟨hheld, -⟩
  · rw [hno] at hfails
    cases hfails
  · have hlength : 5 ≤ (retainAfter (failuresOf world deviceID).starts
        (event.now - 600 * second) ++ [event.now]).length := by
      have hcount := @countP_retainAfter (failuresOf world deviceID).starts _ _
        (le_refl (event.now - 600 * second))
      have hle : (retainAfter (failuresOf world deviceID).starts
          (event.now - 600 * second)).countP (fun start => event.now - 600 * second ≤ start) ≤
          (retainAfter (failuresOf world deviceID).starts (event.now - 600 * second)).length :=
        List.countP_le_length
      rw [keptFrom] at hkept
      rw [List.length_append, List.length_singleton]
      omega
    rw [ShutOut, hafter]
    exact if_pos hlength
  · simp only [fails, succeeds, Bool.and_eq_true] at hfails hheld
    simp [hfails.2] at hheld

/-- A run in which a proof of a device fails, after four that failed in the ten minutes before,
and in which another one comes within five minutes. -/
structure FifthFailure (p : Primitives) (deviceID : Bytes) (world : World) (window : List Event)
    (fifth : Event) (after : List Event) (proof : Event) : Prop where
  timed : Timed (window ++ fifth :: (after ++ [proof]))
  keeps : ∀ event ∈ window ++ fifth :: after, event.operation.forgets = false
  four : 4 ≤ (failedIn p deviceID world window).countP fun time => fifth.now - 600 * second ≤ time
  fails : fails p deviceID (run (step p) world window) fifth = true
  within : proof.now < fifth.now + 300 * second
  proof : proofOf (run (step p) world (window ++ fifth :: after)) proof = some deviceID

/-- Nothing of a proof is evaluated: it is answered with the time that is left, whatever it
is, and changes nothing. -/
def Unevaluated (p : Primitives) (world : World) (proof : Event) (until_ : Int) : Prop :=
  step p world proof = (world, answered (.delayed (until_ - proof.now)))

theorem FifthFailure.unevaluated {window after : List Event} {fifth proof : Event}
    (h : FifthFailure p deviceID world window fifth after proof)
    (hnone : Admits (step p) (fun world event => succeeds p deviceID world event = false) world
      window) :
    Unevaluated p (run (step p) world (window ++ fifth :: after)) proof
      (fifth.now + 300 * second) := by
  have htimed := List.pairwise_append.1 h.timed
  have hlater := List.pairwise_cons.1 htimed.2.1
  have hafter : ∀ event ∈ after, event.now < fifth.now + 300 * second := by
    intro event hevent
    have hbefore := (List.pairwise_append.1 hlater.2).2.2 event hevent proof
      (List.mem_singleton_self _)
    have hwithin := h.within
    omega
  have hwindow : ∀ event ∈ window, event.now - 600 * second ≤ fifth.now - 600 * second := by
    intro event hevent
    have hbefore := htimed.2.2 event hevent fifth List.mem_cons_self
    omega
  have hkeeps := List.forall_mem_append.1 h.keeps
  rw [List.forall_mem_cons] at hkeeps
  have hadmits : Admits (step p) (fun world event =>
      succeeds p deviceID world event = false ∧ event.operation.forgets = false) world window :=
    admits_and hnone hkeeps.1
  have hkept := keptFrom_run hwindow hadmits
  have hshut := shutOut_of_fails hkeeps.2.1 h.fails (by have := h.four; omega)
  have hstill := ShutOut.run (p := p) hshut hkeeps.2.2 hafter
  rw [← run_cons (step p), ← run_append] at hstill
  have hblocked := hstill.blockDelay h.within
  have hdoes : ProofDoes (run (step p) world (window ++ fifth :: after)) proof.now deviceID
      (step p (run (step p) world (window ++ fifth :: after)) proof) := proof_does h.proof
  unfold Unevaluated
  generalize hresult : step p (run (step p) world (window ++ fifth :: after)) proof = result at hdoes
  cases hdoes with
  | blocked delay hdelay =>
      rw [hblocked] at hdelay
      rw [Option.some.inj hdelay]
  | refused _ hfree => rw [hblocked] at hfree; cases hfree
  | failed _ hfree => rw [hblocked] at hfree; cases hfree
  | held _ hfree => rw [hblocked] at hfree; cases hfree

end Proofs

/-- Over every run whose clock never goes back.  A device is issued five new challenges at most
in every window of a minute, as long as one process runs.  After the fifth proof of a device
that failed in ten minutes, none of which held in between, no proof of it is evaluated for
five minutes, whatever else comes in between but an activation or a new process. -/
theorem device_limited (p : Primitives) (deviceID : Bytes) :
    (∀ (authority : AuthorityState) (events : List Event), Timed events →
      (∀ event ∈ events, event.operation ≠ .restart) → ∀ first,
        SlidingWindow.within (60 * second) first
          (issuedTo p deviceID (World.initial authority) events) ≤ 5) ∧
    ∀ (world : World) (window after : List Event) (fifth proof : Event),
      FifthFailure p deviceID world window fifth after proof →
      Admits (step p) (fun world event => succeeds p deviceID world event = false) world window →
      Unevaluated p (run (step p) world (window ++ fifth :: after)) proof
        (fifth.now + 300 * second) := by
  constructor
  · intro authority events htimed hrestart first
    exact issued_within htimed hrestart first
  · intro world window after fifth proof hfifth hnone
    exact hfifth.unevaluated hnone

namespace Sample

open Manager.Sample (certificate firstDevice drawn now signature)

/-- A proof whose signature is none. -/
def malformed : Event :=
  ⟨now, .openSession (certificate (text "2a") firstDevice.1) ⟨1, encodeRawURL (drawn 16 2).1, []⟩ 0
    none⟩

def fourFailures : List Event := List.replicate 4 malformed

end Sample

open Sample Manager.Sample in
theorem device_limited_shutOut :
    Unevaluated primitives
      (run (step primitives) (World.initial Sessions.Sample.authority)
        (fourFailures ++ malformed :: [])) malformed (malformed.now + 300 * second) :=
  (device_limited primitives firstDevice.1).2 (World.initial Sessions.Sample.authority) fourFailures
    [] malformed malformed
    ⟨by decide +kernel, by decide +kernel, by decide +kernel, by decide +kernel, by decide +kernel,
      by decide +kernel⟩ (by decide +kernel)

open Sample Manager.Sample in
/-- Four proofs that failed, one that held and one that failed: the next is evaluated. -/
theorem success_forgets :
    ¬ ∀ (p : Primitives) (deviceID : Bytes) (authority : AuthorityState)
        (window after : List Event) (fifth proof : Event),
      (∀ event ∈ window ++ fifth :: (after ++ [proof]), event.operation.asks = true) →
      FifthFailure p deviceID (World.initial authority) window fifth after proof →
      Unevaluated p (run (step p) (World.initial authority) (window ++ fifth :: after)) proof
        (fifth.now + 300 * second) := by
  intro h
  have hunevaluated := h primitives firstDevice.1 Sessions.Sample.authority
    (fourFailures ++ Sample.opening) [] malformed malformed (by decide +kernel)
    ⟨by decide +kernel, by decide +kernel, by decide +kernel, by decide +kernel, by decide +kernel,
      by decide +kernel⟩
  have hdelay := congrArg (fun result => result.2.answer) hunevaluated
  revert hdelay
  decide +kernel

end Sessions

end YourCloud.Identity
