import YourCloud.Controller.Externals

/-!
# The readings of the declared elements

Snapshots and declarations follow each other in any order.  What an element was found to be
is kept in its last conclusion alone.  That a port has answered is known from it only as long
as no conclusion of another kind was drawn in between: that the machine is unreachable, that
the answer was too large, or that the port is one of this product.

## Main results

* `next_cases` — everything that a step can leave.
* `advanced_run` — an element stays, and the time of its conclusion does not go back.
* `answered_of_held`, `held_of_answered` — what the last conclusion tells of the earlier ones.
* `readings_run` — what every run keeps, and when a port that fell silent is contradicted.
-/

namespace YourCloud.Controller.Externals

open YourCloud.Foundation
open YourCloud.Observation

/-! ## Runs -/

inductive Event where
  | declare (declaration : ExternalDeclaration) (machineAttached : Bool) (now : Instant)
      (random : Bytes) (failure : Option Sentence)
  | absorb (snapshot : Option RelaySnapshot) (failure : Option Sentence)

inductive Answer where
  | declared (result : Except Sentence (ExternalElement × Nat))
  | absorbed (result : Except Sentence Unit)

def step (store : ExternalStore) : Event → ExternalStore × Answer
  | .declare declaration machineAttached now random failure =>
      let (store, result) := declare declaration machineAttached now random failure store
      (store, .declared result)
  | .absorb snapshot failure =>
      let (store, result) := absorbSnapshot snapshot failure store
      (store, .absorbed result)

/-- The store of an installation without a file. -/
def newStore (controllerID infrastructureID : Bytes) : ExternalStore where
  controllerID := controllerID
  infrastructureID := infrastructureID
  state :=
    { schemaVersion := externalSchema, controllerID, infrastructureID, externalRevision := 0
      elements := some [] }

/-- The elements that a store serves. -/
def ExternalStore.elements (store : ExternalStore) : List ExternalElement :=
  store.state.elements.items

theorem next_declare (store : ExternalStore) (declaration : ExternalDeclaration)
    (machineAttached : Bool) (now : Instant) (random : Bytes) (failure : Option Sentence) :
    next step store (.declare declaration machineAttached now random failure) =
      (declare declaration machineAttached now random failure store).1 := rfl

theorem next_absorb (store : ExternalStore) (snapshot : Option RelaySnapshot)
    (failure : Option Sentence) :
    next step store (.absorb snapshot failure) = (absorbSnapshot snapshot failure store).1 := rfl

/-! ## What a step leaves -/

/-- A state that may be committed by a store. -/
structure Committed (store : ExternalStore) (state : ExternalInventory) : Prop where
  valid : validateExternalInventory state = .ok ()
  controller : state.controllerID = store.controllerID
  infrastructure : state.infrastructureID = store.infrastructureID

/-- A step changes nothing, or adds an element, or records what a snapshot says. -/
theorem next_cases (store : ExternalStore) (event : Event) :
    next step store event = store ∨
      (∃ index element, element.observation = none ∧ index ≤ store.elements.length ∧
        Committed store (store.state.insert index element) ∧
        next step store event = { store with state := store.state.insert index element }) ∨
      ∃ snapshot, event = .absorb (some snapshot) none ∧
        (parseCanonicalUTC snapshot.snapshotAt).isOk = true ∧
        store.state.externalRevision ≠ maxRevision ∧
        (∃ element ∈ store.elements, ∃ recorded,
          recordedReading snapshot element = some recorded) ∧
        Committed store (store.state.absorb snapshot) ∧
        next step store event = { store with state := store.state.absorb snapshot } := by
  cases event with
  | declare declaration machineAttached now random failure =>
      rw [next_declare]
      rcases declare_cases declaration machineAttached now random failure store with
        hsame | ⟨index, element, hnone, hindex, hnext, hvalid, hcontroller, hinfrastructure⟩
      · exact Or.inl hsame
      · exact Or.inr (Or.inl ⟨index, element, hnone, hindex,
          ⟨hvalid, hcontroller, hinfrastructure⟩, hnext⟩)
  | absorb snapshot failure =>
      rw [next_absorb]
      rcases absorb_cases snapshot failure store with ⟨hsame, -⟩ |
        ⟨read, rfl, rfl, hat, hrevision, hrecorded, hnext, hvalid, hcontroller, hinfrastructure⟩
      · exact Or.inl hsame
      · refine Or.inr (Or.inr ⟨read, rfl, hat, hrevision, hrecorded,
          ⟨hvalid, hcontroller, hinfrastructure⟩, ?_⟩)
        rw [hnext]

/-- What is served passes; and where it is not empty it was committed. -/
structure Kept (store : ExternalStore) : Prop where
  elements : validateElements [] 0 [] 0 store.elements = .ok ()
  committed : store.elements ≠ [] → Committed store store.state

theorem Committed.kept {store later : ExternalStore} {state : ExternalInventory}
    (h : Committed store state) (hlater : later = { store with state := state }) :
    Kept later := by
  rw [hlater]
  exact ⟨(validateExternalInventory_ok.1 h.valid).2,
    fun _ => ⟨h.valid, h.controller, h.infrastructure⟩⟩

theorem kept_step {store : ExternalStore} (h : Kept store) (event : Event) :
    Kept (next step store event) := by
  rcases next_cases store event with hsame | ⟨index, element, -, -, hcommitted, hnext⟩ |
    ⟨snapshot, -, -, -, -, hcommitted, hnext⟩
  · rwa [hsame]
  · exact hcommitted.kept hnext
  · exact hcommitted.kept hnext

theorem Kept.unique {store : ExternalStore} (h : Kept store) {a b : ExternalElement}
    (ha : a ∈ store.elements) (hb : b ∈ store.elements) (hname : a.elementID = b.elementID) :
    a = b :=
  List.inj_on_of_nodup_map (validateElements_ok h.elements).1 ha hb hname

theorem Kept.dated {store : ExternalStore} (h : Kept store) {element : ExternalElement}
    (hmem : element ∈ store.elements) {held : ExternalObservation}
    (hheld : element.observation = some held) :
    notBefore held.observedAt held.observedAt = true := by
  have hvalid := (validateElements_ok h.elements).2.2 element hmem held hheld
  have hdate : (parseCanonicalUTC held.observedAt).isOk = true := by
    unfold validateExternalObservation at hvalid
    dsimp only at hvalid
    split at hvalid
    · obtain ⟨_, -, hdate⟩ := bind_ok_iff.1 hvalid
      exact demand_eq_ok.1 hdate
    · split at hvalid
      · obtain ⟨_, -, hdate⟩ := bind_ok_iff.1 hvalid
        exact demand_eq_ok.1 hdate
      · cases hvalid
  cases hparsed : parseCanonicalUTC held.observedAt with
  | error reason =>
      rw [hparsed] at hdate
      cases hdate
  | ok t => exact notBefore_iff.2 ⟨t, t, hparsed, hparsed, le_refl t⟩

/-! ## Times -/

/-- An element beside the one of its name later: what was held is not forgotten, and the time
of what is held is not an earlier one. -/
def Advances (element later : ExternalElement) : Prop :=
  later.elementID = element.elementID ∧ ∀ held, element.observation = some held →
    ∃ held', later.observation = some held' ∧ notBefore held.observedAt held'.observedAt = true

theorem Advances.trans {a b c : ExternalElement} (hab : Advances a b) (hbc : Advances b c) :
    Advances a c := by
  refine ⟨hbc.1.trans hab.1, ?_⟩
  intro held hheld
  obtain ⟨held', hheld', hfirst⟩ := hab.2 held hheld
  obtain ⟨held'', hheld'', hsecond⟩ := hbc.2 held' hheld'
  obtain ⟨t, u, ht, hu, htu⟩ := notBefore_iff.1 hfirst
  obtain ⟨u', v, hu', hv, huv⟩ := notBefore_iff.1 hsecond
  rw [Except.ok.inj (hu.symm.trans hu')] at htu
  exact ⟨held'', hheld'', notBefore_iff.2 ⟨t, v, ht, hv, le_trans htu huv⟩⟩

/-- An element stays, and its time does not go back. -/
theorem advanced_step {store : ExternalStore} (h : Kept store) (event : Event)
    {element : ExternalElement} (hmem : element ∈ store.elements) :
    ∃ later ∈ (next step store event).elements, Advances element later := by
  have hself : Advances element element := ⟨rfl, fun held hheld => ⟨held, hheld, h.dated hmem hheld⟩⟩
  rcases next_cases store event with hsame | ⟨index, new, -, hindex, -, hnext⟩ |
    ⟨snapshot, -, -, -, -, -, hnext⟩
  · rw [hsame]
    exact ⟨element, hmem, hself⟩
  · rw [hnext]
    exact ⟨element, (List.mem_insertIdx hindex).2 (Or.inr hmem), hself⟩
  · rw [hnext]
    refine ⟨element.absorb snapshot, List.mem_map_of_mem hmem, rfl, ?_⟩
    intro held hheld
    cases hrecorded : recordedReading snapshot element with
    | none =>
        rw [absorb_of_none hrecorded]
        exact ⟨held, hheld, h.dated hmem hheld⟩
    | some recorded =>
        rw [absorb_of_some hrecorded]
        have hfollows := (recordedReading_eq_some.1 hrecorded).2 held hheld
        rw [follows, Bool.and_eq_true] at hfollows
        exact ⟨recorded, rfl, hfollows.2⟩

theorem advanced_run {store : ExternalStore} (h : Kept store) {element : ExternalElement}
    (hmem : element ∈ store.elements) (es : List Event) :
    ∃ later ∈ (run step store es).elements, Advances element later := by
  induction es generalizing store element with
  | nil => exact ⟨element, hmem, rfl, fun held hheld => ⟨held, hheld, h.dated hmem hheld⟩⟩
  | cons event es ih =>
      obtain ⟨later, hlater, hfirst⟩ := advanced_step h event hmem
      obtain ⟨last, hlast, hrest⟩ := ih (kept_step h event) hlater
      exact ⟨last, hlast, hfirst.trans hrest⟩

/-! ## Revisions -/

/-- The revision goes up by one with the elements, and where they do not change nothing does. -/
theorem revision_step (store : ExternalStore) (event : Event) :
    if (next step store event).state.elements = store.state.elements then
      next step store event = store
    else (next step store event).state.externalRevision = store.state.externalRevision + 1 := by
  rcases next_cases store event with hsame | ⟨index, element, -, hindex, -, hnext⟩ |
    ⟨snapshot, -, -, -, ⟨element, hmem, recorded, hrecorded⟩, -, hnext⟩
  · rw [hsame, if_pos rfl]
  · rw [hnext, if_neg]
    · rfl
    · intro hsame
      have hlength := congrArg (fun elements => elements.items.length) hsame
      change (store.elements.insertIdx index element).length = store.elements.length at hlength
      rw [List.length_insertIdx_of_le_length hindex] at hlength
      omega
  · rw [hnext, if_neg]
    · rfl
    · intro hsame
      have hitems := congrArg Slice.items hsame
      change store.elements.map (ExternalElement.absorb snapshot) = store.elements at hitems
      have hunchanged := List.map_inj_left.1 (hitems.trans (List.map_id store.elements).symm)
      rw [absorb_eq_iff.1 (hunchanged element hmem)] at hrecorded
      cases hrecorded

/-! ## Snapshots absorbed twice -/

/-- A snapshot that was absorbed changes nothing when it is absorbed again. -/
theorem absorb_again {store later : ExternalStore} {snapshot : Option RelaySnapshot}
    {failure : Option Sentence}
    (h : absorbSnapshot snapshot failure store = (later, .ok ())) (again : Option Sentence) :
    absorbSnapshot snapshot again later = (later, .ok ()) := by
  rcases absorb_cases snapshot failure store with ⟨hsame, hagain⟩ |
    ⟨read, rfl, -, hat, -, -, hnext, -⟩
  · rw [h] at hsame hagain
    rw [show later = store from hsame]
    exact hagain rfl again
  · rw [hnext] at h
    rw [← (Prod.mk.inj h).1]
    unfold absorbSnapshot
    dsimp only
    rw [if_neg (by simp [hat]), if_pos]
    show (store.elements.map (ExternalElement.absorb read)).all
      (fun element => (recordedReading read element).isNone) = true
    simp [recordedReading_absorb]

/-! ## What is known of a port

The last conclusion tells that the port was found answering where it is verified or
contradicted. -/

/-- The date of a reading that tells neither that a port answers nor that nothing listens. -/
def maskedAt (snapshot : RelaySnapshot) (element : ExternalElement) : Option Bytes :=
  match observationOf snapshot element.machineID with
  | none => some snapshot.snapshotAt
  | some current =>
      (readingForPort current.external.items element.probePort).bind fun outcome =>
        if outcome = externalTooLarge || outcome = externalManaged then some current.observedAt
        else none

/-- Whether such a reading takes the place of one that tells that the port had answered. -/
def masks (snapshot : RelaySnapshot) (element : ExternalElement) : Bool :=
  element.observation.any fun held => held.answered &&
    (maskedAt snapshot element).any fun date => notBefore held.observedAt date

/-- Whether the last conclusion tells that the port was found answering. -/
def ExternalElement.heldAnswered (element : ExternalElement) : Bool :=
  element.observation.any ExternalObservation.answered

section Masks

variable {snapshot : RelaySnapshot} {element : ExternalElement}
  {recorded concluded : ExternalObservation}

/-- What is recorded of a port that had answered tells so, unless it is masked. -/
theorem masks_of_recorded (hheld : element.heldAnswered = true)
    (hrecorded : recordedReading snapshot element = some recorded)
    (hlost : recorded.answered = false) : masks snapshot element = true := by
  obtain ⟨held, hobservation, hanswered⟩ := Option.any_eq_true _ _ |>.1 hheld
  obtain ⟨hconcluded, hfollows⟩ := recordedReading_eq_some.1 hrecorded
  have hdates := hfollows held hobservation
  rw [follows, Bool.and_eq_true] at hdates
  have hmasked : maskedAt snapshot element = some recorded.observedAt := by
    unfold maskedAt
    rcases concludeExternalReading_cases hconcluded with ⟨hnone, -, hsame⟩ |
      ⟨current, outcome, hcurrent, houtcome, hconclusion, -⟩
    · rw [hnone, hsame]
    · rw [hcurrent]
      dsimp only
      rw [houtcome]
      rcases conclusionOf_cases hconclusion with ⟨-, hsame⟩ |
        (⟨hlarge, hsame⟩ | ⟨hmanaged, hsame⟩) | ⟨-, hsame⟩
      · rw [hsame] at hlost
        cases hlost
      · simp [hlarge, hsame]
      · simp [hmanaged, hsame]
      · change element.observation.any ExternalObservation.answered = true at hheld
        rw [hheld, if_pos rfl] at hsame
        rw [hsame] at hlost
        cases hlost
  unfold masks
  rw [hobservation, hmasked]
  simp [hanswered, hdates.2]

/-- Where a reading is masked, it is recorded. -/
theorem recorded_of_masks (h : masks snapshot element = true) :
    element.heldAnswered = true ∧ ∃ recorded, recordedReading snapshot element = some recorded ∧
      recorded.answered = false := by
  obtain ⟨held, hobservation, hmasks⟩ := Option.any_eq_true _ _ |>.1 h
  rw [Bool.and_eq_true] at hmasks
  obtain ⟨hanswered, hmasks⟩ := hmasks
  obtain ⟨date, hmasked, hdates⟩ := Option.any_eq_true _ _ |>.1 hmasks
  have hheld : element.heldAnswered = true := by
    unfold ExternalElement.heldAnswered
    rw [hobservation]
    exact hanswered
  refine ⟨hheld, ?_⟩
  obtain ⟨-, t, -, ht, -⟩ := notBefore_iff.1 hdates
  have hdate : (parseCanonicalUTC date).isOk = true := by
    rw [ht]
    rfl
  -- Whatever masks the port is concluded, at that date.
  have hconcluded : ∃ reason, concludeExternalReading element snapshot =
      some ⟨stateUnverifiable, reason, date⟩ := by
    unfold maskedAt at hmasked
    unfold concludeExternalReading
    cases hcurrent : observationOf snapshot element.machineID with
    | none =>
        rw [hcurrent] at hmasked
        rw [hobservation]
        dsimp only
        rw [if_neg, Option.some.inj hmasked]
        · exact ⟨_, rfl⟩
        · rintro ⟨hstate, -⟩
          have hunverifiable : held.answered = false := by
            unfold ExternalObservation.answered
            rw [hstate]
            rfl
          rw [hanswered] at hunverifiable
          cases hunverifiable
    | some current =>
        rw [hcurrent] at hmasked
        dsimp only at hmasked ⊢
        obtain ⟨outcome, houtcome, hmasked⟩ := Option.bind_eq_some_iff.1 hmasked
        rw [houtcome]
        dsimp only
        by_cases hkind : (outcome = externalTooLarge || outcome = externalManaged) = true
        · rw [if_pos hkind] at hmasked
          rw [Option.some.inj hmasked]
          rw [Bool.or_eq_true, decide_eq_true_eq, decide_eq_true_eq] at hkind
          cases hkind with
          | inl hlarge =>
              refine ⟨reasonResponseTooLarge, Option.filter_eq_some_iff.2 ⟨?_, ?_⟩⟩
              · rw [hlarge]
                rfl
              · exact isOk_iff.2 (demand_eq_ok.2 hdate)
          | inr hmanaged =>
              refine ⟨reasonPortIsManaged, Option.filter_eq_some_iff.2 ⟨?_, ?_⟩⟩
              · rw [hmanaged]
                rfl
              · exact isOk_iff.2 (demand_eq_ok.2 hdate)
        · rw [if_neg hkind] at hmasked
          cases hmasked
  obtain ⟨reason, hconcluded⟩ := hconcluded
  refine ⟨_, recordedReading_eq_some.2 ⟨hconcluded, ?_⟩, answered_unverifiable reason date⟩
  intro other hother
  rw [← Option.some.inj (hobservation.symm.trans hother)]
  have hother : held ≠ ⟨stateUnverifiable, reason, date⟩ := by
    intro hsame
    rw [hsame, answered_unverifiable] at hanswered
    cases hanswered
  rw [follows, Bool.and_eq_true]
  exact ⟨decide_eq_true hother, hdates⟩

/-- A silence is a contradiction where the last conclusion tells that the port had answered. -/
theorem contradicted_iff {current : RelaySnapshotObservation}
    (hcurrent : observationOf snapshot element.machineID = some current)
    (hsilent : readingForPort current.external.items element.probePort = some externalNoListener)
    (h : concludeExternalReading element snapshot = some concluded) :
    concluded.state = stateContradicted ↔ element.heldAnswered = true := by
  rcases concludeExternalReading_cases h with ⟨hnone, -, -⟩ |
    ⟨current', outcome, hcurrent', houtcome, hconclusion, -⟩
  · rw [hcurrent] at hnone
    cases hnone
  · rw [← Option.some.inj (hcurrent.symm.trans hcurrent'), hsilent] at houtcome
    rw [← Option.some.inj houtcome] at hconclusion
    unfold ExternalElement.heldAnswered
    cases hheld : element.observation.any ExternalObservation.answered with
    | true =>
        rw [hheld] at hconclusion
        rw [← Option.some.inj hconclusion]
        exact iff_of_true rfl rfl
    | false =>
        rw [hheld] at hconclusion
        rw [← Option.some.inj hconclusion]
        exact iff_of_false (show ¬ stateUnverifiable = stateContradicted by decide) (by decide)

end Masks

/-! ## What was answered before -/

section Histories

variable (controllerID infrastructureID : Bytes)

/-- The store of an installation after some events. -/
def after (es : List Event) : ExternalStore := run step (newStore controllerID infrastructureID) es

/-- At some time the reading recorded of an element had found its port answering. -/
def Answered (es : List Event) (elementID : Bytes) : Prop :=
  ∃ before more, es = before ++ more ∧
    ∃ element ∈ (after controllerID infrastructureID before).elements,
      element.elementID = elementID ∧
      ∃ held, element.observation = some held ∧ held.state = stateVerified

/-- No reading is masked by a snapshot that can be recorded. -/
def Unmasked (store : ExternalStore) : Event → Prop
  | .absorb (some snapshot) none =>
      (parseCanonicalUTC snapshot.snapshotAt).isOk = true →
      store.state.externalRevision ≠ maxRevision →
      ∀ element ∈ store.elements, masks snapshot element = false
  | _ => True

/-- A reading that finds nothing listening on the port of an element concludes contradicted
exactly where an earlier one had found the port answering. -/
def Contradicts (es : List Event) : Prop :=
  ∀ element ∈ (after controllerID infrastructureID es).elements, ∀ snapshot current concluded,
    observationOf snapshot element.machineID = some current →
    readingForPort current.external.items element.probePort = some externalNoListener →
    concludeExternalReading element snapshot = some concluded →
    (concluded.state = stateContradicted ↔
      Answered controllerID infrastructureID es element.elementID)

variable {controllerID infrastructureID} {es : List Event} {event : Event}

theorem after_concat : after controllerID infrastructureID (es ++ [event]) =
    next step (after controllerID infrastructureID es) event := by
  unfold after
  rw [run_append]
  rfl

theorem kept_run (es : List Event) : Kept (after controllerID infrastructureID es) := by
  have hnew : Kept (newStore controllerID infrastructureID) := ⟨rfl, fun h => absurd rfl h⟩
  have hstep : ∀ store event, Kept store → Kept (next step store event) :=
    fun store event h => kept_step h event
  exact run_invariant hstep hnew es

theorem Answered.append {elementID : Bytes}
    (h : Answered controllerID infrastructureID es elementID) (fs : List Event) :
    Answered controllerID infrastructureID (es ++ fs) elementID := by
  obtain ⟨before, more, hsplit, hanswered⟩ := h
  refine ⟨before, more ++ fs, ?_, hanswered⟩
  rw [hsplit, List.append_assoc]

/-- What was answered by some time was so before the last event, or is so after it. -/
theorem answered_concat {elementID : Bytes}
    (h : Answered controllerID infrastructureID (es ++ [event]) elementID) :
    Answered controllerID infrastructureID es elementID ∨
      ∃ element ∈ (after controllerID infrastructureID (es ++ [event])).elements,
        element.elementID = elementID ∧ element.heldAnswered = true := by
  obtain ⟨before, more, hsplit, element, hmem, hname, held, hheld, hverified⟩ := h
  cases more using List.reverseRecOn with
  | nil =>
      rw [List.append_nil] at hsplit
      rw [hsplit]
      refine Or.inr ⟨element, hmem, hname, ?_⟩
      unfold ExternalElement.heldAnswered ExternalObservation.answered
      rw [hheld, Option.any_some, hverified]
      rfl
  | append_singleton more last =>
      rw [← List.append_assoc] at hsplit
      exact Or.inl ⟨before, more, (List.append_inj' hsplit rfl).1, element, hmem, hname, held,
        hheld, hverified⟩

/-- What was answered of stays declared. -/
theorem Answered.declared {elementID : Bytes}
    (h : Answered controllerID infrastructureID es elementID) :
    ∃ element ∈ (after controllerID infrastructureID es).elements,
      element.elementID = elementID := by
  obtain ⟨before, more, hsplit, element, hmem, hname, -⟩ := h
  obtain ⟨later, hlater, hadvances⟩ := advanced_run (kept_run before) hmem more
  refine ⟨later, ?_, hadvances.1.trans hname⟩
  rw [hsplit]
  unfold after
  rwa [run_append]

/-- The last conclusion tells that the port had answered only where it had. -/
theorem answered_of_held (es : List Event) :
    ∀ element ∈ (after controllerID infrastructureID es).elements,
      element.heldAnswered = true →
      Answered controllerID infrastructureID es element.elementID := by
  induction es using List.reverseRecOn with
  | nil => simp [after, newStore, ExternalStore.elements, Slice.items]
  | append_singleton es event ih =>
      intro element hmem hheld
      have hafter : after controllerID infrastructureID (es ++ [event]) =
          next step (after controllerID infrastructureID es) event := after_concat
      rcases next_cases (after controllerID infrastructureID es) event with
        hsame | ⟨index, new, hnone, hindex, -, hnext⟩ | ⟨snapshot, -, -, -, -, -, hnext⟩
      · rw [hafter, hsame] at hmem
        exact (ih element hmem hheld).append [event]
      · rw [hafter, hnext] at hmem
        cases (List.mem_insertIdx hindex).1 hmem with
        | inl hnew =>
            rw [hnew, ExternalElement.heldAnswered, hnone] at hheld
            cases hheld
        | inr hold => exact (ih element hold hheld).append [event]
      · have hmem' := hmem
        rw [hafter, hnext] at hmem
        obtain ⟨old, hold, rfl⟩ := List.mem_map.1 hmem
        cases hrecorded : recordedReading snapshot old with
        | none =>
            rw [absorb_of_none hrecorded] at hheld ⊢
            exact (ih old hold hheld).append [event]
        | some recorded =>
            rw [absorb_of_some hrecorded] at hheld hmem' ⊢
            by_cases hverified : recorded.state = stateVerified
            · exact ⟨es ++ [event], [], (List.append_nil _).symm, _, hmem', rfl, recorded, rfl,
                hverified⟩
            · -- A contradiction follows what had told so before.
              have hbefore : old.heldAnswered = true := by
                change recorded.answered = true at hheld
                rcases concludeExternalReading_cases (recordedReading_eq_some.1 hrecorded).1 with
                  ⟨-, -, hsame⟩ | ⟨current, outcome, -, -, hconclusion, -⟩
                · rw [hsame] at hheld
                  cases hheld
                · rcases conclusionOf_cases hconclusion with ⟨-, hsame⟩ |
                    (⟨-, hsame⟩ | ⟨-, hsame⟩) | ⟨-, hsame⟩
                  · rw [hsame] at hverified
                    exact absurd rfl hverified
                  · rw [hsame] at hheld
                    cases hheld
                  · rw [hsame] at hheld
                    cases hheld
                  · by_contra hnever
                    change ¬ old.observation.any ExternalObservation.answered = true at hnever
                    rw [if_neg hnever] at hsame
                    rw [hsame] at hheld
                    cases hheld
              exact (ih old hold hbefore).append [event]

/-- Where no reading is masked, the last conclusion tells that the port had answered. -/
theorem held_of_answered
    (hes : Admits step Unmasked (newStore controllerID infrastructureID) es) :
    ∀ element ∈ (after controllerID infrastructureID es).elements,
      Answered controllerID infrastructureID es element.elementID →
      element.heldAnswered = true := by
  induction es using List.reverseRecOn with
  | nil => simp [after, newStore, ExternalStore.elements, Slice.items]
  | append_singleton es event ih =>
      intro element hmem hanswered
      obtain ⟨hes, hevent⟩ := (admits_append step).1 hes
      have hkept : Kept (after controllerID infrastructureID (es ++ [event])) := kept_run _
      cases answered_concat hanswered with
      | inr hnow =>
          obtain ⟨other, hother, hname, hheld⟩ := hnow
          rwa [← hkept.unique hother hmem hname]
      | inl hbefore =>
          -- The element was there, and what it was told so.
          obtain ⟨old, hold, hname⟩ := hbefore.declared
          have hheld : old.heldAnswered = true := ih hes old hold (hname ▸ hbefore)
          have hafter : after controllerID infrastructureID (es ++ [event]) =
              next step (after controllerID infrastructureID es) event := after_concat
          rcases next_cases (after controllerID infrastructureID es) event with
            hsame | ⟨index, new, -, hindex, -, hnext⟩ |
            ⟨snapshot, rfl, hat, hrevision, -, -, hnext⟩
          · have hthere : old ∈ (after controllerID infrastructureID (es ++ [event])).elements := by
              rwa [hafter, hsame]
            rwa [← hkept.unique hthere hmem hname]
          · have hthere : old ∈ (after controllerID infrastructureID (es ++ [event])).elements := by
              rw [hafter, hnext]
              exact (List.mem_insertIdx hindex).2 (Or.inr hold)
            rwa [← hkept.unique hthere hmem hname]
          · have hthere : old.absorb snapshot ∈ (after controllerID infrastructureID
                (es ++ [.absorb (some snapshot) none])).elements := by
              rw [hafter, hnext]
              exact List.mem_map_of_mem hold
            rw [← hkept.unique hthere hmem hname]
            cases hrecorded : recordedReading snapshot old with
            | none => rwa [absorb_of_none hrecorded]
            | some recorded =>
                rw [absorb_of_some hrecorded]
                by_contra hlost
                change ¬ recorded.answered = true at hlost
                have hmasks := masks_of_recorded hheld hrecorded (by simpa using hlost)
                rw [hevent.1 hat hrevision old hold] at hmasks
                cases hmasks

theorem contradicts_of_admits
    (hes : Admits step Unmasked (newStore controllerID infrastructureID) es) :
    Contradicts controllerID infrastructureID es := by
  intro element hmem snapshot current concluded hcurrent hsilent hconcluded
  rw [contradicted_iff hcurrent hsilent hconcluded]
  constructor
  · exact answered_of_held es element hmem
  · exact held_of_answered hes element hmem

end Histories

/-! ## A port where nothing listens -/

/-- What a machine reports that has looked at one port. -/
def readingOf (machineID : Bytes) (port : Int) (outcome observedAt : Bytes) :
    RelaySnapshotObservation where
  schemaVersion := 1
  machineID := machineID
  daemonVersion := []
  profile := []
  sequence := 1
  observedAt := observedAt
  receivedAt := observedAt
  gaps := some []
  health := ⟨⟨statusError, none, errorRead⟩, ⟨statusError, none, none, errorRead⟩,
    ⟨statusError, none, none, errorRead⟩⟩
  external := some [⟨port, outcome⟩]

/-- The snapshot that carries what one machine reports, if anything. -/
def snapshotOf (machineID snapshotAt : Bytes) (observation : Option RelaySnapshotObservation) :
    RelaySnapshot where
  schemaVersion := 1
  infrastructureID := []
  controllerID := []
  snapshotAt := snapshotAt
  machines := some [⟨machineID, text "active", observation⟩]

theorem observationOf_snapshotOf (machineID snapshotAt : Bytes)
    (observation : Option RelaySnapshotObservation) :
    observationOf (snapshotOf machineID snapshotAt observation) machineID = observation := by
  simp [observationOf, snapshotOf, Slice.items, machinesByID, Table.find_put]

theorem readingForPort_readingOf (machineID : Bytes) (port : Int) (outcome observedAt : Bytes) :
    readingForPort (readingOf machineID port outcome observedAt).external.items port =
      some outcome := by
  simp [readingForPort, readingOf, Slice.items]

/-- At any date, something is concluded of a port where nothing listens. -/
theorem silence_concluded (element : ExternalElement) {observedAt : Bytes}
    (hdate : (parseCanonicalUTC observedAt).isOk = true) :
    ∃ concluded, concludeExternalReading element (snapshotOf element.machineID observedAt
      (some (readingOf element.machineID element.probePort externalNoListener observedAt))) =
        some concluded := by
  unfold concludeExternalReading
  rw [observationOf_snapshotOf]
  dsimp only
  rw [readingForPort_readingOf]
  dsimp only
  cases element.observation.any ExternalObservation.answered with
  | true => exact ⟨_, Option.filter_eq_some_iff.2 ⟨rfl, isOk_iff.2 (demand_eq_ok.2 hdate)⟩⟩
  | false => exact ⟨_, Option.filter_eq_some_iff.2 ⟨rfl, isOk_iff.2 (demand_eq_ok.2 hdate)⟩⟩

section Runs

variable (controllerID infrastructureID : Bytes)

/-- Where the next step masks a reading, a silence after it is not the contradiction it is. -/
theorem unmasked_of_contradicts {es : List Event} {event : Event}
    (h : Contradicts controllerID infrastructureID (es ++ [event])) :
    Unmasked (after controllerID infrastructureID es) event := by
  cases event with
  | declare declaration machineAttached now random failure => exact trivial
  | absorb snapshot failure =>
      cases snapshot with
      | none => exact trivial
      | some snapshot =>
          cases failure with
          | some reason => exact trivial
          | none =>
              intro hat hrevision element hmem
              by_contra hmasked
              obtain ⟨hheld, recorded, hrecorded, hlost⟩ :=
                recorded_of_masks (by simpa using hmasked)
              have hkept : Kept (after controllerID infrastructureID es) := kept_run es
              have hcommitted := hkept.committed (List.ne_nil_of_mem hmem)
              have hvalid := absorbed_valid hat hcommitted.valid
              -- The masking reading is recorded.
              have hnext : after controllerID infrastructureID
                  (es ++ [.absorb (some snapshot) none]) =
                  { after controllerID infrastructureID es with
                    state := (after controllerID infrastructureID es).state.absorb snapshot } := by
                rw [after_concat, next_absorb]
                unfold absorbSnapshot
                dsimp only
                rw [if_neg (by simp [hat]), if_neg, if_neg hrevision]
                · unfold ExternalStore.commit
                  rw [hvalid]
                  dsimp only
                  rw [if_neg]
                  rintro (hcontroller | hinfrastructure)
                  · exact hcontroller hcommitted.controller
                  · exact hinfrastructure hcommitted.infrastructure
                · intro hall
                  have hnone := List.all_eq_true.1 hall element hmem
                  rw [hrecorded] at hnone
                  cases hnone
              have hlater : element.absorb snapshot ∈ (after controllerID infrastructureID
                  (es ++ [.absorb (some snapshot) none])).elements := by
                rw [hnext]
                exact List.mem_map_of_mem hmem
              have hanswered := (answered_of_held es element hmem hheld).append
                [.absorb (some snapshot) none]
              obtain ⟨concluded, hconcluded⟩ :=
                silence_concluded (element.absorb snapshot) hat
              have hcurrent := observationOf_snapshotOf (element.absorb snapshot).machineID
                snapshot.snapshotAt (some (readingOf (element.absorb snapshot).machineID
                  (element.absorb snapshot).probePort externalNoListener snapshot.snapshotAt))
              have hsilent := readingForPort_readingOf (element.absorb snapshot).machineID
                (element.absorb snapshot).probePort externalNoListener snapshot.snapshotAt
              have hstate := (h _ hlater _ _ concluded hcurrent hsilent hconcluded).2 hanswered
              rw [contradicted_iff hcurrent hsilent hconcluded, absorb_of_some hrecorded] at hstate
              change recorded.answered = true at hstate
              rw [hlost] at hstate
              cases hstate

theorem admits_of_contradicts (es : List Event)
    (h : ∀ before more, es = before ++ more → Contradicts controllerID infrastructureID before) :
    Admits step Unmasked (newStore controllerID infrastructureID) es := by
  induction es using List.reverseRecOn with
  | nil => exact trivial
  | append_singleton es event ih =>
      refine (admits_append step).2 ⟨ih ?_, ?_, trivial⟩
      · intro before more hsplit
        exact h before (more ++ [event]) (by rw [hsplit, List.append_assoc])
      · exact unmasked_of_contradicts controllerID infrastructureID
          (h (es ++ [event]) [] (List.append_nil _).symm)

/-- Over every run of snapshots and declarations, whatever fails: the revision goes up by one
with what is recorded, and only with it; a snapshot that was absorbed changes nothing when it is
absorbed again; the time of what is recorded of an element does not go back; and a silence
concludes contradicted exactly where the port had answered, at every time of the run, if and
only if no step of the run masks a reading. -/
theorem readings_run (es : List Event) :
    (∀ before event more, es = before ++ event :: more →
      let store := after controllerID infrastructureID before
      if (next step store event).state.elements = store.state.elements then
        next step store event = store
      else (next step store event).state.externalRevision = store.state.externalRevision + 1) ∧
    (∀ snapshot failure later again,
      absorbSnapshot snapshot failure (after controllerID infrastructureID es) = (later, .ok ()) →
      absorbSnapshot snapshot again later = (later, .ok ())) ∧
    (∀ before more, es = before ++ more →
      ∀ element ∈ (after controllerID infrastructureID before).elements,
      ∀ later ∈ (after controllerID infrastructureID es).elements,
        later.elementID = element.elementID → ∀ held, element.observation = some held →
        ∃ held' t t', later.observation = some held' ∧
          parseCanonicalUTC held.observedAt = .ok t ∧
          parseCanonicalUTC held'.observedAt = .ok t' ∧ t ≤ t') ∧
    ((∀ before more, es = before ++ more → Contradicts controllerID infrastructureID before) ↔
      Admits step Unmasked (newStore controllerID infrastructureID) es) := by
  refine ⟨?_, ?_, ?_, ?_⟩
  · intro before event more _
    exact revision_step _ event
  · intro snapshot failure later again h
    exact absorb_again h again
  · intro before more hsplit element hmem later hlater hname held hheld
    obtain ⟨last, hlast, hadvances⟩ := advanced_run (kept_run before) hmem more
    have hthere : last ∈ (after controllerID infrastructureID es).elements := by
      rw [hsplit]
      unfold after
      rwa [run_append]
    have hsame : last = later :=
      (kept_run es).unique hthere hlater (hadvances.1.trans hname.symm)
    rw [hsame] at hadvances
    obtain ⟨held', hheld', hdates⟩ := hadvances.2 held hheld
    obtain ⟨t, t', ht, ht', hle⟩ := notBefore_iff.1 hdates
    exact ⟨held', t, t', hheld', ht, ht', hle⟩
  · constructor
    · exact admits_of_contradicts controllerID infrastructureID es
    · intro hes before more hsplit
      rw [hsplit] at hes
      exact contradicts_of_admits ((admits_append step).1 hes).1

end Runs

/-! ## A silence that is no contradiction -/

def sampleController : Bytes := text "0b6f3c1e-5a2d-4e7f-8c9b-1a2b3c4d5e6f"

def sampleInfrastructure : Bytes := text "7d1e9a40-3c5b-4f68-9a7e-0f1e2d3c4b5a"

/-- The declared port 5000 of a machine. -/
def sampleElement (observation : Option ExternalObservation) : ExternalElement where
  elementID := List.replicate 22 0x41
  machineID := text "lab-machine-1"
  label := text "NAS du salon"
  kind := kindService
  probePort := 5000
  declaredAt := text "1970-01-01T00:00:00Z"
  observation := observation

/-- A snapshot that carries one outcome for that port. -/
def sampleSnapshot (outcome : Bytes) (observedAt : String) : RelaySnapshot :=
  snapshotOf (text "lab-machine-1") (text observedAt)
    (some (readingOf (text "lab-machine-1") 5000 outcome (text observedAt)))

/-- The port is found answering, and then to be one of this product. -/
def maskedReadings : List Event :=
  [.declare ⟨text "lab-machine-1", text "NAS du salon", kindService, 5000⟩ true 0
      (List.replicate 16 0) none,
    .absorb (some (sampleSnapshot externalAnswered "1970-01-01T00:00:01Z")) none,
    .absorb (some (sampleSnapshot externalManaged "1970-01-01T00:00:02Z")) none]

theorem sample_answered :
    (after sampleController sampleInfrastructure (maskedReadings.take 2)).elements =
      [sampleElement (some ⟨stateVerified, [], text "1970-01-01T00:00:01Z"⟩)] := by
  decide +kernel

theorem sample_masked :
    (after sampleController sampleInfrastructure maskedReadings).elements =
      [sampleElement
        (some ⟨stateUnverifiable, reasonPortIsManaged, text "1970-01-01T00:00:02Z"⟩)] := by
  decide +kernel

/-- A port that had answered, and was then managed, is not contradicted when it falls silent. -/
theorem silence_after_managed : ¬ ∀ controllerID infrastructureID es,
    Contradicts controllerID infrastructureID es := by
  intro h
  have hstate := h sampleController sampleInfrastructure maskedReadings _
    (by rw [sample_masked]; exact List.mem_singleton_self _)
    (sampleSnapshot externalNoListener "1970-01-01T00:00:03Z")
    (readingOf (text "lab-machine-1") 5000 externalNoListener (text "1970-01-01T00:00:03Z"))
    ⟨stateUnverifiable, reasonNothingListening, text "1970-01-01T00:00:03Z"⟩
    (by decide +kernel) (by decide +kernel) (by decide +kernel)
  have hanswered : Answered sampleController sampleInfrastructure maskedReadings
      (List.replicate 22 0x41) := by
    refine ⟨maskedReadings.take 2, maskedReadings.drop 2, rfl,
      sampleElement (some ⟨stateVerified, [], text "1970-01-01T00:00:01Z"⟩), ?_, rfl, _, rfl, rfl⟩
    rw [sample_answered]
    exact List.mem_singleton_self _
  exact absurd (hstate.2 hanswered) (by decide)

end YourCloud.Controller.Externals
