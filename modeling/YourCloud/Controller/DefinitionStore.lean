import YourCloud.Controller.Definitions
import YourCloud.Controller.InventoryStore

/-!
# The store of frozen definitions

A freeze inserts one revision into the document and replaces the file; what is served changes
once the replacement has succeeded.  Nothing is ever replaced or removed.  A replacement that
fails after its rename has changed the file all the same, so the file can be one revision
ahead of what is served.

## Main results

* `freeze_cases` — everything a freeze can leave, and answer.
* `kept_step`, `holds_step` — what a step keeps of what is served and of the file.
* `freeze_again` — a definition that is held is not frozen again.
* `definitions_run` — what every run keeps.
-/

namespace YourCloud.Controller.Definitions

open YourCloud.Foundation
open YourCloud.Approval (canonicalUUIDv4)
open YourCloud.Observation (Slice)
open YourCloud.ServiceDefinition (verify verify_iff verify_encode)

/-! ## The store -/

/-- What a Controller serves, nothing while it is down, and the file. -/
structure DefinitionStore where
  state : Option ServiceDefinitionInventory
  file : Option Bytes
  deriving DecidableEq, Repr

/-- The file replaced, and the error met. -/
def persistServiceDefinitions (outcome : Persisted) (candidate : ServiceDefinitionInventory)
    (file : Option Bytes) : Option Bytes × Except Sentence Unit :=
  match validateServiceDefinitionInventory candidate with
  | .error reason => (file, .error reason)
  | .ok () =>
      if maxServiceDefinitionStateBytes < candidate.encode.length then
        (file, .error (say "frozen service definitions cannot be encoded within their bound"))
      else
        match outcome with
        | .written => (some candidate.encode, .ok ())
        | .renamed => (some candidate.encode, .error (say "synchronise the state directory"))
        | .lost => (file, .error (say "replace the state file"))

section Store

-- The installation.
variable (controllerID infrastructureID : Bytes)

/-- What a candidate has to pass before it is written. -/
def committable (candidate : ServiceDefinitionInventory) : Except Sentence Unit := do
  validateServiceDefinitionInventory candidate
  demand (candidate.controllerID = controllerID && candidate.infrastructureID = infrastructureID)
    (say "frozen service definition identities are immutable")
  let _ ← encodeServiceDefinitionsView (serviceDefinitionsView candidate)
  return ()

/-- A candidate served once it is written. -/
def DefinitionStore.commit (store : DefinitionStore) (outcome : Persisted)
    (candidate : ServiceDefinitionInventory) : DefinitionStore × Except Sentence Unit :=
  match committable controllerID infrastructureID candidate with
  | .error reason => (store, .error reason)
  | .ok () =>
      match persistServiceDefinitions outcome candidate store.file with
      | (file, .error reason) => ({ store with file }, .error reason)
      | (file, .ok ()) => ({ state := some candidate, file }, .ok ())

/-- A Controller that starts; the directory or the file may be out of reach. -/
def openServiceDefinitionStore (reached : Bool) (store : DefinitionStore) :
    DefinitionStore × Except Sentence Unit :=
  if reached = false then ({ store with state := none }, .error (say "open the state directory"))
  else if canonicalUUIDv4 controllerID = false then
    ({ store with state := none },
      .error (say "controller_id: identifier must be a canonical lower-case UUIDv4"))
  else if canonicalUUIDv4 infrastructureID = false then
    ({ store with state := none },
      .error (say "infrastructure_id: identifier must be a canonical lower-case UUIDv4"))
  else
    match store.file with
    | none => ({ store with state := some (emptyInventory controllerID infrastructureID) }, .ok ())
    | some file =>
        match readServiceDefinitions controllerID infrastructureID file with
        | .error reason => ({ store with state := none }, .error reason)
        | .ok state => ({ store with state := some state }, .ok ())

/-! ## Freezing -/

/-- The mark of a refusal of the document rather than of the state. -/
def refusing {α : Type} (x : Except Sentence α) : Except Sentence α :=
  x.mapError fun reason => say "the submitted definition is outside the contract: " ++ reason

/-- The revision that a submission would freeze. -/
def prepare (document announcedSHA256 : Bytes) (now : Instant) :
    Except Sentence FrozenServiceDefinition := do
  let parsed ← refusing (verify document announcedSHA256)
  let canonical ← refusing parsed.encode
  let digest ← refusing parsed.sha256
  let frozenAt := Rfc3339.format now
  demand (parseCanonicalUTC frozenAt).isOk (say "freeze time is not canonical UTC")
  return { slug := parsed.slug, digest, document := canonical, frozenAt }

/-- The revision of this slug and digest, where the search ends. -/
def ServiceDefinitionInventory.held (state : ServiceDefinitionInventory) (slug digest : Bytes) :
    Option FrozenServiceDefinition :=
  state.definitions.items[serviceDefinitionSearch state.definitions.items slug digest]?.filter
    fun definition => definition.slug = slug && definition.digest = digest

/-- The document with one more revision, in its place. -/
def ServiceDefinitionInventory.insert (state : ServiceDefinitionInventory)
    (frozen : FrozenServiceDefinition) : ServiceDefinitionInventory :=
  { state with
    definitions := some (state.definitions.items.insertIdx
      (serviceDefinitionSearch state.definitions.items frozen.slug frozen.digest) frozen)
    definitionRevision := state.definitionRevision + 1 }

/-- One definition frozen: the revision, that of the inventory, and whether it is new. -/
def freeze (document announcedSHA256 : Bytes) (now : Instant) (outcome : Persisted)
    (store : DefinitionStore) :
    DefinitionStore × Except Sentence (FrozenServiceDefinition × Nat × Bool) :=
  match prepare document announcedSHA256 now with
  | .error reason => (store, .error reason)
  | .ok frozen =>
      match store.state with
      | none => (store, .error (say "the Controller is not running"))
      | some state =>
          match state.held frozen.slug frozen.digest with
          | some held =>
              if held.document ≠ frozen.document then
                (store, .error (say "another definition is already frozen under this digest"))
              else (store, .ok (held, state.definitionRevision, false))
          | none =>
              if maxFrozenServiceDefinitions ≤ state.definitions.items.length ∨
                  state.definitionRevision = maxRevision then
                (store, .error
                  (say "frozen service definition capacity or revision is exhausted"))
              else
                match store.commit controllerID infrastructureID outcome (state.insert frozen) with
                | (store, .error reason) => (store, .error reason)
                | (store, .ok ()) =>
                    (store, .ok (frozen, (state.insert frozen).definitionRevision, true))

/-- The definition frozen under exactly this slug and this digest. -/
def DefinitionStore.frozenDefinition (store : DefinitionStore) (slug digest : Bytes) :
    Option ServiceDefinition.Document := do
  let state ← store.state
  let held ← state.held slug digest
  (verify held.document held.digest).toOption

inductive Event where
  | start (reached : Bool)
  | stop
  | freeze (document announcedSHA256 : Bytes) (now : Instant) (outcome : Persisted)

inductive Answer where
  | done (result : Except Sentence Unit)
  | frozen (result : Except Sentence (FrozenServiceDefinition × Nat × Bool))
  deriving DecidableEq

def step (store : DefinitionStore) : Event → DefinitionStore × Answer
  | .start reached =>
      let (store, result) :=
        openServiceDefinitionStore controllerID infrastructureID reached store
      (store, .done result)
  | .stop => ({ store with state := none }, .done (.ok ()))
  | .freeze document announcedSHA256 now outcome =>
      let (store, result) :=
        freeze controllerID infrastructureID document announcedSHA256 now outcome store
      (store, .frozen result)

/-- A directory where nothing was frozen yet. -/
def newStore : DefinitionStore := ⟨none, none⟩

end Store

/-! ## What is held -/

/-- The search ends at the revision of the key. -/
theorem search_held {definitions : List FrozenServiceDefinition}
    (hordered : definitions.Pairwise Precedes) {entry : FrozenServiceDefinition}
    (hentry : entry ∈ definitions) :
    definitions[serviceDefinitionSearch definitions entry.slug entry.digest]? = some entry := by
  -- Once an entry is not before the key, no later one is.
  have hlast : definitions.Pairwise fun a b =>
      (!serviceDefinitionKeyLess a.slug a.digest entry.slug entry.digest) = true →
      (!serviceDefinitionKeyLess b.slug b.digest entry.slug entry.digest) = true := by
    apply hordered.imp
    intro a b hab ha
    rw [Bool.not_eq_true'] at ha ⊢
    by_contra hb
    have hlater : Precedes b entry := by simpa [Precedes] using hb
    have hbefore : Precedes a entry := hab.trans hlater
    rw [Precedes, ha] at hbefore
    cases hbefore
  rw [serviceDefinitionSearch, searchList_find hlast]
  obtain ⟨before, after, hsplit⟩ := List.append_of_mem hentry
  rw [hsplit, List.pairwise_append] at hordered
  rw [hsplit, List.find?_eq_some_iff_append]
  have hself : ¬ serviceDefinitionKeyLess entry.slug entry.digest entry.slug entry.digest = true :=
    Precedes.irrefl entry
  refine ⟨by simpa using hself, before, after, rfl, ?_⟩
  intro a ha
  have hbefore : serviceDefinitionKeyLess a.slug a.digest entry.slug entry.digest = true :=
    hordered.2.2 a ha entry List.mem_cons_self
  rw [hbefore]
  rfl

theorem held_iff {state : ServiceDefinitionInventory} (h : state.Admitted) {slug digest : Bytes}
    {entry : FrozenServiceDefinition} :
    state.held slug digest = some entry ↔
      entry ∈ state.definitions.items ∧ entry.slug = slug ∧ entry.digest = digest := by
  unfold ServiceDefinitionInventory.held
  rw [Option.filter_eq_some_iff, Bool.and_eq_true, decide_eq_true_eq, decide_eq_true_eq]
  constructor
  · intro hheld
    exact ⟨List.mem_of_getElem? hheld.1, hheld.2⟩
  · intro hheld
    refine ⟨?_, hheld.2⟩
    rw [← hheld.2.1, ← hheld.2.2]
    exact search_held h.ordered hheld.1

/-! ## What a freeze does -/

/-- A document of this installation that may be in the file. -/
structure Ours (controllerID infrastructureID : Bytes) (state : ServiceDefinitionInventory) :
    Prop where
  recordable : state.Recordable
  controller : state.controllerID = controllerID
  infrastructure : state.infrastructureID = infrastructureID

theorem insert_items (state : ServiceDefinitionInventory) (frozen : FrozenServiceDefinition) :
    ∃ before after, state.definitions.items = before ++ after ∧
      (state.insert frozen).definitions.items = before ++ frozen :: after := by
  have hle : serviceDefinitionSearch state.definitions.items frozen.slug frozen.digest ≤
      state.definitions.items.length := searchList_le _ _
  refine ⟨_, _, (List.take_append_drop (serviceDefinitionSearch state.definitions.items
    frozen.slug frozen.digest) state.definitions.items).symm, ?_⟩
  exact insertIdx_cut frozen hle

theorem insert_sublist (state : ServiceDefinitionInventory) (frozen : FrozenServiceDefinition) :
    state.definitions.items.Sublist (state.insert frozen).definitions.items := by
  obtain ⟨before, after, hitems, hinserted⟩ := insert_items state frozen
  rw [hitems, hinserted]
  exact (List.Sublist.refl before).append (List.sublist_cons_self frozen after)

theorem insert_length (state : ServiceDefinitionInventory) (frozen : FrozenServiceDefinition) :
    (state.insert frozen).definitions.items.length = state.definitions.items.length + 1 := by
  obtain ⟨before, after, hitems, hinserted⟩ := insert_items state frozen
  rw [hitems, hinserted]
  simp
  omega

section Cases

variable {controllerID infrastructureID : Bytes}

theorem committable_iff {candidate : ServiceDefinitionInventory} :
    committable controllerID infrastructureID candidate = .ok () ↔
      candidate.Admitted ∧ candidate.controllerID = controllerID ∧
      candidate.infrastructureID = infrastructureID ∧
      ∃ encoded, encodeServiceDefinitionsView (serviceDefinitionsView candidate) = .ok encoded := by
  constructor
  · intro h
    obtain ⟨_, hvalid, h⟩ := bind_ok_iff.1 h
    obtain ⟨_, hids, h⟩ := bind_ok_iff.1 h
    obtain ⟨encoded, hlisted, -⟩ := bind_ok_iff.1 h
    have hids := demand_eq_ok.1 hids
    rw [Bool.and_eq_true, decide_eq_true_eq, decide_eq_true_eq] at hids
    exact ⟨validateServiceDefinitionInventory_iff.1 hvalid, hids.1, hids.2, encoded, hlisted⟩
  · rintro ⟨hadmitted, hcontroller, hinfrastructure, encoded, hlisted⟩
    refine bind_ok_iff.2 ⟨(), validateServiceDefinitionInventory_iff.2 hadmitted, ?_⟩
    refine bind_ok_iff.2 ⟨(), demand_eq_ok.2 ?_, ?_⟩
    · rw [Bool.and_eq_true, decide_eq_true_eq, decide_eq_true_eq]
      exact ⟨hcontroller, hinfrastructure⟩
    · exact bind_ok_iff.2 ⟨encoded, hlisted, rfl⟩

/-- Everything a commit can leave: nothing moved; or the file holds the candidate, which is
served as well where no failure is met. -/
theorem commit_outcomes (store : DefinitionStore) (outcome : Persisted)
    {candidate : ServiceDefinitionInventory}
    (hrevision : candidate.definitionRevision = candidate.definitions.items.length) :
    (∃ reason, store.commit controllerID infrastructureID outcome candidate =
        (store, .error reason)) ∨
      Ours controllerID infrastructureID candidate ∧
        (store.commit controllerID infrastructureID outcome candidate =
            (⟨some candidate, some candidate.encode⟩, .ok ()) ∨
          ∃ reason, store.commit controllerID infrastructureID outcome candidate =
            ({ store with file := some candidate.encode }, .error reason)) := by
  unfold DefinitionStore.commit
  cases hcommittable : committable controllerID infrastructureID candidate with
  | error reason => exact Or.inl ⟨reason, rfl⟩
  | ok =>
      obtain ⟨hadmitted, hcontroller, hinfrastructure, hlisted⟩ := committable_iff.1 hcommittable
      dsimp only
      unfold persistServiceDefinitions
      rw [validateServiceDefinitionInventory_iff.2 hadmitted]
      dsimp only
      by_cases hlength : maxServiceDefinitionStateBytes < candidate.encode.length
      · rw [if_pos hlength]
        exact Or.inl ⟨_, rfl⟩
      · rw [if_neg hlength]
        have hours : Ours controllerID infrastructureID candidate :=
          ⟨⟨hadmitted, hrevision, Nat.not_lt.1 hlength, hlisted⟩, hcontroller, hinfrastructure⟩
        cases outcome with
        | written => exact Or.inr ⟨hours, Or.inl rfl⟩
        | renamed => exact Or.inr ⟨hours, Or.inr ⟨_, rfl⟩⟩
        | lost => exact Or.inl ⟨_, rfl⟩

/-- Everything a freeze can leave, and answer. -/
theorem freeze_cases {store : DefinitionStore}
    (hserved : ∀ state, store.state = some state → Ours controllerID infrastructureID state)
    (document announcedSHA256 : Bytes) (now : Instant) (outcome : Persisted) :
    (∃ reason, freeze controllerID infrastructureID document announcedSHA256 now outcome store =
        (store, .error reason)) ∨
      (∃ state held, store.state = some state ∧ held ∈ state.definitions.items ∧
        freeze controllerID infrastructureID document announcedSHA256 now outcome store =
          (store, .ok (held, state.definitionRevision, false))) ∨
      ∃ state frozen, store.state = some state ∧ state.held frozen.slug frozen.digest = none ∧
        Ours controllerID infrastructureID (state.insert frozen) ∧
        (freeze controllerID infrastructureID document announcedSHA256 now outcome store =
            (⟨some (state.insert frozen), some (state.insert frozen).encode⟩,
              .ok (frozen, state.definitionRevision + 1, true)) ∨
          ∃ reason,
            freeze controllerID infrastructureID document announcedSHA256 now outcome store =
              ({ store with file := some (state.insert frozen).encode }, .error reason)) := by
  unfold freeze
  cases hprepare : prepare document announcedSHA256 now with
  | error reason => exact Or.inl ⟨reason, rfl⟩
  | ok frozen =>
      cases hstate : store.state with
      | none => exact Or.inl ⟨_, rfl⟩
      | some state =>
          have hours := hserved state hstate
          dsimp only
          cases hheld : state.held frozen.slug frozen.digest with
          | some held =>
              dsimp only
              by_cases hother : held.document ≠ frozen.document
              · rw [if_pos hother]
                exact Or.inl ⟨_, rfl⟩
              · rw [if_neg hother]
                have hmem := ((held_iff hours.recordable.admitted).1 hheld).1
                exact Or.inr (Or.inl ⟨state, held, rfl, hmem, rfl⟩)
          | none =>
              dsimp only
              by_cases hfull : maxFrozenServiceDefinitions ≤ state.definitions.items.length ∨
                  state.definitionRevision = maxRevision
              · rw [if_pos hfull]
                exact Or.inl ⟨_, rfl⟩
              · rw [if_neg hfull]
                have hrevision : (state.insert frozen).definitionRevision =
                    (state.insert frozen).definitions.items.length := by
                  rw [insert_length, ← hours.recordable.revision]
                  rfl
                rcases commit_outcomes store outcome hrevision with
                  ⟨reason, hrefused⟩ | ⟨hinserted, hwritten | ⟨reason, hrenamed⟩⟩
                · rw [hrefused]
                  exact Or.inl ⟨reason, rfl⟩
                · rw [hwritten]
                  exact Or.inr (Or.inr ⟨state, frozen, rfl, hheld, hinserted, Or.inl rfl⟩)
                · rw [hrenamed, hstate]
                  exact Or.inr (Or.inr ⟨state, frozen, rfl, hheld, hinserted,
                    Or.inr ⟨reason, rfl⟩⟩)

/-! ## What a step keeps -/

/-- Some revisions, in their order, are among those served and among those recorded. -/
structure Holds (controllerID infrastructureID : Bytes)
    (definitions : List FrozenServiceDefinition) (store : DefinitionStore) : Prop where
  served : ∀ state, store.state = some state → definitions.Sublist state.definitions.items
  recorded : definitions = [] ∨ ∃ recorded : ServiceDefinitionInventory,
    store.file = some recorded.encode ∧ Ours controllerID infrastructureID recorded ∧
    definitions.Sublist recorded.definitions.items

/-- What is served, and what the file holds, are documents of this installation, and what is
served is recorded. -/
structure Kept (controllerID infrastructureID : Bytes) (store : DefinitionStore) : Prop where
  served : ∀ state, store.state = some state → Ours controllerID infrastructureID state ∧
    Holds controllerID infrastructureID state.definitions.items store
  file : ∀ data, store.file = some data → ∃ recorded : ServiceDefinitionInventory,
    data = recorded.encode ∧ Ours controllerID infrastructureID recorded

theorem Ours.read {state : ServiceDefinitionInventory}
    (h : Ours controllerID infrastructureID state) :
    readServiceDefinitions controllerID infrastructureID state.encode = .ok state := by
  have hread := readServiceDefinitions_encode h.recordable
  rwa [h.controller, h.infrastructure] at hread

theorem Ours.eq_of_encode {state other : ServiceDefinitionInventory}
    (h : Ours controllerID infrastructureID state)
    (hother : Ours controllerID infrastructureID other) (hsame : state.encode = other.encode) :
    state = other := by
  have hread := h.read
  rw [hsame, hother.read] at hread
  exact (Except.ok.inj hread).symm

/-- Everything an opening can leave: nothing is served; or the empty document, where there is
no file; or what the file holds. -/
theorem open_cases {store : DefinitionStore} (h : Kept controllerID infrastructureID store)
    (reached : Bool) :
    (∃ reason, openServiceDefinitionStore controllerID infrastructureID reached store =
        ({ store with state := none }, .error reason)) ∨
      (store.file = none ∧
        Ours controllerID infrastructureID (emptyInventory controllerID infrastructureID) ∧
        openServiceDefinitionStore controllerID infrastructureID reached store =
          (⟨some (emptyInventory controllerID infrastructureID), none⟩, .ok ())) ∨
      ∃ recorded : ServiceDefinitionInventory, store.file = some recorded.encode ∧
        Ours controllerID infrastructureID recorded ∧
        openServiceDefinitionStore controllerID infrastructureID reached store =
          (⟨some recorded, some recorded.encode⟩, .ok ()) := by
  unfold openServiceDefinitionStore
  by_cases hreached : reached = false
  · rw [if_pos hreached]
    exact Or.inl ⟨_, rfl⟩
  rw [if_neg hreached]
  by_cases hcontroller : canonicalUUIDv4 controllerID = false
  · rw [if_pos hcontroller]
    exact Or.inl ⟨_, rfl⟩
  rw [if_neg hcontroller]
  by_cases hinfrastructure : canonicalUUIDv4 infrastructureID = false
  · rw [if_pos hinfrastructure]
    exact Or.inl ⟨_, rfl⟩
  rw [if_neg hinfrastructure]
  rw [Bool.not_eq_false] at hcontroller hinfrastructure
  cases hfile : store.file with
  | none =>
      exact Or.inr (Or.inl ⟨rfl, ⟨empty_recordable hcontroller hinfrastructure, rfl, rfl⟩, rfl⟩)
  | some data =>
      obtain ⟨recorded, hdata, hours⟩ := h.file data hfile
      dsimp only
      rw [hdata, hours.read]
      exact Or.inr (Or.inr ⟨recorded, rfl, hours, rfl⟩)

theorem Holds.refl {definitions : List FrozenServiceDefinition} {file : Option Bytes}
    {state recorded : ServiceDefinitionInventory}
    (hserved : definitions.Sublist state.definitions.items)
    (hours : Ours controllerID infrastructureID recorded)
    (hfile : file = some recorded.encode)
    (hrecorded : definitions.Sublist recorded.definitions.items) :
    Holds controllerID infrastructureID definitions ⟨some state, file⟩ where
  served := by
    intro other hother
    rw [← Option.some.inj hother]
    exact hserved
  recorded := Or.inr ⟨recorded, hfile, hours, hrecorded⟩

/-- A step keeps the revisions that are held. -/
theorem holds_step {store : DefinitionStore} (hkept : Kept controllerID infrastructureID store)
    {definitions : List FrozenServiceDefinition}
    (h : Holds controllerID infrastructureID definitions store) (event : Event) :
    Holds controllerID infrastructureID definitions
      (next (step controllerID infrastructureID) store event) := by
  have hdown : Holds controllerID infrastructureID definitions { store with state := none } :=
    ⟨fun state hstate => (by cases hstate), h.recorded⟩
  unfold next
  cases event with
  | stop => exact hdown
  | start reached =>
      simp only [step]
      rcases open_cases hkept reached with ⟨reason, hopen⟩ | ⟨hfile, -, hopen⟩ |
        ⟨recorded, hfile, hours, hopen⟩
      · rw [hopen]
        exact hdown
      · rw [hopen]
        -- Without a file nothing was ever held.
        have hnothing : definitions = [] := by
          cases h.recorded with
          | inl hnothing => exact hnothing
          | inr hrecorded =>
              obtain ⟨recorded, hfile', -⟩ := hrecorded
              rw [hfile] at hfile'
              cases hfile'
        rw [hnothing]
        exact ⟨fun state _ => List.nil_sublist _, Or.inl rfl⟩
      · rw [hopen]
        have hheld : definitions.Sublist recorded.definitions.items := by
          cases h.recorded with
          | inl hnothing =>
              rw [hnothing]
              exact List.nil_sublist _
          | inr hrecorded =>
              obtain ⟨other, hfile', hother, hsublist⟩ := hrecorded
              have hsame := Option.some.inj (hfile.symm.trans hfile')
              rw [hours.eq_of_encode hother hsame]
              exact hsublist
        exact Holds.refl hheld hours rfl hheld
  | freeze document announcedSHA256 now outcome =>
      simp only [step]
      rcases freeze_cases (fun state hstate => (hkept.served state hstate).1) document
        announcedSHA256 now outcome with ⟨reason, hrefused⟩ | ⟨state, held, -, -, hheld⟩ |
        ⟨state, frozen, hstate, -, hinserted, hwritten | ⟨reason, hrenamed⟩⟩
      · rw [hrefused]
        exact h
      · rw [hheld]
        exact h
      · rw [hwritten]
        have hsublist := (h.served state hstate).trans (insert_sublist state frozen)
        exact Holds.refl hsublist hinserted rfl hsublist
      · rw [hrenamed]
        have hsublist := (h.served state hstate).trans (insert_sublist state frozen)
        exact ⟨h.served, Or.inr ⟨state.insert frozen, rfl, hinserted, hsublist⟩⟩

theorem kept_new : Kept controllerID infrastructureID newStore where
  served := fun state hstate => by cases hstate
  file := fun data hfile => by cases hfile

/-- What one step keeps. -/
theorem kept_step {store : DefinitionStore} (h : Kept controllerID infrastructureID store)
    (event : Event) :
    Kept controllerID infrastructureID (next (step controllerID infrastructureID) store event) := by
  have hdown : Kept controllerID infrastructureID { store with state := none } :=
    ⟨fun state hstate => (by cases hstate), h.file⟩
  -- A document that is recorded and served.
  have hboth {recorded : ServiceDefinitionInventory}
      (hours : Ours controllerID infrastructureID recorded) :
      Kept controllerID infrastructureID ⟨some recorded, some recorded.encode⟩ := by
    constructor
    · intro state hstate
      rw [← Option.some.inj hstate]
      exact ⟨hours, Holds.refl (List.Sublist.refl _) hours rfl (List.Sublist.refl _)⟩
    · intro data hfile
      exact ⟨recorded, (Option.some.inj hfile).symm, hours⟩
  unfold next
  cases event with
  | stop => exact hdown
  | start reached =>
      simp only [step]
      rcases open_cases h reached with ⟨reason, hopen⟩ | ⟨-, hours, hopen⟩ |
        ⟨recorded, -, hours, hopen⟩
      · rw [hopen]
        exact hdown
      · rw [hopen]
        constructor
        · intro state hstate
          rw [← Option.some.inj hstate]
          exact ⟨hours, fun other _ => List.nil_sublist _, Or.inl rfl⟩
        · intro data hfile
          cases hfile
      · rw [hopen]
        exact hboth hours
  | freeze document announcedSHA256 now outcome =>
      simp only [step]
      rcases freeze_cases (fun state hstate => (h.served state hstate).1) document
        announcedSHA256 now outcome with ⟨reason, hrefused⟩ | ⟨state, held, -, -, hheld⟩ |
        ⟨state, frozen, hstate, -, hinserted, hwritten | ⟨reason, hrenamed⟩⟩
      · rw [hrefused]
        exact h
      · rw [hheld]
        exact h
      · rw [hwritten]
        exact hboth hinserted
      · rw [hrenamed]
        constructor
        · intro other hother
          have hsame : state = other := Option.some.inj (hstate.symm.trans hother)
          rw [← hsame]
          exact ⟨(h.served state hstate).1, fun third hthird =>
            (h.served state hstate).2.served third hthird,
            Or.inr ⟨state.insert frozen, rfl, hinserted, insert_sublist state frozen⟩⟩
        · intro data hfile
          exact ⟨state.insert frozen, (Option.some.inj hfile).symm, hinserted⟩

theorem kept_run (es : List Event) : Kept controllerID infrastructureID
    (run (step controllerID infrastructureID) newStore es) := by
  have hstep (store : DefinitionStore) (event : Event)
      (h : Kept controllerID infrastructureID store) :
      Kept controllerID infrastructureID (next (step controllerID infrastructureID) store event) :=
    kept_step h event
  exact run_invariant hstep kept_new es

/-- What is held at any time stays held. -/
theorem holds_run {store : DefinitionStore} (hkept : Kept controllerID infrastructureID store)
    {definitions : List FrozenServiceDefinition}
    (h : Holds controllerID infrastructureID definitions store) (es : List Event) :
    Holds controllerID infrastructureID definitions
      (run (step controllerID infrastructureID) store es) := by
  induction es generalizing store with
  | nil => exact h
  | cons event es ih => exact ih (kept_step hkept event) (holds_step hkept h event)

/-! ## Looking up, and freezing again -/

/-- A revision that is served is found under its slug and its digest, with its bytes. -/
theorem frozenDefinition_served {store : DefinitionStore} {state : ServiceDefinitionInventory}
    (hours : Ours controllerID infrastructureID state) (hstate : store.state = some state)
    {entry : FrozenServiceDefinition} (hentry : entry ∈ state.definitions.items) :
    ∃ parsed, store.frozenDefinition entry.slug entry.digest = some parsed ∧
      parsed.encode = .ok entry.document := by
  have hadmitted := hours.recordable.admitted
  obtain ⟨parsed, -, hencode, hdigest⟩ := (hadmitted.filed entry hentry).spelled
  have hheld := (held_iff hadmitted).2 ⟨hentry, rfl, rfl⟩
  refine ⟨parsed, ?_, hencode⟩
  unfold DefinitionStore.frozenDefinition
  rw [hstate, Option.bind_eq_bind, Option.bind_some, hheld, Option.bind_eq_bind,
    Option.bind_some, verify_encode hencode hdigest]
  rfl

theorem prepare_cases {document announcedSHA256 : Bytes} {now : Instant}
    {parsed : ServiceDefinition.Document} {canonical : Bytes}
    (hverify : verify document announcedSHA256 = .ok parsed)
    (hencode : parsed.encode = .ok canonical) :
    prepare document announcedSHA256 now =
      if (parseCanonicalUTC (Rfc3339.format now)).isOk then
        .ok ⟨parsed.slug, announcedSHA256, canonical, Rfc3339.format now⟩
      else .error (say "freeze time is not canonical UTC") := by
  have hparsed : refusing (verify document announcedSHA256) = .ok parsed := by
    rw [hverify]
    rfl
  have hcanonical : refusing parsed.encode = .ok canonical := by
    rw [hencode]
    rfl
  have hdigest : refusing parsed.sha256 = .ok announcedSHA256 := by
    rw [(verify_iff.1 hverify).2]
    rfl
  unfold prepare
  simp only [hparsed, hcanonical, hdigest, bind, Except.bind]
  cases hdated : (parseCanonicalUTC (Rfc3339.format now)).isOk with
  | true => rfl
  | false => rfl

/-- A definition that is held is not frozen again, however it is spelled. -/
theorem freeze_again {store : DefinitionStore} {state : ServiceDefinitionInventory}
    (hours : Ours controllerID infrastructureID state) (hstate : store.state = some state)
    {entry : FrozenServiceDefinition} (hentry : entry ∈ state.definitions.items)
    {document announcedSHA256 : Bytes} {parsed : ServiceDefinition.Document}
    (hverify : verify document announcedSHA256 = .ok parsed)
    (hencode : parsed.encode = .ok entry.document) (now : Instant) (outcome : Persisted) :
    freeze controllerID infrastructureID document announcedSHA256 now outcome store =
      (store, if (parseCanonicalUTC (Rfc3339.format now)).isOk then
        .ok (entry, state.definitionRevision, false)
      else .error (say "freeze time is not canonical UTC")) := by
  have hadmitted := hours.recordable.admitted
  obtain ⟨other, hslug, hencode', hdigest⟩ := (hadmitted.filed entry hentry).spelled
  -- The same canonical bytes are the same definition, of the same digest.
  have hsame : other = parsed := by
    have hdecode := ServiceDefinition.decode_encode hencode'
    rw [ServiceDefinition.decode_encode hencode] at hdecode
    exact (Except.ok.inj hdecode).symm
  rw [hsame] at hslug hdigest
  have hannounced : announcedSHA256 = entry.digest :=
    Except.ok.inj ((verify_iff.1 hverify).2.symm.trans hdigest)
  have hheld := (held_iff hadmitted).2 ⟨hentry, rfl, rfl⟩
  unfold freeze
  rw [prepare_cases hverify hencode]
  cases hdated : (parseCanonicalUTC (Rfc3339.format now)).isOk with
  | false => simp
  | true =>
      rw [if_pos rfl, if_pos rfl, hstate]
      dsimp only
      rw [hslug, hannounced, hheld]
      simp

end Cases

/-! ## Runs -/

section Runs

variable (controllerID infrastructureID : Bytes)

/-- The store of a directory after some events. -/
def after (es : List Event) : DefinitionStore :=
  run (step controllerID infrastructureID) newStore es

variable {controllerID infrastructureID}

/-- Where anything is served, a revision is, and it is found with its bytes. -/
def Retrievable (store : DefinitionStore) (entry : FrozenServiceDefinition) : Prop :=
  ∀ state, store.state = some state → entry ∈ state.definitions.items ∧
    ∃ parsed, store.frozenDefinition entry.slug entry.digest = some parsed ∧
      parsed.encode = .ok entry.document

/-- The listing of a document is answered, within its bound. -/
def Listed (state : ServiceDefinitionInventory) : Prop :=
  projectServiceDefinitions state = .ok (serviceDefinitionsView state) ∧
    ∃ encoded, encodeServiceDefinitionsView (serviceDefinitionsView state) = .ok encoded ∧
      encoded.length ≤ maxAppResponseBytes

/-- What a freeze does where a document is served: it is served with one more revision, which
was not held, and recorded so; or it is served as it was. -/
def Freezes (store later : DefinitionStore) :
    Except Sentence (FrozenServiceDefinition × Nat × Bool) → Prop
  | .ok (entry, revision, true) => ∃ state before more, store.state = some state ∧
      (∀ held ∈ state.definitions.items, ¬ (held.slug = entry.slug ∧ held.digest = entry.digest)) ∧
      revision = state.definitionRevision + 1 ∧ state.definitions.items = before ++ more ∧
      ∃ candidate : ServiceDefinitionInventory,
        later = ⟨some candidate, some candidate.encode⟩ ∧
        candidate.definitionRevision = revision ∧
        candidate.definitions.items = before ++ entry :: more
  | .ok (entry, revision, false) => later = store ∧
      ∃ state, store.state = some state ∧ entry ∈ state.definitions.items ∧
        revision = state.definitionRevision
  | .error _ => later.state = store.state

theorem listed_of_recordable {state : ServiceDefinitionInventory} (h : state.Recordable) :
    Listed state := by
  obtain ⟨encoded, hencoded⟩ := h.listed
  refine ⟨?_, encoded, hencoded, ?_⟩
  · exact bind_ok_iff.2 ⟨(), validateServiceDefinitionInventory_iff.2 h.admitted, rfl⟩
  · obtain ⟨_, hlength, hsame⟩ := bind_ok_iff.1 hencoded
    rw [← Except.ok.inj hsame]
    exact of_decide_eq_true (demand_eq_ok.1 hlength)

theorem freezes {store : DefinitionStore} (h : Kept controllerID infrastructureID store)
    (document announcedSHA256 : Bytes) (now : Instant) (outcome : Persisted) :
    Freezes store
      (freeze controllerID infrastructureID document announcedSHA256 now outcome store).1
      (freeze controllerID infrastructureID document announcedSHA256 now outcome store).2 := by
  rcases freeze_cases (fun state hstate => (h.served state hstate).1) document announcedSHA256 now
    outcome with ⟨reason, hrefused⟩ | ⟨state, held, hstate, hmem, hheld⟩ |
    ⟨state, frozen, hstate, hnone, hinserted, hwritten | ⟨reason, hrenamed⟩⟩
  · rw [hrefused]
    exact Eq.refl store.state
  · rw [hheld]
    exact ⟨rfl, state, hstate, hmem, rfl⟩
  · rw [hwritten]
    obtain ⟨before, more, hitems, hcandidate⟩ := insert_items state frozen
    refine ⟨state, before, more, hstate, ?_, rfl, hitems, state.insert frozen, rfl, rfl,
      hcandidate⟩
    intro held hmem hsame
    have hfound := (held_iff (h.served state hstate).1.recordable.admitted).2 ⟨hmem, hsame⟩
    rw [hnone] at hfound
    cases hfound
  · rw [hrenamed]
    exact Eq.refl store.state

/-- What a freeze answered is served from then on. -/
theorem served_of_frozen {store : DefinitionStore} (h : Kept controllerID infrastructureID store)
    {event : Event} {entry : FrozenServiceDefinition} {revision : Nat} {isNew : Bool}
    (hanswer : answer (step controllerID infrastructureID) store event =
      .frozen (.ok (entry, revision, isNew))) :
    ∃ state, (next (step controllerID infrastructureID) store event).state = some state ∧
      entry ∈ state.definitions.items := by
  cases event with
  | stop => cases hanswer
  | start reached => cases hanswer
  | freeze document announcedSHA256 now outcome =>
      have hfreezes := freezes h document announcedSHA256 now outcome
      have hresult : (freeze controllerID infrastructureID document announcedSHA256 now outcome
          store).2 = .ok (entry, revision, isNew) := Answer.frozen.inj hanswer
      rw [hresult] at hfreezes
      show ∃ state, (freeze controllerID infrastructureID document announcedSHA256 now outcome
        store).1.state = some state ∧ entry ∈ state.definitions.items
      cases isNew with
      | true =>
          obtain ⟨state, before, more, -, -, -, -, candidate, hlater, -, hitems⟩ := hfreezes
          refine ⟨candidate, by rw [hlater], ?_⟩
          rw [hitems]
          simp
      | false =>
          obtain ⟨hlater, state, hstate, hmem, -⟩ := hfreezes
          rw [hlater]
          exact ⟨state, hstate, hmem⟩

/-- What is served at any time is served, in its order, at any later time. -/
theorem sublist_run {store : DefinitionStore} (h : Kept controllerID infrastructureID store)
    {state later : ServiceDefinitionInventory} (hstate : store.state = some state)
    (es : List Event)
    (hlater : (run (step controllerID infrastructureID) store es).state = some later) :
    state.definitions.items.Sublist later.definitions.items :=
  (holds_run h (h.served state hstate).2 es).served later hlater

/-- What the file holds is served by the next Controller that starts. -/
theorem reopens {store : DefinitionStore} (h : Kept controllerID infrastructureID store)
    {data : Bytes} (hfile : store.file = some data) :
    ∃ recorded : ServiceDefinitionInventory, data = recorded.encode ∧ Listed recorded ∧
      openServiceDefinitionStore controllerID infrastructureID true store =
        (⟨some recorded, some data⟩, .ok ()) := by
  obtain ⟨recorded, hdata, hours⟩ := h.file data hfile
  have hadmitted := hours.recordable.admitted
  refine ⟨recorded, hdata, listed_of_recordable hours.recordable, ?_⟩
  have hcontroller := hadmitted.controller
  have hinfrastructure := hadmitted.infrastructure
  rw [hours.controller] at hcontroller
  rw [hours.infrastructure] at hinfrastructure
  unfold openServiceDefinitionStore
  rw [if_neg (by decide), hcontroller, if_neg (by decide), hinfrastructure, if_neg (by decide),
    hfile]
  dsimp only
  rw [hdata, hours.read]

/-- A definition frozen again, with a space before it, after an opening in between. -/
example :
    let digest := sha256Hex (ServiceDefinition.minimal.transcript.toOption.getD [])
    ((after (text "0b6f3c1e-5a2d-4e7f-8c9b-1a2b3c4d5e6f")
      (text "7d1e9a40-3c5b-4f68-9a7e-0f1e2d3c4b5a")
      [.start true, .freeze ServiceDefinition.minimal.json.render digest 1 .written, .stop,
        .start true, .freeze (0x20 :: ServiceDefinition.minimal.json.render) digest 2
          .written]).state.map fun state =>
      (state.definitionRevision, state.definitions.items.map FrozenServiceDefinition.frozenAt)) =
      some (1, [text "1970-01-01T00:00:00.000000001Z"]) := by
  decide +kernel

end Runs

end YourCloud.Controller.Definitions
