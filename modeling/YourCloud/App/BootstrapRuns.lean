import YourCloud.App.Bootstrap

/-!
# What every run of the installing sessions keeps

A run is told by its calls and their answers.  What the one slot holds is the session
started last, with what was reported of it, and the attestation that is kept is the last
narrow one, unless it was lifted or has refused a start since.

## Main results

* `step_slot` — what one call does to the slot.
* `step_note` — what one call does to the attestation.
* `sessions_run` — what holds over every run.
-/

namespace YourCloud.App.Bootstrap

open YourCloud.Foundation
open YourCloud.Identity (Fixed)

/-! ## What a run is told by -/

/-- The session that a call started, with its time. -/
def startedBy (x : Event × Answer) : Option (Bytes × Nat) :=
  match x.1.operation, x.2 with
  | .start .., .view view => some (view.requestId, x.1.now)
  | _, _ => none

/-- The sessions that were started, in order. -/
def starts (h : List (Event × Answer)) : List (Bytes × Nat) := h.filterMap startedBy

/-- Whether a call concluded a session. -/
def concludes (requestId : Bytes) (x : Event × Answer) : Bool :=
  match x.1.operation, x.2 with
  | .conclude named _, .done => named = requestId
  | _, _ => false

/-- Whether a call ended a session: it concluded or cancelled it, cleared whatever there was, or
found that no time was left. -/
def ends (requestId : Bytes) (x : Event × Answer) : Bool :=
  match x.1.operation, x.2 with
  | .clear, _ | .close, _ => true
  | .cancel named, .done | .conclude named _, .done => named = requestId
  | .status named, .failed .expired | .cancel named, .failed .expired
  | .assistantScope named, .failed .expired => named = requestId
  | _, _ => false

/-- The session an answer tells of. -/
def Answer.tellsOf : Answer → Option Bytes
  | .view shown => some shown.requestId
  | .scope launch => some launch.scope.requestId
  | _ => none

/-! ## One call and the slot -/

section Slot

variable {latest : Nat} {s : BootstrapState} {event : Event} {now : Nat} {requestId : Bytes}

/-- Whether the slot leaves room for a start: it is empty, or what it holds was concluded or is
over. -/
def Free (s : BootstrapState) (now : Nat) : Prop :=
  ∀ active, s.active = some active → active.concluded.isSome = true ∨ active.expiresAt ≤ now

/-- What a call does to the slot. -/
inductive SlotDoes (s : BootstrapState) (event : Event) : BootstrapState × Answer → Prop
  | began (result : BootstrapState × Answer) (active : BootstrapSession) : Free s event.now →
      result.1.active = some active → active.expiresAt = event.now + bootstrapTtl →
      active.concluded = none → active.deroule = none → active.cause = none →
      (∃ input draw, event.operation = .start input (some draw) ∧
        active.requestId = hexEncode draw.1) →
      result.2 = .view (BootstrapState.viewOf event.now active) → SlotDoes s event result
  | emptied (result : BootstrapState × Answer) : result.1.active = none →
      (s.isExpired event.now = true ∨
        ∀ active, s.active = some active → ends active.requestId (event, result.2) = true) →
      startedBy (event, result.2) = none → (∀ id, concludes id (event, result.2) = false) →
      result.2.tellsOf = none → SlotDoes s event result
  | left (result : BootstrapState × Answer) : result.1.active = s.active →
      startedBy (event, result.2) = none → (∀ id, concludes id (event, result.2) = false) →
      result.2.tellsOf = none → SlotDoes s event result
  /-- The session is told of, and has time left. -/
  | told (active : BootstrapSession) (answer : Answer) : s.active = some active →
      event.now < active.expiresAt →
      answer = .view (BootstrapState.viewOf event.now active) ∨
        (∃ remaining, answer = .scope (BootstrapState.launchOf active remaining)) →
      (∀ input draw, event.operation ≠ .start input draw) →
      (∀ id outcome, event.operation ≠ .conclude id outcome) → SlotDoes s event (s, answer)
  | ledger (active : BootstrapSession) (ledger : List LedgerItemV1) : s.active = some active →
      event.operation = .recordInstallLedger active.requestId (some ledger) →
      SlotDoes s event ({ s with active := some { active with deroule := some ledger } }, .done)
  | refusal (active : BootstrapSession) (refusal : AssistantRefusalV1) : s.active = some active →
      event.operation = .recordRefusal active.requestId (some refusal) →
      SlotDoes s event ({ s with active := some { active with cause := some refusal } }, .done)
  | concluded (active : BootstrapSession) (outcome : BootstrapLifecycle) : s.active = some active →
      active.concluded = none → event.operation = .conclude active.requestId outcome →
      SlotDoes s event ({ s with active := some { active with concluded := some outcome } }, .done)

/-- What a named request is answered where it is not that of the active session. -/
theorem requireActiveRequest_cases (s : BootstrapState) (now : Nat) (requestId : Bytes) :
    (∃ active, s.requireActiveRequest now requestId = (s, .ok active) ∧ s.active = some active ∧
      active.requestId = requestId ∧ now < active.expiresAt) ∨
    s.requireActiveRequest now requestId = (s.clear, .error .expired) ∧ s.isExpired now = true ∨
    s.requireActiveRequest now requestId = (s, .error .requestRefused) := by
  unfold BootstrapState.requireActiveRequest
  by_cases hcanonical : canonicalRequestId requestId = true
  · by_cases hexpired : s.isExpired now = true
    · simp [hcanonical, hexpired]
    · simp only [hcanonical, hexpired, Bool.not_true, Bool.false_eq_true, if_false]
      cases hactive : s.active with
      | none => simp
      | some active =>
          have htime : now < active.expiresAt := by
            simpa [BootstrapState.isExpired, hactive] using hexpired
          by_cases hid : active.requestId = requestId
          · simp [hid, htime]
          · simp [hid]
  · simp [hcanonical]

/-- A start that is prepared finds room, and one that is refused leaves the slot, or empties it
where its session is over. -/
theorem prepareStart_cases (s : BootstrapState) (now : Nat) (input : BootstrapStartInput) :
    (∃ prepared, (s.prepareStart now input).2 = .ok prepared ∧ Free s now) ∧
        (s.prepareStart now input).1 = s.clearIfExpired now ∨
    (∃ error, (s.prepareStart now input).2 = .error error) ∧
      ((s.prepareStart now input).1.active = s.active ∨
        (s.prepareStart now input).1.active = none ∧ s.isExpired now = true) := by
  have hslot : (s.clearIfExpired now).active = s.active ∨
      (s.clearIfExpired now).active = none ∧ s.isExpired now = true := by
    unfold BootstrapState.clearIfExpired
    by_cases hexpired : s.isExpired now = true
    · right
      rw [if_pos hexpired]
      exact ⟨rfl, hexpired⟩
    · left
      rw [if_neg hexpired]
  unfold BootstrapState.prepareStart
  by_cases hclosed : s.closed = true
  · simp [hclosed]
  · simp only [hclosed, Bool.false_eq_true, if_false]
    by_cases hbusy : ((s.clearIfExpired now).active.any fun active => active.concluded.isNone) = true
    · simp only [hbusy, if_true]
      exact Or.inr ⟨⟨_, rfl⟩, hslot⟩
    · simp only [hbusy, Bool.false_eq_true, if_false]
      cases htarget : validateTarget input.target with
      | none => exact Or.inr ⟨⟨_, rfl⟩, hslot⟩
      | some target =>
          dsimp only
          split
          · exact Or.inr ⟨⟨_, rfl⟩, hslot⟩
          · refine Or.inl ⟨⟨_, rfl, ?_⟩, rfl⟩
            intro active hactive
            by_cases hexpired : active.expiresAt ≤ now
            · exact Or.inr hexpired
            · left
              have hkept : (s.clearIfExpired now).active = some active := by
                unfold BootstrapState.clearIfExpired
                rw [if_neg (by simpa [BootstrapState.isExpired, hactive] using hexpired), hactive]
              rw [hkept] at hbusy
              cases hconcluded : active.concluded with
              | none => simp [hconcluded] at hbusy
              | some outcome => rfl

theorem start_slot (input : BootstrapStartInput) (draw : Option (Fixed requestIdBytes)) :
    SlotDoes s ⟨now, .start input draw⟩ (step latest s ⟨now, .start input draw⟩) := by
  have hfailed : ∀ (s' : BootstrapState) (error : BootstrapError),
      (s'.active = s.active ∨ s'.active = none ∧ s.isExpired now = true) →
      SlotDoes s ⟨now, .start input draw⟩ (s', .failed error) := by
    intro s' error hslot
    cases hslot with
    | inl hsame => exact .left _ hsame rfl (fun _ => rfl) rfl
    | inr hnone => exact .emptied _ hnone.1 (Or.inl hnone.2) rfl (fun _ => rfl) rfl
  have hcleared : (s.clearIfExpired now).active = s.active ∨
      (s.clearIfExpired now).active = none ∧ s.isExpired now = true := by
    unfold BootstrapState.clearIfExpired
    by_cases hexpired : s.isExpired now = true
    · simp [hexpired, BootstrapState.clear]
    · simp [hexpired]
  show SlotDoes s _ ((s.start now latest input draw).map id (answered .view))
  have hcases := prepareStart_cases s now input
  unfold BootstrapState.start
  generalize hprepare : s.prepareStart now input = result at hcases
  obtain ⟨s', outcome⟩ := result
  cases outcome with
  | error error =>
      cases hcases with
      | inl hok =>
          obtain ⟨⟨prepared, hok, -⟩, -⟩ := hok
          cases hok
      | inr herror => exact hfailed s' error herror.2
  | ok prepared =>
      cases hcases with
      | inr herror =>
          obtain ⟨⟨error, herror⟩, -⟩ := herror
          cases herror
      | inl hok =>
          obtain ⟨⟨_, -, hfree⟩, hstate⟩ := hok
          rw [show s' = s.clearIfExpired now from hstate]
          cases draw with
          | none => exact hfailed _ _ hcleared
          | some draw =>
              show SlotDoes s _ (((s.clearIfExpired now).activate now latest prepared _).map id _)
              unfold BootstrapState.activate
              by_cases hlatest : latest < now + bootstrapTtl
              · rw [if_pos hlatest]
                exact hfailed _ _ hcleared
              · rw [if_neg hlatest]
                refine .began _ _ hfree rfl rfl rfl rfl rfl ⟨input, draw, rfl, rfl⟩ ?_
                have hlater : ¬ now + bootstrapTtl < now := by omega
                simp [BootstrapState.activeView, answered, hlater]

/-- A call that names a session, once it is told whether that is the active one. -/
theorem named_slot {α : Type} {operation : Operation} {given : α → Answer}
    {result : BootstrapState × Except BootstrapError α}
    (hstarted : ∀ answer, startedBy (⟨now, operation⟩, answer) = none)
    (hconcludes : ∀ id answer, concludes id (⟨now, operation⟩, answer) = false)
    (hresult : (∃ error, result = (s, .error error)) ∨
      (∃ error, result = (s.clear, .error error)) ∧ s.isExpired now = true) :
    SlotDoes s ⟨now, operation⟩ (result.map id (answered given)) := by
  cases hresult with
  | inl hkept =>
      obtain ⟨error, rfl⟩ := hkept
      exact .left _ rfl (hstarted _) (fun id => hconcludes id _) rfl
  | inr hcleared =>
      obtain ⟨⟨error, rfl⟩, hexpired⟩ := hcleared
      exact .emptied _ rfl (Or.inl hexpired) (hstarted _) (fun id => hconcludes id _) rfl

theorem status_slot (requestId : Bytes) :
    SlotDoes s ⟨now, .status requestId⟩ (step latest s ⟨now, .status requestId⟩) := by
  show SlotDoes s _ ((s.status now requestId).map id (answered .view))
  unfold BootstrapState.status
  rcases requireActiveRequest_cases s now requestId with
    ⟨active, hok, hactive, -, htime⟩ | ⟨hexpired, hover⟩ | hrefused
  · rw [hok]
    refine .told active _ hactive htime (Or.inl ?_) (by intros; simp) (by intros; simp)
    have hlate : ¬ active.expiresAt < now := by omega
    simp [BootstrapState.activeView, hactive, hlate, answered]
  · rw [hexpired]
    exact named_slot (fun _ => rfl) (fun _ _ => rfl) (Or.inr ⟨⟨_, rfl⟩, hover⟩)
  · rw [hrefused]
    exact named_slot (fun _ => rfl) (fun _ _ => rfl) (Or.inl ⟨_, rfl⟩)

theorem cancel_slot (requestId : Bytes) :
    SlotDoes s ⟨now, .cancel requestId⟩ (step latest s ⟨now, .cancel requestId⟩) := by
  have hconcludes : ∀ id answer, concludes id (⟨now, .cancel requestId⟩, answer) = false := by
    intro id answer
    cases answer <;> rfl
  show SlotDoes s _ ((s.cancel now requestId).map id (answered fun _ => .done))
  unfold BootstrapState.cancel
  rcases requireActiveRequest_cases s now requestId with
    ⟨active, hok, hactive, hid, -⟩ | ⟨hexpired, hover⟩ | hrefused
  · rw [hok]
    refine .emptied _ rfl (Or.inr ?_) rfl (fun id => hconcludes id _) rfl
    intro other hother
    rw [hactive] at hother
    rw [← Option.some.inj hother, hid]
    exact decide_eq_true rfl
  · rw [hexpired]
    exact named_slot (fun _ => rfl) hconcludes (Or.inr ⟨⟨_, rfl⟩, hover⟩)
  · rw [hrefused]
    exact named_slot (fun _ => rfl) hconcludes (Or.inl ⟨_, rfl⟩)

theorem assistantScope_slot (requestId : Bytes) :
    SlotDoes s ⟨now, .assistantScope requestId⟩ (step latest s ⟨now, .assistantScope requestId⟩) := by
  show SlotDoes s _ ((s.assistantScope now requestId).map id (answered .scope))
  unfold BootstrapState.assistantScope
  rcases requireActiveRequest_cases s now requestId with
    ⟨active, hok, hactive, hid, htime⟩ | ⟨hexpired, hover⟩ | hrefused
  · rw [hok]
    by_cases hremaining : (active.expiresAt - now) / 1000000 = 0
    · simp only [hremaining, if_true]
      refine .emptied _ rfl (Or.inr ?_) rfl (fun _ => rfl) rfl
      intro other hother
      rw [hactive] at hother
      rw [← Option.some.inj hother, hid]
      exact decide_eq_true rfl
    · simp only [hremaining, if_false]
      exact .told active _ hactive htime (Or.inr ⟨_, rfl⟩) (by intros; simp) (by intros; simp)
  · rw [hexpired]
    exact named_slot (fun _ => rfl) (fun _ _ => rfl) (Or.inr ⟨⟨_, rfl⟩, hover⟩)
  · rw [hrefused]
    exact named_slot (fun _ => rfl) (fun _ _ => rfl) (Or.inl ⟨_, rfl⟩)

/-- A result changes the active session where it names it, and nothing elsewhere. -/
theorem onActive_cases (s : BootstrapState) (requestId : Bytes)
    (change : BootstrapSession → BootstrapSession) :
    (∃ active, s.active = some active ∧ active.requestId = requestId ∧
      s.onActive requestId change = { s with active := some (change active) }) ∨
    s.onActive requestId change = s := by
  unfold BootstrapState.onActive
  cases hfound : s.active.filter fun active => active.requestId = requestId with
  | none => exact Or.inr rfl
  | some active =>
      obtain ⟨hactive, hid⟩ := Option.filter_eq_some_iff.1 hfound
      exact Or.inl ⟨active, hactive, of_decide_eq_true hid, rfl⟩

theorem retain_active (s : BootstrapState) (requestId : Bytes)
    (scope : Option AttestedInstallationScopeV1) :
    (s.retainAttestedScope requestId scope).active = s.active := by
  unfold BootstrapState.retainAttestedScope
  split
  · split
    · split <;> rfl
    · rfl
  · rfl

theorem conclude_slot (requestId : Bytes) (outcome : BootstrapLifecycle) :
    SlotDoes s ⟨now, .conclude requestId outcome⟩ (step latest s ⟨now, .conclude requestId outcome⟩) := by
  have hrefused : ∀ error, SlotDoes s ⟨now, .conclude requestId outcome⟩ (s, .failed error) :=
    fun error => .left _ rfl rfl (fun _ => rfl) rfl
  show SlotDoes s _ ((s.conclude requestId outcome).map id (answered fun _ => .done))
  unfold BootstrapState.conclude
  by_cases hawaiting : outcome = .awaitingNativeAssistant
  · rw [if_pos hawaiting]
    exact hrefused _
  · rw [if_neg hawaiting]
    cases hactive : s.active with
    | none => exact hrefused _
    | some active =>
        by_cases hopen : active.requestId ≠ requestId || active.concluded.isSome
        · simp only [hopen, if_true]
          exact hrefused _
        · simp only [hopen, Bool.false_eq_true, if_false]
          simp only [ne_eq, decide_not, Bool.or_eq_true, Bool.not_eq_true', decide_eq_false_iff_not,
            not_or, not_not] at hopen
          have hnone : active.concluded = none := by simpa using hopen.2
          exact .concluded active outcome hactive hnone (by rw [hopen.1])

/-- What each call does to the slot. -/
theorem step_slot (latest : Nat) (s : BootstrapState) (event : Event) :
    SlotDoes s event (step latest s event) := by
  obtain ⟨now, operation⟩ := event
  cases operation with
  | start input draw => exact start_slot input draw
  | status requestId => exact status_slot requestId
  | cancel requestId => exact cancel_slot requestId
  | assistantScope requestId => exact assistantScope_slot requestId
  | recordInstallLedger requestId ledger =>
      cases ledger with
      | none => exact .left _ rfl rfl (fun _ => rfl) rfl
      | some ledger =>
          show SlotDoes s _ (s.onActive requestId _, .done)
          rcases onActive_cases s requestId fun active => { active with deroule := some ledger } with
            ⟨active, hactive, hid, hchanged⟩ | hsame
          · rw [hchanged]
            exact .ledger active ledger hactive (by rw [hid])
          · rw [hsame]
            exact .left _ rfl rfl (fun _ => rfl) rfl
  | recordRefusal requestId refusal =>
      cases refusal with
      | none => exact .left _ rfl rfl (fun _ => rfl) rfl
      | some refusal =>
          show SlotDoes s _ (s.onActive requestId _, .done)
          rcases onActive_cases s requestId fun active => { active with cause := some refusal } with
            ⟨active, hactive, hid, hchanged⟩ | hsame
          · rw [hchanged]
            exact .refusal active refusal hactive (by rw [hid])
          · rw [hsame]
            exact .left _ rfl rfl (fun _ => rfl) rfl
  | retainAttestedScope requestId scope =>
      exact .left _ (retain_active s requestId scope) rfl (fun _ => rfl) rfl
  | conclude requestId outcome => exact conclude_slot requestId outcome
  | clear => exact .emptied _ rfl (Or.inr fun _ _ => rfl) rfl (fun _ => rfl) rfl
  | close => exact .emptied _ rfl (Or.inr fun _ _ => rfl) rfl (fun _ => rfl) rfl

end Slot

/-! ## The session in the slot -/

section Held

/-- What a history says of the session in the slot. -/
structure Held (h : List (Event × Answer)) (active : BootstrapSession) : Prop where
  /-- It was started last. -/
  last : ∃ time, (starts h).getLast? = some (active.requestId, time) ∧
    active.expiresAt = time + bootstrapTtl
  unconcluded : active.concluded = none → h.countP (concludes active.requestId) = 0
  concluded : ∀ outcome, active.concluded = some outcome →
    ∃ now, ((⟨now, .conclude active.requestId outcome⟩ : Event), Answer.done) ∈ h
  ledger : ∀ ledger, active.deroule = some ledger →
    ∃ now, ((⟨now, .recordInstallLedger active.requestId (some ledger)⟩ : Event), Answer.done) ∈ h
  refusal : ∀ refusal, active.cause = some refusal →
    ∃ now, ((⟨now, .recordRefusal active.requestId (some refusal)⟩ : Event), Answer.done) ∈ h

/-- What a history says of a state, where each session has an identifier of its own. -/
structure Told (h : List (Event × Answer)) (s : BootstrapState) : Prop where
  held : ∀ active, s.active = some active → Held h active
  distinct : ((starts h).map Prod.fst).Nodup
  once : ∀ id, h.countP (concludes id) ≤ 1
  named : ∀ id, 0 < h.countP (concludes id) → id ∈ (starts h).map Prod.fst

variable {h : List (Event × Answer)} {s s' : BootstrapState} {event : Event} {answer : Answer}
variable {active : BootstrapSession}

theorem starts_append (h : List (Event × Answer)) (x : Event × Answer) :
    starts (h ++ [x]) = starts h ++ (startedBy x).toList := by
  rw [starts, List.filterMap_append]
  cases hx : startedBy x with
  | none => simp [starts, hx]
  | some started => simp [starts, hx]

theorem countP_append_one (p : Event × Answer → Bool) (h : List (Event × Answer))
    (x : Event × Answer) : (h ++ [x]).countP p = h.countP p + if p x then 1 else 0 := by
  rw [List.countP_append, List.countP_singleton]

/-- What was said before is said after a call that neither starts nor concludes a session. -/
theorem Held.later {x : Event × Answer} (hheld : Held h active) (hstarted : startedBy x = none)
    (hconcludes : concludes active.requestId x = false) : Held (h ++ [x]) active where
  last := by
    rw [starts_append, hstarted, Option.toList_none, List.append_nil]
    exact hheld.last
  unconcluded := by
    intro hnone
    rw [countP_append_one, hheld.unconcluded hnone, hconcludes]
    rfl
  concluded := by
    intro outcome houtcome
    obtain ⟨now, hmem⟩ := hheld.concluded outcome houtcome
    exact ⟨now, List.mem_append_left _ hmem⟩
  ledger := by
    intro ledger hledger
    obtain ⟨now, hmem⟩ := hheld.ledger ledger hledger
    exact ⟨now, List.mem_append_left _ hmem⟩
  refusal := by
    intro refusal hrefusal
    obtain ⟨now, hmem⟩ := hheld.refusal refusal hrefusal
    exact ⟨now, List.mem_append_left _ hmem⟩

/-- A call that neither starts nor concludes a session says nothing of the others. -/
theorem Told.same {x : Event × Answer} (htold : Told h s) (hstarted : startedBy x = none)
    (hconcludes : ∀ id, concludes id x = false)
    (hheld : ∀ active, s'.active = some active → Held (h ++ [x]) active) : Told (h ++ [x]) s' where
  held := hheld
  distinct := by
    rw [starts_append, hstarted, Option.toList_none, List.append_nil]
    exact htold.distinct
  once := by
    intro id
    rw [countP_append_one, hconcludes id]
    exact htold.once id
  named := by
    intro id
    rw [countP_append_one, hconcludes id, starts_append, hstarted, Option.toList_none,
      List.append_nil]
    exact htold.named id

theorem Told.began {now : Nat} {input : BootstrapStartInput} {draw : Fixed requestIdBytes}
    (htold : Told h s) (hfresh : hexEncode draw.1 ∉ (starts h).map Prod.fst)
    (hid : active.requestId = hexEncode draw.1) (hexpires : active.expiresAt = now + bootstrapTtl)
    (hopen : active.concluded = none) (hledger : active.deroule = none) (hcause : active.cause = none)
    (hactive : s'.active = some active) :
    Told (h ++ [(⟨now, .start input (some draw)⟩, .view (BootstrapState.viewOf now active))]) s' := by
  have hstarts : starts (h ++ [((⟨now, .start input (some draw)⟩ : Event),
      Answer.view (BootstrapState.viewOf now active))]) =
      starts h ++ [(active.requestId, now)] := starts_append _ _
  have hconcludes : ∀ id, concludes id ((⟨now, .start input (some draw)⟩ : Event),
      Answer.view (BootstrapState.viewOf now active)) = false := fun _ => rfl
  rw [← hid] at hfresh
  refine ⟨?_, ?_, ?_, ?_⟩
  · intro other hother
    rw [hactive] at hother
    rw [← Option.some.inj hother]
    refine ⟨⟨now, ?_, hexpires⟩, ?_, ?_, ?_, ?_⟩
    · rw [hstarts, List.getLast?_concat]
    · intro _
      rw [countP_append_one, hconcludes]
      have hnever : ¬ 0 < h.countP (concludes active.requestId) :=
        fun hpos => hfresh (htold.named _ hpos)
      simp only [Bool.false_eq_true, if_false]
      omega
    · rw [hopen]
      intro outcome houtcome
      cases houtcome
    · rw [hledger]
      intro ledger hsome
      cases hsome
    · rw [hcause]
      intro refusal hsome
      cases hsome
  · rw [hstarts, List.map_append]
    exact htold.distinct.append (List.nodup_singleton _) (by simpa using hfresh)
  · intro id
    rw [countP_append_one, hconcludes]
    exact htold.once id
  · intro id hpos
    rw [countP_append_one, hconcludes] at hpos
    rw [hstarts, List.map_append]
    exact List.mem_append_left _ (htold.named id hpos)

theorem Told.concluded {now : Nat} {outcome : BootstrapLifecycle} (htold : Told h s)
    (hactive : s.active = some active) (hopen : active.concluded = none)
    (hactive' : s'.active = some { active with concluded := some outcome }) :
    Told (h ++ [(⟨now, .conclude active.requestId outcome⟩, .done)]) s' := by
  have hheld := htold.held active hactive
  have hstarts : starts (h ++ [((⟨now, .conclude active.requestId outcome⟩ : Event),
      Answer.done)]) = starts h := by
    rw [starts_append]
    exact List.append_nil _
  have hconcludes : ∀ id, concludes id ((⟨now, .conclude active.requestId outcome⟩ : Event),
      Answer.done) = decide (active.requestId = id) := fun _ => rfl
  have hnone := hheld.unconcluded hopen
  obtain ⟨time, hlast, hexpires⟩ := hheld.last
  refine ⟨?_, ?_, ?_, ?_⟩
  · intro other hother
    rw [hactive'] at hother
    rw [← Option.some.inj hother]
    refine ⟨⟨time, by rw [hstarts]; exact hlast, hexpires⟩, ?_, ?_, ?_, ?_⟩
    · intro habsurd
      cases habsurd
    · intro given hgiven
      rw [← Option.some.inj hgiven]
      exact ⟨now, List.mem_append_right _ (List.mem_singleton_self _)⟩
    · intro ledger hledger
      obtain ⟨time, hmem⟩ := hheld.ledger ledger hledger
      exact ⟨time, List.mem_append_left _ hmem⟩
    · intro refusal hrefusal
      obtain ⟨time, hmem⟩ := hheld.refusal refusal hrefusal
      exact ⟨time, List.mem_append_left _ hmem⟩
  · rw [hstarts]
    exact htold.distinct
  · intro id
    rw [countP_append_one, hconcludes]
    by_cases hid : active.requestId = id
    · rw [← hid, hnone]
      simp
    · simpa [hid] using htold.once id
  · intro id hpos
    rw [countP_append_one, hconcludes] at hpos
    rw [hstarts]
    by_cases hid : active.requestId = id
    · rw [← hid]
      exact List.mem_map_of_mem (List.mem_of_getLast? hlast)
    · exact htold.named id (by simpa [hid] using hpos)

/-- What one call keeps, where the identifier it draws is a new one. -/
theorem Told.step {latest : Nat} (htold : Told h s)
    (hfresh : ∀ input draw, event.operation = .start input (some draw) →
      hexEncode draw.1 ∉ (starts h).map Prod.fst) :
    Told (h ++ [(event, Foundation.answer (step latest) s event)]) (next (step latest) s event) := by
  have hdoes := step_slot latest s event
  rw [show Foundation.answer (Bootstrap.step latest) s event =
      (Bootstrap.step latest s event).2 from rfl,
    show next (Bootstrap.step latest) s event = (Bootstrap.step latest s event).1 from rfl]
  generalize Bootstrap.step latest s event = result at hdoes
  obtain ⟨now, operation⟩ := event
  cases hdoes with
  | began _ active hfree hactive hexpires hopen hledger hcause hdrawn hanswer =>
      obtain ⟨input, draw, hoperation, hid⟩ := hdrawn
      rw [hanswer]
      rw [show operation = _ from hoperation] at hfresh ⊢
      exact htold.began (hfresh input draw rfl) hid hexpires hopen hledger hcause hactive
  | emptied _ hactive hwhy hstarted hconcludes htells =>
      apply htold.same hstarted hconcludes
      intro active hsome
      rw [hactive] at hsome
      cases hsome
  | left _ hactive hstarted hconcludes htells =>
      apply htold.same hstarted hconcludes
      intro active hsome
      rw [hactive] at hsome
      exact (htold.held active hsome).later hstarted (hconcludes _)
  | told active answer hactive htime hanswer hstart hconclude =>
      have hstarted : startedBy ((⟨now, operation⟩ : Event), answer) = none := by
        cases operation with
        | start input draw => exact absurd rfl (hstart input draw)
        | _ => rfl
      have hconcludes : ∀ id, concludes id ((⟨now, operation⟩ : Event), answer) = false := by
        intro id
        cases operation with
        | conclude named outcome => exact absurd rfl (hconclude named outcome)
        | _ => rfl
      apply htold.same hstarted hconcludes
      intro other hsome
      exact (htold.held other hsome).later hstarted (hconcludes _)
  | ledger active ledger hactive hoperation =>
      rw [show operation = _ from hoperation]
      apply htold.same rfl fun _ => rfl
      intro other hsome
      rw [← Option.some.inj hsome]
      have hheld := (htold.held active hactive).later
        (x := (⟨now, .recordInstallLedger active.requestId (some ledger)⟩, .done)) rfl rfl
      refine ⟨hheld.last, hheld.unconcluded, hheld.concluded, ?_, hheld.refusal⟩
      intro given hgiven
      rw [← Option.some.inj hgiven]
      exact ⟨now, List.mem_append_right _ (List.mem_singleton_self _)⟩
  | refusal active refusal hactive hoperation =>
      rw [show operation = _ from hoperation]
      apply htold.same rfl fun _ => rfl
      intro other hsome
      rw [← Option.some.inj hsome]
      have hheld := (htold.held active hactive).later
        (x := (⟨now, .recordRefusal active.requestId (some refusal)⟩, .done)) rfl rfl
      refine ⟨hheld.last, hheld.unconcluded, hheld.concluded, hheld.ledger, ?_⟩
      intro given hgiven
      rw [← Option.some.inj hgiven]
      exact ⟨now, List.mem_append_right _ (List.mem_singleton_self _)⟩
  | concluded active outcome hactive hopen hoperation =>
      rw [show operation = _ from hoperation]
      exact htold.concluded hactive hopen rfl

end Held

/-! ## Attestations -/

/-- What becomes known of the entry of a target. -/
inductive Note where
  | narrow (target : BootstrapTarget) (permits : Bytes)
  | sufficient (target : BootstrapTarget)
  /-- A start was refused for a narrow entry. -/
  | refused (target : BootstrapTarget)
  deriving DecidableEq, Repr

def Note.target : Note → BootstrapTarget
  | narrow target _ | sufficient target | refused target => target

def Note.isNarrow : Note → Bool
  | narrow .. => true
  | _ => false

/-- What a call makes known: an attestation is recorded where it names the active session. -/
def noteOf (latest : Nat) (s : BootstrapState) (event : Event) : Option Note :=
  match event.operation with
  | .retainAttestedScope requestId (some scope) =>
      (s.active.filter fun active => active.requestId = requestId).map fun active =>
        if scope.suffices_ then .sufficient active.target else .narrow active.target scope.permits
  | .start input _ =>
      match (step latest s event).2 with
      | .failed (.entryTooNarrow _) => (validateTarget input.target).map .refused
      | _ => none
  | _ => none

/-- What a run makes known. -/
def notes (latest : Nat) : BootstrapState → List Event → List Note
  | _, [] => []
  | s, event :: events =>
      (noteOf latest s event).toList ++ notes latest (next (step latest) s event) events

/-- What is kept once something is known. -/
def kept (entry : Option AttestedNarrowEntry) : Note → Option AttestedNarrowEntry
  | .narrow target permits => some ⟨target, permits⟩
  | .sufficient target | .refused target => entry.filter fun narrow => narrow.target ≠ target

section Attested

variable {latest : Nat} {s : BootstrapState} {event : Event}

theorem clear_attested (s : BootstrapState) (now : Nat) :
    (s.clearIfExpired now).attestedNarrow = s.attestedNarrow := by
  unfold BootstrapState.clearIfExpired
  split <;> rfl

theorem onActive_attested (s : BootstrapState) (requestId : Bytes)
    (change : BootstrapSession → BootstrapSession) :
    (s.onActive requestId change).attestedNarrow = s.attestedNarrow := by
  rcases onActive_cases s requestId change with ⟨active, -, -, hchanged⟩ | hsame
  · rw [hchanged]
  · rw [hsame]

theorem require_attested (s : BootstrapState) (now : Nat) (requestId : Bytes) :
    (s.requireActiveRequest now requestId).1.attestedNarrow = s.attestedNarrow := by
  rcases requireActiveRequest_cases s now requestId with ⟨active, hok, -⟩ | ⟨hexpired, -⟩ | hrefused
  · rw [hok]
  · rw [hexpired]
    rfl
  · rw [hrefused]

/-- A prepared start keeps the attestation, and one that is refused for it was of its target. -/
theorem prepareStart_attested (s : BootstrapState) (now : Nat) (input : BootstrapStartInput) :
    (∃ narrow target, (s.prepareStart now input).2 = .error (.entryTooNarrow narrow.permits) ∧
        validateTarget input.target = some target ∧ s.attestedNarrow = some narrow ∧
        narrow.target = target ∧ (s.prepareStart now input).1.attestedNarrow = none) ∨
      (∀ permits, (s.prepareStart now input).2 ≠ .error (.entryTooNarrow permits)) ∧
        (s.prepareStart now input).1.attestedNarrow = s.attestedNarrow := by
  unfold BootstrapState.prepareStart
  by_cases hclosed : s.closed = true
  · simp [hclosed]
  · simp only [hclosed, Bool.false_eq_true, if_false]
    by_cases hbusy : ((s.clearIfExpired now).active.any fun active => active.concluded.isNone) = true
    · simp [hbusy, clear_attested]
    · simp only [hbusy, Bool.false_eq_true, if_false]
      cases htarget : validateTarget input.target with
      | none => simp [clear_attested]
      | some target =>
          dsimp only
          split
          · rename_i narrow hnarrow
            left
            obtain ⟨hkept, hfits⟩ := Option.filter_eq_some_iff.1 hnarrow
            rw [clear_attested] at hkept
            rw [Bool.and_eq_true, decide_eq_true_eq] at hfits
            exact ⟨narrow, target, rfl, rfl, hkept, hfits.2, rfl⟩
          · simp [clear_attested]

theorem activate_attested (s : BootstrapState) (now latest : Nat) (prepared : PreparedStart)
    (requestId : Bytes) :
    (s.activate now latest prepared requestId).1.attestedNarrow = s.attestedNarrow ∧
      ∀ permits, (s.activate now latest prepared requestId).2 ≠ .error (.entryTooNarrow permits) := by
  unfold BootstrapState.activate
  split
  · simp
  · refine ⟨rfl, ?_⟩
    intro permits
    unfold BootstrapState.activeView
    dsimp only
    split <;> simp

/-- What a start is refused for, and what it leaves of the attestation. -/
theorem start_attested (s : BootstrapState) (now : Nat) (input : BootstrapStartInput)
    (draw : Option (Fixed requestIdBytes)) :
    (∃ narrow target, (s.start now latest input draw).2 = .error (.entryTooNarrow narrow.permits) ∧
        validateTarget input.target = some target ∧ s.attestedNarrow = some narrow ∧
        narrow.target = target ∧ (s.start now latest input draw).1.attestedNarrow = none) ∨
      (∀ permits, (s.start now latest input draw).2 ≠ .error (.entryTooNarrow permits)) ∧
        (s.start now latest input draw).1.attestedNarrow = s.attestedNarrow := by
  have hcases := prepareStart_attested s now input
  unfold BootstrapState.start
  generalize s.prepareStart now input = result at hcases
  obtain ⟨s', outcome⟩ := result
  cases outcome with
  | error error => simpa using hcases
  | ok prepared =>
      cases hcases with
      | inl hnarrow =>
          obtain ⟨narrow, target, habsurd, -⟩ := hnarrow
          cases habsurd
      | inr hkept =>
          right
          cases draw with
          | none => exact ⟨by simp, hkept.2⟩
          | some draw =>
              have hactivate := activate_attested s' now latest prepared (hexEncode draw.1)
              exact ⟨hactivate.2, hactivate.1.trans hkept.2⟩

/-- What one call does to the attestation that is kept. -/
theorem step_note (latest : Nat) (s : BootstrapState) (event : Event) :
    (next (step latest) s event).attestedNarrow =
      (noteOf latest s event).toList.foldl kept s.attestedNarrow := by
  obtain ⟨now, operation⟩ := event
  cases operation with
  | start input draw =>
      have hanswer : (step latest s ⟨now, .start input draw⟩).2 =
          answered .view (s.start now latest input draw).2 := rfl
      have hnext : next (step latest) s ⟨now, .start input draw⟩ =
          (s.start now latest input draw).1 := rfl
      rw [noteOf, hanswer, hnext]
      rcases @start_attested latest s now input draw with
        ⟨narrow, target, hrefused, hvalid, hentry, htarget, hgone⟩ | ⟨hother, hsame⟩
      · simp [hrefused, answered, hvalid, hentry, htarget, hgone, kept, Option.filter_some]
      · rw [hsame]
        have hnone : (match answered Answer.view (s.start now latest input draw).2 with
            | .failed (.entryTooNarrow _) => (validateTarget input.target).map Note.refused
            | _ => none) = none := by
          split
          · rename_i permits hanswered
            cases hresult : (s.start now latest input draw).2 with
            | ok view =>
                rw [hresult] at hanswered
                cases hanswered
            | error error =>
                rw [hresult] at hanswered
                exact absurd (hresult.trans (congrArg _ (Answer.failed.inj hanswered)))
                  (hother permits)
          · rfl
        dsimp only
        rw [hnone]
        rfl
  | status requestId =>
      show ((s.status now requestId).map id (answered .view)).1.attestedNarrow = _
      have hrequire := require_attested s now requestId
      unfold BootstrapState.status
      split <;> simp_all [noteOf]
  | cancel requestId =>
      show ((s.cancel now requestId).map id (answered fun _ => .done)).1.attestedNarrow = _
      have hrequire := require_attested s now requestId
      unfold BootstrapState.cancel
      split <;> simp_all [noteOf, BootstrapState.clear]
  | assistantScope requestId =>
      show ((s.assistantScope now requestId).map id (answered .scope)).1.attestedNarrow = _
      have hrequire := require_attested s now requestId
      unfold BootstrapState.assistantScope
      split
      · simp_all [noteOf]
      · dsimp only
        split <;> simp_all [noteOf, BootstrapState.clear]
  | recordInstallLedger requestId ledger =>
      cases ledger with
      | none => rfl
      | some ledger => exact onActive_attested s requestId _
  | recordRefusal requestId refusal =>
      cases refusal with
      | none => rfl
      | some refusal => exact onActive_attested s requestId _
  | retainAttestedScope requestId scope =>
      show (s.retainAttestedScope requestId scope).attestedNarrow = _
      unfold BootstrapState.retainAttestedScope
      cases scope with
      | none => rfl
      | some scope =>
          cases hactive : s.active.filter fun active => active.requestId = requestId with
          | none => simp [noteOf, hactive]
          | some active =>
              by_cases hsuffices : scope.suffices_ = true
              · cases hentry : s.attestedNarrow with
                | none => simp [noteOf, hactive, hsuffices, hentry, kept]
                | some narrow =>
                    by_cases htarget : narrow.target = active.target
                    · simp [noteOf, hactive, hsuffices, kept, htarget, Option.filter_some]
                    · simp [noteOf, hactive, hsuffices, hentry, kept, htarget, Option.filter_some]
              · simp [noteOf, hactive, hsuffices, kept]
  | conclude requestId outcome =>
      show ((s.conclude requestId outcome).map id (answered fun _ => .done)).1.attestedNarrow = _
      unfold BootstrapState.conclude
      split
      · rfl
      · split
        · rfl
        · split <;> rfl
  | clear => rfl
  | close => rfl

/-- The attestation that is kept, from what was recorded and refused. -/
theorem notes_retained (latest : Nat) (s : BootstrapState) (events : List Event) :
    (run (step latest) s events).attestedNarrow =
      (notes latest s events).foldl kept s.attestedNarrow := by
  induction events generalizing s with
  | nil => rfl
  | cons event events ih => rw [run_cons, ih, step_note, notes, List.foldl_append]

/-- A narrow attestation of a target is the last thing known of it, and no narrow one of any
target came after it. -/
def LastNarrow (known : List Note) (target : BootstrapTarget) (permits : Bytes) : Prop :=
  ∃ before after, known = before ++ .narrow target permits :: after ∧
    ∀ note ∈ after, note.target ≠ target ∧ note.isNarrow = false

theorem lastNarrow_append (known : List Note) (note : Note) (target : BootstrapTarget)
    (permits : Bytes) :
    LastNarrow (known ++ [note]) target permits ↔ note = .narrow target permits ∨
      LastNarrow known target permits ∧ note.target ≠ target ∧ note.isNarrow = false := by
  constructor
  · rintro ⟨before, after, hknown, hafter⟩
    cases List.eq_nil_or_concat after with
    | inl hnil =>
        rw [hnil] at hknown
        have hlast := List.append_inj_right' hknown rfl
        rw [List.cons.injEq] at hlast
        exact Or.inl hlast.1
    | inr hmore =>
        obtain ⟨middle, last, hsplit⟩ := hmore
        rw [hsplit, List.concat_eq_append] at hknown hafter
        rw [← List.cons_append, ← List.append_assoc] at hknown
        obtain ⟨hfirst, hlast⟩ := List.append_inj' hknown rfl
        rw [List.cons.injEq] at hlast
        rw [List.forall_mem_append, List.forall_mem_singleton] at hafter
        right
        rw [hlast.1]
        exact ⟨⟨before, middle, hfirst, hafter.1⟩, hafter.2⟩
  · intro h
    cases h with
    | inl hnote =>
        rw [hnote]
        exact ⟨known, [], rfl, List.forall_mem_nil _⟩
    | inr hold =>
        obtain ⟨⟨before, after, hknown, hafter⟩, hnote⟩ := hold
        refine ⟨before, after ++ [note], by rw [hknown]; simp, ?_⟩
        rw [List.forall_mem_append, List.forall_mem_singleton]
        exact ⟨hafter, hnote⟩

/-- When the attestation that is kept is one of a target. -/
theorem kept_iff (known : List Note) (target : BootstrapTarget) (permits : Bytes) :
    known.foldl kept none = some ⟨target, permits⟩ ↔ LastNarrow known target permits := by
  induction known using List.reverseRecOn generalizing target permits with
  | nil =>
      constructor
      · intro h
        cases h
      · rintro ⟨before, after, hnil, -⟩
        simp at hnil
  | append_singleton known note ih =>
      rw [List.foldl_append, List.foldl_cons, List.foldl_nil, lastNarrow_append, ← ih]
      generalize known.foldl kept none = entry
      cases note with
      | narrow other permits' => simp [kept, Note.isNarrow]
      | sufficient other =>
          cases entry with
          | none => simp [kept]
          | some narrow => simp [kept, Note.target, Note.isNarrow]; grind
      | refused other =>
          cases entry with
          | none => simp [kept]
          | some narrow => simp [kept, Note.target, Note.isNarrow]; grind

end Attested

/-! ## Every run -/

/-- The identifier that a call draws. -/
def Event.draw (event : Event) : Option (Fixed requestIdBytes) :=
  match event.operation with
  | .start _ draw => draw
  | _ => none

/-- No identifier is drawn twice. -/
def Distinct (events : List Event) : Prop := (events.filterMap Event.draw).Nodup

/-- A session was started less than five minutes ago, and nothing concluded or ended it. -/
def Live (latest : Nat) (events : List Event) (now : Nat) (requestId : Bytes) : Prop :=
  ∃ before first after, events = before ++ first :: after ∧
    startedBy (first, answer (step latest) (run (step latest) {} before) first) =
      some (requestId, first.now) ∧
    now < first.now + bootstrapTtl ∧
    ∀ x ∈ history (step latest) (run (step latest) {} (before ++ [first])) after,
      ends requestId x = false

section Runs

variable {latest : Nat} {s : BootstrapState} {event : Event} {events : List Event} {now : Nat}
variable {requestId : Bytes}

theorem hexEncode_injective {first second : Bytes} (h : hexEncode first = hexEncode second) :
    first = second := by
  have hdecoded := hexDecode_hexEncode first
  rw [h, hexDecode_hexEncode] at hdecoded
  exact (Option.some.inj hdecoded).symm

/-- What a start that succeeds draws is the identifier of its session. -/
theorem started_draw {time : Nat}
    (h : startedBy (event, (step latest s event).2) = some (requestId, time)) :
    time = event.now ∧ ∃ draw, event.draw = some draw ∧ hexEncode draw.1 = requestId := by
  have hdoes := step_slot latest s event
  generalize step latest s event = result at hdoes h
  cases hdoes with
  | began _ active hfree hactive hexpires hopen hledger hcause hdrawn hanswer =>
      obtain ⟨input, draw, hoperation, hid⟩ := hdrawn
      rw [hanswer] at h
      simp only [startedBy, hoperation, Option.some.injEq, Prod.mk.injEq] at h
      refine ⟨h.2.symm, draw, ?_, hid.symm.trans h.1⟩
      simp [Event.draw, hoperation]
  | emptied _ hactive hwhy hstarted hconcludes htells =>
      rw [hstarted] at h
      cases h
  | left _ hactive hstarted hconcludes htells =>
      rw [hstarted] at h
      cases h
  | told active answer hactive htime hanswer hstart hconclude =>
      obtain ⟨now, operation⟩ := event
      cases operation with
      | start input draw => exact absurd rfl (hstart input draw)
      | _ => cases h
  | ledger active ledger hactive hoperation => simp [startedBy, hoperation] at h
  | refusal active refusal hactive hoperation => simp [startedBy, hoperation] at h
  | concluded active outcome hactive hopen hoperation => simp [startedBy, hoperation] at h

/-- Over every run whose identifiers are distinct, the history tells what the state is. -/
theorem told_run (latest : Nat) (events : List Event) (hdistinct : Distinct events) :
    Told (history (step latest) {} events) (run (step latest) {} events) ∧
      ∀ id ∈ (starts (history (step latest) {} events)).map Prod.fst,
        ∃ draw ∈ events.filterMap Event.draw, hexEncode draw.1 = id := by
  induction events using List.reverseRecOn with
  | nil =>
      refine ⟨⟨?_, List.nodup_nil, ?_, ?_⟩, ?_⟩
      · intro active hactive
        cases hactive
      · intro id
        exact Nat.zero_le 1
      · intro id hpos
        cases hpos
      · intro id hmem
        cases hmem
  | append_singleton events event ih =>
      unfold Distinct at hdistinct ih
      rw [List.filterMap_append] at hdistinct
      obtain ⟨htold, hdrawn⟩ := ih (List.nodup_append.1 hdistinct).1
      have hhistory : history (step latest) {} (events ++ [event]) =
          history (step latest) {} events ++
            [(event, answer (step latest) (run (step latest) {} events) event)] :=
        history_append (step latest) {} events [event]
      rw [hhistory, run_append]
      constructor
      · apply htold.step
        intro input draw hoperation hmem
        obtain ⟨other, hother, hsame⟩ := hdrawn _ hmem
        have hdraw : draw ∈ [event].filterMap Event.draw := by
          simp [Event.draw, hoperation]
        have hne := (List.nodup_append.1 hdistinct).2.2 other hother draw hdraw
        exact hne (Subtype.ext (hexEncode_injective hsame))
      · intro id hmem
        rw [starts_append, List.map_append, List.mem_append] at hmem
        rw [List.filterMap_append]
        cases hmem with
        | inl hold =>
            obtain ⟨draw, hdraw, hid⟩ := hdrawn id hold
            exact ⟨draw, List.mem_append_left _ hdraw, hid⟩
        | inr hnew =>
            obtain ⟨⟨started, time⟩, hstarted, rfl⟩ := List.mem_map.1 hnew
            rw [Option.mem_toList] at hstarted
            obtain ⟨-, draw, hdraw, hid⟩ := started_draw hstarted
            refine ⟨draw, List.mem_append_right _ ?_, hid⟩
            simp [hdraw]

/-- The slot holds an unconcluded session until a time. -/
def Open (s : BootstrapState) (requestId : Bytes) (time : Nat) : Prop :=
  ∃ active, s.active = some active ∧ active.requestId = requestId ∧ active.concluded = none ∧
    active.expiresAt = time

/-- An open session stays so while it has time left and nothing ends it. -/
theorem Open.step {time : Nat} (h : Open s requestId time) (htime : event.now < time)
    (hends : ends requestId (event, answer (step latest) s event) = false) :
    Open (next (step latest) s event) requestId time := by
  obtain ⟨active, hactive, hid, hopen, hexpires⟩ := h
  have hdoes := step_slot latest s event
  rw [show answer (Bootstrap.step latest) s event = (Bootstrap.step latest s event).2 from rfl]
    at hends
  rw [show next (Bootstrap.step latest) s event = (Bootstrap.step latest s event).1 from rfl]
  generalize Bootstrap.step latest s event = result at hdoes hends
  cases hdoes with
  | began _ active' hfree hactive' hexpires' hopen' hledger hcause hdrawn hanswer =>
      cases hfree active hactive with
      | inl hconcluded => simp [hopen] at hconcluded
      | inr hover => omega
  | emptied _ hnone hwhy hstarted hconcludes htells =>
      cases hwhy with
      | inl hexpired =>
          simp only [BootstrapState.isExpired, hactive, Option.any_some, decide_eq_true_eq]
            at hexpired
          omega
      | inr hended =>
          have hnow := hended active hactive
          rw [hid, hends] at hnow
          cases hnow
  | left _ hsame hstarted hconcludes htells => exact ⟨active, hsame.trans hactive, hid, hopen, hexpires⟩
  | told active' answer hactive' htime' hanswer hstart hconclude =>
      exact ⟨active, hactive, hid, hopen, hexpires⟩
  | ledger active' ledger hactive' hoperation =>
      rw [hactive] at hactive'
      rw [← Option.some.inj hactive']
      exact ⟨_, rfl, hid, hopen, hexpires⟩
  | refusal active' refusal hactive' hoperation =>
      rw [hactive] at hactive'
      rw [← Option.some.inj hactive']
      exact ⟨_, rfl, hid, hopen, hexpires⟩
  | concluded active' outcome hactive' hopen' hoperation =>
      rw [hactive] at hactive'
      rw [← Option.some.inj hactive'] at hoperation
      simp [ends, hoperation, hid] at hends

theorem Open.run {time : Nat} (h : Open s requestId time)
    (htime : ∀ event ∈ events, event.now < time)
    (hends : ∀ x ∈ history (Bootstrap.step latest) s events, ends requestId x = false) :
    Open (Foundation.run (Bootstrap.step latest) s events) requestId time := by
  induction events generalizing s with
  | nil => exact h
  | cons event events ih =>
      rw [List.forall_mem_cons] at htime
      rw [history, List.forall_mem_cons] at hends
      exact ih (h.step htime.1 hends.1) htime.2 hends.2

/-- A session that was started is open right after. -/
theorem open_of_started
    (h : startedBy (event, answer (step latest) s event) = some (requestId, event.now)) :
    Open (next (step latest) s event) requestId (event.now + bootstrapTtl) := by
  have hdoes := step_slot latest s event
  rw [show answer (step latest) s event = (step latest s event).2 from rfl] at h
  rw [show next (step latest) s event = (step latest s event).1 from rfl]
  generalize step latest s event = result at hdoes h
  cases hdoes with
  | began _ active hfree hactive hexpires hopen hledger hcause hdrawn hanswer =>
      obtain ⟨input, draw, hoperation, hid⟩ := hdrawn
      rw [hanswer] at h
      simp only [startedBy, hoperation, Option.some.injEq, Prod.mk.injEq] at h
      exact ⟨active, hactive, h.1, hopen, hexpires⟩
  | emptied _ hactive hwhy hstarted hconcludes htells =>
      rw [hstarted] at h
      cases h
  | left _ hactive hstarted hconcludes htells =>
      rw [hstarted] at h
      cases h
  | told active answer hactive htime hanswer hstart hconclude =>
      obtain ⟨now, operation⟩ := event
      cases operation with
      | start input draw => exact absurd rfl (hstart input draw)
      | _ => cases h
  | ledger active ledger hactive hoperation => simp [startedBy, hoperation] at h
  | refusal active refusal hactive hoperation => simp [startedBy, hoperation] at h
  | concluded active outcome hactive hopen hoperation => simp [startedBy, hoperation] at h

theorem open_of_live (hnow : ∀ event ∈ events, event.now ≤ now)
    (h : Live latest events now requestId) :
    ∃ time, Open (run (step latest) {} events) requestId time := by
  obtain ⟨before, first, after, rfl, hstarted, htime, hends⟩ := h
  have hopen := open_of_started hstarted
  have hafter : ∀ event ∈ after, event.now < first.now + bootstrapTtl := by
    intro event hevent
    have hlate := hnow event (List.mem_append_right _ (List.mem_cons_of_mem _ hevent))
    omega
  rw [run_append] at hends ⊢
  exact ⟨_, hopen.run hafter hends⟩

/-- Two sessions are never live at once. -/
theorem live_unique {other : Bytes} (hnow : ∀ event ∈ events, event.now ≤ now)
    (h : Live latest events now requestId) (hother : Live latest events now other) :
    requestId = other := by
  obtain ⟨time, active, hactive, hid, -⟩ := open_of_live hnow h
  obtain ⟨time', active', hactive', hid', -⟩ := open_of_live hnow hother
  rw [hactive] at hactive'
  rw [← hid, ← hid', Option.some.inj hactive']

/-- What an answer tells of is in the slot, with time left. -/
theorem tells_active (h : (answer (step latest) s event).tellsOf = some requestId) :
    ∃ active, (next (step latest) s event).active = some active ∧ active.requestId = requestId ∧
      event.now < active.expiresAt := by
  have hdoes := step_slot latest s event
  rw [show answer (step latest) s event = (step latest s event).2 from rfl] at h
  rw [show next (step latest) s event = (step latest s event).1 from rfl]
  generalize step latest s event = result at hdoes h
  cases hdoes with
  | began _ active hfree hactive hexpires hopen hledger hcause hdrawn hanswer =>
      rw [hanswer] at h
      have hpositive : 0 < bootstrapTtl := by decide
      exact ⟨active, hactive, Option.some.inj h, by omega⟩
  | emptied _ hactive hwhy hstarted hconcludes htells =>
      rw [htells] at h
      cases h
  | left _ hactive hstarted hconcludes htells =>
      rw [htells] at h
      cases h
  | told active answer hactive htime hanswer hstart hconclude =>
      refine ⟨active, hactive, ?_, htime⟩
      cases hanswer with
      | inl hview =>
          rw [hview] at h
          exact Option.some.inj h
      | inr hscope =>
          obtain ⟨remaining, hscope⟩ := hscope
          rw [hscope] at h
          exact Option.some.inj h
  | ledger | refusal | concluded => cases h

/-- What a view shows was held by the slot before, or is a session that just began. -/
theorem view_held {shown : BootstrapSessionView} (h : answer (step latest) s event = .view shown) :
    (∃ active, s.active = some active ∧ shown = BootstrapState.viewOf event.now active) ∨
      shown.installLedger = none ∧ shown.refusal = none := by
  have hdoes := step_slot latest s event
  rw [show answer (step latest) s event = (step latest s event).2 from rfl] at h
  generalize step latest s event = result at hdoes h
  cases hdoes with
  | began _ active hfree hactive hexpires hopen hledger hcause hdrawn hanswer =>
      right
      rw [hanswer] at h
      rw [← Answer.view.inj h]
      simp [BootstrapState.viewOf, hopen]
  | emptied _ hactive hwhy hstarted hconcludes htells => simp [h, Answer.tellsOf] at htells
  | left _ hactive hstarted hconcludes htells => simp [h, Answer.tellsOf] at htells
  | told active answer hactive htime hanswer hstart hconclude =>
      left
      cases hanswer with
      | inl hview =>
          rw [hview] at h
          exact ⟨active, hactive, (Answer.view.inj h).symm⟩
      | inr hscope =>
          obtain ⟨remaining, hscope⟩ := hscope
          rw [hscope] at h
          cases h
  | ledger | refusal | concluded => cases h

/-- A call by which the Assistant of a session reports. -/
def Operation.reports : Operation → Option Bytes
  | .recordInstallLedger requestId _ | .recordRefusal requestId _ | .retainAttestedScope requestId _
  | .conclude requestId _ => some requestId
  | _ => none

/-- A report that does not name the active session changes nothing. -/
theorem report_other (h : event.operation.reports = some requestId)
    (hother : ∀ active, s.active = some active → active.requestId ≠ requestId) :
    next (step latest) s event = s := by
  have hfilter : (s.active.filter fun active => active.requestId = requestId) = none := by
    rw [Option.filter_eq_none_iff]
    intro active hactive
    rw [decide_eq_true_eq]
    exact hother active hactive
  have hsame : ∀ change, s.onActive requestId change = s := by
    intro change
    rw [BootstrapState.onActive, hfilter]
  obtain ⟨now, operation⟩ := event
  cases operation with
  | recordInstallLedger named ledger =>
      obtain rfl : named = requestId := Option.some.inj h
      cases ledger with
      | none => rfl
      | some ledger => exact hsame _
  | recordRefusal named refusal =>
      obtain rfl : named = requestId := Option.some.inj h
      cases refusal with
      | none => rfl
      | some refusal => exact hsame _
  | retainAttestedScope named scope =>
      obtain rfl : named = requestId := Option.some.inj h
      show s.retainAttestedScope named scope = s
      unfold BootstrapState.retainAttestedScope
      rw [hfilter]
      cases scope <;> rfl
  | conclude named outcome =>
      obtain rfl : named = requestId := Option.some.inj h
      show (s.conclude named outcome).1 = s
      unfold BootstrapState.conclude
      split
      · rfl
      · split
        · rfl
        · rename_i active hactive
          rw [if_pos (by simp [hother active hactive])]
  | start | status | cancel | assistantScope | clear | close => cases h

/-- A session that another one was started after. -/
def Replaced (h : List (Event × Answer)) (requestId : Bytes) : Prop :=
  ∃ before time after, starts h = before ++ (requestId, time) :: after ∧ after ≠ []

theorem Told.replaced {h : List (Event × Answer)} (htold : Told h s) (hreplaced : Replaced h requestId)
    (active : BootstrapSession) (hactive : s.active = some active) : active.requestId ≠ requestId := by
  obtain ⟨before, time, after, hstarts, hmore⟩ := hreplaced
  obtain ⟨time', hlast, -⟩ := (htold.held active hactive).last
  intro hid
  have hmem : (active.requestId, time') ∈ after := by
    rw [hstarts, List.getLast?_append_cons, List.getLast?_cons_of_ne_nil hmore] at hlast
    exact List.mem_of_getLast? hlast
  have hdistinct := htold.distinct
  rw [hstarts, List.map_append, List.map_cons] at hdistinct
  have hnot := (List.nodup_cons.1 (List.nodup_append.1 hdistinct).2.1).1
  rw [← hid] at hnot
  exact hnot (List.mem_map.2 ⟨_, hmem, rfl⟩)

/-- A start that would be admitted but for an attestation. -/
def Admissible (s : BootstrapState) (now : Nat) (input : BootstrapStartInput) : Prop :=
  ∃ prepared, ({ s with attestedNarrow := none }.prepareStart now input).2 = .ok prepared

/-- Whether a start asks for an installation. -/
def installs (input : BootstrapStartInput) : Bool :=
  (input.action.getD .auditTargetReadOnly).installs

theorem Admissible.free {input : BootstrapStartInput} (h : Admissible s now input) :
    s.closed = false ∧
      ((s.clearIfExpired now).active.any fun active => active.concluded.isNone) = false := by
  obtain ⟨prepared, hprepared⟩ := h
  have hslot : (({ s with attestedNarrow := none } : BootstrapState).clearIfExpired now).active =
      (s.clearIfExpired now).active := by
    unfold BootstrapState.clearIfExpired
    have hexpired : ({ s with attestedNarrow := none } : BootstrapState).isExpired now =
        s.isExpired now := rfl
    rw [hexpired]
    split <;> rfl
  unfold BootstrapState.prepareStart at hprepared
  have hsame : ({ s with attestedNarrow := none } : BootstrapState).closed = s.closed := rfl
  rw [hsame] at hprepared
  cases hclosed : s.closed with
  | true => simp [hclosed] at hprepared
  | false =>
      refine ⟨rfl, ?_⟩
      rw [if_neg (by simp [hclosed])] at hprepared
      dsimp only at hprepared
      rw [hslot] at hprepared
      by_contra hbusy
      rw [if_pos (by simpa using hbusy)] at hprepared
      cases hprepared

theorem refused_iff {input : BootstrapStartInput} {draw : Option (Fixed requestIdBytes)}
    {target : BootstrapTarget} {permits : Bytes} (hadmissible : Admissible s now input)
    (hinstalls : installs input = true) (htarget : validateTarget input.target = some target) :
    answer (step latest) s ⟨now, .start input draw⟩ = .failed (.entryTooNarrow permits) ↔
      s.attestedNarrow = some ⟨target, permits⟩ := by
  constructor
  · intro hanswer
    rcases @start_attested latest s now input draw with
      ⟨narrow, other, hrefused, hvalid, hentry, hother, -⟩ | ⟨hnever, -⟩
    · have hpermits : Answer.failed (.entryTooNarrow narrow.permits) =
          .failed (.entryTooNarrow permits) := by
        rw [← hanswer]
        show _ = answered Answer.view (s.start now latest input draw).2
        rw [hrefused]
        rfl
      rw [htarget] at hvalid
      rw [hentry, ← BootstrapError.entryTooNarrow.inj (Answer.failed.inj hpermits),
        Option.some.inj hvalid, ← hother]
    · have hstart : answered Answer.view (s.start now latest input draw).2 =
          .failed (.entryTooNarrow permits) := hanswer
      cases hresult : (s.start now latest input draw).2 with
      | ok view =>
          rw [hresult] at hstart
          cases hstart
      | error error =>
          rw [hresult] at hstart
          exact absurd (hresult.trans (congrArg _ (Answer.failed.inj hstart))) (hnever permits)
  · intro hentry
    obtain ⟨hclosed, hbusy⟩ := hadmissible.free
    have hprepare : (s.prepareStart now input).2 = .error (.entryTooNarrow permits) := by
      unfold BootstrapState.prepareStart
      simp only [hclosed, hbusy, htarget, clear_attested, hentry, Bool.false_eq_true, if_false]
      rw [Option.filter_some, if_pos]
      rw [Bool.and_eq_true]
      exact ⟨hinstalls, decide_eq_true rfl⟩
    show answered Answer.view (s.start now latest input draw).2 = _
    unfold BootstrapState.start
    generalize s.prepareStart now input = result at hprepare
    obtain ⟨s', outcome⟩ := result
    rw [show outcome = .error (.entryTooNarrow permits) from hprepare]
    rfl

/-- Over every run whose identifiers are distinct, in any order of the calls.  Two sessions are
never live at once.  A view or a scope tells of a session that was started less than five
minutes before.  Each session is concluded once at most, and what a view shows of its ledger
and its refusal was reported of that session, which was concluded as the view says.  A report of
a session that was replaced changes nothing.  And an installing start that is admissible
otherwise is refused for a narrow entry exactly where the last thing known of its target is that
it is narrow, and no other target was found narrow since. -/
theorem sessions_run (latest : Nat) (events : List Event) (hdistinct : Distinct events) :
    (∀ now, (∀ event ∈ events, event.now ≤ now) → ∀ first second,
      Live latest events now first → Live latest events now second → first = second) ∧
    (∀ before event after, events = before ++ event :: after → ∀ requestId,
      (answer (step latest) (run (step latest) {} before) event).tellsOf = some requestId →
        (∃ time, (requestId, time) ∈ starts (history (step latest) {} (before ++ [event]))) ∧
        ∀ time, (requestId, time) ∈ starts (history (step latest) {} (before ++ [event])) →
          event.now < time + bootstrapTtl) ∧
    (∀ requestId, (history (step latest) {} events).countP (concludes requestId) ≤ 1) ∧
    (∀ before event after, events = before ++ event :: after → ∀ shown,
      answer (step latest) (run (step latest) {} before) event = .view shown →
        (shown.installLedger ≠ none ∨ shown.refusal ≠ none →
          ∃ now, (⟨now, .conclude shown.requestId shown.lifecycle⟩, .done) ∈
            history (step latest) {} before) ∧
        (∀ ledger, shown.installLedger = some ledger →
          ∃ now, (⟨now, .recordInstallLedger shown.requestId (some ledger)⟩, .done) ∈
            history (step latest) {} before) ∧
        ∀ refusal, shown.refusal = some refusal →
          ∃ now, (⟨now, .recordRefusal shown.requestId (some refusal)⟩, .done) ∈
            history (step latest) {} before) ∧
    (∀ requestId event, Replaced (history (step latest) {} events) requestId →
      event.operation.reports = some requestId →
        next (step latest) (run (step latest) {} events) event = run (step latest) {} events) ∧
    ∀ now input draw target permits, Admissible (run (step latest) {} events) now input →
      installs input = true → validateTarget input.target = some target →
        (answer (step latest) (run (step latest) {} events) ⟨now, .start input draw⟩ =
            .failed (.entryTooNarrow permits) ↔
          LastNarrow (notes latest {} events) target permits) := by
  have hbegun : ∀ before more, events = before ++ more → Distinct before := by
    intro before more hsplit
    rw [Distinct, hsplit, List.filterMap_append] at hdistinct
    exact (List.nodup_append.1 hdistinct).1
  have htold := (told_run latest events hdistinct).1
  refine ⟨?_, ?_, htold.once, ?_, ?_, ?_⟩
  · intro now hnow first second hfirst hsecond
    exact live_unique hnow hfirst hsecond
  · intro before event after hsplit requestId htells
    have hbefore := (told_run latest (before ++ [event]) (hbegun _ after (by simp [hsplit]))).1
    obtain ⟨active, hactive, hid, htime⟩ := tells_active htells
    have hnow : run (step latest) {} (before ++ [event]) =
        next (step latest) (run (step latest) {} before) event := run_append (step latest) {} before [event]
    rw [← hnow] at hactive
    obtain ⟨time, hlast, hexpires⟩ := (hbefore.held active hactive).last
    have hmem := List.mem_of_getLast? hlast
    rw [hid] at hmem
    refine ⟨⟨time, hmem⟩, ?_⟩
    intro other hother
    have hsame : (requestId, other) = (requestId, time) :=
      List.inj_on_of_nodup_map hbefore.distinct hother hmem rfl
    rw [(Prod.mk.inj hsame).2, ← hexpires]
    exact htime
  · intro before event after hsplit shown hanswer
    have hbefore := (told_run latest before (hbegun _ _ hsplit)).1
    cases view_held hanswer with
    | inr hnothing => simp [hnothing.1, hnothing.2]
    | inl hshown =>
        obtain ⟨active, hactive, rfl⟩ := hshown
        have hheld := hbefore.held active hactive
        cases hconcluded : active.concluded with
        | none => simp [BootstrapState.viewOf, hconcluded]
        | some outcome =>
            refine ⟨?_, ?_, ?_⟩
            · intro _
              have hlifecycle : (BootstrapState.viewOf event.now active).lifecycle = outcome := by
                simp [BootstrapState.viewOf, hconcluded]
              rw [hlifecycle]
              exact hheld.concluded outcome hconcluded
            · intro ledger hledger
              exact hheld.ledger ledger (by simpa [BootstrapState.viewOf, hconcluded] using hledger)
            · intro refusal hrefusal
              exact hheld.refusal refusal (by simpa [BootstrapState.viewOf, hconcluded] using hrefusal)
  · intro requestId event hreplaced hreports
    exact report_other hreports (htold.replaced hreplaced)
  · intro now input draw target permits hadmissible hinstalls htarget
    rw [refused_iff hadmissible hinstalls htarget, notes_retained]
    exact kept_iff _ _ _

end Runs

namespace Sample

def draw (n : UInt8) : Fixed requestIdBytes := ⟨List.replicate 16 n, by simp [requestIdBytes]⟩

def named (n : UInt8) : Bytes := hexEncode (draw n).1

def target (host : String) : BootstrapTarget where
  host := text host
  port := 22
  username := text "infra_admin"
  hostKeySHA256 := text "SHA256:" ++ List.replicate 43 0x41
  accessKind := .administrator

def asking (action : Option BootstrapAction) (host : String) : BootstrapStartInput :=
  ⟨.create, target host, action, none, none⟩

/-- An audit that finds the entry of a target narrow. -/
def audit (n : UInt8) (host : String) : List Event :=
  [⟨1, .start (asking none host) (some (draw n))⟩,
    ⟨1, .retainAttestedScope (named n) (some ⟨false, text "/usr/bin/id"⟩)⟩,
    ⟨1, .conclude (named n) .accessVerified⟩]

def latest : Nat := 2 ^ 80

end Sample

open Sample in
theorem sessions_run_audit :
    answer (step latest) (run (step latest) {} (audit 1 "a.example"))
      ⟨1, .start (asking (some .installServerBundle) "a.example") none⟩ =
      .failed (.entryTooNarrow (text "/usr/bin/id")) :=
  ((sessions_run latest (audit 1 "a.example") (by unfold Distinct; decide +kernel)).2.2.2.2.2 1
    (asking (some .installServerBundle) "a.example") none (target "a.example") (text "/usr/bin/id")
    ⟨⟨.create, target "a.example", .installServerBundle, none, none⟩, by decide +kernel⟩ rfl
    (by decide +kernel)).2 ⟨[], [], by decide +kernel, List.forall_mem_nil _⟩

open Sample in
/-- A second target that is found narrow takes the place of the first, whose start is then not
refused. -/
theorem second_target_forgets :
    ¬ ∀ (latest : Nat) (events : List Event),
      (events.Pairwise fun event later => event.now ≤ later.now) → Distinct events →
      ∀ now input draw target permits, Admissible (run (step latest) {} events) now input →
        installs input = true → validateTarget input.target = some target →
          (answer (step latest) (run (step latest) {} events) ⟨now, .start input draw⟩ =
              .failed (.entryTooNarrow permits) ↔
            ∃ before after, notes latest {} events = before ++ .narrow target permits :: after ∧
              ∀ note ∈ after, note.target ≠ target) := by
  intro h
  have hrefused := (h latest (audit 1 "a.example" ++ audit 2 "b.example") (by decide +kernel)
    (by unfold Distinct; decide +kernel) 1 (asking (some .installServerBundle) "a.example") none
    (target "a.example") (text "/usr/bin/id")
    ⟨⟨.create, target "a.example", .installServerBundle, none, none⟩, by decide +kernel⟩ rfl
    (by decide +kernel)).2
    ⟨[], [.narrow (target "b.example") (text "/usr/bin/id")], by decide +kernel, by decide +kernel⟩
  revert hrefused
  decide +kernel

end YourCloud.App.Bootstrap
