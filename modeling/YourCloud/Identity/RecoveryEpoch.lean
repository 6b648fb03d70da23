import YourCloud.Identity.Keeps

/-!
# The epoch of the recovery key

A candidate carries the recovery key its device will have: the one that is
active, for a rotation of the device, and the next one for a recovery.  As long
as the key is not rotated between the moment a candidate takes it over and its
activation, the epoch of the active key only grows while one enrolment lasts.

A revocation ends an enrolment; the next one begins again at epoch 1.

## Main results

* `recovery_epoch_run` — over every such run, from any authority.
* `recovery_epoch_restarts` — an enrolment after a revocation.
-/

namespace YourCloud.Identity

open YourCloud.Foundation
open YourCloud.Approval (canonicalUUIDv4)

namespace Manager

/-- The recovery key of a candidate follows from the active one. -/
def Follows (mode : Mode) (epoch : UInt64) (publicKey : Bytes) (state : AuthorityState) : Prop :=
  match mode with
  | .enrollment => epoch = 1
  | .recovery => ∀ active, state.active = some active →
      active.recoveryEpoch ≠ maxUint64 ∧ epoch = active.recoveryEpoch + 1
  | .rotation => ∀ active, state.active = some active →
      epoch = active.recoveryEpoch ∧ publicKey = active.recoveryPublicKey

def CandidateFollows (candidate : DurableCandidate) (state : AuthorityState) : Prop :=
  Follows candidate.mode candidate.record.recoveryEpoch candidate.record.recoveryPublicKey state

/-- What a process holds was read from its files, and each recovery key to come
follows from the active one. -/
structure Consecutive (core : Core) : Prop where
  store : core.store = core.files.authority
  file : core.files.candidate = core.candidate.map PendingCandidate.durable
  candidate : ∀ candidate, core.candidate = some candidate →
    CandidateFollows candidate.durable core.store
  /-- A window stays open beside the candidate of a rotation only. -/
  beside : ∀ candidate, core.candidate = some candidate → core.window ≠ none →
    candidate.mode = .rotation
  transaction : ∀ window transaction digest, core.window = some window →
    window.transaction = some (transaction, digest) →
    Follows window.mode.mode transaction.nextRecoveryEpoch [] core.store

/-- The candidate in a file follows, unless it was committed. -/
def ConsecutiveFiles (files : Files) : Prop :=
  ∀ durable, files.candidate = some durable →
    candidateReceiptExists durable files.authority = false →
    CandidateFollows durable files.authority

/-- The recovery key is rotated where no candidate and no recovery has taken it
over. -/
def Idle (core : Core) : Prop :=
  core.candidate = none ∧ ∀ window transaction, core.window = some window →
    window.transaction = some transaction → window.mode = .enrollment

/-- The epoch of a later recovery key. -/
def Later (active next : DeviceRecord) : Prop :=
  active.recoveryEpoch ≤ next.recoveryEpoch ∧
    (active.recoveryPublicKey ≠ next.recoveryPublicKey →
      active.recoveryEpoch < next.recoveryEpoch)

/-- What one step does to the recovery key of the active device. -/
def Continues (past state : AuthorityState) : Prop :=
  ∀ next, state.active = some next →
    match past.active with
    | some active => Later active next
    | none => next.recoveryEpoch = 1

theorem Later.refl (active : DeviceRecord) : Later active active :=
  ⟨UInt64.le_refl _, fun h => absurd rfl h⟩

theorem Later.trans {a b c : DeviceRecord} (hab : Later a b) (hbc : Later b c) : Later a c := by
  refine ⟨UInt64.le_trans hab.1 hbc.1, fun hne => ?_⟩
  by_cases hkey : a.recoveryPublicKey = b.recoveryPublicKey
  · exact UInt64.lt_of_le_of_lt hab.1 (hbc.2 (hkey ▸ hne))
  · exact UInt64.lt_of_lt_of_le (hab.2 hkey) hbc.1

theorem lt_succ_of_ne_max {epoch : UInt64} (h : epoch ≠ maxUint64) : epoch < epoch + 1 := by
  have hne : epoch.toNat ≠ 2 ^ 64 - 1 := fun heq => h (UInt64.toNat.inj heq)
  have hlt := epoch.toNat_lt
  rw [UInt64.lt_iff_toNat_lt, UInt64.toNat_add, UInt64.toNat_one, Nat.mod_eq_of_lt (by omega)]
  omega

/-- Without an active device only an enrollment follows. -/
theorem Follows.of_inactive {mode : Mode} {epoch : UInt64} {publicKey : Bytes}
    {past state : AuthorityState} (h : Follows mode epoch publicKey past)
    (hactive : state.active = none) : Follows mode epoch publicKey state := by
  cases mode with
  | enrollment => exact h
  | recovery =>
      intro active hsome
      rw [hactive] at hsome
      cases hsome
  | rotation =>
      intro active hsome
      rw [hactive] at hsome
      cases hsome

/-- Beside a rotation of the device, what follows still does. -/
theorem Follows.of_same {mode : Mode} {epoch : UInt64} {publicKey : Bytes}
    {past state : AuthorityState} (h : Follows mode epoch publicKey past)
    (hsame : ∀ next, state.active = some next → ∃ active, past.active = some active ∧
      next.recoveryEpoch = active.recoveryEpoch ∧
        next.recoveryPublicKey = active.recoveryPublicKey) :
    Follows mode epoch publicKey state := by
  cases mode with
  | enrollment => exact h
  | recovery =>
      intro next hnext
      obtain ⟨active, hactive, hepoch, -⟩ := hsame next hnext
      rw [hepoch]
      exact h active hactive
  | rotation =>
      intro next hnext
      obtain ⟨active, hactive, hepoch, hkey⟩ := hsame next hnext
      rw [hepoch, hkey]
      exact h active hactive

variable {p : Primitives}

/-- What a candidate leaves once it is active. -/
theorem Follows.activated {candidate : PendingCandidate} {state next : AuthorityState}
    {requestDigest : Bytes} {now : Int}
    (h : CandidateFollows candidate.durable state)
    (hactivated : activateCandidate p state candidate requestDigest now = some next) :
    Continues state next := by
  obtain ⟨revoked, hreplaced, -, rfl, -⟩ := activateCandidate_eq_some.1 hactivated
  intro device hdevice
  have hepoch : device.recoveryEpoch = candidate.certificate.record.recoveryEpoch ∧
      device.recoveryPublicKey = candidate.certificate.record.recoveryPublicKey := by
    rw [← Option.some.inj hdevice]
    exact ⟨rfl, rfl⟩
  unfold CandidateFollows PendingCandidate.durable Follows at h
  cases replaceActive_eq_some.1 hreplaced with
  | inl henrolled =>
      obtain ⟨hmode, hnone, -⟩ := henrolled
      simp only [hmode] at h
      rw [hnone, hepoch.1]
      exact h
  | inr hreplaced =>
      obtain ⟨hmode, active, hactive, -⟩ := hreplaced
      rw [hactive]
      cases hkind : candidate.mode with
      | enrollment => exact absurd hkind hmode
      | recovery =>
          simp only [hkind] at h
          obtain ⟨hmax, hnext⟩ := h active hactive
          have hlt := lt_succ_of_ne_max hmax
          rw [← hnext, ← hepoch.1] at hlt
          exact ⟨UInt64.le_of_lt hlt, fun _ => hlt⟩
      | rotation =>
          simp only [hkind] at h
          obtain ⟨hsame, hkey⟩ := h active hactive
          rw [← hepoch.1] at hsame
          rw [← hepoch.2] at hkey
          exact ⟨hsame ▸ UInt64.le_refl _, fun hne => absurd hkey.symm hne⟩

/-- A rotation of the recovery key moves its epoch by one. -/
theorem rotated_continues {mutation : RecoveryKeyMutation} {state next : AuthorityState}
    {requestDigest currentSignature nextSignature : Bytes} {now : Int}
    (h : Identity.rotateRecoveryKey p state mutation requestDigest currentSignature nextSignature
      now = some (.changed next)) :
    Continues state next := by
  obtain ⟨active, hactive, hreplayed | hchanged⟩ := rotateRecoveryKey_eq_some h
  · cases hreplayed.1
  · obtain ⟨hstate, hmax, hepoch, -⟩ := hchanged
    rw [Rotation.changed.inj hstate]
    intro device hdevice
    rw [hactive]
    have hlt := lt_succ_of_ne_max hmax
    rw [hepoch] at hlt
    have hdevice : device.recoveryEpoch = mutation.nextRecoveryEpoch := by
      rw [← Option.some.inj hdevice]
      rfl
    rw [← hdevice] at hlt
    exact ⟨UInt64.le_of_lt hlt, fun _ => hlt⟩

theorem revoked_inactive {state next : AuthorityState} {now : Int}
    (h : Identity.revokeActiveDevice p state now = some next) : next.active = none := by
  obtain ⟨active, -, -, -, rfl, -⟩ := revokeActiveDevice_eq_some.1 h
  rfl

/-! ## The invariant -/

/-- The recovery key is rotated where nothing took it over. -/
def undisturbed (revocable : Prop) : Guard where
  rotate := Idle
  revoke _ := revocable
  fresh _ _ := True

/-- A committed candidate has a receipt. -/
theorem activated_committed {candidate : PendingCandidate} {state next : AuthorityState}
    {requestDigest : Bytes} {now : Int}
    (h : activateCandidate p state candidate requestDigest now = some next) :
    candidateReceiptExists candidate.durable next = true := by
  obtain ⟨revoked, -, -, rfl, -⟩ := activateCandidate_eq_some.1 h
  unfold candidateReceiptExists activatedState appendReceipt PendingCandidate.durable
  rw [List.any_append, Bool.or_eq_true]
  right
  simp

/-- The active device once a candidate for a rotation is active. -/
theorem activated_rotation {candidate : PendingCandidate} {state next : AuthorityState}
    {requestDigest : Bytes} {now : Int} (hmode : candidate.mode = .rotation)
    (hfollows : CandidateFollows candidate.durable state)
    (h : activateCandidate p state candidate requestDigest now = some next) :
    ∀ device, next.active = some device → ∃ active, state.active = some active ∧
      device.recoveryEpoch = active.recoveryEpoch ∧
        device.recoveryPublicKey = active.recoveryPublicKey := by
  obtain ⟨revoked, hreplaced, -, rfl, -⟩ := activateCandidate_eq_some.1 h
  intro device hdevice
  cases replaceActive_eq_some.1 hreplaced with
  | inl henrolled =>
      rw [hmode] at henrolled
      cases henrolled.1
  | inr hreplaced =>
      obtain ⟨-, active, hactive, -⟩ := hreplaced
      simp only [CandidateFollows, PendingCandidate.durable, Follows, hmode] at hfollows
      refine ⟨active, hactive, ?_⟩
      rw [← Option.some.inj hdevice]
      exact hfollows active hactive

theorem newTransaction_follows {state : AuthorityState} {mode : WindowMode} {requestID : Bytes}
    {draws : TransactionDraws} {now : Int} {transaction : IdentityTransaction}
    (h : newTransaction state mode requestID draws now = some transaction) :
    Follows mode.mode transaction.nextRecoveryEpoch [] state := by
  unfold newTransaction at h
  by_cases hrequest : canonicalRawURLBytes requestID 16 = true
  case neg => simp [hrequest] at h
  cases mode with
  | enrollment =>
      simp only [hrequest, Bool.not_true, Bool.false_eq_true, if_false, Option.pure_def,
        Option.bind_eq_bind, Option.some.injEq] at h
      rw [← h]
      rfl
  | recovery =>
      simp only [hrequest, Bool.not_true, Bool.false_eq_true, if_false, Option.pure_def,
        Option.bind_eq_bind, Option.bind_eq_some_iff] at h
      obtain ⟨active, hactive, h⟩ := h
      split at h
      · cases h
      · rename_i hmax
        intro other hother
        obtain rfl := Option.some.inj (hactive.symm.trans hother)
        rw [← Option.some.inj h]
        exact ⟨hmax, rfl⟩

/-- Without a window there is no transaction. -/
theorem transaction_of_closed {core : Core} (h : core.window = none) :
    ∀ window transaction digest, core.window = some window →
      window.transaction = some (transaction, digest) →
      Follows window.mode.mode transaction.nextRecoveryEpoch [] core.store := by
  intro window _ _ hwindow _
  rw [h] at hwindow
  cases hwindow

theorem consecutive_keeps (p : Primitives) (revocable : Prop) :
    Keeps p (undisturbed revocable) Consecutive Consecutive ConsecutiveFiles ConsecutiveFiles where
  weaken _ hI := hI
  left _ hR := hR
  rest core hI := by
    intro durable hdurable _
    rw [hI.file] at hdurable
    obtain ⟨candidate, hcandidate, rfl⟩ := Option.map_eq_some_iff.1 hdurable
    rw [← hI.store]
    exact hI.candidate candidate hcandidate
  changed core hI := by
    intro durable hdurable _
    rw [hI.file] at hdurable
    obtain ⟨candidate, hcandidate, rfl⟩ := Option.map_eq_some_iff.1 hdurable
    rw [← hI.store]
    exact hI.candidate candidate hcandidate
  window core hI :=
    ⟨hI.store, hI.file, hI.candidate, fun _ _ h => absurd rfl h, transaction_of_closed rfl⟩
  failed core window n hI hwindow := by
    refine ⟨hI.store, hI.file, hI.candidate, fun candidate hcandidate _ => ?_, ?_⟩
    · exact hI.beside candidate hcandidate (hwindow ▸ nofun)
    · intro w transaction digest hw htransaction
      rw [← Option.some.inj hw] at htransaction ⊢
      exact hI.transaction window transaction digest hwindow htransaction
  opened core mode id codeDigest now hI hcandidate := by
    refine ⟨hI.store, hI.file, hI.candidate, fun candidate hsome _ => ?_, ?_⟩
    · exact absurd (hcandidate.symm.trans hsome) nofun
    · intro w transaction digest hw htransaction
      rw [← Option.some.inj hw] at htransaction
      cases htransaction
  begun core window requestID draws now transaction digest hI hwindow htransaction := by
    refine ⟨hI.store, hI.file, hI.candidate, fun candidate hcandidate _ => ?_, ?_⟩
    · exact hI.beside candidate hcandidate (hwindow ▸ nofun)
    · intro w t d hw ht
      rw [← Option.some.inj hw] at ht ⊢
      obtain ⟨rfl, -⟩ := Prod.mk.inj (Option.some.inj ht)
      exact newTransaction_follows htransaction
  pruned core candidate now hI _ _ := ⟨hI.store, rfl, nofun, nofun, hI.transaction⟩
  completed core window transaction digest request keys issued now serial hI hwindow htransaction
      _ _ _ _ _ := by
    refine ⟨hI.store, rfl, ?_, fun _ _ h => absurd rfl h, transaction_of_closed rfl⟩
    intro candidate hcandidate
    rw [← Option.some.inj hcandidate]
    have hfollows := hI.transaction window transaction digest hwindow htransaction
    unfold CandidateFollows completedCandidate PendingCandidate.durable completedCertificate
    cases hmode : window.mode with
    | enrollment =>
        rw [hmode] at hfollows
        exact hfollows
    | recovery =>
        rw [hmode] at hfollows
        exact hfollows
  prepared core active rotationID requestDigest issued publicP256 now serial hI _ hactive _ _ _ _ := by
    refine ⟨hI.store, rfl, ?_, ?_, hI.transaction⟩
    · intro candidate hcandidate
      rw [← Option.some.inj hcandidate]
      intro other hother
      obtain rfl := Option.some.inj (hactive.symm.trans hother)
      exact ⟨rfl, rfl⟩
    · intro candidate hcandidate _
      rw [← Option.some.inj hcandidate]
      rfl
  committed core candidate state requestDigest now hI hcandidate hactivated := by
    constructor
    · refine ⟨rfl, rfl, nofun, nofun, ?_⟩
      intro window transaction digest hwindow htransaction
      have hmode := hI.beside candidate hcandidate (fun hnone => absurd (hnone.symm.trans hwindow) nofun)
      have hfollows := hI.transaction window transaction digest hwindow htransaction
      exact hfollows.of_same
        (activated_rotation hmode (hI.candidate candidate hcandidate) hactivated)
    · intro durable hdurable hcommitted
      have hfile := hI.file
      rw [hcandidate, hdurable] at hfile
      rw [Option.some.inj hfile] at hcommitted
      rw [activated_committed hactivated] at hcommitted
      cases hcommitted
  rotated core mutation requestDigest currentSignature nextSignature now state hI hidle _ := by
    obtain ⟨hcandidate, hwindow⟩ := hidle
    refine ⟨rfl, hI.file, ?_, ?_, ?_⟩
    · intro candidate hsome
      exact absurd (hcandidate.symm.trans hsome) nofun
    · intro candidate hsome
      exact absurd (hcandidate.symm.trans hsome) nofun
    · intro window transaction digest hsome htransaction
      have hmode := hwindow window _ hsome htransaction
      have hfollows := hI.transaction window transaction digest hsome htransaction
      rw [hmode] at hfollows ⊢
      exact hfollows
  revoked core now state hI _ hrevoked := by
    have hnone := revoked_inactive hrevoked
    refine ⟨rfl, hI.file, ?_, hI.beside, ?_⟩
    · intro candidate hcandidate
      exact (hI.candidate candidate hcandidate).of_inactive hnone
    · intro window transaction digest hwindow htransaction
      exact (hI.transaction window transaction digest hwindow htransaction).of_inactive hnone
  commanded files now state hR _ hrevoked := by
    intro durable hdurable hcommitted
    have hnone := revoked_inactive hrevoked
    obtain ⟨active, -, -, -, rfl, -⟩ := revokeActiveDevice_eq_some.1 hrevoked
    exact (hR durable hdurable hcommitted).of_inactive hnone
  started files now _ _ hcandidate := ⟨rfl, hcandidate, nofun, nofun, transaction_of_closed rfl⟩
  loaded files now durable candidate hR _ hdurable hdecoded := by
    obtain ⟨-, hcommitted, -, hsame⟩ := decodeDurableCandidate_eq_some hdecoded
    refine ⟨rfl, ?_, ?_, fun _ _ h => absurd rfl h, transaction_of_closed rfl⟩
    · show files.candidate = some candidate.durable
      rw [hdurable, hsame]
    · intro other hother
      rw [← Option.some.inj hother]
      show CandidateFollows candidate.durable files.authority
      rw [hsame]
      exact hR durable hdurable hcommitted.symm
  cleared files now durable candidate hR _ hdurable _ := 
    ⟨rfl, rfl, nofun, nofun, transaction_of_closed rfl⟩

/-! ## Every run -/

section Run

variable {world : World} {event : Event}

theorem continues_refl (state : AuthorityState) : Continues state state := by
  intro next hnext
  rw [hnext]
  exact Later.refl next

/-- A step from a consecutive world continues its recovery key. -/
theorem step_continues {revocable : Prop} (hworld : world.Holds Consecutive ConsecutiveFiles)
    (hadmitted : Admitted p (undisturbed revocable) world event) :
    Continues world.files.authority (next (step p) world event).files.authority :=
  ((consecutive_keeps p revocable).step_authority Continues continues_refl (fun _ hI => hI.store)
    (fun _ candidate _ _ _ hI hcandidate hactivated =>
      Follows.activated (hI.candidate candidate hcandidate) hactivated)
    (fun _ _ _ _ _ _ _ _ _ h => rotated_continues h)
    (fun _ _ _ _ h _ hnext => absurd ((revoked_inactive h).symm.trans hnext) nofun)
    hadmitted hworld).1

/-- Only a revocation takes the active device away. -/
theorem step_active (hworld : world.Holds Consecutive ConsecutiveFiles)
    (hadmitted : Admitted p (undisturbed False) world event)
    (hactive : world.files.authority.active.isSome) :
    (next (step p) world event).files.authority.active.isSome := by
  have hrel := ((consecutive_keeps p False).step_authority
    (fun past state => past.active.isSome → state.active.isSome) (fun _ h => h)
    (fun _ hI => hI.store) ?_ ?_ (fun _ _ _ h => h.elim) hadmitted hworld).1
  · exact hrel hactive
  · intro core candidate state requestDigest now _ _ hactivated _
    obtain ⟨revoked, -, -, rfl, -⟩ := activateCandidate_eq_some.1 hactivated
    rfl
  · intro core mutation requestDigest currentSignature nextSignature now state _ _ h _
    obtain ⟨active, -, hreplayed | hchanged⟩ := rotateRecoveryKey_eq_some h
    · cases hreplayed.1
    · rw [Rotation.changed.inj hchanged.1]
      rfl

/-- The operation is no revocation. -/
def Operation.KeepsDevice : Operation → Prop
  | .revokeActiveDevice _ => False
  | _ => True

/-- Where nothing is revoked, what a run admits is also admitted without it. -/
theorem admits_unrevoked {events : List Event}
    (hadmits : Admits (step p) (Admitted p (undisturbed True)) world events)
    (hkeeps : ∀ event ∈ events, event.operation.KeepsDevice) :
    Admits (step p) (Admitted p (undisturbed False)) world events := by
  induction events generalizing world with
  | nil => trivial
  | cons event events ih =>
      obtain ⟨⟨hsteady, hallows⟩, hrest⟩ := hadmits
      have hkeep := hkeeps event List.mem_cons_self
      refine ⟨⟨hsteady, ?_⟩, ih hrest fun e he => hkeeps e (List.mem_cons_of_mem _ he)⟩
      unfold Guard.Allows Guard.Issues at hallows ⊢
      cases hoperation : event.operation with
      | revokeActiveDevice write =>
          rw [hoperation] at hkeep
          exact hkeep.elim
      | rotateRecoveryKey write mutation requestDigest currentSignature nextSignature =>
          simp only [hoperation] at hallows
          exact hallows
      | complete | prepareDeviceRotation => exact fun _ _ _ _ => trivial
      | _ => trivial

/-- Along a run without a revocation. -/
theorem run_later {events : List Event} (hworld : world.Holds Consecutive ConsecutiveFiles)
    (hadmits : Admits (step p) (Admitted p (undisturbed False)) world events)
    {active : DeviceRecord} (hactive : world.files.authority.active = some active) :
    ∃ next, (run (step p) world events).files.authority.active = some next ∧
      Later active next := by
  induction events generalizing world active with
  | nil => exact ⟨active, hactive, Later.refl active⟩
  | cons event events ih =>
      obtain ⟨hadmitted, hrest⟩ := hadmits
      have hsome := step_active hworld hadmitted (hactive ▸ rfl)
      obtain ⟨middle, hmiddle⟩ := Option.isSome_iff_exists.1 hsome
      have hfirst := step_continues hworld hadmitted middle hmiddle
      rw [hactive] at hfirst
      have hkept := ((consecutive_keeps p False).step hadmitted hworld).1
      obtain ⟨last, hlast, hlater⟩ := ih hkept hrest hmiddle
      exact ⟨last, hlast, Later.trans hfirst hlater⟩

end Run

/-- The files as the authority was initialized, before any process. -/
def World.initial (authority : AuthorityState) : World := ⟨⟨authority, none⟩, none⟩

theorem initial_consecutive (authority : AuthorityState) :
    (World.initial authority).Holds Consecutive ConsecutiveFiles := by
  intro durable h
  cases h

/-- Over every run whose replacements are atomic and in which the recovery key is
rotated only while neither a candidate nor the transaction of a recovery took it
over: as long as nothing is revoked, the epoch of the active recovery key never
decreases, another key has a greater one, and a key that was replaced does not
come back with its epoch; an enrollment begins at epoch 1. -/
theorem recovery_epoch_run (p : Primitives) (authority : AuthorityState) (es fs gs : List Event)
    (hadmits : Admits (step p) (Admitted p (undisturbed True)) (World.initial authority)
      (es ++ fs ++ gs))
    (hfs : ∀ event ∈ fs ++ gs, event.operation.KeepsDevice) :
    let before := (run (step p) (World.initial authority) es).files.authority
    let middle := (run (step p) (World.initial authority) (es ++ fs)).files.authority
    let after := (run (step p) (World.initial authority) (es ++ fs ++ gs)).files.authority
    (∀ active, before.active = some active → ∃ next last, middle.active = some next ∧
      after.active = some last ∧
      active.recoveryEpoch ≤ next.recoveryEpoch ∧
      (active.recoveryPublicKey ≠ next.recoveryPublicKey →
        active.recoveryEpoch < next.recoveryEpoch ∧
        (last.recoveryEpoch, last.recoveryPublicKey) ≠
          (active.recoveryEpoch, active.recoveryPublicKey))) ∧
    ∀ event, fs = [event] → before.active = none → ∀ next, middle.active = some next →
      next.recoveryEpoch = 1 := by
  have hsplit := (admits_append (step p)).1 hadmits
  have hsplit' := (admits_append (step p)).1 hsplit.1
  have hstart := initial_consecutive authority
  have hworld := (consecutive_keeps p True).run hstart hsplit'.1
  have hworld' := (consecutive_keeps p True).run hstart hsplit.1
  have hfirst := admits_unrevoked hsplit'.2 fun e he => hfs e (List.mem_append_left _ he)
  have hsecond := admits_unrevoked hsplit.2 fun e he => hfs e (List.mem_append_right _ he)
  constructor
  · intro active hactive
    obtain ⟨next, hnext, hlater⟩ := run_later hworld hfirst hactive
    rw [← run_append] at hnext
    obtain ⟨last, hlast, hlater'⟩ := run_later hworld' hsecond hnext
    rw [← run_append] at hlast
    refine ⟨next, last, hnext, hlast, hlater.1, fun hne => ⟨hlater.2 hne, fun heq => ?_⟩⟩
    have hlt := UInt64.lt_of_lt_of_le (hlater.2 hne) hlater'.1
    rw [(Prod.mk.inj heq).1] at hlt
    exact UInt64.lt_irrefl _ hlt
  · intro event hevent hnone next hnext
    subst hevent
    have hcontinues := step_continues hworld hfirst.1 next
    rw [hnone] at hcontinues
    apply hcontinues
    rw [run_append] at hnext
    exact hnext

/-! ### A sample -/

namespace Sample

def infrastructureID : Bytes := text "00000000-0000-4000-8000-000000000002"

def firstDevice : { value : Bytes // canonicalUUIDv4 value = true } :=
  ⟨text "00000000-0000-4000-8000-000000000003", by decide⟩

theorem secondDevice_canonical :
    canonicalUUIDv4 (text "00000000-0000-4000-8000-000000000004") = true := by
  decide

def secondDevice : { value : Bytes // canonicalUUIDv4 value = true } :=
  ⟨text "00000000-0000-4000-8000-000000000004", secondDevice_canonical⟩

def drawn (size : Nat) (b : UInt8) : Fixed size := ⟨List.replicate size b, List.length_replicate⟩

def now : Int := 1796083200000000000

/-- A certificate of the sample is spelled by its serial. -/
def spell (serial : Bytes) : Bytes := text "certificate " ++ serial

def certificate (serial : Bytes) (device : Bytes) : Certificate :=
  ⟨spell serial, false, true, keyUsageDigitalSignature, [extKeyUsageClientAuth], [],
    now - clockMargin, now + deviceLifetime, [deviceURI infrastructureID device], [], [], [], serial⟩

def certificates : List Certificate :=
  [certificate (text "2a") firstDevice.1, certificate (text "2b") secondDevice.1,
    certificate (text "2c") firstDevice.1]

def signature : Bytes := List.replicate 64 7

/-- What the libraries make of the sample's values: every request is for its
device, and the one signature is right. -/
def primitives : Primitives where
  pki _ := true
  verify _ _ given := given = signature
  format _ := text "2026-12-01T00:00:00Z"
  decodePEM pem := if (text "PEM ").isPrefixOf pem then some (pem.drop 4) else none
  encodePEM der := text "PEM " ++ der
  parseCertificate der := certificates.find? fun c => c.raw = der
  parseCertificateRequest der :=
    some ⟨true, true, some (text "key"), [], [], [], [deviceURI infrastructureID der], []⟩
  signedByDeviceCA _ := true
  createCertificate template := some (spell template.serial)

def authority : AuthorityState :=
  ⟨text "00000000-0000-4000-8000-000000000001", infrastructureID, 0, none, [], []⟩

def sound : Write := ⟨.done, .done⟩

def opening : Operation := .openWindow sound .enrollment ⟨drawn 16 1, drawn 16 0⟩

def beginning (transaction : UInt8)
    (device : { value : Bytes // canonicalUUIDv4 value = true }) : Operation :=
  .begin .enrollment
    ⟨1, encodeRawURL (drawn 16 1).1, text "AAAAAAAAAAAAAAAAAAAAAAAAAA", encodeRawURL (drawn 16 2).1⟩
    ⟨drawn 16 transaction, [device], drawn 32 4, drawn 32 5⟩

def firstKey : Bytes := encodeRawURL (drawn 32 8).1

def secondKey : Bytes := encodeRawURL (drawn 32 9).1

def completing (transaction : UInt8) (device serial : Bytes) : Operation :=
  .complete sound .enrollment
    ⟨1, encodeRawURL (drawn 16 transaction).1, encodeRawURL device, encodeRawURL (drawn 32 7).1, firstKey,
      encodeRawURL signature, encodeRawURL signature, []⟩ serial

def activating (transaction : UInt8) (device serial : Bytes) : Operation :=
  .activate ⟨sound, sound, sound⟩ (some .enrollment) (encodeRawURL (drawn 16 transaction).1)
    (certificate serial device) (drawn 32 10).1

def rotating (operation : UInt8) (epoch : UInt64) (key : Bytes) : Operation :=
  .rotateRecoveryKey sound
    ⟨1, encodeRawURL (drawn 16 operation).1, epoch, encodeRawURL (drawn 32 operation).1, key⟩
    (drawn 32 11).1 (encodeRawURL signature) (encodeRawURL signature)

def events (operations : List Operation) : List Event := operations.map fun o => ⟨now, o⟩

/-- An enrollment. -/
def enrolling : List Event :=
  events [.start sound, opening, beginning 3 firstDevice, completing 3 firstDevice.1 (text "2a"),
    activating 3 firstDevice.1 (text "2a")]

def world (es : List Event) : World := run (step primitives) (World.initial authority) es

/-- The epoch and the public key of the active recovery key. -/
def recoveryKey (world : World) : Option (UInt64 × Bytes) :=
  world.files.authority.active.map fun active => (active.recoveryEpoch, active.recoveryPublicKey)

def once : List Event := enrolling ++ events [rotating 20 2 secondKey]

/-- The second recovery key is replaced by the first. -/
def twice : List Event := once ++ events [rotating 21 3 firstKey]

/-- The device is revoked, and another one enrolled. -/
def again : List Event :=
  twice ++ events [.revokeActiveDevice sound, opening, beginning 4 secondDevice,
    completing 4 secondDevice.1 (text "2b"), activating 4 secondDevice.1 (text "2b")]

end Sample

open Sample in
/-- A recovery key that was replaced is authoritative again, and an enrollment
after a revocation takes the epoch back to 1. -/
theorem recovery_epoch_restarts :
    recoveryKey (world enrolling) = some (1, firstKey) ∧
      recoveryKey (world once) = some (2, secondKey) ∧
      recoveryKey (world twice) = some (3, firstKey) ∧
      recoveryKey (world again) = some (1, firstKey) := by
  decide +kernel

open Sample in
/-- A rotation of the recovery key while nothing else goes on. -/
theorem rotating_admitted {es : List Event} {operation : UInt8} {epoch : UInt64} {key : Bytes}
    (h : ((world es).memory.map fun memory =>
      (memory.candidate.isNone, memory.window.isNone)) = some (true, true)) :
    Admits (step primitives) (Admitted primitives (undisturbed True))
      (run (step primitives) (World.initial authority) es)
      (events [rotating operation epoch key]) := by
  obtain ⟨memory, hmemory, hnone⟩ := Option.map_eq_some_iff.1 h
  obtain ⟨hcandidate, hwindow⟩ := Prod.mk.inj hnone
  have hidle : Idle ⟨(world es).memory.getD ⟨(world es).files.authority, none, none⟩,
      (world es).files⟩ := by
    rw [hmemory]
    refine ⟨Option.isNone_iff_eq_none.1 hcandidate, fun window transaction hsome _ => ?_⟩
    exact absurd ((Option.isNone_iff_eq_none.1 hwindow).symm.trans hsome) nofun
  exact ⟨⟨Verdict.noConfusion, fun _ _ => hidle⟩, trivial⟩

open Sample in
theorem recoveryKey_eq_some {es : List Event} {epoch : UInt64} {key : Bytes}
    (h : recoveryKey (world es) = some (epoch, key)) :
    ∃ active, (run (step primitives) (World.initial authority) es).files.authority.active =
      some active ∧ active.recoveryEpoch = epoch ∧ active.recoveryPublicKey = key := by
  obtain ⟨active, hactive, hkey⟩ := Option.map_eq_some_iff.1 h
  exact ⟨active, hactive, Prod.mk.inj hkey⟩

open Sample in
theorem recovery_epoch_rises :
    ∃ active next,
      (run (step primitives) (World.initial authority) enrolling).files.authority.active =
        some active ∧
      (run (step primitives) (World.initial authority)
        (enrolling ++ events [rotating 20 2 secondKey])).files.authority.active = some next ∧
      active.recoveryEpoch < next.recoveryEpoch := by
  have hatomic : sound.Atomic := Verdict.noConfusion
  have hadmits : Admits (step primitives) (Admitted primitives (undisturbed True))
      (World.initial authority) (enrolling ++ events [rotating 20 2 secondKey] ++
        events [rotating 21 3 firstKey]) := by
    refine (admits_append _).2 ⟨(admits_append _).2 ⟨?_, ?_⟩, ?_⟩
    · exact ⟨⟨hatomic, trivial⟩, ⟨hatomic, trivial⟩, ⟨trivial, trivial⟩,
        ⟨hatomic, fun _ _ _ _ => trivial⟩, ⟨⟨hatomic, hatomic, hatomic, nofun⟩, trivial⟩, trivial⟩
    · exact rotating_admitted (by decide +kernel)
    · exact rotating_admitted (by decide +kernel)
  have hkeeps : ∀ event ∈ events [rotating 20 2 secondKey] ++ events [rotating 21 3 firstKey],
      event.operation.KeepsDevice := by
    intro event hevent
    simp only [events, List.map_cons, List.map_nil, List.cons_append, List.nil_append,
      List.mem_cons, List.not_mem_nil, or_false] at hevent
    obtain rfl | rfl := hevent <;> trivial
  have hbefore : recoveryKey (world enrolling) = some (1, firstKey) := by decide +kernel
  have hafter : recoveryKey (world (enrolling ++ events [rotating 20 2 secondKey])) =
      some (2, secondKey) := by decide +kernel
  obtain ⟨active, hactive, -, hfirst⟩ := recoveryKey_eq_some hbefore
  obtain ⟨other, hother, -, hsecond⟩ := recoveryKey_eq_some hafter
  obtain ⟨next, last, hnext, -, -, hlater⟩ := (recovery_epoch_run primitives authority enrolling
    (events [rotating 20 2 secondKey]) (events [rotating 21 3 firstKey]) hadmits hkeeps).1 active
    hactive
  refine ⟨active, next, hactive, hnext, (hlater ?_).1⟩
  rw [Option.some.inj (hnext.symm.trans hother), hfirst, hsecond]
  decide

end Manager

end YourCloud.Identity
