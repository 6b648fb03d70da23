import YourCloud.App.Flows
import YourCloud.Foundation.Run

/-!
# The commands of the App

A command that changes an association reads it under the local lock, gives the lock
back, talks to the Controller and writes the record whole.  The commands run beside
each other: each of their sections is atomic, and in between anything can happen.

## Main results

* `updates_kept` — over every run in which a record is written back only over the
  record the command started from, no update is lost.
* `epoch_overwritten` — a run in which one is.
-/

namespace YourCloud.App

open YourCloud.Foundation
open YourCloud.Identity (Fixed)

namespace Commands

/-! ## Commands and their stages -/

/-- What a command wants of its association. -/
inductive Purpose where
  | other
  | readInfrastructure
  | putInfrastructure
  | rotateDevice
  deriving DecidableEq, Repr

inductive Command where
  | use (purpose : Purpose) (infrastructureID : Bytes)
  | pair
  /-- With both codes as they were parsed. -/
  | resume (oldCode newCode : Bytes)

/-- Where a command stands between two of its sections.  A stage that is about to
write a record also has the record as the command last saw it. -/
inductive Stage where
  /-- `active_association` activates what is pending. -/
  | activating (purpose : Purpose) (association : AssociationRecord)
  | activated (purpose : Purpose) (base active : AssociationRecord)
  /-- The exchange a command is for. -/
  | exchanging (purpose : Purpose) (association : AssociationRecord)
  | labelling (infrastructureID label : Bytes)
  | prepared (base candidate : AssociationRecord) (completed : IdentityCompletionResponse)
  | rotating (candidate : AssociationRecord) (completed : IdentityCompletionResponse)
  | rotated (candidate active : AssociationRecord)
  | pairing
  | paired (pairing : Pairing) (candidate : AssociationRecord)
  | pairActivating (pairing : Pairing) (candidate : AssociationRecord)
  | pairActivated (candidate active : AssociationRecord)
  /-- The targets that are not completed, and the associations as they were read. -/
  | resuming (targets : List RecoveryControllerProgress) (associations : List AssociationRecord)
      (oldCode newCode : Bytes)
  | recording (result : Option (AssociationRecord × AssociationRecord))
      (target : RecoveryControllerProgress) (targets : List RecoveryControllerProgress)
      (associations : List AssociationRecord) (oldCode newCode : Bytes)

/-- What an exchange ends with. -/
inductive Reply where
  | activation (response : IdentityActivationResponse)
  /-- The label a view has. -/
  | view (label : Option Bytes)
  | completion (rotationID devicePrivateKeyPem : Bytes) (response : IdentityCompletionResponse)
  | pairing (pairing : Pairing)
  /-- None where the exchange failed. -/
  | recoveryKey (response : Option RecoveryKeyRotationResponse)

inductive Event where
  | start (thread : Nat) (command : Command)
  | reply (thread : Nat) (reply : Reply)
  /-- The next local section; a document that cannot be committed is refused. -/
  | store (thread : Nat) (committed : Bool)
  /-- The command fails or is cancelled. -/
  | stop (thread : Nat)
  | crash
  | confirmRecoveryRotation (newCode : Bytes) (drawn : Nat → Fixed 16)
  | completeRecoveryRotation

/-! ## What a command says of an association -/

/-- What an association is used with. -/
structure Kept where
  recoveryEpoch : UInt64
  recoverySalt : Bytes
  devicePrivateKeyPem : Bytes
  deviceCertificatePem : Bytes
  infrastructureLabel : Option Bytes
  deriving DecidableEq, Repr

/-- What a command changed of it. -/
inductive Update where
  /-- A pairing begins a new record. -/
  | pairing (kept : Kept)
  | device (privateKeyPem certificatePem : Bytes)
  | recovery (epoch : UInt64) (salt : Bytes)
  | label (label : Bytes)
  deriving DecidableEq, Repr

def kept (association : AssociationRecord) : Kept :=
  ⟨association.recoveryEpoch, association.recoverySalt, association.devicePrivateKeyPem,
    association.deviceCertificatePem, association.summary.infrastructureLabel⟩

/-- An update changes what it names. -/
def Update.apply : Update → Option Kept → Option Kept
  | .pairing kept, _ => some kept
  | .device key certificate, past =>
      past.map fun kept =>
        { kept with devicePrivateKeyPem := key, deviceCertificatePem := certificate }
  | .recovery epoch salt, past =>
      past.map fun kept => { kept with recoveryEpoch := epoch, recoverySalt := salt }
  | .label value, past => past.map fun kept => { kept with infrastructureLabel := some value }

/-- What the updates of an association come to, each with the last word on what it
names. -/
def latest (identifiers : Identifiers) (updates : List (Identifiers × Update)) : Option Kept :=
  updates.foldl
    (fun past update => if update.1 = identifiers then update.2.apply past else past) none

/-! ## The App on one event -/

structure State where
  document : AppDocument
  threads : Nat → Option Stage

def State.initial : State := ⟨.empty, fun _ => none⟩

def State.setThread (state : State) (thread : Nat) (stage : Option Stage) : State :=
  { state with threads := Function.update state.threads thread stage }

@[simp] theorem State.setThread_self (state : State) (thread : Nat) (stage : Option Stage) :
    (state.setThread thread stage).threads thread = stage := by
  show Function.update state.threads thread stage thread = stage
  exact Function.update_self ..

theorem State.setThread_of_ne {state : State} {thread other : Nat} {stage : Option Stage}
    (h : other ≠ thread) : (state.setThread thread stage).threads other = state.threads other := by
  show Function.update state.threads thread stage other = state.threads other
  exact Function.update_of_ne h ..

/-- The record a stage is about to write back, behind the one the command started
from. -/
def Stage.writesBack : Stage → Option (AssociationRecord × AssociationRecord)
  | .activated _ base active => some (base, active)
  | .prepared base candidate _ => some (base, candidate)
  | .rotated candidate active => some (candidate, active)
  | .pairActivated candidate active => some (candidate, active)
  | .recording result .. => result
  | _ => none

/-- The update that the next local section is. -/
def Stage.update : Stage → Option Update
  | .activated _ base active =>
      if base.pendingMode = some (text "rotation") then
        some (.device active.devicePrivateKeyPem active.deviceCertificatePem)
      else none
  | .labelling _ label => some (.label label)
  | .rotated _ active => some (.device active.devicePrivateKeyPem active.deviceCertificatePem)
  | .paired _ candidate => some (.pairing (kept candidate))
  | .recording (some (_, record)) .. => some (.recovery record.recoveryEpoch record.recoverySalt)
  | _ => none

/-- The association the next local section is about. -/
def Stage.target (document : AppDocument) : Stage → Option Identifiers
  | .labelling infrastructureID _ =>
      (document.association infrastructureID).toOption.map AssociationRecord.identifiers
  | .paired _ candidate => some candidate.identifiers
  | stage => stage.writesBack.map fun written => written.2.identifiers

def Stage.updates (stage : Stage) (document : AppDocument) : Option (Identifiers × Update) := do
  return (← stage.target document, ← stage.update)

section Step

variable (crates : Crates)

/-- Where a command begins. -/
def begin (document : AppDocument) : Command → Option Stage
  | .use purpose infrastructureID =>
      match document.association infrastructureID with
      | .error _ => none
      | .ok association =>
          if association.summary.deviceStatus = text "active" ∧ association.pendingMode = none then
            some (.exchanging purpose association)
          else if association.summary.deviceStatus ≠ text "candidate" ∧
              association.pendingMode ≠ some (text "rotation") then none
          else
            match pendingActivation association with
            | .error _ => none
            | .ok _ => some (.activating purpose association)
  | .pair => some .pairing
  | .resume oldCode newCode =>
      match document.rotationInProgress oldCode newCode with
      | .error _ => none
      | .ok (progress, associations) =>
          some (.resuming (progress.controllers.filter fun target =>
            target.status ≠ text "completed") associations oldCode newCode)

/-- The stage after an answer; none where the command ends. -/
def receive : Stage → Reply → Option Stage
  | .activating purpose association, .activation response =>
      (activatePending association response).toOption.map fun active =>
        .activated purpose association active
  | .exchanging .readInfrastructure association, .view (some label) =>
      if association.summary.infrastructureLabel ≠ some label then
        some (.labelling association.summary.infrastructureID label)
      else none
  | .exchanging .putInfrastructure association, .view (some label) =>
      some (.labelling association.summary.infrastructureID label)
  | .exchanging .rotateDevice association, .completion rotationID key completed =>
      (rotateDeviceCandidate crates association rotationID key completed).toOption.map
        fun candidate => .prepared association candidate completed
  | .rotating candidate completed, .activation response =>
      (rotateDeviceActive candidate completed response).toOption.map fun active =>
        .rotated candidate active
  | .pairing, .pairing pairing =>
      (pairCandidate crates pairing).toOption.map fun candidate => .paired pairing candidate
  | .pairActivating pairing candidate, .activation response =>
      (pairActive pairing candidate response).toOption.map fun active =>
        .pairActivated candidate active
  | .resuming (target :: targets) associations oldCode newCode, .recoveryKey response =>
      (associations.find? fun association => association.identifiers = target.identifiers).map
        fun association =>
          .recording (response.bind fun response =>
              (rotatedRecoveryKey crates association target oldCode newCode
                response).toOption.map fun rotated => (association, rotated))
            target targets associations oldCode newCode
  | _, _ => none

/-- The document a local section makes, and the stage after it. -/
def localSection (document : AppDocument) :
    Stage → Except VaultError (AppDocument × Option Stage)
  | .activated purpose _ active => do
      let changed ← document.storeAssociation active true
      return (changed, some (.exchanging purpose active))
  | .labelling infrastructureID label => do
      let changed ← document.updateAssociationLabel infrastructureID label
      return (changed, none)
  | .prepared _ candidate completed => do
      let changed ← document.storeAssociation candidate true
      return (changed, some (.rotating candidate completed))
  | .rotated _ active => do
      let changed ← document.storeAssociation active true
      return (changed, none)
  | .paired pairing candidate => do
      let changed ← document.storeAssociation candidate (pairing.input.mode = text "recovery")
      return (changed, some (.pairActivating pairing candidate))
  | .pairActivated _ active => do
      let changed ← document.storeAssociation active true
      return (changed, none)
  | .recording result target targets associations oldCode newCode => do
      let changed ← document.recordRecoveryRotationResult (result.map Prod.snd)
        target.infrastructureID result.isSome
      return (changed, some (.resuming targets associations oldCode newCode))
  | _ => .error .invalidInput

/-- The document of a section that is not refused. -/
def committed (state : State) (result : Except VaultError AppDocument) : State :=
  match result with
  | .ok document => { state with document }
  | .error _ => state

def step (state : State) : Event → State × Option (Identifiers × Update)
  | .start thread command =>
      match state.threads thread with
      | some _ => (state, none)
      | none => (state.setThread thread (begin state.document command), none)
  | .reply thread reply =>
      (state.setThread thread ((state.threads thread).bind fun stage => receive crates stage reply),
        none)
  | .store thread commits =>
      match state.threads thread with
      | none => (state, none)
      | some stage =>
          match localSection state.document stage with
          | .ok (document, next) =>
              if commits then
                (({ state with document } : State).setThread thread next,
                  stage.updates state.document)
              else (state.setThread thread none, none)
          | .error _ => (state.setThread thread none, none)
  | .stop thread => (state.setThread thread none, none)
  | .crash => ({ state with threads := fun _ => none }, none)
  | .confirmRecoveryRotation newCode drawn =>
      (committed state (state.document.confirmRecoveryRotation newCode drawn), none)
  | .completeRecoveryRotation => (committed state state.document.completeRecoveryRotation, none)

/-- A record is written back only over the record the command started from. -/
def Undisturbed (state : State) : Event → Prop
  | .store thread _ =>
      ∀ written ∈ (state.threads thread).bind Stage.writesBack,
        state.document.record written.1.identifiers = some written.1
  | _ => True

instance (state : State) (event : Event) : Decidable (Undisturbed state event) := by
  cases event <;> unfold Undisturbed <;> infer_instance

end Step

/-! ## What an answer changes -/

section Answers

variable {crates : Crates} {association active : AssociationRecord}

theorem activatePending_kept {activation : IdentityActivationResponse}
    (h : activatePending association activation = .ok active) :
    active.identifiers = association.identifiers ∧
      some (kept active) = if association.pendingMode = some (text "rotation") then
        (Update.device active.devicePrivateKeyPem active.deviceCertificatePem).apply
          (some (kept association)) else some (kept association) := by
  unfold activatePending at h
  simp only [bind_eq_ok, refuseIf_eq_ok] at h
  obtain ⟨⟨mode, transaction⟩, hmode, -, -, taken, htaken, h⟩ := h
  obtain rfl := Except.ok.inj h
  have hpending : association.pendingMode = some mode := by
    unfold pendingActivation at hmode
    simp only [bind_eq_ok, orRefuse_eq_ok] at hmode
    obtain ⟨found, hfound, found', -, hsame⟩ := hmode
    rw [← (Prod.mk.inj (Except.ok.inj hsame)).1]
    exact (Option.filter_eq_some_iff.1 hfound).1
  rw [hpending]
  by_cases hrotation : mode = text "rotation"
  · rw [if_pos (congrArg some hrotation)]
    rw [takeIfRotation, if_pos hrotation] at htaken
    unfold takePending at htaken
    simp only [bind_eq_ok, orRefuse_eq_ok] at htaken
    obtain ⟨key, -, certificate, -, htaken⟩ := htaken
    obtain rfl := Except.ok.inj htaken
    exact ⟨rfl, rfl⟩
  · rw [if_neg (fun heq => hrotation (Option.some.inj heq))]
    rw [takeIfRotation, if_neg hrotation] at htaken
    obtain rfl := Except.ok.inj htaken
    exact ⟨rfl, rfl⟩

theorem rotateDeviceCandidate_kept {rotationID key : Bytes} {completed : IdentityCompletionResponse}
    (h : rotateDeviceCandidate crates association rotationID key completed = .ok active) :
    active.identifiers = association.identifiers ∧ kept active = kept association := by
  unfold rotateDeviceCandidate at h
  simp only [bind_eq_ok] at h
  obtain ⟨-, -, -, -, -, -, -, -, h⟩ := h
  obtain rfl := Except.ok.inj h
  exact ⟨rfl, rfl⟩

theorem rotateDeviceActive_kept {completed : IdentityCompletionResponse}
    {activation : IdentityActivationResponse}
    (h : rotateDeviceActive association completed activation = .ok active) :
    active.identifiers = association.identifiers ∧
      some (kept active) = (Update.device active.devicePrivateKeyPem
        active.deviceCertificatePem).apply (some (kept association)) := by
  unfold rotateDeviceActive at h
  simp only [bind_eq_ok] at h
  obtain ⟨-, -, key, -, certificate, -, h⟩ := h
  obtain rfl := Except.ok.inj h
  exact ⟨rfl, rfl⟩

theorem pairActive_kept {pairing : Pairing} {activation : IdentityActivationResponse}
    (h : pairActive pairing association activation = .ok active) :
    active.identifiers = association.identifiers ∧ kept active = kept association := by
  unfold pairActive at h
  simp only [bind_eq_ok] at h
  obtain ⟨-, -, h⟩ := h
  obtain rfl := Except.ok.inj h
  exact ⟨rfl, rfl⟩

theorem rotatedRecoveryKey_kept {target : RecoveryControllerProgress} {oldCode newCode : Bytes}
    {response : RecoveryKeyRotationResponse}
    (h : rotatedRecoveryKey crates association target oldCode newCode response = .ok active) :
    active.identifiers = association.identifiers ∧
      some (kept active) = (Update.recovery active.recoveryEpoch active.recoverySalt).apply
        (some (kept association)) := by
  unfold rotatedRecoveryKey at h
  simp only [bind_eq_ok] at h
  obtain ⟨-, -, -, -, h⟩ := h
  obtain rfl := Except.ok.inj h
  exact ⟨rfl, rfl⟩

end Answers

/-! ## What every step keeps -/

/-- An update, where there is one. -/
def applied (update : Option Update) (past : Option Kept) : Option Kept :=
  match update with
  | some update => update.apply past
  | none => past

/-- What a command is about to write back is the record it started from under the
update of its section. -/
def Stage.Sound (stage : Stage) : Prop :=
  ∀ base record, stage.writesBack = some (base, record) →
    record.identifiers = base.identifiers ∧
      some (kept record) = applied stage.update (some (kept base))

theorem Stage.sound_of_none {stage : Stage} (h : stage.writesBack = none) : stage.Sound := by
  intro base record hwrites
  rw [h] at hwrites
  cases hwrites

theorem begin_sound {document : AppDocument} {command : Command} {stage : Stage}
    (h : begin document command = some stage) : stage.Sound := by
  apply Stage.sound_of_none
  cases command with
  | pair =>
      obtain rfl := Option.some.inj h
      rfl
  | resume oldCode newCode =>
      simp only [begin] at h
      split at h
      · cases h
      · obtain rfl := Option.some.inj h
        rfl
  | use purpose infrastructureID =>
      simp only [begin] at h
      split at h
      · cases h
      · split at h
        · obtain rfl := Option.some.inj h
          rfl
        · split at h
          · cases h
          · split at h
            · cases h
            · obtain rfl := Option.some.inj h
              rfl

section Receiving

variable {crates : Crates} {stage next : Stage} {reply : Reply}

/-- An answer that was accepted. -/
theorem toOption_map {α β ε : Type} {x : Except ε α} {f : α → β} {b : β}
    (h : x.toOption.map f = some b) : ∃ a, x = .ok a ∧ f a = b := by
  cases x with
  | error e => cases h
  | ok a => exact ⟨a, rfl, Option.some.inj h⟩

theorem receive_sound (h : receive crates stage reply = some next) : next.Sound := by
  unfold receive at h
  split at h
  · obtain ⟨active, hactive, rfl⟩ := toOption_map h
    intro base record hwrites
    obtain ⟨rfl, rfl⟩ := Prod.mk.inj (Option.some.inj hwrites)
    obtain ⟨hidentifiers, hkept⟩ := activatePending_kept hactive
    refine ⟨hidentifiers, ?_⟩
    rw [hkept, Stage.update]
    split <;> rfl
  · split at h
    · obtain rfl := Option.some.inj h
      exact Stage.sound_of_none rfl
    · cases h
  · obtain rfl := Option.some.inj h
    exact Stage.sound_of_none rfl
  · obtain ⟨candidate, hcandidate, rfl⟩ := toOption_map h
    intro base record hwrites
    obtain ⟨rfl, rfl⟩ := Prod.mk.inj (Option.some.inj hwrites)
    obtain ⟨hidentifiers, hkept⟩ := rotateDeviceCandidate_kept hcandidate
    exact ⟨hidentifiers, congrArg some hkept⟩
  · obtain ⟨active, hactive, rfl⟩ := toOption_map h
    intro base record hwrites
    obtain ⟨rfl, rfl⟩ := Prod.mk.inj (Option.some.inj hwrites)
    exact rotateDeviceActive_kept hactive
  · obtain ⟨candidate, -, rfl⟩ := toOption_map h
    exact Stage.sound_of_none rfl
  · obtain ⟨active, hactive, rfl⟩ := toOption_map h
    intro base record hwrites
    obtain ⟨rfl, rfl⟩ := Prod.mk.inj (Option.some.inj hwrites)
    obtain ⟨hidentifiers, hkept⟩ := pairActive_kept hactive
    exact ⟨hidentifiers, congrArg some hkept⟩
  · rename_i target targets associations oldCode newCode response
    obtain ⟨association, -, rfl⟩ := Option.map_eq_some_iff.1 h
    intro base record hwrites
    obtain ⟨answer, -, hrotated⟩ := Option.bind_eq_some_iff.1 hwrites
    obtain ⟨rotated, hok, hpair⟩ := toOption_map hrotated
    obtain ⟨rfl, rfl⟩ := Prod.mk.inj hpair
    obtain ⟨hidentifiers, hkept⟩ := rotatedRecoveryKey_kept hok
    refine ⟨hidentifiers, ?_⟩
    have hresult : response.bind (fun response => (rotatedRecoveryKey crates association target
        oldCode newCode response).toOption.map fun rotated => (association, rotated)) =
          some (association, rotated) := hwrites
    rw [hkept, hresult]
    rfl
  · cases h

end Receiving

section Storing

open AppDocument (Separate Stores)

variable {document changed : AppDocument} {stage : Stage} {next : Option Stage}

theorem bind_pure_eq_ok {ε α β : Type} {x : Except ε α} {f : α → β} {b : β}
    (h : (x >>= fun a => Pure.pure (f a)) = .ok b) : ∃ a, x = .ok a ∧ f a = b := by
  cases x with
  | error e => cases h
  | ok a => exact ⟨a, rfl, Except.ok.inj h⟩

/-- What a local section stores of an association: the record as it was, under the
update of the section. -/
def Updates (document changed : AppDocument) (stage : Stage) : Prop :=
  (∃ association, Stores document association changed ∧
      stage.target document = some association.identifiers ∧
      some (kept association) =
        applied stage.update ((document.record association.identifiers).map kept)) ∨
    changed.associations = document.associations ∧ stage.update = none

/-- A record written back over the one the command started from. -/
theorem Stage.Sound.updates (hsound : stage.Sound)
    (hundisturbed : ∀ base record, stage.writesBack = some (base, record) →
      document.record base.identifiers = some base)
    {base record : AssociationRecord} (hwrites : stage.writesBack = some (base, record))
    (htarget : stage.target document = some record.identifiers)
    (hstores : Stores document record changed) : Updates document changed stage := by
  obtain ⟨hidentifiers, hkept⟩ := hsound base record hwrites
  refine .inl ⟨record, hstores, htarget, ?_⟩
  rw [hkept, hidentifiers, hundisturbed base record hwrites]
  rfl

theorem localSection_updates (h : document.Separate) (hsound : stage.Sound)
    (hundisturbed : ∀ base record, stage.writesBack = some (base, record) →
      document.record base.identifiers = some base)
    (hsection : localSection document stage = .ok (changed, next)) :
    Updates document changed stage ∧ ∀ stage', next = some stage' → stage'.Sound := by
  have hback : ∀ base record replacing after, stage.writesBack = some (base, record) →
      stage.target document = some record.identifiers →
      (document.storeAssociation record replacing >>= fun changed =>
        Pure.pure (changed, after)) = .ok (changed, next) →
      (∀ stage', after = some stage' → stage'.writesBack = none) →
      Updates document changed stage ∧ ∀ stage', next = some stage' → stage'.Sound := by
    intro base record replacing after hwrites htarget hstored hafter
    obtain ⟨stored, hok, hpair⟩ := bind_pure_eq_ok hstored
    obtain ⟨rfl, rfl⟩ := Prod.mk.inj hpair
    have hstores := (AppDocument.storeAssociation_stores h hok).1
    exact ⟨hsound.updates hundisturbed hwrites htarget hstores,
      fun stage' hstage' => Stage.sound_of_none (hafter stage' hstage')⟩
  cases stage with
  | activated purpose base active =>
      exact hback base active true _ rfl rfl hsection fun _ hstage => Option.some.inj hstage ▸ rfl
  | prepared base candidate completed =>
      exact hback base candidate true _ rfl rfl hsection
        fun _ hstage => Option.some.inj hstage ▸ rfl
  | rotated candidate active =>
      exact hback candidate active true _ rfl rfl hsection fun _ hstage => nomatch hstage
  | pairActivated candidate active =>
      exact hback candidate active true _ rfl rfl hsection fun _ hstage => nomatch hstage
  | paired pairing candidate =>
      obtain ⟨stored, hstored, hpair⟩ := bind_pure_eq_ok hsection
      obtain ⟨rfl, rfl⟩ := Prod.mk.inj hpair
      have hstores := (AppDocument.storeAssociation_stores h hstored).1
      refine ⟨.inl ⟨candidate, hstores, rfl, rfl⟩, fun stage' hstage' => ?_⟩
      obtain rfl := Option.some.inj hstage'
      exact Stage.sound_of_none rfl
  | labelling infrastructureID label =>
      obtain ⟨stored, hstored, hpair⟩ := bind_pure_eq_ok hsection
      obtain ⟨rfl, rfl⟩ := Prod.mk.inj hpair
      obtain ⟨current, hcurrent, hrecord, hstores, -⟩ :=
        AppDocument.updateAssociationLabel_stores h hstored
      refine ⟨.inl ⟨_, hstores, ?_, ?_⟩, fun stage' hstage' => nomatch hstage'⟩
      · rw [Stage.target, hcurrent]
        rfl
      · have hsame : document.record (AssociationRecord.identifiers { current with
            summary := { current.summary with infrastructureLabel := some label } }) =
              some current := hrecord
        rw [hsame]
        rfl
  | recording result target targets associations oldCode newCode =>
      obtain ⟨stored, hstored, hpair⟩ := bind_pure_eq_ok hsection
      obtain ⟨rfl, rfl⟩ := Prod.mk.inj hpair
      have hnext : ∀ stage', some (Stage.resuming targets associations oldCode newCode) =
          some stage' → stage'.Sound := by
        intro stage' hstage'
        obtain rfl := Option.some.inj hstage'
        exact Stage.sound_of_none rfl
      refine ⟨?_, hnext⟩
      cases AppDocument.recordRecoveryRotationResult_stores h hstored with
      | inl hcompleted =>
          obtain ⟨-, association, hresult, hstores⟩ := hcompleted
          obtain ⟨⟨base, record⟩, rfl, rfl⟩ := Option.map_eq_some_iff.1 hresult
          exact hsound.updates hundisturbed rfl rfl hstores
      | inr hfailed =>
          have hnone := Option.isSome_eq_false_iff.1 hfailed.1
          rw [Option.isNone_iff_eq_none] at hnone
          subst hnone
          exact .inr ⟨hfailed.2, rfl⟩
  | activating | exchanging | rotating | pairing | pairActivating | resuming => cases hsection

end Storing

/-! ## Every run -/

section Runs

variable (crates : Crates)

/-- The updates of a run, in order. -/
def updatesOf (answers : List (Event × Option (Identifiers × Update))) :
    List (Identifiers × Update) :=
  answers.filterMap Prod.snd

/-- The invariant: what is stored is what the updates come to, and what commands are
about to write back is sound. -/
structure Current (updates : List (Identifiers × Update)) (state : State) : Prop where
  separate : state.document.Separate
  latest : ∀ identifiers,
    latest identifiers updates = (state.document.record identifiers).map kept
  sound : ∀ thread stage, state.threads thread = some stage → stage.Sound

variable {crates}

theorem latest_append (identifiers : Identifiers) (updates : List (Identifiers × Update))
    (update : Identifiers × Update) :
    latest identifiers (updates ++ [update]) =
      if update.1 = identifiers then update.2.apply (latest identifiers updates)
      else latest identifiers updates := by
  unfold latest
  rw [List.foldl_append]
  rfl

theorem setThread_sound {state : State} {thread : Nat} {stage : Option Stage}
    (h : ∀ other found, state.threads other = some found → found.Sound)
    (hstage : ∀ found, stage = some found → found.Sound) :
    ∀ other found, (state.setThread thread stage).threads other = some found → found.Sound := by
  intro other found hfound
  by_cases hsame : other = thread
  · rw [hsame, State.setThread_self] at hfound
    exact hstage found hfound
  · rw [State.setThread_of_ne hsame] at hfound
    exact h other found hfound

/-- A document with the same associations. -/
theorem Current.of_associations {updates : List (Identifiers × Update)} {state : State}
    (h : Current updates state) {document : AppDocument}
    (hsame : document.associations = state.document.associations) :
    Current updates { state with document } := by
  refine ⟨?_, fun identifiers => ?_, h.sound⟩
  · show (document.associations.map _).Pairwise _
    rw [hsame]
    exact h.separate
  · rw [h.latest, AppDocument.record, AppDocument.record, hsame]

/-- A local section that is committed. -/
theorem Current.stored {updates : List (Identifiers × Update)} {state : State}
    (h : Current updates state) {stage : Stage} {changed : AppDocument}
    (hupdates : Updates state.document changed stage) :
    Current (updates ++ (stage.updates state.document).toList) { state with document := changed } := by
  cases hupdates with
  | inr hunchanged =>
      have hnone : stage.updates state.document = none := by
        unfold Stage.updates
        rw [hunchanged.2]
        cases stage.target state.document <;> rfl
      rw [hnone, Option.toList_none, List.append_nil]
      exact h.of_associations hunchanged.1
  | inl hstored =>
      obtain ⟨association, hstores, htarget, hkept⟩ := hstored
      refine ⟨hstores.separate, fun identifiers => ?_, h.sound⟩
      have hupdate : stage.updates state.document =
          stage.update.map fun update => (association.identifiers, update) := by
        unfold Stage.updates
        rw [htarget]
        cases stage.update <;> rfl
      rw [hupdate, hstores.record]
      cases hwhich : stage.update with
      | none =>
          rw [Option.map_none, Option.toList_none, List.append_nil, h.latest]
          by_cases hsame : identifiers = association.identifiers
          · rw [if_pos hsame, hsame, Option.map_some, hkept, hwhich]
            rfl
          · rw [if_neg hsame]
      | some update =>
          rw [Option.map_some, Option.toList_some, latest_append]
          by_cases hsame : identifiers = association.identifiers
          · rw [if_pos hsame.symm, if_pos hsame, h.latest, hsame, Option.map_some, hkept, hwhich]
            rfl
          · rw [if_neg (Ne.symm hsame), if_neg hsame, h.latest]

theorem committed_associations {s : State} {result : Except VaultError AppDocument}
    (h : ∀ document, result = .ok document →
      document.associations = s.document.associations) :
    (committed s result).document.associations = s.document.associations ∧
      (committed s result).threads = s.threads := by
  unfold committed
  split
  · rename_i document
    exact ⟨h document rfl, rfl⟩
  · exact ⟨rfl, rfl⟩

/-- Every step in which a record is only written back over the one its command
started from keeps the invariant. -/
theorem step_current {updates : List (Identifiers × Update)} {state : State} {event : Event}
    (h : Current updates state) (hundisturbed : Undisturbed state event) :
    Current (updates ++ (answer (step crates) state event).toList)
      (next (step crates) state event) := by
  have hsame : ∀ other : State, other.document.associations = state.document.associations →
      (∀ thread stage, other.threads thread = some stage → stage.Sound) →
      Current (updates ++ (none : Option (Identifiers × Update)).toList) other := by
    intro other hassociations hsound
    rw [Option.toList_none, List.append_nil]
    have hcurrent := h.of_associations hassociations
    exact ⟨hcurrent.separate, hcurrent.latest, hsound⟩
  unfold answer next
  cases event with
  | start thread command =>
      simp only [step]
      split
      · exact hsame state rfl h.sound
      · apply hsame
        · rfl
        · exact setThread_sound h.sound fun found hfound => begin_sound hfound
  | reply thread reply =>
      apply hsame
      · rfl
      · apply setThread_sound h.sound
        intro found hfound
        obtain ⟨stage, -, hreceived⟩ := Option.bind_eq_some_iff.1 hfound
        exact receive_sound hreceived
  | store thread commits =>
      simp only [step]
      split
      · exact hsame state rfl h.sound
      · rename_i stage hstage
        split
        · rename_i changed after hsection
          obtain ⟨hupdates, hafter⟩ := localSection_updates h.separate (h.sound thread stage hstage)
            (fun base record hwrites => hundisturbed (base, record) (hstage ▸ hwrites)) hsection
          split
          · have hstored := h.stored hupdates
            exact ⟨hstored.separate, hstored.latest, setThread_sound h.sound hafter⟩
          · exact hsame _ rfl (setThread_sound h.sound fun _ hnone => nomatch hnone)
        · exact hsame _ rfl (setThread_sound h.sound fun _ hnone => nomatch hnone)
  | stop thread => exact hsame _ rfl (setThread_sound h.sound fun _ hnone => nomatch hnone)
  | crash => exact hsame _ rfl fun _ _ hnone => nomatch hnone
  | confirmRecoveryRotation newCode drawn =>
      obtain ⟨hassociations, hthreads⟩ := committed_associations (s := state) fun _ hdocument =>
        AppDocument.confirmRecoveryRotation_associations hdocument
      exact hsame _ hassociations fun thread stage hstage =>
        h.sound thread stage (hthreads ▸ hstage)
  | completeRecoveryRotation =>
      obtain ⟨hassociations, hthreads⟩ := committed_associations (s := state) fun _ hdocument =>
        AppDocument.completeRecoveryRotation_associations hdocument
      exact hsame _ hassociations fun thread stage hstage =>
        h.sound thread stage (hthreads ▸ hstage)

end Runs

/-! ### A lost rotation -/

namespace Trial

open App.Sample (infrastructureID controllerID deviceID certificatePem crates recoverySalt)

def origin : Bytes := text "https://" ++ controllerServerName infrastructureID ++ text ":9443"

def expires : Bytes := text "2027-11-19T02:23:12Z"

def transactionID : Bytes := encodeRawURL (List.replicate 16 15)

def pairing : Pairing where
  input := {
    mode := text "enrollment"
    origin := origin
    temporaryOrigin := text "https://" ++ controllerServerName infrastructureID ++ text ":9444"
    controllerID := controllerID
    infrastructureID := infrastructureID
    serverCaPem := text "authority"
    serverSpkiSha256 := List.replicate 64 0x61
    windowID := encodeRawURL (List.replicate 16 1)
    windowCode := text "AAAAAAAAAAAAAAAAAAAAAAAAAA"
    recoveryCode := text "code" }
  challenge := ⟨1, transactionID, deviceID, encodeRawURL (List.replicate 32 2), expires, expires,
    recoverySalt, 1, [], 0, []⟩
  completed := ⟨1, transactionID, deviceID, certificatePem, expires⟩
  devicePrivateKeyPem := text "first key"
  humanSeed := List.replicate 32 3

def activation (revision : UInt64) : IdentityActivationResponse :=
  ⟨1, controllerID, infrastructureID, deviceID, text "active", expires, revision⟩

/-- An enrollment. -/
def enrolling : List Event :=
  [.start 0 .pair, .reply 0 (.pairing pairing), .store 0 true, .reply 0 (.activation (activation 1)),
    .store 0 true]

def oldCode : Bytes := List.replicate 32 4

def newCode : Bytes := List.replicate 32 5

def operationID : Fixed 16 := ⟨List.replicate 16 6, List.length_replicate⟩

/-- A rotation of the recovery key that the Controller answers. -/
def rotatingKey : List Event :=
  [.confirmRecoveryRotation newCode fun _ => operationID, .start 1 (.resume oldCode newCode),
    .reply 1 (.recoveryKey (some ⟨1, encodeRawURL operationID.1, 2, 1⟩)), .store 1 true]

def rotationID : Bytes := encodeRawURL (List.replicate 16 7)

/-- The candidate of a rotation of the device is stored. -/
def rotatingDevice : List Event :=
  [.reply 2 (.completion rotationID (text "second key")
    ⟨1, rotationID, deviceID, certificatePem, expires⟩), .store 2 true]

def identifiers : Identifiers := (infrastructureID, controllerID)

/-- The recovery epoch that is stored after a run, and the one of its updates. -/
def epochs (events : List Event) : Option UInt64 × Option UInt64 :=
  (((run (step crates) State.initial events).document.record identifiers).map
      AssociationRecord.recoveryEpoch,
    (latest identifiers (updatesOf (history (step crates) State.initial events))).map
      Kept.recoveryEpoch)

end Trial

end Commands

end YourCloud.App
