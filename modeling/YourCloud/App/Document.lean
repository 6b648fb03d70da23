import YourCloud.App.Association
import YourCloud.Identity.Transcript
import Mathlib.Data.List.Sort

/-!
# The document of the vault

The vault holds one document: the associations, sorted by infrastructure and
Controller, and how far a rotation of the recovery code came.  A command replaces
an association whole; what it wants to replace is found by both identifiers, and
an association that shares only one of them is refused.

## Main results

* `storeAssociation_record` — what is stored is read back, and nothing else changed.
* `Separate` — no two associations share an identifier.
-/

namespace YourCloud.App

open YourCloud.Foundation
open YourCloud.Identity (Fixed)

inductive VaultError where
  | invalidInput
  | authenticationFailed
  | locked
  | unavailable
  deriving DecidableEq, Repr

structure RecoveryControllerProgress where
  controllerID : Bytes
  infrastructureID : Bytes
  operationID : Bytes
  targetRecoveryEpoch : UInt64
  status : Bytes
  deriving DecidableEq, Repr

structure RecoveryRotationProgress where
  schemaVersion : UInt8
  newCodeSha256 : Bytes
  controllers : List RecoveryControllerProgress
  deriving DecidableEq, Repr

structure AppDocument where
  schemaVersion : UInt8
  associations : List AssociationRecord
  recoveryRotation : Option RecoveryRotationProgress
  deriving DecidableEq, Repr

/-! ## Identifiers -/

/-- An infrastructure and a Controller. -/
abbrev Identifiers := Bytes × Bytes

def AssociationRecord.identifiers (association : AssociationRecord) : Identifiers :=
  (association.summary.infrastructureID, association.summary.controllerID)

def RecoveryControllerProgress.identifiers (target : RecoveryControllerProgress) : Identifiers :=
  (target.infrastructureID, target.controllerID)

/-- The order of two pairs of texts. -/
def Identifiers.less (left right : Identifiers) : Bool :=
  left.1 < right.1 || left.1 = right.1 && left.2 < right.2

/-- Whether each pair is before the next. -/
def ordered : List Identifiers → Bool
  | left :: right :: rest => left.less right && ordered (right :: rest)
  | _ => true

/-- One identifier is enough to cross. -/
def AssociationRecord.crosses (current association : AssociationRecord) : Bool :=
  current.summary.infrastructureID = association.summary.infrastructureID ||
    current.summary.controllerID = association.summary.controllerID

/-! ## Validation -/

/-- `valid_pending_identity` -/
def validPendingIdentity (association : AssociationRecord) : Bool :=
  let materialAbsent := association.pendingDevicePrivateKeyPem.isNone &&
    association.pendingDeviceCertificatePem.isNone && association.pendingCertificateExpiresAt.isNone
  let transaction := association.pendingTransactionID.any fun value => value.length = 22
  if association.summary.deviceStatus = text "candidate" then
    association.identityRevision = 0 &&
      (association.pendingMode = some (text "enrollment") ||
        association.pendingMode = some (text "recovery")) && transaction && materialAbsent
  else
    association.identityRevision != 0 &&
      match association.pendingMode with
      | none => association.pendingTransactionID.isNone && materialAbsent
      | some mode =>
          mode = text "rotation" && association.summary.deviceStatus = text "active" &&
            transaction &&
            association.pendingDevicePrivateKeyPem.any (fun value =>
              value ≠ [] && value.length ≤ 4 * 1024) &&
            association.pendingDeviceCertificatePem.any (fun value =>
              value ≠ [] && value.length ≤ 8 * 1024) &&
            association.pendingCertificateExpiresAt.any fun value =>
              value ≠ [] && value.length ≤ 30

/-- Whether a text is the canonical base 64 of so many bytes. -/
def decodesTo (value : Bytes) (size : Nat) : Bool :=
  (decodeUrlSafe value).any fun decoded => decoded.length = size

def validAssociation (association : AssociationRecord) : Bool :=
  let summary := association.summary
  summary.controllerID ≠ [] && summary.infrastructureID ≠ [] && summary.origin ≠ [] &&
    summary.controllerID.length ≤ 36 && summary.infrastructureID.length ≤ 36 &&
    summary.origin.length ≤ 256 && deviceStatuses.contains summary.deviceStatus &&
    association.deviceID.length = 36 && association.serverCaPem ≠ [] &&
    association.serverCaPem.length ≤ 16 * 1024 && association.serverSpkiSha256.length = 64 &&
    association.devicePrivateKeyPem ≠ [] && association.devicePrivateKeyPem.length ≤ 4 * 1024 &&
    association.deviceCertificatePem ≠ [] &&
    association.deviceCertificatePem.length ≤ 8 * 1024 &&
    decodesTo association.humanPrivateSeed 32 && decodesTo association.recoverySalt 32 &&
    association.recoveryEpoch != 0 && validPendingIdentity association

def recoveryRotationDigestDomain : Bytes := text "your-cloud/recovery-code-rotation.v1" ++ [0]

/-- What a rotation remembers of the new code. -/
def newCodeDigest (newCode : Bytes) : Bytes := sha256Hex (recoveryRotationDigestDomain ++ newCode)

/-- `checked_add(1)` -/
def succEpoch (epoch : UInt64) : Option UInt64 :=
  if epoch = 18446744073709551615 then none else some (epoch + 1)

def rotationStatuses : List Bytes := [text "pending", text "failed", text "completed"]

namespace AppDocument

def empty : AppDocument := ⟨1, [], none⟩

def validTarget (document : AppDocument) (target : RecoveryControllerProgress) : Bool :=
  rotationStatuses.contains target.status && target.targetRecoveryEpoch != 0 &&
    decodesTo target.operationID 16 &&
    document.associations.any fun association => association.identifiers = target.identifiers

def validRotation (document : AppDocument) (rotation : RecoveryRotationProgress) : Bool :=
  rotation.schemaVersion = 1 && rotation.controllers ≠ [] &&
    rotation.controllers.length ≤ document.associations.length &&
    rotation.newCodeSha256.length = 64 && rotation.newCodeSha256.all isLowerHex &&
    ordered (rotation.controllers.map RecoveryControllerProgress.identifiers) &&
    rotation.controllers.all document.validTarget

def validate (document : AppDocument) : Except VaultError Unit :=
  if document.schemaVersion = 1 ∧ document.associations.length ≤ 64 ∧
      document.associations.all validAssociation ∧
      ordered (document.associations.map AssociationRecord.identifiers) ∧
      document.recoveryRotation.all document.validRotation then .ok ()
  else .error .unavailable

/-- A document that validates. -/
def validated (document : AppDocument) : Except VaultError AppDocument := do
  document.validate
  return document

/-! ## Reading and replacing -/

def association (document : AppDocument) (infrastructureID : Bytes) :
    Except VaultError AssociationRecord :=
  match document.associations.find? fun association =>
      association.summary.infrastructureID = infrastructureID with
  | some association => .ok association
  | none => .error .invalidInput

/-- The record of both identifiers. -/
def record (document : AppDocument) (identifiers : Identifiers) : Option AssociationRecord :=
  document.associations.find? fun association => association.identifiers = identifiers

/-- Whether one record is not after another. -/
def notAfter (left right : AssociationRecord) : Prop :=
  right.identifiers.less left.identifiers = false

instance : DecidableRel notAfter := fun _ _ => inferInstanceAs (Decidable (_ = _))

/-- Where a record goes, before the sort. -/
def place (document : AppDocument) (association : AssociationRecord) (replacing : Bool) :
    Except VaultError (List AssociationRecord) :=
  match document.associations.findIdx? fun current =>
      current.identifiers = association.identifiers with
  | some index =>
      if replacing then .ok (document.associations.set index association)
      else .error .invalidInput
  | none =>
      if document.associations.any fun current => current.crosses association then
        .error .invalidInput
      else .ok (document.associations ++ [association])

/-- `store_association`, up to the document to be committed. -/
def storeAssociation (document : AppDocument) (association : AssociationRecord)
    (replacing : Bool) : Except VaultError AppDocument := do
  let placed ← document.place association replacing
  validated { document with associations := placed.insertionSort notAfter }

def updateAssociationLabel (document : AppDocument) (infrastructureID label : Bytes) :
    Except VaultError AppDocument := do
  let association ← document.association infrastructureID
  document.storeAssociation
    { association with summary := { association.summary with infrastructureLabel := some label } }
    true

/-! ## A rotation of the recovery code -/

/-- One target for each association, with an identifier drawn for it. -/
def rotationTarget (association : AssociationRecord) (operationID : Fixed 16) :
    Except VaultError RecoveryControllerProgress :=
  match succEpoch association.recoveryEpoch with
  | none => .error .unavailable
  | some epoch =>
      .ok ⟨association.summary.controllerID, association.summary.infrastructureID,
        encodeRawURL operationID.1, epoch, text "pending"⟩

/-- `confirm_recovery_rotation`, with the code that was read back, up to the
document to be committed. -/
def confirmRecoveryRotation (document : AppDocument) (newCode : Bytes)
    (drawn : Nat → Fixed 16) : Except VaultError AppDocument :=
  if document.recoveryRotation.isSome ∨ document.associations = [] then .error .invalidInput
  else do
    let targets ← document.associations.zipIdx.mapM fun (association, index) =>
      rotationTarget association (drawn index)
    let sorted := targets.insertionSort fun left right =>
      right.identifiers.less left.identifiers = false
    validated { document with recoveryRotation := some ⟨1, newCodeDigest newCode, sorted⟩ }

/-- `recovery_rotation` -/
def rotationInProgress (document : AppDocument) (oldCode newCode : Bytes) :
    Except VaultError (RecoveryRotationProgress × List AssociationRecord) :=
  match document.recoveryRotation with
  | none => .error .invalidInput
  | some progress =>
      if oldCode = newCode then .error .invalidInput
      else if newCodeDigest newCode ≠ progress.newCodeSha256 then .error .authenticationFailed
      else .ok (progress, document.associations)

/-- The first target of an infrastructure under another status. -/
def markTarget (controllers : List RecoveryControllerProgress) (infrastructureID : Bytes)
    (mark : RecoveryControllerProgress → Bytes) : List RecoveryControllerProgress :=
  match controllers with
  | [] => []
  | target :: rest =>
      if target.infrastructureID = infrastructureID then
        { target with status := mark target } :: rest
      else target :: markTarget rest infrastructureID mark

/-- `record_recovery_rotation_result`, up to the document to be committed. -/
def recordRecoveryRotationResult (document : AppDocument) (association : Option AssociationRecord)
    (infrastructureID : Bytes) (completed : Bool) : Except VaultError AppDocument :=
  match document.recoveryRotation with
  | none => .error .invalidInput
  | some progress =>
      match progress.controllers.find? fun target =>
          target.infrastructureID = infrastructureID with
      | none => .error .invalidInput
      | some target =>
          if completed then
            match association with
            | none => .error .invalidInput
            | some association =>
                if association.identifiers ≠ target.identifiers ∨
                    association.recoveryEpoch ≠ target.targetRecoveryEpoch then
                  .error .invalidInput
                else
                  match document.associations.findIdx? fun current =>
                      current.identifiers = target.identifiers with
                  | none => .error .unavailable
                  | some index =>
                      validated { document with
                        associations := document.associations.set index association
                        recoveryRotation := some { progress with
                          controllers := markTarget progress.controllers infrastructureID
                            fun _ => text "completed" } }
          else
            validated { document with
              recoveryRotation := some { progress with
                controllers := markTarget progress.controllers infrastructureID fun target =>
                  if target.status = text "completed" then target.status else text "failed" } }

/-- `complete_recovery_rotation`, up to the document to be committed. -/
def completeRecoveryRotation (document : AppDocument) : Except VaultError AppDocument :=
  match document.recoveryRotation with
  | none => .error .invalidInput
  | some progress =>
      if progress.controllers.any fun controller => controller.status ≠ text "completed" then
        .error .invalidInput
      else validated { document with recoveryRotation := none }

/-! ## What is stored is read back -/

/-- Two pairs without a common identifier. -/
def Apart (left right : Identifiers) : Prop := left.1 ≠ right.1 ∧ left.2 ≠ right.2

/-- No two associations share an identifier. -/
def Separate (document : AppDocument) : Prop :=
  (document.associations.map AssociationRecord.identifiers).Pairwise Apart

theorem apart_symm {left right : Identifiers} (h : Apart left right) : Apart right left :=
  ⟨h.1.symm, h.2.symm⟩

/-- The element an index was found for, replaced. -/
theorem set_findIdx {α : Type} {l : List α} {q : α → Bool} {i : Nat} (a : α)
    (h : l.findIdx? q = some i) :
    ∃ before x after, l = before ++ x :: after ∧ q x = true ∧ l.set i a = before ++ a :: after := by
  induction l generalizing i with
  | nil => cases h
  | cons y l ih =>
      rw [List.findIdx?_cons] at h
      by_cases hy : q y = true
      · rw [if_pos hy] at h
        obtain rfl := Option.some.inj h
        exact ⟨[], y, l, rfl, hy, rfl⟩
      · rw [if_neg hy] at h
        obtain ⟨j, hj, rfl⟩ := Option.map_eq_some_iff.1 h
        obtain ⟨before, x, after, rfl, hx, hset⟩ := ih hj
        exact ⟨y :: before, x, after, rfl, hx, by rw [List.set_cons_succ, hset]; rfl⟩

section Records

variable {document changed : AppDocument} {association : AssociationRecord}

theorem record_eq_some (h : document.Separate) {identifiers : Identifiers} :
    document.record identifiers = some association ↔
      association ∈ document.associations ∧ association.identifiers = identifiers := by
  unfold record
  constructor
  · intro hfound
    exact ⟨List.mem_of_find?_eq_some hfound, by simpa using List.find?_some hfound⟩
  · rintro ⟨hmem, hidentifiers⟩
    have hsome : (document.associations.find? fun current =>
        current.identifiers = identifiers).isSome := by
      rw [List.find?_isSome]
      exact ⟨association, hmem, decide_eq_true hidentifiers⟩
    obtain ⟨other, hother⟩ := Option.isSome_iff_exists.1 hsome
    have hmem' := List.mem_of_find?_eq_some hother
    have hsame : other.identifiers = identifiers := by simpa using List.find?_some hother
    by_cases heq : other = association
    · rw [hother, heq]
    · have hpairwise := List.pairwise_map.1 h
      have hsymm : Std.Symm fun left right : AssociationRecord =>
          Apart left.identifiers right.identifiers := ⟨fun _ _ => apart_symm⟩
      have hapart := hpairwise.forall hmem' hmem heq
      exact absurd (congrArg Prod.fst (hsame.trans hidentifiers.symm)) hapart.1

/-- A change of one record. -/
structure Stores (document : AppDocument) (association : AssociationRecord)
    (changed : AppDocument) : Prop where
  separate : changed.Separate
  record : ∀ identifiers, changed.record identifiers =
    if identifiers = association.identifiers then some association
    else document.record identifiers

/-- Records are looked up by membership. -/
theorem stores_of_mem (h : document.Separate) (hchanged : changed.Separate)
    (hmem : ∀ x, x ∈ changed.associations ↔ x = association ∨
      x ∈ document.associations ∧ x.identifiers ≠ association.identifiers) :
    Stores document association changed := by
  refine ⟨hchanged, fun identifiers => ?_⟩
  apply Option.ext
  intro x
  rw [record_eq_some hchanged, hmem]
  by_cases hsame : identifiers = association.identifiers
  · rw [if_pos hsame]
    constructor
    · rintro ⟨rfl | ⟨-, hne⟩, hx⟩
      · rfl
      · exact absurd (hx.trans hsame) hne
    · intro hx
      obtain rfl := Option.some.inj hx
      exact ⟨.inl rfl, hsame.symm⟩
  · rw [if_neg hsame, record_eq_some h]
    constructor
    · rintro ⟨rfl | ⟨hold, -⟩, hx⟩
      · exact absurd hx.symm hsame
      · exact ⟨hold, hx⟩
    · rintro ⟨hold, hx⟩
      exact ⟨.inr ⟨hold, fun hne => hsame (hx.symm.trans hne)⟩, hx⟩

/-- The record with the identifiers of an association, replaced. -/
theorem replaced (h : document.Separate) {index : Nat} {identifiers : Identifiers}
    (hidentifiers : association.identifiers = identifiers)
    (hindex : (document.associations.findIdx? fun current => current.identifiers = identifiers) =
      some index) :
    ((document.associations.set index association).map AssociationRecord.identifiers).Pairwise
        Apart ∧
      ∀ x, x ∈ document.associations.set index association ↔ x = association ∨
        x ∈ document.associations ∧ x.identifiers ≠ association.identifiers := by
  obtain ⟨before, old, after, hlist, hold, hset⟩ := set_findIdx association hindex
  have hsame : old.identifiers = association.identifiers :=
    (of_decide_eq_true hold).trans hidentifiers.symm
  unfold Separate at h
  rw [hset, hlist]
  rw [hlist, List.map_append, List.map_cons, hsame] at h
  constructor
  · rw [List.map_append, List.map_cons]
    exact h
  · intro x
    obtain ⟨-, hafter, hbefore⟩ := List.pairwise_append.1 h
    have hapart : ∀ y ∈ before ++ after, y.identifiers ≠ association.identifiers := by
      intro y hy heq
      cases List.mem_append.1 hy with
      | inl hb =>
          have := hbefore _ (List.mem_map_of_mem hb) _ List.mem_cons_self
          exact this.1 (congrArg Prod.fst heq)
      | inr ha =>
          have := (List.pairwise_cons.1 hafter).1 _ (List.mem_map_of_mem ha)
          exact this.1 (congrArg Prod.fst heq.symm)
    simp only [List.mem_append, List.mem_cons] at hapart ⊢
    constructor
    · rintro (hb | rfl | ha)
      · exact .inr ⟨.inl hb, hapart x (.inl hb)⟩
      · exact .inl rfl
      · exact .inr ⟨.inr (.inr ha), hapart x (.inr ha)⟩
    · rintro (rfl | ⟨hb | rfl | ha, hne⟩)
      · exact .inr (.inl rfl)
      · exact .inl hb
      · exact absurd hsame hne
      · exact .inr (.inr ha)

theorem validated_eq_ok (h : document.validated = .ok changed) : changed = document := by
  unfold validated at h
  cases hvalid : document.validate with
  | error e =>
      rw [hvalid] at h
      cases h
  | ok u =>
      rw [hvalid] at h
      exact (Except.ok.inj h).symm

/-- What is stored is read back, and nothing else changed. -/
theorem storeAssociation_stores (h : document.Separate) {replacing : Bool}
    (hstored : document.storeAssociation association replacing = .ok changed) :
    Stores document association changed ∧
      changed.recoveryRotation = document.recoveryRotation := by
  unfold storeAssociation at hstored
  cases hplace : document.place association replacing with
  | error e =>
      rw [hplace] at hstored
      cases hstored
  | ok placed =>
      rw [hplace] at hstored
      obtain rfl := validated_eq_ok hstored
      refine ⟨?_, rfl⟩
      have hperm : (placed.insertionSort notAfter).Perm placed := List.perm_insertionSort _ _
      have hplaced : (placed.map AssociationRecord.identifiers).Pairwise Apart ∧
          ∀ x, x ∈ placed ↔ x = association ∨
            x ∈ document.associations ∧ x.identifiers ≠ association.identifiers := by
        unfold place at hplace
        split at hplace
        · rename_i index hindex
          split at hplace
          · obtain rfl := Except.ok.inj hplace
            exact replaced h rfl hindex
          · cases hplace
        · split at hplace
          · cases hplace
          · rename_i hcrosses
            obtain rfl := Except.ok.inj hplace
            have hapart : ∀ x ∈ document.associations,
                Apart x.identifiers association.identifiers := by
              intro x hx
              have hx' : x.crosses association = false := by
                by_contra hcross
                exact hcrosses (List.any_eq_true.2 ⟨x, hx, by simpa using hcross⟩)
              simpa [AssociationRecord.crosses, Apart, AssociationRecord.identifiers] using hx'
            constructor
            · rw [List.map_append, List.pairwise_append]
              refine ⟨h, List.pairwise_singleton _ _, ?_⟩
              intro left hleft right hright
              obtain ⟨x, hx, rfl⟩ := List.mem_map.1 hleft
              obtain rfl := List.mem_singleton.1 hright
              exact hapart x hx
            · intro x
              rw [List.mem_append, List.mem_singleton]
              constructor
              · rintro (hx | rfl)
                · exact .inr ⟨hx, fun heq => (hapart x hx).1 (congrArg Prod.fst heq)⟩
                · exact .inl rfl
              · rintro (rfl | ⟨hx, -⟩)
                · exact .inr rfl
                · exact .inl hx
      apply stores_of_mem h
      · exact ((hperm.map _).pairwise_iff apart_symm).2 hplaced.1
      · intro x
        rw [hperm.mem_iff]
        exact hplaced.2 x

/-- A label is stored in the record as it is. -/
theorem updateAssociationLabel_stores (h : document.Separate) {infrastructureID label : Bytes}
    (hstored : document.updateAssociationLabel infrastructureID label = .ok changed) :
    ∃ current, document.association infrastructureID = .ok current ∧
      document.record current.identifiers = some current ∧
      Stores document { current with
        summary := { current.summary with infrastructureLabel := some label } } changed ∧
      changed.recoveryRotation = document.recoveryRotation := by
  unfold updateAssociationLabel at hstored
  cases hcurrent : document.association infrastructureID with
  | error e =>
      rw [hcurrent] at hstored
      cases hstored
  | ok current =>
      rw [hcurrent] at hstored
      refine ⟨current, rfl, ?_, storeAssociation_stores h hstored⟩
      unfold AppDocument.association at hcurrent
      split at hcurrent
      · rename_i found hfound
        obtain rfl := Except.ok.inj hcurrent
        exact (record_eq_some h).2 ⟨List.mem_of_find?_eq_some hfound, rfl⟩
      · cases hcurrent

/-- A completed rotation is stored in the record of its target. -/
theorem recordRecoveryRotationResult_stores (h : document.Separate) {infrastructureID : Bytes}
    {result : Option AssociationRecord} {completed : Bool}
    (hstored : document.recordRecoveryRotationResult result infrastructureID completed =
      .ok changed) :
    (completed = true ∧ ∃ association, result = some association ∧
        Stores document association changed) ∨
      completed = false ∧ changed.associations = document.associations := by
  unfold recordRecoveryRotationResult at hstored
  split at hstored
  · cases hstored
  · split at hstored
    · cases hstored
    · split at hstored
      · rename_i hcompleted
        split at hstored
        · cases hstored
        · rename_i association
          split at hstored
          · cases hstored
          · rename_i hsame
            split at hstored
            · cases hstored
            · rename_i index hindex
              obtain rfl := validated_eq_ok hstored
              have hidentifiers := not_not.1 fun hne => hsame (.inl hne)
              obtain ⟨hseparate, hmem⟩ := replaced h hidentifiers hindex
              exact .inl ⟨hcompleted, association, rfl, stores_of_mem h hseparate hmem⟩
      · rename_i hcompleted
        obtain rfl := validated_eq_ok hstored
        exact .inr ⟨by simpa using hcompleted, rfl⟩

theorem confirmRecoveryRotation_associations {newCode : Bytes} {drawn : Nat → Fixed 16}
    (h : document.confirmRecoveryRotation newCode drawn = .ok changed) :
    changed.associations = document.associations := by
  unfold confirmRecoveryRotation at h
  split at h
  · cases h
  · cases htargets : document.associations.zipIdx.mapM fun (association, index) =>
      rotationTarget association (drawn index) with
    | error e =>
        rw [htargets] at h
        cases h
    | ok targets =>
        rw [htargets] at h
        obtain rfl := validated_eq_ok h
        rfl

theorem completeRecoveryRotation_associations
    (h : document.completeRecoveryRotation = .ok changed) :
    changed.associations = document.associations := by
  unfold completeRecoveryRotation at h
  split at h
  · cases h
  · split at h
    · cases h
    · obtain rfl := validated_eq_ok h
      rfl

end Records

end AppDocument

end YourCloud.App
