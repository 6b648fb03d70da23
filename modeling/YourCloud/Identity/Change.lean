import YourCloud.Identity.Transcript
import YourCloud.Foundation.Program
import Mathlib.Data.List.Sort

/-!
# Changes of the identity authority

The authority changes in three ways: a candidate is activated, the recovery key
of the active device is rotated, and the active device is revoked.  Each is a
function of the state; what it refuses leaves the state as it is.

A candidate is a certificate that was issued and may become active.  It is kept
in a file of its own, which is checked against the authority whenever it is read.

## Main results

* `activateCandidate_eq_some`, `rotateRecoveryKey_eq_some`, `revokeActiveDevice_eq_some` —
  all that each of the three can do.
* `decodeDurableCandidate_eq_some` — when the file of a candidate is accepted.
-/

namespace YourCloud.Identity

open YourCloud.Foundation
open YourCloud.Approval (canonicalUUIDv4)

/-! ## What the Controller is built with -/

/-- A certificate request, as far as it is looked at. -/
structure CertificateRequest where
  signatureValid : Bool
  ecdsaWithSHA256 : Bool
  /-- The public key, when it is on P-256. -/
  publicP256 : Option Bytes
  dnsNames : List Bytes
  ipAddresses : List Bytes
  emailAddresses : List Bytes
  uris : List Bytes
  subjectNames : List Bytes
  deriving DecidableEq, Repr

/-- What a device certificate is made of. -/
structure CertificateTemplate where
  serial : Bytes
  commonName : Bytes
  notBefore : Int
  notAfter : Int
  uri : Bytes
  publicP256 : Bytes
  deriving DecidableEq, Repr

structure Primitives where
  /-- Whether the server and device authorities pass their checks at a time. -/
  pki : Int → Bool
  /-- `ed25519.Verify`: the key, the message and the signature. -/
  verify : Bytes → Bytes → Bytes → Bool
  /-- The canonical spelling of a time. -/
  format : Int → Bytes
  /-- The contents of the one certificate of a PEM text. -/
  decodePEM : Bytes → Option Bytes
  encodePEM : Bytes → Bytes
  parseCertificate : Bytes → Option Certificate
  parseCertificateRequest : Bytes → Option CertificateRequest
  /-- Whether the device authority signed a certificate. -/
  signedByDeviceCA : Certificate → Bool
  /-- A certificate signed by the device authority. -/
  createCertificate : CertificateTemplate → Option Bytes

/-- 24 hours. -/
def receiptLifetime : Int := 86400000000000

/-- `math.MaxUint64` -/
def maxUint64 : UInt64 := UInt64.ofNat (2 ^ 64 - 1)

def decodeFixed (value : Bytes) (size : Nat) : Option Bytes := decodeRawURL value size

/-! ## Candidates -/

inductive Mode where
  | enrollment
  | recovery
  | rotation
  deriving DecidableEq, Repr

def WindowMode.mode : WindowMode → Mode
  | enrollment => .enrollment
  | recovery => .recovery

/-- `mode + "_activated"` -/
def Mode.activated : Mode → Result
  | enrollment => .enrollmentActivated
  | recovery => .recoveryActivated
  | rotation => .rotationActivated

theorem Mode.activated_ne (mode : Mode) : mode.activated ≠ .recoveryKeyRotated := by
  cases mode <;> exact Result.noConfusion

structure CandidateCertificate where
  record : DeviceRecord
  certificatePEM : Bytes
  expiresAt : Int
  deriving DecidableEq, Repr

structure PendingCandidate where
  transactionID : Bytes
  mode : Mode
  previousFingerprint : Bytes
  requestDigest : Bytes
  certificate : CandidateCertificate
  expires : Int
  deriving DecidableEq, Repr

structure DurableCandidate where
  transactionID : Bytes
  mode : Mode
  previousFingerprint : Bytes
  requestSHA256 : Bytes
  record : DeviceRecord
  certificatePEM : Bytes
  expiresAt : Int
  deriving DecidableEq, Repr

/-- What is written of a candidate. -/
def PendingCandidate.durable (candidate : PendingCandidate) : DurableCandidate where
  transactionID := candidate.transactionID
  mode := candidate.mode
  previousFingerprint := candidate.previousFingerprint
  requestSHA256 := hexEncode candidate.requestDigest
  record := candidate.certificate.record
  certificatePEM := candidate.certificate.certificatePEM
  expiresAt := candidate.expires

def candidateReceiptExists (candidate : DurableCandidate) (authority : AuthorityState) : Bool :=
  authority.receipts.any fun receipt =>
    receipt.operationID = candidate.transactionID && receipt.result = candidate.mode.activated &&
      receipt.certificateSHA256 = candidate.record.certificateSHA256

/-- The fingerprint of the active device. -/
def AuthorityState.activeFingerprint (authority : AuthorityState) : Option Bytes :=
  authority.active.map DeviceRecord.certificateSHA256

/-- Whether a candidate stands against the active identity as its mode asks. -/
def matchesAuthority (candidate : DurableCandidate) (authority : AuthorityState)
    (committed : Bool) : Bool :=
  let current := committed &&
    authority.activeFingerprint = some candidate.record.certificateSHA256
  match candidate.mode with
  | .enrollment =>
      candidate.previousFingerprint = [] && (authority.active.isNone || current)
  | .recovery | .rotation =>
      lowerHex candidate.previousFingerprint 64 64 && authority.active.isSome &&
        (authority.activeFingerprint = some candidate.previousFingerprint || current)

section Candidates

variable (p : Primitives)

/-- The certificate of a candidate, where it is one of this authority. -/
def candidateCertificate (candidate : DurableCandidate) (infrastructureID : Bytes) :
    Option Certificate := do
  let der ← p.decodePEM candidate.certificatePEM
  let certificate ← p.parseCertificate der
  require (p.signedByDeviceCA certificate)
  require (validatePresentedDevice certificate infrastructureID candidate.record
    certificate.notBefore)
  return certificate

/-- The candidate a file holds, and whether it was committed already. -/
def decodeDurableCandidate (durable : DurableCandidate) (authority : AuthorityState) :
    Option (PendingCandidate × Bool) := do
  require (canonicalRawURLBytes durable.transactionID 16)
  require (lowerHex durable.requestSHA256 64 64)
  let committed := candidateReceiptExists durable authority
  require (matchesAuthority durable authority committed)
  require (validateDeviceRecord durable.record .active)
  let certificate ← candidateCertificate p durable authority.infrastructureID
  let requestDigest ← hexDecode durable.requestSHA256
  return ({ transactionID := durable.transactionID
            mode := durable.mode
            previousFingerprint := durable.previousFingerprint
            requestDigest
            certificate :=
              { record := durable.record
                certificatePEM := durable.certificatePEM
                expiresAt := certificate.notAfter }
            expires := durable.expiresAt }, committed)

/-- 180 days, and the five minutes before. -/
def deviceLifetime : Int := 15552000000000000

def clockMargin : Int := 300000000000

/-- A certificate for a device, and the record of the device but for its keys. -/
def issueDeviceCertificate (authority : AuthorityState) (deviceID publicP256 serial : Bytes)
    (now : Int) : Option CandidateCertificate := do
  require (canonicalUUIDv4 deviceID)
  let encoded ← p.createCertificate
    { serial, commonName := deviceID, notBefore := now - clockMargin
      notAfter := now + deviceLifetime, uri := deviceURI authority.infrastructureID deviceID
      publicP256 }
  let issued ← p.parseCertificate encoded
  return { record :=
             { deviceID, certificateSerial := serial, certificateSHA256 := sha256Hex encoded
               humanPublicKey := [], recoverySalt := [], recoveryEpoch := 0
               recoveryPublicKey := [], status := .active }
           certificatePEM := p.encodePEM encoded
           expiresAt := issued.notAfter }

/-- 2 KiB. -/
def maxCSRBytes : Nat := 2048

/-- The public key of a device certificate request, and its encoding. -/
def parseDeviceCSR (encoded infrastructureID deviceID : Bytes) : Option (Bytes × Bytes) := do
  require (encoded ≠ [] && encoded.length ≤ 4 * maxCSRBytes)
  let der ← decodeLetters encoded
  require (der ≠ [] && der.length ≤ maxCSRBytes && encodeRawURL der = encoded)
  let csr ← p.parseCertificateRequest der
  require (csr.signatureValid && csr.ecdsaWithSHA256)
  let publicP256 ← csr.publicP256
  require (csr.dnsNames = [] && csr.ipAddresses = [] && csr.emailAddresses = [] &&
    csr.uris = [deviceURI infrastructureID deviceID])
  require (csr.subjectNames = [])
  return (publicP256, der)

end Candidates

/-! ## The three changes -/

/-- Records in the order they are kept in. -/
def sortRevoked (records : List DeviceRecord) : List DeviceRecord :=
  records.insertionSort fun left right => left.key ≤ right.key

/-- The receipts of the last 24 hours. -/
def recentReceipts (receipts : List IdempotenceReceipt) (now : Int) : List IdempotenceReceipt :=
  receipts.filter fun receipt => now - receiptLifetime ≤ receipt.committedAt

/-- The oldest receipt makes room where there are 32. -/
def appendReceipt (receipts : List IdempotenceReceipt) (receipt : IdempotenceReceipt) :
    List IdempotenceReceipt :=
  (if receipts.length = 32 then receipts.tail else receipts) ++ [receipt]

/-- The active device, revoked. -/
def revokeRecord (record : DeviceRecord) : DeviceRecord := { record with status := .revoked }

section Changes

variable (p : Primitives)

/-- The revoked devices once a candidate is active, where it may become so. -/
def replaceActive (state : AuthorityState) (candidate : PendingCandidate) :
    Option (List DeviceRecord) :=
  match candidate.mode with
  | .enrollment => do
      require state.active.isNone
      return state.revoked
  | .recovery | .rotation => do
      let active ← state.active
      require (active.certificateSHA256 = candidate.previousFingerprint)
      require (state.revoked.length < 64)
      return sortRevoked (state.revoked ++ [revokeRecord active])

/-- The state in which a candidate is active. -/
def activatedState (state : AuthorityState) (candidate : PendingCandidate)
    (revoked : List DeviceRecord) (requestDigest : Bytes) (now : Int) : AuthorityState :=
  let active := { candidate.certificate.record with status := Status.active }
  { state with
    identityRevision := state.identityRevision + 1
    active := some active
    revoked
    receipts := appendReceipt (recentReceipts state.receipts now)
      ⟨candidate.transactionID, hexEncode requestDigest, candidate.mode.activated,
        state.identityRevision + 1, active.certificateSHA256, now⟩ }

/-- `activateCandidate`, up to the state to be written. -/
def activateCandidate (state : AuthorityState) (candidate : PendingCandidate)
    (requestDigest : Bytes) (now : Int) : Option AuthorityState := do
  let revoked ← replaceActive state candidate
  require (state.identityRevision ≠ maxUint64)
  let changed := activatedState state candidate revoked requestDigest now
  require (validateAuthorityState p.pki changed now)
  return changed

structure RecoveryKeyRotationResponse where
  schemaVersion : Int
  operationID : Bytes
  recoveryEpoch : UInt64
  identityRevision : UInt64
  deriving DecidableEq, Repr

/-- `recoveryKeyResponse`, for the active device of the state. -/
def recoveryKeyResponse (state : AuthorityState) (active : DeviceRecord) (operationID : Bytes) :
    RecoveryKeyRotationResponse :=
  ⟨1, operationID, active.recoveryEpoch, state.identityRevision⟩

/-- The receipt of an operation is about the same request and the same device. -/
def IdempotenceReceipt.confirms (receipt : IdempotenceReceipt) (requestDigest : Bytes)
    (active : DeviceRecord) : Bool :=
  receipt.result = .recoveryKeyRotated && receipt.requestSHA256 = hexEncode requestDigest &&
    receipt.certificateSHA256 = active.certificateSHA256

/-- How a rotation of the recovery key that is not refused ends. -/
inductive Rotation where
  /-- It was made before. -/
  | replayed (response : RecoveryKeyRotationResponse)
  | changed (state : AuthorityState)
  deriving DecidableEq

/-- Whether both keys signed the rotation, and the key is another one. -/
def possessionProved (state : AuthorityState) (active : DeviceRecord)
    (mutation : RecoveryKeyMutation) (currentSignatureText nextSignatureText : Bytes) : Bool :=
  let transcript := recoveryKeyTranscript state active mutation
  match decodeFixed active.recoveryPublicKey publicKeySize,
    decodeFixed mutation.nextRecoveryPublicKey publicKeySize, decodeFixed currentSignatureText 64,
    decodeFixed nextSignatureText 64 with
  | some currentPublic, some nextPublic, some currentSignature, some nextSignature =>
      currentPublic ≠ nextPublic && p.verify currentPublic transcript currentSignature &&
        p.verify nextPublic transcript nextSignature
  | _, _, _, _ => false

/-- A device with the next recovery key. -/
def RecoveryKeyMutation.apply (mutation : RecoveryKeyMutation) (active : DeviceRecord) :
    DeviceRecord :=
  { active with
    recoverySalt := mutation.nextRecoverySalt
    recoveryEpoch := mutation.nextRecoveryEpoch
    recoveryPublicKey := mutation.nextRecoveryPublicKey }

/-- The state in which the recovery key is the next one. -/
def rotatedState (state : AuthorityState) (active : DeviceRecord) (mutation : RecoveryKeyMutation)
    (requestDigest : Bytes) (now : Int) : AuthorityState :=
  { state with
    active := some (mutation.apply active)
    receipts := appendReceipt (recentReceipts state.receipts now)
      ⟨mutation.operationID, hexEncode requestDigest, .recoveryKeyRotated,
        state.identityRevision, active.certificateSHA256, now⟩ }

/-- `RotateRecoveryKey`, up to the state to be written. -/
def rotateRecoveryKey (state : AuthorityState) (mutation : RecoveryKeyMutation)
    (requestDigest currentSignatureText nextSignatureText : Bytes) (now : Int) :
    Option Rotation := do
  require mutation.validate
  let active ← state.active
  match (recentReceipts state.receipts now).find? fun receipt =>
      receipt.operationID = mutation.operationID with
  | some receipt =>
      require (receipt.confirms requestDigest active &&
        active.recoveryEpoch = mutation.nextRecoveryEpoch)
      return .replayed (recoveryKeyResponse state active mutation.operationID)
  | none =>
      require (active.recoveryEpoch ≠ maxUint64 &&
        active.recoveryEpoch + 1 = mutation.nextRecoveryEpoch)
      require (possessionProved p state active mutation currentSignatureText nextSignatureText)
      let changed := rotatedState state active mutation requestDigest now
      require (validateAuthorityState p.pki changed now)
      return .changed changed

/-- The state without an active device. -/
def revokedState (state : AuthorityState) (active : DeviceRecord) : AuthorityState :=
  { state with
    active := none
    revoked := sortRevoked (state.revoked ++ [revokeRecord active])
    identityRevision := state.identityRevision + 1 }

/-- `RevokeActiveDevice`, up to the state to be written. -/
def revokeActiveDevice (state : AuthorityState) (now : Int) : Option AuthorityState := do
  let active ← state.active
  require (state.revoked.length < 64 && state.identityRevision ≠ maxUint64)
  let changed := revokedState state active
  require (validateAuthorityState p.pki changed now)
  return changed

end Changes

/-! ## What they can do -/

variable {p : Primitives} {state changed : AuthorityState} {now : Int}

theorem replaceActive_eq_some {candidate : PendingCandidate} {revoked : List DeviceRecord} :
    replaceActive state candidate = some revoked ↔
      candidate.mode = .enrollment ∧ state.active = none ∧ revoked = state.revoked ∨
      candidate.mode ≠ .enrollment ∧ ∃ active, state.active = some active ∧
        active.certificateSHA256 = candidate.previousFingerprint ∧ state.revoked.length < 64 ∧
        revoked = sortRevoked (state.revoked ++ [revokeRecord active]) := by
  unfold replaceActive
  cases candidate.mode <;>
    simp [Option.bind_eq_some_iff, @eq_comm _ revoked]

theorem activateCandidate_eq_some {candidate : PendingCandidate} {requestDigest : Bytes} :
    activateCandidate p state candidate requestDigest now = some changed ↔
      ∃ revoked, replaceActive state candidate = some revoked ∧
        state.identityRevision ≠ maxUint64 ∧
        changed = activatedState state candidate revoked requestDigest now ∧
        validateAuthorityState p.pki changed now = true := by
  unfold activateCandidate
  simp only [Option.bind_eq_bind, Option.bind_eq_some_iff, require_eq_some, Option.pure_def,
    Option.some.injEq]
  constructor
  · intro h
    obtain ⟨revoked, hrevoked, -, hmax, -, hvalid, rfl⟩ := h
    exact ⟨revoked, hrevoked, of_decide_eq_true hmax, rfl, hvalid⟩
  · intro h
    obtain ⟨revoked, hrevoked, hmax, rfl, hvalid⟩ := h
    exact ⟨revoked, hrevoked, (), decide_eq_true hmax, (), hvalid, rfl⟩

theorem revokeActiveDevice_eq_some :
    revokeActiveDevice p state now = some changed ↔
      ∃ active, state.active = some active ∧ state.revoked.length < 64 ∧
        state.identityRevision ≠ maxUint64 ∧ changed = revokedState state active ∧
        validateAuthorityState p.pki changed now = true := by
  unfold revokeActiveDevice
  simp only [Option.bind_eq_bind, Option.bind_eq_some_iff, require_eq_some, Option.pure_def,
    Option.some.injEq, Bool.and_eq_true, decide_eq_true_eq]
  constructor
  · intro h
    obtain ⟨active, hactive, -, ⟨hlength, hmax⟩, -, hvalid, rfl⟩ := h
    exact ⟨active, hactive, hlength, hmax, rfl, hvalid⟩
  · intro h
    obtain ⟨active, hactive, hlength, hmax, rfl, hvalid⟩ := h
    exact ⟨active, hactive, (), ⟨hlength, hmax⟩, (), hvalid, rfl⟩

/-- What a rotation that is not refused does: it answers from its receipt, or it
changes the recovery key of the active device and no other thing of it. -/
theorem rotateRecoveryKey_eq_some {mutation : RecoveryKeyMutation}
    {requestDigest currentSignature nextSignature : Bytes} {rotation : Rotation}
    (h : rotateRecoveryKey p state mutation requestDigest currentSignature nextSignature now =
      some rotation) :
    ∃ active, state.active = some active ∧
      (rotation = .replayed (recoveryKeyResponse state active mutation.operationID) ∧
          (∃ receipt ∈ recentReceipts state.receipts now,
            receipt.operationID = mutation.operationID ∧
              receipt.confirms requestDigest active = true) ∧
          active.recoveryEpoch = mutation.nextRecoveryEpoch ∨
        rotation = .changed (rotatedState state active mutation requestDigest now) ∧
          active.recoveryEpoch ≠ maxUint64 ∧
          active.recoveryEpoch + 1 = mutation.nextRecoveryEpoch ∧
          possessionProved p state active mutation currentSignature nextSignature = true ∧
          validateAuthorityState p.pki (rotatedState state active mutation requestDigest now) now =
            true) := by
  unfold rotateRecoveryKey at h
  simp only [Option.bind_eq_bind, Option.bind_eq_some_iff, require_eq_some] at h
  obtain ⟨-, -, active, hactive, h⟩ := h
  refine ⟨active, hactive, ?_⟩
  cases hfound : (recentReceipts state.receipts now).find? fun receipt =>
      receipt.operationID = mutation.operationID with
  | some receipt =>
      simp only [hfound, Option.bind_eq_some_iff, require_eq_some, Option.pure_def,
        Option.some.injEq, Bool.and_eq_true, decide_eq_true_eq] at h
      obtain ⟨-, ⟨hconfirms, hepoch⟩, rfl⟩ := h
      have hoperation := List.find?_some hfound
      exact .inl ⟨rfl, ⟨receipt, List.mem_of_find?_eq_some hfound,
        of_decide_eq_true hoperation, hconfirms⟩, hepoch⟩
  | none =>
      simp only [hfound, Option.bind_eq_some_iff, require_eq_some, Option.pure_def,
        Option.some.injEq, Bool.and_eq_true, decide_eq_true_eq] at h
      obtain ⟨-, ⟨hmax, hepoch⟩, -, hproved, -, hvalid, rfl⟩ := h
      exact .inr ⟨rfl, hmax, hepoch, hproved, hvalid⟩

/-- The checks of the file of a candidate that are not about the authority. -/
structure DurableCandidate.Sound (p : Primitives) (infrastructureID : Bytes)
    (candidate : DurableCandidate) : Prop where
  transactionID : canonicalRawURLBytes candidate.transactionID 16 = true
  requestSHA256 : lowerHex candidate.requestSHA256 64 64 = true
  record : validateDeviceRecord candidate.record .active = true
  certificate : ∃ certificate,
    candidateCertificate p candidate infrastructureID = some certificate
  digest : ∃ digest, hexDecode candidate.requestSHA256 = some digest

/-- The file of a candidate is accepted where it is sound and stands against the
authority as its mode asks; what is read is what was written. -/
theorem decodeDurableCandidate_eq_some {durable : DurableCandidate}
    {candidate : PendingCandidate} {committed : Bool}
    (h : decodeDurableCandidate p durable state = some (candidate, committed)) :
    durable.Sound p state.infrastructureID ∧
      committed = candidateReceiptExists durable state ∧
      matchesAuthority durable state committed = true ∧ candidate.durable = durable := by
  unfold decodeDurableCandidate at h
  simp only [Option.bind_eq_bind, Option.bind_eq_some_iff, require_eq_some, Option.pure_def,
    Option.some.injEq, Prod.mk.injEq] at h
  obtain ⟨-, htransaction, -, hrequest, -, hmatches, -, hrecord, certificate, hcertificate, digest,
    hdigest, rfl, rfl⟩ := h
  refine ⟨⟨htransaction, hrequest, hrecord, ⟨certificate, hcertificate⟩, ⟨digest, hdigest⟩⟩, rfl,
    hmatches, ?_⟩
  simp only [lowerHex, Bool.and_eq_true] at hrequest
  have hspelled := hexEncode_hexDecode hrequest.2 hdigest
  simp only [PendingCandidate.durable, hspelled]

theorem decodeDurableCandidate_isSome {durable : DurableCandidate} :
    (decodeDurableCandidate p durable state).isSome ↔
      durable.Sound p state.infrastructureID ∧
        matchesAuthority durable state (candidateReceiptExists durable state) = true := by
  constructor
  · intro h
    obtain ⟨⟨candidate, committed⟩, h⟩ := Option.isSome_iff_exists.1 h
    obtain ⟨hsound, rfl, hmatches, -⟩ := decodeDurableCandidate_eq_some h
    exact ⟨hsound, hmatches⟩
  · intro h
    obtain ⟨⟨htransaction, hrequest, hrecord, ⟨certificate, hcertificate⟩, ⟨digest, hdigest⟩⟩,
      hmatches⟩ := h
    simp [decodeDurableCandidate, require, htransaction, hrequest, hrecord, hcertificate, hdigest,
      hmatches]

end YourCloud.Identity
