import YourCloud.Approval.Envelope
import YourCloud.Foundation.Sha256

/-!
# The identity authority of a Controller

The Controller keeps one active device, with the human and recovery keys that
speak for it, and the devices it replaced.  Every change is a receipt, so that
an operation asked for twice is answered as it was the first time.

Timestamps are nanoseconds: what is written in the one canonical spelling is
what is read back.

## Main results

* `fingerprint_of_presented` — a presented device is the one whose fingerprint
  is stored.
-/

namespace YourCloud.Identity

open YourCloud.Foundation
open YourCloud.Approval (canonicalUUIDv4 strictlyIncreasing)

/-- `lowerHex` -/
def lowerHex (value : Bytes) (minimum maximum : Nat) : Bool :=
  minimum ≤ value.length && value.length ≤ maximum && value.all isLowerHex

/-- `canonicalRawURLBytes` -/
def canonicalRawURLBytes (value : Bytes) (expected : Nat) : Bool :=
  (decodeRawURL value expected).isSome

/-- The size of an Ed25519 public key. -/
def publicKeySize : Nat := 32

inductive Status where
  | active
  | revoked
  deriving DecidableEq, Repr

structure DeviceRecord where
  deviceID : Bytes
  certificateSerial : Bytes
  certificateSHA256 : Bytes
  humanPublicKey : Bytes
  recoverySalt : Bytes
  recoveryEpoch : UInt64
  recoveryPublicKey : Bytes
  status : Status
  deriving DecidableEq, Repr

theorem canonicalRawURLBytes_length_le {value : Bytes} {expected : Nat}
    (h : canonicalRawURLBytes value expected = true) : value.length ≤ 2 * expected := by
  obtain ⟨decoded, hdecoded⟩ := Option.isSome_iff_exists.1 h
  obtain ⟨hlength, rfl⟩ := decodeRawURL_eq_some.1 hdecoded
  rw [← hlength]
  exact encodeRawURL_length_le decoded

def validateDeviceRecord (record : DeviceRecord) (expectedStatus : Status) : Bool :=
  canonicalUUIDv4 record.deviceID && record.status = expectedStatus &&
    lowerHex record.certificateSerial 1 64 && lowerHex record.certificateSHA256 64 64 &&
    canonicalRawURLBytes record.humanPublicKey publicKeySize &&
    canonicalRawURLBytes record.recoverySalt 32 && record.recoveryEpoch != 0 &&
    canonicalRawURLBytes record.recoveryPublicKey publicKeySize

/-- The texts of a stored device are short. -/
structure DeviceRecord.Bounded (record : DeviceRecord) : Prop where
  deviceID : record.deviceID.length = 36
  certificateSHA256 : record.certificateSHA256.length = 64
  humanPublicKey : record.humanPublicKey.length ≤ 64
  recoverySalt : record.recoverySalt.length ≤ 64
  recoveryPublicKey : record.recoveryPublicKey.length ≤ 64

theorem validateDeviceRecord_bounded {record : DeviceRecord} {status : Status}
    (h : validateDeviceRecord record status = true) : record.Bounded := by
  simp only [validateDeviceRecord, Bool.and_eq_true] at h
  obtain ⟨⟨⟨⟨⟨⟨⟨hdevice, -⟩, -⟩, hcertificate⟩, hhuman⟩, hsalt⟩, -⟩, hkey⟩ := h
  simp only [lowerHex, Bool.and_eq_true, decide_eq_true_eq] at hcertificate
  exact ⟨Approval.canonicalUUIDv4_length hdevice,
    Nat.le_antisymm hcertificate.1.2 hcertificate.1.1, canonicalRawURLBytes_length_le hhuman,
    canonicalRawURLBytes_length_le hsalt, canonicalRawURLBytes_length_le hkey⟩

/-- What became of an operation that was committed. -/
inductive Result where
  | enrollmentActivated
  | recoveryActivated
  | rotationActivated
  | recoveryKeyRotated
  deriving DecidableEq, Repr

structure IdempotenceReceipt where
  operationID : Bytes
  requestSHA256 : Bytes
  result : Result
  identityRevision : UInt64
  certificateSHA256 : Bytes
  committedAt : Int
  deriving DecidableEq, Repr

structure AuthorityState where
  controllerID : Bytes
  infrastructureID : Bytes
  identityRevision : UInt64
  active : Option DeviceRecord
  revoked : List DeviceRecord
  receipts : List IdempotenceReceipt
  deriving DecidableEq, Repr

def validateReceipt (receipt : IdempotenceReceipt) (now : Int) : Bool :=
  canonicalRawURLBytes receipt.operationID 16 && lowerHex receipt.requestSHA256 64 64 &&
    receipt.identityRevision != 0 && lowerHex receipt.certificateSHA256 64 64 &&
    receipt.committedAt ≤ now

/-- What revoked devices are sorted by. -/
def DeviceRecord.key (record : DeviceRecord) : Bytes :=
  record.deviceID ++ 0 :: record.certificateSHA256

/-- The state but for the server and device authorities, which `pki` stands for:
the server certificate, for one, has its own period of validity. -/
def validateAuthorityState (pki : Int → Bool) (state : AuthorityState) (now : Int) : Bool :=
  canonicalUUIDv4 state.controllerID && canonicalUUIDv4 state.infrastructureID && pki now &&
    state.revoked.length ≤ 64 && state.receipts.length ≤ 32 &&
    state.active.all (fun record => validateDeviceRecord record .active) &&
    state.revoked.all (fun record => validateDeviceRecord record .revoked) &&
    strictlyIncreasing (state.revoked.map DeviceRecord.key) &&
    state.receipts.all (fun receipt => validateReceipt receipt now) &&
    (state.receipts.map IdempotenceReceipt.operationID).Nodup

section Validated

variable {pki : Int → Bool} {state : AuthorityState} {now : Int}
variable (h : validateAuthorityState pki state now = true)

include h

theorem controllerID_canonical : canonicalUUIDv4 state.controllerID = true := by
  simp only [validateAuthorityState, Bool.and_eq_true] at h
  exact h.1.1.1.1.1.1.1.1.1

theorem infrastructureID_canonical : canonicalUUIDv4 state.infrastructureID = true := by
  simp only [validateAuthorityState, Bool.and_eq_true] at h
  exact h.1.1.1.1.1.1.1.1.2

theorem active_valid {active : DeviceRecord} (hactive : state.active = some active) :
    validateDeviceRecord active .active = true := by
  simp only [validateAuthorityState, Bool.and_eq_true, hactive, Option.all_some] at h
  exact h.1.1.1.1.2

end Validated

/-! ## The certificate a device presents -/

/-- `x509.KeyUsageDigitalSignature` -/
def keyUsageDigitalSignature : Nat := 1

/-- `x509.ExtKeyUsageClientAuth` -/
def extKeyUsageClientAuth : Nat := 2

/-- A parsed certificate, as far as it is looked at. -/
structure Certificate where
  raw : Bytes
  isCA : Bool
  basicConstraintsValid : Bool
  keyUsage : Nat
  extKeyUsage : List Nat
  unknownExtKeyUsage : List Bytes
  notBefore : Int
  notAfter : Int
  uris : List Bytes
  dnsNames : List Bytes
  ipAddresses : List Bytes
  emailAddresses : List Bytes
  /-- In lower-case hexadecimal. -/
  serialNumber : Bytes
  deriving DecidableEq, Repr

def controllerServerName (infrastructureID : Bytes) : Bytes :=
  text "controller." ++ infrastructureID ++ text ".your-cloud.test"

def deviceURI (infrastructureID deviceID : Bytes) : Bytes :=
  text "urn:your-cloud:device:v1:" ++ infrastructureID ++ text ":" ++ deviceID

def certificateFingerprint (certificate : Certificate) : Bytes := sha256Hex certificate.raw

def validatePresentedDevice (certificate : Certificate) (infrastructureID : Bytes)
    (expected : DeviceRecord) (now : Int) : Bool :=
  !certificate.isCA && certificate.basicConstraintsValid &&
    certificate.keyUsage = keyUsageDigitalSignature &&
    certificate.extKeyUsage = [extKeyUsageClientAuth] && certificate.unknownExtKeyUsage = [] &&
    certificate.notBefore ≤ now && now ≤ certificate.notAfter &&
    certificate.uris = [deviceURI infrastructureID expected.deviceID] &&
    certificate.dnsNames = [] && certificate.ipAddresses = [] &&
    certificate.emailAddresses = [] &&
    certificate.serialNumber = expected.certificateSerial &&
    hexDecode expected.certificateSHA256 = some (sha256 certificate.raw)

/-- A presented device is the one whose fingerprint is known. -/
theorem fingerprint_of_presented {certificate : Certificate} {infrastructureID : Bytes}
    {expected : DeviceRecord} {status : Status} {now : Int}
    (hrecord : validateDeviceRecord expected status = true)
    (h : validatePresentedDevice certificate infrastructureID expected now = true) :
    certificateFingerprint certificate = expected.certificateSHA256 := by
  simp only [validatePresentedDevice, Bool.and_eq_true, decide_eq_true_eq] at h
  simp only [validateDeviceRecord, lowerHex, Bool.and_eq_true] at hrecord
  exact hexEncode_hexDecode hrecord.1.1.1.1.2.2 h.2

def authorizeActive (state : AuthorityState) (certificate : Certificate) (now : Int) :
    Option DeviceRecord :=
  state.active.filter fun device =>
    validatePresentedDevice certificate state.infrastructureID device now

theorem authorizeActive_eq_some {state : AuthorityState} {certificate : Certificate} {now : Int}
    {device : DeviceRecord} :
    authorizeActive state certificate now = some device ↔ state.active = some device ∧
      validatePresentedDevice certificate state.infrastructureID device now = true := by
  unfold authorizeActive
  exact Option.filter_eq_some_iff

end YourCloud.Identity
