import YourCloud.Foundation.Framing
import YourCloud.Foundation.Sha256

/-!
# The association of the App with a Controller

An association is what the App keeps of one Controller: its own device key and
certificate, the seed of its human key, and the salt and epoch its recovery key
is derived with.  It is checked whole each time it is used.

The parsers of certificates, URLs, timestamps and identifiers and the Ed25519
keys are those of the crates the App is built with.

## Main results

* `deviceID_of_validated`, `certificate_of_validated`, `seed_of_validated` —
  what a checked association can be used for.
-/

namespace YourCloud.App

open YourCloud.Foundation

inductive NetworkError where
  | invalidInput
  | associationFailed
  | sessionExpired
  | controllerUnavailable
  /-- The predicate that refused what the Controller answered. -/
  | responseRefused (reason : String)
  | approvalRefused (code : String)
  | cancelled
  | appUnavailable
  deriving DecidableEq, Repr

/-! ## The crates -/

structure PemBlock where
  remainder : Bytes
  label : Bytes
  contents : Bytes

inductive GeneralName where
  | uri (value : Bytes)
  | other

structure X509Certificate where
  remainder : Bytes
  /-- Whether the extension can be read, and whether there is one. -/
  subjectAlternativeName : Option (Option (List GeneralName))

structure Url where
  scheme : Bytes
  username : Bytes
  password : Option Bytes
  host : Option Bytes
  port : Option Nat
  path : Bytes
  query : Option Bytes
  fragment : Option Bytes

structure Uuid where
  version : Nat
  text : Bytes

structure Crates where
  parseX509Pem : Bytes → Option PemBlock
  parseX509Certificate : Bytes → Option X509Certificate
  parseUrl : Bytes → Option Url
  parseUuid : Bytes → Option Uuid
  parseRfc3339 : Bytes → Option Int
  /-- The public key of an Ed25519 seed. -/
  verifyingKey : Bytes → Bytes

/-! ## The record -/

structure AssociationSummary where
  controllerID : Bytes
  infrastructureID : Bytes
  infrastructureLabel : Option Bytes
  origin : Bytes
  deviceStatus : Bytes
  certificateExpiresAt : Option Bytes
  deriving DecidableEq, Repr

structure AssociationRecord where
  summary : AssociationSummary
  deviceID : Bytes
  serverCaPem : Bytes
  serverSpkiSha256 : Bytes
  devicePrivateKeyPem : Bytes
  deviceCertificatePem : Bytes
  humanPrivateSeed : Bytes
  identityRevision : UInt64
  recoverySalt : Bytes
  recoveryEpoch : UInt64
  pendingMode : Option Bytes
  pendingTransactionID : Option Bytes
  pendingDevicePrivateKeyPem : Option Bytes
  pendingDeviceCertificatePem : Option Bytes
  pendingCertificateExpiresAt : Option Bytes
  deriving DecidableEq, Repr

/-! ## Its encodings -/

def refuse {α : Type} (reason : String) : Except NetworkError α := .error (.responseRefused reason)

/-- What a parser read, or the refusal where it read nothing. -/
def orRefuse {α : Type} (o : Option α) (reason : String) : Except NetworkError α :=
  match o with
  | some a => .ok a
  | none => refuse reason

/-- A refusal under a condition. -/
def refuseIf (condition : Bool) (reason : String) : Except NetworkError Unit :=
  if condition then refuse reason else .ok ()

theorem orRefuse_eq_ok {α : Type} {o : Option α} {reason : String} {a : α} :
    orRefuse o reason = .ok a ↔ o = some a := by
  cases o with
  | none => exact ⟨nofun, nofun⟩
  | some b => exact ⟨fun h => congrArg some (Except.ok.inj h), fun h => by rw [h]; rfl⟩

theorem refuseIf_eq_ok {condition : Bool} {reason : String} {u : Unit} :
    refuseIf condition reason = .ok u ↔ condition = false := by
  cases condition with
  | true => exact ⟨nofun, nofun⟩
  | false => exact ⟨fun _ => rfl, fun _ => rfl⟩

theorem ok_bind {α β : Type} (a : α) (f : α → Except NetworkError β) :
    ((.ok a : Except NetworkError α) >>= f) = f a := (rfl)

/-- What succeeded did so in each of its two parts. -/
theorem bind_eq_ok {α β : Type} {x : Except NetworkError α} {f : α → Except NetworkError β}
    {b : β} : (x >>= f) = .ok b ↔ ∃ a, x = .ok a ∧ f a = .ok b := by
  cases x with
  | error e => exact ⟨nofun, fun ⟨_, h, _⟩ => nomatch h⟩
  | ok a => exact ⟨fun h => ⟨a, rfl, h⟩, fun ⟨a', ha, hf⟩ => by rw [← Except.ok.inj ha] at hf; exact hf⟩

/-- `u8::is_ascii_whitespace` -/
def isAsciiWhitespace (b : UInt8) : Bool :=
  b = 0x20 || b = 0x09 || b = 0x0A || b = 0x0C || b = 0x0D

/-- `URL_SAFE_NO_PAD.decode`, which refuses bits that are not used. -/
def decodeUrlSafe (value : Bytes) : Option Bytes :=
  (decodeLetters value).filter fun decoded => encodeRawURL decoded = value

@[simp] theorem decodeUrlSafe_encode (decoded : Bytes) :
    decodeUrlSafe (encodeRawURL decoded) = some decoded := by
  rw [decodeUrlSafe, decodeLetters_encodeRawURL]
  exact Option.filter_eq_some_iff.2 ⟨rfl, decide_eq_true rfl⟩

def canonicalRawUrl (value : Bytes) (size : Nat) : Bool := (decodeRawURL value size).isSome

/-- `decode_raw_url_32`: the letters, their one spelling and their number each
have a refusal. -/
def decodeRawUrl32 (value : Bytes) : Except NetworkError Bytes := do
  let decoded ← orRefuse (decodeUrlSafe value) "decode_raw_url_32:1"
  refuseIf (encodeRawURL decoded ≠ value) "decode_raw_url_32:2"
  refuseIf (decoded.length ≠ 32) "decode_raw_url_32:3"
  return decoded

theorem decodeRawUrl32_encode {decoded : Bytes} (h : decoded.length = 32) :
    decodeRawUrl32 (encodeRawURL decoded) = .ok decoded := by
  simp [decodeRawUrl32, orRefuse, refuseIf, h, bind, Except.bind, pure, Except.pure]

/-! ## Its certificate -/

section Checks

variable (crates : Crates)

def pemCertificateDer (pem : Bytes) : Except NetworkError Bytes := do
  let block ← orRefuse (crates.parseX509Pem pem) "pem_certificate_der:1"
  refuseIf (!block.remainder.all isAsciiWhitespace || block.label ≠ text "CERTIFICATE")
    "pem_certificate_der:2"
  let certificate ← orRefuse (crates.parseX509Certificate block.contents) "pem_certificate_der:3"
  refuseIf (certificate.remainder ≠ []) "pem_certificate_der:4"
  return block.contents

/-- What follows a prefix. -/
def stripPrefix (head value : Bytes) : Option Bytes :=
  if head.isPrefixOf value then some (value.drop head.length) else none

/-- The one name of a certificate, when it is a URI. -/
def uriOf : List GeneralName → Option Bytes
  | [.uri rendered] => some rendered
  | _ => none

def deviceIDFromCertificate (pem infrastructureID : Bytes) : Except NetworkError Bytes := do
  let der ← pemCertificateDer crates pem
  let certificate ← orRefuse (crates.parseX509Certificate der) "device_id_from_certificate:1"
  let san ← orRefuse certificate.subjectAlternativeName "device_id_from_certificate:2"
  let names ← orRefuse san "device_id_from_certificate:3"
  refuseIf (names.length ≠ 1) "device_id_from_certificate:4"
  let rendered ← orRefuse (uriOf names) "device_id_from_certificate:5"
  let head := text "urn:your-cloud:device:v1:" ++ infrastructureID ++ text ":"
  let device ← orRefuse (stripPrefix head rendered) "device_id_from_certificate:6"
  let parsed ← orRefuse (crates.parseUuid device) "device_id_from_certificate:7"
  refuseIf (parsed.version ≠ 4 || parsed.text ≠ device) "device_id_from_certificate:8"
  return device

/-- The seed of the human key. -/
def humanSigningKey (association : AssociationRecord) : Except NetworkError Bytes := do
  let decoded ← orRefuse (decodeUrlSafe association.humanPrivateSeed) "human_signing_key:1"
  refuseIf (decoded.length ≠ 32) "human_signing_key:2"
  return decoded

/-! ## Its validation -/

/-- `parse_timestamp`: the shape of a canonical timestamp, and what the parser
makes of it. -/
def parseTimestamp (value : Bytes) : Option Int :=
  if value.length < 20 ∨ 30 < value.length ∨ value[4]? ≠ some 0x2D ∨ value[7]? ≠ some 0x2D ∨
      value[10]? ≠ some 0x54 ∨ value[13]? ≠ some 0x3A ∨ value[16]? ≠ some 0x3A ∨
      value.getLast? ≠ some 0x5A then none
  else
    let fraction := (value.drop 19).dropLast
    if 20 < value.length ∧ (fraction.head? ≠ some 0x2E ∨ fraction.length < 2 ∨
        10 < fraction.length ∨ !fraction.tail.all isDigit ∨ fraction.getLast? = some 0x30) then none
    else crates.parseRfc3339 value

def canonicalTimestamp (value : Bytes) : Bool := (parseTimestamp crates value).isSome

def validateOrigin (raw expectedHost : Bytes) (expectedPort : Nat) : Except NetworkError Unit :=
  match crates.parseUrl raw with
  | none => .error .invalidInput
  | some parsed =>
      if parsed.scheme ≠ text "https" ∨ parsed.username ≠ [] ∨ parsed.password.isSome ∨
          parsed.host ≠ some expectedHost ∨ parsed.port ≠ some expectedPort ∨
          parsed.path ≠ text "/" ∨ parsed.query.isSome ∨ parsed.fragment.isSome ∨
          raw ≠ text "https://" ++ expectedHost ++ text ":" ++ decimal expectedPort then
        .error .invalidInput
      else .ok ()

def controllerServerName (infrastructureID : Bytes) : Bytes :=
  text "controller." ++ infrastructureID ++ text ".your-cloud.test"

/-- A canonical version 4 identifier. -/
def canonicalUuid (parsed : Uuid) (value : Bytes) : Bool :=
  parsed.version = 4 && parsed.text = value

def deviceStatuses : List Bytes := [text "candidate", text "active", text "revoked"]

def validatePersistedAssociation (association : AssociationRecord) : Except NetworkError Unit := do
  let controller ← orRefuse (crates.parseUuid association.summary.controllerID)
    "validate_persisted_association:1"
  let infrastructure ← orRefuse (crates.parseUuid association.summary.infrastructureID)
    "validate_persisted_association:2"
  let device ← orRefuse (crates.parseUuid association.deviceID)
    "validate_persisted_association:3"
  refuseIf (!canonicalUuid controller association.summary.controllerID ||
    !canonicalUuid infrastructure association.summary.infrastructureID ||
    !canonicalUuid device association.deviceID ||
    !deviceStatuses.contains association.summary.deviceStatus ||
    association.summary.certificateExpiresAt.all fun value => !canonicalTimestamp crates value)
    "validate_persisted_association:4"
  let host := controllerServerName association.summary.infrastructureID
  refuseIf (validateOrigin crates association.summary.origin host 9443).isOk.not
    "validate_persisted_association:5"
  let certificateDevice ← deviceIDFromCertificate crates association.deviceCertificatePem
    association.summary.infrastructureID
  refuseIf (certificateDevice ≠ association.deviceID ||
    !canonicalRawUrl association.humanPrivateSeed 32 ||
    !canonicalRawUrl association.recoverySalt 32 || association.recoveryEpoch == 0)
    "validate_persisted_association:6"
  if association.pendingMode = some (text "rotation") then
    let pendingCertificate ← orRefuse association.pendingDeviceCertificatePem
      "validate_persisted_association:7"
    let pendingDevice ← deviceIDFromCertificate crates pendingCertificate
      association.summary.infrastructureID
    refuseIf (pendingDevice ≠ association.deviceID ||
      association.pendingCertificateExpiresAt.all fun value => !canonicalTimestamp crates value)
      "validate_persisted_association:8"

/-! ### What it grants -/

variable {crates} {association : AssociationRecord}

theorem deviceID_of_validated (h : validatePersistedAssociation crates association = .ok ()) :
    deviceIDFromCertificate crates association.deviceCertificatePem
      association.summary.infrastructureID = .ok association.deviceID := by
  simp only [validatePersistedAssociation, bind_eq_ok, refuseIf_eq_ok, Bool.or_eq_false_iff,
    decide_eq_false_iff_not, not_not] at h
  obtain ⟨-, -, -, -, -, -, -, -, -, -, device, hdevice, -, ⟨⟨⟨hsame, -⟩, -⟩, -⟩, -⟩ := h
  rw [hdevice, hsame]

theorem certificate_of_validated (h : validatePersistedAssociation crates association = .ok ()) :
    ∃ der, pemCertificateDer crates association.deviceCertificatePem = .ok der := by
  have hdevice := deviceID_of_validated h
  simp only [deviceIDFromCertificate, bind_eq_ok] at hdevice
  obtain ⟨der, hder, -⟩ := hdevice
  exact ⟨der, hder⟩

theorem seed_of_validated (h : validatePersistedAssociation crates association = .ok ()) :
    ∃ seed, humanSigningKey association = .ok seed := by
  simp only [validatePersistedAssociation, bind_eq_ok, refuseIf_eq_ok, Bool.or_eq_false_iff,
    Bool.not_eq_false'] at h
  obtain ⟨-, -, -, -, -, -, -, -, -, -, -, -, -, ⟨⟨⟨-, hseed⟩, -⟩, -⟩, -⟩ := h
  obtain ⟨seed, hread⟩ := Option.isSome_iff_exists.1 hseed
  obtain ⟨hlength, hcanonical⟩ := decodeRawURL_eq_some.1 hread
  refine ⟨seed, ?_⟩
  rw [humanSigningKey, ← hcanonical]
  simp [orRefuse, refuseIf, hlength, bind, Except.bind, pure, Except.pure]

end Checks

end YourCloud.App
