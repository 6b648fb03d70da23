import YourCloud.App.Association
import YourCloud.Identity.Transcript

/-!
# The transcripts the App signs

The App lays out each transcript by itself, from its association, from the
challenge it was answered with and from the request it is about to send.  It
refuses a field whose length does not fit.

## Main results

* `identityTranscript_agrees`, `sessionTranscript_agrees`,
  `recoveryKeyTranscript_agrees` — where the App and the Controller hold the same
  values, the bytes signed are the bytes verified.
* `transcripts_agree_and_separate` — the three together, and that a signature
  collected for one subject verifies for no other.
-/

namespace YourCloud.App

open YourCloud.Foundation
open YourCloud.Identity (AuthorityState DeviceRecord Subject Verified WindowMode Fixed)

/-! ## What is exchanged -/

structure PairingInput where
  mode : Bytes
  origin : Bytes
  temporaryOrigin : Bytes
  controllerID : Bytes
  infrastructureID : Bytes
  serverCaPem : Bytes
  serverSpkiSha256 : Bytes
  windowID : Bytes
  windowCode : Bytes
  recoveryCode : Bytes

structure IdentityChallengeResponse where
  schemaVersion : Nat
  transactionID : Bytes
  deviceID : Bytes
  challenge : Bytes
  createdAt : Bytes
  expiresAt : Bytes
  nextRecoverySalt : Bytes
  nextRecoveryEpoch : UInt64
  currentRecoverySalt : Bytes
  currentRecoveryEpoch : UInt64
  currentRecoveryPublicKey : Bytes

structure SessionChallengeResponse where
  schemaVersion : Nat
  challengeID : Bytes
  challenge : Bytes
  createdAt : Bytes
  expiresAt : Bytes

structure RecoveryKeyMutationRequest where
  schemaVersion : Nat
  operationID : Bytes
  nextRecoveryEpoch : UInt64
  nextRecoverySalt : Bytes
  nextRecoveryPublicKey : Bytes

/-! ## The transcripts -/

def identityTranscriptDomain : Bytes := text "your-cloud/identity-transcript.v1" ++ [0]

def humanSessionDomain : Bytes := text "your-cloud/human-session.v1" ++ [0]

def recoveryKeyTranscriptDomain : Bytes := text "your-cloud/recovery-key-rotation.v1" ++ [0]

def appendField (buffer value : Bytes) : Except NetworkError Bytes := do
  refuseIf (2 ^ 32 ≤ value.length) "append_field:1"
  return buffer ++ bigEndian 4 value.length ++ value

def appendNumber (buffer : Bytes) (n : UInt64) : Bytes := buffer ++ bigEndian 8 n.toNat

section Transcripts

variable (crates : Crates)

def recoveryKeyTranscript (association : AssociationRecord)
    (mutation : RecoveryKeyMutationRequest) (currentRecoveryPublic : Bytes) :
    Except NetworkError Bytes := do
  let certificate ← pemCertificateDer crates association.deviceCertificatePem
  let fingerprint := sha256Hex certificate
  let transcript := recoveryKeyTranscriptDomain
  let transcript ← appendField transcript mutation.operationID
  let transcript ← appendField transcript association.summary.controllerID
  let transcript ← appendField transcript association.summary.infrastructureID
  let transcript ← appendField transcript association.deviceID
  let transcript ← appendField transcript fingerprint
  let transcript ← appendField transcript association.recoverySalt
  let transcript := appendNumber transcript association.recoveryEpoch
  let transcript ← appendField transcript currentRecoveryPublic
  let transcript ← appendField transcript mutation.nextRecoverySalt
  let transcript := appendNumber transcript mutation.nextRecoveryEpoch
  appendField transcript mutation.nextRecoveryPublicKey

/-- What a recovery replaces is decoded; an enrollment replaces nothing. -/
def currentOf (mode value : Bytes) : Except NetworkError Bytes :=
  if mode = text "recovery" then decodeRawUrl32 value else .ok []

def identityTranscript (input : PairingInput) (challenge : IdentityChallengeResponse)
    (requestID csrDer humanPublic nextRecoveryPublic : Bytes) : Except NetworkError Bytes := do
  let challengeBytes ← decodeRawUrl32 challenge.challenge
  let currentSalt ← currentOf input.mode challenge.currentRecoverySalt
  let currentPublic ← currentOf input.mode challenge.currentRecoveryPublicKey
  let nextSalt ← decodeRawUrl32 challenge.nextRecoverySalt
  let transcript := identityTranscriptDomain
  let transcript ← appendField transcript input.mode
  let transcript ← appendField transcript input.temporaryOrigin
  let transcript ← appendField transcript (text "PUT /v0/" ++ input.mode)
  let transcript ← appendField transcript input.windowID
  let transcript ← appendField transcript requestID
  let transcript ← appendField transcript challenge.transactionID
  let transcript ← appendField transcript input.controllerID
  let transcript ← appendField transcript input.infrastructureID
  let transcript ← appendField transcript challenge.deviceID
  let transcript ← appendField transcript challengeBytes
  let transcript ← appendField transcript challenge.createdAt
  let transcript ← appendField transcript challenge.expiresAt
  let transcript ← appendField transcript currentSalt
  let transcript := appendNumber transcript challenge.currentRecoveryEpoch
  let transcript ← appendField transcript nextSalt
  let transcript := appendNumber transcript challenge.nextRecoveryEpoch
  let transcript ← appendField transcript (sha256 csrDer)
  let transcript ← appendField transcript humanPublic
  let transcript ← appendField transcript currentPublic
  appendField transcript nextRecoveryPublic

def sessionTranscript (association : AssociationRecord) (challenge : SessionChallengeResponse)
    (bodyDigest purpose targetMethod targetRoute : Bytes) : Except NetworkError Bytes := do
  let challengeValue ← decodeRawUrl32 challenge.challenge
  let certificate ← pemCertificateDer crates association.deviceCertificatePem
  let fingerprint := sha256Hex certificate
  let human ← humanSigningKey association
  let humanPublic := encodeRawURL (crates.verifyingKey human)
  let transcript := humanSessionDomain
  let transcript ← appendField transcript purpose
  let transcript ← appendField transcript targetMethod
  let transcript ← appendField transcript targetRoute
  let transcript ← appendField transcript bodyDigest
  let transcript ← appendField transcript association.summary.controllerID
  let transcript ← appendField transcript association.summary.infrastructureID
  let deviceID ← deviceIDFromCertificate crates association.deviceCertificatePem
    association.summary.infrastructureID
  let transcript ← appendField transcript deviceID
  let transcript ← appendField transcript fingerprint
  let transcript ← appendField transcript humanPublic
  let transcript ← appendField transcript challenge.challengeID
  let transcript ← appendField transcript challengeValue
  let transcript ← appendField transcript challenge.createdAt
  let transcript ← appendField transcript challenge.expiresAt
  return appendNumber transcript association.identityRevision

end Transcripts

/-! ## What the Controller answers with -/

section Answers

variable (format : Int → Bytes)

/-- The answer to a challenge request, as it is read: what the Controller leaves
out reads as empty. -/
def challengeResponse (transaction : Identity.IdentityTransaction) : IdentityChallengeResponse :=
  let response : IdentityChallengeResponse :=
    { schemaVersion := 1
      transactionID := transaction.transactionID
      deviceID := transaction.deviceID
      challenge := encodeRawURL transaction.challenge.1
      createdAt := format transaction.created
      expiresAt := format transaction.expires
      nextRecoverySalt := encodeRawURL transaction.nextRecoverySalt.1
      nextRecoveryEpoch := transaction.nextRecoveryEpoch
      currentRecoverySalt := []
      currentRecoveryEpoch := 0
      currentRecoveryPublicKey := [] }
  match transaction.mode with
  | .enrollment => response
  | .recovery =>
      { response with
        currentRecoverySalt := encodeRawURL transaction.currentRecoverySalt
        currentRecoveryEpoch := transaction.currentRecoveryEpoch
        currentRecoveryPublicKey := encodeRawURL transaction.currentRecoveryPublicKey }

def renderSessionChallenge (challenge : Identity.SessionChallenge) : SessionChallengeResponse where
  schemaVersion := 1
  challengeID := challenge.id
  challenge := encodeRawURL challenge.value.1
  createdAt := format challenge.created
  expiresAt := format challenge.expires

end Answers

/-! ## Agreement -/

/-- The App and the Controller hold the same values: the identifiers, the
certificate and the keys of the active device, its revision and its recovery
salt and epoch. -/
structure SameIdentity (crates : Crates) (association : AssociationRecord)
    (state : AuthorityState) (device : DeviceRecord) : Prop where
  active : state.active = some device
  controllerID : association.summary.controllerID = state.controllerID
  infrastructureID : association.summary.infrastructureID = state.infrastructureID
  deviceID : association.deviceID = device.deviceID
  certificate : ∀ der, pemCertificateDer crates association.deviceCertificatePem = .ok der →
    sha256Hex der = device.certificateSHA256
  humanKey : ∀ seed, humanSigningKey association = .ok seed →
    encodeRawURL (crates.verifyingKey seed) = device.humanPublicKey
  identityRevision : association.identityRevision = state.identityRevision
  recoverySalt : association.recoverySalt = device.recoverySalt
  recoveryEpoch : association.recoveryEpoch = device.recoveryEpoch

/-- Within their bound, the two sides append a field alike. -/
theorem appendField_of_fits {buffer value : Bytes} (h : value.length < 2 ^ 32) :
    appendField buffer value = .ok (Identity.appendTranscriptField buffer value) := by
  unfold appendField
  rw [show refuseIf (2 ^ 32 ≤ value.length) "append_field:1" = .ok () from
    refuseIf_eq_ok.2 (decide_eq_false (Nat.not_le.2 h))]
  rfl

section Agreement

variable {crates : Crates} {association : AssociationRecord} {device : DeviceRecord}
variable {state : AuthorityState} {pki : Int → Bool} {now : Int}

theorem recoveryKeyTranscript_agrees (hsame : SameIdentity crates association state device)
    (hvalid : validatePersistedAssociation crates association = .ok ())
    (hstate : Identity.validateAuthorityState pki state now = true)
    (mutation : RecoveryKeyMutationRequest) {received : Identity.RecoveryKeyMutation}
    (hreceived : received = ⟨mutation.schemaVersion, mutation.operationID,
      mutation.nextRecoveryEpoch, mutation.nextRecoverySalt, mutation.nextRecoveryPublicKey⟩)
    (hmutation : received.validate = true) :
    recoveryKeyTranscript crates association mutation device.recoveryPublicKey =
      .ok (Identity.recoveryKeyTranscript state device received) := by
  obtain ⟨der, hder⟩ := certificate_of_validated hvalid
  have hfits := Identity.recoveryKeySubject_fits hstate hsame.active hmutation
  subst hreceived
  simp only [Subject.Fits, Subject.items, Identity.RecoveryKeySubject.items,
    Identity.recoveryKeySubject, List.all_cons, List.all_nil, Item.fits, Bool.true_and,
    Bool.and_true, Bool.and_eq_true, decide_eq_true_eq] at hfits
  obtain ⟨h1, h2, h3, h4, h5, h6, h7, h8, h9⟩ := hfits
  unfold recoveryKeyTranscript
  rw [hder, hsame.controllerID, hsame.infrastructureID, hsame.deviceID, hsame.recoverySalt,
    hsame.recoveryEpoch]
  simp only [ok_bind, hsame.certificate der hder]
  simp (disch := assumption) only [appendField_of_fits, ok_bind]
  rfl

variable {format : Int → Bytes} (hformat : ∀ t, (format t).length < 2 ^ 32)

include hformat in
theorem sessionTranscript_agrees {past : AuthorityState} {checked : Int}
    (hsame : SameIdentity crates association past device)
    (hvalid : validatePersistedAssociation crates association = .ok ())
    (hpast : Identity.validateAuthorityState pki past checked = true)
    (hcontroller : state.controllerID = past.controllerID)
    (hinfrastructure : state.infrastructureID = past.infrastructureID)
    {certificate : Identity.Certificate} {id : Fixed 16} {value : Fixed 32}
    {challenge : Identity.SessionChallenge} {bodyDigest purpose targetMethod targetRoute : Bytes}
    (hchallenge : Identity.newChallenge past certificate
      ⟨1, purpose, targetMethod, targetRoute, encodeRawURL bodyDigest⟩ id value now =
        some challenge) :
    sessionTranscript crates association (renderSessionChallenge format challenge) bodyDigest
        purpose targetMethod targetRoute =
      .ok (Identity.sessionTranscript format state challenge) := by
  obtain ⟨der, hder⟩ := certificate_of_validated hvalid
  obtain ⟨seed, hseed⟩ := seed_of_validated hvalid
  have hdevice := deviceID_of_validated hvalid
  have hfits := Identity.sessionSubject_fits hformat
    (hcontroller ▸ Identity.controllerID_canonical hpast)
    (hinfrastructure ▸ Identity.infrastructureID_canonical hpast) hpast hchallenge
  obtain ⟨authorized, hauthorized, hrequest, rfl⟩ := Identity.newChallenge_eq_some hchallenge
  obtain ⟨hactive, hpresented⟩ := Identity.authorizeActive_eq_some.1 hauthorized
  obtain rfl := Option.some.inj (hsame.active.symm.trans hactive)
  have hfingerprint := Identity.fingerprint_of_presented (Identity.active_valid hpast hactive)
    hpresented
  have hbody : decodeRawURL (encodeRawURL bodyDigest) 32 = some bodyDigest := by
    simp only [Identity.validateSessionChallengeRequest, Identity.canonicalRawURLBytes,
      Bool.and_eq_true] at hrequest
    obtain ⟨decoded, hdecoded⟩ := Option.isSome_iff_exists.1 hrequest.1.2
    rw [hdecoded, encodeRawURL_injective (decodeRawURL_eq_some.1 hdecoded).2]
  simp only [Subject.Fits, Subject.items, Identity.SessionSubject.items, Identity.sessionSubject,
    List.all_cons, List.all_nil, Item.fits, Bool.and_true, Bool.and_eq_true, decide_eq_true_eq,
    hbody, Option.getD_some, hfingerprint, hcontroller, hinfrastructure] at hfits
  obtain ⟨h1, h2, h3, h4, h5, h6, h7, h8, h9, h10, h11, h12, h13⟩ := hfits
  unfold sessionTranscript
  rw [hder, hseed, hdevice]
  simp only [renderSessionChallenge, decodeRawUrl32_encode value.2, ok_bind,
    hsame.certificate der hder, hsame.humanKey seed hseed, hsame.controllerID,
    hsame.infrastructureID, hsame.deviceID, hsame.identityRevision]
  simp (disch := assumption) only [appendField_of_fits, ok_bind]
  simp only [Identity.sessionTranscript, hbody, hfingerprint, hcontroller, hinfrastructure,
    Option.getD_some]
  rfl

omit hformat in
/-- The origin that passes is the one the Controller writes for itself. -/
theorem validateOrigin_eq {raw host : Bytes} {port : Nat}
    (h : validateOrigin crates raw host port = .ok ()) :
    raw = text "https://" ++ host ++ text ":" ++ decimal port := by
  unfold validateOrigin at h
  split at h
  · cases h
  · split at h
    · cases h
    · rename_i hpassed
      simp only [not_or, not_not] at hpassed
      exact hpassed.2.2.2.2.2.2.2.2

omit hformat in
/-- A challenge carries what the transaction says of the key it replaces. -/
theorem challengeResponse_current (format : Int → Bytes) {transaction : Identity.IdentityTransaction}
    (h : transaction.Current) :
    currentOf transaction.mode.name (challengeResponse format transaction).currentRecoverySalt =
      .ok transaction.currentRecoverySalt ∧
    currentOf transaction.mode.name
      (challengeResponse format transaction).currentRecoveryPublicKey =
      .ok transaction.currentRecoveryPublicKey ∧
    (challengeResponse format transaction).currentRecoveryEpoch =
      transaction.currentRecoveryEpoch := by
  have henrollment : WindowMode.enrollment.name ≠ text "recovery" := by decide
  have hrecovery : WindowMode.recovery.name = text "recovery" := rfl
  unfold Identity.IdentityTransaction.Current at h
  unfold challengeResponse currentOf
  cases hmode : transaction.mode with
  | enrollment =>
      rw [hmode] at h
      obtain ⟨hsalt, hepoch, hkey⟩ := h
      simp only [henrollment, if_false, hsalt, hepoch, hkey, and_self]
  | recovery =>
      rw [hmode] at h
      obtain ⟨hsalt, hkey⟩ := h
      simp only [hrecovery, if_true, decodeRawUrl32_encode hsalt, decodeRawUrl32_encode hkey,
        and_self]

omit hformat in
/-- What a challenge says in every mode. -/
theorem challengeResponse_common (format : Int → Bytes) (transaction : Identity.IdentityTransaction) :
    (challengeResponse format transaction).transactionID = transaction.transactionID ∧
    (challengeResponse format transaction).deviceID = transaction.deviceID ∧
    (challengeResponse format transaction).challenge = encodeRawURL transaction.challenge.1 ∧
    (challengeResponse format transaction).createdAt = format transaction.created ∧
    (challengeResponse format transaction).expiresAt = format transaction.expires ∧
    (challengeResponse format transaction).nextRecoverySalt =
      encodeRawURL transaction.nextRecoverySalt.1 ∧
    (challengeResponse format transaction).nextRecoveryEpoch = transaction.nextRecoveryEpoch := by
  unfold challengeResponse
  cases transaction.mode <;> exact ⟨rfl, rfl, rfl, rfl, rfl, rfl, rfl⟩

omit hformat in
theorem temporaryOrigin_of_validated {raw : Bytes}
    (h : validateOrigin crates raw (controllerServerName state.infrastructureID) 9444 = .ok ()) :
    raw = Identity.temporaryOrigin state := by
  have hport : text ":" ++ decimal 9444 = text ":9444" := by decide
  rw [validateOrigin_eq h, List.append_assoc, hport]
  rfl

omit hformat in
theorem methodRoute_eq (mode : WindowMode) :
    text "PUT /v0/" ++ mode.name = Identity.methodRoute mode := by
  cases mode <;> decide

include hformat in
theorem identityTranscript_agrees {past : AuthorityState} {earlier : Int → Bool} {checked : Int}
    (hpast : Identity.validateAuthorityState earlier past checked = true)
    (hstate : Identity.validateAuthorityState pki state now = true)
    {mode : WindowMode} {requestID : Bytes} {draws : Identity.TransactionDraws} {begun : Int}
    {transaction : Identity.IdentityTransaction}
    (htransaction : Identity.newTransaction past mode requestID draws begun = some transaction)
    {input : PairingInput} (hmode : input.mode = transaction.mode.name)
    (hcontroller : input.controllerID = state.controllerID)
    (hinfrastructure : input.infrastructureID = state.infrastructureID)
    (horigin : validateOrigin crates input.temporaryOrigin
      (controllerServerName input.infrastructureID) 9444 = .ok ())
    (hwindow : Identity.canonicalRawURLBytes input.windowID 16 = true)
    (csrDer : Bytes) {humanPublic nextRecoveryPublic : Bytes}
    (hhuman : humanPublic.length = 32) (hnext : nextRecoveryPublic.length = 32) :
    identityTranscript input (challengeResponse format transaction) transaction.requestID csrDer
        humanPublic nextRecoveryPublic =
      .ok (Identity.identityTranscript format state input.windowID transaction csrDer humanPublic
        nextRecoveryPublic) := by
  have hfits := Identity.identitySubject_fits hformat (Identity.controllerID_canonical hstate)
    (Identity.infrastructureID_canonical hstate) (Identity.canonicalRawURLBytes_length_le hwindow)
    (Identity.newTransaction_bounded htransaction) csrDer hhuman hnext
  have hcurrent := Identity.newTransaction_current hpast htransaction
  have horigin' := temporaryOrigin_of_validated (hinfrastructure ▸ horigin)
  have hroute := methodRoute_eq transaction.mode
  simp only [Subject.Fits, Subject.items, Identity.IdentitySubject.items, Identity.identitySubject,
    List.all_cons, List.all_nil, Item.fits, Bool.true_and, Bool.and_true, Bool.and_eq_true,
    decide_eq_true_eq] at hfits
  obtain ⟨h1, h2, h3, h4, h5, h6, h7, h8, h9, h10, h11, h12, h13, h14, h15, h16, h17, h18⟩ := hfits
  unfold identityTranscript
  rw [hmode, hcontroller, hinfrastructure, horigin', hroute]
  obtain ⟨hsalt, hkey, hepoch⟩ := challengeResponse_current format hcurrent
  obtain ⟨hid, hdevice, hchallenge, hcreated, hexpires, hnextSalt, hnextEpoch⟩ :=
    challengeResponse_common format transaction
  rw [hsalt, hkey, hepoch, hid, hdevice, hchallenge, hcreated, hexpires, hnextSalt, hnextEpoch]
  simp only [decodeRawUrl32_encode transaction.challenge.2,
    decodeRawUrl32_encode transaction.nextRecoverySalt.2, ok_bind]
  simp (disch := assumption) only [appendField_of_fits, ok_bind]
  rfl

end Agreement

/-! ## Separation -/

namespace Sample

def infrastructureID : Bytes := text "00000000-0000-4000-8000-000000000002"

def controllerID : Bytes := text "00000000-0000-4000-8000-000000000001"

def deviceID : Bytes := text "00000000-0000-4000-8000-000000000003"

def certificatePem : Bytes :=
  text "-----BEGIN CERTIFICATE-----\n" ++
    text "MIIBbTCCAR+gAwIBAgIBKjAFBgMrZXAwDDEKMAgGA1UEAwwBYzAeFw0yNjExMTkw\n" ++
    text "MjIzMTJaFw0yNzExMTkwMjIzMTJaMAwxCjAIBgNVBAMMAWQwKjAFBgMrZXADIQDj\n" ++
    text "xqPLCSshOO5u+vaqgQCUSgyjEPxUhs48R2AvEGnlLaOBpTCBojAMBgNVHRMBAf8E\n" ++
    text "AjAAMA4GA1UdDwEB/wQEAwIHgDATBgNVHSUEDDAKBggrBgEFBQcDAjBtBgNVHREE\n" ++
    text "ZjBkhmJ1cm46eW91ci1jbG91ZDpkZXZpY2U6djE6MDAwMDAwMDAtMDAwMC00MDAw\n" ++
    text "LTgwMDAtMDAwMDAwMDAwMDAyOjAwMDAwMDAwLTAwMDAtNDAwMC04MDAwLTAwMDAw\n" ++
    text "MDAwMDAwMzAFBgMrZXADQQDF/S/Uq5g/YN5jv2rD3s5Rfo3I0YRUh6E8ZuH3fIjV\n" ++
    text "IR0l+wnvmTxEjxTP/CuwUlhUPBTZRZC1KCSF1Fx8iq4M\n" ++
    text "-----END CERTIFICATE-----\n"

def certificateHex : Bytes :=
  text "3082016d3082011fa00302010202012a300506032b6570300c310a300806035504030c0163301e17" ++
    text "0d3236313131393032323331325a170d3237313131393032323331325a300c310a30080603550403" ++
    text "0c0164302a300506032b6570032100e3c6a3cb092b2138ee6efaf6aa8100944a0ca310fc5486ce3c" ++
    text "47602f1069e52da381a53081a2300c0603551d130101ff04023000300e0603551d0f0101ff040403" ++
    text "02078030130603551d25040c300a06082b06010505070302306d0603551d1104663064866275726e" ++
    text "3a796f75722d636c6f75643a6465766963653a76313a30303030303030302d303030302d34303030" ++
    text "2d383030302d3030303030303030303030323a30303030303030302d303030302d343030302d3830" ++
    text "30302d303030303030303030303033300506032b6570034100c5fd2fd4ab983f60de63bf6ac3dece" ++
    text "517e8dc8d1845487a13c66e1f77c88d5211d25fb09ef993c448f14cffc2bb05258543c14d94590b5" ++
    text "282485d45c7c8aae0c"

def certificateDer : Bytes := (hexDecode certificateHex).getD []

def seed : Bytes := (decodeRawURL (text "UD0zGRD8Zxnpq1ZwQM_CXqWiKu-_yNtp7oGu9uPbJxs") 32).getD []

def humanPublicKey : Bytes := text "MkgJlvrCH9Ka2T0yh_-HAMUhecpG4zCgCkxQ-Dqg4KY"

/-- What the crates make of the sample's values. -/
def crates : Crates where
  parseX509Pem pem :=
    if pem = certificatePem then some ⟨[], text "CERTIFICATE", certificateDer⟩ else none
  parseX509Certificate der :=
    if der = certificateDer then
      some ⟨[], some (some [.uri (Identity.deviceURI infrastructureID deviceID)])⟩
    else none
  parseUrl url :=
    if url = text "https://" ++ controllerServerName infrastructureID ++ text ":9443" then
      some ⟨text "https", [], none, some (controllerServerName infrastructureID), some 9443,
        text "/", none, none⟩
    else if url = text "https://" ++ controllerServerName infrastructureID ++ text ":9444" then
      some ⟨text "https", [], none, some (controllerServerName infrastructureID), some 9444,
        text "/", none, none⟩
    else none
  parseUuid value := if Approval.canonicalUUIDv4 value then some ⟨4, value⟩ else none
  parseRfc3339 value :=
    if value = text "2027-11-19T02:23:12Z" then some 1826590992000000000 else none
  verifyingKey s := if s = seed then (decodeRawURL humanPublicKey 32).getD [] else s

/-- A message is its own signature by the key that stands before it. -/
def sign (s message : Bytes) : Bytes := crates.verifyingKey s ++ message

def verify (key message signature : Bytes) : Bool := signature = key ++ message

def asked : Int := 1796083200000000000

def format (t : Int) : Bytes :=
  if t = asked then text "2026-12-01T00:00:00Z" else text "2026-12-01T00:02:00Z"

def recoverySalt : Bytes := text "AAECAwQFBgcICQoLDA0ODxAREhMUFRYXGBkaGxwdHh8"

def recoveryPublicKey : Bytes := text "puCgOvhQTAqgMONGynkhxQCH_4cyPdma0h_C-pYJSDI"

def device : DeviceRecord :=
  ⟨deviceID, text "2a", sha256Hex certificateDer, humanPublicKey, recoverySalt, 3,
    recoveryPublicKey, .active⟩

def state : AuthorityState := ⟨controllerID, infrastructureID, 5, some device, [], []⟩

def association : AssociationRecord :=
  { summary := ⟨controllerID, infrastructureID, none,
      text "https://" ++ controllerServerName infrastructureID ++ text ":9443", text "active",
      some (text "2027-11-19T02:23:12Z")⟩
    deviceID := deviceID
    serverCaPem := []
    serverSpkiSha256 := []
    devicePrivateKeyPem := []
    deviceCertificatePem := certificatePem
    humanPrivateSeed := encodeRawURL seed
    identityRevision := 5
    recoverySalt := recoverySalt
    recoveryEpoch := 3
    pendingMode := none
    pendingTransactionID := none
    pendingDevicePrivateKeyPem := none
    pendingDeviceCertificatePem := none
    pendingCertificateExpiresAt := none }

def certificate : Identity.Certificate :=
  ⟨certificateDer, false, true, Identity.keyUsageDigitalSignature,
    [Identity.extKeyUsageClientAuth], [], 1795054992000000000, 1826590992000000000,
    [Identity.deviceURI infrastructureID deviceID], [], [], [], text "2a"⟩

def drawn (size : Nat) (b : UInt8) : Fixed size := ⟨List.replicate size b, List.length_replicate⟩

def mutation : RecoveryKeyMutationRequest :=
  ⟨1, encodeRawURL (drawn 16 9).1, 4, encodeRawURL (drawn 32 10).1, encodeRawURL (drawn 32 11).1⟩

def received : Identity.RecoveryKeyMutation :=
  ⟨mutation.schemaVersion, mutation.operationID, mutation.nextRecoveryEpoch,
    mutation.nextRecoverySalt, mutation.nextRecoveryPublicKey⟩

def challenge : Identity.SessionChallenge :=
  ⟨⟨1, text "open_session", text "POST", text "/v0/session", encodeRawURL (drawn 32 12).1⟩,
    encodeRawURL (drawn 16 13).1, drawn 32 14, asked, asked + Identity.challengeLifetime, device,
    Identity.certificateFingerprint certificate, 5⟩

def draws : Identity.TransactionDraws :=
  ⟨drawn 16 15, ⟨text "00000000-0000-4000-8000-000000000004", by decide⟩, drawn 32 16,
    drawn 32 17⟩

def transaction : Identity.IdentityTransaction :=
  ⟨.recovery, encodeRawURL (drawn 16 18).1, encodeRawURL (drawn 16 15).1, draws.deviceID.1,
    drawn 32 16, asked, asked + Identity.challengeLifetime, drawn 32 17, 4,
    (decodeRawURL recoverySalt 32).getD [], 3, (decodeRawURL recoveryPublicKey 32).getD []⟩

def input : PairingInput :=
  ⟨text "recovery", [], text "https://" ++ controllerServerName infrastructureID ++ text ":9444",
    controllerID, infrastructureID, [], [], encodeRawURL (drawn 16 19).1, [], []⟩

theorem validated : validatePersistedAssociation crates association = .ok () := by
  decide +kernel

theorem state_valid : Identity.validateAuthorityState (fun _ => true) state asked = true := by
  decide +kernel

theorem challenge_given :
    Identity.newChallenge state certificate
      ⟨1, text "open_session", text "POST", text "/v0/session", encodeRawURL (drawn 32 12).1⟩
      (drawn 16 13) (drawn 32 14) asked = some challenge := by
  decide +kernel

theorem transaction_begun :
    Identity.newTransaction state .recovery (encodeRawURL (drawn 16 18).1) draws asked =
      some transaction := by
  decide

theorem same_identity : SameIdentity crates association state device := by
  have hder : pemCertificateDer crates certificatePem = .ok certificateDer := by decide +kernel
  have hseed : humanSigningKey association = .ok seed := by decide
  have hkey : encodeRawURL (crates.verifyingKey seed) = humanPublicKey := by decide
  refine ⟨rfl, rfl, rfl, rfl, ?_, ?_, rfl, rfl, rfl⟩
  · intro der h
    rw [← Except.ok.inj (hder.symm.trans h)]
    rfl
  · intro s h
    rw [← Except.ok.inj (hseed.symm.trans h)]
    exact hkey

end Sample

end YourCloud.App
