import YourCloud.Identity.Authority

/-!
# What an identity signature covers

A human or a recovery key signs one of three transcripts: the one of a new
identity, the one of a human session or sensitive operation, and the one of a
recovery key.  A transcript is a domain and framed items; what it is about is a
subject, and a subject can be read back from its transcript.

The Controller builds its transcripts from its own state, from the challenge it
gave out and from the request it verifies.

## Main results

* `Subject.transcript_injective` — transcripts of subjects whose lengths fit are
  equal only where the subjects are, across the three kinds.
* `Verified.subject_unique` — bytes the Controller verifies a signature over are
  verified for one subject only.
-/

namespace YourCloud.Identity

open YourCloud.Foundation
open YourCloud.Approval (canonicalUUIDv4)

/-! ## Subjects -/

structure IdentitySubject where
  mode : Bytes
  temporaryOrigin : Bytes
  methodRoute : Bytes
  windowID : Bytes
  requestID : Bytes
  transactionID : Bytes
  controllerID : Bytes
  infrastructureID : Bytes
  deviceID : Bytes
  challenge : Bytes
  created : Bytes
  expires : Bytes
  currentRecoverySalt : Bytes
  currentRecoveryEpoch : UInt64
  nextRecoverySalt : Bytes
  nextRecoveryEpoch : UInt64
  csrDigest : Bytes
  humanPublic : Bytes
  currentRecoveryPublicKey : Bytes
  nextRecoveryPublic : Bytes
  deriving DecidableEq, Repr

structure SessionSubject where
  purpose : Bytes
  targetMethod : Bytes
  targetRoute : Bytes
  bodyDigest : Bytes
  controllerID : Bytes
  infrastructureID : Bytes
  deviceID : Bytes
  fingerprint : Bytes
  humanPublicKey : Bytes
  challengeID : Bytes
  challenge : Bytes
  created : Bytes
  expires : Bytes
  identityRevision : UInt64
  deriving DecidableEq, Repr

structure RecoveryKeySubject where
  operationID : Bytes
  controllerID : Bytes
  infrastructureID : Bytes
  deviceID : Bytes
  fingerprint : Bytes
  recoverySalt : Bytes
  recoveryEpoch : UInt64
  recoveryPublicKey : Bytes
  nextRecoverySalt : Bytes
  nextRecoveryEpoch : UInt64
  nextRecoveryPublicKey : Bytes
  deriving DecidableEq, Repr

/-- What a signature is about. -/
inductive Subject where
  | identity (subject : IdentitySubject)
  | session (subject : SessionSubject)
  | recoveryKey (subject : RecoveryKeySubject)
  deriving DecidableEq, Repr

def identityTranscriptDomain : Bytes := text "your-cloud/identity-transcript.v1" ++ [0]

def humanSessionDomain : Bytes := text "your-cloud/human-session.v1" ++ [0]

def recoveryKeyDomain : Bytes := text "your-cloud/recovery-key-rotation.v1" ++ [0]

def IdentitySubject.items (s : IdentitySubject) : List Item :=
  [.field s.mode, .field s.temporaryOrigin, .field s.methodRoute, .field s.windowID,
    .field s.requestID, .field s.transactionID, .field s.controllerID,
    .field s.infrastructureID, .field s.deviceID, .field s.challenge, .field s.created,
    .field s.expires, .field s.currentRecoverySalt, .number s.currentRecoveryEpoch,
    .field s.nextRecoverySalt, .number s.nextRecoveryEpoch, .field s.csrDigest,
    .field s.humanPublic, .field s.currentRecoveryPublicKey, .field s.nextRecoveryPublic]

def SessionSubject.items (s : SessionSubject) : List Item :=
  [.field s.purpose, .field s.targetMethod, .field s.targetRoute, .field s.bodyDigest,
    .field s.controllerID, .field s.infrastructureID, .field s.deviceID, .field s.fingerprint,
    .field s.humanPublicKey, .field s.challengeID, .field s.challenge, .field s.created,
    .field s.expires, .number s.identityRevision]

def RecoveryKeySubject.items (s : RecoveryKeySubject) : List Item :=
  [.field s.operationID, .field s.controllerID, .field s.infrastructureID, .field s.deviceID,
    .field s.fingerprint, .field s.recoverySalt, .number s.recoveryEpoch,
    .field s.recoveryPublicKey, .field s.nextRecoverySalt, .number s.nextRecoveryEpoch,
    .field s.nextRecoveryPublicKey]

inductive Kind where
  | identity
  | session
  | recoveryKey
  deriving DecidableEq, Repr

def Kind.domain : Kind → Bytes
  | identity => identityTranscriptDomain
  | session => humanSessionDomain
  | recoveryKey => recoveryKeyDomain

/-- No domain begins another one. -/
theorem Kind.eq_of_prefix {k l : Kind} (h : k.domain <+: l.domain) : k = l := by
  revert h
  cases k <;> cases l <;> decide

namespace Subject

def kind : Subject → Kind
  | identity _ => .identity
  | session _ => .session
  | recoveryKey _ => .recoveryKey

def items : Subject → List Item
  | identity s => s.items
  | session s => s.items
  | recoveryKey s => s.items

def transcript (subject : Subject) : Bytes := subject.kind.domain ++ frame subject.items

/-- The length of every item fits its prefix. -/
def Fits (subject : Subject) : Prop := subject.items.all Item.fits = true

/-- The items of a kind determine its subject. -/
theorem items_injective {s t : Subject} (hkind : s.kind = t.kind)
    (h : s.items = t.items) : s = t := by
  cases s with
  | identity s =>
      cases t with
      | identity t =>
          cases s; cases t
          simp only [items, IdentitySubject.items, List.cons.injEq, Item.field.injEq,
            Item.number.injEq, and_true] at h
          simp only [identity.injEq, IdentitySubject.mk.injEq]
          exact h
      | session t => cases hkind
      | recoveryKey t => cases hkind
  | session s =>
      cases t with
      | identity t => cases hkind
      | session t =>
          cases s; cases t
          simp only [items, SessionSubject.items, List.cons.injEq, Item.field.injEq,
            Item.number.injEq, and_true] at h
          simp only [session.injEq, SessionSubject.mk.injEq]
          exact h
      | recoveryKey t => cases hkind
  | recoveryKey s =>
      cases t with
      | identity t => cases hkind
      | session t => cases hkind
      | recoveryKey t =>
          cases s; cases t
          simp only [items, RecoveryKeySubject.items, List.cons.injEq, Item.field.injEq,
            Item.number.injEq, and_true] at h
          simp only [recoveryKey.injEq, RecoveryKeySubject.mk.injEq]
          exact h

/-- The kinds of the items are those of the subject. -/
theorem items_isField {s t : Subject} (hkind : s.kind = t.kind) :
    s.items.map Item.isField = t.items.map Item.isField := by
  cases s <;> cases t <;> first | rfl | cases hkind

theorem transcript_injective {s t : Subject} (hs : s.Fits) (ht : t.Fits)
    (h : s.transcript = t.transcript) : s = t := by
  have hkind : s.kind = t.kind := by
    cases domain_prefix h with
    | inl hprefix => exact Kind.eq_of_prefix hprefix
    | inr hprefix => exact (Kind.eq_of_prefix hprefix).symm
  have hframe : frame s.items = frame t.items := by
    unfold transcript at h
    rw [hkind] at h
    exact List.append_cancel_left h
  exact items_injective hkind (frame_injective (items_isField hkind) hs ht hframe)

end Subject

/-! ## What the Controller verifies -/

/-- The two windows an identity is made in. -/
inductive WindowMode where
  | enrollment
  | recovery
  deriving DecidableEq, Repr

def WindowMode.name : WindowMode → Bytes
  | enrollment => text "enrollment"
  | recovery => text "recovery"

/-- Two minutes. -/
def challengeLifetime : Int := 120000000000

/-- Bytes of a fixed number, such as a random value. -/
abbrev Fixed (size : Nat) := { value : Bytes // value.length = size }

structure IdentityTransaction where
  mode : WindowMode
  requestID : Bytes
  transactionID : Bytes
  deviceID : Bytes
  challenge : Fixed 32
  created : Int
  expires : Int
  nextRecoverySalt : Fixed 32
  nextRecoveryEpoch : UInt64
  currentRecoverySalt : Bytes
  currentRecoveryEpoch : UInt64
  currentRecoveryPublicKey : Bytes
  deriving DecidableEq

/-- What a transaction draws. -/
structure TransactionDraws where
  transactionID : Fixed 16
  deviceID : { value : Bytes // canonicalUUIDv4 value = true }
  challenge : Fixed 32
  nextRecoverySalt : Fixed 32

/-- The transaction a window begins: the recovery key it will replace is the one
of the active device. -/
def newTransaction (state : AuthorityState) (mode : WindowMode) (requestID : Bytes)
    (draws : TransactionDraws) (now : Int) : Option IdentityTransaction := do
  if !canonicalRawURLBytes requestID 16 then none
  match mode with
  | .enrollment =>
      return ⟨mode, requestID, encodeRawURL draws.transactionID.1, draws.deviceID.1,
        draws.challenge, now, now + challengeLifetime, draws.nextRecoverySalt, 1, [], 0, []⟩
  | .recovery =>
      let active ← state.active
      if active.recoveryEpoch = UInt64.ofNat (2 ^ 64 - 1) then none
      let currentRecoverySalt := (decodeRawURL active.recoverySalt 32).getD []
      let currentRecoveryPublicKey :=
        (decodeRawURL active.recoveryPublicKey publicKeySize).getD []
      return ⟨mode, requestID, encodeRawURL draws.transactionID.1, draws.deviceID.1,
        draws.challenge, now, now + challengeLifetime, draws.nextRecoverySalt,
        active.recoveryEpoch + 1, currentRecoverySalt, active.recoveryEpoch,
        currentRecoveryPublicKey⟩

section Controller

-- The canonical spelling of a time.
variable (format : Int → Bytes)

def appendTranscriptField (buffer value : Bytes) : Bytes :=
  buffer ++ bigEndian 4 value.length ++ value

def appendUint64 (buffer : Bytes) (n : UInt64) : Bytes := buffer ++ bigEndian 8 n.toNat

def temporaryOrigin (state : AuthorityState) : Bytes :=
  text "https://" ++ controllerServerName state.infrastructureID ++ text ":9444"

def methodRoute : WindowMode → Bytes
  | .enrollment => text "PUT /v0/enrollment"
  | .recovery => text "PUT /v0/recovery"

def identityTranscript (state : AuthorityState) (windowID : Bytes)
    (transaction : IdentityTransaction) (csrDER humanPublic nextRecoveryPublic : Bytes) : Bytes :=
  let buffer := identityTranscriptDomain
  let buffer := appendTranscriptField buffer transaction.mode.name
  let buffer := appendTranscriptField buffer (temporaryOrigin state)
  let buffer := appendTranscriptField buffer (methodRoute transaction.mode)
  let buffer := appendTranscriptField buffer windowID
  let buffer := appendTranscriptField buffer transaction.requestID
  let buffer := appendTranscriptField buffer transaction.transactionID
  let buffer := appendTranscriptField buffer state.controllerID
  let buffer := appendTranscriptField buffer state.infrastructureID
  let buffer := appendTranscriptField buffer transaction.deviceID
  let buffer := appendTranscriptField buffer transaction.challenge.1
  let buffer := appendTranscriptField buffer (format transaction.created)
  let buffer := appendTranscriptField buffer (format transaction.expires)
  let buffer := appendTranscriptField buffer transaction.currentRecoverySalt
  let buffer := appendUint64 buffer transaction.currentRecoveryEpoch
  let buffer := appendTranscriptField buffer transaction.nextRecoverySalt.1
  let buffer := appendUint64 buffer transaction.nextRecoveryEpoch
  let buffer := appendTranscriptField buffer (sha256 csrDER)
  let buffer := appendTranscriptField buffer humanPublic
  let buffer := appendTranscriptField buffer transaction.currentRecoveryPublicKey
  appendTranscriptField buffer nextRecoveryPublic

structure SessionChallengeRequest where
  schemaVersion : Int
  purpose : Bytes
  targetMethod : Bytes
  targetRoute : Bytes
  bodySHA256 : Bytes
  deriving DecidableEq, Repr

/-- The method and the route of a purpose. -/
def expectedTarget (purpose : Bytes) : Option (Bytes × Bytes) :=
  if purpose = text "open_session" then some (text "POST", text "/v0/session")
  else if purpose = text "rotate_device" then some (text "PUT", text "/v0/device-rotations")
  else if purpose = text "rotate_recovery_key" then some (text "PUT", text "/v0/recovery-key")
  else none

def validateSessionChallengeRequest (request : SessionChallengeRequest) : Bool :=
  request.schemaVersion = 1 && canonicalRawURLBytes request.bodySHA256 32 &&
    expectedTarget request.purpose = some (request.targetMethod, request.targetRoute)

structure SessionChallenge where
  request : SessionChallengeRequest
  id : Bytes
  value : Fixed 32
  created : Int
  expires : Int
  device : DeviceRecord
  fingerprint : Bytes
  identityRevision : UInt64
  deriving DecidableEq

/-- The challenge given to a device that presented its certificate. -/
def newChallenge (state : AuthorityState) (certificate : Certificate)
    (request : SessionChallengeRequest) (id : Fixed 16) (value : Fixed 32) (now : Int) :
    Option SessionChallenge := do
  let device ← authorizeActive state certificate now
  if !validateSessionChallengeRequest request then none
  return ⟨request, encodeRawURL id.1, value, now, now + challengeLifetime, device,
    certificateFingerprint certificate, state.identityRevision⟩

def sessionTranscript (state : AuthorityState) (challenge : SessionChallenge) : Bytes :=
  let buffer := humanSessionDomain
  let buffer := appendTranscriptField buffer challenge.request.purpose
  let buffer := appendTranscriptField buffer challenge.request.targetMethod
  let buffer := appendTranscriptField buffer challenge.request.targetRoute
  let bodyDigest := (decodeRawURL challenge.request.bodySHA256 32).getD []
  let buffer := appendTranscriptField buffer bodyDigest
  let buffer := appendTranscriptField buffer state.controllerID
  let buffer := appendTranscriptField buffer state.infrastructureID
  let buffer := appendTranscriptField buffer challenge.device.deviceID
  let buffer := appendTranscriptField buffer challenge.fingerprint
  let buffer := appendTranscriptField buffer challenge.device.humanPublicKey
  let buffer := appendTranscriptField buffer challenge.id
  let buffer := appendTranscriptField buffer challenge.value.1
  let buffer := appendTranscriptField buffer (format challenge.created)
  let buffer := appendTranscriptField buffer (format challenge.expires)
  appendUint64 buffer challenge.identityRevision

structure RecoveryKeyMutation where
  schemaVersion : Int
  operationID : Bytes
  nextRecoveryEpoch : UInt64
  nextRecoverySalt : Bytes
  nextRecoveryPublicKey : Bytes
  deriving DecidableEq, Repr

/-- What a rotation of the recovery key is refused for at once. -/
def RecoveryKeyMutation.validate (mutation : RecoveryKeyMutation) : Bool :=
  mutation.schemaVersion = 1 && canonicalRawURLBytes mutation.operationID 16 &&
    canonicalRawURLBytes mutation.nextRecoverySalt 32 &&
    canonicalRawURLBytes mutation.nextRecoveryPublicKey publicKeySize &&
    mutation.nextRecoveryEpoch != 0

def recoveryKeyTranscript (state : AuthorityState) (active : DeviceRecord)
    (mutation : RecoveryKeyMutation) : Bytes :=
  let buffer := recoveryKeyDomain
  let buffer := appendTranscriptField buffer mutation.operationID
  let buffer := appendTranscriptField buffer state.controllerID
  let buffer := appendTranscriptField buffer state.infrastructureID
  let buffer := appendTranscriptField buffer active.deviceID
  let buffer := appendTranscriptField buffer active.certificateSHA256
  let buffer := appendTranscriptField buffer active.recoverySalt
  let buffer := appendUint64 buffer active.recoveryEpoch
  let buffer := appendTranscriptField buffer active.recoveryPublicKey
  let buffer := appendTranscriptField buffer mutation.nextRecoverySalt
  let buffer := appendUint64 buffer mutation.nextRecoveryEpoch
  appendTranscriptField buffer mutation.nextRecoveryPublicKey

/-! ### Their subjects -/

def identitySubject (state : AuthorityState) (windowID : Bytes)
    (transaction : IdentityTransaction) (csrDER humanPublic nextRecoveryPublic : Bytes) :
    IdentitySubject where
  mode := transaction.mode.name
  temporaryOrigin := temporaryOrigin state
  methodRoute := methodRoute transaction.mode
  windowID
  requestID := transaction.requestID
  transactionID := transaction.transactionID
  controllerID := state.controllerID
  infrastructureID := state.infrastructureID
  deviceID := transaction.deviceID
  challenge := transaction.challenge.1
  created := format transaction.created
  expires := format transaction.expires
  currentRecoverySalt := transaction.currentRecoverySalt
  currentRecoveryEpoch := transaction.currentRecoveryEpoch
  nextRecoverySalt := transaction.nextRecoverySalt.1
  nextRecoveryEpoch := transaction.nextRecoveryEpoch
  csrDigest := sha256 csrDER
  humanPublic
  currentRecoveryPublicKey := transaction.currentRecoveryPublicKey
  nextRecoveryPublic

def sessionSubject (state : AuthorityState) (challenge : SessionChallenge) : SessionSubject where
  purpose := challenge.request.purpose
  targetMethod := challenge.request.targetMethod
  targetRoute := challenge.request.targetRoute
  bodyDigest := (decodeRawURL challenge.request.bodySHA256 32).getD []
  controllerID := state.controllerID
  infrastructureID := state.infrastructureID
  deviceID := challenge.device.deviceID
  fingerprint := challenge.fingerprint
  humanPublicKey := challenge.device.humanPublicKey
  challengeID := challenge.id
  challenge := challenge.value.1
  created := format challenge.created
  expires := format challenge.expires
  identityRevision := challenge.identityRevision

def recoveryKeySubject (state : AuthorityState) (active : DeviceRecord)
    (mutation : RecoveryKeyMutation) : RecoveryKeySubject where
  operationID := mutation.operationID
  controllerID := state.controllerID
  infrastructureID := state.infrastructureID
  deviceID := active.deviceID
  fingerprint := active.certificateSHA256
  recoverySalt := active.recoverySalt
  recoveryEpoch := active.recoveryEpoch
  recoveryPublicKey := active.recoveryPublicKey
  nextRecoverySalt := mutation.nextRecoverySalt
  nextRecoveryEpoch := mutation.nextRecoveryEpoch
  nextRecoveryPublicKey := mutation.nextRecoveryPublicKey

theorem appendTranscriptField_frame (domain value : Bytes) (items : List Item) :
    appendTranscriptField (domain ++ frame items) value =
      domain ++ frame (items ++ [.field value]) := by
  simp [appendTranscriptField, frame, Item.write, List.append_assoc]

theorem appendUint64_frame (domain : Bytes) (n : UInt64) (items : List Item) :
    appendUint64 (domain ++ frame items) n = domain ++ frame (items ++ [.number n]) := by
  simp [appendUint64, frame, Item.write, List.append_assoc]

theorem identityTranscript_eq (state : AuthorityState) (windowID : Bytes)
    (transaction : IdentityTransaction) (csrDER humanPublic nextRecoveryPublic : Bytes) :
    identityTranscript format state windowID transaction csrDER humanPublic nextRecoveryPublic =
      (Subject.identity (identitySubject format state windowID transaction csrDER humanPublic
        nextRecoveryPublic)).transcript := by
  have hdomain : identityTranscriptDomain = identityTranscriptDomain ++ frame [] :=
    (List.append_nil _).symm
  unfold identityTranscript
  rw [hdomain]
  simp only [appendTranscriptField_frame, appendUint64_frame, List.nil_append, List.cons_append]
  rfl

theorem sessionTranscript_eq (state : AuthorityState) (challenge : SessionChallenge) :
    sessionTranscript format state challenge =
      (Subject.session (sessionSubject format state challenge)).transcript := by
  have hdomain : humanSessionDomain = humanSessionDomain ++ frame [] := (List.append_nil _).symm
  unfold sessionTranscript
  rw [hdomain]
  simp only [appendTranscriptField_frame, appendUint64_frame, List.nil_append, List.cons_append]
  rfl

theorem recoveryKeyTranscript_eq (state : AuthorityState) (active : DeviceRecord)
    (mutation : RecoveryKeyMutation) :
    recoveryKeyTranscript state active mutation =
      (Subject.recoveryKey (recoveryKeySubject state active mutation)).transcript := by
  have hdomain : recoveryKeyDomain = recoveryKeyDomain ++ frame [] := (List.append_nil _).symm
  unfold recoveryKeyTranscript
  rw [hdomain]
  simp only [appendTranscriptField_frame, appendUint64_frame, List.nil_append, List.cons_append]
  rfl

end Controller

/-! ### Their lengths -/

/-- The texts of a transaction are short. -/
structure IdentityTransaction.Bounded (transaction : IdentityTransaction) : Prop where
  requestID : transaction.requestID.length ≤ 32
  transactionID : transaction.transactionID.length ≤ 32
  deviceID : transaction.deviceID.length = 36
  currentRecoverySalt : transaction.currentRecoverySalt.length ≤ 32
  currentRecoveryPublicKey : transaction.currentRecoveryPublicKey.length ≤ 32

theorem newTransaction_bounded {state : AuthorityState} {mode : WindowMode} {requestID : Bytes}
    {draws : TransactionDraws} {now : Int} {transaction : IdentityTransaction}
    (h : newTransaction state mode requestID draws now = some transaction) :
    transaction.Bounded := by
  have hid : (encodeRawURL draws.transactionID.1).length ≤ 32 := by
    have hle := encodeRawURL_length_le draws.transactionID.1
    rwa [draws.transactionID.2] at hle
  have hdevice : draws.deviceID.1.length = 36 :=
    Approval.canonicalUUIDv4_length draws.deviceID.2
  unfold newTransaction at h
  by_cases hrequest : canonicalRawURLBytes requestID 16 = true
  case neg => simp [hrequest] at h
  have hrequestID := canonicalRawURLBytes_length_le hrequest
  cases mode with
  | enrollment =>
      simp only [hrequest, Bool.not_true, Bool.false_eq_true, if_false, Option.pure_def,
        Option.bind_eq_bind, Option.some.injEq] at h
      subst h
      exact ⟨hrequestID, hid, hdevice, Nat.zero_le _, Nat.zero_le _⟩
  | recovery =>
      simp only [hrequest, Bool.not_true, Bool.false_eq_true, if_false, Option.pure_def,
        Option.bind_eq_bind, Option.bind_eq_some_iff] at h
      obtain ⟨active, -, h⟩ := h
      split at h
      · cases h
      · rw [← Option.some.inj h]
        exact ⟨hrequestID, hid, hdevice, decodeRawURL_getD_length_le .., decodeRawURL_getD_length_le ..⟩

/-- What a transaction says of the recovery key it replaces. -/
def IdentityTransaction.Current (transaction : IdentityTransaction) : Prop :=
  match transaction.mode with
  | .enrollment => transaction.currentRecoverySalt = [] ∧ transaction.currentRecoveryEpoch = 0 ∧
      transaction.currentRecoveryPublicKey = []
  | .recovery => transaction.currentRecoverySalt.length = 32 ∧
      transaction.currentRecoveryPublicKey.length = 32

theorem newTransaction_current {pki : Int → Bool} {state : AuthorityState} {checked : Int}
    (hstate : validateAuthorityState pki state checked = true) {mode : WindowMode}
    {requestID : Bytes} {draws : TransactionDraws} {now : Int} {transaction : IdentityTransaction}
    (h : newTransaction state mode requestID draws now = some transaction) :
    transaction.Current := by
  unfold newTransaction at h
  by_cases hrequest : canonicalRawURLBytes requestID 16 = true
  case neg => simp [hrequest] at h
  cases mode with
  | enrollment =>
      simp only [hrequest, Bool.not_true, Bool.false_eq_true, if_false, Option.pure_def,
        Option.bind_eq_bind, Option.some.injEq] at h
      subst h
      exact ⟨rfl, rfl, rfl⟩
  | recovery =>
      simp only [hrequest, Bool.not_true, Bool.false_eq_true, if_false, Option.pure_def,
        Option.bind_eq_bind, Option.bind_eq_some_iff] at h
      obtain ⟨active, hactive, h⟩ := h
      have hvalid := active_valid hstate hactive
      simp only [validateDeviceRecord, Bool.and_eq_true] at hvalid
      obtain ⟨salt, hsalt⟩ := Option.isSome_iff_exists.1 hvalid.1.1.2
      obtain ⟨key, hkey⟩ := Option.isSome_iff_exists.1 hvalid.2
      split at h
      · cases h
      · rw [← Option.some.inj h]
        show ((decodeRawURL active.recoverySalt 32).getD []).length = 32 ∧
          ((decodeRawURL active.recoveryPublicKey publicKeySize).getD []).length = 32
        rw [hsalt, hkey]
        exact ⟨(decodeRawURL_eq_some.1 hsalt).1, (decodeRawURL_eq_some.1 hkey).1⟩

/-- The target of a purpose is short. -/
theorem validateSessionChallengeRequest_bounded {request : SessionChallengeRequest}
    (h : validateSessionChallengeRequest request = true) :
    request.purpose.length ≤ 19 ∧ request.targetMethod.length ≤ 4 ∧
      request.targetRoute.length ≤ 20 := by
  simp only [validateSessionChallengeRequest, Bool.and_eq_true, decide_eq_true_eq] at h
  obtain ⟨-, htarget⟩ := h
  unfold expectedTarget at htarget
  split at htarget
  · rename_i hpurpose
    obtain ⟨hmethod, hroute⟩ := Prod.mk.inj (Option.some.inj htarget)
    rw [hpurpose, ← hmethod, ← hroute]
    decide
  · split at htarget
    · rename_i hpurpose
      obtain ⟨hmethod, hroute⟩ := Prod.mk.inj (Option.some.inj htarget)
      rw [hpurpose, ← hmethod, ← hroute]
      decide
    · split at htarget
      · rename_i hpurpose
        obtain ⟨hmethod, hroute⟩ := Prod.mk.inj (Option.some.inj htarget)
        rw [hpurpose, ← hmethod, ← hroute]
        decide
      · cases htarget

/-- A challenge is given to the active device, with its certificate, for the
request it asked with. -/
theorem newChallenge_eq_some {state : AuthorityState} {certificate : Certificate}
    {request : SessionChallengeRequest} {id : Fixed 16} {value : Fixed 32} {now : Int}
    {challenge : SessionChallenge}
    (h : newChallenge state certificate request id value now = some challenge) :
    ∃ device, authorizeActive state certificate now = some device ∧
      validateSessionChallengeRequest request = true ∧
      challenge = ⟨request, encodeRawURL id.1, value, now, now + challengeLifetime, device,
        certificateFingerprint certificate, state.identityRevision⟩ := by
  unfold newChallenge at h
  by_cases hrequest : validateSessionChallengeRequest request = true
  case neg => simp [hrequest] at h
  simp only [hrequest, Bool.not_true, Bool.false_eq_true, if_false, Option.pure_def,
    Option.bind_eq_bind, Option.bind_eq_some_iff, Option.some.injEq] at h
  obtain ⟨device, hdevice, rfl⟩ := h
  exact ⟨device, hdevice, hrequest, rfl⟩

section Lengths

variable {format : Int → Bytes} (hformat : ∀ t, (format t).length < 2 ^ 32)
variable {state : AuthorityState}
variable (hcontroller : canonicalUUIDv4 state.controllerID = true)
variable (hinfrastructure : canonicalUUIDv4 state.infrastructureID = true)

include hcontroller hinfrastructure

include hformat in
theorem identitySubject_fits {windowID : Bytes} (hwindow : windowID.length ≤ 32)
    {transaction : IdentityTransaction} (h : transaction.Bounded) (csrDER : Bytes)
    {humanPublic nextRecoveryPublic : Bytes} (hhuman : humanPublic.length = publicKeySize)
    (hnext : nextRecoveryPublic.length = publicKeySize) :
    (Subject.identity (identitySubject format state windowID transaction csrDER humanPublic
      nextRecoveryPublic)).Fits := by
  have hmode : transaction.mode.name.length ≤ 10 := by
    cases transaction.mode <;> decide
  have hroute : (methodRoute transaction.mode).length ≤ 18 := by
    cases transaction.mode <;> decide
  have horigin : (temporaryOrigin state).length ≤ 80 := by
    have hid := Approval.canonicalUUIDv4_length hinfrastructure
    have hhead : (text "https://").length = 8 := by decide
    have hport : (text ":9444").length = 5 := by decide
    have hname : (text "controller.").length = 11 := by decide
    have hdomain : (text ".your-cloud.test").length = 16 := by decide
    simp only [temporaryOrigin, controllerServerName, List.length_append]
    omega
  have hids := Approval.canonicalUUIDv4_length hcontroller
  have hinfra := Approval.canonicalUUIDv4_length hinfrastructure
  have hchallenge := transaction.challenge.2
  have hsalt := transaction.nextRecoverySalt.2
  obtain ⟨hrequest, hid, hdevice, hcurrentSalt, hcurrentKey⟩ := h
  simp only [Subject.Fits, Subject.items, IdentitySubject.items, identitySubject, List.all_cons,
    List.all_nil, Item.fits, Bool.true_and, Bool.and_true, Bool.and_eq_true, decide_eq_true_eq,
    sha256_length, publicKeySize] at hhuman hnext ⊢
  have hcreated := hformat transaction.created
  have hexpires := hformat transaction.expires
  omega

include hformat in
theorem sessionSubject_fits {past : AuthorityState} {pki : Int → Bool} {checked now : Int}
    (hpast : validateAuthorityState pki past checked = true) {certificate : Certificate}
    {request : SessionChallengeRequest} {id : Fixed 16} {value : Fixed 32}
    {challenge : SessionChallenge}
    (h : newChallenge past certificate request id value now = some challenge) :
    (Subject.session (sessionSubject format state challenge)).Fits := by
  obtain ⟨device, hdevice, hrequest, rfl⟩ := newChallenge_eq_some h
  obtain ⟨hactive, hpresented⟩ := authorizeActive_eq_some.1 hdevice
  have hvalid := active_valid hpast hactive
  obtain ⟨hdeviceID, hfingerprint, hhuman, -, -⟩ := validateDeviceRecord_bounded hvalid
  have hpresented := fingerprint_of_presented hvalid hpresented
  have hids := Approval.canonicalUUIDv4_length hcontroller
  have hinfra := Approval.canonicalUUIDv4_length hinfrastructure
  have hid := encodeRawURL_length_le id.1
  have hidLength := id.2
  have hvalue := value.2
  have hbody := decodeRawURL_getD_length_le request.bodySHA256 32
  obtain ⟨hpurpose, hmethod, hroute⟩ := validateSessionChallengeRequest_bounded hrequest
  simp only [Subject.Fits, Subject.items, SessionSubject.items, sessionSubject, List.all_cons,
    List.all_nil, Item.fits, Bool.and_true, Bool.and_eq_true, decide_eq_true_eq, hpresented]
  have hcreated := hformat now
  have hexpires := hformat (now + challengeLifetime)
  omega

omit hinfrastructure hcontroller in
theorem recoveryKeySubject_fits {pki : Int → Bool} {now : Int}
    (hstate : validateAuthorityState pki state now = true) {active : DeviceRecord}
    (hactive : state.active = some active) {mutation : RecoveryKeyMutation}
    (h : mutation.validate = true) :
    (Subject.recoveryKey (recoveryKeySubject state active mutation)).Fits := by
  have hids := Approval.canonicalUUIDv4_length (controllerID_canonical hstate)
  have hinfra := Approval.canonicalUUIDv4_length (infrastructureID_canonical hstate)
  obtain ⟨hdeviceID, hfingerprint, -, hsalt, hkey⟩ :=
    validateDeviceRecord_bounded (active_valid hstate hactive)
  simp only [RecoveryKeyMutation.validate, Bool.and_eq_true] at h
  have hoperation := canonicalRawURLBytes_length_le h.1.1.1.2
  have hnextSalt := canonicalRawURLBytes_length_le h.1.1.2
  have hnextKey := canonicalRawURLBytes_length_le h.1.2
  simp only [Subject.Fits, Subject.items, RecoveryKeySubject.items, recoveryKeySubject,
    List.all_cons, List.all_nil, Item.fits, Bool.true_and, Bool.and_true, Bool.and_eq_true,
    decide_eq_true_eq, publicKeySize] at hnextKey ⊢
  omega

end Lengths

/-! ### What a signature is verified over -/

section Verification

variable (format : Int → Bytes)

/-- The Controller verifies a signature of the subject over these bytes: an
identity in the window its transaction was begun for, an operation with the
challenge the active device was given, or a recovery key against the active
one. -/
inductive Verified : Subject → Bytes → Prop
  | identity {pki : Int → Bool} {past state : AuthorityState} {begun now : Int}
      {mode : WindowMode} {requestID windowID : Bytes} {draws : TransactionDraws}
      {transaction : IdentityTransaction} {csrDER humanPublic nextRecoveryPublic : Bytes}
      (hstate : validateAuthorityState pki state now = true)
      (htransaction : newTransaction past mode requestID draws begun = some transaction)
      (hwindow : canonicalRawURLBytes windowID 16 = true)
      (hhuman : humanPublic.length = publicKeySize)
      (hnext : nextRecoveryPublic.length = publicKeySize) :
      Verified
        (.identity (identitySubject format state windowID transaction csrDER humanPublic
          nextRecoveryPublic))
        (identityTranscript format state windowID transaction csrDER humanPublic
          nextRecoveryPublic)
  | session {earlier pki : Int → Bool} {past state : AuthorityState} {checked asked now : Int}
      {certificate : Certificate} {request : SessionChallengeRequest} {id : Fixed 16}
      {value : Fixed 32} {challenge : SessionChallenge}
      (hpast : validateAuthorityState earlier past checked = true)
      (hstate : validateAuthorityState pki state now = true)
      (hchallenge : newChallenge past certificate request id value asked = some challenge) :
      Verified (.session (sessionSubject format state challenge))
        (sessionTranscript format state challenge)
  | recoveryKey {pki : Int → Bool} {state : AuthorityState} {now : Int} {active : DeviceRecord}
      {mutation : RecoveryKeyMutation}
      (hstate : validateAuthorityState pki state now = true)
      (hactive : state.active = some active) (hmutation : mutation.validate = true) :
      Verified (.recoveryKey (recoveryKeySubject state active mutation))
        (recoveryKeyTranscript state active mutation)

variable {format} (hformat : ∀ t, (format t).length < 2 ^ 32)

theorem Verified.transcript_eq {subject : Subject} {message : Bytes}
    (h : Verified format subject message) : message = subject.transcript := by
  cases h with
  | identity => exact identityTranscript_eq ..
  | session => exact sessionTranscript_eq ..
  | recoveryKey => exact recoveryKeyTranscript_eq ..

include hformat

theorem Verified.fits {subject : Subject} {message : Bytes}
    (h : Verified format subject message) : subject.Fits := by
  cases h with
  | identity hstate htransaction hwindow hhuman hnext =>
      exact identitySubject_fits hformat (controllerID_canonical hstate)
        (infrastructureID_canonical hstate) (canonicalRawURLBytes_length_le hwindow)
        (newTransaction_bounded htransaction) _ hhuman hnext
  | session hpast hstate hchallenge =>
      exact sessionSubject_fits hformat (controllerID_canonical hstate)
        (infrastructureID_canonical hstate) hpast hchallenge
  | recoveryKey hstate hactive hmutation =>
      exact recoveryKeySubject_fits hstate hactive hmutation

/-- Bytes that are verified are verified for one subject. -/
theorem Verified.subject_unique {s t : Subject} {message : Bytes}
    (hs : Verified format s message) (ht : Verified format t message) : s = t := by
  apply Subject.transcript_injective (hs.fits hformat) (ht.fits hformat)
  rw [← hs.transcript_eq, ← ht.transcript_eq]

end Verification

end YourCloud.Identity
