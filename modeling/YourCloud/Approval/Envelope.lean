import YourCloud.Foundation.Framing
import YourCloud.Foundation.JsonText

/-!
# The approval envelope

What a human signs, and the one strict reader of it.  Every field of an
approval is inside the transcript the signature covers; the transcript is
rebuilt from the fields that were read, never from the received bytes.

A decoded approval is a value of `SignedApproval`, which carries the proof that
its envelope passed `validate`: a caller that holds one may assume every field
is inside its own bounds.

## Main results

* `canonicalUUIDv4_word`, `canonicalMachine_word` — the canonical identities
  are words, which every writer of this development spells as themselves.
* `SignedApproval.sequence_pos`, `SignedApproval.sequence_lt` — the bounds a
  decoded sequence has.
-/

namespace YourCloud.Approval

open YourCloud.Foundation

/-- The one envelope version that is read. -/
def schemaVersion : Int := 1

/-- It separates this signature from every other transcript of the same key. -/
def transcriptDomain : Bytes := text "your-cloud/approval-envelope.v1" ++ [0]

def digestBytes : Nat := 32

def maxSignedApprovalBytes : Nat := 1024

def maxLifetimeSeconds : Nat := 900

def maxPrivileges : Nat := 2

/-- The sizes of a key and of a signature. -/
def publicKeySize : Nat := 32

def signatureSize : Nat := 64

/-! ## Operations and privileges -/

/-- The closed list of operations an envelope may name. -/
inductive Operation where
  | diagnoseProtocolReadOnly
  | deployOCIProbe
  | removeOCIProbe
  | deployWebService
  | removeWebService
  | deployEntrypoint
  | removeEntrypoint
  | publishRoute
  | retireRoute
  | prepareLink
  | withdrawLink
  | attachLinkPeer
  | detachLinkPeer
  | joinLinkPeer
  | leaveLinkPeer
  | deployPrivateService
  | removePrivateService
  | publishLinkRoute
  | retireLinkRoute
  | snapshotService
  | discardSnapshot
  | restoreService
  | deployUserService
  | removeUserService
  deriving DecidableEq, Repr

namespace Operation

/-- How a document spells an operation. -/
def name : Operation → Bytes
  | diagnoseProtocolReadOnly => text "diagnose_protocol_read_only"
  | deployOCIProbe => text "deploy_oci_probe"
  | removeOCIProbe => text "remove_oci_probe"
  | deployWebService => text "deploy_web_service"
  | removeWebService => text "remove_web_service"
  | deployEntrypoint => text "deploy_entrypoint"
  | removeEntrypoint => text "remove_entrypoint"
  | publishRoute => text "publish_route"
  | retireRoute => text "retire_route"
  | prepareLink => text "prepare_link"
  | withdrawLink => text "withdraw_link"
  | attachLinkPeer => text "attach_link_peer"
  | detachLinkPeer => text "detach_link_peer"
  | joinLinkPeer => text "join_link_peer"
  | leaveLinkPeer => text "leave_link_peer"
  | deployPrivateService => text "deploy_private_service"
  | removePrivateService => text "remove_private_service"
  | publishLinkRoute => text "publish_link_route"
  | retireLinkRoute => text "retire_link_route"
  | snapshotService => text "snapshot_service"
  | discardSnapshot => text "discard_snapshot"
  | restoreService => text "restore_service"
  | deployUserService => text "deploy_user_service"
  | removeUserService => text "remove_user_service"

def all : List Operation :=
  [diagnoseProtocolReadOnly, deployOCIProbe, removeOCIProbe, deployWebService,
    removeWebService, deployEntrypoint, removeEntrypoint, publishRoute, retireRoute,
    prepareLink, withdrawLink, attachLinkPeer, detachLinkPeer, joinLinkPeer, leaveLinkPeer,
    deployPrivateService, removePrivateService, publishLinkRoute, retireLinkRoute,
    snapshotService, discardSnapshot, restoreService, deployUserService, removeUserService]

/-- The operation a spelling names. -/
def ofName (s : Bytes) : Option Operation := all.find? fun operation => operation.name = s

theorem ofName_name (operation : Operation) : ofName operation.name = some operation := by
  cases operation <;> decide

theorem name_word (operation : Operation) : Word operation.name := by
  cases operation <;> decide

/-- The spelling an operation was read from is its own. -/
theorem name_of_ofName {s : Bytes} {operation : Operation} (h : ofName s = some operation) :
    s = operation.name := by
  have := List.find?_some h
  exact (of_decide_eq_true this).symm

end Operation

/-- The closed privilege set. -/
inductive Privilege where
  | readLocalState
  | mutateLocalState
  deriving DecidableEq, Repr

def Privilege.name : Privilege → Bytes
  | readLocalState => text "read_local_state"
  | mutateLocalState => text "mutate_local_state"

def Privilege.ofName (s : Bytes) : Option Privilege :=
  [Privilege.readLocalState, .mutateLocalState].find? fun privilege => privilege.name = s

/-- The exact list each operation must carry. -/
def requiredPrivileges : Operation → List Privilege
  | .diagnoseProtocolReadOnly => [.readLocalState]
  | _ => [.mutateLocalState, .readLocalState]

/-- The closed list of operations that may reach a mutating acceptance. -/
def mutatingOperation : Operation → Bool
  | .diagnoseProtocolReadOnly => false
  | _ => true

/-! ## Canonical identities -/

/-- The class of one byte. -/
def only (c b : UInt8) : Bool := b = c

/-- `[89ab]` -/
def isVariant (b : UInt8) : Bool := b = 0x38 || b = 0x39 || b = 0x61 || b = 0x62

/-- `^[0-9a-f]{8}-[0-9a-f]{4}-4[0-9a-f]{3}-[89ab][0-9a-f]{3}-[0-9a-f]{12}$` -/
def uuidClasses : List (UInt8 → Bool) :=
  List.replicate 8 isLowerHex ++ only 0x2D :: List.replicate 4 isLowerHex ++
    only 0x2D :: only 0x34 :: List.replicate 3 isLowerHex ++
    only 0x2D :: isVariant :: List.replicate 3 isLowerHex ++
    only 0x2D :: List.replicate 12 isLowerHex

def canonicalUUIDv4 (s : Bytes) : Bool := matchesEach uuidClasses s

/-- `^[0-9a-f]{64}$` -/
def canonicalDigest (s : Bytes) : Bool := exactly 64 isLowerHex s

/-- `^[a-z0-9][a-z0-9-]{2,62}$` -/
def canonicalMachine : Bytes → Bool
  | [] => false
  | b :: rest =>
      (isLower b || isDigit b) && rest.all (fun c => isLower c || isDigit c || c = 0x2D) &&
        decide (2 ≤ rest.length ∧ rest.length ≤ 62)

theorem isDigit_word {b : UInt8} (h : isDigit b = true) : isWord b = true := by
  simp [isWord, h]

theorem isLower_word {b : UInt8} (h : isLower b = true) : isWord b = true := by
  simp [isWord, h]

theorem isLowerHex_word {b : UInt8} (h : isLowerHex b = true) : isWord b = true := by
  rw [isLowerHex, Bool.or_eq_true] at h
  rcases h with h | h
  · exact isDigit_word h
  · refine isLower_word ?_
    simp only [isLower, Bool.and_eq_true, decide_eq_true_eq] at h ⊢
    exact ⟨h.1, UInt8.le_trans h.2 (by decide)⟩

theorem canonicalUUIDv4_word {s : Bytes} (h : canonicalUUIDv4 s = true) : Word s := by
  have honly : ∀ c : UInt8, isWord c = true → ∀ b, only c b = true → isWord b = true := by
    intro c hc b hb
    rwa [of_decide_eq_true hb]
  have hvariant : ∀ b, isVariant b = true → isWord b = true := by
    intro b hb
    simp only [isVariant, Bool.or_eq_true, decide_eq_true_eq] at hb
    rcases hb with ((rfl | rfl) | rfl) | rfl <;> decide
  refine matchesEach_forall h ?_
  simp only [uuidClasses, List.mem_append, List.mem_cons, List.mem_replicate]
  intro cls hcls
  rcases hcls with (((⟨-, rfl⟩ | rfl | ⟨-, rfl⟩) | rfl | rfl | ⟨-, rfl⟩) |
    rfl | rfl | ⟨-, rfl⟩) | rfl | ⟨-, rfl⟩
  all_goals first
    | exact fun b hb => isLowerHex_word hb
    | exact hvariant
    | exact honly _ (by decide)

theorem canonicalDigest_word {s : Bytes} (h : canonicalDigest s = true) : Word s := by
  rw [canonicalDigest, exactly, Bool.and_eq_true, List.all_eq_true] at h
  exact fun b hb => isLowerHex_word (h.2 b hb)

theorem canonicalMachine_word {s : Bytes} (h : canonicalMachine s = true) : Word s := by
  cases s with
  | nil => cases h
  | cons b rest =>
      simp only [canonicalMachine, Bool.and_eq_true, List.all_eq_true] at h
      obtain ⟨⟨hb, hrest⟩, -⟩ := h
      intro c hc
      rcases List.mem_cons.1 hc with rfl | hc
      · rcases Bool.or_eq_true_iff.1 hb with hb | hb
        · exact isLower_word hb
        · exact isDigit_word hb
      · have := hrest c hc
        simp only [Bool.or_eq_true, decide_eq_true_eq] at this
        rcases this with (hl | hd) | rfl
        · exact isLower_word hl
        · exact isDigit_word hd
        · decide

theorem base64Letter_word (n : Nat) : isWord (base64Letter n) = true := by
  have hlow : ∀ k, k < 64 → isWord (base64Letter k) = true := by decide
  by_cases h : n < 64
  · exact hlow n h
  · rw [base64Letter, if_neg (by omega), if_neg (by omega), if_neg (by omega), if_neg (by omega)]
    decide

theorem canonicalUUIDv4_length {s : Bytes} (h : canonicalUUIDv4 s = true) : s.length = 36 :=
  matchesEach_length h

theorem canonicalMachine_length {s : Bytes} (h : canonicalMachine s = true) :
    s.length ≤ 63 := by
  cases s with
  | nil => cases h
  | cons b rest =>
      simp only [canonicalMachine, Bool.and_eq_true, decide_eq_true_eq] at h
      rw [List.length_cons]
      omega

/-! ## The envelope -/

/-- Exactly what the App signed. -/
structure Envelope where
  schemaVersion : Int
  infrastructureID : Bytes
  machineID : Bytes
  approvalEpoch : Nat
  sequence : Nat
  operation : Operation
  planSHA256 : Bytes
  rollbackSHA256 : Bytes
  privileges : List Privilege
  issuedAtUnix : Nat
  expiresAtUnix : Nat
  approvalPublicKey : Bytes
  deriving DecidableEq, Repr

/-- Whether a list of names is strictly increasing in byte order. -/
def strictlyIncreasing : List Bytes → Bool
  | [] => true
  | [_] => true
  | a :: b :: rest => decide (a < b) && strictlyIncreasing (b :: rest)

namespace Envelope

/-- The exact canonical list the operation declares. -/
def validatePrivileges (envelope : Envelope) : Bool :=
  decide (envelope.privileges.length ≠ 0 ∧ envelope.privileges.length ≤ maxPrivileges) &&
    strictlyIncreasing (envelope.privileges.map Privilege.name) &&
    decide (envelope.privileges = requiredPrivileges envelope.operation)

/-- Every field inside its own bounds.  The two counters are unsigned words, so
their type bounds them from above. -/
def validate (envelope : Envelope) : Bool :=
  decide (envelope.schemaVersion = Approval.schemaVersion) &&
    canonicalUUIDv4 envelope.infrastructureID &&
    canonicalMachine envelope.machineID &&
    decide (envelope.approvalEpoch ≠ 0 ∧ envelope.approvalEpoch < 2 ^ 64) &&
    decide (envelope.sequence ≠ 0 ∧ envelope.sequence < 2 ^ 64) &&
    canonicalDigest envelope.planSHA256 &&
    canonicalDigest envelope.rollbackSHA256 &&
    envelope.validatePrivileges &&
    decide (envelope.issuedAtUnix ≠ 0 ∧ envelope.issuedAtUnix < envelope.expiresAtUnix) &&
    decide (envelope.expiresAtUnix - envelope.issuedAtUnix ≤ maxLifetimeSeconds) &&
    (decodeRawURL envelope.approvalPublicKey publicKeySize).isSome

/-- Whether the envelope asks for anything that could change the machine. -/
def isMutating (envelope : Envelope) : Bool :=
  envelope.privileges.any fun privilege => privilege = .mutateLocalState

/-! ## The transcript -/

def appendUint32 (buffer : Bytes) (n : Nat) : Bytes := buffer ++ bigEndian 4 n

def appendUint64 (buffer : Bytes) (n : Nat) : Bytes := buffer ++ bigEndian 8 n

def appendField (buffer value : Bytes) : Bytes :=
  appendUint32 buffer value.length ++ value

/-- The exact bytes the App signed. -/
def signingTranscript (envelope : Envelope) : Option Bytes := do
  let publicKey ← decodeRawURL envelope.approvalPublicKey publicKeySize
  let plan ← (hexDecode envelope.planSHA256).filter fun plan => plan.length = digestBytes
  let rollback ← (hexDecode envelope.rollbackSHA256).filter fun plan => plan.length = digestBytes
  if envelope.schemaVersion < 0 ∨ 255 < envelope.schemaVersion then none
  let transcript := transcriptDomain ++ [envelope.schemaVersion.toNat.toUInt8]
  let transcript := appendField transcript envelope.infrastructureID
  let transcript := appendField transcript envelope.machineID
  let transcript := appendUint64 transcript envelope.approvalEpoch
  let transcript := appendUint64 transcript envelope.sequence
  let transcript := appendField transcript envelope.operation.name
  let transcript := appendField transcript plan
  let transcript := appendField transcript rollback
  let transcript := appendUint32 transcript envelope.privileges.length
  let transcript := envelope.privileges.foldl
    (fun transcript privilege => appendField transcript privilege.name) transcript
  let transcript := appendUint64 transcript envelope.issuedAtUnix
  let transcript := appendUint64 transcript envelope.expiresAtUnix
  return appendField transcript publicKey

end Envelope

/-! ## The signed approval -/

/-- A signed approval as `decodeSigned` gives it out. -/
structure SignedApproval where
  envelope : Envelope
  signature : Bytes
  validated : envelope.validate = true
  canonicalSignature : (decodeRawURL signature signatureSize).isSome = true
  deriving DecidableEq

def envelopeFields : List Bytes :=
  [text "schema_version", text "infrastructure_id", text "machine_id", text "approval_epoch",
    text "sequence", text "operation", text "plan_sha256", text "rollback_sha256",
    text "privileges", text "issued_at_unix_seconds", text "expires_at_unix_seconds",
    text "approval_public_key"]

def Envelope.read (j : Json) : Option Envelope := do
  let ms ← j.members envelopeFields
  let schemaVersion ← (Json.field ms (text "schema_version")).readInt
  let infrastructureID ← (Json.field ms (text "infrastructure_id")).readString
  let machineID ← (Json.field ms (text "machine_id")).readString
  let approvalEpoch ← (Json.field ms (text "approval_epoch")).readUint64
  let sequence ← (Json.field ms (text "sequence")).readUint64
  let operation ← (Json.field ms (text "operation")).readString
  let planSHA256 ← (Json.field ms (text "plan_sha256")).readString
  let rollbackSHA256 ← (Json.field ms (text "rollback_sha256")).readString
  let privileges ← (Json.field ms (text "privileges")).readStrings
  let issuedAtUnix ← (Json.field ms (text "issued_at_unix_seconds")).readUint64
  let expiresAtUnix ← (Json.field ms (text "expires_at_unix_seconds")).readUint64
  let approvalPublicKey ← (Json.field ms (text "approval_public_key")).readString
  -- A name outside either closed list is what `validatePrivileges` refuses first.
  let operation ← Operation.ofName operation
  let privileges ← privileges.mapM Privilege.ofName
  return { schemaVersion, infrastructureID, machineID, approvalEpoch, sequence, operation,
           planSHA256, rollbackSHA256, privileges, issuedAtUnix, expiresAtUnix,
           approvalPublicKey }

/-- The document of an envelope. -/
def Envelope.json (envelope : Envelope) : Json :=
  .object
    [(text "schema_version", Json.numeralInt envelope.schemaVersion),
      (text "infrastructure_id", Json.quoted true envelope.infrastructureID),
      (text "machine_id", Json.quoted true envelope.machineID),
      (text "approval_epoch", Json.numeral envelope.approvalEpoch),
      (text "sequence", Json.numeral envelope.sequence),
      (text "operation", Json.quoted true envelope.operation.name),
      (text "plan_sha256", Json.quoted true envelope.planSHA256),
      (text "rollback_sha256", Json.quoted true envelope.rollbackSHA256),
      (text "privileges",
        .array (envelope.privileges.map fun privilege => Json.quoted true privilege.name)),
      (text "issued_at_unix_seconds", Json.numeral envelope.issuedAtUnix),
      (text "expires_at_unix_seconds", Json.numeral envelope.expiresAtUnix),
      (text "approval_public_key", Json.quoted true envelope.approvalPublicKey)]

/-- The document of a signed approval. -/
def SignedApproval.json (signed : SignedApproval) : Json :=
  .object
    [(text "envelope", signed.envelope.json), (text "signature", Json.quoted true signed.signature)]

def SignedApproval.read (j : Json) : Option SignedApproval := do
  let ms ← j.members [text "envelope", text "signature"]
  let envelope ← Envelope.read (Json.field ms (text "envelope"))
  let signature ← (Json.field ms (text "signature")).readString
  if h : (decodeRawURL signature signatureSize).isSome = true ∧ envelope.validate = true then
    return ⟨envelope, signature, h.2, h.1⟩
  else none

/-- One bounded, strict, fully validated document. -/
def decodeSigned (document : Bytes) : Option SignedApproval :=
  if document.length = 0 ∨ maxSignedApprovalBytes < document.length then none
  else Json.decode SignedApproval.read document

/-- The instants of a read envelope fit their words. -/
theorem Envelope.read_expires_lt {j : Json} {envelope : Envelope}
    (h : Envelope.read j = some envelope) : envelope.expiresAtUnix < 2 ^ 64 := by
  unfold Envelope.read at h
  obtain ⟨ms, -, h⟩ := Option.bind_eq_some_iff.1 h
  obtain ⟨schemaVersion, -, h⟩ := Option.bind_eq_some_iff.1 h
  obtain ⟨infrastructureID, -, h⟩ := Option.bind_eq_some_iff.1 h
  obtain ⟨machineID, -, h⟩ := Option.bind_eq_some_iff.1 h
  obtain ⟨approvalEpoch, -, h⟩ := Option.bind_eq_some_iff.1 h
  obtain ⟨sequence, -, h⟩ := Option.bind_eq_some_iff.1 h
  obtain ⟨operation, -, h⟩ := Option.bind_eq_some_iff.1 h
  obtain ⟨planSHA256, -, h⟩ := Option.bind_eq_some_iff.1 h
  obtain ⟨rollbackSHA256, -, h⟩ := Option.bind_eq_some_iff.1 h
  obtain ⟨privileges, -, h⟩ := Option.bind_eq_some_iff.1 h
  obtain ⟨issuedAtUnix, -, h⟩ := Option.bind_eq_some_iff.1 h
  obtain ⟨expiresAtUnix, hexpires, h⟩ := Option.bind_eq_some_iff.1 h
  obtain ⟨approvalPublicKey, -, h⟩ := Option.bind_eq_some_iff.1 h
  obtain ⟨operation, -, h⟩ := Option.bind_eq_some_iff.1 h
  obtain ⟨privileges, -, h⟩ := Option.bind_eq_some_iff.1 h
  obtain rfl := Option.some.inj h
  exact Json.readUint64_lt hexpires

theorem decodeSigned_expires_lt {document : Bytes} {signed : SignedApproval}
    (h : decodeSigned document = some signed) : signed.envelope.expiresAtUnix < 2 ^ 64 := by
  unfold decodeSigned at h
  split at h
  · cases h
  obtain ⟨value, -, h⟩ := Option.bind_eq_some_iff.1 h
  split at h
  · obtain ⟨ms, -, h⟩ := Option.bind_eq_some_iff.1 h
    obtain ⟨envelope, henvelope, h⟩ := Option.bind_eq_some_iff.1 h
    obtain ⟨signature, -, h⟩ := Option.bind_eq_some_iff.1 h
    split at h
    · obtain rfl := Option.some.inj h
      exact Envelope.read_expires_lt henvelope
    · cases h
  · cases h

namespace SignedApproval

section Signature

-- The signature scheme: a key, a message and a signature over it.
variable (ed25519Verify : Bytes → Bytes → Bytes → Bool)

/-- The document held against the key the caller decided to trust, which is
never the key the document itself names. -/
def verifySignature (signed : SignedApproval) (anchoredKey : Bytes) : Bool :=
  decide (anchoredKey.length = publicKeySize) &&
    decide (decodeRawURL signed.envelope.approvalPublicKey publicKeySize = some anchoredKey) &&
    match signed.envelope.signingTranscript, decodeRawURL signed.signature signatureSize with
    | some transcript, some signature => ed25519Verify anchoredKey transcript signature
    | _, _ => false

end Signature

/-! ## What a decoded approval is known to be -/

private theorem validate_iff (envelope : Envelope) :
    envelope.validate = true ↔
      envelope.schemaVersion = schemaVersion ∧
      canonicalUUIDv4 envelope.infrastructureID = true ∧
      canonicalMachine envelope.machineID = true ∧
      (envelope.approvalEpoch ≠ 0 ∧ envelope.approvalEpoch < 2 ^ 64) ∧
      (envelope.sequence ≠ 0 ∧ envelope.sequence < 2 ^ 64) ∧
      canonicalDigest envelope.planSHA256 = true ∧
      canonicalDigest envelope.rollbackSHA256 = true ∧
      envelope.validatePrivileges = true ∧
      (envelope.issuedAtUnix ≠ 0 ∧ envelope.issuedAtUnix < envelope.expiresAtUnix) ∧
      envelope.expiresAtUnix - envelope.issuedAtUnix ≤ maxLifetimeSeconds ∧
      (decodeRawURL envelope.approvalPublicKey publicKeySize).isSome = true := by
  simp only [Envelope.validate, Bool.and_eq_true, decide_eq_true_eq, and_assoc]

variable (signed : SignedApproval)

theorem infrastructure_canonical :
    canonicalUUIDv4 signed.envelope.infrastructureID = true :=
  ((validate_iff _).1 signed.validated).2.1

theorem machine_canonical : canonicalMachine signed.envelope.machineID = true :=
  ((validate_iff _).1 signed.validated).2.2.1

theorem epoch_pos : signed.envelope.approvalEpoch ≠ 0 :=
  ((validate_iff _).1 signed.validated).2.2.2.1.1

theorem epoch_lt : signed.envelope.approvalEpoch < 2 ^ 64 :=
  ((validate_iff _).1 signed.validated).2.2.2.1.2

theorem sequence_pos : signed.envelope.sequence ≠ 0 :=
  ((validate_iff _).1 signed.validated).2.2.2.2.1.1

theorem sequence_lt : signed.envelope.sequence < 2 ^ 64 :=
  ((validate_iff _).1 signed.validated).2.2.2.2.1.2

theorem plan_canonical : canonicalDigest signed.envelope.planSHA256 = true :=
  ((validate_iff _).1 signed.validated).2.2.2.2.2.1

theorem rollback_canonical : canonicalDigest signed.envelope.rollbackSHA256 = true :=
  ((validate_iff _).1 signed.validated).2.2.2.2.2.2.1

end SignedApproval

end YourCloud.Approval
