import YourCloud.Identity.Change
import YourCloud.Foundation.Run

/-!
# The pairing manager

The manager holds the one window an identity can be made in and the one
candidate that may become active; the authority and the candidate are two files
it replaces one after the other.  A process that ends loses the window, and the
next one finds the candidate in its file.

Each replacement of a file is atomic, but can fail or be the last step of the
process, before it takes effect or after.

## Main definitions

* `complete`, `activate`, `prepareDeviceRotation`, `rotateRecoveryKey`,
  `revokeActiveDevice` — the operations, as programs over both files and the
  memory of the process.
* `step` — the Controller on one event.
-/

namespace YourCloud.Identity

open YourCloud.Foundation
open YourCloud.Approval (canonicalUUIDv4)

namespace Manager

/-! ## What is exchanged -/

structure IdentityChallengeRequest where
  schemaVersion : Int
  windowID : Bytes
  windowCode : Bytes
  requestID : Bytes
  deriving DecidableEq, Repr

/-- `json.Marshal` -/
def IdentityChallengeRequest.encode (request : IdentityChallengeRequest) : Bytes :=
  (Json.object [(quote true (text "schema_version"), Json.numeralInt request.schemaVersion),
    (quote true (text "window_id"), Json.quoted true request.windowID),
    (quote true (text "window_code"), Json.quoted true request.windowCode),
    (quote true (text "request_id"), Json.quoted true request.requestID)]).render

structure IdentityCompletionRequest where
  schemaVersion : Int
  transactionID : Bytes
  deviceCSR : Bytes
  humanPublicKey : Bytes
  nextRecoveryPublicKey : Bytes
  humanSignature : Bytes
  nextRecoverySignature : Bytes
  currentRecoverySignature : Bytes
  deriving DecidableEq, Repr

/-- `mustJSON`; the last member is left out where it is empty. -/
def IdentityCompletionRequest.encode (request : IdentityCompletionRequest) : Bytes :=
  (Json.object ([(quote true (text "schema_version"), Json.numeralInt request.schemaVersion),
    (quote true (text "transaction_id"), Json.quoted true request.transactionID),
    (quote true (text "device_csr"), Json.quoted true request.deviceCSR),
    (quote true (text "human_public_key"), Json.quoted true request.humanPublicKey),
    (quote true (text "next_recovery_public_key"), Json.quoted true request.nextRecoveryPublicKey),
    (quote true (text "human_signature"), Json.quoted true request.humanSignature),
    (quote true (text "next_recovery_signature"),
      Json.quoted true request.nextRecoverySignature)] ++
    if request.currentRecoverySignature = [] then []
    else [(quote true (text "current_recovery_signature"),
      Json.quoted true request.currentRecoverySignature)])).render

structure IdentityCompletionResponse where
  schemaVersion : Int
  transactionID : Bytes
  deviceID : Bytes
  certificatePEM : Bytes
  expiresAt : Int
  deriving DecidableEq, Repr

structure IdentityActivationResponse where
  schemaVersion : Int
  controllerID : Bytes
  infrastructureID : Bytes
  deviceID : Bytes
  deviceStatus : Status
  certificateExpiresAt : Int
  identityRevision : UInt64
  deriving DecidableEq, Repr

def completionResponse (candidate : PendingCandidate) : IdentityCompletionResponse :=
  ⟨1, candidate.transactionID, candidate.certificate.record.deviceID,
    candidate.certificate.certificatePEM, candidate.certificate.expiresAt⟩

def activationResponse (state : AuthorityState) (active : DeviceRecord) (expires : Int) :
    IdentityActivationResponse :=
  ⟨1, state.controllerID, state.infrastructureID, active.deviceID, .active, expires,
    state.identityRevision⟩

/-! ## The window -/

/-- Ten minutes. -/
def windowLifetime : Int := 600000000000

structure IdentityWindow where
  mode : WindowMode
  id : Bytes
  codeDigest : Bytes
  created : Int
  expires : Int
  failedProofs : Nat
  /-- The transaction, and the digest of the request that began it. -/
  transaction : Option (IdentityTransaction × Bytes)
  deriving DecidableEq

/-- The value of a letter of a window code. -/
def base32Value (b : UInt8) : Option Nat :=
  if 0x41 ≤ b ∧ b ≤ 0x5A then some (b.toNat - 0x41)
  else if 0x32 ≤ b ∧ b ≤ 0x37 then some (b.toNat - 0x32 + 26)
  else none

/-- 26 letters stand for 16 bytes where the two bits left over are zero. -/
def decodeWindowCode (canonical : Bytes) : Option Bytes := do
  let values ← canonical.mapM base32Value
  let value := values.foldl (fun n digit => 32 * n + digit) 0
  require (canonical.length = 26 && value % 4 = 0)
  return bigEndian 16 (value / 4)

def parseWindowCode (raw : Bytes) : Option Bytes := do
  require (raw ≠ [] && raw.length ≤ 64 && raw.all fun b => b ≤ 0x7F)
  let upper := raw.map fun b => if 0x61 ≤ b ∧ b ≤ 0x7A then b - 0x20 else b
  if upper.length = 30 then
    let parts := upper.splitOn 0x2D
    require (parts.map List.length = [5, 5, 5, 5, 6])
    decodeWindowCode parts.flatten
  else
    require (upper.length = 26 && !upper.contains 0x2D)
    decodeWindowCode upper

/-! ## Both files and the memory -/

structure Files where
  authority : AuthorityState
  candidate : Option DurableCandidate
  deriving DecidableEq

/-- What the process holds: the authority as it was last written, the window and
the candidate. -/
structure Memory where
  store : AuthorityState
  window : Option IdentityWindow
  candidate : Option PendingCandidate
  deriving DecidableEq

structure Core extends Memory where
  files : Files
  deriving DecidableEq

namespace Core

def setWindow (core : Core) (window : Option IdentityWindow) : Core := { core with window }

/-- The candidate, in memory and in its file. -/
def setCandidate (core : Core) (candidate : Option PendingCandidate) : Core :=
  { core with
    candidate
    files := { core.files with candidate := candidate.map PendingCandidate.durable } }

/-- The authority, in memory and in its file. -/
def setAuthority (core : Core) (state : AuthorityState) : Core :=
  { core with store := state, files := { core.files with authority := state } }

end Core

/-- What the replacement of a file meets, before it takes effect and after. -/
structure Write where
  before : Verdict
  after : Verdict
  deriving DecidableEq, Repr

/-- A file replaced. -/
def persist (write : Write) (f : Core → Core) : Program Core Unit := do
  .call write.before
  .effect .done f
  .call write.after

def setMemory (f : Core → Core) : Program Core Unit := .effect .done f

/-- The state written, then held. -/
def writeState (write : Write) (state : AuthorityState) : Program Core Unit := do
  persist write fun core => { core with files := { core.files with authority := state } }
  setMemory fun core => { core with store := state }

def removeCandidate (write : Write) : Program Core Unit := do
  .call write.before
  if (← Program.ask fun core => some core.files.candidate.isSome) then
    .effect .done fun core => { core with files := { core.files with candidate := none } }
    .call write.after

section Operations

variable (p : Primitives)

/-- A candidate written where there is none. -/
def persistCandidate (write : Write) (candidate : PendingCandidate) : Program Core Unit := do
  let decoded ← Program.ask fun core => decodeDurableCandidate p candidate.durable core.store
  .check (!decoded.2)
  .check (← Program.ask fun core => some core.files.candidate.isNone)
  persist write fun core =>
    { core with files := { core.files with candidate := some candidate.durable } }

/-- A candidate past its time is removed. -/
def pruneCandidate (write : Write) (now : Int) : Program Core Unit := do
  if (← Program.ask fun core => some (core.candidate.any fun c => c.expires < now)) then
    removeCandidate write
    setMemory fun core => { core with candidate := none }

/-! ### Windows -/

structure WindowDraws where
  windowID : Fixed 16
  code : Fixed 16

def openWindow (prune : Write) (mode : WindowMode) (draws : WindowDraws) (now : Int) :
    Program Core Bytes := do
  pruneCandidate prune now
  .check (← Program.ask fun core => some (core.window.isNone && core.candidate.isNone &&
    match mode with
    | .enrollment => core.store.active.isNone
    | .recovery => core.store.active.isSome))
  let id := encodeRawURL draws.windowID.1
  setMemory fun core =>
    { core with
      window := some ⟨mode, id, sha256 draws.code.1, now, now + windowLifetime, 0, none⟩ }
  return id

/-- The window of a mode, while it is open; one that is not is closed. -/
def currentWindow (mode : WindowMode) (now : Int) : Program Core IdentityWindow := do
  let window ← Program.ask fun core =>
    some (core.window.filter fun w => w.mode = mode && now ≤ w.expires)
  match window with
  | some window => return window
  | none =>
      setMemory fun core => { core with window := none }
      .fail

def validWindow (mode : WindowMode) (windowID windowCode : Bytes) (now : Int) :
    Program Core IdentityWindow := do
  let window ← currentWindow mode now
  let code ← Program.ask fun _ => parseWindowCode windowCode
  .check (window.id = windowID && canonicalRawURLBytes windowID 16)
  .check (sha256 code = window.codeDigest)
  return window

/-- A device identifier that was never given: sixteen are drawn at most. -/
def newDeviceID (state : AuthorityState)
    (drawn : List { value : Bytes // canonicalUUIDv4 value = true }) :
    Option { value : Bytes // canonicalUUIDv4 value = true } :=
  (drawn.take 16).find? fun candidate =>
    (state.active.toList ++ state.revoked).all fun record => record.deviceID ≠ candidate.1

structure BeginDraws where
  transactionID : Fixed 16
  deviceIDs : List { value : Bytes // canonicalUUIDv4 value = true }
  challenge : Fixed 32
  nextRecoverySalt : Fixed 32

/-- `Begin`; the transaction stands for the answer that is rendered from it. -/
def begin (mode : WindowMode) (request : IdentityChallengeRequest) (draws : BeginDraws)
    (now : Int) : Program Core IdentityTransaction := do
  let window ← validWindow mode request.windowID request.windowCode now
  .check (request.schemaVersion = 1 && canonicalRawURLBytes request.requestID 16)
  let digest := sha256 request.encode
  match window.transaction with
  | some (transaction, begun) =>
      .check (transaction.requestID = request.requestID && begun = digest)
      return transaction
  | none =>
      let transaction ← Program.ask fun core => do
        let deviceID ← newDeviceID core.store draws.deviceIDs
        newTransaction core.store mode request.requestID
          ⟨draws.transactionID, deviceID, draws.challenge, draws.nextRecoverySalt⟩ now
      setMemory fun core =>
        { core with window := some { window with transaction := some (transaction, digest) } }
      return transaction

/-- A proof that fails counts; the fifth closes the window. -/
def proofFailed {α : Type} : Program Core α := do
  setMemory fun core =>
    { core with
      window := core.window.bind fun w =>
        if 5 ≤ w.failedProofs + 1 then none else some { w with failedProofs := w.failedProofs + 1 } }
  .fail

/-- What is proved of the keys of a new identity. -/
structure ProvedKeys where
  publicP256 : Bytes
  humanPublic : Bytes
  nextRecoveryPublic : Bytes

/-- The proofs a completion carries, over the one transcript. -/
def verifyCompletion (state : AuthorityState) (window : IdentityWindow)
    (transaction : IdentityTransaction) (request : IdentityCompletionRequest) (now : Int) :
    Option ProvedKeys := do
  require (now ≤ transaction.expires && request.schemaVersion = 1 &&
    request.transactionID = transaction.transactionID)
  let (publicP256, csrDER) ← parseDeviceCSR p request.deviceCSR state.infrastructureID
    transaction.deviceID
  let humanPublic ← decodeFixed request.humanPublicKey publicKeySize
  let nextRecoveryPublic ← decodeFixed request.nextRecoveryPublicKey publicKeySize
  let transcript := identityTranscript p.format state window.id transaction csrDER humanPublic
    nextRecoveryPublic
  let humanSignature ← decodeFixed request.humanSignature 64
  require (p.verify humanPublic transcript humanSignature)
  let nextSignature ← decodeFixed request.nextRecoverySignature 64
  require (p.verify nextRecoveryPublic transcript nextSignature)
  match window.mode with
  | .recovery =>
      let currentSignature ← decodeFixed request.currentRecoverySignature 64
      require (p.verify transaction.currentRecoveryPublicKey transcript currentSignature)
  | .enrollment => require (request.currentRecoverySignature = [])
  return ⟨publicP256, humanPublic, nextRecoveryPublic⟩

/-- A certificate with the keys and the recovery key of its transaction. -/
def completedCertificate (issued : CandidateCertificate) (transaction : IdentityTransaction)
    (keys : ProvedKeys) : CandidateCertificate :=
  { issued with
    record := { issued.record with
      humanPublicKey := encodeRawURL keys.humanPublic
      recoverySalt := encodeRawURL transaction.nextRecoverySalt.1
      recoveryEpoch := transaction.nextRecoveryEpoch
      recoveryPublicKey := encodeRawURL keys.nextRecoveryPublic } }

/-- The candidate of a completed transaction. -/
def completedCandidate (state : AuthorityState) (window : IdentityWindow)
    (transaction : IdentityTransaction) (request : IdentityCompletionRequest) (keys : ProvedKeys)
    (issued : CandidateCertificate) : PendingCandidate where
  transactionID := transaction.transactionID
  mode := window.mode.mode
  previousFingerprint := state.activeFingerprint.getD []
  requestDigest := sha256 request.encode
  certificate := completedCertificate issued transaction keys
  expires := window.expires

def complete (write : Write) (mode : WindowMode) (request : IdentityCompletionRequest)
    (serial : Bytes) (now : Int) : Program Core IdentityCompletionResponse := do
  let begun ← Program.ask fun core =>
    some ((core.window.filter fun w => w.mode = mode && now ≤ w.expires).bind fun w =>
      w.transaction.map fun t => (w, t.1))
  match begun with
  | none =>
      setMemory fun core => { core with window := none }
      .fail
  | some (window, transaction) =>
      let state ← Program.ask fun core => some core.store
      match verifyCompletion p state window transaction request now with
      | none => proofFailed
      | some keys =>
          let issued ← Program.ask fun _ =>
            issueDeviceCertificate p state transaction.deviceID keys.publicP256 serial now
          let candidate := completedCandidate state window transaction request keys issued
          persistCandidate p write candidate
          setMemory fun core => { core with candidate := some candidate, window := none }
          return completionResponse candidate

/-! ### Activation -/

/-- The receipt of an activation made in the last 24 hours. -/
def activationReceipt (state : AuthorityState) (mode : Option Mode) (transactionID : Bytes)
    (requestDigest : Bytes) (now : Int) : Bool :=
  state.receipts.any fun receipt =>
    now - receiptLifetime ≤ receipt.committedAt &&
      mode.all (fun m => receipt.result = m.activated) && receipt.operationID = transactionID &&
      receipt.requestSHA256 = hexEncode requestDigest

/-- The answer to an activation that was committed before. -/
def replayedActivation (state : AuthorityState) (mode : Option Mode) (transactionID : Bytes)
    (certificate : Certificate) (requestDigest : Bytes) (now : Int) :
    Option IdentityActivationResponse := do
  require (activationReceipt state mode transactionID requestDigest now)
  let active ← authorizeActive state certificate now
  return activationResponse state active certificate.notAfter

structure ActivationFaults where
  prune : Write
  state : Write
  removal : Write
  deriving DecidableEq, Repr

def activate (faults : ActivationFaults) (mode : Option Mode) (transactionID : Bytes)
    (certificate : Certificate) (requestDigest : Bytes) (now : Int) :
    Program Core IdentityActivationResponse := do
  pruneCandidate faults.prune now
  let candidate ← Program.ask fun core => some core.candidate
  match candidate with
  | none =>
      .ask fun core =>
        replayedActivation core.store mode transactionID certificate requestDigest now
  | some candidate =>
      .check (mode.all (fun m => candidate.mode = m) && candidate.transactionID = transactionID &&
        now ≤ candidate.expires)
      .check (← Program.ask fun core => some (validatePresentedDevice certificate
        core.store.infrastructureID candidate.certificate.record now))
      let changed ← Program.ask fun core =>
        activateCandidate p core.store candidate requestDigest now
      writeState faults.state changed
      setMemory fun core => { core with candidate := none }
      removeCandidate faults.removal
      .ask fun core =>
        core.store.active.map fun active => activationResponse core.store active certificate.notAfter

/-! ### Rotations and revocation -/

structure RotationFaults where
  prune : Write
  candidate : Write
  deriving DecidableEq, Repr

/-- The candidate for another certificate of the active device. -/
def rotationCandidate (active : DeviceRecord) (rotationID requestDigest : Bytes)
    (issued : CandidateCertificate) (now : Int) : PendingCandidate where
  transactionID := rotationID
  mode := .rotation
  previousFingerprint := active.certificateSHA256
  requestDigest
  certificate :=
    { issued with
      record := { issued.record with
        humanPublicKey := active.humanPublicKey
        recoverySalt := active.recoverySalt
        recoveryEpoch := active.recoveryEpoch
        recoveryPublicKey := active.recoveryPublicKey } }
  expires := now + windowLifetime

/-- Whether a pending candidate is the one of a rotation that is asked for again. -/
def sameRotation (candidate : PendingCandidate) (rotationID requestDigest : Bytes) : Bool :=
  candidate.mode = .rotation && candidate.transactionID = rotationID &&
    candidate.requestDigest = requestDigest

def prepareDeviceRotation (faults : RotationFaults) (rotationID encodedCSR requestDigest : Bytes)
    (serial : Bytes) (now : Int) : Program Core IdentityCompletionResponse := do
  .check (canonicalRawURLBytes rotationID 16)
  pruneCandidate faults.prune now
  let candidate ← Program.ask fun core => some core.candidate
  match candidate with
  | some candidate =>
      .check (sameRotation candidate rotationID requestDigest)
      return completionResponse candidate
  | none =>
      let state ← Program.ask fun core => some core.store
      let active ← Program.ask fun core => core.store.active
      let request ← Program.ask fun _ =>
        parseDeviceCSR p encodedCSR state.infrastructureID active.deviceID
      let issued ← Program.ask fun _ =>
        issueDeviceCertificate p state active.deviceID request.1 serial now
      let candidate := rotationCandidate active rotationID requestDigest issued now
      persistCandidate p faults.candidate candidate
      setMemory fun core => { core with candidate := some candidate }
      return completionResponse candidate

def deviceRotationCandidate (prune : Write) (rotationID requestDigest : Bytes) (now : Int) :
    Program Core (Option IdentityCompletionResponse) := do
  pruneCandidate prune now
  let candidate ← Program.ask fun core => some core.candidate
  match candidate with
  | none => return none
  | some candidate =>
      .check (sameRotation candidate rotationID requestDigest)
      return some (completionResponse candidate)

def rotateRecoveryKey (write : Write) (mutation : RecoveryKeyMutation)
    (requestDigest currentSignature nextSignature : Bytes) (now : Int) :
    Program Core RecoveryKeyRotationResponse := do
  let rotation ← Program.ask fun core =>
    Identity.rotateRecoveryKey p core.store mutation requestDigest currentSignature nextSignature now
  match rotation with
  | .replayed response => return response
  | .changed changed =>
      writeState write changed
      .ask fun core => core.store.active.map fun active =>
        recoveryKeyResponse core.store active mutation.operationID

def revokeActiveDevice (write : Write) (now : Int) : Program Core DeviceRecord := do
  let active ← Program.ask fun core => core.store.active
  let changed ← Program.ask fun core => Identity.revokeActiveDevice p core.store now
  writeState write changed
  return revokeRecord active

/-! ### Starting -/

/-- `OpenAuthorityStore` and `NewPairingManager`: a candidate that was committed is
removed. -/
def start (removal : Write) (now : Int) : Program Core Unit := do
  .check (← Program.ask fun core => some (validateAuthorityState p.pki core.files.authority now))
  let durable ← Program.ask fun core => some core.files.candidate
  match durable with
  | none => return ()
  | some durable =>
      let decoded ← Program.ask fun core => decodeDurableCandidate p durable core.store
      if decoded.2 then removeCandidate removal
      else setMemory fun core => { core with candidate := some decoded.1 }

end Operations

/-! ## The Controller on one event -/

inductive Operation where
  | start (removal : Write)
  /-- The process ends. -/
  | stop
  | openWindow (prune : Write) (mode : WindowMode) (draws : WindowDraws)
  | begin (mode : WindowMode) (request : IdentityChallengeRequest) (draws : BeginDraws)
  | complete (write : Write) (mode : WindowMode) (request : IdentityCompletionRequest)
      (serial : Bytes)
  | activate (faults : ActivationFaults) (mode : Option Mode) (transactionID : Bytes)
      (certificate : Certificate) (requestDigest : Bytes)
  | prepareDeviceRotation (faults : RotationFaults) (rotationID encodedCSR requestDigest : Bytes)
      (serial : Bytes)
  | deviceRotationCandidate (prune : Write) (rotationID requestDigest : Bytes)
  | rotateRecoveryKey (write : Write) (mutation : RecoveryKeyMutation)
      (requestDigest currentSignature nextSignature : Bytes)
  /-- By the process that runs, or as a local command where none does. -/
  | revokeActiveDevice (write : Write)

structure Event where
  now : Int
  operation : Operation

inductive Answer where
  /-- The process ended, or does not run. -/
  | silent
  | refused
  | started
  | opened (windowID : Bytes)
  | begun (transaction : IdentityTransaction)
  | completed (response : IdentityCompletionResponse)
  | activated (response : IdentityActivationResponse)
  | rotation (response : Option IdentityCompletionResponse)
  | recoveryKeyRotated (response : RecoveryKeyRotationResponse)
  | revoked (record : DeviceRecord)
  deriving DecidableEq

structure World where
  files : Files
  memory : Option Memory
  deriving DecidableEq

section Step

variable (p : Primitives)

/-- An operation of a process that runs. -/
def perform (now : Int) : Operation → Program Core Answer
  | .start _ | .stop => .fail
  | .openWindow prune mode draws => Answer.opened <$> openWindow prune mode draws now
  | .begin mode request draws => Answer.begun <$> begin mode request draws now
  | .complete write mode request serial =>
      Answer.completed <$> complete p write mode request serial now
  | .activate faults mode transactionID certificate requestDigest =>
      Answer.activated <$> activate p faults mode transactionID certificate requestDigest now
  | .prepareDeviceRotation faults rotationID encodedCSR requestDigest serial =>
      Answer.completed <$>
        prepareDeviceRotation p faults rotationID encodedCSR requestDigest serial now
  | .deviceRotationCandidate prune rotationID requestDigest =>
      Answer.rotation <$> deviceRotationCandidate prune rotationID requestDigest now
  | .rotateRecoveryKey write mutation requestDigest currentSignature nextSignature =>
      Answer.recoveryKeyRotated <$>
        rotateRecoveryKey p write mutation requestDigest currentSignature nextSignature now
  | .revokeActiveDevice write => Answer.revoked <$> revokeActiveDevice p write now

/-- A process that answers or refuses goes on. -/
def goesOn : Ending Answer × Core → World × Answer
  | (.returned answer, core) => (⟨core.files, some core.toMemory⟩, answer)
  | (.failed, core) => (⟨core.files, some core.toMemory⟩, .refused)
  | (.died, core) => (⟨core.files, none⟩, .silent)

/-- A process that refuses to start ends. -/
def starts : Ending Unit × Core → World × Answer
  | (.returned _, core) => (⟨core.files, some core.toMemory⟩, .started)
  | (.failed, core) => (⟨core.files, none⟩, .refused)
  | (.died, core) => (⟨core.files, none⟩, .silent)

/-- A local command ends with its answer. -/
def ends : Ending DeviceRecord × Core → World × Answer
  | (.returned record, core) => (⟨core.files, none⟩, .revoked record)
  | (.failed, core) => (⟨core.files, none⟩, .refused)
  | (.died, core) => (⟨core.files, none⟩, .silent)

/-- The files as a process that begins finds them. -/
def Files.opened (files : Files) : Core := ⟨⟨files.authority, none, none⟩, files⟩

/-- `controller revoke-device` -/
def revokeCommand (write : Write) (now : Int) : Program Core DeviceRecord := do
  .check (← Program.ask fun core => some (validateAuthorityState p.pki core.store now))
  revokeActiveDevice p write now

def step (world : World) (event : Event) : World × Answer :=
  match event.operation, world.memory with
  | .stop, _ => (⟨world.files, none⟩, .silent)
  | .start removal, _ => starts (start p removal event.now world.files.opened)
  | .revokeActiveDevice write, none =>
      ends (revokeCommand p write event.now world.files.opened)
  | _, none => (world, .silent)
  | operation, some memory => goesOn (perform p event.now operation ⟨memory, world.files⟩)

end Step

end Manager

end YourCloud.Identity
