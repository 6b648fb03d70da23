import YourCloud.Foundation.Table
import YourCloud.Identity.Reopening

/-!
# The session manager

A session is opened with a human signature over a challenge and stands for the
device that opened it.  The manager checks a session whenever an operation uses it,
against the authority as it is then; what a caller holds between two calls is a
context, and nothing is taken from it but what is compared.

Each entry point is one step.  The clock, the random values and the changes of the
authority come with the events.

## Main results

* `operations_let_through` — over every run, what is let through belongs to a session
  that stands, and no challenge is consumed more often than it was issued.
-/

namespace YourCloud.Identity

open YourCloud.Foundation

namespace Sessions

/-! ## What the manager holds -/

/-- `json.Marshal` -/
def requestEncoding (request : SessionChallengeRequest) : Bytes :=
  (Json.object [(quote true (text "schema_version"), Json.numeralInt request.schemaVersion),
    (quote true (text "purpose"), Json.quoted true request.purpose),
    (quote true (text "target_method"), Json.quoted true request.targetMethod),
    (quote true (text "target_route"), Json.quoted true request.targetRoute),
    (quote true (text "body_sha256"), Json.quoted true request.bodySHA256)]).render

/-- A challenge, with the digest of its request and the serial of the certificate it
was asked with. -/
structure PendingChallenge extends SessionChallenge where
  digest : Bytes
  serial : Bytes
  deriving DecidableEq

structure SessionOpenRequest where
  schemaVersion : Int
  challengeID : Bytes
  signature : Bytes
  deriving DecidableEq, Repr

structure SessionContext where
  deviceID : Bytes
  certificateSHA256 : Bytes
  identityRevision : UInt64
  tokenDigest : Bytes
  deriving DecidableEq, Repr

structure ActiveSession where
  tokenDigest : Bytes
  deviceID : Bytes
  certificateSHA256 : Bytes
  certificateSerial : Bytes
  humanPublicKey : Bytes
  controllerID : Bytes
  infrastructureID : Bytes
  identityRevision : UInt64
  created : Int
  lastUsed : Int
  absoluteExpires : Int
  deriving DecidableEq, Repr

structure LoggedOutSession where
  tokenDigest : Bytes
  deviceID : Bytes
  certificateSHA256 : Bytes
  expires : Int
  deriving DecidableEq, Repr

/-- The proofs of a device that failed lately; none blocks where no time is set. -/
structure SignatureFailures where
  deviceID : Bytes
  starts : List Int
  blockedUntil : Option Int
  deriving DecidableEq, Repr

structure ChallengeStarts where
  deviceID : Bytes
  starts : List Int
  deriving DecidableEq, Repr

structure SessionManager where
  challenges : List PendingChallenge
  challengeStarts : List ChallengeStarts
  sessions : List ActiveSession
  loggedOut : List LoggedOutSession
  failures : List SignatureFailures

/-- `NewSessionManager` -/
def SessionManager.new : SessionManager := ⟨[], [], [], [], []⟩

/-- The device and the purpose a challenge is held under. -/
def challengeKey (deviceID purpose : Bytes) : Bytes := deviceID ++ 0 :: purpose

def PendingChallenge.key (challenge : PendingChallenge) : Bytes :=
  challengeKey challenge.device.deviceID challenge.request.purpose

/-- The manager beside the authority it asks. -/
structure World where
  authority : AuthorityState
  manager : SessionManager

namespace World

variable (world : World)

def session (deviceID : Bytes) : Option ActiveSession :=
  Table.find ActiveSession.deviceID deviceID world.manager.sessions

def putSession (session : ActiveSession) : World :=
  { world with
    manager := { world.manager with
      sessions := Table.put ActiveSession.deviceID session world.manager.sessions } }

def dropSession (deviceID : Bytes) : World :=
  { world with
    manager := { world.manager with
      sessions := Table.remove ActiveSession.deviceID deviceID world.manager.sessions } }

/-- `lastUsed = now` -/
def touch (deviceID : Bytes) (now : Int) : World :=
  match world.session deviceID with
  | none => world
  | some session => world.putSession { session with lastUsed := now }

def putChallenge (challenge : PendingChallenge) : World :=
  { world with
    manager := { world.manager with
      challenges := Table.put PendingChallenge.key challenge world.manager.challenges } }

def dropChallenge (challenge : PendingChallenge) : World :=
  { world with
    manager := { world.manager with
      challenges := Table.remove PendingChallenge.key challenge.key world.manager.challenges } }

def setStarts (deviceID : Bytes) (starts : List Int) : World :=
  { world with
    manager := { world.manager with
      challengeStarts :=
        Table.put ChallengeStarts.deviceID ⟨deviceID, starts⟩ world.manager.challengeStarts } }

def setFailures (failures : List SignatureFailures) : World :=
  { world with manager := { world.manager with failures } }

def setLoggedOut (loggedOut : List LoggedOutSession) : World :=
  { world with manager := { world.manager with loggedOut } }

end World

/-! ## What it answers -/

inductive Answer where
  | refused
  /-- The delay of `AuthenticationDelayError`. -/
  | delayed (delay : Int)
  | challenged (challenge : PendingChallenge)
  | opened (session : ActiveSession)
  | authenticated (context : SessionContext)
  | verified
  | accepted
  | loggedOut
  | done
  deriving DecidableEq

/-- An answer, and the challenge that began or ended with it. -/
structure Outcome where
  answer : Answer
  issued : Option PendingChallenge
  consumed : Option PendingChallenge
  deriving DecidableEq

def answered (answer : Answer) : Outcome := ⟨answer, none, none⟩

/-! ## Its entry points -/

/-- 30 minutes. -/
def sessionIdleLifetime : Int := 1800000000000

/-- 8 hours. -/
def sessionAbsoluteLifetime : Int := 28800000000000

def sessionChallengeLimit : Nat := 5

def second : Int := 1000000000

/-- The times from a cutoff on. -/
def retainAfter (values : List Int) (cutoff : Int) : List Int :=
  values.dropWhile fun value => value < cutoff

section EntryPoints

variable (p : Primitives) (world : World) (now : Int)

/-- `contextValidLocked` -/
def contextValid (context : SessionContext) : Bool :=
  (world.session context.deviceID).any fun session =>
    now - session.lastUsed ≤ sessionIdleLifetime && now ≤ session.absoluteExpires &&
      context.deviceID = session.deviceID &&
      context.certificateSHA256 = session.certificateSHA256 &&
      context.identityRevision = session.identityRevision &&
      context.identityRevision = world.authority.identityRevision &&
      session.controllerID = world.authority.controllerID &&
      session.infrastructureID = world.authority.infrastructureID &&
      world.authority.active.any (fun active =>
        active.deviceID = session.deviceID &&
          active.certificateSHA256 = session.certificateSHA256 &&
          active.certificateSerial = session.certificateSerial &&
          active.humanPublicKey = session.humanPublicKey) &&
      session.tokenDigest = context.tokenDigest

/-- Whether a purpose asks for a session. -/
def sensitive (purpose : Bytes) : Bool := purpose ≠ text "open_session"

def startsOf (deviceID : Bytes) : List Int :=
  ((Table.find ChallengeStarts.deviceID deviceID world.manager.challengeStarts).map
    ChallengeStarts.starts).getD []

def failuresOf (deviceID : Bytes) : SignatureFailures :=
  (Table.find SignatureFailures.deviceID deviceID world.manager.failures).getD ⟨deviceID, [], none⟩

def newPendingChallenge (device : DeviceRecord) (certificate : Certificate)
    (request : SessionChallengeRequest) (id : Fixed 16) (value : Fixed 32) : PendingChallenge where
  request
  id := encodeRawURL id.1
  value
  created := now
  expires := now + challengeLifetime
  device
  fingerprint := certificateFingerprint certificate
  identityRevision := world.authority.identityRevision
  digest := sha256 (requestEncoding request)
  serial := certificate.serialNumber

/-- A challenge that a sensitive operation asked for extends its session. -/
def extend (request : SessionChallengeRequest) (deviceID : Bytes) : World :=
  if sensitive request.purpose then world.touch deviceID now else world

/-- `Challenge`; the draws are absent where no random value could be read. -/
def challenge (certificate : Certificate) (request : SessionChallengeRequest)
    (existing : Option SessionContext) (draws : Option (Fixed 16 × Fixed 32)) : World × Outcome :=
  match authorizeActive world.authority certificate now with
  | none => (world, answered .refused)
  | some device =>
      if !validateSessionChallengeRequest request ||
          sensitive request.purpose && !existing.any (contextValid world now) then
        (world, answered .refused)
      else
        match (Table.find PendingChallenge.key (challengeKey device.deviceID request.purpose)
            world.manager.challenges).filter fun current => now ≤ current.expires with
        | some current =>
            if current.digest ≠ sha256 (requestEncoding request) then (world, answered .refused)
            else (extend world now request device.deviceID, answered (.challenged current))
        | none =>
            let starts := retainAfter (startsOf world device.deviceID) (now - 60 * second)
            if sessionChallengeLimit ≤ starts.length then
              (world.setStarts device.deviceID starts, answered .refused)
            else
              let world := world.setStarts device.deviceID (starts ++ [now])
              match draws with
              | none => (world, answered .refused)
              | some (id, value) =>
                  let challenge := newPendingChallenge world now device certificate request id value
                  (extend (world.putChallenge challenge) now request device.deviceID,
                    ⟨.challenged challenge, some challenge, none⟩)

def delays : List Int := [second, 2 * second, 4 * second, 8 * second, 16 * second]

/-- `invalidSignatureLocked` -/
def invalidSignature (deviceID : Bytes) : World × Int :=
  let starts := retainAfter (failuresOf world deviceID).starts (now - 600 * second) ++ [now]
  let blockedUntil := if 5 ≤ starts.length then some (now + 300 * second)
    else (failuresOf world deviceID).blockedUntil
  (world.setFailures (Table.put SignatureFailures.deviceID ⟨deviceID, starts, blockedUntil⟩
    world.manager.failures), delays.getD (min (starts.length - 1) 4) 0)

def clearFailures (deviceID : Bytes) : World :=
  world.setFailures (Table.remove SignatureFailures.deviceID deviceID world.manager.failures)

/-- `blockDelayLocked`; none where the device is not blocked. -/
def blockDelay (deviceID : Bytes) : Option Int :=
  ((failuresOf world deviceID).blockedUntil.filter fun blocked => now < blocked).map fun blocked =>
    blocked - now

/-- A proof that fails, with the challenge it took. -/
def failProof (deviceID : Bytes) (consumed : Option PendingChallenge) : World × Outcome :=
  let (world, delay) := invalidSignature world now deviceID
  (world, ⟨.delayed delay, none, consumed⟩)

/-- The challenge of a device and an identifier.  Where there are several, the order
of the map decides. -/
def challengeOf (deviceID id : Bytes) (order : Nat) : Option PendingChallenge :=
  let found := world.manager.challenges.filter fun challenge =>
    challenge.device.deviceID = deviceID && challenge.id = id
  found[order % found.length]?

/-- The challenge that a proof opens a session with. -/
def openingChallenge (device : DeviceRecord) (certificate : Certificate)
    (request : SessionOpenRequest) (order : Nat) : Option PendingChallenge :=
  (challengeOf world device.deviceID request.challengeID order).filter fun challenge =>
    now ≤ challenge.expires && challenge.request.purpose = text "open_session" &&
      challenge.fingerprint = certificateFingerprint certificate &&
      challenge.serial = certificate.serialNumber

def begunSession (device : DeviceRecord) (token : Fixed 32) : ActiveSession where
  tokenDigest := sha256 token.1
  deviceID := device.deviceID
  certificateSHA256 := device.certificateSHA256
  certificateSerial := device.certificateSerial
  humanPublicKey := device.humanPublicKey
  controllerID := world.authority.controllerID
  infrastructureID := world.authority.infrastructureID
  identityRevision := world.authority.identityRevision
  created := now
  lastUsed := now
  absoluteExpires := now + sessionAbsoluteLifetime

/-- Whether a device signed a challenge. -/
def signedBy (device : DeviceRecord) (challenge : PendingChallenge) (signature : Bytes) : Bool :=
  p.verify ((decodeLetters device.humanPublicKey).getD [])
    (sessionTranscript p.format world.authority challenge.toSessionChallenge) signature

/-- `Open`; the token is absent where no random value could be read. -/
def openSession (certificate : Certificate) (request : SessionOpenRequest) (order : Nat)
    (token : Option (Fixed 32)) : World × Outcome :=
  match authorizeActive world.authority certificate now with
  | none => (world, answered .refused)
  | some device =>
      if request.schemaVersion ≠ 1 || !canonicalRawURLBytes request.challengeID 16 then
        (world, answered .refused)
      else
        match blockDelay world now device.deviceID, decodeFixed request.signature 64 with
        | some delay, _ => (world, answered (.delayed delay))
        | none, none => failProof world now device.deviceID none
        | none, some signature =>
            match openingChallenge world now device certificate request order with
            | none => (world, answered .refused)
            | some challenge =>
                let world := world.dropChallenge challenge
                if !signedBy p world device challenge signature then
                  failProof world now device.deviceID (some challenge)
                else
                  let world := clearFailures world device.deviceID
                  match token with
                  | none => (world, ⟨.refused, none, some challenge⟩)
                  | some token =>
                      let session := begunSession world now device token
                      (world.putSession session, ⟨.opened session, none, some challenge⟩)

/-- The digest of the token after `Bearer`. -/
def tokenDigest (authorization : Bytes) : Option Bytes := do
  require ((text "Bearer ").isPrefixOf authorization && authorization.count 0x20 = 1)
  let token ← decodeFixed (authorization.drop 7) 32
  return sha256 token

def authenticate (certificate : Certificate) (authorization : Bytes) : World × Outcome :=
  match authorizeActive world.authority certificate now, tokenDigest authorization with
  | some device, some digest =>
      let context : SessionContext :=
        ⟨device.deviceID, device.certificateSHA256, world.authority.identityRevision, digest⟩
      if contextValid world now context then (world, answered (.authenticated context))
      else (world.dropSession device.deviceID, answered .refused)
  | _, _ => (world, answered .refused)

/-- The challenge a sensitive operation is proved with. -/
def sensitiveChallenge (device : DeviceRecord) (certificate : Certificate)
    (context : SessionContext) (purpose bodyDigest challengeID : Bytes) :
    Option PendingChallenge := do
  let challenge ← (Table.find PendingChallenge.key (challengeKey device.deviceID purpose)
    world.manager.challenges).filter fun challenge =>
      challenge.id = challengeID && now ≤ challenge.expires &&
        challenge.request.purpose = purpose &&
        challenge.fingerprint = certificateFingerprint certificate &&
        challenge.serial = certificate.serialNumber &&
        challenge.identityRevision = world.authority.identityRevision
  require (contextValid world now context)
  require (decodeFixed challenge.request.bodySHA256 32 = some bodyDigest)
  return challenge

/-- The proof of a sensitive operation, where both of its encodings are right. -/
def proofHolds (device : DeviceRecord) (challenge : PendingChallenge) (signature : Bytes) : Bool :=
  match decodeFixed signature 64, decodeFixed device.humanPublicKey publicKeySize with
  | some signature, some key =>
      p.verify key (sessionTranscript p.format world.authority challenge.toSessionChallenge)
        signature
  | _, _ => false

def verifySensitive (certificate : Certificate) (context : SessionContext)
    (purpose bodyDigest challengeID signature : Bytes) : World × Outcome :=
  match authorizeActive world.authority certificate now with
  | none => (world, answered .refused)
  | some device =>
      if purpose ≠ text "rotate_device" && purpose ≠ text "rotate_recovery_key" ||
          !canonicalRawURLBytes challengeID 16 then (world, answered .refused)
      else
        match blockDelay world now device.deviceID,
          sensitiveChallenge world now device certificate context purpose bodyDigest challengeID with
        | some delay, _ => (world, answered (.delayed delay))
        | none, none => (world, answered .refused)
        | none, some challenge =>
            let world := world.dropChallenge challenge
            if !proofHolds p world device challenge signature then
              failProof world now device.deviceID (some challenge)
            else (clearFailures world device.deviceID, ⟨.verified, none, some challenge⟩)

/-- `Accept` and `Touch`, with whether the operation succeeds. -/
def accept (context : SessionContext) (succeeds : Bool) : World × Outcome :=
  if !contextValid world now context then (world, answered .refused)
  else if !succeeds then (world, answered .refused)
  else (world.touch context.deviceID now, answered .accepted)

def pruneLoggedOut : World :=
  world.setLoggedOut (world.manager.loggedOut.filter fun tombstone => now < tombstone.expires)

/-- A session that was logged out before is logged out. -/
def replayLogout (certificate : Certificate) (authorization : Bytes) : World × Outcome :=
  let digest := do
    require ((text "Bearer ").isPrefixOf authorization)
    let token ← decodeFixed (authorization.drop 7) 32
    return sha256 token
  match digest with
  | none => (world, answered .refused)
  | some digest =>
      let world := pruneLoggedOut world now
      if world.manager.loggedOut.any fun tombstone =>
          tombstone.certificateSHA256 = certificateFingerprint certificate &&
            tombstone.tokenDigest = digest then (world, answered .loggedOut)
      else (world, answered .refused)

/-- `Logout`, from what `Authenticate` gave it. -/
def logout (context : Option SessionContext) (certificate : Certificate) (authorization : Bytes) :
    World × Outcome :=
  match context.bind fun context => (world.session context.deviceID).filter fun session =>
      session.tokenDigest = context.tokenDigest with
  | none => replayLogout world now certificate authorization
  | some session =>
      let tombstone : LoggedOutSession :=
        ⟨session.tokenDigest, session.deviceID, (context.map SessionContext.certificateSHA256).getD [],
          session.absoluteExpires⟩
      let world := world.dropSession session.deviceID
      (pruneLoggedOut (world.setLoggedOut (world.manager.loggedOut ++ [tombstone])) now,
        answered .loggedOut)

def invalidateAll : World :=
  { world with
    manager := { world.manager with challenges := [], sessions := [], loggedOut := [], failures := [] } }

end EntryPoints

/-! ## The manager on one event -/

inductive Operation where
  | challenge (certificate : Certificate) (request : SessionChallengeRequest)
      (existing : Option SessionContext) (draws : Option (Fixed 16 × Fixed 32))
  | openSession (certificate : Certificate) (request : SessionOpenRequest) (order : Nat)
      (token : Option (Fixed 32))
  | authenticate (certificate : Certificate) (authorization : Bytes)
  | verifySensitive (certificate : Certificate) (context : SessionContext)
      (purpose bodyDigest challengeID signature : Bytes)
  | accept (context : SessionContext) (succeeds : Bool)
  | logout (context : Option SessionContext) (certificate : Certificate) (authorization : Bytes)
  | invalidateAll
  /-- The authority becomes another one. -/
  | identity (authority : AuthorityState)
  /-- Another process begins. -/
  | restart

structure Event where
  now : Int
  operation : Operation

section Step

variable (p : Primitives)

def step (world : World) (event : Event) : World × Outcome :=
  match event.operation with
  | .challenge certificate request existing draws =>
      challenge world event.now certificate request existing draws
  | .openSession certificate request order token =>
      openSession p world event.now certificate request order token
  | .authenticate certificate authorization =>
      authenticate world event.now certificate authorization
  | .verifySensitive certificate context purpose bodyDigest challengeID signature =>
      verifySensitive p world event.now certificate context purpose bodyDigest challengeID signature
  | .accept context succeeds => accept world event.now context succeeds
  | .logout context certificate authorization =>
      logout world event.now context certificate authorization
  | .invalidateAll => (invalidateAll world, answered .done)
  | .identity authority => ({ world with authority }, answered .done)
  | .restart => ({ world with manager := .new }, answered .done)

def World.initial (authority : AuthorityState) : World := ⟨authority, .new⟩

/-- The authority becomes one that descends from it. -/
def Lawful (world : World) (event : Event) : Prop :=
  match event.operation with
  | .identity authority => Manager.Descends world.authority authority
  | _ => True

/-- The context an event is let through with. -/
def letThrough (world : World) (event : Event) : Option SessionContext :=
  match event.operation, (answer (step p) world event).answer with
  | .challenge _ request existing _, .challenged _ =>
      if sensitive request.purpose then existing else none
  | .authenticate .., .authenticated context => some context
  | .verifySensitive _ context .., .verified => some context
  | .accept context _, .accepted => some context
  | _, _ => none

/-- Whether an event extends the sessions it is let through with. -/
def Operation.extends : Operation → Bool
  | .challenge .. | .accept .. => true
  | _ => false

/-- A context is of the device and of the token of a session. -/
def SessionContext.names (context : SessionContext) (session : ActiveSession) : Prop :=
  context.deviceID = session.deviceID ∧ context.tokenDigest = session.tokenDigest

/-- An event that is accepted with a session and extends it. -/
def Extends (world : World) (event : Event) (session : ActiveSession) : Prop :=
  event.operation.extends = true ∧
    ∃ context, letThrough p world event = some context ∧ context.names session

/-- An event that opens a session or extends it. -/
def Uses (world : World) (event : Event) (session : ActiveSession) : Prop :=
  (answer (step p) world event).answer = .opened session ∨ Extends p world event session

/-- An event that logs a session out, replaces it or drops them all. -/
def EndsSession (world : World) (event : Event) (session : ActiveSession) : Prop :=
  match event.operation, (answer (step p) world event).answer with
  | .openSession .., .opened other => other.deviceID = session.deviceID
  | .logout (some context) .., .loggedOut => context.names session
  | .invalidateAll, _ | .restart, _ => True
  | _, _ => False

end Step

/-! ## What is let through -/

section Validity

variable {p : Primitives} {world : World} {event : Event} {now : Int} {context : SessionContext}
variable {session : ActiveSession} {deviceID : Bytes}

/-- All that the manager checks of a context. -/
structure Valid (world : World) (now : Int) (context : SessionContext) (session : ActiveSession) :
    Prop where
  found : world.session context.deviceID = some session
  idle : now - session.lastUsed ≤ sessionIdleLifetime
  absolute : now ≤ session.absoluteExpires
  names : context.names session
  certificate : context.certificateSHA256 = session.certificateSHA256
  revision : context.identityRevision = session.identityRevision
  unchanged : session.identityRevision = world.authority.identityRevision
  active : ∃ active, world.authority.active = some active ∧
    active.deviceID = session.deviceID ∧ active.certificateSHA256 = session.certificateSHA256

theorem valid_of_contextValid (h : contextValid world now context = true) :
    ∃ session, Valid world now context session := by
  obtain ⟨session, hfound, h⟩ := (Option.any_eq_true _ _).1 h
  simp only [Bool.and_eq_true, decide_eq_true_eq] at h
  obtain ⟨⟨⟨⟨⟨⟨⟨⟨⟨hidle, habsolute⟩, hdevice⟩, hcertificate⟩, hrevision⟩, hunchanged⟩, -⟩, -⟩,
    hactive⟩, htoken⟩ := h
  obtain ⟨active, hsome, hsame⟩ := (Option.any_eq_true _ _).1 hactive
  simp only [Bool.and_eq_true, decide_eq_true_eq] at hsame
  exact ⟨session, hfound, hidle, habsolute, ⟨hdevice, htoken.symm⟩, hcertificate, hrevision,
    hrevision ▸ hunchanged, active, hsome, hsame.1.1.1, hsame.1.1.2⟩

theorem session_deviceID (h : world.session deviceID = some session) :
    session.deviceID = deviceID := Table.find_key h

@[simp] theorem dropSession_session (k : Bytes) : (world.dropSession deviceID).session k =
    if k = deviceID then none else world.session k := Table.find_remove k

@[simp] theorem putSession_session (k : Bytes) : (world.putSession session).session k =
    if k = session.deviceID then some session else world.session k := Table.find_put k

theorem touch_session (k : Bytes) : (world.touch deviceID now).session k =
    if k = deviceID then (world.session k).map fun session => { session with lastUsed := now }
    else world.session k := by
  unfold World.touch
  cases hfound : world.session deviceID with
  | none =>
      by_cases hk : k = deviceID
      · rw [if_pos hk, hk, hfound]
        rfl
      · rw [if_neg hk]
  | some session =>
      have hdevice := session_deviceID hfound
      rw [putSession_session]
      by_cases hk : k = deviceID
      · rw [if_pos (hk.trans hdevice.symm), if_pos hk, hk, hfound]
        rfl
      · rw [if_neg fun heq => hk (heq.trans hdevice), if_neg hk]

theorem extend_session {request : SessionChallengeRequest} (k : Bytes) :
    (extend world now request deviceID).session k =
      if sensitive request.purpose = true ∧ k = deviceID then
        (world.session k).map fun session => { session with lastUsed := now }
      else world.session k := by
  unfold extend
  by_cases hsensitive : sensitive request.purpose = true
  · rw [if_pos hsensitive, touch_session]
    simp only [hsensitive, true_and]
  · rw [if_neg hsensitive, if_neg fun h => hsensitive h.1]

@[simp] theorem touch_challenges :
    (world.touch deviceID now).manager.challenges = world.manager.challenges := by
  unfold World.touch
  split <;> rfl

@[simp] theorem touch_authority : (world.touch deviceID now).authority = world.authority := by
  unfold World.touch
  split <;> rfl

@[simp] theorem extend_challenges {request : SessionChallengeRequest} :
    (extend world now request deviceID).manager.challenges = world.manager.challenges := by
  unfold extend
  split
  · exact touch_challenges
  · rfl

@[simp] theorem extend_authority {request : SessionChallengeRequest} :
    (extend world now request deviceID).authority = world.authority := by
  unfold extend
  split
  · exact touch_authority
  · rfl

theorem challenge_valid {certificate : Certificate} {request : SessionChallengeRequest}
    {existing : Option SessionContext} {draws : Option (Fixed 16 × Fixed 32)}
    {challenged : PendingChallenge}
    (h : (challenge world now certificate request existing draws).2.answer =
      .challenged challenged) :
    ∃ device, authorizeActive world.authority certificate now = some device ∧
      (sensitive request.purpose = true →
        ∃ context, existing = some context ∧ contextValid world now context = true) := by
  unfold challenge at h
  split at h
  · cases h
  · rename_i device hdevice
    refine ⟨device, hdevice, fun hsensitive => ?_⟩
    split at h
    · cases h
    · rename_i hchecked
      cases existing with
      | none => simp [hsensitive] at hchecked
      | some context =>
          refine ⟨context, rfl, ?_⟩
          by_contra hcontext
          simp [hsensitive, hcontext] at hchecked

theorem authenticate_valid {certificate : Certificate} {authorization : Bytes}
    (h : (authenticate world now certificate authorization).2.answer = .authenticated context) :
    contextValid world now context = true := by
  unfold authenticate at h
  split at h
  · dsimp only at h
    split at h
    · rename_i hcontext
      cases h
      exact hcontext
    · cases h
  · cases h

theorem verifySensitive_valid {certificate : Certificate}
    {purpose bodyDigest challengeID signature : Bytes}
    (h : (verifySensitive p world now certificate context purpose bodyDigest challengeID
      signature).2.answer = .verified) :
    contextValid world now context = true := by
  unfold verifySensitive at h
  split at h
  · cases h
  · split at h
    · cases h
    · split at h
      · cases h
      · cases h
      · rename_i hchallenge
        simp only [sensitiveChallenge, Option.bind_eq_bind, Option.bind_eq_some_iff,
          require_eq_some] at hchallenge
        obtain ⟨_, -, -, hcontext, -⟩ := hchallenge
        exact hcontext

theorem accept_valid {succeeds : Bool}
    (h : (accept world now context succeeds).2.answer = .accepted) :
    contextValid world now context = true := by
  unfold accept at h
  split at h
  · cases h
  · rename_i hcontext
    simpa using hcontext

/-- What is let through has a context that is checked. -/
theorem letThrough_valid (h : letThrough p world event = some context) :
    ∃ session, Valid world event.now context session := by
  obtain ⟨now, operation⟩ := event
  apply valid_of_contextValid
  cases operation with
  | challenge certificate request existing draws =>
      simp only [letThrough, answer, step] at h
      split at h
      · rename_i hoperation hanswer
        obtain ⟨rfl, rfl, rfl, rfl⟩ := Operation.challenge.inj hoperation
        split at h
        · rename_i hsensitive
          obtain ⟨-, -, hexisting⟩ := challenge_valid hanswer
          obtain ⟨existing, hsome, hcontext⟩ := hexisting hsensitive
          obtain rfl := Option.some.inj (hsome.symm.trans h)
          exact hcontext
        · cases h
      all_goals simp_all
  | authenticate certificate authorization =>
      simp only [letThrough, answer, step] at h
      split at h <;> try contradiction
      rename_i hanswer
      obtain rfl := Option.some.inj h
      exact authenticate_valid hanswer
  | verifySensitive certificate proved purpose bodyDigest challengeID signature =>
      simp only [letThrough, answer, step] at h
      split at h <;> try contradiction
      rename_i hoperation hanswer
      obtain ⟨rfl, rfl, rfl, rfl, rfl, rfl⟩ := Operation.verifySensitive.inj hoperation
      obtain rfl := Option.some.inj h
      exact verifySensitive_valid hanswer
  | accept accepted succeeds =>
      simp only [letThrough, answer, step] at h
      split at h <;> try contradiction
      rename_i hoperation hanswer
      obtain ⟨rfl, rfl⟩ := Operation.accept.inj hoperation
      obtain rfl := Option.some.inj h
      exact accept_valid hanswer
  | openSession | logout | invalidateAll | identity | restart =>
      simp [letThrough] at h

end Validity

/-! ## What becomes of the challenges -/

section Challenges

variable {p : Primitives} {world : World} {event : Event} {now : Int}

/-- A challenge that is held or consumed was held or issued. -/
def Counted (world : World) (result : World × Outcome) : Prop :=
  ∀ challenge, result.1.manager.challenges.count challenge +
      result.2.consumed.toList.count challenge ≤
    world.manager.challenges.count challenge + result.2.issued.toList.count challenge

theorem counted_of_same {result : World × Outcome}
    (hsame : result.1.manager.challenges = world.manager.challenges)
    (hconsumed : result.2.consumed = none) : Counted world result := by
  intro challenge
  rw [hsame, hconsumed]
  exact Nat.le_add_right _ _

/-- A challenge that was held is consumed. -/
theorem counted_of_dropped {result : World × Outcome} {dropped : PendingChallenge}
    (hheld : dropped ∈ world.manager.challenges)
    (hdropped : result.1.manager.challenges =
      Table.remove PendingChallenge.key dropped.key world.manager.challenges)
    (hconsumed : result.2.consumed = some dropped) : Counted world result := by
  intro challenge
  have hcount := Table.count_remove_add_le hheld (rfl : dropped.key = dropped.key) challenge
  rw [hdropped, hconsumed, Option.toList_some, Table.count_one]
  omega

theorem counted_challenge (certificate : Certificate) (request : SessionChallengeRequest)
    (existing : Option SessionContext) (draws : Option (Fixed 16 × Fixed 32)) :
    Counted world (challenge world now certificate request existing draws) := by
  unfold challenge
  split
  · exact counted_of_same rfl rfl
  · split
    · exact counted_of_same rfl rfl
    · split
      · split
        · exact counted_of_same rfl rfl
        · exact counted_of_same extend_challenges rfl
      · dsimp only
        split
        · exact counted_of_same rfl rfl
        · split
          · exact counted_of_same rfl rfl
          · intro challenge
            dsimp only
            rw [extend_challenges, Option.toList_some, Table.count_one]
            exact Table.count_put_le challenge

theorem openingChallenge_mem {device : DeviceRecord} {certificate : Certificate}
    {request : SessionOpenRequest} {order : Nat} {challenge : PendingChallenge}
    (h : openingChallenge world now device certificate request order = some challenge) :
    challenge ∈ world.manager.challenges := by
  have hfound := (Option.filter_eq_some_iff.1 h).1
  exact List.mem_of_mem_filter (List.mem_of_getElem? hfound)

theorem counted_openSession (certificate : Certificate) (request : SessionOpenRequest)
    (order : Nat) (token : Option (Fixed 32)) :
    Counted world (openSession p world now certificate request order token) := by
  unfold openSession
  split
  · exact counted_of_same rfl rfl
  · split
    · exact counted_of_same rfl rfl
    · split
      · exact counted_of_same rfl rfl
      · exact counted_of_same rfl rfl
      · split
        · exact counted_of_same rfl rfl
        · rename_i hchallenge
          have hheld := openingChallenge_mem hchallenge
          dsimp only
          split
          · exact counted_of_dropped hheld rfl rfl
          · split
            · exact counted_of_dropped hheld rfl rfl
            · exact counted_of_dropped hheld rfl rfl

theorem counted_verifySensitive (certificate : Certificate) (context : SessionContext)
    (purpose bodyDigest challengeID signature : Bytes) :
    Counted world (verifySensitive p world now certificate context purpose bodyDigest challengeID
      signature) := by
  unfold verifySensitive
  split
  · exact counted_of_same rfl rfl
  · split
    · exact counted_of_same rfl rfl
    · split
      · exact counted_of_same rfl rfl
      · exact counted_of_same rfl rfl
      · rename_i hchallenge
        simp only [sensitiveChallenge, Option.bind_eq_bind, Option.bind_eq_some_iff] at hchallenge
        obtain ⟨found, hfound, -, -, -, -, heq⟩ := hchallenge
        obtain rfl := Option.some.inj heq
        have hheld := Table.find_mem (Option.filter_eq_some_iff.1 hfound).1
        dsimp only
        split
        · exact counted_of_dropped hheld rfl rfl
        · exact counted_of_dropped hheld rfl rfl

/-- No step makes a challenge of nothing. -/
theorem step_counted : Counted world (step p world event) := by
  obtain ⟨now, operation⟩ := event
  cases operation with
  | challenge certificate request existing draws => exact counted_challenge certificate request existing draws
  | openSession certificate request order token => exact counted_openSession certificate request order token
  | authenticate certificate authorization =>
      simp only [step, authenticate]
      split
      · split <;> exact counted_of_same rfl rfl
      · exact counted_of_same rfl rfl
  | verifySensitive certificate context purpose bodyDigest challengeID signature =>
      exact counted_verifySensitive certificate context purpose bodyDigest challengeID signature
  | accept context succeeds =>
      simp only [step, accept]
      split
      · exact counted_of_same rfl rfl
      · split
        · exact counted_of_same rfl rfl
        · exact counted_of_same touch_challenges rfl
  | logout context certificate authorization =>
      simp only [step, logout]
      split
      · unfold replayLogout
        dsimp only
        split
        · exact counted_of_same rfl rfl
        · split <;> exact counted_of_same rfl rfl
      · exact counted_of_same rfl rfl
  | invalidateAll =>
      intro challenge
      exact Nat.zero_le _
  | identity authority => exact counted_of_same rfl rfl
  | restart =>
      intro challenge
      exact Nat.zero_le _

/-- The challenges a run issues and consumes. -/
def issuedIn (initial : World) (events : List Event) : List PendingChallenge :=
  (history (step p) initial events).filterMap fun h => h.2.issued

def consumedIn (initial : World) (events : List Event) : List PendingChallenge :=
  (history (step p) initial events).filterMap fun h => h.2.consumed

end Challenges

/-! ## What becomes of the sessions -/

section Steps

variable (p : Primitives) {world : World} {event : Event} {now : Int}

/-- A device proved with a human signature that a session is its own, over a challenge
held for the same certificate. -/
structure Signed (world : World) (event : Event) (session : ActiveSession)
    (certificate : Certificate) (challenge : PendingChallenge) : Prop where
  held : challenge ∈ world.manager.challenges
  purpose : challenge.request.purpose = text "open_session"
  expires : event.now ≤ challenge.expires
  fingerprint : challenge.fingerprint = certificateFingerprint certificate
  consumed : (answer (step p) world event).consumed = some challenge
  signed : ∃ request order token device signature,
    event.operation = .openSession certificate request order (some token) ∧
    authorizeActive world.authority certificate event.now = some device ∧
    challenge.device.deviceID = device.deviceID ∧
    session = begunSession world event.now device token ∧
    decodeFixed request.signature 64 = some signature ∧
    signedBy p world device challenge signature = true

variable {p}

/-- An opening leaves the sessions as they are, or puts one that is signed for. -/
theorem openSession_cases {certificate : Certificate} {request : SessionOpenRequest} {order : Nat}
    {token : Option (Fixed 32)} {result : World × Outcome}
    (hresult : openSession p world now certificate request order token = result) :
    result.1.manager.sessions = world.manager.sessions ∧
      (∀ session, result.2.answer ≠ .opened session) ∨
    ∃ session challenge, result.2.answer = .opened session ∧
      result.1.manager.sessions =
        Table.put ActiveSession.deviceID session world.manager.sessions ∧
      Signed p world ⟨now, .openSession certificate request order token⟩ session certificate
        challenge := by
  have hconsumed : (answer (step p) world
      ⟨now, .openSession certificate request order token⟩).consumed = result.2.consumed :=
    congrArg (fun r => r.2.consumed) hresult
  unfold openSession at hresult
  split at hresult
  · subst hresult
    exact .inl ⟨rfl, nofun⟩
  · rename_i device hdevice
    split at hresult
    · subst hresult
      exact .inl ⟨rfl, nofun⟩
    · split at hresult
      · subst hresult
        exact .inl ⟨rfl, nofun⟩
      · subst hresult
        exact .inl ⟨rfl, nofun⟩
      · rename_i signature _ hsignature
        split at hresult
        · subst hresult
          exact .inl ⟨rfl, nofun⟩
        · rename_i challenge hchallenge
          dsimp only at hresult
          split at hresult
          · subst hresult
            exact .inl ⟨rfl, nofun⟩
          · rename_i hsigned
            split at hresult
            · subst hresult
              exact .inl ⟨rfl, nofun⟩
            · rename_i token
              subst hresult
              have hsigned' : signedBy p (world.dropChallenge challenge) device challenge signature =
                  true := by simpa using hsigned
              obtain ⟨hfound, hfits⟩ := Option.filter_eq_some_iff.1 hchallenge
              simp only [Bool.and_eq_true, decide_eq_true_eq] at hfits
              obtain ⟨⟨⟨hexpires, hpurpose⟩, hfingerprint⟩, -⟩ := hfits
              have hdeviceID := List.of_mem_filter (List.mem_of_getElem? hfound)
              rw [Bool.and_eq_true, decide_eq_true_eq] at hdeviceID
              exact .inr ⟨_, challenge, rfl, rfl, openingChallenge_mem hchallenge, hpurpose,
                hexpires, hfingerprint, hconsumed, request, order, token, device, signature, rfl,
                hdevice, hdeviceID.1, rfl, hsignature, hsigned'⟩

/-- A challenge begins with the certificate of its device. -/
theorem issued_by {challenge : PendingChallenge}
    (h : (answer (step p) world event).issued = some challenge) :
    ∃ certificate request existing draws,
      event.operation = .challenge certificate request existing draws ∧
      authorizeActive world.authority certificate event.now = some challenge.device ∧
      challenge.fingerprint = certificateFingerprint certificate ∧ challenge.request = request := by
  obtain ⟨now, operation⟩ := event
  cases operation with
  | challenge certificate request existing draws =>
      refine ⟨certificate, request, existing, draws, rfl, ?_⟩
      simp only [answer, step, Sessions.challenge] at h
      split at h
      · cases h
      · rename_i device hdevice
        split at h
        · cases h
        · split at h
          · split at h <;> cases h
          · split at h
            · cases h
            · split at h
              · cases h
              · obtain rfl := Option.some.inj h
                exact ⟨hdevice, rfl, rfl⟩
  | openSession certificate request order token =>
      simp only [answer, step, openSession] at h
      split at h
      · cases h
      · split at h
        · cases h
        · split at h
          · cases h
          · cases h
          · split at h
            · cases h
            · split at h
              · cases h
              · split at h <;> cases h
  | authenticate certificate authorization =>
      simp only [answer, step, authenticate] at h
      split at h
      · split at h <;> cases h
      · cases h
  | verifySensitive certificate context purpose bodyDigest challengeID signature =>
      simp only [answer, step, verifySensitive] at h
      split at h
      · cases h
      · split at h
        · cases h
        · split at h
          · cases h
          · cases h
          · split at h <;> cases h
  | accept context succeeds =>
      simp only [answer, step, accept] at h
      split at h
      · cases h
      · split at h <;> cases h
  | logout context certificate authorization =>
      simp only [answer, step, logout] at h
      split at h
      · simp only [replayLogout] at h
        split at h
        · cases h
        · split at h <;> cases h
      · cases h
  | invalidateAll | identity | restart => cases h

theorem step_authority (h : ∀ authority, event.operation ≠ .identity authority) :
    (next (step p) world event).authority = world.authority := by
  obtain ⟨now, operation⟩ := event
  cases operation with
  | challenge certificate request existing draws =>
      simp only [next, step, Sessions.challenge]
      split
      · rfl
      · split
        · rfl
        · split
          · split
            · rfl
            · exact extend_authority
          · split
            · rfl
            · split
              · rfl
              · exact extend_authority
  | openSession certificate request order token =>
      simp only [next, step, openSession]
      split
      · rfl
      · split
        · rfl
        · split
          · rfl
          · rfl
          · split
            · rfl
            · split
              · rfl
              · split <;> rfl
  | authenticate certificate authorization =>
      simp only [next, step, authenticate]
      split
      · split <;> rfl
      · rfl
  | verifySensitive certificate context purpose bodyDigest challengeID signature =>
      simp only [next, step, verifySensitive]
      split
      · rfl
      · split
        · rfl
        · split
          · rfl
          · rfl
          · split <;> rfl
  | accept context succeeds =>
      simp only [next, step, accept]
      split
      · rfl
      · split
        · rfl
        · exact touch_authority
  | logout context certificate authorization =>
      simp only [next, step, logout]
      split
      · simp only [replayLogout]
        split
        · rfl
        · split <;> rfl
      · rfl
  | invalidateAll | restart => rfl
  | identity authority => exact absurd rfl (h authority)

/-- A lawful step leaves an authority that descends from the one before. -/
theorem step_lawful (h : Lawful world event) :
    Manager.Descends world.authority (next (step p) world event).authority := by
  by_cases hidentity : ∃ authority, event.operation = .identity authority
  · obtain ⟨authority, hoperation⟩ := hidentity
    obtain ⟨now, operation⟩ := event
    subst hoperation
    exact h
  · rw [step_authority fun authority heq => hidentity ⟨authority, heq⟩]
    exact Manager.Descends.refl _

/-- What a step leaves of a session that stood: the same, or the same used now. -/
def Leaves (p : Primitives) (world : World) (event : Event) (session session' : ActiveSession) :
    Prop :=
  ¬ EndsSession p world event session ∧ (session' = session ∨
    session' = { session with lastUsed := event.now } ∧ Extends p world event session)

theorem leaves_same {session : ActiveSession} (h : ¬ EndsSession p world event session) :
    Leaves p world event session session := ⟨h, .inl rfl⟩

theorem challenge_leaves {certificate : Certificate} {request : SessionChallengeRequest}
    {existing : Option SessionContext} {draws : Option (Fixed 16 × Fixed 32)} {deviceID : Bytes}
    {session' : ActiveSession}
    (h : (next (step p) world ⟨now, .challenge certificate request existing draws⟩).session
      deviceID = some session') :
    ∃ session, world.session deviceID = some session ∧
      Leaves p world ⟨now, .challenge certificate request existing draws⟩ session session' := by
  have hends : ∀ session,
      ¬ EndsSession p world ⟨now, .challenge certificate request existing draws⟩ session := by
    intro session hends
    simp [EndsSession] at hends
  have hextended : ∀ world' : World, world'.session = world.session →
      ∀ device challenged, authorizeActive world.authority certificate now = some device →
      (challenge world now certificate request existing draws).2.answer = .challenged challenged →
      (extend world' now request device.deviceID).session deviceID = some session' →
      ∃ session, world.session deviceID = some session ∧
        Leaves p world ⟨now, .challenge certificate request existing draws⟩ session session' := by
    intro world' hsame device challenged hdevice hanswer hsession
    rw [extend_session, hsame] at hsession
    by_cases hused : sensitive request.purpose = true ∧ deviceID = device.deviceID
    · rw [if_pos hused] at hsession
      obtain ⟨session, hfound, rfl⟩ := Option.map_eq_some_iff.1 hsession
      refine ⟨session, hfound, hends session, .inr ⟨rfl, rfl, ?_⟩⟩
      obtain ⟨-, -, hexisting⟩ := challenge_valid hanswer
      obtain ⟨context, rfl, hcontext⟩ := hexisting hused.1
      obtain ⟨other, hvalid⟩ := valid_of_contextValid hcontext
      obtain ⟨active, hactive, hsame, -⟩ := hvalid.active
      have hpresented := (authorizeActive_eq_some.1 hdevice).1
      obtain rfl := Option.some.inj (hpresented.symm.trans hactive)
      have hother : other = session := by
        have hkey : context.deviceID = deviceID :=
          (hvalid.names.1.trans hsame.symm).trans hused.2.symm
        rw [← hkey] at hfound
        exact Option.some.inj (hvalid.found.symm.trans hfound)
      refine ⟨context, ?_, hother ▸ hvalid.names⟩
      simp only [letThrough, answer, step, hanswer, hused.1, if_true]
    · rw [if_neg hused] at hsession
      exact ⟨session', hsession, leaves_same (hends session')⟩
  have hquiet : world.session deviceID = some session' → ∃ session,
      world.session deviceID = some session ∧
        Leaves p world ⟨now, .challenge certificate request existing draws⟩ session session' :=
    fun hsession => ⟨session', hsession, leaves_same (hends session')⟩
  generalize hresult : challenge world now certificate request existing draws = result at hextended
  have hnext : result.1.session deviceID = some session' := by
    rw [← hresult]
    exact h
  unfold challenge at hresult
  split at hresult
  · subst hresult
    exact hquiet hnext
  · rename_i device hdevice
    split at hresult
    · subst hresult
      exact hquiet hnext
    · split at hresult
      · split at hresult
        · subst hresult
          exact hquiet hnext
        · subst hresult
          exact hextended world rfl device _ hdevice rfl hnext
      · dsimp only at hresult
        split at hresult
        · subst hresult
          exact hquiet hnext
        · split at hresult
          · subst hresult
            exact hquiet hnext
          · subst hresult
            refine hextended _ ?_ device _ hdevice rfl hnext
            rfl

theorem accept_leaves {context : SessionContext} {succeeds : Bool} {deviceID : Bytes}
    {session' : ActiveSession}
    (h : (next (step p) world ⟨now, .accept context succeeds⟩).session deviceID = some session') :
    ∃ session, world.session deviceID = some session ∧
      Leaves p world ⟨now, .accept context succeeds⟩ session session' := by
  have hends : ∀ session, ¬ EndsSession p world ⟨now, .accept context succeeds⟩ session := by
    intro session hends
    simp [EndsSession] at hends
  generalize hresult : accept world now context succeeds = result
  have hnext : result.1.session deviceID = some session' := by
    rw [← hresult]
    exact h
  have hanswer : (answer (step p) world ⟨now, .accept context succeeds⟩).answer = result.2.answer :=
    congrArg (fun r => r.2.answer) hresult
  unfold accept at hresult
  split at hresult
  · subst hresult
    exact ⟨session', hnext, leaves_same (hends session')⟩
  · rename_i hchecked
    split at hresult
    · subst hresult
      exact ⟨session', hnext, leaves_same (hends session')⟩
    · subst hresult
      dsimp only at hnext
      rw [touch_session] at hnext
      by_cases hused : deviceID = context.deviceID
      · rw [if_pos hused] at hnext
        obtain ⟨session, hfound, rfl⟩ := Option.map_eq_some_iff.1 hnext
        obtain ⟨other, hvalid⟩ := valid_of_contextValid (by simpa using hchecked)
        rw [hused] at hfound
        obtain rfl := Option.some.inj (hvalid.found.symm.trans hfound)
        refine ⟨other, hused ▸ hfound, hends other, .inr ⟨rfl, rfl, context, ?_, hvalid.names⟩⟩
        simp only [letThrough, hanswer, answered]
      · rw [if_neg hused] at hnext
        exact ⟨session', hnext, leaves_same (hends session')⟩

theorem logout_leaves {context : Option SessionContext} {certificate : Certificate}
    {authorization deviceID : Bytes} {session' : ActiveSession}
    (h : (next (step p) world ⟨now, .logout context certificate authorization⟩).session deviceID =
      some session') :
    world.session deviceID = some session' ∧
      ¬ EndsSession p world ⟨now, .logout context certificate authorization⟩ session' := by
  simp only [next, step, logout] at h
  split at h
  · rename_i hnone
    have hsame : world.session deviceID = some session' := by
      simp only [replayLogout] at h
      split at h
      · exact h
      · split at h <;> exact h
    refine ⟨hsame, fun hends => ?_⟩
    unfold EndsSession at hends
    split at hends <;> try contradiction
    rename_i named _ _ hoperation _
    obtain ⟨rfl, -, -⟩ := Operation.logout.inj hoperation
    have hkey := session_deviceID hsame
    rw [← hkey, ← hends.1] at hsame
    rw [Option.bind_some, hsame, Option.filter_eq_none_iff] at hnone
    exact hnone session' rfl (decide_eq_true hends.2.symm)
  · rename_i session hsome
    have hdropped : (world.dropSession session.deviceID).session deviceID = some session' := h
    rw [dropSession_session] at hdropped
    split at hdropped
    · cases hdropped
    · rename_i hother
      refine ⟨hdropped, fun hends => ?_⟩
      unfold EndsSession at hends
      split at hends <;> try contradiction
      rename_i named _ _ hoperation _
      obtain ⟨rfl, -, -⟩ := Operation.logout.inj hoperation
      obtain ⟨hfound, -⟩ := Option.filter_eq_some_iff.1 hsome
      have hsession := session_deviceID hfound
      have hkey := session_deviceID hdropped
      exact hother ((hkey.symm.trans hends.1.symm).trans hsession.symm)

/-- A session stood before the step, or the step opened it. -/
theorem step_session {deviceID : Bytes} {session' : ActiveSession}
    (h : (next (step p) world event).session deviceID = some session') :
    (∃ session, world.session deviceID = some session ∧ Leaves p world event session session') ∨
      (answer (step p) world event).answer = .opened session' ∧
        ∃ certificate challenge, Signed p world event session' certificate challenge := by
  obtain ⟨now, operation⟩ := event
  cases operation with
  | challenge certificate request existing draws => exact .inl (challenge_leaves h)
  | accept context succeeds => exact .inl (accept_leaves h)
  | logout context certificate authorization =>
      obtain ⟨hsame, hends⟩ := logout_leaves h
      exact .inl ⟨session', hsame, leaves_same hends⟩
  | openSession certificate request order token =>
      have hresult : openSession p world now certificate request order token =
          openSession p world now certificate request order token := rfl
      cases openSession_cases hresult with
      | inl hquiet =>
          obtain ⟨hsessions, hanswer⟩ := hquiet
          refine .inl ⟨session', ?_, leaves_same fun hends => ?_⟩
          · rw [← h]
            unfold World.session
            rw [← hsessions]
            rfl
          · unfold EndsSession at hends
            split at hends <;> try contradiction
            rename_i hopened
            exact hanswer _ hopened
      | inr hopened =>
          obtain ⟨session, challenge, hanswer, hsessions, hsigned⟩ := hopened
          have hput : (world.putSession session).session deviceID = some session' := by
            rw [← h]
            unfold World.session
            exact congrArg _ hsessions.symm
          rw [putSession_session] at hput
          split at hput
          · obtain rfl := Option.some.inj hput
            exact .inr ⟨hanswer, certificate, challenge, hsigned⟩
          · rename_i hother
            refine .inl ⟨session', hput, leaves_same fun hends => ?_⟩
            unfold EndsSession at hends
            split at hends <;> try contradiction
            rename_i other _ hanother
            obtain rfl := Answer.opened.inj (hanswer.symm.trans hanother)
            exact hother ((session_deviceID hput).symm.trans hends.symm)
  | authenticate certificate authorization =>
      refine .inl ⟨session', ?_, leaves_same fun hends => by simp [EndsSession] at hends⟩
      simp only [next, step, authenticate] at h
      split at h
      · split at h
        · exact h
        · rw [dropSession_session] at h
          split at h
          · cases h
          · exact h
      · exact h
  | verifySensitive certificate context purpose bodyDigest challengeID signature =>
      refine .inl ⟨session', ?_, leaves_same fun hends => by simp [EndsSession] at hends⟩
      simp only [next, step, verifySensitive] at h
      split at h
      · exact h
      · split at h
        · exact h
        · split at h
          · exact h
          · exact h
          · split at h <;> exact h
  | identity authority =>
      exact .inl ⟨session', h, leaves_same fun hends => by simp [EndsSession] at hends⟩
  | invalidateAll | restart => cases h

end Steps

/-! ## Every run -/

section Runs

variable (p : Primitives) (initial : World)

/-- A challenge was issued to a device, for the certificate it presented. -/
def Issued (events : List Event) (challenge : PendingChallenge) : Prop :=
  ∃ before issuing after certificate, events = before ++ issuing :: after ∧
    (answer (step p) (run (step p) initial before) issuing).issued = some challenge ∧
    authorizeActive (run (step p) initial before).authority certificate issuing.now =
      some challenge.device ∧
    challenge.fingerprint = certificateFingerprint certificate

/-- Where a session was opened in a run, and that nothing ended it since. -/
structure Stands (before : List Event) (opening : Event) (after : List Event)
    (session : ActiveSession) : Prop where
  signed : ∃ certificate challenge,
    Signed p (run (step p) initial before) opening session certificate challenge ∧
      Issued p initial before challenge
  kept : Admits (step p) (fun world event => ¬ EndsSession p world event session)
    (run (step p) initial (before ++ [opening])) after

/-- Some event from the opening on used a session at a time. -/
def LastUsed (before : List Event) (opening : Event) (after : List Event)
    (session : ActiveSession) (time : Int) : Prop :=
  Occurs (step p) (fun world event => Uses p world event session ∧ event.now = time)
    (run (step p) initial before) (opening :: after)

/-- The invariant: every challenge was issued, and every session stands as it was
opened but for the time it was last used. -/
structure Invariant (events : List Event) : Prop where
  challenges : ∀ challenge ∈ (run (step p) initial events).manager.challenges,
    Issued p initial events challenge
  sessions : ∀ deviceID session, (run (step p) initial events).session deviceID = some session →
    ∃ before opening after opened, events = before ++ opening :: after ∧
      Stands p initial before opening after opened ∧
      LastUsed p initial before opening after opened session.lastUsed ∧
      session = { opened with lastUsed := session.lastUsed }

variable {p initial}

theorem Issued.append {events : List Event} {challenge : PendingChallenge} (event : Event)
    (h : Issued p initial events challenge) : Issued p initial (events ++ [event]) challenge := by
  obtain ⟨before, issuing, after, certificate, rfl, h⟩ := h
  refine ⟨before, issuing, after ++ [event], certificate, ?_, h⟩
  rw [List.append_assoc, List.cons_append]

theorem run_append_singleton (es : List Event) (event : Event) :
    run (step p) initial (es ++ [event]) = next (step p) (run (step p) initial es) event := by
  rw [run_append]
  rfl

theorem Invariant.step {events : List Event} (h : Invariant p initial events) (event : Event) :
    Invariant p initial (events ++ [event]) := by
  have hnext : run (Sessions.step p) initial (events ++ [event]) =
      next (Sessions.step p) (run (Sessions.step p) initial events) event :=
    run_append_singleton events event
  constructor
  · intro challenge hheld
    have hstep : Counted (run (Sessions.step p) initial events)
        (Sessions.step p (run (Sessions.step p) initial events) event) := step_counted
    have hcounted := hstep challenge
    rw [hnext] at hheld
    have hpositive := List.count_pos_iff.2 hheld
    by_cases hold : challenge ∈ (run (Sessions.step p) initial events).manager.challenges
    · exact (h.challenges challenge hold).append event
    · have hissued : challenge ∈ (answer (Sessions.step p) (run (Sessions.step p) initial events)
          event).issued.toList := by
        rw [← List.count_pos_iff]
        rw [List.count_eq_zero.2 hold] at hcounted
        have hcount : (next (Sessions.step p) (run (Sessions.step p) initial events)
            event).manager.challenges.count challenge ≤
              (answer (Sessions.step p) (run (Sessions.step p) initial events)
                event).issued.toList.count challenge := by
          unfold next answer
          omega
        omega
      have hissued := Option.mem_toList.1 hissued
      obtain ⟨certificate, -, -, -, -, hdevice, hfingerprint, -⟩ := issued_by hissued
      exact ⟨events, event, [], certificate, rfl, hissued, hdevice, hfingerprint⟩
  · intro deviceID session hsession
    rw [hnext] at hsession
    cases step_session hsession with
    | inl hleft =>
        obtain ⟨past, hpast, hends, hused⟩ := hleft
        obtain ⟨before, opening, after, opened, rfl, hstands, hlast, hsame⟩ :=
          h.sessions deviceID past hpast
        have hbefore : run (Sessions.step p) (run (Sessions.step p) initial (before ++ [opening]))
            after = run (Sessions.step p) initial (before ++ opening :: after) := by
          rw [← run_append, List.append_assoc, List.singleton_append]
        have hopened : ¬ EndsSession p (run (Sessions.step p) initial (before ++ opening :: after))
            event opened := by
          rw [hsame] at hends
          exact hends
        refine ⟨before, opening, after ++ [event], opened, ?_, ⟨hstands.signed, ?_⟩, ?_, ?_⟩
        · rw [List.append_assoc, List.cons_append]
        · exact (admits_append _).2 ⟨hstands.kept, hbefore ▸ hopened, trivial⟩
        · unfold LastUsed
          rw [← List.cons_append]
          cases hused with
          | inl heq =>
              rw [heq]
              exact (occurs_append _).2 (.inl hlast)
          | inr hextends =>
              obtain ⟨rfl, hextends⟩ := hextends
              refine (occurs_append _).2 (.inr (.inl ⟨.inr ?_, rfl⟩))
              rw [← run_append]
              rw [hsame] at hextends
              exact hextends
        · cases hused with
          | inl heq =>
              rw [heq]
              exact hsame
          | inr hextends =>
              rw [hextends.1, hsame]
    | inr hopened =>
        obtain ⟨hanswer, certificate, challenge, hsigned⟩ := hopened
        have hused : event.now = session.lastUsed := by
          obtain ⟨_, _, token, device, _, -, -, -, rfl, -⟩ := hsigned.signed
          rfl
        exact ⟨events, event, [], session, rfl,
          ⟨⟨certificate, challenge, hsigned, h.challenges challenge hsigned.held⟩, trivial⟩,
          .inl ⟨.inl hanswer, hused⟩, rfl⟩

theorem run_invariant_holds (events : List Event) {authority : AuthorityState} :
    Invariant p (World.initial authority) events := by
  induction events using List.reverseRecOn with
  | nil => exact ⟨nofun, nofun⟩
  | append_singleton events event ih => exact ih.step event

/-- Between two authorities with one revision nothing changed. -/
theorem descends_between {first middle last : AuthorityState}
    (hfirst : Manager.Descends first middle) (hlast : Manager.Descends middle last)
    (h : first.identityRevision = last.identityRevision) :
    middle.identityRevision = first.identityRevision ∧
      middle.active.map DeviceRecord.deviceID = first.active.map DeviceRecord.deviceID ∧
      middle.activeFingerprint = first.activeFingerprint := by
  cases hfirst.changed with
  | inl hsame => exact hsame
  | inr hmoved =>
      have hlt := hmoved.1
      cases hlast.changed with
      | inl hsame =>
          rw [← hsame.1, ← h] at hlt
          exact absurd hlt (UInt64.lt_irrefl _)
      | inr hagain =>
          have htwice := UInt64.lt_trans hlt hagain.1
          rw [h] at htwice
          exact absurd htwice (UInt64.lt_irrefl _)

theorem run_lawful {world : World} {events : List Event}
    (h : Admits (step p) Lawful world events) :
    Manager.Descends world.authority (run (step p) world events).authority :=
  run_relation_of_admits (fun past world => Manager.Descends past.authority world.authority)
    (fun world => Manager.Descends.refl world.authority) (fun _ _ _ => Manager.Descends.trans)
    (fun _ _ hlawful => step_lawful hlawful) h

/-- What an operation belongs to: a session that was opened in the events before and
stands, that is not too old nor idle for too long, and the identity it was opened with. -/
def Belongs (p : Primitives) (initial : World) (events : List Event) (now : Int)
    (context : SessionContext) : Prop :=
  ∃ before opening after session, events = before ++ opening :: after ∧
    Stands p initial before opening after session ∧ context.names session ∧
    context.certificateSHA256 = session.certificateSHA256 ∧
    context.identityRevision = session.identityRevision ∧
    now ≤ opening.now + sessionAbsoluteLifetime ∧
    (∃ time, LastUsed p initial before opening after session time ∧
      now - time ≤ sessionIdleLifetime) ∧
    ∀ middle rest, after = middle ++ rest →
      let authority := (run (step p) initial (before ++ opening :: middle)).authority
      authority.identityRevision = session.identityRevision ∧
        authority.active.map DeviceRecord.deviceID = some session.deviceID ∧
        authority.activeFingerprint = some session.certificateSHA256

theorem belongs_of_valid {authority : AuthorityState} {events : List Event} {now : Int}
    {context : SessionContext} {session : ActiveSession}
    (hlawful : Admits (step p) Lawful (World.initial authority) events)
    (h : Valid (run (step p) (World.initial authority) events) now context session) :
    Belongs p (World.initial authority) events now context := by
  obtain ⟨before, opening, after, opened, rfl, hstands, hlast, hsame⟩ :=
    (run_invariant_holds events).sessions _ _ h.found
  rw [hsame] at h
  obtain ⟨certificate, challenge, hsigned, -⟩ := hstands.signed
  obtain ⟨request, order, token, device, signature, -, hdevice, -, hopened, -⟩ := hsigned.signed
  have hactive := (authorizeActive_eq_some.1 hdevice).1
  have hage : opened.absoluteExpires = opening.now + sessionAbsoluteLifetime := by
    rw [hopened]
    rfl
  refine ⟨before, opening, after, opened, rfl, hstands, h.names, h.certificate, h.revision, ?_,
    ⟨_, hlast, h.idle⟩, ?_⟩
  · rw [← hage]
    exact h.absolute
  · intro middle rest hafter
    rw [hafter, ← List.cons_append, ← List.append_assoc] at hlawful
    obtain ⟨hfirst, hrest⟩ := (admits_append _).1 hlawful
    have hmiddle := run_lawful ((admits_append _).1 hfirst).2
    rw [← run_append] at hmiddle
    have hend := run_lawful hrest
    rw [← run_append, List.append_assoc, List.cons_append, ← hafter] at hend
    have hrevision : (run (step p) (World.initial authority) before).authority.identityRevision =
        opened.identityRevision := by
      rw [hopened]
      rfl
    obtain ⟨hsame, hdevices, hfingerprint⟩ := descends_between hmiddle hend
      (hrevision.trans h.unchanged)
    refine ⟨hsame.trans hrevision, hdevices.trans ?_, hfingerprint.trans ?_⟩
    · rw [hactive, hopened]
      rfl
    · rw [AuthorityState.activeFingerprint, hactive, hopened]
      rfl

theorem consumed_le_issued (authority : AuthorityState) (events : List Event)
    (challenge : PendingChallenge) :
    (run (step p) (World.initial authority) events).manager.challenges.count challenge +
        (consumedIn (p := p) (World.initial authority) events).count challenge ≤
      (issuedIn (p := p) (World.initial authority) events).count challenge := by
  induction events using List.reverseRecOn with
  | nil => exact Nat.le_refl 0
  | append_singleton events event ih =>
      have hstep : Counted (run (step p) (World.initial authority) events)
          (step p (run (step p) (World.initial authority) events) event) := step_counted
      have hcounted := hstep challenge
      have hlast : ∀ f : Outcome → Option PendingChallenge,
          ((history (step p) (World.initial authority) (events ++ [event])).filterMap
              fun h => f h.2).count challenge =
            ((history (step p) (World.initial authority) events).filterMap
              fun h => f h.2).count challenge +
              (f (answer (step p) (run (step p) (World.initial authority) events)
                event)).toList.count challenge := by
        intro f
        rw [history_append, List.filterMap_append, List.count_append]
        simp only [history, List.filterMap_cons, List.filterMap_nil]
        cases f (answer (step p) (run (step p) (World.initial authority) events) event) <;> rfl
      unfold consumedIn issuedIn at ih ⊢
      rw [run_append_singleton, hlast, hlast]
      unfold next answer at *
      omega

/-- Over every run of the session manager, whatever the clock and the random values,
in which the authority becomes only what descends from it: what is let through belongs
to a session that stands, opened by a human signature over a challenge issued for the
same certificate and device; and no challenge is consumed more often than it was issued. -/
theorem operations_let_through (p : Primitives) (authority : AuthorityState) (events : List Event)
    (hlawful : Admits (step p) Lawful (World.initial authority) events) :
    (∀ event context,
      letThrough p (run (step p) (World.initial authority) events) event = some context →
        Belongs p (World.initial authority) events event.now context) ∧
    ∀ challenge, (consumedIn (p := p) (World.initial authority) events).count challenge ≤
      (issuedIn (p := p) (World.initial authority) events).count challenge := by
  constructor
  · intro event context hthrough
    obtain ⟨session, hvalid⟩ := letThrough_valid hthrough
    exact belongs_of_valid hlawful hvalid
  · intro challenge
    have hcount := consumed_le_issued (p := p) authority events challenge
    omega

end Runs

namespace Sample

open Manager.Sample (certificate firstDevice drawn now primitives signature spell)

def device : DeviceRecord :=
  ⟨firstDevice.1, text "2a", sha256Hex (spell (text "2a")), encodeRawURL (drawn 32 7).1,
    encodeRawURL (drawn 32 8).1, 1, encodeRawURL (drawn 32 9).1, .active⟩

def authority : AuthorityState :=
  { Manager.Sample.authority with identityRevision := 1, active := some device }

def request : SessionChallengeRequest :=
  ⟨1, text "open_session", text "POST", text "/v0/session", encodeRawURL (drawn 32 1).1⟩

/-- A session is opened. -/
def opening : List Event :=
  [⟨now, .challenge (certificate (text "2a") firstDevice.1) request none
      (some (drawn 16 2, drawn 32 3))⟩,
    ⟨now, .openSession (certificate (text "2a") firstDevice.1)
      ⟨1, encodeRawURL (drawn 16 2).1, encodeRawURL signature⟩ 0 (some (drawn 32 4))⟩]

def context : SessionContext :=
  ⟨firstDevice.1, sha256Hex (spell (text "2a")), 1, sha256 (drawn 32 4).1⟩

end Sample

open Sample Manager.Sample in
theorem operation_let_through :
    Belongs primitives (World.initial Sessions.Sample.authority) opening (now + second) context :=
  (operations_let_through primitives Sessions.Sample.authority opening
    ⟨trivial, trivial, trivial⟩).1 ⟨now + second, .accept context true⟩ context (by decide +kernel)

end Sessions

end YourCloud.Identity
