import YourCloud.Foundation.Base64
import YourCloud.Foundation.Run
import YourCloud.Identity.Transcript

/-!
# The sessions that install a Controller

The App opens one session at a time for the Assistant that reaches a machine.  The
session is known by an identifier drawn for it, lasts five minutes, and is concluded by
what the Assistant reports; what it reports comes late, and may name a session that was
replaced.

An audit may attest that an account is allowed less than an installation needs.  The
last such attestation is kept, and refuses one start on its target.

Times are nanoseconds of a monotonic clock.

## Main results

* `notes_retained` — the attestation that is kept, from what was recorded and refused.
* `kept_iff` — when it is that of a target.
-/

namespace YourCloud.App.Bootstrap

open YourCloud.Foundation
open YourCloud.Identity (Fixed)

/-! ## Targets -/

inductive BootstrapMode where
  | create
  | replace
  deriving DecidableEq, Repr

inductive BootstrapAccessKind where
  | administrator
  | root
  deriving DecidableEq, Repr

structure BootstrapTarget where
  host : Bytes
  port : UInt16
  username : Bytes
  hostKeySHA256 : Bytes
  accessKind : BootstrapAccessKind
  deriving DecidableEq, Repr

/-- A number of a radix at the head of a text: all the digits there are, of which no more
than a maximum may be, and no superfluous zero first where none is allowed. -/
def readNumber (value : UInt8 → Option Nat) (radix digits : Nat) (zeros : Bool) (s : Bytes) :
    Option (Nat × Bytes) :=
  let read := s.takeWhile fun b => (value b).isSome
  if read = [] ∨ digits < read.length ∨ (!zeros ∧ 1 < read.length ∧ read.head? = some 0x30) then none
  else some ((read.filterMap value).foldl (fun n digit => radix * n + digit) 0, s.drop read.length)

def digitOf (b : UInt8) : Option Nat := if isDigit b then some (digitValue b) else none

/-- The value of a hexadecimal digit, of either case. -/
def hexOf (b : UInt8) : Option Nat :=
  if isUpper b then hexValue (b + 0x20) else hexValue b

/-- The four numbers of an IPv4 address at the head of a text. -/
def readIpv4 (s : Bytes) : Option (List Nat × Bytes) :=
  let octet (s : Bytes) : Option (Nat × Bytes) :=
    (readNumber digitOf 10 3 false s).filter fun read => read.1 < 256
  let dot : Bytes → Option Bytes
    | 0x2E :: s => some s
    | _ => none
  do
    let (first, s) ← octet s
    let (second, s) ← dot s >>= octet
    let (third, s) ← dot s >>= octet
    let (fourth, s) ← dot s >>= octet
    return ([first, second, third, fourth], s)

/-- Groups of an IPv6 address, as many as there are up to a number of them: what they are, whether
the last two were written as an IPv4 address, and what is left. -/
def readGroups : Nat → Bool → Bytes → List Nat × Bool × Bytes
  | 0, _, s => ([], false, s)
  | limit + 1, first, s =>
      let separated : Option Bytes :=
        if first then some s
        else match s with
          | 0x3A :: s => some s
          | _ => none
      let embedded := if limit = 0 then none else separated.bind readIpv4
      match embedded with
      | some ([a, b, c, d], s) => ([256 * a + b, 256 * c + d], true, s)
      | _ =>
          match separated.bind (readNumber hexOf 16 4 true) with
          | none => ([], false, s)
          | some (group, s) =>
              let (groups, mapped, s) := readGroups limit false s
              (group :: groups, mapped, s)

/-- The eight groups of an IPv6 address. -/
def readIpv6 (s : Bytes) : Option (List Nat × Bytes) :=
  let (head, mapped, s) := readGroups 8 true s
  if head.length = 8 then some (head, s)
  else if mapped then none
  else match s with
    | 0x3A :: 0x3A :: s =>
        let (tail, _, s) := readGroups (7 - head.length) true s
        some (head ++ List.replicate (8 - head.length - tail.length) 0 ++ tail, s)
    | _ => none

inductive IpAddr where
  | v4 (octets : List Nat)
  | v6 (groups : List Nat)
  deriving DecidableEq, Repr

/-- `IpAddr::from_str` -/
def IpAddr.fromStr (s : Bytes) : Option IpAddr :=
  match readIpv4 s, readIpv6 s with
  | some (octets, []), _ => some (.v4 octets)
  | none, some (groups, []) => some (.v6 groups)
  | _, _ => none

def ipv4Text (octets : List Nat) : Bytes := (text ".").intercalate (octets.map decimal)

/-- The numeral of a group, without a superfluous zero. -/
def groupText (group : Nat) : Bytes :=
  if group = 0 then [0x30] else (Nat.digits 16 group).reverse.map hexDigit

def groupsText (groups : List Nat) : Bytes := (text ":").intercalate (groups.map groupText)

/-- The first of the longest runs of zeros, from its start on, with its length. -/
def zeroRun : Nat → List Nat → Nat × Nat
  | _, [] => (0, 0)
  | start, group :: groups =>
      let here := ((group :: groups).takeWhile (· = 0)).length
      let later := zeroRun (start + 1) groups
      if later.2 ≤ here then (start, here) else later

/-- The IPv4 address an IPv6 address stands for. -/
def mappedIpv4 : List Nat → Option (List Nat)
  | [0, 0, 0, 0, 0, 0xFFFF, high, low] => some [high / 256, high % 256, low / 256, low % 256]
  | _ => none

/-- `IpAddr::to_string` -/
def IpAddr.toText : IpAddr → Bytes
  | .v4 octets => ipv4Text octets
  | .v6 groups =>
      match mappedIpv4 groups with
      | some octets => text "::ffff:" ++ ipv4Text octets
      | none =>
          let (start, length) := zeroRun 0 groups
          if 1 < length then
            groupsText (groups.take start) ++ text "::" ++ groupsText (groups.drop (start + length))
          else groupsText groups

def validTargetIpv4 (octets : List Nat) : Bool :=
  octets ≠ [0, 0, 0, 0] && octets.head? ≠ some 127 && octets.take 2 ≠ [169, 254] &&
    octets.head?.all (fun first => first < 224 || 240 ≤ first) && octets ≠ [255, 255, 255, 255]

def validTargetIpv6 (groups : List Nat) : Bool :=
  match mappedIpv4 groups with
  | some octets => validTargetIpv4 octets
  | none =>
      groups ≠ [0, 0, 0, 0, 0, 0, 0, 0] && groups ≠ [0, 0, 0, 0, 0, 0, 0, 1] &&
        groups.head?.all (fun first => first / 64 ≠ 0x3FA) &&
        groups.head?.all (fun first => first / 256 ≠ 0xFF)

def validTargetAddress : IpAddr → Bool
  | .v4 octets => validTargetIpv4 octets
  | .v6 groups => validTargetIpv6 groups

def isAscii (s : Bytes) : Bool := s.all (· < 0x80)

def isAlphanumeric (b : UInt8) : Bool := isLower b || isUpper b || isDigit b

def lowercase (s : Bytes) : Bytes := s.map fun b => if isUpper b then b + 0x20 else b

/-- White space within ASCII. -/
def isSpace (b : UInt8) : Bool := (0x09 ≤ b && b ≤ 0x0D) || b == 0x20

def validDnsLabel (label : Bytes) : Bool :=
  label ≠ [] && label.length ≤ 63 && label.head?.all isAlphanumeric &&
    label.getLast?.all isAlphanumeric && label.all fun b => isAlphanumeric b || b == 0x2D

def maxHostBytes : Nat := 253

/-- `canonical_host`; a text that is not ASCII is refused whatever white space it ends with. -/
def canonicalHost (host : Bytes) : Option Bytes :=
  if host = [] || maxHostBytes < host.length || !isAscii host || host.head?.any isSpace ||
      host.getLast?.any isSpace then none
  else match IpAddr.fromStr host with
    | some address => if validTargetAddress address then some address.toText else none
    | none =>
        if host.all (fun b => isDigit b || b == 0x2E) then none
        else if lowercase host = text "localhost" ||
            (text ".localhost").isSuffixOf (lowercase host) || host.getLast? = some 0x2E ||
            (host.splitOn 0x2E).any (!validDnsLabel ·) then none
        else some (lowercase host)

def maxUsernameBytes : Nat := 32

def validUsername (username : Bytes) (accessKind : BootstrapAccessKind) : Bool :=
  username ≠ [] && username.length ≤ maxUsernameBytes && isAscii username &&
    username.head?.any (fun b => isLower b || b == 0x5F) &&
    username.tail.all (fun b => isLower b || isDigit b || b == 0x5F || b == 0x2D) &&
    match accessKind with
    | .administrator => username ≠ text "root"
    | .root => username = text "root"

def hostKeyBytes : Nat := 32

/-- The digest of a host key, in the one spelling it has without padding. -/
def validateHostKey (hostKeySHA256 : Bytes) : Bool :=
  (text "SHA256:").isPrefixOf hostKeySHA256 &&
    (decodeCanonicalStd (hostKeySHA256.drop 7 ++ text "=") hostKeyBytes).isSome

def validateTarget (target : BootstrapTarget) : Option BootstrapTarget :=
  (canonicalHost target.host).bind fun host =>
    if target.port = 0 || !validUsername target.username target.accessKind ||
      !validateHostKey target.hostKeySHA256 then none
    else some { target with host }

example : canonicalHost (text "2001:DB8:0:0:1:0:0:1") = some (text "2001:db8::1:0:0:1") := by decide

example : canonicalHost (text "Controller.Example.test") = some (text "controller.example.test") := by
  decide

/-! ## Sessions -/

inductive BootstrapStep where
  | personalAccess
  | unlockPersonalKey
  | privilegeEscalation
  | rootAccess
  deriving DecidableEq, Repr

inductive BootstrapAction where
  | auditTargetReadOnly
  | installServerBundle
  | activateApprovedController
  deriving DecidableEq, Repr

inductive BootstrapLifecycle where
  | awaitingNativeAssistant
  | accessVerified
  | refused
  | cancelled
  | unavailable
  deriving DecidableEq, Repr

inductive NativePromptKind where
  | confirmPersonalAccess
  | keyPassphrase
  | sudoPassword
  | confirmRootAccess
  deriving DecidableEq, Repr

structure DeclaredTarget where
  isPrivate : Bool
  normallyOn : Bool
  deriving DecidableEq, Repr

structure MachineConfigurationValues where
  listen : Bytes
  allowedSource : Bytes
  relayEndpoint : Bytes
  deriving DecidableEq, Repr

structure BootstrapStartInput where
  mode : BootstrapMode
  target : BootstrapTarget
  action : Option BootstrapAction
  declaredTarget : Option DeclaredTarget
  machineConfiguration : Option MachineConfigurationValues
  deriving DecidableEq, Repr

structure AttestedInstallationScopeV1 where
  suffices_ : Bool
  permits : Bytes
  deriving DecidableEq, Repr

inductive AssistantRefusalCauseV1 where
  | policyUnreadableWithoutSecret
  | policyNeedsTerminal
  | sudoPasswordRefused
  | policyAmbiguous
  deriving DecidableEq, Repr

structure AssistantRefusalV1 where
  cause : AssistantRefusalCauseV1
  detail : Bytes
  deriving DecidableEq, Repr

inductive LedgerItemKind where
  | package
  | account
  | directory
  | file
  | unitState
  | credentialSource
  | association
  deriving DecidableEq, Repr

inductive LedgerProvenance where
  | created
  | found
  | unknown
  deriving DecidableEq, Repr

structure LedgerItemV1 where
  kind : LedgerItemKind
  name : Bytes
  provenance : LedgerProvenance
  deriving DecidableEq, Repr

structure BootstrapSessionView where
  schemaVersion : Nat
  requestId : Bytes
  mode : BootstrapMode
  target : BootstrapTarget
  step : BootstrapStep
  actions : List BootstrapAction
  lifecycle : BootstrapLifecycle
  expiresInSeconds : Nat
  installLedger : Option (List LedgerItemV1)
  refusal : Option AssistantRefusalV1
  deriving DecidableEq, Repr

structure AssistantScopeV1 where
  schemaVersion : Nat
  requestId : Bytes
  mode : BootstrapMode
  target : BootstrapTarget
  step : BootstrapStep
  actions : List BootstrapAction
  prompt : NativePromptKind
  targetAddresses : List Bytes
  machineConfiguration : Option MachineConfigurationValues
  declaredTarget : Option DeclaredTarget
  issuedAtMonotonicNanos : Nat
  remainingMillis : Nat
  deriving DecidableEq, Repr

structure NativeAssistantLaunch where
  scope : AssistantScopeV1
  expiresAt : Nat
  deriving DecidableEq, Repr

inductive BootstrapError where
  | invalidInput
  | busy
  | expired
  | requestRefused
  | entryTooNarrow (permits : Bytes)
  deriving DecidableEq, Repr

structure BootstrapSession where
  requestId : Bytes
  mode : BootstrapMode
  target : BootstrapTarget
  expiresAt : Nat
  action : BootstrapAction
  declaredTarget : Option DeclaredTarget
  machineConfiguration : Option MachineConfigurationValues
  concluded : Option BootstrapLifecycle
  deroule : Option (List LedgerItemV1)
  cause : Option AssistantRefusalV1
  deriving DecidableEq, Repr

structure PreparedStart where
  mode : BootstrapMode
  target : BootstrapTarget
  action : BootstrapAction
  declaredTarget : Option DeclaredTarget
  machineConfiguration : Option MachineConfigurationValues
  deriving DecidableEq, Repr

structure AttestedNarrowEntry where
  target : BootstrapTarget
  permits : Bytes
  deriving DecidableEq, Repr

structure BootstrapState where
  active : Option BootstrapSession := none
  closed : Bool := false
  attestedNarrow : Option AttestedNarrowEntry := none
  deriving DecidableEq, Repr

/-- 300 seconds. -/
def bootstrapTtl : Nat := 300000000000

def requestIdBytes : Nat := 16

def canonicalRequestId (requestId : Bytes) : Bool := exactly (requestIdBytes * 2) isLowerHex requestId

/-- The actions that one approval covers. -/
def approvedScopeOf : BootstrapAction → List BootstrapAction
  | .auditTargetReadOnly => [.auditTargetReadOnly]
  | .installServerBundle | .activateApprovedController =>
      [.installServerBundle, .activateApprovedController]

def initialNativeStep : BootstrapAccessKind → BootstrapStep × NativePromptKind
  | .administrator => (.personalAccess, .confirmPersonalAccess)
  | .root => (.rootAccess, .confirmRootAccess)

def BootstrapAction.installs : BootstrapAction → Bool
  | .auditTargetReadOnly => false
  | .installServerBundle | .activateApprovedController => true

namespace BootstrapState

variable (s : BootstrapState) (now : Nat)

def isExpired : Bool := s.active.any fun active => active.expiresAt ≤ now

def clear : BootstrapState := { s with active := none }

def close : BootstrapState := { s with closed := true, active := none }

def clearIfExpired : BootstrapState := if s.isExpired now then s.clear else s

/-- The active session, where a request names it and it did not expire. -/
def requireActiveRequest (requestId : Bytes) :
    BootstrapState × Except BootstrapError BootstrapSession :=
  if !canonicalRequestId requestId then (s, .error .requestRefused)
  else if s.isExpired now then (s.clear, .error .expired)
  else match s.active with
    | none => (s, .error .requestRefused)
    | some active =>
        if active.requestId ≠ requestId then (s, .error .requestRefused) else (s, .ok active)

/-- The view of a session. -/
def viewOf (active : BootstrapSession) : BootstrapSessionView where
  schemaVersion := 1
  requestId := active.requestId
  mode := active.mode
  target := active.target
  step := (initialNativeStep active.target.accessKind).1
  actions := approvedScopeOf active.action
  lifecycle := active.concluded.getD .awaitingNativeAssistant
  expiresInSeconds := (active.expiresAt - now + 999999999) / 1000000000
  installLedger := active.concluded.bind fun _ => active.deroule
  refusal := active.concluded.bind fun _ => active.cause

def activeView : Except BootstrapError BootstrapSessionView :=
  match s.active with
  | none => .error .requestRefused
  | some active => if active.expiresAt < now then .error .expired else .ok (viewOf now active)

def status (requestId : Bytes) : BootstrapState × Except BootstrapError BootstrapSessionView :=
  match s.requireActiveRequest now requestId with
  | (s, .error e) => (s, .error e)
  | (s, .ok _) => (s, s.activeView now)

def cancel (requestId : Bytes) : BootstrapState × Except BootstrapError Unit :=
  match s.requireActiveRequest now requestId with
  | (s, .error e) => (s, .error e)
  | (s, .ok _) => (s.clear, .ok ())

/-- What the Assistant of a session is launched with. -/
def launchOf (active : BootstrapSession) (remainingMillis : Nat) : NativeAssistantLaunch where
  scope :=
    { schemaVersion := 1
      requestId := active.requestId
      mode := active.mode
      target := active.target
      step := (initialNativeStep active.target.accessKind).1
      actions := approvedScopeOf active.action
      prompt := (initialNativeStep active.target.accessKind).2
      targetAddresses := []
      machineConfiguration := active.machineConfiguration
      declaredTarget := active.declaredTarget
      issuedAtMonotonicNanos := 0
      remainingMillis }
  expiresAt := active.expiresAt

def assistantScope (requestId : Bytes) :
    BootstrapState × Except BootstrapError NativeAssistantLaunch :=
  match s.requireActiveRequest now requestId with
  | (s, .error e) => (s, .error e)
  | (s, .ok active) =>
      let remainingMillis := (active.expiresAt - now) / 1000000
      if remainingMillis = 0 then (s.clear, .error .expired)
      else (s, .ok (launchOf active remainingMillis))

/-- `prepare_start`; the narrow attestation of its target is consumed by the start it refuses. -/
def prepareStart (input : BootstrapStartInput) :
    BootstrapState × Except BootstrapError PreparedStart :=
  if s.closed then (s, .error .requestRefused)
  else
    let s := s.clearIfExpired now
    if s.active.any fun active => active.concluded.isNone then (s, .error .busy)
    else match validateTarget input.target with
      | none => (s, .error .invalidInput)
      | some target =>
          let action := input.action.getD .auditTargetReadOnly
          match s.attestedNarrow.filter fun narrow => action.installs && narrow.target = target with
          | some narrow => ({ s with attestedNarrow := none }, .error (.entryTooNarrow narrow.permits))
          | none =>
              (s, .ok ⟨input.mode, target, action, input.declaredTarget, input.machineConfiguration⟩)

/-- `activate`, given the latest instant the clock can represent. -/
def activate (latest : Nat) (prepared : PreparedStart) (requestId : Bytes) :
    BootstrapState × Except BootstrapError BootstrapSessionView :=
  if latest < now + bootstrapTtl then (s, .error .requestRefused)
  else
    let active : BootstrapSession :=
      { requestId
        mode := prepared.mode
        target := prepared.target
        expiresAt := now + bootstrapTtl
        action := prepared.action
        declaredTarget := prepared.declaredTarget
        machineConfiguration := prepared.machineConfiguration
        concluded := none
        deroule := none
        cause := none }
    ({ s with active }, { s with active := some active }.activeView now)

/-- `start`; the draw is absent where no random value could be read. -/
def start (latest : Nat) (input : BootstrapStartInput) (draw : Option (Fixed requestIdBytes)) :
    BootstrapState × Except BootstrapError BootstrapSessionView :=
  match s.prepareStart now input with
  | (s, .error e) => (s, .error e)
  | (s, .ok prepared) =>
      match draw with
      | none => (s, .error .requestRefused)
      | some draw => s.activate now latest prepared (hexEncode draw.1)

/-- The active session changed, where a result names it. -/
def onActive (requestId : Bytes) (change : BootstrapSession → BootstrapSession) : BootstrapState :=
  match s.active.filter fun active => active.requestId = requestId with
  | none => s
  | some active => { s with active := some (change active) }

def recordInstallLedger (requestId : Bytes) (ledger : Option (List LedgerItemV1)) :
    BootstrapState :=
  match ledger with
  | none => s
  | some ledger => s.onActive requestId fun active => { active with deroule := some ledger }

def recordRefusal (requestId : Bytes) (refusal : Option AssistantRefusalV1) : BootstrapState :=
  match refusal with
  | none => s
  | some refusal => s.onActive requestId fun active => { active with cause := some refusal }

def retainAttestedScope (requestId : Bytes) (scope : Option AttestedInstallationScopeV1) :
    BootstrapState :=
  match scope, s.active.filter fun active => active.requestId = requestId with
  | some scope, some active =>
      if scope.suffices_ then
        if s.attestedNarrow.any fun narrow => narrow.target = active.target then
          { s with attestedNarrow := none }
        else s
      else { s with attestedNarrow := some ⟨active.target, scope.permits⟩ }
  | _, _ => s

def conclude (requestId : Bytes) (outcome : BootstrapLifecycle) :
    BootstrapState × Except BootstrapError Unit :=
  if outcome = .awaitingNativeAssistant then (s, .error .requestRefused)
  else match s.active with
    | none => (s, .error .requestRefused)
    | some active =>
        if active.requestId ≠ requestId || active.concluded.isSome then (s, .error .requestRefused)
        else ({ s with active := some { active with concluded := some outcome } }, .ok ())

end BootstrapState

/-! ## Runs -/

inductive Operation where
  | start (input : BootstrapStartInput) (draw : Option (Fixed requestIdBytes))
  | status (requestId : Bytes)
  | cancel (requestId : Bytes)
  | assistantScope (requestId : Bytes)
  | recordInstallLedger (requestId : Bytes) (ledger : Option (List LedgerItemV1))
  | recordRefusal (requestId : Bytes) (refusal : Option AssistantRefusalV1)
  | retainAttestedScope (requestId : Bytes) (scope : Option AttestedInstallationScopeV1)
  | conclude (requestId : Bytes) (outcome : BootstrapLifecycle)
  | clear
  | close
  deriving DecidableEq

structure Event where
  now : Nat
  operation : Operation
  deriving DecidableEq

inductive Answer where
  | view (view : BootstrapSessionView)
  | scope (launch : NativeAssistantLaunch)
  | done
  | failed (error : BootstrapError)
  deriving DecidableEq, Repr

/-- What a call returns, said as an answer. -/
def answered {α : Type} (given : α → Answer) : Except BootstrapError α → Answer
  | .ok a => given a
  | .error e => .failed e

def step (latest : Nat) (s : BootstrapState) (event : Event) : BootstrapState × Answer :=
  match event.operation with
  | .start input draw => (s.start event.now latest input draw).map id (answered .view)
  | .status requestId => (s.status event.now requestId).map id (answered .view)
  | .cancel requestId => (s.cancel event.now requestId).map id (answered fun _ => .done)
  | .assistantScope requestId => (s.assistantScope event.now requestId).map id (answered .scope)
  | .recordInstallLedger requestId ledger => (s.recordInstallLedger requestId ledger, .done)
  | .recordRefusal requestId refusal => (s.recordRefusal requestId refusal, .done)
  | .retainAttestedScope requestId scope => (s.retainAttestedScope requestId scope, .done)
  | .conclude requestId outcome => (s.conclude requestId outcome).map id (answered fun _ => .done)
  | .clear => (s.clear, .done)
  | .close => (s.close, .done)

end YourCloud.App.Bootstrap
