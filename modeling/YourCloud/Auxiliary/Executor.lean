import YourCloud.Foundation.Dialogue
import YourCloud.Foundation.Rfc3339

/-!
# What an operation may ask of the machine

The engine of the Auxiliary reaches the machine through one interface.  Each of
its calls is written here with what it answers, and every one of them may answer
with an error instead.  A file is answered with its content, or with nothing
where there is none.

Some calls change the machine and the others only read it or try it out.  An
operation of the engine is a procedure over these calls.

## Main results

* `looks_during`, `effective_during` — a call that reads looks only, and one that
  changes the machine is an effect.
-/

namespace YourCloud.Auxiliary

open YourCloud.Foundation

/-- One archive of a service's data, as the machine that wrote it names it. -/
structure Archive where
  sha256 : Bytes
  takenAt : Option Instant
  deriving DecidableEq, Repr

/-- The archive of nothing. -/
def Archive.zero : Archive := ⟨[], none⟩

structure Capabilities where
  systemd : Bool
  unifiedCgroupHierarchy : Bool
  podmanPresent : Bool
  accountPresent : Bool
  rootlessPodman : Bool
  deriving DecidableEq, Repr

/-- A call of the interface. -/
inductive Executor where
  | capabilities (account : Bytes)
  | createProbeAccount (account home comment : Bytes)
  | enableLinger (account : Bytes)
  | readUnitFile (path : Bytes)
  | writeUnitFile (path content : Bytes)
  | removeUnitFile (path : Bytes)
  | ensureEntrypointDirectories
  | listRouteFragments
  | hostPortsPolicy
  | writeHostPortsPolicy (content : Bytes)
  | removeHostPortsPolicy
  | reloadUserUnits (account : Bytes)
  | startService (account service : Bytes)
  | stopService (account service : Bytes)
  | serviceActive (account service : Bytes)
  | pullImage (account reference : Bytes)
  | removeImage (account reference : Bytes)
  | containerImage (account container : Bytes)
  | probeAnswers (port : Int64) (expectedContentType : Bytes)
  | entrypointAnswers
  | routeAnswers (routeHost : Bytes)
  | linkRouteAnswers (routeHost : Bytes)
  | linkPublicKey
  | generateLinkKey
  | removeLinkKey
  | linkInterfaceActive
  | removeLinkInterface
  | linkRules
  | writeLinkRules (content : Bytes)
  | removeLinkRules
  | linkLoopbackPolicy
  | writeLinkLoopbackPolicy (content : Bytes)
  | removeLinkLoopbackPolicy
  | enableLinkRulesAtBoot
  | disableLinkRulesAtBoot
  | accountIdentifier (account : Bytes)
  | serviceDataPresent (path : Bytes)
  | ensureServiceData (account : Bytes) (dataDirectories : List Bytes) (snapshotDirectory : Bytes)
  | serviceSecretsPresent (directory environmentFile : Bytes) (keys : List Bytes)
  | ensureServiceSecrets (account directory environmentFile : Bytes) (keys : List Bytes)
  | managedUserServiceSlugs
  | serviceArchives (directory : Bytes)
  | serviceArchivePresent (path : Bytes)
  | archiveServiceData (dataDirectory archivePath : Bytes)
  | exchangeServiceData (archivePath dataDirectory reservedPath : Bytes)
  | removeServiceArchive (path : Bytes)
  | egressRules (path : Bytes)
  | writeEgressRules (path content : Bytes)
  | removeEgressRules (path : Bytes)
  | enableEgressRulesAtBoot
  | disableEgressRulesAtBoot
  | enableNetworkManagement
  | reloadNetworkConfiguration
  deriving DecidableEq, Repr

namespace Executor

/-- What a call answers where it does not fail. -/
abbrev Answer : Executor → Type
  | capabilities _ => Capabilities
  | readUnitFile _ | hostPortsPolicy | linkPublicKey | linkRules | linkLoopbackPolicy
  | egressRules _ => Option Bytes
  | listRouteFragments | managedUserServiceSlugs | serviceArchives _ => List Bytes
  | serviceActive _ _ | linkInterfaceActive | serviceDataPresent _ | serviceSecretsPresent _ _ _
  | serviceArchivePresent _ => Bool
  | containerImage _ _ | generateLinkKey => Bytes
  | accountIdentifier _ => Int64
  | archiveServiceData _ _ | exchangeServiceData _ _ _ => Archive
  | _ => Unit

/-- Whether a call changes the machine. -/
def mutates : Executor → Bool
  | capabilities _ | readUnitFile _ | listRouteFragments | hostPortsPolicy | serviceActive _ _
  | containerImage _ _ | probeAnswers _ _ | entrypointAnswers | routeAnswers _
  | linkRouteAnswers _ | linkPublicKey | linkInterfaceActive | linkRules | linkLoopbackPolicy
  | accountIdentifier _ | serviceDataPresent _ | serviceSecretsPresent _ _ _
  | managedUserServiceSlugs | serviceArchives _ | serviceArchivePresent _ | egressRules _ => false
  | _ => true

/-- What a call answers: an error, or what it was asked for. -/
abbrev Outcome (call : Executor) : Type := Except Bytes call.Answer

end Executor

/-- A call with what it was answered. -/
abbrev Exchange := Exchanged Executor Executor.Outcome

/-- A dialogue of the engine with the machine. -/
abbrev Converses : Type → Type := Dialogue Executor Executor.Outcome

/-- A part of an operation, which can fail. -/
abbrev Acts : Type → Type := Procedure Executor Executor.Outcome Bytes

/-- One call. -/
def ask (call : Executor) : Acts call.Answer := Procedure.call call

/-- A part whose error is told under what was being done. -/
def during {α : Type} (what : String) (p : Acts α) : Acts α :=
  p.reword fun cause => text what ++ text ": " ++ cause

/-- An error of the operation's own. -/
def refuse {α : Type} (why : Bytes) : Acts α := Procedure.fail why

/-- The result of a function that makes no call. -/
def given {α : Type} : Except Bytes α → Acts α
  | .ok a => pure a
  | .error why => refuse why

/-! ## Calls that read and calls that change -/

section Rules

variable {α β : Type} {call : Executor}

theorem looks_ask (h : call.mutates = false) : Looks Executor.mutates (ask call) :=
  Looks.ask h fun _ => Looks.done _

/-- A call that only reads, under what is being read. -/
theorem looks_during {what : String} (h : call.mutates = false) :
    Looks Executor.mutates (during what (ask call)) :=
  (looks_ask h).reword

theorem looks_refuse (why : Bytes) : Looks Executor.mutates (refuse why : Acts α) :=
  Looks.fail why

/-- Refusing under a condition makes no call. -/
theorem looks_refusal (b : Bool) (why : Bytes) :
    Looks Executor.mutates (Procedure.whenever b (refuse why)) :=
  (looks_refuse why).whenever

theorem looks_given (x : Except Bytes α) : Looks Executor.mutates (given x) := by
  cases x with
  | ok a => exact Looks.pure a
  | error why => exact looks_refuse why

theorem effective_ask (h : call.mutates = true) :
    Procedure.Effective Executor.mutates (ask call) := by
  intro calls a hplays
  cases hplays with
  | ask x hrest =>
      show (call.mutates || affects Executor.mutates _) = true
      rw [h, Bool.true_or]

/-- A call that changes the machine, under what is being done. -/
theorem effective_during {what : String} (h : call.mutates = true) :
    Procedure.Effective Executor.mutates (during what (ask call)) :=
  (effective_ask h).reword

end Rules

end YourCloud.Auxiliary
