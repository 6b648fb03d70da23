import YourCloud.App.Bootstrap
import YourCloud.Foundation.CharBytes

/-!
# The steps of an installation and the acts they authorise

An installation is a fixed sequence of steps.  An approved scope covers a slice of it,
each step runs the privileged acts a closed table gives it, and what a step has to find
on the machine afterwards is fixed beside it.  A command is a constant; it comes in two
forms, one for a policy that asks for a password and one for a policy that does not.

What a run touched is written down in a ledger, with what the machine was seen to answer.
The ledger says what a failure may take back: what this run was seen to create, the last
thing first.  What nobody could establish is kept and named.

## Main results

* `mem_unwind_removals` — only what is written down as created is ever removed.
* `unwind_complete_iff` — when the ledger promises the state the run found.
-/

namespace YourCloud.Assistant.Installation

open YourCloud.Foundation
open App.Bootstrap (BootstrapAction)

/-! ## Steps -/

inductive Step where
  | transferBundle
  | installPackage
  | writeMachineConfiguration
  | createState
  | installCredentialSources
  | initialiseController
  | mintReaderIdentity
  | activateController
  | associateApp
  | preflight
  deriving DecidableEq, Repr

def STEPS : List Step :=
  [.transferBundle, .installPackage, .writeMachineConfiguration, .createState,
    .installCredentialSources, .initialiseController, .mintReaderIdentity, .activateController,
    .associateApp, .preflight]

/-- The slice of the sequence that an action approves. -/
def authorizedSteps : BootstrapAction → List Step
  | .auditTargetReadOnly => []
  | .installServerBundle =>
      [.transferBundle, .installPackage, .writeMachineConfiguration, .createState,
        .installCredentialSources, .initialiseController, .mintReaderIdentity]
  | .activateApprovedController => [.activateController, .associateApp, .preflight]

/-- The slice that a scope authorises; a scope nobody approves authorises nothing. -/
def authorizedStepsFor : List BootstrapAction → List Step
  | [.installServerBundle, .activateApprovedController] => STEPS
  | [only] => authorizedSteps only
  | _ => []

/-! ## Names on the machine -/

def CONTROLLER_UNIT : String := "your-cloud-controller.service"

def CONTROLLER_ACCOUNT : String := "your-cloud-controller"

def CONTROLLER_STATE_DIRECTORY : String := "/var/lib/private/your-cloud-controller"

def MACHINE_CONFIGURATION : String := "/etc/your-cloud/controller.env"

def CREDENTIAL_SOURCE_DIRECTORY : String := "/etc/your-cloud/controller-credentials"

def COMMAND_IDENTITY_DIRECTORY : String := "/etc/your-cloud/command-identities"

def COMMAND_ENDPOINT_DIRECTORY : String := "/etc/your-cloud/command-endpoints"

def RELAY_ANCHOR_DIRECTORY : String := "/etc/your-cloud/relay-anchor"

def READER_CERTIFICATE : String :=
  "/etc/your-cloud/controller-credentials/controller-reader.crt"

def READER_KEY : String := "/etc/your-cloud/controller-credentials/controller-reader.key"

def AUTHORITY_FILE : String := "/var/lib/private/your-cloud-controller/authority.json"

def PACKAGE_NAME : String := "your-cloud-server"

def STAGING_DIRECTORY : String := "$HOME/.your-cloud-bootstrap"

def STAGED_ARTIFACT_SUFFIX : String := "/.your-cloud-bootstrap/your-cloud-server.deb"

def STAGED_CONFIGURATION_SUFFIX : String := "/.your-cloud-bootstrap/controller.env"

structure Budgets where
  tasksMax : Nat
  memoryMaxMib : Nat
  deriving DecidableEq, Repr

def CONTROLLER_BUDGETS : Budgets := { tasksMax := 128, memoryMaxMib := 384 }

/-! ## Acts -/

/-- A command that is a constant of this program. -/
structure FixedCommand where
  text : String
  deriving DecidableEq, Repr

/-- The two forms of an act, for the two kinds of policy. -/
structure ActCommands where
  withoutPassword : FixedCommand
  withPassword : FixedCommand
  deriving DecidableEq, Repr

def INSTALL_PACKAGE : ActCommands where
  withoutPassword :=
    ⟨"/usr/bin/sudo -k -n -- /usr/bin/env LC_ALL=C /usr/bin/dpkg --install -- $HOME/.your-cloud-bootstrap/your-cloud-server.deb"⟩
  withPassword :=
    ⟨"/usr/bin/sudo -k -S -p your-cloud-sudo-prompt: -- /usr/bin/env LC_ALL=C /usr/bin/dpkg --install -- $HOME/.your-cloud-bootstrap/your-cloud-server.deb"⟩

def RELOAD_UNITS : ActCommands where
  withoutPassword :=
    ⟨"/usr/bin/sudo -k -n -- /usr/bin/env LC_ALL=C /usr/bin/systemctl daemon-reload"⟩
  withPassword :=
    ⟨"/usr/bin/sudo -k -S -p your-cloud-sudo-prompt: -- /usr/bin/env LC_ALL=C /usr/bin/systemctl daemon-reload"⟩

def ACTIVATE_CONTROLLER : ActCommands where
  withoutPassword :=
    ⟨"/usr/bin/sudo -k -n -- /usr/bin/env LC_ALL=C /usr/bin/systemctl enable --now -- your-cloud-controller.service"⟩
  withPassword :=
    ⟨"/usr/bin/sudo -k -S -p your-cloud-sudo-prompt: -- /usr/bin/env LC_ALL=C /usr/bin/systemctl enable --now -- your-cloud-controller.service"⟩

def CREATE_STATE : ActCommands where
  withoutPassword :=
    ⟨"/usr/bin/sudo -k -n -- /usr/bin/env LC_ALL=C /usr/bin/install -d -o root -g root -m 0700 -- /var/lib/private/your-cloud-controller"⟩
  withPassword :=
    ⟨"/usr/bin/sudo -k -S -p your-cloud-sudo-prompt: -- /usr/bin/env LC_ALL=C /usr/bin/install -d -o root -g root -m 0700 -- /var/lib/private/your-cloud-controller"⟩

def INSTALL_CONFIGURATION : ActCommands where
  withoutPassword :=
    ⟨"/usr/bin/sudo -k -n -- /usr/bin/env LC_ALL=C /usr/bin/install -o root -g root -m 0600 -- $HOME/.your-cloud-bootstrap/controller.env /etc/your-cloud/controller.env"⟩
  withPassword :=
    ⟨"/usr/bin/sudo -k -S -p your-cloud-sudo-prompt: -- /usr/bin/env LC_ALL=C /usr/bin/install -o root -g root -m 0600 -- $HOME/.your-cloud-bootstrap/controller.env /etc/your-cloud/controller.env"⟩

def CREATE_CREDENTIAL_SOURCES : ActCommands where
  withoutPassword :=
    ⟨"/usr/bin/sudo -k -n -- /usr/bin/env LC_ALL=C /usr/bin/install -d -o root -g root -m 0700 -- /etc/your-cloud/controller-credentials /etc/your-cloud/command-identities /etc/your-cloud/command-endpoints /etc/your-cloud/relay-anchor"⟩
  withPassword :=
    ⟨"/usr/bin/sudo -k -S -p your-cloud-sudo-prompt: -- /usr/bin/env LC_ALL=C /usr/bin/install -d -o root -g root -m 0700 -- /etc/your-cloud/controller-credentials /etc/your-cloud/command-identities /etc/your-cloud/command-endpoints /etc/your-cloud/relay-anchor"⟩

def INITIALISE_CONTROLLER : ActCommands where
  withoutPassword :=
    ⟨"/usr/bin/sudo -k -n -- /usr/bin/env LC_ALL=C /usr/lib/your-cloud/your-cloud controller init -state-dir=/var/lib/private/your-cloud-controller"⟩
  withPassword :=
    ⟨"/usr/bin/sudo -k -S -p your-cloud-sudo-prompt: -- /usr/bin/env LC_ALL=C /usr/lib/your-cloud/your-cloud controller init -state-dir=/var/lib/private/your-cloud-controller"⟩

def MINT_READER : ActCommands where
  withoutPassword :=
    ⟨"/usr/bin/sudo -k -n -- /usr/bin/env LC_ALL=C /usr/lib/your-cloud/your-cloud controller mint-reader -state-dir=/var/lib/private/your-cloud-controller -credentials-dir=/etc/your-cloud/controller-credentials"⟩
  withPassword :=
    ⟨"/usr/bin/sudo -k -S -p your-cloud-sudo-prompt: -- /usr/bin/env LC_ALL=C /usr/lib/your-cloud/your-cloud controller mint-reader -state-dir=/var/lib/private/your-cloud-controller -credentials-dir=/etc/your-cloud/controller-credentials"⟩

def DROP_CREDENTIAL : FixedCommand := ⟨"/usr/bin/sudo -k"⟩

def ACTS : List (Step × ActCommands) :=
  [(.installPackage, INSTALL_PACKAGE), (.installPackage, RELOAD_UNITS),
    (.writeMachineConfiguration, INSTALL_CONFIGURATION), (.createState, CREATE_STATE),
    (.installCredentialSources, CREATE_CREDENTIAL_SOURCES),
    (.initialiseController, INITIALISE_CONTROLLER), (.mintReaderIdentity, MINT_READER),
    (.activateController, ACTIVATE_CONTROLLER)]

/-- An act with the step it serves. -/
structure ElevatedAct where
  step : Step
  commands : ActCommands
  deriving DecidableEq, Repr

/-- The machine an installation is for and the version it installs. -/
structure InstallPlan where
  endpoint : Chars
  version : Chars
  deriving DecidableEq, Repr

/-- The acts of a step, in their order.  The plan is asked for and not read. -/
def ElevatedAct.authorisedFor (_ : InstallPlan) (step : Step) : List ElevatedAct :=
  (ACTS.filter fun entry => entry.1 = step).map fun entry => ⟨entry.1, entry.2⟩

def ElevatedAct.command (act : ElevatedAct) (passwordRequired : Bool) : FixedCommand :=
  if passwordRequired then act.commands.withPassword else act.commands.withoutPassword

/-- How many channels a step opens on the machine. -/
def channelsFor : Step → Nat
  | .transferBundle => 4
  | .installPackage => 3
  | .writeMachineConfiguration => 4
  | .createState => 1
  | .installCredentialSources => 1
  | .initialiseController => 1
  | .mintReaderIdentity => 2
  | .activateController => 2
  | .associateApp | .preflight => 0

def MAX_EXEC_CHANNELS : Nat := 4

def OBSERVATION_CHANNELS : Nat := 3

/-- The channels of a session that carries out a scope; a scope without steps substitutes
nothing. -/
def channelBudget (actions : List BootstrapAction) : Nat :=
  let opened := ((authorizedStepsFor actions).map channelsFor).sum
  if opened = 0 then 0 else MAX_EXEC_CHANNELS + OBSERVATION_CHANNELS + opened + 1

/-! ## What is to be found afterwards -/

inductive Constat where
  | package
  | unit
  | nodes
  deriving DecidableEq, Repr

def QUERY_PACKAGE : FixedCommand :=
  ⟨"/usr/bin/env LC_ALL=C /usr/bin/dpkg-query -W -f='${Package} ${Status} ${Version}\\n' your-cloud-server"⟩

def SHOW_CONTROLLER : FixedCommand :=
  ⟨"/usr/bin/env LC_ALL=C /usr/bin/systemctl show --no-pager -p ActiveState,SubState,DynamicUser,User,TasksMax,MemoryMax,NoNewPrivileges,ProtectSystem,CapabilityBoundingSet -- your-cloud-controller.service"⟩

def STAT_OWNED : FixedCommand :=
  ⟨"/usr/bin/sudo -k -n -- /usr/bin/env LC_ALL=C /usr/bin/stat -c '%n %u %g %a %F' -- /etc/your-cloud/controller.env /var/lib/private/your-cloud-controller /etc/your-cloud/controller-credentials /etc/your-cloud/command-identities /etc/your-cloud/command-endpoints /etc/your-cloud/relay-anchor /etc/your-cloud/controller-credentials/controller-reader.crt /etc/your-cloud/controller-credentials/controller-reader.key"⟩

def STAT_OWNED_WITH_PASSWORD : FixedCommand :=
  ⟨"/usr/bin/sudo -k -S -p your-cloud-sudo-prompt: -- /usr/bin/env LC_ALL=C /usr/bin/stat -c '%n %u %g %a %F' -- /etc/your-cloud/controller.env /var/lib/private/your-cloud-controller /etc/your-cloud/controller-credentials /etc/your-cloud/command-identities /etc/your-cloud/command-endpoints /etc/your-cloud/relay-anchor /etc/your-cloud/controller-credentials/controller-reader.crt /etc/your-cloud/controller-credentials/controller-reader.key"⟩

def Constat.command : Constat → Bool → FixedCommand
  | .package, _ => QUERY_PACKAGE
  | .unit, _ => SHOW_CONTROLLER
  | .nodes, true => STAT_OWNED_WITH_PASSWORD
  | .nodes, false => STAT_OWNED

def Constat.elevated : Constat → Bool
  | .nodes => true
  | .package | .unit => false

def coveredBy : Constat → List Step
  | .package => [.installPackage]
  | .nodes => [.writeMachineConfiguration, .createState, .installCredentialSources,
      .mintReaderIdentity]
  | .unit => [.activateController]

def constatFor : Step → Option Constat
  | .installPackage => some .package
  | .mintReaderIdentity => some .nodes
  | .activateController => some .unit
  | .transferBundle | .writeMachineConfiguration | .createState | .installCredentialSources
  | .initialiseController | .associateApp | .preflight => none

/-! ## The ledger -/

inductive ItemKind where
  | package
  | account
  | directory
  | file
  | unitState
  | credentialSource
  | association
  deriving DecidableEq, Repr

inductive Provenance where
  | created
  | found
  | unknown
  deriving DecidableEq, Repr

structure Item where
  kind : ItemKind
  name : String
  provenance : Provenance
  deriving DecidableEq, Repr

structure Removal where
  kind : ItemKind
  name : String
  deriving DecidableEq, Repr

inductive Unwind where
  | complete (removals : List Removal)
  | incomplete (removals : List Removal) (unknown : List String)
  | afterTransfer
  deriving DecidableEq, Repr

structure Ledger where
  items : List Item
  authorityTransferred : Bool
  deriving DecidableEq, Repr

def Ledger.new : Ledger := { items := [], authorityTransferred := false }

def Ledger.record (ledger : Ledger) (kind : ItemKind) (name : String) (provenance : Provenance) :
    Ledger :=
  { ledger with items := ledger.items ++ [⟨kind, name, provenance⟩] }

def Ledger.removals (ledger : Ledger) : List Removal :=
  (ledger.items.reverse.filter fun item => item.provenance = .created).map fun item =>
    ⟨item.kind, item.name⟩

def Ledger.unknown (ledger : Ledger) : List String :=
  (ledger.items.filter fun item => item.provenance = .unknown).map Item.name

/-- What a failure may take back. -/
def Ledger.unwind (ledger : Ledger) : Unwind :=
  if ledger.authorityTransferred then .afterTransfer
  else if ledger.unknown = [] then .complete ledger.removals
  else .incomplete ledger.removals ledger.unknown

def Unwind.removals : Unwind → List Removal
  | .complete removals | .incomplete removals _ => removals
  | .afterTransfer => []

/-- Only what is written down as created is ever removed. -/
theorem mem_unwind_removals {ledger : Ledger} {removal : Removal}
    (h : removal ∈ ledger.unwind.removals) :
    ⟨removal.kind, removal.name, .created⟩ ∈ ledger.items := by
  have hmem : removal ∈ ledger.removals := by
    unfold Ledger.unwind at h
    split at h
    · exact absurd h List.not_mem_nil
    · split at h
      · exact h
      · exact h
  obtain ⟨item, hitem, rfl⟩ := List.mem_map.1 hmem
  obtain ⟨hin, hcreated⟩ := List.mem_filter.1 hitem
  have hprovenance : item.provenance = .created := of_decide_eq_true hcreated
  rw [← hprovenance]
  exact List.mem_reverse.1 hin

theorem unwind_complete_iff {ledger : Ledger} (h : ledger.authorityTransferred = false) :
    ledger.unwind = .complete ledger.removals ↔
      ∀ item ∈ ledger.items, item.provenance ≠ .unknown := by
  have hunknown : ledger.unknown = [] ↔ ∀ item ∈ ledger.items, item.provenance ≠ .unknown := by
    simp [Ledger.unknown]
  rw [← hunknown, Ledger.unwind, h, if_neg Bool.false_ne_true]
  by_cases hnone : ledger.unknown = []
  · simp [hnone]
  · simp [hnone]

end YourCloud.Assistant.Installation
