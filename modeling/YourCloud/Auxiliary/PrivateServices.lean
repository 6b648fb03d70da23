import YourCloud.Auxiliary.Services

/-!
# Services behind the private door

A private service and a user service are deployed the same way: their accounts
are confined, and the registry is reached only while the confinement is lifted
from the one account that fetches.  What they keep differs — the data of a
private service, the directories and the generated values of a user service.
-/

namespace YourCloud.Auxiliary

open YourCloud.Foundation
open Operation (settle proceed Accounts)
open Procedure (whenever Effective Tells)

def privateApplication (subject : Instance) (state : Bytes) (changed : Bool) (kept : List Bytes) :
    Application :=
  { reported subject changed with
    localPort := subject.localPort
    unitPath := subject.placement.unitPath
    dataPath := subject.placement.dataDirectory
    snapshotSlots := kept
    serviceState := state }

def userServiceApplication (subject : Instance) (state : Bytes) (changed : Bool)
    (kept : List Bytes) : Application :=
  { privateApplication subject state changed kept with
    secretsPath := if subject.placement.bearsSecrets then subject.placement.secretsDirectory else [] }

/-! ## Deploying and removing them -/

/-- The identifier of an account that is there. -/
def readIdentifier (placement : Placement) : Acts Int64 :=
  during "read the identifier of the service account" (ask (.accountIdentifier placement.account))

/-- The identifier of the account, where there is an account yet. -/
def identifierHeld (capabilities : Capabilities) (placement : Placement) : Acts Int64 :=
  if capabilities.accountPresent then readIdentifier placement else pure noAccountIdentifier

/-- The account made where it is missing, and then the accounts to confine with it. -/
def placeAccount (capabilities : Capabilities) (placement : Placement)
    (confining : List ConfinedAccount) : Acts (List ConfinedAccount) :=
  if capabilities.accountPresent then pure confining
  else do
    createAccount placement "service"
    let identifier ← readIdentifier placement
    confinementJoinedBy placement identifier

def ensureServiceData (placement : Placement) : Acts Unit :=
  during "prepare the durable data of this service"
    (ask (.ensureServiceData placement.account placement.durableDirectories
      placement.snapshotDirectory))

/-- Deploys a confined service, which keeps what `kept` reads and `prepare` puts there. -/
def deployConfined (capabilities : Capabilities) (subject : Instance) (kept : Acts Bool)
    (prepare : Acts Unit)
    (application : Bytes → Bool → List Bytes → Application) : Acts Examination := do
  let placement := subject.placement
  let desired := renderSheet placement subject.localPort subject.originHost
  let held ← readHolding placement
  let keptHeld ← kept
  let identifier ← identifierHeld capabilities placement
  let confining ← confinementJoinedBy placement identifier
  let confinement ← readEgressBounds confining
  if held.holds placement desired && keptHeld && confinement.held then
    settle (application serviceStateActive false [])
  else
    proceed do
      let confining ← placeAccount capabilities placement confining
      prepare
      stopDrifted placement held.active
      let fetching ← confinementLeftBy placement
      settleEgressBounds confinement fetching
      during "fetch the pinned image" (ask (.pullImage placement.account placement.image))
      poseEgressBounds confining
      during "write the Quadlet sheet" (ask (.writeUnitFile placement.unitPath desired))
      during "reload the service account's units" (ask (.reloadUserUnits placement.account))
      during "start the service" (ask (.startService placement.account placement.serviceName))
      probe subject
      return application serviceStateActive true []

/-- Removes a confined service and keeps the archives `kept` reads. -/
def removeConfined (subject : Instance) (kept : Acts (List Bytes))
    (application : Bytes → Bool → List Bytes → Application) : Acts Examination := do
  let placement := subject.placement
  let held ← readHolding placement
  let remaining ← confinementLeftBy placement
  let confinement ← readEgressBounds remaining
  let archives ← kept
  if held.vacant && confinement.held then
    settle (application serviceStateAbsent false archives)
  else
    proceed do
      clearService placement held
      settleEgressBounds confinement remaining
      return application serviceStateAbsent true archives

theorem deployConfined_accounts {capabilities : Capabilities} {subject : Instance}
    {kept : Acts Bool} {prepare : Acts Unit} {application : Bytes → Bool → List Bytes → Application}
    (hkept : Looks Executor.mutates kept)
    (happlication : ∀ state changed archives, (application state changed archives).changed = changed) :
    Accounts Executor.mutates Application.changed
      (deployConfined capabilities subject kept prepare application) := by
  unfold deployConfined
  apply Accounts.bind (looks_readHolding _)
  intro held
  apply Accounts.bind hkept
  intro keptHeld
  apply Accounts.bind (Looks.ite (looks_during rfl) (Looks.pure _))
  intro identifier
  apply Accounts.bind (looks_confinementJoinedBy _ _)
  intro confining
  apply Accounts.bind (looks_readEgressBounds _)
  intro confinement
  apply Accounts.ite
  · exact Accounts.settled (happlication _ _ _)
  · intro hdrifted
    apply Accounts.effects
    · -- The image is fetched in every deployment, between two confinements.
      iterate 5
        apply Effective.after
        intro done
      exact Effective.before (effective_during rfl)
    · iterate 11
        apply Tells.bind
        intro done
      exact Tells.pure (happlication _ _ _)

theorem removeConfined_accounts {subject : Instance} {kept : Acts (List Bytes)}
    {application : Bytes → Bool → List Bytes → Application} (hkept : Looks Executor.mutates kept)
    (happlication : ∀ state changed archives, (application state changed archives).changed = changed) :
    Accounts Executor.mutates Application.changed (removeConfined subject kept application) := by
  unfold removeConfined
  apply Accounts.bind (looks_readHolding _)
  intro held
  apply Accounts.bind (looks_confinementLeftBy _)
  intro remaining
  apply Accounts.bind (looks_readEgressBounds _)
  intro confinement
  apply Accounts.bind hkept
  intro archives
  apply Accounts.ite
  · exact Accounts.settled (happlication _ _ _)
  · intro hheld
    apply Accounts.effects
    · exact Effective.before (clearService_effective _ held)
    · iterate 2
        apply Tells.bind
        intro done
      exact Tells.pure (happlication _ _ _)

/-- The archives this machine holds of a service. -/
def readArchives (placement : Placement) : Acts (List Bytes) :=
  during "read the archives this machine holds for this service"
    (ask (.serviceArchives placement.snapshotDirectory))

def deployPrivateService (capabilities : Capabilities) (subject : Instance) :
    Acts Examination :=
  deployConfined capabilities subject
    (during "read the durable data of this service"
      (ask (.serviceDataPresent subject.placement.dataDirectory)))
    (ensureServiceData subject.placement) (privateApplication subject)

def removePrivateService (subject : Instance) : Acts Examination :=
  removeConfined subject (readArchives subject.placement) (privateApplication subject)

theorem deployPrivateService_accounts (capabilities : Capabilities) (subject : Instance) :
    Accounts Executor.mutates Application.changed (deployPrivateService capabilities subject) :=
  deployConfined_accounts (looks_during rfl) fun _ _ _ => rfl

theorem removePrivateService_accounts (subject : Instance) :
    Accounts Executor.mutates Application.changed (removePrivateService subject) :=
  removeConfined_accounts (looks_during rfl) fun _ _ _ => rfl

/-! ## User services -/

/-- Every directory is there, asked for in order and up to the first that is not. -/
def directoriesHeld : List Bytes → Acts Bool
  | [] => return true
  | directory :: directories => do
      let present ← during "read the durable data of this service"
        (ask (.serviceDataPresent directory))
      if present then directoriesHeld directories else return false

def durableDataHeld (placement : Placement) : Acts Bool :=
  directoriesHeld placement.durableDirectories

def generatedSecretsHeld (placement : Placement) : Acts Bool :=
  if placement.bearsSecrets then
    during "read the generated values of this service"
      (ask (.serviceSecretsPresent placement.secretsDirectory placement.environmentFilePath
        placement.secretKeys))
  else pure true

def archivesKeptBy (placement : Placement) : Acts (List Bytes) :=
  if placement.bearsData then readArchives placement else pure []

/-- Puts there what a user service keeps. -/
def prepareUserService (placement : Placement) : Acts Unit := do
  whenever placement.bearsData (ensureServiceData placement)
  whenever placement.bearsSecrets
    (during "prepare the generated values of this service"
      (ask (.ensureServiceSecrets placement.account placement.secretsDirectory
        placement.environmentFilePath placement.secretKeys)))

def deployUserService (capabilities : Capabilities) (subject : Instance) : Acts Examination :=
  deployConfined capabilities subject
    (do
      let dataHeld ← durableDataHeld subject.placement
      let secretsHeld ← generatedSecretsHeld subject.placement
      return dataHeld && secretsHeld)
    (prepareUserService subject.placement) (userServiceApplication subject)

def removeUserService (subject : Instance) : Acts Examination :=
  removeConfined subject (archivesKeptBy subject.placement) (userServiceApplication subject)

theorem looks_directoriesHeld (directories : List Bytes) :
    Looks Executor.mutates (directoriesHeld directories) := by
  induction directories with
  | nil => exact Looks.pure _
  | cons directory directories ih =>
      unfold directoriesHeld
      apply Looks.bind (looks_during rfl)
      intro present
      exact Looks.ite ih (Looks.pure _)

theorem deployUserService_accounts (capabilities : Capabilities) (subject : Instance) :
    Accounts Executor.mutates Application.changed (deployUserService capabilities subject) := by
  apply deployConfined_accounts
  · apply Looks.bind (looks_directoriesHeld _)
    intro dataHeld
    apply Looks.bind (Looks.ite (looks_during rfl) (Looks.pure _))
    intro secretsHeld
    exact Looks.pure _
  · intro state changed archives
    rfl

theorem removeUserService_accounts (subject : Instance) :
    Accounts Executor.mutates Application.changed (removeUserService subject) :=
  removeConfined_accounts (Looks.ite (looks_during rfl) (Looks.pure _)) fun _ _ _ => rfl

end YourCloud.Auxiliary
