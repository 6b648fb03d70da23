import YourCloud.Auxiliary.Approve
import YourCloud.Auxiliary.Confinement

/-!
# Deploying and removing services

Each operation reads what the machine holds, concludes that nothing is to be
done where it is what the plan asks for, and else passes to the effects: from
there on whatever fails leaves a machine that was changed.
-/

namespace YourCloud.Auxiliary

open YourCloud.Foundation
open Operation (settle proceed Accounts)
open Procedure (whenever Effective Tells)

/-- What an operation finds: an application that changes nothing, or effects. -/
abbrev Examination := Examined Executor Executor.Outcome Bytes Application

def serviceStateActive : Bytes := text "active"

def serviceStateAbsent : Bytes := text "absent"

/-- What an operation reports where it has nothing more to say. -/
def reported (subject : Instance) (changed : Bool) : Application where
  operation := subject.operation.name
  localPort := 0
  unitPath := []
  routeHost := []
  fragmentPath := []
  serviceState := []
  linkPublicKey := []
  dataPath := []
  secretsPath := []
  snapshotSlot := []
  previousSlot := []
  archiveSHA256 := []
  archivedAt := []
  snapshotSlots := []
  passageState := []
  changed

/-! ## What the operations have in common -/

/-- The account a service runs under, made where it is missing, with what the source calls
the account it is about. -/
def createAccount (placement : Placement) (what : String) : Acts Unit := do
  during ("create the " ++ what ++ " account")
    (ask (.createProbeAccount placement.account placement.home placement.comment))
  during ("enable lingering for the " ++ what ++ " account") (ask (.enableLinger placement.account))
  let refreshed ← during ("observe the " ++ what ++ " account after creating it")
    (ask (.capabilities placement.account))
  whenever (!refreshed.rootlessPodman)
    (refuse (text "the account " ++ placement.account ++ text (" was created but cannot run " ++
      "Podman rootless: this machine now holds that account and no unit")))

def probe (subject : Instance) : Acts Unit :=
  (ask (.probeAnswers subject.localPort subject.placement.expectedContentType)).reword fun cause =>
    text "the service was started but did not answer on " ++ loopbackAddress ++ text ":" ++
      numeral subject.localPort ++ text (": this machine held a started service whose announced " ++
      "state was unproven: ") ++ cause

/-- What the machine holds of a service: its sheet, whether it runs, and its image. -/
structure Holding where
  sheet : Option Bytes
  active : Bool
  image : Bytes

def readHolding (placement : Placement) : Acts Holding := do
  let sheet ← during "read the current Quadlet sheet" (ask (.readUnitFile placement.unitPath))
  let active ← during "read the current service state"
    (ask (.serviceActive placement.account placement.serviceName))
  let image ← during "read the running image"
    (ask (.containerImage placement.account placement.containerName))
  return ⟨sheet, active, image⟩

/-- The service runs from the sheet and the image a plan asks for. -/
def Holding.holds (held : Holding) (placement : Placement) (desired : Bytes) : Bool :=
  held.sheet == some desired && held.active && held.image == placement.image

/-- Nothing of the service is there. -/
def Holding.vacant (held : Holding) : Bool :=
  held.sheet.isNone && !held.active && held.image == []

/-- Stops a service and takes its sheet and its image away. -/
def clearService (placement : Placement) (held : Holding) : Acts Unit := do
  whenever held.active
    (during "stop the service" (ask (.stopService placement.account placement.serviceName)))
  whenever held.sheet.isSome do
    during "remove the Quadlet sheet" (ask (.removeUnitFile placement.unitPath))
    during "reload the service account's units" (ask (.reloadUserUnits placement.account))
  during "remove the pinned image" (ask (.removeImage placement.account placement.image))

def stopDrifted (placement : Placement) (active : Bool) : Acts Unit :=
  whenever active
    (during "stop the drifted service" (ask (.stopService placement.account placement.serviceName)))

/-! ## Web services -/

def webApplication (subject : Instance) (state : Bytes) (changed : Bool) : Application :=
  { reported subject changed with
    localPort := subject.localPort
    unitPath := subject.placement.unitPath
    serviceState := state }

def deploy (capabilities : Capabilities) (subject : Instance) : Acts Examination := do
  let placement := subject.placement
  let desired := renderSheet placement subject.localPort []
  let held ← readHolding placement
  if held.holds placement desired then
    settle (webApplication subject serviceStateActive false)
  else
    proceed do
      whenever (!capabilities.accountPresent) (createAccount placement "service")
      during "fetch the pinned image" (ask (.pullImage placement.account placement.image))
      during "write the Quadlet sheet" (ask (.writeUnitFile placement.unitPath desired))
      during "reload the service account's units" (ask (.reloadUserUnits placement.account))
      stopDrifted placement held.active
      during "start the service" (ask (.startService placement.account placement.serviceName))
      probe subject
      return webApplication subject serviceStateActive true

def remove (subject : Instance) : Acts Examination := do
  let held ← readHolding subject.placement
  if held.vacant then
    settle (webApplication subject serviceStateAbsent false)
  else
    proceed do
      clearService subject.placement held
      return webApplication subject serviceStateAbsent true

/-! ### The account they give -/

theorem looks_readHolding (placement : Placement) :
    Looks Executor.mutates (readHolding placement) := by
  unfold readHolding
  apply Looks.bind (looks_during rfl)
  intro sheet
  apply Looks.bind (looks_during rfl)
  intro active
  apply Looks.bind (looks_during rfl)
  intro image
  exact Looks.pure _

/-- Clearing a service takes its image away at least. -/
theorem clearService_effective (placement : Placement) (held : Holding) :
    Effective Executor.mutates (clearService placement held) := by
  unfold clearService
  apply Effective.after
  intro stopped
  apply Effective.after
  intro removed
  exact effective_during rfl

theorem deploy_accounts (capabilities : Capabilities) (subject : Instance) :
    Accounts Executor.mutates Application.changed (deploy capabilities subject) := by
  unfold deploy
  apply Accounts.bind (looks_readHolding _)
  intro held
  apply Accounts.ite
  · exact Accounts.settled rfl
  · intro hdrifted
    apply Accounts.effects
    · apply Effective.after
      intro created
      -- The image is fetched in every deployment.
      exact Effective.before (effective_during rfl)
    · iterate 7
        apply Tells.bind
        intro done
      exact Tells.pure rfl

theorem remove_accounts (subject : Instance) :
    Accounts Executor.mutates Application.changed (remove subject) := by
  unfold remove
  apply Accounts.bind (looks_readHolding _)
  intro held
  apply Accounts.ite
  · exact Accounts.settled rfl
  · intro hheld
    apply Accounts.effects
    · exact Effective.before (clearService_effective _ held)
    · apply Tells.bind
      intro cleared
      exact Tells.pure rfl

/-! ## The entrypoint -/

def entrypointConfigurationPath : Bytes := text "/etc/your-cloud/entrypoint/traefik.yaml"

def entrypointFragmentDirectory : Bytes := text "/etc/your-cloud/entrypoint/dynamic"

def entrypointCertificateDirectory : Bytes := text "/etc/your-cloud/entrypoint/certificates"

def entrypointSecurePort : Int64 := 443

def entrypointClearPort : Int64 := 80

def renderEntrypointSheet : Bytes :=
  let mounted (path mount : Bytes) : Bytes := text "Volume=" ++ path ++ text ":" ++ mount ++ text ":ro"
  let published (port : Int64) : Bytes :=
    text "PublishPort=" ++ numeral port ++ text ":" ++ numeral port
  lines (writtenFromPlan ++
    [text "[Unit]",
      text "Description=" ++ entrypointPlacement.description,
      [],
      text "[Container]",
      text "Image=" ++ entrypointPlacement.image,
      text "ContainerName=" ++ entrypointPlacement.containerName,
      text "Network=slirp4netns:allow_host_loopback=true",
      published entrypointSecurePort,
      published entrypointClearPort,
      mounted entrypointConfigurationPath (text "/etc/traefik/traefik.yaml"),
      mounted entrypointFragmentDirectory entrypointFragmentDirectory,
      mounted entrypointCertificateDirectory entrypointCertificateDirectory,
      text "Pull=never",
      text "ReadOnly=true",
      text "NoNewPrivileges=true",
      text "DropCapability=ALL",
      text "Sysctl=net.ipv4.ip_unprivileged_port_start=0",
      [],
      text "[Service]",
      text "Restart=on-failure",
      [],
      text "[Install]",
      text "WantedBy=default.target"])

def renderEntrypointConfiguration : Bytes :=
  lines (writtenFromPlan ++
    [text "global:",
      text "  checkNewVersion: false",
      text "  sendAnonymousUsage: false",
      [],
      text "entryPoints:",
      text "  web:",
      text "    address: \":" ++ numeral entrypointClearPort ++ text "\"",
      text "    http:",
      text "      redirections:",
      text "        entryPoint:",
      text "          to: websecure",
      text "          scheme: https",
      text "          permanent: true",
      text "  websecure:",
      text "    address: \":" ++ numeral entrypointSecurePort ++ text "\"",
      [],
      text "providers:",
      text "  file:",
      text "    directory: " ++ entrypointFragmentDirectory,
      text "    watch: true",
      [],
      text "serversTransport:",
      text "  forwardingTimeouts:",
      text "    dialTimeout: 5s",
      text "    responseHeaderTimeout: 10s",
      [],
      text "log:",
      text "  level: INFO"])

def renderHostPortsPolicy : Bytes :=
  lines
    [text "# Written by your-cloud auxiliary as a declared effect of one approved",
      text "# entrypoint plan. It is removed when that entrypoint is removed, and by",
      text "# nothing else. Do not edit: this machine compares this file byte for byte",
      text "# against the plan it is given.",
      text "net.ipv4.ip_unprivileged_port_start=" ++ numeral entrypointClearPort]

/-- What the machine holds of the entrypoint beside its service. -/
structure EntrypointHolding where
  sheet : Option Bytes
  configuration : Option Bytes
  policy : Option Bytes
  active : Bool
  image : Bytes

def readEntrypoint (placement : Placement) : Acts EntrypointHolding := do
  let sheet ← during "read the current Quadlet sheet" (ask (.readUnitFile placement.unitPath))
  let configuration ← during "read the current entrypoint configuration"
    (ask (.readUnitFile entrypointConfigurationPath))
  let policy ← during "read the current host ports policy" (ask .hostPortsPolicy)
  let active ← during "read the current service state"
    (ask (.serviceActive placement.account placement.serviceName))
  let image ← during "read the running image"
    (ask (.containerImage placement.account placement.containerName))
  return ⟨sheet, configuration, policy, active, image⟩

def entrypointAnswers : Acts Unit :=
  (ask .entrypointAnswers).reword fun cause =>
    text "the entrypoint was started but did not hold " ++ loopbackAddress ++ text ":" ++
      numeral entrypointSecurePort ++ text " and " ++ loopbackAddress ++ text ":" ++
      numeral entrypointClearPort ++ text (" as this contract requires: this machine held a " ++
      "started entrypoint whose announced state was unproven: ") ++ cause

def entrypointApplication (subject : Instance) (state : Bytes) (changed : Bool) : Application :=
  { reported subject changed with unitPath := subject.placement.unitPath, serviceState := state }

def deployEntrypoint (capabilities : Capabilities) (subject : Instance) :
    Acts Examination := do
  let placement := subject.placement
  let held ← readEntrypoint placement
  if held.sheet == some renderEntrypointSheet &&
      held.configuration == some renderEntrypointConfiguration &&
      held.policy == some renderHostPortsPolicy && held.active && held.image == placement.image then
    settle (entrypointApplication subject serviceStateActive false)
  else
    proceed do
      whenever (!capabilities.accountPresent) (createAccount placement "entrypoint")
      during "fetch the pinned image" (ask (.pullImage placement.account placement.image))
      during "create the entrypoint's root-owned directories" (ask .ensureEntrypointDirectories)
      during "write the entrypoint configuration"
        (ask (.writeUnitFile entrypointConfigurationPath renderEntrypointConfiguration))
      during "apply the host ports policy the entrypoint plan declares"
        (ask (.writeHostPortsPolicy renderHostPortsPolicy))
      during "write the Quadlet sheet" (ask (.writeUnitFile placement.unitPath renderEntrypointSheet))
      during "reload the entrypoint account's units" (ask (.reloadUserUnits placement.account))
      whenever held.active
        (during "stop the drifted entrypoint"
          (ask (.stopService placement.account placement.serviceName)))
      during "start the entrypoint" (ask (.startService placement.account placement.serviceName))
      entrypointAnswers
      return entrypointApplication subject serviceStateActive true

/-- Refused while routes are still published through the entrypoint. -/
def requireNoFragment (fragments : List Bytes) : Acts Unit :=
  whenever (fragments != [])
    (refuse (text "this machine still publishes " ++ decimal fragments.length ++
      text " route(s) through the entrypoint ([" ++ [0x20].intercalate fragments ++
      text ("]): removing the entrypoint would stop serving them without a plan saying so, so it " ++
        "is refused before any effect and the routes are retired by their own approved plans " ++
        "first")))

def removeEntrypoint (subject : Instance) : Acts Examination := do
  let placement := subject.placement
  let fragments ← during "read the routes this machine still publishes" (ask .listRouteFragments)
  requireNoFragment fragments
  let held ← readEntrypoint placement
  if held.sheet.isNone && held.configuration.isNone && held.policy.isNone && !held.active &&
      held.image == [] then
    settle (entrypointApplication subject serviceStateAbsent false)
  else
    proceed do
      whenever held.active
        (during "stop the entrypoint" (ask (.stopService placement.account placement.serviceName)))
      whenever held.policy.isSome
        (during "remove the host ports policy the entrypoint plan declared"
          (ask .removeHostPortsPolicy))
      whenever held.sheet.isSome do
        during "remove the Quadlet sheet" (ask (.removeUnitFile placement.unitPath))
        during "reload the entrypoint account's units" (ask (.reloadUserUnits placement.account))
      whenever held.configuration.isSome
        (during "remove the entrypoint configuration"
          (ask (.removeUnitFile entrypointConfigurationPath)))
      during "remove the pinned image" (ask (.removeImage placement.account placement.image))
      return entrypointApplication subject serviceStateAbsent true

/-! ### The account they give -/

theorem looks_readEntrypoint (placement : Placement) :
    Looks Executor.mutates (readEntrypoint placement) := by
  unfold readEntrypoint
  apply Looks.bind (looks_during rfl)
  intro sheet
  apply Looks.bind (looks_during rfl)
  intro configuration
  apply Looks.bind (looks_during rfl)
  intro policy
  apply Looks.bind (looks_during rfl)
  intro active
  apply Looks.bind (looks_during rfl)
  intro image
  exact Looks.pure _

theorem deployEntrypoint_accounts (capabilities : Capabilities) (subject : Instance) :
    Accounts Executor.mutates Application.changed (deployEntrypoint capabilities subject) := by
  unfold deployEntrypoint
  apply Accounts.bind (looks_readEntrypoint _)
  intro held
  apply Accounts.ite
  · exact Accounts.settled rfl
  · intro hdrifted
    apply Accounts.effects
    · apply Effective.after
      intro created
      exact Effective.before (effective_during rfl)
    · iterate 10
        apply Tells.bind
        intro done
      exact Tells.pure rfl

theorem removeEntrypoint_accounts (subject : Instance) :
    Accounts Executor.mutates Application.changed (removeEntrypoint subject) := by
  unfold removeEntrypoint
  apply Accounts.bind (looks_during rfl)
  intro fragments
  apply Accounts.bind (looks_refusal _ _)
  intro unrouted
  apply Accounts.bind (looks_readEntrypoint _)
  intro held
  apply Accounts.ite
  · exact Accounts.settled rfl
  · intro hheld
    apply Accounts.effects
    · -- Whatever was there, the image is taken away last.
      iterate 4
        apply Effective.after
        intro done
      exact Effective.before (effective_during rfl)
    · iterate 5
        apply Tells.bind
        intro done
      exact Tells.pure rfl

end YourCloud.Auxiliary
