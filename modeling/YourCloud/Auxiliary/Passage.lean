import YourCloud.Auxiliary.Executor
import YourCloud.Auxiliary.Placement

/-!
# The private passage

Two machines hold one passage, each in one role.  Its description, its
addressing and the bounds of a junction are files written from the role and the
few values a plan names, and the role and the peer of a machine are read back off
those files.
-/

namespace YourCloud.Auxiliary

open YourCloud.Foundation
open Procedure (whenever)

def linkInterfaceName : Bytes := text "yc-link0"

def linkListenPort : Int64 := 51820

def linkListenerAddress : Bytes := text "10.66.66.1"

def linkInitiatorAddress : Bytes := text "10.66.66.2"

def linkPrivateKeyPath : Bytes := text "/etc/your-cloud/link/private.key"

def linkNetdevPath : Bytes := text "/etc/systemd/network/yc-link0.netdev"

def linkNetworkPath : Bytes := text "/etc/systemd/network/yc-link0.network"

def linkPeerSectionMarker : Bytes := text "\n[WireGuardPeer]\n"

def linkRouteSectionMarker : Bytes := text "\n[Route]\n"

def linkTable : Bytes := text "inet your-cloud-link"

def linkRulesPath : Bytes := text "/etc/your-cloud/link/rules.nft"

def linkLoopbackPolicyPath : Bytes := text "/etc/sysctl.d/your-cloud-link.conf"

def linkRulesUnitName : Bytes := text "your-cloud-link-rules.service"

def linkRulesUnitPath : Bytes := text "/etc/systemd/system/" ++ linkRulesUnitName

/-- One side of the passage. -/
structure LinkPlacement where
  role : Bytes
  address : Bytes
  peerAddress : Bytes
  listens : Bool := false
  goesOut : Bool := false
  deriving DecidableEq, Repr

def linkListener : LinkPlacement :=
  { role := text "listener", address := linkListenerAddress, peerAddress := linkInitiatorAddress
    listens := true }

def linkInitiator : LinkPlacement :=
  { role := text "initiator", address := linkInitiatorAddress, peerAddress := linkListenerAddress
    goesOut := true }

def linkPlacementFor (role : Bytes) : Except Bytes LinkPlacement :=
  if role = linkListener.role then .ok linkListener
  else if role = linkInitiator.role then .ok linkInitiator
  else .error (text "plan link_role " ++ quoted role ++ text " is not one this Auxiliary holds")

/-! ## The description and the addressing -/

def renderLinkNetdev (placement : LinkPlacement) : Bytes :=
  lines (writtenFromPlan ++
    [text "[NetDev]",
      text "Name=" ++ linkInterfaceName,
      text "Kind=wireguard",
      text "Description=Your Cloud private passage (" ++ placement.role ++ text ")",
      [],
      text "[WireGuard]",
      text "PrivateKeyFile=" ++ linkPrivateKeyPath] ++
    if placement.listens then [text "ListenPort=" ++ numeral linkListenPort] else [])

def renderLinkPeerSection (placement : LinkPlacement) (peerPublicKey peerEndpointHost : Bytes) :
    Bytes :=
  linkPeerSectionMarker ++ lines
    ([text "PublicKey=" ++ peerPublicKey,
        text "AllowedIPs=" ++ placement.peerAddress ++ text "/32"] ++
      if placement.goesOut then
        [text "Endpoint=" ++ peerEndpointHost ++ text ":" ++ numeral linkListenPort,
          text "PersistentKeepalive=25"]
      else [])

def renderLinkNetwork (placement : LinkPlacement) : Bytes :=
  lines (writtenFromPlan ++
    [text "[Match]",
      text "Name=" ++ linkInterfaceName,
      [],
      text "[Network]",
      text "Address=" ++ placement.address ++ text "/32"])

def renderLinkRouteSection (placement : LinkPlacement) : Bytes :=
  linkRouteSectionMarker ++
    lines [text "Destination=" ++ placement.peerAddress ++ text "/32", text "Scope=link"]

/-- What a file holds from a section on, and nothing where it has no such section. -/
def sectionAfter (content : Option Bytes) (marker : Bytes) : Bytes :=
  ((content.bind (fromMarker marker))).getD []

/-- The role a machine holds the passage in, read off its addressing. -/
def roleNamedBy : Option Bytes → Except Bytes (Option LinkPlacement)
  | none => .ok none
  | some content =>
      let named (placement : LinkPlacement) : Bool :=
        contains content (text "\nAddress=" ++ placement.address ++ text "/32\n")
      if named linkListener then .ok (some linkListener)
      else if named linkInitiator then .ok (some linkInitiator)
      else .error (text "this machine holds a " ++ linkNetworkPath ++ text (" that names no " ++
        "address of the reserved subnet: the role of this machine cannot be read back, so the " ++
        "passage is refused before any effect"))

/-! ## The bounds of a junction -/

def linkInputScope : Bytes := text "iifname \"yc-link0\""

def linkOutputScope : Bytes := text "oifname \"yc-link0\""

def linkRulesPreamble : List Bytes :=
  writtenFromPlan ++
    [text "#",
      text "# This table only ever takes traffic away from yc-link0. Its chains carry an",
      text "# accept policy and drop what the passage may not carry, so nothing here can",
      text "# grant this machine anything it did not already do. Every rule below is scoped",
      text "# to that interface, except one line that is named where it is written.",
      text "add table " ++ linkTable,
      text "delete table " ++ linkTable,
      text "table " ++ linkTable ++ text " \x7b"]

/-- How the rules of the listener name the one port that may be reached. -/
def linkListenerServiceRulePrefix : Bytes :=
  linkOutputScope ++ text " ip daddr " ++ linkInitiatorAddress ++ text " tcp dport "

def renderListenerRules (servicePort : Int64) : Bytes :=
  lines (linkRulesPreamble ++
    [text "\tchain input \x7b",
      text "\t\ttype filter hook input priority filter; policy accept;",
      [],
      text "\t\t# The one line of this table without an interface scope, and it grants",
      text "\t\t# nothing at all: a chain whose policy is accept and which drops only",
      text "\t\t# what arrives on yc-link0 cannot open a port this machine was not",
      text "\t\t# already answering on. What this line does is name the single public",
      text "\t\t# port the passage adds to this host — the UDP the tunnel is carried",
      text "\t\t# by — inside the machine's own ruleset, so that it is read there",
      text "\t\t# beside the rest of the passage instead of being inferred from a",
      text "\t\t# socket. This product owns no host firewall and this table is not one.",
      text "\t\tudp dport " ++ numeral linkListenPort ++ text " accept",
      [],
      text "\t\t# What the passage may bring in, and the whole of it: the replies of the",
      text "\t\t# connections this machine itself opened towards the approved service.",
      text "\t\t# The related state is deliberately not accepted beside the established",
      text "\t\t# one: the tunnel has a fixed MTU both ends know, so nothing here",
      text "\t\t# depends on an ICMP error being carried, and the contract says replies.",
      text "\t\t" ++ linkInputScope ++ text " ct state established accept",
      text "\t\t" ++ linkInputScope ++ text " drop",
      text "\t\x7d",
      [],
      text "\tchain output \x7b",
      text "\t\ttype filter hook output priority filter; policy accept;",
      [],
      text "\t\t# The whole of what may leave through the passage: TCP towards the one",
      text "\t\t# address of the peer, on the one port a human approved. The",
      text "\t\t# destination is the role's constant and never a plan value, so a",
      text "\t\t# junction naming another destination cannot be written — there is no",
      text "\t\t# field for one.",
      text "\t\t" ++ linkListenerServiceRulePrefix ++ numeral servicePort ++ text " accept",
      text "\t\t" ++ linkOutputScope ++ text " drop",
      text "\t\x7d",
      [],
      text "\tchain forward \x7b",
      text "\t\ttype filter hook forward priority filter; policy accept;",
      [],
      text "\t\t# Nothing is relayed, in either direction: neither machine becomes a way",
      text "\t\t# towards the network behind the other.",
      text "\t\t" ++ linkInputScope ++ text " drop",
      text "\t\t" ++ linkOutputScope ++ text " drop",
      text "\t\x7d",
      text "\x7d"])

def renderInitiatorRules (servicePort : Int64) : Bytes :=
  let reached := text "\t\t" ++ linkInputScope ++ text " ip saddr " ++ linkListenerAddress ++
    text " tcp dport " ++ numeral servicePort
  lines (linkRulesPreamble ++
    [text "\tchain prerouting \x7b",
      text "\t\ttype nat hook prerouting priority dstnat;",
      [],
      text "\t\t# The approved port of the tunnel, sent to the same port of this",
      text "\t\t# machine's loopback, for packets arriving on yc-link0 from the one",
      text "\t\t# address the peer may be. Nothing else of the tunnel is redirected, so",
      text "\t\t# every other port keeps the destination it was sent to — where nothing",
      text "\t\t# answers — and is dropped by the chain below on its own merits.",
      reached ++ text " dnat ip to " ++ loopbackAddress ++ text ":" ++ numeral servicePort,
      text "\t\x7d",
      [],
      text "\tchain input \x7b",
      text "\t\ttype filter hook input priority filter; policy accept;",
      [],
      text "\t\t# The one thing the passage may bring in: TCP from the listener's own",
      text "\t\t# address towards the approved port. The destination address is",
      text "\t\t# deliberately not matched, because the redirection above has already",
      text "\t\t# rewritten it to the loopback by the time this chain runs — what is",
      text "\t\t# held here is where the packet came from and where it was going.",
      text "\t\t#",
      text "\t\t# No state line stands beside it: every packet of an accepted flow",
      text "\t\t# arrives with that same source and that same port, so a state rule",
      text "\t\t# here would match nothing this line does not already match, and a",
      text "\t\t# control that grants nothing still reads as a control that was needed.",
      reached ++ text " accept",
      text "\t\t" ++ linkInputScope ++ text " drop",
      text "\t\x7d",
      [],
      text "\tchain output \x7b",
      text "\t\ttype filter hook output priority filter; policy accept;",
      [],
      text "\t\t# Only the replies of the connections the listener opened leave by the",
      text "\t\t# passage. This machine never opens anything on yc-link0: what it opens",
      text "\t\t# is the tunnel itself, which is UDP on another interface entirely and",
      text "\t\t# is not this table's business.",
      text "\t\t" ++ linkOutputScope ++ text " ct state established accept",
      text "\t\t" ++ linkOutputScope ++ text " drop",
      text "\t\x7d",
      [],
      text "\tchain forward \x7b",
      text "\t\ttype filter hook forward priority filter; policy accept;",
      [],
      text "\t\t# Nothing is relayed, in either direction. This is the line that keeps",
      text "\t\t# the passage from becoming a way into the LAN this machine sits on.",
      text "\t\t" ++ linkInputScope ++ text " drop",
      text "\t\t" ++ linkOutputScope ++ text " drop",
      text "\t\x7d",
      text "\x7d"])

def renderLinkRules (placement : LinkPlacement) (servicePort : Int64) : Bytes :=
  if placement.listens then renderListenerRules servicePort else renderInitiatorRules servicePort

def renderLinkLoopbackPolicy : Bytes :=
  lines
    [text "# Written by your-cloud auxiliary as a declared effect of one approved",
      text "# junction plan. It is removed when that junction is removed, and by nothing",
      text "# else. Do not edit: this machine compares this file byte for byte against the",
      text "# plan it is given.",
      text "#",
      text "# It is read again at boot by " ++ linkRulesUnitName ++ text ", because the",
      text "# interface it names does not exist yet when this machine reads /etc/sysctl.d.",
      text "net.ipv4.conf.yc-link0.route_localnet=1"]

def renderLinkRulesUnit (placement : LinkPlacement) : Bytes :=
  lines (writtenFromPlan ++
    [text "[Unit]",
      text "Description=Your Cloud private passage bounds",
      text "After=systemd-networkd.service",
      text "Wants=systemd-networkd.service",
      text "ConditionPathExists=" ++ linkRulesPath,
      [],
      text "[Service]",
      text "Type=oneshot",
      text "RemainAfterExit=yes"] ++
    (if placement.goesOut then
      [text "ExecStart=/usr/sbin/sysctl --quiet --load " ++ linkLoopbackPolicyPath] else []) ++
    [text "ExecStart=/usr/sbin/nft --file " ++ linkRulesPath,
      [],
      text "[Install]",
      text "WantedBy=multi-user.target"])

/-- The lines of a table that are rules. -/
def linkRuleLines (rules : Bytes) : List Bytes :=
  let opens (word : String) (line : Bytes) : Bool := (text word).isPrefixOf line
  ((splitOn 0x0A rules).map trimSpace).filter fun line =>
    !(line == [] || opens "#" line || opens "add table " line || opens "delete table " line ||
      opens "table " line || opens "chain " line || opens "type " line || line == text "\x7d")

/-- The port the bounds of a listener name, where they name one. -/
def approvedServicePort (rules : Bytes) : Option Int64 := do
  let rest ← (linkRuleLines rules).findSome? (cutPrefix linkListenerServiceRulePrefix)
  let named ← cutSuffix (text " accept") rest
  atoi named

/-! ## What the machine holds of them -/

structure LinkBoundsState where
  rulesPresent : Bool
  unitPresent : Bool
  policyPresent : Bool
  /-- What is held is what is called for. -/
  held : Bool
  deriving DecidableEq, Repr

def LinkBoundsState.present (state : LinkBoundsState) : Bool :=
  state.rulesPresent || state.unitPresent || state.policyPresent

def readLinkBounds (placement : LinkPlacement) (servicePort : Int64) :
    Acts LinkBoundsState := do
  let currentRules ← during "read the bounds this machine holds on the passage" (ask .linkRules)
  let currentUnit ← during "read the unit that puts the bounds back at boot"
    (ask (.readUnitFile linkRulesUnitPath))
  let held := currentRules == some (renderLinkRules placement servicePort) &&
    currentUnit == some (renderLinkRulesUnit placement)
  if placement.goesOut then do
    let currentPolicy ← during "read the host relaxation the passage declares"
      (ask .linkLoopbackPolicy)
    return ⟨currentRules.isSome, currentUnit.isSome, currentPolicy.isSome,
      held && currentPolicy == some renderLinkLoopbackPolicy⟩
  else
    return ⟨currentRules.isSome, currentUnit.isSome, false, held⟩

/-- Whether anything of the bounds of a junction is still there. -/
def linkBoundsLeftBehind : Acts Bool := do
  let rules ← during "read the bounds this machine holds on the passage" (ask .linkRules)
  if rules.isSome then return true
  else do
    let unit ← during "read the unit that puts the bounds back at boot"
      (ask (.readUnitFile linkRulesUnitPath))
    if unit.isSome then return true
    else do
      let policy ← during "read the host relaxation the passage declares" (ask .linkLoopbackPolicy)
      return policy.isSome

def poseLinkBounds (placement : LinkPlacement) (servicePort : Int64) : Acts Unit := do
  whenever placement.goesOut
    (during "apply the host relaxation the junction declares"
      (ask (.writeLinkLoopbackPolicy renderLinkLoopbackPolicy)))
  during "bound the passage to the approved service"
    (ask (.writeLinkRules (renderLinkRules placement servicePort)))
  during "write the unit that puts the bounds back at boot"
    (ask (.writeUnitFile linkRulesUnitPath (renderLinkRulesUnit placement)))
  during "make this machine put the bounds back after a reboot" (ask .enableLinkRulesAtBoot)

def removeLinkBounds (state : LinkBoundsState) : Acts Unit := do
  whenever state.unitPresent do
    during "stop putting the bounds back after a reboot" (ask .disableLinkRulesAtBoot)
    during "remove the unit that put the bounds back at boot"
      (ask (.removeUnitFile linkRulesUnitPath))
  whenever state.rulesPresent
    (during "remove the bounds of the passage" (ask .removeLinkRules))
  whenever state.policyPresent
    (during "remove the host relaxation the junction declared" (ask .removeLinkLoopbackPolicy))

/-! ## Which of these change the machine -/

theorem looks_readLinkBounds (placement : LinkPlacement) (servicePort : Int64) :
    Looks Executor.mutates (readLinkBounds placement servicePort) := by
  unfold readLinkBounds
  apply Looks.bind (looks_during rfl)
  intro currentRules
  apply Looks.bind (looks_during rfl)
  intro currentUnit
  apply Looks.ite
  · apply Looks.bind (looks_during rfl)
    intro currentPolicy
    exact Looks.pure _
  · exact Looks.pure _

theorem looks_linkBoundsLeftBehind : Looks Executor.mutates linkBoundsLeftBehind := by
  unfold linkBoundsLeftBehind
  apply Looks.bind (looks_during rfl)
  intro rules
  apply Looks.ite (Looks.pure _)
  apply Looks.bind (looks_during rfl)
  intro unit
  apply Looks.ite (Looks.pure _)
  apply Looks.bind (looks_during rfl)
  intro policy
  exact Looks.pure _

/-- Posing the bounds writes the rules at least. -/
theorem poseLinkBounds_effective (placement : LinkPlacement) (servicePort : Int64) :
    Procedure.Effective Executor.mutates (poseLinkBounds placement servicePort) := by
  unfold poseLinkBounds
  apply Procedure.Effective.after
  intro relaxed
  exact Procedure.Effective.before (effective_during rfl)

end YourCloud.Auxiliary
