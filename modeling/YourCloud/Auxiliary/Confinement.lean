import YourCloud.Auxiliary.Executor
import YourCloud.Auxiliary.Placement

/-!
# The confinement of service accounts

The accounts behind the private door may answer and may open nothing.  One table
of rules confines them all, with a unit that poses it again at boot, and both are
compared byte for byte with what the accounts of this machine call for.
-/

namespace YourCloud.Auxiliary

open YourCloud.Foundation
open Procedure (whenever)

def egressTable : Bytes := text "inet your-cloud-egress"

def egressRulesPath : Bytes := text "/etc/your-cloud/egress/rules.nft"

def egressRulesUnitPath : Bytes := text "/etc/systemd/system/your-cloud-egress-rules.service"

def nftProgram : Bytes := text "/usr/sbin/nft"

structure ConfinedAccount where
  account : Bytes
  identifier : Int64
  deriving DecidableEq, Repr

/-! ## The rules -/

def egressRulesPreamble (confined : List ConfinedAccount) : List Bytes :=
  writtenFromPlan ++ text "#" ::
    match confined with
    | [one] =>
        [text "# This table only ever takes traffic away from one service account. Its chain",
          text "# carries an accept policy and drops what that account may not emit, so nothing",
          text "# here can grant this machine anything it did not already do. Every rule below is",
          text "# scoped to that account, and there is no exception.",
          text "#",
          text "# The confined account is " ++ one.account ++ text "."]
    | _ =>
        [text "# This table only ever takes traffic away from the service accounts named below.",
          text "# Its chain carries an accept policy and drops what those accounts may not emit,",
          text "# so nothing here can grant this machine anything it did not already do. Every",
          text "# rule below is scoped to one of them, and there is no exception.",
          text "#",
          text "# The confined accounts are:"] ++
        -- The names are joined: without one of them an empty line stands there.
        (if confined = [] then [[]]
          else confined.map fun subject => text "#   " ++ subject.account)

/-- The rules of one account. -/
def accountRules (subject : ConfinedAccount) : List Bytes :=
  let scope := text "\t\tmeta skuid " ++ numeral subject.identifier
  [[],
    text "\t\t# The loopback of this machine, and it grants nothing outward. The sheet",
    text "\t\t# of the account below publishes on the loopback alone, so this is the",
    text "\t\t# line by which the port a human approved answers the machine it lives",
    text "\t\t# on — the local verification of a deployment included. Nothing beyond",
    text "\t\t# this host is reachable through it.",
    scope ++ text " oifname \"lo\" accept",
    [],
    text "\t\t# The replies of connections somebody else opened towards this service,",
    text "\t\t# and the whole of what may leave this machine on its behalf. The related",
    text "\t\t# state is deliberately not accepted beside the established one: what the",
    text "\t\t# contract names is replies, and an ICMP error carried on behalf of a",
    text "\t\t# confined account is not one.",
    scope ++ text " ct state established accept",
    [],
    text "\t\t# Everything else this account emits, in one line and with no exception",
    text "\t\t# above it: no neighbour of the LAN, no registry, no name server, no mail",
    text "\t\t# relay. A new connection this service opens is refused wherever it was",
    text "\t\t# going, which is what makes \"aucun voisin du LAN n'est joignable depuis",
    text "\t\t# le service\" a fact of this machine rather than a claim about a network.",
    scope ++ text " drop"]

def renderEgressRules (confined : List ConfinedAccount) : Bytes :=
  lines (egressRulesPreamble confined ++
    [text "add table " ++ egressTable,
      text "delete table " ++ egressTable,
      text "table " ++ egressTable ++ text " \x7b",
      text "\tchain output \x7b",
      text "\t\ttype filter hook output priority filter; policy accept;"] ++
    confined.flatMap accountRules ++
    [text "\t\x7d", text "\x7d"])

def renderEgressRulesUnit : Bytes :=
  lines (writtenFromPlan ++
    [text "[Unit]",
      text "Description=Your Cloud private service egress confinement",
      text "DefaultDependencies=no",
      text "Wants=network-pre.target",
      text "Before=network-pre.target",
      text "ConditionPathExists=" ++ egressRulesPath,
      [],
      text "[Service]",
      text "Type=oneshot",
      text "RemainAfterExit=yes",
      text "ExecStart=" ++ nftProgram ++ text " --file " ++ egressRulesPath,
      [],
      text "[Install]",
      text "WantedBy=sysinit.target"])

/-! ## What the machine holds of them -/

structure EgressBoundsState where
  rulesPresent : Bool
  unitPresent : Bool
  /-- What is held is what is called for. -/
  held : Bool
  deriving DecidableEq, Repr

def readEgressBounds (desired : List ConfinedAccount) : Acts EgressBoundsState := do
  let currentRules ← during "read the confinement this machine holds on its service accounts"
    (ask (.egressRules egressRulesPath))
  let currentUnit ← during "read the unit that poses the confinement at boot"
    (ask (.readUnitFile egressRulesUnitPath))
  let held :=
    if desired = [] then currentRules.isNone && currentUnit.isNone
    else currentRules == some (renderEgressRules desired) &&
      currentUnit == some renderEgressRulesUnit
  return ⟨currentRules.isSome, currentUnit.isSome, held⟩

def noAccountIdentifier : Int64 := -1

def joinedBy (placement : Placement) : Acts ConfinedAccount := do
  let identifier ← (ask (.accountIdentifier placement.account)).reword fun cause =>
    text "read the identifier of the " ++ placement.account ++ text " account: " ++ cause
  return ⟨placement.account, identifier⟩

/-- The accounts of the profiles that have a sheet here. -/
def confinedProfiles : List (Bytes × Placement) → Acts (List ConfinedAccount)
  | [] => return []
  | (profile, placement) :: profiles =>
      if placement.confined then do
        let sheet ← (ask (.readUnitFile placement.unitPath)).reword fun cause =>
          text "read the sheet of the " ++ profile ++ text " profile: " ++ cause
        if sheet.isNone then confinedProfiles profiles
        else do
          let joined ← joinedBy placement
          let others ← confinedProfiles profiles
          return joined :: others
      else confinedProfiles profiles

/-- The accounts of the user services that are here. -/
def confinedSlugs : List Bytes → Acts (List ConfinedAccount)
  | [] => return []
  | slug :: slugs => do
      let joined ← joinedBy (userServicePlacementOfSlug slug)
      let others ← confinedSlugs slugs
      return joined :: others

/-- The accounts in the order of their names. -/
def byAccount (confined : List ConfinedAccount) : List ConfinedAccount :=
  confined.insertionSort fun first second => first.account ≤ second.account

def confinedAccounts : Acts (List ConfinedAccount) := do
  let profiles ← confinedProfiles privateProfilePlacements
  let slugs ← during "read the user services this machine holds" (ask .managedUserServiceSlugs)
  let users ← confinedSlugs slugs
  return byAccount (profiles ++ users)

/-- The accounts to confine once a service is here. -/
def confinementJoinedBy (placement : Placement) (identifier : Int64) :
    Acts (List ConfinedAccount) := do
  let confined ← confinedAccounts
  if !placement.confined || identifier == noAccountIdentifier ||
      confined.any (fun subject => subject.account == placement.account) then
    return confined
  else
    return byAccount (confined ++ [⟨placement.account, identifier⟩])

/-- The accounts to confine once a service is gone. -/
def confinementLeftBy (placement : Placement) : Acts (List ConfinedAccount) := do
  let confined ← confinedAccounts
  return confined.filter fun subject => subject.account != placement.account

/-! ## Posing and lifting them -/

def poseEgressBounds (confined : List ConfinedAccount) : Acts Unit := do
  during "confine the service accounts to their own machine"
    (ask (.writeEgressRules egressRulesPath (renderEgressRules confined)))
  during "write the unit that poses the confinement at boot"
    (ask (.writeUnitFile egressRulesUnitPath renderEgressRulesUnit))
  during "make this machine pose the confinement again after a reboot"
    (ask .enableEgressRulesAtBoot)

def removeEgressBounds (state : EgressBoundsState) : Acts Unit := do
  whenever state.unitPresent do
    during "stop posing the confinement after a reboot" (ask .disableEgressRulesAtBoot)
    during "remove the unit that posed the confinement at boot"
      (ask (.removeUnitFile egressRulesUnitPath))
  whenever state.rulesPresent
    (during "lift the confinement of the service accounts" (ask (.removeEgressRules egressRulesPath)))

def settleEgressBounds (state : EgressBoundsState) (desired : List ConfinedAccount) :
    Acts Unit :=
  if desired = [] then removeEgressBounds state else poseEgressBounds desired

/-! ## What only reads -/

theorem looks_readEgressBounds (desired : List ConfinedAccount) :
    Looks Executor.mutates (readEgressBounds desired) := by
  unfold readEgressBounds
  apply Looks.bind (looks_during rfl)
  intro currentRules
  apply Looks.bind (looks_during rfl)
  intro currentUnit
  exact Looks.pure _

theorem looks_joinedBy (placement : Placement) : Looks Executor.mutates (joinedBy placement) := by
  unfold joinedBy
  apply Looks.bind (looks_ask rfl).reword
  intro identifier
  exact Looks.pure _

theorem looks_confinedProfiles (profiles : List (Bytes × Placement)) :
    Looks Executor.mutates (confinedProfiles profiles) := by
  induction profiles with
  | nil => exact Looks.pure _
  | cons profile profiles ih =>
      unfold confinedProfiles
      apply Looks.ite
      · apply Looks.bind (looks_ask rfl).reword
        intro sheet
        apply Looks.ite ih
        apply Looks.bind (looks_joinedBy _)
        intro joined
        apply Looks.bind ih
        intro others
        exact Looks.pure _
      · exact ih

theorem looks_confinedSlugs (slugs : List Bytes) :
    Looks Executor.mutates (confinedSlugs slugs) := by
  induction slugs with
  | nil => exact Looks.pure _
  | cons slug slugs ih =>
      unfold confinedSlugs
      apply Looks.bind (looks_joinedBy _)
      intro joined
      apply Looks.bind ih
      intro others
      exact Looks.pure _

theorem looks_confinedAccounts : Looks Executor.mutates confinedAccounts := by
  unfold confinedAccounts
  apply Looks.bind (looks_confinedProfiles _)
  intro profiles
  apply Looks.bind (looks_during rfl)
  intro slugs
  apply Looks.bind (looks_confinedSlugs _)
  intro users
  exact Looks.pure _

theorem looks_confinementJoinedBy (placement : Placement) (identifier : Int64) :
    Looks Executor.mutates (confinementJoinedBy placement identifier) := by
  unfold confinementJoinedBy
  apply Looks.bind looks_confinedAccounts
  intro confined
  exact Looks.ite (Looks.pure _) (Looks.pure _)

theorem looks_confinementLeftBy (placement : Placement) :
    Looks Executor.mutates (confinementLeftBy placement) := by
  unfold confinementLeftBy
  apply Looks.bind looks_confinedAccounts
  intro confined
  exact Looks.pure _

end YourCloud.Auxiliary
