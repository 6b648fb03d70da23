import Mathlib.Logic.Function.Basic
import Mathlib.Tactic.Simps.Basic
import YourCloud.Auxiliary.Engine

/-!
# A machine under its Auxiliary

What a machine is to the operations of the Auxiliary: its files, its accounts and what
runs under each of them, what its kernel took from a file, what it does at boot, and
the passage it holds.

An effect is a sequence of steps, each of which is taken whole or not at all.  A
call that fails has taken some of the steps of its effect; which calls fail and
after how many steps is left open, and so is what the machine draws by itself: the
number of a new account, a new key, the archive of some data.  Whether an image is
there and what answers on a port is no matter of the machine as it is described here.

## Main results

* `Host.mem_slugs`, `Host.sorted_slugs` — the user services a machine has a sheet of.
* `respond_looks` — a call that only reads leaves the machine as it is.
-/

namespace YourCloud.Auxiliary

open YourCloud.Foundation

/-! ## Where the sheets lie -/

/-- Where the sheet of an account's service lies. -/
def sheetPathOf (account : Bytes) : Bytes :=
  homeRoot ++ account ++ text "/.config/containers/systemd/" ++ account ++ text ".container"

theorem join_of_ne {directory name : Bytes} (hdirectory : directory ≠ []) (hname : name ≠ []) :
    join directory name = directory ++ text "/" ++ name := by
  rw [join, if_neg hdirectory, if_neg hname]

theorem unitPath_named {placement : Placement} {account : Bytes}
    (hhome : placement.home = homeRoot ++ account)
    (hfile : placement.unitFileName = account ++ text ".container") :
    placement.unitPath = sheetPathOf account := by
  have hhomed : homeRoot ++ account ≠ [] := List.append_ne_nil_of_left_ne_nil (by decide) _
  have hquadlet : Placement.quadletDirectory ≠ [] := by decide
  have hnamed : account ++ text ".container" ≠ [] := List.append_ne_nil_of_right_ne_nil _ (by decide)
  have hdirectory : homeRoot ++ account ++ text "/" ++ Placement.quadletDirectory ≠ [] :=
    List.append_ne_nil_of_right_ne_nil _ hquadlet
  have hslashes : text "/" ++ (Placement.quadletDirectory ++ text "/") =
      text "/.config/containers/systemd/" := by decide
  rw [Placement.unitPath, Placement.sheetDirectory, hhome, hfile, join_of_ne hhomed hquadlet,
    join_of_ne hdirectory hnamed, sheetPathOf, ← hslashes]
  simp only [List.append_assoc]

/-- The user service whose sheet lies at a path, where there is one. -/
def sheetOwner (path : Bytes) : Option Bytes :=
  ((cutPrefix (homeRoot ++ text "your-cloud-user-") path).map fun below =>
    below.takeWhile fun b => b ≠ 0x2F).filter fun slug =>
      validateSlug slug && (userServicePlacementOfSlug slug).unitPath == path

/-! ## What a sheet says -/

/-- The image the service of a sheet is started from. -/
def imageNamed (sheet : Bytes) : Bytes :=
  ((splitOn 0x0A sheet).findSome? (cutPrefix (text "Image="))).getD []

theorem splitOn_lines {line : Bytes} {rest : List Bytes} (h : 0x0A ∉ line) :
    splitOn 0x0A (lines (line :: rest)) = line :: splitOn 0x0A (lines rest) := by
  have hcons : lines (line :: rest) = line ++ 0x0A :: lines rest := by
    show line ++ text "\n" ++ lines rest = _
    rw [List.append_assoc]
    rfl
  rw [hcons, splitOn, List.splitOn, List.splitOnP_append_cons_of_forall_mem]
  · rfl
  · intro b hb
    rw [beq_eq_false_iff_ne]
    rintro rfl
    exact h hb
  · rfl

theorem cutPrefix_append (start rest : Bytes) : cutPrefix start (start ++ rest) = some rest := by
  have hprefix : start.isPrefixOf (start ++ rest) = true :=
    List.isPrefixOf_iff_prefix.2 (List.prefix_append _ _)
  rw [cutPrefix, if_pos hprefix, List.drop_left]

/-! ## The machine -/

/-- A number an account may have. -/
abbrev Identifier := { identifier : Int64 // identifier ≠ noAccountIdentifier }

structure Host where
  systemd : Bool
  unifiedCgroupHierarchy : Bool
  podmanPresent : Bool
  /-- Which accounts can run Podman rootless, once they are there. -/
  rootless : Bytes → Bool
  files : Bytes → Option Bytes
  /-- Where files were written. -/
  paths : List Bytes
  /-- What the kernel took from a file: a table of rules, or a setting. -/
  loaded : Bytes → Option Bytes
  /-- Which units of the machine run at boot, by their files. -/
  atBoot : Bytes → Bool
  /-- The sheet that the manager of an account has read. -/
  units : Bytes → Option Bytes
  /-- The image that the container of an account's service was made from, where it runs. -/
  container : Bytes → Option Bytes
  /-- Whose services are started at boot. -/
  lingering : Bytes → Bool
  accounts : Bytes → Option Identifier
  directories : Bytes → Bool
  /-- The keys that a file of generated values declares. -/
  secrets : Bytes → Option (List Bytes)
  /-- The public half of the machine's own key of the passage. -/
  linkKey : Option Bytes
  linkUp : Bool
  /-- Whether the network manager runs that holds the passage. -/
  networkManaged : Bool
  known : ∀ path, (files path).isSome = true → path ∈ paths
  apart : paths.Nodup

def hostPortsPolicyPath : Bytes := text "/etc/sysctl.d/your-cloud-entrypoint.conf"

namespace Host

variable (host : Host)

/-! ### What is read off it -/

def capabilities (account : Bytes) : Capabilities where
  systemd := host.systemd
  unifiedCgroupHierarchy := host.unifiedCgroupHierarchy
  podmanPresent := host.podmanPresent
  accountPresent := (host.accounts account).isSome
  rootlessPodman := (host.accounts account).isSome && host.podmanPresent && host.rootless account

/-- Where there are files. -/
def present : List Bytes := host.paths.filter fun path => (host.files path).isSome

/-- The files of a directory that end so, by what stands before the ending. -/
def entries (directory ending : Bytes) : List Bytes :=
  host.present.filterMap fun path => (cutPrefix (directory ++ text "/") path).bind fun name =>
    if 0x2F ∈ name then none else cutSuffix ending name

/-- The user services that have a sheet here, in order. -/
def slugs : List Bytes := sortStrings (host.present.filterMap sheetOwner)

/-- The names of the fragments, in order. -/
def fragments : List Bytes :=
  sortStrings ((host.entries entrypointFragmentDirectory (text ".yaml")).map (· ++ text ".yaml"))

/-- The slots of a directory that hold an archive, but for the reserved one. -/
def archives (directory : Bytes) : List Bytes :=
  sortStrings ((host.entries directory Placement.archiveSuffix).filter (· ≠ reservedSnapshotSlot))

/-! ### What is changed of it -/

/-- A file written. -/
@[simps]
def write (path content : Bytes) : Host :=
  { host with
    files := Function.update host.files path (some content)
    paths := host.paths.insert path
    known := by
      intro path' hpresent
      by_cases hsame : path' = path
      · rw [hsame]
        exact List.mem_insert_self
      · rw [Function.update_of_ne hsame] at hpresent
        exact List.mem_insert_of_mem (host.known path' hpresent)
    apart := host.apart.insert }

/-- A file taken away. -/
@[simps]
def erase (path : Bytes) : Host :=
  { host with
    files := Function.update host.files path none
    known := by
      intro path' hpresent
      by_cases hsame : path' = path
      · rw [hsame, Function.update_self] at hpresent
        cases hpresent
      · rw [Function.update_of_ne hsame] at hpresent
        exact host.known path' hpresent }

/-- What the kernel takes from a file, or drops. -/
@[simps]
def load (path : Bytes) (content : Option Bytes) : Host :=
  { host with loaded := Function.update host.loaded path content }

@[simps]
def setAtBoot (path : Bytes) (enabled : Bool) : Host :=
  { host with atBoot := Function.update host.atBoot path enabled }

/-- The manager of an account reads its sheet again. -/
@[simps]
def reload (account : Bytes) : Host :=
  { host with units := Function.update host.units account (host.files (sheetPathOf account)) }

/-- The service of an account runs from an image, or runs no more. -/
@[simps]
def run (account : Bytes) (image : Option Bytes) : Host :=
  { host with container := Function.update host.container account image }

@[simps]
def linger (account : Bytes) : Host :=
  { host with lingering := Function.update host.lingering account true }

@[simps]
def addAccount (account : Bytes) (identifier : Identifier) : Host :=
  { host with accounts := Function.update host.accounts account (some identifier) }

@[simps]
def addDirectory (path : Bytes) : Host :=
  { host with directories := Function.update host.directories path true }

@[simps]
def setSecrets (path : Bytes) (keys : List Bytes) : Host :=
  { host with secrets := Function.update host.secrets path (some keys) }

@[simps]
def setLinkKey (key : Option Bytes) : Host := { host with linkKey := key }

@[simps]
def setLinkUp (up : Bool) : Host := { host with linkUp := up }

@[simps]
def manageNetwork : Host := { host with networkManaged := true }

/-- The network manager raises the passage where it finds a description of it. -/
def raiseLink : Host := host.setLinkUp (host.linkUp || (host.files linkNetdevPath).isSome)

end Host

/-! ## What it answers -/

/-- What becomes of one call. -/
structure Reply where
  /-- The call fails, with an error and after so many of its steps. -/
  failing : Option (Bytes × Nat)
  /-- The number of an account that is made now. -/
  identifier : Identifier
  /-- The public half of a key that is drawn now. -/
  linkKey : Bytes
  /-- The archive that is written now, and what its file holds. -/
  archive : Archive
  archived : Bytes

namespace Reply

variable (reply : Reply)

def answers {α : Type} (a : α) : Except Bytes α :=
  match reply.failing with
  | none => .ok a
  | some (why, _) => .error why

/-- What the steps of an effect leave, those that were taken. -/
def takes (steps : List (Host → Host)) (host : Host) : Host :=
  let taken := match reply.failing with
    | none => steps
    | some (_, n) => steps.take n
  taken.foldl (fun host step => step host) host

/-- An effect that answers nothing. -/
def acts (steps : List (Host → Host)) (host : Host) : Except Bytes Unit × Host :=
  (reply.answers (), reply.takes steps host)

/-- An effect on what an account has. -/
def actsFor (account : Bytes) (steps : List (Host → Host)) (host : Host) :
    Except Bytes Unit × Host :=
  if (host.accounts account).isSome then reply.acts steps host
  else (.error (text "the account " ++ account ++ text " does not exist on this machine"), host)

end Reply

/-- A call, as the machine answers it. -/
def respond : (call : Executor) → Reply → Host → call.Outcome × Host
  | .capabilities account, reply, host => (reply.answers (host.capabilities account), host)
  | .createProbeAccount account _ _, reply, host =>
      if (host.accounts account).isSome then
        (.error (text "useradd: user '" ++ account ++ text "' already exists"), host)
      else reply.acts [(Host.addAccount · account reply.identifier)] host
  | .enableLinger account, reply, host => reply.actsFor account [(Host.linger · account)] host
  | .readUnitFile path, reply, host => (reply.answers (host.files path), host)
  | .writeUnitFile path content, reply, host => reply.acts [(Host.write · path content)] host
  | .removeUnitFile path, reply, host => reply.acts [(Host.erase · path)] host
  | .ensureEntrypointDirectories, reply, host =>
      reply.acts [(Host.addDirectory · (text "/etc/your-cloud/entrypoint")),
        (Host.addDirectory · entrypointFragmentDirectory),
        (Host.addDirectory · entrypointCertificateDirectory)] host
  | .listRouteFragments, reply, host => (reply.answers host.fragments, host)
  | .hostPortsPolicy, reply, host => (reply.answers (host.files hostPortsPolicyPath), host)
  | .writeHostPortsPolicy content, reply, host =>
      reply.acts [(Host.write · hostPortsPolicyPath content),
        (Host.load · hostPortsPolicyPath (some content))] host
  | .removeHostPortsPolicy, reply, host =>
      reply.acts [(Host.erase · hostPortsPolicyPath), (Host.load · hostPortsPolicyPath none)] host
  | .reloadUserUnits account, reply, host => reply.actsFor account [(Host.reload · account)] host
  | .startService account service, reply, host =>
      match host.container account, host.units account with
      | some _, _ => reply.acts [] host
      | none, some sheet => reply.acts [(Host.run · account (some (imageNamed sheet)))] host
      | none, none => (.error (text "Unit " ++ service ++ text " not found."), host)
  | .stopService account _, reply, host => reply.acts [(Host.run · account none)] host
  | .serviceActive account _, reply, host =>
      (reply.answers (host.container account).isSome, host)
  | .containerImage account _, reply, host =>
      (reply.answers ((host.container account).getD []), host)
  | .linkPublicKey, reply, host => (reply.answers host.linkKey, host)
  | .generateLinkKey, reply, host =>
      if host.linkKey.isSome then (.error (linkPrivateKeyPath ++ text ": file exists"), host)
      else (reply.answers reply.linkKey, reply.takes [(Host.setLinkKey · (some reply.linkKey))] host)
  | .removeLinkKey, reply, host => reply.acts [(Host.setLinkKey · none)] host
  | .linkInterfaceActive, reply, host => (reply.answers host.linkUp, host)
  | .removeLinkInterface, reply, host => reply.acts [(Host.setLinkUp · false)] host
  | .linkRules, reply, host => (reply.answers (host.files linkRulesPath), host)
  | .writeLinkRules content, reply, host =>
      reply.acts [(Host.write · linkRulesPath content), (Host.load · linkRulesPath (some content))]
        host
  | .removeLinkRules, reply, host =>
      reply.acts [(Host.load · linkRulesPath none), (Host.erase · linkRulesPath)] host
  | .linkLoopbackPolicy, reply, host => (reply.answers (host.files linkLoopbackPolicyPath), host)
  | .writeLinkLoopbackPolicy content, reply, host =>
      reply.acts [(Host.write · linkLoopbackPolicyPath content),
        (Host.load · linkLoopbackPolicyPath (some content))] host
  | .removeLinkLoopbackPolicy, reply, host =>
      reply.acts [(Host.erase · linkLoopbackPolicyPath), (Host.load · linkLoopbackPolicyPath none)]
        host
  | .enableLinkRulesAtBoot, reply, host =>
      reply.acts [(Host.setAtBoot · linkRulesUnitPath true)] host
  | .disableLinkRulesAtBoot, reply, host =>
      reply.acts [(Host.setAtBoot · linkRulesUnitPath false)] host
  | .accountIdentifier account, reply, host =>
      match host.accounts account with
      | some identifier => (reply.answers identifier.1, host)
      | none =>
          (.error (text "the account " ++ account ++ text " does not exist on this machine"), host)
  | .serviceDataPresent path, reply, host => (reply.answers (host.directories path), host)
  | .ensureServiceData account dataDirectories snapshotDirectory, reply, host =>
      reply.actsFor account
        ((dataDirectories ++ [snapshotDirectory]).map fun path => (Host.addDirectory · path)) host
  | .serviceSecretsPresent _ environmentFile keys, reply, host =>
      (reply.answers (host.secrets environmentFile == some keys), host)
  | .ensureServiceSecrets account directory environmentFile keys, reply, host =>
      reply.actsFor account
        [(Host.addDirectory · directory), (Host.setSecrets · environmentFile keys)] host
  | .managedUserServiceSlugs, reply, host => (reply.answers host.slugs, host)
  | .serviceArchives directory, reply, host => (reply.answers (host.archives directory), host)
  | .serviceArchivePresent path, reply, host => (reply.answers (host.files path).isSome, host)
  | .archiveServiceData _ path, reply, host =>
      if (host.files path).isSome then (.error (text "an archive already exists at " ++ path), host)
      else (reply.answers reply.archive, reply.takes [(Host.write · path reply.archived)] host)
  | .exchangeServiceData _ dataDirectory reservedPath, reply, host =>
      (reply.answers reply.archive,
        reply.takes [(Host.addDirectory · dataDirectory),
          (Host.write · reservedPath reply.archived)] host)
  | .removeServiceArchive path, reply, host => reply.acts [(Host.erase · path)] host
  | .egressRules path, reply, host => (reply.answers (host.files path), host)
  | .writeEgressRules path content, reply, host =>
      reply.acts [(Host.write · path content), (Host.load · path (some content))] host
  | .removeEgressRules path, reply, host =>
      reply.acts [(Host.load · path none), (Host.erase · path)] host
  | .enableEgressRulesAtBoot, reply, host =>
      reply.acts [(Host.setAtBoot · egressRulesUnitPath true)] host
  | .disableEgressRulesAtBoot, reply, host =>
      reply.acts [(Host.setAtBoot · egressRulesUnitPath false)] host
  | .enableNetworkManagement, reply, host => reply.acts [Host.manageNetwork] host
  | .reloadNetworkConfiguration, reply, host =>
      if host.networkManaged then reply.acts [Host.raiseLink] host
      else (.error (text "networkctl: systemd-networkd is not running"), host)
  | .pullImage _ _, reply, host | .removeImage _ _, reply, host
  | .probeAnswers _ _, reply, host | .entrypointAnswers, reply, host
  | .routeAnswers _, reply, host | .linkRouteAnswers _, reply, host => reply.acts [] host

/-- A machine, and what becomes of each call to come. -/
structure Attendance where
  host : Host
  replies : Nat → Reply

def attended (call : Executor) (c : Attendance) : call.Outcome × Attendance :=
  let answered := respond call (c.replies 0) c.host
  (answered.1, ⟨answered.2, fun n => c.replies (n + 1)⟩)

theorem Reply.takes_nil (reply : Reply) (host : Host) : reply.takes [] host = host := by
  unfold Reply.takes
  cases reply.failing with
  | none => rfl
  | some failing =>
      dsimp only
      rw [List.take_nil]
      rfl

/-- A call that only reads leaves the machine as it is. -/
theorem respond_looks {call : Executor} (h : call.mutates = false) (reply : Reply) (host : Host) :
    (respond call reply host).2 = host := by
  have hnothing := reply.takes_nil host
  cases call with
  | accountIdentifier account =>
      cases haccount : host.accounts account <;> simp only [respond, haccount]
  | probeAnswers _ _ => exact hnothing
  | entrypointAnswers => exact hnothing
  | routeAnswers _ => exact hnothing
  | linkRouteAnswers _ => exact hnothing
  | _ => first | rfl | cases h

end YourCloud.Auxiliary
