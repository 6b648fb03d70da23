import YourCloud.Auxiliary.Passage
import YourCloud.Auxiliary.Services

/-!
# Publishing routes

A route is one fragment the entrypoint reads: towards a port of this machine, or
through the passage towards the port of a junction.  It is refused before any
effect where the entrypoint, the service or the junction it needs is not there,
or where the other kind of route holds its name.
-/

namespace YourCloud.Auxiliary

open YourCloud.Foundation
open Operation (settle proceed Accounts)
open Procedure (whenever Effective Tells)

def entrypointHostLoopbackAddress : Bytes := text "10.0.2.2"

def routeFragmentPath (host : Bytes) : Bytes :=
  entrypointFragmentDirectory ++ text "/" ++ host ++ text ".yaml"

/-- A fragment towards one backend; a route of this machine carries isolation headers. -/
def renderFragment (host address : Bytes) (backendPort : Int64) (isolated : Bool) : Bytes :=
  let name := quoted host
  lines (writtenFromPlan ++
    [text "http:",
      text "  routers:",
      text "    " ++ name ++ text ":",
      text "      rule: \"Host(`" ++ host ++ text "`)\"",
      text "      entryPoints:",
      text "        - websecure",
      text "      service: " ++ name] ++
    (if isolated then [text "      middlewares:", text "        - " ++ name] else []) ++
    [text "      tls: \x7b\x7d",
      text "  services:",
      text "    " ++ name ++ text ":",
      text "      loadBalancer:",
      text "        servers:",
      text "          - url: \"http://" ++ address ++ text ":" ++ numeral backendPort ++ text "\""] ++
    (if isolated then
      [text "  middlewares:",
        text "    " ++ name ++ text ":",
        text "      headers:",
        text "        customResponseHeaders:",
        text "          Cross-Origin-Opener-Policy: \"same-origin\"",
        text "          Cross-Origin-Embedder-Policy: \"require-corp\""]
    else []) ++
    [text "tls:",
      text "  certificates:",
      text "    - certFile: \"" ++ entrypointCertificateDirectory ++ text "/" ++ host ++ text ".crt\"",
      text "      keyFile: \"" ++ entrypointCertificateDirectory ++ text "/" ++ host ++ text ".key\""])

def renderRouteFragment (host : Bytes) (backendPort : Int64) : Bytes :=
  renderFragment host entrypointHostLoopbackAddress backendPort true

def renderLinkRouteFragment (host : Bytes) (backendPort : Int64) : Bytes :=
  renderFragment host linkInitiatorAddress backendPort false

/-! ## What a route needs -/

def managedProfiles : Acts (List Bytes) := do
  let slugs ← during "read the user services this machine holds" (ask .managedUserServiceSlugs)
  return sortStrings (profilePlacements.map Prod.fst ++ privateProfilePlacements.map Prod.fst ++ slugs)

/-- A sheet publishes a loopback port. -/
def publishes (published sheet : Bytes) : Bool :=
  (splitOn 0x0A sheet).any fun line => published.isPrefixOf (trimSpace line)

/-- The first profile whose sheet publishes a port. -/
def findPublishing (published : Bytes) : List Bytes → Acts (Option Bytes)
  | [] => return none
  | profile :: profiles => do
      let placement := (placementOf profile).getD Placement.zero
      let sheet ← (ask (.readUnitFile placement.unitPath)).reword fun cause =>
        text "read the sheet of the " ++ profile ++ text " profile: " ++ cause
      if sheet.any (publishes published) then return some profile
      else findPublishing published profiles

def publishingProfile (port : Int64) : Acts (Option Bytes) := do
  let profiles ← managedProfiles
  findPublishing (text "PublishPort=" ++ loopbackAddress ++ text ":" ++ numeral port ++ text ":")
    profiles

def publishesLoopbackPort (port : Int64) : Acts Bool := do
  let profile ← publishingProfile port
  return profile.isSome

/-- Refused unless a service of the public door publishes the port. -/
def requireManagedBackend (backendPort : Int64) : Acts Unit := do
  let backend := loopbackAddress ++ text ":" ++ numeral backendPort
  let profile ← publishingProfile backendPort
  match profile with
  | none =>
      refuse (text "no managed service of this machine publishes " ++ backend ++
        text ": a route towards a port nothing manages is refused before any effect")
  | some profile =>
      whenever (privateProfilePlacements.lookup profile).isSome
        (refuse (backend ++ text " is published by the " ++ profile ++ text (" profile, which " ++
          "lives behind the private door: a private service is published by the passage, not by " ++
          "a local route, so this route is refused before any effect")))

def requireEntrypointPresent : Acts Unit := do
  let sheet ← during "read the entrypoint's Quadlet sheet"
    (ask (.readUnitFile entrypointPlacement.unitPath))
  whenever sheet.isNone
    (refuse (text ("this machine holds no entrypoint: a route is served by the entry and cannot " ++
      "be published before it, so the route is refused before any effect")))

def fragmentKindLocal : Bytes := text "a route towards a service of this machine"

def fragmentKindPassage : Bytes := text "a route through the private passage"

/-- Refused where the other kind of route holds the name. -/
def requireUncontestedName (current : Option Bytes) (host heldAddress heldKind askedKind : Bytes) :
    Acts Unit :=
  whenever
    (current.any fun content => contains content (text "- url: \"http://" ++ heldAddress ++ text ":"))
    (refuse (text "this machine already publishes " ++ host ++ text " as " ++ heldKind ++
      text " and the approved plan publishes it as " ++ askedKind ++
      text (": a declared name is one claim, so what serves it does not change without that name " ++
        "being retired first, and this route is refused before any effect")))

/-- Refused unless this machine holds a junction bounded to the port. -/
def requireBoundedJunction (backendPort : Int64) : Acts Unit := do
  let currentNetwork ← during "read the passage's current addressing"
    (ask (.readUnitFile linkNetworkPath))
  let held ← given (roleNamedBy currentNetwork)
  whenever (held.map LinkPlacement.role != some linkListener.role)
    (refuse (text "this machine does not hold the passage as the " ++ linkListener.role ++
      text (": a name published through the passage is served by the side that answers the " ++
        "tunnel, so this route is refused before any effect")))
  let currentNetdev ← during "read the passage's current description"
    (ask (.readUnitFile linkNetdevPath))
  whenever (sectionAfter currentNetdev linkPeerSectionMarker == [])
    (refuse (text "this machine holds no junction on " ++ linkInterfaceName ++
      text (": a name published through the passage names a peer nothing has attached, so this " ++
        "route is refused before any effect and the junction is applied by its own approved " ++
        "plan first")))
  let rules ← during "read the bounds this machine holds on the passage" (ask .linkRules)
  match rules with
  | none =>
      refuse (text "this machine holds no bounds on " ++ linkInterfaceName ++
        text (": the port a published name reaches through the passage is the port an approved " ++
          "junction bounds, and this machine holds no table naming one, so this route is refused " ++
          "before any effect"))
  | some rules =>
      match approvedServicePort rules with
      | none =>
          refuse (text "the bounds this machine holds on " ++ linkInterfaceName ++
            text (" name no approved service port: the port a published name reaches cannot be " ++
              "read back, so this route is refused before any effect"))
      | some approved =>
          whenever (approved != backendPort)
            (refuse (text "the junction of this machine bounds the passage to " ++
              linkInitiatorAddress ++ text ":" ++ numeral approved ++
              text " and the approved plan publishes " ++ numeral backendPort ++
              text (": a fragment towards a port the tunnel does not bound is refused before any " ++
                "effect")))

/-- Whether this machine holds a junction. -/
def junctionState : Acts Bytes := do
  let current ← during "read the passage's current description" (ask (.readUnitFile linkNetdevPath))
  return if sectionAfter current linkPeerSectionMarker = [] then serviceStateAbsent
    else serviceStateActive

/-! ## Publishing and retiring -/

def routeApplication (subject : Instance) (state passage : Bytes) (changed : Bool) : Application :=
  { reported subject changed with
    routeHost := subject.routeHost
    fragmentPath := routeFragmentPath subject.routeHost
    serviceState := state
    passageState := passage }

def readFragment (path : Bytes) : Acts (Option Bytes) :=
  during "read the current route fragment" (ask (.readUnitFile path))

def publishRoute (subject : Instance) : Acts Examination := do
  let path := routeFragmentPath subject.routeHost
  let desired := renderRouteFragment subject.routeHost subject.backendPort
  requireEntrypointPresent
  requireManagedBackend subject.backendPort
  let current ← readFragment path
  requireUncontestedName current subject.routeHost linkInitiatorAddress fragmentKindPassage
    fragmentKindLocal
  if current == some desired then
    settle (routeApplication subject serviceStateActive [] false)
  else
    proceed do
      during "write the route fragment" (ask (.writeUnitFile path desired))
      (ask (.routeAnswers subject.routeHost)).reword fun cause =>
        text "the route fragment was written but " ++ subject.routeHost ++
          text " was not served with its isolation headers from " ++ loopbackAddress ++ text ":" ++
          numeral entrypointSecurePort ++ text (": this machine held a published route whose " ++
          "announced state was unproven: ") ++ cause
      return routeApplication subject serviceStateActive [] true

def retireRoute (subject : Instance) : Acts Examination := do
  let path := routeFragmentPath subject.routeHost
  let current ← readFragment path
  if current.isNone then
    settle (routeApplication subject serviceStateAbsent [] false)
  else
    proceed do
      during "remove the route fragment" (ask (.removeUnitFile path))
      return routeApplication subject serviceStateAbsent [] true

def publishLinkRoute (subject : Instance) : Acts Examination := do
  let path := routeFragmentPath subject.routeHost
  let desired := renderLinkRouteFragment subject.routeHost subject.backendPort
  requireEntrypointPresent
  requireBoundedJunction subject.backendPort
  let current ← readFragment path
  requireUncontestedName current subject.routeHost entrypointHostLoopbackAddress fragmentKindLocal
    fragmentKindPassage
  if current == some desired then
    settle (routeApplication subject serviceStateActive serviceStateActive false)
  else
    proceed do
      during "write the route fragment" (ask (.writeUnitFile path desired))
      (ask (.linkRouteAnswers subject.routeHost)).reword fun cause =>
        text "the route fragment was written but " ++ subject.routeHost ++
          text " was not served through the passage from " ++ loopbackAddress ++ text ":" ++
          numeral entrypointSecurePort ++ text (": this machine held a published route whose " ++
          "announced state was unproven: ") ++ cause
      return routeApplication subject serviceStateActive serviceStateActive true

def retireLinkRoute (subject : Instance) : Acts Examination := do
  let path := routeFragmentPath subject.routeHost
  let current ← readFragment path
  let passage ← junctionState
  if current.isNone then
    settle (routeApplication subject serviceStateAbsent passage false)
  else
    proceed do
      during "remove the route fragment" (ask (.removeUnitFile path))
      return routeApplication subject serviceStateAbsent passage true

/-! ### The account they give -/

theorem looks_managedProfiles : Looks Executor.mutates managedProfiles := by
  unfold managedProfiles
  apply Looks.bind (looks_during rfl)
  intro slugs
  exact Looks.pure _

theorem looks_findPublishing (published : Bytes) (profiles : List Bytes) :
    Looks Executor.mutates (findPublishing published profiles) := by
  induction profiles with
  | nil => exact Looks.pure _
  | cons profile profiles ih =>
      unfold findPublishing
      apply Looks.bind (looks_ask rfl).reword
      intro sheet
      exact Looks.ite (Looks.pure _) ih

theorem looks_publishingProfile (port : Int64) :
    Looks Executor.mutates (publishingProfile port) := by
  unfold publishingProfile
  apply Looks.bind looks_managedProfiles
  intro profiles
  exact looks_findPublishing _ _

theorem looks_publishesLoopbackPort (port : Int64) :
    Looks Executor.mutates (publishesLoopbackPort port) := by
  unfold publishesLoopbackPort
  apply Looks.bind (looks_publishingProfile _)
  intro profile
  exact Looks.pure _

theorem looks_requireManagedBackend (backendPort : Int64) :
    Looks Executor.mutates (requireManagedBackend backendPort) := by
  unfold requireManagedBackend
  apply Looks.bind (looks_publishingProfile _)
  intro profile
  cases profile with
  | none => exact looks_refuse _
  | some profile => exact looks_refusal _ _

theorem looks_requireEntrypointPresent : Looks Executor.mutates requireEntrypointPresent := by
  unfold requireEntrypointPresent
  apply Looks.bind (looks_during rfl)
  intro sheet
  exact looks_refusal _ _

theorem looks_requireBoundedJunction (backendPort : Int64) :
    Looks Executor.mutates (requireBoundedJunction backendPort) := by
  unfold requireBoundedJunction
  apply Looks.bind (looks_during rfl)
  intro currentNetwork
  apply Looks.bind (looks_given _)
  intro held
  apply Looks.bind (looks_refusal _ _)
  intro inRole
  apply Looks.bind (looks_during rfl)
  intro currentNetdev
  apply Looks.bind (looks_refusal _ _)
  intro joined
  apply Looks.bind (looks_during rfl)
  intro rules
  cases rules with
  | none => exact looks_refuse _
  | some rules =>
      dsimp only
      cases approvedServicePort rules with
      | none => exact looks_refuse _
      | some approved => exact looks_refusal _ _

theorem looks_junctionState : Looks Executor.mutates junctionState := by
  unfold junctionState
  apply Looks.bind (looks_during rfl)
  intro current
  exact Looks.pure _

theorem publishRoute_accounts (subject : Instance) :
    Accounts Executor.mutates Application.changed (publishRoute subject) := by
  unfold publishRoute
  apply Accounts.bind looks_requireEntrypointPresent
  intro present
  apply Accounts.bind (looks_requireManagedBackend _)
  intro managed
  apply Accounts.bind (looks_during rfl)
  intro current
  apply Accounts.bind (looks_refusal _ _)
  intro uncontested
  apply Accounts.ite
  · exact Accounts.settled rfl
  · intro hdrifted
    apply Accounts.effects
    · exact Effective.before (effective_during rfl)
    · iterate 2
        apply Tells.bind
        intro done
      exact Tells.pure rfl

theorem retireRoute_accounts (subject : Instance) :
    Accounts Executor.mutates Application.changed (retireRoute subject) := by
  unfold retireRoute
  apply Accounts.bind (looks_during rfl)
  intro current
  apply Accounts.ite
  · exact Accounts.settled rfl
  · intro hheld
    apply Accounts.effects
    · exact Effective.before (effective_during rfl)
    · apply Tells.bind
      intro removed
      exact Tells.pure rfl

theorem publishLinkRoute_accounts (subject : Instance) :
    Accounts Executor.mutates Application.changed (publishLinkRoute subject) := by
  unfold publishLinkRoute
  apply Accounts.bind looks_requireEntrypointPresent
  intro present
  apply Accounts.bind (looks_requireBoundedJunction _)
  intro bounded
  apply Accounts.bind (looks_during rfl)
  intro current
  apply Accounts.bind (looks_refusal _ _)
  intro uncontested
  apply Accounts.ite
  · exact Accounts.settled rfl
  · intro hdrifted
    apply Accounts.effects
    · exact Effective.before (effective_during rfl)
    · iterate 2
        apply Tells.bind
        intro done
      exact Tells.pure rfl

theorem retireLinkRoute_accounts (subject : Instance) :
    Accounts Executor.mutates Application.changed (retireLinkRoute subject) := by
  unfold retireLinkRoute
  apply Accounts.bind (looks_during rfl)
  intro current
  apply Accounts.bind looks_junctionState
  intro passage
  apply Accounts.ite
  · exact Accounts.settled rfl
  · intro hheld
    apply Accounts.effects
    · exact Effective.before (effective_during rfl)
    · apply Tells.bind
      intro removed
      exact Tells.pure rfl

end YourCloud.Auxiliary
