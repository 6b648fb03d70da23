import YourCloud.Auxiliary.Routes

/-!
# Preparing the passage and joining its peers

A machine prepares its side of the passage, attaches one peer to it and undoes
both in turn.  A preparation keeps the junction that is there, and a junction
poses its bounds before the peer they bound.
-/

namespace YourCloud.Auxiliary

open YourCloud.Foundation
open Operation (settle proceed Accounts)
open Procedure (whenever Effective Tells)

def linkApplication (subject : Instance) (state : Bytes) (changed : Bool) : Application :=
  { reported subject changed with unitPath := linkNetdevPath, serviceState := state }

def readNetwork : Acts (Option Bytes) :=
  during "read the passage's current addressing" (ask (.readUnitFile linkNetworkPath))

def readNetdev : Acts (Option Bytes) :=
  during "read the passage's current description" (ask (.readUnitFile linkNetdevPath))

def readLinkKey : Acts (Option Bytes) :=
  during "read this machine's own passage key" (ask .linkPublicKey)

def readInterface : Acts Bool :=
  during "read the current state of yc-link0" (ask .linkInterfaceActive)

def readRole (currentNetwork : Option Bytes) : Acts (Option LinkPlacement) :=
  given (roleNamedBy currentNetwork)

/-! ## The passage itself -/

/-- This machine's own key, generated where there is none. -/
def ownKey : Option Bytes → Acts Bytes
  | some publicKey => pure publicKey
  | none => during "generate this machine's own passage key" (ask .generateLinkKey)

def prepareLink (subject : Instance) : Acts Examination := do
  let placement ← given (linkPlacementFor subject.linkRole)
  let currentNetwork ← readNetwork
  let held ← readRole currentNetwork
  whenever (held.any fun other => other.role != placement.role)
    (refuse (text "this machine already holds the passage as the " ++
      (held.map LinkPlacement.role).getD [] ++ text " and the approved plan prepares it as the " ++
      placement.role ++ text (": a machine has one role per link, so changing it is a withdrawal " ++
        "followed by a preparation — two plans a human reads — and this one is refused before " ++
        "any effect")))
  let currentNetdev ← readNetdev
  let publicKey ← readLinkKey
  let established ← readInterface
  let desiredNetdev := renderLinkNetdev placement ++ sectionAfter currentNetdev linkPeerSectionMarker
  let desiredNetwork :=
    renderLinkNetwork placement ++ sectionAfter currentNetwork linkRouteSectionMarker
  if publicKey.isSome && currentNetdev == some desiredNetdev &&
      currentNetwork == some desiredNetwork && established then
    settle { linkApplication subject serviceStateActive false with
      linkPublicKey := publicKey.getD [] }
  else
    proceed do
      let publicKey ← ownKey publicKey
      during "write the passage's description" (ask (.writeUnitFile linkNetdevPath desiredNetdev))
      during "write the passage's addressing" (ask (.writeUnitFile linkNetworkPath desiredNetwork))
      during "make this machine's network manager hold the passage" (ask .enableNetworkManagement)
      during "make the network manager read the passage" (ask .reloadNetworkConfiguration)
      let established ← during "read yc-link0 back after describing it" (ask .linkInterfaceActive)
      whenever (!established)
        (refuse (text "the passage was described but " ++ linkInterfaceName ++
          text (" never appeared: this machine held a described passage whose announced state was " ++
            "unproven")))
      return { linkApplication subject serviceStateActive true with linkPublicKey := publicKey }

def withdrawLink (subject : Instance) : Acts Examination := do
  let currentNetdev ← readNetdev
  whenever (sectionAfter currentNetdev linkPeerSectionMarker != [])
    (refuse (text "this machine still holds a junction on " ++ linkInterfaceName ++
      text (": withdrawing the passage would take that peer and its bounds away without a plan " ++
        "saying so, so it is refused before any effect and the junction is undone by its own " ++
        "approved plan first")))
  let bounded ← linkBoundsLeftBehind
  whenever bounded
    (refuse (text "this machine still holds the bounds of a junction on " ++ linkInterfaceName ++
      text (": withdrawing the passage would leave them behind with nothing left to bound, so it " ++
        "is refused before any effect and the junction is undone by its own approved plan first")))
  let currentNetwork ← readNetwork
  let publicKey ← readLinkKey
  let established ← readInterface
  if currentNetdev.isNone && currentNetwork.isNone && publicKey.isNone && !established then
    settle (linkApplication subject serviceStateAbsent false)
  else
    proceed do
      whenever established (during "take yc-link0 down" (ask .removeLinkInterface))
      whenever currentNetdev.isSome
        (during "remove the passage's description" (ask (.removeUnitFile linkNetdevPath)))
      whenever currentNetwork.isSome
        (during "remove the passage's addressing" (ask (.removeUnitFile linkNetworkPath)))
      whenever (currentNetdev.isSome || currentNetwork.isSome)
        (during "make the network manager forget the passage" (ask .reloadNetworkConfiguration))
      whenever publicKey.isSome
        (during "remove this machine's own passage key" (ask .removeLinkKey))
      return linkApplication subject serviceStateAbsent true

/-! ## Its peers -/

/-- Refused where the side that goes out would be bounded to a port nothing manages. -/
def requireBoundedService (placement : LinkPlacement) (servicePort : Int64) : Acts Unit :=
  whenever placement.goesOut do
    let published ← publishesLoopbackPort servicePort
    whenever (!published)
      (refuse (text "no managed service of this machine publishes " ++ loopbackAddress ++
        text ":" ++ numeral servicePort ++ text (": a passage bounded to a port nothing manages " ++
          "would be a passage towards whatever got to that port first, so it is refused before " ++
          "any effect")))

/-- The role a prepared passage is held in, for a plan of one of the two sides. -/
def requirePrepared (placement : LinkPlacement) (held : Option LinkPlacement)
    (currentNetdev publicKey : Option Bytes) : Acts Unit := do
  whenever (publicKey.isNone || currentNetdev.isNone || held.isNone)
    (refuse (text ("this machine holds no prepared passage: a junction attaches a peer to an " ++
      "interface and a key this machine already has, so it is refused before any effect and the " ++
      "preparation is applied by its own approved plan first")))
  whenever (held.any fun other => other.role != placement.role)
    (refuse (text "this machine holds the passage as the " ++
      (held.map LinkPlacement.role).getD [] ++ text " and the approved plan is the " ++
      placement.role ++ text ("'s junction: the two sides are not interchangeable, so this " ++
        "junction is refused before any effect")))

def joinLinkPeer (subject : Instance) : Acts Examination := do
  let placement ← given (linkPlacementFor subject.linkRole)
  let currentNetwork ← readNetwork
  let held ← readRole currentNetwork
  let currentNetdev ← readNetdev
  let publicKey ← readLinkKey
  requirePrepared placement held currentNetdev publicKey
  requireBoundedService placement subject.servicePort
  let bounds ← readLinkBounds placement subject.servicePort
  let established ← readInterface
  let desiredNetdev := renderLinkNetdev placement ++
    renderLinkPeerSection placement subject.peerPublicKey subject.peerEndpointHost
  let desiredNetwork := renderLinkNetwork placement ++ renderLinkRouteSection placement
  if currentNetdev == some desiredNetdev && currentNetwork == some desiredNetwork &&
      bounds.held && established then
    settle (linkApplication subject serviceStateActive false)
  else
    proceed do
      poseLinkBounds placement subject.servicePort
      during "write the peer of the passage" (ask (.writeUnitFile linkNetdevPath desiredNetdev))
      during "write the route of the passage" (ask (.writeUnitFile linkNetworkPath desiredNetwork))
      during "make the network manager read the junction" (ask .reloadNetworkConfiguration)
      return linkApplication subject serviceStateActive true

/-- Refused unless the junction to undo is the one that is held. -/
def requireOwnPeer (placement : LinkPlacement) (currentNetwork : Option Bytes)
    (peer peerPublicKey : Bytes) : Acts Unit := do
  let held ← readRole currentNetwork
  whenever (held.map LinkPlacement.role != some placement.role)
    (refuse (text "the approved plan undoes the " ++ placement.role ++
      text ("'s junction and this machine does not hold the passage in that role: it is refused " ++
        "before any effect")))
  whenever (peer != [] && !contains peer (text "\nPublicKey=" ++ peerPublicKey ++ text "\n"))
    (refuse (text ("this machine holds another peer than the one the approved plan names: undoing " ++
      "it would take away a junction no human approved the removal of, so it is refused before " ++
      "any effect")))

def partLinkPeer (subject : Instance) : Acts Examination := do
  let placement ← given (linkPlacementFor subject.linkRole)
  let currentNetdev ← readNetdev
  let currentNetwork ← readNetwork
  let peer := sectionAfter currentNetdev linkPeerSectionMarker
  let route := sectionAfter currentNetwork linkRouteSectionMarker
  let bounds ← readLinkBounds placement subject.servicePort
  if peer == [] && route == [] && !bounds.present then
    settle (linkApplication subject serviceStateAbsent false)
  else do
    requireOwnPeer placement currentNetwork peer subject.peerPublicKey
    proceed do
      during "remove the peer of the passage"
        (ask (.writeUnitFile linkNetdevPath (renderLinkNetdev placement)))
      during "remove the route of the passage"
        (ask (.writeUnitFile linkNetworkPath (renderLinkNetwork placement)))
      during "make the network manager read the detachment" (ask .reloadNetworkConfiguration)
      removeLinkBounds bounds
      return linkApplication subject serviceStateAbsent true

/-! ### The account they give -/

theorem prepareLink_accounts (subject : Instance) :
    Accounts Executor.mutates Application.changed (prepareLink subject) := by
  unfold prepareLink
  apply Accounts.bind (looks_given _)
  intro placement
  apply Accounts.bind (looks_during rfl)
  intro currentNetwork
  apply Accounts.bind (looks_given _)
  intro held
  apply Accounts.bind (looks_refusal _ _)
  intro inRole
  apply Accounts.bind (looks_during rfl)
  intro currentNetdev
  apply Accounts.bind (looks_during rfl)
  intro publicKey
  apply Accounts.bind (looks_during rfl)
  intro established
  apply Accounts.ite
  · exact Accounts.settled rfl
  · intro hdrifted
    apply Accounts.effects
    · apply Effective.after
      intro publicKey
      exact Effective.before (effective_during rfl)
    · iterate 7
        apply Tells.bind
        intro done
      exact Tells.pure rfl

/-- Something of the passage is there, so that something of it is taken away. -/
theorem withdrawLink_accounts (subject : Instance) :
    Accounts Executor.mutates Application.changed (withdrawLink subject) := by
  unfold withdrawLink
  apply Accounts.bind (looks_during rfl)
  intro currentNetdev
  apply Accounts.bind (looks_refusal _ _)
  intro alone
  apply Accounts.bind looks_linkBoundsLeftBehind
  intro bounded
  apply Accounts.bind (looks_refusal _ _)
  intro unbounded
  apply Accounts.bind (looks_during rfl)
  intro currentNetwork
  apply Accounts.bind (looks_during rfl)
  intro publicKey
  apply Accounts.bind (looks_during rfl)
  intro established
  apply Accounts.ite
  · exact Accounts.settled rfl
  · intro hheld
    apply Accounts.effects
    · cases established with
      | true => exact Effective.before (effective_during rfl)
      | false =>
          apply Effective.after
          intro down
          cases currentNetdev with
          | some content => exact Effective.before (effective_during rfl)
          | none =>
              apply Effective.after
              intro described
              cases currentNetwork with
              | some content => exact Effective.before (effective_during rfl)
              | none =>
                  apply Effective.after
                  intro addressed
                  apply Effective.after
                  intro forgotten
                  cases publicKey with
                  | some key => exact Effective.before (effective_during rfl)
                  | none => exact absurd rfl hheld
    · iterate 5
        apply Tells.bind
        intro done
      exact Tells.pure rfl

theorem looks_requireBoundedService (placement : LinkPlacement) (servicePort : Int64) :
    Looks Executor.mutates (requireBoundedService placement servicePort) := by
  unfold requireBoundedService
  apply Looks.whenever
  apply Looks.bind (looks_publishesLoopbackPort _)
  intro published
  exact looks_refusal _ _

theorem joinLinkPeer_accounts (subject : Instance) :
    Accounts Executor.mutates Application.changed (joinLinkPeer subject) := by
  unfold joinLinkPeer
  apply Accounts.bind (looks_given _)
  intro placement
  apply Accounts.bind (looks_during rfl)
  intro currentNetwork
  apply Accounts.bind (looks_given _)
  intro held
  apply Accounts.bind (looks_during rfl)
  intro currentNetdev
  apply Accounts.bind (looks_during rfl)
  intro publicKey
  apply Accounts.bind (Looks.bind (looks_refusal _ _) fun _ => looks_refusal _ _)
  intro prepared
  apply Accounts.bind (looks_requireBoundedService _ _)
  intro managed
  apply Accounts.bind (looks_readLinkBounds _ _)
  intro bounds
  apply Accounts.bind (looks_during rfl)
  intro established
  apply Accounts.ite
  · exact Accounts.settled rfl
  · intro hdrifted
    apply Accounts.effects
    · exact Effective.before (poseLinkBounds_effective _ _)
    · iterate 4
        apply Tells.bind
        intro done
      exact Tells.pure rfl

theorem looks_requireOwnPeer (placement : LinkPlacement) (currentNetwork : Option Bytes)
    (peer peerPublicKey : Bytes) :
    Looks Executor.mutates (requireOwnPeer placement currentNetwork peer peerPublicKey) := by
  unfold requireOwnPeer
  apply Looks.bind (looks_given _)
  intro held
  apply Looks.bind (looks_refusal _ _)
  intro inRole
  exact looks_refusal _ _

theorem partLinkPeer_accounts (subject : Instance) :
    Accounts Executor.mutates Application.changed (partLinkPeer subject) := by
  unfold partLinkPeer
  apply Accounts.bind (looks_given _)
  intro placement
  apply Accounts.bind (looks_during rfl)
  intro currentNetdev
  apply Accounts.bind (looks_during rfl)
  intro currentNetwork
  apply Accounts.bind (looks_readLinkBounds _ _)
  intro bounds
  apply Accounts.ite
  · exact Accounts.settled rfl
  · intro hheld
    apply Accounts.bind (looks_requireOwnPeer _ _ _ _)
    intro own
    apply Accounts.effects
    · exact Effective.before (effective_during rfl)
    · iterate 4
        apply Tells.bind
        intro done
      exact Tells.pure rfl

/-! ## What can still be observed -/

def observedUnknown : Bytes := text "unknown"

def observedPresent : Bytes := text "present"

def observedAbsent : Bytes := text "absent"

def observedActive : Bytes := text "active"

def observedInactive : Bytes := text "inactive"

/-- How a presence is reported: unknown where it could not be read. -/
def observedPresence : Option Bool → Bytes
  | none => observedUnknown
  | some present => if present then observedPresent else observedAbsent

/-- How an activity is reported. -/
def observedActivity : Option Bool → Bytes
  | none => observedUnknown
  | some active => if active then observedActive else observedInactive

/-- Nothing observed. -/
def unobserved : AuxiliaryReport.Observation where
  account := []
  unitFile := []
  service := []
  container := []
  fragment := []
  linkKey := []
  linkInterface := []
  linkPeer := []
  linkBounds := []
  data := []
  egress := []
  archive := []

def observeLink : Converses AuxiliaryReport.Observation := do
  let netdev ← (ask (.readUnitFile linkNetdevPath)).passedOver
  let publicKey ← (ask .linkPublicKey).passedOver
  let established ← (ask .linkInterfaceActive).passedOver
  let bounded ← linkBoundsLeftBehind.passedOver
  return { unobserved with
    unitFile := observedPresence (netdev.map Option.isSome)
    linkPeer := observedPresence
      (netdev.map fun content => sectionAfter content linkPeerSectionMarker != [])
    linkKey := observedPresence (publicKey.map Option.isSome)
    linkInterface := observedActivity established
    linkBounds := observedPresence bounded }

theorem looks_observeLink : Looks Executor.mutates observeLink := by
  unfold observeLink
  apply Looks.next (looks_ask rfl).passedOver
  intro netdev
  apply Looks.next (looks_ask rfl).passedOver
  intro publicKey
  apply Looks.next (looks_ask rfl).passedOver
  intro established
  apply Looks.next looks_linkBoundsLeftBehind.passedOver
  intro bounded
  exact Looks.done _

end YourCloud.Auxiliary
