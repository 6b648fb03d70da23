import YourCloud.Auxiliary.PrivateServices

/-!
# Archiving and returning the data of a service

An archive is taken of a stopped service, discarded, or returned to.  A return
exchanges the data with the archive it names and leaves the state it replaced in
one reserved slot, so that the undoing of a return is another one, of that slot.
-/

namespace YourCloud.Auxiliary

open YourCloud.Foundation
open Operation (settle proceed Accounts)
open Procedure (whenever Effective Tells)

/-- The slot a return writes, which no human names. -/
def reservedSnapshotSlot : Bytes := text "previous"

/-- The port a sheet publishes on the loopback, where it can be read. -/
def publishedLoopbackPort (sheet : Bytes) : Option Int64 := do
  let rest ← ((splitOn 0x0A sheet).map trimSpace).findSome?
    (cutPrefix (text "PublishPort=" ++ loopbackAddress ++ text ":"))
  match splitOn 0x3A rest with
  | [port, _] => atoi port
  | _ => none

/-- Refused unless a service is placed there; its port on the loopback. -/
def requirePlacedService (placement : Placement) : Acts Int64 := do
  let sheet ← during "read the Quadlet sheet of this service"
    (ask (.readUnitFile placement.unitPath))
  match sheet with
  | none =>
      refuse (text "this machine holds no " ++ placement.account ++
        text (" service: an archive names an instance a plan deployed, so the operation is " ++
          "refused before any effect"))
  | some sheet =>
      match publishedLoopbackPort sheet with
      | none =>
          refuse (text "the sheet of the " ++ placement.account ++
            text (" service names no loopback port this machine can read: the operation is " ++
              "refused before any effect"))
      | some port => pure port

/-- A service put back as it was found, and proven to answer if it answered. -/
def restartAndProve (placement : Placement) (active : Bool) (port : Int64) : Acts Unit :=
  whenever active do
    during "start the service again" (ask (.startService placement.account placement.serviceName))
    (ask (.probeAnswers port placement.expectedContentType)).reword fun cause =>
      text "the service was started again but did not answer on " ++ loopbackAddress ++ text ":" ++
        numeral port ++ text (": this machine held a started service whose announced state was " ++
        "unproven: ") ++ cause

/-- The instant of an archive, to the second. -/
def archivedAt (archive : Archive) : Bytes :=
  (archive.takenAt.map fun instant => Rfc3339.format (instant - instant % 1000000000)).getD []

def archiveApplication (subject : Instance) (archive : Archive) (changed : Bool)
    (slots : List Bytes) : Application :=
  { reported subject changed with
    dataPath := subject.placement.dataDirectory
    snapshotSlot := subject.snapshotSlot
    archiveSHA256 := archive.sha256
    archivedAt := archivedAt archive
    snapshotSlots := slots }

def readActive (placement : Placement) : Acts Bool :=
  during "read the current service state"
    (ask (.serviceActive placement.account placement.serviceName))

def readArchivePresent (path : Bytes) : Acts Bool :=
  during "read the archives this machine holds for this service" (ask (.serviceArchivePresent path))

def snapshotService (subject : Instance) : Acts Examination := do
  let placement := subject.placement
  let archivePath := placement.archivePath subject.snapshotSlot
  let port ← requirePlacedService placement
  let dataPresent ← during "read the durable data of this service"
    (ask (.serviceDataPresent placement.dataDirectory))
  whenever (!dataPresent)
    (refuse (text "this machine holds no data at " ++ placement.dataDirectory ++
      text ": there is nothing to archive, so the operation is refused before any effect"))
  let taken ← readArchivePresent archivePath
  whenever taken
    (refuse (text "the slot " ++ quoted subject.snapshotSlot ++
      text (" already holds an archive of this service: backups are immutable, so replacing one " ++
        "is a discard a human approves and a snapshot they approve after it")))
  let active ← readActive placement
  proceed do
    whenever active
      (during "stop the service before archiving its data"
        (ask (.stopService placement.account placement.serviceName)))
    let archive ← during "archive the data of this service"
      (ask (.archiveServiceData placement.dataDirectory archivePath))
    restartAndProve placement active port
    let slots ← readArchives placement
    return archiveApplication subject archive true slots

def discardSnapshot (subject : Instance) : Acts Examination := do
  let placement := subject.placement
  let archivePath := placement.archivePath subject.snapshotSlot
  let present ← readArchivePresent archivePath
  if !present then do
    let slots ← readArchives placement
    settle (archiveApplication subject Archive.zero false slots)
  else
    proceed do
      during "remove the archive of this service" (ask (.removeServiceArchive archivePath))
      let slots ← readArchives placement
      return archiveApplication subject Archive.zero true slots

/-- What a return does once its checks have passed. -/
def returnData (subject : Instance) (active : Bool) (port : Int64) : Acts Application := do
  let placement := subject.placement
  whenever active
    (during "stop the service before replacing its data"
      (ask (.stopService placement.account placement.serviceName)))
  ensureServiceData placement
  let kept ← (ask (.exchangeServiceData (placement.archivePath subject.snapshotSlot)
      placement.dataDirectory (placement.archivePath reservedSnapshotSlot))).reword fun cause =>
    text "return the data of this service to the " ++ quoted subject.snapshotSlot ++
      text " slot, keeping the replaced state in " ++ quoted reservedSnapshotSlot ++ text ": " ++
      cause
  restartAndProve placement active port
  let slots ← readArchives placement
  return { archiveApplication subject kept true slots with previousSlot := reservedSnapshotSlot }

def restoreService (subject : Instance) : Acts Examination := do
  let placement := subject.placement
  let port ← requirePlacedService placement
  let present ← readArchivePresent (placement.archivePath subject.snapshotSlot)
  whenever (!present)
    (refuse (text "the slot " ++ quoted subject.snapshotSlot ++
      text (" holds no archive of this service: there is nothing to return to, so the operation " ++
        "is refused before any effect")))
  let active ← readActive placement
  proceed (returnData subject active port)

/-! ## The account they give -/

theorem looks_requirePlacedService (placement : Placement) :
    Looks Executor.mutates (requirePlacedService placement) := by
  unfold requirePlacedService
  apply Looks.bind (looks_during rfl)
  intro sheet
  cases sheet with
  | none => exact looks_refuse _
  | some sheet =>
      dsimp only
      cases publishedLoopbackPort sheet with
      | none => exact looks_refuse _
      | some port => exact Looks.pure _

theorem snapshotService_accounts (subject : Instance) :
    Accounts Executor.mutates Application.changed (snapshotService subject) := by
  unfold snapshotService
  apply Accounts.bind (looks_requirePlacedService _)
  intro port
  apply Accounts.bind (looks_during rfl)
  intro dataPresent
  apply Accounts.bind (looks_refusal _ _)
  intro bearing
  apply Accounts.bind (looks_during rfl)
  intro taken
  apply Accounts.bind (looks_refusal _ _)
  intro free
  apply Accounts.bind (looks_during rfl)
  intro active
  apply Accounts.effects
  · apply Effective.after
    intro stopped
    exact Effective.before (effective_during rfl)
  · iterate 4
      apply Tells.bind
      intro done
    exact Tells.pure rfl

theorem discardSnapshot_accounts (subject : Instance) :
    Accounts Executor.mutates Application.changed (discardSnapshot subject) := by
  unfold discardSnapshot
  apply Accounts.bind (looks_during rfl)
  intro present
  apply Accounts.ite
  · apply Accounts.bind (looks_during rfl)
    intro slots
    exact Accounts.settled rfl
  · intro hpresent
    apply Accounts.effects
    · exact Effective.before (effective_during rfl)
    · iterate 2
        apply Tells.bind
        intro done
      exact Tells.pure rfl

theorem restoreService_accounts (subject : Instance) :
    Accounts Executor.mutates Application.changed (restoreService subject) := by
  unfold restoreService
  apply Accounts.bind (looks_requirePlacedService _)
  intro port
  apply Accounts.bind (looks_during rfl)
  intro present
  apply Accounts.bind (looks_refusal _ _)
  intro held
  apply Accounts.bind (looks_during rfl)
  intro active
  apply Accounts.effects
  · apply Effective.after
    intro stopped
    exact Effective.before (effective_during rfl)
  · unfold returnData
    iterate 5
      apply Tells.bind
      intro done
    exact Tells.pure rfl

end YourCloud.Auxiliary
