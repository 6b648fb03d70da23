import YourCloud.Assistant.InstallActs
import YourCloud.Foundation.Checks

/-!
# What a machine answers to an installation, and who judges it

A step is judged by what the machine says afterwards.  A deposit is judged by the size
and the digest the machine reads back; the package by its state and version; the unit by
whether it runs, confined as it has to be; the files and directories by their owner and
their mode; the two acts that make identities by the identities they print.

A judge is handed what the machine answered and nothing else.  Whatever it cannot read is
a refusal of its own.
-/

namespace YourCloud.Assistant.Installation

open YourCloud.Foundation
open Chars (lines stripPrefix stripSuffix)

/-! ## Texts -/

/-- `str::split_once` -/
def splitOnText (separator : Chars) : Chars → Option (Chars × Chars)
  | [] => if separator = [] then some ([], []) else none
  | c :: s =>
      if separator.isPrefixOf (c :: s) then some ([], (c :: s).drop separator.length)
      else (splitOnText separator s).map fun parts => (c :: parts.1, parts.2)

/-- `str::parse::<u64>` -/
def parseU64 (s : Chars) : Option Nat :=
  let digits := if s.head? = some '+' then s.tail else s
  if digits = [] ∨ digits.any (fun c => !c.isDigit) then none
  else some (digits.foldl (fun n c => 10 * n + (c.toNat - 0x30)) 0) |>.filter (· < 2 ^ 64)

def isHexLower (c : Char) : Bool := ('0' ≤ c && c ≤ '9') || ('a' ≤ c && c ≤ 'f')

/-! ## Deposits -/

def CREATE_STAGING : FixedCommand :=
  ⟨"/usr/bin/env LC_ALL=C /usr/bin/mkdir -m 0700 -- $HOME/.your-cloud-bootstrap"⟩

def DEPOSIT_BUNDLE : FixedCommand :=
  ⟨"/usr/bin/env LC_ALL=C /usr/bin/dd of=$HOME/.your-cloud-bootstrap/your-cloud-server.deb bs=65536 conv=fsync status=none"⟩

def MEASURE_STAGED_SIZE : FixedCommand :=
  ⟨"/usr/bin/env LC_ALL=C /usr/bin/stat -c %s -- $HOME/.your-cloud-bootstrap/your-cloud-server.deb"⟩

def MEASURE_STAGED : FixedCommand :=
  ⟨"/usr/bin/env LC_ALL=C /usr/bin/sha256sum -- $HOME/.your-cloud-bootstrap/your-cloud-server.deb"⟩

def DEPOSIT_CONFIGURATION : FixedCommand :=
  ⟨"/usr/bin/env LC_ALL=C /usr/bin/dd of=$HOME/.your-cloud-bootstrap/controller.env bs=4096 conv=fsync status=none"⟩

def MEASURE_CONFIGURATION_SIZE : FixedCommand :=
  ⟨"/usr/bin/env LC_ALL=C /usr/bin/stat -c %s -- $HOME/.your-cloud-bootstrap/controller.env"⟩

def MEASURE_CONFIGURATION : FixedCommand :=
  ⟨"/usr/bin/env LC_ALL=C /usr/bin/sha256sum -- $HOME/.your-cloud-bootstrap/controller.env"⟩

def MAX_MEASUREMENT_BYTES : Nat := 4096

def DIGEST_ENCODED_BYTES : Nat := 64

def MEASUREMENT_SEPARATOR : Chars := [' ', ' ']

inductive TransferRefusal where
  | stagingNotFresh
  | depositFailed
  | sizeUnreadable
  | stagedSizeMismatch
  | measurementFailed
  | measurementTooLarge
  | measurementUnreadable
  | foreignPathMeasured
  | stagedDigestMismatch
  deriving DecidableEq, Repr

structure StagedFile where
  path : Chars
  sha256 : Chars
  deriving DecidableEq, Repr

structure TransferReadings where
  depositStatus : UInt32
  sizeStatus : UInt32
  sizeStdout : Bytes
  digestStatus : UInt32
  digestStdout : Bytes
  deriving DecidableEq, Repr

def stagingCreated (status : UInt32) : Except TransferRefusal Unit :=
  demand (status = 0) .stagingNotFresh

def readSize (expected : Nat) (readings : TransferReadings) : Except TransferRefusal Unit := do
  demand (readings.sizeStdout.length ≤ MAX_MEASUREMENT_BYTES) .measurementTooLarge
  demand (readings.sizeStatus = 0) .measurementFailed
  let text ← found (fromUtf8 readings.sizeStdout) .sizeUnreadable
  let line ← found (stripSuffix ['\n'] text) .sizeUnreadable
  let observed ← found (parseU64 line) .sizeUnreadable
  demand (observed = expected) .stagedSizeMismatch

def deposited (expectedSize : Nat) (expectedSha256 expectedSuffix : Chars)
    (readings : TransferReadings) : Except TransferRefusal StagedFile := do
  demand (readings.depositStatus = 0) .depositFailed
  readSize expectedSize readings
  demand (readings.digestStdout.length ≤ MAX_MEASUREMENT_BYTES) .measurementTooLarge
  demand (readings.digestStatus = 0) .measurementFailed
  let text ← found (fromUtf8 readings.digestStdout) .measurementUnreadable
  let line ← found (stripSuffix ['\n'] text) .measurementUnreadable
  let (digest, path) ← found (splitOnText MEASUREMENT_SEPARATOR line) .measurementUnreadable
  demand (Chars.byteLength digest = DIGEST_ENCODED_BYTES && digest.all isHexLower)
    .measurementUnreadable
  demand (expectedSuffix.isSuffixOf path && path.head? ≠ some ' ') .foreignPathMeasured
  demand (digest = expectedSha256) .stagedDigestMismatch
  return { path, sha256 := digest }

/-- A bundle that was judged: its version, and the size and digest of its artefact. -/
structure VerifiedBundle where
  version : Chars
  size : Nat
  sha256 : Chars
  deriving DecidableEq, Repr

def staged (bundle : VerifiedBundle) (readings : TransferReadings) :
    Except TransferRefusal StagedFile :=
  deposited bundle.size bundle.sha256 STAGED_ARTIFACT_SUFFIX.toList readings

/-! ## The configuration of the machine -/

/-- The spelling of the digest of some bytes. -/
def digestText (bytes : Bytes) : Chars := (sha256Hex bytes).map fun b => Char.ofNat b.toNat

/-- A configuration with the digest of its bytes. -/
structure MachineConfiguration where
  bytes : Bytes
  sha256 : Chars
  digested : sha256 = digestText bytes

def MachineConfiguration.size (configuration : MachineConfiguration) : Nat :=
  configuration.bytes.length

def stagedConfiguration (configuration : MachineConfiguration) (readings : TransferReadings) :
    Except TransferRefusal StagedFile :=
  deposited configuration.size configuration.sha256 STAGED_CONFIGURATION_SUFFIX.toList readings

/-! ## The package -/

namespace Package

def MAX_READING_BYTES : Nat := 4096

def INSTALLED_STATUS : Chars := "install ok installed".toList

def NO_PACKAGE_MATCHED : UInt32 := 1

inductive ReadingRefusal where
  | readingTooLarge
  | queryFailed
  | readingUnreadable
  | foreignPackageNamed
  deriving DecidableEq, Repr

inductive PackageState where
  | absent
  | installed (version : Chars)
  | ambiguous (status version : Chars)
  deriving DecidableEq, Repr

inductive PoseRefusal where
  | notInstalled
  | halfConfigured (status : Chars)
  | unexpectedVersion (version : Chars)
  deriving DecidableEq, Repr

def read (exitStatus : UInt32) (stdout : Bytes) : Except ReadingRefusal PackageState := do
  demand (stdout.length ≤ MAX_READING_BYTES) .readingTooLarge
  if exitStatus ≠ 0 then
    demand (exitStatus = NO_PACKAGE_MATCHED && stdout = []) .queryFailed
    return .absent
  let text ← found (fromUtf8 stdout) .readingUnreadable
  let line ← found (stripSuffix ['\n'] text) .readingUnreadable
  match line.splitOn ' ' with
  | [package, want, flag, status, version] =>
      demand (package = PACKAGE_NAME.toList) .foreignPackageNamed
      demand (version ≠ []) .readingUnreadable
      let statusWords := want ++ ' ' :: flag ++ ' ' :: status
      return if statusWords = INSTALLED_STATUS then .installed version
        else .ambiguous statusWords version
  | _ => throw .readingUnreadable

def posed (state : PackageState) (boundVersion : Chars) : Except PoseRefusal Chars :=
  match state with
  | .absent => throw .notInstalled
  | .ambiguous status _ => throw (.halfConfigured status)
  | .installed version =>
      if version = boundVersion then return version else throw (.unexpectedVersion version)

end Package

/-! ## The unit -/

namespace Unit

def MAX_READING_BYTES : Nat := 8192

inductive UnitRefusal where
  | readingTooLarge
  | readingUnreadable
  | propertyMissing (property : String)
  | notRunning (activeState subState : Chars)
  | isolationDiverged (property : String) (observed : Chars)
  deriving DecidableEq, Repr

def isolation : List (String × Chars) :=
  [("DynamicUser", "yes".toList), ("User", CONTROLLER_ACCOUNT.toList),
    ("TasksMax", Nat.toDigits 10 CONTROLLER_BUDGETS.tasksMax),
    ("MemoryMax", Nat.toDigits 10 (CONTROLLER_BUDGETS.memoryMaxMib * 1024 * 1024)),
    ("NoNewPrivileges", "yes".toList), ("ProtectSystem", "strict".toList),
    ("CapabilityBoundingSet", [])]

def readProperties (stdout : Bytes) : Except UnitRefusal (List (Chars × Chars)) := do
  let text ← found (fromUtf8 stdout) .readingUnreadable
  let properties ← (lines text).mapM fun line => do
    let (name, value) ← found (Chars.splitOnce (· = '=') line) .readingUnreadable
    demand (name ≠ []) .readingUnreadable
    return (name, value)
  demand (properties ≠ []) .readingUnreadable
  return properties

def property (properties : List (Chars × Chars)) (name : String) : Except UnitRefusal Chars :=
  found ((properties.find? fun entry => entry.1 = name.toList).map Prod.snd) (.propertyMissing name)

/-- The unit runs, and is confined as the plan says; the account it runs as. -/
def running (exitStatus : UInt32) (stdout : Bytes) : Except UnitRefusal Chars := do
  demand (stdout.length ≤ MAX_READING_BYTES) .readingTooLarge
  demand (exitStatus = 0) .readingUnreadable
  let properties ← readProperties stdout
  let activeState ← property properties "ActiveState"
  let subState ← property properties "SubState"
  demand (activeState = "active".toList && subState = "running".toList)
    (.notRunning activeState subState)
  isolation.forM fun (name, expected) => do
    let observed ← property properties name
    demand (observed = expected) (.isolationDiverged name observed)
  property properties "User"

end Unit

/-! ## The nodes -/

namespace Nodes

def MAX_READING_BYTES : Nat := 4096

def ROOT_ID : Chars := ['0']

structure Expectation where
  path : String
  kind : String
  mode : String
  deriving DecidableEq, Repr

def EXPECTED_NODES : List Expectation :=
  [⟨MACHINE_CONFIGURATION, "regular file", "600"⟩,
    ⟨CONTROLLER_STATE_DIRECTORY, "directory", "700"⟩,
    ⟨CREDENTIAL_SOURCE_DIRECTORY, "directory", "700"⟩,
    ⟨COMMAND_IDENTITY_DIRECTORY, "directory", "700"⟩,
    ⟨COMMAND_ENDPOINT_DIRECTORY, "directory", "700"⟩,
    ⟨RELAY_ANCHOR_DIRECTORY, "directory", "700"⟩,
    ⟨READER_CERTIFICATE, "regular file", "600"⟩,
    ⟨READER_KEY, "regular file", "600"⟩]

inductive NodeRefusal where
  | readingTooLarge
  | readingUnreadable
  | foreignPathReported (path : Chars)
  | missing (path : String)
  | wrongKind (path : String) (observed : Chars)
  | wrongOwner (path : String) (uid gid : Chars)
  | wrongMode (path : String) (observed : Chars)
  deriving DecidableEq, Repr

structure Reading where
  path : Chars
  uid : Chars
  gid : Chars
  mode : Chars
  kind : Chars
  deriving DecidableEq, Repr

/-- A line of `stat`; the kind is what is left of it. -/
def Reading.ofLine (line : Chars) : Option Reading := do
  let (path, line) ← Chars.splitOnce (· = ' ') line
  let (uid, line) ← Chars.splitOnce (· = ' ') line
  let (gid, line) ← Chars.splitOnce (· = ' ') line
  let (mode, kind) ← Chars.splitOnce (· = ' ') line
  return { path, uid, gid, mode, kind }

/-- One node is there, of its kind, of `root` and of its mode. -/
def meets (readings : List Reading) (node : Expectation) : Except NodeRefusal Unit := do
  let reading ← found (readings.find? fun reading => reading.path = node.path.toList)
    (.missing node.path)
  demand (reading.kind = node.kind.toList) (.wrongKind node.path reading.kind)
  demand (reading.uid = ROOT_ID && reading.gid = ROOT_ID)
    (.wrongOwner node.path reading.uid reading.gid)
  demand (reading.mode = node.mode.toList) (.wrongMode node.path reading.mode)

/-- All the nodes are as they have to be; how many there are. -/
def owned (stdout : Bytes) : Except NodeRefusal Nat := do
  demand (stdout.length ≤ MAX_READING_BYTES) .readingTooLarge
  let text ← found (fromUtf8 stdout) .readingUnreadable
  let readings ← (lines text).mapM fun line => found (Reading.ofLine line) .readingUnreadable
  demand (readings ≠ []) .readingUnreadable
  readings.forM fun reading =>
    demand (EXPECTED_NODES.any fun node => node.path.toList = reading.path)
      (.foreignPathReported reading.path)
  EXPECTED_NODES.forM (meets readings)
  return EXPECTED_NODES.length

end Nodes

/-! ## The identities -/

namespace Identity

/-- A part of a sentence that refuses: words, or a text of the machine as it is quoted. -/
inductive Part where
  | words (s : String)
  | quoted (s : Chars)
  deriving DecidableEq, Repr

abbrev Sentence := List Part

def singleLine (text : Chars) : Except Sentence Chars :=
  match lines text with
  | [] => throw [.words "output is empty"]
  | [line] => return line
  | _ => throw [.words "output carries more than its one line"]

/-- Five groups of hexadecimal digits. -/
def canonicalUuid (field : String) (candidate : Chars) : Except Sentence Unit :=
  let groups := candidate.splitOn '-'
  let sizes := [8, 4, 4, 4, 12]
  demand (groups.length = sizes.length &&
      (groups.zip sizes).all fun (group, size) =>
        Chars.byteLength group = size && group.all isHexLower)
    [.words field, .words " is not a canonical uuid: ", .quoted candidate]

/-- What `controller init` prints: one line, two identifiers. -/
def initialised (stdout : Bytes) : Except Sentence Unit := do
  let text ← found (fromUtf8 stdout) [.words "init output is not UTF-8"]
  let line ← singleLine text
  let (controller, infrastructure) ←
    found ((stripPrefix "controller_id=".toList line).bind
        (splitOnText " infrastructure_id=".toList))
      [.words "init line has the wrong shape: ", .quoted line]
  canonicalUuid "controller_id" controller
  canonicalUuid "infrastructure_id" infrastructure

/-- The next line, which has to begin in one way. -/
def expect (start : String) : List Chars → Except Sentence (Chars × List Chars)
  | [] => throw [.words "mint output ends before ", .words start]
  | line :: rest => do
      let value ← found (stripPrefix start.toList line)
        [.words "mint line has the wrong shape: ", .quoted line]
      return (value, rest)

/-- What `controller mint-reader` prints: four lines in their order. -/
def mintedReader (stdout : Bytes) : Except Sentence Unit := do
  let text ← found (fromUtf8 stdout) [.words "mint output is not UTF-8"]
  let (controller, rest) ← expect "controller_id=" (lines text)
  let (infrastructure, rest) ← expect "infrastructure_id=" rest
  let (serial, rest) ← expect "reader_serial=" rest
  let (digest, rest) ← expect "reader_sha256=" rest
  demand (rest = []) [.words "mint output carries more than its four lines"]
  canonicalUuid "controller_id" controller
  canonicalUuid "infrastructure_id" infrastructure
  demand (serial ≠ [] && Chars.byteLength serial ≤ 32 && serial.head? ≠ some '0' &&
      serial.all isHexLower)
    [.words "reader_serial is not canonical: ", .quoted serial]
  demand (Chars.byteLength digest = 64 && digest.all isHexLower)
    [.words "reader_sha256 is not a canonical digest: ", .quoted digest]

end Identity

end YourCloud.Assistant.Installation
