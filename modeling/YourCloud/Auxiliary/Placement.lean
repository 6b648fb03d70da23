import YourCloud.Approval.Envelope

/-!
# Where services are placed

A plan says what is to run and never where: the account, the paths and the names
of a service are this package's own.  What a machine is given for a service is
one sheet, written from its placement byte for byte, so that a sheet can be
compared with the plan it came from.
-/

namespace YourCloud.Auxiliary

open YourCloud.Foundation

/-! ## Texts -/

/-- A text of several lines, the last one ended as well. -/
def lines (ls : List Bytes) : Bytes := ls.flatMap fun l => l ++ text "\n"

/-- What stands before a separator, as often as it occurs: always one piece more. -/
def splitOn (separator : UInt8) (s : Bytes) : List Bytes := List.splitOn separator s

/-- The length of the white space a string starts with: one character of it. -/
def spaceAt : Bytes → Nat
  | 0xC2 :: b :: _ => if b = 0x85 ∨ b = 0xA0 then 2 else 0
  | 0xE1 :: 0x9A :: 0x80 :: _ => 3
  | 0xE2 :: 0x80 :: b :: _ =>
      if (0x80 ≤ b ∧ b ≤ 0x8A) ∨ b = 0xA8 ∨ b = 0xA9 ∨ b = 0xAF then 3 else 0
  | 0xE2 :: 0x81 :: 0x9F :: _ => 3
  | 0xE3 :: 0x80 :: 0x80 :: _ => 3
  | b :: _ => if (0x09 ≤ b ∧ b ≤ 0x0D) ∨ b = 0x20 then 1 else 0
  | [] => 0

/-- The length of the white space a string ends with, given the string backwards. -/
def spaceBefore : Bytes → Nat
  | b :: 0xC2 :: _ => if b = 0x85 ∨ b = 0xA0 then 2 else 0
  | 0x80 :: 0x9A :: 0xE1 :: _ => 3
  | b :: 0x80 :: 0xE2 :: _ =>
      if (0x80 ≤ b ∧ b ≤ 0x8A) ∨ b = 0xA8 ∨ b = 0xA9 ∨ b = 0xAF then 3 else 0
  | 0x9F :: 0x81 :: 0xE2 :: _ => 3
  | 0x80 :: 0x80 :: 0xE3 :: _ => 3
  | b :: _ => if (0x09 ≤ b ∧ b ≤ 0x0D) ∨ b = 0x20 then 1 else 0
  | [] => 0

/-- A string without the characters at its start that are white space. -/
def dropSpace (space : Bytes → Nat) : Nat → Bytes → Bytes
  | 0, s => s
  | fuel + 1, s => if space s = 0 then s else dropSpace space fuel (s.drop (space s))

/-- `strings.TrimSpace` -/
def trimSpace (s : Bytes) : Bytes :=
  let left := dropSpace spaceAt s.length s
  (dropSpace spaceBefore left.length left.reverse).reverse

/-- `strings.CutPrefix` -/
def cutPrefix (start s : Bytes) : Option Bytes :=
  if start.isPrefixOf s then some (s.drop start.length) else none

/-- `strings.CutSuffix` -/
def cutSuffix (ending s : Bytes) : Option Bytes :=
  if ending.isSuffixOf s then some (s.take (s.length - ending.length)) else none

/-- The part of a string from the first occurrence of a marker on. -/
def fromMarker (marker : Bytes) : Bytes → Option Bytes
  | [] => if marker = [] then some [] else none
  | b :: s => if marker.isPrefixOf (b :: s) then some (b :: s) else fromMarker marker s

/-- `bytes.Contains` -/
def contains (s part : Bytes) : Bool := (fromMarker part s).isSome

/-- `strconv.Atoi` -/
def atoi (s : Bytes) : Option Int64 :=
  let magnitude (digits : Bytes) (bound : Nat) : Option Nat :=
    (ofDecimal digits).bind fun n => if n ≤ bound then some n else none
  match s with
  | 0x2D :: digits => (magnitude digits (2 ^ 63)).map fun n => Int64.ofInt (-(n : Int))
  | 0x2B :: digits => (magnitude digits (2 ^ 63 - 1)).map fun n => Int64.ofInt n
  | digits => (magnitude digits (2 ^ 63 - 1)).map fun n => Int64.ofInt n

/-- The numeral of a port. -/
def numeral (n : Int64) : Bytes := decimalInt n.toInt

/-- A word of this product between quotes. -/
def quoted (s : Bytes) : Bytes := text "\"" ++ s ++ text "\""

/-- `filepath.Join`, of names that have nothing to clean. -/
def join (directory name : Bytes) : Bytes :=
  if directory = [] then name
  else if name = [] then directory
  else directory ++ text "/" ++ name

/-- The order of `sort.Strings`. -/
def sortStrings (names : List Bytes) : List Bytes := names.insertionSort (· ≤ ·)

/-! ## Placements -/

structure VolumeMount where
  host : Bytes
  container : Bytes
  deriving DecidableEq, Repr

structure Placement where
  account : Bytes
  home : Bytes
  comment : Bytes
  description : Bytes
  unitFileName : Bytes
  serviceName : Bytes
  containerName : Bytes
  image : Bytes := []
  containerPort : Int64 := 0
  expectedContentType : Bytes := []
  writablePaths : List Bytes := []
  dataDirectory : Bytes := []
  volumes : List VolumeMount := []
  snapshotDirectory : Bytes := []
  secretKeys : List Bytes := []
  environment : List Bytes := []
  originEnvironmentPrefix : Bytes := []
  confined : Bool := false
  deriving DecidableEq, Repr

namespace Placement

def bearsData (placement : Placement) : Bool := placement.dataDirectory != []

def bearsSecrets (placement : Placement) : Bool := placement.secretKeys != []

def secretsDirectory (placement : Placement) : Bytes := placement.home ++ text "/secrets"

def environmentFilePath (placement : Placement) : Bytes := placement.home ++ text "/secrets.env"

/-- The directories from a root down to a path below it, or the path alone. -/
def descendTo (root path : Bytes) : List Bytes :=
  if path = root then []
  else
    match cutPrefix (root ++ text "/") path with
    | none => [path]
    | some below =>
        let segments := (splitOn 0x2F below).filter (· ≠ [])
        (segments.inits.drop 1).map fun descent =>
          root ++ descent.flatMap fun segment => text "/" ++ segment

/-- Every directory a service keeps, each once and none before the one it is in. -/
def durableDirectories (placement : Placement) : List Bytes :=
  if placement.bearsData then
    (placement.volumes.flatMap fun mount => descendTo placement.dataDirectory mount.host).foldl
      (fun directories directory =>
        if directory ∈ directories then directories else directories ++ [directory])
      [placement.dataDirectory]
  else []

def archiveSuffix : Bytes := text ".tar.gz"

def archivePath (placement : Placement) (slot : Bytes) : Bytes :=
  placement.snapshotDirectory ++ text "/" ++ slot ++ archiveSuffix

def quadletDirectory : Bytes := text ".config/containers/systemd"

def sheetDirectory (placement : Placement) : Bytes := join placement.home quadletDirectory

def unitPath (placement : Placement) : Bytes := join placement.sheetDirectory placement.unitFileName

end Placement

/-- No placement at all. -/
def Placement.zero : Placement where
  account := []
  home := []
  comment := []
  description := []
  unitFileName := []
  serviceName := []
  containerName := []

def homeRoot : Bytes := text "/var/lib/"

/-- A placement whose names all follow its account. -/
def placementNamed (account description : Bytes) : Placement where
  account
  home := homeRoot ++ account
  comment := description
  description
  unitFileName := account ++ text ".container"
  serviceName := account ++ text ".service"
  containerName := account

def contentTypeHTMLDocument : Bytes := text "text/html"

def probePlacement : Placement :=
  { placementNamed (text "your-cloud-probe") (text "Your Cloud disposable OCI validation probe") with
    comment := text "Your Cloud OCI validation probe"
    image := text "docker.io/traefik/whoami@" ++
      text "sha256:200689790a0a0ea48ca45992e0450bc26ccab5307375b41c84dfc4f2475937ab"
    containerPort := 80 }

def bentoPDFPlacement : Placement :=
  { placementNamed (text "your-cloud-svc-bentopdf")
      (text "Your Cloud managed BentoPDF web service") with
    image := text "ghcr.io/alam00000/bentopdf@" ++
      text "sha256:a4ed090f29823da5e296e2c2f8603664da71676156ea47c3f186cc73eec38db0"
    containerPort := 8080
    expectedContentType := contentTypeHTMLDocument
    writablePaths := [text "/var/cache/nginx", text "/etc/nginx/tmp"] }

def vaultwardenAccount : Bytes := text "your-cloud-svc-vaultwarden"

def vaultwardenDataDirectory : Bytes := homeRoot ++ vaultwardenAccount ++ text "/data"

def vaultwardenPlacement : Placement :=
  { placementNamed vaultwardenAccount (text "Your Cloud managed Vaultwarden private service") with
    image := text "docker.io/vaultwarden/server@" ++
      text "sha256:ebdfe70701c60ac0c28c697e787cea767d7972940b786037b29fe0d507f821e8"
    containerPort := 80
    dataDirectory := vaultwardenDataDirectory
    volumes := [⟨vaultwardenDataDirectory, text "/data"⟩]
    snapshotDirectory := homeRoot ++ vaultwardenAccount ++ text "/snapshots"
    environment := [text "SIGNUPS_ALLOWED=false", text "INVITATIONS_ALLOWED=false",
      text "SHOW_PASSWORD_HINT=false"]
    originEnvironmentPrefix := text "DOMAIN=https://"
    confined := true }

def entrypointPlacement : Placement :=
  { placementNamed (text "your-cloud-entrypoint") (text "Your Cloud public HTTPS entrypoint") with
    image := text "docker.io/library/traefik@" ++
      text "sha256:9c3b91d5fb7770853ca5c1124a23c34bf2d9b47ffaebeab2614cbaf410dcb2ac" }

def userServiceAccount (slug : Bytes) : Bytes := text "your-cloud-user-" ++ slug

/-- What a slug alone says of the placement of a user service. -/
def userServicePlacementOfSlug (slug : Bytes) : Placement :=
  let account := userServiceAccount slug
  { placementNamed account (text "Your Cloud managed " ++ slug ++ text " user service") with
    dataDirectory := homeRoot ++ account ++ text "/volumes"
    snapshotDirectory := homeRoot ++ account ++ text "/snapshots"
    confined := true }

/-- The profiles behind the public door, and the placement of each. -/
def profilePlacements : List (Bytes × Placement) := [(text "bentopdf", bentoPDFPlacement)]

/-- The profiles behind the private door. -/
def privateProfilePlacements : List (Bytes × Placement) :=
  [(text "vaultwarden", vaultwardenPlacement)]

/-- `^[a-z0-9][a-z0-9-]{0,15}$` -/
def canonicalSlug (slug : Bytes) : Bool :=
  let opening (b : UInt8) : Bool := isLower b || isDigit b
  slug.head?.any opening && slug.all (fun b => opening b || b == 0x2D) && slug.length ≤ 16

/-- A slug a service definition may take: no name of a door of the product. -/
def validateSlug (slug : Bytes) : Bool :=
  canonicalSlug slug && slug ∉ [text "bentopdf", text "vaultwarden", text "probe", text "entrypoint"]

/-- The placement a profile or a slug is known by. -/
def placementOf (serviceProfile : Bytes) : Option Placement :=
  (profilePlacements.lookup serviceProfile).or <|
    (privateProfilePlacements.lookup serviceProfile).or <|
      if validateSlug serviceProfile then some (userServicePlacementOfSlug serviceProfile) else none

/-- The placement of an archived service: a profile of the private door, or a slug. -/
def archivedPlacementFor (serviceProfile : Bytes) : Except Bytes Placement :=
  match privateProfilePlacements.lookup serviceProfile with
  | none =>
      if validateSlug serviceProfile then .ok (userServicePlacementOfSlug serviceProfile)
      else .error (text "plan service_profile " ++ quoted serviceProfile ++
        text " is not one this Auxiliary places behind the private door")
  | some placement =>
      if placement.bearsData then .ok placement
      else .error (text "the " ++ serviceProfile ++ text (" profile keeps no data on this machine: " ++
        "there is nothing for an archive to name"))

/-! ## Instances -/

inductive InstanceKind where
  | webService
  | entrypoint
  | route
  | link
  | linkRoute
  | privateService
  | archive
  | userService
  deriving DecidableEq, Repr

/-- One operation of a plan, and what it is about. -/
structure Instance where
  kind : InstanceKind
  operation : Approval.Operation
  placement : Placement := Placement.zero
  localPort : Int64 := 0
  routeHost : Bytes := []
  backendPort : Int64 := 0
  linkRole : Bytes := []
  peerPublicKey : Bytes := []
  peerEndpointHost : Bytes := []
  servicePort : Int64 := 0
  originHost : Bytes := []
  snapshotSlot : Bytes := []
  deriving DecidableEq, Repr

/-! ## The sheet of a service -/

def loopbackAddress : Bytes := text "127.0.0.1"

def firstUnprivilegedPort : Int64 := 1024

/-- The lines every file of this package begins with. -/
def writtenFromPlan : List Bytes :=
  [text "# Written by your-cloud auxiliary from one approved plan. Do not edit: this",
    text "# machine compares this file byte for byte against the plan it is given, and an",
    text "# edit here is a drift that requires a new approved plan rather than a repair."]

/-- One variable, quoted where a sheet would otherwise take it apart. -/
def environmentLine (line : Bytes) : Bytes :=
  let escaped := line.flatMap fun b => if b = 0x25 then [0x25, 0x25] else [b]
  if escaped.any fun b => b = 0x20 ∨ b = 0x09 ∨ b = 0x22 ∨ b = 0x27 ∨ b = 0x5C then
    quoted (escaped.flatMap fun b => if b = 0x5C ∨ b = 0x22 then [0x5C, b] else [b])
  else escaped

/-- The lines of a sheet's container that a placement adds. -/
def Placement.additions (placement : Placement) (originHost : Bytes) : List Bytes :=
  (placement.volumes.map fun mount =>
    text "Volume=" ++ mount.host ++ text ":" ++ mount.container ++ text ":rw") ++
  (placement.environment.map fun line => text "Environment=" ++ environmentLine line) ++
  (if placement.originEnvironmentPrefix = [] then []
    else [text "Environment=" ++ environmentLine (placement.originEnvironmentPrefix ++ originHost)]) ++
  (if placement.bearsSecrets then [text "EnvironmentFile=" ++ placement.environmentFilePath]
    else []) ++
  (placement.writablePaths.map fun path => text "Tmpfs=" ++ path ++ text ":rw,mode=1777") ++
  (if placement.containerPort < firstUnprivilegedPort then
    [text "Sysctl=net.ipv4.ip_unprivileged_port_start=0"] else [])

def renderSheet (placement : Placement) (localPort : Int64) (originHost : Bytes) : Bytes :=
  lines (writtenFromPlan ++
    [text "[Unit]",
      text "Description=" ++ placement.description,
      [],
      text "[Container]",
      text "Image=" ++ placement.image,
      text "ContainerName=" ++ placement.containerName,
      text "PublishPort=" ++ loopbackAddress ++ text ":" ++ numeral localPort ++ text ":" ++
        numeral placement.containerPort,
      text "Pull=never",
      text "ReadOnly=true",
      text "NoNewPrivileges=true",
      text "DropCapability=ALL"] ++
    placement.additions originHost ++
    [[],
      text "[Service]",
      text "Restart=on-failure",
      [],
      text "[Install]",
      text "WantedBy=default.target"])

end YourCloud.Auxiliary
