import YourCloud.ServiceDefinition.Encode

/-!
# The definition of a service, in the App

The App holds a definition against the whole contract before it is sent, and it names every
field and every entry that is outside it.  The two passes are written apart: one stops at the
first problem, the other goes on.  What the second says of the first is in
`YourCloud.App.Refusals`.
-/

namespace YourCloud.App.Definition

open YourCloud.Foundation
open YourCloud.ServiceDefinition (cut stringsJson originHostPlaceholder)

def SERVICE_DEFINITION_SCHEMA_VERSION : UInt8 := 1

def MAX_SERVICE_DEFINITION_BYTES : Nat := 8192

def MAX_SERVICE_SLUG_CHARS : Nat := 16

def MAX_IMAGE_REPOSITORY_BYTES : Nat := 255

def MIN_CONTAINER_PORT : UInt32 := 1

def MAX_CONTAINER_PORT : UInt32 := 65535

def MAX_SERVICE_VOLUMES : Nat := 8

def MAX_SERVICE_TMPFS : Nat := 8

def MAX_CONTAINER_PATH_BYTES : Nat := 253

def MAX_SERVICE_ENVIRONMENT_LINES : Nat := 32

def MAX_SERVICE_SECRET_KEYS : Nat := 16

def MAX_ENVIRONMENT_KEY_CHARS : Nat := 64

def MAX_ENVIRONMENT_VALUE_BYTES : Nat := 512

def RESERVED_SERVICE_SLUGS : List Bytes :=
  [text "bentopdf", text "vaultwarden", text "probe", text "entrypoint"]

/-! ## Data -/

inductive ProtocolError where
  | invalidInput
  deriving DecidableEq, Repr

structure ServiceDefinitionDocument where
  schemaVersion : UInt8
  slug : Bytes
  imageRepository : Bytes
  containerPort : UInt32
  volumes : List Bytes
  tmpfs : List Bytes
  environment : List Bytes
  secretKeys : List Bytes
  deriving DecidableEq, Repr

inductive ServiceDefinitionField where
  | schemaVersion
  | slug
  | imageRepository
  | containerPort
  | volumes
  | tmpfs
  | environment
  | secretKeys
  | document
  deriving DecidableEq, Repr

inductive ServiceDefinitionRefusal where
  | unknownSchemaVersion
  | slugGrammar
  | slugReserved
  | imageRepositoryPinned
  | imageRepositoryGrammar
  | containerPortRange
  | listTooLong
  | containerPathGrammar
  | mountsOverlap
  | environmentLineShape
  | keyGrammar
  | valueGrammar
  | keyAlreadyDeclared
  | documentTooLarge
  deriving DecidableEq, Repr

/-- One named refusal, on its field and, inside a list, on its entry. -/
structure ServiceDefinitionFieldRefusal where
  field : ServiceDefinitionField
  entry : Option Nat
  refusal : ServiceDefinitionRefusal
  deriving DecidableEq, Repr

/-! ## Grammars -/

/-- `str::rsplit_once` -/
def rsplitOnce (separator : UInt8) (s : Bytes) : Option (Bytes × Bytes) :=
  (cut separator s.reverse).map fun parts => (parts.2.reverse, parts.1.reverse)

/-- A lower-case letter or a digit. -/
def alphanumeric (b : UInt8) : Bool := isLower b || isDigit b

def canonicalServiceSlug (slug : Bytes) : Bool :=
  slug ≠ [] && slug.length ≤ MAX_SERVICE_SLUG_CHARS && slug.head?.any alphanumeric &&
    slug.all fun b => alphanumeric b || b = 0x2D

def canonicalDefinitionSlug (slug : Bytes) : Bool :=
  canonicalServiceSlug slug && slug ∉ RESERVED_SERVICE_SLUGS

def canonicalRegistryHost (registry : Bytes) : Bool :=
  let (host, port) :=
    match rsplitOnce 0x3A registry with
    | some (host, port) => (host, some port)
    | none => (registry, none)
  port.all (fun port => port ≠ [] && port.length ≤ 5 && port.all isDigit) &&
    host.head?.any alphanumeric && host.getLast?.any alphanumeric &&
    host.all (fun b => alphanumeric b || b = 0x2E || b = 0x2D) &&
    -- A single separator between two labels.
    !(host.zip host.tail).any fun pair => !alphanumeric pair.1 && !alphanumeric pair.2

def canonicalRepositoryPath (path : Bytes) : Bool :=
  path ≠ [] && (path.splitOn 0x2F).all fun component =>
    component.head?.any alphanumeric && component.getLast?.any alphanumeric &&
      component.all fun b => alphanumeric b || b = 0x2E || b = 0x5F || b = 0x2D

/-- What follows the last separator. -/
def lastComponent (repository : Bytes) : Bytes :=
  ((rsplitOnce 0x2F repository).map Prod.snd).getD repository

def canonicalImageRepository (repository : Bytes) : Bool :=
  repository ≠ [] && repository.length ≤ MAX_IMAGE_REPOSITORY_BYTES && 0x40 ∉ repository &&
    0x3A ∉ lastComponent repository &&
    match cut 0x2F repository with
    | none => false
    | some (registry, path) =>
        (0x2E ∈ registry || 0x3A ∈ registry) && canonicalRegistryHost registry &&
          canonicalRepositoryPath path

/-- Whether a repository names one image: by a digest, or by a tag. -/
def imageRepositoryNamesOneImage (repository : Bytes) : Bool :=
  0x40 ∈ repository || 0x3A ∈ lastComponent repository

/-- The segments of a path that is absolute, normalised and in lower case. -/
def canonicalContainerPath (path : Bytes) : Option (List Bytes) :=
  if path.head? ≠ some 0x2F ∨ path = text "/" ∨ MAX_CONTAINER_PATH_BYTES < path.length ∨
      path.getLast? = some 0x2F then none
  else
    let segments := path.tail.splitOn 0x2F
    if segments.all fun segment => segment ≠ [] && segment ≠ text "." && segment ≠ text ".." &&
        segment.all fun b => alphanumeric b || b = 0x2E || b = 0x5F || b = 0x2D then some segments
    else none

/-- Whether the first path is the second or contains it, segment by segment. -/
def opensOrEquals (outer inner : List Bytes) : Bool :=
  outer.length ≤ inner.length && (outer.zip inner).all fun pair => pair.1 = pair.2

def canonicalEnvironmentKey (key : Bytes) : Bool :=
  key ≠ [] && key.length ≤ MAX_ENVIRONMENT_KEY_CHARS && key.head?.any isUpper &&
    key.all fun b => isUpper b || isDigit b || b = 0x5F

/-- The bytes of a value, past those of a placeholder that was just read. -/
def canonicalValueFrom : Nat → Bytes → Bool
  | _, [] => true
  | inside + 1, _ :: rest => canonicalValueFrom inside rest
  | 0, character :: rest =>
      if ¬ (0x20 ≤ character ∧ character ≤ 0x7E) then false
      else if character = 0x7B then
        originHostPlaceholder.isPrefixOf (character :: rest) &&
          canonicalValueFrom (originHostPlaceholder.length - 1) rest
      else if character = 0x7D then false
      else canonicalValueFrom 0 rest

def canonicalEnvironmentValue (value : Bytes) : Bool :=
  value.length ≤ MAX_ENVIRONMENT_VALUE_BYTES && canonicalValueFrom 0 value

/-! ## Validation -/

/-- Whether two mounts are one, or one opens the other. -/
def overlapping (entry other : List Bytes) : Bool :=
  opensOrEquals entry other || opensOrEquals other entry

/-- Whether no mount overlaps one after it. -/
def apart : List (List Bytes) → Bool
  | [] => true
  | entry :: rest => rest.all (fun other => !overlapping entry other) && apart rest

def ServiceDefinitionDocument.holdsTheMounts (document : ServiceDefinitionDocument) : Bool :=
  document.volumes.length ≤ MAX_SERVICE_VOLUMES && document.tmpfs.length ≤ MAX_SERVICE_TMPFS &&
    match (document.volumes ++ document.tmpfs).mapM canonicalContainerPath with
    | none => false
    | some declared => apart declared

/-- The keys declared, with that of one more line. -/
def declareLine (declared : List Bytes) (line : Bytes) : Option (List Bytes) :=
  match cut 0x3D line with
  | none => none
  | some (key, value) =>
      if canonicalEnvironmentKey key = false ∨ canonicalEnvironmentValue value = false ∨
          key ∈ declared then none
      else some (declared ++ [key])

/-- The keys declared, with one more secret. -/
def declareSecret (declared : List Bytes) (key : Bytes) : Option (List Bytes) :=
  if canonicalEnvironmentKey key = false ∨ key ∈ declared then none else some (declared ++ [key])

def ServiceDefinitionDocument.holdsTheEnvironment (document : ServiceDefinitionDocument) : Bool :=
  document.environment.length ≤ MAX_SERVICE_ENVIRONMENT_LINES &&
    document.secretKeys.length ≤ MAX_SERVICE_SECRET_KEYS &&
    ((document.environment.foldlM declareLine []).bind fun declared =>
      document.secretKeys.foldlM declareSecret declared).isSome

def ServiceDefinitionDocument.holdsTheContract (document : ServiceDefinitionDocument) : Bool :=
  document.schemaVersion = SERVICE_DEFINITION_SCHEMA_VERSION &&
    canonicalDefinitionSlug document.slug && canonicalImageRepository document.imageRepository &&
    (MIN_CONTAINER_PORT ≤ document.containerPort && document.containerPort ≤ MAX_CONTAINER_PORT) &&
    document.holdsTheMounts && document.holdsTheEnvironment

/-- The document itself, where it is within the contract. -/
def ServiceDefinitionDocument.validate (document : ServiceDefinitionDocument) :
    Except ProtocolError ServiceDefinitionDocument :=
  if document.holdsTheContract = false then .error .invalidInput else .ok document

/-! ## Writing -/

def ServiceDefinitionDocument.fields (document : ServiceDefinitionDocument) :
    List (Bytes × Option Json) :=
  [(text "schema_version", some (Json.numeral document.schemaVersion.toNat)),
    (text "slug", some (Json.quoted false document.slug)),
    (text "image_repository", some (Json.quoted false document.imageRepository)),
    (text "container_port", some (Json.numeral document.containerPort.toNat)),
    (text "volumes", some (stringsJson document.volumes)),
    (text "tmpfs", some (stringsJson document.tmpfs)),
    (text "environment", some (stringsJson document.environment)),
    (text "secret_keys", some (stringsJson document.secretKeys))]

/-- `serde_json::to_string`: the strings of a document that is written are printable. -/
def ServiceDefinitionDocument.render (document : ServiceDefinitionDocument) : Bytes :=
  (Json.object (Json.present document.fields)).render

def ServiceDefinitionDocument.encode (document : ServiceDefinitionDocument) :
    Except ProtocolError Bytes :=
  if document.holdsTheContract = false then .error .invalidInput
  else
    let encoded := document.render
    if encoded = [] ∨ MAX_SERVICE_DEFINITION_BYTES < encoded.length then .error .invalidInput
    else .ok encoded

/-! ## Refusals -/

def refusalOf (field : ServiceDefinitionField) (entry : Option Nat)
    (refusal : ServiceDefinitionRefusal) : ServiceDefinitionFieldRefusal := ⟨field, entry, refusal⟩

/-- A refusal where a condition holds. -/
def refuseIf (broken : Bool) (refusal : ServiceDefinitionFieldRefusal) :
    List ServiceDefinitionFieldRefusal := if broken then [refusal] else []

/-- The refusals of the fields that are no lists. -/
def ServiceDefinitionDocument.fieldRefusals (document : ServiceDefinitionDocument) :
    List ServiceDefinitionFieldRefusal :=
  refuseIf (document.schemaVersion ≠ SERVICE_DEFINITION_SCHEMA_VERSION)
      (refusalOf .schemaVersion none .unknownSchemaVersion) ++
    (if canonicalServiceSlug document.slug = false then [refusalOf .slug none .slugGrammar]
    else refuseIf (document.slug ∈ RESERVED_SERVICE_SLUGS) (refusalOf .slug none .slugReserved)) ++
    refuseIf (!canonicalImageRepository document.imageRepository)
      (refusalOf .imageRepository none
        (if imageRepositoryNamesOneImage document.imageRepository then .imageRepositoryPinned
        else .imageRepositoryGrammar)) ++
    refuseIf (!(MIN_CONTAINER_PORT ≤ document.containerPort &&
        document.containerPort ≤ MAX_CONTAINER_PORT))
      (refusalOf .containerPort none .containerPortRange)

/-- An entry of a list: its field, its index, and what it is. -/
structure Entry (α : Type) where
  field : ServiceDefinitionField
  index : Nat
  content : α
  deriving DecidableEq, Repr

/-- The entries of one list. -/
def entriesOf (field : ServiceDefinitionField) (l : List Bytes) : List (Entry Bytes) :=
  l.zipIdx.map fun entry => ⟨field, entry.2, entry.1⟩

/-- A refusal of an entry. -/
def Entry.refuse {α : Type} (entry : Entry α) (refusal : ServiceDefinitionRefusal) :
    ServiceDefinitionFieldRefusal := refusalOf entry.field (some entry.index) refusal

/-- The two lists of paths, as one sequence. -/
def ServiceDefinitionDocument.mounts (document : ServiceDefinitionDocument) : List (Entry Bytes) :=
  entriesOf .volumes document.volumes ++ entriesOf .tmpfs document.tmpfs

/-- A path with its segments, where it is one. -/
def acceptedMount (entry : Entry Bytes) : Option (Entry (List Bytes)) :=
  (canonicalContainerPath entry.content).map fun segments => ⟨entry.field, entry.index, segments⟩

/-- The mounts that overlap one before them. -/
def overlapRefusals : (before : List (Entry (List Bytes))) → List (Entry (List Bytes)) →
    List ServiceDefinitionFieldRefusal
  | _, [] => []
  | before, entry :: rest =>
      refuseIf (before.any fun other => overlapping entry.content other.content)
          (entry.refuse .mountsOverlap) ++
        overlapRefusals (before ++ [entry]) rest

def ServiceDefinitionDocument.mountRefusals (document : ServiceDefinitionDocument) :
    List ServiceDefinitionFieldRefusal :=
  refuseIf (MAX_SERVICE_VOLUMES < document.volumes.length)
      (refusalOf .volumes none .listTooLong) ++
    refuseIf (MAX_SERVICE_TMPFS < document.tmpfs.length) (refusalOf .tmpfs none .listTooLong) ++
    document.mounts.flatMap (fun entry => refuseIf (acceptedMount entry).isNone
      (entry.refuse .containerPathGrammar)) ++
    overlapRefusals [] (document.mounts.filterMap acceptedMount)

/-- The refusals of a key, and the keys declared after it. -/
def keyRefusals (declared : List Bytes) (entry : Entry Bytes) (key : Bytes) :
    List ServiceDefinitionFieldRefusal × List Bytes :=
  if canonicalEnvironmentKey key = false then ([entry.refuse .keyGrammar], declared)
  else if key ∈ declared then ([entry.refuse .keyAlreadyDeclared], declared)
  else ([], declared ++ [key])

/-- The refusals of a line, and the keys declared after it. -/
def lineRefusals (declared : List Bytes) (entry : Entry Bytes) :
    List ServiceDefinitionFieldRefusal × List Bytes :=
  match cut 0x3D entry.content with
  | none => ([entry.refuse .environmentLineShape], declared)
  | some (key, value) =>
      ((keyRefusals declared entry key).1 ++
        refuseIf (!canonicalEnvironmentValue value) (entry.refuse .valueGrammar),
        (keyRefusals declared entry key).2)

def secretRefusals (declared : List Bytes) (entry : Entry Bytes) :
    List ServiceDefinitionFieldRefusal × List Bytes := keyRefusals declared entry entry.content

/-- The refusals of entries in their order, and the keys declared after them. -/
def walkEntries (refusals : List Bytes → Entry Bytes → List ServiceDefinitionFieldRefusal × List Bytes)
    (declared : List Bytes) : List (Entry Bytes) → List ServiceDefinitionFieldRefusal × List Bytes
  | [] => ([], declared)
  | entry :: rest =>
      ((refusals declared entry).1 ++ (walkEntries refusals (refusals declared entry).2 rest).1,
        (walkEntries refusals (refusals declared entry).2 rest).2)

def ServiceDefinitionDocument.environmentRefusals (document : ServiceDefinitionDocument) :
    List ServiceDefinitionFieldRefusal :=
  let lines := walkEntries lineRefusals [] (entriesOf .environment document.environment)
  let secrets := walkEntries secretRefusals lines.2 (entriesOf .secretKeys document.secretKeys)
  refuseIf (MAX_SERVICE_ENVIRONMENT_LINES < document.environment.length)
      (refusalOf .environment none .listTooLong) ++
    refuseIf (MAX_SERVICE_SECRET_KEYS < document.secretKeys.length)
      (refusalOf .secretKeys none .listTooLong) ++
    lines.1 ++ secrets.1

/-- Every way in which a definition is outside the contract. -/
def ServiceDefinitionDocument.refusals (document : ServiceDefinitionDocument) :
    List ServiceDefinitionFieldRefusal :=
  let refusals := document.fieldRefusals ++ document.mountRefusals ++ document.environmentRefusals
  -- The size is read last, and only where every field holds.
  if refusals = [] ∧ document.encode.isOk = false then [refusalOf .document none .documentTooLarge]
  else refusals

end YourCloud.App.Definition
