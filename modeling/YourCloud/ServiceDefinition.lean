import YourCloud.Approval.Envelope
import YourCloud.Foundation.Checks
import YourCloud.Foundation.Codes

/-!
# The definition of a user service

The one document a user writes: a name, where the images come from, the port the
image listens on, two lists of container paths and two lists of keys.  A plan
pins a definition by the digest of its transcript.

A list that was left out and one that is empty are the same definition.

## Main results

* `Document.bounded_of_validate` — the bounds of a definition that is valid.
* `Document.body_delimiting` — the transcript of a valid definition says which
  definition it is of.
-/

namespace YourCloud.ServiceDefinition

open YourCloud.Foundation
open Approval.Envelope (appendField appendUint32)

def schemaVersion : Int := 1

/-- It separates a definition digest from every other transcript. -/
def transcriptDomain : Bytes := text "your-cloud/service-definition.v1" ++ [0]

/-- The bound of one service definition. -/
def maxDefinitionBytes : Nat := 8192

def maxSlugChars : Nat := 16

def maxImageRepositoryBytes : Nat := 255

def minContainerPort : Int := 1

def maxContainerPort : Int := 65535

def maxVolumes : Nat := 8

def maxTmpfs : Nat := 8

def maxContainerPathBytes : Nat := 253

def maxEnvironmentLines : Nat := 32

def maxSecretKeys : Nat := 16

def maxEnvironmentKeyChars : Nat := 64

def maxEnvironmentValueBytes : Nat := 512

/-- The one interpolation a definition may carry. -/
def originHostPlaceholder : Bytes := text "\x7borigin_host\x7d"

/-! ## Patterns -/

/-- `[a-z0-9]` -/
def isNameByte (b : UInt8) : Bool := isLower b || isDigit b

/-- `^[a-z0-9][a-z0-9-]{0,15}$` -/
def canonicalSlug (slug : Bytes) : Bool :=
  slug.head?.any isNameByte && slug.all (fun b => isNameByte b || b = 0x2D) &&
    slug.length ≤ maxSlugChars

/-- `^[a-z0-9]+(?:[.-][a-z0-9]+)*(?::[0-9]{1,5})?$` -/
def canonicalRegistryHost (registry : Bytes) : Bool :=
  let host := registry.takeWhile (· ≠ 0x3A)
  (host.splitOnP fun b => b = 0x2E || b = 0x2D).all (fun label =>
      label ≠ [] && label.all isNameByte) &&
    match registry.dropWhile (· ≠ 0x3A) with
    | [] => true
    | _ :: port => 1 ≤ port.length && port.length ≤ 5 && port.all isDigit

/-- `[a-z0-9]+(?:[._-]+[a-z0-9]+)*` -/
def canonicalComponent (component : Bytes) : Bool :=
  component.head?.any isNameByte && component.getLast?.any isNameByte &&
    component.all fun b => isNameByte b || b = 0x2E || b = 0x5F || b = 0x2D

/-- Components between separators. -/
def canonicalRepositoryPath (path : Bytes) : Bool :=
  (path.splitOn 0x2F).all canonicalComponent

/-- `^[a-z0-9._-]+$` -/
def canonicalPathSegment (segment : Bytes) : Bool :=
  segment ≠ [] && segment.all fun b => isNameByte b || b = 0x2E || b = 0x5F || b = 0x2D

/-- `^[A-Z][A-Z0-9_]{0,63}$` -/
def canonicalEnvironmentKey (key : Bytes) : Bool :=
  key.head?.any isUpper && key.all (fun b => isUpper b || isDigit b || b = 0x5F) &&
    key.length ≤ maxEnvironmentKeyChars

/-- The four names a definition may not take. -/
def reservedSlugs : List Bytes :=
  [text "bentopdf", text "vaultwarden", text "probe", text "entrypoint"]

/-! ## The document -/

structure Document where
  schemaVersion : Int
  slug : Bytes
  imageRepository : Bytes
  containerPort : Int
  volumes : List Bytes
  tmpfs : List Bytes
  environment : List Bytes
  secretKeys : List Bytes
  deriving DecidableEq, Repr

/-- The part of a string before the first separator, and the part after it. -/
def cut (separator : UInt8) (s : Bytes) : Option (Bytes × Bytes) :=
  if separator ∈ s then
    some (s.takeWhile (· ≠ separator), (s.dropWhile (· ≠ separator)).tail)
  else none

def validateSlug (slug : Bytes) : Except Sentence Unit := do
  demand (canonicalSlug slug)
    (say "service definition slug must be 1.." ++ count maxSlugChars ++
      say " lower-case letters, digits and hyphens opening on a letter or a digit")
  demand (slug ∉ reservedSlugs)
    (say "service definition slug " ++ cite slug ++ say " is reserved by a door of the product")

def validateImageRepository (repository : Bytes) : Except Sentence Unit := do
  demand (repository ≠ [] && repository.length ≤ maxImageRepositoryBytes)
    (say "service definition image_repository must contain 1.." ++ count maxImageRepositoryBytes ++
      say " bytes")
  demand (0x40 ∉ repository)
    (say ("service definition image_repository names a repository, never a digest: the digest of " ++
      "an instance belongs to the plan that deploys it"))
  -- What follows the last separator.
  demand (0x3A ∉ (repository.reverse.takeWhile (· ≠ 0x2F)))
    (say ("service definition image_repository names a repository, never a tag: a tag is an " ++
      "identity nowhere in this product"))
  let (registry, path) ← found (cut 0x2F repository)
    (say "service definition image_repository must name the registry the images come from")
  demand (registry.any (fun b => b = 0x2E || b = 0x3A) && canonicalRegistryHost registry)
    (say "service definition image_repository must open on a registry host, and " ++
      cite registry ++ say " is not one")
  demand (canonicalRepositoryPath path)
    (say "service definition image_repository path " ++ cite path ++
      say (" must be lower-case components of letters, digits, dots, underscores and hyphens"))

/-! ### Container paths -/

/-- A container path, beside the list it came from and the segments it splits into. -/
structure Mount where
  field : Bytes
  path : Bytes
  segments : List Bytes
  deriving DecidableEq, Repr

/-- A sentence about a path of a list. -/
def ofPath (field path : Bytes) (what : Sentence) : Sentence :=
  say "service definition " ++ [.words field] ++ say " " ++ cite path ++ what

def validateContainerPath (field path : Bytes) : Except Sentence (List Bytes) := do
  demand (path.head? = some 0x2F) (ofPath field path (say " must be an absolute container path"))
  demand (path ≠ text "/")
    (say "service definition " ++ [.words field] ++
      say " must not be the root of the container alone")
  demand (path.length ≤ maxContainerPathBytes)
    (ofPath field path (say " must contain at most " ++ count maxContainerPathBytes ++ say " bytes"))
  demand (path.getLast? ≠ some 0x2F) (ofPath field path (say " must not end on a separator"))
  let segments := path.tail.splitOn 0x2F
  segments.forM fun segment => do
    demand (segment ≠ []) (ofPath field path (say " must not carry an empty segment"))
    demand (segment ≠ text "." && segment ≠ text "..")
      (ofPath field path (say " must not carry a relative segment"))
    demand (canonicalPathSegment segment)
      (ofPath field path
        (say " must carry only lower-case letters, digits, dots, underscores and hyphens"))
  return segments

/-- The first path is the second or contains it, segment by segment. -/
def opensOrEquals (outer inner : List Bytes) : Bool := outer.isPrefixOf inner

/-- No path is another one or inside it. -/
def validateApart : List Mount → Except Sentence Unit
  | [] => .ok ()
  | entry :: rest => do
      rest.forM fun other =>
        demand (!opensOrEquals entry.segments other.segments &&
            !opensOrEquals other.segments entry.segments)
          (say "service definition " ++ [.words entry.field] ++ say " " ++ cite entry.path ++
            say " and " ++ [.words other.field] ++ say " " ++ cite other.path ++
            say " are the same mount or one inside the other")
      validateApart rest

/-- The paths of one list. -/
def declareMounts (field : Bytes) (entries : List Bytes) : Except Sentence (List Mount) :=
  entries.mapM fun path => do
    let segments ← validateContainerPath field path
    return ⟨field, path, segments⟩

def validateMounts (volumes tmpfs : List Bytes) : Except Sentence Unit := do
  demand (volumes.length ≤ maxVolumes)
    (say "service definition volumes must hold 0.." ++ count maxVolumes ++ say " entries")
  demand (tmpfs.length ≤ maxTmpfs)
    (say "service definition tmpfs must hold 0.." ++ count maxTmpfs ++ say " entries")
  let volumes ← declareMounts (text "volumes") volumes
  let tmpfs ← declareMounts (text "tmpfs") tmpfs
  validateApart (volumes ++ tmpfs)

/-! ### Keys -/

def validateEnvironmentKey (field key : Bytes) : Except Sentence Unit :=
  demand (canonicalEnvironmentKey key)
    (say "service definition " ++ [.words field] ++ say " key " ++ cite key ++ say " must be 1.." ++
      count maxEnvironmentKeyChars ++
      say " upper-case letters, digits and underscores opening on a letter")

/-- A sentence about the value of a key. -/
def ofValue (key : Bytes) (what : Sentence) : Sentence :=
  say "service definition environment value of " ++ cite key ++ what

/-- The bytes of a value, past those of a placeholder that was just read. -/
def validateValueFrom (key : Bytes) : Nat → Bytes → Except Sentence Unit
  | _, [] => .ok ()
  | inside + 1, _ :: rest => validateValueFrom key inside rest
  | 0, character :: rest => do
      demand (0x20 ≤ character && character ≤ 0x7E)
        (ofValue key (say " must be printable ASCII"))
      if character = 0x7B then
        demand (originHostPlaceholder.isPrefixOf (character :: rest))
          (ofValue key (say " may carry a brace only inside " ++ [.words originHostPlaceholder]))
        validateValueFrom key (originHostPlaceholder.length - 1) rest
      else if character = 0x7D then
        .error (ofValue key
          (say " carries a closing brace outside " ++ [.words originHostPlaceholder]))
      else validateValueFrom key 0 rest

def validateEnvironmentValue (key value : Bytes) : Except Sentence Unit := do
  demand (value.length ≤ maxEnvironmentValueBytes)
    (ofValue key
      (say " must contain at most " ++ count maxEnvironmentValueBytes ++ say " bytes"))
  validateValueFrom key 0 value

/-- The names taken so far, each with the list that took it. -/
abbrev Claimed := List (Bytes × Bytes)

/-- Takes a name in the one namespace of the two lists. -/
def claimKey (declared : Claimed) (field key : Bytes) : Except Sentence Claimed :=
  match declared.lookup key with
  | none => .ok ((key, field) :: declared)
  | some previous =>
      if previous = field then
        .error (say "service definition " ++ [.words field] ++ say " declares the key " ++ cite key ++
          say " twice")
      else
        .error (say "service definition declares " ++ cite key ++
          say " as an environment key and as a secret key at once")

def declareLine (declared : Claimed) (line : Bytes) : Except Sentence Claimed := do
  let (key, value) ← found (cut 0x3D line)
    (say "service definition environment line " ++ cite line ++ say " must be spelled KEY=value")
  validateEnvironmentKey (text "environment") key
  validateEnvironmentValue key value
  claimKey declared (text "environment") key

def declareSecret (declared : Claimed) (key : Bytes) : Except Sentence Claimed := do
  validateEnvironmentKey (text "secret_keys") key
  claimKey declared (text "secret_keys") key

def validateEnvironment (environment secretKeys : List Bytes) : Except Sentence Unit := do
  demand (environment.length ≤ maxEnvironmentLines)
    (say "service definition environment must hold 0.." ++ count maxEnvironmentLines ++
      say " lines")
  demand (secretKeys.length ≤ maxSecretKeys)
    (say "service definition secret_keys must hold 0.." ++ count maxSecretKeys ++ say " keys")
  let declared ← environment.foldlM declareLine []
  let _ ← secretKeys.foldlM declareSecret declared
  return ()

def Document.validate (document : Document) : Except Sentence Unit := do
  demand (document.schemaVersion = ServiceDefinition.schemaVersion)
    (say "service definition schema version is unsupported")
  validateSlug document.slug
  validateImageRepository document.imageRepository
  demand (minContainerPort ≤ document.containerPort && document.containerPort ≤ maxContainerPort)
    (say "service definition container_port must be within 1..65535")
  validateMounts document.volumes document.tmpfs
  validateEnvironment document.environment document.secretKeys

/-! ## The transcript -/

/-- `byte(n)` of a signed number. -/
def byteOf (n : Int) : UInt8 := (n % 256).toNat.toUInt8

/-- `uint32(n)` of a signed number. -/
def uint32Of (n : Int) : Nat := (n % 2 ^ 32).toNat

/-- A list as the count of its elements followed by the elements. -/
def appendList (buffer : Bytes) (entries : List Bytes) : Bytes :=
  entries.foldl appendField (appendUint32 buffer entries.length)

/-- The exact bytes a definition digest is taken over. -/
def Document.transcript (document : Document) : Except Sentence Bytes := do
  document.validate
  let transcript := transcriptDomain ++ [byteOf document.schemaVersion]
  let transcript := appendField transcript document.slug
  let transcript := appendField transcript document.imageRepository
  let transcript := appendUint32 transcript (uint32Of document.containerPort)
  let transcript := appendList transcript document.volumes
  let transcript := appendList transcript document.tmpfs
  let transcript := appendList transcript document.environment
  return appendList transcript document.secretKeys

/-! ### What a valid definition is bounded by -/

theorem canonicalSlug_length {slug : Bytes} (h : canonicalSlug slug = true) :
    slug.length ≤ 16 := by
  simp only [canonicalSlug, Bool.and_eq_true, decide_eq_true_eq] at h
  exact h.2

theorem validateSlug_length {slug : Bytes} {u : Unit} (h : validateSlug slug = .ok u) :
    slug.length ≤ 16 := by
  obtain ⟨_, hslug, -⟩ := bind_ok_iff.1 h
  exact canonicalSlug_length (demand_eq_ok.1 hslug)

theorem validateImageRepository_length {repository : Bytes} {u : Unit}
    (h : validateImageRepository repository = .ok u) : repository.length ≤ 255 := by
  obtain ⟨_, hlength, -⟩ := bind_ok_iff.1 h
  have hbound := demand_eq_ok.1 hlength
  simp only [Bool.and_eq_true, decide_eq_true_eq] at hbound
  exact hbound.2

theorem validateContainerPath_length {field path : Bytes} {segments : List Bytes}
    (h : validateContainerPath field path = .ok segments) : path.length ≤ 253 := by
  obtain ⟨_, -, h⟩ := bind_ok_iff.1 h
  obtain ⟨_, -, h⟩ := bind_ok_iff.1 h
  obtain ⟨_, hlength, -⟩ := bind_ok_iff.1 h
  exact of_decide_eq_true (demand_eq_ok.1 hlength)

theorem declareMounts_length {field : Bytes} {entries : List Bytes} {mounts : List Mount}
    (h : declareMounts field entries = .ok mounts) : ∀ path ∈ entries, path.length ≤ 253 := by
  intro path hpath
  obtain ⟨mount, hmount⟩ := mapM_passed h path hpath
  obtain ⟨segments, hsegments, -⟩ := bind_ok_iff.1 hmount
  exact validateContainerPath_length hsegments

theorem validateEnvironmentKey_length {field key : Bytes} {u : Unit}
    (h : validateEnvironmentKey field key = .ok u) : key.length ≤ 64 := by
  have hkey := demand_eq_ok.1 h
  simp only [canonicalEnvironmentKey, Bool.and_eq_true, decide_eq_true_eq] at hkey
  exact hkey.2

/-- A string that was cut is its two parts around the separator. -/
theorem cut_append {separator : UInt8} {s before after : Bytes}
    (h : cut separator s = some (before, after)) : s = before ++ separator :: after := by
  unfold cut at h
  split at h
  · rename_i hmem
    obtain ⟨rfl, rfl⟩ := Prod.mk.inj (Option.some.inj h)
    have hne : s.dropWhile (· ≠ separator) ≠ [] := by
      intro hnil
      have hall := List.dropWhile_eq_nil_iff.1 hnil separator hmem
      simp at hall
    have hhead := List.head_dropWhile_not (fun b : UInt8 => decide (b ≠ separator)) hne
    rw [decide_eq_false_iff_not, not_not] at hhead
    have hcons := List.cons_head_tail hne
    rw [hhead] at hcons
    rw [hcons]
    exact (List.takeWhile_append_dropWhile).symm
  · cases h

theorem declareLine_length {declared declared' : Claimed} {line : Bytes}
    (h : declareLine declared line = .ok declared') : line.length ≤ 577 := by
  obtain ⟨⟨key, value⟩, hcut, h⟩ := bind_ok_iff.1 h
  obtain ⟨_, hkey, h⟩ := bind_ok_iff.1 h
  obtain ⟨_, hvalue, -⟩ := bind_ok_iff.1 h
  obtain ⟨_, hlength, -⟩ := bind_ok_iff.1 hvalue
  have hkeyLength := validateEnvironmentKey_length hkey
  have hvalueLength : value.length ≤ 512 := of_decide_eq_true (demand_eq_ok.1 hlength)
  have hline := congrArg List.length (cut_append (found_eq_ok.1 hcut))
  rw [List.length_append, List.length_cons] at hline
  omega

theorem declareSecret_length {declared declared' : Claimed} {key : Bytes}
    (h : declareSecret declared key = .ok declared') : key.length ≤ 64 := by
  obtain ⟨_, hkey, -⟩ := bind_ok_iff.1 h
  exact validateEnvironmentKey_length hkey

/-- A count or a length past the prefix of the transcript is far off. -/
def ShortList (entries : List Bytes) : Prop :=
  entries.length < 256 ^ 4 ∧ ∀ entry ∈ entries, entry.length < 256 ^ 4

/-- What the transcript needs of a definition. -/
structure Document.Bounded (document : Document) : Prop where
  schemaVersion : document.schemaVersion = ServiceDefinition.schemaVersion
  slug : document.slug.length < 256 ^ 4
  imageRepository : document.imageRepository.length < 256 ^ 4
  containerPort : 1 ≤ document.containerPort ∧ document.containerPort ≤ 65535
  volumes : ShortList document.volumes
  tmpfs : ShortList document.tmpfs
  environment : ShortList document.environment
  secretKeys : ShortList document.secretKeys

theorem validateMounts_short {volumes tmpfs : List Bytes} {u : Unit}
    (h : validateMounts volumes tmpfs = .ok u) : ShortList volumes ∧ ShortList tmpfs := by
  obtain ⟨_, hvolumes, h⟩ := bind_ok_iff.1 h
  obtain ⟨_, htmpfs, h⟩ := bind_ok_iff.1 h
  obtain ⟨_, hdeclaredVolumes, h⟩ := bind_ok_iff.1 h
  obtain ⟨_, hdeclaredTmpfs, -⟩ := bind_ok_iff.1 h
  have hcount : volumes.length ≤ 8 := of_decide_eq_true (demand_eq_ok.1 hvolumes)
  have hcount' : tmpfs.length ≤ 8 := of_decide_eq_true (demand_eq_ok.1 htmpfs)
  constructor
  · exact ⟨by omega, fun path hpath => by have := declareMounts_length hdeclaredVolumes path hpath; omega⟩
  · exact ⟨by omega, fun path hpath => by have := declareMounts_length hdeclaredTmpfs path hpath; omega⟩

theorem validateEnvironment_short {environment secretKeys : List Bytes} {u : Unit}
    (h : validateEnvironment environment secretKeys = .ok u) :
    ShortList environment ∧ ShortList secretKeys := by
  obtain ⟨_, henvironment, h⟩ := bind_ok_iff.1 h
  obtain ⟨_, hsecrets, h⟩ := bind_ok_iff.1 h
  obtain ⟨_, hlines, h⟩ := bind_ok_iff.1 h
  obtain ⟨_, hkeys, -⟩ := bind_ok_iff.1 h
  have hcount : environment.length ≤ 32 := of_decide_eq_true (demand_eq_ok.1 henvironment)
  have hcount' : secretKeys.length ≤ 16 := of_decide_eq_true (demand_eq_ok.1 hsecrets)
  constructor
  · refine ⟨by omega, fun line hline => ?_⟩
    obtain ⟨_, _, hstep⟩ := foldlM_passed hlines line hline
    have := declareLine_length hstep
    omega
  · refine ⟨by omega, fun key hkey => ?_⟩
    obtain ⟨_, _, hstep⟩ := foldlM_passed hkeys key hkey
    have := declareSecret_length hstep
    omega

theorem Document.bounded_of_validate {document : Document} {u : Unit}
    (h : document.validate = .ok u) : document.Bounded := by
  obtain ⟨_, hversion, h⟩ := bind_ok_iff.1 h
  obtain ⟨_, hslug, h⟩ := bind_ok_iff.1 h
  obtain ⟨_, hrepository, h⟩ := bind_ok_iff.1 h
  obtain ⟨_, hport, h⟩ := bind_ok_iff.1 h
  obtain ⟨_, hmounts, henvironment⟩ := bind_ok_iff.1 h
  have hslugLength := validateSlug_length hslug
  have hrepositoryLength := validateImageRepository_length hrepository
  have hportBounds := demand_eq_ok.1 hport
  rw [Bool.and_eq_true, decide_eq_true_eq, decide_eq_true_eq] at hportBounds
  obtain ⟨hvolumes, htmpfs⟩ := validateMounts_short hmounts
  obtain ⟨hlines, hkeys⟩ := validateEnvironment_short henvironment
  exact ⟨of_decide_eq_true (demand_eq_ok.1 hversion), by omega, by omega, hportBounds, hvolumes,
    htmpfs, hlines, hkeys⟩

/-! ### What a transcript says -/

theorem appendField_eq (buffer value : Bytes) :
    appendField buffer value = buffer ++ writeField value := by
  simp [appendField, appendUint32, writeField]

theorem appendList_eq (buffer : Bytes) (entries : List Bytes) :
    appendList buffer entries = buffer ++ writeList writeField entries := by
  have hfold : ∀ (entries : List Bytes) (buffer : Bytes),
      entries.foldl appendField buffer = buffer ++ entries.flatMap writeField := by
    intro entries
    induction entries with
    | nil => simp
    | cons entry entries ih =>
        intro buffer
        rw [List.foldl_cons, ih, appendField_eq, List.flatMap_cons, List.append_assoc]
  rw [appendList, hfold, appendUint32, writeList, List.append_assoc]

/-- What follows the domain and the version. -/
def Document.body (document : Document) : Bytes :=
  writeField document.slug ++ (writeField document.imageRepository ++
    (bigEndian 4 (uint32Of document.containerPort) ++
      (writeList writeField document.volumes ++ (writeList writeField document.tmpfs ++
        (writeList writeField document.environment ++ writeList writeField document.secretKeys)))))

theorem Document.transcript_of_validate {document : Document} (h : document.validate = .ok ()) :
    document.transcript =
      .ok (transcriptDomain ++ byteOf document.schemaVersion :: document.body) := by
  unfold Document.transcript
  rw [h]
  show Except.ok _ = _
  simp only [appendList_eq, appendField_eq, appendUint32, Document.body, List.append_assoc,
    List.cons_append, List.nil_append]

/-- A port is not cut. -/
theorem uint32Of_inj {m n : Int} (hm : 1 ≤ m ∧ m ≤ 65535) (hn : 1 ≤ n ∧ n ≤ 65535)
    (h : uint32Of m = uint32Of n) : m = n := by
  unfold uint32Of at h
  omega

theorem uint32Of_lt (n : Int) : uint32Of n < 256 ^ 4 := by
  unfold uint32Of
  omega

theorem Document.body_delimiting : SelfDelimiting Document.Bounded Document.body := by
  have hlist := SelfDelimiting.list SelfDelimiting.field
  apply (SelfDelimiting.field.pair (SelfDelimiting.field.pair ((SelfDelimiting.word 4).pair
    (hlist.pair (hlist.pair (hlist.pair hlist)))))).of_view fun document =>
      (document.slug, document.imageRepository, uint32Of document.containerPort, document.volumes,
        document.tmpfs, document.environment, document.secretKeys)
  · intro document h
    exact ⟨h.slug, h.imageRepository, uint32Of_lt _, h.volumes, h.tmpfs, h.environment,
      h.secretKeys⟩
  · exact fun _ => rfl
  · rintro ⟨⟩ ⟨⟩ h h' hview
    simp only [Prod.mk.injEq] at hview
    obtain ⟨hslug, hrepository, hport, hvolumes, htmpfs, henvironment, hsecrets⟩ := hview
    have hversion := h.schemaVersion.trans h'.schemaVersion.symm
    have hports := uint32Of_inj h.containerPort h'.containerPort hport
    simp only at hversion hports
    subst_vars
    rfl

end YourCloud.ServiceDefinition
