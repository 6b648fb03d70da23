import YourCloud.Foundation.Chars

/-!
# What is read of a pasted compose document

A paste fills a form and does nothing else.  A compose document is read line by line: how
deep a line sits, the key it opens, and the scalar or list item it carries.  The first
service that is declared fills the draft, and what cannot be carried is noted.

## Main results

* `readLine_reads`, `readBody_reads` — what is read of a line, and of a service, out of the
  values that stand under each key.
* `finish_readBody` — the draft of a service.
-/

namespace YourCloud.App.Paste

open YourCloud.Foundation
open Chars (trim trimStart byteLength splitOnce stripPrefix)

/-! ## Data -/

def MAX_NOTE_SUBJECTS : Nat := 8

structure ServiceDefinitionDraft where
  slug : Chars := []
  imageRepository : Chars := []
  containerPort : Nat := 0
  volumes : List Chars := []
  tmpfs : List Chars := []
  environment : List Chars := []
  secretKeys : List Chars := []
  deriving DecidableEq, Repr

inductive PasteSource where
  | containerCommand
  | composeDocument
  | unrecognised
  deriving DecidableEq, Repr

inductive PasteNoteName where
  | nothingRecognised
  | pasteTooLarge
  | singleServiceOnly
  | imagePinDropped
  | hostSideDropped
  | unsupportedDirectiveDropped
  | environmentEntryDropped
  | noImageFound
  deriving DecidableEq, Repr

/-- One note, and the names it is about. -/
structure PasteNote where
  note : PasteNoteName
  subjects : List Chars
  deriving DecidableEq, Repr

structure ServiceDefinitionPaste where
  schemaVersion : Nat
  source : PasteSource
  draft : ServiceDefinitionDraft
  notes : List PasteNote
  deriving DecidableEq, Repr

/-! ## Notes -/

abbrev Notes := List PasteNote

def boundedSubject (subject : Chars) : Chars := subject.take 64

def PasteNote.about (entry : PasteNote) : Option Chars → PasteNote
  | none => entry
  | some subject =>
      if entry.subjects.length < MAX_NOTE_SUBJECTS ∧ boundedSubject subject ∉ entry.subjects then
        { entry with subjects := entry.subjects ++ [boundedSubject subject] }
      else entry

/-- One entry for each name, with its subjects. -/
def addNote (note : PasteNoteName) (subject : Option Chars) : Notes → Notes
  | [] => [PasteNote.about ⟨note, []⟩ subject]
  | entry :: rest =>
      if entry.note = note then entry.about subject :: rest
      else entry :: addNote note subject rest

/-! ## Words of a document -/

/-- `str::rsplit_once` -/
def rsplitOnce (p : Char → Bool) (s : Chars) : Option (Chars × Chars) :=
  (splitOnce p s.reverse).map fun parts => (parts.2.reverse, parts.1.reverse)

/-- `str::parse::<u32>` -/
def parseU32 (s : Chars) : Option Nat :=
  let digits := if s.head? = some '+' then s.tail else s
  if digits = [] ∨ digits.any (fun c => !c.isDigit) then none
  else some (digits.foldl (fun n c => 10 * n + (c.toNat - 0x30)) 0) |>.filter (· < 2 ^ 32)

/-- The container side of a published port, without its protocol. -/
def containerPortOfMapping (mapping : Chars) : Option Nat :=
  let last := ((rsplitOnce (· = ':') mapping).map Prod.snd).getD mapping
  let port := ((splitOnce (· = '/') last).map Prod.fst).getD last
  (parseU32 port).filter (0 < ·)

/-- The container side of a mount. -/
def containerPathOfMount (mount : Chars) : Option Chars :=
  let fields := mount.splitOn ':'
  let candidate := if fields.length = 1 then fields.getD 0 [] else fields.getD 1 []
  (if candidate.head? = some '/' then some (candidate.rdropWhile (· = '/')) else none).filter
    fun path => 1 < byteLength path

/-- A reference without its tag and digest; whether there was one. -/
def repositoryOf (reference : Chars) : Chars × Bool :=
  let withoutDigest := (splitOnce (· = '@') reference).map Prod.fst
  let reference := withoutDigest.getD reference
  let (head, last) :=
    match rsplitOnce (· = '/') reference with
    | some (head, last) => (some head, last)
    | none => (none, reference)
  let (last, pinnedByTag) :=
    match splitOnce (· = ':') last with
    | some (last, _) => (last, true)
    | none => (last, false)
  let repository :=
    match head with
    | some head => head ++ '/' :: last
    | none => last
  (repository, withoutDigest.isSome || pinnedByTag)

/-- One more character of a slug that is suggested, which has sixteen at most. -/
def suggestCharacter (slug : Chars) (character : Char) : Chars :=
  let character := character.toLower
  if slug.length = 16 then slug
  else if character.isLower || character.isDigit then slug ++ [character]
  else if slug ≠ [] ∧ slug.getLast? ≠ some '-' then slug ++ ['-']
  else slug

/-- The slug that a form opens on. -/
def suggestedSlug (name : Option Chars) (repository : Chars) : Chars :=
  let source := (name.filter (· ≠ [])).getD
    (((rsplitOnce (· = '/') repository).map Prod.snd).getD repository)
  (source.foldl suggestCharacter []).rdropWhile (· = '-')

/-- A scalar without the one pair of quotes it may carry. -/
def unquoted (value : Chars) : Chars :=
  match ['"', '\''].find? fun quote =>
      2 ≤ value.length && value.head? = some quote && value.getLast? = some quote with
  | some _ => value.tail.dropLast
  | none => value

/-! ## Lines -/

/-- One line, reduced to what is understood of it. -/
structure ComposeLine where
  indent : Nat
  key : Option Chars
  value : Option Chars
  item : Option Chars
  deriving DecidableEq, Repr

/-- A line, or none where it says nothing; no answer at all where it cannot be read. -/
def composeLine (raw : Chars) : Option (Option ComposeLine) :=
  let trimmed := trim raw
  if trimmed = [] ∨ trimmed.head? = some '#' ∨ trimmed = "---".toList then some none
  else
    let indent := byteLength raw - byteLength (trimStart raw)
    if '\t' ∈ raw.takeWhile isWhitespace then none
    else
      match stripPrefix "- ".toList trimmed with
      | some item => some (some ⟨indent, none, none, some (unquoted item)⟩)
      | none =>
          match splitOnce (· = ':') trimmed with
          | none => none
          | some (key, value) =>
              let value := trim value
              some (some ⟨indent, some (trim key),
                if value = [] then none else some (unquoted value), none⟩)

def composeLines (pasted : Chars) : Option (List ComposeLine) := do
  let read ← (Chars.lines pasted).mapM composeLine
  let lines := read.filterMap id
  if lines = [] then none else some lines

/-- What a line beneath a key carries. -/
def ComposeLine.carried (line : ComposeLine) : Option Chars :=
  match line.item with
  | some item => some item
  | none => line.key.map fun key =>
      match line.value with
      | some value => key ++ '=' :: value
      | none => key

/-- The values of a key: its scalar, or what is indented beneath it. -/
def composeValues (keyIndent : Nat) (inline : Option Chars) (rest : List ComposeLine) :
    List Chars :=
  match inline with
  | some inline => [inline]
  | none => (rest.takeWhile fun line => keyIndent < line.indent).filterMap ComposeLine.carried

/-! ## One service -/

def COMPOSE_CARRIED_KEYS : List Chars :=
  ["image".toList, "ports".toList, "expose".toList, "volumes".toList, "tmpfs".toList,
    "environment".toList]

def COMPOSE_SILENT_KEYS : List Chars :=
  ["container_name".toList, "restart".toList, "depends_on".toList, "healthcheck".toList,
    "labels".toList]

/-- What has been read of a service. -/
structure Reading where
  draft : ServiceDefinitionDraft
  published : Option Nat
  exposed : Option Nat
  notes : Notes
  deriving DecidableEq, Repr

def noteHostSide (value : Chars) (notes : Notes) : Notes :=
  if ':' ∈ value then addNote .hostSideDropped (some value) notes else notes

def notePort (notes : Notes) (value : Chars) : Notes :=
  if (containerPortOfMapping value).isSome then noteHostSide value notes else notes

def noteVolume (notes : Notes) (value : Chars) : Notes :=
  if (containerPathOfMount value).isSome then noteHostSide value notes
  else addNote .unsupportedDirectiveDropped (some value) notes

def noteTmpfs (notes : Notes) (value : Chars) : Notes :=
  if (containerPathOfMount value).isSome then notes
  else addNote .unsupportedDirectiveDropped (some value) notes

def noteVariable (notes : Notes) (value : Chars) : Notes :=
  if '=' ∈ value then notes else addNote .environmentEntryDropped (some value) notes

/-- The values of one of the keys that are carried. -/
def carry (key : Chars) (values : List Chars) (reading : Reading) : Reading :=
  if key = "image".toList then
    match values.head? with
    | none => reading
    | some reference =>
        { reading with
          draft := { reading.draft with imageRepository := (repositoryOf reference).1 }
          notes := if (repositoryOf reference).2 then
              addNote .imagePinDropped (some reference) reading.notes
            else reading.notes }
  else if key = "ports".toList then
    { reading with
      published := reading.published.or (values.findSome? containerPortOfMapping)
      notes := values.foldl notePort reading.notes }
  else if key = "expose".toList then
    { reading with exposed := reading.exposed.or (values.findSome? containerPortOfMapping) }
  else if key = "volumes".toList then
    { reading with
      draft := { reading.draft with
        volumes := reading.draft.volumes ++ values.filterMap containerPathOfMount }
      notes := values.foldl noteVolume reading.notes }
  else if key = "tmpfs".toList then
    { reading with
      draft := { reading.draft with
        tmpfs := reading.draft.tmpfs ++ values.filterMap containerPathOfMount }
      notes := values.foldl noteTmpfs reading.notes }
  else if key = "environment".toList then
    { reading with
      draft := { reading.draft with
        environment := reading.draft.environment ++ values.filter ('=' ∈ ·) }
      notes := values.foldl noteVariable reading.notes }
  else reading

/-- One line of a service, before the rest of them. -/
def readLine (keyIndent : Nat) (line : ComposeLine) (rest : List ComposeLine)
    (reading : Reading) : Reading :=
  if line.indent ≠ keyIndent then reading
  else
    match line.key with
    | none => reading
    | some key =>
        if key ∈ COMPOSE_SILENT_KEYS then reading
        else if key ∉ COMPOSE_CARRIED_KEYS then
          { reading with notes := addNote .unsupportedDirectiveDropped (some key) reading.notes }
        else carry key (composeValues keyIndent line.value rest) reading

def readBody (keyIndent : Nat) : List ComposeLine → Reading → Reading
  | [], reading => reading
  | line :: rest, reading => readBody keyIndent rest (readLine keyIndent line rest reading)

/-! ## A document -/

/-- How deep the services are declared, and each by its position and name. -/
def declaredServices (lines : List ComposeLine) : Option (Nat × List (Nat × Chars)) := do
  let servicesAt ← lines.findIdx? fun line => line.indent = 0 && line.key = some "services".toList
  let first ← lines[servicesAt + 1]?.filter fun line => 0 < line.indent
  let declared := (lines.zipIdx.drop (servicesAt + 1)).takeWhile fun line => line.1.indent ≠ 0
  return (first.indent, declared.filterMap fun line =>
    if line.1.indent = first.indent then line.1.key.map fun key => (line.2, key) else none)

/-- The lines from the first service on: to the second one, or to the end of the document. -/
def serviceBody (lines : List ComposeLine) (firstAt : Nat) (others : List (Nat × Chars)) :
    List ComposeLine :=
  (lines.take ((others.head?.map Prod.fst).getD lines.length)).drop (firstAt + 1)

/-- That of several services one is read. -/
def noteServices (firstName : Chars) (others : List (Nat × Chars)) (notes : Notes) : Notes :=
  let notes := others.foldl (fun notes other => addNote .singleServiceOnly (some other.2) notes)
    notes
  if others = [] then notes else addNote .singleServiceOnly (some firstName) notes

/-- The draft of a service, out of what was read of it. -/
def Reading.finish (firstName : Chars) (reading : Reading) : ServiceDefinitionDraft :=
  { reading.draft with
    containerPort := (reading.published.or reading.exposed).getD 0
    slug := suggestedSlug (some firstName) reading.draft.imageRepository }

def composeDocument (lines : List ComposeLine) (notes : Notes) : Option ServiceDefinitionPaste := do
  let (_, names) ← declaredServices lines
  let (firstAt, firstName) ← names.head?
  let notes := noteServices firstName names.tail notes
  let body := serviceBody lines firstAt names.tail
  let keyIndent := (body.head?.map ComposeLine.indent).getD (2 ^ 64 - 1)
  let reading := readBody keyIndent body ⟨{}, none, none, notes⟩
  let notes := if reading.draft.imageRepository = [] then
      addNote .noImageFound none reading.notes
    else reading.notes
  return { schemaVersion := 1, source := .composeDocument, draft := reading.finish firstName,
           notes }

def parseComposeDocument (pasted : Chars) (notes : Notes) : Option ServiceDefinitionPaste := do
  let lines ← composeLines pasted
  composeDocument lines notes

/-! ## What is read

Each field of a draft comes from the values that the lines carry under one key. -/

/-- The values of a line, where it opens this key. -/
def taken (keyIndent : Nat) (name : String) (line : ComposeLine) (rest : List ComposeLine) :
    List (List Chars) :=
  if line.indent = keyIndent ∧ line.key = some name.toList then
    [composeValues keyIndent line.value rest]
  else []

/-- The values under a key, for each line that opens it. -/
def valuesUnder (keyIndent : Nat) (name : String) : List ComposeLine → List (List Chars)
  | [] => []
  | line :: rest => taken keyIndent name line rest ++ valuesUnder keyIndent name rest

/-- The repository of the last image that is named. -/
def imageOf (values : List (List Chars)) (before : Chars) : Chars :=
  (((values.filterMap List.head?).getLast?).map fun reference => (repositoryOf reference).1).getD
    before

/-- The first port that is named. -/
def portOf (values : List (List Chars)) : Option Nat :=
  values.flatten.findSome? containerPortOfMapping

def pathsOf (values : List (List Chars)) : List Chars :=
  values.flatten.filterMap containerPathOfMount

def variablesOf (values : List (List Chars)) : List Chars := values.flatten.filter ('=' ∈ ·)

/-- What has been read, once some values stood under each key. -/
structure Reads (values : String → List (List Chars)) (before after : Reading) : Prop where
  draft : after.draft = { before.draft with
    imageRepository := imageOf (values "image") before.draft.imageRepository
    volumes := before.draft.volumes ++ pathsOf (values "volumes")
    tmpfs := before.draft.tmpfs ++ pathsOf (values "tmpfs")
    environment := before.draft.environment ++ variablesOf (values "environment") }
  published : after.published = before.published.or (portOf (values "ports"))
  exposed : after.exposed = before.exposed.or (portOf (values "expose"))

theorem Reads.refl {values : String → List (List Chars)}
    (h : ∀ name, name.toList ∈ COMPOSE_CARRIED_KEYS → values name = []) {before after : Reading}
    (hdraft : after.draft = before.draft) (hpublished : after.published = before.published)
    (hexposed : after.exposed = before.exposed) : Reads values before after := by
  have himage := h "image" (by decide)
  have hports := h "ports" (by decide)
  have hexpose := h "expose" (by decide)
  have hvolumes := h "volumes" (by decide)
  have htmpfs := h "tmpfs" (by decide)
  have henvironment := h "environment" (by decide)
  constructor
  · simp [hdraft, himage, hvolumes, htmpfs, henvironment, imageOf, pathsOf, variablesOf]
  · simp [hpublished, hports, portOf]
  · simp [hexposed, hexpose, portOf]

theorem Reads.trans {first second : String → List (List Chars)} {a b c : Reading}
    (hab : Reads first a b) (hbc : Reads second b c) :
    Reads (fun name => first name ++ second name) a c := by
  constructor
  · rw [hbc.draft, hab.draft]
    have himage : imageOf (second "image") (imageOf (first "image") a.draft.imageRepository) =
        imageOf (first "image" ++ second "image") a.draft.imageRepository := by
      unfold imageOf
      rw [List.filterMap_append, List.getLast?_append]
      cases ((second "image").filterMap List.head?).getLast? with
      | none => rfl
      | some reference => rfl
    simp [himage, pathsOf, variablesOf]
  · rw [hbc.published, hab.published, Option.or_assoc]
    simp [portOf, List.findSome?_append]
  · rw [hbc.exposed, hab.exposed, Option.or_assoc]
    simp [portOf, List.findSome?_append]

theorem silent_not_carried : ∀ key ∈ COMPOSE_CARRIED_KEYS, key ∉ COMPOSE_SILENT_KEYS := by
  decide

theorem carry_reads {key : Chars} (h : key ∈ COMPOSE_CARRIED_KEYS) (values : List Chars)
    (reading : Reading) :
    Reads (fun name => if key = name.toList then [values] else []) reading
      (carry key values reading) := by
  simp only [COMPOSE_CARRIED_KEYS, List.mem_cons, List.not_mem_nil, or_false] at h
  rcases h with rfl | rfl | rfl | rfl | rfl | rfl
  · -- The image, which is read where there is a value.
    cases values with
    | nil =>
        constructor
        · simp +decide [carry, imageOf, pathsOf, variablesOf]
        · simp +decide [carry, portOf]
        · simp +decide [carry, portOf]
    | cons reference rest =>
        constructor
        · simp +decide [carry, imageOf, pathsOf, variablesOf]
        · simp +decide [carry, portOf]
        · simp +decide [carry, portOf]
  all_goals
    constructor
    · simp +decide [carry, imageOf, pathsOf, variablesOf]
    · simp +decide [carry, portOf]
    · simp +decide [carry, portOf]

/-- What is read of one line. -/
theorem readLine_reads (keyIndent : Nat) (line : ComposeLine) (rest : List ComposeLine)
    (reading : Reading) :
    Reads (fun name => taken keyIndent name line rest) reading
      (readLine keyIndent line rest reading) := by
  unfold readLine
  by_cases hindent : line.indent = keyIndent
  · rw [if_neg (not_not.2 hindent)]
    cases hkey : line.key with
    | none =>
        refine Reads.refl ?_ rfl rfl rfl
        intro name _
        simp [taken, hkey]
    | some key =>
        dsimp only
        by_cases hsilent : key ∈ COMPOSE_SILENT_KEYS
        · rw [if_pos hsilent]
          refine Reads.refl ?_ rfl rfl rfl
          intro name hcarried
          have hother : key ≠ name.toList := by
            intro hsame
            rw [hsame] at hsilent
            exact absurd hsilent (silent_not_carried _ hcarried)
          simp [taken, hkey, hother]
        · rw [if_neg hsilent]
          by_cases hcarried : key ∈ COMPOSE_CARRIED_KEYS
          · rw [if_neg (not_not.2 hcarried)]
            have hreads := carry_reads hcarried (composeValues keyIndent line.value rest) reading
            simpa [taken, hindent, hkey] using hreads
          · rw [if_pos hcarried]
            refine Reads.refl ?_ rfl rfl rfl
            intro name hname
            have hother : key ≠ name.toList := by
              intro hsame
              rw [hsame] at hcarried
              exact hcarried hname
            simp [taken, hkey, hother]
  · rw [if_pos hindent]
    refine Reads.refl ?_ rfl rfl rfl
    intro name _
    simp [taken, hindent]

/-- What is read of the lines of a service. -/
theorem readBody_reads (keyIndent : Nat) (lines : List ComposeLine) (reading : Reading) :
    Reads (fun name => valuesUnder keyIndent name lines) reading
      (readBody keyIndent lines reading) := by
  induction lines generalizing reading with
  | nil => exact Reads.refl (fun _ _ => rfl) rfl rfl rfl
  | cons line rest ih => exact (readLine_reads keyIndent line rest reading).trans (ih _)

/-- The draft of a service whose lines carry these values under each key. -/
def draftFrom (firstName : Chars) (values : String → List (List Chars)) :
    ServiceDefinitionDraft where
  slug := suggestedSlug (some firstName) (imageOf (values "image") [])
  imageRepository := imageOf (values "image") []
  containerPort := ((portOf (values "ports")).or (portOf (values "expose"))).getD 0
  volumes := pathsOf (values "volumes")
  tmpfs := pathsOf (values "tmpfs")
  environment := variablesOf (values "environment")
  secretKeys := []

theorem finish_readBody (firstName : Chars) (keyIndent : Nat) (lines : List ComposeLine)
    (notes : Notes) :
    (readBody keyIndent lines ⟨{}, none, none, notes⟩).finish firstName =
      draftFrom firstName fun name => valuesUnder keyIndent name lines := by
  obtain ⟨hdraft, hpublished, hexposed⟩ :=
    readBody_reads keyIndent lines ⟨{}, none, none, notes⟩
  unfold Reading.finish
  rw [hdraft, hpublished, hexposed]
  rfl

end YourCloud.App.Paste
