import YourCloud.App.Refusals

/-!
# Making a definition right

What the diagnosis does not name holds the contract among itself: a definition in which
exactly the named entries were made right, or taken out, holds it as well.  Only its size was
not looked at before, because the diagnosis reads it last.

## Main results

* `corrected_holds` — a definition whose named entries were made right holds the contract.
* `taken_right` — every definition can be made right so.
* `refusals_exact` — what the diagnosis says, altogether.
-/

namespace YourCloud.App.Definition

open YourCloud.Foundation

/-! ## Corrections -/

/-- Whether a refusal is on a field, or on an entry of it. -/
def concerns (refusals : List ServiceDefinitionFieldRefusal) (field : ServiceDefinitionField)
    (entry : Option Nat) : Bool := refusals.any fun r => r.field = field && r.entry = entry

/-- Whether an entry is named: itself, or its list as a whole. -/
def Entry.listed (refusals : List ServiceDefinitionFieldRefusal) (entry : Entry Bytes) : Bool :=
  concerns refusals entry.field (some entry.index) || concerns refusals entry.field none

/-- What takes the place of what is named.  An entry may be taken out of its list. -/
structure Correction where
  schemaVersion : UInt8
  slug : Bytes
  imageRepository : Bytes
  containerPort : UInt32
  entry : ServiceDefinitionField → Nat → Option Bytes

/-- What becomes of an entry. -/
def Correction.content (correction : Correction) (refusals : List ServiceDefinitionFieldRefusal)
    (entry : Entry Bytes) : Option Bytes :=
  if entry.listed refusals then correction.entry entry.field entry.index else some entry.content

/-- The definition in which exactly what is named was replaced. -/
def ServiceDefinitionDocument.corrected (document : ServiceDefinitionDocument)
    (correction : Correction) : ServiceDefinitionDocument :=
  let refusals := document.refusals
  { schemaVersion := if concerns refusals .schemaVersion none then correction.schemaVersion
      else document.schemaVersion
    slug := if concerns refusals .slug none then correction.slug else document.slug
    imageRepository := if concerns refusals .imageRepository none then correction.imageRepository
      else document.imageRepository
    containerPort := if concerns refusals .containerPort none then correction.containerPort
      else document.containerPort
    volumes := (entriesOf .volumes document.volumes).filterMap (correction.content refusals)
    tmpfs := (entriesOf .tmpfs document.tmpfs).filterMap (correction.content refusals)
    environment :=
      (entriesOf .environment document.environment).filterMap (correction.content refusals)
    secretKeys :=
      (entriesOf .secretKeys document.secretKeys).filterMap (correction.content refusals) }

/-- What takes the place of an entry holds its rules: on its own, and beside the others. -/
structure RightEntries (holds : Site → Prop) (clash : Site → Site → Prop)
    (listed : Entry Bytes → Bool) (content : Entry Bytes → Option Bytes)
    (entries : List (Entry Bytes)) : Prop where
  alone : ∀ entry ∈ entries, listed entry = true → ∀ path ∈ content entry,
    holds (entry.field, path)
  beside : entries.Pairwise fun entry other => listed entry = true ∨ listed other = true →
    ∀ path ∈ content entry, ∀ path' ∈ content other, ¬ clash (entry.field, path) (other.field, path')

/-- What takes the place of what is named is right, and a list that was too long no longer is. -/
structure Correction.Right (correction : Correction) (document : ServiceDefinitionDocument) :
    Prop where
  schemaVersion : concerns document.refusals .schemaVersion none = true →
    correction.schemaVersion = SERVICE_DEFINITION_SCHEMA_VERSION
  slug : concerns document.refusals .slug none = true →
    canonicalDefinitionSlug correction.slug = true
  imageRepository : concerns document.refusals .imageRepository none = true →
    canonicalImageRepository correction.imageRepository = true
  containerPort : concerns document.refusals .containerPort none = true →
    MIN_CONTAINER_PORT ≤ correction.containerPort ∧ correction.containerPort ≤ MAX_CONTAINER_PORT
  volumes : concerns document.refusals .volumes none = true →
    (document.corrected correction).volumes.length ≤ MAX_SERVICE_VOLUMES
  tmpfs : concerns document.refusals .tmpfs none = true →
    (document.corrected correction).tmpfs.length ≤ MAX_SERVICE_TMPFS
  environment : concerns document.refusals .environment none = true →
    (document.corrected correction).environment.length ≤ MAX_SERVICE_ENVIRONMENT_LINES
  secretKeys : concerns document.refusals .secretKeys none = true →
    (document.corrected correction).secretKeys.length ≤ MAX_SERVICE_SECRET_KEYS
  mounts : RightEntries MountHolds MountsClash (Entry.listed document.refusals)
    (correction.content document.refusals) document.mounts
  named : RightEntries KeyHolds KeysClash (Entry.listed document.refusals)
    (correction.content document.refusals) document.named

/-! ## What is not named -/

theorem concerns_of_mem {refusals : List ServiceDefinitionFieldRefusal}
    {r : ServiceDefinitionFieldRefusal} (h : r ∈ refusals) :
    concerns refusals r.field r.entry = true := by
  unfold concerns
  rw [List.any_eq_true]
  exact ⟨r, h, by simp⟩

theorem listed_of_refuse {document : ServiceDefinitionDocument} {entry : Entry Bytes}
    {refusal : ServiceDefinitionRefusal} (h : Breaks document (entry.refuse refusal)) :
    entry.listed document.refusals = true := by
  have hmem : entry.refuse refusal ∈ document.refusals := mem_refusals.2 (Or.inl h)
  have hconcerns : concerns document.refusals entry.field (some entry.index) = true :=
    concerns_of_mem hmem
  unfold Entry.listed
  rw [hconcerns, Bool.true_or]

/-- What the diagnosis does not name holds a rule, on its own and beside what is before it. -/
structure KeptEntries (holds : Site → Prop) (clash : Site → Site → Prop)
    (listed : Entry Bytes → Bool) (entries : List (Entry Bytes)) : Prop where
  alone : ∀ entry ∈ entries, listed entry = false → holds entry.site
  beside : entries.Pairwise fun other entry => listed entry = false → ¬ clash other.site entry.site

theorem kept_mounts (document : ServiceDefinitionDocument) :
    KeptEntries MountHolds MountsClash (Entry.listed document.refusals) document.mounts := by
  constructor
  · intro entry hentry hlisted
    by_contra hpath
    have hnamed := listed_of_refuse (Breaks.path hentry hpath)
    simp [hlisted] at hnamed
  · rw [pairwise_iff_split]
    intro before entry after hentry other hother hlisted hclash
    have hnamed := listed_of_refuse (Breaks.overlap hentry hother hclash)
    simp [hlisted] at hnamed

theorem refuse_of_keyBreaks {entry : Entry Bytes} {r : ServiceDefinitionFieldRefusal}
    (h : KeyBreaks entry r) : ∃ refusal, r = entry.refuse refusal := by
  cases h with
  | shape _ _ => exact ⟨_, rfl⟩
  | lineKey _ _ _ => exact ⟨_, rfl⟩
  | lineValue _ _ _ => exact ⟨_, rfl⟩
  | secret _ _ => exact ⟨_, rfl⟩

theorem kept_named (document : ServiceDefinitionDocument) :
    KeptEntries KeyHolds KeysClash (Entry.listed document.refusals) document.named := by
  constructor
  · intro entry hentry hlisted
    rw [keyHolds_iff]
    intro r hbreaks
    obtain ⟨refusal, rfl⟩ := refuse_of_keyBreaks hbreaks
    have hnamed := listed_of_refuse (Breaks.key hentry hbreaks)
    simp [hlisted] at hnamed
  · rw [pairwise_iff_split]
    intro before entry after hentry other hother hlisted hclash
    have hnamed := listed_of_refuse (Breaks.declared hentry hother hclash)
    simp [hlisted] at hnamed

/-! ## The definition made right -/

/-- The site that takes the place of an entry. -/
def placed (content : Entry Bytes → Option Bytes) (entry : Entry Bytes) : Option Site :=
  (content entry).map (Prod.mk entry.field)

theorem placed_entriesOf (content : Entry Bytes → Option Bytes) (field : ServiceDefinitionField)
    (l : List Bytes) : (entriesOf field l).filterMap (placed content) =
      ((entriesOf field l).filterMap content).map (Prod.mk field) := by
  rw [List.map_filterMap]
  apply List.filterMap_congr
  intro entry hentry
  unfold placed
  rw [field_of_mem_entriesOf hentry]

/-- Entries that were kept and entries made right hold the rules together. -/
theorem placed_holds {holds : Site → Prop} {clash : Site → Site → Prop}
    {listed : Entry Bytes → Bool} {content : Entry Bytes → Option Bytes}
    {entries : List (Entry Bytes)} (hkept : KeptEntries holds clash listed entries)
    (hright : RightEntries holds clash listed content entries)
    (hcontent : ∀ entry, listed entry = false → content entry = some entry.content) :
    (∀ site ∈ entries.filterMap (placed content), holds site) ∧
      (entries.filterMap (placed content)).Pairwise fun site other => ¬ clash site other := by
  constructor
  · intro site hsite
    obtain ⟨entry, hentry, hplaced⟩ := List.mem_filterMap.1 hsite
    obtain ⟨path, hpath, rfl⟩ := Option.map_eq_some_iff.1 hplaced
    cases hlisted : listed entry with
    | false =>
        rw [hcontent entry hlisted, Option.some.injEq] at hpath
        rw [← hpath]
        exact hkept.alone entry hentry hlisted
    | true => exact hright.alone entry hentry hlisted path hpath
  · rw [List.pairwise_filterMap]
    apply (hkept.beside.and hright.beside).imp
    intro entry other hpair site hsite site' hsite'
    obtain ⟨path, hpath, rfl⟩ := Option.map_eq_some_iff.1 hsite
    obtain ⟨path', hpath', rfl⟩ := Option.map_eq_some_iff.1 hsite'
    by_cases hchanged : listed entry = true ∨ listed other = true
    · exact hpair.2 hchanged path hpath path' hpath'
    · rw [not_or, Bool.not_eq_true, Bool.not_eq_true] at hchanged
      rw [hcontent entry hchanged.1, Option.some.injEq] at hpath
      rw [hcontent other hchanged.2, Option.some.injEq] at hpath'
      rw [← hpath, ← hpath']
      exact hpair.1 hchanged.2

theorem content_kept (correction : Correction) (refusals : List ServiceDefinitionFieldRefusal)
    (entry : Entry Bytes) (h : entry.listed refusals = false) :
    correction.content refusals entry = some entry.content := by
  unfold Correction.content
  rw [h]
  rfl

theorem entriesOf_length (field : ServiceDefinitionField) (l : List Bytes) :
    (entriesOf field l).length = l.length := by simp [entriesOf]

/-- A list that was not too long is not after entries of it were taken out. -/
theorem corrected_length {content : Entry Bytes → Option Bytes} {field : ServiceDefinitionField}
    {l : List Bytes} {bound : Nat} {listed : Bool}
    (hright : listed = true → ((entriesOf field l).filterMap content).length ≤ bound)
    (hlisted : bound < l.length → listed = true) :
    ((entriesOf field l).filterMap content).length ≤ bound := by
  by_cases hlong : bound < l.length
  · exact hright (hlisted hlong)
  · have hle := List.length_filterMap_le content (entriesOf field l)
    rw [entriesOf_length] at hle
    omega

/-- A field that is replaced where it is named is right. -/
theorem corrected_field {α : Type} {p : α → Prop} {old new : α} {listed : Bool}
    (hright : listed = true → p new) (hlisted : ¬ p old → listed = true) :
    p (if listed = true then new else old) := by
  by_cases h : listed = true
  · rw [if_pos h]
    exact hright h
  · rw [if_neg h]
    by_contra hold
    exact h (hlisted hold)

theorem corrected_mountSites (document : ServiceDefinitionDocument) (correction : Correction) :
    (document.corrected correction).mountSites =
      document.mounts.filterMap (placed (correction.content document.refusals)) := by
  unfold ServiceDefinitionDocument.mountSites ServiceDefinitionDocument.mounts
  rw [List.filterMap_append, placed_entriesOf, placed_entriesOf]
  rfl

theorem corrected_namedSites (document : ServiceDefinitionDocument) (correction : Correction) :
    (document.corrected correction).namedSites =
      document.named.filterMap (placed (correction.content document.refusals)) := by
  unfold ServiceDefinitionDocument.namedSites ServiceDefinitionDocument.named
  rw [List.filterMap_append, placed_entriesOf, placed_entriesOf]
  rfl

/-- A field as a whole is named where it breaks a rule. -/
theorem concerns_of_breaks {document : ServiceDefinitionDocument} {field : ServiceDefinitionField}
    {refusal : ServiceDefinitionRefusal} (h : Breaks document ⟨field, none, refusal⟩) :
    concerns document.refusals field none = true :=
  concerns_of_mem (mem_refusals.2 (Or.inl h))

theorem slug_named {document : ServiceDefinitionDocument}
    (h : ¬ canonicalDefinitionSlug document.slug = true) :
    concerns document.refusals .slug none = true := by
  by_cases hgrammar : canonicalServiceSlug document.slug = false
  · exact concerns_of_breaks (Breaks.slugGrammar hgrammar)
  · have hreserved : document.slug ∈ RESERVED_SERVICE_SLUGS := by
      rw [Bool.not_eq_false] at hgrammar
      by_contra hreserved
      exact h (by simp [canonicalDefinitionSlug, hgrammar, hreserved])
    exact concerns_of_breaks (Breaks.slugReserved hreserved)

theorem imageRepository_named {document : ServiceDefinitionDocument}
    (h : ¬ canonicalImageRepository document.imageRepository = true) :
    concerns document.refusals .imageRepository none = true := by
  rw [Bool.not_eq_true] at h
  cases hpinned : imageRepositoryNamesOneImage document.imageRepository with
  | false => exact concerns_of_breaks (Breaks.imageRepositoryGrammar h hpinned)
  | true => exact concerns_of_breaks (Breaks.imageRepositoryPinned h hpinned)

/-- A definition whose named entries were made right holds the contract. -/
theorem corrected_holds {document : ServiceDefinitionDocument} {correction : Correction}
    (h : correction.Right document) :
    (document.corrected correction).holdsTheContract = true := by
  have hmounts := placed_holds (kept_mounts document) h.mounts (content_kept correction _)
  have hnamed := placed_holds (kept_named document) h.named (content_kept correction _)
  have hversion : (document.corrected correction).schemaVersion =
      SERVICE_DEFINITION_SCHEMA_VERSION :=
    corrected_field (p := fun version => version = SERVICE_DEFINITION_SCHEMA_VERSION)
      h.schemaVersion fun hold => concerns_of_breaks (Breaks.schemaVersion hold)
  have hslug : canonicalDefinitionSlug (document.corrected correction).slug = true :=
    corrected_field (p := fun slug => canonicalDefinitionSlug slug = true) h.slug slug_named
  have hrepository : canonicalImageRepository
      (document.corrected correction).imageRepository = true :=
    corrected_field (p := fun repository => canonicalImageRepository repository = true)
      h.imageRepository imageRepository_named
  have hport : MIN_CONTAINER_PORT ≤ (document.corrected correction).containerPort ∧
      (document.corrected correction).containerPort ≤ MAX_CONTAINER_PORT :=
    corrected_field (p := fun port => MIN_CONTAINER_PORT ≤ port ∧ port ≤ MAX_CONTAINER_PORT)
      h.containerPort fun hold => concerns_of_breaks (Breaks.containerPort hold)
  have hvolumes := corrected_length h.volumes
    fun hlong => concerns_of_breaks (Breaks.volumes hlong)
  have htmpfs := corrected_length h.tmpfs fun hlong => concerns_of_breaks (Breaks.tmpfs hlong)
  have henvironment := corrected_length h.environment
    fun hlong => concerns_of_breaks (Breaks.environment hlong)
  have hsecretKeys := corrected_length h.secretKeys
    fun hlong => concerns_of_breaks (Breaks.secretKeys hlong)
  unfold ServiceDefinitionDocument.holdsTheContract
  simp only [Bool.and_eq_true, decide_eq_true_eq, holdsTheMounts_iff, holdsTheEnvironment_iff,
    corrected_mountSites, corrected_namedSites]
  exact ⟨⟨⟨⟨⟨hversion, hslug⟩, hrepository⟩, hport⟩, hvolumes, htmpfs, hmounts⟩,
    henvironment, hsecretKeys, hnamed⟩

/-! ## What can always be done -/

/-- Every named entry taken out, and the smallest right values. -/
def taken : Correction where
  schemaVersion := SERVICE_DEFINITION_SCHEMA_VERSION
  slug := text "a"
  imageRepository := text "a.b/c"
  containerPort := MIN_CONTAINER_PORT
  entry := fun _ _ => none

/-- A list that is named as a whole is emptied. -/
theorem taken_nil {refusals : List ServiceDefinitionFieldRefusal} {field : ServiceDefinitionField}
    (h : concerns refusals field none = true) (l : List Bytes) :
    (entriesOf field l).filterMap (taken.content refusals) = [] := by
  rw [List.filterMap_eq_nil_iff]
  intro entry hentry
  have hlisted : entry.listed refusals = true := by
    unfold Entry.listed
    rw [field_of_mem_entriesOf hentry, h, Bool.or_true]
  unfold Correction.content
  rw [if_pos hlisted]
  rfl

theorem taken_entries (holds : Site → Prop) (clash : Site → Site → Prop)
    (refusals : List ServiceDefinitionFieldRefusal) (entries : List (Entry Bytes)) :
    RightEntries holds clash (Entry.listed refusals) (taken.content refusals) entries := by
  have hnone : ∀ entry : Entry Bytes, entry.listed refusals = true →
      taken.content refusals entry = none := by
    intro entry hlisted
    unfold Correction.content
    rw [if_pos hlisted]
    rfl
  constructor
  · intro entry _ hlisted path hpath
    rw [hnone entry hlisted] at hpath
    cases hpath
  · apply List.pairwise_of_forall
    intro entry other hlisted path hpath path' hpath'
    rcases hlisted with hlisted | hlisted
    · rw [hnone entry hlisted] at hpath
      cases hpath
    · rw [hnone other hlisted] at hpath'
      cases hpath'

/-- Every definition can be made right through what is named. -/
theorem taken_right (document : ServiceDefinitionDocument) : taken.Right document := by
  have hslug : canonicalDefinitionSlug taken.slug = true := by decide
  have hrepository : canonicalImageRepository taken.imageRepository = true := by decide
  have hport : MIN_CONTAINER_PORT ≤ taken.containerPort ∧
      taken.containerPort ≤ MAX_CONTAINER_PORT := by decide
  have hempty : ∀ (field : ServiceDefinitionField) (l : List Bytes) (bound : Nat),
      concerns document.refusals field none = true →
      ((entriesOf field l).filterMap (taken.content document.refusals)).length ≤ bound := by
    intro field l bound hconcerns
    rw [taken_nil hconcerns]
    exact Nat.zero_le bound
  exact
    { schemaVersion := fun _ => rfl
      slug := fun _ => hslug
      imageRepository := fun _ => hrepository
      containerPort := fun _ => hport
      volumes := hempty .volumes _ _
      tmpfs := hempty .tmpfs _ _
      environment := hempty .environment _ _
      secretKeys := hempty .secretKeys _ _
      mounts := taken_entries _ _ _ _
      named := taken_entries _ _ _ _ }

/-! ## The size -/

/-- A definition that holds the contract is sent where it is not too large. -/
theorem encode_isOk {document : ServiceDefinitionDocument} :
    document.encode.isOk = true ↔ document.holdsTheContract = true ∧
      document.render.length ≤ MAX_SERVICE_DEFINITION_BYTES := by
  have hwritten : document.render ≠ [] := List.cons_ne_nil 0x7B _
  unfold ServiceDefinitionDocument.encode
  cases hholds : document.holdsTheContract with
  | false => simp [Except.isOk, Except.toBool]
  | true =>
      by_cases hlarge : MAX_SERVICE_DEFINITION_BYTES < document.render.length
      · simp [hwritten, hlarge, Except.isOk, Except.toBool]
      · simp [hwritten, hlarge, Except.isOk, Except.toBool]
        omega

/-- Nothing is refused exactly where the definition is encoded; what is refused is what breaks a
rule; and a definition whose named entries were made right holds the contract, so that it is
encoded where it is not too large. -/
theorem refusals_exact (document : ServiceDefinitionDocument) :
    (document.refusals = [] ↔ document.encode.isOk = true) ∧
    (∀ r, r ∈ document.refusals ↔ Breaks document r ∨
      (document.holdsTheContract = true ∧
        MAX_SERVICE_DEFINITION_BYTES < document.render.length ∧
        r = ⟨.document, none, .documentTooLarge⟩)) ∧
    (∀ correction : Correction, correction.Right document →
      (document.corrected correction).validate = .ok (document.corrected correction) ∧
      ((document.corrected correction).encode.isOk = true ↔
        (document.corrected correction).render.length ≤ MAX_SERVICE_DEFINITION_BYTES)) ∧
    ∃ correction : Correction, correction.Right document := by
  have hsize : document.holdsTheContract = true ∧ document.encode.isOk = false ↔
      document.holdsTheContract = true ∧
        MAX_SERVICE_DEFINITION_BYTES < document.render.length := by
    rw [← Bool.not_eq_true, encode_isOk]
    constructor
    · rintro ⟨hholds, hrefused⟩
      exact ⟨hholds, Nat.lt_of_not_le fun hfits => hrefused ⟨hholds, hfits⟩⟩
    · rintro ⟨hholds, hlarge⟩
      exact ⟨hholds, fun hencoded => Nat.not_le_of_lt hlarge hencoded.2⟩
  refine ⟨?_, ?_, ?_, ⟨taken, taken_right document⟩⟩
  · rw [List.eq_nil_iff_forall_not_mem]
    constructor
    · intro hnone
      have hholds : document.holdsTheContract = true :=
        holdsTheContract_iff.2 fun r hbreaks => hnone r (mem_refusals.2 (Or.inl hbreaks))
      by_contra hrefused
      rw [Bool.not_eq_true] at hrefused
      exact hnone _ (mem_refusals.2 (Or.inr ⟨hholds, hrefused, rfl⟩))
    · intro hencoded r hr
      rcases mem_refusals.1 hr with hbreaks | ⟨-, hrefused, -⟩
      · exact holdsTheContract_iff.1 (encode_isOk.1 hencoded).1 r hbreaks
      · rw [hencoded] at hrefused
        cases hrefused
  · intro r
    rw [mem_refusals, ← and_assoc, hsize, and_assoc]
  · intro correction hright
    have hholds := corrected_holds hright
    constructor
    · unfold ServiceDefinitionDocument.validate
      rw [hholds]
      rfl
    · rw [encode_isOk, hholds]
      exact and_iff_right rfl

/-- A line of five hundred and twelve bytes. -/
def longLine (letter : UInt8) : Bytes := letter :: 0x3D :: List.replicate 510 0x61

/-- A definition without a slug, whose seventeen lines are long. -/
def nameless : ServiceDefinitionDocument where
  schemaVersion := SERVICE_DEFINITION_SCHEMA_VERSION
  slug := []
  imageRepository := text "a.b/c"
  containerPort := 80
  volumes := []
  tmpfs := []
  environment := (List.range 17).map fun i => longLine (0x41 + UInt8.ofNat i)
  secretKeys := []

theorem nameless_refusals : nameless.refusals = [⟨.slug, none, .slugGrammar⟩] := by
  decide +kernel

theorem nameless_corrected : nameless.corrected taken = { nameless with slug := text "a" } := by
  unfold ServiceDefinitionDocument.corrected
  rw [nameless_refusals]
  decide +kernel

/-- A definition whose slug alone is refused may be too large once it has one. -/
theorem refusals_size_unread : ¬ ∀ (document : ServiceDefinitionDocument) (correction : Correction),
    correction.Right document → (document.corrected correction).encode.isOk = true := by
  intro h
  have hencoded := (encode_isOk.1 (h nameless taken (taken_right nameless))).2
  rw [nameless_corrected] at hencoded
  have hlarge : ¬ ({ nameless with slug := text "a" } : ServiceDefinitionDocument).render.length ≤
      MAX_SERVICE_DEFINITION_BYTES := by decide +kernel
  exact hlarge hencoded

end YourCloud.App.Definition
