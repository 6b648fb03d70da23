import YourCloud.ServiceDefinition.Characters

/-!
# The one spelling of a definition

A transport may spell a definition in many ways; it is frozen, and handed on, in one.
Every string of a valid definition is printable, so that spelling has seven bits and can
itself be carried as a string.

## Main results

* `strings_of_validate` — the strings of a valid definition are printable.
* `decode_encode` — what was spelled is read back.
* `encode_valid` — and is a string itself.
-/

namespace YourCloud.ServiceDefinition

open YourCloud.Foundation

/-! ## Writing -/

/-- A list is written even when it is empty. -/
def stringsJson (entries : List Bytes) : Json := .array (entries.map (Json.quoted false))

def Document.fields (document : Document) : List (Bytes × Option Json) :=
  [(text "schema_version", some (Json.numeralInt document.schemaVersion)),
    (text "slug", some (Json.quoted false document.slug)),
    (text "image_repository", some (Json.quoted false document.imageRepository)),
    (text "container_port", some (Json.numeralInt document.containerPort)),
    (text "volumes", some (stringsJson document.volumes)),
    (text "tmpfs", some (stringsJson document.tmpfs)),
    (text "environment", some (stringsJson document.environment)),
    (text "secret_keys", some (stringsJson document.secretKeys))]

def Document.json (document : Document) : Json := .object (Json.present document.fields)

/-- The canonical bytes of a definition. -/
def Document.encode (document : Document) : Except Sentence Bytes := do
  document.validate
  let encoded := document.json.render
  demand (encoded.length ≠ 0 && encoded.length ≤ maxDefinitionBytes) sizeProblem
  return encoded

theorem encode_iff {document : Document} {encoded : Bytes} :
    document.encode = .ok encoded ↔ document.validate = .ok () ∧
      encoded = document.json.render ∧ encoded.length ≠ 0 ∧
      encoded.length ≤ maxDefinitionBytes := by
  constructor
  · intro h
    obtain ⟨_, hvalid, h⟩ := bind_ok_iff.1 h
    obtain ⟨_, hsize, h⟩ := bind_ok_iff.1 h
    have hsize := demand_eq_ok.1 hsize
    rw [Bool.and_eq_true, decide_eq_true_eq, decide_eq_true_eq] at hsize
    have hsame : document.json.render = encoded := Except.ok.inj h
    rw [hsame] at hsize
    exact ⟨hvalid, hsame.symm, hsize⟩
  · rintro ⟨hvalid, hsame, hsize⟩
    refine bind_ok_iff.2 ⟨(), hvalid, ?_⟩
    refine bind_ok_iff.2 ⟨(), demand_eq_ok.2 ?_, by rw [hsame]; rfl⟩
    rw [Bool.and_eq_true, decide_eq_true_eq, decide_eq_true_eq, ← hsame]
    exact hsize

/-! ## Strings -/

theorem Reference.printable {s : Bytes} (h : Reference s) : Printable s :=
  fun b hb => isReferenceByte_printable (h b hb)

theorem Printable.sevenBit {s : Bytes} (h : Printable s) : ∀ b ∈ s, b < 0x80 := by
  intro b hb
  have hbyte := h b hb
  simp only [isPrintable, Bool.and_eq_true, decide_eq_true_eq] at hbyte
  exact UInt8.lt_of_le_of_lt hbyte.2 (by decide)

theorem Printable.valid {s : Bytes} (h : Printable s) : Valid s := valid_ascii h.sevenBit

/-- The strings of a definition. -/
structure Document.Strings (document : Document) : Prop where
  slug : Printable document.slug
  imageRepository : Printable document.imageRepository
  volumes : ∀ path ∈ document.volumes, Printable path
  tmpfs : ∀ path ∈ document.tmpfs, Printable path
  environment : ∀ line ∈ document.environment, Printable line
  secretKeys : ∀ key ∈ document.secretKeys, Printable key

theorem repository_of_validate {document : Document} (h : document.validate = .ok ()) :
    validateImageRepository document.imageRepository = .ok () := by
  obtain ⟨_, -, h⟩ := bind_ok_iff.1 h
  obtain ⟨_, -, h⟩ := bind_ok_iff.1 h
  obtain ⟨⟨⟩, hrepository, -⟩ := bind_ok_iff.1 h
  exact hrepository

/-- A secret key is spelled as the key of a line is. -/
theorem secretKeys_bytes {environment secretKeys : List Bytes} {u : Unit}
    (h : validateEnvironment environment secretKeys = .ok u) : ∀ key ∈ secretKeys, Printable key := by
  obtain ⟨_, -, h⟩ := bind_ok_iff.1 h
  obtain ⟨_, -, h⟩ := bind_ok_iff.1 h
  obtain ⟨_, -, h⟩ := bind_ok_iff.1 h
  obtain ⟨_, hkeys, -⟩ := bind_ok_iff.1 h
  intro key hkey
  obtain ⟨_, _, hstep⟩ := foldlM_passed hkeys key hkey
  obtain ⟨_, hcanonical, -⟩ := bind_ok_iff.1 hstep
  exact environmentKey_bytes (demand_eq_ok.1 hcanonical)

/-- The strings of a valid definition are printable. -/
theorem strings_of_validate {document : Document} (h : document.validate = .ok ()) :
    document.Strings := by
  have hpaths := (validateMounts_iff.1 (mounts_of_validate h)).2.2.1
  rw [List.forall_mem_append] at hpaths
  have henvironment := environment_of_validate h
  constructor
  · exact (slug_bytes (slug_of_validate h)).printable
  · exact (repository_bytes (repository_of_validate h)).printable
  · exact fun path hpath => (containerPath_bytes (hpaths.1 path hpath)).printable
  · exact fun path hpath => (containerPath_bytes (hpaths.2 path hpath)).printable
  · exact fun line hline => (environment_bytes henvironment line hline).2
  · exact secretKeys_bytes henvironment

/-! ## What is written is read back -/

private theorem document_names : Json.Names documentFields := Json.Names.of_check (by decide)

theorem readStrings_stringsJson {entries : List Bytes} (h : ∀ entry ∈ entries, Printable entry) :
    Json.readStrings (stringsJson entries) = some entries := by
  have hsame : entries.map sanitize = entries := by
    conv_rhs => rw [← List.map_id entries]
    exact List.map_congr_left fun entry hentry => (h entry hentry).valid
  rw [stringsJson, Json.readStrings_quoted, hsame]

theorem Document.sound_fields (document : Document) : ∀ f ∈ document.fields, Json.Sound f.2 := by
  simp only [Document.fields, stringsJson, List.forall_mem_cons, List.not_mem_nil, false_implies,
    implies_true, Json.sound_numeralInt, Json.sound_quoted, Json.sound_texts, and_self]

theorem Document.read_json {document : Document} (h : document.validate = .ok ()) :
    Document.read document.json = some document := by
  have hbounded := Document.bounded_of_validate h
  have hstrings := strings_of_validate h
  have hport := hbounded.containerPort
  refine Json.bind_read (Json.members_present documentFields rfl document_names) ?_
  refine Json.bind_read (Json.read_written document_names rfl (Json.readInt_numeralInt
    (by rw [hbounded.schemaVersion]; decide) (by rw [hbounded.schemaVersion]; decide)) rfl) ?_
  refine Json.bind_read (Json.read_written document_names rfl
    (Json.readString_quoted_valid false hstrings.slug.valid) rfl) ?_
  refine Json.bind_read (Json.read_written document_names rfl
    (Json.readString_quoted_valid false hstrings.imageRepository.valid) rfl) ?_
  refine Json.bind_read (Json.read_written document_names rfl
    (Json.readInt_numeralInt (by omega) (by omega)) rfl) ?_
  refine Json.bind_read (Json.read_written document_names rfl
    (readStrings_stringsJson hstrings.volumes) rfl) ?_
  refine Json.bind_read (Json.read_written document_names rfl
    (readStrings_stringsJson hstrings.tmpfs) rfl) ?_
  refine Json.bind_read (Json.read_written document_names rfl
    (readStrings_stringsJson hstrings.environment) rfl) ?_
  exact Json.bind_read (Json.read_written document_names rfl
    (readStrings_stringsJson hstrings.secretKeys) rfl) rfl

/-- A definition is read back from its canonical bytes. -/
theorem decode_encode {document : Document} {encoded : Bytes}
    (h : document.encode = .ok encoded) : decode encoded = .ok document := by
  obtain ⟨hvalid, hsame, hsize⟩ := encode_iff.1 h
  have hdecode := Json.decode_present Document.read documentFields rfl document_names
    document.sound_fields (w := []) rfl
  rw [List.append_nil] at hdecode
  have hread : Json.decode Document.read encoded = some document := by
    rw [hsame]
    exact hdecode.trans (Document.read_json hvalid)
  refine bind_ok_iff.2 ⟨(), demand_eq_ok.2 ?_, ?_⟩
  · rw [Bool.and_eq_true, decide_eq_true_eq, decide_eq_true_eq]
    exact hsize
  · refine bind_ok_iff.2 ⟨document, found_eq_ok.2 hread, ?_⟩
    exact bind_ok_iff.2 ⟨(), hvalid, rfl⟩

/-! ## Seven bits -/

theorem numeralInt_sevenBit (n : Int) : (Json.numeralInt n).SevenBit := by
  show ∀ b ∈ decimalInt n, b < 0x80
  cases n with
  | ofNat n => exact Json.decimal_sevenBit n
  | negSucc n => exact List.forall_mem_cons.2 ⟨by decide, Json.decimal_sevenBit (n + 1)⟩

theorem quoted_sevenBit {s : Bytes} (h : Printable s) : (Json.quoted false s).SevenBit :=
  Json.quote_sevenBit false h.sevenBit

theorem stringsJson_sevenBit {entries : List Bytes} (h : ∀ entry ∈ entries, Printable entry) :
    (stringsJson entries).SevenBit := by
  apply Json.sevenBit_array
  rw [List.forall_mem_map]
  exact fun entry hentry => quoted_sevenBit (h entry hentry)

theorem Document.json_sevenBit {document : Document} (h : document.Strings) :
    document.json.SevenBit := by
  have hnames : ∀ name ∈ documentFields, ∀ b ∈ name, b < 0x80 := fun name hname b hb =>
    isPlain_ascii (document_names.plain name hname b hb)
  apply Json.sevenBit_object
  intro member hmember
  have hfield := Json.mem_present hmember
  refine ⟨hnames _ (List.mem_map_of_mem (f := Prod.fst) hfield), ?_⟩
  have hvalues : ∀ f ∈ document.fields, ∀ value ∈ f.2, Json.SevenBit value := by
    simp only [Document.fields, List.forall_mem_cons, Option.mem_def, Option.some.injEq,
      forall_eq']
    exact ⟨numeralInt_sevenBit _, quoted_sevenBit h.slug, quoted_sevenBit h.imageRepository,
      numeralInt_sevenBit _, stringsJson_sevenBit h.volumes, stringsJson_sevenBit h.tmpfs,
      stringsJson_sevenBit h.environment, stringsJson_sevenBit h.secretKeys,
      List.forall_mem_nil _⟩
  exact hvalues _ hfield _ rfl

/-- The canonical bytes can be carried as a string. -/
theorem encode_valid {document : Document} {encoded : Bytes}
    (h : document.encode = .ok encoded) : Valid encoded := by
  obtain ⟨hvalid, hsame, -⟩ := encode_iff.1 h
  rw [hsame]
  exact valid_ascii (Json.render_sevenBit _ (Document.json_sevenBit (strings_of_validate hvalid)))

/-- The canonical bytes are verified under the digest of what they spell. -/
theorem verify_encode {document : Document} {encoded digest : Bytes}
    (hencode : document.encode = .ok encoded) (hdigest : document.sha256 = .ok digest) :
    verify encoded digest = .ok document :=
  verify_iff.2 ⟨decode_encode hencode, hdigest⟩

end YourCloud.ServiceDefinition
