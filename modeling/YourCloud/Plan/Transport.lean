import YourCloud.Foundation.JsonRow
import YourCloud.Plan.OneDocument
import YourCloud.ServiceDefinition.Characters

/-!
# Plan documents as they travel

A plan travels as one compact JSON object with its fields in the order they are
declared in.  A decoder reads whatever spelling of that object it is handed, within
one bound, and refuses what is not one strict object of its own shape; schemas 2 and
3 choose the shape by the operation alone.

## Main results

* `Document.short`, `V2Document.short`, `V3Document.short` — what a valid plan is
  written with spells itself and is short.
-/

namespace YourCloud.Plan

open YourCloud.Foundation
open YourCloud.Foundation.Json (Column Cell)
open Approval (canonicalDigest)
open ServiceDefinition (isNameByte isReferenceByte validateSlug validateImageRepository)

/-! ## The fields in their order -/

def headColumns : List (Bytes × Column) :=
  [(text "schema_version", .number), (text "infrastructure_id", .text),
    (text "machine_id", .text), (text "operation", .text)]

def Document.columns : List (Bytes × Column) :=
  headColumns ++ [(text "image_reference", .text), (text "image_digest", .text),
    (text "local_port", .number)]

/-- The closed field list of a group. -/
def OperationGroup.columns : OperationGroup → List (Bytes × Column)
  | webService => headColumns ++ [(text "service_profile", .text),
      (text "image_reference", .text), (text "image_digest", .text), (text "local_port", .number)]
  | entrypoint => headColumns ++ [(text "image_reference", .text), (text "image_digest", .text)]
  | route => headColumns ++ [(text "route_host", .text), (text "backend_port", .number)]
  | privateService => headColumns ++ [(text "service_profile", .text),
      (text "image_reference", .text), (text "image_digest", .text), (text "local_port", .number),
      (text "origin_host", .text)]
  | linkRoute => headColumns ++ [(text "route_host", .text), (text "backend_port", .number)]
  | snapshot => headColumns ++ [(text "service_profile", .text), (text "snapshot_slot", .text)]
  | restore => headColumns ++ [(text "service_profile", .text), (text "snapshot_slot", .text)]
  | userService => headColumns ++ [(text "definition_slug", .text),
      (text "definition_digest", .text), (text "image_reference", .text),
      (text "image_digest", .text), (text "local_port", .number), (text "origin_host", .text)]

def LinkOperationGroup.columns : LinkOperationGroup → List (Bytes × Column)
  | link => headColumns ++ [(text "link_role", .text)]
  | listenerPeer => headColumns ++ [(text "peer_public_key", .text), (text "service_port", .number)]
  | initiatorPeer => headColumns ++ [(text "peer_public_key", .text),
      (text "peer_endpoint_host", .text), (text "service_port", .number)]

def Head.cells (head : Head) : List Cell :=
  [.number head.schemaVersion, .text head.infrastructureID, .text head.machineID,
    .text head.operation]

def Document.cells (document : Document) : List Cell :=
  document.toHead.cells ++ [.text document.imageReference, .text document.imageDigest,
    .number document.localPort]

def V2Document.cells : V2Document → List Cell
  | webService document => document.toHead.cells ++ [.text document.serviceProfile,
      .text document.imageReference, .text document.imageDigest, .number document.localPort]
  | entrypoint document => document.toHead.cells ++ [.text document.imageReference,
      .text document.imageDigest]
  | route document => document.toHead.cells ++ [.text document.routeHost,
      .number document.backendPort]
  | privateService document => document.toHead.cells ++ [.text document.serviceProfile,
      .text document.imageReference, .text document.imageDigest, .number document.localPort,
      .text document.originHost]
  | linkRoute document => document.toHead.cells ++ [.text document.routeHost,
      .number document.backendPort]
  | snapshot document => document.toHead.cells ++ [.text document.serviceProfile,
      .text document.snapshotSlot]
  | restore document => document.toHead.cells ++ [.text document.serviceProfile,
      .text document.snapshotSlot]
  | userService document => document.toHead.cells ++ [.text document.definitionSlug,
      .text document.definitionDigest, .text document.imageReference, .text document.imageDigest,
      .number document.localPort, .text document.originHost]

def V3Document.cells : V3Document → List Cell
  | link document => document.toHead.cells ++ [.text document.linkRole]
  | listenerPeer document => document.toHead.cells ++ [.text document.peerPublicKey,
      .number document.servicePort]
  | initiatorPeer document => document.toHead.cells ++ [.text document.peerPublicKey,
      .text document.peerEndpointHost, .number document.servicePort]

/-- The head a row begins with, and the rest of the row. -/
def Head.ofCells : List Cell → Option (Head × List Cell)
  | .number schemaVersion :: .text infrastructureID :: .text machineID :: .text operation :: tail =>
      some ({ schemaVersion, infrastructureID, machineID, operation }, tail)
  | _ => none

def Document.ofCells (cells : List Cell) : Option Document := do
  let (head, tail) ← Head.ofCells cells
  match tail with
  | [.text imageReference, .text imageDigest, .number localPort] =>
      some { toHead := head, imageReference, imageDigest, localPort }
  | _ => none

def V2Document.ofCells (group : OperationGroup) (cells : List Cell) : Option V2Document := do
  let (head, tail) ← Head.ofCells cells
  match group, tail with
  | .webService, [.text serviceProfile, .text imageReference, .text imageDigest,
      .number localPort] =>
      some (.webService { toHead := head, serviceProfile, imageReference, imageDigest, localPort })
  | .entrypoint, [.text imageReference, .text imageDigest] =>
      some (.entrypoint { toHead := head, imageReference, imageDigest })
  | .route, [.text routeHost, .number backendPort] =>
      some (.route { toHead := head, routeHost, backendPort })
  | .privateService, [.text serviceProfile, .text imageReference, .text imageDigest,
      .number localPort, .text originHost] =>
      some (.privateService
        { toHead := head, serviceProfile, imageReference, imageDigest, localPort, originHost })
  | .linkRoute, [.text routeHost, .number backendPort] =>
      some (.linkRoute { toHead := head, routeHost, backendPort })
  | .snapshot, [.text serviceProfile, .text snapshotSlot] =>
      some (.snapshot { toHead := head, serviceProfile, snapshotSlot })
  | .restore, [.text serviceProfile, .text snapshotSlot] =>
      some (.restore { toHead := head, serviceProfile, snapshotSlot })
  | .userService, [.text definitionSlug, .text definitionDigest, .text imageReference,
      .text imageDigest, .number localPort, .text originHost] =>
      some (.userService { toHead := head, definitionSlug, definitionDigest, imageReference,
                           imageDigest, localPort, originHost })
  | _, _ => none

def V3Document.ofCells (group : LinkOperationGroup) (cells : List Cell) : Option V3Document := do
  let (head, tail) ← Head.ofCells cells
  match group, tail with
  | .link, [.text linkRole] => some (.link { toHead := head, linkRole })
  | .listenerPeer, [.text peerPublicKey, .number servicePort] =>
      some (.listenerPeer { toHead := head, peerPublicKey, servicePort })
  | .initiatorPeer, [.text peerPublicKey, .text peerEndpointHost, .number servicePort] =>
      some (.initiatorPeer { toHead := head, peerPublicKey, peerEndpointHost, servicePort })
  | _, _ => none

/-! ## Encoding -/

def withinPlanBound (document : Bytes) : Bool :=
  0 < document.length && document.length ≤ maxPlanBytes

def planSizeProblem : Sentence :=
  say "plan document must contain 1.." ++ count maxPlanBytes ++ say " bytes"

/-- The one spelling of a document, within the bound. -/
def encodeCanonicalPlan (document : Json) : Except Sentence Bytes := do
  let encoded := document.render
  demand (withinPlanBound encoded) planSizeProblem
  return encoded

def Document.encode (document : Document) : Except Sentence Bytes := do
  document.validate
  encodeCanonicalPlan (Json.row Document.columns document.cells)

def V2Document.encode (document : V2Document) : Except Sentence Bytes := do
  document.validate
  encodeCanonicalPlan (Json.row document.group.columns document.cells)

def V3Document.encode (document : V3Document) : Except Sentence Bytes := do
  document.validate
  encodeCanonicalPlan (Json.row document.group.columns document.cells)

/-! ## Decoding -/

/-- The one strict decoding that every schema goes through.  What a reader of JSON says of a
document it refuses is left out. -/
def strictDecodePlan (columns : List (Bytes × Column)) (document : Bytes) :
    Except Sentence (List Cell) :=
  found (Json.decode (Json.readRow columns) document) (say "decode plan")

/-- The decoder of schema 1. -/
def decode (document : Bytes) : Except Sentence Document := do
  demand (withinPlanBound document) planSizeProblem
  let cells ← strictDecodePlan Document.columns document
  let parsed ← found (Document.ofCells cells) (say "decode plan")
  parsed.validate
  return parsed

/-- The operation a document declares, read without the rest of it. -/
def declaredOperation (document : Bytes) : Except Sentence Bytes := do
  let fields ← found (Json.decode Json.openFields document) (say "decode plan")
  let raw ← found (fields.lookup (text "operation")) (say "plan declares no operation")
  found raw.readString (say "plan operation must be a string")

/-- The group an operation belongs to. -/
def groupOf {γ : Type} (groups : List (Bytes × γ)) (operation : Bytes) : Except Sentence γ :=
  found (groups.lookup operation)
    (say "plan operation " ++ cite operation ++ say " is not one this palier describes")

def decodeV2 (document : Bytes) : Except Sentence V2Document := do
  demand (withinPlanBound document) planSizeProblem
  let operation ← declaredOperation document
  let group ← groupOf operationGroups operation
  let cells ← strictDecodePlan group.columns document
  let parsed ← found (V2Document.ofCells group cells) (say "decode plan")
  parsed.validate
  return parsed

def decodeV3 (document : Bytes) : Except Sentence V3Document := do
  demand (withinPlanBound document) planSizeProblem
  let operation ← declaredOperation document
  let group ← groupOf linkOperationGroups operation
  let cells ← strictDecodePlan group.columns document
  let parsed ← found (V3Document.ofCells group cells) (say "decode plan")
  parsed.validate
  return parsed

/-! ## What the fields of a valid plan are written with -/

/-- A short text that spells itself. -/
def shortText (s : Bytes) : Bool := s.all isPlain && s.length ≤ 255

theorem shortText_iff {s : Bytes} : shortText s = true ↔ Plain s ∧ s.length ≤ 255 := by
  rw [shortText, Bool.and_eq_true, List.all_eq_true, decide_eq_true_eq]
  rfl

/-- A cell that is short whatever spelling is chosen for it. -/
def Short : Cell → Prop
  | .text s => shortText s = true
  | .number n => 0 ≤ n ∧ n ≤ 65535

theorem Short.representable {cell : Cell} (h : Short cell) : cell.Representable := by
  cases cell with
  | text s => exact (shortText_iff.1 h).1.valid
  | number n =>
      obtain ⟨hlow, hhigh⟩ := h
      exact ⟨by omega, by omega⟩

theorem Short.size {cell : Cell} (h : Short cell) : cell.json.size ≤ 257 := by
  cases cell with
  | text s =>
      obtain ⟨hplain, hlength⟩ := shortText_iff.1 h
      show (Json.quoted false s).size ≤ 257
      rw [Json.quoted, Json.size_string, hplain.quote]
      omega
  | number n =>
      obtain ⟨hlow, hhigh⟩ := h
      obtain ⟨m, rfl⟩ := Int.eq_ofNat_of_zero_le hlow
      have hsize : (Json.numeral m).size ≤ 5 := Json.size_numeral_le (by decide) (by omega)
      exact Nat.le_trans hsize (by decide)

theorem shortText_word {s : Bytes} (h : Word s) (hlength : s.length ≤ 255) : shortText s = true :=
  shortText_iff.2 ⟨h.plain, hlength⟩

theorem isNameByte_plain {b : UInt8} (h : isNameByte b = true) : isPlain b = true := by
  rcases Bool.or_eq_true_iff.1 h with h | h
  · exact isWord_plain (Approval.isLower_word h)
  · exact isWord_plain (Approval.isDigit_word h)

theorem canonicalOCIDigest_short {digest : Bytes} (h : canonicalOCIDigest digest = true) :
    shortText digest = true := by
  rw [canonicalOCIDigest, Bool.and_eq_true, List.isPrefixOf_iff_prefix] at h
  obtain ⟨⟨hex, rfl⟩, hhex⟩ := h
  have hdrop : (text "sha256:" ++ hex).drop 7 = hex := rfl
  rw [hdrop] at hhex
  have hword := Approval.canonicalDigest_word hhex
  rw [canonicalDigest, exactly, Bool.and_eq_true, beq_iff_eq] at hhex
  apply shortText_iff.2
  constructor
  · intro b hb
    rcases List.mem_append.1 hb with hb | hb
    · have hname : ∀ b ∈ text "sha256:", isPlain b = true := by decide +kernel
      exact hname b hb
    · exact isWord_plain (hword b hb)
  · have hname : (text "sha256:").length = 7 := by decide
    rw [List.length_append, hname, hhex.1]
    decide

theorem validateHostBound_short {field : String} {host : Bytes} {u : Unit}
    (h : validateHostBound field host = .ok u) : shortText host = true := by
  obtain ⟨_, hhost, -⟩ := bind_ok_iff.1 h
  have hhost := demand_eq_ok.1 hhost
  simp only [canonicalRouteHost, Bool.and_eq_true, decide_eq_true_eq, List.all_eq_true] at hhost
  obtain ⟨⟨⟨-, hall⟩, -⟩, hlength⟩ := hhost
  apply shortText_iff.2
  constructor
  · intro b hb
    have hbyte := hall b hb
    simp only [Bool.or_eq_true, decide_eq_true_eq] at hbyte
    rcases hbyte with (hname | rfl) | rfl
    · exact isNameByte_plain hname
    · decide
    · decide
  · omega

/-- Letters, digits and hyphens. -/
theorem shortText_label {s : Bytes} (h : s.all (fun b => isNameByte b || b = 0x2D) = true)
    (hlength : s.length ≤ 255) : shortText s = true := by
  apply shortText_iff.2
  refine ⟨fun b hb => ?_, hlength⟩
  have hbyte := List.all_eq_true.1 h b hb
  rw [Bool.or_eq_true, decide_eq_true_eq] at hbyte
  rcases hbyte with hname | rfl
  · exact isNameByte_plain hname
  · decide

theorem validateSlug_short {slug : Bytes} {u : Unit} (h : validateSlug slug = .ok u) :
    shortText slug = true := by
  have hlength := ServiceDefinition.validateSlug_length h
  obtain ⟨_, hslug, -⟩ := bind_ok_iff.1 h
  have hslug := demand_eq_ok.1 hslug
  simp only [ServiceDefinition.canonicalSlug, Bool.and_eq_true] at hslug
  exact shortText_label hslug.1.2 (by omega)

theorem validateSnapshotSlot_short {slot : Bytes} {u : Unit}
    (h : validateSnapshotSlot slot = .ok u) : shortText slot = true := by
  have hslot := demand_eq_ok.1 h
  simp only [canonicalSnapshotSlot, Bool.and_eq_true, decide_eq_true_eq] at hslot
  exact shortText_label hslot.1.2 (by omega)

/-- A name that a table of short names holds. -/
theorem lookup_short {γ : Type} {table : List (Bytes × γ)} {name : Bytes} {value : γ}
    (htable : ∀ entry ∈ table, shortText entry.1 = true) (h : table.lookup name = some value) :
    shortText name = true :=
  htable _ (Json.mem_of_lookup h)

theorem validateArchivedProfile_short {profile : Bytes} {u : Unit}
    (h : validateArchivedProfile profile = .ok u) : shortText profile = true := by
  unfold validateArchivedProfile at h
  split at h
  · rename_i hlookup
    exact lookup_short (by decide) hlookup
  · exact validateSlug_short (mapError_ok h)

theorem isReferenceByte_plain {b : UInt8} (h : isReferenceByte b = true) : isPlain b = true := by
  simp only [isReferenceByte, Bool.or_eq_true, decide_eq_true_eq] at h
  rcases h with ((((hname | rfl) | rfl) | rfl) | rfl) | rfl
  · exact isNameByte_plain hname
  · decide
  · decide
  · decide
  · decide
  · decide

theorem validateImageRepository_short {repository : Bytes} {u : Unit}
    (h : validateImageRepository repository = .ok u) : shortText repository = true := by
  have hlength := ServiceDefinition.validateImageRepository_length h
  have hbytes := ServiceDefinition.repository_bytes h
  exact shortText_iff.2 ⟨fun b hb => isReferenceByte_plain (hbytes b hb), hlength⟩

/-- What is written in a row with the head of a valid plan. -/
theorem Head.short {version : Int} {head : Head} {u : Unit}
    (h : validateTarget version head = .ok u) (hversion : 0 ≤ version ∧ version ≤ 65535)
    (hoperation : shortText head.operation = true) : ∀ cell ∈ head.cells, Short cell := by
  obtain ⟨_, hschema, h⟩ := bind_ok_iff.1 h
  obtain ⟨_, hinfrastructure, hmachine⟩ := bind_ok_iff.1 h
  have hschema : head.schemaVersion = version := of_decide_eq_true (demand_eq_ok.1 hschema)
  have hinfrastructure := demand_eq_ok.1 hinfrastructure
  have hmachine := demand_eq_ok.1 hmachine
  have hlength := Approval.canonicalUUIDv4_length hinfrastructure
  have hlength' := Approval.canonicalMachine_length hmachine
  intro cell hcell
  simp only [Head.cells, List.mem_cons, List.not_mem_nil, or_false] at hcell
  rcases hcell with rfl | rfl | rfl | rfl
  · show 0 ≤ head.schemaVersion ∧ head.schemaVersion ≤ 65535
    rw [hschema]
    exact hversion
  · exact shortText_word (Approval.canonicalUUIDv4_word hinfrastructure) (by omega)
  · exact shortText_word (Approval.canonicalMachine_word hmachine) (by omega)
  · exact hoperation

theorem stdLetter_plain (n : Nat) : isPlain (stdLetter n) = true := by
  unfold stdLetter
  by_cases hplus : n = 62
  · rw [if_pos hplus]
    decide
  · by_cases hslash : n = 63
    · rw [if_neg hplus, if_pos hslash]
      decide
    · rw [if_neg hplus, if_neg hslash]
      exact isWord_plain (Approval.base64Letter_word n)

theorem encodeStd_plain (bytes : Bytes) : Plain (encodeStd bytes) := by
  have hpad : isPlain 0x3D = true := by decide
  fun_induction encodeStd bytes with
  | case1 => exact fun b hb => absurd hb List.not_mem_nil
  | case2 a => simp [Plain, stdLetter_plain, hpad]
  | case3 a b => simp [Plain, stdLetter_plain, hpad]
  | case4 a b c rest ih => simpa [Plain, stdLetter_plain] using ih

theorem decodePeerPublicKey_short {value key : Bytes} (h : decodePeerPublicKey value = .ok key) :
    shortText value = true := by
  obtain ⟨_, hlength, hkey⟩ := bind_ok_iff.1 h
  have hlength : value.length = 44 := of_decide_eq_true (demand_eq_ok.1 hlength)
  have hcanonical := (Option.filter_eq_some_iff.1 (found_eq_ok.1 hkey)).2
  rw [Bool.and_eq_true, decide_eq_true_eq, decide_eq_true_eq] at hcanonical
  apply shortText_iff.2
  constructor
  · rw [← hcanonical.2]
    exact encodeStd_plain key
  · omega

/-! ## Valid plans are short -/

theorem Head.short_v2 {head : Head} {group : OperationGroup} {u : Unit}
    (h : validateV2Head head group = .ok u) : ∀ cell ∈ head.cells, Short cell := by
  obtain ⟨_, htarget, hgroup⟩ := bind_ok_iff.1 h
  exact Head.short htarget (by decide) (lookup_short (by decide) (validateOperation_ok hgroup))

theorem Head.short_v3 {head : Head} {group : LinkOperationGroup} {u : Unit}
    (h : validateV3Head head group = .ok u) : ∀ cell ∈ head.cells, Short cell := by
  obtain ⟨_, htarget, hgroup⟩ := bind_ok_iff.1 h
  exact Head.short htarget (by decide) (lookup_short (by decide) (validateOperation_ok hgroup))

theorem validatePort_short {field : String} {port : Int} {u : Unit}
    (h : validatePort field port = .ok u) : Short (.number port) := by
  obtain ⟨hlow, hhigh⟩ := validatePort_ok h
  exact ⟨by omega, hhigh⟩

theorem validatePinnedImage_short {reference digest : Bytes} {pinned : PinnedImage} {u : Unit}
    (h : validatePinnedImage reference digest pinned = .ok u)
    (hpinned : shortText pinned.reference = true) :
    Short (.text reference) ∧ Short (.text digest) := by
  obtain ⟨hreference, hdigest⟩ := validatePinnedImage_ok h
  refine ⟨?_, canonicalOCIDigest_short hdigest⟩
  rw [hreference]
  exact hpinned

theorem Document.short {document : Document} (h : document.validate = .ok ()) :
    ∀ cell ∈ document.cells, Short cell := by
  obtain ⟨_, htarget, h⟩ := bind_ok_iff.1 h
  obtain ⟨_, hoperation, h⟩ := bind_ok_iff.1 h
  obtain ⟨_, hreference, h⟩ := bind_ok_iff.1 h
  obtain ⟨_, hdigest, h⟩ := bind_ok_iff.1 h
  obtain ⟨_, -, hport⟩ := bind_ok_iff.1 h
  have hreference : document.imageReference = probeImageReference :=
    of_decide_eq_true (demand_eq_ok.1 hreference)
  have hshort : shortText probeImageReference = true := by decide
  have hhead := Head.short htarget (by decide)
    (lookup_short (by decide) (found_eq_ok.1 hoperation))
  rw [Document.cells, List.forall_mem_append]
  refine ⟨hhead, ?_⟩
  simp only [List.forall_mem_cons]
  refine ⟨?_, canonicalOCIDigest_short (demand_eq_ok.1 hdigest), validatePort_short hport,
    List.forall_mem_nil _⟩
  rw [hreference]
  exact hshort

theorem WebServiceDocument.short {document : WebServiceDocument} (h : document.validate = .ok ()) :
    ∀ cell ∈ (V2Document.webService document).cells, Short cell := by
  obtain ⟨_, hhead, h⟩ := bind_ok_iff.1 h
  obtain ⟨image, hprofile, h⟩ := bind_ok_iff.1 h
  obtain ⟨_, hpinned, hport⟩ := bind_ok_iff.1 h
  have hlookup := found_eq_ok.1 hprofile
  have himages : ∀ entry ∈ profileImage, shortText entry.2.reference = true := by decide
  obtain ⟨hreference, hdigest⟩ :=
    validatePinnedImage_short hpinned (himages _ (Json.mem_of_lookup hlookup))
  rw [V2Document.cells, List.forall_mem_append]
  refine ⟨Head.short_v2 hhead, ?_⟩
  simp only [List.forall_mem_cons]
  exact ⟨lookup_short (by decide) hlookup, hreference, hdigest, validatePort_short hport,
    List.forall_mem_nil _⟩

theorem EntrypointDocument.short {document : EntrypointDocument} (h : document.validate = .ok ()) :
    ∀ cell ∈ (V2Document.entrypoint document).cells, Short cell := by
  obtain ⟨_, hhead, hpinned⟩ := bind_ok_iff.1 h
  have hshort : shortText entrypointImage.reference = true := by decide
  obtain ⟨hreference, hdigest⟩ := validatePinnedImage_short hpinned hshort
  rw [V2Document.cells, List.forall_mem_append]
  refine ⟨Head.short_v2 hhead, ?_⟩
  simp only [List.forall_mem_cons]
  exact ⟨hreference, hdigest, List.forall_mem_nil _⟩

theorem RouteDocument.short {document : RouteDocument} (h : document.validate = .ok ()) :
    ∀ cell ∈ (V2Document.route document).cells, Short cell := by
  obtain ⟨_, hhead, h⟩ := bind_ok_iff.1 h
  obtain ⟨_, hhost, hport⟩ := bind_ok_iff.1 h
  rw [V2Document.cells, List.forall_mem_append]
  refine ⟨Head.short_v2 hhead, ?_⟩
  simp only [List.forall_mem_cons]
  exact ⟨validateHostBound_short hhost, validatePort_short hport, List.forall_mem_nil _⟩

theorem PrivateServiceDocument.short {document : PrivateServiceDocument}
    (h : document.validate = .ok ()) :
    ∀ cell ∈ (V2Document.privateService document).cells, Short cell := by
  obtain ⟨_, hhead, h⟩ := bind_ok_iff.1 h
  obtain ⟨image, hprofile, h⟩ := bind_ok_iff.1 h
  obtain ⟨_, hpinned, h⟩ := bind_ok_iff.1 h
  obtain ⟨_, hport, hhost⟩ := bind_ok_iff.1 h
  have hlookup := found_eq_ok.1 hprofile
  have himages : ∀ entry ∈ privateProfileImage, shortText entry.2.reference = true := by
    decide
  obtain ⟨hreference, hdigest⟩ :=
    validatePinnedImage_short hpinned (himages _ (Json.mem_of_lookup hlookup))
  rw [V2Document.cells, List.forall_mem_append]
  refine ⟨Head.short_v2 hhead, ?_⟩
  simp only [List.forall_mem_cons]
  exact ⟨lookup_short (by decide) hlookup, hreference, hdigest, validatePort_short hport,
    validateHostBound_short hhost, List.forall_mem_nil _⟩

theorem LinkRouteDocument.short {document : LinkRouteDocument} (h : document.validate = .ok ()) :
    ∀ cell ∈ (V2Document.linkRoute document).cells, Short cell := by
  obtain ⟨_, hhead, h⟩ := bind_ok_iff.1 h
  obtain ⟨_, hhost, hport⟩ := bind_ok_iff.1 h
  rw [V2Document.cells, List.forall_mem_append]
  refine ⟨Head.short_v2 hhead, ?_⟩
  simp only [List.forall_mem_cons]
  exact ⟨validateHostBound_short hhost, validatePort_short hport, List.forall_mem_nil _⟩

theorem SnapshotDocument.short {document : SnapshotDocument} (h : document.validate = .ok ()) :
    ∀ cell ∈ (V2Document.snapshot document).cells, Short cell := by
  obtain ⟨_, hhead, h⟩ := bind_ok_iff.1 h
  obtain ⟨_, hprofile, h⟩ := bind_ok_iff.1 h
  obtain ⟨_, hslot, -⟩ := bind_ok_iff.1 h
  rw [V2Document.cells, List.forall_mem_append]
  refine ⟨Head.short_v2 hhead, ?_⟩
  simp only [List.forall_mem_cons]
  exact ⟨validateArchivedProfile_short hprofile, validateSnapshotSlot_short hslot,
    List.forall_mem_nil _⟩

theorem RestoreDocument.short {document : RestoreDocument} (h : document.validate = .ok ()) :
    ∀ cell ∈ (V2Document.restore document).cells, Short cell := by
  obtain ⟨_, hhead, h⟩ := bind_ok_iff.1 h
  obtain ⟨_, hprofile, hslot⟩ := bind_ok_iff.1 h
  rw [V2Document.cells, List.forall_mem_append]
  refine ⟨Head.short_v2 hhead, ?_⟩
  simp only [List.forall_mem_cons]
  exact ⟨validateArchivedProfile_short hprofile, validateSnapshotSlot_short hslot,
    List.forall_mem_nil _⟩

theorem UserServiceDocument.short {document : UserServiceDocument}
    (h : document.validate = .ok ()) :
    ∀ cell ∈ (V2Document.userService document).cells, Short cell := by
  obtain ⟨_, hhead, h⟩ := bind_ok_iff.1 h
  obtain ⟨_, hslug, h⟩ := bind_ok_iff.1 h
  obtain ⟨_, hdefinition, h⟩ := bind_ok_iff.1 h
  obtain ⟨_, hreference, h⟩ := bind_ok_iff.1 h
  obtain ⟨_, hdigest, h⟩ := bind_ok_iff.1 h
  obtain ⟨_, hport, h⟩ := bind_ok_iff.1 h
  have hdefinition := demand_eq_ok.1 hdefinition
  have hdefinitionLength : document.definitionDigest.length = 64 := by
    rw [canonicalDigest, exactly, Bool.and_eq_true, beq_iff_eq] at hdefinition
    exact hdefinition.1
  have horigin : shortText document.originHost = true := by
    by_cases hnone : document.originHost = []
    · rw [hnone]
      rfl
    · rw [if_neg hnone] at h
      exact validateHostBound_short h
  rw [V2Document.cells, List.forall_mem_append]
  refine ⟨Head.short_v2 hhead, ?_⟩
  simp only [List.forall_mem_cons]
  exact ⟨validateSlug_short (mapError_ok hslug),
    shortText_word (Approval.canonicalDigest_word hdefinition) (by omega),
    validateImageRepository_short (mapError_ok hreference),
    canonicalOCIDigest_short (demand_eq_ok.1 hdigest), validatePort_short hport, horigin,
    List.forall_mem_nil _⟩

theorem V2Document.short {document : V2Document} (h : document.validate = .ok ()) :
    ∀ cell ∈ document.cells, Short cell := by
  cases document with
  | webService document => exact WebServiceDocument.short h
  | entrypoint document => exact EntrypointDocument.short h
  | route document => exact RouteDocument.short h
  | privateService document => exact PrivateServiceDocument.short h
  | linkRoute document => exact LinkRouteDocument.short h
  | snapshot document => exact SnapshotDocument.short h
  | restore document => exact RestoreDocument.short h
  | userService document => exact UserServiceDocument.short h

theorem LinkDocument.short {document : LinkDocument} (h : document.validate = .ok ()) :
    ∀ cell ∈ (V3Document.link document).cells, Short cell := by
  obtain ⟨_, hhead, hrole⟩ := bind_ok_iff.1 h
  have hroles : ∀ role ∈ linkRoles, shortText role = true := by decide
  rw [V3Document.cells, List.forall_mem_append]
  refine ⟨Head.short_v3 hhead, ?_⟩
  simp only [List.forall_mem_cons]
  exact ⟨hroles _ (of_decide_eq_true (demand_eq_ok.1 hrole)), List.forall_mem_nil _⟩

theorem ListenerPeerDocument.short {document : ListenerPeerDocument}
    (h : document.validate = .ok ()) :
    ∀ cell ∈ (V3Document.listenerPeer document).cells, Short cell := by
  obtain ⟨_, hhead, h⟩ := bind_ok_iff.1 h
  obtain ⟨key, hkey, hport⟩ := bind_ok_iff.1 h
  rw [V3Document.cells, List.forall_mem_append]
  refine ⟨Head.short_v3 hhead, ?_⟩
  simp only [List.forall_mem_cons]
  exact ⟨decodePeerPublicKey_short hkey, validatePort_short hport, List.forall_mem_nil _⟩

theorem InitiatorPeerDocument.short {document : InitiatorPeerDocument}
    (h : document.validate = .ok ()) :
    ∀ cell ∈ (V3Document.initiatorPeer document).cells, Short cell := by
  obtain ⟨_, hhead, h⟩ := bind_ok_iff.1 h
  obtain ⟨key, hkey, h⟩ := bind_ok_iff.1 h
  obtain ⟨_, hhost, hport⟩ := bind_ok_iff.1 h
  rw [V3Document.cells, List.forall_mem_append]
  refine ⟨Head.short_v3 hhead, ?_⟩
  simp only [List.forall_mem_cons]
  exact ⟨decodePeerPublicKey_short hkey, validateHostBound_short hhost, validatePort_short hport,
    List.forall_mem_nil _⟩

theorem V3Document.short {document : V3Document} (h : document.validate = .ok ()) :
    ∀ cell ∈ document.cells, Short cell := by
  cases document with
  | link document => exact LinkDocument.short h
  | listenerPeer document => exact ListenerPeerDocument.short h
  | initiatorPeer document => exact InitiatorPeerDocument.short h

end YourCloud.Plan
