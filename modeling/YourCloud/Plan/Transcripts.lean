import YourCloud.Plan.Documents

/-!
# What a plan digest and an approval are taken over

Each transcript is a domain, a version and the fields of a document, one behind
the other.  Every plan begins with its head, and the operation of the head
decides which fields follow it; so the transcript of a valid document can be read
back.

## Main results

* `image_decoded`, `definition_decoded`, `peerKey_decoded` — a digest or a key
  stands in a transcript as bytes it is the only spelling of.
* `Head.write_delimiting` — the fields every plan carries.
-/

namespace YourCloud.Plan

open YourCloud.Foundation
open Approval (canonicalDigest canonicalUUIDv4 canonicalUUIDv4_length canonicalMachine_length)
open Approval.Envelope (appendField appendUint32)
open ServiceDefinition (byteOf uint32Of uint32Of_inj uint32Of_lt appendField_eq)

/-! ## The transcripts -/

/-- The domain, the version and the fields every plan carries. -/
def appendHead (domain : Bytes) (head : Head) : Bytes :=
  let transcript := domain ++ [byteOf head.schemaVersion]
  let transcript := appendField transcript head.infrastructureID
  let transcript := appendField transcript head.machineID
  appendField transcript head.operation

def Document.transcript (document : Document) : Except Sentence Bytes := do
  document.validate
  let image ← decodeOCIDigest document.imageDigest
  let transcript := appendHead transcriptDomain document.toHead
  let transcript := appendField transcript document.imageReference
  let transcript := appendField transcript image
  return appendUint32 transcript (uint32Of document.localPort)

def WebServiceDocument.transcript (document : WebServiceDocument) : Except Sentence Bytes := do
  document.validate
  let image ← decodeOCIDigest document.imageDigest
  let transcript := appendHead transcriptDomainV2 document.toHead
  let transcript := appendField transcript document.serviceProfile
  let transcript := appendField transcript document.imageReference
  let transcript := appendField transcript image
  return appendUint32 transcript (uint32Of document.localPort)

def EntrypointDocument.transcript (document : EntrypointDocument) : Except Sentence Bytes := do
  document.validate
  let image ← decodeOCIDigest document.imageDigest
  let transcript := appendHead transcriptDomainV2 document.toHead
  let transcript := appendField transcript document.imageReference
  return appendField transcript image

def RouteDocument.transcript (document : RouteDocument) : Except Sentence Bytes := do
  document.validate
  let transcript := appendHead transcriptDomainV2 document.toHead
  let transcript := appendField transcript document.routeHost
  return appendUint32 transcript (uint32Of document.backendPort)

def PrivateServiceDocument.transcript (document : PrivateServiceDocument) :
    Except Sentence Bytes := do
  document.validate
  let image ← decodeOCIDigest document.imageDigest
  let transcript := appendHead transcriptDomainV2 document.toHead
  let transcript := appendField transcript document.serviceProfile
  let transcript := appendField transcript document.imageReference
  let transcript := appendField transcript image
  let transcript := appendUint32 transcript (uint32Of document.localPort)
  return appendField transcript document.originHost

def LinkRouteDocument.transcript (document : LinkRouteDocument) : Except Sentence Bytes := do
  document.validate
  let transcript := appendHead transcriptDomainV2 document.toHead
  let transcript := appendField transcript document.routeHost
  return appendUint32 transcript (uint32Of document.backendPort)

def SnapshotDocument.transcript (document : SnapshotDocument) : Except Sentence Bytes := do
  document.validate
  let transcript := appendHead transcriptDomainV2 document.toHead
  let transcript := appendField transcript document.serviceProfile
  return appendField transcript document.snapshotSlot

def RestoreDocument.transcript (document : RestoreDocument) : Except Sentence Bytes := do
  document.validate
  let transcript := appendHead transcriptDomainV2 document.toHead
  let transcript := appendField transcript document.serviceProfile
  return appendField transcript document.snapshotSlot

/-- The 32 bytes a definition digest names. -/
def decodeDefinitionDigest (value : Bytes) : Except Sentence Bytes :=
  found ((hexDecode value).filter fun decoded => decoded.length = digestBytes)
    (say "plan definition_digest is malformed")

def UserServiceDocument.transcript (document : UserServiceDocument) : Except Sentence Bytes := do
  document.validate
  let definition ← decodeDefinitionDigest document.definitionDigest
  let image ← decodeOCIDigest document.imageDigest
  let transcript := appendHead transcriptDomainV2 document.toHead
  let transcript := appendField transcript document.definitionSlug
  let transcript := appendField transcript definition
  let transcript := appendField transcript document.imageReference
  let transcript := appendField transcript image
  let transcript := appendUint32 transcript (uint32Of document.localPort)
  return appendField transcript document.originHost

def LinkDocument.transcript (document : LinkDocument) : Except Sentence Bytes := do
  document.validate
  let transcript := appendHead transcriptDomainV3 document.toHead
  return appendField transcript document.linkRole

def ListenerPeerDocument.transcript (document : ListenerPeerDocument) :
    Except Sentence Bytes := do
  document.validate
  let key ← decodePeerPublicKey document.peerPublicKey
  let transcript := appendHead transcriptDomainV3 document.toHead
  let transcript := appendField transcript key
  return appendUint32 transcript (uint32Of document.servicePort)

def InitiatorPeerDocument.transcript (document : InitiatorPeerDocument) :
    Except Sentence Bytes := do
  document.validate
  let key ← decodePeerPublicKey document.peerPublicKey
  let transcript := appendHead transcriptDomainV3 document.toHead
  let transcript := appendField transcript key
  let transcript := appendField transcript document.peerEndpointHost
  return appendUint32 transcript (uint32Of document.servicePort)

namespace V2Document

def head : V2Document → Head
  | webService document => document.toHead
  | entrypoint document => document.toHead
  | route document => document.toHead
  | privateService document => document.toHead
  | linkRoute document => document.toHead
  | snapshot document => document.toHead
  | restore document => document.toHead
  | userService document => document.toHead

def validate : V2Document → Except Sentence Unit
  | webService document => document.validate
  | entrypoint document => document.validate
  | route document => document.validate
  | privateService document => document.validate
  | linkRoute document => document.validate
  | snapshot document => document.validate
  | restore document => document.validate
  | userService document => document.validate

def transcript : V2Document → Except Sentence Bytes
  | webService document => document.transcript
  | entrypoint document => document.transcript
  | route document => document.transcript
  | privateService document => document.transcript
  | linkRoute document => document.transcript
  | snapshot document => document.transcript
  | restore document => document.transcript
  | userService document => document.transcript

end V2Document

namespace V3Document

def head : V3Document → Head
  | link document => document.toHead
  | listenerPeer document => document.toHead
  | initiatorPeer document => document.toHead

def validate : V3Document → Except Sentence Unit
  | link document => document.validate
  | listenerPeer document => document.validate
  | initiatorPeer document => document.validate

def transcript : V3Document → Except Sentence Bytes
  | link document => document.transcript
  | listenerPeer document => document.transcript
  | initiatorPeer document => document.transcript

end V3Document

/-! ## What a valid document is bounded by -/

/-- A head whose fields fit their lengths. -/
structure Head.Bounded (version : Int) (head : Head) : Prop where
  schemaVersion : head.schemaVersion = version
  infrastructureID : head.infrastructureID.length < 256 ^ 4
  machineID : head.machineID.length < 256 ^ 4
  operation : head.operation.length < 256 ^ 4

/-- A table whose names are short. -/
def ShortNames {γ : Type} (table : List (Bytes × γ)) : Prop :=
  ∀ entry ∈ table, entry.1.length < 256 ^ 4

theorem ShortNames.lookup {γ : Type} {table : List (Bytes × γ)} (h : ShortNames table)
    {name : Bytes} {value : γ} (hlookup : table.lookup name = some value) :
    name.length < 256 ^ 4 :=
  h (name, value) (Json.mem_of_lookup hlookup)

theorem validateTarget_bounded {version : Int} {head : Head} {u : Unit}
    (h : validateTarget version head = .ok u) (hoperation : head.operation.length < 256 ^ 4) :
    head.Bounded version := by
  obtain ⟨_, hversion, h⟩ := bind_ok_iff.1 h
  obtain ⟨_, hinfrastructure, hmachine⟩ := bind_ok_iff.1 h
  have hinfrastructure := canonicalUUIDv4_length (demand_eq_ok.1 hinfrastructure)
  have hmachine := canonicalMachine_length (demand_eq_ok.1 hmachine)
  exact ⟨of_decide_eq_true (demand_eq_ok.1 hversion), by omega, by omega, hoperation⟩

theorem validateOperation_ok {γ : Type} [DecidableEq γ] {groups : List (Bytes × γ)} {group : γ}
    {operation : Bytes} {u : Unit} (h : validateOperation groups group operation = .ok u) :
    groups.lookup operation = some group :=
  of_decide_eq_true (demand_eq_ok.1 h)

theorem validateV2Head_ok {head : Head} {group : OperationGroup} {u : Unit}
    (h : validateV2Head head group = .ok u) :
    head.Bounded schemaVersionV2 ∧ operationGroups.lookup head.operation = some group := by
  obtain ⟨_, htarget, hgroup⟩ := bind_ok_iff.1 h
  have hlookup := validateOperation_ok hgroup
  have hshort : ShortNames operationGroups := by
    unfold ShortNames
    decide
  exact ⟨validateTarget_bounded htarget (hshort.lookup hlookup), hlookup⟩

theorem validateV3Head_ok {head : Head} {group : LinkOperationGroup} {u : Unit}
    (h : validateV3Head head group = .ok u) :
    head.Bounded schemaVersionV3 ∧ linkOperationGroups.lookup head.operation = some group := by
  obtain ⟨_, htarget, hgroup⟩ := bind_ok_iff.1 h
  have hlookup := validateOperation_ok hgroup
  have hshort : ShortNames linkOperationGroups := by
    unfold ShortNames
    decide
  exact ⟨validateTarget_bounded htarget (hshort.lookup hlookup), hlookup⟩

theorem validatePort_ok {field : String} {port : Int} {u : Unit}
    (h : validatePort field port = .ok u) : 1 ≤ port ∧ port ≤ 65535 := by
  have hport := demand_eq_ok.1 h
  rw [Bool.and_eq_true, decide_eq_true_eq, decide_eq_true_eq] at hport
  exact ⟨Int.le_trans (by decide) hport.1, hport.2⟩

theorem validateHostBound_length {field : String} {host : Bytes} {u : Unit}
    (h : validateHostBound field host = .ok u) : host.length < 256 ^ 4 := by
  obtain ⟨_, hhost, -⟩ := bind_ok_iff.1 h
  have hhost := demand_eq_ok.1 hhost
  simp only [canonicalRouteHost, Bool.and_eq_true, decide_eq_true_eq] at hhost
  omega

theorem validatePinnedImage_ok {reference digest : Bytes} {pinned : PinnedImage} {u : Unit}
    (h : validatePinnedImage reference digest pinned = .ok u) :
    reference = pinned.reference ∧ canonicalOCIDigest digest = true := by
  obtain ⟨_, hreference, h⟩ := bind_ok_iff.1 h
  obtain ⟨_, hdigest, -⟩ := bind_ok_iff.1 h
  exact ⟨of_decide_eq_true (demand_eq_ok.1 hreference), demand_eq_ok.1 hdigest⟩

theorem validateSnapshotSlot_length {slot : Bytes} {u : Unit}
    (h : validateSnapshotSlot slot = .ok u) : slot.length < 256 ^ 4 := by
  have hslot := demand_eq_ok.1 h
  simp only [canonicalSnapshotSlot, Bool.and_eq_true, decide_eq_true_eq] at hslot
  omega

theorem mapError_ok {ε ε' α : Type} {f : ε → ε'} {x : Except ε α} {a : α}
    (h : x.mapError f = .ok a) : x = .ok a := by
  cases x with
  | ok b => exact congrArg Except.ok (Except.ok.inj h)
  | error e => cases h

/-- A profile that is archived is one of the product or a slug. -/
theorem validateArchivedProfile_length {profile : Bytes} {u : Unit}
    (h : validateArchivedProfile profile = .ok u) : profile.length < 256 ^ 4 := by
  unfold validateArchivedProfile at h
  split at h
  · rename_i hlookup
    have hshort : ShortNames privateProfileImage := by
      unfold ShortNames
      decide
    exact hshort.lookup hlookup
  · have := ServiceDefinition.validateSlug_length (mapError_ok h)
    omega

/-! ### Digests and keys -/

/-- What a digest or a key stands for in a transcript. -/
def spelled (decoded : Except Sentence Bytes) : Bytes := decoded.toOption.getD []

theorem hexValue_isSome {b : UInt8} (h : isLowerHex b = true) : (hexValue b).isSome = true := by
  unfold isLowerHex at h
  unfold hexValue
  by_cases hdigit : isDigit b = true
  · rw [if_pos hdigit]
    rfl
  · rw [if_neg hdigit]
    simp only [hdigit, Bool.false_or] at h
    rw [if_pos h]
    rfl

/-- An even run of lower-case digits is decoded. -/
theorem hexDecode_lower {s : Bytes} (hs : s.all isLowerHex = true) {n : Nat}
    (hlength : s.length = 2 * n) : ∃ decoded, hexDecode s = some decoded ∧ decoded.length = n := by
  induction s using hexDecode.induct generalizing n with
  | case1 => exact ⟨[], rfl, by simp at hlength; simp [hlength]⟩
  | case2 a => simp at hlength; omega
  | case3 a b rest ih =>
      simp only [List.all_cons, Bool.and_eq_true] at hs
      obtain ⟨m, rfl⟩ : ∃ m, n = m + 1 := ⟨n - 1, by simp at hlength; omega⟩
      obtain ⟨tail, htail, htailLength⟩ := ih hs.2.2 (n := m) (by simp at hlength; omega)
      obtain ⟨high, hhigh⟩ := Option.isSome_iff_exists.1 (hexValue_isSome hs.1)
      obtain ⟨low, hlow⟩ := Option.isSome_iff_exists.1 (hexValue_isSome hs.2.1)
      refine ⟨(16 * high + low).toUInt8 :: tail, ?_, by rw [List.length_cons, htailLength]⟩
      rw [hexDecode, hhigh, hlow, htail]
      rfl

theorem hex_decoded {hex : Bytes} (h : canonicalDigest hex = true) :
    ∃ decoded, (hexDecode hex).filter (fun decoded => decoded.length = digestBytes) = some decoded ∧
      decoded.length = 32 ∧ hexEncode decoded = hex := by
  rw [canonicalDigest, exactly, Bool.and_eq_true, beq_iff_eq] at h
  obtain ⟨decoded, hdecoded, hlength⟩ := hexDecode_lower h.2 (n := 32) h.1
  refine ⟨decoded, ?_, hlength, hexEncode_hexDecode h.2 hdecoded⟩
  rw [hdecoded, Option.filter_some, if_pos (by simp [hlength, digestBytes])]

/-- An image digest is decoded, and nothing else is decoded to the same bytes. -/
theorem image_decoded {digest : Bytes} (h : canonicalOCIDigest digest = true) :
    ∃ image, decodeOCIDigest digest = .ok image ∧ image.length = 32 ∧
      digest = text "sha256:" ++ hexEncode image := by
  rw [canonicalOCIDigest, Bool.and_eq_true] at h
  obtain ⟨hstarts, hdigest⟩ := h
  obtain ⟨image, himage, hlength, hencoded⟩ := hex_decoded hdigest
  refine ⟨image, ?_, hlength, ?_⟩
  · unfold decodeOCIDigest
    simp only [hstarts, if_true]
    rw [himage]
    rfl
  · obtain ⟨rest, rfl⟩ := List.isPrefixOf_iff_prefix.1 hstarts
    have hseven : (text "sha256:").length = 7 := by decide
    rw [hencoded, ← hseven, List.drop_left]

theorem definition_decoded {digest : Bytes} (h : canonicalDigest digest = true) :
    ∃ definition, decodeDefinitionDigest digest = .ok definition ∧ definition.length = 32 ∧
      digest = hexEncode definition := by
  obtain ⟨definition, hdefinition, hlength, hencoded⟩ := hex_decoded h
  refine ⟨definition, ?_, hlength, hencoded.symm⟩
  rw [decodeDefinitionDigest, hdefinition]
  rfl

theorem peerKey_decoded {value key : Bytes} (h : decodePeerPublicKey value = .ok key) :
    key.length = 32 ∧ decodeCanonicalStd value peerPublicKeyBytes = some key := by
  obtain ⟨_, -, hkey⟩ := bind_ok_iff.1 h
  have hkey := found_eq_ok.1 hkey
  exact ⟨decodeCanonicalStd_length hkey, hkey⟩

/-! ## What follows the domain and the version -/

/-- The fields every plan carries. -/
def Head.write (head : Head) : Bytes :=
  writeField head.infrastructureID ++ (writeField head.machineID ++ writeField head.operation)

theorem appendHead_eq (domain : Bytes) (head : Head) :
    appendHead domain head = domain ++ byteOf head.schemaVersion :: head.write := by
  simp [appendHead, appendField_eq, Head.write]

theorem Head.write_delimiting (version : Int) :
    SelfDelimiting (Head.Bounded version) Head.write := by
  apply (SelfDelimiting.field.pair (SelfDelimiting.field.pair SelfDelimiting.field)).of_view
    fun head => (head.infrastructureID, head.machineID, head.operation)
  · exact fun head h => ⟨h.infrastructureID, h.machineID, h.operation⟩
  · exact fun _ => rfl
  · rintro ⟨⟩ ⟨⟩ h h' hview
    have hversion := h.schemaVersion.trans h'.schemaVersion.symm
    simp only [Prod.mk.injEq] at hview hversion
    obtain ⟨rfl, rfl, rfl⟩ := hview
    rw [hversion]

/-- What is written of a document behind its head is self-delimiting among the valid documents
with one head. -/
def TailDelimiting {δ : Type} (head : δ → Head) (validate : δ → Except Sentence Unit)
    (tail : δ → Bytes) : Prop :=
  ∀ h, SelfDelimiting (fun document => head document = h ∧ validate document = .ok ()) tail

/-- An image as it stands in a transcript. -/
def imageBytes (digest : Bytes) : Bytes := spelled (decodeOCIDigest digest)

theorem imageBytes_length {digest : Bytes} (h : canonicalOCIDigest digest = true) :
    (imageBytes digest).length < 256 ^ 4 := by
  obtain ⟨image, himage, hlength, -⟩ := image_decoded h
  rw [imageBytes, himage, spelled]
  show image.length < 256 ^ 4
  omega

theorem imageBytes_inj {digest digest' : Bytes} (h : canonicalOCIDigest digest = true)
    (h' : canonicalOCIDigest digest' = true) (hsame : imageBytes digest = imageBytes digest') :
    digest = digest' := by
  obtain ⟨image, himage, -, hdigest⟩ := image_decoded h
  obtain ⟨image', himage', -, hdigest'⟩ := image_decoded h'
  rw [imageBytes, imageBytes, himage, himage'] at hsame
  rw [hdigest, hdigest', show image = image' from hsame]

/-- A definition digest as it stands in a transcript. -/
def definitionBytes (digest : Bytes) : Bytes := spelled (decodeDefinitionDigest digest)

theorem definitionBytes_length {digest : Bytes} (h : canonicalDigest digest = true) :
    (definitionBytes digest).length < 256 ^ 4 := by
  obtain ⟨definition, hdefinition, hlength, -⟩ := definition_decoded h
  rw [definitionBytes, hdefinition, spelled]
  show definition.length < 256 ^ 4
  omega

theorem definitionBytes_inj {digest digest' : Bytes} (h : canonicalDigest digest = true)
    (h' : canonicalDigest digest' = true)
    (hsame : definitionBytes digest = definitionBytes digest') : digest = digest' := by
  obtain ⟨definition, hdefinition, -, hdigest⟩ := definition_decoded h
  obtain ⟨definition', hdefinition', -, hdigest'⟩ := definition_decoded h'
  rw [definitionBytes, definitionBytes, hdefinition, hdefinition'] at hsame
  rw [hdigest, hdigest', show definition = definition' from hsame]

/-- A peer key as it stands in a transcript. -/
def keyBytes (value : Bytes) : Bytes := spelled (decodePeerPublicKey value)

theorem keyBytes_length {value : Bytes} (h : ∃ key, decodePeerPublicKey value = .ok key) :
    (keyBytes value).length < 256 ^ 4 := by
  obtain ⟨key, hkey⟩ := h
  rw [keyBytes, hkey, spelled]
  show key.length < 256 ^ 4
  have := (peerKey_decoded hkey).1
  omega

theorem keyBytes_inj {value value' : Bytes} (h : ∃ key, decodePeerPublicKey value = .ok key)
    (h' : ∃ key, decodePeerPublicKey value' = .ok key) (hsame : keyBytes value = keyBytes value') :
    value = value' := by
  obtain ⟨key, hkey⟩ := h
  obtain ⟨key', hkey'⟩ := h'
  rw [keyBytes, keyBytes, hkey, hkey'] at hsame
  obtain rfl : key = key' := hsame
  exact decodeCanonicalStd_inj (peerKey_decoded hkey).2 (peerKey_decoded hkey').2

end YourCloud.Plan
