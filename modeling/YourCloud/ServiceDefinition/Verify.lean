import YourCloud.Foundation.Sha256
import YourCloud.ServiceDefinition

/-!
# A definition that travels

A definition travels as its bytes beside the digest that names it.  Who receives it
reads and checks it, and takes the digest again from the fields it read.

A value of a definition has a brace only in the one interpolation there is, so
replacing that one leaves no brace.

## Main results

* `decode_valid`, `verify_iff` — what is decoded is valid, and what is verified has
  the digest that was announced.
* `replaceAll_inert` — a valid line has no brace after the interpolation.
* `inert_of_consumes` — nor without one, where it has no placeholder.
-/

namespace YourCloud.ServiceDefinition

open YourCloud.Foundation
open Approval (canonicalDigest)

/-! ## Reading -/

def documentFields : List Bytes :=
  [text "schema_version", text "slug", text "image_repository", text "container_port",
    text "volumes", text "tmpfs", text "environment", text "secret_keys"]

def Document.read (j : Json) : Option Document := do
  let ms ← j.members documentFields
  let schemaVersion ← (Json.field ms (text "schema_version")).readInt
  let slug ← (Json.field ms (text "slug")).readString
  let imageRepository ← (Json.field ms (text "image_repository")).readString
  let containerPort ← (Json.field ms (text "container_port")).readInt
  let volumes ← (Json.field ms (text "volumes")).readStrings
  let tmpfs ← (Json.field ms (text "tmpfs")).readStrings
  let environment ← (Json.field ms (text "environment")).readStrings
  let secretKeys ← (Json.field ms (text "secret_keys")).readStrings
  return { schemaVersion, slug, imageRepository, containerPort, volumes, tmpfs, environment,
           secretKeys }

def sizeProblem : Sentence :=
  say "service definition must contain 1.." ++ count maxDefinitionBytes ++ say " bytes"

/-- One bounded, strict, fully validated definition. -/
def decode (document : Bytes) : Except Sentence Document := do
  demand (document.length ≠ 0 && document.length ≤ maxDefinitionBytes) sizeProblem
  let parsed ← found (Json.decode Document.read document) (say "decode service definition")
  parsed.validate
  return parsed

/-- The value a plan names as its definition. -/
def Document.sha256 (document : Document) : Except Sentence Bytes := do
  let transcript ← document.transcript
  return sha256Hex transcript

/-- Thirty-two bytes in lower-case hexadecimal. -/
def canonicalDefinitionDigest (value : Bytes) : Bool :=
  (hexDecode value).any fun decoded => decoded.length = 32 && hexEncode decoded = value

/-- A received definition that is the one its digest names. -/
def verify (document announcedSHA256 : Bytes) : Except Sentence Document := do
  demand (canonicalDefinitionDigest announcedSHA256)
    (say "service definition digest must be " ++ count 64 ++
      say " lower-case hexadecimal characters")
  let parsed ← decode document
  let digest ← parsed.sha256
  demand (digest = announcedSHA256)
    (say "service definition does not carry the digest that names it")
  return parsed

/-! ## The interpolation -/

/-- Whether a line consumes the origin. -/
def consumesOriginHost (line : Bytes) : Bool := originHostPlaceholder <:+: line

def Document.interpolatesOriginHost (document : Document) : Bool :=
  document.environment.any consumesOriginHost

/-- `strings.ReplaceAll`, past the bytes of an occurrence that was just replaced. -/
def replaceFrom (old new : Bytes) : Nat → Bytes → Bytes
  | _, [] => []
  | inside + 1, _ :: rest => replaceFrom old new inside rest
  | 0, b :: rest =>
      if old.isPrefixOf (b :: rest) then new ++ replaceFrom old new (old.length - 1) rest
      else b :: replaceFrom old new 0 rest

def replaceAll (old new s : Bytes) : Bytes := replaceFrom old new 0 s

/-- Text without a brace. -/
def Inert (s : Bytes) : Prop := 0x7B ∉ s ∧ 0x7D ∉ s

theorem Inert.append {s t : Bytes} (hs : Inert s) (ht : Inert t) : Inert (s ++ t) :=
  ⟨fun h => (List.mem_append.1 h).elim hs.1 ht.1, fun h => (List.mem_append.1 h).elim hs.2 ht.2⟩

theorem Inert.cons {b : UInt8} {s : Bytes} (hopen : b ≠ 0x7B) (hclose : b ≠ 0x7D)
    (hs : Inert s) : Inert (b :: s) :=
  ⟨fun h => (List.mem_cons.1 h).elim (fun heq => hopen heq.symm) hs.1,
    fun h => (List.mem_cons.1 h).elim (fun heq => hclose heq.symm) hs.2⟩

/-- The placeholder opens on a brace. -/
theorem placeholder_opens {b : UInt8} {rest : Bytes}
    (h : originHostPlaceholder.isPrefixOf (b :: rest) = true) : b = 0x7B := by
  obtain ⟨t, ht⟩ := List.isPrefixOf_iff_prefix.1 h
  exact (List.cons.inj ht).1.symm

/-- What the scan of a value accepts has no brace once the placeholder is replaced.  The two
walk over the value side by side. -/
theorem replaceFrom_inert {key origin value : Bytes} (horigin : Inert origin) {inside : Nat}
    {u : Unit} (h : validateValueFrom key inside value = .ok u) :
    Inert (replaceFrom originHostPlaceholder origin inside value) := by
  induction value generalizing inside with
  | nil => exact ⟨List.not_mem_nil, List.not_mem_nil⟩
  | cons character rest ih =>
      cases inside with
      | succ inside => exact ih h
      | zero =>
          unfold validateValueFrom at h
          obtain ⟨_, -, h⟩ := bind_ok_iff.1 h
          unfold replaceFrom
          split at h
          · obtain ⟨_, hprefix, h⟩ := bind_ok_iff.1 h
            rw [if_pos (demand_eq_ok.1 hprefix)]
            exact horigin.append (ih h)
          · rename_i hopen
            split at h
            · cases h
            · rename_i hclose
              rw [if_neg fun hprefix => hopen (placeholder_opens hprefix)]
              exact (ih h).cons hopen hclose

/-- What the scan accepts without a placeholder has no brace. -/
theorem inert_of_scan {key value : Bytes} {u : Unit}
    (h : validateValueFrom key 0 value = .ok u) (hnone : ¬ originHostPlaceholder <:+: value) :
    Inert value := by
  induction value with
  | nil => exact ⟨List.not_mem_nil, List.not_mem_nil⟩
  | cons character rest ih =>
      unfold validateValueFrom at h
      obtain ⟨_, -, h⟩ := bind_ok_iff.1 h
      split at h
      · obtain ⟨_, hprefix, -⟩ := bind_ok_iff.1 h
        have hstarts := List.isPrefixOf_iff_prefix.1 (demand_eq_ok.1 hprefix)
        exact absurd hstarts.isInfix hnone
      · rename_i hopen
        split at h
        · cases h
        · rename_i hclose
          exact (ih h fun hwithin => hnone (hwithin.trans (List.suffix_cons _ _).isInfix)).cons
            hopen hclose

/-- What has no brace is passed over. -/
theorem replaceFrom_append {head : Bytes} (hhead : Inert head) (origin rest : Bytes) :
    replaceFrom originHostPlaceholder origin 0 (head ++ rest) =
      head ++ replaceFrom originHostPlaceholder origin 0 rest := by
  induction head with
  | nil => rfl
  | cons b head ih =>
      have hopen : b ≠ 0x7B := fun heq => hhead.1 (heq ▸ List.mem_cons_self)
      rw [List.cons_append, replaceFrom,
        if_neg fun hprefix => hopen (placeholder_opens hprefix)]
      rw [ih ⟨fun h => hhead.1 (List.mem_cons_of_mem _ h), fun h => hhead.2 (List.mem_cons_of_mem _ h)⟩]
      rfl

/-! ## Lines that pass -/

/-- A name of a variable has no brace. -/
theorem canonicalEnvironmentKey_inert {key : Bytes} (h : canonicalEnvironmentKey key = true) :
    Inert key := by
  simp only [canonicalEnvironmentKey, Bool.and_eq_true, List.all_eq_true] at h
  exact ⟨fun hmem => absurd (h.1.2 _ hmem) (by decide), fun hmem => absurd (h.1.2 _ hmem) (by decide)⟩

/-- A line of a valid definition is a name and a value that the scan accepts. -/
structure Line (line : Bytes) : Prop where
  parts : ∃ key value u, line = key ++ 0x3D :: value ∧ Inert key ∧
    validateValueFrom key 0 value = .ok u

theorem declareLine_line {declared declared' : Claimed} {line : Bytes}
    (h : declareLine declared line = .ok declared') : Line line := by
  obtain ⟨⟨key, value⟩, hcut, h⟩ := bind_ok_iff.1 h
  obtain ⟨_, hkey, h⟩ := bind_ok_iff.1 h
  obtain ⟨_, hvalue, -⟩ := bind_ok_iff.1 h
  obtain ⟨_, -, hscan⟩ := bind_ok_iff.1 hvalue
  exact ⟨key, value, _, cut_append (found_eq_ok.1 hcut),
    canonicalEnvironmentKey_inert (demand_eq_ok.1 hkey), hscan⟩

theorem lines_of_validate {document : Document} {u : Unit} (h : document.validate = .ok u) :
    ∀ line ∈ document.environment, Line line := by
  obtain ⟨_, -, h⟩ := bind_ok_iff.1 h
  obtain ⟨_, -, h⟩ := bind_ok_iff.1 h
  obtain ⟨_, -, h⟩ := bind_ok_iff.1 h
  obtain ⟨_, -, h⟩ := bind_ok_iff.1 h
  obtain ⟨_, -, henvironment⟩ := bind_ok_iff.1 h
  obtain ⟨_, -, henvironment⟩ := bind_ok_iff.1 henvironment
  obtain ⟨_, -, henvironment⟩ := bind_ok_iff.1 henvironment
  obtain ⟨_, hlines, -⟩ := bind_ok_iff.1 henvironment
  intro line hline
  obtain ⟨_, _, hstep⟩ := foldlM_passed hlines line hline
  exact declareLine_line hstep

/-- A valid line has no brace after the interpolation. -/
theorem replaceAll_inert {line origin : Bytes} (h : Line line) (horigin : Inert origin) :
    Inert (replaceAll originHostPlaceholder origin line) := by
  obtain ⟨key, value, u, rfl, hkey, hscan⟩ := h.parts
  have hhead : Inert (key ++ [0x3D]) := hkey.append ⟨by decide, by decide⟩
  rw [replaceAll, List.append_cons, replaceFrom_append hhead]
  exact hhead.append (replaceFrom_inert horigin hscan)

/-- Nor without one, where it has no placeholder. -/
theorem inert_of_consumes {line : Bytes} (h : Line line) (hnone : consumesOriginHost line = false) :
    Inert line := by
  obtain ⟨key, value, u, rfl, hkey, hscan⟩ := h.parts
  have hvalue : ¬ originHostPlaceholder <:+: value := fun hwithin =>
    of_decide_eq_false hnone (hwithin.trans
      ((List.suffix_cons _ _).trans (List.suffix_append _ _)).isInfix)
  rw [List.append_cons]
  exact (hkey.append ⟨by decide, by decide⟩).append (inert_of_scan hscan hvalue)

/-! ## What was received -/

theorem decode_valid {document : Bytes} {parsed : Document} (h : decode document = .ok parsed) :
    parsed.validate = .ok () := by
  obtain ⟨_, -, h⟩ := bind_ok_iff.1 h
  obtain ⟨value, -, h⟩ := bind_ok_iff.1 h
  obtain ⟨_, hvalid, h⟩ := bind_ok_iff.1 h
  rw [← Except.ok.inj h]
  exact hvalid

/-- A digest that was taken is spelled in the one way. -/
theorem canonical_of_sha256 {document : Document} {digest : Bytes}
    (h : document.sha256 = .ok digest) : canonicalDefinitionDigest digest = true := by
  obtain ⟨transcript, -, h⟩ := bind_ok_iff.1 h
  rw [← Except.ok.inj h]
  rw [canonicalDefinitionDigest, sha256Hex, hexDecode_hexEncode, Option.any_some, sha256_length]
  simp

/-- What is verified is what the digest names. -/
theorem verify_iff {document digest : Bytes} {parsed : Document} :
    verify document digest = .ok parsed ↔ decode document = .ok parsed ∧
      parsed.sha256 = .ok digest := by
  constructor
  · intro h
    obtain ⟨_, -, h⟩ := bind_ok_iff.1 h
    obtain ⟨value, hdecode, h⟩ := bind_ok_iff.1 h
    obtain ⟨taken, htaken, h⟩ := bind_ok_iff.1 h
    obtain ⟨_, hsame, h⟩ := bind_ok_iff.1 h
    have hsame : taken = digest := of_decide_eq_true (demand_eq_ok.1 hsame)
    rw [← Except.ok.inj h]
    exact ⟨hdecode, hsame ▸ htaken⟩
  · rintro ⟨hdecode, hdigest⟩
    unfold verify
    refine bind_ok_iff.2 ⟨(), demand_eq_ok.2 (canonical_of_sha256 hdigest), ?_⟩
    refine bind_ok_iff.2 ⟨parsed, hdecode, ?_⟩
    refine bind_ok_iff.2 ⟨digest, hdigest, ?_⟩
    exact bind_ok_iff.2 ⟨(), demand_eq_ok.2 (decide_eq_true rfl), rfl⟩

end YourCloud.ServiceDefinition
