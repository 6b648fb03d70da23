import YourCloud.ServiceDefinition.Mounts
import YourCloud.ServiceDefinition.Verify

/-!
# What a definition is spelled with

A valid definition names things with lower-case letters, digits and a few separators,
and the lines of its environment are printable.  Who writes one of its values into a
file relies on that.

## Main results

* `slug_bytes`, `repository_bytes`, `containerPath_bytes` — the bytes of a name, of an
  image and of a path.
* `line_bytes` — the bytes of a line of the environment.
-/

namespace YourCloud.ServiceDefinition

open YourCloud.Foundation
open YourCloud.Foundation.Paths

/-- `[a-z0-9/:._-]` -/
def isReferenceByte (b : UInt8) : Bool :=
  isNameByte b || b = 0x2E || b = 0x5F || b = 0x2D || b = 0x3A || b = 0x2F

/-- A text of these alone. -/
def Reference (s : Bytes) : Prop := ∀ b ∈ s, isReferenceByte b = true

theorem Reference.append {s t : Bytes} (hs : Reference s) (ht : Reference t) : Reference (s ++ t) :=
  List.forall_mem_append.2 ⟨hs, ht⟩

theorem Reference.not_mem {s : Bytes} (h : Reference s) {b : UInt8}
    (hb : isReferenceByte b = false) : b ∉ s := by
  intro hmem
  rw [h b hmem] at hb
  cases hb

theorem isNameByte_reference {b : UInt8} (h : isNameByte b = true) : isReferenceByte b = true := by
  simp [isReferenceByte, h]

/-- A byte of a text is in one of the parts it is split into, unless it separates them. -/
theorem mem_splitOnP {p : UInt8 → Bool} {s : Bytes} {b : UInt8} (hb : b ∈ s) (hp : p b = false) :
    ∃ part ∈ s.splitOnP p, b ∈ part := by
  induction s with
  | nil => cases hb
  | cons c s ih =>
      rw [List.splitOnP_cons_eq_if_modifyHead]
      by_cases hc : p c = true
      · rw [if_pos hc]
        rcases List.mem_cons.1 hb with rfl | hb
        · rw [hc] at hp
          cases hp
        · obtain ⟨part, hpart, hmem⟩ := ih hb
          exact ⟨part, List.mem_cons_of_mem _ hpart, hmem⟩
      · rw [if_neg hc]
        obtain ⟨first, rest, hparts⟩ := List.exists_cons_of_ne_nil (List.splitOnP_ne_nil p s)
        rw [hparts] at ih ⊢
        rw [List.modifyHead_cons]
        rcases List.mem_cons.1 hb with rfl | hb
        · exact ⟨_, List.mem_cons_self, List.mem_cons_self⟩
        · obtain ⟨part, hpart, hmem⟩ := ih hb
          rcases List.mem_cons.1 hpart with rfl | hpart
          · exact ⟨_, List.mem_cons_self, List.mem_cons_of_mem _ hmem⟩
          · exact ⟨part, List.mem_cons_of_mem _ hpart, hmem⟩

/-! ## Names -/

theorem slug_bytes {slug : Bytes} (h : canonicalSlug slug = true) : Reference slug := by
  simp only [canonicalSlug, Bool.and_eq_true, List.all_eq_true] at h
  intro b hb
  have hbyte := h.1.2 b hb
  rw [Bool.or_eq_true, decide_eq_true_eq] at hbyte
  cases hbyte with
  | inl hname => exact isNameByte_reference hname
  | inr hhyphen =>
      rw [hhyphen]
      decide

/-- The bytes of a component, or of a segment. -/
theorem component_byte {b : UInt8}
    (h : (isNameByte b || b = 0x2E || b = 0x5F || b = 0x2D) = true) : isReferenceByte b = true := by
  simp only [isReferenceByte, h, Bool.true_or]

theorem segment_bytes {segment : Bytes} (h : canonicalPathSegment segment = true) :
    Reference segment := by
  rw [canonicalPathSegment, Bool.and_eq_true, List.all_eq_true] at h
  exact fun b hb => component_byte (h.2 b hb)

theorem containerPath_bytes {path : Bytes} (h : ContainerPath path) : Reference path := by
  obtain ⟨segments, rfl, hsegments⟩ := h
  intro b hb
  obtain ⟨segment, hsegment, hmem⟩ := List.mem_flatMap.1 hb
  rw [List.mem_cons] at hmem
  cases hmem with
  | inl hslash =>
      rw [hslash]
      decide
  | inr hmem => exact segment_bytes (hsegments.canonical segment hsegment) b hmem

/-! ## Images -/

theorem registry_bytes {registry : Bytes} (h : canonicalRegistryHost registry = true) :
    Reference registry := by
  rw [canonicalRegistryHost, Bool.and_eq_true, List.all_eq_true] at h
  obtain ⟨hhost, hport⟩ := h
  intro b hb
  rw [← List.takeWhile_append_dropWhile (p := (· ≠ (0x3A : UInt8))) (l := registry)] at hb
  rcases List.mem_append.1 hb with hb | hb
  · cases hseparates : (b = 0x2E || b = 0x2D : Bool) with
    | true =>
        rw [Bool.or_eq_true, decide_eq_true_eq, decide_eq_true_eq] at hseparates
        rcases hseparates with rfl | rfl <;> decide
    | false =>
        obtain ⟨label, hlabel, hmem⟩ :=
          mem_splitOnP (p := fun b => b = 0x2E || b = 0x2D) hb hseparates
        have hletters := hhost label hlabel
        rw [Bool.and_eq_true, List.all_eq_true] at hletters
        exact isNameByte_reference (hletters.2 b hmem)
  · cases hdrop : registry.dropWhile (· ≠ 0x3A) with
    | nil =>
        rw [hdrop] at hb
        cases hb
    | cons c port =>
        have hcolon : c = 0x3A := by
          have hne : registry.dropWhile (· ≠ 0x3A) ≠ [] := by
            rw [hdrop]
            exact List.cons_ne_nil _ _
          have hhead := List.head_dropWhile_not (fun b : UInt8 => decide (b ≠ 0x3A)) hne
          simp only [hdrop, List.head_cons, decide_eq_false_iff_not, not_not] at hhead
          exact hhead
        rw [hdrop] at hb hport
        simp only [Bool.and_eq_true, List.all_eq_true] at hport
        rcases List.mem_cons.1 hb with rfl | hb
        · rw [hcolon]
          decide
        · have hdigit := hport.2 b hb
          exact isNameByte_reference (by rw [isNameByte, hdigit, Bool.or_true])

theorem repositoryPath_bytes {path : Bytes} (h : canonicalRepositoryPath path = true) :
    Reference path := by
  intro b hb
  cases hseparates : b == 0x2F with
  | true =>
      rw [beq_iff_eq.1 hseparates]
      decide
  | false =>
      obtain ⟨component, hcomponent, hmem⟩ := mem_splitOnP (p := (· == 0x2F)) hb hseparates
      have hletters := List.all_eq_true.1 h component hcomponent
      rw [canonicalComponent, Bool.and_eq_true, List.all_eq_true] at hletters
      exact component_byte (hletters.2 b hmem)

theorem repository_bytes {repository : Bytes} {u : Unit}
    (h : validateImageRepository repository = .ok u) : Reference repository := by
  obtain ⟨_, -, h⟩ := bind_ok_iff.1 h
  obtain ⟨_, -, h⟩ := bind_ok_iff.1 h
  obtain ⟨_, -, h⟩ := bind_ok_iff.1 h
  obtain ⟨⟨registry, path⟩, hcut, h⟩ := bind_ok_iff.1 h
  obtain ⟨_, hregistry, hpath⟩ := bind_ok_iff.1 h
  have hregistry := registry_bytes (Bool.and_eq_true_iff.1 (demand_eq_ok.1 hregistry)).2
  have hpath := repositoryPath_bytes (demand_eq_ok.1 hpath)
  have hslash : isReferenceByte 0x2F = true := by decide
  rw [cut_append (found_eq_ok.1 hcut)]
  exact hregistry.append (List.forall_mem_cons.2 ⟨hslash, hpath⟩)

/-! ## Lines of the environment -/

def isPrintable (b : UInt8) : Bool := 0x20 ≤ b && b ≤ 0x7E

def Printable (s : Bytes) : Prop := ∀ b ∈ s, isPrintable b = true

theorem Printable.not_mem {s : Bytes} (h : Printable s) {b : UInt8} (hb : isPrintable b = false) :
    b ∉ s := by
  intro hmem
  rw [h b hmem] at hb
  cases hb

theorem printable_of_bounds {b : UInt8} (hlow : 0x20 ≤ b.toNat) (hhigh : b.toNat ≤ 0x7E) :
    isPrintable b = true := by
  simp only [isPrintable, Bool.and_eq_true, decide_eq_true_eq, UInt8.le_iff_toNat_le,
    UInt8.reduceToNat]
  exact ⟨hlow, hhigh⟩

theorem isDigit_printable {b : UInt8} (h : isDigit b = true) : isPrintable b = true := by
  simp only [isDigit, Bool.and_eq_true, decide_eq_true_eq, UInt8.le_iff_toNat_le,
    UInt8.reduceToNat] at h
  exact printable_of_bounds (by omega) (by omega)

theorem isReferenceByte_printable {b : UInt8} (h : isReferenceByte b = true) :
    isPrintable b = true := by
  simp only [isReferenceByte, isNameByte, Bool.or_eq_true, decide_eq_true_eq] at h
  rcases h with (((((hlower | hdigit) | rfl) | rfl) | rfl) | rfl) | rfl
  · simp only [isLower, Bool.and_eq_true, decide_eq_true_eq, UInt8.le_iff_toNat_le,
      UInt8.reduceToNat] at hlower
    exact printable_of_bounds (by omega) (by omega)
  · exact isDigit_printable hdigit
  · decide
  · decide
  · decide
  · decide
  · decide

/-- What the scan of a value accepts is printable, what it passes over apart. -/
theorem scan_bytes {key value : Bytes} {inside : Nat} {u : Unit}
    (h : validateValueFrom key inside value = .ok u) (hinside : Printable (value.take inside)) :
    Printable value := by
  induction value generalizing inside with
  | nil => exact List.forall_mem_nil _
  | cons character rest ih =>
      cases inside with
      | succ inside =>
          rw [List.take_succ_cons] at hinside
          obtain ⟨hcharacter, hrest⟩ := List.forall_mem_cons.1 hinside
          exact List.forall_mem_cons.2 ⟨hcharacter, ih h hrest⟩
      | zero =>
          unfold validateValueFrom at h
          obtain ⟨_, hprintable, h⟩ := bind_ok_iff.1 h
          have hcharacter : isPrintable character = true := demand_eq_ok.1 hprintable
          refine List.forall_mem_cons.2 ⟨hcharacter, ?_⟩
          split at h
          · obtain ⟨_, hprefix, h⟩ := bind_ok_iff.1 h
            refine ih h ?_
            obtain ⟨more, hmore⟩ := List.isPrefixOf_iff_prefix.1 (demand_eq_ok.1 hprefix)
            have hplaceholder : ∀ b ∈ originHostPlaceholder.tail, isPrintable b = true :=
              List.all_eq_true.1 (by decide)
            have hrest : rest = originHostPlaceholder.tail ++ more := by
              have htails := congrArg List.tail hmore
              exact htails.symm
            rw [hrest, ← List.length_tail, List.take_left]
            exact hplaceholder
          · split at h
            · cases h
            · exact ih h (List.forall_mem_nil _)

theorem environmentKey_bytes {key : Bytes} (h : canonicalEnvironmentKey key = true) :
    Printable key := by
  simp only [canonicalEnvironmentKey, Bool.and_eq_true, List.all_eq_true] at h
  intro b hb
  have hbyte := h.1.2 b hb
  rw [Bool.or_eq_true, Bool.or_eq_true, decide_eq_true_eq] at hbyte
  rcases hbyte with (hupper | hdigit) | hunderscore
  · simp only [isUpper, Bool.and_eq_true, decide_eq_true_eq, UInt8.le_iff_toNat_le,
      UInt8.reduceToNat] at hupper
    exact printable_of_bounds (by omega) (by omega)
  · exact isDigit_printable hdigit
  · rw [hunderscore]
    decide

theorem line_bytes {declared declared' : Claimed} {line : Bytes}
    (h : declareLine declared line = .ok declared') : line ≠ [] ∧ Printable line := by
  obtain ⟨⟨key, value⟩, hcut, h⟩ := bind_ok_iff.1 h
  obtain ⟨_, hkey, h⟩ := bind_ok_iff.1 h
  obtain ⟨_, hvalue, -⟩ := bind_ok_iff.1 h
  obtain ⟨_, -, hscan⟩ := bind_ok_iff.1 hvalue
  have hkey := environmentKey_bytes (demand_eq_ok.1 hkey)
  have hvalue := scan_bytes hscan (List.forall_mem_nil _)
  have hequals : isPrintable 0x3D = true := by decide
  rw [cut_append (found_eq_ok.1 hcut)]
  exact ⟨by simp, List.forall_mem_append.2 ⟨hkey, List.forall_mem_cons.2 ⟨hequals, hvalue⟩⟩⟩

theorem environment_bytes {environment secretKeys : List Bytes} {u : Unit}
    (h : validateEnvironment environment secretKeys = .ok u) :
    ∀ line ∈ environment, line ≠ [] ∧ Printable line := by
  obtain ⟨_, -, h⟩ := bind_ok_iff.1 h
  obtain ⟨_, -, h⟩ := bind_ok_iff.1 h
  obtain ⟨_, hlines, -⟩ := bind_ok_iff.1 h
  intro line hline
  obtain ⟨_, _, hstep⟩ := foldlM_passed hlines line hline
  exact line_bytes hstep

theorem environment_of_validate {document : Document} (h : document.validate = .ok ()) :
    validateEnvironment document.environment document.secretKeys = .ok () := by
  obtain ⟨_, -, h⟩ := bind_ok_iff.1 h
  obtain ⟨_, -, h⟩ := bind_ok_iff.1 h
  obtain ⟨_, -, h⟩ := bind_ok_iff.1 h
  obtain ⟨_, -, h⟩ := bind_ok_iff.1 h
  obtain ⟨_, -, henvironment⟩ := bind_ok_iff.1 h
  exact henvironment

/-- What is replaced in a text leaves nothing new but what replaces it. -/
theorem mem_replaceFrom {old new s : Bytes} {inside : Nat} {b : UInt8}
    (h : b ∈ replaceFrom old new inside s) : b ∈ new ∨ b ∈ s := by
  induction s generalizing inside with
  | nil => cases h
  | cons c s ih =>
      cases inside with
      | succ inside => exact (ih h).imp_right (List.mem_cons_of_mem _)
      | zero =>
          unfold replaceFrom at h
          split at h
          · rw [List.mem_append] at h
            exact h.elim Or.inl fun hrest => (ih hrest).imp_right (List.mem_cons_of_mem _)
          · rw [List.mem_cons] at h
            rcases h with rfl | h
            · exact Or.inr List.mem_cons_self
            · exact (ih h).imp_right (List.mem_cons_of_mem _)

/-- An interpolation leaves a line printable. -/
theorem replaceAll_bytes {origin line : Bytes} (horigin : Printable origin) (hline : Printable line) :
    Printable (replaceAll originHostPlaceholder origin line) := by
  intro b hb
  exact (mem_replaceFrom hb).elim (horigin b) (hline b)

end YourCloud.ServiceDefinition
