import YourCloud.App.Definition

/-!
# The diagnosis of a definition

A definition is diagnosed by one pass and validated by another, each with its own walk through
the mounts and the names.  Both are stated through the same rules: what an entry has to be on
its own, and what two entries may not be together.  What the diagnosis names is then what is
outside the contract, and nothing else.

## Main results

* `mountRefusals_mem`, `environmentRefusals_mem` — which entries are named.
* `holdsTheMounts_iff`, `holdsTheEnvironment_iff` — what the validation asks of the lists.
* `holdsTheContract_iff`, `mem_refusals` — what is named is what is outside the contract.
-/

namespace YourCloud.App.Definition

open YourCloud.Foundation
open YourCloud.ServiceDefinition (cut)

/-! ## Pairs of a list -/

section Lists

variable {α : Type}

/-- A relation holds of all pairs where it holds of each entry and those before it. -/
theorem pairwise_iff_split {r : α → α → Prop} {l : List α} :
    l.Pairwise r ↔ ∀ before entry after, l = before ++ entry :: after →
      ∀ other ∈ before, r other entry := by
  constructor
  · intro h before entry after hl other hother
    rw [hl, List.pairwise_append] at h
    exact h.2.2 other hother entry List.mem_cons_self
  · intro h
    induction l with
    | nil => exact List.Pairwise.nil
    | cons a l ih =>
        rw [List.pairwise_cons]
        constructor
        · intro b hb
          obtain ⟨before, after, rfl⟩ := List.append_of_mem hb
          exact h (a :: before) b after rfl a List.mem_cons_self
        · apply ih
          intro before entry after hl other hother
          exact h (a :: before) entry after (by rw [hl]; rfl) other
            (List.mem_cons_of_mem a hother)

/-- An entry of a list with what is before it: the first one, or one of the others. -/
theorem exists_split_cons {p : List α → α → Prop} {a : α} {l : List α} :
    (∃ before entry after, a :: l = before ++ entry :: after ∧ p before entry) ↔
      p [] a ∨ ∃ before entry after, l = before ++ entry :: after ∧ p (a :: before) entry := by
  constructor
  · rintro ⟨before, entry, after, hl, hp⟩
    cases before with
    | nil =>
        rw [List.nil_append, List.cons.injEq] at hl
        rw [hl.1]
        exact Or.inl hp
    | cons b before =>
        rw [List.cons_append, List.cons.injEq] at hl
        rw [hl.1]
        exact Or.inr ⟨before, entry, after, hl.2, hp⟩
  · rintro (hp | ⟨before, entry, after, hl, hp⟩)
    · exact ⟨[], a, l, rfl, hp⟩
    · exact ⟨a :: before, entry, after, by rw [hl]; rfl, hp⟩

end Lists

theorem mem_refuseIf {broken : Bool} {refusal r : ServiceDefinitionFieldRefusal} :
    r ∈ refuseIf broken refusal ↔ broken = true ∧ r = refusal := by
  cases broken with
  | false => simp [refuseIf]
  | true => simp [refuseIf]

/-- An entry apart from its index: the rules of the lists do not look at it. -/
abbrev Site := ServiceDefinitionField × Bytes

def Entry.site (entry : Entry Bytes) : Site := (entry.field, entry.content)

theorem entriesOf_site (field : ServiceDefinitionField) (l : List Bytes) :
    (entriesOf field l).map Entry.site = l.map (Prod.mk field) := by
  unfold entriesOf
  rw [List.map_map]
  have hsite : Entry.site ∘ (fun entry : Bytes × Nat => ⟨field, entry.2, entry.1⟩) =
      Prod.mk field ∘ Prod.fst := rfl
  rw [hsite, ← List.map_map, List.zipIdx_map_fst]

theorem field_of_mem_entriesOf {field : ServiceDefinitionField} {l : List Bytes}
    {entry : Entry Bytes} (h : entry ∈ entriesOf field l) : entry.field = field := by
  obtain ⟨pair, -, rfl⟩ := List.mem_map.1 h
  rfl

/-! ## Mounts -/

/-- Two paths that are one mount, or one inside the other. -/
def Overlap (path other : Bytes) : Prop :=
  ∃ segments others, canonicalContainerPath path = some segments ∧
    canonicalContainerPath other = some others ∧ overlapping segments others = true

theorem overlapping_comm (entry other : List Bytes) :
    overlapping entry other = overlapping other entry := by
  unfold overlapping
  exact Bool.or_comm _ _

theorem Overlap.symm {path other : Bytes} (h : Overlap path other) : Overlap other path := by
  obtain ⟨segments, others, hpath, hother, hoverlap⟩ := h
  exact ⟨others, segments, hother, hpath, by rwa [overlapping_comm]⟩

/-- The entries that overlap one before them are named. -/
theorem overlapRefusals_mem {r : ServiceDefinitionFieldRefusal} (l : List (Entry Bytes))
    (done : List (Entry Bytes)) :
    r ∈ overlapRefusals (done.filterMap acceptedMount) (l.filterMap acceptedMount) ↔
      ∃ before entry after, l = before ++ entry :: after ∧
        (∃ other ∈ done ++ before, Overlap entry.content other.content) ∧
        r = entry.refuse .mountsOverlap := by
  induction l generalizing done with
  | nil => simp [overlapRefusals]
  | cons entry l ih =>
      have hnext := ih (done ++ [entry])
      have hsplit := exists_split_cons (a := entry) (l := l)
        (p := fun before entry => (∃ other ∈ done ++ before, Overlap entry.content other.content) ∧
          r = entry.refuse .mountsOverlap)
      rw [hsplit, List.append_nil]
      rw [List.filterMap_append] at hnext
      simp only [List.append_assoc, List.singleton_append] at hnext
      cases haccepted : acceptedMount entry with
      | none =>
          rw [List.filterMap_cons_none haccepted]
          rw [List.filterMap_cons_none haccepted, List.filterMap_nil, List.append_nil] at hnext
          rw [hnext]
          have hnot : ∀ other, ¬ Overlap entry.content other := by
            rintro other ⟨segments, -, hpath, -, -⟩
            unfold acceptedMount at haccepted
            rw [hpath] at haccepted
            cases haccepted
          simp [hnot]
      | some accepted =>
          rw [List.filterMap_cons_some haccepted]
          rw [List.filterMap_cons_some haccepted, List.filterMap_nil] at hnext
          rw [overlapRefusals, List.mem_append, mem_refuseIf, hnext]
          obtain ⟨segments, hpath, rfl⟩ := Option.map_eq_some_iff.1 haccepted
          have hany : ((done.filterMap acceptedMount).any
              fun other => overlapping segments other.content) = true ↔
                ∃ other ∈ done, Overlap entry.content other.content := by
            rw [List.any_eq_true]
            constructor
            · rintro ⟨other, hother, hoverlap⟩
              obtain ⟨origin, horigin, haccepted'⟩ := List.mem_filterMap.1 hother
              obtain ⟨others, hothers, rfl⟩ := Option.map_eq_some_iff.1 haccepted'
              exact ⟨origin, horigin, segments, others, hpath, hothers, hoverlap⟩
            · rintro ⟨origin, horigin, segments', others, hpath', hothers, hoverlap⟩
              rw [hpath, Option.some.injEq] at hpath'
              rw [← hpath'] at hoverlap
              refine ⟨⟨origin.field, origin.index, others⟩, List.mem_filterMap.2
                ⟨origin, horigin, ?_⟩, hoverlap⟩
              unfold acceptedMount
              rw [hothers]
              rfl
          rw [hany]
          rfl

theorem apart_iff {l : List (List Bytes)} :
    apart l = true ↔ l.Pairwise fun entry other => overlapping entry other = false := by
  induction l with
  | nil => simp [apart]
  | cons entry l ih =>
      rw [apart, Bool.and_eq_true, ih, List.pairwise_cons, List.all_eq_true]
      simp

/-- The segments of a path overlap none of those of others where the paths do not. -/
theorem apart_first {path : Bytes} {segments : List Bytes}
    (hpath : canonicalContainerPath path = some segments) {l : List Bytes}
    {rest : List (List Bytes)} (hrest : l.mapM canonicalContainerPath = some rest) :
    (∀ others ∈ rest, overlapping segments others = false) ↔
      ∀ other ∈ l, ¬ Overlap path other := by
  induction l generalizing rest with
  | nil =>
      rw [← Option.some.inj hrest]
      simp
  | cons other l ih =>
      rw [List.mapM_cons] at hrest
      obtain ⟨others, hother, hrest⟩ := Option.bind_eq_some_iff.1 hrest
      obtain ⟨more, hmore, hrest⟩ := Option.bind_eq_some_iff.1 hrest
      rw [← Option.some.inj hrest, List.forall_mem_cons, List.forall_mem_cons, ih hmore]
      simp [Overlap, hpath, hother]

theorem mapM_apart_iff {l : List Bytes} {declared : List (List Bytes)}
    (h : l.mapM canonicalContainerPath = some declared) :
    apart declared = true ↔ l.Pairwise fun path other => ¬ Overlap path other := by
  rw [apart_iff]
  induction l generalizing declared with
  | nil =>
      rw [← Option.some.inj h]
      exact iff_of_true List.Pairwise.nil List.Pairwise.nil
  | cons path l ih =>
      rw [List.mapM_cons] at h
      obtain ⟨segments, hpath, h⟩ := Option.bind_eq_some_iff.1 h
      obtain ⟨rest, hrest, h⟩ := Option.bind_eq_some_iff.1 h
      rw [← Option.some.inj h, List.pairwise_cons, List.pairwise_cons, ih hrest,
        apart_first hpath hrest]

theorem mapM_isSome_iff {l : List Bytes} :
    (∃ declared, l.mapM canonicalContainerPath = some declared) ↔
      ∀ path ∈ l, (canonicalContainerPath path).isSome = true := by
  induction l with
  | nil => simp
  | cons path l ih =>
      rw [List.forall_mem_cons, ← ih, List.mapM_cons]
      cases hpath : canonicalContainerPath path with
      | none => simp
      | some segments =>
          cases hrest : l.mapM canonicalContainerPath with
          | none => simp
          | some rest => simp

/-- The rule of a mount on its own. -/
def MountHolds (site : Site) : Prop := (canonicalContainerPath site.2).isSome = true

/-- The rule between two mounts. -/
def MountsClash (site other : Site) : Prop := Overlap other.2 site.2

def ServiceDefinitionDocument.mountSites (document : ServiceDefinitionDocument) : List Site :=
  document.volumes.map (Prod.mk .volumes) ++ document.tmpfs.map (Prod.mk .tmpfs)

theorem mounts_site (document : ServiceDefinitionDocument) :
    document.mounts.map Entry.site = document.mountSites := by
  unfold ServiceDefinitionDocument.mounts ServiceDefinitionDocument.mountSites
  rw [List.map_append, entriesOf_site, entriesOf_site]

/-- What the validation asks of the two lists of paths. -/
theorem holdsTheMounts_iff {document : ServiceDefinitionDocument} :
    document.holdsTheMounts = true ↔
      document.volumes.length ≤ MAX_SERVICE_VOLUMES ∧ document.tmpfs.length ≤ MAX_SERVICE_TMPFS ∧
      (∀ site ∈ document.mountSites, MountHolds site) ∧
      document.mountSites.Pairwise fun site other => ¬ MountsClash site other := by
  have hpaths : document.mountSites.map Prod.snd = document.volumes ++ document.tmpfs := by
    simp [ServiceDefinitionDocument.mountSites, Function.comp_def]
  have hholds : (∀ site ∈ document.mountSites, MountHolds site) ↔
      ∀ path ∈ document.volumes ++ document.tmpfs, (canonicalContainerPath path).isSome = true := by
    rw [← hpaths, List.forall_mem_map]
    rfl
  have hclash : (document.mountSites.Pairwise fun site other => ¬ MountsClash site other) ↔
      (document.volumes ++ document.tmpfs).Pairwise fun path other => ¬ Overlap path other := by
    rw [← hpaths, List.pairwise_map]
    apply List.Pairwise.iff
    intro site other
    exact not_congr ⟨Overlap.symm, Overlap.symm⟩
  rw [hholds, hclash, ← mapM_isSome_iff]
  unfold ServiceDefinitionDocument.holdsTheMounts
  rw [Bool.and_eq_true, Bool.and_eq_true, decide_eq_true_eq, decide_eq_true_eq, and_assoc]
  cases hdeclared : (document.volumes ++ document.tmpfs).mapM canonicalContainerPath with
  | none => simp
  | some declared =>
      dsimp only
      rw [mapM_apart_iff hdeclared]
      simp

/-- Which refusals concern the two lists of paths. -/
theorem mountRefusals_mem {document : ServiceDefinitionDocument}
    {r : ServiceDefinitionFieldRefusal} :
    r ∈ document.mountRefusals ↔
      (MAX_SERVICE_VOLUMES < document.volumes.length ∧ r = ⟨.volumes, none, .listTooLong⟩) ∨
      (MAX_SERVICE_TMPFS < document.tmpfs.length ∧ r = ⟨.tmpfs, none, .listTooLong⟩) ∨
      (∃ entry ∈ document.mounts, ¬ MountHolds entry.site ∧
        r = entry.refuse .containerPathGrammar) ∨
      ∃ before entry after, document.mounts = before ++ entry :: after ∧
        (∃ other ∈ before, MountsClash other.site entry.site) ∧
        r = entry.refuse .mountsOverlap := by
  have hoverlap := overlapRefusals_mem (r := r) document.mounts []
  simp only [List.filterMap_nil, List.nil_append] at hoverlap
  unfold ServiceDefinitionDocument.mountRefusals
  rw [List.mem_append, List.mem_append, List.mem_append, mem_refuseIf, mem_refuseIf,
    List.mem_flatMap, hoverlap]
  simp [mem_refuseIf, acceptedMount, refusalOf, or_assoc, MountHolds, MountsClash, Entry.site]

/-! ## Keys -/

/-- The name that an entry declares, where it is one. -/
def siteKey : Site → Option Bytes
  | (.environment, line) => ((cut 0x3D line).map Prod.fst).filter canonicalEnvironmentKey
  | (_, key) => (some key).filter canonicalEnvironmentKey

/-- The rule of a line or of a secret on its own. -/
def KeyHolds : Site → Prop
  | (.environment, line) => ∃ key value, cut 0x3D line = some (key, value) ∧
      canonicalEnvironmentKey key = true ∧ canonicalEnvironmentValue value = true
  | (_, key) => canonicalEnvironmentKey key = true

/-- The rule between two names. -/
def KeysClash (site other : Site) : Prop := ∃ key, siteKey site = some key ∧ siteKey other = some key

/-- The two lists of keys, as one sequence. -/
def ServiceDefinitionDocument.named (document : ServiceDefinitionDocument) : List (Entry Bytes) :=
  entriesOf .environment document.environment ++ entriesOf .secretKeys document.secretKeys

def ServiceDefinitionDocument.namedSites (document : ServiceDefinitionDocument) : List Site :=
  document.environment.map (Prod.mk .environment) ++ document.secretKeys.map (Prod.mk .secretKeys)

theorem named_site (document : ServiceDefinitionDocument) :
    document.named.map Entry.site = document.namedSites := by
  unfold ServiceDefinitionDocument.named ServiceDefinitionDocument.namedSites
  rw [List.map_append, entriesOf_site, entriesOf_site]

/-- Either step of the validation, on the one sequence. -/
def declareSite (declared : List Bytes) : Site → Option (List Bytes)
  | (.environment, line) => declareLine declared line
  | (_, key) => declareSecret declared key

theorem filter_some_key {key : Bytes} :
    (some key).filter canonicalEnvironmentKey =
      if canonicalEnvironmentKey key = true then some key else none := rfl

/-- A site is declared where it holds and its name is new. -/
theorem declareSite_spec (declared : List Bytes) (site : Site) :
    (KeyHolds site ∧ ∃ key, siteKey site = some key ∧ declareSite declared site =
      if key ∈ declared then none else some (declared ++ [key])) ∨
    (¬ KeyHolds site ∧ declareSite declared site = none) := by
  have hsecret : ∀ key, (canonicalEnvironmentKey key = true ∧ ∃ own,
      (some key).filter canonicalEnvironmentKey = some own ∧ declareSecret declared key =
        if own ∈ declared then none else some (declared ++ [own])) ∨
      (¬ canonicalEnvironmentKey key = true ∧ declareSecret declared key = none) := by
    intro key
    unfold declareSecret
    rw [filter_some_key]
    cases hkey : canonicalEnvironmentKey key with
    | false => simp
    | true => simp
  obtain ⟨field, content⟩ := site
  cases field with
  | environment =>
      simp only [KeyHolds, siteKey, declareSite, declareLine]
      cases hcut : cut 0x3D content with
      | none => simp
      | some parts =>
          obtain ⟨key, value⟩ := parts
          simp only [Option.map_some, filter_some_key]
          cases hkey : canonicalEnvironmentKey key with
          | false => simp [hkey]
          | true =>
              cases hvalue : canonicalEnvironmentValue value with
              | false => simp [hvalue]
              | true => simp [hkey, hvalue]
  | _ => exact hsecret content

/-- What a run of the validation over a sequence asks of it. -/
theorem foldlM_declareSite {l : List Site} {declared : List Bytes} :
    (l.foldlM declareSite declared).isSome = true ↔
      (∀ site ∈ l, KeyHolds site ∧ ∀ key, siteKey site = some key → key ∉ declared) ∧
      l.Pairwise fun site other => ¬ KeysClash site other := by
  induction l generalizing declared with
  | nil => simp
  | cons site l ih =>
      rw [List.foldlM_cons, List.forall_mem_cons, List.pairwise_cons]
      rcases declareSite_spec declared site with ⟨hholds, key, hkey, hstep⟩ | ⟨hholds, hstep⟩
      · have hnew : (∀ own, siteKey site = some own → own ∉ declared) ↔ key ∉ declared := by
          simp [hkey]
        have hclash : ∀ other, ¬ KeysClash site other ↔ siteKey other ≠ some key := by
          intro other
          simp [KeysClash, hkey]
        rw [hstep, hnew]
        simp only [hclash]
        by_cases hmem : key ∈ declared
        · simp [hmem]
        · rw [if_neg hmem, Option.bind_eq_bind, Option.bind_some, ih]
          simp only [List.mem_append, List.mem_singleton, not_or]
          constructor
          · rintro ⟨hall, hpairs⟩
            refine ⟨⟨⟨hholds, hmem⟩, fun other hother =>
              ⟨(hall other hother).1, fun own hown => ((hall other hother).2 own hown).1⟩⟩, ?_, hpairs⟩
            intro other hother hsame
            exact ((hall other hother).2 key hsame).2 rfl
          · rintro ⟨⟨-, hall⟩, hfirst, hpairs⟩
            refine ⟨fun other hother => ⟨(hall other hother).1, fun own hown => ⟨?_, ?_⟩⟩, hpairs⟩
            · exact (hall other hother).2 own hown
            · rintro rfl
              exact hfirst other hother hown
      · rw [hstep]
        simp [hholds]

/-- What the validation asks of the two lists of keys. -/
theorem holdsTheEnvironment_iff {document : ServiceDefinitionDocument} :
    document.holdsTheEnvironment = true ↔
      document.environment.length ≤ MAX_SERVICE_ENVIRONMENT_LINES ∧
      document.secretKeys.length ≤ MAX_SERVICE_SECRET_KEYS ∧
      (∀ site ∈ document.namedSites, KeyHolds site) ∧
      document.namedSites.Pairwise fun site other => ¬ KeysClash site other := by
  have hfold : ((document.environment.foldlM declareLine []).bind fun declared =>
      document.secretKeys.foldlM declareSecret declared) =
        document.namedSites.foldlM declareSite [] := by
    unfold ServiceDefinitionDocument.namedSites
    rw [List.foldlM_append, List.foldlM_map, Option.bind_eq_bind]
    congr 1
    funext declared
    rw [List.foldlM_map]
    rfl
  unfold ServiceDefinitionDocument.holdsTheEnvironment
  rw [hfold, Bool.and_eq_true, Bool.and_eq_true, decide_eq_true_eq, decide_eq_true_eq, and_assoc,
    foldlM_declareSite]
  simp

/-- Either step of the diagnosis, on the one sequence. -/
def siteRefusals (declared : List Bytes) (entry : Entry Bytes) :
    List ServiceDefinitionFieldRefusal × List Bytes :=
  match entry.field with
  | .environment => lineRefusals declared entry
  | _ => secretRefusals declared entry

/-- What is refused of a line or of a secret, whatever else is declared. -/
inductive KeyBreaks (entry : Entry Bytes) : ServiceDefinitionFieldRefusal → Prop where
  | shape (hfield : entry.field = .environment) (hcut : cut 0x3D entry.content = none) :
      KeyBreaks entry (entry.refuse .environmentLineShape)
  | lineKey {key value : Bytes} (hfield : entry.field = .environment)
      (hcut : cut 0x3D entry.content = some (key, value))
      (hkey : canonicalEnvironmentKey key = false) : KeyBreaks entry (entry.refuse .keyGrammar)
  | lineValue {key value : Bytes} (hfield : entry.field = .environment)
      (hcut : cut 0x3D entry.content = some (key, value))
      (hvalue : canonicalEnvironmentValue value = false) :
      KeyBreaks entry (entry.refuse .valueGrammar)
  | secret (hfield : entry.field ≠ .environment)
      (hkey : canonicalEnvironmentKey entry.content = false) :
      KeyBreaks entry (entry.refuse .keyGrammar)

/-- The refusals of a key, and the names declared after it. -/
theorem keyRefusals_spec (declared : List Bytes) (entry : Entry Bytes) (key : Bytes) :
    (∀ r, r ∈ (keyRefusals declared entry key).1 ↔
      (canonicalEnvironmentKey key = false ∧ r = entry.refuse .keyGrammar) ∨
      (∃ own ∈ declared, (some key).filter canonicalEnvironmentKey = some own) ∧
        r = entry.refuse .keyAlreadyDeclared) ∧
    ∀ own, own ∈ (keyRefusals declared entry key).2 ↔
      own ∈ declared ∨ (some key).filter canonicalEnvironmentKey = some own := by
  unfold keyRefusals
  rw [filter_some_key]
  cases hkey : canonicalEnvironmentKey key with
  | false => simp
  | true =>
      by_cases hmem : key ∈ declared
      · simp [hmem]
      · simp [hmem, eq_comm]

/-- The refusals of one entry, and the names declared after it. -/
theorem siteRefusals_spec (declared : List Bytes) (entry : Entry Bytes) :
    (∀ r, r ∈ (siteRefusals declared entry).1 ↔ KeyBreaks entry r ∨
      (∃ key ∈ declared, siteKey entry.site = some key) ∧ r = entry.refuse .keyAlreadyDeclared) ∧
    ∀ key, key ∈ (siteRefusals declared entry).2 ↔ key ∈ declared ∨ siteKey entry.site = some key := by
  have hsecret : entry.field ≠ .environment → siteRefusals declared entry =
      keyRefusals declared entry entry.content ∧
      siteKey entry.site = (some entry.content).filter canonicalEnvironmentKey := by
    obtain ⟨field, index, content⟩ := entry
    cases field with
    | environment => simp
    | _ => exact fun _ => ⟨rfl, rfl⟩
  by_cases hfield : entry.field = .environment
  · have hsite : siteRefusals declared entry = lineRefusals declared entry := by
      unfold siteRefusals
      rw [hfield]
    have hkey : siteKey entry.site =
        ((cut 0x3D entry.content).map Prod.fst).filter canonicalEnvironmentKey := by
      unfold Entry.site
      rw [hfield]
      rfl
    rw [hsite, hkey, lineRefusals]
    cases hcut : cut 0x3D entry.content with
    | none =>
        constructor
        · intro r
          constructor
          · intro hr
            rw [List.mem_singleton.1 hr]
            exact Or.inl (KeyBreaks.shape hfield hcut)
          · rintro (hbreaks | ⟨⟨own, -, hown⟩, -⟩)
            · cases hbreaks with
              | shape _ _ => exact List.mem_singleton.2 rfl
              | lineKey _ hcut' _ => simp [hcut] at hcut'
              | lineValue _ hcut' _ => simp [hcut] at hcut'
              | secret hfield' _ => exact absurd hfield hfield'
            · simp at hown
        · simp
    | some parts =>
        obtain ⟨key, value⟩ := parts
        dsimp only [Option.map_some]
        refine ⟨fun r => ?_, (keyRefusals_spec declared entry key).2⟩
        rw [List.mem_append, (keyRefusals_spec declared entry key).1, mem_refuseIf]
        constructor
        · rintro ((⟨hgrammar, rfl⟩ | hdeclared) | ⟨hvalue, rfl⟩)
          · exact Or.inl (KeyBreaks.lineKey hfield hcut hgrammar)
          · exact Or.inr hdeclared
          · exact Or.inl (KeyBreaks.lineValue hfield hcut (by simpa using hvalue))
        · rintro (hbreaks | hdeclared)
          · cases hbreaks with
            | shape _ hcut' => simp [hcut] at hcut'
            | lineKey _ hcut' hgrammar =>
                obtain ⟨rfl, rfl⟩ : key = _ ∧ value = _ := by simpa [hcut] using hcut'
                exact Or.inl (Or.inl ⟨hgrammar, rfl⟩)
            | lineValue _ hcut' hvalue =>
                obtain ⟨rfl, rfl⟩ : key = _ ∧ value = _ := by simpa [hcut] using hcut'
                exact Or.inr ⟨by simp [hvalue], rfl⟩
            | secret hfield' _ => exact absurd hfield hfield'
          · exact Or.inl (Or.inr hdeclared)
  · rw [(hsecret hfield).1, (hsecret hfield).2]
    refine ⟨fun r => ?_, (keyRefusals_spec declared entry entry.content).2⟩
    rw [(keyRefusals_spec declared entry entry.content).1]
    apply or_congr_left
    constructor
    · rintro ⟨hgrammar, rfl⟩
      exact KeyBreaks.secret hfield hgrammar
    · intro hbreaks
      cases hbreaks with
      | shape hfield' _ => exact absurd hfield' hfield
      | lineKey hfield' _ _ => exact absurd hfield' hfield
      | lineValue hfield' _ _ => exact absurd hfield' hfield
      | secret _ hgrammar => exact ⟨hgrammar, rfl⟩

theorem walkEntries_append {refusals : List Bytes → Entry Bytes →
      List ServiceDefinitionFieldRefusal × List Bytes} (l k : List (Entry Bytes))
    (declared : List Bytes) :
    walkEntries refusals declared (l ++ k) =
      ((walkEntries refusals declared l).1 ++
        (walkEntries refusals (walkEntries refusals declared l).2 k).1,
        (walkEntries refusals (walkEntries refusals declared l).2 k).2) := by
  induction l generalizing declared with
  | nil => simp [walkEntries]
  | cons entry l ih => simp [walkEntries, ih]

theorem walkEntries_congr (refusals others : List Bytes → Entry Bytes →
      List ServiceDefinitionFieldRefusal × List Bytes) {l : List (Entry Bytes)}
    (h : ∀ entry ∈ l, ∀ declared, refusals declared entry = others declared entry)
    (declared : List Bytes) : walkEntries refusals declared l = walkEntries others declared l := by
  induction l generalizing declared with
  | nil => rfl
  | cons entry l ih =>
      have hrest := ih fun other hother => h other (List.mem_cons_of_mem entry hother)
      rw [walkEntries, walkEntries, h entry List.mem_cons_self, hrest]

/-- The two lists are diagnosed as one. -/
theorem environmentRefusals_eq (document : ServiceDefinitionDocument) :
    document.environmentRefusals =
      refuseIf (MAX_SERVICE_ENVIRONMENT_LINES < document.environment.length)
          (refusalOf .environment none .listTooLong) ++
        refuseIf (MAX_SERVICE_SECRET_KEYS < document.secretKeys.length)
          (refusalOf .secretKeys none .listTooLong) ++
        (walkEntries siteRefusals [] document.named).1 := by
  have hlines := walkEntries_congr lineRefusals siteRefusals (l :=
    entriesOf .environment document.environment) (fun entry hentry declared => by
      unfold siteRefusals
      rw [field_of_mem_entriesOf hentry])
  have hsecrets := walkEntries_congr secretRefusals siteRefusals (l :=
    entriesOf .secretKeys document.secretKeys) (fun entry hentry declared => by
      unfold siteRefusals
      rw [field_of_mem_entriesOf hentry])
  unfold ServiceDefinitionDocument.environmentRefusals ServiceDefinitionDocument.named
  rw [walkEntries_append]
  simp only [hlines, hsecrets, List.append_assoc]

/-- Which refusals concern a sequence of names: those of each on its own, and the later of two
that clash. -/
theorem walkEntries_mem {r : ServiceDefinitionFieldRefusal} {l : List (Entry Bytes)}
    {declared : List Bytes} :
    r ∈ (walkEntries siteRefusals declared l).1 ↔
      (∃ entry ∈ l, KeyBreaks entry r) ∨
      ∃ before entry after, l = before ++ entry :: after ∧
        (∃ key, (key ∈ declared ∨ ∃ other ∈ before, siteKey other.site = some key) ∧
          siteKey entry.site = some key) ∧ r = entry.refuse .keyAlreadyDeclared := by
  induction l generalizing declared with
  | nil => simp [walkEntries]
  | cons entry l ih =>
      have hspec := siteRefusals_spec declared entry
      have hsplit := exists_split_cons (a := entry) (l := l)
        (p := fun before entry => (∃ key, (key ∈ declared ∨ ∃ other ∈ before,
          siteKey other.site = some key) ∧ siteKey entry.site = some key) ∧
          r = entry.refuse .keyAlreadyDeclared)
      rw [hsplit, walkEntries, List.mem_append, hspec.1, ih]
      simp only [hspec.2, List.exists_mem_cons_iff, List.not_mem_nil, false_and, exists_false,
        or_false, or_assoc]
      exact or_congr_right or_left_comm

/-- Which refusals concern the two lists of keys. -/
theorem environmentRefusals_mem {document : ServiceDefinitionDocument}
    {r : ServiceDefinitionFieldRefusal} :
    r ∈ document.environmentRefusals ↔
      (MAX_SERVICE_ENVIRONMENT_LINES < document.environment.length ∧
        r = ⟨.environment, none, .listTooLong⟩) ∨
      (MAX_SERVICE_SECRET_KEYS < document.secretKeys.length ∧
        r = ⟨.secretKeys, none, .listTooLong⟩) ∨
      (∃ entry ∈ document.named, KeyBreaks entry r) ∨
      ∃ before entry after, document.named = before ++ entry :: after ∧
        (∃ other ∈ before, KeysClash other.site entry.site) ∧
        r = entry.refuse .keyAlreadyDeclared := by
  rw [environmentRefusals_eq, List.mem_append, List.mem_append, mem_refuseIf, mem_refuseIf,
    walkEntries_mem]
  have hclash : ∀ (before : List (Entry Bytes)) (entry : Entry Bytes),
      (∃ key, (key ∈ ([] : List Bytes) ∨ ∃ other ∈ before, siteKey other.site = some key) ∧
        siteKey entry.site = some key) ↔ ∃ other ∈ before, KeysClash other.site entry.site := by
    intro before entry
    simp only [List.not_mem_nil, false_or, KeysClash]
    constructor
    · rintro ⟨key, ⟨other, hother, hown⟩, hkey⟩
      exact ⟨other, hother, key, hown, hkey⟩
    · rintro ⟨other, hother, key, hown, hkey⟩
      exact ⟨key, ⟨other, hother, hown⟩, hkey⟩
  simp only [hclash, decide_eq_true_eq, refusalOf, or_assoc]

/-! ## What is named -/

/-- What is outside the contract, field by field and entry by entry. -/
inductive Breaks (document : ServiceDefinitionDocument) : ServiceDefinitionFieldRefusal → Prop where
  | schemaVersion (h : document.schemaVersion ≠ SERVICE_DEFINITION_SCHEMA_VERSION) :
      Breaks document ⟨.schemaVersion, none, .unknownSchemaVersion⟩
  | slugGrammar (h : canonicalServiceSlug document.slug = false) :
      Breaks document ⟨.slug, none, .slugGrammar⟩
  | slugReserved (h : document.slug ∈ RESERVED_SERVICE_SLUGS) :
      Breaks document ⟨.slug, none, .slugReserved⟩
  | imageRepositoryPinned (h : canonicalImageRepository document.imageRepository = false)
      (hpinned : imageRepositoryNamesOneImage document.imageRepository = true) :
      Breaks document ⟨.imageRepository, none, .imageRepositoryPinned⟩
  | imageRepositoryGrammar (h : canonicalImageRepository document.imageRepository = false)
      (hpinned : imageRepositoryNamesOneImage document.imageRepository = false) :
      Breaks document ⟨.imageRepository, none, .imageRepositoryGrammar⟩
  | containerPort (h : ¬ (MIN_CONTAINER_PORT ≤ document.containerPort ∧
      document.containerPort ≤ MAX_CONTAINER_PORT)) :
      Breaks document ⟨.containerPort, none, .containerPortRange⟩
  | volumes (h : MAX_SERVICE_VOLUMES < document.volumes.length) :
      Breaks document ⟨.volumes, none, .listTooLong⟩
  | tmpfs (h : MAX_SERVICE_TMPFS < document.tmpfs.length) :
      Breaks document ⟨.tmpfs, none, .listTooLong⟩
  | environment (h : MAX_SERVICE_ENVIRONMENT_LINES < document.environment.length) :
      Breaks document ⟨.environment, none, .listTooLong⟩
  | secretKeys (h : MAX_SERVICE_SECRET_KEYS < document.secretKeys.length) :
      Breaks document ⟨.secretKeys, none, .listTooLong⟩
  | path {entry : Entry Bytes} (hentry : entry ∈ document.mounts) (h : ¬ MountHolds entry.site) :
      Breaks document (entry.refuse .containerPathGrammar)
  | overlap {before after : List (Entry Bytes)} {entry other : Entry Bytes}
      (hentry : document.mounts = before ++ entry :: after) (hother : other ∈ before)
      (h : MountsClash other.site entry.site) : Breaks document (entry.refuse .mountsOverlap)
  | key {entry : Entry Bytes} {r : ServiceDefinitionFieldRefusal} (hentry : entry ∈ document.named)
      (h : KeyBreaks entry r) : Breaks document r
  | declared {before after : List (Entry Bytes)} {entry other : Entry Bytes}
      (hentry : document.named = before ++ entry :: after) (hother : other ∈ before)
      (h : KeysClash other.site entry.site) : Breaks document (entry.refuse .keyAlreadyDeclared)

/-- Every refusal but that of the size. -/
def ServiceDefinitionDocument.contractRefusals (document : ServiceDefinitionDocument) :
    List ServiceDefinitionFieldRefusal :=
  document.fieldRefusals ++ document.mountRefusals ++ document.environmentRefusals

theorem reserved_canonical {slug : Bytes} (h : slug ∈ RESERVED_SERVICE_SLUGS) :
    canonicalServiceSlug slug = true := by
  have hall : ∀ reserved ∈ RESERVED_SERVICE_SLUGS, canonicalServiceSlug reserved = true := by decide
  exact hall slug h

theorem fieldRefusals_mem {document : ServiceDefinitionDocument}
    {r : ServiceDefinitionFieldRefusal} :
    r ∈ document.fieldRefusals ↔
      (document.schemaVersion ≠ SERVICE_DEFINITION_SCHEMA_VERSION ∧
        r = ⟨.schemaVersion, none, .unknownSchemaVersion⟩) ∨
      (canonicalServiceSlug document.slug = false ∧ r = ⟨.slug, none, .slugGrammar⟩) ∨
      (document.slug ∈ RESERVED_SERVICE_SLUGS ∧ r = ⟨.slug, none, .slugReserved⟩) ∨
      (canonicalImageRepository document.imageRepository = false ∧
        r = ⟨.imageRepository, none, if imageRepositoryNamesOneImage document.imageRepository
          then .imageRepositoryPinned else .imageRepositoryGrammar⟩) ∨
      (¬ (MIN_CONTAINER_PORT ≤ document.containerPort ∧
        document.containerPort ≤ MAX_CONTAINER_PORT) ∧
        r = ⟨.containerPort, none, .containerPortRange⟩) := by
  have hslug : (r ∈ if canonicalServiceSlug document.slug = false
      then [refusalOf .slug none .slugGrammar]
      else refuseIf (document.slug ∈ RESERVED_SERVICE_SLUGS) (refusalOf .slug none .slugReserved)) ↔
      (canonicalServiceSlug document.slug = false ∧ r = ⟨.slug, none, .slugGrammar⟩) ∨
      (document.slug ∈ RESERVED_SERVICE_SLUGS ∧ r = ⟨.slug, none, .slugReserved⟩) := by
    by_cases hgrammar : canonicalServiceSlug document.slug = false
    · have hreserved : document.slug ∉ RESERVED_SERVICE_SLUGS := by
        intro hreserved
        simp [reserved_canonical hreserved] at hgrammar
      simp [hgrammar, hreserved, refusalOf]
    · simp [hgrammar, mem_refuseIf, refusalOf]
  have hport : (!(decide (MIN_CONTAINER_PORT ≤ document.containerPort) &&
      decide (document.containerPort ≤ MAX_CONTAINER_PORT))) = true ↔
      ¬ (MIN_CONTAINER_PORT ≤ document.containerPort ∧
        document.containerPort ≤ MAX_CONTAINER_PORT) := by
    rw [← Bool.decide_and, Bool.not_eq_true', decide_eq_false_iff_not]
  unfold ServiceDefinitionDocument.fieldRefusals
  rw [List.mem_append, List.mem_append, List.mem_append, mem_refuseIf, hslug, mem_refuseIf,
    mem_refuseIf, hport]
  simp only [decide_eq_true_eq, Bool.not_eq_true', refusalOf, or_assoc]

/-- What is refused before the size is looked at. -/
theorem contractRefusals_mem {document : ServiceDefinitionDocument}
    {r : ServiceDefinitionFieldRefusal} :
    r ∈ document.contractRefusals ↔ Breaks document r := by
  unfold ServiceDefinitionDocument.contractRefusals
  rw [List.mem_append, List.mem_append, fieldRefusals_mem, mountRefusals_mem,
    environmentRefusals_mem]
  constructor
  · rintro (((⟨h, rfl⟩ | ⟨h, rfl⟩ | ⟨h, rfl⟩ | ⟨h, rfl⟩ | ⟨h, rfl⟩) |
      (⟨h, rfl⟩ | ⟨h, rfl⟩ | ⟨entry, hentry, h, rfl⟩ | ⟨before, entry, after, hentry, h, rfl⟩)) |
      (⟨h, rfl⟩ | ⟨h, rfl⟩ | ⟨entry, hentry, h⟩ | ⟨before, entry, after, hentry, h, rfl⟩))
    · exact Breaks.schemaVersion h
    · exact Breaks.slugGrammar h
    · exact Breaks.slugReserved h
    · cases hpinned : imageRepositoryNamesOneImage document.imageRepository with
      | false => exact Breaks.imageRepositoryGrammar h hpinned
      | true => exact Breaks.imageRepositoryPinned h hpinned
    · exact Breaks.containerPort h
    · exact Breaks.volumes h
    · exact Breaks.tmpfs h
    · exact Breaks.path hentry h
    · obtain ⟨other, hother, hclash⟩ := h
      exact Breaks.overlap hentry hother hclash
    · exact Breaks.environment h
    · exact Breaks.secretKeys h
    · exact Breaks.key hentry h
    · obtain ⟨other, hother, hclash⟩ := h
      exact Breaks.declared hentry hother hclash
  · intro h
    cases h with
    | schemaVersion h => simp [h]
    | slugGrammar h => simp [h]
    | slugReserved h => simp [h]
    | imageRepositoryPinned h hpinned => simp [h, hpinned]
    | imageRepositoryGrammar h hpinned => simp [h, hpinned]
    | containerPort h => exact Or.inl (Or.inl (Or.inr (Or.inr (Or.inr (Or.inr ⟨h, rfl⟩)))))
    | volumes h => exact Or.inl (Or.inr (Or.inl ⟨h, rfl⟩))
    | tmpfs h => exact Or.inl (Or.inr (Or.inr (Or.inl ⟨h, rfl⟩)))
    | environment h => exact Or.inr (Or.inl ⟨h, rfl⟩)
    | secretKeys h => exact Or.inr (Or.inr (Or.inl ⟨h, rfl⟩))
    | path hentry h => exact Or.inl (Or.inr (Or.inr (Or.inr (Or.inl ⟨_, hentry, h, rfl⟩))))
    | overlap hentry hother h =>
        exact Or.inl (Or.inr (Or.inr (Or.inr (Or.inr ⟨_, _, _, hentry, ⟨_, hother, h⟩, rfl⟩))))
    | key hentry h => exact Or.inr (Or.inr (Or.inr (Or.inl ⟨_, hentry, h⟩)))
    | declared hentry hother h =>
        exact Or.inr (Or.inr (Or.inr (Or.inr ⟨_, _, _, hentry, ⟨_, hother, h⟩, rfl⟩)))

/-- No two sites of a sequence clash where none is held against one before it. -/
theorem pairwise_sites {clash : Site → Site → Prop} {l : List (Entry Bytes)} :
    ((l.map Entry.site).Pairwise fun site other => ¬ clash site other) ↔
      ∀ before entry after, l = before ++ entry :: after →
        ∀ other ∈ before, ¬ clash other.site entry.site := by
  rw [List.pairwise_map, pairwise_iff_split]

theorem keyHolds_iff {entry : Entry Bytes} :
    KeyHolds entry.site ↔ ∀ r, ¬ KeyBreaks entry r := by
  by_cases hfield : entry.field = .environment
  · have hsite : KeyHolds entry.site ↔ ∃ key value, cut 0x3D entry.content = some (key, value) ∧
        canonicalEnvironmentKey key = true ∧ canonicalEnvironmentValue value = true := by
      unfold Entry.site
      rw [hfield, KeyHolds]
    rw [hsite]
    constructor
    · rintro ⟨key, value, hcut, hkey, hvalue⟩ r hbreaks
      cases hbreaks with
      | shape _ hcut' => simp [hcut] at hcut'
      | lineKey _ hcut' hkey' =>
          obtain ⟨rfl, -⟩ : key = _ ∧ value = _ := by simpa [hcut] using hcut'
          simp [hkey] at hkey'
      | lineValue _ hcut' hvalue' =>
          obtain ⟨-, rfl⟩ : key = _ ∧ value = _ := by simpa [hcut] using hcut'
          simp [hvalue] at hvalue'
      | secret hfield' _ => exact hfield' hfield
    · intro h
      cases hcut : cut 0x3D entry.content with
      | none => exact absurd (KeyBreaks.shape hfield hcut) (h _)
      | some parts =>
          refine ⟨parts.1, parts.2, rfl, ?_, ?_⟩
          · by_contra hkey
            exact h _ (KeyBreaks.lineKey hfield hcut (by simpa using hkey))
          · by_contra hvalue
            exact h _ (KeyBreaks.lineValue hfield hcut (by simpa using hvalue))
  · have hsite : KeyHolds entry.site ↔ canonicalEnvironmentKey entry.content = true := by
      obtain ⟨field, index, content⟩ := entry
      cases field with
      | environment => exact absurd rfl hfield
      | _ => exact Iff.rfl
    rw [hsite]
    constructor
    · intro hkey r hbreaks
      cases hbreaks with
      | shape hfield' _ => exact hfield hfield'
      | lineKey hfield' _ _ => exact hfield hfield'
      | lineValue hfield' _ _ => exact hfield hfield'
      | secret _ hkey' => simp [hkey] at hkey'
    · intro h
      by_contra hkey
      exact h _ (KeyBreaks.secret hfield (by simpa using hkey))

/-- The diagnosis finds nothing where the validation does not. -/
theorem holdsTheContract_iff {document : ServiceDefinitionDocument} :
    document.holdsTheContract = true ↔ ∀ r, ¬ Breaks document r := by
  unfold ServiceDefinitionDocument.holdsTheContract
  simp only [Bool.and_eq_true, decide_eq_true_eq, holdsTheMounts_iff, holdsTheEnvironment_iff,
    ← mounts_site, ← named_site, pairwise_sites, List.forall_mem_map]
  constructor
  · rintro ⟨⟨⟨⟨⟨hversion, hslug⟩, hrepository⟩, hport⟩, hvolumes, htmpfs, hpaths, hapart⟩,
      henvironment, hsecrets, hkeys, hdeclared⟩ r hbreaks
    unfold canonicalDefinitionSlug at hslug
    rw [Bool.and_eq_true, decide_eq_true_eq] at hslug
    cases hbreaks with
    | schemaVersion h => exact h hversion
    | slugGrammar h => simp [h] at hslug
    | slugReserved h => exact hslug.2 h
    | imageRepositoryPinned h _ => simp [h] at hrepository
    | imageRepositoryGrammar h _ => simp [h] at hrepository
    | containerPort h => exact h hport
    | volumes h => omega
    | tmpfs h => omega
    | environment h => omega
    | secretKeys h => omega
    | path hentry h => exact h (hpaths _ hentry)
    | overlap hentry hother h => exact hapart _ _ _ hentry _ hother h
    | key hentry h => exact keyHolds_iff.1 (hkeys _ hentry) _ h
    | declared hentry hother h => exact hdeclared _ _ _ hentry _ hother h
  · intro h
    have hslug : canonicalDefinitionSlug document.slug = true := by
      unfold canonicalDefinitionSlug
      rw [Bool.and_eq_true, decide_eq_true_eq, ← Bool.not_eq_false]
      exact ⟨fun hslug => h _ (Breaks.slugGrammar hslug), fun hslug => h _ (Breaks.slugReserved hslug)⟩
    have hrepository : canonicalImageRepository document.imageRepository = true := by
      by_contra hrepository
      rw [Bool.not_eq_true] at hrepository
      cases hpinned : imageRepositoryNamesOneImage document.imageRepository with
      | false => exact h _ (Breaks.imageRepositoryGrammar hrepository hpinned)
      | true => exact h _ (Breaks.imageRepositoryPinned hrepository hpinned)
    refine ⟨⟨⟨⟨⟨?_, hslug⟩, hrepository⟩, ?_⟩, ?_, ?_, ?_, ?_⟩, ?_, ?_, ?_, ?_⟩
    · by_contra hversion
      exact h _ (Breaks.schemaVersion hversion)
    · by_contra hport
      exact h _ (Breaks.containerPort hport)
    · by_contra hlong
      exact h _ (Breaks.volumes (Nat.lt_of_not_le hlong))
    · by_contra hlong
      exact h _ (Breaks.tmpfs (Nat.lt_of_not_le hlong))
    · intro entry hentry
      by_contra hpath
      exact h _ (Breaks.path hentry hpath)
    · intro before entry after hentry other hother hclash
      exact h _ (Breaks.overlap hentry hother hclash)
    · by_contra hlong
      exact h _ (Breaks.environment (Nat.lt_of_not_le hlong))
    · by_contra hlong
      exact h _ (Breaks.secretKeys (Nat.lt_of_not_le hlong))
    · intro entry hentry
      exact keyHolds_iff.2 fun r hbreaks => h r (Breaks.key hentry hbreaks)
    · intro before entry after hentry other hother hclash
      exact h _ (Breaks.declared hentry hother hclash)

/-- What is named is what is outside the contract, and the size where nothing else is. -/
theorem mem_refusals {document : ServiceDefinitionDocument} {r : ServiceDefinitionFieldRefusal} :
    r ∈ document.refusals ↔ Breaks document r ∨
      (document.holdsTheContract = true ∧ document.encode.isOk = false ∧
        r = ⟨.document, none, .documentTooLarge⟩) := by
  have hnone : document.contractRefusals = [] ↔ document.holdsTheContract = true := by
    rw [List.eq_nil_iff_forall_not_mem, holdsTheContract_iff]
    simp only [contractRefusals_mem]
  have hrefusals : document.refusals = if document.contractRefusals = [] ∧
      document.encode.isOk = false then [refusalOf .document none .documentTooLarge]
      else document.contractRefusals := rfl
  rw [hrefusals]
  by_cases hholds : document.holdsTheContract = true
  · have hbreaks : ¬ Breaks document r := holdsTheContract_iff.1 hholds r
    cases hencode : document.encode.isOk with
    | false =>
        rw [if_pos ⟨hnone.2 hholds, rfl⟩, List.mem_singleton]
        simp [hbreaks, hholds, refusalOf]
    | true => simp [hnone.2 hholds, hbreaks]
  · rw [if_neg fun h => hholds (hnone.1 h.1), contractRefusals_mem]
    simp [hholds]

end YourCloud.App.Definition
