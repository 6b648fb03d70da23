import YourCloud.App.Paste

/-!
# The block of the first service of a pasted document

The block of a service is what stands deeper than its name, up to the first line that does
not.  The reader goes on to the next service, or to the end of the document: what stands
beyond the block is read as well where it is as deep as the keys of the block.

## Main results

* `valuesUnder_append` — the lines of a block are read alike, whatever stands beyond it.
* `draftFrom_append_iff` — when more values change nothing of a draft.
* `draft_alone_iff` — when the draft of a document is that of its first service alone.
-/

namespace YourCloud.App.Paste

open YourCloud.Foundation

/-! ## The first service -/

/-- The first service of a document: its name and how deep it stands, its block, and what is
read beyond its block. -/
structure FirstService where
  name : Chars
  indent : Nat
  block : List ComposeLine
  beyond : List ComposeLine
  deriving DecidableEq, Repr

def firstService (lines : List ComposeLine) : Option FirstService := do
  let (indent, names) ← declaredServices lines
  let (firstAt, name) ← names.head?
  let body := serviceBody lines firstAt names.tail
  return { name, indent, block := body.takeWhile fun line => indent < line.indent
           beyond := body.dropWhile fun line => indent < line.indent }

/-- How deep the keys of a service stand: as deep as the first line after its name. -/
def FirstService.keyIndent (service : FirstService) : Nat :=
  ((service.block ++ service.beyond).head?.map ComposeLine.indent).getD (2 ^ 64 - 1)

/-- The document of the first service alone. -/
def FirstService.alone (service : FirstService) : List ComposeLine :=
  ⟨0, some "services".toList, none, none⟩ :: ⟨service.indent, some service.name, none, none⟩ ::
    service.block

/-- The values under a key in the block. -/
def FirstService.own (service : FirstService) (name : String) : List (List Chars) :=
  valuesUnder service.keyIndent name service.block

/-- The values under a key beyond the block. -/
def FirstService.stray (service : FirstService) (name : String) : List (List Chars) :=
  valuesUnder service.keyIndent name service.beyond

/-- What stands beyond the block as deep as its keys brings nothing: no path, no variable, no
other image, and no port that the block leaves open. -/
structure FirstService.Enclosed (service : FirstService) : Prop where
  image : ∀ reference, ((service.stray "image").filterMap List.head?).getLast? = some reference →
    (repositoryOf reference).1 = imageOf (service.own "image") []
  volumes : ∀ value ∈ (service.stray "volumes").flatten, containerPathOfMount value = none
  tmpfs : ∀ value ∈ (service.stray "tmpfs").flatten, containerPathOfMount value = none
  environment : ∀ value ∈ (service.stray "environment").flatten, '=' ∉ value
  ports : portOf (service.own "ports") = none →
    ∀ port, portOf (service.stray "ports") = some port → portOf (service.own "expose") = some port
  expose : portOf (service.own "ports") = none → portOf (service.stray "ports") = none →
    portOf (service.own "expose") = none → portOf (service.stray "expose") = none

/-! ## Values beyond a block -/

/-- What is taken of a text stops where what comes after begins otherwise. -/
theorem takeWhile_append_stop {α : Type} {p : α → Bool} {s t : List α}
    (h : ∀ a ∈ t.head?, p a = false) : (s ++ t).takeWhile p = s.takeWhile p := by
  induction s with
  | nil =>
      cases t with
      | nil => rfl
      | cons a t =>
          have ha : p a = false := h a rfl
          simp [ha]
  | cons b s ih => rw [List.cons_append, List.takeWhile_cons, List.takeWhile_cons, ih]

/-- The lines of a block are read alike, whatever stands beyond it at no more than their
depth. -/
theorem valuesUnder_append {keyIndent : Nat} {block beyond : List ComposeLine}
    (h : block ≠ [] → ∀ line ∈ beyond.head?, line.indent ≤ keyIndent) (name : String) :
    valuesUnder keyIndent name (block ++ beyond) =
      valuesUnder keyIndent name block ++ valuesUnder keyIndent name beyond := by
  induction block with
  | nil => rfl
  | cons line rest ih =>
      have hbeyond := h (List.cons_ne_nil line rest)
      have hvalues : taken keyIndent name line (rest ++ beyond) =
          taken keyIndent name line rest := by
        unfold taken composeValues
        rw [takeWhile_append_stop]
        intro first hfirst
        simpa using hbeyond first hfirst
      rw [List.cons_append, valuesUnder, valuesUnder, hvalues, ih fun _ => hbeyond,
        List.append_assoc]

/-- A port is never zero. -/
theorem portOf_pos {values : List (List Chars)} {port : Nat} (h : portOf values = some port) :
    0 < port := by
  obtain ⟨mapping, -, hport⟩ := List.exists_of_findSome?_eq_some h
  exact of_decide_eq_true (Option.filter_eq_some_iff.1 hport).2

theorem imageOf_append (own stray : List (List Chars)) : imageOf (own ++ stray) [] = imageOf own [] ↔
    ∀ reference, (stray.filterMap List.head?).getLast? = some reference →
      (repositoryOf reference).1 = imageOf own [] := by
  conv => lhs; lhs; unfold imageOf
  rw [List.filterMap_append, List.getLast?_append]
  cases (stray.filterMap List.head?).getLast? with
  | none => simp [imageOf]
  | some reference => simp

theorem pathsOf_append (own stray : List (List Chars)) : pathsOf (own ++ stray) = pathsOf own ↔
    ∀ value ∈ stray.flatten, containerPathOfMount value = none := by
  unfold pathsOf
  rw [List.flatten_append, List.filterMap_append, List.append_right_eq_self,
    List.filterMap_eq_nil_iff]

theorem variablesOf_append (own stray : List (List Chars)) :
    variablesOf (own ++ stray) = variablesOf own ↔ ∀ value ∈ stray.flatten, '=' ∉ value := by
  unfold variablesOf
  rw [List.flatten_append, List.filter_append, List.append_right_eq_self, List.filter_eq_nil_iff]
  simp only [decide_eq_true_eq]

/-- When ports beyond the block are not read. -/
theorem port_append_iff {ports expose strayPorts strayExpose : List (List Chars)} :
    ((portOf (ports ++ strayPorts)).or (portOf (expose ++ strayExpose))).getD 0 =
        ((portOf ports).or (portOf expose)).getD 0 ↔
      (portOf ports = none → ∀ port, portOf strayPorts = some port → portOf expose = some port) ∧
      (portOf ports = none → portOf strayPorts = none → portOf expose = none →
        portOf strayExpose = none) := by
  have happend : ∀ a b : List (List Chars), portOf (a ++ b) = (portOf a).or (portOf b) := by
    intro a b
    simp [portOf, List.findSome?_append]
  rw [happend, happend]
  have hpos : ∀ port, portOf strayPorts = some port → 0 < port := fun port => portOf_pos
  have hpos' : ∀ port, portOf strayExpose = some port → 0 < port := fun port => portOf_pos
  cases portOf ports with
  | some port => simp
  | none =>
      cases hstray : portOf strayPorts with
      | some port =>
          have := hpos port hstray
          cases portOf expose with
          | some exposed => simp [eq_comm]
          | none =>
              simp
              omega
      | none =>
          cases portOf expose with
          | some exposed => simp
          | none =>
              cases hexpose : portOf strayExpose with
              | none => simp
              | some exposed =>
                  have := hpos' exposed hexpose
                  simp
                  omega

/-- When more values change nothing of a draft. -/
theorem draftFrom_append_iff (service : FirstService) :
    draftFrom service.name (fun name => service.own name ++ service.stray name) =
      draftFrom service.name service.own ↔ service.Enclosed := by
  constructor
  · intro h
    have hports := port_append_iff.1 (congrArg ServiceDefinitionDraft.containerPort h)
    exact
      { image := (imageOf_append _ _).1 (congrArg ServiceDefinitionDraft.imageRepository h)
        volumes := (pathsOf_append _ _).1 (congrArg ServiceDefinitionDraft.volumes h)
        tmpfs := (pathsOf_append _ _).1 (congrArg ServiceDefinitionDraft.tmpfs h)
        environment := (variablesOf_append _ _).1 (congrArg ServiceDefinitionDraft.environment h)
        ports := hports.1
        expose := hports.2 }
  · intro h
    unfold draftFrom
    rw [(imageOf_append _ _).2 h.image, (pathsOf_append _ _).2 h.volumes,
      (pathsOf_append _ _).2 h.tmpfs, (variablesOf_append _ _).2 h.environment,
      port_append_iff.2 ⟨h.ports, h.expose⟩]

/-! ## Documents -/

section Documents

variable {lines : List ComposeLine} {service : FirstService} {notes : Notes}
  {paste : ServiceDefinitionPaste}

/-- The services stand deeper than nothing, and the lines of the block deeper than these. -/
theorem firstService_indent (h : firstService lines = some service) :
    0 < service.indent ∧ ∀ line ∈ service.block, service.indent < line.indent := by
  unfold firstService declaredServices at h
  simp only [Option.bind_eq_bind, Option.bind_eq_some_iff, Option.some.injEq, Option.pure_def,
    Prod.exists] at h
  obtain ⟨indent, names, ⟨servicesAt, -, first, hfirst, hnames⟩, firstAt, name, -, hservice⟩ := h
  obtain ⟨-, hdeeper⟩ := Option.filter_eq_some_iff.1 hfirst
  rw [← hservice]
  constructor
  · show 0 < indent
    rw [← (Prod.mk.inj hnames).1]
    exact of_decide_eq_true hdeeper
  · intro line hline
    change line ∈ (serviceBody lines firstAt names.tail).takeWhile
      fun line => decide (indent < line.indent) at hline
    have hdeep := List.mem_takeWhile_imp hline
    simpa using hdeep

/-- A block ends where a line is no deeper than its keys. -/
theorem firstService_beyond (h : firstService lines = some service) (hblock : service.block ≠ []) :
    ∀ line ∈ service.beyond.head?, line.indent ≤ service.keyIndent := by
  intro line hline
  obtain ⟨key, rest, hkeys⟩ := List.exists_cons_of_ne_nil hblock
  have hkey : service.indent < key.indent := by
    apply (firstService_indent h).2
    rw [hkeys]
    exact List.mem_cons_self
  have hindent : service.keyIndent = key.indent := by
    unfold FirstService.keyIndent
    rw [hkeys]
    rfl
  have hstop : line.indent ≤ service.indent := by
    unfold firstService at h
    simp only [Option.bind_eq_bind, Option.bind_eq_some_iff, Option.some.injEq, Option.pure_def,
      Prod.exists] at h
    obtain ⟨indent, names, -, firstAt, name, -, hservice⟩ := h
    rw [← hservice] at hline ⊢
    have hnot := List.head?_dropWhile_not (fun line => indent < line.indent)
      (serviceBody lines firstAt names.tail)
    rw [Option.mem_def.1 hline] at hnot
    simpa using hnot
  omega

/-- The draft of a document, out of the values in the block and beyond it. -/
theorem composeDocument_draft (h : composeDocument lines notes = some paste) :
    ∃ service, firstService lines = some service ∧
      paste.draft = draftFrom service.name fun name => service.own name ++ service.stray name := by
  unfold composeDocument at h
  simp only [Option.bind_eq_bind, Option.bind_eq_some_iff, Option.some.injEq, Option.pure_def,
    Prod.exists] at h
  obtain ⟨indent, names, hnames, firstAt, name, hname, hpaste⟩ := h
  have hservice : firstService lines = some
      { name, indent
        block := (serviceBody lines firstAt names.tail).takeWhile fun line => indent < line.indent
        beyond := (serviceBody lines firstAt names.tail).dropWhile
          fun line => indent < line.indent } := by
    unfold firstService
    rw [hnames, Option.bind_eq_bind, Option.bind_some]
    dsimp only
    rw [hname]
    rfl
  refine ⟨_, hservice, ?_⟩
  have hbody := List.takeWhile_append_dropWhile (p := fun line => decide (indent < line.indent))
    (l := serviceBody lines firstAt names.tail)
  rw [← hpaste]
  dsimp only
  rw [finish_readBody]
  congr 1
  funext key
  unfold FirstService.own FirstService.stray
  rw [← valuesUnder_append (firstService_beyond hservice) key]
  unfold FirstService.keyIndent
  rw [hbody]

/-- The document of the first service alone is read, and its draft is out of the block. -/
theorem composeDocument_alone (h : firstService lines = some service) (notes : Notes) :
    (composeDocument service.alone notes).map ServiceDefinitionPaste.draft =
      some (draftFrom service.name service.own) := by
  obtain ⟨hindent, hdeeper⟩ := firstService_indent h
  have hdeclared : declaredServices service.alone = some (service.indent, [(1, service.name)]) := by
    have hinside : ∀ line ∈ service.block.zipIdx 2, (!decide (line.1.indent = 0)) = true := by
      intro line hline
      have := hdeeper line.1 (List.fst_mem_of_mem_zipIdx hline)
      have hdeep : ¬ line.1.indent = 0 := by omega
      simp [hdeep]
    have hothers : (service.block.zipIdx 2).filterMap (fun line =>
        if line.1.indent = service.indent then line.1.key.map fun key => (line.2, key)
        else none) = [] := by
      rw [List.filterMap_eq_nil_iff]
      intro line hline
      have := hdeeper line.1 (List.fst_mem_of_mem_zipIdx hline)
      rw [if_neg (by omega)]
    have hnonzero : service.indent ≠ 0 := by omega
    have hfirst : (some (⟨service.indent, some service.name, none, none⟩ : ComposeLine)).filter
        (fun line => 0 < line.indent) = some ⟨service.indent, some service.name, none, none⟩ := by
      simp [Option.filter, hindent]
    unfold declaredServices FirstService.alone
    simp [List.findIdx?_cons, hfirst, hnonzero, hothers, List.takeWhile_eq_self_iff.2 hinside]
  have hbody : serviceBody service.alone 1 [] = service.block := by
    simp [serviceBody, FirstService.alone]
  unfold composeDocument
  rw [hdeclared]
  simp only [Option.bind_eq_bind, Option.bind_some, List.head?_cons, List.tail_cons,
    Option.pure_def, Option.map_some]
  rw [hbody, finish_readBody]
  congr 2
  funext key
  unfold FirstService.own
  cases hblock : service.block with
  | nil => rfl
  | cons line rest =>
      unfold FirstService.keyIndent
      rw [hblock]
      rfl

/-- The draft of a document that is read is that of its first service alone exactly where
nothing beyond the block of the service brings anything. -/
theorem draft_alone_iff {pasted : Chars} (h : parseComposeDocument pasted notes = some paste) :
    ∃ lines service, composeLines pasted = some lines ∧ firstService lines = some service ∧
      ((composeDocument service.alone notes).map ServiceDefinitionPaste.draft =
        some paste.draft ↔ service.Enclosed) := by
  obtain ⟨lines, hlines, hpaste⟩ := Option.bind_eq_some_iff.1 h
  obtain ⟨service, hservice, hdraft⟩ := composeDocument_draft hpaste
  refine ⟨lines, service, hlines, hservice, ?_⟩
  rw [composeDocument_alone hservice, hdraft, Option.some.injEq, eq_comm]
  exact draftFrom_append_iff service

end Documents

/-! ## A section after the services -/

/-- One service, and a section after it that names another image. -/
def sectionedDocument : Chars :=
  "services:\n  web:\n    image: a.test/a\nx-base:\n  db:\n    image: b.test/b".toList

/-- The draft of a document need not be that of its first service alone. -/
theorem draft_beyond_block : ¬ ∀ pasted notes paste,
    parseComposeDocument pasted notes = some paste →
    ∀ lines service, composeLines pasted = some lines → firstService lines = some service →
      (composeDocument service.alone notes).map ServiceDefinitionPaste.draft =
        some paste.draft := by
  intro h
  have hpaste : (parseComposeDocument sectionedDocument []).map
      (fun paste => paste.draft.imageRepository) = some "b.test/b".toList := by
    decide +kernel
  have halone : ((composeLines sectionedDocument).bind fun lines => (firstService lines).bind
      fun service => (composeDocument service.alone []).map
        fun paste => paste.draft.imageRepository) = some "a.test/a".toList := by
    decide +kernel
  obtain ⟨paste, hread, himage⟩ := Option.map_eq_some_iff.1 hpaste
  obtain ⟨lines, hlines, hservices⟩ := Option.bind_eq_some_iff.1 halone
  obtain ⟨service, hservice, hdraft⟩ := Option.bind_eq_some_iff.1 hservices
  obtain ⟨other, hother, himage'⟩ := Option.map_eq_some_iff.1 hdraft
  have hsame := h sectionedDocument [] paste hread lines service hlines hservice
  rw [hother, Option.map_some, Option.some.injEq] at hsame
  rw [hsame, himage] at himage'
  exact absurd himage' (by decide)

/-- The same service without the section. -/
def plainDocument : Chars := "services:\n  web:\n    image: a.test/a".toList

def plainPaste : ServiceDefinitionPaste where
  schemaVersion := 1
  source := .composeDocument
  draft := { slug := "web".toList, imageRepository := "a.test/a".toList }
  notes := []

theorem plain_alone : ∃ lines service, composeLines plainDocument = some lines ∧
    firstService lines = some service ∧
    ((composeDocument service.alone []).map ServiceDefinitionPaste.draft = some plainPaste.draft ↔
      service.Enclosed) :=
  draft_alone_iff (by decide +kernel : parseComposeDocument plainDocument [] = some plainPaste)

end YourCloud.App.Paste
