import YourCloud.Auxiliary.UserServices
import YourCloud.Foundation.UnitFile
import YourCloud.Foundation.Words

/-!
# The variables of a sheet

A line of an environment is written into a sheet behind three layers: a percent sign is
doubled, a quote and a backslash are guarded, and what a reader of words would part is
put between quotes.  The service manager takes them off in the opposite order.

## Main results

* `environmentLine_fits` — a written line stays within its own line of the sheet.
* `environmentLine_read` — every line a definition may declare is read as it was written.
-/

namespace YourCloud.Auxiliary

open YourCloud.Foundation
open YourCloud.Foundation.Words
open ServiceDefinition (Printable Line replaceAll originHostPlaceholder)

/-! ## What the service manager reads -/

/-- How the value of a setting is read: words between white space, marks around what belongs
together, and a backslash before a backslash or a quote. -/
def variableQuoting (marks : List UInt8) : Quoting UInt8 where
  blank b := b = 0x20 || b = 0x09 || b = 0x0A || b = 0x0D
  mark b := b ∈ marks
  escape := 0x5C
  escaped b := b = 0x5C || b = 0x22

/-- The variables that a setting names.  A percent sign opens a specifier unless it is doubled. -/
def readVariables (marks : List UInt8) (value : Bytes) : Option (List Bytes) :=
  (words (variableQuoting marks) value).bind fun ws => ws.mapM (single 0x25)

/-- The readings there are: with the double quote alone, and with the single one as well. -/
def readings : List (List UInt8) := [[0x22], [0x22, 0x27]]

/-! ## What is written -/

/-- Whether a byte makes the whole be quoted. -/
def parts (b : UInt8) : Bool := b = 0x20 ∨ b = 0x09 ∨ b = 0x22 ∨ b = 0x27 ∨ b = 0x5C

/-- Whether a byte is guarded between quotes. -/
def guards (b : UInt8) : Bool := b = 0x5C || b = 0x22

theorem environmentLine_eq (marks : List UInt8) (line : Bytes) :
    environmentLine line =
      if (doubled 0x25 line).any parts then
        0x22 :: (guarded (variableQuoting marks) guards (doubled 0x25 line) ++ [0x22])
      else doubled 0x25 line := by
  have hdoubled : (line.flatMap fun b => if b = 0x25 then [0x25, 0x25] else [b]) =
      doubled 0x25 line := by
    unfold doubled
    congr 1
    funext b
    split
    · rename_i hb
      rw [hb]
    · rfl
  have hguarded : ∀ s : Bytes, (s.flatMap fun b => if b = 0x5C ∨ b = 0x22 then [0x5C, b] else [b]) =
      guarded (variableQuoting marks) guards s := by
    intro s
    unfold guarded
    congr 1
    funext b
    simp [guards, variableQuoting]
  have hquote : text "\"" = [0x22] := by decide
  unfold environmentLine
  rw [hdoubled]
  dsimp only
  rw [hguarded, quoted, hquote]
  rfl

theorem mem_doubled {b : UInt8} {line : Bytes} (h : b ∈ doubled 0x25 line) : b ∈ line := by
  obtain ⟨c, hc, hmem⟩ := List.mem_flatMap.1 h
  split at hmem
  · rename_i hsign
    rw [← hsign] at hmem
    simp only [List.mem_cons, List.not_mem_nil, or_false, or_self] at hmem
    rw [hmem]
    exact hc
  · rw [List.mem_singleton.1 hmem]
    exact hc

theorem doubled_ne_nil {line : Bytes} (h : line ≠ []) : doubled 0x25 line ≠ [] := by
  cases line with
  | nil => exact absurd rfl h
  | cons b line =>
      by_cases hb : b = 0x25
      · simp [doubled, hb]
      · simp [doubled, hb]

/-- A printable line that nothing makes be quoted has nothing to quote. -/
theorem bare_of_parts {marks : List UInt8} (hmarks : marks ∈ readings) {line : Bytes}
    (hline : Printable line) (h : (doubled 0x25 line).any parts = false) :
    ∀ b ∈ doubled 0x25 line, Bare (variableQuoting marks) b := by
  intro b hb
  have hparts : parts b = false := List.any_eq_false.1 h b hb |> Bool.eq_false_iff.2
  have hne : ∀ c : UInt8, ServiceDefinition.isPrintable c = false → b ≠ c := by
    rintro c hc rfl
    exact hline.not_mem hc (mem_doubled hb)
  simp only [parts, decide_eq_false_iff_not, not_or] at hparts
  obtain ⟨hspace, htab, hquote, hsingle, hescape⟩ := hparts
  refine ⟨hescape, ?_, ?_⟩
  · have hmark : b ∉ marks := by
      rw [readings, List.mem_cons, List.mem_singleton] at hmarks
      cases hmarks with
      | inl hdouble => simp [hdouble, hquote]
      | inr hboth => simp [hboth, hquote, hsingle]
    exact decide_eq_false hmark
  · simp [variableQuoting, hspace, htab, hne 0x0A (by decide), hne 0x0D (by decide)]

/-- A printable line is read as it was written, as one word. -/
theorem readVariables_environmentLine {marks : List UInt8} (hmarks : marks ∈ readings)
    {line : Bytes} (hne : line ≠ []) (hline : Printable line) :
    readVariables marks (environmentLine line) = some [line] := by
  have hwords : words (variableQuoting marks) (environmentLine line) = some [doubled 0x25 line] := by
    rw [environmentLine_eq marks]
    split
    · have hmark : (variableQuoting marks).mark 0x22 = true := by
        rw [readings, List.mem_cons, List.mem_singleton] at hmarks
        rcases hmarks with rfl | rfl
        · decide
        · decide
      have hguarded : guards 0x22 = true := by decide
      have hescape : guards (variableQuoting marks).escape = true := rfl
      have hne : 0x22 ≠ (variableQuoting marks).escape := fun h => absurd h (by decide : (0x22 : UInt8) ≠ 0x5C)
      exact words_quoted hmark hguarded hescape (fun _ hguard => hguard) hne _
    · rename_i hparts
      exact words_bare (doubled_ne_nil hne)
        (bare_of_parts hmarks hline (Bool.eq_false_iff.2 hparts))
  rw [readVariables, hwords, Option.bind_some, List.mapM_cons, single_doubled, List.mapM_nil]
  rfl

/-! ## Within its line -/

/-- A written line stays within its own line of the sheet. -/
theorem environmentLine_fits {line : Bytes} (hline : Printable line) :
    UnitFile.Fits (environmentLine line) := by
  have hdoubled : ∀ b : UInt8, ServiceDefinition.isPrintable b = false → b ∉ doubled 0x25 line :=
    fun b hb hmem => hline.not_mem hb (mem_doubled hmem)
  rw [environmentLine_eq [0x22]]
  split
  · have hbytes : 0x0A ∉ guarded (variableQuoting [0x22]) guards (doubled 0x25 line) := by
      intro hmem
      obtain ⟨c, hc, hmem⟩ := List.mem_flatMap.1 hmem
      split at hmem
      · rw [List.mem_cons, List.mem_singleton] at hmem
        rcases hmem with hescape | rfl
        · exact absurd hescape (by decide)
        · exact hdoubled 0x0A (by decide) hc
      · obtain rfl := List.mem_singleton.1 hmem
        exact hdoubled 0x0A (by decide) hc
    exact UnitFile.Fits.between (by decide) (by decide) hbytes
  · rename_i hparts
    apply UnitFile.Tight.fits
    intro b hb
    have hdouble : [0x22] ∈ readings := List.mem_cons_self
    have hbare := bare_of_parts hdouble hline (Bool.eq_false_iff.2 hparts) b hb
    have hblank := hbare.blank
    have hescape : b ≠ UnitFile.backslash := hbare.escape
    simp only [variableQuoting, Bool.or_eq_false_iff, decide_eq_false_iff_not] at hblank
    obtain ⟨⟨⟨hspace, htab⟩, hnewline⟩, hreturn⟩ := hblank
    simp [UnitFile.isTight, UnitFile.isBlank, hspace, htab, hnewline, hreturn, hescape]

/-! ## The lines of a definition -/

/-- A line stays a line behind its interpolation. -/
theorem replaceAll_ne_nil {line : Bytes} (h : Line line) (origin : Bytes) :
    replaceAll originHostPlaceholder origin line ≠ [] := by
  obtain ⟨key, value, u, rfl, hkey, -⟩ := h.parts
  have hhead : ServiceDefinition.Inert (key ++ [0x3D]) := hkey.append ⟨by decide, by decide⟩
  rw [replaceAll, List.append_cons, ServiceDefinition.replaceFrom_append hhead]
  exact List.append_ne_nil_of_left_ne_nil (List.append_ne_nil_of_right_ne_nil _ (by simp)) _

/-- Every line that is written, interpolated or not, is printable. -/
theorem interpolatedEnvironment_bytes {document : Plan.UserServiceDocument}
    {definition : ServiceDefinition.Document} (hdefinition : definition.validate = .ok ())
    (hplan : document.validate = .ok ()) :
    ∀ line ∈ interpolatedEnvironment definition document.originHost, line ≠ [] ∧ Printable line := by
  have hlines := ServiceDefinition.environment_bytes
    (ServiceDefinition.environment_of_validate hdefinition)
  have horigin : Printable document.originHost := fun b hb =>
    ServiceDefinition.isReferenceByte_printable (Plan.UserServiceDocument.origin_bytes hplan b hb)
  unfold interpolatedEnvironment
  split
  · exact hlines
  · rw [List.forall_mem_map]
    intro line hline
    exact ⟨replaceAll_ne_nil (ServiceDefinition.lines_of_validate hdefinition line hline) _,
      ServiceDefinition.replaceAll_bytes horigin (hlines line hline).2⟩

/-- Every line that the validator of an environment admits is read back from the directive it is
written in as that one line: whether or not the single quote is a mark as well, and once its
origin is interpolated too. -/
theorem environmentLine_read {marks : List UInt8} (hmarks : marks ∈ readings) :
    (∀ environment secretKeys : List Bytes,
      ServiceDefinition.validateEnvironment environment secretKeys = .ok () →
      ∀ line ∈ environment, readVariables marks (environmentLine line) = some [line]) ∧
    ∀ (definition : ServiceDefinition.Document) (document : Plan.UserServiceDocument),
      definition.validate = .ok () → document.validate = .ok () →
      ∀ line ∈ interpolatedEnvironment definition document.originHost,
        readVariables marks (environmentLine line) = some [line] := by
  constructor
  · intro environment secretKeys h line hline
    obtain ⟨hne, hprintable⟩ := ServiceDefinition.environment_bytes h line hline
    exact readVariables_environmentLine hmarks hne hprintable
  · intro definition document hdefinition hplan line hline
    obtain ⟨hne, hprintable⟩ := interpolatedEnvironment_bytes hdefinition hplan line hline
    exact readVariables_environmentLine hmarks hne hprintable

theorem environmentLine_read_labNotes :
    readVariables [0x22] (environmentLine (text "LAB_NOTES_TITLE=Your Cloud lab notes")) =
      some [text "LAB_NOTES_TITLE=Your Cloud lab notes"] :=
  (environmentLine_read List.mem_cons_self).1 ServiceDefinition.labNotes.environment
    ServiceDefinition.labNotes.secretKeys
    (ServiceDefinition.environment_of_validate ServiceDefinition.labNotes_valid) _ List.mem_cons_self

end YourCloud.Auxiliary
