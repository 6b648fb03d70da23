import Mathlib.Logic.Function.Basic
import YourCloud.Foundation.Program
import YourCloud.Foundation.UnitFile
import YourCloud.ServiceDefinition

/-!
# The generated values of a service

A value is drawn once for every declared key, into a file created exclusively, and the
environment file is then rewritten from the values held.  Every step can fail and the process
can end at every step; what is left is what the next run finds.

A file whose value was not written in full is refused by every later run, as one that this
machine did not generate.  Only a failure is cleaned up after: where the process ends between
the creation of the file and the end of its writing, the part stays.

## Main results

* `ensureServiceSecrets_keeps` — a value that is held is never replaced.
* `ensureServiceSecrets_ensures` — what every end of a run leaves.
* `converges` — after runs that left no part, a run without a failure succeeds.
-/

namespace YourCloud.Auxiliary.Secrets

open YourCloud.Foundation
open YourCloud.ServiceDefinition (canonicalEnvironmentKey cut)

def serviceSecretRandomBytes : Nat := 32

def serviceSecretHexBytes : Nat := 2 * serviceSecretRandomBytes

/-! ## What a machine holds -/

/-- The files of one service: those under its secrets directory, by their keys, and the
environment file with the temporary one beside it.  The modes and the owners are left out. -/
@[ext] structure Files where
  secrets : Bytes → Option Bytes
  environment : Option Bytes
  temporary : Option Bytes

namespace Files

/-- A machine that holds nothing of a service. -/
def none : Files := ⟨fun _ => .none, .none, .none⟩

def setSecret (key : Bytes) (content : Option Bytes) (files : Files) : Files :=
  { files with secrets := Function.update files.secrets key content }

def setTemporary (content : Option Bytes) (files : Files) : Files :=
  { files with temporary := content }

/-- The rename of the temporary file. -/
def replace (files : Files) : Files :=
  { files with environment := files.temporary, temporary := .none }

@[simp] theorem setSecret_same (key : Bytes) (content : Option Bytes) (files : Files) :
    (files.setSecret key content).secrets key = content := Function.update_self ..

theorem setSecret_other {key other : Bytes} (h : other ≠ key) (content : Option Bytes)
    (files : Files) : (files.setSecret key content).secrets other = files.secrets other :=
  Function.update_of_ne h ..

@[simp] theorem setSecret_twice (key : Bytes) (one two : Option Bytes) (files : Files) :
    (files.setSecret key one).setSecret key two = files.setSecret key two := by
  unfold setSecret
  rw [Function.update_idem]

end Files

/-! ## What a run meets -/

inductive SecretStep where
  | create
  | draw
  | write
  | synchronise
  | close
  | hold
  | give
  | readBack
  deriving DecidableEq, Repr

inductive Step where
  | lookup
  | identifier
  | group
  | directory
  | holdDirectory
  | giveDirectory
  | secret (key : Bytes) (step : SecretStep)
  | clearTemporary
  | createTemporary
  | writeTemporary
  | synchroniseTemporary
  | closeTemporary
  | holdTemporary
  | giveTemporary
  | replaceFile
  | synchroniseDirectory
  deriving DecidableEq, Repr

/-- Where a run stops: at which step and how, how many bytes of a write are left, and what the
clean-up after a failure meets. -/
structure Stop where
  step : Step
  how : Verdict
  kept : Nat
  removal : Verdict
  deriving DecidableEq, Repr

/-- What a step meets.  A run goes no further than its first stop. -/
def meets (stop : Option Stop) (step : Step) : Verdict :=
  match stop with
  | some stop => if stop.step = step then stop.how else .done
  | none => .done

/-- How many bytes an interrupted write leaves. -/
def keptOf (stop : Option Stop) : Nat := (stop.map Stop.kept).getD 0

/-- What a clean-up meets. -/
def removalOf (stop : Option Stop) : Verdict := (stop.map Stop.removal).getD .done

/-- The bytes that `rand.Read` fills in. -/
abbrev Drawn := { drawn : Bytes // drawn.length = serviceSecretRandomBytes }

/-! ## The program -/

/-- `strings.TrimSuffix(s, "\n")` -/
def trimNewline (s : Bytes) : Bytes := if s.getLast? = some 0x0A then s.dropLast else s

/-- The value of a file, where it is one that this machine writes. -/
def heldValue (content : Bytes) : Option Bytes :=
  let value := trimNewline content
  if value.length ≠ serviceSecretHexBytes ∨ hexDecode value = none then none else some value

def readServiceSecret (stop : Option Stop) (key : Bytes) : Program Files Bytes := do
  Program.call (meets stop (.secret key .readBack))
  Program.ask fun files => (files.secrets key).bind heldValue

/-- `os.OpenFile` with `O_CREATE|O_EXCL`: whether the file is a new one. -/
def createExclusively (stop : Option Stop) (key : Bytes) : Program Files Bool := do
  let held ← Program.ask fun files => some (files.secrets key).isSome
  if held then
    Program.call (meets stop (.secret key .create))
    return false
  else
    Program.effect (meets stop (.secret key .create)) (Files.setSecret key (some []))
    return true

/-- The line of a value that was drawn. -/
def drawnValue (drawn : Drawn) : Bytes := hexEncode drawn.val

def fillServiceSecret (stop : Option Stop) (drawn : Drawn) (key : Bytes) : Program Files Bytes := do
  Program.call (meets stop (.secret key .draw))
  let content := drawnValue drawn ++ [0x0A]
  Program.torn (meets stop (.secret key .write))
    (Files.setSecret key (some (content.take (keptOf stop)))) (Files.setSecret key (some content))
  Program.call (meets stop (.secret key .synchronise))
  Program.call (meets stop (.secret key .close))
  Program.call (meets stop (.secret key .hold))
  Program.call (meets stop (.secret key .give))
  return drawnValue drawn

def ensureServiceSecret (stop : Option Stop) (drawn : Drawn) (key : Bytes) :
    Program Files Bytes := do
  let created ← createExclusively stop key
  if created then
    Program.otherwise (fillServiceSecret stop drawn key)
      (Program.effect (removalOf stop) (Files.setSecret key none))
  else readServiceSecret stop key

/-- The line of one key. -/
def environmentLine (key value : Bytes) : Bytes := key ++ 0x3D :: value

/-- The lines of the keys, after those written so far. -/
def environmentLines (stop : Option Stop) (drawn : Bytes → Drawn) :
    (lines : Bytes) → List Bytes → Program Files Bytes
  | lines, [] => return lines
  | lines, key :: rest => do
      let value ← ensureServiceSecret stop (drawn key) key
      environmentLines stop drawn (lines ++ (environmentLine key value ++ [0x0A])) rest

def writeAccountFile (stop : Option Stop) (content : Bytes) : Program Files Unit := do
  Program.effect (meets stop .clearTemporary) (Files.setTemporary none)
  Program.effect (meets stop .createTemporary) (Files.setTemporary (some []))
  Program.otherwise (do
      Program.torn (meets stop .writeTemporary)
        (Files.setTemporary (some (content.take (keptOf stop))))
        (Files.setTemporary (some content))
      Program.call (meets stop .synchroniseTemporary)
      Program.call (meets stop .closeTemporary)
      Program.call (meets stop .holdTemporary)
      Program.call (meets stop .giveTemporary)
      Program.effect (meets stop .replaceFile) Files.replace)
    (Program.effect (removalOf stop) (Files.setTemporary none))
  Program.call (meets stop .synchroniseDirectory)

def ensureServiceSecrets (stop : Option Stop) (drawn : Bytes → Drawn) (keys : List Bytes) :
    Program Files Unit := do
  Program.call (meets stop .lookup)
  Program.call (meets stop .identifier)
  Program.call (meets stop .group)
  Program.call (meets stop .directory)
  Program.call (meets stop .holdDirectory)
  Program.call (meets stop .giveDirectory)
  let lines ← environmentLines stop drawn [] keys
  writeAccountFile stop lines

/-- Whether an environment file names one list of keys, in that order and with nothing else. -/
def declaresExactly (content : Bytes) (keys : List Bytes) : Bool :=
  let lines := if content = [] then [] else (trimNewline content).splitOn 0x0A
  lines.length = keys.length &&
    (lines.zip keys).all fun pair => (cut 0x3D pair.1).any fun parts => parts.1 = pair.2

def serviceSecretsPresent (files : Files) (keys : List Bytes) : Bool :=
  keys.all (fun key => (files.secrets key).isSome) &&
    files.environment.any fun content => declaresExactly content keys

/-! ## What a stop leaves -/

/-- Whether a stop leaves a file of a key without its value: it falls between the creation of
the file and the end of its writing, and nothing takes the file away. -/
def leavesPartOf (stop : Option Stop) (key : Bytes) : Bool :=
  match stop with
  | some stop =>
      (stop.step = .secret key .draw ||
        (stop.step = .secret key .write && stop.kept < serviceSecretHexBytes)) &&
        (stop.how = .dies || (stop.how = .fails && stop.removal ≠ .done))
  | none => false

/-- Whether a stop leaves a file without its value, of a key that is declared and not held. -/
def leavesPart (stop : Option Stop) (keys : List Bytes) (files : Files) : Bool :=
  keys.any fun key => (files.secrets key).isNone && leavesPartOf stop key

theorem stop_of_verdict {stop : Option Stop} {step : Step} {v : Verdict}
    (h : meets stop step = v) (hv : v ≠ .done) : stop ≠ none := by
  rintro rfl
  exact hv h.symm

/-- A run without a stop meets none. -/
@[simp] theorem meets_none (step : Step) : meets none step = .done := rfl

/-- Where no part is left, the draw is not ended, and the writing only after the value. -/
theorem whole_of_leavesPartOf {stop : Option Stop} {key : Bytes}
    (h : leavesPartOf stop key = false) :
    meets stop (.secret key .draw) ≠ .dies ∧
      (meets stop (.secret key .draw) = .fails → removalOf stop = .done) ∧
      (meets stop (.secret key .write) = .dies → serviceSecretHexBytes ≤ keptOf stop) ∧
      (meets stop (.secret key .write) = .fails →
        removalOf stop = .done ∨ serviceSecretHexBytes ≤ keptOf stop) := by
  cases stop with
  | none => simp
  | some stop =>
      simp only [leavesPartOf, meets, removalOf, keptOf, Option.map_some, Option.getD_some] at h ⊢
      by_cases hdraw : stop.step = .secret key .draw
      · have hwrite : stop.step ≠ .secret key .write := by simp [hdraw]
        simp only [hdraw, decide_true, Bool.true_or, Bool.true_and] at h ⊢
        cases hhow : stop.how with
        | done => simp
        | fails => simpa [hhow] using h
        | dies => simp [hhow] at h
      · by_cases hwrite : stop.step = .secret key .write
        · simp only [hwrite, decide_true, Bool.true_and] at h ⊢
          by_cases hkept : stop.kept < serviceSecretHexBytes
          · cases hhow : stop.how with
            | done => simp
            | fails =>
                have hremoval : stop.removal = .done := by simpa [hhow, hkept] using h
                simp [hremoval]
            | dies => simp [hhow, hkept] at h
          · rw [Nat.not_lt] at hkept
            simp [hkept]
        · simp [hdraw, hwrite]

/-! ## Values -/

theorem drawnValue_length (drawn : Drawn) : (drawnValue drawn).length = serviceSecretHexBytes := by
  rw [drawnValue, hexEncode_length, drawn.property]
  rfl

theorem newline_not_mem_hex {s : Bytes} (h : hexDecode s ≠ none) : (0x0A : UInt8) ∉ s := by
  fun_induction hexDecode s with
  | case1 => simp
  | case2 a => exact absurd rfl h
  | case3 a b rest ih =>
      have hnone : hexValue 0x0A = none := by decide
      intro hmem
      rw [List.mem_cons, List.mem_cons] at hmem
      rcases hmem with rfl | rfl | hmem
      · rw [hnone] at h
        exact h rfl
      · rw [hnone] at h
        apply h
        cases hexValue a with
        | none => rfl
        | some high => rfl
      · apply ih _ hmem
        intro htail
        rw [htail] at h
        apply h
        cases hexValue a with
        | none => rfl
        | some high =>
            cases hexValue b with
            | none => rfl
            | some low => rfl

theorem drawnValue_decodes (drawn : Drawn) : hexDecode (drawnValue drawn) ≠ none := by
  rw [drawnValue, hexDecode_hexEncode]
  exact Option.some_ne_none _

theorem trimNewline_append (s : Bytes) : trimNewline (s ++ [0x0A]) = s := by
  simp [trimNewline]

theorem trimNewline_eq {s : Bytes} (h : (0x0A : UInt8) ∉ s) : trimNewline s = s := by
  unfold trimNewline
  rw [if_neg]
  intro hlast
  exact h (List.mem_of_getLast? hlast)

/-- A value is read back from its file, with its newline or without it. -/
theorem heldValue_take (drawn : Drawn) (kept : Nat) (h : serviceSecretHexBytes ≤ kept) :
    heldValue ((drawnValue drawn ++ [0x0A]).take kept) = some (drawnValue drawn) := by
  have hlength := drawnValue_length drawn
  have hdecodes := drawnValue_decodes drawn
  have htrimmed : trimNewline ((drawnValue drawn ++ [0x0A]).take kept) = drawnValue drawn := by
    by_cases hall : kept = serviceSecretHexBytes
    · rw [hall, ← hlength, List.take_left, trimNewline_eq (newline_not_mem_hex hdecodes)]
    · rw [List.take_of_length_le, trimNewline_append]
      rw [List.length_append, hlength, List.length_singleton]
      omega
  unfold heldValue
  rw [htrimmed]
  simp [hlength, hdecodes]

theorem heldValue_written (drawn : Drawn) :
    heldValue (drawnValue drawn ++ [0x0A]) = some (drawnValue drawn) := by
  have hwhole := heldValue_take drawn (serviceSecretHexBytes + 1) (Nat.le_succ _)
  rwa [List.take_of_length_le] at hwhole
  rw [List.length_append, drawnValue_length, List.length_singleton]

/-- A value that is held is one line of sixty-four characters. -/
theorem heldValue_shape {content value : Bytes} (h : heldValue content = some value) :
    value.length = serviceSecretHexBytes ∧ (0x0A : UInt8) ∉ value := by
  unfold heldValue at h
  dsimp only at h
  split at h
  · cases h
  · rename_i hshape
    rw [not_or, not_not] at hshape
    rw [← Option.some.inj h]
    exact ⟨hshape.1, newline_not_mem_hex hshape.2⟩

/-! ## One key -/

/-- Every file that is held has a value that this machine writes. -/
def Sound (files : Files) : Prop :=
  ∀ key content, files.secrets key = some content → (heldValue content).isSome = true

/-- Every file that is held stays what it is. -/
def Keeps (files later : Files) : Prop :=
  ∀ key content, files.secrets key = some content → later.secrets key = some content

theorem Keeps.refl (files : Files) : Keeps files files := fun _ _ h => h

theorem Keeps.trans {one two three : Files} (h : Keeps one two) (h' : Keeps two three) :
    Keeps one three := fun key content hkey => h' key content (h key content hkey)

theorem keeps_setSecret {files : Files} {key : Bytes} (h : files.secrets key = none)
    (content : Option Bytes) : Keeps files (files.setSecret key content) := by
  intro other held hheld
  have hne : other ≠ key := by
    rintro rfl
    rw [h] at hheld
    cases hheld
  rw [Files.setSecret_other hne]
  exact hheld

theorem sound_setSecret {files : Files} (h : Sound files) {key : Bytes} {content : Option Bytes}
    (hcontent : ∀ written ∈ content, (heldValue written).isSome = true) :
    Sound (files.setSecret key content) := by
  intro other held hheld
  by_cases hsame : other = key
  · rw [hsame, Files.setSecret_same] at hheld
    exact hcontent held hheld
  · rw [Files.setSecret_other hsame] at hheld
    exact h other held hheld

section Runs

variable (stop : Option Stop)

/-- What a part of a run makes of the secrets: nothing that was held changes, and no part is left
where the stop leaves none. -/
structure Advanced (part : Bool) (files later : Files) : Prop where
  keeps : Keeps files later
  sound : Sound files → part = false → Sound later
  environment : later.environment = files.environment
  temporary : later.temporary = files.temporary

/-- What the writing of a new file leaves where it stops, before a clean-up or without one. -/
def Torn (files : Files) (key : Bytes) (cleaned : Bool) (later : Files) : Prop :=
  ∃ content, later = files.setSecret key (some content) ∧ stop ≠ none ∧
    (cleaned = false ∨ removalOf stop ≠ .done → leavesPartOf stop key = false →
      (heldValue content).isSome = true)

theorem fill_ensures (files : Files) (drawn : Drawn) (key : Bytes) :
    Ensures (· = files.setSecret key (some [])) (fillServiceSecret stop drawn key)
      (fun value later => value = drawnValue drawn ∧
        later = files.setSecret key (some (drawnValue drawn ++ [0x0A])))
      (Torn stop files key true) (Torn stop files key false) := by
  have hwhole : ∀ cleaned (later : Files),
      later = files.setSecret key (some (drawnValue drawn ++ [0x0A])) → stop ≠ none →
        Torn stop files key cleaned later := by
    intro cleaned later hlater hstop
    refine ⟨_, hlater, hstop, fun _ _ => ?_⟩
    rw [heldValue_written]
    rfl
  have hcall : ∀ step, Ensures
      (· = files.setSecret key (some (drawnValue drawn ++ [0x0A])))
      (Program.call (meets stop step))
      (fun _ later => later = files.setSecret key (some (drawnValue drawn ++ [0x0A])))
      (Torn stop files key true) (Torn stop files key false) := by
    intro step
    apply Ensures.call
    · intro later hlater _
      exact hlater
    · intro later hlater hv
      exact hwhole _ later hlater (stop_of_verdict hv (by decide))
    · intro later hlater hv
      exact hwhole _ later hlater (stop_of_verdict hv (by decide))
  unfold fillServiceSecret
  apply Ensures.bind (m := fun _ later => later = files.setSecret key (some []))
  · apply Ensures.call
    · intro later hlater _
      exact hlater
    · intro later hlater hv
      refine ⟨[], hlater, stop_of_verdict hv (by decide), ?_⟩
      intro hcleaned hleaves
      have hremoval := (whole_of_leavesPartOf hleaves).2.1 hv
      simp [hremoval] at hcleaned
    · intro later hlater hv
      refine ⟨[], hlater, stop_of_verdict hv (by decide), ?_⟩
      intro _ hleaves
      exact absurd hv (whole_of_leavesPartOf hleaves).1
  · intro _
    apply Ensures.bind (m := fun _ later =>
      later = files.setSecret key (some (drawnValue drawn ++ [0x0A])))
    · apply Ensures.torn_met
      · rintro later rfl _
        exact Files.setSecret_twice key _ _ files
      · rintro later rfl hv
        refine ⟨(drawnValue drawn ++ [0x0A]).take (keptOf stop),
          Files.setSecret_twice key _ _ files,
          stop_of_verdict hv (by decide), ?_⟩
        intro hcleaned hleaves
        have hremoval : removalOf stop ≠ .done := by simpa using hcleaned
        have hkept := ((whole_of_leavesPartOf hleaves).2.2.2 hv).resolve_left hremoval
        rw [heldValue_take drawn _ hkept]
        rfl
      · rintro later rfl hv
        refine ⟨(drawnValue drawn ++ [0x0A]).take (keptOf stop),
          Files.setSecret_twice key _ _ files,
          stop_of_verdict hv (by decide), ?_⟩
        intro _ hleaves
        rw [heldValue_take drawn _ ((whole_of_leavesPartOf hleaves).2.2.1 hv)]
        rfl
    · intro _
      apply Ensures.bind (hcall _)
      intro _
      apply Ensures.bind (hcall _)
      intro _
      apply Ensures.bind (hcall _)
      intro _
      apply Ensures.bind (hcall _)
      intro _
      apply Ensures.pure
      intro later hlater
      exact ⟨rfl, hlater⟩

theorem Advanced.refl (part : Bool) (files : Files) : Advanced part files files :=
  ⟨Keeps.refl files, fun h _ => h, rfl, rfl⟩

theorem Advanced.trans {one two three : Files} {part part' whole : Bool}
    (h : Advanced part one two) (h' : Advanced part' two three)
    (hwhole : whole = false → part = false ∧ part' = false) : Advanced whole one three :=
  ⟨h.keeps.trans h'.keeps,
    fun hsound hnone => h'.sound (h.sound hsound (hwhole hnone).1) (hwhole hnone).2,
    h'.environment.trans h.environment, h'.temporary.trans h.temporary⟩

/-- Whether the stop leaves a part of one key. -/
def partOf (files : Files) (key : Bytes) : Bool :=
  (files.secrets key).isNone && leavesPartOf stop key

theorem advanced_setSecret {files : Files} {key : Bytes} {content : Option Bytes}
    (habsent : files.secrets key = none)
    (hcontent : leavesPartOf stop key = false →
      ∀ written ∈ content, (heldValue written).isSome = true) :
    Advanced (partOf stop files key) files (files.setSecret key content) := by
  refine ⟨keeps_setSecret habsent content, fun hsound hpart => ?_, rfl, rfl⟩
  apply sound_setSecret hsound
  apply hcontent
  simpa [partOf, habsent] using hpart

/-- What a run that stops has met: a stop, or a file that this machine did not write. -/
def Stopped (files later : Files) (key : Bytes) : Prop :=
  Advanced (partOf stop files key) files later ∧ (Sound files → stop ≠ none)

theorem createExclusively_ensures (files : Files) (key : Bytes) :
    Ensures (· = files) (createExclusively stop key)
      (fun created later =>
        (created = true ∧ files.secrets key = none ∧ later = files.setSecret key (some [])) ∨
        (created = false ∧ (files.secrets key).isSome = true ∧ later = files))
      (Stopped stop files · key) (Stopped stop files · key) := by
  have hstopped : ∀ v : Verdict, v ≠ .done → v = meets stop (.secret key .create) →
      Stopped stop files files key := by
    intro v hv hmet
    exact ⟨Advanced.refl _ files, fun _ => stop_of_verdict hmet.symm hv⟩
  unfold createExclusively
  apply Ensures.bind (m := fun held later => held = (files.secrets key).isSome ∧ later = files)
  · apply Ensures.ask
    · rintro later held rfl hheld
      exact ⟨(Option.some.inj hheld).symm, rfl⟩
    · intro later _ hnone
      cases hnone
  · intro held
    cases held with
    | true =>
        apply Ensures.bind (m := fun _ later => (files.secrets key).isSome = true ∧ later = files)
        · apply Ensures.call
          · rintro later ⟨hheld, hlater⟩ _
            exact ⟨hheld.symm, hlater⟩
          · rintro later ⟨_, rfl⟩ hv
            exact hstopped .fails (by decide) hv.symm
          · rintro later ⟨_, rfl⟩ hv
            exact hstopped .dies (by decide) hv.symm
        · intro _
          apply Ensures.pure
          intro later hlater
          exact Or.inr ⟨rfl, hlater⟩
    | false =>
        apply Ensures.bind (m := fun _ later =>
          files.secrets key = none ∧ later = files.setSecret key (some []))
        · apply Ensures.effect
          · rintro later ⟨hheld, rfl⟩ _
            exact ⟨Option.isSome_eq_false_iff.1 hheld.symm |> Option.isNone_iff_eq_none.1, rfl⟩
          · rintro later ⟨_, rfl⟩ hv
            exact hstopped .fails (by decide) hv.symm
          · rintro later ⟨_, rfl⟩ hv
            exact hstopped .dies (by decide) hv.symm
        · intro _
          apply Ensures.pure
          intro later hlater
          exact Or.inl ⟨rfl, hlater⟩

theorem stopped_of_torn {files later : Files} {key : Bytes} {cleaned : Bool}
    (habsent : files.secrets key = none) (h : Torn stop files key cleaned later)
    (hcleaned : cleaned = false ∨ removalOf stop ≠ .done) : Stopped stop files later key := by
  obtain ⟨content, rfl, hstop, hcontent⟩ := h
  refine ⟨advanced_setSecret stop habsent ?_, fun _ => hstop⟩
  intro hleaves written hwritten
  rw [Option.mem_def, Option.some.injEq] at hwritten
  rw [← hwritten]
  exact hcontent hcleaned hleaves

/-- A new file is filled, or taken away where that fails. -/
theorem filled_ensures (files : Files) (drawn : Drawn) {key : Bytes}
    (habsent : files.secrets key = none) :
    Ensures (· = files.setSecret key (some []))
      (Program.otherwise (fillServiceSecret stop drawn key)
        (Program.effect (removalOf stop) (Files.setSecret key none)))
      (fun value later => Advanced (partOf stop files key) files later ∧
        (later.secrets key).bind heldValue = some value)
      (Stopped stop files · key) (Stopped stop files · key) := by
  have hfill : Ensures (· = files.setSecret key (some [])) (fillServiceSecret stop drawn key)
      (fun value later => Advanced (partOf stop files key) files later ∧
        (later.secrets key).bind heldValue = some value)
      (Torn stop files key true) (Stopped stop files · key) := by
    apply (fill_ensures stop files drawn key).weaken
    · intro later hlater
      exact hlater
    · rintro value later ⟨rfl, rfl⟩
      have hheld := heldValue_written drawn
      constructor
      · apply advanced_setSecret stop habsent
        intro _ written hwritten
        rw [Option.mem_def, Option.some.injEq] at hwritten
        rw [← hwritten, hheld]
        rfl
      · rw [Files.setSecret_same, Option.bind_some, hheld]
    · intro later htorn
      exact htorn
    · intro later htorn
      exact stopped_of_torn stop habsent htorn (Or.inl rfl)
  apply Ensures.otherwise hfill
  have hleft : ∀ v : Verdict, v ≠ .done → removalOf stop = v → ∀ later,
      Torn stop files key true later → Stopped stop files later key := by
    intro v hv hremoval later htorn
    exact stopped_of_torn stop habsent htorn (Or.inr (hremoval ▸ hv))
  apply Ensures.effect
  · rintro later ⟨content, rfl, hstop, -⟩ _
    rw [Files.setSecret_twice]
    refine ⟨advanced_setSecret stop habsent ?_, fun _ => hstop⟩
    intro _ written hwritten
    cases hwritten
  · intro later htorn hremoval
    exact hleft .fails (by decide) hremoval later htorn
  · intro later htorn hremoval
    exact hleft .dies (by decide) hremoval later htorn

/-- What one key comes to: its value, held from now on. -/
theorem ensureServiceSecret_ensures (files : Files) (drawn : Drawn) (key : Bytes) :
    Ensures (· = files) (ensureServiceSecret stop drawn key)
      (fun value later => Advanced (partOf stop files key) files later ∧
        (later.secrets key).bind heldValue = some value)
      (Stopped stop files · key) (Stopped stop files · key) := by
  unfold ensureServiceSecret
  apply Ensures.bind (createExclusively_ensures stop files key)
  intro created
  cases created with
  | true =>
      rw [if_pos rfl]
      apply Ensures.each
      rintro later (⟨-, habsent, rfl⟩ | ⟨hfalse, -⟩)
      · exact filled_ensures stop files drawn habsent
      · cases hfalse
  | false =>
      rw [if_neg Bool.false_ne_true]
      apply Ensures.each
      rintro later (⟨hfalse, -⟩ | ⟨-, hheld, rfl⟩)
      · cases hfalse
      · have hstopped : ∀ v : Verdict, v ≠ .done → meets stop (.secret key .readBack) = v →
            Stopped stop later later key := by
          intro v hv hmet
          exact ⟨Advanced.refl _ later, fun _ => stop_of_verdict hmet hv⟩
        unfold readServiceSecret
        apply Ensures.bind (m := fun _ t => t = later)
        · apply Ensures.call
          · intro t ht _
            exact ht
          · rintro t rfl hv
            exact hstopped .fails (by decide) hv
          · rintro t rfl hv
            exact hstopped .dies (by decide) hv
        · intro _
          apply Ensures.ask
          · rintro t value rfl hvalue
            exact ⟨Advanced.refl _ t, hvalue⟩
          · rintro t rfl hnone
            refine ⟨Advanced.refl _ t, fun hsound => ?_⟩
            -- A file that is refused is not one of a sound machine.
            obtain ⟨content, hcontent⟩ := Option.isSome_iff_exists.1 hheld
            have hvalue := hsound key content hcontent
            rw [hcontent, Option.bind_some] at hnone
            rw [hnone] at hvalue
            cases hvalue

/-! ## All keys -/

/-- The value of a key, where one is held. -/
def valueOf (files : Files) (key : Bytes) : Bytes := ((files.secrets key).bind heldValue).getD []

/-- Every key has a value. -/
def Holds (files : Files) (keys : List Bytes) : Prop :=
  ∀ key ∈ keys, (files.secrets key).bind heldValue = some (valueOf files key)

/-- The content of an environment file that names every key with its value. -/
def contentOf (files : Files) (keys : List Bytes) : Bytes :=
  UnitFile.ended (keys.map fun key => environmentLine key (valueOf files key))

theorem held_keeps {files later : Files} {key value : Bytes} (hkeeps : Keeps files later)
    (h : (files.secrets key).bind heldValue = some value) :
    (later.secrets key).bind heldValue = some value := by
  obtain ⟨content, hcontent, hvalue⟩ := Option.bind_eq_some_iff.1 h
  rw [hkeeps key content hcontent]
  exact hvalue

theorem leavesPart_cons {files later : Files} {key : Bytes} {rest : List Bytes}
    (hkeeps : Keeps files later) (h : leavesPart stop (key :: rest) files = false) :
    partOf stop files key = false ∧ leavesPart stop rest later = false := by
  unfold leavesPart at h ⊢
  rw [List.any_cons, Bool.or_eq_false_iff] at h
  refine ⟨h.1, ?_⟩
  rw [List.any_eq_false] at h ⊢
  intro other hother hleft
  rw [Bool.and_eq_true, Option.isNone_iff_eq_none] at hleft
  have habsent : files.secrets other = none := by
    by_contra hheld
    obtain ⟨content, hcontent⟩ := Option.ne_none_iff_exists'.1 hheld
    rw [hkeeps other content hcontent] at hleft
    cases hleft.1
  apply h.2 other hother
  rw [habsent, hleft.2]
  rfl

/-- What the lines of the keys come to: a value for every key, in their order. -/
theorem environmentLines_ensures (files : Files) (drawn : Bytes → Drawn) (lines : Bytes)
    (keys : List Bytes) :
    Ensures (· = files) (environmentLines stop drawn lines keys)
      (fun written later => Advanced (leavesPart stop keys files) files later ∧
        Holds later keys ∧ written = lines ++ contentOf later keys)
      (fun later => Advanced (leavesPart stop keys files) files later ∧ (Sound files → stop ≠ none))
      (fun later => Advanced (leavesPart stop keys files) files later ∧
        (Sound files → stop ≠ none)) := by
  induction keys generalizing files lines with
  | nil =>
      apply Ensures.pure
      rintro later rfl
      exact ⟨Advanced.refl _ later, List.forall_mem_nil _, (List.append_nil lines).symm⟩
  | cons key rest ih =>
      have hstopped : ∀ later, Stopped stop files later key →
          Advanced (leavesPart stop (key :: rest) files) files later ∧ (Sound files → stop ≠ none) := by
        rintro later ⟨hadvanced, hstop⟩
        exact ⟨hadvanced.trans (Advanced.refl false later) fun hnone =>
          ⟨(leavesPart_cons stop (Keeps.refl files) hnone).1, rfl⟩, hstop⟩
      unfold environmentLines
      apply Ensures.bind ((ensureServiceSecret_ensures stop files (drawn key) key).weaken
        (fun _ h => h) (fun _ _ h => h) hstopped hstopped)
      intro value
      apply Ensures.each
      rintro middle ⟨hadvanced, hvalue⟩
      have hwhole : ∀ later, Advanced (leavesPart stop rest middle) middle later →
          Advanced (leavesPart stop (key :: rest) files) files later := by
        intro later hrest
        exact hadvanced.trans hrest fun hnone => leavesPart_cons stop hadvanced.keeps hnone
      have hsound : stop = none → Sound files → Sound middle := by
        rintro rfl hfiles
        exact hadvanced.sound hfiles (by simp [partOf, leavesPartOf])
      have hstops : ∀ later, (Advanced (leavesPart stop rest middle) middle later ∧
          (Sound middle → stop ≠ none)) →
          Advanced (leavesPart stop (key :: rest) files) files later ∧
            (Sound files → stop ≠ none) := by
        rintro later ⟨hrest, hstop⟩
        exact ⟨hwhole later hrest, fun hfiles hnone => hstop (hsound hnone hfiles) hnone⟩
      apply (ih middle (lines ++ (environmentLine key value ++ [0x0A]))).weaken (fun _ h => h) _
        hstops hstops
      rintro written later ⟨hrest, hholds, rfl⟩
      have hkey := held_keeps hrest.keeps hvalue
      have hown : valueOf later key = value := by
        unfold valueOf
        rw [hkey]
        rfl
      refine ⟨hwhole later hrest, ?_, ?_⟩
      · rw [Holds, List.forall_mem_cons]
        rw [hown]
        exact ⟨hkey, hholds⟩
      · have hcons : contentOf later (key :: rest) =
            (environmentLine key (valueOf later key) ++ [0x0A]) ++ contentOf later rest := by
          simp [contentOf, UnitFile.ended, UnitFile.newline]
        rw [hcons, hown, List.append_assoc]

/-- What the environment file comes to: the secrets are not touched. -/
theorem writeAccountFile_ensures (secrets : Bytes → Option Bytes) (content : Bytes) :
    Ensures (fun files : Files => files.secrets = secrets) (writeAccountFile stop content)
      (fun _ later => later.secrets = secrets ∧ later.environment = some content)
      (fun later => later.secrets = secrets ∧ stop ≠ none)
      (fun later => later.secrets = secrets ∧ stop ≠ none) := by
  have hstop : ∀ {step : Step} {v : Verdict}, v ≠ .done → meets stop step = v → stop ≠ none :=
    fun hv hmet => stop_of_verdict hmet hv
  have hcall : ∀ step, Ensures
      (fun files : Files => files.secrets = secrets ∧ files.temporary = some content)
      (Program.call (meets stop step))
      (fun _ later => later.secrets = secrets ∧ later.temporary = some content)
      (fun later => later.secrets = secrets ∧ stop ≠ none)
      (fun later => later.secrets = secrets ∧ stop ≠ none) := by
    intro step
    apply Ensures.call
    · intro files h _
      exact h
    · intro files h hv
      exact ⟨h.1, hstop (by decide) hv⟩
    · intro files h hv
      exact ⟨h.1, hstop (by decide) hv⟩
  have heffect : ∀ (step : Step) (f : Files → Files), (∀ files, (f files).secrets = files.secrets) →
      Ensures (fun files : Files => files.secrets = secrets)
        (Program.effect (meets stop step) f) (fun _ later => later.secrets = secrets)
        (fun later => later.secrets = secrets ∧ stop ≠ none)
        (fun later => later.secrets = secrets ∧ stop ≠ none) := by
    intro step f hf
    apply Ensures.effect
    · intro files h _
      rw [hf, h]
    · intro files h hv
      exact ⟨h, hstop (by decide) hv⟩
    · intro files h hv
      exact ⟨h, hstop (by decide) hv⟩
  unfold writeAccountFile
  apply Ensures.bind (heffect .clearTemporary (Files.setTemporary none) fun _ => rfl)
  intro _
  apply Ensures.bind (heffect .createTemporary (Files.setTemporary (some [])) fun _ => rfl)
  intro _
  apply Ensures.bind (m := fun _ later =>
    later.secrets = secrets ∧ later.environment = some content)
  · have hwritten : Ensures (fun files : Files => files.secrets = secrets) (do
        Program.torn (meets stop .writeTemporary)
          (Files.setTemporary (some (content.take (keptOf stop))))
          (Files.setTemporary (some content))
        Program.call (meets stop .synchroniseTemporary)
        Program.call (meets stop .closeTemporary)
        Program.call (meets stop .holdTemporary)
        Program.call (meets stop .giveTemporary)
        Program.effect (meets stop .replaceFile) Files.replace)
        (fun _ later => later.secrets = secrets ∧ later.environment = some content)
        (fun later => later.secrets = secrets ∧ stop ≠ none)
        (fun later => later.secrets = secrets ∧ stop ≠ none) := by
      apply Ensures.bind (m := fun _ later =>
        later.secrets = secrets ∧ later.temporary = some content)
      · apply Ensures.torn_met
        · intro files h _
          exact ⟨h, rfl⟩
        · intro files h hv
          exact ⟨h, hstop (by decide) hv⟩
        · intro files h hv
          exact ⟨h, hstop (by decide) hv⟩
      · intro _
        apply Ensures.bind (hcall .synchroniseTemporary)
        intro _
        apply Ensures.bind (hcall .closeTemporary)
        intro _
        apply Ensures.bind (hcall .holdTemporary)
        intro _
        apply Ensures.bind (hcall .giveTemporary)
        intro _
        apply Ensures.effect
        · intro files h _
          exact h
        · intro files h hv
          exact ⟨h.1, hstop (by decide) hv⟩
        · intro files h hv
          exact ⟨h.1, hstop (by decide) hv⟩
    apply Ensures.otherwise hwritten
    apply Ensures.effect
    · intro files h _
      exact h
    · intro files h _
      exact h
    · intro files h _
      exact h
  · intro _
    apply Ensures.call
    · intro files h _
      exact h
    · intro files h hv
      exact ⟨h.1, hstop (by decide) hv⟩
    · intro files h hv
      exact ⟨h.1, hstop (by decide) hv⟩

/-- What every run leaves of the secrets, however it ends. -/
structure Left (keys : List Bytes) (files later : Files) : Prop where
  keeps : Keeps files later
  sound : Sound files → leavesPart stop keys files = false → Sound later

/-- A run that returns holds a value for every key and has written them all down, and a run that
does not met a stop, or a file that this machine did not write. -/
theorem ensureServiceSecrets_ensures (files : Files) (drawn : Bytes → Drawn) (keys : List Bytes) :
    Ensures (· = files) (ensureServiceSecrets stop drawn keys)
      (fun _ later => Left stop keys files later ∧ Holds later keys ∧
        later.environment = some (contentOf later keys))
      (fun later => Left stop keys files later ∧ (Sound files → stop ≠ none))
      (fun later => Left stop keys files later ∧ (Sound files → stop ≠ none)) := by
  have hleft : ∀ {advanced later : Files}, Advanced (leavesPart stop keys files) files advanced →
      later.secrets = advanced.secrets → Left stop keys files later := by
    intro advanced later hadvanced hsecrets
    constructor
    · unfold Keeps
      rw [hsecrets]
      exact hadvanced.keeps
    · unfold Sound
      rw [hsecrets]
      exact hadvanced.sound
  have hcall : ∀ step, Ensures (· = files) (Program.call (meets stop step))
      (fun _ later => later = files)
      (fun later => Left stop keys files later ∧ (Sound files → stop ≠ none))
      (fun later => Left stop keys files later ∧ (Sound files → stop ≠ none)) := by
    intro step
    have hself : Left stop keys files files := hleft (Advanced.refl _ files) rfl
    apply Ensures.call
    · intro later h _
      exact h
    · rintro later rfl hv
      exact ⟨hself, fun _ => stop_of_verdict hv (by decide)⟩
    · rintro later rfl hv
      exact ⟨hself, fun _ => stop_of_verdict hv (by decide)⟩
  unfold ensureServiceSecrets
  apply Ensures.bind (hcall .lookup)
  intro _
  apply Ensures.bind (hcall .identifier)
  intro _
  apply Ensures.bind (hcall .group)
  intro _
  apply Ensures.bind (hcall .directory)
  intro _
  apply Ensures.bind (hcall .holdDirectory)
  intro _
  apply Ensures.bind (hcall .giveDirectory)
  intro _
  apply Ensures.bind ((environmentLines_ensures stop files drawn [] keys).weaken (fun _ h => h)
    (fun _ _ h => h) (fun later h => ⟨hleft h.1 rfl, h.2⟩) fun later h => ⟨hleft h.1 rfl, h.2⟩)
  intro lines
  apply Ensures.each
  rintro middle ⟨hadvanced, hholds, rfl⟩
  apply (writeAccountFile_ensures stop middle.secrets _).weaken
  · rintro later rfl
    rfl
  · rintro _ later ⟨hsecrets, henvironment⟩
    have hvalue : ∀ key, valueOf later key = valueOf middle key := by
      intro key
      unfold valueOf
      rw [hsecrets]
    refine ⟨hleft hadvanced hsecrets, ?_, ?_⟩
    · unfold Holds
      simp only [hvalue]
      rw [hsecrets]
      exact hholds
    · unfold contentOf
      simp only [hvalue]
      exact henvironment
  · rintro later ⟨hsecrets, hstop⟩
    exact ⟨hleft hadvanced hsecrets, fun _ => hstop⟩
  · rintro later ⟨hsecrets, hstop⟩
    exact ⟨hleft hadvanced hsecrets, fun _ => hstop⟩

end Runs

/-! ## The environment file -/

/-- Lines that were each ended are the lines of the whole. -/
theorem splitOn_trimmed {l : List Bytes} (hne : l ≠ []) (h : ∀ line ∈ l, (0x0A : UInt8) ∉ line) :
    (trimNewline (UnitFile.ended l)).splitOn 0x0A = l := by
  obtain ⟨last, hlast⟩ : ∃ last, l.getLast? = some last := by
    rw [← Option.ne_none_iff_exists', Ne, List.getLast?_eq_none_iff]
    exact hne
  have hparts : l = l.dropLast ++ [last] := (List.dropLast_append_getLast? last hlast).symm
  have htrimmed : trimNewline (UnitFile.ended l) = UnitFile.ended l.dropLast ++ last := by
    have hended : UnitFile.ended l = UnitFile.ended l.dropLast ++ last ++ [0x0A] := by
      conv => lhs; rw [hparts]
      simp [UnitFile.ended, UnitFile.newline]
    rw [hended, trimNewline_append]
  have hall : ∀ init : List Bytes, (∀ line ∈ init, (0x0A : UInt8) ∉ line) →
      (UnitFile.ended init ++ last).splitOn 0x0A = init ++ [last] := by
    intro init hinit
    induction init with
    | nil => exact List.splitOn_eq_singleton (h last (List.mem_of_getLast? hlast))
    | cons line init ih =>
        rw [List.forall_mem_cons] at hinit
        have hcons : UnitFile.ended (line :: init) ++ last =
            line ++ 0x0A :: (UnitFile.ended init ++ last) := by
          simp [UnitFile.ended, UnitFile.newline]
        rw [hcons, List.splitOn_append_cons_self_of_not_mem hinit.1, ih hinit.2, List.cons_append]
  rw [htrimmed, hall _ fun line hline => h line (List.dropLast_subset l hline), ← hparts]

theorem cut_environmentLine {key : Bytes} (h : (0x3D : UInt8) ∉ key) (value : Bytes) :
    cut 0x3D (environmentLine key value) = some (key, value) := by
  have hne : ∀ b ∈ key, decide (b ≠ 0x3D) = true := by
    intro b hb
    rw [decide_eq_true_eq]
    rintro rfl
    exact h hb
  unfold cut environmentLine
  rw [if_pos (by simp), List.takeWhile_append_of_pos hne, List.dropWhile_append_of_pos hne]
  simp

/-- The environment file names the keys, in their order. -/
theorem declaresExactly_contentOf {files : Files} {keys : List Bytes} (hholds : Holds files keys)
    (hkeys : ∀ key ∈ keys, canonicalEnvironmentKey key = true) :
    declaresExactly (contentOf files keys) keys = true := by
  have hnot : ∀ key ∈ keys, (0x0A : UInt8) ∉ key ∧ (0x3D : UInt8) ∉ key := by
    intro key hkey
    have hcanonical := hkeys key hkey
    simp only [canonicalEnvironmentKey, Bool.and_eq_true, List.all_eq_true] at hcanonical
    exact ⟨fun hmem => absurd (hcanonical.1.2 _ hmem) (by decide),
      fun hmem => absurd (hcanonical.1.2 _ hmem) (by decide)⟩
  have hlines : (if contentOf files keys = [] then []
      else (trimNewline (contentOf files keys)).splitOn 0x0A) =
        keys.map fun key => environmentLine key (valueOf files key) := by
    cases keys with
    | nil => rfl
    | cons key rest =>
        have hne : contentOf files (key :: rest) ≠ [] := by
          simp [contentOf, UnitFile.ended]
        rw [if_neg hne]
        apply splitOn_trimmed (List.cons_ne_nil _ _)
        rw [← List.map_cons (f := fun key => environmentLine key (valueOf files key))]
        intro line hline
        obtain ⟨other, hother, rfl⟩ := List.mem_map.1 hline
        obtain ⟨content, -, hheld⟩ := Option.bind_eq_some_iff.1 (hholds other hother)
        have hvalue := (heldValue_shape hheld).2
        have hname := (hnot other hother).1
        rw [environmentLine, List.mem_append, List.mem_cons]
        simp [hname, hvalue]
  have hzip : (keys.map fun key => environmentLine key (valueOf files key)).zip keys =
      keys.map fun key => (environmentLine key (valueOf files key), key) := by
    have hboth := List.zip_map' (f := fun key => environmentLine key (valueOf files key)) (g := id)
      (l := keys)
    rwa [List.map_id] at hboth
  unfold declaresExactly
  rw [hlines]
  dsimp only
  rw [hzip, List.length_map, decide_eq_true rfl, Bool.true_and, List.all_eq_true]
  intro pair hpair
  obtain ⟨key, hkey, rfl⟩ := List.mem_map.1 hpair
  rw [cut_environmentLine (hnot key hkey).2]
  simp

/-! ## Runs -/

/-- One run: the keys that are declared, what is drawn, and where it stops. -/
structure Run where
  keys : List Bytes
  drawn : Bytes → Drawn
  stop : Option Stop

def Run.ending (run : Run) (files : Files) : Ending Unit × Files :=
  ensureServiceSecrets run.stop run.drawn run.keys files

/-- What is held after runs, whatever became of each. -/
def after (files : Files) : List Run → Files
  | [] => files
  | run :: rest => after (run.ending files).2 rest

/-- Runs of which none leaves a file without its value. -/
def LeavesNoPart (files : Files) : List Run → Prop
  | [] => True
  | run :: rest => leavesPart run.stop run.keys files = false ∧ LeavesNoPart (run.ending files).2 rest

theorem run_left (run : Run) (files : Files) :
    Left run.stop run.keys files (run.ending files).2 := by
  have hends := ensureServiceSecrets_ensures run.stop files run.drawn run.keys files rfl
  unfold Run.ending
  cases hrun : ensureServiceSecrets run.stop run.drawn run.keys files with
  | mk ending later =>
      rw [hrun] at hends
      cases ending with
      | returned u => exact hends.1
      | failed => exact hends.1
      | died => exact hends.1

theorem after_keeps (runs : List Run) (files : Files) : Keeps files (after files runs) := by
  induction runs generalizing files with
  | nil => exact Keeps.refl files
  | cons run rest ih => exact (run_left run files).keeps.trans (ih _)

theorem after_sound {runs : List Run} {files : Files} (hsound : Sound files)
    (hwhole : LeavesNoPart files runs) : Sound (after files runs) := by
  induction runs generalizing files with
  | nil => exact hsound
  | cons run rest ih => exact ih ((run_left run files).sound hsound hwhole.1) hwhole.2

theorem after_append (earlier later : List Run) (files : Files) :
    after files (earlier ++ later) = after (after files earlier) later := by
  induction earlier generalizing files with
  | nil => rfl
  | cons run rest ih => exact ih _

/-- A run without a stop on a sound machine returns. -/
theorem run_returns {files : Files} (hsound : Sound files) (drawn : Bytes → Drawn)
    (keys : List Bytes) : ∃ later, ensureServiceSecrets none drawn keys files = (.returned (), later) ∧
      Keeps files later ∧ Holds later keys ∧ later.environment = some (contentOf later keys) := by
  have hends := ensureServiceSecrets_ensures none files drawn keys files rfl
  cases hrun : ensureServiceSecrets none drawn keys files with
  | mk ending later =>
      rw [hrun] at hends
      cases ending with
      | returned u => exact ⟨later, rfl, hends.1.keeps, hends.2⟩
      | failed => exact absurd rfl (hends.2 hsound)
      | died => exact absurd rfl (hends.2 hsound)

theorem sound_none : Sound Files.none := by
  intro key content h
  cases h

/-- After any runs of which none left a file without its value, a run that meets no failure
succeeds: it holds one value for every declared key, it replaced none that was held after any of
the runs before, and the environment file names exactly the declared keys in their order. -/
theorem converges (runs : List Run) (h : LeavesNoPart Files.none runs) (keys : List Bytes)
    (hkeys : ∀ key ∈ keys, canonicalEnvironmentKey key = true) (drawn : Bytes → Drawn) :
    ∃ later, ensureServiceSecrets none drawn keys (after Files.none runs) = (.returned (), later) ∧
      (∀ key ∈ keys, ∃ value, value.length = serviceSecretHexBytes ∧
        (later.secrets key).bind heldValue = some value ∧ valueOf later key = value) ∧
      (∀ earlier rest, runs = earlier ++ rest →
        Keeps (after Files.none earlier) (after Files.none runs) ∧
        Keeps (after Files.none earlier) later) ∧
      later.environment = some (contentOf later keys) ∧
      serviceSecretsPresent later keys = true := by
  obtain ⟨later, hrun, hkeeps, hholds, henvironment⟩ :=
    run_returns (after_sound sound_none h) drawn keys
  refine ⟨later, hrun, ?_, ?_, henvironment, ?_⟩
  · intro key hkey
    have hvalue := hholds key hkey
    obtain ⟨content, -, hheld⟩ := Option.bind_eq_some_iff.1 hvalue
    exact ⟨_, (heldValue_shape hheld).1, hvalue, rfl⟩
  · rintro earlier rest rfl
    have hrest : Keeps (after Files.none earlier) (after Files.none (earlier ++ rest)) := by
      rw [after_append]
      exact after_keeps rest _
    exact ⟨hrest, hrest.trans hkeeps⟩
  · unfold serviceSecretsPresent
    rw [henvironment, Bool.and_eq_true, List.all_eq_true]
    refine ⟨?_, declaresExactly_contentOf hholds hkeys⟩
    intro key hkey
    obtain ⟨content, hcontent, -⟩ := Option.bind_eq_some_iff.1 (hholds key hkey)
    rw [hcontent]
    rfl

def zeroes : Drawn := ⟨List.replicate 32 0, rfl⟩

/-- A first run in which the mode of the new file could not be set, and the file was taken away. -/
theorem converges_after_failure :
    ∃ later, ensureServiceSecrets none (fun _ => zeroes) [text "TOKEN"]
      (after Files.none [⟨[text "TOKEN"], fun _ => zeroes,
        some ⟨.secret (text "TOKEN") .hold, .fails, 0, .done⟩⟩]) = (.returned (), later) ∧
      later.environment = some (contentOf later [text "TOKEN"]) := by
  have hwhole : LeavesNoPart Files.none [⟨[text "TOKEN"], fun _ => zeroes,
      some ⟨.secret (text "TOKEN") .hold, .fails, 0, .done⟩⟩] := ⟨by decide, trivial⟩
  have hkeys : ∀ key ∈ [text "TOKEN"], canonicalEnvironmentKey key = true := by decide
  obtain ⟨later, hrun, -, -, henvironment, -⟩ :=
    converges _ hwhole [text "TOKEN"] hkeys fun _ => zeroes
  exact ⟨later, hrun, henvironment⟩

/-- A first run that ended after it created the file of a key: no later run succeeds. -/
theorem part_refused : ¬ ∀ (runs : List Run) (keys : List Bytes) (drawn : Bytes → Drawn),
    (∀ key ∈ keys, canonicalEnvironmentKey key = true) →
    ∃ later, ensureServiceSecrets none drawn keys (after Files.none runs) =
      (.returned (), later) := by
  intro h
  have hkeys : ∀ key ∈ [text "TOKEN"], canonicalEnvironmentKey key = true := by decide
  obtain ⟨later, hlater⟩ := h [⟨[text "TOKEN"], fun _ => zeroes,
    some ⟨.secret (text "TOKEN") .write, .dies, 0, .done⟩⟩] [text "TOKEN"] (fun _ => zeroes) hkeys
  have hfailed : (ensureServiceSecrets none (fun _ => zeroes) [text "TOKEN"]
      (after Files.none [⟨[text "TOKEN"], fun _ => zeroes,
        some ⟨.secret (text "TOKEN") .write, .dies, 0, .done⟩⟩])).1 = .failed := by
    decide +kernel
  rw [hlater] at hfailed
  cases hfailed

end YourCloud.Auxiliary.Secrets
