import YourCloud.Assistant.AuthorizedKeys

/-!
# The entry that forces one command

The entry installed for the key of the Controller is written here, and an entry
read back from a machine is judged: its options are taken from a fixed list, its
command is compared with one constant, and a second entry is refused.

The judge cuts the options itself.  It takes a backslash inside quotes for the
escape of any character, keeps the last of several commands and passes over white
space that is no blank, none of which the program that lets clients in does.

## Main results

* `splitFrom_sync` — up to the first backslash the two readers cut alike.
* `judge_bounded_iff` — an accepted file holds one entry that grants the forced
  command and nothing else exactly where it is written plainly, and what is
  rendered is accepted.
-/

namespace YourCloud.Assistant

open YourCloud.Foundation
open Chars (trim trimStart splitWhitespace lines byteLength stripPrefix stripSuffix contains)

def PACKAGE_BINARY : Chars := "/usr/lib/your-cloud/your-cloud".toList

def SUDO_BINARY : Chars := "/usr/bin/sudo".toList

/-- The subject the Auxiliary is invoked with. -/
def AUXILIARY_SUBJECT : Chars × Chars := ("auxiliary".toList, "approve".toList)

def REQUIRED_OPTIONS : List Chars :=
  ["restrict".toList, "no-agent-forwarding".toList, "no-port-forwarding".toList, "no-pty".toList,
    "no-user-rc".toList, "no-X11-forwarding".toList]

def KEY_ALGORITHM : Chars := "ssh-ed25519".toList

def MAX_ENTRY_BYTES : Nat := 1024

def forcedCommand : Chars :=
  SUDO_BINARY ++ " -n ".toList ++ PACKAGE_BINARY ++ " ".toList ++ AUXILIARY_SUBJECT.1 ++
    " ".toList ++ AUXILIARY_SUBJECT.2

structure BoundedEntry where
  algorithm : Chars
  key : Chars
  deriving DecidableEq, Repr

/-- Why an entry was refused. -/
inductive EntryRefusal where
  | empty
  | severalEntries (count : Nat)
  | tooLarge (bytes : Nat)
  | noOptions
  | missingRestriction (option : Chars)
  | noForcedCommand
  | forcedCommandNotExact (found : Chars)
  | forcedCommandCarriesTheClientCommand
  | unknownOption (option : Chars)
  | unsupportedAlgorithm (algorithm : Chars)
  | malformed
  deriving DecidableEq, Repr

def isBase64 (value : Chars) : Bool :=
  value != [] && value.all fun c => c.isAlphanum || c == '+' || c == '/' || c == '='

def commandOption : Chars := "command=\"".toList ++ forcedCommand ++ "\"".toList

/-- The entry installed for one public key. -/
def render (algorithm key : Chars) : Except EntryRefusal Chars :=
  if algorithm ≠ KEY_ALGORITHM then .error (.unsupportedAlgorithm algorithm)
  else if !isBase64 key then .error .malformed
  else
    let line := commandOption ++ ",".toList ++ [','].intercalate REQUIRED_OPTIONS ++
      " ".toList ++ algorithm ++ " ".toList ++ key ++ "\n".toList
    if MAX_ENTRY_BYTES < byteLength line then .error (.tooLarge (byteLength line)) else .ok line

/-- A character as the judge takes it up: byte by byte, each as a character. -/
def pushed (c : Char) : Chars := (String.utf8EncodeChar c).map fun b => Char.ofNat b.toNat

/-- The options of a line and what follows them. -/
def splitFrom (quoted escaped : Bool) (options : List Chars) (current : Chars) :
    Chars → Except EntryRefusal (List Chars × Chars)
  | [] => .error .malformed
  | c :: s =>
      if escaped then splitFrom quoted false options (current ++ pushed c) s
      else if c = '\\' && quoted then splitFrom quoted true options current s
      else if c = '"' then splitFrom (!quoted) false options (current ++ ['"']) s
      else if c = ',' && !quoted then splitFrom quoted false (options ++ [current]) [] s
      else if isBlank c && !quoted then .ok (options ++ [current], trimStart s)
      else splitFrom quoted false options (current ++ pushed c) s

def splitOptions (line : Chars) : Except EntryRefusal (List Chars × Chars) :=
  if KEY_ALGORITHM.isPrefixOf line then .ok ([], line) else splitFrom false false [] [] line

/-- One layer of quoting removed, if there is one. -/
def unquote (value : Chars) : Chars :=
  ((stripPrefix ['"'] (trim value)).bind (stripSuffix ['"'])).getD (trim value)

/-- The forced command among the options, the last where there are several. -/
def commandAmong (command : Option Chars) : List Chars → Except EntryRefusal (Option Chars)
  | [] => .ok command
  | option :: options =>
      match stripPrefix "command=".toList option with
      | some value => commandAmong (some (unquote value)) options
      | none =>
          if option ∈ REQUIRED_OPTIONS then commandAmong command options
          else .error (.unknownOption option)

def judgeLine (line : Chars) : Except EntryRefusal BoundedEntry := do
  let (options, remainder) ← splitOptions line
  if options = [] then .error .noOptions
  else
    match ← commandAmong none options with
    | none => .error .noForcedCommand
    | some command =>
        if contains "SSH_ORIGINAL_COMMAND".toList command then
          .error .forcedCommandCarriesTheClientCommand
        else if command ≠ forcedCommand then .error (.forcedCommandNotExact command)
        else
          match REQUIRED_OPTIONS.find? fun required => required ∉ options with
          | some required => .error (.missingRestriction required)
          | none =>
              match splitWhitespace remainder with
              | algorithm :: key :: _ =>
                  if algorithm ≠ KEY_ALGORITHM then .error (.unsupportedAlgorithm algorithm)
                  else if !isBase64 key then .error .malformed
                  else .ok ⟨algorithm, key⟩
              | _ => .error .malformed

/-- The one gate. -/
def judge (file : Chars) : Except EntryRefusal BoundedEntry :=
  if MAX_ENTRY_BYTES < byteLength file then .error (.tooLarge (byteLength file))
  else
    match ((lines file).map trim).filter fun line => line != [] && line.head? != some '#' with
    | [] => .error .empty
    | [line] => judgeLine line
    | several => .error (.severalEntries several.length)

/-! ## What the options of an entry grant -/

/-- The entry is forced to the one command, and nothing else is granted. -/
structure Bounded (entry : AuthorizedKey) : Prop where
  forced : entry.grants.forcedCommand = some forcedCommand
  closed : entry.grants.Closed
  environment : entry.grants.environment = []
  tunnel : entry.grants.tunnel = none

/-- The file holds one entry, and it is bounded. -/
def HoldsBounded (decodes : Chars → Chars → Bool) (file : Chars) : Prop :=
  ∃ entry, readFile decodes file = [entry] ∧ Bounded entry

/-- What one of the required options does. -/
structure Restricts (option : Chars) (g g' : Grants) : Prop where
  read : readOption g option = some g'
  forced : g'.forcedCommand = g.forcedCommand
  environment : g'.environment = g.environment
  tunnel : g'.tunnel = g.tunnel
  keeps : g.Closed → g'.Closed
  closes : option = "restrict".toList → g'.Closed

theorem readOption_required {option : Chars} (h : option ∈ REQUIRED_OPTIONS) (g : Grants) :
    ∃ g', Restricts option g g' := by
  simp only [REQUIRED_OPTIONS, List.mem_cons, List.not_mem_nil, or_false] at h
  rcases h with rfl | rfl | rfl | rfl | rfl | rfl
  · exact ⟨g.restricted, rfl, rfl, rfl, rfl, fun _ => ⟨rfl, rfl, rfl, rfl, rfl⟩,
      fun _ => ⟨rfl, rfl, rfl, rfl, rfl⟩⟩
  · exact ⟨{ g with agentForwarding := false }, rfl, rfl, rfl, rfl,
      fun h => ⟨h.pty, rfl, h.portForwarding, h.x11Forwarding, h.userRc⟩, fun h => by cases h⟩
  · exact ⟨{ g with portForwarding := false }, rfl, rfl, rfl, rfl,
      fun h => ⟨h.pty, h.agentForwarding, rfl, h.x11Forwarding, h.userRc⟩, fun h => by cases h⟩
  · exact ⟨{ g with pty := false }, rfl, rfl, rfl, rfl,
      fun h => ⟨rfl, h.agentForwarding, h.portForwarding, h.x11Forwarding, h.userRc⟩,
      fun h => by cases h⟩
  · exact ⟨{ g with userRc := false }, rfl, rfl, rfl, rfl,
      fun h => ⟨h.pty, h.agentForwarding, h.portForwarding, h.x11Forwarding, rfl⟩,
      fun h => by cases h⟩
  · exact ⟨{ g with x11Forwarding := false }, rfl, rfl, rfl, rfl,
      fun h => ⟨h.pty, h.agentForwarding, h.portForwarding, rfl, h.userRc⟩, fun h => by cases h⟩

theorem commandOption_eq : commandOption = "command=".toList ++ '"' :: (forcedCommand ++ ['"']) := by
  decide

/-- The one command needs no escape. -/
theorem forcedCommand_plain : ∀ c ∈ forcedCommand, c ≠ '\\' ∧ c ≠ '"' := by
  decide

theorem backslash_not_mem_commandOption : '\\' ∉ commandOption := by
  rw [commandOption_eq]
  simp only [List.mem_append, List.mem_cons, List.not_mem_nil, or_false, not_or]
  exact ⟨by decide, by decide, fun hmem => (forcedCommand_plain _ hmem).1 rfl, by decide⟩

theorem readOption_commandOption {g : Grants} (h : g.forcedCommand = none) :
    readOption g commandOption = some { g with forcedCommand := some forcedCommand } := by
  have hdequote : dequote ('"' :: (forcedCommand ++ ['"'])) = some forcedCommand := by
    decide
  rw [commandOption_eq, readOption_command, hdequote, Option.bind_some, h]
  rfl

/-- The required options, with one command among them, grant the command alone. -/
theorem foldlM_bounded {specs : List Chars} {g : Grants}
    (hspecs : ∀ spec ∈ specs, spec ∈ REQUIRED_OPTIONS ∨ spec = commandOption)
    (honce : specs.count commandOption ≤ 1)
    (hg : commandOption ∈ specs → g.forcedCommand = none) :
    ∃ g', specs.foldlM readOption g = some g' ∧ g'.environment = g.environment ∧
      g'.tunnel = g.tunnel ∧ (g.Closed ∨ "restrict".toList ∈ specs → g'.Closed) ∧
      (commandOption ∈ specs → g'.forcedCommand = some forcedCommand) ∧
      (commandOption ∉ specs → g'.forcedCommand = g.forcedCommand) := by
  induction specs generalizing g with
  | nil => exact ⟨g, rfl, rfl, rfl, by simp, by simp, fun _ => rfl⟩
  | cons first specs ih =>
      have hrest : ∀ spec ∈ specs, spec ∈ REQUIRED_OPTIONS ∨ spec = commandOption :=
        fun spec hmem => hspecs spec (List.mem_cons_of_mem first hmem)
      rcases hspecs first List.mem_cons_self with hfirst | rfl
      · obtain ⟨g₁, hg₁⟩ := readOption_required hfirst g
        have hne : first ≠ commandOption := by
          rintro rfl
          exact absurd hfirst (by decide)
        rw [List.count_cons_of_ne hne] at honce
        have hnone : commandOption ∈ specs → g₁.forcedCommand = none := by
          intro hmem
          rw [hg₁.forced, hg (List.mem_cons_of_mem first hmem)]
        obtain ⟨g', hfold, henvironment, htunnel, hclosed, hforced, hkept⟩ := ih hrest honce hnone
        refine ⟨g', ?_, henvironment.trans hg₁.environment, htunnel.trans hg₁.tunnel, ?_, ?_, ?_⟩
        · rw [List.foldlM_cons, hg₁.read]
          exact hfold
        · rintro (hopen | hmem)
          · exact hclosed (.inl (hg₁.keeps hopen))
          · rcases List.mem_cons.1 hmem with hrestrict | hmem
            · exact hclosed (.inl (hg₁.closes hrestrict.symm))
            · exact hclosed (.inr hmem)
        · intro hmem
          rcases List.mem_cons.1 hmem with heq | hmem
          · exact absurd heq.symm hne
          · exact hforced hmem
        · intro habsent
          rw [hkept fun hmem => habsent (List.mem_cons_of_mem first hmem), hg₁.forced]
      · rw [List.count_cons_self] at honce
        have hnone : commandOption ∉ specs := List.count_eq_zero.1 (by omega)
        obtain ⟨g', hfold, henvironment, htunnel, hclosed, -, -⟩ :=
          ih (g := { g with forcedCommand := some forcedCommand }) hrest (by omega)
            fun hmem => absurd hmem hnone
        refine ⟨g', ?_, henvironment, htunnel, ?_, fun _ => foldlM_forcedCommand hfold rfl,
          fun habsent => absurd List.mem_cons_self habsent⟩
        · rw [List.foldlM_cons, readOption_commandOption (hg List.mem_cons_self)]
          exact hfold
        · rintro (hopen | hmem)
          · exact hclosed (.inl ⟨hopen.pty, hopen.agentForwarding, hopen.portForwarding,
              hopen.x11Forwarding, hopen.userRc⟩)
          · rcases List.mem_cons.1 hmem with hrestrict | hmem
            · exact absurd hrestrict (by decide)
            · exact hclosed (.inr hmem)

/-! ## The two readers side by side -/

/-- A text as the judge takes it up. -/
def pushedAll (s : Chars) : Chars := s.flatMap pushed

theorem pushedAll_concat (s : Chars) (c : Char) : pushedAll (s ++ [c]) = pushedAll s ++ pushed c := by
  simp [pushedAll]

theorem pushed_ascii {c : Char} (h : c.toNat < 0x80) : pushed c = [c] := by
  have hle : c.val.toNat ≤ 127 := by
    show c.toNat ≤ 127
    omega
  unfold pushed String.utf8EncodeChar
  dsimp only
  rw [if_pos hle]
  show [Char.ofNat (UInt8.ofNat c.toNat).toNat] = [c]
  rw [UInt8.toNat_ofNat', Nat.mod_eq_of_lt (by omega), Char.ofNat_toNat]

theorem toNat_ofNat_byte (b : UInt8) : (Char.ofNat b.toNat).toNat = b.toNat := by
  have h := b.toNat_lt
  unfold Char.ofNat
  rw [dif_pos (by left; omega)]
  rfl

/-- A character past ASCII begins with a byte past ASCII. -/
theorem pushed_head {c : Char} (h : 0x80 ≤ c.toNat) : ∃ d t, pushed c = d :: t ∧ 0x80 ≤ d.toNat := by
  have hbytes : ∃ b t, String.utf8EncodeChar c = b :: t ∧ 0x80 ≤ b.toNat := by
    have hv : c.val.toNat = c.toNat := rfl
    unfold String.utf8EncodeChar
    dsimp only
    rw [hv, if_neg (by omega)]
    split
    · exact ⟨_, _, rfl, by rw [UInt8.toNat_ofNat']; omega⟩
    split
    · exact ⟨_, _, rfl, by rw [UInt8.toNat_ofNat']; omega⟩
    · exact ⟨_, _, rfl, by rw [UInt8.toNat_ofNat']; omega⟩
  obtain ⟨b, t, hencode, hb⟩ := hbytes
  refine ⟨Char.ofNat b.toNat, t.map fun b => Char.ofNat b.toNat, ?_, ?_⟩
  · rw [pushed, hencode, List.map_cons]
  · rwa [toNat_ofNat_byte]

/-- Words of ASCII characters are found only where they were. -/
theorem prefix_of_pushedAll {word s : Chars} (hword : ∀ c ∈ word, c.toNat < 0x80)
    (h : word <+: pushedAll s) : word <+: s := by
  induction word generalizing s with
  | nil => exact List.nil_prefix
  | cons c word ih =>
      cases s with
      | nil =>
          have := h.length_le
          simp [pushedAll] at this
      | cons d s =>
          by_cases hd : d.toNat < 0x80
          · rw [pushedAll, List.flatMap_cons, pushed_ascii hd, List.singleton_append,
              List.cons_prefix_cons] at h
            exact List.cons_prefix_cons.2
              ⟨h.1, ih (fun c hc => hword c (List.mem_cons_of_mem _ hc)) h.2⟩
          · obtain ⟨e, t, hpushed, he⟩ := pushed_head (Nat.le_of_not_lt hd)
            rw [pushedAll, List.flatMap_cons, hpushed, List.cons_append, List.cons_prefix_cons] at h
            have hc := hword c List.mem_cons_self
            rw [h.1] at hc
            omega

theorem pushedAll_ascii {word : Chars} (hword : ∀ c ∈ word, c.toNat < 0x80) :
    pushedAll word = word := by
  induction word with
  | nil => rfl
  | cons c word ih =>
      rw [pushedAll, List.flatMap_cons, pushed_ascii (hword c List.mem_cons_self)]
      exact congrArg (c :: ·) (ih fun d hd => hword d (List.mem_cons_of_mem c hd))

theorem eq_of_pushedAll {word s : Chars} (hword : ∀ c ∈ word, c.toNat < 0x80)
    (h : pushedAll s = word) : s = word := by
  have hprefix : word <+: pushedAll s := by rw [h]
  obtain ⟨t, rfl⟩ := prefix_of_pushedAll hword hprefix
  have hrest : pushedAll t = [] := by
    have happend : pushedAll (word ++ t) = pushedAll word ++ pushedAll t := List.flatMap_append
    rw [happend, pushedAll_ascii hword] at h
    exact List.append_right_eq_self.1 h
  cases t with
  | nil => rw [List.append_nil]
  | cons c t =>
      rw [pushedAll, List.flatMap_cons, List.append_eq_nil_iff] at hrest
      by_cases hc : c.toNat < 0x80
      · rw [pushed_ascii hc] at hrest
        cases hrest.1
      · obtain ⟨d, rest, hpushed, -⟩ := pushed_head (Nat.le_of_not_lt hc)
        rw [hpushed] at hrest
        cases hrest.1

/-- A word found at the start of a text that goes on with a character it does not have. -/
theorem prefix_of_concat {word before s : Chars} {c : Char} (hc : c ∉ word) (hword : word <+: s)
    (h : before ++ [c] <+: s) : word <+: before := by
  rcases List.prefix_or_prefix_of_prefix hword h with hshort | hlong
  · rcases List.prefix_concat_iff.1 hshort with rfl | hshort
    · simp at hc
    · exact hshort
  · have hmem : c ∈ before ++ [c] := by simp
    exact absurd (hlong.mem hmem) hc

/-- A character is added to an option, or escapes the next, or ends an option or the options. -/
theorem splitFrom_cons (quoted escaped : Bool) (options : List Chars) (current : Chars) (c : Char)
    (s : Chars) :
    (∃ q e more, splitFrom quoted escaped options current (c :: s) =
        splitFrom q e options (current ++ more) s) ∨
      splitFrom quoted escaped options current (c :: s) =
        splitFrom quoted false (options ++ [current]) [] s ∨
      splitFrom quoted escaped options current (c :: s) = .ok (options ++ [current], trimStart s) := by
  rw [splitFrom]
  split
  · exact .inl ⟨_, _, _, rfl⟩
  split
  · exact .inl ⟨quoted, true, [], by rw [List.append_nil]⟩
  split
  · exact .inl ⟨_, _, _, rfl⟩
  split
  · exact .inr (.inl rfl)
  split
  · exact .inr (.inr rfl)
  · exact .inl ⟨_, _, _, rfl⟩

/-- What was taken up of an option stays at its start. -/
theorem splitFrom_mem {quoted escaped : Bool} {options result : List Chars}
    {current s remainder : Chars}
    (h : splitFrom quoted escaped options current s = .ok (result, remainder)) :
    options <+: result ∧ ∃ option ∈ result, current <+: option := by
  induction s generalizing quoted escaped options current with
  | nil => cases h
  | cons c s ih =>
      rcases splitFrom_cons quoted escaped options current c s with ⟨q, e, more, hstep⟩ | hstep | hstep
      · rw [hstep] at h
        obtain ⟨hoptions, option, hmem, hcurrent⟩ := ih h
        exact ⟨hoptions, option, hmem, (List.prefix_append _ _).trans hcurrent⟩
      · rw [hstep] at h
        obtain ⟨hoptions, -⟩ := ih h
        refine ⟨(List.prefix_append _ _).trans hoptions, current, ?_, List.prefix_rfl⟩
        exact hoptions.subset (List.mem_append_right _ List.mem_cons_self)
      · rw [hstep] at h
        cases h
        exact ⟨List.prefix_append _ _, current, by simp, List.prefix_rfl⟩

/-- The two readers cut a text alike, and none of the options holds a backslash. -/
def CutAlike (quoted : Bool) (specs : List Chars) (current s tail : Chars) (options : List Chars)
    (remainder : Chars) : Prop :=
  ∃ result rest, readSpecs quoted false specs current (s ++ tail) = some (result, rest ++ tail) ∧
    options = result.map pushedAll ∧ remainder = trimStart rest ∧
    (∀ spec ∈ result, '\\' ∉ spec) ∧ ∃ c t, rest = c :: t ∧ isBlank c = true

/-- They come to a backslash in one of the options, in a quoted part of it or not. -/
def CutApart (quoted : Bool) (specs : List Chars) (current s tail : Chars) (options : List Chars) :
    Prop :=
  ∃ found, (∃ option ∈ options, ('"' ∈ found ∧ pushedAll found <+: option) ∨
      pushedAll found ++ ['\\'] <+: option) ∧
    ∀ result rest, readSpecs quoted false specs current (s ++ tail) = some (result, rest) →
      ∃ spec ∈ result, found ++ ['\\'] <+: spec

/-- Up to the first backslash the two readers cut alike. -/
theorem splitFrom_sync {quoted : Bool} {specs options : List Chars} {current s remainder : Chars}
    (tail : Chars) (hquoted : quoted = true → '"' ∈ current) (hcurrent : '\\' ∉ current)
    (hspecs : ∀ spec ∈ specs, '\\' ∉ spec)
    (h : splitFrom quoted false (specs.map pushedAll) (pushedAll current) s =
      .ok (options, remainder)) :
    CutAlike quoted specs current s tail options remainder ∨
      CutApart quoted specs current s tail options := by
  induction s generalizing quoted specs current with
  | nil => cases h
  | cons c s ih =>
      by_cases hbackslash : c = '\\'
      · right
        subst hbackslash
        refine ⟨current, ?_, ?_⟩
        · cases quoted with
          | true =>
              rw [splitFrom, if_neg Bool.false_ne_true, if_pos (by decide)] at h
              obtain ⟨-, option, hmem, hprefix⟩ := splitFrom_mem h
              exact ⟨option, hmem, .inl ⟨hquoted rfl, hprefix⟩⟩
          | false =>
              rw [splitFrom, if_neg Bool.false_ne_true, if_neg (by decide), if_neg (by decide),
                if_neg (by decide), if_neg (by decide)] at h
              obtain ⟨-, option, hmem, hprefix⟩ := splitFrom_mem h
              exact ⟨option, hmem, .inr hprefix⟩
        · intro result rest hread
          rw [List.cons_append, readSpecs, if_neg Bool.false_ne_true, if_pos rfl] at hread
          obtain ⟨-, spec, hmem, hprefix⟩ := readSpecs_mem hread
          exact ⟨spec, hmem, hprefix⟩
      · -- The readers go on alike from the same options, at whatever quotation.
        have hgo : ∀ {q : Bool} {specs' : List Chars} {current' : Chars},
            (q = true → '"' ∈ current') → '\\' ∉ current' → (∀ spec ∈ specs', '\\' ∉ spec) →
            splitFrom q false (specs'.map pushedAll) (pushedAll current') s =
              .ok (options, remainder) →
            readSpecs quoted false specs current (c :: (s ++ tail)) =
              readSpecs q false specs' current' (s ++ tail) →
            CutAlike quoted specs current (c :: s) tail options remainder ∨
              CutApart quoted specs current (c :: s) tail options := by
          intro q specs' current' hq hcurrent' hspecs' hsplit hread
          unfold CutAlike CutApart
          rw [List.cons_append, hread]
          exact ih hq hcurrent' hspecs' hsplit
        have hplain : '\\' ∉ current ++ [c] := by
          simpa [hcurrent] using Ne.symm hbackslash
        rw [splitFrom, if_neg Bool.false_ne_true, if_neg (by simp [hbackslash])] at h
        have hread : readSpecs quoted false specs current (c :: (s ++ tail)) =
            if c = '"' then readSpecs (!quoted) false specs (current ++ [c]) (s ++ tail)
            else if c = ',' && !quoted then readSpecs quoted false (specs ++ [current]) [] (s ++ tail)
            else if isBlank c && !quoted then some (specs ++ [current], c :: (s ++ tail))
            else readSpecs quoted false specs (current ++ [c]) (s ++ tail) := by
          rw [readSpecs, if_neg Bool.false_ne_true, if_neg hbackslash]
        by_cases hquote : c = '"'
        · subst hquote
          rw [if_pos rfl] at h hread
          refine hgo (fun _ => by simp) hplain hspecs ?_ hread
          rw [pushedAll_concat]
          exact h
        rw [if_neg hquote] at h hread
        by_cases hcomma : (c = ',' && !quoted) = true
        · rw [if_pos hcomma] at h hread
          refine hgo ?_ (by simp) ?_ ?_ hread
          · intro hq
            simp [hq] at hcomma
          · intro spec hmem
            rcases List.mem_append.1 hmem with hmem | hmem
            · exact hspecs spec hmem
            · rwa [List.mem_singleton.1 hmem]
          · rw [List.map_append]
            exact h
        rw [if_neg hcomma] at h hread
        by_cases hblank : (isBlank c && !quoted) = true
        · have hspace : isBlank c = true := (Bool.and_eq_true_iff.1 hblank).1
          rw [if_pos hblank] at h hread
          cases h
          left
          refine ⟨specs ++ [current], c :: s, ?_, ?_, ?_, ?_, c, s, rfl, ?_⟩
          · exact hread
          · simp
          · exact (List.dropWhile_cons_of_pos (isWhitespace_of_isBlank hspace)).symm
          · intro spec hmem
            rcases List.mem_append.1 hmem with hmem | hmem
            · exact hspecs spec hmem
            · rwa [List.mem_singleton.1 hmem]
          · exact hspace
        rw [if_neg hblank] at h hread
        refine hgo ?_ hplain hspecs ?_ hread
        · intro hq
          exact List.mem_append_left _ (hquoted hq)
        · rw [pushedAll_concat]
          exact h

/-! ## What an accepted file is -/

theorem commandAmong_listed {options : List Chars} {command result : Option Chars}
    (h : commandAmong command options = .ok result) :
    ∀ option ∈ options, option ∈ REQUIRED_OPTIONS ∨ "command=".toList <+: option := by
  induction options generalizing command with
  | nil => exact fun _ hmem => by cases hmem
  | cons first options ih =>
      rw [commandAmong] at h
      intro option hmem
      cases hfirst : stripPrefix "command=".toList first with
      | some value =>
          rw [hfirst] at h
          rcases List.mem_cons.1 hmem with rfl | hmem
          · right
            unfold stripPrefix at hfirst
            split at hfirst
            · exact List.isPrefixOf_iff_prefix.1 ‹_›
            · cases hfirst
          · exact ih h option hmem
      | none =>
          rw [hfirst] at h
          dsimp only at h
          split at h
          · rcases List.mem_cons.1 hmem with rfl | hmem
            · exact .inl ‹_›
            · exact ih h option hmem
          · cases h

/-- What an accepted line is, as the judge cuts it. -/
structure Accepted (line : Chars) (entry : BoundedEntry) (options : List Chars)
    (remainder : Chars) : Prop where
  cut : splitFrom false false [] [] line = .ok (options, remainder)
  listed : ∀ option ∈ options, option ∈ REQUIRED_OPTIONS ∨ "command=".toList <+: option
  required : ∀ option ∈ REQUIRED_OPTIONS, option ∈ options
  words : ∃ rest, splitWhitespace remainder = KEY_ALGORITHM :: entry.key :: rest

theorem judgeLine_accepted {line : Chars} {entry : BoundedEntry}
    (h : judgeLine line = .ok entry) : ∃ options remainder, Accepted line entry options remainder := by
  unfold judgeLine at h
  cases hcut : splitOptions line with
  | error why =>
      rw [hcut] at h
      cases h
  | ok parts =>
      obtain ⟨options, remainder⟩ := parts
      rw [hcut] at h
      simp only [bind, Except.bind] at h
      split at h
      · cases h
      rename_i hoptions
      cases hcommand : commandAmong none options with
      | error why =>
          rw [hcommand] at h
          cases h
      | ok command =>
          rw [hcommand] at h
          have hsplit : splitFrom false false [] [] line = .ok (options, remainder) := by
            unfold splitOptions at hcut
            split at hcut
            · cases hcut
              exact absurd rfl hoptions
            · exact hcut
          cases command with
          | none => cases h
          | some command =>
              dsimp only at h
              split at h
              · cases h
              split at h
              · cases h
              split at h
              · cases h
              rename_i hfind
              split at h
              · rename_i algorithm key rest hwords
                split at h
                · cases h
                rename_i halgorithm
                split at h
                · cases h
                cases h
                refine ⟨options, remainder, hsplit, commandAmong_listed hcommand, ?_, rest, ?_⟩
                · intro required hmem
                  simpa using List.find?_eq_none.1 hfind required hmem
                · rw [hwords, not_not.1 halgorithm]
              · cases h

/-- The lines that are neither empty nor comments, whichever way lines end. -/
theorem judged_lines (file : Chars) :
    (((lines file).map trim).filter fun line => line != [] && line.head? != some '#') =
      ((file.splitOn '\n').map trim).filter fun line => line != [] && line.head? != some '#' := by
  have hfilter : ∀ pieces : List Chars,
      pieces.filter (fun line => line != [] && line.head? != some '#') =
        (pieces.filter (· ≠ [])).filter fun line => line.head? != some '#' := by
    intro pieces
    rw [List.filter_filter]
    congr 1
    funext line
    by_cases hline : line = [] <;> simp [hline]
  rw [hfilter, trimmed_lines, ← hfilter]

/-- An accepted file has one line that is neither empty nor a comment. -/
theorem judge_accepted {file : Chars} {entry : BoundedEntry} (h : judge file = .ok entry) :
    ∃ line, (((file.splitOn '\n').map trim).filter fun line =>
      line != [] && line.head? != some '#') = [line] ∧ judgeLine line = .ok entry := by
  unfold judge at h
  split at h
  · cases h
  rw [judged_lines] at h
  split at h
  · cases h
  · rename_i line hline
    exact ⟨line, hline, h⟩
  · cases h

/-- What is read of an accepted file is what is read of that line. -/
theorem readFile_accepted (decodes : Chars → Chars → Bool) {file line : Chars}
    (h : (((file.splitOn '\n').map trim).filter fun line =>
      line != [] && line.head? != some '#') = [line]) :
    ∃ raw, trim raw = line ∧ raw ∈ file.splitOn '\n' ∧
      (∀ other ∈ file.splitOn '\n', (readLine decodes other).isSome → other = raw) ∧
      readFile decodes file = (readLine decodes raw).toList := by
  rw [List.filter_map, List.map_eq_singleton_iff] at h
  obtain ⟨raw, hraw, rfl⟩ := h
  have hpassed : ∀ line, ¬ (trim line != [] && (trim line).head? != some '#') = true →
      readLine decodes line = none := by
    intro line hpassed
    apply readLine_eq_none
    by_cases hempty : trim line = []
    · exact .inl (trimStart_of_trim hempty)
    · have hhead : (trim line).head? = some '#' := by
        simpa [hempty] using hpassed
      obtain ⟨s, hs⟩ := List.head?_eq_some_iff.1 hhead
      obtain ⟨t, ht⟩ := trim_prefix line
      exact .inr ⟨s ++ t, by rw [← ht, hs, List.cons_append]⟩
  refine ⟨raw, rfl, ?_, ?_, ?_⟩
  · have hmem : raw ∈ [raw] := List.mem_singleton_self raw
    rw [← hraw] at hmem
    exact List.mem_of_mem_filter hmem
  · intro other hother hread
    by_contra hne
    have hout : other ∉ [raw] := by simpa using hne
    rw [← hraw, List.mem_filter] at hout
    rw [hpassed other fun hkept => hout ⟨hother, hkept⟩] at hread
    cases hread
  · have hone : ([raw] : List Chars).filterMap (readLine decodes) =
        (readLine decodes raw).toList := by
      cases hread : readLine decodes raw <;> simp [hread]
    rw [← hone, ← hraw, List.filterMap_filter]
    unfold readFile
    apply List.filterMap_congr
    intro line _
    split
    · rfl
    · rename_i hkept
      exact hpassed line hkept

/-! ## Files that are written plainly -/

/-- A line of options without a backslash, one command among them, and a key that decodes, with
spaces and tabs between them. -/
structure PlainLine (decodes : Chars → Chars → Bool) (lead : Chars) (before : List Chars)
    (last gap inner key tail : Chars) : Prop where
  leading : ∀ c ∈ lead, isBlank c = true
  parted : gap ≠ [] ∧ ∀ c ∈ gap, isBlank c = true
  typed : inner ≠ [] ∧ ∀ c ∈ inner, isBlank c = true
  listed : ∀ spec ∈ before ++ [last], spec ∈ REQUIRED_OPTIONS ∨ spec = commandOption
  once : (before ++ [last]).count commandOption = 1
  unbroken : key ≠ [] ∧ ∀ c ∈ key, isBlank c = false
  ended : ∀ c ∈ tail.head?, isBlank c = true
  decoded : decodes KEY_ALGORITHM key = true

/-- One of the lines of a file is written plainly. -/
def WrittenPlainly (decodes : Chars → Chars → Bool) (file : Chars) : Prop :=
  ∃ lead before last gap inner key tail,
    PlainLine decodes lead before last gap inner key tail ∧
      lead ++ (joined before last ++ (gap ++ (KEY_ALGORITHM ++ (inner ++ (key ++ tail))))) ∈
        file.splitOn '\n'

theorem passes_listed {spec : Chars} (h : spec ∈ REQUIRED_OPTIONS ∨ spec = commandOption) :
    Passes spec := by
  rcases h with h | rfl
  · apply passes_word
    revert spec
    decide
  · rw [commandOption_eq]
    exact passes_quoted (by decide) forcedCommand_plain

/-- How a listed option begins, which is not how the type of a key does. -/
theorem listed_head {spec : Chars} (h : spec ∈ REQUIRED_OPTIONS ∨ spec = commandOption) :
    ∃ c s, spec = c :: s ∧ c ∈ ['r', 'n', 'c'] := by
  have hall : ∀ spec ∈ commandOption :: REQUIRED_OPTIONS, spec.head?.any (· ∈ ['r', 'n', 'c']) := by
    decide
  have hspec := hall spec (by rcases h with h | rfl <;> simp [*])
  cases spec with
  | nil => cases hspec
  | cons c s => exact ⟨c, s, rfl, by simpa using hspec⟩

/-- What is read of a line written plainly: its options, and that they force the one command. -/
structure ReadPlainly (decodes : Chars → Chars → Bool) (raw text rest : Chars) (specs : List Chars)
    (entry : AuthorizedKey) : Prop where
  read : readLine decodes raw = some entry
  start : trimStart raw = text
  cut : readSpecs false false [] [] text = some (specs, rest)
  fold : specs.foldlM readOption {} = some entry.grants
  forced : entry.grants.forcedCommand = some forcedCommand
  closed : "restrict".toList ∈ specs → entry.grants.Closed
  environment : entry.grants.environment = []
  tunnel : entry.grants.tunnel = none

theorem PlainLine.readPlainly {decodes : Chars → Chars → Bool}
    {lead last gap inner key tail : Chars} {before : List Chars}
    (h : PlainLine decodes lead before last gap inner key tail) :
    ∃ text rest entry, ReadPlainly decodes
      (lead ++ (joined before last ++ (gap ++ (KEY_ALGORITHM ++ (inner ++ (key ++ tail)))))) text rest
      (before ++ [last]) entry := by
  have hkey : readKey decodes (KEY_ALGORITHM ++ (inner ++ (key ++ tail))) =
      some (KEY_ALGORITHM, key) :=
    readKey_append (by decide) h.typed h.unbroken h.ended h.decoded
  obtain ⟨c, s, htext, hc⟩ : ∃ c s, joined before last = c :: s ∧ c ∈ ['r', 'n', 'c'] := by
    cases before with
    | nil => exact listed_head (h.listed last (by simp))
    | cons first before =>
        obtain ⟨c, s, rfl, hc⟩ := listed_head (h.listed first (by simp))
        exact ⟨c, _, rfl, hc⟩
  obtain ⟨d, t, rfl⟩ := List.exists_cons_of_ne_nil h.parted.1
  have hspecs := readSpecs_intercalate (fun spec hmem => passes_listed (h.listed spec hmem))
    (h.parted.2 d List.mem_cons_self) [] (t ++ (KEY_ALGORITHM ++ (inner ++ (key ++ tail))))
  obtain ⟨grants, hfold, henvironment, htunnel, hclosed, hforced, -⟩ :=
    foldlM_bounded (g := {}) h.listed (le_of_eq h.once) fun _ => rfl
  have hmem : commandOption ∈ before ++ [last] := List.one_le_count_iff.1 (le_of_eq h.once.symm)
  have hplain : ∀ c ∈ ['r', 'n', 'c'], c ≠ '#' ∧ isWhitespace c = false ∧ isBlank c = false ∧
      ∀ word ∈ keyTypes, word.toList.head? ≠ some c := by
    decide
  obtain ⟨hcomment, hspace, hblank, htypes⟩ := hplain c hc
  rw [htext] at hspecs ⊢
  refine ⟨_, _, ⟨KEY_ALGORITHM, key, grants⟩, ?_, ?_, hspecs, hfold, hforced hmem,
    fun hrequired => hclosed (.inr hrequired), henvironment, htunnel⟩
  swap
  · have hlead : ∀ e ∈ lead, isWhitespace e = true :=
      fun e he => isWhitespace_of_isBlank (h.leading e he)
    exact (span_append hlead fun e he => by cases he; exact hspace).2
  unfold readLine
  rw [(span_append h.leading fun e he => by cases he; exact hblank).2, List.cons_append]
  dsimp only
  rw [if_neg hcomment]
  unfold readEntry
  rw [readKey_cons hblank htypes]
  dsimp only
  have hread : readSpecs false false [] []
      (c :: (s ++ (d :: t ++ (KEY_ALGORITHM ++ (inner ++ (key ++ tail)))))) =
        some (before ++ [last], d :: t ++ (KEY_ALGORITHM ++ (inner ++ (key ++ tail)))) :=
    hspecs
  have hend : ∀ e ∈ (KEY_ALGORITHM ++ (inner ++ (key ++ tail))).head?, isBlank e = false := by
    intro e he
    cases he
    rfl
  rw [hread]
  dsimp only
  rw [(span_append h.parted.2 hend).2, hkey]
  dsimp only
  rw [hfold]
  rfl

/-- Where the options were read and force the one command, it is named by that option. -/
theorem command_eq {specs : List Chars} {g grants : Grants} {s : Chars}
    (hfold : specs.foldlM readOption g = some grants)
    (hforced : grants.forcedCommand = some forcedCommand) (hmem : "command=".toList ++ s ∈ specs) :
    "command=".toList ++ s = commandOption := by
  obtain ⟨value, hvalue, hcommand⟩ := foldlM_command hfold hmem
  rw [hforced] at hcommand
  cases hcommand
  rw [dequote_eq hvalue fun hmem => (forcedCommand_plain _ hmem).2 rfl, commandOption_eq]

/-- A line whose options hold a backslash does not force the one command. -/
theorem not_cutApart {quoted : Bool} {options specs : List Chars} {s tail rest : Chars}
    {g grants : Grants}
    (hlisted : ∀ option ∈ options, option ∈ REQUIRED_OPTIONS ∨ "command=".toList <+: option)
    (hread : readSpecs quoted false [] [] (s ++ tail) = some (specs, rest))
    (hfold : specs.foldlM readOption g = some grants)
    (hforced : grants.forcedCommand = some forcedCommand) :
    ¬ CutApart quoted [] [] s tail options := by
  rintro ⟨found, ⟨option, hoption, hfound⟩, hspecs⟩
  obtain ⟨spec, hspec, w, rfl⟩ := hspecs specs rest hread
  have hrequired : option ∉ REQUIRED_OPTIONS := by
    intro hmem
    have hplain : ∀ option ∈ REQUIRED_OPTIONS, '"' ∉ option ∧ '\\' ∉ option := by decide
    rcases hfound with ⟨hquote, hstart⟩ | hstart
    · have hpushed : '"' ∈ pushedAll found := List.mem_flatMap.2 ⟨'"', hquote, by decide⟩
      exact (hplain option hmem).1 (hstart.subset hpushed)
    · exact (hplain option hmem).2 (hstart.subset (by simp))
  have hcommand : "command=".toList <+: option := (hlisted option hoption).resolve_left hrequired
  have hfirst : "command=".toList <+: pushedAll found := by
    rcases hfound with ⟨hquote, hstart⟩ | hstart
    · rcases List.prefix_or_prefix_of_prefix hcommand hstart with hshort | hlong
      · exact hshort
      · have hpushed : '"' ∈ pushedAll found := List.mem_flatMap.2 ⟨'"', hquote, by decide⟩
        exact absurd (hlong.subset hpushed) (by decide)
    · exact prefix_of_concat (by decide) hcommand hstart
  obtain ⟨f, rfl⟩ := prefix_of_pushedAll (by decide) hfirst
  rw [List.append_assoc, List.append_assoc] at hspec
  have heq := command_eq hfold hforced hspec
  have hbackslash : '\\' ∈ commandOption := by
    rw [← heq]
    simp
  exact backslash_not_mem_commandOption hbackslash

/-- The options of a line, and the key that follows them, are written plainly. -/
theorem plainLine_of_read {decodes : Chars → Chars → Bool} {lead rest tail algorithm key found : Chars}
    {specs words : List Chars} {c : Char} {t : Chars}
    (hlead : ∀ c ∈ lead, isBlank c = true) (hrest : rest = c :: t) (hc : isBlank c = true)
    (htail : ∀ c ∈ tail, isWhitespace c = true)
    (hlisted : ∀ spec ∈ specs, spec ∈ REQUIRED_OPTIONS ∨ spec = commandOption)
    (honce : specs.count commandOption = 1)
    (hwords : splitWhitespace rest = KEY_ALGORITHM :: found :: words)
    (hkey : readKey decodes ((rest ++ tail).dropWhile isBlank) = some (algorithm, key)) :
    ∃ gap inner after, rest ++ tail = gap ++ (KEY_ALGORITHM ++ (inner ++ (key ++ after))) ∧
      ∀ before last, specs = before ++ [last] →
        PlainLine decodes lead before last gap inner key after := by
  generalize hafter : (rest ++ tail).dropWhile isBlank = after at hkey
  have htext : rest ++ tail = (rest ++ tail).takeWhile isBlank ++ after := by
    rw [← hafter, List.takeWhile_append_dropWhile]
  have hgap : (rest ++ tail).takeWhile isBlank ≠ [] := by
    rw [hrest, List.cons_append, List.takeWhile_cons_of_pos hc]
    exact List.cons_ne_nil _ _
  have hafterWords : splitWhitespace after = KEY_ALGORITHM :: found :: words := by
    rw [← hafter, splitWhitespace_dropBlanks, splitWhitespace_append_space htail, hwords]
  unfold readKey at hkey
  dsimp only at hkey
  split at hkey
  · rename_i htype
    obtain ⟨hmem, hdecoded⟩ := htype
    generalize hmore : after.dropWhile (!isBlank ·) = more at hkey hdecoded
    have hsplit : after = after.takeWhile (!isBlank ·) ++ more := by
      rw [← hmore, List.takeWhile_append_dropWhile]
    generalize after.takeWhile (!isBlank ·) = first at hkey hmem hsplit hdecoded
    cases hkey
    have hmoreHead : ∀ c ∈ more.head?, isBlank c = true := by
      intro d hd
      rw [← hmore] at hd
      simpa using dropWhile_head? after d hd
    have htypes : ∀ word ∈ keyTypes.map String.toList,
        word ≠ [] ∧ ∀ c ∈ word, isWhitespace c = false := by
      decide
    rw [hsplit, splitWhitespace_append (htypes algorithm hmem).2 (htypes algorithm hmem).1
      fun d hd => isWhitespace_of_isBlank (hmoreHead d hd)] at hafterWords
    obtain ⟨rfl, hmoreWords⟩ := List.cons.inj hafterWords
    generalize hlast : more.dropWhile isBlank = last at hdecoded
    have hparts : more = more.takeWhile isBlank ++ (last.takeWhile (!isBlank ·) ++
        last.dropWhile (!isBlank ·)) := by
      rw [List.takeWhile_append_dropWhile, ← hlast, List.takeWhile_append_dropWhile]
    have hlastWords : splitWhitespace last = found :: words := by
      rw [← hlast, splitWhitespace_dropBlanks, hmoreWords]
    refine ⟨(rest ++ tail).takeWhile isBlank, more.takeWhile isBlank,
      last.dropWhile (!isBlank ·), ?_, ?_⟩
    · exact htext.trans (congrArg _ (hsplit.trans (congrArg _ hparts)))
    · rintro before final rfl
      constructor
      · exact hlead
      · exact ⟨hgap, fun d hd => List.mem_takeWhile_imp hd⟩
      · refine ⟨?_, fun d hd => List.mem_takeWhile_imp hd⟩
        cases hcons : more with
        | nil =>
            rw [hcons, splitWhitespace_nil] at hmoreWords
            cases hmoreWords
        | cons d more =>
            rw [List.takeWhile_cons_of_pos (hmoreHead d (by rw [hcons]; rfl))]
            exact List.cons_ne_nil _ _
      · exact hlisted
      · exact honce
      · refine ⟨?_, fun d hd => by simpa using List.mem_takeWhile_imp hd⟩
        cases hcons : last with
        | nil =>
            rw [hcons, splitWhitespace_nil] at hlastWords
            cases hlastWords
        | cons d last =>
            rw [hcons] at hlast
            rw [List.takeWhile_cons_of_pos (by simp [dropWhile_head hlast])]
            exact List.cons_ne_nil _ _
      · intro d hd
        simpa using dropWhile_head? last d hd
      · exact hdecoded
  · cases hkey

/-- The options the judge took up are those of its list. -/
theorem listed_of_pushed {specs : List Chars} {g grants : Grants}
    (hlisted : ∀ option ∈ specs.map pushedAll,
      option ∈ REQUIRED_OPTIONS ∨ "command=".toList <+: option)
    (hfold : specs.foldlM readOption g = some grants)
    (hforced : grants.forcedCommand = some forcedCommand) {spec : Chars} (hmem : spec ∈ specs) :
    spec ∈ REQUIRED_OPTIONS ∨ spec = commandOption := by
  have hascii : ∀ option ∈ REQUIRED_OPTIONS, ∀ c ∈ option, c.toNat < 0x80 := by decide
  rcases hlisted (pushedAll spec) (List.mem_map_of_mem hmem) with hrequired | hcommand
  · left
    have heq : spec = pushedAll spec := eq_of_pushedAll (hascii _ hrequired) rfl
    rwa [heq]
  · right
    obtain ⟨s, rfl⟩ := prefix_of_pushedAll (by decide) hcommand
    exact command_eq hfold hforced hmem

/-- Options that were read and force the one command name it once. -/
theorem command_once {specs : List Chars} {grants : Grants}
    (hlisted : ∀ spec ∈ specs, spec ∈ REQUIRED_OPTIONS ∨ spec = commandOption)
    (hfold : specs.foldlM readOption {} = some grants)
    (hforced : grants.forcedCommand = some forcedCommand) : specs.count commandOption = 1 := by
  have hmost : specs.count commandOption ≤ 1 :=
    foldlM_count hfold commandOption_eq
  have hleast : commandOption ∈ specs := by
    by_contra habsent
    obtain ⟨g', hfold', -, -, -, -, hkept⟩ :=
      foldlM_bounded (g := {}) hlisted hmost fun hmem => absurd hmem habsent
    rw [hfold] at hfold'
    cases hfold'
    rw [hkept habsent] at hforced
    cases hforced
  have hcount := List.count_pos_iff.2 hleast
  omega

/-- A line that is read as one bounded entry, and that the judge accepts, is written plainly. -/
theorem plain_of_bounded {decodes : Chars → Chars → Bool} {raw remainder : Chars}
    {options : List Chars} {accepted : BoundedEntry} {entry : AuthorizedKey}
    (haccepted : Accepted (trim raw) accepted options remainder)
    (hread : readLine decodes raw = some entry) (hbounded : Bounded entry) :
    ∃ lead before last gap inner key tail,
      PlainLine decodes lead before last gap inner key tail ∧
        raw = lead ++ (joined before last ++ (gap ++ (KEY_ALGORITHM ++ (inner ++ (key ++ tail))))) := by
  unfold readLine at hread
  cases hraw : raw.dropWhile isBlank with
  | nil =>
      rw [hraw] at hread
      cases hread
  | cons c s =>
      rw [hraw] at hread
      dsimp only at hread
      split at hread
      · cases hread
      have hspace : isWhitespace c = false := by
        by_contra hspace
        rw [readEntry_space (Bool.eq_true_of_not_eq_false hspace) (dropWhile_head hraw)] at hread
        cases hread
      have htrim : trimStart raw = c :: s := by
        rw [← trimStart_dropBlanks, hraw, trimStart, List.dropWhile_cons_of_neg (by simp [hspace])]
      obtain ⟨tail, htail⟩ : ∃ tail, trim raw ++ tail = c :: s ∧
          ∀ d ∈ tail, isWhitespace d = true := by
        refine ⟨(trimStart raw).rtakeWhile isWhitespace, ?_, fun d hd => List.mem_rtakeWhile_imp hd⟩
        rw [← htrim]
        exact List.rdropWhile_append_rtakeWhile ..
      unfold readEntry at hread
      cases hfirst : readKey decodes (c :: s) with
      | some found =>
          rw [hfirst] at hread
          cases hread
          cases hbounded.forced
      | none =>
          rw [hfirst] at hread
          dsimp only at hread
          obtain ⟨specs, rest, algorithm, key, grants, hspecs, hkey, hfold, rfl⟩ :
              ∃ specs rest algorithm key grants,
                readSpecs false false [] [] (c :: s) = some (specs, rest) ∧
                  readKey decodes (rest.dropWhile isBlank) = some (algorithm, key) ∧
                  specs.foldlM readOption {} = some grants ∧
                  entry = ⟨algorithm, key, grants⟩ := by
            cases hspecs : readSpecs false false [] [] (c :: s) with
            | none =>
                rw [hspecs] at hread
                cases hread
            | some parts =>
                rw [hspecs] at hread
                dsimp only at hread
                cases hkey : readKey decodes (parts.2.dropWhile isBlank) with
                | none =>
                    rw [hkey] at hread
                    cases hread
                | some found =>
                    rw [hkey] at hread
                    obtain ⟨grants, hfold, rfl⟩ := Option.map_eq_some_iff.1 hread
                    exact ⟨parts.1, parts.2, found.1, found.2, grants, rfl, hkey, hfold, rfl⟩
          have hforced : grants.forcedCommand = some forcedCommand := hbounded.forced
          rw [← htail.1] at hspecs
          have hsync : CutAlike false [] [] (trim raw) tail options remainder ∨
              CutApart false [] [] (trim raw) tail options :=
            splitFrom_sync tail (by simp) (by simp) (by simp) haccepted.cut
          rcases hsync with hcut | hcut
          · obtain ⟨result, inside, hresult, rfl, rfl, hbackslash, d, t, rfl, hd⟩ := hcut
            rw [hspecs] at hresult
            cases hresult
            have hlisted : ∀ spec ∈ specs, spec ∈ REQUIRED_OPTIONS ∨ spec = commandOption :=
              fun spec hmem => listed_of_pushed haccepted.listed hfold hforced hmem
            obtain ⟨words, hwords⟩ := haccepted.words
            rw [splitWhitespace_trimStart] at hwords
            have hlead : ∀ e ∈ raw.takeWhile isBlank, isBlank e = true :=
              fun e he => List.mem_takeWhile_imp he
            obtain ⟨gap, inner, after, htext, hplain⟩ := plainLine_of_read hlead rfl hd htail.2
              hlisted (command_once hlisted hfold hforced) hwords hkey
            obtain ⟨before, last, rfl, hjoined⟩ := readSpecs_joined hspecs
            refine ⟨_, before, last, gap, inner, key, after, hplain before last rfl, ?_⟩
            rw [← htext, ← hjoined]
            show raw = raw.takeWhile isBlank ++ (trim raw ++ tail)
            rw [htail.1, ← hraw, List.takeWhile_append_dropWhile]
          · exact absurd hcut (not_cutApart haccepted.listed hspecs hfold hforced)

/-- Where the judge accepts the line, nothing but the command is granted. -/
theorem ReadPlainly.bounded {decodes : Chars → Chars → Bool} {raw text rest remainder : Chars}
    {specs options : List Chars} {entry : AuthorizedKey} {accepted : BoundedEntry}
    (h : ReadPlainly decodes raw text rest specs entry)
    (haccepted : Accepted (trim raw) accepted options remainder) : Bounded entry := by
  have htext : trim raw ++ (trimStart raw).rtakeWhile isWhitespace = text := by
    rw [← h.start]
    exact List.rdropWhile_append_rtakeWhile ..
  generalize (trimStart raw).rtakeWhile isWhitespace = tail at htext
  have hread := h.cut
  rw [← htext] at hread
  have hsync : CutAlike false [] [] (trim raw) tail options remainder ∨
      CutApart false [] [] (trim raw) tail options :=
    splitFrom_sync tail (by simp) (by simp) (by simp) haccepted.cut
  rcases hsync with ⟨result, inside, hresult, rfl, -⟩ | hcut
  · rw [hread] at hresult
    cases hresult
    refine ⟨h.forced, h.closed ?_, h.environment, h.tunnel⟩
    have hrestrict := haccepted.required "restrict".toList (by decide)
    obtain ⟨spec, hspec, heq⟩ := List.mem_map.1 hrestrict
    rwa [eq_of_pushedAll (by decide) heq] at hspec
  · exact absurd hcut (not_cutApart haccepted.listed hread h.fold h.forced)

/-! ## What is rendered -/

theorem base64_plain {key : Chars} (h : isBase64 key = true) :
    key ≠ [] ∧ ∀ c ∈ key, isWhitespace c = false := by
  unfold isBase64 at h
  rw [Bool.and_eq_true, bne_iff_ne, List.all_eq_true] at h
  refine ⟨h.1, fun c hc => ?_⟩
  have hclass := h.2 c hc
  simp only [Bool.or_eq_true, beq_iff_eq] at hclass
  rcases hclass with ((hclass | rfl) | rfl) | rfl
  · exact isWhitespace_of_isAlphanum hclass
  all_goals decide

/-- The line that is rendered, without its end. -/
def renderedLine (key : Chars) : Chars :=
  commandOption ++ (",".toList ++ ([','].intercalate REQUIRED_OPTIONS ++ (" ".toList ++
    (KEY_ALGORITHM ++ (" ".toList ++ key)))))

set_option maxRecDepth 20000 in
theorem splitOptions_renderedLine (key : Chars) :
    splitOptions (renderedLine key) =
      .ok (commandOption :: REQUIRED_OPTIONS, KEY_ALGORITHM ++ (" ".toList ++ key)) := rfl

theorem judgeLine_renderedLine {key : Chars} (h : isBase64 key = true) :
    judgeLine (renderedLine key) = .ok ⟨KEY_ALGORITHM, key⟩ := by
  obtain ⟨hne, hspace⟩ := base64_plain h
  have hcommand : commandAmong none (commandOption :: REQUIRED_OPTIONS) = .ok (some forcedCommand) := by
    decide
  have hcontains : contains "SSH_ORIGINAL_COMMAND".toList forcedCommand = false := by
    decide
  have hrequired : (REQUIRED_OPTIONS.find? fun required =>
      required ∉ commandOption :: REQUIRED_OPTIONS) = none := by
    decide
  have hwords : splitWhitespace (KEY_ALGORITHM ++ (" ".toList ++ key)) = [KEY_ALGORITHM, key] := by
    have hkey : splitWhitespace key = [key] := by
      have hone : splitWhitespace (key ++ []) = key :: splitWhitespace [] :=
        splitWhitespace_append hspace hne nofun
      rwa [List.append_nil, splitWhitespace_nil] at hone
    have hblank : ∀ c ∈ (" ".toList ++ key).head?, isWhitespace c = true := by
      intro c hc
      cases hc
      rfl
    rw [splitWhitespace_append (by decide) (by decide) hblank]
    exact congrArg _ ((splitWhitespace_cons (by decide) key).trans hkey)
  unfold judgeLine
  rw [splitOptions_renderedLine]
  simp only [bind, Except.bind]
  rw [if_neg (List.cons_ne_nil _ _), hcommand]
  dsimp only
  rw [hcontains, if_neg Bool.false_ne_true, if_neg (not_not.2 rfl), hrequired]
  dsimp only
  rw [hwords]
  dsimp only
  rw [if_neg (not_not.2 rfl), h]
  rfl

/-- What is rendered is accepted, and gives back the algorithm and the key. -/
theorem judge_render {algorithm key file : Chars} (h : render algorithm key = .ok file) :
    judge file = .ok ⟨algorithm, key⟩ := by
  unfold render at h
  split at h
  · cases h
  rename_i halgorithm
  obtain rfl := not_not.1 halgorithm
  split at h
  · cases h
  rename_i hkey
  dsimp only at h
  split at h
  · cases h
  rename_i hlength
  have hbase64 : isBase64 key = true := by simpa using hkey
  obtain ⟨hne, hspace⟩ := base64_plain hbase64
  have hfile : file = renderedLine key ++ '\n' :: [] := by
    cases h
    simp [renderedLine]
  have hsplit : file.splitOn '\n' = [renderedLine key, []] := by
    rw [hfile, List.splitOn_append_cons_self_of_not_mem, List.splitOn_nil]
    · have hconstant : '\n' ∉ commandOption ∧ '\n' ∉ [','].intercalate REQUIRED_OPTIONS := by
        decide
      have hkeyPlain : '\n' ∉ key := fun hmem => absurd (hspace _ hmem) (by decide)
      simp only [renderedLine, List.mem_append, not_or]
      exact ⟨hconstant.1, by decide, hconstant.2, by decide, by decide, by decide, hkeyPlain⟩
  have htrim : trim (renderedLine key) = renderedLine key := by
    apply trim_eq_self
    · intro c hc
      cases hc
      rfl
    · intro c hc
      have hend : ∃ start, renderedLine key = start ++ key := by
        refine ⟨commandOption ++ (",".toList ++ ([','].intercalate REQUIRED_OPTIONS ++
          (" ".toList ++ (KEY_ALGORITHM ++ " ".toList)))), ?_⟩
        simp only [renderedLine, List.append_assoc]
      obtain ⟨start, hstart⟩ := hend
      rw [hstart, List.getLast?_append, List.getLast?_eq_some_getLast hne, Option.some_or] at hc
      cases hc
      exact hspace _ (List.getLast_mem hne)
  have hlines : (([renderedLine key, []].map trim).filter fun line =>
      line != [] && line.head? != some '#') = [renderedLine key] := by
    have hempty : trim [] = [] := rfl
    rw [List.map_cons, List.map_singleton, htrim, hempty]
    rfl
  unfold judge
  rw [if_neg (by cases h; exact hlength), judged_lines, hsplit, hlines]
  exact judgeLine_renderedLine hbase64

/-- An accepted file holds one entry, forced to the one command and granting nothing else, exactly
where it is written plainly; and what is rendered for a key is accepted as that key. -/
theorem judge_bounded_iff (decodes : Chars → Chars → Bool) :
    (∀ file entry, judge file = .ok entry →
      (HoldsBounded decodes file ↔ WrittenPlainly decodes file)) ∧
      ∀ algorithm key file, render algorithm key = .ok file →
        judge file = .ok ⟨algorithm, key⟩ := by
  refine ⟨fun file entry h => ?_, fun _ _ _ => judge_render⟩
  obtain ⟨line, hline, hjudge⟩ := judge_accepted h
  obtain ⟨options, remainder, haccepted⟩ := judgeLine_accepted hjudge
  obtain ⟨raw, rfl, hraw, honly, hread⟩ := readFile_accepted decodes hline
  constructor
  · rintro ⟨found, hfound, hbounded⟩
    rw [hread, Option.toList_eq_singleton_iff] at hfound
    obtain ⟨lead, before, last, gap, inner, key, tail, hplain, rfl⟩ :=
      plain_of_bounded haccepted hfound hbounded
    exact ⟨lead, before, last, gap, inner, key, tail, hplain, hraw⟩
  · rintro ⟨lead, before, last, gap, inner, key, tail, hplain, hmem⟩
    obtain ⟨text, rest, found, hfound⟩ := hplain.readPlainly
    have hsame := honly _ hmem (by rw [hfound.read]; rfl)
    rw [hsame] at hfound
    exact ⟨found, by rw [hread, hfound.read]; rfl, hfound.bounded haccepted⟩

/-! ### A backslash in the command -/

def sampleKey : Chars := "AAAAC3NzaC1lZDI1NTE5AAAAIBQ4Yk1L".toList

/-- A file whose command is the one command but for a backslash. -/
def escapedFile : Chars :=
  "command=\"/usr/bin/sudo -n /usr/lib/your\\-cloud/your-cloud auxiliary approve\",".toList ++
    [','].intercalate REQUIRED_OPTIONS ++ " ssh-ed25519 ".toList ++ sampleKey

/-- The judge drops the backslash and the program that lets clients in keeps it. -/
theorem escaped_accepted :
    judge escapedFile = .ok ⟨KEY_ALGORITHM, sampleKey⟩ ∧
      ¬ HoldsBounded (fun _ _ => true) escapedFile := by
  refine ⟨by decide +kernel, ?_⟩
  have hforced : (readFile (fun _ _ => true) escapedFile).all
      (fun entry => entry.grants.forcedCommand != some forcedCommand) = true := by
    decide +kernel
  rintro ⟨entry, hfile, hbounded⟩
  rw [hfile, List.all_cons, hbounded.forced] at hforced
  simp at hforced

/-- The condition at the file that is rendered for a key. -/
theorem rendered_bounded_iff :
    (HoldsBounded (fun _ _ => true) (renderedLine sampleKey) ↔
        WrittenPlainly (fun _ _ => true) (renderedLine sampleKey)) ∧
      judge (renderedLine sampleKey ++ ['\n']) = .ok ⟨KEY_ALGORITHM, sampleKey⟩ :=
  ⟨(judge_bounded_iff _).1 _ ⟨KEY_ALGORITHM, sampleKey⟩ (by decide +kernel),
    (judge_bounded_iff fun _ _ => true).2 KEY_ALGORITHM sampleKey _ (by decide +kernel)⟩

end YourCloud.Assistant
