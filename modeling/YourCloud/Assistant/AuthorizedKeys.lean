import YourCloud.Foundation.Chars

/-!
# How the keys of an account are read

The program that lets a client in reads a file of one entry a line: options, the
type of a key, the key, and a comment.  Options run to the first blank outside
quotes, and a backslash means something before a quote inside quotes only.  An
entry whose options cannot be read lets nobody in.

Whether a key decodes is left open.

## Main results

* `readLine_eq_none` — a line that begins with other than a letter is no entry.
* `readSpecs_intercalate` — words that need no quotes, and one value between
  quotes, are read as they were written.
-/

namespace YourCloud.Assistant

open YourCloud.Foundation
open Chars (trim trimStart)

/-- What an entry lets a client do. -/
structure Grants where
  forcedCommand : Option Chars := none
  pty : Bool := true
  agentForwarding : Bool := true
  portForwarding : Bool := true
  x11Forwarding : Bool := true
  userRc : Bool := true
  environment : List Chars := []
  tunnel : Option Chars := none
  certAuthority : Bool := false
  deriving DecidableEq, Repr

structure AuthorizedKey where
  algorithm : Chars
  key : Chars
  grants : Grants
  deriving DecidableEq, Repr

namespace Grants

/-- Nothing but what is named again afterwards. -/
def restricted (g : Grants) : Grants :=
  { g with
    pty := false
    agentForwarding := false
    portForwarding := false
    x11Forwarding := false
    userRc := false }

/-- No terminal, no forwarding, no file of the user's, no variable. -/
structure Closed (g : Grants) : Prop where
  pty : g.pty = false
  agentForwarding : g.agentForwarding = false
  portForwarding : g.portForwarding = false
  x11Forwarding : g.x11Forwarding = false
  userRc : g.userRc = false

end Grants

/-- The options without a value. -/
def flags : List (String × (Grants → Grants)) :=
  [("restrict", Grants.restricted),
    ("pty", fun g => { g with pty := true }),
    ("no-pty", fun g => { g with pty := false }),
    ("agent-forwarding", fun g => { g with agentForwarding := true }),
    ("no-agent-forwarding", fun g => { g with agentForwarding := false }),
    ("port-forwarding", fun g => { g with portForwarding := true }),
    ("no-port-forwarding", fun g => { g with portForwarding := false }),
    ("x11-forwarding", fun g => { g with x11Forwarding := true }),
    ("no-x11-forwarding", fun g => { g with x11Forwarding := false }),
    ("user-rc", fun g => { g with userRc := true }),
    ("no-user-rc", fun g => { g with userRc := false }),
    ("cert-authority", fun g => { g with certAuthority := true }),
    ("no-touch-required", id),
    ("verify-required", id)]

/-- The types a key may be of. -/
def keyTypes : List String :=
  ["ssh-ed25519", "ssh-rsa", "ecdsa-sha2-nistp256", "ecdsa-sha2-nistp384", "ecdsa-sha2-nistp521",
    "sk-ssh-ed25519@openssh.com", "sk-ecdsa-sha2-nistp256@openssh.com"]

/-- The letters of an option's name, whose case means nothing. -/
def lowered (name : Chars) : Chars := name.map Char.toLower

/-- What stands between quotes, up to the quote that ends it. -/
def dequoteBody : Chars → Option Chars
  | [] => none
  | '\\' :: '"' :: s => (dequoteBody s).map ('"' :: ·)
  | '"' :: s => if s = [] then some [] else none
  | c :: s => (dequoteBody s).map (c :: ·)

def dequote : Chars → Option Chars
  | '"' :: s => dequoteBody s
  | _ => none

/-- One option, added to those before it.  A command is named once. -/
def readOption (g : Grants) (spec : Chars) : Option Grants :=
  match Chars.splitOnce (· = '=') spec with
  | none => (flags.find? fun flag => flag.1.toList = lowered spec).map fun flag => flag.2 g
  | some (name, quotedValue) =>
      match dequote quotedValue with
      | none => none
      | some value =>
          let name := lowered name
          if name = "command".toList then
            if g.forcedCommand.isSome then none else some { g with forcedCommand := some value }
          else if name = "environment".toList then
            some { g with environment := g.environment ++ [value] }
          else if name = "tunnel".toList then some { g with tunnel := some value }
          else if name ∈ ["from".toList, "principals".toList, "permitopen".toList,
              "permitlisten".toList, "expiry-time".toList] then some g
          else none

/-- The options of a line, cut at the commas outside quotes, and what follows them from the first
blank outside quotes on.  `literal` says that the next character was escaped. -/
def readSpecs (quoted literal : Bool) (specs : List Chars) (current : Chars) :
    Chars → Option (List Chars × Chars)
  | [] => if quoted then none else some (specs ++ [current], [])
  | c :: s =>
      if literal then readSpecs quoted false specs (current ++ [c]) s
      else if c = '\\' then
        readSpecs quoted (quoted && s.head? == some '"') specs (current ++ [c]) s
      else if c = '"' then readSpecs (!quoted) false specs (current ++ [c]) s
      else if c = ',' && !quoted then readSpecs quoted false (specs ++ [current]) [] s
      else if isBlank c && !quoted then some (specs ++ [current], c :: s)
      else readSpecs quoted false specs (current ++ [c]) s

section Reading

variable (decodes : Chars → Chars → Bool)

/-- A key at the start of a text. -/
def readKey (s : Chars) : Option (Chars × Chars) :=
  let algorithm := s.takeWhile (!isBlank ·)
  let key := ((s.dropWhile (!isBlank ·)).dropWhile isBlank).takeWhile (!isBlank ·)
  if algorithm ∈ keyTypes.map String.toList ∧ decodes algorithm key = true then
    some (algorithm, key)
  else none

/-- An entry: a key, or options and a key. -/
def readEntry (line : Chars) : Option AuthorizedKey :=
  match readKey decodes line with
  | some (algorithm, key) => some ⟨algorithm, key, {}⟩
  | none =>
      match readSpecs false false [] [] line with
      | none => none
      | some (specs, rest) =>
          match readKey decodes (rest.dropWhile isBlank) with
          | none => none
          | some (algorithm, key) =>
              (specs.foldlM readOption {}).map fun grants => ⟨algorithm, key, grants⟩

/-- One line: blanks at its start are passed over, and so are comments. -/
def readLine (line : Chars) : Option AuthorizedKey :=
  match line.dropWhile isBlank with
  | [] => none
  | c :: s => if c = '#' then none else readEntry decodes (c :: s)

/-- The entries of a file. -/
def readFile (file : Chars) : List AuthorizedKey := (file.splitOn '\n').filterMap (readLine decodes)

end Reading

/-! ## Values between quotes, and commands -/

theorem dequoteBody_eq {s value : Chars} (h : dequoteBody s = some value) (hvalue : '"' ∉ value) :
    s = value ++ ['"'] := by
  fun_induction dequoteBody s generalizing value with
  | case1 => cases h
  | case2 s ih =>
      obtain ⟨body, -, rfl⟩ := Option.map_eq_some_iff.1 h
      simp at hvalue
  | case3 =>
      cases h
      rfl
  | case4 => cases h
  | case5 c s _ _ ih =>
      obtain ⟨body, hbody, rfl⟩ := Option.map_eq_some_iff.1 h
      rw [ih hbody fun hmem => hvalue (List.mem_cons_of_mem c hmem), List.cons_append]

/-- A value without quotes of its own stands between two quotes as it is. -/
theorem dequote_eq {s value : Chars} (h : dequote s = some value) (hvalue : '"' ∉ value) :
    s = '"' :: (value ++ ['"']) := by
  unfold dequote at h
  split at h
  · rw [dequoteBody_eq h hvalue]
  · cases h

theorem readOption_command (g : Grants) (s : Chars) :
    readOption g ("command=".toList ++ s) = (dequote s).bind fun value =>
      if g.forcedCommand.isSome then none else some { g with forcedCommand := some value } := by
  have hname : ∀ c ∈ "command".toList, decide (c = '=') = false := by decide
  have hsplit : Chars.splitOnce (· = '=') ("command=".toList ++ s) = some ("command".toList, s) :=
    splitOnce_append hname (by decide) s
  unfold readOption
  rw [hsplit]
  dsimp only
  cases dequote s with
  | none => rfl
  | some value => rfl

/-- A command once named stays the command. -/
theorem readOption_forcedCommand {g g' : Grants} {spec command : Chars}
    (h : readOption g spec = some g') (hg : g.forcedCommand = some command) :
    g'.forcedCommand = some command := by
  unfold readOption at h
  split at h
  · obtain ⟨flag, hflag, rfl⟩ := Option.map_eq_some_iff.1 h
    have hkeeps : ∀ flag ∈ flags, (flag.2 g).forcedCommand = g.forcedCommand := by
      simp [flags, Grants.restricted]
    rw [hkeeps flag (List.mem_of_find?_eq_some hflag), hg]
  · split at h
    · cases h
    · dsimp only at h
      split at h
      · rw [hg] at h
        cases h
      split at h
      · cases h
        exact hg
      split at h
      · cases h
        exact hg
      split at h
      · cases h
        exact hg
      · cases h

theorem foldlM_forcedCommand {specs : List Chars} {g g' : Grants} {command : Chars}
    (h : specs.foldlM readOption g = some g') (hg : g.forcedCommand = some command) :
    g'.forcedCommand = some command := by
  induction specs generalizing g with
  | nil =>
      cases h
      exact hg
  | cons spec specs ih =>
      rw [List.foldlM_cons] at h
      obtain ⟨g₁, hg₁, h⟩ := Option.bind_eq_some_iff.1 h
      exact ih h (readOption_forcedCommand hg₁ hg)

/-- The command of a line whose options were read is the one it names. -/
theorem foldlM_command {specs : List Chars} {g g' : Grants} {s : Chars}
    (h : specs.foldlM readOption g = some g') (hmem : "command=".toList ++ s ∈ specs) :
    ∃ value, dequote s = some value ∧ g'.forcedCommand = some value := by
  induction specs generalizing g with
  | nil => cases hmem
  | cons spec specs ih =>
      rw [List.foldlM_cons] at h
      obtain ⟨g₁, hg₁, h⟩ := Option.bind_eq_some_iff.1 h
      rcases List.mem_cons.1 hmem with rfl | hmem
      · rw [readOption_command] at hg₁
        obtain ⟨value, hvalue, hg₁⟩ := Option.bind_eq_some_iff.1 hg₁
        split at hg₁
        · cases hg₁
        · cases hg₁
          exact ⟨value, hvalue, foldlM_forcedCommand h rfl⟩
      · exact ih h hmem

/-- A second command is refused. -/
theorem foldlM_repeated {specs : List Chars} {g : Grants} {command s : Chars}
    (hg : g.forcedCommand = some command) (hmem : "command=".toList ++ s ∈ specs) :
    specs.foldlM readOption g = none := by
  induction specs generalizing g with
  | nil => cases hmem
  | cons first specs ih =>
      rw [List.foldlM_cons]
      rcases List.mem_cons.1 hmem with rfl | hmem
      · rw [readOption_command, hg]
        cases dequote s <;> rfl
      · cases hfirst : readOption g first with
        | none => rfl
        | some g₁ => exact ih (readOption_forcedCommand hfirst hg) hmem

/-- A line names one command. -/
theorem foldlM_count {specs : List Chars} {g g' : Grants} {spec s : Chars}
    (h : specs.foldlM readOption g = some g') (hspec : spec = "command=".toList ++ s) :
    specs.count spec ≤ 1 := by
  induction specs generalizing g with
  | nil => simp
  | cons first specs ih =>
      rw [List.foldlM_cons] at h
      obtain ⟨g₁, hg₁, h⟩ := Option.bind_eq_some_iff.1 h
      by_cases hfirst : first = spec
      · have hnone : spec ∉ specs := by
          intro hmem
          rw [hfirst, hspec, readOption_command] at hg₁
          obtain ⟨value, -, hg₁⟩ := Option.bind_eq_some_iff.1 hg₁
          split at hg₁
          · cases hg₁
          · cases hg₁
            rw [foldlM_repeated rfl (hspec ▸ hmem)] at h
            cases h
        rw [hfirst, List.count_cons_self, List.count_eq_zero.2 hnone]
      · rw [List.count_cons_of_ne hfirst]
        exact ih h

/-- The type of a key, blanks, and the key. -/
theorem readKey_append {decodes : Chars → Chars → Bool} {word : String} {inner key tail : Chars}
    (hword : word ∈ keyTypes) (hinner : inner ≠ [] ∧ ∀ c ∈ inner, isBlank c = true)
    (hkey : key ≠ [] ∧ ∀ c ∈ key, isBlank c = false) (htail : ∀ c ∈ tail.head?, isBlank c = true)
    (hdecodes : decodes word.toList key = true) :
    readKey decodes (word.toList ++ (inner ++ (key ++ tail))) = some (word.toList, key) := by
  have hplain : ∀ word ∈ keyTypes, ∀ c ∈ word.toList, (!isBlank c) = true := by decide
  obtain ⟨d, t, hd⟩ := List.exists_cons_of_ne_nil hinner.1
  have hgap : ∀ c ∈ (inner ++ (key ++ tail)).head?, (!isBlank c) = false := by
    intro c hc
    rw [hd] at hc
    cases hc
    simp [hinner.2 d (by rw [hd]; exact List.mem_cons_self)]
  have hhead : ∀ c ∈ (key ++ tail).head?, isBlank c = false := by
    intro c hc
    cases key with
    | nil => exact absurd rfl hkey.1
    | cons e key =>
        cases hc
        exact hkey.2 c List.mem_cons_self
  unfold readKey
  dsimp only
  rw [(span_append (hplain word hword) hgap).1, (span_append (hplain word hword) hgap).2,
    (span_append hinner.2 hhead).2,
    (span_append (fun c hc => by simp [hkey.2 c hc]) fun c hc => by simp [htail c hc]).1, if_pos]
  exact ⟨List.mem_map_of_mem hword, hdecodes⟩

/-! ## Lines that are no entry -/

theorem lowered_space {c : Char} (h : isWhitespace c = true) : c.toLower = c := by
  unfold Char.toLower
  split
  · rename_i hupper
    have hlow : 0x41 ≤ c.toNat ∧ c.toNat ≤ 0x5A := by
      simpa [UInt32.le_iff_toNat_le] using hupper
    simp [isWhitespace] at h
    omega
  · rfl

/-- A word that begins with something other than white space. -/
def plainStart (word : String) : Bool := word.toList.head?.any (!isWhitespace ·)

theorem lowered_ne {c : Char} (h : isWhitespace c = true) (s : Chars) {word : String}
    (hword : plainStart word = true) : lowered (c :: s) ≠ word.toList := by
  intro heq
  unfold plainStart at hword
  rw [← heq, lowered, List.map_cons, lowered_space h] at hword
  simp [h] at hword

/-- No option begins with white space. -/
theorem readOption_space {c : Char} (h : isWhitespace c = true) (g : Grants) (s : Chars) :
    readOption g (c :: s) = none := by
  have hname : ∀ {word : String}, plainStart word = true → ∀ t, lowered (c :: t) ≠ word.toList :=
    fun hword t => lowered_ne h t hword
  have hsplit : Chars.splitOnce (· = '=') (c :: s) = none ∨
      ∃ t after, Chars.splitOnce (· = '=') (c :: s) = some (c :: t, after) := by
    have hne : decide (c = '=') = false := by
      rw [decide_eq_false_iff_not]
      rintro rfl
      cases h
    rw [splitOnce_cons_neg hne]
    cases Chars.splitOnce (· = '=') s with
    | none => exact .inl rfl
    | some parts => exact .inr ⟨_, _, rfl⟩
  unfold readOption
  rcases hsplit with hsplit | ⟨t, after, hsplit⟩
  · rw [hsplit]
    dsimp only
    rw [List.find?_eq_none.2, Option.map_none]
    intro flag hflag
    have hplain : flags.all (fun flag => plainStart flag.1) = true := by decide
    have hne := hname (List.all_eq_true.1 hplain flag hflag) s
    simpa using hne.symm
  · rw [hsplit]
    dsimp only
    cases dequote after with
    | none => rfl
    | some value =>
        dsimp only
        rw [if_neg (hname (by decide) t), if_neg (hname (by decide) t),
          if_neg (hname (by decide) t), if_neg]
        simp only [List.mem_cons, List.not_mem_nil, or_false, not_or]
        exact ⟨hname (by decide) t, hname (by decide) t, hname (by decide) t, hname (by decide) t,
          hname (by decide) t⟩

/-- A character is added to an option, or ends one, or ends the options. -/
theorem readSpecs_cons (quoted literal : Bool) (specs : List Chars) (current : Chars) (c : Char)
    (s : Chars) :
    (∃ q l, readSpecs quoted literal specs current (c :: s) =
        readSpecs q l specs (current ++ [c]) s) ∨
      (c = ',' ∧ readSpecs quoted literal specs current (c :: s) =
        readSpecs quoted false (specs ++ [current]) [] s) ∨
      readSpecs quoted literal specs current (c :: s) = some (specs ++ [current], c :: s) := by
  rw [readSpecs]
  split
  · exact .inl ⟨_, _, rfl⟩
  split
  · exact .inl ⟨_, _, rfl⟩
  split
  · exact .inl ⟨_, _, rfl⟩
  split
  · rename_i hcomma
    simp only [Bool.and_eq_true, decide_eq_true_eq] at hcomma
    exact .inr (.inl ⟨hcomma.1, rfl⟩)
  split
  · exact .inr (.inr rfl)
  · exact .inl ⟨_, _, rfl⟩

/-- What was read of an option stays at its start. -/
theorem readSpecs_mem {quoted literal : Bool} {specs result : List Chars} {current s rest : Chars}
    (h : readSpecs quoted literal specs current s = some (result, rest)) :
    specs <+: result ∧ ∃ spec ∈ result, current <+: spec := by
  induction s generalizing quoted literal specs current with
  | nil =>
      rw [readSpecs] at h
      split at h
      · cases h
      · cases h
        exact ⟨List.prefix_append _ _, current, by simp, List.prefix_rfl⟩
  | cons c s ih =>
      rcases readSpecs_cons quoted literal specs current c s with
        ⟨q, l, hstep⟩ | ⟨-, hstep⟩ | hstep
      · rw [hstep] at h
        obtain ⟨hspecs, spec, hspec, hcurrent⟩ := ih h
        exact ⟨hspecs, spec, hspec, (List.prefix_append _ _).trans hcurrent⟩
      · rw [hstep] at h
        obtain ⟨hspecs, -⟩ := ih h
        refine ⟨(List.prefix_append _ _).trans hspecs, current, ?_, List.prefix_rfl⟩
        exact hspecs.subset (List.mem_append_right _ List.mem_cons_self)
      · rw [hstep] at h
        cases h
        exact ⟨List.prefix_append _ _, current, by simp, List.prefix_rfl⟩

/-- The options as they stand in the line, and the one that is being read. -/
def joined (specs : List Chars) (current : Chars) : Chars :=
  specs.flatMap (· ++ [',']) ++ current

theorem joined_concat (specs : List Chars) (current s : Chars) :
    joined (specs ++ [current]) s = joined specs current ++ ',' :: s := by
  simp [joined]

/-- Nothing of the options is lost. -/
theorem readSpecs_joined {quoted literal : Bool} {specs result : List Chars} {current s rest : Chars}
    (h : readSpecs quoted literal specs current s = some (result, rest)) :
    ∃ before last, result = before ++ [last] ∧ joined specs current ++ s = joined before last ++ rest
    := by
  induction s generalizing quoted literal specs current with
  | nil =>
      rw [readSpecs] at h
      split at h
      · cases h
      · cases h
        exact ⟨specs, current, rfl, rfl⟩
  | cons c s ih =>
      rcases readSpecs_cons quoted literal specs current c s with
        ⟨q, l, hstep⟩ | ⟨rfl, hstep⟩ | hstep
      · rw [hstep] at h
        obtain ⟨before, last, hresult, hjoined⟩ := ih h
        exact ⟨before, last, hresult, by rw [← hjoined]; simp [joined]⟩
      · rw [hstep] at h
        obtain ⟨before, last, hresult, hjoined⟩ := ih h
        exact ⟨before, last, hresult, by rw [← hjoined, joined_concat]; simp⟩
      · rw [hstep] at h
        cases h
        exact ⟨specs, current, rfl, rfl⟩

/-- An option that is read as it is written. -/
def Passes (spec : Chars) : Prop :=
  ∀ specs current s, readSpecs false false specs current (spec ++ s) =
    readSpecs false false specs (current ++ spec) s

/-- Characters that mean nothing to the reader, outside quotes and inside. -/
theorem readSpecs_plain {quoted : Bool} {word : Chars}
    (hword : ∀ c ∈ word, c ≠ '\\' ∧ c ≠ '"' ∧ (quoted = false → c ≠ ',' ∧ isBlank c = false))
    (specs : List Chars) (current s : Chars) :
    readSpecs quoted false specs current (word ++ s) =
      readSpecs quoted false specs (current ++ word) s := by
  induction word generalizing current with
  | nil => simp
  | cons c word ih =>
      obtain ⟨hbackslash, hquote, hplain⟩ := hword c List.mem_cons_self
      have hstep : readSpecs quoted false specs current (c :: (word ++ s)) =
          readSpecs quoted false specs (current ++ [c]) (word ++ s) := by
        rw [readSpecs, if_neg Bool.false_ne_true, if_neg hbackslash, if_neg hquote]
        cases quoted with
        | true => rw [if_neg (by simp), if_neg (by simp)]
        | false =>
            rw [if_neg (by simp [(hplain rfl).1]), if_neg (by simp [(hplain rfl).2])]
      rw [List.cons_append, hstep, ih fun d hd => hword d (List.mem_cons_of_mem c hd)]
      simp

theorem passes_word {word : Chars}
    (hword : ∀ c ∈ word, c ≠ '\\' ∧ c ≠ '"' ∧ c ≠ ',' ∧ isBlank c = false) : Passes word :=
  readSpecs_plain fun c hc => ⟨(hword c hc).1, (hword c hc).2.1, fun _ => (hword c hc).2.2⟩

/-- A word, and a value between quotes. -/
theorem passes_quoted {word value : Chars}
    (hword : ∀ c ∈ word, c ≠ '\\' ∧ c ≠ '"' ∧ c ≠ ',' ∧ isBlank c = false)
    (hvalue : ∀ c ∈ value, c ≠ '\\' ∧ c ≠ '"') : Passes (word ++ '"' :: (value ++ ['"'])) := by
  intro specs current s
  have hopen : ∀ current t, readSpecs false false specs current ('"' :: t) =
      readSpecs true false specs (current ++ ['"']) t := by
    intro current t
    rw [readSpecs, if_neg Bool.false_ne_true, if_neg (by decide), if_pos rfl]
    rfl
  have hclose : ∀ current t, readSpecs true false specs current ('"' :: t) =
      readSpecs false false specs (current ++ ['"']) t := by
    intro current t
    rw [readSpecs, if_neg Bool.false_ne_true, if_neg (by decide), if_pos rfl]
    rfl
  have hquoted : ∀ c ∈ value, c ≠ '\\' ∧ c ≠ '"' ∧ (true = false → c ≠ ',' ∧ isBlank c = false) :=
    fun c hc => ⟨(hvalue c hc).1, (hvalue c hc).2, nofun⟩
  have hbody := readSpecs_plain hquoted specs
  have htext : word ++ '"' :: (value ++ ['"']) ++ s = word ++ '"' :: (value ++ '"' :: s) := by simp
  rw [htext, passes_word hword, hopen, hbody, hclose]
  simp

/-- Options that are read as they are written, before a blank. -/
theorem readSpecs_intercalate {before : List Chars} {last : Chars}
    (hspecs : ∀ spec ∈ before ++ [last], Passes spec) {c : Char} (hc : isBlank c = true)
    (specs : List Chars) (s : Chars) :
    readSpecs false false specs [] (joined before last ++ c :: s) =
      some (specs ++ (before ++ [last]), c :: s) := by
  induction before generalizing specs with
  | nil =>
      have hne : c ≠ '\\' ∧ c ≠ '"' ∧ c ≠ ',' := by
        refine ⟨?_, ?_, ?_⟩ <;>
        · rintro rfl
          cases hc
      show readSpecs false false specs [] (last ++ c :: s) = _
      rw [hspecs last (by simp), readSpecs, if_neg Bool.false_ne_true, if_neg hne.1, if_neg hne.2.1,
        if_neg (by simp [hne.2.2]), if_pos (by simp [hc])]
      rfl
  | cons spec before ih =>
      have hjoined : joined (spec :: before) last ++ c :: s =
          spec ++ ',' :: (joined before last ++ c :: s) := by
        simp [joined]
      rw [hjoined, hspecs spec (by simp), readSpecs, if_neg Bool.false_ne_true, if_neg (by decide),
        if_neg (by decide), if_pos (by decide),
        ih fun spec hmem => hspecs spec (List.mem_cons_of_mem _ hmem)]
      simp

/-- An option that cannot be read leaves nothing read. -/
theorem foldlM_readOption_eq_none {specs : List Chars} {spec : Chars} (hmem : spec ∈ specs)
    (h : ∀ g, readOption g spec = none) (g : Grants) : specs.foldlM readOption g = none := by
  induction specs generalizing g with
  | nil => cases hmem
  | cons first specs ih =>
      rw [List.foldlM_cons]
      rcases List.mem_cons.1 hmem with rfl | hmem
      · rw [h]
        rfl
      · cases readOption g first with
        | none => rfl
        | some g => exact ih hmem g

/-- No key where none of the types begins with the first letter. -/
theorem readKey_cons {decodes : Chars → Chars → Bool} {c : Char} (hblank : isBlank c = false)
    (h : ∀ word ∈ keyTypes, word.toList.head? ≠ some c) (s : Chars) :
    readKey decodes (c :: s) = none := by
  unfold readKey
  dsimp only
  rw [List.takeWhile_cons_of_pos (by simp [hblank]), if_neg]
  rintro ⟨hmem, -⟩
  obtain ⟨word, hword, heq⟩ := List.mem_map.1 hmem
  exact h word hword (by rw [heq]; rfl)

/-- A line that begins with white space other than blanks is no entry. -/
theorem readEntry_space {decodes : Chars → Chars → Bool} {c : Char} (h : isWhitespace c = true)
    (hblank : isBlank c = false) (s : Chars) : readEntry decodes (c :: s) = none := by
  have hkey : readKey decodes (c :: s) = none := by
    apply readKey_cons hblank
    intro word hword hhead
    have hplain : keyTypes.all plainStart = true := by decide
    have hstart := List.all_eq_true.1 hplain word hword
    simp [plainStart, hhead, h] at hstart
  have hspecs : ∀ {specs rest}, readSpecs false false [] [] (c :: s) = some (specs, rest) →
      ∃ spec ∈ specs, ∃ t, spec = c :: t := by
    intro specs rest hread
    have hne : ∀ d, isWhitespace d = false → c ≠ d := by
      rintro d hd rfl
      rw [hd] at h
      cases h
    rw [readSpecs, if_neg Bool.false_ne_true, if_neg (hne _ (by decide)),
      if_neg (hne _ (by decide)), if_neg (by simp [hne ',' (by decide)]),
      if_neg (by simp [hblank])] at hread
    obtain ⟨-, spec, hmem, t, rfl⟩ := readSpecs_mem hread
    exact ⟨_, hmem, t, rfl⟩
  unfold readEntry
  rw [hkey]
  dsimp only
  cases hread : readSpecs false false [] [] (c :: s) with
  | none => rfl
  | some parts =>
      obtain ⟨spec, hmem, t, rfl⟩ := hspecs hread
      dsimp only
      cases readKey decodes (parts.2.dropWhile isBlank) with
      | none => rfl
      | some found =>
          dsimp only
          rw [foldlM_readOption_eq_none hmem fun g => readOption_space h g t]
          rfl

/-- A line that is empty, a comment or unreadable once white space is trimmed at its start is
no entry. -/
theorem readLine_eq_none {decodes : Chars → Chars → Bool} {line : Chars}
    (h : trimStart line = [] ∨ ∃ s, trimStart line = '#' :: s) : readLine decodes line = none := by
  unfold readLine
  cases hline : line.dropWhile isBlank with
  | nil => rfl
  | cons c s =>
      dsimp only
      split
      · rfl
      · rename_i hcomment
        rw [← trimStart_dropBlanks, hline] at h
        by_cases hspace : isWhitespace c = true
        · exact readEntry_space hspace (dropWhile_head hline) s
        · rw [trimStart, List.dropWhile_cons_of_neg hspace] at h
          rcases h with h | ⟨t, h⟩
          · cases h
          · cases h
            exact absurd rfl hcomment

end YourCloud.Assistant
