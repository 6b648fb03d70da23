import YourCloud.Foundation.Chars

/-!
# One identity for each machine

The identities of an infrastructure are minted together, so that no two machines
share one; a machine admits its own and names the owner of any other.  A path to a
machine counts as verified once a report came back through an identity the machine
admits.

## Main results

* `admits_ok_iff` — what is admitted is the identity that was minted for the machine.
* `mint_admits` — what the gate mints, and what a minted machine admits.
-/

namespace YourCloud.Assistant.MachineIdentity

open YourCloud.Foundation
open Chars (byteLength)

/-- The `SHA256:` and the forty-three letters after it. -/
def HOST_KEY_FINGERPRINT_BYTES : Nat := 7 + 43

def MAX_ENROLLED_MACHINES : Nat := 64

structure MintedIdentity where
  machine : Chars
  fingerprint : Chars
  deriving DecidableEq, Repr

/-- One machine as the mint receives it. -/
structure Declared where
  machine : Chars
  fingerprint : Chars
  deriving DecidableEq, Repr

/-- Why an identity was not minted, or not admitted. -/
inductive IdentityRefusal where
  | nothingDeclared
  | tooManyMachines (count : Nat)
  | malformedMachine (machine : Chars)
  | malformedFingerprint (machine : Chars)
  | duplicateMachine (machine : Chars)
  | sharedIdentity (machine other : Chars)
  | unknownMachine (machine : Chars)
  | foreignIdentity (machine owner : Chars)
  | unattributed (machine : Chars)
  deriving DecidableEq, Repr

def isMachineName (name : Chars) : Bool :=
  3 ≤ byteLength name && byteLength name ≤ 63 &&
    name.head?.all (fun c => c.isLower || c.isDigit) &&
    name.all fun c => c.isLower || c.isDigit || c == '-'

/-- A fingerprint as the tool that computes it writes one. -/
def isFingerprint (value : Chars) : Bool :=
  byteLength value == HOST_KEY_FINGERPRINT_BYTES && "SHA256:".toList.isPrefixOf value &&
    (value.drop 7).all fun c => c.isAlphanum || c == '+' || c == '/'

/-- Two identities that share neither machine nor fingerprint. -/
def Apart (a b : MintedIdentity) : Prop := a.machine ≠ b.machine ∧ a.fingerprint ≠ b.fingerprint

instance : Std.Symm Apart := ⟨fun _ _ h => ⟨h.1.symm, h.2.symm⟩⟩

/-- Every machine of one infrastructure, each with an identity no other one has. -/
structure Enrolled where
  identities : List MintedIdentity
  distinct : identities.Pairwise Apart
  deriving DecidableEq, Repr

/-- The identities minted so far and those of the declarations left. -/
def mintFrom (identities : List MintedIdentity) :
    List Declared → Except IdentityRefusal (List MintedIdentity)
  | [] => .ok identities
  | entry :: declared =>
      if !isMachineName entry.machine then .error (.malformedMachine entry.machine)
      else if !isFingerprint entry.fingerprint then .error (.malformedFingerprint entry.machine)
      else
        match identities.find? (·.machine = entry.machine) with
        | some previous => .error (.duplicateMachine previous.machine)
        | none =>
            match identities.find? (·.fingerprint = entry.fingerprint) with
            | some previous => .error (.sharedIdentity entry.machine previous.machine)
            | none => mintFrom (identities ++ [⟨entry.machine, entry.fingerprint⟩]) declared

def Declared.identity (entry : Declared) : MintedIdentity := ⟨entry.machine, entry.fingerprint⟩

/-- A declaration is minted as it stands, if its texts are well formed and its machines apart. -/
theorem mintFrom_ok_iff {identities minted : List MintedIdentity} {declared : List Declared}
    (hidentities : identities.Pairwise Apart) :
    mintFrom identities declared = .ok minted ↔
      minted = identities ++ declared.map Declared.identity ∧
        (∀ entry ∈ declared, isMachineName entry.machine = true ∧
          isFingerprint entry.fingerprint = true) ∧ minted.Pairwise Apart := by
  induction declared generalizing identities with
  | nil =>
      rw [mintFrom, List.map_nil, List.append_nil, Except.ok.injEq]
      exact ⟨fun h => ⟨h.symm, nofun, h ▸ hidentities⟩, fun h => h.1.symm⟩
  | cons entry declared ih =>
      have happend : identities ++ (entry :: declared).map Declared.identity =
          (identities ++ [entry.identity]) ++ declared.map Declared.identity := by simp
      have hmet : ∀ previous ∈ identities, minted = identities ++ (entry :: declared).map
          Declared.identity → minted.Pairwise Apart → Apart previous entry.identity := by
        rintro previous hprevious rfl hapart
        rw [List.pairwise_append] at hapart
        exact hapart.2.2 previous hprevious _ (by simp)
      rw [List.forall_mem_cons]
      unfold mintFrom
      split
      · rename_i hname
        exact ⟨nofun, fun h => by simp [h.2.1.1.1] at hname⟩
      split
      · rename_i hfingerprint
        exact ⟨nofun, fun h => by simp [h.2.1.1.2] at hfingerprint⟩
      rename_i hname hfingerprint
      split
      · rename_i previous hfound
        have hsame : previous.machine = entry.machine := by simpa using List.find?_some hfound
        exact ⟨nofun, fun h => absurd hsame
          (hmet previous (List.mem_of_find?_eq_some hfound) h.1 h.2.2).1⟩
      rename_i hmachine
      split
      · rename_i previous hfound
        have hsame : previous.fingerprint = entry.fingerprint := by
          simpa using List.find?_some hfound
        exact ⟨nofun, fun h => absurd hsame
          (hmet previous (List.mem_of_find?_eq_some hfound) h.1 h.2.2).2⟩
      rename_i hkey
      have hapart : (identities ++ [entry.identity]).Pairwise Apart := by
        rw [List.pairwise_append]
        refine ⟨hidentities, List.pairwise_singleton _ _, fun a ha b hb => ?_⟩
        rw [List.mem_singleton.1 hb]
        exact ⟨of_decide_eq_false (Bool.not_eq_true _ ▸ List.find?_eq_none.1 hmachine a ha),
          of_decide_eq_false (Bool.not_eq_true _ ▸ List.find?_eq_none.1 hkey a ha)⟩
      have hwell : isMachineName entry.machine = true ∧ isFingerprint entry.fingerprint = true := by
        simpa using And.intro hname hfingerprint
      rw [happend]
      refine (ih hapart).trans ?_
      simp only [hwell, true_and, and_self]

theorem mintFrom_distinct {identities minted : List MintedIdentity} {declared : List Declared}
    (hidentities : identities.Pairwise Apart) (h : mintFrom identities declared = .ok minted) :
    minted.Pairwise Apart :=
  ((mintFrom_ok_iff hidentities).1 h).2.2

/-- The one gate: the whole declaration, or the first problem. -/
def mint (declared : List Declared) : Except IdentityRefusal Enrolled :=
  if declared = [] then .error .nothingDeclared
  else if MAX_ENROLLED_MACHINES < declared.length then .error (.tooManyMachines declared.length)
  else
    match h : mintFrom [] declared with
    | .error refusal => .error refusal
    | .ok identities => .ok ⟨identities, mintFrom_distinct List.Pairwise.nil h⟩

namespace Enrolled

variable (enrolled : Enrolled)

def identityOf (machine : Chars) : Except IdentityRefusal MintedIdentity :=
  match enrolled.identities.find? (·.machine = machine) with
  | some minted => .ok minted
  | none => .error (.unknownMachine machine)

/-- Whether a machine admits the key presented for it, or whose key it is. -/
def admits (machine presented : Chars) : Except IdentityRefusal MintedIdentity :=
  match enrolled.identityOf machine with
  | .error refusal => .error refusal
  | .ok minted =>
      if minted.fingerprint = presented then .ok minted
      else
        match enrolled.identities.find? (·.fingerprint = presented) with
        | some owner => .error (.foreignIdentity machine owner.machine)
        | none => .error (.unattributed machine)

variable {enrolled} {machine presented : Chars} {minted : MintedIdentity}

/-- Two identities with a machine or a fingerprint in common are one. -/
theorem eq_of_common {a b : MintedIdentity} (ha : a ∈ enrolled.identities)
    (hb : b ∈ enrolled.identities)
    (h : a.machine = b.machine ∨ a.fingerprint = b.fingerprint) : a = b := by
  by_contra hne
  have hapart : Apart a b := enrolled.distinct.forall ha hb hne
  cases h with
  | inl hmachine => exact hapart.1 hmachine
  | inr hfingerprint => exact hapart.2 hfingerprint

theorem identityOf_ok_iff :
    enrolled.identityOf machine = .ok minted ↔
      minted ∈ enrolled.identities ∧ minted.machine = machine := by
  unfold identityOf
  constructor
  · intro h
    split at h
    · rename_i found hfound
      cases h
      exact ⟨List.mem_of_find?_eq_some hfound, by simpa using List.find?_some hfound⟩
    · cases h
  · rintro ⟨hmem, rfl⟩
    split
    · rename_i found hfound
      have hmachine : found.machine = minted.machine := by simpa using List.find?_some hfound
      rw [eq_of_common (List.mem_of_find?_eq_some hfound) hmem (.inl hmachine)]
    · rename_i hnone
      exact absurd (by simp) (List.find?_eq_none.1 hnone minted hmem)

/-- What is admitted is the identity that was minted for the machine. -/
theorem admits_ok_iff :
    enrolled.admits machine presented = .ok minted ↔
      minted ∈ enrolled.identities ∧ minted.machine = machine ∧ minted.fingerprint = presented := by
  rw [← and_assoc, ← identityOf_ok_iff]
  unfold admits
  cases henrolled : enrolled.identityOf machine with
  | error refusal => simp
  | ok found =>
      dsimp only
      by_cases hpresented : found.fingerprint = presented
      · rw [if_pos hpresented]
        constructor
        · intro h
          cases h
          exact ⟨rfl, hpresented⟩
        · exact fun h => h.1
      · rw [if_neg hpresented]
        constructor
        · intro h
          split at h <;> cases h
        · rintro ⟨h, hminted⟩
          cases h
          exact absurd hminted hpresented

/-- A refused key is one of another machine, or of none. -/
theorem admits_refused (hmachine : ∃ minted ∈ enrolled.identities, minted.machine = machine) :
    (∀ owner, enrolled.admits machine presented = .error (.foreignIdentity machine owner) ↔
      owner ≠ machine ∧ ⟨owner, presented⟩ ∈ enrolled.identities) ∧
    (enrolled.admits machine presented = .error (.unattributed machine) ↔
      ∀ minted ∈ enrolled.identities, minted.fingerprint ≠ presented) := by
  obtain ⟨minted, hmem, rfl⟩ := hmachine
  have hfound : enrolled.identityOf minted.machine = .ok minted := identityOf_ok_iff.2 ⟨hmem, rfl⟩
  unfold admits
  rw [hfound]
  dsimp only
  by_cases hpresented : minted.fingerprint = presented
  · rw [if_pos hpresented]
    refine ⟨fun owner => ⟨nofun, fun h => ?_⟩, nofun, fun h => absurd hpresented (h minted hmem)⟩
    have hsame := eq_of_common hmem h.2 (.inr hpresented)
    exact absurd (congrArg MintedIdentity.machine hsame).symm h.1
  · rw [if_neg hpresented]
    cases howner : enrolled.identities.find? (·.fingerprint = presented) with
    | none =>
        have hnone : ∀ other ∈ enrolled.identities, other.fingerprint ≠ presented := by
          simpa using howner
        exact ⟨fun owner => ⟨nofun, fun h => absurd rfl (hnone _ h.2)⟩, fun _ => hnone, fun _ => rfl⟩
    | some found =>
        have hkey : found.fingerprint = presented := by simpa using List.find?_some howner
        have hin := List.mem_of_find?_eq_some howner
        refine ⟨fun owner => ⟨fun h => ?_, fun h => ?_⟩, nofun, fun h => absurd hkey (h found hin)⟩
        · cases h
          refine ⟨fun hsame => hpresented ?_, ?_⟩
          · rw [← hkey, eq_of_common hin hmem (.inl hsame)]
          · rw [← hkey]
            exact hin
        · rw [eq_of_common hin h.2 (.inr hkey)]

end Enrolled

theorem mint_ok_iff {declared : List Declared} {enrolled : Enrolled} :
    mint declared = .ok enrolled ↔
      (declared ≠ [] ∧ declared.length ≤ MAX_ENROLLED_MACHINES) ∧
        enrolled.identities = declared.map Declared.identity ∧
        ∀ entry ∈ declared, isMachineName entry.machine = true ∧
          isFingerprint entry.fingerprint = true := by
  unfold mint
  split
  · rename_i hnil
    exact ⟨nofun, fun h => absurd hnil h.1.1⟩
  split
  · rename_i hmany
    exact ⟨nofun, fun h => absurd h.1.2 (by omega)⟩
  rename_i hnil hmany
  split
  · rename_i refusal hrefused
    refine ⟨nofun, fun h => ?_⟩
    have hminted := (mintFrom_ok_iff List.Pairwise.nil).2 ⟨h.2.1, h.2.2, enrolled.distinct⟩
    rw [hrefused] at hminted
    cases hminted
  · rename_i identities hminted
    obtain ⟨hsame, hwell, -⟩ := (mintFrom_ok_iff List.Pairwise.nil).1 hminted
    constructor
    · intro h
      obtain rfl := Except.ok.inj h
      exact ⟨⟨hnil, by omega⟩, hsame, hwell⟩
    · rintro ⟨-, henrolled, -⟩
      cases enrolled
      dsimp only at henrolled
      subst henrolled
      exact congrArg Except.ok (by simp [hsame])

/-! ## The verified path -/

/-- One authorised enrolment of one machine, as far as its verification reads it. -/
structure Enrolment where
  machine : Chars
  deriving DecidableEq, Repr

/-- What the Auxiliary answered on the new path. -/
structure AuxiliaryReport where
  machine : Chars
  operation : Chars
  changed : Bool
  consumedSequence : Nat
  /-- The fingerprint of the identity that opened the session. -/
  identityFingerprint : Chars
  deriving DecidableEq, Repr

def DIAGNOSTIC_OPERATION : Chars := "diagnose_protocol_read_only".toList

inductive VerificationRefusal where
  | anotherMachine (machine : Chars)
  | identity (refusal : IdentityRefusal)
  | notTheDiagnosticOperation (operation : Chars)
  | auxiliaryReportedAMutation
  | nothingConsumed
  deriving DecidableEq, Repr

/-- The proof that a machine was reached through its new identity.  The machine is all it
carries. -/
structure PathVerified where
  machine : Chars
  deriving DecidableEq, Repr

def verify (enrolled : Enrolled) (enrolment : Enrolment) (report : AuxiliaryReport) :
    Except VerificationRefusal PathVerified :=
  if report.machine ≠ enrolment.machine then .error (.anotherMachine report.machine)
  else
    match enrolled.admits enrolment.machine report.identityFingerprint with
    | .error refusal => .error (.identity refusal)
    | .ok _ =>
        if report.changed then .error .auxiliaryReportedAMutation
        else if report.operation ≠ DIAGNOSTIC_OPERATION then
          .error (.notTheDiagnosticOperation report.operation)
        else if report.consumedSequence = 0 then .error .nothingConsumed
        else .ok ⟨enrolment.machine⟩

/-- A verified path, with what it was earned with. -/
structure Earned where
  enrolled : Enrolled
  enrolment : Enrolment
  report : AuxiliaryReport
  verified : PathVerified
  earned : verify enrolled enrolment report = .ok verified

/-- The identity a path was verified with. -/
def Earned.identity (x : Earned) : Chars := x.report.identityFingerprint

/-- A verified path is one to the machine that admits the key it was reached with. -/
theorem verify_ok {enrolled : Enrolled} {enrolment : Enrolment} {report : AuxiliaryReport}
    {verified : PathVerified} (h : verify enrolled enrolment report = .ok verified) :
    report.machine = verified.machine ∧
      ∃ minted, enrolled.admits verified.machine report.identityFingerprint = .ok minted := by
  unfold verify at h
  split at h
  · cases h
  rename_i hmachine
  split at h
  · cases h
  rename_i minted hminted
  split at h
  · cases h
  split at h
  · cases h
  split at h
  · cases h
  rw [← Except.ok.inj h]
  exact ⟨not_not.1 hmachine, minted, hminted⟩

/-- The gate mints a declaration as it stands, when its machines and its keys are apart.  Then a
machine admits the key that was declared for it and no other, a refusal tells whose key it was,
and a path is verified only with the key of its own machine. -/
theorem mint_admits (declared : List Declared) :
    ((∃ enrolled, mint declared = .ok enrolled) ↔
      (declared ≠ [] ∧ declared.length ≤ MAX_ENROLLED_MACHINES) ∧
        (∀ entry ∈ declared, isMachineName entry.machine = true ∧
          isFingerprint entry.fingerprint = true) ∧
        (declared.map Declared.identity).Pairwise Apart) ∧
    ∀ enrolled, mint declared = .ok enrolled →
      (∀ enrolment report verified, verify enrolled enrolment report = .ok verified →
        report.machine = verified.machine ∧
          ⟨verified.machine, report.identityFingerprint⟩ ∈ declared) ∧
      ∀ machine presented, ((∃ minted, enrolled.admits machine presented = .ok minted) ↔
        ⟨machine, presented⟩ ∈ declared) ∧
      (machine ∈ declared.map Declared.machine →
        (∀ owner, enrolled.admits machine presented = .error (.foreignIdentity machine owner) ↔
          owner ≠ machine ∧ ⟨owner, presented⟩ ∈ declared) ∧
        (enrolled.admits machine presented = .error (.unattributed machine) ↔
          presented ∉ declared.map Declared.fingerprint)) := by
  have hin : ∀ (machine key : Chars),
      (⟨machine, key⟩ : MintedIdentity) ∈ declared.map Declared.identity ↔
        ⟨machine, key⟩ ∈ declared := by
    intro machine key
    rw [List.mem_map]
    constructor
    · rintro ⟨entry, hentry, hsame⟩
      cases hsame
      exact hentry
    · exact fun h => ⟨_, h, rfl⟩
  refine ⟨⟨?_, fun h => ⟨⟨_, h.2.2⟩, mint_ok_iff.2 ⟨h.1, rfl, h.2.1⟩⟩⟩, ?_⟩
  · rintro ⟨enrolled, h⟩
    obtain ⟨hsize, hsame, hwell⟩ := mint_ok_iff.1 h
    exact ⟨hsize, hwell, hsame ▸ enrolled.distinct⟩
  · intro enrolled h
    obtain ⟨-, hsame, -⟩ := mint_ok_iff.1 h
    have hadmits : ∀ machine presented, (∃ minted, enrolled.admits machine presented = .ok minted) ↔
        ⟨machine, presented⟩ ∈ declared := by
      intro machine presented
      simp only [Enrolled.admits_ok_iff, ← hin, hsame]
      constructor
      · rintro ⟨minted, hmem, rfl, rfl⟩
        exact hmem
      · exact fun hmem => ⟨_, hmem, rfl, rfl⟩
    refine ⟨fun enrolment report verified hverify => ?_, fun machine presented =>
      ⟨hadmits machine presented, fun hmachine => ?_⟩⟩
    · obtain ⟨hmachine, hminted⟩ := verify_ok hverify
      exact ⟨hmachine, (hadmits _ _).1 hminted⟩
    · obtain ⟨entry, hentry, rfl⟩ := List.mem_map.1 hmachine
      have hknown : ∃ minted ∈ enrolled.identities, minted.machine = entry.machine :=
        ⟨entry.identity, hsame ▸ List.mem_map_of_mem hentry, rfl⟩
      obtain ⟨hforeign, hnobody⟩ := @Enrolled.admits_refused enrolled _ presented hknown
      refine ⟨fun owner => ?_, hnobody.trans ?_⟩
      · rw [hforeign owner, hsame, hin]
      · rw [hsame]
        simp [Declared.identity]

end YourCloud.Assistant.MachineIdentity
