import YourCloud.Assistant.Entry
import YourCloud.Assistant.MachineIdentity
import YourCloud.Foundation.Run

/-!
# The replacement of a Controller on one machine

After a cut the state of a machine is rebuilt from the managed key file and from a
session tried with each identity, and a withdrawal takes away the old entries once
a path to the machine was verified.  The verified path carries the machine and not
the identity it was earned with, so what a withdrawal keeps is what its caller says.

## Main results

* `reconstruct_newOnly` — a machine reported finished was reached by the new identity.
* `withdraw_ok` — what a withdrawal names and what it keeps.
* `accounted_iff` — exactly when a withdrawal only takes what it may and leaves the
  identity its path was earned with.
* `withdrawals_sound` — the runs whose withdrawals are tied to their proof.
-/

namespace YourCloud.Assistant.Replacement

open YourCloud.Foundation
open Chars (byteLength trim)
open MachineIdentity (PathVerified Enrolled Enrolment AuxiliaryReport Earned verify
  HOST_KEY_FINGERPRINT_BYTES)

/-! ## The four states -/

/-- What a session opened with one identity answered. -/
inductive Attempt where
  | answered
  | refused
  | noAnswer
  deriving DecidableEq, Repr

/-- What a machine was observed to hold; no fingerprints where the file could not be read. -/
structure Evidence where
  managedFingerprints : Option (List Chars)
  oldFingerprint : Chars
  newFingerprint : Chars
  oldIdentity : Attempt
  newIdentity : Attempt
  deriving DecidableEq, Repr

inductive TargetState where
  | oldOnly
  | boundedOverlap
  | newOnly
  | unknown
  deriving DecidableEq, Repr

/-- Whether the identity works, where the attempt said. -/
def Attempt.works : Attempt → Option Bool
  | .answered => some true
  | .refused => some false
  | .noAnswer => none

/-- The state of one target, from what the machine answered. -/
def reconstruct (evidence : Evidence) : TargetState :=
  match evidence.managedFingerprints with
  | none => .unknown
  | some installed =>
      let oldInstalled := decide (evidence.oldFingerprint ∈ installed)
      let newInstalled := decide (evidence.newFingerprint ∈ installed)
      match evidence.oldIdentity.works, evidence.newIdentity.works with
      | some oldWorks, some newWorks =>
          if oldInstalled != oldWorks || newInstalled != newWorks then .unknown
          else
            match oldWorks, newWorks with
            | true, false => .oldOnly
            | true, true => .boundedOverlap
            | false, true => .newOnly
            | false, false => .unknown
      | _, _ => .unknown

inductive Next where
  | installNewAuthority
  | withdrawOldAuthority
  | nothing
  | observeOnly
  deriving DecidableEq, Repr

def next : TargetState → Next
  | .oldOnly => .installNewAuthority
  | .boundedOverlap => .withdrawOldAuthority
  | .newOnly => .nothing
  | .unknown => .observeOnly

theorem Attempt.works_eq_true {attempt : Attempt} : attempt.works = some true ↔ attempt = .answered := by
  cases attempt <;> simp [Attempt.works]

/-- A state that is known is the one the file and both sessions agree on. -/
theorem reconstruct_known {evidence : Evidence} (h : reconstruct evidence ≠ .unknown) :
    ∃ installed oldWorks newWorks, evidence.managedFingerprints = some installed ∧
      evidence.oldIdentity.works = some oldWorks ∧ evidence.newIdentity.works = some newWorks ∧
      decide (evidence.oldFingerprint ∈ installed) = oldWorks ∧
      decide (evidence.newFingerprint ∈ installed) = newWorks ∧
      (reconstruct evidence = .newOnly → newWorks = true) ∧
      (reconstruct evidence = .boundedOverlap → oldWorks = true ∧ newWorks = true) := by
  unfold reconstruct at h ⊢
  split at h
  · exact absurd rfl h
  rename_i installed hinstalled
  dsimp only at h ⊢
  split at h
  · rename_i oldWorks newWorks hold hnew
    split at h
    · exact absurd rfl h
    rename_i hagree
    simp only [Bool.or_eq_true, bne_iff_ne, not_or, not_not] at hagree
    refine ⟨installed, oldWorks, newWorks, hinstalled, hold, hnew, hagree.1, hagree.2, ?_, ?_⟩
    · cases oldWorks <;> cases newWorks <;> simp [hagree]
    · cases oldWorks <;> cases newWorks <;> simp [hagree]
  · exact absurd rfl h

/-- A machine reported finished was reached by the new identity, and holds its entry. -/
theorem reconstruct_newOnly {evidence : Evidence} (h : reconstruct evidence = .newOnly) :
    evidence.newIdentity = .answered ∧
      ∃ installed, evidence.managedFingerprints = some installed ∧
        evidence.newFingerprint ∈ installed := by
  have hknown : reconstruct evidence ≠ .unknown := by simp [h]
  obtain ⟨installed, oldWorks, newWorks, hinstalled, -, hworks, -, hagree, hnew, -⟩ :=
    reconstruct_known hknown
  rw [hnew h] at hworks hagree
  exact ⟨Attempt.works_eq_true.1 hworks, installed, hinstalled, by simpa using hagree⟩

/-- A withdrawal is proposed where both identities reached the machine. -/
theorem next_withdraw {evidence : Evidence}
    (h : next (reconstruct evidence) = .withdrawOldAuthority) :
    evidence.oldIdentity = .answered ∧ evidence.newIdentity = .answered := by
  have hoverlap : reconstruct evidence = .boundedOverlap := by
    cases hstate : reconstruct evidence <;> rw [hstate] at h <;> first | rfl | cases h
  have hknown : reconstruct evidence ≠ .unknown := by simp [hoverlap]
  obtain ⟨installed, oldWorks, newWorks, -, hold, hnew, -, -, -, hboth⟩ := reconstruct_known hknown
  rw [(hboth hoverlap).1] at hold
  rw [(hboth hoverlap).2] at hnew
  exact ⟨Attempt.works_eq_true.1 hold, Attempt.works_eq_true.1 hnew⟩

/-! ## What may be taken away -/

def AUXILIARY_ACCOUNT : Chars := "your-cloud-auxiliary".toList

def KEY_FILE_DIRECTORY : Chars := "/etc/your-cloud/authorized-keys".toList

def keyFile : Chars := KEY_FILE_DIRECTORY ++ "/".toList ++ AUXILIARY_ACCOUNT

/-- One entry as it stands on a machine, with the fingerprint of its key. -/
structure ObservedKey where
  file : Chars
  line : Chars
  fingerprint : Chars
  deriving DecidableEq, Repr

/-- What an observed entry is.  The refusal of an unmanaged one is what the judge said of it. -/
inductive KeyProvenance where
  | managed
  | unrecognised
  | unmanaged (refusal : EntryRefusal)
  | personal
  deriving DecidableEq, Repr

def classify (observed : ObservedKey) (minted : List Chars) : KeyProvenance :=
  if observed.file ≠ keyFile then .personal
  else
    match judge (trim observed.line ++ ['\n']) with
    | .error refusal => .unmanaged refusal
    | .ok _ => if observed.fingerprint ∈ minted then .managed else .unrecognised

/-- One entry a withdrawal may take away, by its file and its fingerprint. -/
structure Removal where
  file : Chars
  fingerprint : Chars
  deriving DecidableEq, Repr

structure Kept where
  file : Chars
  fingerprint : Chars
  provenance : KeyProvenance
  deriving DecidableEq, Repr

inductive WithdrawalRefusal where
  | verifiedAnotherMachine (machine : Chars)
  | nothingObserved
  | newIdentityNotPresent (fingerprint : Chars)
  | malformedFingerprint (fingerprint : Chars)
  | wouldRemoveTheNewIdentity
  deriving DecidableEq, Repr

structure Withdrawal where
  machine : Chars
  removals : List Removal
  kept : List Kept
  deriving DecidableEq, Repr

/-- A fingerprint by its length and its first letters. -/
def isFingerprint (value : Chars) : Bool :=
  byteLength value == HOST_KEY_FINGERPRINT_BYTES && "SHA256:".toList.isPrefixOf value

/-- What the loop over the entries has found so far. -/
structure Sorted where
  keptNew : Bool
  removals : List Removal
  kept : List Kept
  deriving DecidableEq, Repr

/-- One entry is removed or kept. -/
def Sorted.add (keeping : Chars) (retiring : List Chars) (s : Sorted) (entry : ObservedKey) :
    Sorted :=
  let provenance := classify entry (retiring ++ [keeping])
  let keptNew := s.keptNew || (entry.fingerprint == keeping && provenance == .managed)
  if provenance = .managed ∧ entry.fingerprint ≠ keeping ∧ entry.fingerprint ∈ retiring then
    ⟨keptNew, s.removals ++ [⟨entry.file, entry.fingerprint⟩], s.kept⟩
  else ⟨keptNew, s.removals, s.kept ++ [⟨entry.file, entry.fingerprint, provenance⟩]⟩

def withdraw (verified : PathVerified) (machine : Chars) (observed : List ObservedKey)
    (keeping : Chars) (retiring : List Chars) : Except WithdrawalRefusal Withdrawal :=
  if verified.machine ≠ machine then .error (.verifiedAnotherMachine verified.machine)
  else if !isFingerprint keeping then .error (.malformedFingerprint keeping)
  else if keeping ∈ retiring then .error .wouldRemoveTheNewIdentity
  else if observed = [] then .error .nothingObserved
  else
    match observed.find? fun entry => !isFingerprint entry.fingerprint with
    | some entry => .error (.malformedFingerprint entry.fingerprint)
    | none =>
        let sorted := observed.foldl (Sorted.add keeping retiring) ⟨false, [], []⟩
        if !sorted.keptNew then .error (.newIdentityNotPresent keeping)
        else .ok ⟨machine, sorted.removals, sorted.kept⟩

/-- The entry stands in the managed file, and is one this product writes. -/
def ObservedKey.ours (entry : ObservedKey) : Bool :=
  entry.file = keyFile && (judge (trim entry.line ++ ['\n'])).isOk

/-- What a report calls an entry by. -/
def ObservedKey.name (entry : ObservedKey) : Chars × Chars := (entry.file, entry.fingerprint)

def Removal.name (removal : Removal) : Chars × Chars := (removal.file, removal.fingerprint)

def Kept.name (kept : Kept) : Chars × Chars := (kept.file, kept.fingerprint)

/-- The entry is named for removal. -/
def Withdrawal.Names (w : Withdrawal) (entry : ObservedKey) : Prop :=
  entry.name ∈ w.removals.map Removal.name

instance (w : Withdrawal) (entry : ObservedKey) : Decidable (w.Names entry) :=
  inferInstanceAs (Decidable (entry.name ∈ w.removals.map Removal.name))

theorem classify_managed {entry : ObservedKey} {minted : List Chars} :
    classify entry minted = .managed ↔ entry.ours = true ∧ entry.fingerprint ∈ minted := by
  unfold classify ObservedKey.ours
  by_cases hfile : entry.file = keyFile
  · rw [if_neg (not_not.2 hfile)]
    cases judge (trim entry.line ++ ['\n']) with
    | error refusal => simp [Except.isOk, Except.toBool]
    | ok bounded =>
        by_cases hminted : entry.fingerprint ∈ minted
        · simp [hfile, hminted, Except.isOk, Except.toBool]
        · simp [hminted]
  · simp [hfile]

section Sorting

variable (keeping : Chars) (retiring : List Chars)

/-- The entries a withdrawal takes away. -/
def removable (entry : ObservedKey) : Bool :=
  entry.ours && entry.fingerprint != keeping && entry.fingerprint ∈ retiring

/-- What the loop over the entries finds. -/
theorem foldl_add (observed : List ObservedKey) (s : Sorted) :
    observed.foldl (Sorted.add keeping retiring) s =
      ⟨s.keptNew || observed.any fun entry => entry.fingerprint == keeping && entry.ours,
        s.removals ++ (observed.filter (removable keeping retiring)).map
          fun entry => ⟨entry.file, entry.fingerprint⟩,
        s.kept ++ (observed.filter fun entry => !removable keeping retiring entry).map
          fun entry => ⟨entry.file, entry.fingerprint, classify entry (retiring ++ [keeping])⟩⟩ := by
  induction observed generalizing s with
  | nil => simp
  | cons entry observed ih =>
      have hnew : (entry.fingerprint == keeping &&
          classify entry (retiring ++ [keeping]) == .managed) =
            (entry.fingerprint == keeping && entry.ours) := by
        by_cases hkeeping : entry.fingerprint = keeping
        · rw [Bool.eq_iff_iff]
          simp [hkeeping, classify_managed]
        · rw [beq_eq_false_iff_ne.2 hkeeping, Bool.false_and, Bool.false_and]
      have hremovable : (classify entry (retiring ++ [keeping]) = .managed ∧
          entry.fingerprint ≠ keeping ∧ entry.fingerprint ∈ retiring) ↔
            removable keeping retiring entry = true := by
        simp only [classify_managed, removable, Bool.and_eq_true, bne_iff_ne, decide_eq_true_eq,
          List.mem_append, List.mem_singleton]
        tauto
      rw [List.foldl_cons, ih]
      unfold Sorted.add
      simp only [hremovable, hnew]
      by_cases hentry : removable keeping retiring entry = true
      · simp [hentry, Bool.or_assoc]
      · simp [hentry, Bool.or_assoc]

variable {keeping retiring}

/-- What a withdrawal that goes through names, what it keeps, and what it has checked. -/
structure Withdrawn (verified : PathVerified) (machine : Chars) (observed : List ObservedKey)
    (keeping : Chars) (retiring : List Chars) (w : Withdrawal) : Prop where
  here : verified.machine = machine
  apart : keeping ∉ retiring
  present : ∃ entry ∈ observed, entry.ours = true ∧ entry.fingerprint = keeping
  removals : w.removals = (observed.filter (removable keeping retiring)).map
    fun entry => ⟨entry.file, entry.fingerprint⟩
  kept : w.kept = (observed.filter fun entry => !removable keeping retiring entry).map
    fun entry => ⟨entry.file, entry.fingerprint, classify entry (retiring ++ [keeping])⟩

theorem withdraw_ok {verified : PathVerified} {machine : Chars} {observed : List ObservedKey}
    {w : Withdrawal} (h : withdraw verified machine observed keeping retiring = .ok w) :
    Withdrawn verified machine observed keeping retiring w := by
  unfold withdraw at h
  split at h
  · cases h
  rename_i hmachine
  split at h
  · cases h
  split at h
  · cases h
  rename_i hkeeping
  split at h
  · cases h
  split at h
  · cases h
  dsimp only at h
  rw [foldl_add] at h
  split at h
  · cases h
  rename_i hnew
  cases h
  refine ⟨not_not.1 hmachine, hkeeping, ?_, by simp, by simp⟩
  simp only [Bool.not_eq_true', Bool.not_eq_false, Bool.false_or, List.any_eq_true,
    Bool.and_eq_true, beq_iff_eq] at hnew
  obtain ⟨entry, hmem, hfingerprint, hours⟩ := hnew
  exact ⟨entry, hmem, hours, hfingerprint⟩

end Sorting

/-! ## A withdrawal accounted for -/

/-- A withdrawal takes only what it may, leaves the identity its path was earned with, and puts
every entry on one side. -/
structure Accounted (machine : Chars) (x : Earned) (retiring : List Chars)
    (observed : List ObservedKey) (w : Withdrawal) : Prop where
  named : ∀ entry ∈ observed, w.Names entry → entry.ours = true ∧ entry.fingerprint ∈ retiring
  stays : ∀ entry ∈ observed, w.Names entry → x.verified.machine = machine ∧
    ∃ other ∈ observed, ¬ w.Names other ∧ other.ours = true ∧ other.fingerprint = x.identity
  each : (w.removals.map Removal.name ++ w.kept.map Kept.name).Perm (observed.map ObservedKey.name)
  once : ∀ removal ∈ w.removals, ∀ kept ∈ w.kept, removal.name ≠ kept.name

/-- Where an entry is to be retired, the identity kept is the one the path was earned with, or
that one stays as well, and every entry of the same file and fingerprint is one of ours. -/
def Tied (x : Earned) (keeping : Chars) (retiring : List Chars) (observed : List ObservedKey) :
    Prop :=
  ∀ entry ∈ observed, entry.ours = true → entry.fingerprint ∈ retiring →
    (x.identity = keeping ∨ x.identity ∉ retiring ∧
      ∃ other ∈ observed, other.ours = true ∧ other.fingerprint = x.identity) ∧
    ∀ other ∈ observed, other.name = entry.name → other.ours = true

instance (x : Earned) (keeping : Chars) (retiring : List Chars) (observed : List ObservedKey) :
    Decidable (Tied x keeping retiring observed) :=
  inferInstanceAs (Decidable (∀ entry ∈ observed, _))

section Accounts

variable {machine keeping : Chars} {retiring : List Chars} {observed : List ObservedKey}
  {x : Earned} {w : Withdrawal}

/-- What is named is what has the file and the fingerprint of an entry that is to go. -/
theorem Withdrawn.names_iff (h : Withdrawn x.verified machine observed keeping retiring w)
    {entry : ObservedKey} :
    w.Names entry ↔ ∃ gone ∈ observed, gone.ours = true ∧ gone.fingerprint ∈ retiring ∧
      gone.name = entry.name := by
  unfold Withdrawal.Names
  rw [h.removals, List.map_map]
  constructor
  · intro hmem
    obtain ⟨gone, hgone, hname⟩ := List.mem_map.1 hmem
    obtain ⟨hobserved, hremovable⟩ := List.mem_filter.1 hgone
    simp only [removable, Bool.and_eq_true, decide_eq_true_eq] at hremovable
    exact ⟨gone, hobserved, hremovable.1.1, hremovable.2, hname⟩
  · rintro ⟨gone, hobserved, hours, hretiring, hname⟩
    refine List.mem_map.2 ⟨gone, List.mem_filter.2 ⟨hobserved, ?_⟩, hname⟩
    have hkeeping : gone.fingerprint ≠ keeping := fun heq => h.apart (heq ▸ hretiring)
    simp [removable, hours, hkeeping, hretiring]

/-- An entry whose fingerprint is not to be retired is not named. -/
theorem Withdrawn.spared (h : Withdrawn x.verified machine observed keeping retiring w)
    {entry : ObservedKey} (hentry : entry.fingerprint ∉ retiring) : ¬ w.Names entry := by
  rw [h.names_iff]
  rintro ⟨gone, -, -, hretiring, hname⟩
  have hfingerprint : gone.fingerprint = entry.fingerprint := congrArg Prod.snd hname
  exact hentry (hfingerprint ▸ hretiring)

/-- Exactly when a withdrawal that goes through is accounted for. -/
theorem accounted_iff (h : Withdrawn x.verified machine observed keeping retiring w) :
    Accounted machine x retiring observed w ↔ Tied x keeping retiring observed := by
  constructor
  · intro haccounted entry hentry hours hretiring
    have hnames : w.Names entry := h.names_iff.2 ⟨entry, hentry, hours, hretiring, rfl⟩
    obtain ⟨-, other, hother, hspared, hoursOther, hidentity⟩ := haccounted.stays entry hentry hnames
    constructor
    · right
      refine ⟨fun hgone => hspared ?_, other, hother, hoursOther, hidentity⟩
      exact h.names_iff.2 ⟨other, hother, hoursOther, hidentity ▸ hgone, rfl⟩
    · intro same hsame hname
      have hnamed : w.Names same := h.names_iff.2 ⟨entry, hentry, hours, hretiring, hname.symm⟩
      exact (haccounted.named same hsame hnamed).1
  · intro htied
    have hstays : ∀ entry ∈ observed, w.Names entry →
        ∃ other ∈ observed, other.ours = true ∧ other.fingerprint = x.identity ∧
          x.identity ∉ retiring := by
      intro entry _ hnames
      obtain ⟨gone, hgone, hours, hretiring, -⟩ := h.names_iff.1 hnames
      cases (htied gone hgone hours hretiring).1 with
      | inl hidentity =>
          obtain ⟨other, hother, hoursOther, hkeeping⟩ := h.present
          exact ⟨other, hother, hoursOther, hkeeping.trans hidentity.symm, hidentity ▸ h.apart⟩
      | inr hother =>
          obtain ⟨hspared, other, hmem, hoursOther, hidentity⟩ := hother
          exact ⟨other, hmem, hoursOther, hidentity, hspared⟩
    constructor
    · intro entry hentry hnames
      obtain ⟨gone, hgone, hours, hretiring, hname⟩ := h.names_iff.1 hnames
      have hfingerprint : gone.fingerprint = entry.fingerprint := congrArg Prod.snd hname
      exact ⟨(htied gone hgone hours hretiring).2 entry hentry hname.symm, hfingerprint ▸ hretiring⟩
    · intro entry hentry hnames
      obtain ⟨other, hother, hours, hidentity, hspared⟩ := hstays entry hentry hnames
      exact ⟨h.here, other, hother, h.spared (hidentity ▸ hspared), hours, hidentity⟩
    · have hperm := (List.filter_append_perm (removable keeping retiring) observed).map
        ObservedKey.name
      rw [List.map_append] at hperm
      rw [h.removals, h.kept, List.map_map, List.map_map]
      exact hperm
    · intro removal hremoval kept hkept hname
      rw [h.removals] at hremoval
      rw [h.kept] at hkept
      obtain ⟨gone, hgone, rfl⟩ := List.mem_map.1 hremoval
      obtain ⟨entry, hentry, rfl⟩ := List.mem_map.1 hkept
      obtain ⟨hobserved, hremovable⟩ := List.mem_filter.1 hgone
      obtain ⟨hmem, hstaying⟩ := List.mem_filter.1 hentry
      have hsame : gone.name = entry.name := hname
      have hfingerprint : gone.fingerprint = entry.fingerprint := congrArg Prod.snd hsame
      simp only [removable, Bool.and_eq_true, bne_iff_ne, decide_eq_true_eq] at hremovable
      obtain ⟨⟨hours, hkeeping⟩, hretiring⟩ := hremovable
      have hoursEntry := (htied gone hobserved hours hretiring).2 entry hmem hsame.symm
      rw [hfingerprint] at hkeeping hretiring
      simp [removable, hoursEntry, hkeeping, hretiring] at hstaying

end Accounts

/-! ## The runs -/

/-- The entries on the machine, the identities whose last session on it was answered, and what
the run in hand holds: the paths it verified, on this machine or another, and the step last
proposed.  The state last reported outlives the run. -/
structure State where
  keys : List ObservedKey
  answered : Chars → Bool
  paths : List Earned
  proposed : Next
  reported : Option TargetState

/-- Whatever is written to the files of the machine by others, a cut, a reading of the machine,
a path verified, and a withdrawal with one of the paths. -/
inductive Event where
  | written (keys : List ObservedKey)
  | cut
  | read (readable : Bool) (oldIdentity newIdentity : Attempt)
  | verify (enrolled : Enrolled) (enrolment : Enrolment) (report : AuxiliaryReport)
  | withdraw (path : Nat) (keeping : Chars) (retiring : List Chars)

inductive Answer where
  | none
  | rebuilt (state : TargetState) (next : Next)
  | verified (result : Except MachineIdentity.VerificationRefusal PathVerified)
  | withdrawn (result : Except WithdrawalRefusal Withdrawal)
  deriving DecidableEq

section Runs

variable (machine oldFingerprint newFingerprint : Chars)

/-- What a reading of the machine holds. -/
def evidenceOf (s : State) (readable : Bool) (oldIdentity newIdentity : Attempt) : Evidence where
  managedFingerprints :=
    if readable then some ((s.keys.filter (·.file = keyFile)).map (·.fingerprint)) else none
  oldFingerprint
  newFingerprint
  oldIdentity
  newIdentity

/-- What is known of the identities once a session was tried with one of them. -/
def tried (identity : Chars) (worked : Bool) (answered : Chars → Bool) : Chars → Bool :=
  fun other => if other = identity then worked else answered other

/-- A report read back on a path: the path is held where it is verified, and the identity that
opened the session answered. -/
def verifyPath (s : State) (enrolled : Enrolled) (enrolment : Enrolment)
    (report : AuxiliaryReport) : State × Answer :=
  match h : verify enrolled enrolment report with
  | .error refusal => (s, .verified (.error refusal))
  | .ok verified =>
      ({ s with
          paths := s.paths ++ [⟨enrolled, enrolment, report, verified, h⟩]
          answered :=
            if verified.machine = machine then tried report.identityFingerprint true s.answered
            else s.answered }, .verified (.ok verified))

/-- A withdrawal is made where it was proposed, and what it names is taken away. -/
def withdrawKeys (s : State) (path : Nat) (keeping : Chars) (retiring : List Chars) :
    State × Answer :=
  match s.paths[path]?, s.proposed with
  | some x, .withdrawOldAuthority =>
      match withdraw x.verified machine s.keys keeping retiring with
      | .error refusal => (s, .withdrawn (.error refusal))
      | .ok w =>
          ({ s with keys := s.keys.filter fun entry => ¬ w.Names entry }, .withdrawn (.ok w))
  | _, _ => (s, .none)

def step (s : State) : Event → State × Answer
  | .written keys => ({ s with keys }, .none)
  | .cut => ({ s with paths := [], proposed := .observeOnly }, .none)
  | .read readable oldIdentity newIdentity =>
      let state := reconstruct
        (evidenceOf oldFingerprint newFingerprint s readable oldIdentity newIdentity)
      ({ s with
          answered := tried newFingerprint (newIdentity = .answered)
            (tried oldFingerprint (oldIdentity = .answered) s.answered)
          proposed := next state
          reported := some state }, .rebuilt state (next state))
  | .verify enrolled enrolment report => verifyPath machine s enrolled enrolment report
  | .withdraw path keeping retiring => withdrawKeys machine s path keeping retiring

/-- A run begins with nothing known of the machine. -/
def start (keys : List ObservedKey) : State where
  keys
  answered := fun _ => false
  paths := []
  proposed := .observeOnly
  reported := none

/-- An entry of ours whose identity reaches the machine. -/
def State.Works (s : State) (entry : ObservedKey) : Prop :=
  entry.ours = true ∧ s.answered entry.fingerprint = true

instance (s : State) (entry : ObservedKey) : Decidable (s.Works entry) :=
  inferInstanceAs (Decidable (_ ∧ _))

/-- A withdrawal that goes through is accounted for, and does not take the last entry that
works. -/
def Sound (s : State) (e : Event) : Prop :=
  ∀ path keeping retiring x w, e = .withdraw path keeping retiring → s.paths[path]? = some x →
    answer (step machine oldFingerprint newFingerprint) s e = .withdrawn (.ok w) →
    Accounted machine x retiring s.keys w ∧
      ((∃ entry ∈ s.keys, s.Works entry) →
        ∃ entry ∈ (Foundation.next (step machine oldFingerprint newFingerprint) s e).keys,
          (Foundation.next (step machine oldFingerprint newFingerprint) s e).Works entry)

/-- A withdrawal keeps what the path it is shown was earned with. -/
def TiedStep (s : State) : Event → Prop
  | .withdraw path keeping retiring => ∀ x ∈ s.paths[path]?, Tied x keeping retiring s.keys
  | _ => True

instance decidableTiedStep (s : State) : ∀ e, Decidable (TiedStep s e)
  | .withdraw path keeping retiring =>
      inferInstanceAs (Decidable (∀ x ∈ s.paths[path]?, Tied x keeping retiring s.keys))
  | .written _ | .cut | .read .. | .verify .. => inferInstanceAs (Decidable True)

/-- What is known of the identities follows from the sessions tried. -/
structure Inv (s : State) : Prop where
  paths : ∀ x ∈ s.paths, x.verified.machine = machine →
    x.identity = oldFingerprint ∨ x.identity = newFingerprint ∨ s.answered x.identity = true
  proposed : s.proposed = .withdrawOldAuthority →
    s.answered oldFingerprint = true ∧ s.answered newFingerprint = true
  reported : s.reported = some .newOnly → s.answered newFingerprint = true

variable {machine oldFingerprint newFingerprint}

theorem tried_of_true {identity other : Chars} {answered : Chars → Bool}
    (h : answered other = true) : tried identity true answered other = true := by
  unfold tried
  by_cases hother : other = identity
  · rw [if_pos hother]
  · rw [if_neg hother, h]

theorem tried_self (identity : Chars) (worked : Bool) (answered : Chars → Bool) :
    tried identity worked answered identity = worked := if_pos rfl

theorem tried_other {identity other : Chars} (h : other ≠ identity) (worked : Bool)
    (answered : Chars → Bool) : tried identity worked answered other = answered other := if_neg h

theorem start_inv (keys : List ObservedKey) :
    Inv machine oldFingerprint newFingerprint (start keys) where
  paths := by simp [start]
  proposed := by simp [start]
  reported := by simp [start]

/-- A session that answered keeps what is known. -/
theorem Inv.learn {s : State} (h : Inv machine oldFingerprint newFingerprint s) (identity : Chars) :
    Inv machine oldFingerprint newFingerprint
      { s with answered := tried identity true s.answered } where
  paths := by
    intro x hx hmachine
    rcases h.paths x hx hmachine with hold | hnew | hanswered
    · exact .inl hold
    · exact .inr (.inl hnew)
    · exact .inr (.inr (tried_of_true hanswered))
  proposed := fun hproposed =>
    ⟨tried_of_true (h.proposed hproposed).1, tried_of_true (h.proposed hproposed).2⟩
  reported := fun hreported => tried_of_true (h.reported hreported)

/-- What each event keeps of what is known. -/
theorem step_inv (s : State) (e : Event) (h : Inv machine oldFingerprint newFingerprint s) :
    Inv machine oldFingerprint newFingerprint
      (Foundation.next (step machine oldFingerprint newFingerprint) s e) := by
  unfold Foundation.next
  cases e with
  | written keys => exact ⟨h.paths, h.proposed, h.reported⟩
  | cut => exact ⟨by simp [step], by simp [step], h.reported⟩
  | read readable oldIdentity newIdentity =>
      constructor
      · intro x hx hmachine
        by_cases hold : x.identity = oldFingerprint
        · exact .inl hold
        by_cases hnew : x.identity = newFingerprint
        · exact .inr (.inl hnew)
        have hanswered := ((h.paths x hx hmachine).resolve_left hold).resolve_left hnew
        right; right
        show tried newFingerprint _ (tried oldFingerprint _ s.answered) x.identity = true
        rw [tried_other hnew, tried_other hold, hanswered]
      · intro hproposed
        obtain ⟨hold, hnew⟩ := next_withdraw hproposed
        have holdIdentity : oldIdentity = .answered := hold
        have hnewIdentity : newIdentity = .answered := hnew
        show tried newFingerprint (decide _) (tried oldFingerprint (decide _) s.answered) _ = true ∧
          tried newFingerprint (decide _) _ _ = true
        simp only [holdIdentity, hnewIdentity, decide_true]
        exact ⟨tried_of_true (tried_self ..), tried_self ..⟩
      · intro hreported
        have hnew := (reconstruct_newOnly (Option.some.inj hreported)).1
        show tried newFingerprint (decide _) _ newFingerprint = true
        rw [tried_self]
        exact decide_eq_true hnew
  | verify enrolled enrolment report =>
      show Inv machine oldFingerprint newFingerprint (verifyPath machine s enrolled enrolment report).1
      unfold verifyPath
      split
      · exact h
      · rename_i verified hverify
        by_cases hmachine : verified.machine = machine
        · simp only [if_pos hmachine]
          have hlearn := h.learn report.identityFingerprint
          refine ⟨fun x hx hhere => ?_, hlearn.proposed, hlearn.reported⟩
          rcases List.mem_append.1 hx with hbefore | hlast
          · exact hlearn.paths x hbefore hhere
          · rw [List.mem_singleton.1 hlast]
            exact .inr (.inr (tried_self ..))
        · simp only [if_neg hmachine]
          refine ⟨fun x hx hhere => ?_, h.proposed, h.reported⟩
          rcases List.mem_append.1 hx with hbefore | hlast
          · exact h.paths x hbefore hhere
          · rw [List.mem_singleton.1 hlast] at hhere
            exact absurd hhere hmachine
  | withdraw path keeping retiring =>
      show Inv machine oldFingerprint newFingerprint (withdrawKeys machine s path keeping retiring).1
      unfold withdrawKeys
      split
      · split
        · exact h
        · exact ⟨h.paths, h.proposed, h.reported⟩
      · exact h

/-- What a withdrawal that went through has done. -/
theorem withdrawn_step {s : State} {path : Nat} {keeping : Chars} {retiring : List Chars}
    {x : Earned} {w : Withdrawal} (hx : s.paths[path]? = some x)
    (h : answer (step machine oldFingerprint newFingerprint) s (.withdraw path keeping retiring) =
      .withdrawn (.ok w)) :
    s.proposed = .withdrawOldAuthority ∧
      Withdrawn x.verified machine s.keys keeping retiring w ∧
      Foundation.next (step machine oldFingerprint newFingerprint) s
          (.withdraw path keeping retiring) =
        { s with keys := s.keys.filter fun entry => ¬ w.Names entry } := by
  unfold answer at h
  unfold Foundation.next
  dsimp only [step, withdrawKeys] at h ⊢
  rw [hx] at h ⊢
  cases hproposed : s.proposed with
  | withdrawOldAuthority =>
      rw [hproposed] at h
      dsimp only at h ⊢
      cases hresult : withdraw x.verified machine s.keys keeping retiring with
      | error refusal =>
          rw [hresult] at h
          cases h
      | ok done =>
          rw [hresult] at h
          cases h
          exact ⟨rfl, withdraw_ok hresult, by simp⟩
  | installNewAuthority =>
      rw [hproposed] at h
      cases h
  | nothing =>
      rw [hproposed] at h
      cases h
  | observeOnly =>
      rw [hproposed] at h
      cases h

/-- The identity of a path to the machine reaches it where a withdrawal is proposed. -/
theorem Inv.identity_answered {s : State} (h : Inv machine oldFingerprint newFingerprint s)
    {x : Earned} (hx : x ∈ s.paths) (hmachine : x.verified.machine = machine)
    (hproposed : s.proposed = .withdrawOldAuthority) : s.answered x.identity = true := by
  rcases h.paths x hx hmachine with hold | hnew | hanswered
  · rw [hold, (h.proposed hproposed).1]
  · rw [hnew, (h.proposed hproposed).2]
  · exact hanswered

/-- A step tied to what its path was earned with is sound. -/
theorem step_sound (s : State) (e : Event) (h : Inv machine oldFingerprint newFingerprint s)
    (htied : TiedStep s e) : Sound machine oldFingerprint newFingerprint s e := by
  intro path keeping retiring x w he hx hanswer
  subst he
  obtain ⟨hproposed, hwithdrawn, hnext⟩ := withdrawn_step hx hanswer
  have haccounted := (accounted_iff hwithdrawn).2 (htied x hx)
  refine ⟨haccounted, fun hworks => ?_⟩
  obtain ⟨entry, hentry, hours, hanswered⟩ := hworks
  rw [hnext]
  by_cases hnames : w.Names entry
  · obtain ⟨hmachine, other, hother, hspared, hoursOther, hidentity⟩ :=
      haccounted.stays entry hentry hnames
    have hreached := h.identity_answered (List.mem_of_getElem? hx) hmachine hproposed
    refine ⟨other, List.mem_filter.2 ⟨hother, decide_eq_true hspared⟩, hoursOther, ?_⟩
    rw [hidentity]
    exact hreached
  · exact ⟨entry, List.mem_filter.2 ⟨hentry, decide_eq_true hnames⟩, hours, hanswered⟩

/-- In a run whose withdrawals keep what their path was earned with, every withdrawal is accounted
for and leaves an entry that works, and a machine reported finished is one the new identity
reaches. -/
theorem withdrawals_sound (keys : List ObservedKey) (events : List Event)
    (h : Admits (step machine oldFingerprint newFingerprint) TiedStep (start keys) events) :
    Admits (step machine oldFingerprint newFingerprint)
        (Sound machine oldFingerprint newFingerprint) (start keys) events ∧
      ((run (step machine oldFingerprint newFingerprint) (start keys) events).reported =
          some .newOnly →
        (run (step machine oldFingerprint newFingerprint) (start keys) events).answered
          newFingerprint = true) := by
  constructor
  · exact admits_of_invariant (fun s e hs _ => step_inv s e hs) step_sound (start_inv keys) h
  · exact (run_invariant step_inv (start_inv keys) events).reported

end Runs

/-! ### A run that keeps an identity nobody proved -/

def labMachine : Chars := "lab-machine-1".toList

/-- A fingerprint of one letter. -/
def fingerprintOf (letter : Char) : Chars := "SHA256:".toList ++ List.replicate 43 letter

def oldKey : Chars := fingerprintOf 'A'

def newKey : Chars := fingerprintOf 'B'

def strangerKey : Chars := fingerprintOf 'C'

/-- One entry as it is written in the managed file. -/
def managed (fingerprint : Chars) : ObservedKey := ⟨keyFile, renderedLine sampleKey, fingerprint⟩

def estate : Enrolled := ⟨[⟨labMachine, newKey⟩], List.pairwise_singleton _ _⟩

example : MachineIdentity.mint [⟨labMachine, newKey⟩] = .ok estate := by decide

def labReport : AuxiliaryReport where
  machine := labMachine
  operation := MachineIdentity.DIAGNOSTIC_OPERATION
  changed := false
  consumedSequence := 1
  identityFingerprint := newKey

/-- Both identities answer, and the new path is verified. -/
def overlapRun : List Event :=
  [.read true .answered .answered, .verify estate ⟨labMachine⟩ labReport]

/-- The path was earned with the new identity, and the withdrawal keeps a third one: both entries
that work are taken away. -/
theorem unproven_kept :
    let labStep := step labMachine oldKey newKey
    let s := run labStep (start [managed oldKey, managed newKey, managed strangerKey]) overlapRun
    let e := Event.withdraw 0 strangerKey [oldKey, newKey]
    (∃ entry ∈ s.keys, s.Works entry) ∧
      (∀ entry ∈ (Foundation.next labStep s e).keys, ¬ (Foundation.next labStep s e).Works entry) ∧
      ¬ Sound labMachine oldKey newKey s e := by
  intro labStep s e
  have hworks : ∃ entry ∈ s.keys, s.Works entry := by decide +kernel
  have hleft : ∀ entry ∈ (Foundation.next labStep s e).keys,
      ¬ (Foundation.next labStep s e).Works entry := by
    decide +kernel
  refine ⟨hworks, hleft, fun hsound => ?_⟩
  obtain ⟨x, hx⟩ := Option.isSome_iff_exists.1 (by decide : s.paths[0]?.isSome = true)
  have hanswer : answer labStep s e = .withdrawn (.ok ⟨labMachine,
      [⟨keyFile, oldKey⟩, ⟨keyFile, newKey⟩], [⟨keyFile, strangerKey, .managed⟩]⟩) := by
    decide +kernel
  obtain ⟨entry, hentry, hstill⟩ := (hsound 0 _ _ x _ rfl hx hanswer).2 hworks
  exact hleft entry hentry hstill

/-- The run in which the new identity is kept and the old one goes. -/
theorem overlap_withdrawn :
    let events := overlapRun ++
      [.withdraw 0 newKey [oldKey], .read true .refused .answered]
    let labStep := step labMachine oldKey newKey
    let keys := [managed oldKey, managed newKey]
    Admits labStep (Sound labMachine oldKey newKey) (start keys) events ∧
      (run labStep (start keys) events).answered newKey = true := by
  intro events labStep keys
  have htied : Admits labStep TiedStep (start keys) events := by decide +kernel
  have hsound := withdrawals_sound keys events htied
  exact ⟨hsound.1, hsound.2 (by decide +kernel)⟩

end YourCloud.Assistant.Replacement
