import YourCloud.Auxiliary.Engine
import YourCloud.Auxiliary.Exchange

/-!
# Undoing the return of a service to an archive

A return that fails after it reached its effects is undone by the approved
rollback, which is a return to the reserved slot.  That slot holds the state the
first return replaced only if the first return got as far as writing it: where it
failed before that, the rollback returns to whatever an earlier return left there.

A machine is its disk and the answers it gives, once for the operation and once
for its rollback.

## Main results

* `returnData_meets` — what a return does to the disk, wherever it fails.
* `restored_iff` — exactly when a return that was rolled back left the data of the
  service and its archives as they were.
-/

namespace YourCloud.Auxiliary

open YourCloud.Foundation
open AuxiliaryReport (outcomeRolledBack outcomePartial)
open Dialogue (converse)
open Operation (carriedOut)

/-- A return of a service to one of its slots. -/
def restoring (placement : Placement) (slot : Bytes) : Instance where
  kind := .archive
  operation := .restoreService
  placement
  snapshotSlot := slot

/-! ## The machine -/

/-- What a machine answers during one return, and what its exchange meets. -/
structure Answers (Tree : Type) where
  capabilities : Except Bytes Capabilities
  sheet : Except Bytes (Option Bytes)
  lookedFor : Except Bytes Unit
  active : Except Bytes Bool
  stopped : Except Bytes Unit
  ensured : Except Bytes Unit
  /-- How many of the directories were made where not all of them could be prepared. -/
  made : Nat
  exchange : ExchangeVerdicts Tree
  exchangeError : Bytes
  started : Except Bytes Unit
  answers : Except Bytes Unit
  archives : Except Bytes (List Bytes)

/-- A disk, what the machine answers now, and what it will answer once it is next asked for
its capabilities. -/
structure World (Tree : Type) where
  disk : Disk Tree
  now : Answers Tree
  later : List (Answers Tree)

variable {Tree : Type} (tar : Archiver Tree)

/-- A directory that is there, empty if it was not. -/
def makeDirectory (disk : Disk Tree) (path : Bytes) : Disk Tree :=
  if (disk.trees path).isSome then disk else disk.setTree path (some tar.empty)

def ensureDirectories (directories : List Bytes) (disk : Disk Tree) : Disk Tree :=
  directories.foldl (makeDirectory tar) disk

/-- The answers of a machine.  What a return does not ask is answered with an error. -/
def machine : (call : Executor) → World Tree → call.Outcome × World Tree
  | .capabilities _, w =>
      match w.later with
      | [] => (w.now.capabilities, w)
      | c :: later => (c.capabilities, { w with now := c, later })
  | .readUnitFile _, w => (w.now.sheet, w)
  | .serviceArchivePresent path, w =>
      (w.now.lookedFor.map fun _ => (w.disk.files path).isSome, w)
  | .serviceActive _ _, w => (w.now.active, w)
  | .stopService _ _, w => (w.now.stopped, w)
  | .ensureServiceData _ directories _, w =>
      match w.now.ensured with
      | .ok _ => (.ok (), { w with disk := ensureDirectories tar directories w.disk })
      | .error why =>
          (.error why,
            { w with disk := ensureDirectories tar (directories.take w.now.made) w.disk })
  | .exchangeServiceData archivePath dataDirectory reservedPath, w =>
      match exchangeServiceData tar w.now.exchange archivePath dataDirectory reservedPath w.disk with
      | (.returned archive, disk) => (.ok archive, { w with disk })
      | (_, disk) => (.error w.now.exchangeError, { w with disk })
  | .startService _ _, w => (w.now.started, w)
  | .probeAnswers _ _, w => (w.now.answers, w)
  | .serviceArchives _, w => (w.now.archives, w)
  | _, w => (.error (text "not answered"), w)

/-- An approved return, carried out on a machine that answers `forward` to it and `backward`
to its rollback. -/
def restoreRun (placement : Placement) (slot : Bytes) (signed : Approval.SignedApproval)
    (plan rollback : Bytes) (forward backward : Answers Tree) (disk : Disk Tree) :
    Applied × World Tree :=
  (converse (machine tar)
    (apply (.ok (restoring placement slot, restoring placement reservedSnapshotSlot))
      (.apply signed plan rollback none))
    ⟨disk, forward, [forward, backward]⟩).2

/-! ## What becomes of a return -/

namespace Answers

variable (a : Answers Tree)

/-- The machine is one that can hold the service, and the service is placed there. -/
def capable (subject : Instance) : Bool :=
  (a.capabilities.toOption.map fun capabilities =>
    (requireCapableMachineFor subject capabilities).isOk).getD false

def placed : Bool :=
  ((a.sheet.toOption.join.bind publishedLoopbackPort).map fun _ => true).getD false

def running : Bool := a.active.toOption.getD false

/-- The examination passes, and the effects are reached. -/
def examines (archive : Option Bytes) : Bool :=
  a.placed && a.lookedFor.isOk && archive.isSome && a.active.isOk

/-- The data is replaced and its archive is in the reserved slot. -/
def replaces (archive : Option Bytes) : Bool :=
  (!a.running || a.stopped.isOk) && a.ensured.isOk && a.exchange.places tar archive

/-- The service is put back, and the archives are read. -/
def concludes : Bool :=
  (!a.running || (a.started.isOk && a.answers.isOk)) && a.archives.isOk

/-- Nothing fails once the effects are reached. -/
def carries (archive : Option Bytes) : Bool :=
  a.replaces tar archive && a.exchange.finishes && a.concludes

end Answers

/-- What the data of a service is: nothing where there is no directory. -/
def content (dataDirectory : Bytes) (disk : Disk Tree) : Tree :=
  (disk.trees dataDirectory).getD tar.empty

/-- Every archive that a human names is as it was. -/
def OrdinaryKept (placement : Placement) (before after : Disk Tree) : Prop :=
  ∀ slot, slot ≠ reservedSnapshotSlot →
    after.files (placement.archivePath slot) = before.files (placement.archivePath slot)

/-- The reserved slot holds the data as it was, and the other archives are as they were. -/
structure Replacing (placement : Placement) (before after : Disk Tree) : Prop where
  reserved : (after.files (placement.archivePath reservedSnapshotSlot)).bind tar.unpack =
    some (content tar placement.dataDirectory before)
  ordinary : OrdinaryKept placement before after

/-- Every archive is as it was. -/
def ArchivesKept (placement : Placement) (before after : Disk Tree) : Prop :=
  ∀ slot, after.files (placement.archivePath slot) = before.files (placement.archivePath slot)

/-! ### The paths -/

theorem archivePath_inj {placement : Placement} {slot other : Bytes}
    (h : placement.archivePath slot = placement.archivePath other) : slot = other := by
  simpa [Placement.archivePath] using h

/-- An archive being written has a name no archive has. -/
theorem archivePath_ne_staged (placement : Placement) (slot other : Bytes) :
    placement.archivePath slot ≠ stagedPath (placement.archivePath other) := by
  have hlast : ∀ path, (placement.archivePath path).getLast? = some 0x7A := by
    intro path
    have hsuffix : Placement.archiveSuffix.getLast? = some 0x7A := by decide
    rw [Placement.archivePath, List.getLast?_append, hsuffix]
    rfl
  intro h
  have hends : (stagedPath (placement.archivePath other)).getLast? = some 0x70 := by
    have hsuffix : (text ".tmp").getLast? = some 0x70 := by decide
    rw [stagedPath, List.getLast?_append, hsuffix]
    rfl
  rw [← h, hlast] at hends
  cases hends

/-! ### Directories -/

theorem ensureDirectories_files (directories : List Bytes) (disk : Disk Tree) :
    (ensureDirectories tar directories disk).files = disk.files := by
  induction directories generalizing disk with
  | nil => rfl
  | cons path directories ih =>
      refine (ih _).trans ?_
      unfold makeDirectory
      split <;> rfl

/-- Making directories leaves the data what it is. -/
theorem ensureDirectories_content (directories : List Bytes) (path : Bytes) (disk : Disk Tree) :
    content tar path (ensureDirectories tar directories disk) = content tar path disk := by
  induction directories generalizing disk with
  | nil => rfl
  | cons made directories ih =>
      refine (ih _).trans ?_
      unfold makeDirectory content
      split
      · rfl
      · rename_i habsent
        by_cases hpath : path = made
        · subst hpath
          rw [Disk.setTree_same, Option.not_isSome_iff_eq_none.1 habsent]
          rfl
        · rw [Disk.setTree_other hpath]

theorem makeDirectory_isSome {path : Bytes} {disk : Disk Tree} (made : Bytes)
    (h : (disk.trees path).isSome) : ((makeDirectory tar disk made).trees path).isSome := by
  unfold makeDirectory
  split
  · exact h
  · by_cases hpath : path = made
    · rw [hpath, Disk.setTree_same]
      rfl
    · rwa [Disk.setTree_other hpath]

theorem makeDirectory_self (path : Bytes) (disk : Disk Tree) :
    ((makeDirectory tar disk path).trees path).isSome := by
  unfold makeDirectory
  split
  · assumption
  · rw [Disk.setTree_same]
    rfl

theorem ensureDirectories_isSome {directories : List Bytes} {path : Bytes} {disk : Disk Tree}
    (h : (disk.trees path).isSome) :
    ((ensureDirectories tar directories disk).trees path).isSome := by
  induction directories generalizing disk with
  | nil => exact h
  | cons made directories ih => exact ih (makeDirectory_isSome tar made h)

theorem ensureDirectories_mem {directories : List Bytes} {path : Bytes} (h : path ∈ directories)
    (disk : Disk Tree) : ((ensureDirectories tar directories disk).trees path).isSome := by
  induction directories generalizing disk with
  | nil => cases h
  | cons made directories ih =>
      rcases List.mem_cons.1 h with rfl | h
      · show ((ensureDirectories tar directories (makeDirectory tar disk path)).trees path).isSome
        exact ensureDirectories_isSome tar (makeDirectory_self tar path disk)
      · exact ih h _

theorem content_of_some {path : Bytes} {disk : Disk Tree} (h : (disk.trees path).isSome) :
    disk.trees path = some (content tar path disk) := by
  obtain ⟨tree, htree⟩ := Option.isSome_iff_exists.1 h
  simp [content, htree]

/-- The data of a service is one of its directories. -/
theorem dataDirectory_mem {placement : Placement} (h : placement.bearsData = true) :
    placement.dataDirectory ∈ placement.durableDirectories := by
  have hfold : ∀ (mounts kept : List Bytes), placement.dataDirectory ∈ kept →
      placement.dataDirectory ∈ mounts.foldl (fun directories directory =>
        if directory ∈ directories then directories else directories ++ [directory]) kept := by
    intro mounts
    induction mounts with
    | nil => exact fun _ h => h
    | cons mount mounts ih =>
        intro kept hkept
        apply ih
        by_cases hmount : mount ∈ kept
        · simpa [hmount] using hkept
        · simp [hmount, hkept]
  unfold Placement.durableDirectories
  rw [if_pos h]
  exact hfold _ _ (List.mem_singleton.2 rfl)

theorem archivedPlacementFor_bearsData {serviceProfile : Bytes} {placement : Placement}
    (h : archivedPlacementFor serviceProfile = .ok placement) : placement.bearsData = true := by
  unfold archivedPlacementFor at h
  split at h
  · split at h
    · cases h
      have hends : text "/volumes" ≠ [] := by decide
      simp [Placement.bearsData, userServicePlacementOfSlug, hends]
    · cases h
  · split at h
    · cases h
      assumption
    · cases h

/-! ### Part by part -/

@[simp] theorem isOk_ok {ε α : Type} (a : α) : (Except.ok a : Except ε α).isOk = true := rfl

@[simp] theorem isOk_error {ε α : Type} (e : ε) : (Except.error e : Except ε α).isOk = false := rfl

section Parts

variable {tar} {w : World Tree} {placement : Placement} {slot : Bytes}

theorem requirePlacedService_meets :
    Meets (machine tar) (· = w) (requirePlacedService placement)
      (fun _ s => w.now.placed = true ∧ s = w) (fun s => w.now.placed = false ∧ s = w) := by
  unfold requirePlacedService
  apply Meets.bind (m := fun sheet s => w.now.sheet = .ok sheet ∧ s = w)
  · apply Meets.reword
    apply Meets.call
    rintro w rfl
    show Settles _ _ w.now.sheet w
    cases hsheet : w.now.sheet with
    | ok sheet => exact ⟨rfl, rfl⟩
    | error why => exact ⟨by simp [Answers.placed, hsheet, Except.toOption], rfl⟩
  intro sheet
  apply Meets.each
  rintro w ⟨hsheet, rfl⟩
  cases sheet with
  | none =>
      apply Meets.fail
      rintro w rfl
      exact ⟨by simp [Answers.placed, hsheet, Except.toOption], rfl⟩
  | some sheet =>
      dsimp only
      cases hport : publishedLoopbackPort sheet with
      | none =>
          apply Meets.fail
          rintro w rfl
          exact ⟨by simp [Answers.placed, hsheet, Except.toOption, hport], rfl⟩
      | some port =>
          apply Meets.pure
          rintro w rfl
          exact ⟨by simp [Answers.placed, hsheet, Except.toOption, hport], rfl⟩

/-- The examination of a return: it hands on the effects or finds that it cannot. -/
theorem restoreService_meets :
    Meets (machine tar) (· = w) (restoreService (restoring placement slot))
      (fun examined s => w.now.examines (w.disk.files (placement.archivePath slot)) = true ∧
        s = w ∧ ∃ port, w.now.active = .ok w.now.running ∧
          examined = .effects (returnData (restoring placement slot) w.now.running port))
      (fun s => w.now.examines (w.disk.files (placement.archivePath slot)) = false ∧ s = w) := by
  unfold restoreService
  apply Meets.bind_of (m := fun _ s => s = w)
  · apply requirePlacedService_meets.weaken (fun _ h => h) (fun _ _ h => h)
    rintro w ⟨hno, rfl⟩
    exact ⟨by simp [Answers.examines, hno], rfl⟩
  intro port hplaced
  apply Meets.bind (m := fun present s => w.now.lookedFor.isOk = true ∧
    present = (w.disk.files (placement.archivePath slot)).isSome ∧ s = w)
  · apply Meets.reword
    apply Meets.call
    rintro w rfl
    show Settles _ _ (w.now.lookedFor.map _) w
    cases hlooked : w.now.lookedFor with
    | ok u => exact ⟨rfl, rfl, rfl⟩
    | error why => exact ⟨by simp [Answers.examines, hlooked], rfl⟩
  intro present
  apply Meets.each
  rintro w ⟨hlooked, rfl, rfl⟩
  apply Meets.bind (m := fun _ t =>
    (w.disk.files (placement.archivePath slot)).isSome = true ∧ t = w)
  · apply Meets.whenever
    · intro hno
      apply Meets.fail
      rintro w rfl
      exact ⟨by simpa [Answers.examines] using fun _ _ h => by simp [h] at hno, rfl⟩
    · intro hpresent t ht
      exact ⟨by simpa using hpresent, ht⟩
  intro _
  apply Meets.each
  rintro w ⟨hpresent, rfl⟩
  apply Meets.bind (m := fun active s => w.now.active = .ok active ∧ s = w)
  · apply Meets.reword
    apply Meets.call
    rintro w rfl
    show Settles _ _ w.now.active w
    cases hactive : w.now.active with
    | ok active => exact ⟨rfl, rfl⟩
    | error why => exact ⟨by simp [Answers.examines, hactive], rfl⟩
  intro active
  apply Meets.pure
  rintro w ⟨hactive, rfl⟩
  have hrunning : w.now.running = active := by
    simp [Answers.running, hactive, Except.toOption]
  refine ⟨?_, rfl, port, ?_, ?_⟩
  · have hread : w.now.active.isOk = true := by rw [hactive]; rfl
    simp [Answers.examines, hplaced, hlooked, hpresent, hread]
  · rw [hrunning, hactive]
  · rw [hrunning]

/-- A service is put back as it was found, or that fails. -/
theorem restartAndProve_meets {port : Int64} :
    Meets (machine tar) (· = w) (restartAndProve placement w.now.running port)
      (fun _ s => (!w.now.running || (w.now.started.isOk && w.now.answers.isOk)) = true ∧ s = w)
      (fun s => w.now.concludes = false ∧ s = w) := by
  apply Meets.whenever
  · intro hrunning
    apply Meets.bind (m := fun _ s => w.now.started.isOk = true ∧ s = w)
    · apply Meets.reword
      apply Meets.call
      rintro w rfl
      show Settles _ _ w.now.started w
      cases hstarted : w.now.started with
      | ok u => exact ⟨rfl, rfl⟩
      | error why =>
          exact ⟨by simp [Answers.concludes, hrunning, hstarted], rfl⟩
    intro _
    apply Meets.reword
    apply Meets.call
    rintro w ⟨hstarted, rfl⟩
    show Settles _ _ w.now.answers w
    cases hanswers : w.now.answers with
    | ok u => exact ⟨by simp [hstarted], rfl⟩
    | error why =>
        exact ⟨by simp [Answers.concludes, hrunning, hanswers], rfl⟩
  · rintro hstill w rfl
    exact ⟨by simp [hstill], rfl⟩

/-- What a return does to the disk where nothing fails after its effects are reached. -/
structure Returned (tar : Archiver Tree) (placement : Placement) (slot : Bytes)
    (before after : Disk Tree) : Prop extends Replacing tar placement before after where
  data : (before.files (placement.archivePath slot)).bind tar.unpack =
    some (content tar placement.dataDirectory after)

/-- What the disk is once the effects of a return were reached and one of them failed. -/
structure Failed (tar : Archiver Tree) (placement : Placement) (slot : Bytes)
    (before after : World Tree) : Prop where
  now : after.now = before.now
  later : after.later = before.later
  fails : before.now.carries tar (before.disk.files (placement.archivePath slot)) = false
  disk : (before.now.replaces tar (before.disk.files (placement.archivePath slot)) = false ∧
      ArchivesKept placement before.disk after.disk) ∨
    (before.now.replaces tar (before.disk.files (placement.archivePath slot)) = true ∧
      Replacing tar placement before.disk after.disk)

/-- Making the directories leaves every archive and the data. -/
theorem ensureServiceData_meets (hbears : placement.bearsData = true)
    (hready : (!w.now.running || w.now.stopped.isOk) = true) :
    Meets (machine tar) (· = w) (ensureServiceData placement)
      (fun _ s => w.now.ensured.isOk = true ∧ s = { w with disk := s.disk } ∧
        s.disk.files = w.disk.files ∧
        s.disk.trees placement.dataDirectory =
          some (content tar placement.dataDirectory w.disk))
      (Failed tar placement slot w) := by
  apply Meets.reword
  apply Meets.call
  rintro w rfl
  show Settles _ _ (machine tar (.ensureServiceData ..) w).1 (machine tar (.ensureServiceData ..) w).2
  unfold machine
  dsimp only
  cases hensured : w.now.ensured with
  | ok u =>
      refine ⟨rfl, rfl, ensureDirectories_files tar _ _, ?_⟩
      have hthere := ensureDirectories_mem tar (dataDirectory_mem hbears) w.disk
      rw [content_of_some tar hthere, ensureDirectories_content]
  | error why =>
      have hno : w.now.replaces tar (w.disk.files (placement.archivePath slot)) = false := by
        simp [Answers.replaces, hensured]
      refine ⟨rfl, rfl, by simp [Answers.carries, hno], .inl ⟨hno, fun _ => ?_⟩⟩
      exact congrFun (ensureDirectories_files tar _ _) _

/-- What an exchange that got as far as the reserved slot leaves of the archives. -/
theorem Replaced.replacing {v : ExchangeVerdicts Tree} {returned replaced : Tree}
    {before middle after : Disk Tree} (hfiles : middle.files = before.files)
    (hcontent : replaced = content tar placement.dataDirectory before)
    (h : Replaced tar v placement.dataDirectory (placement.archivePath reservedSnapshotSlot)
      returned replaced middle after) : Replacing tar placement before after where
  reserved := by
    rw [h.reserved, ← hcontent]
    exact tar.unpack_pack _ _
  ordinary other hother := by
    rw [h.others _ (fun hpath => hother (archivePath_inj hpath)) (archivePath_ne_staged _ _ _), hfiles]

/-- The exchange of a return whose directories were made. -/
theorem exchangeServiceData_meets
    (hready : (!w.now.running || w.now.stopped.isOk) = true) (hensured : w.now.ensured.isOk = true)
    {why : Bytes → Bytes} :
    Meets (machine tar)
      (fun s => s = { w with disk := s.disk } ∧ s.disk.files = w.disk.files ∧
        s.disk.trees placement.dataDirectory =
          some (content tar placement.dataDirectory w.disk))
      ((ask (.exchangeServiceData (placement.archivePath slot) placement.dataDirectory
        (placement.archivePath reservedSnapshotSlot))).reword why)
      (fun _ s => (w.now.replaces tar (w.disk.files (placement.archivePath slot)) = true ∧
          w.now.exchange.finishes = true) ∧
        s.now = w.now ∧ s.later = w.later ∧ Returned tar placement slot w.disk s.disk)
      (Failed tar placement slot w) := by
  apply Meets.reword
  apply Meets.call
  rintro s ⟨hsame, hfiles, htree⟩
  have hnow : s.now = w.now := by rw [hsame]
  have hlater : s.later = w.later := by rw [hsame]
  have hexchange : Ends _ (Interrupted tar s.now.exchange (placement.archivePath slot)
      placement.dataDirectory (placement.archivePath reservedSnapshotSlot) _ s.disk) (fun _ => False)
      (exchangeServiceData tar s.now.exchange (placement.archivePath slot) placement.dataDirectory
        (placement.archivePath reservedSnapshotSlot) s.disk) :=
    exchange_ensures htree (archivePath_ne_staged _ _ _) s.disk rfl
  have hreplaces : w.now.replaces tar (w.disk.files (placement.archivePath slot)) =
      s.now.exchange.places tar (s.disk.files (placement.archivePath slot)) := by
    rw [Answers.replaces, hready, hensured, hfiles, hnow]
    rfl
  show Settles _ _ (machine tar (.exchangeServiceData ..) s).1
    (machine tar (.exchangeServiceData ..) s).2
  unfold machine
  dsimp only
  cases hrun : exchangeServiceData tar s.now.exchange (placement.archivePath slot)
      placement.dataDirectory (placement.archivePath reservedSnapshotSlot) s.disk with
  | mk ending disk =>
      rw [hrun] at hexchange
      cases ending with
      | returned archive =>
          obtain ⟨hplaces, hfinishes, returned, hreturned, hreplaced⟩ := hexchange
          refine ⟨⟨hreplaces.trans hplaces, hnow ▸ hfinishes⟩, hnow, hlater, ?_⟩
          constructor
          · exact hreplaced.replacing hfiles rfl
          · rw [← hfiles, hreturned, content, hreplaced.data]
            rfl
      | failed =>
          have hfails : w.now.carries tar (w.disk.files (placement.archivePath slot)) = false := by
            rcases hexchange with ⟨hplaces, -⟩ | ⟨-, hfinishes, -⟩
            · rw [Answers.carries, hreplaces, hplaces]
              rfl
            · rw [Answers.carries, ← hnow, hfinishes]
              simp
          refine ⟨hnow, hlater, hfails, ?_⟩
          rcases hexchange with ⟨hplaces, hkept⟩ | ⟨hplaces, -, returned, hreplaced⟩
          · refine .inl ⟨hreplaces.trans hplaces, fun other => ?_⟩
            rw [← hfiles]
            exact hkept _ (archivePath_ne_staged _ _ _)
          · exact .inr ⟨hreplaces.trans hplaces, hreplaced.replacing hfiles rfl⟩
      | died => exact hexchange.elim

/-- What a return does to the disk, wherever it fails. -/
theorem returnData_meets (hbears : placement.bearsData = true) {port : Int64} :
    Meets (machine tar) (· = w) (returnData (restoring placement slot) w.now.running port)
      (fun _ s => w.now.carries tar (w.disk.files (placement.archivePath slot)) = true ∧
        Returned tar placement slot w.disk s.disk)
      (Failed tar placement slot w) := by
  unfold returnData
  apply Meets.bind (m := fun _ s =>
    (!w.now.running || w.now.stopped.isOk) = true ∧ s = w)
  · apply Meets.whenever
    · intro hrunning
      apply Meets.reword
      apply Meets.call
      rintro w rfl
      show Settles _ _ w.now.stopped w
      cases hstopped : w.now.stopped with
      | ok u => exact ⟨by simp, rfl⟩
      | error why =>
          have hno : w.now.replaces tar (w.disk.files (placement.archivePath slot)) = false := by
            simp [Answers.replaces, hrunning, hstopped]
          exact ⟨rfl, rfl, by simp [Answers.carries, hno], .inl ⟨hno, fun _ => rfl⟩⟩
    · rintro hstill w rfl
      exact ⟨by simp [hstill], rfl⟩
  intro _
  apply Meets.each
  rintro w ⟨hready, rfl⟩
  apply Meets.bind_of
  · exact ensureServiceData_meets hbears hready
  intro _ hensured
  apply Meets.bind_of
  · exact exchangeServiceData_meets hready hensured
  rintro kept ⟨hreplaces, hfinishes⟩
  apply Meets.each
  rintro s ⟨hnow, hlater, hreturned⟩
  have hfailed : w.now.concludes = false → Failed tar placement slot w s := by
    intro hno
    exact ⟨hnow, hlater, by simp [Answers.carries, hno], .inr ⟨hreplaces, hreturned.1⟩⟩
  apply Meets.bind_of (m := fun _ t => t = s)
  · rw [← hnow]
    apply restartAndProve_meets.weaken (fun _ h => h) (fun _ _ h => h)
    rintro _ ⟨hno, rfl⟩
    exact hfailed (hnow ▸ hno)
  intro _ hrestarted
  apply Meets.bind (m := fun _ t => w.now.archives.isOk = true ∧ t = s)
  · apply Meets.reword
    apply Meets.call
    rintro s rfl
    show Settles _ _ s.now.archives s
    rw [hnow]
    cases harchives : w.now.archives with
    | ok slots => exact ⟨rfl, rfl⟩
    | error why => exact hfailed (by simp [Answers.concludes, harchives])
  intro slots
  apply Meets.pure
  rintro s ⟨harchives, rfl⟩
  rw [hnow] at hrestarted
  have hconcludes : w.now.concludes = true := by
    rw [Answers.concludes, hrestarted, harchives]
    rfl
  refine ⟨?_, hreturned⟩
  rw [Answers.carries, hfinishes, hconcludes, Bool.and_true, Bool.and_true]
  exact hreplaces

/-- How a return ends that was examined and then carried out. -/
def Ended (tar : Archiver Tree) (placement : Placement) (slot : Bytes) (w : World Tree) :
    Except Bytes Application × Bool → World Tree → Prop
  | (.ok _, _), s =>
      w.now.examines (w.disk.files (placement.archivePath slot)) = true ∧
        w.now.carries tar (w.disk.files (placement.archivePath slot)) = true ∧
        Returned tar placement slot w.disk s.disk
  | (.error _, false), _ => w.now.examines (w.disk.files (placement.archivePath slot)) = false
  | (.error _, true), s =>
      w.now.examines (w.disk.files (placement.archivePath slot)) = true ∧
        Failed tar placement slot w s

theorem carriedOut_leads (hbears : placement.bearsData = true) :
    Leads (machine tar) (· = w) (carriedOut (restoreService (restoring placement slot)))
      (Ended tar placement slot w) := by
  refine Leads.next restoreService_meets ?_
  intro examined
  cases examined with
  | error why => exact Leads.done fun _ h => h.1
  | ok examined =>
      apply Leads.each
      rintro w ⟨hexamines, rfl, port, -, rfl⟩
      refine Leads.next (returnData_meets hbears) ?_
      intro ending
      cases ending with
      | ok application => exact Leads.done fun _ h => ⟨hexamines, h.1, h.2⟩
      | error why => exact Leads.done fun _ h => ⟨hexamines, h⟩

end Parts

/-- Nothing fails in a return: it does what it says. -/
def Answers.completes (a : Answers Tree) (subject : Instance) (archive : Option Bytes) : Bool :=
  a.capable subject && a.examines archive && a.carries tar archive

section Runs

variable {tar} {w : World Tree} {placement : Placement} {slot : Bytes} {now : Answers Tree}

/-- The one attempt at a rollback: a return that does what it says, or fails. -/
theorem attemptRollback_meets (hbears : placement.bearsData = true) (hlater : w.later = [now]) :
    Meets (machine tar) (· = w) (attemptRollback (restoring placement slot))
      (fun _ s => now.completes tar (restoring placement slot)
          (w.disk.files (placement.archivePath slot)) = true ∧
        Returned tar placement slot w.disk s.disk)
      (fun _ => now.completes tar (restoring placement slot)
        (w.disk.files (placement.archivePath slot)) = false) := by
  unfold attemptRollback
  apply Meets.bind (m := fun capabilities s => now.capabilities = .ok capabilities ∧
    s = { w with now, later := [] })
  · apply Meets.reword
    apply Meets.call
    rintro w rfl
    show Settles _ _ (machine tar (.capabilities _) w).1 (machine tar (.capabilities _) w).2
    unfold machine
    dsimp only
    rw [hlater]
    dsimp only
    cases hcapabilities : now.capabilities with
    | ok capabilities => exact ⟨rfl, rfl⟩
    | error why => simp [Settles, Answers.completes, Answers.capable, hcapabilities, Except.toOption]
  intro capabilities
  apply Meets.each
  rintro s ⟨hcapabilities, rfl⟩
  apply Meets.bind (m := fun _ t => now.capable (restoring placement slot) = true ∧
    t = { w with now, later := [] })
  · cases hcapable : requireCapableMachineFor (restoring placement slot) capabilities with
    | ok u =>
        apply Meets.pure
        rintro _ rfl
        exact ⟨by simp [Answers.capable, hcapabilities, Except.toOption, hcapable], rfl⟩
    | error why =>
        apply Meets.fail
        rintro _ rfl
        simp [Answers.completes, Answers.capable, hcapabilities, Except.toOption, hcapable]
  intro _
  apply Meets.each
  rintro s ⟨hcapable, rfl⟩
  have hflow : flow capabilities (restoring placement slot) =
      some (restoreService (restoring placement slot)) := rfl
  rw [hflow]
  apply Meets.bind (m := fun _ s => now.completes tar (restoring placement slot)
    (w.disk.files (placement.archivePath slot)) = true ∧ Returned tar placement slot w.disk s.disk)
  · refine Leads.next (carriedOut_leads hbears) ?_
    rintro ⟨ending, mark⟩
    cases ending with
    | ok application =>
        apply Leads.done
        rintro s ⟨hexamines, hcarries, hreturned⟩
        exact ⟨by simp [Answers.completes, hcapable, hexamines, hcarries], hreturned⟩
    | error why =>
        apply Leads.done
        intro s hended
        cases mark with
        | false => simp [Answers.completes, Settles, show _ = false from hended]
        | true => simp [Answers.completes, Settles, hended.2.fails]
  · intro application
    exact Meets.pure fun _ h => h

/-- The run of an approved return that was rolled back. -/
def Applied.rolledBack : Applied → Bool
  | .controlled failure _ _ => failure.rollback.outcome == outcomeRolledBack
  | _ => false

end Runs

/-- What stands behind a run that was rolled back, and when it is that one is not. -/
structure Explained (tar : Archiver Tree) (placement : Placement) (slot : Bytes)
    (forward backward : Answers Tree) (disk : Disk Tree) (applied : Applied) (after : Disk Tree) :
    Prop where
  undone : applied.rolledBack = true →
    forward.capable (restoring placement slot) = true ∧
      forward.examines (disk.files (placement.archivePath slot)) = true ∧
      ∃ middle,
        (forward.replaces tar (disk.files (placement.archivePath slot)) = false ∧
            ArchivesKept placement disk middle ∨
          forward.replaces tar (disk.files (placement.archivePath slot)) = true ∧
            Replacing tar placement disk middle) ∧
        backward.completes tar (restoring placement reservedSnapshotSlot)
          (middle.files (placement.archivePath reservedSnapshotSlot)) = true ∧
        Returned tar placement reservedSnapshotSlot middle after
  missed : applied.rolledBack = false → forward.capable (restoring placement slot) = true →
    forward.examines (disk.files (placement.archivePath slot)) = true →
    forward.replaces tar (disk.files (placement.archivePath slot)) = false →
    backward.completes tar (restoring placement reservedSnapshotSlot)
      (disk.files (placement.archivePath reservedSnapshotSlot)) = false

section Runs

variable {tar} {placement : Placement} {slot : Bytes} {forward backward : Answers Tree}
variable {disk : Disk Tree}

/-- A plain error, where the machine was not examined or the examination did not pass. -/
theorem explained_refused {why : Bytes} {after : Disk Tree}
    (h : forward.capable (restoring placement slot) = true →
      forward.examines (disk.files (placement.archivePath slot)) = true → False) :
    Explained tar placement slot forward backward disk (.refused why) after where
  undone hback := by cases hback
  missed _ hcapable hexamines := (h hcapable hexamines).elim

/-- What follows from the end of a return on the machine. -/
theorem concludeApplication_leads (hbears : placement.bearsData = true)
    (hcapable : forward.capable (restoring placement slot) = true) {w : World Tree}
    (hnow : w.now = forward) (hlater : w.later = [backward]) (hdisk : w.disk = disk)
    (ending : Except Bytes Application × Bool) :
    Leads (machine tar) (Ended tar placement slot w ending)
      (concludeApplication (restoring placement slot) (restoring placement reservedSnapshotSlot)
        ending)
      (fun applied s => Explained tar placement slot forward backward disk applied s.disk) := by
  subst hnow hdisk
  obtain ⟨result, mark⟩ := ending
  cases result with
  | ok application =>
      apply Leads.done
      rintro s ⟨hexamines, hcarries, hreturned⟩
      constructor
      · intro hback
        cases hback
      · intro _ _ _ hno
        simp [Answers.carries, hno] at hcarries
  | error cause =>
      cases mark with
      | false =>
          apply Leads.done
          intro s hno
          apply explained_refused
          intro _ hexamines
          rw [show w.now.examines _ = false from hno] at hexamines
          cases hexamines
      | true =>
          apply Leads.each
          rintro t ⟨hexamines, hfailed⟩
          refine Leads.next (attemptRollback_meets hbears (hfailed.later.trans hlater)) ?_
          intro undoing
          cases undoing with
          | ok u =>
              apply Leads.done
              rintro s ⟨hcompletes, hreturned⟩
              constructor
              · intro _
                exact ⟨hcapable, hexamines, t.disk, hfailed.disk, hcompletes, hreturned⟩
              · intro hback
                cases hback
          | error why =>
              refine Leads.next (m := fun _ _ =>
                backward.completes tar (restoring placement reservedSnapshotSlot)
                  (t.disk.files (placement.archivePath reservedSnapshotSlot)) = false)
                (fun s hs => hs) ?_
              intro observed
              apply Leads.done
              intro s hno
              constructor
              · intro hback
                cases hback
              · intro _ _ _ hreplaces
                rcases hfailed.disk with ⟨-, hkept⟩ | ⟨hdone, -⟩
                · rw [← hkept]
                  exact hno
                · rw [hreplaces] at hdone
                  cases hdone

theorem apply_leads (hbears : placement.bearsData = true) (signed : Approval.SignedApproval)
    (plan rollback : Bytes) :
    Leads (machine tar) (· = ⟨disk, forward, [forward, backward]⟩)
      (apply (.ok (restoring placement slot, restoring placement reservedSnapshotSlot))
        (.apply signed plan rollback none))
      (fun applied s => Explained tar placement slot forward backward disk applied s.disk) := by
  have hdoor : requireDefinitionCarriedByItsOwnDoor (restoring placement slot) none = .ok () := by
    simp [requireDefinitionCarriedByItsOwnDoor]
  unfold apply
  dsimp only
  rw [hdoor]
  refine Leads.ask (m := fun answer s => answer = forward.capabilities ∧
    s = ⟨disk, forward, [backward]⟩) ?_ ?_
  · rintro s rfl
    exact ⟨rfl, rfl⟩
  intro answer
  apply Leads.each
  rintro w ⟨rfl, rfl⟩
  unfold applyTo
  cases hcapabilities : forward.capabilities with
  | error cause =>
      apply Leads.done
      intro s _
      apply explained_refused
      intro hcapable
      simp [Answers.capable, hcapabilities, Except.toOption] at hcapable
  | ok capabilities =>
      dsimp only
      cases hcapable : requireCapableMachineFor (restoring placement slot) capabilities with
      | error why =>
          apply Leads.done
          intro s _
          apply explained_refused
          intro hno
          simp [Answers.capable, hcapabilities, Except.toOption, hcapable] at hno
      | ok u =>
          have hflow : flow capabilities (restoring placement slot) =
              some (restoreService (restoring placement slot)) := rfl
          rw [hflow]
          refine Leads.next (carriedOut_leads hbears) ?_
          intro ending
          refine concludeApplication_leads hbears ?_ rfl rfl rfl ending
          simp [Answers.capable, hcapabilities, Except.toOption, hcapable]

/-- The data of the service is what it was, and so is every archive a human names. -/
structure Undone (tar : Archiver Tree) (placement : Placement) (before after : Disk Tree) : Prop
    where
  data : content tar placement.dataDirectory after = content tar placement.dataDirectory before
  ordinary : OrdinaryKept placement before after

/-- A return that was rolled back left the data and the archives as they were exactly where it had
not failed, past its examination and short of the reserved slot, before a rollback that returned
to an archive of something else that the slot already held. -/
theorem restored_iff {serviceProfile : Bytes} {placement : Placement}
    (h : archivedPlacementFor serviceProfile = .ok placement) (slot : Bytes)
    (signed : Approval.SignedApproval) (plan rollback : Bytes) (forward backward : Answers Tree)
    (disk : Disk Tree) :
    ((restoreRun tar placement slot signed plan rollback forward backward disk).1.rolledBack = true →
        Undone tar placement disk
          (restoreRun tar placement slot signed plan rollback forward backward disk).2.disk) ↔
      (forward.capable (restoring placement slot) = true →
        forward.examines (disk.files (placement.archivePath slot)) = true →
        forward.replaces tar (disk.files (placement.archivePath slot)) = false →
        backward.completes tar (restoring placement reservedSnapshotSlot)
          (disk.files (placement.archivePath reservedSnapshotSlot)) = true →
        (disk.files (placement.archivePath reservedSnapshotSlot)).bind tar.unpack =
          some (content tar placement.dataDirectory disk)) := by
  have hbears := archivedPlacementFor_bearsData h
  have hexplained : Explained tar placement slot forward backward disk
      (restoreRun tar placement slot signed plan rollback forward backward disk).1
      (restoreRun tar placement slot signed plan rollback forward backward disk).2.disk :=
    apply_leads hbears signed plan rollback _ rfl
  generalize restoreRun tar placement slot signed plan rollback forward backward disk = run
    at hexplained ⊢
  constructor
  · intro hundone hcapable hexamines hreplaces hcompletes
    have hback : run.1.rolledBack = true := by
      by_contra hnot
      have hmissed := hexplained.missed (Bool.eq_false_of_not_eq_true hnot) hcapable hexamines
        hreplaces
      rw [hcompletes] at hmissed
      cases hmissed
    obtain ⟨-, -, middle, hmiddle, -, hreturned⟩ := hexplained.undone hback
    rcases hmiddle with ⟨-, hkept⟩ | ⟨hdone, -⟩
    · rw [← (hundone hback).data, ← hkept]
      exact hreturned.data
    · rw [hreplaces] at hdone
      cases hdone
  · intro hcondition hback
    obtain ⟨hcapable, hexamines, middle, hmiddle, hcompletes, hreturned⟩ := hexplained.undone hback
    rcases hmiddle with ⟨hreplaces, hkept⟩ | ⟨-, hreplacing⟩
    · rw [hkept] at hcompletes
      have hheld := hcondition hcapable hexamines hreplaces hcompletes
      constructor
      · have hdata := hreturned.data
        rw [hkept, hheld] at hdata
        exact (Option.some.inj hdata).symm
      · intro other hother
        rw [hreturned.ordinary other hother, hkept]
    · constructor
      · have hdata := hreturned.data
        rw [hreplacing.reserved] at hdata
        exact (Option.some.inj hdata).symm
      · intro other hother
        rw [hreturned.ordinary other hother, hreplacing.ordinary other hother]

end Runs

/-! ### A left-over archive in the reserved slot -/

/-- An archiver of data that is already bytes. -/
def plainArchiver : Archiver Bytes where
  empty := []
  pack _ tree := tree
  unpack := some
  digest archive := archive
  unpack_pack _ _ := rfl

/-- A machine on which nothing fails. -/
def soundAnswers : Answers Bytes where
  capabilities := .ok ⟨true, true, true, true, true⟩
  sheet := .ok (some (text "PublishPort=127.0.0.1:8222:80"))
  lookedFor := .ok ()
  active := .ok true
  stopped := .ok ()
  ensured := .ok ()
  made := 0
  exchange := {
    clearRestoring := .removed
    clearReplaced := .removed
    makeRestoring := true
    extract := true
    holdRestoring := true
    makeArchives := true
    clearStaged := true
    create := true
    holdStaged := true
    hash := true
    setAside := true
    putInPlace := true
    placeArchive := true
    removeReplaced := .removed
    syncArchives := true
    syncData := true
    takenAt := 0
    leftRestoring := none
    leftStaged := none }
  exchangeError := []
  started := .ok ()
  answers := .ok ()
  archives := .ok []

/-- A machine on which the service cannot be stopped. -/
def unstoppable : Answers Bytes :=
  { soundAnswers with stopped := .error (text "the service did not stop") }

/-- Data, an archive of a slot a human names, and an archive an earlier return left. -/
def diskWithLeftOver : Disk Bytes where
  trees path := if path = vaultwardenDataDirectory then some (text "today") else none
  files path :=
    if path = vaultwardenPlacement.archivePath (text "kept") then some (text "kept") else
    if path = vaultwardenPlacement.archivePath reservedSnapshotSlot then some (text "last month")
    else none

def leftOverRun : Applied × World Bytes :=
  restoreRun plainArchiver vaultwardenPlacement (text "kept") Approval.sampleFirst (text "plan")
    (text "rollback") unstoppable soundAnswers diskWithLeftOver

theorem leftOverRun_content :
    content plainArchiver vaultwardenDataDirectory leftOverRun.2.disk = text "last month" := by
  decide

/-- The return stops short of the reserved slot, and its rollback, which succeeds, puts there in
place of the data what an earlier return had left in that slot. -/
theorem leftOver_returned :
    leftOverRun.1.rolledBack = true ∧
      ¬ Undone plainArchiver vaultwardenPlacement diskWithLeftOver leftOverRun.2.disk := by
  refine ⟨by decide, fun hundone => ?_⟩
  have hdata : content plainArchiver vaultwardenDataDirectory leftOverRun.2.disk =
      content plainArchiver vaultwardenDataDirectory diskWithLeftOver := hundone.data
  rw [leftOverRun_content] at hdata
  exact absurd hdata (by decide)

/-- The condition at a machine whose reserved slot holds the archive of another day. -/
theorem leftOver_restored_iff :
    archivedPlacementFor (text "vaultwarden") = .ok vaultwardenPlacement ∧
      ((leftOverRun.1.rolledBack = true →
          Undone plainArchiver vaultwardenPlacement diskWithLeftOver leftOverRun.2.disk) ↔
        (unstoppable.capable (restoring vaultwardenPlacement (text "kept")) = true →
          unstoppable.examines
            (diskWithLeftOver.files (vaultwardenPlacement.archivePath (text "kept"))) = true →
          unstoppable.replaces plainArchiver
            (diskWithLeftOver.files (vaultwardenPlacement.archivePath (text "kept"))) = false →
          soundAnswers.completes plainArchiver (restoring vaultwardenPlacement reservedSnapshotSlot)
            (diskWithLeftOver.files (vaultwardenPlacement.archivePath reservedSnapshotSlot)) =
              true →
          (diskWithLeftOver.files (vaultwardenPlacement.archivePath reservedSnapshotSlot)).bind
            plainArchiver.unpack =
              some (content plainArchiver vaultwardenPlacement.dataDirectory diskWithLeftOver))) :=
  have hplacement : archivedPlacementFor (text "vaultwarden") = .ok vaultwardenPlacement := by decide
  ⟨hplacement, restored_iff hplacement _ _ _ _ _ _ _⟩

end YourCloud.Auxiliary
