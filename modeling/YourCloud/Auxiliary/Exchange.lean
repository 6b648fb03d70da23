import Mathlib.Logic.Function.Basic
import YourCloud.Auxiliary.Archives
import YourCloud.Foundation.Program

/-!
# Exchanging the data of a service with an archive

A return unpacks the archive it names beside the data, archives the data into a
file beside the reserved slot, and only then puts the two in place by rename: the
data first and the reserved archive second.  Every step can fail, and each failure
leaves behind what the steps before it had done.

The program that packs a tree into an archive is not of this repository: what is
assumed of it is that an archive is unpacked to the tree it was packed from.

## Main results

* `exchange_ensures` — an exchange that does not get as far as the reserved slot
  leaves every archive as it was; one that does leaves there the data it replaced.
-/

namespace YourCloud.Auxiliary

open YourCloud.Foundation

/-- The archiver, over the trees it packs, and the digest that names an archive. -/
structure Archiver (Tree : Type) where
  /-- A directory just made. -/
  empty : Tree
  pack : Instant → Tree → Bytes
  unpack : Bytes → Option Tree
  digest : Bytes → Bytes
  unpack_pack : ∀ instant tree, unpack (pack instant tree) = some tree

/-- The directories and the files a machine holds, by their paths. -/
@[ext] structure Disk (Tree : Type) where
  trees : Bytes → Option Tree
  files : Bytes → Option Bytes

variable {Tree : Type}

namespace Disk

def setTree (path : Bytes) (tree : Option Tree) (disk : Disk Tree) : Disk Tree :=
  { disk with trees := Function.update disk.trees path tree }

def setFile (path : Bytes) (file : Option Bytes) (disk : Disk Tree) : Disk Tree :=
  { disk with files := Function.update disk.files path file }

@[simp] theorem setTree_same (path : Bytes) (tree : Option Tree) (disk : Disk Tree) :
    (disk.setTree path tree).trees path = tree := Function.update_self ..

@[simp] theorem setFile_same (path : Bytes) (file : Option Bytes) (disk : Disk Tree) :
    (disk.setFile path file).files path = file := Function.update_self ..

theorem setTree_other {path other : Bytes} (h : other ≠ path) (tree : Option Tree)
    (disk : Disk Tree) : (disk.setTree path tree).trees other = disk.trees other :=
  Function.update_of_ne h ..

theorem setFile_other {path other : Bytes} (h : other ≠ path) (file : Option Bytes)
    (disk : Disk Tree) : (disk.setFile path file).files other = disk.files other :=
  Function.update_of_ne h ..

/-- A rename of a directory. -/
def moveTree (source target : Bytes) (disk : Disk Tree) : Disk Tree :=
  (disk.setTree source none).setTree target (disk.trees source)

/-- A rename of a file. -/
def moveFile (source target : Bytes) (disk : Disk Tree) : Disk Tree :=
  (disk.setFile source none).setFile target (disk.files source)

end Disk

/-- How the removal of a whole directory ends: where it fails, it leaves a part. -/
inductive Removal (Tree : Type) where
  | removed
  | left (part : Option Tree)

def Removal.succeeds : Removal Tree → Bool
  | removed => true
  | left _ => false

/-- What each step of an exchange meets, and what the clean-ups after a failure leave. -/
structure ExchangeVerdicts (Tree : Type) where
  clearRestoring : Removal Tree
  clearReplaced : Removal Tree
  makeRestoring : Bool
  extract : Bool
  holdRestoring : Bool
  makeArchives : Bool
  clearStaged : Bool
  create : Bool
  holdStaged : Bool
  hash : Bool
  setAside : Bool
  putInPlace : Bool
  placeArchive : Bool
  removeReplaced : Removal Tree
  syncArchives : Bool
  syncData : Bool
  takenAt : Instant
  leftRestoring : Option Tree
  leftStaged : Option Bytes

/-! ## The exchange -/

/-- A step that takes effect or fails without one. -/
def step (ok : Bool) (f : Disk Tree → Disk Tree) : Program (Disk Tree) Unit :=
  Program.effect (if ok then .done else .fails) f

/-- `os.RemoveAll` -/
def removeAll (path : Bytes) : Removal Tree → Program (Disk Tree) Unit
  | .removed => Program.effect .done (Disk.setTree path none)
  | .left part => Program.torn .fails (Disk.setTree path part) id

/-- A clean-up whose own errors are passed over. -/
def discard (f : Disk Tree → Disk Tree) : Program (Disk Tree) Unit := Program.effect .done f

def restoringPath (dataDirectory : Bytes) : Bytes := dataDirectory ++ text ".restoring"

def replacedPath (dataDirectory : Bytes) : Bytes := dataDirectory ++ text ".replaced"

def stagedPath (archivePath : Bytes) : Bytes := archivePath ++ text ".tmp"

variable (tar : Archiver Tree) (v : ExchangeVerdicts Tree)

/-- The named archive unpacked into a fresh directory. -/
def extractArchive (archivePath restoring : Bytes) : Program (Disk Tree) Unit := do
  let tree ← Program.ask fun disk =>
    if v.extract then (disk.files archivePath).bind tar.unpack else none
  Program.effect .done (Disk.setTree restoring (some tree))

/-- The data archived into a file beside the slot it is meant for. -/
def createArchive (dataDirectory staged : Bytes) : Program (Disk Tree) Archive := do
  let tree ← Program.ask fun disk => if v.create then disk.trees dataDirectory else none
  Program.effect .done (Disk.setFile staged (some (tar.pack v.takenAt tree)))
  step v.holdStaged id
  step v.hash id
  return ⟨tar.digest (tar.pack v.takenAt tree), some v.takenAt⟩

def stageArchive (dataDirectory archivePath : Bytes) : Program (Disk Tree) Archive := do
  let staged := stagedPath archivePath
  step v.makeArchives id
  step v.clearStaged (Disk.setFile staged none)
  (createArchive tar v dataDirectory staged).otherwise (discard (Disk.setFile staged v.leftStaged))

def exchangeServiceData (archivePath dataDirectory reservedPath : Bytes) :
    Program (Disk Tree) Archive := do
  let restoring := restoringPath dataDirectory
  let replaced := replacedPath dataDirectory
  let staged := stagedPath reservedPath
  let dropRestoring := discard (Disk.setTree restoring v.leftRestoring)
  let dropStaged := discard (Disk.setFile staged v.leftStaged)
  removeAll restoring v.clearRestoring
  removeAll replaced v.clearReplaced
  step v.makeRestoring (Disk.setTree restoring (some tar.empty))
  (extractArchive tar v archivePath restoring).otherwise dropRestoring
  (step v.holdRestoring id).otherwise dropRestoring
  let archive ← (stageArchive tar v dataDirectory reservedPath).otherwise dropRestoring
  (step v.setAside (Disk.moveTree dataDirectory replaced)).otherwise
    (dropRestoring >>= fun _ => dropStaged)
  (step v.putInPlace (Disk.moveTree restoring dataDirectory)).otherwise dropStaged
  (step v.placeArchive (Disk.moveFile staged reservedPath)).otherwise dropStaged
  removeAll replaced v.removeReplaced
  step v.syncArchives id
  step v.syncData id
  return archive

/-! ## What an exchange leaves -/

/-- The named archive is unpacked beside the data. -/
def ExchangeVerdicts.unpacks (archive : Option Bytes) : Bool :=
  v.clearRestoring.succeeds && v.clearReplaced.succeeds && v.makeRestoring && v.extract &&
    (archive.bind tar.unpack).isSome && v.holdRestoring

/-- The data is archived beside the reserved slot. -/
def ExchangeVerdicts.stages : Bool :=
  v.makeArchives && v.clearStaged && v.create && v.holdStaged && v.hash

/-- The exchange gets as far as putting the archive of the replaced data in the reserved slot. -/
def ExchangeVerdicts.places (archive : Option Bytes) : Bool :=
  v.unpacks tar archive && v.stages && v.setAside && v.putInPlace && v.placeArchive

/-- What comes after that succeeds as well. -/
def ExchangeVerdicts.finishes : Bool :=
  v.removeReplaced.succeeds && v.syncArchives && v.syncData

/-- The paths an exchange of one data directory works with. -/
structure ExchangePaths (dataDirectory reservedPath : Bytes) where
  reserved_ne_staged : reservedPath ≠ stagedPath reservedPath
  data_ne_restoring : dataDirectory ≠ restoringPath dataDirectory
  data_ne_replaced : dataDirectory ≠ replacedPath dataDirectory
  restoring_ne_replaced : restoringPath dataDirectory ≠ replacedPath dataDirectory

theorem exchangePaths (dataDirectory reservedPath : Bytes) :
    ExchangePaths dataDirectory reservedPath := by
  have hself : ∀ (s : Bytes) (t : String), text t ≠ [] → s ≠ s ++ text t := by
    intro s t ht h
    exact ht (List.self_eq_append_right.1 h)
  constructor
  · exact hself _ _ (by decide)
  · exact hself _ _ (by decide)
  · exact hself _ _ (by decide)
  · intro h
    have hends := List.append_cancel_left h
    exact absurd hends (by decide)

/-- Every archive is as it was, but for the one being written beside the reserved slot. -/
def FilesKept (reservedPath : Bytes) (before after : Disk Tree) : Prop :=
  ∀ path, path ≠ stagedPath reservedPath → after.files path = before.files path

/-- The data is what an archive held, and the reserved slot holds what the data was. -/
structure Replaced (dataDirectory reservedPath : Bytes) (returned replaced : Tree)
    (before after : Disk Tree) : Prop where
  data : after.trees dataDirectory = some returned
  reserved : after.files reservedPath = some (tar.pack v.takenAt replaced)
  others : ∀ path, path ≠ reservedPath → path ≠ stagedPath reservedPath →
    after.files path = before.files path

theorem Replaced.setTree {tar : Archiver Tree} {v : ExchangeVerdicts Tree}
    {dataDirectory reservedPath path : Bytes} {returned replaced : Tree} {before disk : Disk Tree}
    (tree : Option Tree)
    (h : Replaced tar v dataDirectory reservedPath returned replaced before disk)
    (hpath : dataDirectory ≠ path) :
    Replaced tar v dataDirectory reservedPath returned replaced before (disk.setTree path tree) where
  data := (Disk.setTree_other hpath tree disk).trans h.data
  reserved := h.reserved
  others := h.others

section Steps

variable {pre failed died : Disk Tree → Prop} {v}

theorem step_ensures {ok : Bool} {f : Disk Tree → Disk Tree} {post : Disk Tree → Prop}
    (h : ∀ disk, pre disk → post (f disk)) (hfailed : ok = false → ∀ disk, pre disk → failed disk) :
    Ensures pre (step ok f) (fun _ disk => ok = true ∧ post disk) failed died := by
  apply Ensures.effect
  · intro disk hpre hdone
    cases ok with
    | true => exact ⟨rfl, h disk hpre⟩
    | false => cases hdone
  · intro disk hpre hfails
    cases ok with
    | true => cases hfails
    | false => exact hfailed rfl disk hpre
  · intro disk hpre hdies
    cases ok <;> cases hdies

theorem removeAll_ensures {path : Bytes} {removal : Removal Tree} {post : Disk Tree → Prop}
    (h : ∀ disk, pre disk → post (disk.setTree path none))
    (hfailed : ∀ part, removal = .left part → ∀ disk, pre disk → failed (disk.setTree path part)) :
    Ensures pre (removeAll path removal) (fun _ disk => removal.succeeds = true ∧ post disk) failed
      died := by
  cases removal with
  | removed =>
      intro disk hpre
      exact ⟨rfl, h disk hpre⟩
  | left part =>
      intro disk hpre
      exact hfailed part rfl disk hpre

end Steps

/-! ### Step by step -/

section Exchange

variable {tar v} {before : Disk Tree} {archivePath dataDirectory reservedPath : Bytes}
variable {replaced returned : Tree}

/-- No archive was changed, and the data is in its place. -/
structure InPlace (dataDirectory reservedPath : Bytes) (replaced : Tree) (before disk : Disk Tree) :
    Prop where
  kept : FilesKept reservedPath before disk
  data : disk.trees dataDirectory = some replaced

theorem InPlace.setTree {disk : Disk Tree} {path : Bytes} (tree : Option Tree)
    (h : InPlace dataDirectory reservedPath replaced before disk) (hpath : dataDirectory ≠ path) :
    InPlace dataDirectory reservedPath replaced before (disk.setTree path tree) where
  kept := h.kept
  data := (Disk.setTree_other hpath tree disk).trans h.data

theorem InPlace.setStaged {disk : Disk Tree} (file : Option Bytes)
    (h : InPlace dataDirectory reservedPath replaced before disk) :
    InPlace dataDirectory reservedPath replaced before
      (disk.setFile (stagedPath reservedPath) file) where
  kept path hpath := (Disk.setFile_other hpath file disk).trans (h.kept path hpath)
  data := h.data

theorem FilesKept.setStaged {disk : Disk Tree} (file : Option Bytes)
    (h : FilesKept reservedPath before disk) :
    FilesKept reservedPath before (disk.setFile (stagedPath reservedPath) file) :=
  fun path hpath => (Disk.setFile_other hpath file disk).trans (h path hpath)

/-- Unpacking the named archive beside the data. -/
theorem extractArchive_ensures {restoring : Bytes} (hrestoring : dataDirectory ≠ restoring)
    (harchive : archivePath ≠ stagedPath reservedPath) :
    Ensures (InPlace dataDirectory reservedPath replaced before)
      (extractArchive tar v archivePath restoring)
      (fun _ disk => v.extract = true ∧ ∃ returned,
        (before.files archivePath).bind tar.unpack = some returned ∧
          InPlace dataDirectory reservedPath replaced before disk ∧
            disk.trees restoring = some returned)
      (fun disk => (v.extract = true → (before.files archivePath).bind tar.unpack = none) ∧
        InPlace dataDirectory reservedPath replaced before disk)
      (fun _ => False) := by
  unfold extractArchive
  apply Ensures.bind
  · apply Ensures.ask (m := fun returned disk => v.extract = true ∧
      (before.files archivePath).bind tar.unpack = some returned ∧
        InPlace dataDirectory reservedPath replaced before disk)
    · intro disk returned hdisk hask
      by_cases hextract : v.extract = true
      · rw [if_pos hextract, hdisk.kept _ harchive] at hask
        exact ⟨hextract, hask, hdisk⟩
      · rw [if_neg hextract] at hask
        cases hask
    · intro disk hdisk hask
      refine ⟨fun hextract => ?_, hdisk⟩
      rw [if_pos hextract, hdisk.kept _ harchive] at hask
      exact hask
  · intro returned
    apply Ensures.effect
    · intro disk hdisk _
      obtain ⟨hextract, hreturned, hdisk⟩ := hdisk
      exact ⟨hextract, returned, hreturned, hdisk.setTree _ hrestoring, Disk.setTree_same ..⟩
    · intro disk _ hfails
      cases hfails
    · intro disk _ hdies
      cases hdies

/-- The data in its place, the unpacked archive beside it, and the data archived. -/
structure Staged (tar : Archiver Tree) (v : ExchangeVerdicts Tree)
    (dataDirectory reservedPath : Bytes) (returned replaced : Tree) (before disk : Disk Tree) : Prop
    extends InPlace dataDirectory reservedPath replaced before disk where
  restoring : disk.trees (restoringPath dataDirectory) = some returned
  staged : disk.files (stagedPath reservedPath) = some (tar.pack v.takenAt replaced)

/-- The data archived into a file, and the file read back. -/
theorem createArchive_ensures :
    Ensures (fun disk => InPlace dataDirectory reservedPath replaced before disk ∧
        disk.trees (restoringPath dataDirectory) = some returned)
      (createArchive tar v dataDirectory (stagedPath reservedPath))
      (fun _ disk => (v.create = true ∧ v.holdStaged = true ∧ v.hash = true) ∧
        Staged tar v dataDirectory reservedPath returned replaced before disk)
      (fun disk => v.stages = false ∧ InPlace dataDirectory reservedPath replaced before disk)
      (fun _ => False) := by
  unfold createArchive
  apply Ensures.bind
  · apply Ensures.ask (m := fun tree disk => (v.create = true ∧ tree = replaced) ∧
      InPlace dataDirectory reservedPath replaced before disk ∧
      disk.trees (restoringPath dataDirectory) = some returned)
    · intro disk tree hdisk hask
      by_cases hcreate : v.create = true
      · rw [if_pos hcreate, hdisk.1.data] at hask
        exact ⟨⟨hcreate, (Option.some.inj hask).symm⟩, hdisk⟩
      · rw [if_neg hcreate] at hask
        cases hask
    · intro disk hdisk hask
      have hno : v.create = false := by
        by_contra hcreate
        rw [if_pos (Bool.eq_true_of_not_eq_false hcreate), hdisk.1.data] at hask
        cases hask
      exact ⟨by simp [ExchangeVerdicts.stages, hno], hdisk.1⟩
  intro tree
  apply Ensures.each
  intro disk₀ hdisk₀
  obtain ⟨⟨hcreate, rfl⟩, hdisk₀⟩ := hdisk₀
  apply Ensures.bind (m := fun _ disk =>
    Staged tar v dataDirectory reservedPath returned tree before disk)
  · apply Ensures.effect
    · intro disk hsame _
      rw [hsame]
      exact ⟨hdisk₀.1.setStaged _, hdisk₀.2, Disk.setFile_same ..⟩
    · intro disk _ hfails
      cases hfails
    · intro disk _ hdies
      cases hdies
  intro _
  apply Ensures.bind_of (m := fun _ disk =>
    Staged tar v dataDirectory reservedPath returned tree before disk)
  · apply step_ensures
    · exact fun _ h => h
    · intro hno disk hdisk
      exact ⟨by simp [ExchangeVerdicts.stages, hno], hdisk.1⟩
  intro _ hheld
  apply Ensures.bind_of (m := fun _ disk =>
    Staged tar v dataDirectory reservedPath returned tree before disk)
  · apply step_ensures
    · exact fun _ h => h
    · intro hno disk hdisk
      exact ⟨by simp [ExchangeVerdicts.stages, hno], hdisk.1⟩
  intro _ hhashed
  apply Ensures.pure
  intro disk hdisk
  exact ⟨⟨hcreate, hheld, hhashed⟩, hdisk⟩

/-- Archiving the data into a file beside the slot. -/
theorem stageArchive_ensures :
    Ensures (fun disk => InPlace dataDirectory reservedPath replaced before disk ∧
        disk.trees (restoringPath dataDirectory) = some returned)
      (stageArchive tar v dataDirectory reservedPath)
      (fun _ disk => v.stages = true ∧
        Staged tar v dataDirectory reservedPath returned replaced before disk)
      (fun disk => v.stages = false ∧ InPlace dataDirectory reservedPath replaced before disk)
      (fun _ => False) := by
  unfold stageArchive
  apply Ensures.bind_of (m := fun _ disk =>
    InPlace dataDirectory reservedPath replaced before disk ∧
      disk.trees (restoringPath dataDirectory) = some returned)
  · apply step_ensures
    · exact fun _ h => h
    · intro hno disk hdisk
      exact ⟨by simp [ExchangeVerdicts.stages, hno], hdisk.1⟩
  intro _ hmade
  apply Ensures.bind_of (m := fun _ disk =>
    InPlace dataDirectory reservedPath replaced before disk ∧
      disk.trees (restoringPath dataDirectory) = some returned)
  · apply step_ensures
    · intro disk hdisk
      exact ⟨hdisk.1.setStaged none, hdisk.2⟩
    · intro hno disk hdisk
      exact ⟨by simp [ExchangeVerdicts.stages, hno], hdisk.1⟩
  intro _ hcleared
  have hclean : Ensures (fun disk => v.stages = false ∧ InPlace dataDirectory reservedPath replaced before disk)
      (discard (Disk.setFile (stagedPath reservedPath) v.leftStaged))
      (fun _ disk => v.stages = false ∧ InPlace dataDirectory reservedPath replaced before disk)
      (fun disk => v.stages = false ∧ InPlace dataDirectory reservedPath replaced before disk) (fun _ => False) := by
    intro disk hdisk
    exact ⟨hdisk.1, hdisk.2.setStaged _⟩
  apply Ensures.otherwise _ hclean
  apply createArchive_ensures.weaken (fun _ h => h) _ (fun _ h => h) (fun _ h => h)
  intro archive disk hdisk
  obtain ⟨⟨hcreate, hheld, hhashed⟩, hdisk⟩ := hdisk
  exact ⟨by simp [ExchangeVerdicts.stages, hmade, hcleared, hcreate, hheld, hhashed], hdisk⟩

/-- What an exchange that failed leaves: every archive, or the exchange done up to its last steps. -/
def Interrupted (tar : Archiver Tree) (v : ExchangeVerdicts Tree)
    (archivePath dataDirectory reservedPath : Bytes) (replaced : Tree) (before disk : Disk Tree) :
    Prop :=
  (v.places tar (before.files archivePath) = false ∧ FilesKept reservedPath before disk) ∨
    (v.places tar (before.files archivePath) = true ∧ v.finishes = false ∧
      ∃ returned, Replaced tar v dataDirectory reservedPath returned replaced before disk)

/-- A step before the reserved slot whose failure is cleaned up after. -/
theorem otherwise_interrupted {α : Type} {p : Program (Disk Tree) α} {cleanup : Program (Disk Tree) Unit}
    {pre : Disk Tree → Prop} {post : α → Disk Tree → Prop}
    (h : Ensures pre p post (fun disk => v.places tar (before.files archivePath) = false ∧
      FilesKept reservedPath before disk) (fun _ => False))
    (hclean : Ensures (FilesKept reservedPath before) cleanup (fun _ => FilesKept reservedPath before)
      (FilesKept reservedPath before) (fun _ => False)) :
    Ensures pre (p.otherwise cleanup) post
      (Interrupted tar v archivePath dataDirectory reservedPath replaced before)
      (fun _ => False) := by
  have hinterrupted : Ensures (fun disk => v.places tar (before.files archivePath) = false ∧
      FilesKept reservedPath before disk) cleanup
      (fun _ => Interrupted tar v archivePath dataDirectory reservedPath replaced before)
      (Interrupted tar v archivePath dataDirectory reservedPath replaced before)
      (fun _ => False) := by
    apply Ensures.each
    rintro disk ⟨hno, hkept⟩
    apply hclean.weaken
    · rintro _ rfl
      exact hkept
    · exact fun _ _ h => .inl ⟨hno, h⟩
    · exact fun _ h => .inl ⟨hno, h⟩
    · exact fun _ h => h
  exact h.otherwise hinterrupted

/-- The unpacked data is in its place, and the archive of what it replaced is not yet. -/
structure PutInPlace (tar : Archiver Tree) (v : ExchangeVerdicts Tree)
    (dataDirectory reservedPath : Bytes) (returned replaced : Tree) (before disk : Disk Tree) :
    Prop where
  kept : FilesKept reservedPath before disk
  data : disk.trees dataDirectory = some returned
  staged : disk.files (stagedPath reservedPath) = some (tar.pack v.takenAt replaced)

theorem PutInPlace.place {disk : Disk Tree}
    (h : PutInPlace tar v dataDirectory reservedPath returned replaced before disk) :
    Replaced tar v dataDirectory reservedPath returned replaced before
      (disk.moveFile (stagedPath reservedPath) reservedPath) where
  data := h.data
  reserved := (Disk.setFile_same ..).trans h.staged
  others path hreserved hstaged := by
    calc (disk.moveFile (stagedPath reservedPath) reservedPath).files path
        = (disk.setFile (stagedPath reservedPath) none).files path :=
          Disk.setFile_other hreserved _ _
      _ = disk.files path := Disk.setFile_other hstaged _ _
      _ = before.files path := h.kept path hstaged

/-- An exchange does what it says, or fails and leaves every archive as it was, or fails once
the archive of the replaced data is in the reserved slot. -/
theorem exchange_ensures (hdata : before.trees dataDirectory = some replaced)
    (harchive : archivePath ≠ stagedPath reservedPath) :
    Ensures (· = before) (exchangeServiceData tar v archivePath dataDirectory reservedPath)
      (fun _ disk => v.places tar (before.files archivePath) = true ∧ v.finishes = true ∧
        ∃ returned, (before.files archivePath).bind tar.unpack = some returned ∧
          Replaced tar v dataDirectory reservedPath returned replaced before disk)
      (Interrupted tar v archivePath dataDirectory reservedPath replaced before)
      (fun _ => False) := by
  have hpaths := exchangePaths dataDirectory reservedPath
  have hdropTree : ∀ path tree, Ensures (FilesKept reservedPath before)
      (discard (Disk.setTree path tree)) (fun _ => FilesKept reservedPath before)
      (FilesKept reservedPath before) (fun _ => False) := by
    intro path tree disk hdisk
    exact hdisk
  have hdropStaged : Ensures (FilesKept reservedPath before)
      (discard (Disk.setFile (stagedPath reservedPath) v.leftStaged))
      (fun _ => FilesKept reservedPath before) (FilesKept reservedPath before)
      (fun _ => False) := by
    intro disk hdisk
    exact hdisk.setStaged _
  unfold exchangeServiceData
  apply Ensures.bind_of (m := fun _ => InPlace dataDirectory reservedPath replaced before)
  · apply removeAll_ensures
    · rintro _ rfl
      exact InPlace.setTree none ⟨fun _ _ => rfl, hdata⟩ hpaths.data_ne_restoring
    · rintro part hleft _ rfl
      exact .inl ⟨by simp [ExchangeVerdicts.places, ExchangeVerdicts.unpacks, hleft, Removal.succeeds],
        fun _ _ => rfl⟩
  intro _ hclearRestoring
  apply Ensures.bind_of (m := fun _ => InPlace dataDirectory reservedPath replaced before)
  · apply removeAll_ensures
    · intro disk hdisk
      exact hdisk.setTree none hpaths.data_ne_replaced
    · intro part hleft disk hdisk
      exact .inl ⟨by simp [ExchangeVerdicts.places, ExchangeVerdicts.unpacks, hleft, Removal.succeeds],
        hdisk.kept⟩
  intro _ hclearReplaced
  apply Ensures.bind_of (m := fun _ => InPlace dataDirectory reservedPath replaced before)
  · apply step_ensures
    · intro disk hdisk
      exact hdisk.setTree _ hpaths.data_ne_restoring
    · intro hno disk hdisk
      exact .inl ⟨by simp [ExchangeVerdicts.places, ExchangeVerdicts.unpacks, hno], hdisk.kept⟩
  intro _ hmade
  apply Ensures.bind (m := fun _ disk => v.extract = true ∧ ∃ returned,
    (before.files archivePath).bind tar.unpack = some returned ∧
      InPlace dataDirectory reservedPath replaced before disk ∧
        disk.trees (restoringPath dataDirectory) = some returned)
  · apply otherwise_interrupted _ (hdropTree _ _)
    apply (extractArchive_ensures hpaths.data_ne_restoring harchive).weaken (fun _ h => h)
      (fun _ _ h => h) _ (fun _ h => h)
    intro disk hdisk
    refine ⟨?_, hdisk.2.kept⟩
    by_cases hextract : v.extract = true
    · simp [ExchangeVerdicts.places, ExchangeVerdicts.unpacks, hdisk.1 hextract]
    · simp [ExchangeVerdicts.places, ExchangeVerdicts.unpacks, hextract]
  intro _
  apply Ensures.each
  rintro disk₀ ⟨hextract, returned, hreturned, hdisk₀⟩
  apply Ensures.bind_of (q := fun _ => v.holdRestoring = true)
    (m := fun _ disk => InPlace dataDirectory reservedPath replaced before disk ∧
      disk.trees (restoringPath dataDirectory) = some returned)
  · apply otherwise_interrupted _ (hdropTree _ _)
    apply step_ensures
    · rintro _ rfl
      exact hdisk₀
    · rintro hno _ rfl
      exact ⟨by simp [ExchangeVerdicts.places, ExchangeVerdicts.unpacks, hno], hdisk₀.1.kept⟩
  intro _ hheld
  have hunpacks : v.unpacks tar (before.files archivePath) = true := by
    simp [ExchangeVerdicts.unpacks, hclearRestoring, hclearReplaced, hmade, hextract, hreturned, hheld]
  apply Ensures.bind_of (q := fun _ => v.stages = true) (m := fun _ =>
    Staged tar v dataDirectory reservedPath returned replaced before)
  · apply otherwise_interrupted _ (hdropTree _ _)
    apply stageArchive_ensures.weaken (fun _ h => h) (fun _ _ h => h) _ (fun _ h => h)
    intro disk hdisk
    exact ⟨by simp [ExchangeVerdicts.places, hdisk.1], hdisk.2.kept⟩
  intro archive hstages
  apply Ensures.bind_of (q := fun _ => v.setAside = true) (m := fun _ disk => FilesKept reservedPath before disk ∧
    disk.trees (restoringPath dataDirectory) = some returned ∧
      disk.files (stagedPath reservedPath) = some (tar.pack v.takenAt replaced))
  · apply otherwise_interrupted
    · apply step_ensures
      · intro disk hdisk
        refine ⟨hdisk.kept, ?_, hdisk.staged⟩
        calc (disk.moveTree dataDirectory (replacedPath dataDirectory)).trees
              (restoringPath dataDirectory)
            = (disk.setTree dataDirectory none).trees (restoringPath dataDirectory) :=
              Disk.setTree_other hpaths.restoring_ne_replaced _ _
          _ = disk.trees (restoringPath dataDirectory) :=
              Disk.setTree_other hpaths.data_ne_restoring.symm _ _
          _ = some returned := hdisk.restoring
      · intro hno disk hdisk
        exact ⟨by simp [ExchangeVerdicts.places, hno], hdisk.kept⟩
    · exact Ensures.bind (hdropTree _ _) fun _ => hdropStaged
  intro _ hsetAside
  apply Ensures.bind_of (q := fun _ => v.putInPlace = true) (m := fun _ =>
    PutInPlace tar v dataDirectory reservedPath returned replaced before)
  · apply otherwise_interrupted _ hdropStaged
    apply step_ensures
    · rintro disk ⟨hkept, hrestoring, hstaged⟩
      exact ⟨hkept, (Disk.setTree_same ..).trans hrestoring, hstaged⟩
    · intro hno disk hdisk
      exact ⟨by simp [ExchangeVerdicts.places, hno], hdisk.1⟩
  intro _ hputInPlace
  apply Ensures.bind_of (q := fun _ => v.placeArchive = true) (m := fun _ =>
    Replaced tar v dataDirectory reservedPath returned replaced before)
  · apply otherwise_interrupted _ hdropStaged
    apply step_ensures
    · intro disk hdisk
      exact hdisk.place
    · intro hno disk hdisk
      exact ⟨by simp [ExchangeVerdicts.places, hno], hdisk.kept⟩
  intro _ hplaced
  have hplaces : v.places tar (before.files archivePath) = true := by
    simp [ExchangeVerdicts.places, hunpacks, hstages, hsetAside, hputInPlace, hplaced]
  apply Ensures.bind_of (m := fun _ =>
    Replaced tar v dataDirectory reservedPath returned replaced before)
  · apply removeAll_ensures
    · intro disk hdisk
      exact hdisk.setTree none hpaths.data_ne_replaced
    · intro part hleft disk hdisk
      exact .inr ⟨hplaces, by simp [ExchangeVerdicts.finishes, hleft, Removal.succeeds], returned,
        hdisk.setTree part hpaths.data_ne_replaced⟩
  intro _ hremoved
  apply Ensures.bind_of (m := fun _ =>
    Replaced tar v dataDirectory reservedPath returned replaced before)
  · apply step_ensures
    · exact fun _ h => h
    · intro hno disk hdisk
      exact .inr ⟨hplaces, by simp [ExchangeVerdicts.finishes, hno], returned, hdisk⟩
  intro _ hsynced
  apply Ensures.bind_of (m := fun _ =>
    Replaced tar v dataDirectory reservedPath returned replaced before)
  · apply step_ensures
    · exact fun _ h => h
    · intro hno disk hdisk
      exact .inr ⟨hplaces, by simp [ExchangeVerdicts.finishes, hno], returned, hdisk⟩
  intro _ hheldData
  apply Ensures.pure
  intro disk hdisk
  exact ⟨hplaces, by simp [ExchangeVerdicts.finishes, hremoved, hsynced, hheldData], returned,
    hreturned, hdisk⟩

end Exchange

end YourCloud.Auxiliary
