import YourCloud.Auxiliary.Restoration

/-!
# What survives a return

A return begins by clearing what an earlier one left beside the data, and among
that is the directory the earlier one had set the data aside in.  Where the
earlier one stopped between setting the data aside and writing the reserved
slot, that directory holds the only complete copy of it.  And a return that has
written the reserved slot has overwritten what it held, whether or not it comes
to its end.

A machine may be cut at every step of an exchange and come back for another
return.  What each exchange found in place is owed from then on, until a later
one comes to its end; and what is owed when one comes to its end, that one has to
leave.

Making the directories of a service is taken to leave the data that is there.

## Main results

* `exchangeUntil_none` — an exchange that is not cut is the exchange.
* `exchangeUntil_ensures` — where the data is, wherever an exchange stops.
* `nothing_lost` — after returns that clear no only copy and overwrite none,
  everything owed is there.
* `aside_lost` — a return that failed to put the new data in place, and the
  return after it.
-/

namespace YourCloud.Auxiliary

open YourCloud.Foundation
open Dialogue (converse)
open Operation (carriedOut)

variable {Tree : Type}

/-! ## An exchange that is cut -/

/-- The steps of an exchange at which a machine may be cut.  Archiving the data
counts as one, for it touches nothing but the file it writes. -/
inductive ExchangeStep where
  | clearRestoring
  | clearReplaced
  | makeRestoring
  | extract
  | holdRestoring
  | stage
  | setAside
  | putInPlace
  | placeArchive
  | removeReplaced
  | syncArchives
  | syncData
  /-- Everything is done and nobody was told. -/
  | answer
  deriving DecidableEq, Repr

/-- A cut, and what the step leaves half done. -/
structure Cut (Tree : Type) where
  point : ExchangeStep
  tree : Option Tree
  file : Option Bytes

/-- A step, unless the machine is cut there. -/
def unlessCut {α : Type} (cut : Option (Cut Tree)) (here : ExchangeStep)
    (left : Cut Tree → Disk Tree → Disk Tree) (p : Program (Disk Tree) α) :
    Program (Disk Tree) α :=
  match cut with
  | none => p
  | some c => if c.point = here then Program.die (left c) else p

variable (tar : Archiver Tree) (v : ExchangeVerdicts Tree) (cut : Option (Cut Tree))

/-- `exchangeServiceData` on a machine that may be cut. -/
def exchangeUntil (archivePath dataDirectory reservedPath : Bytes) :
    Program (Disk Tree) Archive := do
  let restoring := restoringPath dataDirectory
  let replaced := replacedPath dataDirectory
  let staged := stagedPath reservedPath
  let dropRestoring := discard (Disk.setTree restoring v.leftRestoring)
  let dropStaged := discard (Disk.setFile staged v.leftStaged)
  let whole : Cut Tree → Disk Tree → Disk Tree := fun _ disk => disk
  unlessCut cut .clearRestoring (fun c => Disk.setTree restoring c.tree)
    (removeAll restoring v.clearRestoring)
  unlessCut cut .clearReplaced (fun c => Disk.setTree replaced c.tree)
    (removeAll replaced v.clearReplaced)
  unlessCut cut .makeRestoring whole
    (step v.makeRestoring (Disk.setTree restoring (some tar.empty)))
  unlessCut cut .extract (fun c => Disk.setTree restoring c.tree)
    ((extractArchive tar v archivePath restoring).otherwise dropRestoring)
  unlessCut cut .holdRestoring whole ((step v.holdRestoring id).otherwise dropRestoring)
  let archive ← unlessCut cut .stage (fun c => Disk.setFile staged c.file)
    ((stageArchive tar v dataDirectory reservedPath).otherwise dropRestoring)
  unlessCut cut .setAside whole
    ((step v.setAside (Disk.moveTree dataDirectory replaced)).otherwise
      (dropRestoring >>= fun _ => dropStaged))
  unlessCut cut .putInPlace whole
    ((step v.putInPlace (Disk.moveTree restoring dataDirectory)).otherwise dropStaged)
  unlessCut cut .placeArchive whole
    ((step v.placeArchive (Disk.moveFile staged reservedPath)).otherwise dropStaged)
  unlessCut cut .removeReplaced (fun c => Disk.setTree replaced c.tree)
    (removeAll replaced v.removeReplaced)
  unlessCut cut .syncArchives whole (step v.syncArchives id)
  unlessCut cut .syncData whole (step v.syncData id)
  unlessCut cut .answer whole (pure archive)

/-! ## Where the data is -/

/-- What a removal leaves. -/
def Removal.leaves : Removal Tree → Option Tree
  | removed => none
  | left part => part

/-- A cut that comes once the reserved slot is written. -/
def Cut.late (c : Cut Tree) : Bool :=
  c.point = .removeReplaced || c.point = .syncArchives || c.point = .syncData || c.point = .answer

/-- What becomes of what was set aside by an earlier exchange, where this one gets that far. -/
def ExchangeVerdicts.clearing : Option (Option Tree) :=
  if v.clearRestoring.succeeds && cut.all fun c => c.point ≠ .clearRestoring then
    match cut.filter fun c => c.point = .clearReplaced with
    | some c => some c.tree
    | none => some v.clearReplaced.leaves
  else none

/-- The exchange writes the reserved slot. -/
def ExchangeVerdicts.overwrites (archive : Option Bytes) : Bool :=
  v.places tar archive && cut.all Cut.late

/-- The reserved slot is written, and the data is what the named archive held. -/
structure Placed (archivePath dataDirectory reservedPath : Bytes) (data : Tree)
    (before disk : Disk Tree) : Prop where
  reserved : (disk.files reservedPath).bind tar.unpack = some data
  returned : ∃ returned, (before.files archivePath).bind tar.unpack = some returned ∧
    disk.trees dataDirectory = some returned

/-- Where the data is after an exchange that stopped. -/
def Remains (archivePath dataDirectory reservedPath : Bytes) (data : Tree)
    (before disk : Disk Tree) : Prop :=
  (disk.trees dataDirectory = some data ∧ disk.files reservedPath = before.files reservedPath ∧
      disk.trees (replacedPath dataDirectory) =
        (v.clearing cut).getD (before.trees (replacedPath dataDirectory))) ∨
    (v.clearing cut = some none ∧ disk.files reservedPath = before.files reservedPath ∧
      (disk.trees dataDirectory = some data ∨
        disk.trees (replacedPath dataDirectory) = some data)) ∨
    (v.overwrites tar cut (before.files archivePath) = true ∧
      Placed tar archivePath dataDirectory reservedPath data before disk)

section Ensured

variable {tar v cut} {before : Disk Tree} {archivePath dataDirectory reservedPath : Bytes}
variable {data returned : Tree}

/-- The cut is not at a step. -/
def Passes (cut : Option (Cut Tree)) (here : ExchangeStep) : Prop := ∀ c, cut = some c → c.point ≠ here

theorem unlessCut_ensures {α : Type} {here : ExchangeStep}
    {left : Cut Tree → Disk Tree → Disk Tree} {p : Program (Disk Tree) α}
    {pre failed died : Disk Tree → Prop} {q : α → Prop} {post : α → Disk Tree → Prop}
    (h : Passes cut here → Ensures pre p (fun a disk => q a ∧ post a disk) failed died)
    (hcut : ∀ c, cut = some c → c.point = here → ∀ disk, pre disk → died (left c disk)) :
    Ensures pre (unlessCut cut here left p)
      (fun a disk => (Passes cut here ∧ q a) ∧ post a disk) failed died := by
  have hpassed : Passes cut here → Ensures pre p
      (fun a disk => (Passes cut here ∧ q a) ∧ post a disk) failed died := by
    intro hpasses
    apply (h hpasses).weaken (fun _ h => h) _ (fun _ h => h) (fun _ h => h)
    exact fun _ _ h => ⟨⟨hpasses, h.1⟩, h.2⟩
  unfold unlessCut
  split
  · exact hpassed fun c hc => by cases hc
  · rename_i c
    by_cases hhere : c.point = here
    · rw [if_pos hhere]
      exact Ensures.die fun disk hpre => hcut c rfl hhere disk hpre
    · rw [if_neg hhere]
      apply hpassed
      intro c' hc
      rw [← Option.some.inj hc]
      exact hhere

theorem clearing_passed (hrestoring : Passes cut .clearRestoring)
    (hcleared : v.clearRestoring.succeeds = true) (hreplaced : Passes cut .clearReplaced) :
    v.clearing cut = some v.clearReplaced.leaves := by
  cases cut with
  | none => simp [ExchangeVerdicts.clearing, hcleared]
  | some c => simp [ExchangeVerdicts.clearing, hcleared, hrestoring c rfl, Option.filter, hreplaced c rfl]

theorem clearing_cut {c : Cut Tree} (hcleared : v.clearRestoring.succeeds = true)
    (hc : cut = some c) (hhere : c.point = .clearReplaced) : v.clearing cut = some c.tree := by
  simp [ExchangeVerdicts.clearing, hcleared, hc, Option.filter, hhere]

/-- The data is in its place. -/
theorem InPlace.remains {disk : Disk Tree} (hclears : v.clearing cut = some none)
    (h : InPlace dataDirectory reservedPath data before disk) :
    Remains tar v cut archivePath dataDirectory reservedPath data before disk :=
  .inr (.inl ⟨hclears, h.kept _ (exchangePaths dataDirectory _).reserved_ne_staged, .inl h.data⟩)

/-- The data is set aside. -/
structure Aside (dataDirectory reservedPath : Bytes) (data : Tree) (before disk : Disk Tree) :
    Prop where
  kept : FilesKept reservedPath before disk
  aside : disk.trees (replacedPath dataDirectory) = some data

theorem Aside.remains {disk : Disk Tree} (hclears : v.clearing cut = some none)
    (h : Aside dataDirectory reservedPath data before disk) :
    Remains tar v cut archivePath dataDirectory reservedPath data before disk :=
  .inr (.inl ⟨hclears, h.kept _ (exchangePaths dataDirectory _).reserved_ne_staged, .inr h.aside⟩)

/-- A failure before the data is set aside, cleaned up after. -/
theorem otherwise_inPlace {α : Type} {p : Program (Disk Tree) α} {pre : Disk Tree → Prop}
    {post : α → Disk Tree → Prop} (hclears : v.clearing cut = some none)
    (h : Ensures pre p post (InPlace dataDirectory reservedPath data before) (fun _ => False)) :
    Ensures pre (p.otherwise
        (discard (Disk.setTree (restoringPath dataDirectory) v.leftRestoring))) post
      (Remains tar v cut archivePath dataDirectory reservedPath data before)
      (Remains tar v cut archivePath dataDirectory reservedPath data before) := by
  apply (Ensures.otherwise h _).weaken (fun _ h => h) (fun _ _ h => h) (fun _ h => h)
    (fun _ h => h.elim)
  intro disk hdisk
  exact (hdisk.setTree _ (exchangePaths dataDirectory reservedPath).data_ne_restoring).remains hclears

/-- A failure with the data set aside, after which what was staged may be gone. -/
theorem otherwise_aside {p : Program (Disk Tree) Unit} {pre : Disk Tree → Prop}
    {post : Unit → Disk Tree → Prop} (hclears : v.clearing cut = some none)
    (h : Ensures pre p post (Aside dataDirectory reservedPath data before) (fun _ => False)) :
    Ensures pre (p.otherwise (discard (Disk.setFile (stagedPath reservedPath) v.leftStaged))) post
      (Remains tar v cut archivePath dataDirectory reservedPath data before)
      (Remains tar v cut archivePath dataDirectory reservedPath data before) := by
  apply (Ensures.otherwise h _).weaken (fun _ h => h) (fun _ _ h => h) (fun _ h => h)
    (fun _ h => h.elim)
  intro disk hdisk
  exact Aside.remains hclears ⟨hdisk.kept.setStaged _, hdisk.aside⟩

/-- The data is set aside, and what comes in its place is beside it. -/
structure Ready (tar : Archiver Tree) (v : ExchangeVerdicts Tree) (archivePath : Bytes)
    (dataDirectory reservedPath : Bytes) (data : Tree) (before disk : Disk Tree) : Prop
    extends Aside dataDirectory reservedPath data before disk where
  staged : disk.files (stagedPath reservedPath) = some (tar.pack v.takenAt data)
  returned : ∃ returned, (before.files archivePath).bind tar.unpack = some returned ∧
    disk.trees (restoringPath dataDirectory) = some returned

/-- Setting the data aside. -/
theorem Staged.setAside {disk : Disk Tree}
    (hreturned : (before.files archivePath).bind tar.unpack = some returned)
    (h : Staged tar v dataDirectory reservedPath returned data before disk) :
    Ready tar v archivePath dataDirectory reservedPath data before
      (disk.moveTree dataDirectory (replacedPath dataDirectory)) := by
  have hpaths := exchangePaths dataDirectory reservedPath
  refine ⟨⟨h.kept, (Disk.setTree_same ..).trans h.data⟩, h.staged, returned, hreturned, ?_⟩
  calc (disk.moveTree dataDirectory (replacedPath dataDirectory)).trees
        (restoringPath dataDirectory)
      = (disk.setTree dataDirectory none).trees (restoringPath dataDirectory) :=
        Disk.setTree_other hpaths.restoring_ne_replaced _ _
    _ = disk.trees (restoringPath dataDirectory) :=
        Disk.setTree_other hpaths.data_ne_restoring.symm _ _
    _ = some returned := h.restoring

/-- The returned data is in place, the data set aside and its archive beside the slot. -/
structure Swapped (tar : Archiver Tree) (v : ExchangeVerdicts Tree) (archivePath : Bytes)
    (dataDirectory reservedPath : Bytes) (data : Tree) (before disk : Disk Tree) : Prop
    extends Aside dataDirectory reservedPath data before disk where
  staged : disk.files (stagedPath reservedPath) = some (tar.pack v.takenAt data)
  returned : ∃ returned, (before.files archivePath).bind tar.unpack = some returned ∧
    disk.trees dataDirectory = some returned

theorem Ready.putInPlace {disk : Disk Tree}
    (h : Ready tar v archivePath dataDirectory reservedPath data before disk) :
    Swapped tar v archivePath dataDirectory reservedPath data before
      (disk.moveTree (restoringPath dataDirectory) dataDirectory) := by
  have hpaths := exchangePaths dataDirectory reservedPath
  obtain ⟨returned, hreturned, hrestoring⟩ := h.returned
  refine ⟨⟨h.kept, ?_⟩, h.staged, returned, hreturned, (Disk.setTree_same ..).trans hrestoring⟩
  calc (disk.moveTree (restoringPath dataDirectory) dataDirectory).trees
        (replacedPath dataDirectory)
      = (disk.setTree (restoringPath dataDirectory) none).trees (replacedPath dataDirectory) :=
        Disk.setTree_other hpaths.data_ne_replaced.symm _ _
    _ = disk.trees (replacedPath dataDirectory) :=
        Disk.setTree_other hpaths.restoring_ne_replaced.symm _ _
    _ = some data := h.aside

theorem Swapped.placeArchive {disk : Disk Tree}
    (h : Swapped tar v archivePath dataDirectory reservedPath data before disk) :
    Placed tar archivePath dataDirectory reservedPath data before
      (disk.moveFile (stagedPath reservedPath) reservedPath) where
  reserved := by
    have hfile : (disk.moveFile (stagedPath reservedPath) reservedPath).files reservedPath =
        some (tar.pack v.takenAt data) := (Disk.setFile_same ..).trans h.staged
    rw [hfile]
    exact tar.unpack_pack _ _
  returned := h.returned

theorem Placed.setTree {disk : Disk Tree} {path : Bytes} (tree : Option Tree)
    (h : Placed tar archivePath dataDirectory reservedPath data before disk)
    (hpath : dataDirectory ≠ path) :
    Placed tar archivePath dataDirectory reservedPath data before (disk.setTree path tree) where
  reserved := h.reserved
  returned := by
    obtain ⟨returned, hreturned, hdata⟩ := h.returned
    exact ⟨returned, hreturned, (Disk.setTree_other hpath tree disk).trans hdata⟩

theorem exchangeUntil_ensures (hdata : before.trees dataDirectory = some data)
    (harchive : archivePath ≠ stagedPath reservedPath) :
    Ensures (· = before) (exchangeUntil tar v cut archivePath dataDirectory reservedPath)
      (fun _ disk => v.overwrites tar cut (before.files archivePath) = true ∧
        Placed tar archivePath dataDirectory reservedPath data before disk)
      (Remains tar v cut archivePath dataDirectory reservedPath data before)
      (Remains tar v cut archivePath dataDirectory reservedPath data before) := by
  have hpaths := exchangePaths dataDirectory reservedPath
  have hstart : InPlace dataDirectory reservedPath data before before := ⟨fun _ _ => rfl, hdata⟩
  unfold exchangeUntil
  dsimp only
  apply Ensures.bind_of (m := fun _ disk => InPlace dataDirectory reservedPath data before disk ∧
    disk.trees (replacedPath dataDirectory) = before.trees (replacedPath dataDirectory))
  · apply unlessCut_ensures
    · intro _
      apply removeAll_ensures
      · rintro _ rfl
        exact ⟨hstart.setTree none hpaths.data_ne_restoring,
          Disk.setTree_other hpaths.restoring_ne_replaced.symm _ _⟩
      · rintro part hleft _ rfl
        refine .inl ⟨(hstart.setTree part hpaths.data_ne_restoring).data, rfl, ?_⟩
        simp [ExchangeVerdicts.clearing, hleft, Removal.succeeds,
          Disk.setTree_other hpaths.restoring_ne_replaced.symm]
    · rintro c hc hhere _ rfl
      refine .inl ⟨(hstart.setTree c.tree hpaths.data_ne_restoring).data, rfl, ?_⟩
      simp [ExchangeVerdicts.clearing, hc, hhere,
        Disk.setTree_other hpaths.restoring_ne_replaced.symm]
  rintro _ ⟨hrestoring, hclearRestoring⟩
  apply Ensures.bind_of (q := fun _ => Passes cut .clearReplaced ∧ v.clearReplaced.succeeds = true)
    (m := fun _ => InPlace dataDirectory reservedPath data before)
  · apply unlessCut_ensures
    · intro hreplaced
      apply removeAll_ensures
      · exact fun disk hdisk => hdisk.1.setTree none hpaths.data_ne_replaced
      · rintro part hleft disk ⟨hdisk, -⟩
        have hpart := hdisk.setTree part hpaths.data_ne_replaced
        refine .inl ⟨hpart.data, hpart.kept _ hpaths.reserved_ne_staged, ?_⟩
        rw [clearing_passed hrestoring hclearRestoring hreplaced, Disk.setTree_same, hleft]
        rfl
    · rintro c hc hhere disk ⟨hdisk, -⟩
      have hpart := hdisk.setTree c.tree hpaths.data_ne_replaced
      refine .inl ⟨hpart.data, hpart.kept _ hpaths.reserved_ne_staged, ?_⟩
      rw [clearing_cut hclearRestoring hc hhere, Disk.setTree_same]
      rfl
  rintro _ ⟨hreplaced, hclearReplaced⟩
  have hclears : v.clearing cut = some none := by
    rw [clearing_passed hrestoring hclearRestoring hreplaced]
    cases hremoval : v.clearReplaced with
    | removed => rfl
    | left part => simp [hremoval, Removal.succeeds] at hclearReplaced
  apply Ensures.bind_of (m := fun _ => InPlace dataDirectory reservedPath data before)
  · apply unlessCut_ensures
    · intro _
      apply step_ensures
      · exact fun disk hdisk => hdisk.setTree _ hpaths.data_ne_restoring
      · exact fun _ disk hdisk => hdisk.remains hclears
    · exact fun _ _ _ disk hdisk => hdisk.remains hclears
  rintro _ ⟨hmake, hmade⟩
  apply Ensures.bind_of (q := fun _ => Passes cut .extract ∧ v.extract = true)
    (m := fun _ disk => ∃ returned, (before.files archivePath).bind tar.unpack = some returned ∧
      InPlace dataDirectory reservedPath data before disk ∧
        disk.trees (restoringPath dataDirectory) = some returned)
  · apply unlessCut_ensures
    · intro _
      apply otherwise_inPlace hclears
      exact (extractArchive_ensures hpaths.data_ne_restoring harchive).weaken (fun _ h => h)
        (fun _ _ h => h) (fun _ h => h.2) (fun _ h => h)
    · exact fun c _ _ disk hdisk => (hdisk.setTree c.tree hpaths.data_ne_restoring).remains hclears
  rintro _ ⟨hextract, hextracted⟩
  apply Ensures.each
  rintro disk₀ ⟨returned, hreturned, hdisk₀⟩
  have hunpacked : ((before.files archivePath).bind tar.unpack).isSome = true := by
    rw [hreturned]
    rfl
  apply Ensures.bind_of (q := fun _ => Passes cut .holdRestoring ∧ v.holdRestoring = true)
    (m := fun _ disk => InPlace dataDirectory reservedPath data before disk ∧
      disk.trees (restoringPath dataDirectory) = some returned)
  · apply unlessCut_ensures
    · intro _
      apply otherwise_inPlace hclears
      apply step_ensures
      · rintro _ rfl
        exact hdisk₀
      · rintro _ _ rfl
        exact hdisk₀.1
    · rintro _ _ _ _ rfl
      exact hdisk₀.1.remains hclears
  rintro _ ⟨hhold, hheld⟩
  apply Ensures.bind_of (q := fun _ => Passes cut .stage ∧ v.stages = true)
    (m := fun _ => Staged tar v dataDirectory reservedPath returned data before)
  · apply unlessCut_ensures
    · intro _
      apply otherwise_inPlace hclears
      exact stageArchive_ensures.weaken (fun _ h => h) (fun _ _ h => h) (fun _ h => h.2) (fun _ h => h)
    · exact fun c _ _ disk hdisk => (hdisk.1.setStaged c.file).remains hclears
  rintro archive ⟨hstage, hstages⟩
  apply Ensures.bind_of (q := fun _ => Passes cut .setAside ∧ v.setAside = true)
    (m := fun _ => Ready tar v archivePath dataDirectory reservedPath data before)
  · apply unlessCut_ensures
    · intro _
      have hstep : Ensures (Staged tar v dataDirectory reservedPath returned data before)
          (step v.setAside (Disk.moveTree dataDirectory (replacedPath dataDirectory)))
          (fun _ disk => v.setAside = true ∧
            Ready tar v archivePath dataDirectory reservedPath data before disk)
          (InPlace dataDirectory reservedPath data before) (fun _ => False) := by
        apply step_ensures
        · exact fun disk hdisk => hdisk.setAside hreturned
        · exact fun _ disk hdisk => hdisk.toInPlace
      apply (Ensures.otherwise hstep _).weaken (fun _ h => h) (fun _ _ h => h) (fun _ h => h)
        (fun _ h => h.elim)
      intro disk hdisk
      exact ((hdisk.setTree _ hpaths.data_ne_restoring).setStaged _).remains hclears
    · exact fun _ _ _ disk hdisk => hdisk.toInPlace.remains hclears
  rintro _ ⟨haside, hsetAside⟩
  apply Ensures.bind_of (q := fun _ => Passes cut .putInPlace ∧ v.putInPlace = true)
    (m := fun _ => Swapped tar v archivePath dataDirectory reservedPath data before)
  · apply unlessCut_ensures
    · intro _
      apply otherwise_aside hclears
      apply step_ensures
      · exact fun disk hdisk => hdisk.putInPlace
      · exact fun _ disk hdisk => hdisk.toAside
    · exact fun _ _ _ disk hdisk => hdisk.toAside.remains hclears
  rintro _ ⟨hput, hputInPlace⟩
  apply Ensures.bind_of (q := fun _ => Passes cut .placeArchive ∧ v.placeArchive = true)
    (m := fun _ => Placed tar archivePath dataDirectory reservedPath data before)
  · apply unlessCut_ensures
    · intro _
      apply otherwise_aside hclears
      apply step_ensures
      · exact fun disk hdisk => hdisk.placeArchive
      · exact fun _ disk hdisk => hdisk.toAside
    · exact fun _ _ _ disk hdisk => hdisk.toAside.remains hclears
  rintro _ ⟨hplace, hplaced⟩
  have hplaces : v.places tar (before.files archivePath) = true := by
    simp [ExchangeVerdicts.places, ExchangeVerdicts.unpacks, hclearRestoring, hclearReplaced, hmade,
      hextracted, hunpacked, hheld, hstages, hsetAside, hputInPlace, hplaced]
  have hlate : cut.all Cut.late = true := by
    cases cut with
    | none => rfl
    | some c =>
        have hne := And.intro (hrestoring c rfl) (hreplaced c rfl)
        have := hmake c rfl
        have := hextract c rfl
        have := hhold c rfl
        have := hstage c rfl
        have := haside c rfl
        have := hput c rfl
        have := hplace c rfl
        cases hpoint : c.point <;> simp_all [Cut.late]
  have hoverwrites : v.overwrites tar cut (before.files archivePath) = true := by
    rw [ExchangeVerdicts.overwrites, hplaces, hlate]
    rfl
  have hplaced : ∀ disk, Placed tar archivePath dataDirectory reservedPath data before disk →
      Remains tar v cut archivePath dataDirectory reservedPath data before disk :=
    fun disk hdisk => .inr (.inr ⟨hoverwrites, hdisk⟩)
  apply Ensures.bind (m := fun _ => Placed tar archivePath dataDirectory reservedPath data before)
  · apply (unlessCut_ensures (q := fun _ => v.removeReplaced.succeeds = true) _ _).weaken
      (fun _ h => h) (fun _ _ h => h.2) (fun _ h => h) (fun _ h => h)
    · intro _
      apply removeAll_ensures
      · exact fun disk hdisk => hdisk.setTree none hpaths.data_ne_replaced
      · exact fun part _ disk hdisk => hplaced _ (hdisk.setTree part hpaths.data_ne_replaced)
    · exact fun c _ _ disk hdisk => hplaced _ (hdisk.setTree c.tree hpaths.data_ne_replaced)
  intro _
  apply Ensures.bind (m := fun _ => Placed tar archivePath dataDirectory reservedPath data before)
  · apply (unlessCut_ensures (q := fun _ => v.syncArchives = true) _ _).weaken
      (fun _ h => h) (fun _ _ h => h.2) (fun _ h => h) (fun _ h => h)
    · intro _
      exact step_ensures (fun _ hdisk => hdisk) fun _ => hplaced
    · exact fun _ _ _ => hplaced
  intro _
  apply Ensures.bind (m := fun _ => Placed tar archivePath dataDirectory reservedPath data before)
  · apply (unlessCut_ensures (q := fun _ => v.syncData = true) _ _).weaken
      (fun _ h => h) (fun _ _ h => h.2) (fun _ h => h) (fun _ h => h)
    · intro _
      exact step_ensures (fun _ hdisk => hdisk) fun _ => hplaced
    · exact fun _ _ _ => hplaced
  intro _
  have hanswer : Ensures (Placed tar archivePath dataDirectory reservedPath data before)
      (unlessCut cut .answer (fun _ disk => disk) (pure archive))
      (fun _ disk => (Passes cut .answer ∧ True) ∧
        Placed tar archivePath dataDirectory reservedPath data before disk)
      (Remains tar v cut archivePath dataDirectory reservedPath data before)
      (Remains tar v cut archivePath dataDirectory reservedPath data before) := by
    apply unlessCut_ensures
    · intro _
      exact Ensures.pure fun disk hdisk => ⟨trivial, hdisk⟩
    · exact fun _ _ _ => hplaced
  exact hanswer.weaken (fun _ h => h) (fun _ _ h => ⟨hoverwrites, h.2⟩) (fun _ h => h)
    (fun _ h => h)

end Ensured

/-! ## One return after the other -/

/-- What is owed: the data as each exchange found it, from the last that came to its end on. -/
structure Debts (Tree : Type) where
  owed : List Tree
  /-- What was owed when that one came to its end, until something else happens. -/
  settled : List Tree
  /-- None has stopped since, so that the service may run. -/
  whole : Bool

def Debts.ended (debts : Debts Tree) (data : Option Tree) : Debts Tree :=
  ⟨data.toList, debts.owed, true⟩

def Debts.stopped (debts : Debts Tree) (data : Option Tree) : Debts Tree :=
  ⟨data.toList ++ debts.owed, [], false⟩

/-- A machine that holds a service, between two returns. -/
structure Site (Tree : Type) where
  disk : Disk Tree
  debts : Debts Tree

/-- A return to a slot: what the machine answers, and where it is cut. -/
structure Return (Tree : Type) where
  slot : Bytes
  answers : Answers Tree
  cut : Option (Cut Tree)

inductive Happening (Tree : Type) where
  | returns (r : Return Tree)
  /-- The service runs, and this is what it makes of its data. -/
  | runs (tree : Tree)

/-- A machine in the course of a return. -/
structure Course (Tree : Type) where
  world : World Tree
  cut : Option (Cut Tree)
  debts : Debts Tree

/-- The answers of a machine that may be cut during an exchange.  A machine that was cut
answers with an error, after which a return makes no other call. -/
def machineUntil : (call : Executor) → Course Tree → call.Outcome × Course Tree
  | .exchangeServiceData archivePath dataDirectory reservedPath, c =>
      let data := c.world.disk.trees dataDirectory
      match exchangeUntil tar c.world.now.exchange c.cut archivePath dataDirectory reservedPath
          c.world.disk with
      | (.returned archive, disk) =>
          (.ok archive, { c with world := { c.world with disk }, debts := c.debts.ended data })
      | (_, disk) =>
          (.error c.world.now.exchangeError,
            { c with world := { c.world with disk }, debts := c.debts.stopped data })
  | call, c =>
      let answered := machine tar call c.world
      (answered.1, { c with world := answered.2 })

def returnOnce (placement : Placement) (s : Site Tree) (r : Return Tree) :
    Site Tree × Except Bytes Application :=
  let ended := (converse (machineUntil tar) (carriedOut (restoreService (restoring placement r.slot)))
    ⟨⟨s.disk, r.answers, []⟩, r.cut, s.debts⟩).2
  (⟨ended.2.world.disk, ended.2.debts⟩, ended.1.1)

/-- The service runs where no exchange has left it stopped. -/
def runOn (placement : Placement) (s : Site Tree) (tree : Tree) : Site Tree :=
  if s.debts.whole then
    ⟨s.disk.setTree placement.dataDirectory (some tree), { s.debts with settled := [] }⟩
  else s

/-- What happens to a service, with whether a return was carried out. -/
def happen (placement : Placement) (s : Site Tree) : Happening Tree → Site Tree × Bool
  | .returns r => ((returnOnce tar placement s r).1, (returnOnce tar placement s r).2.isOk)
  | .runs tree => (runOn placement s tree, true)

/-- A tree is the data of the service, or archived in the reserved slot, or set aside. -/
def Holds (placement : Placement) (disk : Disk Tree) (tree : Tree) : Prop :=
  disk.trees placement.dataDirectory = some tree ∨
    (disk.files (placement.archivePath reservedSnapshotSlot)).bind tar.unpack = some tree ∨
    disk.trees (replacedPath placement.dataDirectory) = some tree

instance (placement : Placement) (disk : Disk Tree) (tree : Tree) [DecidableEq Tree] :
    Decidable (Holds tar placement disk tree) :=
  inferInstanceAs (Decidable (_ ∨ _ ∨ _))

/-- A return gets as far as its exchange. -/
def Return.reaches (r : Return Tree) (placement : Placement) (disk : Disk Tree) : Bool :=
  r.answers.examines (disk.files (placement.archivePath r.slot)) &&
    (!r.answers.running || r.answers.stopped.isOk) && r.answers.ensured.isOk

/-- A return destroys nothing that is owed: what it clears is held elsewhere, and where it writes
the reserved slot, nothing owed was held by that slot alone. -/
def Return.Spares (r : Return Tree) (placement : Placement) (s : Site Tree) : Prop :=
  r.reaches placement s.disk = true → ∀ tree ∈ s.debts.owed,
    (∀ left ∈ r.answers.exchange.clearing r.cut,
      content tar placement.dataDirectory s.disk = tree ∨
        (s.disk.files (placement.archivePath reservedSnapshotSlot)).bind tar.unpack = some tree ∨
        left = some tree) ∧
    (r.answers.exchange.overwrites tar r.cut (s.disk.files (placement.archivePath r.slot)) = true →
      content tar placement.dataDirectory s.disk = tree ∨
        (s.disk.files (placement.archivePath r.slot)).bind tar.unpack = some tree)

/-- What happens destroys nothing that is owed. -/
def Sparing (placement : Placement) (s : Site Tree) : Happening Tree → Prop
  | .returns r => r.Spares tar placement s
  | .runs _ => True

/-- Everything owed is there, and while the service runs it is in the reserved slot. -/
structure Secure (placement : Placement) (disk : Disk Tree) (debts : Debts Tree) : Prop where
  owed : ∀ tree ∈ debts.owed, Holds tar placement disk tree
  settled : ∀ tree ∈ debts.settled, Holds tar placement disk tree
  reserved : debts.whole = true → ∀ tree ∈ debts.owed,
    (disk.files (placement.archivePath reservedSnapshotSlot)).bind tar.unpack = some tree

section Secured

variable {tar} {placement : Placement} {slot : Bytes} {c : Course Tree}

/-- Directories that are there are not made again. -/
theorem makeDirectory_kept {path : Bytes} {disk : Disk Tree} {tree : Tree} (made : Bytes)
    (h : disk.trees path = some tree) : (makeDirectory tar disk made).trees path = some tree := by
  unfold makeDirectory
  split
  · exact h
  · rename_i habsent
    by_cases hpath : path = made
    · subst hpath
      rw [h] at habsent
      exact absurd rfl habsent
    · rwa [Disk.setTree_other hpath]

theorem ensureDirectories_kept {path : Bytes} {tree : Tree} (directories : List Bytes)
    {disk : Disk Tree} (h : disk.trees path = some tree) :
    (ensureDirectories tar directories disk).trees path = some tree := by
  induction directories generalizing disk with
  | nil => exact h
  | cons made directories ih => exact ih (makeDirectory_kept made h)

theorem Holds.ensured {disk : Disk Tree} {tree : Tree} (directories : List Bytes)
    (h : Holds tar placement disk tree) :
    Holds tar placement (ensureDirectories tar directories disk) tree := by
  rcases h with h | h | h
  · exact .inl (ensureDirectories_kept directories h)
  · refine .inr (.inl ?_)
    rwa [ensureDirectories_files]
  · exact .inr (.inr (ensureDirectories_kept directories h))

theorem Secure.ensured {disk : Disk Tree} {debts : Debts Tree} (directories : List Bytes)
    (h : Secure tar placement disk debts) :
    Secure tar placement (ensureDirectories tar directories disk) debts where
  owed tree htree := (h.owed tree htree).ensured directories
  settled tree htree := (h.settled tree htree).ensured directories
  reserved hwhole tree htree := by
    rw [ensureDirectories_files]
    exact h.reserved hwhole tree htree

/-- A tree that is owed is held where the reserved slot is written, if it is one of the two
that the exchange swaps. -/
theorem Placed.holds {before disk : Disk Tree} {data tree : Tree}
    (h : Placed tar (placement.archivePath slot) placement.dataDirectory
      (placement.archivePath reservedSnapshotSlot) data before disk)
    (htree : data = tree ∨
      (before.files (placement.archivePath slot)).bind tar.unpack = some tree) :
    Holds tar placement disk tree := by
  obtain ⟨returned, hreturned, hdata⟩ := h.returned
  rcases htree with rfl | htree
  · exact .inr (.inl h.reserved)
  · rw [hreturned] at htree
    rw [← Option.some.inj htree]
    exact .inl hdata

/-- What an exchange may destroy of what is owed, it spares. -/
structure Spared (tar : Archiver Tree) (placement : Placement) (slot : Bytes) (c : Course Tree)
    (data tree : Tree) : Prop where
  clearing : ∀ left ∈ c.world.now.exchange.clearing c.cut,
    data = tree ∨
      (c.world.disk.files (placement.archivePath reservedSnapshotSlot)).bind tar.unpack =
        some tree ∨ left = some tree
  overwriting : c.world.now.exchange.overwrites tar c.cut
      (c.world.disk.files (placement.archivePath slot)) = true →
    data = tree ∨ (c.world.disk.files (placement.archivePath slot)).bind tar.unpack = some tree

theorem Remains.holds {disk : Disk Tree} {data tree : Tree}
    (h : Remains tar c.world.now.exchange c.cut (placement.archivePath slot)
      placement.dataDirectory (placement.archivePath reservedSnapshotSlot) data c.world.disk disk)
    (hdata : c.world.disk.trees placement.dataDirectory = some data)
    (hheld : Holds tar placement c.world.disk tree) (hspared : Spared tar placement slot c data tree) :
    Holds tar placement disk tree := by
  rcases h with ⟨hin, hreserved, haside⟩ | ⟨hclears, hreserved, hplace⟩ | ⟨hoverwrites, hplaced⟩
  · cases hclearing : c.world.now.exchange.clearing c.cut with
    | none =>
        rw [hclearing] at haside
        unfold Holds
        rw [hin, hreserved, haside, ← hdata]
        exact hheld
    | some left =>
        rw [hclearing] at haside
        rcases hspared.clearing left hclearing with rfl | htree | rfl
        · exact .inl hin
        · exact .inr (.inl (hreserved ▸ htree))
        · exact .inr (.inr haside)
  · rcases hspared.clearing none hclears with rfl | htree | hno
    · rcases hplace with hin | haside
      · exact .inl hin
      · exact .inr (.inr haside)
    · exact .inr (.inl (hreserved ▸ htree))
    · cases hno
  · exact hplaced.holds (hspared.overwriting hoverwrites)

/-- The data that an exchange found is held wherever it stopped. -/
theorem Remains.holds_data {disk : Disk Tree} {data : Tree}
    (h : Remains tar c.world.now.exchange c.cut (placement.archivePath slot)
      placement.dataDirectory (placement.archivePath reservedSnapshotSlot) data c.world.disk disk) :
    Holds tar placement disk data := by
  rcases h with ⟨hin, -, -⟩ | ⟨-, -, hin | haside⟩ | ⟨-, hplaced⟩
  · exact .inl hin
  · exact .inl hin
  · exact .inr (.inr haside)
  · exact .inr (.inl hplaced.reserved)

/-- An exchange that stops leaves everything that is owed. -/
theorem Secure.stopped {disk : Disk Tree} {data : Tree}
    (hheld : ∀ tree ∈ c.debts.owed, Holds tar placement c.world.disk tree)
    (hdata : c.world.disk.trees placement.dataDirectory = some data)
    (hspared : ∀ tree ∈ c.debts.owed, Spared tar placement slot c data tree)
    (h : Remains tar c.world.now.exchange c.cut (placement.archivePath slot)
      placement.dataDirectory (placement.archivePath reservedSnapshotSlot) data c.world.disk disk) :
    Secure tar placement disk (c.debts.stopped (some data)) where
  owed tree htree := by
    rcases List.mem_cons.1 htree with rfl | htree
    · exact h.holds_data
    · exact h.holds hdata (hheld tree htree) (hspared tree htree)
  settled _ htree := by cases htree
  reserved hwhole := by cases hwhole

/-- An exchange that comes to its end leaves everything that was owed, and the data it found is
in the reserved slot. -/
theorem Secure.ended {disk : Disk Tree} {data : Tree}
    (hspared : ∀ tree ∈ c.debts.owed, Spared tar placement slot c data tree)
    (hoverwrites : c.world.now.exchange.overwrites tar c.cut
      (c.world.disk.files (placement.archivePath slot)) = true)
    (h : Placed tar (placement.archivePath slot) placement.dataDirectory
      (placement.archivePath reservedSnapshotSlot) data c.world.disk disk) :
    Secure tar placement disk (c.debts.ended (some data)) where
  owed tree htree := by
    rw [List.mem_singleton.1 htree]
    exact h.holds (.inl rfl)
  settled tree htree := h.holds ((hspared tree htree).overwriting hoverwrites)
  reserved _ tree htree := by
    rw [List.mem_singleton.1 htree]
    exact h.reserved

/-- A machine in the course of a return holds what is owed. -/
def Course.Secure (tar : Archiver Tree) (placement : Placement) (c : Course Tree) : Prop :=
  Auxiliary.Secure tar placement c.world.disk c.debts

theorem exchange_secure {data : Tree} {why : Bytes → Bytes}
    (hsecure : c.Secure tar placement)
    (hdata : c.world.disk.trees placement.dataDirectory = some data)
    (hspared : ∀ tree ∈ c.debts.owed, Spared tar placement slot c data tree) :
    Meets (machineUntil tar) (· = c)
      ((ask (.exchangeServiceData (placement.archivePath slot) placement.dataDirectory
        (placement.archivePath reservedSnapshotSlot))).reword why)
      (fun _ => Course.Secure tar placement) (Course.Secure tar placement) := by
  apply Meets.reword
  apply Meets.call
  rintro c rfl
  have hends : Ends _ (Remains tar c.world.now.exchange c.cut (placement.archivePath slot)
      placement.dataDirectory (placement.archivePath reservedSnapshotSlot) data c.world.disk)
      (Remains tar c.world.now.exchange c.cut (placement.archivePath slot)
        placement.dataDirectory (placement.archivePath reservedSnapshotSlot) data c.world.disk)
      (exchangeUntil tar c.world.now.exchange c.cut (placement.archivePath slot)
        placement.dataDirectory (placement.archivePath reservedSnapshotSlot) c.world.disk) :=
    exchangeUntil_ensures hdata (archivePath_ne_staged _ _ _) c.world.disk rfl
  show Settles _ _ (machineUntil tar (.exchangeServiceData ..) c).1
    (machineUntil tar (.exchangeServiceData ..) c).2
  unfold machineUntil
  dsimp only
  cases hrun : exchangeUntil tar c.world.now.exchange c.cut (placement.archivePath slot)
      placement.dataDirectory (placement.archivePath reservedSnapshotSlot) c.world.disk with
  | mk ending disk =>
      rw [hrun] at hends
      cases ending with
      | returned archive =>
          have hended := Secure.ended hspared hends.1 hends.2
          rw [← hdata] at hended
          exact hended
      | failed =>
          have hstopped := Secure.stopped hsecure.owed hdata hspared hends
          rw [← hdata] at hstopped
          exact hstopped
      | died =>
          have hstopped := Secure.stopped hsecure.owed hdata hspared hends
          rw [← hdata] at hstopped
          exact hstopped

/-- What comes after the exchange touches neither the data nor the archives. -/
theorem restart_secure {port : Int64} {active : Bool} :
    Meets (machineUntil tar) (Course.Secure tar placement)
      (restartAndProve placement active port) (fun _ => Course.Secure tar placement)
      (Course.Secure tar placement) := by
  apply Meets.whenever
  · intro _
    apply Meets.bind (m := fun _ => Course.Secure tar placement)
    · apply Meets.reword
      apply Meets.call
      intro c hsecure
      show Settles _ _ c.world.now.started c
      cases c.world.now.started <;> exact hsecure
    intro _
    apply Meets.reword
    apply Meets.call
    intro c hsecure
    show Settles _ _ c.world.now.answers c
    cases c.world.now.answers <;> exact hsecure
  · exact fun _ _ hsecure => hsecure

theorem ensureServiceData_secure (hsecure : c.Secure tar placement) :
    Meets (machineUntil tar) (· = c) (ensureServiceData placement)
      (fun _ s => c.world.now.ensured.isOk = true ∧
        s = { c with world := { c.world with
          disk := ensureDirectories tar placement.durableDirectories c.world.disk } })
      (Course.Secure tar placement) := by
  apply Meets.reword
  apply Meets.call
  rintro c rfl
  show Settles _ _ (machine tar (.ensureServiceData ..) c.world).1
    { c with world := (machine tar (.ensureServiceData ..) c.world).2 }
  unfold machine
  dsimp only
  cases c.world.now.ensured with
  | ok u => exact ⟨rfl, rfl⟩
  | error why => exact Secure.ensured _ hsecure

theorem returnData_secure {r : Return Tree} {disk : Disk Tree} {debts : Debts Tree} {port : Int64}
    (hbears : placement.bearsData = true) (hsecure : Secure tar placement disk debts)
    (hexamines : r.answers.examines (disk.files (placement.archivePath r.slot)) = true)
    (hspares : r.Spares tar placement ⟨disk, debts⟩) :
    Meets (machineUntil tar) (· = ⟨⟨disk, r.answers, []⟩, r.cut, debts⟩)
      (returnData (restoring placement r.slot) r.answers.running port)
      (fun _ => Course.Secure tar placement) (Course.Secure tar placement) := by
  unfold returnData
  apply Meets.bind (m := fun _ s => (!r.answers.running || r.answers.stopped.isOk) = true ∧
    s = ⟨⟨disk, r.answers, []⟩, r.cut, debts⟩)
  · apply Meets.whenever
    · intro hrunning
      apply Meets.reword
      apply Meets.call
      rintro _ rfl
      show Settles _ _ r.answers.stopped _
      cases hstopped : r.answers.stopped with
      | ok u => exact ⟨by simp, rfl⟩
      | error why => exact hsecure
    · rintro hstill _ rfl
      exact ⟨by simp [hstill], rfl⟩
  intro _
  apply Meets.each
  rintro _ ⟨hready, rfl⟩
  apply Meets.bind_of
  · exact ensureServiceData_secure hsecure
  intro _ hensured
  apply Meets.bind (m := fun _ => Course.Secure tar placement)
  · have hthere := ensureDirectories_mem tar (dataDirectory_mem hbears) disk
    have hdata := content_of_some tar hthere
    rw [ensureDirectories_content] at hdata
    have hreaches : r.reaches placement disk = true := by
      rw [Return.reaches, hexamines, hready, hensured]
      rfl
    have hensuredSecure : Course.Secure tar placement
        ⟨⟨ensureDirectories tar placement.durableDirectories disk, r.answers, []⟩, r.cut, debts⟩ :=
      Secure.ensured _ hsecure
    apply exchange_secure hensuredSecure hdata
    intro tree htree
    obtain ⟨hclearing, hoverwriting⟩ := hspares hreaches tree htree
    constructor
    · intro left hleft
      dsimp only
      rw [ensureDirectories_files]
      exact hclearing left hleft
    · dsimp only
      rw [ensureDirectories_files]
      exact hoverwriting
  intro kept
  apply Meets.bind restart_secure
  intro _
  apply Meets.bind (m := fun _ => Course.Secure tar placement)
  · apply Meets.reword
    apply Meets.call
    intro c hsecure
    show Settles _ _ c.world.now.archives c
    cases c.world.now.archives <;> exact hsecure
  intro slots
  exact Meets.pure fun _ h => h

theorem looks_restoreService (subject : Instance) :
    Looks Executor.mutates (restoreService subject) := by
  unfold restoreService
  apply Looks.bind (looks_requirePlacedService _)
  intro port
  apply Looks.bind (looks_during rfl)
  intro present
  apply Looks.bind (looks_refusal _ _)
  intro held
  apply Looks.bind (looks_during rfl)
  intro active
  exact Looks.done _

/-- Until an exchange is made, a machine that may be cut answers as any other. -/
theorem machineUntil_alike (cut : Option (Cut Tree)) (debts : Debts Tree) (call : Executor)
    (w : World Tree) (c : Course Tree) (hlooks : call.mutates = false)
    (h : c = ⟨w, cut, debts⟩) :
    (machineUntil tar call c).1 = (machine tar call w).1 ∧
      (machineUntil tar call c).2 = ⟨(machine tar call w).2, cut, debts⟩ := by
  subst h
  cases call with
  | exchangeServiceData archivePath dataDirectory reservedPath => cases hlooks
  | _ => exact ⟨rfl, rfl⟩

theorem examination_meets {r : Return Tree} {disk : Disk Tree} {debts : Debts Tree} :
    Meets (machineUntil tar) (· = ⟨⟨disk, r.answers, []⟩, r.cut, debts⟩)
      (restoreService (restoring placement r.slot))
      (fun examined s =>
        r.answers.examines (disk.files (placement.archivePath r.slot)) = true ∧
          s = ⟨⟨disk, r.answers, []⟩, r.cut, debts⟩ ∧
          ∃ port, examined = .effects (returnData (restoring placement r.slot) r.answers.running port))
      (· = ⟨⟨disk, r.answers, []⟩, r.cut, debts⟩) := by
  have hexamination : Meets (machine tar) (· = ⟨disk, r.answers, []⟩)
      (restoreService (restoring placement r.slot)) _ _ := restoreService_meets
  have hmeets := Looks.transfer (machineUntil_alike r.cut debts) (looks_restoreService _)
    hexamination
  apply hmeets.weaken
  · rintro _ rfl
    exact ⟨_, rfl, rfl⟩
  · rintro examined _ ⟨_, rfl, hexamines, rfl, port, -, rfl⟩
    exact ⟨hexamines, rfl, port, rfl⟩
  · rintro _ ⟨_, rfl, -, rfl⟩
    rfl

theorem return_secure {r : Return Tree} {s : Site Tree} (hbears : placement.bearsData = true)
    (hsecure : Secure tar placement s.disk s.debts) (hspares : r.Spares tar placement s) :
    Secure tar placement (returnOnce tar placement s r).1.disk
      (returnOnce tar placement s r).1.debts := by
  have hleads : Leads (machineUntil tar) (· = ⟨⟨s.disk, r.answers, []⟩, r.cut, s.debts⟩)
      (carriedOut (restoreService (restoring placement r.slot)))
      (fun _ => Course.Secure tar placement) := by
    refine Leads.next examination_meets ?_
    intro examined
    cases examined with
    | error why =>
        apply Leads.done
        rintro _ rfl
        exact hsecure
    | ok examined =>
        apply Leads.each
        rintro _ ⟨hexamines, rfl, port, rfl⟩
        refine Leads.next (returnData_secure hbears hsecure hexamines hspares) ?_
        intro ending
        cases ending with
        | ok application => exact Leads.done fun _ h => h
        | error why => exact Leads.done fun _ h => h
  exact hleads _ rfl

theorem runOn_secure {s : Site Tree} (tree : Tree) (h : Secure tar placement s.disk s.debts) :
    Secure tar placement (runOn placement s tree).disk (runOn placement s tree).debts := by
  unfold runOn
  split
  · rename_i hwhole
    constructor
    · intro owed howed
      exact .inr (.inl (h.reserved hwhole owed howed))
    · exact fun _ hno => by cases hno
    · exact h.reserved
  · exact h

end Secured

/-- A machine on which nothing is owed. -/
def Site.fresh (disk : Disk Tree) : Site Tree := ⟨disk, ⟨[], [], true⟩⟩

/-- A machine that cannot put the returned data in its place. -/
def immovable : Answers Bytes :=
  { soundAnswers with exchange := { soundAnswers.exchange with putInPlace := false } }

/-- Data, and an archive of it in a slot a human names. -/
def diskWithArchive : Disk Bytes where
  trees path := if path = vaultwardenDataDirectory then some (text "today") else none
  files path :=
    if path = vaultwardenPlacement.archivePath (text "kept") then some (text "kept") else none

/-- A return that stops with the data set aside, and the return after it, which is cut as soon as
it has cleared what was set aside. -/
def asideEvents : List (Happening Bytes) :=
  [.returns ⟨text "kept", immovable, none⟩,
    .returns ⟨text "kept", soundAnswers, some ⟨.makeRestoring, none, none⟩⟩]

def asideRun : Site Bytes :=
  run (happen plainArchiver vaultwardenPlacement) (.fresh diskWithArchive) asideEvents

/-- A return cut before it touched the data, the return after it, a service that runs on, and a
return that is cut once it has written the reserved slot. -/
def sparingEvents : List (Happening Bytes) :=
  [.returns ⟨text "kept", soundAnswers, some ⟨.extract, some (text "half"), none⟩⟩,
    .returns ⟨text "kept", soundAnswers, none⟩,
    .runs (text "tomorrow"),
    .returns ⟨reservedSnapshotSlot, soundAnswers, some ⟨.removeReplaced, some (text "half"), none⟩⟩]

instance (r : Return Bytes) (placement : Placement) (s : Site Bytes) :
    Decidable (r.Spares plainArchiver placement s) :=
  inferInstanceAs (Decidable (_ = true → ∀ tree ∈ _, _ ∧ _))

instance (placement : Placement) (s : Site Bytes) :
    (event : Happening Bytes) → Decidable (Sparing plainArchiver placement s event)
  | .returns r => inferInstanceAs (Decidable (r.Spares plainArchiver placement s))
  | .runs _ => inferInstanceAs (Decidable True)

end YourCloud.Auxiliary
