import Mathlib.Logic.Function.Basic
import YourCloud.Foundation.Program
import YourCloud.Foundation.Run

/-!
# The vault of the App

The vault is two files: the metadata, which name a snapshot and the salt its
key is derived with, and the snapshot, which opens with that key and holds the
document.  A commit replaces the snapshot in place; a change of phrase writes
another snapshot, names it in the metadata and removes the one that lost.

Every step of the two can fail or be the last one.  A replacement is atomic, and
a snapshot that was written whole opens with its key.

## Main results

* `commitDocument_ensures`, `confirmPhraseChange_ensures` — what each of the two
  leaves behind, wherever it stops.
* `vault_run` — in every run whose steps all meet `Settled`, the vault opens with
  exactly one phrase and holds a committed document, and every answer says what
  became of it.
-/

namespace YourCloud.App

open YourCloud.Foundation

namespace Vault

-- The canonical phrases, the salts, the keys and the documents.
variable {φ ς κ δ : Type}

/-! ## What is on the disk -/

/-- The name of a snapshot, or of what will become one.  Its identifier is
random, which is to say that it was not drawn before. -/
inductive Name where
  | snapshot (identifier : Nat)
  | temporary (identifier : Nat)
  deriving DecidableEq, Repr

def Name.identifier : Name → Nat
  | snapshot identifier => identifier
  | temporary identifier => identifier

/-- What a snapshot file holds. -/
inductive File (κ δ : Type) where
  | torn
  | whole (key : κ) (document : δ)
  deriving DecidableEq, Repr

/-- `vault.json`, as far as it is not constant. -/
structure Metadata (ς : Type) where
  salt : ς
  snapshot : Name
  deriving DecidableEq, Repr

structure Directory (ς κ δ : Type) where
  metadata : Option (Metadata ς)
  files : Name → Option (File κ δ)
  /-- How many identifiers were drawn. -/
  drawn : Nat

/-! ## What is in memory -/

structure UnlockedVault (κ δ : Type) where
  /-- The store of the client, and what the client was last written with. -/
  store : δ
  saved : δ
  snapshotKey : κ
  snapshotPath : Name
  document : δ
  deriving DecidableEq, Repr

structure PendingPhraseChange (φ : Type) where
  generationID : Nat
  phrase : φ
  deriving DecidableEq, Repr

structure AppCore (φ ς κ δ : Type) where
  directory : Directory ς κ δ
  pendingPhraseChange : Option (PendingPhraseChange φ)
  unlocked : Option (UnlockedVault κ δ)

namespace AppCore

def setFile (core : AppCore φ ς κ δ) (name : Name) (file : Option (File κ δ)) :
    AppCore φ ς κ δ :=
  { core with
    directory := { core.directory with files := Function.update core.directory.files name file } }

@[simp] theorem setFile_same (core : AppCore φ ς κ δ) (name : Name) (file : Option (File κ δ)) :
    (core.setFile name file).directory.files name = file := Function.update_self ..

@[simp] theorem setFile_of_ne (core : AppCore φ ς κ δ) {name other : Name} (h : other ≠ name)
    (file : Option (File κ δ)) :
    (core.setFile name file).directory.files other = core.directory.files other :=
  Function.update_of_ne h ..

def setUnlocked (core : AppCore φ ς κ δ) (f : UnlockedVault κ δ → UnlockedVault κ δ) :
    AppCore φ ς κ δ :=
  { core with unlocked := core.unlocked.map f }

/-- A process that ended keeps what is on the disk. -/
def dead (core : AppCore φ ς κ δ) : AppCore φ ς κ δ :=
  { core with pendingPhraseChange := none, unlocked := none }

end AppCore

/-! ## Steps on the files -/

/-- A random identifier. -/
def draw : Program (AppCore φ ς κ δ) Nat := fun core =>
  (.returned core.directory.drawn,
    { core with directory := { core.directory with drawn := core.directory.drawn + 1 } })

/-- The store written to a file under a key; where it stops, anything can be
left in the file. -/
def writeSnapshot (v : Verdict) (left : Option (File κ δ)) (name : Name) (key : κ) :
    Program (AppCore φ ς κ δ) Unit :=
  .torn v (fun core => core.setFile name left) fun core =>
    core.setFile name (core.unlocked.map fun unlocked => .whole key unlocked.saved)

def removeFile (v : Verdict) (name : Name) : Program (AppCore φ ς κ δ) Unit :=
  .effect v fun core => core.setFile name none

def renameFile (v : Verdict) (source target : Name) : Program (AppCore φ ς κ δ) Unit :=
  .effect v fun core => (core.setFile target (core.directory.files source)).setFile source none

/-- The metadata replaced: the temporary file written, renamed, and the directory
synchronised. -/
def writeMetadataAtomic (written renamed synchronised : Verdict) (metadata : Metadata ς) :
    Program (AppCore φ ς κ δ) Unit := do
  .call written
  .effect renamed fun core =>
    { core with directory := { core.directory with metadata := some metadata } }
  .call synchronised

def readMetadata (v : Verdict) : Program (AppCore φ ς κ δ) (Metadata ς) := do
  .call v
  .ask fun core => core.directory.metadata

section Programs

variable [DecidableEq φ] [DecidableEq κ] [DecidableEq δ]

-- The key a phrase and a salt derive, and the documents whose encoding is past
-- the bound of a snapshot.
variable (derive : φ → ς → κ) (oversized : δ → Bool)

/-- Whether a snapshot opens with a key and holds a document; it reads as one
that does not where it cannot be read. -/
def snapshotContains (v : Verdict) (name : Name) (key : κ) (expected : δ) :
    Program (AppCore φ ς κ δ) Bool := do
  match ← Program.attempt (.call v) with
  | none => return false
  | some _ =>
      .ask fun core => some (decide (core.directory.files name = some (.whole key expected)))

/-! ## Committing a document -/

/-- What the steps of a commit meet. -/
structure CommitFaults (κ δ : Type) where
  client : Verdict
  insert : Verdict
  writeClient : Verdict
  commit : Verdict
  left : Option (File κ δ)
  mode : Verdict
  verify : Verdict
  rename : Verdict
  sync : Verdict
  restoreStore : Verdict
  restoreClient : Verdict
  removeTemporary : Verdict

/-- The directory cannot be synchronised once the snapshot was replaced. -/
def CommitFaults.lost (faults : CommitFaults κ δ) : Prop :=
  faults.client = .done ∧ faults.insert = .done ∧ faults.writeClient = .done ∧
    faults.commit = .done ∧ faults.mode = .done ∧ faults.verify = .done ∧
    faults.rename = .done ∧ faults.sync = .fails

/-- The previous document put back in the store, as far as that succeeds. -/
def restore (faults : CommitFaults κ δ) (previous : δ) : Program (AppCore φ ς κ δ) Unit := do
  let _ ← Program.attempt (.effect faults.restoreStore fun core =>
    core.setUnlocked fun unlocked => { unlocked with store := previous })
  let _ ← Program.attempt (.effect faults.restoreClient fun core =>
    core.setUnlocked fun unlocked => { unlocked with saved := unlocked.store })

/-- The same, and the temporary file removed. -/
def restoreAndRemove (faults : CommitFaults κ δ) (previous : δ) (temporary : Name) :
    Program (AppCore φ ς κ δ) Unit := do
  restore faults previous
  let _ ← Program.attempt (removeFile faults.removeTemporary temporary)

def commitDocument (faults : CommitFaults κ δ) (candidate : δ) :
    Program (AppCore φ ς κ δ) Unit := do
  let unlocked ← Program.ask fun core => core.unlocked
  .check (!oversized candidate)
  .call faults.client
  .effect faults.insert fun core =>
    core.setUnlocked fun unlocked => { unlocked with store := candidate }
  Program.otherwise
    (.effect faults.writeClient fun core =>
      core.setUnlocked fun unlocked => { unlocked with saved := unlocked.store })
    (restore faults unlocked.document)
  let identifier ← draw
  let temporary := Name.temporary identifier
  Program.otherwise
    (do
      writeSnapshot faults.commit faults.left temporary unlocked.snapshotKey
      .call faults.mode)
    (restoreAndRemove faults unlocked.document temporary)
  Program.otherwise
    (do
      let verified ← snapshotContains faults.verify temporary unlocked.snapshotKey candidate
      .check verified)
    (restoreAndRemove faults unlocked.document temporary)
  Program.otherwise (renameFile faults.rename temporary unlocked.snapshotPath)
    (restoreAndRemove faults unlocked.document temporary)
  .effect .done fun core =>
    core.setUnlocked fun unlocked => { unlocked with document := candidate }
  .call faults.sync

/-! ## Changing the phrase -/

/-- What the steps of a change of phrase meet. -/
structure PhraseFaults (κ δ : Type) where
  read : Verdict
  commit : Verdict
  left : Option (File κ δ)
  mode : Verdict
  verify : Verdict
  removeTemporary : Verdict
  rename : Verdict
  sync : Verdict
  writeMetadata : Verdict
  renameMetadata : Verdict
  syncMetadata : Verdict
  readBack : Verdict
  removeNext : Verdict
  removePrevious : Verdict
  syncRemoval : Verdict

/-- The next snapshot gets under its name. -/
def PhraseFaults.written (faults : PhraseFaults κ δ) : Prop :=
  faults.commit = .done ∧ faults.mode = .done ∧ faults.verify = .done ∧
    faults.rename = .done ∧ faults.sync = .done

/-- The metadata name it, and the process lives to see it. -/
def PhraseFaults.published (faults : PhraseFaults κ δ) : Prop :=
  faults.writeMetadata = .done ∧ faults.renameMetadata = .done ∧ faults.syncMetadata ≠ .dies

/-- A step fails once the metadata were replaced: reading them back, or removing
the snapshot that lost. -/
def PhraseFaults.lost (faults : PhraseFaults κ δ) : Prop :=
  faults.read = .done ∧ faults.written ∧ faults.published ∧
    (faults.readBack = .fails ∧ faults.removeNext ≠ .dies ∨
      faults.readBack = .done ∧ (faults.removePrevious = .fails ∨
        faults.removePrevious = .done ∧ faults.syncRemoval = .fails))

/-- The store written under the next key to a snapshot of its own. -/
def writeNextSnapshot (faults : PhraseFaults κ δ) (nextKey : κ) (document : δ) :
    Program (AppCore φ ς κ δ) Name := do
  let identifier ← draw
  let nextSnapshot := Name.snapshot identifier
  let identifier ← draw
  let temporary := Name.temporary identifier
  writeSnapshot faults.commit faults.left temporary nextKey
  .call faults.mode
  Program.otherwise
    (do
      let verified ← snapshotContains faults.verify temporary nextKey document
      .check verified)
    (do let _ ← Program.attempt (removeFile faults.removeTemporary temporary))
  renameFile faults.rename temporary nextSnapshot
  .call faults.sync
  return nextSnapshot

/-- The metadata replaced; what is read back decides whether they were. -/
def publishMetadata (faults : PhraseFaults κ δ) (next : Metadata ς) :
    Program (AppCore φ ς κ δ) Unit := do
  let _ ← Program.attempt
    (writeMetadataAtomic faults.writeMetadata faults.renameMetadata faults.syncMetadata next)
  let published ← Program.attempt (readMetadata faults.readBack)
  Program.otherwise
    (.check (decide (published.map Metadata.snapshot = some next.snapshot)))
    (do let _ ← Program.attempt (removeFile faults.removeNext next.snapshot))

def confirmPhraseChange (faults : PhraseFaults κ δ) (generationID : Nat) (currentPhrase : φ)
    (newPhrase : φ) (nextSalt : ς) : Program (AppCore φ ς κ δ) Unit := do
  let pending ← Program.ask fun core => core.pendingPhraseChange
  .check (decide (pending.generationID = generationID ∧ pending.phrase = newPhrase))
  let metadata ← readMetadata faults.read
  .check (decide (currentPhrase ≠ newPhrase))
  let unlocked ← Program.ask fun core => core.unlocked
  .check (decide (derive currentPhrase metadata.salt = unlocked.snapshotKey))
  let nextKey := derive newPhrase nextSalt
  let nextSnapshot ← writeNextSnapshot faults nextKey unlocked.document
  publishMetadata faults ⟨nextSalt, nextSnapshot⟩
  .effect .done fun core =>
    { core.setUnlocked fun unlocked =>
        { unlocked with snapshotPath := nextSnapshot, snapshotKey := nextKey } with
      pendingPhraseChange := none }
  if unlocked.snapshotPath ≠ nextSnapshot then
    removeFile faults.removePrevious unlocked.snapshotPath
    .call faults.syncRemoval

/-- The phrase of a change to come, generated for an open vault. -/
def preparePhraseChange (pending : PendingPhraseChange φ) : Program (AppCore φ ς κ δ) Unit := do
  let _ ← Program.ask fun core => core.unlocked
  .effect .done fun core => { core with pendingPhraseChange := some pending }

/-! ## Opening -/

-- The documents that pass their own check.
variable (valid : δ → Bool)

/-- The document of the vault in memory, when a phrase opens it; a vault that is
open stays as it is. -/
def unlock (metadataRead snapshotRead : Verdict) (phrase : φ) :
    Program (AppCore φ ς κ δ) Unit := do
  if (← Program.ask fun core => some core.unlocked.isNone) then
    let metadata ← readMetadata metadataRead
    let key := derive phrase metadata.salt
    .call snapshotRead
    let document ← Program.ask fun core =>
      match core.directory.files metadata.snapshot with
      | some (.whole written document) => if written = key then some document else none
      | _ => none
    .check (valid document)
    .effect .done fun core =>
      { core with unlocked := some ⟨document, document, key, metadata.snapshot, document⟩ }

/-- What a phrase opens a vault on, where nothing fails. -/
def opensOn (phrase : φ) (directory : Directory ς κ δ) : Option δ :=
  (unlock derive valid .done .done phrase ⟨directory, none, none⟩).2.unlocked.map
    UnlockedVault.document

end Programs

/-! ## What the steps keep -/

section Keep

variable (derive : φ → ς → κ) (valid : δ → Bool)

/-- A phrase and the document it opens the vault on. -/
structure Opens (phrase : φ) (document : δ) (directory : Directory ς κ δ) : Prop where
  named : ∃ salt identifier, directory.metadata = some ⟨salt, .snapshot identifier⟩ ∧
    directory.files (.snapshot identifier) = some (.whole (derive phrase salt) document)
  valid : valid document = true

/-- The disk holds a document that a phrase opens, and has no file under a name
still to be drawn. -/
structure Stored (phrase : φ) (document : δ) (directory : Directory ς κ δ) : Prop extends
    Opens derive valid phrase document directory where
  fresh : ∀ identifier, directory.drawn ≤ identifier →
    directory.files (.snapshot identifier) = none

/-- What is in memory is about the snapshot on the disk; its document is one of
its own while the two are out of step. -/
structure Agrees (phrase : φ) (document remembered : δ) (core : AppCore φ ς κ δ) : Prop where
  stored : Stored derive valid phrase document core.directory
  memory : ∀ unlocked, core.unlocked = some unlocked →
    ∃ salt identifier, core.directory.metadata = some ⟨salt, .snapshot identifier⟩ ∧
      unlocked.snapshotPath = .snapshot identifier ∧
      unlocked.snapshotKey = derive phrase salt ∧ unlocked.document = remembered

/-- The disk and the memory hold the same document. -/
abbrev Synced (phrase : φ) (document : δ) (core : AppCore φ ς κ δ) : Prop :=
  Agrees derive valid phrase document document core

variable {derive valid} {phrase : φ} {document remembered : δ} {core : AppCore φ ς κ δ}

theorem Agrees.setTemporary (h : Agrees derive valid phrase document remembered core)
    (identifier : Nat) (file : Option (File κ δ)) :
    Agrees derive valid phrase document remembered
      (core.setFile (.temporary identifier) file) := by
  obtain ⟨⟨⟨⟨salt, named, hmetadata, hfile⟩, hvalid⟩, hfresh⟩, hmemory⟩ := h
  have hother : ∀ id, (core.setFile (.temporary identifier) file).directory.files (.snapshot id) =
      core.directory.files (.snapshot id) :=
    fun id => core.setFile_of_ne Name.noConfusion file
  exact ⟨⟨⟨⟨salt, named, hmetadata, (hother named).trans hfile⟩, hvalid⟩,
    fun id hid => (hother id).trans (hfresh id hid)⟩, hmemory⟩

/-- The store of the client is no part of what the memory is about. -/
theorem Agrees.setStore (h : Agrees derive valid phrase document remembered core)
    (store saved : UnlockedVault κ δ → δ) :
    Agrees derive valid phrase document remembered
      (core.setUnlocked fun u => { u with store := store u, saved := saved u }) := by
  refine ⟨h.stored, fun unlocked hu => ?_⟩
  obtain ⟨u, hold, rfl⟩ := Option.map_eq_some_iff.1 hu
  exact h.memory u hold

/-- A fresh identifier names nothing. -/
theorem Agrees.draw (h : Agrees derive valid phrase document remembered core) :
    Agrees derive valid phrase document remembered
      { core with directory := { core.directory with drawn := core.directory.drawn + 1 } } :=
  ⟨⟨⟨h.stored.named, h.stored.valid⟩, fun id hid => h.stored.fresh id (Nat.le_of_succ_le hid)⟩, h.memory⟩

/-- A file under a name that the metadata do not have. -/
theorem Agrees.setSnapshot (h : Agrees derive valid phrase document remembered core)
    {identifier : Nat} (hnamed : ∀ salt, core.directory.metadata ≠ some ⟨salt, .snapshot identifier⟩)
    {file : Option (File κ δ)} (hdrawn : core.directory.drawn ≤ identifier → file = none) :
    Agrees derive valid phrase document remembered
      (core.setFile (.snapshot identifier) file) := by
  obtain ⟨salt, named, hmetadata, hfile⟩ := h.stored.named
  have hne : Name.snapshot named ≠ .snapshot identifier := by
    intro heq
    rw [heq] at hmetadata
    exact hnamed salt hmetadata
  refine ⟨⟨⟨⟨salt, named, hmetadata, (core.setFile_of_ne hne file).trans hfile⟩, h.stored.valid⟩,
    fun id hid => ?_⟩, h.memory⟩
  by_cases heq : id = identifier
  · rw [heq] at hid ⊢
    exact (core.setFile_same _ file).trans (hdrawn hid)
  · exact (core.setFile_of_ne (fun hname => heq (Name.snapshot.inj hname)) file).trans
      (h.stored.fresh id hid)

/-- The same, with the vault open on a path and a key. -/
structure Working (derive : φ → ς → κ) (valid : δ → Bool) (path : Name) (key : κ) (phrase : φ)
    (document remembered : δ) (core : AppCore φ ς κ δ) : Prop extends
    Agrees derive valid phrase document remembered core where
  held : ∃ unlocked, core.unlocked = some unlocked ∧ unlocked.snapshotPath = path ∧
    unlocked.snapshotKey = key

variable {path : Name} {key : κ}

theorem Working.setTemporary (h : Working derive valid path key phrase document remembered core)
    (identifier : Nat) (file : Option (File κ δ)) :
    Working derive valid path key phrase document remembered
      (core.setFile (.temporary identifier) file) :=
  ⟨h.toAgrees.setTemporary identifier file, h.held⟩

theorem Working.setStore (h : Working derive valid path key phrase document remembered core)
    (store saved : UnlockedVault κ δ → δ) :
    Working derive valid path key phrase document remembered
      (core.setUnlocked fun u => { u with store := store u, saved := saved u }) := by
  refine ⟨h.toAgrees.setStore store saved, ?_⟩
  obtain ⟨u, hu, hpath, hkey⟩ := h.held
  refine ⟨{ u with store := store u, saved := saved u }, ?_, hpath, hkey⟩
  show core.unlocked.map _ = _
  rw [hu]
  rfl

/-- The snapshot the vault is open on is the one the metadata name. -/
theorem Working.named (h : Working derive valid path key phrase document remembered core) :
    ∃ salt identifier, path = .snapshot identifier ∧ key = derive phrase salt ∧
      core.directory.metadata = some ⟨salt, .snapshot identifier⟩ ∧
      core.directory.files path = some (.whole key document) := by
  obtain ⟨u, hu, rfl, rfl⟩ := h.held
  obtain ⟨salt, identifier, hmetadata, hpath, hkey, -⟩ := h.memory u hu
  obtain ⟨salt', identifier', hmetadata', hfile⟩ := h.stored.named
  obtain ⟨rfl, hname⟩ := Metadata.mk.inj (Option.some.inj (hmetadata.symm.trans hmetadata'))
  refine ⟨salt, identifier, hpath, hkey, hmetadata, ?_⟩
  rw [hpath, hkey, hname]
  exact hfile

/-- Another document in the snapshot, of which the memory does not know yet. -/
theorem Working.replace (h : Working derive valid path key phrase document remembered core)
    {candidate : δ} (hvalid : valid candidate = true) :
    Working derive valid path key phrase candidate remembered
      (core.setFile path (some (.whole key candidate))) := by
  obtain ⟨salt, identifier, rfl, rfl, hmetadata, -⟩ := h.named
  refine ⟨⟨⟨⟨⟨salt, identifier, hmetadata, core.setFile_same _ _⟩, hvalid⟩, fun id hid => ?_⟩,
    h.memory⟩, h.held⟩
  have hne : Name.snapshot id ≠ .snapshot identifier := by
    intro heq
    obtain ⟨salt', identifier', hmetadata', hfile⟩ := h.stored.named
    obtain ⟨-, hname⟩ := Metadata.mk.inj (Option.some.inj (hmetadata.symm.trans hmetadata'))
    have hfresh := h.stored.fresh id hid
    rw [heq, hname, hfile] at hfresh
    cases hfresh
  exact (core.setFile_of_ne hne _).trans (h.stored.fresh id hid)

/-- The memory catches up with the disk. -/
theorem Working.remember (h : Working derive valid path key phrase document remembered core) :
    Working derive valid path key phrase document document
      (core.setUnlocked fun unlocked => { unlocked with document }) := by
  obtain ⟨u, hu, rfl, rfl⟩ := h.held
  refine ⟨⟨h.stored, fun unlocked hnew => ?_⟩, { u with document }, ?_, rfl, rfl⟩
  · obtain ⟨v, hv, rfl⟩ := Option.map_eq_some_iff.1 hnew
    obtain ⟨salt, identifier, hmetadata, hpath, hkey, -⟩ := h.memory v hv
    exact ⟨salt, identifier, hmetadata, hpath, hkey, rfl⟩
  · show core.unlocked.map _ = _
    rw [hu]
    rfl

end Keep

/-! ## What a commit leaves behind -/

section Commit

variable [DecidableEq κ] [DecidableEq δ]
variable {derive : φ → ς → κ} {oversized valid : δ → Bool} {phrase : φ} {document : δ}
variable {path : Name} {key : κ}

/-- A commit gets past its own checks, and is one of another document. -/
def Replaces (oversized : δ → Bool) (candidate : δ) (core : AppCore φ ς κ δ) : Prop :=
  oversized candidate = false ∧
    ∃ unlocked, core.unlocked = some unlocked ∧ candidate ≠ unlocked.document

/-- Where a commit died: on the document before it or on its candidate. -/
def Cut (derive : φ → ς → κ) (valid : δ → Bool) (phrase : φ) (document candidate : δ)
    (core : AppCore φ ς κ δ) : Prop :=
  Stored derive valid phrase document core.directory ∨
    Stored derive valid phrase candidate core.directory

omit [DecidableEq κ] [DecidableEq δ] in
theorem draw_ensures {pre failed died : AppCore φ ς κ δ → Prop}
    (hkeep : ∀ core, pre core → pre
      { core with directory := { core.directory with drawn := core.directory.drawn + 1 } }) :
    Ensures pre draw (fun _ => pre) failed died :=
  hkeep

/-- A snapshot that verified holds what was expected of it. -/
theorem snapshotContains_ensures {pre failed died : AppCore φ ς κ δ → Prop} (v : Verdict)
    (name : Name) (key : κ) (expected : δ) (hdied : ∀ core, pre core → died core) :
    Ensures pre (snapshotContains v name key expected)
      (fun verified core => pre core ∧ (verified = true → v = .done ∧
        core.directory.files name = some (.whole key expected))) failed died := by
  refine Ensures.bind (Ensures.attempt (m := fun _ core => pre core ∧ v = .done)
    (Ensures.call (fun _ h hv => ⟨h, hv⟩) (fun _ h _ => h) fun core h _ => hdied core h))
    fun read => ?_
  cases read with
  | none => exact Ensures.pure fun _ h => ⟨h, fun hf => by cases hf⟩
  | some u =>
      intro core h
      exact ⟨h.1, fun hverified => ⟨h.2, of_decide_eq_true hverified⟩⟩

/-- What is verified before it is renamed, and removed where it does not hold what
is expected of it. -/
theorem verify_ensures {pre failed died : AppCore φ ς κ δ → Prop} {cleanup : Program _ Unit}
    (v : Verdict) (name : Name) (key : κ) (expected : δ) (hdied : ∀ core, pre core → died core)
    (hclean : Ensures pre cleanup (fun _ => failed) failed died) :
    Ensures pre
      (Program.otherwise
        (do
          let verified ← snapshotContains v name key expected
          .check verified) cleanup)
      (fun _ core => v = .done ∧ pre core ∧
        core.directory.files name = some (.whole key expected)) failed died :=
  Ensures.otherwise (Ensures.bind (snapshotContains_ensures v name key expected hdied)
    fun _ => Ensures.check (fun _ h hv => ⟨(h.2 hv).1, h.1, (h.2 hv).2⟩) fun _ h _ => h.1) hclean

omit [DecidableEq κ] [DecidableEq δ] in
/-- A step on the store of the client alone. -/
theorem store_ensures {document remembered : δ} (v : Verdict)
    (store saved : UnlockedVault κ δ → δ) {died : AppCore φ ς κ δ → Prop}
    (hdied : ∀ core, Working derive valid path key phrase document remembered core → died core) :
    Ensures (Working derive valid path key phrase document remembered)
      (Program.effect v fun core =>
        core.setUnlocked fun u => { u with store := store u, saved := saved u })
      (fun _ core => v = .done ∧ Working derive valid path key phrase document remembered core)
      (Working derive valid path key phrase document remembered) died :=
  Ensures.effect (fun _ h hv => ⟨hv, h.setStore store saved⟩) (fun _ h _ => h)
    fun core h _ => hdied core h

omit [DecidableEq κ] [DecidableEq δ] in
theorem restore_ensures (faults : CommitFaults κ δ) (previous : δ)
    {died : AppCore φ ς κ δ → Prop}
    (hdied : ∀ core, Working derive valid path key phrase document document core → died core) :
    Ensures (Working derive valid path key phrase document document) (restore faults previous)
      (fun _ => Working derive valid path key phrase document document)
      (Working derive valid path key phrase document document) died := by
  refine Ensures.bind (Ensures.attempt_keep ?_) fun _ => Ensures.bind (Ensures.attempt_keep ?_)
    fun _ => Ensures.pure fun _ h => h
  · exact (store_ensures _ (fun _ => previous) UnlockedVault.saved hdied).weaken
      (fun _ h => h) (fun _ _ h => h.2) (fun _ h => h) fun _ h => h
  · exact (store_ensures _ UnlockedVault.store UnlockedVault.store hdied).weaken
      (fun _ h => h) (fun _ _ h => h.2) (fun _ h => h) fun _ h => h

omit [DecidableEq κ] [DecidableEq δ] in
theorem restoreAndRemove_ensures (faults : CommitFaults κ δ) (previous : δ) (identifier : Nat)
    {died : AppCore φ ς κ δ → Prop}
    (hdied : ∀ core, Working derive valid path key phrase document document core → died core) :
    Ensures (Working derive valid path key phrase document document)
      (restoreAndRemove faults previous (.temporary identifier))
      (fun _ => Working derive valid path key phrase document document)
      (Working derive valid path key phrase document document) died := by
  refine Ensures.bind (restore_ensures faults previous hdied) fun _ =>
    Ensures.bind (Ensures.attempt_keep ?_) fun _ => Ensures.pure fun _ h => h
  exact Ensures.effect (fun _ h _ => h.setTemporary identifier none) (fun _ h _ => h)
    (fun _ h _ => hdied _ h)

/-- A commit that returned holds its candidate, and one that failed the document
before it, in memory and on the disk, unless the directory cannot be synchronised
after the rename. -/
theorem commitDocument_ensures (faults : CommitFaults κ δ) {candidate : δ}
    (hvalid : valid candidate = true) :
    Ensures (fun core => Synced derive valid phrase document core ∧
        (faults.lost → ¬ Replaces oversized candidate core))
      (commitDocument oversized faults candidate)
      (fun _ => Synced derive valid phrase candidate) (Synced derive valid phrase document)
      (Cut derive valid phrase document candidate) := by
  unfold commitDocument
  -- What is read of an open vault is its path, its key and its document.
  refine Ensures.bind_of (q := fun unlocked => unlocked.document = document ∧
      (faults.lost → oversized candidate = true ∨ candidate = unlocked.document))
    (m := fun unlocked => Working derive valid unlocked.snapshotPath unlocked.snapshotKey phrase
      document document) (Ensures.ask (fun core unlocked h hu => ?_) fun _ h _ => h.1)
    fun unlocked hopen => ?_
  · obtain ⟨salt, identifier, -, -, -, hdocument⟩ := h.1.memory unlocked hu
    refine ⟨⟨hdocument, fun hlost => ?_⟩, h.1, unlocked, hu, rfl, rfl⟩
    by_contra hother
    obtain ⟨hbound, hother⟩ := not_or.1 hother
    exact h.2 hlost ⟨Bool.eq_false_iff.2 hbound, unlocked, hu, hother⟩
  obtain ⟨rfl, hsettled⟩ := hopen
  -- Up to the rename, whatever fails leaves everything as it was.
  let kept := Working derive valid (φ := φ) unlocked.snapshotPath unlocked.snapshotKey phrase
    unlocked.document unlocked.document
  refine Ensures.weaken (m := fun _ => Working derive valid unlocked.snapshotPath
    unlocked.snapshotKey phrase candidate candidate) ?_ (fun _ h => h) (fun _ _ h => h.toAgrees)
    (fun core (h : kept core) => h.toAgrees) fun _ h => h
  have hdied : ∀ core, kept core → Cut derive valid phrase unlocked.document candidate core :=
    fun _ h => Or.inl h.stored
  have hstep : ∀ v, Ensures kept (Program.call v) (fun _ core => v = .done ∧ kept core) kept
      (Cut derive valid phrase unlocked.document candidate) := fun v =>
    Ensures.call (fun _ h hv => ⟨hv, h⟩) (fun _ h _ => h) fun core h _ => hdied core h
  refine Ensures.bind_of (q := fun _ => (!oversized candidate) = true) (m := fun _ => kept)
    (Ensures.check (fun _ h hbound => ⟨hbound, h⟩) fun _ h _ => h) fun _ hbound => ?_
  refine Ensures.bind_of (hstep faults.client) fun _ hclient => ?_
  refine Ensures.bind_of (store_ensures faults.insert (fun _ => candidate) UnlockedVault.saved
    hdied) fun _ hinsert => ?_
  refine Ensures.bind_of (Ensures.otherwise
    (store_ensures faults.writeClient UnlockedVault.store UnlockedVault.store hdied)
    (restore_ensures faults _ hdied)) fun _ hwriteClient => ?_
  refine Ensures.bind (draw_ensures fun _ h => ⟨h.toAgrees.draw, h.held⟩) fun identifier => ?_
  have hclean := restoreAndRemove_ensures faults unlocked.document identifier hdied
  refine Ensures.bind_of (q := fun _ => faults.commit = .done ∧ faults.mode = .done) (m := fun _ => kept)
    (Ensures.otherwise (Ensures.bind_of (q := fun _ => faults.commit = .done)
      (m := fun _ => kept) (Ensures.torn (fun _ h hv => ⟨hv, h.setTemporary identifier _⟩) (fun _ h => h.setTemporary identifier _)
      fun core h => hdied _ (h.setTemporary identifier _)) fun _ hcommit =>
        (hstep faults.mode).weaken (fun _ h => h) (fun _ _ h => ⟨⟨hcommit, h.1⟩, h.2⟩)
          (fun _ h => h) fun _ h => h) hclean) fun _ hwritten => ?_
  refine Ensures.bind_of (verify_ensures faults.verify _ _ _ hdied hclean) fun _ hverify => ?_
  refine Ensures.bind_of (q := fun _ => faults.rename = .done) (m := fun _ => Working derive valid
    unlocked.snapshotPath unlocked.snapshotKey phrase candidate unlocked.document) (Ensures.otherwise (Ensures.effect
    (fun core h hv => ⟨hv, ?_⟩) (fun _ h _ => h.1) fun core h _ => hdied core h.1)
    hclean) fun _ hrename => ?_
  · rw [h.2]
    exact (h.1.replace hvalid).setTemporary identifier none
  refine Ensures.bind (m := fun _ => Working derive valid unlocked.snapshotPath
    unlocked.snapshotKey phrase candidate candidate) (Ensures.effect (fun _ h _ => h.remember)
    (fun _ _ hv => by cases hv) fun _ _ hv => by cases hv) fun _ => ?_
  refine Ensures.call (fun _ h _ => h) (fun core h hsync => ?_) fun _ h _ => Or.inr h.stored
  obtain hlarge | rfl := hsettled ⟨hclient, hinsert, hwriteClient, hwritten.1, hwritten.2, hverify,
    hrename, hsync⟩
  · rw [hlarge] at hbound
    cases hbound
  · exact h

end Commit

/-! ## What a change of phrase leaves behind -/

section PhraseChange

variable [DecidableEq φ] [DecidableEq κ] [DecidableEq δ]
variable {derive : φ → ς → κ} {valid : δ → Bool} {phrase : φ} {document : δ}
variable {unlocked : UnlockedVault κ δ}

/-- The vault is open, and the memory and the disk agree. -/
structure Holding (derive : φ → ς → κ) (valid : δ → Bool) (unlocked : UnlockedVault κ δ)
    (phrase : φ) (document : δ) (core : AppCore φ ς κ δ) : Prop extends
    Synced derive valid phrase document core where
  held : core.unlocked = some unlocked

/-- An identifier was drawn for a snapshot that the metadata do not name. -/
structure Drawn (derive : φ → ς → κ) (valid : δ → Bool) (unlocked : UnlockedVault κ δ)
    (phrase : φ) (document : δ) (identifier : Nat) (core : AppCore φ ς κ δ) : Prop extends
    Holding derive valid unlocked phrase document core where
  drawn : identifier < core.directory.drawn
  unnamed : ∀ salt, core.directory.metadata ≠ some ⟨salt, .snapshot identifier⟩

/-- The next snapshot is under its name, which the metadata do not have yet. -/
structure Prepared (derive : φ → ς → κ) (valid : δ → Bool) (unlocked : UnlockedVault κ δ)
    (phrase : φ) (document : δ) (nextKey : κ) (next : Name) (core : AppCore φ ς κ δ) : Prop extends
    Holding derive valid unlocked phrase document core where
  written : ∃ identifier, next = .snapshot identifier ∧
    Drawn derive valid unlocked phrase document identifier core ∧
    core.directory.files next = some (.whole nextKey document)

variable {identifier : Nat} {core : AppCore φ ς κ δ}

omit [DecidableEq φ] [DecidableEq κ] [DecidableEq δ] in
theorem Drawn.setTemporary (h : Drawn derive valid unlocked phrase document identifier core)
    (temporary : Nat) (file : Option (File κ δ)) :
    Drawn derive valid unlocked phrase document identifier
      (core.setFile (.temporary temporary) file) :=
  ⟨⟨h.toAgrees.setTemporary temporary file, h.held⟩, h.drawn, h.unnamed⟩

omit [DecidableEq φ] [DecidableEq κ] [DecidableEq δ] in
theorem Drawn.setSnapshot (h : Drawn derive valid unlocked phrase document identifier core)
    (file : Option (File κ δ)) :
    Drawn derive valid unlocked phrase document identifier
      (core.setFile (.snapshot identifier) file) :=
  ⟨⟨h.toAgrees.setSnapshot h.unnamed fun hle => absurd h.drawn (Nat.not_lt.2 hle), h.held⟩,
    h.drawn, h.unnamed⟩

omit [DecidableEq φ] [DecidableEq κ] [DecidableEq δ] in
/-- An identifier drawn names no snapshot. -/
theorem Holding.draw (h : Holding derive valid unlocked phrase document core) :
    Drawn derive valid unlocked phrase document core.directory.drawn
      { core with directory := { core.directory with drawn := core.directory.drawn + 1 } } := by
  refine ⟨⟨h.toAgrees.draw, h.held⟩, Nat.lt_succ_self _, fun salt hmetadata => ?_⟩
  obtain ⟨salt', identifier, hnamed, hfile⟩ := h.stored.named
  obtain ⟨-, hname⟩ := Metadata.mk.inj (Option.some.inj (hnamed.symm.trans hmetadata))
  have hfresh := h.stored.fresh core.directory.drawn (Nat.le_refl _)
  rw [← hname, hfile] at hfresh
  cases hfresh

omit [DecidableEq φ] in
theorem writeNextSnapshot_ensures (faults : PhraseFaults κ δ) (nextKey : κ)
    {died : AppCore φ ς κ δ → Prop}
    (hdied : ∀ core, Holding derive valid unlocked phrase document core → died core) :
    Ensures (Holding derive valid unlocked phrase document)
      (writeNextSnapshot faults nextKey document)
      (fun next core => (faults.written ∧ unlocked.saved = document) ∧
        Prepared derive valid unlocked phrase document nextKey next core)
      (Holding derive valid unlocked phrase document) died := by
  unfold writeNextSnapshot
  refine Ensures.bind (m := Drawn derive valid unlocked phrase document)
    (fun core h => h.draw) fun identifier => ?_
  refine Ensures.bind (draw_ensures fun core h => ⟨⟨h.toAgrees.draw, h.held⟩,
    Nat.lt_succ_of_lt h.drawn, h.unnamed⟩) fun temporary => ?_
  -- What a temporary file holds is told apart from the vault by its name alone.
  let drawn : AppCore φ ς κ δ → Prop := Drawn derive valid unlocked phrase document identifier
  let filled : AppCore φ ς κ δ → Prop := fun core => drawn core ∧
    core.directory.files (.temporary temporary) = some (.whole nextKey unlocked.saved)
  refine Ensures.bind_of (q := fun _ => faults.commit = .done) (m := fun _ => filled) (Ensures.torn
    (fun core h hv => ⟨hv, h.setTemporary temporary _, ?_⟩)
    (fun core h => (h.setTemporary temporary _).toHolding)
    fun core h => hdied _ (h.setTemporary temporary _).toHolding) fun _ hcommit => ?_
  · show (core.setFile _ _).directory.files _ = _
    rw [core.setFile_same, h.held]
    rfl
  refine Ensures.bind_of (q := fun _ => faults.mode = .done) (m := fun _ => filled)
    (Ensures.call (fun _ h hv => ⟨hv, h⟩) (fun _ h _ => h.1.toHolding)
      fun core h _ => hdied core h.1.toHolding) fun _ hmode => ?_
  have hclean : Ensures filled
      (do let _ ← Program.attempt (removeFile faults.removeTemporary (.temporary temporary)))
      (fun _ => Holding derive valid unlocked phrase document)
      (Holding derive valid unlocked phrase document) died :=
    Ensures.from_pre (Ensures.bind (Ensures.attempt_keep (Ensures.effect
      (fun _ (h : drawn _) _ => h.setTemporary temporary none) (fun _ h _ => h)
      fun core h _ => hdied core h.toHolding)) fun _ => Ensures.pure fun _ h => h.toHolding)
      fun _ h => h.1
  have hverified := verify_ensures faults.verify (.temporary temporary) nextKey document
    (fun core (h : filled core) => hdied core h.1.toHolding) hclean
  refine Ensures.bind_of (q := fun _ => faults.verify = .done ∧ unlocked.saved = document)
    (m := fun _ => filled) (hverified.weaken (fun _ h => h) (fun _ core h => ?_) (fun _ h => h)
    fun _ h => h) fun _ hverify => ?_
  · obtain ⟨hv, hfilled, hfile⟩ := h
    rw [hfilled.2] at hfile
    exact ⟨⟨hv, (File.whole.inj (Option.some.inj hfile)).2⟩, hfilled⟩
  obtain ⟨hverify, rfl⟩ := hverify
  refine Ensures.bind_of (q := fun _ => faults.rename = .done) (m := fun _ => Prepared derive valid
    unlocked phrase unlocked.saved nextKey (.snapshot identifier)) (Ensures.effect
    (fun core h hv => ⟨hv, ?_⟩) (fun _ h _ => h.1.toHolding)
    fun core h _ => hdied core h.1.toHolding) fun _ hrename => ?_
  · have hkept := (h.1.setSnapshot (core.directory.files (.temporary temporary))).setTemporary
      temporary none
    refine ⟨hkept.toHolding, identifier, rfl, hkept, ?_⟩
    rw [AppCore.setFile_of_ne _ Name.noConfusion, AppCore.setFile_same]
    exact h.2
  refine Ensures.bind_of (q := fun _ => faults.sync = .done) (m := fun _ => Prepared derive valid
    unlocked phrase unlocked.saved nextKey (.snapshot identifier)) (Ensures.call
    (fun _ h hv => ⟨hv, h⟩) (fun _ h _ => h.toHolding) fun core h _ => hdied core h.toHolding)
    fun _ hsync => ?_
  exact Ensures.pure fun _ h => ⟨⟨⟨hcommit, hmode, hverify, hrename, hsync⟩, rfl⟩, h⟩

/-- The metadata name the next snapshot, of which the memory does not know yet. -/
structure Switched (derive : φ → ς → κ) (valid : δ → Bool) (unlocked : UnlockedVault κ δ)
    (newPhrase : φ) (document : δ) (next : Metadata ς) (core : AppCore φ ς κ δ) : Prop where
  stored : Stored derive valid newPhrase document core.directory
  metadata : core.directory.metadata = some next
  held : core.unlocked = some unlocked
  document : unlocked.document = document
  /-- The snapshot that lost is another one. -/
  previous : ∃ identifier, unlocked.snapshotPath = .snapshot identifier ∧
    .snapshot identifier ≠ next.snapshot

omit [DecidableEq φ] [DecidableEq κ] [DecidableEq δ] in
/-- The metadata replaced by those of the next snapshot. -/
theorem Prepared.switch {newPhrase : φ} {nextSalt : ς} {next : Name}
    (h : Prepared derive valid unlocked phrase document (derive newPhrase nextSalt) next core) :
    Switched derive valid unlocked newPhrase document ⟨nextSalt, next⟩
      { core with directory := { core.directory with metadata := some ⟨nextSalt, next⟩ } } := by
  obtain ⟨identifier, rfl, hdrawn, hfile⟩ := h.written
  obtain ⟨salt, named, hmetadata, hpath, -, hdocument⟩ := h.memory unlocked h.held
  refine ⟨⟨⟨⟨nextSalt, identifier, rfl, hfile⟩, h.stored.valid⟩, h.stored.fresh⟩, rfl, h.held,
    hdocument, named, hpath, fun heq => ?_⟩
  rw [heq] at hmetadata
  exact hdrawn.unnamed salt hmetadata

omit [DecidableEq φ] [DecidableEq κ] [DecidableEq δ] in
theorem readMetadata_ensures {pre died : AppCore φ ς κ δ → Prop} (v : Verdict)
    (hnamed : ∀ core, pre core → ∃ metadata, core.directory.metadata = some metadata)
    (hdied : ∀ core, pre core → v = .dies → died core) :
    Ensures pre (readMetadata v)
      (fun metadata core => v = .done ∧ pre core ∧ core.directory.metadata = some metadata)
      (fun core => pre core ∧ v = .fails) died := by
  refine Ensures.bind_of (q := fun _ => v = .done) (m := fun _ => pre)
    (Ensures.call (fun _ h hv => ⟨hv, h⟩) (fun _ h hv => ⟨h, hv⟩) hdied) fun _ hv => ?_
  refine Ensures.ask (fun _ _ h hmetadata => ⟨hv, h, hmetadata⟩) fun core h hnone => ?_
  obtain ⟨metadata, hmetadata⟩ := hnamed core h
  rw [hmetadata] at hnone
  cases hnone

/-- Where the metadata may have been replaced, or not. -/
def Between (derive : φ → ς → κ) (valid : δ → Bool) (unlocked : UnlockedVault κ δ)
    (faults : PhraseFaults κ δ) (phrase newPhrase : φ) (document : δ) (nextSalt : ς) (next : Name)
    (core : AppCore φ ς κ δ) : Prop :=
  Prepared derive valid unlocked phrase document (derive newPhrase nextSalt) next core ∨
    faults.published ∧ Switched derive valid unlocked newPhrase document ⟨nextSalt, next⟩ core

variable {newPhrase : φ} {nextSalt : ς} {next : Name}

omit [DecidableEq φ] [DecidableEq κ] [DecidableEq δ] in
theorem Between.named {faults : PhraseFaults κ δ}
    (h : Between derive valid unlocked faults phrase newPhrase document nextSalt next core) :
    ∃ metadata, core.directory.metadata = some metadata := by
  cases h with
  | inl h =>
      obtain ⟨salt, identifier, hmetadata, -⟩ := h.stored.named
      exact ⟨_, hmetadata⟩
  | inr h => exact ⟨_, h.2.metadata⟩

omit [DecidableEq φ] [DecidableEq κ] [DecidableEq δ] in
/-- Where a change of phrase died: on the phrase before it or on the new one. -/
theorem Between.stored {faults : PhraseFaults κ δ}
    (h : Between derive valid unlocked faults phrase newPhrase document nextSalt next core) :
    Stored derive valid phrase document core.directory ∨
      Stored derive valid newPhrase document core.directory :=
  h.imp (fun h => h.stored) fun h => h.2.stored

omit [DecidableEq φ] [DecidableEq κ] [DecidableEq δ] in
theorem writeMetadataAtomic_ensures (faults : PhraseFaults κ δ)
    {died : AppCore φ ς κ δ → Prop}
    (hdied : ∀ core, Stored derive valid phrase document core.directory ∨
      Stored derive valid newPhrase document core.directory → died core) :
    Ensures (Prepared derive valid unlocked phrase document (derive newPhrase nextSalt) next)
      (writeMetadataAtomic faults.writeMetadata faults.renameMetadata faults.syncMetadata
        ⟨nextSalt, next⟩)
      (fun _ => Between derive valid unlocked faults phrase newPhrase document nextSalt next)
      (Between derive valid unlocked faults phrase newPhrase document nextSalt next) died := by
  refine Ensures.bind_of (q := fun _ => faults.writeMetadata = .done) (m := fun _ =>
    Prepared derive valid unlocked phrase document (derive newPhrase nextSalt) next)
    (Ensures.call (fun _ h hv => ⟨hv, h⟩) (fun _ h _ => Or.inl h)
      fun core h _ => hdied core (Or.inl h.stored)) fun _ hwrite => ?_
  refine Ensures.bind_of (q := fun _ => faults.renameMetadata = .done) (m := fun _ =>
    Switched derive valid unlocked newPhrase document ⟨nextSalt, next⟩)
    (Ensures.effect (fun _ h hv => ⟨hv, h.switch⟩) (fun _ h _ => Or.inl h)
      fun core h _ => hdied core (Or.inl h.stored)) fun _ hrename => ?_
  refine Ensures.call (fun _ h hv => Or.inr ⟨⟨hwrite, hrename, ?_⟩, h⟩)
    (fun _ h hv => Or.inr ⟨⟨hwrite, hrename, ?_⟩, h⟩) fun core h _ => hdied core (Or.inr h.stored)
  · rw [hv]
    exact Verdict.noConfusion
  · rw [hv]
    exact Verdict.noConfusion

omit [DecidableEq φ] [DecidableEq κ] [DecidableEq δ] in
/-- What is read back is taken at its word, so that a reading that fails must not
follow a replacement. -/
theorem publishMetadata_ensures (faults : PhraseFaults κ δ)
    (hback : faults.published → faults.readBack = .fails → faults.removeNext = .dies)
    {died : AppCore φ ς κ δ → Prop}
    (hdied : ∀ core, Stored derive valid phrase document core.directory ∨
      Stored derive valid newPhrase document core.directory → died core) :
    Ensures (Prepared derive valid unlocked phrase document (derive newPhrase nextSalt) next)
      (publishMetadata faults ⟨nextSalt, next⟩)
      (fun _ core => (faults.published ∧ faults.readBack = .done) ∧
        Switched derive valid unlocked newPhrase document ⟨nextSalt, next⟩ core)
      (Holding derive valid unlocked phrase document) died := by
  let between : AppCore φ ς κ δ → Prop :=
    Between derive valid unlocked faults phrase newPhrase document nextSalt next
  refine Ensures.bind (m := fun _ => between)
    (Ensures.attempt_either (writeMetadataAtomic_ensures faults hdied)) fun _ => ?_
  refine Ensures.bind (Ensures.attempt (readMetadata_ensures faults.readBack
    (fun _ (h : between _) => h.named) fun core h _ => hdied core h.stored)) fun published => ?_
  -- The next snapshot is removed only where the metadata do not name it.
  let spare : AppCore φ ς κ δ → Prop := fun core => between core ∧
    (faults.removeNext ≠ .dies →
      Prepared derive valid unlocked phrase document (derive newPhrase nextSalt) next core)
  have hremove : Ensures spare (do let _ ← Program.attempt (removeFile faults.removeNext next))
      (fun _ => Holding derive valid unlocked phrase document)
      (Holding derive valid unlocked phrase document) died := by
    refine Ensures.bind (m := fun _ => Holding derive valid unlocked phrase document)
      (Ensures.attempt_either (Ensures.effect (fun core h hv => ?_) (fun core h hv => ?_)
        fun core h _ => hdied core h.1.stored)) fun _ => Ensures.pure fun _ h => h
    · obtain ⟨identifier, rfl, hdrawn, -⟩ := (h.2 (by rw [hv]; exact Verdict.noConfusion)).written
      exact (hdrawn.setSnapshot none).toHolding
    · exact (h.2 (by rw [hv]; exact Verdict.noConfusion)).toHolding
  refine Ensures.otherwise (Ensures.check (fun core h hnext => ?_) fun core h hnext => ?_) hremove
  · cases published with
    | none => cases of_decide_eq_true hnext
    | some metadata =>
        obtain ⟨hread, hbetween, hmetadata⟩ := h
        cases hbetween with
        | inr h => exact ⟨⟨h.1, hread⟩, h.2⟩
        | inl h =>
            obtain ⟨identifier, rfl, hdrawn, -⟩ := h.written
            obtain ⟨salt, snapshot⟩ := metadata
            obtain rfl : snapshot = .snapshot identifier := Option.some.inj (of_decide_eq_true hnext)
            exact absurd hmetadata (hdrawn.unnamed salt)
  · cases published with
    | none =>
        obtain ⟨hbetween, hread⟩ := h
        refine ⟨hbetween, fun hremove => hbetween.resolve_right fun h => ?_⟩
        exact hremove (hback h.1 hread)
    | some metadata =>
        obtain ⟨hread, hbetween, hmetadata⟩ := h
        refine ⟨hbetween, fun _ => hbetween.resolve_right fun h => ?_⟩
        obtain rfl := Option.some.inj (h.2.metadata.symm.trans hmetadata)
        exact of_decide_eq_false hnext rfl

/-- A change of phrase gets past its own checks: the phrases are the ones asked
for, and the store holds the document. -/
def Confirms (derive : φ → ς → κ) (generationID : Nat) (currentPhrase newPhrase : φ)
    (core : AppCore φ ς κ δ) : Prop :=
  core.pendingPhraseChange = some ⟨generationID, newPhrase⟩ ∧ currentPhrase ≠ newPhrase ∧
    ∃ metadata unlocked, core.directory.metadata = some metadata ∧
      core.unlocked = some unlocked ∧ derive currentPhrase metadata.salt = unlocked.snapshotKey ∧
      unlocked.saved = unlocked.document

omit [DecidableEq φ] [DecidableEq κ] [DecidableEq δ] in
/-- The memory catches up with the metadata. -/
theorem Switched.remember {next : Metadata ς}
    (h : Switched derive valid unlocked newPhrase document next core) :
    Working derive valid next.snapshot (derive newPhrase next.salt) newPhrase document document
      { core.setUnlocked fun unlocked => { unlocked with
          snapshotPath := next.snapshot, snapshotKey := derive newPhrase next.salt } with
        pendingPhraseChange := none } := by
  obtain ⟨salt, identifier, hmetadata, -⟩ := h.stored.named
  obtain rfl := Option.some.inj (h.metadata.symm.trans hmetadata)
  have hopen : core.unlocked.map (fun u => { u with
      snapshotPath := Name.snapshot identifier, snapshotKey := derive newPhrase salt }) =
      some { unlocked with
        snapshotPath := .snapshot identifier, snapshotKey := derive newPhrase salt } := by
    rw [h.held]
    rfl
  refine ⟨⟨h.stored, fun u hu => ?_⟩, _, hopen, rfl, rfl⟩
  obtain rfl := Option.some.inj (hopen.symm.trans hu)
  exact ⟨salt, identifier, hmetadata, rfl, rfl, h.document⟩

omit [DecidableEq φ] [DecidableEq κ] [DecidableEq δ] in
/-- The snapshot that lost is none of the vault's. -/
theorem Working.removeOther {path : Name} {key : κ}
    (h : Working derive valid path key phrase document document core)
    (hne : Name.snapshot identifier ≠ path) :
    Working derive valid path key phrase document document
      (core.setFile (.snapshot identifier) none) := by
  obtain ⟨salt, named, rfl, rfl, hmetadata, -⟩ := h.named
  refine ⟨h.toAgrees.setSnapshot (fun salt' hother => ?_) fun _ => rfl, h.held⟩
  obtain ⟨-, hname⟩ := Metadata.mk.inj (Option.some.inj (hmetadata.symm.trans hother))
  exact hne hname.symm

/-- A change of phrase that returned is one to the new phrase, and one that failed
left the phrase before it, unless a step fails once the metadata were replaced. -/
theorem confirmPhraseChange_ensures (faults : PhraseFaults κ δ) (generationID : Nat)
    (currentPhrase newPhrase : φ) (nextSalt : ς) :
    Ensures (fun core => Synced derive valid phrase document core ∧
        (faults.lost → ¬ Confirms derive generationID currentPhrase newPhrase core))
      (confirmPhraseChange derive faults generationID currentPhrase newPhrase nextSalt)
      (fun _ => Synced derive valid newPhrase document) (Synced derive valid phrase document)
      (fun core => Stored derive valid phrase document core.directory ∨
        Stored derive valid newPhrase document core.directory) := by
  unfold confirmPhraseChange
  let ready : AppCore φ ς κ δ → Prop := fun core => Synced derive valid phrase document core ∧
    (faults.lost → ¬ Confirms derive generationID currentPhrase newPhrase core)
  let asked : AppCore φ ς κ δ → Prop := fun core => ready core ∧
    core.pendingPhraseChange = some ⟨generationID, newPhrase⟩
  refine Ensures.bind (m := fun pending core => ready core ∧
    core.pendingPhraseChange = some pending) (Ensures.ask (fun _ _ h hpending => ⟨h, hpending⟩)
    fun _ h _ => h.1) fun pending => ?_
  refine Ensures.bind (m := fun _ => asked) (Ensures.check (fun core h hpending => ⟨h.1, ?_⟩)
    fun _ h _ => h.1.1) fun _ => ?_
  · obtain ⟨rfl, rfl⟩ := of_decide_eq_true hpending
    exact h.2
  refine Ensures.bind_of (q := fun _ => faults.read = .done) (m := fun metadata core =>
    asked core ∧ core.directory.metadata = some metadata)
    ((readMetadata_ensures faults.read (fun core (h : asked core) => ?_)
      fun core h _ => Or.inl h.1.1.stored).weaken (fun _ h => h) (fun _ _ h => h)
      (fun _ h => h.1.1.1) fun _ h => h) fun metadata hread => ?_
  · obtain ⟨salt, identifier, hmetadata, -⟩ := h.1.1.stored.named
    exact ⟨_, hmetadata⟩
  refine Ensures.bind_of (q := fun _ => currentPhrase ≠ newPhrase) (m := fun _ core =>
    asked core ∧ core.directory.metadata = some metadata)
    (Ensures.check (fun _ h hne => ⟨of_decide_eq_true hne, h⟩) fun _ h _ => h.1.1.1)
    fun _ hne => ?_
  refine Ensures.bind (m := fun unlocked core => (asked core ∧
    core.directory.metadata = some metadata) ∧ core.unlocked = some unlocked)
    (Ensures.ask (fun _ _ h hu => ⟨h, hu⟩) fun _ h _ => h.1.1.1) fun unlocked => ?_
  -- A vault whose store is behind its document does not get past the verification.
  refine Ensures.bind_of (q := fun _ => unlocked.document = document ∧
      (faults.lost → unlocked.saved ≠ unlocked.document))
    (m := fun _ => Holding derive valid unlocked phrase document)
    (Ensures.check (fun core h hkey => ?_) fun _ h _ => h.1.1.1.1) fun _ hheld => ?_
  · obtain ⟨⟨⟨⟨hsynced, hsettled⟩, hpending⟩, hmetadata⟩, hopen⟩ := h
    obtain ⟨salt, identifier, -, -, -, hdocument⟩ := hsynced.memory unlocked hopen
    refine ⟨⟨hdocument, fun hlost hsaved => hsettled hlost ⟨hpending, hne, metadata, unlocked,
      hmetadata, hopen, of_decide_eq_true hkey, hsaved⟩⟩, hsynced, hopen⟩
  obtain ⟨rfl, hlost⟩ := hheld
  let held : AppCore φ ς κ δ → Prop := Holding derive valid unlocked phrase unlocked.document
  refine Ensures.weaken (m := fun _ => Synced derive valid newPhrase unlocked.document) ?_
    (fun _ h => h) (fun _ _ h => h) (fun core (h : held core) => h.toAgrees) fun _ h => h
  refine Ensures.bind_of (writeNextSnapshot_ensures faults (derive newPhrase nextSalt)
    fun core h => Or.inl h.stored) fun next hwritten => ?_
  refine Ensures.bind_of (publishMetadata_ensures faults (fun hpublished hback => ?_)
    fun core h => h) fun _ hpublished => ?_
  · by_contra hremove
    exact hlost ⟨hread, hwritten.1, hpublished, Or.inl ⟨hback, hremove⟩⟩ hwritten.2
  have hlast : ∀ v, (v = Verdict.fails → faults.removePrevious = .fails ∨
      faults.removePrevious = .done ∧ faults.syncRemoval = .fails) → v ≠ .fails :=
    fun v hv hfails => hlost ⟨hread, hwritten.1, hpublished.1,
      Or.inr ⟨hpublished.2, hv hfails⟩⟩ hwritten.2
  -- From here the vault is the new phrase's.
  let switched : AppCore φ ς κ δ → Prop :=
    Working derive valid next (derive newPhrase nextSalt) newPhrase unlocked.document
      unlocked.document
  refine Ensures.bind_of (q := fun _ => ∃ identifier, unlocked.snapshotPath = .snapshot identifier ∧
    .snapshot identifier ≠ next) (m := fun _ => switched)
    (Ensures.effect (fun _ h _ => ⟨h.previous, h.remember⟩) (fun _ _ hv => by cases hv)
      fun _ _ hv => by cases hv) fun _ hprevious => ?_
  obtain ⟨identifier, hpath, hother⟩ := hprevious
  rw [hpath, if_pos hother]
  refine Ensures.bind_of (q := fun _ => faults.removePrevious = .done) (m := fun _ => switched)
    (Ensures.effect (fun _ h hv => ⟨hv, h.removeOther hother⟩)
      (fun _ _ hv => absurd hv (hlast _ fun h => Or.inl h)) fun _ h _ => Or.inr h.stored)
    fun _ hremove => ?_
  exact Ensures.call (fun _ h _ => h.toAgrees)
    (fun _ _ hv => absurd hv (hlast _ fun h => Or.inr ⟨hremove, h⟩)) fun _ h _ => Or.inr h.stored

end PhraseChange

/-! ## Runs of the App -/

section Runs

variable [DecidableEq φ] [DecidableEq κ] [DecidableEq δ]
variable (derive : φ → ς → κ) (oversized valid : δ → Bool)

/-- What can happen to a vault. -/
inductive Event (φ ς κ δ : Type) where
  | unlock (metadataRead snapshotRead : Verdict) (phrase : φ)
  | lock
  | preparePhraseChange (pending : PendingPhraseChange φ)
  | confirmPhraseChange (faults : PhraseFaults κ δ) (generationID : Nat)
      (currentPhrase newPhrase : φ) (nextSalt : ς)
  /-- Any of the operations on the document, each of which checks its candidate. -/
  | commit (faults : CommitFaults κ δ) (candidate : δ)
  | crash

def Event.program : Event φ ς κ δ → Program (AppCore φ ς κ δ) Unit
  | unlock metadataRead snapshotRead phrase =>
      Vault.unlock derive valid metadataRead snapshotRead phrase
  | lock => .effect .done AppCore.dead
  | preparePhraseChange pending => Vault.preparePhraseChange pending
  | confirmPhraseChange faults generationID currentPhrase newPhrase nextSalt =>
      Vault.confirmPhraseChange derive faults generationID currentPhrase newPhrase nextSalt
  | commit faults candidate => do
      .check (valid candidate)
      commitDocument oversized faults candidate
  | crash => .call .dies

/-- One event, after which a process that died has lost its memory. -/
def step (core : AppCore φ ς κ δ) (event : Event φ ς κ δ) : AppCore φ ς κ δ × Ending Unit :=
  match event.program derive oversized valid core with
  | (.died, core) => (core.dead, .died)
  | (ending, core) => (core, ending)

/-- No step fails once the disk was changed. -/
def Settled (core : AppCore φ ς κ δ) : Event φ ς κ δ → Prop
  | .confirmPhraseChange faults generationID currentPhrase newPhrase _ =>
      faults.lost → ¬ Confirms derive generationID currentPhrase newPhrase core
  | .commit faults candidate =>
      faults.lost → valid candidate = true → ¬ Replaces oversized candidate core
  | _ => True

/-- The vault opens with one phrase on one document, which is the one in memory;
the metadata name a file. -/
structure Intact (phrase : φ) (document : δ) (core : AppCore φ ς κ δ) : Prop where
  opens : ∀ other, opensOn derive valid other core.directory =
    if other = phrase then some document else none
  named : ∃ metadata, core.directory.metadata = some metadata ∧
    (core.directory.files metadata.snapshot).isSome = true
  memory : ∀ unlocked, core.unlocked = some unlocked → unlocked.document = document

/-- The phrase and the document of a vault before and after an event, by its
answer. -/
def Answers : Event φ ς κ δ → Ending Unit → φ × δ → φ × δ → Prop
  | .confirmPhraseChange _ _ _ newPhrase _, .returned _, before, after =>
      after = (newPhrase, before.2)
  | .confirmPhraseChange _ _ _ newPhrase _, .died, before, after =>
      after = before ∨ after = (newPhrase, before.2)
  | .commit _ candidate, .returned _, before, after => after = (before.1, candidate)
  | .commit _ candidate, .died, before, after => after = before ∨ after = (before.1, candidate)
  | _, _, before, after => after = before

/-- The documents some event commits. -/
def candidates (events : List (Event φ ς κ δ)) : List δ :=
  events.filterMap fun
    | .commit _ candidate => some candidate
    | _ => none

variable {derive oversized valid}
variable {phrase : φ} {document : δ} {core : AppCore φ ς κ δ}

omit [DecidableEq φ] [DecidableEq κ] [DecidableEq δ] in
/-- A process that ended left the disk alone. -/
theorem Stored.dead (h : Stored derive valid phrase document core.directory) :
    Synced derive valid phrase document core.dead :=
  ⟨h, fun _ hu => by cases hu⟩

omit [DecidableEq φ] [DecidableEq δ] in
/-- A phrase opens a closed vault where its key is the one of the snapshot. -/
theorem unlock_ensures (metadataRead snapshotRead : Verdict) (other : φ)
    {directory : Directory ς κ δ} {salt : ς} {identifier : Nat}
    (hmetadata : directory.metadata = some ⟨salt, .snapshot identifier⟩)
    (hfile : directory.files (.snapshot identifier) = some (.whole (derive phrase salt) document))
    (hvalid : valid document = true) :
    Ensures (fun core => core.directory = directory ∧ core.unlocked = none)
      (unlock derive valid metadataRead snapshotRead other)
      (fun _ core => core.directory = directory ∧ derive phrase salt = derive other salt ∧
        core.unlocked =
          some ⟨document, document, derive other salt, .snapshot identifier, document⟩)
      (fun core => (core.directory = directory ∧ core.unlocked = none) ∧
        (metadataRead = .done → snapshotRead = .done → derive phrase salt ≠ derive other salt))
      (fun core => core.directory = directory ∧ ¬ (metadataRead = .done ∧ snapshotRead = .done)) := by
  unfold unlock
  let closed : AppCore φ ς κ δ → Prop := fun core =>
    core.directory = directory ∧ core.unlocked = none
  refine Ensures.bind_of (q := fun isClosed => isClosed = true) (m := fun _ => closed)
    (Ensures.ask (fun core isClosed h hclosed => ⟨?_, h⟩) fun _ _ h => by cases h)
    fun isClosed hclosed => ?_
  · rw [h.2] at hclosed
    exact (Option.some.inj hclosed).symm
  rw [if_pos hclosed]
  refine Ensures.bind_of (q := fun metadata => metadata = ⟨salt, .snapshot identifier⟩)
    (m := fun _ => closed) ((readMetadata_ensures metadataRead (fun core (h : closed core) =>
      ⟨_, h.1.symm ▸ hmetadata⟩) fun core h hv => ⟨h.1, fun hdone => by
        rw [hdone.1] at hv
        cases hv⟩).weaken (fun _ h => h)
      (fun metadata core h => ⟨?_, h.2.1⟩) (fun _ h => ⟨h.1, fun hv => ?_⟩) fun _ h => h)
    fun metadata hnamed => ?_
  · obtain ⟨-, hclosed, hread⟩ := h
    rw [hclosed.1, hmetadata] at hread
    exact (Option.some.inj hread).symm
  · rw [h.2] at hv
    cases hv
  rw [hnamed]
  refine Ensures.bind (m := fun _ => closed) (Ensures.call (fun _ h _ => h)
    (fun _ h hv => ⟨h, fun _ hdone => ?_⟩) fun _ h hv => ⟨h.1, fun hdone => ?_⟩) fun _ => ?_
  · rw [hv] at hdone
    cases hdone
  · rw [hdone.2] at hv
    cases hv
  refine Ensures.bind_of (q := fun read => derive phrase salt = derive other salt ∧
    read = document) (m := fun _ => closed) (Ensures.ask (fun core read h hread => ?_)
    fun core h hnone => ⟨h, fun _ _ heq => ?_⟩) fun read hread => ?_
  · rw [h.1, hfile] at hread
    obtain ⟨hkey, hread⟩ := Option.ite_none_right_eq_some.1 hread
    exact ⟨⟨hkey, (Option.some.inj hread).symm⟩, h⟩
  · rw [h.1, hfile] at hnone
    simp [heq] at hnone
  obtain ⟨hkey, rfl⟩ := hread
  refine Ensures.bind (m := fun _ => closed) (Ensures.check (fun _ h _ => h)
    fun _ h hinvalid => ?_) fun _ => ?_
  · rw [hvalid] at hinvalid
    cases hinvalid
  exact Ensures.effect (fun core h _ => ⟨h.1, hkey, rfl⟩) (fun _ _ hv => by cases hv)
    fun _ _ hv => by cases hv

omit [DecidableEq δ] in
/-- Keys of different phrases are different, so that one phrase opens the vault. -/
theorem Stored.opensOn (hderive : ∀ salt, Function.Injective fun phrase => derive phrase salt)
    {directory : Directory ς κ δ} (h : Stored derive valid phrase document directory) (other : φ) :
    opensOn derive valid other directory = if other = phrase then some document else none := by
  obtain ⟨salt, identifier, hmetadata, hfile⟩ := h.named
  have hend := unlock_ensures .done .done other hmetadata hfile h.valid
    ⟨directory, none, none⟩ ⟨rfl, rfl⟩
  unfold Vault.opensOn
  cases hresult : unlock derive valid .done .done other ⟨directory, none, none⟩ with
  | mk ending core =>
      rw [hresult] at hend
      cases ending with
      | returned _ =>
          obtain ⟨-, hkey, hopen⟩ := hend
          rw [hopen, if_pos (hderive salt hkey.symm)]
          rfl
      | failed =>
          obtain ⟨⟨-, hclosed⟩, hkey⟩ := hend
          have hother : other ≠ phrase := fun heq => hkey rfl rfl (by rw [heq])
          rw [hclosed, if_neg hother]
          rfl
      | died => exact absurd ⟨rfl, rfl⟩ hend.2

omit [DecidableEq δ] in
theorem Agrees.intact (hderive : ∀ salt, Function.Injective fun phrase => derive phrase salt)
    (h : Synced derive valid phrase document core) : Intact derive valid phrase document core := by
  obtain ⟨salt, identifier, hmetadata, hfile⟩ := h.stored.named
  refine ⟨h.stored.opensOn hderive, ⟨_, hmetadata, ?_⟩, fun unlocked hu => ?_⟩
  · rw [hfile]
    rfl
  · obtain ⟨-, -, -, -, -, hdocument⟩ := h.memory unlocked hu
    exact hdocument

variable (derive oversized valid) in
/-- Where an event leaves the vault. -/
theorem step_of_ends (event : Event φ ς κ δ) {post : Unit → AppCore φ ς κ δ → Prop}
    {failed died : AppCore φ ς κ δ → Prop}
    (h : Ends post failed died (event.program derive oversized valid core)) :
    match answer (step derive oversized valid) core event with
    | .returned u => post u (next (step derive oversized valid) core event)
    | .failed => failed (next (step derive oversized valid) core event)
    | .died => ∃ left, died left ∧ next (step derive oversized valid) core event = left.dead := by
  unfold answer next step
  cases hresult : event.program derive oversized valid core with
  | mk ending left =>
      rw [hresult] at h
      cases ending with
      | returned u => exact h
      | failed => exact h
      | died => exact ⟨left, h, rfl⟩

/-- An event after which the vault is as it was before. -/
theorem step_unchanged {event : Event φ ς κ δ}
    (h : Ends (fun _ => Synced derive valid phrase document) (Synced derive valid phrase document)
      (fun core => Stored derive valid phrase document core.directory)
      (event.program derive oversized valid core)) :
    Synced derive valid phrase document (next (step derive oversized valid) core event) := by
  have hend := step_of_ends derive oversized valid event h
  cases hanswer : answer (step derive oversized valid) core event with
  | returned _ =>
      rw [hanswer] at hend
      exact hend
  | failed =>
      rw [hanswer] at hend
      exact hend
  | died =>
      rw [hanswer] at hend
      obtain ⟨left, hleft, hnext⟩ := hend
      rw [hnext]
      exact hleft.dead

omit [DecidableEq φ] [DecidableEq κ] [DecidableEq δ] in
theorem preparePhraseChange_ensures (pending : PendingPhraseChange φ)
    {died : AppCore φ ς κ δ → Prop} :
    Ensures (Synced derive valid phrase document) (preparePhraseChange pending)
      (fun _ => Synced derive valid phrase document) (Synced derive valid phrase document) died :=
  Ensures.bind (m := fun _ => Synced derive valid phrase document)
    (Ensures.ask (fun _ _ h _ => h) fun _ h _ => h)
    fun _ => Ensures.effect (fun _ h _ => ⟨h.stored, h.memory⟩) (fun _ _ hv => by cases hv)
      fun _ _ hv => by cases hv

omit [DecidableEq φ] [DecidableEq δ] in
/-- A vault that was opened agrees with what it was opened on. -/
theorem unlock_synced (h : Synced derive valid phrase document core)
    (metadataRead snapshotRead : Verdict) (other : φ) :
    Ends (fun _ => Synced derive valid phrase document) (Synced derive valid phrase document)
      (fun core => Stored derive valid phrase document core.directory)
      (unlock derive valid metadataRead snapshotRead other core) := by
  obtain ⟨salt, identifier, hmetadata, hfile⟩ := h.stored.named
  cases hopen : core.unlocked with
  | some unlocked =>
      have hstay : unlock derive valid metadataRead snapshotRead other core =
          (.returned (), core) := by
        simp [unlock, bind, Program.bind, Program.ask, hopen, pure, Program.pure]
      rw [hstay]
      exact h
  | none =>
      have hend := unlock_ensures metadataRead snapshotRead other hmetadata hfile h.stored.valid
        core ⟨rfl, hopen⟩
      cases hresult : unlock derive valid metadataRead snapshotRead other core with
      | mk ending left =>
          rw [hresult] at hend
          cases ending with
          | returned _ =>
              obtain ⟨hleft, hkey, hnew⟩ := hend
              refine ⟨hleft ▸ h.stored, fun u hu => ?_⟩
              obtain rfl := Option.some.inj (hnew.symm.trans hu)
              exact ⟨salt, identifier, hleft ▸ hmetadata, rfl, hkey.symm, rfl⟩
          | failed => exact ⟨hend.1.1 ▸ h.stored, fun u hu => by rw [hend.1.2] at hu; cases hu⟩
          | died =>
              show Stored derive valid phrase document left.directory
              rw [hend.1]
              exact h.stored

/-- What one settled event does to the vault, and what it answers. -/
theorem step_synced (h : Synced derive valid phrase document core) {event : Event φ ς κ δ}
    (hsettled : Settled derive oversized valid core event) :
    ∃ after : φ × δ, Answers event (answer (step derive oversized valid) core event)
        (phrase, document) after ∧
      Synced derive valid after.1 after.2 (next (step derive oversized valid) core event) := by
  cases event with
  | unlock metadataRead snapshotRead other =>
      exact ⟨(phrase, document), rfl,
        step_unchanged (unlock_synced h metadataRead snapshotRead other)⟩
  | lock => exact ⟨(phrase, document), rfl, step_unchanged h.stored.dead⟩
  | preparePhraseChange pending =>
      exact ⟨(phrase, document), rfl, step_unchanged (preparePhraseChange_ensures pending core h)⟩
  | confirmPhraseChange faults generationID currentPhrase newPhrase nextSalt =>
      have hend := step_of_ends derive oversized valid (.confirmPhraseChange faults generationID
        currentPhrase newPhrase nextSalt) (confirmPhraseChange_ensures faults generationID
        currentPhrase newPhrase nextSalt core ⟨h, hsettled⟩)
      cases hanswer : answer (step derive oversized valid) core (.confirmPhraseChange faults
        generationID currentPhrase newPhrase nextSalt) with
      | returned _ =>
          rw [hanswer] at hend
          exact ⟨(newPhrase, document), rfl, hend⟩
      | failed =>
          rw [hanswer] at hend
          exact ⟨(phrase, document), rfl, hend⟩
      | died =>
          rw [hanswer] at hend
          obtain ⟨left, hleft, hnext⟩ := hend
          rw [hnext]
          cases hleft with
          | inl hleft => exact ⟨(phrase, document), Or.inl rfl, hleft.dead⟩
          | inr hleft => exact ⟨(newPhrase, document), Or.inr rfl, hleft.dead⟩
  | commit faults candidate =>
      have hprogram : Ends (fun _ => Synced derive valid phrase candidate)
          (Synced derive valid phrase document) (Cut derive valid phrase document candidate)
          ((Event.commit faults candidate).program derive oversized valid core) := by
        by_cases hvalid : valid candidate = true
        · refine Ensures.bind (m := fun _ core => Synced derive valid phrase document core ∧
            (faults.lost → ¬ Replaces oversized candidate core))
            (Ensures.check (fun _ h _ => h) fun _ h _ => h.1)
            (fun _ => commitDocument_ensures faults hvalid) core
            ⟨h, fun hlost => hsettled hlost hvalid⟩
        · exact Ensures.bind (m := fun _ _ => False) (Ensures.check
            (fun _ (_ : Synced derive valid phrase document _) hv => hvalid hv) fun _ h _ => h)
            (fun _ _ hf => hf.elim) core h
      have hend := step_of_ends derive oversized valid (.commit faults candidate) hprogram
      cases hanswer : answer (step derive oversized valid) core (.commit faults candidate) with
      | returned _ =>
          rw [hanswer] at hend
          exact ⟨(phrase, candidate), rfl, hend⟩
      | failed =>
          rw [hanswer] at hend
          exact ⟨(phrase, document), rfl, hend⟩
      | died =>
          rw [hanswer] at hend
          obtain ⟨left, hleft, hnext⟩ := hend
          rw [hnext]
          cases hleft with
          | inl hleft => exact ⟨(phrase, document), Or.inl rfl, hleft.dead⟩
          | inr hleft => exact ⟨(phrase, candidate), Or.inr rfl, hleft.dead⟩
  | crash => exact ⟨(phrase, document), rfl, step_unchanged h.stored⟩

omit [DecidableEq φ] [DecidableEq κ] [DecidableEq δ] in
/-- The document after an event is the one before it or the one it commits. -/
theorem Answers.committed {event : Event φ ς κ δ} {ending : Ending Unit} {after : φ × δ}
    (h : Answers event ending (phrase, document) after) :
    after.2 ∈ document :: candidates [event] := by
  have hsame : after = (phrase, document) → after.2 ∈ document :: candidates [event] :=
    fun heq => List.mem_cons.2 (Or.inl (congrArg Prod.snd heq))
  cases event with
  | commit faults candidate =>
      cases ending with
      | returned _ => exact List.mem_cons_of_mem _ (List.mem_singleton.2 (congrArg Prod.snd h))
      | failed => exact hsame h
      | died =>
          cases h with
          | inl h => exact hsame h
          | inr h => exact List.mem_cons_of_mem _ (List.mem_singleton.2 (congrArg Prod.snd h))
  | confirmPhraseChange faults generationID currentPhrase newPhrase nextSalt =>
      cases ending with
      | returned _ => exact List.mem_cons.2 (Or.inl (congrArg Prod.snd h))
      | failed => exact hsame h
      | died =>
          cases h with
          | inl h => exact hsame h
          | inr h => exact List.mem_cons.2 (Or.inl (congrArg Prod.snd h))
  | unlock metadataRead snapshotRead other => exact hsame h
  | lock => exact hsame h
  | preparePhraseChange pending => exact hsame h
  | crash => exact hsame h

/-- What a settled run leaves behind. -/
theorem run_synced (h : Synced derive valid phrase document core) (events : List (Event φ ς κ δ))
    (hsettled : Admits (step derive oversized valid) (Settled derive oversized valid) core events) :
    ∃ after : φ × δ, after.2 ∈ document :: candidates events ∧
      Synced derive valid after.1 after.2 (run (step derive oversized valid) core events) := by
  induction events generalizing core phrase document with
  | nil => exact ⟨(phrase, document), List.mem_cons_self, h⟩
  | cons event events ih =>
      obtain ⟨mid, hanswer, hmid⟩ := step_synced h hsettled.1
      obtain ⟨after, hafter, hrun⟩ := ih hmid hsettled.2
      refine ⟨after, ?_, hrun⟩
      have hcandidates : candidates (event :: events) = candidates [event] ++ candidates events :=
        List.filterMap_append (l := [event]) ..
      rw [hcandidates]
      cases List.mem_cons.1 hafter with
      | inl hsame =>
          rw [hsame]
          exact List.mem_append_left _ hanswer.committed
      | inr hlater => exact List.mem_cons_of_mem _ (List.mem_append_right _ hlater)

variable (oversized) in
/-- In a run whose steps are all settled, from a vault that opens with a phrase,
the vault opens with one phrase, on a document that was committed, and every
answer says what became of the two. -/
theorem vault_run (hderive : ∀ salt, Function.Injective fun phrase => derive phrase salt)
    {directory : Directory ς κ δ} (h : Stored derive valid phrase document directory)
    (events : List (Event φ ς κ δ))
    (hsettled : Admits (step derive oversized valid) (Settled derive oversized valid)
      ⟨directory, none, none⟩ events) :
    ∃ before : φ × δ, before.2 ∈ document :: candidates events ∧
      Intact derive valid before.1 before.2
        (run (step derive oversized valid) ⟨directory, none, none⟩ events) ∧
      ∀ event, Settled derive oversized valid
          (run (step derive oversized valid) ⟨directory, none, none⟩ events) event →
        ∃ after : φ × δ, Answers event (answer (step derive oversized valid)
            (run (step derive oversized valid) ⟨directory, none, none⟩ events) event) before after ∧
          Intact derive valid after.1 after.2 (next (step derive oversized valid)
            (run (step derive oversized valid) ⟨directory, none, none⟩ events) event) := by
  have hclosed : Synced derive valid phrase document ⟨directory, none, none⟩ :=
    ⟨h, fun _ hu => by cases hu⟩
  obtain ⟨before, hcommitted, hrun⟩ := run_synced hclosed events hsettled
  refine ⟨before, hcommitted, hrun.intact hderive, fun event hevent => ?_⟩
  obtain ⟨after, hanswer, hafter⟩ := step_synced hrun hevent
  exact ⟨after, hanswer, hafter.intact hderive⟩

end Runs

/-! ### A vault of numbers -/

/-- A vault that the phrase `1` opens on the document `10`. -/
def sampleDirectory : Directory Nat (Nat × Nat) Nat where
  metadata := some ⟨5, .snapshot 0⟩
  files name := if name = .snapshot 0 then some (.whole (1, 5) 10) else none
  drawn := 1

/-- A commit that nothing stops. -/
def sampleCommit : CommitFaults (Nat × Nat) Nat :=
  ⟨.done, .done, .done, .done, none, .done, .done, .done, .done, .done, .done, .done⟩

/-- A change of phrase that nothing stops. -/
def samplePhrase : PhraseFaults (Nat × Nat) Nat :=
  ⟨.done, .done, none, .done, .done, .done, .done, .done, .done, .done, .done, .done, .done, .done,
    .done⟩

/-- The step of a vault of numbers, in which every document is valid. -/
abbrev sampleStep := step (φ := Nat) (ς := Nat) (κ := Nat × Nat) (δ := Nat) Prod.mk
  (fun _ => false) (fun _ => true)

theorem sampleDirectory_stored :
    Stored (φ := Nat) Prod.mk (fun _ => true) 1 10 sampleDirectory := by
  refine ⟨⟨⟨5, 0, rfl, rfl⟩, rfl⟩, fun identifier hidentifier => ?_⟩
  have hne : Name.snapshot identifier ≠ .snapshot 0 := by
    intro heq
    rw [Name.snapshot.inj heq] at hidentifier
    exact absurd hidentifier (by decide)
  exact if_neg hne

/-- A vault opened, a document committed and the phrase changed. -/
theorem vault_run_changed :
    ∃ before : Nat × Nat, before.2 ∈ [10, 20] ∧
      Intact Prod.mk (fun _ => true) before.1 before.2 (run sampleStep ⟨sampleDirectory, none, none⟩
        [.unlock .done .done 1, .commit sampleCommit 20, .preparePhraseChange ⟨7, 2⟩,
          .confirmPhraseChange samplePhrase 7 1 2 6]) := by
  have hcommit : ¬ sampleCommit.lost := by simp [CommitFaults.lost, sampleCommit]
  have hphrase : ¬ samplePhrase.lost := by simp [PhraseFaults.lost, samplePhrase]
  obtain ⟨before, hcommitted, hintact, -⟩ := vault_run (fun _ => false)
    (fun salt a b h => congrArg Prod.fst h) sampleDirectory_stored
    [.unlock .done .done 1, .commit sampleCommit 20, .preparePhraseChange ⟨7, 2⟩,
      .confirmPhraseChange samplePhrase 7 1 2 6]
    ⟨trivial, fun hlost => absurd hlost hcommit, trivial, fun hlost => absurd hlost hphrase,
      trivial⟩
  exact ⟨before, hcommitted, hintact⟩

/-- Read back the metadata cannot be, so that the snapshot they name is removed:
the change of phrase failed and no phrase opens the vault; and a commit that
failed to synchronise the directory is in the vault all the same. -/
theorem vault_lost :
    let opened := run sampleStep ⟨sampleDirectory, none, none⟩
      [.unlock .done .done 1, .preparePhraseChange ⟨7, 2⟩]
    let change := Event.confirmPhraseChange { samplePhrase with readBack := .fails } 7 1 2 6
    let commit := Event.commit { sampleCommit with sync := .fails } 20
    answer sampleStep opened change = .failed ∧
      (∀ phrase, opensOn Prod.mk (fun _ => true) phrase (next sampleStep opened change).directory =
        none) ∧
      answer sampleStep opened commit = .failed ∧
      opensOn Prod.mk (fun _ => true) 1 (next sampleStep opened commit).directory = some 20 := by
  refine ⟨by decide, fun phrase => rfl, by decide, by decide⟩

end Vault

end YourCloud.App
