import Mathlib.Data.List.DropRight
import YourCloud.Auxiliary.Host
import YourCloud.Auxiliary.Isolation
import YourCloud.Foundation.Gather

/-!
# The directories of the data of a service

A volume lies some directories below the root of the data of its service.  A directory
that exists only because one below it was made has an owner and a mode that nobody
stated, so all of them are named, each once and after the one it is in.

## Main results

* `descendTo_below` — what is named on the way down to a path.
* `durableDirectories_ordered` — what is named for a placement.
-/

namespace YourCloud.Auxiliary

open YourCloud.Foundation
open YourCloud.Foundation.Paths
open YourCloud.Foundation.Gather
open ServiceDefinition (Document slash Segments)

/-- The directory a path lies in. -/
def parentOf (path : Bytes) : Bytes := (path.rdropWhile (· ≠ slash)).dropLast

/-- A path strictly below a root. -/
def Below (root path : Bytes) : Prop := root ++ [slash] <+: path

/-- A root, or a path of named directories below it. -/
def Descends (root path : Bytes) : Prop :=
  ∃ segments : List Bytes, (∀ segment ∈ segments, segment ≠ [] ∧ slash ∉ segment) ∧
    path = root ++ pathOf slash segments

theorem parentOf_append {segment : Bytes} (root : Bytes) (h : slash ∉ segment) :
    parentOf (root ++ slash :: segment) = root := by
  have hall : ∀ b ∈ segment.reverse, decide (b ≠ slash) = true := by
    intro b hb
    rw [decide_eq_true_eq]
    intro hslash
    rw [List.mem_reverse, hslash] at hb
    exact h hb
  have hdrop : (root ++ slash :: segment).rdropWhile (· ≠ slash) = root ++ [slash] := by
    rw [List.rdropWhile, List.reverse_append, List.reverse_cons, List.append_assoc,
      List.dropWhile_append_of_pos hall]
    simp
  rw [parentOf, hdrop, List.dropLast_concat]

theorem below_append (root segment : Bytes) : Below root (root ++ slash :: segment) :=
  ⟨segment, by simp⟩

theorem Below.trans {root path other : Bytes} (h : Below root path) (hother : path <+: other) :
    Below root other := List.IsPrefix.trans h hother

/-! ## The way down to one path -/

/-- The directories on the way down some segments. -/
def descents (root : Bytes) (segments : List Bytes) : List Bytes :=
  (segments.inits.drop 1).map fun descent => root ++ pathOf slash descent

@[simp] theorem descents_nil (root : Bytes) : descents root [] = [] := rfl

theorem descents_cons (root segment : Bytes) (segments : List Bytes) :
    descents root (segment :: segments) =
      (root ++ slash :: segment) :: descents (root ++ slash :: segment) segments := by
  cases segments with
  | nil => simp [descents]
  | cons other segments => simp [descents, Function.comp_def]

/-- Every directory on the way down lies in the one before it. -/
theorem descents_follow {root : Bytes} {segments seen : List Bytes} {child : Bytes → Prop}
    (hsegments : ∀ segment ∈ segments, slash ∉ segment) (hroot : root ∈ seen) :
    Follows child parentOf seen (descents root segments) := by
  induction segments generalizing root seen with
  | nil => trivial
  | cons segment segments ih =>
      rw [List.forall_mem_cons] at hsegments
      rw [descents_cons]
      constructor
      · intro _
        rw [parentOf_append root hsegments.1]
        exact hroot
      · exact ih hsegments.2 (List.mem_append_right _ (List.mem_singleton_self _))

theorem descents_below {root directory : Bytes} {segments : List Bytes}
    (h : directory ∈ descents root segments) : Below root directory := by
  induction segments generalizing root with
  | nil => simp at h
  | cons segment segments ih =>
      rw [descents_cons, List.mem_cons] at h
      cases h with
      | inl hfirst =>
          rw [hfirst]
          exact below_append root segment
      | inr hrest =>
          have hdeeper := ih hrest
          exact (below_append root segment).trans ((List.prefix_append _ _).trans hdeeper)

/-- The way down ends where it leads. -/
theorem mem_descents (root : Bytes) {segments : List Bytes} (h : segments ≠ []) :
    root ++ pathOf slash segments ∈ descents root segments := by
  induction segments generalizing root with
  | nil => exact absurd rfl h
  | cons segment segments ih =>
      rw [descents_cons, pathOf_cons]
      by_cases hnil : segments = []
      · simp [hnil]
      · have hrest := ih (root ++ slash :: segment) hnil
        rw [List.append_assoc, List.cons_append] at hrest
        exact List.mem_cons_of_mem _ hrest

/-- What is named on the way to a path: nothing for the root, the path alone where it is not
below the root, and else the way down its segments. -/
theorem descendTo_below {root path : Bytes} (hroot : path ≠ root) (h : Below root path) :
    ∃ segments : List Bytes, (∀ segment ∈ segments, slash ∉ segment) ∧
      Placement.descendTo root path = descents root segments := by
  obtain ⟨below, rfl⟩ := h
  refine ⟨(splitOn 0x2F below).filter (· ≠ []), ?_, ?_⟩
  · intro segment hsegment
    exact not_mem_of_mem_splitOn (List.mem_of_mem_filter hsegment)
  · have hcut : cutPrefix (root ++ text "/") (root ++ [slash] ++ below) = some below :=
      cutPrefix_append (root ++ text "/") below
    rw [Placement.descendTo, if_neg hroot, hcut]
    rfl

theorem descendTo_beside {root path : Bytes} (hroot : path ≠ root) (h : ¬ Below root path) :
    Placement.descendTo root path = [path] := by
  have hcut : cutPrefix (root ++ text "/") path = none := by
    rw [cutPrefix, if_neg]
    rw [List.isPrefixOf_iff_prefix]
    exact h
  rw [Placement.descendTo, if_neg hroot, hcut]

theorem descendTo_root (root : Bytes) : Placement.descendTo root root = [] := if_pos rfl

/-- On every way down, what lies below the root lies in what is there, or in what was named. -/
theorem descendTo_follows (root path : Bytes) :
    Follows (Below root) parentOf [root] (Placement.descendTo root path) := by
  by_cases hroot : path = root
  · rw [hroot, descendTo_root]
    trivial
  · by_cases hbelow : Below root path
    · obtain ⟨segments, hsegments, hway⟩ := descendTo_below hroot hbelow
      rw [hway]
      exact descents_follow hsegments (List.mem_singleton_self root)
    · rw [descendTo_beside hroot hbelow]
      exact ⟨fun h => absurd h hbelow, trivial⟩

/-- A path of named directories is where its way down ends. -/
theorem mem_descendTo {root path : Bytes} (h : Descends root path) :
    path = root ∨ path ∈ Placement.descendTo root path := by
  obtain ⟨segments, hsegments, rfl⟩ := h
  by_cases hnil : segments = []
  · left
    rw [hnil, pathOf_nil, List.append_nil]
  · right
    have hslash : ∀ segment ∈ segments, slash ∉ segment := fun s hs => (hsegments s hs).2
    have hpath : pathOf slash segments = slash :: (pathOf slash segments).tail := by
      cases segments with
      | nil => exact absurd rfl hnil
      | cons segment segments => rfl
    have hne : root ++ pathOf slash segments ≠ root := by
      rw [hpath]
      simp
    have hcut : cutPrefix (root ++ text "/") (root ++ pathOf slash segments) =
        some (pathOf slash segments).tail := by
      rw [hpath, List.append_cons, List.tail_cons]
      exact cutPrefix_append (root ++ text "/") _
    have hnames : (splitOn 0x2F (pathOf slash segments).tail).filter (· ≠ []) = segments := by
      rw [splitOn, splitOn_pathOf hnil hslash, List.filter_eq_self]
      intro segment hsegment
      exact decide_eq_true (hsegments segment hsegment).1
    rw [Placement.descendTo, if_neg hne, hcut]
    simp only [hnames]
    exact mem_descents root hnil

theorem descendTo_mem {root path directory : Bytes} (h : Descends root path)
    (hdirectory : directory ∈ Placement.descendTo root path) : Below root directory := by
  by_cases hroot : path = root
  · rw [hroot, descendTo_root] at hdirectory
    cases hdirectory
  · by_cases hbelow : Below root path
    · obtain ⟨segments, -, hway⟩ := descendTo_below hroot hbelow
      rw [hway] at hdirectory
      exact descents_below hdirectory
    · rw [descendTo_beside hroot hbelow, List.mem_singleton] at hdirectory
      obtain ⟨segments, -, hpath⟩ := h
      cases segments with
      | nil => exact absurd (by rw [hpath, pathOf_nil, List.append_nil]) hroot
      | cons segment segments =>
          rw [hdirectory, hpath]
          exact below_append root _

/-! ## All the directories of a placement -/

namespace Placement

theorem durableDirectories_eq {placement : Placement} (h : placement.bearsData = true) :
    placement.durableDirectories = gather [placement.dataDirectory]
      (placement.volumes.flatMap fun mount => descendTo placement.dataDirectory mount.host) := by
  have hadd : (fun (directories : List Bytes) directory =>
      if directory ∈ directories then directories else directories ++ [directory]) = add := by
    funext directories directory
    by_cases hmem : directory ∈ directories
    · rw [if_pos hmem, add_of_mem hmem]
    · rw [if_neg hmem, add_of_not_mem hmem]
  rw [durableDirectories, if_pos h, hadd]
  rfl

theorem durableDirectories_nil {placement : Placement} (h : placement.bearsData = false) :
    placement.durableDirectories = [] := by
  rw [durableDirectories, if_neg (by simp [h])]

end Placement

/-- Directories that are named once each, the root first and each after the one it is in. -/
structure ParentsFirst (root : Bytes) (directories : List Bytes) : Prop where
  nodup : directories.Nodup
  root_first : directories.head? = some root
  parent_first : ∀ before directory after, directories = before ++ directory :: after →
    Below root directory → parentOf directory ∈ before
  closed : ∀ directory ∈ directories, Below root directory → parentOf directory ∈ directories

theorem parentsFirst_of_ordered {root : Bytes} {directories : List Bytes}
    (hnodup : directories.Nodup) (hroot : directories.head? = some root)
    (hordered : Ordered (Below root) parentOf directories) : ParentsFirst root directories where
  nodup := hnodup
  root_first := hroot
  parent_first := hordered
  closed := by
    intro directory hmem hbelow
    obtain ⟨before, after, hsplit⟩ := List.append_of_mem hmem
    have hparent := hordered before directory after hsplit hbelow
    rw [hsplit]
    exact List.mem_append_left _ hparent

/-- A root alone is in order: it is not below itself. -/
theorem ordered_root (root : Bytes) : Ordered (Below root) parentOf [root] := by
  intro before directory after hsplit hbelow
  have hdirectory : directory = root := by
    have hmem : directory ∈ [root] := by simp [hsplit]
    exact List.mem_singleton.1 hmem
  rw [hdirectory] at hbelow
  have hlength := hbelow.length_le
  simp at hlength

namespace Placement

theorem durableDirectories_parentsFirst {placement : Placement} (h : placement.bearsData = true) :
    ParentsFirst placement.dataDirectory placement.durableDirectories := by
  rw [durableDirectories_eq h]
  apply parentsFirst_of_ordered
  · exact gather_nodup (List.nodup_singleton _) _
  · obtain ⟨rest, hrest⟩ := gather_prefix [placement.dataDirectory]
      (placement.volumes.flatMap fun mount => descendTo placement.dataDirectory mount.host)
    simp [← hrest]
  · apply gather_ordered (ordered_root _)
    apply Follows.flatMap
    intro mount _
    exact descendTo_follows _ _

theorem host_mem_durableDirectories {placement : Placement} (h : placement.bearsData = true)
    {mount : VolumeMount} (hmount : mount ∈ placement.volumes)
    (hhost : Descends placement.dataDirectory mount.host) :
    mount.host ∈ placement.durableDirectories := by
  rw [durableDirectories_eq h, mem_gather, List.mem_singleton, List.mem_flatMap]
  exact (mem_descendTo hhost).imp_right fun hmem => ⟨mount, hmount, hmem⟩

/-- Where every host descends from the root, so does every directory that is named. -/
theorem durableDirectories_inside {placement : Placement}
    (h : ∀ mount ∈ placement.volumes, Descends placement.dataDirectory mount.host)
    {directory : Bytes} (hdirectory : directory ∈ placement.durableDirectories) :
    directory = placement.dataDirectory ∨ Below placement.dataDirectory directory := by
  by_cases hdata : placement.bearsData = true
  · rw [durableDirectories_eq hdata, mem_gather, List.mem_singleton, List.mem_flatMap] at hdirectory
    apply hdirectory.imp_right
    intro hnamed
    obtain ⟨mount, hmount, hmem⟩ := hnamed
    exact descendTo_mem (h mount hmount) hmem
  · rw [durableDirectories_nil (by simpa using hdata)] at hdirectory
    cases hdirectory

/-- The placements there are: one for each profile, for the two doors, and for each revision
of a user service. -/
inductive Derived : Placement → Prop
  | probe : Derived probePlacement
  | bentoPDF : Derived bentoPDFPlacement
  | vaultwarden : Derived vaultwardenPlacement
  | entrypoint : Derived entrypointPlacement
  | slug (slug : Bytes) : Derived (userServicePlacementOfSlug slug)
  | revision (definition : Document) (imageDigest originHost : Bytes) :
      definition.validate = .ok () →
        Derived (userServicePlacementOf definition imageDigest originHost)

theorem revision_descends {definition : Document} (h : definition.validate = .ok ())
    {imageDigest originHost : Bytes} {mount : VolumeMount}
    (hmount : mount ∈ (userServicePlacementOf definition imageDigest originHost).volumes) :
    Descends (userServicePlacementOf definition imageDigest originHost).dataDirectory mount.host := by
  have hhost : mount.host ∈
      (userServicePlacementOf definition imageDigest originHost).volumes.map (·.host) :=
    List.mem_map_of_mem hmount
  obtain ⟨segments, hsegments, hpath⟩ := mem_hosts h hhost
  have hroot : (userServicePlacementOf definition imageDigest originHost).dataDirectory =
      (userServicePlacementOfSlug definition.slug).dataDirectory :=
    if_neg (List.ne_nil_of_mem hmount)
  refine ⟨segments, ?_, by rw [hpath, hroot, host_eq]⟩
  intro segment hsegment
  constructor
  · intro hnil
    have hcanonical := hsegments.canonical segment hsegment
    rw [hnil] at hcanonical
    exact absurd hcanonical (by decide)
  · exact hsegments.slash segment hsegment

theorem Derived.descends {placement : Placement} (h : Derived placement) :
    ∀ mount ∈ placement.volumes, Descends placement.dataDirectory mount.host := by
  intro mount hmount
  cases h with
  | probe => cases hmount
  | bentoPDF => cases hmount
  | vaultwarden =>
      rw [List.mem_singleton.1 hmount]
      exact ⟨[], List.forall_mem_nil _, (List.append_nil _).symm⟩
  | entrypoint => cases hmount
  | slug slug => cases hmount
  | revision definition imageDigest originHost hvalid => exact revision_descends hvalid hmount

theorem Derived.volumes_nil {placement : Placement} (h : Derived placement)
    (hdata : placement.bearsData = false) : placement.volumes = [] := by
  cases h with
  | probe => rfl
  | bentoPDF => rfl
  | vaultwarden => exact absurd hdata (by decide)
  | entrypoint => rfl
  | slug slug => rfl
  | revision definition imageDigest originHost hvalid =>
      by_contra hvolumes
      have hroot : (userServicePlacementOf definition imageDigest originHost).dataDirectory =
          (userServicePlacementOfSlug definition.slug).dataDirectory := if_neg hvolumes
      have hends : text "/volumes" ≠ [] := by decide
      simp [bearsData, hroot, userServicePlacementOfSlug, hends] at hdata

/-- Of every placement that keeps data, the directories are named once each, the root first,
each that lies below the root after the one it lies in, which is named too, and the path of
every volume that descends from the root is among them.  In the placements there are, every
volume does, so that every directory is the root or below it; one that keeps no data has no
volume, and names no directory. -/
theorem durableDirectories_ordered :
    (∀ placement : Placement, placement.bearsData = true →
      ParentsFirst placement.dataDirectory placement.durableDirectories ∧
      ∀ mount ∈ placement.volumes, Descends placement.dataDirectory mount.host →
        mount.host ∈ placement.durableDirectories) ∧
    ∀ placement : Placement, Derived placement →
      (∀ mount ∈ placement.volumes, Descends placement.dataDirectory mount.host) ∧
      (∀ directory ∈ placement.durableDirectories,
        directory = placement.dataDirectory ∨ Below placement.dataDirectory directory) ∧
      (placement.bearsData = false → placement.volumes = [] ∧ placement.durableDirectories = []) := by
  constructor
  · intro placement hdata
    refine ⟨durableDirectories_parentsFirst hdata, ?_⟩
    intro mount hmount hhost
    exact host_mem_durableDirectories hdata hmount hhost
  · intro placement hderived
    refine ⟨hderived.descends, ?_, ?_⟩
    · intro directory hdirectory
      exact durableDirectories_inside hderived.descends hdirectory
    · intro hdata
      exact ⟨hderived.volumes_nil hdata, durableDirectories_nil hdata⟩

/-- Every directory on the way to two volumes is named. -/
theorem durableDirectories_labNotes :
    (userServicePlacementOf ServiceDefinition.labNotes [] []).durableDirectories =
      [[], text "/srv", text "/srv/notes", text "/var", text "/var/lib", text "/var/lib/lab-notes"].map
        ((userServicePlacementOfSlug (text "lab-notes")).dataDirectory ++ ·) ∧
    ParentsFirst (userServicePlacementOf ServiceDefinition.labNotes [] []).dataDirectory
      (userServicePlacementOf ServiceDefinition.labNotes [] []).durableDirectories ∧
    ∀ mount ∈ (userServicePlacementOf ServiceDefinition.labNotes [] []).volumes,
      mount.host ∈ (userServicePlacementOf ServiceDefinition.labNotes [] []).durableDirectories := by
  have hderived := Derived.revision _ [] [] ServiceDefinition.labNotes_valid
  have hdescends := (durableDirectories_ordered.2 _ hderived).1
  have hnamed := durableDirectories_ordered.1
    (userServicePlacementOf ServiceDefinition.labNotes [] []) (by decide)
  refine ⟨by decide, hnamed.1, ?_⟩
  intro mount hmount
  exact hnamed.2 mount hmount (hdescends mount hmount)

end Placement

end YourCloud.Auxiliary
