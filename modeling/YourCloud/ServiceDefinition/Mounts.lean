import YourCloud.Foundation.Paths
import YourCloud.ServiceDefinition

/-!
# The container paths of a definition

A definition may mount a path once, and no path inside another one.

## Main results

* `validateContainerPath_iff` — what a container path is.
* `validateMounts_iff` — which paths a definition may mount.
-/

namespace YourCloud.ServiceDefinition

open YourCloud.Foundation
open YourCloud.Foundation.Paths

/-- The separator of a path. -/
abbrev slash : UInt8 := 0x2F

/-- What a container path splits into: names, none of which moves to another directory. -/
structure Segments (segments : List Bytes) : Prop where
  some : segments ≠ []
  canonical : ∀ segment ∈ segments, canonicalPathSegment segment = true
  absolute : ∀ segment ∈ segments, segment ≠ text "." ∧ segment ≠ text ".."
  short : (pathOf slash segments).length ≤ maxContainerPathBytes

/-- A container path. -/
def ContainerPath (path : Bytes) : Prop := ∃ segments, path = pathOf slash segments ∧ Segments segments

theorem canonicalPathSegment_slash {segment : Bytes} (h : canonicalPathSegment segment = true) :
    slash ∉ segment := by
  intro hmem
  simp only [canonicalPathSegment, Bool.and_eq_true, List.all_eq_true] at h
  have hslash := h.2 slash hmem
  revert hslash
  decide

theorem Segments.slash {segments : List Bytes} (h : Segments segments) :
    ∀ segment ∈ segments, ServiceDefinition.slash ∉ segment := fun segment hsegment =>
  canonicalPathSegment_slash (h.canonical segment hsegment)

/-- One segment passes exactly where it is a name, and no relative one. -/
theorem segment_ok_iff {field path segment : Bytes} :
    (do
      demand (segment ≠ []) (ofPath field path (say " must not carry an empty segment"))
      demand (segment ≠ text "." && segment ≠ text "..")
        (ofPath field path (say " must not carry a relative segment"))
      demand (canonicalPathSegment segment)
        (ofPath field path
          (say " must carry only lower-case letters, digits, dots, underscores and hyphens"))) =
      Except.ok () ↔
      canonicalPathSegment segment = true ∧ segment ≠ text "." ∧ segment ≠ text ".." := by
  have hempty : canonicalPathSegment segment = true → segment ≠ [] := by
    intro h hnil
    rw [hnil] at h
    exact absurd h (by decide)
  simp only [bind_ok_iff, demand_eq_ok, Bool.and_eq_true, decide_eq_true_eq]
  constructor
  · rintro ⟨_, _, _, hrelative, hcanonical⟩
    exact ⟨hcanonical, hrelative⟩
  · rintro ⟨hcanonical, hrelative⟩
    exact ⟨(), hempty hcanonical, (), hrelative, hcanonical⟩

theorem pathOf_head {segments : List Bytes} (h : segments ≠ []) :
    (pathOf slash segments).head? = some slash := by
  cases segments with
  | nil => exact absurd rfl h
  | cons segment segments => rfl

/-- A path whose last segment is not empty does not end on a separator. -/
theorem pathOf_last {segments : List Bytes} (h : Segments segments) :
    (pathOf slash segments).getLast? ≠ some slash := by
  cases List.eq_nil_or_concat segments with
  | inl hnil => exact absurd hnil h.some
  | inr hsplit =>
      obtain ⟨before, last, hsplit⟩ := hsplit
      have hlast : last ∈ segments := by simp [hsplit]
      have hcanonical := h.canonical last hlast
      have hne : last ≠ [] := by
        intro hnil
        rw [hnil] at hcanonical
        exact absurd hcanonical (by decide)
      rw [hsplit, List.concat_eq_append, pathOf_append, pathOf_cons, pathOf_nil, List.append_nil,
        List.getLast?_append_cons, List.getLast?_cons_of_ne_nil hne]
      intro hend
      exact h.slash last hlast (List.mem_of_getLast? hend)

theorem validateContainerPath_iff {field path : Bytes} {segments : List Bytes} :
    validateContainerPath field path = .ok segments ↔
      path = pathOf slash segments ∧ Segments segments := by
  unfold validateContainerPath
  constructor
  · intro h
    obtain ⟨_, hhead, h⟩ := bind_ok_iff.1 h
    obtain ⟨_, hroot, h⟩ := bind_ok_iff.1 h
    obtain ⟨_, hlength, h⟩ := bind_ok_iff.1 h
    obtain ⟨_, hlast, h⟩ := bind_ok_iff.1 h
    obtain ⟨⟨⟩, hsegments, h⟩ := bind_ok_iff.1 h
    have hsplit : path.tail.splitOn slash = segments := Except.ok.inj h
    rw [forM_ok_iff, hsplit] at hsegments
    have hpath : path = pathOf slash segments := by
      rw [← hsplit, pathOf_splitOn]
      cases path with
      | nil => simp [demand_eq_ok] at hhead
      | cons b rest =>
          have hb : b = slash := by simpa [demand_eq_ok] using hhead
          rw [hb, List.tail_cons]
    refine ⟨hpath, ?_, ?_, ?_, ?_⟩
    · rw [← hsplit]
      exact List.splitOn_ne_nil slash _
    · intro segment hsegment
      exact (segment_ok_iff.1 (hsegments segment hsegment)).1
    · intro segment hsegment
      exact (segment_ok_iff.1 (hsegments segment hsegment)).2
    · rw [← hpath]
      exact of_decide_eq_true (demand_eq_ok.1 hlength)
  · rintro ⟨hpath, h⟩
    have hsplit : path.tail.splitOn slash = segments := by
      rw [hpath]
      exact splitOn_pathOf h.some h.slash
    have hhead : path.head? = some slash := by
      rw [hpath]
      exact pathOf_head h.some
    have hlast : path.getLast? ≠ some slash := by
      rw [hpath]
      exact pathOf_last h
    have hroot : path ≠ text "/" := by
      intro hroot
      rw [hroot] at hlast
      exact hlast rfl
    have hlength : path.length ≤ maxContainerPathBytes := by
      rw [hpath]
      exact h.short
    refine bind_ok_iff.2 ⟨(), demand_eq_ok.2 (decide_eq_true hhead), ?_⟩
    refine bind_ok_iff.2 ⟨(), demand_eq_ok.2 (decide_eq_true hroot), ?_⟩
    refine bind_ok_iff.2 ⟨(), demand_eq_ok.2 (decide_eq_true hlength), ?_⟩
    refine bind_ok_iff.2 ⟨(), demand_eq_ok.2 (decide_eq_true hlast), ?_⟩
    refine bind_ok_iff.2 ⟨(), forM_ok_iff.2 ?_, congrArg Except.ok hsplit⟩
    intro segment hsegment
    rw [hsplit] at hsegment
    exact segment_ok_iff.2 ⟨h.canonical segment hsegment, h.absolute segment hsegment⟩

/-! ## The lists of a definition -/

/-- A path of a list, with what it splits into. -/
structure Mount.Reads (mount : Mount) : Prop where
  path : mount.path = pathOf ServiceDefinition.slash mount.segments
  segments : Segments mount.segments

theorem declareMounts_iff {field : Bytes} {entries : List Bytes} {mounts : List Mount} :
    declareMounts field entries = .ok mounts ↔
      entries = mounts.map (·.path) ∧ ∀ mount ∈ mounts, mount.field = field ∧ mount.Reads := by
  unfold declareMounts
  rw [mapM_ok_iff]
  induction entries generalizing mounts with
  | nil => cases mounts <;> simp
  | cons path entries ih =>
      cases mounts with
      | nil => simp
      | cons mount mounts =>
          rw [List.forall₂_cons, ih, List.map_cons, List.cons.injEq, List.forall_mem_cons]
          have hread : (do
              let segments ← validateContainerPath field path
              return (⟨field, path, segments⟩ : Mount)) = Except.ok mount ↔
              path = mount.path ∧ mount.field = field ∧ mount.Reads := by
            rw [bind_ok_iff]
            constructor
            · rintro ⟨segments, hsegments, hmount⟩
              rw [← Except.ok.inj hmount]
              have hreads := validateContainerPath_iff.1 hsegments
              exact ⟨rfl, rfl, hreads.1, hreads.2⟩
            · rintro ⟨rfl, rfl, hreads⟩
              exact ⟨mount.segments,
                validateContainerPath_iff.2 ⟨hreads.path, hreads.segments⟩, rfl⟩
          rw [hread]
          constructor
          · rintro ⟨⟨hpath, hmount⟩, hentries, hmounts⟩
            exact ⟨⟨hpath, hentries⟩, hmount, hmounts⟩
          · rintro ⟨⟨hpath, hentries⟩, hmount, hmounts⟩
            exact ⟨⟨hpath, hmount⟩, hentries, hmounts⟩

/-- A list of container paths is read. -/
theorem declareMounts_total (field : Bytes) {entries : List Bytes}
    (h : ∀ path ∈ entries, ContainerPath path) :
    ∃ mounts, declareMounts field entries = .ok mounts := by
  induction entries with
  | nil => exact ⟨[], rfl⟩
  | cons path entries ih =>
      rw [List.forall_mem_cons] at h
      obtain ⟨⟨segments, hpath, hsegments⟩, hrest⟩ := h
      obtain ⟨mounts, hmounts⟩ := ih hrest
      refine ⟨⟨field, path, segments⟩ :: mounts, declareMounts_iff.2 ?_⟩
      have hread := declareMounts_iff.1 hmounts
      refine ⟨by rw [List.map_cons, ← hread.1], List.forall_mem_cons.2 ⟨?_, hread.2⟩⟩
      exact ⟨rfl, hpath, hsegments⟩

/-- Paths are apart where their segments are. -/
theorem Mount.Reads.apart_iff {first second : Mount} (hfirst : first.Reads)
    (hsecond : second.Reads) :
    Apart ServiceDefinition.slash first.path second.path ↔
      ¬ first.segments <+: second.segments ∧ ¬ second.segments <+: first.segments := by
  rw [hfirst.path, hsecond.path]
  exact Paths.apart_iff hfirst.segments.slash hsecond.segments.slash

theorem validateApart_iff {mounts : List Mount} (h : ∀ mount ∈ mounts, mount.Reads) :
    validateApart mounts = .ok () ↔ (mounts.map (·.path)).Pairwise (Apart slash) := by
  induction mounts with
  | nil => simp [validateApart]
  | cons mount mounts ih =>
      rw [List.forall_mem_cons] at h
      rw [validateApart, bind_ok_iff, List.map_cons, List.pairwise_cons, List.forall_mem_map,
        ih h.2]
      have hrest : (∀ other ∈ mounts, Apart slash mount.path other.path) ↔
          ∀ other ∈ mounts, (!opensOrEquals mount.segments other.segments &&
            !opensOrEquals other.segments mount.segments) = true := by
        apply forall₂_congr
        intro other hother
        rw [h.1.apart_iff (h.2 other hother)]
        simp [opensOrEquals, ← List.isPrefixOf_iff_prefix]
      rw [hrest]
      constructor
      · rintro ⟨⟨⟩, hchecked, hapart⟩
        exact ⟨fun other hother => demand_eq_ok.1 (forM_ok_iff.1 hchecked other hother), hapart⟩
      · rintro ⟨hchecked, hapart⟩
        exact ⟨(), forM_ok_iff.2 fun other hother => demand_eq_ok.2 (hchecked other hother),
          hapart⟩

theorem Mount.Reads.containerPath {mount : Mount} (h : mount.Reads) : ContainerPath mount.path :=
  ⟨mount.segments, h.path, h.segments⟩

/-- The two lists of a definition as they are read. -/
theorem declared_mounts {volumes tmpfs : List Bytes} {durable scratch : List Mount}
    (hdurable : declareMounts (text "volumes") volumes = .ok durable)
    (hscratch : declareMounts (text "tmpfs") tmpfs = .ok scratch) :
    volumes ++ tmpfs = (durable ++ scratch).map (·.path) ∧
      ∀ mount ∈ durable ++ scratch, mount.Reads := by
  have hdurable := declareMounts_iff.1 hdurable
  have hscratch := declareMounts_iff.1 hscratch
  constructor
  · rw [List.map_append, ← hdurable.1, ← hscratch.1]
  · rw [List.forall_mem_append]
    exact ⟨fun mount hmount => (hdurable.2 mount hmount).2,
      fun mount hmount => (hscratch.2 mount hmount).2⟩

/-- A definition mounts at most eight paths of each list, each of which is a container path,
and no path that is another one or inside it. -/
theorem validateMounts_iff {volumes tmpfs : List Bytes} :
    validateMounts volumes tmpfs = .ok () ↔
      volumes.length ≤ maxVolumes ∧ tmpfs.length ≤ maxTmpfs ∧
      (∀ path ∈ volumes ++ tmpfs, ContainerPath path) ∧
      (volumes ++ tmpfs).Pairwise (Apart slash) := by
  constructor
  · intro h
    obtain ⟨_, hvolumes, h⟩ := bind_ok_iff.1 h
    obtain ⟨_, htmpfs, h⟩ := bind_ok_iff.1 h
    obtain ⟨durable, hdurable, h⟩ := bind_ok_iff.1 h
    obtain ⟨scratch, hscratch, h⟩ := bind_ok_iff.1 h
    obtain ⟨hall, hreads⟩ := declared_mounts hdurable hscratch
    rw [hall]
    refine ⟨of_decide_eq_true (demand_eq_ok.1 hvolumes), of_decide_eq_true (demand_eq_ok.1 htmpfs),
      ?_, (validateApart_iff hreads).1 h⟩
    rw [List.forall_mem_map]
    exact fun mount hmount => (hreads mount hmount).containerPath
  · rintro ⟨hvolumes, htmpfs, hcontainer, hapart⟩
    rw [List.forall_mem_append] at hcontainer
    obtain ⟨durable, hdurable⟩ := declareMounts_total (text "volumes") hcontainer.1
    obtain ⟨scratch, hscratch⟩ := declareMounts_total (text "tmpfs") hcontainer.2
    obtain ⟨hall, hreads⟩ := declared_mounts hdurable hscratch
    rw [hall] at hapart
    refine bind_ok_iff.2 ⟨(), demand_eq_ok.2 (decide_eq_true hvolumes), ?_⟩
    refine bind_ok_iff.2 ⟨(), demand_eq_ok.2 (decide_eq_true htmpfs), ?_⟩
    refine bind_ok_iff.2 ⟨durable, hdurable, ?_⟩
    exact bind_ok_iff.2 ⟨scratch, hscratch, (validateApart_iff hreads).2 hapart⟩

theorem mounts_of_validate {document : Document} (h : document.validate = .ok ()) :
    validateMounts document.volumes document.tmpfs = .ok () := by
  obtain ⟨_, -, h⟩ := bind_ok_iff.1 h
  obtain ⟨_, -, h⟩ := bind_ok_iff.1 h
  obtain ⟨_, -, h⟩ := bind_ok_iff.1 h
  obtain ⟨_, -, h⟩ := bind_ok_iff.1 h
  obtain ⟨⟨⟩, hmounts, -⟩ := bind_ok_iff.1 h
  exact hmounts

theorem slug_of_validate {document : Document} (h : document.validate = .ok ()) :
    canonicalSlug document.slug = true := by
  obtain ⟨_, -, h⟩ := bind_ok_iff.1 h
  obtain ⟨_, hslug, -⟩ := bind_ok_iff.1 h
  obtain ⟨_, hcanonical, -⟩ := bind_ok_iff.1 hslug
  exact demand_eq_ok.1 hcanonical

/-! ## Two definitions -/

/-- One that keeps data, and reads the origin of its plan. -/
def labNotes : Document where
  schemaVersion := 1
  slug := text "lab-notes"
  imageRepository := text "registry.lab.your-cloud.test/your-cloud/lab-notes"
  containerPort := 8080
  volumes := [text "/srv/notes", text "/var/lib/lab-notes"]
  tmpfs := [text "/tmp"]
  environment := [text "LAB_NOTES_TITLE=Your Cloud lab notes",
    text "LAB_NOTES_ORIGIN=https://\x7borigin_host\x7d/", text "LAB_NOTES_READ_ONLY=1"]
  secretKeys := [text "LAB_NOTES_ADMIN_TOKEN"]

/-- One that declares nothing, and listens below the ports a service may take. -/
def minimal : Document where
  schemaVersion := 1
  slug := text "minimal"
  imageRepository := text "registry.lab.your-cloud.test/minimal"
  containerPort := 80
  volumes := []
  tmpfs := []
  environment := []
  secretKeys := []

theorem labNotes_valid : labNotes.validate = .ok () := by decide

theorem minimal_valid : minimal.validate = .ok () := by decide

end YourCloud.ServiceDefinition
