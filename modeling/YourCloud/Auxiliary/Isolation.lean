import YourCloud.Auxiliary.UserServices

/-!
# What user services share on a machine

A volume lives below the home of its service, at the path it has in the container.  A
name and a path are written next to each other here, so what keeps the services apart is
that neither of them is read past its separator.

## Main results

* `host_apart` — a volume shares no directory with what another home holds, nor with
  what is beside it in its own.
* `mounts_isolated` — which mounts a definition may declare, and what they never share.
-/

namespace YourCloud.Auxiliary

open YourCloud.Foundation
open YourCloud.Foundation.Paths
open ServiceDefinition (Document slash ContainerPath Segments validateMounts_iff mounts_of_validate
  slug_of_validate)

/-- Where a service keeps what is none of its volumes. -/
def Placement.beside (placement : Placement) : List Bytes :=
  [placement.snapshotDirectory, placement.secretsDirectory, placement.environmentFilePath,
    placement.sheetDirectory].filter (· ≠ [])

/-- The home of a service, by its directories. -/
def homeSegments (slug : Bytes) : List Bytes := [text "var", text "lib", userServiceAccount slug]

/-- A name that no separator cuts. -/
def Unbroken (slug : Bytes) : Prop := slash ∉ slug

theorem unbroken_of_canonicalSlug {slug : Bytes} (h : ServiceDefinition.canonicalSlug slug = true) :
    Unbroken slug := by
  intro hmem
  simp only [ServiceDefinition.canonicalSlug, Bool.and_eq_true, List.all_eq_true] at h
  have hslash := h.1.2 slash hmem
  revert hslash
  decide

theorem homeSegments_slash {slug : Bytes} (h : Unbroken slug) :
    ∀ segment ∈ homeSegments slug, slash ∉ segment := by
  have hopening : slash ∉ text "your-cloud-user-" := by decide
  have haccount : slash ∉ userServiceAccount slug := by
    rw [userServiceAccount, List.mem_append, not_or]
    exact ⟨hopening, h⟩
  simp only [homeSegments, List.forall_mem_cons]
  exact ⟨by decide, by decide, haccount, List.forall_mem_nil _⟩

theorem userServiceAccount_injective {first second : Bytes}
    (h : userServiceAccount first = userServiceAccount second) : first = second :=
  List.append_cancel_left h

theorem userServiceAccount_length {slug : Bytes} (h : slug.length ≤ 16) :
    (userServiceAccount slug).length ≤ 32 := by
  have hopening : (text "your-cloud-user-").length = 16 := by decide
  rw [userServiceAccount, List.length_append]
  omega

theorem userServicePlacementOfSlug_home (slug : Bytes) :
    (userServicePlacementOfSlug slug).home = pathOf slash (homeSegments slug) := by
  have hroot : homeRoot = slash :: (text "var" ++ slash :: (text "lib" ++ [slash])) := by decide
  show homeRoot ++ userServiceAccount slug = _
  rw [hroot]
  simp [homeSegments]

/-- A text behind a home is a path of it. -/
theorem pathOf_home (slug : Bytes) (segments : List Bytes) :
    homeRoot ++ userServiceAccount slug ++ pathOf slash segments =
      pathOf slash (homeSegments slug ++ segments) := by
  rw [pathOf_append, ← userServicePlacementOfSlug_home]
  rfl

/-- What lies in two homes is apart, and what lies in one under two names. -/
theorem apart_homes {first second a b : Bytes} {as bs : List Bytes} (hfirst : Unbroken first)
    (hsecond : Unbroken second) (has : ∀ segment ∈ a :: as, slash ∉ segment)
    (hbs : ∀ segment ∈ b :: bs, slash ∉ segment) (h : first ≠ second ∨ a ≠ b) :
    Apart slash (pathOf slash (homeSegments first ++ a :: as))
      (pathOf slash (homeSegments second ++ b :: bs)) := by
  have hleft := List.forall_mem_append.2 ⟨homeSegments_slash hfirst, has⟩
  have hright := List.forall_mem_append.2 ⟨homeSegments_slash hsecond, hbs⟩
  by_cases hsame : first = second
  · rw [hsame] at hleft ⊢
    cases h with
    | inl hne => exact absurd hsame hne
    | inr hne => exact apart_of_ne hne hleft hright
  · have haccount : userServiceAccount first ≠ userServiceAccount second :=
      fun heq => hsame (userServiceAccount_injective heq)
    have hparts : ∀ slug name : Bytes, ∀ more : List Bytes, homeSegments slug ++ name :: more =
        [text "var", text "lib"] ++ userServiceAccount slug :: name :: more := fun _ _ _ => rfl
    rw [hparts] at hleft hright
    rw [hparts, hparts]
    exact apart_of_ne haccount hleft hright

/-! ## What a placement keeps -/

/-- What lies in a home under another name than the volumes. -/
def BesideVolumes (slug directory : Bytes) : Prop :=
  ∃ name more, name ≠ text "volumes" ∧ (∀ segment ∈ name :: more, slash ∉ segment) ∧
    directory = pathOf slash (homeSegments slug ++ name :: more)

theorem besideVolumes_of_eq {slug below : Bytes} (name : Bytes) (more : List Bytes)
    (hbelow : below = pathOf slash (name :: more)) (hname : name ≠ text "volumes")
    (hslash : ∀ segment ∈ name :: more, slash ∉ segment) :
    BesideVolumes slug (homeRoot ++ userServiceAccount slug ++ below) :=
  ⟨name, more, hname, hslash, by rw [hbelow, pathOf_home]⟩

theorem sheetDirectory_eq (slug : Bytes) : (userServicePlacementOfSlug slug).sheetDirectory =
    homeRoot ++ userServiceAccount slug ++ text "/.config/containers/systemd" := by
  have hroot : homeRoot ≠ [] := by decide
  have hquadlet : Placement.quadletDirectory ≠ [] := by decide
  show join (homeRoot ++ userServiceAccount slug) Placement.quadletDirectory = _
  rw [join, if_neg (List.append_ne_nil_of_left_ne_nil hroot _), if_neg hquadlet, List.append_assoc]
  rfl

theorem besideVolumes_of_mem {slug directory : Bytes}
    (h : directory ∈ (userServicePlacementOfSlug slug).beside) : BesideVolumes slug directory := by
  have hmem := List.mem_of_mem_filter h
  simp only [List.mem_cons, List.not_mem_nil, or_false] at hmem
  rcases hmem with rfl | rfl | rfl | rfl
  · exact besideVolumes_of_eq (text "snapshots") [] (by decide) (by decide) (by decide)
  · exact besideVolumes_of_eq (text "secrets") [] (by decide) (by decide) (by decide)
  · exact besideVolumes_of_eq (text "secrets.env") [] (by decide) (by decide) (by decide)
  · rw [sheetDirectory_eq]
    exact besideVolumes_of_eq (text ".config") [text "containers", text "systemd"] (by decide)
      (by decide) (by decide)

/-- Placements of one home keep the same beside their volumes, or one of them no archive. -/
theorem beside_subset {placement placement' : Placement} (hhome : placement.home = placement'.home)
    (hsnapshots : placement.snapshotDirectory = [] ∨
      placement.snapshotDirectory = placement'.snapshotDirectory) :
    placement.beside ⊆ placement'.beside := by
  unfold Placement.beside Placement.sheetDirectory Placement.secretsDirectory
    Placement.environmentFilePath
  rw [hhome]
  intro directory h
  cases hsnapshots with
  | inl hnone =>
      rw [hnone] at h
      rw [List.mem_filter] at h ⊢
      obtain ⟨hmem, hne⟩ := h
      have hsome : directory ≠ [] := of_decide_eq_true hne
      rw [List.mem_cons] at hmem
      cases hmem with
      | inl hnil => exact absurd hnil hsome
      | inr hrest => exact ⟨List.mem_cons_of_mem _ hrest, hne⟩
  | inr hsame =>
      rw [hsame] at h
      exact h

section Revision

variable (definition : Document) (imageDigest originHost : Bytes)

/-- A revision keeps nothing that its slug does not say. -/
theorem userServicePlacementOf_beside :
    (userServicePlacementOf definition imageDigest originHost).beside ⊆
      (userServicePlacementOfSlug definition.slug).beside := by
  refine beside_subset ?_ ?_
  · rfl
  unfold userServicePlacementOf
  dsimp only
  split
  · exact Or.inl rfl
  · exact Or.inr rfl

variable {definition imageDigest originHost}

theorem host_eq (definition : Document) (segments : List Bytes) :
    (userServicePlacementOfSlug definition.slug).dataDirectory ++ pathOf slash segments =
      pathOf slash (homeSegments definition.slug ++ text "volumes" :: segments) := by
  have hbelow : pathOf slash (text "volumes" :: segments) = text "/volumes" ++ pathOf slash segments :=
    rfl
  rw [← pathOf_home, hbelow, ← List.append_assoc]
  rfl

/-- The volumes of a placement lie where the paths of its definition say. -/
theorem hosts_eq : (userServicePlacementOf definition imageDigest originHost).volumes.map (·.host) =
    definition.volumes.map ((userServicePlacementOfSlug definition.slug).dataDirectory ++ ·) := by
  show (definition.volumes.map _).map _ = _
  rw [List.map_map]
  rfl

/-- A volume lies at its own path, below the volumes of its home. -/
theorem mem_hosts (h : definition.validate = .ok ()) {host : Bytes}
    (hhost : host ∈
      (userServicePlacementOf definition imageDigest originHost).volumes.map (·.host)) :
    ∃ segments, Segments segments ∧
      host = pathOf slash (homeSegments definition.slug ++ text "volumes" :: segments) := by
  rw [hosts_eq, List.mem_map] at hhost
  obtain ⟨path, hpath, rfl⟩ := hhost
  have hcontainer := (validateMounts_iff.1 (mounts_of_validate h)).2.2.1
  obtain ⟨segments, rfl, hsegments⟩ := hcontainer path (List.mem_append_left _ hpath)
  exact ⟨segments, hsegments, host_eq definition segments⟩

/-- No volume of a revision is another one, or inside it. -/
theorem hosts_pairwise (h : definition.validate = .ok ()) :
    ((userServicePlacementOf definition imageDigest originHost).volumes.map (·.host)).Pairwise
      (Apart slash) := by
  have hmounts := validateMounts_iff.1 (mounts_of_validate h)
  have hunbroken := unbroken_of_canonicalSlug (slug_of_validate h)
  have hapart := (List.pairwise_append.1 hmounts.2.2.2).1
  rw [hosts_eq, List.pairwise_map]
  refine hapart.imp_of_mem ?_
  intro first second hfirst hsecond hapart
  obtain ⟨segments, rfl, hsegments⟩ := hmounts.2.2.1 first (List.mem_append_left _ hfirst)
  obtain ⟨segments', rfl, hsegments'⟩ := hmounts.2.2.1 second (List.mem_append_left _ hsecond)
  have hcommon : ∀ segment ∈ homeSegments definition.slug ++ [text "volumes"], slash ∉ segment :=
    List.forall_mem_append.2 ⟨homeSegments_slash hunbroken, by decide⟩
  rw [host_eq, host_eq, List.append_cons, List.append_cons (homeSegments definition.slug)]
  exact (apart_append_left hcommon hsegments.slash hsegments'.slash).2 hapart

end Revision

/-- No volume shares a directory with what a home has beside its volumes. -/
theorem host_apart_beside {first second : Document} (hfirst : first.validate = .ok ())
    (hsecond : second.validate = .ok ()) {imageDigest originHost host directory : Bytes}
    (hhost : host ∈ (userServicePlacementOf first imageDigest originHost).volumes.map (·.host))
    (hdirectory : directory ∈ (userServicePlacementOfSlug second.slug).beside) :
    Apart slash host directory := by
  obtain ⟨segments, hsegments, rfl⟩ := mem_hosts hfirst hhost
  obtain ⟨name, more, hname, hslash, rfl⟩ := besideVolumes_of_mem hdirectory
  have hvolumes : slash ∉ text "volumes" := by decide
  exact apart_homes (unbroken_of_canonicalSlug (slug_of_validate hfirst))
    (unbroken_of_canonicalSlug (slug_of_validate hsecond))
    (List.forall_mem_cons.2 ⟨hvolumes, hsegments.slash⟩) hslash (Or.inr hname.symm)

/-- The volumes of two services share no directory. -/
theorem hosts_apart {first second : Document} (hfirst : first.validate = .ok ())
    (hsecond : second.validate = .ok ()) (hslug : first.slug ≠ second.slug)
    {imageDigest originHost imageDigest' originHost' host other : Bytes}
    (hhost : host ∈ (userServicePlacementOf first imageDigest originHost).volumes.map (·.host))
    (hother : other ∈ (userServicePlacementOf second imageDigest' originHost').volumes.map (·.host)) :
    Apart slash host other := by
  obtain ⟨segments, hsegments, rfl⟩ := mem_hosts hfirst hhost
  obtain ⟨segments', hsegments', rfl⟩ := mem_hosts hsecond hother
  have hvolumes : slash ∉ text "volumes" := by decide
  exact apart_homes (unbroken_of_canonicalSlug (slug_of_validate hfirst))
    (unbroken_of_canonicalSlug (slug_of_validate hsecond))
    (List.forall_mem_cons.2 ⟨hvolumes, hsegments.slash⟩)
    (List.forall_mem_cons.2 ⟨hvolumes, hsegments'.slash⟩) (Or.inl hslug)

/-- Two lists are mounted exactly where neither has more than eight paths, each path is a
container path, and none is another one or inside it.  Of two valid definitions, no volume
shares a directory with another volume of its own, with the archives, the secrets or the sheets
of either, nor, where the slugs are two, with a volume of the other; then the accounts are two
as well, and none is longer than an account may be. -/
theorem mounts_isolated :
    (∀ volumes tmpfs : List Bytes, ServiceDefinition.validateMounts volumes tmpfs = .ok () ↔
      volumes.length ≤ 8 ∧ tmpfs.length ≤ 8 ∧
      (∀ path ∈ volumes ++ tmpfs, ContainerPath path) ∧
      (volumes ++ tmpfs).Pairwise (Apart slash)) ∧
    ∀ first second : Document, first.validate = .ok () → second.validate = .ok () →
      ∀ imageDigest originHost imageDigest' originHost' : Bytes,
        let here := userServicePlacementOf first imageDigest originHost
        let there := userServicePlacementOf second imageDigest' originHost'
        (here.volumes.map (·.host)).Pairwise (Apart slash) ∧
        (∀ host ∈ here.volumes.map (·.host), ∀ directory ∈ here.beside ++ there.beside ++
            (userServicePlacementOfSlug first.slug).beside ++
            (userServicePlacementOfSlug second.slug).beside, Apart slash host directory) ∧
        here.account.length ≤ 32 ∧
        (first.slug ≠ second.slug → here.account ≠ there.account ∧
          ∀ host ∈ here.volumes.map (·.host), ∀ other ∈ there.volumes.map (·.host),
            Apart slash host other) := by
  refine ⟨fun _ _ => validateMounts_iff, ?_⟩
  intro first second hfirst hsecond imageDigest originHost imageDigest' originHost' here there
  refine ⟨hosts_pairwise hfirst, ?_, ?_, ?_⟩
  · intro host hhost directory hdirectory
    simp only [List.mem_append] at hdirectory
    rcases hdirectory with ((hown | hother) | hown) | hother
    · exact host_apart_beside hfirst hfirst hhost (userServicePlacementOf_beside _ _ _ hown)
    · exact host_apart_beside hfirst hsecond hhost (userServicePlacementOf_beside _ _ _ hother)
    · exact host_apart_beside hfirst hfirst hhost hown
    · exact host_apart_beside hfirst hsecond hhost hother
  · exact userServiceAccount_length
      (ServiceDefinition.canonicalSlug_length (slug_of_validate hfirst))
  · intro hslug
    refine ⟨fun hsame => hslug (userServiceAccount_injective hsame), ?_⟩
    exact fun host hhost other hother => hosts_apart hfirst hsecond hslug hhost hother

theorem mounts_isolated_labNotes :
    ServiceDefinition.labNotes.validate = .ok () ∧ ServiceDefinition.minimal.validate = .ok () ∧
    (userServicePlacementOf ServiceDefinition.labNotes [] []).account.length ≤ 32 :=
  ⟨ServiceDefinition.labNotes_valid, ServiceDefinition.minimal_valid,
    (mounts_isolated.2 _ _ ServiceDefinition.labNotes_valid ServiceDefinition.minimal_valid
      [] [] [] []).2.2.1⟩

/-- Nine directories next to each other. -/
def nine : List Bytes := [text "/a", text "/b", text "/c", text "/d", text "/e", text "/f", text "/g",
  text "/h", text "/i"]

/-- Nine volumes are too many, however far apart they are. -/
theorem ninth_refused :
    (∀ path ∈ nine, ContainerPath path) ∧ nine.Pairwise (Apart slash) ∧
      ServiceDefinition.validateMounts nine [] ≠ .ok () := by
  have hsplit : ServiceDefinition.validateMounts (nine.take 8) (nine.drop 8) = .ok () := by decide
  have hmounts := (validateMounts_iff.1 hsplit).2.2
  rw [List.take_append_drop] at hmounts
  exact ⟨hmounts.1, hmounts.2, by decide⟩

end YourCloud.Auxiliary
