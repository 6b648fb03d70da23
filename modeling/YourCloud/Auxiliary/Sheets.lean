import YourCloud.Auxiliary.Texts
import YourCloud.Auxiliary.Variables
import YourCloud.Plan.Fields

/-!
# What a sheet says

A sheet is written from a placement, and the service manager reads it setting by setting.
Values of a definition stand in it as they are, so that what a sheet says is what its
placement says only as long as no value leaves its line.

## Main results

* `read_renderSheet` — a sheet says what its placement says, setting by setting.
* `legible_userService`, `directives_userService` — the placement of a revision has such
  values, and says what the revision is meant to say.
-/

namespace YourCloud.Auxiliary

open YourCloud.Foundation
open YourCloud.Foundation.UnitFile (Piece Directive settings inGroup Fits Tight isTight)

/-! ## The settings of a sheet -/

def unitSettings (placement : Placement) : List (Bytes × Bytes) :=
  [(text "Description", placement.description)]

def addedSettings (placement : Placement) (originHost : Bytes) : List (Bytes × Bytes) :=
  (placement.volumes.map fun mount =>
    (text "Volume", mount.host ++ text ":" ++ mount.container ++ text ":rw")) ++
  (placement.environment.map fun line => (text "Environment", environmentLine line)) ++
  (if placement.originEnvironmentPrefix = [] then []
    else [(text "Environment", environmentLine (placement.originEnvironmentPrefix ++ originHost))]) ++
  (if placement.bearsSecrets then [(text "EnvironmentFile", placement.environmentFilePath)]
    else []) ++
  (placement.writablePaths.map fun path => (text "Tmpfs", path ++ text ":rw,mode=1777")) ++
  (if placement.containerPort < firstUnprivilegedPort then
    [(text "Sysctl", text "net.ipv4.ip_unprivileged_port_start=0")] else [])

/-- Where a sheet publishes its service: one address, one port of it, one of the container. -/
def publishedAt (localPort containerPort : Bytes) : Bytes :=
  loopbackAddress ++ text ":" ++ localPort ++ text ":" ++ containerPort

def containerSettings (placement : Placement) (localPort : Int64) (originHost : Bytes) :
    List (Bytes × Bytes) :=
  [(text "Image", placement.image), (text "ContainerName", placement.containerName),
    (text "PublishPort", publishedAt (numeral localPort) (numeral placement.containerPort)),
    (text "Pull", text "never"), (text "ReadOnly", text "true"), (text "NoNewPrivileges", text "true"),
    (text "DropCapability", text "ALL")] ++ addedSettings placement originHost

def serviceSettings : List (Bytes × Bytes) := [(text "Restart", text "on-failure")]

def installSettings : List (Bytes × Bytes) := [(text "WantedBy", text "default.target")]

/-- A sheet, line by line. -/
def sheetPieces (placement : Placement) (localPort : Int64) (originHost : Bytes) : List Piece :=
  writtenFromPlan.map (fun line => .comment line.tail) ++
    (.group (text "Unit") :: (settings (unitSettings placement) ++
      (.gap :: .group (text "Container") ::
        (settings (containerSettings placement localPort originHost) ++
          (.gap :: .group (text "Service") :: (settings serviceSettings ++
            (.gap :: .group (text "Install") :: (settings installSettings ++ []))))))))

theorem additions_eq (placement : Placement) (originHost : Bytes) :
    placement.additions originHost = (settings (addedSettings placement originHost)).map Piece.line := by
  unfold Placement.additions addedSettings settings
  simp only [List.map_append, List.map_map, apply_ite (List.map _)]
  rfl

theorem renderSheet_eq (placement : Placement) (localPort : Int64) (originHost : Bytes) :
    renderSheet placement localPort originHost =
      UnitFile.render (sheetPieces placement localPort originHost) := by
  have hcomments : writtenFromPlan =
      (writtenFromPlan.map fun line => Piece.comment line.tail).map Piece.line := by decide
  unfold renderSheet
  rw [additions_eq, hcomments]
  show UnitFile.ended _ = UnitFile.ended _
  congr 1
  unfold sheetPieces containerSettings publishedAt
  simp only [settings, List.map_append, List.map_cons, List.append_assoc, List.cons_append,
    List.nil_append]
  rfl

/-! ## What a sheet says -/

/-- The settings of a sheet, section by section. -/
def Placement.directives (placement : Placement) (localPort : Int64) (originHost : Bytes) :
    List Directive :=
  inGroup (text "Unit") (unitSettings placement) ++
    (inGroup (text "Container") (containerSettings placement localPort originHost) ++
      (inGroup (text "Service") serviceSettings ++ inGroup (text "Install") installSettings))

theorem meant_sheetPieces (placement : Placement) (localPort : Int64) (originHost : Bytes) :
    UnitFile.meant none (sheetPieces placement localPort originHost) =
      some (placement.directives localPort originHost) := by
  have hcomments : ∀ rest : List Piece,
      UnitFile.meant none (writtenFromPlan.map (fun line => Piece.comment line.tail) ++ rest) =
        UnitFile.meant none rest := fun _ => rfl
  rw [sheetPieces, hcomments]
  simp only [UnitFile.meant, UnitFile.meant_settings, Option.map_some, Placement.directives]
  rw [List.append_nil]

/-- A placement whose values stay within their lines. -/
structure Legible (placement : Placement) (originHost : Bytes) : Prop where
  description : Fits placement.description
  image : Tight placement.image
  containerName : Tight placement.containerName
  home : Tight placement.home
  volumes : ∀ mount ∈ placement.volumes, Tight mount.host ∧ Tight mount.container
  environment : ∀ line ∈ placement.environment, ServiceDefinition.Printable line
  origin : placement.originEnvironmentPrefix ≠ [] →
    ServiceDefinition.Printable (placement.originEnvironmentPrefix ++ originHost)
  writablePaths : ∀ path ∈ placement.writablePaths, Tight path

theorem isDigit_tight {b : UInt8} (h : isDigit b = true) : isTight b = true := by
  have hne : ∀ c : UInt8, isDigit c = false → b ≠ c := by
    rintro c hc rfl
    rw [h] at hc
    cases hc
  simp [isTight, UnitFile.isBlank, hne 0x20 (by decide), hne 0x09 (by decide), hne 0x0D (by decide),
    hne UnitFile.newline (by decide), hne UnitFile.backslash (by decide)]

theorem numeral_tight (n : Int64) : Tight (numeral n) := by
  intro b hb
  cases numeral_bytes hb with
  | inl hdigit => exact isDigit_tight hdigit
  | inr hsign =>
      rw [hsign]
      decide

theorem publishedAt_tight (localPort containerPort : Int64) :
    Tight (publishedAt (numeral localPort) (numeral containerPort)) := by
  have hloopback : Tight loopbackAddress := by decide
  have hcolon : Tight (text ":") := by decide
  exact (((hloopback.append hcolon).append (numeral_tight _)).append hcolon).append (numeral_tight _)

theorem addedSettings_fit {placement : Placement} {originHost : Bytes}
    (h : Legible placement originHost) :
    ∀ pair ∈ addedSettings placement originHost, UnitFile.isKey pair.1 = true ∧ Fits pair.2 := by
  have hcolon : Tight (text ":") := by decide
  have hmode : Tight (text ":rw") := by decide
  have htmpfs : Tight (text ":rw,mode=1777") := by decide
  have hsecrets : Tight (text "/secrets.env") := by decide
  have hsysctl : Tight (text "net.ipv4.ip_unprivileged_port_start=0") := by decide
  have hvariable : UnitFile.isKey (text "Environment") = true := by decide
  have hfile : UnitFile.isKey (text "EnvironmentFile") = true := by decide
  unfold addedSettings
  simp only [List.forall_mem_append, List.forall_mem_map]
  refine ⟨⟨⟨⟨⟨?_, ?_⟩, ?_⟩, ?_⟩, ?_⟩, ?_⟩
  · intro mount hmount
    obtain ⟨hhost, hcontainer⟩ := h.volumes mount hmount
    exact ⟨by decide, (((hhost.append hcolon).append hcontainer).append hmode).fits⟩
  · intro line hline
    exact ⟨hvariable, environmentLine_fits (h.environment line hline)⟩
  · intro pair hpair
    split at hpair
    · cases hpair
    · rename_i horigin
      rw [List.mem_singleton.1 hpair]
      exact ⟨hvariable, environmentLine_fits (h.origin horigin)⟩
  · intro pair hpair
    split at hpair
    · rw [List.mem_singleton.1 hpair]
      exact ⟨hfile, (h.home.append hsecrets).fits⟩
    · cases hpair
  · intro path hpath
    exact ⟨by decide, ((h.writablePaths path hpath).append htmpfs).fits⟩
  · intro pair hpair
    split at hpair
    · rw [List.mem_singleton.1 hpair]
      exact ⟨by decide, hsysctl.fits⟩
    · cases hpair

theorem containerSettings_fit {placement : Placement} {originHost : Bytes}
    (h : Legible placement originHost) (localPort : Int64) :
    ∀ pair ∈ containerSettings placement localPort originHost,
      UnitFile.isKey pair.1 = true ∧ Fits pair.2 := by
  have himage : UnitFile.isKey (text "Image") = true := by decide
  have hname : UnitFile.isKey (text "ContainerName") = true := by decide
  have hpublish : UnitFile.isKey (text "PublishPort") = true := by decide
  have hfixed : ∀ pair ∈ [(text "Pull", text "never"), (text "ReadOnly", text "true"),
      (text "NoNewPrivileges", text "true"), (text "DropCapability", text "ALL")],
      UnitFile.isKey pair.1 = true ∧ Tight pair.2 := by decide
  rw [containerSettings, List.forall_mem_append]
  refine ⟨?_, addedSettings_fit h⟩
  rw [List.forall_mem_cons, List.forall_mem_cons, List.forall_mem_cons]
  refine ⟨⟨himage, h.image.fits⟩, ⟨hname, h.containerName.fits⟩,
    ⟨hpublish, (publishedAt_tight _ _).fits⟩, ?_⟩
  exact fun pair hpair => ⟨(hfixed pair hpair).1, (hfixed pair hpair).2.fits⟩

theorem sheetPieces_fit {placement : Placement} {originHost : Bytes} (h : Legible placement originHost)
    (localPort : Int64) : ∀ piece ∈ sheetPieces placement localPort originHost, piece.Fits := by
  have hcomments : ∀ line ∈ writtenFromPlan, (0x0A : UInt8) ∉ line.tail := by decide
  have hgroups : ∀ name ∈ [text "Unit", text "Container", text "Service", text "Install"],
      (0x0A : UInt8) ∉ name := by decide
  have hkey : UnitFile.isKey (text "Description") = true := by decide
  have hfixed : ∀ pair ∈ serviceSettings ++ installSettings,
      UnitFile.isKey pair.1 = true ∧ Tight pair.2 := by decide
  rw [List.forall_mem_append] at hfixed
  simp only [List.forall_mem_cons] at hgroups
  unfold sheetPieces
  simp only [List.forall_mem_append, List.forall_mem_cons, List.forall_mem_map]
  refine ⟨hcomments, hgroups.1, ?_, trivial, hgroups.2.1, ?_, trivial, hgroups.2.2.1, ?_, trivial,
    hgroups.2.2.2.1, ?_, List.forall_mem_nil _⟩
  · apply UnitFile.settings_fit
    rw [unitSettings, List.forall_mem_singleton]
    exact ⟨hkey, h.description⟩
  · exact UnitFile.settings_fit (containerSettings_fit h localPort)
  · exact UnitFile.settings_fit fun pair hpair =>
      ⟨(hfixed.1 pair hpair).1, (hfixed.1 pair hpair).2.fits⟩
  · exact UnitFile.settings_fit fun pair hpair =>
      ⟨(hfixed.2 pair hpair).1, (hfixed.2 pair hpair).2.fits⟩

/-- A sheet says what its placement says: nothing in a value of it ends a line, or goes on in the
next one. -/
theorem read_renderSheet {placement : Placement} {originHost : Bytes}
    (h : Legible placement originHost) (localPort : Int64) :
    UnitFile.read (renderSheet placement localPort originHost) =
      some (placement.directives localPort originHost) := by
  rw [renderSheet_eq, UnitFile.read_render (sheetPieces_fit h localPort), meant_sheetPieces]

/-! ## The sheet of a revision -/

/-- What the sheet of a user service is meant to say, setting by setting. -/
def revisionDirectives (definition : ServiceDefinition.Document)
    (document : Plan.UserServiceDocument) : List Directive :=
  let account := userServiceAccount definition.slug
  let home := homeRoot ++ account
  let container (key : String) (value : Bytes) : Directive := ⟨text "Container", text key, value⟩
  [⟨text "Unit", text "Description",
      text "Your Cloud managed " ++ definition.slug ++ text " user service"⟩,
    container "Image" (definition.imageRepository ++ text "@" ++ document.imageDigest),
    container "ContainerName" account,
    container "PublishPort" (text "127.0.0.1:" ++ decimalInt document.localPort ++ text ":" ++
      decimalInt definition.containerPort),
    container "Pull" (text "never"), container "ReadOnly" (text "true"),
    container "NoNewPrivileges" (text "true"), container "DropCapability" (text "ALL")] ++
  definition.volumes.map (fun path =>
    container "Volume" (home ++ text "/volumes" ++ path ++ text ":" ++ path ++ text ":rw")) ++
  (interpolatedEnvironment definition document.originHost).map (fun line =>
    container "Environment" (environmentLine line)) ++
  (if definition.secretKeys = [] then []
    else [container "EnvironmentFile" (home ++ text "/secrets.env")]) ++
  definition.tmpfs.map (fun path => container "Tmpfs" (path ++ text ":rw,mode=1777")) ++
  (if definition.containerPort < 1024 then
    [container "Sysctl" (text "net.ipv4.ip_unprivileged_port_start=0")] else []) ++
  [⟨text "Service", text "Restart", text "on-failure"⟩,
    ⟨text "Install", text "WantedBy", text "default.target"⟩]

/-- One of them publishes a port. -/
theorem revisionDirectives_publish (definition : ServiceDefinition.Document)
    (document : Plan.UserServiceDocument) :
    (revisionDirectives definition document).filter (fun d => d.key = text "PublishPort") =
      [⟨text "Container", text "PublishPort", text "127.0.0.1:" ++ decimalInt document.localPort ++
        text ":" ++ decimalInt definition.containerPort⟩] := by
  have hmap : ∀ (l : List Bytes) (f : Bytes → Directive), (∀ s, (f s).key ≠ text "PublishPort") →
      (l.map f).filter (fun d => d.key = text "PublishPort") = [] := by
    intro l f hf
    rw [List.filter_eq_nil_iff, List.forall_mem_map]
    simp [hf]
  have hite : ∀ (p : Prop) [Decidable p] (first second : List Directive),
      first.filter (fun d => d.key = text "PublishPort") = [] →
      second.filter (fun d => d.key = text "PublishPort") = [] →
      (if p then first else second).filter (fun d => d.key = text "PublishPort") = [] := by
    intro p _ first second hfirst hsecond
    split
    · exact hfirst
    · exact hsecond
  have hvolume : text "Volume" ≠ text "PublishPort" := by decide
  have henvironment : text "Environment" ≠ text "PublishPort" := by decide
  have htmpfs : text "Tmpfs" ≠ text "PublishPort" := by decide
  unfold revisionDirectives
  simp only [List.filter_append]
  rw [hmap definition.volumes _ fun _ => hvolume, hmap _ _ fun _ => henvironment,
    hmap definition.tmpfs _ fun _ => htmpfs, hite _ _ _ rfl rfl, hite _ _ _ rfl rfl]
  rfl

section Revision

variable {definition : ServiceDefinition.Document} {document : Plan.UserServiceDocument}

theorem containerPort_of_validate (h : definition.validate = .ok ()) :
    1 ≤ definition.containerPort ∧ definition.containerPort ≤ 65535 :=
  (ServiceDefinition.Document.bounded_of_validate h).containerPort

theorem isReferenceByte_tight {b : UInt8} (h : ServiceDefinition.isReferenceByte b = true) :
    isTight b = true := by
  have hne : ∀ c : UInt8, ServiceDefinition.isReferenceByte c = false → b ≠ c := by
    rintro c hc rfl
    rw [h] at hc
    cases hc
  simp [isTight, UnitFile.isBlank, hne 0x20 (by decide), hne 0x09 (by decide), hne 0x0D (by decide),
    hne UnitFile.newline (by decide), hne UnitFile.backslash (by decide)]

theorem reference_tight {s : Bytes} (h : ServiceDefinition.Reference s) : Tight s :=
  fun b hb => isReferenceByte_tight (h b hb)

/-- A digest of an image is spelled as a name is. -/
theorem digest_bytes {digest : Bytes} (h : Plan.canonicalOCIDigest digest = true) :
    ServiceDefinition.Reference digest := by
  rw [Plan.canonicalOCIDigest, Bool.and_eq_true] at h
  obtain ⟨rest, rfl⟩ := List.isPrefixOf_iff_prefix.1 h.1
  have hword : ∀ b ∈ text "sha256:", ServiceDefinition.isReferenceByte b = true :=
    List.all_eq_true.1 (by decide)
  have hseven : 7 = (text "sha256:").length := by decide
  have hrest : Approval.canonicalDigest rest = true := by
    have hdigest := h.2
    rwa [hseven, List.drop_left] at hdigest
  refine List.forall_mem_append.2 ⟨hword, ?_⟩
  intro b hb
  rw [Approval.canonicalDigest, exactly, Bool.and_eq_true, List.all_eq_true] at hrest
  have hhex := hrest.2 b hb
  apply ServiceDefinition.isNameByte_reference
  rw [ServiceDefinition.isNameByte, Bool.or_eq_true]
  rw [isLowerHex, Bool.or_eq_true] at hhex
  cases hhex with
  | inl hdigit => exact Or.inr hdigit
  | inr hletter =>
      left
      simp only [Bool.and_eq_true, decide_eq_true_eq, UInt8.le_iff_toNat_le, UInt8.reduceToNat]
        at hletter
      simp only [isLower, Bool.and_eq_true, decide_eq_true_eq, UInt8.le_iff_toNat_le,
        UInt8.reduceToNat]
      omega

theorem imageDigest_of_validate (h : document.validate = .ok ()) :
    Plan.canonicalOCIDigest document.imageDigest = true := by
  obtain ⟨_, -, h⟩ := bind_ok_iff.1 h
  obtain ⟨_, -, h⟩ := bind_ok_iff.1 h
  obtain ⟨_, -, h⟩ := bind_ok_iff.1 h
  obtain ⟨_, -, h⟩ := bind_ok_iff.1 h
  obtain ⟨_, hdigest, -⟩ := bind_ok_iff.1 h
  exact demand_eq_ok.1 hdigest

theorem repository_of_validate (h : definition.validate = .ok ()) :
    ServiceDefinition.Reference definition.imageRepository := by
  obtain ⟨_, -, h⟩ := bind_ok_iff.1 h
  obtain ⟨_, -, h⟩ := bind_ok_iff.1 h
  obtain ⟨_, hrepository, -⟩ := bind_ok_iff.1 h
  exact ServiceDefinition.repository_bytes hrepository

/-- Every value that a revision takes from its definition stays within its line. -/
theorem legible_userService (hdefinition : definition.validate = .ok ())
    (hplan : document.validate = .ok ()) :
    Legible (userServicePlacementOf definition document.imageDigest document.originHost)
      document.originHost := by
  have hslug := reference_tight
    (ServiceDefinition.slug_bytes (ServiceDefinition.slug_of_validate hdefinition))
  have haccount : Tight (userServiceAccount definition.slug) := by
    have hopening : Tight (text "your-cloud-user-") := by decide
    exact hopening.append hslug
  have hhome : Tight (homeRoot ++ userServiceAccount definition.slug) := by
    have hroot : Tight homeRoot := by decide
    exact hroot.append haccount
  have hmounts := (ServiceDefinition.validateMounts_iff.1
    (ServiceDefinition.mounts_of_validate hdefinition)).2.2.1
  rw [List.forall_mem_append] at hmounts
  constructor
  · have hbytes : (0x0A : UInt8) ∉
        text "our Cloud managed " ++ definition.slug ++ text " user servic" := by
      have hnewline : (0x0A : UInt8) ∉ definition.slug := fun hmem =>
        absurd (hslug _ hmem) (by decide)
      simp [hnewline, (by decide : (0x0A : UInt8) ∉ text "our Cloud managed "),
        (by decide : (0x0A : UInt8) ∉ text " user servic")]
    have hdescription : (userServicePlacementOf definition document.imageDigest
        document.originHost).description = 0x59 :: (text "our Cloud managed " ++ definition.slug ++
          text " user servic" ++ [0x65]) := by
      have hclosing : text " user service" = text " user servic" ++ [0x65] := by decide
      show text "Your Cloud managed " ++ definition.slug ++ text " user service" = _
      rw [hclosing, ← List.append_assoc]
      rfl
    rw [hdescription]
    exact Fits.between (by decide) (by decide) hbytes
  · have hat : Tight (text "@") := by decide
    exact ((reference_tight (repository_of_validate hdefinition)).append hat).append
      (reference_tight (digest_bytes (imageDigest_of_validate hplan)))
  · exact haccount
  · exact hhome
  · have hvolumes : Tight (text "/volumes") := by decide
    refine List.forall_mem_map.2 fun path hpath => ?_
    have htight := reference_tight (ServiceDefinition.containerPath_bytes (hmounts.1 path hpath))
    exact ⟨(hhome.append hvolumes).append htight, htight⟩
  · exact fun line hline => (interpolatedEnvironment_bytes hdefinition hplan line hline).2
  · exact fun horigin => absurd rfl horigin
  · exact fun path hpath =>
      reference_tight (ServiceDefinition.containerPath_bytes (hmounts.2 path hpath))

/-- The placement of a revision says what the revision is meant to say. -/
theorem directives_userService (hdefinition : definition.validate = .ok ())
    (hplan : document.validate = .ok ()) :
    (userServicePlacementOf definition document.imageDigest document.originHost).directives
      (Int64.ofInt document.localPort) document.originHost =
      revisionDirectives definition document := by
  obtain ⟨hlow, hhigh⟩ := containerPort_of_validate hdefinition
  obtain ⟨hlow', hhigh'⟩ := (Plan.UserServiceDocument.bounded_of_validate hplan).localPort
  have hlocal : numeral (Int64.ofInt document.localPort) = decimalInt document.localPort :=
    numeral_ofInt (by omega) (by omega)
  have hcontainer : numeral (Int64.ofInt definition.containerPort) =
      decimalInt definition.containerPort := numeral_ofInt (by omega) (by omega)
  have hprivileged : Int64.ofInt definition.containerPort < firstUnprivilegedPort ↔
      definition.containerPort < 1024 := by
    have hfirst : firstUnprivilegedPort.toInt = 1024 := by decide
    rw [Int64.lt_iff_toInt_lt, Int64.toInt_ofInt_of_le (by omega) (by omega), hfirst]
  have hpublished : publishedAt (decimalInt document.localPort) (decimalInt definition.containerPort) =
      text "127.0.0.1:" ++ decimalInt document.localPort ++ text ":" ++
        decimalInt definition.containerPort := by
    have hloopback : text "127.0.0.1:" = loopbackAddress ++ text ":" := by decide
    rw [hloopback]
    rfl
  have horigin : (userServicePlacementOfSlug definition.slug).originEnvironmentPrefix = [] := rfl
  have hdescription : (userServicePlacementOfSlug definition.slug).description =
      text "Your Cloud managed " ++ definition.slug ++ text " user service" := rfl
  have hhome : (userServicePlacementOfSlug definition.slug).home =
      homeRoot ++ userServiceAccount definition.slug := rfl
  have hdata : (userServicePlacementOfSlug definition.slug).dataDirectory =
      homeRoot ++ userServiceAccount definition.slug ++ text "/volumes" := rfl
  unfold Placement.directives unitSettings containerSettings addedSettings userServicePlacementOf
    revisionDirectives Placement.bearsSecrets
  simp only [hlocal, hcontainer, hprivileged, hpublished, horigin, hdescription, hhome, hdata,
    Placement.environmentFilePath, inGroup, List.map_append, List.map_map, List.map_cons, List.map_nil,
    Function.comp_def, apply_ite (List.map _), bne_iff_ne, ne_eq, ite_not, if_true,
    List.append_assoc, List.cons_append, List.nil_append]
  rfl

end Revision

end YourCloud.Auxiliary
