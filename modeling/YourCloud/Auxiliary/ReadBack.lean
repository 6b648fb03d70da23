import YourCloud.Auxiliary.Host
import YourCloud.Auxiliary.Sheets

/-!
# What this machine reads off its own files

The Auxiliary keeps no record beside the files it writes: the port of a service, the
port of a junction and the role of a machine are read back off them, each by a reader
that is not the writer turned around.

## Main results

* `sheets_read` — a sheet says what its revision is meant to say, and the port and the
  role that are read back are the ones that were written.
-/

namespace YourCloud.Auxiliary

open YourCloud.Foundation
open YourCloud.Foundation.UnitFile (Fits Tight)

/-! ## The port of a sheet -/

/-- How the line starts that publishes a port. -/
abbrev publishedPrefix : Bytes := text "PublishPort=" ++ loopbackAddress ++ text ":"

/-- A line that publishes no port is passed over. -/
theorem publishedLoopbackPort_skip {line : Bytes} {rest : List Bytes} (h : 0x0A ∉ line)
    (hother : cutPrefix publishedPrefix (trimSpace line) = none) :
    publishedLoopbackPort (lines (line :: rest)) = publishedLoopbackPort (lines rest) := by
  rw [publishedLoopbackPort, splitOn_lines h, List.map_cons, List.findSome?_cons, hother]
  rfl

/-- A line that starts otherwise starts otherwise once it is trimmed. -/
theorem cutPrefix_trimSpace {start line : Bytes} {b : UInt8} (h : isSolid b = true)
    (hother : start.isPrefixOf (b :: line) = false) : cutPrefix start (trimSpace (b :: line)) = none := by
  have hnone : start.isPrefixOf (trimSpace (b :: line)) = false := by
    by_contra hsome
    rw [Bool.not_eq_false] at hsome
    have hstarts := (List.isPrefixOf_iff_prefix.1 hsome).trans (trimSpace_starts h line)
    rw [List.isPrefixOf_iff_prefix.2 hstarts] at hother
    cases hother
  rw [cutPrefix, hnone]
  rfl

theorem numeral_solid (n : Int64) : ∀ b ∈ numeral n, isSolid b = true := by
  intro b hb
  cases numeral_bytes hb with
  | inl hdigit =>
      simp only [isDigit, Bool.and_eq_true, decide_eq_true_eq, UInt8.le_iff_toNat_le,
        UInt8.reduceToNat] at hdigit
      simp only [isSolid, Bool.and_eq_true, decide_eq_true_eq, UInt8.le_iff_toNat_le,
        UInt8.reduceToNat]
      omega
  | inr hsign =>
      rw [hsign]
      decide

/-- The line that publishes a port is read as that port. -/
theorem publishedLoopbackPort_here (localPort containerPort : Int64) (rest : List Bytes) :
    publishedLoopbackPort (lines ((publishedPrefix ++ (numeral localPort ++
      0x3A :: numeral containerPort)) :: rest)) = some localPort := by
  have hnewline : (0x0A : UInt8) ∉ publishedPrefix ++ (numeral localPort ++
      0x3A :: numeral containerPort) := by
    have hprefix : (0x0A : UInt8) ∉ publishedPrefix := by decide
    have hports := List.not_mem_cons_of_ne_of_not_mem (by decide : (0x0A : UInt8) ≠ 0x3A)
      (numeral_tight containerPort).fits.newline
    exact List.not_mem_append hprefix
      (List.not_mem_append (numeral_tight localPort).fits.newline hports)
  have htrim : trimSpace (publishedPrefix ++ (numeral localPort ++ 0x3A :: numeral containerPort)) =
      publishedPrefix ++ (numeral localPort ++ 0x3A :: numeral containerPort) := by
    have hopening : publishedPrefix = 0x50 :: publishedPrefix.tail := by decide
    rw [hopening, List.cons_append]
    apply trimSpace_solid (by decide)
    intro c hc
    rw [← List.cons_append, ← List.append_assoc, List.getLast?_append_cons,
      List.getLast?_cons_of_ne_nil (numeral_ne_nil containerPort)] at hc
    exact numeral_solid containerPort c (List.mem_of_getLast? hc)
  rw [publishedLoopbackPort, splitOn_lines hnewline, List.map_cons, List.findSome?_cons, htrim,
    cutPrefix_append]
  simp only [Option.bind_eq_bind, Option.bind_some]
  have hcolon (n : Int64) : 0x3A ∉ numeral n := numeral_not_mem (by decide) (by decide)
  rw [splitOn, List.splitOn_append_cons_self_of_not_mem (hcolon localPort),
    List.splitOn_eq_singleton (hcolon containerPort)]
  exact atoi_numeral localPort

/-- The port that a sheet publishes is the one it was rendered for. -/
theorem publishedLoopbackPort_renderSheet {placement : Placement} {originHost : Bytes}
    (h : Legible placement originHost) (localPort : Int64) :
    publishedLoopbackPort (renderSheet placement localPort originHost) = some localPort := by
  have hdescribed : (0x0A : UInt8) ∉ text "Description=" ++ placement.description :=
    List.not_mem_append (by decide) h.description.newline
  have himage : (0x0A : UInt8) ∉ text "Image=" ++ placement.image :=
    List.not_mem_append (by decide) h.image.fits.newline
  have hname : (0x0A : UInt8) ∉ text "ContainerName=" ++ placement.containerName :=
    List.not_mem_append (by decide) h.containerName.fits.newline
  have hpublish : text "PublishPort=" ++ loopbackAddress ++ text ":" ++ numeral localPort ++
      text ":" ++ numeral placement.containerPort =
      publishedPrefix ++ (numeral localPort ++ 0x3A :: numeral placement.containerPort) := by
    rw [List.append_assoc (publishedPrefix ++ numeral localPort), List.append_assoc]
    rfl
  unfold renderSheet
  rw [writtenFromPlan]
  simp only [List.cons_append, List.nil_append]
  rw [publishedLoopbackPort_skip (by decide) (by decide),
    publishedLoopbackPort_skip (by decide) (by decide),
    publishedLoopbackPort_skip (by decide) (by decide),
    publishedLoopbackPort_skip (by decide) (by decide),
    publishedLoopbackPort_skip hdescribed (cutPrefix_trimSpace (by decide) rfl),
    publishedLoopbackPort_skip (by decide) (by decide),
    publishedLoopbackPort_skip (by decide) (by decide),
    publishedLoopbackPort_skip himage (cutPrefix_trimSpace (by decide) rfl),
    publishedLoopbackPort_skip hname (cutPrefix_trimSpace (by decide) rfl), hpublish,
    publishedLoopbackPort_here]

/-! ## The port of a junction -/

theorem linkRuleLines_cons {line : Bytes} {rest : List Bytes} (h : 0x0A ∉ line) :
    linkRuleLines (lines (line :: rest)) = linkRuleLines line ++ linkRuleLines (lines rest) := by
  have hline : splitOn 0x0A line = [line] := List.splitOn_eq_singleton h
  unfold linkRuleLines
  rw [splitOn_lines h, hline, List.map_cons, List.map_singleton, ← List.singleton_append,
    List.filter_append]

/-- A line that names no service is passed over. -/
theorem approvedServicePort_skip {line : Bytes} {rest : List Bytes} (h : 0x0A ∉ line)
    (hother : (linkRuleLines line).findSome? (cutPrefix linkListenerServiceRulePrefix) = none) :
    approvedServicePort (lines (line :: rest)) = approvedServicePort (lines rest) := by
  rw [approvedServicePort, linkRuleLines_cons h, List.findSome?_append, hother]
  rfl

theorem cutSuffix_append (ending s : Bytes) : cutSuffix ending (s ++ ending) = some s := by
  have hsuffix : ending.isSuffixOf (s ++ ending) = true :=
    List.isSuffixOf_iff_suffix.2 (List.suffix_append _ _)
  rw [cutSuffix, if_pos hsuffix, List.length_append, Nat.add_sub_cancel, List.take_left]

/-- A tab before a line is white space. -/
theorem trimSpace_tab (s : Bytes) : trimSpace (0x09 :: s) = trimSpace s := by
  have hdrop : dropSpace spaceAt (0x09 :: s).length (0x09 :: s) = dropSpace spaceAt s.length s := rfl
  rw [trimSpace, hdrop, trimSpace]

/-- The line that names the service is read as its port. -/
theorem approvedServicePort_here (servicePort : Int64) (rest : List Bytes) :
    approvedServicePort (lines ((text "\t\t" ++ linkListenerServiceRulePrefix ++ numeral servicePort ++
      text " accept") :: rest)) = some servicePort := by
  have haccept : text " accept" = text " accep" ++ [0x74] := by decide
  have hnewline : (0x0A : UInt8) ∉ text "\t\t" ++ linkListenerServiceRulePrefix ++
      numeral servicePort ++ text " accept" :=
    List.not_mem_append (List.not_mem_append (by decide) (numeral_tight servicePort).fits.newline)
      (by decide)
  have htrim : trimSpace (text "\t\t" ++ linkListenerServiceRulePrefix ++ numeral servicePort ++
      text " accept") = linkListenerServiceRulePrefix ++ (numeral servicePort ++ text " accept") := by
    have hopening : linkListenerServiceRulePrefix = 0x6F :: linkListenerServiceRulePrefix.tail := by
      decide
    have htabs : text "\t\t" ++ linkListenerServiceRulePrefix ++ numeral servicePort ++
        text " accept" = 0x09 :: 0x09 :: (linkListenerServiceRulePrefix ++
          (numeral servicePort ++ text " accept")) := by
      rw [List.append_assoc, List.append_assoc]
      rfl
    rw [htabs, trimSpace_tab, trimSpace_tab, hopening, List.cons_append]
    apply trimSpace_solid (by decide)
    intro c hc
    rw [haccept, ← List.append_assoc, ← List.append_assoc, ← List.cons_append,
      List.getLast?_concat] at hc
    obtain rfl := Option.some.inj hc
    decide
  have hline : linkRuleLines (text "\t\t" ++ linkListenerServiceRulePrefix ++ numeral servicePort ++
      text " accept") = [linkListenerServiceRulePrefix ++ (numeral servicePort ++ text " accept")] := by
    unfold linkRuleLines
    rw [splitOn, List.splitOn_eq_singleton hnewline, List.map_singleton, htrim]
    rfl
  rw [approvedServicePort, linkRuleLines_cons hnewline, hline, List.singleton_append,
    List.findSome?_cons, cutPrefix_append]
  simp only [Option.bind_eq_bind, Option.bind_some, cutSuffix_append, atoi_numeral]

/-- The port that the bounds of a listener name is the one they were rendered for. -/
theorem approvedServicePort_renderListenerRules (servicePort : Int64) :
    approvedServicePort (renderListenerRules servicePort) = some servicePort := by
  unfold renderListenerRules linkRulesPreamble writtenFromPlan
  simp only [List.cons_append, List.nil_append]
  -- Every line before the one of the service is a comment, a frame or another rule.
  repeat rw [approvedServicePort_skip (by decide) (by decide)]
  exact approvedServicePort_here servicePort _

/-! ## The role of a machine -/

theorem linkPlacementFor_role {role : Bytes} {placement : LinkPlacement}
    (h : linkPlacementFor role = .ok placement) :
    placement.role = role ∧ (placement = linkListener ∨ placement = linkInitiator) := by
  unfold linkPlacementFor at h
  split at h
  · rename_i hrole
    rw [← Except.ok.inj h]
    exact ⟨hrole.symm, Or.inl rfl⟩
  · split at h
    · rename_i hrole
      rw [← Except.ok.inj h]
      exact ⟨hrole.symm, Or.inr rfl⟩
    · cases h

/-- The role that the addressing of the passage names is the one it was rendered for, whether or
not a junction has added its route. -/
theorem roleNamedBy_renderLinkNetwork {placement : LinkPlacement}
    (h : placement = linkListener ∨ placement = linkInitiator) {route : Bytes}
    (hroute : route = [] ∨ route = renderLinkRouteSection placement) :
    roleNamedBy (some (renderLinkNetwork placement ++ route)) = .ok (some placement) := by
  have hroles : ∀ placement ∈ [linkListener, linkInitiator],
      ∀ route ∈ [[], renderLinkRouteSection placement],
        roleNamedBy (some (renderLinkNetwork placement ++ route)) = .ok (some placement) := by
    decide +kernel
  exact hroles placement (by simpa using h) route (by simpa using hroute)

/-! ## What is read back is what was written -/

/-- The sheet of every revision, whatever plan pins it, says what the revision is meant to say,
setting by setting and in order; it publishes one port, and the port that is read back is that of
the plan.  The port of a junction and the role of a machine are read back as they were rendered as
well. -/
theorem sheets_read :
    (∀ (definition : ServiceDefinition.Document) (document : Plan.UserServiceDocument),
      definition.validate = .ok () → document.validate = .ok () →
      let sheet := renderSheet
        (userServicePlacementOf definition document.imageDigest document.originHost)
        (Int64.ofInt document.localPort) document.originHost
      UnitFile.read sheet = some (revisionDirectives definition document) ∧
      (revisionDirectives definition document).filter (fun d => d.key = text "PublishPort") =
        [⟨text "Container", text "PublishPort", text "127.0.0.1:" ++ decimalInt document.localPort ++
          text ":" ++ decimalInt definition.containerPort⟩] ∧
      (publishedLoopbackPort sheet).map Int64.toInt = some document.localPort) ∧
    (∀ servicePort : Int64,
      approvedServicePort (renderListenerRules servicePort) = some servicePort) ∧
    ∀ (role : Bytes) (placement : LinkPlacement), linkPlacementFor role = .ok placement →
      placement.role = role ∧
      ∀ route ∈ [[], renderLinkRouteSection placement],
        roleNamedBy (some (renderLinkNetwork placement ++ route)) = .ok (some placement) := by
  refine ⟨?_, approvedServicePort_renderListenerRules, ?_⟩
  · intro definition document hdefinition hplan sheet
    have hlegible := legible_userService hdefinition hplan
    refine ⟨?_, revisionDirectives_publish definition document, ?_⟩
    · rw [read_renderSheet hlegible, directives_userService hdefinition hplan]
    · obtain ⟨hlow, hhigh⟩ := (Plan.UserServiceDocument.bounded_of_validate hplan).localPort
      rw [publishedLoopbackPort_renderSheet hlegible, Option.map_some,
        Int64.toInt_ofInt_of_le (by omega) (by omega)]
  · intro role placement h
    obtain ⟨hrole, hplacement⟩ := linkPlacementFor_role h
    refine ⟨hrole, fun route hroute => roleNamedBy_renderLinkNetwork hplacement ?_⟩
    simpa using hroute

/-- A plan of the definition that keeps data. -/
def labNotesPlan : Plan.UserServiceDocument where
  schemaVersion := 2
  infrastructureID := text "6f1c2f0e-2a47-4d5c-9a36-6f1de0c2b9a4"
  machineID := text "machine-01"
  operation := text "deploy_user_service"
  definitionSlug := text "lab-notes"
  definitionDigest := text "c0f30d7c7f8635d2fb56445d7b75c6523b440d35de8e1867444c788e4b30f3ce"
  imageReference := text "registry.lab.your-cloud.test/your-cloud/lab-notes"
  imageDigest := text ("sha256:200689790a0a0ea48ca45992e0450bc26ccab5307375b41c84dfc4f2475937ab")
  localPort := 8200
  originHost := text "notes.your-cloud.test"

theorem sheets_read_labNotes :
    ServiceDefinition.labNotes.validate = .ok () ∧ labNotesPlan.validate = .ok () ∧
    (publishedLoopbackPort (renderSheet
      (userServicePlacementOf ServiceDefinition.labNotes labNotesPlan.imageDigest
        labNotesPlan.originHost) (Int64.ofInt 8200) labNotesPlan.originHost)).map Int64.toInt =
      some 8200 ∧
    roleNamedBy (some (renderLinkNetwork linkInitiator ++ [])) = .ok (some linkInitiator) := by
  have hplan : labNotesPlan.validate = .ok () := by decide
  have hsheet := sheets_read.1 ServiceDefinition.labNotes labNotesPlan
    ServiceDefinition.labNotes_valid hplan
  have hrole := sheets_read.2.2 (text "initiator") linkInitiator (by decide)
  exact ⟨ServiceDefinition.labNotes_valid, hplan, hsheet.2.2, hrole.2 [] List.mem_cons_self⟩

end YourCloud.Auxiliary
