import YourCloud.Identity.RecoveryEpoch

/-!
# Opening the Controller again

The authority and the candidate are two files, and the second is checked against
the first when a process starts.  As long as the active device is not revoked
beside the file of a candidate, every pair of files that a run leaves opens
again, each candidate becomes active once, and the same activation asked again
is answered alike while its receipt is kept.

A certificate that is issued is one that was never active: its serial is random.

## Main results

* `pairing_run` — over every run from a new authority.
* `replay_forgotten` — what the 24 hours of a receipt leave out.
-/

namespace YourCloud.Identity

open YourCloud.Foundation

namespace Manager

/-! ## Fingerprints -/

def revokedFingerprints (state : AuthorityState) : List Bytes :=
  state.revoked.map DeviceRecord.certificateSHA256

/-- The fingerprints that are or were active. -/
def known (state : AuthorityState) : List Bytes :=
  state.activeFingerprint.toList ++ revokedFingerprints state

/-- A revocation comes where no file of a candidate is, and a certificate is a
new one. -/
def orderly : Guard where
  rotate _ := True
  revoke files := files.candidate = none
  fresh state fingerprint := fingerprint ∉ known state

/-- What one step makes of an authority: the active certificate is another one
only where the revision moved by one, and then it is a new one or none. -/
structure Succeeds (past state : AuthorityState) : Prop where
  controllerID : state.controllerID = past.controllerID
  infrastructureID : state.infrastructureID = past.infrastructureID
  revoked : revokedFingerprints past ⊆ revokedFingerprints state
  changed : state.identityRevision = past.identityRevision ∧
      state.active.map DeviceRecord.deviceID = past.active.map DeviceRecord.deviceID ∧
      state.activeFingerprint = past.activeFingerprint ∨
    past.identityRevision < state.identityRevision ∧
      state.identityRevision = past.identityRevision + 1 ∧
      (∀ fingerprint, past.activeFingerprint = some fingerprint →
        fingerprint ∈ revokedFingerprints state) ∧
      ∀ fingerprint, state.activeFingerprint = some fingerprint → fingerprint ∉ known past

/-- What a run makes of an authority. -/
structure Descends (past state : AuthorityState) : Prop where
  controllerID : state.controllerID = past.controllerID
  infrastructureID : state.infrastructureID = past.infrastructureID
  revoked : revokedFingerprints past ⊆ revokedFingerprints state
  changed : state.identityRevision = past.identityRevision ∧
      state.active.map DeviceRecord.deviceID = past.active.map DeviceRecord.deviceID ∧
      state.activeFingerprint = past.activeFingerprint ∨
    past.identityRevision < state.identityRevision ∧
      ∀ fingerprint, past.activeFingerprint = some fingerprint →
        fingerprint ∈ revokedFingerprints state

theorem Succeeds.descends {past state : AuthorityState} (h : Succeeds past state) :
    Descends past state := by
  refine ⟨h.controllerID, h.infrastructureID, h.revoked, ?_⟩
  cases h.changed with
  | inl hsame => exact .inl hsame
  | inr hmoved => exact .inr ⟨hmoved.1, hmoved.2.2.1⟩

theorem Descends.refl (state : AuthorityState) : Descends state state :=
  ⟨rfl, rfl, List.Subset.refl _, .inl ⟨rfl, rfl, rfl⟩⟩

theorem Descends.trans {a b c : AuthorityState} (hab : Descends a b) (hbc : Descends b c) :
    Descends a c := by
  refine ⟨hbc.controllerID.trans hab.controllerID, hbc.infrastructureID.trans hab.infrastructureID,
    List.Subset.trans hab.revoked hbc.revoked, ?_⟩
  cases hab.changed with
  | inl hsame =>
      obtain ⟨hrevision, hdevice, hfingerprint⟩ := hsame
      rw [← hrevision, ← hdevice, ← hfingerprint]
      exact hbc.changed
  | inr hmoved =>
      obtain ⟨hlt, hretired⟩ := hmoved
      refine .inr ⟨?_, fun fingerprint h => hbc.revoked (hretired fingerprint h)⟩
      cases hbc.changed with
      | inl hsame => exact hsame.1 ▸ hlt
      | inr hmoved => exact UInt64.lt_trans hlt hmoved.1

/-! ## The invariant -/

section Invariant

variable (p : Primitives)

/-- A candidate that stands against the authority and was not committed. -/
structure Awaits (durable : DurableCandidate) (state : AuthorityState) : Prop where
  sound : durable.Sound p state.infrastructureID
  uncommitted : candidateReceiptExists durable state = false
  stands : matchesAuthority durable state false = true
  fresh : durable.record.certificateSHA256 ∉ known state

/-- A candidate that was committed just before the process ended. -/
structure Committed (durable : DurableCandidate) (state : AuthorityState) : Prop where
  sound : durable.Sound p state.infrastructureID
  committed : candidateReceiptExists durable state = true
  stands : matchesAuthority durable state true = true

/-- An authority that was valid when it was written, and whose active certificate
was not revoked. -/
structure Wellformed (state : AuthorityState) : Prop where
  valid : ∃ now, validateAuthorityState p.pki state now = true
  distinct : ∀ fingerprint, state.activeFingerprint = some fingerprint →
    fingerprint ∉ revokedFingerprints state

structure Reopens (core : Core) : Prop where
  store : core.store = core.files.authority
  file : core.files.candidate = core.candidate.map PendingCandidate.durable
  wellformed : Wellformed p core.store
  candidate : ∀ candidate, core.candidate = some candidate → Awaits p candidate.durable core.store

structure ReopensFiles (files : Files) : Prop where
  wellformed : Wellformed p files.authority
  candidate : ∀ durable, files.candidate = some durable →
    Awaits p durable files.authority ∨ Committed p durable files.authority

end Invariant

/-! ### What each change keeps -/

variable {p : Primitives} {state changed : AuthorityState} {now : Int}

/-- The fingerprints of the revoked devices, in whatever order they are kept. -/
theorem mem_sortRevoked {records : List DeviceRecord} {fingerprint : Bytes} :
    fingerprint ∈ (sortRevoked records).map DeviceRecord.certificateSHA256 ↔
      fingerprint ∈ records.map DeviceRecord.certificateSHA256 := by
  have hperm : (sortRevoked records).Perm records := List.perm_insertionSort _ _
  exact (hperm.map _).mem_iff

/-- Revoking the active device adds its fingerprint. -/
theorem mem_revoke {active : DeviceRecord} {fingerprint : Bytes} :
    fingerprint ∈ (sortRevoked (state.revoked ++ [revokeRecord active])).map
        DeviceRecord.certificateSHA256 ↔
      fingerprint ∈ revokedFingerprints state ∨ fingerprint = active.certificateSHA256 := by
  rw [mem_sortRevoked, List.map_append, List.mem_append]
  exact Iff.or Iff.rfl List.mem_singleton

theorem known_of_active {active : DeviceRecord} (h : state.active = some active) :
    active.certificateSHA256 ∈ known state := by
  unfold known AuthorityState.activeFingerprint
  rw [h]
  exact List.mem_append_left _ List.mem_cons_self

theorem revoked_known : revokedFingerprints state ⊆ known state :=
  List.subset_append_right _ _

/-- The revoked fingerprints once a candidate is active. -/
theorem replaceActive_revoked {candidate : PendingCandidate} {revoked : List DeviceRecord}
    (h : replaceActive state candidate = some revoked) :
    revokedFingerprints state ⊆ revoked.map DeviceRecord.certificateSHA256 ∧
      revoked.map DeviceRecord.certificateSHA256 ⊆ known state ∧
      ∀ fingerprint, state.activeFingerprint = some fingerprint →
        fingerprint ∈ revoked.map DeviceRecord.certificateSHA256 := by
  cases replaceActive_eq_some.1 h with
  | inl henrolled =>
      obtain ⟨-, hnone, rfl⟩ := henrolled
      refine ⟨List.Subset.refl _, revoked_known, fun fingerprint hactive => ?_⟩
      rw [AuthorityState.activeFingerprint, hnone] at hactive
      cases hactive
  | inr hreplaced =>
      obtain ⟨-, active, hactive, -, -, rfl⟩ := hreplaced
      refine ⟨fun f hf => mem_revoke.2 (.inl hf), fun f hf => ?_, fun f hf => ?_⟩
      · cases mem_revoke.1 hf with
        | inl hrevoked => exact revoked_known hrevoked
        | inr heq => exact heq ▸ known_of_active hactive
      · rw [AuthorityState.activeFingerprint, hactive] at hf
        exact mem_revoke.2 (.inr (Option.some.inj hf).symm)

theorem activated_succeeds {candidate : PendingCandidate} {requestDigest : Bytes}
    (hfresh : candidate.certificate.record.certificateSHA256 ∉ known state)
    (h : activateCandidate p state candidate requestDigest now = some changed) :
    Succeeds state changed := by
  obtain ⟨revoked, hreplaced, hmax, rfl, -⟩ := activateCandidate_eq_some.1 h
  obtain ⟨hkept, -, hretired⟩ := replaceActive_revoked hreplaced
  refine ⟨rfl, rfl, hkept, .inr ⟨lt_succ_of_ne_max hmax, rfl, hretired, ?_⟩⟩
  intro fingerprint hactive
  rw [← Option.some.inj hactive]
  exact hfresh

theorem activated_wellformed {candidate : PendingCandidate} {requestDigest : Bytes}
    (hfresh : candidate.certificate.record.certificateSHA256 ∉ known state)
    (h : activateCandidate p state candidate requestDigest now = some changed) :
    Wellformed p changed := by
  obtain ⟨revoked, hreplaced, -, rfl, hvalid⟩ := activateCandidate_eq_some.1 h
  refine ⟨⟨now, hvalid⟩, fun fingerprint hactive hrevoked => ?_⟩
  rw [← Option.some.inj hactive] at hrevoked
  exact hfresh ((replaceActive_revoked hreplaced).2.1 hrevoked)

theorem activated_awaited {candidate : PendingCandidate} {requestDigest : Bytes}
    (hawaits : Awaits p candidate.durable state)
    (h : activateCandidate p state candidate requestDigest now = some changed) :
    Committed p candidate.durable changed := by
  have hcommitted := activated_committed h
  obtain ⟨revoked, -, -, rfl, -⟩ := activateCandidate_eq_some.1 h
  refine ⟨hawaits.sound, hcommitted, ?_⟩
  have hstands := hawaits.stands
  unfold matchesAuthority at hstands ⊢
  have hactive : (activatedState state candidate revoked requestDigest now).activeFingerprint =
      some candidate.durable.record.certificateSHA256 := rfl
  rw [hactive]
  cases hmode : candidate.durable.mode <;> rw [hmode] at hstands <;>
    simp_all [activatedState]

/-- A trimmed list of receipts holds nothing new but the one appended. -/
theorem mem_appendReceipt {receipts : List IdempotenceReceipt} {receipt r : IdempotenceReceipt}
    (h : r ∈ appendReceipt (recentReceipts receipts now) receipt) : r ∈ receipts ∨ r = receipt := by
  unfold appendReceipt at h
  cases List.mem_append.1 h with
  | inl hkept =>
      left
      split at hkept
      · exact List.mem_of_mem_filter (List.mem_of_mem_tail hkept)
      · exact List.mem_of_mem_filter hkept
  | inr hlast => exact .inr (List.mem_singleton.1 hlast)

section Rotated

variable {mutation : RecoveryKeyMutation} {requestDigest currentSignature nextSignature : Bytes}
variable (h : Identity.rotateRecoveryKey p state mutation requestDigest currentSignature
  nextSignature now = some (.changed changed))

include h

theorem rotated_eq : ∃ active, state.active = some active ∧
    changed = rotatedState state active mutation requestDigest now ∧
    validateAuthorityState p.pki changed now = true := by
  obtain ⟨active, hactive, hreplayed | hchanged⟩ := rotateRecoveryKey_eq_some h
  · cases hreplayed.1
  · obtain ⟨hstate, -, -, -, hvalid⟩ := hchanged
    obtain rfl := Rotation.changed.inj hstate
    exact ⟨active, hactive, rfl, hvalid⟩

/-- A rotation of the recovery key leaves the certificates as they are. -/
theorem rotated_certificates : changed.activeFingerprint = state.activeFingerprint ∧
    changed.active.map DeviceRecord.deviceID = state.active.map DeviceRecord.deviceID ∧
    changed.active.isSome = state.active.isSome := by
  obtain ⟨active, hactive, rfl, -⟩ := rotated_eq h
  rw [AuthorityState.activeFingerprint, AuthorityState.activeFingerprint, hactive]
  exact ⟨rfl, rfl, rfl⟩

theorem rotated_succeeds : Succeeds state changed := by
  obtain ⟨hfingerprint, hdevice, -⟩ := rotated_certificates h
  obtain ⟨active, hactive, rfl, -⟩ := rotated_eq h
  exact ⟨rfl, rfl, List.Subset.refl _, .inl ⟨rfl, hdevice, hfingerprint⟩⟩

theorem rotated_wellformed (hstate : Wellformed p state) : Wellformed p changed := by
  have hfingerprint := (rotated_certificates h).1
  obtain ⟨active, hactive, rfl, hvalid⟩ := rotated_eq h
  refine ⟨⟨now, hvalid⟩, fun fingerprint hactive => ?_⟩
  rw [hfingerprint] at hactive
  exact hstate.distinct fingerprint hactive

theorem rotated_awaits {durable : DurableCandidate} (hawaits : Awaits p durable state) :
    Awaits p durable changed := by
  obtain ⟨hfingerprint, -, hsome⟩ := rotated_certificates h
  obtain ⟨active, hactive, rfl, -⟩ := rotated_eq h
  refine ⟨hawaits.sound, ?_, ?_, ?_⟩
  · have huncommitted := hawaits.uncommitted
    rw [candidateReceiptExists, List.any_eq_false] at huncommitted ⊢
    intro r hr
    cases mem_appendReceipt hr with
    | inl hold => exact huncommitted r hold
    | inr hnew =>
        rw [hnew]
        simp [durable.mode.activated_ne.symm]
  · have hstands := hawaits.stands
    have hnone : (rotatedState state active mutation requestDigest now).active.isNone =
        state.active.isNone := by
      rw [hactive]
      rfl
    unfold matchesAuthority at hstands ⊢
    rw [hfingerprint, hsome, hnone]
    exact hstands
  · have hfresh := hawaits.fresh
    unfold known at hfresh ⊢
    rw [hfingerprint]
    exact hfresh

end Rotated

theorem revoked_succeeds (h : Identity.revokeActiveDevice p state now = some changed) :
    Succeeds state changed := by
  obtain ⟨active, hactive, -, hmax, rfl, -⟩ := revokeActiveDevice_eq_some.1 h
  refine ⟨rfl, rfl, fun f hf => mem_revoke.2 (.inl hf), .inr ⟨lt_succ_of_ne_max hmax, rfl, ?_, ?_⟩⟩
  · intro fingerprint hfingerprint
    rw [AuthorityState.activeFingerprint, hactive] at hfingerprint
    exact mem_revoke.2 (.inr (Option.some.inj hfingerprint).symm)
  · intro fingerprint hfingerprint
    cases hfingerprint

theorem revoked_wellformed (h : Identity.revokeActiveDevice p state now = some changed) :
    Wellformed p changed := by
  obtain ⟨active, -, -, -, rfl, hvalid⟩ := revokeActiveDevice_eq_some.1 h
  exact ⟨⟨now, hvalid⟩, nofun⟩

/-- A file that was just read back stands against the authority. -/
theorem awaits_of_loaded {durable : DurableCandidate} {loaded : PendingCandidate}
    (h : decodeDurableCandidate p durable state = some (loaded, false))
    (hfresh : durable.record.certificateSHA256 ∉ known state) : Awaits p durable state := by
  obtain ⟨hsound, hcommitted, hstands, -⟩ := decodeDurableCandidate_eq_some h
  exact ⟨hsound, hcommitted.symm, hstands, hfresh⟩

theorem reopens_keeps (p : Primitives) :
    Keeps p orderly (Reopens p) (Reopens p) (ReopensFiles p) (ReopensFiles p) where
  weaken _ hI := hI
  left _ hR := hR
  rest core hI := by
    refine ⟨hI.store ▸ hI.wellformed, fun durable hdurable => .inl ?_⟩
    rw [hI.file] at hdurable
    obtain ⟨candidate, hcandidate, rfl⟩ := Option.map_eq_some_iff.1 hdurable
    exact hI.store ▸ hI.candidate candidate hcandidate
  changed core hI := by
    refine ⟨hI.store ▸ hI.wellformed, fun durable hdurable => .inl ?_⟩
    rw [hI.file] at hdurable
    obtain ⟨candidate, hcandidate, rfl⟩ := Option.map_eq_some_iff.1 hdurable
    exact hI.store ▸ hI.candidate candidate hcandidate
  window core hI := ⟨hI.store, hI.file, hI.wellformed, hI.candidate⟩
  failed core window n hI _ := ⟨hI.store, hI.file, hI.wellformed, hI.candidate⟩
  opened core mode id codeDigest now hI _ := ⟨hI.store, hI.file, hI.wellformed, hI.candidate⟩
  begun core window requestID draws now transaction digest hI _ _ :=
    ⟨hI.store, hI.file, hI.wellformed, hI.candidate⟩
  pruned core candidate now hI _ _ := ⟨hI.store, rfl, hI.wellformed, nofun⟩
  completed core window transaction digest request keys issued now serial hI _ _ _ _ hfresh _
      hloaded := by
    refine ⟨hI.store, rfl, hI.wellformed, fun candidate hcandidate => ?_⟩
    obtain ⟨loaded, hloaded⟩ := hloaded
    rw [← Option.some.inj hcandidate]
    exact awaits_of_loaded hloaded hfresh
  prepared core active rotationID requestDigest issued publicP256 now serial hI _ _ _ hfresh _
      hloaded := by
    refine ⟨hI.store, rfl, hI.wellformed, fun candidate hcandidate => ?_⟩
    obtain ⟨loaded, hloaded⟩ := hloaded
    rw [← Option.some.inj hcandidate]
    exact awaits_of_loaded hloaded hfresh
  committed core candidate state requestDigest now hI hcandidate hactivated := by
    have hawaits := hI.candidate candidate hcandidate
    have hwellformed := activated_wellformed hawaits.fresh hactivated
    refine ⟨⟨rfl, rfl, hwellformed, nofun⟩, hwellformed, fun durable hdurable => .inr ?_⟩
    have hfile := hI.file
    rw [hcandidate] at hfile
    rw [Option.some.inj (hdurable.symm.trans hfile)]
    exact activated_awaited hawaits hactivated
  rotated core mutation requestDigest currentSignature nextSignature now state hI _ hrotated :=
    ⟨rfl, hI.file, rotated_wellformed hrotated hI.wellformed,
      fun candidate hcandidate => rotated_awaits hrotated (hI.candidate candidate hcandidate)⟩
  revoked core now state hI habsent hrevoked := by
    refine ⟨rfl, hI.file, revoked_wellformed hrevoked, fun candidate hcandidate => ?_⟩
    have hfile := hI.file
    rw [show core.candidate = some candidate from hcandidate,
      show core.files.candidate = none from habsent] at hfile
    cases hfile
  commanded files now state hR habsent hrevoked := by
    refine ⟨revoked_wellformed hrevoked, fun durable hdurable => ?_⟩
    exact absurd ((show files.candidate = none from habsent).symm.trans hdurable) nofun
  started files now hR _ habsent := ⟨rfl, habsent, hR.wellformed, nofun⟩
  loaded files now durable candidate hR _ hdurable hdecoded := by
    obtain ⟨-, hcommitted, -, hsame⟩ := decodeDurableCandidate_eq_some hdecoded
    have hawaits : Awaits p durable files.authority := by
      cases hR.candidate durable hdurable with
      | inl hawaits => exact hawaits
      | inr hdone => exact absurd (hcommitted.trans hdone.committed) nofun
    refine ⟨rfl, ?_, hR.wellformed, fun other hother => ?_⟩
    · show files.candidate = some candidate.durable
      rw [hdurable, hsame]
    · rw [← Option.some.inj hother, hsame]
      exact hawaits
  cleared files now durable candidate hR _ _ _ := ⟨rfl, rfl, hR.wellformed, nofun⟩

/-! ## Every step -/

section Steps

variable {world : World} {event : Event}

/-- A step makes a successor of the authority, and the same where it refuses. -/
theorem step_succeeds (hworld : world.Holds (Reopens p) (ReopensFiles p))
    (hadmitted : Admitted p orderly world event) :
    Succeeds world.files.authority (next (step p) world event).files.authority ∧
      (answer (step p) world event = .refused →
        (next (step p) world event).files.authority = world.files.authority) :=
  (reopens_keeps p).step_authority Succeeds
    (fun _ => ⟨rfl, rfl, List.Subset.refl _, .inl ⟨rfl, rfl, rfl⟩⟩) (fun _ hI => hI.store)
    (fun _ candidate _ _ _ hI hcandidate hactivated =>
      activated_succeeds (hI.candidate candidate hcandidate).fresh hactivated)
    (fun _ _ _ _ _ _ _ _ _ h => rotated_succeeds h)
    (fun _ _ _ _ h => revoked_succeeds h) hadmitted hworld

theorem step_descends (hworld : world.Holds (Reopens p) (ReopensFiles p))
    (hadmitted : Admitted p orderly world event) :
    Descends world.files.authority (next (step p) world event).files.authority :=
  (step_succeeds hworld hadmitted).1.descends

theorem run_descends {events : List Event} (hworld : world.Holds (Reopens p) (ReopensFiles p))
    (hadmits : Admits (step p) (Admitted p orderly) world events) :
    Descends world.files.authority (run (step p) world events).files.authority := by
  induction events generalizing world with
  | nil => exact Descends.refl _
  | cons event events ih =>
      obtain ⟨hadmitted, hrest⟩ := hadmits
      have hkept := ((reopens_keeps p).step hadmitted hworld).1
      have hfirst := step_descends hworld hadmitted
      rw [run_cons]
      exact Descends.trans hfirst (ih hkept hrest)

/-- The authority on the disk is the one a process holds, and it is well formed. -/
theorem wellformed_of_holds (hworld : world.Holds (Reopens p) (ReopensFiles p)) :
    Wellformed p world.files.authority ∧
      ∀ memory, world.memory = some memory → memory.store = world.files.authority := by
  obtain ⟨files, memory⟩ := world
  cases memory with
  | none =>
      refine ⟨hworld.wellformed, fun other hother => ?_⟩
      cases hother
  | some memory =>
      have hsame : memory.store = files.authority := hworld.store
      refine ⟨hsame ▸ hworld.wellformed, fun other hother => ?_⟩
      rw [← Option.some.inj hother]
      exact hsame

end Steps

/-! ## Opening -/

/-- Time changes nothing of an authority but the validity of its server. -/
theorem validate_later {state : AuthorityState} {then_ now : Int}
    (h : validateAuthorityState p.pki state then_ = true) (hpki : p.pki now = true)
    (hreceipts : ∀ receipt ∈ state.receipts, receipt.committedAt ≤ now) :
    validateAuthorityState p.pki state now = true := by
  unfold validateAuthorityState at h ⊢
  simp only [Bool.and_eq_true] at h ⊢
  obtain ⟨⟨⟨⟨⟨⟨⟨⟨⟨hc, hi⟩, -⟩, hr⟩, hn⟩, ha⟩, hv⟩, hs⟩, hvalid⟩, hd⟩ := h
  refine ⟨⟨⟨⟨⟨⟨⟨⟨⟨hc, hi⟩, hpki⟩, hr⟩, hn⟩, ha⟩, hv⟩, hs⟩, ?_⟩, hd⟩
  rw [List.all_eq_true] at hvalid ⊢
  intro receipt hreceipt
  have hold := hvalid receipt hreceipt
  unfold validateReceipt at hold ⊢
  simp only [Bool.and_eq_true] at hold ⊢
  exact ⟨hold.1, decide_eq_true (hreceipts receipt hreceipt)⟩

/-- Nothing hinders a removal. -/
theorem removeCandidate_done (core : Core) :
    removeCandidate ⟨.done, .done⟩ core = (.returned (), core.clearFile) := by
  obtain ⟨memory, authority, candidate⟩ := core
  cases candidate <;> rfl

/-- Files that a run left open, at any time at which the server is valid and no
receipt is from the future. -/
theorem start_opens {world : World} (hworld : world.Holds (Reopens p) (ReopensFiles p)) {now : Int}
    (hpki : p.pki now = true)
    (hreceipts : ∀ receipt ∈ world.files.authority.receipts, receipt.committedAt ≤ now) :
    answer (step p) world ⟨now, .start ⟨.done, .done⟩⟩ = .started := by
  have hfiles : ReopensFiles p world.files := by
    obtain ⟨files, memory⟩ := world
    cases memory with
    | none => exact hworld
    | some memory => exact (reopens_keeps p).rest _ hworld
  obtain ⟨then_, hvalid⟩ := hfiles.wellformed.valid
  have hvalid := validate_later hvalid hpki hreceipts
  have hend : Ensures (· = world.files.opened) (start p ⟨.done, .done⟩ now) (fun _ _ => True)
      (fun _ => False) fun _ => False := by
    apply Ensures.bind_of (Ensures.ask_known nofun)
    intro valid hvalid'
    apply Ensures.bind_of (q := fun _ => True) (m := fun _ c => c = world.files.opened)
    · apply Ensures.check
      · exact fun _ hc _ => ⟨trivial, hc⟩
      · intro _ _ hfalse
        rw [← Option.some.inj hvalid'] at hfalse
        exact absurd (hvalid.symm.trans hfalse) nofun
    · intro _ _
      apply Ensures.bind_of (Ensures.ask_known nofun)
      intro durable hdurable
      cases durable with
      | none => exact Ensures.pure fun _ _ => trivial
      | some durable =>
          have hloads : (decodeDurableCandidate p durable world.files.authority).isSome := by
            rw [decodeDurableCandidate_isSome]
            cases hfiles.candidate durable (Option.some.inj hdurable) with
            | inl hawaits => exact ⟨hawaits.sound, hawaits.uncommitted.symm ▸ hawaits.stands⟩
            | inr hdone => exact ⟨hdone.sound, hdone.committed.symm ▸ hdone.stands⟩
          apply Ensures.bind_of (Ensures.ask_known (s := world.files.opened) fun hnone => ?_)
          · intro decoded _
            split
            · intro core _
              rw [removeCandidate_done]
              trivial
            · exact setMemory_ensures.weaken (fun _ hc => hc) (fun _ _ _ => trivial)
                (fun _ hc => hc) fun _ hc => hc
          · rw [show decodeDurableCandidate p durable world.files.authority = none from hnone] at hloads
            cases hloads
  have hend := hend _ rfl
  show (starts (start p ⟨.done, .done⟩ now world.files.opened)).2 = _
  cases hresult : start p ⟨.done, .done⟩ now world.files.opened with
  | mk ending core =>
      rw [hresult] at hend
      cases ending with
      | returned u => rfl
      | failed => exact hend.elim
      | died => exact hend.elim

/-! ## Becoming active -/

/-- The fingerprint a step made active. -/
def committedBy (past state : AuthorityState) : Option Bytes :=
  if state.activeFingerprint = past.activeFingerprint then none else state.activeFingerprint

/-- The fingerprints a run made active, in order. -/
def commits (p : Primitives) (world : World) : List Event → List Bytes
  | [] => []
  | event :: events =>
      (committedBy world.files.authority (next (step p) world event).files.authority).toList ++
        commits p (next (step p) world event) events

/-- A new certificate, with the next revision. -/
theorem Succeeds.committed {past state : AuthorityState} (h : Succeeds past state)
    {fingerprint : Bytes} (hcommitted : committedBy past state = some fingerprint) :
    fingerprint ∉ known past ∧ fingerprint ∈ known state ∧
      state.identityRevision = past.identityRevision + 1 := by
  unfold committedBy at hcommitted
  split at hcommitted
  · cases hcommitted
  · rename_i hne
    cases h.changed with
    | inl hsame => exact absurd hsame.2.2 hne
    | inr hmoved =>
        obtain ⟨-, hrevision, -, hfresh⟩ := hmoved
        refine ⟨hfresh fingerprint hcommitted, ?_, hrevision⟩
        unfold known
        rw [hcommitted]
        exact List.mem_append_left _ List.mem_cons_self

theorem Succeeds.revision_toNat {past state : AuthorityState} (h : Succeeds past state)
    {fingerprint : Bytes} (hcommitted : committedBy past state = some fingerprint) :
    state.identityRevision.toNat = past.identityRevision.toNat + 1 := by
  unfold committedBy at hcommitted
  split at hcommitted
  · cases hcommitted
  · rename_i hne
    cases h.changed with
    | inl hsame => exact absurd hsame.2.2 hne
    | inr hmoved =>
        obtain ⟨hlt, hrevision, -⟩ := hmoved
        rw [hrevision] at hlt ⊢
        rw [UInt64.lt_iff_toNat_lt, UInt64.toNat_add] at hlt
        rw [UInt64.toNat_add]
        have hbound := past.identityRevision.toNat_lt
        have hone : (1 : UInt64).toNat = 1 := rfl
        omega

/-- What was known stays known. -/
theorem Succeeds.known {past state : AuthorityState} (h : Succeeds past state) :
    known past ⊆ known state := by
  intro fingerprint hknown
  cases List.mem_append.1 hknown with
  | inr hrevoked => exact revoked_known (h.revoked hrevoked)
  | inl hactive =>
      have hactive := Option.mem_toList.1 hactive
      cases h.changed with
      | inl hsame =>
          apply List.mem_append_left
          rw [hsame.2.2]
          exact Option.mem_toList.2 hactive
      | inr hmoved => exact revoked_known (hmoved.2.2.1 fingerprint hactive)

/-- No candidate becomes active twice. -/
theorem commits_nodup {world : World} {events : List Event}
    (hworld : world.Holds (Reopens p) (ReopensFiles p))
    (hadmits : Admits (step p) (Admitted p orderly) world events) :
    (commits p world events).Nodup ∧
      ∀ fingerprint ∈ commits p world events, fingerprint ∉ known world.files.authority := by
  induction events generalizing world with
  | nil => exact ⟨List.nodup_nil, fun _ h => absurd h List.not_mem_nil⟩
  | cons event events ih =>
      obtain ⟨hadmitted, hrest⟩ := hadmits
      have hkept := ((reopens_keeps p).step hadmitted hworld).1
      have hstep := (step_succeeds hworld hadmitted).1
      obtain ⟨hnodup, hfresh⟩ := ih hkept hrest
      have hlater : ∀ f ∈ commits p (next (step p) world event) events,
          f ∉ known world.files.authority := fun f hf hold => hfresh f hf (hstep.known hold)
      unfold commits
      cases hcommitted : committedBy world.files.authority
          (next (step p) world event).files.authority with
      | none => exact ⟨hnodup, hlater⟩
      | some fingerprint =>
          obtain ⟨hnew, hnow, -⟩ := hstep.committed hcommitted
          refine ⟨List.nodup_cons.2 ⟨fun hagain => hfresh _ hagain hnow, hnodup⟩, ?_⟩
          intro f hf
          cases List.mem_cons.1 hf with
          | inl heq => exact heq ▸ hnew
          | inr hlast => exact hlater f hlast

/-! ## Asking again -/

section Again

variable {faults : ActivationFaults} {mode : Option Mode} {transactionID requestDigest : Bytes}
variable {certificate : Certificate} {now : Int}

/-- The authority on the disk is one of before, or one an activation answers from. -/
def Activating (past : AuthorityState) (certificate : Certificate) (now : Int) (core : Core) :
    Prop :=
  core.files.authority = past ∨
    ∃ response, Keeps.Answered core.files.authority certificate now response

theorem persist_authority {write : Write} {f : Core → Core} {keeps : Core → Prop}
    {core : Core} (hcore : keeps core) (hf : keeps (f core)) :
    Ensures (· = core) (persist write f) (fun _ c => c = f core) keeps keeps := by
  apply Ensures.bind (m := fun _ c => c = core)
  · exact Ensures.call (fun _ h _ => h) (fun _ h _ => h ▸ hcore) fun _ h _ => h ▸ hcore
  · intro _
    apply Ensures.bind (m := fun _ c => c = f core)
    · exact Ensures.effect (fun _ h _ => h ▸ rfl) (fun _ _ h => nomatch h) fun _ _ h => nomatch h
    · intro _
      exact Ensures.call (fun _ h _ => h) (fun _ h _ => h ▸ hf) fun _ h _ => h ▸ hf

/-- Nothing that is removed is an authority. -/
theorem removeCandidate_authority {write : Write} (state : AuthorityState) :
    Ensures (fun c => c.files.authority = state) (removeCandidate write)
      (fun _ c => c.files.authority = state) (fun c => c.files.authority = state)
      fun c => c.files.authority = state := by
  apply Ensures.bind (m := fun _ c => c.files.authority = state)
  · exact Ensures.call (fun _ h _ => h) (fun _ h _ => h) fun _ h _ => h
  · intro _
    apply Ensures.bind (m := fun _ c => c.files.authority = state)
    · exact Ensures.ask (fun _ _ h _ => h) fun _ h _ => h
    · intro present
      split
      · apply Ensures.bind (m := fun _ c => c.files.authority = state)
        · exact Ensures.effect (fun _ h _ => h) (fun _ h _ => h) fun _ h _ => h
        · intro _
          exact Ensures.call (fun _ h _ => h) (fun _ h _ => h) fun _ h _ => h
      · exact Ensures.pure fun _ h => h

theorem pruneCandidate_authority {write : Write} {core : Core} :
    Ensures (· = core) (pruneCandidate write now)
      (fun _ c => c.files.authority = core.files.authority)
      (fun c => c.files.authority = core.files.authority)
      fun c => c.files.authority = core.files.authority := by
  apply Ensures.bind (m := fun _ c => c = core)
  · exact Ensures.ask (fun _ _ h _ => h) fun _ h _ => h ▸ rfl
  · intro expired
    split
    · apply Ensures.bind (m := fun _ c => c.files.authority = core.files.authority)
      · exact (removeCandidate_authority _).from_pre fun _ h => h ▸ rfl
      · intro _
        exact Ensures.effect (fun _ h _ => h) (fun _ h _ => h) fun _ h _ => h
    · exact Ensures.pure fun _ h => h ▸ rfl

/-- Wherever an activation ends, what it wrote is what it answers from. -/
theorem activate_authority (core : Core) :
    Ensures (· = core) (activate p faults mode transactionID certificate requestDigest now)
      (fun _ => Activating core.files.authority certificate now)
      (Activating core.files.authority certificate now)
      (Activating core.files.authority certificate now) := by
  have hpast : ∀ c : Core, c.files.authority = core.files.authority →
      Activating core.files.authority certificate now c := fun _ h => .inl h
  apply Ensures.bind (pruneCandidate_authority.weaken (fun _ h => h) (fun _ _ h => h) hpast hpast)
  intro _
  apply Ensures.each
  intro c hc
  have hc := hpast c hc
  apply Ensures.bind_of (Ensures.ask_known nofun)
  intro candidate _
  cases candidate with
  | none => exact Ensures.ask (fun _ _ h _ => h ▸ hc) fun _ h _ => h ▸ hc
  | some candidate =>
      apply Ensures.bind_of (check_ensures hc)
      intro _ _
      apply Ensures.bind_of (Ensures.ask_known fun _ => hc)
      intro presented hpresented
      apply Ensures.bind_of (check_ensures hc)
      intro _ hpresented'
      rw [← Option.some.inj hpresented] at hpresented'
      apply Ensures.bind_of (Ensures.ask_known fun _ => hc)
      intro state hactivated
      have hwritten : ∀ c : Core, c.files.authority = state →
          Activating core.files.authority certificate now c := by
        intro c' hstate
        obtain ⟨revoked, -, -, rfl, -⟩ := activateCandidate_eq_some.1 hactivated
        right
        rw [hstate]
        exact ⟨_, _, rfl, hpresented', rfl⟩
      apply Ensures.bind (m := fun _ c => c.files.authority = state)
      · apply Ensures.bind (persist_authority hc (hwritten _ rfl))
        intro _
        exact Ensures.effect (fun _ h _ => h ▸ rfl) (fun _ _ h => nomatch h) fun _ _ h => nomatch h
      · intro _
        apply Ensures.bind (m := fun _ c => c.files.authority = state)
        · exact Ensures.effect (fun _ h _ => h) (fun _ _ h => nomatch h) fun _ _ h => nomatch h
        · intro _
          apply Ensures.bind (m := fun _ c => c.files.authority = state)
          · exact (removeCandidate_authority state).weaken (fun _ h => h) (fun _ _ h => h) hwritten
              hwritten
          · intro _
            exact Ensures.ask (fun c _ h _ => hwritten c h) fun c h _ => hwritten c h

theorem step_activate (files : Files) (memory : Memory) :
    step p ⟨files, some memory⟩
        ⟨now, .activate faults mode transactionID certificate requestDigest⟩ =
      goesOn ((Answer.activated <$> activate p faults mode transactionID certificate requestDigest
        now : Program Core Answer) ⟨memory, files⟩) := rfl

/-- An activation after which the authority is another one, or that is answered, is
answered from the authority it leaves, if it is answered. -/
theorem step_activates {world : World}
    (hworld : world.Holds (Reopens p) (ReopensFiles p))
    (hadmitted : Admitted p orderly world
      ⟨now, .activate faults mode transactionID certificate requestDigest⟩)
    (hdone : (∃ response, answer (step p) world
          ⟨now, .activate faults mode transactionID certificate requestDigest⟩ =
        .activated response) ∨
      (next (step p) world
          ⟨now, .activate faults mode transactionID certificate requestDigest⟩).files.authority ≠
        world.files.authority) :
    ∃ response, Keeps.Answered (next (step p) world
        ⟨now, .activate faults mode transactionID certificate requestDigest⟩).files.authority
        certificate now response ∧
      (answer (step p) world ⟨now, .activate faults mode transactionID certificate requestDigest⟩ =
          .activated response ∨
        answer (step p) world ⟨now, .activate faults mode transactionID certificate requestDigest⟩ =
          .silent) := by
  obtain ⟨files, memory⟩ := world
  cases memory with
  | none =>
      cases hdone with
      | inl hanswered => cases hanswered.choose_spec
      | inr hchanged => exact absurd rfl hchanged
  | some memory =>
      obtain ⟨hprune, hstate, hremoval, hremoved⟩ := hadmitted.1
      have hkept := (reopens_keeps p).activate hworld hprune hstate hremoval hremoved mode
        transactionID certificate requestDigest now _ rfl
      have hauthority : Ends _ _ _ (activate p faults mode transactionID certificate requestDigest
        now ⟨memory, files⟩) := activate_authority ⟨memory, files⟩ _ rfl
      have hrefused := (step_succeeds hworld hadmitted).2
      unfold next answer at hdone hrefused ⊢
      rw [step_activate, Program.map_apply] at hdone hrefused ⊢
      cases hresult : activate p faults mode transactionID certificate requestDigest now
          ⟨memory, files⟩ with
      | mk ending core =>
          rw [hresult] at hkept hauthority hdone hrefused
          cases ending with
          | returned response =>
              obtain ⟨hcore, hanswered⟩ := hkept
              have hstore : core.store = core.files.authority := hcore.store
              exact ⟨response, hstore ▸ hanswered, .inl rfl⟩
          | failed =>
              cases hdone with
              | inl hanswered => cases hanswered.choose_spec
              | inr hchanged => exact absurd (hrefused rfl) hchanged
          | died =>
              cases hdone with
              | inl hanswered => cases hanswered.choose_spec
              | inr hchanged =>
                  cases hauthority with
                  | inl hsame => exact absurd hsame hchanged
                  | inr hanswered =>
                      obtain ⟨response, hanswered⟩ := hanswered
                      exact ⟨response, hanswered, .inr rfl⟩

/-- Where no candidate is pending, an activation is answered from its receipt. -/
theorem replay_answers {world : World} {memory : Memory} (hmemory : world.memory = some memory)
    (hcandidate : memory.candidate = none) {response : IdentityActivationResponse}
    (hreplayed : replayedActivation memory.store mode transactionID certificate requestDigest now =
      some response) :
    answer (step p) world ⟨now, .activate faults mode transactionID certificate requestDigest⟩ =
      .activated response := by
  obtain ⟨files, held⟩ := world
  obtain ⟨store, window, candidate⟩ := memory
  obtain rfl : held = some ⟨store, window, candidate⟩ := hmemory
  obtain rfl : candidate = none := hcandidate
  have hask : activate p faults mode transactionID certificate requestDigest now
      ⟨⟨store, window, none⟩, files⟩ = Program.ask (fun core : Core =>
        replayedActivation core.store mode transactionID certificate requestDigest now)
          ⟨⟨store, window, none⟩, files⟩ := rfl
  unfold answer
  rw [step_activate, Program.map_apply, hask, Program.ask]
  simp only [hreplayed]
  rfl

/-- The same certificate is answered alike as long as it is active. -/
theorem answered_again {past state : AuthorityState} {earlier : Int}
    {response : IdentityActivationResponse} {active : DeviceRecord}
    (hpast : Wellformed p past) (hstate : Wellformed p state) (hlater : Descends past state)
    (hanswered : Keeps.Answered past certificate earlier response)
    (hactive : authorizeActive state certificate now = some active) :
    activationResponse state active certificate.notAfter = response := by
  obtain ⟨first, hfirst, hpresented, rfl⟩ := hanswered
  obtain ⟨hactive, hpresented'⟩ := authorizeActive_eq_some.1 hactive
  obtain ⟨then_, hvalid⟩ := hpast.valid
  obtain ⟨then', hvalid'⟩ := hstate.valid
  have hsame : active.certificateSHA256 = first.certificateSHA256 :=
    (fingerprint_of_presented (active_valid hvalid' hactive) hpresented').symm.trans
      (fingerprint_of_presented (active_valid hvalid hfirst) hpresented)
  have hfingerprint : past.activeFingerprint = some first.certificateSHA256 := by
    rw [AuthorityState.activeFingerprint, hfirst]
    rfl
  have hfingerprint' : state.activeFingerprint = some first.certificateSHA256 := by
    rw [AuthorityState.activeFingerprint, hactive, ← hsame]
    rfl
  cases hlater.changed with
  | inl hunchanged =>
      obtain ⟨hrevision, hdevice, -⟩ := hunchanged
      rw [hactive, hfirst] at hdevice
      have hdevice : active.deviceID = first.deviceID := Option.some.inj hdevice
      unfold activationResponse
      rw [hlater.controllerID, hlater.infrastructureID, hrevision, hdevice]
  | inr hmoved =>
      have hretired := hmoved.2 _ hfingerprint
      exact absurd hretired (hstate.distinct _ hfingerprint')

/-- An activation that was committed or answered, asked again while its receipt is
kept, its certificate is the active one and no candidate is pending, is answered
as it was. -/
theorem activation_replayed {world : World}
    (hworld : world.Holds (Reopens p) (ReopensFiles p))
    (hadmitted : Admitted p orderly world
      ⟨now, .activate faults mode transactionID certificate requestDigest⟩)
    (hdone : (∃ response, answer (step p) world
          ⟨now, .activate faults mode transactionID certificate requestDigest⟩ =
        .activated response) ∨
      (next (step p) world
          ⟨now, .activate faults mode transactionID certificate requestDigest⟩).files.authority ≠
        world.files.authority) :
    ∃ response,
      (answer (step p) world ⟨now, .activate faults mode transactionID certificate requestDigest⟩ =
          .activated response ∨
        answer (step p) world ⟨now, .activate faults mode transactionID certificate requestDigest⟩ =
          .silent) ∧
      ∀ (events : List Event) (again : ActivationFaults) (later : Int) (memory : Memory),
        Admits (step p) (Admitted p orderly) (next (step p) world
          ⟨now, .activate faults mode transactionID certificate requestDigest⟩) events →
        (run (step p) (next (step p) world
          ⟨now, .activate faults mode transactionID certificate requestDigest⟩) events).memory =
            some memory →
        memory.candidate = none →
        activationReceipt memory.store mode transactionID requestDigest later = true →
        (authorizeActive memory.store certificate later).isSome →
        answer (step p) (run (step p) (next (step p) world
          ⟨now, .activate faults mode transactionID certificate requestDigest⟩) events)
          ⟨later, .activate again mode transactionID certificate requestDigest⟩ =
            .activated response := by
  obtain ⟨response, hanswered, hanswer⟩ := step_activates hworld hadmitted hdone
  refine ⟨response, hanswer, fun events again later memory hadmits hmemory hcandidate hreceipt
    hactive => ?_⟩
  have hnext := ((reopens_keeps p).step hadmitted hworld).1
  obtain ⟨hpast, -⟩ := wellformed_of_holds hnext
  obtain ⟨hstate, hheld⟩ := wellformed_of_holds ((reopens_keeps p).run hnext hadmits)
  have hlater := run_descends hnext hadmits
  rw [← hheld memory hmemory] at hstate hlater
  obtain ⟨active, hactive⟩ := Option.isSome_iff_exists.1 hactive
  apply replay_answers hmemory hcandidate
  unfold replayedActivation
  rw [hreceipt, hactive]
  exact congrArg some (answered_again hpast hstate hlater hanswered hactive)

end Again

/-! ## From a new authority -/

/-- `InitializeAuthority` -/
def initialAuthority (controllerID infrastructureID : Bytes) : AuthorityState :=
  ⟨controllerID, infrastructureID, 0, none, [], []⟩

theorem initial_reopens {controllerID infrastructureID : Bytes}
    (hvalid : ∃ now, validateAuthorityState p.pki (initialAuthority controllerID infrastructureID)
      now = true) :
    (World.initial (initialAuthority controllerID infrastructureID)).Holds (Reopens p)
      (ReopensFiles p) := by
  refine ⟨⟨hvalid, fun fingerprint h => ?_⟩, fun durable h => ?_⟩
  · cases h
  · cases h

/-- Over every run from a new authority whose replacements are atomic, that issues
only new certificates and revokes nothing beside the file of a candidate: the files
open again, no certificate becomes active twice and each that does moves the
revision by one, a refusal leaves the authority as it was, and an activation that
was committed or answered is answered alike while its receipt is kept, its
certificate is active and no other candidate is pending. -/
theorem pairing_run (p : Primitives) (controllerID infrastructureID : Bytes)
    (hvalid : ∃ now, validateAuthorityState p.pki (initialAuthority controllerID infrastructureID)
      now = true)
    (es : List Event)
    (hadmits : Admits (step p) (Admitted p orderly)
      (World.initial (initialAuthority controllerID infrastructureID)) es) :
    let initial := World.initial (initialAuthority controllerID infrastructureID)
    let world := run (step p) initial es
    (∀ now, p.pki now = true →
      (∀ receipt ∈ world.files.authority.receipts, receipt.committedAt ≤ now) →
      answer (step p) world ⟨now, .start ⟨.done, .done⟩⟩ = .started) ∧
    (commits p initial es).Nodup ∧
    (∀ event, Admitted p orderly world event →
      ((committedBy world.files.authority (next (step p) world event).files.authority).isSome →
        (next (step p) world event).files.authority.identityRevision.toNat =
          world.files.authority.identityRevision.toNat + 1) ∧
      (answer (step p) world event = .refused →
        (next (step p) world event).files.authority = world.files.authority)) ∧
    ∀ faults mode transactionID certificate requestDigest now,
      let event : Event := ⟨now, .activate faults mode transactionID certificate requestDigest⟩
      Admitted p orderly world event →
      ((∃ response, answer (step p) world event = .activated response) ∨
        (next (step p) world event).files.authority ≠ world.files.authority) →
      ∃ response,
        (answer (step p) world event = .activated response ∨
          answer (step p) world event = .silent) ∧
        ∀ (fs : List Event) (again : ActivationFaults) (later : Int) (memory : Memory),
          Admits (step p) (Admitted p orderly) (next (step p) world event) fs →
          (run (step p) (next (step p) world event) fs).memory = some memory →
          memory.candidate = none →
          activationReceipt memory.store mode transactionID requestDigest later = true →
          (authorizeActive memory.store certificate later).isSome →
          answer (step p) (run (step p) (next (step p) world event) fs)
            ⟨later, .activate again mode transactionID certificate requestDigest⟩ =
              .activated response := by
  have hstart := initial_reopens hvalid
  have hworld := (reopens_keeps p).run hstart hadmits
  refine ⟨fun now => start_opens hworld, (commits_nodup hstart hadmits).1, fun event hadmitted => ?_,
    fun faults mode transactionID certificate requestDigest now => activation_replayed hworld⟩
  have hstep := step_succeeds hworld hadmitted
  refine ⟨fun hsome => ?_, hstep.2⟩
  obtain ⟨fingerprint, hcommitted⟩ := Option.isSome_iff_exists.1 hsome
  exact hstep.1.revision_toNat hcommitted

open Sample in
/-- A receipt is kept for a day; the activation asked again later is refused. -/
theorem replay_forgotten :
    answer (step primitives) (world (enrolling.take 4))
        ⟨Sample.now, activating 3 firstDevice.1 (text "2a")⟩ =
      .activated ⟨1, authority.controllerID, infrastructureID, firstDevice.1, .active,
        Sample.now + deviceLifetime, 1⟩ ∧
    answer (step primitives) (world enrolling)
        ⟨Sample.now + receiptLifetime + 1, activating 3 firstDevice.1 (text "2a")⟩ = .refused := by
  decide +kernel

/-- A completion while nothing was active yet. -/
theorem complete_admitted {world : World} {mode : WindowMode} {request : IdentityCompletionRequest}
    {serial : Bytes}
    (hknown : known (world.memory.getD ⟨world.files.authority, none, none⟩).store = []) :
    Admitted p orderly world ⟨now, .complete ⟨.done, .done⟩ mode request serial⟩ := by
  refine ⟨Verdict.noConfusion, fun deviceID publicP256 issued _ hold => ?_⟩
  rw [show known _ = [] from hknown] at hold
  exact absurd hold List.not_mem_nil

namespace Sample

/-- An enrollment up to its completion. -/
def completed : List Event :=
  events [.start sound, opening, beginning 3 firstDevice] ++
    events [completing 3 firstDevice.1 (text "2a")]

end Sample

open Sample in
theorem completed_admitted :
    Admits (step primitives) (Admitted primitives orderly) (World.initial authority) completed := by
  have hatomic : sound.Atomic := Verdict.noConfusion
  apply (admits_append _).2
  constructor
  · exact ⟨⟨hatomic, trivial⟩, ⟨hatomic, trivial⟩, ⟨trivial, trivial⟩, trivial⟩
  · refine ⟨complete_admitted ?_, trivial⟩
    decide +kernel

open Sample in
theorem pairing_replayed :
    ∃ response,
      (answer (step primitives) (run (step primitives) (World.initial authority) completed)
            ⟨Sample.now, activating 3 firstDevice.1 (text "2a")⟩ = .activated response ∨
        answer (step primitives) (run (step primitives) (World.initial authority) completed)
            ⟨Sample.now, activating 3 firstDevice.1 (text "2a")⟩ = .silent) ∧
      answer (step primitives)
          (next (step primitives) (run (step primitives) (World.initial authority) completed)
            ⟨Sample.now, activating 3 firstDevice.1 (text "2a")⟩)
          ⟨Sample.now + receiptLifetime, activating 3 firstDevice.1 (text "2a")⟩ =
        .activated response := by
  have hatomic : sound.Atomic := Verdict.noConfusion
  have hkept : (next (step primitives) (run (step primitives) (World.initial authority) completed)
      ⟨Sample.now, activating 3 firstDevice.1 (text "2a")⟩).memory.any (fun memory =>
        memory.candidate.isNone &&
          activationReceipt memory.store (some .enrollment) (encodeRawURL (drawn 16 3).1)
            (drawn 32 10).1 (Sample.now + receiptLifetime) &&
          (authorizeActive memory.store (certificate (text "2a") firstDevice.1)
            (Sample.now + receiptLifetime)).isSome) = true := by decide +kernel
  have hanswered : ∃ response, answer (step primitives)
      (run (step primitives) (World.initial authority) completed)
      ⟨Sample.now, activating 3 firstDevice.1 (text "2a")⟩ = .activated response :=
    ⟨⟨1, authority.controllerID, infrastructureID, firstDevice.1, .active,
      Sample.now + deviceLifetime, 1⟩, by decide +kernel⟩
  obtain ⟨memory, hmemory, hkept⟩ := (Option.any_eq_true _ _).1 hkept
  rw [Bool.and_eq_true, Bool.and_eq_true] at hkept
  obtain ⟨⟨hcandidate, hreceipt⟩, hactive⟩ := hkept
  obtain ⟨response, hanswer, hagain⟩ := (pairing_run primitives authority.controllerID
    infrastructureID ⟨Sample.now, by decide⟩ completed completed_admitted).2.2.2
    ⟨sound, sound, sound⟩ (some .enrollment) (encodeRawURL (drawn 16 3).1)
    (certificate (text "2a") firstDevice.1) (drawn 32 10).1 Sample.now
    ⟨⟨hatomic, hatomic, hatomic, Verdict.noConfusion⟩, trivial⟩ (.inl hanswered)
  have hagain := hagain [] ⟨sound, sound, sound⟩ (Sample.now + receiptLifetime) memory trivial
  rw [run_nil] at hagain
  exact ⟨response, hanswer, hagain hmemory (Option.isNone_iff_eq_none.1 hcandidate) hreceipt
    hactive⟩

end Manager

end YourCloud.Identity
