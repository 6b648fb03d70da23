import YourCloud.Identity.Manager

/-!
# What the pairing manager keeps

An invariant of the manager is one of the files and the memory together while a
process runs, and one of the files alone where none does.  What an operation can
do to both is said once, as a list of changes; an invariant that each of them
keeps is kept by every step, wherever the process ends.

## Main results

* `Keeps.step`, `Keeps.run` — what every step and every run keeps.
-/

namespace YourCloud.Identity

open YourCloud.Foundation

namespace Manager

/-- A replacement is atomic: one that fails changed nothing. -/
def Write.Atomic (write : Write) : Prop := write.after ≠ .fails

/-- The replacements of an operation are atomic, and the file of a candidate that
was committed can be removed. -/
def Operation.Steady : Operation → Prop
  | start removal => removal.Atomic
  | stop => True
  | openWindow prune _ _ => prune.Atomic
  | begin .. => True
  | complete write .. => write.Atomic
  | activate faults .. =>
      faults.prune.Atomic ∧ faults.state.Atomic ∧ faults.removal.Atomic ∧
        faults.removal.before ≠ .fails
  | prepareDeviceRotation faults .. => faults.prune.Atomic ∧ faults.candidate.Atomic
  | deviceRotationCandidate prune .. => prune.Atomic
  | rotateRecoveryKey write .. => write.Atomic
  | revokeActiveDevice write => write.Atomic

/-- When an operation may change the authority, and what a certificate that is
issued may be. -/
structure Guard where
  rotate : Core → Prop
  revoke : Files → Prop
  fresh : AuthorityState → Bytes → Prop

section Keeping

variable (p : Primitives)

/-- Every certificate an operation issues is as the guard asks. -/
def Guard.Issues (guard : Guard) (state : AuthorityState) (serial : Bytes) (now : Int) : Prop :=
  ∀ deviceID publicP256 issued,
    issueDeviceCertificate p state deviceID publicP256 serial now = some issued →
      guard.fresh state issued.record.certificateSHA256

/-- What a guard asks of an operation that is not refused. -/
def Guard.Allows (guard : Guard) (core : Core) (now : Int) : Operation → Prop
  | .complete _ _ _ serial => guard.Issues p core.store serial now
  | .prepareDeviceRotation _ _ _ _ serial => guard.Issues p core.store serial now
  | .rotateRecoveryKey _ mutation requestDigest currentSignature nextSignature =>
      ∀ state, Identity.rotateRecoveryKey p core.store mutation requestDigest currentSignature
        nextSignature now = some (.changed state) → guard.rotate core
  | .revokeActiveDevice _ =>
      ∀ state, Identity.revokeActiveDevice p core.store now = some state →
        guard.revoke core.files
  | _ => True

/-- The changes an operation is made of.  `I` holds of a process that runs and `Q`
once it changed the authority; `R` holds of files at rest and `D` of those a step
leaves. -/
structure Keeps (guard : Guard) (I Q : Core → Prop) (R D : Files → Prop) : Prop where
  weaken : ∀ core, I core → Q core
  rest : ∀ core, I core → R core.files
  left : ∀ files, R files → D files
  changed : ∀ core, Q core → D core.files
  window : ∀ core, I core → I (core.setWindow none)
  failed : ∀ core window n, I core → core.window = some window →
    I (core.setWindow (some { window with failedProofs := n }))
  opened : ∀ core mode id codeDigest now, I core → core.candidate = none →
    I (core.setWindow (some ⟨mode, id, codeDigest, now, now + windowLifetime, 0, none⟩))
  begun : ∀ core window requestID draws now transaction digest, I core →
    core.window = some window →
    newTransaction core.store window.mode requestID draws now = some transaction →
    I (core.setWindow (some { window with transaction := some (transaction, digest) }))
  pruned : ∀ core candidate now, I core → core.candidate = some candidate →
    candidate.expires < now → I (core.setCandidate none)
  completed : ∀ core window transaction digest request keys issued now serial, I core →
    core.window = some window → window.transaction = some (transaction, digest) →
    verifyCompletion p core.store window transaction request now = some keys →
    issueDeviceCertificate p core.store transaction.deviceID keys.publicP256 serial now =
      some issued →
    guard.fresh core.store issued.record.certificateSHA256 → core.files.candidate = none →
    (∃ loaded, decodeDurableCandidate p
      (completedCandidate core.store window transaction request keys issued).durable core.store =
        some (loaded, false)) →
    I ((core.setWindow none).setCandidate
      (some (completedCandidate core.store window transaction request keys issued)))
  prepared : ∀ core active rotationID requestDigest issued publicP256 now serial, I core →
    core.candidate = none → core.store.active = some active →
    issueDeviceCertificate p core.store active.deviceID publicP256 serial now = some issued →
    guard.fresh core.store issued.record.certificateSHA256 → core.files.candidate = none →
    (∃ loaded, decodeDurableCandidate p
      (rotationCandidate active rotationID requestDigest issued now).durable core.store =
        some (loaded, false)) →
    I (core.setCandidate (some (rotationCandidate active rotationID requestDigest issued now)))
  committed : ∀ core candidate state requestDigest now, I core → core.candidate = some candidate →
    activateCandidate p core.store candidate requestDigest now = some state →
    Q ((core.setAuthority state).setCandidate none) ∧ D ⟨state, core.files.candidate⟩
  rotated : ∀ core mutation requestDigest currentSignature nextSignature now state, I core →
    guard.rotate core →
    Identity.rotateRecoveryKey p core.store mutation requestDigest currentSignature nextSignature
      now = some (.changed state) →
    Q (core.setAuthority state)
  revoked : ∀ core now state, I core → guard.revoke core.files →
    Identity.revokeActiveDevice p core.store now = some state → Q (core.setAuthority state)
  commanded : ∀ files now state, R files → guard.revoke files →
    Identity.revokeActiveDevice p files.authority now = some state →
    D { files with authority := state }
  started : ∀ files now, R files → validateAuthorityState p.pki files.authority now = true →
    files.candidate = none → I files.opened
  loaded : ∀ files now durable candidate, R files →
    validateAuthorityState p.pki files.authority now = true → files.candidate = some durable →
    decodeDurableCandidate p durable files.authority = some (candidate, false) →
    I { files.opened with candidate := some candidate }
  cleared : ∀ files now durable candidate, R files →
    validateAuthorityState p.pki files.authority now = true → files.candidate = some durable →
    decodeDurableCandidate p durable files.authority = some (candidate, true) →
    I (Files.opened { files with candidate := none })

end Keeping

/-! ## Every operation -/

variable {core : Core}

/-- A replacement takes effect, or fails with nothing changed; it can also be the
last step, before it takes effect or after. -/
theorem persist_ensures {write : Write} (hwrite : write.Atomic) {f : Core → Core}
    {failed died : Core → Prop} (hfailed : failed core) (hbefore : died core)
    (hafter : died (f core)) :
    Ensures (· = core) (persist write f) (fun _ c => c = f core) failed died := by
  unfold persist
  apply Ensures.bind (m := fun _ c => c = core)
  · exact Ensures.call (fun _ h _ => h) (fun _ h _ => h ▸ hfailed) fun _ h _ => h ▸ hbefore
  · intro _
    apply Ensures.bind (m := fun _ c => c = f core)
    · exact Ensures.effect (fun _ h _ => h ▸ rfl) (fun _ _ h => nomatch h) fun _ _ h => nomatch h
    · intro _
      exact Ensures.call (fun _ h _ => h) (fun _ _ h => absurd h hwrite) fun _ h _ => h ▸ hafter

theorem setMemory_ensures {f : Core → Core} {failed died : Core → Prop} :
    Ensures (· = core) (setMemory f) (fun _ c => c = f core) failed died :=
  Ensures.effect (fun _ h _ => h ▸ rfl) (fun _ _ h => nomatch h) fun _ _ h => nomatch h

/-- A condition on a known state. -/
theorem check_ensures {b : Bool} {failed died : Core → Prop} (hfailed : failed core) :
    Ensures (· = core) (Program.check b) (fun _ c => b = true ∧ c = core) failed died :=
  Ensures.check (fun _ h hb => ⟨hb, h⟩) fun _ h _ => h ▸ hfailed

/-- A value that is there. -/
theorem ask_isSome {α : Type} {f : Core → Option α} (hf : (f core).isSome)
    {post failed died : Core → Prop} (hpost : post core) :
    Ensures (· = core) (Program.ask f) (fun _ => post) failed died :=
  Ensures.ask (fun _ _ hc _ => hc ▸ hpost) fun _ hc hnone => by
    rw [hc] at hnone
    rw [hnone] at hf
    cases hf

/-- The file of the candidate removed. -/
def Core.clearFile (core : Core) : Core :=
  { core with files := { core.files with candidate := none } }

theorem removeCandidate_ensures {write : Write} (hwrite : write.Atomic)
    {failed died : Core → Prop} (hfailed : write.before = .fails → failed core)
    (hbefore : died core) (hafter : died core.clearFile) :
    Ensures (· = core) (removeCandidate write) (fun _ c => c = core.clearFile) failed died := by
  unfold removeCandidate
  apply Ensures.bind (m := fun _ c => c = core)
  · exact Ensures.call (fun _ h _ => h) (fun _ h hv => h ▸ hfailed hv) fun _ h _ => h ▸ hbefore
  · intro _
    apply Ensures.bind_of (Ensures.ask_known nofun)
    intro present hpresent
    cases present with
    | false =>
        apply Ensures.pure
        intro c hc
        have habsent := Option.some.inj hpresent
        simp only [Option.isSome_eq_false_iff, Option.isNone_iff_eq_none] at habsent
        rw [hc, Core.clearFile, ← habsent]
    | true =>
        apply Ensures.bind (m := fun _ c => c = core.clearFile)
        · exact Ensures.effect (fun _ h _ => h ▸ rfl) (fun _ _ h => nomatch h)
            fun _ _ h => nomatch h
        · intro _
          exact Ensures.call (fun _ h _ => h) (fun _ _ h => absurd h hwrite) fun _ h _ => h ▸ hafter

variable {p : Primitives} {guard : Guard} {I Q : Core → Prop} {R D : Files → Prop}

namespace Keeps

variable (h : Keeps p guard I Q R D)

include h

theorem files (hI : I core) : D core.files := h.left _ (h.rest core hI)

variable (hI : I core)

include hI

theorem pruneCandidate {write : Write} (hwrite : write.Atomic) (now : Int) :
    Ensures (· = core) (pruneCandidate write now)
      (fun _ c => I c ∧ c.store = core.store) I fun c => D c.files := by
  unfold Manager.pruneCandidate
  apply Ensures.bind_of (Ensures.ask_known nofun)
  intro expired hexpired
  cases expired with
  | false =>
      apply Ensures.pure
      intro c hc
      rw [hc]
      exact ⟨hI, rfl⟩
  | true =>
      obtain ⟨candidate, hcandidate, hlt⟩ :=
        (Option.any_eq_true _ _).1 (Option.some.inj hexpired)
      have hpruned := h.pruned core candidate now hI hcandidate (of_decide_eq_true hlt)
      have hfiles := h.files hI
      apply Ensures.bind (removeCandidate_ensures hwrite (fun _ => hI) hfiles (h.files hpruned))
      intro _
      apply setMemory_ensures.weaken (fun _ hc => hc) ?_ (fun _ hc => hc) fun _ hc => hc
      intro _ c hc
      rw [hc]
      exact ⟨hpruned, rfl⟩

/-- A pruned manager goes on. -/
theorem afterPrune {α : Type} {write : Write} (hwrite : write.Atomic) (now : Int)
    {f : Unit → Program Core α} {post : α → Core → Prop}
    (hf : ∀ c, I c → c.store = core.store →
      Ensures (· = c) (f ()) post I fun c => D c.files) :
    Ensures (· = core) (Manager.pruneCandidate write now >>= f) post I fun c => D c.files := by
  apply Ensures.bind (h.pruneCandidate hI hwrite now)
  intro _
  exact Ensures.each fun c hc => hf c hc.1 hc.2

theorem openWindow {prune : Write} (hprune : prune.Atomic) (mode : WindowMode)
    (draws : WindowDraws) (now : Int) :
    Ensures (· = core) (openWindow prune mode draws now) (fun _ => I) I fun c => D c.files := by
  apply h.afterPrune hI hprune now
  intro c hc _
  apply Ensures.bind_of (Ensures.ask_known nofun)
  intro free hfree
  apply Ensures.bind_of (check_ensures hc)
  intro _ hfree'
  rw [← Option.some.inj hfree, Bool.and_eq_true, Bool.and_eq_true] at hfree'
  apply Ensures.bind setMemory_ensures
  intro _
  apply Ensures.pure
  intro c' hc'
  rw [hc']
  exact h.opened c mode _ _ now hc (Option.isNone_iff_eq_none.1 hfree'.1.2)

theorem currentWindow (mode : WindowMode) (now : Int) :
    Ensures (· = core) (currentWindow mode now)
      (fun window c => (core.window = some window ∧ window.mode = mode) ∧ c = core) I
      fun c => D c.files := by
  unfold Manager.currentWindow
  apply Ensures.bind_of (Ensures.ask_known nofun)
  intro found hfound
  cases found with
  | some window =>
      have hwindow := Option.filter_eq_some_iff.1 (Option.some.inj hfound)
      rw [Bool.and_eq_true] at hwindow
      exact Ensures.pure fun _ hc => ⟨⟨hwindow.1, of_decide_eq_true hwindow.2.1⟩, hc⟩
  | none =>
      apply Ensures.bind setMemory_ensures
      intro _
      apply Ensures.fail
      intro c hc
      rw [hc]
      exact h.window core hI

theorem begin (mode : WindowMode) (request : IdentityChallengeRequest) (draws : BeginDraws)
    (now : Int) :
    Ensures (· = core) (begin mode request draws now) (fun _ => I) I fun c => D c.files := by
  unfold Manager.begin validWindow
  apply Ensures.bind (m := fun window c => (core.window = some window ∧ window.mode = mode) ∧
    c = core)
  · apply Ensures.bind_of (h.currentWindow hI mode now)
    intro window hwindow
    apply Ensures.bind_of (Ensures.ask_known fun _ => hI)
    intro code _
    apply Ensures.bind_of (check_ensures hI)
    intro _ _
    apply Ensures.bind_of (check_ensures hI)
    intro _ _
    exact Ensures.pure fun _ hc => ⟨hwindow, hc⟩
  · intro window
    apply Ensures.each
    rintro c ⟨⟨hwindow, rfl⟩, rfl⟩
    apply Ensures.bind_of (check_ensures hI)
    intro _ _
    split
    · apply Ensures.bind_of (check_ensures hI)
      intro _ _
      apply Ensures.pure
      intro c' hc'
      rw [hc']
      exact hI
    · apply Ensures.bind_of (Ensures.ask_known fun _ => hI)
      intro transaction htransaction
      obtain ⟨deviceID, -, htransaction⟩ := Option.bind_eq_some_iff.1 htransaction
      apply Ensures.bind setMemory_ensures
      intro _
      apply Ensures.pure
      intro c' hc'
      rw [hc']
      exact h.begun c window _ _ now transaction _ hI hwindow htransaction

/-- A candidate is written only where it can be read back, and where there is none. -/
theorem persistCandidate {write : Write} (hwrite : write.Atomic) (candidate : PendingCandidate)
    (hwritten : core.files.candidate = none →
      (∃ loaded, decodeDurableCandidate p candidate.durable core.store = some (loaded, false)) →
      D (core.setCandidate (some candidate)).files) :
    Ensures (· = core) (persistCandidate p write candidate)
      (fun _ c => ((∃ loaded, decodeDurableCandidate p candidate.durable core.store =
          some (loaded, false)) ∧ core.files.candidate = none) ∧
        c = { core with files := (core.setCandidate (some candidate)).files })
      I fun c => D c.files := by
  unfold Manager.persistCandidate
  apply Ensures.bind_of (Ensures.ask_known fun _ => hI)
  intro decoded hdecoded
  apply Ensures.bind_of (check_ensures hI)
  intro _ hcommitted
  apply Ensures.bind_of (Ensures.ask_known fun _ => hI)
  intro free hfree
  apply Ensures.bind_of (check_ensures hI)
  intro _ hfree'
  have habsent : core.files.candidate = none := by
    rw [← Option.some.inj hfree] at hfree'
    exact Option.isNone_iff_eq_none.1 hfree'
  have hloaded : ∃ loaded, decodeDurableCandidate p candidate.durable core.store =
      some (loaded, false) := by
    refine ⟨decoded.1, ?_⟩
    rw [Bool.not_eq_true'] at hcommitted
    rw [hdecoded, ← hcommitted]
  apply (persist_ensures hwrite hI (h.files hI) (hwritten habsent hloaded)).weaken
    (fun _ hc => hc) ?_ (fun _ hc => hc) fun _ hc => hc
  intro _ c hc
  exact ⟨⟨hloaded, habsent⟩, hc⟩

theorem complete {write : Write} (hwrite : write.Atomic) (mode : WindowMode)
    (request : IdentityCompletionRequest) (serial : Bytes) (now : Int)
    (hguard : guard.Issues p core.store serial now) :
    Ensures (· = core) (complete p write mode request serial now) (fun _ => I) I
      fun c => D c.files := by
  unfold Manager.complete
  apply Ensures.bind_of (Ensures.ask_known nofun)
  intro begun hbegun
  cases begun with
  | none =>
      apply Ensures.bind setMemory_ensures
      intro _
      apply Ensures.fail
      intro c hc
      rw [hc]
      exact h.window core hI
  | some begun =>
      obtain ⟨window, transaction⟩ := begun
      obtain ⟨w, hwindow, hbegun⟩ := Option.bind_eq_some_iff.1 (Option.some.inj hbegun)
      obtain ⟨⟨t, digest⟩, htransaction, heq⟩ := Option.map_eq_some_iff.1 hbegun
      obtain ⟨rfl, rfl⟩ := Prod.mk.inj heq
      obtain ⟨hwindow, -⟩ := Option.filter_eq_some_iff.1 hwindow
      apply Ensures.bind_of (Ensures.ask_known nofun)
      intro state hstate
      obtain rfl := Option.some.inj hstate
      cases hkeys : verifyCompletion p core.store w t request now with
      | none =>
          apply Ensures.bind setMemory_ensures
          intro _
          apply Ensures.fail
          intro c hc
          rw [hc, hwindow]
          simp only [Option.bind_some]
          split
          · exact h.window core hI
          · exact h.failed core w _ hI hwindow
      | some keys =>
          apply Ensures.bind_of (Ensures.ask_known fun _ => hI)
          intro issued hissued
          have hcompleted := h.completed core w t digest request keys issued now serial hI hwindow
            htransaction hkeys hissued (hguard _ _ _ hissued)
          apply Ensures.bind_of (h.persistCandidate hI hwrite _ ?_)
          · intro _ hpersisted
            apply Ensures.bind setMemory_ensures
            intro _
            apply Ensures.pure
            intro c hc
            rw [hc]
            exact hcompleted hpersisted.2 hpersisted.1
          · intro habsent hloaded
            have hfiles := h.files (hcompleted habsent hloaded)
            exact hfiles

omit h hI in
/-- An activation is answered from the active device, whose certificate was shown. -/
def Answered (state : AuthorityState) (certificate : Certificate) (now : Int)
    (response : IdentityActivationResponse) : Prop :=
  ∃ active, state.active = some active ∧
    validatePresentedDevice certificate state.infrastructureID active now = true ∧
    response = activationResponse state active certificate.notAfter

theorem activate {faults : ActivationFaults} (hprune : faults.prune.Atomic)
    (hstate : faults.state.Atomic) (hremoval : faults.removal.Atomic)
    (hremoved : faults.removal.before ≠ .fails) (mode : Option Mode) (transactionID : Bytes)
    (certificate : Certificate) (requestDigest : Bytes) (now : Int) :
    Ensures (· = core) (activate p faults mode transactionID certificate requestDigest now)
      (fun response c => Q c ∧ Answered c.store certificate now response) I
      fun c => D c.files := by
  apply h.afterPrune hI hprune now
  intro core hI _
  apply Ensures.bind_of (Ensures.ask_known nofun)
  intro candidate hcandidate
  cases candidate with
  | none =>
      apply (Ensures.ask_known fun _ => hI).weaken (fun _ hc => hc) ?_ (fun _ hc => hc)
        fun _ hc => hc
      intro response c hc
      obtain ⟨hreplayed, rfl⟩ := hc
      refine ⟨h.weaken c hI, ?_⟩
      simp only [replayedActivation, Option.bind_eq_bind, Option.bind_eq_some_iff,
        require_eq_some, Option.pure_def, Option.some.injEq] at hreplayed
      obtain ⟨-, -, active, hactive, rfl⟩ := hreplayed
      obtain ⟨hactive, hpresented⟩ := authorizeActive_eq_some.1 hactive
      exact ⟨active, hactive, hpresented, rfl⟩
  | some candidate =>
      apply Ensures.bind_of (check_ensures hI)
      intro _ _
      apply Ensures.bind_of (Ensures.ask_known fun _ => hI)
      intro presented hpresented
      apply Ensures.bind_of (check_ensures hI)
      intro _ hpresented'
      rw [← Option.some.inj hpresented] at hpresented'
      apply Ensures.bind_of (Ensures.ask_known fun _ => hI)
      intro state hactivated
      obtain ⟨hQ, hD⟩ := h.committed core candidate state requestDigest now hI
        (Option.some.inj hcandidate) hactivated
      apply Ensures.bind (m := fun _ c => c = core.setAuthority state)
      · apply Ensures.bind (persist_ensures hstate hI (h.files hI) hD)
        intro _
        exact setMemory_ensures
      · intro _
        apply Ensures.bind setMemory_ensures
        intro _
        apply Ensures.bind (removeCandidate_ensures hremoval (fun hv => absurd hv hremoved) hD
          (h.changed _ hQ))
        intro _
        obtain ⟨revoked, -, -, rfl, -⟩ := activateCandidate_eq_some.1 hactivated
        apply (Ensures.ask_known fun hnone => by cases hnone).weaken (fun _ hc => hc) ?_
          (fun _ hc => hc) fun _ hc => hc
        intro response c hc
        obtain ⟨hanswer, rfl⟩ := hc
        exact ⟨hQ, _, rfl, hpresented', (Option.some.inj hanswer).symm⟩

theorem prepareDeviceRotation {faults : RotationFaults} (hprune : faults.prune.Atomic)
    (hcandidate : faults.candidate.Atomic) (rotationID encodedCSR requestDigest serial : Bytes)
    (now : Int) (hguard : guard.Issues p core.store serial now) :
    Ensures (· = core)
      (prepareDeviceRotation p faults rotationID encodedCSR requestDigest serial now)
      (fun _ => I) I fun c => D c.files := by
  apply Ensures.bind_of (check_ensures hI)
  intro _ _
  apply h.afterPrune hI hprune now
  intro c hI hstore
  rw [← hstore] at hguard
  apply Ensures.bind_of (Ensures.ask_known nofun)
  intro candidate hpending
  cases candidate with
  | some candidate =>
      apply Ensures.bind_of (check_ensures hI)
      intro _ _
      apply Ensures.pure
      intro c' hc
      rw [hc]
      exact hI
  | none =>
      apply Ensures.bind_of (Ensures.ask_known nofun)
      intro state hstate
      obtain rfl := Option.some.inj hstate
      apply Ensures.bind_of (Ensures.ask_known fun _ => hI)
      intro active hactive
      apply Ensures.bind_of (Ensures.ask_known fun _ => hI)
      intro request _
      apply Ensures.bind_of (Ensures.ask_known fun _ => hI)
      intro issued hissued
      have hprepared := h.prepared c active rotationID requestDigest issued request.1 now serial hI
        (Option.some.inj hpending) hactive hissued (hguard _ _ _ hissued)
      apply Ensures.bind_of (h.persistCandidate hI hcandidate _ ?_)
      · intro _ hpersisted
        apply Ensures.bind setMemory_ensures
        intro _
        apply Ensures.pure
        intro c' hc
        rw [hc]
        exact hprepared hpersisted.2 hpersisted.1
      · intro habsent hloaded
        exact h.files (hprepared habsent hloaded)

theorem deviceRotationCandidate {prune : Write} (hprune : prune.Atomic)
    (rotationID requestDigest : Bytes) (now : Int) :
    Ensures (· = core) (deviceRotationCandidate prune rotationID requestDigest now) (fun _ => I) I
      fun c => D c.files := by
  apply h.afterPrune hI hprune now
  intro c hI _
  apply Ensures.bind_of (Ensures.ask_known nofun)
  intro candidate _
  cases candidate with
  | none =>
      apply Ensures.pure
      intro c' hc
      rw [hc]
      exact hI
  | some candidate =>
      apply Ensures.bind_of (check_ensures hI)
      intro _ _
      apply Ensures.pure
      intro c' hc
      rw [hc]
      exact hI

theorem rotateRecoveryKey {write : Write} (hwrite : write.Atomic)
    (mutation : RecoveryKeyMutation) (requestDigest currentSignature nextSignature : Bytes)
    (now : Int)
    (hguard : ∀ state, Identity.rotateRecoveryKey p core.store mutation requestDigest
      currentSignature nextSignature now = some (.changed state) → guard.rotate core) :
    Ensures (· = core)
      (rotateRecoveryKey p write mutation requestDigest currentSignature nextSignature now)
      (fun _ => Q) I fun c => D c.files := by
  apply Ensures.bind_of (Ensures.ask_known fun _ => hI)
  intro rotation hrotation
  cases rotation with
  | replayed response =>
      apply Ensures.pure
      intro c hc
      rw [hc]
      exact h.weaken core hI
  | changed state =>
      have hQ := h.rotated core mutation requestDigest currentSignature nextSignature now state hI
        (hguard state hrotation) hrotation
      apply Ensures.bind (m := fun _ c => c = core.setAuthority state)
      · apply Ensures.bind (persist_ensures hwrite hI (h.files hI) (h.changed _ hQ))
        intro _
        exact setMemory_ensures
      · intro _
        obtain ⟨active, -, hchanged⟩ := rotateRecoveryKey_eq_some hrotation
        have hactive : state.active.isSome := by
          cases hchanged with
          | inl hreplayed => cases hreplayed.1
          | inr hrotated =>
              rw [Rotation.changed.inj hrotated.1]
              rfl
        exact ask_isSome (Option.isSome_map.trans hactive) hQ

theorem revokeActiveDevice {write : Write} (hwrite : write.Atomic) (now : Int)
    (hguard : ∀ state, Identity.revokeActiveDevice p core.store now = some state →
      guard.revoke core.files) :
    Ensures (· = core) (revokeActiveDevice p write now) (fun _ => Q) I fun c => D c.files := by
  apply Ensures.bind_of (Ensures.ask_known fun _ => hI)
  intro active _
  apply Ensures.bind_of (Ensures.ask_known fun _ => hI)
  intro state hrevoked
  have hQ := h.revoked core now state hI (hguard state hrevoked) hrevoked
  apply Ensures.bind (m := fun _ c => c = core.setAuthority state)
  · apply Ensures.bind (persist_ensures hwrite hI (h.files hI) (h.changed _ hQ))
    intro _
    exact setMemory_ensures
  · intro _
    apply Ensures.pure
    intro c hc
    rw [hc]
    exact hQ

end Keeps

/-! ## Every step and every run -/

/-- What holds of the files and of the memory, where there is one. -/
def World.Holds (I : Core → Prop) (D : Files → Prop) (world : World) : Prop :=
  match world.memory with
  | some memory => I ⟨memory, world.files⟩
  | none => D world.files

/-- The steps of a run: each is steady, and its operation is as the guard asks. -/
def Admitted (p : Primitives) (guard : Guard) (world : World) (event : Event) : Prop :=
  event.operation.Steady ∧
    guard.Allows p ⟨world.memory.getD ⟨world.files.authority, none, none⟩, world.files⟩ event.now
      event.operation

namespace Keeps

variable (h : Keeps p guard I Q R D)

include h

theorem perform {now : Int} {operation : Operation} (hsteady : operation.Steady)
    (hguard : guard.Allows p core now operation) (hI : I core) :
    Ensures (· = core) (perform p now operation) (fun a c => a ≠ .refused ∧ Q c) I
      fun c => D c.files := by
  have hchanged : ∀ {α : Type} {q : Program Core α} {g : α → Answer}, (∀ a, g a ≠ .refused) →
      Ensures (· = core) q (fun _ => Q) I (fun c => D c.files) →
      Ensures (· = core) (g <$> q) (fun a c => a ≠ .refused ∧ Q c) I fun c => D c.files :=
    fun hg hq => Ensures.map (hq.weaken (fun _ hc => hc) (fun a _ hc => ⟨hg a, hc⟩)
      (fun _ hc => hc) fun _ hc => hc)
  have hkept : ∀ {α : Type} {q : Program Core α} {g : α → Answer}, (∀ a, g a ≠ .refused) →
      Ensures (· = core) q (fun _ => I) I (fun c => D c.files) →
      Ensures (· = core) (g <$> q) (fun a c => a ≠ .refused ∧ Q c) I fun c => D c.files :=
    fun hg hq => hchanged hg (hq.weaken (fun _ hc => hc) (fun _ c hc => h.weaken c hc)
      (fun _ hc => hc) fun _ hc => hc)
  cases operation with
  | start removal => exact Ensures.fail fun _ hc => hc ▸ hI
  | stop => exact Ensures.fail fun _ hc => hc ▸ hI
  | openWindow prune mode draws => exact hkept (fun _ => Answer.noConfusion) (h.openWindow hI hsteady mode draws now)
  | begin mode request draws => exact hkept (fun _ => Answer.noConfusion) (h.begin hI mode request draws now)
  | complete write mode request serial =>
      exact hkept (fun _ => Answer.noConfusion) (h.complete hI hsteady mode request serial now hguard)
  | activate faults mode transactionID certificate requestDigest =>
      obtain ⟨hprune, hstate, hremoval, hremoved⟩ := hsteady
      exact hchanged (fun _ => Answer.noConfusion) ((h.activate hI hprune hstate hremoval hremoved
        mode transactionID certificate requestDigest now).weaken (fun _ hc => hc)
        (fun _ _ hc => hc.1) (fun _ hc => hc) fun _ hc => hc)
  | prepareDeviceRotation faults rotationID encodedCSR requestDigest serial =>
      exact hkept (fun _ => Answer.noConfusion) (h.prepareDeviceRotation hI hsteady.1 hsteady.2 rotationID encodedCSR
        requestDigest serial now hguard)
  | deviceRotationCandidate prune rotationID requestDigest =>
      exact hkept (fun _ => Answer.noConfusion) (h.deviceRotationCandidate hI hsteady rotationID requestDigest now)
  | rotateRecoveryKey write mutation requestDigest currentSignature nextSignature =>
      exact hchanged (fun _ => Answer.noConfusion) (h.rotateRecoveryKey hI hsteady mutation requestDigest
        currentSignature nextSignature now hguard)
  | revokeActiveDevice write =>
      exact hchanged (fun _ => Answer.noConfusion) (h.revokeActiveDevice hI hsteady now hguard)

/-- A process that starts finds what the files hold. -/
theorem start {files : Files} (hR : R files) {removal : Write} (hremoval : removal.Atomic)
    (now : Int) :
    Ensures (· = files.opened) (start p removal now) (fun _ => I) (fun c => R c.files)
      fun c => D c.files := by
  have hopened : R files.opened.files := hR
  apply Ensures.bind_of (Ensures.ask_known nofun)
  intro valid hvalid
  apply Ensures.bind_of (check_ensures hopened)
  intro _ hvalid'
  rw [← Option.some.inj hvalid] at hvalid'
  apply Ensures.bind_of (Ensures.ask_known nofun)
  intro durable hdurable
  have hdurable : files.candidate = durable := Option.some.inj hdurable
  cases durable with
  | none => exact Ensures.pure fun _ hc => hc ▸ h.started files now hR hvalid' hdurable
  | some durable =>
      apply Ensures.bind_of (Ensures.ask_known (s := files.opened) fun _ => hopened)
      intro decoded hdecoded
      obtain ⟨candidate, committed⟩ := decoded
      cases committed with
      | false =>
          have hloaded := h.loaded files now durable candidate hR hvalid' hdurable hdecoded
          apply setMemory_ensures.weaken (fun _ hc => hc) ?_ (fun _ hc => hc) fun _ hc => hc
          intro _ c hc
          rw [hc]
          exact hloaded
      | true =>
          have hcleared := h.cleared files now durable candidate hR hvalid' hdurable hdecoded
          apply (removeCandidate_ensures hremoval (fun _ => hopened) (h.left _ hopened)
            (h.files hcleared)).weaken (fun _ hc => hc) ?_ (fun _ hc => hc) fun _ hc => hc
          intro _ c hc
          rw [hc]
          exact hcleared

theorem revokeCommand {files : Files} (hR : R files) {write : Write} (hwrite : write.Atomic)
    (now : Int)
    (hguard : ∀ state, Identity.revokeActiveDevice p files.authority now = some state →
      guard.revoke files) :
    Ensures (· = files.opened) (revokeCommand p write now) (fun _ c => D c.files)
      (fun c => R c.files) fun c => D c.files := by
  have hopened : R files.opened.files := hR
  apply Ensures.bind_of (Ensures.ask_known nofun)
  intro valid _
  apply Ensures.bind_of (check_ensures hopened)
  intro _ _
  apply Ensures.bind_of (Ensures.ask_known (s := files.opened) fun _ => hopened)
  intro active _
  apply Ensures.bind_of (Ensures.ask_known (s := files.opened) fun _ => hopened)
  intro state hrevoked
  have hchanged := h.commanded files now state hR (hguard state hrevoked) hrevoked
  apply Ensures.bind (m := fun _ c => c = files.opened.setAuthority state)
  · apply Ensures.bind (persist_ensures hwrite hopened (h.left _ hopened) hchanged)
    intro _
    exact setMemory_ensures
  · intro _
    apply Ensures.pure
    intro c hc
    rw [hc]
    exact hchanged

/-- What a step leaves; where its answer refuses, it changed no authority. -/
theorem step {world : World} {event : Event} (hadmitted : Admitted p guard world event)
    (hworld : world.Holds I R) :
    (next (Manager.step p) world event).Holds Q D ∧
      (answer (Manager.step p) world event = .refused →
        (next (Manager.step p) world event).Holds I R) := by
  obtain ⟨files, memory⟩ := world
  obtain ⟨now, operation⟩ := event
  obtain ⟨hsteady, hguard⟩ := hadmitted
  have hR : R files := by
    cases memory with
    | none => exact hworld
    | some memory => exact h.rest _ hworld
  have hstarts : ∀ result, Ends (fun _ => I) (fun c => R c.files) (fun c => D c.files) result →
      (starts result).1.Holds Q D ∧ ((starts result).2 = .refused → (starts result).1.Holds I R) := by
    intro result hend
    obtain ⟨ending, core⟩ := result
    cases ending with
    | returned _ => exact ⟨h.weaken _ hend, nofun⟩
    | failed => exact ⟨h.left _ hend, fun _ => hend⟩
    | died => exact ⟨hend, nofun⟩
  have hends : ∀ result, Ends (fun _ c => D c.files) (fun c => R c.files) (fun c => D c.files)
      result → (ends result).1.Holds Q D ∧ ((ends result).2 = .refused →
        (ends result).1.Holds I R) := by
    intro result hend
    obtain ⟨ending, core⟩ := result
    cases ending with
    | returned _ => exact ⟨hend, nofun⟩
    | failed => exact ⟨h.left _ hend, fun _ => hend⟩
    | died => exact ⟨hend, nofun⟩
  have hgoesOn : ∀ result, Ends (fun a c => a ≠ .refused ∧ Q c) I (fun c => D c.files) result →
      (goesOn result).1.Holds Q D ∧ ((goesOn result).2 = .refused →
        (goesOn result).1.Holds I R) := by
    intro result hend
    obtain ⟨ending, core⟩ := result
    cases ending with
    | returned _ => exact ⟨hend.2, fun heq => absurd heq hend.1⟩
    | failed => exact ⟨h.weaken _ hend, fun _ => hend⟩
    | died => exact ⟨hend, nofun⟩
  cases memory with
  | none =>
      cases operation with
      | start removal => exact hstarts _ (h.start hR hsteady now _ rfl)
      | revokeActiveDevice write => exact hends _ (h.revokeCommand hR hsteady now hguard _ rfl)
      | _ => exact ⟨h.left _ hR, nofun⟩
  | some memory =>
      cases operation with
      | start removal => exact hstarts _ (h.start hR hsteady now _ rfl)
      | stop => exact ⟨h.left _ hR, nofun⟩
      | _ => exact hgoesOn _ (h.perform hsteady hguard hworld _ rfl)

end Keeps

/-- An invariant that every change keeps holds after every admitted run. -/
theorem Keeps.run (h : Keeps p guard I I D D) {world : World} {events : List Event}
    (hworld : world.Holds I D) (hadmits : Admits (Manager.step p) (Admitted p guard) world events) :
    (Foundation.run (Manager.step p) world events).Holds I D := by
  have hstep : ∀ w e, World.Holds I D w → Admitted p guard w e →
      World.Holds I D (next (Manager.step p) w e) := fun w e hw hok => (h.step hok hw).1
  exact run_invariant_of_admits hstep hworld hadmits

/-! ## What becomes of the authority -/

section Relation

variable (h : Keeps p guard I I D D) (rel : AuthorityState → AuthorityState → Prop)
variable (hrefl : ∀ state, rel state state)
variable (hstore : ∀ core, I core → core.store = core.files.authority)
variable (hcommitted : ∀ core candidate state requestDigest now, I core →
  core.candidate = some candidate →
  activateCandidate p core.store candidate requestDigest now = some state → rel core.store state)
variable (hrotated : ∀ core mutation requestDigest currentSignature nextSignature now state,
  I core → guard.rotate core →
  Identity.rotateRecoveryKey p core.store mutation requestDigest currentSignature nextSignature now =
    some (.changed state) → rel core.store state)
variable (hrevoked : ∀ files now state, guard.revoke files →
  Identity.revokeActiveDevice p files.authority now = some state → rel files.authority state)

include h hrefl hstore hcommitted hrotated hrevoked

/-- An invariant, and the authority of one moment. -/
theorem Keeps.at (past : AuthorityState) :
    Keeps p guard (fun core => I core ∧ core.store = past)
      (fun core => I core ∧ rel past core.store)
      (fun files => D files ∧ files.authority = past)
      fun files => D files ∧ rel past files.authority where
  weaken core hI := ⟨hI.1, hI.2 ▸ hrefl past⟩
  rest core hI := ⟨h.rest core hI.1, hstore core hI.1 ▸ hI.2⟩
  left files hR := ⟨hR.1, hR.2 ▸ hrefl past⟩
  changed core hQ := ⟨h.changed core hQ.1, hstore core hQ.1 ▸ hQ.2⟩
  window core hI := ⟨h.window core hI.1, hI.2⟩
  failed core window n hI hwindow := ⟨h.failed core window n hI.1 hwindow, hI.2⟩
  opened core mode id codeDigest now hI hcandidate :=
    ⟨h.opened core mode id codeDigest now hI.1 hcandidate, hI.2⟩
  begun core window requestID draws now transaction digest hI hwindow htransaction :=
    ⟨h.begun core window requestID draws now transaction digest hI.1 hwindow htransaction, hI.2⟩
  pruned core candidate now hI hcandidate hexpired :=
    ⟨h.pruned core candidate now hI.1 hcandidate hexpired, hI.2⟩
  completed core window transaction digest request keys issued now serial hI hwindow htransaction
      hkeys hissued hfresh habsent hloaded :=
    ⟨h.completed core window transaction digest request keys issued now serial hI.1 hwindow
      htransaction hkeys hissued hfresh habsent hloaded, hI.2⟩
  prepared core active rotationID requestDigest issued publicP256 now serial hI hcandidate hactive
      hissued hfresh habsent hloaded :=
    ⟨h.prepared core active rotationID requestDigest issued publicP256 now serial hI.1 hcandidate
      hactive hissued hfresh habsent hloaded, hI.2⟩
  committed core candidate state requestDigest now hI hcandidate hactivated := by
    have hrel := hcommitted core candidate state requestDigest now hI.1 hcandidate hactivated
    obtain ⟨hQ, hD⟩ := h.committed core candidate state requestDigest now hI.1 hcandidate hactivated
    rw [hI.2] at hrel
    exact ⟨⟨hQ, hrel⟩, hD, hrel⟩
  rotated core mutation requestDigest currentSignature nextSignature now state hI hguard hchanged :=
    ⟨h.rotated core mutation requestDigest currentSignature nextSignature now state hI.1 hguard
      hchanged, hI.2 ▸ hrotated core mutation requestDigest currentSignature nextSignature now state
      hI.1 hguard hchanged⟩
  revoked core now state hI hguard hchanged := by
    have hrel := hrevoked core.files now state hguard (hstore core hI.1 ▸ hchanged)
    rw [← hstore core hI.1, hI.2] at hrel
    exact ⟨h.revoked core now state hI.1 hguard hchanged, hrel⟩
  commanded files now state hR hguard hchanged :=
    ⟨h.commanded files now state hR.1 hguard hchanged,
      hR.2 ▸ hrevoked files now state hguard hchanged⟩
  started files now hR hvalid habsent := ⟨h.started files now hR.1 hvalid habsent, hR.2⟩
  loaded files now durable candidate hR hvalid hdurable hdecoded :=
    ⟨h.loaded files now durable candidate hR.1 hvalid hdurable hdecoded, hR.2⟩
  cleared files now durable candidate hR hvalid hdurable hdecoded :=
    ⟨h.cleared files now durable candidate hR.1 hvalid hdurable hdecoded, hR.2⟩

/-- A step relates the authority before it to the one after, and changes nothing
where its answer refuses. -/
theorem Keeps.step_authority {world : World} {event : Event}
    (hadmitted : Admitted p guard world event) (hworld : world.Holds I D) :
    rel world.files.authority (next (Manager.step p) world event).files.authority ∧
      (answer (Manager.step p) world event = .refused →
        (next (Manager.step p) world event).files.authority = world.files.authority) := by
  have hat := h.at rel hrefl hstore hcommitted hrotated hrevoked world.files.authority
  have hnow : world.Holds (fun core => I core ∧ core.store = world.files.authority)
      fun files => D files ∧ files.authority = world.files.authority := by
    obtain ⟨files, memory⟩ := world
    cases memory with
    | none => exact ⟨hworld, rfl⟩
    | some memory => exact ⟨hworld, hstore _ hworld⟩
  obtain ⟨hnext, hrefused⟩ := hat.step hadmitted hnow
  constructor
  · cases hmemory : (next (Manager.step p) world event).memory with
    | none =>
        rw [World.Holds, hmemory] at hnext
        exact hnext.2
    | some memory =>
        rw [World.Holds, hmemory] at hnext
        have hsame := hstore _ hnext.1
        exact hsame ▸ hnext.2
  · intro hanswer
    have hnext := hrefused hanswer
    cases hmemory : (next (Manager.step p) world event).memory with
    | none =>
        rw [World.Holds, hmemory] at hnext
        exact hnext.2
    | some memory =>
        rw [World.Holds, hmemory] at hnext
        exact (hstore _ hnext.1).symm.trans hnext.2

end Relation

end Manager

end YourCloud.Identity
