import YourCloud.Plan.Transcripts

/-!
# The fields behind a head

Each group of operations has its own fields, and writes them in one order.  What
is written of a valid document behind its head says which document it is of, among
the documents with that head.

For every group there is what a valid document is bounded by, what it writes, and
the transcript made of the two.

## Main results

* `WebServiceDocument.tail_delimiting` and its siblings.
* `WebServiceDocument.transcript_eq` and its siblings — a valid document has a
  transcript.
-/

namespace YourCloud.Plan

open YourCloud.Foundation
open Approval (canonicalDigest)
open ServiceDefinition (byteOf uint32Of uint32Of_inj uint32Of_lt appendField_eq)
open Approval.Envelope (appendUint32)

namespace Document

def tail (document : Document) : Bytes :=
  writeField document.imageReference ++ (writeField (imageBytes document.imageDigest) ++
    bigEndian 4 (uint32Of document.localPort))

/-- What the transcript needs of a document. -/
structure Bounded (document : Document) : Prop where
  head : document.toHead.Bounded Plan.schemaVersion
  imageReference : document.imageReference.length < 256 ^ 4
  imageDigest : canonicalOCIDigest document.imageDigest = true
  localPort : 1 ≤ document.localPort ∧ document.localPort ≤ 65535

theorem bounded_of_validate {document : Document} {u : Unit}
    (h : document.validate = .ok u) : document.Bounded := by
  obtain ⟨_, htarget, h⟩ := bind_ok_iff.1 h
  obtain ⟨_, hoperation, h⟩ := bind_ok_iff.1 h
  obtain ⟨_, hreference, h⟩ := bind_ok_iff.1 h
  obtain ⟨_, hdigest, h⟩ := bind_ok_iff.1 h
  obtain ⟨_, -, hport⟩ := bind_ok_iff.1 h
  have hoperations : ShortNames inverseOperation := by
    unfold ShortNames
    decide
  refine ⟨validateTarget_bounded htarget (hoperations.lookup (found_eq_ok.1 hoperation)), ?_,
    demand_eq_ok.1 hdigest, validatePort_ok hport⟩
  rw [of_decide_eq_true (demand_eq_ok.1 hreference)]
  decide

theorem tail_delimiting : TailDelimiting toHead validate tail := by
  intro head
  apply (SelfDelimiting.field.pair (SelfDelimiting.field.pair (SelfDelimiting.word 4))).of_view
    fun document =>
      (document.imageReference, imageBytes document.imageDigest, uint32Of document.localPort)
  · rintro document ⟨-, h⟩
    have hbounded := bounded_of_validate h
    exact ⟨hbounded.imageReference, imageBytes_length hbounded.imageDigest, uint32Of_lt _⟩
  · exact fun _ => rfl
  · rintro ⟨⟩ ⟨⟩ ⟨rfl, h⟩ ⟨hhead, h'⟩ hview
    have hbounded := bounded_of_validate h
    have hbounded' := bounded_of_validate h'
    simp only [Prod.mk.injEq] at hview hhead
    obtain ⟨rfl, himage, hport⟩ := hview
    have hdigest := imageBytes_inj hbounded.imageDigest hbounded'.imageDigest himage
    have hports := uint32Of_inj hbounded.localPort hbounded'.localPort hport
    simp only at hdigest hports
    rw [hhead, hdigest, hports]

theorem transcript_eq {document : Document} (h : document.validate = .ok ()) :
    document.transcript = .ok (transcriptDomain ++
      byteOf document.schemaVersion :: (document.toHead.write ++ document.tail)) := by
  obtain ⟨image, himage, -, -⟩ := image_decoded (bounded_of_validate h).imageDigest
  unfold transcript
  rw [h, himage]
  show Except.ok _ = _
  simp [appendField_eq, appendHead_eq, appendUint32, tail, imageBytes, himage, spelled,
    Except.toOption]

end Document

namespace WebServiceDocument

def tail (document : WebServiceDocument) : Bytes :=
  writeField document.serviceProfile ++ (writeField document.imageReference ++
    (writeField (imageBytes document.imageDigest) ++ bigEndian 4 (uint32Of document.localPort)))

/-- What the transcript needs of a document. -/
structure Bounded (document : WebServiceDocument) : Prop where
  head : document.toHead.Bounded schemaVersionV2
  group : operationGroups.lookup document.operation = some .webService
  serviceProfile : document.serviceProfile.length < 256 ^ 4
  imageReference : document.imageReference.length < 256 ^ 4
  imageDigest : canonicalOCIDigest document.imageDigest = true
  localPort : 1 ≤ document.localPort ∧ document.localPort ≤ 65535

theorem bounded_of_validate {document : WebServiceDocument} {u : Unit}
    (h : document.validate = .ok u) : document.Bounded := by
  obtain ⟨_, hhead, h⟩ := bind_ok_iff.1 h
  obtain ⟨image, hprofile, h⟩ := bind_ok_iff.1 h
  obtain ⟨_, hpinned, hport⟩ := bind_ok_iff.1 h
  obtain ⟨hbounded, hgroup⟩ := validateV2Head_ok hhead
  have hprofiles : ShortNames profileImage := by
    unfold ShortNames
    decide
  have himages : ∀ entry ∈ profileImage, entry.2.reference.length < 256 ^ 4 := by decide
  have hlookup := found_eq_ok.1 hprofile
  obtain ⟨hreference, hdigest⟩ := validatePinnedImage_ok hpinned
  refine ⟨hbounded, hgroup, hprofiles.lookup hlookup, ?_, hdigest, validatePort_ok hport⟩
  rw [hreference]
  exact himages _ (Json.mem_of_lookup hlookup)

theorem tail_delimiting : TailDelimiting toHead validate tail := by
  intro head
  apply (SelfDelimiting.field.pair (SelfDelimiting.field.pair (SelfDelimiting.field.pair
    (SelfDelimiting.word 4)))).of_view fun document =>
      (document.serviceProfile, document.imageReference, imageBytes document.imageDigest,
        uint32Of document.localPort)
  · rintro document ⟨-, h⟩
    have hbounded := bounded_of_validate h
    exact ⟨hbounded.serviceProfile, hbounded.imageReference, imageBytes_length hbounded.imageDigest,
      uint32Of_lt _⟩
  · exact fun _ => rfl
  · rintro ⟨⟩ ⟨⟩ ⟨rfl, h⟩ ⟨hhead, h'⟩ hview
    have hbounded := bounded_of_validate h
    have hbounded' := bounded_of_validate h'
    simp only [Prod.mk.injEq] at hview hhead
    obtain ⟨rfl, rfl, himage, hport⟩ := hview
    have hdigest := imageBytes_inj hbounded.imageDigest hbounded'.imageDigest himage
    have hports := uint32Of_inj hbounded.localPort hbounded'.localPort hport
    simp only at hdigest hports
    rw [hhead, hdigest, hports]

theorem transcript_eq {document : WebServiceDocument} (h : document.validate = .ok ()) :
    document.transcript = .ok (transcriptDomainV2 ++
      byteOf document.schemaVersion :: (document.toHead.write ++ document.tail)) := by
  obtain ⟨image, himage, -, -⟩ := image_decoded (bounded_of_validate h).imageDigest
  unfold transcript
  rw [h, himage]
  show Except.ok _ = _
  simp [appendField_eq, appendHead_eq, appendUint32, tail, imageBytes, himage, spelled,
    Except.toOption]

end WebServiceDocument

namespace EntrypointDocument

def tail (document : EntrypointDocument) : Bytes :=
  writeField document.imageReference ++ (writeField (imageBytes document.imageDigest))

/-- What the transcript needs of a document. -/
structure Bounded (document : EntrypointDocument) : Prop where
  head : document.toHead.Bounded schemaVersionV2
  group : operationGroups.lookup document.operation = some .entrypoint
  imageReference : document.imageReference.length < 256 ^ 4
  imageDigest : canonicalOCIDigest document.imageDigest = true

theorem bounded_of_validate {document : EntrypointDocument} {u : Unit}
    (h : document.validate = .ok u) : document.Bounded := by
  obtain ⟨_, hhead, hpinned⟩ := bind_ok_iff.1 h
  obtain ⟨hbounded, hgroup⟩ := validateV2Head_ok hhead
  obtain ⟨hreference, hdigest⟩ := validatePinnedImage_ok hpinned
  refine ⟨hbounded, hgroup, ?_, hdigest⟩
  rw [hreference]
  decide

theorem tail_delimiting : TailDelimiting toHead validate tail := by
  intro head
  apply (SelfDelimiting.field.pair SelfDelimiting.field).of_view fun document =>
      (document.imageReference, imageBytes document.imageDigest)
  · rintro document ⟨-, h⟩
    have hbounded := bounded_of_validate h
    exact ⟨hbounded.imageReference, imageBytes_length hbounded.imageDigest⟩
  · exact fun _ => rfl
  · rintro ⟨⟩ ⟨⟩ ⟨rfl, h⟩ ⟨hhead, h'⟩ hview
    have hbounded := bounded_of_validate h
    have hbounded' := bounded_of_validate h'
    simp only [Prod.mk.injEq] at hview hhead
    obtain ⟨rfl, himage⟩ := hview
    have hdigest := imageBytes_inj hbounded.imageDigest hbounded'.imageDigest himage
    simp only at hdigest
    rw [hhead, hdigest]

theorem transcript_eq {document : EntrypointDocument} (h : document.validate = .ok ()) :
    document.transcript = .ok (transcriptDomainV2 ++
      byteOf document.schemaVersion :: (document.toHead.write ++ document.tail)) := by
  obtain ⟨image, himage, -, -⟩ := image_decoded (bounded_of_validate h).imageDigest
  unfold transcript
  rw [h, himage]
  show Except.ok _ = _
  simp [appendField_eq, appendHead_eq, tail, imageBytes, himage, spelled, Except.toOption]

end EntrypointDocument

namespace RouteDocument

def tail (document : RouteDocument) : Bytes :=
  writeField document.routeHost ++ (bigEndian 4 (uint32Of document.backendPort))

/-- What the transcript needs of a document. -/
structure Bounded (document : RouteDocument) : Prop where
  head : document.toHead.Bounded schemaVersionV2
  group : operationGroups.lookup document.operation = some .route
  routeHost : document.routeHost.length < 256 ^ 4
  backendPort : 1 ≤ document.backendPort ∧ document.backendPort ≤ 65535

theorem bounded_of_validate {document : RouteDocument} {u : Unit}
    (h : document.validate = .ok u) : document.Bounded := by
  obtain ⟨_, hhead, h⟩ := bind_ok_iff.1 h
  obtain ⟨_, hhost, hport⟩ := bind_ok_iff.1 h
  obtain ⟨hbounded, hgroup⟩ := validateV2Head_ok hhead
  exact ⟨hbounded, hgroup, validateHostBound_length hhost, validatePort_ok hport⟩

theorem tail_delimiting : TailDelimiting toHead validate tail := by
  intro head
  apply (SelfDelimiting.field.pair (SelfDelimiting.word 4)).of_view fun document =>
      (document.routeHost, uint32Of document.backendPort)
  · rintro document ⟨-, h⟩
    have hbounded := bounded_of_validate h
    exact ⟨hbounded.routeHost, uint32Of_lt _⟩
  · exact fun _ => rfl
  · rintro ⟨⟩ ⟨⟩ ⟨rfl, h⟩ ⟨hhead, h'⟩ hview
    have hbounded := bounded_of_validate h
    have hbounded' := bounded_of_validate h'
    simp only [Prod.mk.injEq] at hview hhead
    obtain ⟨rfl, hport⟩ := hview
    have hports := uint32Of_inj hbounded.backendPort hbounded'.backendPort hport
    simp only at hports
    rw [hhead, hports]

theorem transcript_eq {document : RouteDocument} (h : document.validate = .ok ()) :
    document.transcript = .ok (transcriptDomainV2 ++
      byteOf document.schemaVersion :: (document.toHead.write ++ document.tail)) := by
  unfold transcript
  rw [h]
  show Except.ok _ = _
  simp [appendField_eq, appendHead_eq, appendUint32, tail]

end RouteDocument

namespace PrivateServiceDocument

def tail (document : PrivateServiceDocument) : Bytes :=
  writeField document.serviceProfile ++ (writeField document.imageReference ++ (writeField
    (imageBytes document.imageDigest) ++ (bigEndian 4 (uint32Of document.localPort) ++ (writeField
    document.originHost))))

/-- What the transcript needs of a document. -/
structure Bounded (document : PrivateServiceDocument) : Prop where
  head : document.toHead.Bounded schemaVersionV2
  group : operationGroups.lookup document.operation = some .privateService
  serviceProfile : document.serviceProfile.length < 256 ^ 4
  imageReference : document.imageReference.length < 256 ^ 4
  imageDigest : canonicalOCIDigest document.imageDigest = true
  localPort : 1 ≤ document.localPort ∧ document.localPort ≤ 65535
  originHost : document.originHost.length < 256 ^ 4

theorem bounded_of_validate {document : PrivateServiceDocument} {u : Unit}
    (h : document.validate = .ok u) : document.Bounded := by
  obtain ⟨_, hhead, h⟩ := bind_ok_iff.1 h
  obtain ⟨image, hprofile, h⟩ := bind_ok_iff.1 h
  obtain ⟨_, hpinned, h⟩ := bind_ok_iff.1 h
  obtain ⟨_, hport, hhost⟩ := bind_ok_iff.1 h
  obtain ⟨hbounded, hgroup⟩ := validateV2Head_ok hhead
  have hprofiles : ShortNames privateProfileImage := by
    unfold ShortNames
    decide
  have himages : ∀ entry ∈ privateProfileImage, entry.2.reference.length < 256 ^ 4 := by
    decide
  have hlookup := found_eq_ok.1 hprofile
  obtain ⟨hreference, hdigest⟩ := validatePinnedImage_ok hpinned
  refine ⟨hbounded, hgroup, hprofiles.lookup hlookup, ?_, hdigest, validatePort_ok hport,
    validateHostBound_length hhost⟩
  rw [hreference]
  exact himages _ (Json.mem_of_lookup hlookup)

theorem tail_delimiting : TailDelimiting toHead validate tail := by
  intro head
  apply (SelfDelimiting.field.pair (SelfDelimiting.field.pair (SelfDelimiting.field.pair
    ((SelfDelimiting.word 4).pair SelfDelimiting.field)))).of_view fun document =>
      (document.serviceProfile, document.imageReference, imageBytes document.imageDigest, uint32Of
        document.localPort, document.originHost)
  · rintro document ⟨-, h⟩
    have hbounded := bounded_of_validate h
    exact ⟨hbounded.serviceProfile, hbounded.imageReference, imageBytes_length
      hbounded.imageDigest, uint32Of_lt _, hbounded.originHost⟩
  · exact fun _ => rfl
  · rintro ⟨⟩ ⟨⟩ ⟨rfl, h⟩ ⟨hhead, h'⟩ hview
    have hbounded := bounded_of_validate h
    have hbounded' := bounded_of_validate h'
    simp only [Prod.mk.injEq] at hview hhead
    obtain ⟨rfl, rfl, himage, hport, rfl⟩ := hview
    have hdigest := imageBytes_inj hbounded.imageDigest hbounded'.imageDigest himage
    have hports := uint32Of_inj hbounded.localPort hbounded'.localPort hport
    simp only at hdigest hports
    rw [hhead, hdigest, hports]

theorem transcript_eq {document : PrivateServiceDocument} (h : document.validate = .ok ()) :
    document.transcript = .ok (transcriptDomainV2 ++
      byteOf document.schemaVersion :: (document.toHead.write ++ document.tail)) := by
  obtain ⟨image, himage, -, -⟩ := image_decoded (bounded_of_validate h).imageDigest
  unfold transcript
  rw [h, himage]
  show Except.ok _ = _
  simp [appendField_eq, appendHead_eq, appendUint32, tail, imageBytes, himage, spelled,
    Except.toOption]

end PrivateServiceDocument

namespace LinkRouteDocument

def tail (document : LinkRouteDocument) : Bytes :=
  writeField document.routeHost ++ (bigEndian 4 (uint32Of document.backendPort))

/-- What the transcript needs of a document. -/
structure Bounded (document : LinkRouteDocument) : Prop where
  head : document.toHead.Bounded schemaVersionV2
  group : operationGroups.lookup document.operation = some .linkRoute
  routeHost : document.routeHost.length < 256 ^ 4
  backendPort : 1 ≤ document.backendPort ∧ document.backendPort ≤ 65535

theorem bounded_of_validate {document : LinkRouteDocument} {u : Unit}
    (h : document.validate = .ok u) : document.Bounded := by
  obtain ⟨_, hhead, h⟩ := bind_ok_iff.1 h
  obtain ⟨_, hhost, hport⟩ := bind_ok_iff.1 h
  obtain ⟨hbounded, hgroup⟩ := validateV2Head_ok hhead
  exact ⟨hbounded, hgroup, validateHostBound_length hhost, validatePort_ok hport⟩

theorem tail_delimiting : TailDelimiting toHead validate tail := by
  intro head
  apply (SelfDelimiting.field.pair (SelfDelimiting.word 4)).of_view fun document =>
      (document.routeHost, uint32Of document.backendPort)
  · rintro document ⟨-, h⟩
    have hbounded := bounded_of_validate h
    exact ⟨hbounded.routeHost, uint32Of_lt _⟩
  · exact fun _ => rfl
  · rintro ⟨⟩ ⟨⟩ ⟨rfl, h⟩ ⟨hhead, h'⟩ hview
    have hbounded := bounded_of_validate h
    have hbounded' := bounded_of_validate h'
    simp only [Prod.mk.injEq] at hview hhead
    obtain ⟨rfl, hport⟩ := hview
    have hports := uint32Of_inj hbounded.backendPort hbounded'.backendPort hport
    simp only at hports
    rw [hhead, hports]

theorem transcript_eq {document : LinkRouteDocument} (h : document.validate = .ok ()) :
    document.transcript = .ok (transcriptDomainV2 ++
      byteOf document.schemaVersion :: (document.toHead.write ++ document.tail)) := by
  unfold transcript
  rw [h]
  show Except.ok _ = _
  simp [appendField_eq, appendHead_eq, appendUint32, tail]

end LinkRouteDocument

namespace SnapshotDocument

def tail (document : SnapshotDocument) : Bytes :=
  writeField document.serviceProfile ++ (writeField document.snapshotSlot)

/-- What the transcript needs of a document. -/
structure Bounded (document : SnapshotDocument) : Prop where
  head : document.toHead.Bounded schemaVersionV2
  group : operationGroups.lookup document.operation = some .snapshot
  serviceProfile : document.serviceProfile.length < 256 ^ 4
  snapshotSlot : document.snapshotSlot.length < 256 ^ 4

theorem bounded_of_validate {document : SnapshotDocument} {u : Unit}
    (h : document.validate = .ok u) : document.Bounded := by
  obtain ⟨_, hhead, h⟩ := bind_ok_iff.1 h
  obtain ⟨_, hprofile, h⟩ := bind_ok_iff.1 h
  obtain ⟨_, hslot, -⟩ := bind_ok_iff.1 h
  obtain ⟨hbounded, hgroup⟩ := validateV2Head_ok hhead
  exact ⟨hbounded, hgroup, validateArchivedProfile_length hprofile, validateSnapshotSlot_length hslot⟩

theorem tail_delimiting : TailDelimiting toHead validate tail := by
  intro head
  apply (SelfDelimiting.field.pair SelfDelimiting.field).of_view fun document =>
      (document.serviceProfile, document.snapshotSlot)
  · rintro document ⟨-, h⟩
    have hbounded := bounded_of_validate h
    exact ⟨hbounded.serviceProfile, hbounded.snapshotSlot⟩
  · exact fun _ => rfl
  · rintro ⟨⟩ ⟨⟩ ⟨rfl, h⟩ ⟨hhead, h'⟩ hview
    simp only [Prod.mk.injEq] at hview hhead
    obtain ⟨rfl, rfl⟩ := hview
    rw [hhead]

theorem transcript_eq {document : SnapshotDocument} (h : document.validate = .ok ()) :
    document.transcript = .ok (transcriptDomainV2 ++
      byteOf document.schemaVersion :: (document.toHead.write ++ document.tail)) := by
  unfold transcript
  rw [h]
  show Except.ok _ = _
  simp [appendField_eq, appendHead_eq, tail]

end SnapshotDocument

namespace RestoreDocument

def tail (document : RestoreDocument) : Bytes :=
  writeField document.serviceProfile ++ (writeField document.snapshotSlot)

/-- What the transcript needs of a document. -/
structure Bounded (document : RestoreDocument) : Prop where
  head : document.toHead.Bounded schemaVersionV2
  group : operationGroups.lookup document.operation = some .restore
  serviceProfile : document.serviceProfile.length < 256 ^ 4
  snapshotSlot : document.snapshotSlot.length < 256 ^ 4

theorem bounded_of_validate {document : RestoreDocument} {u : Unit}
    (h : document.validate = .ok u) : document.Bounded := by
  obtain ⟨_, hhead, h⟩ := bind_ok_iff.1 h
  obtain ⟨_, hprofile, hslot⟩ := bind_ok_iff.1 h
  obtain ⟨hbounded, hgroup⟩ := validateV2Head_ok hhead
  exact ⟨hbounded, hgroup, validateArchivedProfile_length hprofile, validateSnapshotSlot_length hslot⟩

theorem tail_delimiting : TailDelimiting toHead validate tail := by
  intro head
  apply (SelfDelimiting.field.pair SelfDelimiting.field).of_view fun document =>
      (document.serviceProfile, document.snapshotSlot)
  · rintro document ⟨-, h⟩
    have hbounded := bounded_of_validate h
    exact ⟨hbounded.serviceProfile, hbounded.snapshotSlot⟩
  · exact fun _ => rfl
  · rintro ⟨⟩ ⟨⟩ ⟨rfl, h⟩ ⟨hhead, h'⟩ hview
    simp only [Prod.mk.injEq] at hview hhead
    obtain ⟨rfl, rfl⟩ := hview
    rw [hhead]

theorem transcript_eq {document : RestoreDocument} (h : document.validate = .ok ()) :
    document.transcript = .ok (transcriptDomainV2 ++
      byteOf document.schemaVersion :: (document.toHead.write ++ document.tail)) := by
  unfold transcript
  rw [h]
  show Except.ok _ = _
  simp [appendField_eq, appendHead_eq, tail]

end RestoreDocument

namespace UserServiceDocument

def tail (document : UserServiceDocument) : Bytes :=
  writeField document.definitionSlug ++ (writeField (definitionBytes document.definitionDigest) ++
    (writeField document.imageReference ++ (writeField (imageBytes document.imageDigest) ++
    (bigEndian 4 (uint32Of document.localPort) ++ (writeField document.originHost)))))

/-- What the transcript needs of a document. -/
structure Bounded (document : UserServiceDocument) : Prop where
  head : document.toHead.Bounded schemaVersionV2
  group : operationGroups.lookup document.operation = some .userService
  definitionSlug : document.definitionSlug.length < 256 ^ 4
  definitionDigest : canonicalDigest document.definitionDigest = true
  imageReference : document.imageReference.length < 256 ^ 4
  imageDigest : canonicalOCIDigest document.imageDigest = true
  localPort : 1 ≤ document.localPort ∧ document.localPort ≤ 65535
  originHost : document.originHost.length < 256 ^ 4

theorem bounded_of_validate {document : UserServiceDocument} {u : Unit}
    (h : document.validate = .ok u) : document.Bounded := by
  obtain ⟨_, hhead, h⟩ := bind_ok_iff.1 h
  obtain ⟨_, hslug, h⟩ := bind_ok_iff.1 h
  obtain ⟨_, hdefinition, h⟩ := bind_ok_iff.1 h
  obtain ⟨_, hreference, h⟩ := bind_ok_iff.1 h
  obtain ⟨_, hdigest, h⟩ := bind_ok_iff.1 h
  obtain ⟨_, hport, h⟩ := bind_ok_iff.1 h
  obtain ⟨hbounded, hgroup⟩ := validateV2Head_ok hhead
  have hslug := ServiceDefinition.validateSlug_length (mapError_ok hslug)
  have hreference := ServiceDefinition.validateImageRepository_length (mapError_ok hreference)
  refine ⟨hbounded, hgroup, by omega, demand_eq_ok.1 hdefinition, by omega, demand_eq_ok.1 hdigest,
    validatePort_ok hport, ?_⟩
  by_cases hnone : document.originHost = []
  · rw [hnone]
    decide
  · rw [if_neg hnone] at h
    exact validateHostBound_length h

theorem tail_delimiting : TailDelimiting toHead validate tail := by
  intro head
  apply (SelfDelimiting.field.pair (SelfDelimiting.field.pair (SelfDelimiting.field.pair
    (SelfDelimiting.field.pair ((SelfDelimiting.word 4).pair SelfDelimiting.field))))).of_view fun
    document =>
      (document.definitionSlug, definitionBytes document.definitionDigest,
        document.imageReference, imageBytes document.imageDigest, uint32Of document.localPort,
        document.originHost)
  · rintro document ⟨-, h⟩
    have hbounded := bounded_of_validate h
    exact ⟨hbounded.definitionSlug, definitionBytes_length hbounded.definitionDigest,
      hbounded.imageReference, imageBytes_length hbounded.imageDigest, uint32Of_lt _,
      hbounded.originHost⟩
  · exact fun _ => rfl
  · rintro ⟨⟩ ⟨⟩ ⟨rfl, h⟩ ⟨hhead, h'⟩ hview
    have hbounded := bounded_of_validate h
    have hbounded' := bounded_of_validate h'
    simp only [Prod.mk.injEq] at hview hhead
    obtain ⟨rfl, hdefinition, rfl, himage, hport, rfl⟩ := hview
    have hpin := definitionBytes_inj hbounded.definitionDigest hbounded'.definitionDigest hdefinition
    have hdigest := imageBytes_inj hbounded.imageDigest hbounded'.imageDigest himage
    have hports := uint32Of_inj hbounded.localPort hbounded'.localPort hport
    simp only at hpin hdigest hports
    rw [hhead, hpin, hdigest, hports]

theorem transcript_eq {document : UserServiceDocument} (h : document.validate = .ok ()) :
    document.transcript = .ok (transcriptDomainV2 ++
      byteOf document.schemaVersion :: (document.toHead.write ++ document.tail)) := by
  obtain ⟨definition, hdefinition, -, -⟩ := definition_decoded (bounded_of_validate h).definitionDigest
  obtain ⟨image, himage, -, -⟩ := image_decoded (bounded_of_validate h).imageDigest
  unfold transcript
  rw [h, hdefinition, himage]
  show Except.ok _ = _
  simp [appendField_eq, appendHead_eq, appendUint32, tail, definitionBytes, hdefinition,
    imageBytes, himage, spelled, Except.toOption]

end UserServiceDocument

namespace LinkDocument

def tail (document : LinkDocument) : Bytes :=
  writeField document.linkRole

/-- What the transcript needs of a document. -/
structure Bounded (document : LinkDocument) : Prop where
  head : document.toHead.Bounded schemaVersionV3
  group : linkOperationGroups.lookup document.operation = some .link
  linkRole : document.linkRole.length < 256 ^ 4

theorem bounded_of_validate {document : LinkDocument} {u : Unit}
    (h : document.validate = .ok u) : document.Bounded := by
  obtain ⟨_, hhead, hrole⟩ := bind_ok_iff.1 h
  obtain ⟨hbounded, hgroup⟩ := validateV3Head_ok hhead
  have hroles : ∀ role ∈ linkRoles, role.length < 256 ^ 4 := by decide
  exact ⟨hbounded, hgroup, hroles _ (of_decide_eq_true (demand_eq_ok.1 hrole))⟩

theorem tail_delimiting : TailDelimiting toHead validate tail := by
  intro head
  apply SelfDelimiting.field.of_view fun document =>
      document.linkRole
  · rintro document ⟨-, h⟩
    have hbounded := bounded_of_validate h
    exact hbounded.linkRole
  · exact fun _ => rfl
  · rintro ⟨⟩ ⟨⟩ ⟨rfl, h⟩ ⟨hhead, h'⟩ hview
    simp only at hview hhead
    rw [hhead, hview]

theorem transcript_eq {document : LinkDocument} (h : document.validate = .ok ()) :
    document.transcript = .ok (transcriptDomainV3 ++
      byteOf document.schemaVersion :: (document.toHead.write ++ document.tail)) := by
  unfold transcript
  rw [h]
  show Except.ok _ = _
  simp [appendField_eq, appendHead_eq, tail]

end LinkDocument

namespace ListenerPeerDocument

def tail (document : ListenerPeerDocument) : Bytes :=
  writeField (keyBytes document.peerPublicKey) ++ (bigEndian 4 (uint32Of document.servicePort))

/-- What the transcript needs of a document. -/
structure Bounded (document : ListenerPeerDocument) : Prop where
  head : document.toHead.Bounded schemaVersionV3
  group : linkOperationGroups.lookup document.operation = some .listenerPeer
  peerPublicKey : ∃ key, decodePeerPublicKey document.peerPublicKey = .ok key
  servicePort : 1 ≤ document.servicePort ∧ document.servicePort ≤ 65535

theorem bounded_of_validate {document : ListenerPeerDocument} {u : Unit}
    (h : document.validate = .ok u) : document.Bounded := by
  obtain ⟨_, hhead, h⟩ := bind_ok_iff.1 h
  obtain ⟨key, hkey, hport⟩ := bind_ok_iff.1 h
  obtain ⟨hbounded, hgroup⟩ := validateV3Head_ok hhead
  exact ⟨hbounded, hgroup, ⟨key, hkey⟩, validatePort_ok hport⟩

theorem tail_delimiting : TailDelimiting toHead validate tail := by
  intro head
  apply (SelfDelimiting.field.pair (SelfDelimiting.word 4)).of_view fun document =>
      (keyBytes document.peerPublicKey, uint32Of document.servicePort)
  · rintro document ⟨-, h⟩
    have hbounded := bounded_of_validate h
    exact ⟨keyBytes_length hbounded.peerPublicKey, uint32Of_lt _⟩
  · exact fun _ => rfl
  · rintro ⟨⟩ ⟨⟩ ⟨rfl, h⟩ ⟨hhead, h'⟩ hview
    have hbounded := bounded_of_validate h
    have hbounded' := bounded_of_validate h'
    simp only [Prod.mk.injEq] at hview hhead
    obtain ⟨hkey, hport⟩ := hview
    have hkeys := keyBytes_inj hbounded.peerPublicKey hbounded'.peerPublicKey hkey
    have hports := uint32Of_inj hbounded.servicePort hbounded'.servicePort hport
    simp only at hkeys hports
    rw [hhead, hkeys, hports]

theorem transcript_eq {document : ListenerPeerDocument} (h : document.validate = .ok ()) :
    document.transcript = .ok (transcriptDomainV3 ++
      byteOf document.schemaVersion :: (document.toHead.write ++ document.tail)) := by
  obtain ⟨key, hkey⟩ := (bounded_of_validate h).peerPublicKey
  unfold transcript
  rw [h, hkey]
  show Except.ok _ = _
  simp [appendField_eq, appendHead_eq, appendUint32, tail, keyBytes, hkey, spelled,
    Except.toOption]

end ListenerPeerDocument

namespace InitiatorPeerDocument

def tail (document : InitiatorPeerDocument) : Bytes :=
  writeField (keyBytes document.peerPublicKey) ++ (writeField document.peerEndpointHost ++
    (bigEndian 4 (uint32Of document.servicePort)))

/-- What the transcript needs of a document. -/
structure Bounded (document : InitiatorPeerDocument) : Prop where
  head : document.toHead.Bounded schemaVersionV3
  group : linkOperationGroups.lookup document.operation = some .initiatorPeer
  peerPublicKey : ∃ key, decodePeerPublicKey document.peerPublicKey = .ok key
  peerEndpointHost : document.peerEndpointHost.length < 256 ^ 4
  servicePort : 1 ≤ document.servicePort ∧ document.servicePort ≤ 65535

theorem bounded_of_validate {document : InitiatorPeerDocument} {u : Unit}
    (h : document.validate = .ok u) : document.Bounded := by
  obtain ⟨_, hhead, h⟩ := bind_ok_iff.1 h
  obtain ⟨key, hkey, h⟩ := bind_ok_iff.1 h
  obtain ⟨_, hhost, hport⟩ := bind_ok_iff.1 h
  obtain ⟨hbounded, hgroup⟩ := validateV3Head_ok hhead
  exact ⟨hbounded, hgroup, ⟨key, hkey⟩, validateHostBound_length hhost, validatePort_ok hport⟩

theorem tail_delimiting : TailDelimiting toHead validate tail := by
  intro head
  apply (SelfDelimiting.field.pair (SelfDelimiting.field.pair (SelfDelimiting.word 4))).of_view
    fun document =>
      (keyBytes document.peerPublicKey, document.peerEndpointHost, uint32Of document.servicePort)
  · rintro document ⟨-, h⟩
    have hbounded := bounded_of_validate h
    exact ⟨keyBytes_length hbounded.peerPublicKey, hbounded.peerEndpointHost, uint32Of_lt _⟩
  · exact fun _ => rfl
  · rintro ⟨⟩ ⟨⟩ ⟨rfl, h⟩ ⟨hhead, h'⟩ hview
    have hbounded := bounded_of_validate h
    have hbounded' := bounded_of_validate h'
    simp only [Prod.mk.injEq] at hview hhead
    obtain ⟨hkey, rfl, hport⟩ := hview
    have hkeys := keyBytes_inj hbounded.peerPublicKey hbounded'.peerPublicKey hkey
    have hports := uint32Of_inj hbounded.servicePort hbounded'.servicePort hport
    simp only at hkeys hports
    rw [hhead, hkeys, hports]

theorem transcript_eq {document : InitiatorPeerDocument} (h : document.validate = .ok ()) :
    document.transcript = .ok (transcriptDomainV3 ++
      byteOf document.schemaVersion :: (document.toHead.write ++ document.tail)) := by
  obtain ⟨key, hkey⟩ := (bounded_of_validate h).peerPublicKey
  unfold transcript
  rw [h, hkey]
  show Except.ok _ = _
  simp [appendField_eq, appendHead_eq, appendUint32, tail, keyBytes, hkey, spelled,
    Except.toOption]

end InitiatorPeerDocument

end YourCloud.Plan
