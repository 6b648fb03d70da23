import YourCloud.Plan.Fields

/-!
# One transcript, one document

Digests are taken and signatures made over transcripts of five kinds: the approval
envelope, the three schemas of plans and the service definition.  Each kind has a
domain of its own and a version, and what follows them can be read back; so two
valid documents of whatever kinds have one transcript only where they are one
document.

A list that is left out of a document and one that is empty are one list here.

## Main results

* `V2Document.body_delimiting`, `V3Document.body_delimiting`,
  `Envelope.body_delimiting` — what follows the domain and the version says which
  document it is of.
* `one_document` — the statement across all kinds.
-/

namespace YourCloud.Plan

open YourCloud.Foundation
open Approval (Envelope Privilege canonicalDigest canonicalUUIDv4_length canonicalMachine_length)
open Approval.Envelope (appendField appendUint32 appendUint64)
open ServiceDefinition (byteOf appendField_eq appendList appendList_eq)

/-! ## Whole documents -/

/-- Behind a head that decides what follows it, a document is self-delimiting. -/
theorem TailDelimiting.body {δ : Type} {head : δ → Head} {validate : δ → Except Sentence Unit}
    {tail : δ → Bytes} {version : Int} (h : TailDelimiting head validate tail)
    (hhead : ∀ document, validate document = .ok () → (head document).Bounded version) :
    SelfDelimiting (fun document => validate document = .ok ())
      (fun document => (head document).write ++ tail document) := by
  intro x y s t hx hy hwritten
  rw [List.append_assoc, List.append_assoc] at hwritten
  obtain ⟨hsame, hrest⟩ := Head.write_delimiting version (hhead x hx) (hhead y hy) hwritten
  exact h (head x) ⟨rfl, hx⟩ ⟨hsame.symm, hy⟩ hrest

namespace V2Document

def group : V2Document → OperationGroup
  | webService _ => .webService
  | entrypoint _ => .entrypoint
  | route _ => .route
  | privateService _ => .privateService
  | linkRoute _ => .linkRoute
  | snapshot _ => .snapshot
  | restore _ => .restore
  | userService _ => .userService

def tail : V2Document → Bytes
  | webService document => document.tail
  | entrypoint document => document.tail
  | route document => document.tail
  | privateService document => document.tail
  | linkRoute document => document.tail
  | snapshot document => document.tail
  | restore document => document.tail
  | userService document => document.tail

/-- The operation of a valid document is one of its group. -/
theorem head_of_validate {document : V2Document} (h : document.validate = .ok ()) :
    document.head.Bounded schemaVersionV2 ∧
      operationGroups.lookup document.head.operation = some document.group := by
  cases document with
  | webService document =>
      exact ⟨(WebServiceDocument.bounded_of_validate h).head,
        (WebServiceDocument.bounded_of_validate h).group⟩
  | entrypoint document =>
      exact ⟨(EntrypointDocument.bounded_of_validate h).head,
        (EntrypointDocument.bounded_of_validate h).group⟩
  | route document =>
      exact ⟨(RouteDocument.bounded_of_validate h).head, (RouteDocument.bounded_of_validate h).group⟩
  | privateService document =>
      exact ⟨(PrivateServiceDocument.bounded_of_validate h).head,
        (PrivateServiceDocument.bounded_of_validate h).group⟩
  | linkRoute document =>
      exact ⟨(LinkRouteDocument.bounded_of_validate h).head,
        (LinkRouteDocument.bounded_of_validate h).group⟩
  | snapshot document =>
      exact ⟨(SnapshotDocument.bounded_of_validate h).head,
        (SnapshotDocument.bounded_of_validate h).group⟩
  | restore document =>
      exact ⟨(RestoreDocument.bounded_of_validate h).head,
        (RestoreDocument.bounded_of_validate h).group⟩
  | userService document =>
      exact ⟨(UserServiceDocument.bounded_of_validate h).head,
        (UserServiceDocument.bounded_of_validate h).group⟩

/-- Documents of one head are of one group, and a group has one way of writing its fields. -/
theorem tail_delimiting : TailDelimiting head validate tail := by
  rintro h x y s t ⟨rfl, hx⟩ ⟨hhead, hy⟩ hwritten
  have hgroup : x.group = y.group := by
    have hlookup := (head_of_validate hy).2
    rw [hhead, (head_of_validate hx).2] at hlookup
    exact Option.some.inj hlookup
  cases x <;> cases y <;> first | cases hgroup; done | skip
  case webService.webService x y =>
    obtain ⟨rfl, hrest⟩ := WebServiceDocument.tail_delimiting _ ⟨rfl, hx⟩ ⟨hhead, hy⟩ hwritten
    exact ⟨rfl, hrest⟩
  case entrypoint.entrypoint x y =>
    obtain ⟨rfl, hrest⟩ := EntrypointDocument.tail_delimiting _ ⟨rfl, hx⟩ ⟨hhead, hy⟩ hwritten
    exact ⟨rfl, hrest⟩
  case route.route x y =>
    obtain ⟨rfl, hrest⟩ := RouteDocument.tail_delimiting _ ⟨rfl, hx⟩ ⟨hhead, hy⟩ hwritten
    exact ⟨rfl, hrest⟩
  case privateService.privateService x y =>
    obtain ⟨rfl, hrest⟩ := PrivateServiceDocument.tail_delimiting _ ⟨rfl, hx⟩ ⟨hhead, hy⟩ hwritten
    exact ⟨rfl, hrest⟩
  case linkRoute.linkRoute x y =>
    obtain ⟨rfl, hrest⟩ := LinkRouteDocument.tail_delimiting _ ⟨rfl, hx⟩ ⟨hhead, hy⟩ hwritten
    exact ⟨rfl, hrest⟩
  case snapshot.snapshot x y =>
    obtain ⟨rfl, hrest⟩ := SnapshotDocument.tail_delimiting _ ⟨rfl, hx⟩ ⟨hhead, hy⟩ hwritten
    exact ⟨rfl, hrest⟩
  case restore.restore x y =>
    obtain ⟨rfl, hrest⟩ := RestoreDocument.tail_delimiting _ ⟨rfl, hx⟩ ⟨hhead, hy⟩ hwritten
    exact ⟨rfl, hrest⟩
  case userService.userService x y =>
    obtain ⟨rfl, hrest⟩ := UserServiceDocument.tail_delimiting _ ⟨rfl, hx⟩ ⟨hhead, hy⟩ hwritten
    exact ⟨rfl, hrest⟩

theorem body_delimiting :
    SelfDelimiting (fun document : V2Document => document.validate = .ok ())
      (fun document => document.head.write ++ document.tail) :=
  tail_delimiting.body fun _ h => (head_of_validate h).1

theorem transcript_eq {document : V2Document} (h : document.validate = .ok ()) :
    document.transcript = .ok (transcriptDomainV2 ++
      byteOf document.head.schemaVersion :: (document.head.write ++ document.tail)) := by
  cases document with
  | webService document => exact WebServiceDocument.transcript_eq h
  | entrypoint document => exact EntrypointDocument.transcript_eq h
  | route document => exact RouteDocument.transcript_eq h
  | privateService document => exact PrivateServiceDocument.transcript_eq h
  | linkRoute document => exact LinkRouteDocument.transcript_eq h
  | snapshot document => exact SnapshotDocument.transcript_eq h
  | restore document => exact RestoreDocument.transcript_eq h
  | userService document => exact UserServiceDocument.transcript_eq h

end V2Document

namespace V3Document

def group : V3Document → LinkOperationGroup
  | link _ => .link
  | listenerPeer _ => .listenerPeer
  | initiatorPeer _ => .initiatorPeer

def tail : V3Document → Bytes
  | link document => document.tail
  | listenerPeer document => document.tail
  | initiatorPeer document => document.tail

theorem head_of_validate {document : V3Document} (h : document.validate = .ok ()) :
    document.head.Bounded schemaVersionV3 ∧
      linkOperationGroups.lookup document.head.operation = some document.group := by
  cases document with
  | link document =>
      exact ⟨(LinkDocument.bounded_of_validate h).head, (LinkDocument.bounded_of_validate h).group⟩
  | listenerPeer document =>
      exact ⟨(ListenerPeerDocument.bounded_of_validate h).head,
        (ListenerPeerDocument.bounded_of_validate h).group⟩
  | initiatorPeer document =>
      exact ⟨(InitiatorPeerDocument.bounded_of_validate h).head,
        (InitiatorPeerDocument.bounded_of_validate h).group⟩

theorem tail_delimiting : TailDelimiting head validate tail := by
  rintro h x y s t ⟨rfl, hx⟩ ⟨hhead, hy⟩ hwritten
  have hgroup : x.group = y.group := by
    have hlookup := (head_of_validate hy).2
    rw [hhead, (head_of_validate hx).2] at hlookup
    exact Option.some.inj hlookup
  cases x <;> cases y <;> first | cases hgroup; done | skip
  case link.link x y =>
    obtain ⟨rfl, hrest⟩ := LinkDocument.tail_delimiting _ ⟨rfl, hx⟩ ⟨hhead, hy⟩ hwritten
    exact ⟨rfl, hrest⟩
  case listenerPeer.listenerPeer x y =>
    obtain ⟨rfl, hrest⟩ := ListenerPeerDocument.tail_delimiting _ ⟨rfl, hx⟩ ⟨hhead, hy⟩ hwritten
    exact ⟨rfl, hrest⟩
  case initiatorPeer.initiatorPeer x y =>
    obtain ⟨rfl, hrest⟩ := InitiatorPeerDocument.tail_delimiting _ ⟨rfl, hx⟩ ⟨hhead, hy⟩ hwritten
    exact ⟨rfl, hrest⟩

theorem body_delimiting :
    SelfDelimiting (fun document : V3Document => document.validate = .ok ())
      (fun document => document.head.write ++ document.tail) :=
  tail_delimiting.body fun _ h => (head_of_validate h).1

theorem transcript_eq {document : V3Document} (h : document.validate = .ok ()) :
    document.transcript = .ok (transcriptDomainV3 ++
      byteOf document.head.schemaVersion :: (document.head.write ++ document.tail)) := by
  cases document with
  | link document => exact LinkDocument.transcript_eq h
  | listenerPeer document => exact ListenerPeerDocument.transcript_eq h
  | initiatorPeer document => exact InitiatorPeerDocument.transcript_eq h

end V3Document

/-! ## The approval envelope -/

/-- What follows the domain and the version of an approval. -/
def envelopeBody (envelope : Envelope) : Bytes :=
  writeField envelope.infrastructureID ++ (writeField envelope.machineID ++
    (bigEndian 8 envelope.approvalEpoch ++ (bigEndian 8 envelope.sequence ++
      (writeField envelope.operation.name ++ (writeField (definitionBytes envelope.planSHA256) ++
        (writeField (definitionBytes envelope.rollbackSHA256) ++
          (writeList writeField (envelope.privileges.map Privilege.name) ++
            (bigEndian 8 envelope.issuedAtUnix ++ (bigEndian 8 envelope.expiresAtUnix ++
              writeField ((decodeRawURL envelope.approvalPublicKey Approval.publicKeySize).getD
                []))))))))))

/-- An envelope that is valid, and whose counters are words. -/
structure EnvelopeAdmitted (envelope : Envelope) : Prop where
  schemaVersion : envelope.schemaVersion = 1
  infrastructureID : envelope.infrastructureID.length < 256 ^ 4
  machineID : envelope.machineID.length < 256 ^ 4
  approvalEpoch : envelope.approvalEpoch < 256 ^ 8
  sequence : envelope.sequence < 256 ^ 8
  planSHA256 : canonicalDigest envelope.planSHA256 = true
  rollbackSHA256 : canonicalDigest envelope.rollbackSHA256 = true
  privileges : envelope.privileges = Approval.requiredPrivileges envelope.operation
  issuedAtUnix : envelope.issuedAtUnix < 256 ^ 8
  expiresAtUnix : envelope.expiresAtUnix < 256 ^ 8
  approvalPublicKey : ∃ key,
    decodeRawURL envelope.approvalPublicKey Approval.publicKeySize = some key

theorem envelope_admitted {envelope : Envelope} (h : envelope.validate = true)
    (hwords : envelope.expiresAtUnix < 2 ^ 64) : EnvelopeAdmitted envelope := by
  simp only [Envelope.validate, Envelope.validatePrivileges, Bool.and_eq_true,
    decide_eq_true_eq] at h
  obtain ⟨⟨⟨⟨⟨⟨⟨⟨⟨⟨hversion, hinfrastructure⟩, hmachine⟩, hepoch⟩, hsequence⟩, hplan⟩,
    hrollback⟩, hprivileges⟩, hissued⟩, -⟩, hkey⟩ := h
  have hinfrastructure := canonicalUUIDv4_length hinfrastructure
  have hmachine := canonicalMachine_length hmachine
  exact ⟨hversion, by omega, by omega, by omega, by omega, hplan, hrollback, hprivileges.2,
    by omega, by omega, Option.isSome_iff_exists.1 hkey⟩

theorem requiredPrivileges_short (operation : Approval.Operation) :
    ((Approval.requiredPrivileges operation).map Privilege.name).length < 256 ^ 4 ∧
      ∀ name ∈ (Approval.requiredPrivileges operation).map Privilege.name,
        name.length < 256 ^ 4 := by
  cases operation <;> decide

theorem envelopeBody_delimiting : SelfDelimiting EnvelopeAdmitted envelopeBody := by
  have hlist := SelfDelimiting.list SelfDelimiting.field
  apply (SelfDelimiting.field.pair (SelfDelimiting.field.pair ((SelfDelimiting.word 8).pair
    ((SelfDelimiting.word 8).pair (SelfDelimiting.field.pair (SelfDelimiting.field.pair
      (SelfDelimiting.field.pair (hlist.pair ((SelfDelimiting.word 8).pair
        ((SelfDelimiting.word 8).pair SelfDelimiting.field)))))))))).of_view fun envelope =>
          (envelope.infrastructureID, envelope.machineID, envelope.approvalEpoch,
            envelope.sequence, envelope.operation.name, definitionBytes envelope.planSHA256,
            definitionBytes envelope.rollbackSHA256, envelope.privileges.map Privilege.name,
            envelope.issuedAtUnix, envelope.expiresAtUnix,
            (decodeRawURL envelope.approvalPublicKey Approval.publicKeySize).getD [])
  · intro envelope h
    obtain ⟨key, hkey⟩ := h.approvalPublicKey
    have hkeyLength := (decodeRawURL_eq_some.1 hkey).1
    have hnames := requiredPrivileges_short envelope.operation
    rw [← h.privileges] at hnames
    have hoperation : envelope.operation.name.length < 256 ^ 4 := by
      cases envelope.operation <;> decide
    refine ⟨h.infrastructureID, h.machineID, h.approvalEpoch, h.sequence, hoperation,
      definitionBytes_length h.planSHA256, definitionBytes_length h.rollbackSHA256, hnames,
      h.issuedAtUnix, h.expiresAtUnix, ?_⟩
    rw [hkey]
    show key.length < 256 ^ 4
    rw [hkeyLength]
    decide
  · exact fun _ => rfl
  · intro envelope other h h' hview
    simp only [Prod.mk.injEq] at hview
    obtain ⟨hinfrastructure, hmachine, hepoch, hsequence, hoperation, hplan, hrollback, -, hissued,
      hexpires, hkey⟩ := hview
    have hoperation : envelope.operation = other.operation := by
      have hread := congrArg Approval.Operation.ofName hoperation
      rw [Approval.Operation.ofName_name, Approval.Operation.ofName_name] at hread
      exact Option.some.inj hread
    have hprivileges : envelope.privileges = other.privileges := by
      rw [h.privileges, h'.privileges, hoperation]
    have hplan := definitionBytes_inj h.planSHA256 h'.planSHA256 hplan
    have hrollback := definitionBytes_inj h.rollbackSHA256 h'.rollbackSHA256 hrollback
    have hversion := h.schemaVersion.trans h'.schemaVersion.symm
    have hkey : envelope.approvalPublicKey = other.approvalPublicKey := by
      obtain ⟨decoded, hdecoded⟩ := h.approvalPublicKey
      obtain ⟨decoded', hdecoded'⟩ := h'.approvalPublicKey
      rw [hdecoded, hdecoded'] at hkey
      rw [← (decodeRawURL_eq_some.1 hdecoded).2, ← (decodeRawURL_eq_some.1 hdecoded').2]
      exact congrArg encodeRawURL hkey
    cases envelope
    cases other
    simp only at *
    subst_vars
    rfl

theorem signingTranscript_eq {envelope : Envelope} (h : EnvelopeAdmitted envelope) :
    envelope.signingTranscript =
      some (Approval.transcriptDomain ++ (1 : UInt8) :: envelopeBody envelope) := by
  obtain ⟨key, hkey⟩ := h.approvalPublicKey
  obtain ⟨plan, hplan, -, -⟩ := hex_decoded h.planSHA256
  obtain ⟨rollback, hrollback, -, -⟩ := hex_decoded h.rollbackSHA256
  have hplanBytes : definitionBytes envelope.planSHA256 = plan := by
    rw [definitionBytes, decodeDefinitionDigest, hplan]
    rfl
  have hrollbackBytes : definitionBytes envelope.rollbackSHA256 = rollback := by
    rw [definitionBytes, decodeDefinitionDigest, hrollback]
    rfl
  have hprivileges : ∀ buffer : Bytes,
      envelope.privileges.foldl (fun transcript privilege => appendField transcript privilege.name)
        (appendUint32 buffer envelope.privileges.length) =
          appendList buffer (envelope.privileges.map Privilege.name) := by
    intro buffer
    rw [appendList, List.foldl_map, List.length_map]
  have hversion : ¬ (envelope.schemaVersion < 0 ∨ 255 < envelope.schemaVersion) := by
    rw [h.schemaVersion]
    decide
  have hbyte : envelope.schemaVersion.toNat.toUInt8 = 1 := by
    rw [h.schemaVersion]
    rfl
  unfold Envelope.signingTranscript
  rw [hkey]
  simp only [Option.bind_eq_bind, Option.bind_some]
  rw [show Approval.digestBytes = digestBytes from rfl, hplan]
  simp only [Option.bind_some]
  rw [hrollback]
  simp only [Option.bind_some]
  rw [if_neg hversion]
  simp only [hprivileges]
  simp [appendList_eq, appendField_eq, appendUint64, envelopeBody, hbyte, hkey, hplanBytes,
    hrollbackBytes]

/-! ## Across the kinds -/

/-- A document that a digest is taken or a signature made over. -/
inductive Transcribed where
  | approval (envelope : Envelope)
  | probe (document : Document)
  | schema2 (document : V2Document)
  | schema3 (document : V3Document)
  | definition (document : ServiceDefinition.Document)
  deriving DecidableEq

namespace Transcribed

/-- Its validator accepts the document.  The counters of an envelope are words, and it is issued
before it expires. -/
def Admitted : Transcribed → Prop
  | approval envelope => envelope.validate = true ∧ envelope.expiresAtUnix < 2 ^ 64
  | probe document => document.validate = .ok ()
  | schema2 document => document.validate = .ok ()
  | schema3 document => document.validate = .ok ()
  | definition document => document.validate = .ok ()

/-- What the digest is taken or the signature made over. -/
def transcript : Transcribed → Option Bytes
  | approval envelope => envelope.signingTranscript
  | probe document => document.transcript.toOption
  | schema2 document => document.transcript.toOption
  | schema3 document => document.transcript.toOption
  | definition document => document.transcript.toOption

inductive Kind where
  | approval
  | probe
  | schema2
  | schema3
  | definition
  deriving DecidableEq, Repr

def kind : Transcribed → Kind
  | approval _ => .approval
  | probe _ => .probe
  | schema2 _ => .schema2
  | schema3 _ => .schema3
  | definition _ => .definition

def Kind.domain : Kind → Bytes
  | approval => Approval.transcriptDomain
  | probe => transcriptDomain
  | schema2 => transcriptDomainV2
  | schema3 => transcriptDomainV3
  | definition => ServiceDefinition.transcriptDomain

/-- No domain begins another one. -/
theorem Kind.eq_of_prefix {k l : Kind} (h : k.domain <+: l.domain) : k = l := by
  revert h
  cases k <;> cases l <;> decide

/-- What follows the domain. -/
def body : Transcribed → Bytes
  | approval envelope => 1 :: envelopeBody envelope
  | probe document => byteOf document.schemaVersion :: (document.toHead.write ++ document.tail)
  | schema2 document =>
      byteOf document.head.schemaVersion :: (document.head.write ++ document.tail)
  | schema3 document =>
      byteOf document.head.schemaVersion :: (document.head.write ++ document.tail)
  | definition document => byteOf document.schemaVersion :: document.body

theorem transcript_eq {x : Transcribed} (h : x.Admitted) :
    x.transcript = some (x.kind.domain ++ x.body) := by
  cases x with
  | approval envelope => exact signingTranscript_eq (envelope_admitted h.1 h.2)
  | probe document => exact congrArg Except.toOption (Document.transcript_eq h)
  | schema2 document => exact congrArg Except.toOption (V2Document.transcript_eq h)
  | schema3 document => exact congrArg Except.toOption (V3Document.transcript_eq h)
  | definition document => exact congrArg Except.toOption (ServiceDefinition.Document.transcript_of_validate h)

/-- Documents of one kind, behind their domain. -/
theorem eq_of_body {x y : Transcribed} (hx : x.Admitted) (hy : y.Admitted)
    (hkind : x.kind = y.kind) (h : x.body = y.body) : x = y := by
  cases x <;> cases y <;> first | cases hkind; done | skip
  case approval.approval x y =>
    have hbody := (List.cons.inj h).2
    rw [envelopeBody_delimiting.injective (envelope_admitted hx.1 hx.2)
      (envelope_admitted hy.1 hy.2) hbody]
  case probe.probe x y =>
    have hbounded := fun document (h : Document.validate document = .ok ()) =>
      (Document.bounded_of_validate h).head
    rw [(Document.tail_delimiting.body hbounded).injective hx hy (List.cons.inj h).2]
  case schema2.schema2 x y =>
    rw [V2Document.body_delimiting.injective hx hy (List.cons.inj h).2]
  case schema3.schema3 x y =>
    rw [V3Document.body_delimiting.injective hx hy (List.cons.inj h).2]
  case definition.definition x y =>
    rw [ServiceDefinition.Document.body_delimiting.injective
      (ServiceDefinition.Document.bounded_of_validate hx)
      (ServiceDefinition.Document.bounded_of_validate hy) (List.cons.inj h).2]

end Transcribed

/-- Every document that its validator accepts has a transcript, and it shares it with no other
document that is accepted, of whatever kind. -/
theorem one_document {x y : Transcribed} (hx : x.Admitted) (hy : y.Admitted) :
    x.transcript.isSome = true ∧ (x.transcript = y.transcript → x = y) := by
  constructor
  · rw [Transcribed.transcript_eq hx]
    rfl
  · intro h
    rw [Transcribed.transcript_eq hx, Transcribed.transcript_eq hy] at h
    have hsame := Option.some.inj h
    have hkind : x.kind = y.kind := by
      rcases domain_prefix hsame with hprefix | hprefix
      · exact Transcribed.Kind.eq_of_prefix hprefix
      · exact (Transcribed.Kind.eq_of_prefix hprefix).symm
    rw [hkind] at hsame
    exact Transcribed.eq_of_body hx hy hkind (List.append_cancel_left hsame)

/-- A route of the public profile. -/
def sampleRoute : RouteDocument where
  schemaVersion := 2
  infrastructureID := text "8b0f3a52-7c1d-4e6f-9a2b-5d4c3b2a1f00"
  machineID := text "front-1"
  operation := text "publish_route"
  routeHost := text "www.example.org"
  backendPort := 8080

/-- The same values, for a route through the passage. -/
def sampleLinkRoute : LinkRouteDocument where
  schemaVersion := 2
  infrastructureID := text "8b0f3a52-7c1d-4e6f-9a2b-5d4c3b2a1f00"
  machineID := text "front-1"
  operation := text "publish_link_route"
  routeHost := text "www.example.org"
  backendPort := 8080

theorem routes_apart :
    (Transcribed.schema2 (.route sampleRoute)).transcript ≠
      (Transcribed.schema2 (.linkRoute sampleLinkRoute)).transcript := by
  have hroute : (Transcribed.schema2 (.route sampleRoute)).Admitted := by
    show V2Document.validate _ = _
    decide
  have hlinkRoute : (Transcribed.schema2 (.linkRoute sampleLinkRoute)).Admitted := by
    show V2Document.validate _ = _
    decide
  intro h
  cases (one_document hroute hlinkRoute).2 h

end YourCloud.Plan
