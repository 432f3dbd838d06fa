import EthereumElc.Reference.Relayer

/-! Evidence on the wire, and the dispatch of typed bytes to the decoders. -/
namespace EthereumElc

variable {T : ExternalTypes}

/-- The two kinds of evidence, whose raw messages have the same fields. -/
inductive MisbehaviourKind where
  | finalizedHeader
  | nextSyncCommittee
  deriving DecidableEq

namespace MisbehaviourKind

/-- The URL that evidence of a kind is sent under. -/
def typeUrl : MisbehaviourKind → String
  | .finalizedHeader => ETHEREUM_FINALIZED_HEADER_MISBEHAVIOUR_TYPE_URL
  | .nextSyncCommittee => ETHEREUM_NEXT_SYNC_COMMITTEE_MISBEHAVIOUR_TYPE_URL

def other : MisbehaviourKind → MisbehaviourKind
  | .finalizedHeader => .nextSyncCommittee
  | .nextSyncCommittee => .finalizedHeader

/-- Evidence of a kind from two updates. -/
def data (u u' : ConsensusUpdateInfo T) : MisbehaviourKind → Verifier.Misbehaviour T
  | .finalizedHeader => .finalizedHeader ⟨u, u'⟩
  | .nextSyncCommittee => .nextSyncCommittee ⟨u, u'⟩

/-- The bytes of four fields in the raw message of a kind. -/
def encode (E : Externals T) (clientId : String)
    (trustedSyncCommittee : Option T.ProtoTrustedSyncCommittee)
    (consensusUpdate1 consensusUpdate2 : Option T.ProtoConsensusUpdate) :
    MisbehaviourKind → Except ExternalError Bytes
  | .finalizedHeader => E.finalizedHeaderMisbehaviourCodec.encode
      ⟨clientId, trustedSyncCommittee, consensusUpdate1, consensusUpdate2⟩
  | .nextSyncCommittee => E.nextSyncCommitteeMisbehaviourCodec.encode
      ⟨clientId, trustedSyncCommittee, consensusUpdate1, consensusUpdate2⟩

end MisbehaviourKind

namespace Verifier.Misbehaviour

def kind : Verifier.Misbehaviour T → MisbehaviourKind
  | .finalizedHeader _ => .finalizedHeader
  | .nextSyncCommittee _ => .nextSyncCommittee

def consensusUpdate1 : Verifier.Misbehaviour T → ConsensusUpdateInfo T
  | .finalizedHeader data => data.consensusUpdate1
  | .nextSyncCommittee data => data.consensusUpdate1

def consensusUpdate2 : Verifier.Misbehaviour T → ConsensusUpdateInfo T
  | .finalizedHeader data => data.consensusUpdate2
  | .nextSyncCommittee data => data.consensusUpdate2

/-- Evidence is its kind with its two updates. -/
theorem eq_data (m : Verifier.Misbehaviour T) :
    m = m.kind.data m.consensusUpdate1 m.consensusUpdate2 := by
  cases m <;> rfl

end Verifier.Misbehaviour

@[simp] theorem MisbehaviourKind.kind_data (u u' : ConsensusUpdateInfo T) (k : MisbehaviourKind) :
    (k.data u u').kind = k := by
  cases k <;> rfl

theorem MisbehaviourKind.other_ne (k : MisbehaviourKind) : k.other ≠ k := by
  cases k <;> decide

/-- Converts evidence to the raw message of its own kind, and encodes it. -/
def Misbehaviour.toBytes (E : Externals T) (F : MessageEncoders T) (m : Misbehaviour T) :
    Result Bytes :=
  match m.data.kind with
  | .finalizedHeader => do
      let raw ← m.intoRawFinalizedHeader F
      Outcome.lift .protoEncode (E.finalizedHeaderMisbehaviourCodec.encode raw)
  | .nextSyncCommittee => do
      let raw ← m.intoRawNextSyncCommittee F
      Outcome.lift .protoEncode (E.nextSyncCommitteeMisbehaviourCodec.encode raw)

/-- The parts of a misbehaviour convert, and the conversions invert each other on them. -/
structure Misbehaviour.Convertible (E : Externals T) (F : MessageEncoders T) (m : Misbehaviour T) :
    Prop where
  clientId : E.clientIdFromStr m.clientId.asStr = .ok m.clientId
  trustedSyncCommittee : E.trustedSyncCommitteeTryFrom
    (F.trustedSyncCommitteeInto m.trustedSyncCommittee) = .ok m.trustedSyncCommittee
  consensusUpdate1 : ∃ p, F.convertConsensusUpdateToProto m.data.consensusUpdate1 = .ok p ∧
    E.convertProtoToConsensusUpdate p = .ok m.data.consensusUpdate1
  consensusUpdate2 : ∃ p, F.convertConsensusUpdateToProto m.data.consensusUpdate2 = .ok p ∧
    E.convertProtoToConsensusUpdate p = .ok m.data.consensusUpdate2

/-- Decoding inverts encoding on both raw messages, which are one format. -/
structure Externals.EvidenceCodecs (E : Externals T) : Prop where
  finalizedHeader : E.finalizedHeaderMisbehaviourCodec.Lawful
  nextSyncCommittee : E.nextSyncCommitteeMisbehaviourCodec.Lawful
  sameFormat : ∀ clientId committee update1 update2,
    E.finalizedHeaderMisbehaviourCodec.encode ⟨clientId, committee, update1, update2⟩ =
      E.nextSyncCommitteeMisbehaviourCodec.encode ⟨clientId, committee, update1, update2⟩

/-- The type URLs that a client message can have. -/
def messageTypeUrls : List String :=
  [ETHEREUM_HEADER_TYPE_URL, ETHEREUM_FINALIZED_HEADER_MISBEHAVIOUR_TYPE_URL,
    ETHEREUM_NEXT_SYNC_COMMITTEE_MISBEHAVIOUR_TYPE_URL]

variable {E : Externals T} {F : MessageEncoders T}

/-- The bytes do not tell the kind of the evidence. -/
theorem Externals.EvidenceCodecs.encode_eq (hE : E.EvidenceCodecs) (clientId : String)
    (committee : Option T.ProtoTrustedSyncCommittee) (update1 update2 : Option T.ProtoConsensusUpdate)
    (k k' : MisbehaviourKind) : k.encode E clientId committee update1 update2 =
      k'.encode E clientId committee update1 update2 := by
  cases k <;> cases k' <;> simp [MisbehaviourKind.encode, hE.sameFormat]

theorem Externals.EvidenceCodecs.exists_encode (hE : E.EvidenceCodecs) (clientId : String)
    (committee : Option T.ProtoTrustedSyncCommittee) (update1 update2 : Option T.ProtoConsensusUpdate)
    (k : MisbehaviourKind) : ∃ bytes, k.encode E clientId committee update1 update2 = .ok bytes := by
  cases k
  · exact hE.finalizedHeader.encode_total _
  · exact hE.nextSyncCommittee.encode_total _

/-- Evidence whose updates convert has all the fields of its message. -/
theorem Misbehaviour.intoFields_eq_ok {m : Misbehaviour T} {Raw : Type}
    {u1 u2 : ConsensusUpdateInfo T} {p1 p2 : T.ProtoConsensusUpdate}
    (h1 : F.convertConsensusUpdateToProto u1 = .ok p1)
    (h2 : F.convertConsensusUpdateToProto u2 = .ok p2)
    (raw : String → Option T.ProtoTrustedSyncCommittee → Option T.ProtoConsensusUpdate →
      Option T.ProtoConsensusUpdate → Raw) :
    intoFields F m u1 u2 raw = .ok (raw m.clientId.asStr
      (some (F.trustedSyncCommitteeInto m.trustedSyncCommittee)) (some p1) (some p2)) := by
  simp only [intoFields, h1, h2, Outcome.expect_ok, Outcome.ok_bind]
  rfl

/-- The conversion takes the branch of the evidence's own kind. -/
theorem Misbehaviour.toBytes_eq {m : Misbehaviour T} {p1 p2 : T.ProtoConsensusUpdate}
    (h1 : F.convertConsensusUpdateToProto m.data.consensusUpdate1 = .ok p1)
    (h2 : F.convertConsensusUpdateToProto m.data.consensusUpdate2 = .ok p2) :
    m.toBytes E F = Outcome.lift .protoEncode (m.data.kind.encode E m.clientId.asStr
      (some (F.trustedSyncCommitteeInto m.trustedSyncCommittee)) (some p1) (some p2)) := by
  obtain ⟨clientId, committee, data⟩ := m
  cases data with
  | finalizedHeader data =>
      have h1 : F.convertConsensusUpdateToProto data.consensusUpdate1 = .ok p1 := h1
      have h2 : F.convertConsensusUpdateToProto data.consensusUpdate2 = .ok p2 := h2
      simp only [toBytes, Verifier.Misbehaviour.kind, intoRawFinalizedHeader,
        intoFields_eq_ok h1 h2, Outcome.ok_bind, MisbehaviourKind.encode]
  | nextSyncCommittee data =>
      have h1 : F.convertConsensusUpdateToProto data.consensusUpdate1 = .ok p1 := h1
      have h2 : F.convertConsensusUpdateToProto data.consensusUpdate2 = .ok p2 := h2
      simp only [toBytes, Verifier.Misbehaviour.kind, intoRawNextSyncCommittee,
        intoFields_eq_ok h1 h2, Outcome.ok_bind, MisbehaviourKind.encode]

/-- The fields that evidence was encoded to are decoded to it. The kind comes from
the URL, so it is free here. -/
theorem Misbehaviour.Convertible.tryFromFields {m : Misbehaviour T} (h : m.Convertible E F)
    {p1 p2 : T.ProtoConsensusUpdate}
    (h1 : E.convertProtoToConsensusUpdate p1 = .ok m.data.consensusUpdate1)
    (h2 : E.convertProtoToConsensusUpdate p2 = .ok m.data.consensusUpdate2)
    (data : ConsensusUpdateInfo T → ConsensusUpdateInfo T → Verifier.Misbehaviour T) :
    Misbehaviour.tryFromFields E m.clientId.asStr
      (some (F.trustedSyncCommitteeInto m.trustedSyncCommittee)) (some p1) (some p2) data =
        .ok { m with data := data m.data.consensusUpdate1 m.data.consensusUpdate2 } := by
  simp only [Misbehaviour.tryFromFields, h.clientId, h.trustedSyncCommittee, h1, h2,
    Outcome.okOr_some, Outcome.lift_ok, Outcome.ok_bind]
  rfl

/-- The bytes are decoded as evidence of whichever kind their URL says. -/
theorem Misbehaviour.Convertible.tryFromAny (hE : E.EvidenceCodecs) {m : Misbehaviour T}
    (h : m.Convertible E F) {p1 p2 : T.ProtoConsensusUpdate}
    (h1 : E.convertProtoToConsensusUpdate p1 = .ok m.data.consensusUpdate1)
    (h2 : E.convertProtoToConsensusUpdate p2 = .ok m.data.consensusUpdate2) {bytes : Bytes}
    (k : MisbehaviourKind) (hBytes : k.encode E m.clientId.asStr
      (some (F.trustedSyncCommitteeInto m.trustedSyncCommittee)) (some p1) (some p2) = .ok bytes) :
    Misbehaviour.tryFromAny E ⟨k.typeUrl, bytes⟩ =
      .ok { m with data := k.data m.data.consensusUpdate1 m.data.consensusUpdate2 } := by
  cases k with
  | finalizedHeader =>
      have hUrl : (⟨MisbehaviourKind.finalizedHeader.typeUrl, bytes⟩ : Any).typeUrl =
        ETHEREUM_FINALIZED_HEADER_MISBEHAVIOUR_TYPE_URL := rfl
      rw [Misbehaviour.tryFromAny, if_pos hUrl, decodeFinalizedHeaderMisbehaviour,
        hE.finalizedHeader.decode_encode _ _ hBytes, Outcome.lift_ok, Outcome.ok_bind]
      exact h.tryFromFields h1 h2 _
  | nextSyncCommittee =>
      have hNotFinalized : (⟨MisbehaviourKind.nextSyncCommittee.typeUrl, bytes⟩ : Any).typeUrl ≠
        ETHEREUM_FINALIZED_HEADER_MISBEHAVIOUR_TYPE_URL := by
          simp only [MisbehaviourKind.typeUrl]
          decide
      have hUrl : (⟨MisbehaviourKind.nextSyncCommittee.typeUrl, bytes⟩ : Any).typeUrl =
        ETHEREUM_NEXT_SYNC_COMMITTEE_MISBEHAVIOUR_TYPE_URL := rfl
      rw [Misbehaviour.tryFromAny, if_neg hNotFinalized, if_pos hUrl,
        decodeNextSyncCommitteeMisbehaviour, hE.nextSyncCommittee.decode_encode _ _ hBytes,
        Outcome.lift_ok, Outcome.ok_bind]
      exact h.tryFromFields h1 h2 _

/-! The dispatch of the three decoders by the type URL. -/

theorem Header.typeUrl_of_tryFromAny {any : Any} {header : Header T}
    (h : Header.tryFromAny E any = .ok header) : any.typeUrl = ETHEREUM_HEADER_TYPE_URL := by
  unfold tryFromAny at h
  split_ifs at h with hUrl
  exact hUrl

theorem Misbehaviour.typeUrl_of_tryFromAny {any : Any} {m : Misbehaviour T}
    (h : Misbehaviour.tryFromAny E any = .ok m) :
    any.typeUrl = ETHEREUM_FINALIZED_HEADER_MISBEHAVIOUR_TYPE_URL ∨
      any.typeUrl = ETHEREUM_NEXT_SYNC_COMMITTEE_MISBEHAVIOUR_TYPE_URL := by
  unfold tryFromAny at h
  split_ifs at h with hFinalized hNext
  · exact .inl hFinalized
  · exact .inr hNext

/-- The dispatch does not confuse evidence with a header. -/
theorem ETHEREUM_HEADER_TYPE_URL_ne {url : String}
    (h : url = ETHEREUM_FINALIZED_HEADER_MISBEHAVIOUR_TYPE_URL ∨
      url = ETHEREUM_NEXT_SYNC_COMMITTEE_MISBEHAVIOUR_TYPE_URL) : url ≠ ETHEREUM_HEADER_TYPE_URL := by
  rcases h with rfl | rfl <;> decide

/-- The dispatch accepts exactly what one of the two decoders accepts. -/
theorem ClientMessage.tryFromAny_eq_ok {any : Any} {message : ClientMessage T} :
    ClientMessage.tryFromAny E any = .ok message ↔
      (∃ header, Header.tryFromAny E any = .ok header ∧ message = .header header) ∨
      ∃ m, Misbehaviour.tryFromAny E any = .ok m ∧ message = .misbehaviour m := by
  constructor
  · intro h
    unfold tryFromAny at h
    split_ifs at h
    · obtain ⟨header, hHeader, hMessage⟩ := Outcome.bind_eq_ok.mp h
      exact .inl ⟨header, hHeader, (Outcome.pure_eq_ok.mp hMessage).symm⟩
    · obtain ⟨m, hMisbehaviour, hMessage⟩ := Outcome.bind_eq_ok.mp h
      exact .inr ⟨m, hMisbehaviour, (Outcome.pure_eq_ok.mp hMessage).symm⟩
  · rintro (⟨header, hHeader, rfl⟩ | ⟨m, hMisbehaviour, rfl⟩)
    · rw [tryFromAny, if_pos (Header.typeUrl_of_tryFromAny hHeader), hHeader]
      rfl
    · have hUrl := Misbehaviour.typeUrl_of_tryFromAny hMisbehaviour
      rw [tryFromAny, if_neg (ETHEREUM_HEADER_TYPE_URL_ne hUrl), if_pos hUrl, hMisbehaviour]
      rfl

/-- The decoder of headers has errors of its own for every message. -/
theorem Header.tryFromAny_ne_unknownMessageType (any : Any) (url : String) :
    Header.tryFromAny E any ≠ .error (.error (.unknownMessageType url)) := by
  unfold tryFromAny
  split_ifs
  · simp only [decodeHeader, tryFromRaw, Error.protoMissing, Outcome.bind_eq_error,
      Outcome.lift_eq_error, Outcome.okOr_eq_error, Outcome.pure_ne_error, reduceCtorEq, and_false,
      exists_false, or_false, ne_eq, not_false_eq_true]
  · simp

theorem Misbehaviour.tryFromFields_ne_unknownMessageType (clientId : String)
    (committee : Option T.ProtoTrustedSyncCommittee) (update1 update2 : Option T.ProtoConsensusUpdate)
    (data : ConsensusUpdateInfo T → ConsensusUpdateInfo T → Verifier.Misbehaviour T) (url : String) :
    tryFromFields E clientId committee update1 update2 data ≠
      .error (.error (.unknownMessageType url)) := by
  simp only [tryFromFields, Error.protoMissing, Outcome.bind_eq_error, Outcome.lift_eq_error,
    Outcome.okOr_eq_error, Outcome.pure_ne_error, reduceCtorEq, and_false, exists_false, or_false,
    ne_eq, not_false_eq_true]

theorem Misbehaviour.tryFromAny_ne_unknownMessageType (any : Any) (url : String) :
    Misbehaviour.tryFromAny E any ≠ .error (.error (.unknownMessageType url)) := by
  unfold tryFromAny
  split_ifs
  · simp [decodeFinalizedHeaderMisbehaviour, tryFromRawFinalizedHeader, Outcome.bind_eq_error,
      Outcome.lift_eq_error, tryFromFields_ne_unknownMessageType]
  · simp [decodeNextSyncCommitteeMisbehaviour, tryFromRawNextSyncCommittee, Outcome.bind_eq_error,
      Outcome.lift_eq_error, tryFromFields_ne_unknownMessageType]
  · simp

/-- An unknown URL is reported for exactly the URLs that are not listed, with their
own name. -/
theorem ClientMessage.tryFromAny_eq_unknownMessageType {any : Any} {url : String} :
    ClientMessage.tryFromAny E any = .error (.error (.unknownMessageType url)) ↔
      any.typeUrl ∉ messageTypeUrls ∧ url = any.typeUrl := by
  unfold tryFromAny messageTypeUrls
  split_ifs with hHeader hMisbehaviour
  · simp only [Outcome.bind_eq_error, Header.tryFromAny_ne_unknownMessageType,
      Outcome.pure_ne_error, and_false, exists_false, or_false]
    simp [hHeader]
  · simp only [Outcome.bind_eq_error, Misbehaviour.tryFromAny_ne_unknownMessageType,
      Outcome.pure_ne_error, and_false, exists_false, or_false]
    simp [hMisbehaviour]
  · simp [hHeader, not_or.mp hMisbehaviour, eq_comm]

/-- Evidence of both kinds survives its own encoding, and is never taken for
evidence of its kind under the URL of the other one, where the same bytes are the
other kind. The dispatch agrees with the two decoders, on any bytes, and knows no
other URL. The updates of the evidence are assumed to survive their own conversions. -/
theorem clientMessage_codec (hE : E.EvidenceCodecs) :
    (∀ m : Misbehaviour T, m.Convertible E F →
      ∃ bytes, m.toBytes E F = .ok bytes ∧
        ClientMessage.tryFromAny E ⟨m.data.kind.typeUrl, bytes⟩ = .ok (.misbehaviour m) ∧
        ClientMessage.tryFromAny E ⟨m.data.kind.other.typeUrl, bytes⟩ = .ok (.misbehaviour
          { m with data :=
              m.data.kind.other.data m.data.consensusUpdate1 m.data.consensusUpdate2 }) ∧
        ∀ m', ClientMessage.tryFromAny E ⟨m.data.kind.other.typeUrl, bytes⟩ =
          .ok (.misbehaviour m') → m'.data.kind ≠ m.data.kind) ∧
    ∀ any : Any,
      (∀ message, ClientMessage.tryFromAny E any = .ok message ↔
        (∃ header, Header.tryFromAny E any = .ok header ∧ message = .header header) ∨
        ∃ m, Misbehaviour.tryFromAny E any = .ok m ∧ message = .misbehaviour m) ∧
      ¬((∃ header, Header.tryFromAny E any = .ok header) ∧
        ∃ m, Misbehaviour.tryFromAny E any = .ok m) ∧
      ∀ url, ClientMessage.tryFromAny E any = .error (.error (.unknownMessageType url)) ↔
        any.typeUrl ∉ messageTypeUrls ∧ url = any.typeUrl := by
  constructor
  · intro m h
    obtain ⟨p1, hInto1, h1⟩ := h.consensusUpdate1
    obtain ⟨p2, hInto2, h2⟩ := h.consensusUpdate2
    obtain ⟨bytes, hBytes⟩ := hE.exists_encode m.clientId.asStr
      (some (F.trustedSyncCommitteeInto m.trustedSyncCommittee)) (some p1) (some p2) m.data.kind
    have hDecoded (k : MisbehaviourKind) :
        ClientMessage.tryFromAny E ⟨k.typeUrl, bytes⟩ = .ok (.misbehaviour
          { m with data := k.data m.data.consensusUpdate1 m.data.consensusUpdate2 }) := by
      rw [hE.encode_eq _ _ _ _ _ k] at hBytes
      exact ClientMessage.tryFromAny_eq_ok.mpr (.inr ⟨_, h.tryFromAny hE h1 h2 k hBytes, rfl⟩)
    refine ⟨bytes, ?_, ?_, hDecoded _, ?_⟩
    · rw [Misbehaviour.toBytes_eq hInto1 hInto2, hBytes, Outcome.lift_ok]
    · rw [hDecoded, ← m.data.eq_data]
    · intro m' hm'
      rw [hDecoded, Except.ok.injEq, ClientMessage.misbehaviour.injEq] at hm'
      rw [← hm', MisbehaviourKind.kind_data]
      exact m.data.kind.other_ne
  · intro any
    refine ⟨fun message => ClientMessage.tryFromAny_eq_ok, ?_,
      fun url => ClientMessage.tryFromAny_eq_unknownMessageType⟩
    rintro ⟨⟨header, hHeader⟩, m, hMisbehaviour⟩
    exact ETHEREUM_HEADER_TYPE_URL_ne (Misbehaviour.typeUrl_of_tryFromAny hMisbehaviour)
      (Header.typeUrl_of_tryFromAny hHeader)

section Relayed

open Reference

theorem Reference.externals_evidenceCodecs : externals.EvidenceCodecs where
  finalizedHeader := codec_lawful _
  nextSyncCommittee := codec_lawful _
  sameFormat _ _ _ _ := rfl

/-- The evidence of the relayer is decoded from its own messages. -/
theorem Reference.misbehaviour_convertible {clientId : ClientId} (hId : clientId.asStr ≠ "")
    (trusted : U64) (slot : Slot) (proposer proposer' : U64) :
    (misbehaviour clientId trusted slot proposer proposer').Convertible externals
      messageEncoders where
  clientId := if_neg hId
  trustedSyncCommittee := trustedSyncCommitteeTryFrom_message 0 false trusted slot proposer
  consensusUpdate1 := ⟨_, rfl, convertProtoToConsensusUpdate_message 0 false trusted slot proposer⟩
  consensusUpdate2 := ⟨_, rfl, convertProtoToConsensusUpdate_message 0 false trusted slot proposer'⟩

/-- The evidence of a fork, sent as the one kind and as the other. -/
theorem relayed_clientMessage_codec :
    ∃ bytes, (misbehaviour relayed 2 6 0 1).toBytes externals messageEncoders = .ok bytes ∧
      ClientMessage.tryFromAny externals
        ⟨ETHEREUM_FINALIZED_HEADER_MISBEHAVIOUR_TYPE_URL, bytes⟩ =
          .ok (.misbehaviour (misbehaviour relayed 2 6 0 1)) ∧
      ∀ m', ClientMessage.tryFromAny externals
        ⟨ETHEREUM_NEXT_SYNC_COMMITTEE_MISBEHAVIOUR_TYPE_URL, bytes⟩ = .ok (.misbehaviour m') →
          m'.data.kind ≠ .finalizedHeader := by
  have hId : relayed.asStr ≠ "" := by decide
  obtain ⟨hCodec, -⟩ := clientMessage_codec (F := messageEncoders) externals_evidenceCodecs
  obtain ⟨bytes, hBytes, hOwn, -, hOther⟩ := hCodec _ (misbehaviour_convertible hId 2 6 0 1)
  exact ⟨bytes, hBytes, hOwn, hOther⟩

end Relayed

end EthereumElc
