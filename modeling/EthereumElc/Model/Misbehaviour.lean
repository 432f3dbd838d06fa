import EthereumElc.Model.Header

/-! Evidence of misbehaviour, and the messages that a client accepts. -/
namespace EthereumElc

variable {T : ExternalTypes} (E : Externals T)

def ETHEREUM_FINALIZED_HEADER_MISBEHAVIOUR_TYPE_URL : String :=
  "/ibc.lightclients.ethereum.v1.FinalizedHeaderMisbehaviour"

def ETHEREUM_NEXT_SYNC_COMMITTEE_MISBEHAVIOUR_TYPE_URL : String :=
  "/ibc.lightclients.ethereum.v1.NextSyncCommitteeMisbehaviour"

/-- Evidence names the client that it is against, and the trusted state it is
checked against; its two updates are the whole evidence. -/
structure Misbehaviour (T : ExternalTypes) where
  clientId : ClientId
  trustedSyncCommittee : TrustedSyncCommittee T
  data : Verifier.Misbehaviour T

namespace Misbehaviour

/-- The height of the stored state that evidence is checked against, and the height
that a client is frozen at. -/
def trustedHeight (misbehaviour : Misbehaviour T) : Height :=
  toLcpHeight misbehaviour.trustedSyncCommittee.height

/-- What is checked of evidence before any verification. -/
def validate (misbehaviour : Misbehaviour T) : Result Unit :=
  Outcome.lift .ethereumLightClientTypes
    (E.trustedSyncCommitteeValidate misbehaviour.trustedSyncCommittee)

/-- The conversion that both kinds of evidence share: the same four fields, read
in the same order. -/
def tryFromFields (clientId : String) (trustedSyncCommittee : Option T.ProtoTrustedSyncCommittee)
    (consensusUpdate1 consensusUpdate2 : Option T.ProtoConsensusUpdate)
    (data : ConsensusUpdateInfo T → ConsensusUpdateInfo T → Verifier.Misbehaviour T) :
    Result (Misbehaviour T) := do
  let clientId ← Outcome.lift .type (E.clientIdFromStr clientId)
  let trustedSyncCommittee ←
    Outcome.okOr (.protoMissing "trusted_sync_committee") trustedSyncCommittee
  let trustedSyncCommittee ← Outcome.lift .ethereumLightClientTypes
    (E.trustedSyncCommitteeTryFrom trustedSyncCommittee)
  let consensusUpdate1 ← Outcome.okOr (.protoMissing "consensus_update_1") consensusUpdate1
  let consensusUpdate1 ← Outcome.lift .ethereumLightClientTypes
    (E.convertProtoToConsensusUpdate consensusUpdate1)
  let consensusUpdate2 ← Outcome.okOr (.protoMissing "consensus_update_2") consensusUpdate2
  let consensusUpdate2 ← Outcome.lift .ethereumLightClientTypes
    (E.convertProtoToConsensusUpdate consensusUpdate2)
  pure ⟨clientId, trustedSyncCommittee, data consensusUpdate1 consensusUpdate2⟩

/-- Two updates that finalise different headers. -/
def tryFromRawFinalizedHeader (value : RawFinalizedHeaderMisbehaviour T) :
    Result (Misbehaviour T) :=
  tryFromFields E value.clientId value.trustedSyncCommittee value.consensusUpdate1
    value.consensusUpdate2 fun u1 u2 => .finalizedHeader ⟨u1, u2⟩

/-- Two updates that announce different next sync committees. -/
def tryFromRawNextSyncCommittee (value : RawNextSyncCommitteeMisbehaviour T) :
    Result (Misbehaviour T) :=
  tryFromFields E value.clientId value.trustedSyncCommittee value.consensusUpdate1
    value.consensusUpdate2 fun u1 u2 => .nextSyncCommittee ⟨u1, u2⟩

/-- The conversion back. The code relies on the conversion of both updates. -/
def intoFields {Raw : Type} (F : MessageEncoders T) (value : Misbehaviour T)
    (consensusUpdate1 consensusUpdate2 : ConsensusUpdateInfo T)
    (raw : String → Option T.ProtoTrustedSyncCommittee → Option T.ProtoConsensusUpdate →
      Option T.ProtoConsensusUpdate → Raw) : Result Raw := do
  let consensusUpdate1 ← Outcome.expect "failed to convert consensus_update_1 to proto"
    ExternalError.message (F.convertConsensusUpdateToProto consensusUpdate1)
  let consensusUpdate2 ← Outcome.expect "failed to convert consensus_update_2 to proto"
    ExternalError.message (F.convertConsensusUpdateToProto consensusUpdate2)
  pure (raw value.clientId.asStr (some (F.trustedSyncCommitteeInto value.trustedSyncCommittee))
    (some consensusUpdate1) (some consensusUpdate2))

/-- Encoding evidence of the other kind aborts. -/
def intoRawFinalizedHeader (F : MessageEncoders T) (value : Misbehaviour T) :
    Result (RawFinalizedHeaderMisbehaviour T) :=
  match value.data with
  | .finalizedHeader data =>
      intoFields F value data.consensusUpdate1 data.consensusUpdate2 .mk
  | _ => .error (.abort "unexpected misbehaviour type")

/-- Encoding evidence of the other kind aborts. -/
def intoRawNextSyncCommittee (F : MessageEncoders T) (value : Misbehaviour T) :
    Result (RawNextSyncCommitteeMisbehaviour T) :=
  match value.data with
  | .nextSyncCommittee data =>
      intoFields F value data.consensusUpdate1 data.consensusUpdate2 .mk
  | _ => .error (.abort "unexpected misbehaviour type")

def decodeFinalizedHeaderMisbehaviour (bytes : Bytes) : Result (Misbehaviour T) := do
  let raw ← Outcome.lift .protoDecode (E.finalizedHeaderMisbehaviourCodec.decode bytes)
  tryFromRawFinalizedHeader E raw

def decodeNextSyncCommitteeMisbehaviour (bytes : Bytes) : Result (Misbehaviour T) := do
  let raw ← Outcome.lift .protoDecode (E.nextSyncCommitteeMisbehaviourCodec.decode bytes)
  tryFromRawNextSyncCommittee E raw

/-- The URL says which kind of evidence the bytes are decoded as. -/
def tryFromAny (raw : Any) : Result (Misbehaviour T) :=
  if raw.typeUrl = ETHEREUM_FINALIZED_HEADER_MISBEHAVIOUR_TYPE_URL then
    decodeFinalizedHeaderMisbehaviour E raw.value
  else if raw.typeUrl = ETHEREUM_NEXT_SYNC_COMMITTEE_MISBEHAVIOUR_TYPE_URL then
    decodeNextSyncCommitteeMisbehaviour E raw.value
  else .error (.error (.unknownMisbehaviourType raw.typeUrl))

end Misbehaviour

/-- The messages that a relayer sends to an existing client. -/
inductive ClientMessage (T : ExternalTypes) where
  | header (header : Header T)
  | misbehaviour (misbehaviour : Misbehaviour T)

/-- The dispatch on the URL, before the decoder of the kind looks at the URL again. -/
def ClientMessage.tryFromAny (raw : Any) : Result (ClientMessage T) :=
  if raw.typeUrl = ETHEREUM_HEADER_TYPE_URL then do
    let header ← Header.tryFromAny E raw
    pure (.header header)
  else if raw.typeUrl = ETHEREUM_FINALIZED_HEADER_MISBEHAVIOUR_TYPE_URL ∨
      raw.typeUrl = ETHEREUM_NEXT_SYNC_COMMITTEE_MISBEHAVIOUR_TYPE_URL then do
    let misbehaviour ← Misbehaviour.tryFromAny E raw
    pure (.misbehaviour misbehaviour)
  else .error (.error (.unknownMessageType raw.typeUrl))

variable {E}

/-- No field of a header aborts its conversion. -/
theorem Header.tryFromAny_returns (raw : Any) : (Header.tryFromAny E raw).Returns := by
  unfold tryFromAny
  split_ifs
  · refine (Outcome.returns_lift _ _).bind fun value _ => ?_
    refine (Outcome.returns_okOr _ _).bind fun _ _ => ?_
    refine (Outcome.returns_okOr _ _).bind fun _ _ => ?_
    refine (Outcome.returns_okOr _ _).bind fun _ _ => ?_
    refine (Outcome.returns_okOr _ _).bind fun _ _ => ?_
    refine (Outcome.returns_lift _ _).bind fun _ _ => ?_
    refine (Outcome.returns_lift _ _).bind fun _ _ => ?_
    refine (Outcome.returns_lift _ _).bind fun _ _ => ?_
    exact (Outcome.returns_lift _ _).bind fun _ _ => Outcome.returns_ok _
  · exact Outcome.returns_error _

/-- No field of evidence aborts its conversion. -/
theorem Misbehaviour.tryFromFields_returns (clientId : String)
    (trustedSyncCommittee : Option T.ProtoTrustedSyncCommittee)
    (consensusUpdate1 consensusUpdate2 : Option T.ProtoConsensusUpdate)
    (data : ConsensusUpdateInfo T → ConsensusUpdateInfo T → Verifier.Misbehaviour T) :
    (tryFromFields E clientId trustedSyncCommittee consensusUpdate1 consensusUpdate2
      data).Returns := by
  refine (Outcome.returns_lift _ _).bind fun _ _ => ?_
  refine (Outcome.returns_okOr _ _).bind fun _ _ => ?_
  refine (Outcome.returns_lift _ _).bind fun _ _ => ?_
  refine (Outcome.returns_okOr _ _).bind fun _ _ => ?_
  refine (Outcome.returns_lift _ _).bind fun _ _ => ?_
  refine (Outcome.returns_okOr _ _).bind fun _ _ => ?_
  exact (Outcome.returns_lift _ _).bind fun _ _ => Outcome.returns_ok _

/-- Evidence is refused with an error under any URL. -/
theorem Misbehaviour.tryFromAny_returns (raw : Any) : (Misbehaviour.tryFromAny E raw).Returns := by
  unfold tryFromAny
  split_ifs
  · exact (Outcome.returns_lift _ _).bind fun _ _ => tryFromFields_returns _ _ _ _ _
  · exact (Outcome.returns_lift _ _).bind fun _ _ => tryFromFields_returns _ _ _ _ _
  · exact Outcome.returns_error _

/-- Bytes from a relayer never abort the enclave while they are decoded. -/
theorem ClientMessage.tryFromAny_returns (raw : Any) : (ClientMessage.tryFromAny E raw).Returns := by
  unfold tryFromAny
  split_ifs
  · exact (Header.tryFromAny_returns raw).bind fun _ _ => Outcome.returns_ok _
  · exact (Misbehaviour.tryFromAny_returns raw).bind fun _ _ => Outcome.returns_ok _
  · exact Outcome.returns_error _

end EthereumElc
