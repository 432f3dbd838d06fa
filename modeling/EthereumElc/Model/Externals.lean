import EthereumElc.Model.Errors
import EthereumElc.Model.Proto
import EthereumElc.Model.States

/-! The functions of other crates that the light client calls. They are
parameters: nothing is assumed of them here. What a result relies on is a
hypothesis of that result, stated below for the conversions. -/
namespace EthereumElc

/-- The encoder and the decoder of one protobuf message. -/
structure Codec (Raw : Type) where
  encode : Raw → Except ExternalError Bytes
  decode : Bytes → Except ExternalError Raw

/-- The codecs of the messages, and the conversions of their parts. Each may refuse
its argument, with an error that the light client wraps. -/
structure ProtoExternals (T : ExternalTypes) where
  clientStateCodec : Codec RawClientState
  consensusStateCodec : Codec RawConsensusState
  headerCodec : Codec (RawHeader T)
  finalizedHeaderMisbehaviourCodec : Codec (RawFinalizedHeaderMisbehaviour T)
  nextSyncCommitteeMisbehaviourCodec : Codec (RawNextSyncCommitteeMisbehaviour T)
  convertProtoToForkParameters : RawForkParameters → Except ExternalError ForkParameters
  fractionNew : U64 → U64 → Except ExternalError Fraction
  addressTryFrom : Bytes → Except ExternalError Address
  durationTryFrom : RawDuration → Except ExternalError Duration
  durationInto : Duration → RawDuration
  timeFromUnixTimestamp : Int64 → UInt32 → Except ExternalError Time
  timeFromUnixTimestampNanos : Nat → Except ExternalError Time
  publicKeyTryFrom : Bytes → Except ExternalError T.PublicKey
  publicKeyToVec : T.PublicKey → Bytes
  clientIdFromStr : String → Except ExternalError ClientId
  trustedSyncCommitteeTryFrom :
    T.ProtoTrustedSyncCommittee → Except ExternalError (TrustedSyncCommittee T)
  convertProtoToConsensusUpdate :
    T.ProtoConsensusUpdate → Except ExternalError (ConsensusUpdateInfo T)
  convertProtoToExecutionUpdate : T.ProtoExecutionUpdate → Except ExternalError ExecutionUpdateInfo
  accountUpdateTryFrom : T.ProtoAccountUpdate → Except ExternalError AccountUpdateInfo

/-- The encoders of the parts of evidence. Only the sender of a message calls them. -/
structure MessageEncoders (T : ExternalTypes) where
  trustedSyncCommitteeInto : TrustedSyncCommittee T → T.ProtoTrustedSyncCommittee
  convertConsensusUpdateToProto :
    ConsensusUpdateInfo T → Except ExternalError T.ProtoConsensusUpdate

/-- The verifiers of updates, evidence and proofs. Any of these functions may accept
or refuse anything; what a verification is worth is assumed where it is used. -/
structure Verifiers (T : ExternalTypes) where
  BELLATRIX_INDEX : Nat
  /-- It returns no error, but may abort. -/
  computeSyncCommitteePeriodAtSlot : LightClientContext → Slot → Outcome Empty SyncCommitteePeriod
  trustedSyncCommitteeValidate : TrustedSyncCommittee T → Except ExternalError Unit
  executionUpdateTimestamp :
    ExecutionUpdateInfo → LightClientContext → Slot → Except ExternalError Nat
  trustedConsensusStateNew :
    ConsensusState T → SyncCommittee T → Bool → Except ExternalError T.TrustedConsensusState
  validateUpdates : LightClientContext → T.TrustedConsensusState → ConsensusUpdateInfo T →
    ExecutionUpdateInfo → Except ExternalError Unit
  validateMisbehaviour : LightClientContext → T.TrustedConsensusState → Verifier.Misbehaviour T →
    Except ExternalError Unit
  verifyAccountStorage : H256 → Address → AccountUpdateInfo → Except ExternalError Unit
  validateStateTimestampWithinTrustingPeriod : Nat → Duration → Nat → Except ExternalError Unit
  validateHeaderTimestampNotFuture : Nat → Duration → Nat → Except ExternalError Unit
  computeSyncCommittees : LightClientContext → ConsensusState T → ConsensusUpdateInfo T →
    Except ExternalError (NewSyncCommittees T)
  verifyMembership : ClientState → ConsensusState T → String → Bytes → LcTypesHeight → Bytes →
    Except ExternalError H256
  verifyNonMembership : ClientState → ConsensusState T → String → LcTypesHeight → Bytes →
    Except ExternalError Unit
  genStateIdFromAny : Any → Any → Except ExternalError T.StateID

/-- Everything that is not under the control of the light client. -/
structure Externals (T : ExternalTypes) extends ProtoExternals T, Verifiers T

/-- Encoding into a growing buffer succeeds, and decoding inverts it. -/
structure Codec.Lawful {Raw : Type} (c : Codec Raw) : Prop where
  encode_total : ∀ raw, ∃ bytes, c.encode raw = .ok bytes
  decode_encode : ∀ raw bytes, c.encode raw = .ok bytes → c.decode bytes = .ok raw

/-- The bytes determine the encoded message. -/
def Codec.Injective {Raw : Type} (c : Codec Raw) : Prop :=
  ∀ raw raw' bytes, c.encode raw = .ok bytes → c.encode raw' = .ok bytes → raw = raw'

/-- A decoder that inverts the encoder separates what was encoded. -/
theorem Codec.Lawful.injective {Raw : Type} {c : Codec Raw} (h : c.Lawful) : c.Injective := by
  intro raw raw' bytes hRaw hRaw'
  have hDecode := h.decode_encode raw bytes hRaw
  rw [h.decode_encode raw' bytes hRaw'] at hDecode
  exact (Except.ok.inj hDecode).symm

variable {T : ExternalTypes}

/-- What the consensus state codec relies on: decoding inverts encoding on raw
messages, and instants and keys are converted without loss. -/
structure ProtoExternals.ConvertsConsensusStates (E : ProtoExternals T) : Prop where
  consensusState : E.consensusStateCodec.Lawful
  /-- Exactly the instants from the epoch on with less than a second of nanoseconds. -/
  time : ∀ seconds nanos t, E.timeFromUnixTimestamp seconds nanos = .ok t ↔
    0 ≤ seconds.toInt ∧ nanos.toNat < NANOS_PER_SECOND ∧
      (t.asUnixTimestampNanos : Int) = seconds.toInt * NANOS_PER_SECOND + nanos.toNat
  publicKey : ∀ key key', E.publicKeyTryFrom (E.publicKeyToVec key) = .ok key' → key' = key
  publicKey_decoded : ∀ bytes key, E.publicKeyTryFrom bytes = .ok key →
    E.publicKeyTryFrom (E.publicKeyToVec key) = .ok key
  publicKey_nil : ∀ key, E.publicKeyTryFrom [] ≠ .ok key

/-- What both state codecs rely on. The conversions of the other crates invert each
other on values that were decoded; nothing is asked of values that were not. -/
structure ProtoExternals.Lawful (E : ProtoExternals T) : Prop
    extends E.ConvertsConsensusStates where
  clientState : E.clientStateCodec.Lawful
  /-- Fork parameters are rebuilt from the versions, the epochs and the indices. -/
  forkParameters : ∀ raw fp raw', E.convertProtoToForkParameters raw = .ok fp →
    raw'.Represents fp → E.convertProtoToForkParameters raw' = .ok fp
  fraction : ∀ n d f, E.fractionNew n d = .ok f → f.numerator = n ∧ f.denominator = d
  address : ∀ bytes a, E.addressTryFrom bytes = .ok a → a.toList = bytes
  duration : ∀ raw d, E.durationTryFrom raw = .ok d → E.durationTryFrom (E.durationInto d) = .ok d

/-- What separates state ids: encoding succeeds, and no two encodings and no two
conversions of decoded values coincide. -/
structure ProtoExternals.Separating (E : ProtoExternals T) : Prop where
  clientState_total : ∀ raw, ∃ bytes, E.clientStateCodec.encode raw = .ok bytes
  clientState : E.clientStateCodec.Injective
  consensusState : E.consensusStateCodec.Injective
  duration : ∀ raw raw' d d', E.durationTryFrom raw = .ok d → E.durationTryFrom raw' = .ok d' →
    E.durationInto d = E.durationInto d' → d = d'
  publicKey : ∀ bytes bytes' key key', E.publicKeyTryFrom bytes = .ok key →
    E.publicKeyTryFrom bytes' = .ok key' → E.publicKeyToVec key = E.publicKeyToVec key' → key = key'

/-- Conversions that round trip merge nothing. -/
theorem ProtoExternals.Lawful.separating {E : ProtoExternals T} (hE : E.Lawful) : E.Separating where
  clientState_total := hE.clientState.encode_total
  clientState := hE.clientState.injective
  consensusState := hE.consensusState.injective
  duration raw raw' d d' h h' hEq := by
    have hInto := hE.duration raw d h
    rw [hEq, hE.duration raw' d' h', Except.ok.injEq] at hInto
    exact hInto.symm
  publicKey bytes bytes' key key' h h' hEq := by
    have hKey := hE.publicKey_decoded bytes key h
    rw [hEq, hE.publicKey_decoded bytes' key' h', Except.ok.injEq] at hKey
    exact hKey.symm

end EthereumElc
