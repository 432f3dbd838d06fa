import EthereumElc.Model.Externals

/-! A header update and its checks. -/
namespace EthereumElc

variable {T : ExternalTypes} (E : Externals T)

def ETHEREUM_HEADER_TYPE_URL : String := "/ibc.lightclients.ethereum.v1.Header"

/-- A header is four updates that prove one another: a committee that the client
trusts, a finalized slot signed by it, the execution block of the slot, and the
account in it. -/
structure Header (T : ExternalTypes) where
  trustedSyncCommittee : TrustedSyncCommittee T
  consensusUpdate : ConsensusUpdateInfo T
  executionUpdate : ExecutionUpdateInfo
  accountUpdate : AccountUpdateInfo

namespace Header

/-- The height that a header posts to. -/
def height (header : Header T) : Height :=
  ⟨ETHEREUM_CLIENT_REVISION_NUMBER, header.executionUpdate.blockNumber⟩

/-- The height of the stored state that a header is checked against. -/
def trustedHeight (header : Header T) : Height := toLcpHeight header.trustedSyncCommittee.height

/-- The slot that orders headers. Heights are block numbers and may repeat. -/
def finalizedSlot (header : Header T) : Slot := header.consensusUpdate.finalizedBeaconHeader.slot

/-- What is checked of a header before any verification. -/
def validate (header : Header T) : Result Unit := do
  Outcome.lift .ethereumLightClientTypes
    (E.trustedSyncCommitteeValidate header.trustedSyncCommittee)
  Outcome.rejectIf (header.executionUpdate.blockNumber = 0) .zeroBlockNumber

/-- The timestamp of the execution block that `executionUpdate` describes. -/
def timestamp (header : Header T) (ctx : LightClientContext) : Result Time := do
  let nanos ← Outcome.lift .ethereumLightClientTypes (E.executionUpdateTimestamp
    header.executionUpdate ctx header.consensusUpdate.finalizedBeaconHeader.slot)
  Outcome.lift .time (E.timeFromUnixTimestampNanos nanos)

/-- All four fields must be present before any of them is converted. -/
def tryFromRaw (value : RawHeader T) : Result (Header T) := do
  let trustedSyncCommittee ←
    Outcome.okOr (.protoMissing "trusted_sync_committee") value.trustedSyncCommittee
  let consensusUpdate ← Outcome.okOr (.protoMissing "consensus_update") value.consensusUpdate
  let executionUpdate ← Outcome.okOr (.protoMissing "execution_update") value.executionUpdate
  let accountUpdate ← Outcome.okOr (.protoMissing "account_update") value.accountUpdate
  let trustedSyncCommittee ← Outcome.lift .ethereumLightClientTypes
    (E.trustedSyncCommitteeTryFrom trustedSyncCommittee)
  let consensusUpdate ← Outcome.lift .ethereumLightClientTypes
    (E.convertProtoToConsensusUpdate consensusUpdate)
  let executionUpdate ← Outcome.lift .ethereumLightClientTypes
    (E.convertProtoToExecutionUpdate executionUpdate)
  let accountUpdate ← Outcome.lift .ethereumLightClientTypes (E.accountUpdateTryFrom accountUpdate)
  pure ⟨trustedSyncCommittee, consensusUpdate, executionUpdate, accountUpdate⟩

/-- Decode the bytes of a header. -/
def decodeHeader (bytes : Bytes) : Result (Header T) := do
  let raw ← Outcome.lift .protoDecode (E.headerCodec.decode bytes)
  tryFromRaw E raw

/-- Typed bytes are decoded only under the URL of a header. -/
def tryFromAny (raw : Any) : Result (Header T) :=
  if raw.typeUrl = ETHEREUM_HEADER_TYPE_URL then decodeHeader E raw.value
  else .error (.error (.unknownHeaderType raw.typeUrl))

variable {E}

/-- Block zero is refused, so no state is ever posted under it. -/
theorem validate_eq_ok {header : Header T} : header.validate E = .ok () ↔
    E.trustedSyncCommitteeValidate header.trustedSyncCommittee = .ok () ∧
      header.executionUpdate.blockNumber ≠ 0 := by
  simp only [validate, Outcome.bind_eq_ok, Outcome.lift_eq_ok, Outcome.rejectIf_eq_ok, ne_eq]
  constructor
  · rintro ⟨⟨⟩, hCommittee, hBlock⟩
    exact ⟨hCommittee, hBlock⟩
  · rintro ⟨hCommittee, hBlock⟩
    exact ⟨(), hCommittee, hBlock⟩

/-- The timestamp is computed in the context and must be a valid host time. -/
theorem timestamp_eq_ok {header : Header T} {ctx : LightClientContext} {time : Time} :
    header.timestamp E ctx = .ok time ↔ ∃ nanos,
      E.executionUpdateTimestamp header.executionUpdate ctx header.finalizedSlot = .ok nanos ∧
      E.timeFromUnixTimestampNanos nanos = .ok time := by
  simp only [timestamp, Outcome.bind_eq_ok, Outcome.lift_eq_ok, finalizedSlot]

end Header

end EthereumElc
