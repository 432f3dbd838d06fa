import EthereumElc.Model.Types
import Mathlib.Data.Vector.Defs

/-! Data of the consensus and verifier crates that messages carry. The light
client reads few of these fields; the external verifiers read them all. -/
namespace EthereumElc

/-- What the enclave is compiled with: the size of a sync committee, and the
types of the external crates whose values the light client only passes on. -/
structure ExternalTypes where
  SYNC_COMMITTEE_SIZE : Nat
  PublicKey : Type
  decEqPublicKey : DecidableEq PublicKey
  defaultPublicKey : PublicKey
  StateID : Type
  TrustedConsensusState : Type
  ProtoTrustedSyncCommittee : Type
  ProtoConsensusUpdate : Type
  ProtoExecutionUpdate : Type
  ProtoAccountUpdate : Type

attribute [instance] ExternalTypes.decEqPublicKey

instance (T : ExternalTypes) : Inhabited T.PublicKey := ⟨T.defaultPublicKey⟩

/-- The header of a beacon block. The light client reads the slot, and compares
whole headers only when it looks at evidence. -/
structure BeaconBlockHeader where
  slot : Slot
  proposerIndex : U64
  parentRoot : Root
  stateRoot : Root
  bodyRoot : Root
  deriving DecidableEq

/-- The members of a sync committee, with the aggregate of their keys, which is all
that a consensus state keeps of them. -/
structure SyncCommittee (T : ExternalTypes) where
  pubkeys : Vector T.PublicKey T.SYNC_COMMITTEE_SIZE
  aggregatePubkey : T.PublicKey

/-- Who of the committee signed, and the signature. -/
structure SyncAggregate (T : ExternalTypes) where
  syncCommitteeBits : Vector Bool T.SYNC_COMMITTEE_SIZE
  syncCommitteeSignature : Bytes

/-- The sync committee a message trusts, with the height of the stored state
that vouches for it. -/
structure TrustedSyncCommittee (T : ExternalTypes) where
  height : LcTypesHeight
  syncCommittee : SyncCommittee T
  isNext : Bool

/-- A finality update: a header that the committee attested, the header that it
finalises, and the committee of the next period when it is part of the update. -/
structure ConsensusUpdateInfo (T : ExternalTypes) where
  attestedHeader : BeaconBlockHeader
  nextSyncCommittee : Option (SyncCommittee T × List H256)
  finalizedHeader : BeaconBlockHeader × List H256
  syncAggregate : SyncAggregate T
  signatureSlot : Slot
  finalizedExecutionRoot : H256
  finalizedExecutionBranch : List H256

def ConsensusUpdateInfo.finalizedBeaconHeader {T : ExternalTypes} (u : ConsensusUpdateInfo T) :
    BeaconBlockHeader := u.finalizedHeader.1

/-- The execution block of an update. The branches prove its fields to the consensus
update before Gloas; since then the RLP header is what is proved. -/
structure ExecutionUpdateInfo where
  stateRoot : H256
  stateRootBranch : List H256
  blockNumber : U64
  blockNumberBranch : List H256
  rlp : Bytes
  blockHash : H256
  blockHashBranch : List H256
  deriving DecidableEq

/-- A proof of the account that holds the commitments, and its storage root. -/
structure AccountUpdateInfo where
  accountProof : List Bytes
  accountStorageRoot : H256
  deriving DecidableEq

/-- The pair of keys that `compute_sync_committees` returns. -/
structure NewSyncCommittees (T : ExternalTypes) where
  currentSyncCommittee : T.PublicKey
  nextSyncCommittee : T.PublicKey

namespace Verifier

structure FinalizedHeaderMisbehaviour (T : ExternalTypes) where
  consensusUpdate1 : ConsensusUpdateInfo T
  consensusUpdate2 : ConsensusUpdateInfo T

structure NextSyncCommitteeMisbehaviour (T : ExternalTypes) where
  consensusUpdate1 : ConsensusUpdateInfo T
  consensusUpdate2 : ConsensusUpdateInfo T

inductive Misbehaviour (T : ExternalTypes) where
  | finalizedHeader (data : FinalizedHeaderMisbehaviour T)
  | nextSyncCommittee (data : NextSyncCommitteeMisbehaviour T)

end Verifier

/-- The chain parameters that the verifiers work with. -/
structure LightClientContext where
  forkParameters : ForkParameters
  secondsPerSlot : U64
  slotsPerEpoch : Slot
  epochsPerSyncCommitteePeriod : Epoch
  genesisTime : U64
  genesisValidatorsRoot : Root
  minSyncCommitteeParticipants : Nat
  trustLevel : Fraction
  currentTimestamp : U64
  deriving DecidableEq

/-- Integer division as the source has it: division by zero aborts. -/
def checkedDiv {ε : Type} (a b : U64) : Outcome ε U64 :=
  if b = 0 then .error (.abort "attempt to divide by zero") else .ok (a / b)

/-- The divisions that take a slot to its epoch, and the epoch to its sync committee
period. The first divisor that is zero aborts. -/
def LightClientContext.dividePeriod {ε : Type} (ctx : LightClientContext) (slot : Slot) :
    Outcome ε SyncCommitteePeriod := do
  let epoch ← checkedDiv slot ctx.slotsPerEpoch
  checkedDiv epoch ctx.epochsPerSyncCommitteePeriod

/-- With divisors that are not zero the divisions are those of the integers. -/
theorem LightClientContext.dividePeriod_eq {ε : Type} {ctx : LightClientContext}
    (hSlots : ctx.slotsPerEpoch ≠ 0) (hEpochs : ctx.epochsPerSyncCommitteePeriod ≠ 0) (slot : Slot) :
    (ctx.dividePeriod slot : Outcome ε SyncCommitteePeriod) =
      .ok (slot / ctx.slotsPerEpoch / ctx.epochsPerSyncCommitteePeriod) := by
  simp [dividePeriod, checkedDiv, hSlots, hEpochs]

end EthereumElc
