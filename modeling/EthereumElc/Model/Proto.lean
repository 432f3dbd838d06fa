import EthereumElc.Model.Messages
import Mathlib.Data.List.Forall2

/-! The messages of `elc.proto` as the proto compiler generates them, field by field,
with the messages of other packages that they embed. An embedded message is
optional, also where its absence is an error. -/
namespace EthereumElc

/-- The generalised indices of a fork, as seven numbers. -/
structure RawForkSpec where
  finalizedRootGindex : U64
  currentSyncCommitteeGindex : U64
  nextSyncCommitteeGindex : U64
  executionPayloadGindex : U64
  executionPayloadStateRootGindex : U64
  executionPayloadBlockNumberGindex : U64
  executionBlockHashGindex : U64
  deriving DecidableEq, Repr

structure RawFork where
  version : Bytes
  epoch : U64
  spec : Option RawForkSpec
  deriving DecidableEq, Repr

structure RawForkParameters where
  genesisForkVersion : Bytes
  forks : List RawFork
  deriving DecidableEq, Repr

structure RawFraction where
  numerator : U64
  denominator : U64
  deriving DecidableEq, Repr

/-- Seconds and nanoseconds may have any sign and any size here. -/
structure RawDuration where
  seconds : Int64
  nanos : Int32
  deriving DecidableEq, Repr

/-- As for a duration, the parts need not be in normal form. -/
structure RawTimestamp where
  seconds : Int64
  nanos : Int32
  deriving DecidableEq, Repr

structure RawHeight where
  revisionNumber : U64
  revisionHeight : U64
  deriving DecidableEq, Repr

structure RawClientState where
  genesisValidatorsRoot : Bytes
  minSyncCommitteeParticipants : U64
  genesisTime : U64
  forkParameters : Option RawForkParameters
  secondsPerSlot : U64
  slotsPerEpoch : U64
  epochsPerSyncCommitteePeriod : U64
  ibcAddress : Bytes
  ibcCommitmentsSlot : Bytes
  trustLevel : Option RawFraction
  trustingPeriod : Option RawDuration
  maxClockDrift : Option RawDuration
  latestExecutionBlockNumber : U64
  frozenHeight : Option RawHeight
  deriving DecidableEq, Repr

structure RawConsensusState where
  slot : U64
  storageRoot : Bytes
  timestamp : Option RawTimestamp
  currentSyncCommittee : Bytes
  nextSyncCommittee : Bytes
  deriving DecidableEq, Repr

/-- The fields of other packages are passed on as they come. -/
structure RawHeader (T : ExternalTypes) where
  trustedSyncCommittee : Option T.ProtoTrustedSyncCommittee
  consensusUpdate : Option T.ProtoConsensusUpdate
  executionUpdate : Option T.ProtoExecutionUpdate
  accountUpdate : Option T.ProtoAccountUpdate

structure RawFinalizedHeaderMisbehaviour (T : ExternalTypes) where
  clientId : String
  trustedSyncCommittee : Option T.ProtoTrustedSyncCommittee
  consensusUpdate1 : Option T.ProtoConsensusUpdate
  consensusUpdate2 : Option T.ProtoConsensusUpdate

structure RawNextSyncCommitteeMisbehaviour (T : ExternalTypes) where
  clientId : String
  trustedSyncCommittee : Option T.ProtoTrustedSyncCommittee
  consensusUpdate1 : Option T.ProtoConsensusUpdate
  consensusUpdate2 : Option T.ProtoConsensusUpdate

/-- What a raw fork says, field by field: the version bytes, the epoch, and the
seven indices of a present spec. -/
structure RawFork.Represents (raw : RawFork) (fork : ForkParameter) : Prop where
  version : raw.version = fork.version.toList
  epoch : raw.epoch = fork.epoch
  spec : ∃ s, raw.spec = some s ∧
    s.finalizedRootGindex = fork.spec.finalizedRootGindex ∧
    s.currentSyncCommitteeGindex = fork.spec.currentSyncCommitteeGindex ∧
    s.nextSyncCommitteeGindex = fork.spec.nextSyncCommitteeGindex ∧
    s.executionPayloadGindex = fork.spec.executionPayloadGindex ∧
    s.executionPayloadStateRootGindex = fork.spec.executionPayloadStateRootGindex ∧
    s.executionPayloadBlockNumberGindex = fork.spec.executionPayloadBlockNumberGindex ∧
    s.executionBlockHashGindex = fork.spec.executionBlockHashGindex

/-- The genesis version and the forks in order. -/
structure RawForkParameters.Represents (raw : RawForkParameters) (fp : ForkParameters) : Prop where
  genesisForkVersion : raw.genesisForkVersion = fp.genesisVersion.toList
  forks : List.Forall₂ RawFork.Represents raw.forks fp.forks

theorem RawFork.Represents.unique {raw : RawFork} {a b : ForkParameter}
    (ha : raw.Represents a) (hb : raw.Represents b) : a = b := by
  obtain ⟨sa, hsa, a1, a2, a3, a4, a5, a6, a7⟩ := ha.spec
  obtain ⟨sb, hsb, b1, b2, b3, b4, b5, b6, b7⟩ := hb.spec
  have hs : sa = sb := Option.some.inj (hsa.symm.trans hsb)
  subst hs
  obtain ⟨av, ae, as⟩ := a
  obtain ⟨bv, be, bs⟩ := b
  have hVersion : av = bv := FixedBytes.ext (ha.version.symm.trans hb.version)
  have hEpoch : ae = be := ha.epoch.symm.trans hb.epoch
  have hSpec : as = bs := by
    cases as
    cases bs
    simp_all
  rw [hVersion, hEpoch, hSpec]

/-- A raw list of forks represents at most one value. -/
theorem RawForkParameters.Represents.unique {raw : RawForkParameters} {a b : ForkParameters}
    (ha : raw.Represents a) (hb : raw.Represents b) : a = b := by
  have hUnique : Relator.RightUnique RawFork.Represents := fun _ _ _ => RawFork.Represents.unique
  have hForks : a.forks = b.forks := List.right_unique_forall₂' hUnique ha.forks hb.forks
  have hGenesis : a.genesisVersion = b.genesisVersion :=
    FixedBytes.ext (ha.genesisForkVersion.symm.trans hb.genesisForkVersion)
  cases a
  cases b
  simp_all

end EthereumElc
