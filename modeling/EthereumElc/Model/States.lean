import EthereumElc.Model.Messages

/-! The two states of a light client and their views for the external crates. -/
namespace EthereumElc

/-- The revision number of every height that the light client computes. -/
def ETHEREUM_CLIENT_REVISION_NUMBER : U64 := 0

/-- What a client is configured with when it is created, followed by the two fields
that later messages change. -/
structure ClientState where
  -- Verification parameters
  genesisValidatorsRoot : Root
  minSyncCommitteeParticipants : U64
  genesisTime : U64
  forkParameters : ForkParameters
  secondsPerSlot : U64
  slotsPerEpoch : Slot
  epochsPerSyncCommitteePeriod : Epoch
  ibcAddress : Address
  ibcCommitmentsSlot : H256
  trustLevel : Fraction
  trustingPeriod : Duration
  maxClockDrift : Duration
  -- State
  latestExecutionBlockNumber : U64
  frozenHeight : Option Height
  deriving DecidableEq

namespace ClientState

/-- The latest execution block, as a height. -/
def latestHeight (c : ClientState) : LcTypesHeight :=
  ⟨ETHEREUM_CLIENT_REVISION_NUMBER, c.latestExecutionBlockNumber⟩

/-- Erase the two fields that a state id does not cover. -/
def canonicalize (c : ClientState) : ClientState :=
  { c with latestExecutionBlockNumber := 0, frozenHeight := none }

/-- Frozen at any height, the height zero included. -/
def isFrozen (c : ClientState) : Bool := c.frozenHeight.isSome

/-- The only change that a misbehaviour makes. -/
def withFrozenHeight (c : ClientState) (h : Height) : ClientState :=
  { c with frozenHeight := some h }

/-- The context of a verification: the parameters of the chain, with the current
time in whole seconds. -/
def buildContext (c : ClientState) (currentTimestamp : Time) : LightClientContext where
  forkParameters := c.forkParameters
  secondsPerSlot := c.secondsPerSlot
  slotsPerEpoch := c.slotsPerEpoch
  epochsPerSyncCommitteePeriod := c.epochsPerSyncCommitteePeriod
  genesisTime := c.genesisTime
  genesisValidatorsRoot := c.genesisValidatorsRoot
  minSyncCommitteeParticipants := c.minSyncCommitteeParticipants.toNat
  trustLevel := c.trustLevel
  currentTimestamp := currentTimestamp.asUnixTimestampSecs

/-- The merge of the latest block number in `check_header_and_update_state`. -/
def withLatestBlock (c : ClientState) (blockNumber : U64) : ClientState :=
  if c.latestExecutionBlockNumber < blockNumber then
    { c with latestExecutionBlockNumber := blockNumber }
  else c

/-- Two client states with the same configuration agree on every field other
than the latest block number and the frozen height. -/
def SameConfig (c d : ClientState) : Prop := c.canonicalize = d.canonicalize

theorem SameConfig.refl (c : ClientState) : SameConfig c c := rfl

theorem SameConfig.symm {c d : ClientState} (h : SameConfig c d) : SameConfig d c := Eq.symm h

theorem SameConfig.trans {c d e : ClientState} (h : SameConfig c d) (h' : SameConfig d e) :
    SameConfig c e := Eq.trans h h'

/-- The same configuration, field by field. -/
theorem sameConfig_iff {c d : ClientState} : SameConfig c d ↔
    c.genesisValidatorsRoot = d.genesisValidatorsRoot ∧
    c.minSyncCommitteeParticipants = d.minSyncCommitteeParticipants ∧
    c.genesisTime = d.genesisTime ∧ c.forkParameters = d.forkParameters ∧
    c.secondsPerSlot = d.secondsPerSlot ∧ c.slotsPerEpoch = d.slotsPerEpoch ∧
    c.epochsPerSyncCommitteePeriod = d.epochsPerSyncCommitteePeriod ∧
    c.ibcAddress = d.ibcAddress ∧ c.ibcCommitmentsSlot = d.ibcCommitmentsSlot ∧
    c.trustLevel = d.trustLevel ∧ c.trustingPeriod = d.trustingPeriod ∧
    c.maxClockDrift = d.maxClockDrift := by
  simp [SameConfig, canonicalize]

/-- A client state is its configuration with a latest block number and a frozen height. -/
theorem SameConfig.eq_with {c d : ClientState} (h : SameConfig c d) :
    c = { d with
      latestExecutionBlockNumber := c.latestExecutionBlockNumber
      frozenHeight := c.frozenHeight } := by
  obtain ⟨h1, h2, h3, h4, h5, h6, h7, h8, h9, h10, h11, h12⟩ := sameConfig_iff.mp h
  cases c
  cases d
  simp_all

@[simp] theorem withLatestBlock_sameConfig (c : ClientState) (n : U64) :
    SameConfig (c.withLatestBlock n) c := by
  unfold withLatestBlock
  split <;> rfl

@[simp] theorem withFrozenHeight_sameConfig (c : ClientState) (h : Height) :
    SameConfig (c.withFrozenHeight h) c := rfl

@[simp] theorem withLatestBlock_frozenHeight (c : ClientState) (n : U64) :
    (c.withLatestBlock n).frozenHeight = c.frozenHeight := by
  unfold withLatestBlock
  split <;> rfl

@[simp] theorem withLatestBlock_isFrozen (c : ClientState) (n : U64) :
    (c.withLatestBlock n).isFrozen = c.isFrozen := by simp [isFrozen]

@[simp] theorem withFrozenHeight_isFrozen (c : ClientState) (h : Height) :
    (c.withFrozenHeight h).isFrozen = true := rfl

/-- The merged block number is the maximum of the old and the new one. -/
theorem withLatestBlock_eq (c : ClientState) (n : U64) : c.withLatestBlock n =
    { c with latestExecutionBlockNumber := max c.latestExecutionBlockNumber n } := by
  unfold withLatestBlock
  split_ifs with h
  · rw [max_eq_right h.le]
  · rw [max_eq_left (not_lt.mp h)]

/-- The verification context is a function of the configuration and the time. -/
theorem SameConfig.buildContext_eq {c d : ClientState} (h : SameConfig c d) (now : Time) :
    c.buildContext now = d.buildContext now := by
  obtain ⟨h1, h2, h3, h4, h5, h6, h7, -, -, h10, -, -⟩ := sameConfig_iff.mp h
  simp [buildContext, h1, h2, h3, h4, h5, h6, h7, h10]

end ClientState

variable {T : ExternalTypes}

/-- What a client trusts of a finalized slot: the storage root of its account, the
time of the block, and the aggregate keys of two sync committees. -/
structure ConsensusState (T : ExternalTypes) where
  slot : Slot
  storageRoot : H256
  timestamp : Time
  currentSyncCommittee : T.PublicKey
  nextSyncCommittee : T.PublicKey
  deriving DecidableEq

instance : Inhabited (ConsensusState T) := ⟨⟨0, default, Time.unixEpoch, default, default⟩⟩

namespace ConsensusState

/-- An update is relevant to a state of an earlier finalized slot. -/
def isRelevantUpdate (s : ConsensusState T) (updateFinalizedSlot : U64) : Bool :=
  s.slot < updateFinalizedSlot

end ConsensusState

end EthereumElc
