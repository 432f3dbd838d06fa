import EthereumElc.Model.Externals

/-! What results assume of the other crates, apart from the round trips of the
conversions. Each assumption is a property of its own; none is in force unless
a result names it. -/
namespace EthereumElc

variable {T : ExternalTypes}

/-- The largest `i64`. -/
def I64_MAX : Nat := 9223372036854775807

/-- A protobuf duration has signed 64-bit seconds. A duration whose seconds fit is
read back as it was written, and no message is read as a longer one. Which messages
are refused, and how others are normalised, is left open. -/
structure ProtoExternals.ConvertsDurations (E : ProtoExternals T) : Prop where
  tryFrom_into : ∀ {d : Duration}, d.secs.toNat ≤ I64_MAX →
    E.durationTryFrom (E.durationInto d) = .ok d
  secs_le : ∀ {raw d}, E.durationTryFrom raw = .ok d → d.secs.toNat ≤ I64_MAX

namespace ProtoExternals.ConvertsDurations

variable {E : ProtoExternals T}

/-- A duration that was read is short enough to be written without a clamp. -/
theorem decoded (hE : E.ConvertsDurations) {raw : RawDuration} {d : Duration}
    (h : E.durationTryFrom raw = .ok d) : E.durationTryFrom (E.durationInto d) = .ok d :=
  hE.tryFrom_into (hE.secs_le h)

/-- The clamp merges no two durations that were read. -/
theorem eq_of_into_eq (hE : E.ConvertsDurations) {raw raw' : RawDuration} {d d' : Duration}
    (h : E.durationTryFrom raw = .ok d) (h' : E.durationTryFrom raw' = .ok d')
    (hEq : E.durationInto d = E.durationInto d') : d = d' := by
  have hDecoded := hE.decoded h
  rw [hEq, hE.decoded h', Except.ok.injEq] at hDecoded
  exact hDecoded.symm

end ProtoExternals.ConvertsDurations

/-- What the client state codec relies on, with the constructor that every value
of fork parameters comes from. The constructor may refuse any list of forks; what it
accepts, the conversion from a raw message accepts too. -/
structure ProtoExternals.ConvertsClientStates (E : ProtoExternals T)
    (forkParametersNew : Version → List ForkParameter → Except ExternalError ForkParameters) :
    Prop where
  clientState : E.clientStateCodec.Lawful
  durations : E.ConvertsDurations
  address : ∀ bytes a, E.addressTryFrom bytes = .ok a ↔ a.toList = bytes
  fraction : ∀ n d f, E.fractionNew n d = .ok f → f.numerator = n ∧ f.denominator = d
  built : ∀ v forks fp, forkParametersNew v forks = .ok fp → fp = ⟨v, forks⟩
  /-- Whatever the constructor accepts is rebuilt from its raw message. -/
  accepted : ∀ raw fp, raw.Represents fp → forkParametersNew fp.genesisVersion fp.forks = .ok fp →
    E.convertProtoToForkParameters raw = .ok fp
  /-- A rebuilt value has passed the constructor. -/
  constructed : ∀ raw fp, E.convertProtoToForkParameters raw = .ok fp →
    forkParametersNew fp.genesisVersion fp.forks = .ok fp

/-- The period of a slot is what the two divisions by the chain parameters give,
and is undefined where they are. -/
def Verifiers.ComputesPeriods (V : Verifiers T) : Prop :=
  ∀ ctx slot, V.computeSyncCommitteePeriodAtSlot ctx slot = ctx.dividePeriod slot

/-- The verifier rejects an update that is not relevant to the state that was
trusted, in any context. What else it rejects is left open. -/
def Verifiers.RejectsIrrelevant (V : Verifiers T) : Prop :=
  ∀ ctx s committee isNext trusted u executionUpdate,
    V.trustedConsensusStateNew s committee isNext = .ok trusted →
    s.isRelevantUpdate u.finalizedBeaconHeader.slot = false →
    V.validateUpdates ctx trusted u executionUpdate ≠ .ok ()

/-- The aggregate keys of new committees can be read back from their bytes. Nothing
is asked of keys that the verifier did not compute. -/
def Externals.AcceptsComputedKeys (E : Externals T) : Prop :=
  ∀ ctx s u keys, E.computeSyncCommittees ctx s u = .ok keys →
    (∃ key, E.publicKeyTryFrom (E.publicKeyToVec keys.currentSyncCommittee) = .ok key) ∧
    (∃ key, E.publicKeyTryFrom (E.publicKeyToVec keys.nextSyncCommittee) = .ok key)

/-- The two time checks compare exact nanoseconds: the trusting period of the
trusted state has not passed, and the header is ahead by less than the drift. At the
very end of the period, and of the drift, they fail. -/
structure Verifiers.ExactTimeChecks (V : Verifiers T) : Prop where
  withinTrustingPeriod : ∀ (now timestamp : Time) (trustingPeriod : Duration),
    V.validateStateTimestampWithinTrustingPeriod now.asUnixTimestampNanos trustingPeriod
        timestamp.asUnixTimestampNanos = .ok () ↔
      now.asUnixTimestampNanos < timestamp.asUnixTimestampNanos + trustingPeriod.asNanos
  notFuture : ∀ (now timestamp : Time) (maxClockDrift : Duration),
    V.validateHeaderTimestampNotFuture now.asUnixTimestampNanos maxClockDrift
        timestamp.asUnixTimestampNanos = .ok () ↔
      timestamp.asUnixTimestampNanos < now.asUnixTimestampNanos + maxClockDrift.asNanos

/-- The sync committee period of a slot, in the parameters of the client. -/
def ClientState.period (c : ClientState) (slot : Slot) : Nat :=
  (slot / c.slotsPerEpoch / c.epochsPerSyncCommitteePeriod).toNat

/-- The verifiers of a client follow a schedule of aggregate keys: what an accepted
update says of the next period is right, and keys rotate by one period. Only
contexts that the client itself builds count, so the periods are those of its own
parameters. Who signed an update is left open. -/
structure FollowsSchedule (V : Verifiers T) (c : ClientState) (S : Nat → T.PublicKey) : Prop where
  nextSyncCommittee : ∀ now trusted u executionUpdate committee branch,
    V.validateUpdates (c.buildContext now) trusted u executionUpdate = .ok () →
    u.nextSyncCommittee = some (committee, branch) →
    committee.aggregatePubkey = S (c.period u.finalizedBeaconHeader.slot + 1)
  rotation : ∀ now s u keys,
    V.computeSyncCommittees (c.buildContext now) s u = .ok keys →
    (c.period u.finalizedBeaconHeader.slot = c.period s.slot ∧
      keys = ⟨s.currentSyncCommittee, s.nextSyncCommittee⟩) ∨
    (c.period u.finalizedBeaconHeader.slot = c.period s.slot + 1 ∧
      ∃ committee branch, u.nextSyncCommittee = some (committee, branch) ∧
        keys = ⟨s.nextSyncCommittee, committee.aggregatePubkey⟩)

/-- A proof is checked against the configuration of the client, and its height
only against the latest one. -/
structure Verifiers.BoundsProofHeight (V : Verifiers T) : Prop where
  membership : ∀ c c' s path value proof committed n, c'.SameConfig c →
    n ≤ c'.latestExecutionBlockNumber →
    V.verifyMembership c s path value ⟨ETHEREUM_CLIENT_REVISION_NUMBER, n⟩ proof = .ok committed →
    V.verifyMembership c' s path value ⟨ETHEREUM_CLIENT_REVISION_NUMBER, n⟩ proof = .ok committed
  nonMembership : ∀ c c' s path proof n, c'.SameConfig c → n ≤ c'.latestExecutionBlockNumber →
    V.verifyNonMembership c s path ⟨ETHEREUM_CLIENT_REVISION_NUMBER, n⟩ proof = .ok () →
    V.verifyNonMembership c' s path ⟨ETHEREUM_CLIENT_REVISION_NUMBER, n⟩ proof = .ok ()

/-- A canonical chain: the state root of each execution block, the storage roots
under it, and the commitments that a storage trie holds. -/
structure CanonicalChain where
  stateRoot : U64 → H256
  storageRoot : H256 → Address → H256
  commitment : Bytes → H256
  content : H256 → H256 → String → Option H256

/-- The storage root of an account at a block number. -/
def CanonicalChain.storageRootAt (K : CanonicalChain) (n : U64) (address : Address) : H256 :=
  K.storageRoot (K.stateRoot n) address

/-- The verifiers of a client accept only what is on the chain: updates in the
contexts that the client builds, and proofs against any storage root. A context of
other parameters belongs to another chain, and nothing is asked of it. -/
structure FollowsChain (V : Verifiers T) (c : ClientState) (K : CanonicalChain) : Prop where
  updates : ∀ now trusted u executionUpdate,
    V.validateUpdates (c.buildContext now) trusted u executionUpdate = .ok () →
    executionUpdate.stateRoot = K.stateRoot executionUpdate.blockNumber
  account : ∀ root address accountUpdate,
    V.verifyAccountStorage root address accountUpdate = .ok () →
    accountUpdate.accountStorageRoot = K.storageRoot root address
  membership : ∀ c' s path value height proof committed,
    V.verifyMembership c' s path value height proof = .ok committed →
    K.content s.storageRoot c'.ibcCommitmentsSlot path = some (K.commitment value) ∧
      committed = K.commitment value
  nonMembership : ∀ c' s path height proof,
    V.verifyNonMembership c' s path height proof = .ok () →
    K.content s.storageRoot c'.ibcCommitmentsSlot path = none

/-- The blocks of the canonical chain: the timestamp of each execution block, and
the execution block that each finalized slot refers to. Before Gloas that is the
block of the slot itself; since then it is the parent of the slot's bid, so several
slots can refer to one block. -/
structure ExecutionBlocks where
  timestamp : U64 → Nat
  executionBlock : Slot → U64

/-- The verifiers of a client accept only blocks of the chain. What an accepted
execution update says of its time is the timestamp of its block, however it is found:
computed from the slot and the parameters of the client, or read from the block. -/
structure FollowsBlocks (V : Verifiers T) (c : ClientState) (B : ExecutionBlocks) : Prop where
  timestamp : ∀ now trusted u executionUpdate nanos,
    V.validateUpdates (c.buildContext now) trusted u executionUpdate = .ok () →
    V.executionUpdateTimestamp executionUpdate (c.buildContext now)
      u.finalizedBeaconHeader.slot = .ok nanos →
    nanos = B.timestamp executionUpdate.blockNumber
  executionBlock : ∀ now trusted u executionUpdate,
    V.validateUpdates (c.buildContext now) trusted u executionUpdate = .ok () →
    executionUpdate.blockNumber = B.executionBlock u.finalizedBeaconHeader.slot

/-- The verifiers share a check of consensus updates, and two updates that pass it
with different finalized headers of one slot are evidence. The check itself is
arbitrary, and other evidence may be accepted as well. -/
structure DetectsForks (V : Verifiers T)
    (check : LightClientContext → T.TrustedConsensusState → ConsensusUpdateInfo T → Prop) : Prop where
  updates : ∀ ctx trusted u executionUpdate,
    V.validateUpdates ctx trusted u executionUpdate = .ok () → check ctx trusted u
  evidence : ∀ ctx trusted u u', check ctx trusted u → check ctx trusted u' →
    u.finalizedBeaconHeader.slot = u'.finalizedBeaconHeader.slot →
    u.finalizedBeaconHeader ≠ u'.finalizedBeaconHeader →
    V.validateMisbehaviour ctx trusted (.finalizedHeader ⟨u, u'⟩) = .ok ()

end EthereumElc
