import EthereumElc.Host.Exec
import EthereumElc.Reference.Externals

/-! A relayer of the reference chain: the states that it creates clients with, the
messages that it sends, and when the light client accepts them. Its headers stay in
a sync committee period or cross into the next one. -/
namespace EthereumElc.Reference

open EthereumLightClient

/-- The forks up to Gloas, with the generalised indices of each, all from epoch 0. -/
def forkParameters : ForkParameters where
  genesisVersion := ⟨[0, 0, 0, 1], rfl⟩
  forks := [
    ⟨⟨[1, 0, 0, 1], rfl⟩, 0, ⟨105, 54, 55, 0, 0, 0, 0⟩⟩,
    ⟨⟨[2, 0, 0, 1], rfl⟩, 0, ⟨105, 54, 55, 25, 18, 22, 0⟩⟩,
    ⟨⟨[3, 0, 0, 1], rfl⟩, 0, ⟨105, 54, 55, 25, 18, 22, 0⟩⟩,
    ⟨⟨[4, 0, 0, 1], rfl⟩, 0, ⟨105, 54, 55, 25, 34, 38, 0⟩⟩,
    ⟨⟨[5, 0, 0, 1], rfl⟩, 0, ⟨169, 86, 87, 25, 34, 38, 0⟩⟩,
    ⟨⟨[6, 0, 0, 1], rfl⟩, 0, ⟨169, 86, 87, 25, 34, 38, 0⟩⟩,
    ⟨⟨[7, 0, 0, 1], rfl⟩, 0, ⟨735, 2945, 2946, 0, 0, 0, 2856⟩⟩]

theorem forkParameters_ordered : forkParametersNew forkParameters.genesisVersion
    forkParameters.forks = .ok forkParameters := if_pos (by decide)

def ibcAddress : Address := ⟨List.replicate 20 7, by simp⟩

/-- A client of the reference chain, with the parameters of the minimal preset. -/
def clientState (latest : U64) : ClientState where
  genesisValidatorsRoot := ⟨List.replicate 32 1, by simp⟩
  minSyncCommitteeParticipants := 1
  genesisTime := 1606824023
  forkParameters := forkParameters
  secondsPerSlot := 6
  slotsPerEpoch := 8
  epochsPerSyncCommitteePeriod := 8
  ibcAddress := ibcAddress
  ibcCommitmentsSlot := default
  trustLevel := ⟨2, 3⟩
  trustingPeriod := Duration.fromSecs 1209600
  maxClockDrift := Duration.fromSecs 60
  latestExecutionBlockNumber := latest
  frozenHeight := none

theorem clientState_sameConfig (n k : U64) : (clientState n).SameConfig (clientState k) := rfl

/-- Every field survives its encoding. -/
theorem clientState_encodable (n : U64) : (clientState n).Encodable externals where
  forkParameters _ h := convertProtoToForkParameters_of_represents h forkParameters_ordered
  ibcAddress := fixedBytes_toList EthereumElc.Reference.ibcAddress
  trustLevel := rfl
  trustingPeriod := by
    have hSecs : (Duration.fromSecs 1209600).secs.toNat ≤ I64_MAX := by decide
    exact durationTryFrom_durationInto hSecs
  maxClockDrift := by
    have hSecs : (Duration.fromSecs 60).secs.toNat ≤ I64_MAX := by decide
    exact durationTryFrom_durationInto hSecs

/-- A client passes its own validation when it starts above block 0. -/
theorem clientState_valid {n : U64} (h : n ≠ 0) : (clientState n).validate externals = .ok () :=
  (clientState_sameConfig n 1).validate (by decide) h

/-- Every slot of a client of the reference chain is one of Gloas. -/
theorem isGloas_of_sameConfig {c : ClientState} {n : U64} (h : c.SameConfig (clientState n))
    (now : Time) (slot : Slot) : isGloas (c.buildContext now) slot = true := by
  have hEpoch (epoch : Epoch) : (0 : Epoch) ≤ epoch := UInt64.zero_le
  rw [h.buildContext_eq]
  simp [isGloas, ClientState.buildContext, clientState, forkParameters, GLOAS_INDEX, hEpoch]

/-- The time of a block, for the blocks before the year 10000. -/
def blockTime (n : U64) : Time :=
  if h : blocks.timestamp n ≤ MAX_UNIX_TIMESTAMP_NANOS then ⟨blocks.timestamp n, h⟩
  else Time.unixEpoch

/-- The time of a block is made of its timestamp. -/
theorem timeOfNanos_timestamp {n : U64} (h : blocks.timestamp n ≤ MAX_UNIX_TIMESTAMP_NANOS) :
    timeOfNanos (blocks.timestamp n) = .ok (blockTime n) := by
  rw [timeOfNanos, blockTime, dif_pos h, dif_pos h]

/-- The state of the reference chain at a finalized slot of a period. -/
def consensusStateIn (period : Nat) (slot : Slot) : ConsensusState types where
  slot := slot
  storageRoot := chain.storageRootAt (blocks.executionBlock slot) ibcAddress
  timestamp := blockTime (blocks.executionBlock slot)
  currentSyncCommittee := scheduleKey period
  nextSyncCommittee := scheduleKey (period + 1)

/-- Most of the runs stay in the first period. -/
def consensusState (slot : Slot) : ConsensusState types := consensusStateIn 0 slot

def clientAny (c : ClientState) : Any :=
  ⟨ETHEREUM_CLIENT_STATE_TYPE_URL, clientStateFormat.encode (c.intoRaw externals)⟩

def consensusAny (s : ConsensusState types) : Any :=
  ⟨ETHEREUM_CONSENSUS_STATE_TYPE_URL, consensusStateFormat.encode (s.intoRaw externals)⟩

/-- A client of the reference chain is decoded from its bytes. -/
theorem tryFromAny_clientAny {c : ClientState} {n : U64} (h : c.SameConfig (clientState n)) :
    ClientState.tryFromAny externals (clientAny c) = .ok c :=
  (h.encodable (clientState_encodable n)).tryFromAny_tryIntoAny externals_lawful.clientState rfl

theorem tryFromAny_consensusAny (s : ConsensusState types) :
    ConsensusState.tryFromAny externals (consensusAny s) = .ok s :=
  ConsensusState.tryFromAny_of_keys externals_lawful.toConvertsConsensusStates rfl
    ⟨_, fixedBytes_toList _⟩ ⟨_, fixedBytes_toList _⟩

def stateId (c : ClientState) (s : ConsensusState types) : types.StateID :=
  (clientAny c.canonicalize, consensusAny s)

theorem genStateId_eq (c : ClientState) (s : ConsensusState types) :
    genStateId externals c s = .ok (stateId c s) := rfl

/-- A client is created with any valid state, also with one that is not of the chain. -/
theorem creates {n : U64} (hBlock : n ≠ 0) {s : ConsensusState types} (h : s.validate = .ok ()) :
    Creates externals (clientAny (clientState n)) (consensusAny s) (clientState n) s
      (stateId (clientState n) s) :=
  ⟨tryFromAny_clientAny (ClientState.SameConfig.refl _), clientState_valid hBlock, rfl,
    tryFromAny_consensusAny s, h, rfl⟩

/-- The header of a finalized slot, trusting the state at a block number in some
period. A header that crosses into the next period is signed by the next committee
of the trusted state, and announces the one after it. The proposer tells apart the
headers of a fork. -/
def headerFrom (period : Nat) (crosses : Bool) (trusted : U64) (slot : Slot) (proposer : U64) :
    Header types where
  trustedSyncCommittee := ⟨⟨0, trusted⟩,
    committeeOf (scheduleKey (period + crosses.toNat)) (scheduleKey (period + crosses.toNat)),
    crosses⟩
  consensusUpdate := {
    attestedHeader := ⟨slot + 2, proposer, default, default, default⟩
    nextSyncCommittee :=
      if crosses then some (committeeOf (scheduleKey (period + 2)) (scheduleKey (period + 2)), [])
      else none
    finalizedHeader := (⟨slot, proposer, default, default, default⟩, [])
    syncAggregate := Reference.syncAggregate
    signatureSlot := slot + 3
    finalizedExecutionRoot := default
    finalizedExecutionBranch := [] }
  executionUpdate := {
    stateRoot := stateRoot (blocks.executionBlock slot)
    stateRootBranch := []
    blockNumber := blocks.executionBlock slot
    blockNumberBranch := []
    rlp := blockRlp (blocks.executionBlock slot)
    blockHash := default
    blockHashBranch := [] }
  accountUpdate := ⟨[], chain.storageRootAt (blocks.executionBlock slot) ibcAddress⟩

def header (trusted : U64) (slot : Slot) (proposer : U64) : Header types :=
  headerFrom 0 false trusted slot proposer

def committeeMessage (period : Nat) (crosses : Bool) (trusted : U64) :
    TrustedSyncCommitteeMessage where
  trustedHeight := some ⟨0, trusted⟩
  syncCommittee := some ⟨(scheduleKey (period + crosses.toNat)).toList,
    (scheduleKey (period + crosses.toNat)).toList⟩
  isNext := crosses

def beaconHeaderMessage (slot : Slot) (proposer : U64) : BeaconBlockHeaderMessage :=
  ⟨slot, proposer, (default : H256).toList, (default : H256).toList, (default : H256).toList⟩

def consensusUpdateMessage (period : Nat) (crosses : Bool) (slot : Slot) (proposer : U64) :
    ConsensusUpdateMessage where
  attestedHeader := some (beaconHeaderMessage (slot + 2) proposer)
  nextSyncCommittee :=
    if crosses then some ⟨(scheduleKey (period + 2)).toList, (scheduleKey (period + 2)).toList⟩
    else none
  finalizedHeader := some (beaconHeaderMessage slot proposer)
  signatureSlot := slot + 3

/-- A header as the relayer sends it. -/
def headerAnyFrom (period : Nat) (crosses : Bool) (trusted : U64) (slot : Slot) (proposer : U64) :
    Any where
  typeUrl := ETHEREUM_HEADER_TYPE_URL
  value := headerFormat.encode {
    trustedSyncCommittee := some (committeeMessage period crosses trusted)
    consensusUpdate := some (consensusUpdateMessage period crosses slot proposer)
    executionUpdate := some ⟨(stateRoot (blocks.executionBlock slot)).toList,
      blocks.executionBlock slot, blockRlp (blocks.executionBlock slot)⟩
    accountUpdate := some
      ⟨(chain.storageRootAt (blocks.executionBlock slot) ibcAddress).toList⟩ }

def headerAny (trusted : U64) (slot : Slot) (proposer : U64) : Any :=
  headerAnyFrom 0 false trusted slot proposer

theorem codec_decode_encode {Raw : Type} (format : Protobuf.Format Raw) (raw : Raw) :
    (codec format).decode (format.encode raw) = .ok raw :=
  (codec_lawful format).decode_encode raw _ rfl

theorem trustedSyncCommitteeTryFrom_message (period : Nat) (crosses : Bool) (trusted : U64)
    (slot : Slot) (proposer : U64) :
    externals.trustedSyncCommitteeTryFrom (committeeMessage period crosses trusted) =
      .ok (headerFrom period crosses trusted slot proposer).trustedSyncCommittee := by
  simp [externals, protoExternals, trustedSyncCommitteeTryFrom, committeeMessage, syncCommittee,
    headerFrom, bind, Except.bind, pure, Except.pure]

theorem convertProtoToConsensusUpdate_message (period : Nat) (crosses : Bool) (trusted : U64)
    (slot : Slot) (proposer : U64) :
    externals.convertProtoToConsensusUpdate (consensusUpdateMessage period crosses slot proposer) =
      .ok (headerFrom period crosses trusted slot proposer).consensusUpdate := by
  cases crosses <;>
    simp [externals, protoExternals, convertProtoToConsensusUpdate, consensusUpdateMessage,
      beaconHeaderMessage, beaconBlockHeader, syncCommittee, headerFrom, bind, Except.bind, pure,
      Except.pure]

/-- The message of a header is decoded to it. -/
theorem tryFromAny_headerAnyFrom (period : Nat) (crosses : Bool) (trusted : U64) (slot : Slot)
    (proposer : U64) :
    ClientMessage.tryFromAny externals (headerAnyFrom period crosses trusted slot proposer) =
      .ok (.header (headerFrom period crosses trusted slot proposer)) := by
  have hUrl : (headerAnyFrom period crosses trusted slot proposer).typeUrl =
    ETHEREUM_HEADER_TYPE_URL := rfl
  have hDecode : externals.headerCodec.decode
      (headerAnyFrom period crosses trusted slot proposer).value = .ok _ :=
    codec_decode_encode headerFormat _
  have hExecution : externals.convertProtoToExecutionUpdate
      ⟨(stateRoot (blocks.executionBlock slot)).toList, blocks.executionBlock slot,
        blockRlp (blocks.executionBlock slot)⟩ =
      .ok (headerFrom period crosses trusted slot proposer).executionUpdate := by
    simp [externals, protoExternals, convertProtoToExecutionUpdate, headerFrom, bind, Except.bind,
      pure, Except.pure]
  have hAccount : externals.accountUpdateTryFrom
      ⟨(chain.storageRootAt (blocks.executionBlock slot) ibcAddress).toList⟩ =
      .ok (headerFrom period crosses trusted slot proposer).accountUpdate := by
    simp [externals, protoExternals, accountUpdateTryFrom, headerFrom, bind, Except.bind, pure,
      Except.pure]
  have hHeader : Header.tryFromAny externals (headerAnyFrom period crosses trusted slot proposer) =
      .ok (headerFrom period crosses trusted slot proposer) := by
    rw [Header.tryFromAny, if_pos hUrl, Header.decodeHeader, hDecode, Outcome.lift_ok,
      Outcome.ok_bind, Header.tryFromRaw]
    simp only [Outcome.okOr_some, Outcome.ok_bind,
      trustedSyncCommitteeTryFrom_message period crosses trusted slot proposer,
      convertProtoToConsensusUpdate_message period crosses trusted slot proposer, hExecution,
      hAccount, Outcome.lift_ok]
    rfl
  rw [ClientMessage.tryFromAny, if_pos hUrl, hHeader]
  rfl

theorem tryFromAny_headerAny (trusted : U64) (slot : Slot) (proposer : U64) :
    ClientMessage.tryFromAny externals (headerAny trusted slot proposer) =
      .ok (.header (header trusted slot proposer)) :=
  tryFromAny_headerAnyFrom 0 false trusted slot proposer

/-- A misbehaviour of two proposers at one finalized slot. -/
def misbehaviour (clientId : ClientId) (trusted : U64) (slot : Slot) (proposer proposer' : U64) :
    Misbehaviour types where
  clientId := clientId
  trustedSyncCommittee := (header trusted slot proposer).trustedSyncCommittee
  data := .finalizedHeader ⟨(header trusted slot proposer).consensusUpdate,
    (header trusted slot proposer').consensusUpdate⟩

def misbehaviourAny (clientId : ClientId) (trusted : U64) (slot : Slot) (proposer proposer' : U64) :
    Any where
  typeUrl := ETHEREUM_FINALIZED_HEADER_MISBEHAVIOUR_TYPE_URL
  value := finalizedHeaderMisbehaviourFormat.encode {
    clientId := clientId.asStr
    trustedSyncCommittee := some (committeeMessage 0 false trusted)
    consensusUpdate1 := some (consensusUpdateMessage 0 false slot proposer)
    consensusUpdate2 := some (consensusUpdateMessage 0 false slot proposer') }

theorem tryFromAny_misbehaviourAny {clientId : ClientId} (hId : clientId.asStr ≠ "") (trusted : U64)
    (slot : Slot) (proposer proposer' : U64) :
    ClientMessage.tryFromAny externals (misbehaviourAny clientId trusted slot proposer proposer') =
      .ok (.misbehaviour (misbehaviour clientId trusted slot proposer proposer')) := by
  have hUrl : (misbehaviourAny clientId trusted slot proposer proposer').typeUrl =
    ETHEREUM_FINALIZED_HEADER_MISBEHAVIOUR_TYPE_URL := rfl
  have hNotHeader : ETHEREUM_FINALIZED_HEADER_MISBEHAVIOUR_TYPE_URL ≠ ETHEREUM_HEADER_TYPE_URL := by
    decide
  have hDecode : externals.finalizedHeaderMisbehaviourCodec.decode
      (misbehaviourAny clientId trusted slot proposer proposer').value = .ok _ :=
    codec_decode_encode finalizedHeaderMisbehaviourFormat _
  have hClientId : externals.clientIdFromStr clientId.asStr = .ok clientId := if_neg hId
  have hMisbehaviour : Misbehaviour.tryFromAny externals
      (misbehaviourAny clientId trusted slot proposer proposer') =
      .ok (misbehaviour clientId trusted slot proposer proposer') := by
    rw [Misbehaviour.tryFromAny, if_pos hUrl, Misbehaviour.decodeFinalizedHeaderMisbehaviour,
      hDecode, Outcome.lift_ok, Outcome.ok_bind, Misbehaviour.tryFromRawFinalizedHeader,
      Misbehaviour.tryFromFields]
    simp only [Outcome.okOr_some, Outcome.ok_bind, hClientId,
      trustedSyncCommitteeTryFrom_message 0 false trusted slot proposer,
      convertProtoToConsensusUpdate_message 0 false trusted slot, Outcome.lift_ok]
    rfl
  rw [ClientMessage.tryFromAny, hUrl, if_neg hNotHeader, if_pos (.inl rfl), hMisbehaviour]
  rfl

/-- The trusted slot and the finalized slot of a header that is accepted at a host
time: they are in order and in the right periods, and both time checks pass. -/
def AcceptableFrom (period : Nat) (crosses : Bool) (now : Time) (trusted slot : Slot) : Prop :=
  trusted < slot ∧ periodAtSlot ((clientState 0).buildContext now) trusted = period ∧
    periodAtSlot ((clientState 0).buildContext now) slot = period + crosses.toNat ∧
    blocks.executionBlock slot ≠ 0 ∧
    blocks.timestamp (blocks.executionBlock slot) ≤ MAX_UNIX_TIMESTAMP_NANOS ∧
    now.asUnixTimestampNanos <
      (blockTime (blocks.executionBlock trusted)).asUnixTimestampNanos +
        (clientState 0).trustingPeriod.asNanos ∧
    (blockTime (blocks.executionBlock slot)).asUnixTimestampNanos <
      now.asUnixTimestampNanos + (clientState 0).maxClockDrift.asNanos

instance (period : Nat) (crosses : Bool) (now : Time) (trusted slot : Slot) :
    Decidable (AcceptableFrom period crosses now trusted slot) :=
  inferInstanceAs (Decidable (_ ∧ _ ∧ _ ∧ _ ∧ _ ∧ _ ∧ _))

/-- Such slots in the first period. -/
abbrev Acceptable (now : Time) (trusted slot : Slot) : Prop := AcceptableFrom 0 false now trusted slot

/-- A header is accepted against the state of its trusted slot, whichever height it
names. It keeps the keys of that state, or rotates them when it crosses. -/
theorem acceptsHeaderFrom {period : Nat} {crosses : Bool} {now : Time} {trusted slot : Slot}
    (h : AcceptableFrom period crosses now trusted slot) {c : ClientState} {n : U64}
    (hSame : c.SameConfig (clientState n)) (k proposer : U64) :
    c.AcceptsHeader externals now (consensusStateIn period trusted)
      (headerFrom period crosses k slot proposer) (blockTime (blocks.executionBlock slot))
      ⟨scheduleKey (period + crosses.toNat), scheduleKey (period + crosses.toNat + 1)⟩ := by
  obtain ⟨hLt, hTrusted, hSlot, hBlock, hTime, hPeriod, hDrift⟩ := h
  suffices hAccepts : (clientState 0).AcceptsHeader externals now (consensusStateIn period trusted)
      (headerFrom period crosses k slot proposer) (blockTime (blocks.executionBlock slot))
      ⟨scheduleKey (period + crosses.toNat), scheduleKey (period + crosses.toNat + 1)⟩ from
    hAccepts.of_sameConfig hSame
  have hTrustedState : trustedConsensusStateNew (consensusStateIn period trusted)
      (headerFrom period crosses k slot proposer).trustedSyncCommittee.syncCommittee crosses =
      .ok (trusted, scheduleKey (period + crosses.toNat)) := by
    cases crosses <;> exact if_pos rfl
  have hSchedule : onSchedule ((clientState 0).buildContext now)
      (headerFrom period crosses k slot proposer).consensusUpdate = true := by
    cases crosses with
    | false => rfl
    | true => exact decide_eq_true (congrArg (fun p => scheduleKey (p + 1)) hSlot).symm
  have hUpdates : externals.validateUpdates ((clientState 0).buildContext now)
      (trusted, scheduleKey (period + crosses.toNat))
      (headerFrom period crosses k slot proposer).consensusUpdate
      (headerFrom period crosses k slot proposer).executionUpdate = .ok () :=
    accept_eq_ok.mpr ⟨hLt, hSchedule, rfl, rfl, fun _ => rfl⟩
  have hTimestamp := executionUpdateTimestamp_of_rlp
    (isGloas_of_sameConfig (clientState_sameConfig 0 0) now slot)
    (rfl : (headerFrom period crosses k slot proposer).executionUpdate.rlp = _)
  have hKeys : computeSyncCommittees ((clientState 0).buildContext now)
      (consensusStateIn period trusted) (headerFrom period crosses k slot proposer).consensusUpdate =
      .ok ⟨scheduleKey (period + crosses.toNat), scheduleKey (period + crosses.toNat + 1)⟩ := by
    cases crosses with
    | false => exact if_pos (hSlot.trans hTrusted.symm)
    | true =>
        have hNext : periodAtSlot ((clientState 0).buildContext now) slot =
            periodAtSlot ((clientState 0).buildContext now) trusted + 1 := by
          rw [hSlot, hTrusted]
          rfl
        have hNe : periodAtSlot ((clientState 0).buildContext now) slot ≠
            periodAtSlot ((clientState 0).buildContext now) trusted := by omega
        exact (if_neg hNe).trans (if_pos hNext)
  exact {
    validate := Header.validate_eq_ok.mpr ⟨rfl, hBlock⟩
    timestamp := Header.timestamp_eq_ok.mpr ⟨_, hTimestamp, timeOfNanos_timestamp hTime⟩
    updates := ⟨_, hTrustedState, hUpdates⟩
    account := accept_eq_ok.mpr rfl
    withinTrustingPeriod := validateStateTimestampWithinTrustingPeriod_eq_ok.mpr hPeriod
    notFuture := validateHeaderTimestampNotFuture_eq_ok.mpr hDrift
    keys := hKeys }

theorem acceptsHeader {now : Time} {trusted slot : Slot} (h : Acceptable now trusted slot)
    {c : ClientState} {n : U64} (hSame : c.SameConfig (clientState n)) (k proposer : U64) :
    c.AcceptsHeader externals now (consensusState trusted) (header k slot proposer)
      (blockTime (blocks.executionBlock slot)) ⟨scheduleKey 0, scheduleKey 1⟩ :=
  acceptsHeaderFrom h hSame k proposer

/-- The headers of two proposers differ, and are relevant, so they are evidence. -/
theorem acceptsMisbehaviour {now : Time} {trusted slot : Slot} (h : Acceptable now trusted slot)
    {proposer proposer' : U64} (hNe : proposer ≠ proposer') {c : ClientState} {n : U64}
    (hSame : c.SameConfig (clientState n)) (clientId : ClientId) (k : U64) :
    c.AcceptsMisbehaviour externals now clientId (consensusState trusted)
      (misbehaviour clientId k slot proposer proposer') := by
  have hHeader := acceptsHeader h hSame k proposer
  have hFork : (header k slot proposer).consensusUpdate.finalizedBeaconHeader ≠
      (header k slot proposer').consensusUpdate.finalizedBeaconHeader :=
    fun hEq => hNe (congrArg BeaconBlockHeader.proposerIndex hEq)
  have hTrustedState : trustedConsensusStateNew (consensusState trusted)
      (misbehaviour clientId k slot proposer proposer').trustedSyncCommittee.syncCommittee false =
      .ok (trusted, scheduleKey 0) := if_pos rfl
  exact {
    validate := rfl
    clientId := rfl
    evidence := ⟨(trusted, scheduleKey 0), hTrustedState,
      externals_detectsForks.evidence _ _ _ _ h.1 h.1 rfl hFork⟩
    withinTrustingPeriod := hHeader.withinTrustingPeriod }

/-- The answer to the header of a slot. -/
def updateDataFrom (period : Nat) (crosses : Bool) (c : ClientState) (k : U64) (trusted slot : Slot)
    (proposer : U64) : UpdateStateData types where
  newAnyClientState := clientAny (c.withLatestBlock (blocks.executionBlock slot))
  newAnyConsensusState := consensusAny (consensusStateIn (period + crosses.toNat) slot)
  height := (headerFrom period crosses k slot proposer).height
  message := updateMessage c (headerFrom period crosses k slot proposer)
    (consensusStateIn period trusted) (consensusStateIn (period + crosses.toNat) slot)
    (stateId c (consensusStateIn period trusted))
    (stateId c (consensusStateIn (period + crosses.toNat) slot))
  prove := true

def updateData (c : ClientState) (k : U64) (trusted slot : Slot) (proposer : U64) :
    UpdateStateData types := updateDataFrom 0 false c k trusted slot proposer

/-- An accepted header is answered with the new states, and their ids are posted. -/
theorem updatesFrom {ctx : HostClientReader} {clientId : ClientId} {period : Nat} {crosses : Bool}
    {trusted slot : Slot} (h : AcceptableFrom period crosses ctx.hostTimestamp trusted slot)
    {c : ClientState} {n k : U64} (hSame : c.SameConfig (clientState n)) (proposer : U64)
    (hReads : Reads externals ctx clientId ⟨0, k⟩ c (consensusStateIn period trusted)) :
    Updates externals ctx clientId (headerFrom period crosses k slot proposer) c
      (consensusStateIn period trusted) (consensusStateIn (period + crosses.toNat) slot)
      (updateDataFrom period crosses c k trusted slot proposer) where
  reads := hReads
  accepts := ⟨_, _, acceptsHeaderFrom h hSame k proposer, rfl⟩
  message := ⟨_, _, genStateId_eq _ _, genStateId_eq _ _, rfl⟩
  newAnyClientState := rfl
  newAnyConsensusState := rfl
  height := rfl
  prove := rfl

theorem updates {ctx : HostClientReader} {clientId : ClientId} {trusted slot : Slot}
    (h : Acceptable ctx.hostTimestamp trusted slot) {c : ClientState} {n k : U64}
    (hSame : c.SameConfig (clientState n)) (proposer : U64)
    (hReads : Reads externals ctx clientId ⟨0, k⟩ c (consensusState trusted)) :
    Updates externals ctx clientId (header k slot proposer) c (consensusState trusted)
      (consensusState slot) (updateData c k trusted slot proposer) :=
  updatesFrom h hSame proposer hReads

/-- A relayed header is accepted by a client that holds the state it trusts. -/
theorem exec_headerAnyFrom {store : Store} {now : Time} {clientId : ClientId} {period : Nat}
    {crosses : Bool} {trusted slot : Slot} (h : AcceptableFrom period crosses now trusted slot)
    {c : ClientState} {n k : U64} (hSame : c.SameConfig (clientState n)) (proposer : U64)
    (hReads : Reads externals (store.reader now) clientId ⟨0, k⟩ c
      (consensusStateIn period trusted)) :
    exec externals store
        ⟨now, .updateClient clientId (headerAnyFrom period crosses k slot proposer)⟩ =
      (store.applyUpdate clientId (updateDataFrom period crosses c k trusted slot proposer),
        .updated (updateDataFrom period crosses c k trusted slot proposer)) :=
  exec_updated.mpr ⟨_, tryFromAny_headerAnyFrom _ _ _ _ _,
    updateState_eq_ok.mpr ⟨_, _, _, updatesFrom h hSame proposer hReads⟩, rfl⟩

theorem exec_headerAny {store : Store} {now : Time} {clientId : ClientId} {trusted slot : Slot}
    (h : Acceptable now trusted slot) {c : ClientState} {n k : U64}
    (hSame : c.SameConfig (clientState n)) (proposer : U64)
    (hReads : Reads externals (store.reader now) clientId ⟨0, k⟩ c (consensusState trusted)) :
    exec externals store ⟨now, .updateClient clientId (headerAny k slot proposer)⟩ =
      (store.applyUpdate clientId (updateData c k trusted slot proposer),
        .updated (updateData c k trusted slot proposer)) :=
  exec_headerAnyFrom h hSame proposer hReads

/-- The state that a relayed header leaves is read back at its height. -/
theorem applyUpdate_readsFrom (period : Nat) (crosses : Bool) {c : ClientState} {n : U64}
    (hSame : c.SameConfig (clientState n)) (hFrozen : c.isFrozen = false) (store : Store) (now : Time)
    (clientId : ClientId) (k : U64) (trusted slot : Slot) (proposer : U64) :
    Reads externals
      ((store.applyUpdate clientId (updateDataFrom period crosses c k trusted slot proposer)).reader
        now) clientId ⟨0, blocks.executionBlock slot⟩
      (c.withLatestBlock (blocks.executionBlock slot))
      (consensusStateIn (period + crosses.toNat) slot) where
  clientState := ⟨_, Store.reader_clientState_eq_ok.mpr (Function.update_self ..),
    tryFromAny_clientAny ((ClientState.withLatestBlock_sameConfig _ _).trans hSame)⟩
  notFrozen := (ClientState.withLatestBlock_isFrozen _ _).trans hFrozen
  consensusState := ⟨_, Store.reader_consensusState_eq_ok.mpr (by
    rw [Store.applyUpdate_consensusState, Function.update_self]
    exact Function.update_self ..), tryFromAny_consensusAny _⟩

theorem applyUpdate_reads {c : ClientState} {n : U64} (hSame : c.SameConfig (clientState n))
    (hFrozen : c.isFrozen = false) (store : Store) (now : Time) (clientId : ClientId) (k : U64)
    (trusted slot : Slot) (proposer : U64) :
    Reads externals ((store.applyUpdate clientId (updateData c k trusted slot proposer)).reader now)
      clientId ⟨0, blocks.executionBlock slot⟩ (c.withLatestBlock (blocks.executionBlock slot))
      (consensusState slot) :=
  applyUpdate_readsFrom 0 false hSame hFrozen store now clientId k trusted slot proposer

/-- The answer to the evidence of a fork. -/
def misbehaviourData (c : ClientState) (clientId : ClientId) (k : U64) (trusted slot : Slot)
    (proposer proposer' : U64) : MisbehaviourData types where
  newAnyClientState := clientAny (c.withFrozenHeight ⟨0, k⟩)
  message := misbehaviourMessage c (consensusState trusted) ⟨0, k⟩
    (stateId c (consensusState trusted)) (misbehaviourAny clientId k slot proposer proposer')

/-- Accepted evidence freezes the client at the height that it trusts. -/
theorem punishes {ctx : HostClientReader} {clientId : ClientId} {trusted slot : Slot}
    (h : Acceptable ctx.hostTimestamp trusted slot) {proposer proposer' : U64}
    (hNe : proposer ≠ proposer') {c : ClientState} {n k : U64} (hSame : c.SameConfig (clientState n))
    (hReads : Reads externals ctx clientId ⟨0, k⟩ c (consensusState trusted)) :
    Punishes externals ctx clientId (misbehaviourAny clientId k slot proposer proposer')
      (misbehaviour clientId k slot proposer proposer') c (consensusState trusted)
      (misbehaviourData c clientId k trusted slot proposer proposer') where
  reads := hReads
  accepts := acceptsMisbehaviour h hNe hSame clientId k
  newAnyClientState := rfl
  message := ⟨_, genStateId_eq _ _, rfl⟩

/-- The evidence of a fork is accepted by a client that holds the state it trusts. -/
theorem exec_misbehaviourAny {store : Store} {now : Time} {clientId : ClientId}
    (hId : clientId.asStr ≠ "") {trusted slot : Slot} (h : Acceptable now trusted slot)
    {proposer proposer' : U64} (hNe : proposer ≠ proposer') {c : ClientState} {n k : U64}
    (hSame : c.SameConfig (clientState n))
    (hReads : Reads externals (store.reader now) clientId ⟨0, k⟩ c (consensusState trusted)) :
    exec externals store
        ⟨now, .updateClient clientId (misbehaviourAny clientId k slot proposer proposer')⟩ =
      (store.applyMisbehaviour clientId
        (misbehaviourData c clientId k trusted slot proposer proposer'),
        .misbehaved (misbehaviourData c clientId k trusted slot proposer proposer')) :=
  exec_misbehaved.mpr ⟨_, tryFromAny_misbehaviourAny hId k slot proposer proposer',
    submitMisbehaviour_eq_ok.mpr ⟨_, _, punishes h hNe hSame hReads⟩, rfl⟩

/-- The store after a creation at a block number in an empty store. -/
def createdStore (clientId : ClientId) (n : U64) (s : ConsensusState types) : Store :=
  (Store.empty.putClientState clientId (clientAny (clientState n))).putConsensusState clientId
    ⟨0, n⟩ (consensusAny s)

def createRequest (now : Time) (clientId : ClientId) (n : U64) (s : ConsensusState types) : Request :=
  ⟨now, .createClient clientId (clientAny (clientState n)) (consensusAny s)⟩

def createResult (n : U64) (s : ConsensusState types) : CreateClientResult types :=
  creationResult (clientAny (clientState n)) (clientState n) s (stateId (clientState n) s)

theorem exec_createRequest {n : U64} (hBlock : n ≠ 0) {s : ConsensusState types}
    (h : s.validate = .ok ()) (now : Time) (clientId : ClientId) :
    exec externals Store.empty (createRequest now clientId n s) =
      (createdStore clientId n s, .created (createResult n s)) := by
  have hResult := createClient_eq_ok.mpr ⟨_, _, _, creates hBlock h, rfl⟩
  simp only [exec, createRequest, hResult]
  rfl

theorem createdStore_stored (clientId : ClientId) (n : U64) (s : ConsensusState types) :
    (createdStore clientId n s).consensusState clientId ⟨0, n⟩ = some (consensusAny s) := by
  simp [createdStore, Store.putConsensusState]

theorem createdStore_reads (now : Time) (clientId : ClientId) (n : U64) (s : ConsensusState types) :
    Reads externals ((createdStore clientId n s).reader now) clientId ⟨0, n⟩ (clientState n) s where
  clientState := ⟨_, Store.reader_clientState_eq_ok.mpr (by
    simp [createdStore, Store.putConsensusState, Store.putClientState]),
    tryFromAny_clientAny (ClientState.SameConfig.refl _)⟩
  notFrozen := rfl
  consensusState := ⟨_, Store.reader_consensusState_eq_ok.mpr (createdStore_stored clientId n s),
    tryFromAny_consensusAny s⟩

/-- A relayed membership proof is accepted when the trie holds the value. -/
theorem exec_verifyMembership {store : Store} {now : Time} {clientId : ClientId} {height : Height}
    {c : ClientState} {s : ConsensusState types}
    (hReads : Reads externals (store.reader now) clientId height c s) {path : String} {value : Bytes}
    (hContent : content s.storageRoot c.ibcCommitmentsSlot path = some (commitment value)) :
    exec externals store ⟨now, .verifyMembership clientId [] path value height []⟩ =
      (store, .membership ⟨⟨[], path, some (commitment value), height, stateId c s⟩⟩) := by
  have hResult : verifyMembership externals (store.reader now) clientId [] path value height [] =
      .ok ⟨⟨[], path, some (commitment value), height, stateId c s⟩⟩ :=
    verifyMembership_eq_ok.mpr
      ⟨c, s, hReads, commitment value, stateId c s, if_pos hContent, genStateId_eq c s, rfl⟩
  simp only [exec, hResult]

/-! A client that was created with block 1 and has followed the chain to block 2. -/

def relayed : ClientId := ⟨"ethereum-0"⟩

/-- The host time of the examples: the payload of block 3 has just been revealed. -/
def relayTime : Time := blockTime 3

def relayedTrace : Transition.Trace Request (Response types) :=
  [(⟨relayTime, .updateClient relayed (headerAny 1 4 0)⟩,
      .updated (updateData (clientState 1) 1 2 4 0)),
    (createRequest relayTime relayed 1 (consensusState 2),
      .created (createResult 1 (consensusState 2)))]

def relayedStore : Store :=
  (createdStore relayed 1 (consensusState 2)).applyUpdate relayed
    (updateData (clientState 1) 1 2 4 0)

theorem consensusState_two_valid : (consensusState 2).validate = .ok () :=
  ConsensusState.validate_eq_ok.mpr
    ⟨by decide, by decide, scheduleKey_ne_default 0, scheduleKey_ne_default 1⟩

/-- A state that no block of the chain has, at the slot of a state of the chain. -/
def offChain : ConsensusState types := { consensusState 2 with storageRoot := default }

theorem offChain_valid : offChain.validate = .ok () :=
  ConsensusState.validate_eq_ok.mpr
    ⟨by decide, by decide, scheduleKey_ne_default 0, scheduleKey_ne_default 1⟩

theorem acceptable_four : Acceptable relayTime 2 4 := by decide

theorem relayed_created :
    exec externals Store.empty (createRequest relayTime relayed 1 (consensusState 2)) =
      (createdStore relayed 1 (consensusState 2), .created (createResult 1 (consensusState 2))) :=
  exec_createRequest (by decide) consensusState_two_valid relayTime relayed

theorem relayedStore_step : exec externals (createdStore relayed 1 (consensusState 2))
    ⟨relayTime, .updateClient relayed (headerAny 1 4 0)⟩ =
      (relayedStore, .updated (updateData (clientState 1) 1 2 4 0)) :=
  exec_headerAny acceptable_four (clientState_sameConfig 1 1) 0 (createdStore_reads _ _ _ _)

theorem relayedStore_run : Transition.Run (machine externals) relayedTrace relayedStore :=
  steps_exec (steps_exec (.zero _) relayed_created) relayedStore_step

/-- The relayed client holds block 2, at any host time. -/
theorem relayedStore_reads (now : Time) :
    Reads externals (relayedStore.reader now) relayed ⟨0, 2⟩ (clientState 2) (consensusState 4) :=
  applyUpdate_reads (clientState_sameConfig 1 1) rfl _ now relayed 1 2 4 0

theorem acceptable_six : Acceptable relayTime 4 6 := by decide

/-- The header of block 3, answered in the relayed store. -/
def nextEvent : Event types :=
  (⟨relayTime, .updateClient relayed (headerAny 2 6 0)⟩,
    .updated (updateData (clientState 2) 2 4 6 0))

theorem relayedStore_next : exec externals relayedStore nextEvent.1 =
    (relayedStore.applyUpdate relayed (updateData (clientState 2) 2 4 6 0), nextEvent.2) :=
  exec_headerAny acceptable_six (clientState_sameConfig 2 2) 0 (relayedStore_reads relayTime)

end EthereumElc.Reference
