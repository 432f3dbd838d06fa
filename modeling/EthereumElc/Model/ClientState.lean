import EthereumElc.Model.Externals

/-! The client state: its initial check and its conversions to and from the
protobuf message and the typed bytes that the host stores. -/
namespace EthereumElc

variable {T : ExternalTypes} (E : Externals T)

def ETHEREUM_CLIENT_STATE_TYPE_URL : String := "/ibc.lightclients.ethereum.v1.ClientState"

/-- A fork version is sent as its four bytes. -/
def versionToBytes (version : Version) : Bytes := version.toList

/-- The raw message of a fork, with the generalised indices in the order of the definition. -/
def makeFork (version : Version) (epoch : U64) (spec : ForkSpec) : RawFork where
  version := versionToBytes version
  epoch := epoch
  spec := some {
    finalizedRootGindex := spec.finalizedRootGindex
    currentSyncCommitteeGindex := spec.currentSyncCommitteeGindex
    nextSyncCommitteeGindex := spec.nextSyncCommitteeGindex
    executionPayloadGindex := spec.executionPayloadGindex
    executionPayloadStateRootGindex := spec.executionPayloadStateRootGindex
    executionPayloadBlockNumberGindex := spec.executionPayloadBlockNumberGindex
    executionBlockHashGindex := spec.executionBlockHashGindex }

namespace ClientState

/-- The initial check, which runs when a client is created and never again. It
reports the first field that is unset. A zero commitments slot, a zero clock drift
and any frozen height are fine. -/
def validate (c : ClientState) : Result Unit :=
  if c.genesisValidatorsRoot = default then
    .error (.error (.uninitializedClientStateField "genesis_validators_root"))
  else if c.minSyncCommitteeParticipants = 0 then
    .error (.error (.uninitializedClientStateField "min_sync_committee_participants"))
  else if c.genesisTime = 0 then
    .error (.error (.uninitializedClientStateField "genesis_time"))
  else if c.forkParameters = default then
    .error (.error (.uninitializedClientStateField "fork_parameters"))
  else if c.forkParameters.forks.length ≤ E.BELLATRIX_INDEX then
    .error (.error .missingBellatrixFork)
  else if c.secondsPerSlot = 0 then
    .error (.error (.uninitializedClientStateField "seconds_per_slot"))
  else if c.slotsPerEpoch = 0 then
    .error (.error (.uninitializedClientStateField "slots_per_epoch"))
  else if c.epochsPerSyncCommitteePeriod = 0 then
    .error (.error (.uninitializedClientStateField "epochs_per_sync_committee_period"))
  else if c.ibcAddress = default then
    .error (.error (.uninitializedClientStateField "ibc_address"))
  else if c.trustLevel = default then
    .error (.error (.uninitializedClientStateField "trust_level"))
  else if c.trustingPeriod = default then
    .error (.error (.uninitializedClientStateField "trusting_period"))
  else if c.latestExecutionBlockNumber = 0 then
    .error (.error (.uninitializedClientStateField "latest_execution_block_number"))
  else .ok ()

/-- Decode a raw message. The lengths of the two hashes are checked before they are
copied, because copying a slice of another length aborts. -/
def tryFromRaw (value : RawClientState) : Result ClientState := do
  let rawForkParameters ← Outcome.okOr (.protoMissing "fork_parameters") value.forkParameters
  let forkParameters ←
    Outcome.lift .ethereumLightClientTypes (E.convertProtoToForkParameters rawForkParameters)
  let rawTrustLevel ← Outcome.okOr (.protoMissing "trust_level") value.trustLevel
  let frozenHeight := value.frozenHeight.map fun h => (⟨h.revisionNumber, h.revisionHeight⟩ : Height)
  Outcome.rejectIf (value.genesisValidatorsRoot.length ≠ 32) (.invalidRawClientState
    s!"invalid genesis_validators_root length: {value.genesisValidatorsRoot.length}")
  Outcome.rejectIf (value.ibcCommitmentsSlot.length ≠ 32) (.invalidRawClientState
    s!"invalid ibc_commitments_slot length: {value.ibcCommitmentsSlot.length}")
  let genesisValidatorsRoot ← H256.fromSlice value.genesisValidatorsRoot
  let ibcAddress ←
    Outcome.lift (fun e => .unexpectedStoreAddress e.message) (E.addressTryFrom value.ibcAddress)
  let ibcCommitmentsSlot ← H256.fromSlice value.ibcCommitmentsSlot
  let trustLevel ←
    Outcome.lift .verification (E.fractionNew rawTrustLevel.numerator rawTrustLevel.denominator)
  let rawTrustingPeriod ← Outcome.okOr .missingTrustingPeriod value.trustingPeriod
  let trustingPeriod ←
    Outcome.lift (fun _ => .missingTrustingPeriod) (E.durationTryFrom rawTrustingPeriod)
  let rawMaxClockDrift ← Outcome.okOr .negativeMaxClockDrift value.maxClockDrift
  let maxClockDrift ←
    Outcome.lift (fun _ => .negativeMaxClockDrift) (E.durationTryFrom rawMaxClockDrift)
  pure {
    genesisValidatorsRoot := genesisValidatorsRoot
    minSyncCommitteeParticipants := value.minSyncCommitteeParticipants
    genesisTime := value.genesisTime
    forkParameters := forkParameters
    secondsPerSlot := value.secondsPerSlot
    slotsPerEpoch := value.slotsPerEpoch
    epochsPerSyncCommitteePeriod := value.epochsPerSyncCommitteePeriod
    ibcAddress := ibcAddress
    ibcCommitmentsSlot := ibcCommitmentsSlot
    trustLevel := trustLevel
    trustingPeriod := trustingPeriod
    maxClockDrift := maxClockDrift
    latestExecutionBlockNumber := value.latestExecutionBlockNumber
    frozenHeight := frozenHeight }

/-- Encode a client state. It does not fail; what cannot be written is clamped by
the conversion of the durations. -/
def intoRaw (c : ClientState) : RawClientState where
  genesisValidatorsRoot := c.genesisValidatorsRoot.toList
  minSyncCommitteeParticipants := c.minSyncCommitteeParticipants
  genesisTime := c.genesisTime
  forkParameters := some {
    genesisForkVersion := versionToBytes c.forkParameters.genesisVersion
    forks := c.forkParameters.forks.map fun f => makeFork f.version f.epoch f.spec }
  secondsPerSlot := c.secondsPerSlot
  slotsPerEpoch := c.slotsPerEpoch
  epochsPerSyncCommitteePeriod := c.epochsPerSyncCommitteePeriod
  ibcAddress := c.ibcAddress.toList
  ibcCommitmentsSlot := c.ibcCommitmentsSlot.toList
  trustLevel := some ⟨c.trustLevel.numerator, c.trustLevel.denominator⟩
  trustingPeriod := some (E.durationInto c.trustingPeriod)
  maxClockDrift := some (E.durationInto c.maxClockDrift)
  latestExecutionBlockNumber := c.latestExecutionBlockNumber
  frozenHeight := c.frozenHeight.map fun h => ⟨h.revisionNumber, h.revisionHeight⟩

/-- Typed bytes are decoded only under the URL of a client state. -/
def tryFromAny (any : Any) : Result ClientState := do
  Outcome.rejectIf (any.typeUrl ≠ ETHEREUM_CLIENT_STATE_TYPE_URL)
    (.unknownClientStateType any.typeUrl)
  let raw ← Outcome.lift .protoDecode (E.clientStateCodec.decode any.value)
  tryFromRaw E raw

/-- Encode under the URL of a client state. -/
def tryIntoAny (c : ClientState) : Result Any := do
  let value ← Outcome.lift .protoEncode (E.clientStateCodec.encode (intoRaw E c))
  pure ⟨ETHEREUM_CLIENT_STATE_TYPE_URL, value⟩

/-- What a raw message must hold to decode to the given state, field by field. -/
structure Decodes (raw : RawClientState) (c : ClientState) : Prop where
  genesisValidatorsRoot : c.genesisValidatorsRoot.toList = raw.genesisValidatorsRoot
  minSyncCommitteeParticipants : c.minSyncCommitteeParticipants = raw.minSyncCommitteeParticipants
  genesisTime : c.genesisTime = raw.genesisTime
  forkParameters : ∃ r, raw.forkParameters = some r ∧
    E.convertProtoToForkParameters r = .ok c.forkParameters
  secondsPerSlot : c.secondsPerSlot = raw.secondsPerSlot
  slotsPerEpoch : c.slotsPerEpoch = raw.slotsPerEpoch
  epochsPerSyncCommitteePeriod : c.epochsPerSyncCommitteePeriod = raw.epochsPerSyncCommitteePeriod
  ibcAddress : E.addressTryFrom raw.ibcAddress = .ok c.ibcAddress
  ibcCommitmentsSlot : c.ibcCommitmentsSlot.toList = raw.ibcCommitmentsSlot
  trustLevel : ∃ r, raw.trustLevel = some r ∧
    E.fractionNew r.numerator r.denominator = .ok c.trustLevel
  trustingPeriod : ∃ r, raw.trustingPeriod = some r ∧ E.durationTryFrom r = .ok c.trustingPeriod
  maxClockDrift : ∃ r, raw.maxClockDrift = some r ∧ E.durationTryFrom r = .ok c.maxClockDrift
  latestExecutionBlockNumber : c.latestExecutionBlockNumber = raw.latestExecutionBlockNumber
  frozenHeight : c.frozenHeight =
    raw.frozenHeight.map fun h => (⟨h.revisionNumber, h.revisionHeight⟩ : Height)

/-- The values of a client state that the conversions of other crates take back
unchanged. It does not speak of the latest block number and the frozen height. -/
structure Encodable (c : ClientState) : Prop where
  forkParameters : ∀ raw, raw.Represents c.forkParameters →
    E.convertProtoToForkParameters raw = .ok c.forkParameters
  ibcAddress : E.addressTryFrom c.ibcAddress.toList = .ok c.ibcAddress
  trustLevel : E.fractionNew c.trustLevel.numerator c.trustLevel.denominator = .ok c.trustLevel
  trustingPeriod : E.durationTryFrom (E.durationInto c.trustingPeriod) = .ok c.trustingPeriod
  maxClockDrift : E.durationTryFrom (E.durationInto c.maxClockDrift) = .ok c.maxClockDrift

variable {E}

/-- The initial check passes exactly when every field that it looks at is set. The
commitments slot and the clock drift are not among them. -/
theorem validate_eq_ok {c : ClientState} : c.validate E = .ok () ↔
    c.genesisValidatorsRoot ≠ default ∧ c.minSyncCommitteeParticipants ≠ 0 ∧
    c.genesisTime ≠ 0 ∧ c.forkParameters ≠ default ∧
    E.BELLATRIX_INDEX < c.forkParameters.forks.length ∧ c.secondsPerSlot ≠ 0 ∧
    c.slotsPerEpoch ≠ 0 ∧ c.epochsPerSyncCommitteePeriod ≠ 0 ∧ c.ibcAddress ≠ default ∧
    c.trustLevel ≠ default ∧ c.trustingPeriod ≠ default ∧ c.latestExecutionBlockNumber ≠ 0 := by
  simp only [validate, Outcome.ite_error_eq_ok, Nat.not_le, ne_eq, and_true]

/-- The initial check reads the configuration and the latest block number, and
of the latter only whether it is zero. -/
theorem SameConfig.validate {c d : ClientState} (h : SameConfig c d) (hValid : d.validate E = .ok ())
    (hLatest : c.latestExecutionBlockNumber ≠ 0) : c.validate E = .ok () := by
  obtain ⟨h1, h2, h3, h4, h5, h6, h7, h8, -, h10, h11, -⟩ := sameConfig_iff.mp h
  rw [validate_eq_ok] at hValid ⊢
  rw [h1, h2, h3, h4, h5, h6, h7, h8, h10, h11]
  obtain ⟨v1, v2, v3, v4, v5, v6, v7, v8, v9, v10, v11, -⟩ := hValid
  exact ⟨v1, v2, v3, v4, v5, v6, v7, v8, v9, v10, v11, hLatest⟩

/-- The decoder succeeds exactly on the messages that hold the state. -/
theorem tryFromRaw_eq_ok {raw : RawClientState} {c : ClientState} :
    tryFromRaw E raw = .ok c ↔ Decodes E raw c := by
  simp only [tryFromRaw, Outcome.bind_eq_ok, Outcome.okOr_eq_ok, Outcome.rejectIf_eq_ok,
    Outcome.lift_eq_ok, H256.fromSlice_eq_ok, Outcome.pure_eq_ok]
  constructor
  · rintro ⟨rf, hrf, fp, hfp, rt, hrt, -, -, -, -, root, hRoot, address, hAddress, slot, hSlot,
      level, hLevel, rp, hrp, period, hPeriod, rd, hrd, drift, hDrift, rfl⟩
    exact ⟨hRoot, rfl, rfl, ⟨rf, hrf, hfp⟩, rfl, rfl, rfl, hAddress, hSlot, ⟨rt, hrt, hLevel⟩,
      ⟨rp, hrp, hPeriod⟩, ⟨rd, hrd, hDrift⟩, rfl, rfl⟩
  · rintro ⟨hRoot, h2, h3, ⟨rf, hrf, hfp⟩, h5, h6, h7, hAddress, hSlot, ⟨rt, hrt, hLevel⟩,
      ⟨rp, hrp, hPeriod⟩, ⟨rd, hrd, hDrift⟩, h13, h14⟩
    have hRootLength : ¬raw.genesisValidatorsRoot.length ≠ 32 := by
      rw [← hRoot, c.genesisValidatorsRoot.length_toList]
      simp
    have hSlotLength : ¬raw.ibcCommitmentsSlot.length ≠ 32 := by
      rw [← hSlot, c.ibcCommitmentsSlot.length_toList]
      simp
    refine ⟨rf, hrf, _, hfp, rt, hrt, (), hRootLength, (), hSlotLength, _, hRoot, _, hAddress, _,
      hSlot, _, hLevel, rp, hrp, _, hPeriod, rd, hrd, _, hDrift, ?_⟩
    rw [← h2, ← h3, ← h5, ← h6, ← h7, ← h13, ← h14]

/-- The URL is the first thing that must be right. -/
theorem tryFromAny_eq_ok {any : Any} {c : ClientState} : tryFromAny E any = .ok c ↔
    any.typeUrl = ETHEREUM_CLIENT_STATE_TYPE_URL ∧
      ∃ raw, E.clientStateCodec.decode any.value = .ok raw ∧ Decodes E raw c := by
  simp only [tryFromAny, Outcome.bind_eq_ok, Outcome.rejectIf_eq_ok, Outcome.lift_eq_ok,
    tryFromRaw_eq_ok, not_not]
  constructor
  · rintro ⟨-, hUrl, h⟩
    exact ⟨hUrl, h⟩
  · rintro ⟨hUrl, h⟩
    exact ⟨(), hUrl, h⟩

theorem tryIntoAny_eq_ok {any : Any} {c : ClientState} : tryIntoAny E c = .ok any ↔
    any.typeUrl = ETHEREUM_CLIENT_STATE_TYPE_URL ∧
      E.clientStateCodec.encode (intoRaw E c) = .ok any.value := by
  simp only [tryIntoAny, Outcome.bind_eq_ok, Outcome.lift_eq_ok, Outcome.pure_eq_ok]
  constructor
  · rintro ⟨value, hValue, rfl⟩
    exact ⟨rfl, hValue⟩
  · rintro ⟨hUrl, hValue⟩
    exact ⟨any.value, hValue, by rw [← hUrl]⟩

/-- No index of a fork is written in the place of another. -/
theorem makeFork_represents (f : ForkParameter) : (makeFork f.version f.epoch f.spec).Represents f :=
  ⟨rfl, rfl, _, rfl, rfl, rfl, rfl, rfl, rfl, rfl, rfl⟩

/-- The encoder writes every version, epoch and index where the decoder of the
other crate reads it. -/
theorem forkParameters_represents (fp : ForkParameters) :
    RawForkParameters.Represents
      ⟨versionToBytes fp.genesisVersion, fp.forks.map fun f => makeFork f.version f.epoch f.spec⟩
      fp := by
  refine ⟨rfl, ?_⟩
  rw [List.forall₂_map_left_iff]
  exact List.forall₂_same.mpr fun f _ => makeFork_represents f

/-- What was decoded can be encoded again without loss, whatever the message looked like. -/
theorem Decodes.encodable (hE : E.Lawful) {raw : RawClientState} {c : ClientState}
    (h : Decodes E raw c) : Encodable E c := by
  obtain ⟨rf, -, hfp⟩ := h.forkParameters
  obtain ⟨rt, -, hLevel⟩ := h.trustLevel
  obtain ⟨rp, -, hPeriod⟩ := h.trustingPeriod
  obtain ⟨rd, -, hDrift⟩ := h.maxClockDrift
  obtain ⟨hNumerator, hDenominator⟩ := hE.fraction _ _ _ hLevel
  refine ⟨fun raw' => hE.forkParameters rf _ raw' hfp, ?_, ?_, hE.duration _ _ hPeriod,
    hE.duration _ _ hDrift⟩
  · rw [hE.address _ _ h.ibcAddress]
    exact h.ibcAddress
  · rw [hNumerator, hDenominator]
    exact hLevel

/-- So a client state that was read from the store can be written back. -/
theorem encodable_of_tryFromAny (hE : E.Lawful) {any : Any} {c : ClientState}
    (h : tryFromAny E any = .ok c) : Encodable E c := by
  obtain ⟨-, raw, -, hDecodes⟩ := tryFromAny_eq_ok.mp h
  exact hDecodes.encodable hE

/-- The two fields that messages change are encoded as they are. -/
theorem SameConfig.encodable {c d : ClientState} (h : SameConfig c d) (hd : Encodable E d) :
    Encodable E c := by
  rw [h.eq_with]
  exact ⟨hd.forkParameters, hd.ibcAddress, hd.trustLevel, hd.trustingPeriod, hd.maxClockDrift⟩

/-- The raw message of an encodable state decodes to it, with the frozen height
absent, zero or any other. -/
theorem Encodable.decodes_intoRaw {c : ClientState} (h : Encodable E c) :
    Decodes E (intoRaw E c) c where
  genesisValidatorsRoot := rfl
  minSyncCommitteeParticipants := rfl
  genesisTime := rfl
  forkParameters := ⟨_, rfl, h.forkParameters _ (forkParameters_represents c.forkParameters)⟩
  secondsPerSlot := rfl
  slotsPerEpoch := rfl
  epochsPerSyncCommitteePeriod := rfl
  ibcAddress := h.ibcAddress
  ibcCommitmentsSlot := rfl
  trustLevel := ⟨_, rfl, h.trustLevel⟩
  trustingPeriod := ⟨_, rfl, h.trustingPeriod⟩
  maxClockDrift := ⟨_, rfl, h.maxClockDrift⟩
  latestExecutionBlockNumber := rfl
  frozenHeight := by
    cases hFrozen : c.frozenHeight <;> simp [intoRaw, hFrozen]

/-- An encodable state is read back from its own bytes. -/
theorem Encodable.tryFromAny_tryIntoAny (hCodec : E.clientStateCodec.Lawful) {c : ClientState}
    (h : Encodable E c) {any : Any} (hInto : tryIntoAny E c = .ok any) :
    tryFromAny E any = .ok c := by
  obtain ⟨hUrl, hEncode⟩ := tryIntoAny_eq_ok.mp hInto
  exact tryFromAny_eq_ok.mpr
    ⟨hUrl, _, hCodec.decode_encode _ _ hEncode, h.decodes_intoRaw⟩

/-- Encoding a client state does not fail. -/
theorem exists_tryIntoAny (hCodec : E.clientStateCodec.Lawful) (c : ClientState) :
    ∃ any, tryIntoAny E c = .ok any := by
  obtain ⟨bytes, hBytes⟩ := hCodec.encode_total (intoRaw E c)
  exact ⟨⟨ETHEREUM_CLIENT_STATE_TYPE_URL, bytes⟩, tryIntoAny_eq_ok.mpr ⟨rfl, hBytes⟩⟩

end ClientState

end EthereumElc
