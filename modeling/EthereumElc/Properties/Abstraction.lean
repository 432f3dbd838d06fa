import EthereumElc.Reference.Relayer

/-! A state id is all that matters of a client: it separates every configuration
and every consensus state, and two unfrozen clients with one state id check,
attest and punish alike. -/
namespace EthereumElc

open EthereumLightClient

variable {T : ExternalTypes} {E : Externals T}

/-- Decoded states have one id exactly when the consensus states are equal and the
clients agree on every field but the latest block number and the frozen height. The
hash is assumed to be free of collisions; nothing is said of a real hash beyond
that, and nothing of states that no bytes decode to. -/
theorem genStateId_eq_iff (hE : E.Separating) (hHash : E.CollisionFree) (hIds : E.GeneratesIds)
    {anyClient anyClient' anyConsensus anyConsensus' : Any} {c c' : ClientState}
    {s s' : ConsensusState T} (hc : ClientState.tryFromAny E anyClient = .ok c)
    (hc' : ClientState.tryFromAny E anyClient' = .ok c')
    (hs : ConsensusState.tryFromAny E anyConsensus = .ok s)
    (hs' : ConsensusState.tryFromAny E anyConsensus' = .ok s') :
    genStateId E c s = genStateId E c' s' ↔ s = s' ∧
      c.genesisValidatorsRoot = c'.genesisValidatorsRoot ∧
      c.minSyncCommitteeParticipants = c'.minSyncCommitteeParticipants ∧
      c.genesisTime = c'.genesisTime ∧ c.forkParameters = c'.forkParameters ∧
      c.secondsPerSlot = c'.secondsPerSlot ∧ c.slotsPerEpoch = c'.slotsPerEpoch ∧
      c.epochsPerSyncCommitteePeriod = c'.epochsPerSyncCommitteePeriod ∧
      c.ibcAddress = c'.ibcAddress ∧ c.ibcCommitmentsSlot = c'.ibcCommitmentsSlot ∧
      c.trustLevel = c'.trustLevel ∧ c.trustingPeriod = c'.trustingPeriod ∧
      c.maxClockDrift = c'.maxClockDrift := by
  rw [← ClientState.sameConfig_iff]
  constructor
  · intro hEq
    obtain ⟨id, hId⟩ := hIds.exists_genStateId c s
    obtain ⟨hSame, hState⟩ :=
      eq_of_genStateId_eq hE hHash hc hc' hs hs' hId (hEq ▸ hId)
    exact ⟨hState, hSame⟩
  · rintro ⟨rfl, hSame⟩
    exact hSame.genStateId_eq s

section Relayed

open Reference

/-- The latest block number is not covered by an id. The state of another slot is,
whatever the latest block number is. -/
theorem relayed_genStateId_eq_iff :
    genStateId externals (clientState 1) (consensusState 2) =
        genStateId externals (clientState 5) (consensusState 2) ∧
      genStateId externals (clientState 1) (consensusState 2) ≠
        genStateId externals (clientState 5) (consensusState 4) := by
  have hIff (slot : Slot) := genStateId_eq_iff protoExternals_separating externals_collisionFree
    externals_generatesIds (tryFromAny_clientAny (clientState_sameConfig 1 1))
    (tryFromAny_clientAny (clientState_sameConfig 5 5)) (tryFromAny_consensusAny (consensusState 2))
    (tryFromAny_consensusAny (consensusState slot))
  constructor
  · exact (hIff 2).mpr ⟨rfl, ClientState.sameConfig_iff.mp (clientState_sameConfig 1 5)⟩
  · intro hEq
    have hSlot : (2 : U64) = 4 := congrArg ConsensusState.slot ((hIff 4).mp hEq).1
    exact absurd hSlot (by decide)

end Relayed

/-- Two clients that no header, misbehaviour, host time or message tells apart. -/
structure Indistinguishable (E : Externals T) (c c' : ClientState) (s s' : ConsensusState T) :
    Prop where
  header_accepted : ∀ now header,
    (∃ result, c.checkHeaderAndUpdateState E now s header = .ok result) ↔
      ∃ result, c'.checkHeaderAndUpdateState E now s' header = .ok result
  header_result : ∀ now header d d' u u',
    c.checkHeaderAndUpdateState E now s header = .ok (d, u) →
    c'.checkHeaderAndUpdateState E now s' header = .ok (d', u') →
    u = u' ∧ d = { d' with latestExecutionBlockNumber := d.latestExecutionBlockNumber } ∧
      genStateId E d u = genStateId E d' u'
  update_accepted : ∀ ctx ctx' clientId header, ctx.hostTimestamp = ctx'.hostTimestamp →
    Reads E ctx clientId header.trustedHeight c s →
    Reads E ctx' clientId header.trustedHeight c' s' →
    ((∃ data, updateState E ctx clientId header = .ok data) ↔
      ∃ data, updateState E ctx' clientId header = .ok data)
  message : ∀ ctx ctx' clientId header data data', ctx.hostTimestamp = ctx'.hostTimestamp →
    Reads E ctx clientId header.trustedHeight c s →
    Reads E ctx' clientId header.trustedHeight c' s' →
    updateState E ctx clientId header = .ok data →
    updateState E ctx' clientId header = .ok data' →
    data.message = data'.message ∧ data.height = data'.height
  misbehaviour_accepted : ∀ now clientId misbehaviour,
    (∃ result, c.checkMisbehaviourAndUpdateState E now clientId s misbehaviour = .ok result) ↔
      ∃ result, c'.checkMisbehaviourAndUpdateState E now clientId s' misbehaviour = .ok result

section SameConfig

variable {c c' : ClientState} {s : ConsensusState T}

/-- Acceptance of a header depends on the configuration only. -/
theorem checkHeader_accepted_of_sameConfig (hSame : c'.SameConfig c) {now : Time}
    {header : Header T} (h : ∃ result, c.checkHeaderAndUpdateState E now s header = .ok result) :
    ∃ result, c'.checkHeaderAndUpdateState E now s header = .ok result := by
  obtain ⟨result, hResult⟩ := h
  obtain ⟨time, keys, hAccepts, -⟩ := ClientState.checkHeaderAndUpdateState_eq_ok.mp hResult
  exact ⟨_, ClientState.checkHeaderAndUpdateState_eq_ok.mpr
    ⟨time, keys, hAccepts.of_sameConfig hSame, rfl⟩⟩

/-- So does acceptance of evidence. Whether the client is frozen is checked before,
when its states are read. -/
theorem checkMisbehaviour_accepted_of_sameConfig (hSame : c'.SameConfig c) {now : Time}
    {clientId : ClientId} {misbehaviour : Misbehaviour T}
    (h : ∃ result, c.checkMisbehaviourAndUpdateState E now clientId s misbehaviour = .ok result) :
    ∃ result, c'.checkMisbehaviourAndUpdateState E now clientId s misbehaviour = .ok result := by
  obtain ⟨result, hResult⟩ := h
  obtain ⟨hAccepts, -⟩ := ClientState.checkMisbehaviourAndUpdateState_eq_ok.mp hResult
  exact ⟨_, ClientState.checkMisbehaviourAndUpdateState_eq_ok.mpr
    ⟨hAccepts.of_sameConfig hSame, rfl⟩⟩

/-- The time and the keys that a header is accepted with are computed from the
configuration, the trusted state and the header. -/
theorem ClientState.AcceptsHeader.unique {now : Time} {header : Header T} {time time' : Time}
    {keys keys' : NewSyncCommittees T} (h : c.AcceptsHeader E now s header time keys)
    (h' : c'.AcceptsHeader E now s header time' keys') (hSame : c'.SameConfig c) :
    time = time' ∧ keys = keys' := by
  have hTime := (h.of_sameConfig hSame).timestamp
  have hKeys := (h.of_sameConfig hSame).keys
  rw [h'.timestamp, Except.ok.injEq] at hTime
  rw [h'.keys, Except.ok.injEq] at hKeys
  exact ⟨hTime.symm, hKeys.symm⟩

/-- The whole update call is accepted by both clients when each reads its own
states, at one host time. The new client state can be encoded since the old one was
decoded. -/
theorem updateState_accepted_of_sameConfig (hE : E.Separating) (hSame : c'.SameConfig c)
    {ctx ctx' : HostClientReader} {clientId : ClientId} {header : Header T}
    (hNow : ctx.hostTimestamp = ctx'.hostTimestamp)
    (hReads : Reads E ctx clientId header.trustedHeight c s)
    (hReads' : Reads E ctx' clientId header.trustedHeight c' s)
    (h : ∃ data, updateState E ctx clientId header = .ok data) :
    ∃ data, updateState E ctx' clientId header = .ok data := by
  obtain ⟨data, hData⟩ := h
  obtain ⟨d, u, s', hUpdates⟩ := updateState_eq_ok.mp hData
  obtain ⟨rfl, hs⟩ := hReads.unique hUpdates.reads
  cases hs rfl
  obtain ⟨data', hUpdates', -⟩ := hUpdates.replay hE.clientState_total hReads' hSame hNow.symm
  exact ⟨data', updateState_eq_ok.mpr ⟨c', s, s', hUpdates'⟩⟩

/-- The attested messages agree on every field, so a chain that verifies them cannot
tell which client made them. -/
theorem updateState_message_of_sameConfig (hSame : c'.SameConfig c)
    {ctx ctx' : HostClientReader} {clientId : ClientId} {header : Header T}
    {data data' : UpdateStateData T} (hNow : ctx.hostTimestamp = ctx'.hostTimestamp)
    (hReads : Reads E ctx clientId header.trustedHeight c s)
    (hReads' : Reads E ctx' clientId header.trustedHeight c' s)
    (hData : updateState E ctx clientId header = .ok data)
    (hData' : updateState E ctx' clientId header = .ok data') :
    data.message = data'.message ∧ data.height = data'.height := by
  obtain ⟨_, _, s₁, hUpdates⟩ := updateState_eq_ok.mp hData
  obtain ⟨_, _, s₁', hUpdates'⟩ := updateState_eq_ok.mp hData'
  obtain ⟨rfl, hs⟩ := hReads.unique hUpdates.reads
  obtain ⟨rfl, hs'⟩ := hReads'.unique hUpdates'.reads
  cases hs rfl
  cases hs' rfl
  obtain ⟨time, keys, hAccepts, rfl⟩ := hUpdates.accepts
  obtain ⟨time', keys', hAccepts', rfl⟩ := hUpdates'.accepts
  rw [← hNow] at hAccepts'
  obtain ⟨rfl, rfl⟩ := hAccepts.unique hAccepts' hSame
  obtain ⟨prevId, postId, hPrev, hPost, hMessage⟩ := hUpdates.message
  obtain ⟨prevId', postId', hPrev', hPost', hMessage'⟩ := hUpdates'.message
  rw [hSame.genStateId_eq, hPrev, Except.ok.injEq] at hPrev'
  rw [hSame.genStateId_eq, hPost, Except.ok.injEq] at hPost'
  refine ⟨?_, hUpdates.height.trans hUpdates'.height.symm⟩
  rw [hMessage, hMessage', hPrev', hPost', updateMessage_of_sameConfig hSame]

/-- The results of a header agree but for the latest block number, and have one id. -/
theorem checkHeader_result_of_sameConfig (hSame : c'.SameConfig c)
    (hFrozen : c.frozenHeight = c'.frozenHeight) {now : Time} {header : Header T}
    {d d' : ClientState} {u u' : ConsensusState T}
    (h : c.checkHeaderAndUpdateState E now s header = .ok (d, u))
    (h' : c'.checkHeaderAndUpdateState E now s header = .ok (d', u')) :
    u = u' ∧ d = { d' with latestExecutionBlockNumber := d.latestExecutionBlockNumber } ∧
      genStateId E d u = genStateId E d' u' := by
  obtain ⟨time, keys, hAccepts, hEq⟩ := ClientState.checkHeaderAndUpdateState_eq_ok.mp h
  obtain ⟨time', keys', hAccepts', hEq'⟩ := ClientState.checkHeaderAndUpdateState_eq_ok.mp h'
  cases hEq
  cases hEq'
  obtain ⟨rfl, rfl⟩ := hAccepts.unique hAccepts' hSame
  have hNew : (c.withLatestBlock header.executionUpdate.blockNumber).SameConfig
      (c'.withLatestBlock header.executionUpdate.blockNumber) :=
    ((ClientState.withLatestBlock_sameConfig c _).trans hSame.symm).trans
      (ClientState.withLatestBlock_sameConfig c' _).symm
  refine ⟨rfl, ?_, hNew.genStateId_eq _⟩
  conv_lhs => rw [hNew.eq_with]
  simp [hFrozen]

end SameConfig

/-- The two fields that a state id leaves out influence neither verification nor
what is attested. Both clients are unfrozen, as every client is that gets past the
gate of the operations; the bytes they are stored as may differ. -/
theorem indistinguishable_of_stateId (hE : E.Separating) (hHash : E.CollisionFree)
    {anyClient anyClient' anyConsensus anyConsensus' : Any} {c c' : ClientState}
    {s s' : ConsensusState T} {id : T.StateID}
    (hc : ClientState.tryFromAny E anyClient = .ok c)
    (hs : ConsensusState.tryFromAny E anyConsensus = .ok s)
    (hc' : ClientState.tryFromAny E anyClient' = .ok c')
    (hs' : ConsensusState.tryFromAny E anyConsensus' = .ok s')
    (hFrozen : c.isFrozen = false) (hFrozen' : c'.isFrozen = false)
    (hId : genStateId E c s = .ok id) (hId' : genStateId E c' s' = .ok id) :
    Indistinguishable E c c' s s' := by
  obtain ⟨hSame, rfl⟩ := eq_of_genStateId_eq hE hHash hc hc' hs hs' hId hId'
  have hNone : c.frozenHeight = c'.frozenHeight := by
    simp only [ClientState.isFrozen, Option.isSome_eq_false_iff,
      Option.isNone_iff_eq_none] at hFrozen hFrozen'
    rw [hFrozen, hFrozen']
  constructor
  · exact fun now header => ⟨checkHeader_accepted_of_sameConfig hSame.symm,
      checkHeader_accepted_of_sameConfig hSame⟩
  · exact fun now header d d' u u' => checkHeader_result_of_sameConfig hSame.symm hNone
  · exact fun ctx ctx' clientId header hNow hReads hReads' =>
      ⟨updateState_accepted_of_sameConfig hE hSame.symm hNow hReads hReads',
        updateState_accepted_of_sameConfig hE hSame hNow.symm hReads' hReads⟩
  · exact fun ctx ctx' clientId header data data' hNow hReads hReads' =>
      updateState_message_of_sameConfig hSame.symm hNow hReads hReads'
  · exact fun now clientId misbehaviour => ⟨checkMisbehaviour_accepted_of_sameConfig hSame.symm,
      checkMisbehaviour_accepted_of_sameConfig hSame⟩

section Relayed

open Reference

/-- The client of the chain with latest block 1 and with latest block 5. -/
theorem relayed_indistinguishable : Indistinguishable externals (clientState 1) (clientState 5)
    (consensusState 2) (consensusState 2) :=
  indistinguishable_of_stateId protoExternals_separating externals_collisionFree
    (tryFromAny_clientAny (clientState_sameConfig 1 1)) (tryFromAny_consensusAny _)
    (tryFromAny_clientAny (clientState_sameConfig 5 5)) (tryFromAny_consensusAny _) rfl rfl
    (genStateId_eq _ _) rfl

end Relayed

end EthereumElc
