import EthereumElc.Reference.Relayer

/-! Creation is the gate for everything that later operations trust: which pairs
of states it admits, and the one field that it fails to check. -/
namespace EthereumElc

open EthereumLightClient

variable {T : ExternalTypes}

/-- Every field that a new client must set, with a fork list that reaches Bellatrix. -/
structure ClientState.Initialized (E : Externals T) (c : ClientState) : Prop where
  genesisValidatorsRoot : c.genesisValidatorsRoot ≠ default
  minSyncCommitteeParticipants : c.minSyncCommitteeParticipants ≠ 0
  genesisTime : c.genesisTime ≠ 0
  forkParameters : c.forkParameters ≠ default
  bellatrixFork : E.BELLATRIX_INDEX < c.forkParameters.forks.length
  secondsPerSlot : c.secondsPerSlot ≠ 0
  slotsPerEpoch : c.slotsPerEpoch ≠ 0
  epochsPerSyncCommitteePeriod : c.epochsPerSyncCommitteePeriod ≠ 0
  ibcAddress : c.ibcAddress ≠ default
  trustLevel : c.trustLevel ≠ default
  trustingPeriod : c.trustingPeriod ≠ default
  latestExecutionBlockNumber : c.latestExecutionBlockNumber ≠ 0

/-- A pair of an unfrozen client and a consensus state that decode and set every
field but perhaps the storage root. -/
structure InitializedButStorageRoot (E : Externals T) (anyClientState anyConsensusState : Any)
    (c : ClientState) (s : ConsensusState T) : Prop where
  clientState : ClientState.tryFromAny E anyClientState = .ok c
  initialized : c.Initialized E
  notFrozen : c.frozenHeight = none
  consensusState : ConsensusState.tryFromAny E anyConsensusState = .ok s
  slot : s.slot ≠ (default : ConsensusState T).slot
  timestamp : s.timestamp ≠ (default : ConsensusState T).timestamp
  currentSyncCommittee : s.currentSyncCommittee ≠ (default : ConsensusState T).currentSyncCommittee
  nextSyncCommittee : s.nextSyncCommittee ≠ (default : ConsensusState T).nextSyncCommittee

/-- All five fields of the consensus state are set. -/
def FullyInitialized (E : Externals T) (anyClientState anyConsensusState : Any) (c : ClientState)
    (s : ConsensusState T) : Prop :=
  InitializedButStorageRoot E anyClientState anyConsensusState c s ∧
    s.storageRoot ≠ (default : ConsensusState T).storageRoot

/-- What a creation tells of the states that it was given. -/
structure DescribesCreation (anyClientState : Any) (c : ClientState) (s : ConsensusState T)
    (result : CreateClientResult T) : Prop where
  height : result.height = toLcpHeight c.latestHeight
  postHeight : result.message.postHeight = toLcpHeight c.latestHeight
  emittedStates : result.message.emittedStates = [⟨toLcpHeight c.latestHeight, anyClientState⟩]
  prevHeight : result.message.prevHeight = none
  prevStateId : result.message.prevStateId = none
  timestamp : result.message.timestamp = s.timestamp

/-- Creation admits a pair exactly when it is fully initialised, and describes it. -/
def AdmitsExactlyInitialized (E : Externals T) (anyClientState anyConsensusState : Any) : Prop :=
  ((∃ result, createClient E anyClientState anyConsensusState = .ok result) ↔
    ∃ c s, FullyInitialized E anyClientState anyConsensusState c s) ∧
  ∀ result, createClient E anyClientState anyConsensusState = .ok result →
    ∃ c s, ClientState.tryFromAny E anyClientState = .ok c ∧
      ConsensusState.tryFromAny E anyConsensusState = .ok s ∧
      DescribesCreation anyClientState c s result

/-- The storage root is all zeros and nothing else is wrong with the pair. -/
def OnlyStorageRootMissing (E : Externals T) (anyClientState anyConsensusState : Any) : Prop :=
  ∃ c s, InitializedButStorageRoot E anyClientState anyConsensusState c s ∧
    s.storageRoot = (default : ConsensusState T).storageRoot

variable {E : Externals T} {anyClientState anyConsensusState : Any}

/-- The validation of a client looks at every field that it should. -/
theorem ClientState.validate_eq_ok_iff_initialized {c : ClientState} :
    c.validate E = .ok () ↔ c.Initialized E := by
  rw [ClientState.validate_eq_ok]
  constructor
  · rintro ⟨h1, h2, h3, h4, h5, h6, h7, h8, h9, h10, h11, h12⟩
    exact ⟨h1, h2, h3, h4, h5, h6, h7, h8, h9, h10, h11, h12⟩
  · rintro ⟨h1, h2, h3, h4, h5, h6, h7, h8, h9, h10, h11, h12⟩
    exact ⟨h1, h2, h3, h4, h5, h6, h7, h8, h9, h10, h11, h12⟩

theorem Time.asUnixTimestampNanos_ne_zero {t : Time} :
    t.asUnixTimestampNanos ≠ 0 ↔ t ≠ Time.unixEpoch :=
  not_congr ⟨fun h => Time.ext h, fun h => congrArg asUnixTimestampNanos h⟩

/-- The states of an accepted creation set every field but perhaps the storage root. -/
theorem EthereumLightClient.Creates.initialized {c : ClientState} {s : ConsensusState T}
    {id : T.StateID} (h : Creates E anyClientState anyConsensusState c s id) :
    InitializedButStorageRoot E anyClientState anyConsensusState c s := by
  obtain ⟨hSlot, hTime, hCurrent, hNext⟩ := ConsensusState.validate_eq_ok.mp h.consensusValid
  have hFrozen : c.frozenHeight = none := by simpa [ClientState.isFrozen] using h.notFrozen
  exact ⟨h.clientState, ClientState.validate_eq_ok_iff_initialized.mp h.valid, hFrozen,
    h.consensusState, hSlot, Time.asUnixTimestampNanos_ne_zero.mp hTime, hCurrent, hNext⟩

/-- Whatever sets those fields is accepted. -/
theorem InitializedButStorageRoot.creates (hIds : E.GeneratesIds) {c : ClientState}
    {s : ConsensusState T} (h : InitializedButStorageRoot E anyClientState anyConsensusState c s) :
    ∃ id, Creates E anyClientState anyConsensusState c s id := by
  obtain ⟨id, hId⟩ := hIds.exists_genStateId c s
  have hFrozen : c.isFrozen = false := by rw [ClientState.isFrozen, h.notFrozen, Option.isSome_none]
  exact ⟨id, h.clientState, ClientState.validate_eq_ok_iff_initialized.mpr h.initialized, hFrozen,
    h.consensusState, ConsensusState.validate_eq_ok.mpr ⟨h.slot,
      Time.asUnixTimestampNanos_ne_zero.mpr h.timestamp, h.currentSyncCommittee,
      h.nextSyncCommittee⟩, hId⟩

/-- Creation accepts what is initialised in every field but perhaps the storage
root. Ids are assumed to be generated without fail. -/
theorem createClient_accepts_iff (hIds : E.GeneratesIds) :
    (∃ result, createClient E anyClientState anyConsensusState = .ok result) ↔
      ∃ c s, InitializedButStorageRoot E anyClientState anyConsensusState c s := by
  simp only [createClient_eq_ok]
  constructor
  · rintro ⟨result, c, s, id, hCreates, -⟩
    exact ⟨c, s, hCreates.initialized⟩
  · rintro ⟨c, s, h⟩
    obtain ⟨id, hCreates⟩ := h.creates hIds
    exact ⟨_, c, s, id, hCreates, rfl⟩

/-- The answer describes the states that were decoded. -/
theorem createClient_describes {result : CreateClientResult T}
    (h : createClient E anyClientState anyConsensusState = .ok result) :
    ∃ c s, ClientState.tryFromAny E anyClientState = .ok c ∧
      ConsensusState.tryFromAny E anyConsensusState = .ok s ∧
      DescribesCreation anyClientState c s result := by
  obtain ⟨c, s, id, hCreates, rfl⟩ := createClient_eq_ok.mp h
  exact ⟨c, s, hCreates.clientState, hCreates.consensusState, rfl, rfl, rfl, rfl, rfl, rfl⟩

/-- Creation admits exactly the fully initialised pairs, but for the pairs whose
only defect is a storage root of zeros. It admits these as well, since the root is
checked for being empty, which 32 bytes never are. -/
theorem createClient_exact_iff (hIds : E.GeneratesIds) (anyClientState anyConsensusState : Any) :
    AdmitsExactlyInitialized E anyClientState anyConsensusState ↔
      ¬OnlyStorageRootMissing E anyClientState anyConsensusState := by
  rw [AdmitsExactlyInitialized, createClient_accepts_iff hIds]
  constructor
  · rintro ⟨hAdmits, -⟩ ⟨c, s, hInitialized, hRoot⟩
    obtain ⟨c', s', hInitialized', hRoot'⟩ := hAdmits.mp ⟨c, s, hInitialized⟩
    have hState : s = s' :=
      Except.ok.inj (hInitialized.consensusState.symm.trans hInitialized'.consensusState)
    exact hRoot' (hState ▸ hRoot)
  · intro hMissing
    refine ⟨⟨?_, ?_⟩, fun result => createClient_describes⟩
    · rintro ⟨c, s, hInitialized⟩
      exact ⟨c, s, hInitialized, fun hRoot => hMissing ⟨c, s, hInitialized, hRoot⟩⟩
    · rintro ⟨c, s, hInitialized, -⟩
      exact ⟨c, s, hInitialized⟩

section Relayed

open Reference

/-- The reference chain's own first state is admitted as it should be. -/
theorem relayed_createClient_exact :
    ¬OnlyStorageRootMissing externals (clientAny (clientState 1)) (consensusAny (consensusState 2)) ∧
      AdmitsExactlyInitialized externals (clientAny (clientState 1))
        (consensusAny (consensusState 2)) := by
  have hMissing : ¬OnlyStorageRootMissing externals (clientAny (clientState 1))
      (consensusAny (consensusState 2)) := by
    rintro ⟨c, s, hInitialized, hRoot⟩
    have hState := hInitialized.consensusState
    rw [tryFromAny_consensusAny, Except.ok.injEq] at hState
    subst hState
    exact absurd hRoot (by decide)
  exact ⟨hMissing, (createClient_exact_iff externals_generatesIds _ _).mpr hMissing⟩

/-- A client is created with a storage root of zeros. -/
theorem offChain_not_exact : externals.GeneratesIds ∧
    createClient externals (clientAny (clientState 1)) (consensusAny offChain) =
      .ok (createResult 1 offChain) ∧
    ¬AdmitsExactlyInitialized externals (clientAny (clientState 1)) (consensusAny offChain) := by
  have hCreates : createClient externals (clientAny (clientState 1)) (consensusAny offChain) =
      .ok (createResult 1 offChain) :=
    createClient_eq_ok.mpr ⟨_, _, _, creates (by decide) offChain_valid, rfl⟩
  refine ⟨externals_generatesIds, hCreates, ?_⟩
  rintro ⟨hAdmits, -⟩
  obtain ⟨c, s, hInitialized, hRoot⟩ := hAdmits.mp ⟨_, hCreates⟩
  have hState := hInitialized.consensusState
  rw [tryFromAny_consensusAny, Except.ok.injEq] at hState
  subst hState
  exact hRoot rfl

end Relayed

end EthereumElc
