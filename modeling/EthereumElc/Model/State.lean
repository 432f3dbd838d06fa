import EthereumElc.Model.ClientState
import EthereumElc.Model.ConsensusState

/-! State ids, which the chain keeps in place of the two states of a client. -/
namespace EthereumElc

variable {T : ExternalTypes} (E : Externals T)

/-- The id of the two states of a client: a hash of their bytes, with the latest
block number and the frozen height of the client erased first. -/
def genStateId (clientState : ClientState) (consensusState : ConsensusState T) :
    Result T.StateID := do
  let clientState ← clientState.canonicalize.tryIntoAny E
  let consensusState ← consensusState.tryIntoAny E
  Outcome.lift .commitment (E.genStateIdFromAny clientState consensusState)

variable {E}

/-- A state id covers the configuration of the client and nothing else of it. -/
theorem ClientState.SameConfig.genStateId_eq {c d : ClientState} (h : c.SameConfig d)
    (s : ConsensusState T) : genStateId E c s = genStateId E d s := by
  rw [genStateId, genStateId, h]

/-- An id is computed when both states can be encoded and the bytes be hashed. -/
theorem genStateId_eq_ok {c : ClientState} {s : ConsensusState T} {id : T.StateID} :
    genStateId E c s = .ok id ↔ ∃ anyClientState anyConsensusState,
      c.canonicalize.tryIntoAny E = .ok anyClientState ∧
      s.tryIntoAny E = .ok anyConsensusState ∧
      E.genStateIdFromAny anyClientState anyConsensusState = .ok id := by
  simp only [genStateId, Outcome.bind_eq_ok, Outcome.lift_eq_ok]
  constructor
  · rintro ⟨anyClient, hClient, anyConsensus, hConsensus, hId⟩
    exact ⟨anyClient, anyConsensus, hClient, hConsensus, hId⟩
  · rintro ⟨anyClient, anyConsensus, hClient, hConsensus, hId⟩
    exact ⟨anyClient, hClient, anyConsensus, hConsensus, hId⟩

/-- Encoding into a growing buffer and hashing do not fail. Decoding is not concerned. -/
structure Externals.GeneratesIds (E : Externals T) : Prop where
  clientState : ∀ raw, ∃ bytes, E.clientStateCodec.encode raw = .ok bytes
  consensusState : ∀ raw, ∃ bytes, E.consensusStateCodec.encode raw = .ok bytes
  genStateIdFromAny : ∀ c s, ∃ id, E.genStateIdFromAny c s = .ok id

/-- Then every two states have an id. -/
theorem Externals.GeneratesIds.exists_genStateId (hE : E.GeneratesIds) (c : ClientState)
    (s : ConsensusState T) : ∃ id, genStateId E c s = .ok id := by
  obtain ⟨clientBytes, hClient⟩ := hE.clientState (c.canonicalize.intoRaw E)
  obtain ⟨consensusBytes, hConsensus⟩ := hE.consensusState (s.intoRaw E)
  obtain ⟨id, hId⟩ := hE.genStateIdFromAny ⟨ETHEREUM_CLIENT_STATE_TYPE_URL, clientBytes⟩
    ⟨ETHEREUM_CONSENSUS_STATE_TYPE_URL, consensusBytes⟩
  exact ⟨id, genStateId_eq_ok.mpr ⟨_, _, ClientState.tryIntoAny_eq_ok.mpr ⟨rfl, hClient⟩,
    ConsensusState.tryIntoAny_eq_ok.mpr ⟨rfl, hConsensus⟩, hId⟩⟩

/-- The hash of two typed byte strings separates them, as is commonly assumed of a
cryptographic hash. -/
def Verifiers.CollisionFree (V : Verifiers T) : Prop :=
  ∀ c s c' s' id, V.genStateIdFromAny c s = .ok id → V.genStateIdFromAny c' s' = .ok id →
    c = c' ∧ s = s'

namespace ClientState

/-- The bytes of a decoded state determine its configuration. -/
theorem sameConfig_of_tryIntoAny_canonicalize (hE : E.Separating) {any any' result : Any}
    {c c' : ClientState} (hc : tryFromAny E any = .ok c) (hc' : tryFromAny E any' = .ok c')
    (hInto : c.canonicalize.tryIntoAny E = .ok result)
    (hInto' : c'.canonicalize.tryIntoAny E = .ok result) : c.SameConfig c' := by
  obtain ⟨-, raw, -, hDecodes⟩ := tryFromAny_eq_ok.mp hc
  obtain ⟨-, raw', -, hDecodes'⟩ := tryFromAny_eq_ok.mp hc'
  obtain ⟨rp, -, hPeriod⟩ := hDecodes.trustingPeriod
  obtain ⟨rp', -, hPeriod'⟩ := hDecodes'.trustingPeriod
  obtain ⟨rd, -, hDrift⟩ := hDecodes.maxClockDrift
  obtain ⟨rd', -, hDrift'⟩ := hDecodes'.maxClockDrift
  have hRaw : intoRaw E c.canonicalize = intoRaw E c'.canonicalize :=
    hE.clientState _ _ _ (tryIntoAny_eq_ok.mp hInto).2 (tryIntoAny_eq_ok.mp hInto').2
  simp only [intoRaw, canonicalize, RawClientState.mk.injEq, Option.some.injEq,
    RawFraction.mk.injEq] at hRaw
  obtain ⟨hRoot, hMin, hGenesis, hForks, hSeconds, hSlots, hEpochs, hAddress, hSlot, hLevel,
    hRawPeriod, hRawDrift, -, -⟩ := hRaw
  have hForkParameters : c.forkParameters = c'.forkParameters := by
    have hRepresents := forkParameters_represents c.forkParameters
    rw [hForks] at hRepresents
    exact hRepresents.unique (forkParameters_represents c'.forkParameters)
  have hTrustLevel : c.trustLevel = c'.trustLevel := by
    cases hl : c.trustLevel
    cases hl' : c'.trustLevel
    simp_all
  exact sameConfig_iff.mpr ⟨FixedBytes.ext hRoot, hMin, hGenesis, hForkParameters, hSeconds, hSlots,
    hEpochs, FixedBytes.ext hAddress, FixedBytes.ext hSlot, hTrustLevel,
    hE.duration _ _ _ _ hPeriod hPeriod' hRawPeriod, hE.duration _ _ _ _ hDrift hDrift' hRawDrift⟩

end ClientState

/-- The two casts of a timestamp lose nothing. -/
theorem timestampToProtoTimestamp_injective {t t' : Time}
    (h : timestampToProtoTimestamp t = timestampToProtoTimestamp t') : t = t' := by
  obtain ⟨hSeconds, nanos, hNanos, hValue⟩ := timestampToProtoTimestamp_spec t
  obtain ⟨hSeconds', nanos', hNanos', hValue'⟩ := timestampToProtoTimestamp_spec t'
  rw [h] at hSeconds hNanos
  rw [hNanos, Option.some.injEq] at hNanos'
  rw [hSeconds', Int.natCast_inj] at hSeconds
  rw [hNanos', hValue'] at hValue
  apply Time.ext
  rw [← Nat.div_add_mod' t.asUnixTimestampNanos NANOS_PER_SECOND, ← hSeconds, ← hValue]
  exact Nat.div_add_mod' _ _

namespace ConsensusState

/-- The bytes of a decoded state determine it. -/
theorem eq_of_tryIntoAny (hE : E.Separating) {any any' result : Any} {s s' : ConsensusState T}
    (hs : tryFromAny E any = .ok s) (hs' : tryFromAny E any' = .ok s')
    (hInto : s.tryIntoAny E = .ok result) (hInto' : s'.tryIntoAny E = .ok result) : s = s' := by
  obtain ⟨-, raw, -, hDecodes⟩ := tryFromAny_eq_ok.mp hs
  obtain ⟨-, raw', -, hDecodes'⟩ := tryFromAny_eq_ok.mp hs'
  have hRaw : intoRaw E s = intoRaw E s' :=
    hE.consensusState _ _ _ (tryIntoAny_eq_ok.mp hInto).2 (tryIntoAny_eq_ok.mp hInto').2
  simp only [intoRaw, RawConsensusState.mk.injEq, Option.some.injEq] at hRaw
  obtain ⟨hSlot, hRoot, hTimestamp, hCurrent, hNext⟩ := hRaw
  have hRoot : s.storageRoot = s'.storageRoot := FixedBytes.ext hRoot
  have hTimestamp := timestampToProtoTimestamp_injective hTimestamp
  have hCurrent := hE.publicKey _ _ _ _ hDecodes.currentSyncCommittee
    hDecodes'.currentSyncCommittee hCurrent
  have hNext := hE.publicKey _ _ _ _ hDecodes.nextSyncCommittee hDecodes'.nextSyncCommittee hNext
  cases s
  cases s'
  simp_all

end ConsensusState

/-- Equal state ids of decoded states mean equal configurations and equal consensus states. -/
theorem eq_of_genStateId_eq (hE : E.Separating) (hHash : E.CollisionFree)
    {anyClient anyClient' anyConsensus anyConsensus' : Any} {c c' : ClientState}
    {s s' : ConsensusState T} {id : T.StateID}
    (hc : ClientState.tryFromAny E anyClient = .ok c)
    (hc' : ClientState.tryFromAny E anyClient' = .ok c')
    (hs : ConsensusState.tryFromAny E anyConsensus = .ok s)
    (hs' : ConsensusState.tryFromAny E anyConsensus' = .ok s')
    (hId : genStateId E c s = .ok id) (hId' : genStateId E c' s' = .ok id) :
    c.SameConfig c' ∧ s = s' := by
  obtain ⟨x, y, hx, hy, hHashed⟩ := genStateId_eq_ok.mp hId
  obtain ⟨x', y', hx', hy', hHashed'⟩ := genStateId_eq_ok.mp hId'
  obtain ⟨rfl, rfl⟩ := hHash _ _ _ _ _ hHashed hHashed'
  exact ⟨ClientState.sameConfig_of_tryIntoAny_canonicalize hE hc hc' hx hx',
    ConsensusState.eq_of_tryIntoAny hE hs hs' hy hy'⟩

end EthereumElc
