import EthereumElc.Model.ClientState
import EthereumElc.Model.ConsensusState

/-! The decoders of the two states on untrusted input: what they accept, and that
they refuse everything else with an error, whatever is wrong with it. -/
namespace EthereumElc

variable {T : ExternalTypes}

/-- Every part of a raw client state is present where it must be and convertible by itself. -/
structure RawClientState.WellFormed (E : Externals T) (raw : RawClientState) : Prop where
  forkParameters : ∃ r fp, raw.forkParameters = some r ∧ E.convertProtoToForkParameters r = .ok fp
  trustLevel : ∃ r f, raw.trustLevel = some r ∧ E.fractionNew r.numerator r.denominator = .ok f
  trustingPeriod : ∃ r d, raw.trustingPeriod = some r ∧ E.durationTryFrom r = .ok d
  maxClockDrift : ∃ r d, raw.maxClockDrift = some r ∧ E.durationTryFrom r = .ok d
  genesisValidatorsRoot : raw.genesisValidatorsRoot.length = 32
  ibcCommitmentsSlot : raw.ibcCommitmentsSlot.length = 32
  ibcAddress : ∃ a, E.addressTryFrom raw.ibcAddress = .ok a

/-- The same of a raw consensus state, whose next sync committee must not be empty. -/
structure RawConsensusState.WellFormed (E : Externals T) (raw : RawConsensusState) : Prop where
  nextSyncCommittee_ne_nil : raw.nextSyncCommittee ≠ []
  nextSyncCommittee : ∃ key, E.publicKeyTryFrom raw.nextSyncCommittee = .ok key
  currentSyncCommittee : ∃ key, E.publicKeyTryFrom raw.currentSyncCommittee = .ok key
  timestamp : ∃ t time, raw.timestamp = some t ∧ 0 ≤ t.nanos.toInt ∧
    E.timeFromUnixTimestamp t.seconds t.nanos.toUInt32 = .ok time
  storageRoot : raw.storageRoot.length = 32

variable {E : Externals T}

namespace ClientState

/-- A raw client state is accepted exactly when it is well-formed. -/
theorem tryFromRaw_accepts_iff {raw : RawClientState} :
    (∃ c, tryFromRaw E raw = .ok c) ↔ raw.WellFormed E := by
  constructor
  · rintro ⟨c, hDecoded⟩
    have h := tryFromRaw_eq_ok.mp hDecoded
    obtain ⟨rf, hrf, hForks⟩ := h.forkParameters
    obtain ⟨rt, hrt, hLevel⟩ := h.trustLevel
    obtain ⟨rp, hrp, hPeriod⟩ := h.trustingPeriod
    obtain ⟨rd, hrd, hDrift⟩ := h.maxClockDrift
    exact ⟨⟨rf, _, hrf, hForks⟩, ⟨rt, _, hrt, hLevel⟩, ⟨rp, _, hrp, hPeriod⟩, ⟨rd, _, hrd, hDrift⟩,
      h.genesisValidatorsRoot ▸ c.genesisValidatorsRoot.length_toList,
      h.ibcCommitmentsSlot ▸ c.ibcCommitmentsSlot.length_toList, ⟨_, h.ibcAddress⟩⟩
  · rintro ⟨⟨rf, fp, hrf, hForks⟩, ⟨rt, level, hrt, hLevel⟩, ⟨rp, period, hrp, hPeriod⟩,
      ⟨rd, drift, hrd, hDrift⟩, hRoot, hSlot, ⟨address, hAddress⟩⟩
    exact ⟨⟨⟨raw.genesisValidatorsRoot, hRoot⟩, raw.minSyncCommitteeParticipants, raw.genesisTime,
      fp, raw.secondsPerSlot, raw.slotsPerEpoch, raw.epochsPerSyncCommitteePeriod, address,
      ⟨raw.ibcCommitmentsSlot, hSlot⟩, level, period, drift, raw.latestExecutionBlockNumber, _⟩,
      tryFromRaw_eq_ok.mpr ⟨rfl, rfl, rfl, ⟨rf, hrf, hForks⟩, rfl, rfl, rfl, hAddress, rfl,
        ⟨rt, hrt, hLevel⟩, ⟨rp, hrp, hPeriod⟩, ⟨rd, hrd, hDrift⟩, rfl, rfl⟩⟩

/-- Both lengths are checked before the first copy, so no copy aborts, whichever
of the other conversions fails before, between or after. -/
theorem tryFromRaw_returns (raw : RawClientState) : (tryFromRaw E raw).Returns := by
  refine (Outcome.returns_okOr _ _).bind fun _ _ => ?_
  refine (Outcome.returns_lift _ _).bind fun _ _ => ?_
  refine (Outcome.returns_okOr _ _).bind fun _ _ => ?_
  refine (Outcome.returns_rejectIf _ _).bind fun _ hRoot => ?_
  refine (Outcome.returns_rejectIf _ _).bind fun _ hSlot => ?_
  have hRoot := not_not.mp (Outcome.rejectIf_eq_ok.mp hRoot)
  have hSlot := not_not.mp (Outcome.rejectIf_eq_ok.mp hSlot)
  refine (H256.fromSlice_returns hRoot).bind fun _ _ => ?_
  refine (Outcome.returns_lift _ _).bind fun _ _ => ?_
  refine (H256.fromSlice_returns hSlot).bind fun _ _ => ?_
  refine (Outcome.returns_lift _ _).bind fun _ _ => ?_
  refine (Outcome.returns_okOr _ _).bind fun _ _ => ?_
  refine (Outcome.returns_lift _ _).bind fun _ _ => ?_
  refine (Outcome.returns_okOr _ _).bind fun _ _ => ?_
  exact (Outcome.returns_lift _ _).bind fun _ _ => Outcome.returns_ok _

/-- No bytes under any URL abort the decoder of client states. -/
theorem tryFromAny_returns (any : Any) : (tryFromAny E any).Returns := by
  refine (Outcome.returns_rejectIf _ _).bind fun _ _ => ?_
  exact (Outcome.returns_lift _ _).bind fun raw _ => tryFromRaw_returns raw

end ClientState

namespace ConsensusState

/-- A raw consensus state is accepted exactly when it is well-formed. -/
theorem tryFromRaw_accepts_iff {raw : RawConsensusState} :
    (∃ s, tryFromRaw E raw = .ok s) ↔ raw.WellFormed E := by
  constructor
  · rintro ⟨s, hDecoded⟩
    have h := tryFromRaw_eq_ok.mp hDecoded
    obtain ⟨t, nanos, hTimestamp, hNanos, hTime⟩ := h.timestamp
    obtain ⟨hNonneg, rfl⟩ := u32TryFrom_eq_some.mp hNanos
    exact ⟨h.nextSyncCommittee_ne_nil, ⟨_, h.nextSyncCommittee⟩, ⟨_, h.currentSyncCommittee⟩,
      ⟨t, _, hTimestamp, hNonneg, hTime⟩, h.storageRoot ▸ s.storageRoot.length_toList⟩
  · rintro ⟨hNil, ⟨next, hNext⟩, ⟨current, hCurrent⟩, ⟨t, time, hTimestamp, hNonneg, hTime⟩, hRoot⟩
    exact ⟨⟨raw.slot, ⟨raw.storageRoot, hRoot⟩, time, current, next⟩, tryFromRaw_eq_ok.mpr
      ⟨rfl, rfl, ⟨t, _, hTimestamp, u32TryFrom_eq_some.mpr ⟨hNonneg, rfl⟩, hTime⟩, hCurrent, hNil,
        hNext⟩⟩

/-- The length of the root is checked before the copy. -/
theorem tryFromRaw_returns (raw : RawConsensusState) :
    (tryFromRaw E raw : Result (ConsensusState T)).Returns := by
  refine (Outcome.returns_rejectIf _ _).bind fun _ _ => ?_
  refine (Outcome.returns_lift _ _).bind fun _ _ => ?_
  refine (Outcome.returns_okOr _ _).bind fun _ _ => ?_
  refine (Outcome.returns_rejectIf _ _).bind fun _ hRoot => ?_
  have hRoot := not_not.mp (Outcome.rejectIf_eq_ok.mp hRoot)
  refine (Outcome.returns_okOr _ _).bind fun _ _ => ?_
  refine (H256.fromSlice_returns hRoot).bind fun _ _ => ?_
  refine (Outcome.returns_lift _ _).bind fun _ _ => ?_
  exact (Outcome.returns_lift _ _).bind fun _ _ => Outcome.returns_ok _

/-- No bytes under any URL abort the decoder of consensus states. -/
theorem tryFromAny_returns (any : Any) : (tryFromAny E any : Result (ConsensusState T)).Returns := by
  unfold tryFromAny
  split_ifs
  · exact (Outcome.returns_lift _ _).bind fun raw _ => tryFromRaw_returns raw
  · exact Outcome.returns_error _

end ConsensusState

/-- Both decoders accept exactly the well-formed messages, return an error for every
other one, and never abort on any bytes. The conversions of the other crates are
arbitrary here, but for returning a value or an error. -/
theorem stateDecoders_exact (E : Externals T) :
    (∀ raw : RawClientState,
      ((∃ c, ClientState.tryFromRaw E raw = .ok c) ↔ raw.WellFormed E) ∧
      (¬raw.WellFormed E → (ClientState.tryFromRaw E raw).IsError)) ∧
    (∀ raw : RawConsensusState,
      ((∃ s, ConsensusState.tryFromRaw E raw = .ok s) ↔ raw.WellFormed E) ∧
      (¬raw.WellFormed E → (ConsensusState.tryFromRaw E raw).IsError)) ∧
    ∀ any : Any,
      (ClientState.tryFromAny E any).Returns ∧ (ConsensusState.tryFromAny E any).Returns := by
  refine ⟨fun raw => ⟨ClientState.tryFromRaw_accepts_iff, fun hMalformed => ?_⟩,
    fun raw => ⟨ConsensusState.tryFromRaw_accepts_iff, fun hMalformed => ?_⟩,
    fun any => ⟨ClientState.tryFromAny_returns any, ConsensusState.tryFromAny_returns any⟩⟩
  · exact (ClientState.tryFromRaw_returns raw).isError fun c hDecoded =>
      hMalformed (ClientState.tryFromRaw_accepts_iff.mp ⟨c, hDecoded⟩)
  · exact (ConsensusState.tryFromRaw_returns raw).isError fun s hDecoded =>
      hMalformed (ConsensusState.tryFromRaw_accepts_iff.mp ⟨s, hDecoded⟩)

end EthereumElc
