import EthereumElc.Reference.Relayer

/-! The codecs of the two states: what is stored is read back, and reading again
what was written changes nothing, also when the first bytes were not canonical. -/
namespace EthereumElc

variable {T : ExternalTypes}

/-- Writing the state succeeds, and what is written is read back as the state. -/
def ClientState.RoundTrips (E : Externals T) (c : ClientState) : Prop :=
  ∃ any, c.tryIntoAny E = .ok any ∧ tryFromAny E any = .ok c

/-- Encoding succeeds, and the bytes decode to the very same state. -/
def ConsensusState.RoundTrips (E : Externals T) (s : ConsensusState T) : Prop :=
  ∃ any, s.tryIntoAny E = .ok any ∧ tryFromAny E any = .ok s

/-- The trust level and the fork parameters of a client come from their constructors. -/
structure ClientState.Constructed (E : Externals T)
    (forkParametersNew : Version → List ForkParameter → Except ExternalError ForkParameters)
    (c : ClientState) : Prop where
  trustLevel : ∃ numerator denominator, E.fractionNew numerator denominator = .ok c.trustLevel
  forkParameters : ∃ genesisVersion forks,
    forkParametersNew genesisVersion forks = .ok c.forkParameters

/-- The seconds and the nanoseconds of an instant, without loss. -/
structure RawTimestamp.Denotes (raw : RawTimestamp) (t : Time) : Prop where
  seconds : raw.seconds.toInt = (t.asUnixTimestampNanos / NANOS_PER_SECOND : Nat)
  nanos : raw.nanos.toInt = (t.asUnixTimestampNanos % NANOS_PER_SECOND : Nat)
  instant : raw.seconds.toInt * NANOS_PER_SECOND + raw.nanos.toInt = t.asUnixTimestampNanos

variable {E : Externals T}
  {forkParametersNew : Version → List ForkParameter → Except ExternalError ForkParameters}

namespace ClientState

theorem Encodable.roundTrips (hCodec : E.clientStateCodec.Lawful) {c : ClientState}
    (h : c.Encodable E) : c.RoundTrips E := by
  obtain ⟨any, hInto⟩ := exists_tryIntoAny hCodec c
  exact ⟨any, hInto, h.tryFromAny_tryIntoAny hCodec hInto⟩

/-- No clamp applies to durations of at most the largest `i64` of seconds, and the
constructors accept their own values again. -/
theorem Constructed.encodable (hE : E.ConvertsClientStates forkParametersNew) {c : ClientState}
    (h : c.Constructed E forkParametersNew) (hPeriod : c.trustingPeriod.secs.toNat ≤ I64_MAX)
    (hDrift : c.maxClockDrift.secs.toNat ≤ I64_MAX) : c.Encodable E := by
  obtain ⟨numerator, denominator, hLevel⟩ := h.trustLevel
  obtain ⟨genesisVersion, forks, hForks⟩ := h.forkParameters
  obtain ⟨hNumerator, hDenominator⟩ := hE.fraction _ _ _ hLevel
  have hFields := hE.built _ _ _ hForks
  refine ⟨fun raw hRaw => hE.accepted raw _ hRaw ?_, (hE.address _ _).mpr rfl, ?_,
    hE.durations.tryFrom_into hPeriod, hE.durations.tryFrom_into hDrift⟩
  · rw [hFields] at hForks ⊢
    exact hForks
  · rw [hNumerator, hDenominator]
    exact hLevel

/-- A decoded client went through the constructors, and its durations were short
enough to be encoded. -/
theorem Decodes.constructed (hE : E.ConvertsClientStates forkParametersNew) {raw : RawClientState}
    {c : ClientState} (h : Decodes E raw c) :
    c.Constructed E forkParametersNew ∧ c.trustingPeriod.secs.toNat ≤ I64_MAX ∧
      c.maxClockDrift.secs.toNat ≤ I64_MAX := by
  obtain ⟨rf, -, hForks⟩ := h.forkParameters
  obtain ⟨rt, -, hLevel⟩ := h.trustLevel
  obtain ⟨rp, -, hPeriod⟩ := h.trustingPeriod
  obtain ⟨rd, -, hDrift⟩ := h.maxClockDrift
  exact ⟨⟨⟨_, _, hLevel⟩, ⟨_, _, hE.constructed rf _ hForks⟩⟩, hE.durations.secs_le hPeriod,
    hE.durations.secs_le hDrift⟩

end ClientState

/-- Client states round trip when their parts are constructed and their durations
fit, and so does every client state that any bytes decode to. The bytes need not be
those of the encoder: only the value is the same. -/
theorem clientState_roundTrips (hE : E.ConvertsClientStates forkParametersNew) :
    (∀ c : ClientState, c.Constructed E forkParametersNew →
      c.trustingPeriod.secs.toNat ≤ I64_MAX → c.maxClockDrift.secs.toNat ≤ I64_MAX →
      c.RoundTrips E) ∧
    ∀ (any : Any) (c : ClientState), ClientState.tryFromAny E any = .ok c → c.RoundTrips E := by
  constructor
  · intro c hConstructed hPeriod hDrift
    exact (hConstructed.encodable hE hPeriod hDrift).roundTrips hE.clientState
  · intro any c hDecoded
    obtain ⟨-, raw, -, hDecodes⟩ := ClientState.tryFromAny_eq_ok.mp hDecoded
    obtain ⟨hConstructed, hPeriod, hDrift⟩ := hDecodes.constructed hE
    exact (hConstructed.encodable hE hPeriod hDrift).roundTrips hE.clientState

section Relayed

open Reference

/-- A client with the longest trusting period, a zero drift and the frozen height zero. -/
def Reference.extremeClient : ClientState :=
  { clientState 1 with
    trustingPeriod := ⟨9223372036854775807, 999999999, by decide⟩
    maxClockDrift := Duration.ZERO
    frozenHeight := some ⟨0, 0⟩ }

/-- The reference client with a second among the nanoseconds of its trusting period. -/
def Reference.unnormalizedRaw : RawClientState :=
  { (clientState 1).intoRaw externals with trustingPeriod := some ⟨1209599, 1000000000⟩ }

/-- A duration that is not normalised is decoded to its span. -/
theorem Reference.decodes_unnormalizedRaw :
    ClientState.Decodes externals unnormalizedRaw (clientState 1) := by
  have hPeriod : durationTryFrom ⟨1209599, 1000000000⟩ = .ok (Duration.fromSecs 1209600) := rfl
  exact { (clientState_encodable 1).decodes_intoRaw with trustingPeriod := ⟨_, rfl, hPeriod⟩ }

theorem Reference.tryFromAny_unnormalizedRaw : ClientState.tryFromAny externals
    ⟨ETHEREUM_CLIENT_STATE_TYPE_URL, clientStateFormat.encode unnormalizedRaw⟩ =
      .ok (clientState 1) :=
  ClientState.tryFromAny_eq_ok.mpr
    ⟨rfl, _, codec_decode_encode clientStateFormat unnormalizedRaw, decodes_unnormalizedRaw⟩

/-- The longest durations that fit, and a client that was decoded from bytes which
are not its own encoding. -/
theorem relayed_clientState_roundTrips :
    extremeClient.RoundTrips externals ∧ (clientState 1).RoundTrips externals := by
  have hConverts : externals.ConvertsClientStates Reference.forkParametersNew :=
    protoExternals_convertsClientStates
  obtain ⟨hConstructed, hDecoded⟩ := clientState_roundTrips hConverts
  exact ⟨hConstructed extremeClient ⟨⟨2, 3, rfl⟩, ⟨_, _, forkParameters_ordered⟩⟩ (by decide)
    (by decide), hDecoded _ _ tryFromAny_unnormalizedRaw⟩

end Relayed

/-- The casts to signed numbers are exact for every time. -/
theorem timestampToProtoTimestamp_denotes (t : Time) : (timestampToProtoTimestamp t).Denotes t := by
  obtain ⟨hSeconds, nanos, hNanos, hValue⟩ := timestampToProtoTimestamp_spec t
  have hNanos : (timestampToProtoTimestamp t).nanos.toInt =
      (t.asUnixTimestampNanos % NANOS_PER_SECOND : Nat) := by
    rw [← hValue, toNat_of_u32TryFrom hNanos]
  refine ⟨hSeconds, hNanos, ?_⟩
  rw [hSeconds, hNanos]
  exact_mod_cast Nat.div_add_mod' t.asUnixTimestampNanos NANOS_PER_SECOND

namespace ConsensusState

/-- A state whose keys are decoded from some bytes round trips. -/
theorem roundTrips_of_keys (hE : E.ConvertsConsensusStates) {s : ConsensusState T}
    (hCurrent : ∃ bytes, E.publicKeyTryFrom bytes = .ok s.currentSyncCommittee)
    (hNext : ∃ bytes, E.publicKeyTryFrom bytes = .ok s.nextSyncCommittee) : s.RoundTrips E := by
  obtain ⟨any, hInto⟩ := exists_tryIntoAny hE.consensusState s
  obtain ⟨current, hCurrent⟩ := hCurrent
  obtain ⟨next, hNext⟩ := hNext
  exact ⟨any, hInto, tryFromAny_of_keys hE hInto ⟨_, hE.publicKey_decoded _ _ hCurrent⟩
    ⟨_, hE.publicKey_decoded _ _ hNext⟩⟩

/-- The decoder takes only timestamps in normal form, from the epoch on. -/
theorem Decodes.timestamp_normal (hE : E.ConvertsConsensusStates) {raw : RawConsensusState}
    {s : ConsensusState T} (h : Decodes E raw s) {t : RawTimestamp}
    (hTimestamp : raw.timestamp = some t) :
    0 ≤ t.seconds.toInt ∧ 0 ≤ t.nanos.toInt ∧ t.nanos.toInt < NANOS_PER_SECOND := by
  obtain ⟨t', nanos, hTimestamp', hNanos, hTime⟩ := h.timestamp
  have hEq : t = t' := Option.some.inj (hTimestamp.symm.trans hTimestamp')
  subst hEq
  obtain ⟨hSeconds, hLt, -⟩ := (hE.time _ _ _).mp hTime
  rw [← toNat_of_u32TryFrom hNanos]
  exact ⟨hSeconds, Int.natCast_nonneg _, by exact_mod_cast hLt⟩

end ConsensusState

/-- Consensus states with accepted keys round trip to the nanosecond, and so does
every consensus state that a raw message decodes to. A raw timestamp that is before
the epoch, or has nanoseconds out of range, is refused and never wrapped. -/
theorem consensusState_roundTrips (hE : E.ConvertsConsensusStates) :
    (∀ s : ConsensusState T, (∃ bytes, E.publicKeyTryFrom bytes = .ok s.currentSyncCommittee) →
      (∃ bytes, E.publicKeyTryFrom bytes = .ok s.nextSyncCommittee) → s.RoundTrips E) ∧
    (∀ t : Time, (timestampToProtoTimestamp t).Denotes t) ∧
    (∀ (raw : RawConsensusState) (s : ConsensusState T), ConsensusState.tryFromRaw E raw = .ok s →
      ConsensusState.tryFromRaw E (s.intoRaw E) = .ok s ∧ s.RoundTrips E) ∧
    (∀ (raw : RawConsensusState) (t : RawTimestamp), raw.timestamp = some t →
      t.nanos.toInt < 0 ∨ NANOS_PER_SECOND ≤ t.nanos.toInt ∨ t.seconds.toInt < 0 →
      ∀ s, ConsensusState.tryFromRaw E raw ≠ .ok s) := by
  refine ⟨fun s => ConsensusState.roundTrips_of_keys hE, timestampToProtoTimestamp_denotes, ?_, ?_⟩
  · intro raw s hDecoded
    have hDecodes := ConsensusState.tryFromRaw_eq_ok.mp hDecoded
    refine ⟨ConsensusState.tryFromRaw_eq_ok.mpr (ConsensusState.decodes_of_keys hE ?_ ?_),
      ConsensusState.roundTrips_of_keys hE ⟨_, hDecodes.currentSyncCommittee⟩
        ⟨_, hDecodes.nextSyncCommittee⟩⟩
    · exact ⟨_, hE.publicKey_decoded _ _ hDecodes.currentSyncCommittee⟩
    · exact ⟨_, hE.publicKey_decoded _ _ hDecodes.nextSyncCommittee⟩
  · intro raw t hTimestamp hAbnormal s hDecoded
    have hDecodes := ConsensusState.tryFromRaw_eq_ok.mp hDecoded
    obtain ⟨hSeconds, hNonneg, hLt⟩ := hDecodes.timestamp_normal hE hTimestamp
    omega

section Relayed

open Reference

/-- The last nanosecond of the year 9999. -/
def Reference.lastTime : Time := ⟨MAX_UNIX_TIMESTAMP_NANOS, Nat.le_refl _⟩

/-- The last nanosecond of the year 9999 survives, and a full second of nanoseconds
is refused. -/
theorem relayed_consensusState_roundTrips :
    ({ consensusState 2 with timestamp := lastTime } : ConsensusState types).RoundTrips externals ∧
      ∀ s : ConsensusState types, ConsensusState.tryFromRaw externals
        { (consensusState 2).intoRaw externals with timestamp := some ⟨1, 1000000000⟩ } ≠ .ok s := by
  have hKey (key : types.PublicKey) : ∃ bytes, externals.publicKeyTryFrom bytes = .ok key :=
    ⟨_, fixedBytes_toList key⟩
  obtain ⟨hKeys, -, -, hAbnormal⟩ :=
    consensusState_roundTrips externals_lawful.toConvertsConsensusStates
  exact ⟨hKeys _ (hKey _) (hKey _), hAbnormal _ ⟨1, 1000000000⟩ rfl (.inr (.inl (by decide)))⟩

end Relayed

end EthereumElc
