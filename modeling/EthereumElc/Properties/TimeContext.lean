import EthereumElc.Reference.Relayer

/-! The time context of an emitted message. The chain evaluates it in place of the
time checks that the enclave made, at a time of its own. -/
namespace EthereumElc

open EthereumLightClient

variable {T : ExternalTypes}

/-- The chain evaluates a context by two inequalities of exact nanoseconds. -/
def ExactContexts (evaluate : ValidationContext → Time → Except ExternalError Unit) : Prop :=
  ∀ (context : TrustingPeriodContext) (t : Time), evaluate (.trustingPeriod context) t = .ok () ↔
    t.asUnixTimestampNanos < context.trustedStateTimestamp.asUnixTimestampNanos +
        context.trustingPeriod.asNanos ∧
      context.untrustedHeaderTimestamp.asUnixTimestampNanos <
        t.asUnixTimestampNanos + context.clockDrift.asNanos

/-- The check that a trusted state can still be used at a time. -/
def ClientState.PassesTrustingPeriod (E : Externals T) (c : ClientState) (t : Time)
    (s : ConsensusState T) : Prop :=
  E.validateStateTimestampWithinTrustingPeriod t.asUnixTimestampNanos c.trustingPeriod
    s.timestamp.asUnixTimestampNanos = .ok ()

/-- The check that a header with a timestamp is not from the future of a time. -/
def ClientState.PassesNotFuture (E : Externals T) (c : ClientState) (t headerTimestamp : Time) :
    Prop :=
  E.validateHeaderTimestampNotFuture t.asUnixTimestampNanos c.maxClockDrift
    headerTimestamp.asUnixTimestampNanos = .ok ()

/-- The two time checks of `checkHeaderAndUpdateState` pass at a time, with the
header's timestamp as it is computed at that time. -/
def ClientState.PassesTimeChecks (E : Externals T) (c : ClientState) (t : Time)
    (s : ConsensusState T) (header : Header T) : Prop :=
  ∃ headerTimestamp, header.timestamp E (c.buildContext t) = .ok headerTimestamp ∧
    c.PassesTrustingPeriod E t s ∧ c.PassesNotFuture E t headerTimestamp

/-- The timestamp in the bytes of a consensus state, converted as the decoder does,
whether or not the keys in the bytes are accepted. -/
def HoldsTimestamp (E : Externals T) (any : Any) (time : Time) : Prop :=
  ∃ raw t nanos, E.consensusStateCodec.decode any.value = .ok raw ∧ raw.timestamp = some t ∧
    u32TryFrom t.nanos = some nanos ∧ E.timeFromUnixTimestamp t.seconds nanos = .ok time

/-- What the context of an update says is what the two time checks of the header
say, at the host time of the update and at every other time. -/
structure RestatesHeaderChecks (E : Externals T)
    (evaluate : ValidationContext → Time → Except ExternalError Unit) (now : Time)
    (header : Header T) (c : ClientState) (s : ConsensusState T) (data : UpdateStateData T) :
    Prop where
  headerTimestamp : header.timestamp E (c.buildContext now) = .ok data.message.timestamp
  accepted : evaluate data.message.context now = .ok ()
  restates : ∀ t, evaluate data.message.context t = .ok () ↔
    c.PassesTrustingPeriod E t s ∧ c.PassesNotFuture E t data.message.timestamp
  /-- A header's timestamp is a function of the header and the chain parameters. -/
  timeChecks : ∀ t, header.timestamp E (c.buildContext t) = .ok data.message.timestamp →
    (evaluate data.message.context t = .ok () ↔ c.PassesTimeChecks E t s header)
  untrusted : ∃ context, data.message.context = .trustingPeriod context ∧
    context.untrustedHeaderTimestamp = data.message.timestamp
  stored : HoldsTimestamp E data.newAnyConsensusState data.message.timestamp
  decoded : ∀ s', ConsensusState.tryFromAny E data.newAnyConsensusState = .ok s' →
    s'.timestamp = data.message.timestamp

/-- What the context of a misbehaviour says is what its only time check says, at
every time after the epoch. -/
structure RestatesMisbehaviourCheck (E : Externals T)
    (evaluate : ValidationContext → Time → Except ExternalError Unit) (now : Time)
    (c : ClientState) (s : ConsensusState T) (data : MisbehaviourData T) : Prop where
  accepted : evaluate data.message.context now = .ok ()
  restates : ∀ t, evaluate data.message.context t = .ok () ↔
    Time.unixEpoch.asUnixTimestampNanos < t.asUnixTimestampNanos ∧ c.PassesTrustingPeriod E t s

variable {E : Externals T} {evaluate : ValidationContext → Time → Except ExternalError Unit}
  {ctx : HostClientReader} {clientId : ClientId}

/-- An encoded state holds its timestamp, to the nanosecond. -/
theorem HoldsTimestamp.of_tryIntoAny (hE : E.ConvertsConsensusStates) {s : ConsensusState T}
    {any : Any} (h : s.tryIntoAny E = .ok any) : HoldsTimestamp E any s.timestamp := by
  obtain ⟨-, hEncode⟩ := ConsensusState.tryIntoAny_eq_ok.mp h
  obtain ⟨-, nanos, hNanos, -⟩ := timestampToProtoTimestamp_spec s.timestamp
  exact ⟨_, _, nanos, hE.consensusState.decode_encode _ _ hEncode, rfl, hNanos,
    (hE.time_of_timestamp hNanos).mpr rfl⟩

theorem ClientState.passesTimeChecks_iff {c : ClientState} {t headerTimestamp : Time}
    {s : ConsensusState T} {header : Header T}
    (h : header.timestamp E (c.buildContext t) = .ok headerTimestamp) :
    c.PassesTimeChecks E t s header ↔
      c.PassesTrustingPeriod E t s ∧ c.PassesNotFuture E t headerTimestamp := by
  constructor
  · rintro ⟨headerTimestamp', hHeader, hPasses⟩
    rw [h, Except.ok.injEq] at hHeader
    rwa [hHeader]
  · intro hPasses
    exact ⟨headerTimestamp, h, hPasses⟩

/-- The four values of a header's context stand where its two checks read them. -/
theorem evaluate_headerContext (hContexts : ExactContexts evaluate) (hChecks : E.ExactTimeChecks)
    (c : ClientState) (s : ConsensusState T) (headerTimestamp t : Time) :
    evaluate (.trustingPeriod ⟨c.trustingPeriod, c.maxClockDrift, headerTimestamp, s.timestamp⟩) t =
        .ok () ↔
      c.PassesTrustingPeriod E t s ∧ c.PassesNotFuture E t headerTimestamp := by
  rw [hContexts, ClientState.PassesTrustingPeriod, ClientState.PassesNotFuture,
    hChecks.withinTrustingPeriod, hChecks.notFuture]

/-- Without a drift, the epoch is in the past of every later time. -/
theorem evaluate_misbehaviourContext (hContexts : ExactContexts evaluate)
    (hChecks : E.ExactTimeChecks) (c : ClientState) (s : ConsensusState T) (t : Time) :
    evaluate (.trustingPeriod ⟨c.trustingPeriod, Duration.ZERO, Time.unixEpoch, s.timestamp⟩) t =
        .ok () ↔
      Time.unixEpoch.asUnixTimestampNanos < t.asUnixTimestampNanos ∧
        c.PassesTrustingPeriod E t s := by
  rw [hContexts, ClientState.PassesTrustingPeriod, hChecks.withinTrustingPeriod, and_comm,
    Duration.asNanos_ZERO, Nat.add_zero]

/-- An accepted header has a context that restates its checks. -/
theorem EthereumLightClient.Updates.restates (hE : E.ConvertsConsensusStates)
    (hContexts : ExactContexts evaluate) (hChecks : E.ExactTimeChecks) {header : Header T}
    {c : ClientState} {s s' : ConsensusState T} {data : UpdateStateData T}
    (h : Updates E ctx clientId header c s s' data) :
    RestatesHeaderChecks E evaluate ctx.hostTimestamp header c s data := by
  obtain ⟨time, keys, hAccepts, rfl⟩ := h.accepts
  obtain ⟨prevId, postId, -, -, hMessage⟩ := h.message
  have hRestates : ∀ t, evaluate data.message.context t = .ok () ↔
      c.PassesTrustingPeriod E t s ∧ c.PassesNotFuture E t data.message.timestamp := by
    rw [hMessage]
    exact evaluate_headerContext hContexts hChecks c s time
  constructor
  · rw [hMessage]
    exact hAccepts.timestamp
  · refine (hRestates ctx.hostTimestamp).mpr ⟨hAccepts.withinTrustingPeriod, ?_⟩
    rw [hMessage]
    exact hAccepts.notFuture
  · exact hRestates
  · intro t hTimestamp
    rw [hRestates, ClientState.passesTimeChecks_iff hTimestamp]
  · rw [hMessage]
    exact ⟨_, rfl, rfl⟩
  · rw [hMessage]
    exact .of_tryIntoAny hE h.newAnyConsensusState
  · intro s' hDecoded
    rw [hMessage, ConsensusState.tryFromAny_tryIntoAny hE h.newAnyConsensusState hDecoded]
    rfl

/-- So has accepted evidence, at a host time after the epoch. -/
theorem EthereumLightClient.Punishes.restates (hContexts : ExactContexts evaluate)
    (hChecks : E.ExactTimeChecks) {anyMessage : Any} {misbehaviour : Misbehaviour T}
    {c : ClientState} {s : ConsensusState T} {data : MisbehaviourData T}
    (h : Punishes E ctx clientId anyMessage misbehaviour c s data)
    (hEpoch : Time.unixEpoch.asUnixTimestampNanos < ctx.hostTimestamp.asUnixTimestampNanos) :
    RestatesMisbehaviourCheck E evaluate ctx.hostTimestamp c s data := by
  obtain ⟨stateId, -, hMessage⟩ := h.message
  have hRestates : ∀ t, evaluate data.message.context t = .ok () ↔
      Time.unixEpoch.asUnixTimestampNanos < t.asUnixTimestampNanos ∧
        c.PassesTrustingPeriod E t s := by
    rw [hMessage]
    exact evaluate_misbehaviourContext hContexts hChecks c s
  exact ⟨(hRestates _).mpr ⟨hEpoch, h.accepts.withinTrustingPeriod⟩, hRestates⟩

/-- The context of every accepted header and of every accepted misbehaviour restates
the time checks that were made of it, so the chain can repeat them at a time of its
own. Both sides are assumed to compare exact nanoseconds. The context says nothing
of the other checks. -/
theorem context_restates_timeChecks (hE : E.ConvertsConsensusStates) (hChecks : E.ExactTimeChecks)
    (hContexts : ExactContexts evaluate) (ctx : HostClientReader) (clientId : ClientId) :
    (∀ header data, updateState E ctx clientId header = .ok data →
      ∃ c s, Reads E ctx clientId header.trustedHeight c s ∧
        RestatesHeaderChecks E evaluate ctx.hostTimestamp header c s data) ∧
    (∀ anyMessage misbehaviour data, Time.unixEpoch.asUnixTimestampNanos <
        ctx.hostTimestamp.asUnixTimestampNanos →
      submitMisbehaviour E ctx clientId anyMessage misbehaviour = .ok data →
      ∃ c s, Reads E ctx clientId misbehaviour.trustedHeight c s ∧
        RestatesMisbehaviourCheck E evaluate ctx.hostTimestamp c s data) := by
  constructor
  · intro header data h
    obtain ⟨c, s, s', hUpdates⟩ := updateState_eq_ok.mp h
    exact ⟨c, s, hUpdates.reads, hUpdates.restates hE hContexts hChecks⟩
  · intro anyMessage misbehaviour data hEpoch h
    obtain ⟨c, s, hPunishes⟩ := submitMisbehaviour_eq_ok.mp h
    exact ⟨c, s, hPunishes.reads, hPunishes.restates hContexts hChecks hEpoch⟩

section Relayed

open Reference

/-- The evaluation of a context on the reference chain. -/
def Reference.evaluateContext : ValidationContext → Time → Except ExternalError Unit
  | .empty, _ => .ok ()
  | .trustingPeriod context, t =>
      accept (t.asUnixTimestampNanos < context.trustedStateTimestamp.asUnixTimestampNanos +
          context.trustingPeriod.asNanos ∧
        context.untrustedHeaderTimestamp.asUnixTimestampNanos <
          t.asUnixTimestampNanos + context.clockDrift.asNanos)

theorem Reference.evaluateContext_exact : ExactContexts evaluateContext :=
  fun _ _ => accept_eq_ok

/-- The header of block 3 and a fork of it, each against the state at height 2. -/
theorem relayed_context_restates_timeChecks :
    RestatesHeaderChecks externals evaluateContext relayTime (header 2 6 0) (clientState 2)
        (consensusState 4) (updateData (clientState 2) 2 4 6 0) ∧
      RestatesMisbehaviourCheck externals evaluateContext relayTime (clientState 2)
        (consensusState 4) (misbehaviourData (clientState 2) relayed 2 4 6 0 1) := by
  have hReads := relayedStore_reads relayTime
  have hUpdate : updateState externals (relayedStore.reader relayTime) relayed (header 2 6 0) =
      .ok (updateData (clientState 2) 2 4 6 0) :=
    updateState_eq_ok.mpr ⟨_, _, _, updates acceptable_six (clientState_sameConfig 2 2) 0 hReads⟩
  have hFork : submitMisbehaviour externals (relayedStore.reader relayTime) relayed
      (misbehaviourAny relayed 2 6 0 1) (misbehaviour relayed 2 6 0 1) =
      .ok (misbehaviourData (clientState 2) relayed 2 4 6 0 1) :=
    submitMisbehaviour_eq_ok.mpr
      ⟨_, _, punishes acceptable_six (by decide) (clientState_sameConfig 2 2) hReads⟩
  obtain ⟨hHeaders, hMisbehaviours⟩ := context_restates_timeChecks
    externals_lawful.toConvertsConsensusStates externals_exactTimeChecks evaluateContext_exact
    (relayedStore.reader relayTime) relayed
  constructor
  · obtain ⟨c, s, hRead, hRestates⟩ := hHeaders _ _ hUpdate
    obtain ⟨rfl, hs⟩ := hReads.unique hRead
    cases hs rfl
    exact hRestates
  · obtain ⟨c, s, hRead, hRestates⟩ := hMisbehaviours _ _ _ (by decide) hFork
    obtain ⟨rfl, hs⟩ := hReads.unique hRead
    cases hs rfl
    exact hRestates

end Relayed

end EthereumElc
