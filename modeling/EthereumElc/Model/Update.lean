import EthereumElc.Model.ClientState
import EthereumElc.Model.Misbehaviour

/-! The two checks of a client message against a trusted consensus state, and
the states that they compute. -/
namespace EthereumElc

variable {T : ExternalTypes} (E : Externals T)

namespace ClientState

/-- The check of a header against a trusted consensus state, and the states that it
leaves. The timestamp is computed before the verifier has seen the update, and is
used only after it has. -/
def checkHeaderAndUpdateState (c : ClientState) (now : Time) (consensusState : ConsensusState T)
    (header : Header T) : Result (ClientState × ConsensusState T) := do
  let cc := c.buildContext now
  header.validate E
  let headerTimestamp ← header.timestamp E cc
  let trustedConsensusState ← Outcome.lift .ethereumLightClientTypes
    (E.trustedConsensusStateNew consensusState header.trustedSyncCommittee.syncCommittee
      header.trustedSyncCommittee.isNext)
  Outcome.lift .verification (E.validateUpdates cc trustedConsensusState header.consensusUpdate
    header.executionUpdate)
  Outcome.lift .ethereumLightClientTypes (E.verifyAccountStorage header.executionUpdate.stateRoot
    c.ibcAddress header.accountUpdate)
  Outcome.lift .ethereumLightClientTypes (E.validateStateTimestampWithinTrustingPeriod
    now.asUnixTimestampNanos c.trustingPeriod consensusState.timestamp.asUnixTimestampNanos)
  Outcome.lift .ethereumLightClientTypes (E.validateHeaderTimestampNotFuture
    now.asUnixTimestampNanos c.maxClockDrift headerTimestamp.asUnixTimestampNanos)
  let finalizedSlot := header.consensusUpdate.finalizedHeader.1.slot
  let newSyncCommittee ← Outcome.lift .ethereumLightClientTypes
    (E.computeSyncCommittees cc consensusState header.consensusUpdate)
  let newClientState := c.withLatestBlock header.executionUpdate.blockNumber
  let newConsensusState := { consensusState with
    slot := finalizedSlot
    storageRoot := header.accountUpdate.accountStorageRoot
    timestamp := headerTimestamp
    currentSyncCommittee := newSyncCommittee.currentSyncCommittee
    nextSyncCommittee := newSyncCommittee.nextSyncCommittee }
  pure (newClientState, newConsensusState)

/-- The check of evidence. Only the trusting period is looked at; the updates may be
from the future of the host. -/
def checkMisbehaviourAndUpdateState (c : ClientState) (now : Time) (clientId : ClientId)
    (consensusState : ConsensusState T) (misbehaviour : Misbehaviour T) : Result ClientState := do
  misbehaviour.validate E
  Outcome.rejectIf (misbehaviour.clientId ≠ clientId)
    (.unexpectedClientIdInMisbehaviour clientId misbehaviour.clientId)
  let cc := c.buildContext now
  let trustedConsensusState ← Outcome.lift .ethereumLightClientTypes
    (E.trustedConsensusStateNew consensusState misbehaviour.trustedSyncCommittee.syncCommittee
      misbehaviour.trustedSyncCommittee.isNext)
  Outcome.lift .verification
    (E.validateMisbehaviour cc trustedConsensusState misbehaviour.data)
  Outcome.lift .ethereumLightClientTypes (E.validateStateTimestampWithinTrustingPeriod
    now.asUnixTimestampNanos c.trustingPeriod consensusState.timestamp.asUnixTimestampNanos)
  pure (c.withFrozenHeight (toLcpHeight misbehaviour.trustedSyncCommittee.height))

/-- Everything a header must pass, with the timestamp and the keys that the
checks compute on the way. -/
structure AcceptsHeader (c : ClientState) (now : Time) (s : ConsensusState T) (header : Header T)
    (time : Time) (keys : NewSyncCommittees T) : Prop where
  validate : header.validate E = .ok ()
  timestamp : header.timestamp E (c.buildContext now) = .ok time
  updates : ∃ trusted, E.trustedConsensusStateNew s header.trustedSyncCommittee.syncCommittee
      header.trustedSyncCommittee.isNext = .ok trusted ∧
    E.validateUpdates (c.buildContext now) trusted header.consensusUpdate
      header.executionUpdate = .ok ()
  account : E.verifyAccountStorage header.executionUpdate.stateRoot c.ibcAddress
    header.accountUpdate = .ok ()
  withinTrustingPeriod : E.validateStateTimestampWithinTrustingPeriod now.asUnixTimestampNanos
    c.trustingPeriod s.timestamp.asUnixTimestampNanos = .ok ()
  notFuture : E.validateHeaderTimestampNotFuture now.asUnixTimestampNanos c.maxClockDrift
    time.asUnixTimestampNanos = .ok ()
  keys : E.computeSyncCommittees (c.buildContext now) s header.consensusUpdate = .ok keys

/-- Everything evidence of misbehaviour must pass. -/
structure AcceptsMisbehaviour (c : ClientState) (now : Time) (clientId : ClientId)
    (s : ConsensusState T) (misbehaviour : Misbehaviour T) : Prop where
  validate : misbehaviour.validate E = .ok ()
  clientId : misbehaviour.clientId = clientId
  evidence : ∃ trusted, E.trustedConsensusStateNew s
      misbehaviour.trustedSyncCommittee.syncCommittee
      misbehaviour.trustedSyncCommittee.isNext = .ok trusted ∧
    E.validateMisbehaviour (c.buildContext now) trusted misbehaviour.data = .ok ()
  withinTrustingPeriod : E.validateStateTimestampWithinTrustingPeriod now.asUnixTimestampNanos
    c.trustingPeriod s.timestamp.asUnixTimestampNanos = .ok ()

end ClientState

/-- The consensus state that an accepted header leaves. It takes nothing from
the trusted state except through the computed keys. -/
def Header.newConsensusState (header : Header T) (time : Time) (keys : NewSyncCommittees T) :
    ConsensusState T where
  slot := header.finalizedSlot
  storageRoot := header.accountUpdate.accountStorageRoot
  timestamp := time
  currentSyncCommittee := keys.currentSyncCommittee
  nextSyncCommittee := keys.nextSyncCommittee

variable {E}

namespace ClientState

/-- The check succeeds exactly when every part of it does, and then the new states
are computed from the header alone. -/
theorem checkHeaderAndUpdateState_eq_ok {c : ClientState} {now : Time} {s : ConsensusState T}
    {header : Header T} {result : ClientState × ConsensusState T} :
    c.checkHeaderAndUpdateState E now s header = .ok result ↔
      ∃ time keys, c.AcceptsHeader E now s header time keys ∧
        result = (c.withLatestBlock header.executionUpdate.blockNumber,
          header.newConsensusState time keys) := by
  simp only [checkHeaderAndUpdateState, Outcome.bind_eq_ok, Outcome.lift_eq_ok,
    Outcome.pure_eq_ok]
  constructor
  · rintro ⟨⟨⟩, hValid, time, hTime, trusted, hTrusted, ⟨⟩, hUpdates, ⟨⟩, hAccount, ⟨⟩, hPeriod,
      ⟨⟩, hFuture, keys, hKeys, rfl⟩
    exact ⟨time, keys, ⟨hValid, hTime, ⟨trusted, hTrusted, hUpdates⟩, hAccount, hPeriod, hFuture,
      hKeys⟩, rfl⟩
  · rintro ⟨time, keys, ⟨hValid, hTime, ⟨trusted, hTrusted, hUpdates⟩, hAccount, hPeriod, hFuture,
      hKeys⟩, rfl⟩
    exact ⟨(), hValid, time, hTime, trusted, hTrusted, (), hUpdates, (), hAccount, (), hPeriod,
      (), hFuture, keys, hKeys, rfl⟩

/-- Accepted evidence freezes the client at the height that it trusts. -/
theorem checkMisbehaviourAndUpdateState_eq_ok {c : ClientState} {now : Time} {clientId : ClientId}
    {s : ConsensusState T} {misbehaviour : Misbehaviour T} {result : ClientState} :
    c.checkMisbehaviourAndUpdateState E now clientId s misbehaviour = .ok result ↔
      c.AcceptsMisbehaviour E now clientId s misbehaviour ∧
        result = c.withFrozenHeight misbehaviour.trustedHeight := by
  simp only [checkMisbehaviourAndUpdateState, Outcome.bind_eq_ok, Outcome.lift_eq_ok,
    Outcome.rejectIf_eq_ok, Outcome.pure_eq_ok, ne_eq, not_not]
  constructor
  · rintro ⟨⟨⟩, hValid, ⟨⟩, hId, trusted, hTrusted, ⟨⟩, hEvidence, ⟨⟩, hPeriod, rfl⟩
    exact ⟨⟨hValid, hId, ⟨trusted, hTrusted, hEvidence⟩, hPeriod⟩, rfl⟩
  · rintro ⟨⟨hValid, hId, ⟨trusted, hTrusted, hEvidence⟩, hPeriod⟩, rfl⟩
    exact ⟨(), hValid, (), hId, trusted, hTrusted, (), hEvidence, (), hPeriod, rfl⟩

/-- The checks of a header do not depend on the fields that a state id leaves out. -/
theorem AcceptsHeader.of_sameConfig {c d : ClientState} {now : Time} {s : ConsensusState T}
    {header : Header T} {time : Time} {keys : NewSyncCommittees T}
    (h : c.AcceptsHeader E now s header time keys) (hConfig : d.SameConfig c) :
    d.AcceptsHeader E now s header time keys := by
  obtain ⟨-, -, -, -, -, -, -, hAddress, -, -, hPeriod, hDrift⟩ := sameConfig_iff.mp hConfig
  obtain ⟨h1, h2, h3, h4, h5, h6, h7⟩ := h
  rw [← hConfig.buildContext_eq] at h2 h3 h7
  rw [← hAddress] at h4
  rw [← hPeriod] at h5
  rw [← hDrift] at h6
  exact ⟨h1, h2, h3, h4, h5, h6, h7⟩

/-- The checks of evidence do not depend on the fields that a state id leaves out. -/
theorem AcceptsMisbehaviour.of_sameConfig {c d : ClientState} {now : Time} {clientId : ClientId}
    {s : ConsensusState T} {misbehaviour : Misbehaviour T}
    (h : c.AcceptsMisbehaviour E now clientId s misbehaviour) (hConfig : d.SameConfig c) :
    d.AcceptsMisbehaviour E now clientId s misbehaviour := by
  obtain ⟨-, -, -, -, -, -, -, -, -, -, hPeriod, -⟩ := sameConfig_iff.mp hConfig
  obtain ⟨h1, h2, h3, h4⟩ := h
  rw [← hConfig.buildContext_eq] at h3
  rw [← hPeriod] at h4
  exact ⟨h1, h2, h3, h4⟩

/-- Heights that headers post are not zero. -/
theorem AcceptsHeader.blockNumber_ne_zero {c : ClientState} {now : Time} {s : ConsensusState T}
    {header : Header T} {time : Time} {keys : NewSyncCommittees T}
    (h : c.AcceptsHeader E now s header time keys) : header.executionUpdate.blockNumber ≠ 0 :=
  (Header.validate_eq_ok.mp h.validate).2

end ClientState

end EthereumElc
