import EthereumElc.Properties.Isolation
import EthereumElc.Properties.Stored

/-! A client that nobody updates in time: once the trusting period of every state
that it holds has passed, no message can change it any more. -/
namespace EthereumElc

open EthereumLightClient ClientTracker

variable {T : ExternalTypes} {E : Externals T} {clientId : ClientId}
  {trace : Transition.Trace Request (Response T)} {store store' : Store}

/-- The trusting period of every state of the client has passed at an instant. -/
def ExpiredAt (E : Externals T) (store : Store) (clientId : ClientId) (c : ClientState)
    (instant : Nat) : Prop :=
  ∀ height any s, store.consensusState clientId height = some any →
    ConsensusState.tryFromAny E any = .ok s →
    s.timestamp.asUnixTimestampNanos + c.trustingPeriod.asNanos ≤ instant

/-- A state whose trusting period has passed vouches for nothing. -/
theorem ExpiredAt.not_within (hChecks : E.ExactTimeChecks) {c : ClientState} {instant : Nat}
    (hExpired : ExpiredAt E store clientId c instant) {any : Any}
    (hAny : store.clientState clientId = some any) (hc : ClientState.tryFromAny E any = .ok c)
    {now : Time} (hNow : instant ≤ now.asUnixTimestampNanos) {height : Height} {d : ClientState}
    {s : ConsensusState T} (hReads : Reads E (store.reader now) clientId height d s) :
    E.validateStateTimestampWithinTrustingPeriod now.asUnixTimestampNanos d.trustingPeriod
      s.timestamp.asUnixTimestampNanos ≠ .ok () := by
  obtain rfl := hReads.client_eq hAny hc
  obtain ⟨anyState, hAnyState, hs⟩ := hReads.consensusState
  have hPassed := hExpired _ _ _ (Store.reader_consensusState_eq_ok.mp hAnyState) hs
  intro hWithin
  have hBefore := (hChecks.withinTrustingPeriod _ _ _).mp hWithin
  omega

/-- At a time when every state of a client is expired, no request writes it. -/
theorem ExpiredAt.step (hChecks : E.ExactTimeChecks) {c : ClientState} {instant : Nat}
    (hExpired : ExpiredAt E store clientId c instant) {any : Any}
    (hAny : store.clientState clientId = some any) (hc : ClientState.tryFromAny E any = .ok c)
    {request : Request} {response : Response T} (hNow : instant ≤ request.now.asUnixTimestampNanos)
    (hStep : exec E store request = (store', response)) :
    Event.writes (request, response) ≠ some clientId := by
  cases exec_clientStep hStep clientId with
  | created hFresh =>
      rw [hAny] at hFresh
      cases hFresh
  | updated hMessage hUpdates =>
      obtain ⟨time, keys, hAccepts, -⟩ := hUpdates.accepts
      exact absurd hAccepts.withinTrustingPeriod
        (hExpired.not_within hChecks hAny hc hNow hUpdates.reads)
  | misbehaved hMessage hPunishes =>
      exact absurd hPunishes.accepts.withinTrustingPeriod
        (hExpired.not_within hChecks hAny hc hNow hPunishes.reads)
  | idle hQuiet => exact hQuiet

/-- No later request changes an expired client, or is answered with something to write. -/
theorem ExpiredAt.steps (hChecks : E.ExactTimeChecks) {c : ClientState} {instant : Nat}
    (hExpired : ExpiredAt E store clientId c instant) {any : Any}
    (hAny : store.clientState clientId = some any) (hc : ClientState.tryFromAny E any = .ok c)
    {later : Transition.Trace Request (Response T)}
    (hSteps : Transition.Steps (machine E) store later store')
    (hTimes : ∀ event ∈ later, instant ≤ event.1.now.asUnixTimestampNanos) :
    SameClient clientId store store' ∧ ∀ event ∈ later, Event.writes event ≠ some clientId := by
  induction hSteps with
  | zero => exact ⟨.refl _ _, List.forall_mem_nil _⟩
  | @succ m n later request response _ hLast ih =>
      obtain ⟨hNow, hBefore⟩ := List.forall_mem_cons.mp hTimes
      obtain ⟨hSame, hQuiet⟩ := ih hBefore
      have hExpired' : ExpiredAt E m clientId c instant := by
        intro height any s hStored
        rw [hSame.consensusState] at hStored
        exact hExpired height any s hStored
      have hWrites := hExpired'.step hChecks (hSame.clientState.trans hAny) hc hNow hLast
      exact ⟨hSame.trans (sameClient_of_quiet hLast hWrites), List.forall_mem_cons.mpr
        ⟨hWrites, hQuiet⟩⟩

/-- Nothing was accepted for the client after an instant, and its creation was not
ahead of the instant by more than the clock drift. -/
structure SilentSince (clientId : ClientId) (trace : Transition.Trace Request (Response T))
    (instant drift : Nat) : Prop where
  created : ∀ now anyClient anyConsensus result,
    ((⟨now, .createClient clientId anyClient anyConsensus⟩, .created result) : Event T) ∈ trace →
    result.message.timestamp.asUnixTimestampNanos ≤ instant + drift
  writes : ∀ event ∈ trace, Event.writes event = some clientId →
    event.1.now.asUnixTimestampNanos ≤ instant

theorem SilentSince.tail {event : Event T} {instant drift : Nat}
    (h : SilentSince clientId (event :: trace) instant drift) :
    SilentSince clientId trace instant drift where
  created _ _ _ _ hMem := h.created _ _ _ _ (List.mem_cons_of_mem _ hMem)
  writes _ hMem := h.writes _ (List.mem_cons_of_mem _ hMem)

/-- No stored state is ahead of the last accepted message by more than the drift. -/
theorem timestamp_le_of_silent (hE : E.Lawful) (hChecks : E.ExactTimeChecks)
    (hRun : Transition.Run (machine E) trace store) {any : Any}
    (hAny : store.clientState clientId = some any) (instant : Nat) :
    ∃ t, Represents E clientId trace store t ∧
      (SilentSince clientId trace instant t.config.maxClockDrift.asNanos →
        ∀ n a, t.states n = some a → a.state.timestamp.asUnixTimestampNanos ≤
          instant + t.config.maxClockDrift.asNanos) := by
  refine represents_induction hE (fun trace t =>
    SilentSince clientId trace instant t.config.maxClockDrift.asNanos →
      ∀ n a, t.states n = some a → a.state.timestamp.asUnixTimestampNanos ≤
        instant + t.config.maxClockDrift.asNanos) ?_ ?_ ?_ ?_ hRun hAny
  · intro trace now anyClient anyConsensus c s id _ hSilent n a hStates
    obtain ⟨rfl, rfl⟩ := Tracker.opened_states_eq_some.mp hStates
    exact hSilent.created _ _ _ _ List.mem_cons_self
  · intro trace store t now anyMessage header c s s' data a' hBounded hRepresents hMessage hUpdates
      hState _ hSilent n a hStates
    by_cases hEq : n = header.executionUpdate.blockNumber
    · subst hEq
      rw [Tracker.advance_states_self, Option.some.injEq] at hStates
      subst hStates
      obtain ⟨k, b, time, keys, -, -, -, hAccepts, hNew⟩ := hRepresents.of_updates hE hUpdates
      have hDrift := (hChecks.notFuture _ _ _).mp hAccepts.notFuture
      have hNow : now.asUnixTimestampNanos ≤ instant := hSilent.writes _ List.mem_cons_self rfl
      have hTime : a'.state.timestamp = time := by
        rw [hState, hNew]
        rfl
      have hConfig : (t.advance header.executionUpdate.blockNumber a').config = t.config := rfl
      rw [hTime, hConfig]
      omega
    · rw [Tracker.advance_states_of_ne _ _ hEq] at hStates
      exact hBounded hSilent.tail n a hStates
  · intro trace t now anyMessage data mark hBounded hSilent
    exact hBounded hSilent.tail
  · intro trace t event hBounded hSilent
    exact hBounded hSilent.tail

/-- A client that has accepted nothing for its clock drift and its trusting period
together is lost: from then on no header and no evidence is accepted for it, and its
entries stay as they are. The times of the host need not be in order. Membership
proofs are not refused, as they check no time. -/
theorem silent_client_expires (hE : E.Lawful) (hChecks : E.ExactTimeChecks)
    (hRun : Transition.Run (machine E) trace store) {any : Any} {c : ClientState}
    (hAny : store.clientState clientId = some any) (hc : ClientState.tryFromAny E any = .ok c)
    {instant : Nat} (hSilent : SilentSince clientId trace instant c.maxClockDrift.asNanos)
    {later : Transition.Trace Request (Response T)}
    (hSteps : Transition.Steps (machine E) store later store')
    (hTimes : ∀ event ∈ later, instant + c.maxClockDrift.asNanos + c.trustingPeriod.asNanos ≤
      event.1.now.asUnixTimestampNanos) :
    SameClient clientId store store' ∧ ∀ event ∈ later, Event.writes event ≠ some clientId := by
  obtain ⟨t, hRepresents, hBounded⟩ := timestamp_le_of_silent hE hChecks hRun hAny instant
  obtain rfl := hRepresents.client_eq hAny hc
  have hExpired : ExpiredAt E store clientId (ClientTracker.clientState t)
      (instant + (ClientTracker.clientState t).maxClockDrift.asNanos +
        (ClientTracker.clientState t).trustingPeriod.asNanos) := by
    intro height anyState s hStored hDecoded
    obtain ⟨n, a, -, hStates, hStores⟩ := hRepresents.states_of_stored hStored
    obtain rfl := hStores.eq_of_tryFromAny hE hDecoded
    exact Nat.add_le_add_right (hBounded hSilent n a hStates) _
  exact hExpired.steps hChecks hAny hc hSteps hTimes

section Relayed

open Reference

/-- The relayed client, and a header of block 3 that arrives a month late. -/
def lateRequest : Request := ⟨blockTime 200000, .updateClient relayed (headerAny 2 6 0)⟩

theorem relayed_silent : SilentSince relayed relayedTrace relayTime.asUnixTimestampNanos
    (clientState 2).maxClockDrift.asNanos where
  created now anyClient anyConsensus result hMem := by
    simp only [relayedTrace, createRequest, List.mem_cons, List.not_mem_nil, or_false,
      Prod.mk.injEq, Request.mk.injEq, reduceCtorEq, and_false, false_or] at hMem
    obtain ⟨-, hResult⟩ := hMem
    cases hResult
    decide
  writes event hMem _ := by
    simp only [relayedTrace, List.mem_cons, List.not_mem_nil, or_false] at hMem
    rcases hMem with rfl | rfl
    · exact le_rfl
    · exact le_rfl

/-- The header of block 3 comes too late for the relayed client. -/
theorem relayed_expires :
    SameClient relayed relayedStore (exec externals relayedStore lateRequest).1 := by
  have hSteps := steps_exec (Transition.Steps.zero relayedStore)
    (rfl : exec externals relayedStore lateRequest = _)
  exact (silent_client_expires externals_lawful externals_exactTimeChecks relayedStore_run
    relayedStore_clientState (tryFromAny_clientAny (clientState_sameConfig 2 2)) relayed_silent
    hSteps (List.forall_mem_singleton.mpr (by decide))).1

end Relayed

end EthereumElc
