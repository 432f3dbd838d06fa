import EthereumElc.Host.Simulation
import EthereumElc.Reference.Relayer

/-! What the host has stored for a client in any reachable store: heights up to
the latest one, bytes that decode, and the configuration of the creation. -/
namespace EthereumElc

open EthereumLightClient ClientTracker

variable {T : ExternalTypes} {E : Externals T} {clientId : ClientId}
  {trace : Transition.Trace Request (Response T)} {store store' : Store} {t : ClientTracker T}

/-- The latest height of a tracker, as the light client reports it. -/
theorem Represents.latestHeight (h : Represents E clientId trace store t) (now : Time) :
    EthereumLightClient.latestHeight E (store.reader now) clientId = .ok (heightOf t.latest) := by
  obtain ⟨any, hAny, hClient⟩ := h.clientState
  exact latestHeight_eq_ok.mpr
    ⟨any, _, Store.reader_clientState_eq_ok.mpr hAny, hClient, rfl⟩

/-- The heights that hold a consensus state of a client, below its latest height. -/
structure LatestIsGreatest (store : Store) (clientId : ClientId) (latest : Height) : Prop where
  stored : (store.consensusState clientId latest).isSome
  bounds : ∀ height, (store.consensusState clientId height).isSome →
    height.revisionNumber = 0 ∧ height.revisionHeight ≠ 0 ∧
      height.revisionHeight ≤ latest.revisionHeight

/-- No state is tracked at block 0: neither a creation nor a header has it. -/
theorem Tracked.heights_ne_zero {c : ClientState} {s : ConsensusState T} {id : T.StateID}
    (h : Tracked E clientId trace c s id t) {n : U64} {a : Attested T}
    (hStates : t.states n = some a) : n ≠ 0 := by
  obtain ⟨now, anyClient, anyConsensus, hCreates, -⟩ := h.creation
  refine states_invariant (fun n _ => n ≠ 0) h.evolves ?_ ?_ n a hStates
  · obtain ⟨-, -, -, -, -, -, -, -, -, -, -, hLatest⟩ := ClientState.validate_eq_ok.mp hCreates.valid
    exact hLatest
  · rintro k b k' b' - ⟨now, header, time, keys, -, rfl, hAccepts, -, -⟩
    exact hAccepts.blockNumber_ne_zero

/-- The latest block number of a tracker is the greatest stored height. -/
theorem Represents.latestIsGreatest (h : Represents E clientId trace store t) {c : ClientState}
    {s : ConsensusState T} {id : T.StateID} (hTracked : Tracked E clientId trace c s id t) :
    LatestIsGreatest store clientId (heightOf t.latest) := by
  constructor
  · obtain ⟨a, ha⟩ := Option.isSome_iff_exists.mp t.latest_stored
    obtain ⟨any, hAny, -⟩ := h.stored_of_states ha
    rw [hAny]
    rfl
  · intro height hSome
    obtain ⟨any, hAny⟩ := Option.isSome_iff_exists.mp hSome
    obtain ⟨n, a, rfl, hStates, -⟩ := h.states_of_stored hAny
    exact ⟨rfl, hTracked.heights_ne_zero hStates,
      t.le_latest n (Option.isSome_iff_exists.mpr ⟨a, hStates⟩)⟩

/-- The latest height of a client is the greatest height that holds a consensus
state; it never decreases, and an update takes it to the maximum of itself and the
height of the update. An update below the latest height stores its state there all
the same. -/
theorem latestHeight_isGreatest (hE : E.Lawful) (hRun : Transition.Run (machine E) trace store)
    {any : Any} (hAny : store.clientState clientId = some any) :
    ∃ latest, (∀ now, latestHeight E (store.reader now) clientId = .ok latest) ∧
      LatestIsGreatest store clientId latest ∧
      (∀ later store', Transition.Steps (machine E) store later store' →
        ∃ latest', (∀ now, latestHeight E (store'.reader now) clientId = .ok latest') ∧
          latest.revisionHeight ≤ latest'.revisionHeight) ∧
      ∀ now anyMessage data store',
        exec E store ⟨now, .updateClient clientId anyMessage⟩ = (store', .updated data) →
        ∀ now', latestHeight E (store'.reader now') clientId =
          .ok ⟨0, max latest.revisionHeight data.height.revisionHeight⟩ := by
  obtain ⟨c, s, id, t, hTracked, hRepresents⟩ := represents_of_stored hE hRun hAny
  refine ⟨heightOf t.latest, hRepresents.latestHeight, hRepresents.latestIsGreatest hTracked, ?_, ?_⟩
  · intro later store' hSteps
    obtain ⟨t', hEvolves, hRepresents'⟩ := hRepresents.steps hE hSteps
    exact ⟨heightOf t'.latest, hRepresents'.latestHeight, hEvolves.latest_le⟩
  · intro now anyMessage data store' hStep now'
    cases exec_clientStep hStep clientId with
    | updated hMessage hUpdates hClient hConsensus =>
        obtain ⟨a', -, -, hNext⟩ := hRepresents.updated hE anyMessage hUpdates hClient
          hConsensus
        rw [hNext.latestHeight, hUpdates.height]
        rfl
    | idle hQuiet => exact absurd rfl hQuiet

section Relayed

open Reference

theorem relayedStore_clientState :
    relayedStore.clientState relayed = some (clientAny (clientState 2)) := by
  rw [relayedStore, Store.applyUpdate_clientState, Function.update_self]
  rfl

/-- The relayed client is at height 2, and its next header takes it to height 3. -/
theorem relayed_latestHeight_isGreatest :
    LatestIsGreatest relayedStore relayed ⟨0, 2⟩ ∧
      ∀ now, latestHeight externals ((relayedStore.applyUpdate relayed
        (updateData (clientState 2) 2 4 6 0)).reader now) relayed = .ok ⟨0, 3⟩ := by
  obtain ⟨latest, hLatest, hGreatest, -, hUpdates⟩ :=
    latestHeight_isGreatest externals_lawful relayedStore_run relayedStore_clientState
  have hHeight : latest = ⟨0, 2⟩ := Except.ok.inj ((hLatest relayTime).symm.trans
    (latestHeight_eq_ok.mpr ⟨_, _, Store.reader_clientState_eq_ok.mpr relayedStore_clientState,
      tryFromAny_clientAny (clientState_sameConfig 2 2), rfl⟩))
  subst hHeight
  exact ⟨hGreatest, hUpdates _ _ _ _ relayedStore_next⟩

end Relayed

/-- An accepted header is newer than the state it trusts, since the verifier rejects
irrelevant updates. -/
theorem ClientState.AcceptsHeader.slot_lt (hRelevant : E.RejectsIrrelevant) {c : ClientState}
    {now : Time} {s : ConsensusState T} {header : Header T} {time : Time}
    {keys : NewSyncCommittees T} (h : c.AcceptsHeader E now s header time keys) :
    s.slot < header.finalizedSlot := by
  obtain ⟨trusted, hTrusted, hUpdates⟩ := h.updates
  by_contra hLt
  exact hRelevant _ _ _ _ _ _ _ hTrusted (decide_eq_false hLt) hUpdates

/-- An attested state that is read back from its bytes. -/
structure Readable (E : Externals T) (s : ConsensusState T) : Prop where
  slot : s.slot ≠ 0
  current : ∃ key, E.publicKeyTryFrom (E.publicKeyToVec s.currentSyncCommittee) = .ok key
  next : ∃ key, E.publicKeyTryFrom (E.publicKeyToVec s.nextSyncCommittee) = .ok key

theorem Stores.tryFromAny (hE : E.Lawful) {any : Any} {s : ConsensusState T} (h : Stores E any s)
    (hReadable : Readable E s) : ConsensusState.tryFromAny E any = .ok s := by
  rcases h with hDecoded | hEncoded
  · exact hDecoded
  · exact ConsensusState.tryFromAny_of_keys hE.toConvertsConsensusStates hEncoded
      hReadable.current hReadable.next

/-- A created state is readable, as it was decoded. -/
theorem EthereumLightClient.Creates.readable (hE : E.Lawful) {anyClient anyConsensus : Any}
    {c : ClientState} {s : ConsensusState T} {id : T.StateID}
    (h : Creates E anyClient anyConsensus c s id) : Readable E s := by
  obtain ⟨-, raw, -, hDecodes⟩ := ConsensusState.tryFromAny_eq_ok.mp h.consensusState
  exact ⟨(ConsensusState.validate_eq_ok.mp h.consensusValid).1,
    ⟨_, hE.publicKey_decoded _ _ hDecodes.currentSyncCommittee⟩,
    ⟨_, hE.publicKey_decoded _ _ hDecodes.nextSyncCommittee⟩⟩

/-- All tracked states are, since computed keys are accepted by their decoder. -/
theorem Tracked.readable (hE : E.Lawful) (hKeys : E.AcceptsComputedKeys)
    (hRelevant : E.RejectsIrrelevant) {c : ClientState} {s : ConsensusState T} {id : T.StateID}
    (h : Tracked E clientId trace c s id t) {n : U64} {a : Attested T}
    (hStates : t.states n = some a) : Readable E a.state := by
  obtain ⟨now, anyClient, anyConsensus, hCreates, -⟩ := h.creation
  refine states_invariant (fun _ a => Readable E a.state) h.evolves (hCreates.readable hE) ?_ n a
    hStates
  rintro k b k' b' - ⟨now, header, time, keys, -, -, hAccepts, hNew, -⟩
  obtain ⟨hCurrent, hNext⟩ := hKeys _ _ _ _ hAccepts.keys
  rw [hNew]
  refine ⟨?_, hCurrent, hNext⟩
  have hSlot := hAccepts.slot_lt hRelevant
  rintro (hZero : header.finalizedSlot = 0)
  rw [hZero] at hSlot
  exact absurd hSlot UInt64.not_lt_zero

/-- The divisions of a context are defined. -/
structure WellFormedContext (ctx : LightClientContext) : Prop where
  slotsPerEpoch : ctx.slotsPerEpoch ≠ 0
  epochsPerSyncCommitteePeriod : ctx.epochsPerSyncCommitteePeriod ≠ 0
  secondsPerSlot : ctx.secondsPerSlot ≠ 0

/-- With both divisors the period of a slot is a plain quotient. -/
theorem WellFormedContext.dividePeriod {ε : Type} {ctx : LightClientContext}
    (h : WellFormedContext ctx) (slot : Slot) :
    (ctx.dividePeriod slot : Outcome ε SyncCommitteePeriod) =
      .ok (slot / ctx.slotsPerEpoch / ctx.epochsPerSyncCommitteePeriod) :=
  LightClientContext.dividePeriod_eq h.slotsPerEpoch h.epochsPerSyncCommitteePeriod slot

/-- So is that of a state, when the other crate computes it by these divisions. -/
theorem WellFormedContext.currentPeriod {ctx : LightClientContext} (h : WellFormedContext ctx)
    (hPeriods : E.ComputesPeriods) (s : ConsensusState T) :
    s.currentPeriod E ctx =
      .ok (s.slot / ctx.slotsPerEpoch / ctx.epochsPerSyncCommitteePeriod) :=
  (hPeriods ctx s.slot).trans (h.dividePeriod s.slot)

/-- A client that passes its validation has all three parameters. -/
theorem ClientState.wellFormedContext {c : ClientState} (h : c.validate E = .ok ()) (now : Time) :
    WellFormedContext (c.buildContext now) := by
  obtain ⟨-, -, -, -, -, hSeconds, hSlots, hEpochs, -⟩ := ClientState.validate_eq_ok.mp h
  exact ⟨hSlots, hEpochs, hSeconds⟩

/-- A stored client decodes, passes its initial check, and has the configuration of
its creation; its consensus states decode, and no division by a parameter of the
client aborts. Computed keys are assumed to be accepted by their decoder, and
irrelevant updates to be rejected. -/
theorem stored_client_wellFormed (hE : E.Lawful) (hKeys : E.AcceptsComputedKeys)
    (hRelevant : E.RejectsIrrelevant) (hRun : Transition.Run (machine E) trace store) {any : Any}
    (hAny : store.clientState clientId = some any) :
    ∃ now anyClient anyConsensus result c₀ c,
      ((⟨now, .createClient clientId anyClient anyConsensus⟩, .created result) : Event T) ∈ trace ∧
      ClientState.tryFromAny E anyClient = .ok c₀ ∧ ClientState.tryFromAny E any = .ok c ∧
      c.validate E = .ok () ∧
      c = { c₀ with
        latestExecutionBlockNumber := c.latestExecutionBlockNumber
        frozenHeight := c.frozenHeight } ∧
      (∀ height anyState, store.consensusState clientId height = some anyState →
        ∃ s, ConsensusState.tryFromAny E anyState = .ok s ∧ s.slot ≠ 0) ∧
      ∀ now', WellFormedContext (c.buildContext now') ∧
        (∀ slot, ((c.buildContext now').dividePeriod slot : Result _).Returns) ∧
        (E.ComputesPeriods → ∀ s : ConsensusState T,
          (s.currentPeriod E (c.buildContext now')).Returns) := by
  obtain ⟨c₀, s₀, id, t, hTracked, hRepresents⟩ := represents_of_stored hE hRun hAny
  obtain ⟨now, anyClient, anyConsensus, hCreates, hMem⟩ := hTracked.creation
  obtain ⟨any', hAny', hClient⟩ := hRepresents.clientState
  rw [hAny, Option.some.injEq] at hAny'
  subst hAny'
  have hConfig : (ClientTracker.clientState t).SameConfig c₀ := by
    have hEq : t.config = c₀ := hTracked.evolves.config_eq
    rw [← hEq]
    exact clientState_sameConfig t
  obtain ⟨a, ha⟩ := Option.isSome_iff_exists.mp t.latest_stored
  have hValid : (ClientTracker.clientState t).validate E = .ok () :=
    hConfig.validate hCreates.valid (hTracked.heights_ne_zero ha)
  refine ⟨now, anyClient, anyConsensus, _, c₀, _, hMem, hCreates.clientState, hClient, hValid,
    hConfig.eq_with, ?_, ?_⟩
  · intro height anyState hState
    obtain ⟨n, b, -, hStates, hStores⟩ := hRepresents.states_of_stored hState
    have hReadable := hTracked.readable hE hKeys hRelevant hStates
    exact ⟨b.state, hStores.tryFromAny hE hReadable, hReadable.slot⟩
  · intro now'
    have hContext := ClientState.wellFormedContext hValid now'
    refine ⟨hContext, fun slot => ?_, fun hPeriods s => ?_⟩
    · rw [hContext.dividePeriod]
      exact Outcome.returns_ok _
    · rw [hContext.currentPeriod hPeriods]
      exact Outcome.returns_ok _

section Relayed

open Reference

/-- The relayed client keeps the configuration it was created with. -/
theorem relayed_stored_client_wellFormed :
    (clientState 2).validate externals = .ok () ∧
      (∀ height anyState, relayedStore.consensusState relayed height = some anyState →
        ∃ s, ConsensusState.tryFromAny externals anyState = .ok s ∧ s.slot ≠ 0) ∧
      ∀ now, WellFormedContext ((clientState 2).buildContext now) ∧
        ((consensusState 4).currentPeriod externals ((clientState 2).buildContext now)).Returns := by
  obtain ⟨-, -, -, -, c₀, c, -, -, hDecoded, hValid, -, hStates, hContext⟩ :=
    stored_client_wellFormed externals_lawful externals_acceptsComputedKeys
      externals_rejectsIrrelevant relayedStore_run relayedStore_clientState
  rw [tryFromAny_clientAny (clientState_sameConfig 2 2), Except.ok.injEq] at hDecoded
  subst hDecoded
  refine ⟨hValid, hStates, fun now => ?_⟩
  obtain ⟨hWellFormed, -, hPeriod⟩ := hContext now
  exact ⟨hWellFormed, hPeriod externals_computesPeriods _⟩

end Relayed

end EthereumElc
