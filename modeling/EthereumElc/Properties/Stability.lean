import EthereumElc.Properties.Batches
import EthereumElc.Properties.UntrustedHost

/-! Answers that outlive other traffic: while a height of a client is not written
and the client is not punished, what was accepted on that height is accepted again. -/
namespace EthereumElc

open EthereumLightClient ClientTracker

variable {T : ExternalTypes} {E : Externals T} {clientId : ClientId}
  {trace later : Transition.Trace Request (Response T)} {store store' : Store}

/-- Nothing was posted for a height of the client, and it was not punished. -/
structure Untouched (E : Externals T) (clientId : ClientId) (height : Height)
    (later : Transition.Trace Request (Response T)) : Prop where
  posted : ∀ event ∈ later, Event.posted clientId height event = none
  punished : ∀ event ∈ later, Event.punished E clientId event = none

/-- The bytes at a height change only with a message that posts for it. -/
theorem consensusState_of_not_posted {request : Request} {response : Response T} {height : Height}
    (hStep : exec E store request = (store', response))
    (hPosted : Event.posted clientId height (request, response) = none) :
    store'.consensusState clientId height = store.consensusState clientId height := by
  cases exec_clientStep hStep clientId with
  | @created now anyClient anyConsensus c s id _ hFresh hCreates hClient hConsensus =>
      have hNe : height ≠ toLcpHeight c.latestHeight := by
        rintro rfl
        simp [Event.posted, creationResult] at hPosted
      rw [hConsensus, Function.update_of_ne hNe]
  | @updated now anyMessage header c s s' data _ hMessage hUpdates hClient hConsensus =>
      obtain ⟨prevId, postId, -, -, hProxy⟩ := hUpdates.message
      have hNe : height ≠ header.height := by
        rintro rfl
        simp [Event.posted, hProxy, updateMessage] at hPosted
      rw [hConsensus, Function.update_of_ne hNe]
  | misbehaved hMessage hPunishes hClient hConsensus => rw [hConsensus]
  | idle hQuiet hClient hConsensus => rw [hConsensus]

/-- A later entry of a client: the configuration and the frozen height are the
same, the latest block number is not lower, and what was written by the enclave
was replaced by what the enclave wrote. -/
structure Continues (E : Externals T) (any : Any) (c : ClientState) (any' : Any)
    (c' : ClientState) : Prop where
  decoded : ClientState.tryFromAny E any' = .ok c'
  sameConfig : c'.SameConfig c
  latest_le : c.latestExecutionBlockNumber ≤ c'.latestExecutionBlockNumber
  frozenHeight : c'.frozenHeight = c.frozenHeight
  encoded : c.tryIntoAny E = .ok any → c'.tryIntoAny E = .ok any'

theorem Continues.refl {any : Any} {c : ClientState} (h : ClientState.tryFromAny E any = .ok c) :
    Continues E any c any c :=
  ⟨h, .refl c, le_rfl, rfl, id⟩

theorem Continues.trans {any any' any'' : Any} {c c' c'' : ClientState}
    (h : Continues E any c any' c') (h' : Continues E any' c' any'' c'') :
    Continues E any c any'' c'' where
  decoded := h'.decoded
  sameConfig := h'.sameConfig.trans h.sameConfig
  latest_le := h.latest_le.trans h'.latest_le
  frozenHeight := h'.frozenHeight.trans h.frozenHeight
  encoded hEncoded := h'.encoded (h.encoded hEncoded)

/-- Every request that does not punish the client continues its entry. -/
theorem continues_step (hE : E.Lawful) {any : Any} {c : ClientState}
    (hAny : store.clientState clientId = some any) (hc : ClientState.tryFromAny E any = .ok c)
    {request : Request} {response : Response T} (hStep : exec E store request = (store', response))
    (hPunished : Event.punished E clientId (request, response) = none) :
    ∃ any' c', store'.clientState clientId = some any' ∧ Continues E any c any' c' := by
  cases exec_clientStep hStep clientId with
  | created hFresh =>
      rw [hAny] at hFresh
      cases hFresh
  | @updated now anyMessage header d s s' data _ hMessage hUpdates hClient hConsensus =>
      obtain rfl := hUpdates.reads.client_eq hAny hc
      have hSame := ClientState.withLatestBlock_sameConfig d header.executionUpdate.blockNumber
      have hEncodable := hSame.encodable (ClientState.encodable_of_tryFromAny hE hc)
      refine ⟨_, _, hClient, hEncodable.tryFromAny_tryIntoAny hE.clientState
        hUpdates.newAnyClientState, hSame, ?_, ?_, fun _ => hUpdates.newAnyClientState⟩
      · rw [ClientState.withLatestBlock_eq]
        exact le_max_left _ _
      · exact ClientState.withLatestBlock_frozenHeight d _
  | misbehaved hMessage => simp [Event.punished, hMessage] at hPunished
  | idle hQuiet hClient hConsensus => exact ⟨any, c, hClient.trans hAny, .refl hc⟩

/-- The entries that an answer relies on are there after any steps that leave its
height untouched. -/
theorem entries_later (hE : E.Lawful) {any : Any} {c : ClientState} {height : Height}
    (hAny : store.clientState clientId = some any) (hc : ClientState.tryFromAny E any = .ok c)
    (hSteps : Transition.Steps (machine E) store later store')
    (hUntouched : Untouched E clientId height later) :
    (∃ any' c', store'.clientState clientId = some any' ∧ Continues E any c any' c') ∧
      store'.consensusState clientId height = store.consensusState clientId height := by
  induction hSteps with
  | zero => exact ⟨⟨any, c, hAny, .refl hc⟩, rfl⟩
  | @succ m n later request response _ hLast ih =>
      obtain ⟨hPosted, hPostedBefore⟩ := List.forall_mem_cons.mp hUntouched.posted
      obtain ⟨hPunished, hPunishedBefore⟩ := List.forall_mem_cons.mp hUntouched.punished
      obtain ⟨⟨any', c', hAny', hContinues⟩, hStored⟩ := ih ⟨hPostedBefore, hPunishedBefore⟩
      obtain ⟨any'', c'', hAny'', hNext⟩ :=
        continues_step hE hAny' hContinues.decoded hLast hPunished
      exact ⟨⟨any'', c'', hAny'', hContinues.trans hNext⟩,
        (consensusState_of_not_posted hLast hPosted).trans hStored⟩

/-- What was read of a height is read of it again later, with a client that
continues the one before. -/
theorem reads_later (hE : E.Lawful) {now : Time} {height : Height} {c : ClientState}
    {s : ConsensusState T} (hReads : Reads E (store.reader now) clientId height c s)
    (hSteps : Transition.Steps (machine E) store later store')
    (hUntouched : Untouched E clientId height later) (now' : Time) :
    ∃ any any' c', store.clientState clientId = some any ∧ Continues E any c any' c' ∧
      store'.clientState clientId = some any' ∧
      Reads E (store'.reader now') clientId height c' s := by
  obtain ⟨⟨any, hAny, hc⟩, hFrozen, ⟨anyState, hAnyState, hs⟩⟩ := hReads
  rw [Store.reader_clientState_eq_ok] at hAny
  rw [Store.reader_consensusState_eq_ok] at hAnyState
  obtain ⟨⟨any', c', hAny', hContinues⟩, hStored⟩ := entries_later hE hAny hc hSteps hUntouched
  refine ⟨any, any', c', hAny, hContinues, hAny',
    ⟨any', Store.reader_clientState_eq_ok.mpr hAny', hContinues.decoded⟩, ?_,
    ⟨anyState, Store.reader_consensusState_eq_ok.mpr (hStored.trans hAnyState), hs⟩⟩
  rw [ClientState.isFrozen, hContinues.frozenHeight]
  exact hFrozen

/-- What a client accepts on a height, it accepts on that height again, with the
same attestation, after any other requests that leave the height untouched. The call
is made at the same host time, as headers and evidence expire. Proofs are assumed to
depend on the latest block number only as a bound on their height. -/
theorem answers_persist (hE : E.Lawful) (hHeights : E.BoundsProofHeight)
    (hRun : Transition.Run (machine E) trace store) {now : Time} {call : Call}
    {response : Response T} (hAnswer : AnsweredFrom E (store.reader now) clientId call response)
    (hSteps : Transition.Steps (machine E) store later store')
    (hUntouched : ∀ reference ∈ response.references, Untouched E clientId reference.1 later) :
    ∃ last response', exec E store' ⟨now, call⟩ = (last, response') ∧
      response.attestation = response'.attestation := by
  obtain ⟨height, c, s, id, hReads, -, hReference, hReplay⟩ := hAnswer.replay hE hHeights
  obtain ⟨anyClient, hAnyClient, -⟩ := hReads.clientState
  obtain ⟨c₀, s₀, id₀, t, -, hRepresents⟩ :=
    represents_of_stored hE hRun (Store.reader_clientState_eq_ok.mp hAnyClient)
  obtain ⟨rfl, -, n, a, rfl, hStates, rfl⟩ := hRepresents.of_reads hE hReads
  obtain ⟨any, any', c', -, hContinues, -, hReads'⟩ :=
    reads_later hE hReads hSteps (hUntouched _ hReference) now
  have hLatest : n ≤ t.latest := t.le_latest n (Option.isSome_iff_exists.mpr ⟨a, hStates⟩)
  obtain ⟨response', hAnswer', hAttested⟩ :=
    hReplay _ c' n rfl hReads' hContinues.sameConfig (hLatest.trans hContinues.latest_le) rfl
  obtain ⟨last, hStep⟩ := hAnswer'.exec
  exact ⟨last, response', hStep, hAttested⟩

section Relayed

open Reference

/-- The header of block 3 leaves all other heights untouched. -/
theorem nextEvent_untouched {height : Height} (h : height ≠ ⟨0, 3⟩) :
    Untouched externals relayed height [nextEvent] where
  posted := by
    have hPosted : Event.posted relayed height nextEvent = none :=
      if_neg fun hBoth => h hBoth.2.symm
    exact List.forall_mem_singleton.mpr hPosted
  punished := List.forall_mem_singleton.mpr rfl

/-- A value at height 2 is attested before and after the header of block 3. -/
theorem relayed_answers_persist : ∃ last response',
    exec externals (relayedStore.applyUpdate relayed (updateData (clientState 2) 2 4 6 0))
      ⟨relayTime, .verifyMembership relayed [] "clients" (stringBytes "clients") ⟨0, 2⟩ []⟩ =
        (last, response') ∧
    some (.membership ⟨⟨[], "clients", some (commitment (stringBytes "clients")), ⟨0, 2⟩,
      stateId (clientState 2) (consensusState 4)⟩⟩) = response'.attestation := by
  have hContent : content (consensusState 4).storageRoot (clientState 2).ibcCommitmentsSlot
      "clients" = some (commitment (stringBytes "clients")) := rfl
  have hAnswer : AnsweredFrom externals (relayedStore.reader relayTime) relayed _ _ :=
    .membership (exec_membership (exec_verifyMembership (relayedStore_reads relayTime) hContent))
  have hSteps := steps_exec (.zero relayedStore) relayedStore_next
  exact answers_persist externals_lawful externals_boundsProofHeight relayedStore_run hAnswer hSteps
    (List.forall_mem_singleton.mpr (nextEvent_untouched (by decide)))

end Relayed

theorem Store.applyUpdate_eq_self {data : UpdateStateData T}
    (hClient : store.clientState clientId = some data.newAnyClientState)
    (hConsensus : store.consensusState clientId data.height = some data.newAnyConsensusState) :
    store.applyUpdate clientId data = store := by
  simp only [applyUpdate, putClientState, putConsensusState, ← hClient, ← hConsensus,
    Function.update_eq_self]

/-- A header that is delivered again, after any other requests that leave its two
heights untouched, is accepted with the same message and changes nothing. It is
delivered at its first host time: later on its trusted state may have expired. -/
theorem redelivery_changes_nothing (hE : E.Lawful) {now : Time} {anyMessage : Any}
    {header : Header T} {data : UpdateStateData T} {store₁ store₂ : Store}
    (hMessage : ClientMessage.tryFromAny E anyMessage = .ok (.header header))
    (hStep : exec E store ⟨now, .updateClient clientId anyMessage⟩ = (store₁, .updated data))
    (hNe : header.trustedHeight ≠ header.height)
    (hSteps : Transition.Steps (machine E) store₁ later store₂)
    (hTrusted : Untouched E clientId header.trustedHeight later)
    (hPosted : Untouched E clientId header.height later) :
    ∃ data', exec E store₂ ⟨now, .updateClient clientId anyMessage⟩ = (store₂, .updated data') ∧
      data'.message = data.message ∧ data'.height = data.height := by
  obtain ⟨hData, rfl⟩ := (exec_updated_of_header hMessage).mp hStep
  obtain ⟨c, s, s', hUpdates⟩ := updateState_eq_ok.mp hData
  have hReads := hUpdates.reads_after hE hUpdates.reads hNe
  obtain ⟨any, any', c', hAny, hContinues, hAny', hReads'⟩ :=
    reads_later hE hReads hSteps hTrusted now
  obtain ⟨data', hUpdates', hSameMessage, hSameHeight, hSameState⟩ :=
    hUpdates.replay hE.clientState.encode_total hReads'
      (hContinues.sameConfig.trans (ClientState.withLatestBlock_sameConfig c _)) rfl
  -- The client entry was written by the update, and has been merged with its block already.
  have hClient : store₂.clientState clientId = some data'.newAnyClientState := by
    rw [Store.applyUpdate_clientState, Function.update_self, Option.some.injEq] at hAny
    subst hAny
    have hMerged : c'.withLatestBlock header.executionUpdate.blockNumber = c' := by
      have hLatest := hContinues.latest_le
      rw [ClientState.withLatestBlock_eq] at hLatest
      rw [ClientState.withLatestBlock_eq, max_eq_left ((le_max_right _ _).trans hLatest)]
    have hEncoded := hUpdates'.newAnyClientState
    rw [hMerged, hContinues.encoded hUpdates.newAnyClientState, Except.ok.injEq] at hEncoded
    rw [hAny', hEncoded]
  have hConsensus : store₂.consensusState clientId data'.height =
      some data'.newAnyConsensusState := by
    obtain ⟨anyClient, hStored, hc⟩ := hReads.clientState
    obtain ⟨-, hState⟩ :=
      entries_later hE (Store.reader_clientState_eq_ok.mp hStored) hc hSteps hPosted
    rw [hSameHeight, hUpdates.height, hState, hSameState, Store.applyUpdate_consensusState,
      Function.update_self, hUpdates.height, Function.update_self]
  have hData' := updateState_eq_ok.mpr ⟨c', s, s', hUpdates'⟩
  refine ⟨data', (exec_updated_of_header hMessage).mpr ⟨hData', ?_⟩, hSameMessage, hSameHeight⟩
  exact (Store.applyUpdate_eq_self hClient hConsensus).symm

section Relayed

open Reference

/-- The header of block 2 is delivered again after that of block 3. -/
theorem relayed_redelivery : ∃ data',
    exec externals (relayedStore.applyUpdate relayed (updateData (clientState 2) 2 4 6 0))
      ⟨relayTime, .updateClient relayed (headerAny 1 4 0)⟩ =
        (relayedStore.applyUpdate relayed (updateData (clientState 2) 2 4 6 0), .updated data') ∧
    data'.message = (updateData (clientState 1) 1 2 4 0).message ∧ data'.height = ⟨0, 2⟩ :=
  redelivery_changes_nothing externals_lawful (tryFromAny_headerAny 1 4 0) relayedStore_step
    (by decide) (steps_exec (.zero relayedStore) relayedStore_next)
    (nextEvent_untouched (by decide)) (nextEvent_untouched (by decide))

end Relayed

end EthereumElc
