import EthereumElc.Properties.StateIds
import EthereumElc.Properties.Stored

/-! What the stored consensus states say about the chain, when the verifiers
accept only headers of one canonical chain. -/
namespace EthereumElc

open EthereumLightClient ClientTracker

variable {T : ExternalTypes} {E : Externals T} {clientId : ClientId}
  {trace : Transition.Trace Request (Response T)} {store store' : Store} {t : ClientTracker T}

/-- The period is the one that the consensus state computes for the verifiers of a
client that passes its check. -/
theorem ClientState.currentPeriod_eq_ok (hPeriods : E.ComputesPeriods) {c : ClientState}
    (h : c.validate E = .ok ()) (now : Time) (s : ConsensusState T) :
    ∃ period, s.currentPeriod E (c.buildContext now) = .ok period ∧
      period.toNat = c.period s.slot :=
  ⟨_, (ClientState.wellFormedContext h now).currentPeriod hPeriods s, rfl⟩

/-- The keys of a state are those of the period of its slot and of the next one. -/
structure InSchedule (c : ClientState) (S : Nat → T.PublicKey) (s : ConsensusState T) : Prop where
  current : s.currentSyncCommittee = S (c.period s.slot)
  next : s.nextSyncCommittee = S (c.period s.slot + 1)

/-- A header moves a scheduled state to a later slot, by at most one period. -/
theorem ClientState.AcceptsHeader.inSchedule {c : ClientState} {S : Nat → T.PublicKey}
    (hSchedule : FollowsSchedule E.toVerifiers c S) {now : Time} {s : ConsensusState T}
    {header : Header T} {time : Time} {keys : NewSyncCommittees T}
    (h : c.AcceptsHeader E now s header time keys) (hStart : InSchedule c S s) :
    InSchedule c S (header.newConsensusState time keys) ∧
      (c.period header.finalizedSlot = c.period s.slot ∨
        c.period header.finalizedSlot = c.period s.slot + 1) := by
  obtain ⟨trusted, -, hUpdates⟩ := h.updates
  rcases hSchedule.rotation _ _ _ _ h.keys with
    ⟨hPeriod, rfl⟩ | ⟨hPeriod, committee, branch, hNext, rfl⟩
  · have hPeriod : c.period header.finalizedSlot = c.period s.slot := hPeriod
    refine ⟨⟨?_, ?_⟩, .inl hPeriod⟩
    · exact hStart.current.trans (by rw [← hPeriod]; rfl)
    · exact hStart.next.trans (by rw [← hPeriod]; rfl)
  · have hPeriod : c.period header.finalizedSlot = c.period s.slot + 1 := hPeriod
    refine ⟨⟨?_, hSchedule.nextSyncCommittee _ _ _ _ _ _ hUpdates hNext⟩, .inr hPeriod⟩
    exact hStart.next.trans (by rw [← hPeriod]; rfl)

/-- Every tracked state has the keys of its own period, when the first one has. -/
theorem states_inSchedule {c : ClientState} {S : Nat → T.PublicKey}
    (hSchedule : FollowsSchedule E.toVerifiers c S) {s : ConsensusState T} {id : T.StateID}
    (hStart : InSchedule c S s) (hEvolves : Tracker.Evolves (rules E) (created c s id) t) {n : U64}
    {a : Attested T} (hStates : t.states n = some a) : InSchedule c S a.state := by
  refine states_invariant (fun _ a => InSchedule c S a.state) hEvolves hStart ?_ n a hStates
  rintro k b k' b' hb ⟨now, header, time, keys, -, -, hAccepts, hNew, -⟩
  rw [hNew]
  exact (hAccepts.inSchedule hSchedule hb).1

/-- The states of an update call that was accepted: the trusted one that the
host stores, and the new one whose bytes the host is given. -/
structure UpdatesState (E : Externals T) (store : Store) (clientId : ClientId) (anyMessage : Any)
    (data : UpdateStateData T) (header : Header T) (s s' : ConsensusState T) : Prop where
  message : ClientMessage.tryFromAny E anyMessage = .ok (.header header)
  trusted : ∃ any, store.consensusState clientId header.trustedHeight = some any ∧
    ConsensusState.tryFromAny E any = .ok s
  new : s'.tryIntoAny E = .ok data.newAnyConsensusState

/-- Keys, slots and periods move together: every stored state has the keys of its
own period, and every update goes to a later slot, by at most one period. It is
assumed that the verifiers follow the schedule in the contexts of this client, and
that it was created within the schedule, which its creation does not check. -/
theorem stored_inSchedule (hE : E.Lawful) (hRelevant : E.RejectsIrrelevant) {c : ClientState}
    {s : ConsensusState T} {S : Nat → T.PublicKey} (hSchedule : FollowsSchedule E.toVerifiers c S)
    (hStart : InSchedule c S s) {before : Transition.Trace Request (Response T)}
    {store₀ store₁ : Store} (hRun : Transition.Run (machine E) before store₀) {now : Time}
    {anyClient anyConsensus : Any} {result : CreateClientResult T}
    (hClient : ClientState.tryFromAny E anyClient = .ok c)
    (hConsensus : ConsensusState.tryFromAny E anyConsensus = .ok s)
    (hCreate : exec E store₀ ⟨now, .createClient clientId anyClient anyConsensus⟩ =
      (store₁, .created result))
    (hSteps : Transition.Steps (machine E) store₁ trace store) :
    (∀ height any u, store.consensusState clientId height = some any →
      ConsensusState.tryFromAny E any = .ok u → InSchedule c S u) ∧
    ∀ now anyMessage data store',
      exec E store ⟨now, .updateClient clientId anyMessage⟩ = (store', .updated data) →
      ∃ header u u', UpdatesState E store clientId anyMessage data header u u' ∧
        u.slot < u'.slot ∧ u'.slot = header.finalizedSlot ∧ InSchedule c S u' ∧
        (c.period u'.slot = c.period u.slot ∨ c.period u'.slot = c.period u.slot + 1) := by
  obtain ⟨id, t, -, hEvolves, hRepresents⟩ :=
    represents_of_created hE hRun hCreate hClient hConsensus hSteps
  have hConfig : t.config = c := hEvolves.config_eq
  constructor
  · intro height any u hAny hu
    obtain ⟨n, a, -, hStates, hStores⟩ := hRepresents.states_of_stored hAny
    rw [hStores.eq_of_tryFromAny hE hu]
    exact states_inSchedule hSchedule hStart hEvolves hStates
  · intro now anyMessage data store' hStep
    cases exec_clientStep hStep clientId with
    | @updated _ _ header c' u u' _ _ hMessage hUpdates =>
        obtain ⟨any, hAny, hu⟩ := hUpdates.reads.consensusState
        obtain ⟨n, a, time, keys, -, hStates, rfl, hAccepts, rfl⟩ :=
          hRepresents.of_updates hE hUpdates
        rw [hConfig] at hAccepts
        obtain ⟨hNew, hPeriod⟩ := hAccepts.inSchedule hSchedule
          (states_inSchedule hSchedule hStart hEvolves hStates)
        exact ⟨header, a.state, _,
          ⟨hMessage, ⟨any, Store.reader_consensusState_eq_ok.mp hAny, hu⟩,
            hUpdates.newAnyConsensusState⟩, hAccepts.slot_lt hRelevant, rfl, hNew, hPeriod⟩
    | idle hQuiet => exact absurd rfl hQuiet

section Relayed

open Reference

/-- The states of the first period have its keys. -/
theorem consensusState_inSchedule (slot : Slot) (h : (clientState 1).period slot = 0) :
    InSchedule (clientState 1) scheduleKey (consensusState slot) where
  current := (congrArg scheduleKey h).symm
  next := (congrArg (fun period => scheduleKey (period + 1)) h).symm

/-- The header of slot 66, the second slot of the next period, answered in the
relayed store at the time of its block. -/
def crossingEvent : Event types :=
  (⟨blockTime 33, .updateClient relayed (headerAnyFrom 0 true 2 66 0)⟩,
    .updated (updateDataFrom 0 true (clientState 2) 2 4 66 0))

def crossedStore : Store :=
  relayedStore.applyUpdate relayed (updateDataFrom 0 true (clientState 2) 2 4 66 0)

theorem crossedStore_step :
    exec externals relayedStore crossingEvent.1 = (crossedStore, crossingEvent.2) :=
  exec_headerAnyFrom (by decide : AcceptableFrom 0 true (blockTime 33) 4 66)
    (clientState_sameConfig 2 2) 0 (relayedStore_reads _)

/-- The relayed client crosses into the second period: the header rotates the keys
of slot 4, and the state that is stored for slot 66 has those of its own period. -/
theorem relayed_stored_inSchedule :
    (clientState 1).period 4 = 0 ∧ (clientState 1).period 66 = 1 ∧
      InSchedule (clientState 1) scheduleKey (consensusStateIn 1 66) ∧
      ∃ header u u', UpdatesState externals relayedStore relayed (headerAnyFrom 0 true 2 66 0)
          (updateDataFrom 0 true (clientState 2) 2 4 66 0) header u u' ∧
        u.slot < u'.slot ∧ u'.slot = header.finalizedSlot ∧
        InSchedule (clientState 1) scheduleKey u' ∧
        ((clientState 1).period u'.slot = (clientState 1).period u.slot ∨
          (clientState 1).period u'.slot = (clientState 1).period u.slot + 1) := by
  have hInSchedule {trace : Transition.Trace Request (Response types)} {store : Store}
      (hSteps : Transition.Steps (machine externals) (createdStore relayed 1 (consensusState 2))
        trace store) :=
    stored_inSchedule externals_lawful externals_rejectsIrrelevant
      (externals_followsSchedule (clientState 1)) (consensusState_inSchedule 2 (by decide))
      (.zero _) (tryFromAny_clientAny (clientState_sameConfig 1 1)) (tryFromAny_consensusAny _)
      relayed_created hSteps
  have hRelayed := steps_exec (.zero _) relayedStore_step
  obtain ⟨-, hUpdate⟩ := hInSchedule hRelayed
  obtain ⟨hStored, -⟩ := hInSchedule (steps_exec hRelayed crossedStore_step)
  obtain ⟨-, -, any, hAny, hDecoded⟩ := applyUpdate_readsFrom 0 true (clientState_sameConfig 2 2)
    rfl relayedStore relayTime relayed 2 4 66 0
  exact ⟨by decide, by decide, hStored _ any _ (Store.reader_consensusState_eq_ok.mp hAny) hDecoded,
    hUpdate _ _ _ _ crossedStore_step⟩

end Relayed

/-- The account of an accepted header is that of the client in the state of its block. -/
theorem ClientState.AcceptsHeader.storageRoot {K : CanonicalChain} {c : ClientState}
    (hChain : FollowsChain E.toVerifiers c K) {now : Time} {s : ConsensusState T}
    {header : Header T} {time : Time} {keys : NewSyncCommittees T}
    (h : c.AcceptsHeader E now s header time keys) :
    header.accountUpdate.accountStorageRoot =
      K.storageRootAt header.executionUpdate.blockNumber c.ibcAddress := by
  obtain ⟨trusted, -, hUpdates⟩ := h.updates
  rw [hChain.account _ _ _ h.account, hChain.updates _ _ _ _ hUpdates]
  rfl

/-- Every tracked state has the storage root of the block that it is kept under. -/
theorem states_storageRoot {K : CanonicalChain} {c : ClientState}
    (hChain : FollowsChain E.toVerifiers c K) {s : ConsensusState T} {id : T.StateID}
    (hStart : s.storageRoot = K.storageRootAt c.latestExecutionBlockNumber c.ibcAddress)
    (hEvolves : Tracker.Evolves (rules E) (created c s id) t) {n : U64} {a : Attested T}
    (hStates : t.states n = some a) : a.state.storageRoot = K.storageRootAt n c.ibcAddress := by
  refine states_invariant (fun n a => a.state.storageRoot = K.storageRootAt n c.ibcAddress)
    hEvolves hStart ?_ n a hStates
  rintro k b k' b' - ⟨now, header, time, keys, -, rfl, hAccepts, hNew, -⟩
  rw [hNew]
  exact hAccepts.storageRoot hChain

/-- A membership message of a client, positive or negative, as the chain sees it. -/
inductive Attests (clientId : ClientId) (height : Height) (path : String) (value : Option H256) :
    Event T → Prop where
  | membership {now : Time} {commitmentPrefix : Bytes} {queried : String} {bytes : Bytes}
      {proofHeight : Height} {proof : Bytes} {result : VerifyMembershipResult T}
      (hHeight : result.message.height = height) (hPath : result.message.path = path)
      (hValue : result.message.value = value) : Attests clientId height path value
        (⟨now, .verifyMembership clientId commitmentPrefix queried bytes proofHeight proof⟩,
          .membership result)
  | nonMembership {now : Time} {commitmentPrefix : Bytes} {queried : String}
      {proofHeight : Height} {proof : Bytes} {result : VerifyNonMembershipResult T}
      (hHeight : result.message.height = height) (hPath : result.message.path = path)
      (hValue : result.message.value = value) : Attests clientId height path value
        (⟨now, .verifyNonMembership clientId commitmentPrefix queried proofHeight proof⟩,
          .nonMembership result)

/-- A membership message states the content of the trie under the storage root
of a state that was read at its height. -/
theorem Attests.content {K : CanonicalChain} {c : ClientState}
    (hChain : FollowsChain E.toVerifiers c K) {request : Request} {response : Response T}
    (hStep : exec E store request = (store', response)) {height : Height} {path : String}
    {value : Option H256} (h : Attests clientId height path value (request, response)) :
    ∃ d s, Reads E (store.reader request.now) clientId height d s ∧
      value = K.content s.storageRoot d.ibcCommitmentsSlot path := by
  cases h with
  | membership hHeight hPath hValue =>
      obtain ⟨d, s, hReads, committed, id, hCommitted, -, rfl⟩ :=
        verifyMembership_eq_ok.mp (exec_membership hStep)
      obtain ⟨hContent, rfl⟩ := hChain.membership _ _ _ _ _ _ _ hCommitted
      subst hHeight hPath hValue
      exact ⟨d, s, hReads, hContent.symm⟩
  | nonMembership hHeight hPath hValue =>
      obtain ⟨d, s, hReads, id, hEmpty, -, rfl⟩ :=
        verifyNonMembership_eq_ok.mp (exec_nonMembership hStep)
      subst hHeight hPath hValue
      exact ⟨d, s, hReads, (hChain.nonMembership _ _ _ _ _ hEmpty).symm⟩

/-- No client attests against the chain: each stored state has the storage root of
its height, and each membership message states what the trie of its height holds, so
no two of them contradict each other. The verifiers are assumed to be sound for this
chain, and the first state to be one of it; a message need not be true of the height
that is latest when it is attested. -/
theorem attestations_agree (hE : E.Lawful) {K : CanonicalChain} {c : ClientState}
    (hChain : FollowsChain E.toVerifiers c K) {s : ConsensusState T}
    (hStart : s.storageRoot = K.storageRootAt c.latestExecutionBlockNumber c.ibcAddress)
    {before : Transition.Trace Request (Response T)} {store₀ store₁ : Store}
    (hRun : Transition.Run (machine E) before store₀) {now : Time} {anyClient anyConsensus : Any}
    {result : CreateClientResult T} (hClient : ClientState.tryFromAny E anyClient = .ok c)
    (hConsensus : ConsensusState.tryFromAny E anyConsensus = .ok s)
    (hCreate : exec E store₀ ⟨now, .createClient clientId anyClient anyConsensus⟩ =
      (store₁, .created result))
    (hSteps : Transition.Steps (machine E) store₁ trace store) :
    (∀ height any u, store.consensusState clientId height = some any →
      ConsensusState.tryFromAny E any = .ok u → height.revisionNumber = 0 ∧
        u.storageRoot = K.storageRootAt height.revisionHeight c.ibcAddress) ∧
    (∀ event ∈ trace, ∀ height path value, Attests clientId height path value event →
      value = K.content (K.storageRootAt height.revisionHeight c.ibcAddress)
        c.ibcCommitmentsSlot path) ∧
    (∀ event ∈ trace, ∀ event' ∈ trace, ∀ height path value value',
      Attests clientId height path value event → Attests clientId height path value' event' →
      value = value') := by
  have hStored : ∀ event ∈ trace, ∀ height path value, Attests clientId height path value event →
      value = K.content (K.storageRootAt height.revisionHeight c.ibcAddress)
        c.ibcCommitmentsSlot path := by
    rintro ⟨request, response⟩ hMem height path value hAttests
    obtain ⟨earlier, later, m, n, -, hEarlier, hStep, -⟩ := hSteps.split_of_mem hMem
    obtain ⟨id, t, -, hEvolves, hRepresents⟩ :=
      represents_of_created hE hRun hCreate hClient hConsensus hEarlier
    obtain ⟨d, u, hReads, rfl⟩ := hAttests.content hChain hStep
    obtain ⟨rfl, -, k, a, rfl, hStates, rfl⟩ := hRepresents.of_reads hE hReads
    have hConfig : t.config = c := hEvolves.config_eq
    rw [states_storageRoot hChain hStart hEvolves hStates, ← hConfig]
    rfl
  refine ⟨?_, hStored, ?_⟩
  · intro height any u hAny hu
    obtain ⟨id, t, -, hEvolves, hRepresents⟩ :=
      represents_of_created hE hRun hCreate hClient hConsensus hSteps
    obtain ⟨n, a, rfl, hStates, hStores⟩ := hRepresents.states_of_stored hAny
    rw [hStores.eq_of_tryFromAny hE hu]
    exact ⟨rfl, states_storageRoot hChain hStart hEvolves hStates⟩
  · intro event hMem event' hMem' height path value value' h h'
    rw [hStored event hMem height path value h, hStored event' hMem' height path value' h']

section Relayed

open Reference

/-- A query of the relayed client at height 2 attests the trie of block 2. -/
theorem relayed_attestations_agree :
    (consensusState 4).storageRoot = chain.storageRootAt 2 ibcAddress ∧
      some (commitment (stringBytes "clients")) =
        chain.content (chain.storageRootAt 2 ibcAddress) default "clients" := by
  have hContent : content (consensusState 4).storageRoot (clientState 2).ibcCommitmentsSlot
      "clients" = some (commitment (stringBytes "clients")) := rfl
  have hMembership := exec_verifyMembership (relayedStore_reads relayTime) hContent
  have hRelayed := steps_exec (.zero _) relayedStore_step
  obtain ⟨hStored, hAttested, -⟩ := attestations_agree externals_lawful
    (externals_followsChain (clientState 1)) rfl (.zero _)
    (tryFromAny_clientAny (clientState_sameConfig 1 1)) (tryFromAny_consensusAny _)
    relayed_created (steps_exec hRelayed hMembership)
  obtain ⟨-, -, any, hAny, hDecoded⟩ := relayedStore_reads relayTime
  exact ⟨(hStored _ any _ (Store.reader_consensusState_eq_ok.mp hAny) hDecoded).2,
    hAttested _ (List.mem_cons_self ..) ⟨0, 2⟩ "clients" _ (.membership rfl rfl rfl)⟩

end Relayed

end EthereumElc
