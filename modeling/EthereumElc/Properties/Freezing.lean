import EthereumElc.Host.Simulation
import EthereumElc.Reference.Relayer

/-! Freezing: a client is frozen exactly when a misbehaviour was accepted for it,
and from then on it neither answers nor changes. -/
namespace EthereumElc

open EthereumLightClient

variable {T : ExternalTypes} {E : Externals T} {clientId : ClientId}
  {trace : Transition.Trace Request (Response T)} {store store' : Store} {t : ClientTracker T}

/-- Every operation on the client returns an error, at every host time. -/
structure AnswersNothing (E : Externals T) (store : Store) (clientId : ClientId) : Prop where
  updateClient : ∀ now anyMessage,
    (EthereumLightClient.updateClient E (store.reader now) clientId anyMessage).IsError
  verifyMembership : ∀ now commitmentPrefix path value proofHeight proof,
    (EthereumLightClient.verifyMembership E (store.reader now) clientId commitmentPrefix path value
      proofHeight proof).IsError
  verifyNonMembership : ∀ now commitmentPrefix path proofHeight proof,
    (EthereumLightClient.verifyNonMembership E (store.reader now) clientId commitmentPrefix path
      proofHeight proof).IsError

/-- The gate is passed by no operation on a frozen client. Before it only the two
entries are looked up, and a missing one is an error too. -/
theorem answersNothing_of_frozen {any : Any} {c : ClientState}
    (hAny : store.clientState clientId = some any) (hc : ClientState.tryFromAny E any = .ok c)
    (hFrozen : c.isFrozen = true) : AnswersNothing E store clientId := by
  have hRead (now : Time) : (store.reader now).clientState clientId = .ok any :=
    Store.reader_clientState_eq_ok.mpr hAny
  exact ⟨fun now => updateClient_isError (hRead now) hc hFrozen,
    fun now => verifyMembership_isError (hRead now) hc hFrozen,
    fun now => verifyNonMembership_isError (hRead now) hc hFrozen⟩

/-- No request changes the entries of a frozen client, whatever it asks and whatever
time it is asked at. -/
theorem frozen_step {any : Any} {c : ClientState} (hAny : store.clientState clientId = some any)
    (hc : ClientState.tryFromAny E any = .ok c) (hFrozen : c.isFrozen = true) {request : Request}
    {response : Response T} (hStep : exec E store request = (store', response)) :
    store'.clientState clientId = store.clientState clientId ∧
      store'.consensusState clientId = store.consensusState clientId := by
  have hNotRead {now : Time} {height : Height} {d : ClientState} {s : ConsensusState T} :
      ¬Reads E (store.reader now) clientId height d s := by
    rintro ⟨⟨any', hAny', hd⟩, hNotFrozen, -⟩
    rw [Store.reader_clientState_eq_ok, hAny, Option.some.injEq] at hAny'
    subst hAny'
    rw [hc, Except.ok.injEq] at hd
    subst hd
    rw [hFrozen] at hNotFrozen
    cases hNotFrozen
  cases exec_clientStep hStep clientId with
  | created hFresh =>
      rw [hAny] at hFresh
      cases hFresh
  | updated hMessage hUpdates => exact absurd hUpdates.reads hNotRead
  | misbehaved hMessage hPunishes => exact absurd hPunishes.reads hNotRead
  | idle hQuiet hClient hConsensus => exact ⟨hClient, hConsensus⟩

/-- No number of requests changes a frozen client. -/
theorem frozen_steps {any : Any} {c : ClientState} (hAny : store.clientState clientId = some any)
    (hc : ClientState.tryFromAny E any = .ok c) (hFrozen : c.isFrozen = true)
    {later : Transition.Trace Request (Response T)}
    (hSteps : Transition.Steps (machine E) store later store') :
    store'.clientState clientId = store.clientState clientId ∧
      store'.consensusState clientId = store.consensusState clientId := by
  refine hSteps.invariant (fun _ m => m.clientState clientId = store.clientState clientId ∧
      m.consensusState clientId = store.consensusState clientId) ⟨rfl, rfl⟩ ?_
  intro _ m request response n hSame hStep
  obtain ⟨hClient, hConsensus⟩ := frozen_step (hSame.1.trans hAny) hc hFrozen hStep
  exact ⟨hClient.trans hSame.1, hConsensus.trans hSame.2⟩

/-- A misbehaviour that was accepted is decoded from its message. -/
theorem punished_of_mem (hRun : Transition.Run (machine E) trace store) {now : Time}
    {anyMessage : Any} {data : MisbehaviourData T}
    (hMem : ((⟨now, .updateClient clientId anyMessage⟩, .misbehaved data) : Event T) ∈ trace) :
    ∃ misbehaviour, ClientMessage.tryFromAny E anyMessage = .ok (.misbehaviour misbehaviour) := by
  obtain ⟨before, after, m, n, -, -, hStep, -⟩ := hRun.split_of_mem hMem
  obtain ⟨misbehaviour, hMessage, -⟩ := exec_misbehaved.mp hStep
  exact ⟨misbehaviour, hMessage⟩

/-- A punished height is that of evidence which was accepted for the client. -/
theorem Event.exists_of_punished {event : Event T} {height : Height}
    (h : event.punished E clientId = some height) : ∃ now anyMessage misbehaviour data,
      event = (⟨now, .updateClient clientId anyMessage⟩, .misbehaved data) ∧
      ClientMessage.tryFromAny E anyMessage = .ok (.misbehaviour misbehaviour) ∧
      misbehaviour.trustedHeight = height := by
  unfold Event.punished at h
  split at h
  · rename_i now id anyMessage data
    split_ifs at h with hId
    subst hId
    split at h
    · rename_i misbehaviour hMessage
      exact ⟨now, anyMessage, misbehaviour, data, rfl, hMessage, Option.some.inj h⟩
    · cases h
  · cases h

/-- The tracker of a client is frozen exactly after an accepted misbehaviour. -/
theorem Represents.frozen_iff (h : Represents E clientId trace store t)
    (hRun : Transition.Run (machine E) trace store) : t.frozen ≠ none ↔
      ∃ now anyMessage data,
        ((⟨now, .updateClient clientId anyMessage⟩, .misbehaved data) : Event T) ∈ trace := by
  rw [← h.punished]
  constructor
  · intro hSome
    obtain ⟨height, hHeight⟩ := Option.ne_none_iff_exists'.mp hSome
    obtain ⟨event, hMem, hEvent⟩ := List.exists_of_findSome?_eq_some hHeight
    obtain ⟨now, anyMessage, misbehaviour, data, rfl, -, -⟩ := Event.exists_of_punished hEvent
    exact ⟨now, anyMessage, data, hMem⟩
  · rintro ⟨now, anyMessage, data, hMem⟩ hNone
    obtain ⟨misbehaviour, hMessage⟩ := punished_of_mem hRun hMem
    have hEvent := List.findSome?_eq_none_iff.mp hNone _ hMem
    simp [Event.punished, hMessage] at hEvent

/-- The misbehaviour that froze a client fixes its frozen height for good. -/
theorem frozenHeight_of_misbehaved (hE : E.Lawful) (hRun : Transition.Run (machine E) trace store)
    {now : Time} {anyMessage : Any} {data : MisbehaviourData T}
    (hMem : ((⟨now, .updateClient clientId anyMessage⟩, .misbehaved data) : Event T) ∈ trace) :
    ∃ misbehaviour any c, ClientMessage.tryFromAny E anyMessage = .ok (.misbehaviour misbehaviour) ∧
      store.clientState clientId = some any ∧ ClientState.tryFromAny E any = .ok c ∧
      c.frozenHeight = some misbehaviour.trustedHeight := by
  obtain ⟨before, after, m, n, -, hBefore, hStep, hAfter⟩ := hRun.split_of_mem hMem
  have hStep : exec E m ⟨now, .updateClient clientId anyMessage⟩ = (n, .misbehaved data) := hStep
  cases exec_clientStep hStep clientId with
  | misbehaved hMessage hPunishes hClient hConsensus =>
      obtain ⟨anyClient, hRead, -⟩ := hPunishes.reads.clientState
      obtain ⟨c, s, id, t, -, hRepresents⟩ :=
        represents_of_stored hE hBefore (Store.reader_clientState_eq_ok.mp hRead)
      obtain ⟨-, hNext⟩ := hRepresents.misbehaved hE hMessage hPunishes hClient hConsensus
      obtain ⟨t', hEvolves, hLast⟩ := hNext.steps hE hAfter
      have hSame := hEvolves.eq_of_frozen (by simp)
      subst hSame
      obtain ⟨any, hAny, hDecoded⟩ := hLast.clientState
      exact ⟨_, any, _, hMessage, hAny, hDecoded, rfl⟩
  | idle hQuiet => exact absurd rfl hQuiet

/-- Freezing is exact and irrevocable: a stored client is frozen exactly when
evidence was accepted for it, and then at the height that the evidence trusted. From
then on every operation on it returns an error, at every host time, and no
continuation of the run changes its entries. Whether the evidence was justified is a
matter of the verifier, of which nothing is assumed. -/
theorem freezing_exact_irrevocable (hE : E.Lawful) (hRun : Transition.Run (machine E) trace store)
    {any : Any} (hAny : store.clientState clientId = some any) :
    ∃ c, ClientState.tryFromAny E any = .ok c ∧
      (c.isFrozen = true ↔ ∃ now anyMessage data,
        ((⟨now, .updateClient clientId anyMessage⟩, .misbehaved data) : Event T) ∈ trace) ∧
      (∀ now anyMessage data,
        ((⟨now, .updateClient clientId anyMessage⟩, .misbehaved data) : Event T) ∈ trace →
        (∃ misbehaviour,
          ClientMessage.tryFromAny E anyMessage = .ok (.misbehaviour misbehaviour) ∧
          c.frozenHeight = some misbehaviour.trustedHeight) ∧
        AnswersNothing E store clientId ∧
        ∀ later store', Transition.Steps (machine E) store later store' →
          store'.clientState clientId = store.clientState clientId ∧
          store'.consensusState clientId = store.consensusState clientId) := by
  obtain ⟨c₀, s₀, id, t, -, hRepresents⟩ := represents_of_stored hE hRun hAny
  obtain ⟨any', hAny', hClient⟩ := hRepresents.clientState
  rw [hAny, Option.some.injEq] at hAny'
  subst hAny'
  refine ⟨_, hClient, ?_, ?_⟩
  · rw [← hRepresents.frozen_iff hRun, ← Option.isSome_iff_ne_none]
    rfl
  · intro now anyMessage data hMem
    obtain ⟨misbehaviour, any', c, hMessage, hAny', hc, hFrozen⟩ :=
      frozenHeight_of_misbehaved hE hRun hMem
    rw [hAny, Option.some.injEq] at hAny'
    subst hAny'
    rw [hClient, Except.ok.injEq] at hc
    subst hc
    have hIsFrozen : (ClientTracker.clientState t).isFrozen = true := by
      rw [ClientState.isFrozen, hFrozen]
      rfl
    exact ⟨⟨misbehaviour, hMessage, hFrozen⟩, answersNothing_of_frozen hAny hClient hIsFrozen,
      fun later store' hSteps => frozen_steps hAny hClient hIsFrozen hSteps⟩

section Relayed

open Reference

/-- The store after a fork at slot 6 was reported. -/
def punishedStore : Store :=
  relayedStore.applyMisbehaviour relayed (misbehaviourData (clientState 2) relayed 2 4 6 0 1)

theorem punishedStore_clientState : punishedStore.clientState relayed =
    some (clientAny ((clientState 2).withFrozenHeight ⟨0, 2⟩)) := by
  rw [punishedStore, Store.applyMisbehaviour_clientState, Function.update_self]
  rfl

/-- Two headers for block 3 freeze the relayed client at the height they trust. -/
theorem relayed_freezing_exact_irrevocable :
    ∃ c, ClientState.tryFromAny externals (clientAny ((clientState 2).withFrozenHeight ⟨0, 2⟩)) =
        .ok c ∧
      c.isFrozen = true ∧ c.frozenHeight = some ⟨0, 2⟩ ∧
      AnswersNothing externals punishedStore relayed := by
  have hStep : exec externals relayedStore _ = (punishedStore, _) := exec_misbehaviourAny (by decide)
    acceptable_six (by decide : (0 : U64) ≠ 1) (clientState_sameConfig 2 2)
    (relayedStore_reads relayTime)
  obtain ⟨c, hDecoded, hExact, hFrozen⟩ := freezing_exact_irrevocable externals_lawful
    (steps_exec relayedStore_run hStep) punishedStore_clientState
  obtain ⟨⟨misbehaviour, hMessage, hHeight⟩, hNothing, -⟩ :=
    hFrozen _ _ _ (List.mem_cons_self ..)
  rw [tryFromAny_misbehaviourAny (by decide), Except.ok.injEq,
    ClientMessage.misbehaviour.injEq] at hMessage
  subst hMessage
  exact ⟨c, hDecoded, hExact.mpr ⟨_, _, _, List.mem_cons_self ..⟩, hHeight, hNothing⟩

end Relayed

end EthereumElc
