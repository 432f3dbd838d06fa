import EthereumElc.General.Reordering
import EthereumElc.Host.Entries
import EthereumElc.Reference.Relayer

/-! Clients share a host and nothing else: what happens to one of them, and what
it answers, is decided by the requests that name it. -/
namespace EthereumElc

open EthereumLightClient

/-- The client that a call names. -/
def Call.clientId : Call → ClientId
  | .createClient clientId _ _ => clientId
  | .updateClient clientId _ => clientId
  | .verifyMembership clientId _ _ _ _ _ => clientId
  | .verifyNonMembership clientId _ _ _ _ => clientId

variable {T : ExternalTypes} {E : Externals T} {clientId : ClientId} {store store' : Store}

/-- The request of an event names the client. -/
def Event.names (clientId : ClientId) (event : Event T) : Bool :=
  event.1.call.clientId = clientId

/-- The answer of an event was written to the store. -/
def Event.accepted (event : Event T) : Bool := event.writes.isSome

/-- The host serves one client from two stores alike. -/
structure SameClient (clientId : ClientId) (store store' : Store) : Prop where
  clientState : store'.clientState clientId = store.clientState clientId
  consensusState : store'.consensusState clientId = store.consensusState clientId

namespace SameClient

theorem refl (clientId : ClientId) (store : Store) : SameClient clientId store store := ⟨rfl, rfl⟩

theorem symm (h : SameClient clientId store store') : SameClient clientId store' store :=
  ⟨h.clientState.symm, h.consensusState.symm⟩

theorem trans {last : Store} (h : SameClient clientId store store')
    (h' : SameClient clientId store' last) : SameClient clientId store last :=
  ⟨h'.clientState.trans h.clientState, h'.consensusState.trans h.consensusState⟩

/-- A store is the entries of its clients. -/
theorem store_eq (h : ∀ clientId, SameClient clientId store store') : store' = store := by
  obtain ⟨clientState, consensusState⟩ := store'
  have hClient : clientState = store.clientState := funext fun id => (h id).clientState
  have hConsensus : consensusState = store.consensusState := funext fun id => (h id).consensusState
  rw [hClient, hConsensus]

/-- Equal entries decode alike. -/
theorem decodesAlike (h : SameClient clientId store store') (E : Externals T) :
    DecodesAlike E clientId store store' where
  client := by rw [Store.decodedClient, Store.decodedClient, h.clientState]
  consensus height := by rw [Store.decodedConsensus, Store.decodedConsensus, h.consensusState]

theorem putClientState (h : SameClient clientId store store') (any : Any) :
    SameClient clientId (store.putClientState clientId any)
      (store'.putClientState clientId any) where
  clientState := by simp [Store.putClientState]
  consensusState := h.consensusState

theorem putConsensusState (h : SameClient clientId store store') (height : Height) (any : Any) :
    SameClient clientId (store.putConsensusState clientId height any)
      (store'.putConsensusState clientId height any) where
  clientState := h.clientState
  consensusState := by simp [Store.putConsensusState, h.consensusState]

end SameClient

/-- A relation between stores that no request on a client sees through, and that
the writes of the host for the client carry over. -/
structure Indifferent (E : Externals T) (clientId : ClientId) (R : Store → Store → Prop) :
    Prop where
  decodesAlike : ∀ {s s'}, R s s' → DecodesAlike E clientId s s'
  putClientState : ∀ {s s'}, R s s' → ∀ any,
    R (s.putClientState clientId any) (s'.putClientState clientId any)
  putConsensusState : ∀ {s s'}, R s s' → ∀ height any,
    R (s.putConsensusState clientId height any) (s'.putConsensusState clientId height any)
  elsewhere : ∀ {s s' m}, R s s' → SameClient clientId s m → R m s'

theorem sameClient_indifferent (E : Externals T) (clientId : ClientId) :
    Indifferent E clientId (SameClient clientId) where
  decodesAlike hSame := hSame.decodesAlike E
  putClientState hSame := hSame.putClientState
  putConsensusState hSame := hSame.putConsensusState
  elsewhere hSame hLeft := hLeft.symm.trans hSame

/-- A request on the client is answered alike in related stores, an error or an
abort included, and leaves them related. -/
theorem Indifferent.exec {R : Store → Store → Prop} (hR : Indifferent E clientId R)
    (h : R store store') {request : Request} (hNames : request.call.clientId = clientId)
    {last : Store} {response : Response T} (hStep : exec E store request = (last, response)) :
    ∃ last', EthereumElc.exec E store' request = (last', response) ∧ R last last' := by
  have hAlike := hR.decodesAlike h
  obtain ⟨now, call⟩ := request
  cases call with
  | createClient other anyClientState anyConsensusState =>
      obtain rfl : other = clientId := hNames
      simp only [EthereumElc.exec] at hStep ⊢
      by_cases hFresh : store.clientState other = none
      · rw [if_pos hFresh] at hStep
        rw [if_pos (hAlike.clientState_eq_none_iff.mp hFresh)]
        split at hStep
        · cases hStep
          exact ⟨_, rfl, hR.putConsensusState (hR.putClientState h _) _ _⟩
        · cases hStep
          exact ⟨store', rfl, h⟩
      · rw [if_neg hFresh] at hStep
        rw [if_neg fun hFresh' => hFresh (hAlike.clientState_eq_none_iff.mpr hFresh')]
        cases hStep
        exact ⟨store', rfl, h⟩
  | updateClient other anyMessage =>
      obtain rfl : other = clientId := hNames
      simp only [EthereumElc.exec, hAlike.updateClient] at hStep ⊢
      split at hStep
      · cases hStep
        exact ⟨_, rfl, hR.putConsensusState (hR.putClientState h _) _ _⟩
      · cases hStep
        exact ⟨_, rfl, hR.putClientState h _⟩
      · cases hStep
        exact ⟨store', rfl, h⟩
  | verifyMembership other commitmentPrefix path value proofHeight proof =>
      obtain rfl : other = clientId := hNames
      simp only [EthereumElc.exec, hAlike.verifyMembership] at hStep ⊢
      split at hStep
      · cases hStep
        exact ⟨store', rfl, h⟩
      · cases hStep
        exact ⟨store', rfl, h⟩
  | verifyNonMembership other commitmentPrefix path proofHeight proof =>
      obtain rfl : other = clientId := hNames
      simp only [EthereumElc.exec, hAlike.verifyNonMembership] at hStep ⊢
      split at hStep
      · cases hStep
        exact ⟨store', rfl, h⟩
      · cases hStep
        exact ⟨store', rfl, h⟩

/-- What is written was named. -/
theorem Event.names_of_writes {event : Event T} (h : event.writes = some clientId) :
    event.names clientId = true := by
  unfold Event.writes at h
  split at h
  · exact decide_eq_true (Option.some.inj h)
  · exact decide_eq_true (Option.some.inj h)
  · exact decide_eq_true (Option.some.inj h)
  · cases h

theorem Event.writes_ne_of_not_names {event : Event T} (h : event.names clientId = false) :
    event.writes ≠ some clientId := by
  intro hWrites
  rw [Event.names_of_writes hWrites] at h
  cases h

/-- A request that does not write a client leaves its entries. -/
theorem sameClient_of_quiet {request : Request} {response : Response T}
    (hStep : exec E store request = (store', response))
    (hQuiet : Event.writes (request, response) ≠ some clientId) :
    SameClient clientId store store' := by
  cases exec_clientStep hStep clientId with
  | created => exact absurd rfl hQuiet
  | updated => exact absurd rfl hQuiet
  | misbehaved => exact absurd rfl hQuiet
  | idle _ hClient hConsensus => exact ⟨hClient, hConsensus⟩

/-- A request that is not accepted leaves the whole store. -/
theorem eq_of_not_accepted {request : Request} {response : Response T}
    (hStep : exec E store request = (store', response))
    (hQuiet : Event.accepted (request, response) = false) : store' = store := by
  apply SameClient.store_eq
  intro clientId
  apply sameClient_of_quiet hStep
  intro hWrites
  simp [Event.accepted, hWrites] at hQuiet

/-- The requests that name a client decide their own answers, up to such a relation. -/
theorem Indifferent.unwinds_names {R : Store → Store → Prop} (hR : Indifferent E clientId R) :
    Transition.Unwinding (machine E) (Event.names clientId) R where
  kept _ _ _ _ _ h hStep hKeep := hR.exec h (of_decide_eq_true hKeep) hStep
  dropped _ _ _ _ _ h hStep hDrop :=
    hR.elsewhere h (sameClient_of_quiet hStep (Event.writes_ne_of_not_names hDrop))

/-- The accepted requests decide the whole store. -/
theorem unwinds_accepted (E : Externals T) :
    Transition.Unwinding (machine E) Event.accepted (fun store store' => store' = store) where
  kept s s' _ t _ hSame hStep _ := by
    obtain rfl : s' = s := hSame
    exact ⟨t, hStep, rfl⟩
  dropped _ _ _ _ _ hSame hStep hDrop := hSame.trans (eq_of_not_accepted hStep hDrop).symm

/-- A host that serves many clients serves each of them as if it were alone: the
requests that name a client are a run by themselves, with the same answers, to a
store with the same entries of that client. Errors are among the answers. Nothing is
assumed of the other crates but that they are functions. -/
theorem clients_isolated {trace : Transition.Trace Request (Response T)}
    (hRun : Transition.Run (machine E) trace store) (clientId : ClientId) :
    ∃ alone, Transition.Run (machine E) (trace.filter (Event.names clientId)) alone ∧
      SameClient clientId store alone :=
  (sameClient_indifferent E clientId).unwinds_names.purge hRun (.refl _ _)

section Relayed

open Reference

/-- A second client of the host. -/
def neighbour : ClientId := ⟨"ethereum-1"⟩

/-- The store after a neighbour was created in another one. -/
def sharedStore (store : Store) : Store :=
  (store.putClientState neighbour (clientAny (clientState 1))).putConsensusState neighbour ⟨0, 1⟩
    (consensusAny (consensusState 2))

theorem exec_neighbour {store : Store} (hFresh : store.clientState neighbour = none) :
    exec externals store (createRequest relayTime neighbour 1 (consensusState 2)) =
      (sharedStore store, .created (createResult 1 (consensusState 2))) := by
  have hResult := createClient_eq_ok.mpr
    ⟨_, _, _, creates (by decide : (1 : U64) ≠ 0) consensusState_two_valid, rfl⟩
  simp only [exec, createRequest, if_pos hFresh, hResult]
  rfl

theorem sharedStore_reads (store : Store) (now : Time) :
    Reads externals ((sharedStore store).reader now) neighbour ⟨0, 1⟩ (clientState 1)
      (consensusState 2) where
  clientState := ⟨_, Store.reader_clientState_eq_ok.mpr (by
    simp [sharedStore, Store.putConsensusState, Store.putClientState]),
    tryFromAny_clientAny (clientState_sameConfig 1 1)⟩
  notFrozen := rfl
  consensusState := ⟨_, Store.reader_consensusState_eq_ok.mpr (by
    simp [sharedStore, Store.putConsensusState]), tryFromAny_consensusAny _⟩

/-- The relayed client does not see that a neighbour was created. -/
theorem relayed_clients_isolated :
    ∃ alone, Transition.Run (machine externals) relayedTrace alone ∧
      SameClient relayed (sharedStore relayedStore) alone :=
  clients_isolated (steps_exec relayedStore_run (exec_neighbour (by decide))) relayed

end Relayed

/-- The log of the accepted requests replays, with the same answers, to the very
store that the whole run ended in. What was refused need not be kept. -/
theorem accepted_log_replays {trace : Transition.Trace Request (Response T)}
    (hRun : Transition.Run (machine E) trace store) :
    Transition.Run (machine E) (trace.filter Event.accepted) store := by
  obtain ⟨replayed, hReplayed, rfl⟩ := (unwinds_accepted E).purge hRun rfl
  exact hReplayed

end EthereumElc
