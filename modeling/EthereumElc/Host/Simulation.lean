import EthereumElc.General.Tracker
import EthereumElc.Host.Exec

/-! Each client in the store of the host is a tracker of decoded states: what
the enclave does with bytes, a store and a clock is one tracker step or none. -/
namespace EthereumElc

open EthereumLightClient

variable {T : ExternalTypes}

/-- A consensus state with the id that was posted for it. -/
structure Attested (T : ExternalTypes) where
  state : ConsensusState T
  stateId : T.StateID

/-- Heights are tracked by their block numbers. -/
abbrev ClientTracker (T : ExternalTypes) := Tracker ClientState U64 (Attested T) Height

namespace ClientTracker

/-- The height of a block number. -/
def heightOf (n : U64) : Height := ⟨ETHEREUM_CLIENT_REVISION_NUMBER, n⟩

/-- The client state that the host stores for a tracker. -/
def clientState (t : ClientTracker T) : ClientState :=
  { t.config with latestExecutionBlockNumber := t.latest, frozenHeight := t.frozen }

/-- No update and no evidence has touched the configuration. -/
theorem clientState_sameConfig (t : ClientTracker T) : (clientState t).SameConfig t.config := rfl

theorem heightOf_injective {n k : U64} (h : heightOf n = heightOf k) : n = k := by
  injection h

theorem height_eq_heightOf (header : Header T) :
    header.height = heightOf header.executionUpdate.blockNumber := rfl

/-- The tracker of a client that was just created. -/
def created (c : ClientState) (s : ConsensusState T) (id : T.StateID) : ClientTracker T :=
  Tracker.opened c c.latestExecutionBlockNumber ⟨s, id⟩

end ClientTracker

open ClientTracker

/-- What the checks of the light client let through, without the bytes. -/
def rules (E : Externals T) : Tracker.Rules ClientState U64 (Attested T) Height where
  Advances config k a k' a' := ∃ now header time keys,
    header.trustedHeight = heightOf k ∧ header.executionUpdate.blockNumber = k' ∧
    config.AcceptsHeader E now a.state header time keys ∧
    a'.state = header.newConsensusState time keys ∧
    genStateId E config a'.state = .ok a'.stateId
  Freezes config k a mark := ∃ now clientId misbehaviour,
    misbehaviour.trustedHeight = heightOf k ∧ mark = heightOf k ∧
    config.AcceptsMisbehaviour E now clientId a.state misbehaviour

/-- Stored bytes of a consensus state: those it was decoded from, or those it
was encoded to. -/
def Stores (E : Externals T) (any : Any) (s : ConsensusState T) : Prop :=
  ConsensusState.tryFromAny E any = .ok s ∨ s.tryIntoAny E = .ok any

/-- Decoding stored bytes gives the state they stand for. For bytes that an update
has written this is the round trip of the conversions. -/
theorem Stores.eq_of_tryFromAny {E : Externals T} (hE : E.Lawful) {any : Any}
    {s s' : ConsensusState T} (h : Stores E any s)
    (hFrom : ConsensusState.tryFromAny E any = .ok s') : s' = s := by
  rcases h with hDecoded | hEncoded
  · rw [hDecoded, Except.ok.injEq] at hFrom
    exact hFrom.symm
  · exact ConsensusState.tryFromAny_tryIntoAny hE.toConvertsConsensusStates hEncoded hFrom

/-- The state id that an accepted message of the client posts for a height. -/
def Event.posted (clientId : ClientId) (height : Height) : Event T → Option T.StateID
  | (⟨_, .createClient id _ _⟩, .created result) =>
      if id = clientId ∧ result.message.postHeight = height then some result.message.postStateId
      else none
  | (⟨_, .updateClient id _⟩, .updated data) =>
      if id = clientId ∧ data.message.postHeight = height then some data.message.postStateId
      else none
  | _ => none

/-- The trusted height that an accepted misbehaviour of the client names. -/
def Event.punished (E : Externals T) (clientId : ClientId) : Event T → Option Height
  | (⟨_, .updateClient id anyMessage⟩, .misbehaved _) =>
      if id = clientId then
        match ClientMessage.tryFromAny E anyMessage with
        | .ok (.misbehaviour misbehaviour) => some misbehaviour.trustedHeight
        | _ => none
      else none
  | _ => none

/-- A request that does not write the client posts no id for it. -/
theorem Event.posted_eq_none {event : Event T} {clientId : ClientId}
    (h : event.writes ≠ some clientId) (height : Height) : event.posted clientId height = none := by
  unfold Event.posted
  split
  · simp_all [Event.writes]
  · simp_all [Event.writes]
  · rfl

theorem Event.punished_eq_none {E : Externals T} {event : Event T} {clientId : ClientId}
    (h : event.writes ≠ some clientId) : event.punished E clientId = none := by
  unfold Event.punished
  split
  · simp_all [Event.writes]
  · rfl

/-- A client that does not exist yet. -/
structure Absent (E : Externals T) (clientId : ClientId)
    (trace : Transition.Trace Request (Response T)) (store : Store) : Prop where
  clientState : store.clientState clientId = none
  consensusState : ∀ height, store.consensusState clientId height = none
  posted : ∀ height, trace.findSome? (Event.posted clientId height) = none
  punished : trace.findSome? (Event.punished E clientId) = none

/-- The store of the host and the past answers agree with a tracker of the client. -/
structure Represents (E : Externals T) (clientId : ClientId)
    (trace : Transition.Trace Request (Response T)) (store : Store) (t : ClientTracker T) : Prop where
  clientState : ∃ any, store.clientState clientId = some any ∧
    ClientState.tryFromAny E any = .ok (ClientTracker.clientState t)
  consensusState : ∀ n, Option.Rel (fun any a => Stores E any a.state)
    (store.consensusState clientId (heightOf n)) (t.states n)
  revisionNumber : ∀ height any, store.consensusState clientId height = some any →
    height.revisionNumber = ETHEREUM_CLIENT_REVISION_NUMBER
  stateId : ∀ n a, t.states n = some a → genStateId E t.config a.state = .ok a.stateId
  posted : ∀ n, trace.findSome? (Event.posted clientId (heightOf n)) =
    (t.states n).map Attested.stateId
  punished : trace.findSome? (Event.punished E clientId) = t.frozen

variable {E : Externals T} {clientId : ClientId} {trace : Transition.Trace Request (Response T)}
  {store store' : Store} {t : ClientTracker T}

/-- Every stored entry belongs to a block number that is tracked. -/
theorem Represents.states_of_stored (h : Represents E clientId trace store t) {height : Height}
    {any : Any} (hAny : store.consensusState clientId height = some any) :
    ∃ n a, height = heightOf n ∧ t.states n = some a ∧ Stores E any a.state := by
  have hHeight : height = heightOf height.revisionHeight := by
    cases height
    exact congrArg (Height.mk · _) (h.revisionNumber _ _ hAny)
  have hRel := h.consensusState height.revisionHeight
  rw [← hHeight, hAny] at hRel
  cases hStates : t.states height.revisionHeight with
  | none =>
      rw [hStates] at hRel
      cases hRel
  | some a =>
      rw [hStates] at hRel
      cases hRel with
      | some hStores => exact ⟨_, a, hHeight, hStates, hStores⟩

/-- Every tracked state is stored, under the height of its block number. -/
theorem Represents.stored_of_states (h : Represents E clientId trace store t) {n : U64}
    {a : Attested T} (hStates : t.states n = some a) :
    ∃ any, store.consensusState clientId (heightOf n) = some any ∧ Stores E any a.state := by
  have hRel := h.consensusState n
  rw [hStates] at hRel
  cases hAny : store.consensusState clientId (heightOf n) with
  | none =>
      rw [hAny] at hRel
      cases hRel
  | some any =>
      rw [hAny] at hRel
      cases hRel with
      | some hStores => exact ⟨any, rfl, hStores⟩

/-- Whatever an operation reads of a client is what its tracker holds. -/
theorem Represents.of_reads (hE : E.Lawful) (h : Represents E clientId trace store t) {now : Time}
    {height : Height} {c : ClientState} {s : ConsensusState T}
    (hReads : Reads E (store.reader now) clientId height c s) :
    c = ClientTracker.clientState t ∧ t.frozen = none ∧
      ∃ n a, height = heightOf n ∧ t.states n = some a ∧ s = a.state := by
  obtain ⟨⟨anyC, hAnyC, hc⟩, hFrozen, ⟨anyS, hAnyS, hs⟩⟩ := hReads
  obtain ⟨any, hAny, hClient⟩ := h.clientState
  rw [Store.reader_clientState_eq_ok, hAny, Option.some.injEq] at hAnyC
  subst hAnyC
  rw [hClient, Except.ok.injEq] at hc
  subst hc
  obtain ⟨n, a, hHeight, hStates, hStores⟩ :=
    h.states_of_stored (Store.reader_consensusState_eq_ok.mp hAnyS)
  refine ⟨rfl, ?_, n, a, hHeight, hStates, hStores.eq_of_tryFromAny hE hs⟩
  simpa [ClientState.isFrozen, ClientTracker.clientState] using hFrozen

/-- A tracker has the client that the stored bytes decode to. -/
theorem Represents.client_eq (h : Represents E clientId trace store t) {any : Any}
    {c : ClientState} (hAny : store.clientState clientId = some any)
    (hc : ClientState.tryFromAny E any = .ok c) : c = ClientTracker.clientState t := by
  obtain ⟨any', hAny', hClient⟩ := h.clientState
  rw [hAny, Option.some.injEq] at hAny'
  subst hAny'
  rw [hc, Except.ok.injEq] at hClient
  exact hClient

/-- A client with the tracked configuration can be encoded, since its stored bytes
were decoded once. -/
theorem Represents.encodable (hE : E.Lawful) (h : Represents E clientId trace store t)
    {c : ClientState} (hConfig : c.SameConfig t.config) : c.Encodable E := by
  obtain ⟨any, -, hClient⟩ := h.clientState
  exact (hConfig.trans (clientState_sameConfig t).symm).encodable
    (ClientState.encodable_of_tryFromAny hE hClient)

/-- Nothing of a client changes while a request writes elsewhere. -/
theorem Represents.idle (h : Represents E clientId trace store t) {event : Event T}
    (hQuiet : event.writes ≠ some clientId)
    (hClient : store'.clientState clientId = store.clientState clientId)
    (hConsensus : store'.consensusState clientId = store.consensusState clientId) :
    Represents E clientId (event :: trace) store' t where
  clientState := by
    rw [hClient]
    exact h.clientState
  consensusState := by
    rw [hConsensus]
    exact h.consensusState
  revisionNumber := by
    rw [hConsensus]
    exact h.revisionNumber
  stateId := h.stateId
  posted n := by
    rw [List.findSome?_cons, Event.posted_eq_none hQuiet]
    exact h.posted n
  punished := by
    rw [List.findSome?_cons, Event.punished_eq_none hQuiet]
    exact h.punished

theorem Absent.idle (h : Absent E clientId trace store) {event : Event T}
    (hQuiet : event.writes ≠ some clientId)
    (hClient : store'.clientState clientId = store.clientState clientId)
    (hConsensus : store'.consensusState clientId = store.consensusState clientId) :
    Absent E clientId (event :: trace) store' where
  clientState := hClient.trans h.clientState
  consensusState height := by
    rw [hConsensus]
    exact h.consensusState height
  posted height := by
    rw [List.findSome?_cons, Event.posted_eq_none hQuiet]
    exact h.posted height
  punished := by
    rw [List.findSome?_cons, Event.punished_eq_none hQuiet]
    exact h.punished

/-- A creation opens the tracker of its decoded states. -/
theorem Absent.created (h : Absent E clientId trace store) (now : Time)
    {anyClientState anyConsensusState : Any} {c : ClientState} {s : ConsensusState T}
    {id : T.StateID} (hCreates : Creates E anyClientState anyConsensusState c s id)
    (hClient : store'.clientState clientId = some anyClientState)
    (hConsensus : store'.consensusState clientId = Function.update (store.consensusState clientId)
      (toLcpHeight c.latestHeight) (some anyConsensusState)) :
    Represents E clientId ((⟨now, .createClient clientId anyClientState anyConsensusState⟩,
      .created (creationResult anyClientState c s id)) :: trace) store' (created c s id) where
  clientState := by
    refine ⟨anyClientState, hClient, ?_⟩
    have hFrozen : c.frozenHeight = none := by simpa [ClientState.isFrozen] using hCreates.notFrozen
    rw [hCreates.clientState]
    cases c
    simp_all [ClientTracker.clientState, ClientTracker.created]
  consensusState n := by
    rw [hConsensus]
    by_cases hEq : n = c.latestExecutionBlockNumber
    · subst hEq
      have hHeight : heightOf c.latestExecutionBlockNumber = toLcpHeight c.latestHeight := rfl
      rw [hHeight, Function.update_self, ClientTracker.created,
        Tracker.opened_states_eq_some.mpr ⟨rfl, rfl⟩]
      exact .some (.inl hCreates.consensusState)
    · have hNe : heightOf n ≠ toLcpHeight c.latestHeight :=
        fun hSame => hEq (heightOf_injective hSame)
      have hNone : (ClientTracker.created c s id).states n = none := by
        simp [ClientTracker.created, Tracker.opened, hEq]
      rw [Function.update_of_ne hNe, h.consensusState, hNone]
      exact .none
  revisionNumber height any hAny := by
    rw [hConsensus] at hAny
    by_cases hEq : height = toLcpHeight c.latestHeight
    · rw [hEq]
      rfl
    · rw [Function.update_of_ne hEq, h.consensusState] at hAny
      cases hAny
  stateId n a hStates := by
    obtain ⟨-, rfl⟩ := Tracker.opened_states_eq_some.mp hStates
    exact hCreates.stateId
  posted n := by
    rw [List.findSome?_cons]
    by_cases hEq : n = c.latestExecutionBlockNumber
    · subst hEq
      rw [ClientTracker.created, Tracker.opened_states_eq_some.mpr ⟨rfl, rfl⟩]
      simp [Event.posted, creationResult, heightOf, toLcpHeight, ClientState.latestHeight]
    · have hNone : (ClientTracker.created c s id).states n = none := by
        simp [ClientTracker.created, Tracker.opened, hEq]
      have hPosted : Event.posted clientId (heightOf n)
          (⟨now, .createClient clientId anyClientState anyConsensusState⟩,
            .created (creationResult anyClientState c s id)) = none := by
        have hNe : c.latestExecutionBlockNumber ≠ n := fun hSame => hEq hSame.symm
        simp [Event.posted, creationResult, heightOf, toLcpHeight, ClientState.latestHeight, hNe]
      rw [hPosted, hNone]
      exact h.posted _
  punished := by
    rw [List.findSome?_cons]
    exact h.punished

/-- An accepted header has passed the checks of the tracked configuration, against
a state that the tracker holds. -/
theorem Represents.of_updates (hE : E.Lawful) (h : Represents E clientId trace store t) {now : Time}
    {header : Header T} {c : ClientState} {s s' : ConsensusState T} {data : UpdateStateData T}
    (hUpdates : Updates E (store.reader now) clientId header c s s' data) :
    ∃ n a time keys, header.trustedHeight = heightOf n ∧ t.states n = some a ∧ s = a.state ∧
      t.config.AcceptsHeader E now a.state header time keys ∧
      s' = header.newConsensusState time keys := by
  obtain ⟨rfl, -, n, a, hTrusted, hStates, rfl⟩ := h.of_reads hE hUpdates.reads
  obtain ⟨time, keys, hAccepts, hNew⟩ := hUpdates.accepts
  exact ⟨n, a, time, keys, hTrusted, hStates, rfl,
    hAccepts.of_sameConfig (clientState_sameConfig t).symm, hNew⟩

/-- An accepted header advances the tracker. -/
theorem Represents.updated (hE : E.Lawful) (h : Represents E clientId trace store t) {now : Time}
    (anyMessage : Any) {header : Header T} {c : ClientState} {s s' : ConsensusState T}
    {data : UpdateStateData T}
    (hUpdates : Updates E (store.reader now) clientId header c s s' data)
    (hClient : store'.clientState clientId = some data.newAnyClientState)
    (hConsensus : store'.consensusState clientId = Function.update (store.consensusState clientId)
      header.height (some data.newAnyConsensusState)) :
    ∃ a', a'.state = s' ∧ Tracker.Step (rules E) t (t.advance header.executionUpdate.blockNumber a') ∧
      Represents E clientId ((⟨now, .updateClient clientId anyMessage⟩, .updated data) :: trace)
        store' (t.advance header.executionUpdate.blockNumber a') := by
  obtain ⟨rfl, hActive, -⟩ := h.of_reads hE hUpdates.reads
  obtain ⟨n, a, time, keys, hTrusted, hStates, rfl, hAccepts, hNew⟩ := h.of_updates hE hUpdates
  obtain ⟨prevId, postId, -, hPost, hMessage⟩ := hUpdates.message
  have hSame := clientState_sameConfig t
  have hPost : genStateId E t.config s' = .ok postId := by
    rw [← hSame.genStateId_eq]
    exact hPost
  have hAccepted : (rules E).Advances t.config n a header.executionUpdate.blockNumber
      ⟨s', postId⟩ :=
    ⟨now, header, time, keys, hTrusted, rfl, hAccepts, hNew, hPost⟩
  refine ⟨⟨s', postId⟩, rfl, .advance hActive hStates hAccepted, ?_⟩
  constructor
  · refine ⟨_, hClient, ?_⟩
    have hEncodable := h.encodable hE
      ((ClientState.withLatestBlock_sameConfig _ header.executionUpdate.blockNumber).trans hSame)
    rw [hEncodable.tryFromAny_tryIntoAny hE.clientState hUpdates.newAnyClientState,
      ClientState.withLatestBlock_eq]
    rfl
  · intro k
    rw [hConsensus]
    by_cases hEq : k = header.executionUpdate.blockNumber
    · subst hEq
      rw [← height_eq_heightOf, Function.update_self, Tracker.advance_states_self]
      exact .some (.inr hUpdates.newAnyConsensusState)
    · have hNe : heightOf k ≠ header.height := fun hHeight => hEq (heightOf_injective hHeight)
      rw [Function.update_of_ne hNe, Tracker.advance_states_of_ne _ _ hEq]
      exact h.consensusState k
  · intro height any hAny
    rw [hConsensus] at hAny
    by_cases hEq : height = header.height
    · rw [hEq]
      rfl
    · rw [Function.update_of_ne hEq] at hAny
      exact h.revisionNumber height any hAny
  · intro k b hb
    by_cases hEq : k = header.executionUpdate.blockNumber
    · subst hEq
      rw [Tracker.advance_states_self, Option.some.injEq] at hb
      subst hb
      exact hPost
    · rw [Tracker.advance_states_of_ne _ _ hEq] at hb
      exact h.stateId k b hb
  · intro k
    rw [List.findSome?_cons]
    by_cases hEq : k = header.executionUpdate.blockNumber
    · subst hEq
      rw [Tracker.advance_states_self]
      simp [Event.posted, hMessage, updateMessage, height_eq_heightOf]
    · have hNe : header.executionUpdate.blockNumber ≠ k := fun hSame => hEq hSame.symm
      have hPosted : Event.posted clientId (heightOf k)
          (⟨now, .updateClient clientId anyMessage⟩, .updated data) = none := by
        simp [Event.posted, hMessage, updateMessage, height_eq_heightOf, heightOf, hNe]
      rw [hPosted, Tracker.advance_states_of_ne _ _ hEq]
      exact h.posted k
  · rw [List.findSome?_cons]
    exact h.punished

/-- An accepted misbehaviour freezes the tracker at the height that it trusts. -/
theorem Represents.misbehaved (hE : E.Lawful) (h : Represents E clientId trace store t) {now : Time}
    {anyMessage : Any} {misbehaviour : Misbehaviour T} {c : ClientState} {s : ConsensusState T}
    {data : MisbehaviourData T}
    (hMessage : ClientMessage.tryFromAny E anyMessage = .ok (.misbehaviour misbehaviour))
    (hPunishes : Punishes E (store.reader now) clientId anyMessage misbehaviour c s data)
    (hClient : store'.clientState clientId = some data.newAnyClientState)
    (hConsensus : store'.consensusState clientId = store.consensusState clientId) :
    Tracker.Step (rules E) t (t.freeze misbehaviour.trustedHeight) ∧
      Represents E clientId ((⟨now, .updateClient clientId anyMessage⟩, .misbehaved data) :: trace)
        store' (t.freeze misbehaviour.trustedHeight) := by
  obtain ⟨rfl, hActive, n, a, hTrusted, hStates, rfl⟩ := h.of_reads hE hPunishes.reads
  have hSame := clientState_sameConfig t
  have hAccepted : (rules E).Freezes t.config n a misbehaviour.trustedHeight :=
    ⟨now, clientId, misbehaviour, hTrusted, hTrusted, hPunishes.accepts.of_sameConfig hSame.symm⟩
  refine ⟨.freeze hActive hStates hAccepted, ?_⟩
  constructor
  · refine ⟨_, hClient, ?_⟩
    have hEncodable := h.encodable hE
      ((ClientState.withFrozenHeight_sameConfig _ misbehaviour.trustedHeight).trans hSame)
    rw [hEncodable.tryFromAny_tryIntoAny hE.clientState hPunishes.newAnyClientState]
    rfl
  · rw [hConsensus]
    exact h.consensusState
  · rw [hConsensus]
    exact h.revisionNumber
  · exact h.stateId
  · intro k
    rw [List.findSome?_cons]
    exact h.posted k
  · rw [List.findSome?_cons]
    simp [Event.punished, hMessage]

/-- One request of the host is at most one step of the tracker. -/
theorem Represents.step (hE : E.Lawful) (h : Represents E clientId trace store t)
    {request : Request} {response : Response T} (hStep : exec E store request = (store', response)) :
    ∃ t', Tracker.Evolves (rules E) t t' ∧
      Represents E clientId ((request, response) :: trace) store' t' := by
  cases exec_clientStep hStep clientId with
  | created hFresh =>
      obtain ⟨any, hAny, -⟩ := h.clientState
      rw [hFresh] at hAny
      cases hAny
  | updated hMessage hUpdates hClient hConsensus =>
      obtain ⟨a', -, hAdvance, hNext⟩ := h.updated hE _ hUpdates hClient hConsensus
      exact ⟨_, .single hAdvance, hNext⟩
  | misbehaved hMessage hPunishes hClient hConsensus =>
      obtain ⟨hFreeze, hNext⟩ := h.misbehaved hE hMessage hPunishes hClient hConsensus
      exact ⟨_, .single hFreeze, hNext⟩
  | idle hQuiet hClient hConsensus => exact ⟨t, .refl, h.idle hQuiet hClient hConsensus⟩

/-- Any number of requests is a number of tracker steps, and the past answers of the
longer trace still agree with the tracker. -/
theorem Represents.steps (hE : E.Lawful) (h : Represents E clientId trace store t)
    {later : Transition.Trace Request (Response T)}
    (hSteps : Transition.Steps (machine E) store later store') :
    ∃ t', Tracker.Evolves (rules E) t t' ∧ Represents E clientId (later ++ trace) store' t' :=
  hSteps.simulate (Represents E clientId) (Tracker.Step (rules E)) h
    fun _ _ _ _ _ _ hRepresents hStep => hRepresents.step hE hStep

theorem absent_empty : Absent E clientId [] Store.empty :=
  ⟨rfl, fun _ => rfl, fun _ => rfl, rfl⟩

/-- A tracker that started from an accepted creation of the client. -/
structure Tracked (E : Externals T) (clientId : ClientId)
    (trace : Transition.Trace Request (Response T)) (c : ClientState) (s : ConsensusState T)
    (id : T.StateID) (t : ClientTracker T) : Prop where
  creation : ∃ now anyClientState anyConsensusState,
    Creates E anyClientState anyConsensusState c s id ∧
    ((⟨now, .createClient clientId anyClientState anyConsensusState⟩,
      .created (creationResult anyClientState c s id)) : Event T) ∈ trace
  evolves : Tracker.Evolves (rules E) (created c s id) t

/-- In every reachable store a client is absent or is a tracker that evolved
from its creation. -/
theorem absent_or_represents (hE : E.Lawful) (hRun : Transition.Run (machine E) trace store)
    (clientId : ClientId) : Absent E clientId trace store ∨
      ∃ c s id t, Tracked E clientId trace c s id t ∧ Represents E clientId trace store t := by
  refine hRun.invariant (fun trace store => Absent E clientId trace store ∨
      ∃ c s id t, Tracked E clientId trace c s id t ∧ Represents E clientId trace store t)
    (.inl absent_empty) fun trace m request response m' hInv hStep => ?_
  rcases hInv with hAbsent | ⟨c, s, id, t, ⟨⟨now, anyC, anyS, hCreates, hMem⟩, hEvolves⟩, hRepresents⟩
  · cases exec_clientStep hStep clientId with
    | created hFresh hCreates hClient hConsensus =>
        exact .inr ⟨_, _, _, _, ⟨⟨_, _, _, hCreates, List.mem_cons_self⟩, .refl⟩,
          hAbsent.created _ hCreates hClient hConsensus⟩
    | updated hMessage hUpdates =>
        obtain ⟨any, hAny, -⟩ := hUpdates.reads.clientState
        rw [Store.reader_clientState_eq_ok, hAbsent.clientState] at hAny
        cases hAny
    | misbehaved hMessage hPunishes =>
        obtain ⟨any, hAny, -⟩ := hPunishes.reads.clientState
        rw [Store.reader_clientState_eq_ok, hAbsent.clientState] at hAny
        cases hAny
    | idle hQuiet hClient hConsensus => exact .inl (hAbsent.idle hQuiet hClient hConsensus)
  · obtain ⟨t', hNext, hRepresents'⟩ := hRepresents.step hE hStep
    exact .inr ⟨c, s, id, t',
      ⟨⟨now, anyC, anyS, hCreates, List.mem_cons_of_mem _ hMem⟩, hEvolves.trans hNext⟩, hRepresents'⟩

/-- A property of attested states that the creation has and every accepted
header carries over. -/
theorem states_invariant {c : ClientState} {s : ConsensusState T} {id : T.StateID}
    (P : U64 → Attested T → Prop) (h : Tracker.Evolves (rules E) (created c s id) t)
    (hStart : P c.latestExecutionBlockNumber ⟨s, id⟩)
    (hAdvance : ∀ k a k' a', P k a → (rules E).Advances c k a k' a' → P k' a') :
    ∀ n a, t.states n = some a → P n a := by
  refine h.states_invariant P (fun k a hStates => ?_) hAdvance
  obtain ⟨rfl, rfl⟩ := Tracker.opened_states_eq_some.mp hStates
  exact hStart

/-- A client that is stored in a reachable store is such a tracker. -/
theorem represents_of_stored (hE : E.Lawful) (hRun : Transition.Run (machine E) trace store)
    {any : Any} (hAny : store.clientState clientId = some any) :
    ∃ c s id t, Tracked E clientId trace c s id t ∧ Represents E clientId trace store t := by
  rcases absent_or_represents hE hRun clientId with hAbsent | hRepresents
  · rw [hAbsent.clientState] at hAny
    cases hAny
  · exact hRepresents

/-- A client that was created in a reachable store is from then on a tracker
that evolved from the decoded states. -/
theorem represents_of_created (hE : E.Lawful) {before : Transition.Trace Request (Response T)}
    {store₀ store₁ : Store} (hRun : Transition.Run (machine E) before store₀) {now : Time}
    {anyClient anyConsensus : Any} {result : CreateClientResult T}
    (hCreate : exec E store₀ ⟨now, .createClient clientId anyClient anyConsensus⟩ =
      (store₁, .created result)) {c : ClientState} {s : ConsensusState T}
    (hClient : ClientState.tryFromAny E anyClient = .ok c)
    (hConsensus : ConsensusState.tryFromAny E anyConsensus = .ok s)
    (hSteps : Transition.Steps (machine E) store₁ trace store) :
    ∃ id t, Creates E anyClient anyConsensus c s id ∧
      Tracker.Evolves (rules E) (created c s id) t ∧
      Represents E clientId (trace ++ (⟨now, .createClient clientId anyClient anyConsensus⟩,
        .created result) :: before) store t := by
  cases exec_clientStep hCreate clientId with
  | @created _ _ _ c' s' id _ hFresh hCreates hClientState hConsensusState =>
      rcases absent_or_represents hE hRun clientId with hAbsent | ⟨_, _, _, _, -, hRepresents⟩
      · have hCreated := hAbsent.created now hCreates hClientState hConsensusState
        have hc := hCreates.clientState
        have hs := hCreates.consensusState
        rw [hClient, Except.ok.injEq] at hc
        rw [hConsensus, Except.ok.injEq] at hs
        subst hc hs
        obtain ⟨t, hEvolves, hLast⟩ := hCreated.steps hE hSteps
        exact ⟨id, t, hCreates, hEvolves, hLast⟩
      · obtain ⟨any, hAny, -⟩ := hRepresents.clientState
        rw [hFresh] at hAny
        cases hAny
  | idle hQuiet => exact absurd rfl hQuiet

/-- Induction over the runs of a host, for one client: what its creation sets up,
and what every accepted header, every accepted evidence and every other request
keeps, holds of the client wherever it is stored. -/
theorem represents_induction (hE : E.Lawful)
    (P : Transition.Trace Request (Response T) → ClientTracker T → Prop)
    (hCreated : ∀ trace now anyClient anyConsensus c s id, Creates E anyClient anyConsensus c s id →
      P ((⟨now, .createClient clientId anyClient anyConsensus⟩,
        .created (creationResult anyClient c s id)) :: trace) (created c s id))
    (hUpdated : ∀ trace store t now anyMessage header c s s' data a', P trace t →
      Represents E clientId trace store t →
      ClientMessage.tryFromAny E anyMessage = .ok (.header header) →
      Updates E (store.reader now) clientId header c s s' data → a'.state = s' →
      a'.stateId = data.message.postStateId →
      P ((⟨now, .updateClient clientId anyMessage⟩, .updated data) :: trace)
        (t.advance header.executionUpdate.blockNumber a'))
    (hMisbehaved : ∀ trace t now anyMessage data mark, P trace t →
      P ((⟨now, .updateClient clientId anyMessage⟩, .misbehaved data) :: trace) (t.freeze mark))
    (hIdle : ∀ trace t event, P trace t → P (event :: trace) t)
    (hRun : Transition.Run (machine E) trace store) {any : Any}
    (hAny : store.clientState clientId = some any) :
    ∃ t, Represents E clientId trace store t ∧ P trace t := by
  have hInvariant := hRun.invariant (fun trace store => Absent E clientId trace store ∨
    ∃ t, Represents E clientId trace store t ∧ P trace t) (.inl absent_empty)
    fun trace m request response m' hInv hStep => by
      rcases hInv with hAbsent | ⟨t, hRepresents, hP⟩
      · cases exec_clientStep hStep clientId with
        | created hFresh hCreates hClient hConsensus =>
            exact .inr ⟨_, hAbsent.created _ hCreates hClient hConsensus,
              hCreated _ _ _ _ _ _ _ hCreates⟩
        | updated hMessage hUpdates =>
            obtain ⟨any, hAny, -⟩ := hUpdates.reads.clientState
            rw [Store.reader_clientState_eq_ok, hAbsent.clientState] at hAny
            cases hAny
        | misbehaved hMessage hPunishes =>
            obtain ⟨any, hAny, -⟩ := hPunishes.reads.clientState
            rw [Store.reader_clientState_eq_ok, hAbsent.clientState] at hAny
            cases hAny
        | idle hQuiet hClient hConsensus => exact .inl (hAbsent.idle hQuiet hClient hConsensus)
      · cases exec_clientStep hStep clientId with
        | created hFresh =>
            obtain ⟨any, hAny, -⟩ := hRepresents.clientState
            rw [hFresh] at hAny
            cases hAny
        | updated hMessage hUpdates hClient hConsensus =>
            obtain ⟨a', hState, -, hNext⟩ := hRepresents.updated hE _ hUpdates hClient hConsensus
            have hPosted := hNext.stateId _ _ (Tracker.advance_states_self _ _ _)
            obtain ⟨rfl, -⟩ := hRepresents.of_reads hE hUpdates.reads
            obtain ⟨prevId, postId, -, hPost, hProxy⟩ := hUpdates.message
            rw [Tracker.advance_config, hState, ← (clientState_sameConfig t).genStateId_eq, hPost,
              Except.ok.injEq] at hPosted
            refine .inr ⟨_, hNext, hUpdated _ _ _ _ _ _ _ _ _ _ _ hP hRepresents hMessage hUpdates
              hState ?_⟩
            rw [hProxy, ← hPosted]
            rfl
        | misbehaved hMessage hPunishes hClient hConsensus =>
            obtain ⟨-, hNext⟩ := hRepresents.misbehaved hE hMessage hPunishes hClient hConsensus
            exact .inr ⟨_, hNext, hMisbehaved _ _ _ _ _ _ hP⟩
        | idle hQuiet hClient hConsensus =>
            exact .inr ⟨t, hRepresents.idle hQuiet hClient hConsensus, hIdle _ _ _ hP⟩
  rcases hInvariant with hAbsent | hRepresents
  · rw [hAbsent.clientState] at hAny
    cases hAny
  · exact hRepresents

end EthereumElc
