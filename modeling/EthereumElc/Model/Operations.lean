import EthereumElc.Model.Client

/-! What each operation of the light client reads, checks and returns when it
succeeds, and the error that it returns on a frozen client. -/
namespace EthereumElc

variable {T : ExternalTypes} (E : Externals T) (ctx : HostClientReader)

namespace EthereumLightClient

/-- The states that an operation at a height of a client works with, and the
gate against frozen clients that every operation repeats. -/
structure Reads (clientId : ClientId) (height : Height) (c : ClientState) (s : ConsensusState T) :
    Prop where
  clientState : ∃ any, ctx.clientState clientId = .ok any ∧ ClientState.tryFromAny E any = .ok c
  notFrozen : c.isFrozen = false
  consensusState : ∃ any, ctx.consensusState clientId height = .ok any ∧
    ConsensusState.tryFromAny E any = .ok s

variable {E ctx}

/-- The host store determines what is read. -/
theorem Reads.unique {clientId : ClientId} {height height' : Height} {c c' : ClientState}
    {s s' : ConsensusState T} (h : Reads E ctx clientId height c s)
    (h' : Reads E ctx clientId height' c' s') : c = c' ∧ (height = height' → s = s') := by
  obtain ⟨⟨any, hAny, hc⟩, -, ⟨anyS, hAnyS, hs⟩⟩ := h
  obtain ⟨⟨any', hAny', hc'⟩, -, ⟨anyS', hAnyS', hs'⟩⟩ := h'
  rw [hAny, Except.ok.injEq] at hAny'
  subst hAny'
  rw [hc, Except.ok.injEq] at hc'
  refine ⟨hc', ?_⟩
  rintro rfl
  rw [hAnyS, Except.ok.injEq] at hAnyS'
  subst hAnyS'
  rwa [hs, Except.ok.injEq] at hs'

/-- The shared beginning of the operations on an existing client. -/
theorem reads_bind_eq_ok {β : Type} {clientId : ClientId} {height : Height}
    {k : ClientState → ConsensusState T → Result β} {result : β} :
    (do let anyClientState ← Outcome.lift Error.lightClient (ctx.clientState clientId)
        let anyConsensusState ← Outcome.lift Error.lightClient (ctx.consensusState clientId height)
        let clientState ← ClientState.tryFromAny E anyClientState
        Outcome.rejectIf (clientState.isFrozen = true) (Error.clientFrozen clientId)
        let consensusState ← ConsensusState.tryFromAny E anyConsensusState
        k clientState consensusState) = .ok result ↔
      ∃ c s, Reads E ctx clientId height c s ∧ k c s = .ok result := by
  simp only [Outcome.bind_eq_ok, Outcome.lift_eq_ok, Outcome.rejectIf_eq_ok, Bool.not_eq_true]
  constructor
  · rintro ⟨anyC, hAnyC, anyS, hAnyS, c, hc, ⟨⟩, hFrozen, s, hs, hRest⟩
    exact ⟨c, s, ⟨⟨anyC, hAnyC, hc⟩, hFrozen, ⟨anyS, hAnyS, hs⟩⟩, hRest⟩
  · rintro ⟨c, s, ⟨⟨anyC, hAnyC, hc⟩, hFrozen, ⟨anyS, hAnyS, hs⟩⟩, hRest⟩
    exact ⟨anyC, hAnyC, anyS, hAnyS, c, hc, (), hFrozen, s, hs, hRest⟩

variable {clientId : ClientId}

/-- A client has a latest height when its state decodes, frozen or not. -/
theorem latestHeight_eq_ok {height : Height} : latestHeight E ctx clientId = .ok height ↔
    ∃ any c, ctx.clientState clientId = .ok any ∧ ClientState.tryFromAny E any = .ok c ∧
      height = ⟨ETHEREUM_CLIENT_REVISION_NUMBER, c.latestExecutionBlockNumber⟩ := by
  simp only [latestHeight, Outcome.bind_eq_ok, Outcome.lift_eq_ok, Outcome.pure_eq_ok]
  constructor
  · rintro ⟨any, hAny, c, hc, rfl⟩
    exact ⟨any, c, hAny, hc, rfl⟩
  · rintro ⟨any, c, hAny, hc, rfl⟩
    exact ⟨any, hAny, c, hc, rfl⟩

/-- A creation answers with the height and the id of the decoded states. -/
def creationResult (anyClientState : Any) (c : ClientState) (s : ConsensusState T) (id : T.StateID) :
    CreateClientResult T where
  height := toLcpHeight c.latestHeight
  message := {
    prevHeight := none
    prevStateId := none
    postHeight := toLcpHeight c.latestHeight
    postStateId := id
    emittedStates := [⟨toLcpHeight c.latestHeight, anyClientState⟩]
    timestamp := s.timestamp
    context := .empty }
  prove := false

/-- An accepted creation of a client, with the decoded states and their id. -/
structure Creates (E : Externals T) (anyClientState anyConsensusState : Any) (c : ClientState)
    (s : ConsensusState T) (id : T.StateID) : Prop where
  clientState : ClientState.tryFromAny E anyClientState = .ok c
  valid : c.validate E = .ok ()
  notFrozen : c.isFrozen = false
  consensusState : ConsensusState.tryFromAny E anyConsensusState = .ok s
  consensusValid : s.validate = .ok ()
  stateId : genStateId E c s = .ok id

/-- What an accepted creation was, and what it answered. -/
theorem createClient_eq_ok {anyClientState anyConsensusState : Any} {result : CreateClientResult T} :
    createClient E anyClientState anyConsensusState = .ok result ↔
      ∃ c s id, Creates E anyClientState anyConsensusState c s id ∧
        result = creationResult anyClientState c s id := by
  simp only [createClient, Outcome.bind_eq_ok, Outcome.rejectIf_eq_ok, Outcome.pure_eq_ok,
    Bool.not_eq_true]
  constructor
  · rintro ⟨c, hc, ⟨⟩, hValid, ⟨⟩, hFrozen, s, hs, ⟨⟩, hsValid, id, hId, rfl⟩
    exact ⟨c, s, id, ⟨hc, hValid, hFrozen, hs, hsValid, hId⟩, rfl⟩
  · rintro ⟨c, s, id, ⟨hc, hValid, hFrozen, hs, hsValid, hId⟩, rfl⟩
    exact ⟨c, hc, (), hValid, (), hFrozen, s, hs, (), hsValid, id, hId, rfl⟩

/-- The message of an update of the state `s` at the trusted height to the state `s'`. -/
def updateMessage (c : ClientState) (header : Header T) (s s' : ConsensusState T)
    (prevStateId postStateId : T.StateID) : UpdateStateProxyMessage T where
  prevHeight := some header.trustedHeight
  prevStateId := some prevStateId
  postHeight := header.height
  postStateId := postStateId
  emittedStates := []
  timestamp := s'.timestamp
  context := .trustingPeriod {
    trustingPeriod := c.trustingPeriod
    clockDrift := c.maxClockDrift
    untrustedHeaderTimestamp := s'.timestamp
    trustedStateTimestamp := s.timestamp }

/-- An accepted header update of a client, with everything that was computed for it. -/
structure Updates (E : Externals T) (ctx : HostClientReader) (clientId : ClientId) (header : Header T)
    (c : ClientState) (s s' : ConsensusState T) (data : UpdateStateData T) : Prop where
  reads : Reads E ctx clientId header.trustedHeight c s
  accepts : ∃ time keys, c.AcceptsHeader E ctx.hostTimestamp s header time keys ∧
    s' = header.newConsensusState time keys
  message : ∃ prevStateId postStateId, genStateId E c s = .ok prevStateId ∧
    genStateId E c s' = .ok postStateId ∧
    data.message = updateMessage c header s s' prevStateId postStateId
  newAnyClientState : (c.withLatestBlock header.executionUpdate.blockNumber).tryIntoAny E =
    .ok data.newAnyClientState
  newAnyConsensusState : s'.tryIntoAny E = .ok data.newAnyConsensusState
  height : data.height = header.height
  prove : data.prove = true

/-- What an accepted header was, and what was computed for it. The id of the new
states is taken with the old client state, since both have one configuration. -/
theorem updateState_eq_ok {header : Header T} {data : UpdateStateData T} :
    updateState E ctx clientId header = .ok data ↔
      ∃ c s s', Updates E ctx clientId header c s s' data := by
  rw [updateState, reads_bind_eq_ok]
  simp only [Outcome.bind_eq_ok, Prod.exists, ClientState.checkHeaderAndUpdateState_eq_ok,
    Outcome.pure_eq_ok, Prod.mk.injEq]
  constructor
  · rintro ⟨c, s, hReads, c', s', ⟨time, keys, hAccepts, rfl, rfl⟩, prevId, hPrev, postId, hPost,
      anyC, hAnyC, anyS, hAnyS, rfl⟩
    rw [(ClientState.withLatestBlock_sameConfig c _).genStateId_eq] at hPost
    exact ⟨c, s, _, hReads, ⟨time, keys, hAccepts, rfl⟩, ⟨prevId, postId, hPrev, hPost, rfl⟩, hAnyC,
      hAnyS, rfl, rfl⟩
  · rintro ⟨c, s, s', hReads, ⟨time, keys, hAccepts, rfl⟩, ⟨prevId, postId, hPrev, hPost, hMessage⟩,
      hAnyC, hAnyS, hHeight, hProve⟩
    rw [← (ClientState.withLatestBlock_sameConfig c _).genStateId_eq] at hPost
    refine ⟨c, s, hReads, _, _, ⟨time, keys, hAccepts, rfl, rfl⟩, prevId, hPrev, postId, hPost, _,
      hAnyC, _, hAnyS, ?_⟩
    cases data
    simp_all [updateMessage, Header.height, Header.trustedHeight]

/-- The message of an update does not depend on the fields that a state id leaves out. -/
theorem updateMessage_of_sameConfig {c c' : ClientState} (hSame : c'.SameConfig c)
    (header : Header T) (s s' : ConsensusState T) (prevStateId postStateId : T.StateID) :
    updateMessage c' header s s' prevStateId postStateId =
      updateMessage c header s s' prevStateId postStateId := by
  obtain ⟨-, -, -, -, -, -, -, -, -, -, hPeriod, hDrift⟩ := ClientState.sameConfig_iff.mp hSame
  simp only [updateMessage, hPeriod, hDrift]

/-- An update that is accepted for a client is accepted at the same host time
wherever the same trusted state is read under the same configuration, with the
same message and the same bytes of the new state. -/
theorem Updates.replay (hTotal : ∀ raw, ∃ bytes, E.clientStateCodec.encode raw = .ok bytes)
    {ctx' : HostClientReader} {header : Header T} {c c' : ClientState} {s s' : ConsensusState T}
    {data : UpdateStateData T} (h : Updates E ctx clientId header c s s' data)
    (hReads : Reads E ctx' clientId header.trustedHeight c' s) (hSame : c'.SameConfig c)
    (hNow : ctx'.hostTimestamp = ctx.hostTimestamp) :
    ∃ data', Updates E ctx' clientId header c' s s' data' ∧ data'.message = data.message ∧
      data'.height = data.height ∧ data'.newAnyConsensusState = data.newAnyConsensusState := by
  obtain ⟨time, keys, hAccepts, hNew⟩ := h.accepts
  obtain ⟨prevId, postId, hPrev, hPost, hMessage⟩ := h.message
  rw [← hNow] at hAccepts
  rw [← hSame.genStateId_eq] at hPrev hPost
  obtain ⟨bytes, hBytes⟩ :=
    hTotal ((c'.withLatestBlock header.executionUpdate.blockNumber).intoRaw E)
  refine ⟨⟨⟨ETHEREUM_CLIENT_STATE_TYPE_URL, bytes⟩, data.newAnyConsensusState, data.height,
    data.message, true⟩, ⟨hReads, ⟨time, keys, hAccepts.of_sameConfig hSame, hNew⟩, ?_, ?_,
      h.newAnyConsensusState, h.height, rfl⟩, rfl, rfl, rfl⟩
  · exact ⟨prevId, postId, hPrev, hPost,
      hMessage.trans (updateMessage_of_sameConfig hSame _ _ _ _ _).symm⟩
  · exact ClientState.tryIntoAny_eq_ok.mpr ⟨rfl, hBytes⟩

/-- The message of a misbehaviour against the state `s` at the trusted height. The
header's timestamp is not checked, so the context carries the earliest one. -/
def misbehaviourMessage (c : ClientState) (s : ConsensusState T) (trustedHeight : Height)
    (stateId : T.StateID) (anyMessage : Any) : MisbehaviourProxyMessage T where
  prevStates := [⟨trustedHeight, stateId⟩]
  context := .trustingPeriod {
    trustingPeriod := c.trustingPeriod
    clockDrift := Duration.ZERO
    untrustedHeaderTimestamp := Time.unixEpoch
    trustedStateTimestamp := s.timestamp }
  clientMessage := anyMessage

/-- An accepted misbehaviour of a client. -/
structure Punishes (E : Externals T) (ctx : HostClientReader) (clientId : ClientId) (anyMessage : Any)
    (misbehaviour : Misbehaviour T) (c : ClientState) (s : ConsensusState T)
    (data : MisbehaviourData T) : Prop where
  reads : Reads E ctx clientId misbehaviour.trustedHeight c s
  accepts : c.AcceptsMisbehaviour E ctx.hostTimestamp clientId s misbehaviour
  newAnyClientState : (c.withFrozenHeight misbehaviour.trustedHeight).tryIntoAny E =
    .ok data.newAnyClientState
  message : ∃ stateId, genStateId E c s = .ok stateId ∧
    data.message = misbehaviourMessage c s misbehaviour.trustedHeight stateId anyMessage

/-- The same evidence is accepted at the same host time wherever the same trusted
state is read under the same configuration, with the same message. -/
theorem Punishes.replay (hTotal : ∀ raw, ∃ bytes, E.clientStateCodec.encode raw = .ok bytes)
    {ctx' : HostClientReader} {anyMessage : Any} {misbehaviour : Misbehaviour T} {c c' : ClientState}
    {s : ConsensusState T} {data : MisbehaviourData T}
    (h : Punishes E ctx clientId anyMessage misbehaviour c s data)
    (hReads : Reads E ctx' clientId misbehaviour.trustedHeight c' s) (hSame : c'.SameConfig c)
    (hNow : ctx'.hostTimestamp = ctx.hostTimestamp) :
    ∃ data', Punishes E ctx' clientId anyMessage misbehaviour c' s data' ∧
      data'.message = data.message := by
  obtain ⟨stateId, hId, hMessage⟩ := h.message
  obtain ⟨-, -, -, -, -, -, -, -, -, -, hPeriod, -⟩ := ClientState.sameConfig_iff.mp hSame
  have hAccepts := h.accepts
  rw [← hNow] at hAccepts
  rw [← hSame.genStateId_eq] at hId
  obtain ⟨bytes, hBytes⟩ := hTotal ((c'.withFrozenHeight misbehaviour.trustedHeight).intoRaw E)
  have hAny : (c'.withFrozenHeight misbehaviour.trustedHeight).tryIntoAny E =
      .ok ⟨ETHEREUM_CLIENT_STATE_TYPE_URL, bytes⟩ := ClientState.tryIntoAny_eq_ok.mpr ⟨rfl, hBytes⟩
  refine ⟨⟨_, data.message⟩, ⟨hReads, hAccepts.of_sameConfig hSame, hAny, stateId, hId, ?_⟩, rfl⟩
  rw [hMessage, misbehaviourMessage, misbehaviourMessage, hPeriod]

/-- The reference to a state that was read already. -/
theorem makePrevStates_singleton_eq_ok {c : ClientState} {s : ConsensusState T} {height : Height}
    (hReads : Reads E ctx clientId height c s) {prevStates : List (PrevState T)} :
    makePrevStates E ctx clientId c [height] = .ok prevStates ↔
      ∃ id, genStateId E c s = .ok id ∧ prevStates = [⟨height, id⟩] := by
  obtain ⟨any, hAny, hs⟩ := hReads.consensusState
  simp only [makePrevStates, List.mapM_cons, List.mapM_nil, Outcome.bind_eq_ok, Outcome.lift_eq_ok,
    Outcome.pure_eq_ok]
  constructor
  · rintro ⟨_, ⟨any', hAny', s', hs', id, hId, rfl⟩, _, rfl, rfl⟩
    rw [hAny, Except.ok.injEq] at hAny'
    subst hAny'
    rw [hs, Except.ok.injEq] at hs'
    subst hs'
    exact ⟨id, hId, rfl⟩
  · rintro ⟨id, hId, rfl⟩
    exact ⟨_, ⟨any, hAny, s, hs, id, hId, rfl⟩, [], rfl, rfl⟩

/-- What accepted evidence was, and what was computed for it. -/
theorem submitMisbehaviour_eq_ok {anyMessage : Any} {misbehaviour : Misbehaviour T}
    {data : MisbehaviourData T} :
    submitMisbehaviour E ctx clientId anyMessage misbehaviour = .ok data ↔
      ∃ c s, Punishes E ctx clientId anyMessage misbehaviour c s data := by
  rw [submitMisbehaviour, reads_bind_eq_ok]
  simp only [Outcome.bind_eq_ok, ClientState.checkMisbehaviourAndUpdateState_eq_ok,
    Outcome.pure_eq_ok]
  constructor
  · rintro ⟨c, s, hReads, _, ⟨hAccepts, rfl⟩, anyC, hAnyC, prevStates, hPrev, rfl⟩
    obtain ⟨id, hId, rfl⟩ := (makePrevStates_singleton_eq_ok hReads).mp hPrev
    exact ⟨c, s, hReads, hAccepts, hAnyC, ⟨id, hId, rfl⟩⟩
  · rintro ⟨c, s, hReads, hAccepts, hAnyC, ⟨id, hId, hMessage⟩⟩
    refine ⟨c, s, hReads, _, ⟨hAccepts, rfl⟩, _, hAnyC, _,
      (makePrevStates_singleton_eq_ok hReads).mpr ⟨id, hId, rfl⟩, ?_⟩
    cases data
    simp_all [misbehaviourMessage, Misbehaviour.trustedHeight]

/-- What an accepted client message was. -/
theorem updateClient_eq_ok {anyMessage : Any} {result : UpdateClientResult T} :
    updateClient E ctx clientId anyMessage = .ok result ↔
      (∃ header data, ClientMessage.tryFromAny E anyMessage = .ok (.header header) ∧
        updateState E ctx clientId header = .ok data ∧ result = .updateState data) ∨
      (∃ misbehaviour data,
        ClientMessage.tryFromAny E anyMessage = .ok (.misbehaviour misbehaviour) ∧
        submitMisbehaviour E ctx clientId anyMessage misbehaviour = .ok data ∧
        result = .misbehaviour data) := by
  rw [updateClient, Outcome.bind_eq_ok]
  constructor
  · rintro ⟨message, hMessage, hRest⟩
    cases message with
    | header header =>
        obtain ⟨data, hData, hResult⟩ := Outcome.bind_eq_ok.mp hRest
        exact .inl ⟨header, data, hMessage, hData, (Outcome.pure_eq_ok.mp hResult).symm⟩
    | misbehaviour misbehaviour =>
        obtain ⟨data, hData, hResult⟩ := Outcome.bind_eq_ok.mp hRest
        exact .inr ⟨misbehaviour, data, hMessage, hData, (Outcome.pure_eq_ok.mp hResult).symm⟩
  · rintro (⟨header, data, hMessage, hData, rfl⟩ | ⟨misbehaviour, data, hMessage, hData, rfl⟩)
    · exact ⟨_, hMessage, Outcome.bind_eq_ok.mpr ⟨data, hData, rfl⟩⟩
    · exact ⟨_, hMessage, Outcome.bind_eq_ok.mpr ⟨data, hData, rfl⟩⟩

/-- What an accepted proof was, and what was attested of it. -/
theorem verifyMembership_eq_ok {commitmentPrefix : Bytes} {path : String} {value : Bytes}
    {proofHeight : Height} {proof : Bytes} {result : VerifyMembershipResult T} :
    verifyMembership E ctx clientId commitmentPrefix path value proofHeight proof = .ok result ↔
      ∃ c s, Reads E ctx clientId proofHeight c s ∧ ∃ committed id,
        E.verifyMembership c s path value (toLcTypesHeight proofHeight) proof = .ok committed ∧
        genStateId E c s = .ok id ∧
        result = ⟨⟨commitmentPrefix, path, some committed, proofHeight, id⟩⟩ := by
  rw [verifyMembership, reads_bind_eq_ok]
  simp only [Outcome.bind_eq_ok, Outcome.lift_eq_ok, Outcome.pure_eq_ok]
  constructor
  · rintro ⟨c, s, hReads, committed, hCommitted, id, hId, rfl⟩
    exact ⟨c, s, hReads, committed, id, hCommitted, hId, rfl⟩
  · rintro ⟨c, s, hReads, committed, id, hCommitted, hId, rfl⟩
    exact ⟨c, s, hReads, committed, hCommitted, id, hId, rfl⟩

/-- What an accepted proof of absence was, and what was attested of it. -/
theorem verifyNonMembership_eq_ok {commitmentPrefix : Bytes} {path : String}
    {proofHeight : Height} {proof : Bytes} {result : VerifyNonMembershipResult T} :
    verifyNonMembership E ctx clientId commitmentPrefix path proofHeight proof = .ok result ↔
      ∃ c s, Reads E ctx clientId proofHeight c s ∧ ∃ id,
        E.verifyNonMembership c s path (toLcTypesHeight proofHeight) proof = .ok () ∧
        genStateId E c s = .ok id ∧
        result = ⟨⟨commitmentPrefix, path, none, proofHeight, id⟩⟩ := by
  rw [verifyNonMembership, reads_bind_eq_ok]
  simp only [Outcome.bind_eq_ok, Outcome.lift_eq_ok, Outcome.pure_eq_ok]
  constructor
  · rintro ⟨c, s, hReads, ⟨⟩, hEmpty, id, hId, rfl⟩
    exact ⟨c, s, hReads, id, hEmpty, hId, rfl⟩
  · rintro ⟨c, s, hReads, id, hEmpty, hId, rfl⟩
    exact ⟨c, s, hReads, (), hEmpty, id, hId, rfl⟩

/-- The gate of every operation on an existing client. The store is read before
the gate, so the error may also be the store's own. -/
theorem reads_bind_isError {β : Type} {height : Height} {any : Any} {c : ClientState}
    {k : ClientState → ConsensusState T → Result β} (hAny : ctx.clientState clientId = .ok any)
    (hc : ClientState.tryFromAny E any = .ok c) (hFrozen : c.isFrozen = true) :
    Outcome.IsError (do
      let anyClientState ← Outcome.lift Error.lightClient (ctx.clientState clientId)
      let anyConsensusState ← Outcome.lift Error.lightClient (ctx.consensusState clientId height)
      let clientState ← ClientState.tryFromAny E anyClientState
      Outcome.rejectIf (clientState.isFrozen = true) (Error.clientFrozen clientId)
      let consensusState ← ConsensusState.tryFromAny E anyConsensusState
      k clientState consensusState) := by
  rw [hAny, Outcome.lift_ok, Outcome.ok_bind]
  refine Outcome.IsError.bind (Outcome.returns_lift _ _) fun anyS _ => ?_
  rw [hc, Outcome.ok_bind, Outcome.rejectIf_of _ hFrozen]
  exact ⟨_, rfl⟩

section Frozen

variable {any : Any} {c : ClientState}

/-- A header for a frozen client is refused, whatever it holds. -/
theorem updateState_isError (hAny : ctx.clientState clientId = .ok any)
    (hc : ClientState.tryFromAny E any = .ok c) (hFrozen : c.isFrozen = true) (header : Header T) :
    (updateState E ctx clientId header).IsError :=
  reads_bind_isError hAny hc hFrozen

theorem submitMisbehaviour_isError (hAny : ctx.clientState clientId = .ok any)
    (hc : ClientState.tryFromAny E any = .ok c) (hFrozen : c.isFrozen = true) (anyMessage : Any)
    (misbehaviour : Misbehaviour T) :
    (submitMisbehaviour E ctx clientId anyMessage misbehaviour).IsError :=
  reads_bind_isError hAny hc hFrozen

/-- So is every message, also one that does not decode. -/
theorem updateClient_isError (hAny : ctx.clientState clientId = .ok any)
    (hc : ClientState.tryFromAny E any = .ok c) (hFrozen : c.isFrozen = true) (anyMessage : Any) :
    (updateClient E ctx clientId anyMessage).IsError := by
  refine Outcome.IsError.bind (ClientMessage.tryFromAny_returns anyMessage) fun message _ => ?_
  cases message with
  | header header =>
      have hError := updateState_isError hAny hc hFrozen header
      exact Outcome.IsError.bind hError.returns fun data hData => by
        obtain ⟨reason, hReason⟩ := hError
        rw [hReason] at hData
        cases hData
  | misbehaviour misbehaviour =>
      have hError := submitMisbehaviour_isError hAny hc hFrozen anyMessage misbehaviour
      exact Outcome.IsError.bind hError.returns fun data hData => by
        obtain ⟨reason, hReason⟩ := hError
        rw [hReason] at hData
        cases hData

/-- A frozen client attests nothing, not even what it attested before. -/
theorem verifyMembership_isError (hAny : ctx.clientState clientId = .ok any)
    (hc : ClientState.tryFromAny E any = .ok c) (hFrozen : c.isFrozen = true)
    (commitmentPrefix : Bytes) (path : String) (value : Bytes) (proofHeight : Height)
    (proof : Bytes) :
    (verifyMembership E ctx clientId commitmentPrefix path value proofHeight proof).IsError :=
  reads_bind_isError hAny hc hFrozen

theorem verifyNonMembership_isError (hAny : ctx.clientState clientId = .ok any)
    (hc : ClientState.tryFromAny E any = .ok c) (hFrozen : c.isFrozen = true)
    (commitmentPrefix : Bytes) (path : String) (proofHeight : Height) (proof : Bytes) :
    (verifyNonMembership E ctx clientId commitmentPrefix path proofHeight proof).IsError :=
  reads_bind_isError hAny hc hFrozen

end Frozen

end EthereumLightClient

end EthereumElc
