import EthereumElc.General.Transition
import EthereumElc.Model.Operations

/-! The enclave host around the light client: it keeps the typed bytes of every
client, hands them to the operations, and writes what the operations return. -/
namespace EthereumElc

variable {T : ExternalTypes}

/-- The bytes that the host keeps for each client: its state, and one state for each
height. -/
structure Store where
  clientState : ClientId → Option Any
  consensusState : ClientId → Height → Option Any

namespace Store

def empty : Store := ⟨fun _ => none, fun _ _ => none⟩

/-- A missing entry is an error of the host. -/
def reader (store : Store) (now : Time) : HostClientReader where
  clientState clientId :=
    match store.clientState clientId with
    | some any => .ok any
    | none => .error ⟨"client state not found"⟩
  consensusState clientId height :=
    match store.consensusState clientId height with
    | some any => .ok any
    | none => .error ⟨"consensus state not found"⟩
  hostTimestamp := now

def putClientState (store : Store) (clientId : ClientId) (any : Any) : Store :=
  { store with clientState := Function.update store.clientState clientId (some any) }

def putConsensusState (store : Store) (clientId : ClientId) (height : Height) (any : Any) :
    Store where
  clientState := store.clientState
  consensusState := Function.update store.consensusState clientId
    (Function.update (store.consensusState clientId) height (some any))

/-- What the host writes after a header update. -/
def applyUpdate (store : Store) (clientId : ClientId) (data : UpdateStateData T) : Store :=
  (store.putClientState clientId data.newAnyClientState).putConsensusState clientId data.height
    data.newAnyConsensusState

/-- What the host writes after a misbehaviour: no consensus state. -/
def applyMisbehaviour (store : Store) (clientId : ClientId) (data : MisbehaviourData T) : Store :=
  store.putClientState clientId data.newAnyClientState

@[simp] theorem reader_clientState_eq_ok {store : Store} {now : Time} {clientId : ClientId}
    {any : Any} :
    (store.reader now).clientState clientId = .ok any ↔ store.clientState clientId = some any := by
  cases h : store.clientState clientId <;> simp [reader, h]

@[simp] theorem reader_consensusState_eq_ok {store : Store} {now : Time} {clientId : ClientId}
    {height : Height} {any : Any} : (store.reader now).consensusState clientId height = .ok any ↔
      store.consensusState clientId height = some any := by
  cases h : store.consensusState clientId height <;> simp [reader, h]

@[simp] theorem reader_hostTimestamp (store : Store) (now : Time) :
    (store.reader now).hostTimestamp = now := rfl

variable (store : Store) (clientId : ClientId)

@[simp] theorem applyUpdate_clientState (data : UpdateStateData T) :
    (store.applyUpdate clientId data).clientState =
      Function.update store.clientState clientId (some data.newAnyClientState) := rfl

@[simp] theorem applyUpdate_consensusState (data : UpdateStateData T) :
    (store.applyUpdate clientId data).consensusState =
      Function.update store.consensusState clientId (Function.update
        (store.consensusState clientId) data.height (some data.newAnyConsensusState)) := rfl

@[simp] theorem applyMisbehaviour_clientState (data : MisbehaviourData T) :
    (store.applyMisbehaviour clientId data).clientState =
      Function.update store.clientState clientId (some data.newAnyClientState) := rfl

@[simp] theorem applyMisbehaviour_consensusState (data : MisbehaviourData T) :
    (store.applyMisbehaviour clientId data).consensusState = store.consensusState := rfl

end Store

/-- What a host can ask of the light client, and the creation that it asks of itself. -/
inductive Call where
  | createClient (clientId : ClientId) (anyClientState anyConsensusState : Any)
  | updateClient (clientId : ClientId) (anyMessage : Any)
  | verifyMembership (clientId : ClientId) (commitmentPrefix : Bytes) (path : String)
      (value : Bytes) (proofHeight : Height) (proof : Bytes)
  | verifyNonMembership (clientId : ClientId) (commitmentPrefix : Bytes) (path : String)
      (proofHeight : Height) (proof : Bytes)

/-- A call with the host time at which it is executed. Times of different
requests are unrelated. -/
structure Request where
  now : Time
  call : Call

/-- What a call is answered with. A failure keeps its reason, an abort among the failures. -/
inductive Response (T : ExternalTypes) where
  | created (result : CreateClientResult T)
  | updated (data : UpdateStateData T)
  | misbehaved (data : MisbehaviourData T)
  | membership (result : VerifyMembershipResult T)
  | nonMembership (result : VerifyNonMembershipResult T)
  | failed (failure : Failure Error)
  | clientIdInUse

/-- What the chain sees of an accepted request. The bytes of the states that are
to be written stay with the host. -/
inductive Attestation (T : ExternalTypes) where
  | created (result : CreateClientResult T)
  | updated (message : UpdateStateProxyMessage T) (height : Height)
  | misbehaved (message : MisbehaviourProxyMessage T)
  | membership (result : VerifyMembershipResult T)
  | nonMembership (result : VerifyNonMembershipResult T)

/-- What reaches the chain. A failure posts nothing. -/
def Response.attestation : Response T → Option (Attestation T)
  | .created result => some (.created result)
  | .updated data => some (.updated data.message data.height)
  | .misbehaved data => some (.misbehaved data.message)
  | .membership result => some (.membership result)
  | .nonMembership result => some (.nonMembership result)
  | .failed _ => none
  | .clientIdInUse => none

variable (E : Externals T)

open EthereumLightClient in
/-- The host writes exactly the states of a successful answer: both states of a
creation and of a header update, only the client state of a misbehaviour. -/
def exec (store : Store) (request : Request) : Store × Response T :=
  let ctx := store.reader request.now
  match request.call with
  | .createClient clientId anyClientState anyConsensusState =>
      if store.clientState clientId = none then
        match createClient E anyClientState anyConsensusState with
        | .ok result =>
            ((store.putClientState clientId anyClientState).putConsensusState clientId
              result.height anyConsensusState, .created result)
        | .error failure => (store, .failed failure)
      else (store, .clientIdInUse)
  | .updateClient clientId anyMessage =>
      match updateClient E ctx clientId anyMessage with
      | .ok (.updateState data) =>
          (store.applyUpdate clientId data, .updated data)
      | .ok (.misbehaviour data) =>
          (store.applyMisbehaviour clientId data, .misbehaved data)
      | .error failure => (store, .failed failure)
  | .verifyMembership clientId commitmentPrefix path value proofHeight proof =>
      match verifyMembership E ctx clientId commitmentPrefix path value proofHeight proof with
      | .ok result => (store, .membership result)
      | .error failure => (store, .failed failure)
  | .verifyNonMembership clientId commitmentPrefix path proofHeight proof =>
      match verifyNonMembership E ctx clientId commitmentPrefix path proofHeight proof with
      | .ok result => (store, .nonMembership result)
      | .error failure => (store, .failed failure)

/-- The host as a machine that starts without clients. -/
def machine : Transition.Machine Store Request (Response T) where
  initial := Store.empty
  step := exec E

abbrev Event (T : ExternalTypes) := Request × Response T

/-- The client whose entries in the store an answered request has written. -/
def Event.writes : Event T → Option ClientId
  | (⟨_, .createClient clientId _ _⟩, .created _) => some clientId
  | (⟨_, .updateClient clientId _⟩, .updated _) => some clientId
  | (⟨_, .updateClient clientId _⟩, .misbehaved _) => some clientId
  | _ => none

/-- Everything that one request can do to one client, with what it took. -/
inductive ClientStep (E : Externals T) (clientId : ClientId) (store : Store) :
    Request → Response T → Store → Prop where
  | created {now : Time} {anyClientState anyConsensusState : Any} {c : ClientState}
      {s : ConsensusState T} {id : T.StateID} {store' : Store}
      (fresh : store.clientState clientId = none)
      (creates : EthereumLightClient.Creates E anyClientState anyConsensusState c s id)
      (clientState : store'.clientState clientId = some anyClientState)
      (consensusState : store'.consensusState clientId = Function.update
        (store.consensusState clientId) (toLcpHeight c.latestHeight) (some anyConsensusState)) :
      ClientStep E clientId store
        ⟨now, .createClient clientId anyClientState anyConsensusState⟩
        (.created (EthereumLightClient.creationResult anyClientState c s id)) store'
  | updated {now : Time} {anyMessage : Any} {header : Header T} {c : ClientState}
      {s s' : ConsensusState T} {data : UpdateStateData T} {store' : Store}
      (message : ClientMessage.tryFromAny E anyMessage = .ok (.header header))
      (updates : EthereumLightClient.Updates E (store.reader now) clientId header c s s' data)
      (clientState : store'.clientState clientId = some data.newAnyClientState)
      (consensusState : store'.consensusState clientId = Function.update
        (store.consensusState clientId) header.height (some data.newAnyConsensusState)) :
      ClientStep E clientId store ⟨now, .updateClient clientId anyMessage⟩ (.updated data) store'
  | misbehaved {now : Time} {anyMessage : Any} {misbehaviour : Misbehaviour T} {c : ClientState}
      {s : ConsensusState T} {data : MisbehaviourData T} {store' : Store}
      (message : ClientMessage.tryFromAny E anyMessage = .ok (.misbehaviour misbehaviour))
      (punishes : EthereumLightClient.Punishes E (store.reader now) clientId anyMessage
        misbehaviour c s data)
      (clientState : store'.clientState clientId = some data.newAnyClientState)
      (consensusState : store'.consensusState clientId = store.consensusState clientId) :
      ClientStep E clientId store ⟨now, .updateClient clientId anyMessage⟩ (.misbehaved data)
        store'
  | idle {request : Request} {response : Response T} {store' : Store}
      (quiet : Event.writes (request, response) ≠ some clientId)
      (clientState : store'.clientState clientId = store.clientState clientId)
      (consensusState : store'.consensusState clientId = store.consensusState clientId) :
      ClientStep E clientId store request response store'

variable {E}

open EthereumLightClient

/-- A request that is executed after a trace extends it. -/
theorem steps_exec {store₀ store store' : Store} {trace : Transition.Trace Request (Response T)}
    {request : Request} {response : Response T}
    (hSteps : Transition.Steps (machine E) store₀ trace store)
    (h : exec E store request = (store', response)) :
    Transition.Steps (machine E) store₀ ((request, response) :: trace) store' :=
  hSteps.succ h

/-- A request that writes another client is idle for this one. -/
theorem ClientStep.of_writes {clientId other : ClientId} {store store' : Store} {request : Request}
    {response : Response T} (hWrites : Event.writes (request, response) = some other)
    (hNe : clientId ≠ other)
    (hClient : store'.clientState clientId = store.clientState clientId)
    (hConsensus : store'.consensusState clientId = store.consensusState clientId) :
    ClientStep E clientId store request response store' := by
  refine .idle ?_ hClient hConsensus
  rw [hWrites]
  exact fun h => hNe (Option.some.inj h).symm

section Update

variable {clientId : ClientId} {store store' : Store} {now : Time} {anyMessage : Any}

/-- An update call writes for a header, writes for a misbehaviour, or fails. -/
theorem exec_updateClient_cases {response : Response T}
    (h : exec E store ⟨now, .updateClient clientId anyMessage⟩ = (store', response)) :
    (∃ header data, ClientMessage.tryFromAny E anyMessage = .ok (.header header) ∧
      updateState E (store.reader now) clientId header = .ok data ∧
      store' = store.applyUpdate clientId data ∧ response = .updated data) ∨
    (∃ misbehaviour data, ClientMessage.tryFromAny E anyMessage = .ok (.misbehaviour misbehaviour) ∧
      submitMisbehaviour E (store.reader now) clientId anyMessage misbehaviour = .ok data ∧
      store' = store.applyMisbehaviour clientId data ∧ response = .misbehaved data) ∨
    (∃ failure, store' = store ∧ response = .failed failure) := by
  simp only [exec] at h
  split at h
  · rename_i data hResult
    cases h
    rcases updateClient_eq_ok.mp hResult with
      ⟨header, _, hMessage, hData, hCase⟩ | ⟨_, _, -, -, hCase⟩
    · cases hCase
      exact .inl ⟨header, data, hMessage, hData, rfl, rfl⟩
    · cases hCase
  · rename_i data hResult
    cases h
    rcases updateClient_eq_ok.mp hResult with ⟨_, _, -, -, hCase⟩ | ⟨m, _, hMessage, hData, hCase⟩
    · cases hCase
    · cases hCase
      exact .inr (.inl ⟨m, data, hMessage, hData, rfl, rfl⟩)
  · cases h
    exact .inr (.inr ⟨_, rfl, rfl⟩)

/-- A header update is answered exactly when the message is a header that the light
client accepts, and then the host writes both states. -/
theorem exec_updated {data : UpdateStateData T} :
    exec E store ⟨now, .updateClient clientId anyMessage⟩ = (store', .updated data) ↔
      ∃ header, ClientMessage.tryFromAny E anyMessage = .ok (.header header) ∧
        updateState E (store.reader now) clientId header = .ok data ∧
        store' = store.applyUpdate clientId data := by
  constructor
  · intro h
    rcases exec_updateClient_cases h with
      ⟨header, _, hMessage, hData, hStore, hCase⟩ | ⟨_, _, -, -, -, hCase⟩ | ⟨_, -, hCase⟩
    · cases hCase
      exact ⟨header, hMessage, hData, hStore⟩
    · cases hCase
    · cases hCase
  · rintro ⟨header, hMessage, hData, rfl⟩
    have hResult := updateClient_eq_ok.mpr (.inl ⟨header, data, hMessage, hData, rfl⟩)
    simp only [exec, hResult]

/-- Evidence is answered exactly when the light client accepts it, and then the host
writes only the client state. -/
theorem exec_misbehaved {data : MisbehaviourData T} :
    exec E store ⟨now, .updateClient clientId anyMessage⟩ = (store', .misbehaved data) ↔
      ∃ misbehaviour, ClientMessage.tryFromAny E anyMessage = .ok (.misbehaviour misbehaviour) ∧
        submitMisbehaviour E (store.reader now) clientId anyMessage misbehaviour = .ok data ∧
        store' = store.applyMisbehaviour clientId data := by
  constructor
  · intro h
    rcases exec_updateClient_cases h with
      ⟨_, _, -, -, -, hCase⟩ | ⟨misbehaviour, _, hMessage, hData, hStore, hCase⟩ | ⟨_, -, hCase⟩
    · cases hCase
    · cases hCase
      exact ⟨misbehaviour, hMessage, hData, hStore⟩
    · cases hCase
  · rintro ⟨misbehaviour, hMessage, hData, rfl⟩
    have hResult := updateClient_eq_ok.mpr (.inr ⟨misbehaviour, data, hMessage, hData, rfl⟩)
    simp only [exec, hResult]

end Update

/-- The effect of a request on a client, derived once from the text of `exec`. -/
theorem exec_clientStep {store store' : Store} {request : Request} {response : Response T}
    (h : exec E store request = (store', response)) (clientId : ClientId) :
    ClientStep E clientId store request response store' := by
  obtain ⟨now, call⟩ := request
  cases call with
  | createClient other anyClientState anyConsensusState =>
      simp only [exec] at h
      split_ifs at h with hFresh
      · split at h
        · rename_i result hResult
          cases h
          by_cases hEq : clientId = other
          · subst hEq
            obtain ⟨c, s, id, hCreates, rfl⟩ := createClient_eq_ok.mp hResult
            exact .created hFresh hCreates
              (by simp [Store.putClientState, Store.putConsensusState])
              (by simp [Store.putClientState, Store.putConsensusState, creationResult])
          · exact .of_writes rfl hEq
              (by simp [Store.putClientState, Store.putConsensusState, hEq])
              (by simp [Store.putClientState, Store.putConsensusState, hEq])
        · cases h
          exact .idle (by simp [Event.writes]) rfl rfl
      · cases h
        exact .idle (by simp [Event.writes]) rfl rfl
  | updateClient other anyMessage =>
      rcases exec_updateClient_cases h with ⟨header, data, hMessage, hData, rfl, rfl⟩ |
        ⟨misbehaviour, data, hMessage, hData, rfl, rfl⟩ | ⟨failure, rfl, rfl⟩
      · by_cases hEq : clientId = other
        · subst hEq
          obtain ⟨c, s, s', hUpdates⟩ := updateState_eq_ok.mp hData
          exact .updated hMessage hUpdates (by simp) (by simp [hUpdates.height])
        · exact .of_writes rfl hEq (by simp [hEq]) (by simp [hEq])
      · by_cases hEq : clientId = other
        · subst hEq
          obtain ⟨c, s, hPunishes⟩ := submitMisbehaviour_eq_ok.mp hData
          exact .misbehaved hMessage hPunishes (by simp) (by simp)
        · exact .of_writes rfl hEq (by simp [hEq]) (by simp)
      · exact .idle (by simp [Event.writes]) rfl rfl
  | verifyMembership =>
      simp only [exec] at h
      split at h <;> cases h <;> exact .idle (by simp [Event.writes]) rfl rfl
  | verifyNonMembership =>
      simp only [exec] at h
      split at h <;> cases h <;> exact .idle (by simp [Event.writes]) rfl rfl

end EthereumElc
