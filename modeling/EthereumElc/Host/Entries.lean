import EthereumElc.Host.Exec

/-! The entries of a store as the operations see them. An operation depends on
what its entries decode to, and on nothing else of their bytes. -/
namespace EthereumElc

variable {T : ExternalTypes} {E : Externals T} {clientId : ClientId} {store store' : Store}

/-- An operation reads the client that the stored bytes decode to. -/
theorem EthereumLightClient.Reads.client_eq {now : Time} {height : Height} {c d : ClientState}
    {s : ConsensusState T} {any : Any} (h : Reads E (store.reader now) clientId height d s)
    (hAny : store.clientState clientId = some any) (hc : ClientState.tryFromAny E any = .ok c) :
    d = c := by
  obtain ⟨any', hAny', hd⟩ := h.clientState
  rw [Store.reader_clientState_eq_ok, hAny, Option.some.injEq] at hAny'
  subst hAny'
  rw [hc, Except.ok.injEq] at hd
  exact hd.symm

/-- An update call with bytes that are known to be a header. -/
theorem exec_updated_of_header {now : Time} {anyMessage : Any} {header : Header T}
    {data : UpdateStateData T} (hMessage : ClientMessage.tryFromAny E anyMessage =
      .ok (.header header)) :
    exec E store ⟨now, .updateClient clientId anyMessage⟩ = (store', .updated data) ↔
      EthereumLightClient.updateState E (store.reader now) clientId header = .ok data ∧
        store' = store.applyUpdate clientId data := by
  simp only [exec_updated, hMessage, Except.ok.injEq, ClientMessage.header.injEq, exists_eq_left']

/-- An update call with bytes that are known to be evidence. -/
theorem exec_misbehaved_of_evidence {now : Time} {anyMessage : Any} {misbehaviour : Misbehaviour T}
    {data : MisbehaviourData T} (hMessage : ClientMessage.tryFromAny E anyMessage =
      .ok (.misbehaviour misbehaviour)) :
    exec E store ⟨now, .updateClient clientId anyMessage⟩ = (store', .misbehaved data) ↔
      EthereumLightClient.submitMisbehaviour E (store.reader now) clientId anyMessage misbehaviour =
          .ok data ∧ store' = store.applyMisbehaviour clientId data := by
  simp only [exec_misbehaved, hMessage, Except.ok.injEq, ClientMessage.misbehaviour.injEq,
    exists_eq_left']

/-- The entries of a client, decoded where they exist. -/
def Store.decodedClient (E : Externals T) (store : Store) (clientId : ClientId) :
    Option (Result ClientState) :=
  (store.clientState clientId).map (ClientState.tryFromAny E)

def Store.decodedConsensus (E : Externals T) (store : Store) (clientId : ClientId)
    (height : Height) : Option (Result (ConsensusState T)) :=
  (store.consensusState clientId height).map (ConsensusState.tryFromAny E)

/-- What the shared beginning of the operations makes of decoded entries. Both
are looked up before the first is decoded, and the gate is between the decoders. -/
def withEntries {β : Type} (clientId : ClientId) (client : Option (Result ClientState))
    (consensus : Option (Result (ConsensusState T)))
    (k : ClientState → ConsensusState T → Result β) : Result β :=
  match client, consensus with
  | none, _ => .error (.error (.lightClient ⟨"client state not found"⟩))
  | some _, none => .error (.error (.lightClient ⟨"consensus state not found"⟩))
  | some client, some consensus => do
      let clientState ← client
      Outcome.rejectIf (clientState.isFrozen = true) (.clientFrozen clientId)
      let consensusState ← consensus
      k clientState consensusState

/-- The beginning that the operations share is a function of the two decoded
entries. The host time and the rest of the store play no part in it. -/
theorem reads_bind_eq_withEntries {β : Type} (store : Store) (now : Time) (clientId : ClientId)
    (height : Height) (k : ClientState → ConsensusState T → Result β) :
    (do let anyClientState ← Outcome.lift Error.lightClient
          ((store.reader now).clientState clientId)
        let anyConsensusState ← Outcome.lift Error.lightClient
          ((store.reader now).consensusState clientId height)
        let clientState ← ClientState.tryFromAny E anyClientState
        Outcome.rejectIf (clientState.isFrozen = true) (Error.clientFrozen clientId)
        let consensusState ← ConsensusState.tryFromAny E anyConsensusState
        k clientState consensusState) =
      withEntries clientId (store.decodedClient E clientId)
        (store.decodedConsensus E clientId height) k := by
  simp only [Store.reader, Store.decodedClient, Store.decodedConsensus]
  cases store.clientState clientId with
  | none => rfl
  | some anyClient =>
      cases store.consensusState clientId height with
      | none => rfl
      | some anyConsensus => rfl

/-- Two stores hold entries of a client that decode alike. -/
structure DecodesAlike (E : Externals T) (clientId : ClientId) (store store' : Store) : Prop where
  client : store'.decodedClient E clientId = store.decodedClient E clientId
  consensus : ∀ height,
    store'.decodedConsensus E clientId height = store.decodedConsensus E clientId height

namespace DecodesAlike

variable (h : DecodesAlike E clientId store store')

include h

/-- The states that evidence refers to are read by decoding them. -/
theorem makePrevStates (now : Time) (c : ClientState) (heights : List Height) :
    EthereumLightClient.makePrevStates E (store'.reader now) clientId c heights =
      EthereumLightClient.makePrevStates E (store.reader now) clientId c heights := by
  unfold EthereumLightClient.makePrevStates
  congr 1
  funext height
  have hEntry := h.consensus height
  simp only [Store.decodedConsensus] at hEntry
  simp only [Store.reader]
  cases hStored : store.consensusState clientId height with
  | none =>
      rw [hStored, Option.map_none, Option.map_eq_none_iff] at hEntry
      rw [hEntry]
  | some any =>
      rw [hStored, Option.map_some, Option.map_eq_some_iff] at hEntry
      obtain ⟨any', hStored', hDecoded⟩ := hEntry
      rw [hStored']
      simp only [Outcome.lift_ok, Outcome.ok_bind, hDecoded]

/-- A header update sees both of its entries through their decoders only. -/
theorem updateState (now : Time) (header : Header T) :
    EthereumLightClient.updateState E (store'.reader now) clientId header =
      EthereumLightClient.updateState E (store.reader now) clientId header := by
  simp only [EthereumLightClient.updateState, reads_bind_eq_withEntries, h.client, h.consensus,
    Store.reader_hostTimestamp]

theorem submitMisbehaviour (now : Time) (anyMessage : Any) (misbehaviour : Misbehaviour T) :
    EthereumLightClient.submitMisbehaviour E (store'.reader now) clientId anyMessage misbehaviour =
      EthereumLightClient.submitMisbehaviour E (store.reader now) clientId anyMessage
        misbehaviour := by
  simp only [EthereumLightClient.submitMisbehaviour, reads_bind_eq_withEntries, h.client,
    h.consensus, h.makePrevStates, Store.reader_hostTimestamp]

/-- What a client message makes of the store is fixed by the decoded entries. -/
theorem updateClient (now : Time) (anyMessage : Any) :
    EthereumLightClient.updateClient E (store'.reader now) clientId anyMessage =
      EthereumLightClient.updateClient E (store.reader now) clientId anyMessage := by
  simp only [EthereumLightClient.updateClient, h.updateState, h.submitMisbehaviour]

theorem verifyMembership (now : Time) (commitmentPrefix : Bytes) (path : String) (value : Bytes)
    (proofHeight : Height) (proof : Bytes) :
    EthereumLightClient.verifyMembership E (store'.reader now) clientId commitmentPrefix path value
        proofHeight proof =
      EthereumLightClient.verifyMembership E (store.reader now) clientId commitmentPrefix path value
        proofHeight proof := by
  simp only [EthereumLightClient.verifyMembership, reads_bind_eq_withEntries, h.client,
    h.consensus]

theorem verifyNonMembership (now : Time) (commitmentPrefix : Bytes) (path : String)
    (proofHeight : Height) (proof : Bytes) :
    EthereumLightClient.verifyNonMembership E (store'.reader now) clientId commitmentPrefix path
        proofHeight proof =
      EthereumLightClient.verifyNonMembership E (store.reader now) clientId commitmentPrefix path
        proofHeight proof := by
  simp only [EthereumLightClient.verifyNonMembership, reads_bind_eq_withEntries, h.client,
    h.consensus]

theorem clientState_eq_none_iff :
    store.clientState clientId = none ↔ store'.clientState clientId = none := by
  have hClient := h.client
  simp only [Store.decodedClient] at hClient
  rw [← Option.map_eq_none_iff, ← hClient, Option.map_eq_none_iff]

end DecodesAlike

end EthereumElc
