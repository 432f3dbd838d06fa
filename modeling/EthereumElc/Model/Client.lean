import EthereumElc.Model.State
import EthereumElc.Model.Update

/-! The light client that the enclave host calls. Every operation reads the host
store through a reader and returns the states for the host to write. -/
namespace EthereumElc

variable {T : ExternalTypes}

/-- The host store and clock as an operation sees them. -/
structure HostClientReader where
  clientState : ClientId → Except ExternalError Any
  consensusState : ClientId → Height → Except ExternalError Any
  hostTimestamp : Time

/-- A state that a message carries in full, because the receiver cannot have it. -/
structure EmittedState where
  height : Height
  state : Any
  deriving DecidableEq

/-- What the receiver of a message needs to repeat the two time checks at its own time. -/
structure TrustingPeriodContext where
  trustingPeriod : Duration
  clockDrift : Duration
  untrustedHeaderTimestamp : Time
  trustedStateTimestamp : Time
  deriving DecidableEq

inductive ValidationContext where
  | empty
  | trustingPeriod (context : TrustingPeriodContext)
  deriving DecidableEq

/-- What the enclave attests of an update: the ids of the states before and after
it, and when it may be believed. -/
structure UpdateStateProxyMessage (T : ExternalTypes) where
  prevHeight : Option Height
  prevStateId : Option T.StateID
  postHeight : Height
  postStateId : T.StateID
  emittedStates : List EmittedState
  timestamp : Time
  context : ValidationContext

/-- A reference to a stored state by its height and its id. -/
structure PrevState (T : ExternalTypes) where
  height : Height
  stateId : T.StateID

/-- What the enclave attests of evidence: the states it was checked against, and the
evidence itself. -/
structure MisbehaviourProxyMessage (T : ExternalTypes) where
  prevStates : List (PrevState T)
  context : ValidationContext
  clientMessage : Any

/-- What the enclave attests of a proof. A path without a value is attested to be empty. -/
structure VerifyMembershipProxyMessage (T : ExternalTypes) where
  commitmentPrefix : Bytes
  path : String
  value : Option H256
  height : Height
  stateId : T.StateID

/-- The states of a creation are those that the caller gave, so they are not returned. -/
structure CreateClientResult (T : ExternalTypes) where
  height : Height
  message : UpdateStateProxyMessage T
  prove : Bool

/-- What an update returns: two states for the host to write, and the message. -/
structure UpdateStateData (T : ExternalTypes) where
  newAnyClientState : Any
  newAnyConsensusState : Any
  height : Height
  message : UpdateStateProxyMessage T
  prove : Bool

/-- A misbehaviour returns a client state only. -/
structure MisbehaviourData (T : ExternalTypes) where
  newAnyClientState : Any
  message : MisbehaviourProxyMessage T

inductive UpdateClientResult (T : ExternalTypes) where
  | updateState (data : UpdateStateData T)
  | misbehaviour (data : MisbehaviourData T)

structure VerifyMembershipResult (T : ExternalTypes) where
  message : VerifyMembershipProxyMessage T

structure VerifyNonMembershipResult (T : ExternalTypes) where
  message : VerifyMembershipProxyMessage T

variable (E : Externals T) (ctx : HostClientReader)

namespace EthereumLightClient

/-- The height that the host reports of a client, frozen or not. -/
def latestHeight (clientId : ClientId) : Result Height := do
  let anyClientState ← Outcome.lift .lightClient (ctx.clientState clientId)
  let clientState ← ClientState.tryFromAny E anyClientState
  pure (toLcpHeight clientState.latestHeight)

/-- Create a client from two states. Nothing is verified: the states are decoded and
pass their initial checks, and the creator is trusted with what they say. -/
def createClient (anyClientState anyConsensusState : Any) : Result (CreateClientResult T) := do
  let clientState ← ClientState.tryFromAny E anyClientState
  clientState.validate E
  Outcome.rejectIf (clientState.isFrozen = true) .cannotInitializeFrozenClient
  let consensusState ← ConsensusState.tryFromAny E anyConsensusState
  consensusState.validate
  let height := toLcpHeight clientState.latestHeight
  let timestamp := consensusState.timestamp
  let stateId ← genStateId E clientState consensusState
  pure {
    height := height
    message := {
      prevHeight := none
      prevStateId := none
      postHeight := height
      postStateId := stateId
      emittedStates := [⟨height, anyClientState⟩]
      timestamp := timestamp
      context := .empty }
    prove := false }

/-- Update a client with a header: read the states, check the header against them,
and return the new states with the message that refers from the old id to the new
one. -/
def updateState (clientId : ClientId) (header : Header T) : Result (UpdateStateData T) := do
  let height : Height := ⟨ETHEREUM_CLIENT_REVISION_NUMBER, header.executionUpdate.blockNumber⟩
  let trustedHeight := toLcpHeight header.trustedSyncCommittee.height
  let anyClientState ← Outcome.lift .lightClient (ctx.clientState clientId)
  let anyConsensusState ← Outcome.lift .lightClient (ctx.consensusState clientId trustedHeight)
  let clientState ← ClientState.tryFromAny E anyClientState
  Outcome.rejectIf (clientState.isFrozen = true) (.clientFrozen clientId)
  let consensusState ← ConsensusState.tryFromAny E anyConsensusState
  let (newClientState, newConsensusState) ←
    clientState.checkHeaderAndUpdateState E ctx.hostTimestamp consensusState header
  let headerTimestamp := newConsensusState.timestamp
  let prevStateId ← genStateId E clientState consensusState
  let postStateId ← genStateId E newClientState newConsensusState
  let newAnyClientState ← newClientState.tryIntoAny E
  let newAnyConsensusState ← newConsensusState.tryIntoAny E
  pure {
    newAnyClientState := newAnyClientState
    newAnyConsensusState := newAnyConsensusState
    height := height
    message := {
      prevHeight := some trustedHeight
      prevStateId := some prevStateId
      postHeight := height
      postStateId := postStateId
      emittedStates := []
      timestamp := headerTimestamp
      context := .trustingPeriod {
        trustingPeriod := clientState.trustingPeriod
        clockDrift := clientState.maxClockDrift
        untrustedHeaderTimestamp := headerTimestamp
        trustedStateTimestamp := consensusState.timestamp } }
    prove := true }

/-- The ids of the stored states at some heights, all with the given client state. -/
def makePrevStates (clientId : ClientId) (clientState : ClientState) (heights : List Height) :
    Result (List (PrevState T)) :=
  heights.mapM fun height => do
    let anyConsensusState ← Outcome.lift .lightClient (ctx.consensusState clientId height)
    let consensusState ← ConsensusState.tryFromAny E anyConsensusState
    let stateId ← genStateId E clientState consensusState
    pure ⟨height, stateId⟩

/-- Freeze a client with evidence. The consensus states stay. -/
def submitMisbehaviour (clientId : ClientId) (anyMessage : Any) (misbehaviour : Misbehaviour T) :
    Result (MisbehaviourData T) := do
  let trustedHeight := toLcpHeight misbehaviour.trustedSyncCommittee.height
  let anyClientState ← Outcome.lift .lightClient (ctx.clientState clientId)
  let anyConsensusState ← Outcome.lift .lightClient (ctx.consensusState clientId trustedHeight)
  let clientState ← ClientState.tryFromAny E anyClientState
  Outcome.rejectIf (clientState.isFrozen = true) (.clientFrozen clientId)
  let consensusState ← ConsensusState.tryFromAny E anyConsensusState
  let newClientState ← clientState.checkMisbehaviourAndUpdateState E ctx.hostTimestamp clientId
    consensusState misbehaviour
  let newAnyClientState ← newClientState.tryIntoAny E
  let prevStates ← makePrevStates E ctx clientId clientState [trustedHeight]
  pure {
    newAnyClientState := newAnyClientState
    message := {
      prevStates := prevStates
      -- The header's timestamp may point to the future here.
      context := .trustingPeriod {
        trustingPeriod := clientState.trustingPeriod
        clockDrift := Duration.ZERO
        untrustedHeaderTimestamp := Time.unixEpoch
        trustedStateTimestamp := consensusState.timestamp }
      clientMessage := anyMessage } }

/-- The entry for both kinds of messages. -/
def updateClient (clientId : ClientId) (anyMessage : Any) : Result (UpdateClientResult T) := do
  let message ← ClientMessage.tryFromAny E anyMessage
  match message with
  | .header header => do
      let data ← updateState E ctx clientId header
      pure (.updateState data)
  | .misbehaviour misbehaviour => do
      let data ← submitMisbehaviour E ctx clientId anyMessage misbehaviour
      pure (.misbehaviour data)

/-- Attest a value at a path of the storage trie under a stored state. -/
def verifyMembership (clientId : ClientId) (commitmentPrefix : Bytes) (path : String)
    (value : Bytes) (proofHeight : Height) (proof : Bytes) : Result (VerifyMembershipResult T) := do
  let anyClientState ← Outcome.lift .lightClient (ctx.clientState clientId)
  let anyConsensusState ← Outcome.lift .lightClient (ctx.consensusState clientId proofHeight)
  let clientState ← ClientState.tryFromAny E anyClientState
  Outcome.rejectIf (clientState.isFrozen = true) (.clientFrozen clientId)
  let consensusState ← ConsensusState.tryFromAny E anyConsensusState
  let value ← Outcome.lift .ethereumLightClientTypes (E.verifyMembership clientState consensusState
    path value (toLcTypesHeight proofHeight) proof)
  let stateId ← genStateId E clientState consensusState
  pure ⟨⟨commitmentPrefix, path, some value, proofHeight, stateId⟩⟩

/-- Attest that a path of the storage trie is empty under a stored state. -/
def verifyNonMembership (clientId : ClientId) (commitmentPrefix : Bytes) (path : String)
    (proofHeight : Height) (proof : Bytes) : Result (VerifyNonMembershipResult T) := do
  let anyClientState ← Outcome.lift .lightClient (ctx.clientState clientId)
  let anyConsensusState ← Outcome.lift .lightClient (ctx.consensusState clientId proofHeight)
  let clientState ← ClientState.tryFromAny E anyClientState
  Outcome.rejectIf (clientState.isFrozen = true) (.clientFrozen clientId)
  let consensusState ← ConsensusState.tryFromAny E anyConsensusState
  Outcome.lift .ethereumLightClientTypes (E.verifyNonMembership clientState consensusState path
    (toLcTypesHeight proofHeight) proof)
  let stateId ← genStateId E clientState consensusState
  pure ⟨⟨commitmentPrefix, path, none, proofHeight, stateId⟩⟩

end EthereumLightClient

end EthereumElc
