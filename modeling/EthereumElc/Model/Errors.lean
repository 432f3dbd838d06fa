import EthereumElc.Model.Types

namespace EthereumElc

/-- An error of a crate outside the repository, seen through its debug text. -/
structure ExternalError where
  message : String
  deriving DecidableEq, Repr

/-- The errors that light client operations return. -/
inductive Error where
  -- Client state
  | clientFrozen (clientId : ClientId)
  | cannotInitializeFrozenClient
  | uninitializedClientStateField (field : String)
  | missingBellatrixFork
  | missingTrustingPeriod
  | negativeMaxClockDrift
  | unknownClientStateType (typeUrl : String)
  | unexpectedStoreAddress (reason : String)
  -- Consensus state
  | uninitializedConsensusStateField (field : String)
  | invalidRawConsensusState (reason : String)
  | invalidRawClientState (reason : String)
  | unknownConsensusStateType (typeUrl : String)
  -- Header and message
  | unknownMessageType (typeUrl : String)
  | unknownHeaderType (typeUrl : String)
  | zeroBlockNumber
  -- Misbehaviour
  | unknownMisbehaviourType (typeUrl : String)
  | unexpectedClientIdInMisbehaviour (expected actual : ClientId)
  -- Proto and serialization
  | protoMissingField (field : String)
  | protoDecode (e : ExternalError)
  | protoEncode (e : ExternalError)
  -- External crates
  | ethereumLightClientTypes (e : ExternalError)
  | ethereumConsensus (e : ExternalError)
  | verification (e : ExternalError)
  | commitment (e : ExternalError)
  | time (e : ExternalError)
  | type (e : ExternalError)
  | lightClient (e : ExternalError)
  deriving DecidableEq, Repr

/-- The error for a field of a raw message that is absent. -/
def Error.protoMissing (field : String) : Error := .protoMissingField field

/-- A result of the enclave: a value, an `Error`, or an abort of the enclave. -/
abbrev Result (α : Type) := Outcome Error α

end EthereumElc
