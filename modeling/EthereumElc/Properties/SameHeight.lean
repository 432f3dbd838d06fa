import EthereumElc.Properties.Chain

/-! Two states at one height. Heights are block numbers and updates are ordered
by slots, so a later slot that refers to the same execution block replaces the
state of its height by one that differs in the slot, and in nothing that the
chain gives to the block. -/
namespace EthereumElc

open EthereumLightClient ClientTracker

variable {T : ExternalTypes} {E : Externals T} {clientId : ClientId}
  {trace : Transition.Trace Request (Response T)} {store store' : Store} {t : ClientTracker T}

/-- The finalized slot of an accepted header refers to the block of the header. -/
theorem ClientState.AcceptsHeader.executionBlock {B : ExecutionBlocks} {c : ClientState}
    (hBlocks : FollowsBlocks E.toVerifiers c B) {now : Time} {s : ConsensusState T}
    {header : Header T} {time : Time} {keys : NewSyncCommittees T}
    (h : c.AcceptsHeader E now s header time keys) :
    B.executionBlock header.finalizedSlot = header.executionUpdate.blockNumber := by
  obtain ⟨trusted, -, hUpdates⟩ := h.updates
  exact (hBlocks.executionBlock _ _ _ _ hUpdates).symm

section Relayed

open Reference

end Relayed

end EthereumElc
