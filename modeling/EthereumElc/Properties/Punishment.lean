import EthereumElc.Model.Assumptions
import EthereumElc.Properties.Commutation

/-! A fork that a client would follow can be punished: the checks of a
misbehaviour ask for nothing that the checks of the two headers did not. -/
namespace EthereumElc

open EthereumLightClient

variable {T : ExternalTypes} {E : Externals T} {clientId : ClientId} {store : Store} {now : Time}

/-- Submitting the misbehaviour freezes the client, whatever message carries it. -/
def Punishable (E : Externals T) (store : Store) (now : Time) (clientId : ClientId)
    (misbehaviour : Misbehaviour T) : Prop :=
  ∀ anyMessage, ∃ data c,
    submitMisbehaviour E (store.reader now) clientId anyMessage misbehaviour = .ok data ∧
    ClientState.tryFromAny E data.newAnyClientState = .ok c ∧ c.isFrozen = true ∧
    (ClientMessage.tryFromAny E anyMessage = .ok (.misbehaviour misbehaviour) →
      updateClient E (store.reader now) clientId anyMessage = .ok (.misbehaviour data))

/-- The two headers as evidence against the state that both trust. -/
def forkMisbehaviour (clientId : ClientId) (header header' : Header T) : Misbehaviour T where
  clientId := clientId
  trustedSyncCommittee := header.trustedSyncCommittee
  data := .finalizedHeader ⟨header.consensusUpdate, header'.consensusUpdate⟩

/-- What remains after the checks does not fail: the frozen client can be encoded,
and is frozen when it is decoded again. -/
theorem punishable_of_accepts (hE : E.Lawful) {misbehaviour : Misbehaviour T} {c : ClientState}
    {s : ConsensusState T} {id : T.StateID}
    (hReads : Reads E (store.reader now) clientId misbehaviour.trustedHeight c s)
    (hAccepts : c.AcceptsMisbehaviour E now clientId s misbehaviour)
    (hId : genStateId E c s = .ok id) : Punishable E store now clientId misbehaviour := by
  intro anyMessage
  obtain ⟨any, hAny⟩ := ClientState.exists_tryIntoAny hE.clientState
    (c.withFrozenHeight misbehaviour.trustedHeight)
  obtain ⟨anyClient, -, hc⟩ := hReads.clientState
  have hEncodable := (ClientState.withFrozenHeight_sameConfig c
    misbehaviour.trustedHeight).encodable (ClientState.encodable_of_tryFromAny hE hc)
  let data : MisbehaviourData T :=
    ⟨any, misbehaviourMessage c s misbehaviour.trustedHeight id anyMessage⟩
  have hData : submitMisbehaviour E (store.reader now) clientId anyMessage misbehaviour = .ok data :=
    submitMisbehaviour_eq_ok.mpr ⟨c, s, hReads, hAccepts, hAny, id, hId, rfl⟩
  exact ⟨data, _, hData, hEncodable.tryFromAny_tryIntoAny hE.clientState hAny, rfl,
    fun hMessage => updateClient_eq_ok.mpr (.inr ⟨misbehaviour, data, hMessage, hData, rfl⟩)⟩

/-- Two headers that a state accepts and that fork at one slot are accepted as
evidence by that state. -/
theorem ClientState.AcceptsHeader.acceptsMisbehaviour
    {check : LightClientContext → T.TrustedConsensusState → ConsensusUpdateInfo T → Prop}
    (hForks : DetectsForks E.toVerifiers check) {c : ClientState} {s : ConsensusState T}
    {header header' : Header T} {time time' : Time} {keys keys' : NewSyncCommittees T}
    (h : c.AcceptsHeader E now s header time keys)
    (h' : c.AcceptsHeader E now s header' time' keys')
    (hCommittee : header.trustedSyncCommittee = header'.trustedSyncCommittee)
    (hSlot : header.finalizedSlot = header'.finalizedSlot)
    (hNe : header.consensusUpdate.finalizedBeaconHeader ≠
      header'.consensusUpdate.finalizedBeaconHeader) :
    c.AcceptsMisbehaviour E now clientId s (forkMisbehaviour clientId header header') := by
  obtain ⟨trusted, hTrusted, hUpdates⟩ := h.updates
  obtain ⟨trusted', hTrusted', hUpdates'⟩ := h'.updates
  rw [← hCommittee, hTrusted, Except.ok.injEq] at hTrusted'
  subst hTrusted'
  refine ⟨?_, rfl, ⟨trusted, hTrusted, ?_⟩, h.withinTrustingPeriod⟩
  · exact Outcome.lift_eq_ok.mpr (Header.validate_eq_ok.mp h.validate).1
  · exact hForks.evidence _ _ _ _ (hForks.updates _ _ _ _ hUpdates)
      (hForks.updates _ _ _ _ hUpdates') hSlot hNe

/-- A client can be frozen with any two headers of one slot that it would both
accept, before and after it has accepted the first of them. The verifier of evidence
is assumed to accept two updates that pass its own checks and contradict each other.
After the first header the trusted state must still be there, hence the two heights. -/
theorem fork_is_punishable (hE : E.Lawful)
    {check : LightClientContext → T.TrustedConsensusState → ConsensusUpdateInfo T → Prop}
    (hForks : DetectsForks E.toVerifiers check) {header header' : Header T}
    {data data' : UpdateStateData T}
    (hFirst : updateState E (store.reader now) clientId header = .ok data)
    (hSecond : updateState E (store.reader now) clientId header' = .ok data')
    (hCommittee : header.trustedSyncCommittee = header'.trustedSyncCommittee)
    (hSlot : header.finalizedSlot = header'.finalizedSlot)
    (hNe : header.consensusUpdate.finalizedBeaconHeader ≠
      header'.consensusUpdate.finalizedBeaconHeader) :
    Punishable E store now clientId (forkMisbehaviour clientId header header') ∧
      (header.height ≠ header.trustedHeight →
        Punishable E (store.applyUpdate clientId data) now clientId
          (forkMisbehaviour clientId header header')) := by
  obtain ⟨c, s, s', h⟩ := updateState_eq_ok.mp hFirst
  obtain ⟨c', u, u', h'⟩ := updateState_eq_ok.mp hSecond
  have hTrusted : header.trustedHeight = header'.trustedHeight := by
    rw [Header.trustedHeight, hCommittee]
    rfl
  obtain ⟨rfl, hStates⟩ := h.reads.unique h'.reads
  obtain rfl := hStates hTrusted
  obtain ⟨time, keys, hAccepts, -⟩ := h.accepts
  obtain ⟨time', keys', hAccepts', -⟩ := h'.accepts
  obtain ⟨id, -, hId, -, -⟩ := h.message
  have hEvidence :
      c.AcceptsMisbehaviour E now clientId s (forkMisbehaviour clientId header header') :=
    hAccepts.acceptsMisbehaviour hForks hAccepts' hCommittee hSlot hNe
  refine ⟨punishable_of_accepts hE h.reads hEvidence hId, fun hHeight => ?_⟩
  have hSame := ClientState.withLatestBlock_sameConfig c header.executionUpdate.blockNumber
  exact punishable_of_accepts hE (h.reads_after hE h.reads hHeight.symm)
    (hEvidence.of_sameConfig hSame) ((hSame.genStateId_eq s).trans hId)

section Relayed

open Reference

/-- Two proposers of block 2 are punishable before and after the first is followed. -/
theorem relayed_fork_is_punishable :
    Punishable externals (createdStore relayed 1 (consensusState 2)) relayTime relayed
      (misbehaviour relayed 1 4 0 1) ∧
    Punishable externals relayedStore relayTime relayed (misbehaviour relayed 1 4 0 1) := by
  have hReads := createdStore_reads relayTime relayed 1 (consensusState 2)
  have hFirst := updateState_eq_ok.mpr
    ⟨_, _, _, updates acceptable_four (clientState_sameConfig 1 1) 0 hReads⟩
  have hSecond := updateState_eq_ok.mpr
    ⟨_, _, _, updates acceptable_four (clientState_sameConfig 1 1) 1 hReads⟩
  obtain ⟨hBefore, hAfter⟩ := fork_is_punishable externals_lawful externals_detectsForks hFirst
    hSecond rfl rfl (by decide)
  exact ⟨hBefore, hAfter (by decide)⟩

end Relayed

end EthereumElc
