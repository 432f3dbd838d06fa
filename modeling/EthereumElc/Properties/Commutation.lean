import EthereumElc.Reference.Relayer

/-! Updates of relayers that do not touch each other's heights commute, and one
update leaves the others as acceptable as they were. -/
namespace EthereumElc

open EthereumLightClient

variable {T : ExternalTypes} {E : Externals T} {clientId other : ClientId} {store : Store}
  {now : Time}

/-- After an update, the states at every other height of the client are read as
before, with the client state of the update. -/
theorem EthereumLightClient.Updates.reads_after (hE : E.Lawful) {header : Header T} {c : ClientState}
    {s s' : ConsensusState T} {data : UpdateStateData T}
    (h : Updates E (store.reader now) clientId header c s s' data) {now' : Time} {height : Height}
    {u : ConsensusState T} (hReads : Reads E (store.reader now') clientId height c u)
    (hNe : height ≠ header.height) :
    Reads E ((store.applyUpdate clientId data).reader now') clientId height
      (c.withLatestBlock header.executionUpdate.blockNumber) u := by
  obtain ⟨⟨anyClient, -, hc⟩, hFrozen, ⟨anyState, hAnyState, hu⟩⟩ := hReads
  have hEncodable := (ClientState.withLatestBlock_sameConfig c
    header.executionUpdate.blockNumber).encodable (ClientState.encodable_of_tryFromAny hE hc)
  have hDecoded := hEncodable.tryFromAny_tryIntoAny hE.clientState h.newAnyClientState
  refine ⟨⟨data.newAnyClientState, ?_, hDecoded⟩, ?_, ⟨anyState, ?_, hu⟩⟩
  · simp
  · rw [ClientState.withLatestBlock_isFrozen]
    exact hFrozen
  · rw [Store.reader_consensusState_eq_ok] at hAnyState ⊢
    rw [Store.applyUpdate_consensusState, Function.update_self, h.height,
      Function.update_of_ne hNe, hAnyState]

/-- An update of one client leaves what is read of another. -/
theorem reads_of_other (hNe : other ≠ clientId) {data : UpdateStateData T} {height : Height}
    {c : ClientState} {s : ConsensusState T} (h : Reads E (store.reader now) other height c s) :
    Reads E ((store.applyUpdate clientId data).reader now) other height c s := by
  obtain ⟨⟨anyClient, hAnyClient, hc⟩, hFrozen, ⟨anyState, hAnyState, hs⟩⟩ := h
  refine ⟨⟨anyClient, ?_, hc⟩, hFrozen, ⟨anyState, ?_, hs⟩⟩
  · rw [Store.reader_clientState_eq_ok] at hAnyClient ⊢
    rw [Store.applyUpdate_clientState, Function.update_of_ne hNe, hAnyClient]
  · rw [Store.reader_consensusState_eq_ok] at hAnyState ⊢
    rw [Store.applyUpdate_consensusState, Function.update_of_ne hNe, hAnyState]

/-- Updates of two clients write different entries. -/
theorem Store.applyUpdate_comm_of_ne (hNe : clientId ≠ other) (data data' : UpdateStateData T) :
    (store.applyUpdate clientId data).applyUpdate other data' =
      (store.applyUpdate other data').applyUpdate clientId data := by
  simp only [Store.applyUpdate, Store.putClientState, Store.putConsensusState,
    Store.mk.injEq, Function.update_of_ne hNe, Function.update_of_ne hNe.symm]
  exact ⟨Function.update_comm hNe _ _ _, Function.update_comm hNe _ _ _⟩

/-- Two updates of one client at different heights write the same store in both
orders when the later one writes the same client state. -/
theorem Store.applyUpdate_comm {first first' second second' : UpdateStateData T}
    (hNe : first.height ≠ second.height) (hFirst : first'.height = first.height)
    (hSecond : second'.height = second.height)
    (hClient : first'.newAnyClientState = second'.newAnyClientState)
    (hFirstState : first'.newAnyConsensusState = first.newAnyConsensusState)
    (hSecondState : second'.newAnyConsensusState = second.newAnyConsensusState) :
    (store.applyUpdate clientId first).applyUpdate clientId second' =
      (store.applyUpdate clientId second).applyUpdate clientId first' := by
  simp only [Store.applyUpdate, Store.putClientState, Store.putConsensusState, Store.mk.injEq,
    Function.update_self, Function.update_idem, hClient, hFirst, hSecond, hFirstState,
    hSecondState, true_and]
  rw [Function.update_comm hNe.symm]

/-- The latest block number is merged by maximum, so the order of merges is lost. -/
theorem ClientState.withLatestBlock_comm (c : ClientState) (n k : U64) :
    (c.withLatestBlock n).withLatestBlock k = (c.withLatestBlock k).withLatestBlock n := by
  simp only [ClientState.withLatestBlock_eq, max_right_comm]

section Replayed

variable {message message' : Any} {header header' : Header T} {c d : ClientState}
  {s s' u u' : ConsensusState T} {data data' : UpdateStateData T}

/-- The second of two independent updates, replayed after the first at its own time. -/
theorem EthereumLightClient.Updates.after_update (hE : E.Lawful) {now' : Time}
    (h : Updates E (store.reader now) clientId header c s s' data)
    (h' : Updates E (store.reader now') clientId header' c u u' data')
    (hNe : header'.trustedHeight ≠ header.height) :
    ∃ replayed, Updates E ((store.applyUpdate clientId data).reader now') clientId header'
        (c.withLatestBlock header.executionUpdate.blockNumber) u u' replayed ∧
      replayed.message = data'.message ∧ replayed.height = data'.height ∧
      replayed.newAnyConsensusState = data'.newAnyConsensusState :=
  h'.replay hE.clientState.encode_total (h.reads_after hE h'.reads hNe)
    (ClientState.withLatestBlock_sameConfig c _) rfl

/-- Updates of two clients answer alike in both orders. -/
theorem exec_commute_of_ne (hNe : clientId ≠ other)
    (hMessage : ClientMessage.tryFromAny E message = .ok (.header header))
    (hMessage' : ClientMessage.tryFromAny E message' = .ok (.header header'))
    (h : Updates E (store.reader now) clientId header c s s' data)
    (h' : Updates E (store.reader now) other header' d u u' data') :
    ∃ last, exec E (store.applyUpdate clientId data) ⟨now, .updateClient other message'⟩ =
        (last, .updated data') ∧
      exec E (store.applyUpdate other data') ⟨now, .updateClient clientId message⟩ =
        (last, .updated data) := by
  have hReplayed : Updates E ((store.applyUpdate other data').reader now) clientId header c s s'
      data := { h with reads := reads_of_other hNe h.reads }
  have hReplayed' : Updates E ((store.applyUpdate clientId data).reader now) other header' d u u'
      data' := { h' with reads := reads_of_other hNe.symm h'.reads }
  have hData := updateState_eq_ok.mpr ⟨c, s, s', hReplayed⟩
  have hData' := updateState_eq_ok.mpr ⟨d, u, u', hReplayed'⟩
  exact ⟨_, exec_updated.mpr ⟨header', hMessage', hData', rfl⟩,
    exec_updated.mpr ⟨header, hMessage, hData, Store.applyUpdate_comm_of_ne hNe data data'⟩⟩

/-- Updates of one client at different heights, neither of which the other
trusts, attest alike in both orders. -/
theorem exec_commute_of_height_ne (hE : E.Lawful) {now' : Time}
    (hMessage : ClientMessage.tryFromAny E message = .ok (.header header))
    (hMessage' : ClientMessage.tryFromAny E message' = .ok (.header header'))
    (h : Updates E (store.reader now) clientId header c s s' data)
    (h' : Updates E (store.reader now') clientId header' c u u' data')
    (hHeights : header.height ≠ header'.height) (hTrusted : header.trustedHeight ≠ header'.height)
    (hTrusted' : header'.trustedHeight ≠ header.height) :
    ∃ last replayed replayed',
      exec E (store.applyUpdate clientId data) ⟨now', .updateClient clientId message'⟩ =
        (last, .updated replayed') ∧
      exec E (store.applyUpdate clientId data') ⟨now, .updateClient clientId message⟩ =
        (last, .updated replayed) ∧
      replayed.message = data.message ∧ replayed.height = data.height ∧
      replayed'.message = data'.message ∧ replayed'.height = data'.height := by
  obtain ⟨replayed', hReplayed', hMessage₂, hHeight₂, hState₂⟩ := h.after_update hE h' hTrusted'
  obtain ⟨replayed, hReplayed, hMessage₁, hHeight₁, hState₁⟩ := h'.after_update hE h hTrusted
  have hClient : replayed.newAnyClientState = replayed'.newAnyClientState := by
    have hLast := hReplayed.newAnyClientState
    rw [ClientState.withLatestBlock_comm, hReplayed'.newAnyClientState, Except.ok.injEq] at hLast
    exact hLast.symm
  have hNe : data.height ≠ data'.height := by
    rw [h.height, h'.height]
    exact hHeights
  have hData := updateState_eq_ok.mpr ⟨_, s, s', hReplayed⟩
  have hData' := updateState_eq_ok.mpr ⟨_, u, u', hReplayed'⟩
  have hStore : (store.applyUpdate clientId data).applyUpdate clientId replayed' =
      (store.applyUpdate clientId data').applyUpdate clientId replayed :=
    Store.applyUpdate_comm hNe hHeight₁ hHeight₂ hClient hState₁ hState₂
  exact ⟨_, replayed, replayed', exec_updated.mpr ⟨header', hMessage', hData', rfl⟩,
    exec_updated.mpr ⟨header, hMessage, hData, hStore⟩, hMessage₁, hHeight₁, hMessage₂, hHeight₂⟩

end Replayed

/-- Two header messages are independent when they are for different clients, or
write different heights and neither writes the height that the other trusts. -/
def Independent (clientId other : ClientId) (header header' : Header T) : Prop :=
  clientId = other →
    header.executionUpdate.blockNumber ≠ header'.executionUpdate.blockNumber ∧
    header.height ≠ header'.trustedHeight ∧ header'.height ≠ header.trustedHeight

/-- Independent updates that are both accepted in a store are accepted in both
orders, with the same messages, and end in the same store. The store need not be a
reachable one. Without independence the second update may be refused, or may trust
another state than before. -/
theorem independent_updates_commute (hE : E.Lawful) {message message' : Any}
    {header header' : Header T} {store₁ store₂ : Store} {data data' : UpdateStateData T}
    (hMessage : ClientMessage.tryFromAny E message = .ok (.header header))
    (hMessage' : ClientMessage.tryFromAny E message' = .ok (.header header'))
    (hFirst : exec E store ⟨now, .updateClient clientId message⟩ = (store₁, .updated data))
    (hSecond : exec E store ⟨now, .updateClient other message'⟩ = (store₂, .updated data'))
    (hIndependent : Independent clientId other header header') :
    ∃ last replayed replayed',
      exec E store₁ ⟨now, .updateClient other message'⟩ = (last, .updated replayed') ∧
      exec E store₂ ⟨now, .updateClient clientId message⟩ = (last, .updated replayed) ∧
      replayed.message = data.message ∧ replayed.height = data.height ∧
      replayed'.message = data'.message ∧ replayed'.height = data'.height := by
  obtain ⟨_, hDecoded, hData, rfl⟩ := exec_updated.mp hFirst
  obtain ⟨_, hDecoded', hData', rfl⟩ := exec_updated.mp hSecond
  rw [hMessage, Except.ok.injEq, ClientMessage.header.injEq] at hDecoded
  rw [hMessage', Except.ok.injEq, ClientMessage.header.injEq] at hDecoded'
  subst hDecoded hDecoded'
  obtain ⟨c, s, s', h⟩ := updateState_eq_ok.mp hData
  obtain ⟨d, u, u', h'⟩ := updateState_eq_ok.mp hData'
  by_cases hEq : clientId = other
  · subst hEq
    obtain ⟨hBlock, hHeight, hHeight'⟩ := hIndependent rfl
    obtain ⟨rfl, -⟩ := h.reads.unique h'.reads
    have hHeights : header.height ≠ header'.height :=
      fun hSame => hBlock (congrArg Height.revisionHeight hSame)
    exact exec_commute_of_height_ne hE hMessage hMessage' h h' hHeights hHeight'.symm hHeight.symm
  · obtain ⟨last, hLast, hLast'⟩ := exec_commute_of_ne hEq hMessage hMessage' h h'
    exact ⟨last, data, data', hLast, hLast', rfl, rfl, rfl, rfl⟩

section Relayed

open Reference

/-- The headers of blocks 2 and 3, both trusting block 1. -/
theorem relayed_updates_commute : ∃ last replayed replayed',
    exec externals relayedStore ⟨relayTime, .updateClient relayed (headerAny 1 6 0)⟩ =
      (last, .updated replayed') ∧
    exec externals ((createdStore relayed 1 (consensusState 2)).applyUpdate relayed
        (updateData (clientState 1) 1 2 6 0))
      ⟨relayTime, .updateClient relayed (headerAny 1 4 0)⟩ = (last, .updated replayed) ∧
    replayed.message = (updateData (clientState 1) 1 2 4 0).message ∧
    replayed.height = ⟨0, 2⟩ ∧
    replayed'.message = (updateData (clientState 1) 1 2 6 0).message ∧
    replayed'.height = ⟨0, 3⟩ := by
  have hSecond := exec_headerAny (by decide : Acceptable relayTime 2 6)
    (clientState_sameConfig 1 1) 0 (createdStore_reads relayTime relayed 1 (consensusState 2))
  have hIndependent : Independent relayed relayed (header 1 4 0) (header 1 6 0) :=
    fun _ => ⟨by decide, by decide, by decide⟩
  exact independent_updates_commute externals_lawful (tryFromAny_headerAny 1 4 0)
    (tryFromAny_headerAny 1 6 0) relayedStore_step hSecond hIndependent

end Relayed

end EthereumElc
