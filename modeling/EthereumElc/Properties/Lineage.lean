import EthereumElc.Properties.Stored

/-! Where a stored state comes from: a chain of accepted messages in the past of
the host, from the creation of the client on, each checked against the one before. -/
namespace EthereumElc

open EthereumLightClient ClientTracker

variable {T : ExternalTypes} {E : Externals T} {clientId : ClientId}
  {trace : Transition.Trace Request (Response T)} {store : Store}

/-- The creation of a client. -/
def creationEvent (clientId : ClientId) (now : Time) (anyClient anyConsensus : Any)
    (c : ClientState) (s : ConsensusState T) (id : T.StateID) : Event T :=
  (⟨now, .createClient clientId anyClient anyConsensus⟩, .created (creationResult anyClient c s id))

/-- A chain of messages that vouch for a state, most recent first. The first one
created the client with the given states; each later one passed every check
against the state that the one before left, and names it by its height and id. -/
inductive Backs (E : Externals T) (clientId : ClientId) (c : ClientState) (s₀ : ConsensusState T) :
    List (Event T) → U64 → Attested T → Prop where
  | creation {now : Time} {anyClient anyConsensus : Any} {id : T.StateID}
      (creates : Creates E anyClient anyConsensus c s₀ id) :
      Backs E clientId c s₀ [creationEvent clientId now anyClient anyConsensus c s₀ id]
        c.latestExecutionBlockNumber ⟨s₀, id⟩
  | update {chain : List (Event T)} {n : U64} {a : Attested T} {now : Time} {anyMessage : Any}
      {header : Header T} {time : Time} {keys : NewSyncCommittees T} {data : UpdateStateData T}
      (before : Backs E clientId c s₀ chain n a)
      (message : ClientMessage.tryFromAny E anyMessage = .ok (.header header))
      (trusted : header.trustedHeight = heightOf n)
      (accepts : c.AcceptsHeader E now a.state header time keys)
      (attested : data.message = updateMessage c header a.state (header.newConsensusState time keys)
        a.stateId data.message.postStateId) :
      Backs E clientId c s₀ ((⟨now, .updateClient clientId anyMessage⟩, .updated data) :: chain)
        header.executionUpdate.blockNumber
        ⟨header.newConsensusState time keys, data.message.postStateId⟩

/-- The states of a client are backed by the past of the host. -/
def Lineage (E : Externals T) (clientId : ClientId)
    (trace : Transition.Trace Request (Response T)) (t : ClientTracker T) : Prop :=
  ∃ s₀, ∀ n a, t.states n = some a → ∃ chain, chain.Sublist trace ∧
    Backs E clientId t.config s₀ chain n a

/-- The first state of a client is backed by the creation alone. -/
theorem Lineage.created {now : Time} {anyClient anyConsensus : Any} {c : ClientState}
    {s : ConsensusState T} {id : T.StateID} (hCreates : Creates E anyClient anyConsensus c s id) :
    Lineage E clientId (creationEvent clientId now anyClient anyConsensus c s id :: trace)
      (ClientTracker.created c s id) := by
  refine ⟨s, fun n a hStates => ?_⟩
  obtain ⟨rfl, rfl⟩ := Tracker.opened_states_eq_some.mp hStates
  exact ⟨_, List.singleton_sublist.mpr List.mem_cons_self, .creation hCreates⟩

theorem Lineage.idle {t : ClientTracker T} (h : Lineage E clientId trace t) (event : Event T) :
    Lineage E clientId (event :: trace) t := by
  obtain ⟨s₀, hBacks⟩ := h
  refine ⟨s₀, fun n a hStates => ?_⟩
  obtain ⟨chain, hSublist, hChain⟩ := hBacks n a hStates
  exact ⟨chain, hSublist.cons _, hChain⟩

/-- An accepted header extends the chain of the state that it trusts. -/
theorem Lineage.updated (hE : E.Lawful) {t : ClientTracker T} (h : Lineage E clientId trace t)
    (hRepresents : Represents E clientId trace store t) {now : Time} {anyMessage : Any}
    {header : Header T} {c : ClientState} {s s' : ConsensusState T} {data : UpdateStateData T}
    (hMessage : ClientMessage.tryFromAny E anyMessage = .ok (.header header))
    (hUpdates : Updates E (store.reader now) clientId header c s s' data) {a' : Attested T}
    (hState : a'.state = s') (hId : a'.stateId = data.message.postStateId) :
    Lineage E clientId ((⟨now, .updateClient clientId anyMessage⟩, .updated data) :: trace)
      (t.advance header.executionUpdate.blockNumber a') := by
  obtain ⟨s₀, hBacks⟩ := h
  obtain ⟨n, a, time, keys, hTrusted, hStates, rfl, hAccepts, rfl⟩ :=
    hRepresents.of_updates hE hUpdates
  obtain ⟨rfl, -⟩ := hRepresents.of_reads hE hUpdates.reads
  obtain ⟨chain, hSublist, hChain⟩ := hBacks n a hStates
  obtain ⟨prevId, postId, hPrev, -, hProxy⟩ := hUpdates.message
  have hPrevId : prevId = a.stateId := by
    rw [(clientState_sameConfig t).genStateId_eq, hRepresents.stateId n a hStates,
      Except.ok.injEq] at hPrev
    exact hPrev.symm
  have hAttested : data.message = updateMessage t.config header a.state
      (header.newConsensusState time keys) a.stateId data.message.postStateId := by
    rw [hProxy, hPrevId]
    exact (updateMessage_of_sameConfig (clientState_sameConfig t) header a.state _ _ _)
  have hNew : a' = ⟨header.newConsensusState time keys, data.message.postStateId⟩ := by
    rw [← hState, ← hId]
  refine ⟨s₀, fun k b hb => ?_⟩
  by_cases hEq : k = header.executionUpdate.blockNumber
  · subst hEq
    rw [Tracker.advance_states_self, Option.some.injEq] at hb
    subst hb
    rw [hNew]
    exact ⟨_, hSublist.cons_cons _, hChain.update hMessage hTrusted hAccepts hAttested⟩
  · rw [Tracker.advance_states_of_ne _ _ hEq] at hb
    obtain ⟨chain', hSublist', hChain'⟩ := hBacks k b hb
    exact ⟨chain', hSublist'.cons _, hChain'⟩

/-- Every client that is stored in a reachable store has a lineage. -/
theorem represents_lineage (hE : E.Lawful) (hRun : Transition.Run (machine E) trace store)
    {any : Any} (hAny : store.clientState clientId = some any) :
    ∃ t, Represents E clientId trace store t ∧ Lineage E clientId trace t :=
  represents_induction hE (Lineage E clientId) (fun _ _ _ _ _ _ _ hCreates => .created hCreates)
    (fun _ _ _ _ _ _ _ _ _ _ _ h hRepresents hMessage hUpdates hState hId =>
      h.updated hE hRepresents hMessage hUpdates hState hId)
    (fun _ _ _ _ _ _ h => h.idle _) (fun _ _ _ h => h.idle _) hRun hAny

/-- Every stored state is backed by messages of the past of the host: a creation of
the client and then headers, each of which passed every check of the created
configuration against the state that the message before it posted. The chain need
not be unique, as a state may be posted more than once. -/
theorem stored_states_are_backed (hE : E.Lawful) (hRun : Transition.Run (machine E) trace store)
    {any : Any} (hAny : store.clientState clientId = some any) :
    ∃ c s₀, ∀ height anyState, store.consensusState clientId height = some anyState →
      ∃ chain n a, chain.Sublist trace ∧ Backs E clientId c s₀ chain n a ∧ height = heightOf n ∧
        Stores E anyState a.state := by
  obtain ⟨t, hRepresents, s₀, hBacks⟩ := represents_lineage hE hRun hAny
  refine ⟨t.config, s₀, fun height anyState hStored => ?_⟩
  obtain ⟨n, a, hHeight, hStates, hStores⟩ := hRepresents.states_of_stored hStored
  obtain ⟨chain, hSublist, hChain⟩ := hBacks n a hStates
  exact ⟨chain, n, a, hSublist, hChain, hHeight, hStores⟩

section Relayed

open Reference

/-- The state at height 2 of the relayed client is backed by its trace. -/
theorem relayed_states_are_backed : ∃ c s₀ chain a,
    chain.Sublist relayedTrace ∧ Backs externals relayed c s₀ chain 2 a := by
  obtain ⟨c, s₀, hBacked⟩ :=
    stored_states_are_backed externals_lawful relayedStore_run relayedStore_clientState
  obtain ⟨-, -, any, hAny, -⟩ := relayedStore_reads relayTime
  obtain ⟨chain, n, a, hSublist, hChain, hHeight, -⟩ :=
    hBacked _ any (Store.reader_consensusState_eq_ok.mp hAny)
  obtain rfl : (2 : U64) = n := heightOf_injective hHeight
  exact ⟨c, s₀, chain, a, hSublist, hChain⟩

end Relayed

namespace Backs

variable {c : ClientState} {s₀ : ConsensusState T} {chain : List (Event T)} {n : U64}
  {a : Attested T}

/-- A chain begins with the creation that its first state was decoded from. -/
theorem creation_mem (h : Backs E clientId c s₀ chain n a) : ∃ now anyClient anyConsensus id,
    Creates E anyClient anyConsensus c s₀ id ∧
      creationEvent clientId now anyClient anyConsensus c s₀ id ∈ chain := by
  induction h with
  | creation hCreates => exact ⟨_, _, _, _, hCreates, List.mem_cons_self⟩
  | update _ _ _ _ _ ih =>
      obtain ⟨now, anyClient, anyConsensus, id, hCreates, hMem⟩ := ih
      exact ⟨now, anyClient, anyConsensus, id, hCreates, List.mem_cons_of_mem _ hMem⟩

theorem writes (h : Backs E clientId c s₀ chain n a) :
    ∀ event ∈ chain, Event.writes event = some clientId := by
  induction h with
  | creation => exact List.forall_mem_singleton.mpr rfl
  | update _ _ _ _ _ ih => exact List.forall_mem_cons.mpr ⟨rfl, ih⟩

/-- Every link of a chain is at a later slot. -/
theorem slot_le (hRelevant : E.RejectsIrrelevant) (h : Backs E clientId c s₀ chain n a) :
    s₀.slot.toNat + chain.length ≤ a.state.slot.toNat + 1 := by
  induction h with
  | creation => exact le_rfl
  | @update chain n a now anyMessage header time keys data _ _ _ hAccepts _ ih =>
      have hSlot : a.state.slot.toNat < header.finalizedSlot.toNat :=
        UInt64.lt_iff_toNat_lt.mp (hAccepts.slot_lt hRelevant)
      have hNew : (header.newConsensusState time keys).slot = header.finalizedSlot := rfl
      rw [List.length_cons, hNew]
      omega

/-- No link of a chain is later than the one before by more than the trusting
period and the clock drift together. -/
theorem timestamp_le (hChecks : E.ExactTimeChecks) (h : Backs E clientId c s₀ chain n a) :
    a.state.timestamp.asUnixTimestampNanos + (c.trustingPeriod.asNanos + c.maxClockDrift.asNanos) ≤
      s₀.timestamp.asUnixTimestampNanos +
        chain.length * (c.trustingPeriod.asNanos + c.maxClockDrift.asNanos) := by
  induction h with
  | creation => rw [List.length_singleton, Nat.one_mul]
  | @update chain n a now anyMessage header time keys data _ _ _ hAccepts _ ih =>
      have hPeriod := (hChecks.withinTrustingPeriod _ _ _).mp hAccepts.withinTrustingPeriod
      have hDrift := (hChecks.notFuture _ _ _).mp hAccepts.notFuture
      have hNew : (header.newConsensusState time keys).timestamp = time := rfl
      rw [List.length_cons, Nat.succ_mul, hNew]
      omega

end Backs

/-- Along the chain of a stored state, slots grow by at least one and timestamps by
at most the trusting period and the clock drift for each accepted header. No bound
from below holds for timestamps: they are those of execution blocks, which the
checks do not compare with the trusted one. -/
theorem stored_states_advance (hE : E.Lawful) (hRelevant : E.RejectsIrrelevant)
    (hChecks : E.ExactTimeChecks) (hRun : Transition.Run (machine E) trace store) {any : Any}
    (hAny : store.clientState clientId = some any) :
    ∃ c, ClientState.tryFromAny E any = .ok c ∧ ∀ height anyState u,
      store.consensusState clientId height = some anyState →
      ConsensusState.tryFromAny E anyState = .ok u →
      ∃ now anyClient anyConsensus result s₀ updates,
        ((⟨now, .createClient clientId anyClient anyConsensus⟩, .created result) : Event T) ∈
          trace ∧
        ConsensusState.tryFromAny E anyConsensus = .ok s₀ ∧
        updates < trace.countP (fun event => decide (Event.writes event = some clientId)) ∧
        s₀.slot.toNat + updates ≤ u.slot.toNat ∧
        u.timestamp.asUnixTimestampNanos ≤ s₀.timestamp.asUnixTimestampNanos +
          updates * (c.trustingPeriod.asNanos + c.maxClockDrift.asNanos) := by
  obtain ⟨t, hRepresents, s₀, hBacks⟩ := represents_lineage hE hRun hAny
  obtain ⟨any', hAny', hClient⟩ := hRepresents.clientState
  rw [hAny, Option.some.injEq] at hAny'
  subst hAny'
  refine ⟨_, hClient, fun height anyState u hStored hDecoded => ?_⟩
  obtain ⟨n, a, -, hStates, hStores⟩ := hRepresents.states_of_stored hStored
  obtain rfl := hStores.eq_of_tryFromAny hE hDecoded
  obtain ⟨chain, hSublist, hChain⟩ := hBacks n a hStates
  obtain ⟨now, anyClient, anyConsensus, id, hCreates, hMem⟩ := hChain.creation_mem
  have hLength : chain.length ≤
      trace.countP (fun event => decide (Event.writes event = some clientId)) := by
    have hWrites := fun event hEvent => decide_eq_true (hChain.writes event hEvent)
    rw [← List.countP_eq_length.mpr hWrites]
    exact hSublist.countP_le
  have hPositive : 0 < chain.length := List.length_pos_of_mem hMem
  have hSlot := hChain.slot_le hRelevant
  have hTime := hChain.timestamp_le hChecks
  have hLinks : chain.length = chain.length - 1 + 1 := by omega
  rw [hLinks, Nat.succ_mul] at hTime
  have hTime := hTime.trans_eq (Nat.add_assoc _ _ _).symm
  exact ⟨now, anyClient, anyConsensus, _, s₀, chain.length - 1, hSublist.subset hMem,
    hCreates.consensusState, by omega, by omega, Nat.le_of_add_le_add_right hTime⟩

section Relayed

open Reference

/-- The state at slot 4 of the relayed client is at most one header from its creation. -/
theorem relayed_states_advance : ∃ (s₀ : ConsensusState types) (updates : Nat), updates < 2 ∧
    s₀.slot.toNat + updates ≤ 4 ∧
    (consensusState 4).timestamp.asUnixTimestampNanos ≤ s₀.timestamp.asUnixTimestampNanos +
      updates *
        ((clientState 2).trustingPeriod.asNanos + (clientState 2).maxClockDrift.asNanos) := by
  obtain ⟨c, hDecoded, hAdvance⟩ := stored_states_advance externals_lawful
    externals_rejectsIrrelevant externals_exactTimeChecks relayedStore_run relayedStore_clientState
  rw [tryFromAny_clientAny (clientState_sameConfig 2 2), Except.ok.injEq] at hDecoded
  subst hDecoded
  obtain ⟨-, -, any, hAny, hState⟩ := relayedStore_reads relayTime
  obtain ⟨-, -, -, -, s₀, updates, -, -, hUpdates, hSlot, hTime⟩ :=
    hAdvance _ any _ (Store.reader_consensusState_eq_ok.mp hAny) hState
  exact ⟨s₀, updates, hUpdates, hSlot, hTime⟩

end Relayed

end EthereumElc
