import EthereumElc.Host.Simulation
import EthereumElc.Reference.Relayer

/-! The ids that the enclave emits: what refers to the state at a height refers
to the id that was last posted for it. -/
namespace EthereumElc

open EthereumLightClient

variable {T : ExternalTypes}

/-- An answer refers to the state of a client at a height with a state id. -/
inductive Refers (E : Externals T) (clientId : ClientId) (height : Height) :
    Event T → Option T.StateID → Prop where
  | update {now : Time} {anyMessage : Any} {header : Header T} {data : UpdateStateData T}
      (message : ClientMessage.tryFromAny E anyMessage = .ok (.header header))
      (trusted : header.trustedHeight = height) :
      Refers E clientId height (⟨now, .updateClient clientId anyMessage⟩, .updated data)
        data.message.prevStateId
  | misbehaviour {now : Time} {anyMessage : Any} {data : MisbehaviourData T} {prev : PrevState T}
      (mem : prev ∈ data.message.prevStates) (trusted : prev.height = height) :
      Refers E clientId height (⟨now, .updateClient clientId anyMessage⟩, .misbehaved data)
        (some prev.stateId)
  | membership {now : Time} {commitmentPrefix : Bytes} {path : String} {value proof : Bytes}
      {result : VerifyMembershipResult T} :
      Refers E clientId height
        (⟨now, .verifyMembership clientId commitmentPrefix path value height proof⟩,
          .membership result) (some result.message.stateId)
  | nonMembership {now : Time} {commitmentPrefix : Bytes} {path : String} {proof : Bytes}
      {result : VerifyNonMembershipResult T} :
      Refers E clientId height
        (⟨now, .verifyNonMembership clientId commitmentPrefix path height proof⟩,
          .nonMembership result) (some result.message.stateId)

variable {E : Externals T} {clientId : ClientId} {trace : Transition.Trace Request (Response T)}
  {store store' : Store} {t : ClientTracker T}

/-- The host records a membership proof only when the light client accepts it. -/
theorem exec_membership {now : Time} {commitmentPrefix : Bytes} {path : String}
    {value proof : Bytes} {height : Height} {result : VerifyMembershipResult T}
    (h : exec E store ⟨now, .verifyMembership clientId commitmentPrefix path value height proof⟩ =
      (store', .membership result)) :
    verifyMembership E (store.reader now) clientId commitmentPrefix path value height proof =
      .ok result := by
  simp only [exec] at h
  split at h
  · rename_i hResult
    cases h
    exact hResult
  · cases h

theorem exec_nonMembership {now : Time} {commitmentPrefix : Bytes} {path : String}
    {proof : Bytes} {height : Height} {result : VerifyNonMembershipResult T}
    (h : exec E store ⟨now, .verifyNonMembership clientId commitmentPrefix path height proof⟩ =
      (store', .nonMembership result)) :
    verifyNonMembership E (store.reader now) clientId commitmentPrefix path height proof =
      .ok result := by
  simp only [exec] at h
  split at h
  · rename_i hResult
    cases h
    exact hResult
  · cases h

/-- The id of states that were read is the id that the tracker holds. -/
theorem Represents.posted_of_reads (hE : E.Lawful) (h : Represents E clientId trace store t)
    {now : Time} {height : Height} {c : ClientState} {s : ConsensusState T} {id : T.StateID}
    (hReads : Reads E (store.reader now) clientId height c s)
    (hId : genStateId E c s = .ok id) :
    trace.findSome? (Event.posted clientId height) = some id := by
  obtain ⟨rfl, -, n, a, rfl, hStates, rfl⟩ := h.of_reads hE hReads
  rw [(ClientTracker.clientState_sameConfig t).genStateId_eq, h.stateId n a hStates,
    Except.ok.injEq] at hId
  rw [h.posted, hStates, ← hId]
  rfl

/-- An answer that refers to a height has read the states that it refers to. -/
theorem Refers.reads {request : Request} {response : Response T} {height : Height}
    {id : Option T.StateID} (hStep : exec E store request = (store', response))
    (hRefers : Refers E clientId height (request, response) id) :
    ∃ c s id', Reads E (store.reader request.now) clientId height c s ∧
      genStateId E c s = .ok id' ∧ id = some id' := by
  cases hRefers with
  | update hMessage hTrusted =>
      cases exec_clientStep hStep clientId with
      | updated hMessage' hUpdates =>
          rw [hMessage, Except.ok.injEq, ClientMessage.header.injEq] at hMessage'
          subst hMessage'
          obtain ⟨prevId, postId, hPrev, -, hData⟩ := hUpdates.message
          rw [hData, ← hTrusted]
          exact ⟨_, _, prevId, hUpdates.reads, hPrev, rfl⟩
      | idle hQuiet => exact absurd rfl hQuiet
  | @misbehaviour now anyMessage data prev hMem hTrusted =>
      cases exec_clientStep hStep clientId with
      | misbehaved hMessage hPunishes =>
          obtain ⟨stateId, hId, hData⟩ := hPunishes.message
          rw [hData, misbehaviourMessage, List.mem_singleton] at hMem
          subst hMem
          rw [← hTrusted]
          exact ⟨_, _, stateId, hPunishes.reads, hId, rfl⟩
      | idle hQuiet => exact absurd rfl hQuiet
  | membership =>
      obtain ⟨c, s, hReads, committed, id, -, hId, rfl⟩ :=
        verifyMembership_eq_ok.mp (exec_membership hStep)
      exact ⟨c, s, id, hReads, hId, rfl⟩
  | nonMembership =>
      obtain ⟨c, s, hReads, id, -, hId, rfl⟩ :=
        verifyNonMembership_eq_ok.mp (exec_nonMembership hStep)
      exact ⟨c, s, id, hReads, hId, rfl⟩

/-- Whatever refers to a height of a client carries the id that the latest accepted
message posted for that height. This is over any run, and over every way to refer:
the previous id of an update, the previous states of evidence, and the state of a
proof. The conversions are assumed to read back what they write. -/
theorem refers_to_latest_posted (hE : E.Lawful) {before after : Transition.Trace Request (Response T)}
    {event : Event T} (hRun : Transition.Run (machine E) (after ++ event :: before) store)
    {height : Height} {id : Option T.StateID} (hRefers : Refers E clientId height event id) :
    id.isSome ∧ id = before.findSome? (Event.posted clientId height) := by
  obtain ⟨request, response⟩ := event
  obtain ⟨m, n, hBefore, hStep, -⟩ := hRun.split_at
  obtain ⟨c, s, id', hReads, hId, rfl⟩ := hRefers.reads hStep
  obtain ⟨any, hAny, -⟩ := hReads.clientState
  obtain ⟨c₀, s₀, id₀, t, -, hRepresents⟩ :=
    represents_of_stored hE hBefore (Store.reader_clientState_eq_ok.mp hAny)
  exact ⟨rfl, (hRepresents.posted_of_reads hE hReads hId).symm⟩

section Relayed

open Reference

/-- The header of block 3 refers to the state at height 2 by the id that the
header of block 2 posted. -/
theorem relayed_refers_to_latest_posted :
    some (stateId (clientState 2) (consensusState 4)) =
      relayedTrace.findSome? (Event.posted relayed ⟨0, 2⟩) := by
  have hRun : Transition.Run (machine externals) ([] ++ nextEvent :: relayedTrace) _ :=
    steps_exec relayedStore_run relayedStore_next
  have hRefers : Refers externals relayed ⟨0, 2⟩ nextEvent
      (some (stateId (clientState 2) (consensusState 4))) :=
    .update (tryFromAny_headerAny 2 6 0) rfl
  exact (refers_to_latest_posted externals_lawful hRun hRefers).2

end Relayed

end EthereumElc
