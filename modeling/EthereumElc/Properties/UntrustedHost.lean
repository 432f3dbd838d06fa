import EthereumElc.General.Reordering
import EthereumElc.Model.Assumptions
import EthereumElc.Properties.StateIds
import EthereumElc.Properties.Stored

/-! A host whose storage is not trusted. It hands the enclave whatever entries it
likes, but the state ids in the messages tie each answer to the earlier ones. -/
namespace EthereumElc

open EthereumLightClient ClientTracker

variable {T : ExternalTypes}

/-- The heights whose states an answer relies on, with the ids of these states. -/
def Response.references : Response T → List (Height × T.StateID)
  | .updated data =>
      match data.message.prevHeight, data.message.prevStateId with
      | some height, some id => [(height, id)]
      | _, _ => []
  | .misbehaved data => data.message.prevStates.map fun prev => (prev.height, prev.stateId)
  | .membership result => [(result.message.height, result.message.stateId)]
  | .nonMembership result => [(result.message.height, result.message.stateId)]
  | _ => []

/-- The enclave accepts a call on an existing client, for some entries that it was given. -/
inductive AnsweredFrom (E : Externals T) (ctx : HostClientReader) (clientId : ClientId) :
    Call → Response T → Prop where
  | updated {anyMessage : Any} {data : UpdateStateData T}
      (answer : updateClient E ctx clientId anyMessage = .ok (.updateState data)) :
      AnsweredFrom E ctx clientId (.updateClient clientId anyMessage) (.updated data)
  | misbehaved {anyMessage : Any} {data : MisbehaviourData T}
      (answer : updateClient E ctx clientId anyMessage = .ok (.misbehaviour data)) :
      AnsweredFrom E ctx clientId (.updateClient clientId anyMessage) (.misbehaved data)
  | membership {commitmentPrefix : Bytes} {path : String} {value proof : Bytes} {height : Height}
      {result : VerifyMembershipResult T} (answer : EthereumLightClient.verifyMembership E ctx
        clientId commitmentPrefix path value height proof = .ok result) :
      AnsweredFrom E ctx clientId
        (.verifyMembership clientId commitmentPrefix path value height proof) (.membership result)
  | nonMembership {commitmentPrefix : Bytes} {path : String} {proof : Bytes} {height : Height}
      {result : VerifyNonMembershipResult T} (answer : EthereumLightClient.verifyNonMembership E ctx
        clientId commitmentPrefix path height proof = .ok result) :
      AnsweredFrom E ctx clientId
        (.verifyNonMembership clientId commitmentPrefix path height proof) (.nonMembership result)

/-- Answers of the enclave to a host that it does not trust, most recent first.
Each one may come from other entries, unrelated to what the enclave returned
before. What is known is that a creation is first, that each later answer relies
only on ids that were posted last for their heights, and that none follows an
accepted misbehaviour. -/
inductive LinkedLog (E : Externals T) (clientId : ClientId) :
    Transition.Trace Request (Response T) → Prop where
  | created {now : Time} {anyClientState anyConsensusState : Any} {result : CreateClientResult T}
      (answer : createClient E anyClientState anyConsensusState = .ok result) :
      LinkedLog E clientId
        [(⟨now, .createClient clientId anyClientState anyConsensusState⟩, .created result)]
  | answered {log : Transition.Trace Request (Response T)} {ctx : HostClientReader} {call : Call}
      {response : Response T} (earlier : LinkedLog E clientId log)
      (unpunished : log.findSome? (Event.punished E clientId) = none)
      (answer : AnsweredFrom E ctx clientId call response)
      (linked : ∀ reference ∈ response.references,
        log.findSome? (Event.posted clientId reference.1) = some reference.2) :
      LinkedLog E clientId ((⟨ctx.hostTimestamp, call⟩, response) :: log)

variable {E : Externals T} {clientId : ClientId} {trace : Transition.Trace Request (Response T)}
  {store store' : Store} {t : ClientTracker T}

/-- The id that a call posts for a height, read off its attestation. -/
def Attestation.posted (clientId : ClientId) (height : Height) :
    Call → Attestation T → Option T.StateID
  | .createClient id _ _, .created result =>
      if id = clientId ∧ result.message.postHeight = height then some result.message.postStateId
      else none
  | .updateClient id _, .updated message _ =>
      if id = clientId ∧ message.postHeight = height then some message.postStateId else none
  | _, _ => none

/-- What an event posts is read off its call and its attestation. -/
theorem Event.posted_eq (clientId : ClientId) (height : Height) (event : Event T) :
    event.posted clientId height =
      event.2.attestation.bind (Attestation.posted clientId height event.1.call) := by
  obtain ⟨⟨now, call⟩, response⟩ := event
  cases call <;> cases response <;> rfl

/-- The height that a call punishes a client at, read off its attestation. -/
def Attestation.punished (E : Externals T) (clientId : ClientId) :
    Call → Attestation T → Option Height
  | .updateClient id anyMessage, .misbehaved _ =>
      if id = clientId then
        match ClientMessage.tryFromAny E anyMessage with
        | .ok (.misbehaviour misbehaviour) => some misbehaviour.trustedHeight
        | _ => none
      else none
  | _, _ => none

theorem Event.punished_eq (E : Externals T) (clientId : ClientId) (event : Event T) :
    event.punished E clientId =
      event.2.attestation.bind (Attestation.punished E clientId event.1.call) := by
  obtain ⟨⟨now, call⟩, response⟩ := event
  cases call <;> cases response <;> rfl

/-- Two logs that the chain cannot tell apart. -/
abbrev AttestedAlike (log trace : Transition.Trace Request (Response T)) : Prop :=
  Transition.SeenAlike Response.attestation log trace

/-- Logs that are attested alike have posted the same ids. -/
theorem AttestedAlike.posted_eq {log : Transition.Trace Request (Response T)}
    (h : AttestedAlike log trace) (clientId : ClientId) (height : Height) :
    log.findSome? (Event.posted clientId height) =
      trace.findSome? (Event.posted clientId height) :=
  h.findSome?_eq (fun event => event.2.bind (Attestation.posted clientId height event.1.call))
    (Event.posted_eq clientId height)

theorem AttestedAlike.punished_eq {log : Transition.Trace Request (Response T)}
    (h : AttestedAlike log trace) (E : Externals T) (clientId : ClientId) :
    log.findSome? (Event.punished E clientId) = trace.findSome? (Event.punished E clientId) :=
  h.findSome?_eq (fun event => event.2.bind (Attestation.punished E clientId event.1.call))
    (Event.punished_eq E clientId)

/-- An answer relies on the states at one height. Wherever the same consensus
state is read under the same configuration, at a height up to the latest one, the
same call has the same attestation. -/
theorem AnsweredFrom.replay (hE : E.Lawful) (hHeights : E.BoundsProofHeight)
    {ctx : HostClientReader} {call : Call} {response : Response T}
    (h : AnsweredFrom E ctx clientId call response) :
    ∃ height c s id, Reads E ctx clientId height c s ∧ genStateId E c s = .ok id ∧
      (height, id) ∈ response.references ∧
      ∀ ctx' c' n, height = heightOf n → Reads E ctx' clientId height c' s → c'.SameConfig c →
        n ≤ c'.latestExecutionBlockNumber → ctx'.hostTimestamp = ctx.hostTimestamp →
        ∃ response', AnsweredFrom E ctx' clientId call response' ∧
          response.attestation = response'.attestation := by
  cases h with
  | @updated anyMessage data hAnswer =>
      rcases updateClient_eq_ok.mp hAnswer with
        ⟨header, _, hMessage, hData, hCase⟩ | ⟨_, _, -, -, hCase⟩
      · cases hCase
        obtain ⟨c, s, s', hUpdates⟩ := updateState_eq_ok.mp hData
        obtain ⟨prevId, postId, hPrev, -, hProxy⟩ := hUpdates.message
        refine ⟨header.trustedHeight, c, s, prevId, hUpdates.reads, hPrev, ?_, ?_⟩
        · simp [Response.references, hProxy, updateMessage]
        · intro ctx' c' n _ hReads hSame _ hNow
          obtain ⟨data', hUpdates', hSameMessage, hSameHeight, -⟩ :=
            hUpdates.replay hE.clientState.encode_total hReads hSame hNow
          have hData' := updateState_eq_ok.mpr ⟨c', s, s', hUpdates'⟩
          have hAnswer' := updateClient_eq_ok.mpr (.inl ⟨header, data', hMessage, hData', rfl⟩)
          refine ⟨_, .updated hAnswer', ?_⟩
          rw [Response.attestation, Response.attestation, hSameMessage, hSameHeight]
      · cases hCase
  | @misbehaved anyMessage data hAnswer =>
      rcases updateClient_eq_ok.mp hAnswer with ⟨_, _, -, -, hCase⟩ | ⟨m, _, hMessage, hData, hCase⟩
      · cases hCase
      · cases hCase
        obtain ⟨c, s, hPunishes⟩ := submitMisbehaviour_eq_ok.mp hData
        obtain ⟨id, hId, hProxy⟩ := hPunishes.message
        refine ⟨m.trustedHeight, c, s, id, hPunishes.reads, hId, ?_, ?_⟩
        · simp [Response.references, hProxy, misbehaviourMessage]
        · intro ctx' c' n _ hReads hSame _ hNow
          obtain ⟨data', hPunishes', hSameMessage⟩ :=
            hPunishes.replay hE.clientState.encode_total hReads hSame hNow
          have hData' := submitMisbehaviour_eq_ok.mpr ⟨c', s, hPunishes'⟩
          have hAnswer' := updateClient_eq_ok.mpr (.inr ⟨m, data', hMessage, hData', rfl⟩)
          refine ⟨_, .misbehaved hAnswer', ?_⟩
          rw [Response.attestation, Response.attestation, hSameMessage]
  | @membership commitmentPrefix path value proof height result hAnswer =>
      obtain ⟨c, s, hReads, committed, id, hCommitted, hId, rfl⟩ :=
        verifyMembership_eq_ok.mp hAnswer
      refine ⟨height, c, s, id, hReads, hId, List.mem_singleton_self _, ?_⟩
      rintro ctx' c' n rfl hReads' hSame hLatest -
      have hCommitted' := hHeights.membership _ _ _ _ _ _ _ _ hSame hLatest hCommitted
      rw [← hSame.genStateId_eq] at hId
      exact ⟨_, .membership (verifyMembership_eq_ok.mpr
        ⟨c', s, hReads', committed, id, hCommitted', hId, rfl⟩), rfl⟩
  | @nonMembership commitmentPrefix path proof height result hAnswer =>
      obtain ⟨c, s, hReads, id, hEmpty, hId, rfl⟩ := verifyNonMembership_eq_ok.mp hAnswer
      refine ⟨height, c, s, id, hReads, hId, List.mem_singleton_self _, ?_⟩
      rintro ctx' c' n rfl hReads' hSame hLatest -
      have hEmpty' := hHeights.nonMembership _ _ _ _ _ _ hSame hLatest hEmpty
      rw [← hSame.genStateId_eq] at hId
      exact ⟨_, .nonMembership (verifyNonMembership_eq_ok.mpr
        ⟨c', s, hReads', id, hEmpty', hId, rfl⟩), rfl⟩

/-- What the enclave accepts for the host's own entries, the host records. -/
theorem AnsweredFrom.exec {now : Time} {call : Call} {response : Response T}
    (h : AnsweredFrom E (store.reader now) clientId call response) :
    ∃ last, EthereumElc.exec E store ⟨now, call⟩ = (last, response) := by
  cases h with
  | updated hAnswer =>
      simp only [EthereumElc.exec, hAnswer]
      exact ⟨_, rfl⟩
  | misbehaved hAnswer =>
      simp only [EthereumElc.exec, hAnswer]
      exact ⟨_, rfl⟩
  | membership hAnswer =>
      simp only [EthereumElc.exec, hAnswer]
      exact ⟨_, rfl⟩
  | nonMembership hAnswer =>
      simp only [EthereumElc.exec, hAnswer]
      exact ⟨_, rfl⟩

/-- Every posted height has the revision number of the light client. -/
theorem eq_heightOf_of_posted (hRun : Transition.Run (machine E) trace store) {height : Height}
    {id : T.StateID} (h : trace.findSome? (Event.posted clientId height) = some id) :
    ∃ n, height = heightOf n := by
  obtain ⟨⟨request, response⟩, hMem, hPosted⟩ := List.exists_of_findSome?_eq_some h
  obtain ⟨before, after, m, n, -, -, hStep, -⟩ := hRun.split_of_mem hMem
  have hStep : EthereumElc.exec E m request = (n, response) := hStep
  cases exec_clientStep hStep clientId with
  | created hFresh hCreates =>
      simp only [Event.posted, creationResult] at hPosted
      split_ifs at hPosted with hHeight
      exact ⟨_, hHeight.2.symm⟩
  | updated hMessage hUpdates =>
      obtain ⟨prevId, postId, -, -, hProxy⟩ := hUpdates.message
      simp only [Event.posted, hProxy, updateMessage] at hPosted
      split_ifs at hPosted with hHeight
      exact ⟨_, hHeight.2.symm⟩
  | misbehaved => cases hPosted
  | idle hQuiet =>
      rw [Event.posted_eq_none hQuiet] at hPosted
      cases hPosted

/-- A state that was decoded is read back from the bytes that it is encoded to. -/
theorem ConsensusState.tryFromAny_encoded (hE : E.Lawful) {any encoded : Any} {s : ConsensusState T}
    (h : tryFromAny E any = .ok s) (hInto : s.tryIntoAny E = .ok encoded) :
    tryFromAny E encoded = .ok s := by
  obtain ⟨-, raw, -, hDecodes⟩ := tryFromAny_eq_ok.mp h
  exact tryFromAny_of_keys hE.toConvertsConsensusStates hInto
    ⟨_, hE.publicKey_decoded _ _ hDecodes.currentSyncCommittee⟩
    ⟨_, hE.publicKey_decoded _ _ hDecodes.nextSyncCommittee⟩

/-- Entries with the id that was posted last for a height are the honest ones, but
for the latest block number and the frozen height of the client. -/
theorem Represents.reads_of_posted (hE : E.Lawful) (hHash : E.CollisionFree)
    (h : Represents E clientId trace store t) (hActive : t.frozen = none) {ctx : HostClientReader}
    {n : U64} {c : ClientState} {s : ConsensusState T} {id : T.StateID}
    (hReads : Reads E ctx clientId (heightOf n) c s) (hId : genStateId E c s = .ok id)
    (hPosted : trace.findSome? (Event.posted clientId (heightOf n)) = some id) (now : Time) :
    Reads E (store.reader now) clientId (heightOf n) (ClientTracker.clientState t) s ∧
      (ClientTracker.clientState t).SameConfig c ∧ n ≤ t.latest := by
  obtain ⟨⟨anyClient, -, hc⟩, -, ⟨anyState, -, hs⟩⟩ := hReads
  rw [h.posted, Option.map_eq_some_iff] at hPosted
  obtain ⟨a, hStates, rfl⟩ := hPosted
  obtain ⟨any, hAny, hClient⟩ := h.clientState
  obtain ⟨x, y, hx, hy, hHashed⟩ := genStateId_eq_ok.mp hId
  obtain ⟨x', y', hx', hy', hHashed'⟩ := genStateId_eq_ok.mp (h.stateId n a hStates)
  obtain ⟨rfl, rfl⟩ := hHash _ _ _ _ _ hHashed hHashed'
  have hDecoded := ConsensusState.tryFromAny_encoded hE hs hy
  have hState : s = a.state :=
    ConsensusState.tryFromAny_tryIntoAny hE.toConvertsConsensusStates hy' hDecoded
  obtain ⟨anyState', hStored, hStores⟩ := h.stored_of_states hStates
  have hStored' : ConsensusState.tryFromAny E anyState' = .ok s := by
    rcases hStores with hFrom | hInto
    · rw [hFrom, hState]
    · rw [hy', Except.ok.injEq] at hInto
      rwa [← hInto]
  have hSame : (ClientTracker.clientState t).SameConfig c :=
    ClientState.sameConfig_of_tryIntoAny_canonicalize hE.separating hClient hc
      (by rwa [clientState_sameConfig t]) hx
  refine ⟨⟨⟨any, Store.reader_clientState_eq_ok.mpr hAny, hClient⟩, ?_, ⟨anyState',
    Store.reader_consensusState_eq_ok.mpr hStored, hStored'⟩⟩, hSame, t.le_latest n ?_⟩
  · rw [ClientState.isFrozen, ClientTracker.clientState, hActive, Option.isSome_none]
  · rw [hStates, Option.isSome_some]

/-- A creation is answered without the host, so it opens an honest run. -/
theorem represents_of_createClient (hE : E.Lawful) (now : Time)
    {anyClientState anyConsensusState : Any} {result : CreateClientResult T}
    (h : createClient E anyClientState anyConsensusState = .ok result) :
    ∃ store t, Transition.Run (machine E)
        [(⟨now, .createClient clientId anyClientState anyConsensusState⟩, .created result)] store ∧
      Represents E clientId
        [(⟨now, .createClient clientId anyClientState anyConsensusState⟩, .created result)]
        store t := by
  have hStep : EthereumElc.exec E Store.empty
      ⟨now, .createClient clientId anyClientState anyConsensusState⟩ =
      ((Store.empty.putClientState clientId anyClientState).putConsensusState clientId result.height
        anyConsensusState, .created result) := by
    simp only [exec, h]
    rfl
  obtain ⟨c, s, id, hCreates, -⟩ := createClient_eq_ok.mp h
  have hRun := steps_exec (Transition.Steps.zero Store.empty) hStep
  obtain ⟨id, t, -, -, hRepresents⟩ := represents_of_created hE (.zero _) hStep hCreates.clientState
    hCreates.consensusState (.zero _)
  exact ⟨_, t, hRun, hRepresents⟩

/-- A host cannot make the enclave attest what an honest host would not have it
attest: however it mixes, replaces or rolls back its entries, a linked log is,
request by request, the log of a run that starts from an empty store. The chain must
check the links, and the hash of the ids must be free of collisions. -/
theorem linked_log_is_honest (hE : E.Lawful) (hHash : E.CollisionFree)
    (hHeights : E.BoundsProofHeight) {log : Transition.Trace Request (Response T)}
    (hLog : LinkedLog E clientId log) :
    ∃ trace store, Transition.Run (machine E) trace store ∧ AttestedAlike log trace := by
  suffices hHonest : ∃ trace store t, Transition.Run (machine E) trace store ∧
      AttestedAlike log trace ∧ Represents E clientId trace store t by
    obtain ⟨trace, store, t, hRun, hAlike, -⟩ := hHonest
    exact ⟨trace, store, hRun, hAlike⟩
  induction hLog with
  | @created now anyClientState anyConsensusState result hAnswer =>
      obtain ⟨store, t, hRun, hRepresents⟩ := represents_of_createClient hE now hAnswer
      exact ⟨_, store, t, hRun, rfl, hRepresents⟩
  | @answered log ctx call response _ hUnpunished hAnswer hLinked ih =>
      obtain ⟨trace, store, t, hRun, hAlike, hRepresents⟩ := ih
      have hActive : t.frozen = none := by
        rw [← hRepresents.punished, ← hAlike.punished_eq, hUnpunished]
      obtain ⟨height, c, s, id, hReads, hId, hReference, hReplay⟩ := hAnswer.replay hE hHeights
      have hPosted := hLinked _ hReference
      rw [hAlike.posted_eq] at hPosted
      obtain ⟨n, rfl⟩ := eq_heightOf_of_posted hRun hPosted
      obtain ⟨hHonest, hSame, hLatest⟩ :=
        hRepresents.reads_of_posted hE hHash hActive hReads hId hPosted ctx.hostTimestamp
      obtain ⟨response', hAnswer', hAttested⟩ := hReplay _ _ n rfl hHonest hSame hLatest rfl
      obtain ⟨store', hStep⟩ := hAnswer'.exec
      obtain ⟨t', -, hRepresents'⟩ := hRepresents.step hE hStep
      exact ⟨_, store', t', steps_exec hRun hStep, hAlike.cons _ hAttested, hRepresents'⟩

section Relayed

open Reference

/-- The host rolls the relayed client back to its creation before it forwards the
header of block 3. -/
def rolledBackLog : Transition.Trace Request (Response types) :=
  (⟨relayTime, .updateClient relayed (headerAny 1 6 0)⟩,
    .updated (updateData (clientState 1) 1 2 6 0)) :: relayedTrace

theorem relayed_linked : LinkedLog externals relayed relayedTrace := by
  have hCreate := createClient_eq_ok.mpr
    ⟨_, _, _, creates (by decide : (1 : U64) ≠ 0) consensusState_two_valid, rfl⟩
  have hUpdates := updates acceptable_four (clientState_sameConfig 1 1) 0
    (createdStore_reads relayTime relayed 1 (consensusState 2))
  have hData := updateState_eq_ok.mpr ⟨_, _, _, hUpdates⟩
  exact .answered (.created hCreate) rfl
    (.updated (updateClient_eq_ok.mpr (.inl ⟨_, _, tryFromAny_headerAny 1 4 0, hData, rfl⟩)))
    (List.forall_mem_singleton.mpr rfl)

/-- The rolled back update is one that an honest host could have had. -/
theorem rolledBackLog_is_honest : ∃ trace store,
    Transition.Run (machine externals) trace store ∧ AttestedAlike rolledBackLog trace := by
  have hUpdates := updates (by decide : Acceptable relayTime 2 6) (clientState_sameConfig 1 1) 0
    (createdStore_reads relayTime relayed 1 (consensusState 2))
  have hData := updateState_eq_ok.mpr ⟨_, _, _, hUpdates⟩
  have hAnswer := updateClient_eq_ok.mpr (.inl ⟨_, _, tryFromAny_headerAny 1 6 0, hData, rfl⟩)
  exact linked_log_is_honest externals_lawful externals_collisionFree externals_boundsProofHeight
    (.answered relayed_linked rfl (.updated hAnswer) (List.forall_mem_singleton.mpr rfl))

end Relayed

end EthereumElc
