import EthereumElc.Host.Entries
import EthereumElc.Properties.Decoding
import EthereumElc.Properties.Freezing
import EthereumElc.Properties.Isolation
import EthereumElc.Properties.UntrustedHost

/-! What the light client refuses, and how: no request aborts the enclave, a
frozen client fails in a known way, and no evidence is accepted twice. -/
namespace EthereumElc

open EthereumLightClient ClientTracker

variable {T : ExternalTypes} {E : Externals T} {clientId : ClientId} {store store' : Store}
  {trace later : Transition.Trace Request (Response T)}

section Returns

variable {ctx : HostClientReader}

/-- The encoder of client states returns, though it may fail. -/
theorem ClientState.tryIntoAny_returns (c : ClientState) : (c.tryIntoAny E).Returns :=
  (Outcome.returns_lift _ _).bind fun _ _ => Outcome.returns_ok _

theorem ConsensusState.tryIntoAny_returns (s : ConsensusState T) : (s.tryIntoAny E).Returns :=
  (Outcome.returns_lift _ _).bind fun _ _ => Outcome.returns_ok _

/-- An id is generated or an error is returned. -/
theorem genStateId_returns (c : ClientState) (s : ConsensusState T) :
    (genStateId E c s).Returns := by
  refine (ClientState.tryIntoAny_returns _).bind fun _ _ => ?_
  exact (ConsensusState.tryIntoAny_returns s).bind fun _ _ => Outcome.returns_lift _ _

/-- The validation of a client is a chain of checks. -/
theorem ClientState.validate_returns (c : ClientState) : (c.validate E).Returns := by
  unfold ClientState.validate
  repeat apply Outcome.returns_ite_error
  exact Outcome.returns_ok ()

theorem ConsensusState.validate_returns (s : ConsensusState T) : s.validate.Returns := by
  unfold ConsensusState.validate
  repeat apply Outcome.returns_ite_error
  exact Outcome.returns_ok ()

/-- A header is checked without an abort, whatever the verifiers say of it. -/
theorem ClientState.checkHeaderAndUpdateState_returns (c : ClientState) (now : Time)
    (s : ConsensusState T) (header : Header T) :
    (c.checkHeaderAndUpdateState E now s header).Returns := by
  have hValidate : (header.validate E).Returns :=
    (Outcome.returns_lift _ _).bind fun _ _ => Outcome.returns_rejectIf _ _
  have hTimestamp : (header.timestamp E (c.buildContext now)).Returns :=
    (Outcome.returns_lift _ _).bind fun _ _ => Outcome.returns_lift _ _
  refine hValidate.bind fun _ _ => hTimestamp.bind fun _ _ => ?_
  refine (Outcome.returns_lift _ _).bind fun _ _ => ?_
  refine (Outcome.returns_lift _ _).bind fun _ _ => ?_
  refine (Outcome.returns_lift _ _).bind fun _ _ => ?_
  refine (Outcome.returns_lift _ _).bind fun _ _ => ?_
  refine (Outcome.returns_lift _ _).bind fun _ _ => ?_
  exact (Outcome.returns_lift _ _).bind fun _ _ => Outcome.returns_ok _

theorem ClientState.checkMisbehaviourAndUpdateState_returns (c : ClientState) (now : Time)
    (clientId : ClientId) (s : ConsensusState T) (misbehaviour : Misbehaviour T) :
    (c.checkMisbehaviourAndUpdateState E now clientId s misbehaviour).Returns := by
  refine (Outcome.returns_lift _ _).bind fun _ _ => ?_
  refine (Outcome.returns_rejectIf _ _).bind fun _ _ => ?_
  refine (Outcome.returns_lift _ _).bind fun _ _ => ?_
  refine (Outcome.returns_lift _ _).bind fun _ _ => ?_
  exact (Outcome.returns_lift _ _).bind fun _ _ => Outcome.returns_ok _

/-- The shared beginning of the operations returns when the rest does. -/
theorem reads_bind_returns {β : Type} {height : Height}
    {k : ClientState → ConsensusState T → Result β} (hRest : ∀ c s, (k c s).Returns) :
    Outcome.Returns (do
      let anyClientState ← Outcome.lift Error.lightClient (ctx.clientState clientId)
      let anyConsensusState ← Outcome.lift Error.lightClient (ctx.consensusState clientId height)
      let clientState ← ClientState.tryFromAny E anyClientState
      Outcome.rejectIf (clientState.isFrozen = true) (Error.clientFrozen clientId)
      let consensusState ← ConsensusState.tryFromAny E anyConsensusState
      k clientState consensusState) := by
  refine (Outcome.returns_lift _ _).bind fun anyC _ => ?_
  refine (Outcome.returns_lift _ _).bind fun anyS _ => ?_
  refine (ClientState.tryFromAny_returns anyC).bind fun c _ => ?_
  refine (Outcome.returns_rejectIf _ _).bind fun _ _ => ?_
  exact (ConsensusState.tryFromAny_returns anyS).bind fun s _ => hRest c s

theorem createClient_returns (anyClientState anyConsensusState : Any) :
    (createClient E anyClientState anyConsensusState).Returns := by
  refine (ClientState.tryFromAny_returns anyClientState).bind fun c _ => ?_
  refine (ClientState.validate_returns c).bind fun _ _ => ?_
  refine (Outcome.returns_rejectIf _ _).bind fun _ _ => ?_
  refine (ConsensusState.tryFromAny_returns anyConsensusState).bind fun s _ => ?_
  refine (ConsensusState.validate_returns s).bind fun _ _ => ?_
  exact (genStateId_returns c s).bind fun _ _ => Outcome.returns_ok _

theorem updateState_returns (header : Header T) : (updateState E ctx clientId header).Returns := by
  apply reads_bind_returns
  intro c s
  refine (ClientState.checkHeaderAndUpdateState_returns c _ s header).bind fun result _ => ?_
  refine (genStateId_returns c s).bind fun _ _ => ?_
  refine (genStateId_returns result.1 result.2).bind fun _ _ => ?_
  refine (ClientState.tryIntoAny_returns result.1).bind fun _ _ => ?_
  exact (ConsensusState.tryIntoAny_returns result.2).bind fun _ _ => Outcome.returns_ok _

/-- The loop over the heights returns, whatever is stored at each of them. -/
theorem makePrevStates_returns (c : ClientState) (heights : List Height) :
    (makePrevStates E ctx clientId c heights).Returns := by
  apply Outcome.returns_mapM
  intro height
  refine (Outcome.returns_lift _ _).bind fun any _ => ?_
  refine (ConsensusState.tryFromAny_returns any).bind fun s _ => ?_
  exact (genStateId_returns c s).bind fun _ _ => Outcome.returns_ok _

theorem submitMisbehaviour_returns (anyMessage : Any) (misbehaviour : Misbehaviour T) :
    (submitMisbehaviour E ctx clientId anyMessage misbehaviour).Returns := by
  apply reads_bind_returns
  intro c s
  refine (ClientState.checkMisbehaviourAndUpdateState_returns c _ clientId s misbehaviour).bind
    fun c' _ => ?_
  refine (ClientState.tryIntoAny_returns c').bind fun _ _ => ?_
  exact (makePrevStates_returns c _).bind fun _ _ => Outcome.returns_ok _

/-- Every client message is answered, also one that does not decode. -/
theorem updateClient_returns (anyMessage : Any) :
    (updateClient E ctx clientId anyMessage).Returns := by
  refine (ClientMessage.tryFromAny_returns anyMessage).bind fun message _ => ?_
  cases message with
  | header header => exact (updateState_returns header).bind fun _ _ => Outcome.returns_ok _
  | misbehaviour misbehaviour =>
      exact (submitMisbehaviour_returns anyMessage misbehaviour).bind fun _ _ =>
        Outcome.returns_ok _

/-- Every proof is answered, whatever its path and its height are. -/
theorem verifyMembership_returns (commitmentPrefix : Bytes) (path : String) (value : Bytes)
    (proofHeight : Height) (proof : Bytes) :
    (verifyMembership E ctx clientId commitmentPrefix path value proofHeight proof).Returns := by
  apply reads_bind_returns
  intro c s
  refine (Outcome.returns_lift _ _).bind fun _ _ => ?_
  exact (genStateId_returns c s).bind fun _ _ => Outcome.returns_ok _

theorem verifyNonMembership_returns (commitmentPrefix : Bytes) (path : String)
    (proofHeight : Height) (proof : Bytes) :
    (verifyNonMembership E ctx clientId commitmentPrefix path proofHeight proof).Returns := by
  apply reads_bind_returns
  intro c s
  refine (Outcome.returns_lift _ _).bind fun _ _ => ?_
  exact (genStateId_returns c s).bind fun _ _ => Outcome.returns_ok _

end Returns

/-- No request aborts the enclave, whatever the host has stored. -/
theorem exec_ne_abort {request : Request} {response : Response T}
    (hStep : exec E store request = (store', response)) (message : String) :
    response ≠ .failed (.abort message) := by
  obtain ⟨now, call⟩ := request
  rintro rfl
  cases call with
  | createClient other anyClientState anyConsensusState =>
      simp only [exec] at hStep
      split_ifs at hStep
      · split at hStep
        · cases hStep
        · rename_i failure hResult
          cases hStep
          exact createClient_returns _ _ _ hResult
      · cases hStep
  | updateClient other anyMessage =>
      simp only [exec] at hStep
      split at hStep
      · cases hStep
      · cases hStep
      · rename_i failure hResult
        cases hStep
        exact updateClient_returns _ _ hResult
  | verifyMembership other commitmentPrefix path value proofHeight proof =>
      simp only [exec] at hStep
      split at hStep
      · cases hStep
      · rename_i failure hResult
        cases hStep
        exact verifyMembership_returns _ _ _ _ _ _ hResult
  | verifyNonMembership other commitmentPrefix path proofHeight proof =>
      simp only [exec] at hStep
      split at hStep
      · cases hStep
      · rename_i failure hResult
        cases hStep
        exact verifyNonMembership_returns _ _ _ _ _ hResult

/-- A host cannot make the light client panic: from any store, with any bytes in
its entries and in its messages, every request of every run is answered with a
value or with an error, as long as the functions of other crates return. -/
theorem never_aborts (hSteps : Transition.Steps (machine E) store later store') :
    ∀ event ∈ later, ∀ message, event.2 ≠ .failed (.abort message) := by
  intro event hMem
  obtain ⟨before, after, m, n, -, -, hStep, -⟩ := hSteps.split_of_mem hMem
  exact exec_ne_abort hStep

/-- The height whose state a client message relies on. -/
def ClientMessage.trustedHeight : ClientMessage T → Height
  | .header message => message.trustedHeight
  | .misbehaviour message => message.trustedHeight

/-- The error of a frozen client on a height: the entries are looked up first. -/
def frozenError (trace : Transition.Trace Request (Response T)) (clientId : ClientId)
    (height : Height) : Error :=
  if (trace.findSome? (Event.posted clientId height)).isSome then .clientFrozen clientId
  else .lightClient ⟨"consensus state not found"⟩

/-- The response of a frozen client to a call, from the record of the client only. -/
def frozenResponse (E : Externals T) (trace : Transition.Trace Request (Response T))
    (clientId : ClientId) : Call → Response T
  | .createClient _ _ _ => .clientIdInUse
  | .updateClient _ anyMessage =>
      match ClientMessage.tryFromAny E anyMessage with
      | .ok message => .failed (.error (frozenError trace clientId message.trustedHeight))
      | .error failure => .failed failure
  | .verifyMembership _ _ _ _ height _ => .failed (.error (frozenError trace clientId height))
  | .verifyNonMembership _ _ _ height _ => .failed (.error (frozenError trace clientId height))

/-- A height holds a consensus state exactly when one was posted for it. -/
theorem Represents.isSome_consensusState {t : ClientTracker T}
    (h : Represents E clientId trace store t) (hRun : Transition.Run (machine E) trace store)
    (height : Height) : (store.consensusState clientId height).isSome =
      (trace.findSome? (Event.posted clientId height)).isSome := by
  rw [Bool.eq_iff_iff, Option.isSome_iff_exists, Option.isSome_iff_exists]
  constructor
  · rintro ⟨any, hAny⟩
    obtain ⟨n, a, rfl, hStates, -⟩ := h.states_of_stored hAny
    exact ⟨a.stateId, by rw [h.posted, hStates, Option.map_some]⟩
  · rintro ⟨id, hPosted⟩
    obtain ⟨n, rfl⟩ := eq_heightOf_of_posted hRun hPosted
    rw [h.posted, Option.map_eq_some_iff] at hPosted
    obtain ⟨a, hStates, -⟩ := hPosted
    obtain ⟨any, hAny, -⟩ := h.stored_of_states hStates
    exact ⟨any, hAny⟩

/-- The shared beginning of the operations on a frozen client never goes further. -/
theorem Represents.withEntries_frozen {β : Type} {t : ClientTracker T}
    (h : Represents E clientId trace store t) (hRun : Transition.Run (machine E) trace store)
    (hFrozen : t.frozen ≠ none) (height : Height) (k : ClientState → ConsensusState T → Result β) :
    withEntries clientId (store.decodedClient E clientId) (store.decodedConsensus E clientId height)
      k = .error (.error (frozenError trace clientId height)) := by
  obtain ⟨any, hAny, hClient⟩ := h.clientState
  have hIsFrozen : (ClientTracker.clientState t).isFrozen = true :=
    Option.isSome_iff_ne_none.mpr hFrozen
  rw [frozenError, ← h.isSome_consensusState hRun, Store.decodedClient, hAny, Option.map_some,
    hClient, Store.decodedConsensus]
  cases store.consensusState clientId height with
  | none => rfl
  | some anyState =>
      rw [Option.map_some, withEntries, Outcome.ok_bind, Outcome.rejectIf_of _ hIsFrozen]
      rfl

/-- A frozen client refuses every message that decodes, with an error that depends
on the trusted height and on the record only. -/
theorem Represents.updateClient_frozen {t : ClientTracker T}
    (h : Represents E clientId trace store t) (hRun : Transition.Run (machine E) trace store)
    (hFrozen : t.frozen ≠ none) (now : Time) {anyMessage : Any} {message : ClientMessage T}
    (hMessage : ClientMessage.tryFromAny E anyMessage = .ok message) :
    updateClient E (store.reader now) clientId anyMessage =
      .error (.error (frozenError trace clientId message.trustedHeight)) := by
  rw [updateClient, hMessage, Outcome.ok_bind]
  cases message with
  | header header =>
      have hData : updateState E (store.reader now) clientId header =
          .error (.error (frozenError trace clientId header.trustedHeight)) := by
        rw [updateState, reads_bind_eq_withEntries]
        exact h.withEntries_frozen hRun hFrozen _ _
      simp only [hData]
      rfl
  | misbehaviour misbehaviour =>
      have hData : submitMisbehaviour E (store.reader now) clientId anyMessage misbehaviour =
          .error (.error (frozenError trace clientId misbehaviour.trustedHeight)) := by
        rw [submitMisbehaviour, reads_bind_eq_withEntries]
        exact h.withEntries_frozen hRun hFrozen _ _
      simp only [hData]
      rfl

/-- Every request on a frozen client is refused as its record says. -/
theorem Represents.exec_frozen {t : ClientTracker T} (h : Represents E clientId trace store t)
    (hRun : Transition.Run (machine E) trace store) (hFrozen : t.frozen ≠ none)
    {request : Request} (hNames : request.call.clientId = clientId) :
    exec E store request = (store, frozenResponse E trace clientId request.call) := by
  obtain ⟨now, call⟩ := request
  cases call with
  | createClient other anyClientState anyConsensusState =>
      obtain rfl : other = clientId := hNames
      obtain ⟨any, hAny, -⟩ := h.clientState
      simp only [exec, hAny, reduceCtorEq, if_false, frozenResponse]
  | updateClient other anyMessage =>
      obtain rfl : other = clientId := hNames
      cases hMessage : ClientMessage.tryFromAny E anyMessage with
      | error failure =>
          have hResult : updateClient E (store.reader now) other anyMessage = .error failure := by
            rw [updateClient, hMessage]
            rfl
          simp only [exec, hResult, frozenResponse, hMessage]
      | ok message =>
          have hResult := h.updateClient_frozen hRun hFrozen now hMessage
          simp only [exec, hResult, frozenResponse, hMessage]
  | verifyMembership other commitmentPrefix path value proofHeight proof =>
      obtain rfl : other = clientId := hNames
      simp only [exec, verifyMembership, reads_bind_eq_withEntries,
        h.withEntries_frozen hRun hFrozen, frozenResponse]
  | verifyNonMembership other commitmentPrefix path proofHeight proof =>
      obtain rfl : other = clientId := hNames
      simp only [exec, verifyNonMembership, reads_bind_eq_withEntries,
        h.withEntries_frozen hRun hFrozen, frozenResponse]

/-- After a punishment every answer on the client is known in advance, for as long
as the host runs: it is a function of the call and of the record that the client had
when it was punished. The error tells a height without a state from a height with
one, since the entries are looked up before the gate. -/
theorem frozen_answers_known (hE : E.Lawful) (hRun : Transition.Run (machine E) trace store)
    {height : Height} (hPunished : trace.findSome? (Event.punished E clientId) = some height)
    (hSteps : Transition.Steps (machine E) store later store') :
    ∀ event ∈ later, event.1.call.clientId = clientId →
      event.2 = frozenResponse E trace clientId event.1.call := by
  rcases absent_or_represents hE hRun clientId with hAbsent | ⟨-, -, -, t, -, hRepresents⟩
  · rw [hAbsent.punished] at hPunished
    cases hPunished
  · have hFrozen : t.frozen ≠ none := by
      rw [← hRepresents.punished, hPunished]
      exact Option.some_ne_none height
    obtain ⟨any, hAny, hClient⟩ := hRepresents.clientState
    rintro ⟨request, response⟩ hMem hNames
    obtain ⟨before, after, m, n, -, hBefore, hStep, -⟩ := hSteps.split_of_mem hMem
    -- The entries of the client are still those that it was punished with.
    obtain ⟨hSameClient, hSameConsensus⟩ :=
      frozen_steps hAny hClient (Option.isSome_iff_ne_none.mpr hFrozen) hBefore
    have hSame : SameClient clientId m store := ⟨hSameClient.symm, hSameConsensus.symm⟩
    obtain ⟨last, hAnswer, -⟩ := (sameClient_indifferent E clientId).exec hSame hNames hStep
    rw [hRepresents.exec_frozen hRun hFrozen hNames] at hAnswer
    exact (congrArg Prod.snd hAnswer).symm

section Relayed

open Reference

/-- The relayed client, punished with two headers for block 3. -/
def punishedTrace : Transition.Trace Request (Response types) :=
  (⟨relayTime, .updateClient relayed (misbehaviourAny relayed 2 6 0 1)⟩,
    .misbehaved (misbehaviourData (clientState 2) relayed 2 4 6 0 1)) :: relayedTrace

theorem punishedStore_run :
    Transition.Run (machine externals) punishedTrace punishedStore :=
  steps_exec relayedStore_run (exec_misbehaviourAny (by decide) acceptable_six
    (by decide : (0 : U64) ≠ 1) (clientState_sameConfig 2 2) (relayedStore_reads relayTime))

/-- It answers for height 3 that there is no state, and for height 2 that it is frozen. -/
theorem punished_answers_known :
    (exec externals punishedStore
        ⟨relayTime, .verifyMembership relayed [] "clients" [] ⟨0, 3⟩ []⟩).2 =
      .failed (.error (.lightClient ⟨"consensus state not found"⟩)) ∧
    (exec externals punishedStore
        ⟨relayTime, .verifyMembership relayed [] "clients" [] ⟨0, 2⟩ []⟩).2 =
      .failed (.error (.clientFrozen relayed)) := by
  have hPunished : punishedTrace.findSome? (Event.punished externals relayed) = some ⟨0, 2⟩ := by
    have hMessage := tryFromAny_misbehaviourAny (by decide : relayed.asStr ≠ "") 2 6 0 1
    rw [punishedTrace, List.findSome?_cons]
    simp only [Event.punished, if_true, hMessage]
    rfl
  have hAnswer (request : Request) (hNames : request.call.clientId = relayed) :
      (exec externals punishedStore request).2 =
        frozenResponse externals punishedTrace relayed request.call :=
    frozen_answers_known externals_lawful punishedStore_run hPunished
      (steps_exec (.zero punishedStore) rfl) (request, _) List.mem_cons_self hNames
  exact ⟨hAnswer _ rfl, hAnswer _ rfl⟩

end Relayed

/-- The client that an accepted request punished, and the evidence for it. -/
def Event.conviction : Event T → Option (ClientId × Any)
  | (⟨_, .updateClient clientId anyMessage⟩, .misbehaved _) => some (clientId, anyMessage)
  | _ => none

theorem Event.conviction_eq_some {event : Event T} {anyMessage : Any}
    (h : event.conviction = some (clientId, anyMessage)) :
    ∃ now data, event = (⟨now, .updateClient clientId anyMessage⟩, .misbehaved data) := by
  unfold Event.conviction at h
  split at h
  · cases h
    exact ⟨_, _, rfl⟩
  · cases h

/-- Evidence convicts the client that it names, and freezes it. -/
theorem conviction_spec (hE : E.Lawful) (hRun : Transition.Run (machine E) trace store)
    {anyMessage : Any} (hMem : (clientId, anyMessage) ∈ trace.filterMap Event.conviction) :
    ∃ misbehaviour any c, ClientMessage.tryFromAny E anyMessage = .ok (.misbehaviour misbehaviour) ∧
      misbehaviour.clientId = clientId ∧ store.clientState clientId = some any ∧
      ClientState.tryFromAny E any = .ok c ∧ c.isFrozen = true := by
  obtain ⟨event, hEvent, hConviction⟩ := List.mem_filterMap.mp hMem
  obtain ⟨now, data, rfl⟩ := Event.conviction_eq_some hConviction
  obtain ⟨misbehaviour, any, c, hMessage, hAny, hClient, hFrozen⟩ :=
    frozenHeight_of_misbehaved hE hRun hEvent
  obtain ⟨before, after, m, n, -, -, hStep, -⟩ := hRun.split_of_mem hEvent
  obtain ⟨hData, -⟩ := (exec_misbehaved_of_evidence hMessage).mp hStep
  obtain ⟨c', s, hPunishes⟩ := submitMisbehaviour_eq_ok.mp hData
  refine ⟨misbehaviour, any, c, hMessage, hPunishes.accepts.clientId, hAny, hClient, ?_⟩
  rw [ClientState.isFrozen, hFrozen, Option.isSome_some]

/-- A client that is punished was not before, and its evidence was not used before. -/
theorem not_convicted_before (hE : E.Lawful) (hRun : Transition.Run (machine E) trace store)
    {now : Time} {anyMessage : Any} {data : MisbehaviourData T}
    (hStep : exec E store ⟨now, .updateClient clientId anyMessage⟩ = (store', .misbehaved data)) :
    ∀ conviction ∈ trace.filterMap Event.conviction,
      clientId ≠ conviction.1 ∧ anyMessage ≠ conviction.2 := by
  obtain ⟨misbehaviour, hMessage, hData, -⟩ := exec_misbehaved.mp hStep
  obtain ⟨c, s, hPunishes⟩ := submitMisbehaviour_eq_ok.mp hData
  have hActive (evidence : Any) : (clientId, evidence) ∉ trace.filterMap Event.conviction := by
    intro hMem
    obtain ⟨-, any, d, -, -, hAny, hd, hFrozen⟩ := conviction_spec hE hRun hMem
    obtain rfl := hPunishes.reads.client_eq hAny hd
    rw [hPunishes.reads.notFrozen] at hFrozen
    cases hFrozen
  rintro ⟨other, evidence⟩ hMem
  constructor
  · rintro rfl
    exact hActive evidence hMem
  · rintro rfl
    obtain ⟨_, -, -, hDecoded, hNamed, -⟩ := conviction_spec hE hRun hMem
    rw [hMessage, Except.ok.injEq, ClientMessage.misbehaviour.injEq] at hDecoded
    subst hDecoded
    rw [hPunishes.accepts.clientId] at hNamed
    subst hNamed
    exact hActive _ hMem

/-- Nothing is held against a client twice: over a whole run, no client is punished
twice and no evidence is accepted twice, for whatever clients it is submitted.
Evidence names its client, so the second follows from the first; two different
messages may still prove one fork, against two clients. -/
theorem evidence_accepted_once (hE : E.Lawful) (hRun : Transition.Run (machine E) trace store) :
    ((trace.filterMap Event.conviction).map Prod.fst).Nodup ∧
      ((trace.filterMap Event.conviction).map Prod.snd).Nodup := by
  have hInvariant := hRun.invariant (fun trace store => Transition.Run (machine E) trace store ∧
      ((trace.filterMap Event.conviction).map Prod.fst).Nodup ∧
      ((trace.filterMap Event.conviction).map Prod.snd).Nodup)
    ⟨.zero _, List.nodup_nil, List.nodup_nil⟩ ?_
  · exact hInvariant.2
  · rintro trace m request response n ⟨hPrior, hClients, hEvidence⟩ hStep
    refine ⟨hPrior.succ hStep, ?_⟩
    cases hConviction : Event.conviction (request, response) with
    | none =>
        rw [List.filterMap_cons_none hConviction]
        exact ⟨hClients, hEvidence⟩
    | some conviction =>
        obtain ⟨now, data, hEvent⟩ := Event.conviction_eq_some hConviction
        rw [Prod.mk.injEq] at hEvent
        obtain ⟨rfl, rfl⟩ := hEvent
        have hNew := not_convicted_before hE hPrior hStep
        rw [List.filterMap_cons_some hConviction, List.map_cons, List.map_cons, List.nodup_cons,
          List.nodup_cons]
        refine ⟨⟨?_, hClients⟩, ?_, hEvidence⟩
        · intro hMem
          obtain ⟨other, hOther, hSame⟩ := List.mem_map.mp hMem
          exact (hNew other hOther).1 hSame.symm
        · intro hMem
          obtain ⟨other, hOther, hSame⟩ := List.mem_map.mp hMem
          exact (hNew other hOther).2 hSame.symm

section Relayed

open Reference

/-- The evidence that froze the relayed client is refused when it is sent again. -/
theorem punishedStore_refuses :
    exec externals punishedStore
        ⟨relayTime, .updateClient relayed (misbehaviourAny relayed 2 6 0 1)⟩ =
      (punishedStore, .failed (.error (.clientFrozen relayed))) := by
  have hId : relayed.asStr ≠ "" := by decide
  obtain ⟨-, -, -, t, -, hRepresents⟩ :=
    represents_of_stored externals_lawful punishedStore_run punishedStore_clientState
  have hFrozen : t.frozen ≠ none :=
    (hRepresents.frozen_iff punishedStore_run).mpr ⟨_, _, _, List.mem_cons_self ..⟩
  rw [hRepresents.exec_frozen punishedStore_run hFrozen rfl]
  simp only [frozenResponse, tryFromAny_misbehaviourAny hId]
  rfl

/-- A run that punishes two clients, the relayed one and a neighbour, with a second
submission of the first evidence in between. -/
def convictedTrace : Transition.Trace Request (Response types) :=
  (⟨relayTime, .updateClient neighbour (misbehaviourAny neighbour 1 4 0 1)⟩,
      .misbehaved (misbehaviourData (clientState 1) neighbour 1 2 4 0 1)) ::
    (createRequest relayTime neighbour 1 (consensusState 2),
      .created (createResult 1 (consensusState 2))) ::
    (⟨relayTime, .updateClient relayed (misbehaviourAny relayed 2 6 0 1)⟩,
      .failed (.error (.clientFrozen relayed))) :: punishedTrace

/-- The second submission is refused, and the neighbour is punished after it. -/
theorem convictedTrace_run : ∃ store, Transition.Run (machine externals) convictedTrace store := by
  have hRefused := steps_exec punishedStore_run punishedStore_refuses
  have hShared := steps_exec hRefused (exec_neighbour (by decide))
  have hPunished := exec_misbehaviourAny (by decide : neighbour.asStr ≠ "") acceptable_four
    (by decide : (0 : U64) ≠ 1) (clientState_sameConfig 1 1)
    (sharedStore_reads punishedStore relayTime)
  exact ⟨_, steps_exec hShared hPunished⟩

/-- Two evidences were accepted, for two clients, and neither of them twice. -/
theorem punished_evidence_once :
    convictedTrace.filterMap Event.conviction =
        [(neighbour, misbehaviourAny neighbour 1 4 0 1),
          (relayed, misbehaviourAny relayed 2 6 0 1)] ∧
      ((convictedTrace.filterMap Event.conviction).map Prod.fst).Nodup ∧
      ((convictedTrace.filterMap Event.conviction).map Prod.snd).Nodup := by
  obtain ⟨store, hRun⟩ := convictedTrace_run
  exact ⟨rfl, evidence_accepted_once externals_lawful hRun⟩

end Relayed

end EthereumElc
