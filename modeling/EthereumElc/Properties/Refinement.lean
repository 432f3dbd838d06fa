import EthereumElc.Properties.Isolation
import EthereumElc.Properties.UntrustedHost

/-! The other half of the simulation: whatever the rules of a tracker allow, the
enclave accepts from the bytes, the store and the clock that it is given. -/
namespace EthereumElc

open EthereumLightClient ClientTracker

variable {T : ExternalTypes} {E : Externals T} {clientId : ClientId}
  {trace : Transition.Trace Request (Response T)} {store : Store} {t : ClientTracker T}

/-- The state at a height that a tracker relies on. A frozen tracker relies on none. -/
structure ClientTracker.Trusts (t : ClientTracker T) (height : Height) (a : Attested T) : Prop where
  active : t.frozen = none
  state : ∃ n, height = heightOf n ∧ t.states n = some a

/-- All states of a tracker are read back from their bytes. -/
def ClientTracker.StatesReadable (E : Externals T) (t : ClientTracker T) : Prop :=
  ∀ n a, t.states n = some a → Readable E a.state

/-- Every client that is stored in a reachable store is a tracker whose states are
all read back. Computed keys are assumed to be accepted by their decoder. -/
theorem represents_readable (hE : E.Lawful) (hKeys : E.AcceptsComputedKeys)
    (hRelevant : E.RejectsIrrelevant) (hRun : Transition.Run (machine E) trace store) {any : Any}
    (hAny : store.clientState clientId = some any) :
    ∃ t, Represents E clientId trace store t ∧ StatesReadable E t := by
  obtain ⟨c, s, id, t, hTracked, hRepresents⟩ := represents_of_stored hE hRun hAny
  exact ⟨t, hRepresents, fun n a hStates => hTracked.readable hE hKeys hRelevant hStates⟩

/-- A tracked state is read back from the bytes at its height. -/
theorem Represents.decoded_of_states (hE : E.Lawful) (h : Represents E clientId trace store t)
    (hReadable : StatesReadable E t) {n : U64} {a : Attested T} (hStates : t.states n = some a) :
    ∃ any, store.consensusState clientId (heightOf n) = some any ∧
      ConsensusState.tryFromAny E any = .ok a.state := by
  obtain ⟨any, hAny, hStores⟩ := h.stored_of_states hStates
  exact ⟨any, hAny, hStores.tryFromAny hE (hReadable n a hStates)⟩

/-- An operation reads exactly what the tracker relies on. -/
theorem Represents.reads_iff (hE : E.Lawful) (h : Represents E clientId trace store t)
    (hReadable : StatesReadable E t) {now : Time} {height : Height} {c : ClientState}
    {s : ConsensusState T} :
    Reads E (store.reader now) clientId height c s ↔
      c = ClientTracker.clientState t ∧ ∃ a, t.Trusts height a ∧ s = a.state := by
  constructor
  · intro hReads
    obtain ⟨hClient, hActive, n, a, hHeight, hStates, hState⟩ := h.of_reads hE hReads
    exact ⟨hClient, a, ⟨hActive, n, hHeight, hStates⟩, hState⟩
  · rintro ⟨rfl, a, ⟨hActive, n, rfl, hStates⟩, rfl⟩
    obtain ⟨any, hAny, hClient⟩ := h.clientState
    obtain ⟨anyState, hAnyState, hState⟩ := h.decoded_of_states hE hReadable hStates
    refine ⟨⟨any, Store.reader_clientState_eq_ok.mpr hAny, hClient⟩, ?_,
      ⟨anyState, Store.reader_consensusState_eq_ok.mpr hAnyState, hState⟩⟩
    rw [ClientState.isFrozen, ClientTracker.clientState, hActive, Option.isSome_none]

/-- What a tracker relies on is read from the store at any host time. -/
theorem Represents.reads_of_trusts (hE : E.Lawful) (h : Represents E clientId trace store t)
    (hReadable : StatesReadable E t) (now : Time) {height : Height} {a : Attested T}
    (hTrusts : t.Trusts height a) :
    Reads E (store.reader now) clientId height (ClientTracker.clientState t) a.state :=
  (h.reads_iff hE hReadable).mpr ⟨rfl, a, hTrusts, rfl⟩

/-- Once the checks pass, the rest of an update does not fail: the ids are
generated and the new states are encoded. -/
theorem exists_updates (hIds : E.GeneratesIds) {ctx : HostClientReader} {header : Header T}
    {c : ClientState} {s : ConsensusState T} {time : Time} {keys : NewSyncCommittees T}
    (hReads : Reads E ctx clientId header.trustedHeight c s)
    (hAccepts : c.AcceptsHeader E ctx.hostTimestamp s header time keys) :
    ∃ data, Updates E ctx clientId header c s (header.newConsensusState time keys) data := by
  obtain ⟨prevId, hPrev⟩ := hIds.exists_genStateId c s
  obtain ⟨postId, hPost⟩ := hIds.exists_genStateId c (header.newConsensusState time keys)
  obtain ⟨clientBytes, hClient⟩ :=
    hIds.clientState ((c.withLatestBlock header.executionUpdate.blockNumber).intoRaw E)
  obtain ⟨stateBytes, hState⟩ :=
    hIds.consensusState ((header.newConsensusState time keys).intoRaw E)
  exact ⟨⟨⟨ETHEREUM_CLIENT_STATE_TYPE_URL, clientBytes⟩,
      ⟨ETHEREUM_CONSENSUS_STATE_TYPE_URL, stateBytes⟩, header.height,
      updateMessage c header s (header.newConsensusState time keys) prevId postId, true⟩,
    hReads, ⟨time, keys, hAccepts, rfl⟩, ⟨prevId, postId, hPrev, hPost, rfl⟩,
    ClientState.tryIntoAny_eq_ok.mpr ⟨rfl, hClient⟩,
    ConsensusState.tryIntoAny_eq_ok.mpr ⟨rfl, hState⟩, rfl, rfl⟩

/-- Once the check of evidence passes, the rest of the call does not fail. -/
theorem exists_punishes (hIds : E.GeneratesIds) {ctx : HostClientReader} (anyMessage : Any)
    {misbehaviour : Misbehaviour T} {c : ClientState} {s : ConsensusState T}
    (hReads : Reads E ctx clientId misbehaviour.trustedHeight c s)
    (hAccepts : c.AcceptsMisbehaviour E ctx.hostTimestamp clientId s misbehaviour) :
    ∃ data, Punishes E ctx clientId anyMessage misbehaviour c s data := by
  obtain ⟨id, hId⟩ := hIds.exists_genStateId c s
  obtain ⟨bytes, hBytes⟩ :=
    hIds.clientState ((c.withFrozenHeight misbehaviour.trustedHeight).intoRaw E)
  exact ⟨⟨⟨ETHEREUM_CLIENT_STATE_TYPE_URL, bytes⟩,
      misbehaviourMessage c s misbehaviour.trustedHeight id anyMessage⟩,
    hReads, hAccepts, ClientState.tryIntoAny_eq_ok.mpr ⟨rfl, hBytes⟩, ⟨id, hId, rfl⟩⟩

/-- A tracked state is determined by its id and by the state that the id is for. -/
theorem Attested.eq_of_genStateId {c : ClientState} {a a' : Attested T}
    (hState : a'.state = a.state) (h : genStateId E c a.state = .ok a.stateId)
    (h' : genStateId E c a'.state = .ok a'.stateId) : a' = a := by
  rw [hState, h, Except.ok.injEq] at h'
  cases a
  cases a'
  simp_all

/-- The host accepts a header that the rules allow, and then holds the advanced tracker. -/
theorem Represents.exec_header (hE : E.Lawful) (hIds : E.GeneratesIds)
    (h : Represents E clientId trace store t) (hReadable : StatesReadable E t) {now : Time}
    {anyMessage : Any} {header : Header T} {a a' : Attested T} {time : Time}
    {keys : NewSyncCommittees T}
    (hMessage : ClientMessage.tryFromAny E anyMessage = .ok (.header header))
    (hTrusts : t.Trusts header.trustedHeight a)
    (hAccepts : t.config.AcceptsHeader E now a.state header time keys)
    (hState : a'.state = header.newConsensusState time keys)
    (hId : genStateId E t.config a'.state = .ok a'.stateId) :
    ∃ last data,
      exec E store ⟨now, .updateClient clientId anyMessage⟩ = (last, .updated data) ∧
      Represents E clientId ((⟨now, .updateClient clientId anyMessage⟩, .updated data) :: trace)
        last (t.advance header.executionUpdate.blockNumber a') := by
  have hReads := h.reads_of_trusts hE hReadable now hTrusts
  obtain ⟨data, hUpdates⟩ :=
    exists_updates hIds hReads (hAccepts.of_sameConfig (clientState_sameConfig t))
  have hData := updateState_eq_ok.mpr ⟨_, _, _, hUpdates⟩
  have hStep := (exec_updated_of_header hMessage).mpr ⟨hData, rfl⟩
  have hClient : (store.applyUpdate clientId data).clientState clientId =
      some data.newAnyClientState := by simp
  have hConsensus : (store.applyUpdate clientId data).consensusState clientId =
      Function.update (store.consensusState clientId) header.height
        (some data.newAnyConsensusState) := by simp [hUpdates.height]
  obtain ⟨b, hb, -, hNext⟩ := h.updated hE anyMessage hUpdates hClient hConsensus
  have hNew := hNext.stateId _ _ (Tracker.advance_states_self _ _ _)
  have hSame : b = a' := Attested.eq_of_genStateId (hb.trans hState.symm) hId hNew
  subst hSame
  exact ⟨_, data, hStep, hNext⟩

/-- The host accepts evidence that the rules allow, and then holds the frozen tracker. -/
theorem Represents.exec_evidence (hE : E.Lawful) (hIds : E.GeneratesIds)
    (h : Represents E clientId trace store t) (hReadable : StatesReadable E t) {now : Time}
    {anyMessage : Any} {misbehaviour : Misbehaviour T} {a : Attested T}
    (hMessage : ClientMessage.tryFromAny E anyMessage = .ok (.misbehaviour misbehaviour))
    (hTrusts : t.Trusts misbehaviour.trustedHeight a)
    (hAccepts : t.config.AcceptsMisbehaviour E now clientId a.state misbehaviour) :
    ∃ last data,
      exec E store ⟨now, .updateClient clientId anyMessage⟩ = (last, .misbehaved data) ∧
      Represents E clientId ((⟨now, .updateClient clientId anyMessage⟩, .misbehaved data) :: trace)
        last (t.freeze misbehaviour.trustedHeight) := by
  have hReads := h.reads_of_trusts hE hReadable now hTrusts
  obtain ⟨data, hPunishes⟩ := exists_punishes hIds anyMessage hReads
    (hAccepts.of_sameConfig (clientState_sameConfig t))
  have hData := submitMisbehaviour_eq_ok.mpr ⟨_, _, hPunishes⟩
  have hStep := (exec_misbehaved_of_evidence hMessage).mpr ⟨hData, rfl⟩
  have hClient : (store.applyMisbehaviour clientId data).clientState clientId =
      some data.newAnyClientState := by simp
  obtain ⟨-, hNext⟩ := h.misbehaved hE hMessage hPunishes hClient rfl
  exact ⟨_, data, hStep, hNext⟩

/-- The answers of a store on a client are decided by its tracker: a call is
accepted exactly when its check passes against a state that the tracker relies on. -/
structure DecidedBy (E : Externals T) (clientId : ClientId) (store : Store) (t : ClientTracker T) :
    Prop where
  header : ∀ now anyMessage header,
    ClientMessage.tryFromAny E anyMessage = .ok (.header header) →
    ((∃ store' data,
        exec E store ⟨now, .updateClient clientId anyMessage⟩ = (store', .updated data)) ↔
      ∃ a time keys, t.Trusts header.trustedHeight a ∧
        t.config.AcceptsHeader E now a.state header time keys)
  misbehaviour : ∀ now anyMessage misbehaviour,
    ClientMessage.tryFromAny E anyMessage = .ok (.misbehaviour misbehaviour) →
    ((∃ store' data,
        exec E store ⟨now, .updateClient clientId anyMessage⟩ = (store', .misbehaved data)) ↔
      ∃ a, t.Trusts misbehaviour.trustedHeight a ∧
        t.config.AcceptsMisbehaviour E now clientId a.state misbehaviour)
  membership : ∀ now commitmentPrefix path value height proof,
    (∃ store' result,
        exec E store ⟨now, .verifyMembership clientId commitmentPrefix path value height proof⟩ =
          (store', .membership result)) ↔
      ∃ a committed, t.Trusts height a ∧
        E.verifyMembership (ClientTracker.clientState t) a.state path value
          (toLcTypesHeight height) proof = .ok committed
  nonMembership : ∀ now commitmentPrefix path height proof,
    (∃ store' result,
        exec E store ⟨now, .verifyNonMembership clientId commitmentPrefix path height proof⟩ =
          (store', .nonMembership result)) ↔
      ∃ a, t.Trusts height a ∧
        E.verifyNonMembership (ClientTracker.clientState t) a.state path (toLcTypesHeight height)
          proof = .ok ()

section Decided

variable (hE : E.Lawful) (hIds : E.GeneratesIds) (h : Represents E clientId trace store t)
  (hReadable : StatesReadable E t) (now : Time)

include hE hIds h hReadable

/-- A header is accepted exactly when it passes the checks against a trusted state.
In particular the checks are made of the state at the height that it names. -/
theorem Represents.updated_iff {anyMessage : Any} {header : Header T}
    (hMessage : ClientMessage.tryFromAny E anyMessage = .ok (.header header)) :
    (∃ store' data,
        exec E store ⟨now, .updateClient clientId anyMessage⟩ = (store', .updated data)) ↔
      ∃ a time keys, t.Trusts header.trustedHeight a ∧
        t.config.AcceptsHeader E now a.state header time keys := by
  have hSame := clientState_sameConfig t
  constructor
  · rintro ⟨store', data, hStep⟩
    obtain ⟨hData, -⟩ := (exec_updated_of_header hMessage).mp hStep
    obtain ⟨c, s, s', hUpdates⟩ := updateState_eq_ok.mp hData
    obtain ⟨rfl, a, hTrusts, rfl⟩ := (h.reads_iff hE hReadable).mp hUpdates.reads
    obtain ⟨time, keys, hAccepts, -⟩ := hUpdates.accepts
    exact ⟨a, time, keys, hTrusts, hAccepts.of_sameConfig hSame.symm⟩
  · rintro ⟨a, time, keys, hTrusts, hAccepts⟩
    obtain ⟨id, hId⟩ := hIds.exists_genStateId t.config (header.newConsensusState time keys)
    obtain ⟨last, data, hStep, -⟩ := h.exec_header hE hIds hReadable hMessage hTrusts hAccepts
      (rfl : (Attested.mk _ id).state = header.newConsensusState time keys) hId
    exact ⟨last, data, hStep⟩

theorem Represents.misbehaved_iff {anyMessage : Any} {misbehaviour : Misbehaviour T}
    (hMessage : ClientMessage.tryFromAny E anyMessage = .ok (.misbehaviour misbehaviour)) :
    (∃ store' data,
        exec E store ⟨now, .updateClient clientId anyMessage⟩ = (store', .misbehaved data)) ↔
      ∃ a, t.Trusts misbehaviour.trustedHeight a ∧
        t.config.AcceptsMisbehaviour E now clientId a.state misbehaviour := by
  have hSame := clientState_sameConfig t
  constructor
  · rintro ⟨store', data, hStep⟩
    obtain ⟨hData, -⟩ := (exec_misbehaved_of_evidence hMessage).mp hStep
    obtain ⟨c, s, hPunishes⟩ := submitMisbehaviour_eq_ok.mp hData
    obtain ⟨rfl, a, hTrusts, rfl⟩ := (h.reads_iff hE hReadable).mp hPunishes.reads
    exact ⟨a, hTrusts, hPunishes.accepts.of_sameConfig hSame.symm⟩
  · rintro ⟨a, hTrusts, hAccepts⟩
    obtain ⟨last, data, hStep, -⟩ :=
      h.exec_evidence hE hIds hReadable hMessage hTrusts hAccepts
    exact ⟨last, data, hStep⟩

/-- A proof that a path holds a value is accepted exactly when it passes against a
trusted state, with the latest block number of the tracker. -/
theorem Represents.membership_iff {commitmentPrefix : Bytes} {path : String} {value : Bytes}
    {height : Height} {proof : Bytes} :
    (∃ store' result,
        exec E store ⟨now, .verifyMembership clientId commitmentPrefix path value height proof⟩ =
          (store', .membership result)) ↔
      ∃ a committed, t.Trusts height a ∧
        E.verifyMembership (ClientTracker.clientState t) a.state path value
          (toLcTypesHeight height) proof = .ok committed := by
  constructor
  · rintro ⟨store', result, hStep⟩
    obtain ⟨c, s, hReads, committed, id, hCommitted, -⟩ :=
      verifyMembership_eq_ok.mp (exec_membership hStep)
    obtain ⟨rfl, a, hTrusts, rfl⟩ := (h.reads_iff hE hReadable).mp hReads
    exact ⟨a, committed, hTrusts, hCommitted⟩
  · rintro ⟨a, committed, hTrusts, hCommitted⟩
    have hReads := h.reads_of_trusts hE hReadable now hTrusts
    obtain ⟨id, hId⟩ := hIds.exists_genStateId (ClientTracker.clientState t) a.state
    have hResult : verifyMembership E (store.reader now) clientId commitmentPrefix path value height
        proof = .ok _ :=
      verifyMembership_eq_ok.mpr ⟨_, _, hReads, committed, id, hCommitted, hId, rfl⟩
    obtain ⟨last, hStep⟩ := (AnsweredFrom.membership hResult).exec
    exact ⟨last, _, hStep⟩

theorem Represents.nonMembership_iff {commitmentPrefix : Bytes} {path : String} {height : Height}
    {proof : Bytes} :
    (∃ store' result,
        exec E store ⟨now, .verifyNonMembership clientId commitmentPrefix path height proof⟩ =
          (store', .nonMembership result)) ↔
      ∃ a, t.Trusts height a ∧
        E.verifyNonMembership (ClientTracker.clientState t) a.state path (toLcTypesHeight height)
          proof = .ok () := by
  constructor
  · rintro ⟨store', result, hStep⟩
    obtain ⟨c, s, hReads, id, hEmpty, -⟩ :=
      verifyNonMembership_eq_ok.mp (exec_nonMembership hStep)
    obtain ⟨rfl, a, hTrusts, rfl⟩ := (h.reads_iff hE hReadable).mp hReads
    exact ⟨a, hTrusts, hEmpty⟩
  · rintro ⟨a, hTrusts, hEmpty⟩
    have hReads := h.reads_of_trusts hE hReadable now hTrusts
    obtain ⟨id, hId⟩ := hIds.exists_genStateId (ClientTracker.clientState t) a.state
    have hResult : verifyNonMembership E (store.reader now) clientId commitmentPrefix path height
        proof = .ok _ := verifyNonMembership_eq_ok.mpr ⟨_, _, hReads, id, hEmpty, hId, rfl⟩
    obtain ⟨last, hStep⟩ := (AnsweredFrom.nonMembership hResult).exec
    exact ⟨last, _, hStep⟩

end Decided

/-- The light client refuses nothing that its checks allow, and accepts nothing
else: in every reachable store a client is a tracker that decides its answers. The
encoders are assumed to be total and computed keys to be accepted; without that an
update whose checks pass could still fail. -/
theorem answers_decided_by_tracker (hE : E.Lawful) (hIds : E.GeneratesIds)
    (hKeys : E.AcceptsComputedKeys) (hRelevant : E.RejectsIrrelevant)
    (hRun : Transition.Run (machine E) trace store) {any : Any}
    (hAny : store.clientState clientId = some any) :
    ∃ t, Represents E clientId trace store t ∧ DecidedBy E clientId store t := by
  obtain ⟨t, hRepresents, hReadable⟩ := represents_readable hE hKeys hRelevant hRun hAny
  refine ⟨t, hRepresents, ?_⟩
  constructor
  · intro now anyMessage header hMessage
    exact hRepresents.updated_iff hE hIds hReadable now hMessage
  · intro now anyMessage misbehaviour hMessage
    exact hRepresents.misbehaved_iff hE hIds hReadable now hMessage
  · intro now commitmentPrefix path value height proof
    exact hRepresents.membership_iff hE hIds hReadable now
  · intro now commitmentPrefix path height proof
    exact hRepresents.nonMembership_iff hE hIds hReadable now

section Relayed

open Reference

/-- The answers of the relayed client are those of its tracker. -/
theorem relayed_answers_decided : ∃ t, Represents externals relayed relayedTrace relayedStore t ∧
    DecidedBy externals relayed relayedStore t :=
  answers_decided_by_tracker externals_lawful externals_generatesIds externals_acceptsComputedKeys
    externals_rejectsIrrelevant relayedStore_run relayedStore_clientState

end Relayed

/-- Readable states make an accepted header a readable state. -/
theorem ClientTracker.StatesReadable.advance (h : StatesReadable E t)
    (hKeys : E.AcceptsComputedKeys) (hRelevant : E.RejectsIrrelevant) {now : Time}
    {header : Header T} {a a' : Attested T} {time : Time} {keys : NewSyncCommittees T}
    (hAccepts : t.config.AcceptsHeader E now a.state header time keys)
    (hState : a'.state = header.newConsensusState time keys) (n : U64) :
    StatesReadable E (t.advance n a') := by
  intro k b hStates
  by_cases hEq : k = n
  · subst hEq
    rw [Tracker.advance_states_self, Option.some.injEq] at hStates
    subst hStates
    obtain ⟨hCurrent, hNext⟩ := hKeys _ _ _ _ hAccepts.keys
    rw [hState]
    refine ⟨?_, hCurrent, hNext⟩
    have hSlot := hAccepts.slot_lt hRelevant
    rintro (hZero : header.finalizedSlot = 0)
    rw [hZero] at hSlot
    exact absurd hSlot UInt64.not_lt_zero
  · rw [Tracker.advance_states_of_ne _ _ hEq] at hStates
    exact h k b hStates

/-- Messages that take a tracker along a path that its rules allow, in the order
in which they are delivered. Evidence ends the path. -/
inductive Follows (E : Externals T) (clientId : ClientId) :
    ClientTracker T → List Request → ClientTracker T → Prop where
  | done (t : ClientTracker T) : Follows E clientId t [] t
  | header {t t' : ClientTracker T} {now : Time} {anyMessage : Any} {header : Header T}
      {a a' : Attested T} {time : Time} {keys : NewSyncCommittees T} {rest : List Request}
      (message : ClientMessage.tryFromAny E anyMessage = .ok (.header header))
      (trusts : t.Trusts header.trustedHeight a)
      (accepts : t.config.AcceptsHeader E now a.state header time keys)
      (state : a'.state = header.newConsensusState time keys)
      (stateId : genStateId E t.config a'.state = .ok a'.stateId)
      (others : Follows E clientId (t.advance header.executionUpdate.blockNumber a') rest t') :
      Follows E clientId t (⟨now, .updateClient clientId anyMessage⟩ :: rest) t'
  | misbehaviour {t t' : ClientTracker T} {now : Time} {anyMessage : Any}
      {misbehaviour : Misbehaviour T} {a : Attested T} {rest : List Request}
      (message : ClientMessage.tryFromAny E anyMessage = .ok (.misbehaviour misbehaviour))
      (trusts : t.Trusts misbehaviour.trustedHeight a)
      (accepts : t.config.AcceptsMisbehaviour E now clientId a.state misbehaviour)
      (others : Follows E clientId (t.freeze misbehaviour.trustedHeight) rest t') :
      Follows E clientId t (⟨now, .updateClient clientId anyMessage⟩ :: rest) t'

theorem Follows.append {t' t'' : ClientTracker T} {first second : List Request}
    (h : Follows E clientId t first t') (h' : Follows E clientId t' second t'') :
    Follows E clientId t (first ++ second) t'' := by
  induction h with
  | done => exact h'
  | header message trusts accepts state stateId _ ih =>
      exact .header message trusts accepts state stateId (ih h')
  | misbehaviour message trusts accepts _ ih => exact .misbehaviour message trusts accepts (ih h')

/-- An accepted request in front of accepted ones. -/
theorem steps_first {middle last : Store} {request : Request} {response : Response T}
    {later : Transition.Trace Request (Response T)}
    (hStep : exec E store request = (middle, response))
    (hFirst : Event.accepted (request, response) = true)
    (hSteps : Transition.Steps (machine E) middle later last)
    (hAccepted : ∀ event ∈ later, Event.accepted event = true) :
    ∃ all, Transition.Steps (machine E) store all last ∧
      (all.map Prod.fst).reverse = request :: (later.map Prod.fst).reverse ∧
      ∀ event ∈ all, Event.accepted event = true := by
  refine ⟨_, (steps_exec (.zero store) hStep).append hSteps, ?_, ?_⟩
  · rw [List.map_append, List.reverse_append]
    rfl
  · intro event hMem
    rcases List.mem_append.mp hMem with hLater | hEvent
    · exact hAccepted event hLater
    · rw [List.mem_singleton.mp hEvent]
      exact hFirst

section Follows

variable (hE : E.Lawful) (hKeys : E.AcceptsComputedKeys) (hRelevant : E.RejectsIrrelevant)

include hE hKeys hRelevant

/-- An accepted message is a path of one step. -/
theorem Represents.follows_step (h : Represents E clientId trace store t)
    (hReadable : StatesReadable E t) {now : Time} {anyMessage : Any} {last : Store}
    {response : Response T}
    (hStep : exec E store ⟨now, .updateClient clientId anyMessage⟩ = (last, response))
    (hAccepted : Event.accepted (⟨now, .updateClient clientId anyMessage⟩, response) = true) :
    ∃ t', Follows E clientId t [⟨now, .updateClient clientId anyMessage⟩] t' ∧
      StatesReadable E t' ∧
      Represents E clientId ((⟨now, .updateClient clientId anyMessage⟩, response) :: trace) last
        t' := by
  cases exec_clientStep hStep clientId with
  | updated hMessage hUpdates hClient hConsensus =>
      obtain ⟨rfl, a, hTrusts, rfl⟩ := (h.reads_iff hE hReadable).mp hUpdates.reads
      obtain ⟨time, keys, hAccepts, hNew⟩ := hUpdates.accepts
      have hAccepts := hAccepts.of_sameConfig (clientState_sameConfig t).symm
      obtain ⟨a', hState, -, hNext⟩ := h.updated hE anyMessage hUpdates hClient hConsensus
      have hState := hState.trans hNew
      have hId := hNext.stateId _ _ (Tracker.advance_states_self _ _ _)
      exact ⟨_, .header hMessage hTrusts hAccepts hState hId (.done _),
        hReadable.advance hKeys hRelevant hAccepts hState _, hNext⟩
  | misbehaved hMessage hPunishes hClient hConsensus =>
      obtain ⟨rfl, a, hTrusts, rfl⟩ := (h.reads_iff hE hReadable).mp hPunishes.reads
      have hAccepts := hPunishes.accepts.of_sameConfig (clientState_sameConfig t).symm
      obtain ⟨-, hNext⟩ := h.misbehaved hE hMessage hPunishes hClient hConsensus
      exact ⟨_, .misbehaviour hMessage hTrusts hAccepts (.done _), hReadable, hNext⟩
  | idle hQuiet =>
      exfalso
      revert hAccepted hQuiet
      cases response <;> simp [Event.accepted, Event.writes]

/-- The messages that a host accepted for a client, one after the other, are a path. -/
theorem Represents.follows (h : Represents E clientId trace store t)
    (hReadable : StatesReadable E t) {later : Transition.Trace Request (Response T)} {last : Store}
    (hSteps : Transition.Steps (machine E) store later last)
    (hMessages : ∀ event ∈ later, ∃ now anyMessage,
      event.1 = ⟨now, .updateClient clientId anyMessage⟩)
    (hAccepted : ∀ event ∈ later, Event.accepted event = true) :
    ∃ t', Follows E clientId t (later.map Prod.fst).reverse t' ∧ StatesReadable E t' ∧
      Represents E clientId (later ++ trace) last t' := by
  induction hSteps with
  | zero => exact ⟨t, .done t, hReadable, h⟩
  | @succ m n later request response _ hLast ih =>
      obtain ⟨⟨now, anyMessage, hRequest⟩, hMessages⟩ := List.forall_mem_cons.mp hMessages
      obtain ⟨hLastAccepted, hAccepted⟩ := List.forall_mem_cons.mp hAccepted
      obtain ⟨t', hFollows, hReadable', hMiddle⟩ := ih hMessages hAccepted
      obtain rfl : request = ⟨now, .updateClient clientId anyMessage⟩ := hRequest
      obtain ⟨t'', hNext, hReadable'', hEnd⟩ :=
        hMiddle.follows_step hE hKeys hRelevant hReadable' hLast hLastAccepted
      rw [List.map_cons, List.reverse_cons]
      exact ⟨t'', hFollows.append hNext, hReadable'', hEnd⟩

/-- A host accepts the messages of a path one after the other. -/
theorem Follows.accepted (hIds : E.GeneratesIds) {t' : ClientTracker T} {requests : List Request}
    (hFollows : Follows E clientId t requests t') (h : Represents E clientId trace store t)
    (hReadable : StatesReadable E t) :
    ∃ later last, Transition.Steps (machine E) store later last ∧
      (later.map Prod.fst).reverse = requests ∧ ∀ event ∈ later, Event.accepted event = true := by
  induction hFollows generalizing trace store with
  | done t => exact ⟨[], store, .zero store, rfl, fun _ hMem => absurd hMem List.not_mem_nil⟩
  | header hMessage hTrusts hAccepts hState hId _ ih =>
      obtain ⟨middle, data, hStep, hNext⟩ :=
        h.exec_header hE hIds hReadable hMessage hTrusts hAccepts hState hId
      obtain ⟨later, last, hLater, hRequests, hAccepted⟩ :=
        ih hNext (hReadable.advance hKeys hRelevant hAccepts hState _)
      obtain ⟨all, hAll, hFirst, hAccepted'⟩ := steps_first hStep rfl hLater hAccepted
      exact ⟨all, last, hAll, hFirst.trans (congrArg _ hRequests), hAccepted'⟩
  | misbehaviour hMessage hTrusts hAccepts _ ih =>
      obtain ⟨middle, data, hStep, hNext⟩ :=
        h.exec_evidence hE hIds hReadable hMessage hTrusts hAccepts
      obtain ⟨later, last, hLater, hRequests, hAccepted⟩ := ih hNext hReadable
      obtain ⟨all, hAll, hFirst, hAccepted'⟩ := steps_first hStep rfl hLater hAccepted
      exact ⟨all, last, hAll, hFirst.trans (congrArg _ hRequests), hAccepted'⟩

end Follows

/-- The host is the tracker, over whole runs: a sequence of messages to a client is
accepted in full exactly when it is a path that the rules allow from its tracker.
Neither the bytes nor the requests on other clients play a part. -/
theorem accepted_messages_are_paths (hE : E.Lawful) (hIds : E.GeneratesIds)
    (hKeys : E.AcceptsComputedKeys) (hRelevant : E.RejectsIrrelevant)
    (hRun : Transition.Run (machine E) trace store) {any : Any}
    (hAny : store.clientState clientId = some any) :
    ∃ t, Represents E clientId trace store t ∧ ∀ requests : List Request,
      (∀ request ∈ requests, ∃ now anyMessage,
        request = ⟨now, .updateClient clientId anyMessage⟩) →
      ((∃ later last, Transition.Steps (machine E) store later last ∧
          (later.map Prod.fst).reverse = requests ∧
          ∀ event ∈ later, Event.accepted event = true) ↔
        ∃ t', Follows E clientId t requests t') := by
  obtain ⟨t, hRepresents, hReadable⟩ := represents_readable hE hKeys hRelevant hRun hAny
  refine ⟨t, hRepresents, ?_⟩
  intro requests hMessages
  constructor
  · rintro ⟨later, last, hSteps, rfl, hAccepted⟩
    have hLater : ∀ event ∈ later, ∃ now anyMessage,
        event.1 = ⟨now, .updateClient clientId anyMessage⟩ := by
      intro event hMem
      exact hMessages _ (List.mem_reverse.mpr (List.mem_map_of_mem hMem))
    obtain ⟨t', hFollows, -⟩ :=
      hRepresents.follows hE hKeys hRelevant hReadable hSteps hLater hAccepted
    exact ⟨t', hFollows⟩
  · rintro ⟨t', hFollows⟩
    exact hFollows.accepted hE hKeys hRelevant hIds hRepresents hReadable

section Relayed

open Reference

/-- The header of block 3 is a path from the tracker of the relayed client. -/
theorem relayed_path : ∃ t t',
    Represents externals relayed relayedTrace relayedStore t ∧
    Follows externals relayed t [nextEvent.1] t' := by
  obtain ⟨t, hRepresents, hPaths⟩ := accepted_messages_are_paths externals_lawful
    externals_generatesIds externals_acceptsComputedKeys externals_rejectsIrrelevant
    relayedStore_run relayedStore_clientState
  have hMessages : ∀ request ∈ [nextEvent.1], ∃ now anyMessage,
      request = ⟨now, .updateClient relayed anyMessage⟩ := by
    intro request hMem
    exact ⟨_, _, List.mem_singleton.mp hMem⟩
  obtain ⟨t', hFollows⟩ := (hPaths _ hMessages).mp ⟨_, _,
    steps_exec (.zero relayedStore) relayedStore_next, rfl, List.forall_mem_singleton.mpr rfl⟩
  exact ⟨t, t', hRepresents, hFollows⟩

end Relayed

/-- A height has bytes that decode to a state with the given id exactly when that
id was the last one posted for it. -/
theorem Represents.posted_eq_some_iff (hE : E.Lawful) (h : Represents E clientId trace store t)
    (hReadable : StatesReadable E t) (hRun : Transition.Run (machine E) trace store)
    {height : Height} {id : T.StateID} :
    trace.findSome? (Event.posted clientId height) = some id ↔
      ∃ any s, store.consensusState clientId height = some any ∧
        ConsensusState.tryFromAny E any = .ok s ∧
        genStateId E (ClientTracker.clientState t) s = .ok id := by
  rw [funext (clientState_sameConfig t).genStateId_eq]
  constructor
  · intro hPosted
    obtain ⟨n, rfl⟩ := eq_heightOf_of_posted hRun hPosted
    rw [h.posted, Option.map_eq_some_iff] at hPosted
    obtain ⟨a, hStates, rfl⟩ := hPosted
    obtain ⟨any, hAny, hState⟩ := h.decoded_of_states hE hReadable hStates
    exact ⟨any, a.state, hAny, hState, h.stateId n a hStates⟩
  · rintro ⟨any, s, hAny, hState, hId⟩
    obtain ⟨n, a, rfl, hStates, hStores⟩ := h.states_of_stored hAny
    have hSame := hStores.eq_of_tryFromAny hE hState
    subst hSame
    rw [h.stateId n a hStates, Except.ok.injEq] at hId
    rw [h.posted, hStates, ← hId]
    rfl

/-- One round of the loop over the heights of a misbehaviour. -/
theorem makePrevState_eq_ok {ctx : HostClientReader} {c : ClientState} {height : Height}
    {prev : PrevState T} :
    (do let anyConsensusState ← Outcome.lift Error.lightClient (ctx.consensusState clientId height)
        let consensusState ← ConsensusState.tryFromAny E anyConsensusState
        let stateId ← genStateId E c consensusState
        pure (⟨height, stateId⟩ : PrevState T)) = .ok prev ↔
      prev.height = height ∧ ∃ any s, ctx.consensusState clientId height = .ok any ∧
        ConsensusState.tryFromAny E any = .ok s ∧ genStateId E c s = .ok prev.stateId := by
  simp only [Outcome.bind_eq_ok, Outcome.lift_eq_ok, Outcome.pure_eq_ok]
  constructor
  · rintro ⟨any, hAny, s, hState, id, hId, rfl⟩
    exact ⟨rfl, any, s, hAny, hState, hId⟩
  · rintro ⟨rfl, any, s, hAny, hState, hId⟩
    exact ⟨any, hAny, s, hState, prev.stateId, hId, rfl⟩

/-- The previous states for any list of heights are the ids that were last posted
for these heights, in the order of the list. They are refused when one of the
heights was never posted. -/
theorem makePrevStates_exact (hE : E.Lawful) (hKeys : E.AcceptsComputedKeys)
    (hRelevant : E.RejectsIrrelevant) (hRun : Transition.Run (machine E) trace store) {any : Any}
    {c : ClientState} (hAny : store.clientState clientId = some any)
    (hClient : ClientState.tryFromAny E any = .ok c) (now : Time) (heights : List Height)
    (prevStates : List (PrevState T)) :
    makePrevStates E (store.reader now) clientId c heights = .ok prevStates ↔
      List.Forall₂ (fun height prev => prev.height = height ∧
        trace.findSome? (Event.posted clientId height) = some prev.stateId) heights prevStates := by
  obtain ⟨t, hRepresents, hReadable⟩ := represents_readable hE hKeys hRelevant hRun hAny
  obtain rfl := hRepresents.client_eq hAny hClient
  rw [makePrevStates, Outcome.mapM_eq_ok]
  simp only [makePrevState_eq_ok, Store.reader_consensusState_eq_ok,
    hRepresents.posted_eq_some_iff hE hReadable hRun]

section Relayed

open Reference

/-- The two heights of the relayed client, the later one first, and the earlier one again. -/
theorem relayed_makePrevStates :
    makePrevStates externals (relayedStore.reader relayTime) relayed (clientState 2)
        [⟨0, 2⟩, ⟨0, 1⟩, ⟨0, 2⟩] =
      .ok [⟨⟨0, 2⟩, stateId (clientState 2) (consensusState 4)⟩,
        ⟨⟨0, 1⟩, stateId (clientState 1) (consensusState 2)⟩,
        ⟨⟨0, 2⟩, stateId (clientState 2) (consensusState 4)⟩] :=
  (makePrevStates_exact externals_lawful externals_acceptsComputedKeys externals_rejectsIrrelevant
    relayedStore_run relayedStore_clientState (tryFromAny_clientAny (clientState_sameConfig 2 2))
    relayTime _ _).mpr (.cons ⟨rfl, rfl⟩ (.cons ⟨rfl, rfl⟩ (.cons ⟨rfl, rfl⟩ .nil)))

end Relayed

end EthereumElc
