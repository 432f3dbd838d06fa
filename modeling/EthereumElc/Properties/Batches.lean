import EthereumElc.Properties.Commutation
import EthereumElc.Properties.Isolation

/-! Batches of requests from relayers that do not coordinate: when no two of
them touch the same entries, the order in which the host takes them is lost. -/
namespace EthereumElc

open EthereumLightClient

variable {T : ExternalTypes} {E : Externals T} {clientId other : ClientId} {store : Store}

/-- Two requests are independent when they are for different clients, or are two
headers of one client that write different heights, neither trusting the other's. -/
inductive IndependentRequests (E : Externals T) : Request → Request → Prop where
  | clients {i j : Request} (names : i.call.clientId ≠ j.call.clientId) : IndependentRequests E i j
  | headers {now now' : Time} {clientId : ClientId} {message message' : Any}
      {header header' : Header T}
      (decoded : ClientMessage.tryFromAny E message = .ok (.header header))
      (decoded' : ClientMessage.tryFromAny E message' = .ok (.header header'))
      (heights : header.height ≠ header'.height) (trusted : header.trustedHeight ≠ header'.height)
      (trusted' : header'.trustedHeight ≠ header.height) :
      IndependentRequests E ⟨now, .updateClient clientId message⟩
        ⟨now', .updateClient clientId message'⟩

theorem IndependentRequests.symm {i j : Request} (h : IndependentRequests E i j) :
    IndependentRequests E j i := by
  cases h with
  | clients names => exact .clients names.symm
  | headers decoded decoded' heights trusted trusted' =>
      exact .headers decoded' decoded heights.symm trusted' trusted

/-- Whatever is requested of one client is answered alike before and after a
request for another one, and the order of the two leaves the same store. -/
theorem exec_commute_of_names_ne {i j : Request} {first second : Store}
    {response response' : Response T} (hNe : i.call.clientId ≠ j.call.clientId)
    (hFirst : exec E store i = (first, response)) (hSecond : exec E store j = (second, response')) :
    ∃ last, exec E first j = (last, response') ∧ exec E second i = (last, response) := by
  have hLeft {request : Request} {m n : Store} {answer : Response T} {clientId : ClientId}
      (hStep : exec E m request = (n, answer)) (hOther : request.call.clientId ≠ clientId) :
      SameClient clientId m n := by
    apply sameClient_of_quiet hStep
    intro hWrites
    exact hOther (of_decide_eq_true (Event.names_of_writes hWrites))
  obtain ⟨last, hLast, hSame⟩ :=
    (sameClient_indifferent E _).exec (hLeft hFirst hNe) rfl hSecond
  obtain ⟨last', hLast', hSame'⟩ :=
    (sameClient_indifferent E _).exec (hLeft hSecond hNe.symm) rfl hFirst
  have hEq : last' = last := by
    apply SameClient.store_eq
    intro clientId
    by_cases hFirstNames : i.call.clientId = clientId
    · subst hFirstNames
      exact (hLeft hLast hNe.symm).symm.trans hSame'
    · have hFromSecond := hLeft hLast' hFirstNames
      by_cases hSecondNames : j.call.clientId = clientId
      · subst hSecondNames
        exact hSame.symm.trans hFromSecond
      · have hStart := (hLeft hFirst hFirstNames).trans (hLeft hLast hSecondNames)
        exact hStart.symm.trans ((hLeft hSecond hSecondNames).trans hFromSecond)
  subst hEq
  exact ⟨last', hLast, hLast'⟩

/-- What is read of a store does not depend on the host time. -/
theorem EthereumLightClient.Reads.at_time {now : Time} {height : Height} {c : ClientState}
    {s : ConsensusState T} (h : Reads E (store.reader now) clientId height c s) (now' : Time) :
    Reads E (store.reader now') clientId height c s :=
  ⟨h.clientState, h.notFrozen, h.consensusState⟩

/-- An accepted header update was an update with its header. -/
theorem updates_of_attested {now : Time} {message : Any} {header : Header T} {store' : Store}
    {response : Response T} {seen : Attestation T}
    (hMessage : ClientMessage.tryFromAny E message = .ok (.header header))
    (hStep : exec E store ⟨now, .updateClient clientId message⟩ = (store', response))
    (hSeen : response.attestation = some seen) :
    ∃ c s s' data, Updates E (store.reader now) clientId header c s s' data ∧
      store' = store.applyUpdate clientId data ∧ seen = .updated data.message data.height := by
  rcases exec_updateClient_cases hStep with ⟨header', data, hMessage', hData, rfl, rfl⟩ |
    ⟨misbehaviour, data, hMessage', -, -, -⟩ | ⟨failure, -, rfl⟩
  · rw [hMessage, Except.ok.injEq, ClientMessage.header.injEq] at hMessage'
    subst hMessage'
    obtain ⟨c, s, s', h⟩ := updateState_eq_ok.mp hData
    exact ⟨c, s, s', data, h, rfl, (Option.some.inj hSeen).symm⟩
  · rw [hMessage] at hMessage'
    cases hMessage'
  · cases hSeen

/-- Two independent requests that a store accepts are accepted in both orders. -/
theorem machine_diamond (hE : E.Lawful) :
    Transition.Diamond (machine E) Response.attestation (IndependentRequests E) where
  symm _ _ h := h.symm
  commute store i j first second response response' seen seen' h hFirst hSeen hSecond hSeen' := by
    cases h with
    | clients names =>
        obtain ⟨last, hLast, hLast'⟩ := exec_commute_of_names_ne names hFirst hSecond
        exact ⟨last, response, response', hLast, hSeen', hLast', hSeen⟩
    | headers decoded decoded' heights trusted trusted' =>
        obtain ⟨c, s, s', data, hUpdates, rfl, rfl⟩ := updates_of_attested decoded hFirst hSeen
        obtain ⟨d, u, u', data', hUpdates', rfl, rfl⟩ :=
          updates_of_attested decoded' hSecond hSeen'
        obtain ⟨rfl, -⟩ := hUpdates.reads.unique (hUpdates'.reads.at_time _)
        obtain ⟨last, _, _, hLater', hLater, hMessage, hHeight, hMessage', hHeight'⟩ :=
          exec_commute_of_height_ne hE decoded decoded' hUpdates hUpdates' heights trusted trusted'
        refine ⟨last, _, _, hLater', ?_, hLater, ?_⟩
        · simp only [Response.attestation, hMessage', hHeight']
        · simp only [Response.attestation, hMessage, hHeight]

/-- A batch of requests, each of which a store accepts and no two of which
depend on each other, is accepted in every order, each with the same attestation
and all with the same last store. -/
theorem independent_batch_any_order (hE : E.Lawful) {batch : List (Request × Attestation T)}
    (hIndependent : batch.Pairwise fun event event' => IndependentRequests E event.1 event'.1)
    (hAccepts : ∀ event ∈ batch,
      Transition.Accepts (machine E) Response.attestation store event) :
    ∃ last, ∀ order, batch.Perm order →
      Transition.Answers (machine E) Response.attestation store order last :=
  (machine_diamond hE).batch hIndependent hAccepts

section Relayed

open Reference

/-- Two headers of the relayed client and the creation of a neighbour. -/
def relayedBatch : List (Request × Attestation types) :=
  [(⟨relayTime, .updateClient relayed (headerAny 1 4 0)⟩,
      .updated (updateData (clientState 1) 1 2 4 0).message ⟨0, 2⟩),
    (⟨blockTime 4, .updateClient relayed (headerAny 1 6 0)⟩,
      .updated (updateData (clientState 1) 1 2 6 0).message ⟨0, 3⟩),
    (createRequest relayTime neighbour 1 (consensusState 2),
      .created (createResult 1 (consensusState 2)))]

theorem relayedBatch_independent :
    relayedBatch.Pairwise fun event event' => IndependentRequests externals event.1 event'.1 := by
  have hHeaders : IndependentRequests externals
      ⟨relayTime, .updateClient relayed (headerAny 1 4 0)⟩
      ⟨blockTime 4, .updateClient relayed (headerAny 1 6 0)⟩ :=
    .headers (tryFromAny_headerAny 1 4 0) (tryFromAny_headerAny 1 6 0) (by decide) (by decide)
      (by decide)
  have hNe : relayed ≠ neighbour := by decide
  simp only [relayedBatch, List.pairwise_cons, List.mem_cons, List.not_mem_nil, or_false,
    forall_eq_or_imp, forall_eq, IsEmpty.forall_iff, implies_true, List.Pairwise.nil, and_true]
  exact ⟨⟨hHeaders, .clients hNe⟩, .clients hNe⟩

/-- The batch is accepted backwards too, after the creation of the relayed client. -/
theorem relayedBatch_any_order :
    ∃ last, Transition.Answers (machine externals) Response.attestation
      (createdStore relayed 1 (consensusState 2)) relayedBatch.reverse last := by
  have hReads (now : Time) := createdStore_reads now relayed 1 (consensusState 2)
  have hAccepts : ∀ event ∈ relayedBatch, Transition.Accepts (machine externals)
      Response.attestation (createdStore relayed 1 (consensusState 2)) event := by
    intro event hEvent
    simp only [relayedBatch, List.mem_cons, List.not_mem_nil, or_false] at hEvent
    rcases hEvent with rfl | rfl | rfl
    · exact ⟨_, _, relayedStore_step, rfl⟩
    · exact ⟨_, _, exec_headerAny (by decide : Acceptable (blockTime 4) 2 6)
        (clientState_sameConfig 1 1) 0 (hReads _), rfl⟩
    · have hFresh : (createdStore relayed 1 (consensusState 2)).clientState neighbour = none := by
        decide
      exact ⟨_, _, exec_neighbour hFresh, rfl⟩
  obtain ⟨last, hOrder⟩ :=
    independent_batch_any_order externals_lawful relayedBatch_independent hAccepts
  exact ⟨last, hOrder _ (List.reverse_perm relayedBatch).symm⟩

end Relayed

end EthereumElc
