import EthereumElc.Properties.Commutation
import EthereumElc.Properties.Isolation
import EthereumElc.Properties.Refinement

/-! The record of a client on the chain, which is the id last posted for each
height and the height that it was punished at, decides all that the client will
answer. The bytes in the store, and the messages that led to them, do not matter. -/
namespace EthereumElc

open EthereumLightClient ClientTracker

variable {T : ExternalTypes} {E : Externals T} {clientId : ClientId} {store store' : Store}
  {trace trace' : Transition.Trace Request (Response T)} {t t' : ClientTracker T}

theorem DecodesAlike.putClientState (h : DecodesAlike E clientId store store') (any : Any) :
    DecodesAlike E clientId (store.putClientState clientId any)
      (store'.putClientState clientId any) where
  client := by simp [Store.decodedClient, Store.putClientState]
  consensus := h.consensus

theorem DecodesAlike.putConsensusState (h : DecodesAlike E clientId store store')
    (height : Height) (any : Any) : DecodesAlike E clientId
      (store.putConsensusState clientId height any)
      (store'.putConsensusState clientId height any) where
  client := h.client
  consensus other := by
    by_cases hEq : other = height
    · simp [Store.decodedConsensus, Store.putConsensusState, hEq]
    · simpa [Store.decodedConsensus, Store.putConsensusState, hEq] using h.consensus other

/-- No request on a client sees more of its entries than what they decode to. -/
theorem decodesAlike_indifferent (E : Externals T) (clientId : ClientId) :
    Indifferent E clientId (DecodesAlike E clientId) where
  decodesAlike hAlike := hAlike
  putClientState hAlike := hAlike.putClientState
  putConsensusState hAlike := hAlike.putConsensusState
  elsewhere hAlike hLeft := by
    have hMiddle := hLeft.decodesAlike E
    exact ⟨hAlike.client.trans hMiddle.client.symm,
      fun height => (hAlike.consensus height).trans (hMiddle.consensus height).symm⟩

/-- Two logs that left the same record of a client. -/
structure SameRecord (E : Externals T) (clientId : ClientId)
    (trace trace' : Transition.Trace Request (Response T)) : Prop where
  posted : ∀ height, trace'.findSome? (Event.posted clientId height) =
    trace.findSome? (Event.posted clientId height)
  punished : trace'.findSome? (Event.punished E clientId) =
    trace.findSome? (Event.punished E clientId)

/-- The entry of a client decodes to the client state of its tracker. -/
theorem Represents.decodedClient (h : Represents E clientId trace store t) :
    store.decodedClient E clientId = some (.ok (ClientTracker.clientState t)) := by
  obtain ⟨any, hAny, hClient⟩ := h.clientState
  rw [Store.decodedClient, hAny, Option.map_some, hClient]

/-- The entries at the heights of the client decode to the tracked states. -/
theorem Represents.decodedConsensus (hE : E.Lawful) (h : Represents E clientId trace store t)
    (hReadable : StatesReadable E t) (n : U64) :
    store.decodedConsensus E clientId (heightOf n) =
      (t.states n).map fun a => .ok a.state := by
  have hRel := h.consensusState n
  cases hStates : t.states n with
  | none =>
      rw [hStates] at hRel
      cases hAny : store.consensusState clientId (heightOf n) with
      | none => rw [Store.decodedConsensus, hAny, Option.map_none, Option.map_none]
      | some any =>
          rw [hAny] at hRel
          cases hRel
  | some a =>
      obtain ⟨any, hAny, hState⟩ := h.decoded_of_states hE hReadable hStates
      rw [Store.decodedConsensus, hAny, Option.map_some, Option.map_some, hState]

/-- No height of another revision is stored. -/
theorem Represents.decodedConsensus_eq_none (h : Represents E clientId trace store t)
    {height : Height} (hRevision : height.revisionNumber ≠ ETHEREUM_CLIENT_REVISION_NUMBER) :
    (store.decodedConsensus E clientId height : Option (Result (ConsensusState T))) = none := by
  rw [Store.decodedConsensus, Option.map_eq_none_iff]
  cases hAny : store.consensusState clientId height with
  | none => rfl
  | some any => exact absurd (h.revisionNumber _ _ hAny) hRevision

/-- Two trackers with one record hold the same states. -/
theorem Represents.state_of_sameRecord (hE : E.Lawful) (hHash : E.CollisionFree)
    (h : Represents E clientId trace store t) (hReadable : StatesReadable E t)
    (h' : Represents E clientId trace' store' t') (hReadable' : StatesReadable E t')
    (hSame : SameRecord E clientId trace trace') {n : U64} {a : Attested T}
    (hStates : t.states n = some a) : ∃ a', t'.states n = some a' ∧ a'.state = a.state ∧
      (ClientTracker.clientState t').SameConfig (ClientTracker.clientState t) := by
  have hPosted := hSame.posted (heightOf n)
  rw [h.posted, h'.posted, hStates, Option.map_some, Option.map_eq_some_iff] at hPosted
  obtain ⟨a', hStates', hId⟩ := hPosted
  obtain ⟨anyClient, -, hClient⟩ := h.clientState
  obtain ⟨anyClient', -, hClient'⟩ := h'.clientState
  obtain ⟨any, -, hState⟩ := h.decoded_of_states hE hReadable hStates
  obtain ⟨any', -, hState'⟩ := h'.decoded_of_states hE hReadable' hStates'
  have hGen := h.stateId n a hStates
  have hGen' := h'.stateId n a' hStates'
  rw [← (clientState_sameConfig t).genStateId_eq] at hGen
  rw [← (clientState_sameConfig t').genStateId_eq, hId] at hGen'
  obtain ⟨hConfig, hEq⟩ :=
    eq_of_genStateId_eq hE.separating hHash hClient' hClient hState' hState hGen' hGen
  exact ⟨a', hStates', hEq, hConfig⟩

/-- The latest height is in the record: it is the greatest one that an id was posted for. -/
theorem Represents.latest_le_of_sameRecord (hE : E.Lawful) (hHash : E.CollisionFree)
    (h : Represents E clientId trace store t) (hReadable : StatesReadable E t)
    (h' : Represents E clientId trace' store' t') (hReadable' : StatesReadable E t')
    (hSame : SameRecord E clientId trace trace') : t.latest ≤ t'.latest := by
  obtain ⟨a, hStates⟩ := Option.isSome_iff_exists.mp t.latest_stored
  obtain ⟨a', hStates', -⟩ := h.state_of_sameRecord hE hHash hReadable h' hReadable' hSame hStates
  exact t'.le_latest _ (Option.isSome_iff_exists.mpr ⟨a', hStates'⟩)

theorem SameRecord.symm (h : SameRecord E clientId trace trace') :
    SameRecord E clientId trace' trace :=
  ⟨fun height => (h.posted height).symm, h.punished.symm⟩

/-- Stores that left one record of a client decode alike. -/
theorem Represents.decodesAlike_of_sameRecord (hE : E.Lawful) (hHash : E.CollisionFree)
    (h : Represents E clientId trace store t) (hReadable : StatesReadable E t)
    (h' : Represents E clientId trace' store' t') (hReadable' : StatesReadable E t')
    (hSame : SameRecord E clientId trace trace') : DecodesAlike E clientId store store' := by
  have hStates (n : U64) : (t'.states n).map (fun a => (.ok a.state : Result (ConsensusState T))) =
      (t.states n).map fun a => .ok a.state := by
    cases hStates : t.states n with
    | none =>
        have hPosted := hSame.posted (heightOf n)
        rw [h.posted, h'.posted, hStates, Option.map_none, Option.map_eq_none_iff] at hPosted
        rw [hPosted]
    | some a =>
        obtain ⟨a', hStates', hEq, -⟩ :=
          h.state_of_sameRecord hE hHash hReadable h' hReadable' hSame hStates
        rw [hStates', Option.map_some, Option.map_some, hEq]
  have hClient : ClientTracker.clientState t' = ClientTracker.clientState t := by
    obtain ⟨a, hLatest⟩ := Option.isSome_iff_exists.mp t.latest_stored
    obtain ⟨-, -, -, hConfig⟩ :=
      h.state_of_sameRecord hE hHash hReadable h' hReadable' hSame hLatest
    have hLe := h.latest_le_of_sameRecord hE hHash hReadable h' hReadable' hSame
    have hGe := h'.latest_le_of_sameRecord hE hHash hReadable' h hReadable hSame.symm
    have hFrozen := hSame.punished
    rw [h.punished, h'.punished] at hFrozen
    rw [hConfig.eq_with]
    simp only [ClientTracker.clientState, hFrozen, le_antisymm hGe hLe]
  constructor
  · rw [h.decodedClient, h'.decodedClient, hClient]
  · intro height
    by_cases hRevision : height.revisionNumber = ETHEREUM_CLIENT_REVISION_NUMBER
    · have hHeight : height = heightOf height.revisionHeight := by
        cases height
        exact congrArg (Height.mk · _) hRevision
      rw [hHeight, h.decodedConsensus hE hReadable, h'.decodedConsensus hE hReadable', hStates]
    · rw [h.decodedConsensus_eq_none hRevision, h'.decodedConsensus_eq_none hRevision]

/-- A client that has posted nothing does not exist. -/
theorem Represents.exists_posted (h : Represents E clientId trace store t) :
    ∃ height id, trace.findSome? (Event.posted clientId height) = some id := by
  obtain ⟨a, hStates⟩ := Option.isSome_iff_exists.mp t.latest_stored
  exact ⟨heightOf t.latest, a.stateId, by rw [h.posted, hStates, Option.map_some]⟩

/-- Entries with one record decode alike. The bytes may differ, since a created
state keeps the bytes that it was given. -/
theorem decodesAlike_of_sameRecord (hE : E.Lawful) (hHash : E.CollisionFree)
    (hKeys : E.AcceptsComputedKeys) (hRelevant : E.RejectsIrrelevant)
    (hRun : Transition.Run (machine E) trace store)
    (hRun' : Transition.Run (machine E) trace' store')
    (hSame : SameRecord E clientId trace trace') : DecodesAlike E clientId store store' := by
  rcases absent_or_represents hE hRun clientId with hAbsent | ⟨c, s, id, t, hTracked, h⟩
  · rcases absent_or_represents hE hRun' clientId with hAbsent' | ⟨-, -, -, t', -, h'⟩
    · constructor
      · rw [Store.decodedClient, Store.decodedClient, hAbsent.clientState, hAbsent'.clientState]
      · intro height
        rw [Store.decodedConsensus, Store.decodedConsensus, hAbsent.consensusState,
          hAbsent'.consensusState]
    · obtain ⟨height, id, hPosted⟩ := h'.exists_posted
      rw [hSame.posted, hAbsent.posted] at hPosted
      cases hPosted
  · rcases absent_or_represents hE hRun' clientId with hAbsent' | ⟨c', s', id', t', hTracked', h'⟩
    · obtain ⟨height, id, hPosted⟩ := h.exists_posted
      rw [← hSame.posted, hAbsent'.posted] at hPosted
      cases hPosted
    · exact h.decodesAlike_of_sameRecord hE hHash
        (fun n a hStates => hTracked.readable hE hKeys hRelevant hStates) h'
        (fun n a hStates => hTracked'.readable hE hKeys hRelevant hStates) hSame

/-- Other requests do not add to the record of a client. -/
theorem SameRecord.append (h : SameRecord E clientId trace trace')
    (later : Transition.Trace Request (Response T)) :
    SameRecord E clientId (later ++ trace) (later.filter (Event.names clientId) ++ trace') where
  posted height := by
    rw [List.findSome?_append, List.findSome?_append, h.posted,
      Transition.findSome?_filter_of_dropped fun event hOther =>
        Event.posted_eq_none (Event.writes_ne_of_not_names hOther) height]
  punished := by
    rw [List.findSome?_append, List.findSome?_append, h.punished,
      Transition.findSome?_filter_of_dropped fun event hOther =>
        Event.punished_eq_none (Event.writes_ne_of_not_names hOther)]

/-- The record of a client decides its future: two hosts that left the same record
answer the same requests on the client with the same responses, errors included, for
as long as they are asked and whatever else the first one is asked in between. The
runs that left the record may differ in everything else, such as their messages and
their host times. -/
theorem same_record_same_answers (hE : E.Lawful) (hHash : E.CollisionFree)
    (hKeys : E.AcceptsComputedKeys) (hRelevant : E.RejectsIrrelevant)
    (hRun : Transition.Run (machine E) trace store)
    (hRun' : Transition.Run (machine E) trace' store') (hSame : SameRecord E clientId trace trace')
    {later : Transition.Trace Request (Response T)} {last : Store}
    (hSteps : Transition.Steps (machine E) store later last) :
    ∃ last', Transition.Steps (machine E) store' (later.filter (Event.names clientId)) last' ∧
      SameRecord E clientId (later ++ trace) (later.filter (Event.names clientId) ++ trace') := by
  have hAlike := decodesAlike_of_sameRecord hE hHash hKeys hRelevant hRun hRun' hSame
  obtain ⟨last', hSteps', -⟩ :=
    (decodesAlike_indifferent E clientId).unwinds_names.purge hSteps hAlike
  exact ⟨last', hSteps', hSame.append later⟩

section Relayed

open Reference

/-- The relayed client with the header of block 3 first, which trusts block 1. -/
def reorderedTrace : Transition.Trace Request (Response types) :=
  [(⟨relayTime, .updateClient relayed (headerAny 1 4 0)⟩,
      .updated (updateData (clientState 3) 1 2 4 0)),
    (⟨relayTime, .updateClient relayed (headerAny 1 6 0)⟩,
      .updated (updateData (clientState 1) 1 2 6 0)),
    (createRequest relayTime relayed 1 (consensusState 2),
      .created (createResult 1 (consensusState 2)))]

def reorderedStore : Store :=
  ((createdStore relayed 1 (consensusState 2)).applyUpdate relayed
    (updateData (clientState 1) 1 2 6 0)).applyUpdate relayed (updateData (clientState 3) 1 2 4 0)

/-- It accepts them in that order too. -/
theorem reorderedStore_run : Transition.Run (machine externals) reorderedTrace reorderedStore := by
  have hReads := createdStore_reads relayTime relayed 1 (consensusState 2)
  have hAcceptable : Acceptable relayTime 2 6 := by decide
  have hFirst := exec_headerAny hAcceptable (clientState_sameConfig 1 1) 0 hReads
  have hUpdates := updates hAcceptable (clientState_sameConfig 1 1) 0 hReads
  have hReads' := hUpdates.reads_after externals_lawful hReads (by decide)
  have hSecond := exec_headerAny acceptable_four (clientState_sameConfig 3 3) 0 hReads'
  exact steps_exec (steps_exec (steps_exec (.zero _) relayed_created) hFirst) hSecond

/-- Both orders leave the ids of blocks 1 to 3. -/
theorem reordered_sameRecord :
    SameRecord externals relayed (nextEvent :: relayedTrace) reorderedTrace where
  posted height := by
    by_cases hThree : height = ⟨0, 3⟩
    · subst hThree
      rfl
    · by_cases hTwo : height = ⟨0, 2⟩
      · subst hTwo
        rfl
      · have hPosted {any : Any} {c : ClientState} {k : U64} {trusted slot : Slot}
            (hNe : height ≠ heightOf (blocks.executionBlock slot)) :
            Event.posted relayed height (⟨relayTime, .updateClient relayed any⟩,
              .updated (updateData c k trusted slot 0)) = none :=
          if_neg fun hBoth => hNe hBoth.2.symm
        have hFour : height ≠ heightOf (blocks.executionBlock 4) := hTwo
        have hSix : height ≠ heightOf (blocks.executionBlock 6) := hThree
        simp only [relayedTrace, reorderedTrace, nextEvent, List.findSome?_cons, hPosted hFour,
          hPosted hSix]
  punished := rfl

/-- A value at height 3 is attested by both hosts alike. -/
theorem reordered_same_answers : ∃ last', Transition.Steps (machine externals) reorderedStore
    [(⟨relayTime, .verifyMembership relayed [] "clients" (stringBytes "clients") ⟨0, 3⟩ []⟩,
      .membership ⟨⟨[], "clients", some (commitment (stringBytes "clients")), ⟨0, 3⟩,
        stateId (clientState 3) (consensusState 6)⟩⟩)] last' := by
  have hReads := applyUpdate_reads (clientState_sameConfig 2 2) rfl relayedStore relayTime relayed 2
    4 6 0
  have hContent : content (consensusState 6).storageRoot (clientState 3).ibcCommitmentsSlot
      "clients" = some (commitment (stringBytes "clients")) := rfl
  have hStep := exec_verifyMembership hReads hContent
  obtain ⟨last', hSteps, -⟩ := same_record_same_answers externals_lawful externals_collisionFree
    externals_acceptsComputedKeys externals_rejectsIrrelevant
    (steps_exec relayedStore_run relayedStore_next) reorderedStore_run reordered_sameRecord
    (steps_exec (.zero _) hStep)
  exact ⟨last', hSteps⟩

end Relayed

end EthereumElc
