import EthereumElc.Properties.Messages

/-! The messages of relayers, field by field: which bytes are accepted as which
message, and which field an incomplete message is refused for. A header is
checked for all of its fields before any of them is converted. Evidence is
converted field by field, so a bad field hides the absence of a later one. -/
namespace EthereumElc

variable {T : ExternalTypes}

/-- A field that must be present, and its conversion. -/
def Holds {Raw Value : Type} (convert : Raw → Except ExternalError Value) (field : Option Raw)
    (value : Value) : Prop :=
  ∃ raw, field = some raw ∧ convert raw = .ok value

/-- A raw header has all four fields, and they convert to those of the header. -/
structure RawHeader.Decodes (E : Externals T) (raw : RawHeader T) (header : Header T) : Prop where
  trustedSyncCommittee : Holds E.trustedSyncCommitteeTryFrom raw.trustedSyncCommittee
    header.trustedSyncCommittee
  consensusUpdate : Holds E.convertProtoToConsensusUpdate raw.consensusUpdate header.consensusUpdate
  executionUpdate : Holds E.convertProtoToExecutionUpdate raw.executionUpdate header.executionUpdate
  accountUpdate : Holds E.accountUpdateTryFrom raw.accountUpdate header.accountUpdate

/-- The first field of a raw header that is absent, in the order of the message. -/
def RawHeader.firstAbsent (raw : RawHeader T) : Option String :=
  (List.find? (fun field => !field.2)
    [("trusted_sync_committee", raw.trustedSyncCommittee.isSome),
      ("consensus_update", raw.consensusUpdate.isSome),
      ("execution_update", raw.executionUpdate.isSome),
      ("account_update", raw.accountUpdate.isSome)]).map Prod.fst

/-- The fields that the raw messages of both kinds of evidence have. -/
structure EvidenceFields (T : ExternalTypes) where
  clientId : String
  trustedSyncCommittee : Option T.ProtoTrustedSyncCommittee
  consensusUpdate1 : Option T.ProtoConsensusUpdate
  consensusUpdate2 : Option T.ProtoConsensusUpdate

/-- The fields of the raw message of a kind in some bytes. -/
def MisbehaviourKind.decode (E : Externals T) (bytes : Bytes) :
    MisbehaviourKind → Except ExternalError (EvidenceFields T)
  | .finalizedHeader => (E.finalizedHeaderMisbehaviourCodec.decode bytes).map fun raw =>
      ⟨raw.clientId, raw.trustedSyncCommittee, raw.consensusUpdate1, raw.consensusUpdate2⟩
  | .nextSyncCommittee => (E.nextSyncCommitteeMisbehaviourCodec.decode bytes).map fun raw =>
      ⟨raw.clientId, raw.trustedSyncCommittee, raw.consensusUpdate1, raw.consensusUpdate2⟩

/-- The fields are all there, and convert to the parts of the evidence in their order. -/
structure EvidenceFields.Decodes (E : Externals T) (fields : EvidenceFields T)
    (m : Misbehaviour T) : Prop where
  clientId : E.clientIdFromStr fields.clientId = .ok m.clientId
  trustedSyncCommittee : Holds E.trustedSyncCommitteeTryFrom fields.trustedSyncCommittee
    m.trustedSyncCommittee
  consensusUpdate1 : Holds E.convertProtoToConsensusUpdate fields.consensusUpdate1
    m.data.consensusUpdate1
  consensusUpdate2 : Holds E.convertProtoToConsensusUpdate fields.consensusUpdate2
    m.data.consensusUpdate2

/-- A field is absent, and everything before it is there and converts. -/
inductive EvidenceFields.Misses (E : Externals T) (fields : EvidenceFields T) : String → Prop where
  | trustedSyncCommittee {id : ClientId} (clientId : E.clientIdFromStr fields.clientId = .ok id)
      (absent : fields.trustedSyncCommittee = none) : Misses E fields "trusted_sync_committee"
  | consensusUpdate1 {id : ClientId} {committee : TrustedSyncCommittee T}
      (clientId : E.clientIdFromStr fields.clientId = .ok id)
      (trustedSyncCommittee : Holds E.trustedSyncCommitteeTryFrom fields.trustedSyncCommittee
        committee)
      (absent : fields.consensusUpdate1 = none) : Misses E fields "consensus_update_1"
  | consensusUpdate2 {id : ClientId} {committee : TrustedSyncCommittee T}
      {u : ConsensusUpdateInfo T} (clientId : E.clientIdFromStr fields.clientId = .ok id)
      (trustedSyncCommittee : Holds E.trustedSyncCommitteeTryFrom fields.trustedSyncCommittee
        committee)
      (consensusUpdate1 : Holds E.convertProtoToConsensusUpdate fields.consensusUpdate1 u)
      (absent : fields.consensusUpdate2 = none) : Misses E fields "consensus_update_2"

@[simp] theorem MisbehaviourKind.consensusUpdate1_data (u u' : ConsensusUpdateInfo T)
    (k : MisbehaviourKind) : (k.data u u').consensusUpdate1 = u := by
  cases k <;> rfl

@[simp] theorem MisbehaviourKind.consensusUpdate2_data (u u' : ConsensusUpdateInfo T)
    (k : MisbehaviourKind) : (k.data u u').consensusUpdate2 = u' := by
  cases k <;> rfl

variable {E : Externals T}

namespace Header

/-- A raw header is decoded to the header whose four parts it has. -/
theorem tryFromRaw_eq_ok {raw : RawHeader T} {header : Header T} :
    tryFromRaw E raw = .ok header ↔ raw.Decodes E header := by
  simp only [tryFromRaw, Outcome.bind_eq_ok, Outcome.okOr_eq_ok, Outcome.lift_eq_ok,
    Outcome.pure_eq_ok]
  constructor
  · rintro ⟨p, hp, q, hq, r, hr, s, hs, _, hCommittee, _, hConsensus, _, hExecution, _, hAccount,
      rfl⟩
    exact ⟨⟨p, hp, hCommittee⟩, ⟨q, hq, hConsensus⟩, ⟨r, hr, hExecution⟩, ⟨s, hs, hAccount⟩⟩
  · rintro ⟨⟨p, hp, hCommittee⟩, ⟨q, hq, hConsensus⟩, ⟨r, hr, hExecution⟩, ⟨s, hs, hAccount⟩⟩
    exact ⟨p, hp, q, hq, r, hr, s, hs, _, hCommittee, _, hConsensus, _, hExecution, _, hAccount,
      rfl⟩

/-- No conversion runs before all four fields are known to be there. -/
theorem tryFromRaw_eq_missing {raw : RawHeader T} {field : String} :
    tryFromRaw E raw = .error (.error (.protoMissing field)) ↔ raw.firstAbsent = some field := by
  obtain ⟨committee, consensus, execution, account⟩ := raw
  simp only [tryFromRaw, Outcome.bind_eq_error, Outcome.lift_eq_error, Outcome.okOr_eq_error,
    Outcome.pure_ne_error, RawHeader.firstAbsent]
  cases committee with
  | none => simp [Error.protoMissing]
  | some p =>
      cases consensus with
      | none => simp [Error.protoMissing]
      | some q =>
          cases execution with
          | none => simp [Error.protoMissing]
          | some r => cases account <;> simp [Error.protoMissing]

theorem tryFromAny_of_typeUrl {any : Any} (hUrl : any.typeUrl = ETHEREUM_HEADER_TYPE_URL) :
    Header.tryFromAny E any = (do
      let raw ← Outcome.lift .protoDecode (E.headerCodec.decode any.value)
      tryFromRaw E raw) :=
  if_pos hUrl

end Header

namespace Misbehaviour

/-- The fields of evidence are decoded to evidence of the given kind, the same way
for both kinds. -/
theorem tryFromFields_eq_ok {fields : EvidenceFields T} {k : MisbehaviourKind}
    {m : Misbehaviour T} :
    tryFromFields E fields.clientId fields.trustedSyncCommittee fields.consensusUpdate1
        fields.consensusUpdate2 (fun u u' => k.data u u') = .ok m ↔
      m.data.kind = k ∧ fields.Decodes E m := by
  simp only [tryFromFields, Outcome.bind_eq_ok, Outcome.okOr_eq_ok, Outcome.lift_eq_ok,
    Outcome.pure_eq_ok]
  constructor
  · rintro ⟨id, hId, p, hp, committee, hCommittee, q, hq, u, hUpdate, r, hr, u', hUpdate', rfl⟩
    refine ⟨MisbehaviourKind.kind_data u u' k, hId, ⟨p, hp, hCommittee⟩, ⟨q, hq, ?_⟩, ⟨r, hr, ?_⟩⟩
    · rw [MisbehaviourKind.consensusUpdate1_data]
      exact hUpdate
    · rw [MisbehaviourKind.consensusUpdate2_data]
      exact hUpdate'
  · rintro ⟨rfl, hId, ⟨p, hp, hCommittee⟩, ⟨q, hq, hUpdate⟩, ⟨r, hr, hUpdate'⟩⟩
    refine ⟨_, hId, p, hp, _, hCommittee, q, hq, _, hUpdate, r, hr, _, hUpdate', ?_⟩
    rw [← m.data.eq_data]

/-- Presence and conversion alternate, so what is reported missing comes after
fields that were converted. -/
theorem tryFromFields_eq_missing {fields : EvidenceFields T} {field : String}
    (data : ConsensusUpdateInfo T → ConsensusUpdateInfo T → Verifier.Misbehaviour T) :
    tryFromFields E fields.clientId fields.trustedSyncCommittee fields.consensusUpdate1
        fields.consensusUpdate2 data = .error (.error (.protoMissing field)) ↔
      fields.Misses E field := by
  simp only [tryFromFields, Outcome.bind_eq_error, Outcome.lift_eq_error, Outcome.okOr_eq_error,
    Outcome.okOr_eq_ok, Outcome.lift_eq_ok, Outcome.pure_ne_error, Error.protoMissing,
    reduceCtorEq, and_false, exists_false, false_or, or_false, Error.protoMissingField.injEq]
  constructor
  · rintro ⟨id, hId, ⟨hAbsent, rfl⟩ | ⟨p, hp, committee, hCommittee, ⟨hAbsent, rfl⟩ |
      ⟨q, hq, u, hUpdate, hAbsent, rfl⟩⟩⟩
    · exact .trustedSyncCommittee hId hAbsent
    · exact .consensusUpdate1 hId ⟨p, hp, hCommittee⟩ hAbsent
    · exact .consensusUpdate2 hId ⟨p, hp, hCommittee⟩ ⟨q, hq, hUpdate⟩ hAbsent
  · intro hMisses
    cases hMisses with
    | trustedSyncCommittee hId hAbsent => exact ⟨_, hId, .inl ⟨hAbsent, rfl⟩⟩
    | consensusUpdate1 hId hHolds hAbsent =>
        obtain ⟨p, hp, hCommittee⟩ := hHolds
        exact ⟨_, hId, .inr ⟨p, hp, _, hCommittee, .inl ⟨hAbsent, rfl⟩⟩⟩
    | consensusUpdate2 hId hHolds hHolds' hAbsent =>
        obtain ⟨p, hp, hCommittee⟩ := hHolds
        obtain ⟨q, hq, hUpdate⟩ := hHolds'
        exact ⟨_, hId, .inr ⟨p, hp, _, hCommittee, .inr ⟨q, hq, _, hUpdate, hAbsent, rfl⟩⟩⟩

/-- Under the URL of a kind, the bytes are read as the raw message of that kind. -/
theorem tryFromAny_of_typeUrl {any : Any} {k : MisbehaviourKind} (hUrl : any.typeUrl = k.typeUrl) :
    Misbehaviour.tryFromAny E any = (do
      let fields ← Outcome.lift .protoDecode (k.decode E any.value)
      tryFromFields E fields.clientId fields.trustedSyncCommittee fields.consensusUpdate1
        fields.consensusUpdate2 fun u u' => k.data u u') := by
  cases k with
  | finalizedHeader =>
      rw [MisbehaviourKind.typeUrl] at hUrl
      rw [Misbehaviour.tryFromAny, if_pos hUrl, decodeFinalizedHeaderMisbehaviour,
        MisbehaviourKind.decode]
      cases E.finalizedHeaderMisbehaviourCodec.decode any.value with
      | error e => rfl
      | ok raw => rfl
  | nextSyncCommittee =>
      rw [MisbehaviourKind.typeUrl] at hUrl
      have hNotFinalized : any.typeUrl ≠ ETHEREUM_FINALIZED_HEADER_MISBEHAVIOUR_TYPE_URL := by
        rw [hUrl]
        decide
      rw [Misbehaviour.tryFromAny, if_neg hNotFinalized, if_pos hUrl,
        decodeNextSyncCommitteeMisbehaviour, MisbehaviourKind.decode]
      cases E.nextSyncCommitteeMisbehaviourCodec.decode any.value with
      | error e => rfl
      | ok raw => rfl

end Misbehaviour

theorem MisbehaviourKind.typeUrl_injective {k k' : MisbehaviourKind} (h : k.typeUrl = k'.typeUrl) :
    k = k' := by
  revert h
  cases k <;> cases k' <;> decide

theorem MisbehaviourKind.typeUrl_ne_header (k : MisbehaviourKind) :
    k.typeUrl ≠ ETHEREUM_HEADER_TYPE_URL := by
  cases k <;> decide

theorem MisbehaviourKind.typeUrl_mem (k : MisbehaviourKind) : k.typeUrl ∈ messageTypeUrls := by
  cases k <;> decide

/-- A header URL, the URL of a kind of evidence, or one that nothing is sent under. -/
theorem typeUrl_cases (url : String) : url = ETHEREUM_HEADER_TYPE_URL ∨
    (∃ k : MisbehaviourKind, url = k.typeUrl) ∨ url ∉ messageTypeUrls := by
  by_cases hKnown : url ∈ messageTypeUrls
  · simp only [messageTypeUrls, List.mem_cons, List.not_mem_nil, or_false] at hKnown
    rcases hKnown with hHeader | hFinalized | hNext
    · exact .inl hHeader
    · exact .inr (.inl ⟨.finalizedHeader, hFinalized⟩)
    · exact .inr (.inl ⟨.nextSyncCommittee, hNext⟩)
  · exact .inr (.inr hKnown)

namespace ClientMessage

/-- The two decoders behind the dispatch, at the URLs that lead to them. -/
theorem tryFromAny_of_header {any : Any} (hUrl : any.typeUrl = ETHEREUM_HEADER_TYPE_URL) :
    tryFromAny E any = (do
      let raw ← Outcome.lift .protoDecode (E.headerCodec.decode any.value)
      let header ← Header.tryFromRaw E raw
      pure (.header header)) := by
  rw [tryFromAny, if_pos hUrl, Header.tryFromAny_of_typeUrl hUrl]
  cases E.headerCodec.decode any.value with
  | error e => rfl
  | ok raw => rfl

/-- Under the URL of a kind the dispatch decodes the fields of that kind. -/
theorem tryFromAny_of_kind {any : Any} {k : MisbehaviourKind} (hUrl : any.typeUrl = k.typeUrl) :
    tryFromAny E any = (do
      let fields ← Outcome.lift .protoDecode (k.decode E any.value)
      let m ← Misbehaviour.tryFromFields E fields.clientId fields.trustedSyncCommittee
        fields.consensusUpdate1 fields.consensusUpdate2 fun u u' => k.data u u'
      pure (.misbehaviour m)) := by
  have hNotHeader : any.typeUrl ≠ ETHEREUM_HEADER_TYPE_URL := by
    rw [hUrl]
    exact k.typeUrl_ne_header
  have hMisbehaviour : any.typeUrl = ETHEREUM_FINALIZED_HEADER_MISBEHAVIOUR_TYPE_URL ∨
      any.typeUrl = ETHEREUM_NEXT_SYNC_COMMITTEE_MISBEHAVIOUR_TYPE_URL := by
    cases k with
    | finalizedHeader => exact .inl hUrl
    | nextSyncCommittee => exact .inr hUrl
  rw [tryFromAny, if_neg hNotHeader, if_pos hMisbehaviour, Misbehaviour.tryFromAny_of_typeUrl hUrl]
  cases k.decode E any.value with
  | error e => rfl
  | ok fields => rfl

/-- Any other URL is refused by name, before the bytes are looked at. -/
theorem tryFromAny_of_unknown {any : Any} (hUrl : any.typeUrl ∉ messageTypeUrls) :
    tryFromAny E any = .error (.error (.unknownMessageType any.typeUrl)) :=
  tryFromAny_eq_unknownMessageType.mpr ⟨hUrl, rfl⟩

/-- The dispatch makes a header of exactly the bytes that decode to it. -/
theorem tryFromAny_eq_header {any : Any} {header : Header T} :
    tryFromAny E any = .ok (.header header) ↔ any.typeUrl = ETHEREUM_HEADER_TYPE_URL ∧
      ∃ raw, E.headerCodec.decode any.value = .ok raw ∧ raw.Decodes E header := by
  rcases typeUrl_cases any.typeUrl with hHeader | ⟨k, hKind⟩ | hUnknown
  · simp only [tryFromAny_of_header hHeader, hHeader, Outcome.bind_eq_ok, Outcome.lift_eq_ok,
      Outcome.pure_eq_ok, ClientMessage.header.injEq, Header.tryFromRaw_eq_ok, exists_eq_right,
      true_and]
  · simp only [tryFromAny_of_kind hKind, hKind, k.typeUrl_ne_header, Outcome.bind_eq_ok,
      Outcome.pure_eq_ok, reduceCtorEq, and_false, exists_false, false_and]
  · have hNot : any.typeUrl ≠ ETHEREUM_HEADER_TYPE_URL := by
      intro hHeader
      rw [hHeader] at hUnknown
      exact hUnknown List.mem_cons_self
    simp [tryFromAny_of_unknown hUnknown, hNot]

/-- And evidence of exactly the bytes that decode to it, under the URL of its own kind. -/
theorem tryFromAny_eq_misbehaviour {any : Any} {m : Misbehaviour T} :
    tryFromAny E any = .ok (.misbehaviour m) ↔ any.typeUrl = m.data.kind.typeUrl ∧
      ∃ fields, m.data.kind.decode E any.value = .ok fields ∧ fields.Decodes E m := by
  rcases typeUrl_cases any.typeUrl with hHeader | ⟨k, hKind⟩ | hUnknown
  · simp only [tryFromAny_of_header hHeader, hHeader, m.data.kind.typeUrl_ne_header.symm,
      Outcome.bind_eq_ok, Outcome.pure_eq_ok, reduceCtorEq, and_false, exists_false, false_and]
  · simp only [tryFromAny_of_kind hKind, hKind, Outcome.bind_eq_ok, Outcome.lift_eq_ok,
      Outcome.pure_eq_ok, ClientMessage.misbehaviour.injEq, Misbehaviour.tryFromFields_eq_ok,
      exists_eq_right]
    constructor
    · rintro ⟨fields, hFields, rfl, hDecodes⟩
      exact ⟨rfl, fields, hFields, hDecodes⟩
    · rintro ⟨hUrl, fields, hFields, hDecodes⟩
      obtain rfl := MisbehaviourKind.typeUrl_injective hUrl
      exact ⟨fields, hFields, rfl, hDecodes⟩
  · have hNot : any.typeUrl ≠ m.data.kind.typeUrl := by
      intro hKind
      rw [hKind] at hUnknown
      exact hUnknown m.data.kind.typeUrl_mem
    simp [tryFromAny_of_unknown hUnknown, hNot]

end ClientMessage

/-- A message is refused for the absence of a field. -/
inductive MissesField (E : Externals T) (any : Any) (field : String) : Prop where
  | header {raw : RawHeader T} (typeUrl : any.typeUrl = ETHEREUM_HEADER_TYPE_URL)
      (decoded : E.headerCodec.decode any.value = .ok raw)
      (absent : raw.firstAbsent = some field) : MissesField E any field
  | misbehaviour {k : MisbehaviourKind} {fields : EvidenceFields T}
      (typeUrl : any.typeUrl = k.typeUrl) (decoded : k.decode E any.value = .ok fields)
      (misses : fields.Misses E field) : MissesField E any field

/-- A missing field is named exactly when it is the first one that the decoder of
the message finds absent. -/
theorem ClientMessage.tryFromAny_eq_missing {any : Any} {field : String} :
    tryFromAny E any = .error (.error (.protoMissing field)) ↔ MissesField E any field := by
  rcases typeUrl_cases any.typeUrl with hHeader | ⟨k, hKind⟩ | hUnknown
  · have hDecode (e : ExternalError) : Error.protoDecode e ≠ .protoMissing field := nofun
    simp only [tryFromAny_of_header hHeader, Outcome.bind_eq_error, Outcome.lift_eq_error,
      Outcome.lift_eq_ok, Outcome.pure_ne_error, hDecode, Header.tryFromRaw_eq_missing, and_false,
      exists_false, false_or, or_false]
    constructor
    · rintro ⟨raw, hDecoded, hAbsent⟩
      exact .header hHeader hDecoded hAbsent
    · intro hMisses
      cases hMisses with
      | header _ hDecoded hAbsent => exact ⟨_, hDecoded, hAbsent⟩
      | @misbehaviour k _ hKind => exact absurd (hKind.symm.trans hHeader) k.typeUrl_ne_header
  · have hDecode (e : ExternalError) : Error.protoDecode e ≠ .protoMissing field := nofun
    simp only [tryFromAny_of_kind hKind, Outcome.bind_eq_error, Outcome.lift_eq_error,
      Outcome.lift_eq_ok, Outcome.pure_ne_error, hDecode, Misbehaviour.tryFromFields_eq_missing,
      and_false, exists_false, false_or, or_false]
    constructor
    · rintro ⟨fields, hDecoded, hAbsent⟩
      exact .misbehaviour hKind hDecoded hAbsent
    · intro hMisses
      cases hMisses with
      | header hHeader => exact absurd (hKind.symm.trans hHeader) k.typeUrl_ne_header
      | misbehaviour hKind' hDecoded hAbsent =>
          obtain rfl := MisbehaviourKind.typeUrl_injective (hKind.symm.trans hKind')
          exact ⟨_, hDecoded, hAbsent⟩
  · rw [tryFromAny_of_unknown hUnknown]
    constructor
    · intro hError
      cases hError
    · intro hMisses
      cases hMisses with
      | header hHeader =>
          rw [hHeader] at hUnknown
          exact absurd List.mem_cons_self hUnknown
      | @misbehaviour k _ hKind =>
          rw [hKind] at hUnknown
          exact absurd k.typeUrl_mem hUnknown

/-- For any bytes under any URL: which header or which evidence they are accepted
as, which absent field they are refused for, and that they are refused with an error
otherwise. The other crates may convert as they like, so an error of theirs can come
before a missing field, in the order in which the source converts. -/
theorem clientMessages_exact (E : Externals T) (any : Any) :
    (∀ header, ClientMessage.tryFromAny E any = .ok (.header header) ↔
      any.typeUrl = ETHEREUM_HEADER_TYPE_URL ∧
        ∃ raw, E.headerCodec.decode any.value = .ok raw ∧ raw.Decodes E header) ∧
    (∀ m, ClientMessage.tryFromAny E any = .ok (.misbehaviour m) ↔
      any.typeUrl = m.data.kind.typeUrl ∧
        ∃ fields, m.data.kind.decode E any.value = .ok fields ∧ fields.Decodes E m) ∧
    (∀ field, ClientMessage.tryFromAny E any = .error (.error (.protoMissing field)) ↔
      MissesField E any field) ∧
    ((∀ message, ClientMessage.tryFromAny E any ≠ .ok message) →
      (ClientMessage.tryFromAny E any).IsError) :=
  ⟨fun _ => ClientMessage.tryFromAny_eq_header, fun _ => ClientMessage.tryFromAny_eq_misbehaviour,
    fun _ => ClientMessage.tryFromAny_eq_missing,
    (ClientMessage.tryFromAny_returns any).isError⟩

end EthereumElc
