import EthereumElc.Model.Externals

/-! The consensus state: its initial check and its conversions to and from the
protobuf message and the typed bytes that the host stores. -/
namespace EthereumElc

variable {T : ExternalTypes} (E : Externals T)

def ETHEREUM_CONSENSUS_STATE_TYPE_URL : String := "/ibc.lightclients.ethereum.v1.ConsensusState"

/-- The conversion of an `i32` to a `u32`, which refuses negative values. -/
def u32TryFrom (n : Int32) : Option UInt32 :=
  if n < 0 then none else some n.toUInt32

/-- The conversion keeps the value, and succeeds from zero on. -/
theorem u32TryFrom_eq_some {n : Int32} {m : UInt32} :
    u32TryFrom n = some m ↔ 0 ≤ n.toInt ∧ n.toUInt32 = m := by
  unfold u32TryFrom
  split_ifs with hNeg
  · rw [Int32.lt_iff_toInt_lt, Int32.toInt_zero] at hNeg
    simp [Int.not_le.mpr hNeg]
  · rw [Int32.lt_iff_toInt_lt, Int32.toInt_zero, Int.not_lt] at hNeg
    simp [hNeg]

/-- A converted value is the number that it was. -/
theorem toNat_of_u32TryFrom {n : Int32} {m : UInt32} (h : u32TryFrom n = some m) :
    (m.toNat : Int) = n.toInt := by
  obtain ⟨hNonneg, rfl⟩ := u32TryFrom_eq_some.mp h
  have hInt : n.toInt = n.toBitVec.toInt := rfl
  have hNat : n.toUInt32.toNat = n.toBitVec.toNat := rfl
  rw [hInt, BitVec.toInt_eq_toNat_cond] at hNonneg ⊢
  split_ifs at hNonneg ⊢
  · rw [hNat]
  · omega

/-- Both casts drop the bits that do not fit, as `as` does. -/
def timestampToProtoTimestamp (timestamp : Time) : RawTimestamp where
  seconds := Int64.ofNat (timestamp.asUnixTimestampNanos / NANOS_PER_SECOND)
  nanos := Int32.ofNat (timestamp.asUnixTimestampNanos % NANOS_PER_SECOND)

namespace ConsensusState

/-- The sync committee period of the state, for the verifiers. The division is done
by another crate and aborts there on a context with a zero divisor. -/
def currentPeriod (s : ConsensusState T) (ctx : LightClientContext) :
    Outcome Empty SyncCommitteePeriod :=
  E.computeSyncCommitteePeriodAtSlot ctx s.slot

/-- The initial check, in the order of the source. The storage root is a hash of 32
bytes, so the second condition never holds. -/
def validate (s : ConsensusState T) : Result Unit :=
  if s.slot = 0 then
    .error (.error (.uninitializedConsensusStateField "slot"))
  else if s.storageRoot.toList.isEmpty then
    .error (.error (.uninitializedConsensusStateField "storage_root"))
  else if s.timestamp.asUnixTimestampNanos = 0 then
    .error (.error (.uninitializedConsensusStateField "timestamp"))
  else if s.currentSyncCommittee = default then
    .error (.error (.uninitializedConsensusStateField "current_sync_committee"))
  else if s.nextSyncCommittee = default then
    .error (.error (.uninitializedConsensusStateField "next_sync_committee"))
  else .ok ()

/-- Decode a raw message. The next key is refused up front when its bytes are
absent, and is decoded before anything else is looked at. The length of the storage
root is checked before its bytes are copied, and nanoseconds that are negative are
refused. -/
def tryFromRaw (value : RawConsensusState) : Result (ConsensusState T) := do
  Outcome.rejectIf (value.nextSyncCommittee.isEmpty = true)
    (.invalidRawConsensusState "next_sync_committee is empty")
  let nextSyncCommittee ←
    Outcome.lift .ethereumConsensus (E.publicKeyTryFrom value.nextSyncCommittee)
  let timestamp ← Outcome.okOr (.invalidRawConsensusState "timestamp is none") value.timestamp
  Outcome.rejectIf (value.storageRoot.length ≠ 32)
    (.invalidRawConsensusState s!"invalid storage_root length: {value.storageRoot.length}")
  let nanos ← Outcome.okOr
    (.invalidRawConsensusState s!"invalid timestamp nanos: {timestamp.nanos}")
    (u32TryFrom timestamp.nanos)
  let storageRoot ← H256.fromSlice value.storageRoot
  let time ← Outcome.lift .time (E.timeFromUnixTimestamp timestamp.seconds nanos)
  let currentSyncCommittee ←
    Outcome.lift .ethereumConsensus (E.publicKeyTryFrom value.currentSyncCommittee)
  pure {
    slot := value.slot
    storageRoot := storageRoot
    timestamp := time
    currentSyncCommittee := currentSyncCommittee
    nextSyncCommittee := nextSyncCommittee }

/-- Encode a consensus state. It does not fail. -/
def intoRaw (s : ConsensusState T) : RawConsensusState where
  slot := s.slot
  storageRoot := s.storageRoot.toList
  timestamp := some (timestampToProtoTimestamp s.timestamp)
  currentSyncCommittee := E.publicKeyToVec s.currentSyncCommittee
  nextSyncCommittee := E.publicKeyToVec s.nextSyncCommittee

/-- Typed bytes are decoded only under the URL of a consensus state. -/
def tryFromAny (any : Any) : Result (ConsensusState T) :=
  if any.typeUrl = ETHEREUM_CONSENSUS_STATE_TYPE_URL then do
    let raw ← Outcome.lift .protoDecode (E.consensusStateCodec.decode any.value)
    tryFromRaw E raw
  else .error (.error (.unknownConsensusStateType any.typeUrl))

/-- Encode under the URL of a consensus state. -/
def tryIntoAny (s : ConsensusState T) : Result Any := do
  let value ← Outcome.lift .protoEncode (E.consensusStateCodec.encode (intoRaw E s))
  pure ⟨ETHEREUM_CONSENSUS_STATE_TYPE_URL, value⟩

/-- What a raw message must hold to decode to the given state, field by field. -/
structure Decodes (raw : RawConsensusState) (s : ConsensusState T) : Prop where
  slot : s.slot = raw.slot
  storageRoot : s.storageRoot.toList = raw.storageRoot
  timestamp : ∃ t nanos, raw.timestamp = some t ∧ u32TryFrom t.nanos = some nanos ∧
    E.timeFromUnixTimestamp t.seconds nanos = .ok s.timestamp
  currentSyncCommittee : E.publicKeyTryFrom raw.currentSyncCommittee = .ok s.currentSyncCommittee
  nextSyncCommittee_ne_nil : raw.nextSyncCommittee ≠ []
  nextSyncCommittee : E.publicKeyTryFrom raw.nextSyncCommittee = .ok s.nextSyncCommittee

variable {E}

/-- The storage root is missing among the conditions of the check. -/
theorem validate_eq_ok {s : ConsensusState T} : s.validate = .ok () ↔
    s.slot ≠ 0 ∧ s.timestamp.asUnixTimestampNanos ≠ 0 ∧
      s.currentSyncCommittee ≠ default ∧ s.nextSyncCommittee ≠ default := by
  have hRoot : ¬s.storageRoot.toList.isEmpty = true := by
    rw [List.isEmpty_iff_length_eq_zero, s.storageRoot.length_toList]
    decide
  simp only [validate, Outcome.ite_error_eq_ok, ne_eq, and_true, hRoot, Bool.false_eq_true,
    not_false_eq_true, true_and]

/-- The decoder succeeds exactly on the messages that hold the state. -/
theorem tryFromRaw_eq_ok {raw : RawConsensusState} {s : ConsensusState T} :
    tryFromRaw E raw = .ok s ↔ Decodes E raw s := by
  simp only [tryFromRaw, Outcome.bind_eq_ok, Outcome.okOr_eq_ok, Outcome.rejectIf_eq_ok,
    Outcome.lift_eq_ok, H256.fromSlice_eq_ok, Outcome.pure_eq_ok]
  constructor
  · rintro ⟨-, hEmpty, next, hNext, t, hTimestamp, -, -, nanos, hNanos, root, hRoot, time, hTime,
      current, hCurrent, rfl⟩
    exact ⟨rfl, hRoot, ⟨t, nanos, hTimestamp, hNanos, hTime⟩, hCurrent,
      fun h => hEmpty (List.isEmpty_iff.mpr h), hNext⟩
  · rintro ⟨hSlot, hRoot, ⟨t, nanos, hTimestamp, hNanos, hTime⟩, hCurrent, hEmpty, hNext⟩
    have hLength : ¬raw.storageRoot.length ≠ 32 := by
      rw [← hRoot, s.storageRoot.length_toList]
      simp
    exact ⟨(), fun h => hEmpty (List.isEmpty_iff.mp h), s.nextSyncCommittee, hNext, t, hTimestamp,
      (), hLength, nanos, hNanos, s.storageRoot, hRoot, s.timestamp, hTime,
      s.currentSyncCommittee, hCurrent, by rw [← hSlot]⟩

/-- The URL is the first thing that must be right. -/
theorem tryFromAny_eq_ok {any : Any} {s : ConsensusState T} : tryFromAny E any = .ok s ↔
    any.typeUrl = ETHEREUM_CONSENSUS_STATE_TYPE_URL ∧
      ∃ raw, E.consensusStateCodec.decode any.value = .ok raw ∧ Decodes E raw s := by
  unfold tryFromAny
  split_ifs with h
  · simp only [Outcome.bind_eq_ok, Outcome.lift_eq_ok, tryFromRaw_eq_ok, h, true_and]
  · simp [h]

theorem tryIntoAny_eq_ok {any : Any} {s : ConsensusState T} : tryIntoAny E s = .ok any ↔
    any.typeUrl = ETHEREUM_CONSENSUS_STATE_TYPE_URL ∧
      E.consensusStateCodec.encode (intoRaw E s) = .ok any.value := by
  simp only [tryIntoAny, Outcome.bind_eq_ok, Outcome.lift_eq_ok, Outcome.pure_eq_ok]
  constructor
  · rintro ⟨value, hValue, rfl⟩
    exact ⟨rfl, hValue⟩
  · rintro ⟨hUrl, hValue⟩
    exact ⟨any.value, hValue, by rw [← hUrl]⟩

end ConsensusState

/-- The two casts of a timestamp keep its whole seconds and its remaining
nanoseconds, because both are far below the bounds of the signed types. -/
theorem timestampToProtoTimestamp_spec (t : Time) :
    (timestampToProtoTimestamp t).seconds.toInt =
        ((t.asUnixTimestampNanos / NANOS_PER_SECOND : Nat) : Int) ∧
      ∃ nanos, u32TryFrom (timestampToProtoTimestamp t).nanos = some nanos ∧
        nanos.toNat = t.asUnixTimestampNanos % NANOS_PER_SECOND := by
  have hMax := t.le_max
  have hSeconds : t.asUnixTimestampNanos / NANOS_PER_SECOND < 2 ^ 63 := by
    simp only [MAX_UNIX_TIMESTAMP_NANOS, NANOS_PER_SECOND] at hMax ⊢
    omega
  have hNanos : t.asUnixTimestampNanos % NANOS_PER_SECOND < 2 ^ 31 := by
    simp only [NANOS_PER_SECOND]
    omega
  have hNonneg : ¬ Int32.ofNat (t.asUnixTimestampNanos % NANOS_PER_SECOND) < 0 := by
    rw [Int32.lt_iff_toInt_lt, Int32.toInt_ofNat_of_lt hNanos]
    exact Int.not_lt.mpr (Int.natCast_nonneg _)
  refine ⟨Int64.toInt_ofNat_of_lt hSeconds, UInt32.ofNat _, if_neg hNonneg, ?_⟩
  rw [UInt32.toNat_ofNat']
  exact Nat.mod_eq_of_lt (by omega)

/-- A timestamp is what its seconds and nanoseconds say. -/
theorem ProtoExternals.ConvertsConsensusStates.time_of_timestamp {E : ProtoExternals T}
    (hE : E.ConvertsConsensusStates) {t time : Time} {nanos : UInt32}
    (hNanos : u32TryFrom (timestampToProtoTimestamp t).nanos = some nanos) :
    E.timeFromUnixTimestamp (timestampToProtoTimestamp t).seconds nanos = .ok time ↔ time = t := by
  obtain ⟨hSeconds, nanos', hNanos', hValue⟩ := timestampToProtoTimestamp_spec t
  have hEq : nanos = nanos' := Option.some.inj (hNanos.symm.trans hNanos')
  subst hEq
  rw [hE.time, hSeconds, hValue]
  have hDivMod : ((t.asUnixTimestampNanos / NANOS_PER_SECOND : Nat) : Int) * NANOS_PER_SECOND +
      (t.asUnixTimestampNanos % NANOS_PER_SECOND : Nat) = t.asUnixTimestampNanos := by
    exact_mod_cast Nat.div_add_mod' t.asUnixTimestampNanos NANOS_PER_SECOND
  have hLt : t.asUnixTimestampNanos % NANOS_PER_SECOND < NANOS_PER_SECOND :=
    Nat.mod_lt _ (by decide)
  constructor
  · rintro ⟨-, -, hTime⟩
    apply Time.ext
    exact_mod_cast hTime.trans hDivMod
  · rintro rfl
    exact ⟨Int.natCast_nonneg _, hLt, hDivMod.symm⟩

namespace ConsensusState

variable {E}

/-- Whatever an encoded state decodes to is that state. -/
theorem decodes_intoRaw (hE : E.ConvertsConsensusStates) {s s' : ConsensusState T}
    (h : Decodes E (intoRaw E s) s') : s' = s := by
  obtain ⟨hSlot, hRoot, ⟨t, nanos, hTimestamp, hNanos, hTime⟩, hCurrent, -, hNext⟩ := h
  cases hTimestamp
  have hTimestamp := (hE.time_of_timestamp hNanos).mp hTime
  have hCurrent := hE.publicKey _ _ hCurrent
  have hNext := hE.publicKey _ _ hNext
  have hRoot : s'.storageRoot = s.storageRoot := FixedBytes.ext hRoot
  cases s
  cases s'
  simp_all [intoRaw]

/-- A state that is read back from its bytes is the one that was written. -/
theorem tryFromAny_tryIntoAny (hE : E.ConvertsConsensusStates) {s s' : ConsensusState T} {any : Any}
    (hInto : tryIntoAny E s = .ok any) (hFrom : tryFromAny E any = .ok s') : s' = s := by
  obtain ⟨-, hEncode⟩ := tryIntoAny_eq_ok.mp hInto
  obtain ⟨-, raw, hDecode, hDecodes⟩ := tryFromAny_eq_ok.mp hFrom
  rw [hE.consensusState.decode_encode _ _ hEncode] at hDecode
  cases hDecode
  exact decodes_intoRaw hE hDecodes

/-- The raw message of a state whose two keys can be read back decodes to it. -/
theorem decodes_of_keys (hE : E.ConvertsConsensusStates) {s : ConsensusState T}
    (hCurrent : ∃ key, E.publicKeyTryFrom (E.publicKeyToVec s.currentSyncCommittee) = .ok key)
    (hNext : ∃ key, E.publicKeyTryFrom (E.publicKeyToVec s.nextSyncCommittee) = .ok key) :
    Decodes E (intoRaw E s) s := by
  obtain ⟨current, hCurrent⟩ := hCurrent
  obtain ⟨next, hNext⟩ := hNext
  obtain ⟨-, nanos, hNanos, -⟩ := timestampToProtoTimestamp_spec s.timestamp
  refine ⟨rfl, rfl, ⟨_, nanos, rfl, hNanos, (hE.time_of_timestamp hNanos).mpr rfl⟩, ?_, ?_, ?_⟩
  · rw [hE.publicKey _ _ hCurrent] at hCurrent
    exact hCurrent
  · intro hNil
    simp only [intoRaw] at hNil
    rw [hNil] at hNext
    exact hE.publicKey_nil _ hNext
  · rw [hE.publicKey _ _ hNext] at hNext
    exact hNext

/-- It is read back whenever its two keys are accepted again. -/
theorem tryFromAny_of_keys (hE : E.ConvertsConsensusStates) {s : ConsensusState T} {any : Any}
    (hInto : tryIntoAny E s = .ok any)
    (hCurrent : ∃ key, E.publicKeyTryFrom (E.publicKeyToVec s.currentSyncCommittee) = .ok key)
    (hNext : ∃ key, E.publicKeyTryFrom (E.publicKeyToVec s.nextSyncCommittee) = .ok key) :
    tryFromAny E any = .ok s := by
  obtain ⟨hUrl, hEncode⟩ := tryIntoAny_eq_ok.mp hInto
  exact tryFromAny_eq_ok.mpr ⟨hUrl, intoRaw E s, hE.consensusState.decode_encode _ _ hEncode,
    decodes_of_keys hE hCurrent hNext⟩

/-- Encoding a consensus state does not fail. -/
theorem exists_tryIntoAny (hCodec : E.consensusStateCodec.Lawful) (s : ConsensusState T) :
    ∃ any, tryIntoAny E s = .ok any := by
  obtain ⟨bytes, hBytes⟩ := hCodec.encode_total (intoRaw E s)
  exact ⟨⟨ETHEREUM_CONSENSUS_STATE_TYPE_URL, bytes⟩, tryIntoAny_eq_ok.mpr ⟨rfl, hBytes⟩⟩

end ConsensusState

end EthereumElc
