import EthereumElc.Model.Assumptions
import EthereumElc.Model.State
import EthereumElc.Reference.Formats
import Mathlib.Data.Nat.Digits.Defs

/-! Reference functions for the other crates: conversions that check lengths and
ranges, and verifiers of one canonical chain. Every result that assumes something
of the other crates holds of these, so no assumption is void. -/
namespace EthereumElc.Reference

/-- Bytes of the length of their type. All other lengths are an error. -/
def fixedBytes (n : Nat) (bytes : Bytes) : Except ExternalError (FixedBytes n) :=
  if h : bytes.length = n then .ok ⟨bytes, h⟩ else .error ⟨"invalid length"⟩

theorem fixedBytes_eq_ok {n : Nat} {bytes : Bytes} {a : FixedBytes n} :
    fixedBytes n bytes = .ok a ↔ a.toList = bytes := by
  unfold fixedBytes
  split_ifs with h
  · rw [Except.ok.injEq]
    exact ⟨fun hEq => by rw [← hEq], fun hEq => FixedBytes.ext hEq.symm⟩
  · simp only [false_iff]
    rintro rfl
    exact h a.length_toList

@[simp] theorem fixedBytes_toList {n : Nat} (a : FixedBytes n) : fixedBytes n a.toList = .ok a :=
  fixedBytes_eq_ok.mpr rfl

def required {α : Type} (field : String) : Option α → Except ExternalError α
  | some a => .ok a
  | none => .error ⟨field ++ " is missing"⟩

@[simp] theorem required_some {α : Type} (field : String) (a : α) :
    required field (some a) = .ok a := rfl

/-- The fork of a raw message, whose version has four bytes and whose indices are there. -/
def forkParameter (raw : RawFork) : Except ExternalError ForkParameter := do
  let version ← fixedBytes 4 raw.version
  let spec ← required "spec" raw.spec
  pure {
    version := version
    epoch := raw.epoch
    spec := {
      finalizedRootGindex := spec.finalizedRootGindex
      currentSyncCommitteeGindex := spec.currentSyncCommitteeGindex
      nextSyncCommitteeGindex := spec.nextSyncCommitteeGindex
      executionPayloadGindex := spec.executionPayloadGindex
      executionPayloadStateRootGindex := spec.executionPayloadStateRootGindex
      executionPayloadBlockNumberGindex := spec.executionPayloadBlockNumberGindex
      executionBlockHashGindex := spec.executionBlockHashGindex } }

/-- The constructor of fork parameters takes forks in the order of their epochs. -/
def forkParametersNew (genesisVersion : Version) (forks : List ForkParameter) :
    Except ExternalError ForkParameters :=
  if forks.Pairwise fun fork later => fork.epoch ≤ later.epoch then .ok ⟨genesisVersion, forks⟩
  else .error ⟨"invalid fork parameters order"⟩

/-- The constructor keeps the forks that it accepts. -/
theorem eq_of_forkParametersNew {genesisVersion : Version} {forks : List ForkParameter}
    {fp : ForkParameters} (h : forkParametersNew genesisVersion forks = .ok fp) :
    fp = ⟨genesisVersion, forks⟩ := by
  unfold forkParametersNew at h
  split_ifs at h
  exact (Except.ok.inj h).symm

/-- The forks are converted one by one and then constructed together. -/
def convertProtoToForkParameters (raw : RawForkParameters) :
    Except ExternalError ForkParameters := do
  let genesisVersion ← fixedBytes 4 raw.genesisForkVersion
  let forks ← raw.forks.mapM forkParameter
  forkParametersNew genesisVersion forks

theorem forkParameter_of_represents {raw : RawFork} {fork : ForkParameter}
    (h : raw.Represents fork) : forkParameter raw = .ok fork := by
  obtain ⟨hVersion, hEpoch, spec, hSpec, h1, h2, h3, h4, h5, h6, h7⟩ := h
  rw [forkParameter, hVersion, hSpec, fixedBytes_toList, required_some, hEpoch]
  simp only [bind, Except.bind, pure, Except.pure, h1, h2, h3, h4, h5, h6, h7]

/-- A raw message is converted to the parameters that it represents, if these can
be constructed. -/
theorem convertProtoToForkParameters_of_represents {raw : RawForkParameters} {fp : ForkParameters}
    (h : raw.Represents fp) (hNew : forkParametersNew fp.genesisVersion fp.forks = .ok fp) :
    convertProtoToForkParameters raw = .ok fp := by
  have hForks : raw.forks.mapM forkParameter = .ok fp.forks := by
    obtain ⟨-, hForks⟩ := h
    generalize raw.forks = raws at hForks
    generalize fp.forks = forks at hForks
    induction hForks with
    | nil => rfl
    | cons hHead _ ih =>
        rw [List.mapM_cons, forkParameter_of_represents hHead, ih]
        rfl
  rw [convertProtoToForkParameters, h.genesisForkVersion, fixedBytes_toList, hForks]
  exact hNew

/-- Converted parameters have their forks in order. -/
theorem forkParametersNew_of_convert {raw : RawForkParameters} {fp : ForkParameters}
    (h : convertProtoToForkParameters raw = .ok fp) :
    forkParametersNew fp.genesisVersion fp.forks = .ok fp := by
  unfold convertProtoToForkParameters at h
  cases hVersion : fixedBytes 4 raw.genesisForkVersion with
  | error e => simp [hVersion, bind, Except.bind] at h
  | ok genesisVersion =>
      cases hForks : raw.forks.mapM forkParameter with
      | error e => simp [hVersion, hForks, bind, Except.bind] at h
      | ok forks =>
          have hNew : forkParametersNew genesisVersion forks = .ok fp := by
            simpa [hVersion, hForks, bind, Except.bind] using h
          have hFields := eq_of_forkParametersNew hNew
          rw [hFields] at hNew ⊢
          exact hNew

/-- A fraction is at most one and has a denominator. -/
def fractionNew (numerator denominator : U64) : Except ExternalError Fraction :=
  if denominator = 0 ∨ denominator < numerator then .error ⟨"invalid fraction"⟩
  else .ok ⟨numerator, denominator⟩

/-- The span of a protobuf duration, of any sign and however it is split. -/
def rawNanos (raw : RawDuration) : Int := raw.seconds.toInt * NANOS_PER_SECOND + raw.nanos.toInt

/-- The longest protobuf duration. -/
def MAX_DURATION_NANOS : Nat := I64_MAX * NANOS_PER_SECOND + 999999999

/-- A duration of so many nanoseconds. -/
def durationOfNanos (nanos : Nat) : Duration where
  secs := UInt64.ofNat (nanos / NANOS_PER_SECOND)
  nanos := UInt32.ofNat (nanos % NANOS_PER_SECOND)
  nanos_lt := by
    have hLt : nanos % NANOS_PER_SECOND < NANOS_PER_SECOND := Nat.mod_lt _ (by decide)
    rw [UInt32.toNat_ofNat', Nat.mod_eq_of_lt (hLt.trans (by decide))]
    exact hLt

theorem durationOfNanos_secs {nanos : Nat} (h : nanos ≤ MAX_DURATION_NANOS) :
    (durationOfNanos nanos).secs.toNat = nanos / NANOS_PER_SECOND := by
  have hSecs : nanos / NANOS_PER_SECOND ≤ I64_MAX := Nat.div_le_div_right h
  rw [durationOfNanos, UInt64.toNat_ofNat', Nat.mod_eq_of_lt (hSecs.trans_lt (by decide))]

theorem durationOfNanos_asNanos {nanos : Nat} (h : nanos ≤ MAX_DURATION_NANOS) :
    (durationOfNanos nanos).asNanos = nanos := by
  have hLt : nanos % NANOS_PER_SECOND < NANOS_PER_SECOND := Nat.mod_lt _ (by decide)
  rw [Duration.asNanos, durationOfNanos_secs h, durationOfNanos, UInt32.toNat_ofNat',
    Nat.mod_eq_of_lt (hLt.trans (by decide))]
  exact Nat.div_add_mod' _ _

/-- The span is clamped to the longest one and must not be negative. The sign is
that of the normalised seconds, though: a negative span of less than a second has
none, and its nanoseconds are cast to 32 bits without a sign. -/
def durationTryFrom (raw : RawDuration) : Except ExternalError Duration :=
  if 0 ≤ rawNanos raw then .ok (durationOfNanos (min (rawNanos raw).toNat MAX_DURATION_NANOS))
  else if -(NANOS_PER_SECOND : Int) < rawNanos raw then
    .ok (durationOfNanos (2 ^ 32 + rawNanos raw).toNat)
  else .error ⟨"duration is negative"⟩

/-- Seconds beyond the signed range are clamped to its end. -/
def durationInto (d : Duration) : RawDuration :=
  ⟨Int64.ofNat (min d.secs.toNat I64_MAX), Int32.ofNat d.nanos.toNat⟩

theorem rawNanos_durationInto {d : Duration} (h : d.secs.toNat ≤ I64_MAX) :
    rawNanos (durationInto d) = d.asNanos := by
  have hNanos := d.nanos_lt
  have hSecs : d.secs.toNat < 2 ^ 63 := by
    simp only [I64_MAX] at h
    omega
  have hNanosBound : d.nanos.toNat < 2 ^ 31 := by
    simp only [NANOS_PER_SECOND] at hNanos
    omega
  rw [durationInto, min_eq_left h, rawNanos, Duration.asNanos, Int64.toInt_ofNat_of_lt hSecs,
    Int32.toInt_ofNat_of_lt hNanosBound]
  push_cast
  rfl

/-- A duration within the signed range is read back from its message. -/
theorem durationTryFrom_durationInto {d : Duration} (h : d.secs.toNat ≤ I64_MAX) :
    durationTryFrom (durationInto d) = .ok d := by
  have hMax : d.asNanos ≤ MAX_DURATION_NANOS :=
    Nat.add_le_add (Nat.mul_le_mul_right _ h) (Nat.le_of_lt_succ d.nanos_lt)
  rw [durationTryFrom, rawNanos_durationInto h, if_pos (Int.natCast_nonneg _), Int.toNat_natCast,
    min_eq_left hMax]
  exact congrArg Except.ok (Duration.asNanos_injective (durationOfNanos_asNanos hMax))

/-- Both branches read a span of at most the longest one. -/
theorem secs_le_of_durationTryFrom {raw : RawDuration} {d : Duration}
    (h : durationTryFrom raw = .ok d) : d.secs.toNat ≤ I64_MAX := by
  have hSecs {nanos : Nat} (hMax : nanos ≤ MAX_DURATION_NANOS) :
      (durationOfNanos nanos).secs.toNat ≤ I64_MAX := by
    rw [durationOfNanos_secs hMax]
    exact Nat.div_le_div_right hMax
  unfold durationTryFrom at h
  split_ifs at h with hNonneg hSmall
  · rw [← Except.ok.inj h]
    exact hSecs (min_le_right _ _)
  · have hMax : 2 ^ 32 ≤ MAX_DURATION_NANOS := by decide
    rw [← Except.ok.inj h]
    apply hSecs
    omega

/-- An instant of so many nanoseconds after the epoch. -/
def timeOfNanos (nanos : Nat) : Except ExternalError Time :=
  if h : nanos ≤ MAX_UNIX_TIMESTAMP_NANOS then .ok ⟨nanos, h⟩
  else .error ⟨"timestamp is out of range"⟩

theorem timeOfNanos_eq_ok {nanos : Nat} {time : Time} :
    timeOfNanos nanos = .ok time ↔ time.asUnixTimestampNanos = nanos := by
  unfold timeOfNanos
  split_ifs with h
  · rw [Except.ok.injEq]
    exact ⟨fun hEq => by rw [← hEq], fun hEq => Time.ext hEq.symm⟩
  · simp only [false_iff]
    rintro rfl
    exact h time.le_max

/-- Seconds before the epoch and a full second of nanoseconds are errors. -/
def timeFromUnixTimestamp (seconds : Int64) (nanos : UInt32) : Except ExternalError Time :=
  if 0 ≤ seconds.toInt ∧ nanos.toNat < NANOS_PER_SECOND then
    timeOfNanos (seconds.toInt.toNat * NANOS_PER_SECOND + nanos.toNat)
  else .error ⟨"timestamp is out of range"⟩

/-- An instant is made exactly of the seconds and nanoseconds that add up to it. -/
theorem timeFromUnixTimestamp_eq_ok {seconds : Int64} {nanos : UInt32} {time : Time} :
    timeFromUnixTimestamp seconds nanos = .ok time ↔
      0 ≤ seconds.toInt ∧ nanos.toNat < NANOS_PER_SECOND ∧
        (time.asUnixTimestampNanos : Int) = seconds.toInt * NANOS_PER_SECOND + nanos.toNat := by
  unfold timeFromUnixTimestamp
  split_ifs with h
  · rw [timeOfNanos_eq_ok]
    obtain ⟨hSeconds, hNanos⟩ := h
    simp only [hSeconds, hNanos, true_and]
    rw [← Int.natCast_inj]
    push_cast
    rw [Int.toNat_of_nonneg hSeconds]
  · simp only [false_iff]
    rintro ⟨hSeconds, hNanos, -⟩
    exact h ⟨hSeconds, hNanos⟩

/-- Of the rules for client ids only this one matters here: the empty one is invalid. -/
def clientIdFromStr (s : String) : Except ExternalError ClientId :=
  if s = "" then .error ⟨"client id is empty"⟩ else .ok ⟨s⟩

/-- A committee has one member in the reference chain, who takes part in every update. -/
def committeeOf (pubkey aggregatePubkey : types.PublicKey) : SyncCommittee types :=
  ⟨#v[pubkey], aggregatePubkey⟩

/-- The single member signs every update. -/
def syncAggregate : SyncAggregate types := ⟨#v[true], []⟩

def syncCommittee (message : SyncCommitteeMessage) : Except ExternalError (SyncCommittee types) := do
  let pubkey ← fixedBytes 48 message.pubkey
  let aggregatePubkey ← fixedBytes 48 message.aggregatePubkey
  pure (committeeOf pubkey aggregatePubkey)

/-- The height and the committee must both be there. -/
def trustedSyncCommitteeTryFrom (message : TrustedSyncCommitteeMessage) :
    Except ExternalError (TrustedSyncCommittee types) := do
  let trustedHeight ← required "trusted_height" message.trustedHeight
  let committee ← required "sync_committee" message.syncCommittee
  let committee ← syncCommittee committee
  pure ⟨⟨trustedHeight.revisionNumber, trustedHeight.revisionHeight⟩, committee, message.isNext⟩

def beaconBlockHeader (message : BeaconBlockHeaderMessage) :
    Except ExternalError BeaconBlockHeader := do
  let parentRoot ← fixedBytes 32 message.parentRoot
  let stateRoot ← fixedBytes 32 message.stateRoot
  let bodyRoot ← fixedBytes 32 message.bodyRoot
  pure ⟨message.slot, message.proposerIndex, parentRoot, stateRoot, bodyRoot⟩

/-- Both headers must be there, the next committee need not be. -/
def convertProtoToConsensusUpdate (message : ConsensusUpdateMessage) :
    Except ExternalError (ConsensusUpdateInfo types) := do
  let attestedHeader ← required "attested_header" message.attestedHeader
  let attestedHeader ← beaconBlockHeader attestedHeader
  let finalizedHeader ← required "finalized_header" message.finalizedHeader
  let finalizedHeader ← beaconBlockHeader finalizedHeader
  let nextSyncCommittee ← message.nextSyncCommittee.mapM syncCommittee
  pure {
    attestedHeader := attestedHeader
    nextSyncCommittee := nextSyncCommittee.map fun committee => (committee, [])
    finalizedHeader := (finalizedHeader, [])
    syncAggregate := Reference.syncAggregate
    signatureSlot := message.signatureSlot
    finalizedExecutionRoot := default
    finalizedExecutionBranch := [] }

def convertProtoToExecutionUpdate (message : ExecutionUpdateMessage) :
    Except ExternalError ExecutionUpdateInfo := do
  let stateRoot ← fixedBytes 32 message.stateRoot
  pure {
    stateRoot := stateRoot
    stateRootBranch := []
    blockNumber := message.blockNumber
    blockNumberBranch := []
    rlp := message.rlp
    blockHash := default
    blockHashBranch := [] }

def accountUpdateTryFrom (message : AccountUpdateMessage) :
    Except ExternalError AccountUpdateInfo := do
  let accountStorageRoot ← fixedBytes 32 message.accountStorageRoot
  pure ⟨[], accountStorageRoot⟩

def syncCommitteeMessage (committee : SyncCommittee types) : SyncCommitteeMessage :=
  ⟨(committee.pubkeys.get ⟨0, Nat.one_pos⟩).toList, committee.aggregatePubkey.toList⟩

def beaconBlockHeaderMessage (header : BeaconBlockHeader) : BeaconBlockHeaderMessage :=
  ⟨header.slot, header.proposerIndex, header.parentRoot.toList, header.stateRoot.toList,
    header.bodyRoot.toList⟩

/-- The messages keep what the reference verifiers read, and leave out the branches. -/
def messageEncoders : MessageEncoders types where
  trustedSyncCommitteeInto committee := {
    trustedHeight := some ⟨committee.height.revisionNumber, committee.height.revisionHeight⟩
    syncCommittee := some (syncCommitteeMessage committee.syncCommittee)
    isNext := committee.isNext }
  convertConsensusUpdateToProto u := .ok {
    attestedHeader := some (beaconBlockHeaderMessage u.attestedHeader)
    nextSyncCommittee := u.nextSyncCommittee.map fun (committee, _) => syncCommitteeMessage committee
    finalizedHeader := some (beaconBlockHeaderMessage u.finalizedBeaconHeader)
    signatureSlot := u.signatureSlot }

def protoExternals : ProtoExternals types where
  clientStateCodec := codec clientStateFormat
  consensusStateCodec := codec consensusStateFormat
  headerCodec := codec headerFormat
  finalizedHeaderMisbehaviourCodec := codec finalizedHeaderMisbehaviourFormat
  nextSyncCommitteeMisbehaviourCodec := codec nextSyncCommitteeMisbehaviourFormat
  convertProtoToForkParameters := convertProtoToForkParameters
  fractionNew := fractionNew
  addressTryFrom := fixedBytes 20
  durationTryFrom := durationTryFrom
  durationInto := durationInto
  timeFromUnixTimestamp := timeFromUnixTimestamp
  timeFromUnixTimestampNanos := timeOfNanos
  publicKeyTryFrom := fixedBytes 48
  publicKeyToVec := FixedBytes.toList
  clientIdFromStr := clientIdFromStr
  trustedSyncCommitteeTryFrom := trustedSyncCommitteeTryFrom
  convertProtoToConsensusUpdate := convertProtoToConsensusUpdate
  convertProtoToExecutionUpdate := convertProtoToExecutionUpdate
  accountUpdateTryFrom := accountUpdateTryFrom

/-- The conversion of durations meets what the round trips of client states rely on. -/
theorem protoExternals_convertsDurations : protoExternals.ConvertsDurations where
  tryFrom_into := durationTryFrom_durationInto
  secs_le := secs_le_of_durationTryFrom

/-- The conversions read back what they write, for every value that was itself
decoded. They are not inverse to each other on all messages, and need not be. -/
theorem protoExternals_lawful : protoExternals.Lawful where
  clientState := codec_lawful _
  consensusState := codec_lawful _
  forkParameters _ _ _ hDecoded hRepresents :=
    convertProtoToForkParameters_of_represents hRepresents (forkParametersNew_of_convert hDecoded)
  fraction numerator denominator f h := by
    simp only [protoExternals, fractionNew] at h
    split_ifs at h
    cases h
    exact ⟨rfl, rfl⟩
  address _ _ h := fixedBytes_eq_ok.mp h
  duration _ _ := protoExternals_convertsDurations.decoded
  time _ _ _ := timeFromUnixTimestamp_eq_ok
  publicKey key key' h := FixedBytes.ext (fixedBytes_eq_ok.mp h)
  publicKey_decoded _ key _ := fixedBytes_toList key
  publicKey_nil key h := by
    have hKey : fixedBytes 48 [] = .ok key := h
    have hLength := key.length_toList
    rw [fixedBytes_eq_ok.mp hKey] at hLength
    exact absurd hLength (by decide)

/-- The conversions of the fields of a client state are exact. -/
theorem protoExternals_convertsClientStates :
    protoExternals.ConvertsClientStates forkParametersNew where
  clientState := codec_lawful _
  durations := protoExternals_convertsDurations
  address _ _ := fixedBytes_eq_ok
  fraction := protoExternals_lawful.fraction
  built _ _ _ := eq_of_forkParametersNew
  accepted _ _ := convertProtoToForkParameters_of_represents
  constructed _ _ := forkParametersNew_of_convert

theorem protoExternals_separating : protoExternals.Separating where
  clientState_total := (codec_lawful _).encode_total
  clientState := (codec_lawful _).injective
  consensusState := (codec_lawful _).injective
  duration _ _ _ _ := protoExternals_convertsDurations.eq_of_into_eq
  publicKey _ _ _ _ _ _ hEq := FixedBytes.ext hEq

/-! The canonical chain. It is in Gloas from its first epoch, and a payload is
revealed every two slots, so that two finalized slots refer to each execution
block. The storage trie holds the bytes of every path except the empty one. -/

/-- The key of a sync committee period. No key is the default one. -/
def scheduleKey (period : Nat) : types.PublicKey :=
  ⟨List.replicate 48 (UInt8.ofNat (period % 255 + 1)), by simp⟩

/-- A state with keys of the schedule passes its own validation. -/
theorem scheduleKey_ne_default (period : Nat) : scheduleKey period ≠ default := by
  intro hEq
  have hList : List.replicate 48 (UInt8.ofNat (period % 255 + 1)) = List.replicate 48 0 :=
    congrArg FixedBytes.toList hEq
  have hByte := congrArg UInt8.toNat (List.replicate_right_injective (by decide) hList)
  rw [UInt8.toNat_ofNat'] at hByte
  have hZero : (0 : UInt8).toNat = 0 := rfl
  omega

def stateRoot (n : U64) : H256 := ⟨List.replicate 32 (UInt8.ofNat (n.toNat % 255 + 1)), by simp⟩

def storageRoot (root : H256) (address : Address) : H256 :=
  ⟨address.toList ++ root.toList.take 12, by
    simp [address.length_toList, root.length_toList]⟩

/-- The committed bytes of a value, cut or filled up to 32. -/
def commitment (value : Bytes) : H256 :=
  ⟨(value ++ List.replicate 32 0).take 32, by simp⟩

/-- Every path but the empty one holds its own bytes, in every block. -/
def content (_root _slot : H256) (path : String) : Option H256 :=
  if path = "" then none else some (commitment (stringBytes path))

def chain : CanonicalChain := ⟨stateRoot, storageRoot, commitment, content⟩

/-- The time of the slot that revealed a block: the slot before the two slots whose
bids are on top of the block, and the genesis for block 0. -/
def blockSeconds (n : U64) : Nat := 1606824023 + 6 * (2 * n.toNat - 1)

/-- Two slots refer to each block, the second of them after a slot without a payload. -/
def blocks : ExecutionBlocks where
  timestamp n := blockSeconds n * NANOS_PER_SECOND
  executionBlock slot := slot / 2

/-- The RLP of a block header, cut down to the timestamp: the big-endian bytes of
the number, after a byte that says how many they are. -/
def rlpOfTimestamp (seconds : Nat) : Bytes :=
  let digits := (Nat.digits 256 seconds).reverse
  UInt8.ofNat (0x80 + digits.length) :: digits.map UInt8.ofNat

/-- The timestamp in the RLP of a header. Empty bytes are an error. -/
def timestampOfRlp : Bytes → Except ExternalError Nat
  | [] => .error ⟨"rlp is empty"⟩
  | _ :: bytes => .ok (Nat.ofDigits 256 (bytes.reverse.map UInt8.toNat))

/-- The timestamp of a header is read back from its RLP. -/
theorem timestampOfRlp_rlpOfTimestamp (seconds : Nat) :
    timestampOfRlp (rlpOfTimestamp seconds) = .ok seconds := by
  have hDigits : ((Nat.digits 256 seconds).map UInt8.ofNat).map UInt8.toNat =
      Nat.digits 256 seconds := by
    rw [List.map_map, List.map_congr_left (g := id), List.map_id]
    intro digit hDigit
    have hLt : digit < 256 := Nat.digits_lt_base (by decide) hDigit
    exact UInt8.toNat_ofNat_of_lt hLt
  simp only [rlpOfTimestamp, timestampOfRlp, ← List.map_reverse, List.reverse_reverse, hDigits,
    Nat.ofDigits_digits]

/-- The header of a block of the chain. -/
def blockRlp (n : U64) : Bytes := rlpOfTimestamp (blockSeconds n)

def GLOAS_INDEX : Nat := 6

/-- Whether the epoch of a slot is one of Gloas, by the fork parameters of the context. -/
def isGloas (ctx : LightClientContext) (slot : Slot) : Bool :=
  ctx.forkParameters.forks[GLOAS_INDEX]?.any fun fork => fork.epoch ≤ slot / ctx.slotsPerEpoch

def computeTimestampAtSlot (ctx : LightClientContext) (slot : Slot) : Nat :=
  ctx.genesisTime.toNat + slot.toNat * ctx.secondsPerSlot.toNat

/-- Before Gloas the timestamp is that of the finalized slot. Since then the block
is the parent of the slot's bid, and its timestamp is read from its header. -/
def executionUpdateTimestamp (executionUpdate : ExecutionUpdateInfo) (ctx : LightClientContext)
    (slot : Slot) : Except ExternalError Nat :=
  if isGloas ctx slot then
    (timestampOfRlp executionUpdate.rlp).map fun seconds => seconds * NANOS_PER_SECOND
  else .ok (computeTimestampAtSlot ctx slot * NANOS_PER_SECOND)

/-- In Gloas an update with the header of its block has the timestamp of the block,
whatever its slot is. -/
theorem executionUpdateTimestamp_of_rlp {executionUpdate : ExecutionUpdateInfo}
    {ctx : LightClientContext} {slot : Slot} (hGloas : isGloas ctx slot = true)
    (hRlp : executionUpdate.rlp = blockRlp executionUpdate.blockNumber) :
    executionUpdateTimestamp executionUpdate ctx slot =
      .ok (blocks.timestamp executionUpdate.blockNumber) := by
  rw [executionUpdateTimestamp, if_pos hGloas, hRlp, blockRlp, timestampOfRlp_rlpOfTimestamp]
  rfl

/-- The period of a slot in a context, as the verifiers compute it. -/
def periodAtSlot (ctx : LightClientContext) (slot : Slot) : Nat :=
  (slot / ctx.slotsPerEpoch / ctx.epochsPerSyncCommitteePeriod).toNat

def rejected {α : Type} : Except ExternalError α := .error ⟨"verification failed"⟩

/-- A check without a result. -/
def accept (condition : Prop) [Decidable condition] : Except ExternalError Unit :=
  if condition then .ok () else rejected

theorem accept_eq_ok {condition : Prop} [Decidable condition] :
    accept condition = .ok () ↔ condition := by
  by_cases h : condition <;> simp [accept, rejected, h]

/-- The trusted committee must be the one whose key the stored state has. -/
def trustedConsensusStateNew (s : ConsensusState types) (committee : SyncCommittee types)
    (isNext : Bool) : Except ExternalError types.TrustedConsensusState :=
  if committee.aggregatePubkey = (if isNext then s.nextSyncCommittee else s.currentSyncCommittee)
  then .ok (s.slot, committee.aggregatePubkey) else rejected

/-- The announced committee, if there is one, is that of the following period. -/
def onSchedule (ctx : LightClientContext) (u : ConsensusUpdateInfo types) : Bool :=
  match u.nextSyncCommittee with
  | none => true
  | some (committee, _) =>
      committee.aggregatePubkey = scheduleKey (periodAtSlot ctx u.finalizedBeaconHeader.slot + 1)

/-- Updates are checked against the chain itself. The header of the block is only
looked at since Gloas. -/
def validateUpdates (ctx : LightClientContext) (trusted : types.TrustedConsensusState)
    (u : ConsensusUpdateInfo types) (executionUpdate : ExecutionUpdateInfo) :
    Except ExternalError Unit :=
  accept (trusted.1 < u.finalizedBeaconHeader.slot ∧ onSchedule ctx u = true ∧
    executionUpdate.blockNumber = blocks.executionBlock u.finalizedBeaconHeader.slot ∧
    executionUpdate.stateRoot = stateRoot executionUpdate.blockNumber ∧
    (isGloas ctx u.finalizedBeaconHeader.slot = true →
      executionUpdate.rlp = blockRlp executionUpdate.blockNumber))

/-- Evidence is two relevant updates that contradict each other in the finalized
header of a slot, or in the next sync committee of a period. -/
def validateMisbehaviour (ctx : LightClientContext) (trusted : types.TrustedConsensusState) :
    Verifier.Misbehaviour types → Except ExternalError Unit
  | .finalizedHeader ⟨u, u'⟩ =>
      accept (trusted.1 < u.finalizedBeaconHeader.slot ∧ trusted.1 < u'.finalizedBeaconHeader.slot ∧
        u.finalizedBeaconHeader.slot = u'.finalizedBeaconHeader.slot ∧
        u.finalizedBeaconHeader ≠ u'.finalizedBeaconHeader)
  | .nextSyncCommittee ⟨u, u'⟩ =>
      accept (trusted.1 < u.finalizedBeaconHeader.slot ∧ trusted.1 < u'.finalizedBeaconHeader.slot ∧
        periodAtSlot ctx u.finalizedBeaconHeader.slot =
          periodAtSlot ctx u'.finalizedBeaconHeader.slot ∧
        u.nextSyncCommittee.map (·.1.aggregatePubkey) ≠
          u'.nextSyncCommittee.map (·.1.aggregatePubkey))

/-- Within a period the keys stay. In the next period the next key becomes the
current one, and the announced committee takes its place. -/
def computeSyncCommittees (ctx : LightClientContext) (s : ConsensusState types)
    (u : ConsensusUpdateInfo types) : Except ExternalError (NewSyncCommittees types) :=
  let storePeriod := periodAtSlot ctx s.slot
  let updatePeriod := periodAtSlot ctx u.finalizedBeaconHeader.slot
  if updatePeriod = storePeriod then .ok ⟨s.currentSyncCommittee, s.nextSyncCommittee⟩
  else if updatePeriod = storePeriod + 1 then
    match u.nextSyncCommittee with
    | some (committee, _) => .ok ⟨s.nextSyncCommittee, committee.aggregatePubkey⟩
    | none => .error ⟨"no next sync committee"⟩
  else .error ⟨"unexpected finalized period"⟩

/-- The reference functions, with the verifiers of the canonical chain. A state id
is the pair of the hashed bytes, so there are no collisions. -/
def externals : Externals types where
  toProtoExternals := protoExternals
  BELLATRIX_INDEX := 1
  computeSyncCommitteePeriodAtSlot ctx slot := ctx.dividePeriod slot
  trustedSyncCommitteeValidate _ := .ok ()
  executionUpdateTimestamp := executionUpdateTimestamp
  trustedConsensusStateNew := trustedConsensusStateNew
  validateUpdates := validateUpdates
  validateMisbehaviour := validateMisbehaviour
  verifyAccountStorage root address accountUpdate :=
    accept (accountUpdate.accountStorageRoot = storageRoot root address)
  validateStateTimestampWithinTrustingPeriod now trustingPeriod timestamp :=
    accept (now < timestamp + trustingPeriod.asNanos)
  validateHeaderTimestampNotFuture now maxClockDrift timestamp :=
    accept (timestamp < now + maxClockDrift.asNanos)
  computeSyncCommittees := computeSyncCommittees
  verifyMembership c s path value _ _ :=
    if content s.storageRoot c.ibcCommitmentsSlot path = some (commitment value) then
      .ok (commitment value)
    else rejected
  verifyNonMembership c s path _ _ :=
    accept (content s.storageRoot c.ibcCommitmentsSlot path = none)
  genStateIdFromAny anyClientState anyConsensusState := .ok (anyClientState, anyConsensusState)

/-- A state is expired from the last instant of its trusting period on. -/
theorem validateStateTimestampWithinTrustingPeriod_eq_ok {now timestamp : Nat} {d : Duration} :
    externals.validateStateTimestampWithinTrustingPeriod now d timestamp = .ok () ↔
      now < timestamp + d.asNanos := accept_eq_ok

/-- A header at the very end of the drift is refused. -/
theorem validateHeaderTimestampNotFuture_eq_ok {now timestamp : Nat} {d : Duration} :
    externals.validateHeaderTimestampNotFuture now d timestamp = .ok () ↔
      timestamp < now + d.asNanos := accept_eq_ok

theorem externals_exactTimeChecks : externals.ExactTimeChecks where
  withinTrustingPeriod _ _ _ := validateStateTimestampWithinTrustingPeriod_eq_ok
  notFuture _ _ _ := validateHeaderTimestampNotFuture_eq_ok

theorem externals_lawful : externals.Lawful := protoExternals_lawful

theorem externals_generatesIds : externals.GeneratesIds where
  clientState := externals_lawful.clientState.encode_total
  consensusState := externals_lawful.consensusState.encode_total
  genStateIdFromAny _ _ := ⟨_, rfl⟩

/-- Equal ids are equal pairs of hashed bytes. -/
theorem externals_collisionFree : externals.CollisionFree := by
  intro c s c' s' id h h'
  cases h
  cases h'
  exact ⟨rfl, rfl⟩

/-- The proofs do not read the latest block number at all. -/
theorem externals_boundsProofHeight : externals.BoundsProofHeight where
  membership c c' s path value proof committed n hSame _ h := by
    obtain ⟨-, -, -, -, -, -, -, -, hSlot, -⟩ := ClientState.sameConfig_iff.mp hSame
    simp only [externals] at h ⊢
    rw [hSlot]
    exact h
  nonMembership c c' s path proof n hSame _ h := by
    obtain ⟨-, -, -, -, -, -, -, -, hSlot, -⟩ := ClientState.sameConfig_iff.mp hSame
    simp only [externals] at h ⊢
    rw [hSlot]
    exact h

/-- A trusted state has the slot of the stored one, so an update that is irrelevant
to the stored state is refused. -/
theorem externals_rejectsIrrelevant : externals.RejectsIrrelevant := by
  intro ctx s committee isNext trusted u executionUpdate hTrusted hIrrelevant hAccepted
  have hTrusted : trustedConsensusStateNew s committee isNext = .ok trusted := hTrusted
  unfold trustedConsensusStateNew at hTrusted
  split_ifs at hTrusted
  · cases hTrusted
    obtain ⟨hLt, -⟩ := accept_eq_ok.mp hAccepted
    exact absurd hLt (of_decide_eq_false hIrrelevant)
  · cases hTrusted
  · cases hTrusted
    obtain ⟨hLt, -⟩ := accept_eq_ok.mp hAccepted
    exact absurd hLt (of_decide_eq_false hIrrelevant)
  · cases hTrusted

theorem externals_acceptsComputedKeys : externals.AcceptsComputedKeys :=
  fun _ _ _ keys _ => ⟨⟨_, fixedBytes_toList keys.currentSyncCommittee⟩,
    ⟨_, fixedBytes_toList keys.nextSyncCommittee⟩⟩

/-- The announced committees and the rotation are those of the schedule, for every client. -/
theorem externals_followsSchedule (c : ClientState) :
    FollowsSchedule externals.toVerifiers c scheduleKey where
  nextSyncCommittee now trusted u executionUpdate committee branch hAccepted hNext := by
    obtain ⟨-, hSchedule, -⟩ := accept_eq_ok.mp hAccepted
    simp only [onSchedule, hNext, decide_eq_true_eq] at hSchedule
    exact hSchedule
  rotation now s u keys h := by
    have h : computeSyncCommittees (c.buildContext now) s u = .ok keys := h
    simp only [computeSyncCommittees] at h
    split_ifs at h with hSame hNext
    · cases h
      exact .inl ⟨hSame, rfl⟩
    · split at h
      · rename_i committee branch hCommittee
        cases h
        exact .inr ⟨hNext, committee, branch, hCommittee, rfl⟩
      · cases h

/-- The verifiers look the roots and the commitments up in the chain itself. -/
theorem externals_followsChain (c : ClientState) : FollowsChain externals.toVerifiers c chain where
  updates _ _ _ _ hAccepted := (accept_eq_ok.mp hAccepted).2.2.2.1
  account _ _ _ hAccepted := accept_eq_ok.mp hAccepted
  membership c s path value height proof committed h := by
    simp only [externals] at h
    split_ifs at h with hContent
    · cases h
      exact ⟨hContent, rfl⟩
    · cases h
  nonMembership _ _ _ _ _ hAccepted := accept_eq_ok.mp hAccepted

theorem externals_computesPeriods : externals.ComputesPeriods := fun _ _ => rfl

/-- The shared check of the two verifiers is the relevance of the update. -/
def relevant (_ctx : LightClientContext) (trusted : types.TrustedConsensusState)
    (u : ConsensusUpdateInfo types) : Prop := trusted.1 < u.finalizedBeaconHeader.slot

/-- Two relevant updates that finalize different headers of one slot are accepted as
evidence. -/
theorem externals_detectsForks : DetectsForks externals.toVerifiers relevant where
  updates _ _ _ _ hAccepted := (accept_eq_ok.mp hAccepted).1
  evidence _ _ _ _ hFirst hSecond hSlot hNe := accept_eq_ok.mpr ⟨hFirst, hSecond, hSlot, hNe⟩

end EthereumElc.Reference
