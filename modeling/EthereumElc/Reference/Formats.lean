import EthereumElc.General.Protobuf
import EthereumElc.Model.Externals

/-! The messages of `elc.proto` on the wire. The field numbers are those of the
definition; the messages of other packages that a header embeds keep only the
fields that the reference verifiers read. -/
namespace EthereumElc.Reference

open Protobuf

/-- The codec of a message that is laid out by a format. -/
def codec {Raw : Type} (format : Format Raw) : Codec Raw where
  encode raw := .ok (format.encode raw)
  decode bytes :=
    match format.decode bytes with
    | some raw => .ok raw
    | none => .error ⟨"failed to decode Protobuf message"⟩

/-- The codec of a format encodes every message, and decodes what it has encoded. -/
theorem codec_lawful {Raw : Type} (format : Format Raw) : (codec format).Lawful where
  encode_total raw := ⟨_, rfl⟩
  decode_encode raw bytes h := by
    cases h
    simp [codec, format.decode_encode]

def heightFormat : Format RawHeight where
  write h := writeUint64 1 h.revisionNumber ++ writeUint64 2 h.revisionHeight
  read fields := do
    let revisionNumber ← readUint64 1 fields
    let revisionHeight ← readUint64 2 fields
    pure ⟨revisionNumber, revisionHeight⟩
  read_write h := by simp [readUint64]

/-- Two numbers. A zero denominator is a matter of the conversion, not of the message. -/
def fractionFormat : Format RawFraction where
  write f := writeUint64 1 f.numerator ++ writeUint64 2 f.denominator
  read fields := do
    let numerator ← readUint64 1 fields
    let denominator ← readUint64 2 fields
    pure ⟨numerator, denominator⟩
  read_write f := by simp [readUint64]

/-- Signed integers are written as 64-bit two's complement, also those of 32 bits. -/
def durationFormat : Format RawDuration where
  write d := writeUint64 1 d.seconds.toUInt64 ++ writeUint64 2 d.nanos.toInt64.toUInt64
  read fields := do
    let seconds ← readUint64 1 fields
    let nanos ← readUint64 2 fields
    pure ⟨seconds.toInt64, nanos.toInt64.toInt32⟩
  read_write d := by simp [readUint64]

def timestampFormat : Format RawTimestamp where
  write t := writeUint64 1 t.seconds.toUInt64 ++ writeUint64 2 t.nanos.toInt64.toUInt64
  read fields := do
    let seconds ← readUint64 1 fields
    let nanos ← readUint64 2 fields
    pure ⟨seconds.toInt64, nanos.toInt64.toInt32⟩
  read_write t := by simp [readUint64]

/-- Seven numbers. An index of zero is one that the fork does not have. -/
def forkSpecFormat : Format RawForkSpec where
  write s :=
    writeUint64 1 s.finalizedRootGindex ++ writeUint64 2 s.currentSyncCommitteeGindex ++
    writeUint64 3 s.nextSyncCommitteeGindex ++ writeUint64 4 s.executionPayloadGindex ++
    writeUint64 5 s.executionPayloadStateRootGindex ++
    writeUint64 6 s.executionPayloadBlockNumberGindex ++
    writeUint64 7 s.executionBlockHashGindex
  read fields := do
    let finalizedRootGindex ← readUint64 1 fields
    let currentSyncCommitteeGindex ← readUint64 2 fields
    let nextSyncCommitteeGindex ← readUint64 3 fields
    let executionPayloadGindex ← readUint64 4 fields
    let executionPayloadStateRootGindex ← readUint64 5 fields
    let executionPayloadBlockNumberGindex ← readUint64 6 fields
    let executionBlockHashGindex ← readUint64 7 fields
    pure {
      finalizedRootGindex := finalizedRootGindex
      currentSyncCommitteeGindex := currentSyncCommitteeGindex
      nextSyncCommitteeGindex := nextSyncCommitteeGindex
      executionPayloadGindex := executionPayloadGindex
      executionPayloadStateRootGindex := executionPayloadStateRootGindex
      executionPayloadBlockNumberGindex := executionPayloadBlockNumberGindex
      executionBlockHashGindex := executionBlockHashGindex }
  read_write s := by simp [readUint64]

/-- The version is a field of bytes of any length, and the indices are optional. -/
def forkFormat : Format RawFork where
  write f := writeBytes 1 f.version ++ writeUint64 2 f.epoch ++ writeOptional forkSpecFormat 3 f.spec
  read fields := do
    let version ← readBytes 1 fields
    let epoch ← readUint64 2 fields
    let spec ← readOptional forkSpecFormat 3 fields
    pure ⟨version, epoch, spec⟩
  read_write f := by simp [readBytes, readUint64, readOptional]

/-- The forks are repeated, in order. -/
def forkParametersFormat : Format RawForkParameters where
  write p := writeBytes 1 p.genesisForkVersion ++ writeRepeated forkFormat 2 p.forks
  read fields := do
    let genesisForkVersion ← readBytes 1 fields
    let forks ← readRepeated forkFormat 2 fields
    pure ⟨genesisForkVersion, forks⟩
  read_write p := by simp [readBytes, readRepeated]

/-- The fourteen fields of a client state, under the numbers that they have in the
definition. Every embedded message is optional on the wire. -/
def clientStateFormat : Format RawClientState where
  write c :=
    writeBytes 1 c.genesisValidatorsRoot ++ writeUint64 2 c.minSyncCommitteeParticipants ++
    writeUint64 3 c.genesisTime ++ writeOptional forkParametersFormat 4 c.forkParameters ++
    writeUint64 5 c.secondsPerSlot ++ writeUint64 6 c.slotsPerEpoch ++
    writeUint64 7 c.epochsPerSyncCommitteePeriod ++ writeBytes 8 c.ibcAddress ++
    writeBytes 9 c.ibcCommitmentsSlot ++ writeOptional fractionFormat 10 c.trustLevel ++
    writeOptional durationFormat 11 c.trustingPeriod ++
    writeOptional durationFormat 12 c.maxClockDrift ++
    writeUint64 13 c.latestExecutionBlockNumber ++ writeOptional heightFormat 14 c.frozenHeight
  read fields := do
    let genesisValidatorsRoot ← readBytes 1 fields
    let minSyncCommitteeParticipants ← readUint64 2 fields
    let genesisTime ← readUint64 3 fields
    let forkParameters ← readOptional forkParametersFormat 4 fields
    let secondsPerSlot ← readUint64 5 fields
    let slotsPerEpoch ← readUint64 6 fields
    let epochsPerSyncCommitteePeriod ← readUint64 7 fields
    let ibcAddress ← readBytes 8 fields
    let ibcCommitmentsSlot ← readBytes 9 fields
    let trustLevel ← readOptional fractionFormat 10 fields
    let trustingPeriod ← readOptional durationFormat 11 fields
    let maxClockDrift ← readOptional durationFormat 12 fields
    let latestExecutionBlockNumber ← readUint64 13 fields
    let frozenHeight ← readOptional heightFormat 14 fields
    pure {
      genesisValidatorsRoot := genesisValidatorsRoot
      minSyncCommitteeParticipants := minSyncCommitteeParticipants
      genesisTime := genesisTime
      forkParameters := forkParameters
      secondsPerSlot := secondsPerSlot
      slotsPerEpoch := slotsPerEpoch
      epochsPerSyncCommitteePeriod := epochsPerSyncCommitteePeriod
      ibcAddress := ibcAddress
      ibcCommitmentsSlot := ibcCommitmentsSlot
      trustLevel := trustLevel
      trustingPeriod := trustingPeriod
      maxClockDrift := maxClockDrift
      latestExecutionBlockNumber := latestExecutionBlockNumber
      frozenHeight := frozenHeight }
  read_write c := by simp [readBytes, readUint64, readOptional]

def consensusStateFormat : Format RawConsensusState where
  write s :=
    writeUint64 1 s.slot ++ writeBytes 2 s.storageRoot ++
    writeOptional timestampFormat 3 s.timestamp ++ writeBytes 4 s.currentSyncCommittee ++
    writeBytes 5 s.nextSyncCommittee
  read fields := do
    let slot ← readUint64 1 fields
    let storageRoot ← readBytes 2 fields
    let timestamp ← readOptional timestampFormat 3 fields
    let currentSyncCommittee ← readBytes 4 fields
    let nextSyncCommittee ← readBytes 5 fields
    pure ⟨slot, storageRoot, timestamp, currentSyncCommittee, nextSyncCommittee⟩
  read_write s := by simp [readBytes, readUint64, readOptional]

/-- The single key of a committee, and the aggregate key. -/
structure SyncCommitteeMessage where
  pubkey : Bytes
  aggregatePubkey : Bytes

structure TrustedSyncCommitteeMessage where
  trustedHeight : Option RawHeight
  syncCommittee : Option SyncCommitteeMessage
  isNext : Bool

/-- Roots are bytes of any length on the wire. -/
structure BeaconBlockHeaderMessage where
  slot : U64
  proposerIndex : U64
  parentRoot : Bytes
  stateRoot : Bytes
  bodyRoot : Bytes

/-- The two headers and the next committee of an update. The branches that prove
them are left out, as no reference verifier reads them. -/
structure ConsensusUpdateMessage where
  attestedHeader : Option BeaconBlockHeaderMessage
  nextSyncCommittee : Option SyncCommitteeMessage
  finalizedHeader : Option BeaconBlockHeaderMessage
  signatureSlot : U64

/-- The execution block of an update: its state root, its number, and the RLP of its
header. -/
structure ExecutionUpdateMessage where
  stateRoot : Bytes
  blockNumber : U64
  rlp : Bytes

structure AccountUpdateMessage where
  accountStorageRoot : Bytes

/-- The reference types: sync committees of one key of 48 bytes, and state ids
that are the hashed bytes themselves. A trusted state is a slot with the key of
the trusted committee. -/
abbrev types : ExternalTypes where
  SYNC_COMMITTEE_SIZE := 1
  PublicKey := FixedBytes 48
  decEqPublicKey := inferInstance
  defaultPublicKey := default
  StateID := Any × Any
  TrustedConsensusState := Slot × FixedBytes 48
  ProtoTrustedSyncCommittee := TrustedSyncCommitteeMessage
  ProtoConsensusUpdate := ConsensusUpdateMessage
  ProtoExecutionUpdate := ExecutionUpdateMessage
  ProtoAccountUpdate := AccountUpdateMessage

def syncCommitteeFormat : Format SyncCommitteeMessage where
  write m := writeBytes 1 m.pubkey ++ writeBytes 2 m.aggregatePubkey
  read fields := do
    let pubkey ← readBytes 1 fields
    let aggregatePubkey ← readBytes 2 fields
    pure ⟨pubkey, aggregatePubkey⟩
  read_write m := by simp [readBytes]

/-- The flag that tells the next committee from the current one is written as a number. -/
def trustedSyncCommitteeFormat : Format TrustedSyncCommitteeMessage where
  write m :=
    writeOptional heightFormat 1 m.trustedHeight ++
    writeOptional syncCommitteeFormat 2 m.syncCommittee ++ writeUint64 3 m.isNext.toUInt64
  read fields := do
    let trustedHeight ← readOptional heightFormat 1 fields
    let syncCommittee ← readOptional syncCommitteeFormat 2 fields
    let isNext ← readUint64 3 fields
    pure ⟨trustedHeight, syncCommittee, isNext != 0⟩
  read_write m := by
    obtain ⟨height, committee, isNext⟩ := m
    cases isNext <;> simp [readUint64, readOptional, Bool.toUInt64, asUint64]

def beaconBlockHeaderFormat : Format BeaconBlockHeaderMessage where
  write m :=
    writeUint64 1 m.slot ++ writeUint64 2 m.proposerIndex ++ writeBytes 3 m.parentRoot ++
    writeBytes 4 m.stateRoot ++ writeBytes 5 m.bodyRoot
  read fields := do
    let slot ← readUint64 1 fields
    let proposerIndex ← readUint64 2 fields
    let parentRoot ← readBytes 3 fields
    let stateRoot ← readBytes 4 fields
    let bodyRoot ← readBytes 5 fields
    pure ⟨slot, proposerIndex, parentRoot, stateRoot, bodyRoot⟩
  read_write m := by simp [readBytes, readUint64]

def consensusUpdateFormat : Format ConsensusUpdateMessage where
  write m :=
    writeOptional beaconBlockHeaderFormat 1 m.attestedHeader ++
    writeOptional syncCommitteeFormat 2 m.nextSyncCommittee ++
    writeOptional beaconBlockHeaderFormat 4 m.finalizedHeader ++ writeUint64 9 m.signatureSlot
  read fields := do
    let attestedHeader ← readOptional beaconBlockHeaderFormat 1 fields
    let nextSyncCommittee ← readOptional syncCommitteeFormat 2 fields
    let finalizedHeader ← readOptional beaconBlockHeaderFormat 4 fields
    let signatureSlot ← readUint64 9 fields
    pure ⟨attestedHeader, nextSyncCommittee, finalizedHeader, signatureSlot⟩
  read_write m := by simp [readUint64, readOptional]

def executionUpdateFormat : Format ExecutionUpdateMessage where
  write m := writeBytes 1 m.stateRoot ++ writeUint64 3 m.blockNumber ++ writeBytes 7 m.rlp
  read fields := do
    let stateRoot ← readBytes 1 fields
    let blockNumber ← readUint64 3 fields
    let rlp ← readBytes 7 fields
    pure ⟨stateRoot, blockNumber, rlp⟩
  read_write m := by simp [readBytes, readUint64]

def accountUpdateFormat : Format AccountUpdateMessage where
  write m := writeBytes 2 m.accountStorageRoot
  read fields := do
    let accountStorageRoot ← readBytes 2 fields
    pure ⟨accountStorageRoot⟩
  read_write m := by simp [readBytes]

/-- Four embedded messages, each of them optional on the wire. -/
def headerFormat : Format (RawHeader types) where
  write h :=
    writeOptional trustedSyncCommitteeFormat 1 h.trustedSyncCommittee ++
    writeOptional consensusUpdateFormat 2 h.consensusUpdate ++
    writeOptional executionUpdateFormat 3 h.executionUpdate ++
    writeOptional accountUpdateFormat 4 h.accountUpdate
  read fields := do
    let trustedSyncCommittee ← readOptional trustedSyncCommitteeFormat 1 fields
    let consensusUpdate ← readOptional consensusUpdateFormat 2 fields
    let executionUpdate ← readOptional executionUpdateFormat 3 fields
    let accountUpdate ← readOptional accountUpdateFormat 4 fields
    pure ⟨trustedSyncCommittee, consensusUpdate, executionUpdate, accountUpdate⟩
  read_write h := by
    obtain ⟨committee, consensus, execution, account⟩ := h
    simp [readOptional]

/-- A string is a field of its UTF-8 bytes. -/
def stringBytes (s : String) : Bytes := s.toByteArray.data.toList

/-- Bytes that are not valid UTF-8 are an error. -/
def stringOfBytes (bytes : Bytes) : Option String := String.fromUTF8? ⟨bytes.toArray⟩

@[simp] theorem stringOfBytes_stringBytes (s : String) : stringOfBytes (stringBytes s) = some s := by
  have hBytes : (⟨s.toByteArray.data.toList.toArray⟩ : ByteArray) = s.toByteArray := by simp
  rw [stringOfBytes, stringBytes, hBytes, String.fromUTF8?, dif_pos s.isValidUTF8]
  rfl

/-- The client id, the committee that signed, and the two updates that contradict
each other. -/
def finalizedHeaderMisbehaviourFormat : Format (RawFinalizedHeaderMisbehaviour types) where
  write m :=
    writeBytes 1 (stringBytes m.clientId) ++
    writeOptional trustedSyncCommitteeFormat 2 m.trustedSyncCommittee ++
    writeOptional consensusUpdateFormat 3 m.consensusUpdate1 ++
    writeOptional consensusUpdateFormat 4 m.consensusUpdate2
  read fields := do
    let clientId ← readBytes 1 fields
    let clientId ← stringOfBytes clientId
    let trustedSyncCommittee ← readOptional trustedSyncCommitteeFormat 2 fields
    let consensusUpdate1 ← readOptional consensusUpdateFormat 3 fields
    let consensusUpdate2 ← readOptional consensusUpdateFormat 4 fields
    pure ⟨clientId, trustedSyncCommittee, consensusUpdate1, consensusUpdate2⟩
  read_write m := by
    obtain ⟨clientId, committee, update1, update2⟩ := m
    simp [readBytes, readOptional]

/-- The two messages have the same fields under the same numbers. -/
def nextSyncCommitteeMisbehaviourFormat : Format (RawNextSyncCommitteeMisbehaviour types) where
  write m := finalizedHeaderMisbehaviourFormat.write
    ⟨m.clientId, m.trustedSyncCommittee, m.consensusUpdate1, m.consensusUpdate2⟩
  read fields := (finalizedHeaderMisbehaviourFormat.read fields).map fun m =>
    ⟨m.clientId, m.trustedSyncCommittee, m.consensusUpdate1, m.consensusUpdate2⟩
  read_write m := by simp [Format.read_write]

end EthereumElc.Reference
