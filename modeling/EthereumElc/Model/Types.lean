import EthereumElc.General.Outcome
import Mathlib.Data.List.Basic
import Mathlib.Order.MinMax

/-! Values of the consensus crates and of the enclave host that the light client
stores and compares. Machine integers keep the width of the source. -/
namespace EthereumElc

abbrev Bytes := List UInt8
abbrev U64 := UInt64
abbrev Slot := U64
abbrev Epoch := U64
abbrev SyncCommitteePeriod := U64

instance uint64LinearOrder : LinearOrder UInt64 where
  le_refl := UInt64.le_refl
  le_trans _ _ _ := UInt64.le_trans
  lt_iff_le_not_ge a b := by
    rw [UInt64.not_le]
    exact ⟨fun h => ⟨UInt64.le_of_lt h, h⟩, fun h => h.2⟩
  le_antisymm _ _ := UInt64.le_antisymm
  le_total := UInt64.le_total
  toDecidableLE := inferInstance

/-- A byte array of a fixed length. -/
structure FixedBytes (n : Nat) where
  toList : Bytes
  length_toList : toList.length = n
  deriving DecidableEq

/-- The default of a byte array is all zeros. -/
instance (n : Nat) : Inhabited (FixedBytes n) := ⟨⟨List.replicate n 0, by simp⟩⟩

@[ext] theorem FixedBytes.ext {n : Nat} {a b : FixedBytes n} (h : a.toList = b.toList) : a = b := by
  cases a
  cases b
  simp_all

abbrev H256 := FixedBytes 32
abbrev Root := H256
abbrev Address := FixedBytes 20
abbrev Version := FixedBytes 4

/-- Copies a slice into a hash. A slice of another length aborts. -/
def H256.fromSlice {ε : Type} (bytes : Bytes) : Outcome ε H256 :=
  if h : bytes.length = 32 then .ok ⟨bytes, h⟩
  else .error (.abort "source slice length does not match destination slice length")

/-- A copied slice is the bytes of the hash, so its length was right. -/
theorem H256.fromSlice_eq_ok {ε : Type} {bytes : Bytes} {hash : H256} :
    (H256.fromSlice bytes : Outcome ε H256) = .ok hash ↔ hash.toList = bytes := by
  unfold H256.fromSlice
  split_ifs with h
  · rw [Except.ok.injEq]
    constructor
    · rintro rfl
      rfl
    · exact fun hEq => FixedBytes.ext hEq.symm
  · simp only [false_iff]
    rintro rfl
    exact h hash.length_toList

/-- With the length checked first, the copy does not abort. -/
theorem H256.fromSlice_returns {ε : Type} {bytes : Bytes} (h : bytes.length = 32) :
    (H256.fromSlice bytes : Outcome ε H256).Returns := by
  rw [H256.fromSlice, dif_pos h]
  exact Outcome.returns_ok _

/-- The height of the enclave host. -/
structure Height where
  revisionNumber : U64
  revisionHeight : U64
  deriving DecidableEq, Repr

/-- The height of the light client crates, a type of its own in the source. -/
structure LcTypesHeight where
  revisionNumber : U64
  revisionHeight : U64
  deriving DecidableEq, Repr

/-- The two heights have the same fields, and the conversions change neither. -/
def toLcpHeight (height : LcTypesHeight) : Height :=
  ⟨height.revisionNumber, height.revisionHeight⟩

def toLcTypesHeight (height : Height) : LcTypesHeight :=
  ⟨height.revisionNumber, height.revisionHeight⟩

/-- Nanoseconds in a second. -/
def NANOS_PER_SECOND : Nat := 1000000000

/-- The last nanosecond of the year 9999. -/
def MAX_UNIX_TIMESTAMP_NANOS : Nat := 253402300799999999999

/-- A host time is a number of nanoseconds since the Unix epoch. -/
structure Time where
  asUnixTimestampNanos : Nat
  le_max : asUnixTimestampNanos ≤ MAX_UNIX_TIMESTAMP_NANOS
  deriving DecidableEq

@[ext] theorem Time.ext {a b : Time} (h : a.asUnixTimestampNanos = b.asUnixTimestampNanos) :
    a = b := by
  cases a
  cases b
  simp_all

/-- The default timestamp of a consensus state, and the earliest time there is. -/
def Time.unixEpoch : Time := ⟨0, Nat.zero_le _⟩

/-- The whole seconds, which are what a verification context takes. -/
def Time.asUnixTimestampSecs (t : Time) : U64 :=
  UInt64.ofNat (t.asUnixTimestampNanos / NANOS_PER_SECOND)

/-- A span of time, with less than a second of nanoseconds. -/
structure Duration where
  secs : U64
  nanos : UInt32
  nanos_lt : nanos.toNat < NANOS_PER_SECOND
  deriving DecidableEq

/-- The whole span in nanoseconds. -/
def Duration.asNanos (d : Duration) : Nat := d.secs.toNat * NANOS_PER_SECOND + d.nanos.toNat

theorem Duration.asNanos_secs (d : Duration) : d.asNanos / NANOS_PER_SECOND = d.secs.toNat := by
  have hNanos := d.nanos_lt
  simp only [asNanos, NANOS_PER_SECOND] at hNanos ⊢
  omega

theorem Duration.asNanos_nanos (d : Duration) : d.asNanos % NANOS_PER_SECOND = d.nanos.toNat := by
  have hNanos := d.nanos_lt
  simp only [asNanos, NANOS_PER_SECOND] at hNanos ⊢
  omega

/-- The seconds and the nanoseconds are the digits of the span. -/
theorem Duration.asNanos_injective : Function.Injective Duration.asNanos := by
  intro a b h
  have hSecs : a.secs = b.secs := by
    apply UInt64.toNat_inj.mp
    rw [← a.asNanos_secs, h, b.asNanos_secs]
  have hNanos : a.nanos = b.nanos := by
    apply UInt32.toNat_inj.mp
    rw [← a.asNanos_nanos, h, b.asNanos_nanos]
  cases a
  cases b
  simp_all

def Duration.fromSecs (secs : U64) : Duration := ⟨secs, 0, by decide⟩

def Duration.ZERO : Duration := Duration.fromSecs 0

@[simp] theorem Duration.asNanos_ZERO : Duration.ZERO.asNanos = 0 := by decide

instance : Inhabited Duration := ⟨Duration.ZERO⟩

/-- A trust level. Which fractions there are is up to the constructor of the crate. -/
structure Fraction where
  numerator : U64
  denominator : U64
  deriving DecidableEq, Repr

instance : Inhabited Fraction := ⟨⟨0, 0⟩⟩

/-- Generalised indices of one fork. -/
structure ForkSpec where
  finalizedRootGindex : U64
  currentSyncCommitteeGindex : U64
  nextSyncCommitteeGindex : U64
  executionPayloadGindex : U64
  executionPayloadStateRootGindex : U64
  executionPayloadBlockNumberGindex : U64
  executionBlockHashGindex : U64
  deriving DecidableEq, Repr

/-- A fork: its version, the epoch it starts at, and where its trees keep what is proved. -/
structure ForkParameter where
  version : Version
  epoch : Epoch
  spec : ForkSpec
  deriving DecidableEq

/-- The forks of a chain in the order of their indices. -/
structure ForkParameters where
  genesisVersion : Version
  forks : List ForkParameter
  deriving DecidableEq

instance : Inhabited ForkParameters := ⟨⟨default, []⟩⟩

/-- The name of a client at its host. A valid one is not empty. -/
structure ClientId where
  asStr : String
  deriving DecidableEq, Repr

/-- A message with the name of its type. The host and the proto crates have each
their own copy of this type, converted field by field. -/
structure Any where
  typeUrl : String
  value : Bytes
  deriving DecidableEq, Repr

end EthereumElc
