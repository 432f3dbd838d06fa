import Mathlib.Data.List.Basic

/-! The wire format of protocol buffers: a message is a list of numbered fields,
each a varint or a block of bytes. Writers leave out default values; readers
take the last scalar of a number, merge the embedded messages of a number, and
ignore the order of different numbers. -/
namespace Protobuf

/-- Encoded data, the first byte first. -/
abbrev Bytes := List UInt8

/-- Base-128 digits, the least significant first, with a continuation bit. -/
def varint (n : Nat) : Bytes :=
  if n < 128 then [UInt8.ofNat n] else UInt8.ofNat (n % 128 + 128) :: varint (n / 128)
termination_by n
decreasing_by omega

/-- A number with the bytes behind it. Input that ends within a number is an error. -/
def readVarint : Bytes → Option (Nat × Bytes)
  | [] => none
  | byte :: rest =>
      if byte.toNat < 128 then some (byte.toNat, rest)
      else (readVarint rest).map fun (n, rest) => (byte.toNat - 128 + 128 * n, rest)

/-- A number is read back from any bytes that it begins, and nothing behind it is touched. -/
theorem readVarint_varint (n : Nat) (rest : Bytes) :
    readVarint (varint n ++ rest) = some (n, rest) := by
  induction n using Nat.strongRecOn generalizing rest with
  | ind n ih =>
      rw [varint]
      split_ifs with hSmall
      · have hByte : (UInt8.ofNat n).toNat = n := by
          rw [UInt8.toNat_ofNat']
          omega
        simp [readVarint, hByte, hSmall]
      · have hByte : (UInt8.ofNat (n % 128 + 128)).toNat = n % 128 + 128 := by
          rw [UInt8.toNat_ofNat']
          omega
        rw [List.cons_append, readVarint, hByte, if_neg (by omega), ih (n / 128) (by omega)]
        simp only [Option.map_some, Option.some.injEq, Prod.mk.injEq, and_true]
        omega

theorem varint_length_pos (n : Nat) : 0 < (varint n).length := by
  rw [varint]
  split_ifs <;> simp

/-- The two wire types that are needed here: numbers and blocks of bytes. -/
inductive Value where
  | varint (n : Nat)
  | bytes (bytes : Bytes)

/-- A field number with a value. -/
abbrev Field := Nat × Value

/-- The tag carries the field number and the wire type of the value. -/
def writeField : Field → Bytes
  | (number, .varint n) => varint (8 * number) ++ varint n
  | (number, .bytes bytes) => varint (8 * number + 2) ++ (varint bytes.length ++ bytes)

/-- A field with the bytes behind it. Other wire types are an error here, as is a
length that exceeds the rest of the input. -/
def readField (bytes : Bytes) : Option (Field × Bytes) := do
  let (tag, rest) ← readVarint bytes
  if tag % 8 = 0 then
    let (n, rest) ← readVarint rest
    some ((tag / 8, .varint n), rest)
  else if tag % 8 = 2 then
    let (length, rest) ← readVarint rest
    if length ≤ rest.length then
      some ((tag / 8, .bytes (rest.take length)), rest.drop length)
    else none
  else none

/-- A field is read back from any bytes that it begins. Together with the next fact
this lets the fields of a message be read one after the other. -/
theorem readField_writeField (field : Field) (rest : Bytes) :
    readField (writeField field ++ rest) = some (field, rest) := by
  obtain ⟨number, value⟩ := field
  cases value with
  | varint n =>
      have hType : 8 * number % 8 = 0 := by omega
      have hNumber : 8 * number / 8 = number := by omega
      simp [readField, writeField, readVarint_varint]
  | bytes bytes =>
      have hType : (8 * number + 2) % 8 = 2 := by omega
      have hNumber : (8 * number + 2) / 8 = number := by omega
      simp [readField, writeField, readVarint_varint, hType, hNumber]

theorem writeField_length_pos (field : Field) : 0 < (writeField field).length := by
  obtain ⟨number, value⟩ := field
  cases value with
  | varint n =>
      have h := varint_length_pos (8 * number)
      simp only [writeField, List.length_append]
      omega
  | bytes bytes =>
      have h := varint_length_pos (8 * number + 2)
      simp only [writeField, List.length_append]
      omega

def writeMessage (fields : List Field) : Bytes := fields.flatMap writeField

/-- Read fields until the bytes end; each of them takes at least one byte. -/
def readFields : Nat → Bytes → Option (List Field)
  | _, [] => some []
  | 0, _ :: _ => none
  | fuel + 1, bytes => do
      let (field, rest) ← readField bytes
      let fields ← readFields fuel rest
      some (field :: fields)

/-- All fields of a message. The number of bytes bounds the number of fields. -/
def readMessage (bytes : Bytes) : Option (List Field) := readFields bytes.length bytes

/-- Any bound that is not below the number of bytes is enough to read every field
back. The induction is on the fields; each takes one unit of the bound. -/
theorem readFields_writeMessage (fields : List Field) (fuel : Nat)
    (hFuel : (writeMessage fields).length ≤ fuel) :
    readFields fuel (writeMessage fields) = some fields := by
  induction fields generalizing fuel with
  | nil => cases fuel <;> rfl
  | cons field fields ih =>
      have hPos := writeField_length_pos field
      simp only [writeMessage, List.flatMap_cons, List.length_append] at hFuel
      obtain ⟨fuel, rfl⟩ : ∃ k, fuel = k + 1 := ⟨fuel - 1, by omega⟩
      have hWritten : writeMessage (field :: fields) = writeField field ++ writeMessage fields := rfl
      have hNonempty : writeField field ++ writeMessage fields ≠ [] := by
        intro hNil
        rw [List.append_eq_nil_iff] at hNil
        rw [hNil.1] at hPos
        exact absurd hPos (by simp)
      obtain ⟨byte, tail, hCons⟩ := List.exists_cons_of_ne_nil hNonempty
      rw [hWritten, hCons, readFields, ← hCons, readField_writeField]
      · have hRest := ih fuel (by simp only [writeMessage]; omega)
        simp [hRest]
      · simp

/-- A message is read back to its fields, in their order. -/
theorem readMessage_writeMessage (fields : List Field) :
    readMessage (writeMessage fields) = some fields :=
  readFields_writeMessage fields _ (Nat.le_refl _)

/-! Single fields. A reader sees the values of its field number and no others. -/

/-- The values of a field number, in the order of their fields. -/
def values (number : Nat) (fields : List Field) : List Value :=
  fields.filterMap fun field => if field.1 = number then some field.2 else none

/-- The last value of a field number, the one that counts for a scalar. -/
def last (number : Nat) (fields : List Field) : Option Value := (values number fields).getLast?

/-- Zero is the default value and is left out. -/
def writeUint64 (number : Nat) (n : UInt64) : List Field :=
  if n = 0 then [] else [(number, .varint n.toNat)]

/-- An absent field has the default value. A number of more than 64 bits is cut. -/
def asUint64 : Option Value → Option UInt64
  | none => some 0
  | some (.varint n) => some (UInt64.ofNat n)
  | some (.bytes _) => none

def readUint64 (number : Nat) (fields : List Field) : Option UInt64 := asUint64 (last number fields)

/-- The empty bytes are the default value and are left out. -/
def writeBytes (number : Nat) (bytes : Bytes) : List Field :=
  if bytes = [] then [] else [(number, .bytes bytes)]

def asBytes : Option Value → Option Bytes
  | none => some []
  | some (.bytes bytes) => some bytes
  | some (.varint _) => none

def readBytes (number : Nat) (fields : List Field) : Option Bytes := asBytes (last number fields)

/-- How a type is laid out as a message. -/
structure Format (α : Type) where
  write : α → List Field
  read : List Field → Option α
  read_write : ∀ a, read (write a) = some a

variable {α : Type} (format : Format α)

def Format.encode (a : α) : Bytes := writeMessage (format.write a)

def Format.decode (bytes : Bytes) : Option α := (readMessage bytes).bind format.read

/-- Encoded values are decoded to themselves. Other bytes may be decoded too:
nothing says that a value has one encoding only. -/
theorem Format.decode_encode (a : α) : format.decode (format.encode a) = some a := by
  simp [decode, encode, readMessage_writeMessage, format.read_write]

/-- An embedded message is written even when all its fields have default values. -/
def writeOptional (number : Nat) (a : Option α) : List Field :=
  a.toList.map fun a => (number, .bytes (format.encode a))

/-- The fields of an embedded message. A number in its place is an error. -/
def asMessage : Value → Option (List Field)
  | .bytes bytes => readMessage bytes
  | .varint _ => none

/-- The occurrences of an embedded message are merged: one list of all their
fields, in order, is read as a single message. Its scalars are the last ones, its
own embedded messages are merged in turn, and its lists are concatenated. -/
def asOptional : List Value → Option (Option α)
  | [] => some none
  | occurrences => do
      let messages ← occurrences.mapM asMessage
      let a ← format.read messages.flatten
      some (some a)

/-- The embedded message of a field, if there is one. -/
def readOptional (number : Nat) (fields : List Field) : Option (Option α) :=
  asOptional format (values number fields)

def writeRepeated (number : Nat) (as : List α) : List Field :=
  as.map fun a => (number, .bytes (format.encode a))

def asElement : Value → Option α
  | .bytes bytes => format.decode bytes
  | .varint _ => none

def readRepeated (number : Nat) (fields : List Field) : Option (List α) :=
  (values number fields).mapM (asElement format)

section Lookup

variable {number other : Nat}

@[simp] theorem values_append (fields fields' : List Field) :
    values number (fields ++ fields') = values number fields ++ values number fields' := by
  simp [values]

/-- The last value of joined lists is found from the right. -/
@[simp] theorem last_append (fields fields' : List Field) :
    last number (fields ++ fields') = (last number fields').or (last number fields) := by
  simp [last]

@[simp] theorem values_writeUint64 (n : UInt64) : values number (writeUint64 other n) =
    if other = number ∧ n ≠ 0 then [.varint n.toNat] else [] := by
  by_cases hZero : n = 0 <;> by_cases hEq : other = number <;>
    simp [values, writeUint64, hZero, hEq]

@[simp] theorem values_writeBytes (bytes : Bytes) : values number (writeBytes other bytes) =
    if other = number ∧ bytes ≠ [] then [.bytes bytes] else [] := by
  by_cases hNil : bytes = [] <;> by_cases hEq : other = number <;>
    simp [values, writeBytes, hNil, hEq]

/-- A written embedded message is found even when all its fields have default values. -/
@[simp] theorem values_writeOptional (a : Option α) : values number (writeOptional format other a) =
    if other = number then a.toList.map fun a => .bytes (format.encode a) else [] := by
  cases a <;> by_cases hEq : other = number <;> simp [values, writeOptional, hEq]

@[simp] theorem values_writeRepeated (as : List α) : values number (writeRepeated format other as) =
    if other = number then as.map fun a => .bytes (format.encode a) else [] := by
  induction as with
  | nil => simp [values, writeRepeated]
  | cons a as ih => by_cases hEq : other = number <;> simp_all [values, writeRepeated]

@[simp] theorem last_writeUint64 (n : UInt64) : last number (writeUint64 other n) =
    if other = number ∧ n ≠ 0 then some (.varint n.toNat) else none := by
  simp only [last, values_writeUint64]
  split_ifs <;> rfl

@[simp] theorem last_writeBytes (bytes : Bytes) : last number (writeBytes other bytes) =
    if other = number ∧ bytes ≠ [] then some (.bytes bytes) else none := by
  simp only [last, values_writeBytes]
  split_ifs <;> rfl

@[simp] theorem last_writeOptional (a : Option α) : last number (writeOptional format other a) =
    if other = number then a.map fun a => .bytes (format.encode a) else none := by
  simp only [last, values_writeOptional]
  cases a <;> split_ifs <;> rfl

@[simp] theorem last_writeRepeated_of_ne (hNe : other ≠ number) (as : List α) :
    last number (writeRepeated format other as) = none := by
  simp [last, hNe]

/-- A default value is read back from its absence. -/
@[simp] theorem asUint64_ite (n : UInt64) :
    asUint64 (if n = 0 then none else some (.varint n.toNat)) = some n := by
  by_cases hZero : n = 0 <;> simp [asUint64, hZero]

@[simp] theorem asBytes_ite (bytes : Bytes) :
    asBytes (if bytes = [] then none else some (.bytes bytes)) = some bytes := by
  by_cases hNil : bytes = [] <;> simp [asBytes, hNil]

/-- One occurrence is its own merge. -/
@[simp] theorem asOptional_toList (a : Option α) :
    asOptional format (a.toList.map fun a => .bytes (format.encode a)) = some a := by
  cases a with
  | none => rfl
  | some a =>
      have hMessage : asMessage (.bytes (format.encode a)) = some (format.write a) :=
        readMessage_writeMessage _
      simp [asOptional, hMessage, format.read_write]

@[simp] theorem mapM_asElement (as : List α) :
    as.mapM (asElement format ∘ fun a => Value.bytes (format.encode a)) = some as := by
  induction as with
  | nil => rfl
  | cons a as ih =>
      rw [List.mapM_cons, ih]
      simp [asElement, format.decode_encode]

end Lookup

end Protobuf
