import Mathlib.Data.List.Basic

/-!
# Writing protobuf messages

The wire format of proto3 as far as an encoder needs it: varints, keys, and
fields of the varint and the length-delimited wire types.  A scalar field with
its default value is left out; a field of a `oneof` is always written.
-/

namespace Syncpond.Library.Protobuf

/-- Seven bits at a time, the lowest first, at most `fuel + 1` bytes. -/
def varintBytes : Nat → Nat → List UInt8
  | 0, number => [UInt8.ofNat number]
  | fuel + 1, number =>
      if number < 128 then [UInt8.ofNat number]
      else
        UInt8.ofNat (number % 128 + 128) :: varintBytes fuel (number / 128)

/-- A varint of at most ten bytes, which is enough for 64 bits. -/
def varint (number : Nat) : List UInt8 :=
  varintBytes 9 number

/-- The key of a field. -/
def key (field wireType : Nat) : List UInt8 :=
  varint (field * 8 + wireType)

/-- A length-delimited field, always written. -/
def delimited (field : Nat) (bytes : List UInt8) : List UInt8 :=
  key field 2 ++ varint bytes.length ++ bytes

/-- A field with a number. -/
def uint64Field (field : Nat) (value : UInt64) : List UInt8 :=
  if value = 0 then [] else key field 0 ++ varint value.toNat

/-- A field with a truth value. -/
def boolField (field : Nat) (value : Bool) : List UInt8 :=
  if value then key field 0 ++ varint 1 else []

/-- A field with bytes. -/
def bytesField (field : Nat) (bytes : List UInt8) : List UInt8 :=
  if bytes.isEmpty then [] else delimited field bytes

/-- A field with a text. -/
def stringField (field : Nat) (text : String) : List UInt8 :=
  bytesField field text.toUTF8.data.toList

/-- The key of a field below 16 is one byte. -/
theorem key_of_lt {field wireType : Nat} (low : field * 8 + wireType < 128) :
    key field wireType = [UInt8.ofNat (field * 8 + wireType)] := by
  simp [key, varint, varintBytes, low]

/-- A delimited field below 16 starts with its key. -/
theorem exists_delimited_eq_cons {field : Nat} (low : field < 16)
    (bytes : List UInt8) :
    ∃ rest, delimited field bytes = UInt8.ofNat (field * 8 + 2) :: rest := by
  refine ⟨varint bytes.length ++ bytes, ?_⟩
  rw [delimited, key_of_lt (by omega)]
  rfl

end Syncpond.Library.Protobuf
