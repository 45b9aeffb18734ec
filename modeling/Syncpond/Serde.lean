import Syncpond.Library.JsonText
import Syncpond.Protocol

/-!
# JSON values and what is written to storage

The server stores JSON values that it never inspects beyond `is_null`, and it
serialises four kinds of records.  `SerdeJson` is the interface to the
serialisation library: the constructors `Null` and `String`, and one codec for
each kind of record, whose round trip is assumed.

`Json` is an instance with the scalar values of JSON, in which whole runs of
the server can be computed.
-/

namespace Syncpond.Serde

open Syncpond.Protocol
open Syncpond.Library.JsonText
open Syncpond.Library.Text (stripPrefix stripPrefix_append)

/-- The persisted record of a bucket. -/
structure BucketRecord where
  id : BucketId
  label : Option String
  flags : UInt32
deriving DecidableEq

/-- What the server uses of the JSON library. -/
class SerdeJson (Value : Type) where
  /-- `Value::Null`. -/
  null : Value
  /-- `Value::String`. -/
  string : String → Value
  /-- `Value::is_null`. -/
  isNull : Value → Bool
  isNull_iff : ∀ value, isNull value = true ↔ value = null
  isNull_string : ∀ text, isNull (string text) = false
  /-- `Value` itself, for fragments. -/
  value : Codec Value
  /-- `BucketRecord`, for bucket records. -/
  bucketRecord : Codec BucketRecord
  /-- `Vec<u64>`, for the list of bucket ids. -/
  bucketIds : Codec (List BucketId)
  /-- `Vec<String>`, for the list of members. -/
  memberList : Codec (List String)

namespace SerdeJson

variable {Value : Type} [SerdeJson Value]

@[simp]
theorem isNull_null : isNull (null : Value) = true :=
  (isNull_iff null).mpr rfl

/-- Parse a payload as JSON, fall back to a string. -/
def parsePayload (data : FragmentData) : Value :=
  match (SerdeJson.value : Codec Value).fromSlice data with
  | .ok value => value
  | .error _ => string (Library.Text.fromUtf8Lossy data)

end SerdeJson

/-! ## Scalar JSON -/

/-- The scalar values of JSON. -/
inductive Json where
  | null
  | bool (value : Bool)
  | number (value : UInt64)
  | string (text : String)
deriving DecidableEq

namespace Json

/-- Render a scalar. -/
def render : Json → List Char
  | .null => "null".toList
  | .bool true => "true".toList
  | .bool false => "false".toList
  | .number value => Library.JsonText.number.render value
  | .string text => quoted.render text

/-- Read a scalar. -/
def parse (chars : List Char) : Option (Json × List Char) :=
  match chars with
  | 'n' :: _ => (stripPrefix "null" chars).map fun rest => (.null, rest)
  | 't' :: _ => (stripPrefix "true" chars).map fun rest => (.bool true, rest)
  | 'f' :: _ => (stripPrefix "false" chars).map fun rest => (.bool false, rest)
  | '"' :: _ =>
      (quoted.parse chars).map fun parsed => (.string parsed.1, parsed.2)
  | _ =>
      (Library.JsonText.number.parse chars).map
        fun parsed => (.number parsed.1, parsed.2)

theorem parse_render_number (value : UInt64) (rest : List Char)
    (boundary : Boundary rest) :
    parse (Library.JsonText.number.render value ++ rest) =
      some (.number value, rest) := by
  have read := Library.JsonText.number.parse_render value rest boundary
  cases digits : Library.JsonText.number.render value with
  | nil => exact absurd digits (number_nonempty value)
  | cons head tail =>
      have digit : head.isDigit = true :=
        Library.Text.isDigit_of_mem_decimalChars
          (show head ∈ Library.JsonText.number.render value by simp [digits])
      rw [digits] at read
      unfold parse
      split
      all_goals simp_all

/-- The text codec of scalars. -/
def textCodec : TextCodec Json where
  render := render
  parse := parse
  parse_render := by
    intro value rest boundary
    cases value with
    | null =>
        have read := stripPrefix_append "null" rest
        simpa [render, parse] using read
    | bool value =>
        cases value with
        | true =>
            have read := stripPrefix_append "true" rest
            simpa [render, parse] using read
        | false =>
            have read := stripPrefix_append "false" rest
            simpa [render, parse] using read
    | number value => exact parse_render_number value rest boundary
    | string text =>
        have read := quoted.parse_render text rest boundary
        simp only [render, quoted, List.cons_append, List.append_assoc,
          List.nil_append] at read ⊢
        simp [parse, quoted, read]

end Json

/-! ## Bucket records -/

/-- Read an optional string. -/
def parseLabel (chars : List Char) : Option (Option String × List Char) :=
  match chars with
  | 'n' :: _ => (stripPrefix "null" chars).map fun rest => (none, rest)
  | _ => (quoted.parse chars).map fun parsed => (some parsed.1, parsed.2)

/-- An optional string, `null` when absent. -/
def label : TextCodec (Option String) where
  render
    | none => "null".toList
    | some text => quoted.render text
  parse := parseLabel
  parse_render := by
    intro value rest boundary
    cases value with
    | none =>
        have read := stripPrefix_append "null" rest
        simpa [parseLabel] using read
    | some text =>
        have read := quoted.parse_render text rest boundary
        simp only [quoted, List.cons_append, List.append_assoc,
          List.nil_append] at read ⊢
        simp [parseLabel, quoted, read]

/-- Read the three fields of a bucket record. -/
def parseRecord (chars : List Char) : Option (BucketRecord × List Char) := do
  let chars ← stripPrefix "\x7b\"id\":" chars
  let (id, chars) ← Library.JsonText.number.parse chars
  let chars ← stripPrefix ",\"label\":" chars
  let (text, chars) ← label.parse chars
  let chars ← stripPrefix ",\"flags\":" chars
  let (flags, chars) ← Library.JsonText.number.parse chars
  let chars ← stripPrefix "\x7d" chars
  if flags.toNat < UInt32.size then some (⟨id, text, flags.toUInt32⟩, chars)
  else none

/-- A bucket record as an object with its three fields. -/
def record : TextCodec BucketRecord where
  render := fun record =>
    "\x7b\"id\":".toList ++ (Library.JsonText.number.render record.id ++
      (",\"label\":".toList ++ (label.render record.label ++
        (",\"flags\":".toList ++
          (Library.JsonText.number.render record.flags.toUInt64 ++
            "\x7d".toList)))))
  parse := parseRecord
  parse_render := by
    intro record rest _
    have idRead := Library.JsonText.number.parse_render record.id
    have labelRead := label.parse_render record.label
    have flagsRead :=
      Library.JsonText.number.parse_render record.flags.toUInt64
    have inRange : record.flags.toNat < UInt32.size := record.flags.toNat_lt
    have boundary (text : String) (tail : List Char)
        (start : text.toList.head?.all (fun char => !char.isDigit) = true)
        (nonempty : text.toList ≠ []) :
        Boundary (text.toList ++ tail) := by
      intro char member
      rw [List.head?_append_of_ne_nil _ nonempty] at member
      simpa using (Option.all_eq_true _ _).mp start char member
    unfold parseRecord
    simp only [List.append_assoc, stripPrefix_append, Option.bind_eq_bind,
      Option.bind_some]
    rw [idRead _ (boundary ",\"label\":" _ (by decide) (by decide))]
    simp only [Option.bind_some, stripPrefix_append]
    rw [labelRead _ (boundary ",\"flags\":" _ (by decide) (by decide))]
    simp only [Option.bind_some, stripPrefix_append]
    rw [flagsRead _ (boundary "\x7d" _ (by decide) (by decide))]
    simp only [Option.bind_some, stripPrefix_append,
      UInt32.toNat_toUInt64, inRange, if_true]
    simp

instance : SerdeJson Json where
  null := .null
  string := .string
  isNull := fun value => value = .null
  isNull_iff := by simp
  isNull_string := by simp
  value := Json.textCodec.toCodec
  bucketRecord := record.toCodec
  bucketIds :=
    (array Library.JsonText.number number_nonempty
      number_notClosing).toCodec
  memberList := (array quoted quoted_nonempty quoted_notClosing).toCodec

end Syncpond.Serde
