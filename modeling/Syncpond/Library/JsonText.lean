import Syncpond.Library.Text

/-!
# Codecs and a small JSON text format

A `Codec` is a fallible serialiser to bytes together with the law that
deserialising undoes it.  A `TextCodec` reads a rendered value from the front
of a longer text, so that codecs compose: numbers, quoted strings, arrays and
objects with fixed fields are built from it.  The rendered texts are compact
JSON, without the escapes of control characters.
-/

namespace Syncpond.Library.JsonText

open Syncpond.Library.Text

/-- A serialiser to bytes that deserialising undoes. -/
structure Codec (α : Type) where
  toVec : α → Except String ByteArray
  fromSlice : ByteArray → Except String α
  roundTrip : ∀ value, ∃ bytes,
    toVec value = .ok bytes ∧ fromSlice bytes = .ok value

/-- A text that cannot continue a number. -/
def Boundary (rest : List Char) : Prop :=
  ∀ char ∈ rest.head?, char.isDigit = false

/-- A renderer whose output is read back from the front of a text. -/
structure TextCodec (α : Type) where
  render : α → List Char
  parse : List Char → Option (α × List Char)
  parse_render : ∀ value rest, Boundary rest →
    parse (render value ++ rest) = some (value, rest)

/-! ## Numbers and strings -/

/-- Read decimal digits. -/
def parseNumber (chars : List Char) : Option (UInt64 × List Char) :=
  (parseU64 (chars.takeWhile Char.isDigit)).map
    fun number => (number, chars.dropWhile Char.isDigit)

/-- An unsigned number. -/
def number : TextCodec UInt64 where
  render := decimalChars
  parse := parseNumber
  parse_render := by
    intro value rest boundary
    have digits : ∀ char ∈ decimalChars value, Char.isDigit char = true :=
      fun char => isDigit_of_mem_decimalChars
    have taken : rest.takeWhile Char.isDigit = [] := by
      cases rest with
      | nil => rfl
      | cons head tail => simp [boundary head (by simp)]
    have dropped : rest.dropWhile Char.isDigit = rest := by
      cases rest with
      | nil => rfl
      | cons head tail => simp [boundary head (by simp)]
    simp [parseNumber, List.takeWhile_append_of_pos digits,
      List.dropWhile_append_of_pos digits, taken, dropped]

/-- Escape the quote and the backslash. -/
def escape : List Char → List Char
  | [] => []
  | char :: rest =>
      if char = '"' ∨ char = '\\' then '\\' :: char :: escape rest
      else char :: escape rest

/-- Read characters up to the closing quote. -/
def unescape : List Char → Option (List Char × List Char)
  | '"' :: rest => some ([], rest)
  | '\\' :: char :: rest =>
      (unescape rest).map fun parsed => (char :: parsed.1, parsed.2)
  | char :: rest =>
      (unescape rest).map fun parsed => (char :: parsed.1, parsed.2)
  | [] => none

theorem unescape_escape (chars rest : List Char) :
    unescape (escape chars ++ '"' :: rest) = some (chars, rest) := by
  induction chars with
  | nil => simp [escape, unescape]
  | cons char tail ih =>
      by_cases special : char = '"' ∨ char = '\\'
      · simp [escape, special, unescape, ih]
      · have notQuote : char ≠ '"' := fun equal => special (Or.inl equal)
        have notSlash : char ≠ '\\' := fun equal => special (Or.inr equal)
        simp only [escape, special, if_false, List.cons_append]
        rw [unescape]
        · simp [ih]
        · exact notQuote
        · intro _ _ equal
          exact absurd equal notSlash

/-- Read a quoted string. -/
def parseQuoted : List Char → Option (String × List Char)
  | '"' :: rest =>
      (unescape rest).map fun parsed => (String.ofList parsed.1, parsed.2)
  | _ => none

/-- A quoted string. -/
def quoted : TextCodec String where
  render := fun text => '"' :: escape text.toList ++ ['"']
  parse := parseQuoted
  parse_render := by
    intro value rest _
    simp [parseQuoted, unescape_escape]

/-! ## Arrays -/

/-- Render items separated by commas and closed by a bracket. -/
def renderItems {α : Type} (item : TextCodec α) : List α → List Char
  | [] => [']']
  | [last] => item.render last ++ [']']
  | head :: next :: rest =>
      item.render head ++ ',' :: renderItems item (next :: rest)

/-- Read at most `fuel` items separated by commas and closed by a bracket. -/
def parseItems {α : Type} (item : TextCodec α) :
    Nat → List Char → Option (List α × List Char)
  | 0, _ => none
  | fuel + 1, chars =>
      match item.parse chars with
      | some (value, ',' :: rest) =>
          (parseItems item fuel rest).map
            fun parsed => (value :: parsed.1, parsed.2)
      | some (value, ']' :: rest) => some ([value], rest)
      | _ => none

/-- Read an array. -/
def parseArray {α : Type} (item : TextCodec α) :
    List Char → Option (List α × List Char)
  | '[' :: ']' :: rest => some ([], rest)
  | '[' :: rest => parseItems item rest.length rest
  | _ => none

theorem length_le_length_renderItems {α : Type} (item : TextCodec α)
    (values : List α) :
    values.length ≤ (renderItems item values).length := by
  induction values with
  | nil => simp [renderItems]
  | cons head tail ih =>
      cases tail with
      | nil => simp [renderItems]
      | cons next rest =>
          simp only [renderItems, List.length_append, List.length_cons] at *
          omega

theorem parseItems_renderItems {α : Type} (item : TextCodec α)
    (head : α) (tail : List α) (rest : List Char)
    (fuel : Nat) (enough : tail.length < fuel) :
    parseItems item fuel (renderItems item (head :: tail) ++ rest) =
      some (head :: tail, rest) := by
  induction tail generalizing head fuel with
  | nil =>
      obtain ⟨fuel, rfl⟩ := Nat.exists_eq_succ_of_ne_zero
        (Nat.ne_zero_of_lt enough)
      have read := item.parse_render head (']' :: rest) (by
        simp [Boundary])
      simp [renderItems, parseItems, read]
  | cons next tail ih =>
      obtain ⟨fuel, rfl⟩ := Nat.exists_eq_succ_of_ne_zero
        (Nat.ne_zero_of_lt enough)
      have read := item.parse_render head
        (',' :: (renderItems item (next :: tail) ++ rest)) (by
        simp [Boundary])
      have later := ih next fuel (by simpa using enough)
      simp [renderItems, parseItems, read, later]

/-- No rendered value of the item codec starts with the closing bracket. -/
def NotClosing {α : Type} (item : TextCodec α) : Prop :=
  ∀ value, ∀ char ∈ (item.render value).head?, char ≠ ']'

/-- An array of items. -/
def array {α : Type} (item : TextCodec α)
    (nonempty : ∀ value, item.render value ≠ [])
    (notClosing : NotClosing item) : TextCodec (List α) where
  render := fun values => '[' :: renderItems item values
  parse := parseArray item
  parse_render := by
    intro values rest _
    cases values with
    | nil => simp [renderItems, parseArray]
    | cons head tail =>
        have read := parseItems_renderItems item head tail rest
          (renderItems item (head :: tail) ++ rest).length (by
            have bound := length_le_length_renderItems item (head :: tail)
            rw [List.length_append]
            rw [List.length_cons] at bound
            omega)
        have opened : ∀ closed,
            renderItems item (head :: tail) ++ rest ≠ ']' :: closed := by
          intro closed equal
          obtain ⟨first, others, rendered⟩ :=
            List.exists_cons_of_ne_nil (nonempty head)
          have firstNe := notClosing head first (by simp [rendered])
          cases tail with
          | nil => simp_all [renderItems]
          | cons next more => simp_all [renderItems]
        rw [List.cons_append, parseArray]
        · exact read
        · exact opened

theorem number_nonempty (value : UInt64) : number.render value ≠ [] :=
  Nat.toDigits_ne_nil

theorem number_notClosing : NotClosing number := by
  intro value char member equal
  have digit : char.isDigit = true :=
    isDigit_of_mem_decimalChars (List.mem_of_mem_head? member)
  subst equal
  simp at digit

theorem quoted_nonempty (value : String) : quoted.render value ≠ [] := by
  simp [quoted]

theorem quoted_notClosing : NotClosing quoted := by
  intro value char member equal
  subst equal
  simp [quoted] at member

/-! ## From texts to bytes -/

/-- Read a whole text. -/
def parseAll {α : Type} (codec : TextCodec α) (text : String) :
    Except String α :=
  match codec.parse text.toList with
  | some (value, []) => .ok value
  | _ => .error "invalid JSON"

/-- The byte codec of a text codec: UTF-8 of the rendered text. -/
def TextCodec.toCodec {α : Type} (codec : TextCodec α) : Codec α where
  toVec := fun value => .ok (String.ofList (codec.render value)).toUTF8
  fromSlice := fun bytes =>
    match String.fromUTF8? bytes with
    | some text => parseAll codec text
    | none => .error "invalid UTF-8"
  roundTrip := by
    intro value
    refine ⟨_, rfl, ?_⟩
    have decoded (text : String) :
        String.fromUTF8? text.toUTF8 = some text := by
      simp only [String.toUTF8_eq_toByteArray, String.fromUTF8?]
      exact dif_pos text.isValidUTF8
    have read := codec.parse_render value [] (by simp [Boundary])
    rw [List.append_nil] at read
    simp only [decoded, parseAll, String.toList_ofList, read]

end Syncpond.Library.JsonText
