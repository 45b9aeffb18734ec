import Syncpond.Library.Text

/-!
# JSON in a script

`JSON.parse` and `JSON.stringify` of a script language whose strings are lists
of UTF-16 code units.  Numbers are the numbers of the runtime, of which only
their texts and the test for zero are used.

The parser reads a value by its first code unit that is not white space.  A
text can therefore only be read as an object if that code unit is a brace.
-/

namespace Syncpond.Library.JsonScript

/-- A unit of a script string. -/
abbrev CodeUnit := UInt16

/-- A string of the script. -/
abbrev JsString := List CodeUnit

/-- The code unit of a character below U+10000. -/
def unit (char : Char) : CodeUnit :=
  UInt16.ofNat char.toNat

/-- The unit that opens an object. -/
def openBrace : CodeUnit := 0x7B

/-- The unit that closes an object. -/
def closeBrace : CodeUnit := 0x7D

/-! ## UTF-16 -/

/-- The first half of a surrogate pair. -/
def isLead (code : CodeUnit) : Bool :=
  0xD800 ≤ code && code ≤ 0xDBFF

/-- The second half of a surrogate pair. -/
def isTrail (code : CodeUnit) : Bool :=
  0xDC00 ≤ code && code ≤ 0xDFFF

/-- The units of a character. -/
def charUnits (char : Char) : JsString :=
  if char.toNat < 0x10000 then [unit char]
  else
    let offset := char.toNat - 0x10000
    [UInt16.ofNat (0xD800 + offset / 1024),
      UInt16.ofNat (0xDC00 + offset % 1024)]

/-- A text as a string of the script. -/
def fromText (text : String) : JsString :=
  text.toList.flatMap charUnits

/-- Decode UTF-16; a surrogate without its other half becomes U+FFFD. -/
def scalarValues : JsString → List Char
  | [] => []
  | code :: rest =>
      if isLead code then
        match rest with
        | second :: after =>
            if isTrail second then
              Char.ofNat (0x10000 + code.toNat % 1024 * 1024 +
                second.toNat % 1024) :: scalarValues after
            else '\uFFFD' :: scalarValues (second :: after)
        | [] => ['\uFFFD']
      else if isTrail code then '\uFFFD' :: scalarValues rest
      else Char.ofNat code.toNat :: scalarValues rest

/-- A string of the script as a text. -/
def toText (codes : JsString) : String :=
  String.ofList (scalarValues codes)

example : toText (fromText "aé€😀") = "aé€😀" := by
  decide +kernel

/-! ## Values -/

/-- The numbers of a runtime. -/
class ScriptNumber (Number : Type) where
  /-- The number that a literal stands for. -/
  ofLiteral : JsString → Number
  /-- How `JSON.stringify` writes a number. -/
  toJson : Number → JsString
  isZero : Number → Bool

/-- A value of a script that has a JSON text. -/
inductive JsValue (Number : Type) where
  | null
  | boolean (value : Bool)
  | number (value : Number)
  | string (codes : JsString)
  | array (items : List (JsValue Number))
  | object (properties : List (JsString × JsValue Number))

variable {Number : Type} [ScriptNumber Number]

namespace JsValue

/-- The property of an object; of two with one name the last. -/
def get (value : JsValue Number) (name : String) : Option (JsValue Number) :=
  match value with
  | .object properties => properties.reverse.lookup (fromText name)
  | _ => none

/-- The values that a condition takes for false. -/
def isFalsy : JsValue Number → Bool
  | .null => true
  | .boolean value => !value
  | .number value => ScriptNumber.isZero value
  | .string codes => codes.isEmpty
  | .array _ => false
  | .object _ => false

end JsValue

/-! ## `JSON.stringify` -/

/-- The unit of a hexadecimal digit. -/
def hexDigit (digit : Nat) : CodeUnit :=
  unit (Nat.digitChar digit)

/-- The escape of a code unit by its number. -/
def numericEscape (code : CodeUnit) : JsString :=
  let number := code.toNat
  fromText "\\u" ++ [hexDigit (number / 4096), hexDigit (number / 256 % 16),
    hexDigit (number / 16 % 16), hexDigit (number % 16)]

/-- The control characters that have an escape of their own, with its letter. -/
def shortEscapes : List (CodeUnit × CodeUnit) :=
  [(0x08, unit 'b'), (0x09, unit 't'), (0x0A, unit 'n'), (0x0C, unit 'f'),
    (0x0D, unit 'r'), (unit '"', unit '"'), (unit '\\', unit '\\')]

/-- A code unit inside quotes. -/
def escapeUnit (code : CodeUnit) : JsString :=
  match shortEscapes.lookup code with
  | some letter => [unit '\\', letter]
  | none => if code < 0x20 then numericEscape code else [code]

/-- The code units inside quotes; a surrogate without its half is escaped. -/
def escapeUnits : JsString → JsString
  | [] => []
  | code :: rest =>
      if isLead code then
        match rest with
        | second :: after =>
            if isTrail second then code :: second :: escapeUnits after
            else numericEscape code ++ escapeUnits (second :: after)
        | [] => numericEscape code
      else if isTrail code then numericEscape code ++ escapeUnits rest
      else escapeUnit code ++ escapeUnits rest

/-- The text of a string. -/
def quote (codes : JsString) : JsString :=
  unit '"' :: escapeUnits codes ++ [unit '"']

/-- Texts separated by commas. -/
def joinComma (texts : List JsString) : JsString :=
  [unit ','].intercalate texts

mutual

/-- `JSON.stringify`. -/
def stringify : JsValue Number → JsString
  | .null => fromText "null"
  | .boolean value => fromText (if value then "true" else "false")
  | .number value => ScriptNumber.toJson value
  | .string codes => quote codes
  | .array items => unit '[' :: joinComma (itemTexts items) ++ [unit ']']
  | .object properties =>
      openBrace :: joinComma (memberTexts properties) ++ [closeBrace]

/-- The texts of the items of an array. -/
def itemTexts : List (JsValue Number) → List JsString
  | [] => []
  | item :: rest => stringify item :: itemTexts rest

/-- The texts of the members of an object. -/
def memberTexts : List (JsString × JsValue Number) → List JsString
  | [] => []
  | member :: rest => memberText member :: memberTexts rest

/-- The text of a member: its name and its value. -/
def memberText : JsString × JsValue Number → JsString
  | (name, value) => quote name ++ unit ':' :: stringify value

end

/-! ## `JSON.parse` -/

/-- The white space between the parts of a JSON text. -/
def isSpace (code : CodeUnit) : Bool :=
  code == 0x09 || code == 0x0A || code == 0x0D || code == 0x20

/-- The text after its white space. -/
def skipSpace (text : JsString) : JsString :=
  text.dropWhile isSpace

/-! ### Strings -/

/-- The value of a hexadecimal digit. -/
def hexValue (code : CodeUnit) : Option Nat :=
  if unit '0' ≤ code ∧ code ≤ unit '9' then some (code.toNat - 0x30)
  else if unit 'A' ≤ code ∧ code ≤ unit 'F' then some (code.toNat - 0x37)
  else if unit 'a' ≤ code ∧ code ≤ unit 'f' then some (code.toNat - 0x57)
  else none

/-- The code unit that four hexadecimal digits stand for. -/
def hexUnit (first second third fourth : CodeUnit) : Option CodeUnit := do
  let high ← hexValue first
  let upper ← hexValue second
  let lower ← hexValue third
  let low ← hexValue fourth
  return UInt16.ofNat (high * 4096 + upper * 256 + lower * 16 + low)

/-- The code unit that a letter after a backslash stands for. -/
def escaped (letter : CodeUnit) : Option CodeUnit :=
  if letter = unit '/' then some letter
  else (shortEscapes.find? fun escape => escape.2 == letter).map Prod.fst

/-- Put a code unit in front of what was read. -/
def prepend (code : CodeUnit) (read : JsString × JsString) :
    JsString × JsString :=
  (code :: read.1, read.2)

/-- Read the code units up to the closing quote. -/
def parseUnits : JsString → Option (JsString × JsString)
  | [] => none
  | code :: rest =>
      if code = unit '"' then some ([], rest)
      else if code < 0x20 then none
      else if code = unit '\\' then
        match rest with
        | [] => none
        | letter :: after =>
            if letter = unit 'u' then
              match after with
              | first :: second :: third :: fourth :: last =>
                  match hexUnit first second third fourth with
                  | some decoded => (parseUnits last).map (prepend decoded)
                  | none => none
              | _ => none
            else
              match escaped letter with
              | some decoded => (parseUnits after).map (prepend decoded)
              | none => none
      else (parseUnits rest).map (prepend code)

/-! ### Numbers -/

/-- The unit is a decimal digit. -/
def isDigit (code : CodeUnit) : Bool :=
  unit '0' ≤ code && code ≤ unit '9'

/-- Read one of some code units, if it stands in front. -/
def takeOne (allowed : JsString) (text : JsString) : JsString × JsString :=
  match text with
  | code :: rest =>
      if allowed.contains code then ([code], rest) else ([], code :: rest)
  | [] => ([], [])

/-- Read digits, at least one. -/
def takeDigits (text : JsString) : Option (JsString × JsString) :=
  let digits := text.takeWhile isDigit
  if digits.isEmpty then none else some (digits, text.dropWhile isDigit)

/-- Read a zero, or digits that do not start with one. -/
def takeInteger (text : JsString) : Option (JsString × JsString) :=
  match text with
  | code :: rest =>
      if code = unit '0' then some ([code], rest) else takeDigits text
  | [] => none

/-- The fraction at the beginning of a text, if there is one. -/
def takeFraction (text : JsString) : Option (JsString × JsString) :=
  match takeOne [unit '.'] text with
  | ([], rest) => some ([], rest)
  | (point, rest) => do
      let (digits, after) ← takeDigits rest
      return (point ++ digits, after)

/-- The exponent at the beginning of a text, if there is one. -/
def takeExponent (text : JsString) : Option (JsString × JsString) :=
  match takeOne [unit 'e', unit 'E'] text with
  | ([], rest) => some ([], rest)
  | (letter, rest) => do
      let (sign, unsigned) := takeOne [unit '+', unit '-'] rest
      let (digits, after) ← takeDigits unsigned
      return (letter ++ sign ++ digits, after)

/-- Read the literal of a number. -/
def parseLiteral (text : JsString) : Option (JsString × JsString) := do
  let (sign, unsigned) := takeOne [unit '-'] text
  let (integer, afterInteger) ← takeInteger unsigned
  let (fraction, afterFraction) ← takeFraction afterInteger
  let (exponent, rest) ← takeExponent afterFraction
  return (sign ++ integer ++ fraction ++ exponent, rest)

/-! ### Arrays and objects -/

/-- Read at most `fuel` parts, separated by commas and closed by a bracket. -/
def parseParts {Part : Type} (part : JsString → Option (Part × JsString))
    (closing : CodeUnit) : Nat → JsString → Option (List Part × JsString)
  | 0, _ => none
  | fuel + 1, text =>
      match part text with
      | none => none
      | some (read, after) =>
          match skipSpace after with
          | [] => none
          | code :: rest =>
              if code = unit ',' then
                (parseParts part closing fuel rest).map fun parts =>
                  (read :: parts.1, parts.2)
              else if code = closing then some ([read], rest)
              else none

/-- Read what stands between two brackets, after the first of them. -/
def parseBracket {Part : Type} (part : JsString → Option (Part × JsString))
    (closing : CodeUnit) (text : JsString) :
    Option (List Part × JsString) :=
  match skipSpace text with
  | [] => none
  | code :: rest =>
      if code = closing then some ([], rest)
      else parseParts part closing text.length text

/-- Read a name, a colon and a value. -/
def parseMember {Value : Type} (value : JsString → Option (Value × JsString))
    (text : JsString) : Option ((JsString × Value) × JsString) :=
  match skipSpace text with
  | [] => none
  | code :: rest =>
      if code = unit '"' then do
        let (name, after) ← parseUnits rest
        match skipSpace after with
        | [] => none
        | colon :: last =>
            if colon = unit ':' then
              (value last).map fun read => ((name, read.1), read.2)
            else none
      else none

/-- Read the rest of a word that stands for a value. -/
def parseWord (word : String) (value : JsValue Number) (text : JsString) :
    Option (JsValue Number × JsString) :=
  ((fromText word).isPrefixOf? text).map fun rest => (value, rest)

/-- Read a value in which at most `depth` others contain each other. -/
def parseValue : Nat → JsString → Option (JsValue Number × JsString)
  | 0, _ => none
  | depth + 1, text =>
      match skipSpace text with
      | [] => none
      | code :: rest =>
          if code = openBrace then
            (parseBracket (parseMember (parseValue depth)) closeBrace
              rest).map fun read => (.object read.1, read.2)
          else if code = unit '[' then
            (parseBracket (parseValue depth) (unit ']') rest).map fun read =>
              (.array read.1, read.2)
          else if code = unit '"' then
            (parseUnits rest).map fun read => (.string read.1, read.2)
          else if code = unit 't' then parseWord "rue" (.boolean true) rest
          else if code = unit 'f' then parseWord "alse" (.boolean false) rest
          else if code = unit 'n' then parseWord "ull" .null rest
          else
            (parseLiteral (code :: rest)).map fun read =>
              (.number (ScriptNumber.ofLiteral read.1), read.2)

/--
`JSON.parse`, or nothing for a text that it throws on.  Each level of nesting
takes a code unit, so that the length of the text bounds the depth.
-/
def parse (text : JsString) : Option (JsValue Number) :=
  match parseValue (text.length + 1) text with
  | some (value, rest) =>
      if (skipSpace rest).isEmpty then some value else none
  | none => none

/-! ## Texts that are not objects -/

theorem skipSpace_cons {code : CodeUnit} (visible : isSpace code = false)
    (rest : JsString) : skipSpace (code :: rest) = code :: rest := by
  simp [skipSpace, visible]

omit [ScriptNumber Number] in
/-- Only an object has properties. -/
theorem get_eq_none {value : JsValue Number}
    (noObject : ∀ properties, value ≠ .object properties) (name : String) :
    value.get name = none := by
  cases value with
  | object properties => exact absurd rfl (noObject properties)
  | _ => rfl

omit [ScriptNumber Number] in
/-- What is made of a part is not an object, if no such value is. -/
theorem ne_object_of_map {Part : Type} {part : Option (Part × JsString)}
    {make : Part → JsValue Number} {value : JsValue Number} {after : JsString}
    {properties : List (JsString × JsValue Number)}
    (parsed : (part.map fun read => (make read.1, read.2)) =
      some (value, after))
    (other : ∀ read, make read ≠ .object properties) :
    value ≠ .object properties := by
  obtain ⟨read, _, equal⟩ := Option.map_eq_some_iff.mp parsed
  cases equal
  exact other read.1

omit [ScriptNumber Number] in
theorem ne_object_of_parseWord {word : String} {text after : JsString}
    {meant value : JsValue Number}
    {properties : List (JsString × JsValue Number)}
    (parsed : parseWord word meant text = some (value, after))
    (other : meant ≠ .object properties) :
    value ≠ .object properties := by
  obtain ⟨rest, _, equal⟩ := Option.map_eq_some_iff.mp parsed
  cases equal
  exact other

/-- A value that does not start with a brace is not an object. -/
theorem parseValue_ne_object {depth : Nat} {code : CodeUnit}
    {rest after : JsString} {value : JsValue Number}
    (visible : isSpace code = false) (noBrace : code ≠ openBrace)
    (parsed : parseValue depth (code :: rest) = some (value, after))
    (properties : List (JsString × JsValue Number)) :
    value ≠ .object properties := by
  cases depth with
  | zero => cases parsed
  | succ depth =>
      rw [parseValue, skipSpace_cons visible] at parsed
      simp only [if_neg noBrace] at parsed
      split_ifs at parsed
      · exact ne_object_of_map parsed fun _ => nofun
      · exact ne_object_of_map parsed fun _ => nofun
      · exact ne_object_of_parseWord parsed nofun
      · exact ne_object_of_parseWord parsed nofun
      · exact ne_object_of_parseWord parsed nofun
      · have isNumber (literal : JsString) :
            JsValue.number (ScriptNumber.ofLiteral literal) ≠
              .object properties := nofun
        exact ne_object_of_map parsed isNumber

/-- A text that does not start with a brace is not read as an object. -/
theorem parse_ne_object {code : CodeUnit} {rest : JsString}
    {value : JsValue Number}
    (visible : isSpace code = false) (noBrace : code ≠ openBrace)
    (parsed : parse (code :: rest) = some value)
    (properties : List (JsString × JsValue Number)) :
    value ≠ .object properties := by
  unfold parse at parsed
  split at parsed
  · next read after isRead =>
    split at parsed
    · cases parsed
      exact parseValue_ne_object visible noBrace isRead properties
    · cases parsed
  · cases parsed

/-- A character below U+10000 in front of a text is one code unit. -/
theorem fromText_ofList_cons {char : Char} (low : char.toNat < 0x10000)
    (rest : List Char) :
    fromText (String.ofList (char :: rest)) =
      unit char :: fromText (String.ofList rest) := by
  simp [fromText, charUnits, low]

end Syncpond.Library.JsonScript
