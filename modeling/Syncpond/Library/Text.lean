import Mathlib.Data.List.TakeDrop
import Mathlib.Data.List.TakeWhile
import Mathlib.Data.List.DropRight
import Std.Data.ExtTreeMap

/-!
# Text functions of the Rust standard library

`str::trim`, `u64::from_str` and the decimal formatting of a `u64`, and the
splitting of a text at its first colon, on the character list of a string.
The laws are the ones a textual key format needs: decimal formatting is
undone by parsing, a decimal text has no colon, and trimming twice is
trimming once.
-/

namespace Syncpond.Library.Text

/-! ## Trimming -/

/-- The characters with the Unicode property `White_Space`. -/
def isWhitespace (char : Char) : Bool :=
  let code := char.toNat
  (9 ≤ code && code ≤ 13) || code == 0x20 || code == 0x85 ||
    code == 0xA0 || code == 0x1680 ||
    (0x2000 ≤ code && code ≤ 0x200A) || code == 0x2028 ||
    code == 0x2029 || code == 0x202F || code == 0x205F || code == 0x3000

/-- `str::trim`. -/
def trim (text : String) : String :=
  String.ofList
    ((text.toList.dropWhile isWhitespace).rdropWhile isWhitespace)

/-- A text is trimmed on the left for good. -/
theorem dropWhile_rdropWhile_dropWhile
    (drop : Char → Bool) (chars : List Char) :
    (((chars.dropWhile drop).rdropWhile drop).dropWhile drop) =
      (chars.dropWhile drop).rdropWhile drop := by
  cases remaining : chars.dropWhile drop with
  | nil => simp
  | cons head tail =>
      have headKept : drop head = false := by
        have kept := List.head_dropWhile_not drop
          (show chars.dropWhile drop ≠ [] by simp [remaining])
        simpa [remaining] using kept
      obtain ⟨suffix, split⟩ :=
        List.rdropWhile_prefix drop (l := head :: tail)
      cases trimmed : (head :: tail).rdropWhile drop with
      | nil => simp
      | cons first rest =>
          rw [trimmed] at split
          have sameHead : first = head := by
            simpa using (List.cons.inj split).1
          simp [sameHead, headKept]

/-- Trimming an already trimmed text changes nothing. -/
@[simp]
theorem trim_trim (text : String) : trim (trim text) = trim text := by
  simp only [trim, String.toList_ofList]
  rw [dropWhile_rdropWhile_dropWhile, List.rdropWhile_idempotent]

/-! ## Decimal numbers -/

/-- The characters of `format!("{}", number)`. -/
def decimalChars (number : UInt64) : List Char :=
  Nat.toDigits 10 number.toNat

/-- `format!("{}", number)`. -/
def decimal (number : UInt64) : String :=
  String.ofList (decimalChars number)

/-- Drop the optional sign that `u64::from_str` accepts. -/
def dropPlus : List Char → List Char
  | '+' :: digits => digits
  | digits => digits

/-- `str::parse::<u64>`: an optional `+`, then decimal digits in range. -/
def parseU64 (chars : List Char) : Option UInt64 :=
  let digits := dropPlus chars
  if digits.isEmpty || !digits.all Char.isDigit then none
  else
    let number := Nat.ofDigitChars 10 digits 0
    if number < UInt64.size then some (UInt64.ofNat number) else none

theorem isDigit_of_mem_decimalChars
    {number : UInt64} {char : Char}
    (member : char ∈ decimalChars number) :
    char.isDigit = true :=
  Nat.isDigit_of_mem_toDigits (by decide) (by decide) member

theorem dropPlus_decimalChars (number : UInt64) :
    dropPlus (decimalChars number) = decimalChars number := by
  cases digits : decimalChars number with
  | nil => rfl
  | cons head tail =>
      have headDigit : head.isDigit = true :=
        isDigit_of_mem_decimalChars (show head ∈ decimalChars number by
          simp [digits])
      unfold dropPlus
      split
      · next plus => simp_all
      · rfl

/-- Parsing undoes decimal formatting. -/
@[simp]
theorem parseU64_decimalChars (number : UInt64) :
    parseU64 (decimalChars number) = some number := by
  have nonempty : (decimalChars number).isEmpty = false := by
    simp [decimalChars, Nat.toDigits_ne_nil]
  have digits : (decimalChars number).all Char.isDigit = true :=
    List.all_eq_true.mpr fun _ => isDigit_of_mem_decimalChars
  have value :
      Nat.ofDigitChars 10 (decimalChars number) 0 = number.toNat :=
    Nat.ofDigitChars_ten_toDigits
  have inRange : number.toNat < UInt64.size := number.toNat_lt
  simp only [parseU64, dropPlus_decimalChars, nonempty, digits, value,
    inRange, Bool.not_true, Bool.or_self, Bool.false_eq_true, if_false,
    if_true, UInt64.ofNat_toNat]

/-- Different numbers have different digits. -/
theorem decimalChars_injective : Function.Injective decimalChars := by
  intro left right equal
  have parsed : parseU64 (decimalChars left) = parseU64 (decimalChars right) :=
    congrArg parseU64 equal
  simpa using parsed

/-! ## Prefixes and the first colon -/

/-- `str::strip_prefix`. -/
def stripPrefix (text : String) (chars : List Char) : Option (List Char) :=
  text.toList.isPrefixOf? chars

/-- A prefix is taken off a text that begins with it. -/
@[simp]
theorem stripPrefix_append (text : String) (rest : List Char) :
    stripPrefix text (text.toList ++ rest) = some rest := by
  unfold stripPrefix
  induction text.toList with
  | nil => simp
  | cons head tail ih => simp

theorem stripPrefix_eq_none_of_head
    {text : String} {first head : Char} {others tail : List Char}
    (chars : text.toList = first :: others) (different : first ≠ head) :
    stripPrefix text (head :: tail) = none := by
  simp [stripPrefix, chars, List.isPrefixOf?, different]

/-- `text.find(':')` with the texts before and after the colon. -/
def splitColon (chars : List Char) : Option (List Char × List Char) :=
  match chars.span (· ≠ ':') with
  | (before, _ :: after) => some (before, after)
  | (_, []) => none

/-- A text is split at its first colon. -/
theorem splitColon_append
    {before : List Char} (after : List Char)
    (noColon : ':' ∉ before) :
    splitColon (before ++ ':' :: after) = some (before, after) := by
  have kept : ∀ char ∈ before, (decide (char ≠ ':')) = true := by
    intro char member
    have different : char ≠ ':' := fun equal => noColon (equal ▸ member)
    simpa using different
  simp only [splitColon, List.span_eq_takeWhile_dropWhile,
    List.takeWhile_append_of_pos kept, List.dropWhile_append_of_pos kept]
  simp

theorem splitColon_eq_none {chars : List Char} (noColon : ':' ∉ chars) :
    splitColon chars = none := by
  have kept : ∀ char ∈ chars, (decide (char ≠ ':')) = true := by
    intro char member
    have different : char ≠ ':' := fun equal => noColon (equal ▸ member)
    simpa using different
  have rest : chars.dropWhile (fun char => decide (char ≠ ':')) = [] :=
    List.dropWhile_eq_nil_iff.mpr kept
  rw [splitColon, List.span_eq_takeWhile_dropWhile, rest]

theorem colon_not_mem_decimalChars (number : UInt64) :
    ':' ∉ decimalChars number := by
  intro member
  have digit := isDigit_of_mem_decimalChars member
  simp at digit

/-! ## Lossy UTF-8 decoding -/

/-- The length of the UTF-8 sequence that a byte starts, `0` if it starts none. -/
def utf8Width (byte : UInt8) : Nat :=
  if byte < 0x80 then 1
  else if 0xC2 ≤ byte ∧ byte ≤ 0xDF then 2
  else if 0xE0 ≤ byte ∧ byte ≤ 0xEF then 3
  else if 0xF0 ≤ byte ∧ byte ≤ 0xF4 then 4
  else 0

/-- A continuation byte. -/
def isContinuation (byte : UInt8) : Bool :=
  0x80 ≤ byte && byte ≤ 0xBF

/-- The second bytes that may follow a leading byte of width three or four. -/
def secondAllowed (lead second : UInt8) : Bool :=
  if lead = 0xE0 then 0xA0 ≤ second && second ≤ 0xBF
  else if lead = 0xED then 0x80 ≤ second && second ≤ 0x9F
  else if lead = 0xF0 then 0x90 ≤ second && second ≤ 0xBF
  else if lead = 0xF4 then 0x80 ≤ second && second ≤ 0x8F
  else isContinuation second

/-- The six payload bits of a continuation byte. -/
def payload (byte : UInt8) : Nat :=
  byte.toNat % 64

/--
Decode UTF-8; each maximal prefix of a sequence that breaks off is replaced
by one U+FFFD.
-/
def lossyChars : List UInt8 → List Char
  | [] => []
  | lead :: rest =>
      if utf8Width lead = 1 then Char.ofNat lead.toNat :: lossyChars rest
      else if utf8Width lead = 2 then
        match rest with
        | second :: after =>
            if isContinuation second then
              Char.ofNat (lead.toNat % 32 * 64 + payload second) ::
                lossyChars after
            else '\uFFFD' :: lossyChars (second :: after)
        | [] => ['\uFFFD']
      else if utf8Width lead = 3 then
        match rest with
        | second :: after =>
            if secondAllowed lead second then
              match after with
              | third :: last =>
                  if isContinuation third then
                    Char.ofNat (lead.toNat % 16 * 4096 +
                      payload second * 64 + payload third) ::
                        lossyChars last
                  else '\uFFFD' :: lossyChars (third :: last)
              | [] => ['\uFFFD']
            else '\uFFFD' :: lossyChars (second :: after)
        | [] => ['\uFFFD']
      else if utf8Width lead = 4 then
        match rest with
        | second :: after =>
            if secondAllowed lead second then
              match after with
              | third :: later =>
                  if isContinuation third then
                    match later with
                    | fourth :: last =>
                        if isContinuation fourth then
                          Char.ofNat (lead.toNat % 8 * 262144 +
                            payload second * 4096 + payload third * 64 +
                              payload fourth) :: lossyChars last
                        else '\uFFFD' :: lossyChars (fourth :: last)
                    | [] => ['\uFFFD']
                  else '\uFFFD' :: lossyChars (third :: later)
              | [] => ['\uFFFD']
            else '\uFFFD' :: lossyChars (second :: after)
        | [] => ['\uFFFD']
      else '\uFFFD' :: lossyChars rest

/-- A byte below 128 is a character. -/
theorem lossyChars_cons_of_lt {byte : UInt8} (ascii : byte < 0x80)
    (rest : List UInt8) :
    lossyChars (byte :: rest) = Char.ofNat byte.toNat :: lossyChars rest := by
  have single : utf8Width byte = 1 := by simp [utf8Width, ascii]
  rw [lossyChars.eq_def]
  exact if_pos single

/-- `String::from_utf8_lossy`. -/
def fromUtf8Lossy (bytes : ByteArray) : String :=
  String.ofList (lossyChars bytes.data.toList)

example : lossyChars "aé€😀".toUTF8.data.toList = "aé€😀".toList := by
  decide +kernel

example : lossyChars [0x61, 0xE2, 0x82, 0x62, 0xFF] = "a\uFFFDb\uFFFD".toList := by
  decide +kernel

end Syncpond.Library.Text
