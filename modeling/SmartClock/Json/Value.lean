import SmartClock.Text.CString

/-!
# JSON values and `json.dumps`

Python's JSON values and its standard encoder: `", "` and `": "` as separators, and in
strings the escapes of `ensure_ascii`. A Python string is the list of its code points. A
number is the literal that `int.__repr__` or `float.__repr__` prints, so no arithmetic on
floats is modelled.
-/

namespace SmartClock.Json

open Text

/-- A code point of a Python string, surrogates included. -/
abbrev CodePoint := Fin 0x110000

abbrev Str := List CodePoint

def codePoint (c : Char) : CodePoint :=
  ⟨c.toNat, c.valid.elim (fun low => Nat.lt_trans low (by decide)) (fun high => high.2)⟩

/-- The code points of a text without surrogates. -/
def str (s : String) : Str := s.toList.map codePoint

/-- Its UTF-8 form. -/
def utf8 (s : String) : List UInt8 := s.toList.flatMap String.utf8EncodeChar

/-- The bytes number literals are made of: digits, signs, the point, the exponent letter,
and the letters of `NaN` and `Infinity`. -/
def isNumByte (b : UInt8) : Bool :=
  isDigit b || b == 43 || b == 45 || b == 46 || (65 ≤ b && b ≤ 90) || (97 ≤ b && b ≤ 122)

/-- A number literal. -/
structure Number where
  text : List UInt8
  nonempty : text ≠ []
  bytes : ∀ b ∈ text, isNumByte b = true

/-- The literal of a natural number. -/
def Number.ofNat (n : Nat) : Number where
  text := numeral n
  nonempty := numeral_ne_nil n
  bytes b inside := by simp [isNumByte, isDigit_of_mem_numeral inside]

inductive Value where
  | null
  | bool (b : Bool)
  | num (n : Number)
  | str (s : Str)
  | arr (items : List Value)
  | obj (members : List (Str × Value))

/-- A lower-case hexadecimal digit. -/
def hexDigit (n : Nat) : UInt8 := (if n < 10 then 48 + n else 87 + n).toUInt8

/-- `\uXXXX` -/
def unicodeEscape (n : Nat) : List UInt8 :=
  [92, 117, hexDigit (n / 4096 % 16), hexDigit (n / 256 % 16), hexDigit (n / 16 % 16), hexDigit (n % 16)]

/-- A character that `json.dumps` writes as it is: printable ASCII but quote and backslash. -/
def plain (c : CodePoint) : Bool := 0x20 ≤ c.val && c.val ≤ 0x7e && c.val != 34 && c.val != 92

/-- One character inside a JSON string: `ESCAPE_DCT`, and surrogate pairs past the BMP. -/
def escapeChar (c : CodePoint) : List UInt8 :=
  if plain c then [c.val.toUInt8]
  else match c.val with
    | 34 => [92, 34]
    | 92 => [92, 92]
    | 10 => [92, 110]
    | 13 => [92, 114]
    | 9 => [92, 116]
    | 12 => [92, 102]
    | 8 => [92, 98]
    | n =>
      if n < 0x10000 then unicodeEscape n
      else unicodeEscape (0xd800 + (n - 0x10000) / 0x400 % 0x400) ++
        unicodeEscape (0xdc00 + (n - 0x10000) % 0x400)

/-- The inside of a JSON string. -/
def escape (s : Str) : List UInt8 := s.flatMap escapeChar

def quote (s : Str) : List UInt8 := 34 :: escape s ++ [34]

mutual

/-- `json.dumps` -/
def dumps : Value → List UInt8
  | .null => ascii "null"
  | .bool true => ascii "true"
  | .bool false => ascii "false"
  | .num n => n.text
  | .str s => quote s
  | .arr [] => ascii "[]"
  | .arr (item :: items) => 91 :: dumps item ++ dumpsItems items
  | .obj [] => ascii "\x7b\x7d"
  | .obj ((key, value) :: members) => 123 :: quote key ++ ascii ": " ++ dumps value ++ dumpsMembers members

/-- The items after the first, and the closing bracket. -/
def dumpsItems : List Value → List UInt8
  | [] => [93]
  | item :: items => ascii ", " ++ dumps item ++ dumpsItems items

/-- The members after the first, and the closing brace. -/
def dumpsMembers : List (Str × Value) → List UInt8
  | [] => [125]
  | (key, value) :: members => ascii ", " ++ quote key ++ ascii ": " ++ dumps value ++ dumpsMembers members

end

/-- A value that is neither a list nor an object. -/
def Value.isScalar : Value → Bool
  | .arr _ => false
  | .obj _ => false
  | _ => true

example : dumps (.obj [(str "count", .num ⟨ascii "1", by decide, by decide +kernel⟩),
    (str "titles", .arr [.str (str "a\"ø")])]) =
    ascii "\x7b\"count\": 1, \"titles\": [\"a\\\"\\u00f8\"]\x7d" := by decide

end SmartClock.Json
