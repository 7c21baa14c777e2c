import SmartClock.Text.CString

/-!
# Header fields

A header is a start line and the lines `name: value` of its fields, CRLF between them. The case
of a name does not matter, and blanks around a value do not belong to it. What a header announces
as the length of the body is the value of its first `Content-Length` field, if that is an integer.
-/

namespace SmartClock.Http

open Text

/-- The lines of a header. -/
def lines : List UInt8 → List (List UInt8)
  | [] => [[]]
  | 13 :: 10 :: rest => [] :: lines rest
  | c :: rest => (lines rest).modifyHead (c :: ·)

/-- An ASCII letter in lower case. -/
def lower (b : UInt8) : UInt8 := if 65 ≤ b ∧ b ≤ 90 then b + 32 else b

/-- The value in a line of the field with this name, which is given in lower case. -/
def fieldValue (name line : List UInt8) : Option (List UInt8) :=
  if (line.take (name.length + 1)).map lower = name ++ ascii ":" then some (line.drop (name.length + 1)) else none

/-- The value of the first field with a name. -/
def field (name header : List UInt8) : Option (List UInt8) := (lines header).tail.findSome? (fieldValue name)

def isBlank (b : UInt8) : Bool := b == 32 || b == 9

def trim (value : List UInt8) : List UInt8 := ((value.dropWhile isBlank).reverse.dropWhile isBlank).reverse

def natural (digits : List UInt8) : Option Nat :=
  if digits ≠ [] ∧ digits.all isDigit = true then some (decimal digits) else none

/-- The integer that a text is, with or without a sign. -/
def integer : List UInt8 → Option Int
  | 45 :: digits => (natural digits).map fun n => -(n : Int)
  | 43 :: digits => (natural digits).map fun n => (n : Int)
  | digits => (natural digits).map fun n => (n : Int)

/-- The length of the body that a header announces. -/
def contentLength (header : List UInt8) : Option Int :=
  (field (ascii "content-length") header).bind fun value => integer (trim value)

/-- Neither a name that only ends so nor the case makes a difference. -/
example : contentLength (ascii "HTTP/1.1 200 OK\r\nX-Content-Length: 17\r\ncontent-length:\t99 ") = some 99 := by
  decide +kernel

end SmartClock.Http
