import SmartClock.Json.Scan

/-!
# What the proxy uses of Python

Operations on the values that `response.json()` gives. A dictionary is its list of members,
with distinct keys. An operation that raises gives the text `str(e)` of its exception, which
is all the handlers read of it.
-/

namespace SmartClock.Proxy

open Text Json

/-- A sequence of two operations that raises nothing. -/
theorem bind_ok {α β : Type} {x : Except Str α} {f : α → Except Str β} {r : β} (h : x >>= f = .ok r) :
    ∃ a, x = .ok a ∧ f a = .ok r := by
  cases x with
  | error text => cases h
  | ok a => exact ⟨a, rfl, h⟩

/-- `bool(v)` -/
def truthy : Value → Bool
  | .null => false
  | .bool b => b
  | .num n => n.text ∉ [ascii "0", ascii "0.0", ascii "-0.0"]
  | .str s => !s.isEmpty
  | .arr items => !items.isEmpty
  | .obj members => !members.isEmpty

/-- `type(v).__name__` -/
def typeName : Value → Str
  | .null => str "NoneType"
  | .bool _ => str "bool"
  | .num n => if n.text.all fun b => isDigit b || b == 45 then str "int" else str "float"
  | .str _ => str "str"
  | .arr _ => str "list"
  | .obj _ => str "dict"

/-- `v.get(key)` -/
def get (v : Value) (key : Str) : Except Str Value :=
  match v with
  | .obj members => .ok ((members.lookup key).getD .null)
  | v => .error (str "'" ++ typeName v ++ str "' object has no attribute 'get'")

/-- `key in v` -/
def contains (v : Value) (key : Str) : Except Str Bool :=
  match v with
  | .obj members => .ok (members.any fun m => m.1 == key)
  | .arr items => .ok (items.any fun
      | .str s => s == key
      | _ => false)
  | .str s => .ok (find key s).isSome
  | v => .error (str "argument of type '" ++ typeName v ++ str "' is not iterable")

/-- `v[key]` -/
def subscript (v : Value) (key : Str) : Except Str Value :=
  match v with
  | .obj members =>
    match members.lookup key with
    | some value => .ok value
    | none => .error (str "'" ++ key ++ str "'")
  | .arr _ => .error (str "list indices must be integers or slices, not str")
  | .str _ => .error (str "string indices must be integers, not 'str'")
  | v => .error (str "'" ++ typeName v ++ str "' object is not subscriptable")

/-- `v[0]` -/
def first : Value → Except Str Value
  | .obj _ => .error (str "0")
  | .arr [] => .error (str "list index out of range")
  | .arr (item :: _) => .ok item
  | .str [] => .error (str "string index out of range")
  | .str (c :: _) => .ok (.str [c])
  | v => .error (str "'" ++ typeName v ++ str "' object is not subscriptable")

mutual

/-- `v == w`, where `numEq` compares numbers; a boolean counts as 0 or 1. -/
def equals (numEq : Number → Number → Bool) : Value → Value → Bool
  | .null, .null => true
  | .bool a, .bool b => a == b
  | .bool a, .num n => numEq (.ofNat a.toNat) n
  | .num n, .bool a => numEq n (.ofNat a.toNat)
  | .num m, .num n => numEq m n
  | .str s, .str t => s == t
  | .arr items, .arr items' => equalItems numEq items items'
  | .obj members, .obj members' => members.length == members'.length && equalMembers numEq members members'
  | _, _ => false

def equalItems (numEq : Number → Number → Bool) : List Value → List Value → Bool
  | [], [] => true
  | item :: items, item' :: items' => equals numEq item item' && equalItems numEq items items'
  | _, _ => false

/-- Every member is found in the other dictionary. -/
def equalMembers (numEq : Number → Number → Bool) : List (Str × Value) → List (Str × Value) → Bool
  | [], _ => true
  | (key, value) :: members, members' =>
    (match members'.lookup key with
      | some value' => equals numEq value value'
      | none => false) && equalMembers numEq members members'

end

/-- The characters `str.strip` removes. -/
def isSpace (c : CodePoint) : Bool :=
  (9 ≤ c.val && c.val ≤ 13) || (28 ≤ c.val && c.val ≤ 32) || c.val == 0x85 || c.val == 0xa0 ||
    c.val == 0x1680 || (0x2000 ≤ c.val && c.val ≤ 0x200a) || c.val == 0x2028 || c.val == 0x2029 ||
    c.val == 0x202f || c.val == 0x205f || c.val == 0x3000

/-- `s.strip()` -/
def strip (s : Str) : Str := ((s.dropWhile isSpace).reverse.dropWhile isSpace).reverse

/-- An answer of the proxy: `Response(json.dumps(data), status=status, ..)`. -/
structure Response where
  status : Nat
  body : CStr

def respond (data : Value) (status : Nat) : Response := ⟨status, encoded data⟩

/-- `json.dumps({"error": text})` with its status. -/
def respondError (text : Str) (status : Nat) : Response := respond (.obj [(str "error", .str text)]) status

end SmartClock.Proxy
