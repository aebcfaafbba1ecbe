import Mathlib

/-!
# JSON values and request errors

The daemon answers requests with JSON values and fails them with a numeric code
and a message.  An object is the finite map from field names to values that the
daemon's JSON library keeps, represented here by its lookup function, so that two
objects with the same fields are equal whatever order the fields were written in.
-/

namespace OwnMesh.Ipc

/-- JSON numbers: integers, or floating-point values kept by their bits. -/
inductive Number where
  | integer (n : Int)
  | float (bits : UInt64)
deriving DecidableEq, Repr

/-- A JSON value. -/
inductive Value where
  | null
  | bool (b : Bool)
  | number (n : Number)
  | string (s : String)
  | array (items : List Value)
  | object (fields : String → Option Value)

namespace Value

/-- The field of an object; `none` for anything that is not an object. -/
def get : Value → String → Option Value
  | object fields, field => fields field
  | _, _ => none

def asStr : Value → Option String
  | string s => some s
  | _ => none

def asBool : Value → Option Bool
  | bool b => some b
  | _ => none

/-- The integer of a number that fits a signed 64-bit word. -/
def asI64 : Value → Option Int
  | number (.integer n) => if -2 ^ 63 ≤ n ∧ n < 2 ^ 63 then some n else none
  | _ => none

def isBoolean : Value → Bool
  | bool _ => true
  | _ => false

def isNumber : Value → Bool
  | number _ => true
  | _ => false

def isString : Value → Bool
  | string _ => true
  | _ => false

def isObject : Value → Bool
  | object _ => true
  | _ => false

/-- A number stored as an unsigned or a signed 64-bit integer. -/
def isInteger : Value → Bool
  | number (.integer n) => decide (-2 ^ 63 ≤ n ∧ n < 2 ^ 64)
  | _ => false

/-- Set a field of an object; anything else is left alone. -/
def insert : Value → String → Value → Value
  | object fields, field, value => object (Function.update fields field (some value))
  | other, _, _ => other

/-- The object with the given fields, the first entry for a name counting. -/
def ofFields (fields : List (String × Value)) : Value :=
  object fun field => (fields.find? fun entry => entry.1 == field).map Prod.snd

/-- An integer as a JSON number. -/
def ofInt (n : Int) : Value := number (.integer n)

@[simp]
theorem get_object (fields : String → Option Value) (field : String) :
    (object fields).get field = fields field := rfl

theorem get_insert_self {value : Value} (object : value.isObject) (field : String) (v : Value) :
    (value.insert field v).get field = some v := by
  cases value with
  | object => simp [insert]
  | _ => exact absurd object (by simp [isObject])

theorem get_insert_ne (value : Value) {field other : String} (different : other ≠ field)
    (v : Value) : (value.insert field v).get other = value.get other := by
  cases value with
  | object => simp [insert, Function.update_of_ne different]
  | _ => rfl

@[simp]
theorem isObject_insert (value : Value) (field : String) (v : Value) :
    (value.insert field v).isObject = value.isObject := by
  cases value <;> rfl

end Value

/-! ## Request errors -/

/-- The error a request is answered with. -/
inductive IpcError where
  | remote (code : Int) (message : String)
  | other (message : String)
deriving DecidableEq, Repr

/-! ### The numeric codes of the daemon's errors -/

namespace AppError

def unauthorized : Int := -32000
def policyDenied : Int := -32010
def lockdown : Int := -32011
def conflict : Int := -32013
def invalidParams : Int := -32602
def internal : Int := -32603
def journalCapacity : Int := -32016

end AppError

namespace IpcError

/-- The code and message an error is recorded with. -/
def codeAndMessage : IpcError → Int × String
  | .remote code message => (code, message)
  | .other message => (AppError.internal, message)

/-- The text of an error. -/
def display : IpcError → String
  | .remote code message => s!"ipc remote error {code}: {message}"
  | .other message => message

end IpcError

/-! ## Identifiers and white space

The character classes the daemon and the session-host supervisor test identifiers
with.  Both are those of the source's standard library, given by code points.
-/

/-- Control characters. -/
def isControl (c : Char) : Bool :=
  decide (c.toNat < 32 ∨ (127 ≤ c.toNat ∧ c.toNat < 160))

/-- White space. -/
def isWhitespace (c : Char) : Bool :=
  decide ((9 ≤ c.toNat ∧ c.toNat ≤ 13) ∨ (0x2000 ≤ c.toNat ∧ c.toNat ≤ 0x200A)) ||
    [0x20, 0x85, 0xA0, 0x1680, 0x2028, 0x2029, 0x202F, 0x205F, 0x3000].contains c.toNat

/-- A text without the white space around it. -/
def trim (text : String) : String :=
  String.ofList
    ((text.toList.dropWhile isWhitespace).reverse.dropWhile isWhitespace).reverse

/-- An identifier that may become a part of a path: not empty, at most 256 bytes, no
control character and no path separator. -/
def validComponent (value : String) : Bool :=
  value != "" && decide (value.utf8ByteSize ≤ 256) &&
    !value.toList.any fun c => isControl c || c == '/' || c == '\\'

end OwnMesh.Ipc
