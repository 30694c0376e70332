/-!
The JSON values the command file is decoded into.

Decoding text is the JSON library's business, so it enters as a class with one
method and no laws; the lookups on a decoded value are the library's documented
ones.
-/

namespace Afanctl

/-- A JSON number, as the library stores it. -/
inductive Number where
  | posInt (n : Nat)
  | negInt (n : Int)
  | float (text : String)

/-- A decoded JSON document. -/
inductive Value where
  | null
  | bool (b : Bool)
  | number (n : Number)
  | string (s : String)
  | array (items : List Value)
  | object (fields : List (String × Value))

namespace Value

/-- Field lookup; `none` unless the value is an object that has the key. -/
def get (key : String) : Value → Option Value
  | .object fields => fields.lookup key
  | _ => none

def asBool : Value → Option Bool
  | .bool b => some b
  | _ => none

def asStr : Value → Option String
  | .string s => some s
  | _ => none

def asU64 : Value → Option Nat
  | .number (.posInt n) => some n
  | _ => none

def asArray : Value → Option (List Value)
  | .array items => some items
  | _ => none

end Value

/-- The JSON library's `from_str`. -/
class SerdeJson where
  fromStr : String → Except String Value

end Afanctl
