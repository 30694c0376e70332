import Afanctl.Json

/-!
The documents that the daemon writes.

Writing a document as text is the JSON library's business as reading it is, so it enters as
a class too. `RoundTrips` says of a document that the library reads its own text back. The
fields of an object may come back in another order, and a floating-point number as another
numeral of it; nothing else may change.
-/

namespace Afanctl

/-- The JSON library's `to_string`, on the document a serialized record stands for. -/
class SerdeJsonText where
  toText : Value → String

namespace Value

/-- The serialized form of an optional field. -/
def ofOption {α : Type} (some : α → Value) : Option α → Value
  | .some a => some a
  | .none => .null

def ofNat (n : Nat) : Value := .number (.posInt n)

theorem ofNat_inj {a b : Nat} (eq : ofNat a = ofNat b) : a = b := by
  cases eq
  rfl

def ofInt (n : Int) : Value :=
  if 0 ≤ n then ofNat n.toNat else .number (.negInt n)

/-- A number of thousandths as a floating-point number: the shortest decimal. -/
def ofMilli (m : Int) : Value :=
  let whole := toString (m.natAbs / 1000)
  let fraction := m.natAbs % 1000
  let decimals :=
    if fraction % 100 = 0 then toString (fraction / 100)
    else if fraction % 10 = 0 then
      (if fraction < 100 then "0" else "") ++ toString (fraction / 10)
    else (if fraction < 10 then "00" else if fraction < 100 then "0" else "") ++ toString fraction
  .number (.float ((if m < 0 then "-" else "") ++ whole ++ "." ++ decimals))

/-- What a written document may be read as. -/
inductive ReadAs : Value → Value → Prop where
  | null : ReadAs .null .null
  | bool {b : Bool} : ReadAs (.bool b) (.bool b)
  | posInt {n : Nat} : ReadAs (.number (.posInt n)) (.number (.posInt n))
  | negInt {n : Int} : ReadAs (.number (.negInt n)) (.number (.negInt n))
  | float {text text' : String} : ReadAs (.number (.float text)) (.number (.float text'))
  | string {s : String} : ReadAs (.string s) (.string s)
  | array {items items' : List Value} :
      (∀ i : Nat, Option.Rel ReadAs items[i]? items'[i]?) → ReadAs (.array items) (.array items')
  | object {fields fields' : List (String × Value)} :
      (∀ key, Option.Rel ReadAs (fields.lookup key) (fields'.lookup key)) →
        ReadAs (.object fields) (.object fields')

theorem ReadAs.refl (v : Value) : ReadAs v v := by
  refine @Value.rec (fun v => ReadAs v v)
    (fun items => ∀ i : Nat, Option.Rel ReadAs items[i]? items[i]?)
    (fun fields => ∀ key, Option.Rel ReadAs (fields.lookup key) (fields.lookup key))
    (fun field => ReadAs field.2 field.2) .null (fun _ => .bool) ?_ (fun _ => .string)
    (fun _ => .array) (fun _ => .object) (fun _ => .none) ?_ (fun _ => .none) ?_
    (fun _ _ value => value) v
  · intro n
    cases n <;> constructor
  · intro item items first rest i
    cases i with
    | zero => exact .some first
    | succ i => exact rest i
  · intro field fields first rest key
    rw [List.lookup_cons]
    split
    · exact .some first
    · exact rest key

/-- The library reads the document back from its own text. -/
def RoundTrips [SerdeJson] [SerdeJsonText] (v : Value) : Prop :=
  ∃ doc, SerdeJson.fromStr (SerdeJsonText.toText v) = .ok doc ∧ ReadAs v doc

/-! ### Reading a field -/

section Reading

variable {v doc : Value} {key : String}

/-- A field is read as what is written there. -/
theorem ReadAs.get (read : ReadAs v doc) (key : String) :
    Option.Rel ReadAs (v.get key) (doc.get key) := by
  cases read with
  | object fields => exact fields key
  | _ => exact .none

theorem ReadAs.get_some {field : Value} (read : ReadAs v doc) (written : v.get key = some field) :
    ∃ field', doc.get key = some field' ∧ ReadAs field field' := by
  have same := read.get key
  rw [written] at same
  generalize eq : doc.get key = found at same
  cases same with
  | some same => exact ⟨_, rfl, same⟩

theorem ReadAs.get_bool {b : Bool} (read : ReadAs v doc) (written : v.get key = some (.bool b)) :
    doc.get key = some (.bool b) := by
  obtain ⟨field, found, same⟩ := read.get_some written
  cases same
  exact found

theorem ReadAs.get_string {s : String} (read : ReadAs v doc)
    (written : v.get key = some (.string s)) : doc.get key = some (.string s) := by
  obtain ⟨field, found, same⟩ := read.get_some written
  cases same
  exact found

theorem ReadAs.get_ofNat {n : Nat} (read : ReadAs v doc) (written : v.get key = some (ofNat n)) :
    doc.get key = some (ofNat n) := by
  obtain ⟨field, found, same⟩ := read.get_some written
  cases same
  exact found

theorem ReadAs.get_optional {n : Option Nat} (read : ReadAs v doc)
    (written : v.get key = some (ofOption ofNat n)) : doc.get key = some (ofOption ofNat n) := by
  cases n with
  | some n => exact read.get_ofNat written
  | none =>
      obtain ⟨field, found, same⟩ := read.get_some written
      cases same
      exact found

end Reading

/-! ### A writer -/

/-- A character inside a string. -/
def escape (c : Char) : String :=
  if c = '"' then "\\\""
  else if c = '\\' then "\\\\"
  else if c = '\n' then "\\n"
  else if c = '\r' then "\\r"
  else if c = '\t' then "\\t"
  else if c.toNat = 8 then "\\b"
  else if c.toNat = 12 then "\\f"
  else if c.toNat < 16 then "\\u000" ++ String.ofList (Nat.toDigits 16 c.toNat)
  else if c.toNat < 32 then "\\u00" ++ String.ofList (Nat.toDigits 16 c.toNat)
  else String.singleton c

def renderString (s : String) : String :=
  "\"" ++ String.join (s.toList.map escape) ++ "\""

def renderNumber : Number → String
  | .posInt n => toString n
  | .negInt n => toString n
  | .float text => text

mutual

/-- Compact JSON text. -/
def render : Value → String
  | .null => "null"
  | .bool b => toString b
  | .number n => renderNumber n
  | .string s => renderString s
  | .array items => "[" ++ renderItems items ++ "]"
  | .object fields => "\x7b" ++ renderFields fields ++ "\x7d"

def renderItems : List Value → String
  | [] => ""
  | [item] => render item
  | item :: items => render item ++ "," ++ renderItems items

def renderFields : List (String × Value) → String
  | [] => ""
  | [(key, value)] => renderString key ++ ":" ++ render value
  | (key, value) :: fields =>
      renderString key ++ ":" ++ render value ++ "," ++ renderFields fields

end

/-- A library that writes compact text, and reads that of `v`. -/
@[reducible] def reader (v : Value) : SerdeJson where
  fromStr raw := if raw = v.render then .ok v else .error "expected value at line 1 column 1"

@[reducible] def writer : SerdeJsonText where
  toText := render

theorem roundTrips_reader (v : Value) : @RoundTrips (reader v) writer v :=
  ⟨v, if_pos rfl, .refl v⟩

end Value
end Afanctl
