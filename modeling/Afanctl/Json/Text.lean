import Afanctl.Json
import Afanctl.Lib.Word

/-!
The JSON text of flat objects.

The grammar is the standard's, restricted to what a command file is: one object with distinct
keys, without blanks, whose values are strings without escapes or natural numbers.
`StandardJson` says of the JSON library that it reads these texts as the standard does, and
`readObject` is a reader that does.
-/

namespace Afanctl

open Afanctl.Lib

/-! ### The grammar -/

/-- A character that stands for itself in a JSON string. -/
def Unescaped (c : Char) : Prop := 32 ≤ c.toNat ∧ c ≠ '"' ∧ c ≠ '\\'

instance (c : Char) : Decidable (Unescaped c) := inferInstanceAs (Decidable (_ ∧ _))

theorem unescaped_of_all {text : String}
    (all : (text.toList.all fun c => decide (Unescaped c)) = true) :
    ∀ c ∈ text.toList, Unescaped c :=
  fun c mem => of_decide_eq_true (List.all_eq_true.mp all c mem)

/-- The digits of a natural number; only zero itself begins with a zero. -/
structure Decimal (digits : List Char) : Prop where
  nonempty : digits ≠ []
  digit : ∀ c ∈ digits, c.isDigit = true
  leading : digits.head? = some '0' → digits = ['0']

/-- The texts of strings and numbers, with what they stand for. -/
inductive ScalarText : List Char → Value → Prop where
  | string {text : List Char} : (∀ c ∈ text, Unescaped c) →
      ScalarText ('"' :: (text ++ ['"'])) (.string (String.ofList text))
  | number {digits : List Char} : Decimal digits → Nat.ofDigitChars 10 digits 0 ≤ u64Max →
      ScalarText digits (.number (.posInt (Nat.ofDigitChars 10 digits 0)))

inductive MemberText : List Char → String × Value → Prop where
  | mk {key text : List Char} {value : Value} : (∀ c ∈ key, Unescaped c) → ScalarText text value →
      MemberText ('"' :: (key ++ '"' :: ':' :: text)) (String.ofList key, value)

inductive MembersText : List Char → List (String × Value) → Prop where
  | last {text : List Char} {member : String × Value} :
      MemberText text member → MembersText text [member]
  | more {text rest : List Char} {member : String × Value} {members : List (String × Value)} :
      MemberText text member → MembersText rest members →
        MembersText (text ++ ',' :: rest) (member :: members)

/-- An object; what a repeated key means, the standard leaves open. -/
inductive ObjectText : List Char → List (String × Value) → Prop where
  | mk {text : List Char} {members : List (String × Value)} :
      MembersText text members → (members.map (·.1)).Nodup →
        ObjectText ('{' :: (text ++ ['}'])) members

/-- The library reads a flat object as the object of its members, in whatever order it keeps
them. -/
class StandardJson [SerdeJson] : Prop where
  object : ∀ {raw : String} {members : List (String × Value)}, ObjectText raw.toList members →
    ∃ doc, SerdeJson.fromStr raw = .ok doc ∧ ∀ key, doc.get key = members.lookup key

/-! ### Numbers as they are printed -/

theorem digitChar_eq_zero {n : Nat} (small : n < 10) (zero : n.digitChar = '0') : n = 0 := by
  have all : ∀ k : Fin 10, k.val.digitChar = '0' → k.val = 0 := by decide
  exact all ⟨n, small⟩ zero

/-- Only zero is printed with a leading zero. -/
theorem toDigits_leading (n : Nat) : (Nat.toDigits 10 n).head? = some '0' → n = 0 := by
  induction n using Nat.strongRecOn with
  | _ n ih =>
      intro leading
      by_cases small : n < 10
      · rw [Nat.toDigits_of_lt_base small] at leading
        exact digitChar_eq_zero small (Option.some.inj leading)
      · have big : 10 ≤ n := Nat.le_of_not_lt small
        obtain ⟨first, digits, eq⟩ := List.exists_cons_of_ne_nil
          (Nat.toDigits_ne_nil : Nat.toDigits 10 (n / 10) ≠ [])
        rw [Nat.toDigits_of_base_le (by decide) big, eq] at leading
        have none := ih (n / 10) (by omega) (eq ▸ leading)
        omega

/-- A printed number is a JSON number. -/
theorem decimal_toDigits (n : Nat) : Decimal (Nat.toDigits 10 n) where
  nonempty := Nat.toDigits_ne_nil
  digit := fun _ mem => Nat.isDigit_of_mem_toDigits (by decide) (by decide) mem
  leading := fun leading => by rw [toDigits_leading n leading]; rfl

theorem scalarText_toDigits {n : Nat} (fits : n ≤ u64Max) :
    ScalarText (Nat.toDigits 10 n) (.number (.posInt n)) := by
  have scalar := ScalarText.number (decimal_toDigits n)
  rw [Nat.ofDigitChars_ten_toDigits] at scalar
  exact scalar fits

/-! ### A reader -/

/-- A string at the front, and what follows its closing quote. -/
def readString : List Char → Option (List Char × List Char)
  | '"' :: text => match text.dropWhile (· ≠ '"') with
    | '"' :: rest => some (text.takeWhile (· ≠ '"'), rest)
    | _ => none
  | _ => none

def readScalar (text : List Char) : Option (Value × List Char) :=
  match readString text with
  | some (content, rest) => some (.string (String.ofList content), rest)
  | none =>
      let digits := text.takeWhile Char.isDigit
      if digits = [] then none
      else some (.number (.posInt (Nat.ofDigitChars 10 digits 0)), text.dropWhile Char.isDigit)

def readMember (text : List Char) : Option ((String × Value) × List Char) :=
  match readString text with
  | some (key, ':' :: rest) =>
      (readScalar rest).map fun (value, rest) => ((String.ofList key, value), rest)
  | _ => none

/-- At most so many members, up to the closing brace. -/
def readMembers : Nat → List Char → Option (List (String × Value))
  | 0, _ => none
  | n + 1, text => match readMember text with
    | some (member, ['}']) => some [member]
    | some (member, ',' :: rest) => (readMembers n rest).map (member :: ·)
    | _ => none

def readObject : List Char → Option (List (String × Value))
  | '{' :: text => readMembers text.length text
  | _ => none

/-- A string is read up to its closing quote, whatever follows. -/
theorem readString_quoted {text : List Char} (unescaped : ∀ c ∈ text, Unescaped c)
    (rest : List Char) : readString ('"' :: (text ++ '"' :: rest)) = some (text, rest) := by
  have inside : ∀ c ∈ text, decide (c ≠ '"') = true := fun c mem =>
    decide_eq_true (unescaped c mem).2.1
  have taken : (text ++ '"' :: rest).takeWhile (· ≠ '"') = text := by
    rw [List.takeWhile_append_of_pos inside]
    simp
  have left : (text ++ '"' :: rest).dropWhile (· ≠ '"') = '"' :: rest := by
    rw [List.dropWhile_append_of_pos inside]
    simp
  simp only [readString, taken, left]

theorem readString_digits {digits : List Char} (decimal : Decimal digits) (rest : List Char) :
    readString (digits ++ rest) = none := by
  obtain ⟨first, digits, rfl⟩ := List.exists_cons_of_ne_nil decimal.nonempty
  have digit := decimal.digit first List.mem_cons_self
  rw [List.cons_append]
  unfold readString
  split
  · next eq =>
      cases eq
      cases digit
  · rfl

/-- A scalar is read up to a character that is no digit. -/
theorem ScalarText.read {text rest : List Char} {value : Value} (scalar : ScalarText text value)
    (ends : ∀ c, rest.head? = some c → c.isDigit = false) :
    readScalar (text ++ rest) = some (value, rest) := by
  unfold readScalar
  cases scalar with
  | string unescaped =>
      rw [List.cons_append, List.append_assoc]
      rw [show ['"'] ++ rest = '"' :: rest from rfl, readString_quoted unescaped]
  | number decimal fits =>
      have stops : rest.takeWhile Char.isDigit = [] ∧ rest.dropWhile Char.isDigit = rest := by
        cases rest with
        | nil => exact ⟨rfl, rfl⟩
        | cons c rest => simp [ends c rfl]
      rw [readString_digits decimal, List.takeWhile_append_of_pos decimal.digit,
        List.dropWhile_append_of_pos decimal.digit, stops.1, stops.2]
      simp [decimal.nonempty]

theorem MemberText.read {text rest : List Char} {member : String × Value}
    (written : MemberText text member) (ends : ∀ c, rest.head? = some c → c.isDigit = false) :
    readMember (text ++ rest) = some (member, rest) := by
  cases written with
  | @mk key text value unescaped scalar =>
      unfold readMember
      rw [List.cons_append, List.append_assoc]
      rw [show '"' :: ':' :: text ++ rest = '"' :: (':' :: (text ++ rest)) from rfl,
        readString_quoted unescaped]
      simp only [scalar.read ends, Option.map_some]

theorem MembersText.length_le {text : List Char} {members : List (String × Value)}
    (written : MembersText text members) : members.length ≤ text.length := by
  induction written with
  | last member =>
      cases member
      simp
  | more member written ih =>
      simp only [List.length_cons, List.length_append]
      omega

theorem MembersText.read {text : List Char} {members : List (String × Value)}
    (written : MembersText text members) {n : Nat} (enough : members.length ≤ n) :
    readMembers n (text ++ ['}']) = some members := by
  induction written generalizing n with
  | @last text member written =>
      cases n with
      | zero => cases enough
      | succ n =>
          have read : readMember (text ++ ['}']) = some (member, ['}']) := written.read (by simp)
          simp only [readMembers, read]
  | @more text rest member members written others ih =>
      cases n with
      | zero => cases enough
      | succ n =>
          have read : readMember (text ++ ',' :: (rest ++ ['}']))
              = some (member, ',' :: (rest ++ ['}'])) := written.read (by simp)
          have remaining := ih (Nat.le_of_succ_le_succ enough)
          rw [List.append_assoc, List.cons_append]
          simp only [readMembers, read, remaining, Option.map_some]

theorem ObjectText.read {text : List Char} {members : List (String × Value)}
    (written : ObjectText text members) : readObject text = some members := by
  cases written with
  | @mk text members written distinct =>
      have enough : members.length ≤ (text ++ ['}']).length := by
        rw [List.length_append]
        exact Nat.le_trans written.length_le (Nat.le_add_right _ _)
      exact written.read enough

def flatFromStr (raw : String) : Except String Value :=
  match readObject raw.toList with
  | some members => .ok (.object members)
  | none => .error "expected value at line 1 column 1"

/-- The reader as a JSON library. -/
@[reducible] def flatJson : SerdeJson where
  fromStr := flatFromStr

theorem flatJson_standard : @StandardJson flatJson := by
  refine @StandardJson.mk flatJson fun {raw members} written => ⟨.object members, ?_, fun _ => rfl⟩
  show flatFromStr raw = _
  unfold flatFromStr
  rw [written.read]

end Afanctl
