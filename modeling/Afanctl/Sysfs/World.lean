import Afanctl.Lib.Word
import Afanctl.Smc

/-!
The files of sysfs, as the adapter meets them.

A device answers the system calls on the attribute files and keeps changing while the
adapter sleeps. Nothing is assumed of it, so a statement over every device is a statement
over every sequence of answers. A `World` is a device with the journal of what was done to
it. The journal is not in the source; it is what statements about reads, writes and sleeps
speak of.
-/

namespace Afanctl

open Afanctl.Lib

/-- The system calls on attribute files, over device states `δ`; failures are texts. -/
class Sysfs (δ : Type) where
  read : String → δ → Except String String × δ
  write : String → String → δ → Except String Unit × δ
  /-- a write through the handle kept open on the mode attribute -/
  writeHeld : String → δ → Except String Unit × δ
  /-- nanoseconds pass -/
  sleep : Nat → δ → δ

/-- One entry of the journal. -/
inductive FileOp where
  | read (path : String) (answer : Except String String)
  | write (path payload : String) (answer : Except String Unit)
  | writeHeld (payload : String) (answer : Except String Unit)
  | sleep (ns : Nat)

/-- The nanoseconds a journal sleeps. -/
def slept : List FileOp → Nat
  | [] => 0
  | .sleep ns :: rest => ns + slept rest
  | _ :: rest => slept rest

theorem slept_append (ops ops' : List FileOp) : slept (ops ++ ops') = slept ops + slept ops' := by
  induction ops with
  | nil => simp [slept]
  | cons op ops ih => cases op <;> simp [slept, ih, Nat.add_assoc]

/-- A device and what was done to it. -/
structure World (δ : Type) where
  device : δ
  journal : List FileOp

namespace World

variable {δ : Type}

/-- `w'` is what became of `w` with at most `n` nanoseconds of sleep. -/
def Within (n : Nat) (w w' : World δ) : Prop :=
  ∃ ops, w'.journal = w.journal ++ ops ∧ slept ops ≤ n

section Within

variable {m n : Nat} {w w' w'' : World δ}

theorem within_refl (w : World δ) : Within n w w := ⟨[], by simp, Nat.zero_le n⟩

theorem Within.mono (within : Within m w w') (le : m ≤ n) : Within n w w' := by
  obtain ⟨ops, journal, brief⟩ := within
  exact ⟨ops, journal, Nat.le_trans brief le⟩

theorem Within.trans (first : Within m w w') (second : Within n w' w'') :
    Within (m + n) w w'' := by
  obtain ⟨ops, journal, brief⟩ := first
  obtain ⟨ops', journal', brief'⟩ := second
  refine ⟨ops ++ ops', by rw [journal', journal, List.append_assoc], ?_⟩
  rw [slept_append]
  exact Nat.add_le_add brief brief'

end Within

variable [Sysfs δ]

/-- `fs::read_to_string`. -/
def read (path : String) (w : World δ) : Except String String × World δ :=
  let answer := Sysfs.read path w.device
  (answer.1, { device := answer.2, journal := w.journal ++ [.read path answer.1] })

/-- `fs::write`. -/
def write (path payload : String) (w : World δ) : Except String Unit × World δ :=
  let answer := Sysfs.write path payload w.device
  (answer.1, { device := answer.2, journal := w.journal ++ [.write path payload answer.1] })

/-- Rewind the held handle, write, rewind. -/
def writeHeld (payload : String) (w : World δ) : Except String Unit × World δ :=
  let answer := Sysfs.writeHeld payload w.device
  (answer.1, { device := answer.2, journal := w.journal ++ [.writeHeld payload answer.1] })

/-- `thread::sleep`. -/
def sleep (ns : Nat) (w : World δ) : World δ :=
  { device := Sysfs.sleep ns w.device, journal := w.journal ++ [.sleep ns] }

theorem within_read {n : Nat} (path : String) (w : World δ) : Within n w (w.read path).2 :=
  ⟨_, rfl, Nat.zero_le n⟩

theorem within_write {n : Nat} (path payload : String) (w : World δ) :
    Within n w (w.write path payload).2 :=
  ⟨_, rfl, Nat.zero_le n⟩

theorem within_sleep (ns : Nat) (w : World δ) : Within ns w (w.sleep ns) :=
  ⟨_, rfl, Nat.le_refl ns⟩

end World

/-! ### Paths -/

/-- `Path::join` of a relative name. -/
def join (dir name : String) : String :=
  match dir.toList.getLast? with
  | none | some '/' => dir ++ name
  | some _ => dir ++ "/" ++ name

theorem join_inj {dir name name' : String} : join dir name = join dir name' ↔ name = name' := by
  constructor
  · intro same
    have whole := congrArg String.toList same
    unfold join at whole
    apply String.toList_inj.mp
    split at whole <;> simpa using whole
  · exact fun same => congrArg (join dir) same

/-! ### The text of attributes -/

/-- The white space of `str::trim`. -/
def isWhitespace (c : Char) : Bool :=
  let n := c.toNat
  (9 ≤ n && n ≤ 13) || n == 32 || n == 133 || n == 160 || n == 5760 || (8192 ≤ n && n ≤ 8202) ||
    n == 8232 || n == 8233 || n == 8239 || n == 8287 || n == 12288

/-- `str::trim`. -/
def trim (s : String) : String :=
  let start := s.toList.dropWhile isWhitespace
  String.ofList (start.reverse.dropWhile isWhitespace).reverse

/-- The value of a run of decimal digits; an empty run has none. -/
def digits (cs : List Char) : Option Nat :=
  if cs ≠ [] ∧ cs.all Char.isDigit then
    some (cs.foldl (fun n c => n * 10 + (c.toNat - 48)) 0)
  else none

/-- `str::parse::<u32>`: digits, perhaps after a plus sign. -/
def parseU32 (s : String) : Option Nat :=
  let cs := match s.toList with
    | '+' :: rest => rest
    | all => all
  (digits cs).filter (· ≤ u32Max)

/-- `str::parse::<i32>`: digits, perhaps after a sign. -/
def parseI32 (s : String) : Option Int :=
  let parsed := match s.toList with
    | '+' :: rest => (digits rest).map Int.ofNat
    | '-' :: rest => (digits rest).map fun n => -(n : Int)
    | all => (digits all).map Int.ofNat
  parsed.filter fun n => -2147483648 ≤ n && n ≤ 2147483647

namespace World

variable {δ : Type} [Sysfs δ]

/-- Read a sysfs file; errors carry the path. -/
def readString (path : String) (w : World δ) : Except SmcError String × World δ :=
  match w.read path with
  | (.error source, w) => (.error (.read path source), w)
  | (.ok raw, w) => (.ok raw, w)

/-- Parse a `u32` sysfs value. -/
def readU32 (path : String) (w : World δ) : Except SmcError Nat × World δ :=
  match w.readString path with
  | (.error e, w) => (.error e, w)
  | (.ok raw, w) => match parseU32 (trim raw) with
    | some n => (.ok n, w)
    | none => (.error (.invalidValue path (trim raw)), w)

theorem within_readString {n : Nat} (path : String) (w : World δ) :
    Within n w (w.readString path).2 := by
  have read : Within n w (w.read path).2 := within_read path w
  unfold readString
  split <;> next eq => rw [eq] at read; exact read

theorem within_readU32 {n : Nat} (path : String) (w : World δ) :
    Within n w (w.readU32 path).2 := by
  have read : Within n w (w.readString path).2 := within_readString path w
  unfold readU32
  split
  · next eq => rw [eq] at read; exact read
  · next eq =>
      rw [eq] at read
      split <;> exact read

end World

end Afanctl
