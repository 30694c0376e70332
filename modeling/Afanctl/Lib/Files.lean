import Mathlib.Logic.Function.Basic

/-!
A directory of files.

Names point at inodes, inodes hold contents, and a handle is an inode: whoever opened a
file follows the inode, whatever its name does later. `create` opens for writing and
truncates, `write` overwrites from the start of a freshly opened handle and leaves what
lies beyond, `rename` moves a name over another. The inode that lost its last name keeps
its content for whoever holds a handle.
-/

namespace Afanctl.Lib

/-! ### Names -/

section Names

variable {ν : Type} {names : ν → Option Nat} {next : Nat}

/-- Every name points below `next`. -/
def Allocated (names : ν → Option Nat) (next : Nat) : Prop := ∀ n i, names n = some i → i < next

/-- No inode has two names. -/
def Single (names : ν → Option Nat) : Prop := ∀ n m i, names n = some i → names m = some i → n = m

variable [DecidableEq ν]

theorem Allocated.fresh (allocated : Allocated names next) (n : ν) :
    Allocated (Function.update names n (some next)) (next + 1) := by
  intro m i named
  by_cases same : m = n
  · rw [same, Function.update_self] at named
    cases named
    exact Nat.lt_succ_self _
  · rw [Function.update_of_ne same] at named
    exact Nat.lt_succ_of_lt (allocated m i named)

theorem Single.fresh (single : Single names) (allocated : Allocated names next) (n : ν) :
    Single (Function.update names n (some next)) := by
  have elsewhere : ∀ m, names m ≠ some next := fun m named =>
    Nat.lt_irrefl _ (allocated m next named)
  intro m k i first second
  by_cases atM : m = n <;> by_cases atK : k = n
  · exact atM.trans atK.symm
  · rw [atM, Function.update_self] at first
    rw [Function.update_of_ne atK, ← first] at second
    exact absurd second (elsewhere k)
  · rw [atK, Function.update_self] at second
    rw [Function.update_of_ne atM, ← second] at first
    exact absurd first (elsewhere m)
  · rw [Function.update_of_ne atM] at first
    rw [Function.update_of_ne atK] at second
    exact single m k i first second

/-- The names after `old` has been moved over `new`. -/
def moved (old new : ν) (names : ν → Option Nat) (n : ν) : Option Nat :=
  if n = new then names old else if n = old then none else names n

/-- What a name points at after a move, some name did before. -/
theorem moved_eq {old new n : ν} {i : Nat} (named : moved old new names n = some i) :
    (n = new ∧ names old = some i) ∨ (n ≠ new ∧ n ≠ old ∧ names n = some i) := by
  unfold moved at named
  split at named
  · next same => exact .inl ⟨same, named⟩
  · split at named
    · cases named
    · next other gone => exact .inr ⟨other, gone, named⟩

theorem Allocated.moved (allocated : Allocated names next) (old new : ν) :
    Allocated (moved old new names) next := by
  intro n i named
  rcases moved_eq named with ⟨-, before⟩ | ⟨-, -, before⟩
  · exact allocated old i before
  · exact allocated n i before

theorem Single.moved (single : Single names) (old new : ν) : Single (moved old new names) := by
  intro n m i first second
  rcases moved_eq first with ⟨rfl, before⟩ | ⟨-, left, before⟩ <;>
    rcases moved_eq second with ⟨rfl, before'⟩ | ⟨-, left', before'⟩
  · rfl
  · exact absurd (single m old i before' before) left'
  · exact absurd (single n old i before before') left
  · exact single n m i before before'

end Names

/-! ### Directories -/

/-- A directory: each name points at an allocated inode, and no inode has two names. -/
structure Dir (ν α : Type) where
  names : ν → Option Nat
  content : Nat → List α
  next : Nat
  allocated : Allocated names next
  single : Single names

namespace Dir

variable {ν α : Type} {d d' : Dir ν α} {n m old new : ν} {i k : Nat} {bytes : List α}

/-- What reading a name gives, if it points anywhere. -/
def read (n : ν) (d : Dir ν α) : Option (List α) := (d.names n).map d.content

theorem read_of_names (named : d.names n = some i) : d.read n = some (d.content i) := by
  rw [read, named]
  rfl

/-- Write at the start of a handle's file. -/
def write (i : Nat) (bytes : List α) (d : Dir ν α) : Dir ν α :=
  { d with content := Function.update d.content i (bytes ++ (d.content i).drop bytes.length) }

theorem write_content_of_ne (other : k ≠ i) : (d.write i bytes).content k = d.content k :=
  Function.update_of_ne other _ _

/-- Over an empty file the bytes are all there is. -/
theorem write_content_empty (empty : d.content i = []) :
    (d.write i bytes).content i = bytes := by
  show Function.update d.content i _ i = bytes
  rw [Function.update_self, empty, List.drop_nil, List.append_nil]

variable [DecidableEq ν]

/-- Open for writing, truncating the file or making a new one; the handle comes first. -/
def create (n : ν) (d : Dir ν α) : Nat × Dir ν α :=
  match d.names n with
  | some i => (i, { d with content := Function.update d.content i [] })
  | none =>
      (d.next,
        { names := Function.update d.names n (some d.next)
          content := Function.update d.content d.next []
          next := d.next + 1
          allocated := d.allocated.fresh n
          single := d.single.fresh d.allocated n })

/-- Move a name over another, unless it points nowhere. -/
def rename (old new : ν) (d : Dir ν α) : Option (Dir ν α) :=
  if (d.names old).isSome then
    some
      { d with
        names := moved old new d.names
        allocated := d.allocated.moved old new
        single := d.single.moved old new }
  else none

/-- The name points at the handle, whose file is empty. -/
theorem create_names (n : ν) (d : Dir ν α) :
    (d.create n).2.names n = some (d.create n).1 ∧
      (d.create n).2.content (d.create n).1 = [] := by
  unfold create
  split
  · next named => exact ⟨named, Function.update_self ..⟩
  · exact ⟨Function.update_self .., Function.update_self ..⟩

theorem create_names_of_ne (other : m ≠ n) : (d.create n).2.names m = d.names m := by
  unfold create
  split
  · rfl
  · exact Function.update_of_ne other _ _

/-- An allocated inode that the name does not point at is left alone. -/
theorem create_content (below : k < d.next) (other : d.names n ≠ some k) :
    k ≠ (d.create n).1 ∧ (d.create n).2.content k = d.content k := by
  unfold create
  split
  · next i named =>
      have apart : k ≠ i := fun same => other (same ▸ named)
      exact ⟨apart, Function.update_of_ne apart _ _⟩
  · have apart : k ≠ d.next := Nat.ne_of_lt below
    exact ⟨apart, Function.update_of_ne apart _ _⟩

theorem create_next (n : ν) (d : Dir ν α) :
    d.next ≤ (d.create n).2.next ∧
      ∀ k, k < (d.create n).2.next → k < d.next ∨ k = (d.create n).1 := by
  unfold create
  split
  · exact ⟨Nat.le_refl _, fun k below => .inl below⟩
  · exact ⟨Nat.le_succ _, fun k below => Nat.lt_or_eq_of_le (Nat.le_of_lt_succ below)⟩

/-- With a file to move, the move takes place, and touches names only. -/
theorem rename_of_names (named : d.names old = some i) (new : ν) :
    ∃ d', d.rename old new = some d' ∧ d'.names = moved old new d.names ∧
      d'.content = d.content ∧ d'.next = d.next := by
  unfold rename
  rw [if_pos (by rw [named]; rfl)]
  exact ⟨_, rfl, rfl, rfl, rfl⟩

end Dir

end Afanctl.Lib
