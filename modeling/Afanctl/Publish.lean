import Afanctl.Lib.Files
import Afanctl.Lib.Machine

/-!
Publishing `cmd.json` and `state.json`.

`write_atomic` exists twice, in the verbs and in the daemon, with the same steps: create
the tmp file, write the body, rename it over the path. All callers share one tmp name.
`processes` interleaves the steps of any number of calls, each of which may fail or be
cut short anywhere, with readers that open the path and read it. Under mutual exclusion
of the calls readers see whole bodies only, and a call that returns `Ok` published its
own.
-/

namespace Afanctl.Publish

open Afanctl.Lib

/-- What a call touches: the path, and `path.with_extension("json.tmp")`. -/
inductive Name where
  | path
  | tmp
  deriving DecidableEq, Repr

abbrev Bytes := List UInt8

/-- The runtime directory. -/
abbrev RunDir := Dir Name UInt8

/-- Atomic tmp+rename write, undisturbed: `true` is `Ok`. -/
def writeAtomic (body : Bytes) (d : RunDir) : Bool × RunDir :=
  let (handle, d) := d.create .tmp
  let d := d.write handle body
  match d.rename .tmp .path with
  | some d => (true, d)
  | none => (false, d)

/-- Writing the tmp file leaves what the path holds. -/
theorem read_staged (bytes : Bytes) (d : RunDir) :
    ((d.create .tmp).2.write (d.create .tmp).1 bytes).read .path = d.read .path := by
  have names : ((d.create .tmp).2.write (d.create .tmp).1 bytes).names .path = d.names .path :=
    Dir.create_names_of_ne nofun
  cases named : d.names .path with
  | none => rw [Dir.read, Dir.read, names, named]; rfl
  | some k =>
      have apart : d.names .tmp ≠ some k := fun tmp => nomatch d.single _ _ _ named tmp
      obtain ⟨other, same⟩ := Dir.create_content (d.allocated _ _ named) apart
      rw [Dir.read_of_names (names.trans named), Dir.read_of_names named,
        Dir.write_content_of_ne other, same]

/-- Undisturbed, the write succeeds, and the path holds the body. -/
theorem writeAtomic_ok (body : Bytes) (d : RunDir) :
    ∃ d', writeAtomic body d = (true, d') ∧ d'.read .path = some body := by
  obtain ⟨tmp, empty⟩ := Dir.create_names .tmp d
  have staged : ((d.create .tmp).2.write (d.create .tmp).1 body).names .tmp
      = some (d.create .tmp).1 := tmp
  obtain ⟨d', renamed, names, content, -⟩ := Dir.rename_of_names staged .path
  have path : d'.names .path = some (d.create .tmp).1 := by
    rw [names]
    exact staged
  refine ⟨d', by simp only [writeAtomic, renamed], ?_⟩
  rw [Dir.read_of_names path, content, Dir.write_content_empty empty]

/-! ### Calls and readers side by side -/

/-- How far a call has come. -/
inductive Phase where
  | start
  /-- `fs::write` holds the handle -/
  | opened (handle : Nat)
  /-- the handle is closed, the rename is to come -/
  | written
  | returned (ok : Bool)
  /-- the process ended inside the call -/
  | dead
  deriving DecidableEq, Repr

/-- Between its open and its end. -/
def Phase.inFlight : Phase → Bool
  | .opened _ => true
  | .written => true
  | _ => false

/-- The directory, the calls `ι` and the readers `ρ`. -/
structure State (ι ρ : Type) where
  dir : RunDir
  phase : ι → Phase
  /-- the inode a reader has opened and not yet read -/
  handle : ρ → Option Nat

/-- What happens next. A failing write has written some bytes. -/
inductive Act (ι ρ : Type) where
  | step (i : ι)
  | fail (i : ι) (wrote : Nat)
  | die (i : ι)
  | openRead (r : ρ)
  | read (r : ρ)
  deriving DecidableEq, Repr

/-- What is observed: a rename that took place, with what the path held right after it,
and what a reader read, `none` if there was no file. -/
inductive Seen (ι : Type) where
  | renamed (i : ι) (content : Option Bytes)
  | read (content : Option Bytes)
  deriving DecidableEq, Repr

/-- The previous content, or one complete body. -/
def Whole {ι : Type} (body : ι → Bytes) (previous content : Option Bytes) : Prop :=
  content = previous ∨ ∃ i, content = some (body i)

/-- A read is whole; a rename that took place published the caller's own body. -/
def Seen.Whole {ι : Type} (body : ι → Bytes) (previous : Option Bytes) : Seen ι → Prop
  | .renamed i content => content = some (body i)
  | .read content => Publish.Whole body previous content

namespace State

variable {ι ρ : Type} (body : ι → Bytes)

section Acts

variable [DecidableEq ι]

/-- A call moves on. -/
def enter (i : ι) (phase : Phase) (dir : RunDir) (s : State ι ρ) : State ι ρ :=
  { s with dir := dir, phase := Function.update s.phase i phase }

/-- The next operation of a call takes place. A rename finds no tmp file if another call
has moved it. -/
def step (i : ι) (s : State ι ρ) : State ι ρ :=
  match s.phase i with
  | .start => s.enter i (.opened (s.dir.create .tmp).1) (s.dir.create .tmp).2
  | .opened handle => s.enter i .written (s.dir.write handle (body i))
  | .written =>
      match s.dir.rename .tmp .path with
      | some dir => s.enter i (.returned true) dir
      | none => s.enter i (.returned false) s.dir
  | _ => s

/-- The next operation of a call fails. -/
def fail (i : ι) (wrote : Nat) (s : State ι ρ) : State ι ρ :=
  match s.phase i with
  | .start => s.enter i (.returned false) s.dir
  | .opened handle =>
      s.enter i (.returned false) (s.dir.write handle ((body i).take wrote))
  | .written => s.enter i (.returned false) s.dir
  | _ => s

/-- The process of a call ends before its next operation. -/
def die (i : ι) (s : State ι ρ) : State ι ρ :=
  match s.phase i with
  | .returned _ => s
  | _ => s.enter i .dead s.dir

variable [DecidableEq ρ]

/-- A reader's handle. -/
def hold (r : ρ) (handle : Option Nat) (s : State ι ρ) : State ι ρ :=
  { s with handle := Function.update s.handle r handle }

def next : Act ι ρ → State ι ρ → State ι ρ
  | .step i, s => s.step body i
  | .fail i wrote, s => s.fail body i wrote
  | .die i, s => s.die i
  | .openRead r, s => s.hold r (s.dir.names .path)
  | .read r, s => s.hold r none

def out : Act ι ρ → State ι ρ → List (Seen ι)
  | .step i, s =>
      match s.phase i, s.dir.rename .tmp .path with
      | .written, some dir => [.renamed i (dir.read .path)]
      | _, _ => []
  | .openRead _, s => if (s.dir.names .path).isNone then [.read none] else []
  | .read r, s =>
      match s.handle r with
      | some handle => [.read (some (s.dir.content handle))]
      | none => []
  | _, _ => []

/-- The calls and readers as a machine. -/
def processes : Machine (Act ι ρ) (State ι ρ) (Seen ι) where
  next := next body
  out := out

end Acts

/-- No call opens the tmp file while another is in flight. -/
def Exclusive : Act ι ρ → State ι ρ → Prop
  | .step i, s => s.phase i = .start → ∀ j, (s.phase j).inFlight = false
  | _, _ => True

instance (act : Act ι ρ) (s : State ι ρ) [Decidable (∀ j, (s.phase j).inFlight = false)] :
    Decidable (Exclusive act s) :=
  match act with
  | .step i =>
      inferInstanceAs (Decidable (s.phase i = .start → ∀ j, (s.phase j).inFlight = false))
  | .fail _ _ => isTrue trivial
  | .die _ => isTrue trivial
  | .openRead _ => isTrue trivial
  | .read _ => isTrue trivial

section Unfolding

variable [DecidableEq ι] {body} {s : State ι ρ} {i : ι}

theorem step_start (at_ : s.phase i = .start) :
    s.step body i = s.enter i (.opened (s.dir.create .tmp).1) (s.dir.create .tmp).2 := by
  simp only [step, at_]

theorem step_opened {handle : Nat} (at_ : s.phase i = .opened handle) :
    s.step body i = s.enter i .written (s.dir.write handle (body i)) := by
  simp only [step, at_]

theorem step_written (at_ : s.phase i = .written) :
    s.step body i = match s.dir.rename .tmp .path with
      | some dir => s.enter i (.returned true) dir
      | none => s.enter i (.returned false) s.dir := by
  simp only [step, at_]

end Unfolding

/-! ### The invariant -/

variable {body} {previous : Option Bytes} {s : State ι ρ} {i : ι}

/-- An inode that no call writes any more, and that is whole. -/
structure Sealed (body : ι → Bytes) (previous : Option Bytes) (d : RunDir) (k : Nat) : Prop where
  below : k < d.next
  apart : d.names .tmp ≠ some k
  whole : Whole body previous (some (d.content k))

/-- What mutual exclusion keeps: one call at most is in flight, and knows what the tmp file
holds; what the path and the readers point at is sealed. -/
structure Orderly (body : ι → Bytes) (previous : Option Bytes) (s : State ι ρ) : Prop where
  alone : ∀ {i j}, (s.phase i).inFlight → (s.phase j).inFlight → i = j
  opened : ∀ {i handle}, s.phase i = .opened handle →
    s.dir.names .tmp = some handle ∧ s.dir.content handle = []
  written : ∀ {i}, s.phase i = .written → s.dir.read .tmp = some (body i)
  published : ∀ {k}, s.dir.names .path = some k → Sealed body previous s.dir k
  absent : s.dir.names .path = none → previous = none
  reading : ∀ {r k}, s.handle r = some k → Sealed body previous s.dir k

/-! ### Sealed inodes stay sealed -/

namespace Sealed

variable {d d' : RunDir} {k handle : Nat} {bytes : Bytes}

theorem create (sealed : Sealed body previous d k) :
    Sealed body previous (d.create .tmp).2 k := by
  obtain ⟨other, same⟩ := Dir.create_content sealed.below sealed.apart
  refine ⟨Nat.lt_of_lt_of_le sealed.below (Dir.create_next .tmp d).1, ?_, same ▸ sealed.whole⟩
  rw [(Dir.create_names .tmp d).1]
  exact fun named => other (Option.some.inj named).symm

theorem write (sealed : Sealed body previous d k) (named : d.names .tmp = some handle) :
    Sealed body previous (d.write handle bytes) k := by
  have other : k ≠ handle := fun same => sealed.apart (same ▸ named)
  exact ⟨sealed.below, sealed.apart, (Dir.write_content_of_ne other).symm ▸ sealed.whole⟩

theorem rename (sealed : Sealed body previous d k) (names : d'.names = moved .tmp .path d.names)
    (content : d'.content = d.content) (next : d'.next = d.next) :
    Sealed body previous d' k :=
  ⟨next ▸ sealed.below, by rw [names]; exact nofun, content ▸ sealed.whole⟩

end Sealed

/-! ### Steps of the calls -/

section Steps

variable [DecidableEq ι]

@[simp] theorem enter_phase_self {p : Phase} {dir : RunDir} : (s.enter i p dir).phase i = p :=
  Function.update_self ..

theorem enter_phase_of_ne {j : ι} {p : Phase} {dir : RunDir} (other : j ≠ i) :
    (s.enter i p dir).phase j = s.phase j :=
  Function.update_of_ne other ..

namespace Orderly

variable {p : Phase} {dir : RunDir}

omit [DecidableEq ι] in
/-- While a call is in flight, no other is. -/
theorem others (orderly : Orderly body previous s) (busy : (s.phase i).inFlight) :
    ∀ j, j ≠ i → (s.phase j).inFlight = false := by
  intro j other
  cases flying : (s.phase j).inFlight with
  | false => rfl
  | true => exact absurd (orderly.alone flying busy) other

/-- The only call in flight moves on. -/
theorem enter (orderly : Orderly body previous s)
    (others : ∀ j, j ≠ i → (s.phase j).inFlight = false)
    (opened : ∀ handle, p = .opened handle →
      dir.names .tmp = some handle ∧ dir.content handle = [])
    (written : p = .written → dir.read .tmp = some (body i))
    (published : ∀ k, dir.names .path = some k → Sealed body previous dir k)
    (absent : dir.names .path = none → previous = none)
    (kept : ∀ k, Sealed body previous s.dir k → Sealed body previous dir k) :
    Orderly body previous (s.enter i p dir) := by
  have flying : ∀ {j}, ((s.enter i p dir).phase j).inFlight → j = i := by
    intro j flying
    apply Decidable.byContradiction
    intro other
    rw [enter_phase_of_ne other, others j other] at flying
    cases flying
  refine ⟨fun first second => (flying first).trans (flying second).symm, ?_, ?_,
    fun named => published _ named, absent, fun held => kept _ (orderly.reading held)⟩
  · intro j handle at_
    have same := flying (j := j) (by rw [at_]; rfl)
    rw [same, enter_phase_self] at at_
    exact opened handle at_
  · intro j at_
    have same := flying (j := j) (by rw [at_]; rfl)
    rw [same, enter_phase_self] at at_
    rw [same]
    exact written at_

/-- A call leaves, or gives up, without touching the directory. -/
theorem leave (orderly : Orderly body previous s) (ended : p.inFlight = false) :
    Orderly body previous (s.enter i p s.dir) := by
  have same : ∀ {j}, ((s.enter i p s.dir).phase j).inFlight →
      (s.enter i p s.dir).phase j = s.phase j := by
    intro j flying
    apply enter_phase_of_ne
    rintro rfl
    rw [enter_phase_self, ended] at flying
    cases flying
  refine ⟨fun {j k} first second => ?_, fun {j handle} at_ => ?_, fun {j} at_ => ?_,
    orderly.published, orderly.absent, orderly.reading⟩
  · rw [same first] at first
    rw [same second] at second
    exact orderly.alone first second
  · rw [same (by rw [at_]; rfl)] at at_
    exact orderly.opened at_
  · rw [same (by rw [at_]; rfl)] at at_
    exact orderly.written at_

omit [DecidableEq ι] in
/-- The tmp file of a written call is there, and holds the whole body. -/
theorem tmp_of_written (orderly : Orderly body previous s) (written : s.phase i = .written) :
    ∃ k, s.dir.names .tmp = some k ∧ s.dir.content k = body i := by
  have read := orderly.written written
  unfold Dir.read at read
  obtain ⟨k, named, content⟩ := Option.map_eq_some_iff.mp read
  exact ⟨k, named, content⟩

/-- Its rename takes place, and leaves the body at the path. -/
theorem renamed (orderly : Orderly body previous s) (written : s.phase i = .written) :
    ∃ d, s.dir.rename .tmp .path = some d ∧ d.read .path = some (body i) ∧
      Orderly body previous (s.enter i (.returned true) d) := by
  obtain ⟨k, named, content⟩ := orderly.tmp_of_written written
  obtain ⟨d, renamed, names, same, next⟩ := Dir.rename_of_names named .path
  have path : d.names .path = some k := by
    rw [names]
    exact named
  have whole : d.content k = body i := same ▸ content
  have isSealed : Sealed body previous d k :=
    ⟨next ▸ s.dir.allocated _ _ named, by rw [names]; exact nofun,
      .inr ⟨i, congrArg some whole⟩⟩
  refine ⟨d, renamed, by rw [Dir.read_of_names path, whole], ?_⟩
  refine orderly.enter (orderly.others (by rw [written]; rfl)) nofun nofun ?_ ?_ ?_
  · intro j at_
    rw [path] at at_
    cases at_
    exact isSealed
  · intro gone
    rw [path] at gone
    cases gone
  · exact fun j before => before.rename names same next

/-- The step of a call, if it opens the tmp file with no other in flight. -/
theorem step (orderly : Orderly body previous s)
    (exclusive : s.phase i = .start → ∀ j, (s.phase j).inFlight = false) :
    Orderly body previous (s.step body i) := by
  unfold State.step
  cases at_ : s.phase i with
  | start =>
      obtain ⟨named, empty⟩ := Dir.create_names .tmp s.dir
      have path : (s.dir.create .tmp).2.names .path = s.dir.names .path :=
        Dir.create_names_of_ne nofun
      refine orderly.enter (fun j _ => exclusive at_ j) ?_ nofun ?_ ?_ fun k before => before.create
      · intro handle opened
        cases opened
        exact ⟨named, empty⟩
      · exact fun k published => (orderly.published (path ▸ published)).create
      · exact fun gone => orderly.absent (path ▸ gone)
  | opened handle =>
      obtain ⟨named, empty⟩ := orderly.opened at_
      refine orderly.enter (orderly.others (by rw [at_]; rfl)) nofun ?_ ?_ orderly.absent
        fun k before => before.write named
      · intro _
        rw [Dir.read_of_names (d := s.dir.write handle (body i)) named,
          Dir.write_content_empty empty]
      · exact fun k published => (orderly.published published).write named
  | written =>
      obtain ⟨d, renamed, -, orderly⟩ := orderly.renamed at_
      simp only [renamed]
      exact orderly
  | returned ok => exact orderly
  | dead => exact orderly

/-- A failing operation ends its call; the path is not touched. -/
theorem fail (orderly : Orderly body previous s) (wrote : Nat) :
    Orderly body previous (s.fail body i wrote) := by
  unfold State.fail
  cases at_ : s.phase i with
  | start => exact orderly.leave rfl
  | opened handle =>
      obtain ⟨named, -⟩ := orderly.opened at_
      exact orderly.enter (orderly.others (by rw [at_]; rfl)) nofun nofun
        (fun k published => (orderly.published published).write named) orderly.absent
        fun k before => before.write named
  | written => exact orderly.leave rfl
  | returned ok => exact orderly
  | dead => exact orderly

theorem die (orderly : Orderly body previous s) : Orderly body previous (s.die i) := by
  unfold State.die
  split
  · exact orderly
  · exact orderly.leave rfl

end Orderly

end Steps

/-! ### Readers -/

section Readers

variable [DecidableEq ρ]

theorem Orderly.hold (orderly : Orderly body previous s) {r : ρ} {handle : Option Nat}
    (held : ∀ k, handle = some k → Sealed body previous s.dir k) :
    Orderly body previous (s.hold r handle) := by
  refine { orderly with reading := fun {r' k} opened => ?_ }
  by_cases same : r' = r
  · rw [same] at opened
    simp only [State.hold, Function.update_self] at opened
    exact held k opened
  · simp only [State.hold, Function.update_of_ne same] at opened
    exact orderly.reading opened

end Readers

section Runs

variable [DecidableEq ι] [DecidableEq ρ]

/-- Under mutual exclusion every act keeps the order. -/
theorem Orderly.next (orderly : Orderly body previous s) {act : Act ι ρ}
    (exclusive : Exclusive act s) : Orderly body previous (s.next body act) := by
  cases act with
  | step i => exact orderly.step exclusive
  | fail i wrote => exact orderly.fail wrote
  | die i => exact orderly.die
  | openRead r => exact orderly.hold fun k named => orderly.published named
  | read r => exact orderly.hold nofun

omit [DecidableEq ρ] in
/-- And what is seen of it is whole. -/
theorem Orderly.sees (orderly : Orderly body previous s) (act : Act ι ρ) :
    ∀ o ∈ s.out act, o.Whole body previous := by
  intro o mem
  cases act with
  | step i =>
      simp only [out] at mem
      split at mem
      · next d at_ renamed =>
          obtain ⟨d', renamed', path, -⟩ := orderly.renamed at_
          cases renamed.symm.trans renamed'
          rw [List.mem_singleton.mp mem]
          exact path
      · cases mem
  | openRead r =>
      simp only [out] at mem
      split at mem
      · next gone =>
          rw [List.mem_singleton.mp mem]
          exact .inl (orderly.absent (Option.isNone_iff_eq_none.mp gone)).symm
      · cases mem
  | read r =>
      simp only [out] at mem
      split at mem
      · next k held =>
          rw [List.mem_singleton.mp mem]
          exact (orderly.reading held).whole
      · cases mem
  | fail | die => cases mem

/-- Before any call and any read. -/
structure Fresh (s : State ι ρ) : Prop where
  phase : ∀ i, s.phase i = .start
  handle : ∀ r, s.handle r = none

omit [DecidableEq ι] [DecidableEq ρ] in
theorem Fresh.orderly (fresh : s.Fresh) : Orderly body (s.dir.read .path) s where
  alone := fun flying => by simp [fresh.phase, Phase.inFlight] at flying
  opened := fun at_ => by simp [fresh.phase] at at_
  written := fun at_ => by simp [fresh.phase] at at_
  published := fun {k} named => by
    refine ⟨s.dir.allocated _ _ named, fun tmp => ?_, .inl (Dir.read_of_names named).symm⟩
    cases s.dir.single _ _ _ named tmp
  absent := fun gone => by rw [Dir.read, gone]; rfl
  reading := fun held => by simp [fresh.handle] at held

/-- Undisturbed, a call is `writeAtomic`. -/
theorem run_alone (start : s.phase i = .start) :
    ((processes body).run [.step i, .step i, .step i] s).dir = (writeAtomic (body i) s.dir).2 ∧
      ((processes body).run [.step i, .step i, .step i] s).phase i
        = .returned (writeAtomic (body i) s.dir).1 := by
  show (((s.step body i).step body i).step body i).dir = _ ∧
    (((s.step body i).step body i).step body i).phase i = _
  rw [step_start start, step_opened enter_phase_self, step_written enter_phase_self]
  simp only [writeAtomic, enter]
  split
  · exact ⟨rfl, Function.update_self ..⟩
  · exact ⟨rfl, Function.update_self ..⟩

/-- In every interleaving in which no call opens the tmp file while another is in flight,
every read is whole, and every call that returns `Ok` published its own body. -/
theorem publishes_whole (fresh : s.Fresh) {acts : List (Act ι ρ)}
    (exclusive : (processes body).Along Exclusive acts s) :
    ∀ o ∈ (processes body).trace acts s, o.Whole body (s.dir.read .path) :=
  Machine.trace_forall (I := Orderly body (s.dir.read .path))
    (fun exclusive orderly => orderly.next exclusive)
    (fun _ orderly => orderly.sees _) exclusive fresh.orderly

end Runs

section Concrete

/-- Two calls, one with a body of two bytes, one with three. -/
def pair : Bool → Bytes
  | false => [1, 2]
  | true => [3, 4, 5]

/-- An empty directory. -/
def empty : State Bool Unit where
  dir := ⟨fun _ => none, fun _ => [], 0, nofun, nofun⟩
  phase := fun _ => .start
  handle := fun _ => none

theorem empty_fresh : empty.Fresh := ⟨fun _ => rfl, fun _ => rfl⟩

/-- One call after the other; a reader that opened the first body still reads it. -/
def inTurn : List (Act Bool Unit) :=
  [.step false, .step false, .step false, .openRead (), .step true, .step true, .step true,
    .read (), .openRead (), .read ()]

theorem publishes_whole_inTurn :
    (processes pair).trace inTurn empty
        = [.renamed false (some [1, 2]), .renamed true (some [3, 4, 5]), .read (some [1, 2]),
          .read (some [3, 4, 5])] ∧
      ∀ o ∈ (processes pair).trace inTurn empty, o.Whole pair none :=
  ⟨by decide, publishes_whole empty_fresh (by decide)⟩

/-- The second call opens the tmp file that the first one has written. -/
def overlapping : List (Act Bool Unit) :=
  [.step false, .step false, .step true, .step false, .openRead (), .read ()]

/-- The first call returns `Ok`, but published an empty file, and that is what is read. -/
theorem publishes_empty :
    empty.Fresh ∧
      (processes pair).trace overlapping empty = [.renamed false (some []), .read (some [])] ∧
      ¬ ∀ o ∈ (processes pair).trace overlapping empty, o.Whole pair none := by
  have seen : (processes pair).trace overlapping empty
      = [.renamed false (some []), .read (some [])] := by decide
  refine ⟨empty_fresh, seen, fun whole => ?_⟩
  rw [seen] at whole
  exact absurd (whole _ List.mem_cons_self) nofun

end Concrete

end State

end Afanctl.Publish
