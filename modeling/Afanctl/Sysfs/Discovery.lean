import Afanctl.Lib.Result
import Afanctl.Sysfs.Adapter
import Mathlib.Data.List.Dedup
import Mathlib.Data.List.Sort
import Mathlib.Data.Prod.Lex
import Mathlib.Data.String.Basic
import Mathlib.Order.Bounds.Basic

/-!
Discovery: how `open` finds the fan, its generation and the sensors in a tree.

The tree is what the file system shows while `open` looks at it. Directory listings come in no
order, and `open` sorts them; the generation is told by the mode attribute that is there. So
what `open` binds is said without naming an order: it succeeds exactly on the trees that offer
all it needs, and binds what they offer.
-/

namespace Afanctl

open Afanctl.Lib

/-! ### Sorting what comes in no order -/

section Sorting

variable {α : Type} [LinearOrder α] {l l' : List α} {a : α} {p : α → Bool}

/-- Two orders of the same elements sort alike. -/
theorem sort_perm (perm : l.Perm l') :
    l.insertionSort (· ≤ ·) = l'.insertionSort (· ≤ ·) :=
  have same := (List.perm_insertionSort _ l).trans (perm.trans (List.perm_insertionSort _ l').symm)
  same.eq_of_pairwise' (List.pairwise_insertionSort _ l) (List.pairwise_insertionSort _ l')

/-- Different elements sort strictly. -/
theorem sort_strict (nodup : l.Nodup) : (l.insertionSort (· ≤ ·)).Pairwise (· < ·) := by
  have distinct : (l.insertionSort (· ≤ ·)).Pairwise (· ≠ ·) :=
    (List.perm_insertionSort _ l).nodup_iff.mpr nodup
  exact ((List.pairwise_insertionSort (· ≤ ·) l).and distinct).imp fun both =>
    lt_of_le_of_ne both.1 both.2

/-- The first that meets a condition, in order, is the least that does. -/
theorem find?_sort_iff :
    (l.insertionSort (· ≤ ·)).find? p = some a ↔ IsLeast {x | x ∈ l ∧ p x} a := by
  have sorted := List.pairwise_insertionSort (· ≤ ·) l
  have least : ∀ {x}, (l.insertionSort (· ≤ ·)).find? p = some x →
      IsLeast {x | x ∈ l ∧ p x} x := by
    intro x found
    have meets := List.find?_some found
    have mem := List.mem_of_find?_eq_some found
    obtain ⟨-, front, back, eq, fails⟩ := List.find?_eq_some_iff_append.mp found
    refine ⟨⟨(List.mem_insertionSort _).mp mem, meets⟩, ?_⟩
    rintro y ⟨among, meets'⟩
    have among := (List.mem_insertionSort (· ≤ ·)).mpr among
    rw [eq] at among sorted
    rcases List.mem_append.mp among with early | late
    · simpa [meets'] using fails y early
    · rcases List.mem_cons.mp late with same | later
      · exact le_of_eq same.symm
      · exact (List.pairwise_cons.mp (List.pairwise_append.mp sorted).2.1).1 y later
  constructor
  · exact least
  · rintro ⟨⟨among, meets⟩, low⟩
    cases found : (l.insertionSort (· ≤ ·)).find? p with
    | none =>
        have fails := List.find?_eq_none.mp found a ((List.mem_insertionSort _).mpr among)
        exact absurd meets fails
    | some x => exact congrArg some ((least found).unique ⟨⟨among, meets⟩, low⟩)

end Sorting

/-! ### Trees -/

/-- What the file system shows below the sysfs root. -/
structure Tree where
  isDir : String → Bool
  present : String → Bool
  /-- the names in a directory, in the order they come -/
  readDir : String → Except String (List String)
  readToString : String → Except String String
  /-- the descriptor that opening a file for writing gives -/
  openWrite : String → Except String Int
  listed : ∀ dir names, readDir dir = .ok names → names.Nodup

/-- The platform directory of the fan driver. -/
def applesmc (root : String) : String := join (join root "devices/platform") "applesmc.768"

/-- The platform directory of the sensors. -/
def coretemp (root : String) : String := join (join root "devices/platform") "coretemp.0"

/-- The number in a name `tempN_input`. -/
def inputNumber (name : String) : Option Nat :=
  ((name.toList.dropPrefix? "temp".toList).bind (·.dropSuffix? "_input".toList)).bind
    fun number => parseU32 (String.ofList number)

namespace Tree

/-- The subdirectories of a directory with these names, sorted. -/
def subdirs (dir : String) (names : List String) (t : Tree) : List String :=
  ((names.map (join dir)).filter t.isDir).insertionSort (· ≤ ·)

/-- The first hwmon directory with fan attributes. -/
def hwmonDirWithFanAttrs (platform : String) (t : Tree) : Option String :=
  match t.readDir (join platform "hwmon") with
  | .error _ => none
  | .ok names =>
      (t.subdirs (join platform "hwmon") names).find? fun dir => t.present (join dir "fan1_input")

/-- The directory of the fan attributes: the platform directory, or a hwmon directory of it. -/
def discoverFanDir (root : String) (t : Tree) : Except SmcError String :=
  let platform := applesmc root
  if t.isDir platform = false then .error (.notFound platform)
  else if t.present (join platform "fan1_input") then .ok platform
  else match t.hwmonDirWithFanAttrs platform with
    | some dir => .ok dir
    | none => .error (.notFound (join platform "fan1_input"))

/-- The generation whose mode attribute is there; both are an error, as is one without its
target. -/
def detectAbi (fanDir : String) (t : Tree) : Except SmcError AbiAttrs := do
  let bound ← [legacy, modern].foldlM (fun (bound : Option AbiAttrs) attrs =>
    if t.present (join fanDir attrs.modeAttr) then
      if bound.isSome then
        .error (.invalidValue fanDir
          (s!"both applesmc ABI generations present ({legacy.modeAttr} and {modern.modeAttr}); " ++
            "their AUTO tokens are incompatible so the generation cannot be inferred (fix: " ++
            "report this tree upstream — applesmc never exposes both)"))
      else .ok (some attrs)
    else .ok bound) none
  match bound with
  | none =>
      .error (.invalidValue fanDir
        (s!"no applesmc fan mode attribute ({legacy.modeAttr} or {modern.modeAttr}) (fix: check " ++
          "the applesmc module is loaded; afanctl supports both the <= 7.2 and >= 7.3 " ++
          "attribute sets)"))
  | some attrs =>
      if t.present (join fanDir attrs.target) then .ok attrs
      else .error (.notFound (join fanDir attrs.target))

/-- Parse a `u32` sysfs value. -/
def readU32 (path : String) (t : Tree) : Except SmcError Nat :=
  match t.readToString path with
  | .error source => .error (.read path source)
  | .ok raw => match parseU32 (trim raw) with
    | some n => .ok n
    | none => .error (.invalidValue path (trim raw))

/-- The inputs among the names of a directory, sorted by number and path. -/
def inputs (dir : String) (names : List String) : List (ℕ ×ₗ String) :=
  (names.filterMap fun name =>
    (inputNumber name).map fun n => toLex (n, join dir name)).insertionSort (· ≤ ·)

/-- The label of an input; a missing one falls back to the stem. -/
def label (dir : String) (n : Nat) (t : Tree) : String :=
  match t.readToString (join dir s!"temp{n}_label") with
  | .ok text => trim text
  | .error _ => s!"temp{n}"

/-- The sensors of these directories, one after the other. -/
def sensorsUnder (t : Tree) : List String → Except SmcError (List (String × String))
  | [] => .ok []
  | dir :: dirs => match t.readDir dir with
    | .error source => .error (.read dir source)
    | .ok names => do
        let rest ← t.sensorsUnder dirs
        .ok ((inputs dir names).map (fun input => ((ofLex input).2, t.label dir (ofLex input).1))
          ++ rest)

/-- Path and label of every sensor, in discovery order. -/
def discoverSensors (root : String) (t : Tree) : Except SmcError (List (String × String)) :=
  if t.isDir (coretemp root) = false then .error (.notFound (coretemp root))
  else
    let hwmonRoot := join (coretemp root) "hwmon"
    match t.readDir hwmonRoot with
    | .error source => .error (.read hwmonRoot source)
    | .ok names => do
        let sensors ← t.sensorsUnder (t.subdirs hwmonRoot names)
        if sensors = [] then .error (.notFound hwmonRoot) else .ok sensors

/-! ### The generation -/

section Abi

variable {t : Tree} {fanDir : String} {abi : AbiAttrs}

/-- A generation is bound exactly if its two attributes are there, and the mode attribute of
the other is not. -/
theorem detectAbi_ok_iff : t.detectAbi fanDir = .ok abi ↔
    (abi = legacy ∨ abi = modern) ∧ t.present (join fanDir abi.modeAttr) ∧
      t.present (join fanDir abi.target) ∧
      ∀ other, other = legacy ∨ other = modern → t.present (join fanDir other.modeAttr) →
        other = abi := by
  have apart : modern ≠ legacy := by decide
  have others (P : AbiAttrs → Prop) :
      (∀ other, other = legacy ∨ other = modern → P other) ↔ P legacy ∧ P modern := by
    constructor
    · exact fun all => ⟨all legacy (.inl rfl), all modern (.inr rfl)⟩
    · rintro ⟨first, second⟩ other (rfl | rfl)
      · exact first
      · exact second
  rw [others fun other => t.present (join fanDir other.modeAttr) = true → other = abi]
  have targeted (attrs : AbiAttrs) (e : SmcError) :
      ((if t.present (join fanDir attrs.target) then .ok attrs else .error e) = Except.ok abi) ↔
        abi = attrs ∧ t.present (join fanDir attrs.target) := by
    split
    · next target =>
        exact ⟨fun eq => ⟨(Except.ok.inj eq).symm, target⟩, fun ⟨same, _⟩ => same ▸ rfl⟩
    · next absent => exact ⟨nofun, fun ⟨_, target⟩ => absurd target absent⟩
  unfold detectAbi
  simp only [List.foldlM_cons, List.foldlM_nil]
  cases old : t.present (join fanDir legacy.modeAttr) <;>
    cases new : t.present (join fanDir modern.modeAttr)
  · refine ⟨nofun, ?_⟩
    rintro ⟨rfl | rfl, mode, -⟩
    · rw [old] at mode
      cases mode
    · rw [new] at mode
      cases mode
  · refine (targeted modern _).trans ⟨?_, ?_⟩
    · rintro ⟨rfl, target⟩
      exact ⟨.inr rfl, new, target, nofun, fun _ => rfl⟩
    · rintro ⟨-, -, target, -, same⟩
      exact ⟨(same rfl).symm, same rfl ▸ target⟩
  · refine (targeted legacy _).trans ⟨?_, ?_⟩
    · rintro ⟨rfl, target⟩
      exact ⟨.inl rfl, old, target, fun _ => rfl, nofun⟩
    · rintro ⟨-, -, target, same, -⟩
      exact ⟨(same rfl).symm, same rfl ▸ target⟩
  · refine ⟨nofun, ?_⟩
    rintro ⟨-, -, -, first, second⟩
    exact absurd ((second rfl).trans (first rfl).symm) apart

end Abi

/-! ### The fan directory -/

section Fan

variable {t : Tree} {platform dir : String}

/-- The hwmon directories with fan attributes. -/
def FanDirs (platform : String) (t : Tree) : Set String :=
  {dir | (∃ names, t.readDir (join platform "hwmon") = .ok names ∧
      ∃ name ∈ names, dir = join (join platform "hwmon") name) ∧
    t.isDir dir ∧ t.present (join dir "fan1_input")}

/-- The walk finds the least of them. -/
theorem hwmonDirWithFanAttrs_iff :
    t.hwmonDirWithFanAttrs platform = some dir ↔ IsLeast (t.FanDirs platform) dir := by
  unfold hwmonDirWithFanAttrs FanDirs
  cases listing : t.readDir (join platform "hwmon") with
  | error e => exact ⟨nofun, fun least => by obtain ⟨⟨⟨names, ⟨⟩, -⟩, -⟩, -⟩ := least⟩
  | ok names =>
      unfold subdirs
      rw [find?_sort_iff]
      have same : {x | x ∈ (names.map (join (join platform "hwmon"))).filter t.isDir ∧
            t.present (join x "fan1_input") = true}
          = {dir | (∃ names', Except.ok (ε := String) names = .ok names' ∧
              ∃ name ∈ names', dir = join (join platform "hwmon") name) ∧
            t.isDir dir ∧ t.present (join dir "fan1_input")} := by
        ext x
        simp only [Set.mem_ofPred_eq, List.mem_filter, List.mem_map]
        constructor
        · rintro ⟨⟨⟨name, mem, rfl⟩, isDir⟩, present⟩
          exact ⟨⟨names, rfl, name, mem, rfl⟩, isDir, present⟩
        · rintro ⟨⟨_, ⟨⟩, name, mem, rfl⟩, isDir, present⟩
          exact ⟨⟨⟨name, mem, rfl⟩, isDir⟩, present⟩
      rw [same]

/-- Where the fan attributes are: in the platform directory if they are there at all, else in
the least hwmon directory that has them. -/
inductive Home (t : Tree) (platform : String) : String → Prop where
  | classic : t.present (join platform "fan1_input") → Home t platform platform
  | hwmon {dir : String} : t.present (join platform "fan1_input") = false →
      IsLeast (t.FanDirs platform) dir → Home t platform dir

theorem discoverFanDir_ok_iff {root : String} : t.discoverFanDir root = .ok dir ↔
    t.isDir (applesmc root) ∧ t.Home (applesmc root) dir := by
  unfold discoverFanDir
  simp only
  cases there : t.isDir (applesmc root) with
  | false => simp
  | true =>
      cases classic : t.present (join (applesmc root) "fan1_input") with
      | true =>
          simp only [Bool.true_eq_false, if_false, if_true, true_and]
          constructor
          · rintro ⟨⟩
            exact .classic classic
          · rintro (_ | ⟨absent, -⟩)
            · rfl
            · rw [classic] at absent
              cases absent
      | false =>
          simp only [Bool.true_eq_false, if_false, Bool.false_eq_true, true_and]
          constructor
          · intro found
            split at found
            · next least =>
                cases found
                exact .hwmon classic (hwmonDirWithFanAttrs_iff.mp least)
            · cases found
          · rintro (present | ⟨-, least⟩)
            · rw [classic] at present
              cases present
            · rw [hwmonDirWithFanAttrs_iff.mpr least]

end Fan

/-! ### The sensors -/

/-- A sensor input, told by its directory, its number and its path. -/
abbrev InputKey := String ×ₗ ℕ ×ₗ String

def inputKey (dir : String) (input : ℕ ×ₗ String) : InputKey := toLex (dir, input)

/-- Path and label of an input. -/
def sensorAt (t : Tree) (key : InputKey) : String × String :=
  ((ofLex (ofLex key).2).2, t.label (ofLex key).1 (ofLex (ofLex key).2).1)

section Sensors

variable {t : Tree} {root dir : String} {names dirs : List String}
  {sensors : List (String × String)}

theorem subdirs_strict (nodup : names.Nodup) : (t.subdirs dir names).Pairwise (· < ·) :=
  sort_strict ((nodup.map fun _ _ same => join_inj.mp same).filter _)

theorem mem_subdirs {sub : String} :
    sub ∈ t.subdirs dir names ↔ (∃ name ∈ names, sub = join dir name) ∧ t.isDir sub := by
  unfold subdirs
  rw [List.mem_insertionSort, List.mem_filter, List.mem_map]
  constructor
  · rintro ⟨⟨name, mem, rfl⟩, isDir⟩
    exact ⟨⟨name, mem, rfl⟩, isDir⟩
  · rintro ⟨⟨name, mem, rfl⟩, isDir⟩
    exact ⟨⟨name, mem, rfl⟩, isDir⟩

theorem inputs_strict (nodup : names.Nodup) : (inputs dir names).Pairwise (· < ·) := by
  refine sort_strict (nodup.filterMap ?_)
  intro name name' input first second
  obtain ⟨n, -, rfl⟩ := Option.map_eq_some_iff.mp first
  obtain ⟨n', -, same⟩ := Option.map_eq_some_iff.mp second
  exact join_inj.mp (congrArg Prod.snd (toLex.injective same)).symm

theorem mem_inputs {n : Nat} {path : String} : toLex (n, path) ∈ inputs dir names ↔
    ∃ name ∈ names, inputNumber name = some n ∧ path = join dir name := by
  unfold inputs
  rw [List.mem_insertionSort, List.mem_filterMap]
  constructor
  · rintro ⟨name, mem, found⟩
    obtain ⟨n', number, same⟩ := Option.map_eq_some_iff.mp found
    cases toLex.injective same
    exact ⟨name, mem, number, rfl⟩
  · rintro ⟨name, mem, number, rfl⟩
    exact ⟨name, mem, by rw [number]; rfl⟩

/-- The inputs of a directory, if it can be listed. -/
def keysIn (t : Tree) (dir : String) : List InputKey :=
  match t.readDir dir with
  | .ok names => (inputs dir names).map (inputKey dir)
  | .error _ => []

/-- Discovery lists every directory, and takes their inputs in order. -/
theorem sensorsUnder_ok_iff : t.sensorsUnder dirs = .ok sensors ↔
    (∀ dir ∈ dirs, ∃ files, t.readDir dir = .ok files) ∧
      sensors = (dirs.flatMap t.keysIn).map t.sensorAt := by
  induction dirs generalizing sensors with
  | nil => simp [sensorsUnder, eq_comm]
  | cons dir dirs ih =>
      unfold sensorsUnder
      cases listing : t.readDir dir with
      | error e =>
          refine ⟨nofun, fun ⟨lists, _⟩ => ?_⟩
          obtain ⟨files, found⟩ := lists dir List.mem_cons_self
          rw [listing] at found
          cases found
      | ok names =>
          have first : (t.keysIn dir).map t.sensorAt
              = (inputs dir names).map fun input =>
                  ((ofLex input).2, t.label dir (ofLex input).1) := by
            unfold keysIn
            rw [listing, List.map_map]
            rfl
          simp only [bind_ok_iff, ih, List.flatMap_cons, List.map_append, first,
            List.forall_mem_cons, listing, Except.ok.injEq, exists_eq', true_and]
          constructor
          · rintro ⟨_, ⟨lists, rfl⟩, rfl⟩
            exact ⟨lists, rfl⟩
          · rintro ⟨lists, rfl⟩
            exact ⟨_, ⟨lists, rfl⟩, rfl⟩

theorem mem_keysIn {key : InputKey} : key ∈ t.keysIn dir ↔
    ∃ files, t.readDir dir = .ok files ∧ ∃ file ∈ files, ∃ n,
      inputNumber file = some n ∧ key = inputKey dir (toLex (n, join dir file)) := by
  unfold keysIn
  cases listing : t.readDir dir with
  | error e => exact ⟨nofun, fun ⟨_, found, _⟩ => by cases found⟩
  | ok names =>
      simp only [List.mem_map, Except.ok.injEq, exists_eq_left']
      constructor
      · rintro ⟨input, mem, rfl⟩
        obtain ⟨file, among, number, path⟩ := mem_inputs.mp (toLex_ofLex input ▸ mem)
        refine ⟨file, among, _, number, ?_⟩
        rw [← path]
        rfl
      · rintro ⟨file, among, n, number, rfl⟩
        exact ⟨_, mem_inputs.mpr ⟨file, among, number, rfl⟩, rfl⟩

/-- In order of the directories, the inputs are in order of their keys. -/
theorem keys_strict (sorted : dirs.Pairwise (· < ·)) :
    (dirs.flatMap t.keysIn).Pairwise (· < ·) := by
  refine List.pairwise_flatMap.mpr ⟨fun dir _ => ?_, sorted.imp fun {dir dir'} before => ?_⟩
  · unfold keysIn
    cases listing : t.readDir dir with
    | error e => exact .nil
    | ok names =>
        refine List.pairwise_map.mpr ((inputs_strict (t.listed dir names listing)).imp ?_)
        exact fun before => Prod.Lex.toLex_lt_toLex.mpr (.inr ⟨rfl, before⟩)
  · intro key mem key' mem'
    obtain ⟨-, -, -, -, -, -, rfl⟩ := mem_keysIn.mp mem
    obtain ⟨-, -, -, -, -, -, rfl⟩ := mem_keysIn.mp mem'
    exact Prod.Lex.toLex_lt_toLex.mpr (.inl before)

/-- The hwmon directories of the sensors. -/
def SensorDirs (root : String) (t : Tree) : Set String :=
  {dir | (∃ names, t.readDir (join (coretemp root) "hwmon") = .ok names ∧
      ∃ name ∈ names, dir = join (join (coretemp root) "hwmon") name) ∧ t.isDir dir}

/-- The inputs in them. -/
def InputKeys (root : String) (t : Tree) : Set InputKey :=
  {key | ∃ dir ∈ t.SensorDirs root, ∃ files, t.readDir dir = .ok files ∧ ∃ file ∈ files, ∃ n,
    inputNumber file = some n ∧ key = inputKey dir (toLex (n, join dir file))}

/-- A tree has these sensors: its hwmon directories can be listed, and their inputs, of which
there is one at least, come in order of directory, number and path. -/
structure HasSensors (t : Tree) (root : String) (sensors : List (String × String)) : Prop where
  present : t.isDir (coretemp root)
  listing : ∃ names, t.readDir (join (coretemp root) "hwmon") = .ok names
  listings : ∀ dir ∈ t.SensorDirs root, ∃ files, t.readDir dir = .ok files
  found : sensors ≠ []
  keys : ∃ keys : List InputKey, keys.Pairwise (· < ·) ∧
    (∀ key, key ∈ keys ↔ key ∈ t.InputKeys root) ∧ sensors = keys.map t.sensorAt

theorem discoverSensors_ok_iff :
    t.discoverSensors root = .ok sensors ↔ t.HasSensors root sensors := by
  simp only [discoverSensors]
  cases there : t.isDir (coretemp root) with
  | false =>
      refine ⟨nofun, fun has => ?_⟩
      have present := has.present
      rw [there] at present
      cases present
  | true =>
      cases listing : t.readDir (join (coretemp root) "hwmon") with
      | error e =>
          refine ⟨nofun, fun has => ?_⟩
          obtain ⟨names, found⟩ := has.listing
          rw [listing] at found
          cases found
      | ok names =>
          have dirs : ∀ dir, dir ∈ t.subdirs (join (coretemp root) "hwmon") names ↔
              dir ∈ t.SensorDirs root := by
            intro dir
            rw [mem_subdirs]
            simp [SensorDirs, listing]
          have strict : ((t.subdirs (join (coretemp root) "hwmon") names).flatMap
              t.keysIn).Pairwise (· < ·) :=
            keys_strict (subdirs_strict (t.listed _ names listing))
          have keys : ∀ key,
              key ∈ (t.subdirs (join (coretemp root) "hwmon") names).flatMap t.keysIn ↔
                key ∈ t.InputKeys root := by
            intro key
            rw [List.mem_flatMap]
            simp only [dirs, mem_keysIn]
            rfl
          simp only [Bool.true_eq_false, if_false, bind_ok_iff, sensorsUnder_ok_iff, dirs]
          constructor
          · rintro ⟨_, ⟨lists, rfl⟩, found⟩
            split at found
            · cases found
            · next nonempty =>
                cases found
                exact ⟨there, ⟨names, listing⟩, lists, nonempty, _, strict, keys, rfl⟩
          · rintro ⟨-, -, lists, nonempty, others, sorted, members, rfl⟩
            have same := sorted.eq_of_mem_iff strict fun key => (members key).trans (keys key).symm
            subst same
            exact ⟨_, ⟨lists, rfl⟩, by rw [if_neg nonempty]⟩

end Sensors

end Tree

/-! ### Opening -/

/-- An adapter as `open` gives it, with the platform directory it was found at. -/
structure Opened (δ : Type) extends SysfsSmc δ where
  platformDir : String

section Open

variable {δ : Type}

/-- Discover the fan, its generation, its band and the sensors, and open the mode attribute for
writing; the last may fail. -/
def openAt (root : String) (t : Tree) (world : World δ) : Except SmcError (Opened δ) := do
  let fanDir ← t.discoverFanDir root
  match bound : t.detectAbi fanDir with
  | .error e => .error e
  | .ok abi => do
      let hwMin ← t.readU32 (join fanDir "fan1_min")
      let hwMax ← t.readU32 (join fanDir "fan1_max")
      if band : hwMin ≤ hwMax then do
        let sensors ← t.discoverSensors root
        .ok
          { fanDir := fanDir
            abi := abi
            bound := (Tree.detectAbi_ok_iff.mp bound).1
            sensors := sensors
            hwMin := hwMin
            hwMax := hwMax
            band := band
            restoreFile := (t.openWrite (join fanDir abi.modeAttr)).toOption
            world := world
            platformDir := applesmc root }
      else
        .error (.invalidValue (join fanDir "fan1_min")
          s!"{hwMin} > {hwMax} (hw range invalid; fix fan1_min/fan1_max)")

/-- A tree offers what an opened adapter is bound to. -/
structure Offers (t : Tree) (root : String) (world : World δ) (o : Opened δ) : Prop where
  platformDir : o.platformDir = applesmc root
  present : t.isDir (applesmc root)
  home : t.Home (applesmc root) o.fanDir
  mode : t.present (join o.fanDir o.abi.modeAttr)
  target : t.present (join o.fanDir o.abi.target)
  alone : ∀ other, other = legacy ∨ other = modern →
    t.present (join o.fanDir other.modeAttr) → other = o.abi
  hwMin : t.readU32 (join o.fanDir "fan1_min") = .ok o.hwMin
  hwMax : t.readU32 (join o.fanDir "fan1_max") = .ok o.hwMax
  sensors : t.HasSensors root o.sensors
  restoreFile : o.restoreFile = (t.openWrite (join o.fanDir o.abi.modeAttr)).toOption
  world : o.world = world

/-- Opening succeeds exactly on the trees that offer an adapter, and gives the one they
offer: the least home of the fan, the only generation there, and every sensor in order. -/
theorem openAt_ok_iff {root : String} {t : Tree} {world : World δ} {o : Opened δ} :
    openAt root t world = .ok o ↔ Offers t root world o := by
  unfold openAt
  constructor
  · intro opened
    obtain ⟨fanDir, found, rest⟩ := bind_ok_iff.mp opened
    obtain ⟨present, home⟩ := Tree.discoverFanDir_ok_iff.mp found
    split at rest
    · cases rest
    · next abi bound =>
        obtain ⟨-, mode, target, alone⟩ := Tree.detectAbi_ok_iff.mp bound
        obtain ⟨hwMin, low, rest⟩ := bind_ok_iff.mp rest
        obtain ⟨hwMax, high, rest⟩ := bind_ok_iff.mp rest
        split at rest
        · obtain ⟨sensors, listed, same⟩ := bind_ok_iff.mp rest
          cases same
          exact ⟨rfl, present, home, mode, target, alone, low, high,
            Tree.discoverSensors_ok_iff.mp listed, rfl, rfl⟩
        · cases rest
  · obtain ⟨⟨fanDir, abi, generation, sensors, hwMin, hwMax, band, restoreFile, w⟩, platformDir⟩ :=
      o
    rintro ⟨platform, present, home, mode, target, alone, low, high, has, held, same⟩
    simp only at platform home mode target alone low high has held same
    subst platform held same
    have found := Tree.discoverFanDir_ok_iff.mpr ⟨present, home⟩
    have bound := Tree.detectAbi_ok_iff.mpr ⟨generation, mode, target, alone⟩
    refine bind_ok_iff.mpr ⟨fanDir, found, ?_⟩
    split
    · next e failed =>
        rw [bound] at failed
        cases failed
    · next abi' bound' =>
        cases bound.symm.trans bound'
        refine bind_ok_iff.mpr ⟨hwMin, low, bind_ok_iff.mpr ⟨hwMax, high, ?_⟩⟩
        rw [dif_pos band]
        exact bind_ok_iff.mpr ⟨sensors, Tree.discoverSensors_ok_iff.mpr has, rfl⟩

end Open

/-! ### The order of listings -/

namespace Tree

/-- Two listings with the same names, or the same failure. -/
inductive Relisted : Except String (List String) → Except String (List String) → Prop where
  | ok {names names' : List String} : names.Perm names' → Relisted (.ok names) (.ok names')
  | error (source : String) : Relisted (.error source) (.error source)

/-- Trees that differ in the order of their listings only. -/
structure Shuffled (t t' : Tree) : Prop where
  isDir : t.isDir = t'.isDir
  present : t.present = t'.present
  readDir : ∀ dir, Relisted (t.readDir dir) (t'.readDir dir)
  readToString : t.readToString = t'.readToString
  openWrite : t.openWrite = t'.openWrite

namespace Shuffled

variable {t t' : Tree} {root dir : String} {names names' : List String}

theorem subdirs (shuffled : t.Shuffled t') (perm : names.Perm names') :
    t.subdirs dir names = t'.subdirs dir names' := by
  unfold Tree.subdirs
  rw [shuffled.isDir]
  exact sort_perm ((perm.map _).filter _)

theorem discoverFanDir (shuffled : t.Shuffled t') :
    t.discoverFanDir root = t'.discoverFanDir root := by
  have walked : t.hwmonDirWithFanAttrs (applesmc root)
      = t'.hwmonDirWithFanAttrs (applesmc root) := by
    have listing := shuffled.readDir (join (applesmc root) "hwmon")
    unfold hwmonDirWithFanAttrs
    generalize t.readDir _ = l, t'.readDir _ = l' at listing ⊢
    cases listing with
    | ok perm => simp only [shuffled.subdirs perm, shuffled.present]
    | error source => rfl
  simp only [Tree.discoverFanDir, walked, shuffled.isDir, shuffled.present]

theorem detectAbi (shuffled : t.Shuffled t') : t.detectAbi dir = t'.detectAbi dir := by
  unfold Tree.detectAbi
  rw [shuffled.present]

theorem readU32 (shuffled : t.Shuffled t') : t.readU32 dir = t'.readU32 dir := by
  unfold Tree.readU32
  rw [shuffled.readToString]

theorem sensorsUnder (shuffled : t.Shuffled t') (dirs : List String) :
    t.sensorsUnder dirs = t'.sensorsUnder dirs := by
  induction dirs with
  | nil => rfl
  | cons dir dirs ih =>
      have listing := shuffled.readDir dir
      unfold Tree.sensorsUnder
      generalize t.readDir dir = l, t'.readDir dir = l' at listing ⊢
      cases listing with
      | error source => rfl
      | ok perm =>
          have sorted := sort_perm (perm.filterMap fun name =>
            (inputNumber name).map fun n => toLex (n, join dir name))
          have labels (n : Nat) : label dir n t = label dir n t' := by
            unfold label
            rw [shuffled.readToString]
          simp only [ih, inputs, sorted, labels]

theorem discoverSensors (shuffled : t.Shuffled t') :
    t.discoverSensors root = t'.discoverSensors root := by
  have listing := shuffled.readDir (join (coretemp root) "hwmon")
  simp only [Tree.discoverSensors, shuffled.isDir]
  generalize t.readDir _ = l, t'.readDir _ = l' at listing ⊢
  cases listing with
  | error source => rfl
  | ok perm => simp only [shuffled.subdirs perm, shuffled.sensorsUnder]

end Shuffled

end Tree

/-- Opening does not depend on the order in which directories are listed, nor does the error
it fails with. -/
theorem openAt_shuffled {δ : Type} {root : String} {t t' : Tree} (world : World δ)
    (shuffled : t.Shuffled t') : openAt root t world = openAt root t' world := by
  have fan := @Tree.Shuffled.discoverFanDir t t' root shuffled
  have sensors := @Tree.Shuffled.discoverSensors t t' root shuffled
  unfold openAt
  rw [fan, sensors]
  -- nothing else lists a directory
  obtain ⟨_, present, _, readToString, openWrite, _⟩ := t
  obtain ⟨_, present', _, readToString', openWrite', _⟩ := t'
  obtain rfl : present = present' := shuffled.present
  obtain rfl : readToString = readToString' := shuffled.readToString
  obtain rfl : openWrite = openWrite' := shuffled.openWrite
  rfl

section Concrete

/-- A tree of the modern generation with two directories of sensors, listed in this order. -/
def twoDirs (order : List String → List String) : Tree where
  isDir path := path ∈ [applesmc "/sys", coretemp "/sys",
    join (join (coretemp "/sys") "hwmon") "hwmon2", join (join (coretemp "/sys") "hwmon") "hwmon3"]
  present path := path ∈ ["fan1_input", "pwm1_enable", "fan1_target"].map (join (applesmc "/sys"))
  readDir dir :=
    match [(join (coretemp "/sys") "hwmon", ["hwmon2", "uevent", "hwmon3"]),
        (join (join (coretemp "/sys") "hwmon") "hwmon2", ["temp10_input", "temp2_input", "name"]),
        (join (join (coretemp "/sys") "hwmon") "hwmon3", ["temp1_input"])].lookup dir with
    | some names => .ok (order names).dedup
    | none => .error "No such file or directory (os error 2)"
  readToString path :=
    match [(join (applesmc "/sys") "fan1_min", "1200\n"),
        (join (applesmc "/sys") "fan1_max", "7200\n")].lookup path with
    | some text => .ok text
    | none => .error "No such file or directory (os error 2)"
  openWrite _ := .ok 7
  listed dir names found := by
    split at found
    · cases found
      exact List.nodup_dedup _
    · cases found

/-- Its sensors come in one order, however they are listed. -/
theorem openAt_shuffled_dirs :
    openAt "/sys" (twoDirs id) Shelf.adapter.world
        = openAt "/sys" (twoDirs List.reverse) Shelf.adapter.world ∧
      (openAt "/sys" (twoDirs id) Shelf.adapter.world).toOption.map
          (fun opened => opened.sensors.map (·.2)) = some ["temp2", "temp10", "temp1"] := by
  refine ⟨openAt_shuffled _ ⟨rfl, rfl, fun dir => ?_, rfl, rfl⟩, by decide +kernel⟩
  simp only [twoDirs, id]
  split
  · exact .ok ((List.reverse_perm _).dedup.symm)
  · exact .error _

end Concrete

end Afanctl
