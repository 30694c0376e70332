import Afanctl.Config
import Afanctl.Lib.Result
import Mathlib.Data.List.Nodup

/-!
Reading the config file.

Decoding the text is the TOML library's business; what it gives is a table. Five keys in three
sections are read, in a fixed order of checks. Everything else in the three sections and next
to them is a warning, and has no say in the rest.
-/

namespace Afanctl

open Afanctl.Lib

/-! ### TOML -/

/-- A decoded TOML value; an integer is an `i64`. -/
inductive TomlValue where
  | string (s : String)
  | integer (v : Int)
  | float (text : String)
  | boolean (b : Bool)
  | datetime (text : String)
  | array (items : List TomlValue)
  | table (entries : List (String × TomlValue))

namespace TomlValue

def asInteger : TomlValue → Option Int
  | .integer v => some v
  | _ => none

def asTable : TomlValue → Option (List (String × TomlValue))
  | .table entries => some entries
  | _ => none

end TomlValue

/-- The keys of a table, in iteration order. -/
def tomlKeys (entries : List (String × TomlValue)) : List String := entries.map (·.1)

/-- A decoded document. A table has each key once. -/
structure TomlTable where
  entries : List (String × TomlValue)
  keys_nodup : (tomlKeys entries).Nodup
  section_nodup : ∀ name t, (name, TomlValue.table t) ∈ entries → (tomlKeys t).Nodup

/-- The TOML library: its `from_str`, and how a value prints. -/
class Toml where
  fromStr : String → Except String TomlTable
  display : TomlValue → String

/-! ### Reading -/

def kMaxRpm : String := "curve.max_rpm"

/-- The recognised sections and their keys. -/
def known : List (String × List String) :=
  [("thresholds", ["high", "max"]), ("curve", ["min_rpm", "max_rpm"]), ("poll", ["interval_s"])]

section Reading

variable [Toml]

/-- Fetch a required section as a table. -/
def tableSection (root : List (String × TomlValue)) (name : String) :
    Except ConfigError (List (String × TomlValue)) :=
  match root.lookup name with
  | some value => match value.asTable with
    | some t => .ok t
    | none => .error (.invalid name s!"expected a table, got {Toml.display value}"
        s!"write `[{name}]` with its keys")
  | none => .error (.invalid name "missing section" s!"add a `[{name}]` table")

/-- Fetch a required integer, naming `fullKey` on failure. -/
def readInt (table : List (String × TomlValue)) (fullKey leaf unit : String) :
    Except ConfigError Int :=
  match table.lookup leaf with
  | some value => match value.asInteger with
    | some v => .ok v
    | none => .error (.invalid fullKey s!"expected an integer {unit}, got {Toml.display value}"
        s!"set `{leaf}` to a whole number ({unit})")
  | none => .error (.invalid fullKey "missing (required when a config file is present)"
      s!"add `{leaf} = <integer {unit}>`")

/-- A checked conversion: the value, if the target type holds it. -/
def tryFrom (holds : Bool) (v : Int) (key fix : String) : Except ConfigError Int :=
  if holds then .ok v else .error (.invalid key s!"out of range: {v}" fix)

def toI32 (v : Int) (key : String) : Except ConfigError Int :=
  tryFrom (-2147483648 ≤ v ∧ v ≤ 2147483647) v key
    "use an integer between -2147483648 and 2147483647"

def toU32 (v : Int) (key : String) : Except ConfigError Nat :=
  (tryFrom (0 ≤ v ∧ v ≤ 4294967295) v key "use a non-negative integer (0..=4294967295)").map
    Int.toNat

/-- An `i64` that is not negative is a `u64`. -/
def toU64 (v : Int) (key : String) : Except ConfigError Nat :=
  (tryFrom (0 ≤ v) v key "use a non-negative integer").map Int.toNat

/-- The five keys of the three sections. -/
def readKeys (thresholds curve poll : List (String × TomlValue)) : Except ConfigError Config := do
  let interval ← readInt poll kInterval "interval_s" "s"
  if interval < 1 then
    .error (intervalBelowOne interval)
  else
    let highC ← toI32 (← readInt thresholds kHigh "high" "°C") kHigh
    let maxC ← toI32 (← readInt thresholds kMax "max" "°C") kMax
    let minRpm ← toU32 (← readInt curve kMinRpm "min_rpm" "rpm") kMinRpm
    let maxRpm ← toU32 (← readInt curve kMaxRpm "max_rpm" "rpm") kMaxRpm
    let intervalS ← toU64 interval kInterval
    let cfg : Config := { highC, maxC, minRpm, maxRpm, intervalS }
    cfg.checkStructural
    .ok cfg

end Reading

/-! ### Unknown keys -/

/-- The keys of a top-level entry that nothing reads: its own name, or keys in it. -/
def unknownIn (entry : String × TomlValue) : List (String × Option String) :=
  match known.lookup entry.1 with
  | some keys => match entry.2.asTable with
    | some t => ((tomlKeys t).filter fun key => !keys.contains key).map fun key =>
        (entry.1, some key)
    | none => []
  | none => [(entry.1, none)]

/-- The keys that nothing reads. -/
def unknownKeys (root : List (String × TomlValue)) : List (String × Option String) :=
  root.flatMap unknownIn

def unknownKeyWarning : String × Option String → String
  | (name, some key) => s!"unknown config key `{name}.{key}` ignored"
  | (name, none) => s!"unknown config key `{name}` ignored"

/-- The warnings, sorted. Strings are ordered by their code points, as their UTF-8 bytes are. -/
def unknownKeyWarnings (root : List (String × TomlValue)) : List String :=
  ((unknownKeys root).map unknownKeyWarning).mergeSort fun a b => decide (a ≤ b)

theorem unknownKeyWarnings_sorted (root : List (String × TomlValue)) :
    (unknownKeyWarnings root).Pairwise (· ≤ ·) := by
  have trans (a b c : String) (ab : decide (a ≤ b)) (bc : decide (b ≤ c)) : decide (a ≤ c) := by
    rw [decide_eq_true_iff] at *
    exact Std.le_trans ab bc
  have total (a b : String) : decide (a ≤ b) || decide (b ≤ a) := by
    rw [Bool.or_eq_true, decide_eq_true_iff, decide_eq_true_iff]
    exact Std.le_total
  exact (List.pairwise_mergeSort trans total _).imp of_decide_eq_true

/-! ### The file -/

section File

variable [Toml]

/-- Structurally validate a decoded config. -/
def Config.fromTable (root : TomlTable) : Except ConfigError (Config × List String) := do
  let warnings := unknownKeyWarnings root.entries
  let thresholds ← tableSection root.entries "thresholds"
  let curve ← tableSection root.entries "curve"
  let poll ← tableSection root.entries "poll"
  let cfg ← readKeys thresholds curve poll
  .ok (cfg, warnings)

/-- Parse and structurally validate TOML text; the warnings are for unknown keys. -/
def Config.fromToml (s : String) : Except ConfigError (Config × List String) :=
  match Toml.fromStr s with
  | .error source => .error (.parse source)
  | .ok root => Config.fromTable root

/-- What reading a file gave. -/
inductive FileText where
  | missing
  | unreadable (source : String)
  | content (s : String)
  deriving DecidableEq, Repr

/-- Load the config. A missing file gives the defaults, a bad one an error. -/
def Config.load (path : String) : FileText → Except ConfigError (Config × List String)
  | .content s => Config.fromToml s
  | .missing => .ok (.defaults, [])
  | .unreadable source => .error (.io path source)

end File

/-! ### What is accepted -/

theorem tryFrom_ok_iff {holds : Bool} {v w : Int} {key fix : String} :
    tryFrom holds v key fix = .ok w ↔ holds = true ∧ v = w := by
  unfold tryFrom
  split <;> simp_all

theorem toI32_ok_iff {v w : Int} {key : String} :
    toI32 v key = .ok w ↔ (-2147483648 ≤ v ∧ v ≤ 2147483647) ∧ v = w := by
  rw [toI32, tryFrom_ok_iff, decide_eq_true_iff]

theorem toU32_ok_iff {v : Int} {n : Nat} {key : String} :
    toU32 v key = .ok n ↔ v = n ∧ n ≤ u32Max := by
  unfold toU32 u32Max
  simp only [map_ok_iff, tryFrom_ok_iff, decide_eq_true_iff]
  constructor
  · rintro ⟨w, ⟨range, rfl⟩, rfl⟩
    omega
  · rintro ⟨rfl, range⟩
    exact ⟨n, ⟨by omega, rfl⟩, Int.toNat_natCast n⟩

theorem toU64_ok_iff {v : Int} {n : Nat} {key : String} : toU64 v key = .ok n ↔ v = n := by
  unfold toU64
  simp only [map_ok_iff, tryFrom_ok_iff, decide_eq_true_iff]
  constructor
  · rintro ⟨w, ⟨range, rfl⟩, rfl⟩
    omega
  · rintro rfl
    exact ⟨n, ⟨by omega, rfl⟩, Int.toNat_natCast n⟩

/-- The integer of a key, if there is one. -/
def integerOf (table : List (String × TomlValue)) (leaf : String) : Option Int :=
  (table.lookup leaf).bind TomlValue.asInteger

namespace TomlTable

/-- The integer of a key of a section, if the section is a table and has one. -/
def integerAt (root : TomlTable) (name leaf : String) : Option Int :=
  ((root.entries.lookup name).bind TomlValue.asTable).bind (integerOf · leaf)

/-- The documented configs: five integers in three sections, in their ranges. -/
structure Documents (root : TomlTable) (c : Config) : Prop where
  high : root.integerAt "thresholds" "high" = some c.highC
  max : root.integerAt "thresholds" "max" = some c.maxC
  minRpm : root.integerAt "curve" "min_rpm" = some (c.minRpm : Int)
  maxRpm : root.integerAt "curve" "max_rpm" = some (c.maxRpm : Int)
  interval : root.integerAt "poll" "interval_s" = some (c.intervalS : Int)
  thresholds : 0 ≤ c.highC ∧ c.highC < c.maxC ∧ c.maxC ≤ 95
  band : c.minRpm < c.maxRpm ∧ c.maxRpm ≤ 4294967295
  period : 1 ≤ c.intervalS ∧ c.intervalS ≤ maxIntervalS

end TomlTable

section Accepts

variable [Toml]

theorem readInt_ok_iff {table : List (String × TomlValue)} {fullKey leaf unit : String} {v : Int} :
    readInt table fullKey leaf unit = .ok v ↔ integerOf table leaf = some v := by
  unfold readInt integerOf
  cases table.lookup leaf with
  | none => simp
  | some value => cases value <;> simp [TomlValue.asInteger]

theorem tableSection_ok_iff {root t : List (String × TomlValue)} {name : String} :
    tableSection root name = .ok t ↔ (root.lookup name).bind TomlValue.asTable = some t := by
  unfold tableSection
  cases root.lookup name with
  | none => simp
  | some value => cases value <;> simp [TomlValue.asTable]

theorem readKeys_ok_iff {thresholds curve poll : List (String × TomlValue)} {c : Config} :
    readKeys thresholds curve poll = .ok c ↔
      (integerOf thresholds "high" = some c.highC ∧ integerOf thresholds "max" = some c.maxC) ∧
      (integerOf curve "min_rpm" = some (c.minRpm : Int) ∧
        integerOf curve "max_rpm" = some (c.maxRpm : Int)) ∧
      integerOf poll "interval_s" = some (c.intervalS : Int) ∧
      c.Structural ∧ c.maxRpm ≤ u32Max := by
  unfold readKeys
  simp only [bind_ok_iff, readInt_ok_iff, ite_eq_iff, reduceCtorEq, and_false, false_or,
    toI32_ok_iff, toU32_ok_iff, toU64_ok_iff]
  constructor
  · rintro ⟨interval, readInterval, -, high, readHigh, _, ⟨-, rfl⟩, max, readMax, _, ⟨-, rfl⟩,
      minRpm, readMin, _, ⟨rfl, -⟩, maxRpm, readTop, _, ⟨rfl, top⟩, _, rfl, _, accepted, same⟩
    cases same
    exact ⟨⟨readHigh, readMax⟩, ⟨readMin, readTop⟩, readInterval,
      Config.checkStructural_ok_iff.mp accepted, top⟩
  · rintro ⟨⟨readHigh, readMax⟩, ⟨readMin, readTop⟩, readInterval, structural, top⟩
    have accepted := Config.checkStructural_ok_iff.mpr structural
    obtain ⟨high_nonneg, high_lt_max, max_le, min_lt_max, interval_pos, -⟩ := structural
    exact ⟨_, readInterval, by omega, _, readHigh, _, ⟨by omega, rfl⟩, _, readMax, _,
      ⟨by omega, rfl⟩, _, readMin, _, ⟨rfl, Nat.le_trans (Nat.le_of_lt min_lt_max) top⟩,
      _, readTop, _, ⟨rfl, top⟩, _, rfl, (), accepted, rfl⟩

/-- A table is accepted exactly if it documents a config, which is the one it gives. -/
theorem fromTable_ok_iff {root : TomlTable} {c : Config} {warnings : List String} :
    Config.fromTable root = .ok (c, warnings) ↔
      root.Documents c ∧ warnings = unknownKeyWarnings root.entries := by
  unfold Config.fromTable
  simp only [bind_ok_iff, tableSection_ok_iff, readKeys_ok_iff, Except.ok.injEq, Prod.mk.injEq]
  have found {name leaf : String} {t : List (String × TomlValue)}
      (tabled : (root.entries.lookup name).bind TomlValue.asTable = some t) :
      root.integerAt name leaf = integerOf t leaf := by
    rw [TomlTable.integerAt, tabled, Option.bind_some]
  constructor
  · rintro ⟨thresholds, ts, curve, cs, poll, ps, _, ⟨⟨high, max⟩, ⟨minRpm, maxRpm⟩, interval,
      structural, top⟩, rfl, rfl⟩
    exact ⟨⟨(found ts).trans high, (found ts).trans max, (found cs).trans minRpm,
      (found cs).trans maxRpm, (found ps).trans interval,
      ⟨structural.high_nonneg, structural.high_lt_max, structural.max_le⟩,
      ⟨structural.min_lt_max, top⟩, structural.interval_pos, structural.interval_le⟩, rfl⟩
  · rintro ⟨documents, rfl⟩
    obtain ⟨thresholds, ts, high⟩ := Option.bind_eq_some_iff.mp documents.high
    obtain ⟨curve, cs, minRpm⟩ := Option.bind_eq_some_iff.mp documents.minRpm
    obtain ⟨poll, ps, interval⟩ := Option.bind_eq_some_iff.mp documents.interval
    have max := documents.max
    have maxRpm := documents.maxRpm
    rw [found ts] at max
    rw [found cs] at maxRpm
    obtain ⟨high_nonneg, high_lt_max, max_le⟩ := documents.thresholds
    exact ⟨thresholds, ts, curve, cs, poll, ps, c, ⟨⟨high, max⟩, ⟨minRpm, maxRpm⟩, interval,
      ⟨high_nonneg, high_lt_max, max_le, documents.band.1, documents.period.1,
        documents.period.2⟩, documents.band.2⟩, rfl, rfl⟩

end Accepts

/-! ### What is ignored -/

/-- Two values of a top-level name are alike up to unknown keys: they are the same, or two
tables that agree on the recognised keys. -/
inductive AlikeOn (keys : List String) : Option TomlValue → Option TomlValue → Prop where
  | same (value : Option TomlValue) : AlikeOn keys value value
  | tables {t t' : List (String × TomlValue)} :
      (∀ key ∈ keys, t.lookup key = t'.lookup key) →
        AlikeOn keys (some (.table t)) (some (.table t'))

namespace TomlTable

/-- Two documents differ in unknown keys at most. -/
def AgreesOn (root root' : TomlTable) : Prop :=
  ∀ name keys, (name, keys) ∈ known →
    AlikeOn keys (root.entries.lookup name) (root'.entries.lookup name)

/-- A key that nothing reads: a top-level name, or a key in a recognised section. -/
inductive Unknown (root : TomlTable) : String × Option String → Prop where
  | name {name : String} {value : TomlValue} : (name, value) ∈ root.entries →
      known.lookup name = none → Unknown root (name, none)
  | key {name key : String} {keys : List String} {t : List (String × TomlValue)} :
      (name, .table t) ∈ root.entries → known.lookup name = some keys → key ∈ tomlKeys t →
      key ∉ keys → Unknown root (name, some key)

variable {root root' : TomlTable}

theorem mem_unknownIn {entry : String × TomlValue} {k : String × Option String} :
    k ∈ unknownIn entry ↔
      known.lookup entry.1 = none ∧ k = (entry.1, none) ∨
        ∃ keys t key, known.lookup entry.1 = some keys ∧ entry.2 = .table t ∧
          (key ∈ tomlKeys t ∧ key ∉ keys) ∧ k = (entry.1, some key) := by
  obtain ⟨name, value⟩ := entry
  unfold unknownIn
  cases known.lookup name with
  | none => simp
  | some keys =>
      cases value with
      | table t =>
          simp only [TomlValue.asTable, List.mem_map, List.mem_filter, Bool.not_eq_true',
            List.contains_eq_mem, decide_eq_false_iff_not]
          constructor
          · rintro ⟨key, unread, rfl⟩
            exact .inr ⟨keys, t, key, rfl, rfl, unread, rfl⟩
          · rintro (⟨listed, -⟩ | ⟨_, _, key, listed, same, unread, rfl⟩)
            · cases listed
            · cases listed
              cases same
              exact ⟨key, unread, rfl⟩
      | _ => simp [TomlValue.asTable]

theorem mem_unknownKeys {k : String × Option String} :
    k ∈ unknownKeys root.entries ↔ root.Unknown k := by
  simp only [unknownKeys, List.mem_flatMap, mem_unknownIn]
  constructor
  · rintro ⟨⟨name, value⟩, mem, ⟨found, rfl⟩ | ⟨keys, t, key, found, rfl, ⟨has, unlisted⟩, rfl⟩⟩
    · exact .name mem found
    · exact .key mem found has unlisted
  · rintro (⟨mem, found⟩ | ⟨mem, found, has, unlisted⟩)
    · exact ⟨_, mem, .inl ⟨found, rfl⟩⟩
    · exact ⟨_, mem, .inr ⟨_, _, _, found, rfl, ⟨has, unlisted⟩, rfl⟩⟩

/-- Each key that nothing reads is listed once. -/
theorem unknownKeys_nodup (root : TomlTable) : (unknownKeys root.entries).Nodup := by
  refine List.nodup_flatMap.mpr ⟨?_, ?_⟩
  · rintro ⟨name, value⟩ mem
    unfold unknownIn
    cases known.lookup name with
    | none => simp
    | some keys =>
        cases value with
        | table t =>
            have nodup := root.section_nodup name t mem
            exact (nodup.filter _).map fun a b same => by simpa using same
        | _ => simp [TomlValue.asTable]
  · -- entries of different names list different keys
    refine (List.pairwise_map.mp root.keys_nodup).imp fun {a b} other k inA inB => other ?_
    have named {entry : String × TomlValue} (mem : k ∈ unknownIn entry) : k.1 = entry.1 := by
      rcases mem_unknownIn.mp mem with ⟨-, rfl⟩ | ⟨_, _, _, -, -, -, rfl⟩ <;> rfl
    exact (named inA).symm.trans (named inB)

variable [Toml]

/-- What is done alike with tables that agree on a section's keys is done alike with the
section of either document; both may also lack it, and fail alike. -/
theorem AgreesOn.bind (agrees : root.AgreesOn root') {name : String} {keys : List String}
    (mem : (name, keys) ∈ known)
    {f f' : List (String × TomlValue) → Except ConfigError (Config × List String)}
    (alike : ∀ t t', (∀ key ∈ keys, t.lookup key = t'.lookup key) →
      (f t).map Prod.fst = (f' t').map Prod.fst) :
    (tableSection root.entries name >>= f).map Prod.fst
      = (tableSection root'.entries name >>= f').map Prod.fst := by
  have seen := agrees name keys mem
  unfold tableSection
  generalize root.entries.lookup name = value at seen ⊢
  generalize root'.entries.lookup name = value' at seen ⊢
  cases seen with
  | tables same => exact alike _ _ same
  | same =>
      cases value with
      | none => rfl
      | some value =>
          cases value with
          | table t => exact alike t t fun _ _ => rfl
          | _ => rfl

theorem readInt_congr {t t' : List (String × TomlValue)} {leaf : String}
    (same : t.lookup leaf = t'.lookup leaf) (fullKey unit : String) :
    readInt t fullKey leaf unit = readInt t' fullKey leaf unit := by
  simp only [readInt, same]

/-- What only unknown keys tell apart is accepted alike, with the same config or error. -/
theorem AgreesOn.fromTable (agrees : root.AgreesOn root') :
    (Config.fromTable root).map Prod.fst = (Config.fromTable root').map Prod.fst := by
  refine agrees.bind (.head _) fun thresholds thresholds' ts => ?_
  refine agrees.bind (.tail _ (.head _)) fun curve curve' cs => ?_
  refine agrees.bind (.tail _ (.tail _ (.head _))) fun poll poll' ps => ?_
  have read : readKeys thresholds curve poll = readKeys thresholds' curve' poll' := by
    simp only [readKeys, readInt_congr (ts "high" (.head _)),
      readInt_congr (ts "max" (.tail _ (.head _))), readInt_congr (cs "min_rpm" (.head _)),
      readInt_congr (cs "max_rpm" (.tail _ (.head _))), readInt_congr (ps "interval_s" (.head _))]
  rw [read]
  cases readKeys thresholds' curve' poll' <;> rfl

end TomlTable

section Exact

variable [Toml]

/-- Over every table the library decodes a text to: the text is accepted exactly if the table
documents a config, which is the one returned; the warnings are sorted, one for each key that
nothing reads; and a text whose table differs in such keys at most gives the same config or
the same error. -/
theorem fromToml_exact {s : String} {root : TomlTable} (parsed : Toml.fromStr s = .ok root) :
    (∀ c, (∃ warnings, Config.fromToml s = .ok (c, warnings)) ↔ root.Documents c) ∧
      (∀ c warnings, Config.fromToml s = .ok (c, warnings) →
        warnings.Pairwise (· ≤ ·) ∧ ∃ unknown : List (String × Option String),
          unknown.Nodup ∧ (∀ k, k ∈ unknown ↔ root.Unknown k) ∧
            warnings.Perm (unknown.map unknownKeyWarning)) ∧
      ∀ s' root', Toml.fromStr s' = .ok root' → root.AgreesOn root' →
        (Config.fromToml s).map Prod.fst = (Config.fromToml s').map Prod.fst := by
  have read {s : String} {root : TomlTable} (parsed : Toml.fromStr s = .ok root) :
      Config.fromToml s = Config.fromTable root := by
    rw [Config.fromToml, parsed]
  rw [read parsed]
  refine ⟨fun c => ?_, fun c warnings accepted => ?_, fun s' root' parsed' agrees => ?_⟩
  · simp only [fromTable_ok_iff, exists_and_left, exists_eq, and_true]
  · obtain ⟨-, rfl⟩ := fromTable_ok_iff.mp accepted
    exact ⟨unknownKeyWarnings_sorted _, _, root.unknownKeys_nodup, fun _ => root.mem_unknownKeys,
      List.mergeSort_perm _ _⟩
  · rw [read parsed']
    exact agrees.fromTable

end Exact

section Concrete

/-- A table of the defaults with one unknown key in a section, and one next to them. -/
def defaultsTable : TomlTable where
  entries :=
    [("curve", .table [("max_rpm", .integer 6200), ("min_rpm", .integer 1200)]),
      ("extra", .boolean true), ("poll", .table [("interval_s", .integer 1)]),
      ("thresholds", .table [("fahrenheit", .boolean true), ("high", .integer 66),
        ("max", .integer 86)])]
  keys_nodup := by decide
  section_nodup := by
    intro name t mem
    simp only [List.mem_cons, List.not_mem_nil, Prod.mk.injEq, reduceCtorEq, and_false, or_false,
      false_or, TomlValue.table.injEq] at mem
    rcases mem with ⟨-, rfl⟩ | ⟨-, rfl⟩ | ⟨-, rfl⟩ <;> decide

/-- Its text. -/
def defaultsText : String :=
  "extra = true\n[thresholds]\nhigh = 66\nmax = 86\nfahrenheit = true\n" ++
    "[curve]\nmin_rpm = 1200\nmax_rpm = 6200\n[poll]\ninterval_s = 1\n"

/-- A library that decodes this text only. -/
@[reducible] def defaultsToml : Toml where
  fromStr text := if text = defaultsText then .ok defaultsTable else .error "unexpected text"
  display _ := ""

attribute [local instance] defaultsToml

theorem fromToml_exact_defaults :
    ∃ warnings, Config.fromToml defaultsText = .ok (.defaults, warnings) := by
  have parsed : Toml.fromStr defaultsText = .ok defaultsTable := if_pos rfl
  have exact := fromToml_exact parsed
  exact (exact.1 .defaults).mpr ⟨rfl, rfl, rfl, rfl, rfl, by decide, by decide, by decide⟩

end Concrete

end Afanctl
