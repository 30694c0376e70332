import Afanctl.Cli.Usage

/-!
The grammar of the command line.

An argument vector is a sequence of pieces: the pairs of a global option and its value, and
the tokens between them. The tokens are a verb with its flags. The grammar says what each
may be; the parser succeeds exactly on its vectors, and each field of the result is the last
value given.
-/

namespace Afanctl

open Afanctl.Lib CliError

/-! ### Values -/

section Values

variable {text flag : String}

theorem value_ok_iff {next : Option String} : value next flag = .ok text ↔
    next = some text ∧ (flagLike text = true → flag = "--at-temp" ∧ negativeNumber text) := by
  cases next with
  | none => simp [value]
  | some other =>
      simp only [value, Bool.and_eq_true, Bool.not_eq_true', Option.some.injEq]
      split
      · next rejected =>
          simp only [reduceCtorEq, false_iff, not_and]
          rintro rfl allowed
          obtain ⟨rfl, negative⟩ := allowed rejected.1
          simp [negative] at rejected
      · next accepted =>
          simp only [Except.ok.injEq]
          refine ⟨?_, And.left⟩
          rintro rfl
          refine ⟨rfl, fun like => ?_⟩
          simpa [like] using accepted

theorem value_ok_of_plain {next : Option String} (plain : flag ≠ "--at-temp") :
    value next flag = .ok text ↔ next = some text ∧ flagLike text = false := by
  rw [value_ok_iff]
  simp [plain]

theorem flagLike_iff : flagLike text = true ↔ ∃ rest, text.toList = '-' :: rest := by
  rw [flagLike, beq_iff_eq]
  exact List.head?_eq_some_iff

/-- No unsigned number begins with a minus sign. -/
theorem plain_of_parseU64 {n : Nat} (parses : parseU64 text = some n) : flagLike text = false := by
  rw [Bool.eq_false_iff]
  intro like
  obtain ⟨rest, eq⟩ := flagLike_iff.mp like
  rw [parseU64, eq] at parses
  cases parses

theorem plain_of_parseU32 {n : Nat} (parses : parseU32 text = some n) : flagLike text = false := by
  rw [Bool.eq_false_iff]
  intro like
  obtain ⟨rest, eq⟩ := flagLike_iff.mp like
  rw [parseU32, eq] at parses
  cases parses

theorem digits_eq_some {cs : List Char} {n : Nat} (eq : digits cs = some n) :
    cs ≠ [] ∧ cs.all Char.isDigit := by
  unfold digits at eq
  split at eq
  · next run => exact run
  · cases eq

/-- A number with a minus sign is the sign and digits. -/
theorem negative_of_parseI32 {n : Int} (parses : parseI32 text = some n)
    (like : flagLike text = true) : negativeNumber text := by
  obtain ⟨rest, eq⟩ := flagLike_iff.mp like
  rw [parseI32, eq] at parses
  obtain ⟨parsed, -⟩ := Option.filter_eq_some_iff.mp parses
  obtain ⟨m, negated, -⟩ := Option.map_eq_some_iff.mp parsed
  obtain ⟨k, run, -⟩ := Option.bind_eq_some_iff.mp negated
  obtain ⟨nonempty, all⟩ := digits_eq_some run
  simp [negativeNumber, eq, nonempty, all]

end Values

/-! ### A verb and its flags -/

/-- A flag of a verb, with the text of its value; or a positional argument. -/
inductive Item where
  | mode (m : DaemonMode)
  | json
  | roundtrip
  | compare (text : String) (secs : Nat) (parses : parseU64 text = some secs)
  | atTemp (text : String) (temp : Int) (parses : parseI32 text = some temp)
  | dryRun
  | positional (text : String) (plain : flagLike text = false)

/-- The text of a mode. -/
def DaemonMode.text : DaemonMode → String
  | .observe => "observe"
  | .curve => "curve"

namespace Item

/-- The arguments that spell an item. -/
def words : Item → List String
  | mode m => ["--mode", m.text]
  | json => ["--json"]
  | roundtrip => ["--roundtrip"]
  | compare text _ _ => ["--compare", text]
  | atTemp text _ _ => ["--at-temp", text]
  | dryRun => ["--dry-run"]
  | positional text _ => [text]

/-- The verbs that have a flag. -/
def verbs : Item → List String
  | mode _ => ["daemon"]
  | json => ["status", "doctor", "once"]
  | roundtrip => ["doctor"]
  | compare _ _ _ => ["doctor"]
  | atTemp _ _ _ => ["once"]
  | dryRun => ["once"]
  | positional _ _ => []

def isJson : Item → Bool
  | json => true
  | _ => false

def isRoundtrip : Item → Bool
  | roundtrip => true
  | _ => false

def isDryRun : Item → Bool
  | dryRun => true
  | _ => false

def mode? : Item → Option DaemonMode
  | mode m => some m
  | _ => none

def secs? : Item → Option Nat
  | compare _ secs _ => some secs
  | _ => none

def temp? : Item → Option Int
  | atTemp _ temp _ => some temp
  | _ => none

def positional? : Item → Option String
  | positional text _ => some text
  | _ => none

/-- What the loop over a verb's arguments reads: its flags, and positional arguments. -/
def Read (verb : String) (item : Item) : Prop := verb ∈ item.verbs ∨ item.positional?.isSome

/-- What an item does to the flags. -/
def set (s : Flags) : Item → Flags
  | mode m => { s with mode := m }
  | json => { s with json := true }
  | roundtrip => { s with roundtrip := true }
  | compare _ secs _ => { s with compare := some secs }
  | atTemp _ temp _ => { s with atTemp := some temp }
  | dryRun => { s with dryRun := true }
  | positional text _ => { s with positional := s.positional ++ [text] }

/-- The last value that a flag is given. -/
def last {α : Type} (value : Item → Option α) (items : List Item) : Option α :=
  (items.filterMap value).getLast?

end Item

/-- The tokens of a command. -/
inductive Accepts : List String → Command → Prop where
  | version : Accepts ["--version"] .version
  | help {flag : String} (either : flag = "-h" ∨ flag = "--help") : Accepts [flag] .help
  | daemon {items : List Item} (flags : ∀ item ∈ items, "daemon" ∈ item.verbs) :
      Accepts ("daemon" :: items.flatMap Item.words)
        (.daemon ((Item.last Item.mode? items).getD .observe))
  | status {items : List Item} (flags : ∀ item ∈ items, "status" ∈ item.verbs) :
      Accepts ("status" :: items.flatMap Item.words) (.status (items.any Item.isJson))
  | doctor {items : List Item} (flags : ∀ item ∈ items, "doctor" ∈ item.verbs) :
      Accepts ("doctor" :: items.flatMap Item.words)
        (.doctor (items.any Item.isJson) (items.any Item.isRoundtrip) (Item.last Item.secs? items))
  | once {items : List Item} (flags : ∀ item ∈ items, "once" ∈ item.verbs) :
      Accepts ("once" :: items.flatMap Item.words)
        (.once (Item.last Item.temp? items) (items.any Item.isDryRun) (items.any Item.isJson))
  | observe : Accepts ["observe"] .observe
  | curve : Accepts ["curve"] .curve
  | selftestPanic : Accepts ["selftest-panic"] .selftestPanic
  | hold {text : String} {rpm : Nat} (parses : parseU32 text = some rpm) :
      Accepts ["hold", text] (.hold rpm)

theorem head?_eq_some {rest : List String} {text : String} (eq : rest.head? = some text) :
    rest = text :: rest.tail := by
  cases rest with
  | nil => cases eq
  | cons next rest =>
      cases eq
      rfl

theorem daemonMode_ok {v : String} {m : DaemonMode} (ok : daemonMode v = .ok m) : v = m.text := by
  unfold daemonMode at ok
  split at ok <;> cases ok <;> rfl

theorem parseNum_ok_iff {α : Type} {parse : String → Option α} {s what : String} {n : α} :
    parseNum parse s what = .ok n ↔ parse s = some n := by
  unfold parseNum
  split
  · next m eq => rw [eq, Except.ok.injEq, Option.some_inj]
  · next eq => simp [eq]

/-- A turn of the loop over a verb's arguments reads an item. -/
theorem parseFlag_sound {verb flag : String} {s t : Flags} {rest : List String} {took : Bool}
    (turn : parseFlag verb s flag rest = .ok (t, took)) : ∃ item : Item, item.Read verb ∧
      flag :: rest = item.words ++ (if took then rest.tail else rest) ∧ t = item.set s := by
  unfold parseFlag at turn
  split at turn
  · obtain ⟨text, taken, turn⟩ := bind_ok_iff.mp turn
    obtain ⟨m, mode, turn⟩ := bind_ok_iff.mp turn
    cases turn
    obtain ⟨here, -⟩ := value_ok_iff.mp taken
    refine ⟨.mode m, Or.inl (List.mem_singleton.mpr rfl), ?_, rfl⟩
    rw [head?_eq_some here, daemonMode_ok mode]
    rfl
  · cases turn
    exact ⟨.json, Or.inl (by decide), rfl, rfl⟩
  · cases turn
    exact ⟨.json, Or.inl (by decide), rfl, rfl⟩
  · cases turn
    exact ⟨.json, Or.inl (by decide), rfl, rfl⟩
  · cases turn
    exact ⟨.roundtrip, Or.inl (by decide), rfl, rfl⟩
  · obtain ⟨text, taken, turn⟩ := bind_ok_iff.mp turn
    obtain ⟨secs, parsed, turn⟩ := bind_ok_iff.mp turn
    cases turn
    obtain ⟨here, -⟩ := value_ok_iff.mp taken
    refine ⟨.compare text secs (parseNum_ok_iff.mp parsed),
      Or.inl (List.mem_singleton.mpr rfl), ?_, rfl⟩
    rw [head?_eq_some here]
    rfl
  · obtain ⟨text, taken, turn⟩ := bind_ok_iff.mp turn
    obtain ⟨temp, parsed, turn⟩ := bind_ok_iff.mp turn
    cases turn
    obtain ⟨here, -⟩ := value_ok_iff.mp taken
    refine ⟨.atTemp text temp (parseNum_ok_iff.mp parsed),
      Or.inl (List.mem_singleton.mpr rfl), ?_, rfl⟩
    rw [head?_eq_some here]
    rfl
  · cases turn
    exact ⟨.dryRun, Or.inl (by decide), rfl, rfl⟩
  · split at turn
    · cases turn
    · next plain =>
        cases turn
        exact ⟨.positional flag (Bool.eq_false_iff.mpr plain), Or.inr rfl, rfl, rfl⟩

/-- Every item a verb has is read in one turn. -/
theorem parseFlag_complete {verb : String} {item : Item} (read : item.Read verb) (s : Flags)
    (tail : List String) : ∃ flag rest took, item.words ++ tail = flag :: rest ∧
      parseFlag verb s flag rest = .ok (item.set s, took) ∧
      (if took then rest.tail else rest) = tail := by
  rcases read with takes | other
  · cases item with
    | mode m =>
        obtain rfl := List.mem_singleton.mp takes
        refine ⟨"--mode", m.text :: tail, true, rfl, ?_, rfl⟩
        cases m <;> rfl
    | json =>
        refine ⟨"--json", tail, false, rfl, ?_, rfl⟩
        have known : verb = "status" ∨ verb = "doctor" ∨ verb = "once" := by
          simpa [Item.verbs] using takes
        rcases known with rfl | rfl | rfl <;> rfl
    | roundtrip =>
        obtain rfl := List.mem_singleton.mp takes
        exact ⟨"--roundtrip", tail, false, rfl, rfl, rfl⟩
    | compare text secs parses =>
        obtain rfl := List.mem_singleton.mp takes
        refine ⟨"--compare", text :: tail, true, rfl, ?_, rfl⟩
        have taken : value (some text) "--compare" = .ok text :=
          (value_ok_of_plain (by decide)).mpr ⟨rfl, plain_of_parseU64 parses⟩
        exact bind_ok_iff.mpr ⟨text, taken, bind_ok_iff.mpr
          ⟨secs, parseNum_ok_iff.mpr parses, rfl⟩⟩
    | atTemp text temp parses =>
        obtain rfl := List.mem_singleton.mp takes
        refine ⟨"--at-temp", text :: tail, true, rfl, ?_, rfl⟩
        have taken : value (some text) "--at-temp" = .ok text :=
          value_ok_iff.mpr ⟨rfl, fun like => ⟨rfl, negative_of_parseI32 parses like⟩⟩
        exact bind_ok_iff.mpr ⟨text, taken, bind_ok_iff.mpr
          ⟨temp, parseNum_ok_iff.mpr parses, rfl⟩⟩
    | dryRun =>
        obtain rfl := List.mem_singleton.mp takes
        exact ⟨"--dry-run", tail, false, rfl, rfl, rfl⟩
    | positional text plain => cases takes
  · cases item with
    | positional text plain =>
        refine ⟨text, tail, false, rfl, ?_, rfl⟩
        unfold parseFlag
        split
        case h_9 =>
          rw [if_neg (Bool.eq_false_iff.mp plain)]
          rfl
        -- In the other arms the argument is a flag.
        all_goals exact absurd plain (by decide)
    | _ => cases other

theorem reads_parseFlag (verb : String) :
    Reads (parseFlag verb) (Item.Read verb) Item.words Item.set :=
  ⟨parseFlag_sound, parseFlag_complete⟩

section Fields

variable (items : List Item) (s : Flags)

theorem foldl_json : (items.foldl Item.set s).json = (items.any Item.isJson || s.json) :=
  foldl_any (fun s item => by cases item <;> rfl) items s

theorem foldl_roundtrip :
    (items.foldl Item.set s).roundtrip = (items.any Item.isRoundtrip || s.roundtrip) :=
  foldl_any (fun s item => by cases item <;> rfl) items s

theorem foldl_dryRun : (items.foldl Item.set s).dryRun = (items.any Item.isDryRun || s.dryRun) :=
  foldl_any (fun s item => by cases item <;> rfl) items s

theorem foldl_compare :
    (items.foldl Item.set s).compare = (Item.last Item.secs? items).or s.compare :=
  foldl_last (fun s item => by cases item <;> rfl) items s

theorem foldl_atTemp : (items.foldl Item.set s).atTemp = (Item.last Item.temp? items).or s.atTemp :=
  foldl_last (fun s item => by cases item <;> rfl) items s

theorem foldl_mode : (items.foldl Item.set s).mode = (Item.last Item.mode? items).getD s.mode :=
  foldl_last_getD (fun s item => by cases item <;> rfl) items s

theorem foldl_positional :
    (items.foldl Item.set s).positional = s.positional ++ items.filterMap Item.positional? := by
  refine foldl_collect (fun s item => ?_) items s
  cases item with
  | positional text plain => rfl
  | _ => exact (List.append_nil _).symm

end Fields

theorem noArgs_ok_iff {tail : List String} {verb : String} :
    noArgs tail verb = .ok () ↔ tail = [] := by
  cases tail <;> simp [noArgs]

/-- What a verb's loop reads is a flag of the verb, or else it is positional. -/
theorem Item.Read.flag_iff {verb : String} {item : Item} (read : item.Read verb) :
    item.positional? = none ↔ verb ∈ item.verbs := by
  constructor
  · intro flag
    refine read.resolve_right ?_
    simp [flag]
  · intro takes
    cases item with
    | positional text plain => cases takes
    | _ => rfl

theorem parseVerb_ok_iff {verb : String} {tail : List String} {command : Command} :
    parseVerb verb tail = .ok command ↔ ∃ items : List Item,
      (∀ item ∈ items, item.Read verb) ∧ tail = items.flatMap Item.words ∧
      (verb ≠ "hold" → ∀ item ∈ items, verb ∈ item.verbs) ∧
      verbCommand verb (items.foldl Item.set {}) = .ok command := by
  have alone {items : List Item} (read : ∀ item ∈ items, item.Read verb) :
      (items.foldl Item.set {}).positional = [] ↔ ∀ item ∈ items, verb ∈ item.verbs := by
    rw [foldl_positional, List.nil_append, List.filterMap_eq_nil_iff]
    exact forall₂_congr fun item mem => (read item mem).flag_iff
  rw [parseVerb, bind_ok_iff]
  constructor
  · rintro ⟨flags, loop, result⟩
    obtain ⟨items, read, rfl, rfl⟩ := (cursorLoop_ok_iff (reads_parseFlag verb)).mp loop
    refine ⟨items, read, rfl, ?_⟩
    split at result
    · next other =>
        obtain ⟨_, none, result⟩ := bind_ok_iff.mp result
        exact ⟨fun _ => (alone read).mp (noArgs_ok_iff.mp none), result⟩
    · next hold => exact ⟨fun other => absurd other hold, result⟩
  · rintro ⟨items, read, rfl, flags, result⟩
    refine ⟨_, (cursorLoop_ok_iff (reads_parseFlag verb)).mpr ⟨items, read, rfl, rfl⟩, ?_⟩
    split
    · next other =>
        exact bind_ok_iff.mpr
          ⟨(), noArgs_ok_iff.mpr ((alone read).mpr (flags other)), result⟩
    · exact result

/-! ### The tokens -/

theorem nil_of_no_flags {verb : String} {items : List Item}
    (flags : ∀ item ∈ items, verb ∈ item.verbs) (none : ∀ item : Item, verb ∉ item.verbs) :
    items = [] :=
  List.eq_nil_iff_forall_not_mem.mpr fun item mem => none item (flags item mem)

/-- A verb with a command is one of the grammar's, with its flags. -/
theorem accepts_of_verbCommand {verb : String} {items : List Item} {command : Command}
    (other : verb ≠ "hold") (flags : ∀ item ∈ items, verb ∈ item.verbs)
    (result : verbCommand verb (items.foldl Item.set {}) = .ok command) :
    Accepts (verb :: items.flatMap Item.words) command := by
  unfold verbCommand at result
  split at result
  · cases result
    rw [foldl_mode]
    exact .daemon flags
  · cases result
    rw [foldl_json, Bool.or_false]
    exact .status flags
  · cases result
    rw [foldl_json, foldl_roundtrip, foldl_compare, Bool.or_false, Bool.or_false, Option.or_none]
    exact .doctor flags
  · cases result
    rw [foldl_json, foldl_dryRun, foldl_atTemp, Bool.or_false, Bool.or_false, Option.or_none]
    exact .once flags
  · cases result
    obtain rfl := nil_of_no_flags flags (by intro item; cases item <;> simp [Item.verbs])
    exact .observe
  · cases result
    obtain rfl := nil_of_no_flags flags (by intro item; cases item <;> simp [Item.verbs])
    exact .curve
  · cases result
    obtain rfl := nil_of_no_flags flags (by intro item; cases item <;> simp [Item.verbs])
    exact .selftestPanic
  · exact absurd rfl other
  · cases result

theorem parseHold_ok_iff {positional : List String} {command : Command} :
    parseHold positional = .ok command ↔
      ∃ text rpm, positional = [text] ∧ parseU32 text = some rpm ∧ command = .hold rpm := by
  unfold parseHold
  split
  · simp
  · simp
  · next text =>
      split
      · next like =>
          simp only [reduceCtorEq, false_iff, List.cons.injEq, and_true, not_exists]
          rintro other rpm ⟨rfl, parses, -⟩
          exact absurd (plain_of_parseU32 parses) (by simp [like])
      · rw [map_ok_iff]
        simp only [parseNum_ok_iff, List.cons.injEq, and_true]
        constructor
        · rintro ⟨rpm, parses, rfl⟩
          exact ⟨text, rpm, rfl, parses, rfl⟩
        · rintro ⟨other, rpm, rfl, parses, rfl⟩
          exact ⟨rpm, parses, rfl⟩

/-- `hold` has no flags: all its arguments are positional. -/
theorem words_of_hold {items : List Item} (read : ∀ item ∈ items, item.Read "hold") :
    items.flatMap Item.words = items.filterMap Item.positional? := by
  induction items with
  | nil => rfl
  | cons item items ih =>
      have rest := ih fun item mem => read item (List.mem_cons_of_mem _ mem)
      have first := read item List.mem_cons_self
      cases item with
      | positional text plain =>
          rw [List.flatMap_cons, rest]
          rfl
      | _ => simp [Item.Read, Item.verbs, Item.positional?] at first

theorem parseVerb_hold_ok_iff {tail : List String} {command : Command} :
    parseVerb "hold" tail = .ok command ↔
      ∃ text rpm, tail = [text] ∧ parseU32 text = some rpm ∧ command = .hold rpm := by
  rw [parseVerb_ok_iff]
  constructor
  · rintro ⟨items, read, rfl, -, result⟩
    rw [words_of_hold read]
    have held : parseHold (items.foldl Item.set {}).positional = .ok command := result
    rw [foldl_positional, List.nil_append] at held
    exact parseHold_ok_iff.mp held
  · rintro ⟨text, rpm, rfl, parses, rfl⟩
    refine ⟨[.positional text (plain_of_parseU32 parses)], ?_, rfl, ?_, ?_⟩
    · intro item mem
      rw [List.mem_singleton.mp mem]
      exact Or.inr rfl
    · intro other
      exact absurd rfl other
    · exact parseHold_ok_iff.mpr ⟨text, rpm, rfl, parses, rfl⟩

/-- A token that stands for a command stands alone. -/
theorem noArgs_map_ok_iff {tail : List String} {verb : String} {alone command : Command} :
    (noArgs tail verb).map (fun _ => alone) = .ok command ↔ tail = [] ∧ alone = command := by
  rw [map_ok_iff]
  constructor
  · rintro ⟨_, none, same⟩
    exact ⟨noArgs_ok_iff.mp none, same⟩
  · rintro ⟨none, same⟩
    exact ⟨(), noArgs_ok_iff.mpr none, same⟩

theorem accepts_of_parseTokens {tokens : List String} {command : Command}
    (result : parseTokens tokens = .ok command) : Accepts tokens command := by
  unfold parseTokens at result
  split at result
  · cases result
  · next verb tail =>
      split at result
      · obtain ⟨rfl, rfl⟩ := noArgs_map_ok_iff.mp result
        exact .version
      · obtain ⟨rfl, rfl⟩ := noArgs_map_ok_iff.mp result
        exact .help (Or.inl rfl)
      · obtain ⟨rfl, rfl⟩ := noArgs_map_ok_iff.mp result
        exact .help (Or.inr rfl)
      · split at result
        · cases result
        · by_cases hold : verb = "hold"
          · subst hold
            obtain ⟨text, rpm, rfl, parses, rfl⟩ := parseVerb_hold_ok_iff.mp result
            exact .hold parses
          · obtain ⟨items, -, rfl, flags, result⟩ := parseVerb_ok_iff.mp result
            exact accepts_of_verbCommand hold (flags hold) result

/-- A verb whose arguments are its flags has the command that they make. -/
theorem parseVerb_flags {verb : String} {items : List Item} {command : Command}
    (flags : ∀ item ∈ items, verb ∈ item.verbs)
    (result : verbCommand verb (items.foldl Item.set {}) = .ok command) :
    parseVerb verb (items.flatMap Item.words) = .ok command := by
  rw [parseVerb_ok_iff]
  exact ⟨items, fun item mem => Or.inl (flags item mem), rfl, fun _ => flags, result⟩

theorem parseTokens_of_accepts {tokens : List String} {command : Command}
    (accepts : Accepts tokens command) : parseTokens tokens = .ok command := by
  cases accepts with
  | version => rfl
  | help either => rcases either with rfl | rfl <;> rfl
  | daemon taken =>
      refine parseVerb_flags taken ?_
      rw [verbCommand, foldl_mode]
  | status taken =>
      refine parseVerb_flags taken ?_
      rw [verbCommand, foldl_json, Bool.or_false]
  | doctor taken =>
      refine parseVerb_flags taken ?_
      rw [verbCommand, foldl_json, foldl_roundtrip, foldl_compare, Bool.or_false,
        Bool.or_false, Option.or_none]
  | once taken =>
      refine parseVerb_flags taken ?_
      rw [verbCommand, foldl_json, foldl_dryRun, foldl_atTemp, Bool.or_false, Bool.or_false,
        Option.or_none]
  | observe => rfl
  | curve => rfl
  | selftestPanic => rfl
  | hold parses => exact parseVerb_hold_ok_iff.mpr ⟨_, _, rfl, parses, rfl⟩

/-- The tokens that have a command are the grammar's. -/
theorem parseTokens_ok_iff {tokens : List String} {command : Command} :
    parseTokens tokens = .ok command ↔ Accepts tokens command :=
  ⟨accepts_of_parseTokens, parseTokens_of_accepts⟩

/-! ### The global options -/

/-- A piece of the arguments: a global option with its value, or a token. -/
inductive Piece where
  | config (path : String) (plain : flagLike path = false)
  | sysfsRoot (dir : String) (plain : flagLike dir = false)
  | token (text : String) (other : text ≠ "--config" ∧ text ≠ "--sysfs-root")

namespace Piece

/-- The arguments that spell a piece. -/
def words : Piece → List String
  | config path _ => ["--config", path]
  | sysfsRoot dir _ => ["--sysfs-root", dir]
  | token text _ => [text]

def config? : Piece → Option String
  | config path _ => some path
  | _ => none

def sysfsRoot? : Piece → Option String
  | sysfsRoot dir _ => some dir
  | _ => none

def token? : Piece → Option String
  | token text _ => some text
  | _ => none

/-- What a piece does to the globals and the tokens. -/
def set (s : Globals × List String) : Piece → Globals × List String
  | config path _ => ({ s.1 with config := path }, s.2)
  | sysfsRoot dir _ => ({ s.1 with sysfsRoot := dir }, s.2)
  | token text _ => (s.1, s.2 ++ [text])

/-- What is left without the global options. -/
def tokens (pieces : List Piece) : List String := pieces.filterMap Piece.token?

/-- The last value of each global option, or else its default. -/
def globals (pieces : List Piece) : Globals where
  config := (pieces.filterMap Piece.config?).getLast?.getD "/etc/afanctl/afanctl.toml"
  sysfsRoot := (pieces.filterMap Piece.sysfsRoot?).getLast?.getD "/sys"

end Piece

theorem parseGlobal_sound {s t : Globals × List String} {arg : String} {rest : List String}
    {took : Bool} (turn : parseGlobal s arg rest = .ok (t, took)) : ∃ piece : Piece, True ∧
      arg :: rest = piece.words ++ (if took then rest.tail else rest) ∧ t = piece.set s := by
  unfold parseGlobal at turn
  split at turn
  · obtain ⟨path, taken, turn⟩ := bind_ok_iff.mp turn
    cases turn
    obtain ⟨here, plain⟩ := (value_ok_of_plain (by decide)).mp taken
    refine ⟨.config path plain, trivial, ?_, rfl⟩
    rw [head?_eq_some here]
    rfl
  · obtain ⟨dir, taken, turn⟩ := bind_ok_iff.mp turn
    cases turn
    obtain ⟨here, plain⟩ := (value_ok_of_plain (by decide)).mp taken
    refine ⟨.sysfsRoot dir plain, trivial, ?_, rfl⟩
    rw [head?_eq_some here]
    rfl
  · next config sysfsRoot =>
      cases turn
      exact ⟨.token arg ⟨config, sysfsRoot⟩, trivial, rfl, rfl⟩

theorem parseGlobal_complete (piece : Piece) (s : Globals × List String) (tail : List String) :
    ∃ arg rest took, piece.words ++ tail = arg :: rest ∧
      parseGlobal s arg rest = .ok (piece.set s, took) ∧
      (if took then rest.tail else rest) = tail := by
  cases piece with
  | config path plain =>
      have taken : value (some path) "--config" = .ok path :=
        (value_ok_of_plain (by decide)).mpr ⟨rfl, plain⟩
      exact ⟨"--config", path :: tail, true, rfl, bind_ok_iff.mpr ⟨path, taken, rfl⟩, rfl⟩
  | sysfsRoot dir plain =>
      have taken : value (some dir) "--sysfs-root" = .ok dir :=
        (value_ok_of_plain (by decide)).mpr ⟨rfl, plain⟩
      exact ⟨"--sysfs-root", dir :: tail, true, rfl, bind_ok_iff.mpr ⟨dir, taken, rfl⟩, rfl⟩
  | token text other =>
      refine ⟨text, tail, false, rfl, ?_, rfl⟩
      unfold parseGlobal
      split
      · exact absurd rfl other.1
      · exact absurd rfl other.2
      · rfl

theorem reads_parseGlobal : Reads parseGlobal (fun _ => True) Piece.words Piece.set :=
  ⟨parseGlobal_sound, fun {piece} _ => parseGlobal_complete piece⟩

section PieceFields

variable (pieces : List Piece) (s : Globals × List String)

theorem foldl_tokens : (pieces.foldl Piece.set s).2 = s.2 ++ Piece.tokens pieces := by
  refine foldl_collect (fun s piece => ?_) pieces s
  cases piece with
  | token text other => rfl
  | _ => exact (List.append_nil _).symm

theorem foldl_config : (pieces.foldl Piece.set s).1.config =
    (pieces.filterMap Piece.config?).getLast?.getD s.1.config :=
  foldl_last_getD (f := fun s : Globals × List String => s.1.config)
    (fun s piece => by cases piece <;> rfl) pieces s

theorem foldl_sysfsRoot : (pieces.foldl Piece.set s).1.sysfsRoot =
    (pieces.filterMap Piece.sysfsRoot?).getLast?.getD s.1.sysfsRoot :=
  foldl_last_getD (f := fun s : Globals × List String => s.1.sysfsRoot)
    (fun s piece => by cases piece <;> rfl) pieces s

end PieceFields

theorem foldl_pieces (pieces : List Piece) :
    pieces.foldl Piece.set ({}, []) = (Piece.globals pieces, Piece.tokens pieces) := by
  have globals : (pieces.foldl Piece.set ({}, [])).1 = Piece.globals pieces :=
    Globals.ext (foldl_config pieces ({}, [])) (foldl_sysfsRoot pieces ({}, []))
  exact Prod.ext globals (foldl_tokens pieces ({}, []))

/-- The parser sees the pieces' tokens and globals and nothing of where they stand. -/
theorem parse_pieces (pieces : List Piece) : parse (pieces.flatMap Piece.words) =
    (parseTokens (Piece.tokens pieces)).map (·, Piece.globals pieces) := by
  have loop : cursorLoop parseGlobal ({}, []) false (pieces.flatMap Piece.words) =
      .ok (Piece.globals pieces, Piece.tokens pieces) :=
    (cursorLoop_ok_iff reads_parseGlobal).mpr
      ⟨pieces, fun _ _ => trivial, rfl, (foldl_pieces pieces).symm⟩
  rw [parse, loop]
  cases result : parseTokens (Piece.tokens pieces) with
  | error e => simp [result, bind, Except.bind, Except.map]
  | ok command => simp [result, bind, Except.bind, pure, Except.pure, Except.map]

theorem parse_ok_iff {args : List String} {command : Command} {globals : Globals} :
    parse args = .ok (command, globals) ↔ ∃ pieces : List Piece,
      args = pieces.flatMap Piece.words ∧ Accepts (Piece.tokens pieces) command ∧
      globals = Piece.globals pieces := by
  constructor
  · intro result
    rw [parse] at result
    obtain ⟨s, loop, -⟩ := bind_ok_iff.mp result
    obtain ⟨pieces, -, rfl, -⟩ := (cursorLoop_ok_iff reads_parseGlobal).mp loop
    rw [← parse, parse_pieces] at result
    obtain ⟨command, tokens, eq⟩ := map_ok_iff.mp result
    cases eq
    exact ⟨pieces, rfl, parseTokens_ok_iff.mp tokens, rfl⟩
  · rintro ⟨pieces, rfl, accepts, rfl⟩
    rw [parse_pieces, map_ok_iff]
    exact ⟨command, parseTokens_ok_iff.mpr accepts, rfl⟩

/-- Where arguments begin with a piece, they begin with no other. -/
theorem Piece.words_append_inj {piece piece' : Piece} {rest rest' : List String}
    (same : piece.words ++ rest = piece'.words ++ rest') : piece = piece' ∧ rest = rest' := by
  cases piece with
  | config path plain =>
      cases piece' with
      | config path' plain' =>
          cases same
          exact ⟨rfl, rfl⟩
      | sysfsRoot dir plain' => exact absurd (List.head_eq_of_cons_eq same) (by decide)
      | token text other => exact absurd (List.head_eq_of_cons_eq same).symm other.1
  | sysfsRoot dir plain =>
      cases piece' with
      | config path' plain' => exact absurd (List.head_eq_of_cons_eq same) (by decide)
      | sysfsRoot dir' plain' =>
          cases same
          exact ⟨rfl, rfl⟩
      | token text other => exact absurd (List.head_eq_of_cons_eq same).symm other.2
  | token text other =>
      cases piece' with
      | config path plain' => exact absurd (List.head_eq_of_cons_eq same) other.1
      | sysfsRoot dir plain' => exact absurd (List.head_eq_of_cons_eq same) other.2
      | token text' other' =>
          cases same
          exact ⟨rfl, rfl⟩

/-- Arguments are spelled by one sequence of pieces at most. -/
theorem Piece.words_injective {pieces pieces' : List Piece}
    (same : pieces.flatMap words = pieces'.flatMap words) : pieces = pieces' := by
  induction pieces generalizing pieces' with
  | nil =>
      cases pieces' with
      | nil => rfl
      | cons piece' pieces' => cases piece' <;> cases same
  | cons piece pieces ih =>
      cases pieces' with
      | nil => cases piece <;> cases same
      | cons piece' pieces' =>
          obtain ⟨rfl, rest⟩ := words_append_inj same
          rw [ih rest]

/-! ### The parser and the grammar -/

/-- The parser succeeds exactly on the vectors of the grammar and fails on every other with a
usage error. The pieces of a vector are its own, and where the global options stand among
them does not matter. -/
theorem parse_grammar (args : List String) :
    (∀ command globals, parse args = .ok (command, globals) ↔ ∃ pieces : List Piece,
      args = pieces.flatMap Piece.words ∧ Accepts (Piece.tokens pieces) command ∧
      globals = Piece.globals pieces) ∧
    ((∀ pieces : List Piece, args = pieces.flatMap Piece.words →
        ∀ command, ¬Accepts (Piece.tokens pieces) command) ↔
      ∃ msg, parse args = .error (.usage msg) ∧ (CliError.usage msg).exitCode = 2) ∧
    (∀ pieces : List Piece, args = pieces.flatMap Piece.words → ∀ pieces' : List Piece,
      (args = pieces'.flatMap Piece.words → pieces' = pieces) ∧
      (Piece.tokens pieces' = Piece.tokens pieces → Piece.globals pieces' = Piece.globals pieces →
        parse (pieces'.flatMap Piece.words) = parse args)) := by
  refine ⟨fun command globals => parse_ok_iff, ⟨?_, ?_⟩, ?_⟩
  · intro foreign
    cases result : parse args with
    | ok parsed =>
        obtain ⟨pieces, spelled, accepts, -⟩ := parse_ok_iff.mp result
        exact absurd accepts (foreign pieces spelled _)
    | error e =>
        obtain ⟨msg, rfl⟩ := parse_fails args e result
        exact ⟨msg, rfl, rfl⟩
  · rintro ⟨msg, error, -⟩ pieces spelled command accepts
    rw [parse_ok_iff.mpr ⟨pieces, spelled, accepts, rfl⟩] at error
    cases error
  · rintro pieces rfl pieces'
    refine ⟨fun same => Piece.words_injective same.symm, ?_⟩
    intro tokens globals
    rw [parse_pieces, parse_pieces, tokens, globals]

example : parse ["--config", "a", "once", "--at-temp", "--sysfs-root", "b", "-5"] =
    .ok (.once (some (-5)) false false, ⟨"a", "b"⟩) := by rfl

end Afanctl
