import Afanctl.Cli.Grammar
import Afanctl.Lib.Split

/-!
The polkit rule for the installed binary.

pkexec tells the rule the argument vector joined by single spaces, and the rule cuts that
text at its spaces again. So it sees the words of the arguments, and not where one argument
ends. What it lets through is nevertheless safe: an argument that holds a space is no verb
of the parser's.
-/

namespace Afanctl.Polkit

open Afanctl.Lib

/-- What polkit tells a rule of the action it decides on. -/
structure Action where
  id : String
  lookup : String → Option String

structure Subject where
  isInGroup : String → Bool
  isLocal : Bool
  active : Bool

/-- `polkit.Result`. -/
inductive Verdict where
  | yes
  | notHandled
  deriving DecidableEq, Repr

/-- `split(" ")`. -/
def splitSpaces (s : String) : List String := (s.toList.splitOn ' ').map String.ofList

/-- Decimal digits and nothing else, of a value that fits. -/
def isU32 (s : String) : Bool :=
  match digits s.toList with
  | some n => n ≤ u32Max
  | none => false

/-- The rule. -/
def rule (action : Action) (subject : Subject) : Verdict :=
  if action.id ≠ "org.freedesktop.policykit.exec" then .notHandled
  else if action.lookup "program" ≠ some "/usr/bin/afanctl" then .notHandled
  else if !subject.isInGroup "wheel" || !subject.isLocal || !subject.active then .notHandled
  else
    let argv := splitSpaces ((action.lookup "command_line").getD "")
    if argv.length < 2 ∨ argv[0]? ≠ some "/usr/bin/afanctl" then .notHandled
    else
      let verb := argv.getD 1 ""
      if (verb = "observe" ∨ verb = "curve") ∧ argv.length = 2 then .yes
      else if verb = "status" ∧
          (argv.length = 2 ∨ (argv.length = 3 ∧ argv.getD 2 "" = "--json")) then .yes
      else if verb = "hold" ∧ argv.length = 3 ∧ isU32 (argv.getD 2 "") then .yes
      else .notHandled

/-- The action when pkexec runs the binary on `args`. -/
def pkexec (args : List String) : Action where
  id := "org.freedesktop.policykit.exec"
  lookup key :=
    if key = "program" then some "/usr/bin/afanctl"
    else if key = "command_line" then some (" ".intercalate ("/usr/bin/afanctl" :: args))
    else none

/-- An active local session of an administrator. -/
def Subject.Eligible (subject : Subject) : Prop :=
  subject.isInGroup "wheel" = true ∧ subject.isLocal = true ∧ subject.active = true

/-- The words that the rule lets through behind the program. -/
inductive Allowed : List String → Prop where
  | observe : Allowed ["observe"]
  | curve : Allowed ["curve"]
  | status : Allowed ["status"]
  | statusJson : Allowed ["status", "--json"]
  | hold {text : String} {n : Nat} (number : digits text.toList = some n)
      (fits : n ≤ 4294967295) : Allowed ["hold", text]

/-! ### Words -/

theorem splitSpaces_ne_nil (s : String) : splitSpaces s ≠ [] := by
  unfold splitSpaces
  rw [Ne, List.map_eq_nil_iff]
  exact List.splitOn_ne_nil ' ' s.toList

/-- The words of the command line are the words of its arguments. -/
theorem splitSpaces_intercalate (argv : List String) (nonempty : argv ≠ []) :
    splitSpaces (" ".intercalate argv) = argv.flatMap splitSpaces := by
  unfold splitSpaces
  rw [String.toList_intercalate]
  show (([' '].intercalate (argv.map String.toList)).splitOn ' ').map String.ofList = _
  rw [splitOn_intercalate_flatMap ' ' (by simpa using nonempty), List.flatMap_map,
    List.map_flatMap]

theorem splitSpaces_of_not_mem {s : String} (none : ' ' ∉ s.toList) : splitSpaces s = [s] := by
  rw [splitSpaces, List.splitOn_eq_singleton none, List.map_singleton, String.ofList_toList]

/-- One word is the whole argument. -/
theorem eq_of_splitSpaces {s word : String} (one : splitSpaces s = [word]) : s = word := by
  unfold splitSpaces at one
  rw [List.map_eq_singleton_iff] at one
  obtain ⟨cs, cut, rfl⟩ := one
  have whole : [' '].intercalate (s.toList.splitOn ' ') = s.toList := List.intercalate_splitOn ' '
  rw [cut, List.intercalate_singleton] at whole
  rw [whole, String.ofList_toList]

/-- An argument of several words holds a space. -/
theorem space_mem_of_splitSpaces {s first second : String} {more : List String}
    (several : splitSpaces s = first :: second :: more) : ' ' ∈ s.toList := by
  apply Decidable.byContradiction
  intro none
  rw [splitSpaces_of_not_mem none] at several
  cases several

/-! ### What the rule lets through -/

theorem isU32_iff {text : String} : isU32 text = true ↔
    ∃ n, digits text.toList = some n ∧ n ≤ u32Max := by
  unfold isU32
  split
  · next n eq => simp [eq]
  · next eq => simp [eq]

theorem argv_pkexec (args : List String) :
    splitSpaces (((pkexec args).lookup "command_line").getD "") =
      "/usr/bin/afanctl" :: args.flatMap splitSpaces :=
  splitSpaces_intercalate ("/usr/bin/afanctl" :: args) (List.cons_ne_nil _ _)

theorem rule_yes_iff {args : List String} {subject : Subject} :
    rule (pkexec args) subject = .yes ↔
      subject.Eligible ∧ Allowed (args.flatMap splitSpaces) := by
  unfold rule
  rw [argv_pkexec, if_neg (fun other => other rfl), if_neg (fun other => other rfl)]
  generalize args.flatMap splitSpaces = words
  constructor
  · intro yes
    split at yes
    · cases yes
    · next eligible =>
        refine ⟨by simpa [Subject.Eligible, and_assoc] using eligible, ?_⟩
        -- How many words there are decides which tests of the rule can hold.
        rcases words with _ | ⟨verb, _ | ⟨text, _ | ⟨extra, more⟩⟩⟩
        · cases yes
        · have known : verb = "observe" ∨ verb = "curve" ∨ verb = "status" := by
            simpa [Decidable.or_iff_not_imp_left] using yes
          rcases known with rfl | rfl | rfl
          · exact .observe
          · exact .curve
          · exact .status
        · have known : (verb = "status" ∧ text = "--json") ∨
              (verb = "hold" ∧ isU32 text = true) := by
            simpa [Decidable.or_iff_not_imp_left] using yes
          rcases known with ⟨rfl, rfl⟩ | ⟨rfl, number⟩
          · exact .statusJson
          · obtain ⟨n, number, fits⟩ := isU32_iff.mp number
            exact .hold number fits
        · simp at yes
  · rintro ⟨⟨wheel, here, active⟩, allowed⟩
    rw [if_neg (by simp [wheel, here, active])]
    cases allowed with
    | observe => rfl
    | curve => rfl
    | status => rfl
    | statusJson => rfl
    | hold number fits => simp [isU32_iff.mpr ⟨_, number, fits⟩]

/-! ### What the parser makes of it -/

/-- The commands that the rule is meant to let through. -/
inductive Harmless : Command → Prop where
  | observe : Harmless .observe
  | curve : Harmless .curve
  | status {json : Bool} : Harmless (.status json)
  | hold {rpm : Nat} : Harmless (.hold rpm)

/-- Arguments of which none is a global option are their own tokens. -/
theorem parse_tokens {args : List String}
    (plain : ∀ arg ∈ args, arg ≠ "--config" ∧ arg ≠ "--sysfs-root") :
    parse args = (parseTokens args).map (·, {}) := by
  obtain ⟨pieces, words, tokens, config, sysfsRoot⟩ : ∃ pieces : List Piece,
      args = pieces.flatMap Piece.words ∧ pieces.filterMap Piece.token? = args ∧
      pieces.filterMap Piece.config? = [] ∧ pieces.filterMap Piece.sysfsRoot? = [] := by
    induction args with
    | nil => exact ⟨[], rfl, rfl, rfl, rfl⟩
    | cons arg args ih =>
        obtain ⟨pieces, words, tokens, config, sysfsRoot⟩ :=
          ih fun arg mem => plain arg (List.mem_cons_of_mem _ mem)
        refine ⟨.token arg (plain arg List.mem_cons_self) :: pieces, ?_, ?_, config, sysfsRoot⟩
        · rw [List.flatMap_cons, ← words]
          rfl
        · rw [List.filterMap_cons, tokens]
          rfl
  have parsed := parse_pieces pieces
  rw [Piece.tokens, tokens, Piece.globals, config, sysfsRoot, ← words] at parsed
  exact parsed

/-- Digits alone are a number without a sign. -/
theorem parseU32_of_digits {text : String} {n : Nat} (number : digits text.toList = some n)
    (fits : n ≤ u32Max) : parseU32 text = some n := by
  unfold parseU32
  split
  · next rest eq =>
      rw [eq] at number
      cases number
  · next all _ =>
      rw [Option.filter_eq_some_iff]
      exact ⟨number, by simpa using fits⟩

theorem parse_hold {text : String} {rpm : Nat} (number : digits text.toList = some rpm)
    (fits : rpm ≤ u32Max) : parse ["hold", text] = .ok (.hold rpm, {}) := by
  have parses := parseU32_of_digits number fits
  have plain : ∀ arg ∈ ["hold", text], arg ≠ "--config" ∧ arg ≠ "--sysfs-root" := by
    intro arg mem
    have like : flagLike arg = false := by
      rcases List.mem_cons.mp mem with rfl | mem
      · rfl
      · rw [List.mem_singleton.mp mem]
        exact plain_of_parseU32 parses
    constructor <;> (rintro rfl; exact absurd like (by decide))
  rw [parse_tokens plain, parseTokens_ok_iff.mpr (.hold parses)]
  rfl

theorem parse_of_allowed {args : List String} (allowed : Allowed args) :
    ∃ command, parse args = .ok (command, {}) ∧ Harmless command := by
  cases allowed with
  | observe => exact ⟨.observe, rfl, .observe⟩
  | curve => exact ⟨.curve, rfl, .curve⟩
  | status => exact ⟨.status false, rfl, .status⟩
  | statusJson => exact ⟨.status true, rfl, .status⟩
  | hold number fits => exact ⟨.hold _, parse_hold number fits, .hold⟩

/-- The verbs that need no argument hold no space. -/
theorem no_space_of_accepts {arg : String} {command : Command} (accepts : Accepts [arg] command) :
    ' ' ∉ arg.toList := by
  generalize eq : [arg] = tokens at accepts
  cases accepts with
  | help either =>
      cases eq
      rcases either with rfl | rfl <;> decide
  | hold parses => cases eq
  | _ =>
      cases List.head_eq_of_cons_eq eq
      decide

/-- An argument that holds a space is no verb. -/
theorem parse_of_space {arg : String} (space : ' ' ∈ arg.toList) :
    ∃ msg, parse [arg] = .error (.usage msg) := by
  cases result : parse [arg] with
  | error e =>
      obtain ⟨msg, rfl⟩ := parse_fails [arg] e result
      exact ⟨msg, rfl⟩
  | ok parsed =>
      have plain : ∀ other ∈ [arg], other ≠ "--config" ∧ other ≠ "--sysfs-root" := by
        intro other mem
        obtain rfl := List.mem_singleton.mp mem
        constructor <;> (rintro rfl; exact absurd space (by decide))
      rw [parse_tokens plain] at result
      obtain ⟨command, tokens, -⟩ := map_ok_iff.mp result
      exact absurd space (no_space_of_accepts (parseTokens_ok_iff.mp tokens))

/-- What the rule lets through is one of the words it allows for, or not an argument vector
of the parser's at all. -/
theorem parse_of_allowed_words {args : List String} (allowed : Allowed (args.flatMap splitSpaces)) :
    Allowed args ∨ ∃ msg, parse args = .error (.usage msg) := by
  generalize eq : args.flatMap splitSpaces = words at allowed
  have alone {word : String} (eq : args.flatMap splitSpaces = [word]) : args = [word] := by
    obtain ⟨arg, rfl, one⟩ := flatMap_eq_singleton splitSpaces_ne_nil eq
    rw [eq_of_splitSpaces one]
  have pair {first second : String} (eq : args.flatMap splitSpaces = [first, second]) :
      args = [first, second] ∨ ∃ msg, parse args = .error (.usage msg) := by
    rcases flatMap_eq_pair splitSpaces_ne_nil eq with ⟨arg, rfl, both⟩ | ⟨a, b, rfl, one, two⟩
    · exact Or.inr (parse_of_space (space_mem_of_splitSpaces both))
    · rw [eq_of_splitSpaces one, eq_of_splitSpaces two]
      exact Or.inl rfl
  cases allowed with
  | observe =>
      rw [alone eq]
      exact Or.inl .observe
  | curve =>
      rw [alone eq]
      exact Or.inl .curve
  | status =>
      rw [alone eq]
      exact Or.inl .status
  | statusJson =>
      rcases pair eq with rfl | error
      · exact Or.inl .statusJson
      · exact Or.inr error
  | hold number fits =>
      rcases pair eq with rfl | error
      · exact Or.inl (.hold number fits)
      · exact Or.inr error

/-- Arguments that are allowed hold no space, so they are their own words. -/
theorem words_of_allowed {args : List String} (allowed : Allowed args) :
    args.flatMap splitSpaces = args := by
  have whole : ∀ arg ∈ args, ' ' ∉ arg.toList := by
    cases allowed with
    | hold number fits =>
        intro arg mem space
        rcases List.mem_cons.mp mem with rfl | mem
        · exact absurd space (by decide)
        · rw [List.mem_singleton.mp mem] at space
          have digit := List.all_eq_true.mp (digits_eq_some number).2 ' ' space
          exact absurd digit (by decide)
    | _ => decide
  clear allowed
  induction args with
  | nil => rfl
  | cons arg args ih =>
      rw [List.flatMap_cons, splitSpaces_of_not_mem (whole arg List.mem_cons_self),
        ih fun arg mem => whole arg (List.mem_cons_of_mem _ mem)]
      rfl

/-- What the rule lets through is parsed as a harmless command with the default globals, or
not at all; and it lets an eligible subject have each of those commands. -/
theorem rule_harmless (args : List String) (subject : Subject) :
    (rule (pkexec args) subject = .yes →
      (∃ msg, parse args = .error (.usage msg)) ∨
      ∃ command, parse args = .ok (command, {}) ∧ Harmless command) ∧
    (subject.Eligible → Allowed args → rule (pkexec args) subject = .yes ∧
      ∃ command, parse args = .ok (command, {}) ∧ Harmless command) := by
  constructor
  · intro yes
    rcases parse_of_allowed_words (rule_yes_iff.mp yes).2 with allowed | error
    · exact Or.inr (parse_of_allowed allowed)
    · exact Or.inl error
  · intro eligible allowed
    refine ⟨rule_yes_iff.mpr ⟨eligible, ?_⟩, parse_of_allowed allowed⟩
    rw [words_of_allowed allowed]
    exact allowed

end Afanctl.Polkit
