import Afanctl.Cli.Args

/-!
The errors of the argument parser are usage errors.
-/

namespace Afanctl

open Afanctl.Lib CliError

def CliError.IsUsage (e : CliError) : Prop := ∃ msg, e = .usage msg

theorem isUsage_bad (msg : String) : (bad msg).IsUsage := ⟨msg, rfl⟩

theorem value_fails (next : Option String) (flag : String) :
    FailsWith IsUsage (value next flag) := by
  unfold value
  split
  · exact failsWith_error (isUsage_bad _)
  · split
    · exact failsWith_error (isUsage_bad _)
    · exact failsWith_ok _

theorem noArgs_fails (tail : List String) (verb : String) :
    FailsWith IsUsage (noArgs tail verb) := by
  unfold noArgs
  split
  · exact failsWith_error (isUsage_bad _)
  · exact failsWith_ok _

theorem parseNum_fails {α : Type} (parse : String → Option α) (s what : String) :
    FailsWith IsUsage (parseNum parse s what) := by
  unfold parseNum
  split
  · exact failsWith_ok _
  · exact failsWith_error (isUsage_bad _)

theorem daemonMode_fails (v : String) : FailsWith IsUsage (daemonMode v) := by
  unfold daemonMode
  split
  · exact failsWith_ok _
  · exact failsWith_ok _
  · exact failsWith_error (isUsage_bad _)

theorem parseFlag_fails (verb : String) (s : Flags) (flag : String) (rest : List String) :
    FailsWith IsUsage (parseFlag verb s flag rest) := by
  unfold parseFlag
  split
  · exact (value_fails _ _).bind fun _ => (daemonMode_fails _).bind fun _ => failsWith_ok _
  · exact failsWith_ok _
  · exact failsWith_ok _
  · exact failsWith_ok _
  · exact failsWith_ok _
  · exact (value_fails _ _).bind fun _ => (parseNum_fails _ _ _).bind fun _ =>
      failsWith_ok _
  · exact (value_fails _ _).bind fun _ => (parseNum_fails _ _ _).bind fun _ =>
      failsWith_ok _
  · exact failsWith_ok _
  · split
    · exact failsWith_error (isUsage_bad _)
    · exact failsWith_ok _

theorem parseHold_fails (positional : List String) : FailsWith IsUsage (parseHold positional) := by
  unfold parseHold
  split
  · exact failsWith_error (isUsage_bad _)
  · exact failsWith_error (isUsage_bad _)
  · split
    · exact failsWith_error (isUsage_bad _)
    · exact (parseNum_fails _ _ _).map _

theorem verbCommand_fails (verb : String) (flags : Flags) :
    FailsWith IsUsage (verbCommand verb flags) := by
  unfold verbCommand
  split
  case h_8 => exact parseHold_fails _
  case h_9 => exact failsWith_error (isUsage_bad _)
  all_goals exact failsWith_ok _

theorem parseVerb_fails (verb : String) (tail : List String) :
    FailsWith IsUsage (parseVerb verb tail) := by
  unfold parseVerb
  refine (cursorLoop_failsWith (parseFlag_fails verb) tail {} false).bind fun flags => ?_
  split
  · exact (noArgs_fails _ _).bind fun _ => verbCommand_fails _ _
  · exact verbCommand_fails _ _

theorem parseTokens_fails (tokens : List String) : FailsWith IsUsage (parseTokens tokens) := by
  unfold parseTokens
  split
  · exact failsWith_error (isUsage_bad _)
  · split
    · exact (noArgs_fails _ _).map _
    · exact (noArgs_fails _ _).map _
    · exact (noArgs_fails _ _).map _
    · split
      · exact failsWith_error (isUsage_bad _)
      · exact parseVerb_fails _ _

theorem parseGlobal_fails (s : Globals × List String) (arg : String) (rest : List String) :
    FailsWith IsUsage (parseGlobal s arg rest) := by
  unfold parseGlobal
  split
  · exact (value_fails _ _).bind fun _ => failsWith_ok _
  · exact (value_fails _ _).bind fun _ => failsWith_ok _
  · exact failsWith_ok _

theorem parse_fails (args : List String) : FailsWith IsUsage (parse args) := by
  unfold parse
  refine (cursorLoop_failsWith parseGlobal_fails args ({}, []) false).bind fun s => ?_
  exact (parseTokens_fails s.2).bind fun _ => failsWith_ok _

end Afanctl
