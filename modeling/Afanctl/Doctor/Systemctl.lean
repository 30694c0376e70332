import Mathlib.Data.List.Basic
import Afanctl.Doctor.DaemonMode

/-!
What `doctor` learns of the installed unit.

`systemctl show` prints one `key=value` line for each property asked for. A field is the value
of the first line that starts with its key. Two verdicts rest on such fields: that the unit
arms the watchdog, and that the running daemon is the installed binary.
-/

namespace Afanctl

open Afanctl.Lib

def Check.failing (name detail : String) : Check := ⟨name, .fail, detail⟩

/-! ### Lines and fields -/

/-- A line without the carriage return before its newline; the line is reversed. -/
def dropReturn : List Char → List Char
  | '\r' :: line => line
  | line => line

/-- `str::lines` on the rest of a text; the line read so far is reversed. -/
def linesFrom (line : List Char) : List Char → List (List Char)
  | [] => if line = [] then [] else [line.reverse]
  | c :: rest =>
      if c = '\n' then (dropReturn line).reverse :: linesFrom [] rest
      else linesFrom (c :: line) rest

def lines (text : String) : List (List Char) := linesFrom [] text.toList

/-- The value of the first line that starts with a key and an equals sign. -/
def lineValue (key : String) (text : String) : Option String :=
  ((lines text).findSome? fun line => line.dropPrefix? (key.toList ++ ['='])).map fun value =>
    trim (String.ofList value)

/-- The value of a field; a missing one is empty. -/
def showField (key : String) (text : String) : String := (lineValue key text).getD ""

/-- One field; a missing or empty one is none. -/
def systemField (text key : String) : Option String := (lineValue key text).filter (· ≠ "")

/-! ### The verdicts -/

/-- What running a command gives. -/
inductive CommandOutput where
  | ok (stdout : String)
  | exited (status : String)
  | unavailable (source : String)

/-- The verdict on the unit's properties. -/
def classifySystemdShow (text : String) : Check :=
  let name := "systemd unit health"
  let load := showField "LoadState" text
  if load ≠ "loaded" then
    .warning name s!"unit not installed (LoadState={load}) (fix: install packaging/afanctl.service)"
  else
    let unitType := showField "Type" text
    let notify := showField "NotifyAccess" text
    let watchdog := showField "WatchdogUSec" text
    let watchdogArmed := watchdog ≠ "" ∧ watchdog ≠ "0" ∧ watchdog ≠ "infinity"
    if unitType = "notify" ∧ watchdogArmed then
      let startLimit := showField "StartLimitIntervalUSec" text
      .passing name (s!"Type=notify, NotifyAccess={notify}, WatchdogUSec={watchdog}, " ++
        s!"StartLimitIntervalUSec={startLimit}")
    else
      .failing name (s!"Type={unitType}, WatchdogUSec={watchdog} (fix: Appendix-D unit needs " ++
        "Type=notify + WatchdogSec=15)")

/-- The check of the unit. -/
def systemdCheck (output : CommandOutput) : Check :=
  let name := "systemd unit health"
  match output with
  | .ok stdout => classifySystemdShow stdout
  | .exited status => .warning name s!"systemctl exited {status} (unit health unknown)"
  | .unavailable e => .warning name s!"systemctl unavailable: {e}"

/-- Detail of the verdict where either side is unknown. -/
def staleUnknown : String :=
  "cannot determine daemon start time or binary mtime (fix: check `systemctl show " ++
    "afanctl.service --property=MainPID,ExecMainStartTimestamp`)"

/-- The verdict on the daemon's start and the change of its binary, in seconds of the epoch. -/
def classifyStaleBinary (started mtime : Option Int) : Check :=
  let name := "running daemon matches installed binary"
  match started, mtime with
  | some start, some mtime =>
      if start < mtime then
        .warning name ("running daemon predates the installed binary — restart the unit " ++
          "(systemctl restart afanctl)")
      else .passing name "daemon started at/after the installed binary's mtime"
  | _, _ => .warning name staleUnknown

/-- `str::parse::<i64>`: digits, perhaps after a sign. -/
def parseI64 (s : String) : Option Int :=
  let parsed := match s.toList with
    | '+' :: rest => (digits rest).map Int.ofNat
    | '-' :: rest => (digits rest).map fun n => -(n : Int)
    | all => (digits all).map Int.ofNat
  parsed.filter fun n => -9223372036854775808 ≤ n && n ≤ 9223372036854775807

/-- The seconds of a timestamp, as `date` gives them. -/
def timestampEpoch (date : String → CommandOutput) (text : String) : Option Int :=
  match date (trim text) with
  | .ok stdout => parseI64 (trim stdout)
  | _ => none

/-- The seconds of a file's last change; those before the epoch are none. -/
def runningBinaryMtime (mtime : String → Option Int) (pid : Option Nat) : Option Int :=
  (pid.filter (· ≠ 0)).bind fun p =>
    ((mtime s!"/proc/{p}/exe").or (mtime "/usr/bin/afanctl")).filter (0 ≤ ·)

/-- The check of the running daemon. -/
def staleBinaryCheck (date : String → CommandOutput) (mtime : String → Option Int)
    (output : CommandOutput) : Check :=
  let name := "running daemon matches installed binary"
  match output with
  | .ok text =>
      let pid := (systemField text "MainPID").bind parseU32
      if pid = none ∨ pid = some 0 then
        .passing name "daemon is not running (nothing can be stale)"
      else
        classifyStaleBinary
          ((systemField text "ExecMainStartTimestamp").bind (timestampEpoch date))
          (runningBinaryMtime mtime pid)
  | .exited status => .warning name s!"systemctl exited {status} (stale-binary check unknown)"
  | .unavailable e => .warning name s!"systemctl unavailable: {e}"

/-! ### Printing properties -/

/-- The line `key=value` of a property. -/
def propertyLine (property : String × String) : List Char :=
  property.1.toList ++ '=' :: property.2.toList

/-- What the command prints for properties, in this order. -/
def showProperties (properties : List (String × String)) : String :=
  String.ofList (properties.flatMap fun property => propertyLine property ++ ['\n'])

/-- Printable as a line: no name has an equals sign, and nothing ends a line. -/
structure Showable (property : String × String) : Prop where
  name : '=' ∉ property.1.toList
  line : '\n' ∉ propertyLine property
  plain : '\r' ∉ propertyLine property

/-! ### Reading back -/

theorem dropReturn_plain {line : List Char} (plain : '\r' ∉ line) : dropReturn line = line := by
  unfold dropReturn
  split
  · exact absurd List.mem_cons_self plain
  · rfl

theorem linesFrom_line {read line rest : List Char} (whole : '\n' ∉ line) (plain : '\r' ∉ line)
    (before : '\r' ∉ read) :
    linesFrom read (line ++ '\n' :: rest) = (read.reverse ++ line) :: linesFrom [] rest := by
  induction line generalizing read with
  | nil => simp [linesFrom, dropReturn_plain before]
  | cons c line ih =>
      rw [List.mem_cons, not_or] at whole plain
      have step : linesFrom read (c :: (line ++ '\n' :: rest))
          = linesFrom (c :: read) (line ++ '\n' :: rest) := by
        rw [linesFrom, if_neg (Ne.symm whole.1)]
      have before : '\r' ∉ c :: read := by
        rw [List.mem_cons, not_or]
        exact ⟨plain.1, before⟩
      rw [List.cons_append, step, ih whole.2 plain.2 before, List.reverse_cons, List.append_assoc]
      rfl

/-- Reading the lines of what was printed gives one line for each property. -/
theorem lines_showProperties {properties : List (String × String)}
    (showable : ∀ property ∈ properties, Showable property) :
    lines (showProperties properties) = properties.map propertyLine := by
  unfold lines showProperties
  rw [String.toList_ofList]
  induction properties with
  | nil => rfl
  | cons property properties ih =>
      have here := showable property List.mem_cons_self
      rw [List.flatMap_cons, List.append_assoc, List.singleton_append,
        linesFrom_line here.line here.plain List.not_mem_nil,
        ih fun p mem => showable p (.tail property mem)]
      rfl

/-- A name ends at the first equals sign. -/
theorem name_ends {name name' value value' : List Char} (plain : '=' ∉ name) (plain' : '=' ∉ name')
    (same : name ++ '=' :: value = name' ++ '=' :: value') : name = name' ∧ value = value' := by
  induction name generalizing name' with
  | nil =>
      cases name' with
      | nil => exact ⟨rfl, (List.cons.inj same).2⟩
      | cons c name' => exact absurd ((List.cons.inj same).1 ▸ List.mem_cons_self) plain'
  | cons c name ih =>
      cases name' with
      | nil => exact absurd ((List.cons.inj same).1 ▸ List.mem_cons_self) plain
      | cons c' name' =>
          obtain ⟨rfl, rest⟩ := List.cons.inj same
          obtain ⟨rfl, rfl⟩ :=
            ih (fun mem => plain (.tail c mem)) (fun mem => plain' (.tail c mem)) rest
          exact ⟨rfl, rfl⟩

/-- A line starts with the name of its property, and with no other. -/
theorem dropPrefix?_propertyLine {property : String × String} {key : String}
    (name : '=' ∉ property.1.toList) (plain : '=' ∉ key.toList) :
    (propertyLine property).dropPrefix? (key.toList ++ ['='])
      = if key = property.1 then some property.2.toList else none := by
  split
  · next same =>
      refine List.dropPrefix?_eq_some_iff.mpr ⟨key.toList ++ ['='], ?_, by simp⟩
      rw [same, propertyLine, List.append_assoc]
      rfl
  · next other =>
      cases found : (propertyLine property).dropPrefix? (key.toList ++ ['=']) with
      | none => rfl
      | some value =>
          obtain ⟨start, split, same⟩ := List.dropPrefix?_eq_some_iff.mp found
          rw [eq_of_beq same, List.append_assoc] at split
          exact absurd (String.toList_inj.mp (name_ends plain name split.symm).1) other

/-- A field is read back as the first property of its name. -/
theorem lineValue_showProperties {properties : List (String × String)} {key : String}
    (showable : ∀ property ∈ properties, Showable property) (plain : '=' ∉ key.toList) :
    lineValue key (showProperties properties) = (properties.lookup key).map trim := by
  unfold lineValue
  rw [lines_showProperties showable]
  induction properties with
  | nil => rfl
  | cons property properties ih =>
      have here := showable property List.mem_cons_self
      have rest := ih fun p mem => showable p (.tail property mem)
      rw [List.map_cons, List.findSome?_cons, dropPrefix?_propertyLine here.name plain]
      obtain ⟨name, value⟩ := property
      rw [List.lookup_cons]
      by_cases same : key = name
      · simp [same]
      · rw [if_neg same, beq_eq_false_iff_ne.mpr same]
        exact rest

/-- What makes a loaded unit a failure: it does not notify, or its watchdog is not armed. -/
def Misconfigured (property : String → String) : Prop :=
  property "LoadState" = "loaded" ∧
    ¬ (property "Type" = "notify" ∧ property "WatchdogUSec" ∉ ["", "0", "infinity"])

theorem classifySystemdShow_fail_iff {text : String} :
    (classifySystemdShow text).status = .fail ↔ Misconfigured fun key => showField key text := by
  unfold classifySystemdShow Misconfigured
  simp only [List.mem_cons, List.not_mem_nil, or_false, not_or]
  split
  · next unloaded => exact ⟨fun eq => (by cases eq), fun bad => absurd bad.1 unloaded⟩
  · next loaded =>
      split
      · next good => exact ⟨fun eq => (by cases eq), fun bad => absurd good bad.2⟩
      · next bad => exact ⟨fun _ => ⟨Decidable.not_not.mp loaded, bad⟩, fun _ => rfl⟩

/-- Whatever properties the unit has, and in whatever order they are printed, its check fails
exactly if it is loaded and either does not notify or has no watchdog armed. -/
theorem systemdCheck_showProperties {properties : List (String × String)}
    (showable : ∀ property ∈ properties, Showable property) :
    (systemdCheck (.ok (showProperties properties))).status = .fail ↔
      Misconfigured fun key => trim ((properties.lookup key).getD "") := by
  have fields {key : String} (plain : '=' ∉ key.toList) :
      showField key (showProperties properties) = trim ((properties.lookup key).getD "") := by
    unfold showField
    rw [lineValue_showProperties showable plain]
    cases properties.lookup key with
    | none => rfl
    | some value => rfl
  refine classifySystemdShow_fail_iff.trans ?_
  unfold Misconfigured
  beta_reduce
  rw [fields (by decide), fields (by decide), fields (by decide)]

/-- A loaded unit that notifies, with its watchdog off. -/
def watchdogOff : List (String × String) :=
  [("Type", "notify"), ("WatchdogUSec", "0"), ("LoadState", "loaded")]

theorem watchdogOff_showable : ∀ property ∈ watchdogOff, Showable property := by
  intro property mem
  simp only [watchdogOff, List.mem_cons, List.not_mem_nil, or_false] at mem
  obtain rfl | rfl | rfl := mem <;> exact ⟨by decide, by decide, by decide⟩

theorem systemdCheck_showProperties_off :
    (systemdCheck (.ok (showProperties watchdogOff))).status = .fail :=
  (systemdCheck_showProperties watchdogOff_showable).mpr
    ⟨by decide +kernel, by decide +kernel⟩

end Afanctl
