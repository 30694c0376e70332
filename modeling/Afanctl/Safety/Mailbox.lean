import Afanctl.Cli.Channel
import Afanctl.Safety.Authority
import Afanctl.Safety.Errors
import Mathlib.Data.List.Chain

/-!
`cmd.json` as a mailbox between the verbs and the daemon.

Any number of verbs publish commands while the daemon polls; between its open of the file and
its read of it verbs may go on. Under mutual exclusion of the verbs what the daemon takes is a
selection of what was published, in order and each at most once; the mode is the one that the
last command it did not refuse asked for; and an undisturbed poll brings the last publication
into force.
-/

namespace Afanctl

open Afanctl.Lib

/-! ### The path and its readers -/

namespace Publish.State

variable {ι ρ : Type} [DecidableEq ι] [DecidableEq ρ] {body : ι → Bytes} {previous : Option Bytes}
  {s : State ι ρ}

/-- The calls that an act publishes. -/
def publishers (act : Act ι ρ) (s : State ι ρ) : List ι :=
  (s.out act).filterMap fun
    | .renamed i _ => some i
    | .read _ => none

/-- No act writes to a sealed inode. -/
theorem Orderly.content_kept (orderly : Orderly body previous s) (act : Act ι ρ) {k : Nat}
    (isSealed : Sealed body previous s.dir k) :
    (s.next body act).dir.content k = s.dir.content k := by
  have apart : ∀ {i handle}, s.phase i = .opened handle → k ≠ handle := by
    rintro i handle at_ rfl
    exact isSealed.apart (orderly.opened at_).1
  cases act with
  | step i =>
      cases at_ : s.phase i with
      | start =>
          simp only [State.next, step_start at_]
          exact (Dir.create_content isSealed.below isSealed.apart).2
      | opened handle =>
          simp only [State.next, step_opened at_]
          exact Dir.write_content_of_ne (apart at_)
      | written =>
          obtain ⟨tmp, named, -⟩ := orderly.tmp_of_written at_
          obtain ⟨d, renamed, -, content, -⟩ := Dir.rename_of_names named .path
          simp only [State.next, step_written at_, renamed]
          exact congrFun content k
      | returned ok => simp only [State.next, State.step, at_]
      | dead => simp only [State.next, State.step, at_]
  | fail i wrote =>
      cases at_ : s.phase i with
      | opened handle =>
          simp only [State.next, State.fail, at_]
          exact Dir.write_content_of_ne (apart at_)
      | start | written | returned ok | dead => simp only [State.next, State.fail, at_, State.enter]
  | die i =>
      simp only [State.next, State.die]
      split <;> rfl
  | openRead r | read r => rfl

/-- Only a rename changes what the path names. -/
theorem names_kept {act : Act ι ρ} (quiet : s.publishers act = [])
    (orderly : Orderly body previous s) :
    (s.next body act).dir.names .path = s.dir.names .path := by
  cases act with
  | step i =>
      cases at_ : s.phase i with
      | start =>
          simp only [next, step_start at_]
          exact Dir.create_names_of_ne nofun
      | opened handle =>
          simp only [next, step_opened at_]
          rfl
      | written =>
          obtain ⟨d, renamed, -⟩ := orderly.renamed at_
          simp [publishers, out, at_, renamed] at quiet
      | returned ok => simp only [next, step, at_]
      | dead => simp only [next, step, at_]
  | fail i wrote =>
      cases at_ : s.phase i with
      | opened handle => simp only [next, fail, at_]; rfl
      | start | written | returned ok | dead => simp only [next, fail, at_, enter]
  | die i =>
      simp only [next, die]
      split <;> rfl
  | openRead r | read r => rfl

/-- The path holds the last published body. -/
theorem Orderly.path_next (orderly : Orderly body previous s) (act : Act ι ρ) :
    (s.next body act).dir.read .path
      = ((s.publishers act).map body).getLast?.or (s.dir.read .path) := by
  by_cases quiet : s.publishers act = []
  · have names : (s.next body act).dir.names .path = s.dir.names .path := names_kept quiet orderly
    rw [quiet]
    cases named : s.dir.names .path with
    | none =>
        rw [named] at names
        simp [Dir.read, names, named]
    | some k =>
        have kept := orderly.content_kept act (orderly.published named)
        rw [named] at names
        simp [Dir.read, names, named, kept]
  · cases act with
    | step i =>
        cases at_ : s.phase i with
        | written =>
            obtain ⟨d, renamed, path, -⟩ := orderly.renamed at_
            have publishes : s.publishers (.step i) = [i] := by
              simp [publishers, out, at_, renamed]
            rw [publishes]
            simp only [State.next, step_written at_, renamed]
            exact path
        | start | opened handle | returned ok | dead =>
            exact absurd (by simp [publishers, out, at_]) quiet
    | openRead r =>
        refine absurd ?_ quiet
        simp only [publishers, out]
        split <;> rfl
    | read r =>
        refine absurd ?_ quiet
        simp only [publishers, out]
        split <;> rfl
    | fail i wrote | die i => exact absurd rfl quiet

/-- What a reader holds it held before, or opened at the path. -/
theorem handle_next {act : Act ι ρ} {r : ρ} {k : Nat}
    (held : (s.next body act).handle r = some k) :
    s.handle r = some k ∨ s.dir.names .path = some k := by
  have step : ∀ i, (s.step body i).handle = s.handle := by
    intro i
    unfold State.step
    split <;> try rfl
    split <;> rfl
  have fail : ∀ i wrote, (s.fail body i wrote).handle = s.handle := by
    intro i wrote
    unfold State.fail
    split <;> rfl
  have die : ∀ i, (s.die i).handle = s.handle := by
    intro i
    unfold State.die
    split <;> rfl
  cases act with
  | step i => exact .inl (step i ▸ held)
  | fail i wrote => exact .inl (fail i wrote ▸ held)
  | die i => exact .inl (die i ▸ held)
  | openRead r' | read r' =>
      by_cases same : r = r'
      · subst same
        simp only [next, hold, Function.update_self] at held
        first | exact .inr held | cases held
      · simp only [next, hold, Function.update_of_ne same] at held
        exact .inl held

end Publish.State

/-! ### The verbs and the daemon -/

/-- What `read_to_string` makes of the bytes of an opened file. -/
def decode (bytes : Publish.Bytes) : CmdFile :=
  match String.fromUTF8? ⟨bytes.toArray⟩ with
  | some raw => .content raw
  | none => .unreadable "stream did not contain valid UTF-8"

theorem decode_utf8 (text : String) : decode (utf8 text) = .content text := by
  simp only [decode, fromUTF8_utf8]

theorem decode_content {bytes : Publish.Bytes} {raw : String} (read : decode bytes = .content raw) :
    bytes = utf8 raw := by
  unfold decode String.fromUTF8? at read
  split at read
  · next text found =>
      cases read
      split at found
      · cases found
        simp [utf8, String.fromUTF8]
      · cases found
  · cases read

theorem utf8_injective : Function.Injective utf8 := by
  intro text other same
  have read := decode_utf8 text
  rw [same, decode_utf8] at read
  exact (CmdFile.content.inj read).symm

/-- The runtime directory with the verbs `ι`, and the daemon that reads it. -/
structure Shared (ι σ : Type) where
  channel : Publish.State ι Unit
  daemon : Supervisor σ

/-- What happens next: a verb goes on, fails or dies, the daemon opens `cmd.json` for the poll
that follows, or the poll takes place. A fault is what its read of the file may fail with. -/
inductive Turn (ι : Type) where
  | step (i : ι)
  | fail (i : ι) (wrote : Nat)
  | die (i : ι)
  | openCmd
  | poll (host : Host) (fault : Option String)

/-- What a turn does to the directory. -/
def Turn.act {ι : Type} : Turn ι → Publish.Act ι Unit
  | .step i => .step i
  | .fail i wrote => .fail i wrote
  | .die i => .die i
  | .openCmd => .openRead ()
  | .poll _ _ => .read ()

/-- What passes through the mailbox. -/
inductive Passing (ι : Type) where
  | published (i : ι)
  | took (raw : String)
  deriving DecidableEq, Repr

namespace Passing

variable {ι : Type}

def publisher : Passing ι → Option ι
  | .published i => some i
  | .took _ => none

def command : Passing ι → Option String
  | .published _ => none
  | .took raw => some raw

end Passing

namespace Shared

variable {ι σ : Type}

/-- What a poll finds at the file it has opened. -/
def found (fault : Option String) (s : Shared ι σ) : CmdFile :=
  match fault, s.channel.handle () with
  | some e, _ => .unreadable e
  | none, none => .absent
  | none, some k => decode (s.channel.dir.content k)

variable [DecidableEq ι] [Smc σ] [SerdeJson] (text : ι → String)

def next : Turn ι → Shared ι σ → Shared ι σ
  | turn, s =>
    { channel := s.channel.next (fun i => utf8 (text i)) turn.act
      daemon := match turn with
        | .poll host fault => s.daemon.next { host with cmd := s.found fault }
        | _ => s.daemon }

def out : Turn ι → Shared ι σ → List (Passing ι)
  | .poll host fault, s => (s.daemon.taken { host with cmd := s.found fault }).toList.map .took
  | turn, s => (s.channel.publishers turn.act).map .published

/-- The verbs and the daemon as a machine. -/
def mailbox : Machine (Turn ι) (Shared ι σ) (Passing ι) where
  next := next text
  out := out

/-- No verb opens the tmp file while another is in flight. -/
def Exclusive (turn : Turn ι) (s : Shared ι σ) : Prop := s.channel.Exclusive turn.act

instance (turn : Turn ι) (s : Shared ι σ)
    [Decidable (∀ j, (s.channel.phase j).inFlight = false)] : Decidable (Exclusive turn s) :=
  inferInstanceAs (Decidable (s.channel.Exclusive turn.act))

end Shared

/-! ### A poll and its command -/

/-- A daemon heeds a request unless it asks for control and there is no L2. -/
def heeds (absent : Bool) (requested : RunMode) : Bool := decide (requested = .observe) || !absent

theorem Custody.Obeys.mode_next {command : Option RunMode} {c c' : Custody} {es : List Event}
    (obeys : Custody.Obeys command c es c') :
    c'.mode = (command.filter (heeds c.l2Absent)).getD c.mode := by
  cases obeys with
  | ignored => rfl
  | refused control absent => simp [Option.filter, heeds, control, absent]
  | accepted control proven => simp [Option.filter, heeds, proven, (c.accepting_kept _).1]
  | already observes => simp [Option.filter, heeds, observes]
  | left | released | releaseFailed => simp [Option.filter, heeds]

/-- The mode that commands leave, taken one after the other. -/
def modeAfter [SerdeJson] (absent : Bool) (first : RunMode) (commands : List String) :
    RunMode :=
  ((commands.filterMap fun raw => (parseCmd raw).toOption).filter
    (heeds absent)).getLast?.getD first

/-- A heeded command that comes last leaves the mode that it asks for. -/
theorem modeAfter_heeded [SerdeJson] {absent : Bool} {first requested : RunMode}
    {commands : List String} {raw : String} (last : commands.getLast? = some raw)
    (parsed : parseCmd raw = .ok requested) (heeded : heeds absent requested) :
    modeAfter absent first commands = requested := by
  obtain ⟨before, rfl⟩ := List.getLast?_eq_some_iff.mp last
  simp [modeAfter, List.filterMap_append, List.filter_append, parsed, Except.toOption, heeded]

namespace Supervisor

variable {σ : Type} [Smc σ] [SerdeJson] {host : Host} {s : Supervisor σ} {raw : String}

omit [Smc σ] in
theorem taken_some (took : s.taken host = some raw) :
    host.cmd = .content raw ∧ s.lastCmd ≠ some raw ∧
      ∃ requested, parseCmd raw = .ok requested ∧ s.freshCommand host = some requested := by
  unfold taken at took
  split at took
  · next requested found fresh cmd =>
      cases took
      have parsed := fresh
      simp only [freshCommand, cmd] at parsed
      split at parsed
      · cases parsed
      · next new =>
          refine ⟨cmd, new, requested, ?_, fresh⟩
          cases read : parseCmd raw with
          | error e => simp [read, Except.toOption] at parsed
          | ok mode => simpa [read, Except.toOption] using parsed
  · cases took

omit [Smc σ] in
theorem taken_none (took : s.taken host = none) : s.freshCommand host = none := by
  cases fresh : s.freshCommand host with
  | none => rfl
  | some requested =>
      cases cmd : host.cmd with
      | content raw => simp [taken, fresh, cmd] at took
      | absent | unreadable e => simp [freshCommand, cmd] at fresh

/-- The mode after a poll is the one that its command asks for, if it heeds one. -/
theorem next_mode (host : Host) (sound : s.Sound) :
    (s.next host).mode = ((s.freshCommand host).filter (heeds s.l2Absent)).getD s.mode :=
  (commanded_mode host sound).symm.trans (commanded_obeys host s).mode_next

end Supervisor

/-! ### What passes, in order -/

section Selection

variable {α : Type}

/-- A selection that does not end in the last element can take it. -/
theorem sublist_concat {taken given : List α} {a : α} (among : taken.Sublist given)
    (last : given.getLast? = some a) (new : taken.getLast? ≠ some a) :
    (taken ++ [a]).Sublist given := by
  obtain ⟨before, rfl⟩ := List.getLast?_eq_some_iff.mp last
  obtain ⟨front, back, rfl, first, second⟩ := List.sublist_append_iff.mp among
  rcases List.sublist_singleton.mp second with rfl | rfl
  · rw [List.append_nil]
    exact first.append (List.Sublist.refl [a])
  · simp at new

end Selection

namespace Shared

variable {ι σ : Type} [DecidableEq ι] [Smc σ] [SerdeJson] {text : ι → String}

/-- Where the mailbox stands, when `given` has been published and `took` been taken. -/
structure Ordered (text : ι → String) (previous : Option Publish.Bytes) (absent : Bool)
    (first : RunMode) (given : List Publish.Bytes) (took : List String) (s : Shared ι σ) :
    Prop where
  orderly : s.channel.Orderly (fun i => utf8 (text i)) previous
  path : s.channel.dir.read .path = given.getLast?
  delivered : (took.map utf8).Sublist given
  last : s.daemon.lastCmd = took.getLast?
  changes : took.IsChain (· ≠ ·)
  /-- what the daemon has opened had been published when it took its last command -/
  reading : ∀ k, s.channel.handle () = some k → ∃ before, before <+: given ∧
    before.getLast? = some (s.channel.dir.content k) ∧ (took.map utf8).Sublist before
  sound : s.daemon.Sound
  proven : s.daemon.l2Absent = absent
  mode : s.daemon.mode = modeAfter absent first took

namespace Ordered

variable {previous : Option Publish.Bytes} {absent : Bool} {first : RunMode}
  {given : List Publish.Bytes} {took : List String} {s : Shared ι σ}

omit [DecidableEq ι] [Smc σ] in
/-- Before any verb and any poll. -/
theorem start (fresh : s.channel.Fresh) (sound : s.daemon.Sound) (last : s.daemon.lastCmd = none) :
    Ordered text (s.channel.dir.read .path) s.daemon.l2Absent s.daemon.mode
      (s.channel.dir.read .path).toList [] s where
  orderly := fresh.orderly
  path := by cases s.channel.dir.read .path <;> rfl
  delivered := List.nil_sublist _
  last := last
  changes := .nil
  reading := fun k held => by rw [fresh.handle] at held; cases held
  sound := sound
  proven := rfl
  mode := rfl

omit [Smc σ] in
/-- A verb goes on, or the daemon opens the file. -/
theorem act (ordered : Ordered text previous absent first given took s)
    (act : Publish.Act ι Unit) (exclusive : s.channel.Exclusive act) :
    Ordered text previous absent first
      (given ++ (s.channel.publishers act).map fun i => utf8 (text i)) took
      { s with channel := s.channel.next (fun i => utf8 (text i)) act } where
  orderly := ordered.orderly.next exclusive
  path := by
    rw [List.getLast?_append, ← ordered.path]
    exact ordered.orderly.path_next act
  delivered := ordered.delivered.trans (List.sublist_append_left ..)
  last := ordered.last
  changes := ordered.changes
  reading := by
    intro k opened
    rcases Publish.State.handle_next opened with before | path
    · obtain ⟨seen, among, ends, taken⟩ := ordered.reading k before
      refine ⟨seen, among.trans (List.prefix_append ..), ?_, taken⟩
      rw [ends]
      exact congrArg some (ordered.orderly.content_kept act (ordered.orderly.reading before)).symm
    · refine ⟨given, List.prefix_append .., ?_, ordered.delivered⟩
      rw [← ordered.path, Dir.read_of_names path]
      exact congrArg some (ordered.orderly.content_kept act (ordered.orderly.published path)).symm
  sound := ordered.sound
  proven := ordered.proven
  mode := ordered.mode

omit [DecidableEq ι] [Smc σ] in
/-- What a poll takes is published, and comes after what was taken before. -/
theorem takes (ordered : Ordered text previous absent first given took s) {host : Host}
    {fault : Option String} {raw : String}
    (taken : s.daemon.taken { host with cmd := s.found fault } = some raw) :
    ((took ++ [raw]).map utf8).Sublist given ∧ took.getLast? ≠ some raw := by
  obtain ⟨cmd, new, -⟩ := Supervisor.taken_some taken
  have new : took.getLast? ≠ some raw := ordered.last ▸ new
  refine ⟨?_, new⟩
  have found : s.found fault = .content raw := cmd
  unfold Shared.found at found
  split at found
  · cases found
  · cases found
  · next k held =>
      obtain ⟨seen, among, ends, delivered⟩ := ordered.reading k held
      rw [decode_content found] at ends
      rw [List.map_append]
      refine (sublist_concat delivered ends ?_).trans among.sublist
      rw [List.getLast?_map]
      intro same
      obtain ⟨other, last, eq⟩ := Option.map_eq_some_iff.mp same
      exact new (last.trans (congrArg some (utf8_injective eq)))

/-- A poll. -/
theorem poll (ordered : Ordered text previous absent first given took s) (host : Host)
    (fault : Option String) :
    Ordered text previous absent first given
      (took ++ (s.daemon.taken { host with cmd := s.found fault }).toList)
      (s.next text (.poll host fault)) where
  orderly := ordered.orderly.next (show s.channel.Exclusive (.read ()) from trivial)
  path := ordered.path
  delivered := by
    cases taken : s.daemon.taken { host with cmd := s.found fault } with
    | none => simpa using ordered.delivered
    | some raw => exact (ordered.takes taken).1
  last := by
    have next := Supervisor.next_lastCmd { host with cmd := s.found fault } s.daemon
    rw [ordered.last] at next
    refine next.trans ?_
    rw [List.getLast?_append]
    cases s.daemon.taken { host with cmd := s.found fault } <;> rfl
  changes := by
    cases taken : s.daemon.taken { host with cmd := s.found fault } with
    | none => simpa using ordered.changes
    | some raw =>
        refine List.isChain_append.mpr ⟨ordered.changes, .singleton raw, ?_⟩
        intro last ends next head same
        cases head
        exact (ordered.takes taken).2 (same ▸ ends)
  reading := by
    intro k held
    simp [Shared.next, Turn.act, Publish.State.next, Publish.State.hold] at held
  sound := Supervisor.next_sound _ ordered.sound
  proven := (Supervisor.next_l2Absent _ ordered.sound).trans ordered.proven
  mode := by
    refine (Supervisor.next_mode { host with cmd := s.found fault } ordered.sound).trans ?_
    rw [ordered.proven, ordered.mode]
    cases taken : s.daemon.taken { host with cmd := s.found fault } with
    | none =>
        rw [Supervisor.taken_none taken]
        simp
    | some raw =>
        obtain ⟨-, -, requested, parsed, fresh⟩ := Supervisor.taken_some taken
        rw [fresh]
        unfold modeAfter
        rw [List.filterMap_append, List.filter_append, List.getLast?_append]
        by_cases heeded : heeds absent requested
        · simp [parsed, Except.toOption, heeded, Option.filter]
        · simp [parsed, Except.toOption, heeded, Option.filter]

/-- Every turn. -/
theorem turn (ordered : Ordered text previous absent first given took s) {turn : Turn ι}
    (exclusive : Exclusive turn s) :
    Ordered text previous absent first
      (given ++ ((s.out turn).filterMap Passing.publisher).map fun i => utf8 (text i))
      (took ++ (s.out turn).filterMap Passing.command) (s.next text turn) := by
  have verb : ∀ act, s.channel.Exclusive act → Ordered text previous absent first
      (given ++ (((s.channel.publishers act).map Passing.published).filterMap
        Passing.publisher).map fun i => utf8 (text i))
      (took ++ ((s.channel.publishers act).map Passing.published).filterMap Passing.command)
      { s with channel := s.channel.next (fun i => utf8 (text i)) act } := by
    intro act exclusive
    have published : ∀ is : List ι, (is.map Passing.published).filterMap Passing.publisher = is ∧
        (is.map Passing.published).filterMap Passing.command = [] := by
      intro is
      simp [List.filterMap_map, Function.comp_def, Passing.publisher, Passing.command]
    rw [(published _).1, (published _).2, List.append_nil]
    exact ordered.act act exclusive
  cases turn with
  | step i => exact verb _ exclusive
  | fail i wrote => exact verb _ exclusive
  | die i => exact verb _ exclusive
  | openCmd => exact verb _ exclusive
  | poll host fault =>
      have polled := ordered.poll host fault
      have taken : ∀ taken : Option String,
          (taken.toList.map Passing.took).filterMap (Passing.publisher (ι := ι)) = [] ∧
            (taken.toList.map Passing.took).filterMap (Passing.command (ι := ι))
              = taken.toList := by
        rintro (- | raw) <;> exact ⟨rfl, rfl⟩
      simp only [Shared.out]
      rw [(taken _).1, (taken _).2, List.map_nil, List.append_nil]
      exact polled

/-- A poll whose read does not fail takes the last publication, if it has not been taken. -/
theorem undisturbed (ordered : Ordered text previous absent first given took s) {raw : String}
    {requested : RunMode} (last : given.getLast? = some (utf8 raw))
    (parsed : parseCmd raw = .ok requested) (host : Host) :
    let polled := (mailbox text).run [.openCmd, .poll host none] s
    polled.daemon.lastCmd = some raw ∧
      (heeds absent requested → polled.daemon.mode = requested) := by
  intro polled
  have opened := ordered.act (.openRead ()) trivial
  have ends := opened.poll host none
  have read := ordered.path.trans last
  obtain ⟨k, named, content⟩ := Option.map_eq_some_iff.mp read
  have found : Shared.found none { s with
      channel := s.channel.next (fun i => utf8 (text i)) (.openRead ()) } = .content raw := by
    simp [Shared.found, Publish.State.next, Publish.State.hold, named, content, decode_utf8]
  rw [found] at ends
  have taken : (took ++ (s.daemon.taken { host with cmd := .content raw }).toList).getLast?
      = some raw := by
    rw [List.getLast?_append, ← ordered.last]
    by_cases again : s.daemon.lastCmd = some raw
    · simp [Supervisor.taken, Supervisor.freshCommand, again]
    · simp [Supervisor.taken, Supervisor.freshCommand, again, parsed, Except.toOption]
  exact ⟨ends.last.trans taken,
    fun heeded => ends.mode.trans (modeAfter_heeded taken parsed heeded)⟩

end Ordered

/-- In every interleaving of verbs with the daemon in which no verb opens the tmp file while
another is in flight, from construction on: what the daemon takes was published, in that order
and each publication once at most, and never twice the same in a row; its mode is what the
last command it did not refuse asked for; and a poll that can read the file brings the last
publication into force. -/
theorem commands_delivered {smc : σ} {cfg : ResolvedConfig} {start : RunMode}
    {paths : RuntimePaths} {built : Supervisor σ} {boot : Host} {s : Shared ι σ}
    (text : ι → String) (wired : Supervisor.new smc cfg start paths = .ok built)
    (started : s.daemon = built.start boot) (fresh : s.channel.Fresh) {turns : List (Turn ι)}
    (exclusive : (mailbox text).Along Exclusive turns s) :
    let passed := (mailbox text).trace turns s
    let after := (mailbox text).run turns s
    let given := (s.channel.dir.read .path).toList
      ++ (passed.filterMap Passing.publisher).map fun i => utf8 (text i)
    let took := passed.filterMap Passing.command
    (took.map utf8).Sublist given ∧ took.IsChain (· ≠ ·) ∧
      after.daemon.lastCmd = took.getLast? ∧
      after.daemon.mode = modeAfter s.daemon.l2Absent s.daemon.mode took ∧
      ∀ raw requested host, given.getLast? = some (utf8 raw) → parseCmd raw = .ok requested →
        let polled := (mailbox text).run [.openCmd, .poll host none] after
        polled.daemon.lastCmd = some raw ∧
          (heeds s.daemon.l2Absent requested → polled.daemon.mode = requested) := by
  intro passed after given took
  have up := Supervisor.started_startsUp boot (Supervisor.new_unowned wired).1
  have sound : s.daemon.Sound := started ▸ up.unowned.sound up.observes
  have untaken : s.daemon.lastCmd = none := by
    rw [started]
    refine (Frame.reports_startup (built.frame boot)).cmd.trans ?_
    rw [(Supervisor.new_eq_ok.mp wired).2]
    rfl
  have ordered : Ordered text (s.channel.dir.read .path) s.daemon.l2Absent s.daemon.mode given took
      after := by
    have begun : (mailbox text).Reach (fun t os => t = s ∧ os = []) Exclusive s [] :=
      .start ⟨rfl, rfl⟩
    refine (begun.run exclusive).invariant (I := fun t os => Ordered text (s.channel.dir.read .path)
      s.daemon.l2Absent s.daemon.mode ((s.channel.dir.read .path).toList
        ++ (os.filterMap Passing.publisher).map fun i => utf8 (text i))
      (os.filterMap Passing.command) t) ?_ ?_
    · rintro t os ⟨rfl, rfl⟩
      simpa using Ordered.start fresh sound untaken
    · intro turn t os allowed ordered
      rw [List.filterMap_append, List.filterMap_append, List.map_append, ← List.append_assoc]
      exact ordered.turn allowed
  exact ⟨ordered.delivered, ordered.changes, ordered.last, ordered.mode,
    fun raw requested host last parsed => ordered.undisturbed last parsed host⟩

end Shared

section Concrete

attribute [local instance] flatJson flatJson_standard

namespace Shared

/-- A verb that holds 3000 rpm, and one that goes back to the curve. -/
def asking : Bool → String
  | false => cmdBody "hold" (some 3000)
  | true => cmdBody "curve" none

/-- A daemon that was built to observe. -/
def observing : Supervisor Bench := .wired Bench.healthy Bench.config .observe Bench.paths

theorem observing_built :
    Supervisor.new Bench.healthy Bench.config .observe Bench.paths = .ok observing :=
  Supervisor.new_eq_ok.mpr ⟨Bench.config_valid, rfl⟩

/-- They share an empty directory with it. -/
def shared : Shared Bool Bench where
  channel := Publish.State.empty
  daemon := observing.start Bench.quiet

/-- The curve is published between the open and the read of a poll. -/
def overtaken : List (Turn Bool) :=
  [.step false, .step false, .step false, .openCmd, .step true, .step true, .step true,
    .poll Bench.quiet none]

theorem overtaken_passed :
    (mailbox asking).trace overtaken shared
      = [.published false, .published true, .took (cmdBody "hold" (some 3000))] := by
  decide +kernel

theorem overtaken_exclusive : (mailbox asking).Along Exclusive overtaken shared := by
  decide +kernel

/-- That poll still takes the hold; the next one takes the curve. -/
theorem commands_delivered_overtaken :
    ((mailbox asking).run overtaken shared).daemon.mode = .hold 3000 ∧
      ((mailbox asking).run [.openCmd, .poll Bench.quiet none]
        ((mailbox asking).run overtaken shared)).daemon.mode = .curve := by
  obtain ⟨-, -, -, mode, undisturbed⟩ :=
    commands_delivered asking observing_built (rfl : shared.daemon = _)
      Publish.State.empty_fresh overtaken_exclusive
  have holds : modeAfter shared.daemon.l2Absent shared.daemon.mode
      (((mailbox asking).trace overtaken shared).filterMap Passing.command) = .hold 3000 := by
    rw [overtaken_passed]
    decide +kernel
  have last : ((shared.channel.dir.read .path).toList
      ++ (((mailbox asking).trace overtaken shared).filterMap Passing.publisher).map fun i =>
        utf8 (asking i)).getLast? = some (utf8 (cmdBody "curve" none)) := by
    rw [overtaken_passed]
    rfl
  have proven : heeds shared.daemon.l2Absent .curve := by decide +kernel
  constructor
  · exact mode.trans holds
  · have polled := undisturbed _ .curve Bench.quiet last parse_curve
    exact polled.2 proven

end Shared

end Concrete

end Afanctl
