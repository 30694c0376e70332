import Mathlib.Data.List.Perm.Subperm
import Afanctl.Lib.Machine
import Afanctl.Sysfs.World

/-!
The process that the death path belongs to.

The daemon is one thread, which signals interrupt between any two of its instructions. A
handler is interrupted by the other signals in turn, and gives its own signal back to the
system once it has written. A panic runs the hooks and unwinds. So the instants at which the
process can be hit are those of its own code, those of the installation and those of every
handler; a schedule says what happens at each. The fatal signals that the death path does not
catch end the process at once.
-/

namespace Afanctl

open Afanctl.Lib

/-! ### Instructions -/

/-- The signals that the death path catches. Each of them ends a process by default. -/
inductive Signal where
  | segv
  | abrt
  | term
  | int
  deriving DecidableEq, Repr

def Signal.all : List Signal := [.segv, .abrt, .term, .int]

/-- The signals that end a process by default and that the death path leaves alone. SIGKILL could
not be caught; SIGPIPE, which the runtime ignores, is not among them. -/
inductive Uncaught where
  | hup
  | quit
  | ill
  | trap
  | bus
  | fpe
  | kill
  | usr1
  | usr2
  | alrm
  | poll
  | prof
  | sys
  | vtalrm
  | xcpu
  | xfsz
  | stkflt
  | pwr
  /-- SIGRTMIN and those above it -/
  | rt (n : Nat)
  deriving DecidableEq, Repr

/-- What the code of the process does, in order. -/
inductive Instr where
  /-- a system call on the device -/
  | call (o : FileOp)
  /-- the descriptor is published where the handlers look for it -/
  | publish (restore : SafeRestore)
  /-- the restore hook is put before the panic hook there is, unless it was before -/
  | hook
  /-- the handler is installed for a signal -/
  | sigaction (sig : Signal)

/-- Arming the death path. -/
def installDeathPath (restore : SafeRestore) : List Instr :=
  .publish restore :: .hook :: Signal.all.map .sigaction

/-! ### The process -/

/-- How far a handler has come. -/
inductive Phase where
  | entered
  /-- it has written the restore bytes -/
  | wrote
  /-- it has given the signal back to the system -/
  | reset
  /-- it has raised the signal again, which waits for its return -/
  | raised
  deriving DecidableEq, Repr

/-- A running handler. Its signal is blocked. -/
structure Handler where
  sig : Signal
  phase : Phase
  deriving DecidableEq, Repr

/-- How a process ends before its code does. -/
inductive Ending where
  | signalled (sig : Signal)
  | uncaught (sig : Uncaught)
  | panicked
  deriving DecidableEq, Repr

/-- What the system sees of a process: its calls, and the writes of its death path. -/
inductive Act where
  | called (o : FileOp)
  | restored (restore : SafeRestore)

structure Process where
  /-- what its code has still to do -/
  code : List Instr
  /-- the published descriptor -/
  armed : Option SafeRestore
  hooked : Bool
  /-- how many restore hooks stand before the standard one -/
  hooks : Nat
  /-- the signals whose disposition is the handler -/
  caught : List Signal
  /-- the running handlers, the innermost first -/
  handlers : List Handler
  unwinding : Bool
  ended : Option Ending
  log : List Act

/-- What happens next. -/
inductive Choice where
  /-- what runs goes on by one instruction -/
  | step
  | signal (sig : Signal)
  | uncaught (sig : Uncaught)
  | panic

namespace Process

/-- A process with all of its code ahead. -/
def fresh (code : List Instr) : Process where
  code := code
  armed := none
  hooked := false
  hooks := 0
  caught := []
  handlers := []
  unwinding := false
  ended := none
  log := []

/-- What the death path writes, so many times: nothing without a usable descriptor. -/
def restores (armed : Option SafeRestore) (n : Nat) : List SafeRestore :=
  match armed with
  | some restore => if 0 ≤ restore.fd then List.replicate n restore else []
  | none => []

/-- The death write. -/
def writeRestore (p : Process) : Process :=
  { p with log := p.log ++ (restores p.armed 1).map .restored }

/-- One instruction of the code. -/
def exec (i : Instr) (p : Process) : Process :=
  match i with
  | .call o => { p with log := p.log ++ [.called o] }
  | .publish restore => { p with armed := some restore }
  | .hook => if p.hooked then p else { p with hooked := true, hooks := p.hooks + 1 }
  | .sigaction sig => { p with caught := sig :: p.caught }

/-- One instruction of the innermost handler. On its return the signal it raised is
delivered. -/
def onSignal (h : Handler) (outer : List Handler) (p : Process) : Process :=
  match h.phase with
  | .entered => { p.writeRestore with handlers := ⟨h.sig, .wrote⟩ :: outer }
  | .wrote =>
      { p with caught := p.caught.filter (· ≠ h.sig), handlers := ⟨h.sig, .reset⟩ :: outer }
  | .reset => { p with handlers := ⟨h.sig, .raised⟩ :: outer }
  | .raised =>
      if h.sig ∈ p.caught then { p with handlers := ⟨h.sig, .entered⟩ :: outer }
      else { p with ended := some (.signalled h.sig) }

/-- What runs goes on: the innermost handler, else the unwinding, else the code. -/
def advance (p : Process) : Process :=
  match p.handlers with
  | h :: outer => p.onSignal h outer
  | [] =>
      if p.unwinding then { p with ended := some .panicked }
      else match p.code with
        | [] => p
        | i :: rest => { p.exec i with code := rest }

/-- A signal: blocked while its handler runs, caught, or the end. -/
def deliver (sig : Signal) (p : Process) : Process :=
  if sig ∈ p.handlers.map (·.sig) then p
  else if sig ∈ p.caught then { p with handlers := ⟨sig, .entered⟩ :: p.handlers }
  else { p with ended := some (.signalled sig) }

/-- A panic of the code runs every hook, and unwinds. -/
def panic (p : Process) : Process :=
  if p.handlers = [] ∧ p.unwinding = false then
    { p with log := p.log ++ (restores p.armed p.hooks).map .restored, unwinding := true }
  else p

def next (c : Choice) (p : Process) : Process :=
  if p.ended = none then
    match c with
    | .step => p.advance
    | .signal sig => p.deliver sig
    | .uncaught sig => { p with ended := some (.uncaught sig) }
    | .panic => p.panic
  else p

/-- The process under a schedule. -/
def machine : Machine Choice Process Unit where
  next := next
  out _ _ := []

/-! ### What a process stands on -/

/-- The calls of code. -/
def calls (code : List Instr) : List FileOp :=
  code.filterMap fun i => match i with
    | .call o => some o
    | _ => none

/-- The descriptor that code publishes last. -/
def published (code : List Instr) : Option SafeRestore :=
  (code.filterMap fun i => match i with
    | .publish restore => some restore
    | _ => none).getLast?

/-- The death writes there have been: one for each handler past its write, and those of the
hooks. -/
def deathWrites (p : Process) : Nat :=
  p.handlers.countP (·.phase ≠ .entered) + if p.unwinding then p.hooks else 0

/-- Where a process stands that has done this much of its code. -/
structure Stands (done : List Instr) (p : Process) : Prop where
  armed : p.armed = published done
  hooked : p.hooked = true ↔ Instr.hook ∈ done
  hooks : p.hooks = if p.hooked then 1 else 0
  caught : ∀ sig, (sig ∈ p.caught ∨ sig ∈ p.handlers.map (·.sig)) ↔ Instr.sigaction sig ∈ done
  /-- a signal given back is not caught again -/
  reset : ∀ h ∈ p.handlers, h.phase = .reset ∨ h.phase = .raised → h.sig ∉ p.caught
  nodup : (p.handlers.map (·.sig)).Nodup
  log : p.log = (calls done).map .called ++ (restores p.armed p.deathWrites).map .restored
  signalled : ∀ sig, p.ended = some (.signalled sig) →
    Instr.sigaction sig ∉ done ∨ ∃ h ∈ p.handlers, h.phase = .raised
  panicked : p.ended = some .panicked → p.unwinding = true

@[simp] theorem restores_zero (armed : Option SafeRestore) : restores armed 0 = [] := by
  unfold restores
  split
  · split <;> rfl
  · rfl

theorem restores_add (armed : Option SafeRestore) (m n : Nat) :
    restores armed (m + n) = restores armed m ++ restores armed n := by
  unfold restores
  split
  · split
    · exact List.replicate_add m n _
    · rfl
  · rfl

theorem restores_length (armed : Option SafeRestore) (n : Nat) : (restores armed n).length ≤ n := by
  unfold restores
  split
  · split
    · exact Nat.le_of_eq List.length_replicate
    · exact Nat.zero_le n
  · exact Nat.zero_le n

/-- Only a usable descriptor is written to. -/
theorem mem_restores {armed : Option SafeRestore} {n : Nat} {restore : SafeRestore}
    (mem : restore ∈ restores armed n) : armed = some restore ∧ 0 ≤ restore.fd := by
  unfold restores at mem
  split at mem
  · split at mem
    · next usable =>
        rw [List.eq_of_mem_replicate mem]
        exact ⟨rfl, usable⟩
    · cases mem
  · cases mem

theorem restores_ne_nil {restore : SafeRestore} {n : Nat} (usable : 0 ≤ restore.fd) (some : 0 < n) :
    restores (.some restore) n ≠ [] := by
  simp only [restores, usable, if_true]
  rw [ne_eq, List.replicate_eq_nil_iff]
  exact Nat.ne_of_gt some

namespace Stands

variable {done : List Instr} {p : Process}

/-- Where nothing interrupts the code, no death write has been made. -/
theorem of_free (free : p.handlers = []) (calm : p.unwinding = false) (alive : p.ended = none)
    (armed : p.armed = published done) (hooked : p.hooked = true ↔ Instr.hook ∈ done)
    (hooks : p.hooks = if p.hooked then 1 else 0)
    (caught : ∀ sig, sig ∈ p.caught ↔ Instr.sigaction sig ∈ done)
    (log : p.log = (calls done).map .called) : Stands done p where
  armed := armed
  hooked := hooked
  hooks := hooks
  caught := by simpa [free] using caught
  reset := by simp [free]
  nodup := by simp [free]
  log := by simp [deathWrites, free, calm, log]
  signalled := by simp [alive]
  panicked := by simp [alive]

theorem of_fresh (code : List Instr) : Stands [] (fresh code) :=
  of_free rfl rfl rfl rfl (by simp [fresh]) rfl (by simp [fresh]) rfl

theorem ending (stands : Stands done p) (how : Ending)
    (signalled : ∀ sig, how = .signalled sig →
      Instr.sigaction sig ∉ done ∨ ∃ h ∈ p.handlers, h.phase = .raised)
    (panicked : how = .panicked → p.unwinding = true) :
    Stands done { p with ended := some how } where
  armed := stands.armed
  hooked := stands.hooked
  hooks := stands.hooks
  caught := stands.caught
  reset := stands.reset
  nodup := stands.nodup
  log := stands.log
  signalled := fun sig same => signalled sig (Option.some.inj same)
  panicked := fun same => panicked (Option.some.inj same)

/-- The code goes on only where nothing interrupts it. -/
theorem exec (stands : Stands done p) (i : Instr) (rest : List Instr) (free : p.handlers = [])
    (calm : p.unwinding = false) (alive : p.ended = none) :
    Stands (done ++ [i]) { p.exec i with code := rest } := by
  have log : p.log = (calls done).map .called := by
    rw [stands.log]
    simp [deathWrites, free, calm]
  have caught (sig : Signal) : sig ∈ p.caught ↔ Instr.sigaction sig ∈ done := by
    rw [← stands.caught sig]
    simp [free]
  have armed := stands.armed
  have hooked := stands.hooked
  cases i with
  | call o =>
      refine of_free free calm alive ?_ ?_ stands.hooks ?_ ?_
      · simpa [Process.exec, published] using armed
      · simpa [Process.exec] using hooked
      · simpa [Process.exec] using caught
      · simp [Process.exec, log, calls]
  | publish restore =>
      refine of_free free calm alive ?_ ?_ stands.hooks ?_ ?_
      · simp [Process.exec, published]
      · simpa [Process.exec] using hooked
      · simpa [Process.exec] using caught
      · simpa [Process.exec, calls] using log
  | hook =>
      cases before : p.hooked with
      | true =>
          simp only [Process.exec, before, if_true]
          refine of_free free calm alive ?_ ?_ (before ▸ stands.hooks) ?_ ?_
          · simpa [published] using armed
          · simp
          · simpa using caught
          · simpa [calls] using log
      | false =>
          have none := stands.hooks
          rw [before] at none
          simp only [Process.exec, before, Bool.false_eq_true, if_false]
          refine of_free free calm alive ?_ ?_ ?_ ?_ ?_
          · simpa [published] using armed
          · simp
          · simp [none]
          · simpa using caught
          · simpa [calls] using log
  | sigaction sig =>
      refine of_free free calm alive ?_ ?_ stands.hooks ?_ ?_
      · simpa [Process.exec, published] using armed
      · simpa [Process.exec] using hooked
      · intro sig'
        simp only [Process.exec, List.mem_cons, List.mem_append, caught, Instr.sigaction.injEq,
          List.not_mem_nil, or_false]
        exact or_comm
      · simpa [Process.exec, calls] using log

/-- A handler that goes on keeps its signal, and those of the handlers it interrupts. -/
theorem of_handler {h : Handler} {outer : List Handler} {q : Process} (stands : Stands done p)
    (running : p.handlers = h :: outer) (phase : Phase) (alive : q.ended = none)
    (same : q.armed = p.armed ∧ q.hooked = p.hooked ∧ q.hooks = p.hooks ∧
      q.unwinding = p.unwinding)
    (handlers : q.handlers = ⟨h.sig, phase⟩ :: outer)
    (caught : ∀ sig, sig ∈ q.caught → sig ∈ p.caught)
    (kept : ∀ sig, sig ∈ p.caught → sig = h.sig ∨ sig ∈ q.caught)
    (given : phase = .reset ∨ phase = .raised → h.sig ∉ q.caught)
    (log : q.log = (calls done).map .called ++ (restores q.armed q.deathWrites).map .restored) :
    Stands done q := by
  obtain ⟨armed, hooked, hooks, -⟩ := same
  have signals : q.handlers.map (·.sig) = p.handlers.map (·.sig) := by
    rw [handlers, running]
    rfl
  refine ⟨armed ▸ stands.armed, hooked ▸ stands.hooked, ?_, ?_, ?_, signals ▸ stands.nodup, log,
    by simp [alive], by simp [alive]⟩
  · rw [hooks, hooked]
    exact stands.hooks
  · intro sig
    rw [← stands.caught sig, signals, running]
    simp only [List.map_cons, List.mem_cons]
    constructor
    · rintro (mem | mem)
      · exact .inl (caught sig mem)
      · exact .inr mem
    · rintro (mem | mem)
      · rcases kept sig mem with rfl | mem
        · exact .inr (.inl rfl)
        · exact .inl mem
      · exact .inr mem
  · have reset := stands.reset
    rw [running] at reset
    rw [handlers]
    intro h' mem past held
    rcases List.mem_cons.mp mem with rfl | mem
    · exact given past held
    · exact reset h' (.tail h mem) past (caught _ held)

/-- A handler writes once, and the process ends with it. -/
theorem onSignal {h : Handler} {outer : List Handler} (stands : Stands done p)
    (running : p.handlers = h :: outer) (alive : p.ended = none) :
    Stands done (p.onSignal h outer) := by
  have log := stands.log
  have past := stands.reset
  rw [running] at past
  unfold Process.onSignal
  cases phase : h.phase with
  | entered =>
      refine stands.of_handler running .wrote alive ⟨rfl, rfl, rfl, rfl⟩ rfl
        (fun _ mem => mem) (fun _ mem => .inr mem) nofun ?_
      have more : ({ p.writeRestore with handlers := ⟨h.sig, .wrote⟩ :: outer } :
          Process).deathWrites = p.deathWrites + 1 := by
        simp only [deathWrites, running, List.countP_cons, phase, writeRestore]
        simp
        omega
      rw [more, restores_add, List.map_append, ← List.append_assoc]
      exact congrArg (· ++ _) log
  | wrote =>
      refine stands.of_handler running .reset alive ⟨rfl, rfl, rfl, rfl⟩ rfl ?_ ?_ ?_ ?_
      · exact fun _ mem => (List.mem_filter.mp mem).1
      · intro sig mem
        by_cases same : sig = h.sig
        · exact .inl same
        · exact .inr (List.mem_filter.mpr ⟨mem, by simpa using same⟩)
      · simp
      · simpa [deathWrites, running, List.countP_cons, phase] using log
  | reset =>
      refine stands.of_handler running .raised alive ⟨rfl, rfl, rfl, rfl⟩ rfl
        (fun _ mem => mem) (fun _ mem => .inr mem) ?_ ?_
      · exact fun _ => past h List.mem_cons_self (.inl phase)
      · simpa [deathWrites, running, List.countP_cons, phase] using log
  | raised =>
      have given := past h List.mem_cons_self (.inr phase)
      simp only [given, if_false]
      exact stands.ending (.signalled h.sig)
        (fun _ _ => .inr ⟨h, running ▸ List.mem_cons_self, phase⟩) nofun

/-- A signal is caught exactly if its handler has been installed. -/
theorem deliver (stands : Stands done p) (sig : Signal) (alive : p.ended = none) :
    Stands done (p.deliver sig) := by
  unfold Process.deliver
  split
  · exact stands
  · next free =>
      split
      · next mem =>
          refine ⟨stands.armed, stands.hooked, stands.hooks, ?_, ?_, ?_, ?_, by simp [alive],
            by simp [alive]⟩
          · intro sig'
            rw [← stands.caught sig']
            simp only [List.map_cons, List.mem_cons]
            constructor
            · rintro (held | rfl | blocked)
              · exact .inl held
              · exact .inl mem
              · exact .inr blocked
            · rintro (held | blocked)
              · exact .inl held
              · exact .inr (.inr blocked)
          · intro h among past
            rcases List.mem_cons.mp among with rfl | among
            · rcases past with past | past <;> cases past
            · exact stands.reset h among past
          · exact List.nodup_cons.mpr ⟨free, stands.nodup⟩
          · simpa [deathWrites, List.countP_cons] using stands.log
      · next uncaught =>
          refine stands.ending (.signalled sig) ?_ (fun eq => by cases eq)
          intro _ eq
          cases eq
          refine .inl fun mem => ?_
          rcases (stands.caught sig).mpr mem with held | blocked
          · exact uncaught held
          · exact free blocked

theorem panic (stands : Stands done p) (alive : p.ended = none) : Stands done p.panic := by
  unfold Process.panic
  split
  · next calm =>
      obtain ⟨free, calm⟩ := calm
      refine ⟨stands.armed, stands.hooked, stands.hooks, stands.caught, stands.reset,
        stands.nodup, ?_, by simp [alive], fun _ => rfl⟩
      have log := stands.log
      simp only [deathWrites, free, calm, List.countP_nil] at log
      simpa [deathWrites, free] using log
  · exact stands

end Stands

/-! ### What interrupts the code leaves it as it is -/

theorem onSignal_code (h : Handler) (outer : List Handler) (p : Process) :
    (p.onSignal h outer).code = p.code := by
  unfold onSignal
  split
  · rfl
  · rfl
  · rfl
  · split <;> rfl

theorem deliver_code (sig : Signal) (p : Process) : (p.deliver sig).code = p.code := by
  unfold deliver
  split
  · rfl
  · split <;> rfl

theorem panic_code (p : Process) : p.panic.code = p.code := by
  unfold panic
  split <;> rfl

/-! ### Any schedule -/

/-- What runs goes on with its code, or leaves it. -/
theorem stands_advance {done code : List Instr} {p : Process} (eq : code = done ++ p.code)
    (stands : Stands done p) (alive : p.ended = none) :
    ∃ done, code = done ++ p.advance.code ∧ Stands done p.advance := by
  unfold advance
  split
  · next h outer running =>
      refine ⟨done, ?_, stands.onSignal running alive⟩
      rw [onSignal_code]
      exact eq
  · next free =>
      split
      · next unwinds => exact ⟨done, eq, stands.ending .panicked nofun fun _ => unwinds⟩
      · next calm =>
          split
          · exact ⟨done, eq, stands⟩
          · next i rest code =>
              refine ⟨done ++ [i], ?_, stands.exec i rest free (by simpa using calm) alive⟩
              rw [eq, code, List.append_assoc]
              rfl

/-- Whatever happens next, a process stands on a beginning of its code. -/
theorem stands_next {code : List Instr} {c : Choice} {p : Process}
    (stands : ∃ done, code = done ++ p.code ∧ Stands done p) :
    ∃ done, code = done ++ (p.next c).code ∧ Stands done (p.next c) := by
  obtain ⟨done, eq, stands⟩ := stands
  unfold next
  split
  · next alive =>
      cases c with
      | step => exact stands_advance eq stands alive
      | signal sig =>
          refine ⟨done, ?_, stands.deliver sig alive⟩
          rw [deliver_code]
          exact eq
      | uncaught sig => exact ⟨done, eq, stands.ending (.uncaught sig) nofun nofun⟩
      | panic =>
          refine ⟨done, ?_, stands.panic alive⟩
          rw [panic_code]
          exact eq
  · exact ⟨done, eq, stands⟩

theorem stands_run (code : List Instr) (choices : List Choice) :
    ∃ done, code = done ++ (machine.run choices (fresh code)).code ∧
      Stands done (machine.run choices (fresh code)) :=
  machine.run_invariant (P := fun _ _ => True)
    (I := fun p : Process => ∃ done, code = done ++ p.code ∧ Stands done p)
    (fun _ stands => stands_next stands) (Machine.Along.of_forall (fun _ _ => trivial) choices _)
    ⟨[], rfl, .of_fresh code⟩

namespace Stands

variable {done : List Instr} {p : Process}

/-- Each signal has one handler at most, and the restore hook stands once. -/
theorem deathWrites_le (stands : Stands done p) : p.deathWrites ≤ 5 := by
  have each : p.handlers.length ≤ 4 := by
    have all : p.handlers.map (·.sig) ⊆ Signal.all := fun sig _ => by cases sig <;> decide
    have few := (stands.nodup.subperm all).length_le
    rwa [List.length_map] at few
  have wrote : p.handlers.countP (·.phase ≠ .entered) ≤ p.handlers.length := List.countP_le_length
  have once : (if p.unwinding then p.hooks else 0) ≤ 1 := by
    rw [stands.hooks]
    cases p.unwinding <;> cases p.hooked <;> decide
  unfold deathWrites
  omega

/-- Under an installed death path there is no end without a death write, but by a signal that it
does not catch. -/
theorem deathWrites_pos (stands : Stands done p) (hooked : Instr.hook ∈ done)
    (caught : ∀ sig, Instr.sigaction sig ∈ done) (ended : p.ended ≠ none)
    (heard : ∀ sig, p.ended ≠ some (.uncaught sig)) : 0 < p.deathWrites := by
  unfold deathWrites
  cases ending : p.ended with
  | none => exact absurd ending ended
  | some how =>
      cases how with
      | uncaught sig => exact absurd ending (heard sig)
      | signalled sig =>
          rcases stands.signalled sig ending with uncaught | ⟨h, mem, raised⟩
          · exact absurd (caught sig) uncaught
          · have wrote : 0 < p.handlers.countP (·.phase ≠ .entered) :=
              List.countP_pos_iff.mpr ⟨h, mem, by simp [raised]⟩
            exact Nat.add_pos_left wrote _
      | panicked =>
          rw [stands.panicked ending, stands.hooks, stands.hooked.mpr hooked]
          simp

end Stands

/-- However a process is interrupted, by signals at any instant and during each other's
handlers or by a panic, what the system sees of it is a beginning of its code and then at most
five death writes, all of the descriptor that was published last. Once the path is installed with
a usable descriptor, none of the four signals that it catches ends the process without one, nor
does a panic. A descriptor that is not usable is never written to. -/
theorem interrupted (code : List Instr) (choices : List Choice) :
    let p := machine.run choices (fresh code)
    ∃ done deaths, code = done ++ p.code ∧
      p.log = (calls done).map .called ++ deaths.map .restored ∧ deaths.length ≤ 5 ∧
      (∀ restore ∈ deaths, published done = some restore ∧ 0 ≤ restore.fd) ∧
      ∀ restore, published done = some restore → 0 ≤ restore.fd → Instr.hook ∈ done →
        (∀ sig, Instr.sigaction sig ∈ done) → p.ended ≠ none →
        (∀ sig, p.ended ≠ some (.uncaught sig)) → deaths ≠ [] := by
  obtain ⟨done, eq, stands⟩ := stands_run code choices
  have log := stands.log
  rw [stands.armed] at log
  refine ⟨done, _, eq, log, ?_, fun restore mem => mem_restores mem, ?_⟩
  · exact Nat.le_trans (restores_length _ _) stands.deathWrites_le
  · intro restore armed usable hooked caught ended heard
    rw [armed]
    exact restores_ne_nil usable (stands.deathWrites_pos hooked caught ended heard)

end Process

end Afanctl
