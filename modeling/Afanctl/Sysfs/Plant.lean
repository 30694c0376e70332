import Afanctl.Sysfs.Adapter

/-!
A fan behind the attribute files.

The controller takes a write at once and reads it back; the tach follows the speed register
at once or lags behind it, and in Auto the register mirrors the tach. Over this device every
method of the adapter has a closed form.
-/

namespace Afanctl

open Afanctl.Lib

/-! ### Attribute texts -/

/-- A line of white-space free text is trimmed to the text. -/
theorem trim_line {cs : List Char} (plain : ∀ c ∈ cs, isWhitespace c = false) :
    trim (String.ofList (cs ++ ['\n'])) = String.ofList cs := by
  have keep {l : List Char} (plain : ∀ c ∈ l, isWhitespace c = false) :
      l.dropWhile isWhitespace = l := by
    cases l with
    | nil => rfl
    | cons c rest => simp [plain c List.mem_cons_self]
  have newline : isWhitespace '\n' = true := rfl
  unfold trim
  simp only [String.toList_ofList]
  cases cs with
  | nil => simp [newline]
  | cons c rest =>
      have first : isWhitespace c = false := plain c List.mem_cons_self
      have back : ((c :: rest).reverse).dropWhile isWhitespace = (c :: rest).reverse :=
        keep fun c' mem => plain c' (List.mem_reverse.mp mem)
      have start : ((c :: rest) ++ ['\n']).dropWhile isWhitespace = (c :: rest) ++ ['\n'] := by
        rw [List.cons_append, List.dropWhile_cons_of_neg (by simp [first])]
      rw [start, List.reverse_append]
      simp only [List.reverse_singleton, List.singleton_append, List.dropWhile_cons, newline,
        if_true]
      rw [back, List.reverse_reverse]

theorem isWhitespace_of_isDigit {c : Char} (digit : c.isDigit = true) :
    isWhitespace c = false := by
  have range : 48 ≤ c.toNat ∧ c.toNat ≤ 57 := by
    simpa [Char.isDigit, UInt32.le_iff_toNat_le] using digit
  simp [isWhitespace]
  omega

theorem digits_toDigits (n : Nat) : digits (Nat.toDigits 10 n) = some n := by
  have digit : ∀ c ∈ Nat.toDigits 10 n, c.isDigit = true := fun _ mem =>
    Nat.isDigit_of_mem_toDigits (by decide) (by decide) mem
  unfold digits
  rw [if_pos ⟨Nat.toDigits_ne_nil, List.all_eq_true.mpr digit⟩]
  have value : Nat.ofDigitChars 10 (Nat.toDigits 10 n) 0 = n := Nat.ofDigitChars_ten_toDigits
  rw [Nat.ofDigitChars_eq_foldl] at value
  simp only [Nat.mul_comm 10] at value
  exact congrArg some value

theorem parseU32_toString {n : Nat} (fits : n ≤ u32Max) : parseU32 (toString n) = some n := by
  have text : (toString n).toList = Nat.toDigits 10 n := Nat.toList_repr
  have number := digits_toDigits n
  unfold parseU32
  rw [text]
  split
  · next rest eq =>
      rw [eq] at number
      cases number
  · simp only
    rw [number, Option.filter_some, if_pos (by simpa using fits)]

/-- The content of a number attribute. -/
def line (n : Nat) : String := toString n ++ "\n"

theorem parseU32_line {n : Nat} (fits : n ≤ u32Max) : parseU32 (trim (line n)) = some n := by
  have text : line n = String.ofList (Nat.toDigits 10 n ++ ['\n']) := by
    apply String.toList_inj.mp
    unfold line
    rw [String.toList_append, String.toList_ofList, String.toList_ofList]
    exact congrArg (· ++ ['\n']) Nat.toList_repr
  have plain : ∀ c ∈ Nat.toDigits 10 n, isWhitespace c = false := fun _ mem =>
    isWhitespace_of_isDigit (Nat.isDigit_of_mem_toDigits (by decide) (by decide) mem)
  have same : String.ofList (Nat.toDigits 10 n) = toString n := by
    apply String.toList_inj.mp
    rw [String.toList_ofList]
    exact Nat.toList_repr.symm
  rw [text, trim_line plain, same]
  exact parseU32_toString fits

/-- The content of a mode attribute is read as the mode. -/
theorem parseMode_line {abi : AbiAttrs} (bound : abi = legacy ∨ abi = modern) (path : String)
    (mode : FanMode) : abi.parseMode path (abi.token mode ++ "\n") = .ok mode := by
  have tokens : trim (abi.token mode ++ "\n") = abi.token mode ∧
      abi.token .auto = abi.auto ∧ abi.token .manual = abi.manual ∧ abi.auto ≠ abi.manual := by
    rcases bound with rfl | rfl <;> cases mode <;> decide
  obtain ⟨trimmed, auto, manual, apart⟩ := tokens
  unfold AbiAttrs.parseMode
  simp only [trimmed]
  cases mode with
  | auto => rw [auto, if_neg apart, if_pos rfl]
  | manual => rw [manual, if_pos rfl]

/-! ### The device -/

/-- A fan, its registers, and the files they are behind. -/
structure Plant where
  fanDir : String
  abi : AbiAttrs
  bound : abi = legacy ∨ abi = modern
  /-- the sensor files and what they hold -/
  temps : List (String × String)
  /-- the tachometer -/
  rpm : Nat
  /-- the speed register -/
  outReg : Nat
  mode : FanMode
  /-- how far the tach moves at a read, if it lags behind the register -/
  lagRate : Option Nat
  frozen : Bool

namespace Plant

/-- The path of an attribute. -/
def attr (d : Plant) (name : String) : String := join d.fanDir name

theorem attr_inj {d : Plant} {name name' : String} :
    d.attr name = d.attr name' ↔ name = name' := join_inj

/-- The tach turns on, up to its read: it follows the register in Manual, and in Auto the
register mirrors it. -/
def turned (d : Plant) : Plant :=
  match d.lagRate, d.mode with
  | none, _ => d
  | some _, .auto => { d with outReg := d.rpm }
  | some rate, .manual =>
      if d.frozen then d
      else { d with
        rpm := if d.rpm ≤ d.outReg then min (d.rpm + rate) d.outReg
          else max (d.rpm - rate) d.outReg }

/-- The register takes a speed; one that is not ours keeps mirroring the tach. -/
def driven (speed : Nat) (d : Plant) : Plant :=
  match d.lagRate, d.mode with
  | none, _ => { d with rpm := speed, outReg := speed }
  | some _, .manual => { d with outReg := speed }
  | some _, .auto => d

/-- The controller changes its mode. -/
def switched (mode : FanMode) (d : Plant) : Plant :=
  { d with
    mode := mode
    outReg := if d.lagRate.isSome ∧ mode = .auto then d.rpm else d.outReg }

/-- A write to the mode attribute. -/
def store (payload : String) (d : Plant) : Except String Unit × Plant :=
  if payload = d.abi.manual then (.ok (), d.switched .manual)
  else if payload = d.abi.auto then (.ok (), d.switched .auto)
  else (.error "Invalid argument (os error 22)", d)

instance : Sysfs Plant where
  read path d :=
    if path = d.attr "fan1_input" then (.ok (line d.turned.rpm), d.turned)
    else if path = d.attr d.abi.target then (.ok (line d.outReg), d)
    else if path = d.attr d.abi.modeAttr then (.ok (d.abi.token d.mode ++ "\n"), d)
    else match d.temps.lookup path with
      | some text => (.ok text, d)
      | none => (.error "No such file or directory (os error 2)", d)
  write path payload d :=
    if path = d.attr d.abi.target then
      match parseU32 payload with
      | some speed => (.ok (), d.driven speed)
      | none => (.error "Invalid argument (os error 22)", d)
    else if path = d.attr d.abi.modeAttr then d.store payload
    else (.error "Permission denied (os error 13)", d)
  writeHeld payload d := d.store payload
  sleep _ d := d

/-- The temperature in a sensor file. -/
def celsius (path : String) (d : Plant) : Option MilliC :=
  (d.temps.lookup path).bind fun text => (parseI32 (trim text)).map MilliC.mk

/-- The reading of a sensor file, behind the outlier window. -/
def reading (d : Plant) (file : String × String) : SensorReading where
  label := file.2
  milliC := (d.celsius file.1).filter fun m => milliCMin ≤ m.val ∧ m.val ≤ milliCMax

/-! ### What its files answer -/

section Frame

variable (d : Plant) (speed : Nat) (mode : FanMode)

@[simp] theorem turned_fanDir : d.turned.fanDir = d.fanDir := by
  unfold turned
  split <;> first | rfl | (split <;> rfl)

@[simp] theorem turned_abi : d.turned.abi = d.abi := by
  unfold turned
  split <;> first | rfl | (split <;> rfl)

@[simp] theorem turned_mode : d.turned.mode = d.mode := by
  unfold turned
  split <;> first | rfl | (split <;> rfl)

@[simp] theorem turned_temps : d.turned.temps = d.temps := by
  unfold turned
  split <;> first | rfl | (split <;> rfl)

@[simp] theorem driven_fanDir : (d.driven speed).fanDir = d.fanDir := by
  unfold driven
  split <;> rfl

@[simp] theorem driven_abi : (d.driven speed).abi = d.abi := by
  unfold driven
  split <;> rfl

@[simp] theorem driven_temps : (d.driven speed).temps = d.temps := by
  unfold driven
  split <;> rfl

/-- The register takes a speed once. -/
@[simp] theorem driven_driven : (d.driven speed).driven speed = d.driven speed := by
  cases lag : d.lagRate with
  | none => simp [driven, lag]
  | some rate => cases driving : d.mode <;> simp [driven, lag, driving]

end Frame

theorem tach_ne_target (d : Plant) : d.attr d.abi.target ≠ d.attr "fan1_input" := by
  rw [Ne, attr_inj]
  rcases d.bound with bound | bound <;> rw [bound] <;> decide

theorem tach_ne_modeAttr (d : Plant) : d.attr d.abi.modeAttr ≠ d.attr "fan1_input" := by
  rw [Ne, attr_inj]
  rcases d.bound with bound | bound <;> rw [bound] <;> decide

theorem target_ne_modeAttr (d : Plant) : d.attr d.abi.modeAttr ≠ d.attr d.abi.target := by
  rw [Ne, attr_inj]
  rcases d.bound with bound | bound <;> rw [bound] <;> decide

theorem read_tach (d : Plant) :
    Sysfs.read (d.attr "fan1_input") d = (.ok (line d.turned.rpm), d.turned) := by
  simp only [Sysfs.read, if_true]

theorem read_target (d : Plant) :
    Sysfs.read (d.attr d.abi.target) d = (.ok (line d.outReg), d) := by
  simp only [Sysfs.read, if_neg d.tach_ne_target, if_true]

theorem read_modeAttr (d : Plant) :
    Sysfs.read (d.attr d.abi.modeAttr) d = (.ok (d.abi.token d.mode ++ "\n"), d) := by
  simp only [Sysfs.read, if_neg d.tach_ne_modeAttr, if_neg d.target_ne_modeAttr, if_true]

theorem write_target {speed : Nat} (fits : speed ≤ u32Max) (d : Plant) :
    Sysfs.write (d.attr d.abi.target) (toString speed) d = (.ok (), d.driven speed) := by
  simp only [Sysfs.write, if_true, parseU32_toString fits]

theorem store_token (mode : FanMode) (d : Plant) :
    d.store (d.abi.token mode) = (.ok (), d.switched mode) := by
  have apart : d.abi.auto ≠ d.abi.manual := by
    rcases d.bound with bound | bound <;> rw [bound] <;> decide
  unfold store AbiAttrs.token
  cases mode with
  | manual => simp only [if_true]
  | auto => simp only [if_neg apart, if_true]

theorem write_modeAttr (mode : FanMode) (d : Plant) :
    Sysfs.write (d.attr d.abi.modeAttr) (d.abi.token mode) d = (.ok (), d.switched mode) := by
  simp only [Sysfs.write, if_neg d.target_ne_modeAttr, if_true, store_token]

end Plant

/-! ### The adapter over it -/

namespace World

variable {δ : Type} [Sysfs δ] {w : World δ} {d d' : δ} {path payload raw : String} {n : Nat}

theorem read_to {answer : Except String String} (here : w.device = d)
    (answers : Sysfs.read path d = (answer, d')) :
    ∃ w', w.read path = (answer, w') ∧ w'.device = d' := by
  subst here
  refine ⟨{ device := d', journal := w.journal ++ [.read path answer] }, ?_, rfl⟩
  simp only [read, answers]

theorem write_to {answer : Except String Unit} (here : w.device = d)
    (answers : Sysfs.write path payload d = (answer, d')) :
    ∃ w', w.write path payload = (answer, w') ∧ w'.device = d' := by
  subst here
  refine ⟨{ device := d', journal := w.journal ++ [.write path payload answer] }, ?_, rfl⟩
  simp only [write, answers]

theorem readString_to (here : w.device = d) (answers : Sysfs.read path d = (.ok raw, d')) :
    ∃ w', w.readString path = (.ok raw, w') ∧ w'.device = d' := by
  obtain ⟨w', read, left⟩ := read_to here answers
  exact ⟨w', by simp only [readString, read], left⟩

theorem readU32_to (here : w.device = d) (answers : Sysfs.read path d = (.ok raw, d'))
    (parses : parseU32 (trim raw) = some n) :
    ∃ w', w.readU32 path = (.ok n, w') ∧ w'.device = d' := by
  obtain ⟨w', read, left⟩ := readString_to here answers
  exact ⟨w', by simp only [readU32, read, parses], left⟩

end World

/-! ### Writes whose echo is steady -/

section Steady

variable {τ : Type} {pause : τ → τ} {sample : τ → Except SmcError Bool × τ} {I J : τ → Prop}

/-- A window none of whose samples is accepted ends as its last sample does. -/
theorem settleFrom_expires (after : ∀ {t}, J t → I (pause t))
    (rejects : ∀ {t}, I t → ∃ t', sample t = (.ok false, t') ∧ J t') (n left : Nat) {t : τ}
    (start : I (if 0 < n then pause t else t)) :
    ∃ t', settleFrom pause sample n (left + 1) t = (.ok false, t') ∧ J t' := by
  induction left generalizing n t with
  | zero =>
      obtain ⟨t', rejected, ends⟩ := rejects start
      exact ⟨t', by rw [settleFrom_passed rejected]; rfl, ends⟩
  | succ left ih =>
      obtain ⟨t', rejected, ends⟩ := rejects start
      rw [settleFrom_passed rejected]
      exact ih (n + 1) (by simpa using after ends)

end Steady

section Attempts

variable {δ : Type} [Sysfs δ] {path payload : String} {wrote windowMs rb : Nat} {d : δ}
  {readBack : World δ → Except SmcError Nat × World δ} {accepted : Nat → Bool} {P : δ → Prop}

/-- A window over a device that reads back one value and keeps it. -/
theorem settle_steady
    (reads : ∀ {w : World δ}, w.device = d → ∃ w', readBack w = (.ok rb, w') ∧ w'.device = d)
    (sleeps : ∀ ns, Sysfs.sleep ns d = d) {t : Option Nat × World δ} (here : t.2.device = d) :
    ∃ t', settle (pause windowMs) (echo readBack accepted) t = (.ok (accepted rb), t') ∧
      t'.1 = some rb ∧ t'.2.device = d := by
  have sampled {t : Option Nat × World δ} (here : t.2.device = d) :
      ∃ t', echo readBack accepted t = (.ok (accepted rb), t') ∧ t'.1 = some rb ∧
        t'.2.device = d := by
    obtain ⟨w', read, left⟩ := reads here
    exact ⟨(some rb, w'), by simp only [echo, read], rfl, left⟩
  cases verdict : accepted rb with
  | true =>
      obtain ⟨t', taken, ends⟩ := sampled here
      rw [verdict] at taken
      exact ⟨t', settleFrom_taken taken, ends⟩
  | false =>
      refine settleFrom_expires (I := fun t : Option Nat × World δ => t.2.device = d)
        (J := fun t => t.1 = some rb ∧ t.2.device = d) ?_ ?_ 0 (echoSettleSamples - 1) here
      · intro t ends
        unfold pause World.sleep
        simp only [ends.2, sleeps]
      · intro t here
        rw [← verdict]
        exact sampled here

/-- Once every write leaves such a device, the value it reads back decides the call. -/
theorem settleAttempts_steady (settled : P d)
    (writes : ∀ {w : World δ}, P w.device →
      ∃ w', w.write path payload = (.ok (), w') ∧ w'.device = d)
    (reads : ∀ {w : World δ}, w.device = d → ∃ w', readBack w = (.ok rb, w') ∧ w'.device = d)
    (sleeps : ∀ ns, Sysfs.sleep ns d = d) (left : Nat) {t : Option Nat × World δ}
    (start : P t.2.device) :
    ∃ w', settleAttempts path payload wrote windowMs readBack accepted (left + 1) t
        = (if accepted rb then .ok wrote else .error (.verifyFailed wrote rb), w') ∧
      w'.device = d := by
  induction left generalizing t with
  | zero =>
      obtain ⟨w, written, here⟩ := writes start
      obtain ⟨t', window, seen, still⟩ :=
        @settle_steady δ _ windowMs rb d readBack accepted reads sleeps (t.1, w) here
      refine ⟨t'.2, ?_, still⟩
      cases verdict : accepted rb with
      | true => exact settleAttempts_taken written (verdict ▸ window)
      | false =>
          rw [settleAttempts_expired written (verdict ▸ window)]
          obtain ⟨value, after⟩ := t'
          cases seen
          rfl
  | succ left ih =>
      obtain ⟨w, written, here⟩ := writes start
      obtain ⟨t', window, seen, still⟩ :=
        @settle_steady δ _ windowMs rb d readBack accepted reads sleeps (t.1, w) here
      cases verdict : accepted rb with
      | true => exact ⟨t'.2, settleAttempts_taken written (verdict ▸ window), still⟩
      | false =>
          rw [settleAttempts_expired written (verdict ▸ window), ← verdict]
          exact ih (still ▸ settled)

end Attempts

namespace SysfsSmc

/-- The adapter is bound to the files of the plant, and its sensors are none of them. -/
structure Fits (a : SysfsSmc Plant) (d : Plant) : Prop where
  here : a.world.device = d
  fanDir : a.fanDir = d.fanDir
  abi : a.abi = d.abi
  apart : ∀ file ∈ a.sensors, file.1 ≠ d.attr "fan1_input" ∧ file.1 ≠ d.attr d.abi.target ∧
    file.1 ≠ d.attr d.abi.modeAttr
  ceiling : a.hwMax ≤ u32Max

variable {a : SysfsSmc Plant} {d : Plant} {w : World Plant}

namespace Fits

theorem modePath (fits : a.Fits d) : a.modePath = d.attr d.abi.modeAttr := by
  unfold SysfsSmc.modePath join Plant.attr
  rw [fits.fanDir, fits.abi]

theorem out (fits : a.Fits d) : a.out = d.attr d.abi.target := by
  unfold SysfsSmc.out join Plant.attr
  rw [fits.fanDir, fits.abi]

theorem tach (fits : a.Fits d) : a.join "fan1_input" = d.attr "fan1_input" := by
  unfold join Plant.attr
  rw [fits.fanDir]

/-- It stays so when the registers change. -/
theorem moved {d' : Plant} (fits : a.Fits d) (here : w.device = d') (fanDir : d'.fanDir = d.fanDir)
    (abi : d'.abi = d.abi) : ({ a with world := w } : SysfsSmc Plant).Fits d' where
  here := here
  fanDir := fits.fanDir.trans fanDir.symm
  abi := fits.abi.trans abi.symm
  apart := by
    unfold Plant.attr
    rw [fanDir, abi]
    exact fits.apart
  ceiling := fits.ceiling

/-- A read of the mode attribute, whatever the registers. -/
theorem readMode {d' : Plant} (fits : a.Fits d) (here : w.device = d')
    (fanDir : d'.fanDir = d.fanDir) (abi : d'.abi = d.abi) :
    ∃ w', a.readMode w = (.ok d'.mode, w') ∧ w'.device = d' := by
  have fits' : ({ a with world := w } : SysfsSmc Plant).Fits d' := fits.moved here fanDir abi
  obtain ⟨w', read, left⟩ := World.readString_to here d'.read_modeAttr
  have path : a.modePath = d'.attr d'.abi.modeAttr := fits'.modePath
  have parses := parseMode_line d'.bound (d'.attr d'.abi.modeAttr) d'.mode
  have table : a.abi = d'.abi := fits'.abi
  exact ⟨w', by simp only [SysfsSmc.readMode, path, read, table, parses], left⟩

theorem readFan (fits : a.Fits d) (tach : d.turned.rpm ≤ u32Max) :
    ∃ w', a.readFan = (.ok ⟨d.turned.rpm, d.mode⟩, w') ∧ w'.device = d.turned := by
  obtain ⟨w', read, turned⟩ := World.readU32_to fits.here d.read_tach (parseU32_line tach)
  obtain ⟨w'', moded, left⟩ := fits.readMode turned d.turned_fanDir d.turned_abi
  rw [Plant.turned_mode] at moded
  exact ⟨w'', by simp only [SysfsSmc.readFan, fits.tach, read, moded], left⟩

theorem writeSpeed (rpm : Nat) (fits : a.Fits d)
    (register : (d.driven (clamp a.hwMin a.hwMax rpm)).outReg ≤ u32Max) :
    ∃ w', a.writeSpeed rpm
        = (if absDiff (d.driven (clamp a.hwMin a.hwMax rpm)).outReg (clamp a.hwMin a.hwMax rpm)
              ≤ writeEchoToleranceRpm then .ok (clamp a.hwMin a.hwMax rpm)
            else .error (.verifyFailed (clamp a.hwMin a.hwMax rpm)
              (d.driven (clamp a.hwMin a.hwMax rpm)).outReg), w') ∧
      w'.device = d.driven (clamp a.hwMin a.hwMax rpm) := by
  have small : clamp a.hwMin a.hwMax rpm ≤ u32Max :=
    Nat.le_trans (clamp_mem a.band rpm).2 fits.ceiling
  have path : a.out = d.attr d.abi.target := fits.out
  unfold SysfsSmc.writeSpeed
  simp only
  generalize clamp a.hwMin a.hwMax rpm = target at small register ⊢
  have same : (d.driven target).attr (d.driven target).abi.target = d.attr d.abi.target := by
    unfold Plant.attr
    rw [Plant.driven_fanDir, Plant.driven_abi]
  have steady := @settleAttempts_steady Plant _ a.out (toString target) target echoSettleMs
    (d.driven target).outReg (d.driven target) (World.readU32 a.out)
    (fun rb => absDiff rb target ≤ writeEchoToleranceRpm)
    (fun x => x = d ∨ x = d.driven target) (.inr rfl) (fun {w} before => ?_) (fun {w} here => ?_)
    (fun _ => rfl) writeRetryMax (none, a.world) (.inl fits.here)
  · simp only [decide_eq_true_eq] at steady
    exact steady
  · rcases before with here | here
    · rw [path]
      exact World.write_to here (d.write_target small)
    · rw [path, ← same]
      have wrote := (d.driven target).write_target small
      rw [Plant.driven_driven] at wrote
      exact World.write_to here wrote
  · rw [path, ← same]
    exact World.readU32_to here (d.driven target).read_target (parseU32_line register)

theorem setMode (mode : FanMode) (fits : a.Fits d) :
    ∃ w', a.setMode mode = (.ok mode, w') ∧ w'.device = d.switched mode := by
  have path : a.modePath = d.attr d.abi.modeAttr := fits.modePath
  have again : (d.switched mode).switched mode = d.switched mode := by
    unfold Plant.switched
    simp only [Plant.mk.injEq, true_and, and_true]
    split <;> simp_all
  obtain ⟨w', settled, left⟩ := @settleAttempts_steady Plant _ a.modePath (a.abi.token mode)
    (a.abi.tokenValue mode) modeSettleMs (a.abi.tokenValue mode) (d.switched mode) a.modeValue
    (· == a.abi.tokenValue mode) (fun x => x = d ∨ x = d.switched mode) (.inr rfl)
    (fun {w} before => by
      rw [path, fits.abi]
      rcases before with here | here
      · exact World.write_to here (d.write_modeAttr mode)
      · have wrote := (d.switched mode).write_modeAttr mode
        rw [again] at wrote
        exact World.write_to here wrote)
    (fun {w} here => by
      obtain ⟨w', read, left⟩ := fits.readMode here rfl rfl
      exact ⟨w', by simp only [modeValue, read]; rfl, left⟩)
    (fun _ => rfl) writeRetryMax (none, a.world) (.inl fits.here)
  refine ⟨w', ?_, left⟩
  simp only [beq_self_eq_true, if_true] at settled
  simp only [SysfsSmc.setMode, settleWrite, settled]

/-- The probe puts the fan into Auto, through the held descriptor. -/
theorem probeSafeRestore {fd : Int} (held : a.restoreFile = some fd) (fits : a.Fits d) :
    ∃ w', a.probeSafeRestore = (.ok ⟨fd, d.abi.auto⟩, w') ∧ w'.device = d.switched .auto := by
  have wrote : Sysfs.writeHeld d.abi.auto d = (.ok (), d.switched .auto) :=
    d.store_token .auto
  obtain ⟨w, written, here⟩ : ∃ w, a.world.writeHeld d.abi.auto = (.ok (), w) ∧
      w.device = d.switched .auto := by
    refine ⟨{ device := d.switched .auto, journal :=
      a.world.journal ++ [.writeHeld d.abi.auto (.ok ())] }, ?_, rfl⟩
    simp only [World.writeHeld, fits.here, wrote]
  obtain ⟨w', read, left⟩ := fits.readMode here rfl rfl
  have sampled : a.probeSample (none, w) = (.ok true, (some (a.abi.tokenValue .auto), w')) := by
    simp only [probeSample, read]
    rfl
  have window : settle (pause modeSettleMs) a.probeSample (none, w)
      = (.ok true, (some (a.abi.tokenValue .auto), w')) := settleFrom_taken sampled
  refine ⟨w', ?_, left⟩
  simp only [SysfsSmc.probeSafeRestore, held, fits.abi, written, window, safeRestore,
    Option.map_some]

theorem readSensor (fits : a.Fits d) {file : String × String} (mem : file ∈ a.sensors)
    (here : w.device = d) :
    ∃ w', Afanctl.readSensor file.1 file.2 w = (d.reading file, w') ∧ w'.device = d := by
  obtain ⟨tach, target, mode⟩ := fits.apart file mem
  cases held : d.temps.lookup file.1 with
  | none =>
      have answers : Sysfs.read file.1 d
          = (.error "No such file or directory (os error 2)", d) := by
        simp only [Sysfs.read, if_neg tach, if_neg target, if_neg mode, held]
      obtain ⟨w', read, left⟩ := World.read_to here answers
      exact ⟨w', by simp only [Afanctl.readSensor, read, Plant.reading, Plant.celsius, held]; rfl,
        left⟩
  | some text =>
      have answers : Sysfs.read file.1 d = (.ok text, d) := by
        simp only [Sysfs.read, if_neg tach, if_neg target, if_neg mode, held]
      obtain ⟨w', read, left⟩ := World.read_to here answers
      refine ⟨w', ?_, left⟩
      simp only [Afanctl.readSensor, read, Plant.reading, Plant.celsius, held, Option.bind_some]
      cases parseI32 (trim text) with
      | none => rfl
      | some v => simp only [Option.map_some, Option.filter_some, decide_eq_true_eq]

theorem readSensorFiles (fits : a.Fits d) :
    ∃ w', Afanctl.readSensorFiles a.sensors a.world = (a.sensors.map d.reading, w') ∧
      w'.device = d := by
  have files (rest : List (String × String)) (sub : ∀ file ∈ rest, file ∈ a.sensors)
      {w : World Plant} (here : w.device = d) :
      ∃ w', Afanctl.readSensorFiles rest w = (rest.map d.reading, w') ∧ w'.device = d := by
    induction rest generalizing w with
    | nil => exact ⟨w, rfl, here⟩
    | cons file rest ih =>
        obtain ⟨w', first, left⟩ := fits.readSensor (sub file List.mem_cons_self) here
        obtain ⟨w'', others, last⟩ := ih (fun file mem => sub file (.tail _ mem)) left
        exact ⟨w'', by simp only [Afanctl.readSensorFiles, first, others, List.map_cons], last⟩
  exact files a.sensors (fun _ mem => mem) fits.here

end Fits

end SysfsSmc

end Afanctl
