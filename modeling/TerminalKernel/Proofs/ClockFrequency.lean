import Mathlib.Data.Nat.Log
import TerminalKernel.Computer.Boot
import TerminalKernel.Proofs.DirectoryListing

/-!
# The clock's frequency

All processes share one clock. Opening its device sets it back, a program may ask for another
frequency, and only interrupts of the clock are counted. What was given to the clock last and how often
it interrupted determine what it does and what is read from it, whatever else happened
(`Run.clock_determined`).
-/

namespace TerminalKernel

/-! ## Frequencies and rates -/

/-- The clock can be asked for the frequency: a power of two from 2 to 1024. -/
def IsFrequency (hz : Nat) : Prop := ∃ e, 1 ≤ e ∧ e ≤ 10 ∧ hz = 2 ^ e

theorem isFrequency_default : IsFrequency rtcDefaultHz := ⟨1, by decide, by decide, rfl⟩

theorem rateFor?_pow {e : Nat} (low : 1 ≤ e) (high : e ≤ 10) :
    rateFor? (2 ^ e) = some (16 - e) := by
  have least : 2 ^ 1 ≤ 2 ^ e := Nat.pow_le_pow_right (by decide) low
  have most : 2 ^ e ≤ 2 ^ 10 := Nat.pow_le_pow_right (by decide) high
  rw [rateFor?, Nat.log2_two_pow, Nat.one_shiftLeft]
  exact if_pos ⟨least, most, rfl⟩

theorem isSome_rateFor?_iff {hz : Nat} : (rateFor? hz).isSome = true ↔ IsFrequency hz := by
  constructor
  · intro found
    unfold rateFor? at found
    split at found
    · rename_i supported
      obtain ⟨low, high, power⟩ := supported
      rw [Nat.one_shiftLeft] at power
      refine ⟨hz.log2, ?_, ?_, power.symm⟩
      · rw [Nat.le_log2 (by omega)]
        exact low
      · exact Nat.le_of_lt_succ ((Nat.log2_lt (by omega)).mpr (Nat.lt_of_le_of_lt high (by decide)))
    · cases found
  · rintro ⟨e, low, high, rfl⟩
    rw [rateFor?_pow low high]
    rfl

/-- What a rate is good for. -/
structure Rates (hz rate : Nat) : Prop where
  positive : 1 ≤ rate
  small : rate ≤ 15
  frequency : 32768 / 2 ^ (rate - 1) = hz

theorem rates_of_rateFor? {hz rate : Nat} (found : rateFor? hz = some rate) : Rates hz rate := by
  obtain ⟨e, low, high, rfl⟩ := isSome_rateFor?_iff.mp (Option.isSome_of_eq_some found)
  rw [rateFor?_pow low high, Option.some_inj] at found
  subst found
  refine ⟨by omega, by omega, ?_⟩
  rw [show 32768 = 2 ^ 15 from rfl, Nat.pow_div (by omega) (by decide)]
  congr 1
  omega

theorem rateFor?_injective {hz hz' rate : Nat} (found : rateFor? hz = some rate)
    (found' : rateFor? hz' = some rate) : hz = hz' :=
  (rates_of_rateFor? found).frequency.symm.trans (rates_of_rateFor? found').frequency

namespace ClockRegisters

/-- The rate that the device runs at. -/
def rate (c : ClockRegisters) : Nat := (c.a &&& 0x0F).toNat

theorem rate_withRate (c : ClockRegisters) {r : Nat} (small : r ≤ 15) :
    (c.withRate r).rate = r := by
  have low : ∀ n : Fin 16, (UInt8.ofNat n &&& 0x0F).toNat = n := by decide
  -- What is kept of the register leaves its low half empty.
  have kept : (0xF0 : Nat) &&& 0x0F = 0 := by decide
  have cut : (c.withRate r).rate = (UInt8.ofNat r &&& 0x0F).toNat := by
    simp only [rate, withRate, UInt8.toNat_and, UInt8.toNat_or, UInt8.reduceToNat,
      Nat.and_or_distrib_right, Nat.and_assoc, kept, Nat.and_zero, Nat.zero_or, Nat.and_self]
  rw [cut]
  exact low ⟨r, Nat.lt_succ_of_le small⟩

end ClockRegisters

namespace Kernel

variable {k k' : Kernel} {a : Action}

/-! ## What leaves the clock alone -/

/-- What the kernel and the device know of the clock. -/
def timing (k : Kernel) : Rtc × ClockRegisters := (k.rtc, k.clock)

theorem timing_print (k : Kernel) (t : TerminalId) (bytes : List UInt8) :
    (k.print t bytes).timing = k.timing := by
  unfold print
  dsimp only
  split <;> rfl

theorem timing_display (k : Kernel) (t : TerminalId) : (k.display t).timing = k.timing := by
  unfold display
  split <;> rfl

theorem timing_withMemory (k : Kernel) (memory : Memory) : { k with memory }.timing = k.timing := rfl

theorem timing_withConsole (k : Kernel) (console : Console) :
    { k with console }.timing = k.timing := rfl

theorem timing_withProgram (k : Kernel) (file : ProgramFile) (pid : ProcessId) :
    (k.withProgram file pid).timing = k.timing :=
  k.timing_withMemory _

theorem timing_withProcess (k : Kernel) (pid : ProcessId) (p : ProcessRecord TerminalId) :
    (k.withProcess pid p).timing = k.timing := rfl

theorem timing_begin (k : Kernel) (t : TerminalId) (pid : ProcessId) :
    (k.begin t pid).timing = k.timing := rfl

theorem timing_log (k : Kernel) (n : Notice) : (k.log n).timing = k.timing := rfl

theorem timing_spawn (k : Kernel) (t : TerminalId) (name args : List UInt8)
    (save : Option TerminalId) : (k.spawn t name args save).1.timing = k.timing := by
  unfold spawn
  split
  · rfl
  · split
    · exact k.timing_print t _
    · rename_i file _ _
      rcases k.load_cases t file args save with
        ⟨_, failed⟩ | ⟨pid, _, _, _, failed⟩ | ⟨pid, _, _, started⟩
      · rw [failed]
      · rw [failed]
        exact k.timing_withProgram file pid
      · rw [started, timing_log, timing_begin, timing_withProcess]
        exact k.timing_withProgram file pid

theorem timing_relaunch (k : Kernel) (t : TerminalId) : (k.relaunch t).1.timing = k.timing := by
  have spawned := k.timing_spawn t shellName [] none
  unfold relaunch
  generalize k.spawn t shellName [] none = result at spawned ⊢
  obtain ⟨k', cause | launch⟩ := result <;> exact spawned

theorem timing_halt (k : Kernel) (status : UInt8) : (k.halt status).1.timing = k.timing := by
  unfold halt
  split
  · rfl
  · dsimp only
    split
    · exact timing_relaunch _ _
    · rfl

theorem timing_execute (k : Kernel) (line : List UInt8) :
    (k.execute line).1.timing = k.timing := by
  unfold execute
  dsimp only
  split
  · exact k.timing_halt 0
  · exact k.timing_spawn _ _ _ _

theorem timing_closeFile (k : Kernel) (fd : Nat) : (k.closeFile fd).1.timing = k.timing := by
  rcases k.closeFile_cases fd with ⟨_, failed⟩ | ⟨_, _, _, _, _, _, _, closed⟩
  · rw [failed]
  · rw [closed]
    rfl

theorem timing_read (k : Kernel) (fd : Nat) (room : Option Nat) :
    (k.read fd room).1.timing = k.timing := by
  unfold read
  split
  · rfl
  · rfl
  · split
    · unfold readLine
      split <;> rfl
    · rfl
    · rename_i pid p d room _ _ _
      rcases k.readDirectory_cases pid fd d room with ⟨_, none⟩ | ⟨_, _, read⟩
      · rw [none]
      · rw [read]
        rfl
    · rename_i pid p d room _ _ _
      rcases k.readRegular_cases pid fd d room with ⟨_, failed⟩ | ⟨_, read⟩
      · rw [failed]
      · rw [read]
        rfl
    · rfl
    · rfl

theorem timing_mapVideo (k : Kernel) (address : Nat) :
    (k.mapVideo address).1.timing = k.timing := by
  rcases k.mapVideo_cases address with ⟨_, failed⟩ | ⟨_, _, _, mapped⟩
  · rw [failed]
  · rw [mapped]
    rfl

theorem timing_setPhysicalByte (k : Kernel) (address : Nat) (byte : UInt8) :
    (k.setPhysicalByte address byte).timing = k.timing := by
  unfold setPhysicalByte
  split
  · exact k.timing_withConsole _
  · split
    · exact k.timing_withConsole _
    · exact k.timing_withMemory _

theorem timing_storeBytes (k : Kernel) (address : Nat) (bytes : List UInt8) :
    (k.storeBytes address bytes).timing = k.timing := by
  induction bytes generalizing k address with
  | nil => rfl
  | cons b rest ih =>
    unfold storeBytes
    split
    · rw [ih, timing_setPhysicalByte]
    · exact ih k (address + 1)

theorem timing_storeBlock (k : Kernel) (address : Nat) (bytes : List UInt8) :
    (k.storeBlock address bytes).timing = k.timing := by
  unfold storeBlock
  split
  · rfl
  · split
    · exact k.timing_withMemory _
    · rfl

theorem timing_storeUser (k : Kernel) (address : Nat) (bytes : List UInt8) :
    (k.storeUser address bytes).timing = k.timing := by
  simp only [storeUser, timing_storeBlock, timing_storeBytes]

theorem timing_tick (k : Kernel) : k.tick.1.timing = k.timing := by
  rcases k.tick_cases with same | ⟨next, noted⟩ | ⟨next, owner, _, _, _, _, turned⟩
  · rw [same]
  · rw [noted]
    rfl
  · rw [turned]
    rfl

theorem timing_switchTerminal (k : Kernel) (t : TerminalId) :
    (k.switchTerminal t).1.timing = k.timing := by
  unfold switchTerminal
  split
  · rfl
  · split
    · exact k.timing_display t
    · split
      · exact k.timing_print _ _
      · have spawned := (k.display t).timing_spawn t shellName [] (some k.scheduled)
        rw [timing_display] at spawned
        unfold displayFresh
        dsimp only
        generalize (k.display t).spawn t shellName [] (some k.scheduled) = result at spawned ⊢
        obtain ⟨k', cause | launch⟩ := result
        · exact (timing_display _ _).trans spawned
        · exact spawned

theorem timing_handleKey (k : Kernel) (key : Key) : (k.handleKey key).1.timing = k.timing := by
  rcases k.handleKey_cases key with taken | ⟨-, t, selected⟩
  · rw [taken]
    unfold receiveKey
    dsimp only
    split <;> rfl
  · rw [selected]
    exact k.timing_switchTerminal t

theorem timing_printUser (k : Kernel) (t : TerminalId) (address count : Nat) :
    (k.printUser t address count).timing = k.timing := by
  induction count generalizing k address with
  | zero => rfl
  | succ count ih => exact ih _ _

/-! ## What is given to the clock -/

/-- The descriptor of the running process is the clock's device. -/
def ClockAt (k : Kernel) (fd : Nat) : Prop :=
  ∃ pid p d, k.currentDescriptor fd = .ok (pid, p, d) ∧ d.binding = .rtc

/-- The action writes the bytes through the descriptor, from a buffer of its own or from one that
lies on a screen. -/
inductive Writes (k : Kernel) : Action → Nat → List UInt8 → Prop
  | buffer (fd : Nat) (bytes : List UInt8) : Writes k (.write fd (some bytes)) fd bytes
  | screen (fd address length : Nat) :
      Writes k (.writeScreen fd address length) fd (k.userBytes address length)

/-- The bytes ask for a frequency that the clock has: there are four of them, the lowest first. -/
def Requests (bytes : List UInt8) : Prop := bytes.length = 4 ∧ IsFrequency (Bytes.toNat bytes)

inductive Sets (k : Kernel) : Action → Nat → Prop
  /-- Its device is opened. -/
  | opened {name : List UInt8} {fd : Nat} {e : DirectoryEntry}
      (opens : (k.openFile name).2 = .ok fd) (found : k.files.lookup name = .ok e)
      (device : e.fileType = .rtc) : Sets k (.openFile name) rtcDefaultHz
  /-- A frequency that it has is written to its device. -/
  | written {a : Action} {fd : Nat} {bytes : List UInt8} (writes : k.Writes a fd bytes)
      (device : k.ClockAt fd) (requested : Requests bytes) : Sets k a (Bytes.toNat bytes)

theorem Writes.unique {fd fd' : Nat} {bytes bytes' : List UInt8} (writes : k.Writes a fd bytes)
    (writes' : k.Writes a fd' bytes') : bytes = bytes' := by
  cases writes <;> cases writes' <;> rfl

theorem Sets.unique {hz hz' : Nat} (sets : k.Sets a hz) (sets' : k.Sets a hz') : hz = hz' := by
  cases sets with
  | opened _ _ _ =>
    cases sets' with
    | opened _ _ _ => rfl
    | written writes _ _ => cases writes
  | written writes _ _ =>
    cases sets' with
    | opened _ _ _ => cases writes
    | written writes' _ _ => rw [writes.unique writes']

theorem Sets.isFrequency {hz : Nat} (sets : k.Sets a hz) : IsFrequency hz := by
  cases sets with
  | opened _ _ _ => exact isFrequency_default
  | written _ _ requested => exact requested.2

theorem Sets.ne_clockTick {hz : Nat} (sets : k.Sets a hz) : a ≠ .clockTick := by
  cases sets with
  | opened _ _ _ => exact nofun
  | written writes _ _ => cases writes <;> exact nofun

theorem timing_programClock {hz rate : Nat} (found : rateFor? hz = some rate) (k : Kernel) :
    (k.programClock hz).timing = (k.rtc, k.clock.withRate rate) := by
  rw [programClock, found]
  rfl

theorem writeClock_of_not_requests {bytes : List UInt8} (refused : ¬ Requests bytes) :
    k.writeClock bytes = (k, .error .invalidArgument) := by
  have unmet : ¬ (bytes.length = 4 ∧ (rateFor? (Bytes.toNat bytes)).isSome = true) :=
    fun ⟨whole, found⟩ => refused ⟨whole, isSome_rateFor?_iff.mp found⟩
  rw [writeClock, Rtc.write, if_neg unmet]

theorem writeClock_of_requests {bytes : List UInt8} (requested : Requests bytes) :
    k.writeClock bytes =
      ({ k with rtc := k.rtc.setFrequency (Bytes.toNat bytes) }.programClock (Bytes.toNat bytes),
        .ok 4) := by
  rw [writeClock, Rtc.write, if_pos ⟨requested.1, isSome_rateFor?_iff.mpr requested.2⟩,
    ← requested.1]
  rfl

theorem write_of_clockAt {fd : Nat} (device : k.ClockAt fd) (bytes : List UInt8) :
    k.write fd (some bytes) = k.writeClock bytes := by
  obtain ⟨pid, p, d, found, bound⟩ := device
  simp only [write, found, bound]

theorem clockAt_of_held {pid : ProcessId} {fd : Nat} {d : Descriptor}
    (current : k.currentPid? = some pid) (bound : Held k.holdings pid fd d)
    (device : d.binding = .rtc) : k.ClockAt fd := by
  obtain ⟨o, held, found⟩ := bound
  obtain ⟨p, running, rfl⟩ := current_of_held current held
  have here : p.descriptor? fd = some d := found
  exact ⟨pid, p, d, by simp only [currentDescriptor, running, here], device⟩

theorem writeScreen_of_clockAt {fd : Nat} (device : k.ClockAt fd) (address length : Nat) :
    k.writeScreen fd address length = k.write fd (some (k.userBytes address length)) := by
  obtain ⟨pid, p, d, found, bound⟩ := device
  have other : ¬ Binding.rtc = .terminalOut := nofun
  simp only [writeScreen, found, bound, if_neg other]

theorem readInto_of_clockAt {fd : Nat} (device : k.ClockAt fd) (buffer : List UInt8) :
    k.readInto fd buffer =
      (k, (Bytes.ofWord k.rtc.ticks.toNat).take buffer.length ++ buffer.drop 4,
        .ok (min 4 buffer.length)) := by
  obtain ⟨pid, p, d, found, bound⟩ := device
  have copied : ((Bytes.ofWord k.rtc.ticks.toNat).take buffer.length).length =
      min 4 buffer.length := by
    rw [List.length_take, Bytes.length_ofNat, Nat.min_comm]
  have beyond : buffer.drop (min 4 buffer.length) = buffer.drop 4 := by
    rcases Nat.le_total 4 buffer.length with long | short
    · rw [Nat.min_eq_left long]
    · rw [Nat.min_eq_right short, List.drop_length, List.drop_eq_nil_of_le short]
  simp only [readInto, read, found, bound, Rtc.read, Bytes.fill, Delivery.done, Delivery.count,
    copied, beyond]

/-! ## What one action does to the clock -/

/-- The ways in which an action treats the clock. -/
inductive Clocked (k k' : Kernel) (a : Action) : Prop
  | sets {hz rate : Nat} (sets : k.Sets a hz) (found : rateFor? hz = some rate)
      (after : k'.timing = (k.rtc.setFrequency hz, k.clock.withRate rate))
  | counts (interrupt : a = .clockTick) (after : k'.timing = (k.rtc.tick, k.clock))
  | keeps (other : a ≠ .clockTick) (quiet : ∀ hz, ¬ k.Sets a hz) (after : k'.timing = k.timing)

theorem clocked_openFile (k : Kernel) (name : List UInt8) :
    k.Clocked (k.openFile name).1 (.openFile name) := by
  rcases k.openFile_cases name with ⟨_, failed⟩ | ⟨pid, p, e, fd, _, found, _, opens⟩
  · refine .keeps nofun (fun hz sets => ?_) (by rw [failed])
    cases sets with
    | opened opens _ _ =>
      rw [failed] at opens
      cases opens
    | written writes _ _ => cases writes
  · cases kind : e.fileType with
    | rtc =>
      refine .sets (.opened (congrArg Prod.snd opens) found kind)
        (rateFor?_pow (e := 1) (by decide) (by decide)) ?_
      rw [opens, Descriptor.opened, kind]
      exact timing_programClock (rateFor?_pow (e := 1) (by decide) (by decide)) _
    | directory | regular =>
      refine .keeps nofun (fun hz sets => ?_) ?_
      · cases sets with
        | opened _ found' device =>
          rw [found] at found'
          cases found'
          rw [kind] at device
          cases device
        | written writes _ _ => cases writes
      · rw [opens, Descriptor.opened, kind]
        rfl

/-- A write to the device gives it what it asks for; any other write leaves the clock alone. -/
theorem clocked_writes {fd : Nat} {bytes : List UInt8} (writes : k.Writes a fd bytes)
    (device : k.ClockAt fd → k'.timing = (k.writeClock bytes).1.timing)
    (other : ¬ k.ClockAt fd → k'.timing = k.timing) : k.Clocked k' a := by
  have noTick : a ≠ .clockTick := by
    cases writes <;> nofun
  by_cases clock : k.ClockAt fd
  · by_cases requested : Requests bytes
    · obtain ⟨rate, found⟩ := Option.isSome_iff_exists.mp (isSome_rateFor?_iff.mpr requested.2)
      refine .sets (.written writes clock requested) found ?_
      rw [device clock, writeClock_of_requests requested, timing_programClock found]
    · refine .keeps noTick (fun hz sets => ?_) ?_
      · cases sets with
        | opened _ _ _ => cases writes
        | written writes' _ requested' => exact requested (writes.unique writes' ▸ requested')
      · rw [device clock, writeClock_of_not_requests requested]
  · refine .keeps noTick (fun hz sets => ?_) (other clock)
    cases sets with
    | opened _ _ _ => cases writes
    | written writes' clock' _ =>
      cases writes <;> cases writes' <;> exact clock clock'

theorem timing_write {fd : Nat} (other : ¬ k.ClockAt fd) (buffer : Option (List UInt8)) :
    (k.write fd buffer).1.timing = k.timing := by
  unfold write
  split
  · rfl
  · rfl
  · rename_i pid p d bytes found
    split
    · exact k.timing_print _ _
    · rename_i bound
      exact absurd ⟨pid, p, d, found, bound⟩ other
    all_goals rfl

theorem timing_writeScreen {fd : Nat} (other : ¬ k.ClockAt fd) (address length : Nat) :
    (k.writeScreen fd address length).1.timing = k.timing := by
  unfold writeScreen
  dsimp only
  split
  · rename_i pid p d found
    split
    · have printed := k.timing_printUser p.terminal address
        (Bytes.untilNul (k.userBytes address length)).length
      split
      · exact printed
      · exact printed
    · exact timing_write other _
  · exact timing_write other _

theorem timing_ofCall {call : Kernel × Except SyscallError Transfer}
    (kept : call.1.timing = k.timing) : (ofCall call).1.timing = k.timing := by
  obtain ⟨k', cause | transfer⟩ := call <;> exact kept

theorem timing_start (k : Kernel) : k.start.1.timing = k.timing :=
  k.timing_spawn .first shellName [] (some .first)

theorem clocked_act (k : Kernel) (a : Action) : k.Clocked (k.act a).1 a := by
  -- All actions but four are neither an interrupt of the clock nor able to give it something.
  have keeps : ∀ {k' : Kernel}, a ≠ .clockTick → (∀ name, a ≠ .openFile name) →
      (∀ fd bytes, ¬ k.Writes a fd bytes) → k'.timing = k.timing → k.Clocked k' a := by
    intro k' noTick noOpen noWrite kept
    refine .keeps noTick (fun hz sets => ?_) kept
    cases sets with
    | opened _ _ _ => exact noOpen _ rfl
    | written writes _ _ => exact noWrite _ _ writes
  cases a with
  | start => exact keeps nofun nofun nofun (timing_ofCall k.timing_start)
  | execute line => exact keeps nofun nofun nofun (timing_ofCall (k.timing_execute line))
  | halt status => exact keeps nofun nofun nofun (timing_ofCall (k.timing_halt status))
  | openFile name => exact k.clocked_openFile name
  | closeFile fd => exact keeps nofun nofun nofun (k.timing_closeFile fd)
  | read fd room => exact keeps nofun nofun nofun (k.timing_read fd room)
  | write fd buffer =>
    cases buffer with
    | none =>
      refine keeps nofun nofun nofun ?_
      have kept : (k.write fd none).1 = k := by
        unfold write
        split <;> first | rfl | contradiction
      exact congrArg timing kept
    | some bytes =>
      exact clocked_writes (.buffer fd bytes)
        (fun device => congrArg (·.1.timing) (write_of_clockAt device bytes))
        (fun other => timing_write other _)
  | getArgs room => exact keeps nofun nofun nofun rfl
  | mapVideo address => exact keeps nofun nofun nofun (k.timing_mapVideo address)
  | writeScreen fd address length =>
    refine clocked_writes (.screen fd address length) (fun device => ?_)
      (fun other => timing_writeScreen other address length)
    exact congrArg (·.1.timing)
      ((writeScreen_of_clockAt device address length).trans (write_of_clockAt device _))
  | store address bytes => exact keeps nofun nofun nofun (k.timing_storeUser address bytes)
  | tick => exact keeps nofun nofun nofun k.timing_tick
  | switchTerminal t => exact keeps nofun nofun nofun (k.timing_switchTerminal t)
  | key key => exact keeps nofun nofun nofun (k.timing_handleKey key)
  | clockTick => exact .counts rfl rfl
  | emit effects => exact keeps nofun nofun nofun rfl

end Kernel

/-! ## Whole runs -/

namespace Moment

/-- The action gives the clock a frequency. -/
abbrev Sets (m : Moment) (hz : Nat) : Prop := m.before.Sets m.action hz

theorem clocked (m : Moment) (address : Option Nat) :
    m.before.Clocked (m.after.withStackPointer address) m.action := by
  have kept : (m.after.withStackPointer address).timing = (m.before.act m.action).1.timing := by
    obtain ⟨_, _, same⟩ := m.after_eq
    rw [same]
    rfl
  cases m.before.clocked_act m.action with
  | sets sets found after => exact .sets sets found (kept.trans after)
  | counts interrupt after => exact .counts interrupt (kept.trans after)
  | keeps other quiet after => exact .keeps other quiet (kept.trans after)

end Moment

/-- The frequency that a history gave to the clock last. -/
inductive LastGiven : List Moment → Option Nat → Prop
  | none : LastGiven [] none
  | given {h : List Moment} {m : Moment} {hz : Nat} (sets : m.Sets hz) :
      LastGiven (m :: h) (some hz)
  | kept {h : List Moment} {m : Moment} {given : Option Nat} (quiet : ∀ hz, ¬ m.Sets hz)
      (earlier : LastGiven h given) : LastGiven (m :: h) given

theorem LastGiven.unique {h : List Moment} {given given' : Option Nat} (last : LastGiven h given)
    (last' : LastGiven h given') : given = given' := by
  induction last generalizing given' with
  | none =>
    cases last'
    rfl
  | given sets =>
    cases last' with
    | given sets' => rw [sets.unique sets']
    | kept quiet _ => exact absurd sets (quiet _)
  | kept quiet _ ih =>
    cases last' with
    | given sets' => exact absurd sets' (quiet _)
    | kept _ earlier => exact ih earlier

theorem LastGiven.isFrequency {h : List Moment} {hz : Nat} (last : LastGiven h (some hz)) :
    IsFrequency hz := by
  generalize given : some hz = found at last
  induction last with
  | none => cases given
  | given sets =>
    cases given
    exact sets.isFrequency
  | kept _ _ ih => exact ih given

def clockTicks (h : List Moment) : Nat := h.countP fun m => m.action = .clockTick

/-- The clock after a history that began with the kernel `k₀`. -/
structure Timed (k₀ : Kernel) (h : List Moment) (k : Kernel) : Prop where
  given : LastGiven h k.rtc.programmed
  frequency : k.rtc.frequency = k.rtc.programmed.getD rtcDefaultHz
  rate : ∀ hz, k.rtc.programmed = some hz → rateFor? hz = some k.clock.rate
  untouched : k.rtc.programmed = none → k.clock = k₀.clock
  ticks : k.rtc.ticks = UInt32.ofNat (clockTicks h)

/-- What gives the clock nothing keeps its frequency, whether it counts an interrupt or not. -/
theorem Timed.of_quiet {k₀ k : Kernel} {h : List Moment} {m : Moment} {ticks : UInt32}
    (timed : Timed k₀ h m.before) (quiet : ∀ hz, ¬ m.Sets hz)
    (after : k.timing = ({ m.before.rtc with ticks }, m.before.clock))
    (counted : ticks = UInt32.ofNat (clockTicks (m :: h))) : Timed k₀ (m :: h) k := by
  obtain ⟨rtc, clock⟩ := Prod.mk.inj after
  refine ⟨?_, ?_, ?_, ?_, ?_⟩
  · rw [rtc]
    exact .kept quiet timed.given
  · rw [rtc]
    exact timed.frequency
  · rw [rtc, clock]
    exact timed.rate
  · rw [rtc, clock]
    exact timed.untouched
  · rw [rtc]
    exact counted

/-- What gives it a frequency sets both the kernel and the device, and counts nothing. -/
theorem Timed.of_sets {k₀ k : Kernel} {h : List Moment} {m : Moment} {hz rate : Nat}
    (timed : Timed k₀ h m.before) (sets : m.Sets hz) (found : rateFor? hz = some rate)
    (after : k.timing = (m.before.rtc.setFrequency hz, m.before.clock.withRate rate))
    (counted : clockTicks (m :: h) = clockTicks h) : Timed k₀ (m :: h) k := by
  obtain ⟨rtc, clock⟩ := Prod.mk.inj after
  refine ⟨?_, ?_, ?_, ?_, ?_⟩
  · rw [rtc]
    exact .given sets
  · rw [rtc]
    rfl
  · rw [rtc, clock]
    rintro _ ⟨⟩
    rw [ClockRegisters.rate_withRate _ (rates_of_rateFor? found).small, found]
  · rw [rtc]
    exact nofun
  · rw [rtc, counted]
    exact timed.ticks

theorem Timed.step {k₀ k : Kernel} {h : List Moment} (m : Moment) (timed : Timed k₀ h m.before)
    (clocked : m.before.Clocked k m.action) : Timed k₀ (m :: h) k := by
  have others (other : m.action ≠ .clockTick) : clockTicks (m :: h) = clockTicks h :=
    List.countP_cons_of_neg (by simpa using other)
  cases clocked with
  | sets sets found after => exact timed.of_sets sets found after (others sets.ne_clockTick)
  | counts interrupt after =>
    have once : clockTicks (m :: h) = clockTicks h + 1 :=
      List.countP_cons_of_pos (by simpa using interrupt)
    refine timed.of_quiet (fun hz sets => sets.ne_clockTick interrupt) after ?_
    rw [once, UInt32.ofNat_add]
    exact congrArg (· + 1) timed.ticks
  | keeps other quiet after =>
    exact timed.of_quiet quiet after (timed.ticks.trans (congrArg UInt32.ofNat (others other).symm))

/-- What the clock does follows from the history, of which `k₀` is the beginning. -/
structure ClockFollows (k₀ : Kernel) (h : List Moment) (k : Kernel) : Prop where
  supported : IsFrequency k.rtc.frequency
  /-- The kernel keeps the frequency that it gave to the device last. -/
  stored : k.rtc.frequency = k.rtc.programmed.getD rtcDefaultHz
  lastGiven : ∀ given, LastGiven h given ↔ k.rtc.programmed = given
  /-- The device runs at that frequency's rate. -/
  device : k.rtc.programmed.isSome = true → rateFor? k.rtc.frequency = some k.clock.rate
  /-- Where its devices were started before, it does so from the beginning. -/
  booted : ∀ files arena storage, k₀ = Computer.startKernel files arena storage →
    rateFor? k.rtc.frequency = some k.clock.rate

/-- What calls on the clock's device do after the given number of interrupts. -/
structure Kernel.ServesClock (k : Kernel) (fd ticks : Nat) : Prop where
  accepts : ∀ bytes, Requests bytes → ∃ k', k.write fd (some bytes) = (k', .ok 4) ∧
    k'.rtc = k.rtc.setFrequency (Bytes.toNat bytes) ∧
    rateFor? (Bytes.toNat bytes) = some k'.clock.rate
  rejects : ∀ buffer, (∀ bytes ∈ buffer, ¬ Requests bytes) →
    k.write fd buffer = (k, .error .invalidArgument)
  /-- Where the bytes lie makes no difference. -/
  screen : ∀ address length,
    k.writeScreen fd address length = k.write fd (some (k.userBytes address length))
  reads : ∀ buffer, k.readInto fd buffer =
    (k, (Bytes.ofWord (ticks % 2 ^ 32)).take buffer.length ++ buffer.drop 4,
      .ok (min 4 buffer.length))

theorem Kernel.servesClock {k : Kernel} {fd ticks : Nat} (device : k.ClockAt fd)
    (counted : k.rtc.ticks = UInt32.ofNat ticks) : k.ServesClock fd ticks where
  accepts bytes requested := by
    obtain ⟨rate, found⟩ := Option.isSome_iff_exists.mp (isSome_rateFor?_iff.mpr requested.2)
    obtain ⟨rtc, clock⟩ := Prod.mk.inj (timing_programClock found
      { k with rtc := k.rtc.setFrequency (Bytes.toNat bytes) })
    refine ⟨_, (write_of_clockAt device bytes).trans (writeClock_of_requests requested), rtc, ?_⟩
    rw [clock, ClockRegisters.rate_withRate _ (rates_of_rateFor? found).small, found]
  rejects buffer refused := by
    cases buffer with
    | none =>
      obtain ⟨pid, p, d, found, _⟩ := device
      simp only [write, found]
    | some bytes =>
      rw [write_of_clockAt device, writeClock_of_not_requests (refused bytes rfl)]
  screen := writeScreen_of_clockAt device
  reads buffer := by
    rw [readInto_of_clockAt device, counted, UInt32.toNat_ofNat']

theorem Computer.rate_startKernel (files : FileSystem) (arena : Arena) (storage : Kernel.Storage) :
    rateFor? rtcDefaultHz = some (startKernel files arena storage).clock.rate := by
  have found : rateFor? rtcDefaultHz = some 15 := rateFor?_pow (e := 1) (by decide) (by decide)
  have starts (k : Kernel) : (startClock k).clock.rate = 15 := by
    have set := Kernel.timing_programClock found ({ k with clock := k.clock.withPeriodic }.emit
      (clockWrites clockRegisterB k.clock.withPeriodic.b))
    have clock : (startClock k).clock = k.clock.withPeriodic.withRate 15 := congrArg Prod.snd set
    rw [clock, ClockRegisters.rate_withRate _ (by decide)]
  have logged (k : Kernel) (n : Notice) : (k.log n).clock = k.clock := rfl
  rw [startKernel, logged, starts, found]

namespace Run

variable {k₀ k : Kernel} {h : List Moment}

theorem timed (run : Run k₀ h k) (fresh : k₀.rtc = .new) : Timed k₀ h k := by
  induction run with
  | new address _ =>
    have rtc : (k₀.withStackPointer address).rtc = .new := fresh
    refine ⟨?_, ?_, ?_, fun _ => rfl, ?_⟩
    · rw [rtc]
      exact .none
    · rw [rtc]
      rfl
    · rw [rtc]
      exact nofun
    · rw [rtc]
      rfl
  | step _ a _ saved address _ ih => exact ih.step ⟨_, a, saved⟩ (Moment.clocked _ address)

/-- In every run the clock has a frequency that can be asked for: what was given to it last, which is
the default of the last opening of its device or the value of the last write that was accepted, and the
default as long as nothing was given to it. The device runs at the rate for it. A write is accepted
exactly if its four bytes ask for such a frequency, and changes nothing otherwise; a read copies the
number of interrupts so far. Each frequency has a rate of its own that the device has room for. -/
theorem clock_determined (run : Run k₀ h k) (fresh : k₀.rtc = .new) :
    ClockFollows k₀ h k ∧ (∀ fd, k.ClockAt fd → k.ServesClock fd (clockTicks h)) ∧
      (∀ hz, IsFrequency hz ↔ ∃ rate, rateFor? hz = some rate) ∧
      (∀ hz rate, rateFor? hz = some rate → Rates hz rate) ∧
      ∀ hz hz' rate, rateFor? hz = some rate → rateFor? hz' = some rate → hz = hz' := by
  have timed := run.timed fresh
  have set (hz : Nat) (given : k.rtc.programmed = some hz) :
      rateFor? k.rtc.frequency = some k.clock.rate := by
    rw [timed.frequency, given]
    exact timed.rate hz given
  refine ⟨⟨?_, timed.frequency, fun given => ⟨timed.given.unique, ?_⟩, fun given => ?_, ?_⟩,
    fun fd device => Kernel.servesClock device timed.ticks,
    fun hz => isSome_rateFor?_iff.symm.trans Option.isSome_iff_exists,
    fun hz rate => rates_of_rateFor?, fun hz hz' rate => rateFor?_injective⟩
  · rw [timed.frequency]
    cases given : k.rtc.programmed with
    | none => exact isFrequency_default
    | some hz => exact (given ▸ timed.given).isFrequency
  · rintro rfl
    exact timed.given
  · obtain ⟨hz, given⟩ := Option.isSome_iff_exists.mp given
    exact set hz given
  · rintro files arena storage rfl
    cases given : k.rtc.programmed with
    | none =>
      rw [timed.frequency, given, timed.untouched given]
      exact Computer.rate_startKernel files arena storage
    | some hz => exact set hz given

end Run

/-! ## A clock to look at -/

namespace Sample

open Kernel PlannedEntry

/-- The clock's device, and the shell. -/
def clockEntries : List PlannedEntry := [.rtc (ascii "rtc"), .file shellName shellProgram]

theorem wellFormed_clock : PlannedEntry.WellFormed clockEntries := by
  constructor <;> decide

/-- The shell opens the device and asks for 64 Hz. Then the clock interrupts. -/
abbrev setting : List Action :=
  [.clockTick, .write 2 (some (Bytes.ofWord 64)), .openFile (ascii "rtc"), .start]

theorem begins_setting : Action.Begins setting :=
  ⟨by simp, ⟨by simp, ⟨by simp, ⟨by simp, trivial⟩⟩⟩⟩

theorem play_onlyDevices (k₀ : Kernel) (a : Action) (earlier : List Action)
    (stays : ((k₀.play flow earlier).2.act a).2 = .stay)
    (only : (k₀.play flow earlier).2.OnlyDevices ((k₀.play flow earlier).2.act a).1) :
    (k₀.play flow (a :: earlier)).2.roster = (k₀.play flow earlier).2.roster ∧
      (k₀.play flow (a :: earlier)).2.holdings = (k₀.play flow earlier).2.holdings := by
  have roster := Moment.roster_after ⟨(k₀.play flow earlier).2, a, some flow⟩
  have held := Moment.holdings_after ⟨(k₀.play flow earlier).2, a, some flow⟩
  rw [Moment.decided, Moment.transfer, stays, only.roster] at roster
  rw [Moment.decided, holdings_congr only.processes] at held
  exact ⟨roster, held⟩

section Clock

variable {files : FileSystem} (mounted : files.MountedFrom (PlannedEntry.plan clockEntries))
include mounted

theorem startable_clock {k : Kernel} {pid : ProcessId} (same : k.files = files)
    (room : k.processes.free? = some pid) : k.Startable shellName shell pid :=
  startable_of_stores
    (lookup_plan (i := 1) (e := .file shellName shellProgram) wellFormed_clock mounted rfl)
    (mounted.storesFile (i := 0) wellFormed_clock.fits rfl) same room

theorem lookup_clock : files.lookup (ascii "rtc") = .ok ⟨ascii "rtc", .rtc, 0⟩ :=
  lookup_plan (i := 0) (e := .rtc (ascii "rtc")) wellFormed_clock mounted rfl

theorem held_clock :
    ((Kernel.new files arena storage).play flow [.openFile (ascii "rtc"), .start]).2.roster =
        { started with files } ∧
      Held ((Kernel.new files arena storage).play flow [.openFile (ascii "rtc"), .start]).2.holdings 0 2
        ⟨.rtc, true, 0, 0⟩ := by
  have opens := opens_play (startable_clock mounted) (lookup_clock mounted)
  obtain ⟨p, e, _, found, _, after⟩ := opens.bound
  have begins : Action.Begins [.start] := ⟨by simp, trivial⟩
  have same := (run_play files begins).fixed.1
  rw [same, lookup_clock mounted] at found
  cases found
  refine ⟨(roster_play_openFile _ _ _).trans (started_play (startable_clock mounted)).1, ?_⟩
  have bound : Held (Moment.after ⟨((Kernel.new files arena storage).play flow [.start]).2,
      .openFile (ascii "rtc"), some flow⟩).holdings 0 2 ⟨.rtc, true, 0, 0⟩ := by
    rw [after]
    exact .of_setDescriptor (by decide) rfl
  exact bound

theorem held_setting :
    ((Kernel.new files arena storage).play flow setting).2.roster = { started with files } ∧
      Held ((Kernel.new files arena storage).play flow setting).2.holdings 0 2 ⟨.rtc, true, 0, 0⟩ := by
  obtain ⟨roster, bound⟩ := held_clock mounted
  obtain ⟨written, kept⟩ := play_onlyDevices (.new files arena storage)
    (.write 2 (some (Bytes.ofWord 64))) [.openFile (ascii "rtc"), .start] rfl (onlyDevices_write _ _ _)
  obtain ⟨ticked, kept'⟩ := play_onlyDevices (.new files arena storage) .clockTick
    [.write 2 (some (Bytes.ofWord 64)), .openFile (ascii "rtc"), .start] rfl ⟨_, _, _, _, _, rfl⟩
  rw [ticked, kept', written, kept]
  exact ⟨roster, bound⟩

end Clock

/-- The clock runs at 64 Hz, for which its rate is 10, and the shell reads that it interrupted once. -/
theorem clock_determined_setting :
    ∃ files, FileSystem.mount (PlannedEntry.plan clockEntries).build = .ok files ∧
      Run (.new files arena storage) ((Kernel.new files arena storage).play flow setting).1
        ((Kernel.new files arena storage).play flow setting).2 ∧
      (Kernel.new files arena storage).rtc = .new ∧
      ((Kernel.new files arena storage).play flow setting).2.rtc.frequency = 64 ∧
      ((Kernel.new files arena storage).play flow setting).2.clock.rate = 10 ∧
      (((Kernel.new files arena storage).play flow setting).2.readInto 2 (List.replicate 6 0xFF)).2 =
        ([1, 0, 0, 0, 0xFF, 0xFF], .ok 4) := by
  obtain ⟨files, accepted, mounted⟩ := FileSystem.mount_build wellFormed_clock.fits
  obtain ⟨opened, bound⟩ := held_clock mounted
  obtain ⟨final, boundAtEnd⟩ := held_setting mounted
  have begins : Action.Begins [.openFile (ascii "rtc"), .start] := ⟨by simp, ⟨by simp, trivial⟩⟩
  have device := clockAt_of_held (current_play begins opened) bound rfl
  have deviceAtEnd := clockAt_of_held (current_play begins_setting final) boundAtEnd rfl
  have run := run_play files begins_setting
  obtain ⟨follows, serves, _⟩ := Run.clock_determined run rfl
  have requested : Requests (Bytes.ofWord 64) := ⟨rfl, 6, by decide, by decide, by decide⟩
  have last : LastGiven ((Kernel.new files arena storage).play flow setting).1 (some 64) := by
    refine .kept (fun hz sets => sets.ne_clockTick rfl) ?_
    exact .given (.written (.buffer 2 _) device requested)
  have given := (follows.lastGiven _).mp last
  have stored : ((Kernel.new files arena storage).play flow setting).2.rtc.frequency = 64 := by
    rw [follows.stored, given]
    rfl
  have rate := follows.device (Option.isSome_of_eq_some given)
  rw [stored] at rate
  have found : rateFor? 64 = some 10 := rateFor?_pow (e := 6) (by decide) (by decide)
  refine ⟨files, accepted, run, rfl, stored, Option.some_inj.mp (rate.symm.trans found), ?_⟩
  have once : clockTicks ((Kernel.new files arena storage).play flow setting).1 = 1 := rfl
  rw [(serves 2 deviceAtEnd).reads, once]
  rfl

end Sample

end TerminalKernel
