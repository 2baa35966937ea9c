import Mathlib.Data.List.Find
import TerminalKernel.Memory
import TerminalKernel.Proofs.ProcessMap
import TerminalKernel.Proofs.RecordLayout
import TerminalKernel.Proofs.StackPointers

/-!
# The process table in memory

In memory the record of a process lies at the low end of its slot, below its kernel stack, and a bit
for each number says whether what lies there is a record. How bits are read and written is a parameter
(`BitOps`), and so is how a record is laid out. Slots are not cleared: the memory may hold
anything at first, stacks grow and shrink above the records, and a new record is written over what the
last process of the number left. Nevertheless such a table cannot be told from one that keeps each
record apart (`Represents`), and both keep to the calls that were made
(`ProcessTable.refines_map`).
-/

namespace TerminalKernel

variable {τ : Type}

/-- How single bits of a byte are read and written, with bit 0 the least one. -/
structure BitOps where
  get (byte : BitVec 8) (i : Nat) : Bool
  set (byte : BitVec 8) (i : Nat) (value : Bool) : BitVec 8
  get_eq : ∀ byte i, i < 8 → get byte i = byte.getLsbD i
  getLsbD_set : ∀ byte i value j, i < 8 → j < 8 →
    (set byte i value).getLsbD j = if j = i then value else byte.getLsbD j

structure StoredTable where
  arena : Arena
  /-- The bit of a live process is set. -/
  bits : BitVec 8
  memory : Memory

namespace StoredTable

variable (ops : BitOps) (layout : Layout (ProcessRecord τ)) (s : StoredTable)

def isLive (pid : ProcessId) : Bool := decide (pid < maxProcesses) && ops.get s.bits pid

def liveCount : Nat := s.bits.cpop.toNat

def free? : Option ProcessId := (List.range maxProcesses).find? fun pid => !ops.get s.bits pid

/-- What lies at the low end of a live process's slot. -/
def process? (pid : ProcessId) : Option (ProcessRecord τ) :=
  if s.isLive ops pid then layout.read (s.memory.read (s.arena.slotFor pid) layout.size) else none

/-- Say whether what lies in a slot is a record. -/
def mark (pid : ProcessId) (live : Bool) : StoredTable :=
  { s with bits := ops.set s.bits pid live }

/-- Write a record over what lies in a slot. -/
def store (pid : ProcessId) (p : ProcessRecord τ) : StoredTable :=
  { s with memory := s.memory.write (s.arena.slotFor pid) (layout.bytes p) }

def call : TableCall τ → StoredTable × Option ProcessId
  | .allocate terminal parent args =>
    match s.free? ops with
    | some pid =>
      ((s.store layout pid (.new pid (parent.getD pid) terminal args)).mark ops pid true, some pid)
    | none => (s, none)
  | .release pid => (if pid < maxProcesses then s.mark ops pid false else s, none)
  | .update pid f =>
    match s.process? ops layout pid with
    | some p => (s.store layout pid (f p), none)
    | none => (s, none)

def current? (stackPointer : Nat) : Option ProcessId :=
  (s.arena.holder? stackPointer).filter (s.isLive ops)

end StoredTable

/-- What the call writes fits into records. -/
def TableCall.Fits (layout : Layout (ProcessRecord τ)) : TableCall τ → Prop
  | .allocate terminal parent args =>
    ∀ pid, pid < maxProcesses → layout.Fits (.new pid (parent.getD pid) terminal args)
  | .release _ => True
  | .update _ f => ∀ p, layout.Fits p → layout.Fits (f p)

/-- The histories of calls, each with the table it leads to. Between calls anything may be written
outside the records of live processes. -/
inductive StoredRun (ops : BitOps) (layout : Layout (ProcessRecord τ)) (arena : Arena) :
    List (TableMove τ) → StoredTable → Prop
  | new (memory : Memory) : StoredRun ops layout arena [] ⟨arena, 0, memory⟩
  | call {h : List (TableMove τ)} {s : StoredTable} (run : StoredRun ops layout arena h s)
      (c : TableCall τ) (fits : c.Fits layout) :
      StoredRun ops layout arena (⟨c, (s.call ops layout c).2⟩ :: h) (s.call ops layout c).1
  | disturb {h : List (TableMove τ)} {s : StoredTable} (run : StoredRun ops layout arena h s)
      (memory : Memory)
      (kept : ∀ pid, s.isLive ops pid = true → ∀ i < layout.size,
        memory.byteAt (s.arena.slotFor pid + i) = s.memory.byteAt (s.arena.slotFor pid + i)) :
      StoredRun ops layout arena h { s with memory }

/-! ## Bits and bytes -/

/-- As many bits are set as can be found set. -/
theorem StoredTable.toNat_cpop_eq_countP {w : Nat} (b : BitVec w) :
    b.cpop.toNat = (List.range w).countP b.getLsbD := by
  have counted (n : Nat) : b.cpopNatRec n 0 = (List.range n).countP b.getLsbD := by
    induction n with
    | zero => rfl
    | succ n ih =>
      rw [BitVec.cpopNatRec_succ, BitVec.cpopNatRec_eq, ih, List.range_succ, List.countP_append]
      cases set : b.getLsbD n <;> simp [set]
  rw [BitVec.toNat_cpop, counted]

theorem Memory.read_congr {m m' : Memory} {address count : Nat}
    (same : ∀ i < count, m'.byteAt (address + i) = m.byteAt (address + i)) :
    m'.read address count = m.read address count :=
  List.map_congr_left fun i inside => same i (List.mem_range.mp inside)

namespace ProcessTable

variable {t : ProcessTable τ} {pid : ProcessId} {p : ProcessRecord τ}

theorem isLive_insert (valid : pid < maxProcesses) (q : ProcessId) :
    (t.insert pid p).isLive q = (t.isLive q || decide (pid = q)) := by
  rw [isLive, process?_insert_of_valid valid, Function.update_apply, isLive]
  by_cases same : q = pid
  · simp [same]
  · simp [same, Ne.symm same]

theorem isLive_release (q : ProcessId) :
    (t.release pid).isLive q = (t.isLive q && !decide (pid = q)) := by
  rw [isLive, process?_release, isLive]
  by_cases same : pid = q
  · simp [same]
  · simp [same]

theorem release_of_le (beyond : maxProcesses ≤ pid) : t.release pid = t :=
  congrArg (ProcessTable.mk t.arena) (Vector.setIfInBounds_eq_of_size_le beyond)

theorem isLive_of_le (beyond : maxProcesses ≤ pid) : t.isLive pid = false := by
  by_contra live
  rw [Bool.not_eq_false, isLive_iff] at live
  obtain ⟨p, found⟩ := live
  exact Nat.not_lt.mpr beyond (lt_of_process? found)

end ProcessTable

/-! ## Representation -/

/-- The stored table stands for the other one. Bits beyond the last number are never set. -/
structure Represents (layout : Layout (ProcessRecord τ)) (t : ProcessTable τ) (s : StoredTable) :
    Prop where
  arena : s.arena = t.arena
  bits : ∀ i, s.bits.getLsbD i = t.isLive i
  stored : ∀ pid p, t.process? pid = some p → layout.Fits p ∧
    s.memory.read (s.arena.slotFor pid) layout.size = layout.bytes p

namespace Represents

variable {ops : BitOps} {layout : Layout (ProcessRecord τ)} {t : ProcessTable τ} {s : StoredTable}
  {pid : ProcessId} {p : ProcessRecord τ}

theorem get_bits (same : Represents layout t s) (valid : pid < maxProcesses) :
    ops.get s.bits pid = t.isLive pid := by
  rw [ops.get_eq _ _ (Nat.lt_trans valid (by decide)), same.bits]

theorem isLive (same : Represents layout t s) : s.isLive ops = t.isLive := by
  funext pid
  by_cases valid : pid < maxProcesses
  · rw [StoredTable.isLive, same.get_bits valid, decide_eq_true valid, Bool.true_and]
  · rw [StoredTable.isLive, decide_eq_false valid, Bool.false_and,
      ProcessTable.isLive_of_le (Nat.le_of_not_lt valid)]

theorem free? (same : Represents layout t s) : s.free? ops = t.free? := by
  refine List.find?_congr fun pid inside => ?_
  rw [same.get_bits (List.mem_range.mp inside)]

theorem process? (same : Represents layout t s) : s.process? ops layout = t.process? := by
  funext pid
  rw [StoredTable.process?, same.isLive]
  cases found : t.process? pid with
  | none => rw [ProcessTable.isLive_eq_false.mpr found, if_neg Bool.false_ne_true]
  | some p =>
    obtain ⟨fits, bytes⟩ := same.stored pid p found
    have back := layout.read_bytes p fits []
    rw [List.append_nil] at back
    rw [ProcessTable.isLive_iff.mpr ⟨p, found⟩, if_pos rfl, bytes, back]

theorem current? (same : Represents layout t s) : s.current? ops = t.current? := by
  funext stackPointer
  rw [StoredTable.current?, ProcessTable.current?, same.isLive, same.arena]

theorem liveCount (same : Represents layout t s) : s.liveCount = t.liveCount := by
  have bits : s.bits.getLsbD = t.isLive := funext same.bits
  have split : List.range 8 = List.range maxProcesses ++ [6, 7] := rfl
  have unused : [6, 7].countP t.isLive = 0 := by
    rw [List.countP_eq_zero]
    intro pid inside
    have beyond : maxProcesses ≤ pid := by
      rcases List.mem_pair.mp inside with rfl | rfl <;> decide
    rw [ProcessTable.isLive_of_le beyond]
    exact Bool.false_ne_true
  rw [StoredTable.liveCount, StoredTable.toNat_cpop_eq_countP, bits, split, List.countP_append, unused,
    List.countP_eq_length_filter]
  rfl

theorem empty (layout : Layout (ProcessRecord τ)) (arena : Arena) (memory : Memory) :
    Represents layout (.empty arena) ⟨arena, 0, memory⟩ where
  arena := rfl
  bits i := by
    rw [ProcessTable.isLive, ProcessTable.process?_empty]
    exact BitVec.getLsbD_zero
  stored pid p found := by
    rw [ProcessTable.process?_empty] at found
    cases found

theorem disturb (same : Represents layout t s) {memory : Memory}
    (kept : ∀ pid, s.isLive ops pid = true → ∀ i < layout.size,
      memory.byteAt (s.arena.slotFor pid + i) = s.memory.byteAt (s.arena.slotFor pid + i)) :
    Represents layout t { s with memory } where
  arena := same.arena
  bits := same.bits
  stored pid p found := by
    obtain ⟨fits, bytes⟩ := same.stored pid p found
    have live : s.isLive ops pid = true := by
      rw [same.isLive]
      exact ProcessTable.isLive_iff.mpr ⟨p, found⟩
    exact ⟨fits, (Memory.read_congr (kept pid live)).trans bytes⟩

/-- A record that is written lies in its own slot only. -/
theorem store (same : Represents layout t s) (small : layout.size ≤ stackSlotSize)
    (valid : pid < maxProcesses) (fits : layout.Fits p) {bits : BitVec 8}
    (live : ∀ i, bits.getLsbD i = (t.insert pid p).isLive i) :
    Represents layout (t.insert pid p) { s.store layout pid p with bits } where
  arena := same.arena
  bits := live
  stored q p' found := by
    have length := layout.length_bytes p fits
    rw [ProcessTable.process?_insert_of_valid valid, Function.update_apply] at found
    split at found
    · rename_i own
      cases found
      subst own
      refine ⟨fits, ?_⟩
      rw [← length]
      exact Memory.read_write_self ..
    · rename_i other
      obtain ⟨fits', bytes⟩ := same.stored q p' found
      refine ⟨fits', (Memory.read_congr fun i inside => ?_).trans bytes⟩
      have apart := Arena.slot_disjoint (a := s.arena) valid (ProcessTable.lt_of_process? found)
        (Ne.symm other)
      have away : s.arena.slotFor q + i < s.arena.slotFor pid ∨
          s.arena.slotFor pid + (layout.bytes p).length ≤ s.arena.slotFor q + i := by
        rw [length]
        omega
      exact Memory.byteAt_write_of_outside _ away

/-- A bit that is set or cleared is that of the one number which is or ceases to be live. -/
theorem bits_mark {t' : ProcessTable τ} (same : Represents layout t s) (valid : pid < maxProcesses)
    {live : Bool} (changed : ∀ q, t'.isLive q = if q = pid then live else t.isLive q) (i : Nat) :
    (ops.set s.bits pid live).getLsbD i = t'.isLive i := by
  by_cases inside : i < 8
  · rw [ops.getLsbD_set _ _ _ _ (Nat.lt_trans valid (by decide)) inside, same.bits, changed]
  · rw [BitVec.getLsbD_of_ge _ _ (Nat.le_of_not_lt inside),
      ProcessTable.isLive_of_le (Nat.le_trans (by decide) (Nat.le_of_not_lt inside))]

theorem release (same : Represents layout t s) (valid : pid < maxProcesses) :
    Represents layout (t.release pid) (s.mark ops pid false) where
  arena := same.arena
  bits := same.bits_mark valid fun q => by
    rw [ProcessTable.isLive_release]
    by_cases own : q = pid
    · simp [own]
    · simp [own, Ne.symm own]
  stored q p found := by
    rw [ProcessTable.process?_release] at found
    split at found
    · cases found
    · exact same.stored q p found

theorem allocate (same : Represents layout t s) (small : layout.size ≤ stackSlotSize) {terminal : τ}
    {parent : Option ProcessId} {args : List UInt8}
    (fits : (TableCall.allocate terminal parent args).Fits layout) :
    (s.call ops layout (.allocate terminal parent args)).2 =
        (t.call (.allocate terminal parent args)).2 ∧
      Represents layout (t.call (.allocate terminal parent args)).1
        (s.call ops layout (.allocate terminal parent args)).1 := by
  cases free : t.free? with
  | none =>
    rw [ProcessTable.allocate_of_full free]
    simp only [StoredTable.call, same.free?, free]
    exact ⟨trivial, same⟩
  | some pid =>
    have valid := (ProcessTable.free?_spec free).1
    rw [ProcessTable.allocate_of_free free]
    simp only [StoredTable.call, same.free?, free]
    refine ⟨trivial, same.store small valid (fits pid valid) (same.bits_mark valid fun q => ?_)⟩
    rw [ProcessTable.isLive_insert valid]
    by_cases own : q = pid
    · simp [own]
    · simp [own, Ne.symm own]

theorem call (same : Represents layout t s) (small : layout.size ≤ stackSlotSize) {c : TableCall τ}
    (fits : c.Fits layout) :
    (s.call ops layout c).2 = (t.call c).2 ∧
      Represents layout (t.call c).1 (s.call ops layout c).1 := by
  cases c with
  | allocate terminal parent args => exact same.allocate small fits
  | release pid =>
    refine ⟨rfl, ?_⟩
    change Represents layout (t.release pid) (if pid < maxProcesses then s.mark ops pid false else s)
    by_cases valid : pid < maxProcesses
    · rw [if_pos valid]
      exact same.release valid
    · rw [if_neg valid, ProcessTable.release_of_le (Nat.le_of_not_lt valid)]
      exact same
  | update pid f =>
    cases found : t.process? pid with
    | none =>
      simp only [StoredTable.call, ProcessTable.call, ProcessTable.update, same.process?, found]
      exact ⟨trivial, same⟩
    | some p =>
      have valid := ProcessTable.lt_of_process? found
      have live := ProcessTable.isLive_iff.mpr ⟨p, found⟩
      simp only [StoredTable.call, ProcessTable.call, ProcessTable.update, same.process?, found]
      refine ⟨trivial, same.store small valid (fits p (same.stored pid p found).1) fun i => ?_⟩
      rw [ProcessTable.isLive_insert valid, same.bits]
      by_cases own : pid = i
      · simp [← own, live]
      · simp [own]

end Represents

/-! ## Runs -/

/-- Whatever the memory holds at first and wherever else it is written, the stored table answers like
the other one and stands for it. -/
theorem StoredRun.represents {ops : BitOps} {layout : Layout (ProcessRecord τ)} {arena : Arena}
    {h : List (TableMove τ)} {s : StoredTable} (small : layout.size ≤ stackSlotSize)
    (run : StoredRun ops layout arena h s) :
    h = (ProcessTable.play arena (h.map (·.call))).1 ∧
      Represents layout (ProcessTable.play arena (h.map (·.call))).2 s := by
  induction run with
  | new memory => exact ⟨rfl, .empty layout arena memory⟩
  | @call h s _ c fits ih =>
    obtain ⟨answers, same⟩ := ih
    obtain ⟨answer, after⟩ := same.call small fits
    refine ⟨?_, after⟩
    rw [List.map_cons, ProcessTable.play_cons, ← answer, ← answers]
  | disturb _ memory kept ih => exact ⟨ih.1, ih.2.disturb kept⟩

/-- For all calls the table is the map from the numbers of live processes to their records: a new
process gets the least free number and a record that tells of nothing but its call, and no call reaches
another process. This is so as well for a table in memory, where each record takes less than half of
its slot, with whatever the slots held before. -/
theorem ProcessTable.refines_map (arena : Arena) :
    (∀ calls : List (TableCall τ), KeepsTable (play arena calls).1 (play arena calls).2.process?
      (play arena calls).2.isLive (play arena calls).2.liveCount) ∧
    ∀ (ops : BitOps) (layout : Layout (ProcessRecord τ)), layout.size < stackSlotSize / 2 →
      ∀ h s, StoredRun ops layout arena h s →
        KeepsTable h (s.process? ops layout) (s.isLive ops) s.liveCount ∧
        h = (play arena (h.map (·.call))).1 ∧
        s.process? ops layout = (play arena (h.map (·.call))).2.process? ∧
        s.current? ops = (play arena (h.map (·.call))).2.current? := by
  refine ⟨keeps_play arena, fun ops layout small h s run => ?_⟩
  have fits : layout.size ≤ stackSlotSize :=
    Nat.le_of_lt (Nat.lt_of_lt_of_le small (Nat.div_le_self ..))
  obtain ⟨answers, same⟩ := run.represents fits
  refine ⟨?_, answers, same.process?, same.current?⟩
  rw [same.process?, same.isLive, same.liveCount]
  have keeps := keeps_play arena (h.map (·.call))
  rwa [← answers] at keeps

namespace Sample

/-- Bits read by their place and written with a mask. -/
def bitOps : BitOps where
  get byte i := byte.getLsbD i
  set byte i value :=
    if value then byte ||| BitVec.twoPow 8 i else byte &&& ~~~BitVec.twoPow 8 i
  get_eq _ _ _ := rfl
  getLsbD_set byte i value j small inside := by
    cases value with
    | true =>
      rw [if_pos rfl, BitVec.getLsbD_or, BitVec.getLsbD_twoPow]
      by_cases own : j = i
      · simp [own, small]
      · simp [own, Ne.symm own]
    | false =>
      rw [if_neg Bool.false_ne_true, BitVec.getLsbD_and, BitVec.getLsbD_not, BitVec.getLsbD_twoPow]
      by_cases own : j = i
      · simp [own, small]
      · simp [own, Ne.symm own, inside]

theorem fits_calls (terminal : TerminalId) (args : List UInt8) (fd : Nat) (context : SavedContext) :
    (TableCall.allocate terminal none args).Fits (ProcessRecord.layout TerminalId.layout) ∧
      (TableCall.update 0 fun p =>
        { p.setDescriptor fd (.unfiled .regular) with callerContext := context }).Fits
          (ProcessRecord.layout TerminalId.layout) := by
  constructor
  · intro pid valid
    exact ProcessRecord.fits_new valid (Nat.lt_trans valid (by decide)) terminal.fits_layout args
  · intro p fits
    exact ProcessRecord.fits_callerContext
      (ProcessRecord.fits_setDescriptor fits fd (Descriptor.fits_layout.mpr (by decide))) context

/-- The calls of a process that opens a file and ends, and of the next one of its number, the latest
one first. -/
def reuse : List (TableCall TerminalId) :=
  [.allocate TerminalId.first.next none (ascii "new"), .release 0,
    .update 0 fun p => { p.setDescriptor 4 (.unfiled .regular) with callerContext := flow },
    .allocate TerminalId.first none (ascii "old")]

/-- In a memory full of ones, the second process of a number has its own record. -/
theorem refines_map_reuse : ∃ h s,
    StoredRun bitOps (ProcessRecord.layout TerminalId.layout) arena h s ∧ h.map (·.call) = reuse ∧
    s.process? bitOps (ProcessRecord.layout TerminalId.layout) 0 =
      some (.new 0 0 TerminalId.first.next (ascii "new")) := by
  have new : StoredRun bitOps (ProcessRecord.layout TerminalId.layout) arena []
      ⟨arena, 0, ⟨fun _ => 0xFF⟩⟩ := .new _
  have old := (new.call _ (fits_calls TerminalId.first (ascii "old") 4 flow).1).call _
    (fits_calls TerminalId.first [] 4 flow).2
  have run := (old.call (.release 0) trivial).call _
    (fits_calls TerminalId.first.next (ascii "new") 4 flow).1
  have small : (ProcessRecord.layout TerminalId.layout).size < stackSlotSize / 2 := by
    rw [ProcessRecord.size_layout]
    decide
  have same := ((ProcessTable.refines_map arena).2 _ _ small _ _ run).2.2.1
  refine ⟨_, _, run, rfl, ?_⟩
  rw [same]
  rfl

end Sample

end TerminalKernel
