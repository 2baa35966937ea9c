import Mathlib.Data.Set.Card
import Mathlib.Order.Bounds.Basic
import TerminalKernel.ProcessTable

/-!
# The process table as a map

A process table is told by what was done to it: the calls with their answers, the latest one first,
determine the record of every process (`recorded`), and a new process gets the least number that has
none. The table itself keeps to that for all calls (`ProcessTable.keeps_play`).
-/

namespace TerminalKernel

inductive TableCall (τ : Type)
  | allocate (terminal : τ) (parent : Option ProcessId) (args : List UInt8)
  | release (pid : ProcessId)
  /-- Change the record of a process in place. -/
  | update (pid : ProcessId) (f : ProcessRecord τ → ProcessRecord τ)

/-- A call with its answer: the number of a new process. -/
structure TableMove (τ : Type) where
  call : TableCall τ
  answer : Option ProcessId

variable {τ : Type}

/-! ## The map -/

/-- The records after one more call. -/
def TableMove.apply (m : TableMove τ) (records : ProcessId → Option (ProcessRecord τ)) :
    ProcessId → Option (ProcessRecord τ) :=
  match m with
  | ⟨.allocate terminal parent args, some pid⟩ =>
    Function.update records pid (some (.new pid (parent.getD pid) terminal args))
  | ⟨.allocate _ _ _, none⟩ => records
  | ⟨.release pid, _⟩ => Function.update records pid none
  | ⟨.update pid f, _⟩ => Function.update records pid ((records pid).map f)

/-- The record that was written last for each number and not given up since. -/
def recorded : List (TableMove τ) → ProcessId → Option (ProcessRecord τ)
  | [] => fun _ => none
  | m :: earlier => m.apply (recorded earlier)

/-- The numbers that a new process could get. -/
def freeNumbers (records : ProcessId → Option (ProcessRecord τ)) : Set ProcessId :=
  {pid | pid < maxProcesses ∧ records pid = none}

/-- A new process gets the least number that is free, and none only if there is none. -/
def TableMove.Answered (m : TableMove τ) (records : ProcessId → Option (ProcessRecord τ)) : Prop :=
  match m with
  | ⟨.allocate _ _ _, some pid⟩ => IsLeast (freeNumbers records) pid
  | ⟨.allocate _ _ _, none⟩ => freeNumbers records = ∅
  | ⟨.release _, answer⟩ | ⟨.update _ _, answer⟩ => answer = none

def TableMove.Names (m : TableMove τ) (pid : ProcessId) : Prop :=
  match m with
  | ⟨.allocate _ _ _, answer⟩ => answer = some pid
  | ⟨.release q, _⟩ | ⟨.update q _, _⟩ => q = pid

theorem TableMove.apply_of_not_names {m : TableMove τ} {pid : ProcessId} (other : ¬ m.Names pid)
    (records : ProcessId → Option (ProcessRecord τ)) : m.apply records pid = records pid := by
  obtain ⟨call, answer⟩ := m
  cases call with
  | allocate _ _ _ =>
    cases answer with
    | none => rfl
    | some q => exact Function.update_of_ne (fun same => other (congrArg some same.symm)) _ _
  | release q | update q _ => exact Function.update_of_ne (Ne.symm other) _ _

theorem recorded_of_not_names {later earlier : List (TableMove τ)} {pid : ProcessId}
    (others : ∀ m ∈ later, ¬ m.Names pid) :
    recorded (later ++ earlier) pid = recorded earlier pid := by
  induction later with
  | nil => rfl
  | cons m later ih =>
    obtain ⟨first, rest⟩ := List.forall_mem_cons.mp others
    exact (TableMove.apply_of_not_names first _).trans (ih rest)

/-- What a table of processes may be asked keeps to the calls that were made. -/
structure KeepsTable (h : List (TableMove τ)) (process? : ProcessId → Option (ProcessRecord τ))
    (isLive : ProcessId → Bool) (liveCount : Nat) : Prop where
  /-- Every call was answered as it should be. -/
  answered : ∀ later m earlier, h = later ++ m :: earlier → m.Answered (recorded earlier)
  records : process? = recorded h
  live : ∀ pid, isLive pid = true ↔ ∃ p, process? pid = some p
  valid : ∀ pid, isLive pid = true → pid < maxProcesses
  count : liveCount = {pid | isLive pid = true}.ncard
  /-- What calls about other processes leave alone. -/
  others : ∀ later earlier pid, h = later ++ earlier → (∀ m ∈ later, ¬ m.Names pid) →
    process? pid = recorded earlier pid
  /-- Numbers out of range are ignored. -/
  ignored : ∀ pid, maxProcesses ≤ pid → Function.update process? pid none = process?

namespace ProcessTable

/-! ## The table -/

def call (t : ProcessTable τ) : TableCall τ → ProcessTable τ × Option ProcessId
  | .allocate terminal parent args =>
    match t.allocate terminal parent args with
    | some (pid, t) => (t, some pid)
    | none => (t, none)
  | .release pid => (t.release pid, none)
  | .update pid f => (t.update pid f, none)

/-- Make some calls, the latest one first, beginning with no process. -/
def play (arena : Arena) : List (TableCall τ) → List (TableMove τ) × ProcessTable τ
  | [] => ([], .empty arena)
  | c :: earlier =>
    let (h, t) := play arena earlier
    (⟨c, (t.call c).2⟩ :: h, (t.call c).1)

theorem play_cons (arena : Arena) (c : TableCall τ) (earlier : List (TableCall τ)) :
    play arena (c :: earlier) =
      (⟨c, ((play arena earlier).2.call c).2⟩ :: (play arena earlier).1,
        ((play arena earlier).2.call c).1) := rfl

variable {t : ProcessTable τ} {pid : ProcessId}

theorem mem_freeNumbers : pid ∈ freeNumbers t.process? ↔
    pid < maxProcesses ∧ t.isLive pid = false := by
  rw [freeNumbers, Set.mem_ofPred_eq, isLive_eq_false]

theorem free?_eq_some_iff : t.free? = some pid ↔ IsLeast (freeNumbers t.process?) pid := by
  rw [free?, List.find?_range_eq_some, List.mem_range, Bool.not_eq_true']
  constructor
  · rintro ⟨free, valid, below⟩
    refine ⟨mem_freeNumbers.mpr ⟨valid, free⟩, fun q unused => ?_⟩
    by_contra less
    have live := below q (Nat.lt_of_not_le less)
    rw [(mem_freeNumbers.mp unused).2] at live
    cases live
  · rintro ⟨unused, least⟩
    obtain ⟨valid, free⟩ := mem_freeNumbers.mp unused
    refine ⟨free, valid, fun q below => ?_⟩
    by_contra unused'
    have unusedToo : q ∈ freeNumbers t.process? :=
      mem_freeNumbers.mpr ⟨Nat.lt_trans below valid, by simpa using unused'⟩
    exact Nat.not_lt.mpr (least unusedToo) below

theorem free?_eq_none_iff : t.free? = none ↔ freeNumbers t.process? = ∅ := by
  rw [free?, List.find?_eq_none, Set.eq_empty_iff_forall_notMem]
  refine forall_congr' fun q => ?_
  rw [List.mem_range, mem_freeNumbers, Bool.not_eq_true', not_and]

theorem liveCount_eq_ncard (t : ProcessTable τ) :
    t.liveCount = {pid | t.isLive pid = true}.ncard := by
  have members : {pid | t.isLive pid = true} = {pid | pid ∈ t.live} := by
    ext pid
    rw [Set.mem_ofPred_eq, Set.mem_ofPred_eq, live, List.mem_filter, List.mem_range]
    refine ⟨fun here => ⟨?_, here⟩, And.right⟩
    obtain ⟨p, found⟩ := isLive_iff.mp here
    exact lt_of_process? found
  have once : t.live.Nodup := List.nodup_range.filter _
  rw [members, ← List.coe_toFinset, Set.ncard_coe_finset, List.toFinset_card_of_nodup once,
    liveCount]

theorem allocate_of_free (free : t.free? = some pid) (terminal : τ) (parent : Option ProcessId)
    (args : List UInt8) : t.call (.allocate terminal parent args) =
      (t.insert pid (.new pid (parent.getD pid) terminal args), some pid) := by
  simp only [call, allocate, free, Option.map_some]

theorem allocate_of_full (full : t.free? = none) (terminal : τ) (parent : Option ProcessId)
    (args : List UInt8) : t.call (.allocate terminal parent args) = (t, none) := by
  simp only [call, allocate, full, Option.map_none]

theorem process?_insert_of_valid (valid : pid < maxProcesses) (p : ProcessRecord τ) :
    (t.insert pid p).process? = Function.update t.process? pid (some p) := by
  funext q
  rw [process?_insert, Function.update_apply]
  refine if_congr ⟨fun same => same.1.symm, fun same => ⟨same.symm, same ▸ valid⟩⟩ rfl rfl

/-- A call does to the records what it should, -/
theorem process?_call (t : ProcessTable τ) (c : TableCall τ) :
    (t.call c).1.process? = (⟨c, (t.call c).2⟩ : TableMove τ).apply t.process? := by
  cases c with
  | allocate terminal parent args =>
    cases free : t.free? with
    | none =>
      rw [allocate_of_full free]
      rfl
    | some pid =>
      rw [allocate_of_free free, process?_insert_of_valid (free?_spec free).1]
      rfl
  | release pid =>
    funext q
    change (t.release pid).process? q = Function.update t.process? pid none q
    rw [process?_release, Function.update_apply]
    exact if_congr eq_comm rfl rfl
  | update pid f =>
    funext q
    change (t.update pid f).process? q = Function.update t.process? pid _ q
    rw [process?_update, Function.update_apply]
    by_cases same : pid = q
    · rw [if_pos same, if_pos same.symm, same]
    · rw [if_neg same, if_neg (Ne.symm same)]

/-- A call is answered as it should be. -/
theorem answered_call (t : ProcessTable τ) (c : TableCall τ) :
    (⟨c, (t.call c).2⟩ : TableMove τ).Answered t.process? := by
  cases c with
  | allocate terminal parent args =>
    cases free : t.free? with
    | none =>
      rw [allocate_of_full free]
      exact free?_eq_none_iff.mp free
    | some pid =>
      rw [allocate_of_free free]
      exact free?_eq_some_iff.mp free
  | release pid | update pid f => exact rfl

theorem process?_play (arena : Arena) (calls : List (TableCall τ)) :
    (play arena calls).2.process? = recorded (play arena calls).1 := by
  induction calls with
  | nil => exact funext (process?_empty arena)
  | cons c earlier ih =>
    rw [play_cons, process?_call, ih]
    rfl

theorem answered_play (arena : Arena) (calls : List (TableCall τ)) :
    ∀ later m earlier, (play arena calls).1 = later ++ m :: earlier →
      m.Answered (recorded earlier) := by
  induction calls with
  | nil =>
    intro later m earlier same
    exact absurd same.symm (List.append_ne_nil_of_right_ne_nil later (List.cons_ne_nil m earlier))
  | cons c calls ih =>
    intro later m earlier same
    rw [play_cons] at same
    cases later with
    | nil =>
      obtain ⟨rfl, rfl⟩ := List.cons.inj same
      rw [← process?_play]
      exact answered_call _ c
    | cons first later => exact ih later m earlier (List.cons.inj same).2

/-- For all calls the table answers and keeps records as it should. -/
theorem keeps_play (arena : Arena) (calls : List (TableCall τ)) :
    KeepsTable (play arena calls).1 (play arena calls).2.process? (play arena calls).2.isLive
      (play arena calls).2.liveCount where
  answered := answered_play arena calls
  records := process?_play arena calls
  live _ := isLive_iff
  valid pid here := by
    obtain ⟨p, found⟩ := isLive_iff.mp here
    exact lt_of_process? found
  count := liveCount_eq_ncard _
  others later earlier pid split away := by
    rw [process?_play, split, recorded_of_not_names away]
  ignored pid beyond := by
    rw [Function.update_eq_self_iff]
    by_contra live
    obtain ⟨p, found⟩ := Option.ne_none_iff_exists'.mp (Ne.symm live)
    exact Nat.not_lt.mpr beyond (lt_of_process? found)

end ProcessTable

end TerminalKernel
