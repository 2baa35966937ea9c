import TerminalKernel.ProcessRecord
import TerminalKernel.Arena

/-!
# The process table

One place for each process number; a number is live while its place is filled. New processes get the
lowest free number.
Core Lean only.
-/

namespace TerminalKernel

structure ProcessTable (τ : Type) where
  arena : Arena
  places : Vector (Option (ProcessRecord τ)) maxProcesses
  deriving Repr

namespace ProcessTable

variable {τ : Type}

def empty (arena : Arena) : ProcessTable τ := ⟨arena, Vector.replicate maxProcesses none⟩

/-- The record of a live process. -/
def process? (t : ProcessTable τ) (pid : ProcessId) : Option (ProcessRecord τ) :=
  t.places[pid]?.join

def isLive (t : ProcessTable τ) (pid : ProcessId) : Bool := (t.process? pid).isSome

/-- The live processes, lowest number first. -/
def live (t : ProcessTable τ) : List ProcessId := (List.range maxProcesses).filter t.isLive

def liveCount (t : ProcessTable τ) : Nat := t.live.length

/-- The lowest number that is not live. -/
def free? (t : ProcessTable τ) : Option ProcessId :=
  (List.range maxProcesses).find? fun pid => !t.isLive pid

def insert (t : ProcessTable τ) (pid : ProcessId) (p : ProcessRecord τ) : ProcessTable τ :=
  { t with places := t.places.setIfInBounds pid (some p) }

/-- Start a process under the lowest free number. Without a parent it becomes its own. -/
def allocate (t : ProcessTable τ) (terminal : τ) (parent : Option ProcessId) (args : List UInt8) :
    Option (ProcessId × ProcessTable τ) :=
  t.free?.map fun pid => (pid, t.insert pid (.new pid (parent.getD pid) terminal args))

def release (t : ProcessTable τ) (pid : ProcessId) : ProcessTable τ :=
  { t with places := t.places.setIfInBounds pid none }

def update (t : ProcessTable τ) (pid : ProcessId) (f : ProcessRecord τ → ProcessRecord τ) :
    ProcessTable τ :=
  match t.process? pid with
  | some p => t.insert pid (f p)
  | none => t

/-- The live process on whose kernel stack an address lies. -/
def current? (t : ProcessTable τ) (stackPointer : Nat) : Option ProcessId :=
  (t.arena.holder? stackPointer).filter t.isLive

/-! ## Records after an update -/

@[simp] theorem process?_empty (arena : Arena) (pid : ProcessId) :
    (empty arena : ProcessTable τ).process? pid = none := by
  simp only [process?, empty, Vector.getElem?_replicate]
  split <;> rfl

theorem process?_insert (t : ProcessTable τ) (pid q : ProcessId) (p : ProcessRecord τ) :
    (t.insert pid p).process? q =
      if pid = q ∧ q < maxProcesses then some p else t.process? q := by
  by_cases h : pid = q
  · subst h
    by_cases hp : pid < maxProcesses
    · simp [process?, insert, hp]
    · simp [process?, insert, hp]
  · simp [process?, insert, h]

theorem process?_release (t : ProcessTable τ) (pid q : ProcessId) :
    (t.release pid).process? q = if pid = q then none else t.process? q := by
  by_cases h : pid = q
  · subst h
    by_cases hp : pid < maxProcesses
    · simp [process?, release, hp]
    · simp [process?, release, hp]
  · simp [process?, release, h]

theorem lt_of_process? {t : ProcessTable τ} {pid : ProcessId} {p : ProcessRecord τ}
    (h : t.process? pid = some p) : pid < maxProcesses := by
  by_cases hp : pid < maxProcesses
  · exact hp
  · simp [process?, hp] at h

theorem process?_update (t : ProcessTable τ) (pid q : ProcessId)
    (f : ProcessRecord τ → ProcessRecord τ) :
    (t.update pid f).process? q = if pid = q then (t.process? q).map f else t.process? q := by
  unfold update
  split
  · rename_i p hp
    rw [process?_insert]
    by_cases h : pid = q
    · subst h
      simp [hp, lt_of_process? hp]
    · simp [h]
  · rename_i hp
    split
    · rename_i h
      subst h
      simp [hp]
    · rfl

theorem isLive_iff {t : ProcessTable τ} {pid : ProcessId} :
    t.isLive pid = true ↔ ∃ p, t.process? pid = some p :=
  Option.isSome_iff_exists

theorem isLive_eq_false {t : ProcessTable τ} {pid : ProcessId} :
    t.isLive pid = false ↔ t.process? pid = none :=
  Option.isSome_eq_false_iff.trans Option.isNone_iff_eq_none

/-- The number that a new process gets is one that no live process has. -/
theorem free?_spec {t : ProcessTable τ} {pid : ProcessId} (h : t.free? = some pid) :
    pid < maxProcesses ∧ t.process? pid = none := by
  have hm := List.mem_of_find?_eq_some h
  have hf := List.find?_some h
  simp only [Bool.not_eq_eq_eq_not, Bool.not_true] at hf
  exact ⟨List.mem_range.mp hm, isLive_eq_false.mp hf⟩

/-- A process that ends before anything else happens was never there. -/
theorem release_insert_of_free {t : ProcessTable τ} {pid : ProcessId} (h : t.free? = some pid)
    (p : ProcessRecord τ) : (t.insert pid p).release pid = t := by
  obtain ⟨valid, free⟩ := free?_spec h
  have empty : getElem t.places pid valid = none := by
    rwa [process?, Vector.getElem?_eq_getElem valid, Option.join_some] at free
  refine congrArg (ProcessTable.mk t.arena) (Vector.ext fun i inside => ?_)
  rw [Vector.getElem_setIfInBounds inside]
  split
  · rename_i same
    subst same
    exact empty.symm
  · rename_i other
    exact (Vector.getElem_setIfInBounds inside).trans (if_neg other)

theorem liveCount_lt {t : ProcessTable τ} {pid : ProcessId} (h : t.free? = some pid) :
    t.liveCount < maxProcesses := by
  obtain ⟨valid, free⟩ := free?_spec h
  have shorter : t.live.length < (List.range maxProcesses).length := by
    rw [live, List.length_filter_lt_length_iff_exists]
    exact ⟨pid, List.mem_range.mpr valid, by rw [isLive_eq_false.mpr free]; decide⟩
  rwa [List.length_range] at shorter

@[simp] theorem arena_update (t : ProcessTable τ) (pid : ProcessId)
    (f : ProcessRecord τ → ProcessRecord τ) : (t.update pid f).arena = t.arena := by
  unfold update
  split <;> rfl

end ProcessTable

end TerminalKernel
