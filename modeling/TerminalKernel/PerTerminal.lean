import TerminalKernel.Limits

/-!
# Terminals by number

The numbers of the terminals, their cyclic order, and tables with one entry for each of them.
Core Lean only.
-/

namespace TerminalKernel

/-- One of the virtual terminals. -/
abbrev TerminalId := Fin terminalCount

namespace TerminalId

/-- The terminal displayed at the start, on which the first shell runs. -/
def first : TerminalId := 0

def all : List TerminalId := [0, 1, 2]

/-- The terminal whose turn comes after this one; the first comes after the last. -/
def next (t : TerminalId) : TerminalId := t + 1

theorem mem_all (t : TerminalId) : t ∈ all := by
  revert t
  decide

theorem next_next_next (t : TerminalId) : t.next.next.next = t := by
  revert t
  decide

end TerminalId

/-- One value for each terminal. -/
structure PerTerminal (α : Type) where
  values : Vector α terminalCount
  deriving DecidableEq, Repr

namespace PerTerminal

variable {α β : Type}

def fill (a : α) : PerTerminal α := ⟨Vector.replicate terminalCount a⟩

def map (f : α → β) (p : PerTerminal α) : PerTerminal β := ⟨p.values.map f⟩

def get (p : PerTerminal α) (t : TerminalId) : α := p.values[t]

def set (p : PerTerminal α) (t : TerminalId) (a : α) : PerTerminal α := ⟨p.values.set t a⟩

@[ext] theorem ext_get {p q : PerTerminal α} (h : ∀ t, p.get t = q.get t) : p = q := by
  obtain ⟨values⟩ := p
  obtain ⟨values'⟩ := q
  congr 1
  exact Vector.ext fun i hi => h ⟨i, hi⟩

@[simp] theorem get_map (f : α → β) (p : PerTerminal α) (t : TerminalId) :
    (p.map f).get t = f (p.get t) := by
  simp [get, map]

theorem get_set (p : PerTerminal α) (s t : TerminalId) (a : α) :
    (p.set s a).get t = if s = t then a else p.get t := by
  simp [get, set, Vector.getElem_set, Fin.ext_iff]

@[simp] theorem set_get (p : PerTerminal α) (t : TerminalId) : p.set t (p.get t) = p := by
  apply ext_get
  intro u
  rw [get_set]
  split
  · rename_i same
    rw [same]
  · rfl

@[simp] theorem get_set_self (p : PerTerminal α) (t : TerminalId) (a : α) :
    (p.set t a).get t = a := by
  simp [get_set]

end PerTerminal

end TerminalKernel
