import TerminalKernel.PerTerminal
import TerminalKernel.ProcessTable

/-!
# Records in memory

A layout keeps values in memory, each in a block of one size from which it is read back
(`Layout.read_bytes`). Layouts of the parts make up the layout of the whole, and so the record of a
process has one. What the kernel writes to records fits.
-/

namespace TerminalKernel

/-- A way to keep values in memory. Not every value need fit. -/
structure Layout (α : Type) where
  Fits : α → Prop
  /-- Bytes that each value takes. -/
  size : Nat
  bytes : α → List UInt8
  /-- The value whose bytes come first, if they are those of one. -/
  read : List UInt8 → Option α
  length_bytes : ∀ a, Fits a → (bytes a).length = size
  read_bytes : ∀ a, Fits a → ∀ rest, read (bytes a ++ rest) = some a

namespace Layout

variable {α β : Type}

/-! ## Parts -/

/-- Numbers of `count` bytes, their low byte first. -/
def number (count : Nat) : Layout Nat where
  Fits n := n < Bytes.capacity count
  size := count
  bytes := Bytes.ofNat count
  read bytes := some (Bytes.toNat (bytes.take count))
  length_bytes n _ := Bytes.length_ofNat count n
  read_bytes n small rest := by
    rw [List.take_left' (Bytes.length_ofNat count n), Bytes.toNat_ofNat, Nat.mod_eq_of_lt small]

def text (count : Nat) : Layout (List UInt8) where
  Fits bytes := bytes.length = count
  size := count
  bytes := id
  read bytes := some (bytes.take count)
  length_bytes _ length := length
  read_bytes _ length _ := congrArg some (List.take_left' length)

def pair (x : Layout α) (y : Layout β) : Layout (α × β) where
  Fits p := x.Fits p.1 ∧ y.Fits p.2
  size := x.size + y.size
  bytes p := x.bytes p.1 ++ y.bytes p.2
  read bytes := do
    let a ← x.read bytes
    let b ← y.read (bytes.drop x.size)
    return (a, b)
  length_bytes p fits := by
    rw [List.length_append, x.length_bytes _ fits.1, y.length_bytes _ fits.2]
  read_bytes p fits rest := by
    rw [List.append_assoc, x.read_bytes _ fits.1, List.drop_left' (x.length_bytes _ fits.1),
      y.read_bytes _ fits.2]
    rfl

/-- Values that are kept as values of another type. -/
def via (x : Layout α) (on : β → α) (back : α → Option β) (back_on : ∀ b, back (on b) = some b) :
    Layout β where
  Fits b := x.Fits (on b)
  size := x.size
  bytes b := x.bytes (on b)
  read bytes := (x.read bytes).bind back
  length_bytes b fits := x.length_bytes _ fits
  read_bytes b fits rest := by
    rw [x.read_bytes _ fits, Option.bind_some, back_on]

def list (x : Layout α) : (count : Nat) → Layout (List α)
  | 0 =>
    { Fits := (· = [])
      size := 0
      bytes := fun _ => []
      read := fun _ => some []
      length_bytes := fun _ _ => rfl
      read_bytes := fun _ empty _ => congrArg some empty.symm }
  | count + 1 =>
    { Fits := fun l => ∃ a rest, l = a :: rest ∧ x.Fits a ∧ (list x count).Fits rest
      size := x.size + (list x count).size
      bytes := fun
        | [] => []
        | a :: rest => (x.pair (list x count)).bytes (a, rest)
      read := fun bytes => ((x.pair (list x count)).read bytes).map fun (a, rest) => a :: rest
      length_bytes := by
        rintro _ ⟨a, rest, rfl, first, others⟩
        exact (x.pair (list x count)).length_bytes (a, rest) ⟨first, others⟩
      read_bytes := by
        rintro _ ⟨a, rest, rfl, first, others⟩ behind
        dsimp only
        rw [(x.pair (list x count)).read_bytes (a, rest) ⟨first, others⟩ behind]
        rfl }

theorem size_list (x : Layout α) (count : Nat) : (x.list count).size = count * x.size := by
  induction count with
  | zero => exact (Nat.zero_mul _).symm
  | succ count ih =>
    change x.size + (x.list count).size = _
    rw [ih, Nat.succ_mul, Nat.add_comm]

theorem fits_list {x : Layout α} {count : Nat} {l : List α} :
    (x.list count).Fits l ↔ l.length = count ∧ ∀ a ∈ l, x.Fits a := by
  induction count generalizing l with
  | zero =>
    refine ⟨?_, fun fits => List.length_eq_zero_iff.mp fits.1⟩
    rintro rfl
    exact ⟨rfl, fun a none => absurd none List.not_mem_nil⟩
  | succ count ih =>
    constructor
    · rintro ⟨a, rest, rfl, first, others⟩
      obtain ⟨length, all⟩ := ih.mp others
      exact ⟨congrArg Nat.succ length, List.forall_mem_cons.mpr ⟨first, all⟩⟩
    · rintro ⟨length, all⟩
      cases l with
      | nil => cases length
      | cons a rest =>
        obtain ⟨first, others⟩ := List.forall_mem_cons.mp all
        exact ⟨a, rest, rfl, first, ih.mpr ⟨Nat.succ.inj length, others⟩⟩

def vector (x : Layout α) (count : Nat) : Layout (Vector α count) :=
  (x.list count).via Vector.toList
    (fun l => if length : l.length = count then some ⟨l.toArray, by simpa using length⟩ else none)
    fun v => by
      rw [dif_pos Vector.length_toList, Option.some_inj, Vector.mk_eq]
      exact Array.toArray_toList

theorem fits_vector {x : Layout α} {count : Nat} {v : Vector α count} :
    (x.vector count).Fits v ↔ ∀ a ∈ v, x.Fits a := by
  refine fits_list.trans ?_
  simp

/-! ## Processes -/

def word : Layout UInt64 :=
  (number 8).via UInt64.toNat (fun n => some (UInt64.ofNat n)) fun w => by simp

theorem fits_word (w : UInt64) : word.Fits w := w.toNat_lt

def flag : Layout Bool :=
  (number 4).via Bool.toNat (fun n => some (n == 1)) fun b => by cases b <;> rfl

end Layout

namespace Binding

def all : List Binding := [terminalIn, terminalOut, rtc, directory, regular, closed]

/-- One byte tells what a descriptor is bound to. -/
def layout : Layout Binding :=
  (Layout.number 1).via (fun b => all.idxOf b) (fun n => all[n]?) fun b => by cases b <;> rfl

end Binding

namespace Descriptor

def layout : Layout Descriptor :=
  (Binding.layout.pair (.pair .flag (.pair (.number 4) (.number 4)))).via
    (fun d => (d.binding, d.isOpen, d.inode, d.position))
    (fun (binding, isOpen, inode, position) => some ⟨binding, isOpen, inode, position⟩)
    fun _ => rfl

theorem fits_layout {d : Descriptor} :
    layout.Fits d ↔ d.inode < Bytes.capacity 4 ∧ d.position < Bytes.capacity 4 := by
  have binding : Binding.layout.Fits d.binding := by
    change Binding.all.idxOf d.binding < 256
    cases d.binding <;> decide
  have isOpen : Layout.flag.Fits d.isOpen := by
    change d.isOpen.toNat < Bytes.capacity 4
    cases d.isOpen <;> decide
  exact ⟨fun fits => ⟨fits.2.2.1, fits.2.2.2⟩, fun fits => ⟨binding, isOpen, fits⟩⟩

end Descriptor

namespace SavedContext

def layout : Layout SavedContext :=
  (Layout.word.list 8).via (fun c => [c.rsp, c.rbp, c.rbx, c.r12, c.r13, c.r14, c.r15, c.rip])
    (fun
      | [rsp, rbp, rbx, r12, r13, r14, r15, rip] => some ⟨rsp, rbp, rbx, r12, r13, r14, r15, rip⟩
      | _ => none)
    fun _ => rfl

theorem fits_layout (c : SavedContext) : layout.Fits c := by
  change (Layout.word.list 8).Fits _
  exact Layout.fits_list.mpr ⟨rfl, fun w _ => Layout.fits_word w⟩

end SavedContext

namespace TerminalId

def layout : Layout TerminalId :=
  (Layout.number 8).via (fun t => t.val)
    (fun n => if valid : n < terminalCount then some ⟨n, valid⟩ else none)
    fun t => dif_pos t.isLt

theorem fits_layout (t : TerminalId) : layout.Fits t := Nat.lt_trans t.isLt (by decide)

end TerminalId

namespace ProcessRecord

variable {τ : Type}

/-- One layout for the record of a process, with a layout for the names of terminals. -/
def layout (terminals : Layout τ) : Layout (ProcessRecord τ) :=
  (Layout.pair (.number 8) (.pair (.number 8) (.pair terminals (.pair SavedContext.layout
      (.pair (Descriptor.layout.vector maxOpenFiles) (.text maxArgsLength)))))).via
    (fun p => (p.pid, p.parent, p.terminal, p.callerContext, p.files, p.args))
    (fun (pid, parent, terminal, callerContext, files, args) =>
      some ⟨pid, parent, terminal, callerContext, files, args⟩)
    fun _ => rfl

variable {terminals : Layout τ} {p : ProcessRecord τ}

theorem size_layout (terminals : Layout τ) :
    (layout terminals).size = 312 + terminals.size := by
  change 8 + (8 + (terminals.size + (SavedContext.layout.size +
    ((Descriptor.layout.vector maxOpenFiles).size + 128)))) = _
  have context : SavedContext.layout.size = 64 := Layout.size_list _ _
  have files : (Descriptor.layout.vector maxOpenFiles).size = 8 * 13 := Layout.size_list _ _
  rw [context, files]
  omega

theorem fits_layout : (layout terminals).Fits p ↔
    (p.pid < Bytes.capacity 8 ∧ p.parent < Bytes.capacity 8 ∧ terminals.Fits p.terminal) ∧
      (∀ d ∈ p.files, Descriptor.layout.Fits d) ∧ p.args.length = maxArgsLength := by
  constructor
  · rintro ⟨pid, parent, terminal, _, files, args⟩
    exact ⟨⟨pid, parent, terminal⟩, Layout.fits_vector.mp files, args⟩
  · rintro ⟨⟨pid, parent, terminal⟩, files, args⟩
    exact ⟨pid, parent, terminal, p.callerContext.fits_layout, Layout.fits_vector.mpr files, args⟩

theorem fits_new {pid parent : ProcessId} {terminal : τ} (own : pid < maxProcesses)
    (other : parent < Bytes.capacity 8) (named : terminals.Fits terminal) (args : List UInt8) :
    (layout terminals).Fits (.new pid parent terminal args) := by
  have small : pid < Bytes.capacity 8 := Nat.lt_trans own (by decide)
  refine fits_layout.mpr ⟨⟨small, other, named⟩, ?_, Bytes.length_padTo _ _⟩
  have fresh : ∀ d ∈ newFiles, d.inode = 0 ∧ d.position = 0 := by decide
  intro d inside
  obtain ⟨inode, position⟩ := fresh d inside
  rw [Descriptor.fits_layout, inode, position]
  decide

theorem fits_setDescriptor (fits : (layout terminals).Fits p) (fd : Nat) {d : Descriptor}
    (small : Descriptor.layout.Fits d) : (layout terminals).Fits (p.setDescriptor fd d) := by
  obtain ⟨names, files, args⟩ := fits_layout.mp fits
  refine fits_layout.mpr ⟨names, fun d' inside => ?_, args⟩
  obtain ⟨i, bound, rfl⟩ := Vector.mem_iff_getElem.mp inside
  simp only [setDescriptor, Vector.getElem_setIfInBounds]
  split
  · exact small
  · exact files _ (Vector.getElem_mem bound)

theorem fits_callerContext (fits : (layout terminals).Fits p) (context : SavedContext) :
    (layout terminals).Fits { p with callerContext := context } := by
  obtain ⟨names, files, args⟩ := fits_layout.mp fits
  exact fits_layout.mpr ⟨names, files, args⟩

end ProcessRecord

end TerminalKernel
