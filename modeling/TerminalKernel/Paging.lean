import TerminalKernel.Layout

/-!
# The address space

One page directory covers the first gigabyte in steps of two megabytes. The kernel maps it onto
itself, apart from two windows: the program window, whose two entries follow the running process,
and the video window, one page behind a table of its own. `resolve` walks the directory and that
table as the processor does.
Core Lean only.
-/

namespace TerminalKernel

/-! ## Entries -/

/-- Rights and kind of a page-table entry. -/
structure PageFlags where
  present : Bool
  writable : Bool
  user : Bool
  /-- The entry maps a huge page instead of naming a table. -/
  huge : Bool
  deriving DecidableEq, Repr

namespace PageFlags

def none : PageFlags := ⟨false, false, false, false⟩
def kernelHuge : PageFlags := ⟨true, true, false, true⟩
def userHuge : PageFlags := ⟨true, true, true, true⟩
def userPage : PageFlags := ⟨true, true, true, false⟩

/-- The flags as the low byte of an entry. -/
def bits (f : PageFlags) : Nat :=
  f.present.toNat + 2 * f.writable.toNat + 4 * f.user.toNat + 128 * f.huge.toNat

end PageFlags

structure PageEntry where
  address : Nat
  flags : PageFlags
  deriving DecidableEq, Repr

namespace PageEntry

def unused : PageEntry := ⟨0, .none⟩

instance : Inhabited PageEntry := ⟨unused⟩

/-- The address that the entry maps, if it maps any. -/
def target (e : PageEntry) : Option Nat := if e.flags.present then some e.address else none

end PageEntry

abbrev PageTable := Vector PageEntry 512

/-! ## The two tables -/

/-- First of the two directory entries behind the program window. -/
abbrev programEntry : Nat := 64

/-- Directory entry whose table holds the video window. -/
abbrev videoEntry : Nat := 66

theorem programEntry_lt : programEntry < 512 := by decide

theorem programEntry_succ_lt : programEntry + 1 < 512 := by decide

theorem videoEntry_lt : videoEntry < 512 := by decide

theorem firstEntry_lt : 0 < 512 := by decide

structure AddressSpace where
  directory : PageTable
  videoTable : PageTable
  /-- Where the video table itself lies. -/
  tableAddress : Nat
  /-- How often what the processor remembers of the tables was discarded. -/
  flushes : Nat
  deriving Repr

namespace AddressSpace

/-- Map the first gigabyte onto itself for the kernel alone and leave both windows unmapped,
whatever the tables held before. -/
def new (directory videoTable : Vector UInt64 512) (tableAddress : Nat) : AddressSpace where
  directory := directory.mapFinIdx fun i _ _ =>
    if i = programEntry ∨ i = programEntry + 1 ∨ i = videoEntry then .unused
    else ⟨i * hugePageSize, .kernelHuge⟩
  videoTable := videoTable.map fun _ => .unused
  tableAddress := tableAddress
  flushes := 0

/-- Show the slot at `slot` in the program window. -/
def mapProgram (a : AddressSpace) (slot : Nat) : AddressSpace :=
  { a with
    directory := (a.directory.set programEntry ⟨slot, .userHuge⟩ programEntry_lt).set
      (programEntry + 1) ⟨slot + hugePageSize, .userHuge⟩ programEntry_succ_lt
    flushes := a.flushes + 1 }

/-- Show a screen page in the video window, or the display itself when no page is given. -/
def mapVideo (a : AddressSpace) (page : Option Nat) : AddressSpace :=
  { a with
    videoTable := a.videoTable.set 0 ⟨page.getD vgaTextMemory, .userPage⟩ firstEntry_lt
    directory := a.directory.set videoEntry ⟨a.tableAddress, .userPage⟩ videoEntry_lt
    flushes := a.flushes + 1 }

/-- The slot seen through the program window. -/
def programTarget (a : AddressSpace) : Option Nat :=
  (getElem a.directory programEntry programEntry_lt).target

/-- The page seen through the video window. -/
def videoTarget (a : AddressSpace) : Option Nat := (getElem a.videoTable 0 firstEntry_lt).target

/-! ## Resolving addresses -/

/-- What the processor finds behind a virtual address. -/
structure Place where
  address : Nat
  writable : Bool
  user : Bool
  deriving DecidableEq, Repr

/-- Walk the directory, and the video table below an entry that names it. -/
def resolve (a : AddressSpace) (address : Nat) : Option Place :=
  let entry := a.directory[address / hugePageSize]?.getD .unused
  if !entry.flags.present then none
  else if entry.flags.huge then
    some ⟨entry.address + address % hugePageSize, entry.flags.writable, entry.flags.user⟩
  else if entry.address = a.tableAddress then
    let leaf := a.videoTable[address % hugePageSize / pageSize]?.getD .unused
    if leaf.flags.present then
      some ⟨leaf.address + address % pageSize, entry.flags.writable && leaf.flags.writable,
        entry.flags.user && leaf.flags.user⟩
    else none
  else none

/-- The two entries behind the program window make it one block of memory. -/
theorem resolve_programWindow {a : AddressSpace} {slot : Nat}
    (first : getElem a.directory programEntry programEntry_lt = ⟨slot, .userHuge⟩)
    (second : getElem a.directory (programEntry + 1) programEntry_succ_lt =
      ⟨slot + hugePageSize, .userHuge⟩) {offset : Nat} (inside : offset < programSlotSize) :
    a.resolve (programWindow + offset) = some ⟨slot + offset, true, true⟩ := by
  simp only [programEntry, Nat.reduceAdd] at first second
  simp only [programWindow, programSlotSize, resolve, hugePageSize] at *
  by_cases half : offset < 0x200000
  · have entry : (0x8000000 + offset) / 0x200000 = 64 := by omega
    have rest : (0x8000000 + offset) % 0x200000 = offset := by omega
    have found : a.directory[64]? = some ⟨slot, .userHuge⟩ := by
      rw [Vector.getElem?_eq_getElem (by decide), first]
    rw [entry, rest, found]
    rfl
  · have entry : (0x8000000 + offset) / 0x200000 = 65 := by omega
    have rest : (0x8000000 + offset) % 0x200000 = offset - 0x200000 := by omega
    have found : a.directory[65]? = some ⟨slot + 0x200000, .userHuge⟩ := by
      rw [Vector.getElem?_eq_getElem (by decide), second]
    have sum : slot + 0x200000 + (offset - 0x200000) = slot + offset := by omega
    rw [entry, rest, found, ← sum]
    rfl

/-- The entry behind the video window and the one in its table make it one page. -/
theorem resolve_videoWindow {a : AddressSpace} {page : Nat}
    (entry : getElem a.directory videoEntry videoEntry_lt = ⟨a.tableAddress, .userPage⟩)
    (leaf : getElem a.videoTable 0 firstEntry_lt = ⟨page, .userPage⟩) {offset : Nat}
    (inside : offset < pageSize) :
    a.resolve (videoWindow + offset) = some ⟨page + offset, true, true⟩ := by
  simp only [videoWindow, resolve, hugePageSize, pageSize] at *
  have directory : (0x8400000 + offset) / 0x200000 = 66 := by omega
  have table : (0x8400000 + offset) % 0x200000 / 0x1000 = 0 := by omega
  have rest : (0x8400000 + offset) % 0x1000 = offset := by omega
  have found : a.directory[66]? = some ⟨a.tableAddress, .userPage⟩ := by
    rw [Vector.getElem?_eq_getElem (by decide), entry]
  have inner : a.videoTable[0]? = some ⟨page, .userPage⟩ := by
    rw [Vector.getElem?_eq_getElem (by decide), leaf]
  rw [directory, table, rest, found, inner]
  simp [PageFlags.userPage]

/-! ## What the mapping calls change -/

@[simp] theorem videoTarget_mapVideo (a : AddressSpace) (page : Option Nat) :
    (a.mapVideo page).videoTarget = some (page.getD vgaTextMemory) := by
  simp [videoTarget, mapVideo, PageEntry.target, PageFlags.userPage]

end AddressSpace

end TerminalKernel
