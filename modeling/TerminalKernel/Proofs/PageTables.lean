import Mathlib.Algebra.Group.Nat.Defs
import TerminalKernel.Paging

/-!
# The page tables after any sequence of mapping calls

The two tables are followed entry by entry. What an entry holds depends only on the slot and the
page that were mapped last, whatever the tables held before and however often they were changed.
From the entries it is read off where every address of the first gigabyte leads, both in `resolve`
and in the processor's own walk. That walk sees the tables as they are stored, an entry as a word of
64 bits, and takes the flags and the address out of it. How the kernel writes such words and reads
them again is a parameter (`EntryOps`).
-/

namespace TerminalKernel

/-! ## Entries as words -/

namespace PageWord

/-- The flags that the processor reads in a word. -/
def flags (w : UInt64) : PageFlags where
  present := w.toNat.testBit 0
  writable := w.toNat.testBit 1
  user := w.toNat.testBit 2
  huge := w.toNat.testBit 7

/-- The address in a word that maps a page of the given size: the bits below the size are flags, and
so are those from bit 52 on. -/
def frame (size : Nat) (w : UInt64) : Nat := w.toNat % 2 ^ 52 / size * size

/-- The processor finds the entry in the word. Where it is not present it looks no further. -/
structure Holds (w : UInt64) (e : PageEntry) : Prop where
  present : (flags w).present = e.flags.present
  flags : e.flags.present = true → flags w = e.flags
  frame : e.flags.present = true → frame pageSize w = e.address

/-- The address of a huge page has no bits that are flags of the entry of a huge page only. -/
theorem frame_hugePage {w : UInt64} {address : Nat} (same : frame pageSize w = address)
    (multiple : address % hugePageSize = 0) : frame hugePageSize w = address := by
  subst same
  unfold frame at *
  generalize w.toNat % 2 ^ 52 = bits at multiple ⊢
  simp only [pageSize, hugePageSize] at *
  omega

end PageWord

/-- How the kernel writes and reads the words of a page table. Whatever a word was before, the
processor finds in it what was entered last, and the kernel reads what the processor does. -/
structure EntryOps where
  /-- The word when its entry was cleared. -/
  clear (w : UInt64) : UInt64
  /-- The word when an address with flags was entered in it. -/
  enter (w : UInt64) (address : Nat) (flags : PageFlags) : UInt64
  flags (w : UInt64) : PageFlags
  address (w : UInt64) : Nat
  absent_clear : ∀ w, (PageWord.flags (clear w)).present = false
  flags_enter : ∀ w address flags, address % pageSize = 0 → address < 2 ^ 52 →
    PageWord.flags (enter w address flags) = flags
  frame_enter : ∀ w address flags, address % pageSize = 0 → address < 2 ^ 52 →
    PageWord.frame pageSize (enter w address flags) = address
  flags_eq : ∀ w, flags w = PageWord.flags w
  address_eq : ∀ w, address w = PageWord.frame pageSize w

namespace PageWord

variable {ops : EntryOps}

theorem holds_clear (w : UInt64) : Holds (ops.clear w) .unused where
  present := ops.absent_clear w
  flags := nofun
  frame := nofun

theorem holds_enter (w : UInt64) {address : Nat} {flags : PageFlags} (page : address % pageSize = 0)
    (lt : address < 2 ^ 52) : Holds (ops.enter w address flags) ⟨address, flags⟩ where
  present := congrArg PageFlags.present (ops.flags_enter w address flags page lt)
  flags _ := ops.flags_enter w address flags page lt
  frame _ := ops.frame_enter w address flags page lt

end PageWord

/-! ## What the entries hold -/

namespace AddressSpace

/-- The directory entry with an index while the windows show a slot and a page, if any. -/
def directoryEntry (tableAddress : Nat) (slot? page? : Option Nat) (i : Nat) : PageEntry :=
  if i = programEntry then slot?.elim .unused fun slot => ⟨slot, .userHuge⟩
  else if i = programEntry + 1 then
    slot?.elim .unused fun slot => ⟨slot + hugePageSize, .userHuge⟩
  else if i = videoEntry then page?.elim .unused fun _ => ⟨tableAddress, .userPage⟩
  else ⟨i * hugePageSize, .kernelHuge⟩

def tableEntry (page? : Option Nat) (i : Nat) : PageEntry :=
  if i = 0 then page?.elim .unused fun page => ⟨page, .userPage⟩ else .unused

/-- The program window shows a slot and the video window a page, or nothing yet, and the tables
hold nothing else besides the identity. -/
structure Shows (a : AddressSpace) (slot? page? : Option Nat) : Prop where
  directory : ∀ i (inside : i < 512),
    getElem a.directory i inside = directoryEntry a.tableAddress slot? page? i
  videoTable : ∀ i (inside : i < 512), getElem a.videoTable i inside = tableEntry page? i

variable {a : AddressSpace} {slot? page? : Option Nat}

theorem shows_new (directory videoTable : Vector UInt64 512) (tableAddress : Nat) :
    (new directory videoTable tableAddress).Shows none none := by
  constructor
  · intro i inside
    simp only [new, Vector.getElem_mapFinIdx, directoryEntry, Option.elim_none]
    split <;> grind
  · intro i inside
    simp only [new, Vector.getElem_map, tableEntry, Option.elim_none, ite_self]

theorem Shows.mapProgram (shows : a.Shows slot? page?) (slot : Nat) :
    (a.mapProgram slot).Shows (some slot) page? := by
  constructor
  · intro i inside
    have before := shows.directory i inside
    simp only [AddressSpace.mapProgram, Vector.getElem_set]
    unfold directoryEntry at before ⊢
    grind
  · exact shows.videoTable

theorem Shows.mapVideo (shows : a.Shows slot? page?) (page : Option Nat) :
    (a.mapVideo page).Shows slot? (some (page.getD vgaTextMemory)) := by
  constructor
  · intro i inside
    have before := shows.directory i inside
    simp only [AddressSpace.mapVideo, Vector.getElem_set]
    unfold directoryEntry at before ⊢
    grind
  · intro i inside
    have before := shows.videoTable i inside
    simp only [AddressSpace.mapVideo, Vector.getElem_set]
    unfold tableEntry at before ⊢
    grind

/-! ## Where addresses lead -/

/-- What lies behind an address of the first gigabyte: a window leads to what it shows, with all
rights, the rest of the video window's directory entry nowhere, and every other address to itself,
for the kernel alone. -/
def placeBehind (slot? page? : Option Nat) (address : Nat) : Option Place :=
  if programWindow ≤ address ∧ address < programWindowEnd then
    slot?.map fun slot => ⟨slot + (address - programWindow), true, true⟩
  else if videoWindow ≤ address ∧ address < videoWindowEnd then
    page?.map fun page => ⟨page + (address - videoWindow), true, true⟩
  else if videoWindow ≤ address ∧ address < videoWindow + hugePageSize then none
  else some ⟨address, true, false⟩

theorem Shows.resolve_eq (shows : a.Shows slot? page?) {address : Nat} (low : address < 2 ^ 30) :
    a.resolve address = placeBehind slot? page? address := by
  have entry : a.directory[address / hugePageSize]?.getD .unused =
      directoryEntry a.tableAddress slot? page? (address / hugePageSize) := by
    have inside : address / hugePageSize < 512 := by
      simp only [hugePageSize]
      omega
    rw [Vector.getElem?_eq_getElem inside, Option.getD_some, shows.directory]
  have leaf : a.videoTable[address % hugePageSize / pageSize]?.getD .unused =
      tableEntry page? (address % hugePageSize / pageSize) := by
    have inside : address % hugePageSize / pageSize < 512 := by
      simp only [hugePageSize, pageSize]
      omega
    rw [Vector.getElem?_eq_getElem inside, Option.getD_some, shows.videoTable]
  simp only [resolve, entry, leaf, directoryEntry]
  unfold placeBehind
  simp only [hugePageSize, pageSize, programEntry, videoEntry, programWindow, programWindowEnd,
    videoWindow, videoWindowEnd]
  -- The directory entry decides; only below the video window's does the page matter, too.
  by_cases lower : address / 0x200000 = 64
  · have window : 0x8000000 ≤ address ∧ address < 0x8400000 := by omega
    have rest : address % 0x200000 = address - 0x8000000 := by omega
    rw [if_pos lower, if_pos window, rest]
    cases slot? <;> rfl
  by_cases upper : address / 0x200000 = 64 + 1
  · have window : 0x8000000 ≤ address ∧ address < 0x8400000 := by omega
    rw [if_neg lower, if_pos upper, if_pos window]
    cases slot? with
    | none => rfl
    | some slot =>
      have sum : slot + 0x200000 + address % 0x200000 = slot + (address - 0x8000000) := by omega
      simp only [Option.elim_some, Option.map_some, ← sum]
      rfl
  have outside : ¬(0x8000000 ≤ address ∧ address < 0x8400000) := by omega
  rw [if_neg lower, if_neg upper, if_neg outside]
  by_cases video : address / 0x200000 = 66
  · rw [if_pos video]
    by_cases first : address % 0x200000 / 0x1000 = 0
    · have window : 0x8400000 ≤ address ∧ address < 0x8401000 := by omega
      have rest : address % 0x1000 = address - 0x8400000 := by omega
      rw [if_pos window, first, rest]
      cases page? with
      | none => rfl
      | some page => simp [PageFlags.userPage, tableEntry]
    · have behind : ¬(0x8400000 ≤ address ∧ address < 0x8401000) := by omega
      have region : 0x8400000 ≤ address ∧ address < 0x8400000 + 0x200000 := by omega
      rw [if_neg behind, if_pos region, tableEntry, if_neg first]
      cases page? with
      | none => rfl
      | some page => simp [PageFlags.userPage, PageEntry.unused, PageFlags.none]
  · have notWindow : ¬(0x8400000 ≤ address ∧ address < 0x8401000) := by omega
    have notRegion : ¬(0x8400000 ≤ address ∧ address < 0x8400000 + 0x200000) := by omega
    have sum : address / 0x200000 * 0x200000 + address % 0x200000 = address := by omega
    rw [if_neg video, if_neg notWindow, if_neg notRegion]
    simp [PageFlags.kernelHuge, sum]

theorem Shows.programTarget_eq (shows : a.Shows slot? page?) : a.programTarget = slot? := by
  rw [programTarget, shows.directory]
  cases slot? <;> rfl

theorem Shows.videoTarget_eq (shows : a.Shows slot? page?) : a.videoTarget = page? := by
  rw [videoTarget, shows.videoTable]
  cases page? <;> rfl

/-! ## The processor's walk -/

/-- What the processor finds behind an address of the first gigabyte, walking the directory at
`root`. `memory` gives the word at an address. The levels above the directory grant every right. -/
def walk (memory : Nat → UInt64) (root address : Nat) : Option Place :=
  let entry := memory (root + 8 * (address / hugePageSize))
  let rights := PageWord.flags entry
  if !rights.present then none
  else if rights.huge then
    some ⟨PageWord.frame hugePageSize entry + address % hugePageSize, rights.writable, rights.user⟩
  else
    let leaf := memory (PageWord.frame pageSize entry + 8 * (address % hugePageSize / pageSize))
    let leafRights := PageWord.flags leaf
    if leafRights.present then
      some ⟨PageWord.frame pageSize leaf + address % pageSize,
        rights.writable && leafRights.writable, rights.user && leafRights.user⟩
    else none

/-- Entries of huge pages lead to where huge pages start, and those that name a table name the video
table. -/
structure Walkable (a : AddressSpace) : Prop where
  multiple : ∀ i (inside : i < 512), (getElem a.directory i inside).flags.huge = true →
    (getElem a.directory i inside).address % hugePageSize = 0
  named : ∀ i (inside : i < 512), (getElem a.directory i inside).flags.present = true →
    (getElem a.directory i inside).flags.huge = false →
      (getElem a.directory i inside).address = a.tableAddress

end AddressSpace

/-- The two tables as they are kept in memory, eight bytes an entry. -/
structure StoredTables where
  directory : Vector UInt64 512
  videoTable : Vector UInt64 512
  tableAddress : Nat

namespace StoredTables

variable (ops : EntryOps) (s : StoredTables)

/-- Write the first entries over whatever the tables hold. -/
def new (directory videoTable : Vector UInt64 512) (tableAddress : Nat) : StoredTables where
  directory := directory.mapFinIdx fun i w _ =>
    if i = programEntry ∨ i = programEntry + 1 ∨ i = videoEntry then ops.clear w
    else ops.enter w (i * hugePageSize) .kernelHuge
  videoTable := videoTable.map ops.clear
  tableAddress := tableAddress

def mapProgram (slot : Nat) : StoredTables :=
  let first := getElem s.directory programEntry programEntry_lt
  let second := getElem s.directory (programEntry + 1) programEntry_succ_lt
  { s with
    directory :=
      (s.directory.set programEntry (ops.enter first slot .userHuge) programEntry_lt).set
        (programEntry + 1) (ops.enter second (slot + hugePageSize) .userHuge)
        programEntry_succ_lt }

def mapVideo (page : Option Nat) : StoredTables :=
  let leaf := getElem s.videoTable 0 firstEntry_lt
  let entry := getElem s.directory videoEntry videoEntry_lt
  { s with
    videoTable := s.videoTable.set 0 (ops.enter leaf (page.getD vgaTextMemory) .userPage)
      firstEntry_lt
    directory := s.directory.set videoEntry (ops.enter entry s.tableAddress .userPage)
      videoEntry_lt }

/-- The address that the kernel reads in a word, if it maps any. -/
def target (w : UInt64) : Option Nat :=
  if (ops.flags w).present then some (ops.address w) else none

def programTarget : Option Nat := target ops (getElem s.directory programEntry programEntry_lt)

def videoTarget : Option Nat := target ops (getElem s.videoTable 0 firstEntry_lt)

/-- The tables lie in physical memory. `memory` gives the word at an address. -/
structure InMemory (memory : Nat → UInt64) (root : Nat) : Prop where
  directory : ∀ i (inside : i < 512), memory (root + 8 * i) = getElem s.directory i inside
  videoTable : ∀ i (inside : i < 512),
    memory (s.tableAddress + 8 * i) = getElem s.videoTable i inside

/-- Physical memory with the directory at `root` and the video table at its own address. -/
def words (root address : Nat) : UInt64 :=
  if root ≤ address ∧ address < root + pageSize then
    s.directory[(address - root) / 8]?.getD 0
  else s.videoTable[(address - s.tableAddress) / 8]?.getD 0

/-- The tables hold the entries of an address space. -/
structure Keeps (s : StoredTables) (a : AddressSpace) : Prop where
  directory : ∀ i (inside : i < 512),
    PageWord.Holds (getElem s.directory i inside) (getElem a.directory i inside)
  videoTable : ∀ i (inside : i < 512),
    PageWord.Holds (getElem s.videoTable i inside) (getElem a.videoTable i inside)
  tableAddress : s.tableAddress = a.tableAddress

variable {ops : EntryOps} {s : StoredTables} {a : AddressSpace}

theorem inMemory_words {root : Nat}
    (apart : root + pageSize ≤ s.tableAddress ∨ s.tableAddress + pageSize ≤ root) :
    s.InMemory (s.words root) root := by
  simp only [pageSize] at apart
  constructor
  · intro i inside
    have here : root ≤ root + 8 * i ∧ root + 8 * i < root + pageSize := by
      simp only [pageSize]
      omega
    have index : (root + 8 * i - root) / 8 = i := by omega
    rw [words, if_pos here, index, Vector.getElem?_eq_getElem inside, Option.getD_some]
  · intro i inside
    have there : ¬(root ≤ s.tableAddress + 8 * i ∧ s.tableAddress + 8 * i < root + pageSize) := by
      simp only [pageSize]
      omega
    have index : (s.tableAddress + 8 * i - s.tableAddress) / 8 = i := by omega
    rw [words, if_neg there, index, Vector.getElem?_eq_getElem inside, Option.getD_some]

theorem target_of_holds {w : UInt64} {e : PageEntry} (holds : PageWord.Holds w e) :
    target ops w = e.target := by
  rw [target, ops.flags_eq, ops.address_eq, PageEntry.target, holds.present]
  cases present : e.flags.present with
  | false => rfl
  | true => rw [if_pos rfl, if_pos rfl, holds.frame present]

theorem keeps_new (directory videoTable : Vector UInt64 512) (tableAddress : Nat) :
    (new ops directory videoTable tableAddress).Keeps
      (.new directory videoTable tableAddress) := by
  refine ⟨fun i inside => ?_, fun i inside => ?_, rfl⟩
  · simp only [new, AddressSpace.new, Vector.getElem_mapFinIdx]
    split
    · exact PageWord.holds_clear _
    · refine PageWord.holds_enter _ ?_ ?_
      · simp only [pageSize, hugePageSize]
        omega
      · simp only [hugePageSize]
        omega
  · simp only [new, AddressSpace.new, Vector.getElem_map]
    exact PageWord.holds_clear _

namespace Keeps

theorem mapProgram (keeps : s.Keeps a) {slot : Nat} (aligned : slot % hugePageSize = 0)
    (fits : slot + programSlotSize ≤ 2 ^ 52) :
    (s.mapProgram ops slot).Keeps (a.mapProgram slot) := by
  simp only [hugePageSize, programSlotSize] at aligned fits
  refine ⟨fun i inside => ?_, keeps.videoTable, keeps.tableAddress⟩
  simp only [StoredTables.mapProgram, AddressSpace.mapProgram, Vector.getElem_set]
  split
  · refine PageWord.holds_enter _ ?_ ?_
    · simp only [pageSize, hugePageSize]
      omega
    · simp only [hugePageSize]
      omega
  · split
    · refine PageWord.holds_enter _ ?_ ?_
      · simp only [pageSize]
        omega
      · omega
    · exact keeps.directory i inside

theorem mapVideo (keeps : s.Keeps a)
    (table : a.tableAddress % pageSize = 0 ∧ a.tableAddress < 2 ^ 52) {page : Option Nat}
    (aligned : page.getD vgaTextMemory % pageSize = 0)
    (fits : page.getD vgaTextMemory < 2 ^ 52) : (s.mapVideo ops page).Keeps (a.mapVideo page) := by
  refine ⟨fun i inside => ?_, fun i inside => ?_, keeps.tableAddress⟩
  · simp only [StoredTables.mapVideo, AddressSpace.mapVideo, Vector.getElem_set, keeps.tableAddress]
    split
    · exact PageWord.holds_enter _ table.1 table.2
    · exact keeps.directory i inside
  · simp only [StoredTables.mapVideo, AddressSpace.mapVideo, Vector.getElem_set]
    split
    · exact PageWord.holds_enter _ aligned fits
    · exact keeps.videoTable i inside

theorem programTarget_eq (keeps : s.Keeps a) : s.programTarget ops = a.programTarget :=
  target_of_holds (keeps.directory _ _)

theorem videoTarget_eq (keeps : s.Keeps a) : s.videoTarget ops = a.videoTarget :=
  target_of_holds (keeps.videoTable _ _)

theorem walk_eq_resolve (keeps : s.Keeps a) (walkable : a.Walkable) {memory : Nat → UInt64}
    {root address : Nat} (inMemory : s.InMemory memory root) (low : address < 2 ^ 30) :
    AddressSpace.walk memory root address = a.resolve address := by
  have inside : address / hugePageSize < 512 := by
    simp only [hugePageSize]
    omega
  have leaf_inside : address % hugePageSize / pageSize < 512 := by
    simp only [hugePageSize, pageSize]
    omega
  have holds := keeps.directory _ inside
  have leaf_holds := keeps.videoTable _ leaf_inside
  have multiple := walkable.multiple _ inside
  have named := walkable.named _ inside
  have leaf_word := inMemory.videoTable _ leaf_inside
  rw [keeps.tableAddress] at leaf_word
  simp only [AddressSpace.walk, AddressSpace.resolve, inMemory.directory _ inside,
    Vector.getElem?_eq_getElem inside, Vector.getElem?_eq_getElem leaf_inside, Option.getD_some]
  generalize getElem a.directory (address / hugePageSize) inside = entry at *
  generalize getElem a.videoTable (address % hugePageSize / pageSize) leaf_inside = leaf at *
  cases isPresent : entry.flags.present with
  | false =>
    rw [holds.present, isPresent]
    rfl
  | true =>
    rw [holds.flags isPresent, isPresent]
    cases isHuge : entry.flags.huge with
    | true =>
      rw [PageWord.frame_hugePage (holds.frame isPresent) (multiple isHuge)]
      rfl
    | false =>
      rw [holds.frame isPresent, named isPresent isHuge, leaf_word, leaf_holds.present]
      simp only [Bool.not_true, Bool.false_eq_true, if_false, if_true]
      cases leafPresent : leaf.flags.present with
      | false => rfl
      | true =>
        rw [leaf_holds.flags leafPresent, leaf_holds.frame leafPresent]

end Keeps

end StoredTables

namespace AddressSpace

variable {a : AddressSpace} {slot? page? : Option Nat}

/-- A window's huge pages start where its slot does or a huge page further. -/
theorem multiple_of_huge {tableAddress : Nat} (slots : ∀ slot ∈ slot?, slot % hugePageSize = 0)
    {i : Nat} (huge : (directoryEntry tableAddress slot? page? i).flags.huge = true) :
    (directoryEntry tableAddress slot? page? i).address % hugePageSize = 0 := by
  unfold directoryEntry at huge ⊢
  by_cases first : i = programEntry
  · rw [if_pos first] at huge ⊢
    cases slot? with
    | none => cases huge
    | some slot => exact slots slot rfl
  rw [if_neg first] at huge ⊢
  by_cases second : i = programEntry + 1
  · rw [if_pos second] at huge ⊢
    cases slot? with
    | none => cases huge
    | some slot =>
      have multiple := slots slot rfl
      simp only [Option.elim_some, Nat.add_mod_right, multiple]
  rw [if_neg second] at huge ⊢
  by_cases video : i = videoEntry
  · rw [if_pos video] at huge
    cases page? <;> cases huge
  · rw [if_neg video]
    exact Nat.mul_mod_left i hugePageSize

theorem address_of_named {tableAddress : Nat} {i : Nat}
    (present : (directoryEntry tableAddress slot? page? i).flags.present = true)
    (notHuge : (directoryEntry tableAddress slot? page? i).flags.huge = false) :
    (directoryEntry tableAddress slot? page? i).address = tableAddress := by
  unfold directoryEntry at *
  split at present
  · cases slot? <;> simp_all [PageEntry.unused, PageFlags.none, PageFlags.userHuge]
  · split at present
    · cases slot? <;> simp_all [PageEntry.unused, PageFlags.none, PageFlags.userHuge]
    · split at present
      · cases page? <;> simp_all [PageEntry.unused, PageFlags.none]
      · simp_all [PageFlags.kernelHuge]

theorem Shows.walkable (shows : a.Shows slot? page?)
    (slots : ∀ slot ∈ slot?, slot % hugePageSize = 0) : a.Walkable := by
  constructor
  · intro i inside huge
    rw [shows.directory] at *
    exact multiple_of_huge slots huge
  · intro i inside present notHuge
    rw [shows.directory] at *
    exact address_of_named present notHuge

end AddressSpace

/-! ## Sequences of mapping calls -/

/-- A call that changes what a window shows. -/
inductive MapCall
  | program (slot : Nat)
  | video (page : Option Nat)

namespace MapCall

def apply (a : AddressSpace) : MapCall → AddressSpace
  | program slot => a.mapProgram slot
  | video page => a.mapVideo page

/-- The addresses are such that entries can keep them: a slot starts and ends with a huge page, a
page is aligned. -/
def Aligned : MapCall → Prop
  | program slot => slot % hugePageSize = 0 ∧ slot + programSlotSize ≤ 2 ^ 52
  | video page => page.getD vgaTextMemory % pageSize = 0 ∧ page.getD vgaTextMemory < 2 ^ 52

instance : DecidablePred Aligned
  | program _ => inferInstanceAs (Decidable (_ ∧ _))
  | video _ => inferInstanceAs (Decidable (_ ∧ _))

/-- The slot that was mapped last. The latest call stands first. -/
def lastSlot? : List MapCall → Option Nat
  | [] => none
  | program slot :: _ => some slot
  | video _ :: earlier => lastSlot? earlier

/-- The page that was mapped last; the display's memory if the call gave none. -/
def lastPage? : List MapCall → Option Nat
  | [] => none
  | program _ :: earlier => lastPage? earlier
  | video page :: _ => some (page.getD vgaTextMemory)

end MapCall

namespace AddressSpace

/-- The address space after a sequence of calls, the latest first, on tables that may hold anything
at the start. -/
def after (directory videoTable : Vector UInt64 512) (tableAddress : Nat) :
    List MapCall → AddressSpace
  | [] => new directory videoTable tableAddress
  | call :: earlier => call.apply (after directory videoTable tableAddress earlier)

variable {directory videoTable : Vector UInt64 512} {tableAddress : Nat} {calls : List MapCall}

theorem tableAddress_after (directory videoTable : Vector UInt64 512) (tableAddress : Nat)
    (calls : List MapCall) :
    (after directory videoTable tableAddress calls).tableAddress = tableAddress := by
  induction calls with
  | nil => rfl
  | cons call earlier ih => cases call <;> exact ih

theorem shows_after : (after directory videoTable tableAddress calls).Shows
    (MapCall.lastSlot? calls) (MapCall.lastPage? calls) := by
  induction calls with
  | nil => exact shows_new directory videoTable tableAddress
  | cons call earlier ih =>
    cases call with
    | program slot => exact ih.mapProgram slot
    | video page => exact ih.mapVideo page

theorem flushes_after : (after directory videoTable tableAddress calls).flushes = calls.length := by
  induction calls with
  | nil => rfl
  | cons call earlier ih =>
    rw [List.length_cons, ← ih]
    cases call <;> rfl

end AddressSpace

theorem MapCall.multiple_lastSlot? {calls : List MapCall} (aligned : ∀ call ∈ calls, call.Aligned) :
    ∀ slot ∈ lastSlot? calls, slot % hugePageSize = 0 := by
  induction calls with
  | nil => nofun
  | cons call earlier ih =>
    cases call with
    | program slot =>
      rintro _ ⟨⟩
      exact (aligned _ List.mem_cons_self).1
    | video page => exact ih fun c inside => aligned c (List.mem_cons_of_mem _ inside)

namespace StoredTables

def apply (ops : EntryOps) (s : StoredTables) : MapCall → StoredTables
  | .program slot => s.mapProgram ops slot
  | .video page => s.mapVideo ops page

/-- The stored tables after a sequence of calls, the latest first. -/
def after (ops : EntryOps) (directory videoTable : Vector UInt64 512) (tableAddress : Nat) :
    List MapCall → StoredTables
  | [] => new ops directory videoTable tableAddress
  | call :: earlier => (after ops directory videoTable tableAddress earlier).apply ops call

theorem keeps_after {ops : EntryOps} {directory videoTable : Vector UInt64 512} {tableAddress : Nat}
    (table : tableAddress % pageSize = 0 ∧ tableAddress < 2 ^ 52) {calls : List MapCall}
    (aligned : ∀ call ∈ calls, call.Aligned) :
    (after ops directory videoTable tableAddress calls).Keeps
      (.after directory videoTable tableAddress calls) := by
  induction calls with
  | nil => exact keeps_new directory videoTable tableAddress
  | cons call earlier ih =>
    have before := ih fun c inside => aligned c (List.mem_cons_of_mem _ inside)
    have here := aligned call List.mem_cons_self
    cases call with
    | program slot => exact before.mapProgram here.1 here.2
    | video page =>
      refine before.mapVideo ?_ here.1 here.2
      rwa [AddressSpace.tableAddress_after]

end StoredTables

namespace AddressSpace

/-- After any sequence of aligned mapping calls, on tables that held any words before, the processor
finds behind every address of the first gigabyte what the windows were last told to show, itself
for the kernel alone outside them, and nothing in the rest of the video window's directory entry.
What the kernel reads in the tables are just these targets, and every call discarded once what the
processor remembers. -/
theorem walk_after (ops : EntryOps) (directory videoTable : Vector UInt64 512) (tableAddress : Nat)
    (table : tableAddress % pageSize = 0 ∧ tableAddress < 2 ^ 52) {calls : List MapCall}
    (aligned : ∀ call ∈ calls, call.Aligned) :
    let a := after directory videoTable tableAddress calls
    let s := StoredTables.after ops directory videoTable tableAddress calls
    (∀ address < 2 ^ 30,
      a.resolve address = placeBehind (MapCall.lastSlot? calls) (MapCall.lastPage? calls) address ∧
        ∀ memory root, s.InMemory memory root → walk memory root address = a.resolve address) ∧
      a.programTarget = MapCall.lastSlot? calls ∧ a.videoTarget = MapCall.lastPage? calls ∧
      s.programTarget ops = MapCall.lastSlot? calls ∧ s.videoTarget ops = MapCall.lastPage? calls ∧
      a.flushes = calls.length := by
  have shows : (after directory videoTable tableAddress calls).Shows _ _ := shows_after
  have walkable := shows.walkable (MapCall.multiple_lastSlot? aligned)
  have keeps : (StoredTables.after ops directory videoTable tableAddress calls).Keeps _ :=
    StoredTables.keeps_after table aligned
  refine ⟨fun address low => ⟨shows.resolve_eq low, fun memory root inMemory => ?_⟩,
    shows.programTarget_eq, shows.videoTarget_eq,
    keeps.programTarget_eq.trans shows.programTarget_eq,
    keeps.videoTarget_eq.trans shows.videoTarget_eq, flushes_after⟩
  exact keeps.walk_eq_resolve walkable inMemory low

end AddressSpace

namespace Sample

theorem bits_lt (f : PageFlags) : f.bits < 256 := by
  rcases f with ⟨present, writable, user, huge⟩
  cases present <;> cases writable <;> cases user <;> cases huge <;> decide

/-- The word of an address and its flags: the flags fill bits that a page's address leaves free. -/
def entryWord (address : Nat) (flags : PageFlags) : UInt64 := UInt64.ofNat (address + flags.bits)

theorem toNat_entryWord {address : Nat} (flags : PageFlags) (lt : address < 2 ^ 52) :
    (entryWord address flags).toNat = address + flags.bits := by
  have below := bits_lt flags
  refine UInt64.toNat_ofNat_of_lt' ?_
  simp only [UInt64.size]
  omega

/-- Words that are written as a whole and read as the processor reads them. -/
def entryOps : EntryOps where
  clear _ := 0
  enter _ := entryWord
  flags := PageWord.flags
  address := PageWord.frame pageSize
  absent_clear _ := rfl
  flags_enter _ address flags page lt := by
    have below := bits_lt flags
    have low_byte : (entryWord address flags).toNat % 2 ^ 8 = flags.bits := by
      rw [toNat_entryWord flags lt]
      simp only [pageSize] at page
      omega
    have bit {i : Nat} (low : i < 8) :
        (entryWord address flags).toNat.testBit i = flags.bits.testBit i := by
      rw [← low_byte, Nat.testBit_mod_two_pow, decide_eq_true low, Bool.true_and]
    simp only [PageWord.flags]
    rw [bit (by decide), bit (by decide), bit (by decide), bit (by decide)]
    rcases flags with ⟨present, writable, user, huge⟩
    cases present <;> cases writable <;> cases user <;> cases huge <;> decide
  frame_enter _ address flags page lt := by
    have below := bits_lt flags
    simp only [PageWord.frame, toNat_entryWord flags lt, pageSize] at *
    omega
  flags_eq _ := rfl
  address_eq _ := rfl

/-- Two programs took turns and their screens were shown in between. -/
def turns : List MapCall :=
  [.program (programSlot 1), .video none, .program (programSlot 0), .video (some 0x208000)]

/-- The tables held unrelated words before. The last program is seen through its window, with every
right. -/
theorem walk_after_turns :
    AddressSpace.walk ((StoredTables.after entryOps (Vector.replicate 512 0xFFF067)
        (Vector.replicate 512 0x87) 0x206000 turns).words 0x205000) 0x205000
        (programWindow + 0x48000) =
      some ⟨programSlot 1 + 0x48000, true, true⟩ := by
  have aligned : ∀ call ∈ turns, call.Aligned := by decide
  obtain ⟨places, _⟩ := AddressSpace.walk_after entryOps (Vector.replicate 512 0xFFF067)
    (Vector.replicate 512 0x87) 0x206000 (by decide) aligned
  obtain ⟨resolved, walked⟩ := places (programWindow + 0x48000) (by decide)
  rw [walked _ _ (StoredTables.inMemory_words (.inl (by decide))), resolved]
  rfl

end Sample

end TerminalKernel
