import Mathlib.Algebra.Group.Nat.Defs
import TerminalKernel.Layout
import TerminalKernel.ProcessTable
import TerminalKernel.Sample

/-!
# Stack pointers

The kernel tells from its stack pointer who runs. The slots of the processes cut up the arena, one
below the other, so that every address of it lies in one slot (`Arena.tiles`). The processor finds
the slot with words of 64 bits, where a subtraction may go below zero and a result may be no address.
What is done with addresses is a parameter (`AddressOps`). For an arena between addresses that the
processor accepts nothing fails, whatever it does elsewhere (`ProcessTable.stack_pointers_tell`).
-/

namespace TerminalKernel

namespace Arena

variable (a : Arena) {address p q : Nat}

/-! ## Slots -/

/-- The address lies in the slot of the process. -/
def Within (p address : Nat) : Prop :=
  a.slotFor p ≤ address ∧ address < a.stackTop p

/-- The slots of the processes cut up the arena. -/
structure Tiles : Prop where
  disjoint : ∀ p q, p < maxProcesses → q < maxProcesses → p ≠ q →
    ∀ address, ¬ (a.Within p address ∧ a.Within q address)
  cover : ∀ address, (a.bottom ≤ address ∧ address < a.top) ↔
    ∃ p, p < maxProcesses ∧ a.Within p address
  /-- Each slot ends where that of the next lower number begins, the first one at the top. -/
  adjacent : ∀ p, p + 1 < maxProcesses → a.stackTop (p + 1) = a.slotFor p
  top : a.stackTop 0 = a.top
  bottom : a.slotFor (maxProcesses - 1) = a.bottom

variable {a}

theorem slotFor_add (valid : p < maxProcesses) :
    a.slotFor p + (p + 1) * stackSlotSize = a.top := by
  have room := a.room
  simp only [slotFor, stackSlotSize, maxProcesses] at *
  omega

theorem bottom_add (a : Arena) : a.bottom + maxProcesses * stackSlotSize = a.top :=
  Nat.sub_add_cancel a.room

theorem bottom_le_slotFor (a : Arena) (valid : p < maxProcesses) : a.bottom ≤ a.slotFor p :=
  Nat.sub_le_sub_left (Nat.mul_le_mul_right _ valid) _

theorem holder?_eq_some_iff_within :
    a.holder? address = some p ↔ p < maxProcesses ∧ a.Within p address :=
  a.holder?_eq_some_iff address p

theorem Within.unique (hp : p < maxProcesses) (hq : q < maxProcesses) (inP : a.Within p address)
    (inQ : a.Within q address) : p = q :=
  Option.some_inj.mp ((holder?_eq_some_iff_within.mpr ⟨hp, inP⟩).symm.trans
    (holder?_eq_some_iff_within.mpr ⟨hq, inQ⟩))

theorem slot_disjoint (hp : p < maxProcesses) (hq : q < maxProcesses) (other : p ≠ q) :
    a.slotFor p + stackSlotSize ≤ a.slotFor q ∨ a.slotFor q + stackSlotSize ≤ a.slotFor p := by
  have room := a.room
  simp only [slotFor, stackSlotSize, maxProcesses] at *
  omega

theorem holder?_isSome :
    (a.holder? address).isSome = true ↔ a.bottom ≤ address ∧ address < a.top := by
  have bounds : (a.bottom ≤ address ∧ address < a.top) ↔
      (a.top ≤ address + maxProcesses * stackSlotSize ∧ address < a.top) :=
    and_congr_left fun _ => Nat.sub_le_iff_le_add
  by_cases inside : a.top ≤ address + maxProcesses * stackSlotSize ∧ address < a.top
  · exact iff_of_true (congrArg Option.isSome (if_pos inside)) (bounds.mpr inside)
  · have none : a.holder? address = none := if_neg inside
    rw [none]
    exact iff_of_false Bool.false_ne_true fun both => inside (bounds.mp both)

theorem slot_add_le (a : Arena) (high : address < a.top) :
    address / stackSlotSize * stackSlotSize + stackSlotSize ≤ a.top := by
  have aligned := a.aligned
  simp only [stackSlotSize] at *
  omega

/-- Slots are counted from the top down. -/
theorem holder?_of_inside (low : a.bottom ≤ address) (high : address < a.top) :
    a.holder? address =
      some ((a.top - address / stackSlotSize * stackSlotSize) / stackSlotSize - 1) :=
  if_pos ⟨Nat.sub_le_iff_le_add.mp low, high⟩

theorem tiles (a : Arena) : a.Tiles where
  disjoint p q hp hq other address both := other (both.1.unique hp hq both.2)
  cover address := by
    rw [← holder?_isSome, Option.isSome_iff_exists]
    simp only [holder?_eq_some_iff_within]
  adjacent p valid := by
    have room := a.room
    simp only [stackTop, slotFor, stackSlotSize, maxProcesses] at *
    omega
  top := by
    have first := slotFor_add (a := a) (p := 0) (by decide)
    rwa [Nat.zero_add, Nat.one_mul] at first
  bottom := rfl

theorem holder?_bottom (a : Arena) : a.holder? a.bottom = some (maxProcesses - 1) := by
  refine holder?_eq_some_iff_within.mpr ⟨by decide, Nat.le_refl _, ?_⟩
  rw [stackTop, a.tiles.bottom]
  exact Nat.lt_add_of_pos_right (by decide)

theorem holder?_top (a : Arena) : a.holder? a.top = none :=
  holder?_eq_none_of_outside (.inr (Nat.le_refl _))

/-- The first address behind a stack belongs to the slot of the next lower number, if there is one. -/
theorem holder?_stackTop (a : Arena) (valid : p < maxProcesses) :
    a.holder? (a.stackTop p) = if p = 0 then none else some (p - 1) := by
  cases p with
  | zero => rw [a.tiles.top, holder?_top, if_pos rfl]
  | succ p =>
    rw [a.tiles.adjacent p valid, if_neg (Nat.succ_ne_zero p), Nat.succ_sub_one]
    refine holder?_eq_some_iff_within.mpr ⟨Nat.lt_of_succ_lt valid, Nat.le_refl _, ?_⟩
    exact Nat.lt_add_of_pos_right (by decide)

end Arena

/-! ## Machine words -/

/-- The processor accepts the address as it is: bit 47 is repeated above. -/
def Canonical (address : Nat) : Prop := address < UInt64.size ∧ canonical address = address

theorem canonical_iff {address : Nat} : Canonical address ↔
    address < 0x800000000000 ∨ (0xFFFF800000000000 ≤ address ∧ address < 0x10000000000000000) := by
  simp only [Canonical, canonical, UInt64.size]
  split <;> omega

/-- What is done with addresses. A step that fails gives nothing. Two of the steps fail below zero,
and none fails where it leads to an address that the processor accepts. -/
structure AddressOps where
  /-- The address so many bytes further down. -/
  down (a : UInt64) (count : UInt64) : Option UInt64
  /-- The address so many bytes further up. -/
  up (a : UInt64) (count : UInt64) : Option UInt64
  /-- How many bytes the first address lies behind the second. -/
  apart (a b : UInt64) : Option UInt64
  /-- The multiple of a power of two at or below an address. -/
  alignDown (a : UInt64) (alignment : UInt64) : Option UInt64
  down_eq : ∀ a count, count ≤ a → Canonical (a.toNat - count.toNat) →
    down a count = some (a - count)
  down_none : ∀ a count, a < count → down a count = none
  up_eq : ∀ a count, Canonical (a.toNat + count.toNat) → up a count = some (a + count)
  apart_eq : ∀ a b, b ≤ a → apart a b = some (a - b)
  apart_none : ∀ a b, a < b → apart a b = none
  toNat_alignDown : ∀ a k, k < 64 → Canonical (a.toNat / 2 ^ k * 2 ^ k) →
    (alignDown a (UInt64.ofNat (2 ^ k))).map UInt64.toNat = some (a.toNat / 2 ^ k * 2 ^ k)

namespace Word

/-- Subtraction that fails below zero. -/
def sub? (a b : UInt64) : Option UInt64 := if b ≤ a then some (a - b) else none

variable {a b : UInt64}

theorem sub?_eq (le : b.toNat ≤ a.toNat) : sub? a b = some (a - b) :=
  if_pos (UInt64.le_iff_toNat_le.mpr le)

theorem toNat_sub (le : b.toNat ≤ a.toNat) : (a - b).toNat = a.toNat - b.toNat :=
  UInt64.toNat_sub_of_le _ _ (UInt64.le_iff_toNat_le.mpr le)

end Word

namespace AddressOps

open Word (sub? sub?_eq toNat_sub)

variable (ops : AddressOps) {a b : UInt64}

/-- How many slots lie between one and the end of the arena. -/
theorem slots_below {base slot : UInt64} (below : slot.toNat + stackSlotSize ≤ base.toNat) :
    ∃ distance count, ops.apart base slot = some distance ∧ sub? (distance / 8192) 1 = some count ∧
      count.toNat = (base.toNat - slot.toNat) / stackSlotSize - 1 := by
  have le : slot.toNat ≤ base.toNat := Nat.le_trans (Nat.le_add_right _ _) below
  have quotient : ((base - slot) / 8192).toNat = (base.toNat - slot.toNat) / stackSlotSize := by
    rw [UInt64.toNat_div, toNat_sub le]
    rfl
  have positive : (1 : UInt64).toNat ≤ ((base - slot) / 8192).toNat := by
    rw [quotient]
    exact Nat.div_pos (Nat.le_sub_of_add_le' below) (by decide)
  refine ⟨_, _, ops.apart_eq _ _ (UInt64.le_iff_toNat_le.mpr le), sub?_eq positive, ?_⟩
  rw [toNat_sub positive, quotient]
  rfl

theorem toNat_up (accepted : Canonical (a.toNat + b.toNat)) :
    ∃ c, ops.up a b = some c ∧ c.toNat = a.toNat + b.toNat := by
  refine ⟨_, ops.up_eq a b accepted, ?_⟩
  rw [UInt64.toNat_add, Nat.mod_eq_of_lt accepted.1]

theorem alignDown_slot (accepted : Canonical (a.toNat / stackSlotSize * stackSlotSize)) :
    ∃ slot, ops.alignDown a 8192 = some slot ∧
      slot.toNat = a.toNat / stackSlotSize * stackSlotSize :=
  Option.map_eq_some_iff.mp (ops.toNat_alignDown a 13 (by decide) accepted)

end AddressOps

/-- Both ends of the arena are addresses that the processor accepts. -/
structure Arena.Addressable (a : Arena) : Prop where
  bottom : Canonical a.bottom
  top : Canonical a.top

theorem Arena.Addressable.between {a : Arena} (addressable : a.Addressable) {address : Nat}
    (low : a.bottom ≤ address) (high : address ≤ a.top) : Canonical address := by
  have size : a.bottom + 49152 = a.top := a.bottom_add
  have bottom := canonical_iff.mp addressable.bottom
  have top := canonical_iff.mp addressable.top
  rw [canonical_iff]
  omega

theorem canonical_slot {address : Nat} (accepted : Canonical address) :
    Canonical (address / stackSlotSize * stackSlotSize) := by
  rw [canonical_iff] at *
  simp only [stackSlotSize]
  omega

/-- What the processor knows when it looks for the owner of a stack. -/
structure StackWords where
  /-- First address after the arena. -/
  base : UInt64
  isLive : ProcessId → Bool

namespace StackWords

variable (ops : AddressOps) (w : StackWords)

/-- The slot of a process, unless a step fails. -/
def slotFor? (pid : ProcessId) : Option UInt64 :=
  ops.down w.base (UInt64.ofNat ((pid + 1) * stackSlotSize))

/-- The end of the stack of a process, unless a step fails. -/
def stackTop? (pid : ProcessId) : Option UInt64 := do
  let slot ← w.slotFor? ops pid
  ops.up slot 8192

/-- The live process on whose stack an address lies, unless a step fails. -/
def current? (stackPointer : UInt64) : Option (Option ProcessId) := do
  let start ← ops.down w.base (UInt64.ofNat (maxProcesses * stackSlotSize))
  if stackPointer < start ∨ w.base ≤ stackPointer then return none
  let slot ← ops.alignDown stackPointer 8192
  let distance ← ops.apart w.base slot
  let pid ← Word.sub? (distance / 8192) 1
  return if w.isLive pid.toNat then some pid.toNat else none

end StackWords

namespace ProcessTable

variable {τ : Type} {t : ProcessTable τ} (ops : AddressOps)

def stackWords (t : ProcessTable τ) : StackWords := ⟨UInt64.ofNat t.arena.top, t.isLive⟩

theorem current?_eq_some_iff {stackPointer pid : Nat} : t.current? stackPointer = some pid ↔
    t.isLive pid = true ∧ t.arena.Within pid stackPointer := by
  rw [current?, Option.filter_eq_some_iff, Arena.holder?_eq_some_iff_within]
  constructor
  · rintro ⟨⟨_, within⟩, live⟩
    exact ⟨live, within⟩
  · rintro ⟨live, within⟩
    obtain ⟨p, here⟩ := isLive_iff.mp live
    exact ⟨⟨lt_of_process? here, within⟩, live⟩

theorem toNat_base (addressable : t.arena.Addressable) :
    t.stackWords.base.toNat = t.arena.top :=
  UInt64.toNat_ofNat_of_lt' addressable.top.1

/-- Slots are found without a subtraction below zero, at addresses that the processor accepts. -/
theorem stackWords_slotFor? (addressable : t.arena.Addressable) {pid : Nat}
    (valid : pid < maxProcesses) :
    ∃ slot, t.stackWords.slotFor? ops pid = some slot ∧ slot.toNat = t.arena.slotFor pid := by
  have base := toNat_base addressable
  have whole := Arena.slotFor_add (a := t.arena) valid
  have offset : (UInt64.ofNat ((pid + 1) * stackSlotSize)).toNat = (pid + 1) * stackSlotSize := by
    refine UInt64.toNat_ofNat_of_lt' ?_
    simp only [stackSlotSize, maxProcesses, UInt64.size] at *
    omega
  have le : (UInt64.ofNat ((pid + 1) * stackSlotSize)).toNat ≤ t.stackWords.base.toNat := by
    rw [offset, base]
    exact Nat.le.intro ((Nat.add_comm _ _).trans whole)
  have slot := Word.toNat_sub le
  rw [offset, base] at slot
  have accepted := addressable.between (t.arena.bottom_le_slotFor valid) (Nat.sub_le _ _)
  refine ⟨_, ops.down_eq _ _ (UInt64.le_iff_toNat_le.mpr le) ?_, slot⟩
  rw [offset, base]
  exact accepted

theorem stackWords_stackTop? (addressable : t.arena.Addressable) {pid : Nat}
    (valid : pid < maxProcesses) :
    ∃ top, t.stackWords.stackTop? ops pid = some top ∧ top.toNat = t.arena.stackTop pid := by
  obtain ⟨slot, found, here⟩ := stackWords_slotFor? ops addressable valid
  have whole := Arena.slotFor_add (a := t.arena) valid
  have high : t.arena.stackTop pid ≤ t.arena.top := by
    rw [Arena.stackTop, ← whole, Nat.add_le_add_iff_left]
    exact Nat.le_mul_of_pos_left _ (Nat.succ_pos _)
  have low : t.arena.bottom ≤ t.arena.stackTop pid :=
    Nat.le_add_right_of_le (t.arena.bottom_le_slotFor valid)
  have sum : slot.toNat + (8192 : UInt64).toNat = t.arena.stackTop pid := by
    rw [here]
    rfl
  have accepted := addressable.between low high
  rw [← sum] at accepted
  obtain ⟨top, added, value⟩ := ops.toNat_up accepted
  rw [sum] at value
  refine ⟨top, ?_, value⟩
  rw [StackWords.stackTop?, found]
  exact added

/-- The first address of the arena is found as the slot of the highest number. -/
theorem stackWords_bottom? (addressable : t.arena.Addressable) :
    ∃ start, ops.down t.stackWords.base (UInt64.ofNat (maxProcesses * stackSlotSize)) =
      some start ∧ start.toNat = t.arena.bottom :=
  stackWords_slotFor? ops addressable (show maxProcesses - 1 < maxProcesses by decide)

/-- The owner of a stack is found without a step that fails. -/
theorem stackWords_current? (addressable : t.arena.Addressable) {stackPointer : UInt64}
    (accepted : Canonical stackPointer.toNat) :
    t.stackWords.current? ops stackPointer = some (t.current? stackPointer.toNat) := by
  have base := toNat_base addressable
  obtain ⟨start, found, bottom⟩ := stackWords_bottom? ops addressable
  have outside : (stackPointer < start ∨ t.stackWords.base ≤ stackPointer) ↔
      (stackPointer.toNat < t.arena.bottom ∨ t.arena.top ≤ stackPointer.toNat) := by
    rw [UInt64.lt_iff_toNat_lt, UInt64.le_iff_toNat_le, bottom, base]
  simp only [StackWords.current?, found, Option.bind_eq_bind, Option.bind_some]
  by_cases away : stackPointer.toNat < t.arena.bottom ∨ t.arena.top ≤ stackPointer.toNat
  · rw [if_pos (outside.mpr away), current?, Arena.holder?_eq_none_of_outside away]
    rfl
  · rw [if_neg ((not_congr outside).mpr away)]
    have inside : t.arena.bottom ≤ stackPointer.toNat ∧ stackPointer.toNat < t.arena.top :=
      ⟨Nat.le_of_not_lt fun low => away (.inl low), Nat.lt_of_not_le fun high => away (.inr high)⟩
    -- Rounding down keeps the address one that the processor accepts, and a slot away from the top.
    obtain ⟨slot, rounded, start⟩ := ops.alignDown_slot (canonical_slot accepted)
    have below := t.arena.slot_add_le inside.2
    rw [← start, ← base] at below
    obtain ⟨distance, pid, apart, counted, number⟩ := ops.slots_below below
    rw [start, base] at number
    simp only [rounded, Option.bind_some, apart, counted, number]
    rw [current?, Arena.holder?_of_inside inside.1 inside.2, Option.filter_some]
    rfl

/-- What a stack pointer tells. -/
structure StackPointersTell (t : ProcessTable τ) : Prop where
  tiles : t.arena.Tiles
  current : ∀ stackPointer pid, t.current? stackPointer = some pid ↔
    t.isLive pid = true ∧ t.arena.slotFor pid ≤ stackPointer ∧ stackPointer < t.arena.stackTop pid
  unique : ∀ stackPointer p q, p < maxProcesses → q < maxProcesses →
    t.arena.Within p stackPointer → t.arena.Within q stackPointer → p = q
  first : t.current? t.arena.bottom = (some (maxProcesses - 1)).filter t.isLive
  behind : t.current? t.arena.top = none
  /-- The end of a stack is the first address of the next lower number. -/
  boundary : ∀ pid, pid < maxProcesses →
    t.current? (t.arena.stackTop pid) = (if pid = 0 then none else some (pid - 1)).filter t.isLive
  /-- In words of 64 bits nothing fails on the way. -/
  slots : t.arena.Addressable → ∀ ops pid, pid < maxProcesses → ∃ slot top,
    t.stackWords.slotFor? ops pid = some slot ∧ slot.toNat = t.arena.slotFor pid ∧
      t.stackWords.stackTop? ops pid = some top ∧ top.toNat = t.arena.stackTop pid
  words : t.arena.Addressable → ∀ ops (stackPointer : UInt64), Canonical stackPointer.toNat →
    t.stackWords.current? ops stackPointer = some (t.current? stackPointer.toNat)

/-- For every arena and every set of live processes, a stack pointer lies in the slot of the running
process and in no other one, and the processor finds that process whatever the stack pointer is. -/
theorem stack_pointers_tell (t : ProcessTable τ) : t.StackPointersTell where
  tiles := t.arena.tiles
  current _ _ := current?_eq_some_iff
  unique _ _ _ hp hq inP inQ := inP.unique hp hq inQ
  first := by rw [current?, Arena.holder?_bottom]
  behind := by
    rw [current?, Arena.holder?_top]
    rfl
  boundary pid valid := by rw [current?, Arena.holder?_stackTop _ valid]
  slots addressable ops pid valid := by
    obtain ⟨slot, found, start⟩ := stackWords_slotFor? ops addressable valid
    obtain ⟨top, found', finish⟩ := stackWords_stackTop? ops addressable valid
    exact ⟨slot, top, found, start, found', finish⟩
  words addressable ops _ accepted := stackWords_current? ops addressable accepted

end ProcessTable

namespace Sample

/-- A word as an address. The bits above bit 47 must repeat it. Where just they are missing they are
filled in, and any other word is refused. -/
def address? (a : UInt64) : Option UInt64 :=
  if a >>> 47 = 0 ∨ a >>> 47 = 0x1FFFF then some a
  else if a >>> 47 = 1 then some (UInt64.ofNat (canonical a.toNat))
  else none

theorem address?_eq {a : UInt64} (accepted : Canonical a.toNat) : address? a = some a := by
  refine if_pos ?_
  have shift : (a >>> 47).toNat = a.toNat / 2 ^ 47 := by
    rw [UInt64.toNat_shiftRight, Nat.shiftRight_eq_div_pow]
    rfl
  rcases canonical_iff.mp accepted with low | ⟨high, bound⟩
  · left
    refine UInt64.toNat_inj.mp ?_
    rw [shift]
    exact Nat.div_eq_of_lt low
  · right
    refine UInt64.toNat_inj.mp ?_
    rw [shift]
    change a.toNat / 2 ^ 47 = 0x1FFFF
    omega

theorem toNat_and_mask (a : UInt64) {k : Nat} (small : k < 64) :
    (a &&& ~~~(UInt64.ofNat (2 ^ k) - 1)).toNat = a.toNat / 2 ^ k * 2 ^ k := by
  have power : (UInt64.ofNat (2 ^ k)).toNat = 2 ^ k :=
    UInt64.toNat_ofNat_of_lt' (Nat.pow_lt_pow_right (by decide) small)
  have positive : 0 < 2 ^ k := Nat.pow_pos (by decide)
  have mask : (UInt64.ofNat (2 ^ k) - 1).toNat = 2 ^ k - 1 := by
    rw [Word.toNat_sub (by rw [power]; exact positive), power]
    rfl
  have kept : (~~~(UInt64.ofNat (2 ^ k) - 1)).toNat = 2 ^ 64 - (2 ^ k - 1 + 1) := by
    rw [UInt64.toNat_not, mask, UInt64.size]
    omega
  have inside : 2 ^ k - 1 < 2 ^ 64 :=
    Nat.lt_of_le_of_lt (Nat.sub_le _ _) (Nat.pow_lt_pow_right (by decide) small)
  rw [UInt64.toNat_and, kept]
  refine Nat.eq_of_testBit_eq fun i => ?_
  rw [Nat.testBit_and, Nat.testBit_two_pow_sub_succ inside, Nat.testBit_two_pow_sub_one,
    Nat.testBit_mul_two_pow, Nat.testBit_div_two_pow]
  by_cases high : k ≤ i
  · rw [Nat.sub_add_cancel high]
    by_cases bounded : i < 64
    · simp [high, bounded]
    · have beyond : a.toNat.testBit i = false := Nat.testBit_lt_two_pow
        (Nat.lt_of_lt_of_le a.toNat_lt (Nat.pow_le_pow_right (by decide) (Nat.le_of_not_lt bounded)))
      simp [beyond]
  · simp [high, Nat.lt_of_not_le high]

/-- Words are subtracted and added where the result is a word, and it must be an address. -/
def addressOps : AddressOps where
  down a count := (Word.sub? a count).bind address?
  up a count := if a.toNat + count.toNat < UInt64.size then address? (a + count) else none
  apart := Word.sub?
  alignDown a alignment := address? (a &&& ~~~(alignment - 1))
  down_eq a count le accepted := by
    rw [Word.sub?, if_pos le, Option.bind_some, address?_eq]
    rwa [Word.toNat_sub (UInt64.le_iff_toNat_le.mp le)]
  down_none a count less := by
    rw [Word.sub?, if_neg (UInt64.not_le.mpr less), Option.bind_none]
  up_eq a count accepted := by
    rw [if_pos accepted.1, address?_eq]
    rwa [UInt64.toNat_add, Nat.mod_eq_of_lt accepted.1]
  apart_eq _ _ le := if_pos le
  apart_none _ _ less := if_neg (UInt64.not_le.mpr less)
  toNat_alignDown a k small accepted := by
    rw [← toNat_and_mask a small] at accepted ⊢
    rw [address?_eq accepted, Option.map_some]

def twoLive : ProcessTable TerminalId :=
  ((ProcessTable.empty arena).insert 0 (.new 0 0 .first [])).insert 1 (.new 1 0 .first [])

/-- The address behind the second stack belongs to the first process, and the one behind the first
stack to nobody. -/
theorem stack_pointers_tell_twoLive : arena.Addressable ∧
    ∃ first second, twoLive.stackWords.stackTop? addressOps 0 = some first ∧
      twoLive.stackWords.stackTop? addressOps 1 = some second ∧
      twoLive.stackWords.current? addressOps second = some (some 0) ∧
      twoLive.stackWords.current? addressOps first = some none := by
  have low {address : Nat} (below : address < 2 ^ 47) : Canonical address :=
    canonical_iff.mpr (.inl below)
  have addressable : arena.Addressable := ⟨low (by decide), low (by decide)⟩
  have tells := ProcessTable.stack_pointers_tell twoLive
  obtain ⟨_, first, _, _, found, here⟩ := tells.slots addressable addressOps 0 (by decide)
  obtain ⟨_, second, _, _, found', here'⟩ := tells.slots addressable addressOps 1 (by decide)
  refine ⟨addressable, first, second, found, found', ?_, ?_⟩
  · rw [tells.words addressable addressOps second (by rw [here']; exact low (by decide)), here',
      tells.boundary 1 (by decide)]
    rfl
  · rw [tells.words addressable addressOps first (by rw [here]; exact low (by decide)), here,
      tells.boundary 0 (by decide)]
    rfl

end Sample

end TerminalKernel
