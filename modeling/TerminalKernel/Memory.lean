/-!
# Byte-addressed memory

A memory assigns a byte to every address. Writing a block changes the addresses of that block and
no other (`byteAt_write`), which is all that the rest of the kernel needs to know about it.
Core Lean only.
-/

namespace TerminalKernel

structure Memory where
  byteAt : Nat → UInt8

namespace Memory

def zero : Memory := ⟨fun _ => 0⟩

instance : Inhabited Memory := ⟨zero⟩

/-- The `count` bytes from `address` on. -/
def read (m : Memory) (address count : Nat) : List UInt8 :=
  (List.range count).map fun i => m.byteAt (address + i)

/-- The memory with `bytes` stored from `address` on. -/
def write (m : Memory) (address : Nat) (bytes : List UInt8) : Memory :=
  let block := bytes.toArray
  ⟨fun a =>
    if address ≤ a ∧ a < address + block.size then block.getD (a - address) 0 else m.byteAt a⟩

theorem byteAt_write (m : Memory) (address : Nat) (bytes : List UInt8) (a : Nat) :
    (m.write address bytes).byteAt a =
      if address ≤ a ∧ a < address + bytes.length then bytes.getD (a - address) 0
      else m.byteAt a := by
  simp [write, Array.getD_eq_getD_getElem?, List.getD_eq_getElem?_getD]

theorem byteAt_write_of_outside (m : Memory) {address : Nat} {bytes : List UInt8} {a : Nat}
    (h : a < address ∨ address + bytes.length ≤ a) :
    (m.write address bytes).byteAt a = m.byteAt a := by
  rw [byteAt_write, if_neg (by omega)]

theorem read_write_self (m : Memory) (address : Nat) (bytes : List UInt8) :
    (m.write address bytes).read address bytes.length = bytes := by
  apply List.ext_getElem (by simp [read])
  intro i h₁ h₂
  simp [read, byteAt_write, h₂]

end Memory

end TerminalKernel
