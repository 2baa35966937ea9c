import TerminalKernel.Bytes
import TerminalKernel.Layout

/-!
# Pointers from user programs

A program hands the kernel an address and a length. The kernel uses them only if the whole range
lies inside one window: the program window, or the video window while it is mapped.
Core Lean only.
-/

namespace TerminalKernel.UserMemory

/-- Whether `[address, address + length)` lies inside one window that is mapped. -/
def accepts (videoMapped : Bool) (address length : Nat) : Bool :=
  (programWindow ≤ address && address + length ≤ programWindowEnd) ||
    (videoMapped && videoWindow ≤ address && address + length ≤ videoWindowEnd)

theorem accepts_iff (videoMapped : Bool) (address length : Nat) :
    accepts videoMapped address length = true ↔
      (programWindow ≤ address ∧ address + length ≤ programWindowEnd) ∨
        (videoMapped = true ∧ videoWindow ≤ address ∧ address + length ≤ videoWindowEnd) := by
  simp [accepts, and_assoc]

/-- A range that is accepted while the video window is unmapped stays so. -/
theorem accepts_of_unmapped {address length : Nat} (accepted : accepts false address length = true)
    (videoMapped : Bool) : accepts videoMapped address length = true := by
  rw [accepts_iff] at *
  rcases accepted with program | ⟨mapped, _⟩
  · exact .inl program
  · cases mapped

theorem lt_of_accepts {videoMapped : Bool} {address length : Nat}
    (h : accepts videoMapped address length = true) : address + length < UInt64.size := by
  simp only [accepts_iff, programWindowEnd, videoWindowEnd] at h
  simp only [UInt64.size]
  omega

/-- A buffer argument that the kernel agreed to use. -/
inductive Buffer
  /-- The null pointer, whatever the length. -/
  | null
  | block (address length : Nat)
  deriving DecidableEq, Repr

/-- The buffer that a program describes, or `none` when it must be rejected. -/
def buffer? (videoMapped : Bool) (address length : Nat) : Option Buffer :=
  if address = 0 then some .null
  else if accepts videoMapped address length then some (.block address length)
  else none

/-- A block that the kernel agreed to use is the one described. -/
theorem accepts_of_buffer? {videoMapped : Bool} {address length start count : Nat}
    (found : buffer? videoMapped address length = some (.block start count)) :
    start = address ∧ count = length ∧ accepts videoMapped address length = true := by
  unfold buffer? at found
  split at found
  · cases found
  · split at found
    · rename_i accepted
      cases found
      exact ⟨rfl, rfl, accepted⟩
    · cases found

/-- First address after the window that a text starting at `address` may not cross. -/
def windowEnd (address : Nat) : Nat :=
  if address < programWindowEnd then programWindowEnd else videoWindowEnd

/-- The text at `address`: at most `limit` bytes, ending before a NUL or at the window's end. -/
def text? (byteAt : Nat → UInt8) (videoMapped : Bool) (address limit : Nat) :
    Option (List UInt8) :=
  if accepts videoMapped address 1 then
    let length := min limit (windowEnd address - address)
    some (Bytes.untilNul ((List.range length).map fun i => byteAt (address + i)))
  else none

end TerminalKernel.UserMemory
