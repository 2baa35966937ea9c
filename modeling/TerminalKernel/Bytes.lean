/-!
# Byte strings

Little-endian numbers, texts that end at a NUL, zero padding, and the two ways in which bytes land
in storage that already holds something: at the start of a caller's buffer (`fill`) and at an offset
of an image (`patch`).
Core Lean only.
-/

namespace TerminalKernel.Bytes

/-! ## Numbers -/

/-- The number whose little-endian digits in base 256 are the given bytes. -/
def toNat : List UInt8 → Nat
  | [] => 0
  | b :: rest => b.toNat + 256 * toNat rest

/-- The `count` low digits of a number in base 256, least significant first. -/
def ofNat : (count : Nat) → Nat → List UInt8
  | 0, _ => []
  | count + 1, value => UInt8.ofNat (value % 256) :: ofNat count (value / 256)

/-- A 32-bit number as four bytes. -/
abbrev ofWord (value : Nat) : List UInt8 := ofNat 4 value

theorem length_ofNat (count value : Nat) : (ofNat count value).length = count := by
  induction count generalizing value with
  | zero => rfl
  | succ count ih => simp [ofNat, ih]

/-- How many numbers `count` bytes can hold. -/
def capacity : (count : Nat) → Nat
  | 0 => 1
  | count + 1 => 256 * capacity count

theorem toNat_ofNat (count value : Nat) : toNat (ofNat count value) = value % capacity count := by
  induction count generalizing value with
  | zero => simp [ofNat, toNat, capacity, Nat.mod_one]
  | succ count ih => simp [ofNat, toNat, capacity, ih, Nat.mod_mul]

theorem toNat_lt (bytes : List UInt8) : toNat bytes < capacity bytes.length := by
  induction bytes with
  | nil => simp [toNat, capacity]
  | cons b rest ih =>
    have hb : b.toNat < 256 := b.toNat_lt
    simp only [toNat, List.length_cons, capacity]
    omega

/-! ## Texts -/

/-- The bytes before the first NUL. -/
def untilNul (bytes : List UInt8) : List UInt8 := bytes.takeWhile (· != 0)

/-- The bytes before the first NUL are the first ones. -/
theorem getElem?_of_untilNul {bytes : List UInt8} {i : Nat} (inside : i < (untilNul bytes).length) :
    bytes[i]? = some (untilNul bytes)[i] :=
  List.prefix_iff_getElem?.mp (List.takeWhile_prefix _) i inside

theorem ne_zero_of_mem_untilNul {bytes : List UInt8} {b : UInt8} (inside : b ∈ untilNul bytes) :
    b ≠ 0 := by
  have counted := List.all_eq_true.mp List.all_takeWhile b inside
  simpa using counted

/-- The byte after them, if there is one, is the NUL. -/
theorem getElem?_length_untilNul {bytes : List UInt8}
    (shorter : (untilNul bytes).length < bytes.length) :
    bytes[(untilNul bytes).length]? = some 0 := by
  induction bytes with
  | nil => cases shorter
  | cons b rest ih =>
    unfold untilNul at *
    rw [List.takeWhile_cons] at shorter ⊢
    split at shorter
    · rename_i counted
      rw [if_pos counted]
      exact ih (Nat.lt_of_succ_lt_succ shorter)
    · rename_i stop
      rw [if_neg stop]
      simpa using stop

theorem length_untilNul_le (bytes : List UInt8) : (untilNul bytes).length ≤ bytes.length :=
  (List.takeWhile_prefix _).length_le

/-- The first `size` bytes, followed by zeros up to that length. -/
def padTo (size : Nat) (bytes : List UInt8) : List UInt8 :=
  bytes.take size ++ List.replicate (size - bytes.length) 0

theorem length_padTo (size : Nat) (bytes : List UInt8) : (padTo size bytes).length = size := by
  simp only [padTo, List.length_append, List.length_take, List.length_replicate]
  omega

/-! ## Storage -/

/-- A buffer after `bytes` were copied to its start. What lies beyond them is untouched. -/
def fill (buffer bytes : List UInt8) : List UInt8 := bytes ++ buffer.drop bytes.length

/-- An image with `bytes` written at `offset`. Bytes that fall outside the image are lost. -/
def patch (image : Array UInt8) (offset : Nat) : List UInt8 → Array UInt8
  | [] => image
  | b :: rest => patch (image.setIfInBounds offset b) (offset + 1) rest

@[simp] theorem size_patch (image : Array UInt8) (offset : Nat) (bytes : List UInt8) :
    (patch image offset bytes).size = image.size := by
  induction bytes generalizing image offset with
  | nil => rfl
  | cons b rest ih => simp [patch, ih]

/-- At most `length` bytes of an image from `start` on. -/
def slice (image : Array UInt8) (start length : Nat) : List UInt8 :=
  (image.extract start (start + length)).toList

theorem slice_eq (image : Array UInt8) (start length : Nat) :
    slice image start length = (image.toList.drop start).take length := by
  simp [slice, List.extract_eq_take_drop]

theorem length_slice_le (image : Array UInt8) (start length : Nat) :
    (slice image start length).length ≤ length := by
  rw [slice_eq]
  exact List.length_take_le _ _

/-- The 32-bit number stored at `offset`. -/
def wordAt (image : Array UInt8) (offset : Nat) : Nat := toNat (slice image offset 4)

end TerminalKernel.Bytes
