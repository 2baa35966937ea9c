import TerminalKernel.Keyboard.Key

/-!
# Scancodes

A keyboard sends one byte for every press (make code) and release (the same with the top bit set),
and the byte `E0` before the codes of keys that were added later. The decoder keeps which modifiers
are down and turns each byte into a key.
Core Lean only.
-/

namespace TerminalKernel

structure Decoder where
  shift : Bool
  ctrl : Bool
  alt : Bool
  capsLock : Bool
  /-- The last byte was the mark of an added key. -/
  extended : Bool
  deriving DecidableEq, Repr

namespace Decoder

def initial : Decoder := ⟨false, false, false, false, false⟩

instance : Inhabited Decoder := ⟨initial⟩

/-! ## Codes -/

/-- Set in a byte that reports a release. -/
abbrev releaseBit : UInt8 := 0x80

/-- Announces that the next byte belongs to an added key. -/
abbrev extendedMark : UInt8 := 0xE0

abbrev leftShift : UInt8 := 0x2A
abbrev rightShift : UInt8 := 0x36
abbrev ctrlKey : UInt8 := 0x1D
abbrev altKey : UInt8 := 0x38
abbrev capsLockKey : UInt8 := 0x3A
abbrev enterKey : UInt8 := 0x1C
abbrev backspaceKey : UInt8 := 0x0E
abbrev f1Key : UInt8 := 0x3B
abbrev f10Key : UInt8 := 0x44

/-! ## Decoding -/

/-- The key that a press on a key with characters stands for under the modifiers held. -/
def keyOf (d : Decoder) (code : UInt8) : Key :=
  match KeyCap.ofCode? code.toNat with
  | none => .unknown
  | some cap =>
    if cap.isLetter && d.ctrl then .ctrl cap.plain
    else if d.shift != (cap.isLetter && d.capsLock) then .char cap.shifted
    else .char cap.plain

/-- A press or release, `added` telling whether the mark of an added key came before it. -/
def transition (d : Decoder) (added pressed : Bool) (code : UInt8) : Decoder × Key :=
  if (code = leftShift ∨ code = rightShift) ∧ added = false then
    ({ d with shift := pressed }, .unknown)
  else if code = ctrlKey then ({ d with ctrl := pressed }, .unknown)
  else if code = altKey then ({ d with alt := pressed }, .unknown)
  else if added || !pressed then (d, .unknown)
  else if code = capsLockKey then ({ d with capsLock := !d.capsLock }, .unknown)
  else if code = enterKey then (d, .enter)
  else if code = backspaceKey then (d, .backspace)
  else if f1Key ≤ code ∧ code ≤ f10Key ∧ d.alt then (d, .altF (code.toNat - f1Key.toNat + 1))
  else (d, d.keyOf code)

/-- Take one byte from the keyboard. -/
def feed (d : Decoder) (byte : UInt8) : Decoder × Key :=
  if byte = extendedMark then ({ d with extended := true }, .unknown)
  else
    { d with extended := false }.transition d.extended (byte &&& releaseBit == 0)
      (byte &&& ~~~releaseBit)

/-- The keys of a sequence of bytes, one for each. -/
def feedAll (d : Decoder) : List UInt8 → Decoder × List Key
  | [] => (d, [])
  | byte :: rest =>
    let (d, key) := d.feed byte
    let (d, keys) := d.feedAll rest
    (d, key :: keys)

theorem feedAll_append (d : Decoder) (first second : List UInt8) :
    d.feedAll (first ++ second) =
      (((d.feedAll first).1.feedAll second).1,
        (d.feedAll first).2 ++ ((d.feedAll first).1.feedAll second).2) := by
  induction first generalizing d with
  | nil => rfl
  | cons byte rest ih => simp [feedAll, ih]

end Decoder

end TerminalKernel
