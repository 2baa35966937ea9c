import TerminalKernel.Limits

/-!
# Keys

What a press on the keyboard means to the kernel, and the characters on the caps of a US keyboard.
Core Lean only.
-/

namespace TerminalKernel

/-- The meaning of one keyboard event. -/
inductive Key
  | char (c : Char)
  | enter
  | backspace
  /-- A letter with Ctrl held, in lower case. -/
  | ctrl (c : Char)
  /-- A function key with Alt held, by its number. -/
  | altF (number : Nat)
  /-- Anything without a meaning of its own: releases, modifiers, other keys. -/
  | unknown
  deriving DecidableEq, Repr

namespace Key

instance : Inhabited Key := ⟨unknown⟩

/-- A character between apostrophes, with a backslash before those that need one. -/
private def quoted (c : Char) : String :=
  let bare := if c.toNat = 0x27 ∨ c.toNat = 0x5C then [Char.ofNat 0x5C, c] else [c]
  String.ofList ([Char.ofNat 0x27] ++ bare ++ [Char.ofNat 0x27])

/-- How messages name a key. -/
def describe : Key → String
  | char c => "Char(" ++ quoted c ++ ")"
  | enter => "Enter"
  | backspace => "Backspace"
  | ctrl c => "Ctrl(" ++ quoted c ++ ")"
  | altF number => s!"AltF({number})"
  | unknown => "Unknown"

end Key

/-! ## Key caps -/

/-- The characters of one key, without and with Shift. -/
structure KeyCap where
  plain : Char
  shifted : Char
  deriving DecidableEq, Repr

namespace KeyCap

/-- Whether the key carries a letter, to which Ctrl and Caps Lock apply. -/
def isLetter (cap : KeyCap) : Bool := cap.plain.isLower

/-- The keys that carry characters: runs of consecutive make codes, each from its first code on. -/
def layout : List (Nat × List KeyCap) :=
  [(0x02, [⟨'1', '!'⟩, ⟨'2', '@'⟩, ⟨'3', '#'⟩, ⟨'4', '$'⟩, ⟨'5', '%'⟩, ⟨'6', '^'⟩, ⟨'7', '&'⟩,
      ⟨'8', '*'⟩, ⟨'9', '('⟩, ⟨'0', ')'⟩, ⟨'-', '_'⟩, ⟨'=', '+'⟩]),
   (0x10, [⟨'q', 'Q'⟩, ⟨'w', 'W'⟩, ⟨'e', 'E'⟩, ⟨'r', 'R'⟩, ⟨'t', 'T'⟩, ⟨'y', 'Y'⟩, ⟨'u', 'U'⟩,
      ⟨'i', 'I'⟩, ⟨'o', 'O'⟩, ⟨'p', 'P'⟩, ⟨'[', Char.ofNat 0x7B⟩, ⟨']', Char.ofNat 0x7D⟩]),
   (0x1E, [⟨'a', 'A'⟩, ⟨'s', 'S'⟩, ⟨'d', 'D'⟩, ⟨'f', 'F'⟩, ⟨'g', 'G'⟩, ⟨'h', 'H'⟩, ⟨'j', 'J'⟩,
      ⟨'k', 'K'⟩, ⟨'l', 'L'⟩, ⟨';', ':'⟩, ⟨Char.ofNat 0x27, Char.ofNat 0x22⟩,
      ⟨Char.ofNat 0x60, '~'⟩]),
   (0x2B, [⟨Char.ofNat 0x5C, '|'⟩, ⟨'z', 'Z'⟩, ⟨'x', 'X'⟩, ⟨'c', 'C'⟩, ⟨'v', 'V'⟩, ⟨'b', 'B'⟩,
      ⟨'n', 'N'⟩, ⟨'m', 'M'⟩, ⟨',', '<'⟩, ⟨'.', '>'⟩, ⟨'/', '?'⟩]),
   (0x37, [⟨'*', '*'⟩]),
   (0x39, [⟨' ', ' '⟩])]

/-- The cap of the key with a make code, if it carries characters. -/
def ofCode? (code : Nat) : Option KeyCap :=
  layout.findSome? fun (first, caps) => if first ≤ code then caps[code - first]? else none

end KeyCap

end TerminalKernel
