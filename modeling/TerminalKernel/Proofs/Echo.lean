import Mathlib.Data.List.Induction
import TerminalKernel.Proofs.InputLines
import TerminalKernel.Proofs.Printing
import TerminalKernel.Proofs.Screens

/-!
# Echo

While a line is edited, its bytes stand on the screen one by one from where the cursor was when the
line was begun, and nothing stands behind them. A character that the line has no place for is not
echoed, a byte that is taken back is blanked, and a redraw begins the line anew at the top of a
blank screen. The line that Enter commits is the one that is seen (`Console.echo_agrees`).
-/

namespace TerminalKernel

/-! ## Text on a screen -/

namespace Screen

variable {s base : Screen} {text : List UInt8} {b : UInt8}

/-- A screen shows what another one shows before its cursor, a text from there on, one byte a cell,
and nothing behind the text. The cursor stands where the text ends. -/
structure Echoes (s base : Screen) (text : List UInt8) : Prop where
  cursor : s.cursor.val = base.cursor.val + text.length
  before : ∀ p, p < base.cursor → s.surface.get p = base.surface.get p
  shown : ∀ i b, text[i]? = some b → ∀ p : Position, p.val = base.cursor.val + i →
    s.surface.get p = .text b
  behind : s.BlankTail

theorem echoes_self (tail : base.BlankTail) : base.Echoes base [] where
  cursor := rfl
  before _ _ := rfl
  shown _ _ none := by cases none
  behind := tail

namespace Echoes

theorem putByte (echoes : s.Echoes base text) (plain : ¬ IsLineEnd b)
    (room : base.cursor.val + text.length + 1 < screenCells) :
    (s.putByte b).Echoes base (text ++ [b]) := by
  have place := echoes.cursor
  have inside : s.cursor.val + 1 < screenCells := by omega
  have printed : s.putByte b = ⟨s.surface.set s.cursor (.text b), ⟨s.cursor.val + 1, inside⟩⟩ := by
    rw [putByte_of_text plain, moveTo_of_lt inside]
    rfl
  have behind := echoes.behind.putByte b
  rw [printed] at behind ⊢
  refine ⟨?_, fun p early => ?_, fun i b' found p here => ?_, behind⟩
  · simp only [List.length_append, List.length_singleton]
    omega
  · have other : s.cursor ≠ p := by
      simp only [Fin.lt_def, ne_eq, Fin.ext_iff] at *
      omega
    simp only [Surface.get_set, if_neg other]
    exact echoes.before p early
  · simp only [Surface.get_set]
    rw [List.getElem?_append] at found
    -- Either one of the bytes that stood there before, or the new one under the old cursor.
    split at found
    · rename_i earlier
      have other : s.cursor ≠ p := by
        rw [ne_eq, Fin.ext_iff]
        omega
      rw [if_neg other]
      exact echoes.shown i b' found p here
    · rename_i last
      have first : i - text.length = 0 := by
        have := (List.getElem?_eq_some_iff.mp found).1
        simp only [List.length_singleton] at this
        omega
      rw [first] at found
      cases found
      rw [if_pos (Fin.ext (by omega))]

theorem erase (echoes : s.Echoes base text) (something : text ≠ []) :
    s.erase.Echoes base text.dropLast := by
  have place := echoes.cursor
  have long : 0 < text.length := List.length_pos_iff.mpr something
  have behind := echoes.behind.erase
  have erased : s.erase = ⟨s.surface.set ⟨s.cursor.val - 1, by omega⟩ .blank,
      ⟨s.cursor.val - 1, by omega⟩⟩ := if_neg (by omega)
  rw [erased] at behind ⊢
  refine ⟨?_, fun p early => ?_, fun i b found p here => ?_, behind⟩
  · simp only [List.length_dropLast]
    omega
  · simp only [Surface.get_set]
    rw [if_neg]
    · exact echoes.before p early
    · simp only [Fin.lt_def, Fin.ext_iff] at *
      omega
  · simp only [Surface.get_set]
    rw [List.getElem?_dropLast] at found
    split at found
    · rename_i kept
      rw [if_neg]
      · exact echoes.shown i b found p here
      · rw [Fin.ext_iff]
        simp only
        omega
    · cases found

theorem print (tail : base.BlankTail) (plain : ∀ b ∈ text, ¬ IsLineEnd b)
    (room : base.cursor.val + text.length < screenCells) : (base.print text).Echoes base text := by
  induction text using List.reverseRecOn with
  | nil => exact echoes_self tail
  | append_singleton text b ih =>
    rw [List.length_append, List.length_singleton, ← Nat.add_assoc] at room
    rw [print_append]
    have printed := ih (fun b among => plain b (List.mem_append_left _ among)) (by omega)
    exact printed.putByte (plain b (by simp)) room

end Echoes

end Screen

/-! ## Keys that stay on the line -/

namespace Key

/-- The key is not one that ends a row of the screen. -/
def StaysOnLine (key : Key) : Prop := key ≠ .enter ∧ key ≠ .char '\n' ∧ key ≠ .char '\r'

instance (key : Key) : Decidable key.StaysOnLine := inferInstanceAs (Decidable (_ ∧ _))

/-- A redraw begins the line anew on a blank screen, any other key leaves it where it is. -/
def begun (base : Screen) (key : Key) : Screen := if key = .ctrl 'l' then .blank else base

theorem foldl_begun (keys : List Key) (base : Screen) :
    keys.foldl begun base = if .ctrl 'l' ∈ keys then .blank else base := by
  induction keys generalizing base with
  | nil => rfl
  | cons key rest ih =>
    rw [List.foldl_cons, ih, begun]
    by_cases redraw : key = .ctrl 'l'
    · simp [redraw]
    · simp [redraw, Ne.symm redraw]

theorem toNat_byte {c : Char} (ascii : c.toNat < 128) : c.toNat.toUInt8.toNat = c.toNat :=
  UInt8.toNat_ofNat_of_lt (Nat.lt_trans ascii (by decide))

/-- The byte of a character is a line end for these two characters only. -/
theorem not_isLineEnd {c : Char} (ascii : c.toNat < 128) (stays : (char c).StaysOnLine) :
    ¬ Screen.IsLineEnd c.toNat.toUInt8 := by
  have same {d : Char} (byte : c.toNat.toUInt8 = d.toNat.toUInt8) (small : d.toNat < 128) :
      char c = char d := by
    have code := congrArg UInt8.toNat byte
    rw [toNat_byte ascii, toNat_byte small] at code
    rw [Char.toNat_inj.mp code]
  rintro (newline | carriageReturn)
  · exact stays.2.1 (same newline (by decide))
  · exact stays.2.2 (same carriageReturn (by decide))

end Key

/-! ## Editing -/

namespace Editor

variable {e : Editor} {base : Screen}

/-- A line under edit was begun on a screen and is shown there. -/
structure Echoing (base : Screen) (e : Editor) : Prop where
  editing : e.line.committed = false
  short : e.line.text.length < lineBufferSize
  plain : ∀ b ∈ e.line.text, ¬ Screen.IsLineEnd b
  echoes : e.screen.Echoes base e.line.text

theorem echoing_empty {s : Screen} (tail : s.BlankTail) : Echoing s ⟨.empty, s⟩ where
  editing := rfl
  short := (by decide : 0 < lineBufferSize)
  plain _ none := by cases none
  echoes := Screen.echoes_self tail

/-- Each key does to the screen what it does to the line. -/
theorem Echoing.press (echoing : e.Echoing base)
    (room : base.cursor.val + (lineBufferSize - 1) < screenCells) {key : Key}
    (stays : key.StaysOnLine) : (e.press key).Echoing (key.begun base) := by
  obtain ⟨editing, short, plain, echoes⟩ := echoing
  have kept : e.Echoing base := ⟨editing, short, plain, echoes⟩
  unfold Editor.press
  rw [if_neg (by simp [editing])]
  cases key with
  | char c =>
    dsimp only
    split
    · rename_i fits
      have byte := Key.not_isLineEnd fits.1 stays
      refine ⟨editing, ?_, ?_, echoes.putByte byte (by omega)⟩
      · simp only [List.length_append, List.length_singleton]
        omega
      · simpa [or_imp, forall_and] using ⟨plain, byte⟩
    · exact kept
  | enter => exact absurd rfl stays.1
  | backspace =>
    dsimp only
    split
    · exact kept
    · rename_i something
      have something : e.line.text ≠ [] := by simpa using something
      refine ⟨editing, ?_, fun b among => plain b (List.dropLast_subset _ among),
        echoes.erase something⟩
      simp only [List.length_dropLast]
      omega
  | ctrl c =>
    by_cases redraw : c = 'l'
    · -- At the top of the screen even a full line has room.
      have top : Screen.blank.cursor.val + e.line.text.length < screenCells := by
        have home : Screen.blank.cursor.val = 0 := rfl
        simp only [lineBufferSize, screenCells] at *
        omega
      simp only [Key.begun, redraw, ↓reduceIte]
      exact ⟨editing, short, plain, .print Screen.blankTail_blank plain top⟩
    · have other : Key.ctrl c ≠ .ctrl 'l' := fun same => redraw (Key.ctrl.inj same)
      simp only [Key.begun, redraw, other, ↓reduceIte]
      exact kept
  | altF _ | unknown => exact kept

theorem Echoing.pressAll (echoing : e.Echoing base)
    (room : base.cursor.val + (lineBufferSize - 1) < screenCells) {keys : List Key}
    (stay : ∀ key ∈ keys, key.StaysOnLine) :
    (keys.foldl Editor.press e).Echoing (keys.foldl Key.begun base) := by
  induction keys generalizing e base with
  | nil => exact echoing
  | cons key rest ih =>
    have still : (key.begun base).cursor.val + (lineBufferSize - 1) < screenCells := by
      unfold Key.begun
      split
      · decide
      · exact room
    exact ih (echoing.press room (stay key (by simp))) still
      fun key among => stay key (List.mem_cons_of_mem _ among)

theorem line_pressAll (keys : List Key) (e : Editor) :
    (keys.foldl press e).line = keys.foldl InputLine.press e.line := by
  induction keys generalizing e with
  | nil => rfl
  | cons key rest ih => rw [List.foldl_cons, List.foldl_cons, ih, line_press]

end Editor

/-! ## On the console -/

namespace Console

/-- Give keys to the displayed terminal, one after the other. -/
def receiveKeys (c : Console) (keys : List Key) : Console :=
  keys.foldl (fun c key => (c.receiveKey key).1) c

theorem displayed_receiveKeys (c : Console) (keys : List Key) :
    (c.receiveKeys keys).displayed = c.displayed := by
  induction keys generalizing c with
  | nil => rfl
  | cons key rest ih => exact (ih _).trans (c.displayed_receiveKey key)

theorem editorOf_receiveKeys (c : Console) (keys : List Key) :
    (c.receiveKeys keys).editorOf c.displayed =
      keys.foldl Editor.press (c.editorOf c.displayed) := by
  induction keys generalizing c with
  | nil => rfl
  | cons key rest ih =>
    have first := c.editorOf_receiveKey key c.displayed
    have later := ih (c.receiveKey key).1
    rw [if_pos rfl] at first
    rw [c.displayed_receiveKey key, first] at later
    exact later

variable {c : Console} {keys : List Key}

/-- A line is begun where nothing stands behind the cursor and there is room for a full line. After
any keys but Enter and the two characters that end a row, the displayed terminal's screen is what it
was when the line was begun, with the bytes of the pending line in the cells from the cursor on, one
byte a cell, blank cells behind them and the cursor after the last one. If the screen was redrawn in
between, the line stands at the top of a blank screen. -/
theorem echo_agrees (noLine : (c.terminal c.displayed).line = .empty)
    (tail : (c.screen c.displayed).BlankTail)
    (room : (c.screen c.displayed).cursor.val + (lineBufferSize - 1) < screenCells)
    (stay : ∀ key ∈ keys, key.StaysOnLine) :
    (c.receiveKeys keys).displayed = c.displayed ∧
      ((c.receiveKeys keys).terminal c.displayed).line = keys.foldl InputLine.press .empty ∧
      ((c.receiveKeys keys).terminal c.displayed).line.committed = false ∧
      ((c.receiveKeys keys).screen c.displayed).Echoes
        (if .ctrl 'l' ∈ keys then .blank else c.screen c.displayed)
        ((c.receiveKeys keys).terminal c.displayed).line.text := by
  have begun : c.editorOf c.displayed = ⟨.empty, c.screen c.displayed⟩ :=
    congrArg (Editor.mk · _) noLine
  have edited := c.editorOf_receiveKeys keys
  rw [begun] at edited
  have line := congrArg Editor.line edited
  rw [Editor.line_pressAll] at line
  have echoing := (Editor.echoing_empty tail).pressAll room stay
  rw [Key.foldl_begun, ← edited] at echoing
  exact ⟨c.displayed_receiveKeys keys, line, echoing.editing, echoing.echoes⟩

end Console

namespace Sample

/-- A console on which two bytes were printed, as a shell prompts for a command. -/
def prompted : Console := (Console.new default (.fill .blank)).write .first (ascii "> ")

theorem screen_prompted : prompted.screen .first = Screen.blank.print (ascii "> ") := by
  have written := (Console.new default (.fill .blank)).editorOf_write .first .first (ascii "> ")
  rw [if_pos rfl, Console.editorOf_new] at written
  exact congrArg Editor.screen written

theorem line_prompted : (prompted.terminal .first).line = .empty := by
  have written := (Console.new default (.fill .blank)).editorOf_write .first .first (ascii "> ")
  rw [if_pos rfl, Console.editorOf_new] at written
  exact congrArg Editor.line written

end Sample

/-- A command is typed behind a prompt, with a letter that is taken back. It stands behind the
prompt, and at the top of a blank screen after a redraw. -/
theorem Console.echo_agrees_prompted :
    (Sample.prompted.screen .first).BlankTail ∧
      ((Sample.prompted.receiveKeys [.char 'l', .char 'z', .backspace, .char 's']).terminal
        .first).line = ⟨ascii "ls", false⟩ ∧
      ((Sample.prompted.receiveKeys [.char 'l', .char 'z', .backspace, .char 's']).screen
        .first).Echoes (Screen.blank.print (ascii "> ")) (ascii "ls") ∧
      ((Sample.prompted.receiveKeys [.char 'l', .ctrl 'l', .char 's']).screen .first).Echoes
        .blank (ascii "ls") := by
  have tail : (Sample.prompted.screen .first).BlankTail := by
    rw [Sample.screen_prompted]
    exact Screen.blankTail_blank.print _
  have room : (Sample.prompted.screen .first).cursor.val + (lineBufferSize - 1) < screenCells := by
    rw [Sample.screen_prompted]
    decide
  have typed : ∀ key ∈ [Key.char 'l', .char 'z', .backspace, .char 's'], key.StaysOnLine := by
    decide
  have redraws : ∀ key ∈ [Key.char 'l', .ctrl 'l', .char 's'], key.StaysOnLine := by decide
  obtain ⟨-, line, -, echoes⟩ := echo_agrees (c := Sample.prompted) Sample.line_prompted tail room typed
  obtain ⟨-, line', -, redrawn⟩ :=
    echo_agrees (c := Sample.prompted) Sample.line_prompted tail room redraws
  have shown : Sample.prompted.displayed = .first := rfl
  rw [shown] at line echoes line' redrawn
  rw [line, if_neg (by decide), Sample.screen_prompted] at echoes
  rw [line', if_pos (by decide)] at redrawn
  exact ⟨tail, line, echoes, redrawn⟩

end TerminalKernel
