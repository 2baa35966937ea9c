import TerminalKernel.Proofs.ConsoleSteps
import TerminalKernel.Proofs.Printing

/-!
# Terminal records

Whatever is asked of a console, every terminal's line fits its buffer and its screen is blank from
the cursor on (`Editor.InOrder`). Positions and lines have no way to point outside what they belong
to. A record in memory has: its cursor is two numbers, its line a count of the bytes that are
pending in a buffer of fixed size. Run with every access checked, such a record never fails and does
what the console does (`Record.receive?_eq`).
-/

namespace TerminalKernel

/-! ## The invariant -/

namespace Editor

/-- The line has room for its newline until it is committed, and ends in it from then on; nothing is
on the screen at or after the cursor. -/
structure InOrder (e : Editor) : Prop where
  tail : e.screen.BlankTail
  most : e.line.text.length ≤ lineBufferSize
  room : e.line.committed = false → e.line.text.length < lineBufferSize
  ended : e.line.committed = true → e.line.text.getLast? = some 0x0A

theorem inOrder_blank : blank.InOrder where
  tail := Screen.blankTail_blank
  most := Nat.zero_le _
  room _ := by decide
  ended committed := by cases committed

namespace InOrder

variable {e : Editor}

/-- Nothing is said of a newline while the line is edited. -/
theorem of_editing (tail : e.screen.BlankTail) (editing : e.line.committed = false)
    (short : e.line.text.length < lineBufferSize) : e.InOrder where
  tail := tail
  most := Nat.le_of_lt short
  room _ := short
  ended committed := by
    rw [editing] at committed
    cases committed

theorem press (order : e.InOrder) (key : Key) : (e.press key).InOrder := by
  unfold Editor.press
  split
  · exact order
  · rename_i editing
    rw [Bool.not_eq_true] at editing
    have short := order.room editing
    cases key with
    | char c =>
      dsimp only
      split
      · rename_i taken
        apply of_editing
        · exact order.tail.putByte _
        · exact editing
        · simp only [List.length_append, List.length_singleton, lineBufferSize] at *
          omega
      · exact order
    | enter =>
      refine ⟨order.tail.putByte _, ?_, ?_, ?_⟩
      · simpa using Nat.succ_le_of_lt short
      · simp
      · simp
    | backspace =>
      dsimp only
      split
      · exact order
      · apply of_editing
        · exact order.tail.erase
        · exact editing
        · simp only [List.length_dropLast]
          omega
    | ctrl c =>
      dsimp only
      split
      · apply of_editing
        · exact Screen.blankTail_blank.print _
        · exact editing
        · exact short
      · exact order
    | altF _ | unknown => exact order

theorem take (order : e.InOrder) : e.take.InOrder := by
  unfold Editor.take
  split
  · apply of_editing
    · exact order.tail
    · rfl
    · simp [InputLine.empty]
  · exact order

theorem receive (order : e.InOrder) (input : Input) : (e.receive input).InOrder := by
  cases input with
  | print bytes => exact ⟨order.tail.print _, order.most, order.room, order.ended⟩
  | press key => exact order.press key
  | take => exact order.take

theorem receiveAll (order : e.InOrder) (inputs : List Input) : (e.receiveAll inputs).InOrder := by
  induction inputs generalizing e with
  | nil => exact order
  | cons input rest ih => exact ih (order.receive input)

end InOrder

end Editor

/-! ## A screen with checked accesses -/

/-- A surface with a cursor that nothing keeps on it. -/
structure Grid where
  surface : Surface
  row : Nat
  column : Nat
  deriving DecidableEq, Repr

namespace Grid

theorem cell_lt {row column : Nat} (inside : row < screenHeight ∧ column < screenWidth) :
    row * screenWidth + column < screenCells := by
  simp only [screenHeight, screenWidth, screenCells] at *
  omega

/-- Put something on the cell under the cursor. Outside the surface there is none. -/
def fill? (g : Grid) (cell : Cell) : Option Grid :=
  if inside : g.row < screenHeight ∧ g.column < screenWidth then
    some { g with surface := g.surface.set ⟨g.row * screenWidth + g.column, cell_lt inside⟩ cell }
  else none

def newline (g : Grid) : Grid :=
  if g.row + 1 < screenHeight then { g with row := g.row + 1, column := 0 }
  else { g with surface := g.surface.scrollUp, column := 0 }

def putByte? (g : Grid) (b : UInt8) : Option Grid :=
  if Screen.IsLineEnd b then some g.newline
  else (g.fill? (.text b)).map fun g =>
    if g.column + 1 = screenWidth then g.newline else { g with column := g.column + 1 }

def print? (g : Grid) (bytes : List UInt8) : Option Grid := bytes.foldlM putByte? g

def erase? (g : Grid) : Option Grid :=
  if 0 < g.column then { g with column := g.column - 1 }.fill? .blank
  else if 0 < g.row then { g with row := g.row - 1, column := screenWidth - 1 }.fill? .blank
  else some g

end Grid

namespace Screen

/-- The screen with its cursor as two numbers. -/
def grid (s : Screen) : Grid := ⟨s.surface, s.cursor.row, s.cursor.column⟩

variable (s : Screen)

theorem newline_grid : s.grid.newline = s.newline.grid := by
  unfold Grid.newline
  split
  · rename_i above
    obtain ⟨surface, row, column⟩ := newline_of_lt above
    simp only [grid, surface, row, column]
  · rename_i last
    have last : s.cursor.row + 1 = screenHeight :=
      Nat.le_antisymm s.cursor.row_lt (Nat.not_lt.mp last)
    rw [newline_of_last last]
    have row : s.cursor.row = Position.lastRow.row := Nat.succ.inj last
    simp only [grid, row]
    rfl

theorem fill?_grid (cell : Cell) : s.grid.fill? cell = some (s.fill cell).grid := by
  have here : (⟨s.cursor.row * screenWidth + s.cursor.column,
      Grid.cell_lt ⟨s.cursor.row_lt, s.cursor.column_lt⟩⟩ : Position) = s.cursor :=
    Fin.ext s.cursor.val_eq.symm
  unfold Grid.fill?
  rw [dif_pos ⟨s.cursor.row_lt, s.cursor.column_lt⟩]
  simp only [grid, here]
  rfl

theorem putByte?_grid (b : UInt8) : s.grid.putByte? b = some (s.putByte b).grid := by
  unfold Grid.putByte?
  split
  · rename_i lineEnd
    rw [putByte_of_lineEnd lineEnd, newline_grid]
  · rename_i text
    rw [fill?_grid, Option.map_some]
    split
    · rename_i full
      have full : s.cursor.column + 1 = screenWidth := full
      rw [putByte_of_full text full, newline_grid]
    · rename_i room
      have room : s.cursor.column + 1 < screenWidth :=
        Nat.lt_of_le_of_ne s.cursor.column_lt room
      obtain ⟨surface, row, column⟩ := putByte_of_room text room
      simp only [grid, surface, row, column]
      rfl

theorem print?_grid (bytes : List UInt8) : s.grid.print? bytes = some (s.print bytes).grid := by
  induction bytes generalizing s with
  | nil => rfl
  | cons b rest ih =>
    rw [Grid.print?, List.foldlM_cons, putByte?_grid]
    exact ih (s.putByte b)

/-- Erasing is blanking the cell before the cursor, which may be the last one of the row above. -/
theorem erase?_grid : s.grid.erase? = some s.erase.grid := by
  have cell := s.cursor.val_eq
  have side := s.cursor.column_lt
  by_cases home : s.cursor.val = 0
  · have row : ¬ 0 < s.cursor.row := by
      simp only [screenWidth] at *
      omega
    have column : ¬ 0 < s.cursor.column := by omega
    rw [Grid.erase?, grid, if_neg column, if_neg row, erase, if_pos home]
    rfl
  · obtain ⟨before, place⟩ : ∃ before : Position, before.val + 1 = s.cursor.val :=
      ⟨⟨s.cursor.val - 1, by omega⟩, by simp only; omega⟩
    have erased : s.erase = (⟨s.surface, before⟩ : Screen).fill .blank := by
      have same : (⟨s.cursor.val - 1, by omega⟩ : Position) = before := Fin.ext (by simp only; omega)
      rw [erase, if_neg home]
      simp only [same]
      rfl
    have moved : s.grid.erase? = (⟨s.surface, before⟩ : Screen).grid.fill? .blank := by
      unfold Grid.erase?
      split
      · rename_i column
        have column : 0 < s.cursor.column := column
        have here : before.val = s.cursor.row * screenWidth + (s.cursor.column - 1) := by omega
        have inside : s.cursor.column - 1 < screenWidth := by omega
        simp only [grid, Position.row_eq here inside, Position.column_eq here inside]
      · rename_i column
        have column : ¬ 0 < s.cursor.column := column
        have row : 0 < s.cursor.row := by
          simp only [screenWidth] at *
          omega
        have here : before.val = (s.cursor.row - 1) * screenWidth + (screenWidth - 1) := by
          simp only [screenWidth] at *
          omega
        have inside : screenWidth - 1 < screenWidth := by decide
        simp only [grid, row, ↓reduceIte, Position.row_eq here inside,
          Position.column_eq here inside]
    rw [moved, erased, fill?_grid]

end Screen

/-! ## A line with checked accesses -/

/-- A line as it lies in memory. The bytes behind the pending ones are left over from earlier
lines. -/
structure LineBuffer where
  bytes : Vector UInt8 lineBufferSize
  length : Nat
  committed : Bool
  deriving DecidableEq, Repr

namespace LineBuffer

/-- Append a byte to the pending ones. -/
def store? (l : LineBuffer) (b : UInt8) : Option LineBuffer :=
  if inside : l.length < lineBufferSize then
    some { l with bytes := l.bytes.set l.length b inside, length := l.length + 1 }
  else none

def pending? (l : LineBuffer) : Option (List UInt8) :=
  if l.length ≤ lineBufferSize then some (l.bytes.toList.take l.length) else none

/-- The pending bytes are the text of the line. -/
structure Holds (l : LineBuffer) (line : InputLine) : Prop where
  length : l.length = line.text.length
  pending : l.bytes.toList.take l.length = line.text
  committed : l.committed = line.committed

variable {l : LineBuffer} {line : InputLine}

theorem pending?_eq (holds : l.Holds line) (most : line.text.length ≤ lineBufferSize) :
    l.pending? = some line.text := by
  rw [pending?, if_pos (holds.length ▸ most), holds.pending]

theorem store?_eq (holds : l.Holds line) (short : line.text.length < lineBufferSize) (b : UInt8) :
    ∃ l', l.store? b = some l' ∧ l'.Holds { line with text := line.text ++ [b] } := by
  have inside : l.length < lineBufferSize := holds.length ▸ short
  refine ⟨_, dif_pos inside, ?_, ?_, holds.committed⟩
  · simp [holds.length]
  · have place : l.length < l.bytes.toList.length := by simpa using inside
    have before : (l.bytes.toList.take l.length).length = l.length :=
      List.length_take_of_le (Nat.le_of_lt place)
    dsimp only
    rw [Vector.toList_set, List.set_eq_take_append_cons_drop, if_pos place, List.take_append,
      before, Nat.add_sub_cancel_left, List.take_of_length_le (by omega), ← holds.pending]
    rfl

theorem holds_dropLast (holds : l.Holds line) :
    { l with length := l.length - 1 }.Holds { line with text := line.text.dropLast } where
  length := by simp [holds.length]
  pending := by
    have most : l.length ≤ l.bytes.toList.length := by
      have := congrArg List.length holds.pending
      rw [List.length_take, ← holds.length] at this
      omega
    dsimp only
    rw [← holds.pending, List.dropLast_eq_take, List.take_take, List.length_take]
    congr 1
    omega
  committed := holds.committed

end LineBuffer

/-! ## A record with checked accesses -/

/-- What a terminal's record and its surface hold in memory. -/
structure Record where
  grid : Grid
  line : LineBuffer
  deriving DecidableEq, Repr

namespace Record

/-- A new record, whatever its buffer held before. -/
def fresh (bytes : Vector UInt8 lineBufferSize) : Record := ⟨⟨.blank, 0, 0⟩, ⟨bytes, 0, false⟩⟩

/-- Apply one key. Enter stores its newline without looking at the length. -/
def press? (r : Record) (key : Key) : Option Record :=
  if r.line.committed then some r
  else
    match key with
    | .char c =>
      if c.toNat < 128 ∧ r.line.length < lineBufferSize - 1 then do
        let line ← r.line.store? c.toNat.toUInt8
        let grid ← r.grid.putByte? c.toNat.toUInt8
        return ⟨grid, line⟩
      else some r
    | .enter => do
      let line ← r.line.store? 0x0A
      let grid ← r.grid.putByte? 0x0A
      return ⟨grid, { line with committed := true }⟩
    | .backspace =>
      if 0 < r.line.length then do
        let grid ← r.grid.erase?
        return ⟨grid, { r.line with length := r.line.length - 1 }⟩
      else some r
    | .ctrl c =>
      if c = 'l' then do
        let pending ← r.line.pending?
        let grid ← (Grid.mk .blank 0 0).print? pending
        return ⟨grid, r.line⟩
      else some r
    | .altF _ | .unknown => some r

def take? (r : Record) : Option Record :=
  if r.line.committed then do
    let _ ← r.line.pending?
    return ⟨r.grid, { r.line with length := 0, committed := false }⟩
  else some r

def receive? (r : Record) : Input → Option Record
  | .print bytes => do
    let grid ← r.grid.print? (Bytes.untilNul bytes)
    return ⟨grid, r.line⟩
  | .press key => r.press? key
  | .take => r.take?

def receiveAll? (r : Record) (inputs : List Input) : Option Record := inputs.foldlM receive? r

/-- The record stands for an editor. -/
structure Represents (r : Record) (e : Editor) : Prop where
  grid : r.grid = e.screen.grid
  line : r.line.Holds e.line

variable {r : Record} {e : Editor}

theorem represents_fresh (bytes : Vector UInt8 lineBufferSize) : (fresh bytes).Represents .blank where
  grid := rfl
  line := ⟨rfl, rfl, rfl⟩

theorem press?_eq (represents : r.Represents e) (order : e.InOrder) (key : Key) :
    ∃ r', r.press? key = some r' ∧ r'.Represents (e.press key) := by
  obtain ⟨grid, line⟩ := represents
  unfold press? Editor.press
  rw [line.committed, line.length]
  split
  · exact ⟨r, rfl, grid, line⟩
  · rename_i editing
    rw [Bool.not_eq_true] at editing
    have short := order.room editing
    cases key with
    | char c =>
      dsimp only
      split
      · obtain ⟨line', stored, holds⟩ := LineBuffer.store?_eq line short c.toNat.toUInt8
        rw [stored, grid, Screen.putByte?_grid]
        exact ⟨_, rfl, rfl, holds⟩
      · exact ⟨r, rfl, grid, line⟩
    | enter =>
      obtain ⟨line', stored, holds⟩ := LineBuffer.store?_eq line short 0x0A
      rw [stored, grid, Screen.putByte?_grid]
      exact ⟨_, rfl, rfl, holds.length, holds.pending, rfl⟩
    | backspace =>
      dsimp only
      by_cases empty : e.line.text = []
      · simp only [empty, List.length_nil, Nat.lt_irrefl, ↓reduceIte, List.isEmpty_nil]
        exact ⟨r, rfl, grid, line⟩
      · have nonempty : 0 < e.line.text.length := List.length_pos_iff.mpr empty
        rw [if_pos nonempty, if_neg (by simpa using empty), grid, Screen.erase?_grid]
        exact ⟨_, rfl, rfl, line.length ▸ LineBuffer.holds_dropLast line⟩
    | ctrl c =>
      dsimp only
      split
      · have blank : Grid.mk .blank 0 0 = Screen.blank.grid := rfl
        rw [LineBuffer.pending?_eq line order.most, blank]
        simp only [Option.bind_eq_bind, Option.bind_some, Screen.print?_grid]
        exact ⟨_, rfl, rfl, line⟩
      · exact ⟨r, rfl, grid, line⟩
    | altF _ | unknown => exact ⟨r, rfl, grid, line⟩

theorem take?_eq (represents : r.Represents e) (order : e.InOrder) :
    ∃ r', r.take? = some r' ∧ r'.Represents e.take := by
  obtain ⟨grid, line⟩ := represents
  unfold take? Editor.take
  rw [line.committed]
  split
  · rw [LineBuffer.pending?_eq line order.most]
    exact ⟨_, rfl, grid, rfl, rfl, rfl⟩
  · exact ⟨r, rfl, grid, line⟩

/-- One input, with every access checked: none fails. -/
theorem receive?_eq (represents : r.Represents e) (order : e.InOrder) (input : Input) :
    ∃ r', r.receive? input = some r' ∧ r'.Represents (e.receive input) := by
  cases input with
  | print bytes =>
    rw [receive?, represents.grid, Screen.print?_grid]
    exact ⟨_, rfl, rfl, represents.line⟩
  | press key => exact press?_eq represents order key
  | take => exact take?_eq represents order

theorem receiveAll?_eq (represents : r.Represents e) (order : e.InOrder) (inputs : List Input) :
    ∃ r', r.receiveAll? inputs = some r' ∧ r'.Represents (e.receiveAll inputs) := by
  induction inputs generalizing r e with
  | nil => exact ⟨r, rfl, represents⟩
  | cons input rest ih =>
    obtain ⟨next, received, follows⟩ := receive?_eq represents order input
    obtain ⟨last, all, stands⟩ := ih follows (order.receive input)
    refine ⟨last, ?_, stands⟩
    rw [receiveAll?, List.foldlM_cons, received]
    exact all

end Record

/-! ## After any requests -/

namespace Console

variable {c : Console}

theorem CursorFollows.answer (follows : c.CursorFollows) (r : Request) :
    (c.answer r).CursorFollows := by
  cases r with
  | write t bytes =>
    rw [Console.answer, write_eq_draw]
    exact follows.draw t _
  | key key => exact follows.receiveKey key
  | takeLine t room =>
    rw [Console.answer, takeLine?]
    cases (c.terminal t).line.take? room with
    | none => exact follows
    | some bytes => exact follows.setTerminal t rfl
  | display t => exact follows.display t

theorem CursorFollows.answerAll (follows : c.CursorFollows) (requests : List Request) :
    (c.answerAll requests).CursorFollows := by
  induction requests generalizing c with
  | nil => exact follows
  | cons r rest ih => exact ih (follows.answer r)

theorem cursorFollows_new (pages : ScreenPages) (records : PerTerminal Terminal) :
    (new pages records).CursorFollows := by
  simp [CursorFollows, new, terminal, Terminal.blank]

/-- Whatever a new console is asked, in whatever order, the hardware cursor is where the displayed
terminal's cursor is, and every terminal is in order, displayed or hidden: its screen is blank from
the cursor on, and its line fits the buffer, with room for a newline until it is committed and a
newline at its end from then on. A record in memory that is used as the terminal was stands for the
terminal, wherever its cursor and the end of its line are by then: none of its accesses to a surface
or to the line's buffer was out of range. -/
theorem records_in_order (pages : ScreenPages) (records : PerTerminal Terminal)
    (requests : List Request) :
    ((new pages records).answerAll requests).CursorFollows ∧
    ∀ t, (((new pages records).answerAll requests).editorOf t).InOrder ∧
      ∀ bytes, ∃ r,
        (Record.fresh bytes).receiveAll? (Request.inputs t .first requests) = some r ∧
          r.Represents (((new pages records).answerAll requests).editorOf t) ∧
          r.grid.row < screenHeight ∧ r.grid.column < screenWidth := by
  refine ⟨(cursorFollows_new pages records).answerAll requests, fun t => ?_⟩
  have editor : ((new pages records).answerAll requests).editorOf t =
      Editor.blank.receiveAll (Request.inputs t .first requests) := by
    rw [editorOf_answerAll, editorOf_new]
    rfl
  rw [editor]
  refine ⟨Editor.inOrder_blank.receiveAll _, fun bytes => ?_⟩
  obtain ⟨r, received, represents⟩ := Record.receiveAll?_eq (Record.represents_fresh bytes)
    Editor.inOrder_blank (Request.inputs t .first requests)
  refine ⟨r, received, represents, ?_, ?_⟩
  · rw [represents.grid]
    exact Position.row_lt _
  · rw [represents.grid]
    exact Position.column_lt _

end Console

end TerminalKernel
