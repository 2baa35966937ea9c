import Mathlib.Data.List.TakeWhile
import TerminalKernel.Proofs.InputLines
import TerminalKernel.Proofs.Printing

/-!
# Text laid out in rows

A text falls into rows, of which a screen shows the last 25. Printing keeps the screen and the
layout of all that was printed in step (`Screen.Shows.print`), however the text wraps and scrolls,
so that the layout of the whole text tells what stands on a terminal that was blank at first
(`Console.writes_laid_out`).
-/

namespace TerminalKernel

/-! ## Rows -/

namespace Layout

/-- The characters that stand in one row. -/
abbrev Row := List UInt8

/-- The rows of a text, the open one last, if the first row holds something already. A row is closed
by a line end, or by a character that fills it. -/
def rowsFrom (row : Row) : List UInt8 → List Row
  | [] => [row]
  | b :: rest =>
    if Screen.IsLineEnd b then row :: rowsFrom [] rest
    else if row.length + 1 = screenWidth then (row ++ [b]) :: rowsFrom [] rest
    else rowsFrom (row ++ [b]) rest

/-- The rows of a text, the open one last. -/
def rows (text : List UInt8) : List Row := rowsFrom [] text

/-- The rows that a screen has room for. -/
def lastRows (rows : List Row) : List Row := rows.drop (rows.length - screenHeight)

/-- What stands on a cell of a screen that shows some rows from its top on. -/
def cellAt (rows : List Row) (p : Position) : Cell :=
  ((rows[p.row]?.getD [])[p.column]?).elim .blank .text

end Layout

open Layout

namespace Screen

/-- The screen shows the last of some rows and nothing else, and the cursor is at the end of the open
row. -/
structure Shows (s : Screen) (rows : List Row) : Prop where
  cells : ∀ p, s.surface.get p = cellAt (lastRows rows) p
  row : s.cursor.row = min (rows.length - 1) (screenHeight - 1)
  column : s.cursor.column = (rows.getLastD []).length

end Screen

/-! ## Cells of the last rows -/

namespace Layout

variable {closed : List Row} {row : Row} {p : Position} {b : UInt8}

theorem cellAt_lastRows (rows : List Row) (p : Position) :
    cellAt (lastRows rows) p =
      ((rows[rows.length - screenHeight + p.row]?.getD [])[p.column]?).elim .blank .text := by
  simp only [cellAt, lastRows, List.getElem?_drop]

/-- A character at the end of the open row fills the cell that it belongs to and no other. -/
theorem cellAt_fill (here : p.row = min closed.length (screenHeight - 1))
    (behind : p.column = row.length) (q : Position) :
    cellAt (lastRows (closed ++ [row ++ [b]])) q =
      if p = q then .text b else cellAt (lastRows (closed ++ [row])) q := by
  simp only [cellAt_lastRows, List.length_append, List.length_singleton]
  split
  · rename_i same
    subst same
    have bottom : closed.length + 1 - screenHeight + p.row = closed.length := by
      simp only [screenHeight] at *
      omega
    rw [bottom, behind]
    simp
  · rename_i other
    by_cases below : closed.length + 1 - screenHeight + q.row = closed.length
    · have apart : q.column ≠ row.length := by
        intro same
        apply other
        apply Position.eq_of_row_column
        · simp only [screenHeight] at *
          omega
        · rw [behind, same]
      rw [below]
      simp only [List.getElem?_append_right, Nat.le_refl, Nat.sub_self, List.getElem?_cons_zero,
        Option.getD_some, List.getElem?_append]
      split
      · rfl
      · rw [List.getElem?_eq_none (by simp; omega), List.getElem?_eq_none (by omega)]
    · have same : (closed ++ [row ++ [b]])[closed.length + 1 - screenHeight + q.row]? =
          (closed ++ [row])[closed.length + 1 - screenHeight + q.row]? := by
        rcases Nat.lt_or_gt_of_ne below with above | beyond
        · rw [List.getElem?_append_left above, List.getElem?_append_left above]
        · rw [List.getElem?_eq_none (by simp; omega), List.getElem?_eq_none (by simp; omega)]
      rw [same]

/-- An empty row at the end adds nothing to the screen while there is room. -/
theorem cellAt_open_of_lt {rows : List Row} (room : rows.length < screenHeight) (p : Position) :
    cellAt (lastRows (rows ++ [[]])) p = cellAt (lastRows rows) p := by
  have first : rows.length - screenHeight = 0 := Nat.sub_eq_zero_of_le (Nat.le_of_lt room)
  have still : rows.length + 1 - screenHeight = 0 := Nat.sub_eq_zero_of_le room
  simp only [cellAt_lastRows, List.length_append, List.length_singleton, first, still, Nat.zero_add]
  rcases Nat.lt_trichotomy p.row rows.length with above | same | below
  · rw [List.getElem?_append_left above]
  · rw [same]
    simp
  · have longer : (rows ++ [[]])[p.row]? = none := List.getElem?_eq_none (by simp; omega)
    have gone : rows[p.row]? = none := List.getElem?_eq_none (by omega)
    rw [longer, gone]

/-- Beyond that it moves all rows up by one. -/
theorem cellAt_open_of_le {rows : List Row} (full : screenHeight ≤ rows.length) (p : Position) :
    cellAt (lastRows (rows ++ [[]])) p =
      if h : p.val + screenWidth < screenCells then
        cellAt (lastRows rows) ⟨p.val + screenWidth, h⟩
      else .blank := by
  have cell := p.val_eq
  have one : rows.length + 1 - screenHeight = rows.length - screenHeight + 1 :=
    Nat.sub_add_comm full
  simp only [cellAt_lastRows, List.length_append, List.length_singleton, one]
  split
  · rename_i inside
    have next : p.val + screenWidth = (p.row + 1) * screenWidth + p.column := by
      rw [cell]
      simp only [screenWidth]
      omega
    have row := Position.row_eq (p := ⟨p.val + screenWidth, inside⟩) next p.column_lt
    have column := Position.column_eq (p := ⟨p.val + screenWidth, inside⟩) next p.column_lt
    have above : rows.length - screenHeight + 1 + p.row < rows.length := by
      have low := row ▸ Position.row_lt ⟨p.val + screenWidth, inside⟩
      simp only [screenHeight] at *
      omega
    rw [row, column, List.getElem?_append_left above, Nat.add_right_comm, Nat.add_assoc]
  · rename_i last
    have bottom : rows.length - screenHeight + 1 + p.row = rows.length := by
      have low := p.row_lt
      have side := p.column_lt
      simp only [screenHeight, screenWidth, screenCells] at *
      omega
    rw [bottom]
    simp

end Layout

/-! ## Printing in rows -/

namespace Screen

variable {s : Screen} {closed : List Row} {row : Row} {b : UInt8}

theorem shows_blank : blank.Shows [[]] where
  cells p := by
    show Surface.blank.get p = cellAt [[]] p
    rw [cellAt]
    cases p.row <;> simp
  row := rfl
  column := rfl

/-- The row that was open is closed, and an empty one is open. -/
theorem shows_newline {rows : List Row} (some : rows ≠ [])
    (cells : ∀ p, s.surface.get p = cellAt (lastRows rows) p)
    (line : s.cursor.row = min (rows.length - 1) (screenHeight - 1)) :
    s.newline.Shows (rows ++ [[]]) := by
  have count := List.length_pos_iff.mpr some
  by_cases room : rows.length < screenHeight
  · have above : s.cursor.row + 1 < screenHeight := by
      simp only [screenHeight] at *
      omega
    obtain ⟨surface, row, column⟩ := newline_of_lt above
    refine ⟨fun p => ?_, ?_, ?_⟩
    · rw [surface, cells, cellAt_open_of_lt room]
    · rw [row, line]
      simp only [List.length_append, List.length_singleton, screenHeight] at *
      omega
    · rw [column]
      simp
  · have last : s.cursor.row + 1 = screenHeight := by
      simp only [screenHeight] at *
      omega
    rw [newline_of_last last]
    refine ⟨fun p => ?_, ?_, ?_⟩
    · simp only [Surface.get_scrollUp, cells, cellAt_open_of_le (Nat.not_lt.mp room)]
    · have low : Position.lastRow.row = screenHeight - 1 := rfl
      rw [low]
      simp only [List.length_append, List.length_singleton, screenHeight] at *
      omega
    · simp
      rfl

namespace Shows

theorem line (shown : s.Shows (closed ++ [row])) :
    s.cursor.row = min closed.length (screenHeight - 1) := by
  simpa using shown.row

theorem place (shown : s.Shows (closed ++ [row])) : s.cursor.column = row.length := by
  simpa using shown.column

theorem fill (shown : s.Shows (closed ++ [row])) (b : UInt8) (p : Position) :
    (s.fill (.text b)).surface.get p = cellAt (lastRows (closed ++ [row ++ [b]])) p := by
  rw [cellAt_fill shown.line shown.place, Screen.fill, Surface.get_set, shown.cells]

theorem lineEnd (shown : s.Shows (closed ++ [row])) (lineEnd : IsLineEnd b) :
    (s.putByte b).Shows (closed ++ [row] ++ [[]]) := by
  rw [putByte_of_lineEnd lineEnd]
  exact shows_newline (by simp) shown.cells shown.row

theorem full (shown : s.Shows (closed ++ [row])) (text : ¬ IsLineEnd b)
    (full : row.length + 1 = screenWidth) :
    (s.putByte b).Shows (closed ++ [row ++ [b]] ++ [[]]) := by
  have last : s.cursor.column + 1 = screenWidth := by rw [shown.place, full]
  rw [putByte_of_full text last]
  apply shows_newline (by simp) (shown.fill b)
  simpa [Screen.fill] using shown.line

theorem room (shown : s.Shows (closed ++ [row])) (text : ¬ IsLineEnd b)
    (room : row.length + 1 ≠ screenWidth) : (s.putByte b).Shows (closed ++ [row ++ [b]]) := by
  have inside : s.cursor.column + 1 < screenWidth := by
    have side := s.cursor.column_lt
    rw [shown.place] at side ⊢
    omega
  obtain ⟨surface, line, column⟩ := putByte_of_room text inside
  refine ⟨fun p => ?_, ?_, ?_⟩
  · rw [surface]
    exact shown.fill b p
  · rw [line, shown.line]
    simp
  · rw [column, shown.place]
    simp

/-- The rows that are closed already stay as they are, whatever is printed. -/
theorem print (shown : s.Shows (closed ++ [row])) (text : List UInt8) :
    (s.print text).Shows (closed ++ rowsFrom row text) := by
  induction text generalizing s closed row with
  | nil => exact shown
  | cons b rest ih =>
    unfold rowsFrom
    split
    · rename_i lineEnd
      simpa using ih (shown.lineEnd lineEnd)
    · rename_i text
      split
      · rename_i full
        simpa using ih (shown.full text full)
      · rename_i room
        exact ih (shown.room text room)

end Shows

end Screen

/-! ## Several writes -/

namespace Bytes

/-- What some writes print: of each the bytes before its first NUL. -/
def printed (writes : List (List UInt8)) : List UInt8 := writes.flatMap untilNul

theorem printed_cons (bytes : List UInt8) (rest : List (List UInt8)) :
    printed (bytes :: rest) = untilNul bytes ++ printed rest := rfl

theorem untilNul_of_free {bytes : List UInt8} (free : 0 ∉ bytes) : untilNul bytes = bytes := by
  rw [untilNul, List.takeWhile_eq_self_iff]
  intro b inside
  simpa using ne_of_mem_of_not_mem inside free

theorem printed_of_free {parts : List (List UInt8)} (free : 0 ∉ parts.flatten) :
    printed parts = parts.flatten := by
  induction parts with
  | nil => rfl
  | cons first rest ih =>
    rw [List.flatten_cons, List.mem_append, not_or] at free
    rw [printed_cons, untilNul_of_free free.1, ih free.2, List.flatten_cons]

end Bytes

namespace Editor

theorem receiveAll_print (e : Editor) (writes : List (List UInt8)) :
    e.receiveAll (writes.map .print) = { e with screen := e.screen.print (Bytes.printed writes) } := by
  induction writes generalizing e with
  | nil => rfl
  | cons bytes rest ih =>
    have first : e.receiveAll ((bytes :: rest).map .print) =
        (e.receive (.print bytes)).receiveAll (rest.map .print) := rfl
    rw [first, ih, Bytes.printed_cons, Screen.print_append]
    rfl

end Editor

namespace Console

def writeAll (c : Console) (t : TerminalId) (writes : List (List UInt8)) : Console :=
  writes.foldl (fun c bytes => c.write t bytes) c

variable (c : Console) (t : TerminalId)

theorem screen_draw (s : Screen) : (c.draw t s).screen t = s := by
  unfold draw
  split
  · exact c.screen_setScreen_self t s
  · exact c.screen_setScreen_self t s

theorem displayed_draw (s : Screen) : (c.draw t s).displayed = c.displayed := by
  unfold draw
  split
  · exact c.displayed_setScreen t s
  · exact c.displayed_setScreen t s

theorem setScreen_followCursor (s : Screen) :
    (c.followCursor.setScreen t s).followCursor = (c.setScreen t s).followCursor := by
  have displayed : c.followCursor.displayed = c.displayed := rfl
  unfold setScreen
  rw [displayed]
  split <;> rfl

/-- Of two screens drawn one after the other the second stays. -/
theorem draw_draw (s s' : Screen) : (c.draw t s).draw t s' = c.draw t s' := by
  have displayed := c.displayed_draw t s
  have twice := c.setScreen_setScreen t s s'
  unfold draw at displayed ⊢
  rw [displayed]
  split
  · rw [setScreen_followCursor, twice]
  · exact twice

/-- Writing in parts comes to drawing what all the parts print. -/
theorem writeAll_eq_draw {writes : List (List UInt8)} (some : writes ≠ []) :
    c.writeAll t writes = c.draw t ((c.screen t).print (Bytes.printed writes)) := by
  induction writes generalizing c with
  | nil => exact absurd rfl some
  | cons bytes rest ih =>
    have first : c.writeAll t (bytes :: rest) = (c.write t bytes).writeAll t rest := rfl
    rw [first, Bytes.printed_cons, Screen.print_append, write_eq_draw]
    cases rest with
    | nil => rfl
    | cons next rest => rw [ih _ (List.cons_ne_nil _ _), screen_draw, draw_draw]

theorem writeAll_eq_answerAll (writes : List (List UInt8)) :
    c.writeAll t writes = c.answerAll (writes.map (.write t)) := by
  simp only [writeAll, answerAll, List.foldl_map]
  rfl

/-- What a terminal notices of some writes to it. -/
theorem inputs_writes (displayed : TerminalId) (writes : List (List UInt8)) :
    Request.inputs t displayed (writes.map (.write t)) = writes.map .print := by
  induction writes with
  | nil => rfl
  | cons bytes rest ih => simp [Request.inputs, Request.input?, Request.shows, ih]

/-- A terminal on which nothing but printing happens shows what it had before and the text. -/
theorem screen_answerAll {requests : List Request} {writes : List (List UInt8)}
    (inputs : Request.inputs t c.displayed requests = writes.map .print) :
    (c.answerAll requests).screen t = (c.screen t).print (Bytes.printed writes) := by
  have editor := c.editorOf_answerAll requests t
  rw [inputs, Editor.receiveAll_print] at editor
  exact congrArg Editor.screen editor

end Console

namespace Kernel

/-- Write some texts through a descriptor of the running process, one after the other, and collect
the answers. -/
def writeAll (k : Kernel) (fd : Nat) :
    List (List UInt8) → Kernel × List (Except SyscallError Nat)
  | [] => (k, [])
  | bytes :: rest =>
    let (k, result) := k.write fd (some bytes)
    let (k, results) := k.writeAll fd rest
    (k, result :: results)

variable {k : Kernel} {pid : ProcessId} {p : ProcessRecord TerminalId} {fd : Nat} {d : Descriptor}

theorem current_print (k : Kernel) (t : TerminalId) (bytes : List UInt8) :
    (k.print t bytes).current = k.current := by
  unfold print
  split <;> rfl

theorem write_output (running : k.current = .ok (pid, p)) (bound : p.descriptor? fd = some d)
    (output : d.binding = .terminalOut) (bytes : List UInt8) :
    k.write fd (some bytes) = (k.print p.terminal bytes, .ok (Bytes.untilNul bytes).length) := by
  simp only [write, currentDescriptor, running, bound, output]

/-- Writing through a descriptor on the terminal's output writes to that terminal, and every write is
answered with the number of bytes that it printed. -/
theorem writeAll_output (running : k.current = .ok (pid, p)) (bound : p.descriptor? fd = some d)
    (output : d.binding = .terminalOut) (writes : List (List UInt8)) :
    (k.writeAll fd writes).1.console = k.console.writeAll p.terminal writes ∧
      (k.writeAll fd writes).2 = writes.map fun bytes => .ok (Bytes.untilNul bytes).length := by
  induction writes generalizing k with
  | nil => exact ⟨rfl, rfl⟩
  | cons bytes rest ih =>
    have kept : (k.print p.terminal bytes).current = .ok (pid, p) :=
      (k.current_print p.terminal bytes).trans running
    obtain ⟨console, answers⟩ := ih kept
    rw [console_print] at console
    rw [writeAll, write_output running bound output]
    exact ⟨console, congrArg _ answers⟩

end Kernel

/-! ## What stands on a terminal -/

/-- A terminal that was blank with its cursor at home shows the last rows of all that was printed on
it: after any writes to it, displayed or hidden, and whatever else reaches the console as long as it
gives the terminal nothing but text. NUL-free text may be split over several writes. A write through
a descriptor answers with the number of bytes before the first NUL. -/
theorem Console.writes_laid_out (c : Console) (t : TerminalId) (blank : c.screen t = .blank) :
    (∀ writes, ((c.writeAll t writes).screen t).Shows (rows (Bytes.printed writes))) ∧
    (∀ requests writes, Request.inputs t c.displayed requests = writes.map .print →
      ((c.answerAll requests).screen t).Shows (rows (Bytes.printed writes))) ∧
    (∀ parts : List (List UInt8), parts ≠ [] → 0 ∉ parts.flatten →
      c.writeAll t parts = c.write t parts.flatten ∧
        (parts.map fun part => (Bytes.untilNul part).length).sum =
          (Bytes.untilNul parts.flatten).length) ∧
    ∀ (k : Kernel) pid p fd d, k.console = c → k.current = .ok (pid, p) → p.terminal = t →
      p.descriptor? fd = some d → d.binding = .terminalOut → ∀ writes,
      (k.writeAll fd writes).1.console = c.writeAll t writes ∧
        (k.writeAll fd writes).2 = writes.map fun bytes => .ok (Bytes.untilNul bytes).length := by
  have laid : ∀ requests writes, Request.inputs t c.displayed requests = writes.map .print →
      ((c.answerAll requests).screen t).Shows (rows (Bytes.printed writes)) := by
    intro requests writes inputs
    have start : Screen.blank.Shows ([] ++ [[]]) := Screen.shows_blank
    rw [c.screen_answerAll t inputs, blank]
    exact start.print (Bytes.printed writes)
  refine ⟨fun writes => ?_, laid, fun parts some free => ⟨?_, ?_⟩, ?_⟩
  · rw [writeAll_eq_answerAll]
    exact laid _ writes (inputs_writes t c.displayed writes)
  · rw [c.writeAll_eq_draw t some, write_eq_draw, Bytes.printed_of_free free,
      Bytes.untilNul_of_free free]
  · rw [← List.length_flatMap, Bytes.untilNul_of_free free, ← Bytes.printed_of_free free]
    rfl
  · rintro k pid p fd d rfl running rfl bound output writes
    exact Kernel.writeAll_output running bound output writes

namespace Sample

theorem output_started :
    (played [.start]).2.console.screen .first = .blank ∧
      ∃ p, (played [.start]).2.current = .ok (0, p) ∧ p.terminal = .first ∧
        p.descriptor? 1 = some (.unfiled .terminalOut) := by
  have ready : (played []).2.Startable shellName shell 0 := startable rfl rfl
  have console : (played [.start]).2.console = .new default (.fill .blank) := by
    rw [console_played, (Kernel.start_launches ready).2.2]
    rfl
  obtain ⟨scheduled, owner⟩ := owner_started roster_started
  obtain ⟨p, running, terminal⟩ := run_started.current_of_owner owner
  have table := run_started.tabled (Kernel.holdings_of_current running)
  refine ⟨?_, p, running, terminal.trans scheduled, table.output⟩
  rw [console]
  exact congrArg Editor.screen (Console.editorOf_new _ _ .first)

end Sample

/-- The first shell writes a letter and then a second row of one letter; what follows a NUL is not
printed. The same stands there if its terminal is hidden in between. -/
theorem Console.writes_laid_out_started :
    (Sample.played [.start]).2.console.screen .first = .blank ∧
      ((Sample.played [.start]).2.writeAll 1 [[0x61, 0, 0x62], [0x0A, 0x63]]).2 = [.ok 1, .ok 2] ∧
      (((Sample.played [.start]).2.writeAll 1 [[0x61, 0, 0x62], [0x0A, 0x63]]).1.console.screen
        .first).Shows [[0x61], [0x63]] ∧
      (((Sample.played [.start]).2.console.answerAll
        [.write .first [0x61, 0, 0x62], .display 1, .write .first [0x0A, 0x63]]).screen
        .first).Shows [[0x61], [0x63]] ∧
      (Sample.played [.start]).2.console.writeAll .first [[0x61], [0x0A, 0x63]] =
        (Sample.played [.start]).2.console.write .first [0x61, 0x0A, 0x63] := by
  obtain ⟨blank, p, running, terminal, bound⟩ := Sample.output_started
  obtain ⟨shown, hidden, whole, answers⟩ := writes_laid_out _ .first blank
  obtain ⟨console, counts⟩ := answers _ 0 p 1 _ rfl running terminal bound rfl
    [[0x61, 0, 0x62], [0x0A, 0x63]]
  refine ⟨blank, counts, ?_, ?_, (whole [[0x61], [0x0A, 0x63]] (by simp) (by decide)).1⟩
  · rw [console]
    exact shown [[0x61, 0, 0x62], [0x0A, 0x63]]
  · exact hidden _ [[0x61, 0, 0x62], [0x0A, 0x63]] rfl

end TerminalKernel
