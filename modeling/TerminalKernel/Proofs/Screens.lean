import TerminalKernel.Console

/-!
# Independent screens

The terminals share one display and one keyboard, and yet each behaves like an editor of its own:
its line and its screen are what its own inputs make of them (`editorOf_answerAll`). Neither tells
when the display changed hands or what the other terminals were given in between.
-/

namespace TerminalKernel

/-! ## One terminal alone -/

/-- What reaches one terminal. -/
inductive Input
  | print (bytes : List UInt8)
  | press (key : Key)
  /-- A reader takes the committed line. -/
  | take
  deriving DecidableEq, Repr

namespace Editor

def blank : Editor := ⟨.empty, .blank⟩

def take (e : Editor) : Editor := if e.line.committed then { e with line := .empty } else e

def receive (e : Editor) : Input → Editor
  | .print bytes => { e with screen := e.screen.print (Bytes.untilNul bytes) }
  | .press key => e.press key
  | .take => e.take

def receiveAll (e : Editor) (inputs : List Input) : Editor := inputs.foldl receive e

theorem receiveAll_append (e : Editor) (first second : List Input) :
    e.receiveAll (first ++ second) = (e.receiveAll first).receiveAll second :=
  List.foldl_append ..

theorem press_altF (e : Editor) (number : Nat) : e.press (.altF number) = e := by
  unfold press
  split <;> rfl

end Editor

namespace Console

/-- A terminal's line and what it shows, wherever its screen is kept. -/
def editorOf (c : Console) (t : TerminalId) : Editor := ⟨(c.terminal t).line, c.screen t⟩

variable (c : Console)

/-! ## What is displayed -/

@[simp] theorem displayed_setScreen (t : TerminalId) (s : Screen) :
    (c.setScreen t s).displayed = c.displayed := by
  unfold setScreen
  split <;> rfl

@[simp] theorem displayed_write (t : TerminalId) (bytes : List UInt8) :
    (c.write t bytes).displayed = c.displayed := by
  have printed := c.displayed_setScreen t ((c.screen t).print (Bytes.untilNul bytes))
  unfold write
  dsimp only
  split
  · exact printed
  · exact printed

@[simp] theorem displayed_receiveKey (key : Key) :
    (c.receiveKey key).1.displayed = c.displayed := by
  unfold receiveKey
  split
  · split <;> rfl
  · exact c.displayed_setScreen _ _

theorem displayed_display (t : TerminalId) : (c.display t).displayed = t := by
  unfold display
  split
  · rename_i here
    exact here.symm
  · rfl

@[simp] theorem pages_setScreen (t : TerminalId) (s : Screen) :
    (c.setScreen t s).pages = c.pages := by
  unfold setScreen
  split <;> rfl

theorem pages_receiveKey (key : Key) : (c.receiveKey key).1.pages = c.pages := by
  unfold receiveKey
  split
  · split <;> rfl
  · exact c.pages_setScreen _ _

theorem pages_display (t : TerminalId) : (c.display t).pages = c.pages := by
  unfold display
  split <;> rfl

/-! ## Editors after an update -/

theorem editorOf_setScreen (s t : TerminalId) (x : Screen) :
    (c.setScreen s x).editorOf t =
      if s = t then { c.editorOf t with screen := x } else c.editorOf t := by
  have line : ((c.setScreen s x).terminal t).line = (c.terminal t).line := by
    unfold setScreen
    split
    all_goals
      simp only [terminal, setTerminal, PerTerminal.get_set]
      split
      · rename_i same
        rw [same]
      · rfl
  unfold editorOf
  rw [line]
  split
  · rename_i same
    rw [same, screen_setScreen_self]
  · rename_i other
    rw [c.screen_setScreen_of_ne other]

theorem editorOf_setLine (s t : TerminalId) (line : InputLine) :
    (c.setTerminal s { c.terminal s with line }).editorOf t =
      if s = t then { c.editorOf t with line } else c.editorOf t := by
  simp only [editorOf, screen, displayed_setTerminal, live_setTerminal, terminal_setTerminal]
  split
  · rename_i same
    rw [same]
  · rfl

theorem editorOf_write (s t : TerminalId) (bytes : List UInt8) :
    (c.write s bytes).editorOf t =
      if s = t then (c.editorOf t).receive (.print bytes) else c.editorOf t := by
  have printed := c.editorOf_setScreen s t ((c.screen s).print (Bytes.untilNul bytes))
  have moved : (c.write s bytes).editorOf t =
      (c.setScreen s ((c.screen s).print (Bytes.untilNul bytes))).editorOf t := by
    unfold write
    dsimp only
    split <;> rfl
  rw [moved, printed]
  split
  · rename_i same
    rw [same]
    rfl
  · rfl

theorem editorOf_setEditor (t : TerminalId) (e : Editor) :
    (c.setEditor e).editorOf t = if c.displayed = t then e else c.editorOf t := by
  have drawn := c.editorOf_setScreen c.displayed t e.screen
  have stored := (c.setScreen c.displayed e.screen).editorOf_setLine c.displayed t e.line
  have moved : (c.setEditor e).editorOf t = ((c.setScreen c.displayed e.screen).setTerminal c.displayed
      { (c.setScreen c.displayed e.screen).terminal c.displayed with line := e.line }).editorOf t :=
    rfl
  rw [moved, stored, drawn]
  split <;> rfl

theorem editorOf_receiveKey (key : Key) (t : TerminalId) :
    (c.receiveKey key).1.editorOf t =
      if c.displayed = t then (c.editorOf t).press key else c.editorOf t := by
  unfold receiveKey
  split
  · rw [Editor.press_altF, ite_self]
    split <;> rfl
  · rw [editorOf_setEditor]
    split
    · rename_i same
      rw [← same]
      rfl
    · rfl

theorem editorOf_display (t u : TerminalId) : (c.display t).editorOf u = c.editorOf u := by
  unfold editorOf
  rw [screen_display, terminal_display]
  split <;> rfl

/-! ## Requests -/

/-- What can be asked of a console. -/
inductive Request
  | write (t : TerminalId) (bytes : List UInt8)
  | key (key : Key)
  | takeLine (t : TerminalId) (room : Nat)
  | display (t : TerminalId)
  deriving DecidableEq, Repr

def answer (c : Console) : Request → Console
  | .write t bytes => c.write t bytes
  | .key key => (c.receiveKey key).1
  | .takeLine t room => ((c.takeLine? t room).map Prod.fst).getD c
  | .display t => c.display t

def answerAll (c : Console) (requests : List Request) : Console := requests.foldl answer c

namespace Request

/-- The terminal that is displayed after a request. -/
def shows (displayed : TerminalId) : Request → TerminalId
  | display t => t
  | write .. | key _ | takeLine .. => displayed

/-- What a terminal notices of a request. Keys reach the displayed terminal, those that select a
terminal excepted. -/
def input? (displayed t : TerminalId) : Request → Option Input
  | write u bytes => if u = t then some (.print bytes) else none
  | key (.altF _) => none
  | key k => if displayed = t then some (.press k) else none
  | takeLine u _ => if u = t then some .take else none
  | display _ => none

/-- Everything that a terminal notices of some requests, from a time on at which `displayed` is
displayed. -/
def inputs (t : TerminalId) : (displayed : TerminalId) → List Request → List Input
  | _, [] => []
  | displayed, r :: rest =>
    (r.input? displayed t).toList ++ inputs t (r.shows displayed) rest

end Request

theorem displayed_answer (r : Request) : (c.answer r).displayed = r.shows c.displayed := by
  cases r with
  | write t bytes => exact c.displayed_write t bytes
  | key k => exact c.displayed_receiveKey k
  | takeLine t room =>
    simp only [answer, takeLine?, InputLine.take?]
    split <;> rfl
  | display t => exact c.displayed_display t

/-- One request does to a terminal what the terminal notices of it. -/
theorem editorOf_answer (r : Request) (t : TerminalId) :
    (c.answer r).editorOf t = (c.editorOf t).receiveAll (r.input? c.displayed t).toList := by
  cases r with
  | write u bytes =>
    simp only [answer, editorOf_write, Request.input?]
    split <;> rfl
  | key k =>
    simp only [answer, editorOf_receiveKey]
    cases k with
    | altF number => rw [Editor.press_altF, ite_self]; rfl
    | char _ | enter | backspace | ctrl _ | unknown =>
      simp only [Request.input?]
      split <;> rfl
  | takeLine u room =>
    have taken : (c.answer (.takeLine u room)).editorOf t =
        if u = t then (c.editorOf t).take else c.editorOf t := by
      simp only [answer, takeLine?, InputLine.take?]
      by_cases committed : (c.terminal u).line.committed = true
      · simp only [committed, ↓reduceIte, Option.map_some, Option.getD_some, editorOf_setLine]
        split
        · rename_i same
          subst same
          exact (if_pos committed).symm
        · rfl
      · simp only [committed, Bool.false_eq_true, ↓reduceIte, Option.map_none, Option.getD_none]
        split
        · rename_i same
          subst same
          exact (if_neg committed).symm
        · rfl
    rw [taken, Request.input?]
    split <;> rfl
  | display u => exact c.editorOf_display u t

/-- Some requests do to a terminal what the terminal notices of them. -/
theorem editorOf_answerAll (requests : List Request) (t : TerminalId) :
    (c.answerAll requests).editorOf t =
      (c.editorOf t).receiveAll (Request.inputs t c.displayed requests) := by
  induction requests generalizing c with
  | nil => rfl
  | cons r rest ih =>
    have first := c.editorOf_answer r t
    calc (c.answerAll (r :: rest)).editorOf t
        = ((c.answer r).answerAll rest).editorOf t := rfl
      _ = ((c.answer r).editorOf t).receiveAll
            (Request.inputs t (c.answer r).displayed rest) := ih (c.answer r)
      _ = _ := by rw [first, displayed_answer, Request.inputs, Editor.receiveAll_append]

theorem editorOf_new (pages : ScreenPages) (records : PerTerminal Terminal) (t : TerminalId) :
    (new pages records).editorOf t = .blank := by
  simp only [editorOf, screen, terminal, new, PerTerminal.get_map]
  split <;> rfl

/-! ## Interleavings -/

/-- Printing changes the line and the screen of one terminal, in the same way whether it is
displayed or hidden; a key those of the displayed terminal, unless it selects a terminal; and
displaying another terminal those of none. Two consoles whose terminals notice the same, however
that was interleaved and whichever of them was displayed, therefore end with the same lines, screens
and cursors. -/
theorem screens_independent :
    (∀ (c : Console) t bytes,
      (c.write t bytes).editorOf t =
          ⟨(c.terminal t).line, (c.screen t).print (Bytes.untilNul bytes)⟩ ∧
        (∀ u, u ≠ t → (c.write t bytes).editorOf u = c.editorOf u) ∧
        (c.write t bytes).displayed = c.displayed) ∧
    (∀ (c : Console) key,
      (c.receiveKey key).1.editorOf c.displayed = (c.editorOf c.displayed).press key ∧
        (∀ u, u ≠ c.displayed → (c.receiveKey key).1.editorOf u = c.editorOf u) ∧
        (c.receiveKey key).1.displayed = c.displayed) ∧
    (∀ (c : Console) number, (c.receiveKey (.altF number)).1 = c) ∧
    (∀ (c : Console) t u, (c.display t).editorOf u = c.editorOf u) ∧
    ∀ pages pages' records records' requests requests',
      (∀ t, Request.inputs t .first requests = Request.inputs t .first requests') →
      ∀ t, ((new pages records).answerAll requests).editorOf t =
        ((new pages' records').answerAll requests').editorOf t := by
  refine ⟨fun c t bytes => ⟨?_, fun u other => ?_, c.displayed_write t bytes⟩,
    fun c key => ⟨?_, fun u other => ?_, c.displayed_receiveKey key⟩, fun c number => ?_,
    fun c t u => c.editorOf_display t u, ?_⟩
  · rw [editorOf_write, if_pos rfl]
    rfl
  · rw [editorOf_write, if_neg (Ne.symm other)]
  · rw [editorOf_receiveKey, if_pos rfl]
  · rw [editorOf_receiveKey, if_neg (Ne.symm other)]
  · unfold receiveKey
    dsimp only
    split <;> rfl
  · intro pages pages' records records' requests requests' same t
    calc ((new pages records).answerAll requests).editorOf t
        = Editor.blank.receiveAll (Request.inputs t .first requests) := by
          rw [editorOf_answerAll, editorOf_new]
          rfl
      _ = Editor.blank.receiveAll (Request.inputs t .first requests') := by rw [same t]
      _ = ((new pages' records').answerAll requests').editorOf t := by
          rw [editorOf_answerAll, editorOf_new]
          rfl

/-- A key for the first terminal and a text for the second: the text may come while its terminal is
hidden, or after it was displayed. -/
theorem screens_independent_two :
    (∀ t, Request.inputs t .first [.key (.char 'a'), .write 1 (ascii "b")] =
      Request.inputs t .first
        [.display 1, .write 1 (ascii "b"), .display 0, .key (.char 'a'), .key (.altF 2)]) ∧
    ((new default (.fill .blank)).answerAll [.key (.char 'a'), .write 1 (ascii "b")]).editorOf 1 =
      ((new default (.fill .blank)).answerAll
        [.display 1, .write 1 (ascii "b"), .display 0, .key (.char 'a'), .key (.altF 2)]).editorOf 1 :=
  ⟨by decide, screens_independent.2.2.2.2 _ _ _ _ _ _ (by decide) 1⟩

end Console

end TerminalKernel
