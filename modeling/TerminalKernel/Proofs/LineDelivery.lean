import TerminalKernel.Proofs.Handovers
import TerminalKernel.Proofs.Stores

/-!
# Delivering a line

What a try to read input comes to for the process that runs. Without a committed line the computer
stays as it is and the flow waits; with one, the start of the line is stored in the process's own
slot and the program goes on with the number of its bytes.
-/

namespace TerminalKernel

theorem Memory.write_nil (m : Memory) (address : Nat) : m.write address [] = m := by
  refine congrArg Memory.mk (funext fun a => if_neg ?_)
  exact fun ⟨low, high⟩ => Nat.not_lt.mpr low high

namespace Kernel

variable {k : Kernel} {pid : ProcessId} {t : TerminalId} {address : Nat}

/-! ## Memory of a slot -/

theorem physicalByte_slot (k : Kernel) (high : programSlotBase ≤ address) :
    k.physicalByte address = k.memory.byteAt address := by
  have pages := k.console.pages.page_le .first
  have display := k.console.pages.le_page .first
  have few := surfaceSize_le_pageSize
  unfold physicalByte
  rw [if_neg (by omega)]
  cases found : pageHolder? k.console.pages address with
  | none => rfl
  | some u =>
    have inside := mem_of_pageHolder? found
    have below := k.console.pages.page_le u
    omega

theorem storeUser_nil (k : Kernel) (address : Nat) : k.storeUser address [] = k := by
  simp [storeUser, storeBlock, storeBytes]

/-- Bytes that a program may store in its window all come to lie in its slot. -/
theorem storeUser_slot (runs : k.Runs t pid) {bytes : List UInt8} (low : programWindow ≤ address)
    (high : address + bytes.length ≤ programWindowEnd) :
    k.storeUser address bytes = { k with
      memory := k.memory.write (programSlot pid + (address - programWindow)) bytes } := by
  rw [storeUser_program high]
  cases bytes with
  | nil =>
    rw [Memory.write_nil]
    rfl
  | cons b rest =>
    obtain ⟨offset, rfl⟩ := Nat.exists_eq_add_of_le low
    have inside : offset < programSlotSize := by
      simp only [List.length_cons, programWindow, programWindowEnd, programSlotSize] at *
      omega
    have found : k.userAddress? (programWindow + offset) = some (programSlot pid + offset) := by
      rw [userAddress?, AddressSpace.resolve_programWindow runs.lower runs.upper inside]
      rfl
    rw [storeBlock, found, Nat.add_sub_cancel_left]
    rfl

theorem Settled.current_of_runs (settled : k.Settled) (runs : k.Runs t pid) :
    ∃ p, k.current = .ok (pid, p) ∧ p.terminal = t := by
  obtain ⟨p, live, here⟩ := runs.live
  have current : k.currentPid? = some pid := by
    rw [currentPid?_eq_owner settled.sound settled.onStack, runs.scheduled, runs.owner]
  exact ⟨p, current_of_currentPid? current live, here⟩

end Kernel

namespace Computer

variable {c : Computer} {pid : ProcessId} {t : TerminalId} {r : Registers} {address room : Nat}

/-- From one computer to the other the start of a line was delivered to process `pid` of terminal
`t`, which called with the registers `r`. -/
structure Delivers (c : Computer) (t : TerminalId) (pid : ProcessId) (r : Registers)
    (address room : Nat) (c' : Computer) : Prop where
  /-- The call returns how many bytes were delivered. -/
  count : c'.running =
    .user { r with rax := UInt64.ofNat (min room (c.kernel.line t).text.length) }
  bytes : ∀ i, i < min room (c.kernel.line t).text.length →
    (c.kernel.line t).text[i]? =
      some (c'.kernel.physicalByte (programSlot pid + (address - programWindow) + i))
  /-- All other memory is as it was. -/
  others : ∀ a, a < programSlot pid + (address - programWindow) ∨
    programSlot pid + (address - programWindow) + min room (c.kernel.line t).text.length ≤ a →
    c'.kernel.physicalByte a = c.kernel.physicalByte a
  /-- The line is given away. -/
  line : c'.kernel.line t = .empty

theorem tryRead_of_editing (settled : c.kernel.Settled) (runs : c.kernel.Runs t pid)
    (editing : (c.kernel.line t).committed = false) :
    c.kernel.read 0 (some room) = (c.kernel, .fail .wouldBlock) ∧
      c.tryRead r 0 address room = { c with running := .reading r 0 address room } := by
  obtain ⟨p, running, rfl⟩ := settled.current_of_runs runs
  have refused : c.kernel.read 0 (some room) = (c.kernel, .fail .wouldBlock) := by
    rw [Kernel.read_input settled.tabled running, Kernel.readLine_of_editing editing]
  refine ⟨refused, ?_⟩
  simp only [tryRead, refused, Delivery.fail, Kernel.storeUser_nil, withKernel, ↓reduceIte]

theorem delivers_tryRead (settled : c.kernel.Settled) (runs : c.kernel.Runs t pid)
    (ready : (c.kernel.line t).committed = true) (low : programWindow ≤ address)
    (high : address + room ≤ programWindowEnd) :
    Delivers c t pid r address room (c.tryRead r 0 address room) := by
  obtain ⟨p, running, rfl⟩ := settled.current_of_runs runs
  have length : ((c.kernel.line p.terminal).text.take room).length =
      min room (c.kernel.line p.terminal).text.length := List.length_take
  have runs' : Kernel.Runs { c.kernel with console := c.kernel.console.clearLine p.terminal }
      p.terminal pid :=
    ⟨runs.scheduled, runs.owner, runs.live, runs.kernelStack, runs.lower, runs.upper⟩
  have inside : address + ((c.kernel.line p.terminal).text.take room).length ≤ programWindowEnd := by
    omega
  have stored := Kernel.storeUser_slot runs' low inside
  have done : c.tryRead r 0 address room = (c.withKernel { c.kernel with
      console := c.kernel.console.clearLine p.terminal
      memory := c.kernel.memory.write (programSlot pid + (address - programWindow))
        ((c.kernel.line p.terminal).text.take room) }).answer r
      (UInt64.ofNat (min room (c.kernel.line p.terminal).text.length)) := by
    rw [tryRead, Kernel.read_input settled.tabled running, Kernel.readLine_of_committed ready]
    simp only [Delivery.done, Delivery.count, reduceCtorEq, ↓reduceIte, answerCount, length]
    rw [stored]
  rw [done]
  refine ⟨rfl, fun i inside => ?_, fun a outside => ?_, ?_⟩
  · have above := le_programSlot pid
    have byte := c.kernel.memory.byteAt_write (programSlot pid + (address - programWindow))
      ((c.kernel.line p.terminal).text.take room) (programSlot pid + (address - programWindow) + i)
    rw [if_pos (by omega), Nat.add_sub_cancel_left] at byte
    have within : i < (c.kernel.line p.terminal).text.length := by omega
    have fits : i < room := by omega
    rw [Kernel.physicalByte_slot _ (by omega)]
    refine Eq.trans ?_ (congrArg some byte.symm)
    rw [List.getD_eq_getElem?_getD, List.getElem?_take_of_lt fits, List.getElem?_eq_getElem within,
      Option.getD_some]
  · rw [← length] at outside
    have page : ∀ u, ((c.kernel.console.clearLine p.terminal).terminal u).page =
        (c.kernel.console.terminal u).page := by
      intro u
      rw [Console.clearLine, Console.terminal_setTerminal]
      split
      · rename_i same
        rw [same]
      · rfl
    have memory := c.kernel.memory.byteAt_write_of_outside outside
    simp only [answer, enterUser, withKernel, Kernel.physicalByte, memory, page]
    rfl
  · exact congrArg Terminal.line (c.kernel.console.terminal_setTerminal_self p.terminal _)

end Computer

end TerminalKernel
