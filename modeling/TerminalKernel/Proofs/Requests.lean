import TerminalKernel.Proofs.Failures
import TerminalKernel.Proofs.LineDelivery

/-!
# What system calls ask for

A call whose memory is accepted asks the kernel for one action (`Kernel.request?`). What becomes of
the action is told by its result, by the bytes that are copied to the caller's buffer, and by the
transfer that ends or starts a program. `Computer.dispatches` goes through the calls once and says
how each of them ends; all that is known of calls is read off its cases.
-/

namespace TerminalKernel

/-! ## Memory that a call names -/

namespace Syscall

/-- The memory that a call names: its buffer, or the first byte of its text. -/
def names? (r : Registers) : Syscall → Option (Nat × Nat)
  | .execute | .openFile => some (r.rdi.toNat, 1)
  | .read | .write => some (r.rsi.toNat, r.rdx.toNat)
  | .getArgs => some (r.rdi.toNat, r.rsi.toNat)
  | .mapVideo => some (r.rdi.toNat, 8)
  | .halt | .closeFile | .setHandler | .signalReturn => none

/-- The buffer that a call fills. -/
def fills? (r : Registers) : Syscall → Option (Nat × Nat)
  | .read => some (r.rsi.toNat, r.rdx.toNat)
  | .getArgs => some (r.rdi.toNat, r.rsi.toNat)
  | .mapVideo => some (r.rdi.toNat, 8)
  | .halt | .execute | .write | .openFile | .closeFile | .setHandler | .signalReturn => none

/-- Where a call stores what is copied to its caller. -/
def target (r : Registers) (s : Syscall) : Nat := ((s.fills? r).map Prod.fst).getD 0

/-- The greatest number that a call can return to its caller. -/
def most (r : Registers) : Syscall → Nat
  | .openFile => maxOpenFiles - 1
  | .read | .write => r.rdx.toNat
  | .halt | .execute | .closeFile | .getArgs | .mapVideo | .setHandler | .signalReturn => 0

end Syscall

namespace UserMemory.Buffer

def room? : Buffer → Option Nat
  | .null => none
  | .block _ length => some length

end UserMemory.Buffer

/-! ## Actions behind calls -/

/-- The action ends a program or starts one, so that its caller does not go on at once. -/
def Action.handsOver : Action → Bool
  | .halt _ | .execute _ => true
  | .start | .openFile _ | .closeFile _ | .read .. | .write .. | .getArgs _ | .mapVideo _
  | .writeScreen .. | .store .. | .tick | .switchTerminal _ | .key _ | .clockTick | .emit _ => false

namespace Kernel

/-- Writing a buffer, which may lie on a screen. -/
def writing (k : Kernel) (fd : Nat) : UserMemory.Buffer → Action
  | .null => .write fd none
  | .block address length =>
    if address < programWindowEnd then .write fd (some (k.userBytes address length))
    else .writeScreen fd address length

/-- The action that a call asks for. There is none if the memory that it names is not accepted, and
none for signals. -/
def request? (k : Kernel) (r : Registers) : Syscall → Option Action
  | .halt => some (.halt r.rdi.toUInt8)
  | .execute => (k.userText? r.rdi.toNat Computer.commandLimit).map .execute
  | .read => (k.userBuffer? r.rsi.toNat r.rdx.toNat).map fun b => .read r.rdi.toNat b.room?
  | .write => (k.userBuffer? r.rsi.toNat r.rdx.toNat).map (k.writing r.rdi.toNat)
  | .openFile => (k.userText? r.rdi.toNat Computer.nameLimit).map .openFile
  | .closeFile => some (.closeFile r.rdi.toNat)
  | .getArgs => (k.userBuffer? r.rdi.toNat r.rsi.toNat).map fun b => .getArgs b.room?
  | .mapVideo => some (.mapVideo r.rdi.toNat)
  | .setHandler | .signalReturn => none

/-- The number that an action yields its caller, or why it fails. -/
def result (k : Kernel) : Action → Except SyscallError Nat
  | .openFile name => (k.openFile name).2
  | .closeFile fd => (k.closeFile fd).2
  | .read fd room => (k.read fd room).2.count
  | .write fd buffer => (k.write fd buffer).2
  | .writeScreen fd address length => (k.writeScreen fd address length).2
  | .getArgs room => (k.getArgs room).map fun _ => 0
  | .mapVideo address => (k.mapVideo address).2.map fun _ => 0
  | .start | .execute _ | .halt _ | .store .. | .tick | .switchTerminal _ | .key _ | .clockTick
  | .emit _ => .ok 0

/-- The bytes that are copied to the caller's buffer. -/
def delivered (k : Kernel) : Action → List UInt8
  | .read fd room => (k.read fd room).2.bytes
  | .getArgs room =>
    match k.getArgs room with
    | .ok bytes => bytes
    | .error _ => []
  | .mapVideo address =>
    match (k.mapVideo address).2 with
    | .ok window => Bytes.ofNat 8 window
    | .error _ => []
  | .start | .execute _ | .halt _ | .openFile _ | .closeFile _ | .write .. | .writeScreen ..
  | .store .. | .tick | .switchTerminal _ | .key _ | .clockTick | .emit _ => []

/-- The kernel once an action is done and its bytes are copied. -/
def served (k : Kernel) (r : Registers) (s : Syscall) (a : Action) : Kernel :=
  (k.act a).1.storeUser (s.target r) (k.delivered a)

/-- A read finds no line yet, and waits for one. -/
def Blocks (k : Kernel) (a : Action) : Prop :=
  ∃ fd room, a = .read fd (some room) ∧ (k.read fd (some room)).2.failure = some .wouldBlock

/-- A call is refused: its number, the memory that it names, or its operation. -/
inductive Refuses (k : Kernel) (r : Registers) : Prop
  | number (unknown : Syscall.ofNumber? r.rax.toNat = none)
  | memory {s : Syscall} {start length : Nat} (asked : Syscall.ofNumber? r.rax.toNat = some s)
      (names : s.names? r = some (start, length)) (outside : k.acceptsRange start length = false)
  | signal {s : Syscall} (asked : Syscall.ofNumber? r.rax.toNat = some s)
      (signal : s = .setHandler ∨ s = .signalReturn)
  | operation {s : Syscall} {a : Action} {cause : SyscallError}
      (asked : Syscall.ofNumber? r.rax.toNat = some s) (request : k.request? r s = some a)
      (fails : k.failure? a = some cause) (final : ¬ k.Blocks a)

variable {k k' : Kernel} {r : Registers} {s : Syscall} {a : Action} {address length : Nat}
  {cause : SyscallError}

/-! ### Accepted memory -/

theorem userText?_of_outside (outside : k.acceptsRange address 1 = false) (limit : Nat) :
    k.userText? address limit = none :=
  UserMemory.text?_eq_none _ limit outside

theorem outside_of_userText? {limit : Nat} (none : k.userText? address limit = .none) :
    k.acceptsRange address 1 = false := by
  unfold userText? UserMemory.text? at none
  split at none
  · cases none
  · rename_i outside
    exact Bool.not_eq_true _ ▸ outside

/-- A buffer is the null pointer, or accepted memory, or refused. -/
theorem userBuffer?_cases (k : Kernel) (address length : Nat) :
    (address = 0 ∧ k.userBuffer? address length = some .null) ∨
    (k.acceptsRange address length = true ∧
      k.userBuffer? address length = some (.block address length)) ∨
    k.acceptsRange address length = false ∧ k.userBuffer? address length = none := by
  unfold userBuffer? UserMemory.buffer? acceptsRange
  split
  · rename_i null
    exact .inl ⟨null, rfl⟩
  · split
    · rename_i accepted
      exact .inr (.inl ⟨accepted, rfl⟩)
    · rename_i outside
      exact .inr (.inr ⟨Bool.not_eq_true _ ▸ outside, rfl⟩)

theorem read_none (k : Kernel) (fd : Nat) : ∃ cause, k.read fd none = (k, .fail cause) := by
  unfold read
  split
  · exact ⟨_, rfl⟩
  · exact ⟨_, rfl⟩
  · rename_i room _ _ _ _ same
    cases same

theorem write_none (k : Kernel) (fd : Nat) : ∃ cause, k.write fd none = (k, .error cause) := by
  unfold write
  split
  · exact ⟨_, rfl⟩
  · exact ⟨_, rfl⟩
  · rename_i bytes _ _ _ _ same
    cases same

/-! ### Failing actions -/

theorem causeOf_map {α β : Type} (f : α → β) (outcome : Except SyscallError α) :
    causeOf (outcome.map f) = causeOf outcome := by
  cases outcome <;> rfl

theorem causeOf_count (d : Delivery SyscallError) : causeOf d.count = d.failure := by
  unfold Delivery.count
  cases d.failure <;> rfl

/-- An action that returns to its caller fails with its result. -/
theorem failure?_eq_causeOf (returns : a.handsOver = false) :
    k.failure? a = causeOf (k.result a) := by
  cases a with
  | halt _ | execute _ => cases returns
  | read fd room => exact (causeOf_count _).symm
  | getArgs room => exact (causeOf_map _ _).symm
  | mapVideo address => exact (causeOf_map _ _).symm
  | start | openFile _ | closeFile _ | write _ _ | writeScreen _ _ _ | store _ _ | tick
  | switchTerminal _ | key _ | clockTick | emit _ => rfl

theorem eq_ok_of_ofCall {result : Kernel × Except SyscallError Transfer} {transfer : Transfer}
    (ends : ofCall result = (k', transfer)) (succeeds : causeOf result.2 = none) :
    result = (k', .ok transfer) := by
  obtain ⟨k, _ | transfer'⟩ := result
  · cases succeeds
  · cases ends
    rfl

/-! ### Numbers -/

/-- A buffer is written at once, or while it is drawn on the screen that it may lie on. -/
theorem writing_cases (k : Kernel) (fd : Nat) (b : UserMemory.Buffer) :
    (∃ bytes, k.writing fd b = .write fd bytes) ∨
      ∃ address length, k.writing fd b = .writeScreen fd address length := by
  cases b with
  | null => exact .inl ⟨_, rfl⟩
  | block address length =>
    unfold writing
    dsimp only
    split
    · exact .inl ⟨_, rfl⟩
    · exact .inr ⟨_, _, rfl⟩

theorem isCall_of_request? (request : k.request? r s = some a) : a.isCall = true := by
  cases s with
  | halt | closeFile | mapVideo =>
    cases request
    rfl
  | execute | openFile | read | getArgs =>
    obtain ⟨_, _, rfl⟩ := Option.map_eq_some_iff.mp request
    rfl
  | write =>
    obtain ⟨b, _, rfl⟩ := Option.map_eq_some_iff.mp request
    rcases k.writing_cases r.rdi.toNat b with ⟨_, same⟩ | ⟨_, _, same⟩
    · rw [same]
      rfl
    · rw [same]
      rfl
  | setHandler | signalReturn => cases request

theorem loads_of_handsOver (request : k.request? r s = some a) (hands : a.handsOver = true) :
    s = .halt ∨ s = .execute := by
  cases s with
  | halt => exact .inl rfl
  | execute => exact .inr rfl
  | write =>
    obtain ⟨b, _, rfl⟩ := Option.map_eq_some_iff.mp request
    rcases k.writing_cases r.rdi.toNat b with ⟨_, same⟩ | ⟨_, _, same⟩
    · rw [same] at hands
      cases hands
    · rw [same] at hands
      cases hands
  | read | openFile | getArgs =>
    obtain ⟨_, _, rfl⟩ := Option.map_eq_some_iff.mp request
    cases hands
  | closeFile | mapVideo =>
    cases request
    cases hands
  | setHandler | signalReturn => cases request

theorem length_userBytes (k : Kernel) (address length : Nat) :
    (k.userBytes address length).length = length := by
  rw [userBytes, List.length_map, List.length_range]

theorem write_le {fd n : Nat} {bytes : List UInt8} (written : (k.write fd (some bytes)).2 = .ok n) :
    n ≤ bytes.length := by
  unfold write at written
  split at written
  · cases written
  · cases written
  · rename_i same
    cases same
    split at written
    · cases written
      exact Bytes.length_untilNul_le bytes
    · unfold writeClock at written
      split at written
      · cases written
      · cases written
        exact Nat.le_refl _
    all_goals cases written

theorem writeScreen_le {fd n : Nat} (written : (k.writeScreen fd address length).2 = .ok n) :
    n ≤ length := by
  have bytes := k.length_userBytes address length
  unfold writeScreen at written
  dsimp only at written
  split at written
  · split at written
    · cases written
      exact (Bytes.length_untilNul_le _).trans_eq bytes
    · exact (write_le written).trans_eq bytes
  · exact (write_le written).trans_eq bytes

theorem result_read_le {fd room n : Nat} (yields : k.result (.read fd (some room)) = .ok n) :
    n ≤ room := by
  have few := k.length_read_le fd room
  unfold result Delivery.count at yields
  dsimp only at yields
  split at yields
  · cases yields
    exact few
  · cases yields

theorem openFile_le {name : List UInt8} {n : Nat} (opens : (k.openFile name).2 = .ok n) :
    n ≤ maxOpenFiles - 1 := by
  rcases k.openFile_cases name with ⟨_, failed⟩ | ⟨_, _, _, fd, _, _, free, opened⟩
  · rw [failed] at opens
    cases opens
  · rw [opened] at opens
    cases opens
    exact Nat.le_sub_one_of_lt (lt_of_freeDescriptor? free)

theorem closeFile_eq {fd n : Nat} (closes : (k.closeFile fd).2 = .ok n) : n = 0 := by
  rcases k.closeFile_cases fd with ⟨_, failed⟩ | ⟨_, _, _, _, _, _, _, closed⟩
  · rw [failed] at closes
    cases closes
  · rw [closed] at closes
    cases closes
    rfl

theorem eq_of_map {α : Type} {outcome : Except SyscallError α} {m n : Nat}
    (yields : (outcome.map fun _ => m) = .ok n) : n = m := by
  cases outcome with
  | ok _ =>
    cases yields
    rfl
  | error _ => cases yields

/-- A call that returns to its caller yields a descriptor, no more than the buffer's length, or
zero. -/
theorem result_le_most (request : k.request? r s = some a) (returns : a.handsOver = false) {n : Nat}
    (yields : k.result a = .ok n) : n ≤ s.most r := by
  cases s with
  | halt =>
    cases request
    cases returns
  | execute =>
    obtain ⟨_, _, rfl⟩ := Option.map_eq_some_iff.mp request
    cases returns
  | read =>
    obtain ⟨b, given, rfl⟩ := Option.map_eq_some_iff.mp request
    cases b with
    | null =>
      obtain ⟨cause, refused⟩ := k.read_none r.rdi.toNat
      simp only [result, UserMemory.Buffer.room?, refused, Delivery.fail, Delivery.count] at yields
      cases yields
    | block address length =>
      obtain ⟨-, rfl, -⟩ := UserMemory.accepts_of_buffer? given
      exact result_read_le yields
  | write =>
    obtain ⟨b, given, rfl⟩ := Option.map_eq_some_iff.mp request
    cases b with
    | null =>
      obtain ⟨cause, refused⟩ := k.write_none r.rdi.toNat
      simp only [result, writing, refused] at yields
      cases yields
    | block address length =>
      obtain ⟨-, rfl, -⟩ := UserMemory.accepts_of_buffer? given
      unfold writing at yields
      dsimp only at yields
      split at yields
      · have few := write_le yields
        rwa [length_userBytes] at few
      · exact writeScreen_le yields
  | openFile =>
    obtain ⟨name, _, rfl⟩ := Option.map_eq_some_iff.mp request
    exact openFile_le yields
  | closeFile =>
    cases request
    exact Nat.le_of_eq (closeFile_eq yields)
  | getArgs =>
    obtain ⟨b, _, rfl⟩ := Option.map_eq_some_iff.mp request
    exact Nat.le_of_eq (eq_of_map yields)
  | mapVideo =>
    cases request
    exact Nat.le_of_eq (eq_of_map yields)
  | setHandler | signalReturn => cases request

end Kernel

/-! ## Calls -/

namespace Computer

open Kernel

/-- How a call with the registers `r` ends. -/
inductive Dispatches (c : Computer) (r : Registers) : Computer → Prop
  /-- No call has the number, which is reported. -/
  | unknown (unknown : Syscall.ofNumber? r.rax.toNat = none) :
      Dispatches c r ((c.log (.unknownSyscall r.rax.toNat)).answer r failed)
  /-- The call names memory that is not accepted. -/
  | outside {s : Syscall} {start length : Nat} (asked : Syscall.ofNumber? r.rax.toNat = some s)
      (names : s.names? r = some (start, length))
      (outside : c.kernel.acceptsRange start length = false) : Dispatches c r (c.answer r failed)
  | signal {s : Syscall} (asked : Syscall.ofNumber? r.rax.toNat = some s)
      (signal : s = .setHandler ∨ s = .signalReturn) : Dispatches c r (c.answer r failed)
  /-- A command fails, which is reported. -/
  | rejected {line : List UInt8} {k : Kernel} {cause : SyscallError}
      (asked : Syscall.ofNumber? r.rax.toNat = some .execute)
      (request : c.kernel.request? r .execute = some (.execute line))
      (rejected : c.kernel.execute line = (k, .error cause)) :
      Dispatches c r (((c.withKernel k).log (.executeRejected cause)).answer r failed)
  /-- Any other operation fails. What was copied until then stays in the buffer. -/
  | failed {s : Syscall} {a : Action} {cause : SyscallError}
      (asked : Syscall.ofNumber? r.rax.toNat = some s) (request : c.kernel.request? r s = some a)
      (other : s ≠ .execute) (fails : c.kernel.failure? a = some cause)
      (final : ¬ c.kernel.Blocks a) :
      Dispatches c r ((c.withKernel (c.kernel.served r s a)).answer r failed)
  | answered {s : Syscall} {a : Action} {n : Nat} (asked : Syscall.ofNumber? r.rax.toNat = some s)
      (request : c.kernel.request? r s = some a) (returns : a.handsOver = false)
      (yields : c.kernel.result a = .ok n) :
      Dispatches c r ((c.withKernel (c.kernel.served r s a)).answer r (UInt64.ofNat n))
  /-- The read waits for a line. -/
  | waits (asked : Syscall.ofNumber? r.rax.toNat = some .read)
      (request : c.kernel.request? r .read = some (.read r.rdi.toNat (some r.rdx.toNat)))
      (blocks : c.kernel.Blocks (.read r.rdi.toNat (some r.rdx.toNat))) :
      Dispatches c r
        { c.withKernel (c.kernel.served r .read (.read r.rdi.toNat (some r.rdx.toNat))) with
          running := .reading r r.rdi.toNat r.rsi.toNat r.rdx.toNat }
  /-- A program ends or starts. -/
  | handsOver {s : Syscall} {a : Action} {k : Kernel} {transfer : Transfer}
      (asked : Syscall.ofNumber? r.rax.toNat = some s) (request : c.kernel.request? r s = some a)
      (hands : a.handsOver = true) (succeeds : c.kernel.failure? a = none)
      (acts : c.kernel.act a = (k, transfer)) :
      Dispatches c r ((c.withKernel k).perform c.kernel.stackPointer (.calling r) transfer)

variable {c : Computer} {r : Registers} {s : Syscall}

/-- An operation that returns a number or fails. -/
theorem dispatches_count {a : Action} (asked : Syscall.ofNumber? r.rax.toNat = some s)
    (request : c.kernel.request? r s = some a) (other : s ≠ .execute)
    (returns : a.handsOver = false) (final : ¬ c.kernel.Blocks a) :
    c.Dispatches r ((c.withKernel (c.kernel.served r s a)).answerCount r (c.kernel.result a)) := by
  have fails := failure?_eq_causeOf (k := c.kernel) returns
  cases yields : c.kernel.result a with
  | ok n => exact .answered asked request returns yields
  | error cause =>
    rw [yields] at fails
    exact .failed asked request other fails final

theorem not_blocks_of_ne {k : Kernel} {a : Action} (other : ∀ fd room, a ≠ .read fd (some room)) :
    ¬ k.Blocks a := by
  rintro ⟨fd, room, rfl, _⟩
  exact other fd room rfl

/-- An operation that copies nothing to its caller. -/
theorem dispatches_plain {a : Action} (asked : Syscall.ofNumber? r.rax.toNat = some s)
    (request : c.kernel.request? r s = some a) (other : s ≠ .execute)
    (returns : a.handsOver = false) (final : ∀ fd room, a ≠ .read fd (some room))
    (nothing : c.kernel.delivered a = []) :
    c.Dispatches r ((c.withKernel (c.kernel.act a).1).answerCount r (c.kernel.result a)) := by
  have counted := dispatches_count asked request other returns (not_blocks_of_ne final)
  rw [Kernel.served, nothing, storeUser_nil] at counted
  exact counted

theorem dispatches_callRead (asked : Syscall.ofNumber? r.rax.toNat = some .read) :
    c.Dispatches r (c.callRead r r.rdi.toNat r.rsi.toNat r.rdx.toNat) := by
  unfold callRead
  rcases c.kernel.userBuffer?_cases r.rsi.toNat r.rdx.toNat with
    ⟨_, null⟩ | ⟨_, block⟩ | ⟨outside, none⟩
  · have request : c.kernel.request? r .read = some (.read r.rdi.toNat .none) :=
      congrArg (Option.map _) null
    have nothing : (c.kernel.read r.rdi.toNat .none).2.bytes = [] := by
      obtain ⟨cause, refused⟩ := c.kernel.read_none r.rdi.toNat
      rw [refused]
      rfl
    rw [null]
    exact dispatches_plain asked request (by simp) rfl (by simp) nothing
  · have request : c.kernel.request? r .read = some (.read r.rdi.toNat (some r.rdx.toNat)) :=
      congrArg (Option.map _) block
    rw [block]
    unfold tryRead
    dsimp only
    split
    · rename_i blocks
      exact .waits asked request ⟨_, _, rfl, blocks⟩
    · rename_i final
      refine dispatches_count asked request (by simp) rfl ?_
      rintro ⟨fd, room, same, blocks⟩
      cases same
      exact final blocks
  · rw [none]
    exact .outside asked rfl outside

/-- A buffer is written by the action that stands for it. -/
theorem dispatches_writeUser (asked : Syscall.ofNumber? r.rax.toNat = some .write)
    {b : UserMemory.Buffer} (given : c.kernel.userBuffer? r.rsi.toNat r.rdx.toNat = some b) :
    c.Dispatches r ((c.withKernel (c.kernel.writeUser r.rdi.toNat b).1).answerCount r
      (c.kernel.writeUser r.rdi.toNat b).2) := by
  have request : c.kernel.request? r .write = some (c.kernel.writing r.rdi.toNat b) :=
    congrArg (Option.map _) given
  cases b with
  | null => exact dispatches_plain asked request (by simp) rfl (by simp [writing]) rfl
  | block address length =>
    unfold writing at request
    unfold writeUser
    dsimp only at request ⊢
    split at request
    · rename_i program
      rw [if_pos program]
      exact dispatches_plain asked request (by simp) rfl (by simp) rfl
    · rename_i screen
      rw [if_neg screen]
      exact dispatches_plain asked request (by simp) rfl (by simp) rfl

theorem dispatches_callWrite (asked : Syscall.ofNumber? r.rax.toNat = some .write) :
    c.Dispatches r (c.callWrite r r.rdi.toNat r.rsi.toNat r.rdx.toNat) := by
  unfold callWrite
  rcases c.kernel.userBuffer?_cases r.rsi.toNat r.rdx.toNat with
    ⟨_, null⟩ | ⟨_, block⟩ | ⟨outside, none⟩
  · have written := dispatches_writeUser asked null
    rw [null]
    exact written
  · have written := dispatches_writeUser asked block
    rw [block]
    exact written
  · rw [none]
    exact .outside asked rfl outside

theorem dispatches_callOpen (asked : Syscall.ofNumber? r.rax.toNat = some .openFile) :
    c.Dispatches r (c.callOpen r r.rdi.toNat) := by
  unfold callOpen
  cases given : c.kernel.userText? r.rdi.toNat nameLimit with
  | none => exact .outside asked rfl (outside_of_userText? given)
  | some name =>
    have request : c.kernel.request? r .openFile = some (.openFile name) :=
      congrArg (Option.map _) given
    exact dispatches_plain asked request (by simp) rfl (by simp) rfl

theorem dispatches_callGetArgs (asked : Syscall.ofNumber? r.rax.toNat = some .getArgs) :
    c.Dispatches r (c.callGetArgs r r.rdi.toNat r.rsi.toNat) := by
  unfold callGetArgs
  rcases c.kernel.userBuffer?_cases r.rdi.toNat r.rsi.toNat with
    ⟨_, null⟩ | ⟨_, block⟩ | ⟨outside, none⟩
  · have request : c.kernel.request? r .getArgs = some (.getArgs .none) :=
      congrArg (Option.map _) null
    rw [null]
    exact dispatches_plain asked request (by simp) rfl (by simp) rfl
  · have request : c.kernel.request? r .getArgs = some (.getArgs (some r.rsi.toNat)) :=
      congrArg (Option.map _) block
    have counted := dispatches_count asked request (by simp) rfl (not_blocks_of_ne (by simp))
    rw [block]
    dsimp only
    rw [Kernel.served, delivered, Kernel.result] at counted
    split
    · rename_i failed
      rw [failed] at counted
      dsimp only at counted
      rw [storeUser_nil] at counted
      exact counted
    · rename_i bytes given
      rw [given] at counted
      exact counted
  · rw [none]
    exact .outside asked rfl outside

/-- The window's address is always stored once the window is mapped: the kernel maps it only for an
address of the program window. -/
theorem dispatches_callMapVideo (asked : Syscall.ofNumber? r.rax.toNat = some .mapVideo) :
    c.Dispatches r (c.callMapVideo r r.rdi.toNat) := by
  have counted := dispatches_count (c := c) asked rfl (by simp) rfl (not_blocks_of_ne (by simp))
  rw [Kernel.served, delivered, Kernel.result, act] at counted
  unfold callMapVideo
  by_cases inside : programWindow ≤ r.rdi.toNat ∧ r.rdi.toNat + 8 ≤ programWindowEnd
  · have accepted : UserMemory.accepts false r.rdi.toNat 8 = true :=
      (UserMemory.accepts_iff _ _ _).mpr (.inl inside)
    have some : r.rdi.toNat ≠ 0 := by
      unfold programWindow at inside
      omega
    rw [UserMemory.buffer?, if_neg some, if_pos accepted]
    generalize c.kernel.mapVideo r.rdi.toNat = mapped at counted ⊢
    obtain ⟨k, cause | window⟩ := mapped
    · dsimp only at counted
      rw [storeUser_nil] at counted
      exact counted
    · exact counted
  · have refused : c.kernel.mapVideo r.rdi.toNat = (c.kernel, .error .invalidArgument) :=
      if_neg inside
    rw [refused] at counted ⊢
    dsimp only at counted
    rw [storeUser_nil] at counted
    exact counted

theorem dispatches_callHalt (asked : Syscall.ofNumber? r.rax.toNat = some .halt) :
    c.Dispatches r (c.callHalt r r.rdi.toUInt8) := by
  unfold callHalt
  cases ended : c.kernel.halt r.rdi.toUInt8 with
  | mk k result =>
    have acts : c.kernel.act (.halt r.rdi.toUInt8) = ofCall (k, result) := congrArg ofCall ended
    have fails : c.kernel.failure? (.halt r.rdi.toUInt8) = causeOf result := by
      rw [failure?, ended]
    cases result with
    | ok transfer => exact .handsOver asked rfl rfl fails acts
    | error cause =>
      have failed := Dispatches.failed asked rfl (by simp) fails (not_blocks_of_ne (by simp))
      rw [Kernel.served, delivered, storeUser_nil, acts] at failed
      exact failed

theorem dispatches_callExecute (asked : Syscall.ofNumber? r.rax.toNat = some .execute) :
    c.Dispatches r (c.callExecute r r.rdi.toNat) := by
  unfold callExecute
  cases given : c.kernel.userText? r.rdi.toNat commandLimit with
  | none => exact .outside asked rfl (outside_of_userText? given)
  | some line =>
    have request : c.kernel.request? r .execute = some (.execute line) :=
      congrArg (Option.map _) given
    cases started : c.kernel.execute line with
    | mk k result =>
      have acts : c.kernel.act (.execute line) = ofCall (k, result) := congrArg ofCall started
      have fails : c.kernel.failure? (.execute line) = causeOf result := by
        rw [failure?, started]
      dsimp only
      rw [started]
      cases result with
      | ok transfer => exact .handsOver asked request rfl fails acts
      | error cause => exact .rejected asked request started

/-- Every call ends in one of these ways. -/
theorem dispatches (c : Computer) (r : Registers) : c.Dispatches r (c.dispatch r) := by
  unfold dispatch
  dsimp only
  cases asked : Syscall.ofNumber? r.rax.toNat with
  | none => exact .unknown asked
  | some s =>
    cases s with
    | halt => exact dispatches_callHalt asked
    | execute => exact dispatches_callExecute asked
    | read => exact dispatches_callRead asked
    | write => exact dispatches_callWrite asked
    | openFile => exact dispatches_callOpen asked
    | closeFile => exact dispatches_plain asked rfl (by simp) rfl (by simp) rfl
    | getArgs => exact dispatches_callGetArgs asked
    | mapVideo => exact dispatches_callMapVideo asked
    | setHandler => exact .signal asked (.inl rfl)
    | signalReturn => exact .signal asked (.inr rfl)

/-! ## Memory that is refused -/

/-- A call that names memory outside the mapped windows fails, and nothing else happens. -/
theorem dispatch_of_outside {start length : Nat} (asked : Syscall.ofNumber? r.rax.toNat = some s)
    (names : s.names? r = some (start, length))
    (outside : c.kernel.acceptsRange start length = false) :
    c.dispatch r = c.answer r failed := by
  unfold dispatch
  rw [asked]
  -- A buffer that is not accepted is the null pointer or none at all.
  have buffer : c.kernel.userBuffer? start length = some .null ∨
      c.kernel.userBuffer? start length = none := by
    rcases c.kernel.userBuffer?_cases start length with
      ⟨_, null⟩ | ⟨accepted, _⟩ | ⟨_, none⟩
    · exact .inl null
    · rw [outside] at accepted
      cases accepted
    · exact .inr none
  cases s with
  | halt | closeFile | setHandler | signalReturn => cases names
  | execute | openFile =>
    cases names
    simp only [callExecute, callOpen, userText?_of_outside outside]
  | read =>
    cases names
    dsimp only
    rw [callRead]
    rcases buffer with null | none
    · obtain ⟨cause, refused⟩ := read_none c.kernel r.rdi.toNat
      rw [null]
      dsimp only
      rw [refused]
      rfl
    · rw [none]
  | write =>
    cases names
    dsimp only
    rw [callWrite]
    rcases buffer with null | none
    · obtain ⟨cause, refused⟩ := write_none c.kernel r.rdi.toNat
      rw [null]
      dsimp only
      rw [writeUser, refused]
      rfl
    · rw [none]
  | getArgs =>
    cases names
    dsimp only
    rw [callGetArgs]
    rcases buffer with null | none
    · rw [null]
      rfl
    · rw [none]
  | mapVideo =>
    cases names
    dsimp only
    have refused : c.kernel.mapVideo r.rdi.toNat = (c.kernel, .error .invalidArgument) := by
      refine if_neg fun inside => ?_
      rw [acceptsRange, (UserMemory.accepts_iff _ _ _).mpr (.inl inside)] at outside
      cases outside
    rw [callMapVideo, refused]
    rfl

end Computer

end TerminalKernel
