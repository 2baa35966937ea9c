import TerminalKernel.Proofs.Reachable

/-!
# Keys and their interrupts

The keyboard interrupt stores its key in a queue that it then empties, and stops early when a key
starts a shell. The queue is nevertheless empty whenever the interrupt comes: no other event touches
the keyboard, and a queue that was empty holds no more than the interrupt's own key. So each key is
handled in the interrupt that brought it, and all keys in the order of their bytes.
-/

namespace TerminalKernel

namespace Keyboard

variable {keyboard : Keyboard}

theorem length_of_toList {q : KeyQueue} (empty : q.toList = []) : q.length = 0 := by
  rw [← q.length_toList, empty]
  rfl

theorem read_of_empty (empty : keyboard.queue.toList = []) : keyboard.read = (keyboard, none) := by
  rw [read, keyboard.queue.pop_of_empty (length_of_toList empty)]

theorem receive_of_unknown {byte : UInt8} (unknown : (keyboard.decoder.feed byte).2 = .unknown) :
    keyboard.receive byte = ({ keyboard with decoder := (keyboard.decoder.feed byte).1 }, none) :=
  if_pos unknown

theorem receive_of_empty (empty : keyboard.queue.toList = []) {byte : UInt8}
    (known : (keyboard.decoder.feed byte).2 ≠ .unknown) :
    ∃ keyboard₁ keyboard₂, keyboard.receive byte = (keyboard₁, none) ∧
      keyboard₁.read = (keyboard₂, some (keyboard.decoder.feed byte).2) ∧
      keyboard₂.decoder = (keyboard.decoder.feed byte).1 ∧ keyboard₂.queue.toList = [] := by
  generalize fed : keyboard.decoder.feed byte = result at known ⊢
  obtain ⟨decoder, key⟩ := result
  have room : keyboard.queue.length ≠ 63 := by
    rw [length_of_toList empty]
    decide
  have accepted : (keyboard.queue.push key).2 = true := by rw [keyboard.queue.push_of_room key room]
  have queued := keyboard.queue.toList_push key room
  have length := keyboard.queue.length_push key room
  rw [empty, List.nil_append] at queued
  obtain ⟨oldest, popped, rest⟩ := (keyboard.queue.push key).1.toList_eq_cons_pop (by omega)
  rw [queued, List.cons.injEq] at rest
  refine ⟨⟨decoder, (keyboard.queue.push key).1⟩, ⟨decoder, (keyboard.queue.push key).1.pop.1⟩,
    ?_, ?_, rfl, rest.2.symm⟩
  · rw [receive, fed]
    dsimp only
    rw [if_neg known, accepted]
    rfl
  · rw [read]
    dsimp only
    rw [popped, ← rest.1]

end Keyboard

namespace Computer

variable {c : Computer} {files : FileSystem} {arena : Arena} {storage : Kernel.Storage}

/-! ## Keys that are handled -/

/-- Draining the queue, with the keys that the kernel is given on the way. -/
def drainKeys (k : Kernel) (keyboard : Keyboard) :
    (limit : Nat) → (Kernel × Keyboard × Transfer) × List Key
  | 0 => ((k, keyboard, .stay), [])
  | limit + 1 =>
    match keyboard.read with
    | (keyboard, none) => ((k, keyboard, .stay), [])
    | (keyboard, some key) =>
      match k.handleKey key with
      | (k, .stay) =>
        let (drained, keys) := drainKeys k keyboard limit
        (drained, key :: keys)
      | (k, transfer) => ((k, keyboard, transfer), [key])

theorem fst_drainKeys (k : Kernel) (keyboard : Keyboard) (limit : Nat) :
    (drainKeys k keyboard limit).1 = drain k keyboard limit := by
  induction limit generalizing k keyboard with
  | zero => rfl
  | succ limit ih =>
    rw [drainKeys, drain]
    obtain ⟨keyboard', _ | key⟩ := keyboard.read
    · rfl
    · dsimp only
      obtain ⟨k', transfer⟩ := k.handleKey key
      cases transfer with
      | stay => exact ih k' keyboard'
      | launch _ | resume _ _ | switch _ _ | idle => rfl

/-- The keys that the kernel is given at an event. -/
def handled (c : Computer) : Event → List Key
  | .key byte => (drainKeys (c.beginKey byte).kernel (c.beginKey byte).keyboard queuePlaces).2
  | _ => []

/-- The keys that the kernel is given at some events, the latest event first. -/
def handledAll (c : Computer) : List Event → List Key
  | [] => []
  | e :: earlier => c.handledAll earlier ++ (c.afterAll earlier).handled e

/-- The bytes from the keyboard in some events, the latest event first. -/
def bytesOf : List Event → List UInt8
  | [] => []
  | .key byte :: earlier => bytesOf earlier ++ [byte]
  | _ :: earlier => bytesOf earlier

/-- The key of a byte, if it has one. -/
def keysOf (d : Decoder) (byte : UInt8) : List Key := [(d.feed byte).2].filter (· ≠ .unknown)

/-! ## Events that leave the keyboard alone -/

theorem keyboard_answerCount (c : Computer) (r : Registers) (result : Except SyscallError Nat) :
    (c.answerCount r result).keyboard = c.keyboard := by
  cases result <;> rfl

theorem keyboard_tryRead (c : Computer) (r : Registers) (fd address room : Nat) :
    (c.tryRead r fd address room).keyboard = c.keyboard := by
  unfold tryRead
  dsimp only
  split
  · rfl
  · exact keyboard_answerCount _ r _

theorem keyboard_retry (c : Computer) : c.retry.keyboard = c.keyboard := by
  unfold retry
  split
  · exact c.keyboard_tryRead _ _ _ _
  · rfl

theorem keyboard_wake (c : Computer) (context : SavedContext) (status : UInt8) :
    (c.wake context status).keyboard = c.keyboard := by
  unfold wake
  split
  · rfl
  · rfl
  · rfl

theorem keyboard_perform (c : Computer) (stackPointer : Nat) (flow : Flow) (transfer : Transfer) :
    (c.perform stackPointer flow transfer).keyboard = c.keyboard := by
  cases transfer with
  | stay | launch _ | idle => rfl
  | resume context status => exact c.keyboard_wake context status
  | switch _ target => exact keyboard_wake _ _ 0

theorem keyboard_performResult (c : Computer) (r : Registers) (stackPointer : Nat)
    (result : Except SyscallError Transfer) :
    (c.performResult r stackPointer result).keyboard = c.keyboard := by
  cases result with
  | ok transfer => exact c.keyboard_perform stackPointer (.calling r) transfer
  | error _ => rfl

theorem keyboard_callExecute (c : Computer) (r : Registers) (address : Nat) :
    (c.callExecute r address).keyboard = c.keyboard := by
  unfold callExecute
  split
  · rfl
  · split
    · exact keyboard_performResult _ r _ _
    · rfl

theorem keyboard_callRead (c : Computer) (r : Registers) (fd address length : Nat) :
    (c.callRead r fd address length).keyboard = c.keyboard := by
  unfold callRead
  split
  · rfl
  · exact keyboard_answerCount _ r _
  · exact c.keyboard_tryRead r fd _ _

theorem keyboard_callWrite (c : Computer) (r : Registers) (fd address length : Nat) :
    (c.callWrite r fd address length).keyboard = c.keyboard := by
  unfold callWrite
  split
  · rfl
  · exact keyboard_answerCount _ r _

theorem keyboard_callOpen (c : Computer) (r : Registers) (address : Nat) :
    (c.callOpen r address).keyboard = c.keyboard := by
  unfold callOpen
  split
  · rfl
  · exact keyboard_answerCount _ r _

theorem keyboard_callGetArgs (c : Computer) (r : Registers) (address length : Nat) :
    (c.callGetArgs r address length).keyboard = c.keyboard := by
  unfold callGetArgs
  split
  · rfl
  · exact keyboard_answerCount _ r _
  · split <;> rfl

theorem keyboard_callMapVideo (c : Computer) (r : Registers) (address : Nat) :
    (c.callMapVideo r address).keyboard = c.keyboard := by
  unfold callMapVideo
  split
  · rfl
  · split <;> rfl

theorem keyboard_dispatch (c : Computer) (r : Registers) : (c.dispatch r).keyboard = c.keyboard := by
  unfold dispatch
  dsimp only
  split
  · exact keyboard_performResult _ r _ _
  · exact c.keyboard_callExecute r _
  · exact c.keyboard_callRead r _ _ _
  · exact c.keyboard_callWrite r _ _ _
  · exact c.keyboard_callOpen r _
  · exact keyboard_answerCount _ r _
  · exact c.keyboard_callGetArgs r _ _
  · exact c.keyboard_callMapVideo r _
  · exact c.keyboard_answerCount r _
  · exact c.keyboard_answerCount r _
  · rfl

theorem keyboard_raise (c : Computer) (r : Registers) (f : Fault) :
    (c.raise r f).keyboard = c.keyboard := by
  unfold raise
  dsimp only
  split
  · exact keyboard_perform _ _ _ _
  · rfl

theorem keyboard_onTimer (c : Computer) : c.onTimer.keyboard = c.keyboard :=
  keyboard_perform _ _ _ _

theorem keyboard_onClock (c : Computer) : c.onClock.keyboard = c.keyboard := rfl

theorem keyboard_userEvent (c : Computer) (r : Registers) {e : Event}
    (other : ∀ byte, e ≠ .key byte) : (c.userEvent r e).1.keyboard = c.keyboard := by
  cases e with
  | syscall number arg0 arg1 arg2 => exact c.keyboard_dispatch _
  | interrupt vector =>
    rw [userEvent]
    split
    · exact c.keyboard_dispatch _
    · exact c.keyboard_raise r _
  | fault f => exact c.keyboard_raise r f
  | timer => exact c.keyboard_onTimer
  | key byte => exact absurd rfl (other byte)
  | clock => exact c.keyboard_onClock
  | put address bytes =>
    rw [userEvent]
    split <;> rfl
  | get address count =>
    rw [userEvent]
    split <;> rfl
  | retry => exact c.keyboard_retry
  | deepen depth => rfl

theorem keyboard_step (c : Computer) {e : Event} (other : ∀ byte, e ≠ .key byte) :
    (c.step e).1.keyboard = c.keyboard := by
  cases running : c.running with
  | user r =>
    rw [step_of_user running]
    exact c.keyboard_userEvent r other
  | reading _ _ _ _ | woken _ _ _ _ | calling _ | idle =>
    cases e with
    | timer =>
      rw [step_timer]
      exact c.keyboard_onTimer
    | key byte => exact absurd rfl (other byte)
    | clock =>
      rw [step_clock]
      exact c.keyboard_onClock
    | retry =>
      rw [step_retry]
      exact c.keyboard_retry
    | deepen depth => rw [step_deepen, atDepth, withKernel]
    | syscall _ _ _ _ | interrupt _ | fault _ | put _ _ | get _ _ =>
      unfold step
      rw [running]

/-! ## The keyboard's interrupt -/

/-- The kernel when the keyboard's interrupt is acknowledged. -/
abbrev acknowledged (c : Computer) : Kernel := c.kernel.emit (done keyboardVector)

theorem beginKey_of_receive {byte : UInt8} {keyboard : Keyboard}
    (queued : c.keyboard.receive byte = (keyboard, none)) :
    c.beginKey byte = { c.withKernel c.acknowledged with keyboard } := by
  unfold beginKey receiveByte
  rw [queued]
  rfl

/-- What the interrupt does that brings a byte: the kernel is given the key of that byte and no
other, and the queue is empty again before anything else goes on. -/
structure HandlesKey (c : Computer) (byte : UInt8) : Prop where
  /-- There is room for the key. -/
  accepted : (c.keyboard.receive byte).2 = none
  handled : c.handled (.key byte) = keysOf c.keyboard.decoder byte
  emptied : (c.step (.key byte)).1.keyboard.queue.toList = []
  decoded : (c.step (.key byte)).1.keyboard.decoder = (c.keyboard.decoder.feed byte).1
  /-- Without a key, what was interrupted goes on. -/
  without : (c.keyboard.decoder.feed byte).2 = .unknown → ∃ keyboard, (c.step (.key byte)).1 =
    { c.withKernel c.acknowledged with keyboard }.perform c.kernel.stackPointer
      c.running.interrupted .stay
  /-- The kernel handles the key before the transfer is carried out. -/
  carried : (c.keyboard.decoder.feed byte).2 ≠ .unknown → ∃ keyboard, (c.step (.key byte)).1 =
    { c.withKernel (c.acknowledged.handleKey (c.keyboard.decoder.feed byte).2).1 with
      keyboard }.perform c.kernel.stackPointer c.running.interrupted
      (c.acknowledged.handleKey (c.keyboard.decoder.feed byte).2).2
  /-- Where the key starts a shell, the interrupted flow waits with nothing left to handle. -/
  parked : (c.keyboard.decoder.feed byte).2 ≠ .unknown →
    ∀ l, (c.acknowledged.handleKey (c.keyboard.decoder.feed byte).2).2 = .launch l →
    (c.step (.key byte)).1.suspended.lookup c.kernel.stackPointer = some c.running.interrupted ∧
      (c.step (.key byte)).1.running = .user (.start l.entry l.userStack)

theorem handlesKey_of_unknown (empty : c.keyboard.queue.toList = []) {byte : UInt8}
    (unknown : (c.keyboard.decoder.feed byte).2 = .unknown) : c.HandlesKey byte := by
  have queued := Keyboard.receive_of_unknown unknown
  have begun := beginKey_of_receive queued
  have none : { c.keyboard with decoder := (c.keyboard.decoder.feed byte).1 }.read =
    ({ c.keyboard with decoder := (c.keyboard.decoder.feed byte).1 }, none) :=
    Keyboard.read_of_empty empty
  have drained : drainKeys (c.beginKey byte).kernel (c.beginKey byte).keyboard queuePlaces =
      (((c.beginKey byte).kernel, (c.beginKey byte).keyboard, .stay), []) := by
    rw [begun, drainKeys, none]
  have after : (c.step (.key byte)).1 = { c.withKernel c.acknowledged with
      keyboard := { c.keyboard with decoder := (c.keyboard.decoder.feed byte).1 } }.perform
      c.kernel.stackPointer c.running.interrupted .stay := by
    rw [step_key, onKey_eq, ← fst_drainKeys, drained, begun]
    rfl
  refine {
    accepted := congrArg Prod.snd queued, without := fun _ => ⟨_, after⟩
    carried := fun known => absurd unknown known, parked := fun known => absurd unknown known
    handled := ?_, emptied := ?_, decoded := ?_ }
  · rw [handled, drained, keysOf, unknown]
    rfl
  · rw [after, keyboard_perform]
    exact empty
  · rw [after, keyboard_perform]

theorem handlesKey_of_known (empty : c.keyboard.queue.toList = []) {byte : UInt8}
    (known : (c.keyboard.decoder.feed byte).2 ≠ .unknown) : c.HandlesKey byte := by
  obtain ⟨keyboard₁, keyboard₂, queued, first, decoder, emptied⟩ :=
    Keyboard.receive_of_empty empty known
  have begun := beginKey_of_receive queued
  have last := Keyboard.read_of_empty emptied
  have drained : drainKeys (c.beginKey byte).kernel (c.beginKey byte).keyboard queuePlaces =
      (((c.acknowledged.handleKey (c.keyboard.decoder.feed byte).2).1, keyboard₂,
        (c.acknowledged.handleKey (c.keyboard.decoder.feed byte).2).2),
        [(c.keyboard.decoder.feed byte).2]) := by
    rw [begun, drainKeys, first]
    dsimp only [withKernel]
    obtain ⟨k, transfer⟩ := c.acknowledged.handleKey (c.keyboard.decoder.feed byte).2
    cases transfer with
    | stay =>
      dsimp only
      rw [drainKeys, last]
    | launch _ | resume _ _ | switch _ _ | idle => rfl
  have after : (c.step (.key byte)).1 = { c.withKernel (c.acknowledged.handleKey
      (c.keyboard.decoder.feed byte).2).1 with keyboard := keyboard₂ }.perform
      c.kernel.stackPointer c.running.interrupted
      (c.acknowledged.handleKey (c.keyboard.decoder.feed byte).2).2 := by
    rw [step_key, onKey_eq, ← fst_drainKeys, drained, begun]
    rfl
  refine {
    accepted := congrArg Prod.snd queued, without := fun unknown => absurd unknown known
    carried := fun _ => ⟨_, after⟩, parked := fun _ l launches => ?_
    handled := ?_, emptied := ?_, decoded := ?_ }
  · rw [handled, drained, keysOf, List.filter_cons_of_pos (by simpa using known), List.filter_nil]
  · rw [after, keyboard_perform]
    exact emptied
  · rw [after, keyboard_perform]
    exact decoder
  · rw [after, launches]
    exact ⟨List.lookup_cons_self, rfl⟩

/-- An interrupt that finds the queue empty handles its own key. -/
theorem handlesKey (empty : c.keyboard.queue.toList = []) (byte : UInt8) : c.HandlesKey byte := by
  by_cases unknown : (c.keyboard.decoder.feed byte).2 = .unknown
  · exact handlesKey_of_unknown empty unknown
  · exact handlesKey_of_known empty unknown

/-! ## Histories -/

/-- No key is waiting, and the decoder has seen all bytes. -/
structure Drained (c : Computer) (bytes : List UInt8) : Prop where
  empty : c.keyboard.queue.toList = []
  decoder : c.keyboard.decoder = (Decoder.initial.feedAll bytes).1

theorem keyboard_boot (files : FileSystem) (arena : Arena) (storage : Kernel.Storage) :
    (boot files arena storage).keyboard = .initial := by
  unfold boot
  dsimp only
  split
  · exact keyboard_perform _ _ _ _
  · rfl

theorem feedAll_concat (bytes : List UInt8) (byte : UInt8) :
    Decoder.initial.feedAll (bytes ++ [byte]) =
      (((Decoder.initial.feedAll bytes).1.feed byte).1,
        (Decoder.initial.feedAll bytes).2 ++ [((Decoder.initial.feedAll bytes).1.feed byte).2]) :=
  Decoder.feedAll_append _ _ _

theorem drained_afterAll (drained : c.Drained []) (events : List Event) :
    (c.afterAll events).Drained (bytesOf events) ∧
      c.handledAll events =
        (Decoder.initial.feedAll (bytesOf events)).2.filter (· ≠ .unknown) := by
  induction events with
  | nil => exact ⟨drained, rfl⟩
  | cons e earlier ih =>
    obtain ⟨⟨empty, decoder⟩, keys⟩ := ih
    by_cases other : ∀ byte, e ≠ .key byte
    · have same : bytesOf (e :: earlier) = bytesOf earlier := by
        cases e with
        | key byte => exact absurd rfl (other byte)
        | syscall _ _ _ _ | interrupt _ | fault _ | timer | clock | put _ _ | get _ _ | retry
        | deepen _ => rfl
      have nothing : (c.afterAll earlier).handled e = [] := by
        cases e with
        | key byte => exact absurd rfl (other byte)
        | syscall _ _ _ _ | interrupt _ | fault _ | timer | clock | put _ _ | get _ _ | retry
        | deepen _ => rfl
      have keyboard := (c.afterAll earlier).keyboard_step other
      rw [same, handledAll, nothing, List.append_nil]
      exact ⟨⟨(congrArg (·.queue.toList) keyboard).trans empty,
        (congrArg (·.decoder) keyboard).trans decoder⟩, keys⟩
    · obtain ⟨byte, rfl⟩ : ∃ byte, e = .key byte := by simpa using other
      have handles := handlesKey empty byte
      have fed := feedAll_concat (bytesOf earlier) byte
      rw [bytesOf, fed, handledAll, handles.handled, keys, keysOf, decoder, List.filter_append]
      refine ⟨⟨handles.emptied, ?_⟩, rfl⟩
      rw [fed, ← decoder]
      exact handles.decoded

/-- After boot and whatever happened since, the keyboard's queue is empty and its decoder has seen
every byte. The kernel was given all keys of these bytes in their order, and the next interrupt of
the keyboard handles its own key. -/
theorem no_key_lost (files : FileSystem) (arena : Arena) (storage : Kernel.Storage)
    (events : List Event) :
    ((boot files arena storage).afterAll events).Drained (bytesOf events) ∧
    (boot files arena storage).handledAll events =
      (Decoder.initial.feedAll (bytesOf events)).2.filter (· ≠ .unknown) ∧
    ∀ byte, ((boot files arena storage).afterAll events).HandlesKey byte := by
  have keyboard := keyboard_boot files arena storage
  have initial : (boot files arena storage).Drained [] :=
    ⟨congrArg (·.queue.toList) keyboard, congrArg (·.decoder) keyboard⟩
  obtain ⟨drained, keys⟩ := drained_afterAll initial events
  exact ⟨drained, keys, handlesKey drained.empty⟩

end Computer

end TerminalKernel
