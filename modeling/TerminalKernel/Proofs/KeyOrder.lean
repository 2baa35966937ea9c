import TerminalKernel.Keyboard.Queue

/-!
# Keys leave the queue in their order

Pushes and pops in any order and of any number: the keys that were taken from the queue, followed by
those that are still in it, are the keys that it accepted (`Accounts`). Each index of the ring is the
number of its operations up to now, counted in rounds of 64.

The indices have no way to point outside the ring. A ring in memory has: they are plain numbers
there. Run with every access checked, such a ring never fails and does what the queue does
(`KeyQueue.answerAll?_ring`).
-/

namespace TerminalKernel

/-! ## Calls and what they come to -/

/-- What is asked of a queue. -/
inductive QueueCall
  | push (key : Key)
  | pop
  deriving DecidableEq, Repr

/-- What a call came to. -/
inductive QueueEvent
  | accepted (key : Key)
  | refused (key : Key)
  | taken (key : Key)
  /-- There was no key to take. -/
  | missed
  deriving DecidableEq, Repr

namespace QueueEvent

def accepted? : QueueEvent → Option Key
  | accepted key => some key
  | refused _ | taken _ | missed => none

def taken? : QueueEvent → Option Key
  | taken key => some key
  | accepted _ | refused _ | missed => none

/-- The keys that the queue accepted, the first one first. -/
def acceptedKeys (events : List QueueEvent) : List Key := events.filterMap accepted?

/-- The keys that were taken from the queue, the first one first. -/
def takenKeys (events : List QueueEvent) : List Key := events.filterMap taken?

theorem acceptedKeys_concat (events : List QueueEvent) (event : QueueEvent) :
    acceptedKeys (events ++ [event]) = acceptedKeys events ++ event.accepted?.toList := by
  rw [acceptedKeys, List.filterMap_append]
  cases event <;> rfl

theorem takenKeys_concat (events : List QueueEvent) (event : QueueEvent) :
    takenKeys (events ++ [event]) = takenKeys events ++ event.taken?.toList := by
  rw [takenKeys, List.filterMap_append]
  cases event <;> rfl

/-- What pushing a key came to. -/
def ofPush (key : Key) (stored : Bool) : QueueEvent :=
  if stored then .accepted key else .refused key

/-- What popping came to. -/
def ofPop : Option Key → QueueEvent
  | some key => .taken key
  | none => .missed

end QueueEvent

open QueueEvent

namespace KeyQueue

def answer (q : KeyQueue) : QueueCall → KeyQueue × QueueEvent
  | .push key => ((q.push key).1, .ofPush key (q.push key).2)
  | .pop => (q.pop.1, .ofPop q.pop.2)

/-- Answer calls one after another. The events come in the order of the calls. -/
def answerAll (q : KeyQueue) : List QueueCall → KeyQueue × List QueueEvent
  | [] => (q, [])
  | call :: rest =>
    (((q.answer call).1.answerAll rest).1, (q.answer call).2 :: ((q.answer call).1.answerAll rest).2)

/-! ## Accounts -/

/-- The events account for all that is in the queue, and for where its indices are. -/
structure Accounts (q : KeyQueue) (events : List QueueEvent) : Prop where
  kept : acceptedKeys events = takenKeys events ++ q.toList
  head : q.head.val = (acceptedKeys events).length % queuePlaces
  tail : q.tail.val = (takenKeys events).length % queuePlaces

theorem accounts_empty : empty.Accounts [] := ⟨rfl, rfl, rfl⟩

theorem Accounts.unmoved {q : KeyQueue} {events : List QueueEvent} (accounts : q.Accounts events)
    {event : QueueEvent} (accepts : event.accepted? = none) (takes : event.taken? = none) :
    q.Accounts (events ++ [event]) := by
  have same : acceptedKeys (events ++ [event]) = acceptedKeys events ∧
      takenKeys (events ++ [event]) = takenKeys events := by
    rw [acceptedKeys_concat, takenKeys_concat, accepts, takes]
    exact ⟨List.append_nil _, List.append_nil _⟩
  constructor
  · rw [same.1, same.2, accounts.kept]
  · rw [same.1, accounts.head]
  · rw [same.2, accounts.tail]

/-- A step of an index is one more operation, however often the index went round. -/
theorem index_succ {index : Fin queuePlaces} {count : Nat} (same : index.val = count % queuePlaces) :
    (index + 1).val = (count + 1) % queuePlaces := by
  rw [Fin.val_add, same, Fin.val_one, Nat.mod_add_mod]

namespace Accounts

variable {q : KeyQueue} {events : List QueueEvent}

theorem push (accounts : q.Accounts events) (key : Key) :
    (q.push key).1.Accounts (events ++ [.ofPush key (q.push key).2]) := by
  by_cases full : q.length = 63
  · rw [q.push_of_full key full]
    exact accounts.unmoved rfl rfl
  · have appended := q.toList_push key full
    have accepted : acceptedKeys (events ++ [.ofPush key true]) = acceptedKeys events ++ [key] :=
      acceptedKeys_concat events _
    have taken : takenKeys (events ++ [.ofPush key true]) = takenKeys events :=
      (takenKeys_concat events _).trans (List.append_nil _)
    rw [q.push_of_room key full] at appended ⊢
    constructor
    · rw [accepted, taken, appended, accounts.kept, List.append_assoc]
    · rw [accepted, List.length_append]
      exact index_succ accounts.head
    · rw [taken]
      exact accounts.tail

theorem pop (accounts : q.Accounts events) :
    q.pop.1.Accounts (events ++ [.ofPop q.pop.2]) := by
  by_cases empty : q.length = 0
  · rw [q.pop_of_empty empty]
    exact accounts.unmoved rfl rfl
  · obtain ⟨key, oldest, keys⟩ := q.toList_eq_cons_pop empty
    have moved := q.pop_of_nonempty empty
    have accepted : acceptedKeys (events ++ [.ofPop (some key)]) = acceptedKeys events :=
      (acceptedKeys_concat events _).trans (List.append_nil _)
    have taken : takenKeys (events ++ [.ofPop (some key)]) = takenKeys events ++ [key] :=
      takenKeys_concat events _
    rw [oldest]
    constructor
    · rw [accepted, taken, accounts.kept, keys, List.append_assoc, List.singleton_append]
    · rw [accepted, moved]
      exact accounts.head
    · rw [taken, moved, List.length_append]
      exact index_succ accounts.tail

theorem answer (accounts : q.Accounts events) (call : QueueCall) :
    (q.answer call).1.Accounts (events ++ [(q.answer call).2]) := by
  cases call with
  | push key => exact accounts.push key
  | pop => exact accounts.pop

theorem answerAll (accounts : q.Accounts events) (calls : List QueueCall) :
    (q.answerAll calls).1.Accounts (events ++ (q.answerAll calls).2) := by
  induction calls generalizing q events with
  | nil => simpa [KeyQueue.answerAll] using accounts
  | cons call rest ih =>
    have onward := ih (accounts.answer call)
    rwa [List.append_assoc] at onward

end Accounts

/-! ## What the queue refuses -/

/-- Only a full queue refuses a key, and it stays as it is. -/
theorem push_refused_iff (q : KeyQueue) (key : Key) :
    (q.push key).2 = false ↔ q.toList.length = 63 := by
  rw [length_toList]
  by_cases full : q.length = 63
  · simp [q.push_of_full key full, full]
  · simp [q.push_of_room key full, full]

theorem push_of_refused {q : KeyQueue} {key : Key} (refused : (q.push key).2 = false) :
    (q.push key).1 = q := by
  have full := (q.push_refused_iff key).mp refused
  rw [length_toList] at full
  rw [q.push_of_full key full]

theorem pop_eq_head? (q : KeyQueue) : q.pop.2 = q.toList.head? := by
  by_cases empty : q.length = 0
  · have none : q.toList = [] := List.length_eq_zero_iff.mp (q.length_toList.trans empty)
    rw [q.pop_of_empty empty, none]
    rfl
  · obtain ⟨key, oldest, keys⟩ := q.toList_eq_cons_pop empty
    rw [oldest, keys]
    rfl

theorem pop_of_missed {q : KeyQueue} (missed : q.pop.2 = none) : q.pop.1 = q := by
  rw [pop_eq_head?, List.head?_eq_none_iff, ← List.length_eq_zero_iff, length_toList] at missed
  rw [q.pop_of_empty missed]

end KeyQueue

/-! ## A ring with checked accesses -/

/-- A ring whose indices are plain numbers. -/
structure Ring where
  places : Vector Key queuePlaces
  head : Nat
  tail : Nat
  deriving DecidableEq, Repr

namespace Ring

def new : Ring := ⟨Vector.replicate queuePlaces .unknown, 0, 0⟩

/-- The index of the next place, which may be the first one again. -/
def next (index : Nat) : Nat := (index + 1) % queuePlaces

/-- Store a key. There is no place for it outside the ring. -/
def store? (r : Ring) (index : Nat) (key : Key) : Option Ring :=
  if inside : index < queuePlaces then some { r with places := r.places.set index key inside }
  else none

def push? (r : Ring) (key : Key) : Option (Ring × Bool) :=
  if next r.head = r.tail then some (r, false)
  else do
    let r ← r.store? r.head key
    return ({ r with head := next r.head }, true)

def pop? (r : Ring) : Option (Ring × Option Key) :=
  if r.tail = r.head then some (r, none)
  else do
    let key ← r.places[r.tail]?
    return ({ r with tail := next r.tail }, some key)

def answer? (r : Ring) : QueueCall → Option (Ring × QueueEvent)
  | .push key => do
    let (r, stored) ← r.push? key
    return (r, .ofPush key stored)
  | .pop => do
    let (r, key) ← r.pop?
    return (r, .ofPop key)

/-- Answer calls one after another, as long as no access fails. -/
def answerAll? (r : Ring) : List QueueCall → Option (Ring × List QueueEvent)
  | [] => some (r, [])
  | call :: rest => do
    let (r, event) ← r.answer? call
    let (r, events) ← r.answerAll? rest
    return (r, event :: events)

end Ring

namespace KeyQueue

/-- The queue as it lies in memory. -/
def ring (q : KeyQueue) : Ring := ⟨q.places, q.head, q.tail⟩

variable (q : KeyQueue)

theorem next_eq (index : Fin queuePlaces) : Ring.next index = (index + 1).val := by
  rw [Ring.next, Fin.val_add, Fin.val_one]

theorem push?_ring (key : Key) : q.ring.push? key = some ((q.push key).1.ring, (q.push key).2) := by
  unfold Ring.push? push
  simp only [ring, next_eq, Fin.val_inj]
  split
  · rfl
  · simp only [Ring.store?, q.head.isLt, ↓reduceDIte]
    rfl

theorem pop?_ring : q.ring.pop? = some (q.pop.1.ring, q.pop.2) := by
  unfold Ring.pop? pop
  simp only [ring, next_eq, Fin.val_inj]
  split
  · rfl
  · rw [Vector.getElem?_eq_getElem q.tail.isLt]
    rfl

theorem answer?_ring (call : QueueCall) :
    q.ring.answer? call = some ((q.answer call).1.ring, (q.answer call).2) := by
  cases call with
  | push key =>
    rw [Ring.answer?, push?_ring]
    rfl
  | pop =>
    rw [Ring.answer?, pop?_ring]
    rfl

/-- No access of a run is outside the ring, and the ring does what the queue does. -/
theorem answerAll?_ring (calls : List QueueCall) :
    q.ring.answerAll? calls = some ((q.answerAll calls).1.ring, (q.answerAll calls).2) := by
  induction calls generalizing q with
  | nil => rfl
  | cons call rest ih =>
    rw [Ring.answerAll?, answer?_ring]
    simp only [Option.bind_eq_bind, Option.bind_some, ih]
    rfl

/-- After any calls on a new queue, the keys taken from it, followed by those still in it, are the
keys that it accepted, in the order in which they came. A key is refused exactly when 63 are queued
and nothing is there to be taken exactly when none is, either without a change. In memory the calls
come to the same, no access fails, and both indices are inside the ring: each is the number of keys
that went past it, counted in rounds. -/
theorem keys_in_order (calls : List QueueCall) :
    acceptedKeys (empty.answerAll calls).2 =
        takenKeys (empty.answerAll calls).2 ++ (empty.answerAll calls).1.toList ∧
      (empty.answerAll calls).1.toList.length ≤ 63 ∧
      (∀ key,
        (((empty.answerAll calls).1.push key).2 = false ↔
          (empty.answerAll calls).1.toList.length = 63) ∧
        (((empty.answerAll calls).1.push key).2 = false →
          ((empty.answerAll calls).1.push key).1 = (empty.answerAll calls).1)) ∧
      ((empty.answerAll calls).1.pop.2 = none ↔ (empty.answerAll calls).1.toList = []) ∧
      ((empty.answerAll calls).1.pop.2 = none →
        (empty.answerAll calls).1.pop.1 = (empty.answerAll calls).1) ∧
      ∃ r, Ring.new.answerAll? calls = some (r, (empty.answerAll calls).2) ∧
        r = (empty.answerAll calls).1.ring ∧ r.head < queuePlaces ∧ r.tail < queuePlaces ∧
        r.head = (acceptedKeys (empty.answerAll calls).2).length % queuePlaces ∧
        r.tail = (takenKeys (empty.answerAll calls).2).length % queuePlaces := by
  have accounts := accounts_empty.answerAll calls
  have inMemory := empty.answerAll?_ring calls
  rw [List.nil_append] at accounts
  generalize empty.answerAll calls = result at accounts inMemory ⊢
  obtain ⟨q, events⟩ := result
  dsimp only at accounts inMemory ⊢
  refine ⟨accounts.kept, ?_, ?_, ?_, pop_of_missed, q.ring, inMemory, rfl, q.head.isLt, q.tail.isLt,
    accounts.head, accounts.tail⟩
  · rw [length_toList]
    exact q.length_le
  · exact fun key => ⟨q.push_refused_iff key, push_of_refused⟩
  · rw [pop_eq_head?, List.head?_eq_none_iff]

end KeyQueue

end TerminalKernel
