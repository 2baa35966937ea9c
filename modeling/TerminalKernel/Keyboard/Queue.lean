import TerminalKernel.Keyboard.Decoder

/-!
# The key queue

A ring of 64 places between the keyboard interrupt, which pushes, and the terminals, which pop. One
place always stays free, so that equal indices mean an empty ring and nothing else; the ring holds
at most 63 keys. `toList` reads the ring as a list, to which a push appends (`toList_push`) and from
which a pop takes the first key (`toList_eq_cons_pop`). The keyboard is the decoder with the queue
behind it; bytes without a meaning of their own are never queued.
Core Lean only.
-/

namespace TerminalKernel

/-- Places of the ring. -/
abbrev queuePlaces : Nat := 64

structure KeyQueue where
  places : Vector Key queuePlaces
  /-- Where the next key is stored. -/
  head : Fin queuePlaces
  /-- Where the oldest key is, if there is any. -/
  tail : Fin queuePlaces
  deriving DecidableEq, Repr

namespace KeyQueue

def empty : KeyQueue := ⟨Vector.replicate queuePlaces .unknown, 0, 0⟩

instance : Inhabited KeyQueue := ⟨empty⟩

/-- Append a key. A full queue refuses it and stays as it is. -/
def push (q : KeyQueue) (key : Key) : KeyQueue × Bool :=
  if q.head + 1 = q.tail then (q, false)
  else ({ q with places := q.places.set q.head key, head := q.head + 1 }, true)

/-- Take the oldest key. -/
def pop (q : KeyQueue) : KeyQueue × Option Key :=
  if q.tail = q.head then (q, none)
  else ({ q with tail := q.tail + 1 }, some q.places[q.tail])

/-- How many keys are queued. -/
def length (q : KeyQueue) : Nat := (q.head - q.tail).val

/-- Where the `i`-th key of the queue is, counted from the oldest. -/
def place (q : KeyQueue) (i : Nat) : Fin queuePlaces := q.tail + Fin.ofNat queuePlaces i

/-- The queued keys, oldest first. -/
def toList (q : KeyQueue) : List Key := (List.range q.length).map fun i => q.places[q.place i]

/-! ## Counting -/

theorem length_le (q : KeyQueue) : q.length ≤ 63 := by
  have h : q.length < 64 := (q.head - q.tail).isLt
  omega

theorem head_succ_eq_tail_iff (q : KeyQueue) : q.head + 1 = q.tail ↔ q.length = 63 := by
  have hh := q.head.isLt
  have ht := q.tail.isLt
  simp only [length, Fin.ext_iff, Fin.val_add, Fin.sub_def, Fin.val_one, queuePlaces] at *
  omega

theorem tail_eq_head_iff (q : KeyQueue) : q.tail = q.head ↔ q.length = 0 := by
  have hh := q.head.isLt
  have ht := q.tail.isLt
  simp only [length, Fin.ext_iff, Fin.sub_def, queuePlaces] at *
  omega

theorem place_zero (q : KeyQueue) : q.place 0 = q.tail := by
  have ht := q.tail.isLt
  simp only [place, Fin.ext_iff, Fin.val_add, Fin.ofNat, queuePlaces] at *
  omega

/-- The place of a key counts from the tail after a pop. -/
theorem place_succ (q : KeyQueue) (i : Nat) :
    q.place (i + 1) = place { q with tail := q.tail + 1 } i := by
  simp only [place, Fin.ext_iff, Fin.val_add, Fin.val_one, Fin.ofNat, queuePlaces] at *
  omega

/-- The place after the last key is the head. -/
theorem place_eq_head_iff (q : KeyQueue) {i : Nat} (h : i ≤ q.length) :
    q.place i = q.head ↔ i = q.length := by
  have hh := q.head.isLt
  have ht := q.tail.isLt
  simp only [place, length, Fin.ext_iff, Fin.val_add, Fin.sub_def, Fin.ofNat, queuePlaces] at *
  omega

/-! ## What push and pop do -/

theorem push_of_full (q : KeyQueue) (key : Key) (h : q.length = 63) : q.push key = (q, false) := by
  rw [push, if_pos (q.head_succ_eq_tail_iff.mpr h)]

theorem push_of_room (q : KeyQueue) (key : Key) (h : q.length ≠ 63) :
    q.push key = ({ q with places := q.places.set q.head key, head := q.head + 1 }, true) := by
  rw [push, if_neg (mt q.head_succ_eq_tail_iff.mp h)]

theorem pop_of_empty (q : KeyQueue) (h : q.length = 0) : q.pop = (q, none) := by
  rw [pop, if_pos (q.tail_eq_head_iff.mpr h)]

theorem pop_of_nonempty (q : KeyQueue) (h : q.length ≠ 0) :
    q.pop = ({ q with tail := q.tail + 1 }, some q.places[q.tail]) := by
  rw [pop, if_neg (mt q.tail_eq_head_iff.mp h)]

theorem length_push (q : KeyQueue) (key : Key) (h : q.length ≠ 63) :
    (q.push key).1.length = q.length + 1 := by
  have := q.length_le
  rw [q.push_of_room key h]
  simp only [length, Fin.sub_def, Fin.val_add, Fin.val_one, queuePlaces] at *
  omega

theorem length_pop (q : KeyQueue) (h : q.length ≠ 0) : q.pop.1.length + 1 = q.length := by
  rw [q.pop_of_nonempty h]
  simp only [length, Fin.sub_def, Fin.val_add, Fin.val_one, queuePlaces] at *
  omega

/-! ## The queued keys afterwards -/

@[simp] theorem length_toList (q : KeyQueue) : q.toList.length = q.length := by
  simp [toList]

theorem getElem_toList (q : KeyQueue) (i : Nat) (h : i < q.toList.length) :
    q.toList[i] = q.places[q.place i] := by
  simp [toList]

theorem toList_push (q : KeyQueue) (key : Key) (h : q.length ≠ 63) :
    (q.push key).1.toList = q.toList ++ [key] := by
  have len := q.length_push key h
  refine List.ext_getElem (by simp [len]) fun i h₁ h₂ => ?_
  have bound : i ≤ q.length := by rw [length_toList] at h₁; omega
  have head := q.place_eq_head_iff bound
  have stored : (q.push key).1.toList[i] = (q.places.set q.head key)[q.place i] := by
    rw [getElem_toList]
    simp only [q.push_of_room key h]
    rfl
  rw [stored]
  by_cases last : i = q.length
  · subst last
    simp [head.mpr rfl]
  · have other : q.head ≠ q.place i := fun e => last (head.mp e.symm)
    have inside : i < q.toList.length := by rw [length_toList]; omega
    rw [List.getElem_append_left inside, getElem_toList]
    exact Vector.getElem_set_ne _ _ (Fin.val_ne_of_ne other)

/-- A queue that is not empty gives its oldest key and keeps the others. -/
theorem toList_eq_cons_pop (q : KeyQueue) (h : q.length ≠ 0) :
    ∃ key, q.pop.2 = some key ∧ q.toList = key :: q.pop.1.toList := by
  have len := q.length_pop h
  refine ⟨q.places[q.tail], by rw [q.pop_of_nonempty h], ?_⟩
  refine List.ext_getElem (by simp [len]) fun i h₁ h₂ => ?_
  rw [getElem_toList]
  cases i with
  | zero => simp only [List.getElem_cons_zero, q.place_zero]
  | succ i =>
    rw [List.getElem_cons_succ, getElem_toList]
    simp only [q.pop_of_nonempty h, q.place_succ]

end KeyQueue

/-! ## The keyboard -/

structure Keyboard where
  decoder : Decoder
  queue : KeyQueue
  deriving DecidableEq, Repr

namespace Keyboard

/-- No modifier held and no key queued. -/
def initial : Keyboard := ⟨.initial, .empty⟩

instance : Inhabited Keyboard := ⟨initial⟩

/-- Take a byte from the keyboard and queue its key. The second part is a key that a full queue
refused. -/
def receive (k : Keyboard) (byte : UInt8) : Keyboard × Option Key :=
  let (decoder, key) := k.decoder.feed byte
  if key = .unknown then ({ k with decoder }, none)
  else
    let (queue, accepted) := k.queue.push key
    ({ decoder, queue }, if accepted then none else some key)

/-- The oldest key that was not read yet. -/
def read (k : Keyboard) : Keyboard × Option Key :=
  let (queue, key) := k.queue.pop
  ({ k with queue }, key)

end Keyboard

end TerminalKernel
