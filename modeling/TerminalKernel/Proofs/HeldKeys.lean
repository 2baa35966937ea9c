import Mathlib.Data.List.Induction
import Mathlib.Tactic.IntervalCases
import TerminalKernel.Keyboard.Decoder

/-!
# Which modifiers are active

The bytes that a keyboard sends are presses and releases of its keys. A modifier has two keys, and
the decoder keeps one mark for both: the last stroke on either of them decides (`Decoder.Tracks`).
So an active modifier has a key held, but a held key does not always mean an active modifier: when
both keys are held, releasing one of them ends it.
-/

namespace TerminalKernel

open Decoder

/-! ## Strokes -/

/-- A key of the keyboard: its code, and whether the mark of added keys comes before it. -/
structure PhysicalKey where
  added : Bool
  code : UInt8
  deriving DecidableEq, Repr

/-- A press or a release. -/
structure Stroke where
  key : PhysicalKey
  pressed : Bool
  deriving DecidableEq, Repr

namespace Stroke

/-- What a byte reports that is not the mark of added keys. -/
def ofByte (added : Bool) (byte : UInt8) : Stroke :=
  ⟨⟨added, byte &&& ~~~releaseBit⟩, byte &&& releaseBit == 0⟩

/-- The strokes that some bytes report, the first one perhaps behind a mark. -/
def readFrom (added : Bool) : List UInt8 → List Stroke
  | [] => []
  | byte :: rest =>
    if byte = extendedMark then readFrom true rest else ofByte added byte :: readFrom false rest

/-- The strokes that the bytes of a keyboard report. -/
def read (bytes : List UInt8) : List Stroke := readFrom false bytes

/-- Whether the last of the strokes on some keys, if there is one, is a press. -/
def lastPressed (keys : List PhysicalKey) (strokes : List Stroke) : Bool :=
  match (strokes.filter fun s => s.key ∈ keys).getLast? with
  | some s => s.pressed
  | none => false

/-- A key is held from its press to its release. -/
def Held (strokes : List Stroke) (key : PhysicalKey) : Prop := lastPressed [key] strokes = true

instance (strokes : List Stroke) (key : PhysicalKey) : Decidable (Held strokes key) :=
  inferInstanceAs (Decidable (_ = _))

/-- How often Caps Lock was pressed. -/
def capsLockPresses (strokes : List Stroke) : Nat := strokes.count ⟨⟨false, capsLockKey⟩, true⟩

/-! ### One stroke more -/

/-- The last byte is the mark of added keys. -/
def Marked (bytes : List UInt8) : Prop := bytes.getLast? = some extendedMark

instance (bytes : List UInt8) : Decidable (Marked bytes) := inferInstanceAs (Decidable (_ = _))

/-- Whether the mark comes last, where there may have been one before the bytes. -/
def markedFrom (added : Bool) (bytes : List UInt8) : Bool :=
  match bytes.getLast? with
  | some last => last = extendedMark
  | none => added

theorem markedFrom_false (bytes : List UInt8) : markedFrom false bytes = decide (Marked bytes) := by
  unfold markedFrom
  split
  · rename_i last
    simp [Marked, last]
  · rename_i none
    simp [Marked, none]

theorem markedFrom_cons (added : Bool) (first : UInt8) (rest : List UInt8) :
    markedFrom added (first :: rest) = markedFrom (decide (first = extendedMark)) rest := by
  rw [markedFrom, markedFrom, List.getLast?_cons]
  cases rest.getLast? <;> rfl

theorem readFrom_concat (added : Bool) (bytes : List UInt8) (byte : UInt8) :
    readFrom added (bytes ++ [byte]) = readFrom added bytes ++
      if byte = extendedMark then [] else [ofByte (markedFrom added bytes) byte] := by
  induction bytes generalizing added with
  | nil => rfl
  | cons first rest ih =>
    rw [List.cons_append, readFrom, readFrom, markedFrom_cons, ih, ih]
    by_cases mark : first = extendedMark
    · simp only [mark, decide_true, ↓reduceIte]
    · simp only [mark, decide_false, ↓reduceIte, List.cons_append]

theorem read_concat (bytes : List UInt8) (byte : UInt8) :
    read (bytes ++ [byte]) = read bytes ++
      if byte = extendedMark then [] else [ofByte (decide (Marked bytes)) byte] := by
  rw [read, readFrom_concat, markedFrom_false]
  rfl

theorem lastPressed_concat (keys : List PhysicalKey) (strokes : List Stroke) (s : Stroke) :
    lastPressed keys (strokes ++ [s]) =
      if s.key ∈ keys then s.pressed else lastPressed keys strokes := by
  unfold lastPressed
  rw [List.filter_append]
  by_cases own : s.key ∈ keys <;> simp [own]

end Stroke

open Stroke

/-! ## Modifiers -/

inductive Modifier
  | shift
  | ctrl
  | alt
  deriving DecidableEq, Repr

namespace Modifier

/-- The two keys of a modifier. The right ones of Ctrl and Alt were added later, and what comes
behind the mark with the code of a Shift key is no key. -/
def keys : Modifier → List PhysicalKey
  | shift => [⟨false, leftShift⟩, ⟨false, rightShift⟩]
  | ctrl => [⟨false, ctrlKey⟩, ⟨true, ctrlKey⟩]
  | alt => [⟨false, altKey⟩, ⟨true, altKey⟩]

/-- A modifier is active from a press on one of its keys to the next release of either of them. -/
def Active (m : Modifier) (strokes : List Stroke) : Prop := lastPressed m.keys strokes = true

instance (m : Modifier) (strokes : List Stroke) : Decidable (m.Active strokes) :=
  inferInstanceAs (Decidable (_ = _))

/-- One of the keys is held. -/
def Down (m : Modifier) (strokes : List Stroke) : Prop := ∃ key ∈ m.keys, Held strokes key

instance (m : Modifier) (strokes : List Stroke) : Decidable (m.Down strokes) :=
  inferInstanceAs (Decidable (∃ _ ∈ _, _))

/-- One of the keys was released while the other one was held, which has been held since. -/
def Ended (m : Modifier) (strokes : List Stroke) : Prop :=
  ∃ before key other later, strokes = before ++ ⟨key, false⟩ :: later ∧ key ∈ m.keys ∧
    other ∈ m.keys ∧ key ≠ other ∧ Held before other ∧ ∀ s ∈ later, s.key ∉ m.keys

theorem mem_shift_keys {added : Bool} {code : UInt8} :
    ⟨added, code⟩ ∈ shift.keys ↔ (code = leftShift ∨ code = rightShift) ∧ added = false := by
  simp only [keys, List.mem_cons, List.not_mem_nil, or_false, PhysicalKey.mk.injEq]
  tauto

theorem mem_ctrl_keys {added : Bool} {code : UInt8} : ⟨added, code⟩ ∈ ctrl.keys ↔ code = ctrlKey := by
  cases added <;> simp [keys]

theorem mem_alt_keys {added : Bool} {code : UInt8} : ⟨added, code⟩ ∈ alt.keys ↔ code = altKey := by
  cases added <;> simp [keys]

variable {m : Modifier} {strokes : List Stroke}

theorem held_concat (strokes : List Stroke) (s : Stroke) (key : PhysicalKey) :
    Held (strokes ++ [s]) key ↔ if s.key = key then s.pressed = true else Held strokes key := by
  rw [Held, lastPressed_concat]
  by_cases own : s.key = key
  · rw [if_pos own, if_pos (List.mem_singleton.mpr own)]
  · rw [if_neg own, if_neg fun inside => own (List.mem_singleton.mp inside)]
    rfl

theorem active_concat (m : Modifier) (strokes : List Stroke) (s : Stroke) :
    m.Active (strokes ++ [s]) ↔ if s.key ∈ m.keys then s.pressed = true else m.Active strokes := by
  rw [Active, lastPressed_concat]
  split <;> rfl

theorem Active.down (active : m.Active strokes) : m.Down strokes := by
  induction strokes using List.reverseRecOn with
  | nil => cases active
  | append_singleton strokes s ih =>
    rw [active_concat] at active
    split at active
    · rename_i own
      exact ⟨s.key, own, (held_concat strokes s s.key).mpr (by rwa [if_pos rfl])⟩
    · rename_i foreign
      obtain ⟨key, own, held⟩ := ih active
      refine ⟨key, own, (held_concat strokes s key).mpr ?_⟩
      rwa [if_neg (ne_of_mem_of_not_mem own foreign).symm]

theorem held_append {later : List Stroke} {key : PhysicalKey} (foreign : ∀ s ∈ later, s.key ≠ key) :
    Held (strokes ++ later) key ↔ Held strokes key := by
  induction later using List.reverseRecOn with
  | nil => rw [List.append_nil]
  | append_singleton later s ih =>
    rw [← List.append_assoc, held_concat, if_neg (foreign s (by simp))]
    exact ih fun s' inside => foreign s' (List.mem_append_left _ inside)

theorem active_append {later : List Stroke} (foreign : ∀ s ∈ later, s.key ∉ m.keys) :
    m.Active (strokes ++ later) ↔ m.Active strokes := by
  induction later using List.reverseRecOn with
  | nil => rw [List.append_nil]
  | append_singleton later s ih =>
    rw [← List.append_assoc, active_concat, if_neg (foreign s (by simp))]
    exact ih fun s' inside => foreign s' (List.mem_append_left _ inside)

/-- A modifier is inactive although one of its keys is held exactly when it was ended by the release
of the other one. -/
theorem ended_iff : m.Ended strokes ↔ m.Down strokes ∧ ¬ m.Active strokes := by
  constructor
  · rintro ⟨before, key, other, later, rfl, own, own', different, held, foreign⟩
    rw [List.append_cons]
    refine ⟨⟨other, own', ?_⟩, ?_⟩
    · rw [held_append fun s inside same => foreign s inside (same ▸ own'), held_concat,
        if_neg different]
      exact held
    · rw [active_append foreign, active_concat, if_pos own]
      exact Bool.false_ne_true
  · rintro ⟨⟨other, own, held⟩, inactive⟩
    induction strokes using List.reverseRecOn with
    | nil => cases held
    | append_singleton strokes s ih =>
      rw [held_concat] at held
      rw [active_concat] at inactive
      by_cases stroked : s.key ∈ m.keys
      · rw [if_pos stroked] at inactive
        have different : s.key ≠ other := by
          intro same
          rw [if_pos same] at held
          exact inactive held
        rw [if_neg different] at held
        refine ⟨strokes, s.key, other, [], ?_, stroked, own, different, held, by simp⟩
        rw [Bool.not_eq_true] at inactive
        rw [← inactive]
      · rw [if_neg stroked] at inactive
        rw [if_neg (ne_of_mem_of_not_mem own stroked).symm] at held
        obtain ⟨before, key, other', later, rfl, facts⟩ := ih inactive held
        obtain ⟨own, own', different, held, foreign⟩ := facts
        refine ⟨before, key, other', later ++ [s], by simp, own, own', different, held, ?_⟩
        intro s' inside
        rcases List.mem_append.mp inside with earlier | last
        · exact foreign s' earlier
        · rwa [List.mem_singleton.mp last]

theorem active_iff : m.Active strokes ↔ m.Down strokes ∧ ¬ m.Ended strokes := by
  rw [ended_iff]
  constructor
  · exact fun active => ⟨active.down, fun ended => ended.2 active⟩
  · rintro ⟨down, kept⟩
    by_contra inactive
    exact kept ⟨down, inactive⟩

end Modifier

namespace Decoder

/-! ## What the decoder keeps -/

/-- The decoder's state after the bytes. -/
structure Tracks (d : Decoder) (bytes : List UInt8) : Prop where
  shift : d.shift = lastPressed Modifier.shift.keys (read bytes)
  ctrl : d.ctrl = lastPressed Modifier.ctrl.keys (read bytes)
  alt : d.alt = lastPressed Modifier.alt.keys (read bytes)
  capsLock : d.capsLock = decide (capsLockPresses (read bytes) % 2 = 1)
  extended : d.extended = decide (Marked bytes)

theorem tracks_initial : initial.Tracks [] := ⟨rfl, rfl, rfl, rfl, rfl⟩

theorem fst_transition (d : Decoder) (added pressed : Bool) (code : UInt8) :
    (d.transition added pressed code).1 =
      { d with
        shift := if ⟨added, code⟩ ∈ Modifier.shift.keys then pressed else d.shift
        ctrl := if ⟨added, code⟩ ∈ Modifier.ctrl.keys then pressed else d.ctrl
        alt := if ⟨added, code⟩ ∈ Modifier.alt.keys then pressed else d.alt
        capsLock := if added = false ∧ pressed = true ∧ code = capsLockKey then !d.capsLock
          else d.capsLock } := by
  simp only [Modifier.mem_shift_keys, Modifier.mem_ctrl_keys, Modifier.mem_alt_keys]
  unfold transition
  by_cases onShift : (code = leftShift ∨ code = rightShift) ∧ added = false
  · obtain ⟨rfl | rfl, rfl⟩ := onShift <;>
      simp [leftShift, rightShift, ctrlKey, altKey, capsLockKey]
  · rw [if_neg onShift, if_neg onShift]
    by_cases onCtrl : code = ctrlKey
    · subst onCtrl
      simp [ctrlKey, altKey, capsLockKey]
    · rw [if_neg onCtrl, if_neg onCtrl]
      by_cases onAlt : code = altKey
      · subst onAlt
        simp [altKey, capsLockKey]
      · rw [if_neg onAlt, if_neg onAlt]
        by_cases turns : added = false ∧ pressed = true ∧ code = capsLockKey
        · obtain ⟨rfl, rfl, rfl⟩ := turns
          rfl
        · rw [if_neg turns]
          split
          · rfl
          · rename_i loud
            rw [Bool.or_eq_true, not_or, Bool.not_eq_true, Bool.not_eq_true', Bool.not_eq_false]
              at loud
            have other : code ≠ capsLockKey := fun same => turns ⟨loud.1, loud.2, same⟩
            rw [if_neg other]
            -- What is left decodes to a key and changes nothing.
            split_ifs <;> rfl

theorem capsLockPresses_concat (strokes : List Stroke) (s : Stroke) :
    capsLockPresses (strokes ++ [s]) =
      capsLockPresses strokes + if s = ⟨⟨false, capsLockKey⟩, true⟩ then 1 else 0 := by
  rw [capsLockPresses, List.count_append, List.count_singleton]
  simp only [beq_iff_eq]
  rfl

theorem Tracks.feed {d : Decoder} {bytes : List UInt8} (tracks : d.Tracks bytes) (byte : UInt8) :
    (d.feed byte).1.Tracks (bytes ++ [byte]) := by
  have strokes := read_concat bytes byte
  unfold Decoder.feed
  by_cases mark : byte = extendedMark
  · rw [if_pos mark, List.append_nil] at strokes
    rw [if_pos mark]
    constructor
    · rw [strokes, ← tracks.shift]
    · rw [strokes, ← tracks.ctrl]
    · rw [strokes, ← tracks.alt]
    · rw [strokes, ← tracks.capsLock]
    · simp [Marked, mark]
  · rw [if_neg mark] at strokes
    rw [if_neg mark, tracks.extended, fst_transition]
    constructor
    · rw [strokes, lastPressed_concat, ← tracks.shift]
      rfl
    · rw [strokes, lastPressed_concat, ← tracks.ctrl]
      rfl
    · rw [strokes, lastPressed_concat, ← tracks.alt]
      rfl
    · have turned : ofByte (decide (Marked bytes)) byte = ⟨⟨false, capsLockKey⟩, true⟩ ↔
          decide (Marked bytes) = false ∧ (byte &&& releaseBit == 0) = true ∧
            byte &&& ~~~releaseBit = capsLockKey := by
        simp only [ofByte, Stroke.mk.injEq, PhysicalKey.mk.injEq, and_assoc]
        tauto
      rw [strokes, capsLockPresses_concat, tracks.capsLock]
      simp only [turned]
      split
      · rw [Bool.eq_iff_iff]
        simp only [Bool.not_eq_true', decide_eq_false_iff_not, decide_eq_true_iff]
        omega
      · rfl
    · simp [Marked, mark]

theorem tracks_feedAll (bytes : List UInt8) : (initial.feedAll bytes).1.Tracks bytes := by
  induction bytes using List.reverseRecOn with
  | nil => exact tracks_initial
  | append_singleton bytes byte ih =>
    rw [feedAll_append]
    exact ih.feed byte

/-! ## What keys decode to -/

theorem bne_and_iff {shift letter capsLock : Bool} :
    (shift != (letter && capsLock)) = true ↔ (shift = true ↔ ¬ (letter = true ∧ capsLock = true)) := by
  cases shift <;> cases letter <;> cases capsLock <;> decide

/-- The key that a byte decodes to after others. -/
def decoded (bytes : List UInt8) (byte : UInt8) : Key := ((initial.feedAll bytes).1.feed byte).2

theorem plain_of_ofCode? : ∀ code < 256, (KeyCap.ofCode? code).isSome = true →
    code < f1Key.toNat ∧ code ∉ [leftShift.toNat, rightShift.toNat, ctrlKey.toNat, altKey.toNat,
      capsLockKey.toNat, enterKey.toNat, backspaceKey.toNat] := by
  decide +kernel

theorem make_code : ∀ code < 128, UInt8.ofNat code ≠ extendedMark ∧
    UInt8.ofNat code &&& releaseBit = 0 ∧ UInt8.ofNat code &&& ~~~releaseBit = UInt8.ofNat code := by
  decide +kernel

theorem feed_make {d : Decoder} (plain : d.extended = false) {code : UInt8} (make : code.toNat < 128) :
    d.feed code = d.transition false true code := by
  obtain ⟨mark, release, same⟩ := make_code code.toNat make
  rw [UInt8.ofNat_toNat] at mark release same
  rw [feed, if_neg mark, release, same, plain]
  obtain ⟨_, _, _, _, _⟩ := d
  obtain rfl : _ = false := plain
  rfl

theorem transition_of_cap (d : Decoder) {code : UInt8} {cap : KeyCap}
    (found : KeyCap.ofCode? code.toNat = some cap) :
    (d.transition false true code).2 =
      if cap.isLetter && d.ctrl then .ctrl cap.plain
      else if d.shift != (cap.isLetter && d.capsLock) then .char cap.shifted
      else .char cap.plain := by
  obtain ⟨low, others⟩ := plain_of_ofCode? code.toNat code.toNat_lt (by rw [found]; rfl)
  simp only [List.mem_cons, List.not_mem_nil, or_false, not_or, UInt8.toNat_inj] at others
  obtain ⟨left, right, ctrl, alt, capsLock, enter, backspace⟩ := others
  have shift : ¬ ((code = leftShift ∨ code = rightShift) ∧ false = false) := by
    rintro ⟨rfl | rfl, _⟩
    · exact left rfl
    · exact right rfl
  have function : ¬ (f1Key ≤ code ∧ code ≤ f10Key ∧ d.alt = true) := by
    rintro ⟨high, _⟩
    exact Nat.not_le.mpr low (UInt8.le_iff_toNat_le.mp high)
  unfold transition
  rw [if_neg shift, if_neg ctrl, if_neg alt, if_neg (by decide), if_neg capsLock, if_neg enter,
    if_neg backspace, if_neg function]
  simp only [keyOf, found]

theorem transition_of_function (d : Decoder) : ∀ n < 10,
    (d.transition false true (f1Key + UInt8.ofNat n)).2 = if d.alt then .altF (n + 1) else .unknown := by
  obtain ⟨shift, ctrl, alt, capsLock, extended⟩ := d
  intro n inside
  interval_cases n <;> cases alt <;> rfl

/-- After any bytes that do not end in the mark of added keys, a key with characters stands for Ctrl
and its letter, or for the character that Shift and Caps Lock choose, and a function key selects
while Alt is active. A modifier is active while one of its keys is held, unless the other one was
released meanwhile. -/
theorem modifiers_tracked (bytes : List UInt8) (unmarked : ¬ Marked bytes) :
    (∀ code cap, KeyCap.ofCode? code.toNat = some cap →
      decoded bytes code =
        if cap.isLetter = true ∧ Modifier.ctrl.Active (read bytes) then .ctrl cap.plain
        else if Modifier.shift.Active (read bytes) ↔
            ¬ (cap.isLetter = true ∧ capsLockPresses (read bytes) % 2 = 1) then .char cap.shifted
        else .char cap.plain) ∧
      (∀ n < 10, decoded bytes (f1Key + UInt8.ofNat n) =
        if Modifier.alt.Active (read bytes) then .altF (n + 1) else .unknown) ∧
      ∀ m : Modifier, m.Active (read bytes) ↔ m.Down (read bytes) ∧ ¬ m.Ended (read bytes) := by
  have tracks := tracks_feedAll bytes
  have plain : (initial.feedAll bytes).1.extended = false := by
    rw [tracks.extended, decide_eq_false_iff_not]
    exact unmarked
  refine ⟨fun code cap found => ?_, fun n inside => ?_, fun m => Modifier.active_iff⟩
  · have low : code.toNat < f1Key.toNat :=
      (plain_of_ofCode? code.toNat code.toNat_lt (by rw [found]; rfl)).1
    rw [decoded, feed_make plain (Nat.lt_trans low (by decide)), transition_of_cap _ found,
      tracks.shift, tracks.ctrl, tracks.capsLock]
    simp only [Bool.and_eq_true, bne_and_iff, decide_eq_true_iff]
    rfl
  · have make : (f1Key + UInt8.ofNat n).toNat < 128 := by
      interval_cases n <;> decide
    rw [decoded, feed_make plain make, transition_of_function _ n inside, tracks.alt]
    rfl

/-- Ctrl is held on the right, Caps Lock was pressed, and Shift is active again: its left key was
released while the right one was held, which then repeated its make code. -/
theorem modifiers_tracked_chord :
    ¬ Marked [extendedMark, ctrlKey, capsLockKey, leftShift, rightShift, 0xAA, rightShift] ∧
      decoded [extendedMark, ctrlKey, capsLockKey, leftShift, rightShift, 0xAA, rightShift] 0x26 =
        .ctrl 'l' ∧
      decoded [extendedMark, ctrlKey, capsLockKey, leftShift, rightShift, 0xAA, rightShift] 0x02 =
        .char '!' ∧
      decoded [extendedMark, ctrlKey, capsLockKey, leftShift, rightShift, 0xAA, rightShift]
        (f1Key + UInt8.ofNat 1) = .unknown := by
  have unmarked : ¬ Marked
      [extendedMark, ctrlKey, capsLockKey, leftShift, rightShift, 0xAA, rightShift] := by decide
  obtain ⟨caps, functions, _⟩ := modifiers_tracked _ unmarked
  refine ⟨unmarked, ?_, ?_, ?_⟩
  · rw [caps 0x26 ⟨'l', 'L'⟩ rfl, if_pos (by decide +kernel)]
  · rw [caps 0x02 ⟨'1', '!'⟩ rfl, if_neg (by decide +kernel), if_pos (by decide +kernel)]
  · rw [functions 1 (by decide), if_neg (by decide +kernel)]

/-- Both Ctrl keys are pressed and the left one is released: a letter comes without Ctrl although the
right one is still held. -/
theorem ctrl_ends_while_held :
    ¬ Marked [ctrlKey, extendedMark, ctrlKey, 0x9D] ∧
      Held (read [ctrlKey, extendedMark, ctrlKey, 0x9D]) ⟨true, ctrlKey⟩ ∧
      KeyCap.ofCode? 0x26 = some ⟨'l', 'L'⟩ ∧
      decoded [ctrlKey, extendedMark, ctrlKey, 0x9D] 0x26 ≠ .ctrl 'l' := by
  decide +kernel

end Decoder

end TerminalKernel
