import TerminalKernel.Proofs.FileContents
import TerminalKernel.Sample

/-!
# Reads of arbitrary images

Mounting checks how large an image is and nothing else: lengths and block numbers in it may be
anything. What a read does is said here without the parts in which it goes on. A read succeeds when
every slot that it touches lies in the inode and names a data block (`Names`), the first slot that
does not decides which error it reports, and each byte that it copies comes from the one place of
the image that belongs to its position (`place`).
-/

namespace TerminalKernel

namespace Bytes

variable {buffer bytes : List UInt8} {i : Nat}

theorem getElem?_fill_of_lt (inside : i < bytes.length) : (fill buffer bytes)[i]? = bytes[i]? :=
  List.getElem?_append_left inside

theorem getElem?_fill_of_le (outside : bytes.length ≤ i) : (fill buffer bytes)[i]? = buffer[i]? := by
  rw [fill, List.getElem?_append_right outside, List.getElem?_drop, Nat.add_sub_cancel' outside]

end Bytes

namespace FileSystem

/-! ## What an inode holds -/

def storedLength (fs : FileSystem) (inode : Nat) : Nat :=
  Bytes.wordAt fs.image ((1 + inode) * blockSize)

def storedBlock (fs : FileSystem) (inode slot : Nat) : Nat :=
  Bytes.wordAt fs.image ((1 + inode) * blockSize + 4 + slot * 4)

/-- The slot lies in the inode and names a data block. -/
def Names (fs : FileSystem) (inode slot : Nat) : Prop :=
  slot < blocksPerInode ∧ fs.storedBlock inode slot < fs.blockCount

instance (fs : FileSystem) (inode slot : Nat) : Decidable (fs.Names inode slot) :=
  inferInstanceAs (Decidable (_ ∧ _))

/-- What a read reports of a slot that names no data block. -/
def slotError (slot : Nat) : FileError :=
  if slot < blocksPerInode then .badDataBlock else .corruptImage

/-- Where in the image the byte at a position of a file lies. -/
def place (fs : FileSystem) (inode position : Nat) : Nat :=
  (1 + fs.inodeCount + fs.storedBlock inode (position / blockSize)) * blockSize +
    position % blockSize

/-- Some of the `total` positions from `offset` on belong to the slot. -/
def Touches (offset total slot : Nat) : Prop :=
  ∃ position, offset ≤ position ∧ position < offset + total ∧ position / blockSize = slot

/-- The first slot that is touched and names no data block. -/
structure FirstBad (fs : FileSystem) (inode offset total slot : Nat) : Prop where
  touched : Touches offset total slot
  bad : ¬ fs.Names inode slot
  earlier : ∀ s, s < slot → Touches offset total s → fs.Names inode s

variable {fs : FileSystem} {inode offset room total slot position : Nat}

theorem dataStart_of_names (names : fs.Names inode slot) :
    fs.dataStart ((1 + inode) * blockSize) slot =
      .ok ((1 + fs.inodeCount + fs.storedBlock inode slot) * blockSize) := by
  obtain ⟨inside, counted⟩ := names
  rw [dataStart, if_neg (Nat.not_le.mpr inside)]
  exact if_pos counted

theorem dataStart_of_not_names (bad : ¬ fs.Names inode slot) :
    fs.dataStart ((1 + inode) * blockSize) slot = .error (slotError slot) := by
  unfold dataStart slotError
  by_cases inside : slot < blocksPerInode
  · have uncounted : ¬ fs.storedBlock inode slot < fs.blockCount := fun counted =>
      bad ⟨inside, counted⟩
    rw [if_neg (Nat.not_le.mpr inside), if_pos inside]
    exact if_neg uncounted
  · rw [if_pos (Nat.not_lt.mp inside), if_neg inside]

theorem inodeStart_of_lt (valid : inode < fs.inodeCount) :
    fs.inodeStart inode = .ok ((1 + inode) * blockSize) :=
  if_pos valid

theorem read_of_badInode (invalid : ¬ inode < fs.inodeCount) :
    fs.read inode offset room = .fail .badInode := by
  have missing : fs.inodeStart inode = .error .badInode := if_neg invalid
  rw [read, missing]

theorem read_of_past (valid : inode < fs.inodeCount) (past : fs.storedLength inode < offset) :
    fs.read inode offset room = .fail .offsetPastEnd := by
  rw [read, inodeStart_of_lt valid]
  exact if_pos past

theorem place_lt (names : fs.Names inode (position / blockSize)) :
    fs.place inode position < fs.image.size := by
  have block := dataStart_le (dataStart_of_names names)
  have offset : position % blockSize < blockSize := Nat.mod_lt _ (by decide)
  unfold place
  omega

theorem blockByte?_of_names (names : fs.Names inode (position / blockSize)) :
    fs.blockByte? ((1 + inode) * blockSize) position = fs.image[fs.place inode position]? := by
  rw [blockByte?, dataStart_of_names names]
  rfl

theorem inode_le (valid : inode < fs.inodeCount) :
    (1 + inode) * blockSize + blockSize ≤ fs.image.size := by
  have blocks := fs.blocks_le
  rw [← Nat.succ_mul]
  refine Nat.le_trans (Nat.mul_le_mul_right blockSize ?_) blocks
  omega

/-! ## Slots in order -/

theorem mem_partsOf {first last : Nat} :
    slot ∈ partsOf first last ↔ Touches first (last - first) slot := by
  unfold partsOf Touches
  split
  · rename_i some
    rw [List.mem_range'_1]
    constructor
    · rintro ⟨low, high⟩
      refine ⟨max first (slot * blockSize), ?_, ?_, ?_⟩
      all_goals
        simp only [blockSize] at *
        omega
    · rintro ⟨position, low, high, rfl⟩
      simp only [blockSize]
      omega
  · rename_i none
    simp only [List.not_mem_nil, false_iff]
    rintro ⟨position, low, high, -⟩
    omega

/-- Slots that name blocks are copied one after another, and what follows them goes on from
there. -/
theorem readParts_append {first last : Nat} {slots : List Nat}
    (names : ∀ s ∈ slots, fs.Names inode s) (rest : List Nat) :
    fs.readParts ((1 + inode) * blockSize) first last (slots ++ rest) =
      (fs.readParts ((1 + inode) * blockSize) first last rest).after
        (fs.readParts ((1 + inode) * blockSize) first last slots).bytes := by
  induction slots with
  | nil => rfl
  | cons s slots ih =>
    obtain ⟨here, later⟩ := List.forall_mem_cons.mp names
    rw [List.cons_append, readParts, readParts, dataStart_of_names here]
    simp only [ih later, Delivery.after, List.append_assoc]

theorem failure_readParts_of_names {first last : Nat} {slots : List Nat}
    (names : ∀ s ∈ slots, fs.Names inode s) :
    (fs.readParts ((1 + inode) * blockSize) first last slots).failure = none := by
  have whole : fs.readParts ((1 + inode) * blockSize) first last (slots ++ []) = _ :=
    readParts_append names []
  rw [List.append_nil] at whole
  rw [whole]
  rfl

/-- Copying stops at the first slot that names no block, with what was copied so far. -/
theorem readParts_of_bad {first last : Nat} {slots : List Nat}
    (names : ∀ s ∈ slots, fs.Names inode s) (bad : ¬ fs.Names inode slot) (rest : List Nat) :
    fs.readParts ((1 + inode) * blockSize) first last (slots ++ slot :: rest) =
      ⟨(fs.readParts ((1 + inode) * blockSize) first last slots).bytes,
        some (slotError slot)⟩ := by
  rw [readParts_append names, readParts, dataStart_of_not_names bad]
  simp only [Delivery.after, Delivery.fail, List.append_nil]

/-- Either all slots of a range name blocks, or one is the first that does not. -/
theorem names_or_firstBad (fs : FileSystem) (inode offset total : Nat) :
    (∀ s, Touches offset total s → fs.Names inode s) ∨ ∃ s, fs.FirstBad inode offset total s := by
  by_contra none
  rw [not_or] at none
  obtain ⟨some, first⟩ := none
  refine some fun s => ?_
  induction s using Nat.strong_induction_on with
  | h s ih =>
    intro touched
    by_contra bad
    exact first ⟨s, touched, bad, ih⟩

/-! ## Bytes that are copied -/

/-- The bytes come from the places of the positions from `offset` on. -/
def Copied (fs : FileSystem) (inode offset : Nat) (bytes : List UInt8) : Prop :=
  ∀ i, i < bytes.length → fs.Names inode ((offset + i) / blockSize) ∧
    bytes[i]? = fs.image[fs.place inode (offset + i)]?

/-- Slots from that of `offset` on which name blocks are copied up to the end of the last one. -/
theorem copied_readParts (fs : FileSystem) (inode offset last : Nat) {count : Nat}
    (names : ∀ s ∈ List.range' (offset / blockSize) count, fs.Names inode s) :
    (fs.readParts ((1 + inode) * blockSize) offset last
        (List.range' (offset / blockSize) count)).bytes.length =
      min last ((offset / blockSize + count) * blockSize) - offset ∧
    fs.Copied inode offset (fs.readParts ((1 + inode) * blockSize) offset last
      (List.range' (offset / blockSize) count)).bytes := by
  obtain ⟨length, bytes⟩ := fs.readParts_spec ((1 + inode) * blockSize) offset last
    (offset / blockSize) count (failure_readParts_of_names names)
  have start : max offset (offset / blockSize * blockSize) = offset := by
    simp only [blockSize]
    omega
  rw [start] at length bytes
  refine ⟨length, fun i inside => ?_⟩
  have member : (offset + i) / blockSize ∈ List.range' (offset / blockSize) count := by
    rw [List.mem_range'_1]
    simp only [blockSize] at *
    omega
  have named := names _ member
  refine ⟨named, ?_⟩
  rw [← blockByte?_of_names named]
  exact (bytes i inside).symm

theorem read_eq (valid : inode < fs.inodeCount) (within : offset ≤ fs.storedLength inode) :
    fs.read inode offset room =
      fs.readParts ((1 + inode) * blockSize) offset
        (offset + min room (fs.storedLength inode - offset))
        (partsOf offset (offset + min room (fs.storedLength inode - offset))) := by
  rw [read, inodeStart_of_lt valid]
  exact if_neg (Nat.not_lt.mpr within)

theorem read_of_names (valid : inode < fs.inodeCount) (within : offset ≤ fs.storedLength inode)
    (names : ∀ s, Touches offset (min room (fs.storedLength inode - offset)) s →
      fs.Names inode s) :
    (fs.read inode offset room).failure = none ∧
      (fs.read inode offset room).bytes.length = min room (fs.storedLength inode - offset) ∧
      fs.Copied inode offset (fs.read inode offset room).bytes := by
  rw [read_eq valid within]
  generalize min room (fs.storedLength inode - offset) = total at names ⊢
  have members : ∀ s ∈ partsOf offset (offset + total), fs.Names inode s := by
    intro s member
    rw [mem_partsOf, Nat.add_sub_cancel_left] at member
    exact names s member
  refine ⟨failure_readParts_of_names members, ?_⟩
  unfold partsOf at members ⊢
  by_cases some : offset < offset + total
  · rw [if_pos some] at members ⊢
    obtain ⟨length, copied⟩ := fs.copied_readParts inode offset (offset + total) members
    refine ⟨?_, copied⟩
    rw [length]
    simp only [blockSize]
    omega
  · rw [if_neg some]
    refine ⟨?_, fun i inside => absurd inside (Nat.not_lt_zero i)⟩
    simp only [readParts, Delivery.done, List.length_nil]
    omega

/-- The parts of a range before a slot that it touches, the slot, and the parts behind it. -/
theorem partsOf_split (touched : Touches offset total slot) :
    offset / blockSize ≤ slot ∧ ∃ behind, partsOf offset (offset + total) =
      List.range' (offset / blockSize) (slot - offset / blockSize) ++ slot :: behind := by
  obtain ⟨position, low, high, rfl⟩ := touched
  have below : offset / blockSize ≤ position / blockSize := Nat.div_le_div_right low
  have above : position / blockSize ≤ (offset + total - 1) / blockSize :=
    Nat.div_le_div_right (by omega)
  have start : offset / blockSize + (position / blockSize - offset / blockSize) =
      position / blockSize := Nat.add_sub_cancel' below
  have count : (position / blockSize - offset / blockSize) +
      ((offset + total - 1) / blockSize - position / blockSize + 1) =
      (offset + total - 1) / blockSize - offset / blockSize + 1 := by omega
  refine ⟨below, List.range' (position / blockSize + 1)
    ((offset + total - 1) / blockSize - position / blockSize), ?_⟩
  rw [partsOf, if_pos (by omega), ← count, ← List.range'_append_1, start, List.range'_succ]

theorem read_of_firstBad (valid : inode < fs.inodeCount) (within : offset ≤ fs.storedLength inode)
    (first : fs.FirstBad inode offset (min room (fs.storedLength inode - offset)) slot) :
    (fs.read inode offset room).failure = some (slotError slot) ∧
      (fs.read inode offset room).bytes.length = slot * blockSize - offset ∧
      fs.Copied inode offset (fs.read inode offset room).bytes := by
  rw [read_eq valid within]
  generalize min room (fs.storedLength inode - offset) = total at first ⊢
  obtain ⟨touched, bad, earlier⟩ := first
  obtain ⟨below, behind, parts⟩ := partsOf_split touched
  obtain ⟨position, low, high, here⟩ := touched
  have names : ∀ s ∈ List.range' (offset / blockSize) (slot - offset / blockSize),
      fs.Names inode s := by
    intro s member
    rw [List.mem_range'_1] at member
    refine earlier s (by omega) ⟨max offset (s * blockSize), ?_, ?_, ?_⟩
    all_goals
      simp only [blockSize] at *
      omega
  obtain ⟨length, copied⟩ := fs.copied_readParts inode offset (offset + total) names
  rw [parts, readParts_of_bad names bad]
  refine ⟨rfl, ?_, copied⟩
  rw [Nat.add_sub_cancel' below] at length
  refine length.trans ?_
  simp only [blockSize] at *
  omega

/-- The inode or the offset is out of range, or all slots name blocks, or one is the first that does
not. -/
theorem read_cases (fs : FileSystem) (inode offset room : Nat) :
    (¬ inode < fs.inodeCount ∧ fs.read inode offset room = .fail .badInode) ∨
    (inode < fs.inodeCount ∧ fs.storedLength inode < offset ∧
      fs.read inode offset room = .fail .offsetPastEnd) ∨
    inode < fs.inodeCount ∧ offset ≤ fs.storedLength inode ∧
      fs.Copied inode offset (fs.read inode offset room).bytes ∧
      (((∀ s, Touches offset (min room (fs.storedLength inode - offset)) s → fs.Names inode s) ∧
        (fs.read inode offset room).failure = none ∧
        (fs.read inode offset room).bytes.length = min room (fs.storedLength inode - offset)) ∨
      ∃ s, fs.FirstBad inode offset (min room (fs.storedLength inode - offset)) s ∧
        (fs.read inode offset room).failure = some (slotError s) ∧
        (fs.read inode offset room).bytes.length = s * blockSize - offset) := by
  by_cases valid : inode < fs.inodeCount
  · by_cases past : fs.storedLength inode < offset
    · exact .inr (.inl ⟨valid, past, read_of_past valid past⟩)
    · have within := Nat.not_lt.mp past
      rcases fs.names_or_firstBad inode offset (min room (fs.storedLength inode - offset)) with
        names | ⟨s, first⟩
      · obtain ⟨whole, length, copied⟩ := read_of_names valid within names
        exact .inr (.inr ⟨valid, within, copied, .inl ⟨names, whole, length⟩⟩)
      · obtain ⟨stopped, length, copied⟩ := read_of_firstBad valid within first
        exact .inr (.inr ⟨valid, within, copied, .inr ⟨s, first, stopped, length⟩⟩)
  · exact .inl ⟨valid, read_of_badInode valid⟩

theorem failure_read_eq_none_iff : (fs.read inode offset room).failure = none ↔
    inode < fs.inodeCount ∧ offset ≤ fs.storedLength inode ∧
      ∀ s, Touches offset (min room (fs.storedLength inode - offset)) s → fs.Names inode s := by
  constructor
  · intro whole
    rcases fs.read_cases inode offset room with
      ⟨_, fails⟩ | ⟨_, _, fails⟩ | ⟨valid, within, _, ⟨names, _⟩ | ⟨s, _, fails, _⟩⟩
    · rw [fails] at whole
      cases whole
    · rw [fails] at whole
      cases whole
    · exact ⟨valid, within, names⟩
    · rw [fails] at whole
      cases whole
  · rintro ⟨valid, within, names⟩
    exact (read_of_names valid within names).1

/-! ## Reading on -/

theorem Copied.append {first second : List UInt8} (before : fs.Copied inode offset first)
    (behind : fs.Copied inode (offset + first.length) second) :
    fs.Copied inode offset (first ++ second) := by
  intro i inside
  rw [List.length_append] at inside
  by_cases here : i < first.length
  · rw [List.getElem?_append_left here]
    exact before i here
  · have later := behind (i - first.length) (by omega)
    have position : offset + first.length + (i - first.length) = offset + i := by omega
    rw [position] at later
    rw [List.getElem?_append_right (Nat.not_lt.mp here)]
    exact later

/-- What is copied from some position on is determined by how much it is. -/
theorem Copied.eq_of_length {first second : List UInt8} (one : fs.Copied inode offset first)
    (other : fs.Copied inode offset second) (same : first.length = second.length) :
    first = second := by
  refine List.ext_getElem? fun i => ?_
  by_cases inside : i < first.length
  · rw [(one i inside).2, (other i (same ▸ inside)).2]
  · rw [List.getElem?_eq_none (Nat.not_lt.mp inside),
      List.getElem?_eq_none (same ▸ Nat.not_lt.mp inside)]

/-- A read and one that goes on behind it together copy what one read of both sizes does. -/
theorem read_append {n m : Nat} (first : (fs.read inode offset n).failure = none)
    (second : (fs.read inode (offset + (fs.read inode offset n).bytes.length) m).failure = none) :
    fs.read inode offset (n + m) = .done ((fs.read inode offset n).bytes ++
      (fs.read inode (offset + (fs.read inode offset n).bytes.length) m).bytes) := by
  obtain ⟨valid, within, names⟩ := failure_read_eq_none_iff.mp first
  obtain ⟨-, count, copied⟩ := read_of_names valid within names
  obtain ⟨-, within', names'⟩ := failure_read_eq_none_iff.mp second
  obtain ⟨-, count', copied'⟩ := read_of_names valid within' names'
  generalize (fs.read inode offset n).bytes = before at *
  generalize (fs.read inode (offset + before.length) m).bytes = behind at *
  have both : ∀ s, Touches offset (min (n + m) (fs.storedLength inode - offset)) s →
      fs.Names inode s := by
    rintro s ⟨position, low, high, here⟩
    by_cases early : position < offset + before.length
    · exact names s ⟨position, low, by omega, here⟩
    · exact names' s ⟨position, by omega, by omega, here⟩
  obtain ⟨whole, length, all⟩ := read_of_names valid within both
  have same := all.eq_of_length (copied.append copied') (by
    rw [length, List.length_append]
    omega)
  generalize fs.read inode offset (n + m) = delivery at *
  obtain ⟨bytes, failure⟩ := delivery
  obtain rfl := whole
  exact congrArg Delivery.done same

/-! ## All reads -/

/-- How a read of `total` bytes from the position `offset` on ends. -/
structure Ends (fs : FileSystem) (inode offset total : Nat) (delivery : Delivery FileError) :
    Prop where
  badInode : delivery.failure = some .badInode ↔ ¬ inode < fs.inodeCount
  pastEnd : delivery.failure = some .offsetPastEnd ↔
    inode < fs.inodeCount ∧ fs.storedLength inode < offset
  succeeds : inode < fs.inodeCount → offset ≤ fs.storedLength inode →
    (delivery.count = .ok total ↔ ∀ s, Touches offset total s → fs.Names inode s)
  /-- The first slot that names no block decides on the error. -/
  stops : inode < fs.inodeCount → offset ≤ fs.storedLength inode →
    (∃ s, Touches offset total s ∧ ¬ fs.Names inode s) →
    ∃ s, fs.FirstBad inode offset total s ∧ delivery.count = .error (slotError s)

/-- What a read leaves in a buffer, also when it fails on the way. -/
structure Fills (fs : FileSystem) (inode offset total : Nat) (buffer : List UInt8)
    (delivery : Delivery FileError) : Prop where
  copied : ∀ i, i < delivery.bytes.length → fs.place inode (offset + i) < fs.image.size ∧
    (Bytes.fill buffer delivery.bytes)[i]? = fs.image[fs.place inode (offset + i)]?
  untouched : ∀ i, delivery.bytes.length ≤ i → (Bytes.fill buffer delivery.bytes)[i]? = buffer[i]?
  /-- A read that stops early does so where a block ends. -/
  count : delivery.bytes.length = total ∨ delivery.failure ≠ none ∧
    (delivery.bytes = [] ∨ blockSize ∣ offset + delivery.bytes.length)
  fits : delivery.bytes.length ≤ total ∧ total ≤ buffer.length

theorem slotError_ne_badInode (slot : Nat) : slotError slot ≠ .badInode := by
  unfold slotError
  split <;> simp

theorem slotError_ne_offsetPastEnd (slot : Nat) : slotError slot ≠ .offsetPastEnd := by
  unfold slotError
  split <;> simp

/-- Whoever finds all slots in order finds none that is bad. -/
theorem FirstBad.not_names (first : fs.FirstBad inode offset total slot) :
    ¬ ∀ s, Touches offset total s → fs.Names inode s :=
  fun names => first.bad (names slot first.touched)

theorem read_ends (fs : FileSystem) (inode offset room : Nat) :
    fs.Ends inode offset (min room (fs.storedLength inode - offset))
      (fs.read inode offset room) := by
  have cases := fs.read_cases inode offset room
  generalize fs.read inode offset room = delivery at cases ⊢
  obtain ⟨bytes, failure⟩ := delivery
  rcases cases with ⟨invalid, fails⟩ | ⟨valid, past, fails⟩ |
    ⟨valid, within, _, ⟨names, whole, length⟩ | ⟨s, first, stopped, _⟩⟩
  · cases fails
    exact ⟨by simp [invalid], by simp [invalid], fun valid => absurd valid invalid,
      fun valid => absurd valid invalid⟩
  · cases fails
    have late := Nat.not_le.mpr past
    exact ⟨by simp [valid], by simp [valid, past], fun _ within => absurd within late,
      fun _ within => absurd within late⟩
  · obtain rfl := whole
    refine ⟨by simp [valid], by simp [within], fun _ _ => ?_, fun _ _ bad => ?_⟩
    · exact iff_of_true (congrArg Except.ok length) names
    · obtain ⟨s, touched, bad⟩ := bad
      exact absurd (names s touched) bad
  · obtain rfl := stopped
    refine ⟨?_, ?_, fun _ _ => ?_, fun _ _ _ => ⟨s, first, rfl⟩⟩
    · simp [slotError_ne_badInode, valid]
    · simp [slotError_ne_offsetPastEnd, within]
    · exact iff_of_false (fun done => by cases done) first.not_names

theorem read_fills (fs : FileSystem) (inode offset : Nat) (buffer : List UInt8) :
    fs.Fills inode offset (min buffer.length (fs.storedLength inode - offset)) buffer
      (fs.read inode offset buffer.length) := by
  have cases := fs.read_cases inode offset buffer.length
  have room := Nat.min_le_left buffer.length (fs.storedLength inode - offset)
  generalize fs.read inode offset buffer.length = delivery at cases ⊢
  generalize min buffer.length (fs.storedLength inode - offset) = total at cases room ⊢
  obtain ⟨bytes, failure⟩ := delivery
  have from_places (copied : fs.Copied inode offset bytes) : ∀ i, i < bytes.length →
      fs.place inode (offset + i) < fs.image.size ∧
        (Bytes.fill buffer bytes)[i]? = fs.image[fs.place inode (offset + i)]? := fun i inside =>
    ⟨place_lt (copied i inside).1, (Bytes.getElem?_fill_of_lt inside).trans (copied i inside).2⟩
  have none : ∀ i, i < ([] : List UInt8).length →
      fs.place inode (offset + i) < fs.image.size ∧
        (Bytes.fill buffer [])[i]? = fs.image[fs.place inode (offset + i)]? := fun i inside =>
    absurd inside (Nat.not_lt_zero i)
  rcases cases with ⟨invalid, fails⟩ | ⟨valid, past, fails⟩ |
    ⟨valid, within, copied, ⟨names, whole, length⟩ | ⟨s, first, stopped, length⟩⟩
  · cases fails
    exact ⟨none, fun _ => Bytes.getElem?_fill_of_le, .inr ⟨by simp, .inl rfl⟩,
      Nat.zero_le _, room⟩
  · cases fails
    exact ⟨none, fun _ => Bytes.getElem?_fill_of_le, .inr ⟨by simp, .inl rfl⟩,
      Nat.zero_le _, room⟩
  · exact ⟨from_places copied, fun _ => Bytes.getElem?_fill_of_le, .inl length,
      Nat.le_of_eq length, room⟩
  · obtain rfl := stopped
    obtain ⟨position, _, high, rfl⟩ := first.touched
    have length : bytes.length = position / blockSize * blockSize - offset := length
    have start := Nat.div_mul_le_self position blockSize
    refine ⟨from_places copied, fun _ => Bytes.getElem?_fill_of_le, .inr ⟨by simp, ?_⟩, ?_, room⟩
    · by_cases before : position / blockSize * blockSize ≤ offset
      · refine .inl (List.eq_nil_of_length_eq_zero ?_)
        rw [length, Nat.sub_eq_zero_of_le before]
      · refine .inr ⟨position / blockSize, ?_⟩
        change offset + bytes.length = _
        rw [length, Nat.mul_comm blockSize, Nat.add_sub_cancel' (Nat.le_of_not_le before)]
    · change bytes.length ≤ total
      omega

theorem words_le (valid : inode < fs.inodeCount) (inside : slot < blocksPerInode) :
    (1 + inode) * blockSize + 4 + slot * 4 + 4 ≤ fs.image.size := by
  have few : 4 + slot * 4 + 4 ≤ blockSize := by
    unfold blocksPerInode at inside
    unfold blockSize
    omega
  have word := Nat.add_le_add_left few ((1 + inode) * blockSize)
  rw [← Nat.add_assoc, ← Nat.add_assoc] at word
  exact Nat.le_trans word (inode_le valid)

theorem length_partsOf_le (offset total : Nat) :
    (partsOf offset (offset + total)).length ≤ total / blockSize + 2 := by
  unfold partsOf
  split
  · rw [List.length_range']
    simp only [blockSize]
    omega
  · exact Nat.zero_le _

theorem eq_of_mount {image : Array UInt8} (mounted : mount image = .ok fs) :
    fs.image = image ∧ fs.inodeCount = Bytes.wordAt image 4 ∧
      fs.blockCount = Bytes.wordAt image 8 := by
  unfold mount at mounted
  split at mounted
  · cases mounted
  · dsimp only at mounted
    split at mounted
    · cases mounted
      exact ⟨rfl, rfl, rfl⟩
    · cases mounted

/-- Whatever a mounted image holds, a read of any inode from any offset ends as the inode and its
slots say, copies from inside the image to the start of the buffer, and leaves the rest of the
buffer alone. Its turns from block to block are few, and all words that they look at lie in the
image. Two reads, one behind the other, copy what one read of both sizes does. -/
theorem reads_arbitrary {image : Array UInt8} (mounted : mount image = .ok fs)
    (inode offset : Nat) :
    (fs.image = image ∧ fs.inodeCount = Bytes.wordAt image 4 ∧
      fs.blockCount = Bytes.wordAt image 8) ∧
    (∀ buffer : List UInt8,
      fs.Ends inode offset (min buffer.length (fs.storedLength inode - offset))
        (fs.read inode offset buffer.length) ∧
      fs.Fills inode offset (min buffer.length (fs.storedLength inode - offset)) buffer
        (fs.read inode offset buffer.length)) ∧
    (inode < fs.inodeCount → ∀ s, s < blocksPerInode →
      (1 + inode) * blockSize + 4 + s * 4 + 4 ≤ image.size) ∧
    (∀ total, (partsOf offset (offset + total)).length ≤ total / blockSize + 2) ∧
    ∀ n m, (fs.read inode offset n).failure = none →
      (fs.read inode (offset + (fs.read inode offset n).bytes.length) m).failure = none →
      fs.read inode offset (n + m) = .done ((fs.read inode offset n).bytes ++
        (fs.read inode (offset + (fs.read inode offset n).bytes.length) m).bytes) := by
  obtain ⟨same, counts⟩ := eq_of_mount mounted
  refine ⟨⟨same, counts⟩, fun buffer => ⟨fs.read_ends inode offset buffer.length,
    fs.read_fills inode offset buffer⟩, fun valid s inside => same ▸ words_le valid inside,
    length_partsOf_le offset, fun n m => read_append⟩

end FileSystem

namespace Sample

/-- The counts of an image with one inode and one data block, and no entries. -/
def tornDirectory : List UInt8 := Bytes.ofWord 0 ++ Bytes.ofWord 1 ++ Bytes.ofWord 1

/-- A file of 5000 bytes whose second block is not there. -/
def tornInode : List UInt8 := Bytes.ofWord 5000 ++ Bytes.ofWord 0 ++ Bytes.ofWord 9

def tornBlocks : List (List UInt8) := [tornDirectory, tornInode, []]

def tornFiles : FileSystem where
  image := ofBlocks tornBlocks
  entryCount := 0
  inodeCount := 1
  blockCount := 1
  entries_le := Nat.zero_le _
  blocks_le := by
    rw [size_ofBlocks]
    decide

theorem wordAt_tornDirectory {offset : Nat} (fits : offset + 4 ≤ tornDirectory.length) :
    Bytes.wordAt tornFiles.image offset = Bytes.toNat ((tornDirectory.drop offset).take 4) := by
  have found := slice_ofBlocks (show tornBlocks[0]? = some tornDirectory from rfl) (by decide)
    offset 4 fits
  rw [Nat.zero_mul, Nat.zero_add] at found
  exact congrArg Bytes.toNat found

theorem wordAt_tornInode {offset : Nat} (fits : offset + 4 ≤ tornInode.length) :
    Bytes.wordAt tornFiles.image (blockSize + offset) =
      Bytes.toNat ((tornInode.drop offset).take 4) := by
  have found := slice_ofBlocks (show tornBlocks[1]? = some tornInode from rfl) (by decide)
    offset 4 fits
  rw [Nat.one_mul] at found
  exact congrArg Bytes.toNat found

theorem mount_torn : FileSystem.mount tornFiles.image = .ok tornFiles := by
  have size : tornFiles.image.size = 3 * blockSize := size_ofBlocks tornBlocks
  have entries : Bytes.wordAt tornFiles.image 0 = 0 := wordAt_tornDirectory (by decide)
  have inodes : Bytes.wordAt tornFiles.image 4 = 1 := wordAt_tornDirectory (by decide)
  have blocks : Bytes.wordAt tornFiles.image 8 = 1 := wordAt_tornDirectory (by decide)
  rw [FileSystem.mount, if_neg (by rw [size]; decide)]
  simp only [entries, inodes, blocks, size]
  rfl

end Sample

/-- The file's second block is missing, and a read that reaches it fails for that. -/
theorem FileSystem.reads_arbitrary_torn :
    FileSystem.mount Sample.tornFiles.image = .ok Sample.tornFiles ∧
      (Sample.tornFiles.read 0 4094 10).count = .error .badDataBlock := by
  refine ⟨Sample.mount_torn, ?_⟩
  have length : Sample.tornFiles.storedLength 0 = 5000 :=
    @Sample.wordAt_tornInode 0 (by decide)
  have block : Sample.tornFiles.storedBlock 0 1 = 9 :=
    @Sample.wordAt_tornInode 8 (by decide)
  have ends := ((reads_arbitrary Sample.mount_torn 0 4094).2.1 (List.replicate 10 0)).1
  rw [length, List.length_replicate] at ends
  have missing : ¬ Sample.tornFiles.Names 0 1 := by
    rintro ⟨-, counted⟩
    rw [block] at counted
    exact absurd counted (by decide)
  obtain ⟨s, ⟨⟨position, _, high, here⟩, _, _⟩, fails⟩ := ends.stops (by decide) (by rw [length]; decide)
    ⟨1, ⟨4096, by decide, by decide, rfl⟩, missing⟩
  have low : s < blocksPerInode := by
    rw [← here]
    exact Nat.lt_of_le_of_lt (Nat.div_le_div_right (Nat.le_of_lt high)) (by decide)
  rw [fails, slotError, if_pos low]

end TerminalKernel
