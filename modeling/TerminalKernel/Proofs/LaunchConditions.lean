import TerminalKernel.Proofs.ArbitraryReads
import TerminalKernel.Proofs.Failures
import TerminalKernel.Proofs.LineDelivery

/-!
# When a command starts a program

A command that does not end its caller names a program. Ten things must hold for the program to be
started, and they are looked at in a fixed order: the first that does not hold decides on the error
(`Requirement`). Each is a fact about the image and the process table alone, whatever the image
holds. If all hold, the program's bytes come to lie in the slot of the lowest free number, and the
new process sits at the scheduled terminal (`Launched`).
-/

namespace TerminalKernel

namespace FileSystem

variable {fs : FileSystem} {name : List UInt8} {e : DirectoryEntry} {inode : Nat}

/-! ## Searching the directory -/

/-- The entry with an index can be read and has another name. -/
def Passes (fs : FileSystem) (name : List UInt8) (index : Nat) : Prop :=
  ∃ other, fs.entry index = .ok other ∧ other.name ≠ name

/-- The entry is the first with its name, and all before it can be read. -/
def Finds (fs : FileSystem) (name : List UInt8) (e : DirectoryEntry) : Prop :=
  ∃ i, i < fs.entryCount ∧ fs.entry i = .ok e ∧ e.name = name ∧ ∀ j, j < i → fs.Passes name j

/-- An entry that cannot be read comes before any with the name. Names that are too long to be stored
are not searched for. -/
def Obstructed (fs : FileSystem) (name : List UInt8) : Prop :=
  name.length ≤ fileNameLength ∧ ∃ i, i < fs.entryCount ∧ fs.entry i = .error .corruptImage ∧
    ∀ j, j < i → fs.Passes name j

theorem entry_cases {i : Nat} (inside : i < fs.entryCount) :
    (∃ e, fs.entry i = .ok e ∧ e.name.length ≤ fileNameLength) ∨
      fs.entry i = .error .corruptImage := by
  rw [entry, if_pos inside]
  dsimp only
  split
  · exact .inl ⟨_, rfl, Nat.le_trans (Bytes.length_untilNul_le _) (Bytes.length_slice_le _ _ _)⟩
  · exact .inr rfl

/-- A search ends at the first entry that it does not pass. -/
theorem search_range' (fs : FileSystem) (name : List UInt8) (start count : Nat) :
    ((∀ j, start ≤ j → j < start + count → fs.Passes name j) ∧
      fs.search name (List.range' start count) = .error .notFound) ∨
    ∃ i, start ≤ i ∧ i < start + count ∧ ¬ fs.Passes name i ∧
      (∀ j, start ≤ j → j < i → fs.Passes name j) ∧
      fs.search name (List.range' start count) = fs.entry i := by
  induction count generalizing start with
  | zero => exact .inl ⟨fun j low high => absurd high (Nat.not_lt.mpr low), rfl⟩
  | succ count ih =>
    rw [List.range'_succ, search]
    by_cases here : fs.Passes name start
    · have onward (j : Nat) (low : start ≤ j)
          (later : start + 1 ≤ j → fs.Passes name j) : fs.Passes name j := by
        rcases Nat.eq_or_lt_of_le low with rfl | above
        · exact here
        · exact later above
      obtain ⟨other, read, different⟩ := here
      rw [read]
      dsimp only
      rw [if_neg different]
      rcases ih (start + 1) with ⟨all, result⟩ | ⟨i, low, high, stops, passed, result⟩
      · exact .inl ⟨fun j low high => onward j low fun above => all j above (by omega), result⟩
      · exact .inr ⟨i, by omega, by omega, stops,
          fun j low below => onward j low fun above => passed j above below, result⟩
    · refine .inr ⟨start, Nat.le_refl _, by omega, here,
        fun j low high => absurd high (Nat.not_lt.mpr low), ?_⟩
      cases read : fs.entry start with
      | error cause => rfl
      | ok e =>
        have named : e.name = name := by
          by_contra different
          exact here ⟨e, read, different⟩
        exact if_pos named

theorem Passes.ne {i : Nat} (passes : fs.Passes name i) (read : fs.entry i = .ok e) :
    e.name ≠ name := by
  obtain ⟨other, found, different⟩ := passes
  rw [read] at found
  cases found
  exact different

theorem Passes.readable {i : Nat} {cause : FileError} (passes : fs.Passes name i) :
    fs.entry i ≠ .error cause := by
  obtain ⟨other, found, _⟩ := passes
  rw [found]
  simp

theorem Finds.unique {e' : DirectoryEntry} (finds : fs.Finds name e) (finds' : fs.Finds name e') :
    e = e' := by
  obtain ⟨i, _, read, named, before⟩ := finds
  obtain ⟨i', _, read', named', before'⟩ := finds'
  rcases Nat.lt_trichotomy i i' with first | rfl | first
  · exact absurd named ((before' i first).ne read)
  · rw [read] at read'
    exact Except.ok.inj read'
  · exact absurd named' ((before i' first).ne read')

theorem Finds.not_obstructed (finds : fs.Finds name e) : ¬ fs.Obstructed name := by
  rintro ⟨_, i', _, unreadable, before'⟩
  obtain ⟨i, _, read, named, before⟩ := finds
  rcases Nat.lt_trichotomy i i' with first | rfl | first
  · exact absurd named ((before' i first).ne read)
  · rw [read] at unreadable
    cases unreadable
  · exact (before i' first).readable unreadable

/-- A name is found, or its search is obstructed, or neither. -/
theorem lookup_cases (fs : FileSystem) (named : name ≠ []) :
    (∃ e, fs.Finds name e ∧ fs.lookup name = .ok e) ∨
    (fs.Obstructed name ∧ fs.lookup name = .error .corruptImage) ∨
    (∀ e, ¬ fs.Finds name e) ∧ ¬ fs.Obstructed name ∧ fs.lookup name = .error .notFound := by
  have some : name.isEmpty ≠ true := fun empty => named (List.isEmpty_iff.mp empty)
  rw [lookup]
  by_cases long : fileNameLength < name.length
  · rw [if_pos (.inr long)]
    refine .inr (.inr ⟨?_, fun obstructed => Nat.not_le.mpr long obstructed.1, rfl⟩)
    rintro e ⟨i, inside, read, rfl, _⟩
    rcases fs.entry_cases inside with ⟨e', read', short⟩ | unreadable
    · rw [read] at read'
      cases read'
      exact Nat.not_le.mpr long short
    · rw [read] at unreadable
      cases unreadable
  · rw [if_neg (not_or.mpr ⟨some, long⟩), List.range_eq_range']
    rcases fs.search_range' name 0 fs.entryCount with
      ⟨all, result⟩ | ⟨i, _, inside, stops, passed, result⟩
    · have passes (i : Nat) (inside : i < fs.entryCount) : fs.Passes name i :=
        all i (Nat.zero_le i) (by omega)
      refine .inr (.inr ⟨?_, ?_, result⟩)
      · rintro e ⟨i, inside, read, named, _⟩
        exact (passes i inside).ne read named
      · rintro ⟨_, i, inside, unreadable, _⟩
        exact (passes i inside).readable unreadable
    · rw [Nat.zero_add] at inside
      have before (j : Nat) (below : j < i) : fs.Passes name j := passed j (Nat.zero_le j) below
      rcases fs.entry_cases inside with ⟨e, read, _⟩ | unreadable
      · refine .inl ⟨e, ⟨i, inside, read, ?_, before⟩, result.trans read⟩
        by_contra different
        exact stops ⟨e, read, different⟩
      · exact .inr (.inl ⟨⟨Nat.not_lt.mp long, i, inside, unreadable, before⟩,
          result.trans unreadable⟩)

/-! ## Programs -/

/-- The first bytes of a file are those of a program. -/
def Marked (fs : FileSystem) (inode : Nat) : Prop :=
  ∀ i, i < programMagic.length → fs.image[fs.place inode i]? = programMagic[i]?

instance (fs : FileSystem) (inode : Nat) : Decidable (fs.Marked inode) :=
  inferInstanceAs (Decidable (∀ i, i < _ → _))

theorem fileLength_of_lt (valid : inode < fs.inodeCount) :
    fs.fileLength inode = .ok (fs.storedLength inode) := by
  rw [fileLength, inodeStart_of_lt valid]
  rfl

/-- A read from a file's start touches the slots that begin before its end. -/
theorem touches_zero {total slot : Nat} : Touches 0 total slot ↔ slot * blockSize < total := by
  constructor
  · rintro ⟨position, _, inside, rfl⟩
    have start := Nat.div_mul_le_self position blockSize
    omega
  · intro inside
    exact ⟨slot * blockSize, Nat.zero_le _, by omega, Nat.mul_div_cancel slot (by decide)⟩

theorem toSyscall_slotError (slot : Nat) : (slotError slot).toSyscall = .invalidArgument := by
  unfold slotError
  split <;> rfl

/-- A read from the start of a file delivers what the buffer has room for, or else some slot names no
block. -/
theorem read_start {room : Nat} (valid : inode < fs.inodeCount)
    (fits : room ≤ fs.storedLength inode) :
    (∃ bytes, (∀ s, s * blockSize < room → fs.Names inode s) ∧
      fs.read inode 0 room = ⟨bytes, none⟩ ∧ bytes.length = room ∧ fs.Copied inode 0 bytes) ∨
    ∃ cause, (¬ ∀ s, s * blockSize < room → fs.Names inode s) ∧
      (fs.read inode 0 room).failure = some cause ∧ cause.toSyscall = .invalidArgument := by
  have total : min room (fs.storedLength inode - 0) = room := Nat.min_eq_left fits
  rcases fs.read_cases inode 0 room with ⟨invalid, _⟩ | ⟨_, past, _⟩ |
    ⟨_, _, copied, ⟨names, whole, length⟩ | ⟨s, first, stopped, _⟩⟩
  · exact absurd valid invalid
  · exact absurd past (Nat.not_lt_zero _)
  · rw [total] at names length
    generalize fs.read inode 0 room = delivery at copied whole length ⊢
    obtain ⟨bytes, failure⟩ := delivery
    obtain rfl := whole
    exact .inl ⟨bytes, fun s inside => names s (touches_zero.mpr inside), rfl, length, copied⟩
  · rw [total] at first
    exact .inr ⟨slotError s, fun names => first.bad (names s (touches_zero.mp first.touched)),
      stopped, toSyscall_slotError s⟩

theorem place_add {first i : Nat} (inside : first + i < blockSize) :
    fs.place inode (first + i) = fs.place inode first + i := by
  have here : first < blockSize := Nat.lt_of_le_of_lt (Nat.le_add_right _ _) inside
  unfold place
  rw [Nat.div_eq_of_lt inside, Nat.div_eq_of_lt here, Nat.mod_eq_of_lt inside,
    Nat.mod_eq_of_lt here]
  exact (Nat.add_assoc _ _ _).symm

theorem take_eq_magic_iff {bytes : List UInt8} (length : bytes.length = programHeaderSize)
    (copied : fs.Copied inode 0 bytes) :
    bytes.take programMagic.length = programMagic ↔ fs.Marked inode := by
  have few : programMagic.length ≤ bytes.length := by
    rw [length]
    decide
  have same (i : Nat) (inside : i < programMagic.length) :
      (bytes.take programMagic.length)[i]? = fs.image[fs.place inode i]? := by
    have here := (copied i (Nat.lt_of_lt_of_le inside few)).2
    rw [Nat.zero_add] at here
    rw [List.getElem?_take_of_lt inside, here]
  constructor
  · intro magic i inside
    rw [← same i inside, magic]
  · intro marked
    refine List.ext_getElem? fun i => ?_
    by_cases inside : i < programMagic.length
    · rw [same i inside, marked i inside]
    · rw [List.getElem?_eq_none (Nat.not_lt.mp inside), List.getElem?_eq_none]
      exact Nat.le_trans (List.length_take_le _ _) (Nat.not_lt.mp inside)

/-- The entry point is a word of the file's first block. -/
theorem toNat_entry {bytes : List UInt8} (length : bytes.length = programHeaderSize)
    (copied : fs.Copied inode 0 bytes) :
    Bytes.toNat (bytes.drop entryPointOffset) =
      Bytes.wordAt fs.image (fs.place inode entryPointOffset) := by
  refine congrArg Bytes.toNat (List.ext_getElem? fun i => ?_)
  by_cases inside : i < 4
  · have header : entryPointOffset + i < programHeaderSize := Nat.add_lt_add_left inside _
    have here := (copied (entryPointOffset + i) (length.symm ▸ header)).2
    rw [Nat.zero_add, place_add (Nat.lt_trans header (by decide))] at here
    rw [List.getElem?_drop, here, Bytes.getElem?_slice _ _ inside]
  · have short : (bytes.drop entryPointOffset).length ≤ i := by
      rw [List.length_drop, length]
      exact Nat.not_lt.mp inside
    rw [List.getElem?_eq_none short, List.getElem?_eq_none]
    exact Nat.le_trans (Bytes.length_slice_le _ _ _) (Nat.not_lt.mp inside)

theorem findProgram_of_lookup {cause : FileError} (named : name ≠ [])
    (missing : fs.lookup name = .error cause) :
    fs.findProgram name = .error cause.toSyscall := by
  rw [findProgram, if_neg (fun empty => named (List.isEmpty_iff.mp empty)), missing]

/-- Whether an entry names a program, without the reads that find it out. -/
theorem findProgram_of_finds (named : name ≠ []) (finds : fs.Finds name e) :
    fs.findProgram name =
      if e.fileType ≠ .regular then .error .notExecutable
      else if ¬ e.inode < fs.inodeCount then .error .invalidArgument
      else if fs.storedLength e.inode < programHeaderSize ∨
          maxProgramLength < fs.storedLength e.inode then .error .notExecutable
      else if ¬ fs.Names e.inode 0 then .error .invalidArgument
      else if ¬ fs.Marked e.inode then .error .notExecutable
      else .ok ⟨e.inode, fs.storedLength e.inode,
        Bytes.wordAt fs.image (fs.place e.inode entryPointOffset)⟩ := by
  have found : fs.lookup name = .ok e := by
    rcases fs.lookup_cases named with ⟨e', finds', found⟩ | ⟨obstructed, _⟩ | ⟨none, _⟩
    · rw [found, finds.unique finds']
    · exact absurd obstructed finds.not_obstructed
    · exact absurd finds (none e)
  rw [findProgram, if_neg (fun empty => named (List.isEmpty_iff.mp empty)), found]
  dsimp only
  split
  · rfl
  · by_cases valid : e.inode < fs.inodeCount
    · rw [fileLength_of_lt valid, if_neg (not_not_intro valid)]
      dsimp only
      split
      · rfl
      · rename_i sized
        rw [not_or, Nat.not_lt] at sized
        have first : (∀ s, s * blockSize < programHeaderSize → fs.Names e.inode s) ↔
            fs.Names e.inode 0 := by
          refine ⟨fun names => names 0 (by decide), fun names s inside => ?_⟩
          obtain rfl : s = 0 := by
            simp only [blockSize, programHeaderSize] at inside
            omega
          exact names
        rcases read_start valid sized.1 with
          ⟨header, names, read, length, copied⟩ | ⟨cause, names, failed, reported⟩
        · rw [first] at names
          rw [read, if_neg (not_not_intro names)]
          dsimp only
          rw [toNat_entry length copied]
          by_cases marked : fs.Marked e.inode
          · rw [if_neg (not_not_intro ((take_eq_magic_iff length copied).mpr marked)),
              if_neg (not_not_intro marked)]
          · rw [if_pos (mt (take_eq_magic_iff length copied).mp marked), if_pos marked]
        · rw [first] at names
          rw [failed, if_pos names]
          dsimp only
          rw [reported]
    · have invalid : fs.fileLength e.inode = .error .badInode := by
        rw [fileLength, inodeStart, if_neg valid]
        rfl
      rw [invalid, if_pos valid]
      rfl

end FileSystem

/-! ## Requirements -/

/-- What a program needs to be started. -/
inductive Requirement
  /-- The name is not empty. -/
  | named
  /-- No unreadable entry stops the search for the name. -/
  | readable
  /-- There is an entry with the name. -/
  | listed
  /-- The entry is that of a regular file. -/
  | regular
  /-- Its inode exists. -/
  | stored
  /-- The file has room for a header and fits into a slot behind the load address. -/
  | sized
  /-- Its first block exists. -/
  | headed
  /-- It starts like a program. -/
  | marked
  /-- A process number is left. -/
  | numbered
  /-- All blocks of the file exist. -/
  | whole
  deriving DecidableEq

namespace Requirement

/-- The place of a requirement in the order in which they are looked at. -/
def rank : Requirement → Nat
  | named => 0
  | readable => 1
  | listed => 2
  | regular => 3
  | stored => 4
  | sized => 5
  | headed => 6
  | marked => 7
  | numbered => 8
  | whole => 9

/-- What a command is told for whose program a requirement is not met. -/
def error : Requirement → SyscallError
  | listed => .notFound
  | regular | sized | marked => .notExecutable
  | numbered => .resourceExhausted
  | named | readable | stored | headed | whole => .invalidArgument

theorem rank_injective {p q : Requirement} (same : p.rank = q.rank) : p = q := by
  cases p <;> cases q <;> first | rfl | exact absurd same (by decide)

theorem rank_lt (q : Requirement) : q.rank < whole.rank + 1 := by
  cases q <;> decide

end Requirement

namespace Kernel

variable {k k' : Kernel} {t : TerminalId} {name args : List UInt8} {q : Requirement}

/-- A requirement is met for the program with a name. -/
def Meets (k : Kernel) (name : List UInt8) : Requirement → Prop
  | .named => name ≠ []
  | .readable => ¬ k.files.Obstructed name
  | .listed => ∃ e, k.files.Finds name e
  | .regular => ∀ e, k.files.Finds name e → e.fileType = .regular
  | .stored => ∀ e, k.files.Finds name e → e.inode < k.files.inodeCount
  | .sized => ∀ e, k.files.Finds name e → programHeaderSize ≤ k.files.storedLength e.inode ∧
      k.files.storedLength e.inode ≤ maxProgramLength
  | .headed => ∀ e, k.files.Finds name e → k.files.Names e.inode 0
  | .marked => ∀ e, k.files.Finds name e → k.files.Marked e.inode
  | .numbered => k.processes.liveCount < maxProcesses
  | .whole => ∀ e, k.files.Finds name e →
      ∀ s, s * blockSize < k.files.storedLength e.inode → k.files.Names e.inode s

/-- The first requirement that is not met. -/
structure FirstUnmet (k : Kernel) (name : List UInt8) (q : Requirement) : Prop where
  unmet : ¬ k.Meets name q
  earlier : ∀ p, p.rank < q.rank → k.Meets name p

theorem FirstUnmet.unique {q' : Requirement} (first : k.FirstUnmet name q)
    (first' : k.FirstUnmet name q') : q = q' := by
  rcases Nat.lt_trichotomy q.rank q'.rank with before | same | before
  · exact absurd (first'.earlier q before) first.unmet
  · exact Requirement.rank_injective same
  · exact absurd (first.earlier q' before) first'.unmet

/-- What is met up to a requirement that is met too. -/
theorem meets_through (earlier : ∀ p, p.rank < q.rank → k.Meets name p) (here : k.Meets name q)
    (p : Requirement) (low : p.rank < q.rank + 1) : k.Meets name p := by
  rcases Nat.lt_or_eq_of_le (Nat.le_of_lt_succ low) with below | same
  · exact earlier p below
  · rw [Requirement.rank_injective same]
    exact here

/-- What the entry with a name is asked for. -/
theorem forall_finds_iff {e : DirectoryEntry} (finds : k.files.Finds name e)
    {holds : DirectoryEntry → Prop} : (∀ e', k.files.Finds name e' → holds e') ↔ holds e :=
  ⟨fun all => all e finds, fun here _ finds' => finds.unique finds' ▸ here⟩

/-- A program is found if the requirements up to its first bytes are met, and otherwise the first
that is not decides. -/
theorem findProgram_cases (k : Kernel) (name : List UInt8) :
    (∃ e, k.files.Finds name e ∧
      (∀ p : Requirement, p.rank < Requirement.numbered.rank → k.Meets name p) ∧
      k.files.findProgram name = .ok ⟨e.inode, k.files.storedLength e.inode,
        Bytes.wordAt k.files.image (k.files.place e.inode entryPointOffset)⟩) ∨
    ∃ q, k.FirstUnmet name q ∧ k.files.findProgram name = .error q.error := by
  have start : ∀ p : Requirement, p.rank < Requirement.named.rank → k.Meets name p :=
    fun p below => absurd below (Nat.not_lt_zero _)
  by_cases named : name ≠ []
  swap
  · refine .inr ⟨.named, ⟨named, start⟩, ?_⟩
    rw [FileSystem.findProgram, if_pos (List.isEmpty_iff.mpr (not_not.mp named))]
    rfl
  have upTo := meets_through start named
  rcases k.files.lookup_cases named with
    ⟨e, finds, _⟩ | ⟨obstructed, missing⟩ | ⟨unlisted, readable, missing⟩
  swap
  · exact .inr ⟨.readable, ⟨not_not_intro obstructed, upTo⟩,
      FileSystem.findProgram_of_lookup named missing⟩
  swap
  · have upTo := meets_through (q := .readable) upTo readable
    exact .inr ⟨.listed, ⟨not_exists.mpr unlisted, upTo⟩,
      FileSystem.findProgram_of_lookup named missing⟩
  have upTo := meets_through (q := .readable) upTo finds.not_obstructed
  have upTo := meets_through (q := .listed) upTo ⟨e, finds⟩
  rw [FileSystem.findProgram_of_finds named finds]
  by_cases regular : e.fileType = .regular
  swap
  · exact .inr ⟨.regular, ⟨mt (forall_finds_iff finds).mp regular, upTo⟩, if_pos regular⟩
  have upTo := meets_through (q := .regular) upTo ((forall_finds_iff finds).mpr regular)
  rw [if_neg (not_not_intro regular)]
  by_cases stored : e.inode < k.files.inodeCount
  swap
  · exact .inr ⟨.stored, ⟨mt (forall_finds_iff finds).mp stored, upTo⟩, if_pos stored⟩
  have upTo := meets_through (q := .stored) upTo ((forall_finds_iff finds).mpr stored)
  rw [if_neg (not_not_intro stored)]
  by_cases sized : programHeaderSize ≤ k.files.storedLength e.inode ∧
      k.files.storedLength e.inode ≤ maxProgramLength
  swap
  · refine .inr ⟨.sized, ⟨mt (forall_finds_iff finds).mp sized, upTo⟩, if_pos ?_⟩
    rwa [not_and_or, Nat.not_le, Nat.not_le] at sized
  have upTo := meets_through (q := .sized) upTo ((forall_finds_iff finds).mpr sized)
  rw [if_neg (not_or.mpr ⟨Nat.not_lt.mpr sized.1, Nat.not_lt.mpr sized.2⟩)]
  by_cases headed : k.files.Names e.inode 0
  swap
  · exact .inr ⟨.headed, ⟨mt (forall_finds_iff finds).mp headed, upTo⟩, if_pos headed⟩
  have upTo := meets_through (q := .headed) upTo ((forall_finds_iff finds).mpr headed)
  rw [if_neg (not_not_intro headed)]
  by_cases marked : k.files.Marked e.inode
  swap
  · exact .inr ⟨.marked, ⟨mt (forall_finds_iff finds).mp marked, upTo⟩, if_pos marked⟩
  have upTo := meets_through (q := .marked) upTo ((forall_finds_iff finds).mpr marked)
  exact .inl ⟨e, finds, upTo, if_neg (not_not_intro marked)⟩

/-- A program can be started if all requirements are met, and otherwise the first that is not
decides. -/
theorem spawn_outcome (k : Kernel) (t : TerminalId) (name args : List UInt8)
    (save : Option TerminalId) :
    (∃ e pid, k.files.Finds name e ∧ (∀ p, k.Meets name p) ∧ k.Startable name
      ⟨e.inode, k.files.storedLength e.inode,
        Bytes.wordAt k.files.image (k.files.place e.inode entryPointOffset)⟩ pid) ∨
    ∃ q, k.FirstUnmet name q ∧ (k.spawn t name args save).2 = .error q.error := by
  rw [spawn]
  rcases k.findProgram_cases name with ⟨e, finds, upTo, found⟩ | ⟨q, first, failed⟩
  swap
  · rw [failed]
    exact .inr ⟨q, first, rfl⟩
  rw [found]
  dsimp only
  by_cases numbered : k.processes.liveCount < maxProcesses
  swap
  · rw [if_pos (Nat.not_lt.mp numbered)]
    exact .inr ⟨.numbered, ⟨numbered, upTo⟩, rfl⟩
  rw [if_neg (Nat.not_le.mpr numbered)]
  have upTo := meets_through (q := .numbered) upTo numbered
  have stored : e.inode < k.files.inodeCount := upTo .stored (by decide) e finds
  obtain ⟨pid, free⟩ := exists_free?_of_liveCount numbered
  rcases FileSystem.read_start stored (Nat.le_refl _) with
    ⟨bytes, names, read, _, _⟩ | ⟨cause, names, failed, reported⟩
  · have upTo := meets_through (q := .whole) upTo ((forall_finds_iff finds).mpr names)
    refine .inl ⟨e, pid, finds, fun p => upTo p p.rank_lt, found, free, ?_⟩
    rw [read]
  · refine .inr ⟨.whole, ⟨mt (forall_finds_iff finds).mp names, upTo⟩, ?_⟩
    rcases k.load_cases t ⟨e.inode, k.files.storedLength e.inode,
        Bytes.wordAt k.files.image (k.files.place e.inode entryPointOffset)⟩ args save with
      ⟨none, _⟩ | ⟨_, _, _, failed', loads⟩ | ⟨_, _, whole, _⟩
    · rw [free] at none
      cases none
    · rw [failed] at failed'
      cases failed'
      rw [loads]
      exact congrArg Except.error reported
    · rw [failed] at whole
      cases whole

/-! ## What a launch leaves -/

/-- From one kernel to the other the program in the file of an inode was started on a terminal. -/
structure Launched (k : Kernel) (t : TerminalId) (args : List UInt8) (inode : Nat) (k' : Kernel)
    (l : Launch) : Prop where
  /-- The number is the lowest that is free. -/
  valid : l.pid < maxProcesses
  free : k.processes.process? l.pid = none
  least : ∀ q, q < l.pid → k.processes.isLive q = true
  /-- The file lies in the number's slot, from the load address on. -/
  fits : programLoadOffset + k.files.storedLength inode ≤ programSlotSize
  contents : ∀ i, i < k.files.storedLength inode →
    some (k'.physicalByte (programSlot l.pid + programLoadOffset + i)) =
      k.files.image[k.files.place inode i]?
  /-- All other memory is as it was. -/
  kept : ∀ address, (address < programSlot l.pid + programLoadOffset ∨
    programSlot l.pid + programLoadOffset + k.files.storedLength inode ≤ address) →
    k'.physicalByte address = k.physicalByte address
  entry : l.entry = Bytes.wordAt k.files.image (k.files.place inode entryPointOffset)
  stack : l.userStack = userStackTop
  /-- The flow that gave the command waits for the process to end. -/
  save : l.save = .parent l.pid
  /-- The process stands above the owner of its terminal, or on its own. -/
  record : k'.processes.process? l.pid = some (.new l.pid
    (if (k.session t).processCount = 0 then l.pid else (k.session t).owner.getD l.pid) t args)
  others : ∀ q, q ≠ l.pid → k'.processes.process? q = k.processes.process? q
  session : k'.session t = { k.session t with
    processCount := (k.session t).processCount + 1, owner := some l.pid, active := true }
  sessions : ∀ u, u ≠ t → k'.session u = k.session u
  /-- The processor has the kernel stack and the window of the process. -/
  kernelStack : k'.kernelStack = some (k.processes.arena.stackTop l.pid)
  window : ∀ offset, offset < programSlotSize →
    k'.userAddress? (programWindow + offset) = some (programSlot l.pid + offset)
  scheduled : k'.scheduled = k.scheduled
  console : k'.console = k.console
  files : k'.files = k.files

theorem lt_free? {processes : ProcessTable TerminalId} {pid q : ProcessId}
    (free : processes.free? = some pid) (lower : q < pid) : processes.isLive q = true := by
  have taken := (List.find?_range_eq_some.mp free).2.2 q lower
  simpa using taken

theorem physicalByte_congr {address : Nat} (console : k'.console = k.console)
    (memory : k'.memory.byteAt address = k.memory.byteAt address) :
    k'.physicalByte address = k.physicalByte address := by
  unfold physicalByte
  rw [console, memory]

theorem userAddress?_enter (k : Kernel) (pid : ProcessId) {offset : Nat}
    (inside : offset < programSlotSize) :
    (k.enter pid).userAddress? (programWindow + offset) = some (programSlot pid + offset) := by
  have window := k.roster_enter pid
  have mapped : (k.enter pid).roster.window = Roster.slotWindow pid := congrArg Roster.window window
  obtain ⟨lower, upper⟩ := Prod.mk.inj mapped
  rw [userAddress?, AddressSpace.resolve_programWindow lower upper inside]
  rfl

theorem session_begin (k : Kernel) (t u : TerminalId) (pid : ProcessId) :
    (k.begin t pid).session u =
      if t = u then
        { k.session t with
          processCount := (k.session t).processCount + 1, owner := some pid, active := true }
      else k.session u :=
  session_setSession k t u _

theorem launched_of_startable {e : DirectoryEntry} {entry : Nat} {pid : ProcessId}
    (stored : e.inode < k.files.inodeCount)
    (fits : k.files.storedLength e.inode ≤ maxProgramLength)
    (entries : entry = Bytes.wordAt k.files.image (k.files.place e.inode entryPointOffset))
    (startable : k.Startable name ⟨e.inode, k.files.storedLength e.inode, entry⟩ pid)
    (t : TerminalId) (args : List UInt8) :
    ∃ l, (k.spawn t name args none).2 = .ok l ∧
      k.Launched t args e.inode (k.spawn t name args none).1 l := by
  obtain ⟨valid, free⟩ := ProcessTable.free?_spec startable.room
  have memory := memory_spawn startable t args none
  have console := (spawn_launches startable t args none).2.2
  obtain ⟨bytes, _, read, length, copied⟩ | ⟨_, _, failed, _⟩ :=
    FileSystem.read_start stored (Nat.le_refl _)
  swap
  · have whole := startable.reads
    rw [failed] at whole
    cases whole
  rw [read] at memory
  have high : programSlotBase ≤ programSlot pid := le_programSlot pid
  have byteAt := k.memory.byteAt_write (programSlot pid + programLoadOffset) bytes
  rw [← memory, length] at byteAt
  obtain ⟨_, _, _, _, _, loaded⟩ := k.onlyDevices_withProgram _ pid
  rw [spawn_eq startable, loaded] at console byteAt ⊢
  refine ⟨_, rfl, ?_⟩
  refine {
    valid, free, console, entry := entries, fits := ?_, contents := fun i inside => ?_
    least := fun q => lt_free? startable.room, stack := rfl, save := rfl
    kept := fun address outside => ?_, record := ?_, others := fun q other => ?_
    session := ?_, sessions := fun u other => ?_, kernelStack := rfl
    window := fun offset => userAddress?_enter _ pid, scheduled := rfl, files := rfl }
  · simp only [maxProgramLength, programSlotSize, programLoadOffset] at fits ⊢
    omega
  · have here := (copied i (length.symm ▸ inside)).2
    rw [Nat.zero_add] at here
    dsimp only
    rw [physicalByte_slot _ (by omega), byteAt, if_pos (by omega), ← here,
      Nat.add_sub_cancel_left, List.getD_eq_getElem?_getD,
      List.getElem?_eq_getElem (length.symm ▸ inside)]
    rfl
  · dsimp only at outside
    refine physicalByte_congr console ?_
    rw [byteAt, if_neg (by omega)]
  · change (k.processes.insert pid _).process? pid = _
    rw [ProcessTable.process?_insert, if_pos ⟨rfl, valid⟩, parentFor]
    split <;> rfl
  · change (k.processes.insert pid _).process? q = _
    rw [ProcessTable.process?_insert, if_neg fun same => other same.1.symm]
  · exact (session_begin _ t t pid).trans (if_pos rfl)
  · exact (session_begin _ t u pid).trans (if_neg (Ne.symm other))

/-- A command that names a program starts it exactly if all requirements are met. If not, one is the
first that is not met, and the command fails with its error. What is started is the file that the
name finds, on the terminal that is scheduled. -/
theorem launch_conditions (k : Kernel) {line : List UInt8}
    (starts : (Command.parse line).name ≠ Command.exitName) :
    ((∃ l, (k.execute line).2 = .ok (.launch l)) ↔ ∀ q, k.Meets (Command.parse line).name q) ∧
    ((∃ q, ¬ k.Meets (Command.parse line).name q) →
      ∃ q, k.FirstUnmet (Command.parse line).name q) ∧
    (∀ q, k.FirstUnmet (Command.parse line).name q → (k.execute line).2 = .error q.error) ∧
    ∀ l, (k.execute line).2 = .ok (.launch l) →
      ∃ e, k.files.Finds (Command.parse line).name e ∧
        k.Launched k.scheduled (Command.parse line).args e.inode (k.execute line).1 l := by
  rw [execute, if_neg starts]
  generalize (Command.parse line).name = name, (Command.parse line).args = args
  rcases k.spawn_outcome k.scheduled name args none with
    ⟨e, pid, finds, met, startable⟩ | ⟨q, first, failed⟩
  · obtain ⟨l, launches, launched⟩ := launched_of_startable (met .stored e finds)
      (met .sized e finds).2 rfl startable k.scheduled args
    generalize k.spawn k.scheduled name args none = spawned at launches launched ⊢
    obtain ⟨k', result⟩ := spawned
    obtain rfl := launches
    refine ⟨iff_of_true ⟨l, rfl⟩ met, fun some => absurd met (not_forall.mpr some),
      fun q first => absurd (met q) first.unmet, fun l' same => ⟨e, finds, ?_⟩⟩
    cases same
    exact launched
  · generalize k.spawn k.scheduled name args none = spawned at failed ⊢
    obtain ⟨k', result⟩ := spawned
    obtain rfl := failed
    refine ⟨iff_of_false ?_ fun met => first.unmet (met q), fun _ => ⟨q, first⟩,
      fun q' first' => ?_, fun _ launches => by cases launches⟩
    · rintro ⟨_, launches⟩
      cases launches
    · rw [first'.unique first]
      rfl

theorem execute_of_startable {line : List UInt8} {file : ProgramFile} {pid : ProcessId}
    (starts : (Command.parse line).name ≠ Command.exitName)
    (ready : k.Startable (Command.parse line).name file pid) :
    (k.execute line).2 = .ok (.launch ⟨pid, file.entry, userStackTop, .parent pid⟩) := by
  have launches := (spawn_launches ready k.scheduled (Command.parse line).args none).1
  rw [execute, if_neg starts]
  generalize k.spawn k.scheduled (Command.parse line).name (Command.parse line).args none = spawned
    at launches ⊢
  obtain ⟨k', result⟩ := spawned
  obtain rfl := launches
  rfl

end Kernel

namespace Sample

/-- A command of the first shell that starts another one. -/
def nesting : List UInt8 := ascii "shell -x"

theorem parse_nesting : Command.parse nesting = ⟨shellName, ascii "-x"⟩ := by decide

theorem starts_nesting : (Command.parse nesting).name ≠ Command.exitName := by
  rw [parse_nesting]
  decide

theorem execute_nesting : ((played [.start]).2.execute nesting).2 =
    .ok (.launch ⟨1, shell.entry, userStackTop, .parent 1⟩) := by
  have begins : Action.Begins [.start] := ⟨by decide, trivial⟩
  have files := (run_played begins).fixed.1
  have room : (played [.start]).2.processes.free? = some 1 := by
    rw [Kernel.free?_eq_roster, roster_started]
    decide +kernel
  have ready : (played [.start]).2.Startable (Command.parse nesting).name shell 1 := by
    rw [parse_nesting]
    exact startable files room
  exact Kernel.execute_of_startable starts_nesting ready

end Sample

/-- The second shell meets all requirements. -/
theorem Kernel.launch_conditions_nesting :
    (Command.parse Sample.nesting).name ≠ Command.exitName ∧
      (∀ q, (Sample.played [.start]).2.Meets (Command.parse Sample.nesting).name q) ∧
      ∃ e, (Sample.played [.start]).2.Launched (Sample.played [.start]).2.scheduled
        (Command.parse Sample.nesting).args e ((Sample.played [.start]).2.execute Sample.nesting).1
        ⟨1, Sample.shell.entry, userStackTop, .parent 1⟩ := by
  obtain ⟨succeeds, _, _, launched⟩ :=
    launch_conditions (Sample.played [.start]).2 Sample.starts_nesting
  obtain ⟨e, _, fresh⟩ := launched _ Sample.execute_nesting
  exact ⟨Sample.starts_nesting, succeeds.mp ⟨_, Sample.execute_nesting⟩, e.inode, fresh⟩

end TerminalKernel
