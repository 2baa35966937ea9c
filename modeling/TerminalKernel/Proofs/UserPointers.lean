import TerminalKernel.Proofs.VideoWindow

/-!
# User pointers

A program can only hand the kernel memory that is its own: bytes of its slot, and of the page that
shows its terminal's screen. The kernel compares addresses with the bounds of the two windows and
walks no table. What it accepts is mapped nevertheless, since at every moment of a run the program
window shows the slot of the running process and an open video window the screen of its terminal.
-/

namespace TerminalKernel

/-! ## Bounds -/

namespace UserMemory

variable {videoMapped : Bool} {address length : Nat}

/-- A range is accepted with its first byte if it ends in the same window. -/
theorem accepts_of_first (first : accepts videoMapped address 1 = true)
    (inside : address + length ≤ windowEnd address) : accepts videoMapped address length = true := by
  rw [accepts_iff] at first ⊢
  unfold windowEnd at inside
  split at inside
  · rename_i program
    rcases first with ⟨low, _⟩ | ⟨_, high, _⟩
    · exact .inl ⟨low, inside⟩
    · simp only [programWindowEnd, videoWindow] at program high
      omega
  · rename_i program
    rcases first with ⟨_, end_le⟩ | ⟨mapped, high, _⟩
    · simp only [programWindowEnd] at program end_le
      omega
    · exact .inr ⟨mapped, high, inside⟩

/-- The text consists of the bytes from an address on, and ends before the first NUL, after `limit`
bytes or at the window's end. -/
structure TextAt (byteAt : Nat → UInt8) (address limit : Nat) (text : List UInt8) : Prop where
  byte : ∀ i (inside : i < text.length), text[i] = byteAt (address + i) ∧ text[i] ≠ 0
  length_le : text.length ≤ limit
  inside : address + text.length ≤ windowEnd address
  stop : text.length = limit ∨ address + text.length = windowEnd address ∨
    byteAt (address + text.length) = 0

theorem text?_eq_none (byteAt : Nat → UInt8) (limit : Nat)
    (rejected : accepts videoMapped address 1 = false) :
    text? byteAt videoMapped address limit = none := by
  simp only [text?, rejected, Bool.false_eq_true, if_false]

theorem byte_of_getElem? {byteAt : Nat → UInt8} {count i : Nat} {b : UInt8}
    (found : ((List.range count).map fun i => byteAt (address + i))[i]? = some b) :
    b = byteAt (address + i) := by
  have inside := (List.getElem?_eq_some_iff.mp found).1
  rw [List.length_map, List.length_range] at inside
  rw [List.getElem?_map, List.getElem?_range inside, Option.map_some, Option.some_inj] at found
  exact found.symm

theorem le_windowEnd (accepted : accepts videoMapped address 1 = true) :
    address ≤ windowEnd address := by
  rw [accepts_iff] at accepted
  unfold windowEnd
  split
  · omega
  · rcases accepted with ⟨_, end_le⟩ | ⟨_, _, end_le⟩
    · omega
    · omega

theorem exists_textAt (byteAt : Nat → UInt8) (limit : Nat)
    (accepted : accepts videoMapped address 1 = true) :
    ∃ text, text? byteAt videoMapped address limit = some text ∧
      TextAt byteAt address limit text := by
  have room := le_windowEnd accepted
  let whole := (List.range (min limit (windowEnd address - address))).map
    fun i => byteAt (address + i)
  have size : whole.length = min limit (windowEnd address - address) := by
    rw [List.length_map, List.length_range]
  have short := Bytes.length_untilNul_le whole
  refine ⟨Bytes.untilNul whole, ?_, ?_, ?_, ?_, ?_⟩
  · simp only [text?, accepted, if_true, whole]
  · intro i inside
    constructor
    · exact byte_of_getElem? (Bytes.getElem?_of_untilNul inside)
    · exact Bytes.ne_zero_of_mem_untilNul (List.getElem_mem inside)
  · omega
  · omega
  · by_cases full : (Bytes.untilNul whole).length = whole.length
    · omega
    · have nul := Bytes.getElem?_length_untilNul (Nat.lt_of_le_of_ne short full)
      exact .inr (.inr (byte_of_getElem? nul).symm)

end UserMemory

/-! ## Places -/

/-- Where a program sees its own memory: the slot of process `pid` through one window, and the page
at `screen` through the other, each at the same distance from its start. -/
inductive OwnPlace (pid : ProcessId) (screen : Nat) : (address : Nat) → AddressSpace.Place → Prop
  | slot {offset : Nat} (inside : offset < programSlotSize) :
      OwnPlace pid screen (programWindow + offset) ⟨programSlot pid + offset, true, true⟩
  | screen {offset : Nat} (inside : offset < pageSize) :
      OwnPlace pid screen (videoWindow + offset) ⟨screen + offset, true, true⟩

namespace Kernel

/-- The processor finds memory of process `pid` behind an address, or the scheduled terminal's
screen. -/
def ReachesOwn (k : Kernel) (pid : ProcessId) (address : Nat) : Prop :=
  ∃ place, k.space.resolve address = some place ∧
    OwnPlace pid (k.console.screenAddress k.scheduled) address place

variable {k : Kernel} {pid : ProcessId} {address length : Nat}

theorem resolve_of_videoMapped (shown : k.viewport.Closed ∨ k.viewport.Open)
    (mapped : k.videoMapped = true) {offset : Nat} (inside : offset < pageSize) :
    k.space.resolve (videoWindow + offset) =
      some ⟨k.console.screenAddress k.scheduled + offset, true, true⟩ := by
  rcases shown with closed | shown
  · rw [videoMapped_of_closed closed] at mapped
    cases mapped
  · exact AddressSpace.resolve_videoWindow shown.entry shown.leaf inside

theorem reachesOwn_of_accepts (runs : k.Runs k.scheduled pid)
    (shown : k.viewport.Closed ∨ k.viewport.Open)
    (accepted : k.acceptsRange address length = true) {i : Nat} (inside : i < length) :
    k.ReachesOwn pid (address + i) := by
  rcases (UserMemory.accepts_iff _ _ _).mp accepted with ⟨low, high⟩ | ⟨mapped, low, high⟩
  · obtain ⟨offset, same⟩ := Nat.exists_eq_add_of_le (Nat.le_add_right_of_le low : programWindow ≤ address + i)
    have within : offset < programSlotSize := by
      simp only [programWindow, programWindowEnd, programSlotSize] at *
      omega
    rw [same]
    exact ⟨_, AddressSpace.resolve_programWindow runs.lower runs.upper within, .slot within⟩
  · obtain ⟨offset, same⟩ := Nat.exists_eq_add_of_le (Nat.le_add_right_of_le low : videoWindow ≤ address + i)
    have within : offset < pageSize := by
      simp only [videoWindow, videoWindowEnd, pageSize] at *
      omega
    rw [same]
    exact ⟨_, resolve_of_videoMapped shown mapped within, .screen within⟩

end Kernel

namespace Run

variable {files : FileSystem} {arena : Arena} {storage : Kernel.Storage} {h : List Moment}
  {k : Kernel}

/-- In every reachable kernel in which process `pid` runs, each address of an accepted range leads
to memory of that process or to the scheduled terminal's screen, and the range ends within 64 bits.
A text either lies outside the mapped windows and is rejected, or it is read exactly to its end,
from such addresses alone. -/
theorem user_ranges_resolve (run : Run (.new files arena storage) h k) {pid : ProcessId}
    (current : k.currentPid? = some pid) :
    (∀ address length, k.acceptsRange address length = true →
      address + length < UInt64.size ∧ ∀ i < length, k.ReachesOwn pid (address + i)) ∧
    ∀ address limit,
      (k.acceptsRange address 1 = false ∧ k.userText? address limit = none) ∨
        (k.acceptsRange address 1 = true ∧ ∃ text, k.userText? address limit = some text ∧
          UserMemory.TextAt k.userByte address limit text ∧
            ∀ i < text.length, k.ReachesOwn pid (address + i)) := by
  have runs := Kernel.runs_of_owner run.sound (run.currentPid?_eq_owner.symm.trans current)
  have ranges {address length : Nat} (accepted : k.acceptsRange address length = true) :
      ∀ i < length, k.ReachesOwn pid (address + i) := fun _ inside =>
    Kernel.reachesOwn_of_accepts runs run.closed_or_open accepted inside
  refine ⟨fun address length accepted => ⟨UserMemory.lt_of_accepts accepted, ranges accepted⟩,
    fun address limit => ?_⟩
  cases first : k.acceptsRange address 1 with
  | false => exact .inl ⟨rfl, UserMemory.text?_eq_none _ _ first⟩
  | true =>
    obtain ⟨text, found, exact_text⟩ :=
      UserMemory.exists_textAt k.userByte limit first
    have accepted := UserMemory.accepts_of_first first exact_text.inside
    exact .inr ⟨rfl, text, found, exact_text, ranges accepted⟩

end Run

/-- The second of two shells may hand over the last byte of its window. -/
theorem user_ranges_resolve_nested :
    Run Sample.shellKernel (Sample.played [.execute shellName, .start]).1
        (Sample.played [.execute shellName, .start]).2 ∧
      (Sample.played [.execute shellName, .start]).2.currentPid? = some 1 ∧
      (Sample.played [.execute shellName, .start]).2.ReachesOwn 1 0x83FFFFF := by
  have current : (Sample.played [.execute shellName, .start]).2.currentPid? = some 1 :=
    Sample.run_nested.currentPid?_eq_owner.trans (Sample.seat_nested Sample.roster_nested).2
  refine ⟨Sample.run_nested, current, ?_⟩
  have accepted : (Sample.played [.execute shellName, .start]).2.acceptsRange 0x83FFFFF 1 = true := by
    refine (UserMemory.accepts_iff _ _ _).mpr (.inl ?_)
    unfold programWindow programWindowEnd
    omega
  exact ((Run.user_ranges_resolve Sample.run_nested current).1 0x83FFFFF 1 accepted).2 0
    Nat.one_pos

end TerminalKernel
