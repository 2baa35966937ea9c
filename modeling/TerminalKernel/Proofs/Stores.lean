import TerminalKernel.Proofs.UserPointers

/-!
# Stores to user memory

The kernel copies results to addresses that it accepted. Such a copy is made of the same updates as
everything else a call does: the program window takes it to the running process's slot, and the
video window to the cells of its terminal's screen or to the rest of their page.
-/

namespace TerminalKernel.Kernel

variable {k k' : Kernel} {pid : ProcessId} {t : TerminalId} {address offset length : Nat}

/-! ## Cells as memory -/

theorem mem_of_pageHolder? {pages : ScreenPages} (found : pageHolder? pages address = some t) :
    pages.page t ≤ address ∧ address < pages.page t + surfaceSize := by
  have holds := List.find?_some found
  simpa using holds

theorem pageHolder?_page (pages : ScreenPages) (t : TerminalId) (inside : offset < surfaceSize) :
    pageHolder? pages (pages.page t + offset) = some t := by
  cases found : pageHolder? pages (pages.page t + offset) with
  | none =>
    have unheld := List.find?_eq_none.mp found t (TerminalId.mem_all t)
    simp only [Nat.le_add_right, Nat.add_lt_add_iff_left, inside, decide_true, Bool.and_self,
      not_true_eq_false] at unheld
  | some u =>
    obtain ⟨low, high⟩ := mem_of_pageHolder? found
    have few := surfaceSize_le_pageSize
    have same : u = t := by
      by_contra other
      rcases pages.page_disjoint other with below | above
      · omega
      · omega
    rw [same]

theorem page_off_display (pages : ScreenPages) (t : TerminalId) (offset : Nat) :
    ¬ (vgaTextMemory ≤ pages.page t + offset ∧
      pages.page t + offset < vgaTextMemory + surfaceSize) := by
  have above := pages.le_page t
  have few := surfaceSize_le_pageSize
  omega

/-- A byte stored among the cells of a terminal's screen changes what the terminal shows. -/
theorem update_setPhysicalByte (k : Kernel) (pid : ProcessId) (t : TerminalId)
    (inside : offset < surfaceSize) (byte : UInt8) :
    Update pid t k (k.setPhysicalByte (k.console.screenAddress t + offset) byte) := by
  unfold Console.screenAddress
  by_cases shown : t = k.console.displayed
  · have stored : k.setPhysicalByte (vgaTextMemory + offset) byte = { k with
        console := k.console.setScreen t
          ⟨k.console.live.setByte offset byte, (k.console.terminal t).cursor⟩ } := by
      have kept : k.console.setTerminal t { k.console.terminal t with
          cursor := (k.console.terminal t).cursor } = k.console := k.console.setTerminal_self t
      rw [setPhysicalByte, if_pos ⟨Nat.le_add_right _ _, Nat.add_lt_add_left inside _⟩,
        Nat.add_sub_cancel_left, Console.setScreen, if_pos shown]
      simp only [kept]
    rw [if_pos shown, stored]
    exact .screen _
  · have stored : k.setPhysicalByte (k.console.pages.page t + offset) byte = { k with
        console := k.console.setScreen t
          ⟨(k.console.terminal t).page.setByte offset byte, (k.console.terminal t).cursor⟩ } := by
      rw [setPhysicalByte, if_neg (page_off_display _ t offset), pageHolder?_page _ t inside,
        Console.setScreen, if_neg shown]
      simp only [Nat.add_sub_cancel_left]
    rw [if_neg shown, stored]
    exact .screen _

/-! ## What the running program may rely on -/

/-- Process `pid` runs, and both windows are set for it. -/
structure Serves (k : Kernel) (pid : ProcessId) : Prop where
  sound : k.roster.Sound
  owner : (k.roster.seat k.roster.scheduled).owner = some pid
  shown : k.viewport.Closed ∨ k.viewport.Open

theorem Serves.runs (serves : k.Serves pid) : k.Runs k.scheduled pid :=
  runs_of_owner serves.sound serves.owner

theorem Serves.step (serves : k.Serves pid) (roster : k'.roster = k.roster)
    (viewport : k.viewport.Step k'.viewport) : k'.Serves pid where
  sound := roster ▸ serves.sound
  owner := roster ▸ serves.owner
  shown := viewport.closed_or_open serves.shown

theorem acceptsRange_congr (viewport : k'.viewport = k.viewport) (address length : Nat) :
    k'.acceptsRange address length = k.acceptsRange address length := by
  have mapped : k'.videoMapped = k.videoMapped :=
    congrArg (fun v => v.leaf.target.isSome) viewport
  rw [acceptsRange, acceptsRange, mapped]

theorem acceptsRange_of_le {shorter : Nat} (accepted : k.acceptsRange address length = true)
    (le : shorter ≤ length) : k.acceptsRange address shorter = true := by
  rw [acceptsRange, UserMemory.accepts_iff] at *
  refine accepted.imp (fun ⟨low, high⟩ => ⟨low, ?_⟩) fun ⟨mapped, low, high⟩ => ⟨mapped, low, ?_⟩
  · omega
  · omega

/-! ## Stores -/

theorem performs_storeProgram (runs : k.Runs k.scheduled pid) {bytes : List UInt8}
    (inside : offset + bytes.length ≤ programSlotSize) :
    Performs pid t k (k.storeBlock (programWindow + offset) bytes) := by
  cases bytes with
  | nil => exact .refl
  | cons b rest =>
    have first : offset < programSlotSize := by
      rw [List.length_cons] at inside
      omega
    have found : k.userAddress? (programWindow + offset) = some (programSlot pid + offset) := by
      rw [userAddress?, AddressSpace.resolve_programWindow runs.lower runs.upper first]
      rfl
    simp only [storeBlock, List.isEmpty_cons, Bool.false_eq_true, if_false, found]
    exact .single (.slot (.inl rfl) inside)

theorem userAddress?_videoWindow (shown : k.viewport.Open) (inside : offset < pageSize) :
    k.userAddress? (videoWindow + offset) =
      some (k.console.screenAddress k.scheduled + offset) := by
  rw [userAddress?, resolve_of_videoMapped (.inr shown) (videoMapped_of_open shown) inside]
  rfl

theorem performs_storeTail (shown : k.viewport.Open) {bytes : List UInt8}
    (beyond : surfaceSize ≤ offset) (inside : offset + bytes.length ≤ pageSize) :
    Performs pid k.scheduled k (k.storeBlock (videoWindow + offset) bytes) := by
  cases bytes with
  | nil => exact .refl
  | cons b rest =>
    have first : offset < pageSize := by
      rw [List.length_cons] at inside
      omega
    simp only [storeBlock, List.isEmpty_cons, Bool.false_eq_true, if_false,
      userAddress?_videoWindow shown first]
    exact .single (.tail beyond inside)

theorem performs_storeCells (shown : k.viewport.Open) {bytes : List UInt8}
    (inside : offset + bytes.length ≤ surfaceSize) :
    Performs pid k.scheduled k (k.storeBytes (videoWindow + offset) bytes) := by
  induction bytes generalizing k offset with
  | nil => exact .refl
  | cons b rest ih =>
    rw [List.length_cons] at inside
    have cell : offset < surfaceSize := by omega
    unfold storeBytes
    rw [userAddress?_videoWindow shown (Nat.lt_of_lt_of_le cell surfaceSize_le_pageSize)]
    have update := k.update_setPhysicalByte pid k.scheduled cell b
    have same := k.viewport_setPhysicalByte (k.console.screenAddress k.scheduled + offset) b
    have scheduled : (k.setPhysicalByte (k.console.screenAddress k.scheduled + offset) b).scheduled =
        k.scheduled := congrArg Viewport.scheduled same
    have after : offset + 1 + rest.length ≤ surfaceSize := by omega
    have stored := ih (same ▸ shown) after
    rw [scheduled] at stored
    exact .head update stored

theorem storeUser_program {bytes : List UInt8} (high : address + bytes.length ≤ programWindowEnd) :
    k.storeUser address bytes = k.storeBlock address bytes := by
  have whole : bytes.take (programWindowEnd - address) = bytes :=
    List.take_of_length_le (by omega)
  have none : bytes.drop (programWindowEnd - address) = [] :=
    List.drop_eq_nil_of_le (by omega)
  simp only [storeUser, whole, none, List.take_nil, List.drop_nil, storeBytes]
  rfl

theorem storeUser_video (k : Kernel) (offset : Nat) (bytes : List UInt8) :
    k.storeUser (videoWindow + offset) bytes =
      (k.storeBytes (videoWindow + offset) (bytes.take (surfaceSize - offset))).storeBlock
        (videoWindow + max offset surfaceSize) (bytes.drop (surfaceSize - offset)) := by
  have program : programWindowEnd - (videoWindow + offset) = 0 := by
    unfold programWindowEnd videoWindow
    omega
  have start : max (videoWindow + offset) programWindowEnd = videoWindow + offset := by
    unfold programWindowEnd videoWindow
    omega
  have cells : videoCellsEnd - (videoWindow + offset) = surfaceSize - offset :=
    Nat.add_sub_add_left ..
  have tail : max (videoWindow + offset) videoCellsEnd = videoWindow + max offset surfaceSize :=
    Nat.add_max_add_left ..
  simp only [storeUser, program, start, cells, tail, List.take_zero, List.drop_zero]
  rfl

theorem performs_storeVideo (shown : k.viewport.Open) {bytes : List UInt8}
    (inside : offset + bytes.length ≤ pageSize) :
    Performs pid k.scheduled k (k.storeUser (videoWindow + offset) bytes) := by
  have few := surfaceSize_le_pageSize
  rw [storeUser_video]
  have cells : Performs pid k.scheduled k
      (k.storeBytes (videoWindow + offset) (bytes.take (surfaceSize - offset))) := by
    by_cases within : offset ≤ surfaceSize
    · refine performs_storeCells shown ?_
      rw [List.length_take]
      omega
    · rw [Nat.sub_eq_zero_of_le (by omega), List.take_zero]
      exact .refl
  have same := k.viewport_storeBytes (videoWindow + offset) (bytes.take (surfaceSize - offset))
  generalize k.storeBytes (videoWindow + offset) (bytes.take (surfaceSize - offset)) = k' at *
  have scheduled : k'.scheduled = k.scheduled := congrArg Viewport.scheduled same
  have fits : max offset surfaceSize + (bytes.drop (surfaceSize - offset)).length ≤ pageSize := by
    rw [List.length_drop]
    omega
  have tail : Performs pid k'.scheduled k' _ :=
    performs_storeTail (same ▸ shown) (Nat.le_max_right _ _) fits
  rw [scheduled] at tail
  exact cells.trans tail

theorem performs_storeUser (serves : k.Serves pid) {bytes : List UInt8}
    (accepted : k.acceptsRange address bytes.length = true) :
    Performs pid k.scheduled k (k.storeUser address bytes) := by
  rcases (UserMemory.accepts_iff _ _ _).mp accepted with ⟨low, high⟩ | ⟨mapped, low, high⟩
  · obtain ⟨offset, rfl⟩ := Nat.exists_eq_add_of_le low
    rw [storeUser_program high]
    refine performs_storeProgram serves.runs ?_
    simp only [programWindow, programWindowEnd, programSlotSize] at *
    omega
  · obtain ⟨offset, rfl⟩ := Nat.exists_eq_add_of_le low
    rcases serves.shown with closed | shown
    · rw [videoMapped_of_closed closed] at mapped
      cases mapped
    · refine performs_storeVideo shown ?_
      simp only [videoWindow, videoWindowEnd, pageSize] at *
      omega

end TerminalKernel.Kernel
