import TerminalKernel.Proofs.Isolation

/-!
# Stored bytes

What the kernel copies to an accepted range is what the running program finds there afterwards, and
the rest of the range is as it was (`userBytes_storeUser`). The range may lie on a screen, whose cells
are kept apart from plain memory.
-/

namespace TerminalKernel

theorem Surface.byteAt_setByte (s : Surface) {offset : Nat} (inside : offset < Kernel.surfaceSize)
    (byte : UInt8) (other : Nat) :
    (s.setByte offset byte).byteAt other = if other = offset then byte else s.byteAt other := by
  have cell : offset / 2 < screenCells := by
    simp only [Kernel.surfaceSize, screenCells] at *
    omega
  simp only [byteAt, setByte, Vector.getElem?_setIfInBounds, cell, ↓reduceIte]
  by_cases shared : offset / 2 = other / 2
  · -- The two bytes of a cell are told apart by the parity of their offsets.
    rw [if_pos shared, Option.getD_some, shared]
    have same : other = offset ↔ other % 2 = offset % 2 := by omega
    rcases Nat.mod_two_eq_zero_or_one offset with even | odd <;>
      rcases Nat.mod_two_eq_zero_or_one other with even' | odd' <;> simp [*]
  · have apart : other ≠ offset := by
      rintro rfl
      exact shared rfl
    rw [if_neg shared, if_neg apart]

namespace Kernel

variable {k k' k'' : Kernel} {pid : ProcessId} {address physical count : Nat}
  {offset : Nat} {t : TerminalId} {bytes more : List UInt8}

/-! ## Physical bytes -/

abbrev Shown (address : Nat) : Prop :=
  vgaTextMemory ≤ address ∧ address < vgaTextMemory + surfaceSize

/-- The address belongs to no surface. -/
def Plain (pages : ScreenPages) (address : Nat) : Prop :=
  ¬ Shown address ∧ pageHolder? pages address = none

theorem physicalByte_shown (k : Kernel) (shown : Shown address) :
    k.physicalByte address = k.console.live.byteAt (address - vgaTextMemory) := if_pos shown

theorem physicalByte_page (k : Kernel) (hidden : ¬ Shown address)
    (held : pageHolder? k.console.pages address = some t) :
    k.physicalByte address =
      (k.console.terminal t).page.byteAt (address - k.console.pages.page t) := by
  rw [physicalByte, if_neg hidden, held]

theorem physicalByte_plain (k : Kernel) (plain : Plain k.console.pages address) :
    k.physicalByte address = k.memory.byteAt address := by
  rw [physicalByte, if_neg plain.1, plain.2]

theorem place_cases (pages : ScreenPages) (address : Nat) :
    Shown address ∨ (¬ Shown address ∧ ∃ t, pageHolder? pages address = some t) ∨
      Plain pages address := by
  by_cases shown : Shown address
  · exact .inl shown
  · cases held : pageHolder? pages address with
    | none => exact .inr (.inr ⟨shown, held⟩)
    | some t => exact .inr (.inl ⟨shown, t, rfl⟩)

theorem plain_of_slot (pages : ScreenPages) (high : programSlotBase ≤ address) :
    Plain pages address := by
  have few := surfaceSize_le_pageSize
  have display := pages.le_page .first
  have slots := pages.page_le .first
  refine ⟨by omega, ?_⟩
  cases found : pageHolder? pages address with
  | none => rfl
  | some u =>
    have inside := mem_of_pageHolder? found
    have below := pages.page_le u
    omega

/-- The page of a screen has some bytes beyond its cells. -/
theorem plain_of_tail (c : Console) (t : TerminalId) {offset : Nat} (beyond : surfaceSize ≤ offset)
    (inside : offset < pageSize) : Plain c.pages (c.screenAddress t + offset) := by
  have few := surfaceSize_le_pageSize
  unfold Console.screenAddress
  have unheld (address : Nat)
      (outside : ∀ u, address < c.pages.page u ∨ c.pages.page u + surfaceSize ≤ address) :
      pageHolder? c.pages address = none := by
    cases found : pageHolder? c.pages address with
    | none => rfl
    | some u =>
      have held := mem_of_pageHolder? found
      have apart := outside u
      omega
  by_cases shown : t = c.displayed
  · rw [if_pos shown]
    refine ⟨by omega, unheld _ fun u => ?_⟩
    have above := c.pages.le_page u
    omega
  · rw [if_neg shown]
    refine ⟨page_off_display _ t offset, unheld _ fun u => ?_⟩
    by_cases same : u = t
    · subst same
      omega
    · have apart := c.pages.page_disjoint same
      omega

/-- The kernel with the page of a terminal replaced. -/
def withPage (k : Kernel) (t : TerminalId) (page : Surface) : Kernel :=
  { k with console := k.console.setTerminal t { k.console.terminal t with page } }

theorem setPhysicalByte_shown (k : Kernel) (shown : Shown address) (byte : UInt8) :
    k.setPhysicalByte address byte = { k with console :=
      { k.console with live := k.console.live.setByte (address - vgaTextMemory) byte } } :=
  if_pos shown

theorem setPhysicalByte_page (k : Kernel) (hidden : ¬ Shown address)
    (held : pageHolder? k.console.pages address = some t) (byte : UInt8) :
    k.setPhysicalByte address byte = k.withPage t
      ((k.console.terminal t).page.setByte (address - k.console.pages.page t) byte) := by
  rw [setPhysicalByte, if_neg hidden, held]
  rfl

theorem setPhysicalByte_plain (k : Kernel) (plain : Plain k.console.pages address) (byte : UInt8) :
    k.setPhysicalByte address byte = { k with memory := k.memory.write address [byte] } := by
  rw [setPhysicalByte, if_neg plain.1, plain.2]

/-- Only the display's addresses show what is displayed. -/
theorem physicalByte_withLive (k : Kernel) (live : Surface) (hidden : ¬ Shown address) :
    { k with console := { k.console with live } }.physicalByte address = k.physicalByte address := by
  rw [physicalByte, physicalByte, if_neg hidden, if_neg hidden]
  rfl

theorem physicalByte_withPage_self (k : Kernel) (page : Surface) (hidden : ¬ Shown address)
    (held : pageHolder? k.console.pages address = some t) :
    (k.withPage t page).physicalByte address = page.byteAt (address - k.console.pages.page t) := by
  refine Eq.trans (physicalByte_page _ hidden held) ?_
  rw [withPage, Console.terminal_setTerminal_self]
  rfl

theorem physicalByte_withPage_of_ne (k : Kernel) (page : Surface)
    (unheld : pageHolder? k.console.pages address ≠ some t) :
    (k.withPage t page).physicalByte address = k.physicalByte address := by
  rcases place_cases k.console.pages address with shown | ⟨hidden, u, held⟩ | plain
  · rw [physicalByte_shown _ shown, physicalByte_shown _ shown]
    rfl
  · have other : t ≠ u := fun same => unheld (same ▸ held)
    refine Eq.trans (physicalByte_page _ hidden held) ?_
    rw [k.physicalByte_page hidden held, withPage, Console.terminal_setTerminal, if_neg other]
    rfl
  · exact Eq.trans (physicalByte_plain _ plain) (k.physicalByte_plain plain).symm

theorem physicalByte_withMemory (k : Kernel) {memory : Memory}
    (same : memory.byteAt address = k.memory.byteAt address) :
    { k with memory }.physicalByte address = k.physicalByte address := by
  simp only [physicalByte, same]

theorem physicalByte_setPhysicalByte_self (k : Kernel) (address : Nat) (byte : UInt8) :
    (k.setPhysicalByte address byte).physicalByte address = byte := by
  rcases place_cases k.console.pages address with shown | ⟨hidden, t, held⟩ | plain
  · rw [setPhysicalByte_shown k shown, physicalByte_shown _ shown]
    have inside : address - vgaTextMemory < surfaceSize := by
      obtain ⟨low, high⟩ := shown
      omega
    exact (Surface.byteAt_setByte _ inside _ _).trans (if_pos rfl)
  · have inside : address - k.console.pages.page t < surfaceSize := by
      obtain ⟨low, high⟩ := mem_of_pageHolder? held
      omega
    rw [setPhysicalByte_page k hidden held, physicalByte_withPage_self k _ hidden held]
    exact (Surface.byteAt_setByte _ inside _ _).trans (if_pos rfl)
  · have stored := k.memory.byteAt_write address [byte] address
    rw [if_pos ⟨Nat.le_refl _, Nat.lt_add_one _⟩, Nat.sub_self] at stored
    rw [setPhysicalByte_plain k plain]
    generalize k.memory.write address [byte] = memory at stored
    exact Eq.trans (physicalByte_plain _ plain) stored

theorem physicalByte_setPhysicalByte_of_ne (k : Kernel) (byte : UInt8) {other : Nat}
    (apart : other ≠ address) :
    (k.setPhysicalByte address byte).physicalByte other = k.physicalByte other := by
  rcases place_cases k.console.pages address with shown | ⟨hidden, t, held⟩ | plain
  · rw [setPhysicalByte_shown k shown]
    by_cases shown' : Shown other
    · rw [physicalByte_shown _ shown', physicalByte_shown _ shown']
      obtain ⟨low, high⟩ := shown
      obtain ⟨low', _⟩ := shown'
      exact (Surface.byteAt_setByte _ (by omega) _ _).trans (if_neg (by omega))
    · exact k.physicalByte_withLive _ shown'
  · rw [setPhysicalByte_page k hidden held]
    by_cases same : ¬ Shown other ∧ pageHolder? k.console.pages other = some t
    · obtain ⟨hidden', held'⟩ := same
      rw [physicalByte_withPage_self k _ hidden' held', k.physicalByte_page hidden' held']
      obtain ⟨low, high⟩ := mem_of_pageHolder? held
      obtain ⟨low', _⟩ := mem_of_pageHolder? held'
      exact (Surface.byteAt_setByte _ (by omega) _ _).trans (if_neg (by omega))
    · by_cases shown' : Shown other
      · rw [physicalByte_shown _ shown', physicalByte_shown _ shown']
        rfl
      · exact k.physicalByte_withPage_of_ne _ fun held' => same ⟨shown', held'⟩
  · rw [setPhysicalByte_plain k plain]
    refine k.physicalByte_withMemory (k.memory.byteAt_write_of_outside ?_)
    rw [List.length_singleton]
    omega

/-! ## Placing bytes -/

/-- The bytes stand at consecutive physical addresses. Nothing else changed that can be read there,
and virtual addresses lead where they led. -/
structure Places (k : Kernel) (physical : Nat) (bytes : List UInt8) (k' : Kernel) : Prop where
  inside : ∀ i b, bytes[i]? = some b → k'.physicalByte (physical + i) = b
  outside : ∀ a, a < physical ∨ physical + bytes.length ≤ a → k'.physicalByte a = k.physicalByte a
  space : k'.space = k.space

theorem Places.nil (k : Kernel) (physical : Nat) : Places k physical [] k :=
  ⟨fun i b here => by simp at here, fun _ _ => rfl, rfl⟩

theorem Places.append (first : Places k physical bytes k')
    (second : Places k' (physical + bytes.length) more k'') :
    Places k physical (bytes ++ more) k'' where
  inside i b here := by
    by_cases early : i < bytes.length
    · rw [List.getElem?_append_left early] at here
      rw [second.outside _ (.inl (Nat.add_lt_add_left early _)), first.inside i b here]
    · rw [List.getElem?_append_right (by omega)] at here
      have found := second.inside _ b here
      rwa [Nat.add_assoc, Nat.add_sub_cancel' (by omega)] at found
  outside a away := by
    rw [List.length_append] at away
    rw [second.outside a (by omega), first.outside a (by omega)]
  space := second.space.trans first.space

theorem places_setPhysicalByte (k : Kernel) (physical : Nat) (byte : UInt8) :
    Places k physical [byte] (k.setPhysicalByte physical byte) where
  inside i b here := by
    obtain ⟨rfl, rfl⟩ : i = 0 ∧ byte = b := by simpa [List.getElem?_singleton] using here
    rw [Nat.add_zero, physicalByte_setPhysicalByte_self]
  outside a away := by
    rw [List.length_singleton] at away
    exact k.physicalByte_setPhysicalByte_of_ne byte (by omega)
  space := by
    unfold setPhysicalByte
    split
    · rfl
    · split <;> rfl

/-! ## Copies -/

/-- Consecutive virtual addresses lead to consecutive physical ones. -/
def Maps (k : Kernel) (address physical count : Nat) : Prop :=
  ∀ i < count, k.userAddress? (address + i) = some (physical + i)

theorem userAddress?_congr (space : k'.space = k.space) (address : Nat) :
    k'.userAddress? address = k.userAddress? address := by
  rw [userAddress?, space, userAddress?]

theorem Maps.drop (maps : k.Maps address physical count) {n : Nat} (space : k'.space = k.space) :
    k'.Maps (address + n) (physical + n) (count - n) := by
  intro i inside
  rw [userAddress?_congr space, Nat.add_assoc, Nat.add_assoc]
  exact maps (n + i) (by omega)

theorem Maps.mono (maps : k.Maps address physical count) {fewer : Nat} (le : fewer ≤ count) :
    k.Maps address physical fewer := fun i inside => maps i (Nat.lt_of_lt_of_le inside le)

theorem places_storeBytes (maps : k.Maps address physical bytes.length) :
    Places k physical bytes (k.storeBytes address bytes) := by
  induction bytes generalizing k address physical with
  | nil => exact .nil k physical
  | cons b rest ih =>
    rw [storeBytes, show k.userAddress? address = some physical from maps 0 (by simp)]
    have first := k.places_setPhysicalByte physical b
    exact first.append (ih (maps.drop first.space))

theorem places_storeBlock (maps : k.Maps address physical bytes.length)
    (plain : ∀ i < bytes.length, Plain k.console.pages (physical + i)) :
    Places k physical bytes (k.storeBlock address bytes) := by
  cases bytes with
  | nil => exact .nil k physical
  | cons b rest =>
    rw [storeBlock, if_neg (by simp), show k.userAddress? address = some physical from maps 0 (by simp)]
    dsimp only
    refine ⟨fun i c here => ?_, fun a away => ?_, rfl⟩
    · have within : i < (b :: rest).length := by
        by_contra beyond
        rw [List.getElem?_eq_none (by omega)] at here
        cases here
      have byteAt := k.memory.byteAt_write physical (b :: rest) (physical + i)
      generalize k.memory.write physical (b :: rest) = memory at byteAt
      refine Eq.trans (physicalByte_plain _ (plain i within)) ?_
      rw [byteAt, if_pos (by omega), Nat.add_sub_cancel_left, List.getD_eq_getElem?_getD, here,
        Option.getD_some]
    · simp only [physicalByte, Memory.byteAt_write_of_outside _ away]

/-- In the video window the cells come first and the rest of their page behind them. -/
theorem places_storeVideo
    (maps : k.Maps videoWindow (k.console.screenAddress t) pageSize)
    (fits : offset + bytes.length ≤ pageSize) :
    Places k (k.console.screenAddress t + offset) bytes
      (k.storeUser (videoWindow + offset) bytes) := by
  have whole : k.Maps (videoWindow + offset) (k.console.screenAddress t + offset) bytes.length :=
    (maps.drop rfl).mono (by omega)
  have joined := List.take_append_drop (surfaceSize - offset) bytes
  have counted := List.length_take (i := surfaceSize - offset) (l := bytes)
  have cells : Places k _ _ _ :=
    places_storeBytes (whole.mono (Nat.le_trans (Nat.le_of_eq counted) (Nat.min_le_right _ _)))
  rw [storeUser_video]
  rcases Nat.le_total bytes.length (surfaceSize - offset) with few | many
  · rw [List.take_of_length_le few] at cells ⊢
    rw [List.drop_eq_nil_of_le few]
    exact cells
  · rw [Nat.min_eq_left many] at counted
    have start : offset + (bytes.take (surfaceSize - offset)).length = max offset surfaceSize := by
      omega
    have pages : _ = k.console.pages := congrArg Viewport.pages
      (k.viewport_storeBytes (videoWindow + offset) (bytes.take (surfaceSize - offset)))
    generalize k.storeBytes (videoWindow + offset) (bytes.take (surfaceSize - offset)) = k'
      at cells pages ⊢
    have rest : (bytes.drop (surfaceSize - offset)).length = bytes.length - (surfaceSize - offset) :=
      List.length_drop
    have tail : Places k' (k.console.screenAddress t + max offset surfaceSize)
        (bytes.drop (surfaceSize - offset))
        (k'.storeBlock (videoWindow + max offset surfaceSize) (bytes.drop (surfaceSize - offset))) := by
      refine places_storeBlock ((maps.drop cells.space).mono (by omega)) fun i inside => ?_
      rw [Nat.add_assoc, show k'.console.pages = k.console.pages from pages]
      exact plain_of_tail _ _ (by omega) (by omega)
    rw [← start, ← Nat.add_assoc, ← Nat.add_assoc] at tail
    have both := cells.append tail
    rwa [joined, Nat.add_assoc videoWindow, start] at both

/-- A copy to an accepted range lands where the running program's addresses lead. -/
theorem places_storeUser (serves : k.Serves pid)
    (accepted : k.acceptsRange address count = true) (fits : bytes.length ≤ count) :
    ∃ physical, k.Maps address physical count ∧ Places k physical bytes (k.storeUser address bytes) := by
  rcases (UserMemory.accepts_iff _ _ _).mp accepted with ⟨low, high⟩ | ⟨mapped, low, high⟩
  · obtain ⟨offset, rfl⟩ := Nat.exists_eq_add_of_le low
    have within : offset + count ≤ programSlotSize := by
      simp only [programWindow, programWindowEnd, programSlotSize] at *
      omega
    have maps : k.Maps (programWindow + offset) (programSlot pid + offset) count := by
      intro i inside
      rw [Nat.add_assoc, Nat.add_assoc, userAddress?, AddressSpace.resolve_programWindow
        serves.runs.lower serves.runs.upper (by omega)]
      rfl
    refine ⟨_, maps, ?_⟩
    rw [storeUser_program (by omega)]
    refine places_storeBlock (maps.mono fits) fun i inside => plain_of_slot _ ?_
    have slots := le_programSlot pid
    omega
  · obtain ⟨offset, rfl⟩ := Nat.exists_eq_add_of_le low
    have within : offset + count ≤ pageSize := by
      simp only [videoWindow, videoWindowEnd, pageSize] at *
      omega
    have maps : k.Maps videoWindow (k.console.screenAddress k.scheduled) pageSize := by
      intro i inside
      rw [userAddress?, resolve_of_videoMapped serves.shown mapped inside]
      rfl
    exact ⟨_, (maps.drop rfl).mono (by omega), places_storeVideo maps (by omega)⟩

/-- The program finds what was copied for it, and behind that what it had. -/
theorem userBytes_storeUser (serves : k.Serves pid)
    (accepted : k.acceptsRange address count = true) (fits : bytes.length ≤ count) :
    (k.storeUser address bytes).userBytes address count =
      Bytes.fill (k.userBytes address count) bytes := by
  obtain ⟨physical, maps, places⟩ := places_storeUser serves accepted fits
  have seen (i : Nat) (inside : i < count) :
      (k.storeUser address bytes).userByte (address + i) =
        (k.storeUser address bytes).physicalByte (physical + i) := by
    rw [userByte, userAddress?_congr places.space, maps i inside]
  have had (i : Nat) (inside : i < count) :
      k.userByte (address + i) = k.physicalByte (physical + i) := by
    rw [userByte, maps i inside]
  refine List.ext_getElem ?_ fun i here there => ?_
  · simp only [userBytes, Bytes.fill, List.length_map, List.length_range, List.length_append,
      List.length_drop]
    omega
  · simp only [userBytes, List.length_map, List.length_range] at here
    simp only [userBytes, Bytes.fill, List.getElem_map, List.getElem_range, seen i here]
    by_cases early : i < bytes.length
    · rw [List.getElem_append_left early]
      exact places.inside i _ (List.getElem?_eq_getElem early)
    · rw [List.getElem_append_right (by omega), List.getElem_drop, List.getElem_map,
        List.getElem_range, Nat.add_sub_cancel' (by omega), had i here]
      exact places.outside _ (.inr (by omega))

end Kernel

end TerminalKernel
