import TerminalKernel.Proofs.Holdings

/-!
# Descriptor tables

A process starts with its terminal on the first two descriptors and can neither close nor rebind
them. The others are bound to files or closed (`Run.tabled`). So a process reads lines of its
terminal through descriptor 0 and through no other.
-/

namespace TerminalKernel

/-- A place of the table that opening a file may use holds a file, or it is closed. -/
def Descriptor.Filed (d : Descriptor) : Prop :=
  if d.isOpen then d.binding.isFile = true else d.binding = .closed

namespace Holdings

/-- The terminal is where it was at the start, and files are all there is besides. -/
structure Tabled (o : Holdings) : Prop where
  input : o.descriptor? 0 = some (.unfiled .terminalIn)
  output : o.descriptor? 1 = some (.unfiled .terminalOut)
  filed : ∀ fd d, firstFreeDescriptor ≤ fd → o.files[fd]? = some d → d.Filed

theorem newFiles_closed : ∀ fd : Fin maxOpenFiles, firstFreeDescriptor ≤ fd.val →
    ProcessRecord.newFiles[fd] = .closed := by decide

namespace Tabled

variable {o : Holdings} {fd : Nat} {d : Descriptor}

theorem new (args : List UInt8) : (Holdings.new args).Tabled where
  input := rfl
  output := rfl
  filed fd d high place := by
    obtain ⟨valid, here⟩ := Vector.getElem?_eq_some_iff.mp place
    have closed : d = .closed := here.symm.trans (newFiles_closed ⟨fd, valid⟩ high)
    rw [closed]
    exact rfl

theorem setDescriptor (table : o.Tabled) (high : firstFreeDescriptor ≤ fd) (filed : d.Filed) :
    (o.setDescriptor fd d).Tabled where
  input := by
    rw [descriptor?_setDescriptor_of_ne _ (Nat.ne_of_gt (Nat.lt_of_lt_of_le (by decide) high)),
      table.input]
  output := by
    rw [descriptor?_setDescriptor_of_ne _ (Nat.ne_of_gt (Nat.lt_of_lt_of_le (by decide) high)),
      table.output]
  filed fd' d' high' place := by
    rw [Holdings.setDescriptor, Vector.getElem?_setIfInBounds] at place
    split at place
    · split at place
      · cases place
        exact filed
      · cases place
    · exact table.filed fd' d' high' place

theorem high_of_isFile (table : o.Tabled) (bound : o.descriptor? fd = some d)
    (file : d.binding.isFile = true) : firstFreeDescriptor ≤ fd := by
  by_contra low
  have terminal : fd = 0 ∨ fd = 1 := by
    simp only [firstFreeDescriptor] at low
    omega
  rcases terminal with rfl | rfl
  · rw [table.input] at bound
    cases bound
    cases file
  · rw [table.output] at bound
    cases bound
    cases file

theorem rebinds {files : FileSystem} {p : ProcessRecord TerminalId} {a : Action}
    (table : p.holdings.Tabled) (rebinds : Rebinds files p a fd d) :
    (p.holdings.setDescriptor fd d).Tabled := by
  cases rebinds with
  | @opened name fd e found free =>
    refine table.setDescriptor (Kernel.firstFree_le_of_freeDescriptor? free) ?_
    change (Binding.ofFileType e.fileType).isFile = true
    cases e.fileType <;> rfl
  | closed high _ _ => exact table.setDescriptor high rfl
  | @listed fd room d e bound directory _ =>
    have file : d.binding.isFile = true := by rw [directory]; rfl
    have isOpen : d.isOpen = true := (Option.filter_eq_some_iff.mp bound).2
    refine table.setDescriptor (table.high_of_isFile bound file) ?_
    rw [Descriptor.Filed, if_pos isOpen]
    exact file
  | @advanced fd room d bytes bound regular _ =>
    have file : d.binding.isFile = true := by rw [regular]; rfl
    have isOpen : d.isOpen = true := (Option.filter_eq_some_iff.mp bound).2
    refine table.setDescriptor (table.high_of_isFile bound file) ?_
    rw [Descriptor.Filed, if_pos isOpen]
    exact file

theorem eq_zero_of_terminalIn (table : o.Tabled) (bound : o.descriptor? fd = some d)
    (input : d.binding = .terminalIn) : fd = 0 := by
  by_contra other
  by_cases second : fd = 1
  · subst second
    rw [table.output] at bound
    cases bound
    cases input
  · obtain ⟨place, isOpen⟩ := descriptor?_eq_some.mp bound
    have high : firstFreeDescriptor ≤ fd := by
      simp only [firstFreeDescriptor]
      omega
    have filed := table.filed fd d high place
    rw [Descriptor.Filed, if_pos isOpen, input] at filed
    cases filed

end Tabled

end Holdings

/-- The descriptor table of every process is in order throughout a run. -/
theorem Run.tabled {files : FileSystem} {arena : Arena} {storage : Kernel.Storage}
    {h : List Moment} {k : Kernel} (run : Run (.new files arena storage) h k) {pid : ProcessId}
    {o : Holdings} (live : k.holdings pid = some o) : o.Tabled :=
  run.forall_held Holdings.Tabled.new (fun _ _ _ _ table rebinds => table.rebinds rebinds) pid o live

end TerminalKernel
