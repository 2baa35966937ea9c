import TerminalKernel.Proofs.Roster

/-!
# The processes of a terminal

The processes of a terminal form one line: each was started on top of the next, and the last one is
its own parent. Starting a process puts it in front of the line, ending the first one takes it away.
-/

namespace TerminalKernel

/-! ## Lines of parents -/

/-- Following parents from the first process of a list visits the list in its order and ends at a
process that is its own parent. -/
inductive Lineage (parent? : ProcessId → Option ProcessId) : List ProcessId → Prop
  | root {pid : ProcessId} (self : parent? pid = some pid) : Lineage parent? [pid]
  | child {pid parent : ProcessId} {rest : List ProcessId} (link : parent? pid = some parent)
      (other : parent ≠ pid) (above : Lineage parent? (parent :: rest)) :
      Lineage parent? (pid :: parent :: rest)

namespace Lineage

variable {parent? parent?' : ProcessId → Option ProcessId} {line : List ProcessId}

theorem congr (h : Lineage parent? line) (same : ∀ pid ∈ line, parent?' pid = parent? pid) :
    Lineage parent?' line := by
  induction h with
  | root self => exact .root ((same _ List.mem_cons_self).trans self)
  | child link other _ ih =>
    exact .child ((same _ List.mem_cons_self).trans link) other
      (ih fun pid inside => same pid (List.mem_cons_of_mem _ inside))

theorem exists_parent (h : Lineage parent? line) {pid : ProcessId} (inside : pid ∈ line) :
    ∃ parent ∈ line, parent? pid = some parent := by
  induction h with
  | root self =>
    rw [List.mem_singleton] at inside
    exact ⟨_, List.mem_singleton_self _, inside ▸ self⟩
  | @child first parent rest link _ _ ih =>
    rcases List.mem_cons.mp inside with rfl | inside
    · exact ⟨parent, List.mem_cons_of_mem _ List.mem_cons_self, link⟩
    · obtain ⟨parent, member, found⟩ := ih inside
      exact ⟨parent, List.mem_cons_of_mem _ member, found⟩

theorem exists_last (h : Lineage parent? line) :
    ∃ root, line.getLast? = some root ∧ parent? root = some root := by
  induction h with
  | root self => exact ⟨_, rfl, self⟩
  | child _ _ _ ih =>
    obtain ⟨root, last, self⟩ := ih
    refine ⟨root, ?_, self⟩
    rw [List.getLast?_cons_cons]
    exact last

/-- Only the last process of the line is its own parent. -/
theorem getLast?_of_self (h : Lineage parent? line) {pid : ProcessId} (inside : pid ∈ line)
    (self : parent? pid = some pid) : line.getLast? = some pid := by
  induction h with
  | root _ =>
    rw [List.mem_singleton] at inside
    rw [inside]
    rfl
  | child link other _ ih =>
    rw [List.getLast?_cons_cons]
    rcases List.mem_cons.mp inside with rfl | inside
    · rw [link, Option.some_inj] at self
      exact absurd self other
    · exact ih inside

/-- What lies behind the first process. -/
theorem uncons {pid : ProcessId} {rest : List ProcessId} (h : Lineage parent? (pid :: rest)) :
    (rest = [] ∧ parent? pid = some pid) ∨
      ∃ parent more, rest = parent :: more ∧ parent? pid = some parent ∧ parent ≠ pid ∧
        Lineage parent? rest := by
  cases h with
  | root self => exact .inl ⟨rfl, self⟩
  | child link other above => exact .inr ⟨_, _, rfl, link, other, above⟩

end Lineage

namespace Roster

/-! ## Lines of a terminal -/

def parent? (r : Roster) (pid : ProcessId) : Option ProcessId := (r.link? pid).map (·.parent)

/-- The process is live and belongs to the terminal. -/
def On (r : Roster) (t : TerminalId) (pid : ProcessId) : Prop :=
  ∃ l, r.link? pid = some l ∧ l.terminal = t

/-- The line holds the processes of a terminal. -/
structure Lined (r : Roster) (t : TerminalId) (line : List ProcessId) : Prop where
  count : (r.seat t).processCount = line.length
  nodup : line.Nodup
  mem : ∀ pid, pid ∈ line ↔ r.On t pid
  lineage : line ≠ [] → Lineage r.parent? line

/-- The first process of the line runs when the terminal is scheduled. -/
structure Stacked (r : Roster) (t : TerminalId) (line : List ProcessId) : Prop
    extends Lined r t line where
  owner : (r.seat t).owner = line.head?
  active : (r.seat t).active = true ↔ line ≠ []

variable {r r' : Roster} {t u : TerminalId} {line rest : List ProcessId} {pid : ProcessId}

/-- A line depends on the number of its processes and on what ties them to each other. -/
theorem Lined.congr (h : Lined r t line) (count : (r'.seat t).processCount = (r.seat t).processCount)
    (link : ∀ q, r.On t q ∨ r'.On t q → r'.link? q = r.link? q) : Lined r' t line where
  count := count.trans h.count
  nodup := h.nodup
  mem q := by
    rw [h.mem]
    constructor
    · rintro ⟨l, found, here⟩
      exact ⟨l, (link q (.inl ⟨l, found, here⟩)).trans found, here⟩
    · rintro ⟨l, found, here⟩
      exact ⟨l, (link q (.inr ⟨l, found, here⟩)).symm.trans found, here⟩
  lineage some := by
    refine (h.lineage some).congr fun q inside => ?_
    rw [parent?, link q (.inl ((h.mem q).mp inside)), parent?]

theorem Stacked.congr (h : Stacked r t line) (seat : r'.seat t = r.seat t)
    (link : ∀ q, r.On t q ∨ r'.On t q → r'.link? q = r.link? q) : Stacked r' t line where
  toLined := h.toLined.congr (by rw [seat]) link
  owner := by rw [seat, h.owner]
  active := by rw [seat, h.active]

theorem Lined.nil_iff (h : Lined r t line) : (r.seat t).processCount = 0 ↔ line = [] := by
  rw [h.count, List.length_eq_zero_iff]

/-- The process on top of which the next one starts. -/
theorem Lined.parentFor (h : Lined r t line)
    (owner : line ≠ [] → (r.seat t).owner = line.head?) : r.parentFor t = line.head? := by
  unfold Roster.parentFor
  cases line with
  | nil => rw [if_pos (h.nil_iff.mpr rfl)]; rfl
  | cons first rest =>
    rw [if_neg (fun none => List.cons_ne_nil _ _ (h.nil_iff.mp none))]
    exact owner (List.cons_ne_nil _ _)

/-- The first process of the line was started on top of the second, or of none. -/
theorem Lined.parent_eq (h : Lined r t (pid :: rest)) {l : Link} (live : r.link? pid = some l) :
    l.parent = rest.head?.getD pid := by
  have parent : r.parent? pid = some l.parent := by rw [parent?, live, Option.map_some]
  rcases (h.lineage (List.cons_ne_nil _ _)).uncons with
    ⟨rfl, self⟩ | ⟨parent', more, rfl, link, _, _⟩
  · rw [parent, Option.some_inj] at self
    exact self
  · rw [parent, Option.some_inj] at link
    exact link

/-- The two ways of telling that a process is the last of its terminal agree. -/
theorem Lined.last_iff (h : Lined r t (pid :: rest)) {l : Link} (live : r.link? pid = some l) :
    ((r.seat t).processCount - 1 = 0 ∨ l.parent = pid) ↔ rest = [] := by
  have parent := h.parent_eq live
  rw [h.count, List.length_cons, Nat.add_sub_cancel, List.length_eq_zero_iff]
  constructor
  · rintro (none | self)
    · exact none
    · cases rest with
      | nil => rfl
      | cons next more =>
        have next_eq : next = pid := parent.symm.trans self
        have new := (List.nodup_cons.mp h.nodup).1
        exact absurd (next_eq ▸ List.mem_cons_self) new
  · exact .inl

/-! ## Starting and ending the first process -/

theorem On.unique (h : r.On t pid) (h' : r.On u pid) : t = u := by
  obtain ⟨l, found, rfl⟩ := h
  obtain ⟨l', found', rfl⟩ := h'
  rw [found, Option.some_inj] at found'
  rw [found']

theorem not_on_of_free (free : r.link? pid = none) : ¬ r.On t pid := by
  rintro ⟨l, found, _⟩
  rw [free] at found
  cases found

theorem link?_begin (r : Roster) (t : TerminalId) (pid q : ProcessId) :
    (r.begin t pid).link? q =
      if q = pid then some ⟨(r.parentFor t).getD pid, t⟩ else r.link? q :=
  Function.update_apply ..

theorem link?_finish (r : Roster) (t : TerminalId) (pid q : ProcessId) :
    (r.finish pid t).link? q = if q = pid then none else r.link? q :=
  Function.update_apply ..

theorem seat_begin (r : Roster) (t u : TerminalId) (pid : ProcessId) :
    (r.begin t pid).seat u =
      if u = t then ⟨some pid, (r.seat t).processCount + 1, true⟩ else r.seat u :=
  Function.update_apply ..

theorem seat_finish (r : Roster) (t u : TerminalId) (pid : ProcessId) :
    (r.finish pid t).seat u =
      if u = t then { r.seat t with processCount := (r.seat t).processCount - 1 } else r.seat u :=
  Function.update_apply ..

theorem seat_giveBack (r : Roster) (t u : TerminalId) (pid : ProcessId) :
    (r.giveBack t pid).seat u = if u = t then { r.seat t with owner := some pid } else r.seat u :=
  Function.update_apply ..

theorem seat_vacate (r : Roster) (t u : TerminalId) :
    (r.vacate t).seat u =
      if u = t then { r.seat t with active := false, owner := none } else r.seat u :=
  Function.update_apply ..

/-- A new process comes in front of the line. -/
theorem Lined.begin (h : Lined r t line) (owner : line ≠ [] → (r.seat t).owner = line.head?)
    (free : r.link? pid = none) : Stacked (r.begin t pid) t (pid :: line) := by
  have new : pid ∉ line := fun inside => not_on_of_free free ((h.mem pid).mp inside)
  have others : ∀ q ∈ line, (r.begin t pid).parent? q = r.parent? q := by
    intro q inside
    have other : q ≠ pid := fun same => new (same ▸ inside)
    rw [parent?, link?_begin, if_neg other, parent?]
  have first : (r.begin t pid).parent? pid = some (line.head?.getD pid) := by
    rw [parent?, link?_begin, if_pos rfl, h.parentFor owner, Option.map_some]
  refine ⟨⟨?_, List.nodup_cons.mpr ⟨new, h.nodup⟩, ?_, fun _ => ?_⟩, ?_, ?_⟩
  · rw [seat_begin, if_pos rfl, List.length_cons, h.count]
  · intro q
    rw [List.mem_cons, h.mem, On, On, link?_begin]
    by_cases same : q = pid
    · subst same
      simp
    · simp [same]
  · cases line with
    | nil => exact .root first
    | cons parent rest =>
      exact .child first (fun same => new (same ▸ List.mem_cons_self))
        ((h.lineage (List.cons_ne_nil _ _)).congr others)
  · rw [seat_begin, if_pos rfl, List.head?_cons]
  · simp [seat_begin]

theorem Stacked.begin_of_ne (h : Stacked r u line) (other : u ≠ t) (free : r.link? pid = none) :
    Stacked (r.begin t pid) u line := by
  refine h.congr (by rw [seat_begin, if_neg other]) fun q on => ?_
  rw [link?_begin, if_neg]
  rintro rfl
  rcases on with on | on
  · exact not_on_of_free free on
  · obtain ⟨l, found, here⟩ := on
    rw [link?_begin, if_pos rfl, Option.some_inj] at found
    exact other (by rw [← here, ← found])

/-- The end of the first process leaves the line behind it. -/
theorem Lined.finish (h : Lined r t (pid :: rest)) : Lined (r.finish pid t) t rest := by
  obtain ⟨gone, nodup⟩ := List.nodup_cons.mp h.nodup
  refine ⟨?_, nodup, fun q => ?_, fun some => ?_⟩
  · rw [seat_finish, if_pos rfl]
    change (r.seat t).processCount - 1 = rest.length
    rw [h.count, List.length_cons, Nat.add_sub_cancel]
  · have member := h.mem q
    rw [List.mem_cons] at member
    rw [On, link?_finish]
    by_cases same : q = pid
    · subst same
      simp [gone]
    · simpa [same, On] using member
  · rcases (h.lineage (List.cons_ne_nil _ _)).uncons with ⟨none, _⟩ | ⟨_, _, _, _, _, above⟩
    · exact absurd none some
    · refine above.congr fun q inside => ?_
      have other : q ≠ pid := fun same => gone (same ▸ inside)
      rw [parent?, link?_finish, if_neg other, parent?]

theorem Stacked.finish_of_ne (h : Stacked r u line) (other : u ≠ t) (on : r.On t pid) :
    Stacked (r.finish pid t) u line := by
  refine h.congr (by rw [seat_finish, if_neg other]) fun q here => ?_
  rw [link?_finish, if_neg]
  rintro rfl
  rcases here with here | ⟨l, found, _⟩
  · exact other (here.unique on)
  · rw [link?_finish, if_pos rfl] at found
    cases found

theorem Lined.giveBack (h : Lined r t (pid :: rest)) (active : (r.seat t).active = true) :
    Stacked (r.giveBack t pid) t (pid :: rest) where
  toLined := h.congr (by rw [seat_giveBack, if_pos rfl]) fun _ _ => rfl
  owner := by rw [seat_giveBack, if_pos rfl, List.head?_cons]
  active := by
    rw [seat_giveBack, if_pos rfl]
    exact iff_of_true active (List.cons_ne_nil _ _)

theorem Stacked.giveBack_of_ne (h : Stacked r u line) (other : u ≠ t) :
    Stacked (r.giveBack t pid) u line :=
  h.congr (by rw [seat_giveBack, if_neg other]) fun _ _ => rfl

/-- A terminal without processes can go out of use. -/
theorem Lined.vacate (h : Lined r t []) : Stacked (r.vacate t) t [] where
  toLined := h.congr (by rw [seat_vacate, if_pos rfl]) fun _ _ => rfl
  owner := by rw [seat_vacate, if_pos rfl, List.head?_nil]
  active := by simp [seat_vacate]

theorem Stacked.vacate_of_ne (h : Stacked r u line) (other : u ≠ t) :
    Stacked (r.vacate t) u line :=
  h.congr (by rw [seat_vacate, if_neg other]) fun _ _ => rfl

end Roster

end TerminalKernel
