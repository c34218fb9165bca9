import GraphConsole.Proofs.Text.Cuts
import GraphConsole.Text.CellWidth

/-! Texts in which every character takes room on a page, and what becomes of them where they are
fitted into a number of cells. -/

namespace GraphConsole.Text

/-- No line ends, tabs and controls, no marks and joiners. -/
def Inked (s : List Char) : Prop :=
  ∀ c ∈ s, cellWidth c ≠ 0

instance (s : List Char) : Decidable (Inked s) :=
  List.decidableBAll (fun c => cellWidth c ≠ 0) s

theorem cellWidth_of_control {c : Char} (control : c.toNat < 32) : cellWidth c = 0 := by
  simp [cellWidth, control]

theorem cellWidth_of_isLineEnd {c : Char} (ends : isLineEnd c = true) : cellWidth c = 0 := by
  have exactly {n : Nat} (same : c.toNat = n) : c = Char.ofNat n := by
    rw [← same, Char.ofNat_toNat]
  simp only [isLineEnd, Bool.or_eq_true, Bool.and_eq_true, decide_eq_true_eq, beq_iff_eq] at ends
  obtain (((low | separator) | nextLine) | lineSeparator) | paragraph := ends
  · exact cellWidth_of_control (by omega)
  · exact cellWidth_of_control (by omega)
  · simp [cellWidth, nextLine]
  · rw [exactly lineSeparator]
    decide +kernel
  · rw [exactly paragraph]
    decide +kernel

namespace Inked

variable {s t : List Char}

theorem nil : Inked [] := nofun

theorem append (first : Inked s) (second : Inked t) : Inked (s ++ t) :=
  List.forall_mem_append.mpr ⟨first, second⟩

theorem of_subset (inked : Inked t) (within : s ⊆ t) : Inked s :=
  fun c member => inked c (within member)

theorem unbroken (inked : Inked s) : Unbroken s := by
  intro c member
  by_contra ends
  exact inked c member (cellWidth_of_isLineEnd (by simpa using ends))

theorem notMem_of_control (inked : Inked s) {c : Char} (control : c.toNat < 32) : c ∉ s :=
  fun member => inked c member (cellWidth_of_control control)

theorem eq_nil_of_cells (inked : Inked s) (empty : cells s = 0) : s = [] := by
  cases s with
  | nil => rfl
  | cons c rest =>
      rw [cells_cons, Nat.add_eq_zero_iff] at empty
      exact absurd empty.1 (inked c List.mem_cons_self)

end Inked

theorem cells_replicate (count : Nat) (c : Char) :
    cells (List.replicate count c) = count * cellWidth c := by
  induction count with
  | zero => simp
  | succ count induction =>
      rw [List.replicate_succ, cells_cons, induction, Nat.succ_mul, Nat.add_comm]

theorem cellWidth_blank : cellWidth ' ' = 1 := by decide

theorem cellWidth_ellipsis : cellWidth '…' = 1 := by decide +kernel

theorem inked_blanks (count : Nat) : Inked (List.replicate count ' ') := by
  intro c member
  rw [List.eq_of_mem_replicate member, cellWidth_blank]
  decide

theorem clustersFrom_inked {s : List Char} (inked : Inked s) :
    clustersFrom [] s = s.map fun c => ⟨[c], cellWidth c⟩ := by
  induction s with
  | nil => rfl
  | cons c rest induction =>
      have wide := inked c List.mem_cons_self
      have later := induction fun d member => inked d (List.mem_cons_of_mem c member)
      rw [clustersFrom, if_neg wide, later]
      rfl

theorem clusters_inked {s : List Char} (inked : Inked s) :
    clusters s = s.map fun c => ⟨[c], cellWidth c⟩ := by
  have backward : Inked s.reverse := fun c member => inked c (List.mem_reverse.mp member)
  rw [clusters, clustersFrom_inked backward, List.map_reverse, List.reverse_reverse]

theorem takeClusters_within (room : Nat) (s : List Char) :
    cells (takeClusters room (s.map fun c => ⟨[c], cellWidth c⟩)) ≤ room := by
  induction s generalizing room with
  | nil => exact Nat.zero_le room
  | cons c rest induction =>
      simp only [List.map_cons, takeClusters]
      split
      · exact Nat.zero_le room
      · split
        · have later := induction (room - cellWidth c)
          rw [List.singleton_append, cells_cons]
          omega
        · rw [cells_cons, cells_nil, cellWidth_blank]
          omega

theorem takeClusters_subset (room : Nat) (s : List Char) :
    takeClusters room (s.map fun c => ⟨[c], cellWidth c⟩) ⊆ ' ' :: s := by
  induction s generalizing room with
  | nil => exact List.nil_subset _
  | cons c rest induction =>
      simp only [List.map_cons, takeClusters]
      split
      · exact List.nil_subset _
      · split
        · have later := induction (room - cellWidth c)
          grind
        · simp

theorem fitCells_of_le {room : Nat} {s : List Char} (some_room : room ≠ 0)
    (fits : cells s ≤ room) : fitCells room s = s ++ List.replicate (room - cells s) ' ' := by
  rw [fitCells, if_neg some_room, if_pos fits]

theorem abridge_of_le {room : Nat} {s : List Char} (fits : cells s ≤ room) :
    abridge room s = s :=
  if_pos fits

theorem cells_fitCells_le {room : Nat} {s : List Char} (inked : Inked s) :
    cells (fitCells room s) ≤ room := by
  unfold fitCells
  split
  · exact Nat.zero_le room
  · split
    · next fits =>
      rw [cells_append, cells_replicate, cellWidth_blank]
      omega
    · rw [clusters_inked inked]
      exact takeClusters_within room s

theorem fitCells_cons {room : Nat} {c : Char} {rest : List Char} (inked : Inked (c :: rest))
    (narrow : cellWidth c ≤ room) : ∃ later, fitCells room (c :: rest) = c :: later := by
  have some_room : room ≠ 0 := by
    have wide := inked c List.mem_cons_self
    omega
  rw [fitCells, if_neg some_room]
  split
  · exact ⟨_, rfl⟩
  · rw [clusters_inked inked, List.map_cons, takeClusters, if_neg some_room, if_pos narrow]
    exact ⟨_, rfl⟩

theorem Inked.fitCells {s : List Char} (inked : Inked s) (room : Nat) :
    Inked (fitCells room s) := by
  unfold Text.fitCells
  split
  · exact nil
  · split
    · exact inked.append (inked_blanks _)
    · rw [clusters_inked inked]
      refine of_subset ?_ (takeClusters_subset room s)
      exact (inked_blanks 1).append inked

theorem Inked.abridge {s : List Char} (inked : Inked s) (room : Nat) :
    Inked (abridge room s) := by
  unfold Text.abridge
  split
  · exact inked
  · refine (inked.fitCells (room - 1)).append ?_
    intro c member
    rw [List.mem_singleton.mp member, cellWidth_ellipsis]
    decide

end GraphConsole.Text
