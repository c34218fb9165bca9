import Mathlib.Data.List.Forall2

/-! Lists beside one another, entry by entry, lists by their keys, and lists in the order of their
names. -/

namespace GraphConsole.Sequence

/-- Each of some things has a counterpart, or one of them is the first without. -/
theorem counterparts_or_first (matched : α → β → Prop) (things : List α) :
    (∃ counterparts, List.Forall₂ matched things counterparts) ∨
      ∃ before thing after, things = before ++ thing :: after ∧
        (∀ early ∈ before, ∃ counterpart, matched early counterpart) ∧
        ∀ counterpart, ¬ matched thing counterpart := by
  induction things with
  | nil => exact .inl ⟨[], .nil⟩
  | cons thing rest induction =>
      by_cases here : ∃ counterpart, matched thing counterpart
      · obtain ⟨counterpart, found⟩ := here
        rcases induction with ⟨counterparts, all⟩ | ⟨before, first, after, rfl, early, none⟩
        · exact .inl ⟨counterpart :: counterparts, .cons found all⟩
        · exact .inr ⟨thing :: before, first, after, rfl,
            List.forall_mem_cons.mpr ⟨⟨counterpart, found⟩, early⟩, none⟩
      · exact .inr ⟨[], thing, rest, rfl, nofun, not_exists.mp here⟩

theorem counterpart_of_mem {matched : α → β → Prop} {things : List α} {counterparts : List β}
    (all : List.Forall₂ matched things counterparts) {thing : α} (member : thing ∈ things) :
    ∃ counterpart ∈ counterparts, matched thing counterpart := by
  induction all with
  | nil => cases member
  | cons here _ induction =>
      rcases List.mem_cons.mp member with rfl | later
      · exact ⟨_, List.mem_cons_self, here⟩
      · obtain ⟨counterpart, found, there⟩ := induction later
        exact ⟨counterpart, List.mem_cons_of_mem _ found, there⟩

/-- Two lists tell of some things: both have an entry for each of them, in their order. -/
structure Alike (tells : α → β → γ → Prop) (things : List α) (first : List β) (second : List γ) :
    Prop where
  lengthFirst : first.length = things.length
  lengthSecond : second.length = things.length
  each : ∀ (index : Nat) (thing : α), things[index]? = some thing →
    ∃ one other, first[index]? = some one ∧ second[index]? = some other ∧ tells thing one other

theorem alike_map {tells : α → β → γ → Prop} {first : α → β} {second : α → γ}
    (told : ∀ thing, tells thing (first thing) (second thing)) (things : List α) :
    Alike tells things (things.map first) (things.map second) where
  lengthFirst := List.length_map first
  lengthSecond := List.length_map second
  each := by
    intro index thing found
    refine ⟨first thing, second thing, ?_, ?_, told thing⟩
    · rw [List.getElem?_map, found, Option.map_some]
    · rw [List.getElem?_map, found, Option.map_some]

theorem mem_of_lookup [BEq κ] [LawfulBEq κ] {entries : List (κ × α)} {key : κ} {found : α}
    (looked : entries.lookup key = some found) : (key, found) ∈ entries := by
  obtain ⟨early, late, split, _⟩ := List.lookup_eq_some_iff.mp looked
  rw [split]
  simp

/-- Things of different names that are sorted by them are in strictly increasing order. -/
theorem pairwise_lt_mergeSort (name : α → String) {things : List α}
    (distinct : things.Pairwise fun a b => name a ≠ name b) :
    (things.mergeSort fun a b => decide (name a ≤ name b)).Pairwise fun a b => name a < name b := by
  have sorted : (things.mergeSort fun a b => decide (name a ≤ name b)).Pairwise
      fun a b => decide (name a ≤ name b) = true := by
    apply List.pairwise_mergeSort
    · simpa using fun a b c => String.le_trans
    · simpa using fun a b => String.le_total (name a) (name b)
  have different : (things.mergeSort fun a b => decide (name a ≤ name b)).Pairwise
      fun a b => name a ≠ name b :=
    ((List.mergeSort_perm things _).pairwise_iff Ne.symm).mpr distinct
  refine (sorted.and different).imp ?_
  rintro a b ⟨before, unequal⟩
  refine Classical.byContradiction fun notLess => unequal ?_
  exact String.le_antisymm (of_decide_eq_true before) (String.not_lt.mp notLess)

end GraphConsole.Sequence
