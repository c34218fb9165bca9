/-! Lists of values under keys. A value that is set for a key takes the place of the one before. -/

namespace GraphConsole.Entries

variable {κ : Type u} {α : Type v} [DecidableEq κ]

/-- The entries with `key` set to `value`: in place if there is one for the key, else at the end. -/
def put (key : κ) (value : α) : List (κ × α) → List (κ × α)
  | [] => [(key, value)]
  | (other, old) :: rest =>
      if other = key then (other, value) :: rest else (other, old) :: put key value rest

@[simp] theorem put_nil (key : κ) (value : α) : put key value [] = [(key, value)] := rfl

theorem put_of_notMem (key : κ) (value : α) (entries : List (κ × α))
    (fresh : key ∉ entries.map Prod.fst) : put key value entries = entries ++ [(key, value)] := by
  induction entries with
  | nil => rfl
  | cons entry rest induction =>
      obtain ⟨other, old⟩ := entry
      rw [List.map_cons, List.mem_cons, not_or] at fresh
      rw [put, if_neg (Ne.symm fresh.1), induction fresh.2, List.cons_append]

theorem keys_put (key : κ) (value : α) (entries : List (κ × α)) :
    (put key value entries).map Prod.fst =
      if key ∈ entries.map Prod.fst then entries.map Prod.fst
      else entries.map Prod.fst ++ [key] := by
  induction entries with
  | nil => rfl
  | cons entry rest induction =>
      obtain ⟨other, old⟩ := entry
      rw [put]
      by_cases same : other = key
      · simp [same]
      · rw [if_neg same, List.map_cons, List.map_cons, induction]
        by_cases among : key ∈ rest.map Prod.fst
        · simp [among]
        · simp [among, Ne.symm same]

theorem nodup_put (key : κ) (value : α) {entries : List (κ × α)}
    (distinct : (entries.map Prod.fst).Nodup) :
    ((put key value entries).map Prod.fst).Nodup := by
  rw [keys_put]
  split
  · exact distinct
  · next absent =>
      refine List.nodup_append.mpr ⟨distinct, List.pairwise_singleton _ key, ?_⟩
      rintro other member _ last rfl
      exact absent (List.mem_singleton.mp last ▸ member)

theorem forall_put {P : α → Prop} {entries : List (κ × α)} {value : α} (key : κ)
    (all : ∀ entry ∈ entries, P entry.2) (new : P value) :
    ∀ entry ∈ put key value entries, P entry.2 := by
  induction entries with
  | nil => simpa using new
  | cons entry rest induction =>
      obtain ⟨other, old⟩ := entry
      obtain ⟨first, later⟩ := List.forall_mem_cons.mp all
      rw [put]
      split
      · exact List.forall_mem_cons.mpr ⟨new, later⟩
      · exact List.forall_mem_cons.mpr ⟨first, induction later⟩

variable [BEq κ] [LawfulBEq κ]

theorem lookup_put (key other : κ) (value : α) (entries : List (κ × α)) :
    (put key value entries).lookup other =
      if other = key then some value else entries.lookup other := by
  induction entries with
  | nil =>
      by_cases same : other = key
      · simp [same]
      · simp [List.lookup_cons, same, beq_eq_false_iff_ne.mpr same]
  | cons entry rest induction =>
      obtain ⟨first, old⟩ := entry
      rw [put]
      by_cases here : first = key
      · subst here
        by_cases same : other = first
        · simp [same]
        · simp [List.lookup_cons, same, beq_eq_false_iff_ne.mpr same]
      · rw [if_neg here, List.lookup_cons, List.lookup_cons, induction]
        by_cases found : other = first
        · simp [found, here]
        · simp [beq_eq_false_iff_ne.mpr found]

omit [DecidableEq κ] in
theorem notMem_of_lookup {key : κ} {entries : List (κ × α)}
    (absent : entries.lookup key = none) : key ∉ entries.map Prod.fst := by
  intro member
  obtain ⟨entry, among, rfl⟩ := List.mem_map.mp member
  simpa using List.lookup_eq_none_iff.mp absent entry among

theorem lookup_put_self (key : κ) (value : α) (entries : List (κ × α)) :
    (put key value entries).lookup key = some value := by
  rw [lookup_put, if_pos rfl]

end GraphConsole.Entries
