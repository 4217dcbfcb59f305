namespace Connexive.Assoc

/-! Pairs kept in the order in which their keys first came, with what an update does to the values
that are found, to the keys, and to an earlier update.
-/

variable {κ α : Type} [DecidableEq κ] {key other : κ} {pairs : List (κ × α)}

/-- The pairs with `value` under `key`. A key that is there keeps its place, and a new one comes
last. -/
def put (key : κ) (value : α) : List (κ × α) → List (κ × α)
  | [] => [(key, value)]
  | (first, stored) :: rest =>
    if first = key then (first, value) :: rest else (first, stored) :: put key value rest

theorem lookup_cons (first sought : κ) (stored : α) (rest : List (κ × α)) :
    ((first, stored) :: rest).lookup sought =
      if sought = first then some stored else rest.lookup sought := by
  rw [List.lookup_cons]
  by_cases same : sought = first
  · rw [if_pos same, beq_iff_eq.mpr same]
  · rw [if_neg same, beq_false_of_ne same]

theorem lookup_put (key sought : κ) (value : α) (pairs : List (κ × α)) :
    (put key value pairs).lookup sought =
      if sought = key then some value else pairs.lookup sought := by
  induction pairs with
  | nil => exact lookup_cons key sought value []
  | cons pair rest restIH =>
      obtain ⟨first, stored⟩ := pair
      rw [put]
      split
      · next same =>
          subst same
          rw [lookup_cons, lookup_cons]
          split <;> rfl
      · next different =>
          rw [lookup_cons, lookup_cons, restIH]
          by_cases here : sought = first
          · have away : sought ≠ key := fun same => different (here.symm.trans same)
            rw [if_pos here, if_neg away, if_pos here]
          · rw [if_neg here, if_neg here]

theorem keys_put (key : κ) (value : α) (pairs : List (κ × α)) :
    (put key value pairs).map Prod.fst =
      if key ∈ pairs.map Prod.fst then pairs.map Prod.fst else pairs.map Prod.fst ++ [key] := by
  induction pairs with
  | nil => rfl
  | cons pair rest restIH =>
      obtain ⟨first, stored⟩ := pair
      rw [put]
      split
      · next same => simp [same]
      · next different =>
          rw [List.map_cons, restIH]
          by_cases later : key ∈ rest.map Prod.fst
          · simp [later]
          · simp [later, Ne.symm different]

theorem nodup_keys_put (nodup : (pairs.map Prod.fst).Nodup) (key : κ) (value : α) :
    ((put key value pairs).map Prod.fst).Nodup := by
  rw [keys_put]
  split
  · exact nodup
  · next fresh =>
      refine List.nodup_append.mpr ⟨nodup, by simp, ?_⟩
      intro earlier member last here
      rw [List.mem_singleton] at here
      exact fun same => fresh (here ▸ same ▸ member)

theorem put_put (key : κ) (value earlier : α) (pairs : List (κ × α)) :
    put key value (put key earlier pairs) = put key value pairs := by
  induction pairs with
  | nil => rw [put, put, put, if_pos rfl]
  | cons pair rest restIH =>
      obtain ⟨first, stored⟩ := pair
      by_cases here : first = key
      · rw [put, if_pos here, put, if_pos here, put, if_pos here]
      · rw [put, if_neg here, put, if_neg here, put, if_neg here, restIH]

theorem put_comm (apart : key ≠ other) (value otherValue : α) (pairs : List (κ × α)) :
    (put key value (put other otherValue pairs)).Perm
      (put other otherValue (put key value pairs)) := by
  induction pairs with
  | nil =>
      simp only [put, apart, apart.symm, if_false]
      exact .swap ..
  | cons pair rest restIH =>
      obtain ⟨first, stored⟩ := pair
      by_cases here : first = key
      · have away : first ≠ other := fun same => apart (here.symm.trans same)
        simp only [put, here, apart, if_true, if_false]
        rfl
      · by_cases there : first = other
        · simp only [put, there, apart.symm, if_true, if_false]
          rfl
        · simp only [put, here, there, if_false]
          exact restIH.cons _

end Connexive.Assoc
