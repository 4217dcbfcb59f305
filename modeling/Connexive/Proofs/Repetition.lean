import Mathlib.Data.List.Induction
import Mathlib.Data.List.Nodup

namespace Connexive

/-! Lists without their repetitions: of equal items only the first stays. -/

variable {α : Type} [DecidableEq α] {items : List α} {item : α}

theorem eraseDups_concat_of_mem (known : item ∈ items) :
    (items ++ [item]).eraseDups = items.eraseDups := by
  rw [List.eraseDups_append, List.cons_removeAll, List.nil_removeAll]
  simp [known]

theorem eraseDups_concat_of_notMem (fresh : item ∉ items) :
    (items ++ [item]).eraseDups = items.eraseDups ++ [item] := by
  rw [List.eraseDups_append, List.cons_removeAll, List.nil_removeAll]
  simp [fresh, List.eraseDups_cons]

theorem nodup_eraseDups (items : List α) : items.eraseDups.Nodup := by
  induction items using List.reverseRecOn with
  | nil => exact List.nodup_nil
  | append_singleton before item beforeIH =>
      by_cases known : item ∈ before
      · rw [eraseDups_concat_of_mem known]
        exact beforeIH
      · rw [eraseDups_concat_of_notMem known, ← List.concat_eq_append]
        exact List.Nodup.concat (fun member => known (List.mem_eraseDups.mp member)) beforeIH

theorem eraseDups_of_nodup (nodup : items.Nodup) : items.eraseDups = items := by
  induction items using List.reverseRecOn with
  | nil => rfl
  | append_singleton before item beforeIH =>
      obtain ⟨nodupBefore, _, apart⟩ := List.nodup_append.mp nodup
      have fresh : item ∉ before := fun member => apart item member item (by simp) rfl
      rw [eraseDups_concat_of_notMem fresh, beforeIH nodupBefore]

theorem filter_eraseDups (keep : α → Bool) (items : List α) :
    items.eraseDups.filter keep = (items.filter keep).eraseDups := by
  induction items using List.reverseRecOn with
  | nil => rfl
  | append_singleton before item beforeIH =>
      rw [List.filter_append]
      by_cases kept : keep item = true
      · have single : [item].filter keep = [item] := by simp [kept]
        rw [single]
        by_cases known : item ∈ before
        · have stillKnown : item ∈ before.filter keep := List.mem_filter.mpr ⟨known, kept⟩
          rw [eraseDups_concat_of_mem known, eraseDups_concat_of_mem stillKnown, beforeIH]
        · have stillFresh : item ∉ before.filter keep := fun member =>
            known (List.mem_filter.mp member).1
          rw [eraseDups_concat_of_notMem known, eraseDups_concat_of_notMem stillFresh,
            List.filter_append, beforeIH, single]
      · have dropped : [item].filter keep = [] := by simp [kept]
        rw [dropped, List.append_nil, ← beforeIH]
        by_cases known : item ∈ before
        · rw [eraseDups_concat_of_mem known]
        · rw [eraseDups_concat_of_notMem known, List.filter_append, dropped, List.append_nil]

theorem eraseDups_append_eraseDups (first second : List α) :
    (first ++ second.eraseDups).eraseDups = (first ++ second).eraseDups := by
  rw [List.eraseDups_append, List.eraseDups_append, List.removeAll, List.removeAll,
    filter_eraseDups, eraseDups_of_nodup (nodup_eraseDups _)]

end Connexive
