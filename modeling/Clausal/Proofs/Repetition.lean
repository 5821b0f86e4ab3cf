/-!
# Lists without repetitions

Dropping repetitions keeps each item where it came first.  An item that comes once more at the
end is dropped, and a new one stays there.
-/

namespace Clausal

variable {α : Type} [BEq α] [LawfulBEq α] {items : List α}

theorem eraseDups_concat_of_mem {item : α} (h : item ∈ items) :
    (items ++ [item]).eraseDups = items.eraseDups := by
  have hnone : [item].removeAll items = [] := by simp [List.removeAll, h]
  rw [List.eraseDups_append, hnone, List.eraseDups_nil, List.append_nil]

theorem eraseDups_concat_of_not_mem {item : α} (h : item ∉ items) :
    (items ++ [item]).eraseDups = items.eraseDups ++ [item] := by
  have hkept : [item].removeAll items = [item] := by simp [List.removeAll, h]
  have hsingle : [item].eraseDups = [item] := by simp [List.eraseDups_cons]
  rw [List.eraseDups_append, hkept, hsingle]

theorem eraseDups_of_nodup (h : items.Nodup) : items.eraseDups = items := by
  induction items with
  | nil => exact List.eraseDups_nil
  | cons item rest ih =>
      rw [List.nodup_cons] at h
      have hkept : rest.filter (fun other => !other == item) = rest := by
        refine List.filter_eq_self.mpr fun other hother => ?_
        have hne : other ≠ item := fun heq => h.1 (heq ▸ hother)
        simp [hne]
      rw [List.eraseDups_cons, hkept, ih h.2]

/-- Of the items that come later only the new ones stay. -/
theorem eraseDups_append_of_nodup {more new : List α} (unique : items.Nodup)
    (hnew : more.removeAll items = new) (newUnique : new.Nodup) :
    (items ++ more).eraseDups = items ++ new := by
  rw [List.eraseDups_append, hnew, eraseDups_of_nodup unique, eraseDups_of_nodup newUnique]

end Clausal
