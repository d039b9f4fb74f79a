import Mathlib.Data.List.Induction

/-!
# AlertDesk.Proofs.Split

Histories that grow at their end.  What was said of a place in a history, of
what stands before it or of what stands behind it, is said of a longer history
at the same place, or at the new end.
-/

namespace AlertDesk

variable {β : Type} {l : List β} {last x : β} {P : List β → Prop}

/-- Where an element stands in a longer list with nothing but some others behind
it: at the end, or where it stood before. -/
theorem split_concat_all_iff {skips : β → Bool} :
    (∃ before others, l ++ [last] = before ++ x :: others ∧
        (∀ y ∈ others, skips y = true) ∧ P before) ↔
      (last = x ∧ P l) ∨ (skips last = true ∧
        ∃ before others, l = before ++ x :: others ∧ (∀ y ∈ others, skips y = true) ∧ P before) := by
  constructor
  · rintro ⟨before, others, h, hothers, hP⟩
    obtain rfl | ⟨others, y, rfl⟩ := List.eq_nil_or_concat others
    · obtain ⟨rfl, hlast⟩ := List.append_inj' h rfl
      exact .inl ⟨by simpa using hlast, hP⟩
    · have h' : l ++ [last] = (before ++ x :: others) ++ [y] := by simpa using h
      obtain ⟨rfl, hlast⟩ := List.append_inj' h' rfl
      obtain rfl : last = y := by simpa using hlast
      exact .inr ⟨hothers last (by simp), before, others, rfl,
        fun z hz => hothers z (by simp [hz]), hP⟩
  · rintro (⟨rfl, hP⟩ | ⟨hlast, before, others, rfl, hothers, hP⟩)
    · exact ⟨l, [], rfl, by simp, hP⟩
    · refine ⟨before, others ++ [last], by simp, fun y hy => ?_, hP⟩
      obtain hy | hy := List.mem_append.mp hy
      · exact hothers y hy
      · exact List.mem_singleton.mp hy ▸ hlast

/-- Where an element stands in a longer list: where it stood before, or at the end. -/
theorem split_concat_iff :
    (∃ before after, l ++ [last] = before ++ x :: after ∧ P before) ↔
      (∃ before after, l = before ++ x :: after ∧ P before) ∨ (last = x ∧ P l) := by
  have anything := @split_concat_all_iff β l last x P fun _ => true
  simpa [or_comm] using anything

end AlertDesk
