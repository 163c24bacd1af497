import Mathlib.Data.List.Induction

/-! Logs in which each entry is justified by the entries before it, and what has stood in a
log since an entry set it. -/

namespace Chronicle

variable {α : Type*}

/-- Every entry has its reason in the entries before it. -/
def Justified (reason : List α → α → Prop) (log : List α) : Prop :=
  ∀ earlier a later, log = earlier ++ a :: later → reason earlier a

/-- The entry is in the log and no entry after it takes it back. -/
def Stands (undoes : α → Prop) (a : α) (log : List α) : Prop :=
  ∃ earlier later, log = earlier ++ a :: later ∧ ∀ b ∈ later, ¬ undoes b

variable {reason : List α → α → Prop} {undoes : α → Prop} {log : List α} {a b : α}

theorem justified_nil : Justified reason [] :=
  fun _ _ _ h => absurd h.symm (List.append_ne_nil_of_right_ne_nil _ (List.cons_ne_nil _ _))

/-- An entry of a longer log is an entry of the log before, or the last one. -/
theorem append_singleton_cases {earlier later : List α} (h : log ++ [a] = earlier ++ b :: later) :
    log = earlier ∧ a = b ∧ later = [] ∨
      ∃ before, later = before ++ [a] ∧ log = earlier ++ b :: before := by
  rcases List.eq_nil_or_concat later with rfl | ⟨before, last, rfl⟩
  · obtain ⟨rfl, hlast⟩ := List.append_inj' h rfl
    exact Or.inl ⟨rfl, List.cons.inj hlast |>.1, rfl⟩
  · rw [List.concat_eq_append, ← List.cons_append, ← List.append_assoc] at h
    obtain ⟨hlog, hlast⟩ := List.append_inj' h rfl
    cases hlast
    exact Or.inr ⟨before, List.concat_eq_append, hlog⟩

theorem Justified.snoc (h : Justified reason log) (ha : reason log a) :
    Justified reason (log ++ [a]) := by
  intro earlier b later hsplit
  rcases append_singleton_cases hsplit with ⟨rfl, rfl, -⟩ | ⟨before, -, hlog⟩
  · exact ha
  · exact h earlier b before hlog

theorem stands_new : Stands undoes a (log ++ [a]) := ⟨log, [], rfl, fun _ hb => by cases hb⟩

theorem Stands.snoc (h : Stands undoes a log) (hb : ¬ undoes b) : Stands undoes a (log ++ [b]) := by
  obtain ⟨earlier, later, rfl, hlater⟩ := h
  refine ⟨earlier, later ++ [b], by rw [List.append_assoc, List.cons_append], fun c hc => ?_⟩
  rcases List.mem_append.1 hc with hc | hc
  · exact hlater c hc
  · rw [List.mem_singleton.1 hc]
    exact hb

end Chronicle
