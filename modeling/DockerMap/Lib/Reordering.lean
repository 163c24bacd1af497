import Mathlib.Data.List.Forall2
import Mathlib.Data.List.Perm.Basic

/-! Lists that hold the same elements in another order, each element up to a relation. -/

namespace Reordering

variable {α β γ : Type*} {R : α → β → Prop} {l : List α} {l' : List β}

def Reordered (R : α → β → Prop) (l : List α) (l' : List β) : Prop :=
  ∃ middle, l.Perm middle ∧ List.Forall₂ R middle l'

theorem Reordered.of_perm {R : α → α → Prop} (hR : ∀ a, R a a) {l l' : List α}
    (h : l.Perm l') : Reordered R l l' :=
  ⟨l', h, List.forall₂_same.2 fun a _ => hR a⟩

theorem forall₂_exists_iff {P : α → Prop} {Q : β → Prop} (hPQ : ∀ a b, R a b → (P a ↔ Q b))
    (h : List.Forall₂ R l l') : (∃ a ∈ l, P a) ↔ ∃ b ∈ l', Q b := by
  induction h with
  | nil => simp
  | cons hab _ ih => simp only [List.mem_cons, exists_eq_or_imp, hPQ _ _ hab, ih]

theorem Reordered.exists_iff {P : α → Prop} {Q : β → Prop} (h : Reordered R l l')
    (hPQ : ∀ a b, R a b → (P a ↔ Q b)) : (∃ a ∈ l, P a) ↔ ∃ b ∈ l', Q b := by
  obtain ⟨middle, hperm, hrel⟩ := h
  rw [← forall₂_exists_iff hPQ hrel]
  simp only [hperm.mem_iff]

theorem Reordered.forall_iff {P : α → Prop} {Q : β → Prop} (h : Reordered R l l')
    (hPQ : ∀ a b, R a b → (P a ↔ Q b)) : (∀ a ∈ l, P a) ↔ ∀ b ∈ l', Q b := by
  have hnot := h.exists_iff (P := fun a => ¬ P a) (Q := fun b => ¬ Q b)
    fun a b hab => not_congr (hPQ a b hab)
  simpa only [not_exists, not_and, not_not] using not_congr hnot

theorem Reordered.countP_eq {p : α → Bool} {q : β → Bool} (h : Reordered R l l')
    (hpq : ∀ a b, R a b → p a = q b) : l.countP p = l'.countP q := by
  obtain ⟨middle, hperm, hrel⟩ := h
  rw [hperm.countP_eq]
  induction hrel generalizing l with
  | nil => rfl
  | @cons a b middle l' hab hrel ih =>
    rw [List.countP_cons, List.countP_cons, hpq a b hab, ih (List.Perm.refl middle)]

theorem Reordered.flatMap_perm {f : α → List γ} {g : β → List γ} (h : Reordered R l l')
    (hfg : ∀ a b, R a b → (f a).Perm (g b)) : (l.flatMap f).Perm (l'.flatMap g) := by
  obtain ⟨middle, hperm, hrel⟩ := h
  refine (hperm.flatMap_right f).trans ?_
  clear hperm
  induction hrel with
  | nil => rfl
  | cons hab _ ih =>
    rw [List.flatMap_cons, List.flatMap_cons]
    exact (hfg _ _ hab).append ih

end Reordering
