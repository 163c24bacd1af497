import Mathlib.Data.List.Induction
import Mathlib.Order.Basic

/-! Runs of a deterministic transition system with labelled, partial steps. A run may
be restricted to steps that meet a condition on the state before them. -/

namespace Runs

variable {σ ε : Type*} (step : σ → ε → Option σ)

/-- The state after the events, when every one of them is enabled in its turn and meets
the condition. -/
def run (ok : σ → ε → Prop) [∀ s e, Decidable (ok s e)] : σ → List ε → Option σ
  | s, [] => some s
  | s, e :: es => if ok s e then (step s e).bind fun s' => run ok s' es else none

/-- A run whose every step is enabled and meets the condition. -/
inductive Steps (ok : σ → ε → Prop) (s : σ) : List ε → σ → Prop
  | nil : Steps ok s [] s
  | snoc {s' s'' : σ} {es : List ε} {e : ε} :
      Steps ok s es s' → ok s' e → step s' e = some s'' → Steps ok s (es ++ [e]) s''

/-- The condition that every enabled step meets. -/
def anyStep : σ → ε → Prop := fun _ _ => True

instance (s : σ) (e : ε) : Decidable (anyStep s e) := inferInstanceAs (Decidable True)

variable {step} {ok ok' : σ → ε → Prop} {s s' s'' : σ} {es es' : List ε} {e : ε}

namespace Steps

theorem append (h : Steps step ok s es s') (h' : Steps step ok s' es' s'') :
    Steps step ok s (es ++ es') s'' := by
  induction h' with
  | nil => simpa using h
  | snoc hrun hok hstep ih =>
    rw [← List.append_assoc]
    exact ih.snoc hok hstep

theorem cons (hok : ok s e) (hstep : step s e = some s') (h : Steps step ok s' es s'') :
    Steps step ok s (e :: es) s'' :=
  append (snoc nil hok hstep) h

theorem split (h : Steps step ok s (es ++ es') s'') :
    ∃ s', Steps step ok s es s' ∧ Steps step ok s' es' s'' := by
  induction es' using List.reverseRecOn generalizing s'' with
  | nil => exact ⟨s'', by simpa using h, nil⟩
  | append_singleton es' e ih =>
    rw [← List.append_assoc] at h
    generalize hes : es ++ es' ++ [e] = all at h
    cases h with
    | nil => simp at hes
    | @snoc mid _ init last hrun hok hstep =>
      obtain ⟨rfl, he⟩ := List.append_inj' hes rfl
      cases he
      obtain ⟨s', hfirst, hrest⟩ := ih hrun
      exact ⟨s', hfirst, hrest.snoc hok hstep⟩

theorem mono (himp : ∀ s e, ok s e → ok' s e) (h : Steps step ok s es s') :
    Steps step ok' s es s' := by
  induction h with
  | nil => exact nil
  | snoc _ hok hstep ih => exact ih.snoc (himp _ _ hok) hstep

/-- What every step preserves holds in every state of a run. -/
theorem invariant {I : σ → Prop} (hstep : ∀ s e s', ok s e → step s e = some s' → I s → I s')
    (h : Steps step ok s es s') (hs : I s) : I s' := by
  induction h with
  | nil => exact hs
  | snoc _ hok hs' ih => exact hstep _ _ _ hok hs' ih

/-- What no step decreases is nondecreasing along a run. -/
theorem monotone {α : Type*} [Preorder α] {f : σ → α}
    (hstep : ∀ s e s', step s e = some s' → f s ≤ f s') (h : Steps step ok s es s') :
    f s ≤ f s' := by
  induction h with
  | nil => exact le_refl _
  | snoc _ _ hs' ih => exact le_trans ih (hstep _ _ _ hs')

/-- The events determine the run. -/
theorem unique (h : Steps step ok s es s') (h' : Steps step ok' s es s'') : s' = s'' := by
  induction h generalizing s'' with
  | nil =>
    generalize hes : ([] : List ε) = es' at h'
    cases h' with
    | nil => rfl
    | snoc _ _ _ => simp at hes
  | @snoc mid last es e hrun _ hstep ih =>
    generalize hes : es ++ [e] = es' at h'
    cases h' with
    | nil => simp at hes
    | @snoc mid' _ es'' e' hrun' _ hstep' =>
      obtain ⟨rfl, he⟩ := List.append_inj' hes rfl
      cases he
      rw [ih hrun', hstep'] at hstep
      exact (Option.some.inj hstep).symm

theorem of_run [∀ s e, Decidable (ok s e)] (h : run step ok s es = some s') :
    Steps step ok s es s' := by
  induction es generalizing s with
  | nil =>
    cases h
    exact nil
  | cons e es ih =>
    obtain ⟨hok, hbind⟩ := Option.ite_none_right_eq_some.1 h
    obtain ⟨m, hm, hrest⟩ := Option.bind_eq_some_iff.1 hbind
    exact cons hok hm (ih hrest)

end Steps

end Runs
