import Mathlib.Data.List.Nodup
import Mathlib.Data.List.Perm.Subperm
import Mathlib.Logic.Relation

/-! Depth-first traversal of a directed graph given by its successor lists. A node is marked
when it is put on the stack, so it is there at most once. -/

namespace Traversal

variable {α : Type*} [DecidableEq α] (next : α → List α) (start : α)

/-- Marks the successors that are new and puts them on the stack. -/
def visit : List α → List α → List α → List α × List α
  | [], visited, stack => (visited, stack)
  | b :: bs, visited, stack =>
      if b = start ∨ b ∈ visited then visit bs visited stack
      else visit bs (visited ++ [b]) (b :: stack)

/-- What is marked when the stack is empty; `none` if it never is within so many turns. -/
def search : ℕ → List α → List α → Option (List α)
  | _, visited, [] => some visited
  | 0, _, _ :: _ => none
  | fuel + 1, visited, a :: stack =>
      let marked := visit start (next a) visited stack
      search fuel marked.1 marked.2

/-- Reachable in one step or more. -/
def Reaches (a b : α) : Prop := Relation.TransGen (fun a b => b ∈ next a) a b

variable {next start} {visited stack : List α} {a b : α}

theorem visit_eq (start : α) (bs visited stack : List α) :
    ∃ fresh, visit start bs visited stack = (visited ++ fresh, fresh.reverse ++ stack) ∧
      fresh.Nodup ∧ ∀ b, b ∈ fresh ↔ b ∈ bs ∧ b ≠ start ∧ b ∉ visited := by
  induction bs generalizing visited stack with
  | nil => exact ⟨[], by simp [visit], List.nodup_nil, by simp⟩
  | cons c bs ih =>
    rw [visit]
    split_ifs with hc
    · obtain ⟨fresh, hvisit, hnodup, hmem⟩ := ih visited stack
      refine ⟨fresh, hvisit, hnodup, fun b => ?_⟩
      rw [hmem, List.mem_cons]
      constructor
      · rintro ⟨hb, hne, hnot⟩
        exact ⟨Or.inr hb, hne, hnot⟩
      · rintro ⟨rfl | hb, hne, hnot⟩
        · exact (hc.elim hne hnot).elim
        · exact ⟨hb, hne, hnot⟩
    · rw [not_or] at hc
      obtain ⟨fresh, hvisit, hnodup, hmem⟩ := ih (visited ++ [c]) (c :: stack)
      have hfresh : c ∉ fresh := fun hc' => ((hmem c).1 hc').2.2 (by simp)
      refine ⟨c :: fresh, ?_, List.nodup_cons.2 ⟨hfresh, hnodup⟩, fun b => ?_⟩
      · rw [hvisit]
        simp
      · rw [List.mem_cons, hmem, List.mem_cons, List.mem_append, List.mem_singleton]
        constructor
        · rintro (rfl | ⟨hb, hne, hnot⟩)
          · exact ⟨Or.inl rfl, hc⟩
          · exact ⟨Or.inr hb, hne, fun hv => hnot (Or.inl hv)⟩
        · rintro ⟨hb, hne, hnot⟩
          by_cases hbc : b = c
          · exact Or.inl hbc
          · exact Or.inr ⟨hb.resolve_left hbc, hne, not_or.2 ⟨hnot, hbc⟩⟩

/-- The invariant of the loop. -/
structure Explores (next : α → List α) (start : α) (visited stack : List α) : Prop where
  nodup : visited.Nodup
  found : ∀ b ∈ visited, b ≠ start ∧ Reaches next start b
  pending : ∀ a ∈ stack, a = start ∨ a ∈ visited
  /-- The successors of what has left the stack are marked. -/
  closed : ∀ a, a = start ∨ a ∈ visited → a ∉ stack → ∀ b ∈ next a, b = start ∨ b ∈ visited

omit [DecidableEq α] in
theorem explores_start (next : α → List α) (start : α) : Explores next start [] [start] where
  nodup := List.nodup_nil
  found b hb := by cases hb
  pending a ha := Or.inl (List.mem_singleton.1 ha)
  closed a ha hnot := by
    rcases ha with rfl | ha
    · exact absurd (List.mem_singleton_self a) hnot
    · cases ha

theorem Explores.visit (h : Explores next start visited (a :: stack)) :
    Explores next start (visit start (next a) visited stack).1
      (visit start (next a) visited stack).2 := by
  obtain ⟨fresh, hvisit, hnodup, hmem⟩ := visit_eq start (next a) visited stack
  have hreach : ∀ b ∈ next a, Reaches next start b := fun b hb => by
    rcases h.pending a List.mem_cons_self with rfl | ha
    · exact Relation.TransGen.single hb
    · exact (h.found a ha).2.tail hb
  rw [hvisit]
  constructor
  · refine List.nodup_append.2 ⟨h.nodup, hnodup, fun b hb c hc heq => ?_⟩
    exact ((hmem c).1 hc).2.2 (heq ▸ hb)
  · intro b hb
    rcases List.mem_append.1 hb with hb | hb
    · exact h.found b hb
    · obtain ⟨hnext, hne, -⟩ := (hmem b).1 hb
      exact ⟨hne, hreach b hnext⟩
  · intro b hb
    rcases List.mem_append.1 hb with hb | hb
    · exact Or.inr (List.mem_append_right _ (List.mem_reverse.1 hb))
    · exact (h.pending b (List.mem_cons_of_mem a hb)).imp_right (List.mem_append_left _)
  · intro b hb hnot c hc
    rw [List.mem_append, List.mem_reverse, not_or] at hnot
    have hb' : b = start ∨ b ∈ visited := hb.imp_right fun hb =>
      (List.mem_append.1 hb).resolve_right hnot.1
    by_cases hba : b = a
    · -- the node that was taken off the stack
      rw [hba] at hc
      by_cases hmarked : c = start ∨ c ∈ visited
      · exact hmarked.imp_right (List.mem_append_left _)
      · rw [not_or] at hmarked
        exact Or.inr (List.mem_append_right _ ((hmem c).2 ⟨hc, hmarked⟩))
    · have hstack : b ∉ a :: stack := fun hmem' =>
        (List.mem_cons.1 hmem').elim hba hnot.2
      exact (h.closed b hb' hstack c hc).imp_right (List.mem_append_left _)

omit [DecidableEq α] in
theorem Explores.mem_of_reaches (h : Explores next start visited []) (hb : Reaches next start b) :
    b = start ∨ b ∈ visited := by
  induction hb with
  | single hstep => exact h.closed start (Or.inl rfl) List.not_mem_nil _ hstep
  | tail _ hstep ih => exact h.closed _ ih List.not_mem_nil _ hstep

/-- The loop ends, because a turn takes one node off the stack and no node is put there
twice. -/
theorem Explores.search {nodes : List α} (hnodes : ∀ a, ∀ b ∈ next a, b ∈ nodes) {fuel : ℕ}
    (h : Explores next start visited stack) (hsub : visited ⊆ nodes)
    (hfuel : stack.length + nodes.length ≤ fuel + visited.length) :
    ∃ result, search next start fuel visited stack = some result ∧
      Explores next start result [] := by
  induction fuel generalizing visited stack with
  | zero =>
    have hle := (h.nodup.subperm hsub).length_le
    have hnil : stack = [] := List.length_eq_zero_iff.1 (by omega)
    rw [hnil] at h ⊢
    exact ⟨visited, rfl, h⟩
  | succ fuel ih =>
    cases stack with
    | nil => exact ⟨visited, rfl, h⟩
    | cons a stack =>
      have hnext := h.visit
      obtain ⟨fresh, hvisit, -, hmem⟩ := visit_eq start (next a) visited stack
      refine ih hnext ?_ ?_
      · rw [hvisit]
        refine List.append_subset.2 ⟨hsub, fun b hb => ?_⟩
        exact hnodes a b ((hmem b).1 hb).1
      · rw [hvisit]
        simp only [List.length_append, List.length_reverse, List.length_cons] at hfuel ⊢
        omega

/-- The traversal finds what is reachable from the start, other than the start itself. -/
theorem search_spec (start : α) {nodes : List α} (hnodes : ∀ a, ∀ b ∈ next a, b ∈ nodes) {fuel : ℕ}
    (hfuel : nodes.length + 1 ≤ fuel) :
    ∃ visited, search next start fuel [] [start] = some visited ∧ visited.Nodup ∧
      ∀ b, b ∈ visited ↔ b ≠ start ∧ Reaches next start b := by
  have hbudget : [start].length + nodes.length ≤ fuel + ([] : List α).length := by
    rw [List.length_singleton, List.length_nil]
    omega
  obtain ⟨visited, hsearch, h⟩ :=
    (explores_start next start).search hnodes (List.nil_subset nodes) hbudget
  refine ⟨visited, hsearch, h.nodup, fun b => ⟨h.found b, fun hb => ?_⟩⟩
  exact (h.mem_of_reaches hb.2).resolve_left hb.1

omit [DecidableEq α] in
/-- Against the edges, the same paths run the other way. -/
theorem reaches_swap {back : α → List α} (h : ∀ a b, b ∈ next a ↔ a ∈ back b) :
    Reaches next a b ↔ Reaches back b a := by
  have hswap : (fun a b => b ∈ next a) = Function.swap fun a b => b ∈ back a := by
    funext a b
    exact propext (h a b)
  rw [Reaches, hswap, Relation.transGen_swap]
  rfl

end Traversal
