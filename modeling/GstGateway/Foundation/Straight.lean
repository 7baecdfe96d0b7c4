import Mathlib.Data.List.Basic

/-! Straight-line programs: a list of statements and a position in it. `progress` sums up the
statements before the position. There are finitely many positions, so what holds at each of them
can be decided, and then holds wherever a run of the program may stand. -/

namespace Straight

variable {ω ψ : Type*} {after : ψ → ω → ψ} {start : ψ} {prog : List ω} {pc : Nat} {op : ω}

def progress (after : ψ → ω → ψ) (start : ψ) (prog : List ω) (pc : Nat) : ψ := (prog.take pc).foldl after start

theorem progress_succ (there : prog[pc]? = some op) :
    progress after start prog (pc + 1) = after (progress after start prog pc) op := by
  simp [progress, List.take_add_one, there]

theorem progress_past (past : prog[pc]? = none) :
    progress after start prog pc = progress after start prog prog.length := by
  have long := List.getElem?_eq_none_iff.mp past
  rw [progress, progress, List.take_of_length_le long, List.take_of_length_le (Nat.le_refl _)]

theorem progress_all {P : ψ → Prop} (h : ∀ pc < prog.length + 1, P (progress after start prog pc)) (pc : Nat) :
    P (progress after start prog pc) := by
  by_cases inside : pc < prog.length + 1
  · exact h pc inside
  · rw [progress_past (List.getElem?_eq_none_iff.mpr (by omega))]
    exact h _ (Nat.lt_succ_self _)

theorem progress_at {P : ψ → ω → Prop}
    (h : ∀ pc < prog.length, ∀ op ∈ prog[pc]?, P (progress after start prog pc) op)
    (there : prog[pc]? = some op) : P (progress after start prog pc) op :=
  h pc (List.getElem?_eq_some_iff.mp there).1 op there

/-- A fact about each statement and its position, decided for the whole list. -/
theorem forall_at {P : ℕ → ω → Prop} (h : ∀ pc < prog.length, ∀ op ∈ prog[pc]?, P pc op)
    (there : prog[pc]? = some op) : P pc op :=
  h pc (List.getElem?_eq_some_iff.mp there).1 op there

end Straight
