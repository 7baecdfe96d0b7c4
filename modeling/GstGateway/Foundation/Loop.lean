import Mathlib.Data.Nat.Basic

/-! Loops whose end is not given: a body that goes round again or leaves, run on fuel.
`Returns` and `Diverges` are the two facts a caller needs; neither depends on the fuel. -/

namespace Loop

variable {σ ρ : Type*} {body : σ → Sum σ ρ} {s t : σ} {r r' : ρ}

/-- At most `fuel` turns of `body`: `inl` goes round again, `inr` leaves the loop. -/
def run (body : σ → Sum σ ρ) : Nat → σ → Option ρ
  | 0, _ => none
  | fuel + 1, s =>
    match body s with
    | .inl next => run body fuel next
    | .inr result => some result

def Returns (body : σ → Sum σ ρ) (s : σ) (r : ρ) : Prop := ∃ fuel, run body fuel s = some r

def Diverges (body : σ → Sum σ ρ) (s : σ) : Prop := ∀ fuel, run body fuel s = none

theorem run_more {fuel more : Nat} (h : run body fuel s = some r) (le : fuel ≤ more) :
    run body more s = some r := by
  induction fuel generalizing s more with
  | zero => simp [run] at h
  | succ fuel ih =>
    obtain ⟨more, rfl⟩ : ∃ m, more = m + 1 := ⟨more - 1, by omega⟩
    cases turn : body s with
    | inl next =>
      simp only [run, turn] at h ⊢
      exact ih h (by omega)
    | inr result =>
      simp only [run, turn] at h ⊢
      exact h

theorem returns_unique (h : Returns body s r) (h' : Returns body s r') : r = r' := by
  obtain ⟨fuel, h⟩ := h
  obtain ⟨fuel', h'⟩ := h'
  have left := run_more h (Nat.le_max_left fuel fuel')
  have right := run_more h' (Nat.le_max_right fuel fuel')
  exact Option.some.inj (left.symm.trans right)

theorem returns_of_leave (turn : body s = .inr r) : Returns body s r :=
  ⟨1, by simp [run, turn]⟩

theorem returns_leave_iff (turn : body s = .inr r) : Returns body s r' ↔ r' = r :=
  ⟨fun h => returns_unique h (returns_of_leave turn), fun same => same ▸ returns_of_leave turn⟩

theorem diverges_of_trap (trap : σ → Prop) (stay : ∀ s, trap s → ∃ next, body s = .inl next ∧ trap next)
    (start : trap s) : Diverges body s := by
  intro fuel
  induction fuel generalizing s with
  | zero => rfl
  | succ fuel ih =>
    obtain ⟨next, turn, inside⟩ := stay s start
    simp only [run, turn]
    exact ih inside

theorem diverges_of_spin (turn : body s = .inl s) : Diverges body s :=
  diverges_of_trap (· = s) (by rintro _ rfl; exact ⟨_, turn, rfl⟩) rfl

end Loop
