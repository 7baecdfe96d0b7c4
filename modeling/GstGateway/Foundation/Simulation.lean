import GstGateway.Foundation.Run

/-! One labelled step machine against another. Each step of the first is answered by a list of steps of the
second, empty where the second has nothing to show for it, and then so is each run. -/

namespace Simulation

open Run

variable {σ α τ β : Type*} {step : σ → α → Option σ} {abstract : τ → β → Option τ} {image : σ → α → List β}
  {R : σ → τ → Prop} {s t : σ} {u : τ} {a : α} {as : List α}

/-- The steps of the second machine along a run of the first. -/
def images (step : σ → α → Option σ) (image : σ → α → List β) : σ → List α → List β
  | _, [] => []
  | s, a :: as =>
    match step s a with
    | none => []
    | some next => image s a ++ images step image next as

def Answers (step : σ → α → Option σ) (abstract : τ → β → Option τ) (image : σ → α → List β)
    (R : σ → τ → Prop) : Prop :=
  ∀ s a t u, R s u → step s a = some t → ∃ v, run abstract u (image s a) = some v ∧ R t v

theorem images_cons (taken : step s a = some t) :
    images step image s (a :: as) = image s a ++ images step image t as := by
  simp only [images, taken]

theorem images_const {f : α → List β} (ran : run step s as = some t) :
    images step (fun _ => f) s as = as.flatMap f := by
  induction as generalizing s with
  | nil => rfl
  | cons a as ih =>
    obtain ⟨next, taken, rest⟩ := Option.bind_eq_some_iff.mp ran
    rw [images_cons taken, ih rest, List.flatMap_cons]

theorem answers_run (answers : Answers step abstract image R) (related : R s u) (ran : run step s as = some t) :
    ∃ v, run abstract u (images step image s as) = some v ∧ R t v := by
  induction as generalizing s u with
  | nil => exact ⟨u, rfl, Option.some.inj ran ▸ related⟩
  | cons a as ih =>
    obtain ⟨next, taken, rest⟩ := Option.bind_eq_some_iff.mp ran
    obtain ⟨between, first, related⟩ := answers s a next u related taken
    obtain ⟨v, later, related⟩ := ih related rest
    refine ⟨v, ?_, related⟩
    rw [images_cons taken, run_append, first]
    exact later

/-- Conditions on the steps of the two machines that agree at each step agree on each run. -/
theorem answers_meets {C : σ → α → Prop} {D : τ → β → Prop} (answers : Answers step abstract image R)
    (agree : ∀ s a t u, R s u → step s a = some t → (C s a ↔ Meets abstract D u (image s a))) (related : R s u) :
    Meets step C s as ↔ Meets abstract D u (images step image s as) := by
  induction as generalizing s u with
  | nil => exact Iff.rfl
  | cons a as ih =>
    cases taken : step s a with
    | none =>
      simp only [images, taken]
      exact iff_of_true (fun next there => by rw [taken] at there; cases there) trivial
    | some next =>
      obtain ⟨v, ran, later⟩ := answers s a next u related taken
      rw [images_cons taken, meets_append, ← agree s a next u related taken]
      constructor
      · intro all
        obtain ⟨met, rest⟩ := all next taken
        refine ⟨met, fun w there => ?_⟩
        cases Option.some.inj (ran.symm.trans there)
        exact (ih later).mp rest
      · rintro ⟨met, rest⟩ t there
        cases Option.some.inj (taken.symm.trans there)
        exact ⟨met, (ih later).mpr (rest v ran)⟩

end Simulation
