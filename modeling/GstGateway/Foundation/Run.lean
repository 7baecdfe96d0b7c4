import Mathlib.Data.List.Basic

/-! Runs of a labelled partial step: `step s a` is the state after action `a`, or `none`
where `a` is not enabled. An interleaving is the list of actions taken, so what holds of
every run holds of every interleaving. -/

namespace Run

variable {σ α : Type*} {step : σ → α → Option σ} {s t : σ} {a : α} {as : List α}
variable {I P : σ → Prop} {C D : σ → α → Prop}

/-- The state after the actions `as`, each enabled when it is taken. -/
def run (step : σ → α → Option σ) : σ → List α → Option σ
  | s, [] => some s
  | s, a :: as => (step s a).bind fun next => run step next as

/-- Every state the run visits satisfies `P`. The run ends where an action is not enabled. -/
def Always (step : σ → α → Option σ) (P : σ → Prop) : σ → List α → Prop
  | s, [] => P s
  | s, a :: as => P s ∧ ∀ next, step s a = some next → Always step P next as

/-- Every step the run takes satisfies `C` in the state before it. -/
def Meets (step : σ → α → Option σ) (C : σ → α → Prop) : σ → List α → Prop
  | _, [] => True
  | s, a :: as => ∀ next, step s a = some next → C s a ∧ Meets step C next as

theorem run_append (s : σ) (as bs : List α) :
    run step s (as ++ bs) = (run step s as).bind fun next => run step next bs := by
  induction as generalizing s with
  | nil => rfl
  | cons a as ih =>
    simp only [List.cons_append, run]
    cases step s a with
    | none => rfl
    | some next => exact ih next

theorem run_invariant (preserve : ∀ s a t, I s → step s a = some t → I t) (start : I s)
    (h : run step s as = some t) : I t := by
  induction as generalizing s with
  | nil => exact Option.some.inj h ▸ start
  | cons a as ih =>
    obtain ⟨next, taken, rest⟩ := Option.bind_eq_some_iff.mp h
    exact ih (preserve s a next start taken) rest

theorem always_invariant (preserve : ∀ s a t, I s → step s a = some t → I t) (start : I s) :
    Always step I s as := by
  induction as generalizing s with
  | nil => exact start
  | cons a as ih => exact ⟨start, fun next taken => ih (preserve s a next start taken)⟩

theorem always_last (h : Always step P s as) (ran : run step s as = some t) : P t := by
  induction as generalizing s with
  | nil => exact Option.some.inj ran ▸ h
  | cons a as ih =>
    obtain ⟨next, taken, rest⟩ := Option.bind_eq_some_iff.mp ran
    exact ih (h.2 next taken) rest

theorem always_head (h : Always step P s as) : P s := by
  cases as with
  | nil => exact h
  | cons a as => exact h.1

theorem always_imp {Q : σ → Prop} (weaker : ∀ s, P s → Q s) (h : Always step P s as) :
    Always step Q s as := by
  induction as generalizing s with
  | nil => exact weaker s h
  | cons a as ih => exact ⟨weaker s h.1, fun next taken => ih (h.2 next taken)⟩

theorem always_of_meets (preserve : ∀ s a t, I s → C s a → step s a = some t → I t) (start : I s)
    (h : Meets step C s as) : Always step I s as := by
  induction as generalizing s with
  | nil => exact start
  | cons a as ih =>
    refine ⟨start, fun next taken => ?_⟩
    obtain ⟨met, rest⟩ := h next taken
    exact ih (preserve s a next start met taken) rest

theorem meets_invariant (preserve : ∀ s a t, I s → step s a = some t → I t)
    (holds : ∀ s a t, I s → step s a = some t → C s a) (start : I s) : Meets step C s as := by
  induction as generalizing s with
  | nil => trivial
  | cons a as ih => exact fun next taken => ⟨holds s a next start taken, ih (preserve s a next start taken)⟩

/-- A condition that the steps' own condition brings about. -/
theorem meets_imp (preserve : ∀ s a t, I s → C s a → step s a = some t → I t)
    (weaker : ∀ s a t, I s → C s a → step s a = some t → D s a) (start : I s) (h : Meets step C s as) :
    Meets step D s as := by
  induction as generalizing s with
  | nil => trivial
  | cons a as ih =>
    intro next taken
    obtain ⟨met, rest⟩ := h next taken
    exact ⟨weaker s a next start met taken, ih (preserve s a next start met taken) rest⟩

theorem meets_of_forall (all : ∀ a ∈ as, ∀ s, C s a) : Meets step C s as := by
  induction as generalizing s with
  | nil => trivial
  | cons a as ih =>
    exact fun next _ => ⟨all a List.mem_cons_self s, ih fun b member => all b (List.mem_cons_of_mem a member)⟩

/-- Where a step leads from good states to good states exactly when it meets `C`, a run stays
good exactly when all its steps meet `C`. -/
theorem always_iff_meets (preserve : ∀ s a t, I s → step s a = some t → I t)
    (tight : ∀ s a t, I s → P s → step s a = some t → (P t ↔ C s a))
    (start : I s) (good : P s) : Always step P s as ↔ Meets step C s as := by
  induction as generalizing s with
  | nil => exact ⟨fun _ => trivial, fun _ => good⟩
  | cons a as ih =>
    constructor
    · rintro ⟨_, rest⟩ next taken
      have after := rest next taken
      have met := (tight s a next start good taken).mp (always_head after)
      exact ⟨met, (ih (preserve s a next start taken) (always_head after)).mp after⟩
    · intro h
      refine ⟨good, fun next taken => ?_⟩
      obtain ⟨met, rest⟩ := h next taken
      have goodNext := (tight s a next start good taken).mpr met
      exact (ih (preserve s a next start taken) goodNext).mpr rest

/-- Two conditions on steps that agree wherever the steps so far met the first. -/
theorem meets_congr (preserve : ∀ s a t, I s → C s a → step s a = some t → I t)
    (agree : ∀ s a t, I s → step s a = some t → (C s a ↔ D s a)) (start : I s) :
    Meets step C s as ↔ Meets step D s as := by
  induction as generalizing s with
  | nil => exact Iff.rfl
  | cons a as ih =>
    constructor
    · intro h next taken
      obtain ⟨met, rest⟩ := h next taken
      exact ⟨(agree s a next start taken).mp met, (ih (preserve s a next start met taken)).mp rest⟩
    · intro h next taken
      obtain ⟨met, rest⟩ := h next taken
      have metC := (agree s a next start taken).mpr met
      exact ⟨metC, (ih (preserve s a next start metC taken)).mpr rest⟩

def check (step : σ → α → Option σ) (C : σ → α → Prop) [∀ s a, Decidable (C s a)] : σ → List α → Bool
  | _, [] => true
  | s, a :: as =>
    match step s a with
    | none => true
    | some next => decide (C s a) && check step C next as

theorem meets_of_check [∀ s a, Decidable (C s a)] (h : check step C s as = true) : Meets step C s as := by
  induction as generalizing s with
  | nil => trivial
  | cons a as ih =>
    intro next taken
    simp only [check, taken, Bool.and_eq_true, decide_eq_true_eq] at h
    exact ⟨h.1, ih h.2⟩

theorem meets_append {bs : List α} : Meets step C s (as ++ bs) ↔
    Meets step C s as ∧ ∀ t, run step s as = some t → Meets step C t bs := by
  induction as generalizing s with
  | nil =>
    refine ⟨fun later => ⟨trivial, fun t here => ?_⟩, fun both => both.2 s rfl⟩
    cases Option.some.inj here
    exact later
  | cons a as ih =>
    constructor
    · refine fun all => ⟨fun next taken => ⟨(all next taken).1, (ih.mp (all next taken).2).1⟩, fun t ran => ?_⟩
      obtain ⟨next, taken, rest⟩ := Option.bind_eq_some_iff.mp ran
      exact (ih.mp (all next taken).2).2 t rest
    · rintro ⟨first, later⟩ next taken
      obtain ⟨met, rest⟩ := first next taken
      refine ⟨met, ih.mpr ⟨rest, fun t ran => later t ?_⟩⟩
      exact (congrArg (Option.bind · _) taken).trans ran

theorem meets_last {u : σ} (h : Meets step C s (as ++ [a])) (ran : run step s as = some t)
    (taken : step t a = some u) : C t a := by
  induction as generalizing s with
  | nil =>
    cases Option.some.inj ran
    exact (h u taken).1
  | cons b as ih =>
    obtain ⟨next, first, rest⟩ := Option.bind_eq_some_iff.mp ran
    exact ih (h next first).2 rest

open Classical in
/-- How many steps of the run satisfy `C` in the state before them. -/
noncomputable def tally (step : σ → α → Option σ) (C : σ → α → Prop) : σ → List α → Nat
  | _, [] => 0
  | s, a :: as =>
    match step s a with
    | none => 0
    | some next => (if C s a then 1 else 0) + tally step C next as

/-- Steps of a kind that lower a number no other step raises are at most that many. -/
theorem tally_le {μ : σ → Nat} (preserve : ∀ s a t, I s → step s a = some t → I t)
    (level : ∀ s a t, I s → step s a = some t → μ t ≤ μ s)
    (down : ∀ s a t, I s → C s a → step s a = some t → μ t < μ s) (start : I s) : tally step C s as ≤ μ s := by
  induction as generalizing s with
  | nil => exact Nat.zero_le _
  | cons a as ih =>
    unfold tally
    cases taken : step s a with
    | none => exact Nat.zero_le _
    | some next =>
      have rest := ih (preserve s a next start taken)
      dsimp only
      split
      · rename_i met
        have lower := down s a next start met taken
        omega
      · have before := level s a next start taken
        omega

/-- What each step of a kind adds to, and no other changes, the tally tracks. -/
theorem tally_track {R : σ → Nat → Prop}
    (count : ∀ s n a t, R s n → C s a → step s a = some t → R t (n + 1))
    (keep : ∀ s n a t, R s n → ¬ C s a → step s a = some t → R t n) {n : Nat} (start : R s n)
    (ran : run step s as = some t) : R t (n + tally step C s as) := by
  induction as generalizing s n with
  | nil => exact Option.some.inj ran ▸ start
  | cons a as ih =>
    obtain ⟨next, taken, rest⟩ := Option.bind_eq_some_iff.mp ran
    simp only [tally, taken]
    rw [← Nat.add_assoc]
    split
    · rename_i met
      exact ih (count s n a next start met taken) rest
    · rename_i other
      exact ih (keep s n a next start other taken) rest

theorem tally_pos {u : σ} (ran : run step s as = some t) (met : C t a) (taken : step t a = some u) :
    0 < tally step C s (as ++ [a]) := by
  induction as generalizing s with
  | nil =>
    cases Option.some.inj ran
    simp [tally, taken, met]
  | cons b as ih =>
    obtain ⟨next, first, rest⟩ := Option.bind_eq_some_iff.mp ran
    have later := ih rest
    simp only [List.cons_append, tally, first]
    omega

end Run
