import Mathlib.Data.Nat.Find
import GstGateway.Foundation.Run

/-! Endless runs under a fair scheduler. A thread is a set of actions. Fairness says that a thread
that is always ready again gets its turn; what it is ready for is up to the system. -/

namespace Fair

open Run

variable {σ α : Type*} {step : σ → α → Option σ} {I P G Ready : σ → Prop} {Mine : α → Prop}

/-- An endless run. Between two actions the system may also stand still. -/
structure Trace (step : σ → α → Option σ) where
  state : ℕ → σ
  act : ℕ → Option α
  moves : ∀ n, (act n = none ∧ state (n + 1) = state n) ∨
    ∃ a, act n = some a ∧ step (state n) a = some (state (n + 1))

/-- The thread is not passed over for good: again and again it acts, or has nothing to do. -/
def Serves (r : Trace step) (Ready : σ → Prop) (Mine : α → Prop) : Prop :=
  ∀ n, ∃ m, n ≤ m ∧ (Ready (r.state m) → ∃ a, r.act m = some a ∧ Mine a)

variable {r : Trace step} {n m : ℕ}

theorem trace_keeps (preserve : ∀ s a t, I s → step s a = some t → I t) (start : I (r.state n))
    (later : n ≤ m) : I (r.state m) := by
  induction m, later using Nat.le_induction with
  | base => exact start
  | succ m _ ih =>
    rcases r.moves m with ⟨_, still⟩ | ⟨a, _, taken⟩
    · rw [still]
      exact ih
    · exact preserve _ a _ ih taken

theorem trace_reachable (r : Trace step) (n : ℕ) : ∃ as, run step (r.state 0) as = some (r.state n) := by
  induction n with
  | zero => exact ⟨[], rfl⟩
  | succ n ih =>
    obtain ⟨as, ran⟩ := ih
    rcases r.moves n with ⟨_, still⟩ | ⟨a, _, taken⟩
    · rw [still]
      exact ⟨as, ran⟩
    · refine ⟨as ++ [a], ?_⟩
      rw [run_append, ran]
      simp [run, taken]

/-- What no step raises, no stretch of the run raises. -/
theorem trace_level {μ : σ → ℕ} (preserve : ∀ s a t, I s → step s a = some t → I t)
    (level : ∀ s a t, I s → step s a = some t → μ t ≤ μ s) (start : I (r.state n)) (later : n ≤ m) :
    μ (r.state m) ≤ μ (r.state n) := by
  have both := trace_keeps (r := r) (I := fun s => I s ∧ μ s ≤ μ (r.state n))
    (fun s a t holds taken => ⟨preserve s a t holds.1 taken, Nat.le_trans (level s a t holds.1 taken) holds.2⟩)
    ⟨start, Nat.le_refl _⟩ later
  exact both.2

/-- A thread reaches its goal where each of its steps lowers a number that no other step raises, and
where it is ready for as long as the goal is not reached. -/
theorem reaches {μ : σ → ℕ} (preserve : ∀ s a t, I s → step s a = some t → I t)
    (level : ∀ s a t, I s → step s a = some t → μ t ≤ μ s)
    (down : ∀ s a t, I s → ¬ G s → Mine a → step s a = some t → μ t < μ s)
    (ready : ∀ s, I s → ¬ G s → Ready s) (fair : Serves r Ready Mine) (start : I (r.state n)) :
    ∃ m, n ≤ m ∧ G (r.state m) := by
  -- By induction on how much is left of the number.
  generalize same : μ (r.state n) = left
  induction left using Nat.strongRecOn generalizing n with
  | ind left ih =>
    obtain ⟨m, later, turn⟩ := fair n
    have inside := trace_keeps preserve start later
    by_cases reached : G (r.state m)
    · exact ⟨m, later, reached⟩
    · obtain ⟨a, acts, mine⟩ := turn (ready _ inside reached)
      have taken : step (r.state m) a = some (r.state (m + 1)) := by
        rcases r.moves m with ⟨idle, _⟩ | ⟨b, acts', taken⟩
        · rw [idle] at acts
          cases acts
        · rw [acts'] at acts
          cases acts
          exact taken
      have lower := down _ a _ inside reached mine taken
      have before := trace_level preserve level start later
      obtain ⟨k, after, goal⟩ := ih (μ (r.state (m + 1))) (by omega) (preserve _ a _ inside taken) rfl
      exact ⟨k, by omega, goal⟩

/-! ### A finished run, after which the system stands still -/

theorem run_take {s t : σ} {as : List α} (ran : run step s as = some t) (n : ℕ) :
    ∃ u, run step s (as.take n) = some u ∧ run step u (as.drop n) = some t := by
  rw [← List.take_append_drop n as, run_append] at ran
  exact Option.bind_eq_some_iff.mp ran

def ofRun {s t : σ} {as : List α} (ran : run step s as = some t) : Trace step where
  state n := (run step s (as.take n)).getD s
  act n := as[n]?
  moves := by
    intro n
    obtain ⟨u, before, rest⟩ := run_take ran n
    cases there : as[n]? with
    | none =>
      have past := List.getElem?_eq_none_iff.mp there
      refine Or.inl ⟨rfl, ?_⟩
      rw [List.take_of_length_le past, List.take_of_length_le (Nat.le_succ_of_le past)]
    | some a =>
      refine Or.inr ⟨a, rfl, ?_⟩
      have split : as.drop n = a :: as.drop (n + 1) := by
        obtain ⟨inside, same⟩ := List.getElem?_eq_some_iff.mp there
        rw [← same]
        exact List.drop_eq_getElem_cons inside
      rw [split] at rest
      obtain ⟨v, taken, _⟩ := Option.bind_eq_some_iff.mp rest
      have after : run step s (as.take (n + 1)) = some v := by
        rw [List.take_add_one, there, run_append, before]
        simp [run, taken]
      rw [before, after]
      exact taken

theorem ofRun_last {s t : σ} {as : List α} (ran : run step s as = some t) (past : as.length ≤ n) :
    (ofRun ran).state n = t := by
  change (run step s (as.take n)).getD s = t
  rw [List.take_of_length_le past, ran]
  rfl

theorem ofRun_at {s t u : σ} {before rest : List α} (ran : run step s (before ++ rest) = some t)
    (here : run step s before = some u) : (ofRun ran).state before.length = u := by
  change (run step s ((before ++ rest).take before.length)).getD s = u
  rw [List.take_left, here]
  rfl

theorem ofRun_serves {s t : σ} {as : List α} (ran : run step s as = some t) (done : ¬ Ready t) :
    Serves (ofRun ran) Ready Mine := by
  intro n
  refine ⟨max n as.length, Nat.le_max_left _ _, fun ready => ?_⟩
  rw [ofRun_last ran (Nat.le_max_right _ _)] at ready
  exact absurd ready done

end Fair
