import GstGateway.Foundation.Simulation
import GstGateway.Registry.Overlap
import GstGateway.Registry.Positions

/-! What the handlers do to the registry are the calls of `Positions`, which knows nothing of the rest. A GET makes
one call to register its task and, where a port search fails, another to take it back. -/

namespace GstGateway.Overlap

/-- Handler `i` registers by call `2 * i` and removes by call `2 * i + 1`. -/
def registryCalls (requests : Nat → Option Request) (call : Nat) : Option Positions.Request :=
  match requests (call / 2) with
  | none => none
  | some (.get name) => some (if call % 2 = 0 then .add name else .remove name)
  | some (.del name) => if call % 2 = 0 then none else some (.remove name)

/-- The step of the registry that the next step of a handler is. -/
def registryActs (s : State) (act : Act) : List (Nat × Nat) :=
  match s.handlers act.handler with
  | .adding _ => [(2 * act.handler, act.slack)]
  | .finding _ | .scanning _ _ | .stopping _ | .erasing _ _ => [(2 * act.handler + 1, act.slack)]
  | .idle | .assigning _ | .searching _ | .starting _ | .done => []

/-- How far the two calls of a handler are. -/
def Stage (s : State) (h : Handler) (adds removes : Positions.Call) : Prop :=
  match h with
  | .adding name => adds = .adding name ∧ removes = .removing name
  | .assigning a | .searching a | .starting a => a < s.next ∧ removes = .removing (s.heap a).name
  | .finding name => removes = .removing name
  | .scanning name iter => removes = .scanning name iter
  | .stopping iter => ∃ name located, removes = .stopping name iter located
  | .erasing iter a => ∃ name located, removes = .erasing name iter located (some a)
  | .idle | .done => True

structure Refines (s : State) (p : Positions.State) : Prop where
  defined : p.undefined = false
  tasks : p.tasks = s.tasks
  next : p.next = s.next
  name : ∀ a, p.name a = (s.heap a).name
  stage : ∀ i, Stage s (s.handlers i) (p.calls (2 * i)) (p.calls (2 * i + 1))

variable {s t : State} {p q : Positions.State} {i slack : Nat} {h : Handler} {name : String} {iter : Vec.Iterator}
  {a : Addr}

theorem stage_keeps {adds removes : Positions.Call} (stage : Stage s h adds removes) (later : s.next ≤ t.next)
    (names : ∀ a < s.next, (t.heap a).name = (s.heap a).name) : Stage t h adds removes := by
  have created : ∀ a, a < s.next ∧ removes = .removing (s.heap a).name →
      a < t.next ∧ removes = .removing (t.heap a).name :=
    fun a before => ⟨Nat.lt_of_lt_of_le before.1 later, names a before.1 ▸ before.2⟩
  cases h with
  | assigning a | searching a | starting a => exact created a stage
  | _ => exact stage

/-- A handler goes on, and of the registry's calls at most its own two. -/
theorem refines_goto (refines : Refines s p) (same : t.handlers = s.handlers) (defined : q.undefined = false)
    (tasks : q.tasks = t.tasks) (next : q.next = t.next) (name : ∀ a, q.name a = (t.heap a).name)
    (later : s.next ≤ t.next) (names : ∀ a < s.next, (t.heap a).name = (s.heap a).name)
    (others : ∀ call, call ≠ 2 * i → call ≠ 2 * i + 1 → q.calls call = p.calls call)
    (mine : Stage t h (q.calls (2 * i)) (q.calls (2 * i + 1))) : Refines (t.goto i h) q where
  defined := defined
  tasks := tasks
  next := next
  name := name
  stage := by
    intro j
    have kept : Stage t ((t.goto i h).handlers j) (q.calls (2 * j)) (q.calls (2 * j + 1)) := by
      rw [goto_handlers]
      by_cases here : j = i
      · subst here
        rw [if_pos rfl]
        exact mine
      · rw [if_neg here, same, others (2 * j) (by omega) (by omega), others (2 * j + 1) (by omega) (by omega)]
        exact stage_keeps (refines.stage j) later names
    exact stage_keeps kept (Nat.le_refl _) fun _ _ => rfl

/-- The registry does not see the step. -/
theorem refines_quiet (refines : Refines s p) (same : t.handlers = s.handlers) (tasks : t.tasks = s.tasks)
    (next : t.next = s.next) (names : ∀ a, (t.heap a).name = (s.heap a).name)
    (mine : ∀ adds removes, Stage s (s.handlers i) adds removes → Stage s h adds removes) :
    Refines (t.goto i h) p := by
  refine refines_goto refines same refines.defined (refines.tasks.trans tasks.symm) (refines.next.trans next.symm)
    (fun a => (refines.name a).trans (names a).symm) (Nat.le_of_eq next.symm) (fun a _ => names a)
    (fun _ _ _ => rfl) ?_
  exact stage_keeps (mine _ _ (refines.stage i)) (Nat.le_of_eq next.symm) fun a _ => names a

/-- The handler's removal goes on. -/
theorem refines_removal {call : Positions.Call} (refines : Refines s p) (same : t.handlers = s.handlers)
    (next : t.next = s.next) (names : ∀ a, (t.heap a).name = (s.heap a).name) (defined : q.undefined = false)
    (tasks : q.tasks = t.tasks) (count : q.next = p.next) (named : q.name = p.name) (calls : q.calls = p.calls)
    (mine : ∀ adds, Stage t h adds call) : Refines (t.goto i h) (q.goto (2 * i + 1) call) := by
  refine refines_goto refines same defined tasks ((count.trans refines.next).trans next.symm) (fun a => ?_)
    (Nat.le_of_eq next.symm) (fun a _ => names a) (fun other _ apart => ?_) ?_
  · exact (congrFun named a).trans ((refines.name a).trans (names a).symm)
  · exact (Function.update_of_ne apart _ _).trans (congrFun calls other)
  · simp only [Positions.State.goto, Function.update_self]
    exact mine _

theorem names_write {task : Task} (same : task.name = (s.heap a).name) (b : Addr) :
    ((s.write a task).heap b).name = (s.heap b).name := by
  rw [write_heap]
  split
  · rename_i here
    rw [here, same]
  · rfl

theorem refines_add (refines : Refines s p) (now : s.handlers i = .adding name) :
    Refines ((s.add name slack).goto i (.assigning s.next)) ((p.add name slack).goto (2 * i) .done) := by
  have stage := refines.stage i
  rw [now] at stage
  refine refines_goto refines rfl refines.defined ?_ ?_ (fun b => ?_) (Nat.le_succ _) (fun b old => ?_)
    (fun call apart _ => Function.update_of_ne apart _ _) ⟨Nat.lt_succ_self _, ?_⟩
  · exact congrArg₂ (fun (tasks : Vec Addr) next => tasks.pushBack next slack) refines.tasks refines.next
  · exact congrArg (· + 1) refines.next
  · simp only [Positions.State.goto, Positions.State.add, add_heap, Function.update_apply, refines.next]
    split
    · rfl
    · exact refines.name b
  · rw [add_heap, if_neg (Nat.ne_of_lt old)]
  · rw [add_heap, if_pos rfl]
    simpa [Positions.State.goto, Positions.State.add, Function.update_apply] using stage.2

theorem refines_turn (refines : Refines s p) (fine : (s.turn i name iter).undefined = false) :
    Refines (s.turn i name iter) (p.turn (2 * i + 1) name iter) := by
  have goes : ∀ {h : Handler} {call : Positions.Call}, (∀ adds, Stage s h adds call) →
      Refines (s.goto i h) (p.goto (2 * i + 1) call) := fun mine =>
    refines_removal refines rfl rfl (fun _ => rfl) refines.defined refines.tasks rfl rfl rfl mine
  unfold State.turn at fine ⊢
  unfold Positions.State.turn
  rw [refines.tasks]
  split at fine
  · rename_i current
    rw [if_pos current, if_pos current]
    cases there : s.tasks.elems[iter.index]? with
    | none => exact goes fun _ => trivial
    | some a =>
      simp only [refines.name a]
      split
      · exact goes fun _ => ⟨name, a, rfl⟩
      · exact goes fun _ => rfl
  · cases fine

theorem registry_answers : Simulation.Answers step Positions.step registryActs
    fun s p => s.undefined = false → Refines s p := by
  rintro s ⟨i, found, slack⟩ t p refines taken
  have fine := step_defined taken
  have refines := refines fine
  have stage := refines.stage i
  have one : ∀ (call : Nat) (q : Positions.State), Positions.step p (call, slack) = some q →
      (t.undefined = false → Refines t q) →
      ∃ v, Run.run Positions.step p [(call, slack)] = some v ∧ (t.undefined = false → Refines t v) :=
    fun call q moved after => ⟨q, by simp [Run.run, moved], after⟩
  have going : ∀ call, Positions.step p (call, slack) = _ := fun call =>
    if_neg (by rw [refines.defined]; exact Bool.false_ne_true)
  simp only [step, fine, Bool.false_eq_true, if_false] at taken
  cases now : s.handlers i <;> simp only [now, Stage] at taken stage <;> simp only [registryActs, now]
  case adding name =>
    cases taken
    exact one _ ((p.add name slack).goto (2 * i) .done) (by rw [going, stage.1]) fun _ => refines_add refines now
  case assigning a =>
    cases taken
    refine ⟨p, rfl, fun _ => refines_quiet refines rfl rfl rfl (names_write rfl) fun adds removes before => ?_⟩
    rw [now] at before
    split <;> exact before
  case searching a =>
    cases taken
    refine ⟨p, rfl, fun _ => refines_quiet refines rfl rfl rfl (fun _ => rfl) fun adds removes before => ?_⟩
    rw [now] at before
    split
    · exact before
    · exact before.2
  case starting a =>
    cases taken
    exact ⟨p, rfl, fun _ => refines_quiet refines rfl rfl rfl (names_write rfl) fun _ _ _ => trivial⟩
  case finding name =>
    cases taken
    refine one _ (p.turn (2 * i + 1) name p.tasks.start) (by rw [going, stage]) fun defined => ?_
    rw [refines.tasks]
    exact refines_turn refines defined
  case scanning name iter =>
    cases taken
    exact one _ (p.turn (2 * i + 1) name iter) (by rw [going, stage]) fun defined => refines_turn refines defined
  case stopping iter =>
    cases taken
    obtain ⟨name, located, stage⟩ := stage
    refine one _ ({ p with stops := p.stops ++ (p.tasks.deref iter).toList }.goto (2 * i + 1)
      (.erasing name iter located (p.tasks.deref iter))) (by rw [going, stage]) fun defined => ?_
    unfold State.stop at defined ⊢
    split at defined
    · cases defined
    · rename_i a there
      split at defined
      · rename_i built
        rw [refines.tasks, there]
        dsimp only
        rw [if_pos built]
        exact refines_removal refines rfl rfl (names_write rfl) refines.defined rfl rfl rfl rfl
          fun _ => ⟨name, located, rfl⟩
      · cases defined
  case erasing iter a =>
    cases taken
    obtain ⟨name, located, stage⟩ := stage
    by_cases there : (s.tasks.deref iter).isSome
    · refine one _ ({ p with tasks := p.tasks.erase iter }.goto (2 * i + 1) .done) ?_ fun _ => ?_
      · rw [going, stage, refines.tasks]
        exact if_pos there
      · rw [State.erase, if_pos there]
        exact refines_removal refines rfl rfl (fun _ => rfl) refines.defined
          (congrArg (Vec.erase · iter) refines.tasks) rfl rfl rfl fun _ => trivial
    · refine one _ { p with undefined := true } ?_ fun defined => ?_
      · rw [going, stage, refines.tasks]
        exact if_neg there
      · rw [State.erase, if_neg there] at defined
        cases defined
  all_goals cases taken

theorem refines_initial (requests : Nat → Option Request) :
    Refines (initial requests) (Positions.initial [] 0 (registryCalls requests)) where
  defined := rfl
  tasks := rfl
  next := rfl
  name := fun _ => rfl
  stage := by
    intro i
    have even : (2 * i) / 2 = i ∧ (2 * i) % 2 = 0 := by omega
    have odd : (2 * i + 1) / 2 = i ∧ (2 * i + 1) % 2 = 1 := by omega
    simp only [initial, Positions.initial, registryCalls, even, odd]
    cases requests i with
    | none => trivial
    | some request => cases request <;> simp [Handler.entry, Positions.Call.entry, Stage]

/-- Every run of the handlers is, in what it does to the registry, a run of its calls, and as long as nothing
undefined happens the two hold the same tasks. -/
theorem registry_refines {requests : Nat → Option Request} {acts : List Act}
    (ran : Run.run step (initial requests) acts = some s) :
    ∃ p, Run.run Positions.step (Positions.initial [] 0 (registryCalls requests))
        (Simulation.images step registryActs (initial requests) acts) = some p ∧
      (s.undefined = false → Refines s p) :=
  Simulation.answers_run registry_answers (fun _ => refines_initial requests) ran

end GstGateway.Overlap
