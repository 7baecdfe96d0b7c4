import GstGateway.Foundation.Loop

/-! `MediaProcessManager::removeTask`. The task type, the lookup of a name and the call of
`stop()` are parameters: the handlers use it on task addresses with the state behind them, and
its contract is stated over any list of tasks. -/

namespace GstGateway

/-- How a call of `stop()` ends. `catch (exception e)` takes only what derives from
`std::exception`; anything else escapes. -/
inductive StopOutcome where
  | returned
  | threw
  | escaped
  deriving DecidableEq, Repr

section
variable {σ τ : Type*}

/-- What the loop of `removeTask` works on. `rest` is the state that `stop()` changes. -/
structure Scan (σ τ : Type*) where
  iter : Nat
  tasks : List τ
  rest : σ

structure Removed (σ τ : Type*) where
  tasks : List τ
  rest : σ
  escaped : Bool := false

variable (nameOf : σ → τ → String) (stop : σ → τ → StopOutcome × σ) (name : String)

/-- One turn of `while (iter != tasks.end())`. -/
def removeTurn (m : Scan σ τ) : Sum (Scan σ τ) (Removed σ τ) :=
  match m.tasks[m.iter]? with
  | none => .inr { tasks := m.tasks, rest := m.rest }
  | some task =>
    if nameOf m.rest task = name then
      let call := stop m.rest task
      match call.1 with
      | .escaped => .inr { tasks := m.tasks, rest := call.2, escaped := true }
      | .returned | .threw => .inr { tasks := m.tasks.eraseIdx m.iter, rest := call.2 }
    else
      -- Nothing advances `iter`: the next turn looks at the same element.
      .inl m

/-- `removeTask(name)`, for at most `fuel` turns of its loop. -/
def removeTask (tasks : List τ) (rest : σ) (fuel : Nat) : Option (Removed σ τ) :=
  Loop.run (removeTurn nameOf stop name) fuel { iter := 0, tasks, rest }

def Removes (tasks : List τ) (rest : σ) (r : Removed σ τ) : Prop :=
  ∃ fuel, removeTask nameOf stop name tasks rest fuel = some r

variable {nameOf stop name} {tasks : List τ} {rest : σ} {task : τ} {r : Removed σ τ}

theorem removes_nil : Removes nameOf stop name [] rest r ↔ r = { tasks := [], rest := rest } :=
  Loop.returns_leave_iff rfl

theorem removes_head (same : nameOf rest task = name) (taken : (stop rest task).1 ≠ .escaped) :
    Removes nameOf stop name (task :: tasks) rest r ↔ r = { tasks, rest := (stop rest task).2 } := by
  refine Loop.returns_leave_iff ?_
  simp only [removeTurn, List.getElem?_cons_zero, same, if_true, List.eraseIdx_zero, List.tail_cons]
  cases outcome : (stop rest task).1 with
  | escaped => exact absurd outcome taken
  | _ => rfl

theorem removes_escaped (same : nameOf rest task = name) (escapes : (stop rest task).1 = .escaped) :
    Removes nameOf stop name (task :: tasks) rest r ↔
      r = { tasks := task :: tasks, rest := (stop rest task).2, escaped := true } := by
  refine Loop.returns_leave_iff ?_
  simp only [removeTurn, List.getElem?_cons_zero, same, if_true, escapes]

theorem removeTask_spins (other : nameOf rest task ≠ name) (fuel : Nat) :
    removeTask nameOf stop name (task :: tasks) rest fuel = none :=
  Loop.diverges_of_spin (by simp [removeTurn, other]) fuel

theorem not_removes (other : nameOf rest task ≠ name) :
    ¬ Removes nameOf stop name (task :: tasks) rest r := by
  rintro ⟨fuel, h⟩
  rw [removeTask_spins other] at h
  cases h

theorem removes_cases (h : Removes nameOf stop name tasks rest r) :
    (tasks = [] ∧ r = { tasks := [], rest := rest }) ∨
    ∃ task others, tasks = task :: others ∧ nameOf rest task = name ∧
      (((stop rest task).1 = .escaped ∧ r = { tasks, rest := (stop rest task).2, escaped := true }) ∨
        ((stop rest task).1 ≠ .escaped ∧ r = { tasks := others, rest := (stop rest task).2 })) := by
  cases tasks with
  | nil => exact Or.inl ⟨rfl, removes_nil.mp h⟩
  | cons task others =>
    have same : nameOf rest task = name := Classical.byContradiction fun other => not_removes other h
    refine Or.inr ⟨task, others, rfl, same, ?_⟩
    by_cases escapes : (stop rest task).1 = .escaped
    · exact Or.inl ⟨escapes, (removes_escaped same escapes).mp h⟩
    · exact Or.inr ⟨escapes, (removes_head same escapes).mp h⟩

end

section Contract
variable {τ : Type*} (nameOf : τ → String) (outcome : τ → StopOutcome) (name : String)

def loggedStop (calls : List τ) (task : τ) : StopOutcome × List τ := (outcome task, calls ++ [task])

/-- `removeTask` ends; it stops and erases the first task of that name, and nothing else. -/
def RemovesFirst (tasks : List τ) : Prop :=
  ∃ r, Removes (fun _ => nameOf) (loggedStop outcome) name tasks [] r ∧
    ((∀ task ∈ tasks, nameOf task ≠ name) → r.tasks = tasks ∧ r.rest = []) ∧
    ∀ before task after, tasks = before ++ task :: after → (∀ t ∈ before, nameOf t ≠ name) →
      nameOf task = name → r.tasks = before ++ after ∧ r.rest = [task]

theorem removesFirst_nil : RemovesFirst nameOf outcome name [] :=
  ⟨_, removes_nil.mpr rfl, fun _ => ⟨rfl, rfl⟩, fun before task after split => by simp at split⟩

theorem removesFirst_head {task : τ} {tasks : List τ} (same : nameOf task = name)
    (taken : outcome task ≠ .escaped) : RemovesFirst nameOf outcome name (task :: tasks) := by
  refine ⟨_, (removes_head same taken).mpr rfl, fun absent => ?_, fun before t after split none _ => ?_⟩
  · exact absurd same (absent task List.mem_cons_self)
  · cases before with
    | nil =>
      obtain ⟨rfl, rfl⟩ := List.cons.inj split
      exact ⟨rfl, rfl⟩
    | cons first more =>
      obtain ⟨rfl, -⟩ := List.cons.inj split
      exact absurd same (none task List.mem_cons_self)

/-- The code meets the contract exactly when the first task, if there is one, has the name and
its `stop()` lets nothing but a `std::exception` out. -/
theorem removesFirst_iff (tasks : List τ) :
    RemovesFirst nameOf outcome name tasks ↔
      ∀ task, tasks.head? = some task → nameOf task = name ∧ outcome task ≠ .escaped := by
  cases tasks with
  | nil => exact ⟨fun _ _ first => by simp at first, fun _ => removesFirst_nil nameOf outcome name⟩
  | cons task tasks =>
    constructor
    · rintro ⟨r, removed, _, erased⟩ first head
      obtain rfl := Option.some.inj head
      rcases removes_cases removed with ⟨empty, _⟩ | ⟨t, others, split, same, ending⟩
      · cases empty
      · obtain ⟨rfl, rfl⟩ := List.cons.inj split
        refine ⟨same, fun escapes => ?_⟩
        have listed := (erased [] task tasks rfl (by simp) same).1
        rcases ending with ⟨_, rfl⟩ | ⟨taken, _⟩
        · simpa using congrArg List.length listed
        · exact taken escapes
    · intro h
      obtain ⟨same, taken⟩ := h task rfl
      exact removesFirst_head nameOf outcome name same taken

/-- The requested conference stands behind another one: `removeTask` never ends. -/
theorem removal_behind_first_spins :
    (∀ fuel, removeTask (fun _ n => n) (loggedStop fun _ => .returned) "b" ["a", "b"] [] fuel = none) ∧
    ¬ RemovesFirst (fun n : String => n) (fun _ => .returned) "b" ["a", "b"] :=
  ⟨removeTask_spins (by decide), fun ⟨_, removed, _⟩ => not_removes (by decide) removed⟩

end Contract
end GstGateway
