import GstGateway.Foundation.Run
import GstGateway.Rest.Targets

/-! Histories of requests handled one after another. Names are not unique in the registry:
`addNewTask` takes any name, and one DEL removes one task. -/

namespace GstGateway

inductive Request where
  | get (query : Query) (answers : Nat → Attempt)
  | del (query : Query)

/-- A request is handled to its end, within some number of turns of `removeTask`'s loop. -/
def serve (codePage : String → String) (w : World) : Request × Nat → Option World
  | (.get query answers, fuel) => (handleGet codePage query answers w fuel).map Handled.world
  | (.del query, fuel) => (handleDel codePage query w fuel).map Handled.world

def Listed (calls : List Call) (tasks : List Addr) : Prop :=
  ∀ a, .start a ∈ calls → .stop a ∈ calls ∨ a ∈ tasks

/-- Nothing is left of the conferences of a name: none is registered, and all that were started
have been stopped. -/
def Gone (w : World) (name : String) : Prop :=
  (∀ a ∈ w.tasks, w.nameOf a ≠ name) ∧ ∀ a, .start a ∈ w.calls → w.nameOf a = name → .stop a ∈ w.calls

variable {codePage : String → String} {query : Query} {answers : Nat → Attempt} {w : World}
  {fuel : Nat} {h : Handled} {name : String}

theorem removal_listed {tasks : List Addr} {m : Memory} (listed : Listed w.calls w.tasks)
    (removal : Removal w name tasks m) : Listed m.calls tasks := by
  cases removal with
  | none empty => rwa [empty] at listed
  | first a others split same =>
    intro b started
    simp only [Memory.stop, List.mem_append, List.mem_singleton, reduceCtorEq, or_false] at started ⊢
    rcases listed b started with stopped | member
    · exact Or.inl (Or.inl stopped)
    · rw [split] at member
      rcases List.mem_cons.mp member with rfl | kept
      · exact Or.inl (Or.inr rfl)
      · exact Or.inr kept

theorem createTask_listed {p : GetParams} (listed : Listed w.calls w.tasks)
    (ended : createTask codePage p answers w fuel = some h) : Listed h.world.calls h.world.tasks := by
  have added : Listed (initialised codePage p answers w).2.calls (initialised codePage p answers w).2.tasks :=
    fun a started => (listed a started).imp_right fun member => by
      rw [initialised_tasks]
      exact List.mem_append_left _ member
  cases createTask_cases ended with
  | started ok =>
    intro a started
    simp only [World.start, List.mem_append, List.mem_singleton, Call.start.injEq] at started ⊢
    rcases started with before | rfl
    · exact (added a before).imp_left Or.inl
    · exact Or.inr (by rw [initialised_tasks]; simp)
  | rolledBack failed w' removed => exact removal_listed added (World.removeTask_cases removed)

theorem handleDel_removal {wide : String} (named : query.lookup conferenceNameStr = some wide)
    (ended : handleDel codePage query w fuel = some h) :
    Removal w (WString2String codePage wide) h.world.tasks h.world.toMemory := by
  obtain ⟨w', removed, rfl⟩ := handleDel_cases named ended
  exact World.removeTask_cases removed

theorem serve_listed {w' : World} {request : Request × Nat} (listed : Listed w.calls w.tasks)
    (served : serve codePage w request = some w') : Listed w'.calls w'.tasks := by
  obtain ⟨request, fuel⟩ := request
  cases request with
  | get query answers =>
    obtain ⟨h, ended, rfl⟩ := Option.map_eq_some_iff.mp served
    unfold handleGet at ended
    split at ended
    · cases ended
      exact listed
    · cases ended
      exact listed
    · exact createTask_listed listed ended
  | del query =>
    obtain ⟨h, ended, rfl⟩ := Option.map_eq_some_iff.mp served
    cases named : query.lookup conferenceNameStr with
    | none =>
      simp only [handleDel, named] at ended
      cases ended
      exact listed
    | some wide => exact removal_listed listed (handleDel_removal named ended)

theorem history_listed {requests : List (Request × Nat)}
    (history : Run.run (serve codePage) {} requests = some w) : Listed w.calls w.tasks :=
  Run.run_invariant (I := fun w : World => Listed w.calls w.tasks)
    (fun _ _ _ listed served => serve_listed listed served) (fun _ started => by cases started) history

theorem removal_nameOf {tasks : List Addr} {m : Memory} (removal : Removal w name tasks m) (a : Addr) :
    m.nameOf a = w.nameOf a := by
  cases removal with
  | none => rfl
  | first b => exact stop_nameOf _ _ _

def World.count (w : World) (name : String) : Nat := w.tasks.countP fun a => w.nameOf a = name

theorem removal_count {tasks : List Addr} {m : Memory} (removal : Removal w name tasks m) :
    w.count name ≤ 1 ↔ ∀ a ∈ tasks, m.nameOf a ≠ name := by
  simp only [removal_nameOf removal]
  cases removal with
  | none empty => simp [World.count, empty]
  | first a _ split same =>
    have others := List.countP_eq_zero (p := fun a => decide (w.nameOf a = name)) (l := tasks)
    simp only [decide_eq_true_eq] at others
    simp only [World.count, split, List.countP_cons, same, decide_true, if_true]
    exact Iff.trans (by omega) others

theorem gone_iff_single {w' : World} (listed : Listed w.calls w.tasks)
    (removal : Removal w name w'.tasks w'.toMemory) : Gone w' name ↔ w.count name ≤ 1 := by
  rw [removal_count removal]
  refine ⟨And.left, fun none => ⟨none, fun a started same => ?_⟩⟩
  rcases removal_listed listed removal a started with stopped | member
  · exact stopped
  · exact absurd same (none a member)

/-- The first task of the name, if there is one, is stopped and erased; all others stay. -/
def ErasesFirst (w w' : World) (name : String) : Prop :=
  ((∀ a ∈ w.tasks, w.nameOf a ≠ name) ∧ w'.tasks = w.tasks) ∨
  ∃ before a after, w.tasks = before ++ a :: after ∧ (∀ b ∈ before, w.nameOf b ≠ name) ∧
    w.nameOf a = name ∧ w'.tasks = before ++ after ∧ .stop a ∈ w'.calls

theorem removal_erasesFirst {w' : World} (removal : Removal w name w'.tasks w'.toMemory) :
    ErasesFirst w w' name := by
  unfold ErasesFirst
  generalize w'.tasks = tasks at removal ⊢
  generalize w'.toMemory = m at removal ⊢
  cases removal with
  | none empty => exact Or.inl ⟨by simp [empty], empty.symm⟩
  | first a _ split same => exact Or.inr ⟨[], a, tasks, split, by simp, same, rfl, by simp [Memory.stop]⟩

/-- One DEL removes and stops the first task of its name. What was started and not stopped stays
registered, and nothing is left of the name exactly when it stood for at most one task. -/
theorem del_removes_first {requests : List (Request × Nat)} {wide : String}
    (history : Run.run (serve codePage) {} requests = some w)
    (named : query.lookup conferenceNameStr = some wide)
    (ended : handleDel codePage query w fuel = some h) :
    ErasesFirst w h.world (WString2String codePage wide) ∧ Listed h.world.calls h.world.tasks ∧
    (Gone h.world (WString2String codePage wide) ↔ w.count (WString2String codePage wide) ≤ 1) := by
  have listed := history_listed history
  have removal := handleDel_removal named ended
  exact ⟨removal_erasesFirst removal, removal_listed listed removal, gone_iff_single listed removal⟩

def delA : Query := [("conferenceName", "a")]

theorem del_after_one_get : ∃ w h, Run.run (serve id) {} [(.get (getA "") allBound, 0)] = some w ∧
    handleDel id delA w 1 = some h ∧ Gone h.world "a" := by
  obtain ⟨w, history, single⟩ : ∃ w, Run.run (serve id) {} [(.get (getA "") allBound, 0)] = some w ∧
      w.count "a" ≤ 1 := ⟨_, rfl, by decide⟩
  obtain ⟨h, ended⟩ : ∃ h, handleDel id delA w 1 = some h := by
    cases history
    exact ⟨_, rfl⟩
  have named : delA.lookup conferenceNameStr = some "a" := by decide
  have text : WString2String id "a" = "a" := by decide
  have gone := (del_removes_first history named ended).2.2
  rw [text] at gone
  exact ⟨w, h, history, ended, gone.mpr single⟩

/-- A client that repeats its GET registers the name twice; one DEL leaves the second conference
registered and running. -/
theorem del_after_repeated_get : ∃ w h,
    Run.run (serve id) {} [(.get (getA "") allBound, 0), (.get (getA "") allBound, 0)] = some w ∧
      handleDel id delA w 1 = some h ∧ h.world.tasks = [1] ∧ h.world.nameOf 1 = "a" ∧
      .start 1 ∈ h.world.calls ∧ .stop 1 ∉ h.world.calls ∧ ¬ Gone h.world "a" := by
  refine ⟨_, _, rfl, rfl, rfl, rfl, by decide, by decide, fun gone => ?_⟩
  exact gone.1 1 (by decide) rfl

end GstGateway
