import GstGateway.Registry.Removal
import GstGateway.Conference.Task

/-! The state behind the handlers: every task ever allocated, the registry
`MediaProcessManager::tasks`, and the system's sockets. Requests are handled one after another
here; overlapping handlers are in `Overlap.lean`. -/

namespace GstGateway

inductive Call where
  | start (a : Addr)
  | stop (a : Addr)
  deriving DecidableEq, Repr

/-- Tasks are never freed, so an address below `next` stays valid. -/
structure Memory where
  heap : Addr → MediaProcessTask := fun _ => {}
  next : Addr := 0
  os : Os := {}
  calls : List Call := []

structure World extends Memory where
  tasks : List Addr := []
  registered : ∀ a ∈ tasks, a < next := by intro a member; cases member

def Memory.nameOf (m : Memory) (a : Addr) : String := (m.heap a).name

/-- `task->stop()`. None of the calls in it throws. -/
def Memory.stop (m : Memory) (a : Addr) : StopOutcome × Memory :=
  (.returned, { m with
    heap := Function.update m.heap a ((m.heap a).stop m.os).1
    os := ((m.heap a).stop m.os).2
    calls := m.calls ++ [.stop a] })

theorem stop_nameOf (m : Memory) (a b : Addr) : (m.stop a).2.nameOf b = m.nameOf b := by
  simp only [Memory.stop, Memory.nameOf]
  by_cases same : b = a
  · subst b
    rw [Function.update_self]
    rfl
  · rw [Function.update_of_ne same]

inductive Removal (w : World) (name : String) : List Addr → Memory → Prop where
  | none (empty : w.tasks = []) : Removal w name [] w.toMemory
  | first (a : Addr) (others : List Addr) (split : w.tasks = a :: others)
      (same : w.nameOf a = name) : Removal w name others (w.stop a).2

namespace World

theorem removal_of_removes {w : World} {name : String} {r : Removed Memory Addr}
    (h : Removes Memory.nameOf Memory.stop name w.tasks w.toMemory r) : Removal w name r.tasks r.rest := by
  rcases removes_cases h with ⟨empty, rfl⟩ | ⟨a, others, split, same, ending⟩
  · exact .none empty
  · rcases ending with ⟨escapes, _⟩ | ⟨_, rfl⟩
    · cases escapes
    · exact .first a others split same

theorem removal_registered {w : World} {name : String} {tasks : List Addr} {m : Memory}
    (h : Removal w name tasks m) : ∀ a ∈ tasks, a < m.next := by
  cases h with
  | none => simp
  | first a others split same =>
    intro b member
    exact w.registered b (by rw [split]; exact List.mem_cons_of_mem a member)

/-- `MediaProcessManager::removeTask(name)`, for at most `fuel` turns of its loop. -/
def removeTask (w : World) (name : String) (fuel : Nat) : Option World :=
  (GstGateway.removeTask Memory.nameOf Memory.stop name w.tasks w.toMemory fuel).pmap
    (fun r valid => { r.rest with tasks := r.tasks, registered := valid })
    fun _ ended => removal_registered (removal_of_removes ⟨fuel, ended⟩)

/-- `MediaProcessManager::addNewTask`: the task stands in the registry before it is
initialised. The address to send to is a parameter that no statement reads. -/
def addNewTask (w : World) (name _sinkIP : String) (audioSinkPort videoSinkPort : Int) : Addr × World :=
  (w.next,
   { w with
      heap := Function.update w.heap w.next { name, audioSinkPort, videoSinkPort }
      next := w.next + 1
      tasks := w.tasks ++ [w.next]
      registered := by
        intro a member
        rcases List.mem_append.mp member with old | new
        · exact Nat.lt_succ_of_lt (w.registered a old)
        · exact List.mem_singleton.mp new ▸ Nat.lt_succ_self _ })

def init (w : World) (a : Addr) (answers : Nat → Attempt) : Int × World :=
  let done := (w.heap a).init a answers w.os
  (done.1, { w with heap := Function.update w.heap a done.2.1, os := done.2.2 })

def start (w : World) (a : Addr) : World :=
  { w with heap := Function.update w.heap a (w.heap a).start, calls := w.calls ++ [.start a] }

theorem removeTask_cases {w w' : World} {name : String} {fuel : Nat}
    (h : w.removeTask name fuel = some w') : Removal w name w'.tasks w'.toMemory := by
  obtain ⟨r, _, ended, rfl⟩ := Option.pmap_eq_some_iff.mp h
  exact removal_of_removes ⟨fuel, ended⟩

theorem removeTask_first {w : World} {a : Addr} {others : List Addr} (split : w.tasks = a :: others) :
    ∃ fuel w', w.removeTask (w.nameOf a) fuel = some w' ∧ w'.tasks = others ∧
      w'.toMemory = (w.stop a).2 := by
  have ended : Removes Memory.nameOf Memory.stop (w.nameOf a) w.tasks w.toMemory
      { tasks := others, rest := (w.stop a).2 } := by
    rw [split]
    exact (removes_head rfl (by simp [Memory.stop])).mpr rfl
  have valid := removal_registered (removal_of_removes ended)
  obtain ⟨fuel, ran⟩ := ended
  exact ⟨fuel, { (w.stop a).2 with tasks := others, registered := valid },
    Option.pmap_eq_some_iff.mpr ⟨_, valid, ran, rfl⟩, rfl, rfl⟩

theorem removeTask_spins {w : World} {a : Addr} {others : List Addr} {name : String}
    (split : w.tasks = a :: others) (other : w.nameOf a ≠ name) (fuel : Nat) :
    w.removeTask name fuel = none := by
  refine Option.pmap_eq_none_iff.mpr ?_
  rw [split]
  exact GstGateway.removeTask_spins other fuel

end World
end GstGateway
