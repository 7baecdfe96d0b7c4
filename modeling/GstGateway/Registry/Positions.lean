import Mathlib.Logic.Function.Basic
import GstGateway.Foundation.Run
import GstGateway.Foundation.Vec
import GstGateway.Registry.Removal
import GstGateway.Receiver.Winsock

/-! The position that `removeTask` holds across `stop()`. Other calls of `removeTask` and `addNewTask`
come in between: an erase moves other tasks to the position, and a reallocation leaves it behind. -/

namespace GstGateway.Positions

/-- A call in progress. `stopping` and `erasing` know the task that was located, and the latter the one
that was stopped: the code itself keeps only the iterator. -/
inductive Call where
  | idle
  | adding (name : String)
  | removing (name : String)
  | scanning (name : String) (iter : Vec.Iterator)
  | stopping (name : String) (iter : Vec.Iterator) (located : Addr)
  | erasing (name : String) (iter : Vec.Iterator) (located : Addr) (stopped : Option Addr)
  | done
  deriving DecidableEq, Repr

inductive Request where
  | add (name : String)
  | remove (name : String)

structure State where
  tasks : Vec Addr
  name : Addr → String
  next : Addr
  calls : Nat → Call
  stops : List Addr := []
  /-- An iterator was used that is past the end or in a buffer that was given up. -/
  undefined : Bool := false

def Call.entry : Option Request → Call
  | none => .idle
  | some (.add name) => .adding name
  | some (.remove name) => .removing name

/-- A registry with conferences of these names, in a vector with room for `spare` more. -/
def initial (names : List String) (spare : Nat) (requests : Nat → Option Request) : State where
  tasks := { elems := List.range names.length, capacity := names.length + spare, fits := by simp }
  name := fun a => names.getD a ""
  next := names.length
  calls := fun i => .entry (requests i)

namespace State

def goto (s : State) (i : Nat) (call : Call) : State := { s with calls := Function.update s.calls i call }

/-- `addNewTask`. -/
def add (s : State) (name : String) (slack : Nat) : State :=
  { s with
    tasks := s.tasks.pushBack s.next slack
    name := Function.update s.name s.next name
    next := s.next + 1 }

/-- One turn of the loop of `removeTask`. -/
def turn (s : State) (i : Nat) (name : String) (iter : Vec.Iterator) : State :=
  if iter.buffer = s.tasks.buffer then
    match s.tasks.elems[iter.index]? with
    | none => s.goto i .done
    | some a => s.goto i (if s.name a = name then .stopping name iter a else .scanning name iter)
  else { s with undefined := true }

end State

/-- Call `i` goes on: it locates its task, stops what stands at its iterator, and erases there. A new
buffer has room for `slack` more. Of a stop through an iterator left behind it is not known what it stops. -/
def step (s : State) : Nat × Nat → Option State
  | (i, slack) =>
    if s.undefined then none
    else
      match s.calls i with
      | .idle | .done => none
      | .adding name => some ((s.add name slack).goto i .done)
      | .removing name => some (s.turn i name s.tasks.start)
      | .scanning name iter => some (s.turn i name iter)
      | .stopping name iter located =>
        some ({ s with stops := s.stops ++ (s.tasks.deref iter).toList }.goto i
          (.erasing name iter located (s.tasks.deref iter)))
      | .erasing _ iter _ _ =>
        if (s.tasks.deref iter).isSome then some ({ s with tasks := s.tasks.erase iter }.goto i .done)
        else some { s with undefined := true }

/-- An erase removes the task that the same call located, of its name, and stopped. -/
def ErasesLocated (s : State) (act : Nat × Nat) : Prop :=
  ∀ name iter located stopped, s.calls act.1 = .erasing name iter located stopped →
    s.tasks.deref iter = some located ∧ stopped = some located ∧ s.name located = name

/-- When a call erases, the task it located is still registered, and the vector has not been moved. -/
def Undisturbed (s : State) (act : Nat × Nat) : Prop :=
  ∀ name iter located stopped, s.calls act.1 = .erasing name iter located stopped →
    located ∈ s.tasks.elems ∧ iter.buffer = s.tasks.buffer

variable {s t : State} {i slack : Nat} {name : String} {iter : Vec.Iterator} {a : Addr}

/-- The loop of call `i` is about to look at its iterator, or has just taken it. -/
def Looks (s : State) (i : Nat) (name : String) (iter : Vec.Iterator) : Prop :=
  (s.calls i = .removing name ∧ iter = s.tasks.start) ∨ s.calls i = .scanning name iter

inductive Moves (s : State) (i : Nat) : State → Prop where
  | add (name : String) (slack : Nat) (now : s.calls i = .adding name) : Moves s i ((s.add name slack).goto i .done)
  | absent (name : String) (iter : Vec.Iterator) (now : Looks s i name iter) : Moves s i (s.goto i .done)
  | pass (name : String) (iter : Vec.Iterator) (now : Looks s i name iter) :
      Moves s i (s.goto i (.scanning name iter))
  | locate (name : String) (iter : Vec.Iterator) (a : Addr) (now : Looks s i name iter)
      (current : iter.buffer = s.tasks.buffer) (there : s.tasks.elems[iter.index]? = some a)
      (same : s.name a = name) : Moves s i (s.goto i (.stopping name iter a))
  | stop (name : String) (iter : Vec.Iterator) (located : Addr) (now : s.calls i = .stopping name iter located) :
      Moves s i ({ s with stops := s.stops ++ (s.tasks.deref iter).toList }.goto i
        (.erasing name iter located (s.tasks.deref iter)))
  | erase (name : String) (iter : Vec.Iterator) (located : Addr) (stopped : Option Addr)
      (now : s.calls i = .erasing name iter located stopped) :
      Moves s i ({ s with tasks := s.tasks.erase iter }.goto i .done)
  | fault : Moves s i { s with undefined := true }

theorem turn_moves (now : Looks s i name iter) : Moves s i (s.turn i name iter) := by
  unfold State.turn
  split
  · rename_i current
    split
    · exact .absent name iter now
    · rename_i a there
      split
      · rename_i same
        exact .locate name iter a now current there same
      · exact .pass name iter now
  · exact .fault

theorem step_moves (h : step s (i, slack) = some t) : Moves s i t := by
  simp only [step] at h
  split at h
  · cases h
  · cases now : s.calls i <;> simp only [now] at h
    case adding name => cases h; exact .add name slack now
    case removing name => cases h; exact turn_moves (Or.inl ⟨now, rfl⟩)
    case scanning name iter => cases h; exact turn_moves (Or.inr now)
    case stopping name iter located => cases h; exact .stop name iter located now
    case erasing name iter located stopped =>
      split at h
      · cases h; exact .erase name iter located stopped now
      · cases h; exact .fault
    all_goals cases h

/-- A located task stands at the front for as long as it is registered. -/
def Front (s : State) (a : Addr) : Prop := a ∈ s.tasks.elems → s.tasks.elems.head? = some a

/-- What a call of `removeTask` relies on: its iterator is of the front, and it stopped the task that it
located unless this was erased or moved before. -/
def Relies (s : State) : Call → Prop
  | .scanning _ iter => iter.index = 0 ∧ iter.buffer ≤ s.tasks.buffer
  | .stopping name iter located =>
    (iter.index = 0 ∧ iter.buffer ≤ s.tasks.buffer) ∧ located < s.next ∧ s.name located = name ∧ Front s located
  | .erasing name iter located stopped =>
    (iter.index = 0 ∧ iter.buffer ≤ s.tasks.buffer) ∧ (located < s.next ∧ s.name located = name ∧ Front s located) ∧
      (located ∈ s.tasks.elems → iter.buffer = s.tasks.buffer → stopped = some located)
  | _ => True

structure Placed (s : State) : Prop where
  relies : ∀ i, Relies s (s.calls i)
  nodup : s.tasks.elems.Nodup
  allocated : ∀ a ∈ s.tasks.elems, a < s.next

/-- A step keeps what the other calls rely on where it only appends new tasks, or takes the first away. -/
structure Keeps (s t : State) : Prop where
  buffer : s.tasks.buffer ≤ t.tasks.buffer
  next : s.next ≤ t.next
  name : ∀ a < s.next, t.name a = s.name a
  member : ∀ a < s.next, a ∈ t.tasks.elems → a ∈ s.tasks.elems
  front : ∀ a < s.next, a ∈ t.tasks.elems → s.tasks.elems.head? = some a → t.tasks.elems.head? = some a

theorem relies_keeps {call : Call} (keeps : Keeps s t) (relies : Relies s call) : Relies t call := by
  have iterator : ∀ {iter : Vec.Iterator}, iter.index = 0 ∧ iter.buffer ≤ s.tasks.buffer →
      iter.index = 0 ∧ iter.buffer ≤ t.tasks.buffer := fun held => ⟨held.1, Nat.le_trans held.2 keeps.buffer⟩
  have found : ∀ {a name}, a < s.next ∧ s.name a = name ∧ Front s a → a < t.next ∧ t.name a = name ∧ Front t a := by
    rintro a name ⟨old, same, front⟩
    refine ⟨Nat.lt_of_lt_of_le old keeps.next, (keeps.name a old).trans same, fun listed => ?_⟩
    exact keeps.front a old listed (front (keeps.member a old listed))
  cases call with
  | scanning name iter => exact iterator relies
  | stopping name iter located => exact ⟨iterator relies.1, found relies.2⟩
  | erasing name iter located stopped =>
    obtain ⟨held, located, reached⟩ := relies
    refine ⟨iterator held, found located, fun listed current => ?_⟩
    have unmoved : iter.buffer = s.tasks.buffer :=
      Nat.le_antisymm held.2 (Nat.le_trans keeps.buffer (Nat.le_of_eq current.symm))
    exact reached (keeps.member _ located.1 listed) unmoved
  | _ => trivial

theorem keeps_same (tasks : t.tasks = s.tasks) (next : t.next = s.next) (name : t.name = s.name) : Keeps s t := by
  refine ⟨Nat.le_of_eq (by rw [tasks]), Nat.le_of_eq next.symm, fun a _ => by rw [name], fun a _ listed => ?_,
    fun a _ _ front => ?_⟩
  · rwa [tasks] at listed
  · rwa [tasks]

theorem placed_goto {call : Call} (placed : Placed s) (keeps : Keeps s t) (calls : t.calls = s.calls)
    (nodup : t.tasks.elems.Nodup) (allocated : ∀ a ∈ t.tasks.elems, a < t.next) (mine : Relies t call) :
    Placed (t.goto i call) where
  relies := by
    intro j
    simp only [State.goto, calls, Function.update_apply]
    split
    · cases call <;> exact mine
    · have kept := relies_keeps keeps (placed.relies j)
      generalize s.calls j = other at kept ⊢
      cases other <;> exact kept
  nodup := nodup
  allocated := allocated

theorem looks_iterator (placed : Placed s) (now : Looks s i name iter) :
    iter.index = 0 ∧ iter.buffer ≤ s.tasks.buffer := by
  rcases now with ⟨_, rfl⟩ | now
  · exact ⟨rfl, Nat.le_refl _⟩
  · have relies := placed.relies i
    rw [now] at relies
    exact relies

theorem keeps_add (s : State) (name : String) (slack : Nat) : Keeps s (s.add name slack) where
  buffer := Vec.buffer_le_pushBack
  next := Nat.le_succ _
  name := fun a old => Function.update_of_ne (Nat.ne_of_lt old) _ _
  member := by
    intro a old listed
    simp only [State.add, Vec.pushBack_elems, List.mem_append, List.mem_singleton] at listed
    exact listed.resolve_right (Nat.ne_of_lt old)
  front := by
    intro a _ _ front
    simp only [State.add, Vec.pushBack_elems, List.head?_append, front, Option.some_or]

theorem eraseIdx_front {tasks : List Addr} {index : Nat} (zero : index = 0) : tasks.eraseIdx index = tasks.tail := by
  rw [zero, List.eraseIdx_zero]

theorem keeps_erase (placed : Placed s) (zero : iter.index = 0) :
    Keeps s { s with tasks := s.tasks.erase iter } where
  buffer := Nat.le_refl _
  next := Nat.le_refl _
  name := fun _ _ => rfl
  member := fun _ _ listed => List.mem_of_mem_eraseIdx listed
  front := by
    -- The task at the front is the one that is erased.
    intro a _ listed front
    simp only [Vec.erase_elems, eraseIdx_front zero] at listed
    have nodup := placed.nodup
    cases split : s.tasks.elems with
    | nil => rw [split] at listed; cases listed
    | cons first others =>
      rw [split] at front listed nodup
      cases front
      exact absurd listed (List.nodup_cons.mp nodup).1

theorem placed_step {act : Nat × Nat} (placed : Placed s) (h : step s act = some t) : Placed t := by
  obtain ⟨i, slack⟩ := act
  have relies := placed.relies i
  have still : Keeps s s := keeps_same rfl rfl rfl
  cases step_moves h with
  | add name slack now =>
    refine placed_goto placed (keeps_add s name slack) rfl ?_ ?_ trivial
    · simp only [State.add, Vec.pushBack_elems]
      refine List.nodup_append.mpr ⟨placed.nodup, List.pairwise_singleton _ _, fun a old b new same => ?_⟩
      rw [same, List.mem_singleton.mp new] at old
      exact Nat.lt_irrefl _ (placed.allocated _ old)
    · intro a listed
      simp only [State.add, Vec.pushBack_elems, List.mem_append, List.mem_singleton] at listed ⊢
      rcases listed with old | rfl
      · exact Nat.lt_succ_of_lt (placed.allocated a old)
      · exact Nat.lt_succ_self _
  | absent name iter now => exact placed_goto placed still rfl placed.nodup placed.allocated trivial
  | pass name iter now =>
    exact placed_goto placed still rfl placed.nodup placed.allocated (looks_iterator placed now)
  | locate name iter a now current there same =>
    have held := looks_iterator placed now
    refine placed_goto placed still rfl placed.nodup placed.allocated ⟨held, ?_, same, fun _ => ?_⟩
    · exact placed.allocated a (List.mem_of_getElem? there)
    · rw [held.1] at there
      rwa [List.head?_eq_getElem?]
  | stop name iter located now =>
    rw [now] at relies
    obtain ⟨held, old, same, front⟩ := relies
    refine placed_goto placed (keeps_same rfl rfl rfl) rfl placed.nodup placed.allocated
      ⟨held, ⟨old, same, front⟩, fun listed current => ?_⟩
    have first := front listed
    rw [List.head?_eq_getElem?] at first
    exact Vec.deref_eq_some.mpr ⟨current, held.1 ▸ first⟩
  | erase name iter located stopped now =>
    rw [now] at relies
    refine placed_goto placed (keeps_erase placed relies.1.1) rfl ?_ ?_ trivial
    · exact placed.nodup.sublist (List.eraseIdx_sublist _ _)
    · exact fun a listed => placed.allocated a (List.mem_of_mem_eraseIdx listed)
  | fault => exact ⟨fun j => relies_keeps (keeps_same rfl rfl rfl) (placed.relies j), placed.nodup, placed.allocated⟩

theorem placed_initial (names : List String) (spare : Nat) (requests : Nat → Option Request) :
    Placed (initial names spare requests) where
  relies := by
    intro i
    simp only [initial]
    cases requests i with
    | none => trivial
    | some request => cases request <;> trivial
  nodup := List.nodup_range
  allocated := fun _ listed => List.mem_range.mp listed

theorem erasesLocated_iff {act : Nat × Nat} (placed : Placed s) : ErasesLocated s act ↔ Undisturbed s act := by
  refine forall_congr' fun name => forall_congr' fun iter => forall_congr' fun located => forall_congr' fun stopped =>
    forall_congr' fun now => ?_
  have relies := placed.relies act.1
  rw [now] at relies
  obtain ⟨held, ⟨_, same, front⟩, reached⟩ := relies
  constructor
  · rintro ⟨there, _, _⟩
    exact ⟨Vec.mem_of_deref there, (Vec.deref_eq_some.mp there).1⟩
  · rintro ⟨listed, current⟩
    have first := front listed
    rw [List.head?_eq_getElem?] at first
    exact ⟨Vec.deref_eq_some.mpr ⟨current, held.1 ▸ first⟩, reached listed current, same⟩

/-- In every interleaving, each erase removes the task its call located and stopped exactly when no
other call has erased that task or moved the vector in between. -/
theorem erasesLocated_iff_undisturbed (names : List String) (spare : Nat) (requests : Nat → Option Request)
    (acts : List (Nat × Nat)) :
    Run.Meets step ErasesLocated (initial names spare requests) acts ↔
      Run.Meets step Undisturbed (initial names spare requests) acts :=
  Run.meets_congr (fun _ _ _ placed _ h => placed_step placed h) (fun _ _ _ placed _ => erasesLocated_iff placed)
    (placed_initial names spare requests)

theorem run_three {u v : State} (first : step s (i, 0) = some t) (second : step t (i, 0) = some u)
    (third : step u (i, 0) = some v) : Run.run step s [(i, 0), (i, 0), (i, 0)] = some v := by
  simp [Run.run, first, second, third]

/-- A call that no other comes between does what `removeTask` does. -/
theorem alone_removes {r : Removed (List Addr) Addr} (fine : s.undefined = false) (now : s.calls i = .removing name)
    (removed : Removes (fun _ => s.name) (loggedStop fun _ => .returned) name s.tasks.elems [] r) :
    ∃ turns t, Run.run step s (List.replicate turns (i, 0)) = some t ∧ t.calls i = .done ∧
      t.tasks.elems = r.tasks ∧ t.stops = s.stops ++ r.rest := by
  rcases removes_cases removed with ⟨empty, rfl⟩ | ⟨task, others, split, same, ending⟩
  · have absent : step s (i, 0) = some (s.goto i .done) := by
      simp [step, fine, now, State.turn, Vec.start, empty]
    refine ⟨1, s.goto i .done, by simp [Run.run, absent], Function.update_self .., empty, ?_⟩
    exact (List.append_nil _).symm
  · obtain ⟨escapes, _⟩ | ⟨_, rfl⟩ := ending
    · cases escapes
    · have there : s.tasks.deref s.tasks.start = some task := by simp [Vec.deref, Vec.start, split]
      have locate : step s (i, 0) = some (s.goto i (.stopping name s.tasks.start task)) := by
        simp [step, fine, now, State.turn, Vec.start, split, same]
      have stop : step (s.goto i (.stopping name s.tasks.start task)) (i, 0) =
          some (({ s with stops := s.stops ++ [task] }).goto i
            (.erasing name s.tasks.start task (some task))) := by
        simp [step, fine, State.goto, there]
      have erase : step (({ s with stops := s.stops ++ [task] }).goto i
          (.erasing name s.tasks.start task (some task))) (i, 0) =
          some (({ s with tasks := s.tasks.erase s.tasks.start, stops := s.stops ++ [task] }).goto i .done) := by
        simp [step, fine, State.goto, there]
      refine ⟨3, _, run_three locate stop erase, Function.update_self .., ?_, rfl⟩
      simp [State.goto, Vec.start, split]

def removeTwice : Nat → Option Request
  | 0 | 1 => some (.remove "a")
  | _ => none

def bothLocate : List (Nat × Nat) := [(0, 0), (1, 0), (0, 0), (1, 0), (0, 0)]

/-- The second erase drops `b`, which nobody asked for. -/
theorem second_erase_drops_other :
    (∃ t u, Run.run step (initial ["a", "b"] 0 removeTwice) bothLocate = some t ∧ t.tasks.elems = [1] ∧
      t.name 1 = "b" ∧ step t (1, 0) = some u ∧ u.tasks.elems = []) ∧
    ¬ Run.Meets step ErasesLocated (initial ["a", "b"] 0 removeTwice) (bothLocate ++ [(1, 0)]) := by
  refine ⟨⟨_, _, rfl, rfl, rfl, rfl, rfl⟩, fun meets => ?_⟩
  have erases := Run.meets_last meets rfl rfl "a" ⟨0, 0⟩ 0 (some 0) rfl
  revert erases
  decide

end GstGateway.Positions
