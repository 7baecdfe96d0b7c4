import Mathlib.Logic.Function.Basic
import GstGateway.Foundation.Run
import GstGateway.Foundation.Vec
import GstGateway.Receiver.Winsock

/-! Overlapping handlers. The HTTP library runs them on a pool of threads, and nothing guards
`MediaProcessManager::tasks`: each call a handler makes is one step, and the steps of any number
of handlers interleave freely. -/

namespace GstGateway.Overlap

structure Task where
  name : String := ""
  /-- How many of its four pointers `init()` has assigned. The constructor assigns none. -/
  assigned : Nat := 0
  /-- `start()` has run, and `stop()` has not been called since. -/
  running : Bool := false
  stopped : Bool := false

/-- `rtpVideoProcessor`, `rtpAudioProcessor`, `rtpVideoReceiver`, `rtpAudioReceiver`. -/
def pointers : Nat := 4

/-- The call a handler is about to make. `erasing` also knows the task that was stopped: the code itself
keeps only the iterator. -/
inductive Handler where
  | idle
  | adding (name : String)
  | assigning (a : Addr)
  | searching (a : Addr)
  | starting (a : Addr)
  | finding (name : String)
  | scanning (name : String) (iter : Vec.Iterator)
  | stopping (iter : Vec.Iterator)
  | erasing (iter : Vec.Iterator) (a : Addr)
  | done
  deriving DecidableEq, Repr

inductive Request where
  | get (name : String)
  | del (name : String)

structure State where
  tasks : Vec Addr := .empty
  heap : Addr → Task := fun _ => {}
  next : Addr := 0
  handlers : Nat → Handler
  /-- An iterator was used that is past the end or in a buffer that was given up, or a pointer before
  `init()` assigned it. -/
  undefined : Bool := false

def Handler.entry : Option Request → Handler
  | none => .idle
  | some (.get name) => .adding name
  | some (.del name) => .finding name

def initial (requests : Nat → Option Request) : State := { handlers := fun i => .entry (requests i) }

namespace State

def goto (s : State) (i : Nat) (h : Handler) : State :=
  { s with handlers := Function.update s.handlers i h }

def write (s : State) (a : Addr) (task : Task) : State := { s with heap := Function.update s.heap a task }

def fault (s : State) : State := { s with undefined := true }

/-- `tasks.push_back(new MediaProcessTask(name))`. -/
def add (s : State) (name : String) (slack : Nat) : State :=
  { s with
    tasks := s.tasks.pushBack s.next slack
    heap := Function.update s.heap s.next { name }
    next := s.next + 1 }

/-- One turn of the loop of `removeTask`, which never advances its iterator. -/
def turn (s : State) (i : Nat) (name : String) (iter : Vec.Iterator) : State :=
  if iter.buffer = s.tasks.buffer then
    match s.tasks.elems[iter.index]? with
    | none => s.goto i .done
    | some a => s.goto i (if (s.heap a).name = name then .stopping iter else .scanning name iter)
  else s.fault

/-- `(*iter)->stop()`: the call goes through the iterator again, to whatever stands there now. -/
def stop (s : State) (i : Nat) (iter : Vec.Iterator) : State :=
  match s.tasks.deref iter with
  | none => s.fault
  | some a =>
    if (s.heap a).assigned = pointers then
      (s.write a { s.heap a with running := false, stopped := true }).goto i (.erasing iter a)
    else s.fault

def erase (s : State) (i : Nat) (iter : Vec.Iterator) : State :=
  if (s.tasks.deref iter).isSome then { s with tasks := s.tasks.erase iter }.goto i .done else s.fault

end State

/-- The next call of `handler`. `found` is the outcome of the port searches of `init()`, and a new buffer of
the vector has room for `slack` more tasks. -/
structure Act where
  handler : Nat
  found : Bool := true
  slack : Nat := 0
  deriving DecidableEq, Repr

/-- A handler makes its next call. After what C++ leaves undefined nothing more is known. -/
def step (s : State) : Act → Option State
  | ⟨i, found, slack⟩ =>
    if s.undefined then none
    else
      match s.handlers i with
      | .idle | .done => none
      | .adding name => some ((s.add name slack).goto i (.assigning s.next))
      | .assigning a =>
        let task := { s.heap a with assigned := (s.heap a).assigned + 1 }
        some ((s.write a task).goto i (if task.assigned = pointers then .searching a else .assigning a))
      | .searching a => some (s.goto i (if found then .starting a else .finding (s.heap a).name))
      | .starting a => some ((s.write a { s.heap a with running := true }).goto i .done)
      | .finding name => some (s.turn i name s.tasks.start)
      | .scanning name iter => some (s.turn i name iter)
      | .stopping iter => some (s.stop i iter)
      | .erasing iter _ => some (s.erase i iter)

variable {s t : State} {i slack : Nat} {found : Bool} {name : String} {iter : Vec.Iterator} {a : Addr}

/-- The loop of handler `i` is about to look at its iterator, or has just taken it. -/
def Looks (s : State) (i : Nat) (name : String) (iter : Vec.Iterator) : Prop :=
  (s.handlers i = .finding name ∧ iter = s.tasks.start) ∨ s.handlers i = .scanning name iter

inductive Moves (s : State) (i : Nat) : State → Prop where
  | add (name : String) (slack : Nat) (now : s.handlers i = .adding name) :
      Moves s i ((s.add name slack).goto i (.assigning s.next))
  | assign (a : Addr) (now : s.handlers i = .assigning a) (more : (s.heap a).assigned + 1 ≠ pointers) :
      Moves s i ((s.write a { s.heap a with assigned := (s.heap a).assigned + 1 }).goto i (.assigning a))
  | assignLast (a : Addr) (now : s.handlers i = .assigning a) (last : (s.heap a).assigned + 1 = pointers) :
      Moves s i ((s.write a { s.heap a with assigned := (s.heap a).assigned + 1 }).goto i (.searching a))
  | search (a : Addr) (now : s.handlers i = .searching a) : Moves s i (s.goto i (.starting a))
  | giveUp (a : Addr) (name : String) (now : s.handlers i = .searching a) :
      Moves s i (s.goto i (.finding name))
  | start (a : Addr) (now : s.handlers i = .starting a) :
      Moves s i ((s.write a { s.heap a with running := true }).goto i .done)
  | absent (name : String) (iter : Vec.Iterator) (now : Looks s i name iter) : Moves s i (s.goto i .done)
  | find (name : String) (iter : Vec.Iterator) (now : Looks s i name iter) :
      Moves s i (s.goto i (.stopping iter))
  | pass (name : String) (iter : Vec.Iterator) (now : Looks s i name iter) :
      Moves s i (s.goto i (.scanning name iter))
  | stop (iter : Vec.Iterator) (a : Addr) (now : s.handlers i = .stopping iter)
      (there : s.tasks.deref iter = some a) (built : (s.heap a).assigned = pointers) :
      Moves s i
        ((s.write a { s.heap a with running := false, stopped := true }).goto i (.erasing iter a))
  | erase (iter : Vec.Iterator) (a : Addr) (now : s.handlers i = .erasing iter a)
      (there : (s.tasks.deref iter).isSome) :
      Moves s i ({ s with tasks := s.tasks.erase iter }.goto i .done)
  | fault : Moves s i s.fault

theorem turn_moves (now : Looks s i name iter) : Moves s i (s.turn i name iter) := by
  unfold State.turn
  split
  · split
    · exact .absent name iter now
    · split
      · exact .find name iter now
      · exact .pass name iter now
  · exact .fault

theorem stop_moves (now : s.handlers i = .stopping iter) : Moves s i (s.stop i iter) := by
  unfold State.stop
  split
  · exact .fault
  · rename_i a there
    split
    · rename_i built
      exact .stop iter a now there built
    · exact .fault

theorem erase_moves (now : s.handlers i = .erasing iter a) : Moves s i (s.erase i iter) := by
  unfold State.erase
  split
  · rename_i there
    exact .erase iter a now there
  · exact .fault

theorem step_moves (h : step s ⟨i, found, slack⟩ = some t) : Moves s i t := by
  simp only [step] at h
  split at h
  · cases h
  · cases now : s.handlers i <;> simp only [now] at h
    case adding name => cases h; exact .add name slack now
    case assigning a =>
      cases h
      split
      · rename_i last
        exact .assignLast a now last
      · rename_i more
        exact .assign a now more
    case searching a =>
      cases h
      split
      · exact .search a now
      · exact .giveUp a _ now
    case starting a => cases h; exact .start a now
    case finding name => cases h; exact turn_moves (Or.inl ⟨now, rfl⟩)
    case scanning name iter => cases h; exact turn_moves (Or.inr now)
    case stopping iter => cases h; exact stop_moves now
    case erasing iter a => cases h; exact erase_moves now
    all_goals cases h

theorem step_defined (h : step s ⟨i, found, slack⟩ = some t) : s.undefined = false := by
  simp only [step] at h
  split at h
  · cases h
  · rename_i fine
    exact Bool.not_eq_true _ ▸ fine

@[simp] theorem goto_tasks (s : State) (i : Nat) (h : Handler) : (s.goto i h).tasks = s.tasks := rfl
@[simp] theorem goto_heap (s : State) (i : Nat) (h : Handler) : (s.goto i h).heap = s.heap := rfl
@[simp] theorem goto_next (s : State) (i : Nat) (h : Handler) : (s.goto i h).next = s.next := rfl
@[simp] theorem goto_undefined (s : State) (i : Nat) (h : Handler) : (s.goto i h).undefined = s.undefined := rfl
@[simp] theorem write_tasks (s : State) (a : Addr) (t : Task) : (s.write a t).tasks = s.tasks := rfl
@[simp] theorem write_next (s : State) (a : Addr) (t : Task) : (s.write a t).next = s.next := rfl
@[simp] theorem write_undefined (s : State) (a : Addr) (t : Task) : (s.write a t).undefined = s.undefined := rfl
@[simp] theorem add_undefined (s : State) (name : String) (slack : Nat) :
    (s.add name slack).undefined = s.undefined := rfl

theorem goto_handlers (s : State) (i j : Nat) (h : Handler) :
    (s.goto i h).handlers j = if j = i then h else s.handlers j := by
  simp [State.goto, Function.update_apply]

theorem write_heap (s : State) (a b : Addr) (t : Task) :
    (s.write a t).heap b = if b = a then t else s.heap b := by
  simp [State.write, Function.update_apply]

theorem add_heap (s : State) (name : String) (slack : Nat) (b : Addr) :
    (s.add name slack).heap b = if b = s.next then { name } else s.heap b := by
  simp [State.add, Function.update_apply]

theorem mem_add : a ∈ (s.add name slack).tasks.elems ↔ a ∈ s.tasks.elems ∨ a = s.next := by
  rw [State.add, Vec.pushBack_elems, List.mem_append, List.mem_singleton]

end GstGateway.Overlap
