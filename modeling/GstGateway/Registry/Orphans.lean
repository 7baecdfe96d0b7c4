import GstGateway.Registry.Overlap

/-! A running conference should stay in the registry, where a later DEL finds it. It does in
every interleaving in which no task is started after it was stopped, and no iterator is used after
the vector was moved or for another task than the one it was meant for. -/

namespace GstGateway.Overlap

/-- Every task that was started and not stopped since is in the registry. -/
def NoOrphan (s : State) : Prop := ∀ a, (s.heap a).running = true → a ∈ s.tasks.elems

/-- No `push_back` has moved the vector since the call took the iterator it uses. `stop()` finds a task there
whose pointers are assigned, and `erase` the task that this `removeTask` stopped. `start()` does not come
after a `stop()` of the task. -/
def InOrder (s : State) (act : Act) : Prop :=
  match s.handlers act.handler with
  | .starting a => (s.heap a).stopped = false
  | .scanning _ iter => iter.buffer = s.tasks.buffer
  | .stopping iter => ∃ a ∈ s.tasks.deref iter, (s.heap a).assigned = pointers
  | .erasing iter a => s.tasks.deref iter = some a
  | _ => True

instance (s : State) (act : Act) : Decidable (InOrder s act) := by
  unfold InOrder
  split <;> infer_instance

/-- What a handler relies on between two of its calls: a task it creates is registered until it is
stopped, and a task it erases has been stopped. -/
def Relies (s : State) : Handler → Prop
  | .assigning a | .searching a | .starting a =>
    a < s.next ∧ (a ∈ s.tasks.elems ∨ (s.heap a).stopped = true)
  | .erasing _ a => a < s.next ∧ (s.heap a).stopped = true
  | _ => True

structure Ordered (s : State) : Prop where
  defined : s.undefined = false
  relies : ∀ i, Relies s (s.handlers i)
  listed : NoOrphan s
  unstopped : ∀ a, (s.heap a).running = true → (s.heap a).stopped = false
  allocated : ∀ a ∈ s.tasks.elems, a < s.next

/-- A step keeps what the other handlers rely on where no allocated task loses its `stopped` mark,
and none that was not stopped leaves the registry. -/
structure Keeps (s t : State) : Prop where
  next : s.next ≤ t.next
  stopped : ∀ a < s.next, (s.heap a).stopped = true → (t.heap a).stopped = true
  tasks : ∀ a ∈ s.tasks.elems, a ∈ t.tasks.elems ∨ (s.heap a).stopped = true

theorem relies_keeps {s t : State} {h : Handler} (keeps : Keeps s t) (relies : Relies s h) : Relies t h := by
  have created : ∀ a, a < s.next ∧ (a ∈ s.tasks.elems ∨ (s.heap a).stopped = true) →
      a < t.next ∧ (a ∈ t.tasks.elems ∨ (t.heap a).stopped = true) := by
    rintro a ⟨old, listed | stopped⟩
    · exact ⟨Nat.lt_of_lt_of_le old keeps.next, (keeps.tasks a listed).imp_right (keeps.stopped a old)⟩
    · exact ⟨Nat.lt_of_lt_of_le old keeps.next, Or.inr (keeps.stopped a old stopped)⟩
  cases h with
  | assigning a => exact created a relies
  | searching a => exact created a relies
  | starting a => exact created a relies
  | erasing iter a => exact ⟨Nat.lt_of_lt_of_le relies.1 keeps.next, keeps.stopped a relies.1 relies.2⟩
  | _ => trivial

theorem relies_goto {s t : State} {i : Nat} {h : Handler} (relies : ∀ j, Relies s (s.handlers j))
    (same : t.handlers = s.handlers) (keeps : Keeps s t) (mine : Relies t h) :
    ∀ j, Relies (t.goto i h) ((t.goto i h).handlers j) := by
  intro j
  rw [goto_handlers]
  split
  · cases h <;> exact mine
  · rw [same]
    have kept := relies_keeps keeps (relies j)
    generalize s.handlers j = other at kept ⊢
    cases other <;> exact kept

theorem mem_eraseIdx_of_ne {tasks : List Addr} {pos : Nat} {a b : Addr} (there : tasks[pos]? = some a)
    (member : b ∈ tasks) (other : b ≠ a) : b ∈ tasks.eraseIdx pos := by
  obtain ⟨k, found⟩ := List.mem_iff_getElem?.mp member
  refine List.mem_eraseIdx_iff_getElem?.mpr ⟨k, ?_, found⟩
  rintro rfl
  exact other (Option.some.inj (found.symm.trans there))

theorem ordered_goto {s : State} {i : Nat} {h : Handler} (ordered : Ordered s) (mine : Relies s h) :
    Ordered (s.goto i h) where
  defined := ordered.defined
  relies := relies_goto ordered.relies rfl ⟨Nat.le_refl _, fun _ _ h => h, fun _ h => Or.inl h⟩ mine
  listed := ordered.listed
  unstopped := ordered.unstopped
  allocated := ordered.allocated

theorem ordered_keeps {s t : State} {i : Nat} {h : Handler} (ordered : Ordered s) (fine : t.undefined = s.undefined)
    (same : t.handlers = s.handlers) (keeps : Keeps s t) (listed : NoOrphan t)
    (unstopped : ∀ a, (t.heap a).running = true → (t.heap a).stopped = false)
    (allocated : ∀ a ∈ t.tasks.elems, a < t.next) (mine : Relies t h) : Ordered (t.goto i h) where
  defined := fine.trans ordered.defined
  relies := relies_goto ordered.relies same keeps mine
  listed := listed
  unstopped := unstopped
  allocated := allocated

theorem keeps_write {s : State} {a : Addr} {task : Task}
    (stopped : (s.heap a).stopped = true → task.stopped = true) : Keeps s (s.write a task) where
  next := Nat.le_refl _
  stopped := by
    intro b _ marked
    rw [write_heap]
    split
    · rename_i same
      subst b
      exact stopped marked
    · exact marked
  tasks := fun _ member => Or.inl member

theorem ordered_write {s : State} {i : Nat} {h : Handler} {a : Addr} {task : Task} (ordered : Ordered s)
    (stopped : (s.heap a).stopped = true → task.stopped = true)
    (running : task.running = true → a ∈ s.tasks.elems ∧ task.stopped = false)
    (mine : Relies (s.write a task) h) : Ordered ((s.write a task).goto i h) := by
  refine ordered_keeps ordered rfl rfl (keeps_write stopped) ?_ ?_ ordered.allocated mine
  · intro b runs
    rw [write_heap] at runs
    split at runs
    · rename_i same
      subst b
      exact (running runs).1
    · exact ordered.listed b runs
  · intro b runs
    by_cases same : b = a
    · rw [write_heap, if_pos same] at runs ⊢
      exact (running runs).2
    · rw [write_heap, if_neg same] at runs ⊢
      exact ordered.unstopped b runs

theorem ordered_add {s : State} {i slack : Nat} {name : String} (ordered : Ordered s) :
    Ordered ((s.add name slack).goto i (.assigning s.next)) := by
  have heap : ∀ b, ((s.add name slack).heap b).running = true →
      (s.add name slack).heap b = s.heap b ∧ b ∈ s.tasks.elems := by
    intro b runs
    rw [add_heap] at runs ⊢
    split at runs
    · cases runs
    · rename_i other
      exact ⟨if_neg other, ordered.listed b runs⟩
  refine ordered_keeps ordered rfl rfl ⟨Nat.le_succ _, ?_, ?_⟩ ?_ ?_ ?_ ?_
  · intro b old marked
    rwa [add_heap, if_neg (Nat.ne_of_lt old)]
  · exact fun b member => Or.inl (mem_add.mpr (Or.inl member))
  · exact fun b runs => mem_add.mpr (Or.inl (heap b runs).2)
  · intro b runs
    have old := (heap b runs).1
    rw [old] at runs ⊢
    exact ordered.unstopped b runs
  · intro b member
    rcases mem_add.mp member with old | rfl
    · exact Nat.lt_succ_of_lt (ordered.allocated b old)
    · exact Nat.lt_succ_self _
  · exact ⟨Nat.lt_succ_self _, Or.inl (mem_add.mpr (Or.inr rfl))⟩

theorem ordered_erase {s : State} {i : Nat} {iter : Vec.Iterator} {a : Addr} (ordered : Ordered s)
    (there : s.tasks.deref iter = some a) (stopped : (s.heap a).stopped = true) :
    Ordered ({ s with tasks := s.tasks.erase iter }.goto i .done) := by
  have here := (Vec.deref_eq_some.mp there).2
  refine ordered_keeps ordered rfl rfl ⟨Nat.le_refl _, fun _ _ h => h, ?_⟩ ?_ ordered.unstopped ?_ trivial
  · intro b member
    by_cases same : b = a
    · exact Or.inr (same ▸ stopped)
    · exact Or.inl (mem_eraseIdx_of_ne here member same)
  · intro b runs
    refine mem_eraseIdx_of_ne here (ordered.listed b runs) ?_
    rintro rfl
    exact absurd stopped (by rw [ordered.unstopped b runs]; decide)
  · exact fun b member => ordered.allocated b (List.mem_of_mem_eraseIdx member)

theorem ordered_turn {s : State} {i : Nat} {name : String} {iter : Vec.Iterator} (ordered : Ordered s)
    (current : iter.buffer = s.tasks.buffer) : Ordered (s.turn i name iter) := by
  unfold State.turn
  rw [if_pos current]
  split
  · exact ordered_goto ordered trivial
  · split <;> exact ordered_goto ordered trivial

theorem ordered_stop {s : State} {i : Nat} {iter : Vec.Iterator} {a : Addr} (ordered : Ordered s)
    (there : s.tasks.deref iter = some a) (built : (s.heap a).assigned = pointers) : Ordered (s.stop i iter) := by
  unfold State.stop
  simp only [there, if_pos built]
  refine ordered_write ordered (fun _ => rfl) (fun runs => by cases runs) ?_
  exact ⟨ordered.allocated a (Vec.mem_of_deref there), by simp [write_heap]⟩

theorem ordered_step {s t : State} {act : Act} (ordered : Ordered s) (order : InOrder s act)
    (h : step s act = some t) : Ordered t := by
  obtain ⟨i, found, slack⟩ := act
  have relies := ordered.relies i
  simp only [step, ordered.defined, Bool.false_eq_true, if_false] at h
  cases now : s.handlers i <;> simp only [now] at h relies <;> simp only [InOrder, now] at order
  case adding name => cases h; exact ordered_add ordered
  case assigning a =>
    cases h
    refine ordered_write ordered id (fun runs => ⟨ordered.listed a runs, ordered.unstopped a runs⟩) ?_
    split <;> simpa [Relies, write_heap] using relies
  case searching a =>
    cases h
    refine ordered_goto ordered ?_
    split
    · exact relies
    · trivial
  case starting a =>
    cases h
    have listed := relies.2.resolve_right (by rw [order]; decide)
    exact ordered_write ordered id (fun _ => ⟨listed, order⟩) trivial
  case finding name => cases h; exact ordered_turn ordered rfl
  case scanning name iter => cases h; exact ordered_turn ordered order
  case stopping iter =>
    cases h
    obtain ⟨a, there, built⟩ := order
    exact ordered_stop ordered there built
  case erasing iter a =>
    cases h
    unfold State.erase
    rw [if_pos (by rw [order]; rfl)]
    exact ordered_erase ordered order relies.2
  all_goals cases h

theorem ordered_initial (requests : Nat → Option Request) : Ordered (initial requests) where
  defined := rfl
  relies := by
    intro i
    simp only [initial]
    cases requests i with
    | none => trivial
    | some request => cases request <;> trivial
  listed := fun _ runs => by cases runs
  unstopped := fun _ runs => by cases runs
  allocated := fun _ member => by cases member

theorem orphan_stays {s t : State} {a : Addr} {acts : List Act} (old : a < s.next)
    (running : (s.heap a).running = true) (unlisted : a ∉ s.tasks.elems) (ran : Run.run step s acts = some t) :
    (t.heap a).running = true ∧ a ∉ t.tasks.elems := by
  refine (Run.run_invariant (I := fun s => a < s.next ∧ (s.heap a).running = true ∧ a ∉ s.tasks.elems)
    ?_ ⟨old, running, unlisted⟩ ran).2
  rintro s ⟨i, found, slack⟩ t ⟨old, running, unlisted⟩ h
  cases step_moves h with
  | add name slack now =>
    have other : a ≠ s.next := Nat.ne_of_lt old
    refine ⟨Nat.lt_succ_of_lt old, by rw [goto_heap, add_heap, if_neg other]; exact running, fun member => ?_⟩
    rcases mem_add.mp (show a ∈ (s.add name slack).tasks.elems from member) with listed | new
    · exact unlisted listed
    · exact other new
  | assign b now more | assignLast b now last =>
    refine ⟨old, ?_, unlisted⟩
    rw [goto_heap, write_heap]
    split
    · rename_i same
      subst b
      exact running
    · exact running
  | start b now =>
    refine ⟨old, ?_, unlisted⟩
    rw [goto_heap, write_heap]
    split
    · rfl
    · exact running
  | stop iter b now there built =>
    have other : a ≠ b := fun same => unlisted (same ▸ Vec.mem_of_deref there)
    exact ⟨old, by rw [goto_heap, write_heap, if_neg other]; exact running, unlisted⟩
  | erase iter b now there => exact ⟨old, running, fun member => unlisted (List.mem_of_mem_eraseIdx member)⟩
  | _ => exact ⟨old, running, unlisted⟩

/-- In every interleaving whose calls come in order, nothing undefined happens, and no running conference
leaves the registry. -/
theorem no_orphan_in_order (requests : Nat → Option Request) (acts : List Act)
    (inOrder : Run.Meets step InOrder (initial requests) acts) :
    Run.Always step (fun s => s.undefined = false ∧ NoOrphan s) (initial requests) acts :=
  Run.always_imp (fun _ ordered => ⟨ordered.defined, ordered.listed⟩)
    (Run.always_of_meets (fun _ _ _ ordered order h => ordered_step ordered order h)
      (ordered_initial requests) inOrder)

def createAndDelete : Nat → Option Request
  | 0 => some (.get "a")
  | 1 => some (.del "a")
  | _ => none

def getUntilStart : List Act := List.replicate 6 { handler := 0 }

def wholeDel : List Act := List.replicate 3 { handler := 1 }

/-- The DEL waits until the GET has called `start()`. -/
theorem no_orphan_get_then_del : Run.Always step (fun s => s.undefined = false ∧ NoOrphan s)
    (initial createAndDelete) (getUntilStart ++ [{ handler := 0 }] ++ wholeDel) :=
  no_orphan_in_order createAndDelete _ (Run.meets_of_check (by decide))

/-- A GET that comes between the `stop()` and the `erase` of the DEL moves the vector away. -/
example : ∃ t, Run.run step (initial fun i => if i = 1 then some (.del "a") else some (.get "a"))
    (List.replicate 7 { handler := 0 } ++ List.replicate 2 { handler := 1 } ++ [{ handler := 2 }, { handler := 1 }]) =
      some t ∧ t.undefined = true := ⟨_, rfl, rfl⟩

/-- The whole DEL runs between `init()` and `start()` of the GET: the conference runs, and no
request can find it. -/
theorem del_before_start_orphans :
    (∃ t, Run.run step (initial createAndDelete) (getUntilStart ++ wholeDel ++ [{ handler := 0 }]) = some t ∧
      t.undefined = false ∧ (t.heap 0).running = true ∧ t.tasks.elems = []) ∧
    ¬ Run.Always step NoOrphan (initial createAndDelete) (getUntilStart ++ wholeDel ++ [{ handler := 0 }]) := by
  refine ⟨⟨_, rfl, rfl, rfl, rfl⟩, fun always => ?_⟩
  have listed := Run.always_last always rfl 0 rfl
  revert listed
  decide

end GstGateway.Overlap
