import GstGateway.Registry.Overlap
import GstGateway.Rest.Handlers

/-! One handler at a time. Where no other handler's call comes in between, the calls of a handler
that overlapping handlers interleave add up to what `handleGet` and `handleDel` do. -/

namespace GstGateway.Overlap

/-- The registry and the tasks of the two models agree. -/
structure Simulates (m : Memory) (tasks : List Addr) (s : State) : Prop where
  defined : s.undefined = false
  tasks : s.tasks.elems = tasks
  next : s.next = m.next
  built : ∀ a < m.next, (s.heap a).assigned = pointers
  name : ∀ a < m.next, (s.heap a).name = m.nameOf a
  running : ∀ a < m.next, (s.heap a).running = true ↔ .start a ∈ m.calls ∧ .stop a ∉ m.calls
  stopped : ∀ a < m.next, (s.heap a).stopped = true ↔ .stop a ∈ m.calls
  recorded : ∀ a, .start a ∈ m.calls ∨ .stop a ∈ m.calls → a < m.next

/-- Handler `i` leads from `s` to `t` with no call of another in between. -/
def Alone (i : Nat) (s t : State) : Prop :=
  ∃ acts : List Act, (∀ act ∈ acts, act.handler = i) ∧ Run.run step s acts = some t

variable {s t u : State} {i : Nat} {a : Addr} {name : String} {found : Bool}

theorem alone_step (h : step s { handler := i, found } = some t) : Alone i s t :=
  ⟨[{ handler := i, found }], by simp, by rw [Run.run, h]; rfl⟩

theorem alone_trans (first : Alone i s t) (rest : Alone i t u) : Alone i s u := by
  obtain ⟨before, mine, ran⟩ := first
  obtain ⟨after, mine', done⟩ := rest
  refine ⟨before ++ after, List.forall_mem_append.mpr ⟨mine, mine'⟩, ?_⟩
  rw [Run.run_append, ran]
  exact done

theorem alone_assign (left : Nat) (fine : s.undefined = false) (now : s.handlers i = .assigning a)
    (rest : (s.heap a).assigned + (left + 1) = pointers) :
    Alone i s ((s.write a { s.heap a with assigned := pointers }).goto i (.searching a)) := by
  induction left generalizing s with
  | zero =>
    have last : (s.heap a).assigned + 1 = pointers := rest
    have taken : step s { handler := i } =
        some ((s.write a { s.heap a with assigned := pointers }).goto i (.searching a)) := by
      simp [step, fine, now, last]
    exact alone_step taken
  | succ left ih =>
    have more : (s.heap a).assigned + 1 ≠ pointers := by omega
    have taken : step s { handler := i } =
        some ((s.write a { s.heap a with assigned := (s.heap a).assigned + 1 }).goto i (.assigning a)) := by
      simp [step, fine, now, more]
    refine alone_trans (alone_step taken) ?_
    have remaining := ih (s := (s.write a { s.heap a with assigned := (s.heap a).assigned + 1 }).goto i
      (.assigning a)) fine (by simp [goto_handlers]) (by simp [write_heap]; omega)
    convert remaining using 1
    simp [State.goto, State.write, Function.update_idem]

/-- `addNewTask` and the assignments of `init()`. -/
def State.created (s : State) (i : Nat) (name : String) : State where
  tasks := s.tasks.pushBack s.next 0
  heap := Function.update s.heap s.next { name, assigned := pointers }
  next := s.next + 1
  handlers := Function.update s.handlers i (.searching s.next)

theorem alone_create (fine : s.undefined = false) (now : s.handlers i = .adding name) :
    Alone i s (s.created i name) := by
  have taken : step s { handler := i } = some ((s.add name 0).goto i (.assigning s.next)) := by
    simp [step, fine, now]
  refine alone_trans (alone_step taken) ?_
  have assigned := alone_assign 3 (s := (s.add name 0).goto i (.assigning s.next)) (i := i) (a := s.next) fine
    (by simp [goto_handlers]) (by simp [add_heap, pointers])
  convert assigned using 1
  simp [State.created, State.goto, State.write, State.add, Function.update_idem, fine]

/-- `removeTask`, with the task it stops and erases in front. -/
def State.removed (s : State) (i : Nat) (a : Addr) : State where
  tasks := s.tasks.erase s.tasks.start
  heap := Function.update s.heap a { s.heap a with running := false, stopped := true }
  next := s.next
  handlers := Function.update s.handlers i .done

theorem alone_remove {others : List Addr} (fine : s.undefined = false) (now : s.handlers i = .finding name)
    (split : s.tasks.elems = a :: others) (same : (s.heap a).name = name) (built : (s.heap a).assigned = pointers) :
    Alone i s (s.removed i a) := by
  have there : s.tasks.deref s.tasks.start = some a := by simp [Vec.deref, Vec.start, split]
  have find : step s { handler := i } = some (s.goto i (.stopping s.tasks.start)) := by
    simp [step, fine, now, State.turn, Vec.start, split, same]
  have stop : step (s.goto i (.stopping s.tasks.start)) { handler := i } =
      some (((s.goto i (.stopping s.tasks.start)).write a { s.heap a with running := false, stopped := true }).goto i
        (.erasing s.tasks.start a)) := by
    simp [step, fine, goto_handlers, State.stop, there, built]
  have erase : step (((s.goto i (.stopping s.tasks.start)).write a
      { s.heap a with running := false, stopped := true }).goto i (.erasing s.tasks.start a)) { handler := i } =
      some (s.removed i a) := by
    simp [step, State.erase, State.removed, State.goto, State.write, there, fine, Function.update_idem]
  exact alone_trans (alone_step find) (alone_trans (alone_step stop) (alone_step erase))

theorem alone_absent (fine : s.undefined = false) (now : s.handlers i = .finding name)
    (empty : s.tasks.elems = []) : Alone i s (s.goto i .done) := by
  have taken : step s { handler := i } = some (s.goto i .done) := by
    simp [step, fine, now, State.turn, Vec.start, empty]
  exact alone_step taken

variable {codePage : String → String} {p : GetParams} {answers : Nat → Attempt} {w w' : World}

theorem simulates_created (codePage : String → String) (p : GetParams) (answers : Nat → Attempt) (i : Nat)
    (simulates : Simulates w.toMemory w.tasks s) :
    Simulates (initialised codePage p answers w).2.toMemory (initialised codePage p answers w).2.tasks
      (s.created i (WString2String codePage p.conferenceName)) := by
  obtain ⟨defined, tasks, next, built, named, running, stopped, recorded⟩ := simulates
  have noStart : .start w.next ∉ w.calls := fun call => Nat.lt_irrefl _ (recorded _ (Or.inl call))
  have noStop : .stop w.next ∉ w.calls := fun call => Nat.lt_irrefl _ (recorded _ (Or.inr call))
  have old : ∀ b < w.next + 1, b ≠ w.next → b < w.next :=
    fun b bound other => Nat.lt_of_le_of_ne (Nat.le_of_lt_succ bound) other
  have heap : ∀ b, (s.created i (WString2String codePage p.conferenceName)).heap b =
      if b = w.next then { name := WString2String codePage p.conferenceName, assigned := pointers } else s.heap b := by
    intro b
    rw [← next]
    exact Function.update_apply ..
  constructor
  · rfl
  · rw [initialised_tasks, ← tasks, ← next]
    exact Vec.pushBack_elems
  · exact congrArg (· + 1) next
  · intro b bound
    rw [heap]
    split
    · rfl
    · rename_i other
      exact built b (old b bound other)
  · intro b bound
    rw [heap, initialised_nameOf]
    split
    · rfl
    · rename_i other
      exact named b (old b bound other)
  · intro b bound
    rw [heap, initialised_calls]
    split
    · rename_i same
      subst same
      exact iff_of_false Bool.false_ne_true fun call => noStart call.1
    · rename_i other
      exact running b (old b bound other)
  · intro b bound
    rw [heap, initialised_calls]
    split
    · rename_i same
      subst same
      exact iff_of_false Bool.false_ne_true noStop
    · rename_i other
      exact stopped b (old b bound other)
  · exact fun b call => Nat.lt_succ_of_lt (recorded b call)

theorem simulates_goto {m : Memory} {tasks : List Addr} {h : Handler} (simulates : Simulates m tasks s) :
    Simulates m tasks (s.goto i h) :=
  ⟨simulates.defined, simulates.tasks, simulates.next, simulates.built, simulates.name, simulates.running,
    simulates.stopped, simulates.recorded⟩

theorem simulates_started (simulates : Simulates w.toMemory w.tasks s) (noStop : .stop a ∉ w.calls)
    (allocated : a < w.next) :
    Simulates (w.start a).toMemory (w.start a).tasks
      ((s.write a { s.heap a with running := true }).goto i .done) := by
  obtain ⟨defined, tasks, next, built, named, running, stopped, recorded⟩ := simulates
  have calls : (w.start a).calls = w.calls ++ [.start a] := rfl
  refine ⟨defined, tasks, next, fun b bound => ?_, fun b bound => ?_, fun b bound => ?_, fun b bound => ?_,
    fun b call => ?_⟩
  · rw [goto_heap, write_heap]
    split
    · rename_i same
      exact same ▸ built b bound
    · exact built b bound
  · have kept : (w.start a).nameOf b = w.nameOf b := by
      simp only [World.start, Memory.nameOf, Function.update_apply]
      split
      · rename_i same
        rw [same]
        rfl
      · rfl
    rw [goto_heap, write_heap, kept, ← named b bound]
    split
    · rename_i same
      rw [same]
    · rfl
  · rw [goto_heap, write_heap, calls]
    split
    · rename_i same
      subst same
      simp [noStop]
    · rename_i other
      simp [running b bound, other]
  · rw [goto_heap, write_heap, calls]
    split
    · rename_i same
      subst same
      simp [stopped b bound]
    · simp [stopped b bound]
  · rw [calls] at call
    simp only [List.mem_append, List.mem_singleton, Call.start.injEq, reduceCtorEq, or_false] at call
    rcases call with (before | rfl) | before
    · exact recorded b (Or.inl before)
    · exact allocated
    · exact recorded b (Or.inr before)

theorem simulates_removed {others : List Addr} (simulates : Simulates w.toMemory w.tasks s)
    (split : w.tasks = a :: others) : Simulates (w.stop a).2 others (s.removed i a) := by
  obtain ⟨defined, tasks, next, built, named, running, stopped, recorded⟩ := simulates
  have calls : (w.stop a).2.calls = w.calls ++ [.stop a] := rfl
  have heap : ∀ b, (s.removed i a).heap b =
      if b = a then { s.heap a with running := false, stopped := true } else s.heap b :=
    fun b => Function.update_apply ..
  have left : (s.removed i a).tasks.elems = others := by
    rw [State.removed, Vec.erase_elems, tasks, split]
    rfl
  refine ⟨rfl, left, next, fun b bound => ?_, fun b bound => ?_, fun b bound => ?_, fun b bound => ?_,
    fun b call => ?_⟩
  · rw [heap]
    split
    · rename_i same
      exact same ▸ built b bound
    · exact built b bound
  · rw [heap, stop_nameOf, ← named b bound]
    split
    · rename_i same
      rw [same]
    · rfl
  · rw [heap, calls]
    split
    · rename_i same
      subst same
      simp
    · rename_i other
      simp [running b bound, other]
  · rw [heap, calls]
    split
    · rename_i same
      subst same
      simp
    · rename_i other
      simp [stopped b bound, other]
  · rw [calls] at call
    simp only [List.mem_append, List.mem_singleton, Call.stop.injEq, reduceCtorEq, or_false] at call
    rcases call with before | before | rfl
    · exact recorded b (Or.inl before)
    · exact recorded b (Or.inr before)
    · exact w.registered b (by rw [split]; exact List.mem_cons_self)

theorem removal_simulated {tasks : List Addr} {m : Memory} (simulates : Simulates w.toMemory w.tasks s)
    (now : s.handlers i = .finding name) (removal : Removal w name tasks m) :
    ∃ t, Alone i s t ∧ Simulates m tasks t ∧ t.handlers = Function.update s.handlers i .done := by
  cases removal with
  | none empty =>
    refine ⟨_, alone_absent simulates.defined now (simulates.tasks.trans empty), ?_, rfl⟩
    rw [empty] at simulates
    exact simulates_goto simulates
  | first a others split same =>
    have allocated := w.registered a (by rw [split]; exact List.mem_cons_self)
    have named := (simulates.name a allocated).trans same
    exact ⟨_, alone_remove simulates.defined now (simulates.tasks.trans split) named (simulates.built a allocated),
      simulates_removed simulates split, rfl⟩

theorem createTask_simulated {h : Handled} {fuel : Nat} (simulates : Simulates w.toMemory w.tasks s)
    (now : s.handlers i = .adding (WString2String codePage p.conferenceName))
    (ended : createTask codePage p answers w fuel = some h) :
    ∃ t, Alone i s t ∧ Simulates h.world.toMemory h.world.tasks t ∧
      t.handlers = Function.update s.handlers i .done := by
  have created := simulates_created codePage p answers i simulates
  have alone := alone_create simulates.defined now
  have searching : (s.created i (WString2String codePage p.conferenceName)).handlers i = .searching w.next := by
    rw [← simulates.next]
    exact Function.update_self ..
  have others : ∀ h', Function.update (s.created i (WString2String codePage p.conferenceName)).handlers i h' =
      Function.update s.handlers i h' := fun h' => Function.update_idem ..
  generalize s.created i (WString2String codePage p.conferenceName) = t at created alone searching others
  cases createTask_cases ended with
  | started ok =>
    have search : step t { handler := i } = some (t.goto i (.starting w.next)) := by
      simp [step, created.defined, searching]
    have start : step (t.goto i (.starting w.next)) { handler := i } = some (((t.goto i (.starting w.next)).write w.next
        { (t.goto i (.starting w.next)).heap w.next with running := true }).goto i .done) := by
      simp [step, created.defined, goto_handlers]
    refine ⟨_, alone_trans alone (alone_trans (alone_step search) (alone_step start)), ?_, ?_⟩
    · refine simulates_started (simulates_goto created) (fun call => ?_) (Nat.lt_succ_self _)
      exact Nat.lt_irrefl _ (simulates.recorded _ (Or.inr call))
    · simp [State.goto, State.write, others]
  | rolledBack failed w' removed =>
    have named : (t.heap w.next).name = WString2String codePage p.conferenceName := by
      rw [created.name _ (Nat.lt_succ_self _), initialised_nameOf, if_pos rfl]
    have search : step t { handler := i, found := false } =
        some (t.goto i (.finding (WString2String codePage p.conferenceName))) := by
      simp [step, created.defined, searching, named]
    have finding : (t.goto i (.finding (WString2String codePage p.conferenceName))).handlers i =
        .finding (WString2String codePage p.conferenceName) := by simp [goto_handlers]
    obtain ⟨u, rest, final, handlers⟩ :=
      removal_simulated (simulates_goto created) finding (World.removeTask_cases removed)
    refine ⟨u, alone_trans alone (alone_trans (alone_step search) rest), final, ?_⟩
    rw [handlers]
    simp [State.goto, others]

theorem handleDel_simulated {h : Handled} {fuel : Nat} {query : Query} {wide : String}
    (simulates : Simulates w.toMemory w.tasks s) (named : query.lookup conferenceNameStr = some wide)
    (now : s.handlers i = .finding (WString2String codePage wide))
    (ended : handleDel codePage query w fuel = some h) :
    ∃ t, Alone i s t ∧ Simulates h.world.toMemory h.world.tasks t ∧
      t.handlers = Function.update s.handlers i .done := by
  obtain ⟨w', removed, rfl⟩ := handleDel_cases named ended
  exact removal_simulated simulates now (World.removeTask_cases removed)

end GstGateway.Overlap
