import GstGateway.Registry.Orphans

/-! `stop()` goes through four pointers that the constructor leaves without a value. A task stands
in the registry while `init()` still assigns them, so another request's DEL can reach them first. -/

namespace GstGateway.Overlap

/-- `stop()` is executed only on a task whose four pointers are assigned. -/
def StopsInitialised (s : State) (act : Act) : Prop :=
  ∀ iter, s.handlers act.handler = .stopping iter → ∃ a ∈ s.tasks.deref iter, (s.heap a).assigned = pointers

/-- When `stop()` is called, no `push_back` has moved the vector since the iterator was taken, a task stands
there, and its GET is not between `addNewTask` and the last of the four assignments in `init()`. -/
def StopsBuilt (s : State) (act : Act) : Prop :=
  ∀ iter, s.handlers act.handler = .stopping iter →
    iter.buffer = s.tasks.buffer ∧ ∃ a, s.tasks.elems[iter.index]? = some a ∧ ∀ i, s.handlers i ≠ .assigning a

/-- A task lacks a pointer exactly while the one GET that created it is assigning them. -/
structure Constructed (s : State) : Prop where
  partly : ∀ i a, s.handlers i = .assigning a → a < s.next ∧ (s.heap a).assigned < pointers
  alone : ∀ i j a, s.handlers i = .assigning a → s.handlers j = .assigning a → i = j
  fully : ∀ a < s.next, (s.heap a).assigned = pointers ∨ ∃ i, s.handlers i = .assigning a
  allocated : ∀ a ∈ s.tasks.elems, a < s.next

theorem assigned_iff {s : State} {a : Addr} (built : Constructed s) (old : a < s.next) :
    (s.heap a).assigned = pointers ↔ ∀ i, s.handlers i ≠ .assigning a := by
  constructor
  · intro all i now
    have fewer := (built.partly i a now).2
    rw [all] at fewer
    exact Nat.lt_irrefl _ fewer
  · intro none
    exact (built.fully a old).resolve_right fun ⟨i, now⟩ => none i now

theorem constructed_goto {s t : State} {i : Nat} {h : Handler} (built : Constructed s)
    (same : t.handlers = s.handlers) (next : t.next = s.next)
    (assigned : ∀ b, (t.heap b).assigned = (s.heap b).assigned) (tasks : ∀ b ∈ t.tasks.elems, b ∈ s.tasks.elems)
    (was : ∀ a, s.handlers i ≠ .assigning a) (new : ∀ a, h ≠ .assigning a) : Constructed (t.goto i h) := by
  have back : ∀ j a, (t.goto i h).handlers j = .assigning a ↔ s.handlers j = .assigning a := by
    intro j a
    rw [goto_handlers, same]
    split
    · rename_i mine
      subst j
      exact ⟨fun now => absurd now (new a), fun now => absurd now (was a)⟩
    · rfl
  constructor
  · intro j a now
    rw [goto_next, goto_heap, next, assigned]
    exact built.partly j a ((back j a).mp now)
  · exact fun j k a now other => built.alone j k a ((back j a).mp now) ((back k a).mp other)
  · intro a old
    rw [goto_next, next] at old
    rw [goto_heap, assigned]
    exact (built.fully a old).imp_right fun ⟨j, now⟩ => ⟨j, (back j a).mpr now⟩
  · intro a member
    rw [goto_next, next]
    exact built.allocated a (tasks a member)

theorem constructed_add {s : State} {i slack : Nat} {name : String} (built : Constructed s)
    (was : s.handlers i = .adding name) : Constructed ((s.add name slack).goto i (.assigning s.next)) := by
  have cases_now : ∀ j a, ((s.add name slack).goto i (.assigning s.next)).handlers j = .assigning a →
      (j = i ∧ a = s.next) ∨ (j ≠ i ∧ s.handlers j = .assigning a) := by
    intro j a now
    rw [goto_handlers] at now
    split at now
    · rename_i mine
      exact Or.inl ⟨mine, (Handler.assigning.inj now).symm⟩
    · rename_i other
      exact Or.inr ⟨other, now⟩
  constructor
  · intro j a now
    rw [goto_heap, add_heap]
    rcases cases_now j a now with ⟨_, rfl⟩ | ⟨_, before⟩
    · exact ⟨Nat.lt_succ_self _, by rw [if_pos rfl]; exact Nat.zero_lt_succ 3⟩
    · obtain ⟨old, fewer⟩ := built.partly j a before
      exact ⟨Nat.lt_succ_of_lt old, by rwa [if_neg (Nat.ne_of_lt old)]⟩
  · intro j k a now other
    rcases cases_now j a now with ⟨mine, new⟩ | ⟨_, before⟩ <;>
      rcases cases_now k a other with ⟨mine', new'⟩ | ⟨_, before'⟩
    · exact mine.trans mine'.symm
    · exact absurd new (Nat.ne_of_lt (built.partly k a before').1)
    · exact absurd new' (Nat.ne_of_lt (built.partly j a before).1)
    · exact built.alone j k a before before'
  · intro a old
    rcases Nat.lt_succ_iff_lt_or_eq.mp old with before | rfl
    · rw [goto_heap, add_heap, if_neg (Nat.ne_of_lt before)]
      refine (built.fully a before).imp_right fun ⟨j, now⟩ => ⟨j, ?_⟩
      rw [goto_handlers, if_neg (by rintro rfl; simp [was] at now)]
      exact now
    · exact Or.inr ⟨i, by rw [goto_handlers, if_pos rfl]⟩
  · intro a member
    rcases mem_add.mp (show a ∈ (s.add name slack).tasks.elems from member) with old | rfl
    · exact Nat.lt_succ_of_lt (built.allocated a old)
    · exact Nat.lt_succ_self _

theorem constructed_assign {s : State} {i : Nat} {a : Addr} {h : Handler} (built : Constructed s)
    (now : s.handlers i = .assigning a)
    (goes : (h = .assigning a ∧ (s.heap a).assigned + 1 < pointers) ∨
      (h = .searching a ∧ (s.heap a).assigned + 1 = pointers)) :
    Constructed ((s.write a { s.heap a with assigned := (s.heap a).assigned + 1 }).goto i h) := by
  have back : ∀ j b, ((s.write a { s.heap a with assigned := (s.heap a).assigned + 1 }).goto i h).handlers j =
      .assigning b → s.handlers j = .assigning b ∧ (j = i ∨ b ≠ a) := by
    intro j b after
    rw [goto_handlers] at after
    split at after
    · rename_i mine
      subst j
      rcases goes with ⟨rfl, _⟩ | ⟨rfl, _⟩
      · exact ⟨now.trans after, Or.inl rfl⟩
      · cases after
    · rename_i other
      exact ⟨after, Or.inr fun same => other (built.alone j i a (same ▸ after) now)⟩
  constructor
  · intro j b after
    obtain ⟨before, mine | other⟩ := back j b after
    · subst j
      obtain rfl := Handler.assigning.inj (now.symm.trans before)
      rw [goto_handlers, if_pos rfl] at after
      rcases goes with ⟨_, more⟩ | ⟨rfl, _⟩
      · exact ⟨(built.partly i a now).1, by rw [goto_heap, write_heap, if_pos rfl]; exact more⟩
      · cases after
    · rw [goto_heap, write_heap, if_neg other]
      exact built.partly j b before
  · exact fun j k b after after' => built.alone j k b (back j b after).1 (back k b after').1
  · intro b old
    rw [goto_heap, write_heap]
    by_cases same : b = a
    · subst b
      rcases goes with ⟨rfl, _⟩ | ⟨_, last⟩
      · exact Or.inr ⟨i, by rw [goto_handlers, if_pos rfl]⟩
      · exact Or.inl (by rw [if_pos rfl]; exact last)
    · rw [if_neg same]
      refine (built.fully b old).imp_right fun ⟨j, before⟩ => ⟨j, ?_⟩
      rw [goto_handlers, if_neg]
      · exact before
      · rintro rfl
        exact same (Handler.assigning.inj (before.symm.trans now))
  · exact built.allocated

theorem looks_elsewhere {s : State} {i : Nat} {name : String} {iter : Vec.Iterator} (now : Looks s i name iter)
    (a : Addr) : s.handlers i ≠ .assigning a := by
  rcases now with ⟨now, _⟩ | now <;> simp [now]

theorem constructed_step {s t : State} {act : Act} (built : Constructed s)
    (h : step s act = some t) : Constructed t := by
  obtain ⟨i, found, slack⟩ := act
  have wrote : ∀ a (task : Task), task.assigned = (s.heap a).assigned →
      ∀ b, ((s.write a task).heap b).assigned = (s.heap b).assigned := by
    intro a task same b
    rw [write_heap]
    split
    · rename_i mine
      rw [mine, same]
    · rfl
  cases step_moves h with
  | add name slack now => exact constructed_add built now
  | assign a now more =>
    have fewer := (built.partly _ a now).2
    exact constructed_assign built now (Or.inl ⟨rfl, by omega⟩)
  | assignLast a now last => exact constructed_assign built now (Or.inr ⟨rfl, last⟩)
  | fault => exact ⟨built.partly, built.alone, built.fully, built.allocated⟩
  | start a now =>
    exact constructed_goto built rfl rfl (wrote a _ rfl) (fun _ => id) (by simp [now]) (by simp)
  | stop iter a now there complete =>
    exact constructed_goto built rfl rfl (wrote a _ rfl) (fun _ => id) (by simp [now]) (by simp)
  | erase iter a now there =>
    exact constructed_goto built rfl rfl (fun _ => rfl) (fun _ => List.mem_of_mem_eraseIdx) (by simp [now])
      (by simp)
  | search a now | giveUp a name now =>
    exact constructed_goto built rfl rfl (fun _ => rfl) (fun _ => id) (by simp [now]) (by simp)
  | absent name iter now | find name iter now | pass name iter now =>
    exact constructed_goto built rfl rfl (fun _ => rfl) (fun _ => id) (looks_elsewhere now) (by simp)

theorem constructed_initial (requests : Nat → Option Request) : Constructed (initial requests) := by
  have entry : ∀ i a, (initial requests).handlers i ≠ .assigning a := by
    intro i a
    simp only [initial]
    cases requests i with
    | none => simp [Handler.entry]
    | some request => cases request <;> simp [Handler.entry]
  exact ⟨fun i a now => absurd now (entry i a), fun i _ a now => absurd now (entry i a),
    fun _ old => absurd old (Nat.not_lt_zero _), fun _ member => by cases member⟩

theorem stopsInitialised_iff {s : State} {act : Act} (built : Constructed s) :
    StopsInitialised s act ↔ StopsBuilt s act := by
  refine forall_congr' fun iter => imp_congr_right fun _ => ?_
  constructor
  · rintro ⟨a, there, complete⟩
    obtain ⟨current, here⟩ := Vec.deref_eq_some.mp there
    exact ⟨current, a, here, (assigned_iff built (built.allocated a (Vec.mem_of_deref there))).mp complete⟩
  · rintro ⟨current, a, here, finished⟩
    have there : s.tasks.deref iter = some a := Vec.deref_eq_some.mpr ⟨current, here⟩
    exact ⟨a, there, (assigned_iff built (built.allocated a (Vec.mem_of_deref there))).mpr finished⟩

/-- In every interleaving the `stop()` calls find all pointers assigned exactly when each goes through an
iterator that is still current, and none overtakes the assignments of the GET that creates its task. -/
theorem stops_initialised_iff (requests : Nat → Option Request) (acts : List Act) :
    Run.Meets step StopsInitialised (initial requests) acts ↔ Run.Meets step StopsBuilt (initial requests) acts :=
  Run.meets_congr (fun _ _ _ built _ h => constructed_step built h)
    (fun _ _ _ built _ => stopsInitialised_iff built) (constructed_initial requests)

/-- The DEL comes right after `addNewTask`: `stop()` goes through four pointers without a value. -/
theorem del_overtakes_init :
    (∃ t, Run.run step (initial createAndDelete) [{ handler := 0 }, { handler := 1 }] = some t ∧
      t.handlers 1 = .stopping t.tasks.start ∧ t.tasks.elems = [0] ∧ (t.heap 0).assigned = 0) ∧
    ¬ Run.Meets step StopsInitialised (initial createAndDelete)
      ([{ handler := 0 }, { handler := 1 }] ++ [{ handler := 1 }]) := by
  refine ⟨⟨_, rfl, rfl, rfl, rfl⟩, fun meets => ?_⟩
  obtain ⟨a, there, complete⟩ := Run.meets_last meets rfl rfl ⟨1, 0⟩ rfl
  cases Option.some.inj there
  cases complete

end GstGateway.Overlap
