import GstGateway.Registry.Uninitialised

/-! What no interleaving of the handlers can upset. `removeTask` never gets past the first position, so
tasks leave the registry in the order they entered it; and each task is started by its own GET alone,
once, when `init()` has assigned all four pointers. -/

namespace GstGateway.Overlap

/-! ### First in, first out -/

/-- Every iterator a handler holds is of the front of a buffer. -/
def AtFront : Handler → Prop
  | .scanning _ iter | .stopping iter | .erasing iter _ => iter.index = 0
  | _ => True

structure Queued (s : State) : Prop where
  front : ∀ i, AtFront (s.handlers i)
  youngest : s.tasks.elems <:+ List.range s.next

theorem front_looks {s : State} {i : Nat} {name : String} {iter : Vec.Iterator} (front : AtFront (s.handlers i))
    (now : Looks s i name iter) : iter.index = 0 := by
  rcases now with ⟨_, rfl⟩ | now
  · rfl
  · rw [now] at front
    exact front

theorem queued_goto {s t : State} {i : Nat} {h : Handler} (queued : Queued s) (same : t.handlers = s.handlers)
    (youngest : t.tasks.elems <:+ List.range t.next) (mine : AtFront h) : Queued (t.goto i h) where
  front j := by
    rw [goto_handlers, same]
    split
    · exact mine
    · exact queued.front j
  youngest := youngest

theorem queued_step {s t : State} {act : Act} (queued : Queued s) (h : step s act = some t) : Queued t := by
  obtain ⟨i, found, slack⟩ := act
  have front := queued.front i
  cases step_moves h with
  | add name slack now =>
    refine queued_goto queued rfl ?_ trivial
    obtain ⟨gone, split⟩ := queued.youngest
    rw [State.add, Vec.pushBack_elems, List.range_succ, ← split, List.append_assoc]
    exact List.suffix_append _ _
  | assign a now more | assignLast a now last => exact queued_goto queued rfl queued.youngest trivial
  | search a now | giveUp a name now => exact queued_goto queued rfl queued.youngest trivial
  | start a now => exact queued_goto queued rfl queued.youngest trivial
  | absent name iter now => exact queued_goto queued rfl queued.youngest trivial
  | find name iter now | pass name iter now => exact queued_goto queued rfl queued.youngest (front_looks front now)
  | stop iter a now there built =>
    rw [now] at front
    exact queued_goto queued rfl queued.youngest front
  | erase iter a now there =>
    rw [now] at front
    refine queued_goto queued rfl ?_ trivial
    rw [Vec.erase_elems, show iter.index = 0 from front, List.eraseIdx_zero]
    exact (List.tail_suffix _).trans queued.youngest
  | fault => exact ⟨queued.front, queued.youngest⟩

theorem queued_initial (requests : Nat → Option Request) : Queued (initial requests) where
  front i := by
    simp only [initial]
    cases requests i with
    | none => trivial
    | some request => cases request <;> trivial
  youngest := List.nil_suffix

/-- In every state of every interleaving, the registered tasks are the ones created last, in the order of
their creation. -/
theorem registry_is_queue (requests : Nat → Option Request) (acts : List Act) :
    Run.Always step (fun s => s.tasks.elems <:+ List.range s.next) (initial requests) acts :=
  Run.always_imp (fun _ queued => queued.youngest)
    (Run.always_invariant (fun _ _ _ queued h => queued_step queued h) (queued_initial requests))

/-! ### Started once -/

/-- The handler is at work on a task it has created. -/
def Builds (a : Addr) : Handler → Prop
  | .assigning b | .searching b | .starting b => b = a
  | _ => False

structure Unshared (s : State) : Prop where
  allocated : ∀ i a, Builds a (s.handlers i) → a < s.next
  alone : ∀ i j a, Builds a (s.handlers i) → Builds a (s.handlers j) → i = j

theorem goto_builds {s t : State} {i j : Nat} {h : Handler} {a : Addr} (same : t.handlers = s.handlers)
    (mine : Builds a h → Builds a (s.handlers i)) (after : Builds a ((t.goto i h).handlers j)) :
    Builds a (s.handlers j) := by
  rw [goto_handlers, same] at after
  split at after
  · rename_i here
    subst here
    exact mine after
  · exact after

theorem unshared_goto {s t : State} {i : Nat} {h : Handler} (unshared : Unshared s) (same : t.handlers = s.handlers)
    (next : t.next = s.next) (mine : ∀ a, Builds a h → Builds a (s.handlers i)) : Unshared (t.goto i h) where
  allocated j a after := by
    rw [goto_next, next]
    exact unshared.allocated j a (goto_builds same (mine a) after)
  alone j k a after after' :=
    unshared.alone j k a (goto_builds same (mine a) after) (goto_builds same (mine a) after')

theorem unshared_add {s : State} {i slack : Nat} {name : String} (unshared : Unshared s) :
    Unshared ((s.add name slack).goto i (.assigning s.next)) := by
  have builds : ∀ j a, Builds a (((s.add name slack).goto i (.assigning s.next)).handlers j) →
      (j = i ∧ a = s.next) ∨ (a < s.next ∧ Builds a (s.handlers j)) := by
    intro j a after
    rw [goto_handlers] at after
    split at after
    · rename_i here
      exact Or.inl ⟨here, Eq.symm after⟩
    · exact Or.inr ⟨unshared.allocated j a after, after⟩
  constructor
  · intro j a after
    rcases builds j a after with ⟨_, rfl⟩ | ⟨old, _⟩
    · exact Nat.lt_succ_self _
    · exact Nat.lt_succ_of_lt old
  · intro j k a after after'
    rcases builds j a after with ⟨here, new⟩ | ⟨old, before⟩ <;>
      rcases builds k a after' with ⟨here', new'⟩ | ⟨old', before'⟩
    · exact here.trans here'.symm
    · exact absurd new (Nat.ne_of_lt old')
    · exact absurd new' (Nat.ne_of_lt old)
    · exact unshared.alone j k a before before'

theorem unshared_step {s t : State} {act : Act} (unshared : Unshared s) (h : step s act = some t) :
    Unshared t := by
  obtain ⟨i, found, slack⟩ := act
  have goes : ∀ (u : State) (next : Handler), u.handlers = s.handlers → u.next = s.next →
      (∀ a, Builds a next → Builds a (s.handlers i)) → Unshared (u.goto i next) :=
    fun u next same count mine => unshared_goto unshared same count mine
  cases step_moves h with
  | add name slack now => exact unshared_add unshared
  | fault => exact ⟨unshared.allocated, unshared.alone⟩
  | assign a now more | assignLast a now last | search a now =>
    refine goes _ _ rfl rfl fun b builds => ?_
    rw [now]
    exact builds
  | giveUp a name now | start a now => exact goes _ _ rfl rfl fun b builds => False.elim builds
  | absent name iter now | find name iter now | pass name iter now =>
    exact goes _ _ rfl rfl fun b builds => False.elim builds
  | stop iter a now there built => exact goes _ _ rfl rfl fun b builds => False.elim builds
  | erase iter a now there => exact goes _ _ rfl rfl fun b builds => False.elim builds

theorem unshared_initial (requests : Nat → Option Request) : Unshared (initial requests) := by
  have entry : ∀ i a, ¬ Builds a ((initial requests).handlers i) := by
    intro i a
    simp only [initial]
    cases requests i with
    | none => exact id
    | some request => cases request <;> exact id
  exact ⟨fun i a builds => absurd builds (entry i a), fun i _ a builds => absurd builds (entry i a)⟩

/-- The next call of the handler is `start()` of the task. -/
def Starts (a : Addr) (s : State) (act : Act) : Prop := s.handlers act.handler = .starting a

def StartsInitialised (s : State) (act : Act) : Prop := ∀ a, Starts a s act → (s.heap a).assigned = pointers

theorem builds_of_starts {s : State} {act : Act} {a : Addr} (starts : Starts a s act) :
    Builds a (s.handlers act.handler) := by
  rw [show s.handlers act.handler = .starting a from starts]
  exact rfl

/-- Nobody will start the task any more. -/
def Settled (a : Addr) (s : State) : Prop := a < s.next ∧ ∀ i, ¬ Builds a (s.handlers i)

theorem settled_step {s t : State} {act : Act} {a : Addr} (settled : Settled a s) (h : step s act = some t) :
    Settled a t := by
  obtain ⟨i, found, slack⟩ := act
  obtain ⟨old, nobody⟩ := settled
  have goes : ∀ (u : State) (next : Handler), u.handlers = s.handlers →
      (Builds a next → Builds a (s.handlers i)) → ∀ j, ¬ Builds a ((u.goto i next).handlers j) :=
    fun u next same mine j after => nobody j (goto_builds same mine after)
  cases step_moves h with
  | add name slack now =>
    refine ⟨Nat.lt_succ_of_lt old, fun j after => ?_⟩
    rw [goto_handlers] at after
    split at after
    · exact absurd (Eq.symm after) (Nat.ne_of_lt old)
    · exact nobody j after
  | fault => exact ⟨old, nobody⟩
  | assign b now more | assignLast b now last | search b now =>
    refine ⟨old, goes _ _ rfl fun builds => ?_⟩
    rw [now]
    exact builds
  | giveUp b name now | start b now => exact ⟨old, goes _ _ rfl fun builds => False.elim builds⟩
  | absent name iter now | find name iter now | pass name iter now =>
    exact ⟨old, goes _ _ rfl fun builds => False.elim builds⟩
  | stop iter b now there built => exact ⟨old, goes _ _ rfl fun builds => False.elim builds⟩
  | erase iter b now there => exact ⟨old, goes _ _ rfl fun builds => False.elim builds⟩

theorem settled_start {s t : State} {act : Act} {a : Addr} (unshared : Unshared s)
    (starts : Starts a s act) (h : step s act = some t) : Settled a t := by
  obtain ⟨i, found, slack⟩ := act
  have mine : Builds a (s.handlers i) := builds_of_starts starts
  have moved : t = (s.write a { s.heap a with running := true }).goto i .done := by
    simp only [step, step_defined h, show s.handlers i = .starting a from starts, Bool.false_eq_true, if_false] at h
    exact (Option.some.inj h).symm
  subst moved
  refine ⟨unshared.allocated i a mine, fun j after => ?_⟩
  rw [goto_handlers] at after
  split at after
  · exact after
  · rename_i other
    exact other (unshared.alone j i a after mine)

open Classical in
noncomputable def startsLeft (a : Addr) (s : State) : Nat := if Settled a s then 0 else 1

/-- In every interleaving each task is started at most once, and only when all four of its pointers are
assigned. -/
theorem started_once (requests : Nat → Option Request) (acts : List Act) :
    (∀ a, Run.tally step (Starts a) (initial requests) acts ≤ 1) ∧
      Run.Meets step StartsInitialised (initial requests) acts := by
  constructor
  · intro a
    have few : startsLeft a (initial requests) ≤ 1 := by
      unfold startsLeft
      split <;> decide
    refine Nat.le_trans (Run.tally_le (I := Unshared) (μ := startsLeft a)
      (fun _ _ _ unshared h => unshared_step unshared h) ?_ ?_ (unshared_initial requests)) few
    · intro s act t _ h
      unfold startsLeft
      by_cases before : Settled a s
      · rw [if_pos (settled_step before h)]
        exact Nat.zero_le _
      · rw [if_neg before]
        split <;> decide
    · intro s act t unshared starts h
      have before : ¬ Settled a s := fun settled => settled.2 act.handler (builds_of_starts starts)
      unfold startsLeft
      rw [if_neg before, if_pos (settled_start unshared starts h)]
      exact Nat.zero_lt_one
  · refine Run.meets_invariant (I := fun s => Constructed s ∧ Unshared s)
      (fun s act t holds h => ⟨constructed_step holds.1 h, unshared_step holds.2 h⟩) ?_
      ⟨constructed_initial requests, unshared_initial requests⟩
    rintro s act t ⟨built, unshared⟩ _ a starts
    have mine := builds_of_starts starts
    refine (assigned_iff built (unshared.allocated _ a mine)).mpr fun j assigns => ?_
    have same := unshared.alone j act.handler a (by rw [assigns]; exact rfl) mine
    subst same
    rw [starts] at assigns
    cases assigns

end GstGateway.Overlap
