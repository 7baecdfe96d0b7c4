import GstGateway.Program.Consistency

/-! A GET waits for nobody. Until it is answered or has given up its search, the next step of its handler is always
possible, and it takes so many of its own steps at most, whatever the other handlers and the threads do. -/

namespace GstGateway.Program

open Overlap (Handler Builds pointers)

variable {s t : State} {i slack : Nat} {answer : Attempt} {act : Act} {call : Option Gateway.Act} {a : Addr}
variable {next : Turn} {handler : Handler} {work : Work}

/-- The handler has a GET that is not answered and has not given up. -/
def Waits : Handler → Work → Prop
  | .adding _, _ | .assigning _, _ | .searching _, _ | .starting _, _ | .done, .reply _ => True
  | _, _ => False

def Pending (s : State) (i : Nat) : Prop := Waits (s.registry.handlers i) (s.work i)

theorem pending_at (now : s.registry.handlers i = handler) (here : s.work i = work) (waits : Waits handler work) :
    Pending s i := by
  subst now here
  exact waits

theorem not_pending (now : s.registry.handlers i = handler) (here : s.work i = work) (idle : ¬ Waits handler work) :
    ¬ Pending s i := by
  subst now here
  exact idle

/-! ### How many steps are left -/

def tries (kind : Kind) : Nat := lastPort kind - firstPort kind

/-- The calls of `start()` and the reply. -/
def starts : Nat := Pipeline.start.length + 1

def getSteps : Nat := 1 + pointers + 1 + tries .video + tries .audio + starts

/-- At most so many steps of its own are left to a GET. -/
def rank (assigned launched : Addr → Nat) : Handler → Work → Nat
  | .adding _, _ => getSteps
  | .assigning a, _ => pointers - assigned a + 1 + tries .video + tries .audio + starts
  | .searching _, .search .video port => lastPort .video - port + tries .audio + starts
  | .searching _, .search .audio port => lastPort .audio - port + starts
  | .searching _, _ => 1 + tries .video + tries .audio + starts
  | .starting a, _ => Pipeline.start.length - launched a + 1
  | _, .reply _ => 1
  | _, _ => 0

def State.rank (s : State) (i : Nat) : Nat :=
  Program.rank (fun a => (s.registry.heap a).assigned) (fun a => (s.gateway.conf a).launched)
    (s.registry.handlers i) (s.work i)

theorem rank_mono {assigned assigned' launched launched' : Addr → Nat}
    (more : ∀ a, Builds a handler → assigned a ≤ assigned' a ∧ launched a ≤ launched' a) :
    rank assigned' launched' handler work ≤ rank assigned launched handler work := by
  cases handler with
  | assigning a =>
    have := (more a rfl).1
    simp only [rank]
    omega
  | starting a =>
    have := (more a rfl).2
    simp only [rank]
    omega
  | searching a =>
    cases work with
    | search kind port => cases kind <;> exact Nat.le_refl _
    | _ => exact Nat.le_refl _
  | _ => cases work <;> exact Nat.le_refl _

theorem assigned_mono {u v : Overlap.State} {call : Overlap.Act} (stepped : Overlap.step u call = some v)
    (old : a < u.next) : (u.heap a).assigned ≤ (v.heap a).assigned := by
  have writes : ∀ (b : Addr) (task : Overlap.Task), (u.heap b).assigned ≤ task.assigned →
      (u.heap a).assigned ≤ ((u.write b task).heap a).assigned := by
    intro b task more
    rw [Overlap.write_heap]
    split
    · rename_i same
      exact same ▸ more
    · exact Nat.le_refl _
  cases Overlap.step_moves stepped with
  | add name slack now =>
    rw [Overlap.goto_heap, Overlap.add_heap, if_neg (Nat.ne_of_lt old)]
  | assign b now more | assignLast b now last => exact writes b _ (Nat.le_succ _)
  | start b now => exact writes b _ (Nat.le_refl _)
  | stop iter b now there built => exact writes b _ (Nat.le_refl _)
  | _ => exact Nat.le_refl _

theorem launched_mono (effect : Effect s t call) (a : Addr) :
    (s.gateway.conf a).launched ≤ (t.gateway.conf a).launched := by
  rcases launched_effect effect a with same | ⟨_, _, more⟩
  · exact Nat.le_of_eq same.symm
  · exact more ▸ Nat.le_succ _

/-- A step of somebody else. -/
theorem rank_others (consistent : Consistent s) (h : step s act = some t)
    (other : ∀ answer slack, act ≠ .handler i answer slack) : t.rank i ≤ s.rank i := by
  have launched := launched_mono (step_effect consistent.agrees h)
  cases step_steps h with
  | thread a act gateway own taken => exact rank_mono fun a _ => ⟨Nat.le_refl _, launched a⟩
  | handler j answer slack next gateway registry turned called moved defined =>
    have different : i ≠ j := by
      rintro rfl
      exact other answer slack rfl
    obtain ⟨_, _, others⟩ := moved_registry moved consistent.unshared
    unfold State.rank
    dsimp only
    rw [others i different, Function.update_of_ne different]
    refine rank_mono fun a builds => ⟨?_, launched a⟩
    have old := consistent.unshared.allocated i a builds
    cases moves : next.move with
    | none =>
      rw [moves] at moved
      cases Option.some.inj moved
      exact Nat.le_refl _
    | some b =>
      rw [moves] at moved
      exact assigned_mono (moved_one moved) old

theorem rank_single {registry : Overlap.State} {launched : Addr → Nat} (built : Overlap.Constructed s.registry)
    (free : s.work i = .free) (one : Single (s.registry.handlers i)) (pending : Pending s i)
    (stepped : Overlap.step s.registry ⟨i, true, slack⟩ = some registry) :
    rank (fun a => (registry.heap a).assigned) launched (registry.handlers i) .free <
      rank (fun a => (s.registry.heap a).assigned) launched (s.registry.handlers i) (s.work i) := by
  unfold Pending at pending
  rw [free] at pending
  cases now : s.registry.handlers i with
  | adding name =>
    simp only [Overlap.step, Overlap.step_defined stepped, now, Bool.false_eq_true, if_false,
      Option.some.injEq] at stepped
    rw [← stepped, goto_mine]
    simp only [rank, getSteps]
    omega
  | assigning b =>
    obtain ⟨_, fewer⟩ := built.partly i b now
    simp only [Overlap.step, Overlap.step_defined stepped, now, Bool.false_eq_true, if_false,
      Option.some.injEq] at stepped
    rw [← stepped, goto_mine, Overlap.goto_heap]
    split
    · simp only [rank]
      omega
    · simp only [rank, Overlap.write_heap, if_true]
      omega
  | searching b | starting b =>
    rw [now] at one
    exact one.elim
  | _ =>
    rw [now] at pending
    exact pending.elim

theorem rank_own (built : Overlap.Constructed s.registry) (pending : Pending s i)
    (h : step s (.handler i answer slack) = some t) : t.rank i < s.rank i := by
  cases step_steps h with
  | handler _ _ _ next gateway registry turned called moved defined =>
    unfold State.rank
    dsimp only
    rw [Function.update_self]
    cases turn_turns turned with
    | enter a now free =>
      cases Option.some.inj moved
      rw [now, free]
      simp only [rank, tries, firstPort]
      omega
    | refused a kind port now here inside failed =>
      cases Option.some.inj moved
      rw [now, here]
      cases kind <;> simp only [rank] <;> omega
    | video a port now here inside bound =>
      cases Option.some.inj moved
      rw [now, here]
      simp only [rank, tries, firstPort]
      omega
    | audio a port now here inside bound =>
      rw [moved_search now (moved_one moved), if_pos rfl, now, here]
      simp only [rank, starts]
      omega
    | exhausted a kind port now here =>
      rw [moved_search now (moved_one moved), now, here]
      cases kind <;> exact Nat.add_pos_right _ (Nat.succ_pos _)
    | launch a now free more =>
      cases Option.some.inj moved
      obtain ⟨before, after⟩ := launched_called called
      rw [now]
      simp only [rank, after]
      omega
    | launchLast a now free last =>
      obtain ⟨before, after⟩ := launched_called called
      rw [moved_start now (moved_one moved), now]
      simp only [rank]
      omega
    | reply a now here =>
      cases Option.some.inj moved
      rw [now, here]
      exact Nat.zero_lt_one
    | callStop iter a now free there =>
      exact absurd pending (not_pending now free id)
    | stop iter call stopped a now here | erase iter call stopped a now here =>
      exact absurd pending (not_pending now here id)
    | single free one =>
      cases Option.some.inj called
      exact rank_single built free one pending (moved_one moved)

/-- Once its GET has been answered or has given up, a handler counts for nothing. -/
theorem rank_rest (gone : ¬ Pending s i) (h : step s (.handler i answer slack) = some t) : t.rank i = 0 := by
  cases step_steps h with
  | handler _ _ _ next gateway registry turned called moved defined =>
    unfold State.rank
    dsimp only
    rw [Function.update_self]
    cases turn_turns turned with
    | enter a now free | refused a kind port now here inside failed | video a port now here inside bound
    | audio a port now here inside bound | exhausted a kind port now here | launch a now free more
    | launchLast a now free last => exact absurd (pending_at now rfl trivial) gone
    | reply a now here => exact absurd (pending_at now here trivial) gone
    | callStop iter a now free there =>
      obtain ⟨b, erasing⟩ := moved_stop now (moved_one moved) defined
      rw [erasing]
      rfl
    | stop iter call stopped a now here =>
      cases Option.some.inj moved
      rw [now]
      rfl
    | erase iter call stopped a now here =>
      rw [moved_erase now (moved_one moved) defined]
      rfl
    | single free one =>
      have goes : ∀ (u : Overlap.State) (handler : Handler) (assigned launched : Addr → Nat),
          rank assigned launched handler .free = 0 →
          rank assigned launched ((u.goto i handler).handlers i) .free = 0 := by
        intro u handler assigned launched zero
        rwa [goto_mine]
      cases Overlap.step_moves (moved_one moved) with
      | add name slack now => exact absurd (pending_at now rfl trivial) gone
      | assign a now more | assignLast a now last => exact absurd (pending_at now rfl trivial) gone
      | search a now | giveUp a name now | start a now => exact absurd (pending_at now rfl trivial) gone
      | absent name iter now | find name iter now | pass name iter now => exact goes _ _ _ _ rfl
      | stop iter a now there built => exact goes _ _ _ _ rfl
      | erase iter a now there => exact goes _ _ _ _ rfl
      | fault => cases defined

/-! ### The next step -/

/-- What the next step of a pending GET needs. -/
structure Unblocked (s : State) : Prop where
  idle : ∀ a k, ⟨a, k⟩ ∉ s.found → (s.gateway.conf a).launched = 0
  starting : ∀ i a, s.registry.handlers i = .starting a → (s.gateway.conf a).launched < Pipeline.start.length
  exits : ∀ a, (s.gateway.conf a).exited = true → s.gateway.exited = true

theorem step_isSome (alive : s.gateway.exited = false) (turned : turn s i answer = some next)
    (called : ∃ gateway, Run.run Gateway.step s.gateway next.call.toList = some gateway)
    (moved : ∃ registry, Run.run Overlap.step s.registry (next.move.toList.map fun found => ⟨i, found, slack⟩) =
      some registry ∧ registry.undefined = false) : (step s (.handler i answer slack)).isSome := by
  obtain ⟨gateway, called⟩ := called
  obtain ⟨registry, moved, defined⟩ := moved
  rw [step_turned alive turned called moved defined]
  rfl

theorem search_isSome {kind : Kind} {port : Nat} (alive : s.gateway.exited = false)
    (defined : s.registry.undefined = false) (idle : (s.gateway.receiver ⟨a, kind⟩).pc = .idle)
    (now : s.registry.handlers i = .searching a) (here : s.work i = .search kind port) :
    (step s (.handler i answer slack)).isSome := by
  have turned : turn s i answer = some (searchTurn s a kind port answer) := by simp only [turn, now, here]
  have moves : ∀ b, ∃ registry, Run.run Overlap.step s.registry ((some b).toList.map fun found => ⟨i, found, slack⟩) =
      some registry ∧ registry.undefined = false := by
    intro b
    refine ⟨s.registry.goto i (if b then .starting a else .finding (s.registry.heap a).name), moved_by ?_, defined⟩
    simp only [Overlap.step, defined, now, Bool.false_eq_true, if_false]
  have called := called_by (tryInit_possible alive idle port (s.gateway.os.permit (fun _ => answer) port))
  refine step_isSome alive turned ?_ ?_ <;> unfold searchTurn
  · split
    · dsimp only
      split
      · cases kind <;> exact ⟨_, called⟩
      · exact ⟨_, called⟩
    · exact ⟨_, rfl⟩
  · split
    · dsimp only
      split
      · cases kind with
        | video => exact ⟨_, rfl, defined⟩
        | audio => exact moves true
      · exact ⟨_, rfl, defined⟩
    · exact moves false

theorem launch_isSome (alive : s.gateway.exited = false) (defined : s.registry.undefined = false)
    (unblocked : Unblocked s) (now : s.registry.handlers i = .starting a) (free : s.work i = .free) :
    (step s (.handler i answer slack)).isSome := by
  obtain ⟨next, turned, calls, moves⟩ : ∃ next, turn s i answer = some next ∧ next.call = some (.conf a .launch) ∧
      (next.move = none ∨ next.move = some true) := by
    simp only [turn, now, free]
    split
    · exact ⟨_, rfl, rfl, Or.inl rfl⟩
    · exact ⟨_, rfl, rfl, Or.inr rfl⟩
  have running : (s.gateway.conf a).exited = false := by
    rw [← Bool.not_eq_true]
    intro exited
    rw [unblocked.exits a exited] at alive
    cases alive
  have created := List.getElem?_eq_getElem (unblocked.starting i a now)
  obtain ⟨gateway, stepped⟩ : ∃ gateway, Gateway.step s.gateway (.conf a .launch) = some gateway := by
    simp only [Gateway.step, alive, Pipeline.step, running, created]
    exact ⟨_, rfl⟩
  have called : Run.run Gateway.step s.gateway next.call.toList = some gateway := by
    rw [calls]
    exact called_by stepped
  refine step_isSome alive turned ⟨gateway, called⟩ ?_
  rcases moves with stays | last
  · rw [stays]
    exact ⟨_, rfl, defined⟩
  · rw [last]
    refine ⟨(s.registry.write a { s.registry.heap a with running := true }).goto i .done, moved_by ?_, defined⟩
    simp only [Overlap.step, defined, now, Bool.false_eq_true, if_false]

theorem pending_isSome (consistent : Consistent s) (unblocked : Unblocked s) (pending : Pending s i)
    (alive : s.gateway.exited = false) : (step s (.handler i answer slack)).isSome := by
  have agrees := consistent.agrees i
  have defined := consistent.defined
  have single : turn s i answer = some { move := some true } →
      (∃ registry, Overlap.step s.registry ⟨i, true, slack⟩ = some registry ∧ registry.undefined = false) →
      (step s (.handler i answer slack)).isSome := by
    rintro turned ⟨registry, stepped, fine⟩
    exact step_isSome alive turned ⟨_, rfl⟩ ⟨registry, moved_by stepped, fine⟩
  have alone : ∀ next : Turn, turn s i answer = some next → next.call = none → next.move = none →
      (step s (.handler i answer slack)).isSome := by
    intro next turned calls moves
    refine step_isSome alive turned ⟨s.gateway, ?_⟩ ⟨s.registry, ?_, defined⟩
    · rw [calls]
      rfl
    · rw [moves]
      rfl
  cases now : s.registry.handlers i with
  | adding name | assigning a =>
    cases here : s.work i with
    | free =>
      refine single (by simp only [turn, now, here]) ?_
      simp only [Overlap.step, defined, now, Bool.false_eq_true, if_false]
      exact ⟨_, rfl, defined⟩
    | _ =>
      rw [now, here] at agrees
      exact agrees.elim
  | searching a =>
    cases here : s.work i with
    | free => exact alone { work := .search .video videoSrcPortRangeBegin } (by simp only [turn, now, here]) rfl rfl
    | search kind port =>
      rw [now, here] at agrees
      have early := unblocked.idle a kind (agrees_search agrees).2
      refine search_isSome alive defined ((consistent.sound.launched a kind .receiver).mpr ?_) now here
      rw [early]
      exact Nat.zero_le _
    | _ =>
      rw [now, here] at agrees
      exact agrees.elim
  | starting a =>
    cases here : s.work i with
    | free => exact launch_isSome alive defined unblocked now here
    | _ =>
      rw [now, here] at agrees
      exact agrees.elim
  | done =>
    cases here : s.work i with
    | free => exact absurd pending (not_pending now here id)
    | reply a => exact alone { granted := [(a, s.answer a)] } (by simp only [turn, now, here]) rfl rfl
    | _ =>
      rw [now, here] at agrees
      exact agrees.elim
  | _ =>
    unfold Pending at pending
    rw [now] at pending
    exact pending.elim

theorem step_alive (h : step s act = some t) : s.gateway.exited = false := by
  cases act with
  | thread a act =>
    simp only [step, Gateway.step] at h
    split at h
    · split at h
      · cases h
      · rename_i alive
        exact Bool.not_eq_true _ ▸ alive
    · cases h
  | handler i answer slack =>
    simp only [step] at h
    split at h
    · cases h
    · rename_i alive
      exact Bool.not_eq_true _ ▸ alive

theorem moved_starting {u v : Overlap.State} {b : Bool} (stepped : Overlap.step u ⟨i, b, slack⟩ = some v)
    (defined : v.undefined = false) (after : v.handlers i = .starting a) : u.handlers i = .searching a := by
  have goes : ∀ (w : Overlap.State) (h : Handler), (w.goto i h).handlers i = .starting a → h = .starting a := by
    intro w h after
    rwa [goto_mine] at after
  cases Overlap.step_moves stepped with
  | search b now => exact Handler.starting.inj (goes _ _ after) ▸ now
  | fault => cases defined
  | _ => cases goes _ _ after

theorem was_starting {j : Nat} (consistent : Consistent s) (h : step s act = some t)
    (after : t.registry.handlers j = .starting a) :
    s.registry.handlers j = .starting a ∨ s.registry.handlers j = .searching a := by
  cases step_steps h with
  | thread b act gateway own taken => exact Or.inl after
  | handler i answer slack next gateway registry turned called moved defined =>
    by_cases mine : j = i
    · subst mine
      cases moves : next.move with
      | none =>
        rw [moves] at moved
        cases Option.some.inj moved
        exact Or.inl after
      | some b =>
        rw [moves] at moved
        exact Or.inr (moved_starting (moved_one moved) defined after)
    · obtain ⟨_, _, others⟩ := moved_registry moved consistent.unshared
      exact Or.inl ((others j mine).symm.trans after)

/-- Only `start()` creates threads, and while it goes on one more is left to create. -/
theorem launch_starting (h : step s act = some t) (launches : s.calls act = some (.conf a .launch)) :
    ∃ i, s.registry.handlers i = .starting a ∧
      (t.registry.handlers i = .starting a → (s.gateway.conf a).launched + 1 < Pipeline.start.length) := by
  cases step_steps h with
  | thread b act gateway own taken =>
    cases Option.some.inj launches
    cases own
  | handler i answer slack next gateway registry turned called moved defined =>
    have calls : next.call = some (.conf a .launch) := by
      rw [State.calls, turned, Option.bind_some] at launches
      exact launches
    refine ⟨i, ?_⟩
    cases turn_turns turned with
    | launch b now free more =>
      cases Option.some.inj calls
      exact ⟨now, fun _ => more⟩
    | launchLast b now free last =>
      cases Option.some.inj calls
      refine ⟨now, fun after => ?_⟩
      cases now.symm.trans (moved_starting (moved_one moved) defined after)
    | _ => cases calls

theorem unblocked_step (consistent : Consistent s) (unblocked : Unblocked s) (h : step s act = some t) :
    Unblocked t := by
  have effect := step_effect consistent.agrees h
  have same : ∀ {a k}, (⟨a, k⟩ : ReceiverId) ∉ s.found →
      (t.gateway.conf a).launched = (s.gateway.conf a).launched := by
    intro a k missing
    refine (launched_effect effect a).resolve_right fun ⟨launches, _⟩ => missing ?_
    obtain ⟨i, now, _⟩ := launch_starting h launches
    exact agrees_starting (now ▸ consistent.agrees i) k
  refine ⟨fun a k missing => ?_, fun j a after => ?_, fun a exited => ?_⟩
  · have before : (⟨a, k⟩ : ReceiverId) ∉ s.found := fun member => missing (found_effect effect member)
    exact (same before).trans (unblocked.idle a k before)
  · rcases was_starting consistent h after with now | now
    · rcases launched_effect effect a with kept | ⟨launches, _, more⟩
      · exact kept ▸ unblocked.starting j a now
      · obtain ⟨i, now', left⟩ := launch_starting h launches
        have mine := consistent.unshared.alone i j a (by rw [now']; exact rfl) (by rw [now]; exact rfl)
        subst mine
        exact more ▸ left after
    · have missing := agrees_searching (now ▸ consistent.agrees j)
      rw [same missing, unblocked.idle a .audio missing]
      decide
  · have alive := step_alive h
    have before : (s.gateway.conf a).exited ≠ true := by
      intro already
      rw [unblocked.exits a already] at alive
      cases alive
    generalize s.calls act = call at effect
    cases effect with
    | none gateway found =>
      rw [gateway] at exited
      exact absurd exited before
    | tryInit r port answer missing low high gateway found =>
      rw [gateway] at exited
      rcases Gateway.attempt_conf s.gateway r port (s.gateway.os.permit (fun _ => answer) port) a with kept | ⟨put, _⟩
      · rw [kept] at exited
        exact absurd exited before
      · rw [put] at exited
        exact absurd exited before
    | conf b act next taken gateway found =>
      rw [gateway] at exited ⊢
      by_cases mine : a = b
      · subst mine
        have conf : (Gateway.after s.gateway a act next).conf a = next := Gateway.put_same _ _ _
        rw [conf] at exited
        exact exited
      · have conf : (Gateway.after s.gateway b act next).conf a = s.gateway.conf a := Gateway.put_elsewhere _ _ mine
        rw [conf] at exited
        exact absurd exited before

theorem unblocked_initial (memory : Addr → Kind → Int) (requests : Nat → Option Overlap.Request) :
    Unblocked (initial memory requests) := by
  refine ⟨fun _ _ _ => rfl, fun i a now => ?_, fun _ exited => by cases exited⟩
  simp only [initial, Overlap.initial] at now
  cases asked : requests i with
  | none =>
    rw [asked] at now
    cases now
  | some request =>
    rw [asked] at now
    cases request <;> cases now

theorem constructed_turn (built : Overlap.Constructed s.registry) (h : step s act = some t) :
    Overlap.Constructed t.registry := by
  cases step_steps h with
  | thread a act gateway own taken => exact built
  | handler i answer slack next gateway registry turned called moved defined =>
    exact Run.run_invariant (fun _ _ _ built stepped => Overlap.constructed_step built stepped) built moved

/-- The handler of a GET takes so many steps of its own at most until it has answered or given up its search, and
each next one is possible in every state of every interleaving in which the process has not exited. -/
theorem get_never_waits (memory : Addr → Kind → Int) (requests : Nat → Option Overlap.Request) (acts : List Act)
    (i : Nat) :
    Run.tally step (fun s act => Pending s i ∧ ∃ answer slack, act = .handler i answer slack)
        (initial memory requests) acts ≤ getSteps ∧
      Run.Always step (fun s => Pending s i → s.gateway.exited = false →
        ∀ answer slack, (step s (.handler i answer slack)).isSome) (initial memory requests) acts := by
  constructor
  · have first : (initial memory requests).rank i ≤ getSteps := by
      simp only [State.rank, initial, Overlap.initial]
      cases requests i with
      | none => exact Nat.zero_le _
      | some request =>
        cases request with
        | get name => exact Nat.le_refl _
        | del name => exact Nat.zero_le _
    refine Nat.le_trans (Run.tally_le (I := fun s => Consistent s ∧ Overlap.Constructed s.registry)
      (μ := fun s => s.rank i) (fun _ _ _ both h => ⟨consistent_step both.1 h, constructed_turn both.2 h⟩) ?_ ?_
      ⟨consistent_initial memory requests, Overlap.constructed_initial requests⟩) first
    · rintro s act t ⟨consistent, built⟩ h
      by_cases own : ∃ answer slack, act = .handler i answer slack
      · obtain ⟨answer, slack, rfl⟩ := own
        by_cases pending : Pending s i
        · exact Nat.le_of_lt (rank_own built pending h)
        · exact rank_rest pending h ▸ Nat.zero_le _
      · exact rank_others consistent h fun answer slack same => own ⟨answer, slack, same⟩
    · rintro s act t ⟨_, built⟩ ⟨pending, answer, slack, rfl⟩ h
      exact rank_own built pending h
  · exact Run.always_imp (fun _ both pending alive _ _ => pending_isSome both.1 both.2 pending alive)
      (Run.always_invariant (I := fun s => Consistent s ∧ Unblocked s)
        (fun _ _ _ both h => ⟨consistent_step both.1 h, unblocked_step both.1 both.2 h⟩)
        ⟨consistent_initial memory requests, unblocked_initial memory requests⟩)

end GstGateway.Program
