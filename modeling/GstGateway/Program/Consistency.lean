import GstGateway.Gateway.Bound
import GstGateway.Program.Model

/-! What every state of the whole program keeps: how far each handler is agrees with what its searches have found,
and no two open sockets share a port. -/

namespace GstGateway.Program

open Overlap (Handler Builds Unshared)
open Gateway (attempt attempt_other attempt_port)
open Pipeline (Launched)

variable {s t : State} {i slack : Nat} {answer : Attempt} {act : Act} {g g' : Gateway.State}
variable {found found' : List ReceiverId} {handler : Handler} {work : Work} {a : Addr}

/-! ### Where a handler is, and what its searches have found -/

/-- Both searches of the task have found a port, and `start()` has created all its threads. -/
def Ready (g : Gateway.State) (found : List ReceiverId) (a : Addr) : Prop :=
  (∀ k, ⟨a, k⟩ ∈ found) ∧ (g.conf a).launched = Pipeline.start.length

def Agrees (g : Gateway.State) (found : List ReceiverId) : Handler → Work → Prop
  | .assigning a, .free | .searching a, .free => ∀ k, ⟨a, k⟩ ∉ found
  | .searching a, .search .video port => firstPort .video ≤ port ∧ ∀ k, ⟨a, k⟩ ∉ found
  | .searching a, .search .audio port => firstPort .audio ≤ port ∧ ⟨a, .video⟩ ∈ found ∧ ⟨a, .audio⟩ ∉ found
  | .starting a, .free => ∀ k, ⟨a, k⟩ ∈ found
  | .done, .reply a => Ready g found a
  | .erasing _ _, .stop _ _ => True
  | .idle, .free | .adding _, .free | .done, .free => True
  | .finding _, .free | .scanning _ _, .free | .stopping _, .free => True
  | _, _ => False

theorem agrees_mono (agrees : Agrees g found handler work) (more : found ⊆ found')
    (others : ∀ a, Builds a handler → ∀ k, ⟨a, k⟩ ∈ found' → ⟨a, k⟩ ∈ found)
    (ready : ∀ a, Ready g found a → Ready g' found' a) : Agrees g' found' handler work := by
  have absent : ∀ a, Builds a handler → ∀ k, (⟨a, k⟩ : ReceiverId) ∉ found → (⟨a, k⟩ : ReceiverId) ∉ found' :=
    fun a builds k missing now => missing (others a builds k now)
  cases handler with
  | assigning a =>
    cases work with
    | free => exact fun k => absent a rfl k (agrees k)
    | _ => exact agrees
  | searching a =>
    cases work with
    | free => exact fun k => absent a rfl k (agrees k)
    | search kind port =>
      cases kind with
      | video => exact ⟨agrees.1, fun k => absent a rfl k (agrees.2 k)⟩
      | audio => exact ⟨agrees.1, more agrees.2.1, absent a rfl .audio agrees.2.2⟩
    | _ => exact agrees
  | starting a =>
    cases work with
    | free => exact fun k => more (agrees k)
    | _ => exact agrees
  | done =>
    cases work with
    | reply a => exact ready a agrees
    | _ => exact agrees
  | _ => cases work <;> exact agrees

theorem agrees_search {kind : Kind} {port : Nat} (agrees : Agrees g found (.searching a) (.search kind port)) :
    firstPort kind ≤ port ∧ ⟨a, kind⟩ ∉ found := by
  cases kind with
  | video => exact ⟨agrees.1, agrees.2 .video⟩
  | audio => exact ⟨agrees.1, agrees.2.2⟩

theorem agrees_searching (agrees : Agrees g found (.searching a) work) : ⟨a, .audio⟩ ∉ found := by
  cases work with
  | free => exact agrees .audio
  | search kind port =>
    cases kind with
    | video => exact agrees.2 .audio
    | audio => exact agrees.2.2
  | _ => exact agrees.elim

theorem agrees_starting (agrees : Agrees g found (.starting a) work) (k : Kind) : ⟨a, k⟩ ∈ found := by
  cases work with
  | free => exact agrees k
  | _ => exact agrees.elim

theorem agrees_next {kind : Kind} {port : Nat} (agrees : Agrees g found (.searching a) (.search kind port)) :
    Agrees g' found (.searching a) (.search kind (port + 1)) := by
  cases kind with
  | video => exact ⟨Nat.le_succ_of_le agrees.1, agrees.2⟩
  | audio => exact ⟨Nat.le_succ_of_le agrees.1, agrees.2⟩

/-! ### What a step does to the conferences -/

inductive Effect (s t : State) : Option Gateway.Act → Prop where
  | none (gateway : t.gateway = s.gateway) (found : t.found = s.found) : Effect s t none
  | tryInit (r : ReceiverId) (port : Nat) (answer : Attempt) (missing : r ∉ s.found) (low : firstPort r.kind ≤ port)
      (high : port < lastPort r.kind)
      (gateway : t.gateway = attempt s.gateway r port (s.gateway.os.permit (fun _ => answer) port))
      (found : (t.found = s.found ∧ s.tried r port answer ≠ 0) ∨
        (t.found = s.found ++ [r] ∧ s.tried r port answer = 0)) :
      Effect s t (some (.tryInit r port (s.gateway.os.permit (fun _ => answer) port)))
  | conf (a : Addr) (act : Pipeline.Act) (next : Pipeline.State)
      (taken : Pipeline.step (s.gateway.conf a) act = some next)
      (gateway : t.gateway = Gateway.after s.gateway a act next) (found : t.found = s.found) :
      Effect s t (some (.conf a act))

theorem effect_tryInit {r : ReceiverId} {port : Nat} {gateway : Gateway.State}
    (called : Run.run Gateway.step s.gateway (some (Gateway.Act.tryInit r port answer)).toList = some gateway) :
    gateway = attempt s.gateway r port answer := by
  obtain ⟨h, stepped, same⟩ := Option.bind_eq_some_iff.mp called
  cases Option.some.inj same
  cases Gateway.step_acts stepped
  rfl

theorem effect_conf {act : Pipeline.Act} {gateway : Gateway.State} (gateway' : t.gateway = gateway)
    (found : t.found = s.found)
    (called : Run.run Gateway.step s.gateway (some (Gateway.Act.conf a act)).toList = some gateway) :
    Effect s t (some (.conf a act)) := by
  obtain ⟨h, stepped, same⟩ := Option.bind_eq_some_iff.mp called
  cases Option.some.inj same
  cases Gateway.step_acts stepped with
  | conf _ _ next taken => exact .conf a act next taken gateway' found

theorem step_effect (agrees : ∀ i, Agrees s.gateway s.found (s.registry.handlers i) (s.work i))
    (h : step s act = some t) : Effect s t (s.calls act) := by
  cases step_steps h with
  | thread a act gateway own stepped =>
    cases Gateway.step_acts stepped with
    | conf _ _ next taken => exact .conf a act next taken rfl rfl
  | handler i answer slack next gateway registry turned called moved defined =>
    have mine := agrees i
    have calls : s.calls (.handler i answer slack) = next.call := by rw [State.calls, turned, Option.bind_some]
    rw [calls]
    cases turn_turns turned with
    | enter a now free => exact .none (Option.some.inj called).symm (List.append_nil _)
    | refused a kind port now here inside failed =>
      rw [now, here] at mine
      obtain ⟨low, missing⟩ := agrees_search mine
      exact .tryInit _ port answer missing low inside (effect_tryInit called) (Or.inl ⟨List.append_nil _, failed⟩)
    | video a port now here inside bound =>
      rw [now, here] at mine
      obtain ⟨low, missing⟩ := agrees_search mine
      exact .tryInit _ port answer missing low inside (effect_tryInit called) (Or.inr ⟨rfl, bound⟩)
    | audio a port now here inside bound =>
      rw [now, here] at mine
      obtain ⟨low, missing⟩ := agrees_search mine
      exact .tryInit _ port answer missing low inside (effect_tryInit called) (Or.inr ⟨rfl, bound⟩)
    | exhausted a kind port now here => exact .none (Option.some.inj called).symm (List.append_nil _)
    | launch a now free more => exact effect_conf rfl (List.append_nil _) called
    | launchLast a now free last => exact effect_conf rfl (List.append_nil _) called
    | reply a now here => exact .none (Option.some.inj called).symm (List.append_nil _)
    | callStop iter a now free there => exact effect_conf rfl (List.append_nil _) called
    | stop iter call stopped a now here => exact effect_conf rfl (List.append_nil _) called
    | erase iter call stopped a now here => exact .none (Option.some.inj called).symm (List.append_nil _)
    | single free one => exact .none (Option.some.inj called).symm (List.append_nil _)

variable {call : Option Gateway.Act}

/-- What the conferences keep: at most one open socket on a port, and each port found in its range. -/
structure Sound (g : Gateway.State) (found : List ReceiverId) : Prop where
  launched : ∀ a, Launched (g.conf a)
  onePer : OnePerPort g.os
  ranges : ∀ r ∈ found, firstPort r.kind ≤ (g.receiver r).srcPort ∧ (g.receiver r).srcPort < lastPort r.kind

theorem sound_effect (sound : Sound s.gateway s.found) (effect : Effect s t call) : Sound t.gateway t.found := by
  cases effect with
  | none gateway found =>
    rw [gateway, found]
    exact sound
  | tryInit r port answer missing low high gateway found =>
    have old : ∀ q ∈ s.found, firstPort q.kind ≤ (t.gateway.receiver q).srcPort ∧
        (t.gateway.receiver q).srcPort < lastPort q.kind := by
      intro q member
      have other : q ≠ r := fun same => missing (same ▸ member)
      rw [gateway, attempt_other _ other]
      exact sound.ranges q member
    refine ⟨?_, ?_, ?_⟩
    · rw [gateway]
      exact Gateway.launched_attempt sound.launched r port _
    · rw [gateway]
      exact Gateway.tryInit_onePer sound.onePer
    · rcases found with ⟨same, _⟩ | ⟨more, _⟩
      · rw [same]
        exact old
      · rw [more]
        refine List.forall_mem_append.mpr ⟨old, List.forall_mem_singleton.mpr ?_⟩
        rw [gateway, attempt_port]
        exact ⟨low, high⟩
  | conf a act next taken gateway found =>
    rw [gateway, found]
    refine ⟨Gateway.launched_after sound.launched taken, Gateway.onePer_closed sound.onePer, fun r member => ?_⟩
    rw [Gateway.port_after taken]
    exact sound.ranges r member

theorem port_effect (effect : Effect s t call) {r : ReceiverId} (member : r ∈ s.found) :
    (t.gateway.receiver r).srcPort = (s.gateway.receiver r).srcPort := by
  cases effect with
  | none gateway found => rw [gateway]
  | tryInit q port answer missing low high gateway found =>
    have other : r ≠ q := fun same => missing (same ▸ member)
    rw [gateway, attempt_other _ other]
  | conf a act next taken gateway found => rw [gateway, Gateway.port_after taken]

theorem found_effect (effect : Effect s t call) : s.found ⊆ t.found := by
  cases effect with
  | none gateway found | conf a act next taken gateway found => exact found ▸ List.Subset.refl _
  | tryInit r port answer missing low high gateway found =>
    rcases found with ⟨same, _⟩ | ⟨more, _⟩
    · exact same ▸ List.Subset.refl _
    · exact more ▸ List.subset_append_left _ _

theorem launched_moves {s next : Pipeline.State} {act : Pipeline.Act} (taken : Pipeline.step s act = some next) :
    next.launched = s.launched ∨
      (act = .launch ∧ s.launched < Pipeline.start.length ∧ next.launched = s.launched + 1) := by
  cases Pipeline.step_moves taken with
  | launch k thread created => exact Or.inr ⟨rfl, (List.getElem?_eq_some_iff.mp created).1, rfl⟩
  | _ => exact Or.inl rfl

theorem launched_effect (effect : Effect s t call) (a : Addr) :
    (t.gateway.conf a).launched = (s.gateway.conf a).launched ∨
      (call = some (.conf a .launch) ∧ (s.gateway.conf a).launched < Pipeline.start.length ∧
        (t.gateway.conf a).launched = (s.gateway.conf a).launched + 1) := by
  cases effect with
  | none gateway found => exact Or.inl (by rw [gateway])
  | tryInit r port answer missing low high gateway found =>
    rw [gateway]
    rcases Gateway.attempt_conf s.gateway r port (s.gateway.os.permit (fun _ => answer) port) a with
      same | ⟨put, _⟩
    · exact Or.inl (by rw [same])
    · rw [put]
      exact Or.inl rfl
  | conf b act next taken gateway found =>
    rw [gateway]
    by_cases mine : a = b
    · subst mine
      have conf : (Gateway.after s.gateway a act next).conf a = next := Gateway.put_same _ _ _
      rw [conf]
      exact (launched_moves taken).imp_right fun ⟨launch, more⟩ => ⟨by rw [launch], more⟩
    · exact Or.inl (congrArg Pipeline.State.launched (Gateway.put_elsewhere _ _ mine))

theorem ready_effect (effect : Effect s t call) (ready : Ready s.gateway s.found a) : Ready t.gateway t.found a := by
  obtain ⟨both, full⟩ := ready
  refine ⟨fun k => found_effect effect (both k), ?_⟩
  rcases launched_effect effect a with same | ⟨_, fewer, _⟩
  · exact same.trans full
  · exact absurd full (Nat.ne_of_lt fewer)

theorem answer_effect (effect : Effect s t call) (both : ∀ k, ⟨a, k⟩ ∈ s.found) : t.answer a = s.answer a := by
  unfold State.answer
  rw [port_effect effect (both .video), port_effect effect (both .audio)]

/-! ### Every run -/

/-- What every reachable state of the program keeps. -/
structure Consistent (s : State) : Prop where
  defined : s.registry.undefined = false
  unshared : Unshared s.registry
  allocated : ∀ r ∈ s.found, r.task < s.registry.next
  agrees : ∀ i, Agrees s.gateway s.found (s.registry.handlers i) (s.work i)
  sound : Sound s.gateway s.found
  granted : ∀ a answer, (a, answer) ∈ s.granted → Ready s.gateway s.found a ∧ answer = s.answer a

theorem moved_others {u v : Overlap.State} {b : Bool} (stepped : Overlap.step u ⟨i, b, slack⟩ = some v) {j : Nat}
    (other : j ≠ i) : v.handlers j = u.handlers j := by
  cases Overlap.step_moves stepped <;> first
    | rfl
    | exact Function.update_of_ne other ..

theorem moved_next {u v : Overlap.State} {b : Bool} (stepped : Overlap.step u ⟨i, b, slack⟩ = some v) :
    u.next ≤ v.next := by
  cases Overlap.step_moves stepped with
  | add name slack now => exact Nat.le_succ _
  | _ => exact Nat.le_refl _

/-- What a turn does to the registry, one call of the handler or none. -/
theorem moved_registry {registry : Overlap.State} {move : Option Bool}
    (moved : Run.run Overlap.step s.registry (move.toList.map fun found => ⟨i, found, slack⟩) = some registry)
    (unshared : Unshared s.registry) : Unshared registry ∧ s.registry.next ≤ registry.next ∧
      ∀ j, j ≠ i → registry.handlers j = s.registry.handlers j := by
  cases move with
  | none =>
    cases Option.some.inj moved
    exact ⟨unshared, Nat.le_refl _, fun _ _ => rfl⟩
  | some b =>
    obtain ⟨v, stepped, same⟩ := Option.bind_eq_some_iff.mp moved
    cases Option.some.inj same
    exact ⟨Overlap.unshared_step unshared stepped, moved_next stepped, fun j other => moved_others stepped other⟩

theorem moved_one {registry : Overlap.State} {b : Bool}
    (moved : Run.run Overlap.step s.registry ((some b).toList.map fun found => ⟨i, found, slack⟩) = some registry) :
    Overlap.step s.registry ⟨i, b, slack⟩ = some registry := by
  obtain ⟨v, stepped, same⟩ := Option.bind_eq_some_iff.mp moved
  exact Option.some.inj same ▸ stepped

theorem goto_mine (u : Overlap.State) (i : Nat) (handler : Handler) : (u.goto i handler).handlers i = handler := by
  rw [Overlap.goto_handlers, if_pos rfl]

theorem moved_search {u v : Overlap.State} {b : Bool} (now : u.handlers i = .searching a)
    (stepped : Overlap.step u ⟨i, b, slack⟩ = some v) :
    v.handlers i = if b then .starting a else .finding (u.heap a).name := by
  simp only [Overlap.step, Overlap.step_defined stepped, now, Bool.false_eq_true, if_false,
    Option.some.injEq] at stepped
  rw [← stepped, goto_mine]

theorem moved_start {u v : Overlap.State} {b : Bool} (now : u.handlers i = .starting a)
    (stepped : Overlap.step u ⟨i, b, slack⟩ = some v) : v.handlers i = .done := by
  simp only [Overlap.step, Overlap.step_defined stepped, now, Bool.false_eq_true, if_false,
    Option.some.injEq] at stepped
  rw [← stepped, goto_mine]

theorem moved_stop {u v : Overlap.State} {b : Bool} {iter : Vec.Iterator} (now : u.handlers i = .stopping iter)
    (stepped : Overlap.step u ⟨i, b, slack⟩ = some v) (defined : v.undefined = false) :
    ∃ a, v.handlers i = .erasing iter a := by
  simp only [Overlap.step, Overlap.step_defined stepped, now, Bool.false_eq_true, if_false,
    Option.some.injEq] at stepped
  subst stepped
  cases there : u.tasks.deref iter with
  | none =>
    simp only [Overlap.State.stop, there] at defined
    cases defined
  | some a =>
    by_cases built : (u.heap a).assigned = Overlap.pointers
    · refine ⟨a, ?_⟩
      simp only [Overlap.State.stop, there, if_pos built]
      exact goto_mine ..
    · simp only [Overlap.State.stop, there, if_neg built] at defined
      cases defined

theorem moved_erase {u v : Overlap.State} {b : Bool} {iter : Vec.Iterator} (now : u.handlers i = .erasing iter a)
    (stepped : Overlap.step u ⟨i, b, slack⟩ = some v) (defined : v.undefined = false) : v.handlers i = .done := by
  simp only [Overlap.step, Overlap.step_defined stepped, now, Bool.false_eq_true, if_false,
    Option.some.injEq] at stepped
  subst stepped
  unfold Overlap.State.erase at defined ⊢
  by_cases there : (u.tasks.deref iter).isSome
  · rw [if_pos there]
    exact goto_mine ..
  · rw [if_neg there] at defined
    cases defined

theorem launched_called {gateway : Gateway.State}
    (called : Run.run Gateway.step s.gateway (some (Gateway.Act.conf a .launch)).toList = some gateway) :
    (s.gateway.conf a).launched < Pipeline.start.length ∧
      (gateway.conf a).launched = (s.gateway.conf a).launched + 1 := by
  obtain ⟨h, stepped, same⟩ := Option.bind_eq_some_iff.mp called
  cases Option.some.inj same
  cases Gateway.step_acts stepped with
  | conf _ _ next taken =>
    cases Pipeline.step_moves taken with
    | launch k thread created =>
      exact ⟨(List.getElem?_eq_some_iff.mp created).1, congrArg Pipeline.State.launched (Gateway.put_same _ _ _)⟩

variable {next : Turn} {gateway : Gateway.State} {registry : Overlap.State}

theorem single_agrees (consistent : Consistent s) (free : s.work i = .free) (one : Single (s.registry.handlers i))
    (stepped : Overlap.step s.registry ⟨i, true, slack⟩ = some registry) (defined : registry.undefined = false) :
    Agrees gateway s.found (registry.handlers i) .free := by
  have mine := consistent.agrees i
  rw [free] at mine
  have goes : ∀ (u : Overlap.State) (handler : Handler), Agrees gateway s.found handler .free →
      Agrees gateway s.found ((u.goto i handler).handlers i) .free := by
    intro u handler agrees
    rwa [goto_mine]
  cases Overlap.step_moves stepped with
  | add name slack now => exact goes _ _ fun k member => Nat.lt_irrefl _ (consistent.allocated _ member)
  | assign a now more | assignLast a now last =>
    rw [now] at mine
    exact goes _ _ mine
  | absent name iter now | find name iter now | pass name iter now => exact goes _ _ trivial
  | search a now | giveUp a name now | start a now =>
    rw [now] at one
    exact one.elim
  | stop iter a now there built =>
    rw [now] at one
    exact one.elim
  | erase iter a now there =>
    rw [now] at mine
    exact mine.elim
  | fault => cases defined

theorem turn_agrees (consistent : Consistent s) (turned : Turns s i answer next)
    (called : Run.run Gateway.step s.gateway next.call.toList = some gateway)
    (moved : Run.run Overlap.step s.registry (next.move.toList.map fun found => ⟨i, found, slack⟩) = some registry)
    (defined : registry.undefined = false) : Agrees gateway (s.found ++ next.found) (registry.handlers i) next.work := by
  have mine := consistent.agrees i
  cases turned with
  | enter a now free =>
    rw [now, free] at mine
    cases Option.some.inj moved
    rw [now, List.append_nil]
    exact ⟨Nat.le_refl _, mine⟩
  | refused a kind port now here inside failed =>
    rw [now, here] at mine
    cases Option.some.inj moved
    rw [now, List.append_nil]
    exact agrees_next mine
  | video a port now here inside bound =>
    rw [now, here] at mine
    cases Option.some.inj moved
    rw [now]
    refine ⟨Nat.le_refl _, List.mem_append_right _ (List.mem_singleton_self _), ?_⟩
    simpa using mine.2 .audio
  | audio a port now here inside bound =>
    rw [now, here] at mine
    rw [moved_search now (moved_one moved), if_pos rfl]
    intro k
    cases k with
    | video => exact List.mem_append_left _ mine.2.1
    | audio => exact List.mem_append_right _ (List.mem_singleton_self _)
  | exhausted a kind port now here =>
    rw [moved_search now (moved_one moved)]
    trivial
  | launch a now free more =>
    rw [now, free] at mine
    cases Option.some.inj moved
    rw [now]
    exact fun k => List.mem_append_left _ (mine k)
  | launchLast a now free last =>
    rw [now, free] at mine
    rw [moved_start now (moved_one moved)]
    obtain ⟨before, after⟩ := launched_called called
    exact ⟨fun k => List.mem_append_left _ (mine k), after.trans (Nat.le_antisymm before last)⟩
  | reply a now here =>
    cases Option.some.inj moved
    rw [now]
    trivial
  | callStop iter a now free there =>
    obtain ⟨b, erasing⟩ := moved_stop now (moved_one moved) defined
    rw [erasing]
    trivial
  | stop iter call stopped a now here =>
    cases Option.some.inj moved
    rw [now]
    trivial
  | erase iter call stopped a now here =>
    rw [moved_erase now (moved_one moved) defined]
    trivial
  | single free one =>
    rw [List.append_nil]
    exact single_agrees consistent free one (moved_one moved) defined

theorem turned_found (turned : Turns s i answer next) :
    ∀ r ∈ next.found, s.registry.handlers i = .searching r.task := by
  cases turned with
  | video a port now here inside bound | audio a port now here inside bound =>
    exact List.forall_mem_singleton.mpr now
  | _ => exact List.forall_mem_nil _

theorem turned_granted (turned : Turns s i answer next) : ∀ grant ∈ next.granted,
    s.registry.handlers i = .done ∧ s.work i = .reply grant.1 ∧ grant.2 = s.answer grant.1 := by
  cases turned with
  | reply a now here => exact List.forall_mem_singleton.mpr ⟨now, here, rfl⟩
  | _ => exact List.forall_mem_nil _

theorem granted_effect {call : Option Gateway.Act} (effect : Effect s t call) {grants : List (Addr × Answer)}
    (granted : ∀ a answer, (a, answer) ∈ grants → Ready s.gateway s.found a ∧ answer = s.answer a) :
    ∀ a answer, (a, answer) ∈ grants → Ready t.gateway t.found a ∧ answer = t.answer a := by
  intro a answer member
  obtain ⟨ready, same⟩ := granted a answer member
  exact ⟨ready_effect effect ready, same.trans (answer_effect effect ready.1).symm⟩

theorem consistent_step (consistent : Consistent s) (h : step s act = some t) : Consistent t := by
  have effect := step_effect consistent.agrees h
  have sound := sound_effect consistent.sound effect
  have ready : ∀ a, Ready s.gateway s.found a → Ready t.gateway t.found a := fun a => ready_effect effect
  have more : s.found ⊆ t.found := found_effect effect
  cases step_steps h with
  | thread a act gateway own taken =>
    refine ⟨consistent.defined, consistent.unshared, consistent.allocated, fun i => ?_, sound,
      granted_effect effect consistent.granted⟩
    exact agrees_mono (consistent.agrees i) more (fun _ _ _ member => member) ready
  | handler i answer slack next gateway registry turned called moved defined =>
    have turns := turn_turns turned
    obtain ⟨unshared, later, others⟩ := moved_registry moved consistent.unshared
    have builds : ∀ r ∈ next.found, Builds r.task (s.registry.handlers i) := by
      intro r member
      rw [turned_found turns r member]
      exact rfl
    refine ⟨defined, unshared, ?_, fun j => ?_, sound, ?_⟩
    · refine List.forall_mem_append.mpr ⟨fun r member => ?_, fun r member => ?_⟩
      · exact Nat.lt_of_lt_of_le (consistent.allocated r member) later
      · exact Nat.lt_of_lt_of_le (consistent.unshared.allocated i _ (builds r member)) later
    · dsimp only
      by_cases mine : j = i
      · subst mine
        rw [Function.update_self]
        exact turn_agrees consistent turns called moved defined
      · rw [others j mine, Function.update_of_ne mine]
        refine agrees_mono (consistent.agrees j) more (fun a theirs k member => ?_) ready
        refine (List.mem_append.mp member).resolve_right fun new => mine ?_
        exact consistent.unshared.alone j i a theirs (builds _ new)
    · refine granted_effect effect fun a reply member => ?_
      rcases List.mem_append.mp member with old | new
      · exact consistent.granted a reply old
      · obtain ⟨now, here, same⟩ := turned_granted turns _ new
        have mine := consistent.agrees i
        rw [now, here] at mine
        exact ⟨mine, same⟩

theorem next_mono (consistent : Consistent s) (h : step s act = some t) : s.registry.next ≤ t.registry.next := by
  cases step_steps h with
  | thread a act gateway own taken => exact Nat.le_refl _
  | handler i answer slack next gateway registry turned called moved defined =>
    exact (moved_registry moved consistent.unshared).2.1

theorem consistent_initial (memory : Addr → Kind → Int) (requests : Nat → Option Overlap.Request) :
    Consistent (initial memory requests) where
  defined := rfl
  unshared := Overlap.unshared_initial requests
  allocated := List.forall_mem_nil _
  agrees i := by
    simp only [initial, Overlap.initial]
    cases requests i with
    | none => trivial
    | some request => cases request <;> trivial
  sound :=
    { launched := fun a => (Pipeline.sound_initial (memory a)).launched
      onePer := fun _ _ _ _ _ found => by cases lookup_mem found
      ranges := List.forall_mem_nil _ }
  granted _ _ member := by cases member

end GstGateway.Program
