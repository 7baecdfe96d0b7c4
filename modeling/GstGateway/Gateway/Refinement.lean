import Mathlib.Data.List.Count
import GstGateway.Gateway.Conferences
import GstGateway.Pipeline.Stages

/-! Every run of the gateway is a run of the socket model. A receiver's thread and its `quit()` are steps
there too; of the processor's statements only the stores of the flag are. -/

namespace GstGateway.Gateway

open Pipeline (StopCall Moves Launched)

variable {g h : State} {o u : Ownership.State} {a : Addr} {k : Kind} {next : Pipeline.State}

/-- Each `closesocket` closes a socket that the same receiver opened and that is still open. -/
def ClosesOwn (g : State) (act : Act) : Prop :=
  ∀ r, closer g act = some r → g.os.owner (g.receiver r).recvSocket = some r

def socketCall (s : Pipeline.State) (a : Addr) : Pipeline.Act → List Ownership.Action
  | .launch =>
    match Pipeline.start[s.launched]? with
    | some (k, .receiver) => [.launch ⟨a, k⟩]
    | _ => []
  | .stop i =>
    match nextCall s i with
    | some (k, .deactivate) => [.quit ⟨a, k⟩]
    | some (k, .closeSocket) => [.wake ⟨a, k⟩]
    | _ => []
  | .processor k _ =>
    match Pipeline.nextOp k (s.chan k) with
    | some (.storeFlag b) => [.storeFlag ⟨a, k⟩ b]
    | _ => []
  | .receiver k ret => [.thread ⟨a, k⟩ ret]
  | _ => []

/-- What the socket model sees of a step. -/
def socketCalls (g : State) : Act → List Ownership.Action
  | .tryInit r port answer => [.tryInit r port answer]
  | .conf a act => socketCall (g.conf a) a act

/-- The calls of `quit()` that sleep: their next step closes the socket. -/
def asleep (s : Pipeline.State) (k : Kind) : Nat :=
  s.stops.countP fun made => Pipeline.stop[made]? = some (k, StopCall.closeSocket)

structure Related (g : State) (o : Ownership.State) : Prop where
  os : o.os = g.os
  receivers : ∀ r, o.receivers r = g.receiver r
  sleeping : ∀ r, o.sleeping r = asleep (g.conf r.task) r.kind
  launched : ∀ a, Launched (g.conf a)

/-- A step of conference `a`: the socket model follows it there and stays as it is elsewhere. -/
theorem related_conf {os : Os} {exited : Bool} (related : Related g o) (sockets : u.os = os)
    (receivers : ∀ k, u.receivers ⟨a, k⟩ = (next.chan k).receiver)
    (sleeping : ∀ k, u.sleeping ⟨a, k⟩ = asleep next k)
    (others : ∀ r : ReceiverId, r.task ≠ a → u.receivers r = o.receivers r ∧ u.sleeping r = o.sleeping r)
    (launched : Launched next) : Related { g.put a next with os, exited } u := by
  refine ⟨sockets, fun ⟨b, j⟩ => ?_, fun ⟨b, j⟩ => ?_, fun b => ?_⟩
  · by_cases mine : b = a
    · subst mine
      rw [receivers]
      exact congrArg (fun s : Pipeline.State => (s.chan j).receiver) (put_same _ _ _).symm
    · rw [(others ⟨b, j⟩ mine).1, related.receivers]
      exact congrArg (fun s : Pipeline.State => (s.chan j).receiver) (put_elsewhere _ _ mine).symm
  · by_cases mine : b = a
    · subst mine
      rw [sleeping]
      exact congrArg (fun s => asleep s j) (put_same _ _ _).symm
    · rw [(others ⟨b, j⟩ mine).2, related.sleeping]
      exact congrArg (fun s => asleep s j) (put_elsewhere _ _ mine).symm
  · by_cases mine : b = a
    · subst mine
      exact (put_same _ _ _).symm ▸ launched
    · exact (put_elsewhere _ next mine).symm ▸ related.launched b

theorem put_receivers {s : Pipeline.State} {c : Pipeline.Channel} {f : ReceiverId → UdpReceiver}
    (same : ∀ j, f ⟨a, j⟩ = (s.chan j).receiver) (j : Kind) :
    Function.update f ⟨a, k⟩ c.receiver ⟨a, j⟩ = ((s.put k c).chan j).receiver := by
  by_cases mine : j = k
  · subst mine
    rw [Function.update_self, Pipeline.put_self]
  · rw [Function.update_of_ne (fun equal => mine (congrArg ReceiverId.kind equal)), same, Pipeline.put_other _ _ mine]

theorem update_elsewhere {α : Type} {f : ReceiverId → α} {x : α} {r : ReceiverId} (other : r.task ≠ a) :
    Function.update f ⟨a, k⟩ x r = f r :=
  Function.update_of_ne (fun equal => other (congrArg ReceiverId.task equal)) _ _

theorem update_here {α : Type} {f : ReceiverId → α} {x : α} (j : Kind) :
    Function.update f ⟨a, k⟩ x ⟨a, j⟩ = if j = k then x else f ⟨a, j⟩ := by
  simp [Function.update_apply]

/-! ### The calls of `stop()` -/

theorem stop_after {made : Nat} {j : Kind} {call : StopCall} (now : Pipeline.stop[made]? = some (j, call)) :
    Pipeline.stop[made + 1]? = some (k, .closeSocket) ↔ call = .deactivate ∧ k = j := by
  rcases made with _ | _ | _ | _ | _ | _ | made <;> cases now <;> cases k <;> decide

theorem asleep_stop {s : Pipeline.State} {i made : Nat} {j : Kind} {call : StopCall} (now : s.stops[i]? = some made)
    (next : Pipeline.stop[made]? = some (j, call)) (c : Pipeline.Channel) :
    asleep ({ s with stops := s.stops.set i (made + 1) }.put j c) k =
      asleep s k - (if k = j ∧ call = .closeSocket then 1 else 0) +
        if k = j ∧ call = .deactivate then 1 else 0 := by
  obtain ⟨inside, here⟩ := List.getElem?_eq_some_iff.mp now
  have before : Pipeline.stop[made]? = some (k, .closeSocket) ↔ k = j ∧ call = .closeSocket := by
    rw [next, Option.some.injEq, Prod.mk.injEq, @eq_comm _ j k]
  have after := stop_after (k := k) next
  rw [and_comm] at after
  simp only [asleep, Pipeline.State.put, List.countP_set inside, here, decide_eq_true_eq, before, after]

theorem asleep_pos {s : Pipeline.State} {i made : Nat} (now : s.stops[i]? = some made)
    (next : Pipeline.stop[made]? = some (k, .closeSocket)) : 0 < asleep s k :=
  List.countP_pos_iff.mpr ⟨made, List.mem_of_getElem? now, decide_eq_true next⟩

/-! ### Each step of a thread is a step of the socket model, or none -/

def Follows (g : State) (o : Ownership.State) (a : Addr) (act : Pipeline.Act) (next : Pipeline.State) : Prop :=
  ∃ u, Run.run Ownership.step o (socketCall (g.conf a) a act) = some u ∧ Related (after g a act next) u

theorem receivers_here (related : Related g o) (j : Kind) :
    o.receivers ⟨a, j⟩ = ((g.conf a).chan j).receiver := related.receivers ⟨a, j⟩

theorem follows_launch {thread : Pipeline.Thread} (related : Related g o)
    (created : Pipeline.start[(g.conf a).launched]? = some (k, thread))
    (launched : Launched ({ g.conf a with launched := (g.conf a).launched + 1 }.put k
      (Pipeline.launch ((g.conf a).chan k) thread))) :
    Follows g o a .launch ({ g.conf a with launched := (g.conf a).launched + 1 }.put k
      (Pipeline.launch ((g.conf a).chan k) thread)) := by
  cases thread with
  | processor =>
    refine ⟨o, by simp only [socketCall, created, Run.run], ?_⟩
    refine related_conf related related.os (fun j => ?_) (fun j => related.sleeping ⟨a, j⟩)
      (fun r _ => ⟨rfl, rfl⟩) launched
    rw [receivers_here related]
    by_cases mine : j = k
    · subst mine
      rw [Pipeline.put_self]
      rfl
    · rw [Pipeline.put_other _ _ mine]
  | receiver =>
    have idle : (o.receivers ⟨a, k⟩).pc = .idle := by
      rw [receivers_here related]
      exact (related.launched a k .receiver).mpr (Nat.le_of_eq (Pipeline.start_at.mp created))
    refine ⟨o.set ⟨a, k⟩ { o.receivers ⟨a, k⟩ with pc := .waiting }, ?_, ?_⟩
    · simp only [socketCall, created, Run.run, Ownership.step, if_pos idle, Option.bind_some]
    · refine related_conf related related.os (fun j => ?_) (fun j => related.sleeping ⟨a, j⟩)
        (fun r other => ⟨update_elsewhere other, rfl⟩) launched
      rw [receivers_here related]
      exact put_receivers (s := { g.conf a with launched := (g.conf a).launched + 1 })
        (c := Pipeline.launch ((g.conf a).chan k) .receiver) (receivers_here related) j

theorem follows_stop {i made : Nat} {call : StopCall} (related : Related g o) (now : (g.conf a).stops[i]? = some made)
    (calls : Pipeline.stop[made]? = some (k, call))
    (launched : Launched ({ g.conf a with stops := (g.conf a).stops.set i (made + 1) }.put k
      (Pipeline.request ((g.conf a).chan k) call))) :
    Follows g o a (.stop i) ({ g.conf a with stops := (g.conf a).stops.set i (made + 1) }.put k
      (Pipeline.request ((g.conf a).chan k) call)) := by
  have upcoming : nextCall (g.conf a) i = some (k, call) := by rw [nextCall, now, Option.bind_some, calls]
  have sleepers := fun j => asleep_stop (k := j) now calls (Pipeline.request ((g.conf a).chan k) call)
  cases call with
  | quit =>
    refine ⟨o, by simp only [socketCall, upcoming, Run.run], ?_⟩
    refine related_conf related ?_ (fun j => ?_) (fun j => ?_) (fun r _ => ⟨rfl, rfl⟩) launched
    · simp only [closer, closes, upcoming, Option.map_none]
      exact related.os
    · rw [receivers_here related]
      by_cases mine : j = k
      · subst mine
        rw [Pipeline.put_self]
        rfl
      · rw [Pipeline.put_other _ _ mine]
    · rw [sleepers]
      simpa using related.sleeping ⟨a, j⟩
  | deactivate =>
    refine ⟨_, by simp only [socketCall, upcoming, Run.run, Ownership.step, Option.bind_some]; rfl, ?_⟩
    refine related_conf related ?_ (fun j => ?_) (fun j => ?_) (fun r other => ⟨?_, ?_⟩) launched
    · simp only [closer, closes, upcoming, Option.map_none]
      exact related.os
    · rw [receivers_here related]
      exact put_receivers (s := { g.conf a with stops := (g.conf a).stops.set i (made + 1) })
        (c := Pipeline.request ((g.conf a).chan k) .deactivate) (receivers_here related) j
    · refine (update_here j).trans ?_
      rw [sleepers, related.sleeping, related.sleeping]
      by_cases mine : j = k
      · subst mine
        simp
      · simp [mine]
    · exact update_elsewhere other
    · exact update_elsewhere other
  | closeSocket =>
    have asleep : 0 < o.sleeping ⟨a, k⟩ := by
      rw [related.sleeping]
      exact asleep_pos now calls
    refine ⟨_, by simp only [socketCall, upcoming, Run.run, Ownership.step, if_pos asleep, Option.bind_some]; rfl, ?_⟩
    refine related_conf related ?_ (fun j => ?_) (fun j => ?_) (fun r other => ⟨rfl, update_elsewhere other⟩) launched
    · simp only [closer, closes, upcoming, Option.map_some, closed, Ownership.State.close]
      rw [related.os, related.receivers]
    · rw [Ownership.State.close, receivers_here related]
      by_cases mine : j = k
      · subst mine
        rw [Pipeline.put_self]
        rfl
      · rw [Pipeline.put_other _ _ mine]
    · refine (update_here j).trans ?_
      rw [sleepers, related.sleeping, related.sleeping]
      by_cases mine : j = k
      · subst mine
        simp
      · simp [mine]

theorem follows_receiver {ret : Int} {receiver : UdpReceiver} (related : Related g o)
    (moved : ((g.conf a).chan k).receiver.threadStep ret = some receiver)
    (launched : Launched ((g.conf a).put k { (g.conf a).chan k with receiver })) :
    Follows g o a (.receiver k ret) ((g.conf a).put k { (g.conf a).chan k with receiver }) := by
  have mine := receivers_here (a := a) related k
  have put := put_receivers (k := k) (s := g.conf a) (c := { (g.conf a).chan k with receiver })
    (receivers_here (a := a) related)
  by_cases ending : ((g.conf a).chan k).receiver.pc = .closing
  · refine ⟨(o.close ⟨a, k⟩).set ⟨a, k⟩ receiver, ?_, ?_⟩
    · simp only [socketCall, Run.run, Ownership.step, mine, moved, if_pos ending, Option.map_some, Option.bind_some]
    · refine related_conf related ?_ put (fun j => related.sleeping ⟨a, j⟩)
        (fun r other => ⟨update_elsewhere other, rfl⟩) launched
      simp only [closer, closes, if_pos ending, Option.map_some, closed, Ownership.State.close, Ownership.State.set]
      rw [related.os, related.receivers]
  · refine ⟨o.set ⟨a, k⟩ receiver, ?_, ?_⟩
    · simp only [socketCall, Run.run, Ownership.step, mine, moved, if_neg ending, Option.map_some, Option.bind_some]
    · refine related_conf related ?_ put (fun j => related.sleeping ⟨a, j⟩)
        (fun r other => ⟨update_elsewhere other, rfl⟩) launched
      simp only [closer, closes, if_neg ending, Option.map_none, closed]
      exact related.os

/-- Of the statements of `entrypoint` only a store of the flag touches the receiver. -/
theorem ran_receiver {c d : Pipeline.Channel} {exited : Bool} (moved : Pipeline.Ran k c d exited) :
    (∃ b, Pipeline.nextOp k c = some (.storeFlag b) ∧ d.receiver = { c.receiver with syncFlag := b }) ∨
      ((∀ b, Pipeline.nextOp k c ≠ some (.storeFlag b)) ∧ d.receiver = c.receiver) := by
  cases moved with
  | goOn pc op now there other =>
    rw [Pipeline.nextOp_running now, there]
    cases op with
    | storeFlag b => exact Or.inl ⟨b, rfl, rfl⟩
    | _ => exact Or.inr ⟨nofun, rfl⟩
  | enter pc running now there made outside =>
    rw [Pipeline.nextOp_running now, there]
    exact Or.inr ⟨nofun, rfl⟩
  | leave pc now there inside =>
    rw [Pipeline.nextOp_running now, there]
    exact Or.inr ⟨nofun, rfl⟩
  | leaveHelper pc op now there check | giveUp pc op now there check | exitProcess pc op now there check =>
    rw [Pipeline.nextOp_running now, there]
    exact Or.inr ⟨fun b same => (by cases Option.some.inj same; cases check), rfl⟩
  | finish pc now past =>
    rw [Pipeline.nextOp_running now, past]
    exact Or.inr ⟨nofun, rfl⟩

theorem follows_processor {ok exited : Bool} {c : Pipeline.Channel} (related : Related g o)
    (moved : Pipeline.processorStep k ((g.conf a).chan k) ok = some (c, exited))
    (launched : Launched ({ g.conf a with exited }.put k c)) :
    Follows g o a (.processor k ok) ({ g.conf a with exited }.put k c) := by
  rcases ran_receiver (Pipeline.processorStep_ran moved) with ⟨b, stores, receiver⟩ | ⟨other, receiver⟩
  · refine ⟨_, by simp only [socketCall, stores, Run.run, Ownership.step, Option.bind_some]; rfl, ?_⟩
    refine related_conf related related.os (fun j => ?_) (fun j => related.sleeping ⟨a, j⟩)
      (fun r other => ⟨update_elsewhere other, rfl⟩) launched
    rw [receivers_here related, ← receiver]
    exact put_receivers (s := { g.conf a with exited }) (receivers_here related) j
  · refine ⟨o, ?_, ?_⟩
    · have none : socketCall (g.conf a) a (.processor k ok) = [] := by
        dsimp only [socketCall]
        split
        · rename_i b stores
          exact absurd stores (other b)
        · rfl
      rw [none]
      rfl
    · refine related_conf related related.os (fun j => ?_) (fun j => related.sleeping ⟨a, j⟩)
        (fun r _ => ⟨rfl, rfl⟩) launched
      rw [receivers_here related]
      by_cases mine : j = k
      · subst mine
        rw [Pipeline.put_self, receiver]
      · rw [Pipeline.put_other _ _ mine]

theorem follows_step {act : Pipeline.Act} (related : Related g o) (taken : Pipeline.step (g.conf a) act = some next) :
    Follows g o a act next := by
  have launched := Pipeline.launched_step (related.launched a) taken
  cases Pipeline.step_moves taken with
  | launch k thread created => exact follows_launch related created launched
  | callStop =>
    refine ⟨o, rfl, related_conf related related.os (receivers_here related) (fun j => ?_)
      (fun r _ => ⟨rfl, rfl⟩) launched⟩
    rw [related.sleeping ⟨a, j⟩]
    cases j <;> simp [asleep, Pipeline.stop]
  | stop i made k call now calls => exact follows_stop related now calls launched
  | processor k ok c exited moved => exact follows_processor related moved launched
  | receiver k ret receiver moved => exact follows_receiver related moved launched
  | endOfStream k =>
    refine ⟨o, rfl, related_conf related related.os (fun j => ?_) (fun j => related.sleeping ⟨a, j⟩)
      (fun r _ => ⟨rfl, rfl⟩) launched⟩
    rw [receivers_here related]
    by_cases mine : j = k
    · subst mine
      rw [Pipeline.put_self]
      rfl
    · rw [Pipeline.put_other _ _ mine]


theorem tryInit_pc (self : ReceiverId) (r : UdpReceiver) (os : Os) (port : Nat) (answer : Attempt) :
    (UdpReceiver.tryInit self r os port answer).2.1.pc = r.pc := by
  unfold UdpReceiver.tryInit
  cases answer.socket with
  | none => rfl
  | some wish => cases answer.bind <;> rfl

theorem attempt_conf (g : State) (r : ReceiverId) (port : Nat) (answer : Attempt) (b : Addr) :
    (attempt g r port answer).conf b = g.conf b ∨ (attempt g r port answer).conf b =
      (g.conf b).put r.kind { (g.conf b).chan r.kind with
        receiver := (UdpReceiver.tryInit r (g.receiver r) g.os port answer).2.1 } ∧ b = r.task := by
  by_cases mine : b = r.task
  · subst mine
    exact Or.inr ⟨put_same _ _ _, rfl⟩
  · exact Or.inl (put_elsewhere _ _ mine)

theorem launched_attempt (launched : ∀ a, Launched (g.conf a)) (r : ReceiverId) (port : Nat) (answer : Attempt)
    (b : Addr) : Launched ((attempt g r port answer).conf b) := by
  rcases attempt_conf g r port answer b with same | ⟨same, rfl⟩
  · rw [same]
    exact launched b
  · rw [same]
    refine Pipeline.launched_put (launched r.task) rfl rfl fun thread => ?_
    cases thread with
    | receiver => simp only [Pipeline.Absent, tryInit_pc, State.receiver]
    | processor => exact Iff.rfl

theorem follows_tryInit {r : ReceiverId} {port : Nat} {answer : Attempt} (related : Related g o)
    (idle : (g.receiver r).pc = .idle) : ∃ u, Run.run Ownership.step o [.tryInit r port answer] = some u ∧
      Related (attempt g r port answer) u := by
  have here : (o.receivers r).pc = .idle := by
    rw [related.receivers]
    exact idle
  refine ⟨_, by simp only [Run.run, Ownership.step, if_pos here, Option.bind_some]; rfl, ?_⟩
  rw [related.receivers, related.os]
  refine ⟨rfl, fun q => ?_, fun q => ?_, fun b => ?_⟩
  · rw [attempt_receiver]
    refine (Function.update_apply ..).trans ?_
    rw [related.receivers]
  · refine (related.sleeping q).trans ?_
    rcases attempt_conf g r port answer q.task with same | ⟨same, _⟩
    · rw [same]
    · rw [same]
      rfl
  · exact launched_attempt related.launched r port answer b

theorem sockets_answer : Simulation.Answers step Ownership.step socketCalls Related := by
  intro g act h o related stepped
  cases step_acts stepped with
  | tryInit r port answer idle => exact follows_tryInit related idle
  | conf a act next taken => exact follows_step related taken

theorem related_initial (memory : Addr → Kind → Int) : Related (initial memory) {} where
  os := rfl
  receivers := fun _ => rfl
  sleeping := fun _ => rfl
  launched := fun a => (Pipeline.sound_initial (memory a)).launched

/-- The same receivers close. -/
theorem closer_iff (related : Related g o) (act : Act) (r : ReceiverId) :
    closer g act = some r ↔ ∃ x ∈ socketCalls g act, Ownership.closer o x = some r := by
  cases act with
  | tryInit q port answer => simp [closer, socketCalls, Ownership.closer]
  | conf a act =>
    dsimp only [closer, socketCalls]
    cases act with
    | launch =>
      dsimp only [closes, socketCall]
      split <;> simp [Ownership.closer]
    | callStop | endOfStream k => simp [closes, socketCall]
    | stop i =>
      dsimp only [closes, socketCall]
      cases nextCall (g.conf a) i with
      | none => simp
      | some next =>
        obtain ⟨k, call⟩ := next
        cases call <;> simp [Ownership.closer]
    | processor k ok =>
      dsimp only [closes, socketCall]
      split <;> simp [Ownership.closer]
    | receiver k ret =>
      simp only [closes, socketCall, List.mem_singleton, exists_eq_left, Ownership.closer, receivers_here related]
      split <;> simp

theorem socketCalls_short (g : State) (act : Act) : socketCalls g act = [] ∨ ∃ x, socketCalls g act = [x] := by
  cases act with
  | tryInit r port answer => exact Or.inr ⟨_, rfl⟩
  | conf a act =>
    cases act <;> dsimp only [socketCalls, socketCall] <;> first
      | exact Or.inl rfl
      | exact Or.inr ⟨_, rfl⟩
      | (split <;> first | exact Or.inl rfl | exact Or.inr ⟨_, rfl⟩)

theorem closesOwn_agrees {act : Act} (related : Related g o) (stepped : step g act = some h) :
    ClosesOwn g act ↔ Run.Meets Ownership.step Ownership.ClosesOwn o (socketCalls g act) := by
  obtain ⟨v, ran, _⟩ := sockets_answer g act h o related stepped
  have all : ClosesOwn g act ↔ ∀ x ∈ socketCalls g act, Ownership.ClosesOwn o x := by
    constructor
    · intro own x member r closing
      rw [related.os, related.receivers]
      exact own r ((closer_iff related act r).mpr ⟨x, member, closing⟩)
    · intro own r closing
      obtain ⟨x, member, there⟩ := (closer_iff related act r).mp closing
      have mine := own x member r there
      rwa [related.os, related.receivers] at mine
  rw [all]
  rcases socketCalls_short g act with none | ⟨x, one⟩
  · rw [none]
    exact iff_of_true (fun _ member => by cases member) trivial
  · rw [one] at ran ⊢
    obtain ⟨next, taken, _⟩ := Option.bind_eq_some_iff.mp ran
    rw [List.forall_mem_singleton]
    refine ⟨fun own _ _ => ⟨own, trivial⟩, fun meets => (meets next taken).1⟩

/-- Every run of the gateway is a run of the socket model, which ends with the same sockets and the same
receivers, and in which a receiver closes a socket that is not its own exactly where one does here. -/
theorem threads_refine_sockets (memory : Addr → Kind → Int) (acts : List Act) (g : State)
    (ran : Run.run step (initial memory) acts = some g) :
    (∃ o, Run.run Ownership.step {} (Simulation.images step socketCalls (initial memory) acts) = some o ∧
      o.os = g.os ∧ ∀ r, o.receivers r = g.receiver r) ∧
    (Run.Meets step ClosesOwn (initial memory) acts ↔
      Run.Meets Ownership.step Ownership.ClosesOwn {}
        (Simulation.images step socketCalls (initial memory) acts)) := by
  refine ⟨?_, ?_⟩
  · obtain ⟨o, follows, related⟩ := Simulation.answers_run sockets_answer (related_initial memory) ran
    exact ⟨o, follows, related.os, related.receivers⟩
  · exact Simulation.answers_meets sockets_answer (fun _ _ _ _ related stepped => closesOwn_agrees related stepped)
      (related_initial memory)

/-- Two conferences are created, one during the other. -/
def overlapping : List Act :=
  [.tryInit ⟨0, .video⟩ 50001 ⟨some 7, .bound⟩, .conf 0 .launch, .tryInit ⟨1, .video⟩ 50002 ⟨some 8, .bound⟩,
   .conf 1 .launch, .conf 0 .launch, .conf 1 .callStop, .conf 0 (.receiver .video 0)]

theorem overlapping_refines : ∃ o, Run.run Ownership.step {}
      [.tryInit ⟨0, .video⟩ 50001 ⟨some 7, .bound⟩, .launch ⟨0, .audio⟩, .tryInit ⟨1, .video⟩ 50002 ⟨some 8, .bound⟩,
       .launch ⟨1, .audio⟩, .launch ⟨0, .video⟩, .thread ⟨0, .video⟩ 0] = some o ∧
    o.os.owner (.number 8) = some ⟨1, .video⟩ := by
  obtain ⟨g, ran, owner⟩ : ∃ g, Run.run step (initial fun _ _ => 0) overlapping = some g ∧
      g.os.owner (.number 8) = some ⟨1, .video⟩ := ⟨_, rfl, rfl⟩
  obtain ⟨⟨o, follows, os, _⟩, _⟩ := threads_refine_sockets (fun _ _ => 0) overlapping g ran
  exact ⟨o, follows, os ▸ owner⟩

end GstGateway.Gateway
