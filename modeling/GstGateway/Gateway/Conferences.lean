import GstGateway.Foundation.Simulation
import GstGateway.Pipeline.Stages
import GstGateway.Receiver.Ownership

/-! The gateway as a whole: any number of conferences, each with its four threads, over one table of sockets.
A conference by itself leaves the sockets out, and the socket model leaves out what the threads do between
two calls. Both are seen here from the same runs. -/

namespace GstGateway.Gateway

open Pipeline (StopCall Moves Launched)

structure State where
  os : Os := {}
  conf : Addr → Pipeline.State
  /-- `exit(1)` in one conference ends them all. -/
  exited : Bool := false

def initial (memory : Addr → Kind → Int) : State := { conf := fun a => Pipeline.initial (memory a) }

/-- One attempt of a port search, or a step of a conference. -/
inductive Act where
  | tryInit (r : ReceiverId) (port : Nat) (answer : Attempt)
  | conf (a : Addr) (act : Pipeline.Act)

def State.receiver (g : State) (r : ReceiverId) : UdpReceiver := ((g.conf r.task).chan r.kind).receiver

def State.put (g : State) (a : Addr) (s : Pipeline.State) : State := { g with conf := Function.update g.conf a s }

/-- The call that the `i`-th `stop()` makes next. -/
def nextCall (s : Pipeline.State) (i : Nat) : Option (Kind × StopCall) :=
  s.stops[i]?.bind fun made => Pipeline.stop[made]?

/-- The receiver whose socket the next step closes: at the end of its thread, or in `quit()`. -/
def closes (s : Pipeline.State) : Pipeline.Act → Option Kind
  | .receiver k _ => if (s.chan k).receiver.pc = .closing then some k else none
  | .stop i =>
    match nextCall s i with
    | some (k, .closeSocket) => some k
    | _ => none
  | _ => none

def closer (g : State) : Act → Option ReceiverId
  | .tryInit _ _ _ => none
  | .conf a act => (closes (g.conf a) act).map fun k => ⟨a, k⟩

def attempt (g : State) (r : ReceiverId) (port : Nat) (answer : Attempt) : State :=
  let done := UdpReceiver.tryInit r (g.receiver r) g.os port answer
  { g.put r.task ((g.conf r.task).put r.kind { (g.conf r.task).chan r.kind with receiver := done.2.1 }) with
    os := done.2.2 }

def closed (g : State) : Option ReceiverId → Os
  | none => g.os
  | some r => g.os.closesocket (g.receiver r).recvSocket

/-- The rest of a step of the gateway, once the conference has gone to `next`. -/
def after (g : State) (a : Addr) (act : Pipeline.Act) (next : Pipeline.State) : State :=
  { g.put a next with os := closed g (closer g (.conf a act)), exited := next.exited }

def step (g : State) : Act → Option State
  | .tryInit r port answer =>
    -- `init` has returned before `start` launches the thread.
    if g.exited = false ∧ (g.receiver r).pc = .idle then some (attempt g r port answer) else none
  | .conf a act =>
    if g.exited then none
    else (Pipeline.step (g.conf a) act).map (after g a act)

inductive Acts (g : State) : Act → State → Prop where
  | tryInit (r : ReceiverId) (port : Nat) (answer : Attempt) (idle : (g.receiver r).pc = .idle) :
      Acts g (.tryInit r port answer) (attempt g r port answer)
  | conf (a : Addr) (act : Pipeline.Act) (next : Pipeline.State) (taken : Pipeline.step (g.conf a) act = some next) :
      Acts g (.conf a act) (after g a act next)

theorem step_acts {g h : State} {act : Act} (stepped : step g act = some h) : Acts g act h := by
  cases act with
  | tryInit r port answer =>
    simp only [step] at stepped
    split at stepped
    · rename_i ready
      cases stepped
      exact .tryInit r port answer ready.2
    · cases stepped
  | conf a act =>
    simp only [step] at stepped
    split at stepped
    · cases stepped
    · obtain ⟨next, taken, rfl⟩ := Option.map_eq_some_iff.mp stepped
      exact .conf a act next taken

@[simp] theorem put_same (g : State) (a : Addr) (s : Pipeline.State) : (g.put a s).conf a = s :=
  Function.update_self ..

theorem put_elsewhere (g : State) {a b : Addr} (s : Pipeline.State) (other : b ≠ a) :
    (g.put a s).conf b = g.conf b := Function.update_of_ne other ..

theorem attempt_receiver (g : State) (r q : ReceiverId) (port : Nat) (answer : Attempt) :
    (attempt g r port answer).receiver q =
      if q = r then (UdpReceiver.tryInit r (g.receiver r) g.os port answer).2.1 else g.receiver q := by
  obtain ⟨a, k⟩ := r
  obtain ⟨b, j⟩ := q
  by_cases task : b = a
  · subst task
    by_cases kind : j = k
    · subst kind
      simp [attempt, State.receiver]
    · simp [attempt, State.receiver, kind, Pipeline.put_other]
  · simp [attempt, State.receiver, task, put_elsewhere]

/-! ### One conference among the others -/

/-- A receiver without the fields that a port search writes. -/
def bareReceiver (r : UdpReceiver) : UdpReceiver := { r with srcPort := 3000, recvSocket := .null }

def bareChannel (c : Pipeline.Channel) : Pipeline.Channel := { c with receiver := bareReceiver c.receiver }

def bare (s : Pipeline.State) : Pipeline.State := { s with chan := fun k => bareChannel (s.chan k) }

theorem bare_put (s : Pipeline.State) (k : Kind) (c : Pipeline.Channel) :
    bare (s.put k c) = (bare s).put k (bareChannel c) := by
  unfold bare Pipeline.State.put
  congr 1
  funext j
  by_cases same : j = k
  · subst same
    simp
  · simp [same]

theorem bare_launch (c : Pipeline.Channel) (thread : Pipeline.Thread) :
    Pipeline.launch (bareChannel c) thread = bareChannel (Pipeline.launch c thread) := by
  cases thread <;> rfl

theorem bare_request (c : Pipeline.Channel) (call : StopCall) :
    Pipeline.request (bareChannel c) call = bareChannel (Pipeline.request c call) := by
  cases call <;> rfl

theorem bare_effect (c : Pipeline.Channel) (op : Op) :
    Pipeline.effect (bareChannel c) op = bareChannel (Pipeline.effect c op) := by
  cases op <;> rfl

theorem bare_threadStep (r : UdpReceiver) (ret : Int) :
    (bareReceiver r).threadStep ret = (r.threadStep ret).map bareReceiver := by
  have same : (bareReceiver r).nextPc ret = r.nextPc ret := rfl
  unfold UdpReceiver.threadStep
  rw [same, Option.map_map]
  rfl

theorem bare_runLoop (c : Pipeline.Channel) (pc : Nat) :
    Pipeline.runLoop (bareChannel c) pc = (Pipeline.runLoop c pc).map bareChannel := by
  have loop : (bareChannel c).loop = c.loop := rfl
  have inside : (bareChannel c).inRun = c.inRun := rfl
  unfold Pipeline.runLoop
  rw [loop, inside]
  split <;> rfl

theorem bare_execute (c : Pipeline.Channel) (pc : Nat) (op : Op) (ok : Bool) :
    Pipeline.execute (bareChannel c) pc op ok =
      (Pipeline.execute c pc op ok).map fun ran => (bareChannel ran.1, ran.2) := by
  have same : Pipeline.control (bareChannel c) op ok = Pipeline.control c op ok := by cases op <;> rfl
  unfold Pipeline.execute
  rw [same, bare_effect, bare_runLoop]
  split
  · simp only [Option.map_map]
    rfl
  · split <;> rfl

theorem bare_processorStep (k : Kind) (c : Pipeline.Channel) (ok : Bool) :
    Pipeline.processorStep k (bareChannel c) ok =
      (Pipeline.processorStep k c ok).map fun ran => (bareChannel ran.1, ran.2) := by
  have now : (bareChannel c).processor = c.processor := rfl
  unfold Pipeline.processorStep
  rw [now]
  cases c.processor with
  | idle => rfl
  | ended ret => rfl
  | running pc =>
    dsimp only
    cases (entrypoint k)[pc]? with
    | none => rfl
    | some op => exact bare_execute c pc op ok

/-- The threads of a conference do not look at what its port searches wrote. -/
theorem bare_step (s : Pipeline.State) (act : Pipeline.Act) :
    Pipeline.step (bare s) act = (Pipeline.step s act).map bare := by
  have ended : (bare s).exited = s.exited := rfl
  have chan : ∀ k, (bare s).chan k = bareChannel (s.chan k) := fun _ => rfl
  unfold Pipeline.step
  rw [ended]
  split
  · rfl
  · cases act with
    | launch =>
      refine Eq.trans ?_ (Option.map_map ..).symm
      refine congrArg (Option.map · _) (funext fun (k, thread) => ?_)
      dsimp only [Function.comp_apply]
      rw [chan, bare_launch]
      exact (bare_put { s with launched := s.launched + 1 } k (Pipeline.launch (s.chan k) thread)).symm
    | callStop => rfl
    | stop i =>
      dsimp only
      rw [Option.map_bind]
      refine congrArg (Option.bind _) (funext fun made => ?_)
      refine Eq.trans ?_ (Option.map_map ..).symm
      refine congrArg (Option.map · _) (funext fun (k, call) => ?_)
      dsimp only [Function.comp_apply]
      rw [chan, bare_request]
      exact (bare_put { s with stops := s.stops.set i (made + 1) } k (Pipeline.request (s.chan k) call)).symm
    | processor k ok =>
      dsimp only
      rw [chan, bare_processorStep, Option.map_map, Option.map_map]
      refine congrArg (Option.map · _) (funext fun (c, exited) => ?_)
      exact (bare_put { s with exited } k c).symm
    | receiver k ret =>
      dsimp only
      rw [chan, show (bareChannel (s.chan k)).receiver = bareReceiver (s.chan k).receiver from rfl, bare_threadStep,
        Option.map_map, Option.map_map]
      refine congrArg (Option.map · _) (funext fun receiver => ?_)
      exact (bare_put s k { s.chan k with receiver }).symm
    | endOfStream k => exact congrArg some (bare_put s k (Pipeline.quit (s.chan k))).symm

theorem bare_tryInit (s : Pipeline.State) (self : ReceiverId) (k : Kind) (os : Os) (port : Nat) (answer : Attempt) :
    bare (s.put k { s.chan k with receiver := (UdpReceiver.tryInit self (s.chan k).receiver os port answer).2.1 }) =
      bare s := by
  have receiver : bareReceiver (UdpReceiver.tryInit self (s.chan k).receiver os port answer).2.1 =
      bareReceiver (s.chan k).receiver := by
    unfold UdpReceiver.tryInit
    cases answer.socket with
    | none => rfl
    | some wish => cases answer.bind <;> rfl
  have same : bareChannel { s.chan k with
      receiver := (UdpReceiver.tryInit self (s.chan k).receiver os port answer).2.1 } = (bare s).chan k :=
    congrArg (fun receiver => { s.chan k with receiver }) receiver
  rw [bare_put, same, Pipeline.State.put, Function.update_eq_self]

/-- What a step is to conference `a`. -/
def actOf (a : Addr) : Act → List Pipeline.Act
  | .tryInit _ _ _ => []
  | .conf b act => if b = a then [act] else []

theorem alone_answers (a : Addr) :
    Simulation.Answers step Pipeline.step (fun _ => actOf a) (fun g s => s = bare (g.conf a)) := by
  rintro g act h s rfl stepped
  cases step_acts stepped with
  | tryInit r port answer idle =>
    refine ⟨_, rfl, ?_⟩
    by_cases mine : a = r.task
    · subst mine
      exact (bare_tryInit _ r _ _ _ _).symm.trans (congrArg bare (put_same _ _ _).symm)
    · exact congrArg bare (put_elsewhere _ _ mine).symm
  | conf b act next taken =>
    by_cases mine : b = a
    · subst mine
      refine ⟨bare next, ?_, congrArg bare (put_same _ _ _).symm⟩
      simp [actOf, Run.run, bare_step, taken]
    · refine ⟨bare (g.conf a), ?_, congrArg bare (put_elsewhere _ _ (Ne.symm mine)).symm⟩
      simp [actOf, Run.run, mine]

/-- In every run of the gateway, each conference goes through a run of its own threads by themselves. -/
theorem conference_alone (memory : Addr → Kind → Int) (acts : List Act) (g : State)
    (ran : Run.run step (initial memory) acts = some g) (a : Addr) :
    Run.run Pipeline.step (Pipeline.initial (memory a)) (acts.flatMap (actOf a)) = some (bare (g.conf a)) := by
  obtain ⟨s, alone, rfl⟩ := Simulation.answers_run (alone_answers a) rfl ran
  rw [Simulation.images_const ran] at alone
  exact alone

/-- In the gateway, too, each conference's threads were created in order. -/
theorem launched_reached {memory : Addr → Kind → Int} {acts : List Act} {g : State}
    (reached : Run.run step (initial memory) acts = some g) (a : Addr) : Launched (g.conf a) := by
  have alone := conference_alone memory acts g reached a
  have launched : Launched (bare (g.conf a)) :=
    Run.run_invariant (fun _ _ _ launched taken => Pipeline.launched_step launched taken)
      (Pipeline.sound_initial (memory a)).launched alone
  intro k thread
  rw [← show (bare (g.conf a)).launched = (g.conf a).launched from rfl, ← launched k thread]
  cases thread <;> exact Iff.rfl

end GstGateway.Gateway
