import Mathlib.Logic.Function.Basic
import GstGateway.Foundation.Run
import GstGateway.Pipeline.Entrypoint
import GstGateway.Receiver.Udp

/-! The threads of one conference: `start()` creates four of them, any number of `stop()` calls
may be under way, and every statement is one step. What a GStreamer call answers, what `recvfrom`
returns and when an end-of-stream message is handled is up to the run. Sockets are left out here;
`GstGateway.Receiver.Ownership` has them. -/

namespace GstGateway.Pipeline

/-- `gstreamer_receive_main_loop`, with the running flag of the loop it points to. -/
inductive MainLoop where
  | null
  | loop (running : Bool)
  | released
  deriving DecidableEq, Repr

/-- `g_main_loop_quit`. On a released loop the call is undefined; it has no effect here. -/
def MainLoop.quit : MainLoop → MainLoop
  | .loop _ => .loop false
  | other => other

inductive Processor where
  | idle
  | running (pc : Nat)
  | ended (ret : Int)
  deriving DecidableEq, Repr

/-- A receiver and the compositor it feeds. `played` is set once the pipeline was told to play,
`unrefs` counts `gst_object_unref(pipeline)`, `inRun` holds inside `g_main_loop_run`. -/
structure Channel where
  receiver : UdpReceiver := {}
  processor : Processor := .idle
  /-- Neither the class nor its constructor gives it a first value. -/
  appSrcCount : Int
  /-- The indices at which `createAppSrc` has stored a source. -/
  appSrcs : List Int := []
  played : Bool := false
  unrefs : Nat := 0
  loop : MainLoop := .null
  inRun : Bool := false
  deriving DecidableEq, Repr

inductive Control where
  | goOn
  | leaveHelper
  | giveUp
  | exitProcess
  deriving DecidableEq, Repr

def OnFailure.control : OnFailure → Control
  | .exitProcess => .exitProcess
  | .giveUp => .giveUp
  | .leaveHelper => .leaveHelper
  | .report => .goOn

/-- `sprintf_s(name, 10, "%s_%d", "src", n)` ends the process where the text does not fit. -/
def srcNameFits (n : Int) : Bool := -9999 ≤ n && n ≤ 99999

def control (c : Channel) (op : Op) (ok : Bool) : Control :=
  match op with
  | .createAppSrc check =>
    if srcNameFits c.appSrcCount then if ok then .goOn else check.elim .goOn OnFailure.control
    else .exitProcess
  | .addDecoder check | .link _ _ check => if ok then .goOn else OnFailure.control check
  | _ => .goOn

/-- A statement that can lead elsewhere than to the next one. -/
def checked : Op → Bool
  | .createAppSrc _ | .addDecoder _ | .link _ _ _ => true
  | _ => false

def effect (c : Channel) : Op → Channel
  | .createAppSrc _ =>
    { c with appSrcs := c.appSrcs ++ [c.appSrcCount], appSrcCount := c.appSrcCount + 1 }
  | .setPlaying => { c with played := true }
  | .storeFlag b => { c with receiver := { c.receiver with syncFlag := b } }
  | .loopNew => { c with loop := .loop false }
  | .loopUnref => { c with loop := .released }
  | .pipelineUnref => { c with unrefs := c.unrefs + 1 }
  | _ => c

/-- `g_main_loop_run` sets the running flag on entry and returns once it is clear. -/
def runLoop (c : Channel) (pc : Nat) : Option Channel :=
  match c.loop, c.inRun with
  | .loop _, false => some { c with inRun := true, loop := .loop true }
  | .loop true, true => none
  | _, _ => some { c with inRun := false, processor := .running (pc + 1) }

/-- Statement `op` of `entrypoint`; `none` where the thread is blocked in it. The process ends
where the second component is `true`. -/
def execute (c : Channel) (pc : Nat) (op : Op) (ok : Bool) : Option (Channel × Bool) :=
  if op = .loopRun then (runLoop c pc).map fun next => (next, false)
  else
    match control c op ok with
    | .goOn => some ({ effect c op with processor := .running (pc + 1) }, false)
    | .leaveHelper => some ({ c with unrefs := c.unrefs + 1, processor := .running (pc + 1) }, false)
    | .giveUp => some ({ c with unrefs := c.unrefs + 1, processor := .ended (-1) }, false)
    | .exitProcess => some (c, true)

def processorStep (k : Kind) (c : Channel) (ok : Bool) : Option (Channel × Bool) :=
  match c.processor with
  | .idle | .ended _ => none
  | .running pc =>
    match (entrypoint k)[pc]? with
    | some op => execute c pc op ok
    | none => some ({ c with processor := .ended 0 }, false)

def nextOp (k : Kind) (c : Channel) : Option Op :=
  match c.processor with
  | .running pc => (entrypoint k)[pc]?
  | .idle | .ended _ => none

structure State where
  chan : Kind → Channel
  launched : Nat := 0
  /-- For each `stop()` that was called, how many of its calls it has made. -/
  stops : List Nat := []
  exited : Bool := false

/-- `appSrcCount` starts with whatever is in memory. -/
def initial (memory : Kind → Int) : State := { chan := fun k => { appSrcCount := memory k } }

def State.put (s : State) (k : Kind) (c : Channel) : State := { s with chan := Function.update s.chan k c }

inductive Thread where
  | receiver
  | processor
  deriving DecidableEq, Repr

def start : List (Kind × Thread) :=
  [(.audio, .receiver), (.video, .receiver), (.video, .processor), (.audio, .processor)]

def launch (c : Channel) : Thread → Channel
  | .receiver => { c with receiver := { c.receiver with pc := .waiting } }
  | .processor => { c with processor := .running 0 }

/-- `stop()`: the receiver's `quit()` is two steps, with a sleep in between. -/
inductive StopCall where
  | quit
  | deactivate
  | closeSocket
  deriving DecidableEq, Repr

def stop : List (Kind × StopCall) :=
  [(.video, .quit), (.video, .deactivate), (.video, .closeSocket),
   (.audio, .quit), (.audio, .deactivate), (.audio, .closeSocket)]

def quit (c : Channel) : Channel := { c with loop := c.loop.quit }

def request (c : Channel) : StopCall → Channel
  | .quit => quit c
  | .deactivate => { c with receiver := { c.receiver with active := false } }
  | .closeSocket => c

inductive Act where
  | launch
  | callStop
  | stop (i : Nat)
  | processor (k : Kind) (ok : Bool)
  | receiver (k : Kind) (ret : Int)
  | endOfStream (k : Kind)
  deriving DecidableEq, Repr

def step (s : State) (act : Act) : Option State :=
  if s.exited then none
  else
    match act with
    | .launch =>
      start[s.launched]?.map fun (k, thread) =>
        { s with launched := s.launched + 1 }.put k (launch (s.chan k) thread)
    | .callStop => some { s with stops := s.stops ++ [0] }
    | .stop i =>
      s.stops[i]?.bind fun made =>
        stop[made]?.map fun (k, call) =>
          { s with stops := s.stops.set i (made + 1) }.put k (request (s.chan k) call)
    | .processor k ok =>
      (processorStep k (s.chan k) ok).map fun (c, exited) => { s with exited }.put k c
    | .receiver k ret =>
      ((s.chan k).receiver.threadStep ret).map fun receiver => s.put k { s.chan k with receiver }
    | .endOfStream k => some (s.put k (quit (s.chan k)))

@[simp] theorem put_self (s : State) (k : Kind) (c : Channel) : (s.put k c).chan k = c := by
  simp [State.put]

theorem put_other (s : State) {j k : Kind} (c : Channel) (other : j ≠ k) : (s.put k c).chan j = s.chan j := by
  simp [State.put, other]

@[simp] theorem put_launched (s : State) (k : Kind) (c : Channel) : (s.put k c).launched = s.launched := rfl
@[simp] theorem put_stops (s : State) (k : Kind) (c : Channel) : (s.put k c).stops = s.stops := rfl

theorem forall_put {P : Kind → Channel → Prop} {s u : State} {k : Kind} {c : Channel}
    (holds : ∀ j, P j (s.chan j)) (same : u.chan = s.chan) : (∀ j, P j ((u.put k c).chan j)) ↔ P k c := by
  constructor
  · intro after
    simpa using after k
  · intro mine j
    by_cases this : j = k
    · subst this
      rw [put_self]
      exact mine
    · rw [put_other u c this, same]
      exact holds j

inductive Ran (k : Kind) (c : Channel) : Channel → Bool → Prop where
  | goOn (pc : Nat) (op : Op) (now : c.processor = .running pc) (there : (entrypoint k)[pc]? = some op)
      (other : op ≠ .loopRun) : Ran k c { effect c op with processor := .running (pc + 1) } false
  | enter (pc : Nat) (running : Bool) (now : c.processor = .running pc)
      (there : (entrypoint k)[pc]? = some .loopRun) (made : c.loop = .loop running)
      (outside : c.inRun = false) : Ran k c { c with inRun := true, loop := .loop true } false
  | leave (pc : Nat) (now : c.processor = .running pc) (there : (entrypoint k)[pc]? = some .loopRun)
      (inside : ∀ running, c.loop = .loop running → c.inRun = true) :
      Ran k c { c with inRun := false, processor := .running (pc + 1) } false
  | leaveHelper (pc : Nat) (op : Op) (now : c.processor = .running pc)
      (there : (entrypoint k)[pc]? = some op) (check : checked op = true) :
      Ran k c { c with unrefs := c.unrefs + 1, processor := .running (pc + 1) } false
  | giveUp (pc : Nat) (op : Op) (now : c.processor = .running pc)
      (there : (entrypoint k)[pc]? = some op) (check : checked op = true) :
      Ran k c { c with unrefs := c.unrefs + 1, processor := .ended (-1) } false
  | exitProcess (pc : Nat) (op : Op) (now : c.processor = .running pc)
      (there : (entrypoint k)[pc]? = some op) (check : checked op = true) : Ran k c c true
  | finish (pc : Nat) (now : c.processor = .running pc) (past : (entrypoint k)[pc]? = none) :
      Ran k c { c with processor := .ended 0 } false

theorem nextOp_running {k : Kind} {c : Channel} {pc : Nat} (now : c.processor = .running pc) :
    nextOp k c = (entrypoint k)[pc]? := by
  simp [nextOp, now]

theorem ran_running {k : Kind} {c next : Channel} {exited : Bool} (moved : Ran k c next exited) :
    ∃ pc, c.processor = .running pc := by
  cases moved <;> exact ⟨_, by assumption⟩

theorem control_checked {c : Channel} {op : Op} {ok : Bool} (stops : control c op ok ≠ .goOn) :
    checked op = true := by
  cases op <;> first | rfl | exact absurd rfl stops

theorem processorStep_ran {k : Kind} {c next : Channel} {ok exited : Bool}
    (h : processorStep k c ok = some (next, exited)) : Ran k c next exited := by
  unfold processorStep at h
  cases now : c.processor with
  | idle | ended ret => simp only [now] at h; cases h
  | running pc =>
    simp only [now] at h
    cases there : (entrypoint k)[pc]? with
    | none =>
      simp only [there] at h
      cases h
      exact .finish pc now there
    | some op =>
      simp only [there, execute] at h
      split at h
      · rename_i loopRun
        subst op
        obtain ⟨_, moved, same⟩ := Option.map_eq_some_iff.mp h
        cases same
        unfold runLoop at moved
        split at moved
        · rename_i running made outside
          cases moved
          exact .enter pc running now there made outside
        · cases moved
        · rename_i refused _
          cases moved
          refine .leave pc now there fun running made => ?_
          by_contra outside
          exact refused running made (Bool.eq_false_iff.mpr outside)
      · rename_i other
        split at h
        · cases h
          exact .goOn pc op now there other
        · rename_i leads
          cases h
          exact .leaveHelper pc op now there (control_checked (by rw [leads]; nofun))
        · rename_i leads
          cases h
          exact .giveUp pc op now there (control_checked (by rw [leads]; nofun))
        · rename_i leads
          cases h
          exact .exitProcess pc op now there (control_checked (by rw [leads]; nofun))

inductive Moves (s : State) : Act → State → Prop where
  | launch (k : Kind) (thread : Thread) (next : start[s.launched]? = some (k, thread)) :
      Moves s .launch ({ s with launched := s.launched + 1 }.put k (launch (s.chan k) thread))
  | callStop : Moves s .callStop { s with stops := s.stops ++ [0] }
  | stop (i made : Nat) (k : Kind) (call : StopCall) (now : s.stops[i]? = some made)
      (next : stop[made]? = some (k, call)) :
      Moves s (.stop i) ({ s with stops := s.stops.set i (made + 1) }.put k (request (s.chan k) call))
  | processor (k : Kind) (ok : Bool) (c : Channel) (exited : Bool)
      (moved : processorStep k (s.chan k) ok = some (c, exited)) :
      Moves s (.processor k ok) ({ s with exited }.put k c)
  | receiver (k : Kind) (ret : Int) (receiver : UdpReceiver)
      (moved : (s.chan k).receiver.threadStep ret = some receiver) :
      Moves s (.receiver k ret) (s.put k { s.chan k with receiver })
  | endOfStream (k : Kind) : Moves s (.endOfStream k) (s.put k (quit (s.chan k)))

theorem step_moves {s t : State} {act : Act} (h : step s act = some t) : Moves s act t := by
  unfold step at h
  split at h
  · cases h
  · cases act with
    | launch =>
      obtain ⟨⟨k, thread⟩, next, rfl⟩ := Option.map_eq_some_iff.mp h
      exact .launch k thread next
    | callStop => cases h; exact .callStop
    | stop i =>
      obtain ⟨made, now, rest⟩ := Option.bind_eq_some_iff.mp h
      obtain ⟨⟨k, call⟩, next, rfl⟩ := Option.map_eq_some_iff.mp rest
      exact .stop i made k call now next
    | processor k ok =>
      obtain ⟨⟨c, exited⟩, moved, rfl⟩ := Option.map_eq_some_iff.mp h
      exact .processor k ok c exited moved
    | receiver k ret =>
      obtain ⟨receiver, moved, rfl⟩ := Option.map_eq_some_iff.mp h
      exact .receiver k ret receiver moved
    | endOfStream k => cases h; exact .endOfStream k

def launchAt : Kind → Thread → Nat
  | .audio, .receiver => 0
  | .video, .receiver => 1
  | .video, .processor => 2
  | .audio, .processor => 3

theorem start_at {n : Nat} {k : Kind} {thread : Thread} :
    start[n]? = some (k, thread) ↔ n = launchAt k thread := by
  rcases n with _ | _ | _ | _ | n <;> cases k <;> cases thread <;> simp [start, launchAt]

def Absent (c : Channel) : Thread → Prop
  | .receiver => c.receiver.pc = .idle
  | .processor => c.processor = .idle

theorem absent_launch (c : Channel) (created thread : Thread) :
    Absent (launch c created) thread ↔ Absent c thread ∧ thread ≠ created := by
  cases created <;> cases thread <;> simp [Absent, launch]

/-- `start()` has created the threads up to its position and no other. -/
def Launched (s : State) : Prop := ∀ k thread, Absent (s.chan k) thread ↔ s.launched ≤ launchAt k thread

/-- What one step can do to a channel. A receiver is created before its processor. -/
inductive Evolves (k : Kind) (c : Channel) : Channel → Prop where
  | receiverStarts (idle : c.receiver.pc = .idle) (early : c.processor = .idle) :
      Evolves k c (launch c .receiver)
  | processorStarts (idle : c.processor = .idle) (late : c.receiver.pc ≠ .idle) :
      Evolves k c (launch c .processor)
  | quits : Evolves k c (quit c)
  | deactivated : Evolves k c (request c .deactivate)
  | ran (next : Channel) (exited : Bool) (moved : Ran k c next exited) : Evolves k c next
  | received (ret : Int) (receiver : UdpReceiver) (moved : c.receiver.threadStep ret = some receiver) :
      Evolves k c { c with receiver }

theorem effect_receiver (c : Channel) (op : Op) : (effect c op).receiver.pc = c.receiver.pc := by
  cases op <;> rfl

theorem ran_threads {k : Kind} {c next : Channel} {exited : Bool} (moved : Ran k c next exited) :
    (next.processor = .idle ↔ c.processor = .idle) ∧ next.receiver.pc = c.receiver.pc := by
  cases moved with
  | goOn pc op now there other => exact ⟨by simp [now], effect_receiver c op⟩
  | enter pc running now there made outside => exact ⟨Iff.rfl, rfl⟩
  | leave pc now there inside | finish pc now past => exact ⟨by simp [now], rfl⟩
  | leaveHelper pc op now there check | giveUp pc op now there check => exact ⟨by simp [now], rfl⟩
  | exitProcess pc op now there check => exact ⟨Iff.rfl, rfl⟩

theorem chan_evolves {s t : State} {act : Act} (launched : Launched s) (h : step s act = some t) (k : Kind) :
    t.chan k = s.chan k ∨ Evolves k (s.chan k) (t.chan k) := by
  have here : ∀ (u : State) (j : Kind) (c : Channel), u.chan = s.chan →
      (j = k → c = s.chan k ∨ Evolves k (s.chan k) c) →
      (u.put j c).chan k = s.chan k ∨ Evolves k (s.chan k) ((u.put j c).chan k) := by
    intro u j c same evolves
    by_cases mine : j = k
    · subst mine
      rw [put_self]
      exact evolves rfl
    · rw [put_other u c (Ne.symm mine), same]
      exact Or.inl rfl
  cases step_moves h with
  | launch j thread next =>
    refine here _ j _ rfl fun mine => Or.inr ?_
    subst mine
    have position := start_at.mp next
    cases thread with
    | receiver =>
      refine .receiverStarts ((launched j .receiver).mpr (Nat.le_of_eq position))
        ((launched j .processor).mpr ?_)
      rw [position]
      cases j <;> decide
    | processor =>
      refine .processorStarts ((launched j .processor).mpr (Nat.le_of_eq position)) fun idle => ?_
      have early := (launched j .receiver).mp idle
      rw [position] at early
      revert early
      cases j <;> decide
  | callStop => exact Or.inl rfl
  | stop i made j call now next =>
    refine here _ j _ rfl fun mine => ?_
    subst mine
    cases call with
    | quit => exact Or.inr .quits
    | deactivate => exact Or.inr .deactivated
    | closeSocket => exact Or.inl rfl
  | processor j ok c exited moved =>
    refine here _ j _ rfl fun mine => Or.inr ?_
    subst mine
    exact .ran c exited (processorStep_ran moved)
  | receiver j ret receiver moved =>
    refine here _ j _ rfl fun mine => Or.inr ?_
    subst mine
    exact .received ret receiver moved
  | endOfStream j =>
    refine here _ j _ rfl fun mine => Or.inr ?_
    subst mine
    exact .quits

theorem launchAt_other {j k : Kind} {thread created : Thread} (other : ¬ (j = k ∧ thread = created)) :
    launchAt k created + 1 ≤ launchAt j thread ↔ launchAt k created ≤ launchAt j thread := by
  revert other
  cases j <;> cases k <;> cases thread <;> cases created <;> decide

theorem launched_put {s u : State} {k : Kind} {c : Channel} (launched : Launched s) (same : u.chan = s.chan)
    (count : u.launched = s.launched) (absent : ∀ thread, Absent c thread ↔ Absent (s.chan k) thread) :
    Launched (u.put k c) := by
  have mine : ∀ thread, Absent c thread ↔ s.launched ≤ launchAt k thread :=
    fun thread => (absent thread).trans (launched k thread)
  rw [← count] at mine
  refine (forall_put (P := fun j c => ∀ thread, Absent c thread ↔ u.launched ≤ launchAt j thread) ?_ same).mpr mine
  rw [count]
  exact launched

theorem launched_launch {s : State} {k : Kind} {created : Thread} (launched : Launched s)
    (next : start[s.launched]? = some (k, created)) :
    Launched ({ s with launched := s.launched + 1 }.put k (launch (s.chan k) created)) := by
  have position := start_at.mp next
  intro j thread
  rw [put_launched, position]
  by_cases mine : j = k ∧ thread = created
  · obtain ⟨rfl, rfl⟩ := mine
    rw [put_self, absent_launch]
    exact iff_of_false (fun created => created.2 rfl) (Nat.not_succ_le_self _)
  · rw [launchAt_other mine, ← position, ← launched j thread]
    by_cases same : j = k
    · subst same
      rw [put_self, absent_launch]
      exact and_iff_left fun created => mine ⟨rfl, created⟩
    · rw [put_other _ _ same]

theorem launched_step {s t : State} {act : Act} (launched : Launched s) (h : step s act = some t) :
    Launched t := by
  cases step_moves h with
  | launch k thread next => exact launched_launch launched next
  | callStop => exact launched
  | stop i made k call now next =>
    refine launched_put launched rfl rfl fun thread => ?_
    cases call <;> cases thread <;> exact Iff.rfl
  | processor k ok c exited moved =>
    obtain ⟨processor, receiver⟩ := ran_threads (processorStep_ran moved)
    refine launched_put launched rfl rfl fun thread => ?_
    cases thread with
    | receiver => simp only [Absent, receiver]
    | processor => exact processor
  | receiver k ret receiver moved =>
    obtain ⟨pc, leads, rfl⟩ := UdpReceiver.threadStep_cases moved
    have created := UdpReceiver.nextPc_created leads
    refine launched_put launched rfl rfl fun thread => ?_
    cases thread with
    | receiver => exact iff_of_false created.2 created.1
    | processor => exact Iff.rfl
  | endOfStream k => exact launched_put launched rfl rfl fun thread => by cases thread <;> exact Iff.rfl

theorem chan_invariant {I : Kind → Channel → Prop} {s t : State} {act : Act} (launched : Launched s)
    (preserve : ∀ k c next, I k c → Evolves k c next → I k next) (holds : ∀ k, I k (s.chan k))
    (h : step s act = some t) (k : Kind) : I k (t.chan k) := by
  rcases chan_evolves launched h k with same | evolves
  · exact same ▸ holds k
  · exact preserve k _ _ (holds k) evolves

end GstGateway.Pipeline
