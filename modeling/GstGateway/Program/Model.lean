import GstGateway.Gateway.Closing
import GstGateway.Registry.Order
import GstGateway.Rest.Capacity

/-! The whole program: any number of overlapping handlers, the conferences they create, start and stop, and the
threads of these conferences. A call of a handler that takes time is as many steps as it makes calls of its
own: the port searches of `init()` try one port after another, `start()` creates one thread after another, and
`stop()` sleeps twice. A run ends before the first step that C++ leaves undefined. Error replies are left out here;
`GstGateway.Rest` has them. -/

namespace GstGateway.Program

open Overlap (Handler)

/-- Where a handler is inside a call that takes several steps. -/
inductive Work where
  | free
  /-- The loop of `init()` is about to try this port. -/
  | search (kind : Kind) (port : Nat)
  /-- `start()` has returned. -/
  | reply (a : Addr)
  /-- In the task's `stop()`, which is the `call`-th of it. -/
  | stop (a : Addr) (call : Nat)
  deriving DecidableEq, Repr

structure State where
  registry : Overlap.State
  gateway : Gateway.State
  work : Nat → Work := fun _ => .free
  /-- The receivers whose search has found a port. -/
  found : List ReceiverId := []
  /-- The success replies, with the task each is about. -/
  granted : List (Addr × Answer) := []

def initial (memory : Addr → Kind → Int) (requests : Nat → Option Overlap.Request) : State where
  registry := Overlap.initial requests
  gateway := Gateway.initial memory

inductive Act where
  /-- The next step of a handler: what the system answers where that is an attempt to bind a port, and how much
  room a new buffer of the vector has where it is `addNewTask`. -/
  | handler (i : Nat) (answer : Attempt) (slack : Nat := 0)
  | thread (a : Addr) (act : Pipeline.Act)

/-- The steps of a conference that are not a handler's. -/
def ofThread : Pipeline.Act → Bool
  | .processor _ _ | .receiver _ _ | .endOfStream _ => true
  | .launch | .callStop | .stop _ => false

/-- What a handler's step is to the conferences and to the registry, and what it leaves behind. -/
structure Turn where
  call : Option Gateway.Act := none
  move : Option Bool := none
  work : Work := .free
  found : List ReceiverId := []
  granted : List (Addr × Answer) := []

/-- One attempt to bind; a port that an open socket of the program is bound to is refused. -/
def State.tried (s : State) (r : ReceiverId) (port : Nat) (answer : Attempt) : Int :=
  (UdpReceiver.tryInit r (s.gateway.receiver r) s.gateway.os port (s.gateway.os.permit (fun _ => answer) port)).1

/-- `for (int i = first; i < last; i++)`, the video range first. -/
def searchTurn (s : State) (a : Addr) (kind : Kind) (port : Nat) (answer : Attempt) : Turn :=
  if port < lastPort kind then
    let call := Gateway.Act.tryInit ⟨a, kind⟩ port (s.gateway.os.permit (fun _ => answer) port)
    if s.tried ⟨a, kind⟩ port answer = 0 then
      match kind with
      | .video => { call, work := .search .audio audioSrcPortRangeBegin, found := [⟨a, .video⟩] }
      | .audio => { call, move := true, found := [⟨a, .audio⟩] }
    else { call, work := .search kind (port + 1) }
  else { move := false }

def State.answer (s : State) (a : Addr) : Answer :=
  successAnswer (s.gateway.receiver ⟨a, .video⟩).srcPort (s.gateway.receiver ⟨a, .audio⟩).srcPort

/-- The next step of handler `i`. -/
def turn (s : State) (i : Nat) (answer : Attempt) : Option Turn :=
  match s.registry.handlers i, s.work i with
  | .searching _, .free => some { work := .search .video videoSrcPortRangeBegin }
  | .searching a, .search kind port => some (searchTurn s a kind port answer)
  | .starting a, .free =>
    some (if (s.gateway.conf a).launched + 1 < Pipeline.start.length then { call := some (.conf a .launch) }
      else { call := some (.conf a .launch), move := true, work := .reply a })
  | .done, .reply a => some { granted := [(a, s.answer a)] }
  | .stopping iter, .free =>
    (s.registry.tasks.deref iter).map fun a =>
      { call := some (.conf a .callStop), move := true, work := .stop a (s.gateway.conf a).stops.length }
  | .erasing _ _, .stop a call =>
    some (match Gateway.nextCall (s.gateway.conf a) call with
      | some _ => { call := some (.conf a (.stop call)), work := .stop a call }
      | none => { move := true })
  | _, .free => some { move := true }
  | _, _ => none

/-- What C++ leaves undefined, a use of an iterator that is past the end or was left behind by a reallocation
and a `stop()` through pointers that are not assigned, has no step. -/
def step (s : State) : Act → Option State
  | .thread a act =>
    if ofThread act then (Gateway.step s.gateway (.conf a act)).map fun gateway => { s with gateway } else none
  | .handler i answer slack =>
    if s.gateway.exited then none
    else
      (turn s i answer).bind fun t =>
        (Run.run Gateway.step s.gateway t.call.toList).bind fun gateway =>
          (Run.run Overlap.step s.registry (t.move.toList.map fun found => ⟨i, found, slack⟩)).bind fun registry =>
            if registry.undefined then none
            else
              some
                { registry, gateway
                  work := Function.update s.work i t.work
                  found := s.found ++ t.found
                  granted := s.granted ++ t.granted }

variable {s t : State} {i slack : Nat} {answer : Attempt}

/-! ### What a step can be -/

/-- The calls of a handler that are one step. -/
def Single : Handler → Prop
  | .searching _ | .starting _ | .stopping _ => False
  | _ => True

inductive Turns (s : State) (i : Nat) (answer : Attempt) : Turn → Prop where
  | enter (a : Addr) (now : s.registry.handlers i = .searching a) (free : s.work i = .free) :
      Turns s i answer { work := .search .video videoSrcPortRangeBegin }
  | refused (a : Addr) (kind : Kind) (port : Nat) (now : s.registry.handlers i = .searching a)
      (here : s.work i = .search kind port) (inside : port < lastPort kind)
      (failed : s.tried ⟨a, kind⟩ port answer ≠ 0) :
      Turns s i answer
        { call := some (.tryInit ⟨a, kind⟩ port (s.gateway.os.permit (fun _ => answer) port))
          work := .search kind (port + 1) }
  | video (a : Addr) (port : Nat) (now : s.registry.handlers i = .searching a)
      (here : s.work i = .search .video port) (inside : port < lastPort .video)
      (bound : s.tried ⟨a, .video⟩ port answer = 0) :
      Turns s i answer
        { call := some (.tryInit ⟨a, .video⟩ port (s.gateway.os.permit (fun _ => answer) port))
          work := .search .audio audioSrcPortRangeBegin
          found := [⟨a, .video⟩] }
  | audio (a : Addr) (port : Nat) (now : s.registry.handlers i = .searching a)
      (here : s.work i = .search .audio port) (inside : port < lastPort .audio)
      (bound : s.tried ⟨a, .audio⟩ port answer = 0) :
      Turns s i answer
        { call := some (.tryInit ⟨a, .audio⟩ port (s.gateway.os.permit (fun _ => answer) port))
          move := some true
          found := [⟨a, .audio⟩] }
  | exhausted (a : Addr) (kind : Kind) (port : Nat) (now : s.registry.handlers i = .searching a)
      (here : s.work i = .search kind port) : Turns s i answer { move := some false }
  | launch (a : Addr) (now : s.registry.handlers i = .starting a) (free : s.work i = .free)
      (more : (s.gateway.conf a).launched + 1 < Pipeline.start.length) :
      Turns s i answer { call := some (.conf a .launch) }
  | launchLast (a : Addr) (now : s.registry.handlers i = .starting a) (free : s.work i = .free)
      (last : Pipeline.start.length ≤ (s.gateway.conf a).launched + 1) :
      Turns s i answer { call := some (.conf a .launch), move := some true, work := .reply a }
  | reply (a : Addr) (now : s.registry.handlers i = .done) (here : s.work i = .reply a) :
      Turns s i answer { granted := [(a, s.answer a)] }
  | callStop (iter : Vec.Iterator) (a : Addr) (now : s.registry.handlers i = .stopping iter)
      (free : s.work i = .free) (there : s.registry.tasks.deref iter = some a) :
      Turns s i answer
        { call := some (.conf a .callStop), move := some true, work := .stop a (s.gateway.conf a).stops.length }
  | stop (iter : Vec.Iterator) (call : Nat) (stopped a : Addr) (now : s.registry.handlers i = .erasing iter stopped)
      (here : s.work i = .stop a call) :
      Turns s i answer { call := some (.conf a (.stop call)), work := .stop a call }
  | erase (iter : Vec.Iterator) (call : Nat) (stopped a : Addr) (now : s.registry.handlers i = .erasing iter stopped)
      (here : s.work i = .stop a call) : Turns s i answer { move := some true }
  | single (free : s.work i = .free) (one : Single (s.registry.handlers i)) : Turns s i answer { move := some true }

theorem search_turns {a : Addr} {kind : Kind} {port : Nat} (now : s.registry.handlers i = .searching a)
    (here : s.work i = .search kind port) : Turns s i answer (searchTurn s a kind port answer) := by
  unfold searchTurn
  split
  · rename_i inside
    dsimp only
    split
    · rename_i bound
      cases kind with
      | video => exact .video a port now here inside bound
      | audio => exact .audio a port now here inside bound
    · rename_i failed
      exact .refused a kind port now here inside failed
  · exact .exhausted a kind port now here

theorem turn_turns {next : Turn} (h : turn s i answer = some next) : Turns s i answer next := by
  unfold turn at h
  split at h
  · rename_i a now free
    cases h
    exact .enter a now free
  · rename_i a kind port now here
    cases h
    exact search_turns now here
  · rename_i a now free
    cases h
    split
    · rename_i more
      exact .launch a now free more
    · rename_i last
      exact .launchLast a now free (Nat.le_of_not_lt last)
  · rename_i a now here
    cases h
    exact .reply a now here
  · rename_i iter now free
    obtain ⟨a, there, rfl⟩ := Option.map_eq_some_iff.mp h
    exact .callStop iter a now free there
  · rename_i iter stopped a call now here
    cases h
    split
    · exact .stop iter call stopped a now here
    · exact .erase iter call stopped a now here
  · rename_i free searching starting stopping
    cases h
    refine .single free ?_
    cases now : s.registry.handlers i with
    | searching a => exact searching a now
    | starting a => exact starting a now
    | stopping iter => exact stopping iter now
    | _ => trivial
  · cases h

/-- The calls that a step makes into the conferences. -/
def State.calls (s : State) : Act → Option Gateway.Act
  | .thread a act => some (.conf a act)
  | .handler i answer _ => (turn s i answer).bind Turn.call

inductive Steps (s : State) : Act → State → Prop where
  | thread (a : Addr) (act : Pipeline.Act) (gateway : Gateway.State) (own : ofThread act = true)
      (taken : Gateway.step s.gateway (.conf a act) = some gateway) : Steps s (.thread a act) { s with gateway }
  | handler (i : Nat) (answer : Attempt) (slack : Nat) (next : Turn) (gateway : Gateway.State)
      (registry : Overlap.State) (turned : turn s i answer = some next)
      (called : Run.run Gateway.step s.gateway next.call.toList = some gateway)
      (moved : Run.run Overlap.step s.registry (next.move.toList.map fun found => ⟨i, found, slack⟩) = some registry)
      (defined : registry.undefined = false) :
      Steps s (.handler i answer slack)
        { registry, gateway
          work := Function.update s.work i next.work
          found := s.found ++ next.found
          granted := s.granted ++ next.granted }

theorem step_steps {act : Act} (h : step s act = some t) : Steps s act t := by
  cases act with
  | thread a act =>
    simp only [step] at h
    split at h
    · rename_i own
      obtain ⟨gateway, taken, rfl⟩ := Option.map_eq_some_iff.mp h
      exact .thread a act gateway own taken
    · cases h
  | handler i answer slack =>
    simp only [step] at h
    split at h
    · cases h
    · obtain ⟨next, turned, h⟩ := Option.bind_eq_some_iff.mp h
      obtain ⟨gateway, called, h⟩ := Option.bind_eq_some_iff.mp h
      obtain ⟨registry, moved, h⟩ := Option.bind_eq_some_iff.mp h
      split at h
      · cases h
      · rename_i defined
        cases h
        exact .handler i answer slack next gateway registry turned called moved (Bool.not_eq_true _ ▸ defined)

/-! ### Steps that are possible -/

theorem step_turned {next : Turn} {gateway : Gateway.State} {registry : Overlap.State}
    (alive : s.gateway.exited = false) (turned : turn s i answer = some next)
    (called : Run.run Gateway.step s.gateway next.call.toList = some gateway)
    (moved : Run.run Overlap.step s.registry (next.move.toList.map fun found => ⟨i, found, slack⟩) = some registry)
    (defined : registry.undefined = false) :
    step s (.handler i answer slack) = some
      { registry, gateway
        work := Function.update s.work i next.work
        found := s.found ++ next.found
        granted := s.granted ++ next.granted } := by
  simp only [step, alive, turned, called, moved, defined, Bool.false_eq_true, if_false, Option.bind_some]

theorem moved_by {registry : Overlap.State} {found : Bool}
    (stepped : Overlap.step s.registry ⟨i, found, slack⟩ = some registry) :
    Run.run Overlap.step s.registry ((some found).toList.map fun found => ⟨i, found, slack⟩) = some registry :=
  (congrArg (Option.bind · _) stepped).trans rfl

theorem called_by {gateway : Gateway.State} {call : Gateway.Act}
    (stepped : Gateway.step s.gateway call = some gateway) :
    Run.run Gateway.step s.gateway (some call).toList = some gateway :=
  (congrArg (Option.bind · _) stepped).trans rfl

theorem tryInit_possible {g : Gateway.State} {r : ReceiverId} (alive : g.exited = false)
    (idle : (g.receiver r).pc = .idle) (port : Nat) (answer : Attempt) :
    Gateway.step g (.tryInit r port answer) = some (Gateway.attempt g r port answer) := if_pos ⟨alive, idle⟩

end GstGateway.Program
