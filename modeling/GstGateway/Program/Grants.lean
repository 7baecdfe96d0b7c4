import GstGateway.Program.Consistency

/-! The ports of the replies in the whole program. Of a socket that is closed twice the handle may by the second
close be another receiver's. As long as nothing undefined happens, no conference loses a port of its reply in
another way. -/

namespace GstGateway.Program

open Gateway (HoldsPort Over Respects attempt attempt_mine attempt_other)

variable {s t : State} {act : Act} {call : Option Gateway.Act}

/-! ### The ports found, and the closes that lose them -/

def PortsHeld (s : State) : Prop := ∀ r ∈ s.found, HoldsPort s.gateway r

/-- No close of the step is of a socket that another receiver has found a port with and is not done with. -/
def Spares (s : State) (call : Gateway.Act) : Prop := ∀ r ∈ s.found, Over s.gateway r ∨ Respects r s.gateway call

def Harmless (s : State) (act : Act) : Prop := ∀ call ∈ s.calls act, Spares s call

instance (g : Gateway.State) (r : ReceiverId) : Decidable (Over g r) :=
  inferInstanceAs (Decidable ((g.receiver r).pc = .finished ∨
    ∃ made ∈ (g.conf r.task).stops, Pipeline.closeAt r.kind < made))

instance (s : State) (act : Act) : Decidable (Harmless s act) :=
  inferInstanceAs (Decidable (∀ call ∈ s.calls act, ∀ r ∈ s.found, Over s.gateway r ∨ Respects r s.gateway call))

theorem held_effect (sound : Sound s.gateway s.found) (held : PortsHeld s) (effect : Effect s t call) :
    PortsHeld t ↔ ∀ c ∈ call, Spares s c := by
  cases effect with
  | none gateway found =>
    refine iff_of_true ?_ nofun
    unfold PortsHeld
    rw [gateway, found]
    exact held
  | tryInit r port answer missing low high gateway found =>
    refine iff_of_true ?_ fun c called q _ => Or.inr ?_
    · have old : ∀ q ∈ s.found, HoldsPort t.gateway q := by
        intro q member
        have other : q ≠ r := fun same => missing (same ▸ member)
        rw [gateway]
        exact (held q member).imp (Gateway.over_attempt other) (Gateway.bound_attempt other)
      unfold PortsHeld
      rcases found with ⟨same, _⟩ | ⟨more, bound⟩
      · rw [same]
        exact old
      · rw [more]
        refine List.forall_mem_append.mpr ⟨old, List.forall_mem_singleton.mpr (Or.inr ?_)⟩
        rw [gateway]
        exact Gateway.bound_tried bound
    · cases Option.some.inj called
      exact nofun
  | conf a act next taken gateway found =>
    have each : PortsHeld t ↔ Spares s (.conf a act) := by
      unfold PortsHeld
      rw [gateway, found]
      exact forall₂_congr fun r member => Gateway.holdsPort_conf (sound.launched a) taken (held r member)
    rw [each]
    exact ⟨fun spares c called => Option.some.inj called ▸ spares, fun all => all _ rfl⟩

/-- In every interleaving of the handlers, the conferences' threads and the `stop()` calls, each port that a search
found stays bound to its receiver's own open socket until that receiver is over, exactly if no close on the way
is of a handle that another receiver, which has found a port and is not over, stores too. -/
theorem ports_held_iff (memory : Addr → Kind → Int) (requests : Nat → Option Overlap.Request) (acts : List Act) :
    Run.Always step PortsHeld (initial memory requests) acts ↔
      Run.Meets step Harmless (initial memory requests) acts :=
  Run.always_iff_meets (I := Consistent) (fun _ _ _ consistent h => consistent_step consistent h)
    (fun _ _ _ consistent held h => held_effect consistent.sound held (step_effect consistent.agrees h))
    (consistent_initial memory requests) (List.forall_mem_nil _)

/-! ### The conferences of the success replies -/

/-- What a success reply promises of receiver `r` while it is not over: its own open socket on `port`. -/
structure Serves (g : Gateway.State) (r : ReceiverId) (port : Nat) : Prop where
  low : firstPort r.kind ≤ port
  high : port < lastPort r.kind
  stored : (g.receiver r).srcPort = port
  bound : ¬ Over g r → Bound g.os r (g.receiver r)

structure GrantsKept (s : State) : Prop where
  created : ∀ a answer, (a, answer) ∈ s.granted → (s.gateway.conf a).launched = Pipeline.start.length
  serves : ∀ a answer, (a, answer) ∈ s.granted → ∃ video audio, answer = successAnswer video audio ∧
    Serves s.gateway ⟨a, .video⟩ video ∧ Serves s.gateway ⟨a, .audio⟩ audio
  distinct : ∀ r q, r ∈ s.found → q ∈ s.found → ¬ Over s.gateway r → ¬ Over s.gateway q →
    (s.gateway.receiver r).srcPort = (s.gateway.receiver q).srcPort → r = q

theorem serves_found (sound : Sound s.gateway s.found) (held : PortsHeld s) {r : ReceiverId} (member : r ∈ s.found) :
    Serves s.gateway r (s.gateway.receiver r).srcPort where
  low := (sound.ranges r member).1
  high := (sound.ranges r member).2
  stored := rfl
  bound := (held r member).resolve_left

theorem grants_kept (consistent : Consistent s) (held : PortsHeld s) : GrantsKept s where
  created a answer member := (consistent.granted a answer member).1.2
  serves a answer member := by
    obtain ⟨⟨both, _⟩, same⟩ := consistent.granted a answer member
    have serves : ∀ k, Serves s.gateway ⟨a, k⟩ (s.gateway.receiver ⟨a, k⟩).srcPort :=
      fun k => serves_found consistent.sound held (both k)
    exact ⟨_, _, same, serves .video, serves .audio⟩
  distinct r q member member' alive alive' same :=
    bound_same consistent.sound.onePer ((held r member).resolve_left alive)
      ((held q member').resolve_left alive') same

/-- Where no step closes a handle that another receiver relies on, every success reply is true for as long as its
conference lasts: its four threads exist, and until they are over its receivers have their own sockets bound to
the two ports of the reply, each in its range and no two of any receivers the same. -/
theorem grants_hold (memory : Addr → Kind → Int) (requests : Nat → Option Overlap.Request) (acts : List Act)
    (harmless : Run.Meets step Harmless (initial memory requests) acts) :
    Run.Always step GrantsKept (initial memory requests) acts :=
  Run.always_imp (fun _ both => grants_kept both.1 both.2)
    (Run.always_of_meets (I := fun s => Consistent s ∧ PortsHeld s)
      (fun _ _ _ both met h => ⟨consistent_step both.1 h,
        (held_effect both.1.sound both.2 (step_effect both.1.agrees h)).mpr met⟩)
      ⟨consistent_initial memory requests, List.forall_mem_nil _⟩ harmless)

/-- Two conferences are created by overlapping GETs. -/
def twoGets : List Act :=
  (List.range 26).map (fun n => .handler (n % 2) ⟨some n, .bound⟩) ++ List.replicate 2 (.handler 1 ⟨none, .bound⟩)

/-- The first of them is told to stop. -/
def twoAndStop : List Act := twoGets ++ List.replicate 7 (.handler 2 ⟨none, .bound⟩)

def getGetDel (i : Nat) : Option Overlap.Request := if i = 2 then some (.del "a") else some (.get "a")

theorem two_granted : ∃ s, Run.run step (initial (fun _ _ => 0) getGetDel) twoAndStop = some s ∧
    s.granted = [(0, successAnswer 50001 50501), (1, successAnswer 50002 50502)] ∧ GrantsKept s := by
  have harmless : Run.Meets step Harmless (initial (fun _ _ => 0) getGetDel) twoAndStop :=
    Run.meets_of_check (by rfl)
  obtain ⟨s, ran, granted⟩ : ∃ s, Run.run step (initial (fun _ _ => 0) getGetDel) twoAndStop = some s ∧
      s.granted = [(0, successAnswer 50001 50501), (1, successAnswer 50002 50502)] := ⟨_, rfl, rfl⟩
  exact ⟨s, ran, granted, Run.always_last (grants_hold _ getGetDel twoAndStop harmless) ran⟩

/-! ### Handles that are new -/

/-- The number of a new socket is one that no other receiver stores. -/
def NewHandle (s : State) (act : Act) : Prop :=
  ∀ r port answer, s.calls act = some (.tryInit r port answer) → ∀ wish, answer.socket = some wish →
    ∀ q, q ≠ r → (s.gateway.receiver q).recvSocket ≠ .number (s.gateway.os.fresh wish)

/-- No two receivers store the number of one socket. -/
def Apart (g : Gateway.State) : Prop :=
  ∀ r q n, (g.receiver r).recvSocket = .number n → (g.receiver q).recvSocket = .number n → r = q

theorem tryInit_given (r : ReceiverId) (receiver : UdpReceiver) (os : Os) (port : Nat) (answer : Attempt) {n : Nat}
    (stored : (UdpReceiver.tryInit r receiver os port answer).2.1.recvSocket = .number n) :
    ∃ wish, answer.socket = some wish ∧ os.fresh wish = n := by
  obtain ⟨socket, bind⟩ := answer
  unfold UdpReceiver.tryInit at stored
  cases socket with
  | none => cases stored
  | some wish => cases bind <;> exact ⟨wish, rfl, Handle.number.inj stored⟩

theorem apart_effect (apart : Apart s.gateway) (new : NewHandle s act) (effect : Effect s t (s.calls act)) :
    Apart t.gateway := by
  cases effect' : s.calls act with
  | none =>
    rw [effect'] at effect
    cases effect with
    | none gateway found =>
      rw [gateway]
      exact apart
  | some call =>
    rw [effect'] at effect
    cases effect with
    | tryInit r port answer missing low high gateway found =>
      rw [gateway]
      -- The new number is of no other receiver.
      have mine : ∀ q n,
          ((attempt s.gateway r port (s.gateway.os.permit (fun _ => answer) port)).receiver r).recvSocket = .number n →
          (s.gateway.receiver q).recvSocket = .number n → q = r := by
        intro q n stored old
        rw [attempt_mine] at stored
        obtain ⟨wish, given, rfl⟩ := tryInit_given _ _ _ _ _ stored
        by_contra other
        exact new r port _ effect' wish given q other old
      intro q q' n stored stored'
      by_cases here : q = r <;> by_cases here' : q' = r
      · exact here.trans here'.symm
      · subst here
        rw [attempt_other _ here'] at stored'
        exact (mine q' n stored stored').symm
      · subst here'
        rw [attempt_other _ here] at stored
        exact mine q n stored' stored
      · rw [attempt_other _ here] at stored
        rw [attempt_other _ here'] at stored'
        exact apart q q' n stored stored'
    | conf a act next taken gateway found =>
      rw [gateway]
      intro r q n stored stored'
      rw [Gateway.socket_after taken] at stored stored'
      exact apart r q n stored stored'

theorem apart_spares (apart : Apart s.gateway) (held : PortsHeld s) (call : Gateway.Act) : Spares s call := by
  intro r member
  refine (held r member).imp_right fun ⟨n, stored, _⟩ q _ other same => other ?_
  exact apart q r n (same.trans stored) stored

/-- Where the system gives no socket a number that another receiver still stores, no step of any interleaving
closes a socket that another receiver relies on. -/
theorem new_handles_harmless (memory : Addr → Kind → Int) (requests : Nat → Option Overlap.Request) (acts : List Act)
    (new : Run.Meets step NewHandle (initial memory requests) acts) :
    Run.Meets step Harmless (initial memory requests) acts := by
  refine Run.meets_imp (I := fun s => Consistent s ∧ PortsHeld s ∧ Apart s.gateway) ?_ ?_
    ⟨consistent_initial memory requests, List.forall_mem_nil _, fun _ _ _ stored => by cases stored⟩ new
  · rintro s act t ⟨consistent, held, apart⟩ fresh h
    have effect := step_effect consistent.agrees h
    exact ⟨consistent_step consistent h,
      (held_effect consistent.sound held effect).mpr fun call _ => apart_spares apart held call,
      apart_effect apart fresh effect⟩
  · rintro s act t ⟨_, held, apart⟩ _ _ call _
    exact apart_spares apart held call

/-! ### Handles of tasks that exist -/

/-- Only receivers of tasks that have been created store a handle. -/
def Created (s : State) : Prop := ∀ r n, (s.gateway.receiver r).recvSocket = .number n → r.task < s.registry.next

theorem tryInit_searching {r : ReceiverId} {port : Nat} {answer : Attempt}
    (called : s.calls act = some (.tryInit r port answer)) : ∃ i, s.registry.handlers i = .searching r.task := by
  cases act with
  | thread a act => cases called
  | handler i system slack =>
    obtain ⟨next, turned, calls⟩ := Option.bind_eq_some_iff.mp called
    refine ⟨i, ?_⟩
    cases turn_turns turned with
    | refused a kind port now here inside failed | video a port now here inside bound
    | audio a port now here inside bound =>
      cases Option.some.inj calls
      exact now
    | _ => cases calls

theorem created_step (consistent : Consistent s) (created : Created s) (h : step s act = some t) : Created t := by
  have later := next_mono consistent h
  have effect := step_effect consistent.agrees h
  cases effect' : s.calls act with
  | none =>
    rw [effect'] at effect
    cases effect with
    | none gateway found =>
      intro r n stored
      rw [gateway] at stored
      exact Nat.lt_of_lt_of_le (created r n stored) later
  | some call =>
    rw [effect'] at effect
    cases effect with
    | tryInit r port answer missing low high gateway found =>
      intro q n stored
      refine Nat.lt_of_lt_of_le ?_ later
      by_cases mine : q = r
      · obtain ⟨i, now⟩ := tryInit_searching effect'
        exact mine ▸ consistent.unshared.allocated i r.task (by rw [now]; exact rfl)
      · rw [gateway, attempt_other _ mine] at stored
        exact created q n stored
    | conf a act next taken gateway found =>
      intro r n stored
      rw [gateway, Gateway.socket_after taken] at stored
      exact Nat.lt_of_lt_of_le (created r n stored) later

/-- The number of a new socket is one that no other receiver of a created task stores. -/
def NewAmong (s : State) : Gateway.Act → Prop
  | .tryInit r _ answer => ∀ wish ∈ answer.socket, ∀ a < s.registry.next, ∀ k ∈ [Kind.video, Kind.audio],
    (⟨a, k⟩ : ReceiverId) ≠ r → (s.gateway.receiver ⟨a, k⟩).recvSocket ≠ .number (s.gateway.os.fresh wish)
  | .conf _ _ => True

instance (s : State) (call : Gateway.Act) : Decidable (NewAmong s call) := by
  unfold NewAmong
  split <;> infer_instance

theorem newHandle_created (created : Created s) (new : ∀ call ∈ s.calls act, NewAmong s call) : NewHandle s act := by
  intro r port answer called wish given q other stored
  have listed : q.kind ∈ [Kind.video, Kind.audio] := by cases q.kind <;> simp
  exact new _ called wish given q.task (created q _ stored) q.kind listed other stored

/-- The video receiver of the first conference ends and closes its socket, a third GET takes the port, and the
`stop()` that is under way closes the receiver's handle again. -/
def closedAgain : List Act :=
  twoGets ++ List.replicate 6 (.handler 3 ⟨none, .bound⟩) ++ List.replicate 49 (.thread 0 (.processor .video true)) ++
    List.replicate 2 (.thread 0 (.receiver .video 0)) ++ List.replicate 4 (.handler 2 ⟨none, .bound⟩) ++
    .thread 0 (.receiver .video 100) :: List.replicate 3 (.thread 0 (.receiver .video 0)) ++
    [.handler 3 ⟨some 30, .bound⟩, .handler 2 ⟨none, .bound⟩]

set_option maxRecDepth 4000 in
theorem third_keeps_port : ∃ s, Run.run step (initial (fun _ _ => 0) getGetDel) closedAgain = some s ∧
    Over s.gateway ⟨0, .video⟩ ∧ (s.gateway.conf 0).stops = [3] ∧
    (s.gateway.receiver ⟨2, .video⟩).srcPort = (s.gateway.receiver ⟨0, .video⟩).srcPort ∧
    s.gateway.os.inUse (s.gateway.receiver ⟨2, .video⟩).srcPort = true ∧
    Run.Meets step Harmless (initial (fun _ _ => 0) getGetDel) closedAgain := by
  have new : Run.Meets step NewHandle (initial (fun _ _ => 0) getGetDel) closedAgain := by
    refine Run.meets_imp (C := fun s act => ∀ call ∈ s.calls act, NewAmong s call) (I := fun s => Consistent s ∧ Created s)
      (fun _ _ _ both _ h => ⟨consistent_step both.1 h, created_step both.1 both.2 h⟩)
      (fun _ _ _ both new _ => newHandle_created both.2 new)
      ⟨consistent_initial _ _, fun _ _ stored => by cases stored⟩ (Run.meets_of_check (by rfl))
  obtain ⟨s, ran, ended, stops, same, used⟩ : ∃ s,
      Run.run step (initial (fun _ _ => 0) getGetDel) closedAgain = some s ∧
      (s.gateway.receiver ⟨0, .video⟩).pc = .finished ∧ (s.gateway.conf 0).stops = [3] ∧
      (s.gateway.receiver ⟨2, .video⟩).srcPort = (s.gateway.receiver ⟨0, .video⟩).srcPort ∧
      s.gateway.os.inUse (s.gateway.receiver ⟨2, .video⟩).srcPort = true := ⟨_, rfl, rfl, rfl, rfl, rfl⟩
  exact ⟨s, ran, Or.inl ended, stops, same, used, new_handles_harmless _ getGetDel closedAgain new⟩

end GstGateway.Program
