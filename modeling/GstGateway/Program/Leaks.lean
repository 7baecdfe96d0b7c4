import GstGateway.Conference.Held
import GstGateway.Program.Grants

/-! The ports in use in the whole program. A search that its own task's `stop()` has overtaken still binds a port,
for a receiver that is over already; no other port is bound by a receiver that is over. -/

namespace GstGateway.Program

open Gateway (Over attempt attempt_mine attempt_other attempt_port)

variable {s t : State} {act : Act} {call : Option Gateway.Act} {g : Gateway.State}

/-- A bound socket is the one that the receiver which opened it stores, on the port that it stores. -/
structure Tied (s : State) : Prop where
  distinct : DistinctHandles s.gateway.os
  stored : ∀ h socket port, s.gateway.os.lookup h = some socket → socket.port = some port →
    socket.owner ∈ s.found ∧ (s.gateway.receiver socket.owner).recvSocket = h ∧
      (s.gateway.receiver socket.owner).srcPort = port

theorem lookup_after {a : Addr} {act : Pipeline.Act} {next : Pipeline.State} {h : Handle} {socket : Socket}
    (found : (Gateway.after g a act next).os.lookup h = some socket) :
    g.os.lookup h = some socket ∧ ∀ r, Gateway.closer g (.conf a act) = some r → (g.receiver r).recvSocket ≠ h := by
  have os : (Gateway.after g a act next).os = Gateway.closed g (Gateway.closer g (.conf a act)) := rfl
  rw [os] at found
  cases who : Gateway.closer g (.conf a act) with
  | none =>
    rw [who] at found
    exact ⟨found, nofun⟩
  | some q =>
    rw [who, Gateway.closed, Os.lookup_closesocket] at found
    split at found
    · cases found
    · rename_i other
      exact ⟨found, fun r same => Option.some.inj same ▸ Ne.symm other⟩

/-- Of the bound sockets after an attempt one can be new, and then the attempt has succeeded. -/
theorem lookup_attempt {r : ReceiverId} {port p : Nat} {answer : Attempt} {h : Handle} {socket : Socket}
    (found : (attempt g r port answer).os.lookup h = some socket) (bound : socket.port = some p) :
    g.os.lookup h = some socket ∨
      (socket.owner = r ∧ ((attempt g r port answer).receiver r).recvSocket = h ∧ port = p ∧
        (UdpReceiver.tryInit r (g.receiver r) g.os port answer).1 = 0) := by
  rw [attempt_mine]
  rcases tryInit_opens r (g.receiver r) g.os port answer with ⟨_, _, same⟩ | ⟨_, n, _, stored, lookups⟩
  · exact Or.inl ((congrArg (Os.lookup · h) same).symm.trans found)
  · rw [show (attempt g r port answer).os.lookup h = _ from lookups h] at found
    split at found
    · rename_i mine
      cases found
      dsimp only at bound
      split at bound
      · rename_i taken
        exact Or.inr ⟨rfl, stored.trans mine.symm, Option.some.inj bound, taken⟩
      · cases bound
    · exact Or.inl found

theorem tied_effect (tied : Tied s) (effect : Effect s t call) : Tied t := by
  cases effect with
  | none gateway found =>
    refine ⟨?_, ?_⟩
    · rw [gateway]
      exact tied.distinct
    · rw [gateway, found]
      exact tied.stored
  | tryInit r port answer missing low high gateway found =>
    have more : s.found ⊆ t.found := by
      rcases found with ⟨same, _⟩ | ⟨new, _⟩
      · exact same ▸ List.Subset.refl _
      · exact new ▸ List.subset_append_left _ _
    refine ⟨?_, fun h socket p there bound => ?_⟩
    · rw [gateway]
      exact distinct_tryInit r _ _ port tied.distinct
    · rw [gateway] at there ⊢
      rcases lookup_attempt there bound with old | ⟨mine, handle, same, taken⟩
      · obtain ⟨member, handle, port'⟩ := tied.stored h socket p old bound
        have other : socket.owner ≠ r := fun same => missing (same ▸ member)
        rw [attempt_other _ other]
        exact ⟨more member, handle, port'⟩
      · rw [mine, attempt_port]
        rcases found with ⟨_, failed⟩ | ⟨new, _⟩
        · exact absurd taken failed
        · exact ⟨new ▸ List.mem_append_right _ (List.mem_singleton_self r), handle, same⟩
  | conf a act next taken gateway found =>
    refine ⟨?_, fun h socket p there bound => ?_⟩
    · rw [gateway]
      cases who : Gateway.closer s.gateway (.conf a act) with
      | none => exact (congrArg DistinctHandles (congrArg (Gateway.closed s.gateway) who)).mpr tied.distinct
      | some q =>
        exact (congrArg DistinctHandles (congrArg (Gateway.closed s.gateway) who)).mpr (distinct_close tied.distinct)
    · rw [gateway] at there ⊢
      rw [found, Gateway.socket_after taken, Gateway.port_after taken]
      exact tied.stored h socket p (lookup_after there).1 bound

/-! ### Ports that outlive their receivers -/

def PortsFreed (s : State) : Prop :=
  ∀ h socket port, s.gateway.os.lookup h = some socket → socket.port = some port → ¬ Over s.gateway socket.owner

/-- Where the call is an attempt that binds a port, no `stop()` has closed the receiver's socket before. -/
def InTime (g : Gateway.State) : Gateway.Act → Prop
  | .tryInit r port answer => (UdpReceiver.tryInit r (g.receiver r) g.os port answer).1 = 0 → ¬ Over g r
  | .conf _ _ => True

instance (g : Gateway.State) : (call : Gateway.Act) → Decidable (InTime g call)
  | .tryInit r port answer =>
    inferInstanceAs (Decidable ((UdpReceiver.tryInit r (g.receiver r) g.os port answer).1 = 0 → ¬ Over g r))
  | .conf _ _ => isTrue trivial

def NotOvertaken (s : State) (act : Act) : Prop := ∀ call ∈ s.calls act, InTime s.gateway call

instance (s : State) (act : Act) : Decidable (NotOvertaken s act) :=
  inferInstanceAs (Decidable (∀ call ∈ s.calls act, InTime s.gateway call))

theorem over_attempt_iff {r q : ReceiverId} {port : Nat} {answer : Attempt} :
    Over (attempt g q port answer) r ↔ Over g r := by
  refine or_congr ?_ ?_
  · unfold Gateway.Finished
    rw [Gateway.attempt_receiver]
    split
    · rename_i same
      rw [Gateway.tryInit_pc, same]
    · exact Iff.rfl
  · unfold Gateway.PastClose
    rcases Gateway.attempt_conf g q port answer r.task with kept | ⟨put, _⟩
    · rw [kept]
    · rw [put]
      exact Iff.rfl

theorem freed_effect (tied : Tied s) (freed : PortsFreed s) (effect : Effect s t call) :
    PortsFreed t ↔ ∀ c ∈ call, InTime s.gateway c := by
  cases effect with
  | none gateway found =>
    refine iff_of_true ?_ nofun
    unfold PortsFreed
    rw [gateway]
    exact freed
  | tryInit r port answer missing low high gateway found =>
    unfold PortsFreed
    rw [gateway]
    constructor
    · intro after c called
      cases Option.some.inj called
      intro taken gone
      obtain ⟨n, _, there⟩ := Gateway.bound_tried taken
      exact after _ _ _ there rfl (over_attempt_iff.mpr gone)
    · intro inTime h socket p there bound gone
      rw [over_attempt_iff] at gone
      rcases lookup_attempt there bound with old | ⟨mine, _, _, taken⟩
      · exact freed h socket p old bound gone
      · exact inTime _ rfl taken (mine ▸ gone)
  | conf a act next taken gateway found =>
    refine iff_of_true ?_ fun c called => Option.some.inj called ▸ trivial
    unfold PortsFreed
    rw [gateway]
    intro h socket p there bound gone
    obtain ⟨before, spared⟩ := lookup_after there
    have alive := freed h socket p before bound
    have handle := (tied.stored h socket p before bound).2.1
    by_cases mine : socket.owner.task = a
    · subst mine
      have closing := (Gateway.over_back taken gone).resolve_left alive
      exact spared socket.owner (by rw [Gateway.closer, closing, Option.map_some]) handle
    · exact alive ((Gateway.over_other mine).mp gone)

theorem tied_initial (memory : Addr → Kind → Int) (requests : Nat → Option Overlap.Request) :
    Tied (initial memory requests) :=
  ⟨List.nodup_nil, fun _ _ _ found => by cases lookup_mem found⟩

/-- In every interleaving of the handlers, the conferences' threads and the `stop()` calls, no port is bound by a
receiver that is over, exactly if no search binds a port after its own task's `stop()` has closed the socket. -/
theorem ports_freed_iff (memory : Addr → Kind → Int) (requests : Nat → Option Overlap.Request) (acts : List Act) :
    Run.Always step PortsFreed (initial memory requests) acts ↔
      Run.Meets step NotOvertaken (initial memory requests) acts :=
  Run.always_iff_meets (I := fun s => Consistent s ∧ Tied s)
    (fun _ _ _ both h => ⟨consistent_step both.1 h, tied_effect both.2 (step_effect both.1.agrees h)⟩)
    (fun _ _ _ both freed h => freed_effect both.2 freed (step_effect both.1.agrees h))
    ⟨consistent_initial memory requests, tied_initial memory requests⟩
    fun _ _ _ found => by cases lookup_mem found

/-! ### The ports in use -/

def PortsExact (s : State) : Prop := ∀ port, s.gateway.os.inUse port = true ↔
  ∃ r ∈ s.found, ¬ Over s.gateway r ∧ (s.gateway.receiver r).srcPort = port

theorem ports_exact (tied : Tied s) (held : PortsHeld s) (freed : PortsFreed s) : PortsExact s := by
  intro port
  rw [inUse_iff tied.distinct]
  constructor
  · rintro ⟨h, socket, there, bound⟩
    obtain ⟨member, _, same⟩ := tied.stored h socket port there bound
    exact ⟨socket.owner, member, freed h socket port there bound, same⟩
  · rintro ⟨r, member, alive, same⟩
    obtain ⟨n, _, there⟩ := (held r member).resolve_left alive
    exact ⟨_, _, there, congrArg some same⟩

/-- Where each close spares the others' sockets and no search is overtaken by its task's `stop()`, the ports in use
are in every state those of the receivers that have found one and are not over. -/
theorem ports_in_use (memory : Addr → Kind → Int) (requests : Nat → Option Overlap.Request) (acts : List Act)
    (orderly : Run.Meets step (fun s act => Harmless s act ∧ NotOvertaken s act) (initial memory requests) acts) :
    Run.Always step PortsExact (initial memory requests) acts := by
  refine Run.always_imp (fun _ all => ports_exact all.2.1 all.2.2.1 all.2.2.2)
    (Run.always_of_meets (I := fun s => Consistent s ∧ Tied s ∧ PortsHeld s ∧ PortsFreed s) ?_ ?_ orderly)
  · rintro s act t ⟨consistent, tied, held, freed⟩ ⟨harmless, inTime⟩ h
    have effect := step_effect consistent.agrees h
    exact ⟨consistent_step consistent h, tied_effect tied effect,
      (held_effect consistent.sound held effect).mpr harmless, (freed_effect tied freed effect).mpr inTime⟩
  · exact ⟨consistent_initial memory requests, tied_initial memory requests, List.forall_mem_nil _,
      fun _ _ _ found => by cases lookup_mem found⟩

theorem one_port_freed : ∃ s, Run.run step (initial (fun _ _ => 0) getGetDel) twoAndStop = some s ∧
    s.gateway.os.inUse 50001 = false ∧ s.gateway.os.inUse 50002 = true ∧ PortsExact s := by
  have orderly : Run.Meets step (fun s act => Harmless s act ∧ NotOvertaken s act)
      (initial (fun _ _ => 0) getGetDel) twoAndStop := Run.meets_of_check (by rfl)
  obtain ⟨s, ran, free, used⟩ : ∃ s, Run.run step (initial (fun _ _ => 0) getGetDel) twoAndStop = some s ∧
      s.gateway.os.inUse 50001 = false ∧ s.gateway.os.inUse 50002 = true := ⟨_, rfl, rfl, rfl⟩
  exact ⟨s, ran, free, used, Run.always_last (ports_in_use _ getGetDel twoAndStop orderly) ran⟩

end GstGateway.Program
