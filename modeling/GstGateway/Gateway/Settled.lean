import GstGateway.Conference.Allocation
import GstGateway.Gateway.Closing

/-! One conference's shutdown against `stop()` in one piece. A history of requests takes a shutdown as done at
once; here its threads, any number of `stop()` calls and the other conferences take turns, and both ends of a
receiver close its socket. -/

namespace GstGateway.Gateway

variable {g h : State} {a : Addr} {k : Kind} {act : Act}

/-- Nobody but conference `a` opens or closes a socket. -/
def SocketsOf (a : Addr) (g : State) (act : Act) : Prop :=
  (∀ r ∈ closer g act, r.task = a) ∧ ∀ r port answer, act ≠ .tryInit r port answer

/-- The sockets after receivers of a conference have closed theirs, in the order `kinds`. -/
def shut (socket : Kind → Handle) (os : Os) (kinds : List Kind) : Os :=
  kinds.foldl (fun os k => os.closesocket (socket k)) os

theorem shut_sockets (socket : Kind → Handle) (os : Os) (kinds : List Kind) :
    (shut socket os kinds).sockets = os.sockets.filter fun s => ∀ k ∈ kinds, .number s.handle ≠ socket k := by
  induction kinds generalizing os with
  | nil => simp [shut]
  | cons k kinds ih =>
    rw [shut, List.foldl_cons]
    refine (ih (os.closesocket (socket k))).trans ?_
    simp only [Os.closesocket, List.filter_filter, List.forall_mem_cons]
    refine List.filter_congr fun s _ => ?_
    rw [Bool.decide_and, Bool.and_comm]

/-- Closing twice, or in the other order, makes no difference. -/
theorem shut_all (socket : Kind → Handle) (os : Os) {kinds : List Kind} (all : ∀ k, k ∈ kinds) :
    shut socket os kinds = shut socket os [.video, .audio] := by
  have sockets : (shut socket os kinds).sockets = (shut socket os [.video, .audio]).sockets := by
    rw [shut_sockets, shut_sockets]
    refine List.filter_congr fun s _ => decide_eq_decide.mpr ?_
    have both : ∀ k, k ∈ [Kind.video, Kind.audio] := fun k => by cases k <;> decide
    exact ⟨fun open' k _ => open' k (all k), fun open' k _ => open' k (both k)⟩
  exact congrArg Os.mk sockets

theorem over_back {next : Pipeline.State} {act : Pipeline.Act} (taken : Pipeline.step (g.conf a) act = some next)
    (gone : Over (after g a act next) ⟨a, k⟩) : Over g ⟨a, k⟩ ∨ closes (g.conf a) act = some k := by
  have conf : (after g a act next).conf a = next := put_same g a next
  rcases gone with finished | past
  · have ended : (next.chan k).receiver.pc = .finished :=
      (congrArg (fun s : Pipeline.State => (s.chan k).receiver.pc) conf).symm.trans finished
    rcases (keeps_step taken k).finished ended with before | ⟨_, _, closing⟩
    · exact Or.inl (Or.inl before)
    · exact Or.inr closing
  · rcases past_step taken ((congrArg (Past · k) conf).mp past) with before | ⟨_, _, closing⟩
    · exact Or.inl (Or.inr before)
    · exact Or.inr closing

theorem over_other {b : Addr} {next : Pipeline.State} {act : Pipeline.Act} (other : a ≠ b) :
    Over (after g b act next) ⟨a, k⟩ ↔ Over g ⟨a, k⟩ := by
  have conf : (after g b act next).conf a = g.conf a := put_elsewhere g next other
  exact or_congr (iff_of_eq (congrArg (fun s : Pipeline.State => (s.chan k).receiver.pc = .finished) conf))
    (iff_of_eq (congrArg (Past · k) conf))

/-- So far the sockets of `kinds` are closed, and of no receiver that is over is the socket left out. -/
structure Shutting (socket : Kind → Handle) (os : Os) (a : Addr) (g : State) : Prop where
  handles : ∀ k, (g.receiver ⟨a, k⟩).recvSocket = socket k
  sockets : ∃ kinds, g.os = shut socket os kinds ∧ ∀ k, Over g ⟨a, k⟩ → k ∈ kinds

theorem shutting_step {socket : Kind → Handle} {os : Os} (shutting : Shutting socket os a g)
    (alone : SocketsOf a g act) (stepped : step g act = some h) : Shutting socket os a h := by
  obtain ⟨handles, kinds, sockets, closed⟩ := shutting
  cases step_acts stepped with
  | tryInit r port answer idle => exact absurd rfl (alone.2 r port answer)
  | conf b act next taken =>
    refine ⟨fun k => (socket_after taken).trans (handles k), ?_⟩
    have os' : (after g b act next).os = Gateway.closed g (closer g (.conf b act)) := rfl
    cases closing : closes (g.conf b) act with
    | none =>
      have same : (after g b act next).os = g.os := by rw [os', closer, closing]; rfl
      refine ⟨kinds, same.trans sockets, fun k gone => closed k ?_⟩
      by_cases mine : b = a
      · subst mine
        exact (over_back taken gone).resolve_right fun now => Option.some_ne_none k (now.symm.trans closing)
      · exact (over_other (Ne.symm mine)).mp gone
    | some j =>
      have who : closer g (.conf b act) = some ⟨b, j⟩ := by rw [closer, closing]; rfl
      obtain rfl : b = a := alone.1 _ who
      refine ⟨kinds ++ [j], ?_, fun k gone => ?_⟩
      · rw [os', who, Gateway.closed, handles, sockets, shut, shut, List.foldl_append]
        rfl
      · rcases over_back taken gone with before | now
        · exact List.mem_append_left _ (closed k before)
        · rw [closing] at now
          exact List.mem_append_right _ (List.mem_singleton.mpr (Option.some.inj now).symm)

/-- However the threads and the `stop()` calls of a conference took turns, once both receivers are over the sockets
are those that `stop()` in one piece leaves. -/
theorem shutdown_is_stop (rest : List Act) (g h : State) (a : Addr) (t : MediaProcessTask)
    (receivers : ∀ k, (t.receiver k).map UdpReceiver.recvSocket = some (g.receiver ⟨a, k⟩).recvSocket)
    (before : ∀ k, ¬ Over g ⟨a, k⟩) (ran : Run.run step g rest = some h) (alone : Run.Meets step (SocketsOf a) g rest)
    (ended : ∀ k, Over h ⟨a, k⟩) : h.os = (t.stop g.os).2 := by
  have start : Shutting (fun k => (g.receiver ⟨a, k⟩).recvSocket) g.os a g :=
    ⟨fun _ => rfl, [], rfl, fun k gone => absurd gone (before k)⟩
  obtain ⟨_, kinds, sockets, closed⟩ := Run.always_last
    (Run.always_of_meets (fun _ _ _ shutting alone stepped => shutting_step shutting alone stepped) start alone) ran
  rw [sockets, shut_all _ _ fun k => closed k (ended k)]
  obtain ⟨video, stored, handle⟩ := Option.map_eq_some_iff.mp (receivers .video)
  obtain ⟨audio, stored', handle'⟩ := Option.map_eq_some_iff.mp (receivers .audio)
  have here : t.rtpVideoReceiver = some video := stored
  have there : t.rtpAudioReceiver = some audio := stored'
  simp only [MediaProcessTask.stop, here, there, quitReceiver, UdpReceiver.quit, handle, handle', shut,
    List.foldl_cons, List.foldl_nil]

theorem socketsOf_conf (g : State) (a : Addr) (act : Pipeline.Act) : SocketsOf a g (.conf a act) := by
  refine ⟨fun r closing => ?_, nofun⟩
  obtain ⟨k, _, rfl⟩ := Option.map_eq_some_iff.mp closing
  rfl

/-- The task of `created`: of its audio receiver nothing was ever bound. -/
def halfBound : MediaProcessTask where
  rtpVideoReceiver := some { recvSocket := .number 7 }
  rtpAudioReceiver := some {}

theorem shut_down_as_stopped : ∃ g h, Run.run step (initial fun _ _ => 0) created = some g ∧
    Run.run step g (shutDown ++ List.replicate 3 (.conf 0 (.stop 0))) = some h ∧ h.os = (halfBound.stop g.os).2 := by
  obtain ⟨g, reached, handles, waiting, untold, h, ran, stops⟩ :
      ∃ g, Run.run step (initial fun _ _ => 0) created = some g ∧
        (∀ k, (halfBound.receiver k).map UdpReceiver.recvSocket = some (g.receiver ⟨0, k⟩).recvSocket) ∧
        (∀ k, (g.receiver ⟨0, k⟩).pc = .waiting) ∧ (g.conf 0).stops = [] ∧
        ∃ h, Run.run step g (shutDown ++ List.replicate 3 (.conf 0 (.stop 0))) = some h ∧ (h.conf 0).stops = [6] :=
    ⟨_, rfl, fun k => by cases k <;> rfl, fun k => by cases k <;> rfl, rfl, _, rfl, rfl⟩
  refine ⟨g, h, reached, ran, shutdown_is_stop _ g h 0 halfBound handles (fun k gone => ?_) ran
    (Run.meets_of_forall fun act member g => ?_) fun k => Or.inr ⟨6, stops ▸ List.mem_singleton_self 6, ?_⟩⟩
  · rcases gone with finished | ⟨made, member, _⟩
    · exact ReceiverPc.noConfusion ((waiting k).symm.trans finished)
    · rw [untold] at member
      cases member
  · have mine : ∀ act ∈ shutDown ++ List.replicate 3 (.conf 0 (.stop 0)), ∃ own, act = Act.conf 0 own := by
      simp [shutDown]
    obtain ⟨own, rfl⟩ := mine act member
    exact socketsOf_conf g 0 own
  · cases k <;> decide

end GstGateway.Gateway
