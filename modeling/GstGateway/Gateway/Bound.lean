import GstGateway.Gateway.Settled

/-! A receiver's port among the steps of the gateway. The port stays bound until the receiver is over, unless
another receiver closes the handle of the socket. -/

namespace GstGateway.Gateway

open Pipeline (Launched)

variable {g h : State} {r q : ReceiverId} {act : Act}

/-- The receiver is done with its socket, or the socket is open and bound to the port that it stores. -/
def HoldsPort (g : State) (r : ReceiverId) : Prop := Over g r ∨ Bound g.os r (g.receiver r)

theorem srcPort_step {s next : Pipeline.State} {act : Pipeline.Act} (taken : Pipeline.step s act = some next)
    (k : Kind) : (next.chan k).receiver.srcPort = (s.chan k).receiver.srcPort := by
  revert k
  have puts : ∀ {u : Pipeline.State} {j : Kind} {c : Pipeline.Channel}, u.chan = s.chan →
      c.receiver.srcPort = (s.chan j).receiver.srcPort →
      ∀ k, ((u.put j c).chan k).receiver.srcPort = (s.chan k).receiver.srcPort := fun same mine =>
    (Pipeline.forall_put (P := fun k c => c.receiver.srcPort = (s.chan k).receiver.srcPort) (fun _ => rfl) same).mpr
      mine
  cases Pipeline.step_moves taken with
  | launch j thread created =>
    refine puts rfl ?_
    cases thread <;> rfl
  | callStop => exact fun _ => rfl
  | stop i made j call now calls =>
    refine puts rfl ?_
    cases call <;> rfl
  | processor j ok c exited moved =>
    refine puts rfl ?_
    rcases ran_receiver (Pipeline.processorStep_ran moved) with ⟨b, _, receiver⟩ | ⟨_, receiver⟩ <;> rw [receiver]
  | receiver j ret receiver moved =>
    refine puts rfl ?_
    obtain ⟨pc, _, rfl⟩ := UdpReceiver.threadStep_cases moved
    rfl
  | endOfStream j => exact puts rfl rfl

theorem port_after {a : Addr} {act : Pipeline.Act} {next : Pipeline.State}
    (taken : Pipeline.step (g.conf a) act = some next) :
    ((after g a act next).receiver r).srcPort = (g.receiver r).srcPort := by
  by_cases mine : r.task = a
  · subst mine
    have conf : (after g r.task act next).conf r.task = next := put_same g r.task next
    exact (congrArg (fun s : Pipeline.State => (s.chan r.kind).receiver.srcPort) conf).trans
      (srcPort_step taken r.kind)
  · have conf : (after g a act next).conf r.task = g.conf r.task := put_elsewhere g next mine
    exact congrArg (fun s : Pipeline.State => (s.chan r.kind).receiver.srcPort) conf

theorem attempt_mine (g : State) (r : ReceiverId) (port : Nat) (answer : Attempt) :
    (attempt g r port answer).receiver r = (UdpReceiver.tryInit r (g.receiver r) g.os port answer).2.1 := by
  rw [attempt_receiver, if_pos rfl]

theorem attempt_other (g : State) (other : q ≠ r) (port : Nat) (answer : Attempt) :
    (attempt g r port answer).receiver q = g.receiver q := by
  rw [attempt_receiver, if_neg other]

theorem attempt_port (g : State) (r : ReceiverId) (port : Nat) (answer : Attempt) :
    ((attempt g r port answer).receiver r).srcPort = port := by
  rw [attempt_mine, UdpReceiver.tryInit_srcPort]

theorem bound_attempt {port : Nat} {answer : Attempt} (other : r ≠ q) (bound : Bound g.os r (g.receiver r)) :
    Bound (attempt g q port answer).os r ((attempt g q port answer).receiver r) := by
  rw [attempt_other g other]
  exact bound_extends (tryInit_extends q (g.receiver q) g.os port answer) bound

theorem bound_tried {port : Nat} {answer : Attempt}
    (taken : (UdpReceiver.tryInit q (g.receiver q) g.os port answer).1 = 0) :
    Bound (attempt g q port answer).os q ((attempt g q port answer).receiver q) := by
  rw [attempt_mine]
  rcases tryInit_opens q (g.receiver q) g.os port answer with ⟨none, _⟩ | ⟨_, n, _, stored, lookups⟩
  · exact absurd none (accepted_socket (tryInit_accepted.mp taken))
  · refine ⟨n, stored, ?_⟩
    rw [UdpReceiver.tryInit_srcPort]
    refine (lookups _).trans ?_
    rw [if_pos rfl, if_pos taken]

theorem tryInit_onePer {os : Os} {answers : Nat → Attempt} {receiver : UdpReceiver} {port : Nat}
    (one : OnePerPort os) : OnePerPort (UdpReceiver.tryInit q receiver os port (os.permit answers port)).2.2 := by
  rcases tryInit_opens q receiver os port (os.permit answers port) with ⟨_, _, same⟩ | ⟨_, n, _, _, lookups⟩
  · rw [same]
    exact one
  · -- Of a bound socket the port is an old one, or the new one, which was free.
    have either : ∀ h s p, (UdpReceiver.tryInit q receiver os port (os.permit answers port)).2.2.lookup h = some s →
        s.port = some p → os.lookup h = some s ∨
          (h = .number n ∧ ∀ h' s', os.lookup h' = some s' → s'.port ≠ some p) := by
      intro h s p found bound
      rw [lookups] at found
      split at found
      · rename_i mine
        cases found
        dsimp only at bound
        split at bound
        · rename_i taken
          obtain rfl := Option.some.inj bound
          exact Or.inr ⟨mine, fun h' s' found' => permit_accepted (tryInit_accepted.mp taken) found'⟩
        · cases bound
      · exact Or.inl found
    intro h h' s s' p found found' bound bound'
    rcases either h s p found bound with old | ⟨mine, free⟩
    · rcases either h' s' p found' bound' with old' | ⟨_, free'⟩
      · exact one h h' s s' p old old' bound bound'
      · exact absurd bound (free' h s old)
    · rcases either h' s' p found' bound' with old' | ⟨mine', _⟩
      · exact absurd bound' (free h' s' old')
      · exact mine.trans mine'.symm

theorem onePer_closed {who : Option ReceiverId} (one : OnePerPort g.os) : OnePerPort (closed g who) := by
  cases who with
  | none => exact one
  | some q =>
    have kept : ∀ h s, (closed g (some q)).lookup h = some s → g.os.lookup h = some s := by
      intro h s found
      rw [closed, Os.lookup_closesocket] at found
      split at found
      · cases found
      · exact found
    exact fun h h' s s' p found found' => one h h' s s' p (kept h s found) (kept h' s' found')

/-- A step of a conference leaves the receiver its port exactly if it respects the receiver's socket. -/
theorem holdsPort_conf {a : Addr} {act : Pipeline.Act} {next : Pipeline.State} (launched : Launched (g.conf a))
    (taken : Pipeline.step (g.conf a) act = some next) (holds : HoldsPort g r) :
    HoldsPort (after g a act next) r ↔ Over g r ∨ Respects r g (.conf a act) := by
  by_cases before : Over g r
  · exact iff_of_true (Or.inl (over_after launched taken before)) (Or.inl before)
  obtain ⟨n, stored, found⟩ := holds.resolve_left before
  have socket := socket_after (r := r) taken
  have port := port_after (r := r) taken
  by_cases mine : closer g (.conf a act) = some r
  · refine iff_of_true (Or.inl (over_closed taken mine)) (Or.inr fun q closing other => absurd ?_ other)
    exact Option.some.inj (closing.symm.trans mine)
  have still : ¬ Over (after g a act next) r := by
    intro gone
    by_cases here : r.task = a
    · subst here
      rcases over_back taken gone with was | closing
      · exact before was
      · exact mine (by rw [closer, closing, Option.map_some])
    · exact before ((over_other here).mp gone)
  have os : (after g a act next).os = closed g (closer g (.conf a act)) := rfl
  rw [HoldsPort, or_iff_right still, or_iff_right before, Bound, os, socket, port]
  cases who : closer g (.conf a act) with
  | none =>
    refine iff_of_true ⟨n, stored, found⟩ fun q closing => ?_
    rw [who] at closing
    cases closing
  | some q =>
    have other : q ≠ r := fun same => mine (same ▸ who)
    constructor
    · rintro ⟨m, stored', found'⟩ p closing _ same
      rw [who] at closing
      cases closing
      rw [closed, Os.lookup_closesocket, ← stored', if_pos same.symm] at found'
      cases found'
    · intro respects
      refine ⟨n, stored, ?_⟩
      rw [closed, Os.lookup_closesocket, if_neg, found]
      exact fun same => respects q who other (same.symm.trans stored.symm)

end GstGateway.Gateway
