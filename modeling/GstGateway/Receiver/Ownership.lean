import Mathlib.Logic.Function.Basic
import GstGateway.Foundation.Run
import GstGateway.Receiver.Udp

/-! Who closes which socket. Any number of receivers attempt ports, run their threads and are
told to quit, in any interleaving; both the end of `start()` and the end of `quit()` close the
stored handle, and the system may hand a closed number out again in between. -/

namespace GstGateway.Ownership

structure State where
  os : Os := {}
  receivers : ReceiverId → UdpReceiver := fun _ => {}
  /-- Calls of `quit()` that have cleared `active` and sleep before they close the socket. -/
  sleeping : ReceiverId → Nat := fun _ => 0
  /-- Ghost: the receiver has executed `closesocket` since its last `tryInit`. -/
  closed : ReceiverId → Bool := fun _ => false

inductive Action where
  | tryInit (r : ReceiverId) (port : Nat) (answer : Attempt)
  | launch (r : ReceiverId)
  | storeFlag (r : ReceiverId) (flag : Bool)
  | thread (r : ReceiverId) (ret : Int)
  | quit (r : ReceiverId)
  | wake (r : ReceiverId)

def State.set (s : State) (r : ReceiverId) (receiver : UdpReceiver) : State :=
  { s with receivers := Function.update s.receivers r receiver }

def State.close (s : State) (r : ReceiverId) : State :=
  { s with os := s.os.closesocket (s.receivers r).recvSocket, closed := Function.update s.closed r true }

def step (s : State) : Action → Option State
  | .tryInit r port answer =>
    -- `init` has returned before `start` launches the thread.
    if (s.receivers r).pc = .idle then
      let done := UdpReceiver.tryInit r (s.receivers r) s.os port answer
      some { s.set r done.2.1 with os := done.2.2, closed := Function.update s.closed r false }
    else none
  | .launch r =>
    if (s.receivers r).pc = .idle then some (s.set r { s.receivers r with pc := .waiting }) else none
  | .storeFlag r flag => some (s.set r { s.receivers r with syncFlag := flag })
  | .thread r ret =>
    ((s.receivers r).threadStep ret).map fun next =>
      if (s.receivers r).pc = .closing then (s.close r).set r next else s.set r next
  | .quit r =>
    some { s.set r { s.receivers r with active := false } with
      sleeping := Function.update s.sleeping r (s.sleeping r + 1) }
  | .wake r =>
    if 0 < s.sleeping r then
      some { s.close r with sleeping := Function.update s.sleeping r (s.sleeping r - 1) }
    else none

def closer (s : State) : Action → Option ReceiverId
  | .thread r _ => if (s.receivers r).pc = .closing then some r else none
  | .wake r => some r
  | _ => none

/-- Each `closesocket` closes a socket that the same receiver opened and that is still open. -/
def ClosesOwn (s : State) (a : Action) : Prop :=
  ∀ r, closer s a = some r → s.os.owner (s.receivers r).recvSocket = some r

/-- Each `closesocket` is its receiver's first since a `tryInit` that was given a socket. -/
def ClosesFirst (s : State) (a : Action) : Prop :=
  ∀ r, closer s a = some r → s.closed r = false ∧ ∃ n, (s.receivers r).recvSocket = .number n

/-- A receiver's stored handle names an open socket of its own exactly until its first close. -/
def Owned (s : State) : Prop :=
  ∀ r, s.os.owner (s.receivers r).recvSocket = some r ↔
    s.closed r = false ∧ ∃ n, (s.receivers r).recvSocket = .number n

inductive Effect (s t : State) : Option ReceiverId → Prop where
  | attempt (r : ReceiverId) (port : Nat) (answer : Attempt)
      (os : t.os = (UdpReceiver.tryInit r (s.receivers r) s.os port answer).2.2)
      (closed : t.closed = Function.update s.closed r false)
      (own : (t.receivers r).recvSocket =
        (UdpReceiver.tryInit r (s.receivers r) s.os port answer).2.1.recvSocket)
      (others : ∀ q, q ≠ r → (t.receivers q).recvSocket = (s.receivers q).recvSocket) :
      Effect s t none
  | close (r : ReceiverId) (os : t.os = s.os.closesocket (s.receivers r).recvSocket)
      (closed : t.closed = Function.update s.closed r true)
      (handles : ∀ q, (t.receivers q).recvSocket = (s.receivers q).recvSocket) : Effect s t (some r)
  | other (os : t.os = s.os) (closed : t.closed = s.closed)
      (handles : ∀ q, (t.receivers q).recvSocket = (s.receivers q).recvSocket) : Effect s t none

theorem set_handle {s : State} {r : ReceiverId} {receiver : UdpReceiver}
    (same : receiver.recvSocket = (s.receivers r).recvSocket) (q : ReceiverId) :
    ((s.set r receiver).receivers q).recvSocket = (s.receivers q).recvSocket := by
  by_cases h : q = r
  · subst q
    simpa [State.set] using same
  · simp [State.set, h]

theorem step_effect {s t : State} {a : Action} (h : step s a = some t) : Effect s t (closer s a) := by
  cases a with
  | tryInit r port answer =>
    simp only [step] at h
    split at h
    · cases h
      exact .attempt r port answer rfl rfl (by simp [State.set])
        (fun q ne => by simp [State.set, ne])
    · cases h
  | launch r =>
    simp only [step] at h
    split at h
    · cases h
      exact .other rfl rfl (set_handle rfl)
    · cases h
  | storeFlag r flag =>
    cases h
    exact .other rfl rfl (set_handle rfl)
  | thread r ret =>
    obtain ⟨next, moved, same⟩ := Option.map_eq_some_iff.mp h
    obtain ⟨pc, _, fields⟩ := UdpReceiver.threadStep_cases moved
    subst fields
    by_cases ending : (s.receivers r).pc = .closing
    · simp only [ending, if_true] at same
      simp only [closer, ending, if_true]
      subst same
      exact .close r rfl rfl (set_handle (s := s.close r) rfl)
    · simp only [ending, if_false] at same
      simp only [closer, ending, if_false]
      subst same
      exact .other rfl rfl (set_handle rfl)
  | quit r =>
    cases h
    exact .other rfl rfl (set_handle (s := s) rfl)
  | wake r =>
    simp only [step] at h
    split at h
    · cases h
      exact .close r rfl rfl (fun _ => rfl)
    · cases h

theorem owned_initial : Owned {} := by
  intro r
  simp [Os.owner, Os.lookup]

theorem owned_step {s t : State} {a : Action} (owned : Owned s) (own : ClosesOwn s a)
    (h : step s a = some t) : Owned t := by
  intro q
  have effect := step_effect h
  generalize hc : closer s a = who at effect
  cases effect with
  | attempt r port answer os closed mine others =>
    rcases UdpReceiver.tryInit_socket r (s.receivers r) s.os port answer with
      ⟨failed, unchanged⟩ | ⟨n, given, free, owners⟩
    · by_cases same : q = r
      · subst q
        simp [closed, mine, failed, Os.owner, Os.lookup]
      · rw [os, unchanged, closed, others q same, Function.update_of_ne same]
        exact owned q
    · rw [os, closed, owners]
      by_cases same : q = r
      · subst q
        simp [mine, given]
      · rw [others q same, Function.update_of_ne same]
        by_cases clash : (s.receivers q).recvSocket = .number n
        · -- The number was free, so this receiver's handle to it was stale already.
          have stale := owned q
          rw [clash, free] at stale
          simp only [clash, if_true, Option.some.injEq, Ne.symm same, false_iff]
          simpa [clash] using stale
        · rw [if_neg clash]
          exact owned q
  | close r os closed handles =>
    have mine := own r hc
    rw [os, closed, handles, Os.owner_closesocket]
    by_cases same : q = r
    · subst q
      simp
    · rw [Function.update_of_ne same]
      by_cases clash : (s.receivers q).recvSocket = (s.receivers r).recvSocket
      · have stale := owned q
        rw [clash, mine] at stale
        simp only [clash, if_true, reduceCtorEq, false_iff]
        simpa [clash, Ne.symm same] using stale
      · rw [if_neg clash]
        exact owned q
  | other os closed handles =>
    rw [os, closed, handles]
    exact owned q

/-- Every close in a run is of the closer's own open socket exactly when every close is the
receiver's first. -/
theorem closes_own_iff_first (as : List Action) :
    Run.Meets step ClosesOwn {} as ↔ Run.Meets step ClosesFirst {} as :=
  Run.meets_congr (fun _ _ _ owned own taken => owned_step owned own taken)
    (fun _ _ _ owned _ => forall_congr' fun r => imp_congr_right fun _ => owned r) owned_initial

/-- Conference 0 is told to quit; its thread takes one more datagram, leaves the loop and closes
the socket. Conference 1 is then given the same number while `quit()` still sleeps. -/
def staleHandle : List Action :=
  [.tryInit ⟨0, .video⟩ 50001 ⟨some 7, .bound⟩, .launch ⟨0, .video⟩, .storeFlag ⟨0, .video⟩ true,
   .thread ⟨0, .video⟩ 0, .thread ⟨0, .video⟩ 0, .quit ⟨0, .video⟩, .thread ⟨0, .video⟩ 100,
   .thread ⟨0, .video⟩ 0, .thread ⟨0, .video⟩ 0, .thread ⟨0, .video⟩ 0,
   .tryInit ⟨1, .video⟩ 50001 ⟨some 7, .bound⟩]

/-- The rest of `quit()` closes the socket of conference 1. -/
theorem quit_closes_other_conference :
    (∃ t, Run.run step {} staleHandle = some t ∧ closer t (.wake ⟨0, .video⟩) = some ⟨0, .video⟩ ∧
      t.os.owner (t.receivers ⟨0, .video⟩).recvSocket = some ⟨1, .video⟩) ∧
    ¬ Run.Meets step ClosesOwn {} (staleHandle ++ [.wake ⟨0, .video⟩]) := by
  refine ⟨⟨_, rfl, rfl, by decide⟩, fun meets => ?_⟩
  have own := Run.meets_last meets rfl rfl ⟨0, .video⟩ rfl
  revert own
  decide

end GstGateway.Ownership
