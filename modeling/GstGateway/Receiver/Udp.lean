import GstGateway.Receiver.Winsock

/-! `UdpReceiver`: its fields, one attempt to bind a port, the statements of its thread
`start()`, and the first half of `quit()`. Closing the socket is a step of its own, since both
`start()` and `quit()` do it and other threads run in between. -/

namespace GstGateway

inductive ReceiverPc where
  | idle
  | waiting
  | testing
  | receiving
  | pushing
  | closing
  | finished
  deriving DecidableEq, Repr

structure UdpReceiver where
  srcPort : Nat := 3000
  recvSocket : Handle := .null
  active : Bool := true
  syncFlag : Bool := false
  pc : ReceiverPc := .idle
  deriving DecidableEq, Repr

namespace UdpReceiver

/-- `tryInit(port)`: the port and the new handle are stored whether or not the bind works. -/
def tryInit (self : ReceiverId) (r : UdpReceiver) (os : Os) (port : Nat) (answer : Attempt) :
    Int × UdpReceiver × Os :=
  match answer.socket with
  | none =>
    -- The failure is only printed; `bind` then refuses `INVALID_SOCKET`.
    (wsaenotsock, { r with srcPort := port, recvSocket := .invalid }, os)
  | some wish =>
    let opened := os.socket self wish
    let r := { r with srcPort := port, recvSocket := opened.1 }
    match answer.bind with
    | .bound => (0, r, opened.2.bind opened.1 port)
    | .refused code => (code, r, opened.2)

/-- Where the thread's next statement leads. `ret` is what `recvfrom` returns where the thread is
blocked in it: a datagram's length, or an error once the socket is gone. -/
def nextPc (r : UdpReceiver) (ret : Int) : Option ReceiverPc :=
  match r.pc with
  | .idle | .finished => none
  | .waiting => some (if r.syncFlag then .testing else .waiting)
  | .testing => some (if r.syncFlag && r.active then .receiving else .closing)
  | .receiving => some (if ret > 10 then .pushing else .testing)
  | .pushing => some .testing
  | .closing => some .finished

def threadStep (r : UdpReceiver) (ret : Int) : Option UdpReceiver :=
  (r.nextPc ret).map fun pc => { r with pc }

theorem tryInit_socket (self : ReceiverId) (r : UdpReceiver) (os : Os) (port : Nat) (answer : Attempt) :
    ((tryInit self r os port answer).2.1.recvSocket = .invalid ∧
      (tryInit self r os port answer).2.2 = os) ∨
    ∃ n, (tryInit self r os port answer).2.1.recvSocket = .number n ∧ os.owner (.number n) = none ∧
      ∀ h, (tryInit self r os port answer).2.2.owner h =
        if h = .number n then some self else os.owner h := by
  unfold tryInit
  cases answer.socket with
  | none => exact Or.inl ⟨rfl, rfl⟩
  | some wish =>
    refine Or.inr ⟨os.fresh wish, ?_⟩
    cases answer.bind with
    | bound =>
      refine ⟨rfl, os.owner_given self wish, fun h => ?_⟩
      exact (Os.owner_bind _ _ _ _).trans (os.owner_socket self wish h)
    | refused code => exact ⟨rfl, os.owner_given self wish, os.owner_socket self wish⟩

theorem tryInit_srcPort (self : ReceiverId) (r : UdpReceiver) (os : Os) (port : Nat) (answer : Attempt) :
    (tryInit self r os port answer).2.1.srcPort = port := by
  unfold tryInit
  cases answer.socket with
  | none => rfl
  | some wish => cases answer.bind <;> rfl

theorem threadStep_cases {r next : UdpReceiver} {ret : Int} (h : r.threadStep ret = some next) :
    ∃ pc, r.nextPc ret = some pc ∧ next = { r with pc } := by
  obtain ⟨pc, moved, same⟩ := Option.map_eq_some_iff.mp h
  exact ⟨pc, moved, same.symm⟩

theorem nextPc_created {r : UdpReceiver} {ret : Int} {pc : ReceiverPc} (h : r.nextPc ret = some pc) :
    r.pc ≠ .idle ∧ pc ≠ .idle := by
  unfold nextPc at h
  cases now : r.pc <;> simp only [now] at h <;> cases h <;> refine ⟨nofun, ?_⟩
  case pushing | closing => nofun
  all_goals split <;> nofun

/-- Only a receive of more than ten bytes leads to a push. -/
theorem nextPc_pushing {r : UdpReceiver} {ret : Int} {pc : ReceiverPc} (h : r.nextPc ret = some pc) :
    pc = .pushing ↔ r.pc = .receiving ∧ ret > 10 := by
  unfold nextPc at h
  cases now : r.pc <;> simp only [now] at h <;> cases h
  case receiving => simp
  case pushing | closing => simp
  all_goals split <;> simp

theorem nextPc_waiting {r : UdpReceiver} {ret : Int} {pc : ReceiverPc} (h : r.nextPc ret = some pc) :
    pc = .waiting ↔ r.pc = .waiting ∧ r.syncFlag = false := by
  unfold nextPc at h
  cases now : r.pc <;> simp only [now] at h <;> cases h
  case waiting => cases r.syncFlag <;> simp
  case pushing | closing => simp
  all_goals split <;> simp

end UdpReceiver
end GstGateway
