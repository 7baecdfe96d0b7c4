import GstGateway.Gateway.Refinement
import GstGateway.Pipeline.Shutdown

/-! Both the end of a receiver's thread and the end of its `quit()` close the stored handle. Where a shutdown
runs to its end both have done so, and the second close is never of the receiver's own socket. -/

namespace GstGateway.Gateway

open Pipeline (StopCall Moves Launched closeAt)

variable {g h : State} {r : ReceiverId} {act : Act}

/-- Some `stop()` has made the call that closes the receiver's socket. -/
def Past (s : Pipeline.State) (k : Kind) : Prop := ∃ made ∈ s.stops, closeAt k < made

def Finished (g : State) (r : ReceiverId) : Prop := (g.receiver r).pc = .finished

def PastClose (g : State) (r : ReceiverId) : Prop := Past (g.conf r.task) r.kind

def Owns (g : State) (r : ReceiverId) : Prop := g.os.owner (g.receiver r).recvSocket = some r

/-- What a step is to a receiver whose thread was created. -/
inductive Touches (g h : State) (r : ReceiverId) (act : Act) : Prop where
  | closes (mine : closer g act = some r) (gone : ¬ Owns h r)
      (once : (Finished h r → Finished g r) ∨ (PastClose h r → PastClose g r))
  | keeps (owns : Owns h r → Owns g r) (finished : Finished h r → Finished g r)
      (past : PastClose h r → PastClose g r)

theorem stop_close {made : Nat} {k : Kind} : Pipeline.stop[made]? = some (k, .closeSocket) ↔ made = closeAt k := by
  rcases made with _ | _ | _ | _ | _ | _ | made <;> cases k <;> simp [Pipeline.stop, closeAt]

theorem past_set {s : Pipeline.State} {i made : Nat} {k : Kind} (now : s.stops[i]? = some made)
    (past : ∃ m ∈ s.stops.set i (made + 1), closeAt k < m) : Past s k ∨ made = closeAt k := by
  obtain ⟨m, member, more⟩ := past
  rcases List.mem_or_eq_of_mem_set member with old | rfl
  · exact Or.inl ⟨m, old, more⟩
  · rcases Nat.lt_or_eq_of_le (Nat.le_of_lt_succ more) with before | here
    · exact Or.inl ⟨made, List.mem_of_getElem? now, before⟩
    · exact Or.inr here.symm

theorem owner_closed {who : Option ReceiverId} {handle : Handle} (owner : (closed g who).owner handle = some r) :
    g.os.owner handle = some r := by
  cases who with
  | none => exact owner
  | some q =>
    simp only [closed, Os.owner_closesocket] at owner
    split at owner
    · cases owner
    · exact owner

theorem owner_self : (closed g (some r)).owner (g.receiver r).recvSocket = none := by
  simp [closed, Os.owner_closesocket]

/-! ### What one step does to a receiver -/

variable {s next : Pipeline.State} {k : Kind}

theorem nextPc_finished {r : UdpReceiver} {ret : Int} (leads : r.nextPc ret = some .finished) : r.pc = .closing := by
  by_contra other
  unfold UdpReceiver.nextPc at leads
  cases now : r.pc with
  | closing => exact other now
  | idle | finished | pushing => simp [now] at leads
  | waiting | testing | receiving =>
    simp only [now, Option.some.injEq] at leads
    split at leads <;> cases leads

/-- A step keeps a receiver's handle, and brings its thread to the end only by closing the socket. -/
structure Keeps (s : Pipeline.State) (act : Pipeline.Act) (k : Kind) (r : UdpReceiver) : Prop where
  handle : r.recvSocket = (s.chan k).receiver.recvSocket
  created : (s.chan k).receiver.pc ≠ .idle → r.pc ≠ .idle
  finished : r.pc = .finished → (s.chan k).receiver.pc = .finished ∨ ∃ ret, act = .receiver k ret ∧ closes s act = some k

theorem keeps_same {act : Pipeline.Act} {r : UdpReceiver} (handle : r.recvSocket = (s.chan k).receiver.recvSocket)
    (pc : r.pc = (s.chan k).receiver.pc) : Keeps s act k r :=
  ⟨handle, fun created => pc ▸ created, fun finished => Or.inl (pc ▸ finished)⟩

theorem keeps_step {act : Pipeline.Act} (taken : Pipeline.step s act = some next) (k : Kind) :
    Keeps s act k (next.chan k).receiver := by
  revert k
  have same : ∀ k, Keeps s act k (s.chan k).receiver := fun k => keeps_same rfl rfl
  cases Pipeline.step_moves taken with
  | launch j thread created =>
    refine (Pipeline.forall_put (P := fun k c => Keeps s .launch k c.receiver) same rfl).mpr ?_
    cases thread with
    | processor => exact keeps_same rfl rfl
    | receiver => exact ⟨rfl, fun _ => nofun, nofun⟩
  | callStop => exact same
  | stop i made j call now calls =>
    refine (Pipeline.forall_put (P := fun k c => Keeps s (.stop i) k c.receiver) same rfl).mpr ?_
    cases call <;> exact keeps_same rfl rfl
  | processor j ok c exited moved =>
    refine (Pipeline.forall_put (P := fun k c => Keeps s (.processor j ok) k c.receiver) same rfl).mpr ?_
    rcases ran_receiver (Pipeline.processorStep_ran moved) with ⟨b, _, receiver⟩ | ⟨_, receiver⟩
    · rw [receiver]
      exact keeps_same rfl rfl
    · rw [receiver]
      exact keeps_same rfl rfl
  | receiver j ret receiver moved =>
    refine (Pipeline.forall_put (P := fun k c => Keeps s (.receiver j ret) k c.receiver) same rfl).mpr ?_
    obtain ⟨pc, leads, rfl⟩ := UdpReceiver.threadStep_cases moved
    refine ⟨rfl, fun _ => (UdpReceiver.nextPc_created leads).2, fun finished => Or.inr ⟨ret, rfl, if_pos ?_⟩⟩
    dsimp only at finished
    subst finished
    exact nextPc_finished leads
  | endOfStream j =>
    refine (Pipeline.forall_put (P := fun k c => Keeps s (.endOfStream j) k c.receiver) same rfl).mpr ?_
    exact keeps_same rfl rfl

theorem past_step {act : Pipeline.Act} (taken : Pipeline.step s act = some next) (past : Past next k) :
    Past s k ∨ ∃ i, act = .stop i ∧ closes s act = some k := by
  cases Pipeline.step_moves taken with
  | launch j thread created => exact Or.inl past
  | callStop =>
    obtain ⟨made, member, more⟩ := past
    rcases List.mem_append.mp member with old | new
    · exact Or.inl ⟨made, old, more⟩
    · rw [List.mem_singleton.mp new] at more
      exact absurd more (Nat.not_lt_zero _)
  | stop i made j call now calls =>
    rcases past_set now past with before | rfl
    · exact Or.inl before
    · have here := calls.symm.trans (stop_close.mpr rfl)
      cases here
      exact Or.inr ⟨i, rfl, by simp [closes, nextCall, now, calls]⟩
  | processor j ok c exited moved => exact Or.inl past
  | receiver j ret receiver moved => exact Or.inl past
  | endOfStream j => exact Or.inl past

theorem touches_step (created : (g.receiver r).pc ≠ .idle) (stepped : step g act = some h) :
    (h.receiver r).pc ≠ .idle ∧ Touches g h r act := by
  cases step_acts stepped with
  | tryInit q port answer idle =>
    have other : r ≠ q := by
      rintro rfl
      exact created idle
    have same : (attempt g q port answer).receiver r = g.receiver r := by
      rw [attempt_receiver, if_neg other]
    have stops : ((attempt g q port answer).conf r.task).stops = (g.conf r.task).stops := by
      rcases attempt_conf g q port answer r.task with kept | ⟨put, _⟩
      · rw [kept]
      · rw [put]
        rfl
    refine ⟨same ▸ created, .keeps (fun owns => ?_) (fun finished => ?_) (fun past => ?_)⟩
    · unfold Owns at owns ⊢
      rw [same] at owns
      rcases UdpReceiver.tryInit_socket q (g.receiver q) g.os port answer with ⟨_, os⟩ | ⟨n, _, _, owners⟩
      · rwa [show (attempt g q port answer).os = g.os from os] at owns
      · rw [show (attempt g q port answer).os.owner _ = _ from owners _] at owns
        split at owns
        · exact absurd (Option.some.inj owns).symm other
        · exact owns
    · unfold Finished at finished ⊢
      rwa [same] at finished
    · unfold PastClose Past at past ⊢
      rwa [stops] at past
  | conf a act next taken =>
    by_cases mine : r.task = a
    · subst mine
      have keeps := keeps_step taken r.kind
      have conf : (after g r.task act next).conf r.task = next := put_same g r.task next
      have receiver : (after g r.task act next).receiver r = (next.chan r.kind).receiver :=
        congrArg (fun s : Pipeline.State => (s.chan r.kind).receiver) conf
      have handle : ((after g r.task act next).receiver r).recvSocket = (g.receiver r).recvSocket :=
        (congrArg UdpReceiver.recvSocket receiver).trans keeps.handle
      have finished : Finished (after g r.task act next) r → Finished g r ∨
          ∃ ret, act = .receiver r.kind ret ∧ closes (g.conf r.task) act = some r.kind :=
        fun finished => keeps.finished ((congrArg UdpReceiver.pc receiver).symm.trans finished)
      have past : PastClose (after g r.task act next) r → PastClose g r ∨
          ∃ i, act = .stop i ∧ closes (g.conf r.task) act = some r.kind :=
        fun past => past_step taken (conf ▸ past)
      refine ⟨fun idle => keeps.created created ((congrArg UdpReceiver.pc receiver).symm.trans idle), ?_⟩
      by_cases closing : closes (g.conf r.task) act = some r.kind
      · have who : closer g (.conf r.task act) = some r := by rw [closer, closing, Option.map_some]
        refine .closes who (fun owns => ?_) ?_
        · unfold Owns at owns
          rw [handle, show (after g r.task act next).os = closed g (some r) from congrArg (closed g) who, owner_self]
            at owns
          cases owns
        · by_cases stop : ∃ i, act = .stop i
          · obtain ⟨i, rfl⟩ := stop
            refine Or.inl fun now => (finished now).resolve_right ?_
            rintro ⟨_, other, _⟩
            cases other
          · refine Or.inr fun now => (past now).resolve_right ?_
            rintro ⟨i, same, _⟩
            exact stop ⟨i, same⟩
      · refine .keeps (fun owns => ?_) (fun now => ?_) (fun now => ?_)
        · unfold Owns at owns ⊢
          rw [handle] at owns
          exact owner_closed owns
        · refine (finished now).resolve_right ?_
          rintro ⟨_, _, yes⟩
          exact closing yes
        · refine (past now).resolve_right ?_
          rintro ⟨_, _, yes⟩
          exact closing yes
    · have conf : (after g a act next).conf r.task = g.conf r.task := put_elsewhere g next mine
      have receiver : (after g a act next).receiver r = g.receiver r :=
        congrArg (fun s : Pipeline.State => (s.chan r.kind).receiver) conf
      refine ⟨fun idle => created (receiver ▸ idle), .keeps (fun owns => ?_) (fun finished => ?_) (fun past => ?_)⟩
      · unfold Owns at owns ⊢
        exact owner_closed (receiver ▸ owns)
      · unfold Finished at finished ⊢
        exact receiver ▸ finished
      · unfold PastClose at past ⊢
        exact conf ▸ past

/-! ### Over a whole run -/

/-- The receiver's socket was closed, by its thread or by a `quit()`, and is not its own any more. -/
structure Closed (g : State) (r : ReceiverId) : Prop where
  created : (g.receiver r).pc ≠ .idle
  lost : Finished g r ∨ PastClose g r → ¬ Owns g r

theorem closed_step (before : Closed g r) (stepped : step g act = some h) : Closed h r := by
  obtain ⟨created, touches⟩ := touches_step before.created stepped
  refine ⟨created, fun ended owns => ?_⟩
  cases touches with
  | closes mine gone once => exact gone owns
  | keeps kept finished past => exact before.lost (ended.imp finished past) (kept owns)

theorem created_of_finished (stepped : step g act = some h) (finished : Finished h r) :
    (g.receiver r).pc ≠ .idle := by
  intro idle
  cases step_acts stepped with
  | tryInit q port answer _ =>
    unfold Finished at finished
    rw [attempt_receiver] at finished
    split at finished
    · rename_i same
      subst same
      rw [tryInit_pc, idle] at finished
      cases finished
    · rw [idle] at finished
      cases finished
  | conf a act next taken =>
    by_cases mine : r.task = a
    · subst mine
      have receiver : (after g r.task act next).receiver r = (next.chan r.kind).receiver :=
        congrArg (fun s : Pipeline.State => (s.chan r.kind).receiver) (put_same g r.task next)
      rcases (keeps_step taken r.kind).finished ((congrArg UdpReceiver.pc receiver).symm.trans finished) with
        before | ⟨ret, rfl, closing⟩
      · cases before.symm.trans idle
      · simp only [closes, ite_eq_left_iff, reduceCtorEq, imp_false, not_not] at closing
        cases closing.symm.trans idle
    · have receiver : (after g a act next).receiver r = g.receiver r :=
        congrArg (fun s : Pipeline.State => (s.chan r.kind).receiver) (put_elsewhere g next mine)
      cases ((congrArg UdpReceiver.pc receiver).symm.trans finished).symm.trans idle

theorem finished_lost (memory : Addr → Kind → Int) {acts : List Act}
    (ran : Run.run step (initial memory) acts = some g) (r : ReceiverId) : Finished g r → ¬ Owns g r := by
  refine Run.run_invariant (I := fun g => Finished g r → ¬ Owns g r) (fun g act h before stepped finished owns => ?_)
    (fun finished => by cases finished) ran
  cases (touches_step (created_of_finished stepped finished) stepped).2 with
  | closes mine gone once => exact gone owns
  | keeps kept stillFinished past => exact before (stillFinished finished) (kept owns)

/-- The `closesocket` of this receiver closes a socket that it opened and that is still open. -/
def ClosesOwnOf (r : ReceiverId) (g : State) (act : Act) : Prop := closer g act = some r → Owns g r

theorem once_step (before : Closed g r) (once : ¬ (Finished g r ∧ PastClose g r)) (own : ClosesOwnOf r g act)
    (stepped : step g act = some h) : ¬ (Finished h r ∧ PastClose h r) := by
  rintro ⟨finished, past⟩
  cases (touches_step before.created stepped).2 with
  | closes mine gone either =>
    -- The socket was still its own, so neither close had been made.
    have open' : ¬ (Finished g r ∨ PastClose g r) := fun ended => before.lost ended (own mine)
    rcases either with still | still
    · exact open' (Or.inl (still finished))
    · exact open' (Or.inr (still past))
  | keeps kept stillFinished stillPast => exact once ⟨stillFinished finished, stillPast past⟩

/-- Once a conference's receiver runs and no `stop()` was called yet, every run that ends its thread and
takes a `stop()` past its close has the receiver close a socket that is not its own. -/
theorem shutdown_closes_twice (memory : Addr → Kind → Int) (before rest : List Act) (g h : State) (r : ReceiverId)
    (reached : Run.run step (initial memory) before = some g) (created : (g.receiver r).pc ≠ .idle)
    (untold : (g.conf r.task).stops = []) (ran : Run.run step g rest = some h) (finished : Finished h r)
    (past : PastClose h r) : ¬ Run.Meets step (ClosesOwnOf r) g rest := by
  intro own
  have none : ¬ PastClose g r := by
    rintro ⟨made, member, _⟩
    rw [untold] at member
    cases member
  have start : Closed g r ∧ ¬ (Finished g r ∧ PastClose g r) :=
    ⟨⟨created, fun ended => finished_lost memory reached r (ended.resolve_right none)⟩, fun both => none both.2⟩
  have all := Run.always_of_meets (I := fun g => Closed g r ∧ ¬ (Finished g r ∧ PastClose g r))
    (fun _ _ _ inv own stepped => ⟨closed_step inv.1 stepped, once_step inv.1 inv.2 own stepped⟩) start own
  exact (Run.always_last all ran).2 ⟨finished, past⟩

def created : List Act := .tryInit ⟨0, .video⟩ 50001 ⟨some 7, .bound⟩ :: List.replicate 4 (.conf 0 .launch)

/-- The video pipeline plays, a `stop()` is called, and both the receiver's thread and `quit()` end. -/
def shutDown : List Act :=
  List.replicate 49 (.conf 0 (.processor .video true)) ++
    [.conf 0 (.receiver .video 0), .conf 0 (.receiver .video 0), .conf 0 .callStop, .conf 0 (.stop 0),
     .conf 0 (.stop 0), .conf 0 (.receiver .video 100), .conf 0 (.receiver .video 0), .conf 0 (.receiver .video 0),
     .conf 0 (.receiver .video 0), .conf 0 (.stop 0)]

theorem video_closed_twice : ∃ g h, Run.run step (initial fun _ _ => 0) created = some g ∧
    Run.run step g shutDown = some h ∧ Owns g ⟨0, .video⟩ ∧ ¬ Run.Meets step (ClosesOwnOf ⟨0, .video⟩) g shutDown := by
  obtain ⟨g, reached, owns, waiting, untold, h, ran, finished, stops⟩ :
      ∃ g, Run.run step (initial fun _ _ => 0) created = some g ∧ Owns g ⟨0, .video⟩ ∧
        (g.receiver ⟨0, .video⟩).pc = .waiting ∧ (g.conf 0).stops = [] ∧
        ∃ h, Run.run step g shutDown = some h ∧ Finished h ⟨0, .video⟩ ∧ (h.conf 0).stops = [3] :=
    ⟨_, rfl, rfl, rfl, rfl, _, rfl, rfl, rfl⟩
  refine ⟨g, h, reached, ran, owns, ?_⟩
  refine shutdown_closes_twice (fun _ _ => 0) created shutDown g h ⟨0, .video⟩ reached ?_ untold ran finished ?_
  · rw [waiting]
    nofun
  · exact ⟨3, stops ▸ List.mem_singleton_self 3, by decide⟩

/-! ### How long a socket stays open -/

/-- The receiver's socket was closed: its thread has ended, or a `stop()` is past the close. -/
def Over (g : State) (r : ReceiverId) : Prop := Finished g r ∨ PastClose g r

theorem finished_step {act : Pipeline.Act} (launched : Pipeline.Launched s) (taken : Pipeline.step s act = some next)
    (finished : (s.chan k).receiver.pc = .finished) : (next.chan k).receiver.pc = .finished := by
  rcases Pipeline.chan_evolves launched taken k with same | evolves
  · rw [same]
    exact finished
  · exact Pipeline.finished_evolves finished evolves

theorem past_mono {act : Pipeline.Act} (taken : Pipeline.step s act = some next) (past : Past s k) : Past next k := by
  cases Pipeline.step_moves taken with
  | callStop =>
    obtain ⟨made, member, more⟩ := past
    exact ⟨made, List.mem_append_left _ member, more⟩
  | stop i made j call now calls => exact Pipeline.late_set now past
  | _ => exact past

theorem closes_over {act : Pipeline.Act} (taken : Pipeline.step s act = some next) (closing : closes s act = some k) :
    (next.chan k).receiver.pc = .finished ∨ Past next k := by
  cases Pipeline.step_moves taken with
  | stop i made j call now calls =>
    simp only [closes, nextCall, now, Option.bind_some, calls] at closing
    cases call with
    | quit => cases closing
    | deactivate => cases closing
    | closeSocket =>
      cases closing
      refine Or.inr ⟨made + 1, List.mem_set (List.getElem?_eq_some_iff.mp now).1 _, ?_⟩
      rw [stop_close.mp calls]
      exact Nat.lt_succ_self _
  | receiver j ret receiver moved =>
    obtain ⟨pc, leads, rfl⟩ := UdpReceiver.threadStep_cases moved
    simp only [closes] at closing
    split at closing
    · rename_i ending
      cases closing
      refine Or.inl ?_
      rw [Pipeline.put_self]
      simp only [UdpReceiver.nextPc, ending, Option.some.injEq] at leads
      exact leads.symm
    · cases closing
  | launch | callStop | processor | endOfStream => cases closing

/-- The step leaves the receiver's socket alone unless it is its own close. -/
def Respects (r : ReceiverId) (g : State) (act : Act) : Prop :=
  ∀ q ∈ closer g act, q ≠ r → (g.receiver q).recvSocket ≠ (g.receiver r).recvSocket

instance (r : ReceiverId) (g : State) (act : Act) : Decidable (Respects r g act) :=
  inferInstanceAs (Decidable (∀ q ∈ closer g act, q ≠ r → (g.receiver q).recvSocket ≠ (g.receiver r).recvSocket))

/-- The socket is open and the receiver's own, or the receiver is done with it. -/
structure Holding (g : State) (r : ReceiverId) : Prop where
  launched : ∀ a, Pipeline.Launched (g.conf a)
  created : (g.receiver r).pc ≠ .idle
  holds : Over g r ∨ Owns g r

theorem owns_attempt {q : ReceiverId} {port : Nat} {answer : Attempt} (other : r ≠ q) (owns : Owns g r) :
    Owns (attempt g q port answer) r := by
  unfold Owns at owns ⊢
  rw [attempt_receiver, if_neg other]
  rcases UdpReceiver.tryInit_socket q (g.receiver q) g.os port answer with ⟨_, os⟩ | ⟨n, _, free, owners⟩
  · rwa [show (attempt g q port answer).os = g.os from os]
  · refine (owners _).trans ((if_neg fun same => ?_).trans owns)
    rw [same, free] at owns
    cases owns

theorem owns_elsewhere {a : Addr} {act : Pipeline.Act} (respects : Respects r g (.conf a act))
    (other : closer g (.conf a act) ≠ some r) (owns : Owns g r) :
    (closed g (closer g (.conf a act))).owner (g.receiver r).recvSocket = some r := by
  cases who : closer g (.conf a act) with
  | none => exact owns
  | some q =>
    have apart := respects q who fun same => other (same ▸ who)
    simp only [closed, Os.owner_closesocket]
    exact (if_neg fun same => apart same.symm).trans owns

theorem socket_after {a : Addr} {act : Pipeline.Act} (taken : Pipeline.step (g.conf a) act = some next) :
    ((after g a act next).receiver r).recvSocket = (g.receiver r).recvSocket := by
  by_cases mine : r.task = a
  · subst mine
    have conf : (after g r.task act next).conf r.task = next := put_same g r.task next
    exact (congrArg (fun s : Pipeline.State => (s.chan r.kind).receiver.recvSocket) conf).trans
      (keeps_step taken r.kind).handle
  · have conf : (after g a act next).conf r.task = g.conf r.task := put_elsewhere g next mine
    exact congrArg (fun s : Pipeline.State => (s.chan r.kind).receiver.recvSocket) conf

theorem over_after {a : Addr} {act : Pipeline.Act} (launched : Launched (g.conf a))
    (taken : Pipeline.step (g.conf a) act = some next) (ended : Over g r) : Over (after g a act next) r := by
  by_cases mine : r.task = a
  · subst mine
    have conf : (after g r.task act next).conf r.task = next := put_same g r.task next
    refine ended.imp (fun finished => ?_) fun past => ?_
    · exact (congrArg (fun s : Pipeline.State => (s.chan r.kind).receiver.pc) conf).trans
        (finished_step launched taken finished)
    · exact (congrArg (Past · r.kind) conf).mpr (past_mono taken past)
  · have conf : (after g a act next).conf r.task = g.conf r.task := put_elsewhere g next mine
    refine ended.imp (fun finished => ?_) fun past => ?_
    · exact (congrArg (fun s : Pipeline.State => (s.chan r.kind).receiver.pc) conf).trans finished
    · exact (congrArg (Past · r.kind) conf).mpr past

theorem over_attempt {q : ReceiverId} {port : Nat} {answer : Attempt} (other : r ≠ q) (ended : Over g r) :
    Over (attempt g q port answer) r := by
  refine ended.imp (fun finished => ?_) fun past => ?_
  · unfold Finished
    rwa [attempt_receiver, if_neg other]
  · rcases attempt_conf g q port answer r.task with kept | ⟨put, _⟩
    · exact (congrArg (Past · r.kind) kept).mpr past
    · exact (congrArg (Past · r.kind) put).mpr past

theorem over_closed {a : Addr} {act : Pipeline.Act} (taken : Pipeline.step (g.conf a) act = some next)
    (closing : closer g (.conf a act) = some r) : Over (after g a act next) r := by
  obtain ⟨k, closes, rfl⟩ := Option.map_eq_some_iff.mp closing
  have conf : (after g a act next).conf a = next := put_same g a next
  refine (closes_over taken closes).imp (fun finished => ?_) fun past => ?_
  · exact (congrArg (fun s : Pipeline.State => (s.chan k).receiver.pc) conf).trans finished
  · exact (congrArg (Past · k) conf).mpr past

theorem launched_after {a : Addr} {act : Pipeline.Act} (launched : ∀ b, Launched (g.conf b))
    (taken : Pipeline.step (g.conf a) act = some next) (b : Addr) : Launched ((after g a act next).conf b) := by
  by_cases here : b = a
  · subst here
    exact (congrArg Launched (put_same g b next)).mpr (Pipeline.launched_step (launched b) taken)
  · exact (congrArg Launched (put_elsewhere g next here)).mpr (launched b)

theorem holding_step (holding : Holding g r) (respects : Respects r g act) (stepped : step g act = some h) :
    Holding h r := by
  obtain ⟨launched, created, holds⟩ := holding
  have still := (touches_step created stepped).1
  cases step_acts stepped with
  | tryInit q port answer idle =>
    have other : r ≠ q := by
      rintro rfl
      exact created idle
    exact ⟨launched_attempt launched q port answer, still, holds.imp (over_attempt other) (owns_attempt other)⟩
  | conf a act next taken =>
    refine ⟨launched_after launched taken, still, ?_⟩
    by_cases closing : closer g (.conf a act) = some r
    · exact Or.inl (over_closed taken closing)
    · refine holds.imp (over_after (launched a) taken) fun owns => ?_
      unfold Owns
      rw [socket_after taken]
      exact owns_elsewhere respects closing owns

/-- From where a receiver runs with its socket and no `stop()` was called, the socket stays the receiver's own
until its thread ends or a `quit()` closes it, and no longer, as long as no other receiver closes that handle. -/
theorem owns_until_closed (memory : Addr → Kind → Int) (before rest : List Act) (g h : State) (r : ReceiverId)
    (reached : Run.run step (initial memory) before = some g) (created : (g.receiver r).pc ≠ .idle)
    (untold : (g.conf r.task).stops = []) (owns : Owns g r) (ran : Run.run step g rest = some h)
    (respects : Run.Meets step (Respects r) g rest) : Owns h r ↔ ¬ Over h r := by
  have none : ¬ PastClose g r := by
    rintro ⟨made, member, _⟩
    rw [untold] at member
    cases member
  have closed : Closed g r := ⟨created, fun ended => finished_lost memory reached r (ended.resolve_right none)⟩
  have holding : Holding g r := ⟨launched_reached reached, created, Or.inr owns⟩
  have all := Run.always_of_meets (I := fun g => Closed g r ∧ Holding g r)
    (fun _ _ _ inv respects stepped => ⟨closed_step inv.1 stepped, holding_step inv.2 respects stepped⟩)
    ⟨closed, holding⟩ respects
  obtain ⟨closed, holding⟩ := Run.always_last all ran
  exact ⟨fun owns ended => closed.lost ended owns, fun open' => holding.holds.resolve_left open'⟩

/-- `quit()` closes the video receiver's socket while its thread still waits. -/
theorem video_lost_in_quit : ∃ g h, Run.run step (initial fun _ _ => 0) created = some g ∧
    Run.run step g [.conf 0 .callStop, .conf 0 (.stop 0), .conf 0 (.stop 0), .conf 0 (.stop 0)] = some h ∧
      ¬ Owns h ⟨0, .video⟩ := by
  obtain ⟨g, reached, owns, waiting, untold, h, ran, stops, check⟩ :
      ∃ g, Run.run step (initial fun _ _ => 0) created = some g ∧ Owns g ⟨0, .video⟩ ∧
        (g.receiver ⟨0, .video⟩).pc = .waiting ∧ (g.conf 0).stops = [] ∧
        ∃ h, Run.run step g [.conf 0 .callStop, .conf 0 (.stop 0), .conf 0 (.stop 0), .conf 0 (.stop 0)] = some h ∧
          (h.conf 0).stops = [3] ∧ Run.check step (Respects ⟨0, .video⟩) g
            [.conf 0 .callStop, .conf 0 (.stop 0), .conf 0 (.stop 0), .conf 0 (.stop 0)] = true :=
    ⟨_, rfl, rfl, rfl, rfl, _, rfl, rfl, rfl⟩
  refine ⟨g, h, reached, ran, fun still => ?_⟩
  refine (owns_until_closed (fun _ _ => 0) created _ g h ⟨0, .video⟩ reached ?_ untold owns ran
    (Run.meets_of_check check)).mp still (Or.inr ⟨3, stops ▸ List.mem_singleton_self 3, by decide⟩)
  rw [waiting]
  nofun

end GstGateway.Gateway
