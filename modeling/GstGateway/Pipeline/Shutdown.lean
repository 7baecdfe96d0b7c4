import GstGateway.Foundation.Fair
import GstGateway.Pipeline.LostQuit
import GstGateway.Pipeline.Waiting

/-! A `stop()` that finds both main loops running and both receivers past their waiting loops ends all
four threads, whatever else goes on, where the system lets every thread that can go on do so. -/

namespace GstGateway.Pipeline

open Fair

def loopAt (k : Kind) : Nat := (entrypoint k).idxOf .loopRun

theorem loopRun_at {k : Kind} {pc : Nat} : (entrypoint k)[pc]? = some .loopRun ↔ pc = loopAt k := by
  have all : ∀ pc < (entrypoint k).length, ∀ op ∈ (entrypoint k)[pc]?, op = .loopRun → pc = loopAt k := by
    cases k <;> decide
  constructor
  · exact fun there => Straight.forall_at all there rfl
  · rintro rfl
    cases k <;> rfl

theorem unchecked_late {k : Kind} {pc : Nat} {op : Op} (there : (entrypoint k)[pc]? = some op)
    (late : loopAt k ≤ pc) : checked op = false := by
  have all : ∀ pc < (entrypoint k).length, ∀ op ∈ (entrypoint k)[pc]?, loopAt k ≤ pc → checked op = false := by
    cases k <;> decide
  exact Straight.forall_at all there late

/-- The processor's thread is on its way out: told to leave its main loop, or past it. -/
def Told (k : Kind) (c : Channel) : Prop :=
  match c.processor with
  | .idle => False
  | .running pc => loopAt k < pc ∨ (pc = loopAt k ∧ c.inRun = true ∧ c.loop = .loop false)
  | .ended ret => ret = 0

def Playing (k : Kind) (c : Channel) : Prop :=
  c.processor = .running (loopAt k) ∧ c.inRun = true ∧ c.loop = .loop true

def InLoop (k : Kind) (c : Channel) : Prop := Playing k c ∨ Told k c

/-- The receiver has left the loop that waits for the flag. -/
def Away (c : Channel) : Prop := c.receiver.pc ≠ .idle ∧ c.receiver.pc ≠ .waiting

theorem told_running {k : Kind} {c : Channel} {pc : Nat} (now : c.processor = .running pc) :
    Told k c ↔ loopAt k < pc ∨ (pc = loopAt k ∧ c.inRun = true ∧ c.loop = .loop false) := by
  unfold Told
  rw [now]

theorem told_created {k : Kind} {c : Channel} (told : Told k c) : c.processor ≠ .idle := by
  intro idle
  unfold Told at told
  rw [idle] at told
  exact told

theorem inLoop_created {k : Kind} {c : Channel} (inLoop : InLoop k c) : c.processor ≠ .idle := by
  rcases inLoop with ⟨now, _⟩ | told
  · rw [now]
    nofun
  · exact told_created told

theorem inLoop_late {k : Kind} {c : Channel} {pc : Nat} (inLoop : InLoop k c) (now : c.processor = .running pc) :
    loopAt k ≤ pc ∧ (pc = loopAt k → c.inRun = true) := by
  rcases inLoop with ⟨here, inRun, _⟩ | told
  · rw [here] at now
    cases now
    exact ⟨Nat.le_refl _, fun _ => inRun⟩
  · rcases (told_running now).mp told with past | ⟨here, inRun, _⟩
    · exact ⟨Nat.le_of_lt past, fun same => absurd same (Nat.ne_of_gt past)⟩
    · exact ⟨Nat.le_of_eq here.symm, fun _ => inRun⟩

/-- From within the main loop on the thread only goes forward: no statement there is checked. -/
theorem inLoop_ran {k : Kind} {c next : Channel} {exited : Bool} (inLoop : InLoop k c)
    (moved : Ran k c next exited) : Told k next ∧ exited = false := by
  cases moved with
  | goOn pc op now there other =>
    exact ⟨(told_running rfl).mpr (Or.inl (Nat.lt_succ_of_le (inLoop_late inLoop now).1)), rfl⟩
  | enter pc running now there made outside =>
    have inside := (inLoop_late inLoop now).2 (loopRun_at.mp there)
    rw [outside] at inside
    cases inside
  | leave pc now there inside =>
    exact ⟨(told_running rfl).mpr (Or.inl (Nat.lt_succ_of_le (inLoop_late inLoop now).1)), rfl⟩
  | leaveHelper pc op now there check | giveUp pc op now there check | exitProcess pc op now there check =>
    rw [unchecked_late there (inLoop_late inLoop now).1] at check
    cases check
  | finish pc now past => exact ⟨rfl, rfl⟩

theorem inLoop_quit {k : Kind} {c : Channel} (inLoop : InLoop k c) : Told k (quit c) := by
  rcases inLoop with ⟨now, inRun, running⟩ | told
  · refine (told_running (c := quit c) now).mpr (Or.inr ⟨rfl, inRun, ?_⟩)
    simp [quit, running, MainLoop.quit]
  · cases now : c.processor with
    | idle => exact absurd now (told_created told)
    | ended ret =>
      unfold Told at told ⊢
      rw [now] at told
      simpa [quit, now] using told
    | running pc =>
      refine (told_running (c := quit c) now).mpr (((told_running now).mp told).imp_right ?_)
      rintro ⟨here, inRun, clear⟩
      exact ⟨here, inRun, by simp [quit, clear, MainLoop.quit]⟩

theorem told_evolves {k : Kind} {c next : Channel} (told : Told k c) (evolves : Evolves k c next) :
    Told k next := by
  cases evolves with
  | receiverStarts idle early => exact absurd early (told_created told)
  | processorStarts idle late => exact absurd idle (told_created told)
  | quits => exact inLoop_quit (Or.inr told)
  | deactivated => exact told
  | ran next exited moved => exact (inLoop_ran (Or.inr told) moved).1
  | received ret receiver moved => exact told

theorem inLoop_evolves {k : Kind} {c next : Channel} (inLoop : InLoop k c) (evolves : Evolves k c next) :
    InLoop k next := by
  cases evolves with
  | receiverStarts idle early => exact absurd early (inLoop_created inLoop)
  | processorStarts idle late => exact absurd idle (inLoop_created inLoop)
  | quits => exact Or.inr (inLoop_quit inLoop)
  | deactivated => exact inLoop
  | ran next exited moved => exact Or.inr (inLoop_ran inLoop moved).1
  | received ret receiver moved => exact inLoop

theorem away_evolves {k : Kind} {c next : Channel} (away : Away c) (evolves : Evolves k c next) : Away next := by
  cases evolves with
  | receiverStarts idle early => exact absurd idle away.1
  | ran next exited moved =>
    unfold Away
    rw [(ran_threads moved).2]
    exact away
  | received ret receiver moved =>
    obtain ⟨pc, leads, rfl⟩ := UdpReceiver.threadStep_cases moved
    exact ⟨(UdpReceiver.nextPc_created leads).2, fun waits => away.2 ((UdpReceiver.nextPc_waiting leads).mp waits).1⟩
  | processorStarts idle late => exact away
  | quits => exact away
  | deactivated => exact away

theorem inactive_evolves {k : Kind} {c next : Channel} (inactive : c.receiver.active = false)
    (evolves : Evolves k c next) : next.receiver.active = false := by
  cases evolves with
  | ran next exited moved =>
    cases moved with
    | goOn pc op now there other => cases op <;> exact inactive
    | _ => exact inactive
  | received ret receiver moved =>
    obtain ⟨pc, leads, rfl⟩ := UdpReceiver.threadStep_cases moved
    exact inactive
  | deactivated => rfl
  | _ => exact inactive

/-! ### The state while a `stop()` is under way -/

structure Winding (s : State) : Prop where
  launched : Launched s
  alive : s.exited = false
  inside : ∀ k, Inside k (s.chan k)
  inLoop : ∀ k, InLoop k (s.chan k)
  away : ∀ k, Away (s.chan k)

theorem exited_step {s t : State} {act : Act} (alive : s.exited = false) (inLoop : ∀ k, InLoop k (s.chan k))
    (h : step s act = some t) : t.exited = false := by
  cases step_moves h with
  | processor k ok c exited moved => exact (inLoop_ran (inLoop k) (processorStep_ran moved)).2
  | _ => exact alive

theorem winding_step {s t : State} {act : Act} (winding : Winding s) (h : step s act = some t) : Winding t where
  launched := launched_step winding.launched h
  alive := exited_step winding.alive winding.inLoop h
  inside := chan_invariant winding.launched (fun _ _ _ inside evolves => inside_evolves inside evolves)
    winding.inside h
  inLoop := chan_invariant winding.launched (fun _ _ _ inLoop evolves => inLoop_evolves inLoop evolves)
    winding.inLoop h
  away := chan_invariant (I := fun _ c => Away c) winding.launched
    (fun _ _ _ away evolves => away_evolves away evolves) winding.away h

/-- What `stop()` number `i` has done so far. -/
def Asked (i : Nat) (s : State) : Prop :=
  ∃ made, s.stops[i]? = some made ∧ made ≤ stop.length ∧ ∀ k,
    (quitAt k < made → Told k (s.chan k)) ∧ (quitAt k + 1 < made → (s.chan k).receiver.active = false)

/-- No other action touches the count of a `stop()`. -/
theorem stops_step {s t : State} {act : Act} {i made : Nat} (now : s.stops[i]? = some made)
    (h : step s act = some t) : t.stops[i]? = some made ∨
      ∃ k call, act = .stop i ∧ stop[made]? = some (k, call) ∧
        t = { s with stops := s.stops.set i (made + 1) }.put k (request (s.chan k) call) := by
  cases step_moves h with
  | callStop =>
    refine Or.inl ?_
    rw [List.getElem?_append_left (List.getElem?_eq_some_iff.mp now).1]
    exact now
  | stop j other k call there next =>
    by_cases same : j = i
    · subst same
      rw [now] at there
      cases there
      exact Or.inr ⟨k, call, rfl, next, rfl⟩
    · refine Or.inl ?_
      rw [put_stops, List.getElem?_set_ne same]
      exact now
  | _ => exact Or.inl now

/-- A call that some `stop()` has made stays made. -/
theorem late_set {s : State} {i made n : Nat} (now : s.stops[i]? = some made) (late : ∃ m ∈ s.stops, n < m) :
    ∃ m ∈ s.stops.set i (made + 1), n < m := by
  obtain ⟨m, member, more⟩ := late
  obtain ⟨j, there⟩ := List.mem_iff_getElem?.mp member
  by_cases same : j = i
  · subst same
    rw [now] at there
    cases there
    exact ⟨made + 1, List.mem_set (List.getElem?_eq_some_iff.mp now).1 _, Nat.lt_succ_of_lt more⟩
  · exact ⟨m, List.mem_of_getElem? ((List.getElem?_set_ne (Ne.symm same)).trans there), more⟩

theorem stop_at {n : Nat} {k : Kind} {call : StopCall} (there : stop[n]? = some (k, call)) (j : Kind) :
    (quitAt j = n → j = k ∧ call = .quit) ∧ (quitAt j + 1 = n → j = k ∧ call = .deactivate) := by
  rcases n with _ | _ | _ | _ | _ | _ | n <;> cases there <;> cases j <;> decide

theorem asked_step {s t : State} {act : Act} {i : Nat} (winding : Winding s) (asked : Asked i s)
    (h : step s act = some t) : Asked i t := by
  obtain ⟨made, now, bounded, done⟩ := asked
  have told : ∀ k, Told k (s.chan k) → Told k (t.chan k) := fun k told => by
    rcases chan_evolves winding.launched h k with same | evolves
    · exact same ▸ told
    · exact told_evolves told evolves
  have inactive : ∀ k, (s.chan k).receiver.active = false → (t.chan k).receiver.active = false :=
    fun k inactive => by
      rcases chan_evolves winding.launched h k with same | evolves
      · exact same ▸ inactive
      · exact inactive_evolves inactive evolves
  rcases stops_step now h with kept | ⟨k, call, rfl, next, rfl⟩
  · exact ⟨made, kept, bounded, fun j =>
      ⟨fun past => told j ((done j).1 past), fun past => inactive j ((done j).2 past)⟩⟩
  · have inside := (List.getElem?_eq_some_iff.mp now).1
    refine ⟨made + 1, List.getElem?_set_self inside, (List.getElem?_eq_some_iff.mp next).1, fun j =>
      ⟨fun past => ?_, fun past => ?_⟩⟩
    · -- Either the quit was made before, or this is it.
      by_cases before : quitAt j < made
      · exact told j ((done j).1 before)
      · obtain ⟨rfl, rfl⟩ := (stop_at next j).1 (by omega)
        rw [put_self]
        exact inLoop_quit (winding.inLoop j)
    · by_cases before : quitAt j + 1 < made
      · exact inactive j ((done j).2 before)
      · obtain ⟨rfl, rfl⟩ := (stop_at next j).2 (by omega)
        rw [put_self]
        rfl

/-! ### Who can go on -/

def ProcessorReady (k : Kind) (s : State) : Prop := ∃ ok t, step s (.processor k ok) = some t

/-- A receiver blocked in `recvfrom` goes on once its socket is closed. Until then only a datagram could
wake it, and nobody owes it one. -/
def ReceiverReady (k : Kind) (s : State) : Prop :=
  (∃ ret t, step s (.receiver k ret) = some t) ∧
    ((s.chan k).receiver.pc = .receiving → ∃ made ∈ s.stops, closeAt k < made)

def StopReady (i : Nat) (s : State) : Prop := ∃ t, step s (.stop i) = some t

structure Scheduled (r : Trace step) : Prop where
  processors : ∀ k, Serves r (ProcessorReady k) fun act => ∃ ok, act = .processor k ok
  receivers : ∀ k, Serves r (ReceiverReady k) fun act => ∃ ret, act = .receiver k ret
  stops : ∀ i, Serves r (StopReady i) fun act => act = .stop i

/-! ### `stop()` comes to its end -/

def callsLeft (i : Nat) (s : State) : Nat := stop.length - (s.stops[i]?).getD 0

theorem stop_made {s t : State} {i made : Nat} (now : s.stops[i]? = some made) (h : step s (.stop i) = some t) :
    made < stop.length ∧ t.stops[i]? = some (made + 1) := by
  cases step_moves h with
  | stop _ other k call there next =>
    rw [now] at there
    cases there
    exact ⟨(List.getElem?_eq_some_iff.mp next).1, List.getElem?_set_self (List.getElem?_eq_some_iff.mp now).1⟩

theorem callsLeft_at {s : State} {i made : Nat} (now : s.stops[i]? = some made) :
    callsLeft i s = stop.length - made := by
  simp [callsLeft, now]

theorem stop_finishes {r : Trace step} (scheduled : Scheduled r) {i n : Nat}
    (start : Winding (r.state n) ∧ Asked i (r.state n)) :
    ∃ m, n ≤ m ∧ (Winding (r.state m) ∧ Asked i (r.state m)) ∧ (r.state m).stops[i]? = some stop.length := by
  have preserve : ∀ s act t, Winding s ∧ Asked i s → step s act = some t → Winding t ∧ Asked i t :=
    fun s act t holds h => ⟨winding_step holds.1 h, asked_step holds.1 holds.2 h⟩
  have down : ∀ s act t, Winding s ∧ Asked i s → act = .stop i → step s act = some t →
      callsLeft i t < callsLeft i s := by
    rintro s _ t ⟨_, made, now, _⟩ rfl h
    obtain ⟨more, next⟩ := stop_made now h
    rw [callsLeft_at now, callsLeft_at next]
    omega
  have level : ∀ s act t, Winding s ∧ Asked i s → step s act = some t → callsLeft i t ≤ callsLeft i s := by
    rintro s act t ⟨winding, made, now, rest⟩ h
    rcases stops_step now h with kept | ⟨k, call, mine, _⟩
    · rw [callsLeft_at now, callsLeft_at kept]
    · exact Nat.le_of_lt (down s act t ⟨winding, made, now, rest⟩ mine h)
  have ready : ∀ s, Winding s ∧ Asked i s → s.stops[i]? ≠ some stop.length → StopReady i s := by
    rintro s ⟨winding, made, now, bounded, _⟩ unfinished
    have more : made < stop.length := by
      refine Nat.lt_of_le_of_ne bounded fun same => unfinished ?_
      rw [now, same]
    obtain ⟨t, taken, _⟩ := stop_step winding.alive now more
    exact ⟨t, taken⟩
  obtain ⟨m, later, done⟩ := reaches (G := fun s => s.stops[i]? = some stop.length) preserve level
    (fun s act t holds _ => down s act t holds) ready (scheduled.stops i) start
  exact ⟨m, later, trace_keeps preserve start later, done⟩

/-- All six calls of a `stop()` are made. -/
structure Stopped (i : Nat) (s : State) : Prop extends Winding s where
  made : s.stops[i]? = some stop.length
  told : ∀ k, Told k (s.chan k)
  inactive : ∀ k, (s.chan k).receiver.active = false

theorem stopped_step {s t : State} {act : Act} {i : Nat} (stopped : Stopped i s) (h : step s act = some t) :
    Stopped i t where
  toWinding := winding_step stopped.toWinding h
  made := by
    rcases stops_step stopped.made h with kept | ⟨k, call, _, next, _⟩
    · exact kept
    · cases next
  told := chan_invariant stopped.launched (fun _ _ _ told evolves => told_evolves told evolves) stopped.told h
  inactive := chan_invariant (I := fun _ c => c.receiver.active = false) stopped.launched
    (fun _ _ _ inactive evolves => inactive_evolves inactive evolves) stopped.inactive h

theorem stopped_of_asked {s : State} {i : Nat} (winding : Winding s) (asked : Asked i s)
    (done : s.stops[i]? = some stop.length) : Stopped i s := by
  obtain ⟨made, now, _, did⟩ := asked
  rw [done] at now
  cases now
  refine ⟨winding, done, fun k => (did k).1 ?_, fun k => (did k).2 ?_⟩
  · cases k <;> decide
  · cases k <;> decide

/-! ### The processors' threads end -/

def statementsLeft (k : Kind) (c : Channel) : Nat :=
  match c.processor with
  | .running pc => (entrypoint k).length - pc + 1
  | .idle | .ended _ => 0

theorem left_running {k : Kind} {c : Channel} {pc : Nat} (now : c.processor = .running pc) :
    statementsLeft k c = (entrypoint k).length - pc + 1 := by
  unfold statementsLeft
  rw [now]

theorem told_left {k : Kind} {c next : Channel} {exited : Bool} (told : Told k c) (moved : Ran k c next exited) :
    statementsLeft k next < statementsLeft k c := by
  have forward : ∀ {pc op}, c.processor = .running pc → (entrypoint k)[pc]? = some op →
      next.processor = .running (pc + 1) → statementsLeft k next < statementsLeft k c := by
    intro pc op now there after
    have inside := (List.getElem?_eq_some_iff.mp there).1
    rw [left_running now, left_running after]
    omega
  cases moved with
  | goOn pc op now there other => exact forward now there rfl
  | leave pc now there inside => exact forward now there rfl
  | enter pc running now there made outside =>
    have inside := (inLoop_late (Or.inr told) now).2 (loopRun_at.mp there)
    rw [outside] at inside
    cases inside
  | leaveHelper pc op now there check | giveUp pc op now there check | exitProcess pc op now there check =>
    rw [unchecked_late there (inLoop_late (Or.inr told) now).1] at check
    cases check
  | finish pc now past =>
    rw [left_running now]
    exact Nat.succ_pos _

theorem evolves_left {k : Kind} {c next : Channel} (told : Told k c) (evolves : Evolves k c next) :
    statementsLeft k next ≤ statementsLeft k c := by
  cases evolves with
  | receiverStarts idle early => exact absurd early (told_created told)
  | processorStarts idle late => exact absurd idle (told_created told)
  | ran next exited moved => exact Nat.le_of_lt (told_left told moved)
  | quits => exact Nat.le_refl _
  | deactivated => exact Nat.le_refl _
  | received ret receiver moved => exact Nat.le_refl _

theorem processorStep_op {k : Kind} {c : Channel} {pc : Nat} {op : Op} (now : c.processor = .running pc)
    (there : (entrypoint k)[pc]? = some op) (ok : Bool) : processorStep k c ok = execute c pc op ok := by
  simp only [processorStep, now, there]

theorem execute_checked {c : Channel} {pc : Nat} {op : Op} (other : op ≠ .loopRun) (ok : Bool) :
    ∃ next, execute c pc op ok = some next := by
  unfold execute
  rw [if_neg other]
  cases control c op ok <;> exact ⟨_, rfl⟩

/-- A processor's thread is blocked nowhere but in a main loop that runs. -/
theorem processorStep_moves {k : Kind} {c : Channel} {pc : Nat} (now : c.processor = .running pc) (ok : Bool)
    (free : ¬ Looping c) : ∃ next, processorStep k c ok = some next := by
  cases there : (entrypoint k)[pc]? with
  | none =>
    simp only [processorStep, now, there]
    exact ⟨_, rfl⟩
  | some op =>
    rw [processorStep_op now there]
    by_cases loopRun : op = .loopRun
    · subst loopRun
      have moves : ∃ next, runLoop c pc = some next := by
        unfold runLoop
        split
        · exact ⟨_, rfl⟩
        · rename_i running inRun
          exact absurd ⟨inRun, running⟩ free
        · exact ⟨_, rfl⟩
      obtain ⟨next, moved⟩ := moves
      exact ⟨(next, false), by simp [execute, moved]⟩
    · exact execute_checked loopRun ok

theorem told_ready {s : State} {k : Kind} (alive : s.exited = false) (told : Told k (s.chan k))
    (inside : Inside k (s.chan k)) (unfinished : (s.chan k).processor ≠ .ended 0) : ProcessorReady k s := by
  have moves : ∃ next, processorStep k (s.chan k) true = some next := by
    cases now : (s.chan k).processor with
    | idle => exact absurd now (told_created told)
    | ended ret =>
      unfold Told at told
      rw [now] at told unfinished
      exact absurd (congrArg Processor.ended told) unfinished
    | running pc =>
      refine processorStep_moves now true fun ⟨inRun, running⟩ => ?_
      rcases (told_running now).mp told with past | ⟨_, _, clear⟩
      · have here := inside inRun
        rw [nextOp_running now] at here
        exact absurd (loopRun_at.mp here) (Nat.ne_of_gt past)
      · rw [clear] at running
        cases running
  obtain ⟨⟨next, exited⟩, moved⟩ := moves
  refine ⟨true, { s with exited }.put k next, ?_⟩
  simp [step, alive, moved]

theorem processor_ends {r : Trace step} (scheduled : Scheduled r) {i n : Nat} (stopped : Stopped i (r.state n))
    (k : Kind) : ∃ m, n ≤ m ∧ ((r.state m).chan k).processor = .ended 0 :=
  reaches (I := Stopped i) (G := fun s => (s.chan k).processor = .ended 0)
    (μ := fun s => statementsLeft k (s.chan k)) (fun _ _ _ stopped h => stopped_step stopped h)
    (fun s act t stopped h => by
      rcases chan_evolves stopped.launched h k with same | evolves
      · rw [same]
      · exact evolves_left (stopped.told k) evolves)
    (fun s act t stopped _ ⟨ok, mine⟩ h => by
      subst mine
      cases step_moves h with
      | processor _ _ c exited moved =>
        rw [put_self]
        exact told_left (stopped.told k) (processorStep_ran moved))
    (fun s stopped unfinished => told_ready stopped.alive (stopped.told k) (stopped.inside k) unfinished)
    (scheduled.processors k) stopped

/-! ### The receivers' threads end -/

def turnsLeft (c : Channel) : Nat :=
  match c.receiver.pc with
  | .receiving => 4
  | .pushing => 3
  | .testing => 2
  | .closing => 1
  | .idle | .waiting | .finished => 0

theorem inactive_left {c : Channel} {ret : Int} {receiver : UdpReceiver} (inactive : c.receiver.active = false)
    (away : Away c) (moved : c.receiver.threadStep ret = some receiver) :
    turnsLeft { c with receiver } < turnsLeft c := by
  obtain ⟨pc, leads, rfl⟩ := UdpReceiver.threadStep_cases moved
  unfold UdpReceiver.nextPc at leads
  unfold turnsLeft
  cases now : c.receiver.pc <;> simp only [now] at leads ⊢ <;> cases leads
  case waiting => exact absurd now away.2
  case testing => simp [inactive]
  case receiving => by_cases long : ret > 10 <;> simp [long]
  case pushing | closing => decide

theorem evolves_turns {k : Kind} {c next : Channel} (inactive : c.receiver.active = false) (away : Away c)
    (evolves : Evolves k c next) : turnsLeft next ≤ turnsLeft c := by
  cases evolves with
  | receiverStarts idle early => exact absurd idle away.1
  | ran next exited moved =>
    unfold turnsLeft
    rw [(ran_threads moved).2]
  | received ret receiver moved => exact Nat.le_of_lt (inactive_left inactive away moved)
  | processorStarts idle late => exact Nat.le_refl _
  | quits => exact Nat.le_refl _
  | deactivated => exact Nat.le_refl _

theorem receiver_ready {s : State} {i : Nat} {k : Kind} (stopped : Stopped i s)
    (unfinished : (s.chan k).receiver.pc ≠ .finished) : ReceiverReady k s := by
  refine ⟨?_, fun _ => ⟨stop.length, List.mem_of_getElem? stopped.made, ?_⟩⟩
  · have moves : ∃ receiver, (s.chan k).receiver.threadStep 0 = some receiver := by
      unfold UdpReceiver.threadStep UdpReceiver.nextPc
      cases now : (s.chan k).receiver.pc with
      | idle => exact absurd now (stopped.away k).1
      | finished => exact absurd now unfinished
      | _ => exact ⟨_, rfl⟩
    obtain ⟨receiver, moved⟩ := moves
    refine ⟨0, s.put k { s.chan k with receiver }, ?_⟩
    simp [step, stopped.alive, moved]
  · cases k <;> decide

theorem receiver_ends {r : Trace step} (scheduled : Scheduled r) {i n : Nat} (stopped : Stopped i (r.state n))
    (k : Kind) : ∃ m, n ≤ m ∧ ((r.state m).chan k).receiver.pc = .finished :=
  reaches (I := Stopped i) (G := fun s => (s.chan k).receiver.pc = .finished)
    (μ := fun s => turnsLeft (s.chan k)) (fun _ _ _ stopped h => stopped_step stopped h)
    (fun s act t stopped h => by
      rcases chan_evolves stopped.launched h k with same | evolves
      · rw [same]
      · exact evolves_turns (stopped.inactive k) (stopped.away k) evolves)
    (fun s act t stopped _ ⟨ret, mine⟩ h => by
      subst mine
      cases step_moves h with
      | receiver _ _ receiver moved =>
        rw [put_self]
        exact inactive_left (stopped.inactive k) (stopped.away k) moved)
    (fun s stopped unfinished => receiver_ready stopped unfinished) (scheduled.receivers k) stopped

/-! ### After the first half of `quit()` -/

def Pushes (k : Kind) (s : State) (act : Act) : Prop :=
  (∃ ret, act = .receiver k ret) ∧ (s.chan k).receiver.pc = .pushing

/-- The datagrams a receiver may still hand on once `active` is clear. -/
def pushesLeft (c : Channel) : Nat :=
  match c.receiver.pc with
  | .receiving | .pushing => 1
  | .idle | .waiting | .testing | .closing | .finished => 0

theorem inactive_pushes {c : Channel} {ret : Int} {receiver : UdpReceiver} (inactive : c.receiver.active = false)
    (moved : c.receiver.threadStep ret = some receiver) :
    pushesLeft { c with receiver } ≤ pushesLeft c ∧
      (c.receiver.pc = .pushing → pushesLeft { c with receiver } < pushesLeft c) := by
  obtain ⟨pc, leads, rfl⟩ := UdpReceiver.threadStep_cases moved
  unfold UdpReceiver.nextPc at leads
  unfold pushesLeft
  cases now : c.receiver.pc <;> simp only [now] at leads ⊢ <;> cases leads
  case waiting => cases c.receiver.syncFlag <;> simp
  case testing => simp [inactive]
  case receiving => by_cases long : ret > 10 <;> simp [long]
  case pushing | closing => simp

theorem evolves_pushes {k : Kind} {c next : Channel} (inactive : c.receiver.active = false)
    (evolves : Evolves k c next) : pushesLeft next ≤ pushesLeft c := by
  cases evolves with
  | receiverStarts idle early => exact Nat.zero_le _
  | ran next exited moved =>
    unfold pushesLeft
    rw [(ran_threads moved).2]
  | received ret receiver moved => exact (inactive_pushes inactive moved).1
  | processorStarts idle late => exact Nat.le_refl _
  | quits => exact Nat.le_refl _
  | deactivated => exact Nat.le_refl _

/-- Once a receiver's `active` is clear it hands on one more datagram at most, whatever the other threads
and the senders do. -/
theorem one_more_push (memory : Kind → Int) (before after : List Act) (s : State) (k : Kind)
    (reached : Run.run step (initial memory) before = some s) (inactive : (s.chan k).receiver.active = false) :
    Run.tally step (Pushes k) s after ≤ 1 := by
  have sound : Sound memory s :=
    Run.run_invariant (fun _ _ _ sound h => sound_step sound h) (sound_initial memory) reached
  have few : pushesLeft (s.chan k) ≤ 1 := by
    unfold pushesLeft
    split <;> decide
  refine Nat.le_trans (Run.tally_le (I := fun s => Launched s ∧ (s.chan k).receiver.active = false)
    (μ := fun s => pushesLeft (s.chan k)) ?_ ?_ ?_ ⟨sound.launched, inactive⟩) few
  · rintro s act t ⟨launched, inactive⟩ h
    refine ⟨launched_step launched h, ?_⟩
    rcases chan_evolves launched h k with same | evolves
    · rw [same]
      exact inactive
    · exact inactive_evolves inactive evolves
  · rintro s act t ⟨launched, inactive⟩ h
    rcases chan_evolves launched h k with same | evolves
    · rw [same]
    · exact evolves_pushes inactive evolves
  · rintro s act t ⟨launched, inactive⟩ ⟨⟨ret, rfl⟩, pushing⟩ h
    cases step_moves h with
    | receiver _ _ receiver moved =>
      rw [put_self]
      exact (inactive_pushes inactive moved).2 pushing

/-- The receiver is in `recvfrom` when `quit()` clears its `active`. -/
def quitWhileReceiving : List Act :=
  List.replicate 4 .launch ++ List.replicate 51 (.processor .video true) ++
    [.receiver .video 0, .receiver .video 0, .callStop, .stop 0, .stop 0]

/-- The one datagram that may follow does follow where `recvfrom` returns it. -/
theorem push_after_quit : ∃ s, Run.run step (initial fun _ => 0) quitWhileReceiving = some s ∧
    0 < Run.tally step (Pushes .video) s [.receiver .video 100, .receiver .video 0] ∧
    Run.tally step (Pushes .video) s [.receiver .video 100, .receiver .video 0] ≤ 1 := by
  obtain ⟨s, reached, inactive, t, u, ran, pushing, taken⟩ : ∃ s,
      Run.run step (initial fun _ => 0) quitWhileReceiving = some s ∧ (s.chan .video).receiver.active = false ∧
      ∃ t u, Run.run step s [.receiver .video 100] = some t ∧ (t.chan .video).receiver.pc = .pushing ∧
        step t (.receiver .video 0) = some u := ⟨_, rfl, rfl, _, _, rfl, rfl, rfl⟩
  have pushes : 0 < Run.tally step (Pushes .video) s ([.receiver .video 100] ++ [.receiver .video 0]) :=
    Run.tally_pos ran ⟨⟨0, rfl⟩, pushing⟩ taken
  refine ⟨s, reached, pushes, ?_⟩
  exact one_more_push (fun _ => 0) quitWhileReceiving _ s .video reached inactive

/-! ### The whole conference ends -/

/-- Both threads of the channel have returned, and the pipeline's with 0. -/
def Over (c : Channel) : Prop := c.processor = .ended 0 ∧ c.receiver.pc = .finished

theorem ended_evolves {k : Kind} {c next : Channel} (ended : c.processor = .ended 0)
    (evolves : Evolves k c next) : next.processor = .ended 0 := by
  cases evolves with
  | processorStarts idle late => rw [ended] at idle; cases idle
  | ran next exited moved =>
    obtain ⟨pc, now⟩ := ran_running moved
    rw [ended] at now
    cases now
  | _ => exact ended

theorem finished_evolves {k : Kind} {c next : Channel} (finished : c.receiver.pc = .finished)
    (evolves : Evolves k c next) : next.receiver.pc = .finished := by
  cases evolves with
  | receiverStarts idle early => rw [finished] at idle; cases idle
  | ran next exited moved =>
    rw [(ran_threads moved).2]
    exact finished
  | received ret receiver moved =>
    obtain ⟨pc, leads, rfl⟩ := UdpReceiver.threadStep_cases moved
    simp only [UdpReceiver.nextPc, finished] at leads
    cases leads
  | _ => exact finished

/-- A fact about channels that lasts once it holds holds of all of them from some time on. -/
theorem all_last {r : Trace step} {P : Kind → Channel → Prop} {n : Nat} (launched : Launched (r.state n))
    (lasts : ∀ k c next, P k c → Evolves k c next → P k next)
    (each : ∀ k, ∃ m, n ≤ m ∧ P k ((r.state m).chan k)) :
    ∃ m, n ≤ m ∧ ∀ j, m ≤ j → ∀ k, P k ((r.state j).chan k) := by
  have kept : ∀ k m, n ≤ m → P k ((r.state m).chan k) → ∀ j, m ≤ j → P k ((r.state j).chan k) := by
    intro k m later holds j after
    have created := trace_keeps (fun _ _ _ launched h => launched_step launched h) launched later
    refine (trace_keeps (I := fun s => Launched s ∧ P k (s.chan k)) ?_ ⟨created, holds⟩ after).2
    rintro s act t ⟨launched, holds⟩ h
    refine ⟨launched_step launched h, ?_⟩
    rcases chan_evolves launched h k with same | evolves
    · rw [same]
      exact holds
    · exact lasts k _ _ holds evolves
  obtain ⟨m, later, video⟩ := each .video
  obtain ⟨m', later', audio⟩ := each .audio
  refine ⟨max m m', Nat.le_trans later (Nat.le_max_left _ _), fun j after k => ?_⟩
  cases k with
  | video => exact kept .video m later video j (Nat.le_trans (Nat.le_max_left _ _) after)
  | audio => exact kept .audio m' later' audio j (Nat.le_trans (Nat.le_max_right _ _) after)

theorem stopped_ends {r : Trace step} (scheduled : Scheduled r) {i n : Nat} (stopped : Stopped i (r.state n)) :
    ∃ m, n ≤ m ∧ ∀ j, m ≤ j → ∀ k, Over ((r.state j).chan k) := by
  obtain ⟨m, later, ended⟩ := all_last (P := fun _ c => c.processor = .ended 0) stopped.launched
    (fun _ _ _ ended evolves => ended_evolves ended evolves) (processor_ends scheduled stopped)
  obtain ⟨m', later', finished⟩ := all_last (P := fun _ c => c.receiver.pc = .finished) stopped.launched
    (fun _ _ _ finished evolves => finished_evolves finished evolves) (receiver_ends scheduled stopped)
  refine ⟨max m m', Nat.le_trans later (Nat.le_max_left _ _), fun j after k => ⟨?_, ?_⟩⟩
  · exact ended j (Nat.le_trans (Nat.le_max_left _ _) after) k
  · exact finished j (Nat.le_trans (Nat.le_max_right _ _) after) k

/-- A thread inside `g_main_loop_run` stands at that statement, in a loop that exists. -/
theorem inLoop_of_inRun {memory : Kind → Int} {s : State} (entered : Entered memory s) {k : Kind}
    (inRun : (s.chan k).inRun = true) : InLoop k (s.chan k) := by
  have position := entered.inside k inRun
  obtain ⟨running, made⟩ := loopRun_live (entered.follows k) position
  cases now : (s.chan k).processor with
  | idle | ended ret => simp [nextOp, now] at position
  | running pc =>
    rw [nextOp_running now] at position
    obtain rfl := loopRun_at.mp position
    cases running with
    | true => exact Or.inl ⟨now, inRun, made⟩
    | false => exact Or.inr ((told_running now).mpr (Or.inr ⟨rfl, inRun, made⟩))

/-- Where `stop()` is called on a conference whose main loops both run and whose receivers are both past
their waiting loops, all four threads return, and the pipelines' threads return 0. -/
theorem stop_ends_conference (memory : Kind → Int) (r : Trace step) (start : r.state 0 = initial memory)
    (scheduled : Scheduled r) (n : Nat) (called : r.act n = some .callStop)
    (playing : ∀ k, ((r.state n).chan k).inRun = true ∧ Away ((r.state n).chan k)) :
    ∃ m, n ≤ m ∧ ∀ j, m ≤ j → ∀ k, Over ((r.state j).chan k) := by
  obtain ⟨as, ran⟩ := trace_reachable r n
  rw [start] at ran
  have entered : Entered memory (r.state n) :=
    Run.run_invariant (fun _ _ _ entered h => entered_step entered h) (entered_initial memory) ran
  have taken : step (r.state n) .callStop = some (r.state (n + 1)) := by
    rcases r.moves n with ⟨idle, _⟩ | ⟨act, acts, taken⟩
    · rw [called] at idle
      cases idle
    · rw [called] at acts
      cases acts
      exact taken
  have alive : (r.state n).exited = false := by
    by_contra exited
    simp [step, exited] at taken
  have winding : Winding (r.state n) := ⟨entered.launched, alive, entered.inside,
    fun k => inLoop_of_inRun entered (playing k).1, fun k => (playing k).2⟩
  have asked : Asked (r.state n).stops.length (r.state (n + 1)) := by
    generalize r.state (n + 1) = next at taken ⊢
    cases step_moves taken
    exact ⟨0, List.getElem?_concat_length, Nat.zero_le _, fun k =>
      ⟨fun made => absurd made (Nat.not_lt_zero _), fun made => absurd made (Nat.not_lt_zero _)⟩⟩
  obtain ⟨m, later, ⟨winding, asked⟩, done⟩ := stop_finishes scheduled ⟨winding_step winding taken, asked⟩
  obtain ⟨m', later', ended⟩ := stopped_ends scheduled (stopped_of_asked winding asked done)
  exact ⟨m', by omega, ended⟩

/-- Both pipelines play, and both receivers have seen the flag. -/
def bothPlaying : List Act :=
  List.replicate 4 .launch ++ List.replicate 51 (.processor .video true) ++
    List.replicate 44 (.processor .audio true) ++ [.receiver .video 0, .receiver .audio 0]

def stopWhilePlaying : List Act :=
  bothPlaying ++ .callStop :: (List.replicate 6 (.stop 0) ++ List.replicate 6 (.processor .video true) ++
    List.replicate 6 (.processor .audio true) ++ List.replicate 2 (.receiver .video 0) ++
    List.replicate 2 (.receiver .audio 0))

theorem scheduled_ofRun {s t : State} {acts : List Act} (ran : Run.run step s acts = some t)
    (ended : ∀ k, Over (t.chan k)) (made : ∀ (i made : Nat), t.stops[i]? = some made → made = stop.length) :
    Scheduled (ofRun ran) where
  processors k := ofRun_serves ran fun ⟨ok, u, taken⟩ => by
    cases step_moves taken with
    | processor _ _ c exited moved =>
      simp only [processorStep, (ended k).1] at moved
      cases moved
  receivers k := ofRun_serves ran fun ⟨⟨ret, u, taken⟩, _⟩ => by
    cases step_moves taken with
    | receiver _ _ receiver moved =>
      simp only [UdpReceiver.threadStep, UdpReceiver.nextPc, (ended k).2] at moved
      cases moved
  stops i := ofRun_serves ran fun ⟨u, taken⟩ => by
    cases step_moves taken with
    | stop _ count k call now next =>
      rw [made i count now] at next
      cases next

set_option maxRecDepth 4096 in
theorem stop_while_playing : ∃ r : Trace step, r.state 0 = initial (fun _ => 0) ∧ Scheduled r ∧
    r.act bothPlaying.length = some .callStop ∧
    ∃ m, bothPlaying.length ≤ m ∧ ∀ j, m ≤ j → ∀ k, Over ((r.state j).chan k) := by
  obtain ⟨u, played, video, audio⟩ : ∃ u, Run.run step (initial fun _ => 0) bothPlaying = some u ∧
      ((u.chan .video).inRun = true ∧ (u.chan .video).receiver.pc = .testing) ∧
      (u.chan .audio).inRun = true ∧ (u.chan .audio).receiver.pc = .testing := ⟨_, rfl, ⟨rfl, rfl⟩, rfl, rfl⟩
  obtain ⟨t, ran, videoOver, audioOver, stops⟩ : ∃ t, Run.run step (initial fun _ => 0) stopWhilePlaying = some t ∧
      Over (t.chan .video) ∧ Over (t.chan .audio) ∧ t.stops = [6] := ⟨_, rfl, ⟨rfl, rfl⟩, ⟨rfl, rfl⟩, rfl⟩
  have scheduled : Scheduled (ofRun ran) := by
    refine scheduled_ofRun ran (fun k => by cases k <;> assumption) fun i made there => ?_
    rw [stops] at there
    rcases i with _ | i <;> cases there
    rfl
  have called : (ofRun ran).act bothPlaying.length = some .callStop := by
    change stopWhilePlaying[bothPlaying.length]? = some .callStop
    rw [stopWhilePlaying, List.getElem?_append_right (Nat.le_refl _), Nat.sub_self]
    rfl
  have here : (ofRun ran).state bothPlaying.length = u := ofRun_at ran played
  refine ⟨ofRun ran, rfl, scheduled, called, ?_⟩
  refine stop_ends_conference (fun _ => 0) (ofRun ran) rfl scheduled bothPlaying.length called fun k => ?_
  rw [here]
  cases k with
  | video => exact ⟨video.1, by rw [Away, video.2]; exact ⟨nofun, nofun⟩⟩
  | audio => exact ⟨audio.1, by rw [Away, audio.2]; exact ⟨nofun, nofun⟩⟩

end GstGateway.Pipeline
