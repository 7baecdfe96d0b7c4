import GstGateway.Foundation.Simulation
import GstGateway.Pipeline.Handoff
import GstGateway.Receiver.Buffers

/-! The threads of a conference with the bytes they move. The threads by themselves know of a datagram only
what `recvfrom` returns, and the loop over the datagrams by itself is never interrupted. Here any step of the
other threads may fall between `recvfrom` and `receivePushBuffer`. -/

namespace GstGateway.Delivery

/-- The locals of a receiver's `start()`, and what its compositor made of them. -/
structure Line where
  recvBuf : RecvBuf := .zero
  ret : Int := -1
  gst : Gst := {}

structure State where
  threads : Pipeline.State
  line : Kind → Line := fun _ => {}
  /-- A push went to an entry of `appSrcs` that was never written, or into a pipeline that was released. -/
  undefined : Bool := false

def initial (memory : Kind → Int) : State := { threads := Pipeline.initial memory }

inductive Act where
  /-- `recvfrom` returns with a datagram. -/
  | datagram (k : Kind) (d : Datagram)
  /-- `recvfrom` returns `SOCKET_ERROR`. -/
  | socketError (k : Kind)
  | other (act : Pipeline.Act)

def State.pc (g : State) (k : Kind) : ReceiverPc := (g.threads.chan k).receiver.pc

def Line.receive (l : Line) (d : Datagram) : Line :=
  let received := recvfrom l.recvBuf d
  { l with ret := received.1, recvBuf := received.2 }

/-- `sp[0]`. -/
def Line.type (l : Line) : UInt8 := l.recvBuf.bytes.headD 0

/-- `receivePushBuffer(rtpStartPoint, ret - 10, sp[0])`. -/
def Line.push (k : Kind) (l : Line) : Line :=
  { l with gst := receivePushBuffer k l.gst (l.recvBuf.bytes.drop 10) (l.ret - 10) l.type }

/-- The entry of `appSrcs` that a buffer of the type is pushed to holds a source of a pipeline that is still
held. A buffer of unknown type goes nowhere. -/
def Reaches (c : Pipeline.Channel) (type : UInt8) : Prop :=
  ∀ i ∈ sourceOf type, (i : Int) ∈ c.appSrcs ∧ c.unrefs = 0

instance (c : Pipeline.Channel) (type : UInt8) : Decidable (Reaches c type) :=
  inferInstanceAs (Decidable (∀ i ∈ sourceOf type, (i : Int) ∈ c.appSrcs ∧ c.unrefs = 0))

def State.returned (g : State) (k : Kind) (l : Line) (threads : Pipeline.State) : State :=
  { g with threads, line := Function.update g.line k l }

/-- `recvfrom` returns, and `l` is what it leaves. -/
def State.returns (g : State) (k : Kind) (l : Line) : Option State :=
  if g.pc k = .receiving then (Pipeline.step g.threads (.receiver k l.ret)).map (g.returned k l) else none

def isReturn (g : State) : Pipeline.Act → Prop
  | .receiver k _ => g.pc k = .receiving
  | _ => False

instance (g : State) (act : Pipeline.Act) : Decidable (isReturn g act) := by
  unfold isReturn
  split <;> infer_instance

def State.moved (g : State) (act : Pipeline.Act) (threads : Pipeline.State) : State :=
  match act with
  | .receiver k _ =>
    if g.pc k = .pushing then
      if Reaches (g.threads.chan k) (g.line k).type then g.returned k ((g.line k).push k) threads
      else { g with threads, undefined := true }
    else { g with threads }
  | _ => { g with threads }

/-- After a push that is undefined nothing more is known. -/
def step (g : State) (act : Act) : Option State :=
  if g.undefined then none
  else
    match act with
    | .datagram k d => g.returns k ((g.line k).receive d)
    | .socketError k => g.returns k { g.line k with ret := -1 }
    | .other act => if isReturn g act then none else (Pipeline.step g.threads act).map (g.moved act)

/-- What the threads by themselves see of a step. -/
def State.threadAct (g : State) : Act → Pipeline.Act
  | .datagram k d => .receiver k (recvfrom (g.line k).recvBuf d).1
  | .socketError k => .receiver k (-1)
  | .other act => act

inductive Takes (g : State) : Act → State → Prop where
  | datagram (k : Kind) (d : Datagram) (threads : Pipeline.State) (blocked : g.pc k = .receiving)
      (taken : Pipeline.step g.threads (.receiver k (recvfrom (g.line k).recvBuf d).1) = some threads) :
      Takes g (.datagram k d) (g.returned k ((g.line k).receive d) threads)
  | socketError (k : Kind) (threads : Pipeline.State) (blocked : g.pc k = .receiving)
      (taken : Pipeline.step g.threads (.receiver k (-1)) = some threads) :
      Takes g (.socketError k) (g.returned k { g.line k with ret := -1 } threads)
  | push (k : Kind) (ret : Int) (threads : Pipeline.State) (pushing : g.pc k = .pushing)
      (taken : Pipeline.step g.threads (.receiver k ret) = some threads)
      (reaches : Reaches (g.threads.chan k) (g.line k).type) :
      Takes g (.other (.receiver k ret)) (g.returned k ((g.line k).push k) threads)
  | lost (k : Kind) (ret : Int) (threads : Pipeline.State) (pushing : g.pc k = .pushing)
      (taken : Pipeline.step g.threads (.receiver k ret) = some threads)
      (missed : ¬ Reaches (g.threads.chan k) (g.line k).type) :
      Takes g (.other (.receiver k ret)) { g with threads, undefined := true }
  | other (act : Pipeline.Act) (threads : Pipeline.State) (taken : Pipeline.step g.threads act = some threads)
      (elsewhere : ∀ k ret, act = .receiver k ret → g.pc k ≠ .receiving ∧ g.pc k ≠ .pushing) :
      Takes g (.other act) { g with threads }

variable {g h : State} {act : Act} {k : Kind} {s t : Pipeline.State}

theorem returns_some {l : Line} (returned : g.returns k l = some h) :
    g.pc k = .receiving ∧ ∃ threads, Pipeline.step g.threads (.receiver k l.ret) = some threads ∧
      g.returned k l threads = h := by
  unfold State.returns at returned
  split at returned
  · rename_i blocked
    exact ⟨blocked, Option.map_eq_some_iff.mp returned⟩
  · cases returned

theorem moved_takes {act : Pipeline.Act} {threads : Pipeline.State} (free : ¬ isReturn g act)
    (taken : Pipeline.step g.threads act = some threads) : Takes g (.other act) (g.moved act threads) := by
  cases act with
  | receiver k ret =>
    unfold State.moved
    dsimp only
    split
    · rename_i pushing
      split
      · rename_i reaches
        exact .push k ret threads pushing taken reaches
      · rename_i missed
        exact .lost k ret threads pushing taken missed
    · rename_i still
      refine .other _ threads taken fun j ret' same => ?_
      cases same
      exact ⟨free, still⟩
  | _ => exact .other _ threads taken fun k ret same => by cases same

theorem step_takes (stepped : step g act = some h) : g.undefined = false ∧ Takes g act h := by
  unfold step at stepped
  split at stepped
  · cases stepped
  · rename_i fine
    refine ⟨Bool.not_eq_true _ ▸ fine, ?_⟩
    cases act with
    | datagram k d =>
      obtain ⟨blocked, threads, taken, rfl⟩ := returns_some stepped
      exact .datagram k d threads blocked taken
    | socketError k =>
      obtain ⟨blocked, threads, taken, rfl⟩ := returns_some stepped
      exact .socketError k threads blocked taken
    | other act =>
      dsimp only at stepped
      split at stepped
      · cases stepped
      · rename_i free
        obtain ⟨threads, taken, rfl⟩ := Option.map_eq_some_iff.mp stepped
        exact moved_takes free taken

theorem step_threads (stepped : step g act = some h) :
    Pipeline.step g.threads (g.threadAct act) = some h.threads := by
  cases (step_takes stepped).2 <;> assumption

/-! ### Where the receiver stands -/

/-- The receiver is where it was, or was created. -/
def Undisturbed (s : Pipeline.State) (k : Kind) (c : Pipeline.Channel) : Prop :=
  c.receiver.pc = (s.chan k).receiver.pc ∨ (s.chan k).receiver.pc = .idle ∧ c.receiver.pc = .waiting

theorem undisturbed_step {act : Pipeline.Act} (launched : Pipeline.Launched s)
    (taken : Pipeline.step s act = some t) (k : Kind) (others : ∀ ret, act ≠ .receiver k ret) :
    Undisturbed s k (t.chan k) := by
  have put : ∀ {u : Pipeline.State} {j : Kind} {c : Pipeline.Channel}, u.chan = s.chan → (j = k → Undisturbed s j c) →
      Undisturbed s k ((u.put j c).chan k) := by
    intro u j c same mine
    by_cases here : j = k
    · subst here
      rw [Pipeline.put_self]
      exact mine rfl
    · rw [Pipeline.put_other u c (Ne.symm here), same]
      exact Or.inl rfl
  cases Pipeline.step_moves taken with
  | launch j thread created =>
    refine put rfl fun _ => ?_
    cases thread with
    | processor => exact Or.inl rfl
    | receiver => exact Or.inr ⟨(launched j .receiver).mpr (Nat.le_of_eq (Pipeline.start_at.mp created)), rfl⟩
  | callStop => exact Or.inl rfl
  | stop i made j call now calls =>
    refine put rfl fun _ => Or.inl ?_
    cases call <;> rfl
  | processor j ok c exited moved =>
    exact put rfl fun _ => Or.inl (Pipeline.ran_threads (Pipeline.processorStep_ran moved)).2
  | receiver j ret receiver moved => exact put rfl fun mine => absurd (mine ▸ rfl) (others ret)
  | endOfStream j => exact put rfl fun _ => Or.inl rfl

theorem pushing_other {act : Pipeline.Act} (launched : Pipeline.Launched s) (taken : Pipeline.step s act = some t)
    (others : ∀ ret, act ≠ .receiver k ret) :
    (t.chan k).receiver.pc = .pushing ↔ (s.chan k).receiver.pc = .pushing := by
  rcases undisturbed_step launched taken k others with same | ⟨idle, waiting⟩
  · rw [same]
  · rw [idle, waiting]
    exact iff_of_false nofun nofun

theorem receiver_step {ret : Int} (taken : Pipeline.step s (.receiver k ret) = some t) :
    (s.chan k).receiver.nextPc ret = some (t.chan k).receiver.pc := by
  cases Pipeline.step_moves taken with
  | receiver j ret receiver moved =>
    obtain ⟨pc, leads, rfl⟩ := UdpReceiver.threadStep_cases moved
    rw [Pipeline.put_self]
    exact leads

/-! ### One line, as the loop by itself -/

/-- The datagrams `ds` have come, and the line is where the loop is after them; one that is still to be pushed
has only been read. -/
structure Tracks (k : Kind) (g : State) (ds : List Datagram) : Prop where
  launched : Pipeline.Launched g.threads
  buf : (g.line k).recvBuf = (UdpReceiver.start k .zero ds).recvBuf
  settled : g.pc k ≠ .pushing → (g.line k).gst = (UdpReceiver.start k .zero ds).gst
  pending : g.pc k = .pushing → (g.line k).gst = (UdpReceiver.start k .zero ds.dropLast).gst ∧
    ((g.line k).push k).gst = (UdpReceiver.start k .zero ds).gst

theorem start_snoc (k : Kind) (buf : RecvBuf) (ds : List Datagram) (d : Datagram) :
    UdpReceiver.start k buf (ds ++ [d]) = UdpReceiver.receive k (UdpReceiver.start k buf ds) d :=
  List.foldl_append ..

theorem tracks_other {ds : List Datagram} (tracks : Tracks k g ds) (launched : Pipeline.Launched h.threads)
    (same : h.line k = g.line k) (pushing : h.pc k = .pushing ↔ g.pc k = .pushing) : Tracks k h ds := by
  obtain ⟨_, buf, settled, pending⟩ := tracks
  rw [← same] at buf settled pending
  exact ⟨launched, buf, fun other => settled (mt pushing.mpr other), fun here => pending (pushing.mp here)⟩

/-- `recvfrom` returns a datagram. -/
theorem tracks_datagram {ds : List Datagram} {d : Datagram} {threads : Pipeline.State} (tracks : Tracks k g ds)
    (blocked : g.pc k = .receiving)
    (taken : Pipeline.step g.threads (.receiver k (recvfrom (g.line k).recvBuf d).1) = some threads) :
    Tracks k (g.returned k ((g.line k).receive d) threads) (ds ++ [d]) := by
  have gst := tracks.settled (by rw [blocked]; nofun)
  have next := UdpReceiver.nextPc_pushing (receiver_step taken)
  have here : (g.returned k ((g.line k).receive d) threads).line k = (g.line k).receive d := Function.update_self ..
  have loop := start_snoc k .zero ds d
  refine ⟨Pipeline.launched_step tracks.launched taken, ?_, fun settled => ?_, fun pending => ⟨?_, ?_⟩⟩
  · rw [here, loop]
    exact congrArg (fun buf => (recvfrom buf d).2) tracks.buf
  · have short : ¬ (recvfrom (g.line k).recvBuf d).1 > 10 := fun long => settled (next.mpr ⟨blocked, long⟩)
    rw [here, loop]
    rw [tracks.buf] at short
    exact gst.trans (if_neg short).symm
  · rw [here, List.dropLast_concat]
    exact gst
  · have long := (next.mp pending).2
    rw [here, loop]
    simp only [Line.push, Line.receive, UdpReceiver.receive, gst]
    rw [tracks.buf] at long ⊢
    exact (if_pos long).symm

/-- The push. -/
theorem tracks_push {ds : List Datagram} {ret : Int} {threads : Pipeline.State} (tracks : Tracks k g ds)
    (pushing : g.pc k = .pushing) (taken : Pipeline.step g.threads (.receiver k ret) = some threads) :
    Tracks k (g.returned k ((g.line k).push k) threads) ds := by
  have settled : (threads.chan k).receiver.pc ≠ .pushing := by
    intro again
    have received := ((UdpReceiver.nextPc_pushing (receiver_step taken)).mp again).1
    cases pushing.symm.trans received
  have here : (g.returned k ((g.line k).push k) threads).line k = (g.line k).push k := Function.update_self ..
  refine ⟨Pipeline.launched_step tracks.launched taken, ?_, fun _ => ?_, fun pending => absurd pending settled⟩
  · exact (congrArg Line.recvBuf here).trans tracks.buf
  · exact (congrArg Line.gst here).trans (tracks.pending pushing).2

/-- A step that neither returns from `recvfrom` nor pushes leaves the receiver away from the push. -/
theorem pushing_elsewhere {act : Pipeline.Act} (launched : Pipeline.Launched s)
    (taken : Pipeline.step s act = some t)
    (elsewhere : ∀ ret, act = .receiver k ret → (s.chan k).receiver.pc ≠ .receiving ∧
      (s.chan k).receiver.pc ≠ .pushing) :
    (t.chan k).receiver.pc = .pushing ↔ (s.chan k).receiver.pc = .pushing := by
  by_cases mine : ∃ ret, act = .receiver k ret
  · obtain ⟨ret, rfl⟩ := mine
    obtain ⟨free, still⟩ := elsewhere ret rfl
    exact iff_of_false (fun pushing => free ((UdpReceiver.nextPc_pushing (receiver_step taken)).mp pushing).1) still
  · exact pushing_other launched taken fun ret same => mine ⟨ret, same⟩

def arrived (k : Kind) : Act → List Datagram
  | .datagram j d => if j = k then [d] else []
  | .socketError _ | .other _ => []

def collect (ds : List Datagram) (d : Datagram) : Option (List Datagram) := some (ds ++ [d])

theorem collect_run (ds more : List Datagram) : Run.run collect ds more = some (ds ++ more) := by
  induction more generalizing ds with
  | nil => exact congrArg some (List.append_nil ds).symm
  | cons d more ih => exact (ih (ds ++ [d])).trans (congrArg some (List.append_assoc ..))

theorem tracks_step (k : Kind) : Simulation.Answers step collect (fun _ => arrived k)
    fun g ds => g.undefined = false → Tracks k g ds := by
  intro g act h ds tracks stepped
  obtain ⟨fine, takes⟩ := step_takes stepped
  have tracks := tracks fine
  have others : ∀ {j : Kind} {ret : Int} {l : Line} {threads : Pipeline.State}, j ≠ k →
      Pipeline.step g.threads (.receiver j ret) = some threads → Tracks k (g.returned j l threads) ds := by
    intro j ret l threads other taken
    refine tracks_other tracks (Pipeline.launched_step tracks.launched taken)
      (Function.update_of_ne (Ne.symm other) ..) (pushing_other tracks.launched taken fun _ same => ?_)
    cases same
    exact other rfl
  cases takes with
  | datagram j d threads blocked taken =>
    by_cases mine : j = k
    · subst mine
      exact ⟨ds ++ [d], by simp [arrived, Run.run, collect], fun _ => tracks_datagram tracks blocked taken⟩
    · exact ⟨ds, by simp [arrived, mine, Run.run], fun _ => others mine taken⟩
  | socketError j threads blocked taken =>
    refine ⟨ds, rfl, fun _ => ?_⟩
    by_cases mine : j = k
    · subst mine
      have here : (g.returned j { g.line j with ret := -1 } threads).line j = { g.line j with ret := -1 } :=
        Function.update_self ..
      have next := UdpReceiver.nextPc_pushing (receiver_step taken)
      refine ⟨Pipeline.launched_step tracks.launched taken, ?_, fun _ => ?_,
        fun pushing => absurd (next.mp pushing).2 (by decide)⟩
      · exact (congrArg Line.recvBuf here).trans tracks.buf
      · exact (congrArg Line.gst here).trans (tracks.settled (by rw [blocked]; nofun))
    · exact others mine taken
  | push j ret threads pushing taken reaches =>
    refine ⟨ds, rfl, fun _ => ?_⟩
    by_cases mine : j = k
    · subst mine
      exact tracks_push tracks pushing taken
    · exact others mine taken
  | lost j ret threads pushing taken missed => exact ⟨ds, rfl, fun defined => by cases defined⟩
  | other act threads taken elsewhere =>
    exact ⟨ds, rfl, fun _ => tracks_other tracks (Pipeline.launched_step tracks.launched taken) rfl
      (pushing_elsewhere tracks.launched taken (elsewhere k))⟩

theorem tracks_initial (memory : Kind → Int) (k : Kind) : Tracks k (initial memory) [] where
  launched := (Pipeline.sound_initial memory).launched
  buf := rfl
  settled := fun _ => rfl
  pending := nofun

/-- The datagrams of a run whose handling is over: all that have come, but one that is read and not yet pushed. -/
def handled (k : Kind) (g : State) (acts : List Act) : List Datagram :=
  if g.pc k = .pushing then (acts.flatMap (arrived k)).dropLast else acts.flatMap (arrived k)

/-- Whatever the other threads do in between: as long as every push is defined, a conference's compositors have
made of the datagrams that came what the receive loop makes of them undisturbed. -/
theorem gst_as_alone {memory : Kind → Int} {acts : List Act} (ran : Run.run step (initial memory) acts = some g)
    (defined : g.undefined = false) (k : Kind) :
    (g.line k).gst = (UdpReceiver.start k .zero (handled k g acts)).gst := by
  obtain ⟨ds, collected, tracks⟩ := Simulation.answers_run (tracks_step k) (fun _ => tracks_initial memory k) ran
  rw [Simulation.images_const ran, collect_run, List.nil_append] at collected
  cases collected
  unfold handled
  split
  · rename_i pushing
    exact ((tracks defined).pending pushing).1
  · rename_i settled
    exact (tracks defined).settled settled

/-! ### The sources -/

/-- The sources were stored one after the other, from the first value of `appSrcCount` on. -/
structure Stored (first : Int) (c : Pipeline.Channel) : Prop where
  count : c.appSrcCount = first + c.appSrcs.length
  indices : c.appSrcs = (List.range c.appSrcs.length).map fun i : Nat => first + i

theorem stored_effect {first : Int} {c : Pipeline.Channel} (op : Op) (stored : Stored first c) :
    Stored first (Pipeline.effect c op) ∧ c.appSrcs <+: (Pipeline.effect c op).appSrcs := by
  obtain ⟨count, indices⟩ := stored
  cases op with
  | createAppSrc check =>
    refine ⟨⟨?_, ?_⟩, List.prefix_append _ _⟩
    · simp [Pipeline.effect, count, Int.add_assoc]
    · simp only [Pipeline.effect, List.length_append, List.length_singleton, List.range_succ, List.map_append,
        List.map_singleton, ← indices, ← count]
  | _ => exact ⟨⟨count, indices⟩, List.prefix_refl _⟩

theorem stored_evolves {first : Int} {c next : Pipeline.Channel} (stored : Stored first c)
    (evolves : Pipeline.Evolves k c next) : Stored first next ∧ c.appSrcs <+: next.appSrcs := by
  have same : ∀ {other : Pipeline.Channel}, other.appSrcCount = c.appSrcCount → other.appSrcs = c.appSrcs →
      Stored first other ∧ c.appSrcs <+: other.appSrcs := by
    intro other count indices
    refine ⟨⟨?_, ?_⟩, indices ▸ List.prefix_refl _⟩
    · rw [count, indices]
      exact stored.count
    · rw [indices]
      exact stored.indices
  cases evolves with
  | ran next exited moved =>
    cases moved with
    | goOn pc op now there other =>
      obtain ⟨after, more⟩ := stored_effect op stored
      exact ⟨⟨after.count, after.indices⟩, more⟩
    | _ => exact same rfl rfl
  | _ => exact same rfl rfl

theorem stored_step {memory : Kind → Int} {act : Pipeline.Act} (launched : Pipeline.Launched s)
    (stored : ∀ k, Stored (memory k) (s.chan k)) (taken : Pipeline.step s act = some t) (k : Kind) :
    Stored (memory k) (t.chan k) ∧ (s.chan k).appSrcs <+: (t.chan k).appSrcs := by
  rcases Pipeline.chan_evolves launched taken k with same | evolves
  · rw [same]
    exact ⟨stored k, List.prefix_refl _⟩
  · exact stored_evolves (stored k) evolves

/-- Where the four sources stand at the indices 0 to 3 and nothing came before them, the `n`-th stands at `n`. -/
theorem stored_at {c : Pipeline.Channel} (stored : Stored 0 c) (populated : Pipeline.Populated c) (n : Fin 4) :
    c.appSrcs[(n : Nat)]? = some (n : Int) := by
  have listed : (n : Int) ∈ c.appSrcs := populated n (by revert n; decide)
  rw [stored.indices] at listed ⊢
  obtain ⟨i, inside, same⟩ := List.mem_map.mp listed
  have here : i = n := by omega
  subst here
  simp [List.getElem?_range (List.mem_range.mp inside)]

/-! ### Pushes that meet a live pipeline -/

/-- The step hands over, as the threads by themselves do. -/
def HandsOver (memory : Kind → Int) (g : State) (act : Act) : Prop :=
  Pipeline.HandsOver memory g.threads (g.threadAct act)

instance (memory : Kind → Int) (g : State) (act : Act) : Decidable (HandsOver memory g act) := by
  unfold HandsOver Pipeline.HandsOver
  split <;> infer_instance

/-- Every push so far has reached its source, and where there was one the sources are in place. -/
structure Sound (memory : Kind → Int) (g : State) : Prop where
  witnessed : Pipeline.Witnessed memory g.threads
  safe : Pipeline.Safe g.threads
  defined : g.undefined = false
  stored : ∀ k, Stored (memory k) (g.threads.chan k)
  placed : ∀ k, (g.line k).gst.pushed ≠ [] → memory k = 0 ∧ Pipeline.Populated (g.threads.chan k)

theorem pushing_placed {memory : Kind → Int} (sound : Sound memory g) (pushing : g.pc k = .pushing) :
    memory k = 0 ∧ Pipeline.Populated (g.threads.chan k) := by
  obtain ⟨populated, _, held⟩ := sound.safe k pushing
  have ready := Pipeline.passed_ready (sound.witnessed.follows k) (sound.witnessed.passed k)
    (fun idle => by cases pushing.symm.trans idle) (fun waiting => by cases pushing.symm.trans waiting) held
  exact ⟨ready.2.mp populated, populated⟩

theorem pushing_reaches {memory : Kind → Int} (sound : Sound memory g) (pushing : g.pc k = .pushing) (type : UInt8) :
    Reaches (g.threads.chan k) type := by
  obtain ⟨populated, _, held⟩ := sound.safe k pushing
  intro i found
  have small := (sourceOf_eq_some.mp found).1
  refine ⟨populated i ?_, held⟩
  simp only [List.mem_cons, List.not_mem_nil, or_false]
  omega

theorem populated_mono {c next : Pipeline.Channel} (more : c.appSrcs <+: next.appSrcs)
    (populated : Pipeline.Populated c) : Pipeline.Populated next :=
  fun i four => more.subset (populated i four)

theorem sound_step {memory : Kind → Int} (sound : Sound memory g) (handsOver : HandsOver memory g act)
    (stepped : step g act = some h) : Sound memory h := by
  have taken := step_threads stepped
  have stores := stored_step sound.witnessed.launched sound.stored taken
  have kept : ∀ k, memory k = 0 ∧ Pipeline.Populated (g.threads.chan k) →
      memory k = 0 ∧ Pipeline.Populated (h.threads.chan k) :=
    fun k before => before.imp_right (populated_mono (stores k).2)
  have written : ∀ (j : Kind) (l : Line), (l.gst.pushed ≠ [] → memory j = 0 ∧ Pipeline.Populated (g.threads.chan j)) →
      ∀ k, (Function.update g.line j l k).gst.pushed ≠ [] →
        memory k = 0 ∧ Pipeline.Populated (h.threads.chan k) := by
    intro j l mine k some
    by_cases here : k = j
    · subst here
      rw [Function.update_self] at some
      exact kept k (mine some)
    · rw [Function.update_of_ne here] at some
      exact kept k (sound.placed k some)
  obtain ⟨defined, placed⟩ : h.undefined = false ∧
      ∀ k, (h.line k).gst.pushed ≠ [] → memory k = 0 ∧ Pipeline.Populated (h.threads.chan k) := by
    cases (step_takes stepped).2 with
    | datagram j d threads blocked moved => exact ⟨sound.defined, written j _ (sound.placed j)⟩
    | socketError j threads blocked moved => exact ⟨sound.defined, written j _ (sound.placed j)⟩
    | push j ret threads pushing moved reaches =>
      exact ⟨sound.defined, written j _ fun _ => pushing_placed sound pushing⟩
    | lost j ret threads pushing moved missed => exact absurd (pushing_reaches sound pushing _) missed
    | other act threads moved elsewhere => exact ⟨sound.defined, fun k some => kept k (sound.placed k some)⟩
  exact ⟨Pipeline.witnessed_step sound.witnessed taken,
    (Pipeline.safe_step sound.witnessed sound.safe taken).mpr handsOver, defined, fun k => (stores k).1, placed⟩

theorem sound_initial (memory : Kind → Int) : Sound memory (initial memory) where
  witnessed := Pipeline.witnessed_initial memory
  safe := fun _ pushing => by cases pushing
  defined := rfl
  stored := fun _ => ⟨(Int.add_zero _).symm, rfl⟩
  placed := fun _ some => absurd rfl some

/-- What the source that was created as the `n`-th was handed, at whatever index it is stored. -/
def State.handedTo (g : State) (k : Kind) (n : Nat) : List (List UInt8) :=
  (((g.threads.chan k).appSrcs[n]?).bind Int.toNat?).elim [] (g.line k).gst.sentTo

theorem handedTo_eq {memory : Kind → Int} (sound : Sound memory g) (k : Kind) (n : Fin 4) :
    g.handedTo k n = (g.line k).gst.sentTo n := by
  by_cases none : (g.line k).gst.pushed = []
  · have nothing : ∀ i, (g.line k).gst.sentTo i = [] := fun i => by simp [Gst.sentTo, Gst.sent, none]
    unfold State.handedTo
    rw [nothing]
    cases ((g.threads.chan k).appSrcs[(n : Nat)]?).bind Int.toNat? with
    | none => rfl
    | some i => exact nothing i
  · obtain ⟨zero, populated⟩ := sound.placed k none
    have stored := sound.stored k
    rw [zero] at stored
    unfold State.handedTo
    rw [stored_at stored populated n]
    rfl

/-- Where every datagram is received while the pipeline is held, by a compositor whose counter started at 0, and no
pipeline is dropped in the middle of a push: whatever else the other threads do in between, no push is undefined,
and each source has been handed exactly the payloads that are meant for it. -/
theorem delivered_as_alone (memory : Kind → Int) (acts : List Act) (g : State)
    (handsOver : Run.Meets step (HandsOver memory) (initial memory) acts)
    (ran : Run.run step (initial memory) acts = some g) (k : Kind) :
    g.undefined = false ∧
      (∀ n : Fin 4, g.handedTo k n = ((handled k g acts).filter (Meant n)).map (List.drop 10)) ∧
      Accounted ((handled k g acts).countP (Unknown ·)) (g.line k).gst := by
  have sound : Sound memory g :=
    Run.always_last (Run.always_of_meets (fun _ _ _ sound met stepped => sound_step sound met stepped)
      (sound_initial memory) handsOver) ran
  have same := gst_as_alone ran sound.defined k
  refine ⟨sound.defined, fun n => ?_, ?_⟩
  · rw [handedTo_eq sound, same]
    exact (demultiplexed k .zero _).1 n
  · rw [same]
    exact start_accounted k .zero _

def tinyDatagram : Datagram := '0'.toUInt8 :: List.replicate 9 0 ++ [7]

/-- A `stop()` comes between the receipt of a datagram and its push. -/
def stoppedInBetween : List Act :=
  List.replicate 4 (.other .launch) ++ List.replicate 49 (.other (.processor .video true)) ++
    [.other (.receiver .video 0), .other (.receiver .video 0), .datagram .video tinyDatagram, .other .callStop,
     .other (.stop 0), .other (.stop 0), .other (.receiver .video 0)]

theorem pushed_after_stop : ∃ g, Run.run step (initial fun _ => 0) stoppedInBetween = some g ∧
    (g.threads.chan .video).receiver.active = false ∧ g.handedTo .video 0 = [[7]] := by
  have handsOver : Run.Meets step (HandsOver fun _ => 0) (initial fun _ => 0) stoppedInBetween :=
    Run.meets_of_check (by rfl)
  obtain ⟨g, ran, inactive, testing⟩ : ∃ g, Run.run step (initial fun _ => 0) stoppedInBetween = some g ∧
      (g.threads.chan .video).receiver.active = false ∧ g.pc .video = .testing := ⟨_, rfl, rfl, rfl⟩
  refine ⟨g, ran, inactive, ?_⟩
  have sent := (delivered_as_alone (fun _ => 0) stoppedInBetween g handsOver ran .video).2.1 0
  have one : handled .video g stoppedInBetween = [tinyDatagram] := by
    rw [handled, testing]
    rfl
  rw [one] at sent
  exact sent.trans (by decide)

end GstGateway.Delivery
