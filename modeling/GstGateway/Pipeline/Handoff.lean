import GstGateway.Pipeline.Stages

/-! When `receivePushBuffer` runs, the compositor should have its sources, be playing and still hold
its pipeline. The flag settles the first two. It does not settle the third: the receiver tests it
before it blocks in `recvfrom`, and `entrypoint` clears it only after the pipeline is gone. -/

namespace GstGateway.Pipeline

def Populated (c : Channel) : Prop := ∀ i ∈ ([0, 1, 2, 3] : List Int), i ∈ c.appSrcs

/-- The receiver executes `receivePushBuffer` only between set-up and teardown. -/
def PushSafe (c : Channel) : Prop :=
  c.receiver.pc = .pushing → Populated c ∧ c.played = true ∧ c.unrefs = 0

/-- A datagram of more than ten bytes is received only while the pipeline is held, by a compositor
whose `appSrcCount` happened to start at 0, and the pipeline is not dropped in the middle of a push. -/
def HandsOver (memory : Kind → Int) (s : State) : Act → Prop
  | .receiver k ret => (s.chan k).receiver.pc = .receiving ∧ ret > 10 → memory k = 0 ∧ (s.chan k).unrefs = 0
  | .processor k _ => (s.chan k).receiver.pc = .pushing → nextOp k (s.chan k) ≠ some .pipelineUnref
  | _ => True

def Passed (k : Kind) (c : Channel) : Prop :=
  c.receiver.pc ≠ .idle → c.receiver.pc ≠ .waiting →
    match c.processor with
    | .idle => False
    | .running pc => (stage k pc).flagged = true
    | .ended _ => True

theorem after_flagged {st : Stage} (op : Op) (flagged : st.flagged = true) : (st.after op).flagged = true := by
  cases op <;> first | exact flagged | simp [Stage.after, flagged]

theorem passed_flagged {k : Kind} {c : Channel} {pc : Nat} (passed : Passed k c) (now : c.processor = .running pc)
    (created : c.receiver.pc ≠ .idle) (past : c.receiver.pc ≠ .waiting) : (stage k pc).flagged = true := by
  have flagged := passed created past
  rw [now] at flagged
  exact flagged

theorem passed_ran {k : Kind} {c next : Channel} {exited : Bool} (passed : Passed k c)
    (moved : Ran k c next exited) : Passed k next := by
  have receiver := (ran_threads moved).2
  intro created past
  rw [receiver] at created past
  cases moved with
  | goOn pc op now there other | leaveHelper pc op now there check =>
    have flagged := after_flagged op (passed_flagged passed now created past)
    rw [← stage_succ there] at flagged
    exact flagged
  | leave pc now there inside =>
    have flagged := after_flagged .loopRun (passed_flagged passed now created past)
    rw [← stage_succ there] at flagged
    exact flagged
  | giveUp pc op now there check => trivial
  | finish pc now past => trivial
  | enter pc running now there made outside => exact passed created past
  | exitProcess pc op now there check => exact passed created past

theorem passed_evolves {k : Kind} {first : Int} {c next : Channel} (follows : Follows k first c)
    (passed : Passed k c) (evolves : Evolves k c next) : Passed k next := by
  cases evolves with
  | receiverStarts idle early => exact fun _ past => absurd rfl past
  | processorStarts idle late =>
    intro created past
    have impossible := passed created past
    rw [idle] at impossible
    exact impossible.elim
  | quits => exact passed
  | deactivated => exact passed
  | ran next exited moved => exact passed_ran passed moved
  | received ret receiver moved =>
    obtain ⟨pc, leads, rfl⟩ := UdpReceiver.threadStep_cases moved
    intro _ past
    by_cases waits : c.receiver.pc = .waiting
    · have set : c.receiver.syncFlag = true := by
        by_contra unset
        exact past ((UdpReceiver.nextPc_waiting leads).mpr ⟨waits, Bool.eq_false_iff.mpr unset⟩)
      cases follows with
      | before idle reached => rw [reached.flag] at set; cases set
      | during pc now reached =>
        rw [reached.flag] at set
        simp only [now]
        exact stage_flag k pc set
      | after ret returned cleared dropped => rw [cleared] at set; cases set
    · exact passed (UdpReceiver.nextPc_created leads).1 waits

theorem passed_ready {k : Kind} {first : Int} {c : Channel} (follows : Follows k first c) (passed : Passed k c)
    (created : c.receiver.pc ≠ .idle) (past : c.receiver.pc ≠ .waiting) (held : c.unrefs = 0) :
    c.played = true ∧ (Populated c ↔ first = 0) := by
  cases follows with
  | before idle reached =>
    have impossible := passed created past
    rw [idle] at impossible
    exact impossible.elim
  | during pc now reached =>
    obtain ⟨played, four⟩ := stage_flagged k pc (passed_flagged passed now created past)
    refine ⟨reached.played played, ?_⟩
    rw [Populated, (reached.sources held).2, four]
    simp [List.range_succ]
    omega
  | after ret returned cleared dropped => exact absurd held (Nat.ne_of_gt dropped)

theorem effect_kept {c : Channel} {op : Op} (other : op ≠ .pipelineUnref) :
    (Populated c → Populated (effect c op)) ∧ (c.played = true → (effect c op).played = true) ∧
      (effect c op).unrefs = c.unrefs := by
  cases op with
  | createAppSrc check =>
    exact ⟨fun populated i source => List.mem_append_left _ (populated i source), id, rfl⟩
  | setPlaying => exact ⟨id, fun _ => rfl, rfl⟩
  | pipelineUnref => exact absurd rfl other
  | _ => exact ⟨id, id, rfl⟩

theorem pushSafe_ran {k : Kind} {c next : Channel} {exited : Bool} (passed : Passed k c) (safe : PushSafe c)
    (moved : Ran k c next exited) :
    PushSafe next ↔ (c.receiver.pc = .pushing → nextOp k c ≠ some .pipelineUnref) := by
  have receiver := (ran_threads moved).2
  by_cases pushing : c.receiver.pc = .pushing
  · obtain ⟨populated, played, held⟩ := safe pushing
    -- A push comes after the flag, and every check before it: none of them can fail now.
    have unchecked : ∀ pc op, c.processor = .running pc → (entrypoint k)[pc]? = some op → checked op ≠ true := by
      intro pc op now there check
      have flagged := passed_flagged passed now (by rw [pushing]; nofun) (by rw [pushing]; nofun)
      rw [(stage_checked there check).2] at flagged
      cases flagged
    cases moved with
    | goOn pc op now there other =>
      rw [nextOp_running now, there]
      by_cases release : op = .pipelineUnref
      · subst op
        exact iff_of_false (fun still => Nat.succ_ne_zero _ (still (receiver.trans pushing)).2.2)
          (fun never => never pushing rfl)
      · obtain ⟨keptSources, keptPlaying, keptPipeline⟩ := effect_kept (c := c) release
        refine iff_of_true (fun _ => ⟨keptSources populated, keptPlaying played, keptPipeline.trans held⟩) ?_
        exact fun _ same => release (Option.some.inj same)
    | enter pc running now there made outside =>
      rw [nextOp_running now, there]
      exact iff_of_true (fun _ => ⟨populated, played, held⟩) (fun _ => nofun)
    | leave pc now there inside =>
      rw [nextOp_running now, there]
      exact iff_of_true (fun _ => ⟨populated, played, held⟩) (fun _ => nofun)
    | finish pc now past =>
      rw [nextOp_running now, past]
      exact iff_of_true (fun _ => ⟨populated, played, held⟩) (fun _ => nofun)
    | leaveHelper pc op now there check => exact absurd check (unchecked pc op now there)
    | giveUp pc op now there check => exact absurd check (unchecked pc op now there)
    | exitProcess pc op now there check => exact absurd check (unchecked pc op now there)
  · exact iff_of_true (fun still => absurd (receiver.symm.trans still) pushing)
      (fun still => absurd still pushing)

def Safe (s : State) : Prop := ∀ k, PushSafe (s.chan k)

theorem safe_put {s u : State} {k : Kind} {c : Channel} (safe : Safe s) (same : u.chan = s.chan) :
    Safe (u.put k c) ↔ PushSafe c :=
  forall_put (P := fun _ => PushSafe) safe same

structure Witnessed (memory : Kind → Int) (s : State) : Prop extends Sound memory s where
  passed : ∀ k, Passed k (s.chan k)

theorem witnessed_initial (memory : Kind → Int) : Witnessed memory (initial memory) where
  toSound := sound_initial memory
  passed := fun _ created => absurd rfl created

theorem witnessed_step {memory : Kind → Int} {s t : State} {act : Act} (witnessed : Witnessed memory s)
    (h : step s act = some t) : Witnessed memory t where
  toSound := sound_step witnessed.toSound h
  passed := by
    intro k
    rcases chan_evolves witnessed.launched h k with same | evolves
    · exact same ▸ witnessed.passed k
    · exact passed_evolves (witnessed.follows k) (witnessed.passed k) evolves

theorem safe_step {memory : Kind → Int} {s t : State} {act : Act} (witnessed : Witnessed memory s)
    (safe : Safe s) (h : step s act = some t) : Safe t ↔ HandsOver memory s act := by
  cases step_moves h with
  | launch k thread next =>
    refine Iff.trans (safe_put safe rfl) ?_
    refine iff_of_true ?_ trivial
    cases thread with
    | receiver => nofun
    | processor => exact safe k
  | callStop => exact iff_of_true safe trivial
  | stop i made k call now next =>
    refine Iff.trans (safe_put safe rfl) ?_
    refine iff_of_true ?_ trivial
    cases call <;> exact safe k
  | processor k ok c exited moved =>
    refine Iff.trans (safe_put safe rfl) ?_
    exact pushSafe_ran (witnessed.passed k) (safe k) (processorStep_ran moved)
  | receiver k ret receiver moved =>
    obtain ⟨pc, leads, rfl⟩ := UdpReceiver.threadStep_cases moved
    refine Iff.trans (safe_put safe rfl) ?_
    -- The flag was tested before the receive. Only the pipeline can have changed since.
    by_cases pushes : (s.chan k).receiver.pc = .receiving ∧ ret > 10
    · have ready := passed_ready (witnessed.follows k) (witnessed.passed k) (by rw [pushes.1]; nofun)
        (by rw [pushes.1]; nofun)
      constructor
      · intro after _
        obtain ⟨populated, played, held⟩ := after ((UdpReceiver.nextPc_pushing leads).mpr pushes)
        exact ⟨(ready held).2.mp populated, held⟩
      · intro handed _
        obtain ⟨zero, held⟩ := handed pushes
        exact ⟨(ready held).2.mpr zero, (ready held).1, held⟩
    · exact iff_of_true (fun pushing => absurd ((UdpReceiver.nextPc_pushing leads).mp pushing) pushes)
        (fun received => absurd received pushes)
  | endOfStream k =>
    refine Iff.trans (safe_put safe rfl) ?_
    exact iff_of_true (safe k) trivial

/-- In every run, every push is safe exactly when every receive and every teardown hands over. -/
theorem safe_iff_handsOver (memory : Kind → Int) (acts : List Act) :
    Run.Always step Safe (initial memory) acts ↔ Run.Meets step (HandsOver memory) (initial memory) acts :=
  Run.always_iff_meets (I := Witnessed memory) (fun _ _ _ witnessed h => witnessed_step witnessed h)
    (fun _ _ _ witnessed safe h => safe_step witnessed safe h) (witnessed_initial memory)
    (fun _ pushing => by cases pushing)

def endWhileReceiving : List Act :=
  List.replicate 4 .launch ++ List.replicate 49 (.processor .video true) ++
    [.receiver .video 0, .receiver .video 0, .processor .video true, .processor .video true,
     .endOfStream .video, .processor .video true, .processor .video true, .processor .video true,
     .processor .video true]

/-- A datagram that arrives after the teardown is pushed into the released pipeline. -/
theorem push_after_teardown :
    (∃ t, Run.run step (initial fun _ => 0) (endWhileReceiving ++ [.receiver .video 100]) = some t ∧
      (t.chan .video).receiver.pc = .pushing ∧ (t.chan .video).unrefs = 1) ∧
    ¬ Run.Always step Safe (initial fun _ => 0) (endWhileReceiving ++ [.receiver .video 100]) := by
  have reached : ∃ t, Run.run step (initial fun _ => 0) (endWhileReceiving ++ [.receiver .video 100]) = some t ∧
      (t.chan .video).receiver.pc = .pushing ∧ (t.chan .video).unrefs = 1 := ⟨_, rfl, rfl, rfl⟩
  refine ⟨reached, fun always => ?_⟩
  obtain ⟨t, ran, pushing, dropped⟩ := reached
  have held := (Run.always_last always ran .video pushing).2.2
  rw [dropped] at held
  cases held

end GstGateway.Pipeline
