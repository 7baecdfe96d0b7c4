import GstGateway.Foundation.Straight
import GstGateway.Pipeline.Threads

/-! What a position in `entrypoint` says about the channel. A stage sums up the statements before a
position; the stages of both compositors are computed, and every run follows them. -/

namespace GstGateway.Pipeline

structure Stage where
  flag : Bool := false
  /-- The flag was set at some time. -/
  flagged : Bool := false
  played : Bool := false
  sources : Nat := 0
  /-- The main loop exists and is not released. -/
  loop : Bool := false
  dropped : Bool := false
  deriving DecidableEq, Repr

def Stage.after (st : Stage) : Op → Stage
  | .createAppSrc _ => { st with sources := st.sources + 1 }
  | .setPlaying => { st with played := true }
  | .storeFlag b => { st with flag := b, flagged := st.flagged || b }
  | .loopNew => { st with loop := true }
  | .loopUnref => { st with loop := false }
  | .pipelineUnref => { st with dropped := true }
  | _ => st

def stage (k : Kind) (pc : Nat) : Stage := Straight.progress Stage.after {} (entrypoint k) pc

theorem stage_succ {k : Kind} {pc : Nat} {op : Op} (there : (entrypoint k)[pc]? = some op) :
    stage k (pc + 1) = (stage k pc).after op :=
  Straight.progress_succ there

/-- The flag is set once four sources exist and the pipeline was told to play. -/
theorem stage_flagged (k : Kind) (pc : Nat) :
    (stage k pc).flagged = true → (stage k pc).played = true ∧ (stage k pc).sources = 4 := by
  refine Straight.progress_all (P := fun st : Stage => st.flagged = true → st.played = true ∧ st.sources = 4) ?_ pc
  cases k <;> decide

theorem stage_flag (k : Kind) (pc : Nat) : (stage k pc).flag = true → (stage k pc).flagged = true := by
  refine Straight.progress_all (P := fun st : Stage => st.flag = true → st.flagged = true) ?_ pc
  cases k <;> decide

theorem stage_checked {k : Kind} {pc : Nat} {op : Op} (there : (entrypoint k)[pc]? = some op)
    (check : checked op = true) : (stage k pc).flag = false ∧ (stage k pc).flagged = false := by
  refine Straight.progress_at (P := fun (st : Stage) op => checked op = true → st.flag = false ∧ st.flagged = false)
    ?_ there check
  cases k <;> decide

theorem stage_loopRun {k : Kind} {pc : Nat} (there : (entrypoint k)[pc]? = some .loopRun) :
    (stage k pc).loop = true := by
  refine Straight.progress_at (P := fun (st : Stage) op => op = .loopRun → st.loop = true) ?_ there rfl
  cases k <;> decide

theorem stage_end {k : Kind} {pc : Nat} (past : (entrypoint k)[pc]? = none) :
    (stage k pc).flag = false ∧ (stage k pc).dropped = true := by
  rw [stage, Straight.progress_past past]
  cases k <;> decide

/-- The channel is as the stage says. The sources are counted only while the pipeline is held: a
helper that fails drops it. -/
structure Reached (first : Int) (st : Stage) (c : Channel) : Prop where
  flag : c.receiver.syncFlag = st.flag
  played : st.played = true → c.played = true
  sources : c.unrefs = 0 → c.appSrcCount = first + st.sources ∧
    c.appSrcs = (List.range st.sources).map fun i : Nat => first + i
  loop : st.loop = true → ∃ running, c.loop = .loop running
  dropped : st.dropped = true → 0 < c.unrefs

theorem reached_effect {first : Int} {st : Stage} {c : Channel} (op : Op) (reached : Reached first st c) :
    Reached first (st.after op) (effect c op) := by
  obtain ⟨flag, played, sources, loop, dropped⟩ := reached
  cases op with
  | createAppSrc check =>
    refine ⟨flag, played, fun held => ?_, loop, dropped⟩
    obtain ⟨count, stored⟩ := sources held
    simp [effect, Stage.after, count, stored, List.range_succ, Int.add_assoc]
  | setPlaying => exact ⟨flag, fun _ => rfl, sources, loop, dropped⟩
  | storeFlag b => exact ⟨rfl, played, sources, loop, dropped⟩
  | loopNew => exact ⟨flag, played, sources, fun _ => ⟨false, rfl⟩, dropped⟩
  | loopUnref => exact ⟨flag, played, sources, fun live => absurd live Bool.false_ne_true, dropped⟩
  | pipelineUnref =>
    exact ⟨flag, played, fun held => absurd held (Nat.succ_ne_zero _), loop, fun _ => Nat.succ_pos _⟩
  | _ => exact ⟨flag, played, sources, loop, dropped⟩

theorem reached_at {first : Int} {st : Stage} {c : Channel} (reached : Reached first st c) (p : Processor)
    (inRun : Bool) : Reached first st { c with processor := p, inRun } :=
  ⟨reached.flag, reached.played, reached.sources, reached.loop, reached.dropped⟩

theorem reached_dropped {first : Int} {st : Stage} {c : Channel} {op : Op} (reached : Reached first st c)
    (check : checked op = true) :
    Reached first (st.after op) { c with unrefs := c.unrefs + 1 } := by
  obtain ⟨flag, played, sources, loop, dropped⟩ := reached
  have gone : c.unrefs + 1 = 0 → c.appSrcCount = first + (st.after op).sources ∧
      c.appSrcs = (List.range (st.after op).sources).map fun i : Nat => first + i :=
    fun held => absurd held (Nat.succ_ne_zero _)
  cases op <;> first | exact ⟨flag, played, gone, loop, fun _ => Nat.succ_pos _⟩ | cases check

inductive Follows (k : Kind) (first : Int) (c : Channel) : Prop where
  | before (idle : c.processor = .idle) (reached : Reached first {} c)
  | during (pc : Nat) (now : c.processor = .running pc) (reached : Reached first (stage k pc) c)
  | after (ret : Int) (returned : c.processor = .ended ret) (cleared : c.receiver.syncFlag = false)
      (dropped : 0 < c.unrefs)

theorem follows_frame {k : Kind} {first : Int} {c next : Channel} (follows : Follows k first c)
    (same : next.processor = c.processor) (flag : next.receiver.syncFlag = c.receiver.syncFlag)
    (unrefs : next.unrefs = c.unrefs) (reached : ∀ st, Reached first st c → Reached first st next) :
    Follows k first next := by
  cases follows with
  | before idle before => exact .before (same.trans idle) (reached _ before)
  | during pc now before => exact .during pc (same.trans now) (reached _ before)
  | after ret returned cleared dropped =>
    exact .after ret (same.trans returned) (flag.trans cleared) (unrefs ▸ dropped)

theorem follows_during {k : Kind} {first : Int} {c : Channel} {pc : Nat} (follows : Follows k first c)
    (now : c.processor = .running pc) : Reached first (stage k pc) c := by
  cases follows with
  | before idle reached => rw [idle] at now; cases now
  | during pc' now' reached =>
    rw [now'] at now
    cases now
    exact reached
  | after ret returned cleared dropped => rw [returned] at now; cases now

theorem follows_ended {k : Kind} {first : Int} {c : Channel} {ret : Int} (follows : Follows k first c)
    (returned : c.processor = .ended ret) : c.receiver.syncFlag = false := by
  cases follows with
  | before idle reached => rw [idle] at returned; cases returned
  | during pc now reached => rw [now] at returned; cases returned
  | after ret' returned' cleared dropped => exact cleared

theorem follows_ran {k : Kind} {first : Int} {c next : Channel} {exited : Bool} (follows : Follows k first c)
    (moved : Ran k c next exited) : Follows k first next := by
  cases moved with
  | goOn pc op now there other =>
    have reached := reached_effect op (follows_during follows now)
    rw [← stage_succ there] at reached
    exact .during (pc + 1) rfl (reached_at reached _ _)
  | enter pc running now there made outside =>
    have reached := follows_during follows now
    exact .during pc now ⟨reached.flag, reached.played, reached.sources, fun _ => ⟨true, rfl⟩, reached.dropped⟩
  | leave pc now there inside =>
    have reached := reached_effect .loopRun (follows_during follows now)
    rw [← stage_succ there] at reached
    exact .during (pc + 1) rfl (reached_at reached _ _)
  | leaveHelper pc op now there check =>
    have reached := reached_dropped (follows_during follows now) check
    rw [← stage_succ there] at reached
    exact .during (pc + 1) rfl (reached_at reached _ _)
  | giveUp pc op now there check =>
    have flag := (follows_during follows now).flag.trans (stage_checked there check).1
    exact .after (-1) rfl flag (Nat.succ_pos _)
  | exitProcess pc op now there check => exact follows
  | finish pc now past =>
    have reached := follows_during follows now
    obtain ⟨flag, dropped⟩ := stage_end past
    exact .after 0 rfl (reached.flag.trans flag) (reached.dropped dropped)

theorem follows_evolves {k : Kind} {first : Int} {c next : Channel} (follows : Follows k first c)
    (evolves : Evolves k c next) : Follows k first next := by
  cases evolves with
  | processorStarts idle late =>
    cases follows with
    | before idle reached =>
      exact .during 0 rfl (reached_at reached _ _)
    | during pc now reached => rw [idle] at now; cases now
    | after ret returned cleared dropped => rw [idle] at returned; cases returned
  | ran next exited moved => exact follows_ran follows moved
  | quits =>
    refine follows_frame follows rfl rfl rfl fun st reached => ?_
    refine ⟨reached.flag, reached.played, reached.sources, fun live => ?_, reached.dropped⟩
    obtain ⟨running, made⟩ := reached.loop live
    exact ⟨false, by simp [quit, made, MainLoop.quit]⟩
  | received ret receiver moved =>
    obtain ⟨pc, leads, rfl⟩ := UdpReceiver.threadStep_cases moved
    exact follows_frame follows rfl rfl rfl fun st reached =>
      ⟨reached.flag, reached.played, reached.sources, reached.loop, reached.dropped⟩
  | receiverStarts idle early | deactivated =>
    exact follows_frame follows rfl rfl rfl fun st reached =>
      ⟨reached.flag, reached.played, reached.sources, reached.loop, reached.dropped⟩

/-- What every reachable state keeps: the threads were created in order, and each channel is as its
processor's position says. -/
structure Sound (memory : Kind → Int) (s : State) : Prop where
  launched : Launched s
  follows : ∀ k, Follows k (memory k) (s.chan k)

theorem sound_initial (memory : Kind → Int) : Sound memory (initial memory) where
  launched := by
    intro k thread
    cases thread <;> exact iff_of_true rfl (Nat.zero_le _)
  follows := by
    intro k
    refine .before rfl ⟨rfl, nofun, fun _ => ⟨?_, rfl⟩, nofun, nofun⟩
    exact (Int.add_zero _).symm

theorem sound_step {memory : Kind → Int} {s t : State} {act : Act} (sound : Sound memory s)
    (h : step s act = some t) : Sound memory t where
  launched := launched_step sound.launched h
  follows := chan_invariant (I := fun k c => Follows k (memory k) c) sound.launched
    (fun _ _ _ follows evolves => follows_evolves follows evolves) sound.follows h

end GstGateway.Pipeline
