import GstGateway.Pipeline.Unwinding

/-! How often `entrypoint` drops its reference to the pipeline, over any run of the threads: once on the way
out, and once more for each helper that failed and let its caller go on. -/

namespace GstGateway.Pipeline

/-- One where the reference was dropped by the statement at the end, or by a branch that returned -1. -/
def drops (k : Kind) (c : Channel) : Nat :=
  match c.processor with
  | .idle => 0
  | .running pc => if (stage k pc).dropped then 1 else 0
  | .ended _ => 1

/-- The next statement is a call of a helper, and the helper returns early. -/
def HelperFails (k : Kind) (s : State) (act : Act) : Prop :=
  ∃ ok op, act = .processor k ok ∧ nextOp k (s.chan k) = some op ∧ control (s.chan k) op ok = .leaveHelper

theorem drops_running {k : Kind} {c : Channel} {pc : Nat} (now : c.processor = .running pc) :
    drops k c = if (stage k pc).dropped then 1 else 0 := by
  simp only [drops, now]

/-- Up to the last checked call, and up to the statement at the end, the reference is held. -/
theorem stage_held {k : Kind} {pc : Nat} {op : Op} (there : (entrypoint k)[pc]? = some op)
    (held : checked op = true ∨ op = .pipelineUnref) : (stage k pc).dropped = false := by
  refine Straight.progress_at (P := fun (st : Stage) op => checked op = true ∨ op = .pipelineUnref → st.dropped = false)
    ?_ there held
  cases k <;> decide

theorem after_dropped {st : Stage} {op : Op} (other : op ≠ .pipelineUnref) : (st.after op).dropped = st.dropped := by
  cases op with
  | pipelineUnref => exact absurd rfl other
  | _ => rfl

/-- The thread went on to the next statement. -/
theorem drops_next {k : Kind} {c : Channel} {pc : Nat} {op : Op} (next : Channel) (now : c.processor = .running pc)
    (there : (entrypoint k)[pc]? = some op) (other : op ≠ .pipelineUnref) (on : next.processor = .running (pc + 1)) :
    drops k next = drops k c := by
  rw [drops_running now, drops_running on, stage_succ there, after_dropped other]

theorem drops_held {k : Kind} {c : Channel} {pc : Nat} {op : Op} (now : c.processor = .running pc)
    (there : (entrypoint k)[pc]? = some op) (held : checked op = true ∨ op = .pipelineUnref) : drops k c = 0 := by
  rw [drops_running now, stage_held there held]
  exact if_neg Bool.false_ne_true

theorem checked_keeps {op : Op} (check : checked op = true) : op ≠ .pipelineUnref := by
  rintro rfl
  cases check

/-- One statement of `entrypoint`: what it drops, and where that leaves the thread. -/
theorem execute_unrefs {k : Kind} {c next : Channel} {pc : Nat} {op : Op} {ok exited : Bool}
    (now : c.processor = .running pc) (there : (entrypoint k)[pc]? = some op)
    (stepped : execute c pc op ok = some (next, exited)) :
    next.unrefs + drops k c = c.unrefs + (if control c op ok = .leaveHelper then 1 else 0) + drops k next := by
  unfold execute at stepped
  split at stepped
  · rename_i loopRun
    subst loopRun
    obtain ⟨_, moved, same⟩ := Option.map_eq_some_iff.mp stepped
    cases same
    unfold runLoop at moved
    split at moved
    · cases moved
      rfl
    · cases moved
    · cases moved
      rw [drops_next { c with inRun := false, processor := .running (pc + 1) } now there nofun rfl]
      rfl
  · split at stepped
    · rename_i leads
      cases stepped
      rw [if_neg (by rw [leads]; nofun)]
      by_cases release : op = .pipelineUnref
      · subst release
        have later : drops k { effect c .pipelineUnref with processor := .running (pc + 1) } = 1 := by
          refine (drops_running rfl).trans ?_
          rw [stage_succ there]
          rfl
        rw [drops_held now there (Or.inr rfl), later]
        rfl
      · rw [drops_next { effect c op with processor := .running (pc + 1) } now there release rfl]
        exact congrArg (· + drops k c) (effect_unrefs release)
    · rename_i leads
      cases stepped
      rw [if_pos leads, drops_next { c with unrefs := c.unrefs + 1, processor := .running (pc + 1) } now there
        (checked_keeps (control_checked (by rw [leads]; nofun))) rfl]
    · rename_i leads
      cases stepped
      rw [if_neg (by rw [leads]; nofun), drops_held now there (Or.inl (control_checked (by rw [leads]; nofun)))]
      rfl
    · rename_i leads
      cases stepped
      rw [if_neg (by rw [leads]; nofun)]
      rfl

theorem processorStep_unrefs {k : Kind} {c next : Channel} {ok exited : Bool}
    (stepped : processorStep k c ok = some (next, exited)) :
    next.unrefs + drops k c = c.unrefs +
      (if ∃ op, nextOp k c = some op ∧ control c op ok = .leaveHelper then 1 else 0) + drops k next := by
  unfold processorStep at stepped
  cases now : c.processor with
  | idle | ended ret =>
    simp only [now] at stepped
    cases stepped
  | running pc =>
    simp only [now] at stepped
    cases there : (entrypoint k)[pc]? with
    | none =>
      simp only [there] at stepped
      cases stepped
      have before : drops k c = 1 := by
        rw [drops_running now, (stage_end there).2]
        rfl
      rw [before, if_neg (by rw [nextOp_running now, there]; rintro ⟨op, none, _⟩; cases none)]
      rfl
    | some op =>
      simp only [there] at stepped
      rw [execute_unrefs now there stepped]
      have same : (∃ op', nextOp k c = some op' ∧ control c op' ok = .leaveHelper) ↔
          control c op ok = .leaveHelper := by
        rw [nextOp_running now, there]
        simp
      simp only [same]

structure Tracks (k : Kind) (s : State) (fails : Nat) : Prop where
  launched : Launched s
  count : (s.chan k).unrefs = fails + drops k (s.chan k)

theorem tracks_put {k j : Kind} {s u : State} {n m : Nat} {c : Channel} (tracks : Tracks k s n) (same : u.chan = s.chan)
    (launched : Launched (u.put j c))
    (mine : j = k → c.unrefs + drops k (s.chan k) + n = (s.chan k).unrefs + drops k c + m)
    (other : j ≠ k → n = m) : Tracks k (u.put j c) m := by
  refine ⟨launched, ?_⟩
  by_cases this : j = k
  · subst this
    have step := mine rfl
    have before := tracks.count
    rw [put_self]
    omega
  · rw [put_other _ _ (Ne.symm this), same, tracks.count, other this]

theorem tracks_step {k : Kind} {s t : State} {act : Act} {n m : Nat} (tracks : Tracks k s n)
    (h : step s act = some t) (fails : HelperFails k s act → m = n + 1) (goes : ¬ HelperFails k s act → m = n) :
    Tracks k t m := by
  have launched := launched_step tracks.launched h
  have same : (∀ j ok, act ≠ .processor j ok) → m = n := fun other =>
    goes fun ⟨ok, _, processor, _⟩ => other k ok processor
  cases step_moves h with
  | launch j thread created =>
    obtain rfl := same fun _ _ => nofun
    refine tracks_put tracks rfl launched (fun mine => ?_) fun _ => rfl
    subst mine
    cases thread with
    | receiver => rfl
    | processor =>
      have idle : (s.chan j).processor = .idle :=
        (tracks.launched j .processor).mpr (Nat.le_of_eq (start_at.mp created))
      have before : drops j (s.chan j) = 0 := by simp only [drops, idle]
      have after : drops j (launch (s.chan j) .processor) = 0 := by
        refine (drops_running rfl).trans ?_
        cases j <;> rfl
      rw [before, after]
      rfl
  | callStop =>
    obtain rfl := same fun _ _ => nofun
    exact ⟨launched, tracks.count⟩
  | stop i made j call now next =>
    obtain rfl := same fun _ _ => nofun
    refine tracks_put tracks rfl launched (fun mine => ?_) fun _ => rfl
    subst mine
    cases call <;> rfl
  | processor j ok c exited moved =>
    refine tracks_put tracks rfl launched (fun mine => ?_) fun other => ?_
    · subst mine
      rw [processorStep_unrefs moved]
      split
      · rename_i early
        obtain ⟨op, there, leaves⟩ := early
        rw [fails ⟨ok, op, rfl, there, leaves⟩]
        omega
      · rename_i on
        rw [goes fun ⟨ok', op, processor, there, leaves⟩ => on ⟨op, there, by cases processor; exact leaves⟩]
        omega
    · exact (goes fun ⟨ok', op, processor, _⟩ => other (by cases processor; rfl)).symm
  | receiver j ret receiver moved =>
    obtain rfl := same fun _ _ => nofun
    exact tracks_put tracks rfl launched (fun mine => mine ▸ rfl) fun _ => rfl
  | endOfStream j =>
    obtain rfl := same fun _ _ => nofun
    exact tracks_put tracks rfl launched (fun mine => mine ▸ rfl) fun _ => rfl

theorem control_leaves {c : Channel} {op : Op} {ok : Bool} (leaves : control c op ok = .leaveHelper) :
    onFailure op = some .leaveHelper := by
  have check : ∀ check : OnFailure, OnFailure.control check = Control.leaveHelper → check = .leaveHelper := by
    intro check leads
    cases check <;> first | rfl | cases leads
  cases op with
  | createAppSrc made =>
    dsimp only [control] at leaves
    split at leaves
    · split at leaves
      · cases leaves
      · cases made with
        | none => cases leaves
        | some made => exact congrArg some (check made leaves)
    · cases leaves
  | addDecoder made | link src dst made =>
    dsimp only [control] at leaves
    split at leaves
    · cases leaves
    · exact congrArg some (check made leaves)
  | _ => cases leaves

/-- The helpers of the video compositor end the process or nothing: none returns early. -/
theorem video_helpers {s : State} {act : Act} : ¬ HelperFails .video s act := by
  rintro ⟨ok, op, _, next, leaves⟩
  have none : ∀ op ∈ entrypoint .video, onFailure op ≠ some .leaveHelper := by decide
  unfold nextOp at next
  split at next
  · exact none op (List.mem_of_getElem? next) (control_leaves leaves)
  · cases next
  · cases next

/-- In every run the pipeline is dropped once for each helper that failed, and once where the thread has
left. The video pipeline is dropped exactly once by the time its thread has ended. -/
theorem releases_counted (memory : Kind → Int) (acts : List Act) (s : State)
    (ran : Run.run step (initial memory) acts = some s) :
    (∀ k, (s.chan k).unrefs = Run.tally step (HelperFails k) (initial memory) acts + drops k (s.chan k)) ∧
      (s.chan .video).unrefs = drops .video (s.chan .video) := by
  have start : ∀ k, Tracks k (initial memory) 0 := fun k => ⟨(sound_initial memory).launched, rfl⟩
  constructor
  · intro k
    have tracks := Run.tally_track (C := HelperFails k) (R := Tracks k)
      (fun s n act t tracks fails h => tracks_step tracks h (fun _ => rfl) (fun goes => absurd fails goes))
      (fun s n act t tracks goes h => tracks_step tracks h (fun fails => absurd fails goes) fun _ => rfl) (start k) ran
    rw [Nat.zero_add] at tracks
    exact tracks.count
  · have tracks := Run.run_invariant (I := fun s => Tracks .video s 0)
      (fun s act t tracks h => tracks_step tracks h (fun fails => absurd fails video_helpers) fun _ => rfl)
      (start .video) ran
    rw [tracks.count, Nat.zero_add]

/-- The first `createAppSrc` of the audio compositor fails, and the first link after the loop. -/
def twoFailures : List Act :=
  List.replicate 4 .launch ++ List.replicate 9 (.processor .audio true) ++ [.processor .audio false] ++
    List.replicate 16 (.processor .audio true) ++ [.processor .audio false]

theorem audio_dropped_twice : ∃ s, Run.run step (initial fun _ => 0) twoFailures = some s ∧
    (s.chan .audio).processor = .ended (-1) ∧ (s.chan .audio).unrefs = 2 ∧
    Run.tally step (HelperFails .audio) (initial fun _ => 0) twoFailures = 1 := by
  obtain ⟨s, ran, ended, unrefs⟩ : ∃ s, Run.run step (initial fun _ => 0) twoFailures = some s ∧
      (s.chan .audio).processor = .ended (-1) ∧ (s.chan .audio).unrefs = 2 := ⟨_, rfl, rfl, rfl⟩
  have counted := (releases_counted (fun _ => 0) twoFailures s ran).1 .audio
  have left : drops .audio (s.chan .audio) = 1 := by simp only [drops, ended]
  rw [unrefs, left] at counted
  exact ⟨s, ran, ended, unrefs, (Nat.succ.inj counted).symm⟩

end GstGateway.Pipeline
