import GstGateway.Pipeline.Stages

/-! `entrypoint` releases its main loop and leaves the pointer as it is. A `stop()` or an end of stream
that comes later quits a loop that is gone. -/

namespace GstGateway.Pipeline

/-- Every `g_main_loop_quit` is called on `NULL` or on a main loop that is not released. -/
def QuitsLive (s : State) : Act → Prop
  | .stop i => ∀ made k, s.stops[i]? = some made → stop[made]? = some (k, .quit) → (s.chan k).loop ≠ .released
  | .endOfStream k => (s.chan k).loop ≠ .released
  | _ => True

def PastUnref (k : Kind) (c : Channel) : Prop :=
  match c.processor with
  | .idle => False
  | .running pc => .loopUnref ∈ (entrypoint k).take pc
  | .ended ret => ret = 0

/-- A `quit()` and an end of stream come before the processor's thread is past the release. -/
def QuitsInTime (s : State) : Act → Prop
  | .stop i => ∀ made k, s.stops[i]? = some made → stop[made]? = some (k, .quit) → ¬ PastUnref k (s.chan k)
  | .endOfStream k => ¬ PastUnref k (s.chan k)
  | _ => True

theorem pastUnref_succ {k : Kind} {pc : Nat} {op : Op} (there : (entrypoint k)[pc]? = some op) :
    .loopUnref ∈ (entrypoint k).take (pc + 1) ↔ .loopUnref ∈ (entrypoint k).take pc ∨ op = .loopUnref := by
  rw [List.take_add_one, there, Option.toList_some, List.mem_append, List.mem_singleton, @eq_comm _ op]

theorem before_unref {k : Kind} {pc : Nat} {op : Op} (there : (entrypoint k)[pc]? = some op)
    (early : op = .loopNew ∨ checked op = true) : .loopUnref ∉ (entrypoint k).take pc := by
  have all : ∀ pc < (entrypoint k).length, ∀ op ∈ (entrypoint k)[pc]?, op = .loopNew ∨ checked op = true →
      .loopUnref ∉ (entrypoint k).take pc := by
    cases k <;> decide
  exact Straight.forall_at all there early

theorem unref_made {k : Kind} {pc : Nat} (past : (entrypoint k)[pc]? = none) :
    .loopUnref ∈ (entrypoint k).take pc := by
  rw [List.take_of_length_le (List.getElem?_eq_none_iff.mp past)]
  cases k <;> decide

def Released (k : Kind) (c : Channel) : Prop := c.loop = .released ↔ PastUnref k c

theorem released_running {k : Kind} {c : Channel} {pc : Nat} (released : Released k c)
    (now : c.processor = .running pc) : c.loop = .released ↔ .loopUnref ∈ (entrypoint k).take pc := by
  unfold Released PastUnref at released
  rw [now] at released
  exact released

theorem released_effect {c : Channel} {op : Op} (early : op = .loopNew → c.loop ≠ .released) :
    (effect c op).loop = .released ↔ c.loop = .released ∨ op = .loopUnref := by
  cases op with
  | loopNew => exact iff_of_false nofun (not_or.mpr ⟨early rfl, nofun⟩)
  | loopUnref => exact iff_of_true rfl (Or.inr rfl)
  | _ => exact ⟨Or.inl, fun either => either.resolve_right nofun⟩

theorem released_ran {k : Kind} {c next : Channel} {exited : Bool} (released : Released k c)
    (moved : Ran k c next exited) : Released k next := by
  cases moved with
  | goOn pc op now there other =>
    have before := released_running released now
    have early : op = .loopNew → c.loop ≠ .released :=
      fun new gone => before_unref there (Or.inl new) (before.mp gone)
    exact (released_effect early).trans ((or_congr_left before).trans (pastUnref_succ there).symm)
  | enter pc running now there made outside =>
    have before := released_running released now
    rw [made] at before
    unfold Released PastUnref
    simp only [now]
    exact iff_of_false nofun fun past => by cases before.mpr past
  | leave pc now there inside =>
    have before := released_running released now
    exact before.trans (Iff.trans (or_iff_left nofun).symm (pastUnref_succ there).symm)
  | leaveHelper pc op now there check =>
    have before := released_running released now
    have other : op ≠ .loopUnref := by
      rintro rfl
      cases check
    exact before.trans (Iff.trans (or_iff_left other).symm (pastUnref_succ there).symm)
  | giveUp pc op now there check =>
    have before := released_running released now
    exact iff_of_false (fun gone => before_unref there (Or.inr check) (before.mp gone))
      (show (-1 : Int) ≠ 0 by decide)
  | exitProcess pc op now there check => exact released
  | finish pc now past => exact iff_of_true ((released_running released now).mpr (unref_made past)) rfl

theorem released_evolves {k : Kind} {c next : Channel} (released : Released k c) (evolves : Evolves k c next) :
    Released k next := by
  cases evolves with
  | processorStarts idle late =>
    have kept : c.loop ≠ .released := by
      intro gone
      have past := released.mp gone
      unfold PastUnref at past
      rw [idle] at past
      exact past
    exact iff_of_false kept (by simp [PastUnref, launch])
  | ran next exited moved => exact released_ran released moved
  | quits =>
    have same : c.loop.quit = .released ↔ c.loop = .released := by
      cases c.loop <;> simp [MainLoop.quit]
    exact same.trans released
  | receiverStarts idle early => exact released
  | deactivated => exact released
  | received ret receiver moved => exact released

structure Torn (s : State) : Prop where
  launched : Launched s
  released : ∀ k, Released k (s.chan k)

theorem torn_initial (memory : Kind → Int) : Torn (initial memory) where
  launched := (sound_initial memory).launched
  released := fun _ => iff_of_false nofun id

theorem torn_step {s t : State} {act : Act} (torn : Torn s) (h : step s act = some t) : Torn t where
  launched := launched_step torn.launched h
  released := chan_invariant torn.launched (fun _ _ _ released evolves => released_evolves released evolves)
    torn.released h

theorem quitsLive_iff {s : State} {act : Act} (torn : Torn s) : QuitsLive s act ↔ QuitsInTime s act := by
  cases act with
  | stop i =>
    refine forall_congr' fun made => forall_congr' fun k => imp_congr_right fun _ => imp_congr_right fun _ => ?_
    exact not_congr (torn.released k)
  | endOfStream k => exact not_congr (torn.released k)
  | _ => exact Iff.rfl

/-- In every run, all quits are of a live loop or `NULL` exactly when each comes before its processor's
thread is past `g_main_loop_unref`. -/
theorem quitsLive_iff_inTime (memory : Kind → Int) (acts : List Act) :
    Run.Meets step QuitsLive (initial memory) acts ↔ Run.Meets step QuitsInTime (initial memory) acts :=
  Run.meets_congr (fun _ _ _ torn _ h => torn_step torn h) (fun _ _ _ torn _ => quitsLive_iff torn)
    (torn_initial memory)

def stopAfterEnd : List Act :=
  List.replicate 4 .launch ++ List.replicate 51 (.processor .video true) ++ [.endOfStream .video] ++
    List.replicate 6 (.processor .video true) ++ [.callStop]

/-- The `quit()` of the video processor gets a main loop that was released. -/
theorem quit_after_release :
    (∃ t, Run.run step (initial fun _ => 0) stopAfterEnd = some t ∧ (t.chan .video).processor = .ended 0 ∧
      (t.chan .video).loop = .released) ∧
    ¬ Run.Meets step QuitsLive (initial fun _ => 0) (stopAfterEnd ++ [.stop 0]) := by
  refine ⟨⟨_, rfl, rfl, rfl⟩, fun meets => ?_⟩
  exact Run.meets_last meets rfl rfl 0 .video rfl rfl rfl

end GstGateway.Pipeline
