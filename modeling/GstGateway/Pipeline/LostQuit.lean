import GstGateway.Pipeline.Stages

/-! `quit()` stops the main loop that exists when it is called. A thread that enters
`g_main_loop_run` later sets the running flag again, and the quit is lost. -/

namespace GstGateway.Pipeline

def quitAt : Kind → Nat
  | .video => 0
  | .audio => 3

theorem stop_quitAt (k : Kind) : stop[quitAt k]? = some (k, .quit) := by
  cases k <;> rfl

/-- Some `stop()` is past its `quit()` of the processor, and none that was called is before it. -/
def Overdue (s : State) (k : Kind) : Prop :=
  (∃ made ∈ s.stops, quitAt k < made) ∧ ∀ made ∈ s.stops, quitAt k < made

def Looping (c : Channel) : Prop := c.inRun = true ∧ c.loop = .loop true

/-- No processor runs its main loop after its `quit()` returned, unless another is to come. -/
def NotLost (s : State) : Prop := ∀ k, Overdue s k → ¬ Looping (s.chan k)

/-- A thread enters `g_main_loop_run` before any `quit()` of it, or with one still to come. -/
def EntersInTime (s : State) : Act → Prop
  | .processor k _ => nextOp k (s.chan k) = some .loopRun → (s.chan k).inRun = false → ¬ Overdue s k
  | _ => True

def Inside (k : Kind) (c : Channel) : Prop := c.inRun = true → nextOp k c = some .loopRun

theorem effect_inRun (c : Channel) (op : Op) : (effect c op).inRun = c.inRun := by
  cases op <;> rfl

theorem checked_not_loopRun {op : Op} (check : checked op = true) : op ≠ .loopRun := by
  rintro rfl
  cases check

theorem ran_outside {k : Kind} {c next : Channel} {exited : Bool} (inside : Inside k c)
    (moved : Ran k c next exited) :
    next.inRun = false ∨
      (nextOp k c = some .loopRun ∧ c.inRun = false) ∧ next = { c with inRun := true, loop := .loop true } := by
  have outside : nextOp k c ≠ some .loopRun → c.inRun = false :=
    fun elsewhere => Bool.eq_false_iff.mpr fun within => elsewhere (inside within)
  cases moved with
  | goOn pc op now there other =>
    rw [nextOp_running now, there] at outside
    exact Or.inl ((effect_inRun c op).trans (outside fun same => other (Option.some.inj same)))
  | enter pc running now there made before => exact Or.inr ⟨⟨(nextOp_running now).trans there, before⟩, rfl⟩
  | leave pc now there within => exact Or.inl rfl
  | leaveHelper pc op now there check | giveUp pc op now there check | exitProcess pc op now there check =>
    rw [nextOp_running now, there] at outside
    have before := outside fun same => checked_not_loopRun check (Option.some.inj same)
    exact Or.inl before
  | finish pc now past =>
    rw [nextOp_running now, past] at outside
    have before := outside nofun
    exact Or.inl before

theorem ran_enters {k : Kind} {c next : Channel} {exited : Bool} (moved : Ran k c next exited)
    (position : nextOp k c = some .loopRun) (outside : c.inRun = false)
    (live : ∃ running, c.loop = .loop running) : Looping next := by
  cases moved with
  | enter pc running now there made before => exact ⟨rfl, rfl⟩
  | leave pc now there within =>
    obtain ⟨running, made⟩ := live
    have impossible := within running made
    rw [outside] at impossible
    cases impossible
  | goOn pc op now there other =>
    rw [nextOp_running now, there] at position
    exact absurd (Option.some.inj position) other
  | leaveHelper pc op now there check | giveUp pc op now there check | exitProcess pc op now there check =>
    rw [nextOp_running now, there] at position
    exact absurd (Option.some.inj position) (checked_not_loopRun check)
  | finish pc now past =>
    rw [nextOp_running now, past] at position
    cases position

theorem loopRun_live {k : Kind} {first : Int} {c : Channel} (follows : Follows k first c)
    (position : nextOp k c = some .loopRun) : ∃ running, c.loop = .loop running := by
  cases now : c.processor with
  | running pc =>
    rw [nextOp_running now] at position
    exact (follows_during follows now).loop (stage_loopRun position)
  | idle | ended ret => simp [nextOp, now] at position

theorem inside_evolves {k : Kind} {c next : Channel} (inside : Inside k c) (evolves : Evolves k c next) :
    Inside k next := by
  cases evolves with
  | processorStarts idle late =>
    intro within
    have position := inside within
    simp [nextOp, idle] at position
  | ran next exited moved =>
    intro within
    rcases ran_outside inside moved with outside | ⟨⟨position, _⟩, rfl⟩
    · exact absurd (within.symm.trans outside) (by decide)
    · exact position
  | receiverStarts idle early => exact inside
  | quits => exact inside
  | deactivated => exact inside
  | received ret receiver moved => exact inside

structure Entered (memory : Kind → Int) (s : State) : Prop extends Sound memory s where
  inside : ∀ k, Inside k (s.chan k)

theorem entered_initial (memory : Kind → Int) : Entered memory (initial memory) where
  toSound := sound_initial memory
  inside := fun _ within => by cases within

theorem entered_step {memory : Kind → Int} {s t : State} {act : Act} (entered : Entered memory s)
    (h : step s act = some t) : Entered memory t where
  toSound := sound_step entered.toSound h
  inside := chan_invariant entered.launched (fun _ _ _ inside evolves => inside_evolves inside evolves)
    entered.inside h

theorem quit_not_looping (c : Channel) : ¬ Looping (quit c) := by
  rintro ⟨_, running⟩
  revert running
  unfold quit MainLoop.quit
  cases c.loop <;> nofun

theorem notLost_put {s u : State} {k : Kind} {c : Channel} (notLost : NotLost s) (same : u.chan = s.chan)
    (stops : u.stops = s.stops) : NotLost (u.put k c) ↔ (Overdue s k → ¬ Looping c) := by
  have overdue : ∀ j, Overdue (u.put k c) j ↔ Overdue s j := by
    intro j
    simp only [Overdue, put_stops, stops]
  simp only [NotLost, overdue]
  exact forall_put (P := fun j c => Overdue s j → ¬ Looping c) notLost same

theorem overdue_stop {s : State} {i made : Nat} {j : Kind} (now : s.stops[i]? = some made)
    (late : ∀ m ∈ s.stops.set i (made + 1), quitAt j < m) : made = quitAt j ∨ Overdue s j := by
  have inside := (List.getElem?_eq_some_iff.mp now).1
  have after := late (made + 1) (List.mem_set inside _)
  by_cases same : made = quitAt j
  · exact Or.inl same
  · have past : quitAt j < made := by omega
    refine Or.inr ⟨⟨made, List.mem_of_getElem? now, past⟩, fun m member => ?_⟩
    obtain ⟨n, there⟩ := List.mem_iff_getElem?.mp member
    by_cases this : n = i
    · subst this
      rw [now] at there
      cases there
      exact past
    · exact late m (List.mem_of_getElem? ((List.getElem?_set_ne (Ne.symm this)).trans there))

theorem notLost_stop {s : State} {i made : Nat} {k : Kind} {call : StopCall} (notLost : NotLost s)
    (now : s.stops[i]? = some made) (next : stop[made]? = some (k, call)) :
    NotLost ({ s with stops := s.stops.set i (made + 1) }.put k (request (s.chan k) call)) := by
  intro j late looping
  have before : j = k → call ≠ .quit ∧ Looping (s.chan k) := by
    rintro rfl
    rw [put_self] at looping
    cases call with
    | quit => exact absurd looping (quit_not_looping _)
    | deactivate => exact ⟨nofun, looping⟩
    | closeSocket => exact ⟨nofun, looping⟩
  rcases overdue_stop now late.2 with same | overdue
  · rw [same, stop_quitAt] at next
    cases next
    exact (before rfl).1 rfl
  · by_cases this : j = k
    · exact notLost j overdue (this ▸ (before this).2)
    · rw [put_other _ _ this] at looping
      exact notLost j overdue looping

theorem notLost_step {memory : Kind → Int} {s t : State} {act : Act} (entered : Entered memory s)
    (notLost : NotLost s) (h : step s act = some t) : NotLost t ↔ EntersInTime s act := by
  cases step_moves h with
  | launch k thread next =>
    refine Iff.trans (notLost_put notLost rfl rfl) (iff_of_true ?_ trivial)
    cases thread <;> exact notLost k
  | callStop =>
    refine iff_of_true (fun k late => ?_) trivial
    have before := late.2 0 (List.mem_append_right _ (List.mem_singleton_self 0))
    exact absurd before (Nat.not_lt_zero _)
  | stop i made k call now next =>
    -- The last quit that was due finds the loop, and clears its flag.
    exact iff_of_true (notLost_stop notLost now next) trivial
  | processor k ok c exited moved =>
    have moved := processorStep_ran moved
    refine Iff.trans (notLost_put notLost rfl rfl) ?_
    constructor
    · intro after position outside late
      exact after late (ran_enters moved position outside (loopRun_live (entered.follows k) position))
    · intro inTime late looping
      rcases ran_outside (entered.inside k) moved with outside | ⟨⟨position, outside⟩, _⟩
      · exact absurd (looping.1.symm.trans outside) (by decide)
      · exact inTime position outside late
  | receiver k ret receiver moved =>
    exact Iff.trans (notLost_put notLost rfl rfl) (iff_of_true (notLost k) trivial)
  | endOfStream k =>
    exact Iff.trans (notLost_put notLost rfl rfl) (iff_of_true (fun _ => quit_not_looping _) trivial)

/-- In every run, no quit is lost exactly when every main loop is entered in time. -/
theorem notLost_iff_entersInTime (memory : Kind → Int) (acts : List Act) :
    Run.Always step NotLost (initial memory) acts ↔ Run.Meets step EntersInTime (initial memory) acts :=
  Run.always_iff_meets (I := Entered memory) (fun _ _ _ entered h => entered_step entered h)
    (fun _ _ _ entered notLost h => notLost_step entered notLost h) (entered_initial memory)
    (fun _ late => by obtain ⟨⟨_, none, _⟩, _⟩ := late; cases none)

def stopDuringSetUp : List Act :=
  List.replicate 4 .launch ++ [.callStop] ++ List.replicate 6 (.stop 0)

/-- All of `stop()` runs before the main loop exists. The thread then enters it for good. -/
theorem quit_before_loop :
    (∃ t, Run.run step (initial fun _ => 0) (stopDuringSetUp ++ List.replicate 51 (.processor .video true)) =
        some t ∧ t.stops = [6] ∧ Looping (t.chan .video)) ∧
    ¬ Run.Always step NotLost (initial fun _ => 0)
        (stopDuringSetUp ++ List.replicate 51 (.processor .video true)) := by
  have reached : ∃ t, Run.run step (initial fun _ => 0)
      (stopDuringSetUp ++ List.replicate 51 (.processor .video true)) = some t ∧ t.stops = [6] ∧
      Looping (t.chan .video) := ⟨_, rfl, rfl, rfl, rfl⟩
  refine ⟨reached, fun always => ?_⟩
  obtain ⟨t, ran, stops, looping⟩ := reached
  refine Run.always_last always ran .video ?_ looping
  simp [Overdue, stops, quitAt]

end GstGateway.Pipeline
