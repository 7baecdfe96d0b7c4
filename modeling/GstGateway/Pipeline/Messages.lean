import GstGateway.Foundation.Simulation
import GstGateway.Pipeline.Shutdown

/-! What the messages on the bus do. Both handlers print all of them and act on one, the end of the stream;
an error is printed and the pipeline plays on. -/

namespace GstGateway.Pipeline

/-- `GST_MESSAGE_TYPE(msg)`. A change of state says whether it is the pipeline's own. -/
inductive Message where
  | error
  | warning
  | eos
  | stateChanged (ofPipeline : Bool)
  | streamStatus
  | newClock
  | latency
  | element
  | other (type : Nat)
  deriving DecidableEq, Repr

/-- Of a case that only prints nothing is left here. -/
def MultipleRtpVp8Compositor.handleMessage (main : Channel) : Message → Channel
  | .error => main
  | .warning => main
  | .eos => { main with loop := main.loop.quit }
  | .stateChanged _ => main
  | .streamStatus => main
  | .newClock => main
  | .latency => main
  | .element => main
  | .other _ => main

/-- A warning has no case of its own here. -/
def MultipleRtpOpusCompositor.handleMessage (main : Channel) : Message → Channel
  | .error => main
  | .eos => { main with loop := main.loop.quit }
  | .stateChanged _ => main
  | .streamStatus => main
  | .newClock => main
  | .latency => main
  | .element => main
  | _ => main

def handleMessage : Kind → Channel → Message → Channel
  | .video => MultipleRtpVp8Compositor.handleMessage
  | .audio => MultipleRtpOpusCompositor.handleMessage

/-- A step of a thread, or a message on a bus. -/
inductive Event where
  | launch
  | callStop
  | stop (i : Nat)
  | processor (k : Kind) (ok : Bool)
  | receiver (k : Kind) (ret : Int)
  | message (k : Kind) (m : Message)
  deriving DecidableEq, Repr

def busStep (s : State) : Event → Option State
  | .launch => step s .launch
  | .callStop => step s .callStop
  | .stop i => step s (.stop i)
  | .processor k ok => step s (.processor k ok)
  | .receiver k ret => step s (.receiver k ret)
  | .message k m => if s.exited then none else some (s.put k (handleMessage k (s.chan k) m))

def Event.acts : Event → List Act
  | .launch => [.launch]
  | .callStop => [.callStop]
  | .stop i => [.stop i]
  | .processor k ok => [.processor k ok]
  | .receiver k ret => [.receiver k ret]
  | .message k m => if m = .eos then [.endOfStream k] else []

/-- The two handlers do the same to the main loop. -/
theorem handleMessage_eq (k : Kind) (main : Channel) (m : Message) :
    handleMessage k main m = if m = .eos then quit main else main := by
  cases k <;> cases m <;> rfl

theorem put_chan (s : State) (k : Kind) : s.put k (s.chan k) = s := by
  unfold State.put
  rw [Function.update_eq_self]

theorem messages_answer : Simulation.Answers busStep step (fun _ => Event.acts) Eq := by
  rintro s event t _ rfl taken
  refine ⟨t, ?_, rfl⟩
  have one : ∀ act, step s act = some t → Run.run step s [act] = some t := fun act taken => by
    rw [Run.run, taken]
    rfl
  cases event with
  | message k m =>
    simp only [busStep, handleMessage_eq] at taken
    split at taken
    · cases taken
    · rename_i alive
      simp only [Event.acts]
      by_cases ends : m = .eos
      · rw [if_pos ends] at taken ⊢
        exact one _ ((if_neg alive).trans taken)
      · rw [if_neg ends] at taken ⊢
        rw [put_chan] at taken
        exact taken
  | _ => exact one _ taken

/-! ### Nothing else ends a main loop -/

def LeftLoop (k : Kind) (c : Channel) : Prop :=
  match c.processor with
  | .idle => False
  | .running pc => loopAt k < pc
  | .ended ret => ret = 0

/-- The thread is not past its main loop, and if it is inside, the loop runs. -/
def Undisturbed (k : Kind) (c : Channel) : Prop := ¬ LeftLoop k c ∧ (c.inRun = true → c.loop = .loop true)

def QuitMade (k : Kind) (s : State) : Prop := ∃ made ∈ s.stops, quitAt k < made

theorem stop_injective {m n : Nat} {call : Kind × StopCall} (left : stop[m]? = some call)
    (right : stop[n]? = some call) : m = n := by
  have all : ∀ m < stop.length, ∀ n < stop.length, stop[m]? = stop[n]? → m = n := by decide
  exact all m (List.getElem?_eq_some_iff.mp left).1 n (List.getElem?_eq_some_iff.mp right).1 (left.trans right.symm)

theorem playing_blocked {k : Kind} {c : Channel} (now : c.processor = .running (loopAt k)) (inRun : c.inRun = true)
    (running : c.loop = .loop true) (ok : Bool) : processorStep k c ok = none := by
  have there := loopRun_at.mpr (rfl : loopAt k = loopAt k)
  unfold processorStep execute runLoop
  simp [now, there, running, inRun]

theorem undisturbed_ran {k : Kind} {c next : Channel} {ok exited : Bool} (undisturbed : Undisturbed k c)
    (inside : Inside k c) (live : nextOp k c = some .loopRun → ∃ running, c.loop = .loop running)
    (stepped : processorStep k c ok = some (next, exited)) : Undisturbed k next := by
  obtain ⟨before, runs⟩ := undisturbed
  have early : ∀ pc, c.processor = .running pc → pc ≤ loopAt k := fun pc now => by
    unfold LeftLoop at before
    rw [now] at before
    exact Nat.le_of_not_lt before
  -- Outside `g_main_loop_run` the thread is not in the loop.
  have outside : ∀ pc op, c.processor = .running pc → (entrypoint k)[pc]? = some op → op ≠ .loopRun →
      c.inRun = false ∧ ¬ loopAt k < pc + 1 := by
    intro pc op now there other
    refine ⟨Bool.eq_false_iff.mpr fun inRun => ?_, ?_⟩
    · have position := inside inRun
      rw [nextOp_running now, there] at position
      exact other (Option.some.inj position)
    · have here : pc ≠ loopAt k := fun same => other (Option.some.inj (there.symm.trans (loopRun_at.mpr same)))
      exact Nat.not_lt.mpr (Nat.lt_of_le_of_ne (early pc now) here)
  cases processorStep_ran stepped with
  | goOn pc op now there other =>
    obtain ⟨apart, later⟩ := outside pc op now there other
    exact ⟨later, fun inRun => absurd ((effect_inRun c op).symm.trans inRun) (by rw [apart]; nofun)⟩
  | enter pc running now there made before' => exact ⟨before, fun _ => rfl⟩
  | leave pc now there within =>
    obtain ⟨running, made⟩ := live ((nextOp_running now).trans there)
    have inRun := within running made
    obtain rfl := loopRun_at.mp there
    rw [playing_blocked now inRun (runs inRun)] at stepped
    cases stepped
  | leaveHelper pc op now there check =>
    obtain ⟨apart, later⟩ := outside pc op now there (checked_not_loopRun check)
    exact ⟨later, fun inRun => absurd (apart.symm.trans inRun) nofun⟩
  | giveUp pc op now there check =>
    obtain ⟨apart, _⟩ := outside pc op now there (checked_not_loopRun check)
    exact ⟨nofun, fun inRun => absurd (apart.symm.trans inRun) nofun⟩
  | exitProcess pc op now there check => exact ⟨before, runs⟩
  | finish pc now past =>
    have inside := (List.getElem?_eq_some_iff.mp (loopRun_at.mpr (rfl : loopAt k = loopAt k))).1
    exact absurd inside (Nat.not_lt.mpr (Nat.le_trans (List.getElem?_eq_none_iff.mp past) (early pc now)))

theorem unbidden_step {memory : Kind → Int} {s t : State} {act : Act} {k : Kind} (entered : Entered memory s)
    (unbidden : QuitMade k s ∨ Undisturbed k (s.chan k)) (silent : act ≠ .endOfStream k) (h : step s act = some t) :
    QuitMade k t ∨ Undisturbed k (t.chan k) := by
  have elsewhere : ∀ {u : State} {j : Kind} {c : Channel}, u.chan = s.chan → u.stops = s.stops →
      (j = k → Undisturbed k (s.chan k) → Undisturbed k c) →
      QuitMade k (u.put j c) ∨ Undisturbed k ((u.put j c).chan k) := by
    intro u j c same stops mine
    refine unbidden.imp (fun made => ?_) fun undisturbed => ?_
    · unfold QuitMade
      rw [put_stops, stops]
      exact made
    · by_cases this : j = k
      · subst this
        rw [put_self]
        exact mine rfl undisturbed
      · rw [put_other _ _ (Ne.symm this), same]
        exact undisturbed
  cases step_moves h with
  | launch j thread created =>
    refine elsewhere rfl rfl fun mine undisturbed => ?_
    subst mine
    cases thread with
    | receiver => exact undisturbed
    | processor =>
      have idle : (s.chan j).processor = .idle :=
        (entered.launched j .processor).mpr (Nat.le_of_eq (start_at.mp created))
      refine ⟨Nat.not_lt_zero _, fun inRun => ?_⟩
      have position := entered.inside j inRun
      simp [nextOp, idle] at position
  | callStop =>
    refine unbidden.imp_left fun made => ?_
    obtain ⟨m, member, more⟩ := made
    exact ⟨m, List.mem_append_left _ member, more⟩
  | stop i made j call now next =>
    by_cases quits : j = k ∧ call = .quit
    · obtain ⟨rfl, rfl⟩ := quits
      have here : made = quitAt j := stop_injective next (stop_quitAt j)
      refine Or.inl ⟨made + 1, List.mem_set (List.getElem?_eq_some_iff.mp now).1 _, ?_⟩
      rw [here]
      exact Nat.lt_succ_self _
    · refine unbidden.imp (late_set now) fun undisturbed => ?_
      by_cases mine : j = k
      · subst mine
        rw [put_self]
        cases call with
        | quit => exact absurd ⟨rfl, rfl⟩ quits
        | deactivate => exact undisturbed
        | closeSocket => exact undisturbed
      · rw [put_other _ _ (Ne.symm mine)]
        exact undisturbed
  | processor j ok c exited moved =>
    refine elsewhere rfl rfl fun mine undisturbed => ?_
    subst mine
    exact undisturbed_ran undisturbed (entered.inside j) (loopRun_live (entered.follows j)) moved
  | receiver j ret receiver moved => exact elsewhere rfl rfl fun mine undisturbed => mine ▸ undisturbed
  | endOfStream j => exact elsewhere rfl rfl fun mine _ => absurd (mine ▸ rfl) silent

/-- Whatever the threads do and whatever other messages come, a processor leaves its main loop only after
an end of stream of its own or a `quit()` of some `stop()`. -/
theorem loop_ends_only_if_told (memory : Kind → Int) (events : List Event) (s : State) (k : Kind)
    (ran : Run.run busStep (initial memory) events = some s) (left : LeftLoop k (s.chan k)) :
    .message k .eos ∈ events ∨ QuitMade k s := by
  by_contra neither
  obtain ⟨quiet, unmade⟩ := not_or.mp neither
  obtain ⟨_, follows, rfl⟩ := Simulation.answers_run messages_answer rfl ran
  rw [Simulation.images_const ran] at follows
  have silent : ∀ act ∈ events.flatMap Event.acts, ∀ _ : State, act ≠ .endOfStream k := by
    rintro act member _ rfl
    obtain ⟨event, among, gives⟩ := List.mem_flatMap.mp member
    cases event with
    | message j m =>
      simp only [Event.acts] at gives
      split at gives
      · rename_i ends
        cases List.mem_singleton.mp gives
        exact quiet (ends ▸ among)
      · cases gives
    | _ => cases List.mem_singleton.mp gives
  have all := Run.always_of_meets (C := fun _ act => act ≠ Act.endOfStream k)
    (I := fun s => Entered memory s ∧ (QuitMade k s ∨ Undisturbed k (s.chan k)))
    (fun _ _ _ inv silent h => ⟨entered_step inv.1 h, unbidden_step inv.1 inv.2 silent h⟩)
    ⟨entered_initial memory, Or.inr ⟨nofun, nofun⟩⟩ (Run.meets_of_forall silent)
  rcases (Run.always_last all follows).2 with made | ⟨inside, _⟩
  · exact unmade made
  · exact inside left

/-- An error, a warning and an end of the audio stream do not end the video loop; its own end of stream does. -/
def errorsThenEnd : List Event :=
  List.replicate 4 .launch ++ List.replicate 51 (.processor .video true) ++
    [.message .video .error, .message .video .warning, .message .audio .eos, .message .video .eos,
     .processor .video true]

theorem loop_told : .message .video .eos ∈ errorsThenEnd ∨
    ∃ s, Run.run busStep (initial fun _ => 0) errorsThenEnd = some s ∧ QuitMade .video s := by
  obtain ⟨s, ran, past⟩ : ∃ s, Run.run busStep (initial fun _ => 0) errorsThenEnd = some s ∧
      (s.chan .video).processor = .running (loopAt .video + 1) := ⟨_, rfl, rfl⟩
  have left : LeftLoop .video (s.chan .video) := by
    unfold LeftLoop
    rw [past]
    exact Nat.lt_succ_self _
  exact (loop_ends_only_if_told (fun _ => 0) errorsThenEnd s .video ran left).imp_right fun made => ⟨s, ran, made⟩

end GstGateway.Pipeline
