import GstGateway.Pipeline.Stages

/-! A receiver leaves its first loop only by seeing `syncFlag` set; `quit()` does not reach that
loop. The flag is set for as long as the main loop runs, or not at all where the set-up fails. -/

namespace GstGateway.Pipeline

def closeAt : Kind → Nat
  | .video => 2
  | .audio => 5

def Ended (c : Channel) : Prop := ∃ ret, c.processor = .ended ret

/-- No receiver that was told to quit waits for the flag of a processor that has ended. -/
def CanFinish (s : State) : Prop :=
  ∀ k, (∃ made ∈ s.stops, closeAt k < made) → Ended (s.chan k) → (s.chan k).receiver.pc ≠ .waiting

def ends (k : Kind) (c : Channel) (ok : Bool) : Bool :=
  match c.processor with
  | .running pc =>
    match (entrypoint k)[pc]? with
    | some op => control c op ok = .giveUp
    | none => true
  | .idle | .ended _ => false

/-- `entrypoint` ends after its receiver has left the loop that waits for the flag. -/
def EndsSeen (s : State) : Act → Prop
  | .processor k ok => ends k (s.chan k) ok = true → (s.chan k).receiver.pc ≠ .waiting
  | _ => True

instance (s : State) (act : Act) : Decidable (EndsSeen s act) := by
  unfold EndsSeen
  split <;> infer_instance

theorem ends_of_ended {k : Kind} {c next : Channel} {ok exited : Bool}
    (h : processorStep k c ok = some (next, exited)) (ended : Ended next) : ends k c ok = true := by
  obtain ⟨ret, returned⟩ := ended
  unfold processorStep at h
  unfold ends
  cases now : c.processor with
  | idle | ended before => simp only [now] at h; cases h
  | running pc =>
    simp only [now] at h ⊢
    cases there : (entrypoint k)[pc]? with
    | none => rfl
    | some op =>
      simp only [there, execute] at h ⊢
      split at h
      · obtain ⟨_, moved, same⟩ := Option.map_eq_some_iff.mp h
        cases same
        unfold runLoop at moved
        split at moved <;> cases moved
        · rw [now] at returned
          cases returned
        · cases returned
      · split at h
        · cases h; cases returned
        · cases h; cases returned
        · rename_i leads
          exact decide_eq_true leads
        · cases h
          rw [now] at returned
          cases returned

def Seen (s : State) : Prop := ∀ k, Ended (s.chan k) → (s.chan k).receiver.pc ≠ .waiting

theorem seen_put {s u : State} {k : Kind} {c : Channel} (seen : Seen s) (same : u.chan = s.chan)
    (mine : Ended c → c.receiver.pc ≠ .waiting) : Seen (u.put k c) :=
  (forall_put (P := fun _ c => Ended c → c.receiver.pc ≠ .waiting) seen same).mpr mine

theorem seen_step {s t : State} {act : Act} (launched : Launched s) (seen : Seen s) (met : EndsSeen s act)
    (h : step s act = some t) : Seen t := by
  cases step_moves h with
  | launch k thread next =>
    refine seen_put seen rfl ?_
    cases thread with
    | receiver =>
      -- The receiver's thread is created first, so its processor cannot have ended.
      rintro ⟨ret, returned⟩ _
      have idle : (s.chan k).processor = .idle := (launched k .processor).mpr (by
        rw [start_at.mp next]
        cases k <;> decide)
      have returned : (s.chan k).processor = .ended ret := returned
      rw [idle] at returned
      cases returned
    | processor =>
      rintro ⟨ret, returned⟩
      cases returned
  | callStop => exact seen
  | stop i made k call now next =>
    refine seen_put seen rfl ?_
    cases call <;> exact seen k
  | processor k ok c exited moved =>
    refine seen_put seen rfl fun ended => ?_
    rw [(ran_threads (processorStep_ran moved)).2]
    exact met (ends_of_ended moved ended)
  | receiver k ret receiver moved =>
    obtain ⟨pc, leads, rfl⟩ := UdpReceiver.threadStep_cases moved
    refine seen_put seen rfl fun ended waits => ?_
    exact seen k ended ((UdpReceiver.nextPc_waiting leads).mp waits).1
  | endOfStream k => exact seen_put seen rfl (seen k)

/-- In every run in which each `entrypoint` ends after its receiver has seen the flag, every receiver
that was told to quit can finish. -/
theorem canFinish_of_endsSeen (memory : Kind → Int) (acts : List Act)
    (seen : Run.Meets step EndsSeen (initial memory) acts) :
    Run.Always step CanFinish (initial memory) acts := by
  have start : Launched (initial memory) ∧ Seen (initial memory) :=
    ⟨(sound_initial memory).launched, fun k ended => by obtain ⟨ret, returned⟩ := ended; cases returned⟩
  have always : Run.Always step (fun s => Launched s ∧ Seen s) (initial memory) acts := by
    refine Run.always_of_meets ?_ start seen
    rintro s act t ⟨launched, seen⟩ met h
    exact ⟨launched_step launched h, seen_step launched seen met h⟩
  exact Run.always_imp (fun s inv k _ => inv.2 k) always

def endThenStop : List Act :=
  List.replicate 4 .launch ++ List.replicate 49 (.processor .video true) ++ [.receiver .video 0] ++
    List.replicate 2 (.processor .video true) ++ [.endOfStream .video] ++
    List.replicate 6 (.processor .video true) ++ [.callStop] ++ List.replicate 6 (.stop 0)

theorem canFinish_endThenStop : Run.Always step CanFinish (initial fun _ => 0) endThenStop :=
  canFinish_of_endsSeen _ _ (Run.meets_of_check (by decide))

theorem ended_waiting_evolves {k : Kind} {first : Int} {c next : Channel} (follows : Follows k first c)
    (ended : Ended c) (waits : c.receiver.pc = .waiting) (evolves : Evolves k c next) :
    Ended next ∧ next.receiver.pc = .waiting := by
  obtain ⟨ret, returned⟩ := ended
  have cleared := follows_ended follows returned
  cases evolves with
  | receiverStarts idle early => rw [waits] at idle; cases idle
  | processorStarts idle late => rw [returned] at idle; cases idle
  | quits => exact ⟨⟨ret, returned⟩, waits⟩
  | deactivated => exact ⟨⟨ret, returned⟩, waits⟩
  | ran next exited moved =>
    obtain ⟨pc, now⟩ := ran_running moved
    rw [returned] at now
    cases now
  | received result receiver moved =>
    obtain ⟨pc, leads, rfl⟩ := UdpReceiver.threadStep_cases moved
    exact ⟨⟨ret, returned⟩, (UdpReceiver.nextPc_waiting leads).mpr ⟨waits, cleared⟩⟩

/-- Once its processor has ended, a waiting receiver waits for good: nothing sets the flag again. -/
theorem waits_for_good {memory : Kind → Int} {s t : State} {k : Kind} {acts : List Act} (sound : Sound memory s)
    (ended : Ended (s.chan k)) (waits : (s.chan k).receiver.pc = .waiting)
    (ran : Run.run step s acts = some t) : Ended (t.chan k) ∧ (t.chan k).receiver.pc = .waiting := by
  refine (Run.run_invariant
    (I := fun s => Sound memory s ∧ Ended (s.chan k) ∧ (s.chan k).receiver.pc = .waiting)
    ?_ ⟨sound, ended, waits⟩ ran).2
  rintro s act t ⟨sound, ended, waits⟩ h
  refine ⟨sound_step sound h, ?_⟩
  rcases chan_evolves sound.launched h k with same | evolves
  · rw [same]
    exact ⟨ended, waits⟩
  · exact ended_waiting_evolves (sound.follows k) ended waits evolves

theorem stop_step {s : State} {i made : Nat} (alive : s.exited = false) (now : s.stops[i]? = some made)
    (more : made < stop.length) :
    ∃ t, step s (.stop i) = some t ∧ t.exited = false ∧ t.stops[i]? = some (made + 1) := by
  obtain ⟨⟨k, call⟩, next⟩ : ∃ call, stop[made]? = some call := ⟨_, List.getElem?_eq_getElem more⟩
  have taken : step s (.stop i) =
      some ({ s with stops := s.stops.set i (made + 1) }.put k (request (s.chan k) call)) := by
    simp [step, alive, now, next]
  refine ⟨_, taken, alive, ?_⟩
  exact List.getElem?_set_self (List.getElem?_eq_some_iff.mp now).1

theorem stop_run {s : State} {i made left : Nat} (alive : s.exited = false) (now : s.stops[i]? = some made)
    (rest : made + left = stop.length) :
    ∃ t, Run.run step s (List.replicate left (.stop i)) = some t ∧ t.stops[i]? = some stop.length := by
  induction left generalizing s made with
  | zero => exact ⟨s, rfl, by rw [now, ← rest]; rfl⟩
  | succ left ih =>
    obtain ⟨next, taken, alive, now⟩ := stop_step alive now (by omega)
    obtain ⟨t, ran, done⟩ := ih alive now (by omega)
    exact ⟨t, by rw [List.replicate_succ, Run.run, taken]; exact ran, done⟩

/-- Where a processor has ended while its receiver waits, a `stop()` leaves the receiver behind. -/
theorem stop_leaves_waiting {memory : Kind → Int} {s : State} {k : Kind} (sound : Sound memory s)
    (alive : s.exited = false) (ended : Ended (s.chan k)) (waits : (s.chan k).receiver.pc = .waiting) :
    ∃ t, Run.run step s (.callStop :: List.replicate stop.length (.stop s.stops.length)) = some t ∧
      ¬ CanFinish t := by
  have called : step s .callStop = some { s with stops := s.stops ++ [0] } := by simp [step, alive]
  obtain ⟨t, ran, done⟩ := stop_run (s := { s with stops := s.stops ++ [0] }) (i := s.stops.length) alive
    List.getElem?_concat_length (Nat.zero_add _)
  have whole : Run.run step s (.callStop :: List.replicate stop.length (.stop s.stops.length)) = some t := by
    rw [Run.run, called]
    exact ran
  obtain ⟨returned, still⟩ := waits_for_good sound ended waits whole
  refine ⟨t, whole, fun finishes => finishes k ⟨stop.length, List.mem_of_getElem? done, ?_⟩ returned still⟩
  cases k <;> decide

/-- The first source cannot be linked to its decoder, so `entrypoint` returns -1 without setting the
flag. -/
def setUpFails : List Act :=
  List.replicate 4 .launch ++ List.replicate 24 (.processor .video true) ++
    [.processor .video false, .callStop] ++ List.replicate 6 (.stop 0)

theorem waiting_after_failed_setUp :
    (∃ t, Run.run step (initial fun _ => 0) setUpFails = some t ∧ t.stops = [6] ∧
      (t.chan .video).processor = .ended (-1) ∧ (t.chan .video).receiver.pc = .waiting) ∧
    ¬ Run.Always step CanFinish (initial fun _ => 0) setUpFails := by
  have reached : ∃ t, Run.run step (initial fun _ => 0) setUpFails = some t ∧ t.stops = [6] ∧
      (t.chan .video).processor = .ended (-1) ∧ (t.chan .video).receiver.pc = .waiting :=
    ⟨_, rfl, rfl, rfl, rfl⟩
  refine ⟨reached, fun always => ?_⟩
  obtain ⟨t, ran, stops, returned, waits⟩ := reached
  refine Run.always_last always ran .video ⟨6, ?_, by decide⟩ ⟨-1, returned⟩ waits
  simp [stops]

end GstGateway.Pipeline
