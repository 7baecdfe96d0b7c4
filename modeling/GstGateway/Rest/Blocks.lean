import GstGateway.Rest.History
import GstGateway.Rest.Simulation

/-! Histories among the interleavings. Where each handler has made its last call before the next one begins,
the overlapping handlers do what a history of requests does. -/

namespace GstGateway.Overlap

variable {codePage : String → String} {w w' : World} {s t : State} {i : Nat}

/-- What the registry gets to see of a request: nothing where it is refused before `addNewTask` or has no
name to remove. -/
def asked (codePage : String → String) : GstGateway.Request → Option Request
  | .get query _ =>
    match readGet query with
    | .ok p => some (.get (WString2String codePage p.conferenceName))
    | .error _ => none
  | .del query => (query.lookup conferenceNameStr).map fun wide => .del (WString2String codePage wide)

/-- The handlers of a history, in the order of its requests. -/
def askedBy (codePage : String → String) (requests : List (GstGateway.Request × Nat)) (i : Nat) : Option Request :=
  requests[i]?.bind fun request => asked codePage request.1

def Ended (s : State) (i : Nat) : Prop := s.handlers i = .idle ∨ s.handlers i = .done

/-- One request handled by itself is one handler's calls in a row. -/
theorem serve_simulated {request : GstGateway.Request × Nat} (simulates : Simulates w.toMemory w.tasks s)
    (entry : s.handlers i = .entry (asked codePage request.1)) (served : serve codePage w request = some w') :
    ∃ t, Alone i s t ∧ Simulates w'.toMemory w'.tasks t ∧ Ended t i ∧ ∀ j, j ≠ i → t.handlers j = s.handlers j := by
  have stays : ∀ h : Handled, asked codePage request.1 = none → h.world = w → ∃ t, Alone i s t ∧
      Simulates h.world.toMemory h.world.tasks t ∧ Ended t i ∧ ∀ j, j ≠ i → t.handlers j = s.handlers j := by
    rintro h unseen rfl
    rw [unseen] at entry
    exact ⟨s, ⟨[], by simp, rfl⟩, simulates, Or.inl entry, fun _ _ => rfl⟩
  have calls : ∀ h : Handled, (∃ t, Alone i s t ∧ Simulates h.world.toMemory h.world.tasks t ∧
      t.handlers = Function.update s.handlers i .done) → ∃ t, Alone i s t ∧
      Simulates h.world.toMemory h.world.tasks t ∧ Ended t i ∧ ∀ j, j ≠ i → t.handlers j = s.handlers j := by
    rintro h ⟨t, alone, after, handlers⟩
    refine ⟨t, alone, after, Or.inr ?_, fun j other => ?_⟩
    · rw [handlers, Function.update_self]
    · rw [handlers, Function.update_of_ne other]
  obtain ⟨request, fuel⟩ := request
  cases request with
  | get query answers =>
    obtain ⟨h, ended, rfl⟩ := Option.map_eq_some_iff.mp served
    cases parsed : readGet query with
    | error refusal =>
      refine stays h (by simp only [asked, parsed]) ?_
      cases refusal with
      | missing message =>
        simp only [handleGet, parsed] at ended
        cases ended
        rfl
      | threw error =>
        simp only [handleGet, parsed] at ended
        cases ended
        rfl
    | ok p =>
      simp only [asked, parsed] at entry
      rw [handleGet_parsed parsed] at ended
      exact calls h (createTask_simulated simulates entry ended)
  | del query =>
    obtain ⟨h, ended, rfl⟩ := Option.map_eq_some_iff.mp served
    cases named : query.lookup conferenceNameStr with
    | none =>
      refine stays h (by simp only [asked, named, Option.map_none]) ?_
      simp only [handleDel, named] at ended
      cases ended
      rfl
    | some wide =>
      simp only [asked, named, Option.map_some] at entry
      exact calls h (handleDel_simulated simulates named entry ended)

/-- Handlers make their calls in one block each, block after block. -/
def InBlocks (acts : List Act) : Prop := acts.Pairwise fun earlier later => earlier.handler ≤ later.handler

theorem inBlocks_block {block later : List Act} (mine : ∀ act ∈ block, act.handler = i) (blocks : InBlocks later)
    (after : ∀ act ∈ later, i ≤ act.handler) : InBlocks (block ++ later) := by
  refine List.pairwise_append.mpr ⟨?_, blocks, fun act member next there => mine act member ▸ after next there⟩
  exact List.pairwise_of_forall_mem_list fun act member next there =>
    Nat.le_of_eq ((mine act member).trans (mine next there).symm)

theorem history_in_blocks {requests : List (GstGateway.Request × Nat)} {n : Nat}
    (simulates : Simulates w.toMemory w.tasks s)
    (entries : ∀ j, s.handlers (n + j) = .entry (askedBy codePage requests j))
    (ran : Run.run (serve codePage) w requests = some w') :
    ∃ acts t, Run.run step s acts = some t ∧ Simulates w'.toMemory w'.tasks t ∧ InBlocks acts ∧
      (∀ act ∈ acts, n ≤ act.handler) ∧ (∀ j, n ≤ j → Ended t j) ∧ ∀ j, j < n → t.handlers j = s.handlers j := by
  induction requests generalizing w s n with
  | nil =>
    cases Option.some.inj ran
    refine ⟨[], s, rfl, simulates, List.Pairwise.nil, nofun, fun j beyond => Or.inl ?_, fun _ _ => rfl⟩
    obtain ⟨k, rfl⟩ := Nat.exists_eq_add_of_le beyond
    exact entries k
  | cons request rest ih =>
    obtain ⟨next, served, later⟩ := Option.bind_eq_some_iff.mp ran
    obtain ⟨u, ⟨block, mine, ranFirst⟩, first, ended, others⟩ := serve_simulated (i := n) simulates (entries 0) served
    have waiting : ∀ j, u.handlers (n + 1 + j) = .entry (askedBy codePage rest j) := by
      intro j
      rw [others _ (by omega), Nat.add_assoc, Nat.add_comm 1 j]
      exact entries (j + 1)
    obtain ⟨acts, t, run, last, blocks, after, quiet, kept⟩ := ih first waiting later
    refine ⟨block ++ acts, t, ?_, last, ?_, fun act member => ?_, fun j from_ => ?_,
      fun j before => ?_⟩
    · rw [Run.run_append, ranFirst]
      exact run
    · exact inBlocks_block mine blocks fun act member => Nat.le_of_succ_le (after act member)
    · rcases List.mem_append.mp member with here | other
      · exact Nat.le_of_eq (mine act here).symm
      · exact Nat.le_of_succ_le (after act other)
    · rcases Nat.lt_or_eq_of_le from_ with beyond | rfl
      · exact quiet j beyond
      · unfold Ended
        rw [kept n (Nat.lt_succ_self n)]
        exact ended
    · rw [kept j (Nat.lt_succ_of_lt before), others j (Nat.ne_of_lt before)]

theorem simulates_initial (requests : Nat → Option Request) : Simulates {} [] (initial requests) where
  defined := rfl
  tasks := rfl
  next := rfl
  built := fun _ none => absurd none (Nat.not_lt_zero _)
  name := fun _ none => absurd none (Nat.not_lt_zero _)
  running := fun _ none => absurd none (Nat.not_lt_zero _)
  stopped := fun _ none => absurd none (Nat.not_lt_zero _)
  recorded := fun _ call => call.elim (fun started => nomatch started) fun stopped => nomatch stopped

/-- Every history is an interleaving of its handlers, one block of calls after another, that ends with the same
registry, the same names, and the same conferences started and stopped. -/
theorem history_is_interleaving (codePage : String → String) (requests : List (GstGateway.Request × Nat))
    (w : World) (ran : Run.run (serve codePage) {} requests = some w) :
    ∃ acts s, Run.run step (initial (askedBy codePage requests)) acts = some s ∧ InBlocks acts ∧
      (∀ i, Ended s i) ∧ Simulates w.toMemory w.tasks s := by
  have entries : ∀ i, (initial (askedBy codePage requests)).handlers (0 + i) = .entry (askedBy codePage requests i) :=
    fun i => congrArg (initial (askedBy codePage requests)).handlers (Nat.zero_add i)
  obtain ⟨acts, s, run, simulates, blocks, _, ended, _⟩ :=
    history_in_blocks (simulates_initial (askedBy codePage requests)) entries ran
  exact ⟨acts, s, run, blocks, fun i => ended i (Nat.zero_le i), simulates⟩

/-- Two conferences of one name, and a DEL of it. -/
def twoAndDel : List (GstGateway.Request × Nat) :=
  [(.get (getA "") allBound, 0), (.get (getA "10.0.0.5") allBound, 0), (.del delA, 1)]

theorem two_and_del_interleave : ∃ acts s, Run.run step (initial (askedBy id twoAndDel)) acts = some s ∧
    InBlocks acts ∧ s.tasks.elems = [1] := by
  obtain ⟨w, ran, left⟩ : ∃ w, Run.run (serve id) {} twoAndDel = some w ∧ w.tasks = [1] := ⟨_, rfl, rfl⟩
  obtain ⟨acts, s, run, blocks, _, simulates⟩ := history_is_interleaving id twoAndDel w ran
  exact ⟨acts, s, run, blocks, simulates.tasks.trans left⟩

end GstGateway.Overlap
