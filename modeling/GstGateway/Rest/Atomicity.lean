import GstGateway.Rest.Handlers

/-! A GET that does not reply success should leave no trace: the handler ends, the registry
holds the tasks it held, none of them has been stopped, and no port is left bound. -/

namespace GstGateway

variable (codePage : String → String) (query : Query) (answers : Nat → Attempt) (w : World)

/-- What a GET that fails should leave behind. -/
def FailsClean : Prop :=
  (∀ fuel h, handleGet codePage query answers w fuel = some h → ¬ h.Succeeded) →
    ∃ fuel h, handleGet codePage query answers w fuel = some h ∧ h.world.tasks = w.tasks ∧
      (∀ a < w.next, h.world.calls.count (.stop a) = w.calls.count (.stop a)) ∧
      PortsWithin w.os h.world.os ∅

variable {codePage query answers w} {p : GetParams}

theorem failsClean_refused {refusal : Refusal} (refused : readGet query = .error refusal) :
    FailsClean codePage query answers w := by
  intro _
  have unchanged : ∃ h, handleGet codePage query answers w 0 = some h ∧ h.world = w := by
    unfold handleGet
    rw [refused]
    cases refusal with
    | missing message => exact ⟨_, rfl, rfl⟩
    | threw error => exact ⟨_, rfl, rfl⟩
  obtain ⟨h, ended, same⟩ := unchanged
  exact ⟨0, h, ended, by rw [same], by simp [same], by rw [same]; exact portsWithin_refl _ _⟩

theorem failsClean_alone (parsed : readGet query = .ok p) (failed : ¬ Startable answers)
    (empty : w.tasks = []) : FailsClean codePage query answers w := by
  intro _
  have split : (initialised codePage p answers w).2.tasks = [w.next] := by
    rw [initialised_tasks, empty, List.nil_append]
  obtain ⟨fuel, w', removed, tasks, memory⟩ := World.removeTask_first split
  rw [initialised_nameOf, if_pos rfl] at removed
  refine ⟨fuel, { world := w', replies := [errorAnswer "Cannot find available port to receive A/V !!!"] },
    ?_, tasks.trans empty.symm, ?_, ?_⟩
  · rw [handleGet_parsed parsed, createTask_refused failed, removed, Option.map_some]
  · intro a old
    have other : w.next ≠ a := Nat.ne_of_gt old
    change w'.toMemory.calls.count (.stop a) = _
    rw [memory]
    simp [Memory.stop, initialised_calls, other]
  · obtain ⟨r, held, within⟩ := initialised_ports codePage p w failed
    change PortsWithin w.os w'.toMemory.os ∅
    rw [memory]
    exact stop_ports held within

theorem not_failsClean (parsed : readGet query = .ok p) (failed : ¬ Startable answers)
    (occupied : w.tasks ≠ []) : ¬ FailsClean codePage query answers w := by
  intro clean
  obtain ⟨first, others, split⟩ := List.exists_cons_of_ne_nil occupied
  have unsuccessful : ∀ fuel h, handleGet codePage query answers w fuel = some h → ¬ h.Succeeded :=
    fun fuel h ended success => failed ((handleGet_succeeds_iff ended).mp success).2
  obtain ⟨fuel, h, ended, same, _⟩ := clean unsuccessful
  rw [handleGet_parsed parsed, createTask_refused failed] at ended
  obtain ⟨w', removed, rfl⟩ := Option.map_eq_some_iff.mp ended
  have fresh : w.next ∉ w.tasks := fun member => Nat.lt_irrefl _ (w.registered _ member)
  have listed : w.next ∈ w'.tasks := by
    have removal := World.removeTask_cases removed
    generalize w'.tasks = tasks at removal
    generalize w'.toMemory = memory at removal
    have ready : (initialised codePage p answers w).2.tasks = first :: (others ++ [w.next]) := by
      rw [initialised_tasks, split, List.cons_append]
    cases removal with
    | none empty => simp [empty] at ready
    | first a rest taken _ =>
      obtain ⟨rfl, rfl⟩ := List.cons.inj (taken.symm.trans ready)
      simp
  exact fresh (same ▸ listed)

/-- A failing GET is undone exactly where no other conference is registered, or where it fails
before its task is. -/
theorem failsClean_iff (codePage : String → String) (query : Query) (answers : Nat → Attempt) (w : World) :
    FailsClean codePage query answers w ↔
      w.tasks = [] ∨ (∃ refusal, readGet query = .error refusal) ∨ Startable answers := by
  cases parsed : readGet query with
  | error refusal =>
    exact ⟨fun _ => Or.inr (Or.inl ⟨refusal, rfl⟩), fun _ => failsClean_refused parsed⟩
  | ok p =>
    by_cases ok : Startable answers
    · refine ⟨fun _ => Or.inr (Or.inr ok), fun _ unsuccessful => ?_⟩
      obtain ⟨h, ended, success⟩ := get_succeeds parsed ok
      exact absurd success (unsuccessful 0 h ended)
    · by_cases empty : w.tasks = []
      · exact ⟨fun _ => Or.inl empty, fun _ => failsClean_alone parsed ok empty⟩
      · refine ⟨fun clean => absurd clean (not_failsClean parsed ok empty), ?_⟩
        rintro (none | ⟨refusal, refused⟩ | startable)
        · exact absurd none empty
        · cases refused
        · exact absurd startable ok

def allRefused (_port : Nat) : Attempt := { socket := some 1, bind := .refused ⟨10048, by decide⟩ }

def getB : Query :=
  [("sipAdaptorVideoPort", "6002"), ("sipAdaptorAudioPort", "6000"), ("conferenceName", "b"),
   ("sipAdaptorIP", "10.0.0.5")]

def onlyA : World := (({} : World).addNewTask "a" "10.0.0.5" 5000 5002).2

theorem allRefused_not_startable : ¬ Startable allRefused := by
  rintro ⟨⟨_, _, _, _, bound⟩, _⟩
  cases bound

/-- A GET for `b` that finds no port never ends: its rollback spins on `a`. -/
theorem failing_get_spins :
    (∀ fuel, handleGet id getB allRefused onlyA fuel = none) ∧ ¬ FailsClean id getB allRefused onlyA := by
  have parsed : readGet getB = .ok ⟨"b", "10.0.0.5", 6002, 6000⟩ := by decide
  refine ⟨fun fuel => ?_, not_failsClean parsed allRefused_not_startable (by decide)⟩
  rw [handleGet_parsed parsed, createTask_refused allRefused_not_startable, World.removeTask_spins initialised_tasks (by rw [initialised_nameOf]; decide)]
  rfl

end GstGateway
