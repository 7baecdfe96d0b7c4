import GstGateway.Rest.Ports

/-! The registry over a whole history. A DEL and the rollback of a GET take nothing but the front task,
so the conferences are a queue: they leave in the order they came. -/

namespace GstGateway

variable {codePage : String → String} {w : World} {h : Handled} {name : String}

/-- The tasks that were stopped and then the registered ones are all tasks ever created, in order. -/
def IsQueue (w : World) : Prop := stoppedSince [] w.calls ++ w.tasks = List.range w.next

theorem stopped_snoc (calls : List Call) (call : Call) :
    stoppedSince [] (calls ++ [call]) = stoppedSince [] calls ++ stoppedSince [] [call] := by
  simp [stoppedSince]

theorem queue_initialised {p : GetParams} {answers : Nat → Attempt} (queue : IsQueue w) :
    IsQueue (initialised codePage p answers w).2 := by
  unfold IsQueue at queue ⊢
  rw [initialised_tasks, initialised_calls, ← List.append_assoc, queue]
  exact List.range_succ.symm

theorem queue_start {a : Addr} (queue : IsQueue w) : IsQueue (w.start a) := by
  unfold IsQueue at queue ⊢
  rw [show (w.start a).calls = w.calls ++ [.start a] from rfl, stopped_snoc]
  exact (congrArg (· ++ w.tasks) (List.append_nil _)).trans queue

theorem queue_removal {w' : World} (queue : IsQueue w) (removal : Removal w name w'.tasks w'.toMemory) :
    IsQueue w' := by
  rcases removal_world removal with ⟨tasks, memory⟩ | ⟨a, split, memory⟩
  · unfold IsQueue
    rw [memory, tasks]
    exact queue
  · unfold IsQueue at queue ⊢
    rw [split] at queue
    rw [memory, show (w.stop a).2.calls = w.calls ++ [.stop a] from rfl, stopped_snoc, List.append_assoc]
    exact queue

theorem queue_outcome {request : Request} (queue : IsQueue w) (outcome : Outcome codePage w request h) :
    IsQueue h.world := by
  cases outcome with
  | refused _ _ same failure => exact same ▸ queue
  | created query answers p ok => exact queue_start (queue_initialised queue)
  | undone query answers p _ removal failure => exact queue_removal (queue_initialised queue) removal
  | removed query name _ removal silent => exact queue_removal queue removal

theorem queue_step {request : Request × Nat} {w' : World} (queue : IsQueue w)
    (served : serve codePage w request = some w') : IsQueue w' := by
  rw [serve_handle] at served
  obtain ⟨h, ended, rfl⟩ := Option.map_eq_some_iff.mp served
  exact queue_outcome queue (handle_outcome ended)

/-- In every history conferences are stopped in the order of their creation, each once, and the others
are registered in that order. -/
theorem history_is_queue (codePage : String → String) (requests : List (Request × Nat)) :
    Run.Always (serve codePage) IsQueue {} requests :=
  Run.always_invariant (fun _ _ _ queue served => queue_step queue served) rfl

end GstGateway
