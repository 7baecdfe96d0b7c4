import GstGateway.Rest.Atomicity
import GstGateway.Rest.History

/-! A client waits for its reply. The handlers reply on their error paths and where a conference was
created, but not where one was removed, not where a number does not parse, and not where the removal
that undoes a GET never ends. -/

namespace GstGateway

def handle (codePage : String → String) (w : World) : Request × Nat → Option Handled
  | (.get query answers, fuel) => handleGet codePage query answers w fuel
  | (.del query, fuel) => handleDel codePage query w fuel

theorem serve_handle (codePage : String → String) (w : World) (request : Request × Nat) :
    serve codePage w request = (handle codePage w request).map Handled.world := by
  obtain ⟨request, fuel⟩ := request
  cases request <;> rfl

/-- The handler ends, and by then it has replied exactly once. -/
def RepliesOnce (codePage : String → String) (w : World) (request : Request) : Prop :=
  ∃ fuel h, handle codePage w (request, fuel) = some h ∧ h.replies.length = 1

/-- The requests that get their one reply. A GET that finds no port is answered where the rollback
finds its name at once: no task is registered, or the first one has the requested name. -/
def Answered (codePage : String → String) (w : World) : Request → Prop
  | .get query answers =>
    (∃ message, readGet query = .error (.missing message)) ∨
    ∃ p, readGet query = .ok p ∧ (Startable answers ∨
      ∀ a, w.tasks.head? = some a → w.nameOf a = WString2String codePage p.conferenceName)
  | .del query => query.lookup conferenceNameStr = none

variable {codePage : String → String} {query : Query} {answers : Nat → Attempt} {w : World}
  {p : GetParams} {fuel : Nat}

theorem initialised_first (codePage : String → String) (p : GetParams) (answers : Nat → Attempt) (w : World) :
    ∃ first others, (initialised codePage p answers w).2.tasks = first :: others ∧
      ((initialised codePage p answers w).2.nameOf first = WString2String codePage p.conferenceName ↔
        ∀ a, w.tasks.head? = some a → w.nameOf a = WString2String codePage p.conferenceName) := by
  cases split : w.tasks with
  | nil =>
    refine ⟨w.next, [], by rw [initialised_tasks, split]; rfl, ?_⟩
    rw [initialised_nameOf, if_pos rfl]
    exact iff_of_true rfl (by simp)
  | cons first others =>
    have old : first ≠ w.next := Nat.ne_of_lt (w.registered first (by rw [split]; exact List.mem_cons_self))
    refine ⟨first, others ++ [w.next], by rw [initialised_tasks, split]; rfl, ?_⟩
    rw [initialised_nameOf, if_neg old]
    simp

theorem createTask_replies (h : Handled) (ended : createTask codePage p answers w fuel = some h) :
    h.replies.length = 1 := by
  cases createTask_cases ended with
  | started ok => rfl
  | rolledBack failed w' removed => rfl

theorem createTask_ends_iff : (∃ fuel h, createTask codePage p answers w fuel = some h) ↔
    Startable answers ∨
      ∀ a, w.tasks.head? = some a → w.nameOf a = WString2String codePage p.conferenceName := by
  obtain ⟨first, others, split, named⟩ := initialised_first codePage p answers w
  rw [← named]
  by_cases ok : Startable answers
  · exact iff_of_true ⟨0, _, createTask_startable ok⟩ (Or.inl ok)
  · simp only [createTask_refused ok]
    by_cases same : (initialised codePage p answers w).2.nameOf first = WString2String codePage p.conferenceName
    · obtain ⟨fuel, w', removed, _⟩ := World.removeTask_first split
      rw [same] at removed
      exact iff_of_true ⟨fuel, _, by rw [removed]; rfl⟩ (Or.inr same)
    · refine iff_of_false ?_ (not_or.mpr ⟨ok, same⟩)
      rintro ⟨fuel, h, ended⟩
      rw [World.removeTask_spins split same] at ended
      cases ended

theorem handleDel_replies {wide : String} {h : Handled} (named : query.lookup conferenceNameStr = some wide)
    (ended : handleDel codePage query w fuel = some h) : h.replies = [] := by
  obtain ⟨w', _, rfl⟩ := handleDel_cases named ended
  rfl

theorem get_answered (answers : Nat → Attempt) : (∃ fuel h, handleGet codePage query answers w fuel = some h ∧
    h.replies.length = 1) ↔ Answered codePage w (.get query answers) := by
  unfold Answered
  dsimp only
  cases parsed : readGet query with
  | error refusal =>
    cases refusal with
    | missing message =>
      have ended : handleGet codePage query answers w 0 =
          some { world := w, replies := [errorAnswer message] } := by simp only [handleGet, parsed]
      exact iff_of_true ⟨0, _, ended, rfl⟩ (Or.inl ⟨message, rfl⟩)
    | threw error =>
      refine iff_of_false ?_ ?_
      · rintro ⟨fuel, h, ended, once⟩
        simp only [handleGet, parsed] at ended
        cases ended
        cases once
      · rintro (⟨message, missing⟩ | ⟨p, ok, _⟩)
        · cases missing
        · cases ok
  | ok p =>
    simp only [handleGet_parsed parsed]
    have ends : (∃ fuel h, createTask codePage p answers w fuel = some h) ↔ _ := createTask_ends_iff
    constructor
    · rintro ⟨fuel, h, ended, _⟩
      exact Or.inr ⟨p, rfl, ends.mp ⟨fuel, h, ended⟩⟩
    · rintro (⟨message, missing⟩ | ⟨q, same, condition⟩)
      · cases missing
      · cases same
        obtain ⟨fuel, h, ended⟩ := ends.mpr condition
        exact ⟨fuel, h, ended, createTask_replies h ended⟩

theorem del_answered : (∃ fuel h, handleDel codePage query w fuel = some h ∧ h.replies.length = 1) ↔
    query.lookup conferenceNameStr = none := by
  cases named : query.lookup conferenceNameStr with
  | none =>
    have ended : handleDel codePage query w 0 = some { world := w, replies :=
        [errorAnswer "no conferenceNameStr in queryParameters"] } := by simp only [handleDel, named]
    exact iff_of_true ⟨0, _, ended, rfl⟩ rfl
  | some wide =>
    refine iff_of_false ?_ (Option.some_ne_none wide)
    rintro ⟨fuel, h, ended, once⟩
    rw [handleDel_replies named ended] at once
    cases once

/-- Each handler replies exactly once for exactly these requests. -/
theorem repliesOnce_iff (codePage : String → String) (w : World) (request : Request) :
    RepliesOnce codePage w request ↔ Answered codePage w request := by
  cases request with
  | get query answers => exact get_answered answers
  | del query => exact del_answered

/-- A DEL of the only conference removes it and ends without a reply. -/
theorem del_without_reply :
    (∃ h, handle id onlyA (.del delA, 1) = some h ∧ h.world.tasks = [] ∧ h.replies = []) ∧
      ¬ RepliesOnce id onlyA (.del delA) := by
  have named : delA.lookup conferenceNameStr = some "a" := by decide
  have removes : ∃ h, handle id onlyA (.del delA, 1) = some h ∧ h.world.tasks = [] := ⟨_, rfl, rfl⟩
  have silent : ∀ {fuel h}, handle id onlyA (.del delA, fuel) = some h → h.replies = [] :=
    fun ended => handleDel_replies named ended
  constructor
  · obtain ⟨h, ended, empty⟩ := removes
    exact ⟨h, ended, empty, silent ended⟩
  · rintro ⟨fuel, h, ended, once⟩
    rw [silent ended] at once
    cases once

end GstGateway
