import Mathlib.Data.List.Induction
import GstGateway.Foundation.Serial
import GstGateway.Registry.Order

/-! Overlapping GETs. Where no DEL comes in between and every port search finds a port, any interleaving
of GETs leaves exactly the state that the same calls leave when they are made handler by handler. -/

namespace GstGateway.Overlap

open Serial (own entered oneByOne)

/-- The calls of a GET: `addNewTask`, four assignments, the port searches, `start`. -/
def callsOfGet : Nat := 7

/-- No handler is at work on a task. -/
def Quiet (s : State) : Prop := ∀ i a, ¬ Builds a (s.handlers i)

variable {requests : Nat → Option Request} {acts adds : List Act} {act : Act} {s t : State} {i : Nat} {name : String}

/-! ### One after the other -/

/-- The vector after `addNewTask` calls, with the slack of each. -/
def filled (slacks : List Nat) : Vec Addr :=
  slacks.foldl (fun tasks slack => tasks.pushBack tasks.elems.length slack) .empty

theorem filled_length (slacks : List Nat) : (filled slacks).elems.length = slacks.length := by
  induction slacks using List.reverseRecOn with
  | nil => rfl
  | append_singleton slacks slack ih => simpa [filled] using ih

theorem filled_snoc (slacks : List Nat) (slack : Nat) :
    filled (slacks ++ [slack]) = (filled slacks).pushBack slacks.length slack := by
  rw [← filled_length slacks]
  simp [filled]

theorem serve_one {rest : List Act} (fine : s.undefined = false) (now : s.handlers act.handler = .adding name)
    (mine : ∀ other ∈ rest, other.handler = act.handler ∧ other.found = true)
    (long : (act :: rest).length = callsOfGet) :
    Run.run step s (act :: rest) = some
      { tasks := s.tasks.pushBack s.next act.slack
        heap := Function.update s.heap s.next { name, assigned := pointers, running := true }
        next := s.next + 1
        handlers := Function.update s.handlers act.handler .done } := by
  obtain ⟨i, found, slack⟩ := act
  obtain ⟨slacks, rfl⟩ : ∃ slacks : List Nat, rest = slacks.map fun slack => { handler := i, slack } := by
    refine ⟨rest.map Act.slack, ?_⟩
    rw [List.map_map]
    refine (List.map_id'' (fun _ => rfl) rest).symm.trans (List.map_congr_left fun other member => ?_)
    obtain ⟨same, finds⟩ := mine other member
    obtain ⟨j, found, slack⟩ := other
    cases same
    cases finds
    rfl
  rcases slacks with _ | ⟨k₁, _ | ⟨k₂, _ | ⟨k₃, _ | ⟨k₄, _ | ⟨k₅, _ | ⟨k₆, _ | ⟨k₇, slacks⟩⟩⟩⟩⟩⟩⟩ <;> cases long
  simp [Run.run, step, fine, now, State.add, State.write, State.goto, pointers, Function.update_idem]

def Created (requests : Nat → Option Request) (i : Nat) : Task :=
  match requests i with
  | some (.get name) => { name, assigned := pointers, running := true }
  | _ => {}

/-- The state after whole GETs, each served in one piece, whose `addNewTask` calls were `adds`. -/
def served (requests : Nat → Option Request) (adds : List Act) : State where
  tasks := filled (adds.map Act.slack)
  heap a := (adds[a]?).elim {} fun act => Created requests act.handler
  next := adds.length
  handlers i := if i ∈ adds.map Act.handler then .done else .entry (requests i)

theorem serve_next {rest : List Act} (new : act.handler ∉ adds.map Act.handler)
    (asks : requests act.handler = some (.get name))
    (mine : ∀ other ∈ rest, other.handler = act.handler ∧ other.found = true)
    (long : (act :: rest).length = callsOfGet) :
    Run.run step (served requests adds) (act :: rest) = some (served requests (adds ++ [act])) := by
  have now : (served requests adds).handlers act.handler = .adding name := by
    simp only [served, if_neg new, asks, Handler.entry]
  rw [serve_one rfl now mine long]
  simp only [served, List.map_append, List.map_singleton, List.length_append, List.length_singleton, filled_snoc,
    List.length_map, Option.some.injEq, State.mk.injEq, true_and, and_true]
  constructor
  · funext a
    rcases Nat.lt_trichotomy a adds.length with old | rfl | later
    · rw [Function.update_of_ne (Nat.ne_of_lt old), List.getElem?_append_left old]
    · rw [Function.update_self, List.getElem?_concat_length]
      simp [Created, asks]
    · rw [Function.update_of_ne (Nat.ne_of_gt later), List.getElem?_eq_none (by omega),
        List.getElem?_eq_none (by simp; omega)]
  · funext j
    by_cases same : j = act.handler
    · subst same
      simp
    · simp [same]

/-- The calls of the handlers that made the `addNewTask` calls `adds`, one handler after the other. -/
theorem run_oneByOne (nodup : (adds.map Act.handler).Nodup)
    (whole : ∀ act ∈ adds, (∃ name, requests act.handler = some (.get name)) ∧
      ∃ rest, own Act.handler acts act.handler = act :: rest ∧ (act :: rest).length = callsOfGet)
    (succeed : ∀ act ∈ acts, act.found = true) :
    Run.run step (initial requests) ((adds.map Act.handler).flatMap (own Act.handler acts)) =
      some (served requests adds) := by
  induction adds using List.reverseRecOn with
  | nil => simp [Run.run, initial, served, filled]
  | append_singleton adds act ih =>
    rw [List.map_append] at nodup
    obtain ⟨before, _, apart⟩ := List.nodup_append.mp nodup
    have new : act.handler ∉ adds.map Act.handler := fun member => apart _ member _ (List.mem_singleton_self _) rfl
    obtain ⟨⟨name, asks⟩, rest, mine, long⟩ := whole act (by simp)
    have others := ih before fun other member => whole other (List.mem_append_left _ member)
    rw [List.map_append, List.flatMap_append, Run.run_append, others, List.map_singleton, List.flatMap_singleton, mine]
    refine serve_next new asks (fun other member => ?_) long
    have ours : other ∈ own Act.handler acts act.handler := mine ▸ List.mem_cons_of_mem _ member
    exact ⟨(Serial.mem_own.mp ours).2, succeed other (Serial.mem_own.mp ours).1⟩

/-! ### Any interleaving -/

/-- How far a GET has come, by the number of its calls. -/
inductive Progress (name : String) (a : Addr) : Nat → Handler → Task → Prop where
  | assigning (n : Nat) (fewer : n < pointers) : Progress name a (n + 1) (.assigning a) { name, assigned := n }
  | searching : Progress name a 5 (.searching a) { name, assigned := pointers }
  | starting : Progress name a 6 (.starting a) { name, assigned := pointers }
  | done : Progress name a callsOfGet .done { name, assigned := pointers, running := true }

/-- The tasks are those of the `addNewTask` calls `adds`, which are the handlers' first. -/
structure Tracks (requests : Nat → Option Request) (adds acts : List Act) (s : State) : Prop where
  defined : s.undefined = false
  order : adds.map Act.handler = entered Act.handler acts
  tasks : s.tasks = filled (adds.map Act.slack)
  next : s.next = adds.length
  fresh : ∀ i, i ∉ entered Act.handler acts → s.handlers i = .entry (requests i)
  first : ∀ act ∈ adds, (own Act.handler acts act.handler).head? = some act
  progress : ∀ a act, adds[a]? = some act → ∃ name, requests act.handler = some (.get name) ∧
    Progress name a (own Act.handler acts act.handler).length (s.handlers act.handler) (s.heap a)
  unused : ∀ a, adds.length ≤ a → s.heap a = {}

theorem tracks_initial (requests : Nat → Option Request) : Tracks requests [] [] (initial requests) where
  defined := rfl
  order := rfl
  tasks := rfl
  next := rfl
  fresh _ _ := rfl
  first _ member := by cases member
  progress _ _ there := by cases there
  unused _ _ := rfl

theorem own_others (acts : List Act) (other : i ≠ act.handler) :
    own Act.handler (acts ++ [act]) i = own Act.handler acts i := by
  rw [Serial.own_snoc, if_neg (Ne.symm other)]

theorem own_mine (acts : List Act) (act : Act) :
    own Act.handler (acts ++ [act]) act.handler = own Act.handler acts act.handler ++ [act] := by
  rw [Serial.own_snoc, if_pos rfl]

theorem tracks_add (tracks : Tracks requests adds acts s) (new : act.handler ∉ entered Act.handler acts)
    (asks : requests act.handler = some (.get name)) :
    Tracks requests (adds ++ [act]) (acts ++ [act])
      ((s.add name act.slack).goto act.handler (.assigning s.next)) := by
  obtain ⟨defined, order, tasks, next, fresh, first, progress, unused⟩ := tracks
  have entered' : entered Act.handler (acts ++ [act]) = entered Act.handler acts ++ [act.handler] := by
    rw [Serial.entered_snoc, if_neg new]
  have none : own Act.handler acts act.handler = [] := Serial.own_nil new
  have others : ∀ old ∈ adds, old.handler ≠ act.handler :=
    fun old member same => new (order ▸ same ▸ List.mem_map_of_mem member)
  constructor
  · exact defined
  · rw [List.map_append, order, entered', List.map_singleton]
  · rw [List.map_append, List.map_singleton, filled_snoc, List.length_map, ← tasks, ← next]
    rfl
  · simp [State.add, next]
  · intro j absent
    rw [entered'] at absent
    have other : j ≠ act.handler := fun same => absent (by simp [same])
    rw [goto_handlers, if_neg other]
    exact fresh j fun member => absent (List.mem_append_left _ member)
  · intro added member
    rcases List.mem_append.mp member with old | last
    · rw [own_others acts (others added old)]
      exact first added old
    · rw [List.mem_singleton.mp last, own_mine, none]
      rfl
  · intro a added there
    rw [goto_heap, add_heap, goto_handlers, next]
    by_cases old : a < adds.length
    · rw [List.getElem?_append_left old] at there
      have other := others added (List.mem_of_getElem? there)
      rw [if_neg (Nat.ne_of_lt old), if_neg other, own_others acts other]
      exact progress a added there
    · have last : a = adds.length ∧ added = act := by
        obtain ⟨inside, same⟩ := List.getElem?_eq_some_iff.mp there
        have here : a = adds.length := by
          have bound : a < adds.length + 1 := by simpa using inside
          exact Nat.le_antisymm (Nat.le_of_lt_succ bound) (Nat.not_lt.mp old)
        subst here
        exact ⟨rfl, by simpa using same.symm⟩
      obtain ⟨rfl, rfl⟩ := last
      rw [if_pos rfl, if_pos rfl, own_mine, none]
      exact ⟨name, asks, .assigning 0 (by decide)⟩
  · intro a later
    rw [List.length_append, List.length_singleton] at later
    rw [goto_heap, add_heap, next, if_neg (Nat.ne_of_gt later)]
    exact unused a (Nat.le_of_succ_le later)

/-- A later call of a GET touches its own task and its own position only. -/
theorem tracks_advance (tracks : Tracks requests adds acts s) {a : Addr} {h : Handler} {task : Task} {added : Act}
    (there : adds[a]? = some added) (same : added.handler = act.handler)
    (advanced : ∀ name, Progress name a (own Act.handler acts act.handler).length (s.handlers act.handler) (s.heap a) →
      Progress name a ((own Act.handler acts act.handler).length + 1) h task) :
    Tracks requests adds (acts ++ [act]) ((s.write a task).goto act.handler h) := by
  obtain ⟨defined, order, tasks, next, fresh, first, progress, unused⟩ := tracks
  have member : act.handler ∈ entered Act.handler acts :=
    order ▸ same ▸ List.mem_map_of_mem (List.mem_of_getElem? there)
  have entered' : entered Act.handler (acts ++ [act]) = entered Act.handler acts := by
    rw [Serial.entered_snoc, if_pos member]
  have nodup : (adds.map Act.handler).Nodup := order ▸ Serial.nodup_entered _ _
  refine ⟨defined, order.trans entered'.symm, tasks, next, fun j absent => ?_, fun other listed => ?_,
    fun b other here => ?_, fun b later => ?_⟩
  · rw [entered'] at absent
    have other : j ≠ act.handler := fun mine => absent (by rw [mine]; exact member)
    rw [goto_handlers, if_neg other]
    exact fresh j absent
  · by_cases mine : other.handler = act.handler
    · rw [mine, own_mine, List.head?_append, ← mine, first other listed, Option.some_or]
    · rw [own_others acts mine]
      exact first other listed
  · rw [goto_heap, write_heap, goto_handlers]
    obtain ⟨name, asks, before⟩ := progress b other here
    by_cases mine : other.handler = act.handler
    · have keys : ∀ {b : Nat} {other : Act}, adds[b]? = some other → (adds.map Act.handler)[b]? = some other.handler :=
        fun found => by rw [List.getElem?_map, found, Option.map_some]
      obtain rfl : b = a := by
        refine (List.getElem?_inj (List.getElem?_eq_some_iff.mp (keys here)).1 nodup).mp ?_
        rw [keys here, keys there, mine, same]
      rw [if_pos rfl, if_pos mine, mine, own_mine, List.length_append, List.length_singleton]
      rw [mine] at asks before
      exact ⟨name, asks, advanced name before⟩
    · have elsewhere : b ≠ a := by
        rintro rfl
        exact mine (Option.some.inj (here.symm.trans there) ▸ same)
      rw [if_neg elsewhere, if_neg mine, own_others acts mine]
      exact ⟨name, asks, before⟩
  · rw [goto_heap, write_heap, if_neg]
    · exact unused b later
    · rintro rfl
      exact absurd (List.getElem?_eq_some_iff.mp there).1 (Nat.not_lt.mpr later)

theorem write_same (s : State) (a : Addr) : s.write a (s.heap a) = s := by
  simp [State.write, Function.update_eq_self]

theorem tracks_step (gets : ∀ i request, requests i = some request → ∃ name, request = .get name)
    (tracks : Tracks requests adds acts s) (finds : act.found = true) (h : step s act = some t) :
    ∃ adds', Tracks requests adds' (acts ++ [act]) t := by
  obtain ⟨i, found, slack⟩ := act
  cases finds
  by_cases member : i ∈ entered Act.handler acts
  · obtain ⟨added, listed, same⟩ := List.mem_map.mp (tracks.order ▸ member)
    obtain ⟨a, there⟩ := List.mem_iff_getElem?.mp listed
    obtain ⟨name, asks, progress⟩ := tracks.progress a added there
    rw [same] at progress
    have goes : ∀ (task : Task) (next : Handler), t = (s.write a task).goto i next →
        (∀ name, Progress name a (own Act.handler acts i).length (s.handlers i) (s.heap a) →
          Progress name a ((own Act.handler acts i).length + 1) next task) →
        ∃ adds', Tracks requests adds' (acts ++ [{ handler := i, slack }]) t := by
      rintro task next rfl advanced
      exact ⟨adds, tracks_advance tracks there same advanced⟩
    generalize calls : (own Act.handler acts i).length = n at progress goes
    generalize now : s.handlers i = handler at progress goes
    generalize stored : s.heap a = task at progress goes
    cases progress with
    | assigning n fewer =>
      simp only [step, tracks.defined, now, stored, Bool.false_eq_true, if_false] at h
      refine goes _ _ (Option.some.inj h).symm ?_
      rintro name before
      cases before
      split
      · rename_i last
        obtain rfl : n = 3 := Nat.succ.inj last
        exact .searching
      · rename_i more
        exact .assigning (n + 1) (Nat.lt_of_le_of_ne fewer more)
    | searching =>
      simp only [step, tracks.defined, now, if_true, Bool.false_eq_true, if_false] at h
      refine goes { name, assigned := pointers } (.starting a) ?_ ?_
      · rw [← stored, write_same]
        exact (Option.some.inj h).symm
      · rintro name before
        cases before
        exact .starting
    | starting =>
      simp only [step, tracks.defined, now, stored, Bool.false_eq_true, if_false] at h
      refine goes _ _ (Option.some.inj h).symm ?_
      rintro name before
      cases before
      exact .done
    | done =>
      simp only [step, tracks.defined, now, Bool.false_eq_true, if_false] at h
      cases h
  · have entry := tracks.fresh i member
    cases asks : requests i with
    | none =>
      simp only [step, tracks.defined, entry, asks, Handler.entry, Bool.false_eq_true, if_false] at h
      cases h
    | some request =>
      obtain ⟨name, rfl⟩ := gets i request asks
      simp only [step, tracks.defined, entry, asks, Handler.entry, Bool.false_eq_true, if_false] at h
      cases h
      exact ⟨adds ++ [{ handler := i, slack }], tracks_add tracks member asks⟩

theorem tracks_run (gets : ∀ i request, requests i = some request → ∃ name, request = .get name)
    (succeed : ∀ act ∈ acts, act.found = true) (ran : Run.run step (initial requests) acts = some s) :
    ∃ adds, Tracks requests adds acts s := by
  induction acts using List.reverseRecOn generalizing s with
  | nil => exact ⟨[], Option.some.inj ran ▸ tracks_initial requests⟩
  | append_singleton acts act ih =>
    rw [Run.run_append] at ran
    obtain ⟨before, earlier, last⟩ := Option.bind_eq_some_iff.mp ran
    obtain ⟨adds, tracks⟩ := ih (fun other member => succeed other (List.mem_append_left _ member)) earlier
    obtain ⟨after, taken, rest⟩ := Option.bind_eq_some_iff.mp last
    cases rest
    exact tracks_step gets tracks (succeed act (List.mem_append_right _ (List.mem_singleton_self _))) taken

theorem quiet_done {a : Addr} {n : Nat} {h : Handler} {task : Task} (progress : Progress name a n h task)
    (quiet : ¬ Builds a h) :
    n = callsOfGet ∧ h = .done ∧ task = { name, assigned := pointers, running := true } := by
  cases progress with
  | done => exact ⟨rfl, rfl, rfl⟩
  | _ => exact absurd rfl quiet

/-- Two GETs whose calls alternate. -/
def alternating : List Act := [0, 1, 1, 0, 0, 1, 0, 1, 1, 0, 1, 0, 1, 0].map fun i => { handler := i }

end GstGateway.Overlap
