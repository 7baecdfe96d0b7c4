import GstGateway.Conference.Allocation
import GstGateway.Rest.Replies

/-! Receive ports over whole histories of requests. A conference that was answered with success keeps
the two sockets of its reply until it is stopped, and no two of these sockets share a port. -/

namespace GstGateway

/-! ### What a handler can do -/

inductive Outcome (codePage : String → String) (w : World) : Request → Handled → Prop where
  | refused (request : Request) (h : Handled) (same : h.world = w)
      (failure : ∀ answer ∈ h.replies, answer.isSuccess = false) : Outcome codePage w request h
  | created (query : Query) (answers : Nat → Attempt) (p : GetParams) (ok : Startable answers) :
      Outcome codePage w (.get query answers)
        { world := (initialised codePage p answers w).2.start w.next
          replies := [successAnswer
            (srcPortOf (((initialised codePage p answers w).2.start w.next).heap w.next).rtpVideoReceiver)
            (srcPortOf (((initialised codePage p answers w).2.start w.next).heap w.next).rtpAudioReceiver)] }
  | undone (query : Query) (answers : Nat → Attempt) (p : GetParams) (h : Handled)
      (removal : Removal (initialised codePage p answers w).2 (WString2String codePage p.conferenceName)
        h.world.tasks h.world.toMemory)
      (failure : ∀ answer ∈ h.replies, answer.isSuccess = false) : Outcome codePage w (.get query answers) h
  | removed (query : Query) (name : String) (h : Handled)
      (removal : Removal w name h.world.tasks h.world.toMemory) (silent : h.replies = []) :
      Outcome codePage w (.del query) h

variable {codePage : String → String} {w : World} {fuel : Nat} {h : Handled}

theorem handle_outcome {request : Request} (ended : handle codePage w (request, fuel) = some h) :
    Outcome codePage w request h := by
  cases request with
  | get query answers =>
    simp only [handle] at ended
    cases parsed : readGet query with
    | error refusal =>
      cases refusal with
      | missing message =>
        simp only [handleGet, parsed] at ended
        cases ended
        exact .refused _ _ rfl (by simp [errorAnswer_not_success])
      | threw error =>
        simp only [handleGet, parsed] at ended
        cases ended
        exact .refused _ _ rfl (by simp)
    | ok p =>
      rw [handleGet_parsed parsed] at ended
      cases createTask_cases ended with
      | started ok => exact .created query answers p ok
      | rolledBack failed w' removed =>
        exact .undone query answers p _ (World.removeTask_cases removed) (by simp [errorAnswer_not_success])
  | del query =>
    simp only [handle] at ended
    cases named : query.lookup conferenceNameStr with
    | none =>
      simp only [handleDel, named] at ended
      cases ended
      exact .refused _ _ rfl (by simp [errorAnswer_not_success])
    | some wide => exact .removed query _ _ (handleDel_removal named ended) (handleDel_replies named ended)

/-! ### Histories with the system's answers -/

def Request.permitted (os : Os) : Request → Request
  | .get query answers => .get query (os.permit answers)
  | .del query => .del query

def closeReceiver (os : Os) (r : Option UdpReceiver) : Os :=
  match r with
  | none => os
  | some r => os.closesocket r.recvSocket

/-- The receiver threads of a stopped task leave their loops and close their sockets, in the order
`closes`. -/
def World.settle (w : World) (closes : List Kind) (a : Addr) : World :=
  { w with os := closes.foldl (fun os kind => closeReceiver os ((w.heap a).receiver kind)) w.os }

def stoppedSince (before after : List Call) : List Addr :=
  (after.drop before.length).filterMap fun
    | .stop a => some a
    | .start _ => none

/-- The world, and each success reply with the task it is about. -/
structure Session where
  world : World := {}
  granted : List (Addr × Answer) := []

/-- A request is handled to its end, and so is every shutdown it began. -/
def Session.step (codePage : String → String) (s : Session) : (Request × Nat) × List Kind → Option Session
  | ((request, fuel), closes) =>
    (handle codePage s.world (request.permitted s.world.os, fuel)).map fun h =>
      { world := (stoppedSince s.world.calls h.world.calls).foldl (fun w a => w.settle closes a) h.world
        granted := s.granted ++ (h.replies.filter Answer.isSuccess).map fun answer => (s.world.next, answer) }

/-- The task's two receivers hold open sockets, bound to the ports of the reply. -/
def Holds (m : Memory) (a : Addr) (answer : Answer) : Prop :=
  ∃ video audio, (m.heap a).rtpVideoReceiver = some video ∧ (m.heap a).rtpAudioReceiver = some audio ∧
    answer = successAnswer video.srcPort audio.srcPort ∧
    Bound m.os ⟨a, .video⟩ video ∧ InRange .video video.srcPort ∧
    Bound m.os ⟨a, .audio⟩ audio ∧ InRange .audio audio.srcPort

/-- A GET for the task was answered with success, and it has not been stopped. -/
def Live (s : Session) (a : Addr) : Prop := (∃ answer, (a, answer) ∈ s.granted) ∧ .stop a ∉ s.world.calls

structure Allocated (s : Session) : Prop where
  holds : ∀ a answer, (a, answer) ∈ s.granted → .stop a ∉ s.world.calls → Holds s.world.toMemory a answer
  distinct : ∀ a b kind kind' r r', Live s a → Live s b → (s.world.heap a).receiver kind = some r →
    (s.world.heap b).receiver kind' = some r' → r.srcPort = r'.srcPort → a = b ∧ kind = kind'

/-! ### Closing sockets -/

theorem closesocket_closed {os : Os} {handle : Handle} (closed : os.lookup handle = none) :
    os.closesocket handle = os := by
  have all : ∀ s ∈ os.sockets, Handle.number s.handle ≠ handle := by
    rintro s member rfl
    have absent := List.find?_eq_none.mp closed s member
    simp at absent
  have kept : os.sockets.filter (fun s => decide (.number s.handle ≠ handle)) = os.sockets :=
    List.filter_eq_self.mpr fun s member => decide_eq_true (all s member)
  exact congrArg Os.mk kept

theorem settle_closed {closes : List Kind} {a : Addr}
    (closed : ∀ kind r, (w.heap a).receiver kind = some r → w.os.lookup r.recvSocket = none) :
    w.settle closes a = w := by
  have same : closes.foldl (fun os kind => closeReceiver os ((w.heap a).receiver kind)) w.os = w.os := by
    induction closes with
    | nil => rfl
    | cons kind closes ih =>
      have first : closeReceiver w.os ((w.heap a).receiver kind) = w.os := by
        unfold closeReceiver
        split
        · rfl
        · rename_i r stored
          exact closesocket_closed (closed kind r stored)
      rw [List.foldl_cons, first, ih]
  unfold World.settle
  rw [same]

theorem quit_lookup {r : Option UdpReceiver} {os : Os} {handle : Handle} {s : Socket}
    (found : (quitReceiver r os).2.lookup handle = some s) : os.lookup handle = some s := by
  cases r with
  | none => exact found
  | some r =>
    simp only [quitReceiver, UdpReceiver.quit] at found
    rw [Os.lookup_closesocket] at found
    split at found
    · cases found
    · exact found

theorem quit_keeps {r : Option UdpReceiver} {os : Os} {handle : Handle}
    (other : ∀ q, r = some q → q.recvSocket ≠ handle) :
    (quitReceiver r os).2.lookup handle = os.lookup handle := by
  cases r with
  | none => rfl
  | some r =>
    simp only [quitReceiver, UdpReceiver.quit]
    rw [Os.lookup_closesocket, if_neg (Ne.symm (other r rfl))]

theorem quit_closes {r : Option UdpReceiver} {os : Os} {q : UdpReceiver} (stored : (quitReceiver r os).1 = some q) :
    (quitReceiver r os).2.lookup q.recvSocket = none := by
  cases r with
  | none => cases stored
  | some r =>
    cases stored
    simp only [quitReceiver, UdpReceiver.quit]
    rw [Os.lookup_closesocket, if_pos rfl]

theorem stop_lookup {t : MediaProcessTask} {os : Os} {handle : Handle} {s : Socket}
    (found : (t.stop os).2.lookup handle = some s) : os.lookup handle = some s :=
  quit_lookup (quit_lookup found)

theorem stop_keeps {t : MediaProcessTask} {os : Os} {handle : Handle}
    (other : ∀ kind r, t.receiver kind = some r → r.recvSocket ≠ handle) :
    (t.stop os).2.lookup handle = os.lookup handle :=
  (quit_keeps fun r stored => other .audio r stored).trans (quit_keeps fun r stored => other .video r stored)

theorem stop_closed {t : MediaProcessTask} {os : Os} {kind : Kind} {r : UdpReceiver}
    (stored : (t.stop os).1.receiver kind = some r) : (t.stop os).2.lookup r.recvSocket = none := by
  cases kind with
  | video =>
    have closed := quit_closes stored
    cases found : (t.stop os).2.lookup r.recvSocket with
    | none => rfl
    | some s =>
      rw [quit_lookup found] at closed
      cases closed
  | audio => exact quit_closes stored

/-! ### Handles and ports that are kept -/

/-- What every state of a history keeps. A registered task has not been stopped, and its handles are
of its own open sockets. -/
structure Tidy (m : Memory) (tasks : List Addr) : Prop where
  nodup : tasks.Nodup
  unstopped : ∀ a ∈ tasks, .stop a ∉ m.calls
  recorded : ∀ a, .stop a ∈ m.calls → a < m.next
  onePer : OnePerPort m.os
  owned : ∀ a ∈ tasks, ∀ kind r, (m.heap a).receiver kind = some r → OwnsHandle ⟨a, kind⟩ r m.os

variable {answers : Nat → Attempt} {p : GetParams} {name : String}

theorem initialised_heap {b : Addr} (other : b ≠ w.next) :
    (initialised codePage p answers w).2.heap b = w.heap b := by
  simp only [initialised, World.init, World.addNewTask]
  rw [Function.update_of_ne other, Function.update_of_ne other]

theorem initialised_self (codePage : String → String) (p : GetParams) (answers : Nat → Attempt) (w : World) :
    ∃ t : MediaProcessTask, (initialised codePage p answers w).1 = (t.init w.next answers w.os).1 ∧
      (initialised codePage p answers w).2.heap w.next = (t.init w.next answers w.os).2.1 ∧
      (initialised codePage p answers w).2.os = (t.init w.next answers w.os).2.2 := by
  refine ⟨_, rfl, ?_, rfl⟩
  simp only [initialised, World.init, World.addNewTask, Function.update_self]

theorem tidy_initialised (tidy : Tidy w.toMemory w.tasks) :
    Tidy (initialised codePage p (w.os.permit answers) w).2.toMemory
      (initialised codePage p (w.os.permit answers) w).2.tasks := by
  have fresh : w.next ∉ w.tasks := fun member => Nat.lt_irrefl _ (w.registered _ member)
  obtain ⟨t, _, mine, sockets⟩ := initialised_self codePage p (w.os.permit answers) w
  rw [initialised_tasks]
  constructor
  · refine List.nodup_append.mpr ⟨tidy.nodup, List.pairwise_singleton _ _, fun a old b new same => fresh ?_⟩
    rwa [same, List.mem_singleton.mp new] at old
  · intro a member
    rw [initialised_calls]
    rcases List.mem_append.mp member with old | new
    · exact tidy.unstopped a old
    · rw [List.mem_singleton.mp new]
      exact fun stopped => Nat.lt_irrefl _ (tidy.recorded _ stopped)
  · intro a stopped
    exact Nat.lt_succ_of_lt (tidy.recorded a stopped)
  · rw [sockets]
    exact init_onePer tidy.onePer
  · intro a member kind r stored
    rw [sockets]
    by_cases new : a = w.next
    · subst new
      rw [mine] at stored
      exact init_owned stored
    · rw [initialised_heap new] at stored
      have old : a ∈ w.tasks := (List.mem_append.mp member).resolve_right fun last => new (List.mem_singleton.mp last)
      exact ownsHandle_extends (init_extends _ _ _ _) (tidy.owned a old kind r stored)

theorem holds_initialised {a : Addr} {answer : Answer} (old : a ≠ w.next) (holds : Holds w.toMemory a answer) :
    Holds (initialised codePage p answers w).2.toMemory a answer := by
  obtain ⟨video, audio, videoStored, audioStored, same, videoBound, videoRange, audioBound, audioRange⟩ := holds
  obtain ⟨t, _, _, sockets⟩ := initialised_self codePage p answers w
  refine ⟨video, audio, ?_, ?_, same, ?_, videoRange, ?_, audioRange⟩
  · rw [initialised_heap old]
    exact videoStored
  · rw [initialised_heap old]
    exact audioStored
  · rw [sockets]
    exact bound_extends (init_extends _ _ _ _) videoBound
  · rw [sockets]
    exact bound_extends (init_extends _ _ _ _) audioBound

theorem start_receiver {t : MediaProcessTask} {kind : Kind} {r : UdpReceiver}
    (stored : t.start.receiver kind = some r) :
    ∃ q, t.receiver kind = some q ∧ r.recvSocket = q.recvSocket := by
  cases kind with
  | video =>
    obtain ⟨q, before, rfl⟩ := Option.map_eq_some_iff.mp stored
    exact ⟨q, before, rfl⟩
  | audio =>
    obtain ⟨q, before, rfl⟩ := Option.map_eq_some_iff.mp stored
    exact ⟨q, before, rfl⟩

theorem start_heap (w : World) (a b : Addr) :
    (w.start a).heap b = if b = a then (w.heap a).start else w.heap b := Function.update_apply ..

theorem tidy_start {a : Addr} (tidy : Tidy w.toMemory w.tasks) : Tidy (w.start a).toMemory (w.start a).tasks := by
  have calls : ∀ b, .stop b ∈ (w.start a).calls → .stop b ∈ w.calls := by
    intro b stopped
    simpa [World.start] using stopped
  refine ⟨tidy.nodup, fun b member stopped => tidy.unstopped b member (calls b stopped),
    fun b stopped => tidy.recorded b (calls b stopped), tidy.onePer, fun b member kind r stored => ?_⟩
  rw [start_heap] at stored
  split at stored
  · rename_i same
    subst same
    obtain ⟨q, before, handle⟩ := start_receiver stored
    intro n number
    exact tidy.owned b member kind q before n (handle ▸ number)
  · exact tidy.owned b member kind r stored

theorem holds_start {a b : Addr} {answer : Answer} (holds : Holds w.toMemory b answer) :
    Holds (w.start a).toMemory b answer := by
  obtain ⟨video, audio, videoStored, audioStored, rest⟩ := holds
  rw [Holds, start_heap]
  split
  · rename_i same
    subst same
    refine ⟨{ video with pc := .waiting }, { audio with pc := .waiting }, ?_, ?_, rest⟩
    · simp [MediaProcessTask.start, videoStored]
    · simp [MediaProcessTask.start, audioStored]
  · exact ⟨video, audio, videoStored, audioStored, rest⟩

theorem holds_created (ok : Startable answers) :
    ∃ answer, Holds (initialised codePage p answers w).2.toMemory w.next answer := by
  obtain ⟨t, code, mine, sockets⟩ := initialised_self codePage p answers w
  have zero := code.symm.trans (initialised_returns_zero.mpr ok)
  obtain ⟨video, audio, videoStored, audioStored, rest⟩ := init_bound zero
  refine ⟨_, video, audio, ?_, ?_, rfl, ?_⟩
  · rw [mine]
    exact videoStored
  · rw [mine]
    exact audioStored
  · rw [sockets]
    exact rest

theorem holds_reported {m : Memory} {a : Addr} {answer : Answer} (holds : Holds m a answer) :
    Holds m a (successAnswer (srcPortOf (m.heap a).rtpVideoReceiver) (srcPortOf (m.heap a).rtpAudioReceiver)) := by
  obtain ⟨video, audio, videoStored, audioStored, _, rest⟩ := holds
  refine ⟨video, audio, videoStored, audioStored, ?_, rest⟩
  rw [videoStored, audioStored]
  rfl

theorem stop_heap (m : Memory) (a b : Addr) :
    (m.stop a).2.heap b = if b = a then ((m.heap a).stop m.os).1 else m.heap b := Function.update_apply ..

/-- Stopping a task closes no socket of another one: its handles are of its own sockets. -/
theorem stop_others {m : Memory} {tasks : List Addr} {a : Addr} {handle : Handle} {s : Socket}
    (tidy : Tidy m tasks) (registered : a ∈ tasks) (found : m.os.lookup handle = some s)
    (other : s.owner.task ≠ a) : (m.stop a).2.os.lookup handle = some s := by
  refine (stop_keeps fun kind r stored same => ?_).trans found
  cases handle with
  | number n =>
    have owner := tidy.owned a registered kind r stored n same
    rw [Os.owner, found, Option.map_some, Option.some.injEq] at owner
    exact other (by rw [owner])
  | _ => cases found

theorem tidy_stop {m : Memory} {a : Addr} {others : List Addr} (tidy : Tidy m (a :: others))
    (allocated : a < m.next) : Tidy (m.stop a).2 others := by
  obtain ⟨absent, nodup⟩ := List.nodup_cons.mp tidy.nodup
  have calls : ∀ b, .stop b ∈ (m.stop a).2.calls → .stop b ∈ m.calls ∨ b = a := by
    intro b stopped
    simpa [Memory.stop] using stopped
  constructor
  · exact nodup
  · intro b member stopped
    rcases calls b stopped with before | rfl
    · exact tidy.unstopped b (List.mem_cons_of_mem a member) before
    · exact absent member
  · intro b stopped
    rcases calls b stopped with before | rfl
    · exact tidy.recorded b before
    · exact allocated
  · intro h h' s s' port found found' bound bound'
    exact tidy.onePer h h' s s' port (stop_lookup found) (stop_lookup found') bound bound'
  · intro b member kind r stored n number
    have other : b ≠ a := fun same => absent (same ▸ member)
    rw [stop_heap, if_neg other] at stored
    have owner := tidy.owned b (List.mem_cons_of_mem a member) kind r stored n number
    obtain ⟨s, found, mine⟩ := Option.map_eq_some_iff.mp owner
    rw [Os.owner, stop_others tidy List.mem_cons_self found (by rw [mine]; exact other), Option.map_some, mine]

theorem bound_stop {m : Memory} {tasks : List Addr} {a : Addr} {self : ReceiverId} {r : UdpReceiver}
    (tidy : Tidy m tasks) (registered : a ∈ tasks) (other : self.task ≠ a) (bound : Bound m.os self r) :
    Bound (m.stop a).2.os self r := by
  obtain ⟨n, number, found⟩ := bound
  exact ⟨n, number, stop_others tidy registered found other⟩

theorem holds_stop {m : Memory} {tasks : List Addr} {a b : Addr} {answer : Answer} (tidy : Tidy m tasks)
    (registered : a ∈ tasks) (other : b ≠ a) (holds : Holds m b answer) : Holds (m.stop a).2 b answer := by
  obtain ⟨video, audio, videoStored, audioStored, same, videoBound, videoRange, audioBound, audioRange⟩ := holds
  rw [Holds, stop_heap, if_neg other]
  exact ⟨video, audio, videoStored, audioStored, same, bound_stop tidy registered other videoBound, videoRange,
    bound_stop tidy registered other audioBound, audioRange⟩

/-! ### Sessions -/

/-- What every reachable session keeps: a granted task is stopped, or registered with what it was granted. -/
structure Kept (s : Session) : Prop where
  tidy : Tidy s.world.toMemory s.world.tasks
  granted : ∀ a answer, (a, answer) ∈ s.granted → .stop a ∈ s.world.calls ∨
    (a ∈ s.world.tasks ∧ Holds s.world.toMemory a answer)

theorem removal_world {w' : World} (removal : Removal w name w'.tasks w'.toMemory) :
    (w'.tasks = w.tasks ∧ w'.toMemory = w.toMemory) ∨
      ∃ a, w.tasks = a :: w'.tasks ∧ w'.toMemory = (w.stop a).2 := by
  generalize w'.tasks = tasks at removal ⊢
  generalize w'.toMemory = m at removal ⊢
  cases removal with
  | none empty => exact Or.inl ⟨empty.symm, rfl⟩
  | first a others split same => exact Or.inr ⟨a, split, rfl⟩

theorem removal_kept {w' : World} {granted : List (Addr × Answer)} (kept : Kept ⟨w, granted⟩)
    (removal : Removal w name w'.tasks w'.toMemory) : Kept ⟨w', granted⟩ := by
  obtain ⟨tidy, holds⟩ := kept
  rcases removal_world removal with ⟨tasks, memory⟩ | ⟨a, split, memory⟩
  · refine ⟨?_, ?_⟩
    · rw [memory, tasks]
      exact tidy
    · rw [memory, tasks]
      exact holds
  · have registered : a ∈ w.tasks := by
      rw [split]
      exact List.mem_cons_self
    refine ⟨?_, fun b answer member => ?_⟩
    · rw [memory]
      dsimp only at tidy
      rw [split] at tidy
      exact tidy_stop tidy (w.registered a registered)
    · dsimp only
      rw [memory]
      rcases holds b answer member with stopped | ⟨listed, held⟩
      · exact Or.inl (List.mem_append_left _ stopped)
      · by_cases same : b = a
        · subst same
          exact Or.inl (List.mem_append_right _ (List.mem_singleton_self _))
        · rw [split] at listed
          exact Or.inr ⟨(List.mem_cons.mp listed).resolve_left same, holds_stop tidy registered same held⟩

theorem stoppedSince_append (before since : List Call) :
    stoppedSince before (before ++ since) = stoppedSince [] since := by
  simp [stoppedSince]

theorem removal_settled {w' : World} {closes : List Kind} {calls : List Call} (same : w.calls = calls)
    (removal : Removal w name w'.tasks w'.toMemory) :
    (stoppedSince calls w'.calls).foldl (fun w a => w.settle closes a) w' = w' := by
  subst same
  rcases removal_world removal with ⟨_, memory⟩ | ⟨a, _, memory⟩
  · have calls : w'.calls = w.calls ++ [] := by rw [memory, List.append_nil]
    rw [calls, stoppedSince_append]
    rfl
  · have calls : w'.calls = w.calls ++ [.stop a] := by rw [memory]; rfl
    rw [calls, stoppedSince_append]
    refine settle_closed fun kind r stored => ?_
    rw [memory] at stored ⊢
    rw [stop_heap, if_pos rfl] at stored
    exact stop_closed stored

theorem outcome_settled {request : Request} {closes : List Kind} (outcome : Outcome codePage w request h) :
    (stoppedSince w.calls h.world.calls).foldl (fun w a => w.settle closes a) h.world = h.world := by
  cases outcome with
  | refused _ _ same failure =>
    have calls : h.world.calls = w.calls ++ [] := by rw [same, List.append_nil]
    rw [calls, stoppedSince_append]
    rfl
  | created query answers p ok =>
    have calls : ((initialised codePage p answers w).2.start w.next).calls = w.calls ++ [.start w.next] := rfl
    rw [calls, stoppedSince_append]
    rfl
  | undone query answers p _ removal failure => exact removal_settled initialised_calls removal
  | removed query name _ removal silent => exact removal_settled rfl removal

theorem kept_initialised {granted : List (Addr × Answer)} (kept : Kept ⟨w, granted⟩) :
    Kept ⟨(initialised codePage p (w.os.permit answers) w).2, granted⟩ where
  tidy := tidy_initialised kept.tidy
  granted := by
    intro a answer member
    rcases kept.granted a answer member with stopped | ⟨listed, held⟩
    · exact Or.inl stopped
    · have old : a ≠ w.next := Nat.ne_of_lt (w.registered a listed)
      refine Or.inr ⟨?_, holds_initialised old held⟩
      dsimp only
      rw [initialised_tasks]
      exact List.mem_append_left _ listed

theorem kept_start {granted : List (Addr × Answer)} {a : Addr} (kept : Kept ⟨w, granted⟩) :
    Kept ⟨w.start a, granted⟩ where
  tidy := tidy_start kept.tidy
  granted := by
    intro b answer member
    rcases kept.granted b answer member with stopped | ⟨listed, held⟩
    · exact Or.inl (List.mem_append_left _ stopped)
    · exact Or.inr ⟨listed, holds_start held⟩

theorem kept_grant {granted : List (Addr × Answer)} {a : Addr} {answer : Answer} (kept : Kept ⟨w, granted⟩)
    (registered : a ∈ w.tasks) (holds : Holds w.toMemory a answer) : Kept ⟨w, granted ++ [(a, answer)]⟩ where
  tidy := kept.tidy
  granted := by
    intro b given member
    rcases List.mem_append.mp member with old | new
    · exact kept.granted b given old
    · cases List.mem_singleton.mp new
      exact Or.inr ⟨registered, holds⟩

theorem no_grant {replies : List Answer} (failure : ∀ answer ∈ replies, answer.isSuccess = false) :
    replies.filter Answer.isSuccess = [] :=
  List.filter_eq_nil_iff.mpr fun answer member => by simp [failure answer member]

theorem kept_get {s : Session} {query : Query} (kept : Kept s)
    (outcome : Outcome codePage s.world (.get query (s.world.os.permit answers)) h) :
    Kept ⟨h.world, s.granted ++ (h.replies.filter Answer.isSuccess).map fun answer => (s.world.next, answer)⟩ := by
  cases outcome with
  | refused _ _ same failure =>
    rw [no_grant failure, List.map_nil, List.append_nil, same]
    exact kept
  | undone _ _ p _ removal failure =>
    rw [no_grant failure, List.map_nil, List.append_nil]
    exact removal_kept (kept_initialised kept) removal
  | created _ _ p ok =>
    refine kept_grant (kept_start (kept_initialised kept)) ?_ ?_
    · exact List.mem_append_right _ (List.mem_singleton_self _)
    · obtain ⟨answer, holds⟩ := holds_created ok
      exact holds_reported (holds_start holds)

theorem kept_step {s t : Session} {act : (Request × Nat) × List Kind} (kept : Kept s)
    (stepped : s.step codePage act = some t) : Kept t := by
  obtain ⟨⟨request, fuel⟩, closes⟩ := act
  obtain ⟨h, ended, rfl⟩ := Option.map_eq_some_iff.mp stepped
  have outcome := handle_outcome ended
  rw [outcome_settled outcome]
  cases request with
  | get query answers => exact kept_get kept outcome
  | del query =>
    cases outcome with
    | refused _ _ same failure =>
      rw [no_grant failure, List.map_nil, List.append_nil, same]
      exact kept
    | removed _ name _ removal silent =>
      rw [silent, List.filter_nil, List.map_nil, List.append_nil]
      exact removal_kept kept removal

theorem bound_same {os : Os} {self self' : ReceiverId} {r r' : UdpReceiver} (one : OnePerPort os)
    (bound : Bound os self r) (bound' : Bound os self' r') (same : r.srcPort = r'.srcPort) : self = self' := by
  obtain ⟨n, _, found⟩ := bound
  obtain ⟨n', _, found'⟩ := bound'
  have handle := one _ _ _ _ r.srcPort found found' rfl (by rw [same])
  rw [← handle, found] at found'
  exact congrArg Socket.owner (Option.some.inj found')

theorem holds_bound {m : Memory} {a : Addr} {answer : Answer} {kind : Kind} {r : UdpReceiver}
    (holds : Holds m a answer) (stored : (m.heap a).receiver kind = some r) : Bound m.os ⟨a, kind⟩ r := by
  obtain ⟨video, audio, videoStored, audioStored, _, videoBound, _, audioBound, _⟩ := holds
  cases kind with
  | video => exact Option.some.inj (videoStored.symm.trans stored) ▸ videoBound
  | audio => exact Option.some.inj (audioStored.symm.trans stored) ▸ audioBound

theorem kept_allocated {s : Session} (kept : Kept s) : Allocated s := by
  have held : ∀ a answer, (a, answer) ∈ s.granted → .stop a ∉ s.world.calls → Holds s.world.toMemory a answer :=
    fun a answer member alive => ((kept.granted a answer member).resolve_left alive).2
  refine ⟨held, ?_⟩
  rintro a b kind kind' r r' ⟨⟨answer, granted⟩, alive⟩ ⟨⟨answer', granted'⟩, alive'⟩ stored stored' same
  have self := bound_same kept.tidy.onePer (holds_bound (held a answer granted alive) stored)
    (holds_bound (held b answer' granted' alive') stored') same
  exact ⟨congrArg ReceiverId.task self, congrArg ReceiverId.kind self⟩

theorem kept_initial : Kept {} where
  tidy := ⟨List.nodup_nil, fun _ member => (by cases member), fun _ member => (by cases member),
    fun _ _ _ _ _ found => (by cases lookup_mem found), fun _ member => (by cases member)⟩
  granted := fun _ _ member => by cases member

/-- In every state of every history, the live conferences hold the sockets their replies name, each
bound to its own port of its own range. -/
theorem ports_allocated (codePage : String → String) (requests : List ((Request × Nat) × List Kind)) :
    Run.Always (Session.step codePage) Allocated {} requests :=
  Run.always_imp (fun _ kept => kept_allocated kept)
    (Run.always_invariant (fun _ _ _ kept stepped => kept_step kept stepped) kept_initial)

end GstGateway
