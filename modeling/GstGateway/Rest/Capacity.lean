import Mathlib.Data.List.Induction
import Mathlib.Data.List.Nodup
import Mathlib.Data.List.Perm.Subperm
import GstGateway.Conference.Held
import GstGateway.Rest.Ports

/-! Ports as a resource. Over any history the ports in use are those of the registered conferences, a GET
takes the lowest ports left of those it tries, and so many conferences fit and no more. -/

namespace GstGateway

variable {codePage : String → String} {w : World} {h : Handled} {name : String} {answers : Nat → Attempt}
  {p : GetParams} {m : Memory}

/-! ### No port is lost -/

/-- Every bound socket is the receive socket of a registered task. -/
structure Traced (m : Memory) (tasks : List Addr) : Prop where
  distinct : DistinctHandles m.os
  held : ∀ h s port, m.os.lookup h = some s → s.port = some port → s.owner.task ∈ tasks ∧
    ∃ r, (m.heap s.owner.task).receiver s.owner.kind = some r ∧ r.recvSocket = h ∧ r.srcPort = port

theorem traced_initialised (traced : Traced w.toMemory w.tasks) :
    Traced (initialised codePage p answers w).2.toMemory (initialised codePage p answers w).2.tasks := by
  obtain ⟨t, _, mine, sockets⟩ := initialised_self codePage p answers w
  refine ⟨by rw [sockets]; exact distinct_init t w.next answers traced.distinct, ?_⟩
  intro h s port found bound
  rw [sockets] at found
  rw [initialised_tasks]
  rcases init_held found bound with old | ⟨owner, r, stored, here, same⟩
  · obtain ⟨listed, r, stored, here, same⟩ := traced.held h s port old bound
    refine ⟨List.mem_append_left _ listed, r, ?_, here, same⟩
    rw [initialised_heap (Nat.ne_of_lt (w.registered _ listed))]
    exact stored
  · refine ⟨List.mem_append_right _ (List.mem_singleton.mpr owner), r, ?_, here, same⟩
    rw [owner, mine]
    exact stored

theorem receiver_start {t : MediaProcessTask} {kind : Kind} {r : UdpReceiver} (stored : t.receiver kind = some r) :
    t.start.receiver kind = some { r with pc := .waiting } := by
  cases kind with
  | video => exact Option.map_eq_some_iff.mpr ⟨r, stored, rfl⟩
  | audio => exact Option.map_eq_some_iff.mpr ⟨r, stored, rfl⟩

theorem traced_start {a : Addr} (traced : Traced w.toMemory w.tasks) :
    Traced (w.start a).toMemory (w.start a).tasks := by
  refine ⟨traced.distinct, fun h s port found bound => ?_⟩
  obtain ⟨listed, r, stored, here, same⟩ := traced.held h s port found bound
  refine ⟨listed, ?_⟩
  rw [start_heap]
  split
  · rename_i mine
    rw [mine] at stored
    exact ⟨_, receiver_start stored, here, same⟩
  · exact ⟨r, stored, here, same⟩

theorem traced_stop {a : Addr} {others : List Addr} (traced : Traced m (a :: others)) :
    Traced (m.stop a).2 others := by
  refine ⟨distinct_stop _ traced.distinct, fun h s port found bound => ?_⟩
  obtain ⟨listed, r, stored, here, same⟩ := traced.held h s port (stop_lookup found) bound
  have other : s.owner.task ≠ a := by
    intro mine
    rw [mine] at stored
    obtain ⟨q, kept, handle⟩ := stop_stored m.os stored
    have closed := stop_closed kept
    rw [handle, here] at closed
    exact absurd (found.symm.trans closed) (Option.some_ne_none s)
  rw [stop_heap, if_neg other]
  exact ⟨(List.mem_cons.mp listed).resolve_left other, r, stored, here, same⟩

theorem traced_removal {w' : World} (traced : Traced w.toMemory w.tasks)
    (removal : Removal w name w'.tasks w'.toMemory) : Traced w'.toMemory w'.tasks := by
  rcases removal_world removal with ⟨tasks, memory⟩ | ⟨a, split, memory⟩
  · rw [tasks, memory]
    exact traced
  · rw [split] at traced
    rw [memory]
    exact traced_stop traced

theorem traced_outcome {request : Request} (traced : Traced w.toMemory w.tasks)
    (outcome : Outcome codePage w request h) : Traced h.world.toMemory h.world.tasks := by
  cases outcome with
  | refused _ _ same failure =>
    rw [same]
    exact traced
  | created query answers p ok => exact traced_start (traced_initialised traced)
  | undone query answers p _ removal failure => exact traced_removal (traced_initialised traced) removal
  | removed query name _ removal silent => exact traced_removal traced removal

theorem traced_step {s t : Session} {act : (Request × Nat) × List Kind}
    (traced : Traced s.world.toMemory s.world.tasks) (stepped : s.step codePage act = some t) :
    Traced t.world.toMemory t.world.tasks := by
  obtain ⟨⟨request, fuel⟩, closes⟩ := act
  obtain ⟨h, ended, rfl⟩ := Option.map_eq_some_iff.mp stepped
  have outcome := handle_outcome ended
  rw [outcome_settled outcome]
  exact traced_outcome traced outcome

theorem traced_initial : Traced {} [] :=
  ⟨List.nodup_nil, fun _ _ _ found => by cases lookup_mem found⟩

/-- Some registered task receives on the port. -/
def Occupied (s : Session) (port : Nat) : Prop :=
  ∃ a ∈ s.world.tasks, ∃ kind r, (s.world.heap a).receiver kind = some r ∧
    Bound s.world.os ⟨a, kind⟩ r ∧ r.srcPort = port

theorem traced_occupied {s : Session} (traced : Traced s.world.toMemory s.world.tasks) (port : Nat) :
    s.world.os.inUse port = true ↔ Occupied s port := by
  rw [inUse_iff traced.distinct]
  constructor
  · rintro ⟨h, ⟨n, owner, bound⟩, found, rfl⟩
    obtain ⟨listed, r, stored, here, same⟩ := traced.held h _ port found rfl
    obtain rfl := lookup_handle found
    refine ⟨owner.task, listed, owner.kind, r, stored, ⟨n, here, ?_⟩, same⟩
    rw [same]
    exact found
  · rintro ⟨a, _, kind, r, _, ⟨n, _, found⟩, rfl⟩
    exact ⟨.number n, _, found, rfl⟩

def firstPort : Kind → Nat
  | .video => videoSrcPortRangeBegin
  | .audio => audioSrcPortRangeBegin

def lastPort : Kind → Nat
  | .video => videoSrcPortRangeEnd
  | .audio => audioSrcPortRangeEnd

/-- The ports a search tries (all of its range but the last), less those on which registered tasks receive. -/
def freePorts (s : Session) (kind : Kind) : Set Nat :=
  {port | firstPort kind ≤ port ∧ port < lastPort kind ∧ ¬ Occupied s port}

theorem permit_willing {os : Os} (willing : ∀ port, (answers port).accepted) (port : Nat) :
    (os.permit answers port).accepted ↔ os.inUse port = false := by
  unfold Os.permit
  cases os.inUse port with
  | true => exact iff_of_false (fun accepted => by cases accepted.2) nofun
  | false => exact iff_of_true (willing port) rfl

theorem successAnswer_inj {v u v' u' : Nat} (same : successAnswer v u = successAnswer v' u') : v = v' ∧ u = u' := by
  simpa [successAnswer] using same

/-- A search that can succeed takes the lowest port it is given, never the last of its range. -/
theorem least_below {first last port : Nat} (obtainable : Obtainable answers first last)
    (least : IsLeast (bindable answers first last) port) :
    IsLeast {port | first ≤ port ∧ port < last ∧ (answers port).accepted} port := by
  obtain ⟨q, low, high, accepted⟩ := obtainable
  have below := least.2 ⟨low, Nat.le_of_lt high, accepted⟩
  exact ⟨⟨least.1.1, Nat.lt_of_le_of_lt below high, least.1.2.2⟩,
    fun q member => least.2 ⟨member.1, Nat.le_of_lt member.2.1, member.2.2⟩⟩

theorem init_adds {os : Os} {t : MediaProcessTask} {a : Addr} (zero : (t.init a answers os).1 = 0) (port : Nat) :
    (t.init a answers os).2.2.inUse port = true ↔ os.inUse port = true ∨
      port = srcPortOf (t.init a answers os).2.1.rtpVideoReceiver ∨
      port = srcPortOf (t.init a answers os).2.1.rtpAudioReceiver := by
  revert zero
  unfold MediaProcessTask.init
  dsimp only
  split
  · rename_i videoFound
    split
    · rename_i audioFound
      intro _
      exact (searchFrom_adds audioFound port).trans ((or_congr_left (searchFrom_adds videoFound port)).trans or_assoc)
    · exact fun zero => absurd zero Int.one_ne_zero
  · exact fun zero => absurd zero Int.one_ne_zero

theorem created_least (codePage : String → String) (p : GetParams) (w : World) (ok : Startable answers) :
    ∃ v u, srcPortOf (((initialised codePage p answers w).2.start w.next).heap w.next).rtpVideoReceiver = v ∧
      srcPortOf (((initialised codePage p answers w).2.start w.next).heap w.next).rtpAudioReceiver = u ∧
      IsLeast {port | firstPort .video ≤ port ∧ port < lastPort .video ∧ (answers port).accepted} v ∧
      IsLeast {port | firstPort .audio ≤ port ∧ port < lastPort .audio ∧ (answers port).accepted} u ∧
      ∀ port, ((initialised codePage p answers w).2.start w.next).os.inUse port = true ↔
        w.os.inUse port = true ∨ port = v ∨ port = u := by
  obtain ⟨t, code, mine, sockets⟩ := initialised_self codePage p answers w
  have zero := code.symm.trans (initialised_returns_zero.mpr ok)
  obtain ⟨video, audio, videoStored, audioStored, videoLeast, audioLeast⟩ := init_least zero
  refine ⟨video.srcPort, audio.srcPort, ?_, ?_, least_below ok.1 videoLeast, least_below ok.2 audioLeast, ?_⟩
  · rw [start_heap, if_pos rfl, mine]
    simp [MediaProcessTask.start, videoStored, srcPortOf]
  · rw [start_heap, if_pos rfl, mine]
    simp [MediaProcessTask.start, audioStored, srcPortOf]
  · intro port
    have added := init_adds zero port
    rw [videoStored, audioStored, ← sockets] at added
    exact added

variable {s t : Session} {query : Query} {fuel : Nat} {closes : List Kind}

theorem step_granted (codePage : String → String) (fuel : Nat) (closes : List Kind) (parsed : readGet query = .ok p)
    (ok : Startable (s.world.os.permit answers)) :
    ∃ v u, s.step codePage ((.get query answers, fuel), closes) = some
        { world := (initialised codePage p (s.world.os.permit answers) s.world).2.start s.world.next
          granted := s.granted ++ [(s.world.next, successAnswer v u)] } ∧
      IsLeast {port | firstPort .video ≤ port ∧ port < lastPort .video ∧ (s.world.os.permit answers port).accepted} v ∧
      IsLeast {port | firstPort .audio ≤ port ∧ port < lastPort .audio ∧ (s.world.os.permit answers port).accepted} u ∧
      ∀ port, ((initialised codePage p (s.world.os.permit answers) s.world).2.start s.world.next).os.inUse port =
        true ↔ s.world.os.inUse port = true ∨ port = v ∨ port = u := by
  obtain ⟨v, u, video, audio, rest⟩ := created_least codePage p s.world ok
  refine ⟨v, u, ?_, rest⟩
  have ended : handle codePage s.world ((Request.get query answers).permitted s.world.os, fuel) = _ :=
    (handleGet_parsed parsed).trans (createTask_startable ok)
  have settled : List.foldl (fun (w : World) a => w.settle closes a) _ _ = _ := outcome_settled (handle_outcome ended)
  simp only [Session.step, ended, Option.map_some, settled, video, audio]
  rfl

theorem step_refused (parsed : readGet query = .ok p) (failed : ¬ Startable (s.world.os.permit answers))
    (stepped : s.step codePage ((.get query answers, fuel), closes) = some t) : t.granted = s.granted := by
  obtain ⟨h, ended, rfl⟩ := Option.map_eq_some_iff.mp stepped
  have created : createTask codePage p (s.world.os.permit answers) s.world fuel = some h :=
    (handleGet_parsed parsed).symm.trans ended
  cases createTask_cases created with
  | started ok => exact absurd ok failed
  | rolledBack failed w' removed => simp [errorAnswer_not_success]

/-- After any history, a GET whose parameters are in order and to which the system refuses no port that is
not in use is answered with the lowest free port that each of its searches tries, and only where both try one. -/
theorem get_takes_lowest (codePage : String → String) (requests : List ((Request × Nat) × List Kind)) (s : Session)
    (history : Run.run (Session.step codePage) {} requests = some s) (query : Query) (p : GetParams)
    (parsed : readGet query = .ok p) (answers : Nat → Attempt) (willing : ∀ port, (answers port).accepted)
    (fuel : Nat) (closes : List Kind) (video audio : Nat) :
    (∃ t, s.step codePage ((.get query answers, fuel), closes) = some t ∧
        t.granted = s.granted ++ [(s.world.next, successAnswer video audio)]) ↔
      IsLeast (freePorts s .video) video ∧ IsLeast (freePorts s .audio) audio := by
  have traced : Traced s.world.toMemory s.world.tasks :=
    Run.run_invariant (I := fun s : Session => Traced s.world.toMemory s.world.tasks)
      (fun _ _ _ traced stepped => traced_step traced stepped) traced_initial history
  have accepted : ∀ kind, {port | firstPort kind ≤ port ∧ port < lastPort kind ∧
      (s.world.os.permit answers port).accepted} = freePorts s kind := by
    intro kind
    ext port
    refine and_congr_right fun _ => and_congr_right fun _ => ?_
    rw [permit_willing willing, ← traced_occupied traced, Bool.not_eq_true]
  by_cases ok : Startable (s.world.os.permit answers)
  · obtain ⟨v, u, stepped, videoLeast, audioLeast, _⟩ :=
      step_granted codePage fuel closes parsed ok
    rw [accepted] at videoLeast audioLeast
    constructor
    · rintro ⟨t, stepped', granted⟩
      rw [stepped] at stepped'
      cases stepped'
      have same := List.append_cancel_left granted
      simp only [List.cons.injEq, Prod.mk.injEq, and_true, true_and] at same
      obtain ⟨rfl, rfl⟩ := successAnswer_inj same
      exact ⟨videoLeast, audioLeast⟩
    · rintro ⟨videoLeast', audioLeast'⟩
      rw [videoLeast'.unique videoLeast, audioLeast'.unique audioLeast]
      exact ⟨_, stepped, rfl⟩
  · constructor
    · rintro ⟨t, stepped, granted⟩
      have kept := (step_refused parsed ok stepped).symm.trans granted
      simp at kept
    · rintro ⟨⟨video, _⟩, audio, _⟩
      rw [← accepted] at video audio
      exact absurd ⟨⟨_, video⟩, _, audio⟩ ok

/-- Two conferences, of which the first is deleted again. -/
def twoThenDel : List ((Request × Nat) × List Kind) :=
  [((.get (getA "") allBound, 0), []), ((.get (getA "") allBound, 0), []), ((.del delA, 1), [])]

theorem lowest_after_del : ∃ s, Run.run (Session.step id) {} twoThenDel = some s ∧ s.world.tasks = [1] ∧
    (∃ t, s.step id ((.get (getA "") allBound, 0), []) = some t ∧
      t.granted = s.granted ++ [(s.world.next, successAnswer 50001 50501)]) ∧
    IsLeast (freePorts s .video) 50001 ∧ IsLeast (freePorts s .audio) 50501 := by
  have granted := get_takes_lowest id twoThenDel _ rfl (getA "") ⟨"a", "", 5002, 5000⟩ (by decide) allBound
    (fun _ => ⟨rfl, rfl⟩) 0 [] 50001 50501
  exact ⟨_, rfl, rfl, ⟨_, rfl, rfl⟩, granted.mp ⟨_, rfl, rfl⟩⟩

/-! ### How many conferences fit -/

/-- No socket is bound outside the ports that the search of its receiver tries. -/
def Confined (os : Os) : Prop := ∀ h s port, os.lookup h = some s → s.port = some port →
  firstPort s.owner.kind ≤ port ∧ port < lastPort s.owner.kind

theorem confined_search {os : Os} {a : Addr} {kind : Kind} (confined : Confined os) :
    Confined (searchRange ⟨a, kind⟩ answers os (firstPort kind) (lastPort kind)).os := by
  intro h s port found bound
  rcases searchFrom_ports ⟨a, kind⟩ answers {} os (firstPort kind) (lastPort kind - firstPort kind) h s found
    (by rw [bound]; nofun) with old | ⟨succeeds, _⟩
  · exact confined h s port old bound
  · rcases searchRange_held found bound with old | ⟨mine, _, same⟩
    · exact confined h s port old bound
    · obtain ⟨low, high, _, _⟩ := searchFrom_srcPort succeeds
      rw [mine, ← same]
      have width : firstPort kind ≤ lastPort kind := by cases kind <;> decide
      exact ⟨low, Nat.lt_of_lt_of_eq high (Nat.add_sub_of_le width)⟩

theorem confined_init {os : Os} (t : MediaProcessTask) (a : Addr) (answers : Nat → Attempt) (confined : Confined os) :
    Confined (t.init a answers os).2.2 := by
  obtain ⟨_, ⟨_, _, after⟩ | ⟨_, _, after⟩⟩ := init_searches t a answers os
  · rw [after]
    exact confined_search confined
  · rw [after]
    exact confined_search (confined_search confined)

theorem confined_removal {w' : World} (confined : Confined w.os)
    (removal : Removal w name w'.tasks w'.toMemory) : Confined w'.os := by
  rcases removal_world removal with ⟨_, memory⟩ | ⟨a, _, memory⟩
  · rw [memory]
    exact confined
  · rw [memory]
    exact fun h s port found => confined h s port (stop_lookup found)

theorem confined_initialised (confined : Confined w.os) : Confined (initialised codePage p answers w).2.os := by
  obtain ⟨t, _, _, sockets⟩ := initialised_self codePage p answers w
  rw [sockets]
  exact confined_init t w.next answers confined

theorem confined_outcome {request : Request} (confined : Confined w.os)
    (outcome : Outcome codePage w request h) : Confined h.world.os := by
  cases outcome with
  | refused _ _ same failure =>
    rw [same]
    exact confined
  | created query answers p ok => exact confined_initialised confined
  | undone query answers p _ removal failure => exact confined_removal (confined_initialised confined) removal
  | removed query name _ removal silent => exact confined_removal confined removal

/-- What bounds the number of live conferences: each has its own video port, below the last of the range. -/
structure Bounded (s : Session) : Prop where
  kept : Kept s
  confined : Confined s.world.os

theorem bounded_step {s t : Session} {act : (Request × Nat) × List Kind} (bounded : Bounded s)
    (stepped : s.step codePage act = some t) : Bounded t := by
  refine ⟨kept_step bounded.kept stepped, ?_⟩
  obtain ⟨⟨request, fuel⟩, closes⟩ := act
  obtain ⟨h, ended, rfl⟩ := Option.map_eq_some_iff.mp stepped
  have outcome := handle_outcome ended
  rw [outcome_settled outcome]
  exact confined_outcome bounded.confined outcome

theorem bounded_initial : Bounded {} := ⟨kept_initial, fun _ _ _ found => by cases lookup_mem found⟩

theorem live_port {s : Session} {a : Addr} (bounded : Bounded s) (live : Live s a) :
    ∃ r, (s.world.heap a).receiver .video = some r ∧ Bound s.world.os ⟨a, .video⟩ r ∧
      videoSrcPortRangeBegin ≤ r.srcPort ∧ r.srcPort < videoSrcPortRangeEnd := by
  obtain ⟨⟨answer, granted⟩, alive⟩ := live
  obtain ⟨video, _, stored, _, _, bound, _⟩ := ((bounded.kept.granted a answer granted).resolve_left alive).2
  obtain ⟨n, same, found⟩ := bound
  exact ⟨video, stored, ⟨n, same, found⟩, bounded.confined _ _ _ found rfl⟩

theorem live_bound {s : Session} (bounded : Bounded s) (live : List Addr) (nodup : live.Nodup)
    (all : ∀ a ∈ live, Live s a) : live.length ≤ videoSrcPortRangeEnd - videoSrcPortRangeBegin := by
  let port (a : Addr) : Nat := srcPortOf ((s.world.heap a).receiver .video)
  have ports : ∀ a ∈ live, port a ∈ List.range' videoSrcPortRangeBegin
      (videoSrcPortRangeEnd - videoSrcPortRangeBegin) := by
    intro a member
    obtain ⟨r, stored, _, low, high⟩ := live_port bounded (all a member)
    have here : port a = r.srcPort := congrArg srcPortOf stored
    rw [here, List.mem_range'_1]
    exact ⟨low, by unfold videoSrcPortRangeEnd videoSrcPortRangeBegin at *; omega⟩
  have distinct : (live.map port).Nodup := by
    refine (List.nodup_map_iff_inj_on nodup).mpr fun a member b member' same => ?_
    obtain ⟨r, stored, bound, _⟩ := live_port bounded (all a member)
    obtain ⟨r', stored', bound', _⟩ := live_port bounded (all b member')
    have ports : r.srcPort = r'.srcPort := by
      have here : port a = r.srcPort := congrArg srcPortOf stored
      have there : port b = r'.srcPort := congrArg srcPortOf stored'
      rw [← here, ← there, same]
    exact congrArg ReceiverId.task (bound_same bounded.kept.tidy.onePer bound bound' ports)
  have within : live.map port ⊆ List.range' videoSrcPortRangeBegin
      (videoSrcPortRangeEnd - videoSrcPortRangeBegin) := by
    intro q member
    obtain ⟨a, listed, rfl⟩ := List.mem_map.mp member
    exact ports a listed
  have short := (distinct.subperm within).length_le
  rwa [List.length_map, List.length_range'] at short

/-- In every state of every history, no more conferences are live than the video range has ports less one:
499 at most. -/
theorem capacity (codePage : String → String) (requests : List ((Request × Nat) × List Kind)) :
    Run.Always (Session.step codePage) (fun s => ∀ live : List Addr, live.Nodup → (∀ a ∈ live, Live s a) →
      live.length ≤ videoSrcPortRangeEnd - videoSrcPortRangeBegin) {} requests :=
  Run.always_imp (fun _ bounded => live_bound bounded)
    (Run.always_invariant (fun _ _ _ bounded stepped => bounded_step bounded stepped) bounded_initial)

/-! ### GETs in a row -/

/-- After `n` GETs the first `n` ports of both ranges are in use. -/
structure Filled (s : Session) (n : Nat) : Prop where
  next : s.world.next = n
  tasks : s.world.tasks = List.range n
  granted : s.granted = (List.range n).map fun i =>
    (i, successAnswer (videoSrcPortRangeBegin + i) (audioSrcPortRangeBegin + i))
  used : ∀ port, s.world.os.inUse port = true ↔ ∃ kind, firstPort kind ≤ port ∧ port < firstPort kind + n

theorem filled_least {n : Nat} (filled : Filled s n) (room : n < videoSrcPortRangeEnd - videoSrcPortRangeBegin)
    (willing : ∀ port, (answers port).accepted) (kind : Kind) :
    IsLeast {port | firstPort kind ≤ port ∧ port < lastPort kind ∧ (s.world.os.permit answers port).accepted}
      (firstPort kind + n) := by
  have above : audioSrcPortRangeBegin = videoSrcPortRangeEnd + 1 := rfl
  have width : lastPort kind - firstPort kind = videoSrcPortRangeEnd - videoSrcPortRangeBegin := by
    cases kind <;> rfl
  have free : s.world.os.inUse (firstPort kind + n) = false := by
    rw [← Bool.not_eq_true, filled.used]
    rintro ⟨other, low, high⟩
    cases kind <;> cases other <;> simp only [firstPort] at low high <;> omega
  refine ⟨⟨Nat.le_add_right _ _, by omega, (permit_willing willing _).mpr free⟩, ?_⟩
  rintro port ⟨low, _, accepted⟩
  have unused := (permit_willing willing port).mp accepted
  rw [← Bool.not_eq_true, filled.used] at unused
  by_contra lower
  exact unused ⟨kind, low, Nat.lt_of_not_le lower⟩

theorem filled_step (codePage : String → String) (fuel : Nat) (closes : List Kind) {n : Nat}
    (filled : Filled s n) (room : n < videoSrcPortRangeEnd - videoSrcPortRangeBegin)
    (parsed : readGet query = .ok p) (willing : ∀ port, (answers port).accepted) :
    ∃ t, s.step codePage ((.get query answers, fuel), closes) = some t ∧ Filled t (n + 1) := by
  have video := filled_least filled room willing .video
  have audio := filled_least filled room willing .audio
  have ok : Startable (s.world.os.permit answers) := ⟨⟨_, video.1⟩, ⟨_, audio.1⟩⟩
  obtain ⟨v, u, stepped, videoLeast, audioLeast, added⟩ :=
    step_granted codePage fuel closes parsed ok
  obtain rfl := videoLeast.unique video
  obtain rfl := audioLeast.unique audio
  refine ⟨_, stepped, congrArg (· + 1) filled.next, ?_, ?_, fun port => ?_⟩
  · exact (congrArg (· ++ [s.world.next]) filled.tasks).trans (filled.next ▸ List.range_succ.symm)
  · dsimp only
    rw [filled.granted, filled.next, List.range_succ, List.map_append]
    rfl
  · refine (added port).trans ?_
    rw [filled.used]
    constructor
    · rintro (⟨kind, low, high⟩ | rfl | rfl)
      · exact ⟨kind, low, Nat.lt_succ_of_lt high⟩
      · exact ⟨.video, Nat.le_add_right _ _, Nat.lt_succ_self _⟩
      · exact ⟨.audio, Nat.le_add_right _ _, Nat.lt_succ_self _⟩
    · rintro ⟨kind, low, high⟩
      rcases Nat.lt_or_eq_of_le (Nat.le_of_lt_succ high) with below | rfl
      · exact Or.inl ⟨kind, low, below⟩
      · cases kind with
        | video => exact Or.inr (Or.inl rfl)
        | audio => exact Or.inr (Or.inr rfl)

/-- A GET whose parameters are in order, to which the system would refuse no port that is not in use. -/
def Welcome (call : (Request × Nat) × List Kind) : Prop :=
  ∃ query answers p, call.1.1 = .get query answers ∧ readGet query = .ok p ∧ ∀ port, (answers port).accepted

theorem filled_run (codePage : String → String) (gets : List ((Request × Nat) × List Kind))
    (room : gets.length ≤ videoSrcPortRangeEnd - videoSrcPortRangeBegin) (welcome : ∀ call ∈ gets, Welcome call) :
    ∃ s, Run.run (Session.step codePage) {} gets = some s ∧ Filled s gets.length := by
  induction gets using List.reverseRecOn with
  | nil =>
    refine ⟨{}, rfl, rfl, rfl, rfl, fun port => iff_of_false (by simp [Os.inUse]) ?_⟩
    rintro ⟨kind, low, high⟩
    exact Nat.not_lt.mpr low high
  | append_singleton before call ih =>
    rw [List.length_append, List.length_singleton] at room ⊢
    obtain ⟨s, ran, filled⟩ := ih (Nat.le_of_succ_le room) fun call member =>
      welcome call (List.mem_append_left _ member)
    obtain ⟨query, answers, p, asks, parsed, willing⟩ :=
      welcome call (List.mem_append_right _ (List.mem_singleton_self _))
    obtain ⟨⟨request, fuel⟩, closes⟩ := call
    obtain rfl : request = .get query answers := asks
    obtain ⟨t, stepped, after⟩ := filled_step codePage fuel closes filled room parsed willing
    refine ⟨t, ?_, after⟩
    rw [Run.run_append, ran]
    exact (congrArg (Option.bind · _) stepped).trans rfl

end GstGateway
