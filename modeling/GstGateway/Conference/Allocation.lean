import GstGateway.Conference.Ranges
import GstGateway.Conference.Sockets

/-! The system's side of a port search: it binds at most one open socket to a port. Everything else
about its answers is up to the programs outside. -/

namespace GstGateway

def Os.inUse (os : Os) (port : Nat) : Bool := os.sockets.any fun s => s.port == some port

/-- The answers to a search: a port that an open socket is bound to is refused. -/
def Os.permit (os : Os) (answers : Nat → Attempt) (port : Nat) : Attempt :=
  if os.inUse port then { answers port with bind := .refused ⟨wsaeaddrinuse, wsaeaddrinuse_ne⟩ } else answers port

def OnePerPort (os : Os) : Prop :=
  ∀ h h' s s' port, os.lookup h = some s → os.lookup h' = some s' → s.port = some port →
    s'.port = some port → h = h'

variable {self : ReceiverId} {answers : Nat → Attempt} {r : UdpReceiver} {os : Os} {port left : Nat}

theorem lookup_mem {h : Handle} {s : Socket} (found : os.lookup h = some s) : s ∈ os.sockets := by
  cases h with
  | number n => exact List.mem_of_find?_eq_some found
  | _ => cases found

theorem inUse_of_lookup {h : Handle} {s : Socket} (found : os.lookup h = some s) (bound : s.port = some port) :
    os.inUse port = true :=
  List.any_eq_true.mpr ⟨s, lookup_mem found, by simp [bound]⟩

theorem permit_accepted (accepted : (os.permit answers port).accepted) {h : Handle} {s : Socket}
    (found : os.lookup h = some s) : s.port ≠ some port := by
  intro bound
  rw [Os.permit, if_pos (inUse_of_lookup found bound)] at accepted
  cases accepted.2

/-! ### The system is asked at every attempt

`permit` answers by the ports in use when a request begins. A search asks about no port twice, so it
makes no difference to ask at each attempt. -/

/-- The same search with each answer taken when its attempt is made. -/
def searchAsking (self : ReceiverId) (answers : Nat → Attempt) (r : UdpReceiver) (os : Os) (port : Nat) :
    Nat → Search
  | 0 => { found := false, receiver := r, os }
  | left + 1 =>
    let tried := UdpReceiver.tryInit self r os port (os.permit answers port)
    if tried.1 = 0 then { found := true, receiver := tried.2.1, os := tried.2.2 }
    else searchAsking self answers tried.2.1 tried.2.2 (port + 1) left

theorem tryInit_inUse {answer : Attempt} (refused : (UdpReceiver.tryInit self r os port answer).1 ≠ 0) (q : Nat) :
    (UdpReceiver.tryInit self r os port answer).2.2.inUse q = os.inUse q := by
  obtain ⟨socket, bind⟩ := answer
  unfold UdpReceiver.tryInit at refused ⊢
  cases socket with
  | none => rfl
  | some wish =>
    cases bind with
    | bound => exact absurd rfl refused
    | refused code => rfl

theorem searchFrom_asking (self : ReceiverId) (answers : Nat → Attempt) (r : UdpReceiver) (os : Os)
    (port left : Nat) :
    searchFrom self (os.permit answers) r os port left = searchAsking self answers r os port left := by
  have same : ∀ (os' : Os), (∀ q, os'.inUse q = os.inUse q) → ∀ r port,
      searchFrom self (os.permit answers) r os' port left = searchAsking self answers r os' port left := by
    induction left with
    | zero => exact fun _ _ _ _ => rfl
    | succ left ih =>
      intro os' unchanged r port
      have answer : os.permit answers port = os'.permit answers port := by
        simp only [Os.permit, unchanged]
      simp only [searchFrom, searchAsking, answer]
      split
      · rfl
      · rename_i refused
        exact ih _ (fun q => (tryInit_inUse refused q).trans (unchanged q)) _ _
  exact same os (fun _ => rfl) r port

theorem tryInit_inUse_other (self : ReceiverId) (r : UdpReceiver) (os : Os) {port q : Nat} (answer : Attempt)
    (other : q ≠ port) : (UdpReceiver.tryInit self r os port answer).2.2.inUse q = os.inUse q := by
  obtain ⟨socket, bind⟩ := answer
  unfold UdpReceiver.tryInit
  cases socket with
  | none => rfl
  | some wish =>
    cases bind with
    | refused code => rfl
    | bound =>
      have old : ∀ s ∈ os.sockets, s.handle ≠ os.fresh wish := by
        intro s member same
        have absent := List.find?_eq_none.mp (os.lookup_fresh wish) s member
        simp [same] at absent
      have unchanged : os.sockets.map (fun s => if Handle.number s.handle = .number (os.fresh wish) then
          { s with port := some port } else s) = os.sockets := by
        refine (List.map_congr_left fun s member => ?_).trans (List.map_id _)
        exact if_neg fun same => old s member (Handle.number.inj same)
      have sockets : ((os.socket self wish).2.bind (os.socket self wish).1 port).sockets =
          ⟨os.fresh wish, self, some port⟩ :: os.sockets := by
        simp only [Os.bind, Os.socket, List.map_cons, if_true]
        exact congrArg (List.cons _) unchanged
      simp only [Os.inUse, sockets, List.any_cons]
      simp [Ne.symm other]

theorem searchFrom_inUse (self : ReceiverId) (answers : Nat → Attempt) (r : UdpReceiver) (os : Os)
    {port left q : Nat} (outside : q < port ∨ port + left ≤ q) :
    (searchFrom self answers r os port left).os.inUse q = os.inUse q := by
  refine searchFrom_keeps (P := fun _ after => after.inUse q = os.inUse q) rfl fun r now p low high before => ?_
  exact (tryInit_inUse_other self r now (answers p) (show q ≠ p by omega)).trans before

theorem searchFrom_congr {answers' : Nat → Attempt} (self : ReceiverId) (r : UdpReceiver) (os : Os)
    {port left : Nat} (same : ∀ q, port ≤ q → answers q = answers' q) :
    searchFrom self answers r os port left = searchFrom self answers' r os port left := by
  induction left generalizing r os port with
  | zero => rfl
  | succ left ih =>
    simp only [searchFrom, same port (Nat.le_refl _)]
    split
    · rfl
    · exact ih _ _ fun q low => same q (by omega)

/-- Nor does the second search ask about a port that the first one bound. -/
theorem audioSearch_asking (a : Addr) (answers : Nat → Attempt) (os : Os) :
    audioSearch a (os.permit answers) os =
      searchAsking ⟨a, .audio⟩ answers {} (videoSearch a (os.permit answers) os).os audioSrcPortRangeBegin
        (audioSrcPortRangeEnd - audioSrcPortRangeBegin) := by
  rw [← searchFrom_asking]
  refine searchFrom_congr _ _ _ fun q low => ?_
  have above : videoSrcPortRangeBegin + (videoSrcPortRangeEnd - videoSrcPortRangeBegin) ≤ q :=
    Nat.le_trans (by decide) low
  simp only [Os.permit, videoSearch, searchRange, searchFrom_inUse _ _ _ _ (Or.inr above)]

/-! ### What `init()` leaves -/

theorem searchRange_onePer {first last : Nat} (one : OnePerPort os)
    (free : ∀ port, first ≤ port → port < last → (answers port).accepted → ∀ h s, os.lookup h = some s →
      s.port ≠ some port) : OnePerPort (searchRange self answers os first last).os := by
  have within := searchFrom_ports self answers {} os first (last - first)
  -- A bound socket is an old one, or the one the search keeps.
  have either : ∀ h s port, (searchRange self answers os first last).os.lookup h = some s →
      s.port = some port → os.lookup h = some s ∨
        (h = (searchRange self answers os first last).receiver.recvSocket ∧
          ∀ h' s', os.lookup h' = some s' → s'.port ≠ some port) := by
    intro h s port found bound
    rcases within h s found (by rw [bound]; nofun) with old | ⟨succeeds, mine⟩
    · exact Or.inl old
    · refine Or.inr ⟨mine, ?_⟩
      obtain ⟨low, high, accepted, _⟩ := searchFrom_srcPort succeeds
      obtain ⟨n, stored, kept⟩ := searchFrom_bound succeeds
      rw [mine, stored] at found
      have socket := Option.some.inj (kept.symm.trans found)
      rw [← socket] at bound
      exact Option.some.inj bound ▸ free _ low (by omega) accepted
  intro h h' s s' port found found' bound bound'
  rcases either h s port found bound with old | ⟨mine, fresh⟩
  · rcases either h' s' port found' bound' with old' | ⟨_, fresh'⟩
    · exact one h h' s s' port old old' bound bound'
    · exact absurd bound (fresh' h s old)
  · rcases either h' s' port found' bound' with old' | ⟨mine', _⟩
    · exact absurd bound' (fresh h' s' old')
    · exact mine.trans mine'.symm

def MediaProcessTask.receiver (t : MediaProcessTask) : Kind → Option UdpReceiver
  | .video => t.rtpVideoReceiver
  | .audio => t.rtpAudioReceiver

def InRange : Kind → Nat → Prop
  | .video, port => videoSrcPortRangeBegin ≤ port ∧ port ≤ videoSrcPortRangeEnd
  | .audio, port => audioSrcPortRangeBegin ≤ port ∧ port ≤ audioSrcPortRangeEnd

/-- The receiver's socket is open, and bound to the port the receiver stores. -/
def Bound (os : Os) (self : ReceiverId) (r : UdpReceiver) : Prop :=
  ∃ n, r.recvSocket = .number n ∧ os.lookup (.number n) = some ⟨n, self, some r.srcPort⟩

variable {t : MediaProcessTask} {a : Addr}

theorem init_extends (t : MediaProcessTask) (a : Addr) (answers : Nat → Attempt) (os : Os) :
    Extends os (t.init a answers os).2.2 := by
  obtain ⟨_, ⟨_, _, after⟩ | ⟨_, _, after⟩⟩ := init_searches t a answers os
  · rw [after]
    exact searchRange_extends _ _ _ _ _
  · rw [after]
    exact extends_trans (searchRange_extends _ _ _ _ _) (searchRange_extends _ _ _ _ _)

theorem ownsHandle_extends {before after : Os} (kept : Extends before after) (owned : OwnsHandle self r before) :
    OwnsHandle self r after := fun n stored => extends_owner kept (owned n stored)

theorem searchRange_owned (self : ReceiverId) (answers : Nat → Attempt) (os : Os) (first last : Nat) :
    OwnsHandle self (searchRange self answers os first last).receiver (searchRange self answers os first last).os :=
  searchFrom_owned self answers {} os first _ (fun _ stored => by cases stored)

theorem init_owned {kind : Kind} (stored : (t.init a answers os).2.1.receiver kind = some r) :
    OwnsHandle ⟨a, kind⟩ r (t.init a answers os).2.2 := by
  have video : OwnsHandle ⟨a, .video⟩ (videoSearch a answers os).receiver (videoSearch a answers os).os :=
    searchRange_owned _ _ _ _ _
  have later : Extends (videoSearch a answers os).os (audioSearch a answers os).os := searchRange_extends _ _ _ _ _
  obtain ⟨videoStored, ⟨_, audioStored, after⟩ | ⟨_, audioStored, after⟩⟩ := init_searches t a answers os
  · rw [after]
    cases kind with
    | video => exact Option.some.inj (videoStored.symm.trans stored) ▸ video
    | audio =>
      rw [← Option.some.inj (audioStored.symm.trans stored)]
      exact fun _ stored => by cases stored
  · rw [after]
    cases kind with
    | video => exact Option.some.inj (videoStored.symm.trans stored) ▸ ownsHandle_extends later video
    | audio => exact Option.some.inj (audioStored.symm.trans stored) ▸ searchRange_owned _ _ _ _ _

theorem bound_extends {before after : Os} (kept : Extends before after) (bound : Bound before self r) :
    Bound after self r := by
  obtain ⟨n, stored, found⟩ := bound
  exact ⟨n, stored, kept _ _ found⟩

theorem init_bound (zero : (t.init a answers os).1 = 0) :
    ∃ video audio, (t.init a answers os).2.1.rtpVideoReceiver = some video ∧
      (t.init a answers os).2.1.rtpAudioReceiver = some audio ∧
      Bound (t.init a answers os).2.2 ⟨a, .video⟩ video ∧ InRange .video video.srcPort ∧
      Bound (t.init a answers os).2.2 ⟨a, .audio⟩ audio ∧ InRange .audio audio.srcPort := by
  obtain ⟨video, audio, videoStored, audioStored, videoLeast, audioLeast⟩ := init_least zero
  obtain ⟨videoObtainable, audioObtainable⟩ := init_returns_zero.mp zero
  have videoFound : (videoSearch a answers os).found = true :=
    (searchRange_found _ _ (Nat.le_of_lt videoRange)).mpr videoObtainable
  have audioFound : (audioSearch a answers os).found = true :=
    (searchRange_found _ _ (Nat.le_of_lt audioRange)).mpr audioObtainable
  have later : Extends (videoSearch a answers os).os (audioSearch a answers os).os := searchRange_extends _ _ _ _ _
  obtain ⟨videoKept, ⟨unfound, _⟩ | ⟨_, audioKept, after⟩⟩ := init_searches t a answers os
  · rw [videoFound] at unfound
    cases unfound
  · obtain rfl := Option.some.inj (videoKept.symm.trans videoStored)
    obtain rfl := Option.some.inj (audioKept.symm.trans audioStored)
    refine ⟨_, _, videoStored, audioStored, ?_, ⟨videoLeast.1.1, videoLeast.1.2.1⟩, ?_,
      audioLeast.1.1, audioLeast.1.2.1⟩
    · rw [after]
      exact bound_extends later (searchRange_bound videoFound)
    · rw [after]
      exact searchRange_bound audioFound

/-- The two searches of one task bind at most one port each, and their ranges are disjoint. -/
theorem init_onePer (one : OnePerPort os) : OnePerPort (t.init a (os.permit answers) os).2.2 := by
  have video : OnePerPort (videoSearch a (os.permit answers) os).os :=
    searchRange_onePer one fun port _ _ accepted h s found => permit_accepted accepted found
  obtain ⟨_, ⟨_, _, after⟩ | ⟨succeeds, _, after⟩⟩ := init_searches t a (os.permit answers) os
  · rw [after]
    exact video
  · rw [after]
    refine searchRange_onePer video fun port low _ accepted h s found bound => ?_
    rcases searchFrom_ports _ _ _ _ _ _ h s found (by rw [bound]; nofun) with old | ⟨_, mine⟩
    · exact permit_accepted accepted old bound
    · obtain ⟨_, below, _⟩ := searchFrom_srcPort succeeds
      obtain ⟨n, stored, kept⟩ := searchFrom_bound succeeds
      rw [mine, stored] at found
      have socket := Option.some.inj (kept.symm.trans found)
      rw [← socket] at bound
      have port := Option.some.inj bound
      simp only [videoSrcPortRangeBegin, videoSrcPortRangeEnd, audioSrcPortRangeBegin] at below low port
      omega

end GstGateway
