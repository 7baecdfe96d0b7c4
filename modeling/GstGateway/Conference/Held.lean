import GstGateway.Conference.Allocation

/-! Which ports the process holds. `Os.inUse` looks through the table of sockets; `lookup` finds a socket by
its number. They agree, since no number is given out twice while it is open. -/

namespace GstGateway

def DistinctHandles (os : Os) : Prop := (os.sockets.map Socket.handle).Nodup

variable {self : ReceiverId} {answers : Nat → Attempt} {r : UdpReceiver} {os : Os} {port left : Nat}

theorem find_of_nodup {sockets : List Socket} {s : Socket} (distinct : (sockets.map Socket.handle).Nodup)
    (member : s ∈ sockets) : sockets.find? (fun q => q.handle == s.handle) = some s := by
  induction sockets with
  | nil => cases member
  | cons first rest ih =>
    obtain ⟨absent, distinct⟩ := List.nodup_cons.mp distinct
    rcases List.mem_cons.mp member with rfl | inside
    · simp
    · have other : first.handle ≠ s.handle := fun same =>
        absent (same ▸ List.mem_map.mpr ⟨s, inside, rfl⟩)
      rw [List.find?_cons, beq_eq_false_iff_ne.mpr other]
      exact ih distinct inside

theorem lookup_of_mem {s : Socket} (distinct : DistinctHandles os) (member : s ∈ os.sockets) :
    os.lookup (.number s.handle) = some s := find_of_nodup distinct member

theorem inUse_iff (distinct : DistinctHandles os) :
    os.inUse port = true ↔ ∃ h s, os.lookup h = some s ∧ s.port = some port := by
  constructor
  · intro used
    obtain ⟨s, member, bound⟩ := List.any_eq_true.mp used
    exact ⟨.number s.handle, s, lookup_of_mem distinct member, by simpa using bound⟩
  · rintro ⟨h, s, found, bound⟩
    exact inUse_of_lookup found bound

theorem lookup_handle {h : Handle} {s : Socket} (found : os.lookup h = some s) : h = .number s.handle := by
  cases h with
  | number n =>
    have same : s.handle = n := by simpa using List.find?_some found
    rw [same]
  | _ => cases found

theorem distinct_socket {wish : Nat} (distinct : DistinctHandles os) : DistinctHandles (os.socket self wish).2 := by
  refine List.nodup_cons.mpr ⟨fun member => ?_, distinct⟩
  obtain ⟨s, there, same⟩ := List.mem_map.mp member
  have absent := List.find?_eq_none.mp (os.lookup_fresh wish) s there
  simp [same] at absent

theorem distinct_bind {h : Handle} (distinct : DistinctHandles os) : DistinctHandles (os.bind h port) := by
  have same : ((os.bind h port).sockets.map Socket.handle) = os.sockets.map Socket.handle := by
    simp only [Os.bind, List.map_map]
    refine List.map_congr_left fun s _ => ?_
    simp only [Function.comp_apply]
    split <;> rfl
  unfold DistinctHandles
  rw [same]
  exact distinct

theorem distinct_close {h : Handle} (distinct : DistinctHandles os) : DistinctHandles (os.closesocket h) :=
  distinct.sublist (List.filter_sublist.map _)

theorem distinct_tryInit (self : ReceiverId) (r : UdpReceiver) (answer : Attempt) (port : Nat)
    (distinct : DistinctHandles os) : DistinctHandles (UdpReceiver.tryInit self r os port answer).2.2 := by
  unfold UdpReceiver.tryInit
  cases answer.socket with
  | none => exact distinct
  | some wish =>
    cases answer.bind with
    | bound => exact distinct_bind (distinct_socket distinct)
    | refused code => exact distinct_socket distinct

theorem distinct_search (self : ReceiverId) (answers : Nat → Attempt) (first last : Nat)
    (distinct : DistinctHandles os) : DistinctHandles (searchRange self answers os first last).os :=
  searchFrom_keeps (P := fun _ after => DistinctHandles after) distinct fun r _ p _ _ before =>
    distinct_tryInit self r (answers p) p before

/-! ### What a search and a stop do to the bound sockets -/

/-- A bound socket after a search is an old one, or the one the receiver keeps. -/
theorem searchRange_held {first last : Nat} {h : Handle} {s : Socket}
    (found : (searchRange self answers os first last).os.lookup h = some s) (bound : s.port = some port) :
    os.lookup h = some s ∨ (s.owner = self ∧ (searchRange self answers os first last).receiver.recvSocket = h ∧
      (searchRange self answers os first last).receiver.srcPort = port) := by
  rcases searchFrom_ports self answers {} os first (last - first) h s found (by rw [bound]; nofun) with
    old | ⟨succeeds, mine⟩
  · exact Or.inl old
  · obtain ⟨n, stored, kept⟩ := searchRange_bound succeeds
    have here : (searchRange self answers os first last).receiver.recvSocket = h := mine.symm
    rw [← stored, here] at kept
    obtain rfl := Option.some.inj (found.symm.trans kept)
    exact Or.inr ⟨rfl, here, Option.some.inj bound⟩

theorem init_held {t : MediaProcessTask} {a : Addr} {h : Handle} {s : Socket}
    (found : (t.init a answers os).2.2.lookup h = some s) (bound : s.port = some port) :
    os.lookup h = some s ∨ (s.owner.task = a ∧ ∃ r, (t.init a answers os).2.1.receiver s.owner.kind = some r ∧
      r.recvSocket = h ∧ r.srcPort = port) := by
  have video : (videoSearch a answers os).os.lookup h = some s → os.lookup h = some s ∨ (s.owner.task = a ∧
      ∃ r, (t.init a answers os).2.1.receiver s.owner.kind = some r ∧ r.recvSocket = h ∧ r.srcPort = port) := by
    intro found
    rcases searchRange_held found bound with old | ⟨mine, here, same⟩
    · exact Or.inl old
    · rw [mine]
      exact Or.inr ⟨rfl, _, (init_searches t a answers os).1, here, same⟩
  obtain ⟨_, ⟨_, _, after⟩ | ⟨_, audioStored, after⟩⟩ := init_searches t a answers os
  · rw [after] at found
    exact video found
  · rw [after] at found
    rcases searchRange_held found bound with old | ⟨mine, here, same⟩
    · exact video old
    · rw [mine]
      exact Or.inr ⟨rfl, _, audioStored, here, same⟩

theorem distinct_init (t : MediaProcessTask) (a : Addr) (answers : Nat → Attempt) (distinct : DistinctHandles os) :
    DistinctHandles (t.init a answers os).2.2 := by
  obtain ⟨_, ⟨_, _, after⟩ | ⟨_, _, after⟩⟩ := init_searches t a answers os
  · rw [after]
    exact distinct_search _ _ _ _ distinct
  · rw [after]
    exact distinct_search _ _ _ _ (distinct_search _ _ _ _ distinct)

theorem stop_stored (os : Os) {t : MediaProcessTask} {kind : Kind} (stored : t.receiver kind = some r) :
    ∃ q, (t.stop os).1.receiver kind = some q ∧ q.recvSocket = r.recvSocket := by
  cases kind with
  | video =>
    have here : t.rtpVideoReceiver = some r := stored
    refine ⟨{ r with active := false }, ?_, rfl⟩
    simp only [MediaProcessTask.stop, MediaProcessTask.receiver, here, quitReceiver, UdpReceiver.quit]
  | audio =>
    have here : t.rtpAudioReceiver = some r := stored
    refine ⟨{ r with active := false }, ?_, rfl⟩
    simp only [MediaProcessTask.stop, MediaProcessTask.receiver, here, quitReceiver, UdpReceiver.quit]

theorem distinct_stop (t : MediaProcessTask) (distinct : DistinctHandles os) : DistinctHandles (t.stop os).2 := by
  have quits : ∀ (r : Option UdpReceiver) (os : Os), DistinctHandles os → DistinctHandles (quitReceiver r os).2 := by
    intro r os distinct
    cases r with
    | none => exact distinct
    | some r => exact distinct_close distinct
  exact quits _ _ (quits _ _ distinct)

/-! ### Where a search ends -/

theorem tryInit_inUse_bound {answer : Attempt} (taken : (UdpReceiver.tryInit self r os port answer).1 = 0) :
    (UdpReceiver.tryInit self r os port answer).2.2.inUse port = true := by
  obtain ⟨given, _⟩ := tryInit_accepted.mp taken
  rcases tryInit_opens self r os port answer with ⟨none, _⟩ | ⟨_, n, _, _, lookups⟩
  · rw [none] at given
    cases given
  · refine inUse_of_lookup (h := .number n) ((lookups _).trans (if_pos rfl)) ?_
    simp [taken]

/-- A search that succeeds adds the port it ends with to the ports in use, and no other. -/
theorem searchFrom_adds (found : (searchFrom self answers r os port left).found = true) (q : Nat) :
    (searchFrom self answers r os port left).os.inUse q = true ↔
      os.inUse q = true ∨ q = (searchFrom self answers r os port left).receiver.srcPort := by
  induction left generalizing r os port with
  | zero => cases found
  | succ left ih =>
    simp only [searchFrom] at found ⊢
    split at found
    · rename_i taken
      rw [if_pos taken, UdpReceiver.tryInit_srcPort]
      by_cases same : q = port
      · subst same
        exact iff_of_true (tryInit_inUse_bound taken) (Or.inr rfl)
      · rw [tryInit_inUse_other self r os (answers port) same]
        exact (or_iff_left same).symm
    · rename_i refused
      rw [if_neg refused, ih found, tryInit_inUse refused]

end GstGateway
