import Mathlib.Data.Set.Insert
import GstGateway.Conference.Task

/-! The sockets a port search opens. An attempt closes nothing and overwrites the stored handle, so
of all the sockets a search opens only the last can ever be closed. -/

namespace GstGateway

/-- What was open stays open, as it was. -/
def Extends (before after : Os) : Prop := ∀ h s, before.lookup h = some s → after.lookup h = some s

def opened (before after : Os) : Set Handle := {h | before.lookup h = none ∧ after.lookup h ≠ none}

theorem extends_refl (os : Os) : Extends os os := fun _ _ found => found

theorem extends_trans {os₁ os₂ os₃ : Os} (first : Extends os₁ os₂) (second : Extends os₂ os₃) :
    Extends os₁ os₃ := fun h s found => second h s (first h s found)

theorem closed_before {before after : Os} {h : Handle} (kept : Extends before after)
    (closed : after.lookup h = none) : before.lookup h = none := by
  cases found : before.lookup h with
  | none => rfl
  | some s => rw [kept h s found] at closed; cases closed

theorem opened_union {os₁ os₂ os₃ : Os} (first : Extends os₁ os₂) (second : Extends os₂ os₃) :
    opened os₁ os₃ = opened os₁ os₂ ∪ opened os₂ os₃ := by
  ext h
  constructor
  · rintro ⟨closed, now⟩
    by_cases between : os₂.lookup h = none
    · exact Or.inr ⟨between, now⟩
    · exact Or.inl ⟨closed, between⟩
  · rintro (⟨closed, between⟩ | ⟨between, now⟩)
    · exact ⟨closed, fun later => between (closed_before second later)⟩
    · exact ⟨closed_before first between, now⟩

/-! ### One attempt -/

variable {self : ReceiverId} {answers : Nat → Attempt} {r : UdpReceiver} {os : Os} {port left : Nat}

theorem tryInit_opens (self : ReceiverId) (r : UdpReceiver) (os : Os) (port : Nat) (answer : Attempt) :
    (answer.socket = none ∧ (UdpReceiver.tryInit self r os port answer).2.1.recvSocket = .invalid ∧
      (UdpReceiver.tryInit self r os port answer).2.2 = os) ∨
    (answer.socket ≠ none ∧ ∃ n, os.lookup (.number n) = none ∧
      (UdpReceiver.tryInit self r os port answer).2.1.recvSocket = .number n ∧
      ∀ h, (UdpReceiver.tryInit self r os port answer).2.2.lookup h =
        if h = .number n then
          some ⟨n, self, if (UdpReceiver.tryInit self r os port answer).1 = 0 then some port else none⟩
        else os.lookup h) := by
  obtain ⟨socket, bind⟩ := answer
  unfold UdpReceiver.tryInit
  cases socket with
  | none => exact Or.inl ⟨rfl, rfl, rfl⟩
  | some wish =>
    refine Or.inr ⟨nofun, os.fresh wish, os.lookup_fresh wish, ?_⟩
    cases bind with
    | bound =>
      refine ⟨rfl, fun h => ?_⟩
      simp only [if_true]
      rw [Os.lookup_bind, Os.lookup_socket]
      by_cases mine : h = .number (os.fresh wish)
      · simp [Os.socket, mine]
      · simp [Os.socket, mine]
    | refused code =>
      refine ⟨rfl, fun h => ?_⟩
      simp only [code.2, if_false]
      exact Os.lookup_socket os self wish h

theorem tryInit_extends (self : ReceiverId) (r : UdpReceiver) (os : Os) (port : Nat) (answer : Attempt) :
    Extends os (UdpReceiver.tryInit self r os port answer).2.2 := by
  rcases tryInit_opens self r os port answer with ⟨_, _, same⟩ | ⟨_, n, free, _, lookups⟩
  · rw [same]
    exact extends_refl os
  · intro h s found
    rw [lookups, if_neg, found]
    rintro rfl
    rw [free] at found
    cases found

theorem tryInit_handle (self : ReceiverId) (r : UdpReceiver) (os : Os) (port : Nat) (answer : Attempt) :
    os.lookup (UdpReceiver.tryInit self r os port answer).2.1.recvSocket = none := by
  rcases tryInit_opens self r os port answer with ⟨_, failed, _⟩ | ⟨_, n, free, given, _⟩
  · rw [failed]
    rfl
  · rw [given]
    exact free

theorem tryInit_opened (self : ReceiverId) (r : UdpReceiver) (os : Os) (port : Nat) (answer : Attempt) :
    opened os (UdpReceiver.tryInit self r os port answer).2.2 =
      if answer.socket = none then ∅ else {(UdpReceiver.tryInit self r os port answer).2.1.recvSocket} := by
  rcases tryInit_opens self r os port answer with ⟨none, _, same⟩ | ⟨some, n, free, given, lookups⟩
  · rw [same, if_pos none]
    exact Set.eq_empty_of_forall_notMem fun h ⟨closed, now⟩ => now closed
  · rw [if_neg some, given]
    ext h
    simp only [opened, Set.mem_ofPred_eq, Set.mem_singleton_iff, lookups]
    by_cases mine : h = .number n
    · simp [mine, free]
    · simp [mine]

/-! ### A whole search -/

theorem searchFrom_extends (self : ReceiverId) (answers : Nat → Attempt) (r : UdpReceiver) (os : Os)
    (port left : Nat) : Extends os (searchFrom self answers r os port left).os :=
  searchFrom_keeps (P := fun _ after => Extends os after) (extends_refl os) fun r now p _ _ before =>
    extends_trans before (tryInit_extends self r now p (answers p))

theorem searchFrom_handle (self : ReceiverId) (answers : Nat → Attempt) (r : UdpReceiver) (os : Os)
    (port left : Nat) : os.lookup (searchFrom self answers r os port (left + 1)).receiver.recvSocket = none := by
  induction left generalizing r os port with
  | zero =>
    simp only [searchFrom]
    split <;> exact tryInit_handle self r os port (answers port)
  | succ left ih =>
    rw [searchFrom]
    split
    · exact tryInit_handle self r os port (answers port)
    · exact closed_before (tryInit_extends self r os port (answers port)) (ih _ _ _)

theorem accepted_socket {answer : Attempt} (accepted : answer.accepted) : answer.socket ≠ none :=
  fun none => by
    have given := accepted.1
    rw [none] at given
    cases given

theorem searchFrom_bound (found : (searchFrom self answers r os port left).found = true) :
    ∃ n, (searchFrom self answers r os port left).receiver.recvSocket = .number n ∧
      (searchFrom self answers r os port left).os.lookup (.number n) =
        some ⟨n, self, some (searchFrom self answers r os port left).receiver.srcPort⟩ := by
  induction left generalizing r os port with
  | zero => cases found
  | succ left ih =>
    simp only [searchFrom] at found ⊢
    split at found
    · rename_i taken
      have given := accepted_socket (tryInit_accepted.mp taken)
      rcases tryInit_opens self r os port (answers port) with ⟨none, _⟩ | ⟨_, n, _, stored, lookups⟩
      · exact absurd none given
      · rw [if_pos taken, UdpReceiver.tryInit_srcPort]
        exact ⟨n, stored, by rw [lookups, if_pos rfl, if_pos taken]⟩
    · rename_i refused
      rw [if_neg refused]
      exact ih found

def OwnsHandle (self : ReceiverId) (r : UdpReceiver) (os : Os) : Prop :=
  ∀ n, r.recvSocket = .number n → os.owner (.number n) = some self

theorem tryInit_owned (self : ReceiverId) (r : UdpReceiver) (os : Os) (port : Nat) (answer : Attempt) :
    OwnsHandle self (UdpReceiver.tryInit self r os port answer).2.1
      (UdpReceiver.tryInit self r os port answer).2.2 := by
  intro n stored
  rcases UdpReceiver.tryInit_socket self r os port answer with ⟨failed, _⟩ | ⟨m, given, _, owners⟩
  · rw [failed] at stored
    cases stored
  · rw [given] at stored
    rw [owners, if_pos stored.symm]

theorem searchFrom_owned (self : ReceiverId) (answers : Nat → Attempt) (r : UdpReceiver) (os : Os)
    (port left : Nat) (owned : OwnsHandle self r os) :
    OwnsHandle self (searchFrom self answers r os port left).receiver
      (searchFrom self answers r os port left).os :=
  searchFrom_keeps owned fun r now p _ _ _ => tryInit_owned self r now p (answers p)

theorem extends_owner {before after : Os} {h : Handle} {q : ReceiverId} (kept : Extends before after)
    (owner : before.owner h = some q) : after.owner h = some q := by
  obtain ⟨s, found, rfl⟩ := Option.map_eq_some_iff.mp owner
  rw [Os.owner, kept h s found, Option.map_some]

/-! ### Sockets nobody refers to -/

/-- An attempt after which the search goes on is not given a socket. -/
def Spares (answers : Nat → Attempt) (first last : Nat) : Prop :=
  ∀ port, first ≤ port → port + 1 < last → (∀ q, first ≤ q → q ≤ port → ¬ (answers q).accepted) →
    (answers port).socket = none

theorem spares_accepted {first last : Nat} (accepted : (answers first).accepted) : Spares answers first last :=
  fun _ low _ refused => absurd accepted (refused first (Nat.le_refl _) low)

theorem spares_last (answers : Nat → Attempt) (first : Nat) : Spares answers first (first + 1) :=
  fun _ low high _ => absurd high (by omega)

theorem spares_refused {first last : Nat} (refused : ¬ (answers first).accepted) (more : first + 1 < last) :
    Spares answers first last ↔ (answers first).socket = none ∧ Spares answers (first + 1) last := by
  have widen : ∀ {port}, (∀ q, first + 1 ≤ q → q ≤ port → ¬ (answers q).accepted) →
      ∀ q, first ≤ q → q ≤ port → ¬ (answers q).accepted := by
    intro port later q low high
    by_cases here : q = first
    · exact here ▸ refused
    · exact later q (by omega) high
  constructor
  · intro spares
    refine ⟨spares first (Nat.le_refl _) more fun q low high => ?_, fun port low high later => ?_⟩
    · exact Nat.le_antisymm high low ▸ refused
    · exact spares port (by omega) high (widen later)
  · rintro ⟨none, spares⟩ port low high earlier
    by_cases here : port = first
    · exact here ▸ none
    · exact spares port (by omega) high fun q lower higher => earlier q (by omega) higher

theorem opened_self (os : Os) : opened os os = ∅ :=
  Set.eq_empty_of_forall_notMem fun _ ⟨closed, now⟩ => now closed

/-- A search refers to all it opened exactly where only its last attempt is given a socket. -/
theorem searchFrom_opened (self : ReceiverId) (answers : Nat → Attempt) (r : UdpReceiver) (os : Os)
    (port left : Nat) :
    opened os (searchFrom self answers r os port left).os ⊆
        {(searchFrom self answers r os port left).receiver.recvSocket} ↔
      Spares answers port (port + left) := by
  induction left generalizing r os port with
  | zero =>
    refine iff_of_true ?_ fun p low high => absurd high (by omega)
    rw [searchFrom, opened_self]
    exact Set.empty_subset _
  | succ left ih =>
    have tried := tryInit_opened self r os port (answers port)
    by_cases taken : (UdpReceiver.tryInit self r os port (answers port)).1 = 0
    · have accepted := tryInit_accepted.mp taken
      simp only [searchFrom, if_pos taken]
      rw [tried, if_neg (accepted_socket accepted)]
      exact iff_of_true (Set.Subset.refl _) (spares_accepted accepted)
    · have refused : ¬ (answers port).accepted := fun accepted => taken (tryInit_accepted.mpr accepted)
      simp only [searchFrom, if_neg taken]
      cases left with
      | zero =>
        refine iff_of_true ?_ (spares_last answers port)
        rw [searchFrom, tried]
        split
        · exact Set.empty_subset _
        · exact Set.Subset.refl _
      | succ left =>
        -- The next attempt overwrites the handle, so nothing of this one may be left.
        have overwritten := searchFrom_handle self answers (UdpReceiver.tryInit self r os port (answers port)).2.1
          (UdpReceiver.tryInit self r os port (answers port)).2.2 (port + 1) left
        rw [opened_union (tryInit_extends self r os port (answers port)) (searchFrom_extends self answers _ _ _ _),
          Set.union_subset_iff, ih, spares_refused refused (by omega), Nat.add_right_comm port 1]
        refine and_congr_left fun _ => ?_
        by_cases given : (answers port).socket = none
        · rw [tried, if_pos given]
          exact iff_of_true (Set.empty_subset _) given
        · rw [if_neg given] at tried
          refine iff_of_false (fun same => ?_) given
          have stored := tried.symm.subset (Set.mem_singleton _)
          rw [Set.mem_singleton_iff.mp (same stored)] at stored
          exact stored.2 overwritten

/-- The handles a task's two receivers store, all that `quit()` can ever close. -/
def referred (t : MediaProcessTask) : Set Handle :=
  {h | ∃ r, (t.rtpVideoReceiver = some r ∨ t.rtpAudioReceiver = some r) ∧ r.recvSocket = h}

/-- Every socket that `init()` opened and left open is stored in one of the task's receivers. -/
def AllReferred (t : MediaProcessTask) (a : Addr) (answers : Nat → Attempt) (os : Os) : Prop :=
  opened os (t.init a answers os).2.2 ⊆ referred (t.init a answers os).2.1

theorem referred_both {t : MediaProcessTask} {video audio : UdpReceiver} (v : t.rtpVideoReceiver = some video)
    (u : t.rtpAudioReceiver = some audio) : referred t = {video.recvSocket, audio.recvSocket} := by
  ext h
  simp only [referred, v, u, Set.mem_ofPred_eq, Set.mem_insert_iff, Set.mem_singleton_iff, Option.some.injEq]
  constructor
  · rintro ⟨r, rfl | rfl, rfl⟩
    · exact Or.inl rfl
    · exact Or.inr rfl
  · rintro (rfl | rfl)
    · exact ⟨video, Or.inl rfl, rfl⟩
    · exact ⟨audio, Or.inr rfl, rfl⟩

theorem opened_first {before after : Os} {v u : Handle} (fresh : after.lookup u = none) :
    opened before after ⊆ {v, u} ↔ opened before after ⊆ {v} := by
  constructor
  · intro both h member
    rcases both member with same | same
    · exact same
    · rw [Set.mem_singleton_iff.mp same] at member
      exact absurd fresh member.2
  · exact fun first h member => Or.inl (first member)

theorem opened_both {before between after : Os} {v u : Handle} (first : Extends before between)
    (second : Extends between after) (held : between.lookup v ≠ none) (fresh : between.lookup u = none) :
    opened before after ⊆ {v, u} ↔ opened before between ⊆ {v} ∧ opened between after ⊆ {u} := by
  rw [opened_union first second, Set.union_subset_iff, opened_first fresh]
  refine and_congr_right fun _ => ⟨fun both h member => ?_, fun last h member => Or.inr (last member)⟩
  rcases both member with same | same
  · rw [same] at member
    exact absurd member.1 held
  · exact same

theorem searchRange_extends (self : ReceiverId) (answers : Nat → Attempt) (os : Os) (first last : Nat) :
    Extends os (searchRange self answers os first last).os := searchFrom_extends self answers {} os first _

theorem searchRange_bound {first last : Nat} (found : (searchRange self answers os first last).found = true) :
    ∃ n, (searchRange self answers os first last).receiver.recvSocket = .number n ∧
      (searchRange self answers os first last).os.lookup (.number n) =
        some ⟨n, self, some (searchRange self answers os first last).receiver.srcPort⟩ := searchFrom_bound found

theorem searchRange_handle (self : ReceiverId) (answers : Nat → Attempt) (os : Os) {first last : Nat}
    (range : first < last) : os.lookup (searchRange self answers os first last).receiver.recvSocket = none := by
  obtain ⟨left, steps⟩ : ∃ left, last - first = left + 1 := ⟨last - first - 1, by omega⟩
  rw [searchRange, steps]
  exact searchFrom_handle self answers {} os first left

theorem searchRange_opened (self : ReceiverId) (answers : Nat → Attempt) (os : Os) {first last : Nat}
    (range : first ≤ last) :
    opened os (searchRange self answers os first last).os ⊆
        {(searchRange self answers os first last).receiver.recvSocket} ↔ Spares answers first last := by
  rw [searchRange, searchFrom_opened, Nat.add_sub_cancel' range]

theorem videoRange : videoSrcPortRangeBegin < videoSrcPortRangeEnd := by decide

theorem audioRange : audioSrcPortRangeBegin < audioSrcPortRangeEnd := by decide

def videoSearch (a : Addr) (answers : Nat → Attempt) (os : Os) : Search :=
  searchRange ⟨a, .video⟩ answers os videoSrcPortRangeBegin videoSrcPortRangeEnd

def audioSearch (a : Addr) (answers : Nat → Attempt) (os : Os) : Search :=
  searchRange ⟨a, .audio⟩ answers (videoSearch a answers os).os audioSrcPortRangeBegin audioSrcPortRangeEnd

theorem init_searches (t : MediaProcessTask) (a : Addr) (answers : Nat → Attempt) (os : Os) :
    (t.init a answers os).2.1.rtpVideoReceiver = some (videoSearch a answers os).receiver ∧
    (((videoSearch a answers os).found = false ∧ (t.init a answers os).2.1.rtpAudioReceiver = some {} ∧
        (t.init a answers os).2.2 = (videoSearch a answers os).os) ∨
      ((videoSearch a answers os).found = true ∧
        (t.init a answers os).2.1.rtpAudioReceiver = some (audioSearch a answers os).receiver ∧
        (t.init a answers os).2.2 = (audioSearch a answers os).os)) := by
  unfold MediaProcessTask.init
  dsimp only
  split
  · rename_i found
    split <;> exact ⟨rfl, Or.inr ⟨found, rfl, rfl⟩⟩
  · rename_i unfound
    exact ⟨rfl, Or.inl ⟨Bool.eq_false_iff.mpr unfound, rfl, rfl⟩⟩

/-- No socket is left behind exactly where, in each search that `init()` makes, only the last attempt
is given one. -/
theorem allReferred_iff (t : MediaProcessTask) (a : Addr) (answers : Nat → Attempt) (os : Os) :
    AllReferred t a answers os ↔
      Spares answers videoSrcPortRangeBegin videoSrcPortRangeEnd ∧
        (Obtainable answers videoSrcPortRangeBegin videoSrcPortRangeEnd →
          Spares answers audioSrcPortRangeBegin audioSrcPortRangeEnd) := by
  have video := searchRange_opened ⟨a, .video⟩ answers os (Nat.le_of_lt videoRange)
  have found : (videoSearch a answers os).found = true ↔
      Obtainable answers videoSrcPortRangeBegin videoSrcPortRangeEnd :=
    searchRange_found _ _ (Nat.le_of_lt videoRange)
  obtain ⟨videoStored, ⟨unfound, audioStored, after⟩ | ⟨succeeds, audioStored, after⟩⟩ :=
    init_searches t a answers os
  · have none : ¬ Obtainable answers videoSrcPortRangeBegin videoSrcPortRangeEnd := fun obtainable => by
      rw [found.mpr obtainable] at unfound
      cases unfound
    rw [AllReferred, referred_both videoStored audioStored, after, opened_first rfl]
    exact video.trans (and_iff_left fun obtainable => absurd obtainable none).symm
  · have held : (videoSearch a answers os).os.lookup (videoSearch a answers os).receiver.recvSocket ≠ none := by
      obtain ⟨n, stored, bound⟩ := searchRange_bound succeeds
      rw [videoSearch, stored, bound]
      nofun
    have audio := searchRange_opened ⟨a, .audio⟩ answers (videoSearch a answers os).os
      (Nat.le_of_lt audioRange)
    have fresh := searchRange_handle ⟨a, .audio⟩ answers (videoSearch a answers os).os audioRange
    rw [AllReferred, referred_both videoStored audioStored, after]
    refine (opened_both (searchRange_extends _ _ _ _ _) (searchRange_extends _ _ _ _ _) held fresh).trans ?_
    refine and_congr video (audio.trans ?_)
    exact ⟨fun spares _ => spares, fun spares => spares (found.mp succeeds)⟩

def firstVideoTaken (port : Nat) : Attempt :=
  { socket := some port, bind := if port = 50001 then .refused ⟨wsaeaddrinuse, wsaeaddrinuse_ne⟩ else .bound }

/-- The socket of the refused attempt stays open, and no receiver stores its handle. -/
theorem refused_socket_lost : ¬ AllReferred {} 0 firstVideoTaken {} := by
  intro all
  have video : (({} : MediaProcessTask).init 0 firstVideoTaken {}).2.1.rtpVideoReceiver.map
      UdpReceiver.recvSocket = some (.number 50002) := rfl
  have audio : (({} : MediaProcessTask).init 0 firstVideoTaken {}).2.1.rtpAudioReceiver.map
      UdpReceiver.recvSocket = some (.number 50501) := rfl
  have left : .number 50001 ∈ opened {} (({} : MediaProcessTask).init 0 firstVideoTaken {}).2.2 :=
    ⟨rfl, by decide⟩
  obtain ⟨r, stored | stored, same⟩ := all left
  · rw [stored, Option.map_some, same] at video
    revert video
    decide
  · rw [stored, Option.map_some, same] at audio
    revert audio
    decide

end GstGateway
