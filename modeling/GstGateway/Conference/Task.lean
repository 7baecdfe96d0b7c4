import Mathlib.Logic.Function.Basic
import Mathlib.Data.Set.Basic
import GstGateway.Receiver.Udp
import GstGateway.Pipeline.Entrypoint

/-! `MediaProcessTask`: the two port searches of `init()` and the four calls of `stop()`. -/

namespace GstGateway

def videoSrcPortRangeBegin : Nat := 50001
def videoSrcPortRangeEnd : Nat := 50500
def audioSrcPortRangeBegin : Nat := 50501
def audioSrcPortRangeEnd : Nat := 51000

structure Search where
  found : Bool
  receiver : UdpReceiver
  os : Os

def searchFrom (self : ReceiverId) (answers : Nat → Attempt) (r : UdpReceiver) (os : Os) (port : Nat) :
    Nat → Search
  | 0 => { found := false, receiver := r, os }
  | left + 1 =>
    let tried := UdpReceiver.tryInit self r os port (answers port)
    if tried.1 = 0 then { found := true, receiver := tried.2.1, os := tried.2.2 }
    else searchFrom self answers tried.2.1 tried.2.2 (port + 1) left

/-- `for (int i = first; i < last; i++)`: the last port of the range is not tried. -/
def searchRange (self : ReceiverId) (answers : Nat → Attempt) (os : Os) (first last : Nat) : Search :=
  searchFrom self answers {} os first (last - first)

structure MediaProcessTask where
  name : String := ""
  /-- Default constructed; no statement assigns it. -/
  sinkIP : String := ""
  audioSinkPort : Int := 0
  videoSinkPort : Int := 0
  rtpVideoProcessor : Option RtpProcessor := none
  rtpAudioProcessor : Option RtpProcessor := none
  rtpVideoReceiver : Option UdpReceiver := none
  rtpAudioReceiver : Option UdpReceiver := none

namespace MediaProcessTask

/-- `init()`: the return code, the task and the system's sockets after it. -/
def init (self : Addr) (t : MediaProcessTask) (answers : Nat → Attempt) (os : Os) :
    Int × MediaProcessTask × Os :=
  let t := { t with
    rtpVideoProcessor := some { targetAddress := t.sinkIP, targetPort := t.videoSinkPort }
    rtpAudioProcessor := some { targetAddress := t.sinkIP, targetPort := t.audioSinkPort }
    rtpAudioReceiver := some {} }
  let video := searchRange ⟨self, .video⟩ answers os videoSrcPortRangeBegin videoSrcPortRangeEnd
  let t := { t with rtpVideoReceiver := some video.receiver }
  if video.found then
    let audio := searchRange ⟨self, .audio⟩ answers video.os audioSrcPortRangeBegin audioSrcPortRangeEnd
    let t := { t with rtpAudioReceiver := some audio.receiver }
    if audio.found then (0, t, audio.os) else (1, t, audio.os)
  else (1, t, video.os)

/-- `start()`: the two receiver threads enter their waiting loops. -/
def start (t : MediaProcessTask) : MediaProcessTask :=
  { t with
    rtpVideoReceiver := t.rtpVideoReceiver.map fun r => { r with pc := .waiting }
    rtpAudioReceiver := t.rtpAudioReceiver.map fun r => { r with pc := .waiting } }

end MediaProcessTask

def UdpReceiver.quit (r : UdpReceiver) (os : Os) : UdpReceiver × Os :=
  ({ r with active := false }, os.closesocket r.recvSocket)

def quitReceiver (r : Option UdpReceiver) (os : Os) : Option UdpReceiver × Os :=
  match r with
  | none => (none, os)
  | some r => (some (r.quit os).1, (r.quit os).2)

/-- `stop()`. Of the processors' `quit()` the registry and the sockets see nothing: it clears
the running flag of a main loop, or does nothing on `NULL`. -/
def MediaProcessTask.stop (t : MediaProcessTask) (os : Os) : MediaProcessTask × Os :=
  let video := quitReceiver t.rtpVideoReceiver os
  let audio := quitReceiver t.rtpAudioReceiver video.2
  ({ t with rtpVideoReceiver := video.1, rtpAudioReceiver := audio.1 }, audio.2)

/-! ### The port searches -/

def Attempt.accepted (a : Attempt) : Prop := a.socket.isSome ∧ a.bind = .bound

theorem tryInit_accepted {self : ReceiverId} {r : UdpReceiver} {os : Os} {port : Nat} {answer : Attempt} :
    (UdpReceiver.tryInit self r os port answer).1 = 0 ↔ answer.accepted := by
  obtain ⟨socket, bind⟩ := answer
  unfold UdpReceiver.tryInit Attempt.accepted
  cases socket with
  | none => simp [wsaenotsock]
  | some wish =>
    cases bind with
    | bound => simp
    | refused code => simpa using code.2

def Obtainable (answers : Nat → Attempt) (first last : Nat) : Prop :=
  ∃ port, first ≤ port ∧ port < last ∧ (answers port).accepted

variable {self : ReceiverId} {answers : Nat → Attempt}

theorem searchFrom_found {r : UdpReceiver} {os : Os} {port left : Nat} :
    (searchFrom self answers r os port left).found = true ↔ Obtainable answers port (port + left) := by
  induction left generalizing r os port with
  | zero =>
    simp only [searchFrom, Bool.false_eq_true, false_iff]
    rintro ⟨p, low, high, _⟩
    omega
  | succ left ih =>
    simp only [searchFrom]
    split
    · rename_i taken
      simp only [true_iff]
      exact ⟨port, Nat.le_refl _, by omega, tryInit_accepted.mp taken⟩
    · rename_i refused
      rw [ih]
      constructor
      · rintro ⟨p, low, high, taken⟩
        exact ⟨p, by omega, by omega, taken⟩
      · rintro ⟨p, low, high, taken⟩
        have later : p ≠ port := fun same => refused (tryInit_accepted.mpr (same ▸ taken))
        exact ⟨p, by omega, by omega, taken⟩

/-- What every attempt on the range keeps, the search keeps. -/
theorem searchFrom_keeps {P : UdpReceiver → Os → Prop} {r : UdpReceiver} {os : Os} {port left : Nat} (start : P r os)
    (kept : ∀ r os p, port ≤ p → p < port + left → P r os →
      P (UdpReceiver.tryInit self r os p (answers p)).2.1 (UdpReceiver.tryInit self r os p (answers p)).2.2) :
    P (searchFrom self answers r os port left).receiver (searchFrom self answers r os port left).os := by
  induction left generalizing r os port with
  | zero => exact start
  | succ left ih =>
    have tried := kept r os port (Nat.le_refl port) (by omega) start
    simp only [searchFrom]
    split
    · exact tried
    · exact ih tried fun r os p low high => kept r os p (by omega) (by omega)

theorem searchRange_found (self : ReceiverId) (os : Os) {first last : Nat} (range : first ≤ last) :
    (searchRange self answers os first last).found = true ↔ Obtainable answers first last := by
  unfold searchRange
  rw [searchFrom_found, Nat.add_sub_cancel' range]

theorem init_returns_zero {t : MediaProcessTask} {a : Addr} {os : Os} :
    (t.init a answers os).1 = 0 ↔
      Obtainable answers videoSrcPortRangeBegin videoSrcPortRangeEnd ∧
        Obtainable answers audioSrcPortRangeBegin audioSrcPortRangeEnd := by
  rw [← searchRange_found ⟨a, .video⟩ os (by decide), ← searchRange_found ⟨a, .audio⟩
    (searchRange ⟨a, .video⟩ answers os videoSrcPortRangeBegin videoSrcPortRangeEnd).os (by decide)]
  unfold MediaProcessTask.init
  dsimp only
  split
  · rename_i video
    split
    · rename_i audio
      simp [video, audio]
    · rename_i audio
      simp [audio]
  · rename_i video
    simp [video]

/-! ### Bound ports -/

def PortsWithin (before after : Os) (held : Set Handle) : Prop :=
  ∀ h s, after.lookup h = some s → s.port ≠ none → before.lookup h = some s ∨ h ∈ held

theorem portsWithin_refl (os : Os) (held : Set Handle) : PortsWithin os os held :=
  fun _ _ found _ => Or.inl found

theorem portsWithin_trans {os₁ os₂ os₃ : Os} {held held' : Set Handle} (h₁ : PortsWithin os₁ os₂ held)
    (h₂ : PortsWithin os₂ os₃ held') : PortsWithin os₁ os₃ (held ∪ held') := by
  intro h s found bound
  rcases h₂ h s found bound with old | new
  · exact (h₁ h s old bound).imp_right Or.inl
  · exact Or.inr (Or.inr new)

theorem portsWithin_close {before after : Os} {held : Set Handle} {h : Handle}
    (within : PortsWithin before after (insert h held)) :
    PortsWithin before (after.closesocket h) held := by
  intro h' s found bound
  rw [Os.lookup_closesocket] at found
  split at found
  · cases found
  · rename_i other
    exact (within h' s found bound).imp_right fun held => held.resolve_left other

theorem portsWithin_mono {before after : Os} {held held' : Set Handle} (within : PortsWithin before after held)
    (subset : held ⊆ held') : PortsWithin before after held' :=
  fun h s found bound => (within h s found bound).imp_right fun member => subset member

theorem tryInit_ports (self : ReceiverId) (r : UdpReceiver) (os : Os) (port : Nat) (answer : Attempt) :
    PortsWithin os (UdpReceiver.tryInit self r os port answer).2.2
      {h | (UdpReceiver.tryInit self r os port answer).1 = 0 ∧
        h = (UdpReceiver.tryInit self r os port answer).2.1.recvSocket} := by
  obtain ⟨socket, bind⟩ := answer
  unfold UdpReceiver.tryInit
  cases socket with
  | none => exact portsWithin_refl os _
  | some wish =>
    intro h s found bound
    by_cases mine : h = (os.socket self wish).1
    · cases bind with
      | bound => exact Or.inr ⟨rfl, mine⟩
      | refused code =>
        -- The refused socket stays open, but it is bound to nothing.
        dsimp only at found
        rw [Os.lookup_socket, if_pos mine] at found
        cases found
        exact absurd rfl bound
    · left
      cases bind with
      | bound =>
        dsimp only at found
        rw [Os.lookup_bind, Os.lookup_socket, if_neg mine] at found
        simpa [mine] using found
      | refused code =>
        dsimp only at found
        rwa [Os.lookup_socket, if_neg mine] at found

def Search.held (s : Search) : Set Handle := {h | s.found = true ∧ h = s.receiver.recvSocket}

theorem searchFrom_ports (self : ReceiverId) (answers : Nat → Attempt) (r : UdpReceiver) (os : Os)
    (port left : Nat) :
    PortsWithin os (searchFrom self answers r os port left).os
      (searchFrom self answers r os port left).held := by
  induction left generalizing r os port with
  | zero => exact portsWithin_refl os _
  | succ left ih =>
    have tried := tryInit_ports self r os port (answers port)
    simp only [searchFrom]
    split
    · exact portsWithin_mono tried fun h held => ⟨rfl, held.2⟩
    · rename_i refused
      refine portsWithin_mono (portsWithin_trans tried (ih _ _ _)) ?_
      rintro h (held | held)
      · exact absurd held.1 refused
      · exact held

theorem init_ports {t : MediaProcessTask} {a : Addr} {os : Os} (failed : (t.init a answers os).1 ≠ 0) :
    ∃ r, (t.init a answers os).2.1.rtpVideoReceiver = some r ∧
      PortsWithin os (t.init a answers os).2.2 {r.recvSocket} := by
  revert failed
  unfold MediaProcessTask.init searchRange
  dsimp only
  have video := searchFrom_ports ⟨a, .video⟩ answers {} os videoSrcPortRangeBegin
    (videoSrcPortRangeEnd - videoSrcPortRangeBegin)
  generalize searchFrom ⟨a, .video⟩ answers {} os videoSrcPortRangeBegin
    (videoSrcPortRangeEnd - videoSrcPortRangeBegin) = v at video ⊢
  have audio := searchFrom_ports ⟨a, .audio⟩ answers {} v.os audioSrcPortRangeBegin
    (audioSrcPortRangeEnd - audioSrcPortRangeBegin)
  generalize searchFrom ⟨a, .audio⟩ answers {} v.os audioSrcPortRangeBegin
    (audioSrcPortRangeEnd - audioSrcPortRangeBegin) = u at audio ⊢
  split
  · split
    · exact fun failed => absurd rfl failed
    · rename_i none
      refine fun _ => ⟨_, rfl, portsWithin_mono (portsWithin_trans video audio) ?_⟩
      rintro h (held | held)
      · exact held.2
      · exact absurd held.1 none
  · rename_i none
    exact fun _ => ⟨_, rfl, portsWithin_mono video fun h held => absurd held.1 none⟩

theorem stop_ports {t : MediaProcessTask} {before os : Os} {r : UdpReceiver}
    (video : t.rtpVideoReceiver = some r) (within : PortsWithin before os {r.recvSocket}) :
    PortsWithin before (t.stop os).2 ∅ := by
  have closed : PortsWithin before (os.closesocket r.recvSocket) ∅ :=
    portsWithin_close (portsWithin_mono within fun h held => Or.inl held)
  unfold MediaProcessTask.stop
  simp only [video, quitReceiver, UdpReceiver.quit]
  cases t.rtpAudioReceiver with
  | none => exact closed
  | some audio => exact portsWithin_close (portsWithin_mono closed (Set.empty_subset _))

end GstGateway
