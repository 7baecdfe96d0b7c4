import Mathlib.Order.Bounds.Basic
import GstGateway.Conference.Task

/-! Which port a search settles on. The constants name the last port of a range, and the two ranges
meet without a gap; the loops stop before that last port. -/

namespace GstGateway

/-- The ports `first..last`, both ends included, on which `tryInit` succeeds. -/
def bindable (answers : Nat → Attempt) (first last : Nat) : Set Nat :=
  {port | first ≤ port ∧ port ≤ last ∧ (answers port).accepted}

/-- `init()` succeeds exactly where both ranges have a bindable port, and takes the lowest ones. -/
def FindsPorts (t : MediaProcessTask) (a : Addr) (answers : Nat → Attempt) (os : Os) : Prop :=
  ((t.init a answers os).1 = 0 ↔
    (bindable answers videoSrcPortRangeBegin videoSrcPortRangeEnd).Nonempty ∧
      (bindable answers audioSrcPortRangeBegin audioSrcPortRangeEnd).Nonempty) ∧
  ((t.init a answers os).1 = 0 → ∃ video audio,
    (t.init a answers os).2.1.rtpVideoReceiver = some video ∧
    (t.init a answers os).2.1.rtpAudioReceiver = some audio ∧
    IsLeast (bindable answers videoSrcPortRangeBegin videoSrcPortRangeEnd) video.srcPort ∧
    IsLeast (bindable answers audioSrcPortRangeBegin audioSrcPortRangeEnd) audio.srcPort)

variable {self : ReceiverId} {answers : Nat → Attempt}

theorem searchFrom_srcPort {r : UdpReceiver} {os : Os} {port left : Nat}
    (found : (searchFrom self answers r os port left).found = true) :
    port ≤ (searchFrom self answers r os port left).receiver.srcPort ∧
      (searchFrom self answers r os port left).receiver.srcPort < port + left ∧
      (answers (searchFrom self answers r os port left).receiver.srcPort).accepted ∧
      ∀ q, port ≤ q → q < (searchFrom self answers r os port left).receiver.srcPort → ¬ (answers q).accepted := by
  induction left generalizing r os port with
  | zero => cases found
  | succ left ih =>
    simp only [searchFrom] at found ⊢
    split at found
    · rename_i taken
      rw [if_pos taken, UdpReceiver.tryInit_srcPort]
      exact ⟨Nat.le_refl _, by omega, tryInit_accepted.mp taken, fun q low high => absurd low (by omega)⟩
    · rename_i refused
      rw [if_neg refused]
      obtain ⟨low, high, accepted, lowest⟩ := ih found
      refine ⟨by omega, by omega, accepted, fun q lower higher => ?_⟩
      by_cases here : q = port
      · subst q
        exact fun taken => refused (tryInit_accepted.mpr taken)
      · exact lowest q (by omega) higher

theorem searchRange_least {os : Os} {first last : Nat} (range : first ≤ last)
    (found : (searchRange self answers os first last).found = true) :
    IsLeast (bindable answers first last) (searchRange self answers os first last).receiver.srcPort := by
  unfold searchRange at found ⊢
  obtain ⟨low, high, accepted, lowest⟩ := searchFrom_srcPort found
  refine ⟨⟨low, by omega, accepted⟩, fun q member => ?_⟩
  obtain ⟨lower, _, taken⟩ := member
  by_contra higher
  exact lowest q lower (by omega) taken

theorem init_least {t : MediaProcessTask} {a : Addr} {os : Os} (zero : (t.init a answers os).1 = 0) :
    ∃ video audio, (t.init a answers os).2.1.rtpVideoReceiver = some video ∧
      (t.init a answers os).2.1.rtpAudioReceiver = some audio ∧
      IsLeast (bindable answers videoSrcPortRangeBegin videoSrcPortRangeEnd) video.srcPort ∧
      IsLeast (bindable answers audioSrcPortRangeBegin audioSrcPortRangeEnd) audio.srcPort := by
  revert zero
  unfold MediaProcessTask.init
  dsimp only
  split
  · rename_i videoFound
    split
    · rename_i audioFound
      intro _
      exact ⟨_, _, rfl, rfl, searchRange_least (by decide) videoFound, searchRange_least (by decide) audioFound⟩
    · exact fun zero => absurd zero Int.one_ne_zero
  · exact fun zero => absurd zero Int.one_ne_zero

theorem bindable_of_obtainable {first last : Nat} (h : Obtainable answers first last) :
    (bindable answers first last).Nonempty := by
  obtain ⟨port, low, high, accepted⟩ := h
  exact ⟨port, low, Nat.le_of_lt high, accepted⟩

/-- The search does what its range promises exactly where each range has a bindable port before its
last one, or one of them has none at all. -/
theorem findsPorts_iff (t : MediaProcessTask) (a : Addr) (answers : Nat → Attempt) (os : Os) :
    FindsPorts t a answers os ↔
      (Obtainable answers videoSrcPortRangeBegin videoSrcPortRangeEnd ∧
        Obtainable answers audioSrcPortRangeBegin audioSrcPortRangeEnd) ∨
      bindable answers videoSrcPortRangeBegin videoSrcPortRangeEnd = ∅ ∨
      bindable answers audioSrcPortRangeBegin audioSrcPortRangeEnd = ∅ := by
  constructor
  · rintro ⟨returns, _⟩
    by_cases video : bindable answers videoSrcPortRangeBegin videoSrcPortRangeEnd = ∅
    · exact Or.inr (Or.inl video)
    · by_cases audio : bindable answers audioSrcPortRangeBegin audioSrcPortRangeEnd = ∅
      · exact Or.inr (Or.inr audio)
      · have zero := returns.mpr ⟨Set.nonempty_iff_ne_empty.mpr video, Set.nonempty_iff_ne_empty.mpr audio⟩
        exact Or.inl (init_returns_zero.mp zero)
  · intro condition
    refine ⟨⟨fun zero => ?_, fun both => ?_⟩, fun zero => init_least zero⟩
    · obtain ⟨video, audio⟩ := init_returns_zero.mp zero
      exact ⟨bindable_of_obtainable video, bindable_of_obtainable audio⟩
    · rcases condition with obtainable | none | none
      · exact init_returns_zero.mpr obtainable
      · exact absurd none both.1.ne_empty
      · exact absurd none both.2.ne_empty

def onlyLastVideo (port : Nat) : Attempt :=
  { socket := some 1
    bind := if 50001 ≤ port ∧ port ≤ 50499 then .refused ⟨wsaeaddrinuse, wsaeaddrinuse_ne⟩ else .bound }

/-- Port 50500 is free, and so is every audio port, but `init()` fails. -/
theorem last_port_not_tried :
    (({} : MediaProcessTask).init 0 onlyLastVideo {}).1 ≠ 0 ∧ (onlyLastVideo 50500).accepted ∧
      ¬ FindsPorts {} 0 onlyLastVideo {} := by
  have last : (onlyLastVideo 50500).accepted := ⟨rfl, rfl⟩
  have audio : (onlyLastVideo 50501).accepted := ⟨rfl, rfl⟩
  have fails : (({} : MediaProcessTask).init 0 onlyLastVideo {}).1 ≠ 0 := by
    intro zero
    obtain ⟨port, low, high, _, bound⟩ := (init_returns_zero.mp zero).1
    simp only [videoSrcPortRangeBegin, videoSrcPortRangeEnd] at low high
    simp [onlyLastVideo, low, Nat.le_of_lt_succ high] at bound
  refine ⟨fails, last, fun finds => fails (finds.1.mpr ⟨⟨50500, ?_, ?_, last⟩, ⟨50501, ?_, ?_, audio⟩⟩)⟩ <;> decide

end GstGateway
