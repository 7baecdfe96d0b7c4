import Mathlib.Data.List.Nodup
import Mathlib.Data.List.Perm.Subperm
import Mathlib.Data.List.Range
import GstGateway.Receiver.Datagrams

/-! What becomes of the buffers that `receivePushBuffer` allocates. A run is accounted for as a whole:
no buffer is handed over twice, and the ones that are lost are counted by the datagrams of no known type. -/

namespace GstGateway

def Gst.settled (g : Gst) : List Nat := g.pushed.map (fun sent => sent.2.id) ++ g.released.map GstBuffer.id

/-- Every buffer was handed to one source or released, and only once. -/
structure Balanced (g : Gst) : Prop where
  balance : g.allocated = g.pushed.length + g.released.length
  once : ∀ id < g.allocated, g.settled.count id = 1

def Unknown (d : Datagram) : Prop := Fits d ∧ sourceOf (d.headD 0) = none

instance (d : Datagram) : Decidable (Unknown d) := by
  unfold Unknown
  infer_instance

theorem known_iff {d : Datagram} : ¬ Unknown d ↔ (Fits d → ∃ k : Fin 4, Meant k d) := by
  simp only [Unknown, not_and]
  refine imp_congr_right fun fits => ?_
  rw [← ne_eq, Option.ne_none_iff_exists']
  constructor
  · rintro ⟨k, found⟩
    obtain ⟨small, type⟩ := sourceOf_eq_some.mp found
    refine ⟨⟨k, small⟩, fits, ?_⟩
    cases d with
    | nil => exact absurd fits.1 (Nat.not_lt_zero _)
    | cons first rest => exact congrArg some type
  · rintro ⟨k, _, type⟩
    cases d with
    | nil => cases type
    | cons first rest => exact ⟨k, sourceOf_eq_some.mpr ⟨k.isLt, Option.some.inj type⟩⟩

structure Accounted (lost : Nat) (g : Gst) : Prop where
  balance : g.allocated = g.pushed.length + lost
  fresh : ∀ sent ∈ g.pushed, sent.2.id < g.allocated
  once : (g.pushed.map fun sent => sent.2.id).Nodup
  kept : g.released = []

theorem accounted_push {lost : Nat} {g : Gst} (accounted : Accounted lost g) (k : Nat) (bytes : List UInt8) :
    Accounted lost { g with allocated := g.allocated + 1, pushed := g.pushed ++ [(k, ⟨g.allocated, bytes⟩)] } := by
  obtain ⟨balance, fresh, once, kept⟩ := accounted
  refine ⟨?_, ?_, ?_, kept⟩
  · simp only [List.length_append, List.length_singleton, balance]
    omega
  · intro sent member
    rcases List.mem_append.mp member with before | new
    · exact Nat.lt_succ_of_lt (fresh sent before)
    · cases List.mem_singleton.mp new
      exact Nat.lt_succ_self _
  · rw [List.map_append]
    refine List.nodup_append.mpr ⟨once, List.nodup_singleton _, ?_⟩
    intro id before new member
    cases List.mem_singleton.mp member
    obtain ⟨sent, pushed, rfl⟩ := List.mem_map.mp before
    exact Nat.ne_of_lt (fresh sent pushed)

theorem accounted_lose {lost : Nat} {g : Gst} (accounted : Accounted lost g) :
    Accounted (lost + 1) { g with allocated := g.allocated + 1 } := by
  obtain ⟨balance, fresh, once, kept⟩ := accounted
  refine ⟨?_, fun sent member => Nat.lt_succ_of_lt (fresh sent member), once, kept⟩
  simp only [balance]
  omega

theorem accounted_receive {lost : Nat} {s : Reception} (accounted : Accounted lost s.gst) (kind : Kind)
    (d : Datagram) : Accounted (lost + if Unknown d then 1 else 0) (UdpReceiver.receive kind s d).gst := by
  rw [receive_gst]
  by_cases fits : Fits d
  · rw [if_pos fits, pushToSource]
    cases found : sourceOf (d.headD 0) with
    | none =>
      rw [if_pos ⟨fits, found⟩]
      exact accounted_lose accounted
    | some k =>
      have known : ¬ Unknown d := fun unknown => by
        rw [unknown.2] at found
        cases found
      rw [if_neg known]
      exact accounted_push accounted k _
  · rw [if_neg fits, if_neg fun unknown => fits unknown.1]
    exact accounted

theorem accounted_foldl (kind : Kind) (ds : List Datagram) {lost : Nat} {s : Reception}
    (accounted : Accounted lost s.gst) :
    Accounted (lost + ds.countP (Unknown ·)) (ds.foldl (UdpReceiver.receive kind) s).gst := by
  induction ds generalizing lost s with
  | nil => exact accounted
  | cons d rest ih =>
    have later := ih (accounted_receive accounted kind d)
    rw [Nat.add_assoc, Nat.add_comm _ (rest.countP _)] at later
    simpa [List.countP_cons] using later

theorem start_accounted (kind : Kind) (recvBuf : RecvBuf) (ds : List Datagram) :
    Accounted (ds.countP (Unknown ·)) (UdpReceiver.start kind recvBuf ds).gst := by
  have none : Accounted 0 ({ recvBuf } : Reception).gst := ⟨rfl, nofun, List.nodup_nil, rfl⟩
  have run := accounted_foldl kind ds none
  rw [Nat.zero_add] at run
  exact run

theorem balanced_accounted {lost : Nat} {g : Gst} (accounted : Accounted lost g) : Balanced g ↔ lost = 0 := by
  obtain ⟨balance, fresh, once, kept⟩ := accounted
  constructor
  · intro balanced
    have whole := balanced.balance
    rw [kept, List.length_nil, balance] at whole
    omega
  · rintro rfl
    refine ⟨by rw [balance, kept, List.length_nil], fun id allocated => ?_⟩
    have within : (g.pushed.map fun sent => sent.2.id) ⊆ List.range g.allocated := by
      intro id member
      obtain ⟨sent, pushed, rfl⟩ := List.mem_map.mp member
      exact List.mem_range.mpr (fresh sent pushed)
    have all : (g.pushed.map fun sent => sent.2.id).Perm (List.range g.allocated) := by
      refine (List.subperm_of_subset once within).perm_of_length_le ?_
      rw [List.length_range, List.length_map, balance, Nat.add_zero]
    rw [Gst.settled, kept, List.map_nil, List.append_nil, all.count_eq]
    exact List.count_eq_one_of_mem List.nodup_range (List.mem_range.mpr allocated)

/-- Nothing is lost at any point of the run exactly if every datagram that reaches the `switch` has
a type the `switch` knows. -/
theorem balanced_iff_known (kind : Kind) (recvBuf : RecvBuf) (ds : List Datagram) :
    (∀ n, Balanced (UdpReceiver.start kind recvBuf (ds.take n)).gst) ↔
      ∀ d ∈ ds, Fits d → ∃ k : Fin 4, Meant k d := by
  simp only [balanced_accounted (start_accounted kind recvBuf _), List.countP_eq_zero, decide_eq_true_iff]
  constructor
  · intro never d member
    refine known_iff.mp (never ds.length d ?_)
    rwa [List.take_length]
  · intro known n d member
    exact known_iff.mpr (known d (List.mem_of_mem_take member))

def strayDatagram : Datagram := '9'.toUInt8 :: List.replicate 10 0

/-- The buffer made of a datagram of type `9` is neither pushed nor released. -/
theorem stray_datagram_lost : ¬ Balanced (UdpReceiver.start .video .zero [strayDatagram]).gst := by
  rw [balanced_accounted (start_accounted _ _ _)]
  decide

end GstGateway
