import Mathlib.Data.List.Basic
import Mathlib.Tactic.IntervalCases
import GstGateway.Receiver.Udp

/-! What becomes of the datagrams: the loop of `UdpReceiver::start`, which reads each into one reused
buffer, and `receivePushBuffer`, which hands what follows the header to a source. The loop's flags
stay set here; `GstGateway.Pipeline.Threads` has them. -/

namespace GstGateway

abbrev Datagram := List UInt8

def recvBufLength : Nat := 1500

/-- `char recvBuf[1501]`. -/
structure RecvBuf where
  bytes : List UInt8
  size : bytes.length = 1501

def RecvBuf.zero : RecvBuf := ⟨List.replicate 1501 0, List.length_replicate ..⟩

/-- The first bytes are overwritten; what earlier datagrams left behind them stays. -/
def RecvBuf.write (buf : RecvBuf) (data : List UInt8) : RecvBuf where
  bytes := (data ++ buf.bytes.drop data.length).take 1501
  size := by
    rw [List.length_take, List.length_append, List.length_drop, buf.size]
    omega

/-- `recvfrom`: of a datagram that does not fit, the first part is written, and -1 is returned. -/
def recvfrom (buf : RecvBuf) (d : Datagram) : Int × RecvBuf :=
  (if d.length ≤ recvBufLength then d.length else -1, buf.write (d.take recvBufLength))

structure GstBuffer where
  id : Nat
  bytes : List UInt8
  deriving DecidableEq, Repr

/-- The buffers made by `gst_buffer_new_memdup`, those pushed to a source, and those released by
`gst_buffer_unref`, which no statement calls. A push takes ownership of its buffer. -/
structure Gst where
  allocated : Nat := 0
  pushed : List (Nat × GstBuffer) := []
  released : List GstBuffer := []

/-- The `switch` over the type: the index in `appSrcs`. -/
def sourceOf (type : UInt8) : Option Nat :=
  if type = '0'.toUInt8 then some 0
  else if type = '1'.toUInt8 then some 1
  else if type = '2'.toUInt8 then some 2
  else if type = '3'.toUInt8 then some 3
  else none

/-- The body that both compositors have. -/
def pushToSource (g : Gst) (buffer : List UInt8) (len : Int) (type : UInt8) : Gst :=
  let gbuffer : GstBuffer := ⟨g.allocated, buffer.take len.toNat⟩
  match sourceOf type with
  | some k => { g with allocated := g.allocated + 1, pushed := g.pushed ++ [(k, gbuffer)] }
  | none =>
    -- The type is printed. The buffer is neither pushed nor released.
    { g with allocated := g.allocated + 1 }

def MultipleRtpVp8Compositor.receivePushBuffer : Gst → List UInt8 → Int → UInt8 → Gst := pushToSource

def MultipleRtpOpusCompositor.receivePushBuffer : Gst → List UInt8 → Int → UInt8 → Gst := pushToSource

def receivePushBuffer : Kind → Gst → List UInt8 → Int → UInt8 → Gst
  | .video => MultipleRtpVp8Compositor.receivePushBuffer
  | .audio => MultipleRtpOpusCompositor.receivePushBuffer

structure Reception where
  recvBuf : RecvBuf
  gst : Gst := {}

namespace UdpReceiver

/-- One turn of the loop. -/
def receive (kind : Kind) (s : Reception) (d : Datagram) : Reception :=
  let received := recvfrom s.recvBuf d
  { recvBuf := received.2
    gst :=
      if received.1 > 10 then
        receivePushBuffer kind s.gst (received.2.bytes.drop 10) (received.1 - 10) (received.2.bytes.headD 0)
      else s.gst }

/-- `start()`, with what is in `recvBuf` at first. -/
def start (kind : Kind) (recvBuf : RecvBuf) (ds : List Datagram) : Reception :=
  ds.foldl (receive kind) { recvBuf }

end UdpReceiver

/-- Longer than the header, and not longer than the buffer. -/
def Fits (d : Datagram) : Prop := 10 < d.length ∧ d.length ≤ recvBufLength

instance (d : Datagram) : Decidable (Fits d) := by
  unfold Fits
  infer_instance

/-- The character `'0' + k`. -/
def typeOf (k : Nat) : UInt8 := UInt8.ofNat ('0'.toNat + k)

theorem sourceOf_eq_some {type : UInt8} {k : Nat} : sourceOf type = some k ↔ k < 4 ∧ type = typeOf k := by
  constructor
  · intro found
    unfold sourceOf at found
    split_ifs at found with zero one two three
    · cases found
      exact ⟨by decide, zero⟩
    · cases found
      exact ⟨by decide, one⟩
    · cases found
      exact ⟨by decide, two⟩
    · cases found
      exact ⟨by decide, three⟩
  · rintro ⟨small, rfl⟩
    interval_cases k <;> rfl

theorem write_fits (buf : RecvBuf) {d : Datagram} (fits : Fits d) :
    (recvfrom buf d).2.bytes = d ++ (buf.bytes.drop d.length).take (1501 - d.length) := by
  obtain ⟨_, short⟩ := fits
  unfold recvBufLength at short
  simp only [recvfrom, RecvBuf.write, recvBufLength]
  rw [List.take_of_length_le short, List.take_append, List.take_of_length_le (Nat.le_succ_of_le short)]

/-- What an accepted datagram overwrites is all that is read of the buffer. -/
theorem write_payload (buf : RecvBuf) {d : Datagram} (fits : Fits d) :
    ((recvfrom buf d).2.bytes.drop 10).take (d.length - 10) = d.drop 10 := by
  have header : 10 ≤ d.length := Nat.le_of_lt fits.1
  rw [write_fits buf fits, List.drop_append_of_le_length header, List.take_append_of_le_length, List.take_of_length_le]
  · exact Nat.le_of_eq (List.length_drop ..)
  · exact Nat.le_of_eq (List.length_drop ..).symm

theorem write_type (buf : RecvBuf) {d : Datagram} (fits : Fits d) :
    (recvfrom buf d).2.bytes.headD 0 = d.headD 0 := by
  rw [write_fits buf fits]
  cases d with
  | nil => exact absurd fits.1 (Nat.not_lt_zero _)
  | cons type rest => rfl

theorem recvfrom_header (buf : RecvBuf) (d : Datagram) : (recvfrom buf d).1 > 10 ↔ Fits d := by
  unfold recvfrom Fits
  dsimp only
  split <;> omega

/-- The thread goes on to push exactly the datagrams that fit. -/
theorem pushing_iff_fits {r : UdpReceiver} (receiving : r.pc = .receiving) (buf : RecvBuf) (d : Datagram) :
    r.nextPc (recvfrom buf d).1 = some .pushing ↔ Fits d := by
  rw [← recvfrom_header buf d]
  simp only [UdpReceiver.nextPc, receiving, Option.some.injEq, ite_eq_left_iff, reduceCtorEq, imp_false, not_not]

theorem receivePushBuffer_eq (kind : Kind) : receivePushBuffer kind = pushToSource := by
  cases kind <;> rfl

/-- The two classes do the same, whatever the buffer held. -/
theorem receive_gst (kind : Kind) (s : Reception) (d : Datagram) :
    (UdpReceiver.receive kind s d).gst =
      if Fits d then pushToSource s.gst (d.drop 10) (d.length - 10) (d.headD 0) else s.gst := by
  by_cases fits : Fits d
  · have length : (recvfrom s.recvBuf d).1 = d.length := if_pos fits.2
    have long : (d.length : Int) > 10 := Int.ofNat_lt.mpr fits.1
    have rest : ((d.length : Int) - 10).toNat = d.length - 10 := by omega
    have whole : (d.drop 10).take (d.length - 10) = d.drop 10 :=
      List.take_of_length_le (Nat.le_of_eq (List.length_drop ..))
    simp only [UdpReceiver.receive, receivePushBuffer_eq, length, if_pos long, if_pos fits, pushToSource, rest,
      write_payload _ fits, write_type _ fits, whole]
  · simp only [UdpReceiver.receive, if_neg fits, if_neg (mt (recvfrom_header _ _).mp fits)]

/-- What becomes of one datagram, by itself. -/
def delivery (d : Datagram) : Option (Nat × List UInt8) :=
  if Fits d then (sourceOf (d.headD 0)).map fun k => (k, d.drop 10) else none

def Gst.sent (g : Gst) : List (Nat × List UInt8) := g.pushed.map fun (k, gbuffer) => (k, gbuffer.bytes)

def Gst.sentTo (g : Gst) (k : Nat) : List (List UInt8) := (g.sent.filter fun p => p.1 = k).map Prod.snd

theorem pushToSource_sent (g : Gst) (d : Datagram) :
    (pushToSource g (d.drop 10) (d.length - 10) (d.headD 0)).sent =
      g.sent ++ ((sourceOf (d.headD 0)).map fun k => (k, d.drop 10)).toList := by
  have rest : ((d.length : Int) - 10).toNat = (d.drop 10).length := by
    rw [List.length_drop]
    omega
  unfold pushToSource
  rw [rest, List.take_length]
  cases sourceOf (d.headD 0) with
  | none => exact (List.append_nil _).symm
  | some k => exact List.map_append

theorem receive_sent (kind : Kind) (s : Reception) (d : Datagram) :
    (UdpReceiver.receive kind s d).gst.sent = s.gst.sent ++ (delivery d).toList := by
  rw [receive_gst, delivery]
  split
  · exact pushToSource_sent s.gst d
  · exact (List.append_nil _).symm

/-- Any run of the loop delivers the datagrams one by one, each as if it were alone. -/
theorem foldl_sent (kind : Kind) (ds : List Datagram) (s : Reception) :
    (ds.foldl (UdpReceiver.receive kind) s).gst.sent = s.gst.sent ++ ds.filterMap delivery := by
  induction ds generalizing s with
  | nil => exact (List.append_nil _).symm
  | cons d rest ih =>
    rw [List.foldl_cons, ih, receive_sent, List.append_assoc]
    cases delivered : delivery d with
    | none => rw [List.filterMap_cons_none delivered, Option.toList_none, List.nil_append]
    | some p => rw [List.filterMap_cons_some delivered, Option.toList_some, List.singleton_append]

theorem start_sent (kind : Kind) (recvBuf : RecvBuf) (ds : List Datagram) :
    (UdpReceiver.start kind recvBuf ds).gst.sent = ds.filterMap delivery :=
  foldl_sent kind ds { recvBuf }

theorem delivery_eq_some {d : Datagram} {p : Nat × List UInt8} :
    delivery d = some p ↔ Fits d ∧ sourceOf (d.headD 0) = some p.1 ∧ p.2 = d.drop 10 := by
  unfold delivery
  split
  · rename_i fits
    simp only [Option.map_eq_some_iff, fits, true_and]
    constructor
    · rintro ⟨k, found, rfl⟩
      exact ⟨found, rfl⟩
    · rintro ⟨found, same⟩
      exact ⟨p.1, found, by rw [← same]⟩
  · rename_i refused
    exact iff_of_false nofun fun given => refused given.1

/-- Meant for source `k`: it fits, and the first byte is the character `'0' + k`. -/
def Meant (k : Nat) (d : Datagram) : Prop := Fits d ∧ d.head? = some (typeOf k)

instance (k : Nat) (d : Datagram) : Decidable (Meant k d) := by
  unfold Meant
  infer_instance

theorem delivery_meant {k : Nat} (small : k < 4) (d : Datagram) :
    (delivery d).filter (fun p => p.1 = k) = if Meant k d then some (k, d.drop 10) else none := by
  cases d with
  | nil => rfl
  | cons type rest =>
    simp only [delivery, Meant, List.headD_cons, List.head?_cons, Option.some.injEq]
    by_cases fits : Fits (type :: rest)
    · by_cases mine : type = typeOf k
      · subst mine
        have found := sourceOf_eq_some.mpr ⟨small, rfl⟩
        simp [fits, found]
      · have other : ∀ j, sourceOf type = some j → j ≠ k := by
          rintro j found rfl
          exact mine (sourceOf_eq_some.mp found).2
        cases found : sourceOf type with
        | none => simp [fits, mine]
        | some j => simp [fits, mine, other j found]
    · simp [fits]

theorem filter_delivered {k : Nat} (small : k < 4) (ds : List Datagram) :
    ((ds.filterMap delivery).filter fun p => p.1 = k).map Prod.snd = (ds.filter (Meant k)).map (List.drop 10) := by
  induction ds with
  | nil => rfl
  | cons d rest ih =>
    have mine := delivery_meant small d
    by_cases meant : Meant k d
    · rw [if_pos meant] at mine
      have delivered := (Option.filter_eq_some_iff.mp mine).1
      simp only [List.filterMap_cons_some delivered, List.filter_cons, decide_true, meant, if_true, List.map_cons, ih]
    · rw [if_neg meant] at mine
      simp only [List.filter_cons, decide_false, meant, Bool.false_eq_true, if_false]
      cases delivered : delivery d with
      | none => rw [List.filterMap_cons_none delivered, ih]
      | some p =>
        have other := Option.filter_eq_none_iff.mp mine p delivered
        rw [List.filterMap_cons_some delivered, List.filter_cons, if_neg other, ih]

/-- Each source is handed, in order and once each, what follows the header of the datagrams meant
for it; there is no other source. -/
theorem demultiplexed (kind : Kind) (recvBuf : RecvBuf) (ds : List Datagram) :
    (∀ k : Fin 4, (UdpReceiver.start kind recvBuf ds).gst.sentTo k = (ds.filter (Meant k)).map (List.drop 10)) ∧
      ∀ sent ∈ (UdpReceiver.start kind recvBuf ds).gst.pushed, sent.1 < 4 := by
  constructor
  · intro k
    rw [Gst.sentTo, start_sent]
    exact filter_delivered k.isLt ds
  · intro sent member
    have among : (sent.1, sent.2.bytes) ∈ (UdpReceiver.start kind recvBuf ds).gst.sent :=
      List.mem_map_of_mem member
    rw [start_sent] at among
    obtain ⟨d, _, delivered⟩ := List.mem_filterMap.mp among
    exact (sourceOf_eq_some.mp (delivery_eq_some.mp delivered).2.1).1

end GstGateway
