import GstGateway.Pipeline.Threads
import GstGateway.Receiver.Datagrams

/-! `appSrcCount` is the index of the next store into `appSrcs` and the suffix of the next name, and
nothing gives it a first value. The array, with every GStreamer call succeeding; a channel keeps the
same counter and the same indices. -/

namespace GstGateway.Pipeline

/-- A source is named by when it was created. A store outside the ten elements is undefined; here it
is recorded like any other. -/
structure Sources where
  appSrcCount : Int
  created : Nat := 0
  appSrcs : Int → Option Nat := fun _ => none
  stored : List Int := []
  /-- What was linked to the queue of each decoder. -/
  linked : List (Option Nat × String) := []

def srcName (n : Int) : String := "src_" ++ toString n

/-- `none` where `sprintf_s` ends the process: the text and its terminator take more than ten. -/
def createAppSrc (s : Sources) : Option Sources :=
  if (srcName s.appSrcCount).length < 10 then
    some { s with
      created := s.created + 1
      appSrcs := Function.update s.appSrcs s.appSrcCount (some s.created)
      stored := s.stored ++ [s.appSrcCount]
      appSrcCount := s.appSrcCount + 1 }
  else none

/-- The index that a statement of `entrypoint` reads. -/
def slotOf (src : String) : Option Nat := ["src_0", "src_1", "src_2", "src_3"].findIdx? (· = src)

def Sources.execute (s : Sources) : Op → Option Sources
  | .createAppSrc _ => createAppSrc s
  | .link src dst _ =>
    match slotOf src with
    | some i => some { s with linked := s.linked ++ [(s.appSrcs i, dst)] }
    | none => some s
  | _ => some s

def sources (kind : Kind) (memory : Int) : Option Sources :=
  (entrypoint kind).foldlM Sources.execute { appSrcCount := memory }

/-- What `receivePushBuffer` hands a datagram of the type to. -/
def Sources.reached (s : Sources) (type : UInt8) : Option Nat :=
  (sourceOf type).bind fun i => s.appSrcs i

def decoderQueues : Kind → List String
  | .video => ["rtpvp9decoder_0_queue", "rtpvp9decoder_1_queue", "rtpvp9decoder_2_queue", "rtpvp9decoder_3_queue"]
  | .audio =>
    ["rtpopusdecoder_0_queue", "rtpopusdecoder_1_queue", "rtpopusdecoder_2_queue", "rtpopusdecoder_3_queue"]

/-- Four sources were created, stored inside the array and in order, and each stands where both
`receivePushBuffer` and `entrypoint` look for it. -/
structure WellPlaced (kind : Kind) (s : Sources) : Prop where
  four : s.created = 4
  inside : ∀ i ∈ s.stored, 0 ≤ i ∧ i < 10
  placed : ∀ k : Fin 4, s.appSrcs k = some k.val
  reached : ∀ k : Fin 4, s.reached (typeOf k) = some k.val
  linked : ∀ k : Fin 4, (some k.val, (decoderQueues kind).getD k "") ∈ s.linked

structure Counted (first : Int) (s : Sources) : Prop where
  count : s.appSrcCount = first + s.created
  stored : s.stored = (List.range s.created).map fun i : Nat => first + i
  holds : ∀ i j, s.appSrcs i = some j → i = first + j

theorem counted_createAppSrc {first : Int} {s t : Sources} (counted : Counted first s)
    (made : createAppSrc s = some t) : Counted first t := by
  obtain ⟨count, stored, holds⟩ := counted
  unfold createAppSrc at made
  split at made
  · cases made
    refine ⟨?_, ?_, fun i j here => ?_⟩
    · simp only [count, Nat.cast_add, Nat.cast_one, Int.add_assoc]
    · simp [stored, count, List.range_succ]
    · dsimp only at here
      by_cases new : i = s.appSrcCount
      · subst new
        rw [Function.update_self] at here
        cases here
        exact count
      · rw [Function.update_of_ne new] at here
        exact holds i j here
  · cases made

theorem counted_execute {first : Int} {s t : Sources} {op : Op} (counted : Counted first s)
    (executed : s.execute op = some t) : Counted first t := by
  cases op with
  | createAppSrc check => exact counted_createAppSrc counted executed
  | link src dst check =>
    dsimp only [Sources.execute] at executed
    split at executed <;> cases executed
    · exact ⟨counted.count, counted.stored, counted.holds⟩
    · exact counted
  | _ => cases executed; exact counted

theorem counted_run {first : Int} {s t : Sources} {ops : List Op} (counted : Counted first s)
    (ran : ops.foldlM Sources.execute s = some t) : Counted first t := by
  induction ops generalizing s with
  | nil => cases ran; exact counted
  | cons op rest ih =>
    obtain ⟨next, executed, ran⟩ := Option.bind_eq_some_iff.mp ran
    exact ih (counted_execute counted executed) ran

theorem sources_counted {kind : Kind} {memory : Int} {s : Sources} (ran : sources kind memory = some s) :
    Counted memory s :=
  counted_run ⟨(Int.add_zero _).symm, rfl, fun _ _ here => by cases here⟩ ran

theorem srcName_length (n : Int) : (srcName n).length < 10 ↔ srcNameFits n = true := by
  have text : (srcName n).length = 4 + n.repr.length := by
    rw [srcName, Int.toString_eq_repr, String.length_append]
    rfl
  rw [text, srcNameFits, Bool.and_eq_true, decide_eq_true_iff, decide_eq_true_iff, Int.repr_eq_if]
  split
  · have digits : n.toNat.repr.length ≤ 5 ↔ n.toNat < 10 ^ 5 := Nat.length_repr_le_iff (by decide)
    omega
  · have digits : (-n).toNat.repr.length ≤ 4 ↔ (-n).toNat < 10 ^ 4 := Nat.length_repr_le_iff (by decide)
    have sign : ("-" ++ (-n).toNat.repr).length = 1 + (-n).toNat.repr.length := String.length_append ..
    omega

structure Counts (s : Sources) (c : Channel) : Prop where
  count : c.appSrcCount = s.appSrcCount
  stored : c.appSrcs = s.stored

theorem counts_goOn {s t : Sources} {c : Channel} {op : Op} (counts : Counts s c) (executed : s.execute op = some t) :
    control c op true = .goOn ∧ Counts t (effect c op) := by
  obtain ⟨count, stored⟩ := counts
  cases op with
  | createAppSrc check =>
    dsimp only [Sources.execute, createAppSrc] at executed
    split at executed
    · rename_i fits
      cases executed
      rw [srcName_length, ← count] at fits
      exact ⟨by simp [control, fits], by simp [effect, count], by simp [effect, stored, count]⟩
    · cases executed
  | link src dst check =>
    dsimp only [Sources.execute] at executed
    split at executed <;> cases executed
    · exact ⟨rfl, count, stored⟩
    · exact ⟨rfl, count, stored⟩
  | _ => cases executed; exact ⟨rfl, count, stored⟩

theorem counts_exits {s : Sources} {c : Channel} {op : Op} (counts : Counts s c) (ends : s.execute op = none)
    (ok : Bool) : control c op ok = .exitProcess := by
  cases op with
  | createAppSrc check =>
    dsimp only [Sources.execute, createAppSrc] at ends
    split at ends
    · cases ends
    · rename_i long
      rw [srcName_length, ← counts.count] at long
      simp [control, long]
  | link src dst check =>
    dsimp only [Sources.execute] at ends
    split at ends <;> cases ends
  | _ => cases ends

/-- The sources are where they are looked for exactly if the memory happened to hold zero. -/
theorem wellPlaced_iff_zero (kind : Kind) (memory : Int) :
    (∃ s, sources kind memory = some s ∧ WellPlaced kind s) ↔ memory = 0 := by
  constructor
  · rintro ⟨s, ran, placed⟩
    have first := (sources_counted ran).holds _ _ (placed.placed 0)
    simpa using first.symm
  · rintro rfl
    cases kind
    · exact ⟨_, rfl, by decide, by decide, by decide, by decide, by decide⟩
    · exact ⟨_, rfl, by decide, by decide, by decide, by decide, by decide⟩

/-- With 7 in memory, the first four elements of the array are never written, and the last source
is stored past its end. -/
theorem seven_in_memory : ¬ ∃ s, sources .video 7 = some s ∧ WellPlaced .video s := by
  rintro ⟨s, ran, placed⟩
  have count := (sources_counted ran).holds _ _ (placed.placed 0)
  exact absurd count (by decide)

end GstGateway.Pipeline
