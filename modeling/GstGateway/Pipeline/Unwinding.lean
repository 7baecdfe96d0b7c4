import Mathlib.Logic.Function.Iterate
import GstGateway.Pipeline.Sources
import GstGateway.Pipeline.Stages

/-! `entrypoint` by itself, under any assignment of success and failure to the calls whose result it
checks. What a failed call leads to is not the same everywhere: some end the process, some drop the
pipeline and go on with it, and only the rest give up. -/

namespace GstGateway.Pipeline

def onFailure : Op → Option OnFailure
  | .createAppSrc check => check
  | .addDecoder check | .link _ _ check => some check
  | _ => none

/-- The calls on the pipeline itself. `addRtpVp9Deocoders` makes one before the call it checks. -/
def usesPipeline (kind : Kind) : Op → Bool
  | .binAdd _ | .createAppSrc (some _) | .watchBus | .setPlaying | .setNull | .pipelineUnref => true
  | .addDecoder _ => kind = .video
  | _ => false

def sourceReads : Op → List Nat
  | .binAdd elements => elements.filterMap slotOf
  | .link src _ _ => (slotOf src).toList
  | _ => []

def decoderOutputs : Kind → List String
  | .video =>
    ["rtpvp9decoder_0_videoconvert", "rtpvp9decoder_1_videoconvert", "rtpvp9decoder_2_videoconvert",
      "rtpvp9decoder_3_videoconvert"]
  | .audio =>
    ["rtpopusdecoder_0_opusdec", "rtpopusdecoder_1_opusdec", "rtpopusdecoder_2_opusdec", "rtpopusdecoder_3_opusdec"]

/-- The entries of `decoders`, or of `rtpVp9Decoders`, through which the ends of a link are found. -/
def decoderReads (kind : Kind) : Op → List Nat
  | .link src dst _ =>
    ((decoderOutputs kind).findIdx? (· = src)).toList ++ ((decoderQueues kind).findIdx? (· = dst)).toList
  | _ => []

/-- `decoders` counts the decoders that are stored; the counter starts at 0. -/
structure SetUp where
  chan : Channel
  decoders : Nat := 0
  exited : Bool := false

def decodersAfter (c : Channel) (ok : Bool) (decoders : Nat) : Op → Nat
  | .addDecoder check => if control c (.addDecoder check) ok = .goOn then decoders + 1 else decoders
  | _ => decoders

/-- The next statement of the thread. The calls are told apart by their position. -/
def turn (kind : Kind) (answers : Nat → Bool) (s : SetUp) : SetUp :=
  match s.chan.processor with
  | .idle | .ended _ => s
  | .running pc =>
    if s.exited then s
    else
      match processorStep kind s.chan (answers pc) with
      | none => s
      | some (chan, exited) =>
        { chan, exited, decoders := (nextOp kind s.chan).elim s.decoders (decodersAfter s.chan (answers pc) s.decoders) }

def setUp (kind : Kind) (memory : Int) (answers : Nat → Bool) (n : Nat) : SetUp :=
  (turn kind answers)^[n] { chan := launch { appSrcCount := memory } .processor }

def CallFails (kind : Kind) (answers : Nat → Bool) : Prop :=
  ∃ pc op check, (entrypoint kind)[pc]? = some op ∧ onFailure op = some check ∧ answers pc = false

/-- The thread does nothing wrong in its next statement, and has done nothing wrong so far. -/
structure Orderly (kind : Kind) (s : SetUp) : Prop where
  alive : s.exited = false
  held : ∀ op, nextOp kind s.chan = some op → usesPipeline kind op = true → s.chan.unrefs = 0
  sources : ∀ op, nextOp kind s.chan = some op → ∀ i ∈ sourceReads op, (i : Int) ∈ s.chan.appSrcs
  decoders : ∀ op, nextOp kind s.chan = some op → ∀ i ∈ decoderReads kind op, i < s.decoders
  /-- A store outside the array is undefined. -/
  inside : ∀ i ∈ s.chan.appSrcs, 0 ≤ i ∧ i < 10
  unflagged : s.chan.receiver.syncFlag = false

/-- -1 is returned, the pipeline was dropped once, and all was in order on the way. -/
structure Unwinds (kind : Kind) (memory : Int) (answers : Nat → Bool) : Prop where
  returns : ∃ n, (setUp kind memory answers n).chan.processor = .ended (-1) ∧
    (setUp kind memory answers n).chan.unrefs = 1
  orderly : ∀ n, Orderly kind (setUp kind memory answers n)

/-- If the call at `pc` is checked, and a failure is not just printed, it succeeds. -/
def Passes (kind : Kind) (answers : Nat → Bool) (pc : Nat) : Prop :=
  ∀ op check, (entrypoint kind)[pc]? = some op → onFailure op = some check → check ≠ .report → answers pc = true

/-- The first call that fails, leaving out the one whose failure is just printed, is followed by
`gst_object_unref(pipeline); return -1`. -/
def GivesUp (kind : Kind) (answers : Nat → Bool) : Prop :=
  ∃ pc op, (entrypoint kind)[pc]? = some op ∧ onFailure op = some .giveUp ∧ answers pc = false ∧
    ∀ earlier < pc, Passes kind answers earlier

def playAt (kind : Kind) : Nat := (entrypoint kind).idxOf (.storeFlag true)

theorem before_play {kind : Kind} {pc : Nat} {op : Op} (there : (entrypoint kind)[pc]? = some op)
    (early : pc < playAt kind) : op ≠ .loopRun ∧ op ≠ .pipelineUnref := by
  have all : ∀ pc < playAt kind, ∀ op ∈ (entrypoint kind)[pc]?, op ≠ .loopRun ∧ op ≠ .pipelineUnref := by
    cases kind <;> decide
  exact all pc early op there

theorem play_there (kind : Kind) : (entrypoint kind)[playAt kind]? = some (.storeFlag true) := by
  cases kind <;> decide

theorem there_before_play {kind : Kind} {pc : Nat} (early : pc < playAt kind) :
    ∃ op, (entrypoint kind)[pc]? = some op := by
  have inside := (List.getElem?_eq_some_iff.mp (play_there kind)).1
  exact ⟨_, List.getElem?_eq_getElem (Nat.lt_trans early inside)⟩

theorem flag_clear {kind : Kind} {pc : Nat} (early : pc ≤ playAt kind) : (stage kind pc).flag = false := by
  have all : ∀ pc < playAt kind + 1, (stage kind pc).flag = false := by
    cases kind <;> decide
  exact all pc (Nat.lt_succ_of_le early)

theorem sources_four (kind : Kind) (pc : Nat) : (stage kind pc).sources ≤ 4 := by
  refine Straight.progress_all (P := fun st : Stage => st.sources ≤ 4) ?_ pc
  cases kind <;> decide

theorem failure_before_play {kind : Kind} {pc : Nat} {op : Op} {check : OnFailure}
    (there : (entrypoint kind)[pc]? = some op) (made : onFailure op = some check) : pc < playAt kind := by
  have all : ∀ pc < (entrypoint kind).length, ∀ op ∈ (entrypoint kind)[pc]?, (onFailure op).isSome = true →
      pc < playAt kind := by
    cases kind <;> decide
  exact Straight.forall_at all there (Option.isSome_of_eq_some made)

/-- A helper that fails is followed by a call on the pipeline it has dropped. -/
theorem used_after_helper {kind : Kind} {pc : Nat} {op : Op} (there : (entrypoint kind)[pc]? = some op)
    (leaves : onFailure op = some .leaveHelper) :
    ∃ next, (entrypoint kind)[pc + 1]? = some next ∧ usesPipeline kind next = true := by
  have all : ∀ pc < (entrypoint kind).length, ∀ op ∈ (entrypoint kind)[pc]?, onFailure op = some .leaveHelper →
      ∃ next ∈ (entrypoint kind)[pc + 1]?, usesPipeline kind next = true := by
    cases kind <;> decide
  exact Straight.forall_at all there leaves

/-- Where the first source is read from the array for the first time. -/
def readAt (kind : Kind) : Nat := (entrypoint kind).findIdx fun op => (sourceReads op).contains 0

theorem read_there (kind : Kind) :
    ∃ reader, (entrypoint kind)[readAt kind]? = some reader ∧ 0 ∈ sourceReads reader ∧
      0 < (stage kind (readAt kind)).sources := by
  cases kind <;> exact ⟨_, rfl, by decide, by decide⟩

theorem read_before_giveUp {kind : Kind} {pc : Nat} {op : Op} (there : (entrypoint kind)[pc]? = some op)
    (gives : onFailure op = some .giveUp) : readAt kind ≤ pc := by
  have all : ∀ pc < (entrypoint kind).length, ∀ op ∈ (entrypoint kind)[pc]?, onFailure op = some .giveUp →
      readAt kind ≤ pc := by
    cases kind <;> decide
  exact Straight.forall_at all there gives

def countDecoder (n : Nat) : Op → Nat
  | .addDecoder _ => n + 1
  | _ => n

def decodersBefore (kind : Kind) (pc : Nat) : Nat := Straight.progress countDecoder 0 (entrypoint kind) pc

theorem decodersBefore_succ {kind : Kind} {pc : Nat} {op : Op} (there : (entrypoint kind)[pc]? = some op) :
    decodersBefore kind (pc + 1) = countDecoder (decodersBefore kind pc) op :=
  Straight.progress_succ there

/-- What a statement reads has been stored by the statements before it, if the first store was at 0. -/
theorem stored_before {kind : Kind} {pc : Nat} {op : Op} (there : (entrypoint kind)[pc]? = some op) :
    (∀ i ∈ sourceReads op, i < (stage kind pc).sources) ∧ ∀ i ∈ decoderReads kind op, i < decodersBefore kind pc := by
  have all : ∀ pc < (entrypoint kind).length, ∀ op ∈ (entrypoint kind)[pc]?,
      (∀ i ∈ sourceReads op, i < (stage kind pc).sources) ∧
        ∀ i ∈ decoderReads kind op, i < decodersBefore kind pc := by
    cases kind <;> decide
  exact Straight.forall_at all there

/-- `sprintf_s` does not end the process in the statement. -/
def Named (c : Channel) (op : Op) : Prop := ∀ check, op = .createAppSrc check → srcNameFits c.appSrcCount = true

theorem control_named {c : Channel} {op : Op} (named : Named c op) (ok : Bool) :
    control c op ok = if ok then .goOn else (onFailure op).elim .goOn OnFailure.control := by
  cases op with
  | createAppSrc check => simp [control, onFailure, named check rfl]
  | addDecoder check | link src dst check => rfl
  | _ => cases ok <;> rfl

theorem control_passes {c : Channel} {op : Op} {ok : Bool} (named : Named c op)
    (passes : ∀ check, onFailure op = some check → check ≠ .report → ok = true) : control c op ok = .goOn := by
  rw [control_named named]
  cases ok with
  | true => rfl
  | false =>
    cases made : onFailure op with
    | none => rfl
    | some check =>
      have printed : check = .report := by
        by_contra other
        exact Bool.false_ne_true (passes check made other)
      rw [printed]
      rfl

theorem control_fails {c : Channel} {op : Op} {ok : Bool} {check : OnFailure} (named : Named c op)
    (made : onFailure op = some check) (fails : ok = false) : control c op ok = OnFailure.control check := by
  rw [control_named named, fails, made]
  rfl

theorem turn_running {kind : Kind} (answers : Nat → Bool) {s : SetUp} {pc : Nat} {op : Op}
    (now : s.chan.processor = .running pc) (alive : s.exited = false) (there : (entrypoint kind)[pc]? = some op) :
    turn kind answers s =
      match execute s.chan pc op (answers pc) with
      | none => s
      | some (chan, exited) => { chan, exited, decoders := decodersAfter s.chan (answers pc) s.decoders op } := by
  simp only [turn, processorStep, nextOp, now, alive, there, Bool.false_eq_true, if_false, Option.elim_some]

/-- The thread stands at `pc`, and no statement before led elsewhere than to the next one. -/
structure Clean (kind : Kind) (memory : Int) (pc : Nat) (s : SetUp) : Prop where
  now : s.chan.processor = .running pc
  alive : s.exited = false
  held : s.chan.unrefs = 0
  reached : Reached memory (stage kind pc) s.chan
  decoders : s.decoders = decodersBefore kind pc

theorem clean_start (kind : Kind) (memory : Int) (answers : Nat → Bool) :
    Clean kind memory 0 (setUp kind memory answers 0) :=
  ⟨rfl, rfl, rfl, ⟨rfl, nofun, fun _ => ⟨(Int.add_zero _).symm, rfl⟩, nofun, nofun⟩, rfl⟩

theorem setUp_succ (kind : Kind) (memory : Int) (answers : Nat → Bool) (n : Nat) :
    setUp kind memory answers (n + 1) = turn kind answers (setUp kind memory answers n) :=
  Function.iterate_succ_apply' ..

theorem effect_unrefs {c : Channel} {op : Op} (other : op ≠ .pipelineUnref) : (effect c op).unrefs = c.unrefs := by
  cases op <;> first | rfl | exact absurd rfl other

theorem decodersAfter_goOn {c : Channel} {ok : Bool} {op : Op} (leads : control c op ok = .goOn) (n : Nat) :
    decodersAfter c ok n op = countDecoder n op := by
  cases op with
  | addDecoder check => exact if_pos leads
  | _ => rfl

section Turns

variable {kind : Kind} {memory : Int} {answers : Nat → Bool} {s : SetUp} {pc : Nat} {op : Op}

theorem turn_goOn (clean : Clean kind memory pc s) (there : (entrypoint kind)[pc]? = some op)
    (early : op ≠ .loopRun) (leads : control s.chan op (answers pc) = .goOn) :
    turn kind answers s =
      ⟨{ effect s.chan op with processor := .running (pc + 1) }, decodersAfter s.chan (answers pc) s.decoders op, false⟩ := by
  rw [turn_running answers clean.now clean.alive there]
  simp only [execute, early, if_false, leads]

theorem turn_exits (clean : Clean kind memory pc s) (there : (entrypoint kind)[pc]? = some op)
    (early : op ≠ .loopRun) (leads : control s.chan op (answers pc) = .exitProcess) :
    (turn kind answers s).exited = true := by
  rw [turn_running answers clean.now clean.alive there]
  simp only [execute, early, if_false, leads]

theorem turn_exited (exited : s.exited = true) : turn kind answers s = s := by
  unfold turn
  split
  · rfl
  · rfl
  · exact if_pos exited

theorem clean_turn (clean : Clean kind memory pc s) (there : (entrypoint kind)[pc]? = some op)
    (early : pc < playAt kind) (leads : control s.chan op (answers pc) = .goOn) :
    Clean kind memory (pc + 1) (turn kind answers s) := by
  obtain ⟨loopRun, unref⟩ := before_play there early
  rw [turn_goOn clean there loopRun leads]
  refine ⟨rfl, rfl, (effect_unrefs unref).trans clean.held, ?_, ?_⟩
  · have reached := reached_effect op clean.reached
    rw [← stage_succ there] at reached
    exact reached_at reached _ _
  · have counted := decodersAfter_goOn leads s.decoders
    rw [clean.decoders, ← decodersBefore_succ there] at counted
    rw [clean.decoders]
    exact counted

variable (answers) in
theorem clean_named (clean : Clean kind memory pc s) (there : (entrypoint kind)[pc]? = some op)
    (lives : memory = 0 ∨ (turn kind answers s).exited = false) : Named s.chan op := by
  rintro check rfl
  rcases lives with rfl | alive
  · have count := (clean.reached.sources clean.held).1
    have few := sources_four kind pc
    simp only [srcNameFits, count, Bool.and_eq_true, decide_eq_true_iff]
    omega
  · by_contra long
    have exits : (turn kind answers s).exited = true :=
      turn_exits clean there (fun same => by cases same) (if_neg long)
    rw [alive] at exits
    cases exits

theorem clean_run (lives : memory = 0 ∨ ∀ n, (setUp kind memory answers n).exited = false) (n : Nat)
    (passes : ∀ pc < n, Passes kind answers pc) (early : n ≤ playAt kind) :
    Clean kind memory n (setUp kind memory answers n) := by
  induction n with
  | zero => exact clean_start kind memory answers
  | succ n ih =>
    have clean := ih (fun pc before => passes pc (Nat.lt_succ_of_lt before)) (Nat.le_of_succ_le early)
    obtain ⟨op, there⟩ := there_before_play early
    rw [setUp_succ]
    have named := clean_named answers clean there (lives.imp_right fun alive => setUp_succ .. ▸ alive (n + 1))
    exact clean_turn clean there early (control_passes named fun check made other =>
      passes n (Nat.lt_succ_self n) _ check there made other)

theorem setUp_ended {ret : Int} {n : Nat} (ended : (setUp kind memory answers n).chan.processor = .ended ret)
    {later : Nat} (after : n ≤ later) : setUp kind memory answers later = setUp kind memory answers n := by
  induction later, after using Nat.le_induction with
  | base => rfl
  | succ later after ih =>
    rw [setUp_succ, ih]
    simp only [turn, ended]

theorem clean_orderly (clean : Clean kind 0 pc s) (early : pc ≤ playAt kind) : Orderly kind s := by
  have next : ∀ op, nextOp kind s.chan = some op → (entrypoint kind)[pc]? = some op := by
    intro op
    rw [nextOp_running clean.now]
    exact id
  have stored := (clean.reached.sources clean.held).2
  refine ⟨clean.alive, fun _ _ _ => clean.held, fun op now i read => ?_, fun op now i read => ?_, fun i member => ?_, ?_⟩
  · rw [stored]
    have before := (stored_before (next op now)).1 i read
    exact List.mem_map.mpr ⟨i, List.mem_range.mpr before, Int.zero_add _⟩
  · rw [clean.decoders]
    exact (stored_before (next op now)).2 i read
  · rw [stored] at member
    obtain ⟨j, few, rfl⟩ := List.mem_map.mp member
    have four := sources_four kind pc
    have := List.mem_range.mp few
    omega
  · rw [clean.reached.flag]
    exact flag_clear early

theorem memory_zero (unwinds : Unwinds kind memory answers) (passes : ∀ earlier < readAt kind, Passes kind answers earlier)
    (early : readAt kind ≤ playAt kind) : memory = 0 := by
  have clean := clean_run (Or.inr fun n => (unwinds.orderly n).alive) (readAt kind) passes early
  obtain ⟨reader, there, reads, stored⟩ := read_there kind
  have orderly := unwinds.orderly (readAt kind)
  have read := orderly.sources reader ((nextOp_running clean.now).trans there) 0 reads
  have all := (clean.reached.sources clean.held).2
  have first : memory ∈ (setUp kind memory answers (readAt kind)).chan.appSrcs := by
    rw [all]
    exact List.mem_map.mpr ⟨0, List.mem_range.mpr stored, Int.add_zero _⟩
  have low := (orderly.inside memory first).1
  rw [all] at read
  obtain ⟨j, _, zero⟩ := List.mem_map.mp read
  omega

theorem unwinds_giveUp (unwinds : Unwinds kind memory answers) {check : OnFailure}
    (there : (entrypoint kind)[pc]? = some op) (made : onFailure op = some check) (fails : answers pc = false)
    (passes : ∀ earlier < pc, Passes kind answers earlier) (other : check ≠ .report) : check = .giveUp := by
  have lives := fun n => (unwinds.orderly n).alive
  have clean := clean_run (Or.inr lives) pc passes (Nat.le_of_lt (failure_before_play there made))
  have alive := lives (pc + 1)
  rw [setUp_succ] at alive
  have leads := control_fails (clean_named answers clean there (Or.inr alive)) made fails
  have loopRun := (before_play there (failure_before_play there made)).1
  have ran := turn_running answers clean.now clean.alive there
  cases check with
  | giveUp => rfl
  | report => exact absurd rfl other
  | exitProcess =>
    rw [turn_exits clean there loopRun leads] at alive
    cases alive
  | leaveHelper =>
    obtain ⟨next, follows, uses⟩ := used_after_helper there made
    simp only [execute, loopRun, if_false, leads, OnFailure.control] at ran
    have orderly := unwinds.orderly (pc + 1)
    rw [setUp_succ, ran] at orderly
    exact absurd (orderly.held next ((nextOp_running rfl).trans follows) uses) (Nat.succ_ne_zero _)

theorem first_failure (fallible : ¬ ∀ pc, Passes kind answers pc) :
    ∃ pc op check, (entrypoint kind)[pc]? = some op ∧ onFailure op = some check ∧ check ≠ .report ∧
      answers pc = false ∧ ∀ earlier < pc, Passes kind answers earlier := by
  classical
  have fails := not_forall.mp fallible
  by_contra never
  refine Nat.find_spec fails fun op check there made other => ?_
  by_contra failed
  exact never ⟨Nat.find fails, op, check, there, made, other, Bool.eq_false_of_not_eq_true failed,
    fun earlier before => not_not.mp (Nat.find_min fails before)⟩

theorem givesUp_of_unwinds (unwinds : Unwinds kind memory answers) : memory = 0 ∧ GivesUp kind answers := by
  have lives := fun n => (unwinds.orderly n).alive
  by_cases all : ∀ pc, Passes kind answers pc
  · have clean := clean_run (Or.inr lives) (playAt kind) (fun pc _ => all pc) (Nat.le_refl _)
    have flag := (unwinds.orderly (playAt kind + 1)).unflagged
    rw [setUp_succ, turn_goOn clean (play_there kind) nofun rfl] at flag
    cases flag
  · obtain ⟨pc, op, check, there, made, other, fails, passes⟩ := first_failure all
    have gives := unwinds_giveUp unwinds there made fails passes other
    subst gives
    have reading := read_before_giveUp there made
    refine ⟨memory_zero unwinds (fun earlier before => passes earlier (Nat.lt_of_lt_of_le before reading)) ?_,
      pc, op, there, made, fails, passes⟩
    exact Nat.le_trans reading (Nat.le_of_lt (failure_before_play there made))

theorem unwinds_of_givesUp (gives : GivesUp kind answers) : Unwinds kind 0 answers := by
  obtain ⟨pc, op, there, made, fails, passes⟩ := gives
  have early := failure_before_play there made
  have run : ∀ n ≤ pc, Clean kind 0 n (setUp kind 0 answers n) := fun n before =>
    clean_run (Or.inl rfl) n (fun earlier less => passes earlier (Nat.lt_of_lt_of_le less before))
      (Nat.le_trans before (Nat.le_of_lt early))
  have clean := run pc (Nat.le_refl _)
  have leads := control_fails (clean_named answers clean there (Or.inl rfl)) made fails
  have ran := turn_running answers clean.now clean.alive there
  simp only [execute, (before_play there early).1, if_false, leads, OnFailure.control] at ran
  rw [← setUp_succ] at ran
  have ended : (setUp kind 0 answers (pc + 1)).chan.processor = .ended (-1) := by rw [ran]
  refine ⟨⟨pc + 1, ended, ?_⟩, fun n => ?_⟩
  · rw [ran]
    exact congrArg Nat.succ clean.held
  · rcases Nat.lt_or_ge pc n with after | before
    · rw [setUp_ended ended after, ran]
      have orderly := clean_orderly clean (Nat.le_of_lt early)
      have idle : ∀ op, nextOp kind (setUp kind 0 answers (pc + 1)).chan ≠ some op := by
        intro op now
        rw [nextOp, ended] at now
        cases now
      rw [ran] at idle
      exact ⟨rfl, fun op now => absurd now (idle op), fun op now => absurd now (idle op),
        fun op now => absurd now (idle op), orderly.inside, orderly.unflagged⟩
    · exact clean_orderly (run n before) (Nat.le_trans before (Nat.le_of_lt early))

end Turns

/-! ### Where every call succeeds -/

def sourcesBefore (kind : Kind) (memory : Int) (n : Nat) : Option Sources :=
  ((entrypoint kind).take n).foldlM Sources.execute { appSrcCount := memory }

theorem sourcesBefore_succ {kind : Kind} {n : Nat} {op : Op} (memory : Int) (there : (entrypoint kind)[n]? = some op) :
    sourcesBefore kind memory (n + 1) = (sourcesBefore kind memory n).bind (·.execute op) := by
  rw [sourcesBefore, List.take_add_one, there, Option.toList_some, List.foldlM_append]
  simp only [List.foldlM_cons, List.foldlM_nil, bind_pure]
  rfl

theorem sources_at_play (kind : Kind) (memory : Int) :
    sourcesBefore kind memory (playAt kind) = sources kind memory := by
  have rest : (entrypoint kind).drop (playAt kind) =
      [.storeFlag true, .loopNew, .loopRun, .loopUnref, .setNull, .pipelineUnref, .storeFlag false] := by
    cases kind <;> decide
  rw [sources, ← List.take_append_drop (playAt kind) (entrypoint kind), List.foldlM_append, rest]
  exact (bind_pure _).symm

theorem setUp_counts {kind : Kind} {memory : Int} {answers : Nat → Bool} (succeeds : ∀ pc, answers pc = true) {n : Nat}
    (early : n ≤ playAt kind) :
    (∃ s, sourcesBefore kind memory n = some s ∧ Clean kind memory n (setUp kind memory answers n) ∧
      Counts s (setUp kind memory answers n).chan) ∨
    (sourcesBefore kind memory n = none ∧ (setUp kind memory answers n).exited = true) := by
  induction n with
  | zero => exact Or.inl ⟨_, rfl, clean_start kind memory answers, rfl, rfl⟩
  | succ n ih =>
    obtain ⟨op, there⟩ := there_before_play early
    rw [sourcesBefore_succ memory there, setUp_succ]
    rcases ih (Nat.le_of_succ_le early) with ⟨s, before, clean, counts⟩ | ⟨before, exited⟩
    · have loopRun := (before_play there early).1
      rw [before, Option.bind_some]
      cases executed : s.execute op with
      | none => exact Or.inr ⟨rfl, turn_exits clean there loopRun (counts_exits counts executed _)⟩
      | some next =>
        obtain ⟨leads, after⟩ := counts_goOn counts executed
        rw [← succeeds n] at leads
        refine Or.inl ⟨next, rfl, clean_turn clean there early leads, ?_⟩
        rw [turn_goOn clean there loopRun leads]
        exact ⟨after.count, after.stored⟩
    · rw [before, turn_exited exited]
      exact Or.inr ⟨rfl, exited⟩

/-- Where every call succeeds, the thread stores the sources as `sources` says, or the process ends. -/
theorem setUp_sources (kind : Kind) (memory : Int) {answers : Nat → Bool} (succeeds : ∀ pc, answers pc = true) :
    (∃ s, sources kind memory = some s ∧ Counts s (setUp kind memory answers (playAt kind)).chan) ∨
      (sources kind memory = none ∧ (setUp kind memory answers (playAt kind)).exited = true) := by
  rw [← sources_at_play]
  rcases setUp_counts succeeds (Nat.le_refl (playAt kind)) with ⟨s, before, _, counts⟩ | ended
  · exact Or.inl ⟨s, before, counts⟩
  · exact Or.inr ended

/-- A run in which a call fails unwinds exactly if the sources are stored from 0 on and the first
failure is one of those that give up. -/
theorem unwinds_iff_givesUp (kind : Kind) (memory : Int) (answers : Nat → Bool) :
    (CallFails kind answers → Unwinds kind memory answers) ↔
      (CallFails kind answers → memory = 0 ∧ GivesUp kind answers) := by
  refine imp_congr_right fun _ => ⟨givesUp_of_unwinds, ?_⟩
  rintro ⟨rfl, gives⟩
  exact unwinds_of_givesUp gives

/-- The audio compositor's first `gst_bin_add` fails; `addDecoders` then adds to the dropped pipeline. -/
theorem dropped_pipeline_used :
    ¬ (CallFails .audio (fun pc => pc != 9) → Unwinds .audio 0 fun pc => pc != 9) := by
  intro unwinds
  have fails : CallFails .audio fun pc => pc != 9 := ⟨9, _, _, rfl, rfl, rfl⟩
  have held := ((unwinds fails).orderly 10).held _ rfl rfl
  exact absurd held (by decide)

end GstGateway.Pipeline
