import Mathlib.Data.List.TakeWhile
import GstGateway.Foundation.Numbered
import GstGateway.Foundation.Run
import GstGateway.Pipeline.Sources

/-! The names of the elements of the video pipeline. A `std::string` is a `String` whose characters
stand for one `gchar` each; what `buildName` leaves in its target is the list of them, the
terminator included. -/

namespace GstGateway.Pipeline

/-- The platforms of the project file. -/
inductive Build where
  | win32
  | x64

/-- Bits of a `size_t`. -/
def Build.bits : Build → Nat
  | .win32 => 32
  | .x64 => 64

/-- An `int` converted to `size_t`. -/
def Build.sizeT (build : Build) (n : Int32) : Nat := (n.toInt % 2 ^ build.bits).toNat

inductive Abort where
  /-- `exit(1)`. -/
  | exit
  /-- The invalid parameter handler of the C runtime. -/
  | invalidParameter
  deriving DecidableEq, Repr

/-- What `c_str()` shows of a string: it ends at the first terminator. -/
def cStr (text : List Char) : List Char := text.takeWhile (· ≠ '\x00')

def strcpyS (size : Nat) (source : String) : Except Abort (List Char) :=
  if (cStr source.toList).length < size then .ok (cStr source.toList ++ ['\x00'])
  else .error .invalidParameter

def joined (parentName elementName : String) : String := parentName ++ "_" ++ elementName

def buildName (build : Build) (parentName elementName : String) (length : Int32) : Except Abort (List Char) :=
  let ret := joined parentName elementName
  if ret.length > build.sizeT (length - 1) then .error .exit
  else strcpyS (build.sizeT length) ret

/-- Either the check of `buildName` ends the process, or the target holds the whole name and a
terminator inside `length`. -/
def Intact (build : Build) (parentName elementName : String) (length : Int32) : Prop :=
  buildName build parentName elementName length = .error .exit ∨
    (buildName build parentName elementName length = .ok ((joined parentName elementName).toList ++ ['\x00']) ∧
      (joined parentName elementName).length < length.toInt)

theorem sizeT_of_nonneg {n : Int32} (build : Build) (nonneg : 0 ≤ n.toInt) : (build.sizeT n : Int) = n.toInt := by
  have small := n.toInt_lt
  have fits : n.toInt < 2 ^ build.bits := by
    cases build with
    | win32 => simp only [Build.bits]; omega
    | x64 => simp only [Build.bits]; omega
  rw [Build.sizeT, Int.emod_eq_of_lt nonneg fits, Int.toNat_of_nonneg nonneg]

theorem toInt_pred {length : Int32} (positive : 1 ≤ length) : (length - 1).toInt = length.toInt - 1 := by
  have least : 1 ≤ length.toInt := Int32.le_iff_toInt_le.mp positive
  have small := length.toInt_lt
  rw [Int32.toInt_sub]
  exact Int.bmod_eq_of_le (by simp; omega) (by simp; omega)

theorem cStr_length_le (text : List Char) : (cStr text).length ≤ text.length :=
  (List.takeWhile_prefix _).length_le

/-- From length 1 on the check is the exact one and `strcpy_s` finds room. -/
theorem buildName_of_positive (build : Build) (parentName elementName : String) {length : Int32}
    (positive : 1 ≤ length) :
    buildName build parentName elementName length =
      if length.toInt ≤ (joined parentName elementName).length then .error .exit
      else .ok (cStr (joined parentName elementName).toList ++ ['\x00']) := by
  have least : 1 ≤ length.toInt := Int32.le_iff_toInt_le.mp positive
  have pred := toInt_pred positive
  have guard := sizeT_of_nonneg build (show 0 ≤ (length - 1).toInt by omega)
  have room := sizeT_of_nonneg build (show 0 ≤ length.toInt by omega)
  have short := cStr_length_le (joined parentName elementName).toList
  rw [String.length_toList] at short
  unfold buildName strcpyS
  dsimp only
  split
  · rw [if_pos (by omega)]
  · rw [if_pos (by omega), if_neg (by omega)]

theorem cStr_eq_self {text : List Char} (whole : '\x00' ∉ text) : cStr text = text :=
  List.takeWhile_eq_self_iff.mpr fun _ here => decide_eq_true (ne_of_mem_of_not_mem here whole)

theorem cStr_terminated {text : List Char} (whole : '\x00' ∉ text) : cStr (text ++ ['\x00']) = text :=
  Numbered.takeWhile_ne whole []

theorem notMem_joined {parentName elementName : String} (parent : '\x00' ∉ parentName.toList)
    (element : '\x00' ∉ elementName.toList) : '\x00' ∉ (joined parentName elementName).toList := by
  simp [joined, parent, element]

theorem buildName_intact (build : Build) {parentName elementName : String} {length : Int32} (positive : 1 ≤ length)
    (parent : '\x00' ∉ parentName.toList) (element : '\x00' ∉ elementName.toList) :
    Intact build parentName elementName length := by
  have spec := buildName_of_positive build parentName elementName positive
  rw [cStr_eq_self (notMem_joined parent element)] at spec
  split at spec
  · exact .inl spec
  · exact .inr ⟨spec, by omega⟩

/-! ### Elements and their names -/

inductive Literal where
  | comp
  | udpsink1
  | udpsink2
  deriving DecidableEq, Repr

def Literal.text : Literal → String
  | .comp => "comp"
  | .udpsink1 => "udpsink1"
  | .udpsink2 => "udpsink2"

inductive H264Part where
  | videoconvert
  | queue
  | x264enc
  | rtph264pay
  | rtpbin
  deriving DecidableEq, Repr

def H264Part.elementName : H264Part → String
  | .videoconvert => "videoconvert"
  | .queue => "queue"
  | .x264enc => "x264enc"
  | .rtph264pay => "rtph264pay"
  | .rtpbin => "rtpbin"

/-- In the order of the constructor of the encoder. -/
def H264Part.all : List H264Part := [.videoconvert, .queue, .x264enc, .rtph264pay, .rtpbin]

inductive Vp9Part where
  | queue
  | cf
  | rtpvp9depay
  | vp9dec
  | videoconvert
  deriving DecidableEq, Repr

def Vp9Part.elementName : Vp9Part → String
  | .queue => "queue"
  | .cf => "cf"
  | .rtpvp9depay => "rtpvp9depay"
  | .vp9dec => "vp9dec"
  | .videoconvert => "videoconvert"

/-- In the order of the constructor of the decoder. -/
def Vp9Part.all : List Vp9Part := [.queue, .cf, .rtpvp9depay, .vp9dec, .videoconvert]

inductive Element where
  | literal (element : Literal)
  | appsrc (j : Nat)
  | encoder (part : H264Part)
  | decoder (i : Nat) (part : Vp9Part)
  deriving DecidableEq, Repr

def encoderName : String := "rtph264enc"

def decoderName (i : Nat) : String := "rtpvp9decoder_" ++ toString i

def Element.text : Element → String
  | .literal element => element.text
  | .appsrc j => srcName j
  | .encoder part => joined encoderName part.elementName
  | .decoder i part => joined (decoderName i) part.elementName

def Element.named : Element → Numbered.Named Literal H264Part Vp9Part
  | .literal element => .own element
  | .appsrc j => .counted j
  | .encoder part => .part part
  | .decoder i part => .partOf i part

/-- The fourth character of a name tells the families apart. -/
def scheme : Numbered.Scheme Literal H264Part Vp9Part where
  own := Literal.text
  counted := "src_"
  whole := encoderName
  part := H264Part.elementName
  wholes := "rtpvp9decoder_"
  partOf := Vp9Part.elementName
  sep := '_'
  place := 3
  told
    | some '_' => .counted
    | some 'h' => .part
    | some 'v' => .partOf
    | _ => .own

theorem scheme_apart : scheme.Apart where
  own := Numbered.injective_listed [.comp, .udpsink1, .udpsink2] (by intro e; cases e <;> decide) (by decide)
  part := Numbered.injective_listed H264Part.all (by intro p; cases p <;> decide) (by decide)
  partOf := Numbered.injective_listed Vp9Part.all (by intro p; cases p <;> decide) (by decide)
  sep := by decide
  owns := by intro e; cases e <;> decide
  counts := by decide
  whole := by decide
  wholes := by decide

theorem text_named (e : Element) : e.text = scheme.text e.named := by cases e <;> rfl

theorem named_injective : Function.Injective Element.named := by
  intro e f same
  cases e <;> cases f <;> simp_all [Element.named]

/-- Distinct elements have distinct names, whatever their counters. -/
theorem text_injective : Function.Injective Element.text :=
  Numbered.Scheme.names_injective scheme_apart named_injective text_named

/-! ### The statements that make them -/

/-- What `gst_element_factory_make` reads of the names a constructor builds, in their order. -/
def makeElements (build : Build) (name : String) (elementNames : List String) : Except Abort (List String) :=
  elementNames.mapM fun elementName => do
    let target ← buildName build name elementName 100
    return String.ofList (cStr target)

def rtpH264Encoder (build : Build) (inputName : String) : Except Abort (List String) :=
  makeElements build inputName (H264Part.all.map H264Part.elementName)

def rtpVp9Decoder (build : Build) (inputName : String) : Except Abort (List String) :=
  makeElements build inputName (Vp9Part.all.map Vp9Part.elementName)

inductive Making where
  | createAppSrc
  | make (element : Literal)
  | newRtpH264Encoder
  | addRtpVp9Deocoders
  deriving DecidableEq, Repr

/-- The counters of the compositor, without the bound of an `int`, and the names given so far. What a
store past the ten pointers of an array does is not part of it. -/
structure Naming where
  appSrcCount : Nat := 0
  rtpvp9DecodersCount : Nat := 0
  made : List String := []

/-- `none` where the process ends. -/
def Naming.execute (build : Build) (s : Naming) : Making → Option Naming
  | .createAppSrc =>
    if (srcName s.appSrcCount).length < 10 then
      some { s with
        made := s.made ++ [srcName s.appSrcCount]
        appSrcCount := s.appSrcCount + 1 }
    else none
  | .make element => some { s with made := s.made ++ [element.text] }
  | .newRtpH264Encoder =>
    match rtpH264Encoder build encoderName with
    | .ok names => some { s with made := s.made ++ names }
    | .error _ => none
  | .addRtpVp9Deocoders =>
    match rtpVp9Decoder build (decoderName s.rtpvp9DecodersCount) with
    | .ok names => some { s with
        made := s.made ++ names
        rtpvp9DecodersCount := s.rtpvp9DecodersCount + 1 }
    | .error _ => none

/-- What `entrypoint` makes, in its order, with any number of sources and decoders. -/
def entrypointMakings (sources decoders : Nat) : List Making :=
  List.replicate sources Making.createAppSrc ++
  [Making.make .comp, Making.make .udpsink1, Making.make .udpsink2, Making.newRtpH264Encoder] ++
  List.replicate decoders Making.addRtpVp9Deocoders

def entrypointNames (build : Build) (sources decoders : Nat) : Option Naming :=
  Run.run (Naming.execute build) {} (entrypointMakings sources decoders)

/-- Every name is shorter than the arrays of the constructors. -/
def Fit (name : String) (elementNames : List String) : Prop := ∀ e ∈ elementNames, (joined name e).length < 100

instance (name : String) (elementNames : List String) : Decidable (Fit name elementNames) :=
  inferInstanceAs (Decidable (∀ e ∈ elementNames, (joined name e).length < 100))

theorem fit_cons {name e : String} {rest : List String} :
    Fit name (e :: rest) ↔ (joined name e).length < 100 ∧ Fit name rest := List.forall_mem_cons

/-- A constructor names its elements as `joined` does, or ends the process at the first name that
does not fit. -/
theorem makeElements_eq (build : Build) {name : String} {elementNames : List String}
    (parent : '\x00' ∉ name.toList) (elements : ∀ e ∈ elementNames, '\x00' ∉ e.toList) :
    makeElements build name elementNames =
      if Fit name elementNames then .ok (elementNames.map (joined name)) else .error .exit := by
  induction elementNames with
  | nil => rfl
  | cons e rest ih =>
    have whole := notMem_joined parent (elements e List.mem_cons_self)
    have spec := buildName_of_positive build name e (show (1 : Int32) ≤ 100 by decide)
    rw [cStr_eq_self whole] at spec
    have tail := ih fun d here => elements d (List.mem_cons_of_mem e here)
    unfold makeElements at tail ⊢
    rw [List.mapM_cons, tail, spec]
    by_cases fits : (joined name e).length < 100
    · rw [if_neg (by simp; omega)]
      by_cases fit : Fit name rest
      · rw [if_pos fit, if_pos (fit_cons.mpr ⟨fits, fit⟩)]
        simp [bind, Except.bind, pure, Except.pure, cStr_terminated whole]
      · rw [if_neg fit, if_neg fun all => fit (fit_cons.mp all).2]
        rfl
    · rw [if_pos (by simp; omega), if_neg fun all => fits (fit_cons.mp all).1]
      rfl

/-! ### Who is made -/

/-- The name and its terminator fit the array it is written to. -/
def Element.Fits : Element → Prop
  | .literal _ => True
  | .appsrc j => (srcName j).length < 10
  | .encoder part => (joined encoderName part.elementName).length < 100
  | .decoder i part => (joined (decoderName i) part.elementName).length < 100

instance : (e : Element) → Decidable e.Fits
  | .literal _ => isTrue trivial
  | .appsrc _ | .encoder _ | .decoder _ _ => inferInstanceAs (Decidable (_ < _))

/-- What a statement makes, the counters being `i` and `j`. -/
def Making.elements (i j : Nat) : Making → List Element
  | .createAppSrc => [.appsrc j]
  | .make element => [.literal element]
  | .newRtpH264Encoder => H264Part.all.map .encoder
  | .addRtpVp9Deocoders => Vp9Part.all.map (.decoder i)

def Making.sources : Making → Nat
  | .createAppSrc => 1
  | _ => 0

def Making.decoders : Making → Nat
  | .addRtpVp9Deocoders => 1
  | _ => 0

/-- What the statements make, if the process does not end. -/
def roster (i j : Nat) : List Making → List Element
  | [] => []
  | making :: rest => making.elements i j ++ roster (i + making.decoders) (j + making.sources) rest

theorem fits_cons {i j : Nat} {making : Making} {rest : List Making} :
    (∀ e ∈ roster i j (making :: rest), e.Fits) ↔
      (∀ e ∈ making.elements i j, e.Fits) ∧
        ∀ e ∈ roster (i + making.decoders) (j + making.sources) rest, e.Fits :=
  List.forall_mem_append

theorem rtpH264Encoder_eq (build : Build) (i j : Nat) :
    rtpH264Encoder build encoderName =
      if ∀ e ∈ Making.newRtpH264Encoder.elements i j, e.Fits then
        .ok ((Making.newRtpH264Encoder.elements i j).map Element.text)
      else .error .exit := by
  rw [rtpH264Encoder, makeElements_eq build (by decide) (by decide)]
  rfl

theorem rtpVp9Decoder_eq (build : Build) (i j : Nat) :
    rtpVp9Decoder build (decoderName i) =
      if ∀ e ∈ Making.addRtpVp9Deocoders.elements i j, e.Fits then
        .ok ((Making.addRtpVp9Deocoders.elements i j).map Element.text)
      else .error .exit := by
  rw [rtpVp9Decoder, decoderName, makeElements_eq build (Numbered.notMem_numbered (by decide) (by decide) i) (by decide)]
  simp only [Fit, Making.elements, List.forall_mem_map, List.map_map]
  rfl

/-- A statement gives each of its elements its name if all of them fit, and ends the process if one
does not. -/
theorem execute_eq (build : Build) (s : Naming) (making : Making) :
    s.execute build making =
      if ∀ e ∈ making.elements s.rtpvp9DecodersCount s.appSrcCount, e.Fits then
        some {
          appSrcCount := s.appSrcCount + making.sources
          rtpvp9DecodersCount := s.rtpvp9DecodersCount + making.decoders
          made := s.made ++ (making.elements s.rtpvp9DecodersCount s.appSrcCount).map Element.text }
      else none := by
  unfold Naming.execute
  by_cases fits : ∀ e ∈ making.elements s.rtpvp9DecodersCount s.appSrcCount, e.Fits
  · rw [if_pos fits]
    cases making with
    | createAppSrc =>
      have short : (srcName s.appSrcCount).length < 10 := fits _ List.mem_cons_self
      dsimp only
      rw [if_pos short]
      rfl
    | make element => rfl
    | newRtpH264Encoder =>
      dsimp only
      rw [rtpH264Encoder_eq build s.rtpvp9DecodersCount s.appSrcCount, if_pos fits]
      rfl
    | addRtpVp9Deocoders =>
      dsimp only
      rw [rtpVp9Decoder_eq build s.rtpvp9DecodersCount s.appSrcCount, if_pos fits]
      rfl
  · rw [if_neg fits]
    cases making with
    | createAppSrc =>
      have long : ¬ (srcName s.appSrcCount).length < 10 := fun short => fits (List.forall_mem_singleton.mpr short)
      dsimp only
      rw [if_neg long]
    | make element => exact absurd (List.forall_mem_singleton.mpr trivial) fits
    | newRtpH264Encoder =>
      dsimp only
      rw [rtpH264Encoder_eq build s.rtpvp9DecodersCount s.appSrcCount, if_neg fits]
    | addRtpVp9Deocoders =>
      dsimp only
      rw [rtpVp9Decoder_eq build s.rtpvp9DecodersCount s.appSrcCount, if_neg fits]

/-- A run names the whole roster, in its order, or ends with the process. -/
theorem run_eq (build : Build) (s : Naming) (makings : List Making) :
    (Run.run (Naming.execute build) s makings).map Naming.made =
      if ∀ e ∈ roster s.rtpvp9DecodersCount s.appSrcCount makings, e.Fits then
        some (s.made ++ (roster s.rtpvp9DecodersCount s.appSrcCount makings).map Element.text)
      else none := by
  induction makings generalizing s with
  | nil => simp [Run.run, roster]
  | cons making rest ih =>
    rw [Run.run, execute_eq]
    by_cases fits : ∀ e ∈ making.elements s.rtpvp9DecodersCount s.appSrcCount, e.Fits
    · rw [if_pos fits, Option.bind_some, ih, if_congr (fits_cons.trans (and_iff_right fits)) rfl rfl]
      simp only [roster, List.map_append, List.append_assoc]
    · rw [if_neg fits, if_neg fun all => fits (fits_cons.mp all).1]
      rfl

/-! ### No name twice -/

def Making.counted : Making → Bool
  | .createAppSrc | .addRtpVp9Deocoders => true
  | .make _ | .newRtpH264Encoder => false

/-- Only what takes its names from a counter is made again. -/
def Once (makings : List Making) : Prop := makings.Pairwise fun first later => first = later → first.counted = true

/-- What the place of an element in the roster says of it. -/
def Accounted (i j : Nat) (makings : List Making) : Element → Prop
  | .literal element => .make element ∈ makings
  | .appsrc k => j ≤ k
  | .encoder _ => .newRtpH264Encoder ∈ makings
  | .decoder k _ => i ≤ k

theorem accounted_elements {i j : Nat} {making : Making} {rest : List Making} {e : Element}
    (here : e ∈ making.elements i j) : Accounted i j (making :: rest) e := by
  cases making with
  | createAppSrc =>
    rw [List.mem_singleton.mp here]
    exact Nat.le_refl j
  | make element =>
    rw [List.mem_singleton.mp here]
    exact List.mem_cons_self
  | newRtpH264Encoder =>
    obtain ⟨part, _, rfl⟩ := List.mem_map.mp here
    exact List.mem_cons_self
  | addRtpVp9Deocoders =>
    obtain ⟨part, _, rfl⟩ := List.mem_map.mp here
    exact Nat.le_refl i

theorem accounted_roster {i j : Nat} {makings : List Making} {e : Element} (here : e ∈ roster i j makings) :
    Accounted i j makings e := by
  induction makings generalizing i j with
  | nil => cases here
  | cons making rest ih =>
    rcases List.mem_append.mp here with here | here
    · exact accounted_elements here
    · have accounted := ih here
      cases e with
      | literal element => exact List.mem_cons_of_mem making accounted
      | appsrc k => exact (Nat.le_add_right j making.sources).trans accounted
      | encoder part => exact List.mem_cons_of_mem making accounted
      | decoder k part => exact (Nat.le_add_right i making.decoders).trans accounted

theorem not_made_again {i j : Nat} {making : Making} {rest : List Making} {e : Element}
    (once : ∀ later ∈ rest, making = later → making.counted = true) (here : e ∈ making.elements i j) :
    e ∉ roster (i + making.decoders) (j + making.sources) rest := by
  intro again
  have accounted := accounted_roster again
  cases making with
  | createAppSrc =>
    obtain rfl := List.mem_singleton.mp here
    exact Nat.not_succ_le_self j accounted
  | make element =>
    obtain rfl := List.mem_singleton.mp here
    cases once _ accounted rfl
  | newRtpH264Encoder =>
    obtain ⟨part, _, rfl⟩ := List.mem_map.mp here
    cases once _ accounted rfl
  | addRtpVp9Deocoders =>
    obtain ⟨part, _, rfl⟩ := List.mem_map.mp here
    exact Nat.not_succ_le_self i accounted

theorem nodup_elements (i j : Nat) (making : Making) : (making.elements i j).Nodup := by
  cases making with
  | createAppSrc => exact List.nodup_singleton _
  | make element => exact List.nodup_singleton _
  | newRtpH264Encoder => exact List.Nodup.map (fun p q same => Element.encoder.inj same) (by decide)
  | addRtpVp9Deocoders => exact List.Nodup.map (fun p q same => (Element.decoder.inj same).2) (by decide)

theorem nodup_roster {makings : List Making} (once : Once makings) (i j : Nat) : (roster i j makings).Nodup := by
  induction makings generalizing i j with
  | nil => exact List.nodup_nil
  | cons making rest ih =>
    obtain ⟨first, later⟩ := List.pairwise_cons.mp once
    refine List.nodup_append.mpr ⟨nodup_elements i j making, ih later _ _, ?_⟩
    rintro e here _ again rfl
    exact not_made_again first here again

/-- In any order of the statements and from any counters. -/
theorem run_nodup {build : Build} {i j : Nat} {makings : List Making} {s : Naming} (once : Once makings)
    (ran : Run.run (Naming.execute build) { appSrcCount := j, rtpvp9DecodersCount := i } makings = some s) :
    s.made.Nodup := by
  have named := run_eq build { appSrcCount := j, rtpvp9DecodersCount := i } makings
  rw [ran] at named
  split at named
  · rw [Option.some.inj named]
    exact (nodup_roster once i j).map text_injective
  · cases named

theorem once_entrypointMakings (sources decoders : Nat) : Once (entrypointMakings sources decoders) := by
  unfold Once entrypointMakings
  refine List.pairwise_append.mpr ⟨List.pairwise_append.mpr ⟨?_, by decide, ?_⟩, ?_, ?_⟩
  · exact List.pairwise_replicate.mpr (.inr fun _ => rfl)
  · intro making here later _ _
    rw [List.eq_of_mem_replicate here]
    rfl
  · exact List.pairwise_replicate.mpr (.inr fun _ => rfl)
  · intro making here later again same
    rw [same, List.eq_of_mem_replicate again]
    rfl

/-- The elements of a pipeline with so many sources and decoders, in the order of `entrypoint`. -/
def entrypointElements (sources decoders : Nat) : List Element :=
  (List.range sources).map Element.appsrc ++
  ([Element.literal .comp, Element.literal .udpsink1, Element.literal .udpsink2] ++
    H264Part.all.map Element.encoder ++
    (List.range decoders).flatMap fun i => Vp9Part.all.map (Element.decoder i))

theorem roster_sources (i j n : Nat) (rest : List Making) :
    roster i j (List.replicate n Making.createAppSrc ++ rest) =
      (List.range' j n).map Element.appsrc ++ roster i (j + n) rest := by
  induction n generalizing j with
  | zero => rfl
  | succ n ih =>
    have later := ih (j + 1)
    rw [Nat.add_assoc, Nat.add_comm 1 n] at later
    rw [List.replicate_succ, List.range'_succ, List.cons_append, List.map_cons, List.cons_append, ← later]
    rfl

theorem roster_decoders (i j n : Nat) :
    roster i j (List.replicate n Making.addRtpVp9Deocoders) =
      (List.range' i n).flatMap fun k => Vp9Part.all.map (Element.decoder k) := by
  induction n generalizing i with
  | zero => rfl
  | succ n ih =>
    rw [List.replicate_succ, List.range'_succ, List.flatMap_cons, ← ih (i + 1)]
    rfl

theorem roster_entrypoint (sources decoders : Nat) :
    roster 0 0 (entrypointMakings sources decoders) = entrypointElements sources decoders := by
  rw [entrypointMakings, List.append_assoc, roster_sources, entrypointElements, List.range_eq_range',
    List.range_eq_range', ← roster_decoders 0 (0 + sources) decoders]
  rfl

theorem appsrc_fits (j : Nat) : (Element.appsrc j).Fits ↔ j < 10 ^ 5 := by
  have short := srcName_length j
  unfold srcNameFits at short
  rw [Bool.and_eq_true, decide_eq_true_iff, decide_eq_true_iff] at short
  rw [Element.Fits, short]
  omega

theorem decoder_fits (i : Nat) (part : Vp9Part) :
    (Element.decoder i part).Fits ↔ i.repr.length + part.elementName.length < 85 := by
  have prefixed : (joined (decoderName i) part.elementName).length =
      14 + i.repr.length + 1 + part.elementName.length := by
    unfold joined decoderName
    simp only [String.length_append, Nat.toString_eq_repr]
    rfl
  rw [Element.Fits, prefixed]
  omega

/-- The longest name of a decoder decides. -/
theorem decoders_fit (i : Nat) : (∀ e ∈ Vp9Part.all.map (Element.decoder i), e.Fits) ↔ i < 10 ^ 72 := by
  rw [← Nat.length_repr_le_iff (by decide), List.forall_mem_map]
  constructor
  · intro fits
    have longest : i.repr.length + 12 < 85 := (decoder_fits i .videoconvert).mp (fits _ (by decide))
    omega
  · intro digits part _
    have short : part.elementName.length ≤ 12 := by cases part <;> decide
    rw [decoder_fits]
    omega

theorem entrypointElements_fit (sources decoders : Nat) :
    (∀ e ∈ entrypointElements sources decoders, e.Fits) ↔ sources ≤ 10 ^ 5 ∧ decoders ≤ 10 ^ 72 := by
  have first : (∀ e ∈ (List.range sources).map Element.appsrc, e.Fits) ↔ sources ≤ 10 ^ 5 := by
    simp only [List.forall_mem_map, List.mem_range, appsrc_fits]
    exact forall_lt_iff_le
  have others : ∀ e ∈ [Element.literal .comp, Element.literal .udpsink1, Element.literal .udpsink2] ++
      H264Part.all.map Element.encoder, e.Fits := by decide
  have last : (∀ e ∈ (List.range decoders).flatMap fun i => Vp9Part.all.map (Element.decoder i), e.Fits) ↔
      decoders ≤ 10 ^ 72 := by
    simp only [List.forall_mem_flatMap, List.mem_range, decoders_fit]
    exact forall_lt_iff_le
  rw [entrypointElements, List.forall_mem_append, List.forall_mem_append, and_iff_right others, first, last]

theorem entrypointNames_made {build : Build} {sources decoders : Nat} {s : Naming}
    (ran : entrypointNames build sources decoders = some s) :
    s.made = (entrypointElements sources decoders).map Element.text := by
  have named := run_eq build {} (entrypointMakings sources decoders)
  rw [← entrypointNames, ran, roster_entrypoint] at named
  split at named
  · exact Option.some.inj named
  · cases named

/-- How many sources and decoders the process survives. -/
theorem entrypointNames_survives (build : Build) (sources decoders : Nat) :
    (∃ s, entrypointNames build sources decoders = some s) ↔ sources ≤ 10 ^ 5 ∧ decoders ≤ 10 ^ 72 := by
  have named := run_eq build {} (entrypointMakings sources decoders)
  rw [← entrypointNames, roster_entrypoint] at named
  rw [← entrypointElements_fit, ← Option.isSome_iff_exists, ← Option.isSome_map, named]
  split
  · rename_i fit
    exact iff_of_true rfl fit
  · rename_i long
    exact iff_of_false (fun alive => by cases alive) long

def makingOf : Op → Option Making
  | .createAppSrc _ => some .createAppSrc
  | .make _ name => ([Literal.comp, .udpsink1, .udpsink2].find? (·.text = name)).map .make
  | .addDecoder _ => some .addRtpVp9Deocoders
  | _ => none

/-- The statements of `entrypoint` make the same; the constructor of the encoder is not one of them. -/
theorem makings_entrypoint :
    (entrypoint .video).filterMap makingOf = (entrypointMakings 4 4).filter (· ≠ .newRtpH264Encoder) := by
  decide

/-- The names of distinct elements are distinct, for any number of sources and decoders, and from
length 1 on `buildName` cuts no name that holds no terminator. -/
theorem names_distinct (build : Build) :
    Function.Injective Element.text ∧
      (∀ sources decoders s, entrypointNames build sources decoders = some s →
        s.made = (entrypointElements sources decoders).map Element.text ∧ s.made.Nodup) ∧
      ∀ parentName elementName length, 1 ≤ length → '\x00' ∉ parentName.toList → '\x00' ∉ elementName.toList →
        Intact build parentName elementName length := by
  refine ⟨text_injective, fun sources decoders s ran => ⟨entrypointNames_made ran, ?_⟩, ?_⟩
  · exact run_nodup (once_entrypointMakings sources decoders) ran
  · intro parentName elementName length positive parent element
    exact buildName_intact build positive parent element

theorem names_distinct_at_four :
    (∃ s, entrypointNames .x64 4 4 = some s ∧ s.made.Nodup) ∧ Intact .x64 "rtph264enc" "queue" 100 := by
  obtain ⟨_, named, intact⟩ := names_distinct .x64
  obtain ⟨s, ran⟩ := (entrypointNames_survives .x64 4 4).mpr (by decide)
  exact ⟨⟨s, ran, (named 4 4 s ran).2⟩, intact "rtph264enc" "queue" 100 (by decide) (by decide) (by decide)⟩

/-- A terminator inside the parent's name ends the element's name. -/
theorem cut_at_terminator :
    buildName .x64 "rtp\x00enc" "queue" 100 = .ok ['r', 't', 'p', '\x00'] ∧
      ¬ Intact .x64 "rtp\x00enc" "queue" 100 := by
  have cut : buildName .x64 "rtp\x00enc" "queue" 100 = .ok ['r', 't', 'p', '\x00'] := by rfl
  refine ⟨cut, ?_⟩
  rintro (exits | ⟨whole, _⟩)
  · rw [cut] at exits
    cases exits
  · rw [cut] at whole
    exact absurd (Except.ok.inj whole) (by decide)

end GstGateway.Pipeline
