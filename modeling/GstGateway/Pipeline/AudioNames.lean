import GstGateway.Foundation.Counter
import GstGateway.Pipeline.Names

/-! The names of the elements of the audio pipeline. `createAppSrc` and `addDecoders` return early where a call
fails, and then their counters stay where they are. -/

namespace GstGateway.Pipeline.Audio

inductive Literal where
  | audioMixer
  | udpsink1
  deriving DecidableEq, Repr

def Literal.text : Literal → String
  | .audioMixer => "audioMixer"
  | .udpsink1 => "udpsink1"

inductive G722Part where
  | audioconvert
  | avencG722
  | rtpg722pay
  | rtpbin
  deriving DecidableEq, Repr

def G722Part.elementName : G722Part → String
  | .audioconvert => "audioconvert"
  | .avencG722 => "avenc_g722"
  | .rtpg722pay => "rtpg722pay"
  | .rtpbin => "rtpbin"

/-- In the order of the constructor of the encoder. -/
def G722Part.all : List G722Part := [.audioconvert, .avencG722, .rtpg722pay, .rtpbin]

inductive OpusPart where
  | queue
  | cf
  | rtpopusDepay
  | opusdec
  deriving DecidableEq, Repr

def OpusPart.elementName : OpusPart → String
  | .queue => "queue"
  | .cf => "cf"
  | .rtpopusDepay => "rtpopusDepay"
  | .opusdec => "opusdec"

/-- In the order of the constructor of the decoder. -/
def OpusPart.all : List OpusPart := [.queue, .cf, .rtpopusDepay, .opusdec]

inductive Element where
  | literal (element : Literal)
  | appsrc (j : Int)
  | encoder (part : G722Part)
  | decoder (i : Nat) (part : OpusPart)
  deriving DecidableEq, Repr

def encoderName : String := "rtpOpusEncoder"

def decoderName (i : Nat) : String := "rtpopusdecoder_" ++ toString i

def Element.text : Element → String
  | .literal element => element.text
  | .appsrc j => srcName j
  | .encoder part => joined encoderName part.elementName
  | .decoder i part => joined (decoderName i) part.elementName

def Element.named : Element → Numbered.Named Literal G722Part OpusPart
  | .literal element => .own element
  | .appsrc j => .counted j
  | .encoder part => .part part
  | .decoder i part => .partOf i part

/-- Here, too, the fourth character tells the families apart: `rtpO` from `rtpo`. -/
def scheme : Numbered.Scheme Literal G722Part OpusPart where
  own := Literal.text
  counted := "src_"
  whole := encoderName
  part := G722Part.elementName
  wholes := "rtpopusdecoder_"
  partOf := OpusPart.elementName
  sep := '_'
  place := 3
  told
    | some '_' => .counted
    | some 'O' => .part
    | some 'o' => .partOf
    | _ => .own

theorem scheme_apart : scheme.Apart where
  own := Numbered.injective_listed [.audioMixer, .udpsink1] (by intro e; cases e <;> decide) (by decide)
  part := Numbered.injective_listed G722Part.all (by intro p; cases p <;> decide) (by decide)
  partOf := Numbered.injective_listed OpusPart.all (by intro p; cases p <;> decide) (by decide)
  sep := by decide
  owns := by intro e; cases e <;> decide
  counts := by decide
  whole := by decide
  wholes := by decide

theorem text_named (e : Element) : e.text = scheme.text e.named := by cases e <;> rfl

theorem named_injective : Function.Injective Element.named := by
  intro e f same
  cases e <;> cases f <;> simp_all [Element.named]

theorem text_injective : Function.Injective Element.text :=
  Numbered.Scheme.names_injective scheme_apart named_injective text_named

/-! ### The statements that make them -/

def rtpG722Encoder (build : Build) (name : String) : Except Abort (List String) :=
  makeElements build name (G722Part.all.map G722Part.elementName)

def rtpOpusDecoder (build : Build) (name : String) : Except Abort (List String) :=
  makeElements build name (OpusPart.all.map OpusPart.elementName)

/-- What the checked calls of one turn of the first loop answer. -/
structure Turn where
  /-- `gst_bin_add` of the source. -/
  added : Bool
  /-- `gst_element_link_many` inside the decoder. -/
  linked : Bool
  /-- `gst_pad_link` inside the decoder. -/
  padsLinked : Bool
  deriving DecidableEq, Repr

/-- The counters, without the bound of an `int`, and the names given so far. The stores to `appSrcs` and
`decoders`, of ten entries each, are left out: a turn also goes on where the code writes outside of them, as it does
in four turns whose first number is none of 0 to 6. -/
structure Naming where
  appSrcCount : Int
  decodersCount : Nat := 0
  made : List String := []

/-- `none` where the process ends. -/
def createAppSrc (s : Naming) (added : Bool) : Option Naming :=
  if (srcName s.appSrcCount).length < 10 then
    some { s with
      made := s.made ++ [srcName s.appSrcCount]
      appSrcCount := if added then s.appSrcCount + 1 else s.appSrcCount }
  else none

def addDecoders (build : Build) (s : Naming) (linked padsLinked : Bool) : Option Naming :=
  match rtpOpusDecoder build (decoderName s.decodersCount) with
  | .error _ => none
  | .ok names =>
    if linked then
      some { s with
        made := s.made ++ names
        decodersCount := if padsLinked then s.decodersCount + 1 else s.decodersCount }
    else none

def turn (build : Build) (s : Naming) (t : Turn) : Option Naming :=
  (createAppSrc s t.added).bind fun s => addDecoders build s t.linked t.padsLinked

/-- What `entrypoint` makes, in its order, with any number of turns. The first source is numbered by whatever
is in memory. -/
def entrypointNames (build : Build) (memory : Int) (turns : List Turn) : Option Naming :=
  match rtpG722Encoder build encoderName with
  | .error _ => none
  | .ok names =>
    Run.run (turn build) { appSrcCount := memory, made := ["audioMixer", "udpsink1"] ++ names } turns

/-! ### Who is made -/

def turnElements (j : Int) (i : Nat) : List Element := .appsrc j :: OpusPart.all.map (.decoder i)

/-- What the turns make, from the counters `j` and `i` on. -/
def roster (j : Int) (i : Nat) : List Turn → List Element
  | [] => []
  | t :: rest => turnElements j i ++ roster (if t.added then j + 1 else j) (if t.padsLinked then i + 1 else i) rest

theorem rtpOpusDecoder_eq (build : Build) (i : Nat) : rtpOpusDecoder build (decoderName i) =
    if Fit (decoderName i) (OpusPart.all.map OpusPart.elementName) then
      .ok ((OpusPart.all.map OpusPart.elementName).map (joined (decoderName i)))
    else .error .exit :=
  makeElements_eq build (Numbered.notMem_numbered (by decide) (by decide) i) (by decide)

theorem createAppSrc_made {s u : Naming} {added : Bool} (ran : createAppSrc s added = some u) :
    u.appSrcCount = (if added then s.appSrcCount + 1 else s.appSrcCount) ∧ u.decodersCount = s.decodersCount ∧
      u.made = s.made ++ [srcName s.appSrcCount] := by
  unfold createAppSrc at ran
  split at ran
  · cases ran
    exact ⟨rfl, rfl, rfl⟩
  · cases ran

theorem addDecoders_made {build : Build} {s u : Naming} {linked padsLinked : Bool}
    (ran : addDecoders build s linked padsLinked = some u) :
    u.appSrcCount = s.appSrcCount ∧
      u.decodersCount = (if padsLinked then s.decodersCount + 1 else s.decodersCount) ∧
      u.made = s.made ++ (OpusPart.all.map OpusPart.elementName).map (joined (decoderName s.decodersCount)) := by
  have spec := rtpOpusDecoder_eq build s.decodersCount
  unfold addDecoders at ran
  split at ran
  · cases ran
  · rename_i names named
    split at ran
    · cases ran
      rw [named] at spec
      split at spec
      · exact ⟨rfl, rfl, congrArg (s.made ++ ·) (Except.ok.inj spec)⟩
      · cases spec
    · cases ran

theorem turnElements_text (j : Int) (i : Nat) : (turnElements j i).map Element.text =
    srcName j :: (OpusPart.all.map OpusPart.elementName).map (joined (decoderName i)) := rfl

theorem turn_made {build : Build} {s u : Naming} {t : Turn} (ran : turn build s t = some u) :
    u.appSrcCount = (if t.added then s.appSrcCount + 1 else s.appSrcCount) ∧
      u.decodersCount = (if t.padsLinked then s.decodersCount + 1 else s.decodersCount) ∧
      u.made = s.made ++ (turnElements s.appSrcCount s.decodersCount).map Element.text := by
  obtain ⟨v, created, ran⟩ := Option.bind_eq_some_iff.mp ran
  obtain ⟨sources, same, source⟩ := createAppSrc_made created
  obtain ⟨kept, decoders, parts⟩ := addDecoders_made ran
  rw [same] at decoders parts
  refine ⟨kept.trans sources, decoders, ?_⟩
  rw [parts, source, turnElements_text, List.append_assoc, List.singleton_append]

theorem turns_made {build : Build} {s u : Naming} {turns : List Turn} (ran : Run.run (turn build) s turns = some u) :
    u.made = s.made ++ (roster s.appSrcCount s.decodersCount turns).map Element.text := by
  induction turns generalizing s with
  | nil =>
    cases Option.some.inj ran
    exact (List.append_nil _).symm
  | cons t rest ih =>
    obtain ⟨v, first, later⟩ := Option.bind_eq_some_iff.mp ran
    obtain ⟨sources, decoders, made⟩ := turn_made first
    rw [ih later, made, sources, decoders, roster, List.map_append, List.append_assoc]

/-! ### No name twice -/

def fixedElements : List Element :=
  [Element.literal .audioMixer, Element.literal .udpsink1] ++ G722Part.all.map Element.encoder

theorem entrypointNames_made {build : Build} {memory : Int} {turns : List Turn} {s : Naming}
    (ran : entrypointNames build memory turns = some s) :
    s.made = (fixedElements ++ roster memory 0 turns).map Element.text := by
  simp only [entrypointNames, rtpG722Encoder, makeElements_eq build
    (show '\x00' ∉ encoderName.toList by decide)
    (show ∀ e ∈ G722Part.all.map G722Part.elementName, '\x00' ∉ e.toList by decide)] at ran
  split at ran
  · cases ran
  · rename_i names named
    split at named
    · cases named
      rw [turns_made ran, List.map_append]
      rfl
    · cases named

def allWell : Turn := ⟨true, true, true⟩

/-- The names given for a pipeline of the gateway where every call succeeds and the first source is numbered 0. -/
def givenNames (build : Build) : Kind → Option (List String)
  | .video => (Pipeline.entrypointNames build 4 4).map Pipeline.Naming.made
  | .audio => (entrypointNames build 0 (List.replicate 4 allWell)).map Naming.made

def addedBy : Op → List String
  | .binAdd elements => elements
  | _ => []

/-- What `entrypoint` adds to the pipeline and links the sources to was made under that name. -/
theorem added_made {build : Build} {kind : Kind} {names : List String} (given : givenNames build kind = some names) :
    (entrypoint kind).flatMap addedBy ++ decoderQueues kind ⊆ names := by
  cases kind with
  | video =>
    obtain ⟨s, ran, rfl⟩ := Option.map_eq_some_iff.mp given
    rw [Pipeline.entrypointNames_made ran]
    decide
  | audio =>
    obtain ⟨s, ran, rfl⟩ := Option.map_eq_some_iff.mp given
    rw [entrypointNames_made ran]
    decide

def partsOf (i : Nat) : List Element := OpusPart.all.map (Element.decoder i)

/-- The turns interleave what the two counters number. -/
theorem roster_perm (memory : Int) (n i : Nat) (turns : List Turn) :
    (roster (memory + n) i turns).Perm
      ((Counter.shown n (turns.map Turn.added)).map (fun n : Nat => Element.appsrc (memory + n)) ++
        (Counter.shown i (turns.map Turn.padsLinked)).flatMap partsOf) := by
  induction turns generalizing n i with
  | nil => exact List.Perm.refl _
  | cons t rest ih =>
    have later := ih (if t.added then n + 1 else n) (if t.padsLinked then i + 1 else i)
    have count : memory + ((if t.added then n + 1 else n : Nat) : Int) =
        if t.added then memory + n + 1 else memory + n := by
      split
      · rw [Nat.cast_add, Nat.cast_one, Int.add_assoc]
      · rfl
    rw [count] at later
    refine (List.Perm.cons _ ((List.Perm.append_left (partsOf i) later).trans ?_))
    exact List.perm_append_comm_assoc ..

theorem nodup_sources {memory : Int} {ns : List Nat} :
    (ns.map fun n : Nat => Element.appsrc (memory + n)).Nodup ↔ ns.Nodup :=
  List.nodup_map_iff fun m n same => by
    have counts := Element.appsrc.inj same
    omega

theorem nodup_decoders {ns : List Nat} : (ns.flatMap partsOf).Nodup ↔ ns.Nodup := by
  refine Counter.nodup_flatMap (fun i j e here there => ?_) (fun i => by simp [partsOf, OpusPart.all]) fun i => ?_
  · obtain ⟨_, _, rfl⟩ := List.mem_map.mp here
    obtain ⟨_, _, same⟩ := List.mem_map.mp there
    exact (Element.decoder.inj same).1.symm
  · exact List.Nodup.map (fun p q same => (Element.decoder.inj same).2) (by decide)

theorem nodup_elements (memory : Int) (turns : List Turn) :
    (fixedElements ++ roster memory 0 turns).Nodup ↔
      (Counter.shown 0 (turns.map Turn.added)).Nodup ∧ (Counter.shown 0 (turns.map Turn.padsLinked)).Nodup := by
  have perm := roster_perm memory 0 0 turns
  rw [Nat.cast_zero, Int.add_zero] at perm
  rw [(perm.append_left fixedElements).nodup_iff, List.nodup_append, List.nodup_append, nodup_sources, nodup_decoders,
    and_iff_right (show fixedElements.Nodup by decide)]
  have numbered : ∀ a ∈ (Counter.shown 0 (turns.map Turn.added)).map (fun n : Nat => Element.appsrc (memory + n)),
      ∀ b ∈ (Counter.shown 0 (turns.map Turn.padsLinked)).flatMap partsOf, a ≠ b := by
    rintro a here _ there rfl
    obtain ⟨n, _, rfl⟩ := List.mem_map.mp here
    obtain ⟨i, _, there⟩ := List.mem_flatMap.mp there
    obtain ⟨_, _, same⟩ := List.mem_map.mp there
    cases same
  have fixed : ∀ a ∈ fixedElements, ∀ b ∈ (Counter.shown 0 (turns.map Turn.added)).map
      (fun n : Nat => Element.appsrc (memory + n)) ++
        (Counter.shown 0 (turns.map Turn.padsLinked)).flatMap partsOf, a ≠ b := by
    rintro a here _ there rfl
    rcases List.mem_append.mp there with source | decoder
    · obtain ⟨n, _, rfl⟩ := List.mem_map.mp source
      simp [fixedElements, G722Part.all] at here
    · obtain ⟨i, _, part⟩ := List.mem_flatMap.mp decoder
      obtain ⟨p, _, rfl⟩ := List.mem_map.mp part
      simp [fixedElements, G722Part.all] at here
  rw [and_iff_left fixed, and_iff_left numbered]

/-- No name is given twice exactly if no `createAppSrc` and no `addDecoders` but the last ones return early. This is
about the names alone: what is stored outside of the arrays is not part of `Naming`. -/
theorem audio_names_distinct_iff (build : Build) (memory : Int) (turns : List Turn) (s : Naming)
    (ran : entrypointNames build memory turns = some s) :
    s.made.Nodup ↔ ∀ t ∈ turns.dropLast, t.added = true ∧ t.padsLinked = true := by
  rw [entrypointNames_made ran, List.nodup_map_iff text_injective, nodup_elements, Counter.nodup_shown,
    Counter.nodup_shown, ← List.map_dropLast, ← List.map_dropLast, List.forall_mem_map, List.forall_mem_map]
  exact forall₂_and.symm

/-- The first decoder's pads cannot be linked, and the second decoder is given the names of the first. -/
def padsRefused : List Turn := [⟨true, true, false⟩, allWell, allWell, allWell]

theorem names_given_twice : ∃ s, entrypointNames .x64 0 padsRefused = some s ∧ ¬ s.made.Nodup := by
  obtain ⟨s, ran⟩ : ∃ s, entrypointNames .x64 0 padsRefused = some s := ⟨_, rfl⟩
  refine ⟨s, ran, fun distinct => ?_⟩
  have every := (audio_names_distinct_iff .x64 0 padsRefused s ran).mp distinct
  exact absurd (every _ (List.mem_cons_self ..)).2 Bool.false_ne_true

end GstGateway.Pipeline.Audio
