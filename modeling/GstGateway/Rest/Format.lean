import Mathlib.Data.List.TakeWhile
import GstGateway.Rest.Targets

/-! Which requests a GET accepts. A port is read from the front of its text: blanks, a sign and digits may be
followed by anything that is not a digit, and what `toString` writes is read back. -/

namespace GstGateway

inductive Sign where
  | none
  | plus
  | minus
  deriving DecidableEq, Repr

def Sign.text : Sign → List Char
  | .none => []
  | .plus => ['+']
  | .minus => ['-']

/-- A text that starts with a number. -/
structure Numeral where
  blanks : List Char
  sign : Sign
  digits : List Char
  rest : List Char
  blank : ∀ c ∈ blanks, isSpace c = true
  digit : ∀ c ∈ digits, c.isDigit = true
  written : digits ≠ []
  ends : ∀ c ∈ rest.head?, c.isDigit = false

namespace Numeral

def text (n : Numeral) : List Char := n.blanks ++ (n.sign.text ++ (n.digits ++ n.rest))

def value (n : Numeral) : Int :=
  match n.sign with
  | .minus => -(readDigits n.digits : Int)
  | _ => readDigits n.digits

end Numeral

/-- An `int` can hold the value. -/
def InInt (value : Int) : Prop := -2147483648 ≤ value ∧ value ≤ 2147483647

instance (value : Int) : Decidable (InInt value) := by
  unfold InInt
  infer_instance

theorem digit_bounds {c : Char} (digit : c.isDigit = true) : 48 ≤ c.toNat ∧ c.toNat ≤ 57 := by
  simp only [Char.isDigit, Bool.and_eq_true, decide_eq_true_eq, ge_iff_le, UInt32.le_iff_toNat_le] at digit
  exact digit

theorem digit_notSpace {c : Char} (digit : c.isDigit = true) : isSpace c = false := by
  have bounds := digit_bounds digit
  have other : c ≠ ' ' := by
    rintro rfl
    cases digit
  simp only [isSpace, beq_eq_false_iff_ne.mpr other, Bool.false_or, Bool.and_eq_false_iff, decide_eq_false_iff_not]
  omega

/-- Past a run of characters that satisfy `p`, where the next one does not. -/
theorem run_split {p : Char → Bool} {run rest : List Char} (all : ∀ c ∈ run, p c = true)
    (stops : ∀ c ∈ rest.head?, p c = false) :
    (run ++ rest).takeWhile p = run ∧ (run ++ rest).dropWhile p = rest := by
  have here : rest.takeWhile p = [] ∧ rest.dropWhile p = rest := by
    cases rest with
    | nil => exact ⟨rfl, rfl⟩
    | cons c rest => simp [stops c rfl]
  rw [List.takeWhile_append_of_pos all, List.dropWhile_append_of_pos all, here.1, here.2]
  exact ⟨List.append_nil _, rfl⟩

theorem readSign_text (sign : Sign) {digits : List Char} (written : digits ≠ [])
    (digit : ∀ c ∈ digits, c.isDigit = true) (rest : List Char) :
    readSign (sign.text ++ (digits ++ rest)) = (decide (sign = .minus), digits ++ rest) := by
  cases sign with
  | plus | minus => rfl
  | none =>
    cases digits with
    | nil => exact absurd rfl written
    | cons c digits =>
      have first := digit c (List.mem_cons_self ..)
      simp only [Sign.text, List.nil_append, List.cons_append, readSign]
      split
      · rename_i same
        cases same
        cases first
      · rename_i same
        cases same
        cases first
      · rfl

theorem unspaced (n : Numeral) : ∀ c ∈ (n.sign.text ++ (n.digits ++ n.rest)).head?, isSpace c = false := by
  cases n.sign with
  | plus | minus =>
    rintro c ⟨⟩
    rfl
  | none =>
    intro c first
    rw [Sign.text, List.nil_append, List.head?_append_of_ne_nil _ n.written] at first
    exact digit_notSpace (n.digit c (List.mem_of_mem_head? first))

/-- A text that starts with a number is read as that number. -/
theorem stoi_numeral {text : String} {n : Numeral} (same : text.toList = n.text) :
    stoi text = if InInt n.value then .ok n.value else .error .outOfRange := by
  have past : text.toList.dropWhile isSpace = n.sign.text ++ (n.digits ++ n.rest) := by
    rw [same]
    exact (run_split n.blank (unspaced n)).2
  have value : (if decide (n.sign = .minus) = true then -(readDigits n.digits : Int) else readDigits n.digits) =
      n.value := by
    unfold Numeral.value
    cases n.sign <;> rfl
  simp only [stoi, past, readSign_text n.sign n.written n.digit n.rest, (run_split n.digit n.ends).1,
    if_neg n.written, value]
  by_cases inside : InInt n.value
  · rw [if_pos inside, if_neg]
    unfold InInt at inside
    omega
  · rw [if_neg inside, if_pos]
    unfold InInt at inside
    omega

theorem readSign_split (text : List Char) : ∃ sign : Sign, text = sign.text ++ (readSign text).2 := by
  unfold readSign
  split
  · exact ⟨.minus, rfl⟩
  · exact ⟨.plus, rfl⟩
  · exact ⟨.none, rfl⟩

/-- What `stoi` does not refuse outright starts with a number. -/
theorem numeral_of_stoi {text : String} (taken : stoi text ≠ .error .invalidArgument) :
    ∃ n : Numeral, text.toList = n.text := by
  obtain ⟨sign, split⟩ := readSign_split (text.toList.dropWhile isSpace)
  generalize signed : (readSign (text.toList.dropWhile isSpace)).2 = unsigned at split
  have written : unsigned.takeWhile Char.isDigit ≠ [] := by
    intro none
    refine taken ?_
    simp only [stoi, signed, if_pos none]
  refine ⟨⟨text.toList.takeWhile isSpace, sign, unsigned.takeWhile Char.isDigit, unsigned.dropWhile Char.isDigit,
    fun c member => List.mem_takeWhile_imp member, fun c member => List.mem_takeWhile_imp member, written,
    fun c first => ?_⟩, ?_⟩
  · have stops := List.head?_dropWhile_not Char.isDigit unsigned
    rw [Option.mem_def.mp first] at stops
    simpa using stops
  · rw [Numeral.text, List.takeWhile_append_dropWhile, ← split, List.takeWhile_append_dropWhile]

/-- The text is read as a port of this value. -/
def Denotes (text : String) (value : Int) : Prop :=
  ∃ n : Numeral, text.toList = n.text ∧ n.value = value ∧ InInt value

theorem stoi_ok_iff {text : String} {value : Int} : stoi text = .ok value ↔ Denotes text value := by
  constructor
  · intro ok
    obtain ⟨n, same⟩ := numeral_of_stoi (by rw [ok]; nofun)
    rw [stoi_numeral same] at ok
    split at ok
    · rename_i inside
      cases ok
      exact ⟨n, same, rfl, inside⟩
    · cases ok
  · rintro ⟨n, same, rfl, inside⟩
    rw [stoi_numeral same, if_pos inside]

example : stoi " 42;x" = .ok 42 := by decide

/-! ### A request as a whole -/

structure Asked (query : Query) (p : GetParams) : Prop where
  conferenceName : query.lookup conferenceNameStr = some p.conferenceName
  sipAdaptorIP : query.lookup sipAdaptorIPStr = some p.sipAdaptorIP
  sipAdaptorVideoPort : ∃ text, query.lookup sipAdaptorVideoPortStr = some text ∧ Denotes text p.sipAdaptorVideoPort
  sipAdaptorAudioPort : ∃ text, query.lookup sipAdaptorAudioPortStr = some text ∧ Denotes text p.sipAdaptorAudioPort

/-- No parameter is missing. -/
def Complete (query : Query) : Prop :=
  ∀ key ∈ [sipAdaptorVideoPortStr, sipAdaptorAudioPortStr, conferenceNameStr, sipAdaptorIPStr],
    ∃ value, query.lookup key = some value

theorem require_ok {query : Query} {key message value : String} :
    require query key message = .ok value ↔ query.lookup key = some value := by
  unfold require
  split
  · rename_i none
    simp [none]
  · rename_i found
    simp [found]

theorem toPort_ok {text : String} {value : Int} : toPort text = .ok value ↔ Denotes text value := by
  rw [← stoi_ok_iff, toPort]
  cases stoi text <;> simp [Except.mapError]

theorem bind_ok {α β : Type} {x : Except Refusal α} {f : α → Except Refusal β} {b : β} :
    x >>= f = .ok b ↔ ∃ a, x = .ok a ∧ f a = .ok b := by
  cases x with
  | error refusal => exact iff_of_false nofun nofun
  | ok a =>
    refine ⟨fun ran => ⟨a, rfl, ran⟩, ?_⟩
    rintro ⟨_, ⟨⟩, ran⟩
    exact ran

theorem readGet_ok_iff {query : Query} {p : GetParams} : readGet query = .ok p ↔ Asked query p := by
  simp only [readGet, bind_ok, require_ok, toPort_ok]
  constructor
  · rintro ⟨videoPort, video, audioPort, audio, _, named, _, given, _, videoRead, _, audioRead, ⟨⟩⟩
    exact ⟨named, given, ⟨videoPort, video, videoRead⟩, ⟨audioPort, audio, audioRead⟩⟩
  · rintro ⟨named, given, ⟨videoPort, video, videoRead⟩, ⟨audioPort, audio, audioRead⟩⟩
    exact ⟨videoPort, video, audioPort, audio, _, named, _, given, _, videoRead, _, audioRead, rfl⟩

theorem bind_error {α β : Type} {x : Except Refusal α} {f : α → Except Refusal β} {refusal : Refusal} :
    x >>= f = .error refusal ↔ x = .error refusal ∨ ∃ a, x = .ok a ∧ f a = .error refusal := by
  cases x with
  | error other =>
    have same : (Except.error other >>= f) = Except.error refusal ↔ other = refusal :=
      ⟨fun ran => Except.error.inj ran, fun same => congrArg Except.error same⟩
    simp [same]
  | ok a =>
    refine ⟨fun ran => Or.inr ⟨a, rfl, ran⟩, ?_⟩
    rintro (⟨⟨⟩⟩ | ⟨_, ⟨⟩, ran⟩)
    exact ran

theorem require_error {query : Query} {key message : String} {refusal : Refusal} :
    require query key message = .error refusal ↔ query.lookup key = none ∧ refusal = .missing message := by
  unfold require
  cases query.lookup key with
  | none => simp [eq_comm]
  | some value => simp

theorem toPort_error {text : String} {refusal : Refusal} :
    toPort text = .error refusal ↔ ∃ error, stoi text = .error error ∧ refusal = .threw error := by
  unfold toPort
  cases stoi text with
  | ok value => simp [Except.mapError]
  | error error => simp [Except.mapError, eq_comm]

/-- Only what is missing is answered; an exception comes once nothing is missing. -/
theorem readGet_refused {query : Query} {refusal : Refusal} (refused : readGet query = .error refusal) :
    (∃ error, refusal = .threw error) ↔ Complete query := by
  simp only [readGet, bind_error, require_ok, require_error, toPort_error] at refused
  simp only [Complete, List.forall_mem_cons, List.not_mem_nil, false_imp_iff, implies_true, and_true]
  rcases refused with ⟨none, rfl⟩ | ⟨_, video, ⟨none, rfl⟩ | ⟨_, audio, ⟨none, rfl⟩ | ⟨_, named, ⟨none, rfl⟩ |
    ⟨_, given, rest⟩⟩⟩⟩
  · simp [none]
  · simp [none]
  · simp [none]
  · simp [none]
  · refine iff_of_true ?_ ⟨⟨_, video⟩, ⟨_, audio⟩, ⟨_, named⟩, ⟨_, given⟩⟩
    rcases rest with ⟨error, _, rfl⟩ | ⟨_, _, ⟨error, _, rfl⟩ | ⟨_, _, ⟨⟩⟩⟩
    · exact ⟨error, rfl⟩
    · exact ⟨error, rfl⟩

variable {codePage : String → String} {answers : Nat → Attempt} {w : World} {fuel : Nat} {h : Handled}

/-- A GET replies success exactly if every parameter is given, both ports start with a number that an
`int` can hold, and both port searches find a port. It ends in an exception exactly if every
parameter is given and a port does not. -/
theorem get_by_grammar {query : Query} (ended : handleGet codePage query answers w fuel = some h) :
    (h.Succeeded ↔ (∃ p, Asked query p) ∧ Startable answers) ∧
    ((∃ error, h.exit = .threw error) ↔ Complete query ∧ ¬ ∃ p, Asked query p) := by
  refine ⟨by simp only [handleGet_succeeds_iff ended, readGet_ok_iff], ?_⟩
  simp only [← readGet_ok_iff]
  unfold handleGet at ended
  split at ended
  · rename_i message refused
    cases ended
    have incomplete : ¬ Complete query := fun complete => by
      obtain ⟨_, ⟨⟩⟩ := (readGet_refused refused).mpr complete
    exact iff_of_false nofun fun complete => incomplete complete.1
  · rename_i error refused
    cases ended
    refine iff_of_true ⟨error, rfl⟩ ⟨(readGet_refused refused).mp ⟨error, rfl⟩, ?_⟩
    rintro ⟨p, parsed⟩
    rw [refused] at parsed
    cases parsed
  · rename_i p parsed
    refine iff_of_false ?_ fun refused => refused.2 ⟨p, parsed⟩
    cases createTask_cases ended with
    | started ok => nofun
    | rolledBack failed w' removed => nofun

/-- Sloppy but accepted. -/
def looseQuery : Query :=
  [("conferenceName", "a"), ("sipAdaptorIP", "10.0.0.5"), ("sipAdaptorVideoPort", " +5002;x"),
   ("sipAdaptorAudioPort", "05000")]

theorem loose_query_accepted : ∃ h, handleGet id looseQuery allBound {} 0 = some h ∧ h.Succeeded := by
  have parsed : readGet looseQuery = .ok ⟨"a", "10.0.0.5", 5002, 5000⟩ := by decide
  obtain ⟨h, ended, _⟩ := get_succeeds parsed allBound_startable
  exact ⟨h, ended, (get_by_grammar ended).1.mpr ⟨⟨_, readGet_ok_iff.mp parsed⟩, allBound_startable⟩⟩

/-! ### What a client writes -/

/-- The digits of an integer, as `std::to_string` writes them. -/
def Numeral.ofInt (value : Int) : Numeral where
  blanks := []
  sign := if value < 0 then .minus else .none
  digits := Nat.toDigits 10 value.natAbs
  rest := []
  blank := nofun
  digit := fun _ member => Nat.isDigit_of_mem_toDigits (by decide) (by decide) member
  written := Nat.toDigits_ne_nil
  ends := nofun

theorem ofInt_value (value : Int) : (Numeral.ofInt value).value = value := by
  have digits : readDigits (Nat.toDigits 10 value.natAbs) = value.natAbs := Nat.ofDigitChars_ten_toDigits
  unfold Numeral.value Numeral.ofInt
  dsimp only
  split
  · rename_i negative
    rw [digits]
    split at negative
    · omega
    · cases negative
  · rename_i positive
    rw [digits]
    split at positive
    · exact absurd rfl positive
    · omega

theorem ofInt_text (value : Int) : (toString value).toList = (Numeral.ofInt value).text := by
  rw [Int.toString_eq_repr, Int.repr_eq_if]
  split
  · rename_i nonneg
    have positive : ¬ value < 0 := Int.not_lt.mpr nonneg
    have same : value.toNat = value.natAbs := by omega
    simp [Numeral.text, Numeral.ofInt, positive, Sign.text, Nat.toList_repr, same]
  · rename_i negative
    have below : value < 0 := Int.not_le.mp negative
    have same : (-value).toNat = value.natAbs := by omega
    simp [Numeral.text, Numeral.ofInt, below, Sign.text, Nat.toList_repr, same]

theorem denotes_toString {value : Int} (inside : InInt value) : Denotes (toString value) value :=
  ⟨Numeral.ofInt value, ofInt_text value, ofInt_value value, inside⟩

/-- The query of a client that asks for `p`. -/
def GetParams.encode (p : GetParams) : Query :=
  [(conferenceNameStr, p.conferenceName), (sipAdaptorIPStr, p.sipAdaptorIP),
   (sipAdaptorVideoPortStr, toString p.sipAdaptorVideoPort), (sipAdaptorAudioPortStr, toString p.sipAdaptorAudioPort)]

theorem start_nameOf (w : World) (a : Addr) : (w.start a).nameOf a = w.nameOf a := by
  simp only [World.start, Memory.nameOf, Function.update_self]
  rfl

def asked : GetParams := ⟨"a", "10.0.0.5", 5002, -1⟩

end GstGateway
