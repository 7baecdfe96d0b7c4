import Mathlib.Data.List.Nodup
import Mathlib.Data.List.TakeWhile

/-! Names made of a stem and a decimal number, and parts named after such a name behind a separator.
The stem may hold the separator as well: only of the digits is it known that they do not. -/

namespace Numbered

variable {stem sep p q : String} {c : Char} {i j : Nat}

theorem repr_injective : Function.Injective Nat.repr := by
  intro m n same
  have digits : Nat.toDigits 10 m = Nat.toDigits 10 n := by rw [← Nat.toList_repr, ← Nat.toList_repr, same]
  rw [← Nat.ofDigitChars_ten_toDigits (n := m), digits, Nat.ofDigitChars_ten_toDigits]

theorem notMem_digits (other : c.isDigit = false) (n : Nat) : c ∉ (toString n).toList := by
  intro here
  rw [Nat.toString_eq_repr, Nat.toList_repr] at here
  have digit := Nat.isDigit_of_mem_toDigits (by decide) (by decide) here
  rw [other] at digit
  cases digit

theorem notMem_numbered (other : c.isDigit = false) (absent : c ∉ stem.toList) (n : Nat) :
    c ∉ (stem ++ toString n).toList := by
  rw [String.toList_append]
  exact fun here => (List.mem_append.mp here).elim absent (notMem_digits other n)

/-- Negative numbers as well: no digit is the sign. -/
theorem signed_inj {m n : Int} : stem ++ toString m = stem ++ toString n ↔ m = n := by
  have unsigned : ∀ a b : Nat, a.repr ≠ "-" ++ b.repr := by
    intro a b same
    have sign : '-' ∈ (toString a).toList := by
      rw [Nat.toString_eq_repr, same, String.toList_append]
      exact List.mem_append_left _ (by decide)
    exact notMem_digits (by decide) a sign
  rw [String.append_right_inj, Int.toString_eq_repr, Int.toString_eq_repr, Int.repr_eq_if, Int.repr_eq_if]
  refine ⟨fun same => ?_, fun same => by rw [same]⟩
  split at same <;> split at same
  · have values := repr_injective same
    omega
  · exact absurd same (unsigned _ _)
  · exact absurd same.symm (unsigned _ _)
  · have values := repr_injective ((String.append_right_inj _).mp same)
    omega

/-- What stands before the first `c`. -/
theorem takeWhile_ne {text : List Char} (absent : c ∉ text) (rest : List Char) :
    (text ++ c :: rest).takeWhile (· ≠ c) = text := by
  have before : ∀ d ∈ text, decide (d ≠ c) = true := fun d here =>
    decide_eq_true (ne_of_mem_of_not_mem here absent)
  rw [List.takeWhile_append_of_pos before]
  simp

/-- The number ends at the first separator behind the stem. -/
theorem part_inj (one : sep.toList = [c]) (other : c.isDigit = false) :
    stem ++ toString i ++ sep ++ p = stem ++ toString j ++ sep ++ q ↔ i = j ∧ p = q := by
  constructor
  · intro same
    have texts := String.toList_inj.mpr same
    simp only [String.toList_append, one, List.append_assoc, List.singleton_append] at texts
    have behind := List.append_cancel_left texts
    have numbers := congrArg (List.takeWhile (· ≠ c)) behind
    rw [takeWhile_ne (notMem_digits other i), takeWhile_ne (notMem_digits other j), String.toList_inj] at numbers
    obtain rfl := repr_injective numbers
    exact ⟨rfl, (String.append_right_inj _).mp same⟩
  · rintro ⟨rfl, rfl⟩
    rfl

/-! ### Schemes of names -/

/-- The ways to name a thing. -/
inductive Way where
  | own
  | counted
  | part
  | partOf
  deriving DecidableEq

/-- Things with names of their own, things that a counter numbers, the parts of one thing and the parts of
numbered things. -/
inductive Named (Own Part PartOf : Type*) where
  | own (x : Own)
  | counted (n : Int)
  | part (p : Part)
  | partOf (i : Nat) (q : PartOf)

variable {Own Part PartOf : Type*}

def Named.way : Named Own Part PartOf → Way
  | .own _ => .own
  | .counted _ => .counted
  | .part _ => .part
  | .partOf _ _ => .partOf

/-- What the names are made of: the own names, the stem of what is counted, the name of the one thing that has parts
and the stem of the numbered things that have, and the names of the parts behind a separator. -/
structure Scheme (Own Part PartOf : Type*) where
  own : Own → String
  counted : String
  whole : String
  part : Part → String
  wholes : String
  partOf : PartOf → String
  sep : Char
  /-- The place in a name that tells its way, and how it is told. -/
  place : Nat
  told : Option Char → Way

namespace Scheme

variable {scheme : Scheme Own Part PartOf}

def text (scheme : Scheme Own Part PartOf) : Named Own Part PartOf → String
  | .own x => scheme.own x
  | .counted n => scheme.counted ++ toString n
  | .part p => scheme.whole ++ scheme.sep.toString ++ scheme.part p
  | .partOf i q => scheme.wholes ++ toString i ++ scheme.sep.toString ++ scheme.partOf q

def tell (scheme : Scheme Own Part PartOf) (name : String) : Way := scheme.told name.toList[scheme.place]?

/-- The stem reaches the place and tells the way there. -/
def Tells (scheme : Scheme Own Part PartOf) (stem : String) (way : Way) : Prop :=
  scheme.place < stem.toList.length ∧ scheme.tell stem = way

instance (stem : String) (way : Way) : Decidable (scheme.Tells stem way) :=
  inferInstanceAs (Decidable (_ ∧ _))

theorem tell_append {way : Way} (tells : scheme.Tells stem way) (rest : String) :
    scheme.tell (stem ++ rest) = way := by
  rw [← tells.2, tell, String.toList_append, List.getElem?_append_left tells.1, tell]

/-- Names given in one way differ, and a name tells its way. -/
structure Apart (scheme : Scheme Own Part PartOf) : Prop where
  own : Function.Injective scheme.own
  part : Function.Injective scheme.part
  partOf : Function.Injective scheme.partOf
  sep : scheme.sep.isDigit = false
  owns : ∀ x, scheme.tell (scheme.own x) = .own
  counts : scheme.Tells scheme.counted .counted
  whole : scheme.Tells scheme.whole .part
  wholes : scheme.Tells scheme.wholes .partOf

theorem tell_text (apart : scheme.Apart) (e : Named Own Part PartOf) : scheme.tell (scheme.text e) = e.way := by
  cases e with
  | own x => exact apart.owns x
  | counted n => exact tell_append apart.counts _
  | part p =>
    rw [text, String.append_assoc]
    exact tell_append apart.whole _
  | partOf i q =>
    rw [text, String.append_assoc, String.append_assoc]
    exact tell_append apart.wholes _

/-- Distinct things have distinct names, whatever their numbers. -/
theorem text_injective (apart : scheme.Apart) : Function.Injective scheme.text := by
  intro e f same
  have ways : e.way = f.way := by rw [← tell_text apart, ← tell_text apart, same]
  cases e with
  | own x =>
    cases f with
    | own y => rw [apart.own same]
    | _ => cases ways
  | counted n =>
    cases f with
    | counted m => rw [signed_inj.mp same]
    | _ => cases ways
  | part p =>
    cases f with
    | part q => rw [apart.part ((String.append_right_inj _).mp same)]
    | _ => cases ways
  | partOf i p =>
    cases f with
    | partOf j q =>
      obtain ⟨rfl, parts⟩ := (part_inj (by rw [Char.toString_eq_singleton, String.toList_singleton]) apart.sep).mp same
      rw [apart.partOf parts]
    | _ => cases ways

theorem names_injective {α : Type*} {name : α → String} {named : α → Named Own Part PartOf} (apart : scheme.Apart)
    (distinct : Function.Injective named) (names : ∀ x, name x = scheme.text (named x)) : Function.Injective name := by
  intro x y same
  rw [names, names] at same
  exact distinct (text_injective apart same)

end Scheme

/-- Names listed for every thing, none of them twice. -/
theorem injective_listed {α β : Type*} {f : α → β} (all : List α) (complete : ∀ x, x ∈ all)
    (distinct : (all.map f).Nodup) : Function.Injective f :=
  fun x y same => List.inj_on_of_nodup_map distinct (complete x) (complete y) same

end Numbered
