import Mathlib.Data.List.Basic

/-! A growing array. Its elements stand in a buffer, and an iterator is a position in the buffer it
was taken in: appending to a full array moves the elements, and every iterator stays behind. Erasing
moves the later elements up in the same buffer, and an iterator stands at what has come to its place. -/

structure Vec (α : Type*) where
  elems : List α
  capacity : Nat
  fits : elems.length ≤ capacity
  /-- Counts the reallocations. -/
  buffer : Nat := 0

namespace Vec

variable {α : Type*}

/-- No element, and no room for one. -/
def empty : Vec α := { elems := [], capacity := 0, fits := Nat.le_refl 0 }

structure Iterator where
  buffer : Nat
  index : Nat
  deriving DecidableEq, Repr

def start (v : Vec α) : Iterator := ⟨v.buffer, 0⟩

/-- The element an iterator stands at: none past the end, and none in a buffer that was given up. -/
def deref (v : Vec α) (it : Iterator) : Option α := if it.buffer = v.buffer then v.elems[it.index]? else none

/-- A new buffer has room for `slack` more elements than it needs. -/
def pushBack (v : Vec α) (x : α) (slack : Nat) : Vec α :=
  if room : v.elems.length < v.capacity then
    { v with elems := v.elems ++ [x], fits := by simpa using Nat.succ_le_of_lt room }
  else
    { elems := v.elems ++ [x]
      capacity := v.elems.length + 1 + slack
      fits := by simp
      buffer := v.buffer + 1 }

def erase (v : Vec α) (it : Iterator) : Vec α :=
  { v with elems := v.elems.eraseIdx it.index, fits := Nat.le_trans (List.length_eraseIdx_le _ _) v.fits }

variable {v : Vec α} {it : Iterator} {x : α} {slack : Nat}

@[simp] theorem pushBack_elems : (v.pushBack x slack).elems = v.elems ++ [x] := by
  unfold pushBack
  split <;> rfl

theorem buffer_le_pushBack : v.buffer ≤ (v.pushBack x slack).buffer := by
  unfold pushBack
  split
  · exact Nat.le_refl _
  · exact Nat.le_succ _

@[simp] theorem erase_elems : (v.erase it).elems = v.elems.eraseIdx it.index := rfl

theorem deref_eq_some : v.deref it = some x ↔ it.buffer = v.buffer ∧ v.elems[it.index]? = some x := by
  unfold deref
  split
  · rename_i current
    exact (and_iff_right current).symm
  · rename_i stale
    exact iff_of_false nofun fun valid => stale valid.1

theorem mem_of_deref (valid : v.deref it = some x) : x ∈ v.elems :=
  List.mem_of_getElem? (deref_eq_some.mp valid).2

end Vec
