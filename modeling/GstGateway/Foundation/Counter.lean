import Mathlib.Data.List.Nodup

/-! A counter that is read at every step and moves on only after some of them, and what is numbered by it. -/

namespace Counter

variable {start : Nat} {moves : List Bool}

/-- What the counter shows at each step; it moves on where the step says so. -/
def shown : Nat → List Bool → List Nat
  | _, [] => []
  | n, moved :: rest => n :: shown (if moved then n + 1 else n) rest

theorem le_shown {n : Nat} (here : n ∈ shown start moves) : start ≤ n := by
  induction moves generalizing start with
  | nil => cases here
  | cons moved rest ih =>
    rcases List.mem_cons.mp here with rfl | later
    · exact Nat.le_refl _
    · have least := ih later
      split at least <;> omega

/-- No number is shown twice exactly if every step but the last moves the counter. -/
theorem nodup_shown : (shown start moves).Nodup ↔ ∀ moved ∈ moves.dropLast, moved = true := by
  induction moves generalizing start with
  | nil => exact iff_of_true List.nodup_nil nofun
  | cons moved rest ih =>
    rw [shown, List.nodup_cons, ih]
    cases rest with
    | nil => exact iff_of_true ⟨List.not_mem_nil, nofun⟩ nofun
    | cons next rest =>
      rw [List.dropLast_cons_cons, List.forall_mem_cons]
      refine and_congr_left fun _ => ?_
      cases moved with
      | false => exact iff_of_false (fun new => new List.mem_cons_self) Bool.false_ne_true
      | true => exact iff_of_true (fun again => Nat.not_succ_le_self _ (le_shown again)) rfl

variable {α : Type*} {f : Nat → List α}

/-- Where each number names a few things of its own, no two share a name exactly if no number is shown twice. -/
theorem nodup_flatMap {ns : List Nat} (own : ∀ i j x, x ∈ f i → x ∈ f j → i = j) (some : ∀ i, f i ≠ [])
    (each : ∀ i, (f i).Nodup) : (ns.flatMap f).Nodup ↔ ns.Nodup := by
  rw [List.nodup_flatMap, and_iff_right fun i _ => each i]
  refine List.Pairwise.iff fun i j => ⟨?_, fun other x here there => other (own i j x here there)⟩
  rintro apart rfl
  obtain ⟨x, here⟩ := List.exists_mem_of_ne_nil _ (some i)
  exact apart here here

end Counter
