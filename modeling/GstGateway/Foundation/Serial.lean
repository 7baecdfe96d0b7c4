import Mathlib.Data.List.Induction
import Mathlib.Data.List.Nodup
import Mathlib.Data.List.Perm.Basic

/-! Serial schedules. The actions of an interleaving are told apart by a key, the process that takes them; taken
process by process they are the same actions in another order. -/

namespace Serial

variable {α κ : Type*} [DecidableEq κ] {key : α → κ} {as : List α} {a : α} {k : κ}

/-- The actions of one process, in their order. -/
def own (key : α → κ) (as : List α) (k : κ) : List α := as.filter fun a => key a = k

/-- The processes, in the order of their first actions. -/
def entered (key : α → κ) (as : List α) : List κ := (as.map key).eraseDups

/-- Every process takes all its actions before the next one begins. -/
def oneByOne (key : α → κ) (as : List α) : List α := (entered key as).flatMap (own key as)

theorem mem_own : a ∈ own key as k ↔ a ∈ as ∧ key a = k := by simp [own]

theorem own_snoc (as : List α) (a : α) (k : κ) :
    own key (as ++ [a]) k = if key a = k then own key as k ++ [a] else own key as k := by
  unfold own
  rw [List.filter_append, List.filter_singleton]
  by_cases mine : key a = k <;> simp [mine]

theorem mem_entered : k ∈ entered key as ↔ ∃ a ∈ as, key a = k := by simp [entered]

theorem own_nil (absent : k ∉ entered key as) : own key as k = [] :=
  List.eq_nil_iff_forall_not_mem.mpr fun a member => absent (mem_entered.mpr ⟨a, mem_own.mp member⟩)

theorem entered_snoc (as : List α) (a : α) :
    entered key (as ++ [a]) = if key a ∈ entered key as then entered key as else entered key as ++ [key a] := by
  have seen : key a ∈ entered key as ↔ key a ∈ as.map key := List.mem_eraseDups
  have whole : entered key (as ++ [a]) = entered key as ++ ([key a].removeAll (as.map key)).eraseDups := by
    rw [entered, List.map_append, List.eraseDups_append]
    rfl
  rw [whole, List.removeAll, List.filter_singleton]
  split
  · rename_i old
    rw [List.elem_eq_true_of_mem (seen.mp old)]
    exact List.append_nil _
  · rename_i new
    rw [Bool.eq_false_iff.mpr fun member => new (seen.mpr (List.mem_of_elem_eq_true member))]
    rfl

theorem nodup_entered (key : α → κ) (as : List α) : (entered key as).Nodup := by
  induction as using List.reverseRecOn with
  | nil => exact List.nodup_nil
  | append_singleton as a ih =>
    rw [entered_snoc]
    split
    · exact ih
    · rename_i new
      exact List.nodup_append.mpr ⟨ih, List.nodup_singleton _,
        fun k member j here same => new (List.mem_singleton.mp here ▸ same ▸ member)⟩

theorem flatMap_own_perm {ks : List κ} (nodup : ks.Nodup) :
    (ks.flatMap (own key as)).Perm (as.filter fun a => key a ∈ ks) := by
  induction ks with
  | nil => simp
  | cons k ks ih =>
    obtain ⟨absent, nodup⟩ := List.nodup_cons.mp nodup
    have split := List.filter_append_perm (fun a => decide (key a = k)) (as.filter fun a => key a ∈ k :: ks)
    have mine : (as.filter fun a => key a ∈ k :: ks).filter (fun a => decide (key a = k)) = own key as k := by
      rw [List.filter_filter]
      refine List.filter_congr fun a _ => ?_
      by_cases here : key a = k <;> simp [here]
    have others : (as.filter fun a => key a ∈ k :: ks).filter (fun a => !decide (key a = k)) =
        as.filter fun a => key a ∈ ks := by
      rw [List.filter_filter]
      refine List.filter_congr fun a _ => ?_
      by_cases here : key a = k
      · simp [here, absent]
      · simp [here]
    rw [mine, others] at split
    exact ((ih nodup).append_left _).trans split

theorem oneByOne_perm (key : α → κ) (as : List α) : (oneByOne key as).Perm as := by
  have all : (as.filter fun a => key a ∈ entered key as) = as :=
    List.filter_eq_self.mpr fun a member => decide_eq_true (mem_entered.mpr ⟨a, member, rfl⟩)
  exact (flatMap_own_perm (nodup_entered key as)).trans (List.Perm.of_eq all)

end Serial
