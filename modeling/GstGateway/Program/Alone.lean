import GstGateway.Gateway.Bound
import GstGateway.Program.Model

/-! A port search by itself. Where nothing else happens between two attempts, the attempts of a handler add up to
`init()` in one piece. -/

namespace GstGateway.Program

open Gateway (attempt attempt_mine attempt_other)

variable {s t u : State} {i : Nat} {a : Addr} {answers : Nat → Attempt} {kind : Kind} {port : Nat}

/-- Handler `i` leads from `s` to `t` with no step of anything else in between. -/
def Alone (i : Nat) (s t : State) : Prop :=
  ∃ given : List Attempt, Run.run step s (given.map fun answer => .handler i answer) = some t

theorem alone_refl (i : Nat) (s : State) : Alone i s s := ⟨[], rfl⟩

theorem alone_cons {answer : Attempt} (first : step s (.handler i answer) = some t) (rest : Alone i t u) :
    Alone i s u := by
  obtain ⟨given, ran⟩ := rest
  refine ⟨answer :: given, ?_⟩
  rw [List.map_cons, Run.run, first]
  exact ran

theorem alone_trans (first : Alone i s t) (rest : Alone i t u) : Alone i s u := by
  obtain ⟨before, ran⟩ := first
  obtain ⟨after, done⟩ := rest
  refine ⟨before ++ after, ?_⟩
  rw [List.map_append, Run.run_append, ran]
  exact done

/-- Where the handler goes from a search. -/
def Leads (i : Nat) (a : Addr) (u : State) : Kind → Bool → Prop
  | .video, true => u.registry.handlers i = .searching a ∧ u.work i = .search .audio audioSrcPortRangeBegin
  | .audio, true => u.registry.handlers i = .starting a
  | _, false => ∃ name, u.registry.handlers i = .finding name

/-- The handler has made the search of `kind`, with this result. -/
structure Searched (i : Nat) (a : Addr) (kind : Kind) (s u : State) (result : Search) : Prop where
  os : u.gateway.os = result.os
  mine : u.gateway.receiver ⟨a, kind⟩ = result.receiver
  others : ∀ q, q ≠ ⟨a, kind⟩ → u.gateway.receiver q = s.gateway.receiver q
  alive : u.gateway.exited = false
  defined : u.registry.undefined = false
  leads : Leads i a u kind result.found

theorem search_alone (answers : Nat → Attempt) (left : Nat) (now : s.registry.handlers i = .searching a)
    (here : s.work i = .search kind port) (alive : s.gateway.exited = false) (defined : s.registry.undefined = false)
    (idle : (s.gateway.receiver ⟨a, kind⟩).pc = .idle) (range : port + left = lastPort kind) :
    ∃ u, Alone i s u ∧ Searched i a kind s u
      (searchAsking ⟨a, kind⟩ answers (s.gateway.receiver ⟨a, kind⟩) s.gateway.os port left) := by
  induction left generalizing s port with
  | zero =>
    have turned : turn s i (answers port) = some { move := some false } := by
      simp only [turn, now, here, searchTurn, if_neg (show ¬ port < lastPort kind by omega)]
    have moved : Overlap.step s.registry ⟨i, false, 0⟩ =
        some (s.registry.goto i (.finding (s.registry.heap a).name)) := by
      simp [Overlap.step, now, defined]
    refine ⟨_, alone_cons (step_turned alive turned rfl (moved_by moved) defined) (alone_refl i _), rfl, rfl,
      fun _ _ => rfl, alive, defined, ?_⟩
    cases kind <;> exact ⟨(s.registry.heap a).name, by rw [Overlap.goto_handlers, if_pos rfl]⟩
  | succ left ih =>
    have inside : port < lastPort kind := by omega
    have turned : turn s i (answers port) = some (searchTurn s a kind port (answers port)) := by
      simp only [turn, now, here]
    have called := called_by (s := s) (tryInit_possible alive idle port (s.gateway.os.permit answers port))
    have mine := attempt_mine s.gateway ⟨a, kind⟩ port (s.gateway.os.permit answers port)
    have others : ∀ q, q ≠ ⟨a, kind⟩ →
        (attempt s.gateway ⟨a, kind⟩ port (s.gateway.os.permit answers port)).receiver q = s.gateway.receiver q :=
      fun q other => attempt_other s.gateway other port _
    rw [searchAsking]
    unfold searchTurn at turned
    rw [if_pos inside] at turned
    dsimp only at turned
    split
    · rename_i bound
      rw [if_pos (show s.tried ⟨a, kind⟩ port (answers port) = 0 from bound)] at turned
      cases kind with
      | video =>
        refine ⟨_, alone_cons (step_turned alive turned called rfl defined) (alone_refl i _), rfl, mine, others,
          alive, defined, now, ?_⟩
        exact Function.update_self ..
      | audio =>
        have moved : Overlap.step s.registry ⟨i, true, 0⟩ = some (s.registry.goto i (.starting a)) := by
          simp [Overlap.step, now, defined]
        refine ⟨_, alone_cons (step_turned alive turned called (moved_by moved) defined) (alone_refl i _), rfl, mine,
          others, alive, defined, ?_⟩
        exact (Overlap.goto_handlers _ _ _ _).trans (if_pos rfl)
    · rename_i refused
      rw [if_neg (show s.tried ⟨a, kind⟩ port (answers port) ≠ 0 from refused)] at turned
      have first : step s (.handler i (answers port) 0) = some _ := step_turned alive turned called rfl defined
      set after : State :=
        { registry := s.registry
          gateway := attempt s.gateway ⟨a, kind⟩ port (s.gateway.os.permit answers port)
          work := Function.update s.work i (.search kind (port + 1))
          found := s.found ++ []
          granted := s.granted ++ [] }
      have stays : after.registry.handlers i = .searching a := now
      have later : after.work i = .search kind (port + 1) := Function.update_self ..
      have pc : (after.gateway.receiver ⟨a, kind⟩).pc = .idle := by
        rw [mine, Gateway.tryInit_pc]
        exact idle
      obtain ⟨u, alone, searched⟩ := ih stays later alive defined pc (by omega)
      rw [mine] at searched
      exact ⟨u, alone_cons first alone, searched.os, searched.mine,
        fun q other => (searched.others q other).trans (others q other), searched.alive,
        searched.defined, searched.leads⟩

theorem init_code (t : MediaProcessTask) (a : Addr) (answers : Nat → Attempt) (os : Os) :
    (t.init a answers os).1 = 0 ↔
      (videoSearch a answers os).found = true ∧ (audioSearch a answers os).found = true := by
  unfold MediaProcessTask.init
  dsimp only
  split
  · rename_i video
    rw [show (videoSearch a answers os).found = true from video]
    split
    · rename_i audio
      exact iff_of_true rfl ⟨rfl, audio⟩
    · rename_i none
      exact iff_of_false Int.one_ne_zero fun both => none both.2
  · rename_i none
    exact iff_of_false Int.one_ne_zero fun both => none both.1

/-- The system refuses the first two video ports and the first audio port. -/
def choosy (port : Nat) : Attempt :=
  ⟨some port, if port ≤ 50002 ∨ port = 50501 then .refused ⟨wsaeaddrinuse, wsaeaddrinuse_ne⟩ else .bound⟩

end GstGateway.Program
