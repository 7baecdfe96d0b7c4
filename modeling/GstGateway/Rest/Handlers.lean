import GstGateway.Registry.World
import GstGateway.Rest.Query

/-! `handleGet` and `handleDel`, one request at a time. -/

namespace GstGateway

inductive Json where
  | text (s : String)
  | number (n : Nat)
  deriving DecidableEq, Repr

abbrev Answer := List (String × Json)

def errorAnswer (message : String) : Answer := [("result", .text "error"), ("message", .text message)]

def successAnswer (videoPort audioPort : Nat) : Answer :=
  [("result", .text "success"), ("MediaProcessorVideoPort", .number videoPort),
   ("MediaProcessorAudioPort", .number audioPort)]

def Answer.isSuccess (answer : Answer) : Bool := answer.lookup "result" == some (.text "success")

/-- How a handler that ended left: by returning, or by an exception. -/
inductive Exit where
  | returned
  | threw (error : StoiError)
  deriving DecidableEq, Repr

structure Handled where
  world : World
  replies : List Answer
  exit : Exit := .returned

def Handled.Succeeded (h : Handled) : Prop := ∃ answer ∈ h.replies, answer.isSuccess = true

def srcPortOf (r : Option UdpReceiver) : Nat := (r.map UdpReceiver.srcPort).getD 0

section
variable (codePage : String → String)

/-- `handleGet` from `addNewTask` on. The rollback looks the task up by its name. -/
def createTask (p : GetParams) (answers : Nat → Attempt) (w : World) (fuel : Nat) : Option Handled :=
  let added := w.addNewTask (WString2String codePage p.conferenceName)
    (WString2String codePage p.sipAdaptorIP) p.sipAdaptorAudioPort p.sipAdaptorVideoPort
  let task := added.1
  let ready := added.2.init task answers
  if ready.1 ≠ 0 then
    (ready.2.removeTask (ready.2.nameOf task) fuel).map fun w =>
      { world := w, replies := [errorAnswer "Cannot find available port to receive A/V !!!"] }
  else
    let w := ready.2.start task
    some { world := w
           replies := [successAnswer (srcPortOf (w.heap task).rtpVideoReceiver)
             (srcPortOf (w.heap task).rtpAudioReceiver)] }

/-- `handleGet(request)`; `answers` are the system's answers to the port searches. -/
def handleGet (query : Query) (answers : Nat → Attempt) (w : World) (fuel : Nat) : Option Handled :=
  match readGet query with
  | .error (.missing message) => some { world := w, replies := [errorAnswer message] }
  | .error (.threw error) => some { world := w, replies := [], exit := .threw error }
  | .ok p => createTask codePage p answers w fuel

/-- `handleDel(request)`. After the removal nothing is replied. -/
def handleDel (query : Query) (w : World) (fuel : Nat) : Option Handled :=
  match query.lookup conferenceNameStr with
  | none => some { world := w, replies := [errorAnswer "no conferenceNameStr in queryParameters"] }
  | some conferenceName =>
    (w.removeTask (WString2String codePage conferenceName) fuel).map fun w =>
      { world := w, replies := [] }

/-! ### What creating a task does -/

/-- Both port searches find a port; the last one of a range is never tried. -/
def Startable (answers : Nat → Attempt) : Prop :=
  Obtainable answers videoSrcPortRangeBegin videoSrcPortRangeEnd ∧
    Obtainable answers audioSrcPortRangeBegin audioSrcPortRangeEnd

def initialised (p : GetParams) (answers : Nat → Attempt) (w : World) : Int × World :=
  (w.addNewTask (WString2String codePage p.conferenceName) (WString2String codePage p.sipAdaptorIP)
    p.sipAdaptorAudioPort p.sipAdaptorVideoPort).2.init w.next answers

variable {codePage} {p : GetParams} {answers : Nat → Attempt} {w : World} {fuel : Nat}

theorem initialised_tasks : (initialised codePage p answers w).2.tasks = w.tasks ++ [w.next] := rfl

theorem initialised_calls : (initialised codePage p answers w).2.calls = w.calls := rfl

theorem init_name (t : MediaProcessTask) (a : Addr) (os : Os) : (t.init a answers os).2.1.name = t.name := by
  unfold MediaProcessTask.init
  dsimp only
  split
  · split <;> rfl
  · rfl

theorem initialised_nameOf (a : Addr) : (initialised codePage p answers w).2.nameOf a =
    if a = w.next then WString2String codePage p.conferenceName else w.nameOf a := by
  simp only [initialised, World.init, World.addNewTask, Memory.nameOf]
  split
  · rename_i same
    subst a
    rw [Function.update_self, init_name, Function.update_self]
  · rename_i other
    rw [Function.update_of_ne other, Function.update_of_ne other]

theorem initialised_returns_zero : (initialised codePage p answers w).1 = 0 ↔ Startable answers :=
  init_returns_zero

theorem initialised_ports (codePage : String → String) (p : GetParams) (w : World)
    (failed : ¬ Startable answers) :
    ∃ r, ((initialised codePage p answers w).2.heap w.next).rtpVideoReceiver = some r ∧
      PortsWithin w.os (initialised codePage p answers w).2.os {r.recvSocket} := by
  have nonzero : (initialised codePage p answers w).1 ≠ 0 := fun zero =>
    failed (initialised_returns_zero.mp zero)
  obtain ⟨r, video, within⟩ := init_ports nonzero
  refine ⟨r, ?_, within⟩
  simpa only [initialised, World.init, Function.update_self] using video

theorem createTask_startable (ok : Startable answers) : createTask codePage p answers w fuel =
    some { world := (initialised codePage p answers w).2.start w.next
           replies := [successAnswer
             (srcPortOf (((initialised codePage p answers w).2.start w.next).heap w.next).rtpVideoReceiver)
             (srcPortOf (((initialised codePage p answers w).2.start w.next).heap w.next).rtpAudioReceiver)] } :=
  if_neg (not_not.mpr (initialised_returns_zero.mpr ok))

theorem createTask_refused (failed : ¬ Startable answers) : createTask codePage p answers w fuel =
    ((initialised codePage p answers w).2.removeTask (WString2String codePage p.conferenceName) fuel).map
      fun w => { world := w, replies := [errorAnswer "Cannot find available port to receive A/V !!!"] } := by
  refine (if_pos fun zero => failed (initialised_returns_zero.mp zero)).trans ?_
  rw [show (w.addNewTask (WString2String codePage p.conferenceName) (WString2String codePage p.sipAdaptorIP)
    p.sipAdaptorAudioPort p.sipAdaptorVideoPort).1 = w.next from rfl]
  change Option.map _ ((initialised codePage p answers w).2.removeTask
    ((initialised codePage p answers w).2.nameOf w.next) fuel) = _
  rw [initialised_nameOf, if_pos rfl]

/-- How `createTask` ends. -/
inductive Created (codePage : String → String) (p : GetParams) (answers : Nat → Attempt) (w : World) (fuel : Nat) :
    Handled → Prop where
  | started (ok : Startable answers) : Created codePage p answers w fuel
      { world := (initialised codePage p answers w).2.start w.next
        replies := [successAnswer
          (srcPortOf (((initialised codePage p answers w).2.start w.next).heap w.next).rtpVideoReceiver)
          (srcPortOf (((initialised codePage p answers w).2.start w.next).heap w.next).rtpAudioReceiver)] }
  | rolledBack (failed : ¬ Startable answers) (w' : World)
      (removed : (initialised codePage p answers w).2.removeTask (WString2String codePage p.conferenceName) fuel =
        some w') : Created codePage p answers w fuel
      { world := w', replies := [errorAnswer "Cannot find available port to receive A/V !!!"] }

theorem createTask_cases {h : Handled} (ended : createTask codePage p answers w fuel = some h) :
    Created codePage p answers w fuel h := by
  by_cases ok : Startable answers
  · rw [createTask_startable ok] at ended
    cases ended
    exact .started ok
  · rw [createTask_refused ok] at ended
    obtain ⟨w', removed, rfl⟩ := Option.map_eq_some_iff.mp ended
    exact .rolledBack ok w' removed

theorem handleDel_cases {query : Query} {wide : String} {h : Handled}
    (named : query.lookup conferenceNameStr = some wide) (ended : handleDel codePage query w fuel = some h) :
    ∃ w', w.removeTask (WString2String codePage wide) fuel = some w' ∧ h = { world := w', replies := [] } := by
  simp only [handleDel, named] at ended
  obtain ⟨w', removed, rfl⟩ := Option.map_eq_some_iff.mp ended
  exact ⟨w', removed, rfl⟩

theorem errorAnswer_not_success (message : String) : (errorAnswer message).isSuccess = false := rfl

theorem successAnswer_isSuccess (videoPort audioPort : Nat) :
    (successAnswer videoPort audioPort).isSuccess = true := rfl

/-- A GET replies success exactly when its parameters are there and both searches can succeed. -/
theorem handleGet_succeeds_iff {query : Query} {h : Handled}
    (ended : handleGet codePage query answers w fuel = some h) :
    h.Succeeded ↔ (∃ p, readGet query = .ok p) ∧ Startable answers := by
  unfold handleGet at ended
  split at ended
  · rename_i message refused
    cases ended
    simp [Handled.Succeeded, errorAnswer_not_success, refused]
  · rename_i error refused
    cases ended
    simp [Handled.Succeeded, refused]
  · rename_i p parsed
    cases createTask_cases ended with
    | started ok => simp [Handled.Succeeded, successAnswer_isSuccess, parsed, ok]
    | rolledBack failed w' removed => simp [Handled.Succeeded, errorAnswer_not_success, failed]

theorem handleGet_parsed {query : Query} (parsed : readGet query = .ok p) :
    handleGet codePage query answers w fuel = createTask codePage p answers w fuel := by
  simp only [handleGet, parsed]

theorem get_succeeds {query : Query} (parsed : readGet query = .ok p) (ok : Startable answers) :
    ∃ h, handleGet codePage query answers w fuel = some h ∧ h.Succeeded := by
  have ended : ∃ h, handleGet codePage query answers w fuel = some h :=
    ⟨_, (handleGet_parsed parsed).trans (createTask_startable ok)⟩
  obtain ⟨h, ended⟩ := ended
  exact ⟨h, ended, (handleGet_succeeds_iff ended).mpr ⟨⟨p, parsed⟩, ok⟩⟩

end
end GstGateway
