import GstGateway.Rest.Handlers

/-! Where a created conference sends its mixed media: from the request through `addNewTask`,
`init()` and the compositors' constructors to the properties of the two `udpsink`s. -/

namespace GstGateway

def MediaProcessTask.processor (t : MediaProcessTask) : Kind → Option RtpProcessor
  | .video => t.rtpVideoProcessor
  | .audio => t.rtpAudioProcessor

def GetParams.sinkPort (p : GetParams) : Kind → Int
  | .video => p.sipAdaptorVideoPort
  | .audio => p.sipAdaptorAudioPort

/-- Both sides store the requested host and port, and `entrypoint` writes these to its `udpsink`. -/
def SendsAsAsked (codePage : String → String) (p : GetParams) (t : MediaProcessTask) : Prop :=
  ∀ kind, ∃ processor, t.processor kind = some processor ∧
    processor = ⟨WString2String codePage p.sipAdaptorIP, p.sinkPort kind⟩ ∧
    udpsinkTarget kind processor =
      (some (.text (WString2String codePage p.sipAdaptorIP)), some (.int (p.sinkPort kind)))

variable {codePage : String → String} {query : Query} {p : GetParams} {answers : Nat → Attempt}
  {w : World} {fuel : Nat} {h : Handled}

theorem init_processor (t : MediaProcessTask) (a : Addr) (os : Os) (kind : Kind) :
    (t.init a answers os).2.1.processor kind = some
      { targetAddress := t.sinkIP
        targetPort := match kind with
          | .video => t.videoSinkPort
          | .audio => t.audioSinkPort } := by
  unfold MediaProcessTask.init
  dsimp only
  split
  · split <;> cases kind <;> rfl
  · cases kind <;> rfl

theorem created_processor (parsed : readGet query = .ok p)
    (ended : handleGet codePage query answers w fuel = some h) (success : h.Succeeded) (kind : Kind) :
    (h.world.heap w.next).processor kind = some { targetAddress := "", targetPort := p.sinkPort kind } := by
  have ok := ((handleGet_succeeds_iff ended).mp success).2
  rw [handleGet_parsed parsed, createTask_startable ok] at ended
  cases ended
  have started : ∀ t : MediaProcessTask, t.start.processor kind = t.processor kind := by
    intro t
    cases kind <;> rfl
  simp only [World.start, Function.update_self, started]
  simp only [initialised, World.init, World.addNewTask, Function.update_self, init_processor]
  cases kind <;> rfl

/-- A conference created by a successful GET sends to the requested host exactly when that host
is the empty text. -/
theorem sendsAsAsked_iff (parsed : readGet query = .ok p)
    (ended : handleGet codePage query answers w fuel = some h) (success : h.Succeeded) :
    SendsAsAsked codePage p (h.world.heap w.next) ↔ WString2String codePage p.sipAdaptorIP = "" := by
  have created := created_processor parsed ended success
  constructor
  · intro sends
    obtain ⟨processor, stored, asked, _⟩ := sends .video
    have same := Option.some.inj ((created .video).symm.trans stored)
    rw [asked] at same
    exact (congrArg RtpProcessor.targetAddress same).symm
  · intro empty kind
    refine ⟨_, created kind, by rw [empty], ?_⟩
    rw [udpsinkTarget_fields, empty]

def allBound (_port : Nat) : Attempt := { socket := some 1, bind := .bound }

theorem allBound_startable : Startable allBound :=
  ⟨⟨50001, by decide, by decide, rfl, rfl⟩, ⟨50501, by decide, by decide, rfl, rfl⟩⟩

def getA (ip : String) : Query :=
  [("sipAdaptorVideoPort", "5002"), ("sipAdaptorAudioPort", "5000"), ("conferenceName", "a"),
   ("sipAdaptorIP", ip)]

theorem sendsAsAsked_empty_host : ∃ h, handleGet id (getA "") allBound {} 0 = some h ∧ h.Succeeded ∧
    SendsAsAsked id ⟨"a", "", 5002, 5000⟩ (h.world.heap 0) := by
  have parsed : readGet (getA "") = .ok ⟨"a", "", 5002, 5000⟩ := by decide
  obtain ⟨h, ended, success⟩ := get_succeeds parsed allBound_startable
  exact ⟨h, ended, success, (sendsAsAsked_iff parsed ended success).mpr (by decide)⟩

/-- A request to send to 10.0.0.5 is answered with success, and both `udpsink`s get no host. -/
theorem requested_host_lost : ∃ h, handleGet id (getA "10.0.0.5") allBound {} 0 = some h ∧ h.Succeeded ∧
    ¬ SendsAsAsked id ⟨"a", "10.0.0.5", 5002, 5000⟩ (h.world.heap 0) := by
  have parsed : readGet (getA "10.0.0.5") = .ok ⟨"a", "10.0.0.5", 5002, 5000⟩ := by decide
  obtain ⟨h, ended, success⟩ := get_succeeds parsed allBound_startable
  refine ⟨h, ended, success, fun sends => ?_⟩
  obtain ⟨processor, stored, asked, _⟩ := sends .video
  have created := created_processor parsed ended success .video
  rw [created] at stored
  cases stored
  exact absurd (congrArg RtpProcessor.targetAddress asked) (by decide)

end GstGateway
