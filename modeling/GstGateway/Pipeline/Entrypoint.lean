import GstGateway.Receiver.Winsock

/-! `entrypoint` of the two compositors as the list of its statements. Statements on pads, caps
and bus references that no other thread sees are left out. What a failed GStreamer call leads
to stands with the call. -/

namespace GstGateway

structure RtpProcessor where
  targetAddress : String
  targetPort : Int
  deriving DecidableEq, Repr

inductive Arg where
  | targetAddress
  | targetPort
  | int (n : Int)
  | bool (b : Bool)
  deriving DecidableEq, Repr

inductive Value where
  | text (s : String)
  | int (n : Int)
  | bool (b : Bool)
  deriving DecidableEq, Repr

def Arg.eval (p : RtpProcessor) : Arg → Value
  | .targetAddress => .text p.targetAddress
  | .targetPort => .int p.targetPort
  | .int n => .int n
  | .bool b => .bool b

inductive OnFailure where
  /-- `exit(1)`. -/
  | exitProcess
  /-- `gst_object_unref(pipeline); return -1`. -/
  | giveUp
  /-- `gst_object_unref(pipeline); return` from a `void` helper; its caller goes on. -/
  | leaveHelper
  /-- A message and nothing else. -/
  | report
  deriving DecidableEq, Repr

inductive Op where
  | gstInit
  | pipelineNew
  | make (factory name : String)
  | set (element property : String) (value : Arg)
  | binAdd (elements : List String)
  | createAppSrc (check : Option OnFailure)
  | addDecoder (check : OnFailure)
  | link (src dst : String) (check : OnFailure)
  | watchBus
  | setPlaying
  | storeFlag (b : Bool)
  | loopNew
  | loopRun
  | loopUnref
  | setNull
  | pipelineUnref
  deriving DecidableEq, Repr

def width360p : Int := 640
def height360p : Int := 360

def h264AddToPipeline : List Op :=
  [.binAdd ["rtph264enc_videoconvert", "rtph264enc_queue", "rtph264enc_x264enc",
     "rtph264enc_rtph264pay", "rtph264enc_rtpbin"],
   .link "rtph264enc_videoconvert" "rtph264enc_x264enc" .exitProcess,
   .link "rtph264enc_x264enc" "rtph264enc_rtph264pay" .exitProcess,
   .link "rtph264enc_rtph264pay" "rtph264enc_rtpbin" .exitProcess]

/-- `mainLoop()`, between the store of `true` and the release of the pipeline. -/
def runAndRelease : List Op :=
  [.watchBus, .setPlaying, .storeFlag true, .loopNew, .loopRun, .loopUnref, .setNull, .pipelineUnref,
   .storeFlag false]

namespace MultipleRtpVp8Compositor

def linkSources : List Op :=
  [.link "src_0" "rtpvp9decoder_0_queue" .giveUp, .link "src_1" "rtpvp9decoder_1_queue" .giveUp,
   .link "src_2" "rtpvp9decoder_2_queue" .giveUp, .link "src_3" "rtpvp9decoder_3_queue" .giveUp]

def linkTiles : List Op :=
  [.set "comp_sink0" "width" (.int width360p), .set "comp_sink0" "height" (.int height360p),
   .link "rtpvp9decoder_0_videoconvert" "comp_sink0" .giveUp,
   .set "comp_sink1" "xpos" (.int width360p), .set "comp_sink1" "width" (.int width360p),
   .set "comp_sink1" "height" (.int height360p),
   .link "rtpvp9decoder_1_videoconvert" "comp_sink1" .giveUp,
   .set "comp_sink2" "ypos" (.int height360p), .set "comp_sink2" "width" (.int width360p),
   .set "comp_sink2" "height" (.int height360p),
   .link "rtpvp9decoder_2_videoconvert" "comp_sink2" .giveUp,
   .set "comp_sink3" "xpos" (.int width360p), .set "comp_sink3" "ypos" (.int height360p),
   .set "comp_sink3" "width" (.int width360p), .set "comp_sink3" "height" (.int height360p),
   .link "rtpvp9decoder_3_videoconvert" "comp_sink3" .giveUp]

/-- `entrypoint`, with `codecName` equal to `vp9`. -/
def entrypoint : List Op :=
  [.gstInit, .createAppSrc none, .createAppSrc none, .createAppSrc none, .createAppSrc none,
   .make "compositor" "comp", .make "udpsink" "udpsink1", .make "udpsink" "udpsink2", .pipelineNew,
   .set "udpsink1" "host" .targetAddress, .set "udpsink1" "port" .targetPort,
   .set "udpsink1" "async" (.bool false), .set "udpsink1" "sync" (.bool false),
   .set "udpsink1" "buffer-size" (.int 1400), .set "udpsink1" "blocksize" (.int 1400),
   .binAdd ["src_0", "src_1", "src_2", "src_3", "comp", "udpsink1", "udpsink2"]] ++
  h264AddToPipeline ++
  [.addDecoder .exitProcess, .addDecoder .exitProcess, .addDecoder .exitProcess,
   .addDecoder .exitProcess] ++
  linkSources ++ linkTiles ++
  [.link "comp" "rtph264enc_videoconvert" .giveUp, .link "rtph264enc_rtpbin" "udpsink1" .giveUp] ++
  runAndRelease

end MultipleRtpVp8Compositor

namespace MultipleRtpOpusCompositor

/-- One turn of the first loop: `createAppSrc()`, then `addDecoders()`. -/
def addBranch (decoder : String) : List Op :=
  [.createAppSrc (some .leaveHelper),
   .binAdd [decoder ++ "_queue", decoder ++ "_cf", decoder ++ "_rtpopusDepay", decoder ++ "_opusdec"],
   .link (decoder ++ "_queue") (decoder ++ "_rtpopusDepay") .exitProcess,
   .addDecoder .leaveHelper]

def linkBranch (source decoder : String) : List Op :=
  [.link source (decoder ++ "_queue") .giveUp, .link (decoder ++ "_opusdec") "audioMixer" .giveUp]

def entrypoint : List Op :=
  [.gstInit, .pipelineNew, .make "audiomixer" "audioMixer", .make "udpsink" "udpsink1",
   .set "udpsink1" "host" .targetAddress, .set "udpsink1" "port" .targetPort,
   .set "udpsink1" "async" (.bool false), .set "udpsink1" "sync" (.bool false),
   .binAdd ["rtpOpusEncoder_audioconvert", "rtpOpusEncoder_rtpg722pay", "rtpOpusEncoder_avenc_g722",
     "rtpOpusEncoder_rtpbin", "udpsink1"]] ++
  addBranch "rtpopusdecoder_0" ++ addBranch "rtpopusdecoder_1" ++ addBranch "rtpopusdecoder_2" ++
  addBranch "rtpopusdecoder_3" ++
  [.binAdd ["audioMixer"]] ++
  linkBranch "src_0" "rtpopusdecoder_0" ++ linkBranch "src_1" "rtpopusdecoder_1" ++
  linkBranch "src_2" "rtpopusdecoder_2" ++ linkBranch "src_3" "rtpopusdecoder_3" ++
  [.link "audioMixer" "rtpOpusEncoder_audioconvert" .giveUp,
   .link "rtpOpusEncoder_audioconvert" "rtpOpusEncoder_avenc_g722" .giveUp,
   .link "rtpOpusEncoder_avenc_g722" "rtpOpusEncoder_rtpg722pay" .giveUp,
   .link "rtpOpusEncoder_rtpg722pay" "rtpOpusEncoder_rtpbin" .report,
   .link "rtpOpusEncoder_rtpbin" "udpsink1" .giveUp] ++
  runAndRelease

end MultipleRtpOpusCompositor

def entrypoint : Kind → List Op
  | .video => MultipleRtpVp8Compositor.entrypoint
  | .audio => MultipleRtpOpusCompositor.entrypoint

def lastSet (p : RtpProcessor) (element property : String) : List Op → Option Value
  | [] => none
  | .set e q value :: rest =>
    (lastSet p element property rest).or
      (if e = element ∧ q = property then some (value.eval p) else none)
  | _ :: rest => lastSet p element property rest

def udpsinkTarget (kind : Kind) (p : RtpProcessor) : Option Value × Option Value :=
  (lastSet p "udpsink1" "host" (entrypoint kind), lastSet p "udpsink1" "port" (entrypoint kind))

/-- `entrypoint` hands the constructor's fields to the `udpsink` unchanged. -/
theorem udpsinkTarget_fields (kind : Kind) (p : RtpProcessor) :
    udpsinkTarget kind p = (some (.text p.targetAddress), some (.int p.targetPort)) := by
  cases kind <;> rfl

end GstGateway
