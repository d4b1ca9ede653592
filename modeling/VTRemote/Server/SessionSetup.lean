import VTRemote.Server.EncoderSession

/-!
# Setting up a session

`configure` of the VideoToolbox session and what it calls, up to the calls of
the frameworks.  What these answer, and what they send back for the frame that
warms the encoder up, are arguments.
-/

namespace VTRemote

/-- The configuration with what the set-up reads of it besides. -/
structure SetupConfiguration extends ClientConfiguration where
  flags : Int64
  bitrate : Int
  configExtradata : Option (List UInt8)
deriving DecidableEq, Repr

section Init

variable (canonical : String -> String)

/-- `int(key, 0)`. -/
def intOption (options : OptionsDictionary canonical) (key : String) : Int :=
  (parseInt ((options.lookup key).getD "")).getD 0

def SetupConfiguration.init (codec : VideoCodec)
    (request : ConfigureRequest canonical) : SetupConfiguration where
  toClientConfiguration := ClientConfiguration.init canonical codec request
  flags := Int64.ofInt (intOption canonical request.options "flags")
  bitrate := intOption canonical request.options "bitrate"
  configExtradata := request.extradata

end Init

inductive CVPixelFormat where
  | biPlanar8
  | biPlanar10
deriving DecidableEq, Repr

/-- What the frameworks answer.  A sample may come back from the warm-up, with
or without the atom of its format description. -/
structure Frameworks where
  compressionSession : Nat -> Nat -> Except VTRemotedError Unit
  pixelBuffer : Nat -> Nat -> CVPixelFormat -> Bool
  warmupSample : CMTime -> Option (Option (List UInt8))
  formatDescription : Nat -> Nat -> List UInt8 -> Except VTRemotedError Unit
  parameterSets : List UInt8 -> Except VTRemotedError Unit
  decompressionSession : Except VTRemotedError Unit

def called (answer : Except VTRemotedError Unit) : Except Failure Unit :=
  answer.mapError Failure.thrown

def pickCVPixelFormat (pixelFormat : UInt8) : Except Failure CVPixelFormat :=
  if pixelFormat = 1 then .ok .biPlanar8
  else if pixelFormat = 2 then .ok .biPlanar10
  else .error (.thrown (.unsupported ("pix_fmt=" ++ toString pixelFormat)))

/-!
## Atoms
-/

def VideoCodec.atom : VideoCodec -> List UInt8
  | .hevc => [104, 118, 99, 67]
  | .h264 => [97, 118, 99, 67]

def stripAtomHeaderIfPresent (data fourCC : List UInt8) : List UInt8 :=
  if data.length < 8 then data
  else if (data.drop 4).take 4 = fourCC then data.drop 8
  else data

/-- The extradata is a configuration record: it has a length byte to read, and
its version is 1. -/
def VideoCodec.IsRecord (codec : VideoCodec) (extra : List UInt8) : Prop :=
  match codec with
  | .h264 => 6 < extra.length ∧ extra.head? = some 1
  | .hevc => 21 < extra.length ∧ extra.head? = some 1

instance (codec : VideoCodec) (extra : List UInt8) :
    Decidable (codec.IsRecord extra) :=
  match codec with
  | .h264 => inferInstanceAs (Decidable (_ ∧ _))
  | .hevc => inferInstanceAs (Decidable (_ ∧ _))

namespace VideoToolboxCodecSession

/-!
## The encoder
-/

def flagLowDelay : Int64 := (1 : Int64) <<< (19 : Int64)

/-- Rate control for low latency is asked for, and the codec has it. -/
def LowLatency (appleSilicon : Bool) (config : SetupConfiguration) : Prop :=
  config.flags &&& flagLowDelay ≠ 0 ∧
    (config.codec = .h264 ∨ config.codec = .hevc ∧ appleSilicon = true)

instance (appleSilicon : Bool) (config : SetupConfiguration) :
    Decidable (LowLatency appleSilicon config) :=
  inferInstanceAs (Decidable (_ ∧ _))

variable (appleSilicon : Bool) (frameworks : Frameworks)

def setupEncoder (config : SetupConfiguration) :
    Except Failure CVPixelFormat := do
  if config.codec = .h264 ∧ config.pixelFormat ≠ 1 then
    throw (Failure.thrown (.unsupported "h264 requires nv12"))
  else
    let cvPixelFormat ← pickCVPixelFormat config.pixelFormat
    if LowLatency appleSilicon config ∧ config.bitrate ≤ 0 then
      throw (thrownViolation "low_delay requires bitrate")
    else
      let width ← swiftInt32 config.width
      let height ← swiftInt32 config.height
      called (frameworks.compressionSession width height)
      pure cvPixelFormat

/-- What came back of the frame at time zero, `none` if there was none. -/
def warmup (config : SetupConfiguration) (cvPixelFormat : CVPixelFormat) :
    Except Failure (Option (Option (List UInt8))) := do
  if frameworks.pixelBuffer config.width config.height cvPixelFormat then
    let timescale ← swiftInt32 (max 1 config.timebase.den)
    pure (frameworks.warmupSample { value := 0, timescale })
  else pure none

/-!
## The decoder
-/

def makeFormatDescriptionFromAtom (width height : Nat) (atomData : List UInt8) :
    Except Failure Unit := do
  let width ← swiftInt32 width
  let height ← swiftInt32 height
  called (frameworks.formatDescription width height atomData)

/-- Extradata that is no record is searched for parameter sets. -/
def setupDecoder (config : SetupConfiguration) : Except Failure Unit := do
  let _ ← pickCVPixelFormat config.pixelFormat
  let rawExtra := config.configExtradata.getD []
  if rawExtra = [] then throw (thrownViolation "decoder requires extradata")
  else
    let extra := stripAtomHeaderIfPresent rawExtra config.codec.atom
    if config.codec.IsRecord extra then
      makeFormatDescriptionFromAtom frameworks config.width config.height extra
    else called (frameworks.parameterSets extra)
    called frameworks.decompressionSession

/-!
## configure
-/

/-- A new session is configured, and answers the extradata of the encoder. -/
def configure (config : SetupConfiguration) :
    Except Failure (VideoToolboxCodecSession × List UInt8) := do
  match config.mode with
  | .encode =>
      let cvPixelFormat ← setupEncoder appleSilicon frameworks config
      let sample ← warmup frameworks config cvPixelFormat
      let encoderExtradata := sample.join.map fun data =>
        stripAtomHeaderIfPresent data config.codec.atom
      pure
        ({ config := some config.toClientConfiguration
           compressionSession := true
           forceKeyframeNext := sample.isSome },
          encoderExtradata.getD [])
  | .decode =>
      setupDecoder frameworks config
      pure ({ config := some config.toClientConfiguration }, [])

structure CMSampleTimingInfo where
  duration : CMTime
  presentationTimeStamp : CMTime
  decodeTimeStamp : CMTime
deriving DecidableEq, Repr

/-- The times that `handlePacketMessage` gives the sample of a PACKET. -/
def sampleTiming (timebase : Timebase) (ptsTicks dtsTicks durTicks : Int64) :
    Except Failure CMSampleTimingInfo := do
  let duration ← cmTime durTicks timebase
  let presentationTimeStamp ← cmTime ptsTicks timebase
  let decodeTimeStamp ← cmTime dtsTicks timebase
  pure { duration, presentationTimeStamp, decodeTimeStamp }

end VideoToolboxCodecSession
end VTRemote
