import VTRemote.Server.Messages
import VTRemote.Server.StubCodecSession

/-!
# The configuration of a session

What `SessionConfiguration` takes from a CONFIGURE.  The options that only set
properties of the compression session are left out.
-/

namespace VTRemote

/-!
## Swift's integers in text
-/

def digitValue (c : Char) : Option Nat :=
  if '0' ≤ c ∧ c ≤ '9' then some (c.toNat - '0'.toNat) else none

def digitsValue : List Char -> Option Nat
  | [] => none
  | digits => digits.foldlM (fun value c =>
      (digitValue c).map fun digit => value * 10 + digit) 0

/-- `Int(string)`: a sign if there is one, digits, and nothing else. -/
def parseInt (string : String) : Option Int :=
  match string.toList with
  | '-' :: digits =>
      (digitsValue digits).bind fun n =>
        if n ≤ 9223372036854775808 then some (-(n : Int)) else none
  | '+' :: digits =>
      (digitsValue digits).bind fun n =>
        if n ≤ 9223372036854775807 then some (n : Int) else none
  | digits =>
      (digitsValue digits).bind fun n =>
        if n ≤ 9223372036854775807 then some (n : Int) else none

example : parseInt "-12" = some (-12) ∧ parseInt "+" = none ∧
    parseInt " 1" = none := by
  decide +kernel

/-!
## The configuration
-/

inductive VideoCodec where
  | h264
  | hevc
deriving DecidableEq, Repr

/-- `SessionConfiguration` with what the handler and the VideoToolbox session
read of it besides. -/
structure ClientConfiguration extends SessionConfiguration where
  codec : VideoCodec
  timebase : Timebase
deriving DecidableEq, Repr

section Init

variable (canonical : String -> String)

/-- `VideoCodec(rawValue: name) ?? .h264`. -/
def VideoCodec.ofName (name : String) : VideoCodec :=
  if canonical name = canonical "hevc" then .hevc else .h264

/-- `SessionMode(rawValue: options["mode"] ?? "encode") ?? .encode`. -/
def SessionMode.ofOptions (options : OptionsDictionary canonical) :
    SessionMode :=
  if canonical ((options.lookup "mode").getD "encode") = canonical "decode" then
    .decode
  else .encode

/-- `int("wire_compression", 0)`. -/
def wireCompressionOption (options : OptionsDictionary canonical) : Int :=
  (parseInt ((options.lookup "wire_compression").getD "")).getD 0

def ClientConfiguration.init (codec : VideoCodec)
    (request : ConfigureRequest canonical) : ClientConfiguration where
  mode := SessionMode.ofOptions canonical request.options
  width := request.width
  height := request.height
  pixelFormat := request.pixelFormat
  wireCompression := wireCompressionOption canonical request.options
  codec := codec
  timebase := request.timebase

end Init
end VTRemote
