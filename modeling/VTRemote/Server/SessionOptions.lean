import VTRemote.Server.SessionSetup

/-!
# The options of a session

`SessionOptions.init` and its lookups: an option that is missing, or is no
number of 64 bits, has its default.
-/

namespace VTRemote

/-!
## Numbers in text
-/

theorem digitValue_digitChar {c : Char} (h : c.isDigit = true) :
    digitValue c = some (c.toNat - '0'.toNat) := by
  have hrange : '0' ≤ c ∧ c ≤ '9' := by
    rw [Char.isDigit] at h
    rw [Char.le_def, Char.le_def]
    simpa using h
  exact if_pos hrange

theorem foldlM_digits {digits : List Char} (h : forall c, c ∈ digits -> c.isDigit = true)
    (value : Nat) :
    (digits.foldlM (fun value c =>
      (digitValue c).map fun digit => value * 10 + digit) value) =
        some (Nat.ofDigitChars 10 digits value) := by
  induction digits generalizing value with
  | nil => rfl
  | cons c rest ih =>
      have hc := digitValue_digitChar (h c List.mem_cons_self)
      have hrest := ih (fun d hd => h d (List.mem_cons_of_mem c hd))
        (value * 10 + (c.toNat - '0'.toNat))
      rw [List.foldlM_cons, hc, Nat.ofDigitChars_cons, Nat.mul_comm 10 value]
      exact hrest

theorem digitsValue_toDigits (n : Nat) : digitsValue (Nat.toDigits 10 n) = some n := by
  have hdigit : forall c, c ∈ Nat.toDigits 10 n -> c.isDigit = true := fun c hc =>
    Nat.isDigit_of_mem_toDigits (by decide) (by decide) hc
  have hfold := foldlM_digits hdigit 0
  rw [Nat.ofDigitChars_ten_toDigits] at hfold
  cases hdigits : Nat.toDigits 10 n with
  | nil => exact absurd hdigits Nat.toDigits_ne_nil
  | cons c rest =>
      rw [hdigits] at hfold
      exact hfold

theorem parseInt_digits {string : String} {n : Nat}
    (hstring : string.toList = Nat.toDigits 10 n) (hmax : n ≤ 9223372036854775807) :
    parseInt string = some (n : Int) := by
  have hvalue := digitsValue_toDigits n
  unfold parseInt
  cases hdigits : Nat.toDigits 10 n with
  | nil => exact absurd hdigits Nat.toDigits_ne_nil
  | cons c rest =>
      have hc : c.isDigit = true := by
        apply Nat.isDigit_of_mem_toDigits (b := 10) (n := n) (by decide) (by decide)
        rw [hdigits]
        exact List.mem_cons_self
      rw [hdigits] at hstring hvalue
      rw [hstring]
      split
      · rename_i hminus
        rw [(List.cons.inj hminus).1] at hc
        exact absurd hc (by decide)
      · rename_i hplus
        rw [(List.cons.inj hplus).1] at hc
        exact absurd hc (by decide)
      · rw [hvalue, Option.bind_some, if_pos hmax]

theorem parseInt_toString {n : Int} (hmin : -9223372036854775808 ≤ n)
    (hmax : n ≤ 9223372036854775807) : parseInt (toString n) = some n := by
  rw [Int.toString_eq_repr, Int.repr_eq_if]
  split
  · rename_i hpos
    rw [parseInt_digits Nat.toList_repr (by omega), Int.toNat_of_nonneg hpos]
  · have hlist : ("-" ++ (-n).toNat.repr).toList = '-' :: Nat.toDigits 10 (-n).toNat := by
      rw [String.toList_append, Nat.toList_repr]
      rfl
    unfold parseInt
    rw [hlist]
    show (digitsValue (Nat.toDigits 10 (-n).toNat)).bind _ = _
    rw [digitsValue_toDigits, Option.bind_some, if_pos (by omega)]
    congr 1
    omega

/-!
## SessionOptions
-/

/-- The options but for `alphaQuality`, which is no integer. -/
structure SessionOptions where
  bitrate : Int
  maxRate : Int
  gop : Int
  maxBFrames : Int
  flags : Int64
  globalQuality : Int
  qmin : Int
  qmax : Int
  profile : Int
  level : Int
  entropy : Int
  allowSoftware : Bool
  requireSoftware : Bool
  realtime : Int
  framesBefore : Bool
  framesAfter : Bool
  prioritizeSpeed : Int
  powerEfficient : Int
  spatialAQ : Int
  maxReferenceFrames : Int
  maxSliceBytes : Int
  constantBitRate : Bool
  colorRange : Int
  colorSpace : Int
  colorPrimaries : Int
  colorTRC : Int
  sarNum : Int
  sarDen : Int
  a53CC : Int
  wireCompression : Int
deriving DecidableEq, Repr

namespace SessionOptions

variable {canonical : String -> String}

def int (options : OptionsDictionary canonical) (key : String) (default : Int) : Int :=
  (parseInt ((options.lookup key).getD "")).getD default

def int64 (options : OptionsDictionary canonical) (key : String)
    (default : Int64) : Int64 :=
  ((parseInt ((options.lookup key).getD "")).map Int64.ofInt).getD default

def bool (options : OptionsDictionary canonical) (key : String) : Bool :=
  canonical ((options.lookup key).getD "0") ≠ canonical "0"

def init (options : OptionsDictionary canonical) : SessionOptions where
  bitrate := int options "bitrate" 0
  maxRate := int options "maxrate" 0
  gop := int options "gop" 0
  maxBFrames := int options "max_b_frames" 0
  flags := int64 options "flags" 0
  globalQuality := int options "global_quality" 0
  qmin := int options "qmin" (-1)
  qmax := int options "qmax" (-1)
  profile := int options "profile" (-99)
  level := int options "level" 0
  entropy := int options "entropy" 0
  allowSoftware := bool options "allow_sw"
  requireSoftware := bool options "require_sw"
  realtime := int options "realtime" (-1)
  framesBefore := bool options "frames_before"
  framesAfter := bool options "frames_after"
  prioritizeSpeed := int options "prio_speed" (-1)
  powerEfficient := int options "power_efficient" (-1)
  spatialAQ := int options "spatial_aq" (-1)
  maxReferenceFrames := int options "max_ref_frames" 0
  maxSliceBytes := int options "max_slice_bytes" (-1)
  constantBitRate := bool options "constant_bit_rate"
  colorRange := int options "color_range" 0
  colorSpace := int options "colorspace" 2
  colorPrimaries := int options "color_primaries" 2
  colorTRC := int options "color_trc" 2
  sarNum := int options "sar_num" 0
  sarDen := int options "sar_den" 0
  a53CC := int options "a53_cc" (-1)
  wireCompression := int options "wire_compression" 0

/-!
## One option
-/

variable {options : OptionsDictionary canonical} {key : String}

theorem int_of_some {n : Int} (default : Int) (hmin : -9223372036854775808 ≤ n)
    (hmax : n ≤ 9223372036854775807) (h : options.lookup key = some (toString n)) :
    int options key default = n := by
  unfold int
  rw [h, Option.getD_some, parseInt_toString hmin hmax, Option.getD_some]

theorem int_of_none (default : Int) (h : options.lookup key = none) :
    int options key default = default := by
  have hempty : parseInt "" = none := by decide +kernel
  unfold int
  rw [h, Option.getD_none, hempty, Option.getD_none]

theorem int64_of_some {n : Int} (default : Int64) (hmin : -9223372036854775808 ≤ n)
    (hmax : n ≤ 9223372036854775807) (h : options.lookup key = some (toString n)) :
    int64 options key default = Int64.ofInt n := by
  unfold int64
  rw [h, Option.getD_some, parseInt_toString hmin hmax, Option.map_some,
    Option.getD_some]

theorem int64_of_none (default : Int64) (h : options.lookup key = none) :
    int64 options key default = default := by
  have hempty : parseInt "" = none := by decide +kernel
  unfold int64
  rw [h, Option.getD_none, hempty, Option.map_none, Option.getD_none]

/-- What the set-up of a session reads are these options. -/
theorem setupConfiguration_options (codec : VideoCodec)
    (request : ConfigureRequest canonical) :
    let configuration := SetupConfiguration.init canonical codec request
    configuration.wireCompression = (init request.options).wireCompression ∧
      configuration.bitrate = (init request.options).bitrate ∧
      configuration.flags = (init request.options).flags := by
  refine ⟨rfl, rfl, ?_⟩
  show Int64.ofInt (intOption canonical request.options "flags") =
    int64 request.options "flags" 0
  unfold intOption int64
  cases parseInt ((request.options.lookup "flags").getD "") with
  | none => rfl
  | some n => rfl

end SessionOptions

/-!
## Flags
-/

/-- `AV_CODEC_FLAG_QSCALE`, `AV_CODEC_FLAG_LOW_DELAY` and
`AV_CODEC_FLAG_CLOSED_GOP`. -/
def avCodecFlagQscale : Int64 := (1 : Int64) <<< 1
def avCodecFlagLowDelay : Int64 := (1 : Int64) <<< 19
def avCodecFlagClosedGop : Int64 := (1 : Int64) <<< 31

/-- `(options.flags & flag) != 0`. -/
def SessionOptions.hasFlag (o : SessionOptions) (flag : Int64) : Bool :=
  o.flags &&& flag ≠ 0

/-- A flag of the client's 32 bits is the same bit of the 64, also where the sign
was extended. -/
theorem ofInt_and_flag {flags : Int32} {flag : Int64} {bit : Nat} (hbit : bit < 32)
    (hflag : flag.toBitVec = BitVec.twoPow 64 bit) :
    Int64.ofInt flags.toInt &&& flag ≠ 0 <-> flags.toBitVec.getLsbD bit = true := by
  have hbits : (Int64.ofInt flags.toInt).toBitVec = flags.toBitVec.signExtend 64 := rfl
  have hsame : (flags.toBitVec.signExtend 64).getLsbD bit = flags.toBitVec.getLsbD bit := by
    rw [BitVec.getLsbD_signExtend, if_pos hbit, decide_eq_true (by omega), Bool.true_and]
  rw [Ne, ← Int64.toBitVec_inj, Int64.toBitVec_and, hbits, hflag, BitVec.and_twoPow, hsame]
  split
  · rename_i hset
    refine iff_of_true ?_ hset
    intro hzero
    have hpow := congrArg (BitVec.getLsbD · bit) hzero
    rw [BitVec.getLsbD_twoPow] at hpow
    simp at hpow
    omega
  · rename_i hclear
    exact iff_of_false (fun h => h rfl) hclear

end VTRemote
