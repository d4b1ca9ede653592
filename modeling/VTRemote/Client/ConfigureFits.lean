import VTRemote.Client.SessionHandshake
import VTRemote.Formats.Configure

/-!
# CONFIGURE where memory is granted

The strings of a CONFIGURE are short, so that it is written as a whole, and the options
in it are those whose guards hold.
-/

namespace VTRemote

attribute [local irreducible] cInt

/-!
## Printed numbers
-/

theorem utf8Data_length_le (string : String) :
    (utf8Data string).length ≤ 4 * string.toList.length := by
  have hbytes : utf8Data string = string.toList.flatMap String.utf8EncodeChar := by
    unfold utf8Data
    rw [<- String.utf8Encode_toList]
    show ((string.toList.flatMap String.utf8EncodeChar).toByteArray).data.toList = _
    rw [List.data_toByteArray]
  rw [hbytes]
  generalize string.toList = chars
  induction chars with
  | nil => exact Nat.zero_le _
  | cons c rest ih =>
      have hc := c.utf8Size_le_four
      rw [List.flatMap_cons, List.length_append, List.length_cons,
        String.length_utf8EncodeChar]
      omega

theorem repr_length_le {n : Nat} (h : n < 10 ^ 20) : n.repr.toList.length ≤ 20 := by
  rw [String.length_toList]
  exact (Nat.length_repr_le_iff (by decide)).mpr h

theorem printed_length_le {n : Int} (hmin : -9223372036854775808 ≤ n)
    (hmax : n ≤ 9223372036854775807) : (utf8Data (toString n)).length ≤ 84 := by
  have hchars : (toString n).toList.length ≤ 21 := by
    cases n with
    | ofNat m =>
        have hm : (m.repr).toList.length ≤ 20 := by
          apply repr_length_le
          simp only [Int.ofNat_eq_natCast] at hmax
          omega
        exact Nat.le_succ_of_le hm
    | negSucc m =>
        have hm : ((m + 1).repr).toList.length ≤ 20 := by
          apply repr_length_le
          omega
        show ("-" ++ (m + 1).repr).toList.length ≤ 21
        rw [String.toList_append, List.length_append]
        show 1 + _ ≤ 21
        omega
  have hbytes := utf8Data_length_le (toString n)
  omega

/-!
## Writes
-/

theorem vtremoteWbufPutStr_succeeds {s : Option Bytes} (h : (s.getD []).length ≤ 65535) :
    Succeeds (vtremoteWbufPutStr s) (2 + (s.getD []).length) := by
  have hword : Succeeds (vtremoteWbufPutU16 (UInt16.ofNat (s.getD []).length)) 2 :=
    wbufPut_succeeds (BigEndian.store16 _)
  have hbytes : Succeeds (vtremoteWbufPutBytes (s.getD []) (s.getD []).length)
      (s.getD []).length := by
    have hput : vtremoteWbufPutBytes (s.getD []) (s.getD []).length =
        wbufPut (s.getD []) := by
      funext b
      unfold vtremoteWbufPutBytes
      rw [if_neg (Int.not_lt.mpr (Int.natCast_nonneg _)), Int.toNat_natCast,
        List.take_length]
    rw [hput]
    exact wbufPut_succeeds _
  intro b hb hpos hmax
  have hput : vtremoteWbufPutStr s b =
      (vtremoteWbufPutU16 (UInt16.ofNat (s.getD []).length)).orReturn
        (vtremoteWbufPutBytes (s.getD []) (s.getD []).length) b := by
    have hret := (hword b hb (by omega) (by omega)).1
    unfold vtremoteWbufPutStr WbufPut.orReturn
    dsimp only
    rw [if_neg (Nat.not_lt.mpr h)]
    simp only [hret, if_neg (Int.lt_irrefl 0)]
    rw [zero_lor]
  rw [hput]
  exact Succeeds.orReturn (by decide) hword hbytes b hb hpos hmax

def VTRemoteKV.size (kv : VTRemoteKV) : Nat :=
  2 + (kv.key.getD []).length + (2 + (kv.value.getD []).length)

def VTRemoteKV.Fits (kv : VTRemoteKV) : Prop :=
  (kv.key.getD []).length ≤ 65535 ∧ (kv.value.getD []).length ≤ 65535

theorem putOptions_succeeds {options : List VTRemoteKV}
    (h : forall kv, kv ∈ options -> kv.Fits) :
    Succeeds (putOptions options) (options.map VTRemoteKV.size).sum := by
  induction options with
  | nil => exact Succeeds.done
  | cons kv rest ih =>
      have hkv := h kv List.mem_cons_self
      have hrest := ih fun kv hmem => h kv (List.mem_cons_of_mem _ hmem)
      rw [List.map_cons, List.sum_cons]
      have hsize : kv.size = 2 + (kv.key.getD []).length +
          (2 + (kv.value.getD []).length) := rfl
      have hpair := Succeeds.orThen (by omega) (vtremoteWbufPutStr_succeeds hkv.1)
        (vtremoteWbufPutStr_succeeds hkv.2)
      exact Succeeds.orReturn (by omega) hpair hrest

theorem options_size_le {options : List VTRemoteKV}
    (h : forall kv, kv ∈ options -> kv.Fits) :
    (options.map VTRemoteKV.size).sum ≤ options.length * 131074 := by
  induction options with
  | nil => exact Nat.zero_le _
  | cons kv rest ih =>
      have hkv := h kv List.mem_cons_self
      have hrest := ih fun kv hmem => h kv (List.mem_cons_of_mem _ hmem)
      have hsize : kv.size = 2 + (kv.key.getD []).length +
          (2 + (kv.value.getD []).length) := rfl
      rw [List.map_cons, List.sum_cons, List.length_cons, Nat.add_mul]
      rcases hkv with ⟨hkey, hvalue⟩
      omega

def putConfigureHead (width height : UInt32) (pixFmt : UInt8)
    (timeBaseNum timeBaseDen frNum frDen : UInt32) (count : UInt16) : WbufPut :=
  (((((((vtremoteWbufPutU32 width).orThen
    (vtremoteWbufPutU32 height)).orThen
    (vtremoteWbufPutU8 pixFmt)).orThen
    (vtremoteWbufPutU32 timeBaseNum)).orThen
    (vtremoteWbufPutU32 timeBaseDen)).orThen
    (vtremoteWbufPutU32 frNum)).orThen
    (vtremoteWbufPutU32 frDen)).orThen
    (vtremoteWbufPutU16 count)

theorem putConfigureHead_succeeds (width height : UInt32) (pixFmt : UInt8)
    (timeBaseNum timeBaseDen frNum frDen : UInt32) (count : UInt16) :
    Succeeds (putConfigureHead width height pixFmt timeBaseNum timeBaseDen frNum frDen
      count) 27 :=
  have hcount : Succeeds (vtremoteWbufPutU16 count) 2 :=
    wbufPut_succeeds (BigEndian.store16 count)
  Succeeds.orThen (by decide)
    (Succeeds.orThen (by decide)
      (Succeeds.orThen (by decide)
        (Succeeds.orThen (by decide)
          (Succeeds.orThen (by decide)
            (Succeeds.orThen (by decide)
              (Succeeds.orThen (by decide)
                (vtremoteWbufPutU32_succeeds width)
                (vtremoteWbufPutU32_succeeds height))
              (vtremoteWbufPutU8_succeeds pixFmt))
            (vtremoteWbufPutU32_succeeds timeBaseNum))
          (vtremoteWbufPutU32_succeeds timeBaseDen))
        (vtremoteWbufPutU32_succeeds frNum))
      (vtremoteWbufPutU32_succeeds frDen))
    hcount

section Configure

variable (width height : UInt32) (pixFmt : UInt8)
  (timeBaseNum timeBaseDen frNum frDen : UInt32) (options : List VTRemoteKV)
  (extradata : Option Bytes) (extradataLen : UInt32)

theorem vtremotePayloadConfigure_eq (b : VTRemoteWBuf) :
    vtremotePayloadConfigure width height pixFmt timeBaseNum timeBaseDen frNum frDen
        options options.length extradata extradataLen b =
      (putConfigureHead width height pixFmt timeBaseNum timeBaseDen frNum frDen
        (UInt16.ofInt options.length)).orReturn
        ((putOptions options).orReturn
          ((vtremoteWbufPutU32 extradataLen).orReturn
            (putIfAny extradata extradataLen))) (vtremoteWbufReset b) := by
  unfold vtremotePayloadConfigure
  rw [if_neg (Int.not_lt.mpr (Int.natCast_nonneg _)), Int.toNat_natCast, List.take_length]
  rfl

theorem vtremotePayloadConfigure_succeeds {b : VTRemoteWBuf} (hb : b.Granted)
    (hne : options ≠ []) (hoptions : forall kv, kv ∈ options -> kv.Fits)
    (hlen : extradataLen.toNat = (extradata.getD []).length)
    (hle : options.length * 131074 + (extradata.getD []).length + 31 ≤ maxAllocSize) :
    (vtremotePayloadConfigure width height pixFmt timeBaseNum timeBaseDen frNum frDen
      options options.length extradata extradataLen b).1 = 0 := by
  have hsum := options_size_le hoptions
  have hpos : 0 < (options.map VTRemoteKV.size).sum := by
    cases options with
    | nil => exact absurd rfl hne
    | cons kv rest =>
        have hsize : kv.size = 2 + (kv.key.getD []).length +
            (2 + (kv.value.getD []).length) := rfl
        rw [List.map_cons, List.sum_cons]
        omega
  have hhead := putConfigureHead_succeeds width height pixFmt timeBaseNum timeBaseDen
    frNum frDen (UInt16.ofInt options.length)
  have htail := Succeeds.orReturn (by decide) (vtremoteWbufPutU32_succeeds extradataLen)
    (putIfAny_succeeds hlen)
  have hall := Succeeds.orReturn (by decide) hhead
    (Succeeds.orReturn hpos (putOptions_succeeds hoptions) htail)
  have hreset : (vtremoteWbufReset b).Granted :=
    ⟨VTRemoteWBuf.sound_reset b, hb.grants⟩
  have hzero : (vtremoteWbufReset b).size = 0 := rfl
  rw [vtremotePayloadConfigure_eq]
  exact (hall _ hreset (by omega) (by omega)).1

end Configure

/-!
## The options
-/

theorem sentOptions_cons (option : ConfigureOption) (rest : List ConfigureOption) :
    sentOptions (option :: rest) = sentOptions [option] ++ sentOptions rest := by
  unfold sentOptions
  rw [<- List.map_append, <- List.filter_append]
  rfl

section Granted

variable {σ : Type} {link : HandshakeLink σ}

def HandshakeLink.Allocates (link : HandshakeLink σ) : Prop :=
  forall socket, link.malloc socket = .returned (.ok ()) socket

structure OptionsAdded (options : List (String × String)) (s s' : InitContext σ) :
    Prop where
  socket : s'.socket = s.socket
  options : s'.opts.options = s.opts.options ++ options

theorem OptionsAdded.trans {options more : List (String × String)} {s s1 s' : InitContext σ}
    (h : OptionsAdded options s s1) (h' : OptionsAdded more s1 s') :
    OptionsAdded (options ++ more) s s' where
  socket := h'.socket.trans h.socket
  options := by
    rw [h'.options, h.options, List.append_assoc]

variable (hlink : link.Allocates) (s : InitContext σ)
include hlink

theorem onSocket_malloc : onSocket link.malloc s = .returned (.ok ()) s :=
  Call.zoom_of_returned (hlink s.socket)

theorem duplicate_granted :
    duplicate link s =
      .returned (.ok (some s.strings.next)) { s with strings := s.strings.acquire } := by
  unfold duplicate
  rw [Call.bind_of_ok _ (Call.attempt_of_returned (onSocket_malloc hlink s))]
  rfl

theorem vtremoteAddOpt_granted (key : String) (block : Nat) (value : String) :
    exists s', vtremoteAddOpt link key (some block) value s = .returned (.ok ()) s' ∧
      OptionsAdded [(key, value)] s s' := by
  have hadded : forall s1 : InitContext σ, s1.socket = s.socket ->
      s1.opts.entries = s.opts.entries ->
      OptionsAdded [(key, value)] s { s1 with
        opts := { s1.opts with entries := s1.opts.entries ++ [⟨key, block, value⟩] } } := by
    intro s1 hsocket hentries
    refine ⟨hsocket, ?_⟩
    show (s1.opts.entries ++ [OptionEntry.mk key block value]).map _ = _
    rw [hentries, List.map_append]
    rfl
  unfold vtremoteAddOpt
  dsimp only
  rw [Call.get_bind]
  by_cases hfull : s.opts.cap ≤ s.opts.entries.length
  · refine ⟨_, ?_, hadded s.moveOpts rfl rfl⟩
    apply Call.bind_of_ok
    rw [Call.when, if_pos hfull,
      Call.bind_of_ok _ (Call.attempt_of_returned (onSocket_malloc hlink s))]
    rfl
  · refine ⟨_, ?_, hadded s rfl rfl⟩
    rw [Call.when, if_neg hfull]
    rfl

theorem addMode_granted (mode : String) :
    exists s', addMode link mode s = .returned (.ok ()) s' ∧
      OptionsAdded [("mode", mode)] s s' := by
  unfold addMode
  rw [Call.bind_of_ok _ (duplicate_granted hlink s)]
  rcases vtremoteAddOpt_granted hlink { s with strings := s.strings.acquire } "mode"
    s.strings.next mode with ⟨s', hadd, hadded⟩
  exact ⟨s', hadd, hadded.socket, hadded.options⟩

theorem addOption_granted (option : ConfigureOption) :
    exists s', addOption link option s = .returned (.ok ()) s' ∧
      OptionsAdded (sentOptions [option]) s s' := by
  unfold addOption Call.when
  by_cases hsent : option.sent = true
  · rw [if_pos hsent, Call.bind_of_ok _ (duplicate_granted hlink s)]
    have hoption : sentOptions [option] = [(option.key, option.value)] := by
      unfold sentOptions
      rw [List.filter_cons_of_pos hsent]
      rfl
    rw [hoption]
    rcases vtremoteAddOpt_granted hlink { s with strings := s.strings.acquire } option.key
      s.strings.next option.value with ⟨s', hadd, hadded⟩
    exact ⟨s', hadd, hadded.socket, hadded.options⟩
  · have hoption : sentOptions [option] = [] := by
      unfold sentOptions
      rw [List.filter_cons_of_neg hsent]
      rfl
    rw [if_neg hsent, hoption]
    exact ⟨s, rfl, rfl, (List.append_nil _).symm⟩

theorem addOptions_granted (options : List ConfigureOption) :
    exists s', addOptions link options s = .returned (.ok ()) s' ∧
      OptionsAdded (sentOptions options) s s' := by
  induction options generalizing s with
  | nil => exact ⟨s, rfl, rfl, (List.append_nil _).symm⟩
  | cons option rest ih =>
      rcases addOption_granted hlink s option with ⟨s1, hfirst, hadded⟩
      rcases ih s1 with ⟨s', hrest, hadded'⟩
      refine ⟨s', ?_, ?_⟩
      · unfold addOptions
        rw [Call.bind_of_ok _ hfirst]
        exact hrest
      · rw [sentOptions_cons]
        exact hadded.trans hadded'

end Granted

/-!
## The message
-/

namespace HandshakeSide

variable {β : Type} (side : HandshakeSide β)

def sent : List (String × String) := ("mode", side.mode) :: sentOptions side.options

/-- A CONFIGURE that a buffer can hold. -/
structure Fits : Prop where
  options : forall option, option ∈ side.sent -> (optionKV option).Fits
  count : side.sent.length ≤ 32
  extradata_length :
    (uint32OfInt32 side.extradataSize).toNat = (side.extradata.getD []).length
  extradata_lt : (side.extradata.getD []).length < 268435456

variable (canonical : String -> String)

def request (pixFmt : UInt8) : ConfigureRequest canonical :=
  (payloadConfigure (uint32OfInt32 side.width) (uint32OfInt32 side.height) pixFmt
    (uint32OfInt32 side.timeBase.num) (uint32OfInt32 side.timeBase.den)
    (uint32OfInt32 side.framerate.num) (uint32OfInt32 side.framerate.den)
    (side.sent.map optionKV) side.extradata).toRequest canonical

def configureBytes (pixFmt : UInt8) : Bytes :=
  (configurePut side pixFmt side.sent (vtremoteWbufInit [])).2.contents

variable {side} (h : side.Fits)
include h

theorem Fits.decode (pixFmt : UInt8) :
    ConfigureRequest.decode canonical (side.configureBytes pixFmt) =
      .ok (side.request canonical pixFmt) := by
  have hgranted : (vtremoteWbufInit []).Granted :=
    ⟨VTRemoteWBuf.sound_reset (vtremoteWbufInit []), rfl⟩
  have hlength : (side.sent.map optionKV).length = side.sent.length := List.length_map _
  have hcount := h.count
  have hextradata := h.extradata_lt
  have hkv : forall kv, kv ∈ side.sent.map optionKV -> kv.Fits := by
    intro kv hmem
    rcases List.mem_map.mp hmem with ⟨option, hoption, rfl⟩
    exact h.options option hoption
  have hput := vtremotePayloadConfigure_succeeds (uint32OfInt32 side.width)
    (uint32OfInt32 side.height) pixFmt (uint32OfInt32 side.timeBase.num)
    (uint32OfInt32 side.timeBase.den) (uint32OfInt32 side.framerate.num)
    (uint32OfInt32 side.framerate.den) (side.sent.map optionKV) side.extradata
    (uint32OfInt32 side.extradataSize) hgranted (List.cons_ne_nil _ _) hkv
    h.extradata_length (by unfold maxAllocSize; omega)
  unfold configureBytes configurePut request
  rw [<- hlength]
  exact configureRequest_decode_payload canonical (by omega) h.extradata_length hput

end HandshakeSide
end VTRemote
