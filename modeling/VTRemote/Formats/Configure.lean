import VTRemote.Formats.Grammar
import VTRemote.Proto.Payload
import VTRemote.Server.Messages

/-!
# CONFIGURE from the client to the server

The server's lenient decoder reads back what the client's writer wrote.
-/

namespace VTRemote

open Grammar Format

/-!
## The client's writer
-/

def VTRemoteKV.toWire (kv : VTRemoteKV) : KeyValue :=
  { key := kv.key.getD [], value := kv.value.getD [] }

theorem putOptions_appends (options : List VTRemoteKV) :
    Appends (putOptions options)
      ((options.map VTRemoteKV.toWire).flatMap KeyValue.encode) := by
  induction options with
  | nil => exact Appends.done
  | cons kv rest ih =>
      have hput := ((vtremoteWbufPutStr_appends kv.key).orThen
        (vtremoteWbufPutStr_appends kv.value)).orReturn ih
      exact hput

theorem putOptions_fits {options : List VTRemoteKV} {b : VTRemoteWBuf}
    (h : (putOptions options b).1 = 0) {kv : VTRemoteKV}
    (hkv : kv ∈ options) : kv.toWire.Fits := by
  induction options generalizing b with
  | nil => cases hkv
  | cons first rest ih =>
      have hkey := vtremoteWbufPutStr_appends first.key
      have hvalue := vtremoteWbufPutStr_appends first.value
      rcases (hkey.orThen hvalue).zero_of_orReturn (putOptions_appends rest) h
        with ⟨hfirst, hrest⟩
      rcases List.mem_cons.mp hkv with rfl | hmem
      · rcases hkey.zero_of_orThen hvalue hfirst with ⟨h1, h2⟩
        exact ⟨vtremoteWbufPutStr_length h1, vtremoteWbufPutStr_length h2⟩
      · exact ih hrest hmem

def payloadConfigure (width height : UInt32) (pixFmt : UInt8)
    (timeBaseNum timeBaseDen frNum frDen : UInt32)
    (options : List VTRemoteKV) (extradata : Option Bytes) : Configure :=
  { width, height, pixFmt, timeBaseNum, timeBaseDen, frNum, frDen
    options := options.map VTRemoteKV.toWire
    extradata := extradata.getD [] }

theorem vtremotePayloadConfigure_encode {width height : UInt32}
    {pixFmt : UInt8} {timeBaseNum timeBaseDen frNum frDen : UInt32}
    {options : List VTRemoteKV} {extradata : Option Bytes}
    {extradataLen : UInt32} {b : VTRemoteWBuf}
    (hcount : options.length ≤ 65535)
    (hlen : extradataLen.toNat = (extradata.getD []).length)
    (h : (vtremotePayloadConfigure width height pixFmt timeBaseNum timeBaseDen
      frNum frDen options options.length extradata extradataLen b).1 = 0) :
    (payloadConfigure width height pixFmt timeBaseNum timeBaseDen frNum frDen
        options extradata).Fits ∧
      (vtremotePayloadConfigure width height pixFmt timeBaseNum timeBaseDen
        frNum frDen options options.length extradata extradataLen b).2.contents =
      (payloadConfigure width height pixFmt timeBaseNum timeBaseDen frNum frDen
        options extradata).encode := by
  have hfixed :=
    (((((((vtremoteWbufPutU32_appends width).orThen
      (vtremoteWbufPutU32_appends height)).orThen
      (vtremoteWbufPutU8_appends pixFmt)).orThen
      (vtremoteWbufPutU32_appends timeBaseNum)).orThen
      (vtremoteWbufPutU32_appends timeBaseDen)).orThen
      (vtremoteWbufPutU32_appends frNum)).orThen
      (vtremoteWbufPutU32_appends frDen)).orThen
      (vtremoteWbufPutU16_appends (UInt16.ofInt options.length))
  have hoptions := putOptions_appends
    (options.take (options.length : Int).toNat)
  have htail := (vtremoteWbufPutU32_appends extradataLen).orReturn
    (putIfAny_appends hlen)
  have htake : options.take (options.length : Int).toNat = options := by
    rw [Int.toNat_natCast, List.take_length]
  have hword : UInt16.ofInt options.length =
      UInt16.ofNat (options.map VTRemoteKV.toWire).length := by
    rw [List.length_map]
    exact uint16_ofInt_natCast (Nat.lt_succ_of_le hcount)
  unfold vtremotePayloadConfigure at h ⊢
  rw [if_neg (Int.not_lt.mpr (Int.natCast_nonneg _))] at h ⊢
  have hput := (hfixed.orReturn (hoptions.orReturn htail)).contents_of_reset h
  constructor
  · constructor
    · show (options.map VTRemoteKV.toWire).length < 2 ^ 16
      rw [List.length_map]
      exact Nat.lt_succ_of_le hcount
    · intro kv hkv
      rcases List.mem_map.mp hkv with ⟨kv', hmem, rfl⟩
      rcases hfixed.zero_of_orReturn (hoptions.orReturn htail) h with ⟨_, hrest⟩
      rcases hoptions.zero_of_orReturn htail hrest with ⟨hopts, _⟩
      rw [htake] at hopts
      exact putOptions_fits hopts hmem
    · show (extradata.getD []).length < 2 ^ 32
      rw [<- hlen]
      exact extradataLen.toNat_lt
  · have hcountWord : UInt32.ofNat (extradata.getD []).length =
        extradataLen := by
      rw [<- hlen]
      exact UInt32.ofNat_toNat
    rw [hput.2, htake, hword]
    unfold Configure.encode payloadConfigure blob32
    rw [hcountWord]
    simp only [List.append_assoc]
    rfl

/-!
## The server's decoder
-/

section ServerReads

open ByteReader ConfigureRequest

variable (canonical : String -> String)

def assignAll (options : OptionsDictionary canonical) (kvs : List KeyValue) :
    OptionsDictionary canonical :=
  kvs.foldl (fun d kv => assign canonical d kv.key kv.value) options

def Grammar.Configure.toRequest (c : Configure) : ConfigureRequest canonical :=
  { width := c.width.toNat
    height := c.height.toNat
    pixelFormat := c.pixFmt
    timebase := Timebase.init c.timeBaseNum.toNat c.timeBaseDen.toNat
    frameRate := (c.frNum.toNat, c.frDen.toNat)
    options := assignAll canonical OptionsDictionary.empty c.options
    extradata := if c.extradata.isEmpty then none else some c.extradata }

/-- The loop assigns the options in the order of the message. -/
theorem readOptionsLoop_follows (options : OptionsDictionary canonical)
    (n : Nat) :
    SwiftFollows (readOptionsLoop canonical options n)
      (assignAll canonical options <$> Decoder.times KeyValue.decode n) := by
  induction n generalizing options with
  | zero => exact Follows.pure options
  | succ n ih =>
      have hkv : KeyValue.decode = (do
          let keyLen ← u16.decode
          let key ← Decoder.take keyLen.toNat
          let valLen ← u16.decode
          let value ← Decoder.take valLen.toNat
          pure { key, value }) := by
        unfold KeyValue.decode
        simp only [blobDecoder_count16, bind_assoc]
      unfold readOptionsLoop Decoder.times
      simp only [map_bind, map_pure]
      nth_rewrite 1 [hkv]
      simp only [bind_assoc, pure_bind]
      apply Follows.bind readBEUInt16_follows
      intro keyLen
      rw [readBytes_natCast]
      apply Follows.bind (consume_follows keyLen.toNat)
      intro keyData
      apply Follows.bind readBEUInt16_follows
      intro valLen
      rw [readBytes_natCast]
      apply Follows.bind (consume_follows valLen.toNat)
      intro valData
      have hrest := ih (assign canonical options keyData valData)
      rw [map_eq_pure_bind] at hrest
      exact hrest

theorem remaining_of_decode {α β : Type} {f : Format α} {n : Nat}
    (hwidth : forall a, (f.encode a).length = n) {next : α -> Decoder β}
    {r : ByteReader} {b : β} {rest : List UInt8}
    (h : (f.decode >>= next) r.ahead = some (b, rest)) : n ≤ r.remaining := by
  rcases Decoder.bind_eq_some.mp h with ⟨a, mid, ha, _⟩
  rw [<- r.ahead_length, f.encode_decode _ _ _ ha, List.length_append, hwidth]
  exact Nat.le_add_right n mid.length

theorem readOptions_follows :
    SwiftFollows (readOptions canonical)
      (assignAll canonical OptionsDictionary.empty <$>
        (u16.decode >>= fun count =>
          Decoder.times KeyValue.decode count.toNat)) := by
  rw [map_bind]
  intro r options rest hok hd
  have hroom := remaining_of_decode (n := 2) (fun _ => rfl) hd
  have hbody : SwiftFollows (do
      let count ← readBEUInt16
      readOptionsLoop canonical OptionsDictionary.empty count.toNat)
      (u16.decode >>= fun count =>
        assignAll canonical OptionsDictionary.empty <$>
          Decoder.times KeyValue.decode count.toNat) := by
    apply Follows.bind readBEUInt16_follows
    intro count
    exact readOptionsLoop_follows canonical OptionsDictionary.empty count.toNat
  unfold readOptions
  rw [if_pos hroom]
  exact hbody r options rest hok hd

theorem readExtradata_follows :
    SwiftFollows readExtradata
      ((fun data => if data.isEmpty then none else some data) <$>
        blobDecoder count32) := by
  rw [blobDecoder_count32, map_bind]
  intro r extradata rest hok hd
  have hroom := remaining_of_decode (n := 4) (fun _ => rfl) hd
  have hbody : SwiftFollows (do
      let extraLen ← readBEUInt32
      if 0 < extraLen.toNat then some <$> readBytes extraLen.toNat
      else pure none)
      (u32.decode >>= fun count =>
        (fun data => if data.isEmpty then none else some data) <$>
          Decoder.take count.toNat) := by
    apply Follows.bind readBEUInt32_follows
    intro extraLen
    rw [readBytes_natCast]
    by_cases hpos : 0 < extraLen.toNat
    · rw [if_pos hpos, map_eq_pure_bind, map_eq_pure_bind]
      intro r data rest hok hd
      rcases Decoder.bind_eq_some.mp hd with ⟨bytes, mid, htake, hpure⟩
      cases hpure
      have hlen := (Decoder.take_eq_some htake).2
      rcases consume_follows extraLen.toNat r _ _ hok htake
        with ⟨r', hread, hok', hrest⟩
      have hne : bytes.isEmpty = false := by
        cases bytes with
        | nil =>
            rw [<- hlen] at hpos
            cases hpos
        | cons b tail => rfl
      refine ⟨r', ?_, hok', hrest⟩
      rw [bind_of_ok hread, hne]
      rfl
    · rw [if_neg hpos, Nat.eq_zero_of_not_pos hpos]
      exact Follows.pure none
  unfold readExtradata
  rw [if_pos hroom]
  exact hbody r extradata rest hok hd

theorem readConfigure_follows :
    SwiftFollows (ConfigureRequest.read canonical)
      (Configure.toRequest canonical <$> Configure.decode) := by
  unfold ConfigureRequest.read Configure.decode
  simp only [map_bind, map_pure]
  apply Follows.bind readBEUInt32_follows
  intro width
  apply Follows.bind readBEUInt32_follows
  intro height
  apply Follows.bind readUInt8_follows
  intro pix
  apply Follows.bind readBEUInt32_follows
  intro tbNum
  apply Follows.bind readBEUInt32_follows
  intro tbDen
  apply Follows.bind readBEUInt32_follows
  intro frNum
  apply Follows.bind readBEUInt32_follows
  intro frDen
  -- the count of the options belongs to their section
  rw [<- bind_assoc]
  apply Follows.bind_map (readOptions_follows canonical)
  intro options
  apply Follows.bind_map readExtradata_follows
  intro extradata
  exact Follows.pure _

end ServerReads

/-!
## Options with equal keys

An assignment to a new key adds an entry; an assignment to a key that an entry
equals, as Swift compares strings, replaces that entry's value.
-/

/-- An option of the caller, as a pair of C strings. -/
def optionKV (option : String × String) : VTRemoteKV :=
  { key := some (utf8Data option.1), value := some (utf8Data option.2) }

theorem assign_utf8 {canonical : String -> String}
    (d : OptionsDictionary canonical) (key val : String) :
    ConfigureRequest.assign canonical d (utf8Data key) (utf8Data val) =
      d.update key val := by
  simp only [ConfigureRequest.assign, utf8String_utf8Data]

theorem assignAll_cons {canonical : String -> String}
    (d : OptionsDictionary canonical) (option : String × String)
    (rest : List (String × String)) :
    assignAll canonical d
        (((option :: rest).map optionKV).map VTRemoteKV.toWire) =
      assignAll canonical (d.update option.1 option.2)
        ((rest.map optionKV).map VTRemoteKV.toWire) := by
  rw [<- assign_utf8]
  rfl

theorem assignAll_distinct {canonical : String -> String}
    (d : OptionsDictionary canonical) (options : List (String × String))
    (h : (d.entries ++ options).Pairwise
      fun a b => canonical a.1 ≠ canonical b.1) :
    (assignAll canonical d
      ((options.map optionKV).map VTRemoteKV.toWire)).entries =
      d.entries ++ options := by
  induction options generalizing d with
  | nil => exact (List.append_nil d.entries).symm
  | cons option rest ih =>
      have hnew : forall entry, entry ∈ d.entries ->
          canonical entry.1 ≠ canonical option.1 := by
        intro entry hentry
        exact (List.pairwise_append.mp h).2.2 entry hentry option
          List.mem_cons_self
      have hentries : (d.update option.1 option.2).entries =
          d.entries ++ [option] :=
        OptionsDictionary.updateEntries_of_new hnew
      rw [assignAll_cons, ih (d.update option.1 option.2), hentries,
        List.append_assoc]
      · rfl
      · rw [hentries, List.append_assoc]
        exact h

theorem configureRequest_decode_payload (canonical : String -> String)
    {width height : UInt32} {pixFmt : UInt8}
    {timeBaseNum timeBaseDen frNum frDen : UInt32}
    {options : List VTRemoteKV} {extradata : Option Bytes}
    {extradataLen : UInt32} {b : VTRemoteWBuf}
    (hcount : options.length ≤ 65535)
    (hlen : extradataLen.toNat = (extradata.getD []).length)
    (h : (vtremotePayloadConfigure width height pixFmt timeBaseNum timeBaseDen
      frNum frDen options options.length extradata extradataLen b).1 = 0) :
    ConfigureRequest.decode canonical
        (vtremotePayloadConfigure width height pixFmt timeBaseNum timeBaseDen
          frNum frDen options options.length extradata extradataLen
          b).2.contents =
      .ok ((payloadConfigure width height pixFmt timeBaseNum timeBaseDen frNum
        frDen options extradata).toRequest canonical) := by
  rcases vtremotePayloadConfigure_encode hcount hlen h with ⟨hfits, hbytes⟩
  have hd := Configure.decode_encode hfits []
  rw [List.append_nil] at hd
  rcases SwiftFollows.read_init (readConfigure_follows canonical) hd
    with ⟨r, hread, _⟩
  unfold ConfigureRequest.decode
  rw [hbytes, hread]
  rfl

/-- Whatever the client writes, the server reads back, as long as no two keys
are equal as Swift strings. -/
theorem configure_round_trip (canonical : String -> String)
    (width height : UInt32) (pixFmt : UInt8)
    (timeBaseNum timeBaseDen frNum frDen : UInt32)
    (options : List (String × String)) (extradata : Option Bytes)
    (extradataLen : UInt32) (b : VTRemoteWBuf)
    (hcount : options.length ≤ 65535)
    (hdistinct : options.Pairwise fun a b => canonical a.1 ≠ canonical b.1)
    (hlen : extradataLen.toNat = (extradata.getD []).length)
    (h : (vtremotePayloadConfigure width height pixFmt timeBaseNum timeBaseDen
      frNum frDen (options.map optionKV) options.length extradata extradataLen
      b).1 = 0) :
    exists request,
      ConfigureRequest.decode canonical
          (vtremotePayloadConfigure width height pixFmt timeBaseNum timeBaseDen
            frNum frDen (options.map optionKV) options.length extradata
            extradataLen b).2.contents = .ok request ∧
        request.width = width.toNat ∧
        request.height = height.toNat ∧
        request.pixelFormat = pixFmt ∧
        request.timebase =
          ⟨max 1 timeBaseNum.toNat, max 1 timeBaseDen.toNat⟩ ∧
        request.frameRate = (frNum.toNat, frDen.toNat) ∧
        request.options.entries = options ∧
        (forall key val, (key, val) ∈ options ->
          request.options.lookup key = some val) ∧
        request.extradata =
          (if (extradata.getD []).isEmpty then none
          else some (extradata.getD [])) := by
  have hmap : (options.map optionKV).length = options.length :=
    List.length_map _
  rw [<- hmap] at hcount h ⊢
  have hentries := assignAll_distinct OptionsDictionary.empty options hdistinct
  refine ⟨_, configureRequest_decode_payload canonical hcount hlen h, rfl, rfl,
    rfl, rfl, rfl, hentries, ?_, rfl⟩
  intro key val hmem
  apply OptionsDictionary.lookup_of_mem
  exact hentries.symm ▸ hmem

/-- Two options of an encoder session. -/
theorem configure_round_trip_mode :
    exists request,
      ConfigureRequest.decode id
          (vtremotePayloadConfigure 1920 1080 1 0 25 25 1
            ([("mode", "encode"), ("gop", "12")].map optionKV) 2 (some [7, 9]) 2
            (vtremoteWbufInit [])).2.contents = .ok request ∧
        request.timebase = ⟨1, 25⟩ ∧
        request.options.lookup "gop" = some "12" ∧
        request.extradata = some [7, 9] := by
  rcases configure_round_trip id 1920 1080 1 0 25 25 1
    [("mode", "encode"), ("gop", "12")] (some [7, 9]) 2 (vtremoteWbufInit [])
    (by decide) (by decide) rfl rfl
    with ⟨request, hdecode, _, _, _, htimebase, _, _, hlookup, hextradata⟩
  exact ⟨request, hdecode, htimebase, hlookup "gop" "12" (by decide),
    hextradata⟩

/-- The canonical form of strings in which only U+00E9 has a decomposition. -/
def decomposeAcute (string : String) : String :=
  String.ofList (string.toList.flatMap fun c =>
    if c = Char.ofNat 0xE9 then ['e', Char.ofNat 0x301] else [c])

/-- Keys that differ as bytes may be equal as Swift strings, and then the
second option replaces the value of the first. -/
theorem configure_equal_keys :
    ¬ forall (options : List (String × String)) (b : VTRemoteWBuf),
      options.length ≤ 65535 ->
      options.Pairwise (fun a b => utf8Data a.1 ≠ utf8Data b.1) ->
      (vtremotePayloadConfigure 16 16 1 1 25 25 1 (options.map optionKV)
        options.length none 0 b).1 = 0 ->
      exists request,
        ConfigureRequest.decode decomposeAcute
            (vtremotePayloadConfigure 16 16 1 1 25 25 1 (options.map optionKV)
              options.length none 0 b).2.contents = .ok request ∧
          (forall key val, (key, val) ∈ options ->
            request.options.lookup key = some val) := by
  intro h
  let options := [("\u00e9", "1"), ("e\u0301", "2")]
  have hput : (vtremotePayloadConfigure 16 16 1 1 25 25 1
      (options.map optionKV) 2 none 0 (vtremoteWbufInit [])).1 = 0 := rfl
  rcases h options (vtremoteWbufInit []) (by decide) (by decide) hput
    with ⟨request, hdecode, hlookup⟩
  have hcount : (options.map optionKV).length ≤ 65535 := by decide
  have hread := configureRequest_decode_payload decomposeAcute hcount rfl hput
  have hrequest := Except.ok.inj (hread.symm.trans hdecode)
  subst hrequest
  -- the first key finds the value of the second
  have hfirst := hlookup "\u00e9" "1" (by decide)
  have hsecond : (assignAll decomposeAcute OptionsDictionary.empty
      ((options.map optionKV).map VTRemoteKV.toWire)).lookup "\u00e9" =
      some "2" := by
    show (assignAll decomposeAcute OptionsDictionary.empty
      (([("\u00e9", "1"), ("e\u0301", "2")].map optionKV).map
        VTRemoteKV.toWire)).lookup "\u00e9" = some "2"
    rw [assignAll_cons, assignAll_cons]
    rfl
  have hclash := hfirst.symm.trans hsecond
  exact absurd hclash (by decide)

end VTRemote
