import VTRemote.Formats.Grammar
import VTRemote.Proto.Payload
import VTRemote.Server.VideoToolboxCodecSession

/-!
# PACKET in both programs

The client's parser and the server's reading sequence succeed on exactly the
byte strings that the grammar decodes, and both writers produce encodings.
-/

namespace VTRemote

open Grammar Format

/-!
## The client's parser
-/

def Grammar.Packet.toView (p : Packet) : VTRemotePacketView :=
  { pts := p.pts.toInt64
    dts := p.dts.toInt64
    duration := p.duration.toInt64
    flags := p.flags
    data := p.data
    dataLen := UInt32.ofNat p.data.length }

theorem packetView_eq {r : VTRemoteRBuf} (h : r.WellFormed)
    {pts dts duration : UInt64} {flags count : UInt32} {rest : Bytes}
    (hahead : r.ahead = u64.encode pts ++ (u64.encode dts ++
      (u64.encode duration ++ (u32.encode flags ++
        (u32.encode count ++ rest))))) :
    (packetView r).map Prod.fst =
      if rest.length < count.toNat then .error (.returned averrorInvaliddata)
      else .ok
        { pts := pts.toInt64, dts := dts.toInt64
          duration := duration.toInt64, flags := flags
          data := rest.take count.toNat, dataLen := count } := by
  rcases vtremoteRbufReadU64_follows.read_encode h hahead
    with ⟨r1, hread1, h1, hahead1⟩
  rcases vtremoteRbufReadU64_follows.read_encode h1 hahead1
    with ⟨r2, hread2, h2, hahead2⟩
  rcases vtremoteRbufReadU64_follows.read_encode h2 hahead2
    with ⟨r3, hread3, h3, hahead3⟩
  rcases vtremoteRbufReadU32_follows.read_encode h3 hahead3
    with ⟨r4, hread4, h4, hahead4⟩
  rcases vtremoteRbufReadU32_follows.read_encode h4 hahead4
    with ⟨r5, hread5, h5, hahead5⟩
  have hpeek := rbufPeek_eq h5 count
  rw [hahead5] at hpeek
  unfold packetView
  rw [bind_of_ok hread1, bind_of_ok hread2, bind_of_ok hread3,
    bind_of_ok hread4, bind_of_ok hread5]
  by_cases hshort : rest.length < count.toNat
  · rw [if_pos hshort] at hpeek ⊢
    rw [bind_of_error hpeek]
    rfl
  · rw [if_neg hshort] at hpeek ⊢
    rw [bind_of_ok hpeek]
    rfl

theorem vtremoteParsePacket_of_decode {payload : Bytes} {p : Packet}
    {rest : Bytes} (hmax : (payload.length : Int) ≤ intMax)
    (h : Packet.decode payload = some (p, rest)) :
    vtremoteParsePacket payload payload.length = .ok p.toView := by
  rcases Decoder.bind_eq_some.mp h with ⟨pts, m1, h1, h⟩
  rcases Decoder.bind_eq_some.mp h with ⟨dts, m2, h2, h⟩
  rcases Decoder.bind_eq_some.mp h with ⟨duration, m3, h3, h⟩
  rcases Decoder.bind_eq_some.mp h with ⟨flags, m4, h4, h⟩
  rcases Decoder.bind_eq_some.mp h with ⟨data, m5, h5, h⟩
  cases h
  rcases blobDecoder_eq_some h5 with ⟨hdata, hm4⟩
  have hpayload : payload = u64.encode pts ++ (u64.encode dts ++
      (u64.encode duration ++ (u32.encode flags ++
        (u32.encode (UInt32.ofNat data.length) ++ (data ++ rest))))) := by
    rw [u64.encode_decode _ _ _ h1, u64.encode_decode _ _ _ h2,
      u64.encode_decode _ _ _ h3, u32.encode_decode _ _ _ h4, hm4,
      List.append_assoc]
    rfl
  have hlong : 32 ≤ payload.length := by
    rw [hpayload]
    simp [u64, u32]
    omega
  have hcount : (UInt32.ofNat data.length).toNat = data.length :=
    UInt32.toNat_ofNat_of_lt' hdata
  have hview := packetView_eq (VTRemoteRBuf.wellFormed_init hmax) hpayload
  unfold vtremoteParsePacket
  rw [if_neg (by omega), hview, hcount, List.take_left, if_neg (by simp)]
  rfl

theorem vtremoteParsePacket_of_decode_none {payload : Bytes}
    (hmax : (payload.length : Int) ≤ intMax)
    (h : Packet.decode payload = none) :
    exists e, vtremoteParsePacket payload payload.length =
      .error (.returned e) := by
  unfold vtremoteParsePacket
  by_cases hlong : 8 + (8 + (8 + (4 + (4 + 0)))) ≤ payload.length
  · rcases u64_split hlong with ⟨pts, m1, h1, hl1⟩
    rcases u64_split hl1 with ⟨dts, m2, h2, hl2⟩
    rcases u64_split hl2 with ⟨duration, m3, h3, hl3⟩
    rcases u32_split hl3 with ⟨flags, m4, h4, hl4⟩
    rcases u32_split hl4 with ⟨count, rest, h5, _⟩
    subst h5 h4 h3 h2
    have hview := packetView_eq (VTRemoteRBuf.wellFormed_init hmax) h1
    rw [if_neg (by omega), hview]
    by_cases hshort : rest.length < count.toNat
    · exact ⟨averrorInvaliddata, if_pos hshort⟩
    · -- the grammar would have decoded such a payload
      have htake : Decoder.take count.toNat rest =
          some (rest.take count.toNat, rest.drop count.toNat) := by
        exact if_pos (Nat.not_lt.mp hshort)
      unfold Packet.decode at h
      rw [h1, Decoder.bind_of_some _ (u64.decode_encode pts _),
        Decoder.bind_of_some _ (u64.decode_encode dts _),
        Decoder.bind_of_some _ (u64.decode_encode duration _),
        Decoder.bind_of_some _ (u32.decode_encode flags _),
        blobDecoder_count32, bind_assoc,
        Decoder.bind_of_some _ (u32.decode_encode count _),
        Decoder.bind_of_some _ htake] at h
      cases h
  · exact ⟨averror einval, if_pos (by omega)⟩

/-!
## The server's reading sequence
-/

def Grammar.Packet.toMessage (p : Packet) : PacketMessage :=
  { ptsTicks := p.pts.toInt64
    dtsTicks := p.dts.toInt64
    durTicks := p.duration.toInt64
    flags := p.flags
    annexB := p.data }

open ByteReader in
theorem readPacketMessage_follows :
    SwiftFollows readPacketMessage (Packet.toMessage <$> Packet.decode) := by
  unfold readPacketMessage Packet.decode
  simp only [map_bind, map_pure, blobDecoder_count32, bind_assoc]
  apply Follows.bind readBEUInt64_follows
  intro pts
  apply Follows.bind readBEUInt64_follows
  intro dts
  apply Follows.bind readBEUInt64_follows
  intro duration
  apply Follows.bind readBEUInt32_follows
  intro flags
  apply Follows.bind readBEUInt32_follows
  intro count
  rw [readBytes_natCast]
  apply Follows.bind (consume_follows count.toNat)
  intro data
  exact Follows.pure _

open ByteReader in
theorem readPacketMessage_refuses :
    SwiftRefuses readPacketMessage (Packet.toMessage <$> Packet.decode) := by
  unfold readPacketMessage Packet.decode
  simp only [map_bind, map_pure, blobDecoder_count32, bind_assoc]
  apply Refuses.bind readBEUInt64_follows readBEUInt64_refuses
  intro pts
  apply Refuses.bind readBEUInt64_follows readBEUInt64_refuses
  intro dts
  apply Refuses.bind readBEUInt64_follows readBEUInt64_refuses
  intro duration
  apply Refuses.bind readBEUInt32_follows readBEUInt32_refuses
  intro flags
  apply Refuses.bind readBEUInt32_follows readBEUInt32_refuses
  intro count
  rw [readBytes_natCast]
  apply Refuses.bind (consume_follows count.toNat)
    (consume_refuses count.toNat)
  intro data
  exact Refuses.pure _

/-!
## The writers
-/

theorem vtremotePayloadPacket_encode {pts dts duration : Int64}
    {flags : UInt32} {data : Option Bytes} {dataLen : UInt32}
    {b : VTRemoteWBuf} (hlen : dataLen.toNat = (data.getD []).length)
    (h : (vtremotePayloadPacket pts dts duration flags data dataLen b).1 = 0) :
    (vtremotePayloadPacket pts dts duration flags data dataLen b).2.contents =
      Packet.encode
        { pts := pts.toUInt64, dts := dts.toUInt64
          duration := duration.toUInt64, flags := flags
          data := data.getD [] } := by
  have hfixed :=
    ((((vtremoteWbufPutU64_appends pts.toUInt64).orThen
      (vtremoteWbufPutU64_appends dts.toUInt64)).orThen
      (vtremoteWbufPutU64_appends duration.toUInt64)).orThen
      (vtremoteWbufPutU32_appends flags)).orThen
      (vtremoteWbufPutU32_appends dataLen)
  have hput := (hfixed.orReturn (putIfAny_appends hlen)).contents_of_reset h
  have hcount : UInt32.ofNat (data.getD []).length = dataLen := by
    rw [<- hlen]
    exact UInt32.ofNat_toNat
  have hbytes : (vtremotePayloadPacket pts dts duration flags data dataLen
      b).2.contents = _ := hput.2
  rw [hbytes]
  unfold Packet.encode blob32
  rw [hcount, List.append_assoc]
  rfl

theorem encodedSampleMessage_encode {ptsTicks dtsTicks durTicks : Int64}
    {isKey : Bool} {annex payload : List UInt8}
    (h : encodedSampleMessage ptsTicks dtsTicks durTicks isKey annex =
      .ok payload) :
    annex.length < 2 ^ 32 ∧
      payload = Packet.encode
        { pts := ptsTicks.toUInt64, dts := dtsTicks.toUInt64
          duration := durTicks.toUInt64, flags := if isKey then 1 else 0
          data := annex } := by
  unfold encodedSampleMessage at h
  cases hcount : swiftUInt32 annex.length with
  | error e =>
      rw [hcount] at h
      cases h
  | ok count =>
      rcases swiftUInt32_eq_ok hcount with ⟨hlen, hcount'⟩
      rw [hcount] at h
      cases h
      refine ⟨hlen, ?_⟩
      simp [ByteWriter.writeBE64, ByteWriter.writeBE32, ByteWriter.write,
        Packet.encode, blob32, hcount']
      rfl

/-- The server has a message for every sample whose length fits into its field. -/
theorem encodedSampleMessage_isOk_iff (ptsTicks dtsTicks durTicks : Int64)
    (isKey : Bool) (annex : List UInt8) :
    (exists payload, encodedSampleMessage ptsTicks dtsTicks durTicks isKey annex =
      .ok payload) <-> annex.length < 2 ^ 32 := by
  constructor
  · intro h
    rcases h with ⟨payload, hpayload⟩
    exact (encodedSampleMessage_encode hpayload).1
  · intro hlen
    unfold encodedSampleMessage
    rw [swiftUInt32_of_le (Nat.le_of_lt_succ hlen)]
    exact ⟨_, rfl⟩

/-!
## Agreement
-/

/-- On every payload, either both parsers fail or both succeed, and then with
the packet that the grammar decodes. -/
theorem packet_parsers_cases {payload : Bytes}
    (hmax : (payload.length : Int) ≤ intMax) :
    (exists (p : Packet) (r : ByteReader),
        vtremoteParsePacket payload payload.length = .ok p.toView ∧
        readPacketMessage (ByteReader.init payload) = .ok (p.toMessage, r)) ∨
      (exists e e',
        vtremoteParsePacket payload payload.length = .error (.returned e) ∧
        readPacketMessage (ByteReader.init payload) = .error e') := by
  cases hd : Packet.decode payload with
  | none =>
      right
      rcases vtremoteParsePacket_of_decode_none hmax hd with ⟨e, he⟩
      rcases SwiftRefuses.read_init readPacketMessage_refuses hd with ⟨e', he'⟩
      exact ⟨e, e', he, he'⟩
  | some d =>
      rcases d with ⟨p, rest⟩
      left
      rcases SwiftFollows.read_init readPacketMessage_follows hd
        with ⟨r, hread, _⟩
      exact ⟨p, r, vtremoteParsePacket_of_decode hmax hd, hread⟩

theorem packet_parsers_encode {p : Packet} (hdata : p.data.length < 2 ^ 32) :
    (exists r, readPacketMessage (ByteReader.init p.encode) =
        .ok (p.toMessage, r)) ∧
      ((p.encode.length : Int) ≤ intMax ->
        vtremoteParsePacket p.encode p.encode.length = .ok p.toView) := by
  have hd := Packet.decode_encode hdata []
  rw [List.append_nil] at hd
  constructor
  · rcases SwiftFollows.read_init readPacketMessage_follows hd
      with ⟨r, hread, _⟩
    exact ⟨r, hread⟩
  · intro hmax
    exact vtremoteParsePacket_of_decode hmax hd

/-- The client's parser and the server's reading sequence accept the same
payloads, read the same values, and undo both writers. -/
theorem packet_parsers_agree :
    (forall payload : Bytes, (payload.length : Int) ≤ intMax ->
      ((exists v, vtremoteParsePacket payload payload.length = .ok v) <->
        exists m r, readPacketMessage (ByteReader.init payload) = .ok (m, r)) ∧
      (forall v m r, vtremoteParsePacket payload payload.length = .ok v ->
        readPacketMessage (ByteReader.init payload) = .ok (m, r) ->
        v.pts = m.ptsTicks ∧ v.dts = m.dtsTicks ∧ v.duration = m.durTicks ∧
          v.data = m.annexB)) ∧
    (forall (pts dts duration : Int64) (flags : UInt32) (data : Option Bytes)
        (dataLen : UInt32) (b : VTRemoteWBuf),
      dataLen.toNat = (data.getD []).length ->
      (vtremotePayloadPacket pts dts duration flags data dataLen b).1 = 0 ->
      let payload :=
        (vtremotePayloadPacket pts dts duration flags data dataLen b).2.contents
      vtremoteParsePacket payload payload.length =
          .ok ⟨pts, dts, duration, flags, data.getD [], dataLen⟩ ∧
        exists r, readPacketMessage (ByteReader.init payload) =
          .ok (⟨pts, dts, duration, flags, data.getD []⟩, r)) ∧
    (forall (pts dts duration : Int64) (isKey : Bool) (annex payload : Bytes),
      encodedSampleMessage pts dts duration isKey annex = .ok payload ->
      ((payload.length : Int) ≤ intMax ->
        vtremoteParsePacket payload payload.length =
          .ok ⟨pts, dts, duration, if isKey then 1 else 0, annex,
            UInt32.ofNat annex.length⟩) ∧
      exists r, readPacketMessage (ByteReader.init payload) =
        .ok (⟨pts, dts, duration, if isKey then 1 else 0, annex⟩, r)) := by
  refine ⟨?_, ?_, ?_⟩
  · intro payload hmax
    rcases packet_parsers_cases hmax with
      ⟨p, r, hview, hread⟩ | ⟨e, e', hview, hread⟩
    · constructor
      · exact ⟨fun _ => ⟨_, _, hread⟩, fun _ => ⟨_, hview⟩⟩
      · intro v m r' hv hm
        rw [hview] at hv
        rw [hread] at hm
        cases hv
        cases hm
        exact ⟨rfl, rfl, rfl, rfl⟩
    · constructor
      · constructor
        · intro h
          rcases h with ⟨v, hv⟩
          rw [hview] at hv
          cases hv
        · intro h
          rcases h with ⟨m, r, hm⟩
          rw [hread] at hm
          cases hm
      · intro v m r hv
        rw [hview] at hv
        cases hv
  · intro pts dts duration flags data dataLen b hlen h
    have hdata : (data.getD []).length < 2 ^ 32 := by
      rw [<- hlen]
      exact dataLen.toNat_lt
    have hmax := (vtremotePayloadPacket pts dts duration flags data dataLen
      b).2.contents_length_le
    have hcount : UInt32.ofNat (data.getD []).length = dataLen := by
      rw [<- hlen]
      exact UInt32.ofNat_toNat
    intro payload
    have hpayload : payload = _ := vtremotePayloadPacket_encode hlen h
    have hle : (payload.length : Int) ≤ intMax := by
      show (payload.length : Int) ≤ 2147483647
      exact_mod_cast hmax
    rw [hpayload] at hle ⊢
    rcases packet_parsers_encode (p := ⟨pts.toUInt64, dts.toUInt64,
      duration.toUInt64, flags, data.getD []⟩) hdata with ⟨⟨r, hread⟩, hview⟩
    constructor
    · rw [hview hle]
      simp [Packet.toView, hcount]
    · exact ⟨r, by rw [hread]; simp [Packet.toMessage]⟩
  · intro pts dts duration isKey annex payload h
    rcases encodedSampleMessage_encode h with ⟨hdata, hpayload⟩
    rcases packet_parsers_encode (p := ⟨pts.toUInt64, dts.toUInt64,
      duration.toUInt64, if isKey then 1 else 0, annex⟩) hdata
      with ⟨⟨r, hread⟩, hview⟩
    rw [hpayload]
    constructor
    · intro hle
      rw [hview hle]
      simp [Packet.toView]
    · exact ⟨r, by rw [hread]; simp [Packet.toMessage]⟩

/-- A key packet, from the client and from the server. -/
theorem packet_parsers_agree_key :
    (exists payload r,
      (vtremotePayloadPacket 3 2 1 1 (some [0, 0, 1]) 3
        (vtremoteWbufInit [])).2.contents = payload ∧
      vtremoteParsePacket payload payload.length = .ok ⟨3, 2, 1, 1, [0, 0, 1], 3⟩ ∧
      readPacketMessage (ByteReader.init payload) =
        .ok (⟨3, 2, 1, 1, [0, 0, 1]⟩, r)) ∧
    (exists payload r, encodedSampleMessage 3 2 1 true [0, 0, 1] = .ok payload ∧
      vtremoteParsePacket payload payload.length = .ok ⟨3, 2, 1, 1, [0, 0, 1], 3⟩ ∧
      readPacketMessage (ByteReader.init payload) =
        .ok (⟨3, 2, 1, 1, [0, 0, 1]⟩, r)) := by
  rcases packet_parsers_agree.2.1 3 2 1 1 (some [0, 0, 1]) 3 (vtremoteWbufInit [])
    rfl rfl with ⟨hclient, r, hread⟩
  rcases (encodedSampleMessage_isOk_iff 3 2 1 true [0, 0, 1]).mpr (by decide) with
    ⟨payload, hpayload⟩
  have hlen : (payload.length : Int) ≤ intMax := by
    rw [(encodedSampleMessage_encode hpayload).2]
    decide
  rcases packet_parsers_agree.2.2 3 2 1 true [0, 0, 1] payload hpayload with
    ⟨hserver, r', hread'⟩
  exact ⟨⟨_, r, rfl, hclient, hread⟩, payload, r', hpayload, hserver hlen, hread'⟩

end VTRemote
