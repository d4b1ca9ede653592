import VTRemote.Library.Format

/-!
# Message grammars

What the payloads of PACKET, FRAME and CONFIGURE messages are, apart from either program:
the values that they carry, the bytes that stand for them, and a decoder.
The writers and parsers of the client and of the server are measured against
these.
-/

namespace VTRemote
namespace Grammar

open Format

/-!
## Counted bytes
-/

def blob32 (data : List UInt8) : List UInt8 :=
  u32.encode (UInt32.ofNat data.length) ++ data

theorem blob32_decode {data : List UInt8} (h : data.length < 2 ^ 32)
    (rest : List UInt8) :
    blobDecoder count32 (blob32 data ++ rest) = some (data, rest) :=
  blobDecoder_append count32 rest h

def blob16 (data : List UInt8) : List UInt8 :=
  u16.encode (UInt16.ofNat data.length) ++ data

theorem blob16_decode {data : List UInt8} (h : data.length < 2 ^ 16)
    (rest : List UInt8) :
    blobDecoder count16 (blob16 data ++ rest) = some (data, rest) :=
  blobDecoder_append count16 rest h

/-!
## PACKET
-/

structure Packet where
  pts : UInt64
  dts : UInt64
  duration : UInt64
  flags : UInt32
  data : List UInt8
deriving DecidableEq, Repr

namespace Packet

def encode (p : Packet) : List UInt8 :=
  u64.encode p.pts ++ u64.encode p.dts ++
    u64.encode p.duration ++ u32.encode p.flags ++ blob32 p.data

def decode : Decoder Packet := do
  let pts ← u64.decode
  let dts ← u64.decode
  let duration ← u64.decode
  let flags ← u32.decode
  let data ← blobDecoder count32
  pure { pts, dts, duration, flags, data }

theorem decode_encode {p : Packet} (h : p.data.length < 2 ^ 32)
    (rest : List UInt8) : decode (p.encode ++ rest) = some (p, rest) := by
  unfold decode encode
  simp only [List.append_assoc]
  rw [Decoder.bind_of_some _ (u64.decode_encode p.pts _),
    Decoder.bind_of_some _ (u64.decode_encode p.dts _),
    Decoder.bind_of_some _ (u64.decode_encode p.duration _),
    Decoder.bind_of_some _ (u32.decode_encode p.flags _),
    Decoder.bind_of_some _ (blob32_decode h rest)]
  rfl

end Packet

/-!
## FRAME
-/

structure Plane where
  stride : UInt32
  height : UInt32
  data : List UInt8
deriving DecidableEq, Repr

namespace Plane

def encode (p : Plane) : List UInt8 :=
  u32.encode p.stride ++ u32.encode p.height ++ blob32 p.data

def decode : Decoder Plane := do
  let stride ← u32.decode
  let height ← u32.decode
  let data ← blobDecoder count32
  pure { stride, height, data }

theorem decode_encode {p : Plane} (h : p.data.length < 2 ^ 32)
    (rest : List UInt8) : decode (p.encode ++ rest) = some (p, rest) := by
  unfold decode encode
  simp only [List.append_assoc]
  rw [Decoder.bind_of_some _ (u32.decode_encode p.stride _),
    Decoder.bind_of_some _ (u32.decode_encode p.height _),
    Decoder.bind_of_some _ (blob32_decode h rest)]
  rfl

end Plane

structure SideData where
  type : UInt32
  data : List UInt8
deriving DecidableEq, Repr

namespace SideData

def encode (sd : SideData) : List UInt8 :=
  u32.encode sd.type ++ blob32 sd.data

def decode : Decoder SideData := do
  let type ← u32.decode
  let data ← blobDecoder count32
  pure { type, data }

theorem decode_encode {sd : SideData} (h : sd.data.length < 2 ^ 32)
    (rest : List UInt8) : decode (sd.encode ++ rest) = some (sd, rest) := by
  unfold decode encode
  rw [List.append_assoc, Decoder.bind_of_some _ (u32.decode_encode sd.type _),
    Decoder.bind_of_some _ (blob32_decode h rest)]
  rfl

end SideData

structure Frame where
  pts : UInt64
  duration : UInt64
  flags : UInt32
  planes : List Plane
  sideData : List SideData
deriving DecidableEq, Repr

namespace Frame

/-- The trailing section is there only if it has entries. -/
def encodeSideData (entries : List SideData) : List UInt8 :=
  if entries.isEmpty then []
  else u8.encode (UInt8.ofNat entries.length) ++ entries.flatMap SideData.encode

def encode (f : Frame) : List UInt8 :=
  u64.encode f.pts ++ u64.encode f.duration ++
    u32.encode f.flags ++ u8.encode (UInt8.ofNat f.planes.length) ++
    f.planes.flatMap Plane.encode ++ encodeSideData f.sideData

/-- Counts and lengths fit the words that announce them. -/
structure Fits (f : Frame) : Prop where
  planes : f.planes.length < 2 ^ 8
  sideData : f.sideData.length < 2 ^ 8
  planeData : forall p, p ∈ f.planes -> p.data.length < 2 ^ 32
  sideDataData : forall sd, sd ∈ f.sideData -> sd.data.length < 2 ^ 32

def decodeSideData : Decoder (List SideData) :=
  Decoder.ifAny [] do
    let count ← u8.decode
    Decoder.times SideData.decode count.toNat

/-- Readers differ in the plane counts that they accept. -/
def decode (accept : UInt8 -> Bool) : Decoder Frame := do
  let pts ← u64.decode
  let duration ← u64.decode
  let flags ← u32.decode
  let count ← u8.decode
  Decoder.require (accept count)
  let planes ← Decoder.times Plane.decode count.toNat
  let sideData ← decodeSideData
  pure { pts, duration, flags, planes, sideData }

theorem decodeSideData_encode {entries : List SideData}
    (hcount : entries.length < 2 ^ 8)
    (hdata : forall sd, sd ∈ entries -> sd.data.length < 2 ^ 32) :
    decodeSideData (encodeSideData entries) = some (entries, []) := by
  cases entries with
  | nil => rfl
  | cons sd rest =>
      have hn : (UInt8.ofNat (sd :: rest).length).toNat =
          (sd :: rest).length :=
        UInt8.toNat_ofNat_of_lt' hcount
      have hall := Decoder.times_flatMap SideData.encode
        (sd :: rest) (fun x hx tail => SideData.decode_encode (hdata x hx) tail)
        []
      rw [List.append_nil] at hall
      show (u8.decode >>= _) (u8.encode (UInt8.ofNat (sd :: rest).length) ++ _) = _
      rw [Decoder.bind_of_some _ (u8.decode_encode _ _), hn, hall]

theorem decode_planes {f : Frame} (h : f.Fits) {accept : UInt8 -> Bool}
    (haccept : accept (UInt8.ofNat f.planes.length) = true)
    {tail rest : List UInt8}
    (hside : decodeSideData tail = some (f.sideData, rest)) :
    decode accept
      (u64.encode f.pts ++ u64.encode f.duration ++ u32.encode f.flags ++
        u8.encode (UInt8.ofNat f.planes.length) ++
        f.planes.flatMap Plane.encode ++ tail) = some (f, rest) := by
  have hn : (UInt8.ofNat f.planes.length).toNat = f.planes.length :=
    UInt8.toNat_ofNat_of_lt' h.planes
  have hrequire : forall bytes,
      Decoder.require (accept (UInt8.ofNat f.planes.length)) bytes =
        some ((), bytes) := by
    intro bytes
    exact if_pos haccept
  have hplanes := Decoder.times_flatMap Plane.encode f.planes
    (fun p hp rest => Plane.decode_encode (h.planeData p hp) rest) tail
  unfold decode
  simp only [List.append_assoc]
  rw [Decoder.bind_of_some _ (u64.decode_encode f.pts _),
    Decoder.bind_of_some _ (u64.decode_encode f.duration _),
    Decoder.bind_of_some _ (u32.decode_encode f.flags _),
    Decoder.bind_of_some _ (u8.decode_encode (UInt8.ofNat f.planes.length) _),
    Decoder.bind_of_some _ (hrequire _), hn,
    Decoder.bind_of_some _ hplanes, Decoder.bind_of_some _ hside]
  rfl

theorem decode_encode {f : Frame} (h : f.Fits) (accept : UInt8 -> Bool)
    (haccept : accept (UInt8.ofNat f.planes.length) = true) :
    decode accept f.encode = some (f, []) :=
  decode_planes h haccept (decodeSideData_encode h.sideData h.sideDataData)

end Frame

/-!
## CONFIGURE
-/

structure KeyValue where
  key : List UInt8
  value : List UInt8
deriving DecidableEq, Repr

namespace KeyValue

def encode (kv : KeyValue) : List UInt8 := blob16 kv.key ++ blob16 kv.value

def decode : Decoder KeyValue := do
  let key ← blobDecoder count16
  let value ← blobDecoder count16
  pure { key, value }

structure Fits (kv : KeyValue) : Prop where
  key : kv.key.length < 2 ^ 16
  value : kv.value.length < 2 ^ 16

theorem decode_encode {kv : KeyValue} (h : kv.Fits) (rest : List UInt8) :
    decode (kv.encode ++ rest) = some (kv, rest) := by
  unfold decode encode
  rw [List.append_assoc, Decoder.bind_of_some _ (blob16_decode h.key _),
    Decoder.bind_of_some _ (blob16_decode h.value rest)]
  rfl

end KeyValue

structure Configure where
  width : UInt32
  height : UInt32
  pixFmt : UInt8
  timeBaseNum : UInt32
  timeBaseDen : UInt32
  frNum : UInt32
  frDen : UInt32
  options : List KeyValue
  extradata : List UInt8
deriving DecidableEq, Repr

namespace Configure

def encode (c : Configure) : List UInt8 :=
  u32.encode c.width ++ u32.encode c.height ++ u8.encode c.pixFmt ++
    u32.encode c.timeBaseNum ++ u32.encode c.timeBaseDen ++
    u32.encode c.frNum ++ u32.encode c.frDen ++
    u16.encode (UInt16.ofNat c.options.length) ++
    c.options.flatMap KeyValue.encode ++ blob32 c.extradata

def decode : Decoder Configure := do
  let width ← u32.decode
  let height ← u32.decode
  let pixFmt ← u8.decode
  let timeBaseNum ← u32.decode
  let timeBaseDen ← u32.decode
  let frNum ← u32.decode
  let frDen ← u32.decode
  let count ← u16.decode
  let options ← Decoder.times KeyValue.decode count.toNat
  let extradata ← blobDecoder count32
  pure
    { width, height, pixFmt, timeBaseNum, timeBaseDen, frNum, frDen,
      options, extradata }

structure Fits (c : Configure) : Prop where
  options : c.options.length < 2 ^ 16
  option : forall kv, kv ∈ c.options -> kv.Fits
  extradata : c.extradata.length < 2 ^ 32

theorem decode_encode {c : Configure} (h : c.Fits) (rest : List UInt8) :
    decode (c.encode ++ rest) = some (c, rest) := by
  have hn : (UInt16.ofNat c.options.length).toNat = c.options.length :=
    UInt16.toNat_ofNat_of_lt' h.options
  have hoptions := Decoder.times_flatMap KeyValue.encode c.options
    (fun kv hkv tail => KeyValue.decode_encode (h.option kv hkv) tail)
    (blob32 c.extradata ++ rest)
  unfold decode encode
  simp only [List.append_assoc]
  rw [Decoder.bind_of_some _ (u32.decode_encode c.width _),
    Decoder.bind_of_some _ (u32.decode_encode c.height _),
    Decoder.bind_of_some _ (u8.decode_encode c.pixFmt _),
    Decoder.bind_of_some _ (u32.decode_encode c.timeBaseNum _),
    Decoder.bind_of_some _ (u32.decode_encode c.timeBaseDen _),
    Decoder.bind_of_some _ (u32.decode_encode c.frNum _),
    Decoder.bind_of_some _ (u32.decode_encode c.frDen _),
    Decoder.bind_of_some _ (u16.decode_encode (UInt16.ofNat _) _), hn,
    Decoder.bind_of_some _ hoptions,
    Decoder.bind_of_some _ (blob32_decode h.extradata rest)]
  rfl

end Configure
end Grammar
end VTRemote
