import VTRemote.Proto.Error
import VTRemote.Library.Format

/-!
# Message headers

The fixed 12-byte header of `vtremote_proto.h` and the message types.
-/

namespace VTRemote

def vtremoteProtoMagic : UInt32 := 0x56545231

def vtremoteProtoVersion : UInt16 := 1

def vtremoteHeaderSize : Nat := 12

inductive VTRemoteMsgType where
  | hello
  | helloAck
  | configure
  | configureAck
  | frame
  | packet
  | flush
  | done
  | error
  | ping
  | pong
deriving DecidableEq, Repr

def VTRemoteMsgType.code : VTRemoteMsgType -> UInt16
  | hello => 1
  | helloAck => 2
  | configure => 3
  | configureAck => 4
  | frame => 5
  | packet => 6
  | flush => 7
  | done => 8
  | error => 9
  | ping => 10
  | pong => 11

/-- The message type of a code, for the branches of a `switch`. -/
def VTRemoteMsgType.ofCode : UInt16 -> Option VTRemoteMsgType
  | 1 => some hello
  | 2 => some helloAck
  | 3 => some configure
  | 4 => some configureAck
  | 5 => some frame
  | 6 => some packet
  | 7 => some flush
  | 8 => some done
  | 9 => some error
  | 10 => some ping
  | 11 => some pong
  | _ => none

@[simp] theorem VTRemoteMsgType.ofCode_code (t : VTRemoteMsgType) :
    ofCode t.code = some t := by
  cases t <;> rfl

structure VTRemoteMsgHeader where
  magic : UInt32
  version : UInt16
  type : UInt16
  length : UInt32
deriving DecidableEq, Repr

/-- The bytes written to a destination that has room for a header. -/
def vtremoteWriteHeader (hdr : VTRemoteMsgHeader) : List UInt8 :=
  BigEndian.store32 hdr.magic ++ BigEndian.store16 hdr.version ++
    BigEndian.store16 hdr.type ++ BigEndian.store32 hdr.length

def vtremoteReadHeader : List UInt8 -> Except AvError VTRemoteMsgHeader
  | b0 :: b1 :: b2 :: b3 :: b4 :: b5 :: b6 :: b7 :: b8 :: b9 :: b10 :: b11 :: _ =>
      let out :=
        { magic := BigEndian.load32 b0 b1 b2 b3
          version := BigEndian.load16 b4 b5
          type := BigEndian.load16 b6 b7
          length := BigEndian.load32 b8 b9 b10 b11 : VTRemoteMsgHeader }
      if out.magic ≠ vtremoteProtoMagic then .error averrorInvaliddata
      else if out.version ≠ vtremoteProtoVersion then .error averrorInvaliddata
      else .ok out
  | _ => .error (averror einval)

@[simp] theorem vtremoteWriteHeader_length (hdr : VTRemoteMsgHeader) :
    (vtremoteWriteHeader hdr).length = vtremoteHeaderSize := rfl

theorem vtremoteReadHeader_write {hdr : VTRemoteMsgHeader}
    (hmagic : hdr.magic = vtremoteProtoMagic)
    (hversion : hdr.version = vtremoteProtoVersion) :
    vtremoteReadHeader (vtremoteWriteHeader hdr) = .ok hdr := by
  cases hdr with
  | mk magic version type length =>
      simp only at hmagic hversion
      subst hmagic hversion
      simp only [vtremoteWriteHeader, vtremoteReadHeader, BigEndian.store32,
        BigEndian.store16, List.cons_append, List.nil_append,
        Format.load32_store32, Format.load16_store16]
      simp

end VTRemote
