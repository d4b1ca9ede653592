import VTRemote.Client.WorkingHost
import VTRemote.Client.EncoderSteps

/-!
# What the server sends to an encoder client

A stream of PACKET and PING messages that ends with DONE, after which the server
closes the connection.
-/

namespace VTRemote

structure ServerPacket where
  payload : Payload
  view : VTRemotePacketView
  parsed : vtremoteParsePacket payload.bytes payload.bytes.length = .ok view
  allocatable : view.Allocatable

inductive ServerMessage where
  | packet (message : ServerPacket)
  | ping (payload : Payload)

namespace ServerMessage

def wire : ServerMessage -> Bytes
  | packet message => wireMessage .packet message.payload
  | ping payload => wireMessage .ping payload

def packets : List ServerMessage -> List AVPacket
  | [] => []
  | packet message :: rest => message.view.described :: packets rest
  | ping _ :: rest => packets rest

end ServerMessage

/-- The messages, DONE, and the end of the connection. -/
def serverStream : List ServerMessage -> List (Atom Errno)
  | [] => (wireMessage .done Payload.empty).map .byte ++ [.eof]
  | message :: rest => message.wire.map .byte ++ serverStream rest

theorem fail_not_mem_serverStream (e : Errno) (messages : List ServerMessage) :
    .fail e ∉ serverStream messages := by
  induction messages with
  | nil =>
      intro hmem
      unfold serverStream at hmem
      simp at hmem
  | cons message rest ih =>
      intro hmem
      unfold serverStream at hmem
      rcases List.mem_append.mp hmem with hmem | hmem
      · simp at hmem
      · exact ih hmem

theorem serverStream_ne_nil (messages : List ServerMessage) :
    serverStream messages ≠ [] := by
  cases messages with
  | nil =>
      intro h
      cases h
  | cons message rest =>
      cases message with
      | packet message =>
          intro h
          cases h
      | ping payload =>
          intro h
          cases h

end VTRemote
