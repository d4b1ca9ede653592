import VTRemote.Client.Delivery
import VTRemote.Client.EncoderSteps

/-!
# The receiving loops end

Every round of the two receiving loops that does not end the loop has read a
message, so the bound of the loops never cuts them short.
-/

namespace VTRemote

attribute [local irreducible] cInt

section Fuel

variable {σ : Type}

/-- Every message that is read lowers the bound, and nothing raises it. -/
structure Link.Consumes (link : Link σ) : Prop where
  moves : link.Moves (fun fd fd' => link.left fd' ≤ link.left fd) (· = .pong)
  readMsg : forall {fd fd' : σ} {message : VTRemoteMsgHeader × Bytes},
    link.readMsg fd = .returned (.ok message) fd' -> link.left fd' < link.left fd
  readMsgNonblock : forall {fd fd' : σ} {message : VTRemoteMsgHeader × Bytes},
    link.readMsgNonblock fd = .returned (.ok message) fd' ->
      link.left fd' < link.left fd

theorem hostLink_consumes : hostLink.Consumes where
  moves :=
    { sendMsg := fun type payload _ => vtremoteSendMsg_readsOn type payload
      readMsg := vtremoteReadMsg_readsOn
      readMsgNonblock := vtremoteReadMsgNonblock_readsOn
      malloc := avMalloc_readsOn
      packetRef := avMalloc_readsOn }
  readMsg := vtremoteReadMsg_consumes
  readMsgNonblock := vtremoteReadMsgNonblock_consumes

variable {link : Link σ}

instance : IsPreorder σ (fun fd fd' => link.left fd' ≤ link.left fd) where
  refl _ := Nat.le_refl _
  trans _ _ _ h1 h2 := Nat.le_trans h2 h1

theorem onLink_eq_returned {α : Type} {m : Call AvError σ α}
    {s s' : VTRemoteEncContext σ} {r : Except AvError α}
    (h : onLink m s = .returned r s') : m s.fd = .returned r s'.fd := by
  rcases Call.zoom_eq_returned h with ⟨fd, hm, rfl⟩
  exact hm

theorem drainRound_consumes (hlink : link.Consumes)
    {s s' : VTRemoteEncContext σ}
    (h : drainRound link s = .returned (.ok none) s') :
    link.left s'.fd < link.left s.fd := by
  unfold drainRound at h
  rw [Call.get_bind] at h
  split at h
  · rcases Call.bind_eq_ok h with ⟨result, s1, hread, hnext⟩
    cases result with
    | error e =>
        simp only at hnext
        split at hnext
        · cases hnext
        · cases hnext
    | ok message =>
        have hfd := onLink_eq_returned (Call.attempt_eq_ok hread)
        have hlt := hlink.readMsgNonblock hfd
        have hnext' : drainMessage link message.1 message.2 s1 =
            .returned (.ok none) s' := hnext
        have hmoves := drainMessage_moves hlink.moves rfl message.1
          message.2 s1
        rw [hnext'] at hmoves
        exact Nat.lt_of_le_of_lt hmoves.1 hlt
  · cases h

theorem receiveRound_consumes (hlink : link.Consumes)
    {s s' : VTRemoteEncContext σ}
    (h : receiveRound link s = .returned (.ok none) s') :
    link.left s'.fd < link.left s.fd := by
  rcases Call.bind_eq_ok h with ⟨message, s1, hread, hnext⟩
  have hlt := hlink.readMsg (onLink_eq_returned hread)
  have hnext' : receiveMessage link message.1 message.2 s1 =
      .returned (.ok none) s' := hnext
  have hmoves := receiveMessage_moves hlink.moves rfl message.1 message.2 s1
  rw [hnext'] at hmoves
  exact Nat.lt_of_le_of_lt hmoves.1 hlt

theorem vtremoteDrainAvailablePackets_fuel (hlink : link.Consumes)
    {s : VTRemoteEncContext σ} {fuel : Nat} (hfuel : link.left s.fd < fuel) :
    vtremoteDrainAvailablePackets link s =
      Call.loop (drainRound link) fuel s := by
  unfold vtremoteDrainAvailablePackets
  rw [Call.get_bind]
  exact Call.loop_fuel (fun _ _ => drainRound_consumes hlink)
    (Nat.lt_succ_self _) hfuel

theorem ffVtremoteCommonReceivePacket_fuel (hlink : link.Consumes)
    {s : VTRemoteEncContext σ} {fuel : Nat} (hdone : s.done = false)
    (hempty : s.pktQueue.count = 0) (hfuel : link.left s.fd < fuel) :
    ffVtremoteCommonReceivePacket link s =
      Call.loop (receiveRound link) fuel s := by
  unfold ffVtremoteCommonReceivePacket
  rw [Call.get_bind, if_neg (by rw [hdone]; simp),
    if_neg (by rw [hempty]; exact Nat.lt_irrefl 0)]
  exact Call.loop_fuel (fun _ _ => receiveRound_consumes hlink)
    (Nat.lt_succ_self _) hfuel

end Fuel
end VTRemote
