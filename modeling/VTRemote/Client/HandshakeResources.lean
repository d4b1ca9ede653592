import Mathlib.Data.Finset.Card
import VTRemote.Client.SessionHandshake

/-!
# What a client leaves behind

Every descriptor that a client opens is closed once, whatever the socket, the
resolver and the allocator answer.  Of the options of CONFIGURE one string may be left,
and only behind an error.
-/

namespace VTRemote

attribute [local irreducible] cInt

variable {σ β : Type}

/-!
## Options
-/

def InitContext.shell (s : InitContext σ) : SocketTable × Int × Bool × Nat × Int :=
  (s.sockets, s.fd, s.connected, s.wildFrees, s.netUsers)

def OptionArray.blocks (a : OptionArray) : List Nat :=
  a.entries.map OptionEntry.block ++ a.block.toList

def InitContext.Keeps (s : InitContext σ) (blocks : List Nat) : Prop :=
  s.strings.Owns (s.opts.blocks ++ blocks)

def HandshakeLink.Grants (link : HandshakeLink σ) : Prop :=
  forall s, (link.malloc s).Ends (fun r _ => r = .ok ()) (fun _ => False)

theorem onSocket_shell {α : Type} (m : Call AvError σ α) (s : InitContext σ) :
    (onSocket m s).Ends (fun r s' => (exists socket, m s.socket = .returned r socket) ∧
        s'.shell = s.shell ∧ s'.strings = s.strings ∧ s'.opts = s.opts)
      (fun s' => s'.shell = s.shell) := by
  apply Call.ends_zoom
  cases hm : m s.socket with
  | returned r socket => exact ⟨⟨socket, rfl⟩, rfl, rfl, rfl⟩
  | blocked socket => rfl

theorem InitContext.Keeps.of_eq {s s' : InitContext σ} {blocks : List Nat}
    (h : s.Keeps blocks) (hstrings : s'.strings = s.strings) (hopts : s'.opts = s.opts) :
    s'.Keeps blocks := by
  unfold InitContext.Keeps
  rw [hstrings, hopts]
  exact h

section Options

variable {link : HandshakeLink σ} {s : InitContext σ}

theorem duplicate_keeps (hs : s.Keeps []) :
    (duplicate link s).Ends (fun r s' => s'.shell = s.shell ∧
        ((r = .ok none ∧ ¬ link.Grants ∧ s'.Keeps []) ∨
          exists block, r = .ok (some block) ∧ s'.Keeps [block]))
      (fun s' => s'.shell = s.shell) := by
  apply Call.ends_attempt_bind (onSocket_shell link.malloc s)
  intro r s1 h
  rcases h with ⟨⟨socket, hmalloc⟩, hshell, hstrings, hopts⟩
  have hs1 := hs.of_eq hstrings hopts
  cases r with
  | error e =>
      refine ⟨hshell, Or.inl ⟨rfl, ?_, hs1⟩⟩
      intro hgrants
      have hgranted := hgrants s.socket
      rw [hmalloc] at hgranted
      cases hgranted
  | ok _ =>
      refine ⟨hshell, Or.inr ⟨s1.strings.next, rfl, ?_⟩⟩
      have howns := hs1.acquire
      rw [List.append_nil] at howns
      exact howns.perm (List.perm_append_singleton _ _).symm

theorem moveOpts_keeps {blocks : List Nat} (hs : s.Keeps blocks) :
    s.moveOpts.Keeps blocks := by
  rcases s with ⟨socket, sockets, fd, connected, strings, ⟨block, entries, cap⟩, wildFrees,
    netUsers⟩
  have hfront : strings.Owns
      (block.toList ++ (entries.map OptionEntry.block ++ blocks)) := by
    apply Ledger.Owns.perm hs
    show (entries.map OptionEntry.block ++ block.toList ++ blocks).Perm _
    rw [<- List.append_assoc]
    exact List.perm_append_comm.append_right blocks
  have hmoved := hfront.releaseAll.acquire
  apply hmoved.perm
  show (_ :: (entries.map OptionEntry.block ++ blocks)).Perm
    (entries.map OptionEntry.block ++ [_] ++ blocks)
  rw [List.append_assoc]
  exact List.perm_middle.symm

/-- What an addition to the options comes to.  Where it fails, memory was refused, and
at most one string has no owner. -/
def Adds (link : HandshakeLink σ) (s : InitContext σ) (r : Except AvError Unit)
    (s' : InitContext σ) : Prop :=
  s'.shell = s.shell ∧
    match r with
    | .ok _ => s'.Keeps []
    | .error _ => ¬ link.Grants ∧ exists blocks, blocks.length ≤ 1 ∧ s'.Keeps blocks

theorem growOpts_keeps {blocks : List Nat} (hs : s.Keeps blocks) :
    ((do
        match ← Call.attempt (onSocket link.malloc) with
        | .error _ => Call.fail (averror enomem)
        | .ok _ => Call.modify InitContext.moveOpts : InitCall σ Unit) s).Ends
      (fun r s' => s'.shell = s.shell ∧ s'.Keeps blocks ∧ (r = .ok () ∨ ¬ link.Grants))
      (fun s' => s'.shell = s.shell) := by
  apply Call.ends_attempt_bind (onSocket_shell link.malloc s)
  intro r s1 h
  rcases h with ⟨⟨socket, hmalloc⟩, hshell, hstrings, hopts⟩
  have hs1 := hs.of_eq hstrings hopts
  cases r with
  | error e =>
      refine ⟨hshell, hs1, Or.inr ?_⟩
      intro hgrants
      have hgranted := hgrants s.socket
      rw [hmalloc] at hgranted
      cases hgranted
  | ok _ => exact ⟨hshell, moveOpts_keeps hs1, Or.inl rfl⟩

theorem vtremoteAddOpt_adds {key value : String} {block : Nat} (hs : s.Keeps [block]) :
    (vtremoteAddOpt link key (some block) value s).Ends (Adds link s)
      (fun s' => s'.shell = s.shell) := by
  unfold vtremoteAddOpt
  dsimp only
  rw [Call.get_bind]
  have hgrow : forall c : Prop, forall [Decidable c], (Call.when c (do
        match ← Call.attempt (onSocket link.malloc) with
        | .error _ => Call.fail (averror enomem)
        | .ok _ => Call.modify InitContext.moveOpts : InitCall σ Unit) s).Ends
      (fun r s' => s'.shell = s.shell ∧ s'.Keeps [block] ∧
        (r = .ok () ∨ ¬ link.Grants))
      (fun s' => s'.shell = s.shell) := by
    intro c _
    unfold Call.when
    split
    · exact growOpts_keeps hs
    · exact ⟨rfl, hs, Or.inl rfl⟩
  apply Call.ends_bind (hgrow _)
  · intro e s' h
    rcases h with ⟨hshell, hkeeps, hgranted⟩
    refine ⟨hshell, hgranted.resolve_left (fun h => by cases h), [block], ?_, hkeeps⟩
    exact Nat.le_refl 1
  · intro _ s' h
    rcases h with ⟨hshell, hkeeps, _⟩
    refine ⟨hshell, ?_⟩
    apply Ledger.Owns.perm hkeeps
    rcases s' with ⟨socket, sockets, fd, connected, strings, ⟨b, entries, cap⟩,
      wildFrees, netUsers⟩
    show (entries.map OptionEntry.block ++ b.toList ++ [block]).Perm
      ((entries ++ [_]).map OptionEntry.block ++ b.toList ++ [])
    rw [List.append_nil, List.map_append, List.append_assoc, List.append_assoc]
    exact List.perm_append_comm.append_left _

theorem Adds.of_shell {s1 s2 : InitContext σ} {r : Except AvError Unit}
    (h : Adds link s1 r s2) (hshell : s1.shell = s.shell) : Adds link s r s2 :=
  ⟨h.1.trans hshell, h.2⟩

theorem duplicate_adds {next : Option Nat -> InitCall σ Unit} (hs : s.Keeps [])
    (hnone : forall s1, exists e, next none s1 = .returned (.error e) s1)
    (hsome : forall block s1, s1.Keeps [block] ->
      (next (some block) s1).Ends (Adds link s1) (fun s' => s'.shell = s1.shell)) :
    ((duplicate link >>= next) s).Ends (Adds link s) (fun s' => s'.shell = s.shell) := by
  apply Call.ends_bind (duplicate_keeps hs)
  · intro e s' h
    rcases h.2 with h | h
    · cases h.1
    · rcases h with ⟨_, hr, _⟩
      cases hr
  · intro block s1 h
    rcases h with ⟨hshell, h | h⟩
    · rcases h with ⟨hr, hgrants, hkeeps⟩
      cases hr
      rcases hnone s1 with ⟨e, hnext⟩
      rw [hnext]
      exact ⟨hshell, hgrants, [], Nat.zero_le _, hkeeps⟩
    · rcases h with ⟨b, hr, hkeeps⟩
      cases hr
      apply (hsome b s1 hkeeps).mono
      · intro r s' hadds
        exact hadds.of_shell hshell
      · intro s' hsame
        exact hsame.trans hshell

theorem addMode_adds (mode : String) (hs : s.Keeps []) :
    (addMode link mode s).Ends (Adds link s) (fun s' => s'.shell = s.shell) :=
  duplicate_adds hs (fun _ => ⟨_, rfl⟩) fun _ _ => vtremoteAddOpt_adds

theorem addOption_adds (option : ConfigureOption) (hs : s.Keeps []) :
    (addOption link option s).Ends (Adds link s) (fun s' => s'.shell = s.shell) := by
  unfold addOption Call.when
  split
  · exact duplicate_adds hs (fun _ => ⟨_, rfl⟩) fun _ _ => vtremoteAddOpt_adds
  · exact ⟨rfl, hs⟩

theorem addOptions_adds (options : List ConfigureOption) (hs : s.Keeps []) :
    (addOptions link options s).Ends (Adds link s) (fun s' => s'.shell = s.shell) := by
  induction options generalizing s with
  | nil => exact ⟨rfl, hs⟩
  | cons option rest ih =>
      apply Call.ends_bind (addOption_adds option hs)
      · intro e s' h
        exact h
      · intro _ s1 h
        apply (ih h.2).mono
        · intro r s' hadds
          exact hadds.of_shell h.1
        · intro s' hsame
          exact hsame.trans h.1

end Options

/-!
## The handshake
-/

section Handshake

variable {link : HandshakeLink σ} {side : HandshakeSide β} {s : InitContext σ}

def HandshakeSide.Supported (side : HandshakeSide β) : Prop :=
  (wirePixFmt side.pixFmt).isOk = true

def Builds (link : HandshakeLink σ) (side : HandshakeSide β) (s : InitContext σ)
    (r : Except AvError UInt8) (s' : InitContext σ) : Prop :=
  s'.shell = s.shell ∧
    match r with
    | .ok _ => s'.Keeps []
    | .error _ => ¬ (link.Grants ∧ side.Supported) ∧
        exists blocks, blocks.length ≤ 1 ∧ s'.Keeps blocks

theorem Adds.builds {e : AvError} {s' : InitContext σ} (h : Adds link s (.error e) s') :
    Builds link side s (.error e) s' :=
  ⟨h.1, fun hboth => h.2.1 hboth.1, h.2.2⟩

theorem buildOptions_builds (hs : s.Keeps []) :
    (buildOptions link side s).Ends (Builds link side s)
      (fun s' => s'.shell = s.shell) := by
  apply Call.ends_bind (addMode_adds side.mode hs)
  · intro e s' h
    exact h.builds
  · intro _ s1 h
    rcases h with ⟨hshell, hkeeps⟩
    apply Call.ends_bind ((addOptions_adds side.options hkeeps).mono
      (fun r s' hadds => hadds.of_shell hshell) (fun s' hsame => hsame.trans hshell))
    · intro e s' h
      exact h.builds
    · intro _ s2 h
      cases hpix : wirePixFmt side.pixFmt with
      | ok pixFmt => exact h
      | error e =>
          refine ⟨h.1, ?_, [], Nat.zero_le _, h.2⟩
          intro hboth
          have hsupported := hboth.2
          unfold HandshakeSide.Supported at hsupported
          rw [hpix] at hsupported
          cases hsupported

/-- What the options leave: nothing, or behind an error in them one string and a
buffer that was freed without being initialised. -/
structure Residue (fits : Prop) (s : InitContext σ) : Prop where
  faults : s.strings.faults = 0
  leaked : s.strings.held.card ≤ s.wildFrees
  wild : s.wildFrees ≤ 1
  fits : fits -> s.wildFrees = 0

structure Idle (s : InitContext σ) : Prop where
  strings : s.strings.Owns []
  opts : s.opts = OptionArray.empty
  wild : s.wildFrees = 0

theorem Idle.keeps (h : Idle s) : s.Keeps [] := by
  unfold InitContext.Keeps
  rw [h.opts]
  exact h.strings

theorem Idle.residue (h : Idle s) (fits : Prop) : Residue fits s where
  faults := h.strings.sound
  leaked := by
    rw [h.strings.held]
    exact Nat.zero_le _
  wild := by
    rw [h.wild]
    exact Nat.zero_le 1
  fits := fun _ => h.wild

/-- What calls of the exchange do to the context: neither the descriptors nor the count
of the network's users change. -/
structure Exchanged {α : Type} (fits : Prop) (s : InitContext σ) (r : Except AvError α)
    (s' : InitContext σ) : Prop where
  sockets : s'.sockets = s.sockets
  fd : s'.fd = s.fd
  connected : s'.connected = s.connected
  netUsers : s'.netUsers = s.netUsers
  residue : Residue fits s'
  idle : r.isOk = true -> Idle s'

namespace Exchanged

variable {α : Type} {fits : Prop} {s1 s2 : InitContext σ} {r : Except AvError α}

theorem of_idle (hshell : s1.shell = s.shell) (h : Idle s1) : Exchanged fits s r s1 := by
  rcases s with ⟨socket, sockets, fd, connected, strings, opts, wildFrees, netUsers⟩
  rcases s1 with ⟨socket', sockets', fd', connected', strings', opts', wildFrees', netUsers'⟩
  cases hshell
  exact ⟨rfl, rfl, rfl, rfl, h.residue fits, fun _ => h⟩

theorem trans {α' : Type} {r' : Except AvError α'} (h : Exchanged fits s r s1)
    (h' : Exchanged fits s1 r' s2) : Exchanged fits s r' s2 where
  sockets := h'.sockets.trans h.sockets
  fd := h'.fd.trans h.fd
  connected := h'.connected.trans h.connected
  netUsers := h'.netUsers.trans h.netUsers
  residue := h'.residue
  idle := h'.idle

theorem error {α' : Type} {e : AvError} (h : Exchanged fits s (.error e : Except AvError α) s1) :
    Exchanged fits s (.error e : Except AvError α') s1 :=
  ⟨h.sockets, h.fd, h.connected, h.netUsers, h.residue, fun hok => by cases hok⟩

end Exchanged

def StillOpen (s s' : InitContext σ) : Prop := s'.sockets = s.sockets

theorem stillOpen_of_shell {s' : InitContext σ} (h : s'.shell = s.shell) : StillOpen s s' :=
  congrArg Prod.fst h

theorem onSocket_exchanged {α : Type} (fits : Prop) (m : Call AvError σ α)
    (hs : Idle s) : (onSocket m s).Ends (Exchanged fits s) (StillOpen s) := by
  apply (onSocket_shell m s).mono
  · intro r s' h
    rcases h with ⟨_, hshell, hstrings, hopts⟩
    have hwild : s'.wildFrees = s.wildFrees := congrArg (·.2.2.2.1) hshell
    apply Exchanged.of_idle hshell
    refine ⟨?_, hopts.trans hs.opts, hwild.trans hs.wild⟩
    rw [hstrings]
    exact hs.strings
  · exact fun _ => stillOpen_of_shell

theorem freeOptions_idle (h : s.Keeps []) (hwild : s.wildFrees = 0) : Idle s.freeOptions where
  strings := h.releaseAll
  opts := rfl
  wild := hwild

theorem sendConfigure_exchanged (hs : Idle s) :
    (sendConfigure link side s).Ends (Exchanged (link.Grants ∧ side.Supported) s)
      (StillOpen s) := by
  apply Call.ends_attempt_bind ((buildOptions_builds hs.keeps).mono
    (fun _ _ h => h) (fun _ => stillOpen_of_shell))
  intro r s1 h
  rcases h with ⟨hshell, h⟩
  have hwild : s1.wildFrees = 0 := (congrArg (·.2.2.2.1) hshell).trans hs.wild
  cases r with
  | error e =>
      rcases h with ⟨hcause, blocks, hlength, hkeeps⟩
      have howns : s1.freeOptions.strings.Owns blocks := hkeeps.releaseAll
      have hcard : s1.freeOptions.strings.held.card ≤ 1 := by
        rw [howns.held]
        exact (List.toFinset_card_le blocks).trans hlength
      refine ⟨congrArg (·.1) hshell, congrArg (·.2.1) hshell, congrArg (·.2.2.1) hshell,
        congrArg (·.2.2.2.2) hshell, ⟨howns.sound, ?_, ?_, fun hfits => absurd hfits hcause⟩,
        fun hok => by cases hok⟩
      · show s1.freeOptions.strings.held.card ≤ s1.wildFrees + 1
        rw [hwild]
        exact hcard
      · show s1.wildFrees + 1 ≤ 1
        rw [hwild]
  | ok pixFmt =>
      dsimp only
      rw [Call.get_bind]
      apply Call.ends_attempt_bind ((onSocket_shell _ s1).mono (fun _ _ h => h)
        (fun _ h' => stillOpen_of_shell (h'.trans hshell)))
      intro result s2 h2
      rcases h2 with ⟨_, hshell2, hstrings, hopts⟩
      have hidle : Idle s2.freeOptions := freeOptions_idle (h.of_eq hstrings hopts)
        ((congrArg (·.2.2.2.1) hshell2).trans hwild)
      cases result with
      | error e => exact Exchanged.of_idle (hshell2.trans hshell) hidle
      | ok _ => exact Exchanged.of_idle (hshell2.trans hshell) hidle

theorem exchanged_bind {α α' : Type} {fits : Prop} {m : InitCall σ α}
    {next : α -> InitCall σ α'} (hm : (m s).Ends (Exchanged fits s) (StillOpen s))
    (hnext : forall a s1, Idle s1 -> (next a s1).Ends (Exchanged fits s1) (StillOpen s1)) :
    ((m >>= next) s).Ends (Exchanged fits s) (StillOpen s) := by
  apply Call.ends_bind hm
  · intro e s1 h
    exact h.error
  · intro a s1 h
    apply (hnext a s1 (h.idle rfl)).mono
    · intro r s2 h2
      exact h.trans h2
    · intro s2 h2
      exact h2.trans h.sockets

variable (ffmpegVersion : CString) (token : Option CString) (codecId : AVCodecID)

theorem exchange_exchanged (hs : Idle s) :
    (exchange link side ffmpegVersion token codecId s).Ends
      (Exchanged (link.Grants ∧ side.Supported) s) (StillOpen s) := by
  apply exchanged_bind (onSocket_exchanged _ _ hs)
  intro _ s1 hs1
  apply exchanged_bind (sendConfigure_exchanged hs1)
  intro _ s2 hs2
  exact onSocket_exchanged _ _ hs2

/-!
## The descriptor
-/

/-- The context is open on a descriptor that these did not have, or it is not, with
the descriptors as they were. -/
structure Connected (t : SocketTable) (users : Int) (s : InitContext σ) : Prop where
  idle : Idle s
  opened : exists fd : Nat, s.fd = fd ∧ Opened t fd s.sockets
  connected : s.connected = true
  netUsers : s.netUsers = users

structure Disconnected (fits : Prop) (t : SocketTable) (users : Int)
    (s : InitContext σ) : Prop where
  residue : Residue fits s
  same : SameOpen t s.sockets
  fd : s.fd = -1
  connected : s.connected = false
  netUsers : s.netUsers = users

def Opens {α : Type} (fits : Prop) (t : SocketTable) (users failed : Int)
    (r : Except AvError α) (s : InitContext σ) : Prop :=
  match r with
  | .ok _ => Connected t users s
  | .error _ => Disconnected fits t failed s

def WaitsOpen (t : SocketTable) (s : InitContext σ) : Prop :=
  exists fd, Opened t fd s.sockets

structure Unconnected (s : InitContext σ) : Prop where
  idle : Idle s
  fd : s.fd = -1
  connected : s.connected = false

theorem onTable_ends {α : Type} {m : TableCall α} {Q : Except AvError α -> SocketTable -> Prop}
    {B : SocketTable -> Prop} (h : (m s.sockets).Ends Q B) :
    (onTable m s).Ends (fun r s' => exists t, s' = { s with sockets := t } ∧ Q r t)
      (fun s' => B s'.sockets) := by
  apply Call.ends_zoom
  apply h.mono
  · intro r t hQ
    exact ⟨t, rfl, hQ⟩
  · exact fun _ hB => hB

def Finishes {α : Type} (fits : Prop) (t : SocketTable) (users : Int)
    (r : Except AvError α) (s : InitContext σ) : Prop :=
  match r with
  | .ok _ => Connected t users { s with connected := true }
  | .error _ => Disconnected fits t users s

theorem orClose_opens {fd : Nat} {t : SocketTable} {fits : Prop} {m : InitCall σ β}
    (hopened : Opened t fd s.sockets) (hfd : s.fd = fd) (hconnected : s.connected = false)
    (hm : (m s).Ends (Exchanged fits s) (StillOpen s)) :
    (orClose fd m s).Ends (Finishes fits t s.netUsers) (WaitsOpen t) := by
  apply Call.ends_attempt_bind (hm.mono (fun _ _ h => h) ?_)
  · intro r s1 h
    have hopened1 : Opened t fd s1.sockets := by
      rw [h.sockets]
      exact hopened
    cases r with
    | ok result =>
        have hidle := h.idle rfl
        exact ⟨⟨hidle.strings, hidle.opts, hidle.wild⟩, ⟨fd, h.fd.trans hfd, hopened1⟩, rfl,
          h.netUsers⟩
    | error e =>
        exact ⟨⟨h.residue.faults, h.residue.leaked, h.residue.wild, h.residue.fits⟩,
          hopened1.close, rfl, h.connected.trans hconnected, h.netUsers⟩
  · intro s1 h
    refine ⟨fd, ?_⟩
    rw [h]
    exact hopened

variable (getaddrinfo : Resolver) (hostport : Bytes)

theorem vtremoteHandshake_opens (hs : Unconnected s) :
    (vtremoteHandshake link side ffmpegVersion token codecId getaddrinfo hostport s).Ends
      (Opens (link.Grants ∧ side.Supported) s.sockets s.netUsers s.netUsers)
      (WaitsOpen s.sockets) := by
  apply Call.ends_bind ((onTable_ends (connectHostport_opens getaddrinfo hostport
    s.sockets)).mono (fun _ _ h => h) (fun _ h => h.elim))
  · intro e s1 h
    rcases h with ⟨t, rfl, hsame⟩
    have hresidue := hs.idle.residue (link.Grants ∧ side.Supported)
    exact ⟨⟨hresidue.faults, hresidue.leaked, hresidue.wild, hresidue.fits⟩, hsame, hs.fd,
      hs.connected, rfl⟩
  · intro fd s1 h
    rcases h with ⟨t, rfl, hopened⟩
    let s1 : InitContext σ := { s with sockets := t, fd := (fd : Int) }
    have hidle : Idle s1 := ⟨hs.idle.strings, hs.idle.opts, hs.idle.wild⟩
    have hfinishes : (orClose fd (exchange link side ffmpegVersion token codecId) s1).Ends
        (Finishes (link.Grants ∧ side.Supported) s.sockets s.netUsers)
        (WaitsOpen s.sockets) :=
      orClose_opens hopened rfl hs.connected
        (exchange_exchanged ffmpegVersion token codecId hidle)
    apply Call.ends_bind hfinishes
    · intro e s2 h2
      exact h2
    · intro result s2 h2
      exact h2

variable (netInit : Except AvError Unit) (host : Option Bytes)

theorem ffVtremoteInit_opens (hs : Idle s) (hconnected : s.connected = false) :
    (ffVtremoteInit link side ffmpegVersion token codecId getaddrinfo netInit host s).Ends
      (Opens (link.Grants ∧ side.Supported) s.sockets (s.netUsers + 1) s.netUsers)
      (WaitsOpen s.sockets) := by
  have hresidue := hs.residue (link.Grants ∧ side.Supported)
  have hfailed : Disconnected (link.Grants ∧ side.Supported) s.sockets s.netUsers
      { s with fd := -1 } :=
    ⟨⟨hresidue.faults, hresidue.leaked, hresidue.wild, hresidue.fits⟩, SameOpen.refl _, rfl,
      hconnected, rfl⟩
  unfold ffVtremoteInit
  rw [Call.modify_bind]
  cases host with
  | none => exact hfailed
  | some hostport =>
      cases netInit with
      | error e => exact hfailed
      | ok _ =>
          have hready : Unconnected
              { s with fd := -1, netUsers := s.netUsers + 1 } :=
            ⟨⟨hs.strings, hs.opts, hs.wild⟩, rfl, hconnected⟩
          apply Call.ends_attempt_bind (vtremoteHandshake_opens ffmpegVersion token codecId
            getaddrinfo hostport hready)
          intro r s1 h
          cases r with
          | ok result => exact h
          | error e =>
              have hnet : s1.netUsers - 1 = s.netUsers := by
                rw [h.netUsers]
                exact Int.add_sub_cancel s.netUsers 1
              exact ⟨⟨h.residue.faults, h.residue.leaked, h.residue.wild, h.residue.fits⟩,
                h.same, h.fd, h.connected, hnet⟩

end Handshake

/-!
## Lives
-/

/-- What a client leaves, with the descriptors of `t` open before.  They are open again
unless `init` ended in front of `ff_vtremote_dec_init`: then `close` closes the
descriptor 0. -/
structure LeftBehind (fits : Prop) (formatted : Bool) (t : SocketTable)
    (s : InitContext σ) : Prop where
  same : SameOpen t s.sockets <-> formatted = true
  residue : Residue fits s
  clean : s.connected = true -> s.wildFrees = 0
  netUsers : s.netUsers = if s.connected then 0 else -1

section Lives

variable {link : HandshakeLink σ} {side : HandshakeSide β}

theorem ffVtremoteClose_connected {t : SocketTable} {s : InitContext σ} (fits : Prop)
    (hs : Connected t 1 s) :
    (ffVtremoteClose s).Ends (fun r s' => r = .ok () ∧ LeftBehind fits true t s')
      (fun _ => False) := by
  rcases hs.opened with ⟨fd, hfd, hopened⟩
  have hclosed := hopened.close
  have hresidue := hs.idle.residue fits
  unfold ffVtremoteClose
  rw [Call.get_bind, hfd]
  unfold Call.when
  rw [if_pos (Int.natCast_nonneg fd)]
  refine ⟨rfl, ⟨iff_of_true hclosed rfl, ⟨hresidue.faults, hresidue.leaked, hresidue.wild,
    hresidue.fits⟩, fun _ => hs.idle.wild, ?_⟩⟩
  show s.netUsers - 1 = if s.connected then 0 else -1
  rw [hs.netUsers, hs.connected]
  rfl

theorem ffVtremoteClose_disconnected {t : SocketTable} {s : InitContext σ} {fits : Prop}
    (hs : Disconnected fits t 0 s) :
    (ffVtremoteClose s).Ends (fun r s' => r = .ok () ∧ LeftBehind fits true t s')
      (fun _ => False) := by
  unfold ffVtremoteClose
  rw [Call.get_bind, hs.fd]
  refine ⟨rfl, ⟨iff_of_true hs.same rfl, ⟨hs.residue.faults, hs.residue.leaked,
    hs.residue.wild, hs.residue.fits⟩, ?_, ?_⟩⟩
  · intro hconnected
    cases hs.connected.symm.trans hconnected
  · show s.netUsers - 1 = if s.connected then 0 else -1
    rw [hs.netUsers, hs.connected]
    rfl

/-- Closing 0 in the context that `avcodec_open2` has allocated changes the
descriptors. -/
theorem ffVtremoteClose_allocated (fits : Prop) (socket : σ) (t : SocketTable) :
    (ffVtremoteClose (InitContext.allocated socket t)).Ends
      (fun r s' => r = .ok () ∧ LeftBehind fits false t s') (fun _ => False) := by
  refine ⟨rfl, ⟨iff_of_false ?_ Bool.false_ne_true, ?_, ?_, rfl⟩⟩
  · intro hsame
    have hheld : t.ledger.held.erase 0 = t.ledger.held := hsame.held
    have hfaults : (t.ledger.release 0).faults = t.ledger.faults := hsame.faults
    by_cases hmem : 0 ∈ t.ledger.held
    · rw [<- hheld] at hmem
      exact Finset.notMem_erase 0 _ hmem
    · unfold Ledger.release at hfaults
      dsimp only at hfaults
      rw [if_neg hmem] at hfaults
      exact absurd hfaults (Nat.succ_ne_self _)
  · exact ⟨rfl, Nat.zero_le _, Nat.zero_le _, fun _ => rfl⟩
  · exact fun _ => rfl

/-- A client closes what it has opened, once, and nothing else, whatever its calls and
all others answer, unless a decoder gets no pixel format: then it closes the descriptor 0.
Where it waits for good one descriptor is open that was not. -/
theorem codecLife_leaves {α : Type} (link : HandshakeLink σ) (side : HandshakeSide β)
    (ffmpegVersion : CString) (token : Option CString) (codecId : AVCodecID)
    (getaddrinfo : Resolver) (format netInit : Except AvError Unit)
    (host : Option Bytes) (calls : β -> Call AvError σ α) (socket : σ)
    (t : SocketTable) :
    (codecLife link side ffmpegVersion token codecId getaddrinfo format netInit host calls
        (InitContext.allocated socket t)).Ends
      (fun _ s' => LeftBehind (link.Grants ∧ side.Supported) format.isOk t s')
      (WaitsOpen t) := by
  have hidle : Idle (InitContext.allocated socket t) := ⟨Ledger.Owns.empty, rfl, rfl⟩
  cases format with
  | error e =>
      show ((ffVtremoteClose >>= fun _ => _) (InitContext.allocated socket t)).Ends _ _
      apply Call.ends_bind_value
        ((ffVtremoteClose_allocated _ socket t).mono (fun _ _ h => h) (fun _ h => h.elim))
      intro s' h
      exact h
  | ok _ =>
      apply Call.ends_attempt_bind (ffVtremoteInit_opens ffmpegVersion token codecId
        getaddrinfo netInit host hidle rfl)
      intro opened s1 h
      cases opened with
      | error e =>
          apply Call.ends_bind_value
            ((ffVtremoteClose_disconnected h).mono (fun _ _ h => h) (fun _ h => h.elim))
          intro s' h
          exact h
      | ok result =>
          apply Call.ends_attempt_bind ((onSocket_shell (calls result) s1).mono
            (fun _ _ h => h) ?_)
          · intro answer s2 h2
            rcases h2 with ⟨_, hshell, hstrings, hopts⟩
            have hopen : Connected t 1 s2 := by
              rcases h with ⟨hidle1, hopened, hconnected, hnet⟩
              rcases s1 with ⟨socket1, sockets1, fd1, connected1, strings1, opts1, wild1,
                net1⟩
              rcases s2 with ⟨socket2, sockets2, fd2, connected2, strings2, opts2, wild2,
                net2⟩
              cases hshell
              cases hstrings
              cases hopts
              exact ⟨⟨hidle1.strings, hidle1.opts, hidle1.wild⟩, hopened, hconnected, hnet⟩
            apply Call.ends_bind_value ((ffVtremoteClose_connected _ hopen).mono
              (fun _ _ h => h) (fun _ h => h.elim))
            intro s' h
            exact h
          · intro s2 hshell
            rcases h.opened with ⟨fd, _, hopened⟩
            refine ⟨fd, ?_⟩
            rw [stillOpen_of_shell hshell]
            exact hopened

end Lives
end VTRemote
