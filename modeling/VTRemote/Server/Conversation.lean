import VTRemote.Server.VTRClientHandler

/-!
# What a conversation looks like

The phases of a conversation, as the server is meant to go through them, and
what every course of events that follows the phases has in common.  Nothing here
is about how the handler is written.
-/

namespace VTRemote

inductive Phase where
  | hello
  | greeted
  | refused
  | created
  | configured
  | serving
  | flushing
  | flushed
  | finished
  | ended
deriving DecidableEq, Repr

namespace Phase

def live : Phase -> Bool
  | configured | serving | flushing | flushed | finished => true
  | _ => false

end Phase

def Reply (type : VTRemoteMsgType) : Prop :=
  type = .packet ∨ type = .frame ∨ type = .pong

def Sample (type : VTRemoteMsgType) : Prop := type = .packet ∨ type = .frame

theorem Sample.reply {type : VTRemoteMsgType} (h : Sample type) : Reply type := by
  cases h with
  | inl h => exact Or.inl h
  | inr h => exact Or.inr (Or.inl h)

namespace Phase

inductive Step : Phase -> HandlerEvent -> Phase -> Prop where
  | read {phase : Phase} (hphase : phase ≠ ended) : Step phase .read phase
  | greet (body : List UInt8) : Step hello (.sent .helloAck body) greeted
  | refuse (body : List UInt8) : Step greeted (.sent .error body) refused
  | create : Step greeted .created created
  | configure : Step created .configure configured
  | acknowledge (body : List UInt8) :
      Step configured (.sent .configureAck body) serving
  | frameMessage : Step serving .frameMessage serving
  | packetMessage : Step serving .packetMessage serving
  | reply {type : VTRemoteMsgType} (body : List UInt8) (htype : Reply type) :
      Step serving (.sent type body) serving
  | flush : Step serving .flush flushing
  | flushReply {type : VTRemoteMsgType} (body : List UInt8)
      (htype : Sample type) : Step flushing (.sent type body) flushing
  | flushed : Step flushing .flushed flushed
  | done (body : List UInt8) : Step flushed (.sent .done body) finished
  | shutdown {phase : Phase} (hlive : phase.live = true) :
      Step phase .shutdown ended

inductive Course (first : Phase) : List HandlerEvent -> Phase -> Prop where
  | nil : Course first [] first
  | snoc {phase phase' : Phase} {events : List HandlerEvent}
      {event : HandlerEvent} (hevents : Course first events phase)
      (hstep : Step phase event phase') : Course first (events ++ [event]) phase'

theorem Course.split {first last : Phase} {before behind : List HandlerEvent}
    (h : Course first (before ++ behind) last) :
    exists middle, Course first before middle ∧ Course middle behind last := by
  generalize hall : before ++ behind = all at h
  induction h generalizing behind with
  | nil =>
      rcases List.append_eq_nil_iff.mp hall with ⟨rfl, rfl⟩
      exact ⟨first, Course.nil, Course.nil⟩
  | @snoc phase phase' events event hevents hstep ih =>
      rcases List.eq_nil_or_concat behind with rfl | ⟨rest, lastEvent, rfl⟩
      · rw [List.append_nil] at hall
        rw [hall]
        exact ⟨phase', hevents.snoc hstep, Course.nil⟩
      · rw [List.concat_eq_append] at hall ⊢
        rw [<- List.append_assoc] at hall
        rcases List.append_inj' hall rfl with ⟨hevents', hevent⟩
        cases hevent
        rcases ih hevents' with ⟨middle, hbefore, hbehind⟩
        exact ⟨middle, hbefore, hbehind.snoc hstep⟩

theorem Course.of_nil {first last : Phase} (h : Course first [] last) :
    last = first := by
  generalize hall : ([] : List HandlerEvent) = events at h
  cases h with
  | nil => rfl
  | snoc => exact absurd hall.symm (List.append_ne_nil_of_right_ne_nil _ (by simp))

theorem Course.step {first last : Phase} {event : HandlerEvent}
    (h : Course first [event] last) : Step first event last := by
  generalize hall : [event] = events at h
  cases h with
  | nil => cases hall
  | @snoc phase _ events event' hevents hstep =>
      rw [<- List.nil_append [event]] at hall
      rcases List.append_inj' hall rfl with ⟨hnil, hevent⟩
      cases hnil
      cases hevent
      rw [hevents.of_nil] at hstep
      exact hstep

theorem Course.around {first last : Phase} {before behind : List HandlerEvent}
    {event : HandlerEvent} (h : Course first (before ++ event :: behind) last) :
    exists phase phase', Course first before phase ∧ Step phase event phase' ∧
      Course phase' behind last := by
  rcases h.split with ⟨phase, hbefore, hrest⟩
  have hcons : Course phase ([event] ++ behind) last := hrest
  rcases hcons.split with ⟨phase', hevent, hbehind⟩
  exact ⟨phase, phase', hbefore, hevent.step, hbehind⟩

end Phase

/-!
## The messages that are sent
-/

def HandlerEvent.sentType : HandlerEvent -> Option VTRemoteMsgType
  | .sent type _ => some type
  | _ => none

def sentTypes (events : List HandlerEvent) : List VTRemoteMsgType :=
  events.filterMap HandlerEvent.sentType

/-- The messages of a whole conversation:
`HELLO_ACK (ERROR | CONFIGURE_ACK (PACKET | FRAME | PONG)* DONE)`. -/
inductive WholeConversation : List VTRemoteMsgType -> Prop where
  | refused : WholeConversation [.helloAck, .error]
  | served {replies : List VTRemoteMsgType}
      (hreplies : forall type, type ∈ replies -> Reply type) :
      WholeConversation (.helloAck :: .configureAck :: (replies ++ [.done]))

def Conversational (types : List VTRemoteMsgType) : Prop :=
  exists whole, WholeConversation whole ∧ types <+: whole

def Phase.Sent : Phase -> List VTRemoteMsgType -> Prop
  | hello, types => types = []
  | greeted, types => types = [.helloAck]
  | refused, types => types = [.helloAck, .error]
  | created, types => types = [.helloAck]
  | configured, types => types = [.helloAck]
  | serving, types | flushing, types | flushed, types =>
      exists replies, types = .helloAck :: .configureAck :: replies ∧
        forall type, type ∈ replies -> Reply type
  | finished, types => WholeConversation types
  | ended, types => Conversational types

theorem Phase.Sent.conversational {phase : Phase} {types : List VTRemoteMsgType}
    (h : phase.Sent types) : Conversational types := by
  have hrefused : forall types, types <+: [.helloAck, .error] ->
      Conversational types := fun types hfront =>
    ⟨_, WholeConversation.refused, hfront⟩
  have hserved : (exists replies, types = .helloAck :: .configureAck :: replies ∧
      forall type, type ∈ replies -> Reply type) -> Conversational types := by
    intro h
    rcases h with ⟨replies, rfl, hreplies⟩
    refine ⟨_, WholeConversation.served hreplies, [.done], ?_⟩
    rfl
  cases phase with
  | hello =>
      rw [show types = [] from h]
      exact hrefused [] (List.nil_prefix)
  | greeted =>
      rw [show types = [.helloAck] from h]
      exact hrefused _ ⟨[.error], rfl⟩
  | refused =>
      rw [show types = [.helloAck, .error] from h]
      exact hrefused _ (List.prefix_refl _)
  | created =>
      rw [show types = [.helloAck] from h]
      exact hrefused _ ⟨[.error], rfl⟩
  | configured =>
      rw [show types = [.helloAck] from h]
      exact hrefused _ ⟨[.error], rfl⟩
  | serving => exact hserved h
  | flushing => exact hserved h
  | flushed => exact hserved h
  | finished => exact ⟨types, h, List.prefix_refl _⟩
  | ended => exact h

theorem WholeConversation.done_once {types : List VTRemoteMsgType}
    (h : WholeConversation types) : types.count .done ≤ 1 := by
  cases h with
  | refused => exact Nat.zero_le 1
  | served hreplies =>
      rename_i replies
      have hnone : replies.count .done = 0 := by
        rw [List.count_eq_zero]
        intro hmem
        rcases hreplies _ hmem with h | h | h
        · cases h
        · cases h
        · cases h
      rw [List.count_cons, List.count_cons, List.count_append, hnone]
      exact Nat.le_refl 1

theorem Conversational.done_once {types : List VTRemoteMsgType}
    (h : Conversational types) : types.count .done ≤ 1 := by
  rcases h with ⟨whole, hwhole, hfront⟩
  exact Nat.le_trans (hfront.sublist.count_le _) hwhole.done_once

theorem Phase.Sent.step {phase phase' : Phase} {event : HandlerEvent}
    {types : List VTRemoteMsgType} (h : phase.Sent types)
    (hstep : Phase.Step phase event phase') :
    phase'.Sent (types ++ event.sentType.toList) := by
  have hnone : event.sentType = none ->
      types ++ event.sentType.toList = types := by
    intro hsent
    rw [hsent]
    exact List.append_nil types
  have hreply : forall type body, event = .sent type body -> Reply type ->
      (exists replies, types = .helloAck :: .configureAck :: replies ∧
        forall type, type ∈ replies -> Reply type) ->
      exists replies, types ++ event.sentType.toList =
          .helloAck :: .configureAck :: replies ∧
        forall type, type ∈ replies -> Reply type := by
    intro type body h htype h'
    subst h
    rcases h' with ⟨replies, rfl, hreplies⟩
    refine ⟨replies ++ [type], rfl, ?_⟩
    intro type' hmem
    rcases List.mem_append.mp hmem with hmem | hmem
    · exact hreplies type' hmem
    · rw [List.mem_singleton.mp hmem]
      exact htype
  cases hstep with
  | read =>
      rw [hnone rfl]
      exact h
  | greet body =>
      rw [show types = [] from h]
      exact rfl
  | refuse body =>
      rw [show types = [.helloAck] from h]
      exact rfl
  | create =>
      rw [hnone rfl]
      exact h
  | configure =>
      rw [hnone rfl]
      exact h
  | acknowledge body =>
      rw [show types = [.helloAck] from h]
      exact ⟨[], rfl, fun _ hmem => nomatch hmem⟩
  | frameMessage =>
      rw [hnone rfl]
      exact h
  | packetMessage =>
      rw [hnone rfl]
      exact h
  | reply body htype => exact hreply _ body rfl htype h
  | flush =>
      rw [hnone rfl]
      exact h
  | flushReply body htype => exact hreply _ body rfl htype.reply h
  | flushed =>
      rw [hnone rfl]
      exact h
  | done body =>
      rcases h with ⟨replies, rfl, hreplies⟩
      exact WholeConversation.served hreplies
  | shutdown =>
      rw [hnone rfl]
      exact h.conversational

theorem sentTypes_append (events events' : List HandlerEvent) :
    sentTypes (events ++ events') = sentTypes events ++ sentTypes events' :=
  List.filterMap_append

theorem sentTypes_singleton (event : HandlerEvent) :
    sentTypes [event] = event.sentType.toList := by
  cases hsent : event.sentType with
  | none => exact List.filterMap_cons_none hsent
  | some type => exact List.filterMap_cons_some hsent

theorem Phase.Course.sent {phase : Phase} {events : List HandlerEvent}
    (h : Phase.Course .hello events phase) : phase.Sent (sentTypes events) := by
  induction h with
  | nil => exact rfl
  | snoc hevents hstep ih =>
      rw [sentTypes_append, sentTypes_singleton]
      exact ih.step hstep

/-!
## DONE
-/

def Phase.mute : Phase -> Bool
  | finished | ended => true
  | _ => false

theorem Phase.Step.mute {phase phase' : Phase} {event : HandlerEvent}
    (h : Phase.Step phase event phase') (hmute : phase.mute = true) :
    phase'.mute = true ∧ event.sentType = none := by
  cases h with
  | read => exact ⟨hmute, rfl⟩
  | shutdown => exact ⟨rfl, rfl⟩
  | greet | refuse | create | configure | acknowledge | frameMessage
  | packetMessage | reply | flush | flushReply | flushed | done => cases hmute

theorem Phase.Course.mute {first last : Phase} {events : List HandlerEvent}
    (h : Phase.Course first events last) (hmute : first.mute = true) :
    last.mute = true ∧
      forall event, event ∈ events -> event.sentType = none := by
  induction h with
  | nil => exact ⟨hmute, fun _ hmem => nomatch hmem⟩
  | snoc hevents hstep ih =>
      have hlast := hstep.mute ih.1
      refine ⟨hlast.1, ?_⟩
      intro event hmem
      rcases List.mem_append.mp hmem with hmem | hmem
      · exact ih.2 event hmem
      · rw [List.mem_singleton.mp hmem]
        exact hlast.2

theorem Phase.Course.flushed_mem {events : List HandlerEvent}
    (h : Phase.Course .hello events .flushed) : .flushed ∈ events := by
  generalize hlast : Phase.flushed = last at h
  induction h with
  | nil => cases hlast
  | snoc hevents hstep ih =>
      cases hstep with
      | read => exact List.mem_append_left _ (ih hlast)
      | flushed => exact List.mem_append_right _ (List.mem_singleton_self _)
      | greet | refuse | create | configure | acknowledge | frameMessage
      | packetMessage | reply | flush | flushReply | done | shutdown =>
          cases hlast

/-- DONE follows the flush, and nothing is sent after it. -/
theorem Phase.Course.done {last : Phase} {before behind : List HandlerEvent}
    {body : List UInt8}
    (h : Phase.Course .hello (before ++ .sent .done body :: behind) last) :
    .flushed ∈ before ∧
      forall event, event ∈ behind -> event.sentType = none := by
  rcases h.around with ⟨phase, phase', hbefore, hstep, hbehind⟩
  cases hstep with
  | done => exact ⟨hbefore.flushed_mem, (hbehind.mute rfl).2⟩
  | reply _ htype =>
      rcases htype with htype | htype | htype
      · cases htype
      · cases htype
      · cases htype
  | flushReply _ htype =>
      rcases htype with htype | htype
      · cases htype
      · cases htype

/-!
## The session
-/

def Phase.hasSession : Phase -> Bool
  | hello | greeted | refused => false
  | _ => true

def Phase.isConfigured : Phase -> Bool
  | hello | greeted | refused | created => false
  | _ => true

def Phase.isOver : Phase -> Bool
  | ended => true
  | _ => false

/-- An event that happens when a condition on the phase comes true has happened
once or not at all, as the phase says. -/
theorem Phase.Course.count {event : HandlerEvent} {has : Phase -> Bool}
    (hstart : has .hello = false)
    (hstep : forall {phase event' phase'}, Phase.Step phase event' phase' ->
      (has phase').toNat = (has phase).toNat + [event'].count event)
    {phase : Phase} {events : List HandlerEvent}
    (h : Phase.Course .hello events phase) :
    events.count event = (has phase).toNat := by
  induction h with
  | nil =>
      rw [hstart]
      rfl
  | snoc hevents hlast ih => rw [List.count_append, ih, hstep hlast]

theorem Phase.Step.marks {phase phase' : Phase} {event : HandlerEvent}
    (h : Phase.Step phase event phase') :
    phase'.hasSession.toNat =
        phase.hasSession.toNat + [event].count .created ∧
      phase'.isConfigured.toNat =
        phase.isConfigured.toNat + [event].count .configure ∧
      phase'.isOver.toNat = phase.isOver.toNat + [event].count .shutdown := by
  cases h with
  | shutdown hlive =>
      cases phase with
      | hello | greeted | refused | created | ended => cases hlive
      | configured | serving | flushing | flushed | finished =>
          exact ⟨rfl, rfl, rfl⟩
  | read | greet | refuse | create | configure | acknowledge | frameMessage
  | packetMessage | reply | flush | flushReply | flushed | done =>
      exact ⟨rfl, rfl, rfl⟩

theorem Phase.Course.created {phase : Phase} {events : List HandlerEvent}
    (h : Phase.Course .hello events phase) :
    events.count .created = phase.hasSession.toNat :=
  h.count rfl fun hstep => hstep.marks.1

theorem Phase.Course.configure {phase : Phase} {events : List HandlerEvent}
    (h : Phase.Course .hello events phase) :
    events.count .configure = phase.isConfigured.toNat :=
  h.count rfl fun hstep => hstep.marks.2.1

theorem Phase.Course.shutdown {phase : Phase} {events : List HandlerEvent}
    (h : Phase.Course .hello events phase) :
    events.count .shutdown = phase.isOver.toNat :=
  h.count rfl fun hstep => hstep.marks.2.2

theorem Phase.Course.handles {last : Phase} {before behind : List HandlerEvent}
    {event : HandlerEvent}
    (h : Phase.Course .hello (before ++ event :: behind) last)
    (hevent : event = .frameMessage ∨ event = .packetMessage) :
    before.count .configure = 1 := by
  rcases h.around with ⟨phase, phase', hbefore, hstep, _⟩
  rw [hbefore.configure]
  rcases hevent with rfl | rfl
  · cases hstep with
    | frameMessage => rfl
  · cases hstep with
    | packetMessage => rfl

end VTRemote
