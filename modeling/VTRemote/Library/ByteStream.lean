import Mathlib.Data.List.Basic

/-!
# Byte streams as a socket delivers and takes them

What a socket answers is listed in advance: for receiving, the chunks, silences
and errors in the order in which they happen; for sending, how much of each
request is taken.  A reader that collects a fixed number of bytes depends on the
chunks only through the bytes and errors in them, its atoms.
-/

namespace VTRemote

/-!
## Receiving
-/

/-- One thing that happens on the receiving side: bytes become readable, or it
is found silent by whoever asks without waiting, or a request fails, or the
peer has closed. -/
inductive Arrival (ε : Type) where
  | data (first : UInt8) (more : List UInt8)
  | quiet
  | fail (e : ε)
  | close
deriving DecidableEq

inductive Atom (ε : Type) where
  | byte (b : UInt8)
  | fail (e : ε)
  | eof
deriving DecidableEq

/-- How collecting bytes ends; `rest` is what has not happened yet. -/
inductive Fill (ε ρ : Type) where
  | done (bytes : List UInt8) (rest : ρ)
  | failed (e : ε) (got : List UInt8) (rest : ρ)
  | closed (got : List UInt8) (rest : ρ)
  | starved (got : List UInt8) (rest : ρ)

namespace Fill

def map {ε ρ ρ' : Type} (f : ρ -> ρ') : Fill ε ρ -> Fill ε ρ'
  | done bytes rest => done bytes (f rest)
  | failed e got rest => failed e got (f rest)
  | closed got rest => closed got (f rest)
  | starved got rest => starved got (f rest)

def rest {ε ρ : Type} : Fill ε ρ -> ρ
  | done _ rest => rest
  | failed _ _ rest => rest
  | closed _ rest => rest
  | starved _ rest => rest

end Fill

section Receiving

variable {ε : Type} [DecidableEq ε] (interrupt : ε)

def unread (chunk : List UInt8) (rest : List (Arrival ε)) : List (Arrival ε) :=
  match chunk with
  | [] => rest
  | b :: bs => .data b bs :: rest

/-- Collect `need` more bytes, one request after another; a request takes at
most what one chunk holds, and an interrupted one is made again. -/
def fill (need : Nat) (got : List UInt8) :
    List (Arrival ε) -> Fill ε (List (Arrival ε))
  | [] => if need = 0 then .done got [] else .starved got []
  | arrival :: rest =>
      if need = 0 then .done got (arrival :: rest)
      else
        match arrival with
        | .data b bs =>
            if need ≤ bs.length then
              .done (got ++ (b :: bs).take need) (unread ((b :: bs).drop need) rest)
            else fill (need - (bs.length + 1)) (got ++ b :: bs) rest
        | .quiet => fill need got rest
        | .fail e =>
            if e = interrupt then fill need got rest else .failed e got rest
        | .close => .closed got (.close :: rest)

/-- Nothing happens after the peer has closed. -/
def atoms : List (Arrival ε) -> List (Atom ε)
  | [] => []
  | .data b bs :: rest => (b :: bs).map .byte ++ atoms rest
  | .quiet :: rest => atoms rest
  | .fail e :: rest => if e = interrupt then atoms rest else .fail e :: atoms rest
  | .close :: _ => [.eof]

def fillAtoms : Nat -> List UInt8 -> List (Atom ε) -> Fill ε (List (Atom ε))
  | 0, got, as => .done got as
  | _ + 1, got, [] => .starved got []
  | n + 1, got, .byte b :: as => fillAtoms n (got ++ [b]) as
  | _ + 1, got, .fail e :: as => .failed e got as
  | _ + 1, got, .eof :: as => .closed got (.eof :: as)

omit [DecidableEq ε] in
theorem fillAtoms_bytes (n : Nat) (bytes got : List UInt8)
    (as : List (Atom ε)) :
    fillAtoms (bytes.length + n) got (bytes.map .byte ++ as) =
      fillAtoms n (got ++ bytes) as := by
  induction bytes generalizing got with
  | nil => simp
  | cons b rest ih =>
      rw [List.length_cons, Nat.add_right_comm]
      show fillAtoms (rest.length + n) (got ++ [b])
        (rest.map Atom.byte ++ as) = _
      rw [ih, List.append_assoc]
      rfl

omit [DecidableEq ε] in
theorem fillAtoms_done (bytes : List UInt8) (as : List (Atom ε)) :
    fillAtoms bytes.length [] (bytes.map .byte ++ as) = .done bytes as := by
  have h := fillAtoms_bytes 0 bytes [] as
  rw [Nat.add_zero] at h
  rw [h]
  rfl

theorem atoms_unread (chunk : List UInt8) (rest : List (Arrival ε)) :
    atoms interrupt (unread chunk rest) =
      chunk.map .byte ++ atoms interrupt rest := by
  cases chunk with
  | nil => rfl
  | cons b bs => rfl

/-- How the bytes are cut into chunks, and when the stream is silent or a
request interrupted, makes no difference to what is collected. -/
theorem fill_atoms (need : Nat) (got : List UInt8)
    (arrivals : List (Arrival ε)) :
    (fill interrupt need got arrivals).map (atoms interrupt) =
      fillAtoms need got (atoms interrupt arrivals) := by
  induction arrivals generalizing need got with
  | nil =>
      cases need with
      | zero => rfl
      | succ need => rfl
  | cons arrival rest ih =>
      cases need with
      | zero =>
          cases arrival <;> rfl
      | succ need =>
          unfold fill
          rw [if_neg (Nat.succ_ne_zero need)]
          cases arrival with
          | data b bs =>
              by_cases hle : need + 1 ≤ bs.length
              · have hsplit : (b :: bs).map Atom.byte ++ atoms interrupt rest =
                    ((b :: bs).take (need + 1)).map Atom.byte ++
                      atoms interrupt (unread ((b :: bs).drop (need + 1)) rest) := by
                  rw [atoms_unread, <- List.append_assoc, <- List.map_append,
                    List.take_append_drop]
                have hlen : ((b :: bs).take (need + 1)).length = need + 1 := by
                  rw [List.length_take, List.length_cons]
                  omega
                have hbytes := fillAtoms_bytes 0
                  ((b :: bs).take (need + 1)) got
                  (atoms interrupt (unread ((b :: bs).drop (need + 1)) rest))
                rw [hlen, Nat.add_zero] at hbytes
                simp only [if_pos hle]
                show _ = fillAtoms (need + 1) got
                  ((b :: bs).map Atom.byte ++ atoms interrupt rest)
                rw [hsplit, hbytes]
                rfl
              · have hneed : need + 1 =
                    (b :: bs).length + (need + 1 - (bs.length + 1)) := by
                  rw [List.length_cons]
                  omega
                have hbytes := fillAtoms_bytes (need + 1 - (bs.length + 1))
                  (b :: bs) got (atoms interrupt rest)
                rw [<- hneed] at hbytes
                simp only [if_neg hle]
                rw [ih]
                exact hbytes.symm
          | quiet => exact ih (need + 1) got
          | fail e =>
              by_cases he : e = interrupt
              · simp only [if_pos he, atoms]
                exact ih (need + 1) got
              · simp only [if_neg he, atoms]
                rfl
          | close => rfl

omit [DecidableEq ε] in
theorem fillAtoms_eq_done {n : Nat} {got bytes : List UInt8}
    {as rest : List (Atom ε)} (h : fillAtoms n got as = .done bytes rest) :
    exists more, bytes = got ++ more ∧ more.length = n ∧
      as = more.map .byte ++ rest := by
  induction as generalizing n got with
  | nil =>
      cases n with
      | zero =>
          cases h
          exact ⟨[], (List.append_nil _).symm, rfl, rfl⟩
      | succ n => cases h
  | cons a as ih =>
      cases n with
      | zero =>
          cases h
          exact ⟨[], (List.append_nil _).symm, rfl, rfl⟩
      | succ n =>
          cases a with
          | byte b =>
              rcases ih h with ⟨more, hbytes, hlen, has⟩
              refine ⟨b :: more, ?_, ?_, ?_⟩
              · rw [hbytes, List.append_assoc]
                rfl
              · rw [List.length_cons, hlen]
              · rw [has]
                rfl
          | fail e => cases h
          | eof => cases h

omit [DecidableEq ε] in
theorem fillAtoms_eq_failed {n : Nat} {got bytes : List UInt8} {e : ε}
    {as rest : List (Atom ε)} (h : fillAtoms n got as = .failed e bytes rest) :
    exists more, bytes = got ++ more ∧ more.length < n ∧
      as = more.map .byte ++ .fail e :: rest := by
  induction as generalizing n got with
  | nil =>
      cases n with
      | zero => cases h
      | succ n => cases h
  | cons a as ih =>
      cases n with
      | zero => cases h
      | succ n =>
          cases a with
          | byte b =>
              rcases ih h with ⟨more, hbytes, hlen, has⟩
              refine ⟨b :: more, ?_, ?_, ?_⟩
              · rw [hbytes, List.append_assoc]
                rfl
              · rw [List.length_cons]
                exact Nat.succ_lt_succ hlen
              · rw [has]
                rfl
          | fail e' =>
              cases h
              exact ⟨[], (List.append_nil _).symm, Nat.succ_pos n, rfl⟩
          | eof => cases h

/-- A bound on the requests that can still be answered. -/
def arrivalsLeft : List (Arrival ε) -> Nat
  | [] => 0
  | .data _ bs :: rest => bs.length + 1 + arrivalsLeft rest
  | .quiet :: rest => 1 + arrivalsLeft rest
  | .fail _ :: rest => 1 + arrivalsLeft rest
  | .close :: rest => 1 + arrivalsLeft rest

omit [DecidableEq ε] in
theorem arrivalsLeft_unread (chunk : List UInt8) (rest : List (Arrival ε)) :
    arrivalsLeft (unread chunk rest) = chunk.length + arrivalsLeft rest := by
  cases chunk with
  | nil =>
      show arrivalsLeft rest = 0 + arrivalsLeft rest
      rw [Nat.zero_add]
  | cons b bs => rfl

theorem arrivalsLeft_fill {need : Nat} {got bytes : List UInt8}
    {arrivals rest : List (Arrival ε)}
    (h : fill interrupt need got arrivals = .done bytes rest) :
    arrivalsLeft rest + need ≤ arrivalsLeft arrivals := by
  induction arrivals generalizing need got with
  | nil =>
      unfold fill at h
      by_cases hneed : need = 0
      · rw [if_pos hneed] at h
        cases h
        rw [hneed]
        exact Nat.le_refl _
      · rw [if_neg hneed] at h
        cases h
  | cons arrival arrivals ih =>
      unfold fill at h
      by_cases hneed : need = 0
      · rw [if_pos hneed] at h
        cases h
        rw [hneed]
        exact Nat.le_refl _
      · rw [if_neg hneed] at h
        cases arrival with
        | data b bs =>
            by_cases hle : need ≤ bs.length
            · simp only [if_pos hle] at h
              cases h
              rw [arrivalsLeft_unread, List.length_drop, List.length_cons]
              simp only [arrivalsLeft]
              omega
            · simp only [if_neg hle] at h
              have hrest := ih h
              simp only [arrivalsLeft]
              omega
        | quiet =>
            have hrest := ih h
            simp only [arrivalsLeft]
            omega
        | fail e =>
            by_cases he : e = interrupt
            · simp only [if_pos he] at h
              have hrest := ih h
              simp only [arrivalsLeft]
              omega
            · simp only [if_neg he] at h
              cases h
        | close => cases h

theorem arrivalsLeft_rest_le (need : Nat) (got : List UInt8)
    (arrivals : List (Arrival ε)) :
    arrivalsLeft (fill interrupt need got arrivals).rest ≤
      arrivalsLeft arrivals := by
  induction arrivals generalizing need got with
  | nil =>
      unfold fill
      split
      · exact Nat.le_refl _
      · exact Nat.le_refl _
  | cons arrival arrivals ih =>
      unfold fill
      split
      · exact Nat.le_refl _
      · cases arrival with
        | data b bs =>
            by_cases hle : need ≤ bs.length
            · simp only [if_pos hle]
              show arrivalsLeft (unread ((b :: bs).drop need) arrivals) ≤ _
              rw [arrivalsLeft_unread, List.length_drop, List.length_cons]
              simp only [arrivalsLeft]
              omega
            · simp only [if_neg hle]
              exact Nat.le_trans (ih _ _) (Nat.le_add_left _ _)
        | quiet => exact Nat.le_trans (ih _ _) (Nat.le_add_left _ _)
        | fail e =>
            by_cases he : e = interrupt
            · simp only [if_pos he]
              exact Nat.le_trans (ih _ _) (Nat.le_add_left _ _)
            · simp only [if_neg he]
              exact Nat.le_add_left _ _
        | close => exact Nat.le_refl _

end Receiving

/-!
## Sending
-/

inductive Departure (ε : Type) where
  | accept (n : Nat)
  | fail (e : ε)
deriving DecidableEq

/-- The answers to the requests to come, and what happens after those that are
listed: every request fails alike, or is taken whole. -/
structure Schedule (ε : Type) where
  next : List (Departure ε)
  broken : Option ε
deriving DecidableEq

inductive Stop (ε : Type) where
  | failed (e : ε)
  | zero
deriving DecidableEq

/-- How much was taken, why no more, and the answers to later requests. -/
structure Push (ε : Type) where
  accepted : Nat
  stop : Option (Stop ε)
  rest : List (Departure ε)

section Sending

variable {ε : Type} [DecidableEq ε] (interrupt : ε)

/-- Send `size` bytes, one request after another for all that is left; an
interrupted request is made again. -/
def push (broken : Option ε) (size : Nat) : List (Departure ε) -> Push ε
  | [] =>
      if size = 0 then ⟨0, none, []⟩
      else
        match broken with
        | none => ⟨size, none, []⟩
        | some e => ⟨0, some (.failed e), []⟩
  | answer :: rest =>
      if size = 0 then ⟨0, none, answer :: rest⟩
      else
        match answer with
        | .accept n =>
            if min n size = 0 then ⟨0, some .zero, rest⟩
            else
              let more := push broken (size - min n size) rest
              ⟨min n size + more.accepted, more.stop, more.rest⟩
        | .fail e =>
            if e = interrupt then push broken size rest
            else ⟨0, some (.failed e), rest⟩

theorem push_accepted (broken : Option ε) (size : Nat)
    (answers : List (Departure ε)) :
    ((push interrupt broken size answers).stop = none ∧
        (push interrupt broken size answers).accepted = size) ∨
      (exists stop, (push interrupt broken size answers).stop = some stop ∧
        (push interrupt broken size answers).accepted < size) := by
  induction answers generalizing size with
  | nil =>
      unfold push
      by_cases hzero : size = 0
      · left
        simp [hzero]
      · rw [if_neg hzero]
        cases broken with
        | none => exact Or.inl ⟨rfl, rfl⟩
        | some e => exact Or.inr ⟨_, rfl, Nat.pos_of_ne_zero hzero⟩
  | cons answer rest ih =>
      unfold push
      by_cases hzero : size = 0
      · left
        simp [hzero]
      · rw [if_neg hzero]
        cases answer with
        | accept n =>
            by_cases hnone : min n size = 0
            · right
              exact ⟨.zero, by simp only [if_pos hnone],
                by simp only [if_pos hnone]; exact Nat.pos_of_ne_zero hzero⟩
            · simp only [if_neg hnone]
              have hle : min n size ≤ size := Nat.min_le_right n size
              rcases ih (size - min n size) with
                ⟨hstop, hacc⟩ | ⟨stop, hstop, hacc⟩
              · left
                exact ⟨hstop, by omega⟩
              · right
                exact ⟨stop, hstop, by omega⟩
        | fail e =>
            by_cases he : e = interrupt
            · simp only [if_pos he]
              exact ih size
            · simp only [if_neg he]
              exact Or.inr ⟨_, rfl, Nat.pos_of_ne_zero hzero⟩

def Departure.refuses : Departure ε -> Bool
  | accept n => n == 0
  | fail _ => true

def Dead (s : Schedule ε) : Prop :=
  (forall answer, answer ∈ s.next -> answer.refuses = true) ∧
    s.broken ≠ none

instance (s : Schedule ε) : Decidable (Dead s) :=
  inferInstanceAs (Decidable ((forall answer, answer ∈ _ -> _) ∧ _))

theorem push_dead {broken : Option ε} {answers : List (Departure ε)}
    (h : Dead ⟨answers, broken⟩) (size : Nat) :
    (push interrupt broken size answers).accepted = 0 ∧
      Dead ⟨(push interrupt broken size answers).rest, broken⟩ := by
  rcases h with ⟨hnext, hbroken⟩
  simp only at hnext hbroken
  induction answers with
  | nil =>
      unfold push
      by_cases hzero : size = 0
      · rw [if_pos hzero]
        exact ⟨rfl, hnext, hbroken⟩
      · rw [if_neg hzero]
        cases broken with
        | none => exact absurd rfl hbroken
        | some e => exact ⟨rfl, hnext, hbroken⟩
  | cons answer rest ih =>
      have hrest : forall answer, answer ∈ rest -> answer.refuses = true := by
        intro a ha
        exact hnext a (List.mem_cons_of_mem answer ha)
      unfold push
      by_cases hzero : size = 0
      · rw [if_pos hzero]
        exact ⟨rfl, hnext, hbroken⟩
      · rw [if_neg hzero]
        cases answer with
        | accept n =>
            have hn : n = 0 :=
              eq_of_beq (hnext (.accept n) List.mem_cons_self)
            have hmin : min n size = 0 := by
              rw [hn]
              exact Nat.zero_min size
            simp only [if_pos hmin]
            exact ⟨trivial, hrest, hbroken⟩
        | fail e =>
            by_cases he : e = interrupt
            · simp only [if_pos he]
              exact ih hrest
            · simp only [if_neg he]
              exact ⟨trivial, hrest, hbroken⟩

/-- Every request is granted in the end. -/
def Reliable (s : Schedule ε) : Prop :=
  (forall answer, answer ∈ s.next ->
    (exists n, answer = .accept (n + 1)) ∨ answer = .fail interrupt) ∧
    s.broken = none

theorem push_reliable {answers : List (Departure ε)}
    (h : Reliable interrupt ⟨answers, none⟩) (size : Nat) :
    (push interrupt none size answers).accepted = size ∧
      (push interrupt none size answers).stop = none ∧
      Reliable interrupt ⟨(push interrupt none size answers).rest, none⟩ := by
  induction answers generalizing size with
  | nil =>
      unfold push
      by_cases hzero : size = 0
      · rw [if_pos hzero]
        exact ⟨hzero.symm, rfl, h⟩
      · rw [if_neg hzero]
        exact ⟨rfl, rfl, h⟩
  | cons answer rest ih =>
      have hrest : Reliable interrupt ⟨rest, none⟩ := by
        refine ⟨?_, rfl⟩
        intro a ha
        exact h.1 a (List.mem_cons_of_mem answer ha)
      unfold push
      by_cases hzero : size = 0
      · rw [if_pos hzero]
        exact ⟨hzero.symm, rfl, h⟩
      · rw [if_neg hzero]
        rcases h.1 answer List.mem_cons_self with ⟨n, rfl⟩ | rfl
        · have hmin : min (n + 1) size ≠ 0 := by omega
          have hle : min (n + 1) size ≤ size := Nat.min_le_right _ _
          simp only [if_neg hmin]
          rcases ih hrest (size - min (n + 1) size) with ⟨hacc, hstop, hrel⟩
          exact ⟨by omega, hstop, hrel⟩
        · simp only [if_pos]
          exact ih hrest size

end Sending
end VTRemote
