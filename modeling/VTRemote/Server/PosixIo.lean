import VTRemote.Library.ByteStream
import VTRemote.Proto.Error
import VTRemote.Server.ByteBuffer

/-!
# Reading and writing a file descriptor

`POSIXIO` of the daemon.  What the kernel will answer is listed in advance, as
on the client's side.
-/

namespace VTRemote
namespace PosixIo

variable (strerror : Int -> String)

def errnoError (e : Errno) : Failure :=
  .thrown (.ioError e.code (strerror e.code))

/-!
## writev
-/

/-- `while remaining > 0 && !iovecs.isEmpty`.  The bytes that an `iovec` still
points to stand for it. -/
def adjust : Nat -> List (List UInt8) -> List (List UInt8)
  | _, [] => []
  | remaining, iovec :: rest =>
      if remaining = 0 then iovec :: rest
      else if iovec.length ≤ remaining then adjust (remaining - iovec.length) rest
      else iovec.drop remaining :: rest

/-- The bytes that the kernel took, how the call ended, and the answers to later
requests. -/
structure Written where
  taken : List UInt8
  result : Except Failure Unit
  rest : List (Departure Errno)

/-- `while totalWritten < totalExpected`. -/
def writevLoop (broken : Option Errno) (totalExpected totalWritten : Nat)
    (iovecs : List (List UInt8)) : List (Departure Errno) -> Written
  | [] =>
      if totalExpected ≤ totalWritten then ⟨[], .ok (), []⟩
      else if 2147483647 < iovecs.length then ⟨[], .error .trapped, []⟩
      else
        match broken with
        | none => ⟨iovecs.flatten, .ok (), []⟩
        | some e => ⟨[], .error (errnoError strerror e), []⟩
  | answer :: rest =>
      if totalExpected ≤ totalWritten then ⟨[], .ok (), answer :: rest⟩
      else if 2147483647 < iovecs.length then ⟨[], .error .trapped, answer :: rest⟩
      else
        match answer with
        | .fail e =>
            if e = eintr then
              writevLoop broken totalExpected totalWritten iovecs rest
            else ⟨[], .error (errnoError strerror e), rest⟩
        | .accept n =>
            let written := min n iovecs.flatten.length
            if written = 0 then
              ⟨[], .error (.thrown (.ioError 0 "writev returned 0")), rest⟩
            else if totalWritten + written = totalExpected then
              ⟨iovecs.flatten.take written, .ok (), rest⟩
            else
              let more := writevLoop broken totalExpected
                (totalWritten + written) (adjust written iovecs) rest
              ⟨iovecs.flatten.take written ++ more.taken, more.result, more.rest⟩

def writev (out : Schedule Errno) (parts : List (List UInt8)) : Written :=
  writevLoop strerror out.broken (parts.map List.length).sum 0 parts out.next

/-!
## What is written
-/

theorem adjust_flatten (remaining : Nat) (iovecs : List (List UInt8)) :
    (adjust remaining iovecs).flatten = iovecs.flatten.drop remaining := by
  induction iovecs generalizing remaining with
  | nil => exact List.drop_nil.symm
  | cons iovec rest ih =>
      unfold adjust
      by_cases hzero : remaining = 0
      · rw [if_pos hzero, hzero, List.drop_zero]
      · rw [if_neg hzero]
        by_cases hle : iovec.length ≤ remaining
        · rw [if_pos hle, ih, List.flatten_cons, List.drop_append,
            List.drop_eq_nil_of_le hle, List.nil_append]
        · rw [if_neg hle, List.flatten_cons, List.flatten_cons,
            List.drop_append_of_le_length (by omega)]

theorem adjust_length_le (remaining : Nat) (iovecs : List (List UInt8)) :
    (adjust remaining iovecs).length ≤ iovecs.length := by
  induction iovecs generalizing remaining with
  | nil => exact Nat.le_refl 0
  | cons iovec rest ih =>
      unfold adjust
      split
      · exact Nat.le_refl _
      · split
        · exact Nat.le_trans (ih _) (Nat.le_succ _)
        · exact Nat.le_refl _

def stopFailure : Stop Errno -> Failure
  | .failed e => errnoError strerror e
  | .zero => .thrown (.ioError 0 "writev returned 0")

/-- The loop takes what a write of the bytes in one piece takes, and ends as
that does. -/
theorem writevLoop_push (broken : Option Errno) {totalExpected totalWritten : Nat}
    {iovecs : List (List UInt8)} (answers : List (Departure Errno))
    (htotal : totalWritten + iovecs.flatten.length = totalExpected)
    (hcount : iovecs.length ≤ 2147483647) :
    let run := writevLoop strerror broken totalExpected totalWritten iovecs answers
    let sent := push eintr broken iovecs.flatten.length answers
    run.taken = iovecs.flatten.take sent.accepted ∧ run.rest = sent.rest ∧
      run.result = match sent.stop with
        | none => .ok ()
        | some stop => .error (stopFailure strerror stop) := by
  induction answers generalizing totalWritten iovecs with
  | nil =>
      unfold writevLoop push
      by_cases hzero : iovecs.flatten.length = 0
      · rw [if_pos (by omega), if_pos hzero]
        exact ⟨rfl, rfl, rfl⟩
      · rw [if_neg (by omega), if_neg hzero, if_neg (by omega)]
        cases broken with
        | none => exact ⟨List.take_length.symm, rfl, rfl⟩
        | some e => exact ⟨rfl, rfl, rfl⟩
  | cons answer rest ih =>
      unfold writevLoop push
      by_cases hzero : iovecs.flatten.length = 0
      · rw [if_pos (by omega), if_pos hzero]
        exact ⟨rfl, rfl, rfl⟩
      · rw [if_neg (by omega), if_neg hzero, if_neg (by omega)]
        cases answer with
        | fail e =>
            by_cases he : e = eintr
            · simp only [if_pos he]
              exact ih htotal hcount
            · simp only [if_neg he]
              exact ⟨rfl, trivial, rfl⟩
        | accept n =>
            dsimp only
            generalize hwritten : min n iovecs.flatten.length = written
            by_cases hnone : written = 0
            · simp only [if_pos hnone]
              exact ⟨rfl, trivial, rfl⟩
            · simp only [if_neg hnone]
              by_cases hall : totalWritten + written = totalExpected
              · have hrest : iovecs.flatten.length - written = 0 := by omega
                simp only [if_pos hall, hrest]
                cases rest with
                | nil => exact ⟨rfl, rfl, rfl⟩
                | cons next rest => exact ⟨rfl, rfl, rfl⟩
              · have hflat := adjust_flatten written iovecs
                have hlen : (adjust written iovecs).flatten.length =
                    iovecs.flatten.length - written := by
                  rw [hflat, List.length_drop]
                have hcount' := Nat.le_trans (adjust_length_le written iovecs)
                  hcount
                have hmore := @ih (totalWritten + written)
                  (adjust written iovecs) (by omega) hcount'
                simp only [if_neg hall]
                rw [hlen, hflat] at hmore
                rcases hmore with ⟨htaken, hleft, hresult⟩
                refine ⟨?_, hleft, hresult⟩
                simp only [htaken]
                exact (List.take_add).symm

theorem writev_push (out : Schedule Errno) {parts : List (List UInt8)}
    (hcount : parts.length ≤ 2147483647) :
    let run := writev strerror out parts
    let sent := push eintr out.broken parts.flatten.length out.next
    run.taken = parts.flatten.take sent.accepted ∧ run.rest = sent.rest ∧
      run.result = match sent.stop with
        | none => .ok ()
        | some stop => .error (stopFailure strerror stop) := by
  apply writevLoop_push strerror out.broken out.next _ hcount
  rw [Nat.zero_add, List.length_flatten]

theorem writev_trapped (out : Schedule Errno) {parts : List (List UInt8)}
    (hcount : 2147483647 < parts.length) (hpos : 0 < parts.flatten.length) :
    writev strerror out parts = ⟨[], .error .trapped, out.next⟩ := by
  have hsum : ¬ (parts.map List.length).sum ≤ 0 := by
    rw [<- List.length_flatten]
    exact Nat.not_le.mpr hpos
  unfold writev
  cases out.next with
  | nil =>
      unfold writevLoop
      rw [if_neg hsum, if_pos hcount]
  | cons answer rest =>
      unfold writevLoop
      rw [if_neg hsum, if_pos hcount]

/-- Whatever the kernel answers, what it took is the beginning of the parts, and
all of them if the call returned. -/
theorem writev_taken (out : Schedule Errno) (parts : List (List UInt8)) :
    (writev strerror out parts).taken <+: parts.flatten ∧
      ((writev strerror out parts).result = .ok () ->
        (writev strerror out parts).taken = parts.flatten) := by
  by_cases hcount : parts.length ≤ 2147483647
  · rcases writev_push strerror out hcount with ⟨htaken, _, hresult⟩
    rw [htaken, hresult]
    refine ⟨List.take_prefix _ _, ?_⟩
    intro hok
    rcases push_accepted eintr out.broken parts.flatten.length out.next with
      ⟨_, hall⟩ | ⟨stop, hstop, _⟩
    · rw [hall, List.take_length]
    · rw [hstop] at hok
      cases hok
  · by_cases hpos : 0 < parts.flatten.length
    · rw [writev_trapped strerror out (Nat.lt_of_not_le hcount) hpos]
      refine ⟨List.nil_prefix, ?_⟩
      intro hok
      cases hok
    · have hnil : parts.flatten = [] := by
        apply List.eq_nil_of_length_eq_zero
        omega
      have hnothing : (writev strerror out parts).taken = [] := by
        have hsum : (parts.map List.length).sum ≤ 0 := by
          rw [<- List.length_flatten]
          omega
        unfold writev
        cases out.next with
        | nil =>
            unfold writevLoop
            rw [if_pos hsum]
        | cons answer rest =>
            unfold writevLoop
            rw [if_pos hsum]
      rw [hnothing, hnil]
      exact ⟨List.nil_prefix, fun _ => rfl⟩

/-!
## readExact
-/

inductive ReadRun where
  | done (buffer : List UInt8) (rest : List (Arrival Errno))
  | failed (error : Failure) (buffer : List UInt8) (rest : List (Arrival Errno))
  | starved (buffer : List UInt8)

def stored (buffer : List UInt8) (pos : Nat) (bytes : List UInt8) : List UInt8 :=
  buffer.take pos ++ bytes ++ buffer.drop (pos + bytes.length)

/-- `while got < count`.  At the end of the stream `errno` is what an earlier
call left there. -/
def readExactLoop (errno : Int) (count got : Nat) (buffer : List UInt8) :
    List (Arrival Errno) -> ReadRun
  | [] => if count ≤ got then .done buffer [] else .starved buffer
  | arrival :: rest =>
      if count ≤ got then .done buffer (arrival :: rest)
      else
        match arrival with
        | .data b bs =>
            let bytes := (b :: bs).take (count - got)
            let buffer := stored buffer got bytes
            if count ≤ got + bytes.length then
              .done buffer (unread ((b :: bs).drop (count - got)) rest)
            else readExactLoop errno count (got + bytes.length) buffer rest
        | .quiet => readExactLoop errno count got buffer rest
        | .fail e => .failed (errnoError strerror e) buffer rest
        | .close =>
            .failed (.thrown (.ioError errno (strerror errno))) buffer
              (.close :: rest)

/-- `buffer.count = count`. -/
def resize (buffer : List UInt8) (count : Nat) : List UInt8 :=
  buffer.take count ++ List.replicate (count - buffer.length) 0

def readExact (errno : Int) (buffer : List UInt8) (count : Nat)
    (incoming : List (Arrival Errno)) : ReadRun :=
  readExactLoop strerror errno count 0 (resize buffer count) incoming

/-- A positive result of `poll` is no error. -/
def pollReadable (incoming : List (Arrival Errno)) :
    Option (Except Failure Unit × List (Arrival Errno)) :=
  match incoming with
  | [] => none
  | .quiet :: rest =>
      some (.error (.thrown (.ioError 0 "poll timed out")), rest)
  | .fail e :: rest =>
      if e = eintr then
        some (.error (.thrown (.ioError (-1) "poll timed out")), rest)
      else some (.ok (), .fail e :: rest)
  | incoming => some (.ok (), incoming)

/-!
## What is read
-/

def beforeFailure : List (Arrival Errno) -> List UInt8
  | [] => []
  | .data b bs :: rest => b :: bs ++ beforeFailure rest
  | .quiet :: rest => beforeFailure rest
  | .fail _ :: _ => []
  | .close :: _ => []

theorem beforeFailure_unread (chunk : List UInt8) (rest : List (Arrival Errno)) :
    beforeFailure (unread chunk rest) = chunk ++ beforeFailure rest := by
  cases chunk with
  | nil => rfl
  | cons b bs => rfl

theorem beforeFailure_atoms (incoming : List (Arrival Errno)) :
    (beforeFailure incoming).map Atom.byte <+: atoms eintr incoming := by
  induction incoming with
  | nil => exact List.nil_prefix
  | cons arrival rest ih =>
      cases arrival with
      | data b bs =>
          show (b :: bs ++ beforeFailure rest).map Atom.byte <+:
            (b :: bs).map Atom.byte ++ atoms eintr rest
          rw [List.map_append]
          exact (List.prefix_append_right_inj _).mpr ih
      | quiet => exact ih
      | fail e => exact List.nil_prefix
      | close => exact List.nil_prefix

theorem resize_length (buffer : List UInt8) (count : Nat) :
    (resize buffer count).length = count := by
  unfold resize
  rw [List.length_append, List.length_take, List.length_replicate]
  omega

theorem stored_take {buffer bytes : List UInt8} {pos : Nat}
    (h : pos + bytes.length ≤ buffer.length) :
    (stored buffer pos bytes).length = buffer.length ∧
      (stored buffer pos bytes).take (pos + bytes.length) =
        buffer.take pos ++ bytes := by
  have hfront : (buffer.take pos ++ bytes).length = pos + bytes.length := by
    rw [List.length_append, List.length_take]
    omega
  unfold stored
  constructor
  · rw [List.length_append, hfront, List.length_drop]
    omega
  · rw [<- hfront, List.take_left]

theorem quiet_of_unread {chunk : List UInt8} {rest : List (Arrival Errno)}
    (h : .quiet ∈ unread chunk rest) : .quiet ∈ rest := by
  cases chunk with
  | nil => exact h
  | cons b bs =>
      rcases List.mem_cons.mp h with heq | hmem
      · cases heq
      · exact hmem

section Requests

variable (errno : Int) {count got : Nat} {buffer : List UInt8} {b : UInt8}
variable {bs : List UInt8} {rest : List (Arrival Errno)}

theorem readExactLoop_full (h : count ≤ got) (incoming : List (Arrival Errno)) :
    readExactLoop strerror errno count got buffer incoming =
      .done buffer incoming := by
  cases incoming with
  | nil => exact if_pos h
  | cons arrival rest => exact if_pos h

theorem readExactLoop_last (hbuffer : buffer.length = count) (hmissing : got < count)
    (hle : count - got ≤ (b :: bs).length) :
    readExactLoop strerror errno count got buffer (.data b bs :: rest) =
      .done (buffer.take got ++ (b :: bs).take (count - got))
        (unread ((b :: bs).drop (count - got)) rest) := by
  have hlength : ((b :: bs).take (count - got)).length = count - got :=
    List.length_take_of_le hle
  have hsum : got + ((b :: bs).take (count - got)).length = count := by
    rw [hlength]
    exact Nat.add_sub_cancel' (Nat.le_of_lt hmissing)
  have hstored := @stored_take buffer ((b :: bs).take (count - got)) got
    (Nat.le_of_eq (hsum.trans hbuffer.symm))
  have hwhole := hstored.2
  rw [hsum, List.take_of_length_le
    (Nat.le_of_eq (hstored.1.trans hbuffer))] at hwhole
  rw [readExactLoop, if_neg (Nat.not_le.mpr hmissing)]
  dsimp only
  rw [if_pos (Nat.le_of_eq hsum.symm), hwhole]

theorem readExactLoop_more (hmore : (b :: bs).length < count - got) :
    readExactLoop strerror errno count got buffer (.data b bs :: rest) =
      readExactLoop strerror errno count (got + (b :: bs).length)
        (stored buffer got (b :: bs)) rest := by
  have hwhole : (b :: bs).take (count - got) = b :: bs :=
    List.take_of_length_le (Nat.le_of_lt hmore)
  rw [readExactLoop, if_neg (by omega)]
  dsimp only
  rw [hwhole, if_neg (by omega)]

end Requests

theorem readExactLoop_done (errno : Int) {count got : Nat} {buffer : List UInt8}
    {incoming : List (Arrival Errno)} (hbuffer : buffer.length = count)
    (hgot : got ≤ count)
    (henough : count - got ≤ (beforeFailure incoming).length) :
    exists rest, readExactLoop strerror errno count got buffer incoming =
        .done (buffer.take got ++ (beforeFailure incoming).take (count - got))
          rest ∧
      beforeFailure rest = (beforeFailure incoming).drop (count - got) ∧
      (.quiet ∈ rest -> .quiet ∈ incoming) := by
  induction incoming generalizing got buffer with
  | nil =>
      have hzero : count - got = 0 := Nat.eq_zero_of_le_zero henough
      have hcount : count ≤ got := Nat.le_of_sub_eq_zero hzero
      refine ⟨[], ?_, ?_, fun h => h⟩
      · rw [readExactLoop_full strerror errno hcount, hzero, List.take_zero,
          List.append_nil, List.take_of_length_le (hbuffer.symm ▸ hcount)]
      · rw [hzero, List.drop_zero]
  | cons arrival rest ih =>
      rcases Nat.lt_or_ge got count with hmissing | hcount
      · cases arrival with
        | data b bs =>
            rcases Nat.lt_or_ge (b :: bs).length (count - got) with hmore | hlast
            · have hstored := @stored_take buffer (b :: bs) got (by omega)
              have hlen : (beforeFailure (.data b bs :: rest)).length =
                  (b :: bs).length + (beforeFailure rest).length :=
                List.length_append
              have hneed : count - (got + (b :: bs).length) =
                  count - got - (b :: bs).length := Nat.sub_add_eq count got _
              rcases @ih (got + (b :: bs).length) (stored buffer got (b :: bs))
                (hstored.1.trans hbuffer) (by omega) (by omega) with
                ⟨last, hloop, hrest, hquiet⟩
              refine ⟨last, ?_, ?_, ?_⟩
              · rw [readExactLoop_more strerror errno hmore, hloop, hstored.2, hneed,
                  List.append_assoc]
                show ReadRun.done (_ ++ (_ ++ _)) _ = .done (_ ++
                  (b :: bs ++ beforeFailure rest).take (count - got)) _
                rw [List.take_append, List.take_of_length_le (Nat.le_of_lt hmore)]
              · rw [hrest, hneed]
                show _ = (b :: bs ++ beforeFailure rest).drop (count - got)
                rw [List.drop_append, List.drop_eq_nil_of_le (Nat.le_of_lt hmore),
                  List.nil_append]
              · intro hmem
                exact List.mem_cons_of_mem _ (hquiet hmem)
            · refine ⟨unread ((b :: bs).drop (count - got)) rest, ?_, ?_, ?_⟩
              · rw [readExactLoop_last strerror errno hbuffer hmissing hlast]
                show _ = ReadRun.done (_ ++
                  (b :: bs ++ beforeFailure rest).take (count - got)) _
                rw [List.take_append_of_le_length hlast]
              · rw [beforeFailure_unread]
                show _ = (b :: bs ++ beforeFailure rest).drop (count - got)
                rw [List.drop_append_of_le_length hlast]
              · intro hmem
                exact List.mem_cons_of_mem _ (quiet_of_unread hmem)
        | quiet =>
            rcases ih hbuffer hgot henough with ⟨last, hloop, hrest, hquiet⟩
            refine ⟨last, ?_, hrest, fun hmem => List.mem_cons_of_mem _ (hquiet hmem)⟩
            rw [readExactLoop, if_neg (Nat.not_le.mpr hmissing)]
            exact hloop
        | fail e =>
            exact absurd henough (Nat.not_le.mpr (Nat.sub_pos_of_lt hmissing))
        | close =>
            exact absurd henough (Nat.not_le.mpr (Nat.sub_pos_of_lt hmissing))
      · have hzero : count - got = 0 := Nat.sub_eq_zero_of_le hcount
        refine ⟨arrival :: rest, ?_, ?_, fun h => h⟩
        · rw [readExactLoop_full strerror errno hcount, hzero, List.take_zero,
            List.append_nil, List.take_of_length_le (hbuffer.symm ▸ hcount)]
        · rw [hzero, List.drop_zero]

theorem readExactLoop_not_done (errno : Int) {count got : Nat}
    {buffer : List UInt8} {incoming : List (Arrival Errno)}
    (hshort : (beforeFailure incoming).length < count - got)
    (bytes : List UInt8) (rest : List (Arrival Errno)) :
    readExactLoop strerror errno count got buffer incoming ≠ .done bytes rest := by
  have hmissing : ¬ count ≤ got := by omega
  induction incoming generalizing got buffer with
  | nil =>
      rw [readExactLoop, if_neg hmissing]
      intro h
      cases h
  | cons arrival more ih =>
      cases arrival with
      | data b bs =>
          have hlen : (beforeFailure (.data b bs :: more)).length =
              (b :: bs).length + (beforeFailure more).length :=
            List.length_append
          rw [readExactLoop_more strerror errno (by omega)]
          exact ih (by omega) (by omega)
      | quiet =>
          rw [readExactLoop, if_neg hmissing]
          exact ih hshort hmissing
      | fail e =>
          rw [readExactLoop, if_neg hmissing]
          intro h
          cases h
      | close =>
          rw [readExactLoop, if_neg hmissing]
          intro h
          cases h

/-- The buffer is filled exactly when enough bytes arrive before a failure; it
then holds these bytes and no old ones. -/
theorem readExact_eq_done {errno : Int} {buffer bytes : List UInt8} {count : Nat}
    {incoming rest : List (Arrival Errno)}
    (h : readExact strerror errno buffer count incoming = .done bytes rest) :
    count ≤ (beforeFailure incoming).length ∧
      bytes = (beforeFailure incoming).take count ∧
      beforeFailure rest = (beforeFailure incoming).drop count := by
  by_cases henough : count ≤ (beforeFailure incoming).length
  · rcases readExactLoop_done strerror errno (resize_length buffer count)
      (Nat.zero_le count) henough with ⟨rest', hloop, hrest, _⟩
    unfold readExact at h
    rw [hloop] at h
    cases h
    exact ⟨henough, List.nil_append _, hrest⟩
  · exact absurd h (readExactLoop_not_done strerror errno
      (Nat.lt_of_not_le henough) bytes rest)

theorem readExact_done (errno : Int) (buffer : List UInt8)
    {bytes later : List UInt8} {incoming : List (Arrival Errno)}
    (h : beforeFailure incoming = bytes ++ later) :
    exists rest, readExact strerror errno buffer bytes.length incoming =
        .done bytes rest ∧
      beforeFailure rest = later ∧ (.quiet ∈ rest -> .quiet ∈ incoming) := by
  have henough : bytes.length - 0 ≤ (beforeFailure incoming).length := by
    rw [h, List.length_append]
    exact Nat.le_add_right _ _
  rcases readExactLoop_done strerror errno (resize_length buffer bytes.length)
    (Nat.zero_le _) henough with ⟨rest, hloop, hrest, hquiet⟩
  rw [h, Nat.sub_zero, List.take_left] at hloop
  rw [h, Nat.sub_zero, List.drop_left] at hrest
  exact ⟨rest, hloop, hrest, hquiet⟩

end PosixIo
end VTRemote
