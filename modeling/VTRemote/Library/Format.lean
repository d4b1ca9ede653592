import VTRemote.Library.BigEndian

/-!
# Wire formats

A format pairs an encoder of values into bytes with a decoder of a prefix of a
byte string, and carries the two laws that make them inverse: decoding an
encoding gives the value back and leaves the bytes behind it alone, and a
decoded prefix is the encoding of what was decoded.

The last section relates readers that walk a buffer with a cursor to decoders
of the bytes still ahead of the cursor.
-/

namespace VTRemote

abbrev Decoder (α : Type) := StateT (List UInt8) Option α

/-- An encoder and a prefix decoder that are inverse to each other. -/
structure Format (α : Type) where
  encode : α -> List UInt8
  decode : Decoder α
  decode_encode : forall (a : α) (rest : List UInt8),
    decode (encode a ++ rest) = some (a, rest)
  encode_decode : forall (bytes : List UInt8) (a : α) (rest : List UInt8),
    decode bytes = some (a, rest) -> bytes = encode a ++ rest

namespace Decoder

def take (n : Nat) : Decoder (List UInt8) := fun bytes =>
  if n ≤ bytes.length then some (bytes.take n, bytes.drop n) else none

theorem take_append {n : Nat} {front : List UInt8} (rest : List UInt8)
    (h : front.length = n) :
    take n (front ++ rest) = some (front, rest) := by
  subst h
  simp [take]

theorem take_eq_some {n : Nat} {bytes front rest : List UInt8}
    (h : take n bytes = some (front, rest)) :
    bytes = front ++ rest ∧ front.length = n := by
  unfold take at h
  split at h
  · rename_i hle
    cases h
    exact ⟨(List.take_append_drop n bytes).symm, by simp [hle]⟩
  · cases h

theorem take_eq_none {n : Nat} {bytes : List UInt8} :
    take n bytes = none <-> bytes.length < n := by
  unfold take
  split <;> simp <;> omega

def require (c : Bool) : Decoder Unit := fun bytes =>
  if c then some ((), bytes) else none

def ifAny {α : Type} (default : α) (d : Decoder α) : Decoder α := fun bytes =>
  if bytes.isEmpty then some (default, bytes) else d bytes

def times {α : Type} (d : Decoder α) : Nat -> Decoder (List α)
  | 0 => pure []
  | n + 1 => do
      let a ← d
      let rest ← times d n
      pure (a :: rest)

theorem bind_eq_some {α β : Type} {d : Decoder α} {e : α -> Decoder β}
    {bytes rest : List UInt8} {b : β} :
    (d >>= e) bytes = some (b, rest) <->
      exists a mid, d bytes = some (a, mid) ∧ e a mid = some (b, rest) := by
  simp only [bind, StateT.bind]
  cases hd : d bytes with
  | none => simp
  | some p =>
      rcases p with ⟨a, mid⟩
      simp

theorem bind_of_some {α β : Type} {d : Decoder α} (e : α -> Decoder β)
    {bytes mid : List UInt8} {a : α} (h : d bytes = some (a, mid)) :
    (d >>= e) bytes = e a mid := by
  simp only [bind, StateT.bind, h]
  rfl

theorem bind_of_none {α β : Type} {d : Decoder α} (e : α -> Decoder β)
    {bytes : List UInt8} (h : d bytes = none) :
    (d >>= e) bytes = none := by
  simp only [bind, StateT.bind, h]
  rfl

theorem times_length {α : Type} {d : Decoder α} {n : Nat}
    {bytes rest : List UInt8} {xs : List α}
    (h : times d n bytes = some (xs, rest)) : xs.length = n := by
  induction n generalizing bytes xs with
  | zero =>
      cases h
      rfl
  | succ n ih =>
      rcases bind_eq_some.mp h with ⟨x, mid, _, h⟩
      rcases bind_eq_some.mp h with ⟨tail, mid', htail, h⟩
      cases h
      rw [List.length_cons, ih htail]

theorem map_ifAny {α β : Type} (view : α -> β) (default : α) (d : Decoder α) :
    view <$> ifAny default d = ifAny (view default) (view <$> d) := by
  funext bytes
  cases bytes with
  | nil => rfl
  | cons b rest => rfl

end Decoder

namespace Format

open BigEndian

theorem exists_of_length {α : Type} (f : Format α) {n m : Nat}
    {bytes : List UInt8}
    (hwidth : forall a, (f.encode a).length = n)
    (hnone : f.decode bytes = none -> bytes.length < n)
    (h : n + m ≤ bytes.length) :
    exists a rest, bytes = f.encode a ++ rest ∧ m ≤ rest.length := by
  cases hd : f.decode bytes with
  | none =>
      have hshort := hnone hd
      omega
  | some p =>
      rcases p with ⟨a, rest⟩
      have hsplit := f.encode_decode _ _ _ hd
      refine ⟨a, rest, hsplit, ?_⟩
      rw [hsplit, List.length_append, hwidth] at h
      omega

/-!
## Words
-/

def u8 : Format UInt8 where
  encode v := [v]
  decode
    | b :: rest => some (b, rest)
    | [] => none
  decode_encode _ _ := rfl
  encode_decode bytes a rest h := by
    cases bytes with
    | nil => cases h
    | cons b tail =>
        cases h
        rfl

theorem u8_decode_none {bytes : List UInt8}
    (h : u8.decode bytes = none) : bytes.length < 1 := by
  by_contra hlen
  have hsplit := List.take_append_drop 1 bytes
  have hfront : (bytes.take 1).length = 1 := by
    rw [List.length_take]
    omega
  rw [<- hsplit] at h
  match bytes.take 1, hfront, h with
  | [b0], _, h => cases h

theorem load16_store16 (v : UInt16) :
    load16 (v >>> 8).toUInt8 v.toUInt8 = v := by
  apply UInt16.toNat_inj.mp
  have h := store16_eq v
  rw [load16_toNat]
  show value (store16 v) = v.toNat
  rw [h, value_digits (by simpa using v.toNat_lt)]

private theorem store16_load16 (b0 b1 : UInt8) :
    store16 (load16 b0 b1) = [b0, b1] := by
  rw [store16_eq, load16_toNat]
  exact digits_value [b0, b1]

def u16 : Format UInt16 where
  encode := store16
  decode
    | b0 :: b1 :: rest => some (load16 b0 b1, rest)
    | _ => none
  decode_encode v rest := by
    show some (load16 _ _, rest) = _
    rw [load16_store16]
  encode_decode bytes a rest h := by
    match bytes, h with
    | b0 :: b1 :: tail, h =>
        cases h
        rw [store16_load16]
        rfl

theorem load32_store32 (v : UInt32) :
    load32 (v >>> 24).toUInt8 (v >>> 16).toUInt8 (v >>> 8).toUInt8 v.toUInt8 =
      v := by
  apply UInt32.toNat_inj.mp
  have h := store32_eq v
  rw [load32_toNat]
  show value (store32 v) = v.toNat
  rw [h, value_digits (by simpa using v.toNat_lt)]

private theorem store32_load32 (b0 b1 b2 b3 : UInt8) :
    store32 (load32 b0 b1 b2 b3) = [b0, b1, b2, b3] := by
  rw [store32_eq, load32_toNat]
  exact digits_value [b0, b1, b2, b3]

def u32 : Format UInt32 where
  encode := store32
  decode
    | b0 :: b1 :: b2 :: b3 :: rest => some (load32 b0 b1 b2 b3, rest)
    | _ => none
  decode_encode v rest := by
    show some (load32 _ _ _ _, rest) = _
    rw [load32_store32]
  encode_decode bytes a rest h := by
    match bytes, h with
    | b0 :: b1 :: b2 :: b3 :: tail, h =>
        cases h
        rw [store32_load32]
        rfl

theorem u32_decode_none {bytes : List UInt8}
    (h : u32.decode bytes = none) : bytes.length < 4 := by
  by_contra hlen
  have hsplit := List.take_append_drop 4 bytes
  have hfront : (bytes.take 4).length = 4 := by
    rw [List.length_take]
    omega
  rw [<- hsplit] at h
  match bytes.take 4, hfront, h with
  | [b0, b1, b2, b3], _, h => cases h

theorem u32_split {bytes : List UInt8} {m : Nat} (h : 4 + m ≤ bytes.length) :
    exists v rest, bytes = u32.encode v ++ rest ∧ m ≤ rest.length :=
  u32.exists_of_length (fun _ => rfl) u32_decode_none h

theorem load64_store64 (v : UInt64) :
    load64 (v >>> 56).toUInt8 (v >>> 48).toUInt8 (v >>> 40).toUInt8
      (v >>> 32).toUInt8 (v >>> 24).toUInt8 (v >>> 16).toUInt8
      (v >>> 8).toUInt8 v.toUInt8 = v := by
  apply UInt64.toNat_inj.mp
  have h := store64_eq v
  rw [load64_toNat]
  show value (store64 v) = v.toNat
  rw [h, value_digits (by simpa using v.toNat_lt)]

private theorem store64_load64 (b0 b1 b2 b3 b4 b5 b6 b7 : UInt8) :
    store64 (load64 b0 b1 b2 b3 b4 b5 b6 b7) =
      [b0, b1, b2, b3, b4, b5, b6, b7] := by
  rw [store64_eq, load64_toNat]
  exact digits_value [b0, b1, b2, b3, b4, b5, b6, b7]

def u64 : Format UInt64 where
  encode := store64
  decode
    | b0 :: b1 :: b2 :: b3 :: b4 :: b5 :: b6 :: b7 :: rest =>
        some (load64 b0 b1 b2 b3 b4 b5 b6 b7, rest)
    | _ => none
  decode_encode v rest := by
    show some (load64 _ _ _ _ _ _ _ _, rest) = _
    rw [load64_store64]
  encode_decode bytes a rest h := by
    match bytes, h with
    | b0 :: b1 :: b2 :: b3 :: b4 :: b5 :: b6 :: b7 :: tail, h =>
        cases h
        rw [store64_load64]
        rfl

theorem u64_decode_none {bytes : List UInt8}
    (h : u64.decode bytes = none) : bytes.length < 8 := by
  by_contra hlen
  have hsplit := List.take_append_drop 8 bytes
  have hfront : (bytes.take 8).length = 8 := by
    rw [List.length_take]
    omega
  rw [<- hsplit] at h
  match bytes.take 8, hfront, h with
  | [b0, b1, b2, b3, b4, b5, b6, b7], _, h => cases h

theorem u64_split {bytes : List UInt8} {m : Nat} (h : 8 + m ≤ bytes.length) :
    exists v rest, bytes = u64.encode v ++ rest ∧ m ≤ rest.length :=
  u64.exists_of_length (fun _ => rfl) u64_decode_none h

/-!
## Counted sections

A counter is a word format together with the range of numbers its words denote.
-/

/-- A word format whose words stand for the numbers below a bound. -/
structure Counter (ν : Type) where
  format : Format ν
  toNat : ν -> Nat
  ofNat : Nat -> ν
  bound : Nat
  toNat_lt : forall v, toNat v < bound
  toNat_ofNat : forall n, n < bound -> toNat (ofNat n) = n
  ofNat_toNat : forall v, ofNat (toNat v) = v

def count16 : Counter UInt16 where
  format := u16
  toNat := UInt16.toNat
  ofNat := UInt16.ofNat
  bound := 2 ^ 16
  toNat_lt := UInt16.toNat_lt
  toNat_ofNat n h := by simpa using Nat.mod_eq_of_lt h
  ofNat_toNat _ := UInt16.ofNat_toNat

def count32 : Counter UInt32 where
  format := u32
  toNat := UInt32.toNat
  ofNat := UInt32.ofNat
  bound := 2 ^ 32
  toNat_lt := UInt32.toNat_lt
  toNat_ofNat n h := by simpa using Nat.mod_eq_of_lt h
  ofNat_toNat _ := UInt32.ofNat_toNat

def blobDecoder {ν : Type} (c : Counter ν) : Decoder (List UInt8) := do
  let n ← c.format.decode
  Decoder.take (c.toNat n)

theorem blobDecoder_count16 :
    blobDecoder count16 = (u16.decode >>= fun n => Decoder.take n.toNat) := rfl

theorem blobDecoder_count32 :
    blobDecoder count32 = (u32.decode >>= fun n => Decoder.take n.toNat) := rfl

theorem blobDecoder_append {ν : Type} (c : Counter ν)
    {bytes : List UInt8} (rest : List UInt8) (h : bytes.length < c.bound) :
    blobDecoder c (c.format.encode (c.ofNat bytes.length) ++ bytes ++ rest) =
      some (bytes, rest) := by
  have hn := c.format.decode_encode (c.ofNat bytes.length) (bytes ++ rest)
  rw [List.append_assoc, blobDecoder, Decoder.bind_of_some _ hn]
  exact Decoder.take_append rest (c.toNat_ofNat _ h).symm

theorem blobDecoder_eq_some {ν : Type} {c : Counter ν}
    {bytes front rest : List UInt8}
    (h : blobDecoder c bytes = some (front, rest)) :
    front.length < c.bound ∧
      bytes = c.format.encode (c.ofNat front.length) ++ front ++ rest := by
  rcases Decoder.bind_eq_some.mp h with ⟨n, mid, hn, h⟩
  rcases Decoder.take_eq_some h with ⟨hmid, hlen⟩
  constructor
  · rw [hlen]
    exact c.toNat_lt n
  · rw [c.format.encode_decode _ _ _ hn, hmid, hlen, c.ofNat_toNat,
      List.append_assoc]

end Format

theorem Decoder.times_flatMap {α : Type} {d : Decoder α}
    (encode : α -> List UInt8) (xs : List α)
    (h : forall x, x ∈ xs -> forall rest, d (encode x ++ rest) = some (x, rest))
    (rest : List UInt8) :
    Decoder.times d xs.length (xs.flatMap encode ++ rest) =
      some (xs, rest) := by
  induction xs with
  | nil => rfl
  | cons x xs ih =>
      have hx := h x List.mem_cons_self (xs.flatMap encode ++ rest)
      have htail := ih fun y hy => h y (List.mem_cons_of_mem x hy)
      rw [List.flatMap_cons, List.append_assoc]
      simp only [List.length_cons, Decoder.times]
      rw [Decoder.bind_of_some _ hx, Decoder.bind_of_some _ htail]
      rfl

/-!
## Cursor readers

A reader walks a buffer of some type `ρ`; `ahead` gives the bytes it has not
yet read.  A reader follows a decoder when it succeeds wherever the decoder
does, with the same value and the same bytes left; it refuses with a decoder
when it also fails wherever the decoder does.
-/

section Readers

variable {ρ ε α β : Type}

def readRequire (c : Bool) (e : ε) : StateT ρ (Except ε) Unit := fun r =>
  if c then .ok ((), r) else .error e

def readTimes (read : StateT ρ (Except ε) α) :
    Nat -> StateT ρ (Except ε) (List α)
  | 0 => pure []
  | n + 1 => do
      let a ← read
      let rest ← readTimes read n
      pure (a :: rest)

def Follows (ok : ρ -> Prop) (ahead : ρ -> List UInt8)
    (read : StateT ρ (Except ε) α) (d : Decoder α) : Prop :=
  forall r a rest, ok r -> d (ahead r) = some (a, rest) ->
    exists r', read r = .ok (a, r') ∧ ok r' ∧ ahead r' = rest

def Refuses (ok : ρ -> Prop) (ahead : ρ -> List UInt8)
    (read : StateT ρ (Except ε) α) (d : Decoder α) : Prop :=
  forall r, ok r -> d (ahead r) = none -> exists e, read r = .error e

variable {ok : ρ -> Prop} {ahead : ρ -> List UInt8}

theorem Follows.pure (a : α) :
    Follows ok ahead (Pure.pure a : StateT ρ (Except ε) α) (Pure.pure a) := by
  intro r b rest hok h
  cases h
  exact ⟨r, rfl, hok, rfl⟩

theorem Refuses.pure (a : α) :
    Refuses ok ahead (Pure.pure a : StateT ρ (Except ε) α) (Pure.pure a) := by
  intro r hok h
  cases h

theorem bind_of_ok {read : StateT ρ (Except ε) α}
    {next : α -> StateT ρ (Except ε) β} {r r' : ρ} {a : α}
    (h : read r = .ok (a, r')) : (read >>= next) r = next a r' := by
  simp only [bind, StateT.bind, h]
  rfl

theorem bind_of_error {read : StateT ρ (Except ε) α}
    {next : α -> StateT ρ (Except ε) β} {r : ρ} {e : ε}
    (h : read r = .error e) : (read >>= next) r = .error e := by
  simp only [bind, StateT.bind, h]
  rfl

theorem bind_eq_ok {read : StateT ρ (Except ε) α}
    {next : α -> StateT ρ (Except ε) β} {r r' : ρ} {b : β}
    (h : (read >>= next) r = .ok (b, r')) :
    exists a mid, read r = .ok (a, mid) ∧ next a mid = .ok (b, r') := by
  cases hread : read r with
  | error e =>
      rw [bind_of_error hread] at h
      cases h
  | ok p =>
      rcases p with ⟨a, mid⟩
      rw [bind_of_ok hread] at h
      exact ⟨a, mid, rfl, h⟩

theorem Follows.of_map {read : StateT ρ (Except ε) β} {d : Decoder α}
    {view : α -> β} (h : Follows ok ahead read (view <$> d)) {r : ρ} {a : α}
    {rest : List UInt8} (hok : ok r) (hsome : d (ahead r) = some (a, rest)) :
    exists r', read r = .ok (view a, r') ∧ ok r' ∧ ahead r' = rest := by
  apply h r (view a) rest hok
  show (d >>= fun a => Pure.pure (view a)) (ahead r) = _
  rw [Decoder.bind_of_some _ hsome]
  rfl

theorem Refuses.of_map {read : StateT ρ (Except ε) β} {d : Decoder α}
    {view : α -> β} (h : Refuses ok ahead read (view <$> d)) {r : ρ}
    (hok : ok r) (hnone : d (ahead r) = none) :
    exists e, read r = .error e := by
  apply h r hok
  show (d >>= fun a => Pure.pure (view a)) (ahead r) = _
  exact Decoder.bind_of_none _ hnone

theorem Follows.bind {read : StateT ρ (Except ε) α} {d : Decoder α}
    {next : α -> StateT ρ (Except ε) β} {e : α -> Decoder β}
    (h : Follows ok ahead read d)
    (hnext : forall a, Follows ok ahead (next a) (e a)) :
    Follows ok ahead (read >>= next) (d >>= e) := by
  intro r b rest hok hsome
  rcases Decoder.bind_eq_some.mp hsome with ⟨a, mid, ha, hb⟩
  rcases h r a mid hok ha with ⟨r1, hread, hok1, hmid⟩
  rw [<- hmid] at hb
  rcases hnext a r1 b rest hok1 hb with ⟨r2, hread2, hok2, hrest⟩
  refine ⟨r2, ?_, hok2, hrest⟩
  rw [bind_of_ok hread, hread2]

/-- The rest may rely on what the decoder can return. -/
theorem Follows.bind_map_of {γ : Type} {read : StateT ρ (Except ε) β}
    {d : Decoder α} {view : α -> β} {next : β -> StateT ρ (Except ε) γ}
    {e : α -> Decoder γ} (h : Follows ok ahead read (view <$> d))
    (hnext : forall a bytes mid, d bytes = some (a, mid) ->
      Follows ok ahead (next (view a)) (e a)) :
    Follows ok ahead (read >>= next) (d >>= e) := by
  intro r c rest hok hsome
  rcases Decoder.bind_eq_some.mp hsome with ⟨a, mid, ha, hc⟩
  rcases h.of_map hok ha with ⟨r1, hread, hok1, hmid⟩
  rw [<- hmid] at hc
  rcases hnext a _ _ ha r1 c rest hok1 hc with ⟨r2, hread2, hok2, hrest⟩
  refine ⟨r2, ?_, hok2, hrest⟩
  rw [bind_of_ok hread, hread2]

theorem Follows.bind_map {γ : Type} {read : StateT ρ (Except ε) β}
    {d : Decoder α} {view : α -> β} {next : β -> StateT ρ (Except ε) γ}
    {e : α -> Decoder γ} (h : Follows ok ahead read (view <$> d))
    (hnext : forall a, Follows ok ahead (next (view a)) (e a)) :
    Follows ok ahead (read >>= next) (d >>= e) :=
  Follows.bind_map_of h fun a _ _ _ => hnext a

/-- After a test that both sides make, only its success matters. -/
theorem Follows.require_bind {c : Bool} {e : ε}
    {read : StateT ρ (Except ε) α} {d : Decoder α}
    (h : c = true -> Follows ok ahead read d) :
    Follows ok ahead (readRequire c e >>= fun _ => read)
      (Decoder.require c >>= fun _ => d) := by
  intro r a rest hok hsome
  cases c with
  | false => cases hsome
  | true => exact h rfl r a rest hok hsome

theorem Follows.ifAny {read : StateT ρ (Except ε) α}
    (body : StateT ρ (Except ε) α) {d : Decoder α} {default : α}
    (h : Follows ok ahead body d)
    (hempty : forall r, ok r -> ahead r = [] -> read r = .ok (default, r))
    (hany : forall r, ok r -> ahead r ≠ [] -> read r = body r) :
    Follows ok ahead read (d.ifAny default) := by
  intro r a rest hok hsome
  unfold Decoder.ifAny at hsome
  cases hahead : ahead r with
  | nil =>
      rw [hahead] at hsome
      cases hsome
      exact ⟨r, hempty r hok hahead, hok, hahead⟩
  | cons b bytes =>
      have hne : ahead r ≠ [] := by
        rw [hahead]
        exact List.cons_ne_nil b bytes
      rw [hany r hok hne]
      apply h r a rest hok
      rw [hahead] at hsome ⊢
      exact hsome

theorem Follows.times_map {read : StateT ρ (Except ε) β} {d : Decoder α}
    {view : α -> β} (h : Follows ok ahead read (view <$> d)) (n : Nat) :
    Follows ok ahead (readTimes read n) (List.map view <$> d.times n) := by
  induction n with
  | zero => exact Follows.pure []
  | succ n ih =>
      simp only [readTimes, Decoder.times, map_bind, map_pure]
      apply Follows.bind_map h
      intro a
      apply Follows.bind_map ih
      intro rest
      exact Follows.pure (view a :: rest.map view)

theorem Refuses.bind {read : StateT ρ (Except ε) α} {d : Decoder α}
    {next : α -> StateT ρ (Except ε) β} {e : α -> Decoder β}
    (hf : Follows ok ahead read d) (h : Refuses ok ahead read d)
    (hnext : forall a, Refuses ok ahead (next a) (e a)) :
    Refuses ok ahead (read >>= next) (d >>= e) := by
  intro r hok hnone
  cases hd : d (ahead r) with
  | none =>
      rcases h r hok hd with ⟨err, herr⟩
      exact ⟨err, bind_of_error herr⟩
  | some p =>
      rcases p with ⟨a, mid⟩
      rcases hf r a mid hok hd with ⟨r1, hread, hok1, hmid⟩
      rw [Decoder.bind_of_some _ hd, <- hmid] at hnone
      rcases hnext a r1 hok1 hnone with ⟨err, herr⟩
      exact ⟨err, by rw [bind_of_ok hread, herr]⟩

theorem Refuses.bind_map {γ : Type} {read : StateT ρ (Except ε) β}
    {d : Decoder α} {view : α -> β} {next : β -> StateT ρ (Except ε) γ}
    {e : α -> Decoder γ} (hf : Follows ok ahead read (view <$> d))
    (h : Refuses ok ahead read (view <$> d))
    (hnext : forall a, Refuses ok ahead (next (view a)) (e a)) :
    Refuses ok ahead (read >>= next) (d >>= e) := by
  intro r hok hnone
  cases hd : d (ahead r) with
  | none =>
      rcases h.of_map hok hd with ⟨err, herr⟩
      exact ⟨err, bind_of_error herr⟩
  | some p =>
      rcases p with ⟨a, mid⟩
      rcases hf.of_map hok hd with ⟨r1, hread, hok1, hmid⟩
      rw [Decoder.bind_of_some _ hd, <- hmid] at hnone
      rcases hnext a r1 hok1 hnone with ⟨err, herr⟩
      exact ⟨err, by rw [bind_of_ok hread, herr]⟩

theorem Refuses.require_bind {c : Bool} {e : ε}
    {read : StateT ρ (Except ε) α} {d : Decoder α}
    (h : c = true -> Refuses ok ahead read d) :
    Refuses ok ahead (readRequire c e >>= fun _ => read)
      (Decoder.require c >>= fun _ => d) := by
  intro r hok hnone
  cases c with
  | false => exact ⟨e, rfl⟩
  | true => exact h rfl r hok hnone

theorem Refuses.ifAny {read : StateT ρ (Except ε) α}
    (body : StateT ρ (Except ε) α) {d : Decoder α} {default : α}
    (h : Refuses ok ahead body d)
    (hany : forall r, ok r -> ahead r ≠ [] -> read r = body r) :
    Refuses ok ahead read (d.ifAny default) := by
  intro r hok hnone
  unfold Decoder.ifAny at hnone
  cases hahead : ahead r with
  | nil =>
      rw [hahead] at hnone
      cases hnone
  | cons b rest =>
      rw [hahead] at hnone
      rw [hany r hok (hahead ▸ List.cons_ne_nil b rest)]
      exact h r hok (hahead ▸ hnone)

theorem Refuses.times_map {read : StateT ρ (Except ε) β} {d : Decoder α}
    {view : α -> β} (hf : Follows ok ahead read (view <$> d))
    (h : Refuses ok ahead read (view <$> d)) (n : Nat) :
    Refuses ok ahead (readTimes read n) (List.map view <$> d.times n) := by
  induction n with
  | zero => exact Refuses.pure []
  | succ n ih =>
      simp only [readTimes, Decoder.times, map_bind, map_pure]
      apply Refuses.bind_map hf h
      intro a
      apply Refuses.bind_map (Follows.times_map hf n) ih
      intro rest
      exact Refuses.pure _

end Readers
end VTRemote
