import Mathlib.Data.Int.Bitwise
import Mathlib.Tactic.NormNum

/-!
# C result codes and integers

The client reports failures as negative `int` codes.  A code carries its
sign, so that a failed call can never be mistaken for a successful one.
-/

namespace VTRemote

structure Errno where
  code : Nat
  pos : 0 < code
deriving DecidableEq

structure AvError where
  code : Int
  neg : code < 0
deriving DecidableEq

def averror (e : Errno) : AvError where
  code := -e.code
  neg := by
    have h := e.pos
    omega

def fferrtag (a b c d : Char) : Int :=
  -((a.toNat + b.toNat * 2 ^ 8 + c.toNat * 2 ^ 16 + d.toNat * 2 ^ 24 : Nat) : Int)

def eintr : Errno := ⟨4, by decide⟩

def eio : Errno := ⟨5, by decide⟩

/-- `EAGAIN`, which is also `EWOULDBLOCK`. -/
def eagain : Errno := ⟨11, by decide⟩

def enomem : Errno := ⟨12, by decide⟩

def eacces : Errno := ⟨13, by decide⟩

def efault : Errno := ⟨14, by decide⟩

def einval : Errno := ⟨22, by decide⟩

def epipe : Errno := ⟨32, by decide⟩

def averrorEof : AvError := ⟨fferrtag 'E' 'O' 'F' ' ', by decide⟩

def averrorInvaliddata : AvError := ⟨fferrtag 'I' 'N' 'D' 'A', by decide⟩

def averrorBug : AvError := ⟨fferrtag 'B' 'U' 'G' '!', by decide⟩

def averrorBufferTooSmall : AvError := ⟨fferrtag 'B' 'U' 'F' 'S', by decide⟩

def averrorExternal : AvError := ⟨fferrtag 'E' 'X' 'T' ' ', by decide⟩

theorem averror_injective {e f : Errno} (h : averror e = averror f) :
    e = f := by
  cases e with
  | mk n hn =>
      cases f with
      | mk m hm =>
          simp only [averror, AvError.mk.injEq] at h
          have hnm : n = m := by omega
          subst hnm
          rfl

theorem averrorEof_ne_eagain : averrorEof ≠ averror eagain := by decide

/-!
## The C int type
-/

def intMax : Int := 2147483647

/-- Conversion to a 32-bit `int`. -/
def cInt (n : Int) : Int := Int.bmod n 4294967296

theorem cInt_eq {n : Int} (h0 : -2147483648 ≤ n) (h1 : n ≤ intMax) :
    cInt n = n := by
  unfold intMax at h1
  unfold cInt
  rw [Int.bmod_def]
  split <;> omega

theorem cInt_natCast {n : Nat} (h : n ≤ 2147483647) : cInt n = n := by
  apply cInt_eq (by omega)
  unfold intMax
  omega

/-- A length that was put into a word of 32 bits is an `int` again. -/
theorem cInt_uint32_ofNat {n : Nat} (h : n ≤ 2147483647) :
    cInt (UInt32.ofNat n).toNat = n := by
  rw [UInt32.toNat_ofNat_of_lt' (Nat.lt_of_le_of_lt h (by decide))]
  exact cInt_natCast h

theorem uint32_ofInt_toNat {n : Nat} (h : n < 2 ^ 32) :
    (UInt32.ofInt n).toNat = n := by
  have hmod : ((n : Int) % 2 ^ 32).toNat = n := by
    rw [Int.emod_eq_of_lt (Int.natCast_nonneg n) (by exact_mod_cast h),
      Int.toNat_natCast]
  unfold UInt32.ofInt
  rw [hmod]
  exact UInt32.toNat_ofNat_of_lt' h

theorem uint16_ofInt_natCast {n : Nat} (h : n < 2 ^ 16) :
    UInt16.ofInt n = UInt16.ofNat n := by
  have hmod : ((n : Int) % 2 ^ 16).toNat = n := by
    rw [Int.emod_eq_of_lt (Int.natCast_nonneg n) (by exact_mod_cast h),
      Int.toNat_natCast]
  unfold UInt16.ofInt
  rw [hmod]

theorem cInt_uint32 {n : Nat} (h : n < 4294967296) :
    cInt n = if n < 2147483648 then (n : Int) else n - 4294967296 := by
  unfold cInt
  rw [Int.bmod_def]
  split <;> split <;> omega

/-!
## Accumulated results

`ret |= call` keeps a result that is zero when every call returned zero
and negative when one of them did not.
-/

theorem lor_eq_zero {a b : Int} (ha : a ≤ 0) (hb : b ≤ 0) :
    Int.lor a b = 0 <-> a = 0 ∧ b = 0 := by
  cases a with
  | ofNat m =>
      have hm : m = 0 := by simpa using ha
      subst hm
      cases b with
      | ofNat n =>
          have hn : n = 0 := by simpa using hb
          subst hn
          simp [Int.lor]
      | negSucc n => simp [Int.lor]
  | negSucc m =>
      cases b with
      | ofNat n => simp [Int.lor]
      | negSucc n => simp [Int.lor]

theorem zero_lor (a : Int) : Int.lor 0 a = a := by
  cases a with
  | ofNat n => simp [Int.lor]
  | negSucc n =>
      have hldiff : Nat.ldiff n 0 = n := by
        apply Nat.eq_of_testBit_eq
        intro i
        simp
      show Int.negSucc (Nat.ldiff n 0) = Int.negSucc n
      rw [hldiff]

theorem lor_nonpos {a b : Int} (ha : a ≤ 0) (hb : b ≤ 0) :
    Int.lor a b ≤ 0 := by
  cases a with
  | ofNat m =>
      have hm : m = 0 := by simpa using ha
      subst hm
      cases b with
      | ofNat n =>
          have hn : n = 0 := by simpa using hb
          subst hn
          simp [Int.lor]
      | negSucc n => exact Int.le_of_lt (Int.negSucc_lt_zero _)
  | negSucc m =>
      cases b with
      | ofNat n => exact Int.le_of_lt (Int.negSucc_lt_zero _)
      | negSucc n => exact Int.le_of_lt (Int.negSucc_lt_zero _)

end VTRemote
