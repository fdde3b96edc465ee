import Mathlib.Data.List.Basic

/-!
# Base 64

Bytes are written in letters of six bits, three bytes in four letters; what is left over is filled
up with zeros.  A reader passes over what is no letter.

* `Alphabet.encode`, `Alphabet.decode` — the text of bytes, and the bytes of a text.
* `Alphabet.decode_encode` — what is written is read back.
-/

set_option autoImplicit false

namespace Base64

variable {σ : Type}

/-- The letters of sixty-four values. -/
structure Alphabet (σ : Type) where
  letter : Nat → σ
  value : σ → Option Nat
  value_letter : ∀ n < 64, value (letter n) = some n

/-- The values of the letters that bytes are written in. -/
def sextets : List UInt8 → List Nat
  | a :: b :: c :: rest =>
    a.toNat / 4 :: (a.toNat % 4 * 16 + b.toNat / 16) :: (b.toNat % 16 * 4 + c.toNat / 64) ::
      c.toNat % 64 :: sextets rest
  | [a, b] => [a.toNat / 4, a.toNat % 4 * 16 + b.toNat / 16, b.toNat % 16 * 4]
  | [a] => [a.toNat / 4, a.toNat % 4 * 16]
  | [] => []

/-- The bytes that are written in letters of these values; a single letter says nothing. -/
def octets : List Nat → List UInt8
  | w :: x :: y :: z :: rest =>
    UInt8.ofNat (w * 4 + x / 16) :: UInt8.ofNat (x % 16 * 16 + y / 4) ::
      UInt8.ofNat (y % 4 * 64 + z) :: octets rest
  | [w, x, y] => [UInt8.ofNat (w * 4 + x / 16), UInt8.ofNat (x % 16 * 16 + y / 4)]
  | [w, x] => [UInt8.ofNat (w * 4 + x / 16)]
  | _ => []

theorem ofNat_eq {a : UInt8} {n : Nat} (h : n = a.toNat) : UInt8.ofNat n = a := by
  rw [h, UInt8.ofNat_toNat]

theorem octets_sextets (input : List UInt8) : octets (sextets input) = input := by
  fun_induction sextets input with
  | case1 a b c rest ih =>
    have ha := a.toNat_lt
    have hb := b.toNat_lt
    have hc := c.toNat_lt
    rw [octets, ih, ofNat_eq (a := a) (by omega), ofNat_eq (a := b) (by omega),
      ofNat_eq (a := c) (by omega)]
  | case2 a b =>
    have ha := a.toNat_lt
    have hb := b.toNat_lt
    rw [octets, ofNat_eq (a := a) (by omega), ofNat_eq (a := b) (by omega)]
  | case3 a =>
    have ha := a.toNat_lt
    rw [octets, ofNat_eq (a := a) (by omega)]
  | case4 => rfl

theorem sextets_lt (input : List UInt8) : ∀ n ∈ sextets input, n < 64 := by
  fun_induction sextets input with
  | case1 a b c rest ih =>
    have ha := a.toNat_lt
    have hb := b.toNat_lt
    have hc := c.toNat_lt
    simp only [List.forall_mem_cons]
    exact ⟨by omega, by omega, by omega, by omega, ih⟩
  | case2 a b =>
    have ha := a.toNat_lt
    have hb := b.toNat_lt
    simp only [List.forall_mem_cons]
    exact ⟨by omega, by omega, by omega, fun _ h => nomatch h⟩
  | case3 a =>
    have ha := a.toNat_lt
    simp only [List.forall_mem_cons]
    exact ⟨by omega, by omega, fun _ h => nomatch h⟩
  | case4 => exact fun _ h => nomatch h

namespace Alphabet

variable (A : Alphabet σ)

def encode (input : List UInt8) : List σ := (sextets input).map A.letter

def decode (text : List σ) : List UInt8 := octets (text.filterMap A.value)

/-- **What is written is read back.** -/
theorem decode_encode (input : List UInt8) : A.decode (A.encode input) = input := by
  have hvalues : (A.encode input).filterMap A.value = sextets input := by
    rw [encode, List.filterMap_map]
    refine (List.filterMap_congr fun n hn => ?_).trans List.filterMap_some
    exact A.value_letter n (sextets_lt input n hn)
  rw [decode, hvalues, octets_sextets]

end Alphabet

end Base64
