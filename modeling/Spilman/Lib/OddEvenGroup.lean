/-
# Groups of prime order with odd and even elements

A group of prime order whose elements other than zero are labelled odd or even,
such that an element and its negative have different labels: the points of a
curve, labelled by their vertical coordinate. Of two points with the same
horizontal coordinate one is even, and it is the one a key without its label
stands for. A scalar and the point it generates are negated in the same cases, so
shifting the one by a scalar and the other by its point come to the same.
-/

import Mathlib.Data.ZMod.Basic
import Mathlib.GroupTheory.OrderOfElement

namespace Spilman.Lib

/-- A group of prime order with a generator and a labelling that negation flips. -/
structure OddEvenGroup (G : Type) [AddCommGroup G] where
  order : Nat
  prime : order.Prime
  card : Nat.card G = order
  generator : G
  generator_ne_zero : generator ≠ 0
  odd : G → Bool
  odd_neg : ∀ point ≠ 0, odd (-point) = !odd point

namespace OddEvenGroup

variable {G : Type} [AddCommGroup G] (C : OddEvenGroup G)

instance : NeZero C.order := ⟨C.prime.ne_zero⟩

/-- Multiples of an element by a scalar. -/
def times (s : ZMod C.order) (point : G) : G := s.val • point

/-- The element a scalar generates. -/
def base (s : ZMod C.order) : G := C.times s C.generator

/-- The even one of an element and its negative. -/
def even (point : G) : G := if C.odd point then -point else point

/-- The scalar of the even element. -/
def evenScalar (s : ZMod C.order) : ZMod C.order := if C.odd (C.base s) then -s else s

variable {C}

theorem times_add (s t : ZMod C.order) (point : G) :
    C.times (s + t) point = C.times s point + C.times t point := by
  have modulo (n : Nat) : (n % C.order) • point = n • point := by
    rw [← C.card]
    exact mod_natCard_nsmul point n
  rw [times, ZMod.val_add, modulo, add_nsmul, times, times]

theorem times_neg (s : ZMod C.order) (point : G) : C.times (-s) point = -C.times s point := by
  refine eq_neg_of_add_eq_zero_left ?_
  rw [← times_add, neg_add_cancel, times, ZMod.val_zero, zero_nsmul]

theorem times_comm (s t : ZMod C.order) (point : G) :
    C.times s (C.times t point) = C.times t (C.times s point) := by
  rw [times, times, times, times, nsmul_left_comm]

theorem base_eq_zero {s : ZMod C.order} : C.base s = 0 ↔ s = 0 := by
  have period : C.order • C.generator = 0 := C.card ▸ card_nsmul_eq_zero'
  have order : addOrderOf C.generator = C.order :=
    haveI := Fact.mk C.prime
    addOrderOf_eq_prime period C.generator_ne_zero
  rw [base, times, ← addOrderOf_dvd_iff_nsmul_eq_zero, order, ← ZMod.val_eq_zero]
  exact ⟨fun divides => Nat.eq_zero_of_dvd_of_lt divides (ZMod.val_lt s),
    fun zero => zero ▸ dvd_zero _⟩

/-- The scalar is negated in the cases its element is. -/
theorem base_evenScalar (s : ZMod C.order) : C.base (C.evenScalar s) = C.even (C.base s) := by
  unfold evenScalar even
  split_ifs
  · exact times_neg s _
  · rfl

/-- A shifted key is zero exactly when its shifted scalar is. -/
theorem even_add_base_eq_zero {s t : ZMod C.order} :
    C.even (C.base s) + C.base t = 0 ↔ C.evenScalar s + t = 0 := by
  rw [← base_evenScalar, ← base_eq_zero]
  exact Eq.congr_left (times_add _ _ _).symm

end OddEvenGroup

end Spilman.Lib
