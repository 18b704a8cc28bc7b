/-
# Greedy change-making with a fee on each coin

An amount is paid by going once through a list of denominations and taking as
many coins of each as still fit. Nothing is assumed of the list: it may be
unsorted, and the coin system need not be canonical, so the number of coins is
not monotone in the amount.

What does hold, as soon as the list has the unit coin, is that one more unit of
value costs at most one more coin (`size_coins_succ_le`). A fee of less than
one unit per coin, rounded up, therefore grows by at most one unit when the
amount does, and the value left after the fee is monotone (`afterFee_mono`).
-/

import Mathlib.Algebra.Order.BigOperators.Group.List
import Mathlib.Order.Monotone.Basic
import Mathlib.Tactic.Common
import Mathlib.Tactic.Linarith

namespace Spilman.Lib.Greedy

/-! ## Coins and remainder -/

/-- What is left of an amount after the greedy pass. -/
def remainder : List Nat → Nat → Nat
  | [], amount => amount
  | coin :: coins, amount => remainder coins (amount % coin)

/-- The coins taken by the greedy pass with how many of each, in list order. -/
def coins : List Nat → Nat → List (Nat × Nat)
  | [], _ => []
  | coin :: rest, amount =>
      if amount / coin = 0 then coins rest amount
      else (coin, amount / coin) :: coins rest (amount % coin)

/-- Total value of a collection of coins. -/
def value (taken : List (Nat × Nat)) : Nat := (taken.map fun pile => pile.1 * pile.2).sum

/-- Number of coins in a collection. -/
def size (taken : List (Nat × Nat)) : Nat := (taken.map Prod.snd).sum

@[simp]
theorem value_nil : value [] = 0 := rfl

@[simp]
theorem value_cons (pile : Nat × Nat) (taken : List (Nat × Nat)) :
    value (pile :: taken) = pile.1 * pile.2 + value taken := by simp [value]

@[simp]
theorem size_nil : size [] = 0 := rfl

@[simp]
theorem size_cons (pile : Nat × Nat) (taken : List (Nat × Nat)) :
    size (pile :: taken) = pile.2 + size taken := by simp [size]

/-- A coin that does not fit leaves the amount as it is. -/
theorem mod_eq_self_of_div_eq_zero {amount coin : Nat} (none : amount / coin = 0) :
    amount % coin = amount := by
  have split := Nat.div_add_mod amount coin
  rw [none, Nat.mul_zero] at split
  omega

theorem remainder_cons_of_div_eq_zero {amount coin : Nat} (rest : List Nat)
    (none : amount / coin = 0) :
    remainder (coin :: rest) amount = remainder rest amount := by
  rw [remainder, mod_eq_self_of_div_eq_zero none]

/-- The coins taken and the remainder make up the amount. -/
theorem value_coins_add_remainder (denominations : List Nat) (amount : Nat) :
    value (coins denominations amount) + remainder denominations amount = amount := by
  induction denominations generalizing amount with
  | nil => simp [coins, remainder]
  | cons coin rest ih =>
      by_cases none : amount / coin = 0
      · rw [coins, if_pos none, remainder_cons_of_div_eq_zero rest none]
        exact ih amount
      · rw [coins, if_neg none, remainder, value_cons]
        have tail := ih (amount % coin)
        have split := Nat.div_add_mod amount coin
        simp only
        omega

/-- The number of coins, one denomination at a time. -/
theorem size_coins_cons (coin : Nat) (rest : List Nat) (amount : Nat) :
    size (coins (coin :: rest) amount) =
      amount / coin + size (coins rest (amount % coin)) := by
  by_cases none : amount / coin = 0
  · rw [coins, if_pos none, mod_eq_self_of_div_eq_zero none, none, Nat.zero_add]
  · rw [coins, if_neg none, size_cons]

@[simp]
theorem coins_zero (denominations : List Nat) : coins denominations 0 = [] := by
  induction denominations with
  | nil => rfl
  | cons coin rest ih => simp [coins, ih]

@[simp]
theorem remainder_zero (denominations : List Nat) : remainder denominations 0 = 0 := by
  induction denominations with
  | nil => rfl
  | cons coin rest ih => simp [remainder, ih]

/-- No amount needs more coins than it has units. -/
theorem size_coins_le (denominations : List Nat) (amount : Nat) :
    size (coins denominations amount) ≤ amount := by
  induction denominations generalizing amount with
  | nil => simp [coins]
  | cons coin rest ih =>
      rw [size_coins_cons]
      have tail := ih (amount % coin)
      have split := Nat.div_add_mod amount coin
      rcases Nat.eq_zero_or_pos coin with rfl | positive
      · simp only [Nat.div_zero, Nat.mod_zero] at *
        omega
      · have : amount / coin ≤ coin * (amount / coin) := Nat.le_mul_of_pos_left _ positive
        omega

/-- With the unit coin every amount is paid exactly. -/
theorem remainder_eq_zero {denominations : List Nat} (unit : 1 ∈ denominations)
    (amount : Nat) : remainder denominations amount = 0 := by
  induction denominations generalizing amount with
  | nil => cases unit
  | cons coin rest ih =>
      rcases List.mem_cons.mp unit with rfl | later
      · simp [remainder, Nat.mod_one]
      · exact ih later _

/-- **One more unit costs at most one more coin.** Either the last block of
the first denomination is not full, and the smaller denominations pay for the
unit, or the unit completes a block and one coin replaces all smaller ones. -/
theorem size_coins_succ_le {denominations : List Nat} (unit : 1 ∈ denominations)
    (amount : Nat) :
    size (coins denominations (amount + 1)) ≤ size (coins denominations amount) + 1 := by
  induction denominations generalizing amount with
  | nil => cases unit
  | cons coin rest ih =>
      rw [size_coins_cons, size_coins_cons]
      rcases Nat.eq_zero_or_pos coin with rfl | positive
      · have later : 1 ∈ rest := by simpa using unit
        simpa using ih later amount
      · have block := Nat.mod_lt amount positive
        by_cases full : amount % coin + 1 = coin
        · have complete : amount + 1 = coin * (amount / coin + 1) := by
            have split := Nat.div_add_mod amount coin
            rw [Nat.mul_add, Nat.mul_one]
            omega
          rw [complete, Nat.mul_div_cancel_left _ positive, Nat.mul_mod_right, coins_zero,
            size_nil]
          omega
        · have later : 1 ∈ rest := by
            rcases List.mem_cons.mp unit with rfl | later
            · omega
            · exact later
          have next : (amount + 1) % coin = amount % coin + 1 := by
            rw [Nat.add_mod, Nat.mod_eq_of_lt (a := 1) (by omega),
              Nat.mod_eq_of_lt (by omega)]
          have quotient : (amount + 1) / coin = amount / coin := by
            rw [Nat.succ_div, if_neg]
            · rfl
            · intro divides
              have := Nat.mod_eq_zero_of_dvd divides
              omega
          have tail := ih later (amount % coin)
          rw [quotient, next]
          omega

/-! ## Which coins are taken -/

/-- A coin that is taken is listed, positive, taken at least once and no larger
than the amount. -/
theorem of_mem_coins {denominations : List Nat} {amount : Nat} {pile : Nat × Nat}
    (taken : pile ∈ coins denominations amount) :
    pile.1 ∈ denominations ∧ 0 < pile.1 ∧ 0 < pile.2 ∧ pile.1 ≤ amount := by
  induction denominations generalizing amount with
  | nil => cases taken
  | cons coin rest ih =>
      by_cases none : amount / coin = 0
      · rw [coins, if_pos none] at taken
        obtain ⟨listed, bounds⟩ := ih taken
        exact ⟨List.mem_cons_of_mem _ listed, bounds⟩
      · rw [coins, if_neg none] at taken
        rcases List.mem_cons.mp taken with rfl | later
        · have positive : 0 < coin := by
            rcases Nat.eq_zero_or_pos coin with rfl | positive
            · simp at none
            · exact positive
          have fits : coin ≤ amount := by
            by_contra small
            exact none (Nat.div_eq_of_lt (by omega))
          exact ⟨List.mem_cons_self, positive, Nat.pos_of_ne_zero none, fits⟩
        · obtain ⟨listed, positive, many, small⟩ := ih later
          exact ⟨List.mem_cons_of_mem _ listed, positive, many,
            small.trans (Nat.mod_le _ _)⟩

/-- A pile of coins is worth no more than the amount. -/
theorem mul_le_of_mem_coins {denominations : List Nat} {amount : Nat} {pile : Nat × Nat}
    (taken : pile ∈ coins denominations amount) : pile.1 * pile.2 ≤ amount := by
  have part : pile.1 * pile.2 ≤ value (coins denominations amount) :=
    List.single_le_sum (fun _ _ => Nat.zero_le _) _ (List.mem_map_of_mem taken)
  have whole := value_coins_add_remainder denominations amount
  omega

/-- The coins come out in strictly decreasing order, whatever the order of the
list: once a coin has been taken, less than it is left. -/
theorem coins_pairwise (denominations : List Nat) (amount : Nat) :
    (coins denominations amount).Pairwise fun first second => second.1 < first.1 := by
  induction denominations generalizing amount with
  | nil => exact List.Pairwise.nil
  | cons coin rest ih =>
      by_cases none : amount / coin = 0
      · rw [coins, if_pos none]
        exact ih amount
      · rw [coins, if_neg none]
        refine List.Pairwise.cons (fun pile later => ?_) (ih _)
        have small := (of_mem_coins later).2.2.2
        have positive : 0 < coin := by
          rcases Nat.eq_zero_or_pos coin with rfl | positive
          · simp at none
          · exact positive
        exact small.trans_lt (Nat.mod_lt _ positive)

/-- Over a decreasing list the first coin taken is at least as large as any
denomination that fits. -/
theorem exists_coin_ge {denominations : List Nat} (sorted : denominations.Pairwise (· ≥ ·))
    {amount coin : Nat} (listed : coin ∈ denominations) (positive : 0 < coin)
    (fits : coin ≤ amount) : ∃ pile ∈ coins denominations amount, coin ≤ pile.1 := by
  induction denominations with
  | nil => cases listed
  | cons largest rest ih =>
      obtain ⟨above, sortedRest⟩ := List.pairwise_cons.mp sorted
      by_cases none : amount / largest = 0
      · rw [coins, if_pos none]
        rcases List.mem_cons.mp listed with rfl | later
        · exact absurd none (Nat.div_pos fits positive).ne'
        · exact ih sortedRest later
      · rw [coins, if_neg none]
        refine ⟨_, List.mem_cons_self, ?_⟩
        rcases List.mem_cons.mp listed with rfl | later
        · exact le_rfl
        · exact above coin later

/-! ## Coins one by one -/

/-- The coins of a collection, each as often as it was taken. -/
def spread (taken : List (Nat × Nat)) : List Nat :=
  taken.flatMap fun pile => List.replicate pile.2 pile.1

@[simp]
theorem spread_nil : spread [] = [] := rfl

theorem sum_spread (taken : List (Nat × Nat)) : (spread taken).sum = value taken := by
  induction taken with
  | nil => rfl
  | cons pile taken ih =>
      rw [spread, List.flatMap_cons, List.sum_append, List.sum_replicate_nat, value_cons, ← ih,
        spread, Nat.mul_comm]

theorem length_spread (taken : List (Nat × Nat)) : (spread taken).length = size taken := by
  induction taken with
  | nil => rfl
  | cons pile taken ih =>
      rw [spread, List.flatMap_cons, List.length_append, List.length_replicate, size_cons, ← ih,
        spread]

theorem value_reverse (taken : List (Nat × Nat)) : value taken.reverse = value taken := by
  simp [value, List.sum_reverse]

theorem size_reverse (taken : List (Nat × Nat)) : size taken.reverse = size taken := by
  simp [size, List.sum_reverse]

theorem mem_spread {taken : List (Nat × Nat)} {coin : Nat} :
    coin ∈ spread taken ↔ ∃ pile ∈ taken, pile.2 ≠ 0 ∧ coin = pile.1 := by
  simp [spread, List.mem_replicate]

/-! ## A fee on each coin -/

/-- Quotient rounded up. -/
def divCeil (amount unit : Nat) : Nat := (amount + unit - 1) / unit

/-- The fee on a number of coins, at a rate in thousandths of a unit per coin. -/
def fee (rate count : Nat) : Nat := divCeil (rate * count) 1000

@[simp]
theorem fee_zero_rate (count : Nat) : fee 0 count = 0 := by simp [fee, divCeil]

/-- A rate of at most one unit per coin costs at most one unit per coin. -/
theorem fee_le {rate : Nat} (cheap : rate ≤ 1000) (count : Nat) : fee rate count ≤ count := by
  have : rate * count ≤ 1000 * count := Nat.mul_le_mul_right count cheap
  unfold fee divCeil
  omega

theorem fee_mono (rate : Nat) {first second : Nat} (le : first ≤ second) :
    fee rate first ≤ fee rate second := by
  have : rate * first ≤ rate * second := Nat.mul_le_mul_left rate le
  unfold fee divCeil
  omega

/-- One more coin costs at most one more unit. -/
theorem fee_succ_le {rate : Nat} (cheap : rate ≤ 1000) (count : Nat) :
    fee rate (count + 1) ≤ fee rate count + 1 := by
  unfold fee divCeil
  rw [Nat.mul_add, Nat.mul_one]
  omega

/-- The value of an amount once the fee on its coins is paid. -/
def afterFee (rate : Nat) (denominations : List Nat) (amount : Nat) : Nat :=
  amount - fee rate (size (coins denominations amount))

theorem afterFee_le (rate : Nat) (denominations : List Nat) (amount : Nat) :
    afterFee rate denominations amount ≤ amount := Nat.sub_le _ _

/-- The fee on an amount's own coins never exceeds the amount, so the
subtraction in `afterFee` is exact. -/
theorem afterFee_add_fee {rate : Nat} (cheap : rate ≤ 1000) (denominations : List Nat)
    (amount : Nat) :
    afterFee rate denominations amount + fee rate (size (coins denominations amount)) =
      amount := by
  have bound : fee rate (size (coins denominations amount)) ≤ amount :=
    (fee_le cheap _).trans (size_coins_le denominations amount)
  unfold afterFee
  omega

/-- **The value after fees is monotone in the amount.** -/
theorem afterFee_mono {rate : Nat} (cheap : rate ≤ 1000) {denominations : List Nat}
    (unit : 1 ∈ denominations) : Monotone (afterFee rate denominations) := by
  refine monotone_nat_of_le_succ fun amount => ?_
  have grow : fee rate (size (coins denominations (amount + 1))) ≤
      fee rate (size (coins denominations amount)) + 1 :=
    (fee_mono rate (size_coins_succ_le unit amount)).trans (fee_succ_le cheap _)
  unfold afterFee
  omega

end Spilman.Lib.Greedy
