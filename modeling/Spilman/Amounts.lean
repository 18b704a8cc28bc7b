/-
# Splitting amounts over a keyset

`OrderedListOfAmounts::from_target` splits an amount greedily over the
denominations of a keyset, `value_after_fees` subtracts the fee a mint will
charge for spending the result, and `inverse_deterministic_value_after_fees`
searches upward for the least amount whose value after fees reaches a target.

Amounts are natural numbers here. Where the source computes in `u64` and the
result may not fit, the reduction modulo `2 ^ 64` is written out.

The specifications at the end of each section describe the loops by the
greedy library: `fromTarget_eq_ok_iff` for the split, and
`inverse_eq_ok_iff` for the search.
-/

import Mathlib.Data.List.Sort
import Spilman.Lib.Greedy
import Spilman.Cashu

namespace Spilman

open Lib

variable {T : Carriers}

/-! ## Keysets -/

/-- What is known of a keyset of a mint. -/
structure KeysetInfo (T : Carriers) where
  keysetId : T.Id
  unit : T.CurrencyUnit
  /-- The keys, by amount. -/
  activeKeys : Keys T
  /-- The amounts that have a key, largest first. -/
  amountsLargestFirst : List Nat
  /-- Fee for spending one proof, in thousandths of a unit. -/
  inputFeePpk : Nat
  finalExpiry : Option Nat
  deriving DecidableEq

/-- A keyset that has not reached its final expiry. -/
def KeysetInfo.isUnexpiredAt (info : KeysetInfo T) (now : Nat) : Bool :=
  match info.finalExpiry with
  | none => true
  | some expiry => now ≤ expiry

/-- Collect what is known of a keyset from its keys. -/
def KeysetInfo.new (keysetId : T.Id) (unit : T.CurrencyUnit) (activeKeys : Keys T)
    (inputFeePpk : Nat) (finalExpiry : Option Nat) : KeysetInfo T where
  keysetId := keysetId
  unit := unit
  activeKeys := activeKeys
  amountsLargestFirst := activeKeys.keys.insertionSort (· ≥ ·)
  inputFeePpk := inputFeePpk
  finalExpiry := finalExpiry

/-- A keyset collected by `KeysetInfo::new` lists its amounts in decreasing order. -/
theorem KeysetInfo.new_sorted (keysetId : T.Id) (unit : T.CurrencyUnit) (activeKeys : Keys T)
    (inputFeePpk : Nat) (finalExpiry : Option Nat) :
    (KeysetInfo.new keysetId unit activeKeys inputFeePpk finalExpiry).amountsLargestFirst.Pairwise
      (· ≥ ·) :=
  List.pairwise_insertionSort _ _

/-- No amount is listed twice, since the keys are a map. -/
theorem KeysetInfo.new_strictlySorted (keysetId : T.Id) (unit : T.CurrencyUnit)
    (activeKeys : Keys T) (inputFeePpk : Nat) (finalExpiry : Option Nat) :
    (KeysetInfo.new keysetId unit activeKeys inputFeePpk finalExpiry).amountsLargestFirst.Pairwise
      (· > ·) := by
  have distinct : (activeKeys.keys.insertionSort (· ≥ ·)).Nodup :=
    (List.perm_insertionSort _ _).nodup_iff.mpr (activeKeys.keys_pairwise.imp ne_of_lt)
  exact (KeysetInfo.new_sorted keysetId unit activeKeys inputFeePpk finalExpiry).imp₂
    (fun _ _ ordered different => lt_of_le_of_ne ordered (Ne.symm different)) distinct

/-! ## The greedy split -/

/-- A list of amounts, with how often each occurs. -/
structure OrderedListOfAmounts where
  /-- The amounts, largest first. -/
  amounts : List Nat
  /-- How often each amount occurs, smallest amount first. -/
  countByAmount : SortedMap Nat Nat
  inputFeePpk : Nat
  deriving DecidableEq

/-- `while remaining >= amount { remaining -= amount; count += 1 }`, run for at
most the given number of rounds. Every round but those of a zero amount takes
something away, so `remaining + 1` rounds are enough for all other amounts. -/
def takeWhileFits (amount : Nat) : (rounds remaining count : Nat) → Option (Nat × Nat)
  | 0, _, _ => none
  | rounds + 1, remaining, count =>
      if amount ≤ remaining then takeWhileFits amount rounds (remaining - amount) (count + 1)
      else some (remaining, count)

/-- The loop over the denominations. Nothing is returned when the inner loop
does not stop. -/
def splitLoop (maximumAmount : Nat) :
    List Nat → Nat → SortedMap Nat Nat → Option (Nat × SortedMap Nat Nat)
  | [], remaining, countByAmount => some (remaining, countByAmount)
  | amount :: rest, remaining, countByAmount =>
      if 0 < maximumAmount ∧ maximumAmount < amount then
        splitLoop maximumAmount rest remaining countByAmount
      else do
        let (remaining, count) ← takeWhileFits amount (remaining + 1) remaining 0
        splitLoop maximumAmount rest remaining
          (if 0 < count then countByAmount.insert amount count else countByAmount)

/-- Write out each amount as often as it is counted, largest first. -/
def expandLargestFirst (countByAmount : SortedMap Nat Nat) : List Nat :=
  Greedy.spread countByAmount.entries.reverse

/-- Split a target over the denominations of a keyset, largest first, leaving
out those above the maximum. A maximum of zero is no maximum. -/
def OrderedListOfAmounts.fromTarget (target maximumAmount : Nat) (keysetInfo : KeysetInfo T) :
    Outcome String OrderedListOfAmounts :=
  if target = 0 then
    .ok ⟨[], SortedMap.empty, keysetInfo.inputFeePpk⟩
  else
    match splitLoop maximumAmount keysetInfo.amountsLargestFirst target SortedMap.empty with
    | none => .noReturn
    | some (remaining, countByAmount) =>
        if remaining ≠ 0 then
          if maximumAmount = 0 then
            .err s!"Cannot represent {target} using available amounts"
          else
            .err s!"Cannot represent {target} using available amounts (max {maximumAmount})"
        else .ok ⟨expandLargestFirst countByAmount, countByAmount, keysetInfo.inputFeePpk⟩

namespace OrderedListOfAmounts

/-- The number of amounts. -/
def len (list : OrderedListOfAmounts) : Nat := list.amounts.length

/-- The sum of the amounts. -/
def nominalTotal (list : OrderedListOfAmounts) : Nat := list.amounts.sum % 2 ^ 64

/-- What is left of the sum after the fee for spending every amount once. -/
def valueAfterFees (list : OrderedListOfAmounts) : Nat :=
  if list.inputFeePpk = 0 then list.nominalTotal
  else list.nominalTotal - Greedy.divCeil (list.inputFeePpk * list.len % 2 ^ 64) 1000

end OrderedListOfAmounts

/-- The denominations the split looks at. -/
def usable (maximumAmount : Nat) (amounts : List Nat) : List Nat :=
  amounts.filter fun amount => ¬ (0 < maximumAmount ∧ maximumAmount < amount)

theorem mem_usable {maximumAmount amount : Nat} {amounts : List Nat} :
    amount ∈ usable maximumAmount amounts ↔
      amount ∈ amounts ∧ (maximumAmount = 0 ∨ amount ≤ maximumAmount) := by
  simp only [usable, List.mem_filter, decide_eq_true_eq]
  refine and_congr_right fun _ => ?_
  omega

/-- The unit denomination is never above a maximum. -/
theorem one_mem_usable {maximumAmount : Nat} {amounts : List Nat} (unit : 1 ∈ amounts) :
    1 ∈ usable maximumAmount amounts :=
  mem_usable.mpr ⟨unit, by omega⟩

theorem takeWhileFits_eq {amount rounds remaining : Nat} (positive : 0 < amount)
    (enough : remaining < rounds) (count : Nat) :
    takeWhileFits amount rounds remaining count =
      some (remaining % amount, count + remaining / amount) := by
  induction rounds generalizing remaining count with
  | zero => omega
  | succ rounds ih =>
      rw [takeWhileFits]
      split_ifs with fits
      · rw [ih (by omega), Nat.mod_eq_sub_mod fits, Nat.div_eq_sub_div positive fits]
        congr 2
        omega
      · rw [Nat.mod_eq_of_lt (by omega), Nat.div_eq_of_lt (by omega), Nat.add_zero]

/-- Taking away nothing never stops. -/
theorem takeWhileFits_zero (rounds remaining count : Nat) :
    takeWhileFits 0 rounds remaining count = none := by
  induction rounds generalizing remaining count with
  | zero => rfl
  | succ rounds ih =>
      rw [takeWhileFits, if_pos (Nat.zero_le _)]
      exact ih _ _

/-- **The loop over the denominations is the greedy pass.** Every amount counted
so far is above what remains, so each new one is stored in front. -/
theorem splitLoop_eq (maximumAmount : Nat) {amounts : List Nat} (positive : 0 ∉ amounts)
    (remaining : Nat) (counted : SortedMap Nat Nat)
    (above : ∀ entry ∈ counted.entries, remaining < entry.1) :
    ∃ result : SortedMap Nat Nat,
      splitLoop maximumAmount amounts remaining counted =
        some (Greedy.remainder (usable maximumAmount amounts) remaining, result) ∧
      result.entries =
        (Greedy.coins (usable maximumAmount amounts) remaining).reverse ++ counted.entries := by
  induction amounts generalizing remaining counted with
  | nil => exact ⟨counted, rfl, rfl⟩
  | cons amount rest ih =>
      have positiveRest : 0 ∉ rest := fun member => positive (List.mem_cons_of_mem _ member)
      have positiveAmount : 0 < amount :=
        Nat.pos_of_ne_zero fun zero => positive (zero ▸ List.mem_cons_self)
      rw [splitLoop]
      split_ifs with skipped
      · have dropped : usable maximumAmount (amount :: rest) = usable maximumAmount rest := by
          simp [usable, skipped]
        rw [dropped]
        exact ih positiveRest remaining counted above
      · have kept : usable maximumAmount (amount :: rest) =
            amount :: usable maximumAmount rest := by
          simp only [usable, List.filter_cons, skipped, not_false_eq_true, decide_true, if_true]
        rw [takeWhileFits_eq positiveAmount (Nat.lt_succ_self _), Nat.zero_add, kept]
        simp only [Option.bind_eq_bind, Option.bind_some]
        have less : remaining % amount ≤ remaining := Nat.mod_le _ _
        by_cases none : remaining / amount = 0
        · rw [if_neg (by omega), Greedy.coins, if_pos none, Greedy.remainder,
            Greedy.mod_eq_self_of_div_eq_zero none]
          exact ih positiveRest remaining counted above
        · rw [if_pos (Nat.pos_of_ne_zero none), Greedy.coins, if_neg none, Greedy.remainder]
          have fits : amount ≤ remaining := by
            by_contra small
            exact none (Nat.div_eq_of_lt (by omega))
          have front := SortedMap.insert_entries_of_lt counted amount (remaining / amount)
            fun entry member => fits.trans_lt (above entry member)
          obtain ⟨result, ran, entries⟩ := ih positiveRest (remaining % amount)
            (counted.insert amount (remaining / amount)) (by
              rw [front]
              intro entry member
              rcases List.mem_cons.mp member with rfl | later
              · exact Nat.mod_lt _ positiveAmount
              · exact less.trans_lt (above entry later))
          refine ⟨result, ran, ?_⟩
          rw [entries, front, List.reverse_cons, List.append_assoc]
          rfl

/-- A zero denomination is never above a maximum, and the loop does not get past it. -/
theorem splitLoop_eq_none {maximumAmount : Nat} {amounts : List Nat} (zero : 0 ∈ amounts)
    (remaining : Nat) (counted : SortedMap Nat Nat) :
    splitLoop maximumAmount amounts remaining counted = none := by
  induction amounts generalizing remaining counted with
  | nil => cases zero
  | cons amount rest ih =>
      rw [splitLoop]
      rcases List.mem_cons.mp zero with rfl | later
      · rw [if_neg (by omega), takeWhileFits_zero]
        rfl
      · split_ifs with skipped
        · exact ih later _ _
        · cases takeWhileFits amount (remaining + 1) remaining 0 with
          | none => rfl
          | some left => exact ih later _ _

/-- The list the greedy split of a target gives. -/
def greedyList (target maximumAmount : Nat) (keysetInfo : KeysetInfo T) : OrderedListOfAmounts :=
  let coins := Greedy.coins (usable maximumAmount keysetInfo.amountsLargestFirst) target
  let countByAmount : SortedMap Nat Nat :=
    ⟨coins.reverse, List.pairwise_reverse.mpr (Greedy.coins_pairwise _ _)⟩
  ⟨expandLargestFirst countByAmount, countByAmount, keysetInfo.inputFeePpk⟩

/-- The amounts a keyset can be split over: nothing is left at the end, and no
denomination keeps the loop from getting there. -/
def Splits (keysetInfo : KeysetInfo T) (maximumAmount target : Nat) : Prop :=
  target = 0 ∨ (0 ∉ keysetInfo.amountsLargestFirst ∧
    Greedy.remainder (usable maximumAmount keysetInfo.amountsLargestFirst) target = 0)

instance (keysetInfo : KeysetInfo T) (maximumAmount target : Nat) :
    Decidable (Splits keysetInfo maximumAmount target) :=
  inferInstanceAs (Decidable (_ ∨ _))

/-- The split, by cases. -/
theorem fromTarget_of_splits {keysetInfo : KeysetInfo T} {maximumAmount target : Nat}
    (splits : Splits keysetInfo maximumAmount target) :
    OrderedListOfAmounts.fromTarget target maximumAmount keysetInfo =
      .ok (greedyList target maximumAmount keysetInfo) := by
  by_cases zero : target = 0
  · subst zero
    simp [OrderedListOfAmounts.fromTarget, greedyList, expandLargestFirst, SortedMap.empty]
  · rw [OrderedListOfAmounts.fromTarget, if_neg zero]
    obtain ⟨positive, exact⟩ := splits.resolve_left zero
    obtain ⟨result, ran, entries⟩ :=
      splitLoop_eq maximumAmount positive target SortedMap.empty (by simp [SortedMap.empty])
    have same : result = (greedyList target maximumAmount keysetInfo).countByAmount :=
      SortedMap.ext (by simpa [SortedMap.empty, greedyList] using entries)
    simp only [ran, exact, ne_eq, not_true_eq_false, if_false, same]
    rfl

/-- **The split succeeds exactly on the amounts the keyset splits, with the
greedy list.** -/
theorem fromTarget_eq_ok_iff {keysetInfo : KeysetInfo T} {maximumAmount target : Nat}
    {list : OrderedListOfAmounts} :
    OrderedListOfAmounts.fromTarget target maximumAmount keysetInfo = .ok list ↔
      Splits keysetInfo maximumAmount target ∧
        list = greedyList target maximumAmount keysetInfo := by
  constructor
  · intro returned
    have splits : Splits keysetInfo maximumAmount target := by
      by_contra stuck
      rw [Splits, not_or] at stuck
      obtain ⟨nonzero, stuck⟩ := stuck
      rw [OrderedListOfAmounts.fromTarget, if_neg nonzero] at returned
      by_cases zero : 0 ∈ keysetInfo.amountsLargestFirst
      · rw [splitLoop_eq_none zero] at returned
        cases returned
      · obtain ⟨result, ran, -⟩ :=
          splitLoop_eq maximumAmount zero target SortedMap.empty (by simp [SortedMap.empty])
        have rest : Greedy.remainder (usable maximumAmount keysetInfo.amountsLargestFirst) target ≠
            0 := fun exact => stuck ⟨zero, exact⟩
        rw [ran] at returned
        simp only [if_pos rest] at returned
        split_ifs at returned
    rw [fromTarget_of_splits splits] at returned
    exact ⟨splits, (Outcome.ok.inj returned).symm⟩
  · rintro ⟨splits, rfl⟩
    exact fromTarget_of_splits splits

/-! ## Value after fees -/

/-- The value of a nominal amount after the fee for spending its split. -/
def KeysetInfo.deterministicValueAfterFees (info : KeysetInfo T) (nominalValue maximumAmount : Nat) :
    Outcome String Nat := do
  let amounts ← OrderedListOfAmounts.fromTarget nominalValue maximumAmount info
  return amounts.valueAfterFees

theorem deterministicValueAfterFees_eq_ok_iff {info : KeysetInfo T}
    {nominalValue maximumAmount result : Nat} :
    info.deterministicValueAfterFees nominalValue maximumAmount = .ok result ↔
      Splits info maximumAmount nominalValue ∧
        result = (greedyList nominalValue maximumAmount info).valueAfterFees := by
  rw [KeysetInfo.deterministicValueAfterFees, Outcome.bind_eq_ok]
  simp only [fromTarget_eq_ok_iff, Outcome.pure_eq, Outcome.ok.injEq]
  constructor
  · rintro ⟨_, ⟨splits, rfl⟩, rfl⟩
    exact ⟨splits, rfl⟩
  · rintro ⟨splits, rfl⟩
    exact ⟨_, ⟨splits, rfl⟩, rfl⟩

section GreedyList

variable {info : KeysetInfo T} {maximumAmount target : Nat}

theorem greedyList_amounts :
    (greedyList target maximumAmount info).amounts =
      Greedy.spread (Greedy.coins (usable maximumAmount info.amountsLargestFirst) target) := by
  simp [greedyList, expandLargestFirst]

theorem greedyList_len :
    (greedyList target maximumAmount info).len =
      Greedy.size (Greedy.coins (usable maximumAmount info.amountsLargestFirst) target) := by
  rw [OrderedListOfAmounts.len, greedyList_amounts, Greedy.length_spread]

/-- An amount of a split is a usable denomination no larger than the target. -/
theorem of_mem_greedyList {amount : Nat}
    (member : amount ∈ (greedyList target maximumAmount info).amounts) :
    amount ∈ info.amountsLargestFirst ∧ amount ≤ target ∧
      (maximumAmount = 0 ∨ amount ≤ maximumAmount) := by
  rw [greedyList_amounts, Greedy.mem_spread] at member
  obtain ⟨pile, taken, -, rfl⟩ := member
  obtain ⟨listed, -, -, small⟩ := Greedy.of_mem_coins taken
  obtain ⟨inKeyset, within⟩ := mem_usable.mp listed
  exact ⟨inKeyset, small, within⟩

/-- The amounts of a split sum to the target. -/
theorem greedyList_sum (splits : Splits info maximumAmount target) :
    (greedyList target maximumAmount info).amounts.sum = target := by
  rw [greedyList_amounts, Greedy.sum_spread]
  have whole := Greedy.value_coins_add_remainder
    (usable maximumAmount info.amountsLargestFirst) target
  rcases splits with rfl | ⟨-, exact⟩
  · simp
  · omega

/-- So do the amounts read off the counts, smallest first. -/
theorem sum_spread_greedyList (splits : Splits info maximumAmount target) :
    (Greedy.spread (greedyList target maximumAmount info).countByAmount.entries).sum = target := by
  rw [Greedy.sum_spread, ← Greedy.value_reverse, ← Greedy.sum_spread]
  exact greedyList_sum splits

theorem nominalTotal_greedyList (splits : Splits info maximumAmount target)
    (fits : target < 2 ^ 64) : (greedyList target maximumAmount info).nominalTotal = target := by
  rw [OrderedListOfAmounts.nominalTotal, greedyList_sum splits, Nat.mod_eq_of_lt fits]

/-- Fees never add value. -/
theorem valueAfterFees_greedyList_le (splits : Splits info maximumAmount target) :
    (greedyList target maximumAmount info).valueAfterFees ≤ target := by
  have total : (greedyList target maximumAmount info).nominalTotal ≤ target := by
    rw [OrderedListOfAmounts.nominalTotal, greedyList_sum splits]
    exact Nat.mod_le _ _
  rw [OrderedListOfAmounts.valueAfterFees]
  split_ifs
  · exact total
  · exact (Nat.sub_le _ _).trans total

/-- Where the fee does not overflow, the computed value is the value after fees
of the greedy library. -/
theorem valueAfterFees_greedyList (splits : Splits info maximumAmount target)
    (fits : target < 2 ^ 64)
    (feeFits : info.inputFeePpk * (greedyList target maximumAmount info).len < 2 ^ 64) :
    (greedyList target maximumAmount info).valueAfterFees =
      Greedy.afterFee info.inputFeePpk (usable maximumAmount info.amountsLargestFirst) target := by
  have rate : (greedyList target maximumAmount info).inputFeePpk = info.inputFeePpk := rfl
  rw [OrderedListOfAmounts.valueAfterFees, nominalTotal_greedyList splits fits, rate,
    Nat.mod_eq_of_lt feeFits, greedyList_len, Greedy.afterFee, Greedy.fee]
  split_ifs with free
  · simp [free, Greedy.divCeil]
  · rfl

end GreedyList

theorem deterministicValueAfterFees_le {info : KeysetInfo T}
    {nominalValue maximumAmount result : Nat}
    (computed : info.deterministicValueAfterFees nominalValue maximumAmount = .ok result) :
    result ≤ nominalValue := by
  obtain ⟨splits, rfl⟩ := deterministicValueAfterFees_eq_ok_iff.mp computed
  exact valueAfterFees_greedyList_le splits

/-- A value after fees fits into a `u64`, as it is computed in one. -/
theorem deterministicValueAfterFees_lt {info : KeysetInfo T}
    {nominalValue maximumAmount result : Nat}
    (computed : info.deterministicValueAfterFees nominalValue maximumAmount = .ok result) :
    result < 2 ^ 64 := by
  obtain ⟨-, rfl⟩ := deterministicValueAfterFees_eq_ok_iff.mp computed
  have total : (greedyList nominalValue maximumAmount info).nominalTotal < 2 ^ 64 :=
    Nat.mod_lt _ (Nat.two_pow_pos 64)
  unfold OrderedListOfAmounts.valueAfterFees
  split_ifs
  · exact total
  · exact (Nat.sub_le _ _).trans_lt total

theorem deterministicValueAfterFees_zero (info : KeysetInfo T) (maximumAmount : Nat) :
    info.deterministicValueAfterFees 0 maximumAmount = .ok 0 := by
  have nothing : Splits info maximumAmount 0 := .inl rfl
  exact deterministicValueAfterFees_eq_ok_iff.mpr
    ⟨nothing, (Nat.le_zero.mp (valueAfterFees_greedyList_le nothing)).symm⟩

/-- With the unit denomination, and where no fee overflows, a larger nominal amount
is worth no less. -/
theorem deterministicValueAfterFees_mono {info : KeysetInfo T}
    {maximumAmount nominal larger value valueLarger : Nat} (cheap : info.inputFeePpk ≤ 999)
    (unit : 1 ∈ usable maximumAmount info.amountsLargestFirst) (le : nominal ≤ larger)
    (fits : larger < 2 ^ 64)
    (feeFits : ∀ amount ≤ larger,
      info.inputFeePpk * (greedyList amount maximumAmount info).len < 2 ^ 64)
    (computed : info.deterministicValueAfterFees nominal maximumAmount = .ok value)
    (computedLarger : info.deterministicValueAfterFees larger maximumAmount = .ok valueLarger) :
    value ≤ valueLarger := by
  obtain ⟨splits, rfl⟩ := deterministicValueAfterFees_eq_ok_iff.mp computed
  obtain ⟨splitsLarger, rfl⟩ := deterministicValueAfterFees_eq_ok_iff.mp computedLarger
  rw [valueAfterFees_greedyList splits (by omega) (feeFits nominal le),
    valueAfterFees_greedyList splitsLarger fits (feeFits larger le_rfl)]
  exact Greedy.afterFee_mono (cheap.trans (by decide)) unit le

/-! ## The inverse search -/

/-- A nominal amount and what it is worth after fees. -/
structure InverseFeeResult where
  nominalValue : Nat
  actualBalance : Nat
  deriving DecidableEq, Repr

/-- One round of the search: is this nominal amount worth the target? -/
def KeysetInfo.inverseProbe (info : KeysetInfo T) (targetBalance maximumAmount nominal : Nat) :
    Outcome String (Option InverseFeeResult) := do
  let actualBalance ← info.deterministicValueAfterFees nominal maximumAmount
  return if targetBalance ≤ actualBalance then some ⟨nominal, actualBalance⟩ else none

/-- Find a nominal amount worth at least the target after fees, searching
upward from the target. The loop variable is a `u64`, so a search that has run
`2 ^ 64` rounds runs for ever. -/
def KeysetInfo.inverseDeterministicValueAfterFees (info : KeysetInfo T)
    (targetBalance maximumAmount : Nat) : Outcome String InverseFeeResult :=
  if targetBalance = 0 then .ok ⟨0, 0⟩
  else if info.inputFeePpk = 0 then .ok ⟨targetBalance, targetBalance⟩
  else
    seek (fun nominal => (nominal + 1) % 2 ^ 64) (info.inverseProbe targetBalance maximumAmount)
      (2 ^ 64) targetBalance

section Inverse

variable {info : KeysetInfo T} {maximumAmount target : Nat}

theorem inverseProbe_eq_ok_some {nominal : Nat} {result : InverseFeeResult} :
    info.inverseProbe target maximumAmount nominal = .ok (some result) ↔
      info.deterministicValueAfterFees nominal maximumAmount = .ok result.actualBalance ∧
        result.nominalValue = nominal ∧ target ≤ result.actualBalance := by
  rw [KeysetInfo.inverseProbe, Outcome.bind_eq_ok]
  constructor
  · rintro ⟨actual, computed, found⟩
    simp only [Outcome.pure_eq, Outcome.ok.injEq] at found
    split_ifs at found with reached
    cases found
    exact ⟨computed, rfl, reached⟩
  · rintro ⟨computed, rfl, reached⟩
    exact ⟨_, computed, by simp [reached]⟩

theorem inverseProbe_eq_ok_none {nominal : Nat} :
    info.inverseProbe target maximumAmount nominal = .ok none ↔
      ∃ value, info.deterministicValueAfterFees nominal maximumAmount = .ok value ∧
        value < target := by
  rw [KeysetInfo.inverseProbe, Outcome.bind_eq_ok]
  simp

theorem iterate_wrapping_succ {start : Nat} (fits : start < 2 ^ 64) (rounds : Nat) :
    (fun nominal => (nominal + 1) % 2 ^ 64)^[rounds] start = (start + rounds) % 2 ^ 64 := by
  induction rounds with
  | zero => exact (Nat.mod_eq_of_lt fits).symm
  | succ rounds ih =>
      rw [Function.iterate_succ_apply', ih]
      omega

/-- **The search stops exactly at the least nominal amount worth the target.**
It cannot stop after wrapping around: no amount below the target is worth it. -/
theorem inverse_eq_ok_iff (nonzero : target ≠ 0) (charged : info.inputFeePpk ≠ 0)
    (fits : target < 2 ^ 64) {result : InverseFeeResult} :
    info.inverseDeterministicValueAfterFees target maximumAmount = .ok result ↔
      target ≤ result.nominalValue ∧ result.nominalValue < 2 ^ 64 ∧
      info.deterministicValueAfterFees result.nominalValue maximumAmount =
        .ok result.actualBalance ∧ target ≤ result.actualBalance ∧
      ∀ nominal, target ≤ nominal → nominal < result.nominalValue →
        ∃ value, info.deterministicValueAfterFees nominal maximumAmount = .ok value ∧
          value < target := by
  rw [KeysetInfo.inverseDeterministicValueAfterFees, if_neg nonzero, if_neg charged,
    seek_eq_ok_iff]
  simp only [iterate_wrapping_succ fits, inverseProbe_eq_ok_some, inverseProbe_eq_ok_none]
  constructor
  · rintro ⟨rounds, bound, refused, computed, nominal, reached⟩
    have least := reached.trans (deterministicValueAfterFees_le computed)
    have straight : (target + rounds) % 2 ^ 64 = target + rounds := by omega
    rw [straight] at computed nominal
    refine ⟨by omega, by omega, nominal ▸ computed, reached, fun earlier above below => ?_⟩
    have same : (target + (earlier - target)) % 2 ^ 64 = earlier := by omega
    simpa only [same] using refused (earlier - target) (by omega)
  · rintro ⟨above, small, computed, reached, refused⟩
    have last : (target + (result.nominalValue - target)) % 2 ^ 64 = result.nominalValue := by
      omega
    refine ⟨result.nominalValue - target, by omega, fun round below => ?_, ?_⟩
    · have same : (target + round) % 2 ^ 64 = target + round := by omega
      rw [same]
      exact refused _ (by omega) (by omega)
    · rw [last]
      exact ⟨computed, rfl, reached⟩

/-- What a finished search says, whichever way it finished: the nominal amount
is at least the target, every amount in between is worth less than the target,
and if the nominal amount can be split, it is worth the target. -/
theorem of_inverse_eq_ok (fits : target < 2 ^ 64) {result : InverseFeeResult}
    (found : info.inverseDeterministicValueAfterFees target maximumAmount = .ok result) :
    target ≤ result.nominalValue ∧ result.nominalValue < 2 ^ 64 ∧
    (∀ nominal, target ≤ nominal → nominal < result.nominalValue →
      ∃ value, info.deterministicValueAfterFees nominal maximumAmount = .ok value ∧
        value < target) ∧
    ∀ value, info.deterministicValueAfterFees result.nominalValue maximumAmount = .ok value →
      value = result.actualBalance ∧ target ≤ value := by
  by_cases nonzero : target = 0
  · rw [KeysetInfo.inverseDeterministicValueAfterFees, if_pos nonzero] at found
    cases found
    dsimp only
    refine ⟨by omega, by omega, by omega, fun value computed => ?_⟩
    have small := deterministicValueAfterFees_le computed
    omega
  by_cases charged : info.inputFeePpk = 0
  · rw [KeysetInfo.inverseDeterministicValueAfterFees, if_neg nonzero, if_pos charged] at found
    cases found
    dsimp only
    refine ⟨le_rfl, fits, by omega, fun value computed => ?_⟩
    obtain ⟨splits, rfl⟩ := deterministicValueAfterFees_eq_ok_iff.mp computed
    have total : (greedyList target maximumAmount info).valueAfterFees = target := by
      rw [OrderedListOfAmounts.valueAfterFees]
      exact (if_pos charged).trans (nominalTotal_greedyList splits fits)
    exact ⟨total, total.ge⟩
  · obtain ⟨above, small, computed, reached, refused⟩ :=
      (inverse_eq_ok_iff nonzero charged fits).mp found
    refine ⟨above, small, refused, fun value again => ?_⟩
    rw [computed] at again
    cases again
    exact ⟨rfl, reached⟩

/-- The search finds something at or below any amount worth the target, when
every amount up to it can be split. -/
theorem exists_inverse_eq_ok {bound value : Nat} (above : target ≤ bound) (fits : bound < 2 ^ 64)
    (splits : ∀ nominal, target ≤ nominal → nominal ≤ bound →
      Splits info maximumAmount nominal)
    (computed : info.deterministicValueAfterFees bound maximumAmount = .ok value)
    (reached : target ≤ value) :
    ∃ result, info.inverseDeterministicValueAfterFees target maximumAmount = .ok result ∧
      result.nominalValue ≤ bound := by
  by_cases nonzero : target = 0
  · exact ⟨⟨0, 0⟩, by rw [KeysetInfo.inverseDeterministicValueAfterFees, if_pos nonzero],
      Nat.zero_le _⟩
  by_cases charged : info.inputFeePpk = 0
  · refine ⟨⟨target, target⟩, ?_, above⟩
    rw [KeysetInfo.inverseDeterministicValueAfterFees, if_neg nonzero, if_pos charged]
  -- the least amount from the target on that is worth it
  let worth : Nat → Prop := fun nominal =>
    target ≤ nominal ∧ target ≤ (greedyList nominal maximumAmount info).valueAfterFees
  have exists_worth : ∃ nominal, worth nominal := by
    obtain ⟨-, rfl⟩ := deterministicValueAfterFees_eq_ok_iff.mp computed
    exact ⟨bound, above, reached⟩
  classical
  have least := Nat.find_spec exists_worth
  have below : Nat.find exists_worth ≤ bound := by
    obtain ⟨-, rfl⟩ := deterministicValueAfterFees_eq_ok_iff.mp computed
    exact Nat.find_min' exists_worth ⟨above, reached⟩
  refine ⟨⟨Nat.find exists_worth,
    (greedyList (Nat.find exists_worth) maximumAmount info).valueAfterFees⟩,
    (inverse_eq_ok_iff nonzero charged (by omega)).mpr ⟨least.1, by simp only; omega,
      deterministicValueAfterFees_eq_ok_iff.mpr ⟨splits _ least.1 below, rfl⟩, least.2,
      fun nominal from' before => ?_⟩, below⟩
  refine ⟨_, deterministicValueAfterFees_eq_ok_iff.mpr
    ⟨splits nominal from' (by simp only at before; omega), rfl⟩, ?_⟩
  by_contra enough
  exact Nat.find_min exists_worth before ⟨from', by omega⟩

end Inverse

end Spilman
