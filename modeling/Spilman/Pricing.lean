/-
# What a capacity costs

Outputs lose a fee when they are spent, so a balance has to be paid with more than its
nominal value, and a capacity, which goes through two such stages, has to be funded with
more again. `inverse_deterministic_value_after_fees` searches for the first nominal value
that is worth a target, and `get_minimum_funding_token_amount` does so twice.

The search walks through all amounts one by one. It is exact as long as it meets no amount
that cannot be split on its way, and it ends as long as the denominations and the fee let
it: both are the mint's to choose.
-/

import Mathlib.Order.Bounds.Basic
import Spilman.Params
import Spilman.Sample

namespace Spilman

open Lib

variable {T : Carriers}

/-! ## Nominal values worth a target -/

section Worth

variable (info : KeysetInfo T) (maximumAmount target : Nat)

/-- The nominal values that can be split, and are then worth the target after fees. -/
def KeysetInfo.worthy : Set Nat :=
  {nominal | nominal < 2 ^ 64 ∧ ∃ value,
    info.deterministicValueAfterFees nominal maximumAmount = .ok value ∧ target ≤ value}

/-- What the inverse is documented to be: there is a result exactly if a nominal value is
worth the target, and then it is the smallest, with what it is worth. -/
structure KeysetInfo.InverseExact : Prop where
  found_iff : (∃ result, info.inverseDeterministicValueAfterFees target maximumAmount =
    .ok result) ↔ (info.worthy maximumAmount target).Nonempty
  least : ∀ result, info.inverseDeterministicValueAfterFees target maximumAmount = .ok result →
    IsLeast (info.worthy maximumAmount target) result.nominalValue
  actual : ∀ result, info.inverseDeterministicValueAfterFees target maximumAmount = .ok result →
    info.deterministicValueAfterFees result.nominalValue maximumAmount = .ok result.actualBalance

/-- The targets from which the search meets no gap: where there is no fee, the target can be
split; where there is one, and some value is worth the target, one such value comes before
all values from the target on that cannot be split. -/
def KeysetInfo.Gapless : Prop :=
  target = 0 ∨ if info.inputFeePpk = 0 then Splits info maximumAmount target
    else (info.worthy maximumAmount target).Nonempty →
      ∃ nominal ∈ info.worthy maximumAmount target,
        ∀ amount, target ≤ amount → amount < nominal → Splits info maximumAmount amount

end Worth

section Exact

variable {info : KeysetInfo T} {maximumAmount target : Nat}

/-- Fees add no value, so a value worth the target is at least the target. -/
theorem le_of_mem_worthy {nominal : Nat} (worth : nominal ∈ info.worthy maximumAmount target) :
    target ≤ nominal := by
  obtain ⟨-, value, computed, reached⟩ := worth
  exact reached.trans (deterministicValueAfterFees_le computed)

theorem splits_of_mem_worthy {nominal : Nat}
    (worth : nominal ∈ info.worthy maximumAmount target) :
    Splits info maximumAmount nominal := by
  obtain ⟨-, value, computed, -⟩ := worth
  exact (deterministicValueAfterFees_eq_ok_iff.mp computed).1

/-- Without fees an amount that can be split is worth itself. -/
theorem deterministicValueAfterFees_free (free : info.inputFeePpk = 0) (fits : target < 2 ^ 64)
    (splits : Splits info maximumAmount target) :
    info.deterministicValueAfterFees target maximumAmount = .ok target := by
  refine deterministicValueAfterFees_eq_ok_iff.mpr ⟨splits, ?_⟩
  rw [OrderedListOfAmounts.valueAfterFees]
  exact ((if_pos free).trans (nominalTotal_greedyList splits fits)).symm

/-- If some value is worth the target, an exact inverse has found the smallest. -/
theorem inverseExact_of_found {result : InverseFeeResult}
    (found : info.inverseDeterministicValueAfterFees target maximumAmount = .ok result)
    (worth : result.nominalValue ∈ info.worthy maximumAmount target)
    (least : ∀ nominal ∈ info.worthy maximumAmount target, result.nominalValue ≤ nominal)
    (actual : info.deterministicValueAfterFees result.nominalValue maximumAmount =
      .ok result.actualBalance) :
    info.InverseExact maximumAmount target where
  found_iff := iff_of_true ⟨result, found⟩ ⟨_, worth⟩
  least := by
    intro again isAgain
    rw [found, Outcome.ok.injEq] at isAgain
    exact isAgain ▸ ⟨worth, least⟩
  actual := by
    intro again isAgain
    rw [found, Outcome.ok.injEq] at isAgain
    exact isAgain ▸ actual

theorem inverseExact_zero : info.InverseExact maximumAmount 0 := by
  have computed := deterministicValueAfterFees_zero info maximumAmount
  have found : info.inverseDeterministicValueAfterFees 0 maximumAmount = .ok ⟨0, 0⟩ := by
    rw [KeysetInfo.inverseDeterministicValueAfterFees, if_pos rfl]
  exact inverseExact_of_found found ⟨by decide, 0, computed, le_rfl⟩
    (fun _ _ => Nat.zero_le _) computed

/-- Without fees the target is its own inverse, whether it can be split or not. -/
theorem inverseExact_free_iff (nonzero : target ≠ 0) (free : info.inputFeePpk = 0)
    (fits : target < 2 ^ 64) :
    info.InverseExact maximumAmount target ↔ Splits info maximumAmount target := by
  have found : info.inverseDeterministicValueAfterFees target maximumAmount =
      .ok ⟨target, target⟩ := by
    rw [KeysetInfo.inverseDeterministicValueAfterFees, if_neg nonzero, if_pos free]
  constructor
  · intro exact
    exact splits_of_mem_worthy (exact.least _ found).1
  · intro splits
    have computed := deterministicValueAfterFees_free free fits splits
    exact inverseExact_of_found found ⟨fits, target, computed, le_rfl⟩
      (fun nominal worth => le_of_mem_worthy worth) computed

/-- With a fee the search finds what there is to find, unless a gap comes first. -/
theorem inverseExact_charged_iff (nonzero : target ≠ 0) (charged : info.inputFeePpk ≠ 0)
    (fits : target < 2 ^ 64) :
    info.InverseExact maximumAmount target ↔
      ((info.worthy maximumAmount target).Nonempty →
        ∃ nominal ∈ info.worthy maximumAmount target,
          ∀ amount, target ≤ amount → amount < nominal → Splits info maximumAmount amount) := by
  constructor
  · intro exact some
    obtain ⟨result, found⟩ := exact.found_iff.mpr some
    obtain ⟨-, -, -, -, refused⟩ := (inverse_eq_ok_iff nonzero charged fits).mp found
    refine ⟨result.nominalValue, (exact.least result found).1, fun amount above below => ?_⟩
    obtain ⟨value, computed, -⟩ := refused amount above below
    exact (deterministicValueAfterFees_eq_ok_iff.mp computed).1
  · intro gapless
    -- a result is always the smallest value worth the target, so finding one is all there is
    have exact {result : InverseFeeResult}
        (found : info.inverseDeterministicValueAfterFees target maximumAmount = .ok result) :
        info.InverseExact maximumAmount target := by
      obtain ⟨-, small, computed, reached, refused⟩ :=
        (inverse_eq_ok_iff nonzero charged fits).mp found
      refine inverseExact_of_found found ⟨small, _, computed, reached⟩ ?_ computed
      intro nominal worth
      by_contra below
      obtain ⟨value, refusedValue, short⟩ :=
        refused nominal (le_of_mem_worthy worth) (by omega)
      obtain ⟨-, again, isAgain, enough⟩ := worth
      rw [refusedValue, Outcome.ok.injEq] at isAgain
      omega
    by_cases some : (info.worthy maximumAmount target).Nonempty
    · obtain ⟨nominal, worth, reachable⟩ := gapless some
      have splits (amount : Nat) (above : target ≤ amount) (upTo : amount ≤ nominal) :
          Splits info maximumAmount amount := by
        rcases upTo.lt_or_eq with before | rfl
        · exact reachable amount above before
        · exact splits_of_mem_worthy worth
      have above := le_of_mem_worthy worth
      obtain ⟨small, value, computed, reached⟩ := worth
      obtain ⟨result, found, -⟩ := exists_inverse_eq_ok above small splits computed reached
      exact exact found
    · have nothing : ¬ ∃ result, info.inverseDeterministicValueAfterFees target maximumAmount =
          .ok result := by
        rintro ⟨result, found⟩
        exact some ((exact found).found_iff.mp ⟨result, found⟩)
      exact ⟨iff_of_false nothing some, fun result found => absurd ⟨result, found⟩ nothing,
        fun result found => absurd ⟨result, found⟩ nothing⟩

/-- **The inverse is exact on the targets without gaps.** Whatever the denominations, the
fee and the maximum: the search returns the smallest nominal value worth the target, with
what it is worth, and returns one if there is one, exactly if no gap is in its way. -/
theorem inverse_exact_iff_gapless (info : KeysetInfo T) (maximumAmount target : Nat)
    (fits : target < 2 ^ 64) :
    info.InverseExact maximumAmount target ↔ info.Gapless maximumAmount target := by
  rw [KeysetInfo.Gapless]
  by_cases nonzero : target = 0
  · subst nonzero
    exact iff_of_true inverseExact_zero (.inl rfl)
  · rw [or_iff_right nonzero]
    by_cases charged : info.inputFeePpk = 0
    · rw [if_pos charged]
      exact inverseExact_free_iff nonzero charged fits
    · rw [if_neg charged]
      exact inverseExact_charged_iff nonzero charged fits

end Exact

namespace Sample

/-- A keyset of given denominations. -/
def ofDenominations (denominations : List Nat) (inputFeePpk : Nat) : KeysetInfo carriers :=
  .new "id" "sat" (SortedMap.ofList (denominations.map fun amount => (amount, point 5)))
    inputFeePpk none

end Sample

open Sample in
/-- Over ones and twos three is reached by four, two coins at a tenth each. -/
theorem inverse_exact_iff_gapless_three : (ofDenominations [1, 2] 100).InverseExact 0 3 := by
  refine (inverse_exact_iff_gapless (ofDenominations [1, 2] 100) 0 3 (by decide)).mpr (.inr ?_)
  have worth : 4 ∈ (ofDenominations [1, 2] 100).worthy 0 3 := ⟨by decide, 3, by decide, le_rfl⟩
  intro _
  refine ⟨4, worth, fun amount above below => ?_⟩
  have isThree : amount = 3 := by omega
  subst isThree
  decide

open Sample in
/-- Three cannot be paid in twos, but without a fee it is its own inverse. Over fives at a
tenth each the search stops at three, which cannot be split, though five is worth four. -/
theorem inverse_misses_gaps :
    (0 ∉ (ofDenominations [2] 0).amountsLargestFirst ∧
      (ofDenominations [2] 0).inverseDeterministicValueAfterFees 3 0 = .ok ⟨3, 3⟩ ∧
      (∀ value, (ofDenominations [2] 0).deterministicValueAfterFees 3 0 ≠ .ok value) ∧
      ¬ (ofDenominations [2] 0).InverseExact 0 3) ∧
    0 ∉ (ofDenominations [5] 100).amountsLargestFirst ∧
      (ofDenominations [5] 100).inverseDeterministicValueAfterFees 3 0 =
        .err "Cannot represent 3 using available amounts" ∧
      (ofDenominations [5] 100).deterministicValueAfterFees 5 0 = .ok 4 ∧
      ¬ (ofDenominations [5] 100).InverseExact 0 3 := by
  have free : (ofDenominations [2] 0).inverseDeterministicValueAfterFees 3 0 = .ok ⟨3, 3⟩ := rfl
  have unsplit : (ofDenominations [2] 0).deterministicValueAfterFees 3 0 =
      .err "Cannot represent 3 using available amounts" := by decide +kernel
  have stopped : (ofDenominations [5] 100).inverseDeterministicValueAfterFees 3 0 =
      .err "Cannot represent 3 using available amounts" := by decide +kernel
  have worth : (ofDenominations [5] 100).deterministicValueAfterFees 5 0 = .ok 4 := by
    decide +kernel
  refine ⟨⟨by decide, free, ?_, fun exact => ?_⟩, by decide, stopped, worth, fun exact => ?_⟩
  · rw [unsplit]
    exact fun value => nofun
  · have actual := exact.actual _ free
    rw [unsplit] at actual
    cases actual
  · obtain ⟨result, found⟩ := exact.found_iff.mpr ⟨5, by decide, 4, worth, by decide⟩
    rw [stopped] at found
    cases found

/-! ## Minimum funding -/

/-- The funding amount a capacity needs: the inverse, once for each stage of fees. -/
def ChannelParameters.getMinimumFundingTokenAmount (capacity : Nat) (keysetInfo : KeysetInfo T)
    (maximumAmountForOneOutput : Nat) : Outcome String Nat := do
  let firstInverse ←
    keysetInfo.inverseDeterministicValueAfterFees capacity maximumAmountForOneOutput
  let secondInverse ← keysetInfo.inverseDeterministicValueAfterFees firstInverse.nominalValue
    maximumAmountForOneOutput
  return secondInverse.nominalValue

section Minimum

variable (info : KeysetInfo T) (maximumAmount : Nat)

/-- What an amount is worth after fees, in arithmetic without bounds. -/
def KeysetInfo.worthOf (nominal : Nat) : Nat :=
  Greedy.afterFee info.inputFeePpk (usable maximumAmount info.amountsLargestFirst) nominal

/-- The fee on the split of an amount is computed without overflow. -/
def KeysetInfo.FeeFits (amount : Nat) : Prop :=
  info.inputFeePpk * (greedyList amount maximumAmount info).len < 2 ^ 64

/-- Neither an amount nor any fee up to it overflows. -/
def KeysetInfo.FitsUpTo (bound : Nat) : Prop :=
  bound < 2 ^ 64 ∧ ∀ amount ≤ bound, info.FeeFits maximumAmount amount

instance (amount : Nat) : Decidable (info.FeeFits maximumAmount amount) :=
  inferInstanceAs (Decidable (_ < _))

instance (bound : Nat) : Decidable (info.FitsUpTo maximumAmount bound) :=
  inferInstanceAs (Decidable (_ ∧ _))

variable {info maximumAmount}

theorem KeysetInfo.FitsUpTo.mono {amount bound : Nat} (fits : info.FitsUpTo maximumAmount bound)
    (below : amount ≤ bound) : info.FitsUpTo maximumAmount amount :=
  ⟨below.trans_lt fits.1, fun smaller le => fits.2 smaller (le.trans below)⟩

/-- One unit is one coin at most, so at an ordinary fee it always fits. -/
theorem fitsUpTo_one (cheap : info.inputFeePpk ≤ 999) : info.FitsUpTo maximumAmount 1 := by
  refine ⟨by decide, fun amount small => ?_⟩
  have few : (greedyList amount maximumAmount info).len ≤ 1 := by
    rw [greedyList_len]
    exact (Greedy.size_coins_le _ _).trans small
  have product := Nat.mul_le_mul cheap few
  rw [KeysetInfo.FeeFits]
  omega

/-- Over a keyset with a zero denomination nothing can be split. -/
theorem splits_of_zero_mem (zero : 0 ∈ info.amountsLargestFirst) {amount : Nat} :
    Splits info maximumAmount amount ↔ amount = 0 := by
  rw [Splits, or_iff_left fun splits => splits.1 zero]

section Unit

variable (positive : 0 ∉ info.amountsLargestFirst)
  (unit : 1 ∈ usable maximumAmount info.amountsLargestFirst)
include positive unit

/-- With the unit every amount can be split, and what the code computes is what it is worth. -/
theorem deterministicValueAfterFees_eq_worthOf {nominal : Nat} (small : nominal < 2 ^ 64)
    (fits : info.FeeFits maximumAmount nominal) :
    info.deterministicValueAfterFees nominal maximumAmount =
      .ok (info.worthOf maximumAmount nominal) := by
  have splits : Splits info maximumAmount nominal :=
    .inr ⟨positive, Greedy.remainder_eq_zero unit nominal⟩
  exact deterministicValueAfterFees_eq_ok_iff.mpr
    ⟨splits, (valueAfterFees_greedyList splits small fits).symm⟩

/-- **The search is the adjoint of the fee.** An amount is worth the target exactly if it is
at least what the search has found. -/
theorem inverse_le_iff (cheap : info.inputFeePpk ≤ 999) {target nominal : Nat}
    (targetFits : target < 2 ^ 64) {result : InverseFeeResult}
    (found : info.inverseDeterministicValueAfterFees target maximumAmount = .ok result)
    (fits : info.FitsUpTo maximumAmount nominal) :
    result.nominalValue ≤ nominal ↔ target ≤ info.worthOf maximumAmount nominal := by
  obtain ⟨-, -, refused, worth⟩ := of_inverse_eq_ok targetFits found
  have computed := deterministicValueAfterFees_eq_worthOf positive unit fits.1
    (fits.2 nominal le_rfl)
  constructor
  · intro above
    have fitsResult := fits.mono above
    have atResult := deterministicValueAfterFees_eq_worthOf positive unit fitsResult.1
      (fitsResult.2 _ le_rfl)
    exact (worth _ atResult).2.trans
      (deterministicValueAfterFees_mono cheap unit above fits.1 fits.2 atResult computed)
  · intro reached
    by_contra below
    have above := reached.trans (deterministicValueAfterFees_le computed)
    obtain ⟨value, again, short⟩ := refused nominal above (by omega)
    rw [computed, Outcome.ok.injEq] at again
    omega

/-- Where the arithmetic reaches the target, the search finds something. -/
theorem exists_inverse_le {target nominal : Nat} (fits : info.FitsUpTo maximumAmount nominal)
    (reached : target ≤ info.worthOf maximumAmount nominal) :
    ∃ result, info.inverseDeterministicValueAfterFees target maximumAmount = .ok result ∧
      result.nominalValue ≤ nominal := by
  have computed := deterministicValueAfterFees_eq_worthOf positive unit fits.1
    (fits.2 nominal le_rfl)
  exact exists_inverse_eq_ok (reached.trans (deterministicValueAfterFees_le computed)) fits.1
    (fun amount _ _ => .inr ⟨positive, Greedy.remainder_eq_zero unit amount⟩) computed reached

/-- What an amount is worth fits where the amount does. -/
theorem fitsUpTo_worthOf {nominal : Nat} (fits : info.FitsUpTo maximumAmount nominal) :
    info.FitsUpTo maximumAmount (info.worthOf maximumAmount nominal) :=
  fits.mono (deterministicValueAfterFees_le (deterministicValueAfterFees_eq_worthOf positive unit
    fits.1 (fits.2 nominal le_rfl)))

/-- The two searches are the adjoint of the two stages. -/
theorem getMinimum_le_iff (cheap : info.inputFeePpk ≤ 999) {capacity bound : Nat}
    (boundFits : info.FitsUpTo maximumAmount bound)
    (reached : capacity ≤ info.worthOf maximumAmount (info.worthOf maximumAmount bound)) :
    ∃ minimum, ChannelParameters.getMinimumFundingTokenAmount capacity info maximumAmount =
        .ok minimum ∧
      minimum ≤ bound ∧ ∀ funding, info.FitsUpTo maximumAmount funding →
        (minimum ≤ funding ↔
          capacity ≤ info.worthOf maximumAmount (info.worthOf maximumAmount funding)) := by
  have stageFits := fitsUpTo_worthOf positive unit boundFits
  obtain ⟨first, foundFirst, firstLe⟩ := exists_inverse_le positive unit stageFits reached
  obtain ⟨second, foundSecond, secondLe⟩ := exists_inverse_le positive unit boundFits firstLe
  have capacityFits : capacity < 2 ^ 64 :=
    reached.trans_lt (fitsUpTo_worthOf positive unit stageFits).1
  refine ⟨second.nominalValue, ?_, secondLe, fun funding fits => ?_⟩
  · simp only [ChannelParameters.getMinimumFundingTokenAmount, foundFirst, foundSecond,
      Outcome.ok_bind, Outcome.pure_eq]
  · rw [inverse_le_iff positive unit cheap (firstLe.trans_lt stageFits.1) foundSecond fits]
    exact inverse_le_iff positive unit cheap capacityFits foundFirst
      (fitsUpTo_worthOf positive unit fits)

end Unit

end Minimum

section Accepts

variable (senderPubkey receiverPubkey : T.PublicKey) (mint : String) (currency : T.CurrencyUnit)
  (expiryTimestamp setupTimestamp : Nat) (channelSecret : Bytes 32)

/-- `ChannelParameters::new` accepts a capacity for a funding amount. -/
def AcceptsFunding (info : KeysetInfo T) (maximumAmount capacity funding : Nat) : Prop :=
  ∃ params, ChannelParameters.new senderPubkey receiverPubkey mint currency capacity funding
    expiryTimestamp setupTimestamp info maximumAmount channelSecret = .ok params

/-- The minimum that is computed is the least amount that is accepted, and everything from it
on is accepted, as far as the arithmetic does not overflow. -/
def MinimumFundingExact (info : KeysetInfo T) (maximumAmount capacity : Nat) : Prop :=
  ∃ minimum, ChannelParameters.getMinimumFundingTokenAmount capacity info maximumAmount =
      .ok minimum ∧
    info.FitsUpTo maximumAmount minimum ∧ ∀ funding, info.FitsUpTo maximumAmount funding →
      (AcceptsFunding senderPubkey receiverPubkey mint currency expiryTimestamp setupTimestamp
        channelSecret info maximumAmount capacity funding ↔ minimum ≤ funding)

/-- **Minimum funding is the minimum, where no denomination is zero.** The keyset has the
unit and an ordinary fee, and some amount is worth the capacity without overflow. Over a
keyset with a zero denomination no funding is ever split, so nothing but zero is accepted. -/
theorem minimumFunding_exact_iff (info : KeysetInfo T) (maximumAmount capacity : Nat)
    (unit : 1 ∈ usable maximumAmount info.amountsLargestFirst) (cheap : info.inputFeePpk ≤ 999)
    (affordable : ∃ bound, info.FitsUpTo maximumAmount bound ∧
      capacity ≤ info.worthOf maximumAmount (info.worthOf maximumAmount bound)) :
    MinimumFundingExact senderPubkey receiverPubkey mint currency expiryTimestamp setupTimestamp
      channelSecret info maximumAmount capacity ↔ 0 ∉ info.amountsLargestFirst := by
  constructor
  · rintro ⟨minimum, -, minimumFits, exact⟩ zero
    -- any accepted amount is zero, and then one is accepted as well
    have nothing {funding : Nat} (accepted : AcceptsFunding senderPubkey receiverPubkey mint
        currency expiryTimestamp setupTimestamp channelSecret info maximumAmount capacity funding) :
        funding = 0 := by
      obtain ⟨params, made⟩ := accepted
      obtain ⟨-, ⟨_, _, stage1, -⟩, -⟩ := ChannelParameters.new_eq_ok_iff.mp made
      exact (splits_of_zero_mem zero).mp (deterministicValueAfterFees_eq_ok_iff.mp stage1).1
    have isZero := nothing ((exact minimum minimumFits).mpr le_rfl)
    have one := nothing ((exact 1 (fitsUpTo_one cheap)).mpr (by omega))
    cases one
  · intro positive
    obtain ⟨bound, boundFits, reached⟩ := affordable
    obtain ⟨minimum, computed, below, least⟩ :=
      getMinimum_le_iff positive unit cheap boundFits reached
    refine ⟨minimum, computed, boundFits.mono below, fun funding fits => ?_⟩
    rw [least funding fits, AcceptsFunding]
    have stage1 := deterministicValueAfterFees_eq_worthOf positive unit fits.1
      (fits.2 funding le_rfl)
    have fitsStage := fitsUpTo_worthOf positive unit fits
    have stage2 := deterministicValueAfterFees_eq_worthOf positive unit fitsStage.1
      (fitsStage.2 _ le_rfl)
    simp only [ChannelParameters.new_eq_ok_iff, cheap, true_and, stage1, Outcome.ok.injEq,
      exists_and_left, exists_eq_left', stage2, exists_eq, and_true]

end Accepts

open Sample in
/-- Over ones and twos, at a tenth each, three units need a funding of five. -/
theorem minimumFunding_exact_iff_three :
    ChannelParameters.getMinimumFundingTokenAmount 3 (ofDenominations [1, 2] 100) 0 = .ok 5 ∧
    MinimumFundingExact (point 2) (point 3) "m" "sat" 2000 1000 (bytes32 11)
      (ofDenominations [1, 2] 100) 0 3 :=
  ⟨by decide +kernel, (minimumFunding_exact_iff (point 2) (point 3) "m" "sat" 2000 1000
    (bytes32 11) (ofDenominations [1, 2] 100) 0 3 (by decide) (by decide)
    ⟨5, by decide +kernel, by decide +kernel⟩).mpr (by decide)⟩

open Sample in
/-- A keyset of ones and zeroes: one unit is the computed minimum for one unit, but the
parameters with it are never made. -/
theorem minimumFunding_stuck :
    1 ∈ usable 0 (ofDenominations [0, 1] 0).amountsLargestFirst ∧
    (ofDenominations [0, 1] 0).FitsUpTo 0 1 ∧
    1 ≤ (ofDenominations [0, 1] 0).worthOf 0 ((ofDenominations [0, 1] 0).worthOf 0 1) ∧
    ChannelParameters.getMinimumFundingTokenAmount 1 (ofDenominations [0, 1] 0) 0 = .ok 1 ∧
    ChannelParameters.new (point 2) (point 3) "m" "sat" 1 1 2000 1000 (ofDenominations [0, 1] 0)
      0 (bytes32 11) = .noReturn ∧
    ¬ MinimumFundingExact (point 2) (point 3) "m" "sat" 2000 1000 (bytes32 11)
      (ofDenominations [0, 1] 0) 0 1 := by
  have minimum : ChannelParameters.getMinimumFundingTokenAmount 1 (ofDenominations [0, 1] 0) 0 =
      .ok 1 := rfl
  have stuck : ChannelParameters.new (point 2) (point 3) "m" "sat" 1 1 2000 1000
      (ofDenominations [0, 1] 0) 0 (bytes32 11) = .noReturn := by decide +kernel
  have fits : (ofDenominations [0, 1] 0).FitsUpTo 0 1 := by decide +kernel
  refine ⟨by decide, fits, by decide +kernel, minimum, stuck, ?_⟩
  rintro ⟨least, isLeast, -, exact⟩
  rw [minimum, Outcome.ok.injEq] at isLeast
  obtain ⟨params, made⟩ := (exact 1 fits).mpr isLeast.ge
  rw [stuck] at made
  cases made

/-! ## Whether the computation ends -/

section Termination

variable (L : Cashu T)

/-- `compute_funding_token_amount`, over the keyset as the mint sent it. -/
def computeFundingTokenAmount (capacity : Nat) (keysetInfoJson : T.Text) (maximumAmount : Nat) :
    Outcome String Nat := do
  let keysetInfo ← parseKeysetInfoFromJson L keysetInfoJson
  (ChannelParameters.getMinimumFundingTokenAmount capacity keysetInfo maximumAmount).mapErr
    fun e => s!"Failed to compute funding token amount: {e}"

variable (info : KeysetInfo T) (maximumAmount : Nat)

/-- Pricing an amount overflows neither in the total of its split nor in the fee. -/
def KeysetInfo.PriceFits (nominal : Nat) : Prop :=
  ∀ list, OrderedListOfAmounts.fromTarget nominal maximumAmount info = .ok list →
    list.amounts.sum < 2 ^ 64 ∧ list.inputFeePpk * list.len < 2 ^ 64

/-- The loop of the search, from a nominal amount on: every round prices its amount and comes
back, the next amount is a `u64` again, and some round is the last. -/
inductive KeysetInfo.SearchEnds (target : Nat) : Nat → Prop
  | last {nominal : Nat} (fits : info.PriceFits maximumAmount nominal)
      (returns : (info.inverseProbe target maximumAmount nominal).Returns)
      (ended : info.inverseProbe target maximumAmount nominal ≠ .ok none) :
      SearchEnds target nominal
  | next {nominal : Nat} (fits : info.PriceFits maximumAmount nominal)
      (refused : info.inverseProbe target maximumAmount nominal = .ok none)
      (small : nominal + 1 < 2 ^ 64) (rest : SearchEnds target (nominal + 1)) :
      SearchEnds target nominal

/-- The inverse ends without overflow. Where there is nothing to search for, nothing can. -/
def KeysetInfo.InverseEnds (target : Nat) : Prop :=
  target = 0 ∨ info.inputFeePpk = 0 ∨ info.SearchEnds maximumAmount target target

/-- From a target on there is an amount that is worth it or cannot be split, and no fee
overflows up to there. -/
def KeysetInfo.Settles (target : Nat) : Prop :=
  ∃ stop, target ≤ stop ∧ stop < 2 ^ 64 ∧
    (Splits info maximumAmount stop → target ≤ info.worthOf maximumAmount stop) ∧
    ∀ amount, target ≤ amount → amount ≤ stop → Splits info maximumAmount amount →
      info.FeeFits maximumAmount amount

/-- The first amount from a target on that is worth it, all before it being worth less. -/
structure KeysetInfo.FirstWorth (target nominal : Nat) : Prop where
  above : target ≤ nominal
  small : nominal < 2 ^ 64
  splits : Splits info maximumAmount nominal
  worth : target ≤ info.worthOf maximumAmount nominal
  before : ∀ amount, target ≤ amount → amount < nominal →
    Splits info maximumAmount amount ∧ info.worthOf maximumAmount amount < target

/-- The capacities for which both searches settle. No fee needs no search; otherwise no
denomination is zero, the capacity settles, and so does the first amount worth it. -/
def KeysetInfo.Convergent (capacity : Nat) : Prop :=
  capacity = 0 ∨ info.inputFeePpk = 0 ∨ (0 ∉ info.amountsLargestFirst ∧
    info.Settles maximumAmount capacity ∧
    ∀ nominal, info.FirstWorth maximumAmount capacity nominal →
      info.Settles maximumAmount nominal)

variable {info maximumAmount}

/-- The split comes back, unless a zero denomination keeps it. -/
theorem returns_fromTarget_iff {target : Nat} :
    (OrderedListOfAmounts.fromTarget target maximumAmount info).Returns ↔
      target = 0 ∨ 0 ∉ info.amountsLargestFirst := by
  by_cases nonzero : target = 0
  · rw [OrderedListOfAmounts.fromTarget, if_pos nonzero]
    exact iff_of_true (Outcome.returns_ok _) (.inl nonzero)
  rw [OrderedListOfAmounts.fromTarget, if_neg nonzero, or_iff_right nonzero]
  by_cases zero : 0 ∈ info.amountsLargestFirst
  · rw [splitLoop_eq_none zero]
    exact iff_of_false (fun returns => returns rfl) (fun none => none zero)
  · obtain ⟨result, ran, -⟩ :=
      splitLoop_eq maximumAmount zero target SortedMap.empty (by simp [SortedMap.empty])
    rw [ran]
    refine iff_of_true ?_ zero
    dsimp only
    split_ifs
    · exact Outcome.returns_err _
    · exact Outcome.returns_err _
    · exact Outcome.returns_ok _

theorem returns_inverseProbe_iff {target nominal : Nat} :
    (info.inverseProbe target maximumAmount nominal).Returns ↔
      nominal = 0 ∨ 0 ∉ info.amountsLargestFirst := by
  have split := @returns_fromTarget_iff T info maximumAmount nominal
  rw [← split]
  unfold KeysetInfo.inverseProbe KeysetInfo.deterministicValueAfterFees
  cases OrderedListOfAmounts.fromTarget nominal maximumAmount info with
  | ok list => exact iff_of_true (Outcome.returns_ok _) (Outcome.returns_ok _)
  | err message => exact iff_of_true (Outcome.returns_err _) (Outcome.returns_err _)
  | noReturn => exact iff_of_false (fun returns => returns rfl) (fun returns => returns rfl)

theorem priceFits_iff {nominal : Nat} (small : nominal < 2 ^ 64) :
    info.PriceFits maximumAmount nominal ↔
      (Splits info maximumAmount nominal → info.FeeFits maximumAmount nominal) := by
  constructor
  · intro fits splits
    exact (fits _ (fromTarget_of_splits splits)).2
  · intro fits list made
    obtain ⟨splits, rfl⟩ := fromTarget_eq_ok_iff.mp made
    exact ⟨(greedyList_sum splits).trans_lt small, fits splits⟩

/-- A round goes on exactly from an amount that can be split and is worth too little. -/
theorem inverseProbe_refused_iff {target nominal : Nat} (small : nominal < 2 ^ 64)
    (fits : info.PriceFits maximumAmount nominal) :
    info.inverseProbe target maximumAmount nominal = .ok none ↔
      Splits info maximumAmount nominal ∧ info.worthOf maximumAmount nominal < target := by
  rw [inverseProbe_eq_ok_none]
  simp only [deterministicValueAfterFees_eq_ok_iff]
  constructor
  · rintro ⟨_, ⟨splits, rfl⟩, short⟩
    rw [valueAfterFees_greedyList splits small ((priceFits_iff small).mp fits splits)] at short
    exact ⟨splits, short⟩
  · rintro ⟨splits, short⟩
    have value := valueAfterFees_greedyList splits small ((priceFits_iff small).mp fits splits)
    exact ⟨_, ⟨splits, rfl⟩, value ▸ short⟩

/-- **A search ends without overflow exactly if there is something to stop it.** One
direction goes along the rounds, the other down from the stop. -/
theorem searchEnds_iff {target start : Nat} (nonzero : start ≠ 0) (startFits : start < 2 ^ 64) :
    info.SearchEnds maximumAmount target start ↔
      0 ∉ info.amountsLargestFirst ∧ ∃ stop, start ≤ stop ∧ stop < 2 ^ 64 ∧
        (Splits info maximumAmount stop → target ≤ info.worthOf maximumAmount stop) ∧
        ∀ amount, start ≤ amount → amount ≤ stop → Splits info maximumAmount amount →
          info.FeeFits maximumAmount amount := by
  constructor
  · intro ends
    induction ends with
    | @last nominal fits returns ended =>
        refine ⟨(returns_inverseProbe_iff.mp returns).resolve_left nonzero, nominal, le_rfl,
          startFits, ?_, ?_⟩
        · intro splits
          rw [Ne, inverseProbe_refused_iff startFits fits] at ended
          by_contra short
          exact ended ⟨splits, by omega⟩
        · intro amount above below
          rw [Nat.le_antisymm below above]
          exact (priceFits_iff startFits).mp fits
    | @next nominal fits refused small rest ih =>
        obtain ⟨positive, stop, above, stopFits, stopped, fee⟩ := ih (by omega) small
        refine ⟨positive, stop, by omega, stopFits, stopped, fun amount from' upTo => ?_⟩
        rcases from'.eq_or_lt with rfl | later
        · exact (priceFits_iff startFits).mp fits
        · exact fee amount later upTo
  · rintro ⟨positive, stop, above, stopFits, stopped, fee⟩
    induction rounds : stop - start generalizing start with
    | zero =>
        have atStop : start = stop := by omega
        subst atStop
        have fits := (priceFits_iff startFits).mpr (fee start le_rfl le_rfl)
        refine .last fits (returns_inverseProbe_iff.mpr (.inr positive)) fun refused => ?_
        obtain ⟨splits, short⟩ := (inverseProbe_refused_iff startFits fits).mp refused
        have reached := stopped splits
        omega
    | succ rounds ih =>
        have fits := (priceFits_iff startFits).mpr (fee start le_rfl above)
        by_cases refused : info.inverseProbe target maximumAmount start = .ok none
        · refine .next fits refused (by omega) (ih (by omega) (by omega) (by omega) ?_ (by omega))
          exact fun amount from' => fee amount (by omega)
        · exact .last fits (returns_inverseProbe_iff.mpr (.inr positive)) refused

/-- A search that ends returns, whatever rounds are left of all that a `u64` has. -/
theorem returns_seek_of_searchEnds {target start : Nat}
    (ends : info.SearchEnds maximumAmount target start) (startFits : start < 2 ^ 64)
    (rounds : Nat) (enough : 2 ^ 64 ≤ start + rounds) :
    (seek (fun nominal => (nominal + 1) % 2 ^ 64) (info.inverseProbe target maximumAmount)
      rounds start).Returns := by
  induction ends generalizing rounds with
  | @last nominal fits returns ended =>
      obtain ⟨left, rfl⟩ : ∃ left, rounds = left + 1 := ⟨rounds - 1, by omega⟩
      rw [seek_succ]
      refine returns.bind fun found isFound => ?_
      cases found with
      | none => exact absurd isFound ended
      | some result => exact Outcome.returns_ok result
  | @next nominal fits refused small rest ih =>
      obtain ⟨left, rfl⟩ : ∃ left, rounds = left + 1 := ⟨rounds - 1, by omega⟩
      rw [seek_succ, refused, Outcome.ok_bind]
      have stepped : (nominal + 1) % 2 ^ 64 = nominal + 1 := Nat.mod_eq_of_lt small
      dsimp only
      rw [stepped]
      exact ih small left (by omega)

theorem inverseEnds_iff {target : Nat} (fits : target < 2 ^ 64) :
    info.InverseEnds maximumAmount target ↔ target = 0 ∨ info.inputFeePpk = 0 ∨
      (0 ∉ info.amountsLargestFirst ∧ info.Settles maximumAmount target) := by
  rw [KeysetInfo.InverseEnds]
  by_cases nonzero : target = 0
  · exact iff_of_true (.inl nonzero) (.inl nonzero)
  · rw [searchEnds_iff nonzero fits, KeysetInfo.Settles]

theorem returns_inverse {target : Nat} (fits : target < 2 ^ 64)
    (ends : info.InverseEnds maximumAmount target) :
    (info.inverseDeterministicValueAfterFees target maximumAmount).Returns := by
  unfold KeysetInfo.inverseDeterministicValueAfterFees
  split_ifs with zero free
  · exact Outcome.returns_ok _
  · exact Outcome.returns_ok _
  · have searched := (ends.resolve_left zero).resolve_left free
    exact returns_seek_of_searchEnds searched fits _ (Nat.le_add_left _ _)

/-- Where the target settles, the search finds exactly the first amount worth it. -/
theorem exists_inverse_iff_firstWorth {target : Nat} (nonzero : target ≠ 0)
    (charged : info.inputFeePpk ≠ 0) (fits : target < 2 ^ 64)
    (settles : info.Settles maximumAmount target) {nominal : Nat} :
    (∃ result, info.inverseDeterministicValueAfterFees target maximumAmount = .ok result ∧
        result.nominalValue = nominal) ↔ info.FirstWorth maximumAmount target nominal := by
  obtain ⟨stop, above, stopFits, stopped, fee⟩ := settles
  -- up to the stop the computed values are the true ones
  have computed {amount value : Nat} (from' : target ≤ amount) (upTo : amount ≤ stop) :
      info.deterministicValueAfterFees amount maximumAmount = .ok value ↔
        Splits info maximumAmount amount ∧ value = info.worthOf maximumAmount amount := by
    rw [deterministicValueAfterFees_eq_ok_iff]
    refine and_congr_right fun splits => ?_
    rw [valueAfterFees_greedyList splits (by omega) (fee amount from' upTo splits),
      KeysetInfo.worthOf]
  constructor
  · rintro ⟨result, found, rfl⟩
    obtain ⟨from', small, priced, reached, refused⟩ :=
      (inverse_eq_ok_iff nonzero charged fits).mp found
    have upTo : result.nominalValue ≤ stop := by
      by_contra beyond
      obtain ⟨value, isValue, short⟩ := refused stop above (by omega)
      obtain ⟨splits, rfl⟩ := (computed above le_rfl).mp isValue
      have enough := stopped splits
      omega
    obtain ⟨splits, isWorth⟩ := (computed from' upTo).mp priced
    refine ⟨from', small, splits, isWorth ▸ reached, fun amount later before => ?_⟩
    obtain ⟨value, isValue, short⟩ := refused amount later before
    obtain ⟨splitsBefore, rfl⟩ := (computed later (by omega)).mp isValue
    exact ⟨splitsBefore, short⟩
  · intro first
    have upTo : nominal ≤ stop := by
      by_contra beyond
      obtain ⟨splits, short⟩ := first.before stop above (by omega)
      have enough := stopped splits
      omega
    refine ⟨⟨nominal, info.worthOf maximumAmount nominal⟩,
      (inverse_eq_ok_iff nonzero charged fits).mpr ⟨first.above, first.small, ?_, first.worth, ?_⟩,
      rfl⟩
    · exact (computed first.above upTo).mpr ⟨first.splits, rfl⟩
    · intro amount later before
      obtain ⟨splits, short⟩ := first.before amount later before
      exact ⟨_, (computed later (by dsimp only at before; omega)).mpr ⟨splits, rfl⟩, short⟩

/-- The computation of the minimum ends: it returns, and neither of its searches runs on or
overflows. -/
structure MinimumEnds (capacity : Nat) (keysetInfoJson : T.Text) (maximumAmount : Nat)
    (info : KeysetInfo T) : Prop where
  returns : (computeFundingTokenAmount L capacity keysetInfoJson maximumAmount).Returns
  first : info.InverseEnds maximumAmount capacity
  second : ∀ result, info.inverseDeterministicValueAfterFees capacity maximumAmount = .ok result →
    info.InverseEnds maximumAmount result.nominalValue

end Termination

namespace Sample

/-- The keyset of given denominations, as a mint sends it. -/
def denominationsJson (denominations : List Nat) (inputFeePpk : Nat) : Json :=
  (ofDenominations denominations inputFeePpk).toJson library

end Sample

/-- Where every output costs itself, nothing is worth anything. -/
theorem worthOf_ones (nominal : Nat) : (Sample.ofDenominations [1] 1000).worthOf 0 nominal = 0 := by
  have ones : usable 0 (Sample.ofDenominations [1] 1000).amountsLargestFirst = [1] := by decide
  rw [KeysetInfo.worthOf, ones]
  have coins : Greedy.size (Greedy.coins [1] nominal) = nominal := by
    rw [Greedy.size_coins_cons]
    simp [Greedy.coins]
  have rate : (Sample.ofDenominations [1] 1000).inputFeePpk = 1000 := rfl
  rw [Greedy.afterFee, coins, rate, Greedy.fee, Greedy.divCeil]
  omega

/-- What balances and capacities rest on: every amount can be split, one unit more takes one
coin more at most, and so at less than a unit for each coin more is worth no less. -/
structure KeysetInfo.SplitsGrow (info : KeysetInfo T) (maximumAmount : Nat) : Prop where
  splits : ∀ target, ∃ list,
    OrderedListOfAmounts.fromTarget target maximumAmount info = .ok list ∧
      list.amounts.sum = target ∧ ∀ amount ∈ list.amounts,
        amount ∈ info.amountsLargestFirst ∧ (maximumAmount = 0 ∨ amount ≤ maximumAmount)
  grows : ∀ target list next,
    OrderedListOfAmounts.fromTarget target maximumAmount info = .ok list →
    OrderedListOfAmounts.fromTarget (target + 1) maximumAmount info = .ok next →
    next.len ≤ list.len + 1
  worth : info.inputFeePpk ≤ 999 → ∀ nominal larger, nominal ≤ larger → larger < 2 ^ 64 →
    info.FeeFits maximumAmount nominal → info.FeeFits maximumAmount larger →
    ∃ value valueLarger, info.deterministicValueAfterFees nominal maximumAmount = .ok value ∧
      info.deterministicValueAfterFees larger maximumAmount = .ok valueLarger ∧
      value ≤ valueLarger
  fee : info.inputFeePpk ≤ 999 → ∀ nominal list, nominal < 2 ^ 64 →
    info.FeeFits maximumAmount nominal →
    OrderedListOfAmounts.fromTarget nominal maximumAmount info = .ok list →
    Greedy.fee info.inputFeePpk list.len ≤ nominal ∧
      info.deterministicValueAfterFees nominal maximumAmount =
        .ok (nominal - Greedy.fee info.inputFeePpk list.len)

/-- **Greedy splits grow by one coin at most**, over every coin system with the unit. -/
theorem greedySplits_grow (info : KeysetInfo T) (maximumAmount : Nat)
    (positive : 0 ∉ info.amountsLargestFirst) (unit : 1 ∈ info.amountsLargestFirst) :
    info.SplitsGrow maximumAmount := by
  have usableUnit : 1 ∈ usable maximumAmount info.amountsLargestFirst := one_mem_usable unit
  have splits : ∀ target, Splits info maximumAmount target :=
    fun target => .inr ⟨positive, Greedy.remainder_eq_zero usableUnit target⟩
  constructor
  case splits =>
    intro target
    refine ⟨_, fromTarget_of_splits (splits target), greedyList_sum (splits target), ?_⟩
    intro amount member
    obtain ⟨listed, -, within⟩ := of_mem_greedyList member
    exact ⟨listed, within⟩
  case grows =>
    intro target list next split splitNext
    obtain ⟨-, rfl⟩ := fromTarget_eq_ok_iff.mp split
    obtain ⟨-, rfl⟩ := fromTarget_eq_ok_iff.mp splitNext
    rw [greedyList_len, greedyList_len]
    exact Greedy.size_coins_succ_le usableUnit target
  case worth =>
    intro cheap nominal larger le small fits fitsLarger
    refine ⟨_, _,
      deterministicValueAfterFees_eq_worthOf positive usableUnit (le.trans_lt small) fits,
      deterministicValueAfterFees_eq_worthOf positive usableUnit small fitsLarger, ?_⟩
    exact Greedy.afterFee_mono (cheap.trans (by decide)) usableUnit le
  case fee =>
    intro cheap nominal list small fits split
    obtain ⟨-, rfl⟩ := fromTarget_eq_ok_iff.mp split
    rw [greedyList_len]
    constructor
    · have exact := Greedy.afterFee_add_fee (cheap.trans (by decide))
        (usable maximumAmount info.amountsLargestFirst) nominal
      omega
    · exact deterministicValueAfterFees_eq_worthOf positive usableUnit small fits

/-- Over ones, threes and fours, where the greedy split is not the smallest one. -/
theorem greedySplits_grow_threes : (Sample.ofDenominations [1, 3, 4] 100).SplitsGrow 0 :=
  greedySplits_grow (Sample.ofDenominations [1, 3, 4] 100) 0 (by decide) (by decide)

end Spilman
