/-
# The Go kit's host

The kits bring the host to other languages. They read the same configuration as the host
in Rust and price usage by the same formula, but each with the arithmetic of its own
language: in Go every sum and product of `uint64` wraps, in Rust all but one saturate.

Here the two are compared. `T` below is the exact price, a number without bounds.
-/

import Mathlib.Algebra.Order.Floor.Div
import Spilman.ConfigurableHost
import Spilman.Sample
import Spilman.Storage.Memory

namespace Spilman

open Lib

variable {T : Carriers} {σ τ : Type}

/-! ## Pricing in Go -/

namespace GoKit

/-- What the kit stores of a funded channel. -/
structure ChannelFundingData (T : Carriers) where
  paramsJson : T.Text
  fundingProofsJson : T.Text
  channelSecret : String
  keysetInfoJson : T.Text
  deriving DecidableEq

/-- What pricing reads from the kit's stores. -/
structure PricingStores (T : Carriers) (τ : Type) where
  getFunding : τ → String → Option (ChannelFundingData T)
  /-- No usage is the empty map. -/
  getUsage : τ → String → UsageMap

/-- The part of the kit's host that prices usage. -/
structure BaseSpilmanHost (T : Carriers) (τ : Type) where
  pricing : Table String UnitPricingConfig
  pricingScale : Nat
  stores : PricingStores T τ

/-- The sum over the priced variables, in `uint64`. -/
def total (variablePrices : Table String Nat) (accumulated pending : String → Nat) : Nat :=
  variablePrices.entries.foldl (fun total entry =>
    (total + (accumulated entry.1 + pending entry.1) % 2 ^ 64 * entry.2 % 2 ^ 64) % 2 ^ 64) 0

/-- The total over the scale, rounded up; the numerator is a `uint64`. -/
def scaled (pricingScale total : Nat) : Nat :=
  if total = 0 then 0
  else
    let scale := if pricingScale = 0 then 1 else pricingScale
    (total + scale - 1) % 2 ^ 64 / scale

variable (L : Cashu T)

/-- `json.Unmarshal` into a usage map. A value that is no `uint64` leaves a zero. -/
def pendingUsage (contextJson : Option T.Text) (var : String) : Nat :=
  match contextJson.map L.parse with
  | some (.ok json) => (json.field var).asU64.getD 0
  | _ => 0

/-- `json.Unmarshal` into a struct whose only field is the unit. Names are matched without
regard to case, and the last one that holds a string counts. -/
def unitOf (paramsJson : T.Text) : String :=
  match L.parse paramsJson with
  | .ok (.obj entries) => entries.foldl (fun unit entry =>
      if entry.1.toLower = "unit" then entry.2.asStr.getD unit else unit) ""
  | _ => ""

/-- What is due on a channel. Nothing is due without funding or without prices. -/
def BaseSpilmanHost.getAmountDue (host : BaseSpilmanHost T τ) (store : τ) (channelId : String)
    (contextJson : Option T.Text) : Nat :=
  let accumulated := host.stores.getUsage store channelId
  match host.stores.getFunding store channelId with
  | none => 0
  | some funding =>
      match host.pricing.lookup (unitOf L funding.paramsJson) with
      | none => 0
      | some unitPricing =>
          scaled host.pricingScale (total unitPricing.variablePrices
            (fun var => (accumulated.lookup var).getD 0) (pendingUsage L contextJson))

end GoKit

/-! ## Totals -/

section Totals

variable (variablePrices : Table String Nat) (accumulated pending : String → Nat)

/-- The exact price of usage, before it is scaled. -/
def exactTotal : Nat :=
  (variablePrices.entries.map fun entry =>
    (accumulated entry.1 + pending entry.1) * entry.2).sum

/-- The price of usage whose sums have wrapped. -/
def wrappedTotal : Nat :=
  (variablePrices.entries.map fun entry =>
    (accumulated entry.1 + pending entry.1) % 2 ^ 64 * entry.2).sum

/-- What wraps in Rust is the usage, so the total is the exact one modulo `2 ^ 64`. -/
theorem wrappedTotal_mod : wrappedTotal variablePrices accumulated pending % 2 ^ 64 =
    exactTotal variablePrices accumulated pending % 2 ^ 64 := by
  rw [wrappedTotal, exactTotal]
  induction variablePrices.entries with
  | nil => rfl
  | cons entry rest ih =>
      rw [List.map_cons, List.sum_cons, List.map_cons, List.sum_cons, Nat.add_mod, ih,
        Nat.mod_mul_mod, ← Nat.add_mod]

theorem wrappedTotal_le : wrappedTotal variablePrices accumulated pending ≤
    exactTotal variablePrices accumulated pending := by
  rw [wrappedTotal, exactTotal]
  induction variablePrices.entries with
  | nil => exact le_rfl
  | cons entry rest ih =>
      rw [List.map_cons, List.sum_cons, List.map_cons, List.sum_cons]
      exact Nat.add_le_add (Nat.mul_le_mul_right _ (Nat.mod_le _ _)) ih

variable {variablePrices accumulated pending}

/-- Saturating along the way is saturating once. -/
theorem foldl_saturating {ι : Type} (entries : List ι) (amount price : ι → Nat) {start : Nat}
    (small : start ≤ 2 ^ 64 - 1) :
    entries.foldl (fun total entry =>
        saturatingAdd total (saturatingMul (amount entry) (price entry))) start =
      min (start + (entries.map fun entry => amount entry * price entry).sum) (2 ^ 64 - 1) := by
  induction entries generalizing start with
  | nil => simpa using small
  | cons entry rest ih =>
      have capped : saturatingAdd start (saturatingMul (amount entry) (price entry)) ≤
          2 ^ 64 - 1 := Nat.min_le_right _ _
      rw [List.foldl_cons, ih capped, List.map_cons, List.sum_cons, saturatingAdd, saturatingMul]
      omega

theorem foldl_wrapping {ι : Type} (entries : List ι) (amount price : ι → Nat) (start : Nat) :
    entries.foldl (fun total entry =>
        (total + amount entry % 2 ^ 64 * price entry % 2 ^ 64) % 2 ^ 64) (start % 2 ^ 64) =
      (start + (entries.map fun entry => amount entry * price entry).sum) % 2 ^ 64 := by
  induction entries generalizing start with
  | nil => rfl
  | cons entry rest ih =>
      have step : (start % 2 ^ 64 + amount entry % 2 ^ 64 * price entry % 2 ^ 64) % 2 ^ 64 =
          (start + amount entry * price entry) % 2 ^ 64 := by
        rw [← Nat.add_mod, Nat.add_mod, Nat.mod_mul_mod, ← Nat.add_mod]
      rw [List.foldl_cons, step, ih, List.map_cons, List.sum_cons, Nat.add_assoc]

theorem rawTotal_eq : ConfigurableHostConfig.rawTotal variablePrices accumulated pending =
    min (wrappedTotal variablePrices accumulated pending) (2 ^ 64 - 1) := by
  have saturated := foldl_saturating variablePrices.entries
    (fun entry => (accumulated entry.1 + pending entry.1) % 2 ^ 64) (fun entry => entry.2)
    (Nat.zero_le _)
  rw [Nat.zero_add] at saturated
  exact saturated

theorem goTotal_eq : GoKit.total variablePrices accumulated pending =
    exactTotal variablePrices accumulated pending % 2 ^ 64 := by
  have wrapped := foldl_wrapping variablePrices.entries
    (fun entry => accumulated entry.1 + pending entry.1) (fun entry => entry.2) 0
  rw [Nat.zero_add] at wrapped
  exact wrapped

/-- A total that fits has not wrapped anywhere. -/
theorem wrappedTotal_of_lt (fits : exactTotal variablePrices accumulated pending < 2 ^ 64) :
    wrappedTotal variablePrices accumulated pending =
      exactTotal variablePrices accumulated pending := by
  have same := wrappedTotal_mod variablePrices accumulated pending
  have below := wrappedTotal_le variablePrices accumulated pending
  rwa [Nat.mod_eq_of_lt (below.trans_lt fits), Nat.mod_eq_of_lt fits] at same

theorem exactTotal_mono {accumulated' pending' : String → Nat}
    (grown : ∀ var, accumulated var + pending var ≤ accumulated' var + pending' var) :
    exactTotal variablePrices accumulated pending ≤
      exactTotal variablePrices accumulated' pending' := by
  rw [exactTotal, exactTotal]
  refine List.sum_le_sum fun entry _ => Nat.mul_le_mul_right _ (grown entry.1)

theorem exactTotal_perm {variablePrices' : Table String Nat}
    (perm : variablePrices'.entries.Perm variablePrices.entries) :
    exactTotal variablePrices' accumulated pending =
      exactTotal variablePrices accumulated pending :=
  (perm.map _).sum_eq

theorem wrappedTotal_perm {variablePrices' : Table String Nat}
    (perm : variablePrices'.entries.Perm variablePrices.entries) :
    wrappedTotal variablePrices' accumulated pending =
      wrappedTotal variablePrices accumulated pending :=
  (perm.map _).sum_eq

end Totals

/-! ## Rounding -/

section Rounding

variable {scale total : Nat}

theorem divCeil_le_iff (positive : 0 < scale) {bound : Nat} :
    Greedy.divCeil total scale ≤ bound ↔ total ≤ scale * bound := by
  rw [Greedy.divCeil, ← Nat.ceilDiv_eq_add_pred_div]
  exact ceilDiv_le_iff_le_mul positive

theorem divCeil_mono (positive : 0 < scale) {larger : Nat} (le : total ≤ larger) :
    Greedy.divCeil total scale ≤ Greedy.divCeil larger scale :=
  (divCeil_le_iff positive).mpr (le.trans ((divCeil_le_iff positive).mp le_rfl))

theorem divCeil_zero (positive : 0 < scale) : Greedy.divCeil 0 scale = 0 :=
  Nat.le_zero.mp ((divCeil_le_iff positive).mpr (Nat.zero_le _))

theorem divCeil_pos (positive : 0 < scale) (nonzero : 0 < total) :
    0 < Greedy.divCeil total scale := by
  by_contra none
  have empty := (divCeil_le_iff positive).mp (Nat.le_zero.mpr (Nat.eq_zero_of_not_pos none))
  omega

theorem scaled_eq (positive : 0 < scale) (nonzero : total ≠ 0) :
    GoKit.scaled scale total = (total + scale - 1) % 2 ^ 64 / scale := by
  rw [GoKit.scaled, if_neg nonzero]
  simp only [if_neg positive.ne']

/-- Where the numerator fits, Go rounds up. -/
theorem scaled_of_le (positive : 0 < scale) (fits : total + scale ≤ 2 ^ 64) :
    GoKit.scaled scale total = Greedy.divCeil total scale := by
  by_cases zero : total = 0
  · rw [zero, divCeil_zero positive]
    rfl
  · rw [scaled_eq positive zero, Nat.mod_eq_of_lt (by omega), Greedy.divCeil]

/-- Where it does not, nothing is left. -/
theorem scaled_of_lt (positive : 0 < scale) (scaleFits : scale < 2 ^ 64)
    (small : total < 2 ^ 64) (overflows : 2 ^ 64 < total + scale) :
    GoKit.scaled scale total = 0 := by
  rw [scaled_eq positive (by omega)]
  have wrapped : (total + scale - 1) % 2 ^ 64 < scale := by omega
  exact Nat.div_eq_of_lt wrapped

/-- A rounded numerator that fits is the largest there is in one case only. -/
theorem divCeil_max_le_iff (positive : 0 < scale) (fits : total + scale ≤ 2 ^ 64) :
    Greedy.divCeil (2 ^ 64 - 1) scale ≤ Greedy.divCeil total scale ↔
      scale ∣ 2 ^ 64 - 1 ∧ total = 2 ^ 64 - scale := by
  rw [divCeil_le_iff positive]
  constructor
  · intro reached
    obtain ⟨last, isLast⟩ : ∃ last, Greedy.divCeil total scale = last + 1 := by
      refine Nat.exists_eq_add_one.mpr (Nat.pos_of_ne_zero fun none => ?_)
      rw [none] at reached
      omega
    have short : ¬ total ≤ scale * last := by
      rw [← divCeil_le_iff positive]
      omega
    rw [isLast, Nat.mul_add_one] at reached
    have whole : scale * (last + 1) = 2 ^ 64 - 1 := by
      rw [Nat.mul_add_one]
      omega
    exact ⟨⟨last + 1, whole.symm⟩, by omega⟩
  · rintro ⟨⟨count, whole⟩, rfl⟩
    obtain ⟨last, rfl⟩ : ∃ last, count = last + 1 := by
      refine Nat.exists_eq_add_one.mpr (Nat.pos_of_ne_zero fun none => ?_)
      rw [none] at whole
      omega
    rw [whole]
    refine Nat.mul_le_mul_left _ ?_
    by_contra below
    have short := (divCeil_le_iff positive).mp (Nat.le_of_lt_succ (Nat.lt_of_not_le below))
    rw [Nat.mul_add_one] at whole
    omega

/-- Neither host rounds to more than the largest `u64` would give. -/
theorem scaled_le (positive : 0 < scale) (scaleFits : scale < 2 ^ 64) (small : total < 2 ^ 64) :
    GoKit.scaled scale total ≤ Greedy.divCeil (2 ^ 64 - 1) scale := by
  rcases Nat.lt_or_ge (2 ^ 64) (total + scale) with overflows | fits
  · rw [scaled_of_lt positive scaleFits small overflows]
    exact Nat.zero_le _
  · rw [scaled_of_le positive fits]
    exact divCeil_mono positive (by omega)

/-- A scale of zero counts as one in both. -/
theorem scaled_max (pricingScale total : Nat) :
    GoKit.scaled pricingScale total = GoKit.scaled (max pricingScale 1) total := by
  unfold GoKit.scaled
  by_cases zero : pricingScale = 0
  · subst zero
    rfl
  · rw [max_eq_left (Nat.pos_of_ne_zero zero)]

end Rounding

/-! ## The two hosts -/

/-- A price is exact while the exact total is a `u64`, and otherwise at least what the
largest one would cost. -/
structure NeverUnderprices (scale total due kitDue : Nat) : Prop where
  exact : total < 2 ^ 64 →
    due = Greedy.divCeil total scale ∧ kitDue = Greedy.divCeil total scale
  atLeast : 2 ^ 64 ≤ total →
    Greedy.divCeil (2 ^ 64 - 1) scale ≤ due ∧ Greedy.divCeil (2 ^ 64 - 1) scale ≤ kitDue

/-- The totals that both price so: nothing is due, or the numerator fits as well; and, by
coincidence, the totals that wrap to the largest multiple of the scale, plus one. -/
def Priceable (scale total : Nat) : Prop :=
  total = 0 ∨ total + scale ≤ 2 ^ 64 ∨
    (scale ∣ 2 ^ 64 - 1 ∧ total % 2 ^ 64 = 2 ^ 64 - scale)

instance (scale total : Nat) : Decidable (Priceable scale total) :=
  inferInstanceAs (Decidable (_ ∨ _))

/-- Both hosts see the same usage of a channel and the same pending usage, and have the same
prices for its unit, in whatever order, and the same scale. -/
structure SameUsage (L : Cashu T) (H : ConfigurableHost T σ) (store : σ)
    (kit : GoKit.BaseSpilmanHost T τ) (kitStore : τ) (channelId : String)
    (context : Option T.Text) (variablePrices : Table String Nat)
    (accumulated pending : String → Nat) : Prop where
  prices : ∃ unitPricing,
    H.config.pricing.lookup ((H.channelUnit L store channelId).getD "") = some unitPricing ∧
    unitPricing.variablePrices.entries.Perm variablePrices.entries
  kitPrices : ∃ funding unitPricing, kit.stores.getFunding kitStore channelId = some funding ∧
    kit.pricing.lookup (GoKit.unitOf L funding.paramsJson) = some unitPricing ∧
    unitPricing.variablePrices.entries.Perm variablePrices.entries
  scale_eq : kit.pricingScale = H.config.pricingScale
  usage : ∀ var,
    (((H.storage.getUsage store channelId).getD ∅).lookup var).getD 0 = accumulated var
  kitUsage : ∀ var, ((kit.stores.getUsage kitStore channelId).lookup var).getD 0 =
    accumulated var
  pending_eq : pendingUsage L context = pending
  kitPending_eq : GoKit.pendingUsage L context = pending

section Compare

variable {L : Cashu T} {H : ConfigurableHost T σ} {store : σ} {kit : GoKit.BaseSpilmanHost T τ}
  {kitStore : τ} {channelId : String} {context : Option T.Text}
  {variablePrices : Table String Nat} {accumulated pending : String → Nat}

theorem scale_pos (config : ConfigurableHostConfig) : 0 < config.scale := by
  unfold ConfigurableHostConfig.scale
  omega

theorem SameUsage.due_eq (same : SameUsage L H store kit kitStore channelId context variablePrices
    accumulated pending) :
    H.computeAmountDue L store store channelId context =
      Greedy.divCeil (min (wrappedTotal variablePrices accumulated pending) (2 ^ 64 - 1))
        H.config.scale := by
  obtain ⟨unitPricing, priced, perm⟩ := same.prices
  simp only [ConfigurableHost.computeAmountDue, ConfigurableHostConfig.amountDue, priced,
    same.usage, same.pending_eq, rawTotal_eq]
  rw [wrappedTotal_perm perm]

theorem SameUsage.kitDue_eq (same : SameUsage L H store kit kitStore channelId context
    variablePrices accumulated pending) :
    kit.getAmountDue L kitStore channelId context =
      GoKit.scaled H.config.scale (exactTotal variablePrices accumulated pending % 2 ^ 64) := by
  obtain ⟨funding, unitPricing, funded, priced, perm⟩ := same.kitPrices
  simp only [GoKit.BaseSpilmanHost.getAmountDue, funded, priced, same.kitUsage,
    same.kitPending_eq, goTotal_eq, same.scale_eq]
  rw [exactTotal_perm perm, scaled_max, ConfigurableHostConfig.scale]

/-- A wrapped total differs from the exact one by whole multiples of `2 ^ 64` only, so
what Go makes of the exact one decides about both. -/
theorem neverUnderprices_iff {scale total wrapped : Nat} (positive : 0 < scale)
    (scaleFits : scale < 2 ^ 64) (sameMod : wrapped % 2 ^ 64 = total % 2 ^ 64)
    (sameSmall : total < 2 ^ 64 → wrapped = total) :
    NeverUnderprices scale total (Greedy.divCeil (min wrapped (2 ^ 64 - 1)) scale)
        (GoKit.scaled scale (total % 2 ^ 64)) ↔
      Priceable scale total := by
  have modSmall : total % 2 ^ 64 < 2 ^ 64 := Nat.mod_lt _ (Nat.two_pow_pos 64)
  constructor
  · intro priced
    rw [Priceable]
    rcases Nat.lt_or_ge total (2 ^ 64) with small | large
    · -- an overflowing numerator gives nothing, and then nothing was due
      rcases Nat.lt_or_ge (2 ^ 64) (total + scale) with overflows | fits
      · have none := (priced.exact small).2
        rw [Nat.mod_eq_of_lt small, scaled_of_lt positive scaleFits small overflows] at none
        by_contra some
        have due := divCeil_pos positive (Nat.pos_of_ne_zero fun zero => some (.inl zero))
        omega
      · exact .inr (.inl fits)
    · have reached := (priced.atLeast large).2
      rcases Nat.lt_or_ge (2 ^ 64) (total % 2 ^ 64 + scale) with overflows | fits
      · rw [scaled_of_lt positive scaleFits modSmall overflows] at reached
        have due := divCeil_pos positive (show 0 < 2 ^ 64 - 1 by decide)
        omega
      · rw [scaled_of_le positive fits] at reached
        exact .inr (.inr ((divCeil_max_le_iff positive fits).mp reached))
  · intro priceable
    constructor
    · intro small
      have fits : total + scale ≤ 2 ^ 64 := by
        rcases priceable with zero | fits | ⟨-, coincides⟩
        · omega
        · exact fits
        · rw [Nat.mod_eq_of_lt small] at coincides
          omega
      rw [sameSmall small, Nat.mod_eq_of_lt small, min_eq_left (by omega)]
      exact ⟨rfl, scaled_of_le positive fits⟩
    · intro large
      have coincides : scale ∣ 2 ^ 64 - 1 ∧ total % 2 ^ 64 = 2 ^ 64 - scale := by
        rcases priceable with zero | fits | coincides
        · omega
        · omega
        · exact coincides
      have fits : total % 2 ^ 64 + scale ≤ 2 ^ 64 := by omega
      have reached := (divCeil_max_le_iff positive fits).mpr coincides
      constructor
      · refine reached.trans (divCeil_mono positive (le_min ?_ (by omega)))
        rw [← sameMod]
        exact Nat.mod_le _ _
      · rw [scaled_of_le positive fits]
        exact reached

/-- Prices that are never too low grow with the total. -/
theorem NeverUnderprices.mono {scale total total' due kitDue due' kitDue' : Nat}
    (positive : 0 < scale) (priced : NeverUnderprices scale total due kitDue)
    (priced' : NeverUnderprices scale total' due' kitDue') (grown : total ≤ total')
    (most : due ≤ Greedy.divCeil (2 ^ 64 - 1) scale)
    (kitMost : kitDue ≤ Greedy.divCeil (2 ^ 64 - 1) scale) : due ≤ due' ∧ kitDue ≤ kitDue' := by
  rcases Nat.lt_or_ge total' (2 ^ 64) with small | large
  · obtain ⟨rfl, rfl⟩ := priced.exact (by omega)
    obtain ⟨rfl, rfl⟩ := priced'.exact small
    exact ⟨divCeil_mono positive grown, divCeil_mono positive grown⟩
  · exact ⟨most.trans (priced'.atLeast large).1, kitMost.trans (priced'.atLeast large).2⟩

theorem SameUsage.neverUnderprices_iff (scaleFits : H.config.scale < 2 ^ 64)
    (same : SameUsage L H store kit kitStore channelId context variablePrices accumulated
      pending) :
    NeverUnderprices H.config.scale (exactTotal variablePrices accumulated pending)
        (H.computeAmountDue L store store channelId context)
        (kit.getAmountDue L kitStore channelId context) ↔
      Priceable H.config.scale (exactTotal variablePrices accumulated pending) := by
  rw [same.due_eq, same.kitDue_eq]
  exact Spilman.neverUnderprices_iff (scale_pos _) scaleFits
    (wrappedTotal_mod variablePrices accumulated pending) wrappedTotal_of_lt

end Compare

/-- **Usage is priced alike, where the rounded total fits.** Both hosts price exactly, or at
least never below the largest price, exactly for the totals described; and then more usage
never costs less. -/
theorem amountsDue_exact_iff (L : Cashu T) (H : ConfigurableHost T σ) (store : σ)
    (kit : GoKit.BaseSpilmanHost T τ) (kitStore : τ) (channelId : String)
    (context : Option T.Text) (variablePrices : Table String Nat)
    (accumulated pending : String → Nat) (scaleFits : H.config.scale < 2 ^ 64)
    (same : SameUsage L H store kit kitStore channelId context variablePrices accumulated
      pending) :
    (NeverUnderprices H.config.scale (exactTotal variablePrices accumulated pending)
        (H.computeAmountDue L store store channelId context)
        (kit.getAmountDue L kitStore channelId context) ↔
      Priceable H.config.scale (exactTotal variablePrices accumulated pending)) ∧
    ∀ (store' : σ) (kitStore' : τ) (context' : Option T.Text) (accumulated' pending' : String → Nat),
      SameUsage L H store' kit kitStore' channelId context' variablePrices accumulated' pending' →
      (∀ var, accumulated var + pending var ≤ accumulated' var + pending' var) →
      Priceable H.config.scale (exactTotal variablePrices accumulated pending) →
      Priceable H.config.scale (exactTotal variablePrices accumulated' pending') →
      H.computeAmountDue L store store channelId context ≤
          H.computeAmountDue L store' store' channelId context' ∧
        kit.getAmountDue L kitStore channelId context ≤
          kit.getAmountDue L kitStore' channelId context' := by
  refine ⟨same.neverUnderprices_iff scaleFits, ?_⟩
  intro store' kitStore' context' accumulated' pending' same' grown priceable priceable'
  refine NeverUnderprices.mono (scale_pos H.config)
    ((same.neverUnderprices_iff scaleFits).mpr priceable)
    ((same'.neverUnderprices_iff scaleFits).mpr priceable') (exactTotal_mono grown) ?_ ?_
  · rw [same.due_eq]
    exact divCeil_mono (scale_pos _) (Nat.min_le_right _ _)
  · rw [same.kitDue_eq]
    exact scaled_le (scale_pos _) scaleFits (Nat.mod_lt _ (Nat.two_pow_pos 64))

namespace Sample

/-- One unit of price for every character. -/
def charsPrice : Table String Nat := (∅ : Table String Nat).insert "chars" 1

def charsPricing : Table String UnitPricingConfig :=
  (∅ : Table String UnitPricingConfig).insert "sat" ⟨1, none, charsPrice⟩

def satParams : Json := .obj [("unit", .str "sat")]

/-- A number of characters. -/
def chars (count : Nat) : UsageMap := (∅ : UsageMap).insert "chars" count

/-- The host in Rust, over a store in memory. -/
def charsHost (pricingScale : Nat) : ConfigurableHost carriers (MemoryStorage carriers) where
  config := ⟨∅, 100, pricingScale, charsPricing⟩
  serverPubkey := point 4
  serverSecretHex := "secret"
  storage := memoryStorage carriers

/-- A store with one channel that has used some characters. -/
def charsStore (count : Nat) : MemoryStorage carriers :=
  { MemoryStorage.new with
    funding := (∅ : Table String (ChannelFunding carriers)).insert "c"
      ⟨satParams, Json.null, "", Json.null⟩
    usage := (∅ : Table String UsageMap).insert "c" (chars count) }

/-- The kit's host, over a store with the same channel. -/
def charsKit (pricingScale : Nat) : GoKit.BaseSpilmanHost carriers UsageMap where
  pricing := charsPricing
  pricingScale := pricingScale
  stores := ⟨fun _ _ => some ⟨satParams, Json.null, "", Json.null⟩, fun usage _ => usage⟩

/-- A request that uses some characters more. -/
def charsContext (count : Nat) : Option Json := some (.obj [("chars", .num count)])

/-- Usage of characters only. -/
def onlyChars (count : Nat) (var : String) : Nat := if var = "chars" then count else 0

theorem lookup_chars (count : Nat) (var : String) :
    ((chars count).lookup var).getD 0 = onlyChars count var := by
  rw [chars, onlyChars]
  by_cases isChars : var = "chars"
  · rw [if_pos isChars, isChars, AList.lookup_insert, Option.getD_some]
  · rw [if_neg isChars, AList.lookup_insert_ne isChars, AList.lookup_empty, Option.getD_none]

theorem pendingUsage_chars {count : Nat} (small : count < 2 ^ 64) :
    pendingUsage library (charsContext count) = onlyChars count := by
  have parsed : usageOfText library (Json.obj [("chars", .num count)]) = some (chars count) := by
    have number := Json.asU64_num small
    simp only [usageOfText, library, usageOfJson, Json.asObject, Option.bind_eq_bind,
      Option.bind_some, List.foldlM_cons, List.foldlM_nil, number, Option.map_some,
      Option.pure_def, chars]
  funext var
  rw [← lookup_chars, pendingUsage, charsContext, Option.bind_some, parsed, Option.getD_some]

theorem kitPendingUsage_chars {count : Nat} (small : count < 2 ^ 64) :
    GoKit.pendingUsage library (charsContext count) = onlyChars count := by
  funext var
  have number := Json.asU64_num small
  have read : GoKit.pendingUsage library (charsContext count) var =
      ((Json.obj [("chars", .num count)]).field var).asU64.getD 0 := rfl
  rw [read, onlyChars, Json.field, Json.get?]
  by_cases isChars : var = "chars"
  · rw [if_pos isChars, isChars, List.lookup_cons_self, Option.getD_some, number,
      Option.getD_some]
  · have other : (var == "chars") = false := beq_false_of_ne isChars
    rw [if_neg isChars, List.lookup_cons, other]
    rfl

/-- Both hosts see the same characters, counted and pending. -/
theorem sameUsage_chars (pricingScale count : Nat) {more : Nat} (small : more < 2 ^ 64) :
    SameUsage library (charsHost pricingScale) (charsStore count) (charsKit pricingScale)
      (chars count) "c" (charsContext more) charsPrice (onlyChars count) (onlyChars more) where
  prices := ⟨⟨1, none, charsPrice⟩, rfl, .refl _⟩
  kitPrices := by
    have unit : GoKit.unitOf library satParams = "sat" := by decide +kernel
    refine ⟨_, ⟨1, none, charsPrice⟩, rfl, ?_, .refl _⟩
    dsimp only
    rw [unit]
    rfl
  scale_eq := rfl
  usage := fun var => lookup_chars count var
  kitUsage := fun var => lookup_chars count var
  pending_eq := pendingUsage_chars small
  kitPending_eq := kitPendingUsage_chars small

end Sample

open Sample in
/-- Three characters at half a unit, one of them pending, cost two. -/
theorem amountsDue_exact_iff_three :
    NeverUnderprices 2 3
      ((charsHost 2).computeAmountDue library (charsStore 2) (charsStore 2) "c" (charsContext 1))
      ((charsKit 2).getAmountDue library (chars 2) "c" (charsContext 1)) :=
  (amountsDue_exact_iff library (charsHost 2) (charsStore 2) (charsKit 2) (chars 2) "c"
    (charsContext 1) charsPrice (onlyChars 2) (onlyChars 1) (by decide)
    (sameUsage_chars 2 2 (by decide))).1.mpr (by decide +kernel)

open Sample in
/-- As many characters as a `u64` counts, and one more, cost nothing in either language. At
half a unit as many as a `u64` counts cost nothing in Go. -/
theorem amountsDue_wrap :
    (SameUsage library (charsHost 1) (charsStore (2 ^ 64 - 1)) (charsKit 1) (chars (2 ^ 64 - 1))
        "c" (charsContext 1) charsPrice (onlyChars (2 ^ 64 - 1)) (onlyChars 1) ∧
      exactTotal charsPrice (onlyChars (2 ^ 64 - 1)) (onlyChars 1) = 2 ^ 64 ∧
      (charsHost 1).computeAmountDue library (charsStore (2 ^ 64 - 1)) (charsStore (2 ^ 64 - 1))
        "c" (charsContext 1) = 0 ∧
      (charsKit 1).getAmountDue library (chars (2 ^ 64 - 1)) "c" (charsContext 1) = 0) ∧
    SameUsage library (charsHost 2) (charsStore (2 ^ 64 - 1)) (charsKit 2) (chars (2 ^ 64 - 1))
        "c" (charsContext 0) charsPrice (onlyChars (2 ^ 64 - 1)) (onlyChars 0) ∧
      exactTotal charsPrice (onlyChars (2 ^ 64 - 1)) (onlyChars 0) = 2 ^ 64 - 1 ∧
      (charsHost 2).computeAmountDue library (charsStore (2 ^ 64 - 1)) (charsStore (2 ^ 64 - 1))
        "c" (charsContext 0) = 2 ^ 63 ∧
      (charsKit 2).getAmountDue library (chars (2 ^ 64 - 1)) "c" (charsContext 0) = 0 := by
  have first := sameUsage_chars 1 (2 ^ 64 - 1) (show 1 < 2 ^ 64 by decide)
  have second := sameUsage_chars 2 (2 ^ 64 - 1) (show 0 < 2 ^ 64 by decide)
  refine ⟨⟨first, by decide, ?_, ?_⟩, second, by decide, ?_, ?_⟩
  · rw [first.due_eq]
    decide
  · rw [first.kitDue_eq]
    decide
  · rw [second.due_eq]
    decide
  · rw [second.kitDue_eq]
    decide

end Spilman
