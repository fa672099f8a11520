import BertMMBot.ShareMath

/-! # What a payout is split into

An amount of USD is paid out in SOL and BERT, in the proportion of the free wallet and rounded
down in both. What the receiver is not paid is worth less than a lamport and a raw unit of
BERT, whatever the proportion. -/
namespace SplitBounds

open VaultTypes ShareMath

variable {usd : ℚ} {mid : Mid} {split : TokenSplit} {i : NavInputs}

/-- Two amounts that can be transferred, worth the USD they stand for up to the rounding. -/
structure Bounded (usd : ℚ) (mid : Mid) (split : TokenSplit) : Prop where
  sol : 0 ≤ split.solLamports
  bert : 0 ≤ split.bertRaw
  value_le : tokenUsd mid split.solLamports split.bertRaw ≤ usd
  value_gt : usd - tokenUsd mid 1 1 < tokenUsd mid split.solLamports split.bertRaw

theorem split_bounded {frac : ℚ} (hsplit : splitUsdIntoTokens usd frac mid = .ok split)
    (husd : 0 ≤ usd) (hfrac : 0 ≤ frac) (hfrac' : frac ≤ 1) : Bounded usd mid split := by
  obtain ⟨hsol, hbert⟩ := splitUsdIntoTokens_nonneg hsplit husd hfrac hfrac'
  constructor
  · exact hsol
  · exact hbert
  · exact splitUsdIntoTokens_le hsplit
  · exact splitUsdIntoTokens_gt hsplit

theorem splitUsdIntoTokens_total (hprice : PositivePrice mid) (usd frac : ℚ) :
    ∃ split, splitUsdIntoTokens usd frac mid = .ok split := by
  unfold splitUsdIntoTokens
  rw [if_neg (not_or.mpr ⟨not_le.mpr hprice.1, not_le.mpr hprice.2⟩)]
  exact ⟨_, rfl⟩

/-- The fraction may come from a NAV at other prices than those of the split. -/
theorem split_by_nav_bounded (husd : 0 ≤ usd) (hprice : PositivePrice mid)
    (hsol : 0 ≤ i.mid.solUsd) (hbert : 0 ≤ i.mid.bertUsd) :
    (0 ≤ (computeNav i).solFrac ∧ (computeNav i).solFrac ≤ 1) ∧
      ∃ split, splitUsdIntoTokens usd (computeNav i).solFrac mid = .ok split ∧
        Bounded usd mid split := by
  obtain ⟨hfrac, hfrac'⟩ := computeNav_solFrac hsol hbert
  obtain ⟨split, hsplit⟩ := splitUsdIntoTokens_total hprice usd (computeNav i).solFrac
  constructor
  · exact ⟨hfrac, hfrac'⟩
  · exact ⟨split, hsplit, split_bounded hsplit husd hfrac hfrac'⟩

/-- A dollar out of a wallet of one SOL and one BERT. -/
theorem split_by_nav_bounded_dollar :
    (0 ≤ (computeNav ⟨1000000000, 1000000, 0, 0, 0, ⟨100, 1 / 100⟩⟩).solFrac ∧
        (computeNav ⟨1000000000, 1000000, 0, 0, 0, ⟨100, 1 / 100⟩⟩).solFrac ≤ 1) ∧
      ∃ split, splitUsdIntoTokens 1
          (computeNav ⟨1000000000, 1000000, 0, 0, 0, ⟨100, 1 / 100⟩⟩).solFrac ⟨100, 1 / 100⟩ =
            .ok split ∧ Bounded 1 ⟨100, 1 / 100⟩ split :=
  split_by_nav_bounded (by norm_num) ⟨by norm_num, by norm_num⟩ (by norm_num) (by norm_num)

end SplitBounds
