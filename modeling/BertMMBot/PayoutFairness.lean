import BertMMBot.DrainTotality
import BertMMBot.ValuePerShare

/-! # Withdrawals never dilute the others

At fixed prices, and on a chain that moves what it is told to move, every turn of a drain
keeps the executor's NAV per share or raises it: a completed row takes out at most the value
of its net shares, and a failed one nothing. -/
namespace PayoutFairness

open AsyncProgram AsyncContract VaultTypes VaultProgram KeyedTable DepositorStore LedgerMachine
open VaultDiscipline WithdrawalExecutor ShareMath DrainSemantics ShareConservation
open RuntimeRefinement PlayedRuns

/-- The NAV that the executor computes on a chain whose position is worth `V`. -/
def executorTotal (reserve : ℕ) (mid : Mid) (V : Chain → ℚ) (c : Chain) : ℚ :=
  (executorNav reserve mid c.wallet ⟨V c, 0, 0⟩).totalUsd

/-- The chain and its prices while a queue is drained. Nothing but a transfer changes the
NAV, and a transfer moves exactly the amounts it is asked for. -/
structure FixedPrices (H : VaultHost) (reserve : ℕ) (mid : Mid) (V : Chain → ℚ) : Prop where
  positive : PositivePrice mid
  worth : ∀ c, 0 ≤ V c
  getMid : ∀ c m c', Answers H .getMid c (some m) c' → m = mid
  getWalletBalances : ∀ c bal c', Answers H .getWalletBalances c (some bal) c' → bal = c.wallet ∧ c' = c
  getPositionSnapshot : ∀ c pos c', Answers H .getPositionSnapshot c (some pos) c' →
    pos.totalValueUsd = V c ∧ c' = c
  unpaid : ∀ c c', Asked H c c' →
    executorTotal reserve mid V c' = executorTotal reserve mid V c
  executeTransfer : ∀ c destination sol bert (txSig : Signature) c',
    Answers H (.executeTransfer destination sol bert) c (some txSig) c' →
    (c'.wallet.solLamports : ℤ) = c.wallet.solLamports - sol ∧
      (c'.wallet.bertRaw : ℤ) = c.wallet.bertRaw - bert ∧ V c' = V c

variable {H : VaultHost} {reserve : ℕ} {mid : Mid} {V : Chain → ℚ} {row : WithdrawalRow}
  {p : Payout} {c c' : Chain} {w w' : World} {total : ℚ}

theorem executorNav_totalUsd (bal : Balances) (pos : PositionValue) :
    (executorNav reserve mid bal pos).totalUsd =
      tokenUsd mid (spendable reserve bal.solLamports) bal.bertRaw + pos.totalValueUsd :=
  computeNav_totalUsd ..

theorem executorTotal_nonneg (hF : FixedPrices H reserve mid V) (c : Chain) :
    0 ≤ executorTotal reserve mid V c := by
  rw [executorTotal, executorNav_totalUsd]
  exact add_nonneg (tokenUsd_nonneg hF.positive.1.le hF.positive.2.le _ _) (hF.worth c)

theorem unpaid_total (hF : FixedPrices H reserve mid V) (h : Unpaid H c c') :
    executorTotal reserve mid V c' = executorTotal reserve mid V c := by
  induction h with
  | refl => rfl
  | tail _ ha ih => exact (hF.unpaid _ _ ha).trans ih

theorem answers_asked {q : Query} {a : q.Reply} (h : Answers H q c a c')
    (hn : PaysNobody q (.ok a)) : Asked H c c' := by
  obtain ⟨w, w', hr, hc, hc'⟩ := h
  exact ⟨q, w, .ok a, w', hr, hn, hc, hc'⟩

theorem secured_covers (hF : FixedPrices H reserve mid V) {bal : Balances}
    (h : Secured H reserve p bal c c') (hbal : bal = c.wallet) :
    covers reserve c'.wallet p = true ∧
      executorTotal reserve mid V c' = executorTotal reserve mid V c := by
  cases h with
  | enough hc =>
    rw [← hbal]
    exact ⟨hc, rfl⟩
  | closed hu ha hc =>
    obtain ⟨rfl, rfl⟩ := hF.getWalletBalances _ _ _ ha
    exact ⟨hc, unpaid_total hF hu⟩

/-- What a priced row is owed: its net shares at the NAV per share of its turn, split into
amounts that the wallet covers. -/
theorem priced_payout (hF : FixedPrices H reserve mid V) (h : Priced H reserve total row p c c') :
    p.navPerShare = computeNavPerShare (executorTotal reserve mid V c) total ∧
      p.usdOwed = (row.sharesBurned - row.feeShares) * p.navPerShare ∧
      (∃ frac, 0 ≤ frac ∧ frac ≤ 1 ∧
        splitUsdIntoTokens p.usdOwed frac mid = .ok ⟨p.needSol, p.needBert⟩) ∧
      covers reserve c'.wallet p = true ∧
      executorTotal reserve mid V c' = executorTotal reserve mid V c := by
  obtain ⟨hmid, hbal, hpos, hp, hsec⟩ := h
  obtain rfl := hF.getMid _ _ _ hmid
  have htotal₁ := hF.unpaid _ _ (answers_asked hmid trivial)
  obtain ⟨rfl, rfl⟩ := hF.getWalletBalances _ _ _ hbal
  obtain ⟨hvalue, rfl⟩ := hF.getPositionSnapshot _ _ _ hpos
  obtain ⟨hnav, howed, hsplit⟩ := payout_ok hp
  obtain ⟨hcovers, htotal₂⟩ := secured_covers hF hsec rfl
  obtain ⟨hfrac, hfrac'⟩ := executorNav_solFrac_mem hF.positive.1.le hF.positive.2.le reserve _ _
  refine ⟨?_, howed, ⟨_, hfrac, hfrac', hsplit⟩, hcovers, htotal₂.trans htotal₁⟩
  rw [hnav, ← htotal₁, executorTotal, executorNav_totalUsd, executorNav_totalUsd, hvalue]

theorem transfer_total (hF : FixedPrices H reserve mid V) {destination : Address}
    {txSig : Signature} (hneed : 0 ≤ p.needSol ∧ 0 ≤ p.needBert)
    (hcovers : covers reserve c.wallet p = true)
    (h : Answers H (.executeTransfer destination p.needSol p.needBert) c (some txSig) c') :
    executorTotal reserve mid V c' =
      executorTotal reserve mid V c - tokenUsd mid p.needSol p.needBert := by
  obtain ⟨hsol, hbert, hV⟩ := hF.executeTransfer _ _ _ _ _ _ h
  have hle : p.needSol ≤ spendable reserve c.wallet.solLamports := (of_decide_eq_true hcovers).1
  have hspend := spendable_sub hsol hneed.1 hle
  have hspend' : (spendable reserve c'.wallet.solLamports : ℚ) =
      spendable reserve c.wallet.solLamports - p.needSol := by exact_mod_cast hspend
  have hbert' : (c'.wallet.bertRaw : ℚ) = c.wallet.bertRaw - p.needBert := by exact_mod_cast hbert
  rw [executorTotal, executorTotal, executorNav_totalUsd, executorNav_totalUsd]
  simp only [hspend', hbert', hV]
  rw [tokenUsd_sub]
  ring

def navPerShare (reserve : ℕ) (mid : Mid) (V : Chain → ℚ) (w : World) : ℚ :=
  computeNavPerShare (executorTotal reserve mid V w.chain) (totalShares w.db)

/-- A fee within the shares burned, and fewer of them than there are. -/
structure Moderate (row : WithdrawalRow) (w : World) : Prop where
  fee : 0 ≤ row.feeShares
  net : row.feeShares ≤ row.sharesBurned
  burned : row.sharesBurned < totalShares w.db

/-- A turn that takes nothing from the holders who stay. -/
inductive Fair (reserve : ℕ) (mid : Mid) (V : Chain → ℚ) (row : WithdrawalRow) (w w' : World) :
    Prop where
  | completed {r : WithdrawalRow} {sol bert : ℤ} {txSig : Signature} :
      getWithdrawalById row.id w'.db = some r → r.status = .completed →
      w'.trace = .transferred row.id txSig :: .transfer row.id row.destination sol bert ::
        .take row.id :: w.trace →
      tokenUsd mid sol bert ≤ (row.sharesBurned - row.feeShares) * navPerShare reserve mid V w →
      navPerShare reserve mid V w ≤ navPerShare reserve mid V w' →
      (0 < row.feeShares → 0 < executorTotal reserve mid V w.chain →
        navPerShare reserve mid V w < navPerShare reserve mid V w') →
      Fair reserve mid V row w w'
  | failed {r : WithdrawalRow} :
      getWithdrawalById row.id w'.db = some r → r.status = .failed →
      navPerShare reserve mid V w' = navPerShare reserve mid V w →
      Fair reserve mid V row w w'

theorem Fair.le (h : Fair reserve mid V row w w') :
    navPerShare reserve mid V w ≤ navPerShare reserve mid V w' := by
  cases h with
  | completed _ _ _ _ hle => exact hle
  | failed _ _ heq => exact heq.ge

theorem Moderate.total_pos (h : Moderate row w) : 0 < totalShares w.db :=
  (h.fee.trans h.net).trans_lt h.burned

theorem turn_fair (hF : FixedPrices H reserve mid V)
    (hk : Keyed ShareRow.telegramId w.db.shares) (hm : Moderate row w)
    (h : RowTurn H reserve row w w') : Fair reserve mid V row w w' := by
  cases h with
  | @completed c p txSig ts shares hpriced hpaid hburn hstage =>
    obtain ⟨hnav, howed, ⟨frac, hfrac, hfrac', hsplit⟩, hcovers, htotal⟩ := priced_payout hF hpriced
    have hpos := hm.total_pos
    have hN := executorTotal_nonneg hF w.chain
    have hnps : p.navPerShare = executorTotal reserve mid V w.chain / totalShares w.db := by
      rw [hnav, computeNavPerShare_of_pos hpos]
    have hnps₀ : 0 ≤ p.navPerShare := by
      rw [hnps]
      exact div_nonneg hN hpos.le
    have howed₀ : 0 ≤ p.usdOwed := by
      rw [howed]
      exact mul_nonneg (sub_nonneg.mpr hm.net) hnps₀
    have hneed := splitUsdIntoTokens_nonneg hsplit howed₀ hfrac hfrac'
    have hafter := transfer_total hF hneed hcovers hpaid
    rw [htotal] at hafter
    have hworth : tokenUsd mid p.needSol p.needBert ≤
        (row.sharesBurned - row.feeShares) *
          (executorTotal reserve mid V w.chain / totalShares w.db) := by
      have hle := splitUsdIntoTokens_le hsplit
      rwa [howed, hnps] at hle
    have hshares : totalShares w'.db = totalShares w.db - row.sharesBurned := by
      rw [totalShares, hstage.shares, totalShares_sharesAfter hk hburn, ← sub_eq_add_neg]
    have hpos' : 0 < totalShares w'.db := by
      rw [hshares]
      exact sub_pos.mpr hm.burned
    have hbefore : navPerShare reserve mid V w =
        executorTotal reserve mid V w.chain / totalShares w.db :=
      computeNavPerShare_of_pos hpos
    have hend : navPerShare reserve mid V w' = (executorTotal reserve mid V w.chain -
        tokenUsd mid p.needSol p.needBert) / (totalShares w.db - row.sharesBurned) := by
      rw [navPerShare, computeNavPerShare_of_pos hpos', hafter, hshares]
    refine .completed hstage.stored rfl hstage.trace (by rwa [hbefore]) ?_ fun hfee hnav => ?_
    · rw [hbefore, hend]
      exact ValuePerShare.le_after_withdrawal (hm.fee.trans hm.net) hm.burned hN hm.fee hworth
    · rw [hbefore, hend]
      exact ValuePerShare.lt_after_withdrawal (hm.fee.trans hm.net) hm.burned hnav hfee hworth
  | @failed reason ts issued hunpaid _ hstage =>
    refine .failed hstage.stored rfl ?_
    rw [navPerShare, navPerShare, unpaid_total hF hunpaid, totalShares, hstage.shares]
    rfl

theorem turn_keyed (h : RowTurn H reserve row w w')
    (hk : Keyed ShareRow.telegramId w.db.shares) : Keyed ShareRow.telegramId w'.db.shares := by
  cases h with
  | completed _ _ hburn hstage =>
    rw [hstage.shares]
    exact sharesAfter_keyed hk hburn
  | failed _ _ hstage =>
    rw [hstage.shares]
    exact hk

variable {venue : MeteoraPosition.Venue} {cfg : VaultRuntime.BotConfig}

/-- Drained from any reachable state at fixed prices, each queued row has a fair turn as long
as it is moderate when its turn comes; if all are, NAV per share only rises. -/
theorem drain_never_dilutes (env : Environment) (h : Reachable venue cfg env.host w)
    (hH : Undisturbed H) (hF : FixedPrices H reserve mid V) {x : Except Thrown Unit}
    (hends : Ends H (drain (hostDeps reserve) w) x w') :
    ∃ turns : List (Pass WithdrawalRow World), Linked w turns w' ∧
      turns.map Pass.item = listWithdrawalsByStatus .queued w.db ∧
      (∀ t ∈ turns, Ends H (drainRow (hostDeps reserve) t.item.id t.before) (.ok ()) t.after) ∧
      (∀ t ∈ turns, Moderate t.item t.before → Fair reserve mid V t.item t.before t.after) ∧
      ((∀ t ∈ turns, Moderate t.item t.before) →
        navPerShare reserve mid V w ≤ navPerShare reserve mid V w') := by
  have hlegal := reachable_legal env.ok h
  have hconserved : Conserved w := reachable_invariant env.ok initial_conserved
    (fun _ _ hl hc t => turn_preserves_conserved hl hc t) h
  obtain ⟨-, turns, hlinked, hitems, hturns⟩ := (drain_yields hH hlegal).ends hends
  obtain ⟨hkeyed, -⟩ := hlinked.invariant (J := fun w => Keyed ShareRow.telegramId w.db.shares)
    hconserved.keyed fun t ht hk => turn_keyed (hturns t ht).2 hk
  have hfair : ∀ t ∈ turns, Moderate t.item t.before →
      Fair reserve mid V t.item t.before t.after :=
    fun t ht hm => turn_fair hF (hkeyed t ht) hm (hturns t ht).2
  refine ⟨turns, hlinked, hitems, fun t ht => (hturns t ht).1, hfair, fun hall => ?_⟩
  exact hlinked.evolves (R := fun a b => navPerShare reserve mid V a ≤ navPerShare reserve mid V b)
    (fun _ => le_rfl) (fun _ _ _ => le_trans) fun t ht => (hfair t ht (hall t ht)).le

theorem payingScene_fixed :
    FixedPrices DrainTotality.payingScene.host 100000000 plainMid fun _ => 0 where
  positive := by constructor <;> norm_num [plainMid]
  worth := fun _ => le_rfl
  getMid := by
    rintro c m c' ⟨w, w', h, -, -⟩
    cases h
    rfl
  getWalletBalances := by
    rintro c bal c' ⟨w, w', h, rfl, rfl⟩
    cases h
    exact ⟨rfl, rfl⟩
  getPositionSnapshot := by
    rintro c pos c' ⟨w, w', h, rfl, rfl⟩
    cases h
    exact ⟨rfl, rfl⟩
  unpaid := by
    rintro c c' ⟨q, w, a, w', h, hn, rfl, rfl⟩
    cases q with
    | executeTransfer destination sol bert =>
      rcases Scene.transfers h with ⟨chain, txSig, -, rfl, -⟩ | ⟨-, rfl⟩
      · exact hn.elim
      · rfl
    | getMid | getWalletBalances | getPositionSnapshot | partialClose =>
      cases h
      rfl
    | _ => exact hn.elim
  executeTransfer := by
    rintro c destination sol bert txSig c' ⟨w, w', h, rfl, rfl⟩
    rcases Scene.transfers h with ⟨chain, txSig', hs, -, rfl⟩ | ⟨⟨e, he⟩, -⟩
    · exact ⟨(sent_wallet hs).1, (sent_wallet hs).2, rfl⟩
    · cases he

/-- The drain of one request keeps what is left for the other holder. -/
theorem drain_never_dilutes_oneRequest : ∃ w',
    Ends DrainTotality.payingScene.host (drain (hostDeps 100000000) (oneRequest.world oneSol))
        (.ok ()) w' ∧
      navPerShare 100000000 plainMid (fun _ => 0) (oneRequest.world oneSol) ≤
        navPerShare 100000000 plainMid (fun _ => 0) w' := by
  have hends := play_ends DrainTotality.payingScene.follows (Script.meets_any _
    (drain (hostDeps 100000000) (oneRequest.world oneSol)))
  have htotal : DrainTotality.Total DrainTotality.payingScene.host 100000000
      (oneRequest.world oneSol) :=
    DrainTotality.drain_total DrainTotality.payingScene_undisturbed (reachable_legal
      anyEnvironment.ok (played_reachable_any oneRequest_staged oneSol))
  have hok := htotal.settles _ _ hends
  rw [hok.1] at hends
  obtain ⟨turns, hlinked, hitems, -, -, hmono⟩ := drain_never_dilutes anyEnvironment
    (played_reachable_any oneRequest_staged oneSol) DrainTotality.payingScene_undisturbed
    payingScene_fixed hends
  refine ⟨_, hends, hmono fun t ht => ?_⟩
  have hqueue : listWithdrawalsByStatus .queued (oneRequest.world oneSol).db =
      [⟨1, 2, .queued, "away", 60, 9 / 50, none, none, none, none, none, 2150000, none⟩] := by
    decide +kernel
  rw [hqueue] at hitems
  rcases turns with _ | ⟨t₀, _ | ⟨t₁, turns⟩⟩
  · simp at hitems
  · obtain rfl := List.mem_singleton.mp ht
    rw [hlinked.1, List.head_eq_of_cons_eq hitems]
    exact ⟨by decide +kernel, by decide +kernel, by decide +kernel⟩
  · simp at hitems

end PayoutFairness
