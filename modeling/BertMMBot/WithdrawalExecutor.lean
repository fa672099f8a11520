import BertMMBot.DepositorStore
import BertMMBot.ShareMath

/-! # The withdrawal executor

Queued withdrawals are drained one at a time: price the row, free reserves if needed, pay
on chain, and only then write. `processOne` is cut into its stages; the drain is the
source's loop with its catch. -/
namespace WithdrawalExecutor

open AsyncProgram VaultTypes VaultProgram DepositorStore ShareMath

structure ExecutorDeps where
  getMid : Vault (Option Mid)
  getWalletBalances : Vault (Option Balances)
  getPositionSnapshot : Vault (Option PositionValue)
  reserveSolLamports : ℕ
  partialClose (needSolLamports needBertRaw : ℤ) : Vault Unit
  executeTransfer (destination : Address) (solLamports bertRaw : ℤ) : Vault (Option Signature)

/-- Dependencies of which nothing is known: the host answers every call as it likes. -/
def hostDeps (reserveSolLamports : ℕ) : ExecutorDeps where
  getMid := Async.call (I := vaultInterface) Query.getMid
  getWalletBalances := Async.call (I := vaultInterface) Query.getWalletBalances
  getPositionSnapshot := Async.call (I := vaultInterface) Query.getPositionSnapshot
  reserveSolLamports := reserveSolLamports
  partialClose sol bert := Async.call (I := vaultInterface) (Query.partialClose sol bert)
  executeTransfer destination sol bert :=
    Async.call (I := vaultInterface) (Query.executeTransfer destination sol bert)

def executorNav (reserve : ℕ) (mid : Mid) (bal : Balances) (pos : PositionValue) : NavSnapshot :=
  computeNav {
    freeSolLamports := spendable reserve bal.solLamports
    freeBertRaw := bal.bertRaw
    positionTotalValueUsd := pos.totalValueUsd
    uncollectedFeesBert := 0
    uncollectedFeesSol := 0
    mid }

theorem executorNav_solFrac_mem {mid : Mid} (hs : 0 ≤ mid.solUsd) (hb : 0 ≤ mid.bertUsd)
    (reserve : ℕ) (bal : Balances) (pos : PositionValue) :
    0 ≤ (executorNav reserve mid bal pos).solFrac ∧
      (executorNav reserve mid bal pos).solFrac ≤ 1 := computeNav_solFrac hs hb

/-- What one row is owed, in shares, USD and tokens. -/
structure Payout where
  netShares : ℚ
  navPerShare : ℚ
  usdOwed : ℚ
  needSol : ℤ
  needBert : ℤ
  deriving DecidableEq, Repr

def payout (reserve : ℕ) (mid : Mid) (bal : Balances) (pos : PositionValue) (totalShares : ℚ)
    (row : WithdrawalRow) : Except Thrown Payout := do
  let nav := executorNav reserve mid bal pos
  let navPerShare := computeNavPerShare nav.totalUsd totalShares
  let netShares := row.sharesBurned - row.feeShares
  let usdOwed := usdForShares netShares navPerShare
  let split ← splitUsdIntoTokens usdOwed nav.solFrac mid
  return { netShares, navPerShare, usdOwed, needSol := split.solLamports, needBert := split.bertRaw }

theorem payout_ok {reserve : ℕ} {mid : Mid} {bal : Balances} {pos : PositionValue}
    {totalShares : ℚ} {row : WithdrawalRow} {p : Payout}
    (h : payout reserve mid bal pos totalShares row = .ok p) :
    p.navPerShare = computeNavPerShare (executorNav reserve mid bal pos).totalUsd totalShares ∧
      p.usdOwed = (row.sharesBurned - row.feeShares) * p.navPerShare ∧
      splitUsdIntoTokens p.usdOwed (executorNav reserve mid bal pos).solFrac mid =
        .ok ⟨p.needSol, p.needBert⟩ := by
  unfold payout at h
  simp only [bind, Except.bind, pure, Except.pure] at h
  split at h
  · cases h
  · next split hsplit =>
    cases h
    exact ⟨rfl, rfl, hsplit⟩

def covers (reserve : ℕ) (bal : Balances) (p : Payout) : Bool :=
  p.needSol ≤ spendable reserve bal.solLamports ∧ p.needBert ≤ bal.bertRaw

def closeShort (deps : ExecutorDeps) (solShortPos bertShortPos : ℤ) : Vault Unit :=
  if 0 < solShortPos ∨ 0 < bertShortPos then deps.partialClose solShortPos bertShortPos
  else pure ()

/-- Whether the free balances cover the payout, after a partial close if they fall short. -/
def secureReserves (deps : ExecutorDeps) (bal : Balances) (p : Payout) : Vault Bool := do
  if covers deps.reserveSolLamports bal p then return true
  else
    let solAvailable : ℤ := spendable deps.reserveSolLamports bal.solLamports
    let solShortPos := if solAvailable < p.needSol then p.needSol - solAvailable else 0
    let bertShortPos := if bal.bertRaw < p.needBert then p.needBert - bal.bertRaw else 0
    closeShort deps solShortPos bertShortPos
    let bal2 ← deps.getWalletBalances
    let bal2 ← nonNull "solLamports" bal2
    return covers deps.reserveSolLamports bal2 p

def payOut (deps : ExecutorDeps) (row : WithdrawalRow) (p : Payout) : Vault Signature := do
  record (.transfer row.id row.destination p.needSol p.needBert)
  let r ← deps.executeTransfer row.destination p.needSol p.needBert
  let txSig ← nonNull "txSig" r
  record (.transferred row.id txSig)
  return txSig

/-- `none` when the transfer threw and the row was marked failed. -/
def executeTransfer (deps : ExecutorDeps) (now : ℤ) (row : WithdrawalRow) (p : Payout) :
    Vault (Option Signature) :=
  tryCatch (do return some (← payOut deps row p)) fun e => do
    let reason := e.messageOr "unknown"
    failWithdrawal row.id reason now
    writeAudit now (some row.telegramId) (.withdrawalFailed row.id reason)
    return none

/-- Whether the signature was recorded; if not, only an audit row says that it landed. -/
def recordSent (now : ℤ) (row : WithdrawalRow) (txSig : Signature) : Vault Bool :=
  tryCatch (do markWithdrawalSent row.id txSig; return true) fun e => do
    writeAudit now (some row.telegramId)
      (.withdrawalDbSyncFailed row.id txSig e.string .markWithdrawalSent)
    return false

/-- Only the net shares' worth of USD leaves the pool; fee shares accrete to the others. -/
def completion (now : ℤ) (row : WithdrawalRow) (p : Payout) (txSig : Signature) : Vault Unit := do
  let totalSharesBefore ← readDb totalShares
  let postBurnTotalValueUsd := (totalSharesBefore - p.netShares) * p.navPerShare
  withTransaction do
    completeWithdrawal {
      id := row.id, txSig, solLamportsOut := p.needSol, bertRawOut := p.needBert,
      navPerShareAt := p.navPerShare, processedAt := now }
    let totalSharesAfter ← readDb totalShares
    insertNavSnapshot {
      ts := now, totalValueUsd := postBurnTotalValueUsd, totalShares := totalSharesAfter,
      navPerShare := p.navPerShare, source := .withdrawal }
    writeAudit now (some row.telegramId) (.withdrawalCompleted row.id txSig row.sharesBurned
      row.feeShares p.usdOwed p.navPerShare)

def completeRow (now : ℤ) (row : WithdrawalRow) (p : Payout) (txSig : Signature) : Vault Unit :=
  tryCatch (completion now row p txSig) fun e => do
    let reason := e.string
    writeAudit now (some row.telegramId)
      (.withdrawalDbSyncFailed row.id txSig reason .completeWithdrawal)
    throw (.error s!"withdrawal #{row.id} db sync failed after transfer: {reason}")

/-- From the transfer on, with the amounts decided and covered. -/
def settle (deps : ExecutorDeps) (now : ℤ) (row : WithdrawalRow) (p : Payout) : Vault Unit := do
  match ← executeTransfer deps now row p with
  | none => pure ()
  | some txSig =>
    if ← recordSent now row txSig then completeRow now row p txSig else pure ()

def processRow (deps : ExecutorDeps) (now : ℤ) (mid : Mid) (row : WithdrawalRow) : Vault Unit := do
  let bal ← deps.getWalletBalances
  let pos ← deps.getPositionSnapshot
  let bal ← nonNull "solLamports" bal
  let pos ← nonNull "totalValueUsd" pos
  let total ← readDb totalShares
  let p ← liftExcept (payout deps.reserveSolLamports mid bal pos total row)
  if ← secureReserves deps bal p then settle deps now row p
  else failWithdrawal row.id "reserves_insufficient" now

def processOne (deps : ExecutorDeps) (id : ℕ) : Vault Unit := do
  let now ← now
  match ← deps.getMid with
  | none => failWithdrawal id "oracle_unavailable" now
  | some mid =>
    match ← readDb fun db => (listWithdrawalsByStatus .processing db).find? fun r => r.id = id with
    | none => pure ()
    | some row => processRow deps now mid row

def unexpectedReason : Thrown → String
  | .error message => s!"unexpected: {message}"
  | .other _ => "unexpected_error"

/-- A row whose signature is recorded was paid: it is left for the operator to reconcile. -/
def failUnlessSent (id : ℕ) (e : Thrown) : Vault Unit := do
  match (← readDb (getWithdrawalById id)).bind WithdrawalRow.txSig with
  | some _ => pure ()
  | none =>
    let processedAt ← now
    failWithdrawal id (unexpectedReason e) processedAt

def drainRow (deps : ExecutorDeps) (id : ℕ) : Vault Unit := do
  record (.take id)
  setWithdrawalProcessing id
  tryCatch (processOne deps id) (failUnlessSent id)

def drain (deps : ExecutorDeps) : Vault Unit := do
  let queued ← readDb (listWithdrawalsByStatus .queued)
  Async.forEach (queued.map WithdrawalRow.id) (drainRow deps)

end WithdrawalExecutor
