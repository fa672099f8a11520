import BertMMBot.Encryption
import BertMMBot.WithdrawalExecutor

/-! # Deposits: watcher, sweeper, credit engine

The watcher emits inflows of one address, the pipeline sweeps each and credits shares for
it. A credit is one transaction: deposit row, share mint, NAV snapshot and audit row. -/
namespace DepositPipeline

open AsyncProgram AsyncWiring VaultTypes VaultProgram Encryption DepositorStore ShareMath WithdrawalExecutor

structure CreditParams where
  telegramId : TelegramId
  inboundTxSig : String
  sweepTxSig : Signature
  solLamports : ℕ
  bertRaw : ℕ
  mid : Mid
  navPerShareAtDeposit : ℚ
  confirmedAt : ℤ
  sweptAt : ℤ
  now : ℤ

def CreditParams.deposit (p : CreditParams) (sharesMinted : ℚ) : NewDeposit where
  telegramId := p.telegramId
  inboundTxSig := p.inboundTxSig
  sweepTxSig := some p.sweepTxSig
  solLamports := p.solLamports
  bertRaw := p.bertRaw
  solUsd := p.mid.solUsd
  bertUsd := p.mid.bertUsd
  navPerShareAt := p.navPerShareAtDeposit
  sharesMinted := sharesMinted
  confirmedAt := p.confirmedAt
  sweptAt := some p.sweptAt

def CreditParams.depositUsd (p : CreditParams) : ℚ := tokenUsd p.mid p.solLamports p.bertRaw

def creditTransaction (p : CreditParams) (sharesMinted : ℚ) : Vault Unit :=
  withTransaction do
    let _ ← creditDeposit (p.deposit sharesMinted)
    let total ← readDb totalShares
    insertNavSnapshot {
      ts := p.now, totalValueUsd := total * p.navPerShareAtDeposit, totalShares := total,
      navPerShare := p.navPerShareAtDeposit, source := .deposit }
    writeAudit p.now (some p.telegramId)
      (.depositCredited p.inboundTxSig p.depositUsd sharesMinted p.navPerShareAtDeposit)

def credit (p : CreditParams) : Vault Unit := do
  let sharesMinted ← liftExcept (computeSharesForDeposit p.depositUsd p.navPerShareAtDeposit)
  creditTransaction p sharesMinted

def buildSweepInstructions (solLamports bertRaw rentReserveLamports : ℕ) :
    Except Thrown (List SweepInstruction) :=
  let solToSend := if rentReserveLamports < solLamports then solLamports - rentReserveLamports else 0
  if 0 < solLamports ∧ solToSend = 0 then
    .error (.error s!"sweep: insufficient SOL (have {solLamports}, reserve {rentReserveLamports})")
  else
    .ok ((if 0 < solToSend then [.transfer solToSend] else []) ++
      (if 0 < bertRaw then [.transferChecked bertRaw] else []))

structure InflowEvent where
  depositAddress : Address
  inboundTxSig : String
  solLamports : ℕ
  bertRaw : ℕ
  confirmedAt : ℤ
  deriving DecidableEq, Repr

structure PipelineDeps where
  getMid : Vault (Option Mid)
  getNavPerShare : Vault ℚ
  rentReserveLamports : ℕ
  getLatestBlockhash : Vault Unit
  submitTx (instructions : List SweepInstruction) : Vault Signature

def recordFailure (telegramId : TelegramId) (event : InflowEvent) (reason : String) :
    Vault Unit := do
  let ts ← now
  writeAudit ts (some telegramId) (.depositSweepFailed event.inboundTxSig reason)

/-- Price and credit a deposit whose sweep has been recorded. -/
def creditSwept (deps : PipelineDeps) (telegramId : TelegramId) (event : InflowEvent)
    (sweepSig : Signature) (sweptAt : ℤ) : Vault Unit := do
  match ← deps.getMid with
  | none => recordFailure telegramId event "oracle_unavailable_after_sweep"
  | some mid =>
    let navPerShare ← deps.getNavPerShare
    tryCatch
      (credit {
        telegramId, inboundTxSig := event.inboundTxSig, sweepTxSig := sweepSig,
        solLamports := event.solLamports, bertRaw := event.bertRaw, mid,
        navPerShareAtDeposit := navPerShare, confirmedAt := event.confirmedAt, sweptAt,
        now := sweptAt })
      fun e => recordFailure telegramId event s!"credit_failed: {e.string}"

def submitSweep (deps : PipelineDeps) (event : InflowEvent) (ixs : List SweepInstruction) :
    Vault Signature := do
  record (.sweep event.inboundTxSig event.solLamports event.bertRaw)
  let sweepSig ← deps.submitTx ixs
  record (.swept event.inboundTxSig sweepSig)
  return sweepSig

/-- The sweep proper; its result is `none` when the submission failed. -/
def sweep (deps : PipelineDeps) (telegramId : TelegramId) (event : InflowEvent)
    (ixs : List SweepInstruction) : Vault (Option Signature) :=
  tryCatch (do return some (← submitSweep deps event ixs)) fun e => do
    recordFailure telegramId event s!"sweep_submit_failed: {e.string}"
    return none

def sweepAndCredit (deps : PipelineDeps) (telegramId : TelegramId) (event : InflowEvent)
    (ixs : List SweepInstruction) : Vault Unit := do
  deps.getLatestBlockhash
  match ← sweep deps telegramId event ixs with
  | none => pure ()
  | some sweepSig =>
    let sweptAt ← now
    writeAudit sweptAt (some telegramId) (.depositSwept event.inboundTxSig sweepSig
      event.solLamports event.bertRaw event.confirmedAt)
    creditSwept deps telegramId event sweepSig sweptAt

/-- The key by which a sweep is signed. -/
def depositKeypair (secrets : UserSecrets) : Vault Keypair := do
  fromSecretKey (← decryptSecret secrets.depositSecretEnc)

theorem within_depositKeypair {κ : Type} {B : Bounds vaultInterface World κ} {w : Prop}
    (hB : ∀ c, isCryptographic c = true → B.choice c) (secrets : UserSecrets) :
    Within B w (depositKeypair secrets) :=
  within_bind (within_decryptSecret hB _) fun _ => within_fromSecretKey hB _

def sweepInflow (deps : PipelineDeps) (user : UserRow) (event : InflowEvent) : Vault Unit := do
  match ← readDb (getUserSecrets user.telegramId) with
  | none => pure ()
  | some secrets =>
    let opened ← tryCatch (do let _ ← depositKeypair secrets; return true) fun _ => do
      recordFailure user.telegramId event "decrypt_failed"
      return false
    if opened then
      match buildSweepInstructions event.solLamports event.bertRaw deps.rentReserveLamports with
      | .error e => recordFailure user.telegramId event s!"sweep_build_failed: {e.string}"
      | .ok ixs =>
        if ixs = [] then pure () else sweepAndCredit deps user.telegramId event ixs
    else pure ()

def onInflow (deps : PipelineDeps) (event : InflowEvent) : Vault Unit := do
  match ← readDb (getUserByDepositAddress event.depositAddress) with
  | none => pure ()
  | some user =>
    let ts ← now
    writeAudit ts (some user.telegramId)
      (.depositDetected event.inboundTxSig event.solLamports event.bertRaw)
    -- the oracle is consulted before anything moves: a swept deposit could not be retried
    match ← deps.getMid with
    | none =>
      let ts ← now
      writeAudit ts (some user.telegramId) (.depositDeferredOracleUnavailable event.inboundTxSig)
    | some _ => sweepInflow deps user event

structure WatcherDeps where
  bertMint : Address
  getSignaturesForAddress (address : Address) (bertAta : Bool) (limit : ℕ) : Vault (List SignatureInfo)
  getParsedTransaction (signature : String) : Vault (Option ParsedTransaction)
  onInflow (event : InflowEvent) : Vault Unit

structure Deltas where
  solDelta : ℕ
  bertDelta : ℕ

def sumForAddress (bertMint address : Address) (rows : List TokenBalance) : ℕ :=
  ((rows.filter fun r => r.owner = address ∧ r.mint = bertMint).map TokenBalance.amount).sum

/-- Only inflows count: a negative change is 0, as truncated subtraction has it. -/
def computeDeltas (bertMint : Address) (tx : ParsedTransaction) (address : Address) : Deltas where
  solDelta :=
    match tx.accountKeys.idxOf? address with
    | some idx => tx.postBalances.getD idx 0 - tx.preBalances.getD idx 0
    | none => 0
  bertDelta := sumForAddress bertMint address tx.postTokenBalances -
    sumForAddress bertMint address tx.preTokenBalances

/-- First occurrence of each signature, in order. -/
def dedupeSignatures : List SignatureInfo → List String → List SignatureInfo
  | [], _ => []
  | s :: rest, seen =>
    if s.signature ∈ seen then dedupeSignatures rest seen
    else s :: dedupeSignatures rest (s.signature :: seen)

def confirmationTime : Option ℤ → Vault ℤ
  | some blockTime => pure (blockTime * 1000)
  | none => do
    let ms ← now
    return ms / 1000 * 1000

def pollSignature (deps : WatcherDeps) (address : Address) (s : SignatureInfo) : Vault Unit := do
  if s.failed then pure ()
  else
    let credited ← readDb (hasDeposit s.signature)
    if credited then pure ()
    else
      match ← deps.getParsedTransaction s.signature with
      | none => pure ()
      | some tx =>
        let d := computeDeltas deps.bertMint tx address
        if d.solDelta = 0 ∧ d.bertDelta = 0 then pure ()
        else
          let confirmedAt ← confirmationTime s.blockTime
          deps.onInflow {
            depositAddress := address, inboundTxSig := s.signature,
            solLamports := d.solDelta, bertRaw := d.bertDelta, confirmedAt }

def pollAddress (deps : WatcherDeps) (address : Address) : Vault Unit := do
  let sigsMain ← deps.getSignaturesForAddress address false 10
  let sigsAta ← deps.getSignaturesForAddress address true 10
  Async.forEach (dedupeSignatures (sigsMain ++ sigsAta) []) (pollSignature deps address)

end DepositPipeline
