import BertMMBot.MeteoraClient

/-! # The Raydium client's swap

The other venue's way of bringing a wallet to a ratio. Its pool is sorted by mint as well, and
quotes mint B per mint A. -/
namespace RaydiumClient

open ShareMath
open MeteoraClient (Token deltaBert)

structure PoolInfo where
  isBertMintA : Bool
  poolPrice : ℚ

variable (pool : PoolInfo)

def mintA : Token := if pool.isBertMintA then .bert else .sol

def mintB : Token := if pool.isBertMintA then .sol else .bert

def bertPerSol : ℚ :=
  if pool.isBertMintA then (if 0 < pool.poolPrice then 1 / pool.poolPrice else 0)
  else pool.poolPrice

structure SwapRequest where
  inputMint : Token
  amountIn : ℤ
  deriving DecidableEq, Repr

/-- `none` is the empty transaction. The SOL side is taken to be mint A. -/
def buildSwapToRatioTx (haveBertRaw haveSolLamports : ℕ) (targetBertRatio : ℚ) :
    Option SwapRequest :=
  let delta := deltaBert (bertPerSol pool) haveBertRaw haveSolLamports targetBertRatio
  if 0 < delta then
    some ⟨mintA pool, Strategy.round (delta / bertPerSol pool * lamportsPerSol)⟩
  else if delta < 0 then
    some ⟨if pool.isBertMintA then mintA pool else mintB pool, Strategy.round (-delta * rawPerBert)⟩
  else none

end RaydiumClient
