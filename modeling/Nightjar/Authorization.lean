import Nightjar.Approval
import Nightjar.Replay

/-!
# Verification and consumption

`verify_and_consume_approval` (`authorization.py`): the nonce is consumed after the verification
succeeded, at the same reading of the clock.
-/

namespace Nightjar

open Interact

/-- The row that `verify_and_consume_approval` stores for a payload. -/
def ApprovalPayload.row (payload : ApprovalPayload) (currentTime : Int) : NonceRow where
  nonce := payload.nonce
  missionSha256 := payload.missionSha256
  policySha256 := payload.policySha256
  executor := payload.executor
  expiresAtUnix := payload.expiresAtUnix
  consumedAtUnix := currentTime

/-- `verify_and_consume_approval` (`authorization.py:13-53`). `currentTime` is `now_unix`, or the
    clock when it is `None`. -/
def verifyAndConsumeApproval {N : Type} [Zero N] [LT N] [Python.PyText N] [Crypto]
    (faults : SqliteFaults) (envelope : SignedApproval) (publicKey : Crypto.PublicKey)
    (mission : Mission N) (limits : PolicyLimits N) (expectedExecutor : String)
    (currentTime clockSkewSeconds lifetimeSeconds : Int) :
    Prog NonceTable PyExc ApprovalPayload := do
  let payload ← Prog.lift (verifyApproval envelope publicKey mission limits expectedExecutor
    currentTime clockSkewSeconds lifetimeSeconds)
  consume faults (payload.row currentTime)
  pure payload

end Nightjar
