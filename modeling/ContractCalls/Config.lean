import ContractCalls.CallOptions

/-!
# Configuration

How a client waits for transactions, which multicall contract it uses, and on which block it
simulates.
-/

namespace ContractCalls

open Text

/-- How often and at what interval, in milliseconds, a receipt is asked for, and how many blocks
have to hold the transaction, its own included. -/
structure InclusionConfig where
  retries : Nat := 3
  interval : Nat := 6000
  confirmations : Nat := 1
  deriving DecidableEq, Repr, Inhabited

/-- The longest time that is slept at once, thirty years of 365 days in milliseconds. -/
def longestSleep : Nat := 30 * 365 * 24 * 60 * 60 * 1000

/-- The time slept between two questions. -/
def InclusionConfig.sleep (c : InclusionConfig) : Nat :=
  min c.interval longestSleep

structure ClientConfig where
  inclusion : InclusionConfig := {}
  multicall : Option Address := none
  defaultBlock : BlockId := .latest
  deriving DecidableEq, Repr, Inhabited

/-- A time in milliseconds: whole milliseconds below a second, else seconds with the decimals that
they need. -/
def describeDuration (ms : Nat) : String :=
  if ms = 0 then "0ns"
  else if ms < 1000 then s!"{ms}ms"
  else if ms % 1000 = 0 then s!"{ms / 1000}s"
  else
    let decimals := (Nat.toDigits 10 (1000 + ms % 1000)).drop 1
    let decimals := (decimals.reverse.dropWhile (· == '0')).reverse
    s!"{ms / 1000}.{String.ofList decimals}s"

def InclusionConfig.describe (c : InclusionConfig) : String :=
  record "InclusionConfig"
    [("retries", toString c.retries), ("interval", describeDuration c.interval),
      ("confirmations", toString c.confirmations)]

def ClientConfig.describe (c : ClientConfig) : String :=
  record "ClientConfig"
    [("inclusion", c.inclusion.describe),
      ("multicall_address", optional Hex.ofBitVec c.multicall),
      ("default_block", c.defaultBlock.text)]

end ContractCalls
