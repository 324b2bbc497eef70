import ContractCalls.Text.Description

/-!
# Call options

The block on which a call is simulated, and the accounts and block fields that are replaced for it.
-/

namespace ContractCalls

open Text

inductive BlockId where
  | latest
  | pending
  | earliest
  | safe
  | finalized
  | number (n : Nat)
  | hash (hash : Hash)
  deriving DecidableEq, Repr, Inhabited

/-- The name of a block, its number in hexadecimal, or its hash. -/
def BlockId.text : BlockId → String
  | latest => "latest"
  | pending => "pending"
  | earliest => "earliest"
  | safe => "safe"
  | finalized => "finalized"
  | number n => Hex.quantity n
  | hash h => Hex.ofBitVec h

/-- What is replaced of an account. -/
structure AccountOverride where
  balance : Option Word := none
  nonce : Option Nat := none
  code : Option Bytes := none
  deriving DecidableEq, Repr, Inhabited

/-- Overrides by account, at most one for each. -/
abbrev StateOverrides := List (Address × AccountOverride)

namespace StateOverrides

def get? (overrides : StateOverrides) (account : Address) : Option AccountOverride :=
  overrides.lookup account

/-- Replaces the override of an account. -/
def insert (overrides : StateOverrides) (account : Address) (override : AccountOverride) :
    StateOverrides :=
  overrides.filter (·.1 != account) ++ [(account, override)]

/-- Adds an override unless the account has one. -/
def insertNew (overrides : StateOverrides) (account : Address) (override : AccountOverride) :
    StateOverrides :=
  if (overrides.get? account).isSome then overrides else overrides ++ [(account, override)]

end StateOverrides

structure BlockOverrides where
  number : Option Nat := none
  time : Option Nat := none
  deriving DecidableEq, Repr, Inhabited

structure CallOptions where
  block : Option BlockId := none
  stateOverrides : Option StateOverrides := none
  blockOverrides : Option BlockOverrides := none
  deriving DecidableEq, Repr, Inhabited

/-- The options, and where one is missing that of the fallback. -/
def CallOptions.orElse (options fallback : CallOptions) : CallOptions where
  block := options.block <|> fallback.block
  stateOverrides := options.stateOverrides <|> fallback.stateOverrides
  blockOverrides := options.blockOverrides <|> fallback.blockOverrides

def AccountOverride.describe (account : AccountOverride) : String :=
  record "AccountOverride"
    [("balance", optional (fun w => toString w.toNat) account.balance),
      ("nonce", optional toString account.nonce), ("code", optional Hex.encode account.code),
      ("state", "None"), ("state_diff", "None"), ("move_precompile_to", "None")]

def StateOverrides.describe (overrides : StateOverrides) : String :=
  "\x7b" ++ ", ".intercalate (overrides.map fun (account, override) =>
    Hex.ofBitVec account ++ ": " ++ override.describe) ++ "\x7d"

def BlockOverrides.describe (overrides : BlockOverrides) : String :=
  record "BlockOverrides"
    [("number", optional toString overrides.number), ("difficulty", "None"),
      ("time", optional toString overrides.time), ("gas_limit", "None"), ("coinbase", "None"),
      ("random", "None"), ("base_fee", "None"), ("blob_base_fee", "None"), ("beacon_root", "None"),
      ("block_hash", "None")]

def CallOptions.describe (options : CallOptions) : String :=
  record "CallOptions"
    [("block", optional BlockId.text options.block),
      ("state_overrides", optional StateOverrides.describe options.stateOverrides),
      ("block_overrides", optional BlockOverrides.describe options.blockOverrides)]

end ContractCalls
