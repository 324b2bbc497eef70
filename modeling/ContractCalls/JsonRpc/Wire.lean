import ContractCalls.CallOptions
import ContractCalls.Json.Parser
import ContractCalls.Node
import ContractCalls.Numeral

/-!
# Values on the wire

The JSON forms of requests, blocks and overrides, and the reading of numbers, words and objects.
Quantities are written in hexadecimal without leading zeros, byte strings with two digits a byte;
reading takes other forms too.
-/

namespace ContractCalls.Wire

/-! ### Writing -/

def quantity (n : Nat) : Json :=
  .string (Hex.quantity n)

def bytes (data : Bytes) : Json :=
  .string (Hex.encode data)

def bitVec {w : Nat} (x : BitVec w) : Json :=
  .string (Hex.ofBitVec x)

def accessList (items : AccessList) : Json :=
  .array <| items.map fun item =>
    .object [("address", bitVec item.address),
      ("storageKeys", .array (item.storageKeys.map bitVec))]

/-- A transaction with the fields that it has. -/
def transaction (tx : TransactionRequest) : Json :=
  .ofMembers
    [("from", tx.sender.map bitVec), ("to", tx.target.map bitVec),
      ("value", tx.value.map fun w => quantity w.toNat), ("input", tx.input.map bytes),
      ("gas", tx.gas.map quantity), ("gasPrice", tx.feeFields.gasPrice.map quantity),
      ("maxFeePerGas", tx.feeFields.maxFee.map quantity),
      ("maxPriorityFeePerGas", tx.feeFields.maxPriorityFee.map quantity),
      ("nonce", tx.nonce.map quantity), ("accessList", tx.accessList.map accessList),
      ("chainId", tx.chainId.map quantity)]

def block : BlockId → Json
  | .hash h => .object [("blockHash", bitVec h)]
  | id => .string id.text

def stateOverrides (overrides : StateOverrides) : Json :=
  .object <| overrides.map fun (account, override) =>
    (Hex.ofBitVec account, .ofMembers
      [("balance", override.balance.map fun w => quantity w.toNat),
        ("nonce", override.nonce.map quantity), ("code", override.code.map bytes)])

def blockOverrides (overrides : BlockOverrides) : Json :=
  .ofMembers [("number", overrides.number.map quantity), ("time", overrides.time.map quantity)]

/-- The parameters of a simulated call. Overrides are given by place, so that empty ones of the
state stand before those of the block. -/
def callParameters (r : CallRequest) (id : BlockId) (state : Option StateOverrides)
    (header : Option BlockOverrides) : Json :=
  let overrides :=
    match state, header with
    | none, none => []
    | some state, none => [stateOverrides state]
    | state, some header => [stateOverrides (state.getD []), blockOverrides header]
  .array ([transaction r.transaction, block id] ++ overrides)

/-! ### Reading -/

/-- A number of at most so many bits, given as such or by a numeral. -/
def quantity? (bits : Nat) (j : Json) : Option Nat := do
  let n ←
    match j with
    | .integer n => if 0 ≤ n then some n.toNat else none
    | .string text => Numeral.parse? text
    | _ => none
  if n >>> bits = 0 then return n else none

def uint64? : Json → Option Nat :=
  quantity? 64

def uint128? : Json → Option Nat :=
  quantity? 128

/-- A word in hexadecimal, or as the list of its bytes, after which one `stray` item is passed
over. -/
def wordBefore? (stray : Json → Bool) (w : Nat) : Json → Option (BitVec w)
  | .string text => Hex.bitVec? w text
  | .array items => do
    let data : Bytes ← (items.take (w / 8)).mapM Json.byte?
    let rest := items.drop (w / 8)
    if data.length = w / 8 ∧ rest.length ≤ 1 ∧ rest.all stray then return data.toBitVec w else none
  | _ => none

/-- An item that is no byte. -/
def isNoByte (j : Json) : Bool :=
  (Json.byte? j).isNone

/-- A word that stands by itself or is a member that is read as it comes: no list or object is
passed over after its bytes. -/
def word? (w : Nat) : Json → Option (BitVec w) :=
  wordBefore? (fun j => isNoByte j && j.array?.isNone && j.object?.isNone) w

/-- A word among members that are put aside first, and read when all of them are known. -/
def laterWord? (w : Nat) : Json → Option (BitVec w) :=
  wordBefore? isNoByte w

def hash? : Json → Option Hash :=
  word? 256

def list? {α : Type} (read : Json → Option α) (j : Json) : Option (List α) := do
  (← j.array?).mapM read

def optional? {α : Type} (read : Json → Option α) (j : Json) : Option (Option α) :=
  if j.isNull then some none else (read j).map some

/-! ### Members -/

def reads {α : Type} (read : Json → Option α) (j : Json) : Bool :=
  (read j).isSome

def listOf (fits : Json → Bool) (j : Json) : Bool :=
  j.array?.any fun items => items.all fits

def orNull (fits : Json → Bool) (j : Json) : Bool :=
  j.isNull || fits j

/-- What a member of an object, if there is one, has to be. -/
abbrev MemberRule := Option Json → Bool

def needed (fits : Json → Bool) : MemberRule :=
  fun j => j.any fits

def ifGiven (fits : Json → Bool) : MemberRule :=
  fun j => j.all fits

/-- A member that may be missing or `null`. -/
def nullable {α : Type} (read : Json → Option α) : MemberRule :=
  ifGiven (orNull (reads read))

/-- The object with its members under their main names, where some have another name, given first.
An object that has a member under both names is refused, because it has that member twice. -/
def underMainNames? (names : List (String × String)) : Json → Option Json
  | .object members =>
    let isGiven (name : String) : Bool := members.any (·.1 == name)
    if names.any fun (other, main) => isGiven other && isGiven main then none
    else some (.object (members.map fun (name, value) => ((names.lookup name).getD name, value)))
  | j => some j

/-- The members of an object given in a fixed order, as the object. -/
def named (names : List String) : Json → Json
  | .array items => if items.length ≤ names.length then .object (names.zip items) else .array items
  | j => j

/-- An object whose members keep to rules. It may have others. -/
def keepsTo (rules : List (String × MemberRule)) : Json → Bool
  | .object members => rules.all fun (name, rule) => rule ((Json.object members).get? name)
  | _ => false

end ContractCalls.Wire
