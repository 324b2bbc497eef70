import ContractCalls.Function

/-!
# Batches

The calldata of the multicall contract: a list of calls, each with a flag that allows it to fail and
a value, in one of three layouts. The cheaper layouts leave out values, or values and flags, and
serve where these follow from the rest.
-/

namespace ContractCalls

/-- The layout of a batch. -/
inductive Strategy where
  | aggregate3Value
  | aggregate3
  | tryAggregate (requireSuccess : Bool)
  deriving DecidableEq, Repr, Inhabited

namespace Strategy

/-- Values need the full layout, different flags the one with flags. -/
def select (anyPayable mixedFailure allowFailure : Bool) : Strategy :=
  if anyPayable then aggregate3Value
  else if mixedFailure then aggregate3
  else tryAggregate (!allowFailure)

/-- For each call whether it succeeded, and its data. -/
def resultType : AbiType :=
  .array (.tuple [.bool, .bytes])

def callType : Strategy → AbiType
  | aggregate3Value => .tuple [.address, .bool, .uint 256, .bytes]
  | aggregate3 => .tuple [.address, .bool, .bytes]
  | tryAggregate _ => .tuple [.address, .bytes]

/-- The function of the multicall contract that takes the layout. -/
def function (s : Strategy) : AbiFunction :=
  match s with
  | aggregate3Value => ⟨"aggregate3Value", [.array s.callType], [resultType]⟩
  | aggregate3 => ⟨"aggregate3", [.array s.callType], [resultType]⟩
  | tryAggregate _ => ⟨"tryAggregate", [.bool, .array s.callType], [resultType]⟩

end Strategy

/-- A call within a batch. -/
structure BatchCall where
  target : Address
  allowFailure : Bool
  value : Word
  data : Bytes
  deriving DecidableEq, Repr, Inhabited

structure Batch where
  strategy : Strategy
  calls : List BatchCall
  deriving DecidableEq, Repr, Inhabited

namespace BatchCall

/-- A call as an argument in a layout. -/
def toValue (call : BatchCall) : Strategy → AbiValue
  | .aggregate3Value =>
    .tuple [.address call.target, .bool call.allowFailure, .ofUint256 call.value, .bytes call.data]
  | .aggregate3 => .tuple [.address call.target, .bool call.allowFailure, .bytes call.data]
  | .tryAggregate _ => .tuple [.address call.target, .bytes call.data]

/-- The call that an argument in a layout stands for. What the layout leaves out is zero for a
value, and for a flag the same for all calls. -/
def ofValue? : Strategy → AbiValue → Option BatchCall
  | .aggregate3Value, .tuple [.address target, .bool allow, .uint value _, .bytes data] =>
    some ⟨target, allow, value, data⟩
  | .aggregate3, .tuple [.address target, .bool allow, .bytes data] => some ⟨target, allow, 0, data⟩
  | .tryAggregate require, .tuple [.address target, .bytes data] => some ⟨target, !require, 0, data⟩
  | _, _ => none

end BatchCall

namespace Batch

def args (b : Batch) : List AbiValue :=
  let calls := AbiValue.array (b.calls.map (·.toValue b.strategy))
  match b.strategy with
  | .tryAggregate requireSuccess => [.bool requireSuccess, calls]
  | _ => [calls]

def encode (b : Batch) : Except AbiError Bytes :=
  b.strategy.function.encodeCall b.args

/-- The batch in a layout whose arguments are given. -/
def ofArgs? : Strategy → List AbiValue → Option Batch
  | .tryAggregate _, [.bool requireSuccess, .array calls] => do
    let strategy := .tryAggregate requireSuccess
    return ⟨strategy, ← calls.mapM (BatchCall.ofValue? strategy)⟩
  | .tryAggregate _, _ => none
  | strategy, [.array calls] => do return ⟨strategy, ← calls.mapM (BatchCall.ofValue? strategy)⟩
  | _, _ => none

/-- The batch in calldata. The selector decides the layout. -/
def decode? (calldata : Bytes) : Option Batch := do
  let strategy ← [Strategy.aggregate3Value, .aggregate3, .tryAggregate false].find? fun s =>
    4 ≤ calldata.length && Bytes.toBitVec 32 (calldata.take 4) == s.function.selector
  let args ← (strategy.function.decodeInput calldata).toOption
  ofArgs? strategy args

end Batch

/-! ### Results -/

def resultOf : AbiValue → Except AbiError (Bool × Bytes)
  | .tuple [.bool success, .bytes data] => .ok (success, data)
  | .tuple [other, _] => .error (.typeMismatch "(bool,bytes)" other.kind)
  | other => .error (.typeMismatch "(bool,bytes)" other.kind)

/-- The results of a batch: for each call whether it succeeded, and its data. -/
def decodeResults (data : Bytes) : Except AbiError (List (Bool × Bytes)) := do
  match ← Abi.decode data [Strategy.resultType] with
  | [.array results] => results.mapM resultOf
  | _ => throw (.invalidType Strategy.resultType.text)

def encodeResults (results : List (Bool × Bytes)) : Bytes :=
  let values := results.map fun (success, data) => AbiValue.tuple [.bool success, .bytes data]
  Abi.layOut (Abi.fields [.array values] [Strategy.resultType])

end ContractCalls
