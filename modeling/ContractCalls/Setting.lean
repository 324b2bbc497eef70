import ContractCalls.Request

/-!
# Settings of requests

What a caller sets on a request: one field at a time, or the fees as a whole. A setting replaces an
earlier one of its field, and no field is cleared again but by fees of the other kind.
-/

namespace ContractCalls

inductive Setting where
  | sender (account : Address)
  | value (value : Word)
  | gas (gas : Nat)
  | gasPrice (price : Nat)
  | maxFee (max : Nat)
  | maxPriorityFee (priority : Nat)
  | nonce (nonce : Nat)
  | accessList (items : AccessList)
  | chainId (id : Nat)
  | fees (fees : Fees)
  deriving DecidableEq, Repr, Inhabited

namespace CallRequest

def set (r : CallRequest) : Setting → CallRequest
  | .sender account => { r with sender := some account }
  | .value value => { r with value }
  | .gas gas => { r with gas := some gas }
  | .gasPrice price => { r with feeFields.gasPrice := some price }
  | .maxFee max => { r with feeFields.maxFee := some max }
  | .maxPriorityFee priority => { r with feeFields.maxPriorityFee := some priority }
  | .nonce nonce => { r with nonce := some nonce }
  | .accessList items => { r with accessList := some items }
  | .chainId id => { r with chainId := some id }
  | .fees fees => r.setFees fees

/-- The request after settings, the last of which is made last. -/
def setAll (r : CallRequest) (settings : List Setting) : CallRequest :=
  settings.foldl set r

end CallRequest

end ContractCalls
