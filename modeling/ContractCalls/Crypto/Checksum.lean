import ContractCalls.Crypto.Keccak
import ContractCalls.Hex

/-!
# Addresses with a checksum

An address is shown to people with some of its letters as capitals. Which ones follows from the hash
of its lower-case digits, so that a mistyped digit most likely shows.
-/

namespace ContractCalls

/-- A digit, as a capital letter if the digit of the hash at its place is at least 8. -/
def checksumDigit (digit mark : Char) : Char :=
  if '8' ≤ mark then digit.toUpper else digit

def checksummed (account : Address) : String :=
  let digits := Hex.digits (Bytes.ofBitVec account)
  let marks := Hex.digits (Keccak.digest (Bytes.ofText (String.ofList digits)))
  "0x" ++ String.ofList (List.zipWith checksumDigit digits marks)

end ContractCalls
