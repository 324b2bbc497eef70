import ContractCalls.CallOptions

/-!
# Multicall deployments

The address of the multicall contract on a chain, and its code for the simulation on blocks or
chains where it does not exist yet.
-/

namespace ContractCalls

/-- The runtime code of the multicall contract. -/
def multicallCode : Bytes :=
  (Hex.bytes? (digits.flatMap String.toList)).getD []
where
  digits : List String := [
    "6080604052600436106100f35760003560e01c80634d2301cc1161008a578063a8b0574e11610059578063a8b0",
    "574e1461025a578063bce38bd714610275578063c3077fa914610288578063ee82ac5e1461029b57600080fd5b",
    "80634d2301cc146101ec57806372425d9d1461022157806382ad56cb1461023457806386d516e8146102475760",
    "0080fd5b80633408e470116100c65780633408e47014610191578063399542e9146101a45780633e64a6961461",
    "01c657806342cbb15c146101d957600080fd5b80630f28c97d146100f8578063174dea711461011a578063252d",
    "ba421461013a57806327e86d6e1461015b575b600080fd5b34801561010457600080fd5b50425b604051908152",
    "6020015b60405180910390f35b61012d610128366004610a85565b6102ba565b6040516101119190610bbe565b",
    "61014d610148366004610a85565b6104ef565b604051610111929190610bd8565b34801561016757600080fd5b",
    "50437fffffffffffffffffffffffffffffffffffffffffffffffffffffffffffffffff0140610107565b348015",
    "61019d57600080fd5b5046610107565b6101b76101b2366004610c60565b610690565b60405161011193929190",
    "610cba565b3480156101d257600080fd5b5048610107565b3480156101e557600080fd5b5043610107565b3480",
    "156101f857600080fd5b50610107610207366004610ce2565b73ffffffffffffffffffffffffffffffffffffff",
    "ff163190565b34801561022d57600080fd5b5044610107565b61012d610242366004610a85565b6106ab565b34",
    "801561025357600080fd5b5045610107565b34801561026657600080fd5b50604051418152602001610111565b",
    "61012d610283366004610c60565b61085a565b6101b7610296366004610a85565b610a1a565b3480156102a757",
    "600080fd5b506101076102b6366004610d18565b4090565b60606000828067ffffffffffffffff8111156102d8",
    "576102d8610d31565b60405190808252806020026020018201604052801561031e57816020015b604080518082",
    "0190915260008152606060208201528152602001906001900390816102f65790505b5092503660005b82811015",
    "61047757600085828151811061034157610341610d60565b6020026020010151905087878381811061035d5761",
    "035d610d60565b905060200281019061036f9190610d8f565b6040810135958601959093506103886020850185",
    "610ce2565b73ffffffffffffffffffffffffffffffffffffffff16816103ac6060870187610dcd565b60405161",
    "03ba929190610e32565b60006040518083038185875af1925050503d80600081146103f7576040519150601f19",
    "603f3d011682016040523d82523d6000602084013e6103fc565b606091505b5060208085019190915290151580",
    "8452908501351761046d577f08c379a00000000000000000000000000000000000000000000000000000000060",
    "0052602060045260176024527f4d756c746963616c6c333a2063616c6c206661696c6564000000000000000000",
    "60445260846000fd5b5050600101610325565b508234146104e6576040517f08c379a000000000000000000000",
    "000000000000000000000000000000000000815260206004820152601a60248201527f4d756c746963616c6c33",
    "3a2076616c7565206d69736d6174636800000000000060448201526064015b60405180910390fd5b5050509291",
    "5050565b436060828067ffffffffffffffff81111561050c5761050c610d31565b604051908082528060200260",
    "20018201604052801561053f57816020015b606081526020019060019003908161052a5790505b509150366000",
    "5b8281101561068657600087878381811061056257610562610d60565b90506020028101906105749190610e42",
    "565b92506105836020840184610ce2565b73ffffffffffffffffffffffffffffffffffffffff166105a6602085",
    "0185610dcd565b6040516105b4929190610e32565b6000604051808303816000865af19150503d806000811461",
    "05f1576040519150601f19603f3d011682016040523d82523d6000602084013e6105f6565b606091505b508684",
    "8151811061060957610609610d60565b602090810291909101015290508061067d576040517f08c379a0000000",
    "00000000000000000000000000000000000000000000000000815260206004820152601760248201527f4d756c",
    "746963616c6c333a2063616c6c206661696c656400000000000000000060448201526064016104dd565b506001",
    "01610546565b5050509250929050565b43804060606106a086868661085a565b905093509350939050565b6060",
    "818067ffffffffffffffff8111156106c7576106c7610d31565b60405190808252806020026020018201604052",
    "801561070d57816020015b60408051808201909152600081526060602082015281526020019060019003908161",
    "06e55790505b5091503660005b828110156104e657600084828151811061073057610730610d60565b60200260",
    "20010151905086868381811061074c5761074c610d60565b905060200281019061075e9190610e76565b925061",
    "076d6020840184610ce2565b73ffffffffffffffffffffffffffffffffffffffff166107906040850185610dcd",
    "565b60405161079e929190610e32565b6000604051808303816000865af19150503d80600081146107db576040",
    "519150601f19603f3d011682016040523d82523d6000602084013e6107e0565b606091505b5060208084019190",
    "91529015158083529084013517610851577f08c379a00000000000000000000000000000000000000000000000",
    "0000000000600052602060045260176024527f4d756c746963616c6c333a2063616c6c206661696c6564000000",
    "00000000000060445260646000fd5b50600101610714565b6060818067ffffffffffffffff8111156108765761",
    "0876610d31565b6040519080825280602002602001820160405280156108bc57816020015b6040805180820190",
    "915260008152606060208201528152602001906001900390816108945790505b5091503660005b82811015610a",
    "105760008482815181106108df576108df610d60565b602002602001015190508686838181106108fb576108fb",
    "610d60565b905060200281019061090d9190610e42565b925061091c6020840184610ce2565b73ffffffffffff",
    "ffffffffffffffffffffffffffff1661093f6020850185610dcd565b60405161094d929190610e32565b600060",
    "4051808303816000865af19150503d806000811461098a576040519150601f19603f3d011682016040523d8252",
    "3d6000602084013e61098f565b606091505b506020830152151581528715610a07578051610a07576040517f08",
    "c379a0000000000000000000000000000000000000000000000000000000008152602060048201526017602482",
    "01527f4d756c746963616c6c333a2063616c6c206661696c656400000000000000000060448201526064016104",
    "dd565b506001016108c3565b5050509392505050565b6000806060610a2b60018686610690565b919790965090",
    "945092505050565b60008083601f840112610a4b57600080fd5b50813567ffffffffffffffff811115610a6357",
    "600080fd5b6020830191508360208260051b8501011115610a7e57600080fd5b9250929050565b600080602083",
    "85031215610a9857600080fd5b823567ffffffffffffffff811115610aaf57600080fd5b610abb85828601610a",
    "39565b90969095509350505050565b6000815180845260005b81811015610aed57602081850181015186830182",
    "015201610ad1565b81811115610aff576000602083870101525b50601f017fffffffffffffffffffffffffffff",
    "ffffffffffffffffffffffffffffffffffe0169290920160200192915050565b60008282518085526020808601",
    "9550808260051b84010181860160005b84811015610bb1578583037fffffffffffffffffffffffffffffffffff",
    "ffffffffffffffffffffffffffffe001895281518051151584528401516040858501819052610b9d8186018361",
    "0ac7565b9a86019a9450505090830190600101610b4f565b5090979650505050505050565b602081526000610b",
    "d16020830184610b32565b9392505050565b600060408201848352602060408185015281855180845260608601",
    "915060608160051b870101935082870160005b82811015610c52577fffffffffffffffffffffffffffffffffff",
    "ffffffffffffffffffffffffffffa0888703018452610c40868351610ac7565b95509284019290840190600101",
    "610c06565b509398975050505050505050565b600080600060408486031215610c7557600080fd5b8335801515",
    "8114610c8557600080fd5b9250602084013567ffffffffffffffff811115610ca157600080fd5b610cad868287",
    "01610a39565b9497909650939450505050565b838152826020820152606060408201526000610cd96060830184",
    "610b32565b95945050505050565b600060208284031215610cf457600080fd5b813573ffffffffffffffffffff",
    "ffffffffffffffffffff81168114610bd157600080fd5b600060208284031215610d2a57600080fd5b50359190",
    "50565b7f4e487b7100000000000000000000000000000000000000000000000000000000600052604160045260",
    "246000fd5b7f4e487b710000000000000000000000000000000000000000000000000000000060005260326004",
    "5260246000fd5b600082357fffffffffffffffffffffffffffffffffffffffffffffffffffffffffffffff8183",
    "3603018112610dc357600080fd5b9190910192915050565b60008083357fffffffffffffffffffffffffffffff",
    "ffffffffffffffffffffffffffffffffe1843603018112610e0257600080fd5b83018035915067ffffffffffff",
    "ffff821115610e1d57600080fd5b602001915036819003821315610a7e57600080fd5b81838237600091019081",
    "52919050565b600082357fffffffffffffffffffffffffffffffffffffffffffffffffffffffffffffffc18336",
    "03018112610dc357600080fd5b600082357fffffffffffffffffffffffffffffffffffffffffffffffffffffff",
    "ffffffffa1833603018112610dc357600080fdfea2646970667358221220bb2b5c71a328032f97c676ae39a1ec",
    "2148d3e5d6f73d95e9b17910152d61f16264736f6c634300080c0033"]

/-- The address at which the multicall contract stands on most chains. -/
def canonicalMulticall : Address := 0xcA11bde05977b3631167028862bE2a173976CA11

/-- The address of the multicall contract on the zkSync chains. -/
def zkSyncMulticall : Address := 0xF9cda624FBC7e059355ce98a31693d299FACd963

def multicallAddress (chainId : Nat) : Address :=
  if chainId = 324 ∨ chainId = 300 then zkSyncMulticall else canonicalMulticall

/-- A multicall contract; its code may be injected into simulated calls. -/
structure Deployment where
  address : Address
  injectCode : Bool := false
  deriving DecidableEq, Repr, Inhabited

namespace Deployment

def forChain (chainId : Nat) : Deployment where
  address := multicallAddress chainId

def withInjectedCode (d : Deployment) : Deployment :=
  { d with injectCode := true }

/-- The override of the contract with the known code. -/
def codeOverride : AccountOverride where
  code := some multicallCode

def stateOverrides (d : Deployment) : StateOverrides :=
  [(d.address, codeOverride)]

/-- The overrides of a caller, to which the injected code is added unless the caller overrides that
account too. -/
def mergeOverrides (d : Deployment) (overrides : Option StateOverrides) : Option StateOverrides :=
  if d.injectCode then some ((overrides.getD []).insertNew d.address codeOverride) else overrides

def describe (d : Deployment) : String :=
  Text.record "MulticallDeployment"
    [("address", Hex.ofBitVec d.address), ("inject_bytecode", toString d.injectCode)]

end Deployment

end ContractCalls
