import ContractCalls.Json.Printer
import ContractCalls.JsonRpc.Node
import ContractCalls.Session
import ContractCalls.Setting
import ContractCalls.Simulation.Reading
import ContractCalls.Simulation.Script
import ContractCalls.Simulation.Signer
import ContractCalls.Wallet
import ContractCalls.Proofs.Abi.Typing
import ContractCalls.Proofs.Abi.Encoding
import ContractCalls.Proofs.Abi.Decoding
import ContractCalls.Proofs.Abi.NormalForm
import ContractCalls.Proofs.Abi.RoundTrip
import ContractCalls.Proofs.Abi.Reencoding
import ContractCalls.Proofs.Abi.Places
import ContractCalls.Proofs.Abi.Conformance
import ContractCalls.Proofs.Abi.Acceptance
import ContractCalls.Proofs.Multicall.Batch
import ContractCalls.Proofs.Abi.Bounds
import ContractCalls.Proofs.Abi.Extension
import ContractCalls.Proofs.Abi.Static
import ContractCalls.Proofs.Multicall.Building
import ContractCalls.Proofs.Multicall.Handle
import ContractCalls.Proofs.Multicall.Settling
import ContractCalls.Proofs.Multicall.Dispatch
import ContractCalls.Proofs.Multicall.Adding
import ContractCalls.Proofs.Hex
import ContractCalls.Proofs.Json.Parser
import ContractCalls.Proofs.Simulation.Revert
import ContractCalls.Proofs.Revert
import ContractCalls.Proofs.Multicall.OneByOne
import ContractCalls.Proofs.Node.Filling
import ContractCalls.Proofs.Node.Recording
import ContractCalls.Proofs.Call
import ContractCalls.Proofs.Multicall.Sending
import ContractCalls.Proofs.Inclusion
import ContractCalls.Proofs.Node.Fees
import ContractCalls.Proofs.Rejection
import ContractCalls.Proofs.Completion
import ContractCalls.Proofs.Multicall.Executed
import ContractCalls.Proofs.Translation
import ContractCalls.Proofs.Abi.Validation
import ContractCalls.Proofs.Multicall.Totals
import ContractCalls.Proofs.Multicall.SetValue
import ContractCalls.Proofs.Setting
import ContractCalls.Proofs.Simulation.Waiting
import ContractCalls.Proofs.Multicall.Strategy
import ContractCalls.Proofs.Multicall.Knowing
import ContractCalls.Proofs.Abi.Structs
import ContractCalls.Proofs.Signature.Declarations
import ContractCalls.Proofs.Revert.Registration
import ContractCalls.Proofs.Abi.Integers
import ContractCalls.Proofs.Abi.HeadSizes
import ContractCalls.Proofs.Abi.Extent
import ContractCalls.Proofs.Simulation.Termination
