import SealedTree.Request
import SealedTree.Schedule

/-!
The settings of a client: where the network is reached, for which contract and receiver, at what
price, and when to ask for results.
-/

namespace SealedTree

structure Settings where
  nodeUrl : String := "https://node1.testnet.partisiablockchain.com"
  relayUrl : String := "http://127.0.0.1:8090"
  contract : Address := .zero
  receiver : Address := .zero
  model : SecretId := ⟨1⟩
  sampleFee : UInt64 := 18770
  modelFee : UInt64 := 21100
  scaling : List UInt16 := defaultScaling
  requestTimeoutMs : UInt64 := 10000
  schedule : Schedule := {}
  deriving DecidableEq

namespace Settings

def requestTimeout (s : Settings) : Duration := .ofMillis s.requestTimeoutMs

def requester (s : Settings) : Requester := ⟨s.model, s.receiver, s.scaling⟩

def validate (s : Settings) : Except ConfigError Unit :=
  if s.nodeUrl.isEmpty || s.relayUrl.isEmpty then .error .noUrl
  else if s.requestTimeoutMs = 0 then .error .noTimeout
  else s.schedule.validate

end Settings

end SealedTree
