import SealedTree.Frame
import SealedTree.Model.Secret

/-!
Requests to the contract. A request has a public half, the frame of the call, and a secret half, the
model or the sample.
-/

namespace SealedTree

/-- The number that the contract has given to a secret. -/
structure SecretId where
  raw : UInt32
  deriving DecidableEq

/-- A call of the contract, as far as everyone may read it. -/
inductive PublicCall
  | addModel (scaling : List UInt16)
  | addSample (model : SecretId) (receiver : Address)
  deriving DecidableEq

namespace PublicCall

/-- The number of scaling factors is written with a sign, so there are fewer than `2 ^ 31`. -/
def frame : PublicCall → Except ShapeError (List UInt8)
  | .addModel scaling =>
      if scaling.length < 2147483648 then
        .ok (Frame.ofFields (.u8 0x40 :: .i32 (Int32.ofNat scaling.length) :: scaling.map .u16))
      else .error (.outOfRange "scaling_conversion" scaling.length)
  | .addSample model receiver =>
      .ok (Frame.ofFields [.u8 0x41, .u32 model.raw, .address receiver])

/-- Numbers of two bytes each, the higher byte first. -/
def shorts? : List UInt8 → Option (List UInt16)
  | [] => some []
  | [_] => none
  | hi :: lo :: rest =>
      (shorts? rest).map (UInt16.ofNat (Frame.ofBigEndian [hi, lo]) :: ·)

/-- The call that a frame stands for, the way the contract reads it. -/
def ofFrame? : List UInt8 → Option PublicCall
  | 0x40 :: a :: b :: c :: d :: rest => do
      let scaling ← shorts? rest
      if Frame.ofBigEndian [a, b, c, d] = scaling.length then some (.addModel scaling) else none
  | 0x41 :: a :: b :: c :: d :: rest =>
      (Address.ofBytes? rest).map (.addSample ⟨UInt32.ofNat (Frame.ofBigEndian [a, b, c, d])⟩)
  | _ => none

end PublicCall

structure Envelope where
  publicHalf : List UInt8
  secret : SecretBits
  deriving DecidableEq

/-- How an envelope shows itself: the secret half only by its size. -/
def Envelope.shown (e : Envelope) : String :=
  "RequestEnvelope \x7b public_rpc: \"" ++ Hex.encode e.publicHalf ++ "\", secret: " ++
    e.secret.shown ++ " \x7d"

def defaultScaling : List UInt16 := [1000, 1000]

/-- What the requests of one client have in common. -/
structure Requester where
  model : SecretId
  receiver : Address
  scaling : List UInt16 := defaultScaling

namespace Requester

def upload (r : Requester) (m : Model) : Except ShapeError Envelope := do
  let frame ← (PublicCall.addModel r.scaling).frame
  .ok ⟨frame, conceal m⟩

def sample (r : Requester) (s : Sample) : Except ShapeError Envelope := do
  let frame ← (PublicCall.addSample r.model r.receiver).frame
  .ok ⟨frame, conceal s⟩

def answers (r : Requester) (answers : List Int16) : Except ShapeError Envelope := do
  r.sample (← Sample.ofList answers)

end Requester

end SealedTree
