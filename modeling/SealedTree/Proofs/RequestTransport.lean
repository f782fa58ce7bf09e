import SealedTree.Network.Relay
import SealedTree.Proofs.Concealment
import SealedTree.Proofs.PublicFrame

/-!
Requests on their way to the relay. An order holds the two halves of a request as text; who reads
the text gets back the call with all its parameters and the very secret that was sealed, so that
orders which read the same were made for the same call and the same secret.
-/

namespace SealedTree

theorem Hex.encode_injective {xs ys : List UInt8} (h : encode xs = encode ys) : xs = ys := by
  have read : (Except.ok xs : Except Fault (List UInt8)) = .ok ys := by
    rw [← decode_encode xs, h, decode_encode]
  exact Except.ok.inj read

/-- What a request keeps secret. -/
inductive SealedInput
  | model (m : Model)
  | sample (s : Sample)
  deriving DecidableEq

def SealedInput.secret : SealedInput → SecretBits
  | .model m => conceal m
  | .sample s => conceal s

namespace Requester

def call (r : Requester) : SealedInput → PublicCall
  | .model _ => .addModel r.scaling
  | .sample _ => .addSample r.model r.receiver

def envelope (r : Requester) : SealedInput → Except ShapeError Envelope
  | .model m => r.upload m
  | .sample s => r.sample s

theorem envelope_eq (r : Requester) (input : SealedInput) :
    r.envelope input = (r.call input).frame.map (⟨·, input.secret⟩) := by
  cases input with
  | model m =>
      simp only [envelope, upload, call, SealedInput.secret]
      cases (PublicCall.addModel r.scaling).frame <;> rfl
  | sample s => rfl

theorem envelope_eq_ok {r : Requester} {input : SealedInput} {e : Envelope}
    (h : r.envelope input = .ok e) :
    (r.call input).frame = .ok e.publicHalf ∧ e.secret = input.secret := by
  rw [envelope_eq] at h
  cases framed : (r.call input).frame with
  | error e => simp [framed, Except.map] at h
  | ok frame =>
      simp only [framed, Except.map, Except.ok.injEq] at h
      subst h
      exact ⟨rfl, rfl⟩

theorem upload_eq_ok {r : Requester} (m : Model) (h : r.scaling.length < 2 ^ 31) :
    r.upload m = .ok ⟨Frame.ofFields (.u8 0x40 :: .i32 (Int32.ofNat r.scaling.length) ::
      r.scaling.map .u16), conceal m⟩ := by
  rw [upload, PublicCall.frame_addModel h]
  rfl

theorem sample_eq_ok (r : Requester) (s : Sample) :
    r.sample s = .ok ⟨Frame.ofFields [.u8 0x41, .u32 r.model.raw, .address r.receiver],
      conceal s⟩ := rfl

theorem answers_toList (r : Requester) (s : Sample) :
    r.answers s.answers.toList = r.sample s := by
  rw [answers, Sample.ofList, sized_toList]
  rfl

theorem eq_of_envelope_eq {r r' : Requester} {a b : SealedInput} {e e' : Envelope}
    (ha : r.envelope a = .ok e) (hb : r'.envelope b = .ok e')
    (frames : e.publicHalf = e'.publicHalf) (secrets : e.secret = e'.secret) :
    r.call a = r'.call b ∧ a = b := by
  obtain ⟨callA, secretA⟩ := envelope_eq_ok ha
  obtain ⟨callB, secretB⟩ := envelope_eq_ok hb
  have calls : r.call a = r'.call b := PublicCall.frame_injective callA (frames ▸ callB)
  have same : a.secret = b.secret := by rw [← secretA, secrets, secretB]
  refine ⟨calls, ?_⟩
  cases a with
  | model m =>
      cases b with
      | model m' => rw [conceal_injective (α := Model) same]
      | sample s' => cases calls
  | sample s =>
      cases b with
      | model m' => cases calls
      | sample s' => rw [conceal_injective (α := Sample) same]

end Requester

namespace Relay

variable (relay : Relay) (fee : UInt64)

theorem decode_rpc (e : Envelope) :
    Hex.decode (relay.order e fee).rpc = .ok e.publicHalf :=
  Hex.decode_encode e.publicHalf

/-- The bytes and the number of bits of an order make up the secret that was sealed. -/
theorem secret_of_order (e : Envelope) :
    ∃ bytes, Hex.decode (relay.order e fee).secret = .ok bytes ∧
      SecretBits.ofBytes bytes (relay.order e fee).secretBits = .ok e.secret :=
  ⟨e.secret.bytes, Hex.decode_encode e.secret.bytes, SecretBits.ofBytes_bytes_len e.secret⟩

/-- Whoever signs them and whatever is paid, orders that read the same hold the same request. -/
theorem envelope_of_order {relay relay' : Relay} {fee fee' : UInt64} {e e' : Envelope}
    (rpc : (relay.order e fee).rpc = (relay'.order e' fee').rpc)
    (secret : (relay.order e fee).secret = (relay'.order e' fee').secret)
    (bits : (relay.order e fee).secretBits = (relay'.order e' fee').secretBits) :
    e = e' := by
  obtain ⟨frame, ⟨bytes, len, fits⟩⟩ := e
  obtain ⟨frame', ⟨bytes', len', fits'⟩⟩ := e'
  obtain rfl : frame = frame' := Hex.encode_injective rpc
  obtain rfl : bytes = bytes' := Hex.encode_injective secret
  obtain rfl : len = len' := bits
  rfl

/-- An order holds the call, the secret and nothing else that was asked for, so that orders for
different calls or secrets differ in their texts or in their number of bits. -/
theorem order_loses_nothing (relay : Relay) (fee : UInt64) :
    (∀ (r : Requester) (m : Model), r.scaling.length < 2 ^ 31 →
      ∃ e, r.upload m = .ok e ∧
        (∃ frame count, Hex.decode (relay.order e fee).rpc = .ok frame ∧
          Frame.upload.run frame = .ok ((0x40, count, r.scaling), []) ∧
          count.toInt = r.scaling.length) ∧
        (∃ bytes, Hex.decode (relay.order e fee).secret = .ok bytes ∧
          SecretBits.ofBytes bytes (relay.order e fee).secretBits = .ok e.secret) ∧
        reveal Model e.secret = .ok m ∧ (relay.order e fee).secretBits = 232) ∧
    (∀ (r : Requester) (s : Sample),
      r.answers s.answers.toList = r.sample s ∧
      ∃ e, r.sample s = .ok e ∧
        (∃ frame, Hex.decode (relay.order e fee).rpc = .ok frame ∧
          Frame.sample.run frame = .ok ((0x41, r.model.raw, r.receiver), [])) ∧
        (∃ bytes, Hex.decode (relay.order e fee).secret = .ok bytes ∧
          SecretBits.ofBytes bytes (relay.order e fee).secretBits = .ok e.secret) ∧
        reveal Sample e.secret = .ok s ∧ (relay.order e fee).secretBits = 160) ∧
    (∀ (relay' : Relay) (fee' : UInt64) (r r' : Requester) (a b : SealedInput) (e e' : Envelope),
      r.envelope a = .ok e → r'.envelope b = .ok e' →
      (relay.order e fee).rpc = (relay'.order e' fee').rpc →
      (relay.order e fee).secret = (relay'.order e' fee').secret →
      (relay.order e fee).secretBits = (relay'.order e' fee').secretBits →
      r.call a = r'.call b ∧ a = b) := by
  refine ⟨?_, ?_, ?_⟩
  · intro r m few
    have read := Frame.reads_upload 0x40 r.scaling few []
    rw [List.append_nil] at read
    exact ⟨_, r.upload_eq_ok m few,
      ⟨_, _, relay.decode_rpc fee _, read, Int32.toInt_ofNat_of_lt few⟩,
      relay.secret_of_order fee _, reveal_conceal m, len_conceal m⟩
  · intro r s
    have read := Frame.reads_sample 0x41 r.model.raw r.receiver []
    rw [List.append_nil] at read
    exact ⟨r.answers_toList s, _, r.sample_eq_ok s, ⟨_, relay.decode_rpc fee _, read⟩,
      relay.secret_of_order fee _, reveal_conceal s, len_conceal s⟩
  · intro relay' fee' r r' a b e e' ha hb rpc secret bits
    obtain rfl := envelope_of_order rpc secret bits
    exact Requester.eq_of_envelope_eq ha hb rfl rfl

/-- Two clients that differ in what only samples need upload the same model: their orders are the
same, and the call that they hold is one and the same. -/
theorem order_loses_nothing_reference :
    let relay : Relay := ⟨"http://relay", .zero⟩
    let r : Requester := ⟨⟨1⟩, .zero, [1000, 1000]⟩
    let r' : Requester := ⟨⟨2⟩, .zero, [1000, 1000]⟩
    r.scaling.length < 2 ^ 31 ∧
      (∃ e, r.upload .reference = .ok e ∧
        (∃ frame count, Hex.decode (relay.order e 7).rpc = .ok frame ∧
          Frame.upload.run frame = .ok ((0x40, count, [1000, 1000]), []) ∧
          count.toInt = (2 : Nat)) ∧
        (∃ bytes, Hex.decode (relay.order e 7).secret = .ok bytes ∧
          SecretBits.ofBytes bytes (relay.order e 7).secretBits = .ok e.secret) ∧
        reveal Model e.secret = .ok .reference ∧ (relay.order e 7).secretBits = 232) ∧
      r.call (.model .reference) = r'.call (.model .reference) := by
  intro relay r r'
  have few : r.scaling.length < 2 ^ 31 := by decide
  have few' : r'.scaling.length < 2 ^ 31 := by decide
  refine ⟨few, (order_loses_nothing relay 7).1 r .reference few, ?_⟩
  exact ((order_loses_nothing relay 7).2.2 relay 7 r r' (.model .reference) (.model .reference) _ _
    (r.upload_eq_ok .reference few) (r'.upload_eq_ok .reference few') rfl rfl rfl).1

end Relay

end SealedTree
