import SealedTree.Network.Node
import SealedTree.Proofs.HexText
import SealedTree.Proofs.Json.Decoding
import SealedTree.Proofs.Json.Respelling
import SealedTree.Request.Document

/-!
Documents on the wire. Snapshots and envelopes are read as what they were written from; a payload
may be spelled in another way, but not be anything else than digits; and no document is read as a
secret with more bits than its bytes have.
-/

namespace SealedTree

namespace TransactionId

theorem decodes_json (tx : TransactionId) : Json.Decodes decoder tx.json tx :=
  (Json.decodes_text tx.text).map TransactionId.mk

end TransactionId

namespace Variable

theorem payloadDecoder_eq_ok {site : Json.Site} {s : String} {bytes : List UInt8} :
    payloadDecoder site (.string s) = .ok bytes ↔ Hex.Spells s bytes := by
  rw [payloadDecoder, Json.Decoder.refine_eq_ok]
  simp only [Except.mapError_eq_ok]
  constructor
  · rintro ⟨_, ⟨⟩, read⟩
    exact Hex.decodeChars_bare.mp read
  · intro h
    exact ⟨s, rfl, Hex.decodeChars_bare.mpr h⟩

theorem decodes_payload {s : String} {bytes : List UInt8} (h : Hex.Spells s bytes) :
    Json.Decodes payloadDecoder (.string s) bytes :=
  fun _ => payloadDecoder_eq_ok.mpr h

def payloadSlot : Json.Slot := Json.openSlot "payload" (Json.optional payloadDecoder)

def slots : List Json.Slot :=
  [Json.slot "key" Json.uint64, Json.openSlot "transaction" (Json.optional TransactionId.decoder),
   payloadSlot]

theorem payloadSlot_mem : payloadSlot ∈ slots :=
  List.mem_cons_of_mem _ (List.mem_cons_of_mem _ List.mem_cons_self)

/-- The fields of a variable, with another document for the payload. -/
def entries (v : Variable) (payload : Json) : List Json.Entry :=
  [⟨Json.slot "key" Json.uint64, .ofNat v.key.toNat⟩,
   ⟨Json.openSlot "transaction" (Json.optional TransactionId.decoder),
    .ofOption (v.transaction.map TransactionId.json)⟩,
   ⟨payloadSlot, payload⟩]

theorem decodes_transaction (tx : Option TransactionId) :
    Json.Decodes (Json.optional TransactionId.decoder) (.ofOption (tx.map TransactionId.json))
      tx := by
  cases tx with
  | none => exact fun _ => rfl
  | some tx => exact Json.decodes_optional tx.decodes_json nofun

theorem decodes_entries {v : Variable} {payload : Json}
    (h : Json.Decodes (Json.optional payloadDecoder) payload v.payload) :
    Json.Decodes decoder (.ofMembers ((v.entries payload).map Json.Entry.field)) v := by
  intro site
  have distinct : Json.Entry.Distinct (v.entries payload) := by
    simp [Json.Entry.Distinct, entries, payloadSlot, Json.openSlot, Json.slot]
  have key := Json.decodes_uint64 v.key
  have transaction := decodes_transaction v.transaction
  have checked : Json.Entry.check site (v.entries payload) = .ok () := by
    rw [entries, Json.Entry.check_cons_of_decodes key _ rfl,
      Json.Entry.check_cons_of_decodes transaction _ rfl,
      Json.Entry.check_cons_of_decodes h _ rfl]
    rfl
  have fields := Json.fields_entries "struct ContractStateVariable" site distinct
  rw [checked] at fields
  rw [decoder]
  change (Json.fields "struct ContractStateVariable" ((v.entries payload).map Json.Entry.slot) site
    _ >>= _) = _
  rw [fields]
  simp only [Except.map, bind, Except.bind]
  rw [Json.Fields.get_eq rfl, key, Json.Fields.getOr_eq rfl, transaction,
    Json.Fields.getOr_eq rfl, h]

theorem decodes_json (v : Variable) : Json.Decodes decoder v.json v := by
  refine decodes_entries ?_
  cases v.payload with
  | none => exact fun _ => rfl
  | some bytes => exact Json.decodes_optional (decodes_payload (Hex.spells_encode bytes)) nofun

theorem plain_entries (v : Variable) {payload : Json} (h : payload.Plain) :
    (Json.ofMembers ((v.entries payload).map Json.Entry.field)).Plain := by
  have distinct : ["key", "transaction", "payload"].Nodup := by decide
  have transaction (tx : TransactionId) : tx.json.Plain := .string tx.text
  refine .ofMembers distinct ?_
  simp only [entries, List.map_cons, List.map_nil, List.forall_mem_cons]
  exact ⟨Json.plain_ofNat v.key.toNat_lt, Json.plain_ofOption transaction _, h, nofun⟩

theorem plain_json (v : Variable) : v.json.Plain :=
  v.plain_entries (Json.plain_ofOption (fun _ => .string _) _)

theorem mapMember_json (v : Variable) (payload : Json) :
    v.json.mapMember "payload" (fun _ => payload) =
      .ofMembers ((v.entries payload).map Json.Entry.field) := rfl

/-- Texts of the same digits are put in each other's place. -/
def Respells (f : Json → Json) : Prop :=
  ∀ j, f j = j ∨ ∃ s s' bytes, j = .string s ∧ f j = .string s' ∧ Hex.Spells s bytes ∧
    Hex.Spells s' bytes

theorem Respells.payload {f : Json → Json} (h : Respells f) (site : Json.Site) (j : Json) :
    Json.optional payloadDecoder site (f j) = Json.optional payloadDecoder site j := by
  rcases h j with same | ⟨s, s', bytes, rfl, other, before, after⟩
  · rw [same]
  · rw [other, Json.decodes_optional (decodes_payload before) nofun,
      Json.decodes_optional (decodes_payload after) nofun]

/-- How the digits of a payload are spelled makes no difference. -/
theorem decoder_respelled {f : Json → Json} (h : Respells f) (site : Json.Site) (j : Json) :
    decoder site (j.mapMember "payload" f) = decoder site j := by
  have known : ∃ s ∈ slots, s.name = "payload" := ⟨_, payloadSlot_mem, rfl⟩
  refine Json.fields_mapMember known ?_ ?_ _ j
  · intro s inside named site value
    simp only [slots, List.mem_cons, List.not_mem_nil, or_false] at inside
    obtain rfl | rfl | rfl := inside
    · exact absurd named (by decide)
    · exact absurd named (by decide)
    · simp only [payloadSlot, Json.openSlot, Json.Decoder.map, h.payload]
  · intro fields
    have key : "key" ≠ "payload" := by decide
    have transaction : "transaction" ≠ "payload" := by decide
    rw [Json.Fields.get_mapField_of_ne key, Json.Fields.getOr_mapField_of_ne transaction,
      Json.Fields.getOr_mapField h.payload]

/-- What stands for the payload, whether the record is written as an object or as an array. -/
def payload? : Json → Option Json
  | .array items _ => items[2]?
  | j => j.member? "payload"

theorem lookup_payload {site : Json.Site} {j value : Json} {fields : Json.Fields}
    (read : Json.fields "struct ContractStateVariable" slots site j = .ok fields)
    (there : payload? j = some value) : fields.lookup "payload" = some value := by
  cases j with
  | array items stop =>
      rw [(Json.itemFields_eq_ok read).1]
      rcases items with _ | ⟨key, _ | ⟨transaction, _ | ⟨payload, rest⟩⟩⟩
      · cases there
      · cases there
      · cases there
      · exact there
  | valueless fault | broken flaw => cases there
  | _ => exact (Json.check_of_fields (by decide) read payloadSlot_mem there).1

/-- The payload of a variable that is read is spelled by what stands there. -/
theorem spells_of_decoder {site : Json.Site} {j : Json} {v : Variable}
    (read : decoder site j = .ok v) {s : String} (there : payload? j = some (.string s)) :
    ∃ bytes, v.payload = some bytes ∧ Hex.Spells s bytes := by
  obtain ⟨fields, reached, rest⟩ := Except.bind_eq_ok.mp read
  obtain ⟨key, -, rest⟩ := Except.bind_eq_ok.mp rest
  obtain ⟨transaction, -, rest⟩ := Except.bind_eq_ok.mp rest
  obtain ⟨payload, taken, made⟩ := Except.bind_eq_ok.mp rest
  cases made
  rw [Json.Fields.getOr_eq (lookup_payload reached there)] at taken
  obtain ⟨bytes, payload, rfl⟩ := Except.map_eq_ok.mp taken
  exact ⟨bytes, rfl, payloadDecoder_eq_ok.mp payload⟩

end Variable

namespace Node.VariablesReply

theorem plain_json (r : VariablesReply) : r.json.Plain := by
  refine .ofMembers (List.nodup_singleton _) (List.forall_mem_singleton.mpr ?_)
  exact Json.plain_map Variable.plain_json _

theorem decodes_json (r : VariablesReply) : Json.Decodes decoder r.json r := by
  intro site
  have snapshot := Json.decodes_list Variable.decodes_json r.snapshot site.inner
  rw [decoder, ← bind_assoc, Except.bind_eq_ok]
  exact ⟨r.snapshot, (Json.field_eq_ok r.plain_json.sound (Json.inObjectForm_ofMembers _)).mpr
    ⟨_, rfl, snapshot⟩, rfl⟩

end Node.VariablesReply

theorem plain_bytesJson (bytes : List UInt8) : (bytesJson bytes).Plain :=
  Json.plain_map (fun b => Json.plain_ofNat (Nat.lt_trans b.toNat_lt (by decide))) bytes

namespace SecretBits

theorem ofBytes_eq_ok {bytes : List UInt8} {len : Nat} {s : SecretBits} :
    ofBytes bytes len = .ok s ↔ bytes = s.bytes ∧ len = s.len := by
  rw [ofBytes]
  constructor
  · intro h
    split at h
    · cases h
      exact ⟨rfl, rfl⟩
    · cases h
  · rintro ⟨rfl, rfl⟩
    exact dif_pos s.fits

/-- A secret is read just if its bytes and its length are, and the bytes hold that many bits. -/
theorem decoder_eq_ok {site : Json.Site} {j : Json} {s : SecretBits} :
    decoder site j = .ok s ↔ partsDecoder site j = .ok (s.bytes, s.len) := by
  rw [decoder, Json.Decoder.refine_eq_ok]
  simp only [Except.mapError_eq_ok, ofBytes_eq_ok]
  constructor
  · rintro ⟨⟨bytes, len⟩, read, rfl, rfl⟩
    exact read
  · intro read
    exact ⟨_, read, rfl, rfl⟩

theorem decode_eq_ok {text : String} {s : SecretBits} :
    Json.decode decoder text = .ok s ↔ Json.decode partsDecoder text = .ok (s.bytes, s.len) := by
  rw [Json.decode_eq_ok, Json.decode_eq_ok, decoder_eq_ok]

theorem plain_json {s : SecretBits} (small : s.len < 18446744073709551616) : s.json.Plain := by
  have distinct : ["bytes", "len"].Nodup := by decide
  refine .ofMembers distinct ?_
  simp only [List.forall_mem_cons]
  exact ⟨plain_bytesJson _, Json.plain_ofNat small, nofun⟩

theorem decodes_json {s : SecretBits} (small : s.len < 18446744073709551616) :
    Json.Decodes decoder s.json s := by
  intro site
  have different : "bytes" ≠ "len" := by decide
  have bytes := Json.decodes_list Json.decodes_uint8 s.bytes site.inner
  have len := Json.decodes_count small site.inner
  have sound := (plain_json small).sound
  rw [decoder_eq_ok]
  exact (Json.twoFields_eq_ok different sound (Json.inObjectForm_ofMembers _)).mpr
    ⟨_, _, ⟨_, rfl, bytes⟩, ⟨_, rfl, len⟩, rfl⟩

end SecretBits

namespace Envelope

theorem plain_json {e : Envelope} (small : e.secret.len < 18446744073709551616) : e.json.Plain := by
  have distinct : ["public_rpc", "secret"].Nodup := by decide
  refine .ofMembers distinct ?_
  simp only [List.forall_mem_cons]
  exact ⟨plain_bytesJson _, SecretBits.plain_json small, nofun⟩

theorem decodes_json {e : Envelope} (small : e.secret.len < 18446744073709551616) :
    Json.Decodes decoder e.json e := by
  intro site
  have different : "public_rpc" ≠ "secret" := by decide
  have publicHalf := Json.decodes_list Json.decodes_uint8 e.publicHalf site.inner
  have secret := SecretBits.decodes_json small site.inner
  have sound := (plain_json small).sound
  exact (Json.twoFields_eq_ok different sound (Json.inObjectForm_ofMembers _)).mpr
    ⟨_, _, ⟨_, rfl, publicHalf⟩, ⟨_, rfl, secret⟩, rfl⟩

end Envelope

/-- What is written of snapshots and envelopes is read as them. The digits of a payload may be small
or capital, with or without a mark, but come in pairs and are nothing but digits; and no text is
read as a secret that its bytes do not hold. -/
theorem wire_round_trip :
    (∀ r : Node.VariablesReply, Json.decode Node.VariablesReply.decoder r.json.compact = .ok r) ∧
    (∀ (v : Variable) (s : String) (bytes : List UInt8), v.payload = some bytes →
      Hex.Spells s bytes →
      Json.decode Variable.decoder (v.json.mapMember "payload" fun _ => .string s).compact =
        .ok v) ∧
    (∀ f, Variable.Respells f → ∀ (site : Json.Site) (j : Json),
      Variable.decoder site (j.mapMember "payload" f) = Variable.decoder site j) ∧
    (∀ text s, Variable.payload? (Json.read text).1 = some (.string s) →
      ((Hex.bare s.toList).length % 2 = 1 ∨ ∃ c ∈ Hex.bare s.toList, Hex.value? c = none) →
      ∀ v, Json.decode Variable.decoder text ≠ .ok v) ∧
    (∀ e : Envelope, e.secret.len < 18446744073709551616 →
      Json.decode Envelope.decoder e.json.compact = .ok e) ∧
    (∀ text s, Json.decode SecretBits.decoder text = .ok s ↔
      Json.decode SecretBits.partsDecoder text = .ok (s.bytes, s.len)) ∧
    ∀ text bytes len, Json.decode SecretBits.partsDecoder text = .ok (bytes, len) →
      8 * bytes.length < len → ∀ s, Json.decode SecretBits.decoder text ≠ .ok s := by
  refine ⟨?_, ?_, ?_, ?_, ?_, ?_, ?_⟩
  · intro r
    exact (r.decodes_json.text r.plain_json).1
  · intro v s bytes payload spelled
    have read := Json.decodes_optional (Variable.decodes_payload spelled) nofun
    rw [← payload] at read
    rw [v.mapMember_json]
    exact ((Variable.decodes_entries read).text (v.plain_entries (.string s))).1
  · intro f h
    exact Variable.decoder_respelled h
  · intro text s there flawed v read
    obtain ⟨bytes, -, spelled⟩ := Variable.spells_of_decoder (Json.decode_eq_ok.mp read).1 there
    obtain ⟨pairs, digits⟩ := spelled.digits
    rcases flawed with odd | ⟨c, inside, none⟩
    · omega
    · exact digits c inside none
  · intro e small
    exact ((Envelope.decodes_json small).text (Envelope.plain_json small)).1
  · intro text s
    exact SecretBits.decode_eq_ok
  · intro text bytes len parts long s read
    have same := parts.symm.trans (SecretBits.decode_eq_ok.mp read)
    cases same
    exact absurd s.fits (Nat.not_le_of_lt long)

theorem wire_round_trip_examples :
    let v : Variable := ⟨7, some ⟨"\"a\"\n"⟩, some [0xAB, 0x0C]⟩
    let odd := (v.json.mapMember "payload" fun _ => .string "abc").compact
    let e : Envelope := ⟨[0x40], .ofBits [true, false, true]⟩
    let long := "\x7b\"bytes\":[255],\"len\":9\x7d"
    Hex.Spells "0xAb0C" [0xAB, 0x0C] ∧
      Json.decode Variable.decoder (v.json.mapMember "payload" fun _ => .string "0xAb0C").compact =
        .ok v ∧
      (∀ v, Json.decode Variable.decoder odd ≠ .ok v) ∧
      e.secret.len < 18446744073709551616 ∧ Json.decode Envelope.decoder e.json.compact = .ok e ∧
      ∀ s, Json.decode SecretBits.decoder long ≠ .ok s := by
  intro v odd e long
  have spelled : Hex.Spells "0xAb0C" [0xAB, 0x0C] := ⟨['A', 'b', '0', 'C'], .inr rfl, by decide⟩
  have small : e.secret.len < 18446744073709551616 := by decide
  have there : Variable.payload? (Json.read odd).1 = some (.string "abc") := by
    have read : Json.read odd = _ := (v.plain_entries (.string "abc")).read_compact
    rw [read]
    rfl
  have parts : Json.decode SecretBits.partsDecoder long = .ok ([255], 9) := by decide +kernel
  obtain ⟨-, spellings, -, rejected, envelopes, -, short⟩ := wire_round_trip
  exact ⟨spelled, spellings v _ _ rfl spelled, rejected odd "abc" there (.inl (by decide)), small,
    envelopes e small, short long _ _ parts (by decide)⟩

end SealedTree
