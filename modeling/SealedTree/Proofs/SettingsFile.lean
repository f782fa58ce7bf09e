import Mathlib.Data.List.Nodup
import SealedTree.Input
import SealedTree.Proofs.AddressText
import SealedTree.Proofs.Disk
import SealedTree.Proofs.Json.Decoding

/-!
Settings that are written to a file and read again. All of them come back but for the two factors
of the schedule, which come back as what is read of their digits.
-/

namespace SealedTree

namespace Json

/-- The second double is what is read of the first one's text. -/
def Rereads (x y : Float) : Prop := decode float (ofFloat x).pretty = .ok y

theorem rereads_iff {x y : Float} {site : Site} :
    Rereads x y ↔ float site (ofFloat x).reread = .ok y := by
  rw [Rereads, decode_pretty (writable_ofFloat x)]
  cases (ofFloat x).reread with
  | number n => cases n <;> rfl
  | _ => rfl

/-- A double without digits is not read back. -/
theorem Rereads.isFinite {x y : Float} (h : Rereads x y) : Decimal.isFinite x = true := by
  cases finite : Decimal.isFinite x with
  | true => rfl
  | false =>
      have null : ofFloat x = .null := if_neg (by rw [finite]; exact Bool.false_ne_true)
      rw [Rereads, null] at h
      exact nomatch h

end Json

namespace Schedule

/-- The fields of a schedule, with other documents for the factors. -/
def entries (s : Schedule) (pending error : Json) : List Json.Entry :=
  [⟨Json.openSlot "initial_delay_ms" Json.uint64, .ofNat s.initialDelayMs.toNat⟩,
   ⟨Json.openSlot "backoff_floor_ms" Json.uint64, .ofNat s.floorMs.toNat⟩,
   ⟨Json.openSlot "backoff_cap_ms" Json.uint64, .ofNat s.capMs.toNat⟩,
   ⟨Json.openSlot "pending_multiplier" Json.float, pending⟩,
   ⟨Json.openSlot "error_multiplier" Json.float, error⟩,
   ⟨Json.openSlot "max_jitter_ms" Json.uint64, .ofNat s.maxJitterMs.toNat⟩,
   ⟨Json.openSlot "max_retries" Json.uint32, .ofNat s.maxRetries.toNat⟩]

theorem json_eq (s : Schedule) :
    s.json = .ofMembers ((s.entries (.ofFloat s.pendingMultiplier)
      (.ofFloat s.errorMultiplier)).map Json.Entry.field) := rfl

theorem reread_json (s : Schedule) :
    s.json.reread = .ofMembers ((s.entries (Json.ofFloat s.pendingMultiplier).reread
      (Json.ofFloat s.errorMultiplier).reread).map Json.Entry.field) := by
  rw [json_eq, Json.reread_ofMembers]
  simp only [entries, List.map_cons, List.map_nil, Json.Entry.field,
    Json.reread_ofNat (UInt64.toNat_lt_size _), Json.reread_uint32]

theorem writable_json (s : Schedule) : s.json.Writable := by
  refine Json.writable_ofMembers ?_
  simp only [List.forall_mem_cons]
  exact ⟨trivial, trivial, trivial, Json.writable_ofFloat _, Json.writable_ofFloat _, trivial,
    trivial, nofun⟩

theorem check_entries (s : Schedule) (pending error : Json) (site : Json.Site) :
    Json.Entry.check site (s.entries pending error) = (do
      let _ ← Json.within (.name "pending_multiplier") (Json.float site.inner pending)
      let _ ← Json.within (.name "error_multiplier") (Json.float site.inner error)
      .ok ()) := by
  have uint64 (n : UInt64) := Json.decodes_uint64 n
  rw [entries, Json.Entry.check_cons_of_decodes (uint64 _) _ rfl,
    Json.Entry.check_cons_of_decodes (uint64 _) _ rfl,
    Json.Entry.check_cons_of_decodes (uint64 _) _ rfl, Json.Entry.check_cons _ rfl,
    Json.Entry.check_cons _ rfl, Json.Entry.check_cons_of_decodes (uint64 _) _ rfl,
    Json.Entry.check_cons_of_decodes (Json.decodes_uint32 _) _ rfl]
  rfl

theorem decoder_entries (s : Schedule) (pending error : Json) (site : Json.Site) :
    decoder site (.ofMembers ((s.entries pending error).map Json.Entry.field)) = (do
      let pendingMultiplier ←
        Json.within (.name "pending_multiplier") (Json.float site.inner pending)
      let errorMultiplier ← Json.within (.name "error_multiplier") (Json.float site.inner error)
      .ok { s with pendingMultiplier, errorMultiplier }) := by
  have distinct : Json.Entry.Distinct (s.entries pending error) := by
    simp [Json.Entry.Distinct, entries, Json.openSlot]
  have fields := Json.fields_entries "struct PollerConfig" site distinct
  rw [check_entries] at fields
  rw [decoder]
  change (Json.fields "struct PollerConfig" ((s.entries pending error).map Json.Entry.slot) site _
    >>= _) = _
  rw [fields]
  cases readPending : Json.float site.inner pending with
  | error failure => rfl
  | ok p =>
      cases readError : Json.float site.inner error with
      | error failure => rfl
      | ok e =>
          have uint64 (n : UInt64) := Json.decodes_uint64 n site.inner
          have uint32 (n : UInt32) := Json.decodes_uint32 n site.inner
          simp only [Json.within, Except.mapError, bind, Except.bind, Except.map]
          rw [Json.Fields.getOr_eq rfl, uint64, Json.Fields.getOr_eq rfl, uint64,
            Json.Fields.getOr_eq rfl, uint64, Json.Fields.getOr_eq rfl, readPending,
            Json.Fields.getOr_eq rfl, readError, Json.Fields.getOr_eq rfl, uint64,
            Json.Fields.getOr_eq rfl, uint32]

/-- The schedule with other factors. -/
def withMultipliers (s : Schedule) (pending error : Float) : Schedule :=
  { s with pendingMultiplier := pending, errorMultiplier := error }

theorem decoder_reread {s s' : Schedule} {site : Json.Site} :
    decoder site s.json.reread = .ok s' ↔ ∃ pending error,
      Json.Rereads s.pendingMultiplier pending ∧ Json.Rereads s.errorMultiplier error ∧
        s' = s.withMultipliers pending error := by
  rw [reread_json, decoder_entries]
  constructor
  · intro decoded
    obtain ⟨pending, readPending, decoded⟩ := Except.bind_eq_ok.mp decoded
    obtain ⟨error, readError, decoded⟩ := Except.bind_eq_ok.mp decoded
    rw [Json.within_eq_ok] at readPending readError
    exact ⟨pending, error, Json.rereads_iff.mpr readPending, Json.rereads_iff.mpr readError,
      (Except.ok.inj decoded).symm⟩
  · rintro ⟨pending, error, readPending, readError, rfl⟩
    rw [Json.rereads_iff.mp readPending, Json.rereads_iff.mp readError]
    rfl

end Schedule

namespace Settings

/-- The fields of the settings, with another document for the schedule. -/
def entries (c : Settings) (schedule : Json) : List Json.Entry :=
  [⟨Json.openSlot "node_url" Json.text, .string c.nodeUrl⟩,
   ⟨Json.openSlot "relay_url" Json.text, .string c.relayUrl⟩,
   ⟨Json.slot "contract" Address.decoder, c.contract.json⟩,
   ⟨Json.slot "receiver" Address.decoder, c.receiver.json⟩,
   ⟨Json.openSlot "model_id" SecretId.decoder, c.model.json⟩,
   ⟨Json.openSlot "sample_fee" Json.uint64, .ofNat c.sampleFee.toNat⟩,
   ⟨Json.openSlot "model_fee" Json.uint64, .ofNat c.modelFee.toNat⟩,
   ⟨Json.openSlot "scaling" (Json.list Json.uint16),
     .ofList (c.scaling.map fun n => .ofNat n.toNat)⟩,
   ⟨Json.openSlot "request_timeout_ms" Json.uint64, .ofNat c.requestTimeoutMs.toNat⟩,
   ⟨Json.openSlot "poller" Schedule.decoder, schedule⟩]

theorem json_eq (c : Settings) :
    c.json = .ofMembers ((c.entries c.schedule.json).map Json.Entry.field) := rfl

theorem reread_json (c : Settings) :
    c.json.reread = .ofMembers ((c.entries c.schedule.json.reread).map Json.Entry.field) := by
  rw [json_eq, Json.reread_ofMembers]
  have id : c.model.json.reread = c.model.json := Json.reread_uint32 c.model.raw
  have scaling : (c.scaling.map fun n => Json.ofNat n.toNat).map Json.reread =
      c.scaling.map fun n => Json.ofNat n.toNat := by
    rw [List.map_map]
    exact List.map_congr_left fun n _ => Json.reread_uint16 n
  simp only [entries, List.map_cons, List.map_nil, Json.Entry.field,
    Json.reread_ofNat (UInt64.toNat_lt_size _), Json.reread_ofList, id, scaling, Address.json,
    Json.reread]

theorem decodes_id (id : SecretId) : Json.Decodes SecretId.decoder id.json id :=
  (Json.decodes_uint32 id.raw).map SecretId.mk

theorem decodes_address (a : Address) : Json.Decodes Address.decoder a.json a :=
  (Json.decodes_text a.hex).refine (by rw [Address.parse_hex]; rfl)

theorem check_entries (c : Settings) (schedule : Json) (site : Json.Site) :
    Json.Entry.check site (c.entries schedule) = (do
      let _ ← Json.within (.name "poller") (Schedule.decoder site.inner schedule)
      .ok ()) := by
  rw [entries, Json.Entry.check_cons_of_decodes (Json.decodes_text _) _ rfl,
    Json.Entry.check_cons_of_decodes (Json.decodes_text _) _ rfl,
    Json.Entry.check_cons_of_decodes (decodes_address _) _ rfl,
    Json.Entry.check_cons_of_decodes (decodes_address _) _ rfl,
    Json.Entry.check_cons_of_decodes (decodes_id _) _ rfl,
    Json.Entry.check_cons_of_decodes (Json.decodes_uint64 _) _ rfl,
    Json.Entry.check_cons_of_decodes (Json.decodes_uint64 _) _ rfl,
    Json.Entry.check_cons_of_decodes (Json.decodes_list Json.decodes_uint16 _) _ rfl,
    Json.Entry.check_cons_of_decodes (Json.decodes_uint64 _) _ rfl, Json.Entry.check_cons _ rfl]
  rfl

theorem decoder_entries (c : Settings) (schedule : Json) (site : Json.Site) :
    decoder site (.ofMembers ((c.entries schedule).map Json.Entry.field)) = (do
      let schedule ← Json.within (.name "poller") (Schedule.decoder site.inner schedule)
      .ok { c with schedule }) := by
  have distinct : Json.Entry.Distinct (c.entries schedule) := by
    simp [Json.Entry.Distinct, entries, Json.openSlot, Json.slot]
  have fields := Json.fields_entries "struct ClientConfig" site distinct
  rw [check_entries] at fields
  rw [decoder]
  change (Json.fields "struct ClientConfig" ((c.entries schedule).map Json.Entry.slot) site _
    >>= _) = _
  rw [fields]
  cases read : Schedule.decoder site.inner schedule with
  | error failure => rfl
  | ok s =>
      have text (s : String) := Json.decodes_text s site.inner
      have uint64 (n : UInt64) := Json.decodes_uint64 n site.inner
      have address (a : Address) := decodes_address a site.inner
      have id (id : SecretId) := decodes_id id site.inner
      have list (l : List UInt16) := Json.decodes_list Json.decodes_uint16 l site.inner
      simp only [Json.within, Except.mapError, bind, Except.bind, Except.map]
      rw [Json.Fields.getOr_eq rfl, text, Json.Fields.getOr_eq rfl, text,
        Json.Fields.get_eq rfl, address, Json.Fields.get_eq rfl, address,
        Json.Fields.getOr_eq rfl, id, Json.Fields.getOr_eq rfl, uint64,
        Json.Fields.getOr_eq rfl, uint64, Json.Fields.getOr_eq rfl, list,
        Json.Fields.getOr_eq rfl, uint64, Json.Fields.getOr_eq rfl, read]

theorem writable_json (c : Settings) : c.json.Writable := by
  have scaling : ∀ j ∈ c.scaling.map fun n => Json.ofNat n.toNat, j.Writable := by
    intro j inside
    obtain ⟨n, -, rfl⟩ := List.mem_map.mp inside
    exact Json.writable_ofNat n.toNat
  rw [json]
  refine Json.writable_ofMembers ?_
  simp only [List.forall_mem_cons, Json.writable_ofList scaling, c.schedule.writable_json]
  exact ⟨trivial, trivial, trivial, trivial, trivial, trivial, trivial, trivial, trivial, trivial,
    nofun⟩

/-- The settings with other factors in their schedule. -/
def withMultipliers (c : Settings) (pending error : Float) : Settings :=
  { c with schedule := c.schedule.withMultipliers pending error }

theorem withMultipliers_eq_self {c : Settings} {pending error : Float} :
    c = c.withMultipliers pending error ↔
      c.schedule.pendingMultiplier = pending ∧ c.schedule.errorMultiplier = error := by
  constructor
  · intro same
    exact ⟨congrArg (·.schedule.pendingMultiplier) same, congrArg (·.schedule.errorMultiplier) same⟩
  · rintro ⟨rfl, rfl⟩
    rfl

theorem decode_toText {c c' : Settings} :
    Json.decode decoder c.toText = .ok c' ↔ ∃ pending error,
      Json.Rereads c.schedule.pendingMultiplier pending ∧
        Json.Rereads c.schedule.errorMultiplier error ∧ c' = c.withMultipliers pending error := by
  rw [toText, Json.decode_pretty c.writable_json, reread_json, decoder_entries]
  constructor
  · intro decoded
    obtain ⟨schedule, read, made⟩ := Except.bind_eq_ok.mp decoded
    rw [Json.within_eq_ok, Schedule.decoder_reread] at read
    obtain ⟨pending, error, readPending, readError, rfl⟩ := read
    exact ⟨pending, error, readPending, readError, (Except.ok.inj made).symm⟩
  · rintro ⟨pending, error, readPending, readError, rfl⟩
    rw [Schedule.decoder_reread.mpr ⟨pending, error, readPending, readError, rfl⟩]
    rfl

theorem ofText_eq_ok {text : String} {c : Settings} :
    ofText text = .ok c ↔ Json.decode decoder text = .ok c ∧ c.validate = .ok () := by
  rw [ofText]
  constructor
  · intro accepted
    obtain ⟨read, decoded, rest⟩ := Except.bind_eq_ok.mp accepted
    obtain ⟨_, valid, same⟩ := Except.bind_eq_ok.mp rest
    cases same
    exact ⟨Except.mapError_eq_ok.mp decoded, Except.mapError_eq_ok.mp valid⟩
  · rintro ⟨decoded, valid⟩
    rw [decoded]
    exact Except.bind_eq_ok.mpr ⟨c, rfl, by rw [valid]; rfl⟩

theorem load_of_save {c : Settings} {d d' : Disk} {path : String} (saved : c.save d path = .ok d') :
    load d' path = ofText c.toText := by
  rw [save] at saved
  rw [load, Disk.read_of_write saved]
  simp only [Except.mapError, bind, Except.bind, ofFile, fileText_toUTF8]

/-- What is loaded are the saved settings with the factors that are read of the text of the saved
ones: the very settings just if both factors are read back, and none if one has no digits. -/
theorem load_saved {c : Settings} (valid : c.validate = .ok ()) {d d' : Disk} {path : String}
    (saved : c.save d path = .ok d') :
    (load d' path = .ok c ↔ Json.Rereads c.schedule.pendingMultiplier c.schedule.pendingMultiplier ∧
      Json.Rereads c.schedule.errorMultiplier c.schedule.errorMultiplier) ∧
    ∀ c', load d' path = .ok c' → c'.validate = .ok () ∧
      Decimal.isFinite c.schedule.pendingMultiplier = true ∧
      Decimal.isFinite c.schedule.errorMultiplier = true ∧ ∃ pending error,
        Json.Rereads c.schedule.pendingMultiplier pending ∧
          Json.Rereads c.schedule.errorMultiplier error ∧ c' = c.withMultipliers pending error := by
  rw [load_of_save saved]
  simp only [ofText_eq_ok, decode_toText]
  refine ⟨⟨?_, ?_⟩, ?_⟩
  · rintro ⟨⟨pending, error, readPending, readError, same⟩, -⟩
    obtain ⟨rfl, rfl⟩ := withMultipliers_eq_self.mp same
    exact ⟨readPending, readError⟩
  · rintro ⟨readPending, readError⟩
    exact ⟨⟨_, _, readPending, readError, rfl⟩, valid⟩
  · rintro c' ⟨⟨pending, error, readPending, readError, same⟩, accepted⟩
    exact ⟨accepted, readPending.isFinite, readError.isFinite, pending, error, readPending,
      readError, same⟩

theorem load_saved_usual :
    let c : Settings := {}
    let d : Disk := ⟨[]⟩
    let d' := d.put ["client.json"] c.toText.toUTF8
    c.validate = .ok () ∧ c.save d "client.json" = .ok d' ∧ load d' "client.json" = .ok c := by
  intro c d d'
  have valid : c.validate = .ok () := by decide +kernel
  have reached : d.target "client.json" = .ok ["client.json"] := rfl
  have saved : c.save d "client.json" = .ok d' := by
    rw [save, Disk.write, reached]
    rfl
  have pending : Json.Rereads 1.5 1.5 := by
    rw [Json.Rereads]
    decide +kernel
  have error : Json.Rereads 2.0 2.0 := by
    rw [Json.Rereads]
    decide +kernel
  exact ⟨valid, saved, (load_saved valid saved).1.mpr ⟨pending, error⟩⟩

/-- A factor may also be read as its neighbour. -/
example : Json.Rereads 1.0559364606395363 1.0559364606395365 := by
  rw [Json.Rereads]
  decide +kernel

/-- A factor without bound contradicts nothing, and is not read back. -/
theorem boundless_factor_lost :
    let c : Settings := { schedule := { errorMultiplier := 1.0 / 0.0 } }
    let d : Disk := ⟨[]⟩
    let d' := d.put ["client.json"] c.toText.toUTF8
    c.validate = .ok () ∧ c.save d "client.json" = .ok d' ∧
      ∀ c', load d' "client.json" ≠ .ok c' := by
  intro c d d'
  have valid : c.validate = .ok () := by decide +kernel
  have reached : d.target "client.json" = .ok ["client.json"] := rfl
  have saved : c.save d "client.json" = .ok d' := by
    rw [save, Disk.write, reached]
    rfl
  refine ⟨valid, saved, fun c' loaded => ?_⟩
  rw [load_of_save saved, ofText_eq_ok, decode_toText] at loaded
  obtain ⟨⟨pending, error, -, readError, -⟩, -⟩ := loaded
  have infinite : Decimal.isFinite (1.0 / 0.0) = false := rfl
  exact Bool.false_ne_true (infinite.symm.trans readError.isFinite)

end Settings

end SealedTree
