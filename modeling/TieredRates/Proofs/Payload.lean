import TieredRates.Cache.Remote
import TieredRates.Proofs.Calendar.LooseTimestamp
import TieredRates.Proofs.Decimal.Text
import TieredRates.Proofs.Json.Object

namespace TieredRates

open Json Reader

namespace Payload

def ofRecord (r : RateRecord) : Payload := ⟨r.rate, r.capturedAt, r.provider⟩

def memberTokens (r : RateRecord) : List Token :=
  [.text (some "rate"), .colon, .text (some r.rate.text), .comma,
    .text (some "captured_at"), .colon, .text (some r.capturedAt.text), .comma,
    .text (some "provider"), .colon, .text (some r.provider), .closeBrace]

theorem tokens_encode (r : RateRecord) :
    tokens (encode r).toList = .openBrace :: memberTokens r := by
  simp only [encode, String.toList_ofList, objectChars, List.map_cons, List.map_nil,
    commaSeparated, List.cons_append, List.append_assoc, tokens_openBrace, tokens_textMember,
    tokens_comma, tokens_closeBrace, memberTokens]

theorem readWhole_encode (r : RateRecord) :
    readWhole reader (encode r) = .ok (ofRecord r) := by
  have hrate {ts : List Token} : member fields {}
      (.text (some "rate") :: .colon :: .text (some r.rate.text) :: ts) =
        .ok ({ rate := some r.rate }, ts) :=
    member_of_read rfl rfl (read_of (decimal_text r.rate_pos.ofText?_text))
  have htime {ts : List Token} : member fields { rate := some r.rate }
      (.text (some "captured_at") :: .colon :: .text (some r.capturedAt.text) :: ts) =
        .ok ({ rate := some r.rate, capturedAt := some r.capturedAt }, ts) :=
    member_of_read rfl rfl (read_of (instant_text r.capturedAt.ofText?_text))
  have hprovider {ts : List Token} :
      member fields { rate := some r.rate, capturedAt := some r.capturedAt }
        (.text (some "provider") :: .colon :: .text (some r.provider) :: ts) =
          .ok ({ rate := some r.rate, capturedAt := some r.capturedAt,
                 provider := some r.provider }, ts) :=
    member_of_read rfl rfl (read_of rfl)
  have hmembers : members fields (memberTokens r) {} (memberTokens r) =
      .ok ({ rate := some r.rate, capturedAt := some r.capturedAt, provider := some r.provider },
        []) :=
    (members_of_comma hrate).trans
      ((members_of_comma htime).trans (members_of_closeBrace hprovider))
  rw [readWhole, tokens_encode, memberTokens, reader, structured_of_members hmembers]
  rfl

variable {c : CurrencyCode} {raw : String} {r : RateRecord}

theorem decode_eq_ok_iff : decode c raw = .ok r ↔
    readWhole reader raw = .ok (ofRecord r) ∧ r.target = c ∧ r.observedOn = none := by
  rw [decode, bind_eq_ok_iff]
  constructor
  · rintro ⟨q, hq, hmake⟩
    have hmake := mapError_eq_ok_iff.1 hmake
    obtain ⟨rfl, htime, hprovider, hrate⟩ := RateRecord.make_eq_ok hmake
    have hof : ofRecord r = q := by rw [ofRecord, hrate, htime, hprovider]
    exact ⟨hof ▸ hq, rfl, congrArg RateRecord.observedOn (RateRecord.undated_of_make hmake).symm⟩
  · rintro ⟨hread, rfl, hday⟩
    have hundated : r.undated = r := by
      rw [RateRecord.undated, RateRecord.withObservedOn, ← hday]
    refine ⟨ofRecord r, hread, mapError_eq_ok_iff.2 ?_⟩
    exact r.make_self.trans (congrArg Except.ok hundated)

theorem decode_encode (r : RateRecord) : decode r.target (encode r) = .ok r.undated :=
  decode_eq_ok_iff.2 ⟨readWhole_encode r, rfl, rfl⟩

/-- A record is read back as it was, undated. A text that is kept for a currency is one of a valid
record, which its own payload gives again, or else the cache has a faulty payload. -/
theorem decode_valid :
    (∀ r, decode r.target (encode r) = .ok r.undated) ∧
    ∀ c raw,
      (∃ r, decode c raw = .ok r ∧ readWhole reader raw = .ok (ofRecord r) ∧
        c ≠ .usd ∧ r.target = c ∧ r.rate.IsPositive ∧ r.observedOn = none ∧
        decode c (encode r) = .ok r) ∨
      ∃ fault, decode c raw = .error fault ∧ ∀ (k : RemoteCache) (now : Instant),
        KeyValueServer.value? k.server now c.cacheKey = some raw →
          k.get now c = .error (.payload fault) := by
  refine ⟨decode_encode, ?_⟩
  intro c raw
  cases h : decode c raw with
  | ok r =>
    obtain ⟨hread, rfl, hday⟩ := decode_eq_ok_iff.1 h
    have hagain : decode r.target (encode r) = .ok r :=
      decode_eq_ok_iff.2 ⟨readWhole_encode r, rfl, hday⟩
    exact .inl ⟨r, rfl, hread, r.target_ne, rfl, r.rate_pos, hday, hagain⟩
  | error fault =>
    refine .inr ⟨fault, rfl, ?_⟩
    intro k now hvalue
    rw [RemoteCache.get, hvalue]
    simp only [h]

def yen : CurrencyCode := ⟨⟨'J', by decide⟩, ⟨'P', by decide⟩, ⟨'Y', by decide⟩⟩

def zeroPayload : String :=
  "\x7b\"rate\":0,\"captured_at\":\"2026-02-18T00:00:00Z\",\"provider\":\"x\"\x7d"

def zeroCache : RemoteCache where
  server := KeyValueServer.set ∅ yen.cacheKey zeroPayload
  seconds := 60
  commands := []

def loosePayload : String :=
  " \x7b\"provider\":\"x\",\"note\":[1],\"captured_at\":\"2026-02-18 10:30:00 +01:00\"," ++
    "\"rate\":\"1_000.50\"\x7d"

theorem decode_valid_yen :
    KeyValueServer.value? zeroCache.server default yen.cacheKey = some zeroPayload ∧
      (∃ fault, zeroCache.get default yen = .error (.payload fault)) ∧
      ∃ r, decode yen loosePayload = .ok r ∧ r.target = yen ∧ r.rate.IsPositive ∧
        decode yen (encode r) = .ok r := by
  have hvalue : KeyValueServer.value? zeroCache.server default yen.cacheKey = some zeroPayload := by
    decide +kernel
  have hfaulty : (decode yen zeroPayload).toOption = none := by decide +kernel
  have hloose : (decode yen loosePayload).toOption.isSome := by decide +kernel
  refine ⟨hvalue, ?_, ?_⟩
  · rcases decode_valid.2 yen zeroPayload with ⟨r, hr, -⟩ | ⟨fault, -, hget⟩
    · rw [hr] at hfaulty
      exact absurd hfaulty (by simp [Except.toOption])
    · exact ⟨fault, hget zeroCache default hvalue⟩
  · rcases decode_valid.2 yen loosePayload with ⟨r, hr, -, -, htarget, hpos, -, hagain⟩ | ⟨_, he, -⟩
    · exact ⟨r, hr, htarget, hpos, hagain⟩
    · rw [he] at hloose
      exact absurd hloose (by simp [Except.toOption])

end Payload

end TieredRates
