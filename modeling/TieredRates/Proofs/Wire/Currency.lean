import TieredRates.Proofs.Currency
import TieredRates.Proofs.Json.Structure
import TieredRates.Wire.Currency

namespace TieredRates

open Json Reader

namespace Json.Reader

variable {c : CurrencyCode} {code : String} {ts rest : List Token}

theorem currency_text (h : CurrencyCode.parse code = .ok c) :
    currency (.text (some code) :: ts) = .ok (c, ts) := by
  rw [currency, andThen_of_ok (a := code) rfl, h]
  rfl

theorem currency_eq_ok (h : currency ts = .ok (c, rest)) :
    ∃ code, ts = .text (some code) :: rest ∧ CurrencyCode.parse code = .ok c := by
  obtain ⟨code, hcode, hparse⟩ := andThen_eq_ok h
  exact ⟨code, text_eq_ok hcode, mapError_eq_ok_iff.1 hparse⟩

theorem readWhole_text_eq_ok_iff {s json : String} :
    readWhole text json = .ok s ↔ tokens json.toList = [.text (some s)] := by
  constructor
  · intro h
    exact text_eq_ok (readWhole_eq_ok h)
  · intro h
    rw [readWhole, h]
    rfl

theorem readWhole_textChars (s : String) :
    readWhole text (String.ofList (textChars s)) = .ok s := by
  rw [readWhole_text_eq_ok_iff, String.toList_ofList, textChars, tokens_quoted,
    String.ofList_toList]

end Json.Reader

namespace CurrencyCode

variable {c : CurrencyCode} {s json : String}

theorem ofJson_of_text (h : readWhole Reader.text json = .ok s) :
    ofJson json = (parse s).mapError .domain := by
  rw [ofJson, readWhole, readWhole_text_eq_ok_iff.1 h, currency, andThen_of_ok (a := s) rfl]
  cases parse s <;> rfl

theorem ofJson_eq_ok_iff :
    ofJson json = .ok c ↔ ∃ s, readWhole Reader.text json = .ok s ∧ parse s = .ok c := by
  constructor
  · intro h
    obtain ⟨s, htokens, hparse⟩ := currency_eq_ok (readWhole_eq_ok h)
    exact ⟨s, readWhole_text_eq_ok_iff.2 htokens, hparse⟩
  · rintro ⟨s, hread, hparse⟩
    rw [ofJson_of_text hread, hparse]
    rfl

theorem ofJson_toJson (c : CurrencyCode) : ofJson c.toJson = .ok c :=
  ofJson_eq_ok_iff.2 ⟨c.text, readWhole_textChars c.text, parse_text c⟩

end CurrencyCode

end TieredRates
