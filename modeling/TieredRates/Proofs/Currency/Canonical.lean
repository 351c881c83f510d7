import TieredRates.Proofs.Cache.Laws
import TieredRates.Proofs.Store.Rows
import TieredRates.Proofs.Wire.Currency

namespace TieredRates.CurrencyCode

open Json

variable {c d : CurrencyCode} {s t form : String} {cs : List Char}

section Letters

theorem letter?_eq_some_iff {x : Char} {a : Letter} : letter? x = some a ↔ x = a.1 := by
  rw [letter?]
  split
  · rw [Option.some.injEq, Subtype.ext_iff]
  · next h =>
    refine iff_of_false (Option.some_ne_none a).symm ?_
    rintro rfl
    exact h a.2

theorem ofChars?_eq_some_iff : ofChars? cs = some c ↔ cs = c.chars := by
  constructor
  · intro h
    unfold ofChars? at h
    split at h
    · simp only [Option.bind_eq_bind, Option.bind_eq_some_iff, letter?_eq_some_iff, Option.pure_def,
        Option.some.injEq] at h
      obtain ⟨x, rfl, y, rfl, z, rfl, rfl⟩ := h
      rfl
    · nomatch h
  · rintro rfl
    exact ofChars?_chars c

theorem exists_chars_eq_iff :
    (∃ c : CurrencyCode, c.chars = cs) ↔ cs.length = 3 ∧ ∀ x ∈ cs, x.isUpper := by
  constructor
  · rintro ⟨c, rfl⟩
    exact ⟨rfl, fun x ↦ isUpper_of_mem_chars⟩
  · rintro ⟨hlength, hupper⟩
    obtain ⟨x, y, z, rfl⟩ := List.length_eq_three.1 hlength
    simp only [List.forall_mem_cons, Text.isUpper_iff_between] at hupper
    obtain ⟨hx, hy, hz, -⟩ := hupper
    exact ⟨⟨⟨x, hx⟩, ⟨y, hy⟩, ⟨z, hz⟩⟩, rfl⟩

end Letters

section Bytes

/-- Three bytes of UTF-8, each of them a capital letter of ASCII. -/
structure IsThreeCapitals (s : String) : Prop where
  size : s.toUTF8.size = 3
  capital : ∀ b ∈ s.toUTF8.data.toList, 'A'.toUInt8 ≤ b ∧ b ≤ 'Z'.toUInt8

theorem bytes_text (c : CurrencyCode) : c.text.toUTF8.data.toList = c.chars.map Char.toUInt8 := by
  refine Text.bytes_ofList fun x hx ↦ ?_
  obtain ⟨-, hhigh⟩ := Text.isUpper_iff.1 (isUpper_of_mem_chars hx)
  exact Nat.le_trans hhigh (by decide)

theorem bytes_inj : s.toUTF8.data.toList = t.toUTF8.data.toList ↔ s = t := by
  rw [Array.toList_inj, String.toUTF8_eq_toByteArray, String.toUTF8_eq_toByteArray,
    ← String.toByteArray_inj]
  exact ⟨ByteArray.ext, congrArg ByteArray.data⟩

theorem exists_text_eq_iff : (∃ c : CurrencyCode, c.text = s) ↔ IsThreeCapitals s := by
  constructor
  · rintro ⟨c, rfl⟩
    refine ⟨congrArg List.length c.bytes_text, fun b hb ↦ ?_⟩
    rw [bytes_text] at hb
    obtain ⟨x, hx, rfl⟩ := List.mem_map.1 hb
    obtain ⟨hlow, hhigh⟩ := Text.isUpper_iff.1 (isUpper_of_mem_chars hx)
    have hsame : x.toUInt8.toNat = x.toNat :=
      Nat.mod_eq_of_lt (Nat.lt_of_le_of_lt hhigh (by decide))
    rw [UInt8.le_iff_toNat_le, UInt8.le_iff_toNat_le, hsame]
    exact ⟨hlow, hhigh⟩
  · rintro ⟨hsize, hcapital⟩
    have hlength : s.toUTF8.data.toList.length = 3 := hsize
    obtain ⟨x, y, z, hbytes⟩ := List.length_eq_three.1 hlength
    rw [hbytes] at hcapital
    simp only [List.forall_mem_cons] at hcapital
    obtain ⟨hx, hy, hz, -⟩ := hcapital
    have hback (b : UInt8) : (Char.ofUInt8 b).toUInt8 = b := UInt8.toUInt8_toUInt32 b
    refine ⟨⟨⟨.ofUInt8 x, hx⟩, ⟨.ofUInt8 y, hy⟩, ⟨.ofUInt8 z, hz⟩⟩, bytes_inj.1 ?_⟩
    rw [bytes_text, hbytes]
    simp only [chars, List.map_cons, List.map_nil, hback]

end Bytes

section Canonical

def meant (cs : List Char) : List Char := if cs = [] then usd.chars else Text.upper cs

/-- The form that a text comes to without the white space at its ends. -/
def IsCanonical (s form : String) : Prop :=
  ∃ cs, Text.IsTrimmed s.toList cs ∧ form = String.ofList (meant cs)

def SameForm (s t : String) : Prop := ∃ form, IsCanonical s form ∧ IsCanonical t form

theorem IsCanonical.unique {form' : String} (h : IsCanonical s form) (h' : IsCanonical s form') :
    form = form' := by
  obtain ⟨cs, hcs, rfl⟩ := h
  obtain ⟨cs', hcs', rfl⟩ := h'
  obtain rfl : cs = cs' := hcs.trim_eq.symm.trans hcs'.trim_eq
  rfl

theorem exists_chars_eq_meant_iff : (∃ c : CurrencyCode, c.chars = meant cs) ↔
    cs = [] ∨ cs.length = 3 ∧ ∀ x ∈ cs, x.isAlpha := by
  by_cases hcs : cs = []
  · rw [meant, if_pos hcs]
    exact iff_of_true ⟨usd, rfl⟩ (.inl hcs)
  · rw [meant, if_neg hcs, or_iff_right hcs, exists_chars_eq_iff, Text.upper, List.length_map,
      List.forall_mem_map]
    simp only [Text.isUpper_toUpper_iff]

theorem ofText?_eq_some_iff : ofText? cs = some c ↔ c.chars = meant (Text.trim cs) := by
  rw [ofText?, meant]
  split
  · next h => rw [if_pos h, Option.some.injEq, chars_inj, eq_comm]
  · next h => rw [if_neg h, ofChars?_eq_some_iff, eq_comm]

theorem parse_eq_ok_iff_isCanonical : parse s = .ok c ↔ IsCanonical s c.text := by
  rw [parse_eq_ok_iff, parse?, ofText?_eq_some_iff, ← String.ofList_inj]
  constructor
  · intro h
    exact ⟨_, Text.isTrimmed_trim s.toList, h⟩
  · rintro ⟨cs, hcs, h⟩
    rwa [hcs.trim_eq]

theorem exists_parse_eq_ok_iff : (∃ c, parse s = .ok c) ↔
    ∃ cs, Text.IsTrimmed s.toList cs ∧ (cs = [] ∨ cs.length = 3 ∧ ∀ x ∈ cs, x.isAlpha) := by
  simp only [parse_eq_ok_iff_isCanonical, IsCanonical, text, String.ofList_inj,
    ← exists_chars_eq_meant_iff]
  constructor
  · rintro ⟨c, cs, hcs, hc⟩
    exact ⟨cs, hcs, c, hc⟩
  · rintro ⟨cs, hcs, c, hc⟩
    exact ⟨c, cs, hcs, hc⟩

theorem eq_iff_sameForm (hs : parse s = .ok c) (ht : parse t = .ok d) : c = d ↔ SameForm s t := by
  have hc := parse_eq_ok_iff_isCanonical.1 hs
  have hd := parse_eq_ok_iff_isCanonical.1 ht
  constructor
  · rintro rfl
    exact ⟨c.text, hc, hd⟩
  · rintro ⟨form, hform, hform'⟩
    exact text_inj.1 ((hc.unique hform).trans (hd.unique hform').symm)

end Canonical

/-- A text is read as a code just if nothing or three letters of ASCII are left of it without the
white space at its ends, and the text of a code is read as that code again, also from JSON. Two
spellings give one key just if they come to one form. -/
theorem parse_canonical :
    (∀ s, (∃ c, parse s = .ok c) ↔
      ∃ cs, Text.IsTrimmed s.toList cs ∧ (cs = [] ∨ cs.length = 3 ∧ ∀ x ∈ cs, x.isAlpha)) ∧
    (∀ s c, parse s = .ok c ↔ IsCanonical s c.text) ∧
    (∀ s, (∃ c : CurrencyCode, c.text = s) ↔ IsThreeCapitals s) ∧
    (∀ c : CurrencyCode, parse c.text = .ok c ∧ ofJson c.toJson = .ok c) ∧
    (∀ s, ofString s = parse s ∧
      ofJson (String.ofList (textChars s)) = (parse s).mapError .domain ∧
      ∀ json, readWhole Reader.text json = .ok s → ofJson json = (parse s).mapError .domain) ∧
    (∀ json c, ofJson json = .ok c ↔ ∃ s, readWhole Reader.text json = .ok s ∧ parse s = .ok c) ∧
    ∀ s t c d, parse s = .ok c → parse t = .ok d →
      (c.cacheKey = d.cacheKey ↔ SameForm s t) ∧ (RowKey.of c = RowKey.of d ↔ SameForm s t) ∧
      (c = d ↔ SameForm s t) := by
  refine ⟨fun s ↦ exists_parse_eq_ok_iff, fun s c ↦ parse_eq_ok_iff_isCanonical,
    fun s ↦ exists_text_eq_iff, fun c ↦ ⟨c.parse_text, c.ofJson_toJson⟩, ?_,
    fun json c ↦ ofJson_eq_ok_iff, ?_⟩
  · intro s
    exact ⟨rfl, ofJson_of_text (Reader.readWhole_textChars s), fun json ↦ ofJson_of_text⟩
  · intro s t c d hs ht
    have heq := eq_iff_sameForm hs ht
    exact ⟨cacheKey_inj.trans heq, RowKey.of_inj.trans heq, heq⟩

theorem parse_canonical_yen :
    parse "\u00a0jPy\u2003" = .ok Payload.yen ∧ parse "JPY\n" = .ok Payload.yen ∧
      SameForm "\u00a0jPy\u2003" "JPY\n" ∧
      readWhole Reader.text " \"j\\u0070Y\"" = .ok "jpY" ∧
      ofJson " \"j\\u0070Y\"" = (parse "jpY").mapError .domain := by
  have hspaced : parse "\u00a0jPy\u2003" = .ok Payload.yen := parse_eq_ok_iff.2 (by decide)
  have hended : parse "JPY\n" = .ok Payload.yen := parse_eq_ok_iff.2 (by decide)
  have hjson : readWhole Reader.text " \"j\\u0070Y\"" = .ok "jpY" :=
    Reader.readWhole_text_eq_ok_iff.2 (by decide +kernel)
  obtain ⟨-, -, -, -, hread, -, hkeys⟩ := parse_canonical
  obtain ⟨-, -, hsame⟩ := hkeys _ _ _ _ hspaced hended
  exact ⟨hspaced, hended, hsame.1 rfl, hjson, (hread "jpY").2.2 _ hjson⟩

end TieredRates.CurrencyCode
