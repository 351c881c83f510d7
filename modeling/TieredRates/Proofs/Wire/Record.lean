import TieredRates.Proofs.Calendar.LooseTimestamp
import TieredRates.Proofs.Decimal.Text
import TieredRates.Proofs.Wire.Currency
import TieredRates.Wire.Record

namespace TieredRates.RateRecord

open Json Reader

section Written

def dayTokens (r : RateRecord) : List Token :=
  match r.observedOn with
  | some d => [.comma, .text (some "observed_on"), .colon, .text (some d.text), .closeBrace]
  | none => [.closeBrace]

def memberTokens (r : RateRecord) : List Token :=
  [.text (some "base_currency"), .colon, .text (some CurrencyCode.usd.text), .comma,
    .text (some "target_currency"), .colon, .text (some r.target.text), .comma,
    .text (some "rate"), .colon, .text (some r.rate.text), .comma,
    .text (some "captured_at"), .colon, .text (some r.capturedAt.text), .comma,
    .text (some "provider"), .colon, .text (some r.provider)] ++ r.dayTokens

theorem tokens_toJson (r : RateRecord) : tokens r.toJson.toList = .openBrace :: r.memberTokens := by
  rw [toJson, String.toList_ofList, jsonMembers, memberTokens, dayTokens]
  cases r.observedOn <;>
    simp only [objectChars, List.map_cons, List.map_nil, commaSeparated, List.cons_append,
      List.append_nil, List.nil_append, List.append_assoc, tokens_openBrace, tokens_textMember,
      tokens_comma, tokens_closeBrace]

def parts (r : RateRecord) : Parts where
  base := some CurrencyCode.usd.text
  target := some r.target
  rate := some r.rate
  capturedAt := some r.capturedAt
  provider := some r.provider
  observedOn := r.observedOn.map some

theorem date_text (d : Date) (ts : List Token) :
    optional date (.text (some d.text) :: ts) = .ok (some d, ts) := by
  have hdate : date (.text (some d.text) :: ts) = .ok (d, ts) := by
    rw [date, andThen_of_ok (a := d.text) rfl, Date.text, String.toList_ofList,
      Calendar.readLoose?_chars]
    rfl
  exact andThen_of_ok hdate _

theorem members_memberTokens (r : RateRecord) :
    members fields r.memberTokens {} r.memberTokens = .ok (r.parts, []) := by
  have hbase {ts : List Token} : member fields {}
      (.text (some "base_currency") :: .colon :: .text (some CurrencyCode.usd.text) :: ts) =
        .ok ({ base := some CurrencyCode.usd.text }, ts) :=
    member_of_read rfl rfl (read_of rfl)
  have htarget {ts : List Token} : member fields { base := some CurrencyCode.usd.text }
      (.text (some "target_currency") :: .colon :: .text (some r.target.text) :: ts) =
        .ok ({ base := some CurrencyCode.usd.text, target := some r.target }, ts) :=
    member_of_read rfl rfl (read_of (currency_text (CurrencyCode.parse_text r.target)))
  have hrate {ts : List Token} : member fields
      { base := some CurrencyCode.usd.text, target := some r.target }
      (.text (some "rate") :: .colon :: .text (some r.rate.text) :: ts) =
        .ok ({ r.parts with capturedAt := none, provider := none, observedOn := none }, ts) :=
    member_of_read rfl rfl (read_of (decimal_text r.rate_pos.ofText?_text))
  have htime {ts : List Token} : member fields
      { r.parts with capturedAt := none, provider := none, observedOn := none }
      (.text (some "captured_at") :: .colon :: .text (some r.capturedAt.text) :: ts) =
        .ok ({ r.parts with provider := none, observedOn := none }, ts) :=
    member_of_read rfl rfl (read_of (instant_text r.capturedAt.ofText?_text))
  have hprovider {ts : List Token} : member fields
      { r.parts with provider := none, observedOn := none }
      (.text (some "provider") :: .colon :: .text (some r.provider) :: ts) =
        .ok ({ r.parts with observedOn := none }, ts) :=
    member_of_read rfl rfl (read_of rfl)
  have hday {d : Date} {ts : List Token} : member fields { r.parts with observedOn := none }
      (.text (some "observed_on") :: .colon :: .text (some d.text) :: ts) =
        .ok ({ r.parts with observedOn := some (some d) }, ts) :=
    member_of_read rfl rfl (read_of (date_text d ts))
  rw [memberTokens, dayTokens]
  refine (members_of_comma hbase).trans ((members_of_comma htarget).trans
    ((members_of_comma hrate).trans ((members_of_comma htime).trans ?_)))
  cases h : r.observedOn with
  | none =>
    have hparts : { r.parts with observedOn := none } = r.parts := by rw [parts, h]; rfl
    exact hparts ▸ members_of_closeBrace hprovider
  | some d =>
    have hparts : { r.parts with observedOn := some (some d) } = r.parts := by rw [parts, h]; rfl
    exact (members_of_comma hprovider).trans (hparts ▸ members_of_closeBrace hday)

theorem assemble_eq_ok_iff {p : Parts} {r : RateRecord} : p.assemble = .ok r ↔
    p.target = some r.target ∧ p.rate = some r.rate ∧ p.capturedAt = some r.capturedAt ∧
      p.provider = some r.provider ∧ namesBase (p.base.getD CurrencyCode.usd.text) = true ∧
      p.observedOn.getD none = r.observedOn := by
  constructor
  · intro h
    obtain ⟨target, htarget, h₁⟩ := bind_eq_ok_iff.1 h
    obtain ⟨rate, hrate, h₂⟩ := bind_eq_ok_iff.1 h₁
    obtain ⟨capturedAt, htime, h₃⟩ := bind_eq_ok_iff.1 h₂
    obtain ⟨provider, hprovider, h₄⟩ := bind_eq_ok_iff.1 h₃
    simp only at h₄
    split at h₄
    · next hbase =>
      obtain ⟨made, hmake, hdated⟩ := bind_eq_ok_iff.1 h₄
      obtain rfl := Except.ok.inj hdated
      obtain ⟨rfl, rfl, rfl, rfl⟩ := make_eq_ok (mapError_eq_ok_iff.1 hmake)
      exact ⟨orMalformed_eq_ok htarget, orMalformed_eq_ok hrate, orMalformed_eq_ok htime,
        orMalformed_eq_ok hprovider, hbase, rfl⟩
    · nomatch h₄
  · rintro ⟨htarget, hrate, htime, hprovider, hbase, hday⟩
    rw [Parts.assemble, htarget, hrate, htime, hprovider]
    simp only [orMalformed, Except.bind, bind, hbase, if_true, r.make_self, Except.mapError, hday]
    rfl

theorem assemble_parts (r : RateRecord) : r.parts.assemble = .ok r := by
  have hbase : namesBase CurrencyCode.usd.text = true := by decide
  refine assemble_eq_ok_iff.2 ⟨rfl, rfl, rfl, rfl, hbase, ?_⟩
  rw [parts]
  cases r.observedOn <;> rfl

theorem ofJson_toJson (r : RateRecord) : ofJson r.toJson = .ok r := by
  have hmembers := r.members_memberTokens
  rw [ofJson, readWhole, tokens_toJson, memberTokens, reader]
  rw [memberTokens] at hmembers
  rw [List.cons_append] at hmembers ⊢
  rw [structured_of_members hmembers, assemble_parts]
  rfl

end Written

section Read

theorem shows_fields :
    Shows fields fields[0] text Parts.base ∧ Shows fields fields[1] currency Parts.target ∧
    Shows fields fields[2] decimal Parts.rate ∧ Shows fields fields[3] instant Parts.capturedAt ∧
    Shows fields fields[4] text Parts.provider ∧
    Shows fields fields[5] (optional date) Parts.observedOn := by
  refine ⟨shows_of (fun _ _ ↦ rfl) ?_, shows_of (fun _ _ ↦ rfl) ?_, shows_of (fun _ _ ↦ rfl) ?_,
    shows_of (fun _ _ ↦ rfl) ?_, shows_of (fun _ _ ↦ rfl) ?_, shows_of (fun _ _ ↦ rfl) ?_⟩
  all_goals
    simp only [fields, List.forall_mem_cons]
    refine ⟨?_, ?_, ?_, ?_, ?_, ?_, nofun⟩
  all_goals first
    | exact fun h ↦ absurd rfl h
    | exact fun _ ↦ keep_of fun _ _ ↦ rfl

theorem lawful_fields : Lawful fields {} where
  nodup := by decide
  scalar := by
    simp only [fields, List.forall_mem_cons]
    exact ⟨readsScalar_of readsScalar_text, readsScalar_of (readsScalar_text.andThen _),
      readsScalar_of readsScalar_decimal, readsScalar_of (readsScalar_text.andThen _),
      readsScalar_of readsScalar_text, readsScalar_of (readsScalar_text.andThen _).optional, nofun⟩
  unset := by
    simp only [fields, List.forall_mem_cons]
    exact ⟨rfl, rfl, rfl, rfl, rfl, rfl, nofun⟩
  shows := by
    obtain ⟨hbase, htarget, hrate, htime, hprovider, hday⟩ := shows_fields
    simp only [fields, List.forall_mem_cons]
    exact ⟨⟨_, _, _, hbase⟩, ⟨_, _, _, htarget⟩, ⟨_, _, _, hrate⟩, ⟨_, _, _, htime⟩,
      ⟨_, _, _, hprovider⟩, ⟨_, _, _, hday⟩, nofun⟩

/-- A text gives a record's field this value, in an object or in the field's place of an array. -/
def Spelled (s name : String) (value : List Token) : Prop :=
  Gives (fields.map (·.name)) (tokens s.toList) name value

variable {s : String} {r : RateRecord}

structure Supports (s : String) (r : RateRecord) : Prop where
  base : ∀ v, Spelled s "base_currency" v → ∃ base, v = [.text (some base)] ∧ namesBase base
  target : ∃ code, CurrencyCode.parse code = .ok r.target ∧
    ∀ v, Spelled s "target_currency" v ↔ v = [.text (some code)]
  rate : ∃ t, decimal [t] = .ok (r.rate, []) ∧ ∀ v, Spelled s "rate" v ↔ v = [t]

theorem supports_of_ofJson (h : ofJson s = .ok r) : Supports s r := by
  obtain ⟨p, hassemble, hgiven⟩ := exists_given lawful_fields h
  obtain ⟨htarget, hrate, -, -, hbase, -⟩ := assemble_eq_ok_iff.1 hassemble
  obtain ⟨hshowsBase, hshowsTarget, hshowsRate, -⟩ := shows_fields
  refine ⟨?_, ?_, ?_⟩
  · intro v hv
    rcases hgiven (List.getElem_mem _) hshowsBase with ⟨-, hnot⟩ | ⟨base, v', hget, hread, honly⟩
    · exact absurd hv (hnot v)
    · rw [hget] at hbase
      obtain rfl := (honly v).1 hv
      exact ⟨base, text_eq_ok hread, hbase⟩
  · rcases hgiven (List.getElem_mem _) hshowsTarget with ⟨hget, -⟩ | ⟨c, v, hget, hread, honly⟩
    · nomatch htarget.symm.trans hget
    · obtain rfl := Option.some.inj (hget.symm.trans htarget)
      obtain ⟨code, rfl, hparse⟩ := currency_eq_ok hread
      exact ⟨code, hparse, honly⟩
  · rcases hgiven (List.getElem_mem _) hshowsRate with ⟨hget, -⟩ | ⟨d, v, hget, hread, honly⟩
    · nomatch hrate.symm.trans hget
    · obtain rfl := Option.some.inj (hget.symm.trans hrate)
      obtain ⟨t, -, rfl, -⟩ := readsScalar_decimal _ _ _ hread
      exact ⟨t, hread, honly⟩

/-- Records are read back as they were written. From another text a record is read only if its base
currency, if it is spelled, is the one there is, and its other fields make a valid record, which is
read back in its turn. -/
theorem ofJson_valid :
    (∀ r : RateRecord, ofJson r.toJson = .ok r) ∧
    (∀ s r, ofJson s = .ok r → Supports s r ∧ r.target ≠ .usd ∧ r.rate.IsPositive ∧
      ofJson r.toJson = .ok r) ∧
    ∀ s, (∃ base, Spelled s "base_currency" [.text (some base)] ∧ ¬ namesBase base) ∨
        (∃ code, Spelled s "target_currency" [.text (some code)] ∧
          (CurrencyCode.parse code = .ok .usd ∨ ∀ c ∈ code.toList, Text.isBlank c)) ∨
        (∃ t d, Spelled s "rate" [t] ∧ decimal [t] = .ok (d, []) ∧ ¬ d.IsPositive) →
      ∃ fault, ofJson s = .error fault := by
  refine ⟨ofJson_toJson, ?_, ?_⟩
  · intro s r h
    exact ⟨supports_of_ofJson h, r.target_ne, r.rate_pos, r.ofJson_toJson⟩
  · intro s hbad
    cases h : ofJson s with
    | error fault => exact ⟨fault, rfl⟩
    | ok r =>
      exfalso
      have hs := supports_of_ofJson h
      rcases hbad with ⟨base, hspelled, hother⟩ | ⟨code, hspelled, husd⟩ |
        ⟨t, d, hspelled, hd, hneg⟩
      · obtain ⟨base', heq, hbase⟩ := hs.base _ hspelled
        simp only [List.cons.injEq, Token.text.injEq, Option.some.injEq, and_true] at heq
        exact hother (heq ▸ hbase)
      · obtain ⟨code', hparse, honly⟩ := hs.target
        have heq := (honly _).1 hspelled
        simp only [List.cons.injEq, Token.text.injEq, Option.some.injEq, and_true] at heq
        subst heq
        have husd : CurrencyCode.parse code = .ok .usd := husd.elim id CurrencyCode.parse_of_blank
        exact r.target_ne (Except.ok.inj (hparse.symm.trans husd))
      · obtain ⟨t', hrate, honly⟩ := hs.rate
        obtain rfl := (List.cons.inj ((honly _).1 hspelled)).1
        obtain ⟨rfl, -⟩ := Prod.mk.inj (Except.ok.inj (hd.symm.trans hrate))
        exact hneg r.rate_pos

def looseText : String :=
  "\x7b\"note\":[[],\x7b\"a\":1\x7d],\"rate\":1e3,\"target_currency\":\" krw\"," ++
    "\"provider\":\"x\",\"captured_at\":\"2026-2-18T9:30:0 +01:00\"," ++
    "\"base_currency\":\"uSd\"\x7d"

def euroText : String := "[\"EUR\",\"KRW\",\"1000\",\"2026-02-18T08:30:00Z\",\"x\"]"

theorem ofJson_valid_spellings :
    (∃ r, ofJson looseText = .ok r ∧ Supports looseText r ∧ ofJson r.toJson = .ok r) ∧
    Spelled euroText "base_currency" [.text (some "EUR")] ∧
    ∃ fault, ofJson euroText = .error fault := by
  have hloose : (ofJson looseText).toOption.isSome = true := by decide +kernel
  obtain ⟨r, hr⟩ := Option.isSome_iff_exists.1 hloose
  have hread := toOption_eq_some_iff.1 hr
  have htokens : tokens euroText.toList = arrayTokens [[.text (some "EUR")], [.text (some "KRW")],
      [.text (some "1000")], [.text (some "2026-02-18T08:30:00Z")], [.text (some "x")]] := by
    decide +kernel
  have heuro : Spelled euroText "base_currency" [.text (some "EUR")] := by
    refine ⟨_, .inr ⟨_, htokens, ?_, rfl⟩, List.mem_cons_self⟩
    simp only [List.forall_mem_cons]
    exact ⟨.scalar trivial, .scalar trivial, .scalar trivial, .scalar trivial, .scalar trivial,
      nofun⟩
  obtain ⟨hsupports, -, -, hagain⟩ := ofJson_valid.2.1 looseText r hread
  have hother : ¬ namesBase "EUR" := by decide
  exact ⟨⟨r, hread, hsupports, hagain⟩, heuro,
    ofJson_valid.2.2 euroText (.inl ⟨"EUR", heuro, hother⟩)⟩

end Read

end TieredRates.RateRecord
