import TieredRates.Json.Reader
import TieredRates.Proofs.Json.Text
import TieredRates.Proofs.Record

namespace TieredRates.Json

theorem tokens_textMember (name value : String) (s : List Char) :
    tokens (memberChars name (textChars value) ++ s) =
      .text (some name) :: .colon :: .text (some value) :: tokens s := by
  rw [memberChars, List.append_assoc, tokens_quotedChars, String.ofList_toList, List.cons_append,
    tokens_punctuation rfl rfl, textChars, tokens_quotedChars, String.ofList_toList]

theorem tokens_comma (s : List Char) : tokens (',' :: s) = .comma :: tokens s :=
  tokens_punctuation rfl rfl s

theorem tokens_closeBrace : tokens ['}'] = [.closeBrace] := by
  rw [tokens_punctuation rfl rfl, tokens]

theorem tokens_openBrace (s : List Char) : tokens ('{' :: s) = .openBrace :: tokens s :=
  tokens_punctuation rfl rfl s

namespace Reader

variable {α σ : Type} {reader : Reader α} {fields : List (FieldReader σ)} {f : FieldReader σ}
variable {s s' : σ} {name : String} {t : Token} {ts ts' bound : List Token}

theorem andThen_of_ok {β : Type} {a : α} (h : reader ts = .ok (a, ts')) (g : α → Except Fault β) :
    reader.andThen g ts = (g a).map fun b ↦ (b, ts') := by
  rw [andThen, h]

theorem decimal_text {d : Decimal} {text : String} (h : Decimal.ofText? text = some d) :
    decimal (.text (some text) :: ts) = .ok (d, ts) := by
  rw [decimal, h]
  rfl

theorem instant_text {u : Instant} {text : String} (h : Instant.ofText? text = some u) :
    instant (.text (some text) :: ts) = .ok (u, ts) := by
  rw [instant, andThen_of_ok (a := text) rfl, h]
  rfl

theorem read_of {a : α} {get : σ → Option α} {set : σ → α → σ} (h : reader ts = .ok (a, ts')) :
    (FieldReader.of name reader get set).read s ts = .ok (set s a, ts') :=
  andThen_of_ok h _

theorem member_of_read (hfind : fields.find? (·.name = name) = some f) (hset : f.isSet s = false)
    (hread : f.read s ts = .ok (s', ts')) :
    member fields s (.text (some name) :: .colon :: ts) = .ok (s', ts') := by
  refine bind_eq_ok_iff.2 ⟨(name, .colon :: ts), rfl, ?_⟩
  simp only [hfind, hset, Bool.false_eq_true, if_false]
  exact hread

theorem members_of_comma (h : member fields s ts = .ok (s', .comma :: ts')) :
    members fields (t :: bound) s ts = members fields bound s' ts' := by
  rw [members, h]
  rfl

theorem members_of_closeBrace (h : member fields s ts = .ok (s', .closeBrace :: ts')) :
    members fields (t :: bound) s ts = .ok (s', ts') := by
  rw [members, h]
  rfl

theorem structured_of_members {α : Type} {name? : Option String}
    (h : members fields (.text name? :: ts) s (.text name? :: ts) = .ok (s', ts'))
    (assemble : σ → Except Fault α) :
    structured fields s assemble (.openBrace :: .text name? :: ts) =
      (assemble s').map fun a ↦ (a, ts') :=
  andThen_of_ok h assemble

end Reader

end TieredRates.Json
