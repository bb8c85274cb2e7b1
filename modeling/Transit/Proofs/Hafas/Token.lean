import Transit.Hafas.Token
import Transit.Proofs.Context

/-! Tokens of journey searches are read back from the contexts they were put into, and contexts from
their texts. -/
namespace Transit

namespace Hafas.JourneyToken

theorem plain_params (params : Params) (depth : Nat) (h : depth + 1 < Json.deepest) :
    (Json.list paramToJson params).isPlain depth = true := by
  apply Json.plain_list (Nat.lt_of_succ_lt h)
  intro p
  simp [paramToJson, Json.isPlain, Json.arePlain, h]

theorem plain_ref (ref : Option String) (depth : Nat) :
    Json.isPlain depth (Json.ofOption Json.str ref) = true := by
  cases ref <;> rfl

theorem plain_toJson (t : JourneyToken) : t.toJson.isPlain 0 = true := by
  rw [toJson, Json.isPlain]
  simp only [Json.fieldsPlain, plain_params t.params 1 (by decide), plain_ref]
  decide

theorem nullable_ref (ref : Option String) :
    Json.nullable Json.string? (Json.ofOption Json.str ref) = some ref := by
  cases ref <;> rfl

theorem params_toJson (params : Params) :
    Json.list? paramOfJson? (Json.list paramToJson params) = some params := by
  have hparam : ∀ p, paramOfJson? (paramToJson p) = some p := fun p => rfl
  exact Json.list_write hparam params

/-- The fields of a token, as they are read. -/
def fieldsOf (t : JourneyToken) : Json.Record :=
  ⟨false, [("params", Json.list paramToJson t.params),
    ("earlier_ref", Json.ofOption Json.str t.earlierRef),
    ("later_ref", Json.ofOption Json.str t.laterRef)]⟩

theorem ofJson_toJson (t : JourneyToken) : ofJson? t.toJson = some t := by
  have hrecord : t.toJson.record? ["params", "earlier_ref", "later_ref"] = some t.fieldsOf := rfl
  have hparams : t.fieldsOf.required "params" (Json.list? paramOfJson?) = some t.params :=
    params_toJson t.params
  have hearlier : t.fieldsOf.optional "earlier_ref" Json.string? = some t.earlierRef :=
    nullable_ref t.earlierRef
  have hlater : t.fieldsOf.optional "later_ref" Json.string? = some t.laterRef :=
    nullable_ref t.laterRef
  simp [ofJson?, hrecord, hparams, hearlier, hlater]

/-- A continuation finds the token in the context of its session, whatever window has been put
there. -/
theorem ofContext_of_token {t : JourneyToken} {c : TripsContext} (h : c.token = t.toContext.token) :
    ofContext c = .ok t := by
  rw [ofContext, h]
  exact ContextToken.decode_encode t.plain_toJson t.ofJson_toJson

/-- Nothing is lost in a context: its token is that of the search, whatever texts the search has for
parameters and references, and the context itself is found again in its text, whatever provider,
bytes and window it has. -/
theorem contexts_lose_nothing (t : JourneyToken) (c : TripsContext) :
    ofContext t.toContext = .ok t ∧
      (Json.ofText? c.toJson.compact).bind TripsContext.ofJson? = some c := by
  constructor
  · exact ofContext_of_token rfl
  · rw [Json.ofText_compact c.plain_toJson, Option.bind_some, c.ofJson_toJson]

end Hafas.JourneyToken

end Transit
