import Transit.Context
import Transit.Proofs.Instant.Text
import Transit.Proofs.Json.Record

/-! Contexts of trip sessions are read back from their JSON, and states from their tokens. -/
namespace Transit

theorem Instant.ofJson_toJson (t : Instant) : Instant.ofJson? t.toJson = some t := by
  rw [ofJson?, toJson, Json.string?, Option.bind_some, ofText_text]

theorem DepartureWindow.ofJson_toJson (w : DepartureWindow) : ofJson? w.toJson = some w := by
  let r : Json.Record := ⟨false, [("earliest", w.earliest.toJson), ("latest", w.latest.toJson)]⟩
  have hrecord : w.toJson.record? ["earliest", "latest"] = some r := rfl
  have hearliest : r.required "earliest" Instant.ofJson? = some w.earliest :=
    Json.Record.required_of_get rfl w.earliest.ofJson_toJson
  have hlatest : r.required "latest" Instant.ofJson? = some w.latest :=
    Json.Record.required_of_get rfl w.latest.ofJson_toJson
  simp [ofJson?, hrecord, hearliest, hlatest]

namespace ContextToken

theorem decode_encode {α : Type} {read : Json → Option α} {state : Json} {a : α}
    (h : state.isPlain 0 = true) (hread : read state = some a) :
    (encode state).decode read = .ok a := by
  rw [decode, encode, Json.ofBytes_compact h, Option.bind_some, hread]

theorem ofJson_toJson (t : ContextToken) : ofJson? t.toJson = some t := by
  rw [ofJson?, toJson, Json.list_write Json.uint8_write]
  rfl

theorem plain_toJson (t : ContextToken) (depth : Nat) (h : depth < Json.deepest) :
    t.toJson.isPlain depth = true := by
  apply Json.plain_list h
  intro b
  exact Json.fits_of_lt (Nat.lt_trans b.toNat_lt (by decide))

end ContextToken

namespace TripsContext

theorem plain_toJson (c : TripsContext) : c.toJson.isPlain 0 = true := by
  have htoken := c.token.plain_toJson 1 (by decide)
  rw [toJson, Json.isPlain]
  cases c.window with
  | none => simp [Json.optionalField, Json.isPlain, Json.fieldsPlain, htoken, Json.deepest]
  | some w =>
    simp [Json.optionalField, Json.isPlain, Json.fieldsPlain, htoken, Json.deepest,
      DepartureWindow.toJson, Instant.toJson]

/-- The fields of a context, as they are read. -/
def fieldsOf (c : TripsContext) : Json.Record :=
  ⟨false, [("provider", .str c.provider), ("can_query_earlier", .bool c.canQueryEarlier),
    ("can_query_later", .bool c.canQueryLater), ("token", c.token.toJson)] ++
    Json.optionalField "window" DepartureWindow.toJson c.window⟩

theorem ofJson_toJson (c : TripsContext) : ofJson? c.toJson = some c := by
  have hrecord : c.toJson.record?
      ["provider", "can_query_earlier", "can_query_later", "token", "window"] =
        some c.fieldsOf := by
    rw [toJson, fieldsOf]
    cases c.window <;> rfl
  have hprovider : c.fieldsOf.required "provider" Json.string? = some c.provider := rfl
  have hearlier : c.fieldsOf.required "can_query_earlier" Json.bool? = some c.canQueryEarlier := rfl
  have hlater : c.fieldsOf.required "can_query_later" Json.bool? = some c.canQueryLater := rfl
  have htoken : c.fieldsOf.required "token" ContextToken.ofJson? = some c.token :=
    Json.Record.required_of_get rfl c.token.ofJson_toJson
  have hget : c.fieldsOf.get? "window" = c.window.map DepartureWindow.toJson := by
    rw [fieldsOf]
    cases c.window <;> rfl
  have hnull : ∀ w : DepartureWindow, w.toJson ≠ .null := fun w hw => by cases hw
  have hwindow : c.fieldsOf.omissible "window" DepartureWindow.ofJson? = some c.window :=
    Json.Record.omissible_of_get hget DepartureWindow.ofJson_toJson hnull
  simp [ofJson?, hrecord, hprovider, hearlier, hlater, htoken, hwindow]

end TripsContext

end Transit
