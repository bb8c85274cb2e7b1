import Transit.Line
import Transit.Proofs.Json.Fields

/-! Lines, their products and their badges are read back from their JSON. -/
namespace Transit

open Json (Blank given)
open Json.Record (required_given omissible_given defaulted_of_required)

theorem Product.ofJson_toJson (blank : Blank) (p : Product) :
    ofJsonWith? blank p.toJson = some p := by
  cases p <;> rfl

theorem Shape.ofJson_toJson (blank : Blank) (s : Shape) : ofJsonWith? blank s.toJson = some s := by
  cases s <;> rfl

namespace Style

def entries (s : Style) : List (String × Option Json) :=
  [("shape", some s.shape.toJson), ("background_color", some (.nat s.background.toNat)),
    ("foreground_color", some (.nat s.foreground.toNat)),
    ("border_color", s.border.map fun c => .nat c.toNat)]

theorem keys_nodup (s : Style) : (s.entries.map Prod.fst).Nodup := by
  change ["shape", "background_color", "foreground_color", "border_color"].Nodup
  decide

theorem toJson_eq (s : Style) : s.toJson = .obj (given s.entries) := by
  simp only [toJson, entries, given, Json.given_optional, List.append_nil, List.cons_append,
    List.nil_append]

theorem ofJson_toJson (blank : Blank) (s : Style) : ofJsonWith? blank s.toJson = some s := by
  have hkeys := s.keys_nodup
  have hshape := required_given hkeys "shape" (by simp [entries])
    (s.shape.ofJson_toJson blank)
  have hbackground := required_given hkeys "background_color" (by simp [entries])
    (Json.uint32_write s.background)
  have hforeground := required_given hkeys "foreground_color" (by simp [entries])
    (Json.uint32_write s.foreground)
  have hborder := omissible_given hkeys "border_color" s.border (by simp [entries])
    Json.uint32_write nofun
  simp [ofJsonWith?, toJson_eq, Json.record_given hkeys, defaulted_of_required hshape, hbackground,
    hforeground, hborder]

theorem plain_toJson (s : Style) {depth : Nat} (h : depth < Json.deepest) :
    s.toJson.isPlain depth = true := by
  rw [toJson_eq]
  refine Json.plain_given h (.field (Json.plain_str _) ?_)
  exact .field (Json.plain_uint32 _) (.field (Json.plain_uint32 _)
    (.optional Json.plain_uint32 .nil))

end Style

namespace Line

def entries (l : Line) : List (String × Option Json) :=
  [("id", l.id.map .str), ("network", l.network.map .str),
    ("product", l.product.map Product.toJson), ("label", l.label.map .str),
    ("name", l.name.map .str), ("style", l.style.map Style.toJson),
    ("message", l.message.map .str)]

theorem keys_nodup (l : Line) : (l.entries.map Prod.fst).Nodup := by
  change ["id", "network", "product", "label", "name", "style", "message"].Nodup
  decide

theorem toJson_eq (l : Line) : l.toJson = .obj (given l.entries) := by
  simp only [toJson, entries, given, Json.given_optional, List.append_assoc, List.append_nil]

theorem ofJson_toJson (blank : Blank) (l : Line) : ofJsonWith? blank l.toJson = some l := by
  have hkeys := l.keys_nodup
  have hid := omissible_given hkeys "id" l.id (by simp [entries]) Json.string_write nofun
  have hnetwork :=
    omissible_given hkeys "network" l.network (by simp [entries]) Json.string_write nofun
  have hproduct := omissible_given hkeys "product" l.product (by simp [entries])
    (Product.ofJson_toJson blank) nofun
  have hlabel := omissible_given hkeys "label" l.label (by simp [entries]) Json.string_write nofun
  have hname := omissible_given hkeys "name" l.name (by simp [entries]) Json.string_write nofun
  have hstyle := omissible_given hkeys "style" l.style (by simp [entries])
    (Style.ofJson_toJson blank) nofun
  have hmessage :=
    omissible_given hkeys "message" l.message (by simp [entries]) Json.string_write nofun
  simp [ofJsonWith?, toJson_eq, Json.record_given hkeys, hid, hnetwork, hproduct, hlabel, hname,
    hstyle, hmessage]

theorem plain_toJson (l : Line) {depth : Nat} (h : depth + 1 < Json.deepest) :
    l.toJson.isPlain depth = true := by
  have hproduct : ∀ p : Product, p.toJson.isPlain (depth + 1) = true :=
    fun p => Json.plain_str p.name
  rw [toJson_eq]
  refine Json.plain_given (by omega) (.optional Json.plain_str (.optional Json.plain_str ?_))
  refine .optional hproduct (.optional Json.plain_str (.optional Json.plain_str ?_))
  exact .optional (fun s => s.plain_toJson h) (.optional Json.plain_str .nil)

end Line

end Transit
