import Transit.Text
import Transit.Url.Reader
/-! Triage of response bodies that are no data: pages that redirect, that tell of an expired
session, or that report an internal error. -/
namespace Transit

inductive ResponseClass
  | normal
  | redirect (url : Url)
  | sessionExpired
  | internalError
deriving DecidableEq

def ResponseClass.text : ResponseClass → String
  | .normal => "normal"
  | .redirect url => "redirect to " ++ url.text
  | .sessionExpired => "session expired"
  | .internalError => "internal error"

/-- The texts by which pages are known, up to the case of ASCII letters. -/
structure Triage where
  expiredMarkers : List String
  internalMarkers : List String

namespace Triage

def usualExpired : List String :=
  ["your session has expired", "session expired", "session is no longer valid",
    "connection id is no longer valid", "ihre verbindungskennung ist nicht mehr gültig",
    "verbindungskennung ist nicht mehr gültig", "die sitzung ist abgelaufen",
    "sitzung abgelaufen", "la session a expiré"]

def usualInternal : List String :=
  ["internal server error", "an internal error occurred", "interner fehler",
    "es ist ein interner fehler aufgetreten", "service temporarily unavailable",
    "<title>error</title>", "the server encountered an internal error", "erreur interne"]

def usual : Triage := ⟨usualExpired, usualInternal⟩

/-- The usual markers and further ones. -/
def withExtra (expired internal : List String) : Triage :=
  ⟨usualExpired ++ expired, usualInternal ++ internal⟩

def mentions (markers : List String) (body : List Char) : Bool :=
  markers.any fun m => Text.containsFold m.toList body

def isExpired (t : Triage) (body : List Char) : Bool := mentions t.expiredMarkers body

def isInternal (t : Triage) (body : List Char) : Bool := mentions t.internalMarkers body

def isTagEnd (c : Char) : Bool := c == '>'

def isQuote (c : Char) : Bool := c == '\'' || c == '"'

def metaMark : List Char := "<meta".toList

/-- The meta tags of a page, without their closing brackets. -/
def metaTags : List Char → List (List Char)
  | [] => []
  | c :: cs =>
    if Text.startsFold metaMark (c :: cs) then
      (c :: cs.takeWhile (!isTagEnd ·)) :: metaTags (cs.dropWhile (!isTagEnd ·))
    else metaTags cs
termination_by cs => cs.length
decreasing_by
  · exact Nat.lt_succ_of_le (List.dropWhile_sublist _).length_le
  · simp

/-- The value of an attribute, given what follows its name: within quotes, or up to a blank. -/
def attributeValue? (rest : List Char) : Option (List Char) :=
  match Text.splitAt? (· == '=') rest with
  | none => none
  | some (before, behind) =>
    if !before.all Text.isBlank then none
    else match Text.stripStart behind with
      | [] => none
      | c :: cs =>
        if isQuote c then (Text.splitAt? (· == c) cs).map Prod.fst
        else some ((c :: cs).takeWhile (!Text.isBlank ·))

/-- Without quotes at both ends. -/
def unquote (cs : List Char) : List Char := Text.dropEndWhile isQuote (cs.dropWhile isQuote)

/-- Where a meta tag sends the reader to, if it is a refresh with a target. -/
def refreshTarget? (tag : List Char) : Option (List Char) :=
  if Text.containsFold "http-equiv".toList tag && Text.containsFold "refresh".toList tag then
    match Text.afterFold? "content".toList tag with
    | none => none
    | some rest => match attributeValue? rest with
      | none => none
      | some value =>
        (Text.afterFold? "url=".toList value).map fun target => unquote (Text.strip target)
  else none

def metaTarget? (body : List Char) : Option (List Char) := (metaTags body).findSome? refreshTarget?

def scriptMarks : List (List Char) :=
  ["location.href", "location.replace", "location.assign", "window.location",
    "document.location"].map String.toList

/-- What is assigned or passed here: a quoted text behind an equals sign or a bracket. -/
def quotedTarget? (rest : List Char) : Option (List Char) :=
  match Text.stripStart rest with
  | c :: rest =>
    if c == '=' || c == '(' then
      match Text.stripStart rest with
      | quote :: cs =>
        if isQuote quote then (Text.splitAt? (· == quote) cs).map Prod.fst else none
      | [] => none
    else none
  | [] => none

/-- A mark of a script redirect ends where `before`, which is reversed, begins. -/
def endsMark (before : List Char) : Bool :=
  scriptMarks.any fun m => Text.startsFold m.reverse before

/-- The target at the first place behind a mark that has one. -/
def scriptTargetFrom? (before : List Char) : List Char → Option (List Char)
  | [] => if endsMark before then quotedTarget? [] else none
  | c :: cs =>
    match if endsMark before then quotedTarget? (c :: cs) else none with
    | some target => some target
    | none => scriptTargetFrom? (c :: before) cs

def scriptTarget? (body : List Char) : Option (List Char) := scriptTargetFrom? [] body

/-- The page that a body redirects to: by a meta tag, else by a script. -/
def redirect? (body : List Char) (requested : Url) : Option Url :=
  match metaTarget? body <|> scriptTarget? body with
  | none => none
  | some target =>
    let target := Text.replaceAll "&amp;".toList ['&'] (Text.strip target)
    if target.isEmpty then none else requested.join? (String.ofList target)

/-- A redirect comes before an expired session, and that before an internal error. -/
def classify (t : Triage) (body : String) (requested : Url) : ResponseClass :=
  let cs := body.toList
  match redirect? cs requested with
  | some url => .redirect url
  | none =>
    if t.isExpired cs then .sessionExpired
    else if t.isInternal cs then .internalError
    else .normal

def describe (t : Triage) : String :=
  "ResponseTriage \x7b session_expired_markers: " ++ toString t.expiredMarkers.length ++
    ", internal_error_markers: " ++ toString t.internalMarkers.length ++ " \x7d"

end Transit.Triage
