import Transit.Url.Host
import Transit.Url.Path
/-! URLs: their parts, their text, adding to the path and to the query. -/
namespace Transit

/-- A path that starts with two slashes needs a mark in front of it when there is no authority;
`guarded` tells that the mark is there. -/
structure Url where
  scheme : String
  username : String
  password : String
  host : Option Url.Host
  port : Option Nat
  guarded : Bool
  path : Url.Path
  query : Option String
  fragment : Option String
deriving DecidableEq

namespace Url

def userInfoText (u : Url) : String :=
  if u.username.isEmpty && u.password.isEmpty then ""
  else u.username ++ (if u.password.isEmpty then "" else ":" ++ u.password) ++ "@"

/-- The text behind the scheme and before the path. -/
def authorityText (u : Url) : String :=
  match u.host with
  | some host =>
    "//" ++ u.userInfoText ++ host.text ++ (u.port.map fun p => ":" ++ toString p).getD ""
  | none => if isFile u.scheme then "//" else if u.guarded then "/." else ""

def text (u : Url) : String :=
  u.scheme ++ ":" ++ u.authorityText ++ u.path.text ++
    (u.query.map ("?" ++ ·)).getD "" ++ (u.fragment.map ("#" ++ ·)).getD ""

/-- The host, unless it is empty. -/
def hostText? (u : Url) : Option String :=
  (u.host.map Host.text).filter (!·.isEmpty)

/-- The URL with another path, given by its names. -/
def withNames (u : Url) (names : List String) : Url :=
  let guarded := match names with
    | "" :: _ :: _ => u.host.isNone
    | _ => false
  { u with guarded, path := .segments names }

/-- The URL with further segments in its path, if its path has segments at all. -/
def descend? (u : Url) (segments : List String) : Option Url :=
  match u.path with
  | .plain _ => none
  | .segments names =>
    some { u with
      path := .segments (segments.foldl (Path.push u.scheme) (Path.popIfEmpty names)) }

/-- A name or value of a form: letters, digits and four marks stand for themselves, a blank is
written as a plus sign. -/
def formChar (c : Char) : List Char :=
  if c.isAlphanum || c == '*' || c == '-' || c == '.' || c == '_' then [c]
  else if c == ' ' then ['+']
  else (Percent.bytes c).flatMap Percent.encodeByte

def formText (s : String) : List Char := s.toList.flatMap formChar

def formPairs : List (String × String) → List Char
  | [] => []
  | [(key, value)] => formText key ++ '=' :: formText value
  | (key, value) :: rest => formText key ++ '=' :: (formText value ++ '&' :: formPairs rest)

/-- The URL with parameters added behind those it has. -/
def withParams (u : Url) (params : List (String × String)) : Url :=
  let old := (u.query.getD "").toList
  let new := formPairs params
  let all := if old.isEmpty || new.isEmpty then old ++ new else old ++ '&' :: new
  { u with query := if all.isEmpty then none else some (String.ofList all) }

end Transit.Url
