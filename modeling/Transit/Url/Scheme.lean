/-! Schemes of URLs and what depends on them. -/
namespace Transit.Url

/-- Schemes with a network protocol, which always have a host and a path, and their usual ports. -/
def usualPort? : String → Option Nat
  | "http" | "ws" => some 80
  | "https" | "wss" => some 443
  | "ftp" => some 21
  | _ => none

def isFile (scheme : String) : Bool := scheme == "file"

def isSpecial (scheme : String) : Bool := (usualPort? scheme).isSome || isFile scheme

/-- A slash of either kind. -/
def isAnySlash (c : Char) : Bool := c == '/' || c == '\\'

/-- Only special schemes take a backslash for a slash. -/
def isSlash (special : Bool) (c : Char) : Bool := c == '/' || (special && c == '\\')

/-- What ends an authority. -/
def isDelimiter (special : Bool) (c : Char) : Bool := isSlash special c || c == '?' || c == '#'

end Transit.Url
