import Transit.Text
import Transit.Url
/-! Reading URLs, absolute ones and references to a base. -/
namespace Transit.Url

def isBreak (c : Char) : Bool := c == '\t' || c == '\n' || c == '\r'

/-- A letter and a colon end here, with a slash or a colon before them; the text is reversed. -/
def endsDrive : List Char → Bool
  | ':' :: c :: before :: _ => c.isAlpha && (isAnySlash before || before == ':')
  | _ => false

/-- Something of the same segment follows. -/
def goesOn : List Char → Bool
  | c :: _ => !isBreak c && !isDelimiter true c
  | [] => false

/-- Without tabs and ends of line. Only what may be the drive of a file keeps a tab behind it, if the
segment goes on; `before` is the text in front, reversed. -/
def dropBreaks (before : List Char) : List Char → List Char
  | [] => []
  | c :: cs =>
    if !isBreak c then c :: dropBreaks (c :: before) cs
    else if endsDrive before && goesOn cs then '\t' :: dropBreaks before cs
    else dropBreaks before cs

/-- Without control characters and blanks at both ends, and without breaks. -/
def clean (cs : List Char) : List Char :=
  let isEdge (c : Char) := c.toNat ≤ 0x20
  dropBreaks [] (Text.dropEndWhile isEdge (cs.dropWhile isEdge))

def dropTabs (cs : List Char) : List Char := cs.filter (· != '\t')

def isSchemeChar (c : Char) : Bool := c.isAlphanum || c == '+' || c == '-' || c == '.'

/-- A scheme in lower case, and the text behind its colon. -/
def scheme? (cs : List Char) : Option (String × List Char) :=
  match cs.span isSchemeChar with
  | (c :: name, ':' :: rest) =>
    if c.isAlpha then some (String.ofList ((c :: name).map Char.toLower), rest) else none
  | _ => none

/-- What the query and the fragment are, behind the path. -/
structure Tail where
  query : Option String
  fragment : Option String

def tail (special : Bool) (cs : List Char) : Tail :=
  let (query, fragment) := (dropTabs cs).span (· != '#')
  let reserved := if special then Percent.inSpecialQuery else Percent.inQuery
  { query := match query with
      | '?' :: q => some (String.ofList (Percent.encode reserved q))
      | _ => none
    fragment := match fragment with
      | '#' :: f => some (String.ofList (Percent.encode Percent.inFragment f))
      | _ => none }

/-- Splits at query and fragment. -/
def spanPath (cs : List Char) : List Char × List Char := cs.span fun c => c != '?' && c != '#'

/-- The URL with the query and the fragment that are read. -/
def withTail (u : Url) (cs : List Char) : Url :=
  let ends := tail (isSpecial u.scheme) cs
  { u with query := ends.query, fragment := ends.fragment }

def withFragment (u : Url) (cs : List Char) : Url :=
  { u with fragment := (tail (isSpecial u.scheme) cs).fragment }

/-- The URL with the path behind the given names, the query and the fragment that are read. -/
def continued (u : Url) (names : List String) (cs : List Char) : Url :=
  let (path, behind) := spanPath cs
  (u.withNames (Path.trimFront u.scheme (Path.walk u.scheme names path))).withTail behind

/-- The text before and behind the last at sign. -/
def splitUser (cs : List Char) : Option (List Char × List Char) :=
  match cs.reverse.span (· != '@') with
  | (behind, _ :: before) => some (before.reverse, behind.reverse)
  | (_, []) => none

/-- The credentials in front of a host, and the text behind their at sign. An at sign alone needs
something behind it that is no delimiter, or nothing at all. -/
def user? (special : Bool) (cs : List Char) : Option (List Char × List Char) :=
  let front := cs.takeWhile (!isDelimiter special ·)
  match splitUser front with
  | none => some ([], cs)
  | some ([], []) => if front.length < cs.length then none else some ([], [])
  | some (user, _) => some (user, cs.drop (user.length + 1))

/-- Name and password, as they are written. -/
def credentials (user : List Char) : String × String :=
  let encode (cs : List Char) := String.ofList (Percent.encode Percent.inUserInfo cs)
  match user.span (· != ':') with
  | (name, _ :: word) => (encode name, encode word)
  | (name, []) => (encode name, "")

/-- A host and the text behind it: a colon within brackets belongs to the host. -/
def spanHost (special inBrackets : Bool) : List Char → List Char × List Char
  | [] => ([], [])
  | c :: cs =>
    if (c == ':' && !inBrackets) || isDelimiter special c then ([], c :: cs)
    else
      let (host, rest) := spanHost special ((inBrackets || c == '[') && c != ']') cs
      (c :: host, rest)

/-- The port behind a host, if it is given and not the usual one, and the text behind it. A
backslash ends it for every scheme. -/
def port? (scheme : String) : List Char → Option (Option Nat × List Char)
  | ':' :: cs =>
    let (digits, rest) := cs.span Text.isDigit
    let n := Text.decimalValue digits
    if rest.take 1 |>.any (!isDelimiter true ·) then none
    else if 65535 < n then none
    else if digits.isEmpty || usualPort? scheme == some n then some (none, rest)
    else some (some n, rest)
  | cs => some (none, cs)

/-- A URL with an authority, given the text behind its two slashes. -/
def withAuthority? (scheme : String) (cs : List Char) : Option Url := do
  let special := isSpecial scheme
  let (user, rest) ← user? special cs
  let (username, password) := credentials user
  let (hostChars, rest) := spanHost special false rest
  let isBound := special || !username.isEmpty || !password.isEmpty || rest.head? == some ':'
  if hostChars.isEmpty && isBound then none
  else
    let host ← if special then Host.ofChars? hostChars else Host.opaqueOf? hostChars
    let (port, rest) ← port? scheme rest
    let bare : Url := {
      scheme, username, password, host := some host, port, guarded := false, path := .segments []
      query := none, fragment := none }
    match rest with
    | [] => some (if special then bare.continued [""] [] else bare)
    | c :: behind =>
      if isSlash special c then some (bare.continued [""] behind)
      else if !special && (c == '?' || c == '#') then some (bare.withTail rest)
      else some (bare.continued [""] rest)

/-- A file's URL without a path. -/
def fileOn (host : Option Host) : Url :=
  { scheme := "file", username := "", password := "", host, port := none, guarded := false
    path := .segments [], query := none, fragment := none }

/-- A file on a host, given the text behind the host. A drive at the root takes the host's place. -/
def fileBehind (host : Host) (cs : List Char) : Url :=
  let rest := match cs with
    | c :: behind => if isSlash true c then behind else cs
    | [] => []
  let names := Path.walk "file" [""] (spanPath rest).1
  (fileOn (if (names.head?.any Path.isDrive) then none else some host)).continued [""] rest

/-- A file's URL, given the text behind two slashes. -/
def fileAt? (cs : List Char) : Option Url :=
  let (front, behind) := cs.span (!isDelimiter true ·)
  let hostChars := dropTabs front
  if Path.isDriveText hostChars then some ((fileOn none).continued [""] cs)
  else if hostChars.isEmpty then some ((fileOn none).continued [""] behind)
  else (Host.ofChars? hostChars).map fun host =>
    if host = .domain "localhost" then (fileOn none).continued [""] behind
    else fileBehind host behind

/-- A file's URL, given the text behind one slash. A drive or else the host comes from the base. -/
def fileFrom (base : Option Url) (cs : List Char) : Url :=
  if Path.startsWithDrive cs then (fileOn none).continued [""] cs
  else match base with
    | none => (fileOn none).continued [""] cs
    | some base => match base.path.names.head?.filter Path.isDrive with
      | some drive => (fileOn none).continued [drive, ""] cs
      | none => (fileOn base.host).continued [""] cs

/-- A file's URL, given the text behind the scheme. -/
def file? (base : Option Url) (cs : List Char) : Option Url :=
  match cs with
  | a :: b :: rest =>
    if isAnySlash a && isAnySlash b then fileAt? rest
    else fileReference base cs
  | _ => fileReference base cs
where
  /-- A path, query or fragment, taken from the base's directory. -/
  fileReference (base : Option Url) (cs : List Char) : Option Url :=
    match cs, base with
    | [], some base => some { base with fragment := none }
    | [], none => some ((fileOn none).continued [""] [])
    | c :: rest, base =>
      if isAnySlash c then some (fileFrom base rest)
      else match base with
        | none => some ((fileOn none).continued [""] cs)
        | some base =>
          if c == '?' then some (base.withTail cs)
          else if c == '#' then some (base.withFragment cs)
          else if Path.startsWithDrive cs then some ((fileOn none).continued [""] cs)
          else some (base.continued (Path.directory "file" base.path.names) cs)

/-- A reference without a scheme, to a base that has segments in its path. Slashes of both kinds
count, whatever the scheme. -/
def relative? (base : Url) (cs : List Char) : Option Url :=
  match cs with
  | [] => some { base with fragment := none }
  | '?' :: _ => some (base.withTail cs)
  | '#' :: _ => some (base.withFragment cs)
  | '/' :: '/' :: behind => withAuthority? base.scheme behind
  | c :: rest =>
    let slashes := (cs.takeWhile isAnySlash).length
    if 2 ≤ slashes then withAuthority? base.scheme (cs.drop slashes)
    else if isAnySlash c then some (base.continued [""] rest)
    else
      let names := Path.directory base.scheme base.path.names
      some (base.continued (if names.isEmpty then [""] else names) cs)

/-- A URL of a scheme without network protocol, given the text behind the scheme. -/
def other? (scheme : String) (cs : List Char) : Option Url :=
  let bare : Url := {
    scheme, username := "", password := "", host := none, port := none, guarded := false
    path := .plain "", query := none, fragment := none }
  match cs with
  | '/' :: '/' :: rest => withAuthority? scheme rest
  | '/' :: rest => some (bare.continued [""] rest)
  | _ =>
    let (path, behind) := spanPath cs
    let path := .plain (String.ofList (Percent.encode Percent.control path))
    some ({ bare with path }.withTail behind)

/-- A URL, or a reference to the base if there is one. -/
def resolve? (base : Option Url) (s : String) : Option Url :=
  let cs := clean s.toList
  match scheme? cs with
  | some (scheme, rest) =>
    if isFile scheme then file? (base.filter (isFile ·.scheme)) rest
    else if isSpecial scheme then
      let slashes := (rest.takeWhile isAnySlash).length
      match base with
      | some b =>
        if slashes < 2 && b.scheme == scheme then relative? b (dropTabs rest)
        else withAuthority? scheme (dropTabs (rest.drop slashes))
      | none => withAuthority? scheme (dropTabs (rest.drop slashes))
    else other? scheme (dropTabs rest)
  | none => match base with
    | none => none
    | some b =>
      if cs.head? == some '#' then some (b.withFragment cs)
      else if b.path.isPlain then none
      else if isFile b.scheme then file? base cs
      else relative? b (dropTabs cs)

def ofText? (s : String) : Option Url := resolve? none s

/-- The URL that a reference found at `base` stands for. -/
def join? (base : Url) (reference : String) : Option Url := resolve? (some base) reference

end Transit.Url
