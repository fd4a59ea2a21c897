import TreeShell.Http.Escape

namespace TreeShell.Http

structure Authority where
  user : String := ""
  host : String := ""
  port : Option Int := none
  deriving DecidableEq, Repr

/-- An address whose path and query are escaped. It stands for what a client's library makes of a
    text, but for hosts with characters beyond ASCII, all of which are taken here. -/
structure Url where
  scheme : String
  authority : Authority
  path : String
  query : Option String
  deriving DecidableEq, Repr

namespace Url

/-! ## Parts -/

def isSchemeChar (c : Char) : Bool := c.isAlphanum || c == '+' || c == '.' || c == '-'

def takeScheme (text : List Char) : List Char × List Char :=
  let scheme := text.takeWhile isSchemeChar
  match text.dropWhile isSchemeChar with
  | ':' :: rest =>
    match scheme with
    | first :: _ => if first.isAlpha then (scheme, rest) else ([], text)
    | [] => ([], rest)
  | _ => ([], text)

def takeAuthority : List Char → List Char × List Char
  | '/' :: '/' :: rest =>
    let ends (c : Char) : Bool := c == '/' || c == '?' || c == '#'
    (rest.takeWhile (!ends ·), rest.dropWhile (!ends ·))
  | text => ([], text)

def cutQuery (text : List Char) : List Char × Option (List Char) :=
  match Text.cutAt ['?'] text with
  | some (path, query) => (path, some query)
  | none => (text, none)

def cutAtLast (c : Char) (text : List Char) : Option (List Char × List Char) :=
  (Text.cutAt [c] text.reverse).map fun (behind, front) => (front.reverse, behind.reverse)

/-! ## Authorities -/

def defaultPort? : String → Option Int
  | "ftp" => some 21
  | "http" | "ws" => some 80
  | "https" | "wss" => some 443
  | _ => none

/-- The port that a text names; none when it is no number. The one that the scheme implies is left
    out. -/
def readPort? (scheme : String) (text : List Char) : Option (Option Int) :=
  if text = [] then some none
  else (Text.readInt? (String.ofList text)).map fun port =>
    if defaultPort? scheme = some port then none else some port

/-- Whether a text is runs of digits, one more than the count, with any one character between two
    of them; `begun` says whether the first run has a digit already. -/
def isRunsAfter : (count : Nat) → (begun : Bool) → List Char → Bool
  | count, begun, [] => begun && count = 0
  | count, begun, c :: rest =>
    (c.isDigit && isRunsAfter count true rest) ||
      (begun && 0 < count && isRunsAfter (count - 1) false rest)

def looksNumbered (host : List Char) : Bool :=
  host.head?.any Char.isDigit && isRunsAfter 3 false host

def isByte (part : List Char) : Bool :=
  part.length ≤ 3 && (part.head? ≠ some '0' || part.length = 1) &&
    (part.mapM Text.asciiDigit?).any (Text.ofDigits · < 256)

def isNumbered (host : List Char) : Bool :=
  let parts := Text.pieces '.' host
  parts.length = 4 && parts.all fun part => part ≠ [] && isByte part

def isGroup (part : List Char) : Bool :=
  part ≠ [] && part.length ≤ 4 && part.all fun c => (Text.hexValue? c).isSome

def groupsOf? (host : List Char) : Option (List (List Char)) :=
  let parts := Text.pieces ':' host
  match parts.getLast? with
  | some last =>
    if last.contains '.' then
      if isNumbered last then some (parts.dropLast ++ [['0'], ['0']]) else none
    else some parts
  | none => none

/-- Whether some parts are eight groups. Two neighbouring colons stand for one group or more. -/
def areGroups (parts : List (List Char)) : Bool :=
  if parts.length < 3 ∨ 9 < parts.length then false
  else
    let inner := (parts.drop 1).dropLast
    match inner.findIdx? (· = []) with
    | none => parts.length = 8 && parts.all isGroup
    | some place =>
      let high := parts.take (place + 1)
      let low := parts.drop (place + 2)
      let high := if high = [[]] then [] else high
      let low := if low = [[]] then [] else low
      high.all isGroup && low.all isGroup && high.length + low.length < 8

def isGrouped (host : List Char) : Bool :=
  let (groups, zone) := match Text.cutAt ['%'] host with
    | none => (host, ['0'])
    | some (groups, zone) => (groups, zone)
  zone ≠ [] && !zone.contains '%' && (groupsOf? groups).any areGroups

def isUnreserved (c : Char) : Bool := c.isAlphanum || "-._~".toList.contains c

def isHostSafe (c : Char) : Bool := isUnreserved c || "!$&'()*+,;=\"`{}%|\\".toList.contains c

def isUserSafe (c : Char) : Bool :=
  (0x20 < c.toNat && c.toNat < 0x7F) && !"\"#/;<=>?@[\\]^`{|}".toList.contains c

def readHost? (host : List Char) : Option String :=
  if looksNumbered host then
    if isNumbered host then some (String.ofList host) else none
  else if host.head? = some '[' ∧ host.getLast? = some ']' then
    let inside := (host.drop 1).dropLast
    if isGrouped inside then some (String.ofList inside) else none
  else some (Escape.encode isHostSafe (String.ofList (host.map Char.toLower)))

def cutPort (text : List Char) : List Char × List Char :=
  let (host, rest) := match text with
    | '[' :: _ => match cutAtLast ']' text with
      | some (host, rest) => (host ++ [']'], rest)
      | none => (text.takeWhile (· ≠ ':'), text.dropWhile (· ≠ ':'))
    | _ => (text.takeWhile (· ≠ ':'), text.dropWhile (· ≠ ':'))
  (host, match rest with
    | ':' :: port => port
    | port => port)

end Url

namespace Authority

def read? (scheme : String) (text : List Char) : Option Authority := do
  let (user, rest) := (Url.cutAtLast '@' text).getD ([], text)
  let (host, port) := Url.cutPort rest
  return {
    user := Escape.encode Url.isUserSafe (String.ofList user)
    host := ← Url.readHost? host
    port := ← Url.readPort? scheme port }

def text (authority : Authority) : String :=
  let user := if authority.user = "" then "" else authority.user ++ "@"
  let host := if authority.host.toList.contains ':' then s!"[{authority.host}]" else authority.host
  let port := match authority.port with
    | none => ""
    | some port => s!":{port}"
  user ++ host ++ port

end Authority

namespace Url

/-! ## Paths -/

def isPathSafe (c : Char) : Bool :=
  (0x20 < c.toNat && c.toNat < 0x7F) && !"\"#<>?`{}".toList.contains c

def isQuerySafe (c : Char) : Bool :=
  (0x20 < c.toNat && c.toNat < 0x7F) && !"\"#<>".toList.contains c

def resolveDots (done : List (List Char)) : List (List Char) → List (List Char)
  | [] => done.reverse
  | segment :: rest =>
    if segment = ['.'] then resolveDots done rest
    else if segment = ['.', '.'] then
      resolveDots (if done = [[]] then done else done.drop 1) rest
    else resolveDots (segment :: done) rest

def plainPath (path : List Char) : String :=
  Text.join "/" ((resolveDots [] (Text.pieces '/' path)).map String.ofList)

def maxLength : Nat := 65536

/-- An address of given parts. With an authority the path starts with a slash; with neither scheme
    nor authority it may not start with two, nor with a colon. -/
def ofParts? (scheme : String) (authority : Authority) (path : List Char)
    (query : Option (List Char)) : Option Url :=
  let named := authority ≠ {}
  if maxLength < path.length ∨ query.any (maxLength < ·.length) then none
  else if named ∧ path ≠ [] ∧ path.head? ≠ some '/' then none
  else if scheme = "" ∧ ¬named ∧ (path.take 2 = ['/', '/'] ∨ path.head? = some ':') then none
  else
    let path := if scheme = "" ∧ ¬named then String.ofList path else plainPath path
    some {
      scheme, authority
      path := Escape.encode isPathSafe path
      query := query.map fun query => Escape.encode isQuerySafe (String.ofList query) }

def isControl (c : Char) : Bool := c.toNat < 0x20 || c.toNat = 0x7F

def read? (text : String) : Option Url :=
  if maxLength < text.length ∨ text.toList.any isControl then none
  else do
    let (scheme, rest) := takeScheme text.toList
    let (authority, rest) := takeAuthority rest
    let (path, query) := cutQuery (rest.takeWhile (· ≠ '#'))
    let authority ← Authority.read? (String.ofList scheme) authority
    ofParts? (String.ofList scheme).toLower authority path query

def isAbsolute (url : Url) : Bool := url.scheme ≠ "" && url.authority.host ≠ ""

def text (url : Url) : String :=
  let scheme := if url.scheme = "" then "" else url.scheme ++ ":"
  let authority := url.authority.text
  let query := match url.query with
    | none => ""
    | some query => "?" ++ query
  scheme ++ (if authority = "" then "" else "//" ++ authority) ++ url.path ++ query

/-- What is asked for at the host: the path and the query. An empty path means the root. -/
def target (url : Url) : List Char :=
  let path := if url.path = "" then ['/'] else url.path.toList
  match url.query with
  | none => path
  | some query => path ++ '?' :: query.toList

def withTarget? (url : Url) (target : List Char) : Option Url :=
  let (path, query) := cutQuery target
  ofParts? url.scheme url.authority path query

def base? (text : String) : Option Url := do
  let url ← read? text
  if url.target.getLast? = some '/' then return url
  else url.withTarget? (url.target ++ ['/'])

def resolve? (base : Url) (text : String) : Option Url := do
  let url ← read? text
  if url.isAbsolute then return url
  else base.withTarget? (base.target ++ url.target.dropWhile (· = '/'))

def withFields? (url : Url) (fields : List (String × String)) : Option Url :=
  let query := Escape.ofFields fields
  if maxLength < query.length then none
  else some { url with query := if fields = [] then none else some query }

def plain (url : Url) : String := if url.path = "" then "/" else Escape.decode url.path

def fields (url : Url) : List (String × String) := (url.query.map Escape.fields).getD []

end Url

end TreeShell.Http
