import Gatehouse.Bytes.Utf8

/-!
# URLs

The part of an absolute URL that is sent to its server: the path with `.` and `..` worked out, and
the query. Characters that may not stand there are percent-encoded, one byte after the other. A URL
in normal form is shown with its target in that form. A reference is read as a URL from where it
stands.
-/

namespace Gatehouse.Http.Url

/-- The uppercase hexadecimal digit of a value below 16. -/
def hexDigit (n : Nat) : Char :=
  if n < 10 then Char.ofNat (48 + n) else Char.ofNat (55 + n)

/-- A character as percent-encoded bytes. -/
def percentEncoded (c : Char) : List Char :=
  (String.utf8EncodeChar c).flatMap fun b =>
    ['%', hexDigit (b.toNat / 16), hexDigit (b.toNat % 16)]

/-- Whether a character is encoded in every part of a URL. -/
def isForeign (c : Char) : Bool :=
  c.toNat ≤ 0x20 || 0x7e < c.toNat || c == '"' || c == '<' || c == '>'

/-- A character of a path. -/
def pathChar (c : Char) : List Char :=
  if isForeign c || c == '#' || c == '?' || c == '\x60' || c == '\x7b' || c == '\x7d' then
    percentEncoded c
  else [c]

/-- A character of a query. -/
def queryChar (c : Char) : List Char :=
  if isForeign c || c == '#' || c == '\'' then percentEncoded c else [c]

/-- A segment with its encoded points written out, in lower case. -/
def plainPoints (segment : String) : String :=
  segment.toLower.replace "%2e" "."

/-- The segments of a path with those that mean "here" and "one up" worked out. The segments so
far are given last first. -/
def resolve : (done : List String) → List String → List String
  | done, [] => done.reverse
  | done, s :: rest =>
    if plainPoints s = ".." then resolve (if rest.isEmpty then "" :: done.tail else done.tail) rest
    else if plainPoints s = "." then resolve (if rest.isEmpty then "" :: done else done) rest
    else resolve (s :: done) rest

/-- The path of a target, which starts with a slash. -/
def path (cs : List Char) : String :=
  let segments := (String.ofList (cs.map fun c => if c = '\\' then '/' else c)).splitOn "/"
  let segments := match segments with
    | "" :: rest => rest
    | all => all
  let encoded := segments.map fun s => String.ofList (s.toList.flatMap pathChar)
  "/" ++ "/".intercalate (resolve [] encoded)

/-- A character of a scheme after its first one. -/
def isSchemeChar (c : Char) : Bool :=
  c.isAlphanum || c == '+' || c == '-' || c == '.'

/-- The scheme of an absolute URL, in lower case. -/
def scheme? (url : String) : Option String :=
  let cs := url.toList
  let name := cs.takeWhile (· != ':')
  if name.length < cs.length && (name.head?.any Char.isAlpha) && name.all isSchemeChar then
    some (String.ofList name).toLower
  else none

/-- Whether a character separates segments. -/
def isSlash (c : Char) : Bool := c == '/' || c == '\\'

/-- What follows the scheme of an absolute URL. -/
def afterScheme (url : List Char) : List Char :=
  ((url.dropWhile (· != ':')).drop 1).dropWhile isSlash

/-- Whether a character ends the address of the server. -/
def endsAuthority (c : Char) : Bool := isSlash c || c == '?' || c == '#'

/-- What follows the address of the server. -/
def afterAuthority (url : List Char) : List Char :=
  (afterScheme url).dropWhile (!endsAuthority ·)

/-- The characters of a URL that count. -/
def significant (url : String) : List Char :=
  url.toList.filter fun c => !(c == '\t' || c == '\n' || c == '\r')

/-- The request target of an absolute URL. -/
def target (url : String) : String :=
  let rest := (afterAuthority (significant url)).takeWhile (· != '#')
  let query := rest.dropWhile (· != '?')
  path (rest.takeWhile (· != '?')) ++
    String.ofList (query.take 1 ++ (query.drop 1).flatMap queryChar)

/-- An absolute URL with its scheme and server in lower case and with its request target. -/
def normal (url : String) : String :=
  let cs := significant url
  let scheme := String.ofList (cs.takeWhile (· != ':'))
  let server := String.ofList ((afterScheme cs).takeWhile (!endsAuthority ·))
  s!"{scheme.toLower}://{server.toLower}{target url}"

/-! ## Servers and references -/

/-- The port of a scheme, where a URL names none. -/
def usualPort (scheme : Option String) : Nat :=
  if scheme = some "https" then 443 else 80

/-- The server of an absolute URL: its name in lower case, and its port. -/
def server (url : String) : String × Nat :=
  let authority := (afterScheme (significant url)).takeWhile (!endsAuthority ·)
  let place := (authority.reverse.takeWhile (· != '@')).reverse
  let port := (place.reverse.takeWhile Char.isDigit).reverse
  let usual := usualPort (scheme? url)
  match (place.reverse.drop port.length) with
  | ':' :: name =>
    ((String.ofList name.reverse).toLower, (String.ofList port).toNat?.getD usual)
  | _ => ((String.ofList place).toLower, usual)

/-- The URL that a reference means where another URL stands. A reference may be a URL itself, or
leave out the scheme, the server, the folder or all of the path. -/
def join (base reference : String) : String :=
  let here := significant base
  let tail := afterAuthority here
  let root := here.take (here.length - tail.length)
  let path := tail.takeWhile fun c => c != '?' && c != '#'
  let folder := (path.reverse.dropWhile (!isSlash ·)).reverse
  let there := significant reference
  normal <| String.ofList <|
    if (scheme? reference).isSome then there
    else match there with
      | [] => here
      | '#' :: _ => here
      | '?' :: _ => root ++ path ++ there
      | c :: rest =>
        if isSlash c then
          if rest.head?.any isSlash then here.takeWhile (· != ':') ++ ':' :: there
          else root ++ there
        else root ++ (if folder.isEmpty then ['/'] else folder) ++ there

end Gatehouse.Http.Url
