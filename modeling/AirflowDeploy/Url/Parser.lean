import AirflowDeploy.Url.Host

/-!
# Reading web addresses

An address is read from the text after its scheme. Line ends and tabs in it count for nothing,
and a backslash counts as a slash.
-/
namespace AirflowDeploy.Url

open Text

def isSlash (c : Char) : Bool := c == '/' || c == '\\'

/-- Characters that end the part with user, host and port. -/
def endsAuthority (c : Char) : Bool := isSlash c || c == '?' || c == '#'

/-- Characters that are dropped from every address. -/
def isDropped (c : Char) : Bool := c == '\t' || c == '\n' || c == '\r'

/-- User and password, encoded, with the at sign after them. -/
def readUserInfo (cs : List Char) : List Char :=
  let (user, password) := cutFirst isColon cs
  let user := encodeExcept keepsUserInfo user
  let password := (password.filter (!·.isEmpty)).map (encodeExcept keepsUserInfo)
  match user, password with
  | [], none => []
  | user, none => user ++ ['@']
  | user, some password => user ++ ':' :: password ++ ['@']

/-- The host, up to a colon outside of brackets, and the rest. -/
def cutHost : Bool → List Char → List Char × List Char
  | _, [] => ([], [])
  | inBrackets, c :: rest =>
    if isColon c && !inBrackets then ([], c :: rest)
    else
      let next := if c == '[' then true else if c == ']' then false else inBrackets
      (c :: (cutHost next rest).1, (cutHost next rest).2)

/-- The port after a colon; none for no digits or for the default one. -/
def readPort (secure : Bool) (cs : List Char) : Except UrlError (Option Nat) :=
  match cs with
  | [] | [':'] => .ok none
  | _ :: digits =>
    match readDigits? digits with
    | some n =>
      if 65536 ≤ n then .error .invalidPort
      else .ok (if n = defaultPort secure then none else some n)
    | none => .error .invalidPort

def isOneDot (cs : List Char) : Bool := [".", "%2e"].any fun dot => cs.map asciiLower == dot.toList

def isTwoDots (cs : List Char) : Bool :=
  ["..", ".%2e", "%2e.", "%2e%2e"].any fun dots => cs.map asciiLower == dots.toList

/-- Follows segments from the path `front`. Dots stand for the same and for the upper level;
as the last segment they leave an empty one. -/
def resolve (front : List (List Char)) : List (List Char) → List (List Char)
  | [] => front
  | [last] =>
    if isTwoDots last then front.dropLast ++ [[]]
    else if isOneDot last then front ++ [[]]
    else front ++ [last]
  | segment :: rest =>
    if isTwoDots segment then resolve front.dropLast rest
    else if isOneDot segment then resolve front rest
    else resolve (front ++ [segment]) rest

/-- The encoded segments of a path after its first slash. -/
def segments (cs : List Char) : List (List Char) :=
  (pieces isSlash cs).map (encodeExcept keepsPath)

def readPath (cs : List Char) : List (List Char) :=
  match cs with
  | [] => [[]]
  | _ :: rest => resolve [] (segments rest)

/-- Reads an address from the text after its scheme and colon. -/
def readAfterScheme (secure : Bool) (text : List Char) : Except UrlError Url := do
  let rest := (text.filter fun c => !isDropped c).dropWhile isSlash
  let authority := rest.takeWhile fun c => !endsAuthority c
  let (beforeFragment, fragment) := cutFirst (· == '#') (rest.dropWhile fun c => !endsAuthority c)
  let (path, query) := cutFirst (· == '?') beforeFragment
  let (user, address) := cutLast (· == '@') authority
  let (host, port) := cutHost false address
  let host ← readHost host
  let port ← readPort secure port
  return {
    secure
    userInfo := user.elim [] readUserInfo
    host
    port
    path := readPath path
    query := query.map (encodeExcept keepsQuery)
    fragment := fragment.map (encodeExcept keepsFragment) }

/-- The address at a relative path below the last slash of another one. -/
def join (base : Url) (path : List (List Char)) : Url :=
  { base with path := resolve base.path.dropLast path, query := none, fragment := none }

end AirflowDeploy.Url
