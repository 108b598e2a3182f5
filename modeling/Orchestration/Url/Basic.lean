import Orchestration.Url.Host

namespace Orchestration

open Text

namespace Url

/-! URLs by the rules of browsers: reading them, and writing them in the one
form that reading gives. -/

structure Authority where
  user : List Char := []
  password : List Char := []
  /-- Nothing, if the host is empty. -/
  host : Option Host
  portNumber : Option Nat := none
deriving DecidableEq

inductive Path where
  | segments (names : List (List Char))
  | plain (letters : List Char)
deriving DecidableEq

end Url

open Url

structure Url where
  scheme : List Char
  authority : Option Authority
  path : Path
  query : Option (List Char) := none
  fragment : Option (List Char) := none
deriving DecidableEq

namespace Url

def fileScheme : List Char := ['f', 'i', 'l', 'e']

/-- Where servers of a scheme listen, if that is known. -/
def defaultPort? (scheme : List Char) : Option Nat :=
  match String.ofList scheme with
  | "http" => some 80
  | "https" => some 443
  | "ws" => some 80
  | "wss" => some 443
  | "ftp" => some 21
  | _ => none

def isSpecial (scheme : List Char) : Bool :=
  (defaultPort? scheme).isSome || scheme = fileScheme

def isLetter (c : Char) : Bool := ('a' ≤ c && c ≤ 'z') || ('A' ≤ c && c ≤ 'Z')

def isSchemeChar (c : Char) : Bool :=
  isLetter c || isDigit c || c = '+' || c = '-' || c = '.'

def cutScheme (text : List Char) : Option (List Char × List Char) :=
  match text.span isSchemeChar with
  | (first :: more, ':' :: rest) =>
      if isLetter first then some ((first :: more).map lowerAscii, rest)
      else none
  | _ => none

def isSlash (special : Bool) (c : Char) : Bool := c = '/' || special && c = '\\'

/-- Cuts at the last at sign, if there is one. -/
def cutUser (text : List Char) : Option (List Char) × List Char :=
  let host := (text.reverse.takeWhile (· ≠ '@')).reverse
  if host.length < text.length then
    (some (text.take (text.length - host.length - 1)), host)
  else (none, text)

def userAndPassword (text : List Char) : List Char × List Char :=
  let (user, password) := cut ':' text
  (encode userSet user, encode userSet (password.getD []))

/-- Cuts off a host: up to the first colon outside of brackets. -/
def cutHost (inside : Bool) : List Char → List Char × List Char
  | [] => ([], [])
  | c :: rest =>
      if c = ':' && !inside then ([], c :: rest)
      else
        let inside := if c = '[' then true else if c = ']' then false else inside
        let (host, rest) := cutHost inside rest
        (c :: host, rest)

def readPort (scheme digits : List Char) : Except Fault (Option Nat) :=
  if digits.all isDigit && valueOf digits < 65536 then
    if digits.isEmpty || defaultPort? scheme = some (valueOf digits) then
      .ok none
    else .ok (some (valueOf digits))
  else .error .invalidPort

/-- The digits behind a colon. A backslash ends them in every scheme. -/
def cutPort : List Char → List Char × List Char
  | [] => ([], [])
  | _ :: rest => rest.span (· ≠ '\\')

def readHost (special : Bool) (text : List Char) : Except Fault (Option Host) :=
  if text.isEmpty then
    if special then .error .emptyHost else .ok none
  else if special then (Host.readSpecial text).map some
  else (Host.readOther text).map some

/-- The authority, and what is left of its text. `atEnd` tells that nothing
stands behind it. -/
def readAuthority (scheme : List Char) (atEnd : Bool) (text : List Char) :
    Except Fault (Authority × List Char) := do
  let special := isSpecial scheme
  let (userInfo, hostAndPort) := cutUser text
  let (user, password) := userAndPassword (userInfo.getD [])
  let (hostText, portText) := cutHost false hostAndPort
  let host ← readHost special hostText
  let named := !user.isEmpty || !password.isEmpty
  let marked := userInfo = some [] && hostAndPort.isEmpty && !atEnd
  if host.isNone && (!portText.isEmpty || named || marked) then
    throw .emptyHost
  let (digits, rest) := cutPort portText
  let portNumber ← readPort scheme digits
  return ({ user, password, host, portNumber }, rest)

def isSingleDot (segment : List Char) : Bool :=
  [".", "%2e"].contains (lower (String.ofList segment))

def isDoubleDot (segment : List Char) : Bool :=
  ["..", ".%2e", "%2e.", "%2e%2e"].contains (lower (String.ofList segment))

def cutSegments (special : Bool) (text : List Char) : List (List Char) :=
  pieces '/' (text.map fun c => if isSlash special c then '/' else c)

def isDrive : List Char → Bool
  | [letter, mark] => isLetter letter && (mark = ':' || mark = '|')
  | _ => false

/-- Goes back by one segment, but does not leave a drive. -/
def back (done : List (List Char)) : List (List Char) :=
  if done.getLast?.any isDrive then done else done.dropLast

/-- Follows segments: one dot stays, two dots go back. -/
def follow (done : List (List Char)) : List (List Char) → List (List Char)
  | [] => done
  | [last] =>
      let last := encode pathSet last
      if isDoubleDot last then back done ++ [[]]
      else if isSingleDot last then done ++ [[]]
      else done ++ [last]
  | segment :: rest =>
      let segment := encode pathSet segment
      if isDoubleDot segment then follow (back done) rest
      else if isSingleDot segment then follow done rest
      else follow (done ++ [segment]) rest

/-- A path that begins at the root, without the slash at its head. -/
def readRooted (special : Bool) (text : List Char) : Path :=
  .segments (follow [] (cutSegments special text))

/-- The path behind an authority; known schemes always have one. -/
def readPath (special : Bool) : List Char → Path
  | [] => .segments (if special then [[]] else [])
  | c :: rest =>
      readRooted special (if isSlash special c then rest else c :: rest)

/-- A drive at the head of a path is written with a colon. -/
def nameDrive : List (List Char) → List (List Char)
  | [letter, mark] :: rest =>
      if isDrive [letter, mark] then [letter, ':'] :: rest
      else [letter, mark] :: rest
  | names => names

def fileNames (text : List Char) : List (List Char) :=
  nameDrive (follow [] (cutSegments true text))

/-- Files have no empty names at the head of their path. -/
def filePath (names : List (List Char)) : Path :=
  match names.dropWhile List.isEmpty with
  | [] => .segments [[]]
  | names => .segments names

/-- A text in three parts: before the query, the query and the fragment. -/
def cutTail (text : List Char) :
    List Char × Option (List Char) × Option (List Char) :=
  let (rest, fragment) := cut '#' text
  let (body, query) := cut '?' rest
  (body, query, fragment)

structure Target where
  authority : Option Authority
  path : Path

def readAuthorityAndPath (scheme : List Char) (atEnd : Bool)
    (body : List Char) : Except Fault Target := do
  let special := isSpecial scheme
  let (text, path) := body.span (!isSlash special ·)
  let (authority, rest) ← readAuthority scheme (path.isEmpty && atEnd) text
  return ⟨some authority, readPath special (rest ++ path)⟩

def readFileHost (text : List Char) : Except Fault (Option Host) :=
  if text.isEmpty then .ok none
  else
    (Host.readSpecial text).map fun host =>
      if host = .name "localhost".toList then none else some host

def onHost (host : Option Host) (names : List (List Char)) : Target :=
  ⟨some { host := host }, filePath names⟩

/-- Behind two slashes stands a host or a drive. A drive at the head of the path
is on this host. -/
def readFileBehindSlashes (text : List Char) : Except Fault Target := do
  let (hostText, path) := text.span (!isSlash true ·)
  if isDrive hostText then return onHost none (fileNames text)
  match ← readFileHost hostText with
  | none => return onHost none (fileNames path)
  | some host =>
      let names := fileNames (path.drop 1)
      if names.head?.any isDrive then return onHost none names
      else return onHost (some host) names

def readFile : List Char → Except Fault Target
  | [] => .ok (onHost none (fileNames []))
  | [c] => .ok (onHost none (fileNames (if isSlash true c then [] else [c])))
  | a :: b :: rest =>
      if isSlash true a && isSlash true b then readFileBehindSlashes rest
      else if isSlash true a then .ok (onHost none (fileNames (b :: rest)))
      else .ok (onHost none (fileNames (a :: b :: rest)))

def readTarget (scheme : List Char) (atEnd : Bool) (body : List Char) :
    Except Fault Target :=
  if scheme = fileScheme then readFile body
  else if isSpecial scheme then
    readAuthorityAndPath scheme atEnd (body.dropWhile (isSlash true))
  else
    match body with
    | '/' :: '/' :: rest => readAuthorityAndPath scheme atEnd rest
    | '/' :: rest => .ok ⟨none, readRooted false rest⟩
    | _ => .ok ⟨none, .plain (encode [] body)⟩

/-- Controls and blanks at the ends do not count, nor do tabulators and line
ends anywhere. -/
def clean (text : List Char) : List Char :=
  let isEdge (c : Char) : Bool := c.toNat ≤ 0x20
  let inner := ((text.dropWhile isEdge).reverse.dropWhile isEdge).reverse
  inner.filter fun c => c ≠ '\t' && c ≠ '\n' && c ≠ '\r'

def read (text : String) : Except Fault Url :=
  match cutScheme (clean text.toList) with
  | none => .error .relative
  | some (scheme, rest) => do
      let (body, query, fragment) := cutTail rest
      let atEnd := query.isNone && fragment.isNone
      let target ← readTarget scheme atEnd body
      let set := if isSpecial scheme then specialQuerySet else querySet
      return {
        scheme := scheme
        authority := target.authority
        path := target.path
        query := query.map (encode set)
        fragment := fragment.map (encode fragmentSet) }

def Authority.text (authority : Authority) : List Char :=
  let password :=
    if authority.password.isEmpty then [] else ':' :: authority.password
  let user := authority.user ++ password
  (if user.isEmpty then [] else user ++ ['@']) ++
    ((authority.host.map Host.text).getD []) ++
    match authority.portNumber with
    | some number => ':' :: Nat.toDigits 10 number
    | none => []

namespace Path

def text : Path → List Char
  | segments names => names.flatMap fun name => '/' :: name
  | plain letters => letters

end Path

/-- A path that would look like an authority is marked with a dot. -/
def targetText (authority : Option Authority) (path : Path) : List Char :=
  match authority with
  | some authority => ['/', '/'] ++ authority.text ++ path.text
  | none =>
      match path with
      | .segments ([] :: _ :: _) => ['/', '.'] ++ path.text
      | _ => path.text

def marked? (mark : Char) : Option (List Char) → List Char
  | some text => mark :: text
  | none => []

def chars (url : Url) : List Char :=
  url.scheme ++ [':'] ++ targetText url.authority url.path ++
    marked? '?' url.query ++ marked? '#' url.fragment

def text (url : Url) : String := String.ofList url.chars

end Url

end Orchestration
