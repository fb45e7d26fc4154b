/-
Module: HttpScript.Url.Parser
Purpose: Reading absolute URLs, by the living standard for URLs.  Schemes of the web have a fixed
  syntax: backslashes count as slashes, a host is required and default ports are dropped.  Files
  have an optional host and may begin with a drive letter.  All other schemes keep what they are
  given.
Main exports: Url.parse
-/
import HttpScript.Url.Basic

namespace HttpScript.Url

/-- How the text after a scheme is read. -/
inductive SchemeKind where
  | file
  | web (defaultPort : Nat)
  | other
deriving Repr, DecidableEq

namespace SchemeKind

def ofScheme (scheme : String) : SchemeKind :=
  if scheme = "file" then .file
  else if scheme = "http" ∨ scheme = "ws" then .web 80
  else if scheme = "https" ∨ scheme = "wss" then .web 443
  else if scheme = "ftp" then .web 21
  else .other

/-- Schemes with a fixed syntax. -/
def isSpecial : SchemeKind → Bool
  | .other => false
  | _ => true

/-- The characters that count as a slash. -/
def isSlash (kind : SchemeKind) (c : Char) : Bool :=
  c == '/' || (kind.isSpecial && c == '\\')

end SchemeKind

def isTail (c : Char) : Bool :=
  c == '?' || c == '#'

/-! ### Before the scheme ends -/

/-- Controls and spaces around a URL do not belong to it. -/
def trimmed (s : List Char) : List Char :=
  let outer (c : Char) : Bool := c.toNat ≤ 0x20
  ((s.dropWhile outer).reverse.dropWhile outer).reverse

/-- A tab or the end of a line. -/
def isBreak (c : Char) : Bool :=
  c == '\t' || c == '\n' || c == '\r'

/-- Tabs and line ends do not belong to a URL wherever they stand. -/
def joined (s : List Char) : List Char :=
  s.filter (fun c => !isBreak c)

def isSchemeChar (c : Char) : Bool :=
  c.isAlphanum || c == '+' || c == '-' || c == '.'

/-- The scheme in lower case, and what follows its colon. -/
def scheme? (s : List Char) : Option (String × List Char) :=
  match s.span isSchemeChar with
  | (c :: more, ':' :: rest) =>
    if c.isAlpha then some (String.ofList ((c :: more).map Char.toLower), rest) else none
  | _ => none

/-! ### Paths -/

/-- A letter and a colon or bar. -/
def isDriveLetter (segment : List Char) : Bool :=
  match segment with
  | [letter, mark] => letter.isAlpha && (mark == ':' || mark == '|')
  | _ => false

/-- The spellings of a dot. -/
def isDot (segment : List Char) : Bool :=
  let s := segment.map Char.toLower
  s == ['.'] || s == ['%', '2', 'e']

/-- The spellings of two dots. -/
def isDoubleDot (segment : List Char) : Bool :=
  let s := segment.map Char.toLower
  s == ['.', '.'] || s == ['.', '%', '2', 'e'] || s == ['%', '2', 'e', '.']
    || s == ['%', '2', 'e', '%', '2', 'e']

/-- A drive letter, alone or before a backslash, which no step up takes back. -/
def isDriveRoot (segment : String) : Bool :=
  let (drive, rest) := segment.toList.splitAt 2
  isDriveLetter drive && (rest.isEmpty || rest.head? == some '\\')

/-- A step up takes back the last segment, but not a drive. -/
def shorten (path : List String) : List String :=
  if path.getLast?.any isDriveRoot then path else path.dropLast

/-- A drive letter with a colon, and more of the segment behind a tab or line end. -/
def brokenDrive? (segment : List Char) : Option (List Char × List Char) :=
  match segment.dropWhile isBreak with
  | letter :: more =>
    match more.dropWhile isBreak with
    | ':' :: gap :: rest =>
      if letter.isAlpha ∧ isBreak gap ∧ joined rest ≠ [] then some ([letter, ':'], joined rest)
      else none
    | _ => none
  | [] => none

/-- The text of a segment. -/
def segmentText (segment : List Char) : String :=
  String.ofList (Percent.encodeText Percent.path segment)

/-- One segment of a path after those before it.  The last segment is there even when it is empty,
so a dot at the end leaves a slash there.  A drive letter that begins the path of a file has a
colon, and what a tab or line end sets apart from it is a segment of its own.  The flag says
whether a drive letter was found, which rules out a host. -/
def addSegment (kind : SchemeKind) (path : List String) (segment : List Char) (isLast : Bool) :
    List String × Bool :=
  let close (p : List String) := if isLast then p ++ [""] else p
  let text := joined segment
  let driveMayFollow : Bool := kind = .file ∧ path.isEmpty
  match if driveMayFollow then brokenDrive? segment else none with
  | some (drive, rest) => ([String.ofList drive, segmentText rest], false)
  | none =>
    if isDoubleDot text then (close (shorten path), false)
    else if isDot text then (close path, false)
    else if driveMayFollow ∧ isDriveLetter text then
      ([String.ofList (text.take 1 ++ [':'])], true)
    else (path ++ [segmentText text], false)

/-- All segments of a path, one after the other. -/
def addSegments (kind : SchemeKind) : List String → List (List Char) → List String × Bool
  | path, [] => (path, false)
  | path, segment :: rest =>
    let (path, drive) := addSegment kind path segment rest.isEmpty
    let (path, laterDrive) := addSegments kind path rest
    (path, drive || laterDrive)

/-- Slashes at the start of a file's path count as one. -/
def dropEmptyLead : List String → List String
  | "" :: second :: rest => dropEmptyLead (second :: rest)
  | path => path

/-- A path, from the first character after its leading slash, up to a query or fragment. -/
def pathAfterSlash (kind : SchemeKind) (s : List Char) : List String × Bool × List Char :=
  let (text, rest) := s.span (fun c => !isTail c)
  let (path, drive) := addSegments kind [] (text.splitOnP kind.isSlash)
  (if kind = .file then dropEmptyLead path else path, drive, rest)

/-- The path after an authority.  Schemes with a fixed syntax always have one. -/
def pathStart (kind : SchemeKind) (s : List Char) : List String × Bool × List Char :=
  match s with
  | c :: rest =>
    if kind.isSlash c then pathAfterSlash kind rest
    else if kind.isSpecial ∨ !isTail c then pathAfterSlash kind s
    else ([], false, s)
  | [] => if kind.isSpecial then pathAfterSlash kind [] else ([], false, [])

/-! ### Authorities -/

/-- Name and password.  The password keeps its colon only when it is not empty. -/
def userinfoText (s : List Char) : String :=
  let (name, rest) := s.span (· ≠ ':')
  let password := rest.drop 1
  let name := Percent.encodeText Percent.userinfo name
  let password := Percent.encodeText Percent.userinfo password
  if name.isEmpty ∧ password.isEmpty then ""
  else if password.isEmpty then String.ofList (name ++ ['@'])
  else String.ofList (name ++ ':' :: password ++ ['@'])

/-- Splits at the last at-sign. -/
def splitUserinfo (authority : List Char) : Option (List Char) × List Char :=
  if authority.contains '@' then
    let host := (authority.reverse.takeWhile (· ≠ '@')).reverse
    (some (authority.take (authority.length - host.length - 1)), host)
  else (none, authority)

/-- Splits a host from its port at the first colon that is not between brackets. -/
def splitPort (inBrackets : Bool) : List Char → List Char × Option (List Char)
  | [] => ([], none)
  | c :: rest =>
    if c = ':' ∧ !inBrackets then ([], some rest)
    else
      let inBrackets := if c = '[' then true else if c = ']' then false else inBrackets
      let (host, port) := splitPort inBrackets rest
      (c :: host, port)

/-- The largest port number. -/
def maxPort : Nat := UInt16.size - 1

/-- A port number, and what follows its digits, which can only be a backslash and more.  An empty
number and the default are none. -/
def readPort (kind : SchemeKind) (s : List Char) : Except UrlError (Option Nat × List Char) :=
  let (digits, rest) := s.span Char.isDigit
  match Text.numeral? 10 digits, rest.head? with
  | some n, none | some n, some '\\' =>
    if maxPort < n then .error .invalidPort
    else .ok (if digits.isEmpty ∨ kind = .web n then none else some n, rest)
  | _, _ => .error .invalidPort

/-- An authority, which ends before the path, the query or the fragment.  A host may be empty only
where the syntax is free, and then nothing stands around it. -/
def readAuthority (kind : SchemeKind) (s : List Char) :
    Except UrlError (Authority × List Char) := do
  let (text, rest) := s.span (fun c => !(kind.isSlash c || isTail c))
  let (user, hostAndPort) := splitUserinfo text
  if user = some [] ∧ hostAndPort = [] ∧ rest ≠ [] then throw .emptyHost
  let userinfo := userinfoText (user.getD [])
  let (host, portText) := splitPort false hostAndPort
  if kind.isSpecial ∧ host.isEmpty then throw .emptyHost
  let hostText ← if kind.isSpecial then hostName host else opaqueHost host
  if host.isEmpty ∧ (portText.isSome ∨ !userinfo.isEmpty) then throw .emptyHost
  let (portNumber, more) ← match portText with
    | some p => readPort kind p
    | none => .ok (none, [])
  return (⟨userinfo, hostText, portNumber⟩, more ++ rest)

/-! ### Whole URLs -/

/-- The query and the fragment, which stand at the end. -/
def readTail (kind : SchemeKind) (s : List Char) : Option String × Option String :=
  let fragment (s : List Char) : Option String := match s with
    | '#' :: rest => some (String.ofList (Percent.encodeText Percent.fragment rest))
    | _ => none
  match s with
  | '?' :: rest =>
    let (query, rest) := rest.span (· ≠ '#')
    let set := if kind.isSpecial then Percent.specialQuery else Percent.query
    (some (String.ofList (Percent.encodeText set query)), fragment rest)
  | _ => (none, fragment s)

/-- Puts a URL together from its parts. -/
def ofParts (kind : SchemeKind) (scheme : String) (authority : Option Authority) (path : UrlPath)
    (rest : List Char) : Url :=
  let (query, fragment) := readTail kind rest
  ⟨scheme, authority, path, query, fragment⟩

/-- What follows a slash, if there is one. -/
def afterFileSlash? (s : List Char) : Option (List Char) :=
  match s.dropWhile isBreak with
  | c :: rest => if SchemeKind.file.isSlash c then some rest else none
  | [] => none

/-- The host and the path of a file, after two slashes.  A drive letter is no host but the start of
the path.  This machine needs no name; the path after it still has its own slash. -/
def fileHost (s : List Char) : Except UrlError (String × List String × List Char) := do
  let (text, rest) := s.span (fun c => !(SchemeKind.file.isSlash c || isTail c))
  let name := joined text
  if isDriveLetter name then
    let (path, _, rest) := pathAfterSlash .file s
    return ("", path, rest)
  let host ← if name.isEmpty then pure "" else hostName name
  if host.isEmpty ∨ host = "localhost" then
    let (path, _, rest) := pathAfterSlash .file rest
    return ("", path, rest)
  let (path, drive, rest) := pathAfterSlash .file ((afterFileSlash? rest).getD rest)
  return (if drive then "" else host, path, rest)

/-- What follows the scheme of a file, tabs and line ends included. -/
def fileUrl (s : List Char) : Except UrlError Url := do
  let (host, path, rest) ← match afterFileSlash? s with
    | none => pure (hostless s)
    | some one => match afterFileSlash? one with
      | none => pure (hostless one)
      | some two => fileHost two
  return ofParts .file "file" (some ⟨"", host, none⟩) (.segments path) (joined rest)
where
  /-- A path without a host before it. -/
  hostless (s : List Char) : String × List String × List Char :=
    let (path, _, rest) := pathAfterSlash .file s
    ("", path, rest)

/-- What follows the scheme of the web. -/
def webUrl (kind : SchemeKind) (scheme : String) (s : List Char) : Except UrlError Url := do
  let (authority, rest) ← readAuthority kind (s.dropWhile kind.isSlash)
  let (path, _, rest) := pathStart kind rest
  return ofParts kind scheme (some authority) (.segments path) rest

/-- What follows any other scheme. -/
def otherUrl (scheme : String) (s : List Char) : Except UrlError Url :=
  match s with
  | '/' :: '/' :: rest => do
    let (authority, rest) ← readAuthority .other rest
    let (path, _, rest) := pathStart .other rest
    return ofParts .other scheme (some authority) (.segments path) rest
  | '/' :: rest =>
    let (path, _, rest) := pathAfterSlash .other rest
    .ok (ofParts .other scheme none (.segments path) rest)
  | _ =>
    let (path, rest) := s.span (fun c => !isTail c)
    .ok (ofParts .other scheme none
      (.plain (String.ofList (Percent.encodeText Percent.controls path))) rest)

/-- The URL a text stands for. -/
def parse (s : String) : Except UrlError Url :=
  let text := trimmed s.toList
  match scheme? (joined text) with
  | none => .error .relative
  | some (scheme, rest) =>
    match SchemeKind.ofScheme scheme with
    | .file => fileUrl ((text.dropWhile (· ≠ ':')).drop 1)
    | .web defaultPort => webUrl (.web defaultPort) scheme rest
    | .other => otherUrl scheme rest

end HttpScript.Url
