/-
Module: HttpScript.Url.Basic
Purpose: Absolute URLs, the identities of documents.  A URL is kept as the parts of its one
  normalized text, so two URLs are the same exactly when their texts are.
Main exports: Url, UrlPath, Url.text
-/
import HttpScript.Url.Host

namespace HttpScript

/-- What stands between the two slashes and the path. -/
structure Authority where
  /-- Name and password with their separators, or nothing. -/
  userinfo : String
  host : String
  port : Option Nat
deriving Repr, DecidableEq, Inhabited

/-- The path of a URL: steps below a root, or a text without structure. -/
inductive UrlPath where
  | segments (steps : List String)
  | plain (text : String)
deriving Repr, DecidableEq, Inhabited

/-- An absolute URL.  Every part is in its encoded form. -/
structure Url where
  scheme : String
  authority : Option Authority
  path : UrlPath
  query : Option String
  fragment : Option String
deriving Repr, DecidableEq, Inhabited

def UrlPath.text : UrlPath → String
  | .segments steps => String.join (steps.map ("/" ++ ·))
  | .plain text => text

def Authority.text (a : Authority) : String :=
  let port := match a.port with
    | some n => s!":{n}"
    | none => ""
  "//" ++ a.userinfo ++ a.host ++ port

namespace Url

/-- Without an authority, a path that begins with an empty step is set apart from one by a dot. -/
def dotBeforePath (u : Url) : String :=
  match u.authority, u.path with
  | none, .segments ("" :: _ :: _) => "/."
  | _, _ => ""

/-- The text of a URL. -/
def text (u : Url) : String :=
  let authority := match u.authority with
    | some a => a.text
    | none => ""
  let query := match u.query with
    | some q => "?" ++ q
    | none => ""
  let fragment := match u.fragment with
    | some f => "#" ++ f
    | none => ""
  u.scheme ++ ":" ++ authority ++ u.dotBeforePath ++ u.path.text ++ query ++ fragment

instance : ToString Url := ⟨text⟩

end Url

end HttpScript
