/-
Module: HttpScript.Url.Host
Purpose: Host names: which are refused, and the one spelling in which the others are kept.
Main exports: UrlError, UrlError.message, hostName, opaqueHost
-/
import HttpScript.Text.Utf8
import HttpScript.Url.Address
import HttpScript.Url.Domain
import HttpScript.Url.Percent

namespace HttpScript

/-- Why a text is no absolute URL. -/
inductive UrlError where
  | relative
  | emptyHost
  | invalidHostName
  | invalidHostCharacter
  | invalidPort
  | invalidIpv4
  | invalidIpv6
deriving Repr, DecidableEq

def UrlError.message : UrlError → String
  | .relative => "relative URL without a base"
  | .emptyHost => "empty host"
  | .invalidHostName => "invalid international domain name"
  | .invalidHostCharacter => "invalid domain character"
  | .invalidPort => "invalid port number"
  | .invalidIpv4 => "invalid IPv4 address"
  | .invalidIpv6 => "invalid IPv6 address"

namespace Url

/-- Characters that cannot stand in any host name. -/
def forbiddenHostChars : List Char :=
  ['\x00', '\t', '\n', '\r', ' ', '#', '/', ':', '<', '>', '?', '@', '[', '\\', ']', '^', '|']

/-- In a name that can be looked up, controls and the percent sign are out as well. -/
def isForbidden (c : Char) : Bool :=
  forbiddenHostChars.contains c || c.toNat < 0x20 || c == '%' || c == '\x7f'

/-- An address between brackets, if the text starts with one. -/
def bracketed? (host : List Char) : Option (Except UrlError String) :=
  match host with
  | '[' :: rest =>
    if rest.getLast? = some ']' then
      match Address.ipv6? rest.dropLast with
      | some address => some (.ok address)
      | none => some (.error .invalidIpv6)
    else some (.error .invalidIpv6)
  | _ => none

/-- The host of a URL of a scheme with fixed syntax: decoded and in ASCII.  A name
that ends in a number has to be an address. -/
def hostName (host : List Char) : Except UrlError String :=
  match bracketed? host with
  | some result => result
  | none =>
    match (Text.Utf8.decode? (Percent.decode host)).bind Domain.ascii? with
    | none => .error .invalidHostName
    | some ascii =>
      if ascii.any isForbidden then .error .invalidHostName
      else if ascii.isEmpty then .error .emptyHost
      else if Address.endsInNumber ascii then
        match Address.ipv4? ascii with
        | some address => .ok address
        | none => .error .invalidIpv4
      else .ok (String.ofList ascii)

/-- The host of a URL of any other scheme: as it is written, with controls encoded. -/
def opaqueHost (host : List Char) : Except UrlError String :=
  match bracketed? host with
  | some result => result
  | none =>
    if host.any forbiddenHostChars.contains then .error .invalidHostCharacter
    else .ok (String.ofList (Percent.encodeText Percent.controls host))

end Url

end HttpScript
