import RebooterHub.Data.Json
import RebooterHub.Data.Text
import RebooterHub.Outbound.Addresses

/-!
# Outbound — Urls

`urllib.parse.urlparse`, of which the scheme, the host and the port are read.

Unicode's compatibility normalization, which `urlparse` checks the host with, is a parameter.
-/

namespace RebooterHub.Outbound

/-- `str.partition`: what stands before the first `sep`, whether there is one, and the rest. -/
def partition (sep : Char) (cs : List Char) : List Char × Bool × List Char :=
  match cs.dropWhile (· ≠ sep) with
  | [] => (cs.takeWhile (· ≠ sep), false, [])
  | _ :: rest => (cs.takeWhile (· ≠ sep), true, rest)

/-- `_check_bracketed_host`. -/
def checkBracketedHost (host : List Char) : Except PyError Unit :=
  match host with
  | 'v' :: cs =>
    let version := cs.takeWhile fun c => (Hex.value c).isSome
    match cs.drop version.length with
    | '.' :: _ :: _ => if version = [] then .error .valueError else .ok ()
    | _ => .error .valueError
  | _ => match ipAddress (String.ofList host) with
    | some (.v6 _) => .ok ()
    | _ => .error .valueError

/-- `_checknetloc`. -/
def checkNetloc (nfkc : List Char → List Char) (netloc : List Char) : Except PyError Unit :=
  if netloc.all (·.toNat < 128) then .ok ()
  else
    let n := netloc.filter (· ∉ ['@', ':', '#', '?'])
    let netloc2 := nfkc n
    if n = netloc2 then .ok ()
    else if netloc2.any (· ∈ ['/', '?', '#', '@', ':']) then .error .valueError
    else .ok ()

/-- The parts of a parsed URL that are read. -/
structure ParsedUrl where
  scheme : List Char
  netloc : List Char
deriving DecidableEq

/-- A character of `scheme_chars`. -/
def isSchemeChar (c : Char) : Bool := c.isAlphanum || c ∈ ['+', '-', '.']

/-- The scheme of a URL and what follows it. -/
def splitScheme (url : List Char) : List Char × List Char :=
  let (scheme, found, rest) := partition ':' url
  if found && (scheme.head?.any (·.isAlpha)) && scheme.all isSchemeChar then
    (Text.lower scheme, rest)
  else ([], url)

/-- `urlparse`. -/
def urlparse (nfkc : List Char → List Char) (url : List Char) : Except PyError ParsedUrl := do
  -- leading blanks and control characters are dropped, and all tabs and line ends
  let url := (url.dropWhile (·.toNat ≤ 0x20)).filter (· ∉ ['\t', '\r', '\n'])
  let (scheme, rest) := splitScheme url
  let netloc := match rest with
    | '/' :: '/' :: rest => rest.takeWhile (· ∉ ['/', '?', '#'])
    | _ => []
  if decide ('[' ∈ netloc) != decide (']' ∈ netloc) then throw .valueError
  if '[' ∈ netloc then
    checkBracketedHost (partition ']' (partition '[' netloc).2.2).1
  checkNetloc nfkc netloc
  return ⟨scheme, netloc⟩

/-- `_hostinfo`. -/
def ParsedUrl.hostinfo (u : ParsedUrl) : List Char × Option (List Char) :=
  let hostinfo := (u.netloc.splitOn '@').getLastD []
  let (before, haveOpenBr, bracketed) := partition '[' hostinfo
  let (hostname, port) :=
    if haveOpenBr then
      let (hostname, _, rest) := partition ']' bracketed
      (hostname, (partition ':' rest).2.2)
    else ((partition ':' before).1, (partition ':' before).2.2)
  (hostname, if port = [] then none else some port)

/-- `hostname`. -/
def ParsedUrl.hostname (u : ParsedUrl) : Option (List Char) :=
  let hostname := u.hostinfo.1
  if hostname = [] then none
  else
    let (name, percent, zone) := partition '%' hostname
    some (Text.lower name ++ (if percent then ['%'] else []) ++ zone)

/-- `port`. -/
def ParsedUrl.port (u : ParsedUrl) : Except PyError (Option Nat) :=
  match u.hostinfo.2 with
  | none => .ok none
  | some port =>
    if port.all isDecimal then
      let n := Nat.ofDigitChars 10 port 0
      if n ≤ 65535 then .ok (some n) else .error .valueError
    else .error .valueError

end RebooterHub.Outbound
