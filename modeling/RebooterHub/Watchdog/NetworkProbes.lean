import RebooterHub.Data.Spelling
import RebooterHub.Setup.Picker
import RebooterHub.Watchdog.Probes

/-!
# Watchdog — NetworkProbes

`_probes`: the probes that ask the network, with a record of what they tried there.

`Platform` is what the standard library makes of a text before anything is sent; `Network` is what
comes back.
-/

namespace RebooterHub.Watchdog

/-! ### The platform and the network -/

/-- How `subprocess.run` takes a ping. -/
inductive PingLaunch where
  | runs
  /-- The program is not there any more: `FileNotFoundError`. -/
  | missing
  /-- The arguments or the timeout are refused. -/
  | refused (e : PyError)
deriving DecidableEq, Repr

/-- What the standard library makes of a text before it asks the network. -/
structure Platform where
  /-- `str` of a float, a list or a dict. -/
  spell : Json → String
  spell_ne : ∀ x, Text.strip (spell x).toList ≠ []
  /-- The resolver takes the name: it can be encoded.  For another it raises a `UnicodeError`. -/
  resolvable : String → Bool
  /-- `shutil.which("ping")` finds the program. -/
  hasPing : Bool
  /-- `subprocess.run` on a host and a timeout. -/
  launch : String → Int → PingLaunch
  /-- `urlparse` finds a scheme that is http or https, a host and a port, and the client takes
  them. -/
  fetchable : String → Bool
  /-- `urljoin`; `none` is its `ValueError`. -/
  urljoin : String → String → Option String

/-- How a ping ended. -/
inductive PingReply where
  | timeout
  | exited (code : Int) (stdout stderr : String)

/-- The status of an answer, and its `Location`. -/
structure HttpReply where
  status : Int
  location : Option String

/-- What comes back from the network. -/
structure Network where
  /-- A connection is made. -/
  tcp : String → Int → Bool
  /-- The name is resolved. -/
  dns : String → Bool
  ping : String → Int → PingReply
  /-- The answer to a `GET`, unless the exchange fails. -/
  http : String → Option HttpReply

/-- Something that was tried on the network. -/
inductive Attempt where
  | tcp (host : String) (port : Int)
  | dns (name : String)
  | ping (host : String)
  | http (url : String)
deriving DecidableEq, Repr

/-- What a probe answers, and what it tried. -/
abbrev Traced := Except PyError (Answer × List Attempt)

variable (p : Platform) (net : Network)

/-! ### tcp and dns -/

/-- `_probe_tcp`. -/
def probeTcp (host : Json) (port : Int) : Except PyError (Bool × List Attempt) :=
  if !host.truthy ∨ port = 0 then .ok (false, [])
  else match host with
    | .str s => if p.resolvable s then .ok (net.tcp s port, [.tcp s port]) else .error .valueError
    | _ => .error .typeError

/-- `_probe_dns`. -/
def probeDns (hostname : Json) : Except PyError (Bool × List Attempt) :=
  if !hostname.truthy then .ok (false, [])
  else match hostname with
    | .str s => if p.resolvable s then .ok (net.dns s, [.dns s]) else .error .valueError
    | _ => .error .typeError

/-- What `run_probe` answers for the probes that return a truth value. -/
def plain (r : Bool × List Attempt) : Answer × List Attempt := ((r.1, .obj []), r.2)

/-- `probe.get(name, "")`. -/
def fieldOrBlank (ms : List (String × Json)) (name : String) : Json :=
  (ms.lookup name).getD (.str "")

/-- The tcp and the host_awake probe. -/
def probeConnect (ms : List (String × Json)) (defaultPort : Int) : Traced := do
  let port := field ms "port"
  let n ← (if port.truthy then port else .int defaultPort).toInt
  return plain (← probeTcp p net (fieldOrBlank ms "host") n)

/-! ### ping -/

/-- The digits and dots of `time=12.5 ms`, if the text begins so. -/
def rttHere (cs : List Char) : Option (List Char) :=
  match cs with
  | t :: i :: m :: e :: eq :: rest =>
    if [t, i, m, e].map Char.toLower = "time".toList ∧ (eq = '=' ∨ eq = '<') then
      let rest := rest.dropWhile Text.isspace
      let number := rest.takeWhile fun c => c.isDigit ∨ c = '.'
      match (rest.dropWhile fun c => c.isDigit ∨ c = '.').dropWhile Text.isspace with
      | m :: s :: _ =>
        if number ≠ [] ∧ [m, s].map Char.toLower = "ms".toList then some number else none
      | _ => none
    else none
  | _ => none

/-- `_PING_RTT_RE.search`. -/
def searchRtt : List Char → Option (List Char)
  | [] => none
  | c :: cs => (rttHere (c :: cs)).or (searchRtt cs)

/-- The `rtt_ms` of a successful ping. -/
def rttMember (stdout : String) : List (String × Json) :=
  match (searchRtt stdout.toList).bind Text.float with
  | some x => [("rtt_ms", floatJson x)]
  | none => []

/-- The last line of `(stderr or stdout).strip()`, at most 200 characters of it. -/
def stderrTail (stdout stderr : String) : String :=
  let text := Text.strip (if stderr = "" then stdout else stderr).toList
  String.ofList (((text.splitOnP Setup.isLineBreak).getLast?.getD []).take 200)

/-- The answer when the program is not there. -/
def pingFallback (host reason : String) : Traced := do
  let (ok, tried) ← probeTcp p net (.str host) 80
  return ((ok, .obj [("fallback", .str "tcp_80"), ("reason", .str reason)]), tried)

/-- The part of `_probe_ping` that runs the program. -/
def pingHost (host : String) (timeout : Int) : Traced :=
  if !p.hasPing then
    pingFallback p net host "ping binary not available in container"
  else match p.launch host timeout with
    | .refused e => .error e
    | .missing => pingFallback p net host "ping disappeared mid-probe"
    | .runs => match net.ping host timeout with
      | .timeout => .ok (failed "ping subprocess timeout" [], [.ping host])
      | .exited code stdout stderr =>
        if code = 0 then
          .ok ((true, .obj (("host", .str host) :: rttMember stdout)), [.ping host])
        else
          let reason := if code = 1 then "no_reply" else "ping_error"
          .ok ((false, .obj [("host", .str host), ("reason", .str reason),
            ("exit_code", .int code), ("stderr_tail", .str (stderrTail stdout stderr))]),
            [.ping host])

/-- `_probe_ping`. -/
def probePing (ms : List (String × Json)) : Traced := do
  let host ← textField ms "host"
  if host = "" then return (failed "missing host" [], [])
  pingHost p net host (max 1 (← intField ms "timeout_seconds" 3))

/-! ### internet -/

/-- `DEFAULT_INTERNET_TARGETS`. -/
def defaultInternetTargets : List Json :=
  ["1.1.1.1", "8.8.8.8", "4.2.2.2"].map fun host => .obj [("host", .str host), ("port", .int 53)]

/-- The host of a target, stripped. -/
def targetHost (t : List (String × Json)) : String :=
  let host := field t "host"
  if host.truthy then String.ofList (Text.strip (host.text p.spell)) else ""

/-- `int(t.get("port") or 0)`. -/
def targetPort (t : List (String × Json)) : Except PyError Int :=
  let port := field t "port"
  (if port.truthy then port else .int 0).toInt

/-- How a target fared. -/
inductive TargetResult where
  | succeeded (host : String) (port : Int)
  | failed (host : String) (port : Json) (error : String)

/-- `"bad target shape"`. -/
def badTargetShape : String := "bad target shape"

/-- One target of an internet probe. -/
def probeTarget (t : Json) : Except PyError (TargetResult × List Attempt) :=
  match t with
  | .obj ms =>
    let host := targetHost p ms
    match targetPort ms with
    | .error .typeError | .error .valueError =>
      let host := field ms "host"
      let text := if host.truthy then String.ofList (host.text p.spell) else ""
      .ok (.failed text (field ms "port") badTargetShape, [])
    | .error e => .error e
    | .ok port =>
      if host = "" ∨ port ≤ 0 then .ok (.failed host (.int port) badTargetShape, [])
      else do
        let (ok, tried) ← probeTcp p net (.str host) port
        return (if ok then .succeeded host port
          else .failed host (.int port) "tcp_connect_failed", tried)
  | t => .ok (.failed (String.ofList (t.text p.spell)) .null badTargetShape, [])

/-- The targets of an internet probe, one after the other. -/
def probeTargets : List Json → Except PyError (List TargetResult × List Attempt)
  | [] => .ok ([], [])
  | t :: ts => do
    let (result, tried) ← probeTarget p net t
    let (results, more) ← probeTargets ts
    return (result :: results, tried ++ more)

/-- The entry of a target that was reached. -/
def TargetResult.success? : TargetResult → Option Json
  | .succeeded host port => some (.obj [("host", .str host), ("port", .int port)])
  | .failed .. => none

/-- The entry of a target that was not reached. -/
def TargetResult.failure? : TargetResult → Option Json
  | .succeeded .. => none
  | .failed host port error =>
    some (.obj [("host", .str host), ("port", port), ("error", .str error)])

/-- `probe.get("targets") or []`, unless it is no list or empty. -/
def configuredTargets (ms : List (String × Json)) : Option (List Json) :=
  match (field ms "targets").orNil with
  | .arr (t :: ts) => some (t :: ts)
  | _ => none

/-- The targets that are tried: of the configured ones the first eight. -/
def triedTargets (ms : List (String × Json)) : List Json :=
  match configuredTargets ms with
  | some ts => ts.take 8
  | none => defaultInternetTargets

/-- `_probe_internet`. -/
def probeInternet (ms : List (String × Json)) : Traced := do
  let (results, tried) ← probeTargets p net (triedTargets ms)
  let succeeded := results.filterMap TargetResult.success?
  let details :=
    [("targets_succeeded", Json.arr succeeded),
      ("targets_failed", .arr (results.filterMap TargetResult.failure?)),
      ("targets_total", .int (triedTargets ms).length)] ++
      if (configuredTargets ms).isNone then [("used_default_targets", .bool true)] else []
  return ((!succeeded.isEmpty, .obj details), tried)

/-! ### http -/

/-- The loop of `_probe_http`: how many requests are left, the address and those seen. -/
def followHttp : Nat → String → List String → Bool × List Attempt
  | 0, _, _ => (false, [])
  | n + 1, url, seen =>
    if url = "" ∨ url ∈ seen ∨ !p.fetchable url then (false, [])
    else match net.http url with
      | none => (false, [.http url])
      | some reply =>
        if 200 ≤ reply.status ∧ reply.status < 300 then (true, [.http url])
        else if 300 ≤ reply.status ∧ reply.status < 400 then
          match reply.location.bind fun l => if l = "" then none else p.urljoin url l with
          | none => (false, [.http url])
          | some next =>
            let (ok, tried) := followHttp n next (url :: seen)
            (ok, .http url :: tried)
        else (false, [.http url])

/-- `_probe_http`, with its three redirects. -/
def probeHttp (url : Json) : Except PyError (Bool × List Attempt) :=
  match url with
  | .str s => .ok (followHttp p net 4 s [])
  -- a list or an object cannot be put into a set
  | .arr (_ :: _) | .obj (_ :: _) => .error .typeError
  | _ => .ok (false, [])

end RebooterHub.Watchdog
