import RebooterHub.Outbound.Urls
import RebooterHub.Support.Fallible

/-!
# Outbound — Guard

`services/ssrf_guard`: whether the hub may send a request to a URL, and to which of the addresses
of its host.

The addresses a name resolves to, the setting that allows plain HTTP and Unicode's normalization
are parameters.

* `ssrf_guard`: an accepted URL is pinned to one of the addresses of its host, none of which is
  blocked, and an IPv4 address does not get past the guard in the form of an IPv6 address.
-/

namespace RebooterHub.Outbound
open RebooterHub.Fallible

/-! ### Classification -/

/-- `_METADATA_IPS`. -/
def metadataIps : List IPAddress :=
  [.v4 ⟨octets 169 254 169 254, by decide⟩,
    .v6 ⟨(ipv6Network [0xfd00, 0xec2, 0, 0, 0, 0, 0, 0x254] 128).address, none, by decide⟩]

/-- `_CGNAT_NETWORK`. -/
def cgnatNetwork : Network := ipv4Network 100 64 0 0 10

/-- `_normalize_ip`. -/
def normalizeIp : IPAddress → IPAddress
  | .v4 a => .v4 a
  | .v6 a => match a.ipv4Mapped with
    | some m => .v4 m
    | none => match a.sixtofour with
      | some m => .v4 m
      | none => .v6 a

/-- The ranges that are blocked, as the reasons name them. -/
inductive BlockedRange where
  | metadata
  | unspecified
  | loopback
  | linkLocal
  | multicast
  | reserved
  | private_
  | cgnat
deriving DecidableEq

/-- Why an address is blocked. -/
inductive BlockReason where
  | invalid (text : String)
  | range (r : BlockedRange) (ip : IPAddress)
deriving DecidableEq

/-- The first of the ranges an address is in, in the order they are checked. -/
def blockedRange : IPAddress → Option BlockedRange
  | .v4 a =>
    if .v4 a ∈ metadataIps then some .metadata
    else if a.isUnspecified then some .unspecified
    else if a.isLoopback then some .loopback
    else if a.isLinkLocal then some .linkLocal
    else if a.isMulticast then some .multicast
    else if a.isReserved then some .reserved
    else if a.isPrivate then some .private_
    else if cgnatNetwork.contains a.ip then some .cgnat
    else none
  | .v6 a =>
    if .v6 a ∈ metadataIps then some .metadata
    else if a.isUnspecified then some .unspecified
    else if a.isLoopback then some .loopback
    else if a.isLinkLocal then some .linkLocal
    else if a.isMulticast then some .multicast
    else if a.isReserved then some .reserved
    else if a.isPrivate then some .private_
    else none

/-- `is_blocked_ip`; `none` is `(False, "")`. -/
def isBlockedIp (ipStr : String) : Option BlockReason :=
  match ipAddress ipStr with
  | none => some (.invalid ipStr)
  | some ip =>
    let ip := normalizeIp ip
    (blockedRange ip).map (.range · ip)

/-- `str(ip)`. -/
def IPAddress.str : IPAddress → String
  | .v4 a => String.ofList a.str
  | .v6 a => String.ofList a.str

/-- The text of a reason; `repr` is Python's. -/
def BlockReason.message (repr : String → String) : BlockReason → String
  | .invalid text => "not a valid IP address: " ++ repr text
  | .range .metadata ip => "cloud metadata endpoint (" ++ ip.str ++ ") is blocked"
  | .range .unspecified ip => "unspecified address (" ++ ip.str ++ ") is blocked"
  | .range .loopback ip => "loopback address (" ++ ip.str ++ ") is blocked"
  | .range .linkLocal ip => "link-local address (" ++ ip.str ++ ") is blocked"
  | .range .multicast ip => "multicast address (" ++ ip.str ++ ") is blocked"
  | .range .reserved ip => "reserved address (" ++ ip.str ++ ") is blocked"
  | .range .private_ ip => "private address (" ++ ip.str ++ ") is blocked"
  | .range .cgnat ip => "CGNAT / shared address space (" ++ ip.str ++ ") is blocked"

/-! ### Validation -/

/-- What the guard asks. -/
structure Surroundings where
  /-- `socket.getaddrinfo`: the address of each record, the text of a `gaierror`, or another
  exception. -/
  getaddrinfo : String → Except (String ⊕ PyError) (List String)
  /-- The text of the setting `outbound.allow_http`, unless reading it fails. -/
  allowHttp : Option String
  nfkc : List Char → List Char

/-- Why a URL is refused. -/
inductive GuardReason where
  | emptyUrl
  | scheme (scheme : String)
  | plainHttp
  | noHostname
  | unresolved (hostname error : String)
  | noAddresses (hostname : String)
  | address (reason : BlockReason)
deriving DecidableEq

/-- `SSRFBlockedError`. -/
structure SSRFBlockedError where
  reason : GuardReason
  url : Option String
  ip : Option String
deriving DecidableEq

/-- The text of a refusal; `repr` is Python's. -/
def GuardReason.message (repr : String → String) : GuardReason → String
  | .emptyUrl => "empty or non-string URL"
  | .scheme name => "unsupported URL scheme " ++ repr name ++ ": only http/https allowed"
  | .plainHttp => "plain http:// is not allowed for outbound webhooks " ++
      "(enable the 'outbound.allow_http' setting to override)"
  | .noHostname => "URL has no hostname"
  | .unresolved hostname error => "hostname does not resolve: " ++ hostname ++ " (" ++ error ++ ")"
  | .noAddresses hostname => "hostname resolved to no addresses: " ++ hostname
  | .address reason => reason.message repr

/-- How a validation may fail. -/
inductive GuardError where
  | blocked (e : SSRFBlockedError)
  | raised (e : PyError)
deriving DecidableEq

/-- An address without its scope id. -/
def stripScope (addr : String) : String := String.ofList (addr.toList.takeWhile (· ≠ '%'))

/-- The addresses, each once. -/
def uniqueAddresses (addrs : List String) : List String :=
  addrs.foldl (fun ips addr => if stripScope addr ∈ ips then ips else ips ++ [stripScope addr]) []

/-- `_resolve_all`. -/
def resolveAll (s : Surroundings) (hostname : String) : Except GuardError (List String) :=
  match s.getaddrinfo hostname with
  | .error (.inl error) => .error (.blocked ⟨.unresolved hostname error, none, none⟩)
  | .error (.inr e) => .error (.raised e)
  | .ok addrs =>
    let ips := uniqueAddresses addrs
    if ips = [] then .error (.blocked ⟨.noAddresses hostname, none, none⟩) else .ok ips

/-- `_http_allowed`. -/
def httpAllowed (s : Surroundings) : Bool :=
  s.allowHttp.any fun raw =>
    String.ofList (Text.lower (Text.strip raw.toList)) ∈ ["1", "true", "yes", "on"]

/-- A `ValueError` of `urlparse` or of a part it reads. -/
def raising {α : Type} (x : Except PyError α) : Except GuardError α :=
  x.mapError .raised

/-- The first candidate that is blocked. -/
def checkAddresses (url : String) : List String → Except GuardError Unit
  | [] => .ok ()
  | ip :: ips => match isBlockedIp ip with
    | some reason => .error (.blocked ⟨.address reason, some url, some ip⟩)
    | none => checkAddresses url ips

/-- `validate_url`. -/
def validateUrl (s : Surroundings) (url : String) (allowInternal : Bool) :
    Except GuardError (String × String × Nat) := do
  if url = "" then throw (.blocked ⟨.emptyUrl, none, none⟩)
  let parsed ← raising (urlparse s.nfkc (Text.strip url.toList))
  let scheme := String.ofList (Text.lower parsed.scheme)
  if scheme ∉ ["http", "https"] then throw (.blocked ⟨.scheme scheme, some url, none⟩)
  if scheme = "http" && !allowInternal && !httpAllowed s then
    throw (.blocked ⟨.plainHttp, some url, none⟩)
  match parsed.hostname with
  | none => throw (.blocked ⟨.noHostname, some url, none⟩)
  | some name =>
    let hostname := String.ofList name
    let port ← raising parsed.port
    let port := match port with
      | none | some 0 => if scheme = "https" then 443 else 80
      | some n => n
    let candidates ← resolveAll s hostname
    if !allowInternal then checkAddresses url candidates
    return (hostname, candidates.headD "", port)

/-! ### The forms of an IPv4 address -/

section
variable (a : IPv4Address) (b : IPv6Address)

/-- `::ffff:a`. -/
def IsMapped : Prop := b.ip = 0xffff * 2 ^ 32 + a.ip

/-- An address of the 6to4 network of `a`. -/
def IsSixToFour : Prop := ∃ low < 2 ^ 80, b.ip = 0x2002 * 2 ^ 112 + a.ip * 2 ^ 80 + low

/-- `::a`. -/
def IsCompatible : Prop := b.ip = a.ip

/-- `64:ff9b::a`. -/
def IsNat64 : Prop := b.ip = 0x64ff9b * 2 ^ 96 + a.ip

end

section
variable {a : IPv4Address} {b : IPv6Address}

theorem normalize_mapped (h : IsMapped a b) : normalizeIp (.v6 b) = .v4 a := by
  have hlt := a.lt
  have hprefix : b.ip / 2 ^ 32 = 0xffff := by
    rw [h]
    omega
  have hip : b.ip % 2 ^ 32 = a.ip := by
    rw [h]
    omega
  rw [normalizeIp, ipv4Mapped_eq_some hprefix hip]

theorem normalize_sixToFour (h : IsSixToFour a b) : normalizeIp (.v6 b) = .v4 a := by
  obtain ⟨low, hlow, h⟩ := h
  have hlt := a.lt
  have hnot : b.ip / 2 ^ 32 ≠ 0xffff := by
    rw [h]
    omega
  have hprefix : b.ip / 2 ^ 112 = 0x2002 := by
    rw [h]
    omega
  have hip : b.ip / 2 ^ 80 % 2 ^ 32 = a.ip := by
    rw [h]
    omega
  rw [normalizeIp, ipv4Mapped_eq_none hnot, sixtofour_eq_some hprefix hip]

theorem blocked_of_isReserved (h : b.isReserved = true) :
    (blockedRange (.v6 b)).isSome = true := by
  rw [blockedRange, if_pos h]
  split_ifs <;> rfl

/-- The addresses of `::/8` are blocked, unless they are mapped ones. -/
theorem blocked_of_lt (hlt : b.ip < 2 ^ 120) (hmapped : b.ip / 2 ^ 32 ≠ 0xffff) :
    (blockedRange (normalizeIp (.v6 b))).isSome = true := by
  have hsixToFour : b.ip / 2 ^ 112 ≠ 0x2002 := by omega
  have hnormal : normalizeIp (.v6 b) = .v6 b := by
    rw [normalizeIp, ipv4Mapped_eq_none hmapped, sixtofour_eq_none hsixToFour]
  rw [hnormal]
  exact blocked_of_isReserved (isReserved_of_lt hlt)

theorem blocked_compatible (h : IsCompatible a b) :
    (blockedRange (normalizeIp (.v6 b))).isSome = true := by
  have hlt := a.lt
  refine blocked_of_lt ?_ ?_ <;> rw [h] <;> omega

theorem blocked_nat64 (h : IsNat64 a b) :
    (blockedRange (normalizeIp (.v6 b))).isSome = true := by
  have hlt := a.lt
  refine blocked_of_lt ?_ ?_ <;> rw [h] <;> omega

theorem isBlockedIp_of_ipAddress {text : String} {ip : IPAddress} (h : ipAddress text = some ip) :
    isBlockedIp text = (blockedRange (normalizeIp ip)).map (.range · (normalizeIp ip)) := by
  rw [isBlockedIp, h]

end

/-! ### The addresses of a host -/

theorem mem_foldl_addresses {addrs ips : List String} {ip : String} :
    ip ∈ addrs.foldl
        (fun ips addr => if stripScope addr ∈ ips then ips else ips ++ [stripScope addr]) ips ↔
      ip ∈ ips ∨ ∃ addr ∈ addrs, stripScope addr = ip := by
  induction addrs generalizing ips with
  | nil => simp
  | cons addr addrs ih =>
      rw [List.foldl_cons, ih]
      split
      · next hmem =>
          constructor
          · rintro (hip | ⟨x, hx, rfl⟩)
            · exact .inl hip
            · exact .inr ⟨x, List.mem_cons_of_mem _ hx, rfl⟩
          · rintro (hip | ⟨x, hx, rfl⟩)
            · exact .inl hip
            · rcases List.mem_cons.mp hx with rfl | hx
              · exact .inl hmem
              · exact .inr ⟨x, hx, rfl⟩
      · simp [or_assoc, eq_comm]

/-- The addresses are those of the records, without their scope ids. -/
theorem mem_uniqueAddresses {addrs : List String} {ip : String} :
    ip ∈ uniqueAddresses addrs ↔ ∃ addr ∈ addrs, stripScope addr = ip := by
  rw [uniqueAddresses, mem_foldl_addresses]
  simp

theorem resolveAll_eq_ok {s : Surroundings} {hostname : String} {candidates : List String}
    (h : resolveAll s hostname = .ok candidates) :
    candidates ≠ [] ∧ ∃ addrs, s.getaddrinfo hostname = .ok addrs ∧
      candidates = uniqueAddresses addrs := by
  rw [resolveAll] at h
  split at h
  · cases h
  · cases h
  · next addrs haddrs =>
      dsimp only at h
      split at h
      · cases h
      · next hne =>
          obtain rfl := Except.ok.inj h
          exact ⟨hne, addrs, haddrs, rfl⟩

theorem checkAddresses_eq_ok {url : String} {ips : List String} :
    checkAddresses url ips = .ok () ↔ ∀ ip ∈ ips, isBlockedIp ip = none := by
  induction ips with
  | nil => simp [checkAddresses]
  | cons ip ips ih =>
      rw [checkAddresses, List.forall_mem_cons]
      cases hip : isBlockedIp ip with
      | some reason => simp
      | none => simp [ih]

/-- What an accepted URL was resolved to. -/
theorem validateUrl_eq_ok {s : Surroundings} {url hostname pinned : String} {port : Nat}
    (h : validateUrl s url false = .ok (hostname, pinned, port)) :
    ∃ candidates, resolveAll s hostname = .ok candidates ∧ pinned = candidates.headD "" ∧
      ∀ ip ∈ candidates, isBlockedIp ip = none := by
  rw [validateUrl] at h
  split at h
  · cases h
  obtain ⟨parsed, -, h⟩ := bind_eq_ok h
  dsimp only at h
  split at h
  · cases h
  split at h
  · cases h
  split at h
  · cases h
  next name _ =>
    obtain ⟨port', -, h⟩ := bind_eq_ok h
    obtain ⟨candidates, hcandidates, h⟩ := bind_eq_ok h
    rw [if_pos (by rfl)] at h
    obtain ⟨⟨⟩, hcheck, h⟩ := bind_eq_ok h
    obtain ⟨rfl, hrest⟩ := Prod.mk.inj (Except.ok.inj h)
    obtain ⟨rfl, -⟩ := Prod.mk.inj hrest
    exact ⟨candidates, hcandidates, rfl, checkAddresses_eq_ok.mp hcheck⟩

/-- **The guard.**  The address an accepted URL is pinned to is one of those its host resolves to,
and none of these is blocked.  The mapped and 6to4 forms of an IPv4 address get the verdict of the
address itself, and its compatible and NAT64 forms are blocked if it is. -/
theorem ssrf_guard (s : Surroundings) :
    (∀ url hostname pinned port, validateUrl s url false = .ok (hostname, pinned, port) →
      ∃ addrs, s.getaddrinfo hostname = .ok addrs ∧ pinned ∈ addrs.map stripScope ∧
        ∀ ip ∈ addrs.map stripScope, isBlockedIp ip = none) ∧
    ∀ a text, ipAddress text = some (.v4 a) → ∀ b form, ipAddress form = some (.v6 b) →
      (IsMapped a b ∨ IsSixToFour a b → isBlockedIp form = isBlockedIp text) ∧
      (IsCompatible a b ∨ IsNat64 a b → (isBlockedIp text).isSome → (isBlockedIp form).isSome) := by
  refine ⟨fun url hostname pinned port h => ?_, fun a text htext b form hform => ⟨?_, ?_⟩⟩
  · obtain ⟨candidates, hresolve, rfl, hclear⟩ := validateUrl_eq_ok h
    obtain ⟨hne, addrs, haddrs, rfl⟩ := resolveAll_eq_ok hresolve
    have hmem : ∀ ip, ip ∈ uniqueAddresses addrs ↔ ip ∈ addrs.map stripScope := fun ip => by
      rw [mem_uniqueAddresses, List.mem_map]
    refine ⟨addrs, haddrs, (hmem _).mp ?_, fun ip hip => hclear ip ((hmem ip).mpr hip)⟩
    rw [List.headD_eq_head?_getD, List.head?_eq_some_head hne]
    exact List.head_mem hne
  · intro h
    have hnormal : normalizeIp (.v6 b) = .v4 a := h.elim normalize_mapped normalize_sixToFour
    rw [isBlockedIp_of_ipAddress htext, isBlockedIp_of_ipAddress hform, hnormal, normalizeIp]
  · intro h _
    rw [isBlockedIp_of_ipAddress hform, Option.isSome_map]
    exact h.elim blocked_compatible blocked_nat64

/-- A name server that knows one name, with plain HTTP off. -/
def oneHost : Surroundings where
  getaddrinfo name :=
    if name = "hooks.example" then .ok ["93.184.216.34"] else .error (.inl "unknown")
  allowHttp := some "false"
  nfkc := id

/-- `127.0.0.1`. -/
def loopback : IPv4Address := ⟨octets 127 0 0 1, by decide⟩

/-- A public host is accepted, and loopback is blocked in its IPv6 forms. -/
theorem ssrf_guard_loopback :
    (∃ addrs, oneHost.getaddrinfo "hooks.example" = .ok addrs ∧
        "93.184.216.34" ∈ addrs.map stripScope ∧
        ∀ ip ∈ addrs.map stripScope, isBlockedIp ip = none) ∧
      isBlockedIp "::ffff:127.0.0.1" = isBlockedIp "127.0.0.1" ∧
      (isBlockedIp "64:ff9b::7f00:1").isSome :=
  have htext : ipAddress "127.0.0.1" = some (.v4 loopback) := by decide +kernel
  have haccepted : validateUrl oneHost "https://hooks.example/x" false =
      .ok ("hooks.example", "93.184.216.34", 443) := by decide +kernel
  ⟨(ssrf_guard oneHost).1 _ _ _ _ haccepted,
    ((ssrf_guard oneHost).2 _ _ htext ⟨0xffff * 2 ^ 32 + loopback.ip, none, by decide⟩
      "::ffff:127.0.0.1" (by decide +kernel)).1 (.inl rfl),
    ((ssrf_guard oneHost).2 _ _ htext ⟨0x64ff9b * 2 ^ 96 + loopback.ip, none, by decide⟩
      "64:ff9b::7f00:1" (by decide +kernel)).2 (.inr rfl) (by decide +kernel)⟩

end RebooterHub.Outbound
