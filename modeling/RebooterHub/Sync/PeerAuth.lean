import RebooterHub.Data.Json
import RebooterHub.Data.Text
import RebooterHub.Support.Fallible
import RebooterHub.Support.Hex
import RebooterHub.Support.Pieces

/-!
# Sync — Peer Auth

How a hub shows a peer that it belongs to the network.  The settings page stores the key and the
name of the hub, the replicator signs the name, and the peer checks the signature.

HMAC-SHA256 is a parameter, `mac`.

* `peer_iff_signed`: the requests that are let in as a peer's.
* `answers_iff`: the hubs whose polls a hub answers.
* `Written`: what the settings page stores.
-/

namespace RebooterHub.Sync
open Fallible Pieces Text

abbrev Bytes := List UInt8

/-! ### The settings -/

/-- The settings of the synchronisation, by what `runtime_settings` holds of each.  The text of
`sync.peer_hubs` is kept as the list that it is read as. -/
structure SyncSettings where
  enabled : Option Json
  hubId : Option Json
  hmacKey : Option Json
  peerHubs : Option Json

/-- A call of `runtime_settings.set_`. -/
inductive SyncWrite where
  | enabled (b : Bool)
  | hubId (s : String)
  | hmacKey (s : String)
  | peerHubs (xs : List Json)

namespace SyncSettings

def unset : SyncSettings := ⟨none, none, none, none⟩

def write (s : SyncSettings) : SyncWrite → SyncSettings
  | .enabled b => { s with enabled := some (.bool b) }
  | .hubId name => { s with hubId := some (.str name) }
  | .hmacKey key => { s with hmacKey := some (.str key) }
  | .peerHubs xs => { s with peerHubs := some (.arr xs) }

/-- `rs.get("sync.enabled", default=False)`, as the tick reads it. -/
def isEnabled (s : SyncSettings) : Bool := (s.enabled.getD (.bool false)).truthy

/-- `rs.get("sync.hub_id", default="www")`. -/
def thisHubId (s : SyncSettings) : Json := s.hubId.getD (.str "www")

end SyncSettings

/-- The form of the settings page; `peerHubs` is what `json.loads` makes of the field, if it is not
blank. -/
structure SyncForm where
  syncEnabled : String
  hubId : String
  hmacKey : String
  peerHubs : Option (Except String Json)

/-- The check of the form's peers. -/
def checkPeerHubs : Option (Except String Json) → Except String (List Json)
  | none => .ok []
  | some (.ok (.arr xs)) => .ok xs
  | some (.ok _) => .error "Invalid peer_hubs JSON: peer_hubs must be a JSON array"
  | some (.error e) => .error s!"Invalid peer_hubs JSON: {e}"

/-- The check of the form's key. -/
def checkHmacKey (key : List Char) : Except String Unit :=
  match Hex.decode key with
  | .error i =>
    .error s!"Invalid HMAC key: non-hexadecimal number found in fromhex() arg at position {i}"
  | .ok _ =>
    if key.length ≠ 64 then
      .error "Invalid HMAC key: HMAC key must be 64 hex characters (32 bytes)"
    else .ok ()

/-- `settings_sync_save_submit`: the writes, one transaction each, or what is flashed. -/
def settingsSyncSaveSubmit (form : SyncForm) : Except String (List SyncWrite) := do
  let syncEnabled : Bool := lower (strip form.syncEnabled.toList) = "true".toList
  let hubId := if stripped form.hubId = "" then "www" else stripped form.hubId
  let hmacKey := strip form.hmacKey.toList
  let peerHubs ← checkPeerHubs form.peerHubs
  if hmacKey = [] then
    return [.enabled syncEnabled, .hubId hubId, .peerHubs peerHubs]
  checkHmacKey hmacKey
  return [.enabled syncEnabled, .hubId hubId, .hmacKey (String.ofList hmacKey), .peerHubs peerHubs]

/-! ### The token -/

/-- `_get_sync_hmac_key`. -/
def getSyncHmacKey (s : SyncSettings) : Option Bytes :=
  match s.hmacKey with
  | some (.str key) => if key = "" then none else (Hex.decode key.toList).toOption
  | _ => none

section
variable (mac : Bytes → Bytes → Bytes)

/-- `str.encode("utf-8")`. -/
def utf8 (text : List Char) : Bytes := (String.ofList text).toUTF8.data.toList

/-- `hmac.new(key, payload.encode("utf-8"), hashlib.sha256).hexdigest()`. -/
def hexdigest (key : Bytes) (payload : List Char) : List Char := Hex.encode (mac key (utf8 payload))

/-- What a token starts with. -/
def hmacScheme : List Char := "hmac-sha256".toList

/-- The token of a payload. -/
def signed (key : Bytes) (payload : List Char) : List Char :=
  hmacScheme ++ '.' :: (payload ++ '.' :: hexdigest mac key payload)

/-- `_generate_hmac_bearer_token`, or `none` where it raises: without a key that can be read, and
for a payload that is no text. -/
def generateHmacBearerToken (s : SyncSettings) (payload : Json) : Option (List Char) :=
  match getSyncHmacKey s, payload with
  | some key, .str payload => some (signed mac key payload.toList)
  | _, _ => none

/-- `hmac.compare_digest` of two texts. -/
def compareDigest (a b : List Char) : Except PyError Bool :=
  if (a ++ b).all (·.toNat < 128) then .ok (a = b) else .error .typeError

/-- `_verify_hmac_bearer`. -/
def verifyHmacBearer (s : SyncSettings) (token : List Char) : Except PyError Bool :=
  match getSyncHmacKey s with
  | none | some [] => .ok false
  | some key => match token.splitOn '.' with
    | [scheme, payload, signature] =>
      if scheme ≠ hmacScheme then .ok false
      else compareDigest (hexdigest mac key payload) signature
    | _ => .ok false

/-- What becomes of a request: it is refused, or the endpoint answers it, or that is left to the
check for an administrator. -/
inductive PeerAnswer where
  | refused (status : Nat) (code message : String)
  | endpoint
  | adminRequired
deriving DecidableEq

/-- `sync_peer_required`, for the token of a request. -/
def answerToken (s : SyncSettings) (token : List Char) : Except PyError PeerAnswer :=
  if hmacScheme ++ ['.'] <+: token then do
    if ← verifyHmacBearer mac s token then return .endpoint
    return .refused 403 "invalid_token" "HMAC signature verification failed"
  else .ok .adminRequired

/-- `sync_peer_required`, for the `Authorization` of a request. -/
def syncPeerRequired (s : SyncSettings) (authHeader : List Char) : Except PyError PeerAnswer :=
  if "Bearer ".toList <+: authHeader then answerToken mac s (authHeader.drop 7)
  else .ok (.refused 401 "auth_required" "Bearer token required for sync endpoints")

/-- The header of `_fetch_events_from_peer`. -/
def authHeader (s : SyncSettings) : Option (List Char) :=
  (generateHmacBearerToken mac s s.thisHubId).map ("Bearer ".toList ++ ·)

/-- A hub polls, and the peer answers. -/
def answers (own peer : SyncSettings) : Bool :=
  own.isEnabled && (authHeader mac own).any fun h => syncPeerRequired mac peer h = .ok .endpoint

end

/-! ### What is let in -/

section
variable {mac : Bytes → Bytes → Bytes} {s own peer : SyncSettings} {key key' : Bytes}
  {payload signature token : List Char}

theorem not_mem_hexdigest : '.' ∉ hexdigest mac key payload := by
  intro h
  obtain ⟨n, hn, hdot⟩ := Hex.mem_encode h
  have hvalue : Hex.value (Hex.digit n) = some n := (Hex.digit_spec hn).1
  have hnone : Hex.value '.' = none := by decide
  rw [← hdot, hnone] at hvalue
  cases hvalue

theorem ascii_hexdigest : ∀ c ∈ hexdigest mac key payload, c.toNat < 128 := by
  intro c hc
  obtain ⟨n, hn, rfl⟩ := Hex.mem_encode hc
  exact (Hex.digit_spec hn).2.2

theorem compareDigest_hexdigest :
    compareDigest (hexdigest mac key payload) signature = .ok true ↔
      signature = hexdigest mac key payload := by
  rw [compareDigest]
  split
  · rw [Except.ok.injEq, decide_eq_true_iff, eq_comm]
  · next hother =>
      constructor
      · intro h
        cases h
      · rintro rfl
        refine absurd (List.all_eq_true.mpr fun c hc => ?_) hother
        rcases List.mem_append.mp hc with hc | hc <;> exact decide_eq_true (ascii_hexdigest c hc)

theorem splitOn_signed (h : '.' ∉ payload) :
    (signed mac key payload).splitOn '.' = [hmacScheme, payload, hexdigest mac key payload] := by
  have hjoined : signed mac key payload =
      ['.'].intercalate [hmacScheme, payload, hexdigest mac key payload] := by
    simp [signed]
  have hscheme : '.' ∉ hmacScheme := by decide
  rw [hjoined]
  refine List.splitOn_intercalate '.' ?_ (List.cons_ne_nil _ _)
  simp [hscheme, h, not_mem_hexdigest]

/-- What three pieces are joined from. -/
theorem of_splitOn {scheme : List Char} (h : token.splitOn '.' = [scheme, payload, signature]) :
    '.' ∉ payload ∧ token = scheme ++ '.' :: (payload ++ '.' :: signature) := by
  constructor
  · have hmem : payload ∈ token.splitOnP (· == '.') := by
      rw [← List.splitOn_eq_splitOnP, h]
      simp
    obtain ⟨_, _, -, -, -, hpiece⟩ := mem_splitOnP.mp hmem
    intro hdot
    have hne := hpiece '.' hdot
    simp at hne
  · have hjoined : ['.'].intercalate (token.splitOn '.') = token := List.intercalate_splitOn '.'
    rw [h] at hjoined
    rw [← hjoined]
    simp

theorem verifyHmacBearer_eq_true : verifyHmacBearer mac s token = .ok true ↔
    ∃ key payload, getSyncHmacKey s = some key ∧ key ≠ [] ∧ '.' ∉ payload ∧
      token = signed mac key payload := by
  rw [verifyHmacBearer]
  rcases getSyncHmacKey s with _ | _ | ⟨b, bs⟩
  · simp
  · simp
  · constructor
    · intro h
      dsimp only at h
      split at h
      · next scheme payload signature hsplit =>
          obtain ⟨hdot, rfl⟩ := of_splitOn hsplit
          split at h
          · cases h
          · next hscheme =>
              rw [not_not.mp hscheme, compareDigest_hexdigest.mp h]
              exact ⟨_, payload, rfl, List.cons_ne_nil b bs, hdot, rfl⟩
      · cases h
    · rintro ⟨key, payload, hkey, -, hdot, rfl⟩
      obtain rfl := Option.some.inj hkey
      dsimp only
      rw [splitOn_signed hdot]
      dsimp only
      rw [if_neg (not_not.mpr rfl)]
      exact compareDigest_hexdigest.mpr rfl

theorem answerToken_eq_endpoint : answerToken mac s token = .ok .endpoint ↔
    verifyHmacBearer mac s token = .ok true := by
  rw [answerToken]
  constructor
  · intro h
    split at h
    · obtain ⟨b, hb, h⟩ := bind_eq_ok h
      cases b with
      | false => cases h
      | true => exact hb
    · cases h
  · intro h
    have hscheme : hmacScheme ++ ['.'] <+: token := by
      obtain ⟨key, payload, -, -, -, rfl⟩ := verifyHmacBearer_eq_true.mp h
      exact ⟨payload ++ '.' :: hexdigest mac key payload, by simp [signed]⟩
    rw [if_pos hscheme, h]
    rfl

/-- **The requests of peers.**  A request is answered as a peer's exactly when its header is what a
hub with the same key sends whose name has no dot. -/
theorem peer_iff_signed {header : List Char} :
    syncPeerRequired mac s header = .ok .endpoint ↔
      ∃ key payload, getSyncHmacKey s = some key ∧ key ≠ [] ∧ '.' ∉ payload ∧
        header = "Bearer ".toList ++ signed mac key payload := by
  have hdrop (token : List Char) : ("Bearer ".toList ++ token).drop 7 = token := List.drop_left' rfl
  rw [syncPeerRequired]
  constructor
  · intro h
    split at h
    · next hbearer =>
        obtain ⟨token, rfl⟩ := hbearer
        rw [hdrop, answerToken_eq_endpoint] at h
        obtain ⟨key, payload, hkey, hne, hdot, rfl⟩ := verifyHmacBearer_eq_true.mp h
        exact ⟨key, payload, hkey, hne, hdot, rfl⟩
    · cases h
  · rintro ⟨key, payload, hkey, hne, hdot, rfl⟩
    rw [if_pos (List.prefix_append _ _), hdrop, answerToken_eq_endpoint]
    exact verifyHmacBearer_eq_true.mpr ⟨key, payload, hkey, hne, hdot, rfl⟩

/-- Two tokens, one of them of a payload without a dot. -/
theorem signed_inj {name : List Char} (h : '.' ∉ payload) :
    signed mac key name = signed mac key' payload ↔
      name = payload ∧ mac key (utf8 name) = mac key' (utf8 name) := by
  constructor
  · intro heq
    have hrest : name ++ '.' :: hexdigest mac key name =
        payload ++ '.' :: hexdigest mac key' payload :=
      List.cons_injective (List.append_cancel_left heq)
    -- A digest has no dot, so that it is the last piece of either side.
    have hhex : '.' ∉ hexdigest mac key name := not_mem_hexdigest
    have hsplit : name.splitOn '.' ++ [hexdigest mac key name] =
        [payload] ++ [hexdigest mac key' payload] := by
      rw [← List.splitOn_eq_singleton hhex,
        ← List.splitOn_append_cons_self, hrest, List.splitOn_append_cons_self,
        List.splitOn_eq_singleton h, List.splitOn_eq_singleton not_mem_hexdigest]
    obtain ⟨hname, hdigest⟩ := List.append_inj' hsplit rfl
    have hjoined : ['.'].intercalate (name.splitOn '.') = name := List.intercalate_splitOn '.'
    rw [hname] at hjoined
    obtain rfl : payload = name := by simpa using hjoined
    exact ⟨rfl, Hex.encode_injective (List.singleton_inj.mp hdigest)⟩
  · rintro ⟨rfl, hmac⟩
    rw [signed, signed, hexdigest, hmac]
    rfl

/-! ### One hub and its peer -/

/-- The replicator runs, both hubs have a key, and the name that the hub signs has no dot and the
same code under both keys. -/
def Joined (mac : Bytes → Bytes → Bytes) (own peer : SyncSettings) : Prop :=
  own.isEnabled ∧ ∃ key key' name, getSyncHmacKey own = some key ∧ getSyncHmacKey peer = some key' ∧
    key' ≠ [] ∧ own.thisHubId = .str name ∧ '.' ∉ name.toList ∧
      mac key (utf8 name.toList) = mac key' (utf8 name.toList)

theorem authHeader_eq_some {header : List Char} : authHeader mac own = some header ↔
    ∃ key name, getSyncHmacKey own = some key ∧ own.thisHubId = .str name ∧
      header = "Bearer ".toList ++ signed mac key name.toList := by
  rw [authHeader, Option.map_eq_some_iff]
  constructor
  · rintro ⟨token, htoken, rfl⟩
    unfold generateHmacBearerToken at htoken
    split at htoken
    · next key name hkey hname =>
        obtain rfl := Option.some.inj htoken
        exact ⟨key, name, hkey, hname, rfl⟩
    · cases htoken
  · rintro ⟨key, name, hkey, hname, rfl⟩
    refine ⟨_, ?_, rfl⟩
    rw [hname]
    unfold generateHmacBearerToken
    rw [hkey]

theorem answers_iff : answers mac own peer = true ↔ Joined mac own peer := by
  rw [answers, Bool.and_eq_true, Option.any_eq_true, Joined]
  refine and_congr_right fun _ => ?_
  constructor
  · rintro ⟨header, hheader, hanswer⟩
    obtain ⟨key, name, hkey, hname, rfl⟩ := authHeader_eq_some.mp hheader
    obtain ⟨key', payload, hkey', hne, hdot, heq⟩ := peer_iff_signed.mp (of_decide_eq_true hanswer)
    obtain ⟨rfl, hmac⟩ := (signed_inj hdot).mp (List.append_cancel_left heq)
    exact ⟨key, key', name, hkey, hkey', hne, hname, hdot, hmac⟩
  · rintro ⟨key, key', name, hkey, hkey', hne, hname, hdot, hmac⟩
    refine ⟨_, authHeader_eq_some.mpr ⟨key, name, hkey, hname, rfl⟩, decide_eq_true ?_⟩
    refine peer_iff_signed.mpr ⟨key', name.toList, hkey', hne, hdot, ?_⟩
    rw [(signed_inj hdot).mpr ⟨rfl, hmac⟩]

/-! ### What the settings page stores -/

/-- A name is not empty, and a key is of one byte at least and of 32 at most: blanks between the
digits count as characters of the 64. -/
def Proper : SyncWrite → Prop
  | .hubId name => name ≠ ""
  | .hmacKey text => ∃ key, Hex.decode text.toList = .ok key ∧ key ≠ [] ∧ key.length ≤ 32
  | _ => True

/-- The settings of a hub whose settings page alone writes them. -/
structure Written (s : SyncSettings) : Prop where
  name : ∃ name, s.thisHubId = .str name ∧ name ≠ ""
  key : s.hmacKey = none ∨ ∃ key, getSyncHmacKey s = some key ∧ key ≠ [] ∧ key.length ≤ 32

theorem isspace_of_isBlank {c : Char} (h : Hex.isBlank c = true) : isspace c = true := by
  have hblank : c = ' ' ∨ 9 ≤ c.toNat ∧ c.toNat ≤ 13 := of_decide_eq_true h
  refine decide_eq_true ?_
  rcases hblank with rfl | hcontrol
  · exact .inr (.inl (by decide))
  · exact .inl hcontrol

theorem proper_hmacKey {text : List Char} {u : Unit} (hne : strip text ≠ [])
    (h : checkHmacKey (strip text) = .ok u) : Proper (.hmacKey (String.ofList (strip text))) := by
  rw [checkHmacKey] at h
  split at h
  · cases h
  · next key hkey =>
      split at h
      · cases h
      · next hlength =>
          refine ⟨key, by rwa [String.toList_ofList], ?_, ?_⟩
          · obtain ⟨c, cs, hstrip⟩ := List.exists_cons_of_ne_nil hne
            -- A stripped key does not start with a blank, so that it has a digit.
            have hhead : c ∈ (strip text).head? := by
              rw [hstrip]
              rfl
            have hspace := head_strip hhead
            rw [hstrip] at hkey
            refine Hex.decode_ne_nil hkey (Bool.eq_false_iff.mpr fun hblank => ?_)
            rw [isspace_of_isBlank hblank] at hspace
            cases hspace
          · have hdigits := Hex.length_decode hkey
            rw [not_not.mp hlength] at hdigits
            omega

theorem proper_of_submit {form : SyncForm} {ws : List SyncWrite}
    (h : settingsSyncSaveSubmit form = .ok ws) : ∀ w ∈ ws, Proper w := by
  have hname : Proper (.hubId (if stripped form.hubId = "" then "www" else stripped form.hubId)) := by
    split
    · exact fun h => absurd h (by decide)
    · assumption
  rw [settingsSyncSaveSubmit] at h
  obtain ⟨peerHubs, -, h⟩ := bind_eq_ok h
  split at h
  · obtain rfl := Except.ok.inj h
    simpa [Proper] using hname
  · next hne =>
      obtain ⟨u, hkey, h⟩ := bind_eq_ok h
      obtain rfl := Except.ok.inj h
      have hproper := proper_hmacKey hne hkey
      simpa [Proper] using And.intro hname hproper

theorem written_unset : Written .unset := ⟨⟨"www", rfl, by decide⟩, .inl rfl⟩

theorem Written.write (h : Written s) {w : SyncWrite} (hw : Proper w) : Written (s.write w) := by
  cases w with
  | enabled b => exact ⟨h.name, h.key⟩
  | peerHubs xs => exact ⟨h.name, h.key⟩
  | hubId name => exact ⟨⟨name, rfl, hw⟩, h.key⟩
  | hmacKey text =>
      obtain ⟨key, hdecode, hne, hlength⟩ := hw
      refine ⟨h.name, .inr ⟨key, ?_, hne, hlength⟩⟩
      have htext : text ≠ "" := by
        rintro rfl
        obtain rfl := Except.ok.inj hdecode
        exact hne rfl
      change (if text = "" then none else (Hex.decode text.toList).toOption) = some key
      rw [if_neg htext, hdecode]
      rfl

end

end RebooterHub.Sync
