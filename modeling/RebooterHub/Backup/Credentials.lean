import RebooterHub.Backup.Sources
import RebooterHub.Support.Fallible

/-!
# Backup — Credentials

What the outputs for operators tell of the credentials the hub stores.

* `Hub.hide hidden` is the hub with the credentials in `hidden` blotted out, and `SameExcept
  hidden` relates hubs that differ in these only.
* `collectSections_hide` and `serialize_hide`: a plain export and the serialization of a source do
  not see the credentials they redact.
* `outputs_hide_credentials` puts the two together.  A serialization shows a webhook's secret, for
  the operator to copy.
* `filled_of_validated`: the credentials in a configuration that passes the validation are not
  empty, so hiding blots out every one.
-/

namespace RebooterHub.Backup

/-! ### Credentials -/

/-- The credentials a hub stores. -/
inductive Credential where
  | homeAssistantToken
  | solaredgeApiKey
  | envoyJwt
  | mqttPassword
  | webhookSecret
  | snmpCommunity
  | snmpAuthKey
  | snmpPrivKey
  | googleRefreshToken
  | googleAccessToken
  /-- The value of a secret runtime setting. -/
  | settingValue
  /-- A token in the list of peer hubs. -/
  | peerToken
deriving DecidableEq, Repr

/-- The keys of the credentials in a configuration, for each kind of source. -/
def configCredentials : List (String × String × Credential) :=
  [("home_assistant", "token", .homeAssistantToken), ("solaredge", "api_key", .solaredgeApiKey),
    ("enphase_envoy", "jwt", .envoyJwt), ("mqtt", "password", .mqttPassword),
    ("plex", "webhook_secret", .webhookSecret), ("jellyfin", "webhook_secret", .webhookSecret),
    ("ios_shortcut", "webhook_secret", .webhookSecret), ("snmp", "community", .snmpCommunity),
    ("google_calendar", "refresh_token", .googleRefreshToken),
    ("google_calendar", "access_token", .googleAccessToken)]

/-- The credential under a key of a configuration. -/
def credentialAt (kind : Json) (key : String) : Option Credential :=
  (configCredentials.find? fun e => kind = .str e.1 ∧ key = e.2.1).map (·.2.2)

/-- The credential under a key of the `v3` block of a configuration. -/
def v3CredentialAt (key : String) : Option Credential :=
  if key = "auth_key" then some .snmpAuthKey
  else if key = "priv_key" then some .snmpPrivKey
  else none

/-- The runtime settings that the hub keeps secrets in. -/
def secretSettings : List String := ["smtp.password", "sync.hmac_key", "google.oauth_client_secret"]

/-- The setting with the list of peer hubs. -/
def peerHubs : String := "sync.peer_hubs"

/-! ### Hiding -/

/-- What stands in for a hidden credential. -/
def blot : Json := .str "credential"

/-- A value with its credential hidden; an empty value is none. -/
def hideValue (hidden : Credential → Bool) (credential : Option Credential) (v : Json) : Json :=
  if credential.any hidden ∧ v.truthy = true then blot else v

/-- A `v3` block with its credentials hidden. -/
def hideV3 (hidden : Credential → Bool) : Members → Members :=
  Dict.mapValues fun k v => hideValue hidden (v3CredentialAt k) v

/-- A member of a configuration with its credentials hidden. -/
def hideMember (hidden : Credential → Bool) (kind : Json) (k : String) (v : Json) : Json :=
  match k, v with
  | "v3", .obj v3 => if kind = .str "snmp" then .obj (hideV3 hidden v3) else .obj v3
  | k, v => hideValue hidden (credentialAt kind k) v

/-- A configuration with its credentials hidden. -/
def hideConfig (hidden : Credential → Bool) (kind : Json) : Members → Members :=
  Dict.mapValues (hideMember hidden kind)

/-- A source with its credentials hidden. -/
def ExternalSensorSource.hide (hidden : Credential → Bool) (s : ExternalSensorSource) :
    ExternalSensorSource :=
  { s with config := s.config.map (hideConfig hidden s.kind) }

section
variable (dumps : Json → String) (loads : String → Option Json)

/-- A list of peer hubs with its tokens hidden. -/
def hidePeers (hidden : Credential → Bool) (peers : List Json) : List Json :=
  peers.map fun
    | .obj peer => .obj (Dict.mapValues
        (fun k v => hideValue hidden (if k = "token" then some .peerToken else none) v) peer)
    | peer => peer

/-- The value of `sync.peer_hubs` with its tokens hidden: a list, or the text of one. -/
def hidePeersValue (hidden : Credential → Bool) : Json → Json
  | .arr peers => .arr (hidePeers hidden peers)
  | .str text => match loads text with
    | some (.arr peers) => if hidden .peerToken then .str (dumps (.arr (hidePeers hidden peers)))
        else .str text
    | _ => .str text
  | v => v

/-- A setting with its credentials hidden. -/
def RuntimeSetting.hide (hidden : Credential → Bool) (r : RuntimeSetting) : RuntimeSetting :=
  { r with value := Dict.mapValues (fun k v =>
      if k ≠ "v" then v
      else if r.name ∈ secretSettings ∨ isSecretKey r.name then
        if hidden .settingValue then blot else v
      else if r.name = peerHubs then hidePeersValue dumps loads hidden v
      else v) r.value }

/-- A hub with the credentials in `hidden` blotted out. -/
def Hub.hide (hidden : Credential → Bool) (hub : Hub) : Hub :=
  { hub with
    settings := hub.settings.map (·.hide dumps loads hidden)
    sources := hub.sources.map (·.hide hidden) }

/-- Two hubs that differ in credentials in `hidden` only. -/
def SameExcept (hidden : Credential → Bool) (hub hub' : Hub) : Prop :=
  hub.hide dumps loads hidden = hub'.hide dumps loads hidden

end

/-! ### Credentials and keys -/

/-- The credentials a plain export redacts. -/
def redactedInExport : Credential → Bool
  | .snmpAuthKey | .snmpPrivKey | .peerToken => false
  | _ => true

/-- The credentials the serialization of a source masks. -/
def maskedInSerialization : Credential → Bool
  | .webhookSecret | .googleRefreshToken | .googleAccessToken => false
  | _ => true

section
variable {kind v : Json} {k : String} {c : Credential} {hidden : Credential → Bool}

theorem credentialAt_mem (h : credentialAt kind k = some c) :
    ∃ e ∈ configCredentials, kind = .str e.1 ∧ k = e.2.1 ∧ c = e.2.2 := by
  obtain ⟨e, hfind, rfl⟩ := Option.map_eq_some_iff.mp h
  have hkey := List.find?_some hfind
  obtain ⟨hkind, hk⟩ := of_decide_eq_true hkey
  exact ⟨e, List.mem_of_find?_eq_some hfind, hkind, hk, rfl⟩

/-- The export's list of tokens has one for the key of every credential. -/
theorem mentions_of_credential (h : credentialAt kind k = some c) :
    mentions extSecretSubkeys k = true := by
  have hall : configCredentials.all (fun e => mentions extSecretSubkeys e.2.1) = true := by
    decide +kernel
  obtain ⟨e, he, -, rfl, -⟩ := credentialAt_mem h
  exact List.all_eq_true.mp hall e he

/-- The serialization's list of keys has those of the credentials it masks. -/
theorem mem_secretConfigKeys (h : credentialAt kind k = some c)
    (hc : maskedInSerialization c = true) : k ∈ secretConfigKeys := by
  have hall : configCredentials.all
      (fun e => !maskedInSerialization e.2.2 || decide (e.2.1 ∈ secretConfigKeys)) = true := by
    decide
  obtain ⟨e, he, -, rfl, rfl⟩ := credentialAt_mem h
  have hkey := List.all_eq_true.mp hall e he
  rw [hc] at hkey
  simpa using hkey

theorem isSecretKey_of_mem {name : String} (h : name ∈ secretSettings) :
    isSecretKey name = true := by
  have hall : secretSettings.all isSecretKey = true := by decide +kernel
  exact List.all_eq_true.mp hall name h

theorem v3CredentialAt_cases (h : v3CredentialAt k = some c) :
    (k = "auth_key" ∧ c = .snmpAuthKey) ∨ (k = "priv_key" ∧ c = .snmpPrivKey) := by
  rw [v3CredentialAt] at h
  split at h
  · next hk => exact .inl ⟨hk, (Option.some.inj h).symm⟩
  · split at h
    · next hk => exact .inr ⟨hk, (Option.some.inj h).symm⟩
    · cases h

/-! ### Hidden values -/

theorem hideValue_cases (hidden : Credential → Bool) (credential : Option Credential) (v : Json) :
    hideValue hidden credential v = v ∨
      ∃ c, credential = some c ∧ hidden c = true ∧ v.truthy = true ∧
        hideValue hidden credential v = blot := by
  rw [hideValue]
  split
  · next h =>
      obtain ⟨hany, hv⟩ := h
      obtain ⟨c, rfl, hc⟩ := (Option.any_eq_true _ _).mp hany
      exact .inr ⟨c, rfl, hc, hv, rfl⟩
  · exact .inl rfl

/-- A value is as it was when its credential is not hidden. -/
theorem hideValue_shown {credential : Option Credential} (h : ∀ c ∈ credential, hidden c = false)
    (v : Json) : hideValue hidden credential v = v := by
  rcases hideValue_cases hidden credential v with hv | ⟨c, hc, hshown, -⟩
  · exact hv
  · rw [h c hc] at hshown
    cases hshown

theorem hideV3_redactedInExport (v3 : Members) : hideV3 redactedInExport v3 = v3 := by
  refine Dict.mapValues_self (fun k v => hideValue_shown (fun c hc => ?_) v) v3
  rcases v3CredentialAt_cases hc with ⟨-, rfl⟩ | ⟨-, rfl⟩ <;> rfl

theorem hidePeers_redactedInExport (peers : List Json) :
    hidePeers redactedInExport peers = peers := by
  refine List.map_id'' (fun peer => ?_) peers
  split
  · next peer =>
      refine congrArg Json.obj (Dict.mapValues_self (fun k v => hideValue_shown ?_ v) peer)
      intro c hc
      split at hc
      · obtain rfl := Option.some.inj hc
        rfl
      · cases hc
  · rfl

theorem hidePeersValue_redactedInExport (dumps : Json → String) (loads : String → Option Json)
    (v : Json) : hidePeersValue dumps loads redactedInExport v = v := by
  rw [hidePeersValue.eq_def]
  split
  · rw [hidePeers_redactedInExport]
  · split
    · rfl
    · rfl
  · rfl

/-! ### The export -/

/-- The redaction of a plain export does not see the credentials it redacts. -/
theorem redactExtConfig_hide (kind : Json) (config : Option Members) :
    redactExtConfig (config.map (hideConfig redactedInExport kind)) = redactExtConfig config := by
  cases config with
  | none => rfl
  | some config =>
      refine congrArg some (Dict.mapValues_absorb (fun k v => ?_) config)
      split
      · rfl
      · next hplain =>
          rw [hideMember.eq_def]
          split
          · rw [hideV3_redactedInExport, ite_self]
          · refine hideValue_shown (fun c hc => ?_) _
            exact absurd (mentions_of_credential hc) hplain

theorem sourceRecord_hide (s : ExternalSensorSource) :
    sourceRecord false (s.hide redactedInExport) = sourceRecord false s := by
  simp [sourceRecord, ExternalSensorSource.hide, redactExtConfig_hide]

theorem settingRecord_hide (dumps : Json → String) (loads : String → Option Json)
    (r : RuntimeSetting) :
    settingRecord false (r.hide dumps loads redactedInExport) = settingRecord false r := by
  rw [settingRecord, settingRecord, RuntimeSetting.hide]
  by_cases hsecret : isSecretKey r.name = true
  · simp [hsecret]
  · have hlisted : r.name ∉ secretSettings := fun h => hsecret (isSecretKey_of_mem h)
    rw [Dict.mapValues_self]
    intro k v
    simp [hsecret, hlisted, hidePeersValue_redactedInExport]

/-- **A plain export does not see the credentials it redacts.** -/
theorem collectSections_hide (coll : Collation) (dumps : Json → String)
    (loads : String → Option Json) (hub : Hub) :
    collectSections coll false (hub.hide dumps loads redactedInExport) =
      collectSections coll false hub := by
  funext s
  cases s with
  | runtimeSettings =>
      rw [collectSections, collectSections, Hub.hide, coll.orderBy_map _ fun _ => rfl, List.map_map]
      exact List.map_congr_left fun r _ => settingRecord_hide dumps loads r
  | externalSources =>
      rw [collectSections, collectSections, Hub.hide, coll.orderBy_map _ fun _ => rfl, List.map_map]
      exact List.map_congr_left fun s _ => sourceRecord_hide s
  | sites | groups | groupMemberships | watchdogRules | schedules | scenes | deviceConfig => rfl

/-! ### The serialization -/

/-- Masking the keys of hidden credentials. -/
theorem mask_hideValue {keys : List String} {credential : Option Credential}
    (h : ∀ c ∈ credential, hidden c = true → k ∈ keys) (v : Json) :
    (if k ∈ keys ∧ (hideValue hidden credential v).truthy = true then masked
      else hideValue hidden credential v) = if k ∈ keys ∧ v.truthy = true then masked else v := by
  rcases hideValue_cases hidden credential v with hv | ⟨c, hc, hhidden, htruthy, hv⟩
  · rw [hv]
  · have hk : k ∈ keys := h c hc hhidden
    rw [hv, if_pos ⟨hk, rfl⟩, if_pos ⟨hk, htruthy⟩]

theorem maskKeys_hideV3 (hidden : Credential → Bool) (v3 : Members) :
    maskKeys secretV3Keys (hideV3 hidden v3) = maskKeys secretV3Keys v3 := by
  refine Dict.mapValues_absorb (fun k v => mask_hideValue (fun c hc _ => ?_) v) v3
  rcases v3CredentialAt_cases hc with ⟨rfl, -⟩ | ⟨rfl, -⟩ <;> decide

/-- The masking of a configuration does not see the credentials it masks. -/
theorem redactConfig_hide (kind : Json) (config : Members) :
    redactConfig (hideConfig maskedInSerialization kind config) = redactConfig config := by
  refine Dict.mapValues_absorb (fun k v => ?_) config
  rw [hideMember.eq_def]
  split
  · split
    · rw [redactMember_v3, redactMember_v3, maskKeys_hideV3]
    · rfl
  · rw [redactMember.eq_def, redactMember.eq_def,
      mask_hideValue fun c hc hhidden => mem_secretConfigKeys hc hhidden]

theorem serialize_hide (iso : Time → String) (latestSample : Json) (s : ExternalSensorSource) :
    serialize iso latestSample (s.hide maskedInSerialization) = serialize iso latestSample s := by
  have hconfig : redactConfig ((s.hide maskedInSerialization).config.getD []) =
      redactConfig (s.config.getD []) := by
    rw [ExternalSensorSource.hide]
    cases hs : s.config with
    | none => rfl
    | some config => exact redactConfig_hide s.kind config
  rw [serialize, serialize, hconfig]
  rfl

/-- A serialization shows what is under a key that it does not mask. -/
theorem lookup_redactConfig {key : String} (hkey : key ∉ secretConfigKeys) (hv3 : key ≠ "v3")
    (config : Members) : (redactConfig config).lookup key = config.lookup key := by
  rw [redactConfig, Dict.lookup_mapValues]
  have hself : redactMember key = id := by
    funext v
    rw [redactMember.eq_def]
    simp [hkey, hv3]
  rw [hself, Option.map_id_fun, id]

end

/-! ### Hubs that differ in credentials only -/

section
variable (coll : Collation) (encrypt : Members → String → Members) (now : String)
  (passphrase : Option String) (iso : Time → String) (latestSample : String → Json)
  (dumps : Json → String) (loads : String → Option Json)

/-- What the admin API shows of the sources. -/
def listSources (hub : Hub) : List Members :=
  hub.sources.map fun s => serialize iso (latestSample s.id) s

/-- The outputs for operators are the same on two hubs. -/
def SameOutputs (hub hub' : Hub) : Prop :=
  exportConfig coll encrypt now false passphrase hub =
      exportConfig coll encrypt now false passphrase hub' ∧
    listSources iso latestSample hub = listSources iso latestSample hub'

theorem exportConfig_hide (hub : Hub) :
    exportConfig coll encrypt now false passphrase (hub.hide dumps loads redactedInExport) =
      exportConfig coll encrypt now false passphrase hub := by
  rw [exportConfig, exportConfig, exportDocument, exportDocument, collectSections_hide]

theorem listSources_hide (hub : Hub) :
    listSources iso latestSample (hub.hide dumps loads maskedInSerialization) =
      listSources iso latestSample hub := by
  rw [listSources, listSources, Hub.hide, List.map_map]
  exact List.map_congr_left fun s _ => serialize_hide iso (latestSample s.id) s

/-- **The outputs hide the credentials.**  Hubs that differ in the credentials a plain export
redacts have the same plain export, hubs that differ in those the serialization masks have the
same serializations, and a webhook's secret is shown as it is. -/
theorem outputs_hide_credentials (hub hub' : Hub) :
    (SameExcept dumps loads redactedInExport hub hub' →
      exportConfig coll encrypt now false passphrase hub =
        exportConfig coll encrypt now false passphrase hub') ∧
    (SameExcept dumps loads maskedInSerialization hub hub' →
      listSources iso latestSample hub = listSources iso latestSample hub') ∧
    ∀ config : Members,
      (redactConfig config).lookup "webhook_secret" = config.lookup "webhook_secret" := by
  refine ⟨fun hsame => ?_, fun hsame => ?_, lookup_redactConfig (by decide) (by decide)⟩
  · rw [← exportConfig_hide coll encrypt now passphrase dumps loads hub, hsame,
      exportConfig_hide]
  · rw [← listSources_hide iso latestSample dumps loads hub, hsame, listSources_hide]

end

/-- A hub with one source. -/
def hubWith (kind : String) (config : Members) : Hub :=
  { Hub.empty with sources := [{
      id := "ext_1", kind := .str kind, displayName := "Source", host := .str "", port := 0
      enabled := true, pollIntervalSeconds := 30, lastPolledAt := none, lastSuccessAt := none
      lastError := none, config := some config, createdAt := 0 }] }

/-- Hubs with sources that differ in hidden credentials. -/
theorem sameExcept_hubWith {dumps : Json → String} {loads : String → Option Json}
    {hidden : Credential → Bool} {kind : String} {config config' : Members}
    (h : hideConfig hidden (.str kind) config = hideConfig hidden (.str kind) config') :
    SameExcept dumps loads hidden (hubWith kind config) (hubWith kind config') := by
  simp [SameExcept, Hub.hide, hubWith, ExternalSensorSource.hide, h]

/-- Two passwords of an MQTT broker, which neither output tells apart. -/
theorem outputs_hide_mqtt_password :
    hubWith "mqtt" [("password", .str "a")] ≠ hubWith "mqtt" [("password", .str "b")] ∧
    SameOutputs codePoints (fun doc _ => doc) "" none (fun _ => "") (fun _ => .null)
      (hubWith "mqtt" [("password", .str "a")]) (hubWith "mqtt" [("password", .str "b")]) := by
  refine ⟨by simp [hubWith], ?_, ?_⟩
  · refine (outputs_hide_credentials codePoints (fun doc _ => doc) "" none (fun _ => "")
      (fun _ => .null) (fun _ => "") (fun _ => none) _ _).1 (sameExcept_hubWith ?_)
    decide +kernel
  · refine (outputs_hide_credentials codePoints (fun doc _ => doc) "" none (fun _ => "")
      (fun _ => .null) (fun _ => "") (fun _ => none) _ _).2.1 (sameExcept_hubWith ?_)
    decide +kernel

/-- The secret of a webhook is a credential, and the serialization of its source shows it. -/
theorem webhook_secret_revealed : ¬∀ hub hub' : Hub,
    SameExcept (fun _ => "") (fun _ => none) (fun _ => true) hub hub' →
      SameOutputs codePoints (fun doc _ => doc) "" none (fun _ => "") (fun _ => .null) hub hub' := by
  intro hclaim
  have hsame : SameExcept (fun _ => "") (fun _ => none) (fun _ => true)
      (hubWith "plex" [("webhook_secret", .str "a")])
      (hubWith "plex" [("webhook_secret", .str "b")]) :=
    sameExcept_hubWith (by decide +kernel)
  have hshown := congrArg
    (List.map fun s : Members => ((s.lookup "config").map fun
      | .obj config => config.lookup "webhook_secret"
      | _ => none)) (hclaim _ _ hsame).2
  revert hshown
  decide +kernel

/-! ### Validated configurations -/

/-- The credentials in a configuration of a kind are not empty. -/
def Filled (kind : String) (config : Members) : Prop :=
  ∀ m ∈ config, (credentialAt (.str kind) m.1).isSome → m.2.truthy = true

section
open RebooterHub.Fallible
variable {spell : Json → String} {minted kind : String} {config out : Members}

theorem truthy_str {text : String} (h : text ≠ "") : (Json.str text).truthy = true := by
  simpa [Json.truthy] using h

theorem Filled.nil : Filled kind [] := nofun

theorem Filled.cons {k : String} {v : Json}
    (hv : (credentialAt (.str kind) k).isSome → v.truthy = true) (h : Filled kind out) :
    Filled kind ((k, v) :: out) := by
  intro m hm
  rcases List.mem_cons.mp hm with rfl | hm
  · exact hv
  · exact h m hm

theorem Filled.append (h : Filled kind config) (h' : Filled kind out) :
    Filled kind (config ++ out) := by
  intro m hm
  rcases List.mem_append.mp hm with hm | hm
  · exact h m hm
  · exact h' m hm

theorem filled_member? (key text : String) : Filled kind (member? key text) := by
  rw [member?]
  split
  · next htext => exact .cons (fun _ => truthy_str htext) .nil
  · exact .nil

/-- A kind without credentials. -/
theorem filled_of_kind (h : ∀ e ∈ configCredentials, e.1 ≠ kind) : Filled kind out := by
  intro m hm hsome
  obtain ⟨c, hc⟩ := Option.isSome_iff_exists.mp hsome
  obtain ⟨e, he, hkind, -⟩ := credentialAt_mem hc
  exact absurd (Json.str.inj hkind).symm (h e he)

/-- A member that is no credential. -/
theorem Filled.cons_other {k : String} {v : Json} (hk : credentialAt (.str kind) k = none)
    (h : Filled kind out) : Filled kind ((k, v) :: out) :=
  h.cons fun hsome => by simp [hk] at hsome

theorem filled_mqttConfig (h : mqttConfig spell minted config = .ok out) : Filled "mqtt" out := by
  rw [mqttConfig] at h
  split at h
  · cases h
  · split at h
    · cases h
    · obtain rfl := Except.ok.inj h
      exact (((Filled.nil.cons_other (by decide)).append (filled_member? _ _)).append
        (filled_member? _ _)).append (Filled.nil.cons_other (by decide))

theorem filled_webhookConfig (hminted : minted ≠ "") :
    Filled kind (webhookConfig spell minted config) := by
  refine .append (.cons (fun _ => truthy_str ?_) .nil) (filled_member? _ _)
  split
  · next hsecret => exact hsecret
  · exact hminted

theorem filled_interfaceFilter (h : interfaceFilter spell config = .ok out) : Filled "snmp" out := by
  rw [interfaceFilter] at h
  split at h
  · cases h
    exact .nil
  · cases h
    split
    · exact .nil
    · exact Filled.nil.cons_other (by decide)
  · cases h

theorem filled_snmpAccess {version : String} (h : snmpAccess spell version config = .ok out) :
    Filled "snmp" out := by
  rw [snmpAccess] at h
  split at h
  · split at h
    · cases h
    · next hcommunity =>
        obtain rfl := Except.ok.inj h
        exact Filled.nil.cons fun _ => truthy_str hcommunity
  · split at h
    · split at h
      · obtain ⟨v3, -, rfl⟩ := map_eq_ok h
        exact Filled.nil.cons_other (by decide)
      · cases h
    · cases h

theorem filled_snmpConfig (h : snmpConfig spell config = .ok out) : Filled "snmp" out := by
  rw [snmpConfig] at h
  obtain ⟨access, haccess, h⟩ := bind_eq_ok h
  obtain ⟨filter, hfilter, h⟩ := bind_eq_ok h
  obtain rfl := Except.ok.inj h
  exact ((Filled.nil.cons_other (by decide)).append (filled_snmpAccess haccess)).append
    (filled_interfaceFilter hfilter)

theorem filled_googleCalendarConfig (h : googleCalendarConfig spell config = .ok out) :
    Filled "google_calendar" out := by
  rw [googleCalendarConfig] at h
  split at h
  · cases h
  · next htoken =>
      obtain rfl := Except.ok.inj h
      exact (((Filled.nil.cons_other (by decide)).cons fun _ => truthy_str htoken).append
        (filled_member? _ _)).append (filled_member? _ _)

theorem filled_homeAssistant (h : homeAssistantConfig spell config = .ok out) :
    Filled "home_assistant" out := by
  rw [homeAssistantConfig] at h
  split at h
  · cases h
  · next htoken =>
      obtain rfl := Except.ok.inj h
      refine (Filled.nil.cons fun _ => truthy_str htoken).append ?_
      split
      · exact .nil
      · exact .nil
      · exact Filled.nil.cons_other (by decide)

theorem filled_solaredge (h : solaredgeConfig spell config = .ok out) : Filled "solaredge" out := by
  rw [solaredgeConfig] at h
  split at h
  · cases h
  · split at h
    · cases h
    · next hkey =>
        obtain rfl := Except.ok.inj h
        exact (Filled.nil.cons fun _ => truthy_str hkey).cons_other (by decide)

/-- **Credentials are not empty** in a configuration that passes the validation. -/
theorem filled_of_validated {config : Json} (hminted : minted ≠ "")
    (h : validateKindConfig spell minted kind config = .ok out) : Filled kind out := by
  rw [validateKindConfig.eq_def] at h
  split at h
  · next config =>
      -- a kind at a time, in the order of the source
      by_cases hkind : kind = "roku"
      · rw [if_pos hkind] at h
        exact Except.ok.inj h ▸ .nil
      rw [if_neg hkind] at h
      clear hkind
      by_cases hkind : kind = "home_assistant"
      · rw [if_pos hkind] at h
        exact hkind ▸ filled_homeAssistant h
      rw [if_neg hkind] at h
      clear hkind
      by_cases hkind : kind = "weather"
      · rw [if_pos hkind] at h
        exact filled_of_kind (hkind ▸ by decide)
      rw [if_neg hkind] at h
      clear hkind
      by_cases hkind : kind = "ical"
      · rw [if_pos hkind] at h
        exact filled_of_kind (hkind ▸ by decide)
      rw [if_neg hkind] at h
      clear hkind
      by_cases hkind : kind = "solaredge"
      · rw [if_pos hkind] at h
        exact hkind ▸ filled_solaredge h
      rw [if_neg hkind] at h
      clear hkind
      by_cases hkind : kind = "enphase_envoy"
      · rw [if_pos hkind] at h
        exact Except.ok.inj h ▸ filled_member? _ _
      rw [if_neg hkind] at h
      clear hkind
      by_cases hkind : kind = "mqtt"
      · rw [if_pos hkind] at h
        exact hkind ▸ filled_mqttConfig h
      rw [if_neg hkind] at h
      clear hkind
      by_cases hkind : kind ∈ webhookKinds
      · rw [if_pos hkind] at h
        exact Except.ok.inj h ▸ filled_webhookConfig hminted
      rw [if_neg hkind] at h
      clear hkind
      by_cases hkind : kind = "snmp"
      · rw [if_pos hkind] at h
        exact hkind ▸ filled_snmpConfig h
      rw [if_neg hkind] at h
      clear hkind
      by_cases hkind : kind = "google_calendar"
      · rw [if_pos hkind] at h
        exact hkind ▸ filled_googleCalendarConfig h
      rw [if_neg hkind] at h
      exact Except.ok.inj h ▸ .nil
  · cases h

/-- So is the `v3` block's. -/
theorem snmpV3_truthy {v3 : Members} (h : snmpV3 spell config = .ok v3) {m : String × Json}
    (hm : m ∈ v3) (hc : (v3CredentialAt m.1).isSome) : m.2.truthy = true := by
  rw [snmpV3] at h
  split at h
  · cases h
  · next hfilled =>
      split_ifs at h
      obtain rfl := Except.ok.inj h
      obtain ⟨-, hauth, hpriv⟩ := by simpa only [not_or] using hfilled
      simp only [List.mem_cons, List.not_mem_nil, or_false] at hm
      rcases hm with rfl | rfl | rfl | rfl | rfl
      · cases hc
      · cases hc
      · exact truthy_str hauth
      · cases hc
      · exact truthy_str hpriv

end

end RebooterHub.Backup
