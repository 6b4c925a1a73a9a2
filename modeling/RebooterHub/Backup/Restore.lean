import RebooterHub.Backup.Encryption
import RebooterHub.Backup.Reimport

/-!
# Backup — Restore

An exported document imported on an empty hub that has the same devices.

* `wiped`: the hub with its devices and nothing else.
* `Restored`: what the export of the new hub has of the export of the old one.
* `exportConfig_roundTrip`: a backup imported on its own hub and on the wiped one.
-/

namespace RebooterHub.Backup
open RebooterHub.Fallible RebooterHub.NaturalKey RebooterHub.Rows
open RebooterHub.Logged (Returns)
open RebooterHub.Watchdog (RuleRow field newRow)

/-! ### New rows -/

section
variable {ρ : Type} {m : Table ρ} {key : String} {rec rec' norm : ρ → Members} {rows own : List ρ}
  {c : Collation}

/-- The records of rows, each written into a new row; `rec'` is the record of the new row. -/
theorem exists_restored (hkey : m.key = rawText key)
    (hrec : ∀ r, field (rec r) key = .str (m.nameOf r)) (hnames : (own.map m.nameOf).Nodup)
    (hsorted : own.Pairwise fun a b => c.le (m.nameOf a) (m.nameOf b))
    (hcreate : ∀ r ∈ own, ∀ rows', m.nameOf r ∉ rows'.map m.nameOf →
      ∃ row, m.create rows' (rec r) = .ok row ∧ m.nameOf row = m.nameOf r ∧ rec' row = norm r) :
    ∃ t, Returns (m.write []) [] (own.map rec) (namedDeed key []) t ∧
      t.map m.nameOf = own.map m.nameOf ∧ (c.orderBy m.nameOf t).map rec' = own.map norm := by
  have hname : ∀ r, m.key (rec r) = m.nameOf r := by
    intro r
    rw [hkey, rawText_of_str (hrec r)]
  have hkeys : own.map (m.comap rec).key = own.map m.nameOf :=
    List.map_congr_left fun r _ => hname r
  obtain ⟨t, hloop, hall⟩ : ∃ t, Returns ((m.comap rec).write []) [] own (fun _ => .created) ([] ++ t) ∧
      List.Forall₂ (fun r row => m.nameOf row = m.key (rec r) ∧ rec' row = norm r) own t := by
    refine (m.comap rec).exists_returns_new (fun _ _ => List.not_mem_nil)
      (fun _ _ => List.not_mem_nil) (hkeys ▸ hnames) fun r hr rows' hfresh => ?_
    obtain ⟨row, hrow, hsame, hnorm⟩ := hcreate r hr rows' (hname r ▸ hfresh)
    exact ⟨row, hrow, hsame.trans (hname r).symm, hnorm⟩
  have htnames : t.map m.nameOf = own.map m.nameOf :=
    map_eq_of_forall₂ hall fun r _ h => h.1.trans (hname r)
  have htrecords : t.map rec' = own.map norm := map_eq_of_forall₂ hall fun _ _ h => h.2
  refine ⟨t, ?_, htnames, ?_⟩
  · rw [Logged.returns_map]
    exact hloop
  · rw [c.orderBy_of_pairwise, htrecords]
    rw [← List.pairwise_map (f := m.nameOf) (R := fun a b => c.le a b), htnames, List.pairwise_map]
    exact hsorted

variable (rec rec' norm) in
/-- The records of a section, each written into a new row. -/
theorem exists_restored_section (hkey : m.key = rawText key)
    (hrec : ∀ r, field (rec r) key = .str (m.nameOf r)) (hnames : NaturalNames (rows.map m.nameOf))
    (hcreate : ∀ r ∈ rows, ∀ rows', ∃ row, m.create rows' (rec r) = .ok row ∧
      m.nameOf row = m.nameOf r ∧ rec' row = norm r) :
    ∃ t, Returns (m.write []) [] (firsts (strippedName key) "" [] ((c.orderBy m.nameOf rows).map rec))
        (namedDeed key []) t ∧ (∀ name, name ∈ t.map m.nameOf ↔ name ∈ rows.map m.nameOf) ∧
      (c.orderBy m.nameOf t).map rec' = (c.orderBy m.nameOf rows).map norm := by
  have hperm : ((c.orderBy m.nameOf rows).map m.nameOf).Perm (rows.map m.nameOf) :=
    c.orderBy_perm.map m.nameOf
  obtain ⟨t, hloop, htnames, hexport⟩ := exists_restored hkey hrec (hperm.nodup_iff.mpr hnames.nodup)
    c.orderBy_pairwise fun r hr rows' _ => hcreate r (c.mem_orderBy.mp hr) rows'
  refine ⟨t, ?_, fun name => ?_, hexport⟩
  · rwa [firsts_orderBy hrec hnames]
  · rw [htnames, hperm.mem_iff]

end

/-! ### The rows of exported records -/

/-- What an import on an empty hub needs: an organization, and different ids for the new rows. -/
structure FreshIds (env : Env) : Prop where
  org : env.org.isSome
  sites : Function.Injective (env.newId .sites)
  groups : Function.Injective (env.newId .groups)

/-- A record without its site. -/
def unsited (ms : Members) : Members := ms.filter (·.1 ≠ "site_name")

/-- A configuration without what was redacted. -/
def restoredConfig : Json → Json
  | .obj cfg => configJson (orNone (dropRedacted cfg))
  | v => v

/-- A source's record without what was redacted. -/
def restoredSource : Members → Members :=
  Dict.mapValues fun k v => if k = "config" then restoredConfig v else v

section
variable {env : Env} {sites sites₀ : List Site} {includeSecrets : Bool}

theorem fitsNew_of_holds {n : Nat} {name : String} (horg : env.org.isSome)
    (h : env.holds (.varchar n) (.str name)) : env.fitsNew n name := by
  rw [Env.fitsNew, horg, h]
  rfl

theorem siteRecord_restored {s : Site} (horg : env.org.isSome)
    (h : env.holds (.varchar 120) (.str s.name) ∧ env.nullable .text s.description)
    (rows' : List Site) : ∃ row, (sitesTable env).create rows' (siteRecord s) = .ok row ∧
      row.name = s.name ∧ siteRecord row = siteRecord s := by
  refine ⟨_, if_pos ?_, rfl, rfl⟩
  exact Bool.and_eq_true_iff.mpr ⟨fitsNew_of_holds horg h.1, h.2⟩

/-- A group's site has no row yet. -/
theorem siteByName_nil {g : Group} : siteByName [] (groupRecord sites g) = .ok none := by
  have hfield : field (groupRecord sites g) "site_name" = siteNameById sites g.siteId := rfl
  rw [siteByName, hfield]
  rcases siteNameById_cases sites g.siteId with h | ⟨s, -, h⟩
  · rw [h]
  · rw [h]
    rfl

theorem groupRecord_restored {g : Group} (horg : env.org.isSome)
    (h : env.holds (.varchar 120) (.str g.name) ∧ env.nullable .text g.description)
    (rows' : List Group) :
    ∃ row, (groupsTable env []).create rows' (groupRecord sites₀ g) = .ok row ∧
      row.name = g.name ∧ unsited (groupRecord sites row) = unsited (groupRecord sites₀ g) := by
  refine ⟨⟨env.newId .groups rows'.length, g.name, g.description, none⟩, ?_, rfl, ?_⟩
  · dsimp only [groupsTable]
    rw [siteByName_nil]
    exact if_pos (Bool.and_eq_true_iff.mpr ⟨fitsNew_of_holds horg h.1, h.2⟩)
  · simp [unsited, groupRecord]

theorem ruleRecord_restored {r : RuleRow} (horg : env.org.isSome) (hids : Keyed (·.id) sites)
    (hknows : KnowsSite sites (ruleRecord sites₀ r)) (h : RuleColumns env r)
    (rows' : List RuleRow) :
    ∃ row, (rulesTable env sites).create rows' (ruleRecord sites₀ r) = .ok row ∧
      row.name = r.name ∧ ruleRecord sites row = stopEscalation (ruleRecord sites₀ r) := by
  obtain ⟨siteId, hsite, hname⟩ := importedSite_knows hids hknows
  refine ⟨(ruleValues siteId r).assign
    { newRow (env.newId .watchdogRules rows'.length) with name := r.name }, ?_, rfl,
    ruleRecord_assign rfl hname⟩
  dsimp only [rulesTable]
  rw [ruleFields_record hsite]
  exact if_pos (Bool.and_eq_true_iff.mpr ⟨fitsNew_of_holds horg h.name, ruleValues_fits h⟩)

theorem scheduleRecord_restored {s : Schedule} (horg : env.org.isSome) (h : ScheduleColumns env s)
    (rows' : List Schedule) :
    ∃ row, (schedulesTable env).create rows' (scheduleRecord s) = .ok row ∧
      row.name = s.name ∧ scheduleRecord row = scheduleRecord s := by
  have hrecurrence : (scheduleValues s).recurrence ≠ .null :=
    of_decide_eq_true (Bool.and_eq_true_iff.mp h.recurrence).1
  have hdefaulted : (scheduleValues s).defaulted = scheduleValues s := by
    rw [ScheduleFields.defaulted, if_neg hrecurrence]
  refine ⟨(scheduleValues s).assign (newSchedule (env.newId .schedules rows'.length) s.name), ?_,
    rfl, scheduleRecord_assign rfl⟩
  dsimp only [schedulesTable]
  rw [scheduleFields_record]
  change admitted (env.fitsNew 120 s.name && (scheduleValues s).defaulted.fits env)
    ((scheduleValues s).defaulted.assign _) = _
  rw [hdefaulted]
  exact if_pos (Bool.and_eq_true_iff.mpr ⟨fitsNew_of_holds horg h.name, scheduleValues_fits h⟩)

theorem sceneRecord_restored {s : Scene} (horg : env.org.isSome)
    (h : env.holds (.varchar 120) (.str s.name) ∧ env.nullable (.varchar 500) s.description)
    (rows' : List Scene) : ∃ row, (scenesTable env).create rows' (sceneRecord s) = .ok row ∧
      row.name = s.name ∧ sceneRecord row = sceneRecord s := by
  refine ⟨_, if_pos (Bool.and_eq_true_iff.mpr ⟨fitsNew_of_holds horg h.1, h.2⟩), rfl, ?_⟩
  change [("name", Json.str s.name), ("description", s.description),
    ("items", s.items.orNil.orNil.orNil)] = _
  rw [orNil_orNil, orNil_orNil]
  rfl

/-- What is left of a redacted configuration has nothing to redact. -/
theorem redactExtConfig_dropRedacted {config : Members} :
    redactExtConfig (orNone (dropRedacted ((redactExtConfig (some config)).getD []))) =
      orNone (dropRedacted ((redactExtConfig (some config)).getD [])) := by
  have hplain : ∀ m ∈ dropRedacted ((redactExtConfig (some config)).getD []),
      (if mentions extSecretSubkeys m.1 then redactedSentinel else m.2) = m.2 := by
    intro m hm
    obtain ⟨hmem, hvalue⟩ := List.mem_filter.mp hm
    obtain ⟨⟨k, v⟩, -, rfl⟩ := List.mem_map.mp hmem
    refine if_neg fun hsecret => of_decide_eq_true hvalue ?_
    exact if_pos hsecret
  generalize dropRedacted ((redactExtConfig (some config)).getD []) = left at hplain
  rw [orNone]
  split
  · rfl
  · exact congrArg some ((Dict.mapValues_congr hplain).trans (Dict.mapValues_self (fun _ _ => rfl) left))

theorem sourceRecord_restored {e : ExternalSensorSource} (horg : env.org.isSome)
    (h : SourceColumns env e) (rows' : List ExternalSensorSource) :
    ∃ row, (sourcesTable env).create rows' (sourceRecord includeSecrets e) = .ok row ∧
      row.displayName = e.displayName ∧
        sourceRecord includeSecrets row = restoredSource (sourceRecord includeSecrets e) := by
  obtain ⟨text, htext, -⟩ := h.host
  let f := sourceValues includeSecrets e
  refine ⟨{
    id := env.newId .externalSources rows'.length, kind := f.kind, displayName := e.displayName
    host := f.host, port := f.port, enabled := f.enabled
    pollIntervalSeconds := f.pollIntervalSeconds, lastPolledAt := none, lastSuccessAt := none
    lastError := none, config := orNone f.config, createdAt := env.now }, ?_, rfl, ?_⟩
  · dsimp only [sourcesTable]
    rw [sourceFields_record ⟨text, htext⟩]
    exact if_pos (Bool.and_eq_true_iff.mpr ⟨fitsNew_of_holds horg h.name, sourceValues_fits h⟩)
  · have hconfig : configJson (if includeSecrets then orNone f.config
          else redactExtConfig (orNone f.config)) =
        restoredConfig (configJson
          (if includeSecrets then e.config else redactExtConfig e.config)) := by
      dsimp only [f, sourceValues, exportedConfig]
      cases includeSecrets with
      | true => cases e.config <;> rfl
      | false =>
          cases e.config with
          | none => rfl
          | some config => exact congrArg configJson redactExtConfig_dropRedacted
    simp [sourceRecord, restoredSource, Dict.mapValues, hconfig]
    simp [f, sourceValues]

end

/-! ### The wiped hub -/

/-- A device of which nothing is desired. -/
def Device.unset (d : Device) : Device := { d with desiredConfig := .null, desiredMode := .null }

/-- The hub with its devices and nothing else. -/
def wiped (hub : Hub) : Hub := { Hub.empty with devices := hub.devices.map Device.unset }

section
variable {c : Collation} {includeSecrets : Bool} {hub : Hub}

theorem unset_keeps (d : Device) : d.unset.id = d.id ∧ d.unset.macAddress = d.macAddress :=
  ⟨rfl, rfl⟩

/-- What the record of a membership is. -/
theorem mem_memberships {ms : Members} (hportable : Portable hub)
    (hms : ms ∈ collectSections c includeSecrets hub .groupMemberships) :
    ∃ g ∈ hub.groups, ∃ d ∈ hub.devices, ∃ mac, d.mac? = some mac ∧
      ms = [("group_name", .str g.name), ("device_mac", .str mac)] ∧
        strippedName "group_name" ms = g.name ∧ strippedName "device_mac" ms = mac := by
  obtain ⟨m, -, hrec⟩ := List.mem_filterMap.mp hms
  obtain ⟨g, hg, -, d, hd, mac, hmac, rfl⟩ := membershipRecord_eq_some.mp hrec
  obtain ⟨hgmem, -⟩ := find?_key hg
  obtain ⟨hdmem, -⟩ := find?_key hd
  exact ⟨g, hgmem, d, hdmem, mac, hmac, rfl,
    (hportable.groups.plain _ (List.mem_map_of_mem hgmem)).2,
    (hportable.macs.plain _ (List.mem_filterMap.mpr ⟨d, hdmem, hmac⟩)).2⟩

theorem deviceByMac_unset {d : Device} {mac : String} (hportable : Portable hub)
    (hd : d ∈ hub.devices) (hmac : d.mac? = some mac) :
    deviceByMac (wiped hub).devices mac = some d.unset := by
  have hmacs : NaturalNames ((hub.devices.map Device.unset).filterMap Device.mac?) := by
    rw [map_mac? fun d => (unset_keeps d).2]
    exact hportable.macs
  exact hmacs.deviceByMac_eq (List.mem_map_of_mem hd) hmac

/-- All memberships are written on the wiped hub. -/
theorem filter_joinable_wiped (hportable : Portable hub) :
    (collectSections c includeSecrets hub .groupMemberships).filter (joinable (wiped hub)) =
      collectSections c includeSecrets hub .groupMemberships := by
  refine List.filter_eq_self.mpr fun ms hms => ?_
  obtain ⟨g, -, d, hd, mac, hmac, -, -, hstripped⟩ := mem_memberships hportable hms
  have hfree : ∀ gname mac, ¬HasMembership (wiped hub) gname mac := by
    rintro gname mac ⟨group, hgroup, -⟩
    cases hgroup
  rw [joinable, hstripped, deviceByMac_unset hportable hd hmac]
  simpa using hfree _ _

/-- Two memberships are not of the same names. -/
theorem nodup_pairs (hportable : Portable hub) (hstored : hub.memberships.Nodup) :
    ((collectSections c includeSecrets hub .groupMemberships).map fun ms =>
      (rawText "group_name" ms, rawText "device_mac" ms)).Nodup := by
  rw [collectSections, List.map_filterMap]
  refine hstored.filterMap fun m m' pair hm hm' => ?_
  obtain ⟨ms, hms, rfl⟩ := Option.map_eq_some_iff.mp hm
  obtain ⟨ms', hms', hsame⟩ := Option.map_eq_some_iff.mp hm'
  obtain ⟨g, hg, -, d, hd, mac, hmac, rfl⟩ := membershipRecord_eq_some.mp hms
  obtain ⟨g', hg', -, d', hd', mac', hmac', rfl⟩ := membershipRecord_eq_some.mp hms'
  obtain ⟨hgmem, hgid⟩ := find?_key hg
  obtain ⟨hgmem', hgid'⟩ := find?_key hg'
  obtain ⟨hdmem, hdid⟩ := find?_key hd
  obtain ⟨hdmem', hdid'⟩ := find?_key hd'
  have hnames : Keyed (·.name) hub.groups := hportable.groups.nodup
  obtain ⟨hgname, hsamemac⟩ := Prod.mk.inj hsame
  have hgroups : g' = g := hnames.eq hgmem' hgmem hgname
  have hdevices : d' = d := eq_of_nodup_filterMap hportable.macs.nodup hdmem' hdmem
    (hmac'.trans (congrArg some hsamemac)) hmac
  cases m
  cases m'
  simp_all

/-- The record that a membership is written from. -/
theorem membershipRecord_resolve {groups : List Group} {devices : List Device}
    {names : String × String} {m : GroupMembership} (hgroups : Keyed (·.id) groups)
    (hdevices : Keyed (·.id) devices) (hname : names.1 ≠ "")
    (h : resolve groups devices names = some m) : membershipRecord groups devices m =
      some [("group_name", .str names.1), ("device_mac", .str names.2)] := by
  obtain ⟨g, hg, d, hd, rfl⟩ := resolve_eq_some.mp h
  obtain ⟨hgmem, hgname⟩ := groupByName_spec hg
  obtain ⟨hdmem, hmac⟩ := deviceByMac_spec hd
  refine membershipRecord_eq_some.mpr ⟨g, hgroups.find? hgmem, ?_, d, hdevices.find? hdmem,
    names.2, hmac, ?_⟩
  · rwa [hgname]
  · rw [hgname]

variable (c includeSecrets) in
/-- The memberships, written for new groups of the same names. -/
theorem exists_restored_memberships {groups : List Group} (hportable : Portable hub)
    (hmemberships : hub.memberships.Nodup) (hdevices : Keyed (·.id) hub.devices)
    (hkeyed : Keyed (·.id) groups)
    (hnames : ∀ name, name ∈ groups.map (·.name) ↔ name ∈ hub.groups.map (·.name)) :
    ∃ t, Returns (writeMembership groups (wiped hub).devices) []
        (collectSections c includeSecrets hub .groupMemberships) (fun _ => .created) t ∧
      t.filterMap (membershipRecord groups (wiped hub).devices) =
        collectSections c includeSecrets hub .groupMemberships := by
  let recordOf (ms : Members) : Members :=
    [("group_name", .str (rawText "group_name" ms)), ("device_mac", .str (rawText "device_mac" ms))]
  have hids : Keyed (·.id) (wiped hub).devices := by
    rw [Keyed, wiped, List.map_map]
    exact hdevices
  have hresolve : ∀ ms ∈ collectSections c includeSecrets hub .groupMemberships, ∃ gname m,
      field ms "group_name" = .str gname ∧
        resolve groups (wiped hub).devices (gname, rawText "device_mac" ms) = some m ∧
          m ∉ (wiped hub).memberships := by
    intro ms hms
    obtain ⟨g, hg, d, hd, mac, hmac, rfl, -⟩ := mem_memberships hportable hms
    have hknown : g.name ∈ groups.map (·.name) := (hnames _).mpr (List.mem_map_of_mem hg)
    cases hfind : groupByName groups g.name with
    | none =>
        rw [groupByName, find?_eq_none_iff, List.map_reverse, List.mem_reverse] at hfind
        exact absurd hknown hfind
    | some g' =>
        exact ⟨g.name, _, rfl, resolve_eq_some.mpr
          ⟨g', hfind, d.unset, deviceByMac_unset hportable hd hmac, rfl⟩, List.not_mem_nil⟩
  obtain ⟨t, hloop⟩ := (exists_memberships_iff hkeyed hids).mpr
    ⟨hresolve, nodup_pairs hportable hmemberships⟩
  have hkeep : ∀ (pre : List Members) ms (rows t : List GroupMembership),
      rows.filterMap (membershipRecord groups (wiped hub).devices) = pre.map recordOf →
      writeMembership groups (wiped hub).devices rows ms = .ok (t, .created) →
      t.filterMap (membershipRecord groups (wiped hub).devices) = (pre ++ [ms]).map recordOf := by
    intro pre ms rows t hrows h
    obtain ⟨gname, m, hfield, hm, -, rfl⟩ := writeMembership_iff.mp h
    have hgname : gname ≠ "" := by
      obtain ⟨g, hg, -⟩ := resolve_eq_some.mp hm
      obtain ⟨hmem, hname⟩ := groupByName_spec hg
      change g.name = gname at hname
      exact (hportable.groups.plain gname
        ((hnames gname).mp (hname ▸ List.mem_map_of_mem hmem))).1
    have hrec := membershipRecord_resolve hkeyed hids hgname hm
    rw [List.filterMap_append, hrows, List.filterMap_cons_some hrec, List.map_append,
      List.map_singleton]
    simp only [recordOf, rawText_of_str hfield]
    rfl
  have hrecords : t.filterMap (membershipRecord groups (wiped hub).devices) =
      ([] ++ collectSections c includeSecrets hub .groupMemberships).map recordOf :=
    hloop.invariant (I := fun pre rows =>
      rows.filterMap (membershipRecord groups (wiped hub).devices) = pre.map recordOf) hkeep rfl
  refine ⟨t, hloop, hrecords.trans ?_⟩
  rw [List.nil_append]
  refine (List.map_congr_left fun ms hms => ?_).trans (List.map_id _)
  obtain ⟨g, -, d, -, mac, -, rfl, -⟩ := mem_memberships hportable hms
  rfl

variable (c includeSecrets) in
/-- The settings that are imported, written into new rows. -/
theorem exists_restored_settings {env : Env} (hportable : Portable hub) (hstored : WellStored env hub) :
    ∃ t, Returns ((settingsTable env).write []) []
        ((collectSections c includeSecrets hub .runtimeSettings).filter importable)
        (namedDeed "name" []) t ∧
      (c.orderBy (·.name) t).map (settingRecord includeSecrets) =
        (collectSections c includeSecrets hub .runtimeSettings).filter importable := by
  have hnodup : ((importedSettings c includeSecrets hub.settings).map (·.name)).Nodup :=
    ((c.orderBy_perm.map _).nodup_iff.mpr hportable.settings.nodup).sublist
      (List.filter_sublist.map _)
  obtain ⟨t, hloop, -, hexport⟩ : ∃ t, Returns ((settingsTable env).write []) []
      ((importedSettings c includeSecrets hub.settings).map (settingRecord includeSecrets))
      (namedDeed "name" []) t ∧
        t.map (·.name) = (importedSettings c includeSecrets hub.settings).map (·.name) ∧
        (c.orderBy (·.name) t).map (settingRecord includeSecrets) =
          (importedSettings c includeSecrets hub.settings).map (settingRecord includeSecrets) := by
    refine exists_restored (m := settingsTable env) rfl (fun _ => rfl) hnodup
      (c.orderBy_pairwise.filter _) fun r hr rows' hfresh => ?_
    obtain ⟨hmem, himportable⟩ := List.mem_filter.mp hr
    refine ⟨{ name := r.name, value := [("v", (r.value.lookup "v").getD .null)] }, ?_, rfl, rfl⟩
    rw [← value_of_importable himportable]
    exact if_pos (Bool.and_eq_true_iff.mpr
      ⟨decide_eq_true hfresh, hstored.settings r (c.mem_orderBy.mp hmem)⟩)
  rw [← filter_settings] at hloop hexport
  exact ⟨t, hloop, hexport⟩

/-! ### The restored hub -/

/-- What the export of the new hub has of the export of the old one.  The sites of the groups are
left open. -/
structure Restored (c : Collation) (includeSecrets : Bool) (hub hub' : Hub) : Prop where
  settings : collectSections c includeSecrets hub' .runtimeSettings =
    (collectSections c includeSecrets hub .runtimeSettings).filter importable
  sites : collectSections c includeSecrets hub' .sites = collectSections c includeSecrets hub .sites
  groups : (collectSections c includeSecrets hub' .groups).map unsited =
    (collectSections c includeSecrets hub .groups).map unsited
  memberships : collectSections c includeSecrets hub' .groupMemberships =
    collectSections c includeSecrets hub .groupMemberships
  rules : collectSections c includeSecrets hub' .watchdogRules =
    (collectSections c includeSecrets hub .watchdogRules).map stopEscalation
  schedules : collectSections c includeSecrets hub' .schedules =
    collectSections c includeSecrets hub .schedules
  scenes : collectSections c includeSecrets hub' .scenes =
    collectSections c includeSecrets hub .scenes
  sources : collectSections c includeSecrets hub' .externalSources =
    (collectSections c includeSecrets hub .externalSources).map restoredSource
  deviceConfig : collectSections c includeSecrets hub' .deviceConfig =
    collectSections c includeSecrets hub .deviceConfig
  /-- Each device that has a MAC is as it was. -/
  devices : ∀ d ∈ hub.devices, d.mac?.isSome → d ∈ hub'.devices

/-- The devices after the import. -/
def restoredDevices (hub : Hub) : List Device :=
  hub.devices.map fun d => if d.mac?.isSome then d else d.unset

theorem unset_of_deviceRecord {d : Device} (hmac : d.mac?.isSome) (h : deviceRecord d = none) :
    d.unset = d := by
  obtain ⟨mac, hmac⟩ := Option.isSome_iff_exists.mp hmac
  obtain ⟨hconfig, hmode⟩ : d.desiredConfig = .null ∧ d.desiredMode = .null := by
    by_contra hdesired
    cases h.symm.trans (deviceRecord_eq_some.mpr ⟨mac, hmac, hdesired, rfl⟩)
  cases d
  simp only at hconfig hmode
  rw [hconfig, hmode]
  rfl

theorem returns_restoredDevices (hportable : Portable hub) (hids : Keyed (·.id) hub.devices) :
    Returns writeDevice (wiped hub).devices
      ((collectSections c includeSecrets hub .deviceConfig).filter
        (attachable (wiped hub).devices)) (fun _ => .updated) (restoredDevices hub) := by
  have hloop : Returns writeDevice (hub.devices.map Device.unset)
      ((collectSections c includeSecrets hub .deviceConfig).filter
        (attachable (hub.devices.map Device.unset))) (fun _ => .updated) (hub.devices.map fun d =>
          if (deviceRecord d).isSome then
            { d.unset with desiredConfig := d.desiredConfig, desiredMode := d.desiredMode }
          else d.unset) :=
    returns_devices unset_keeps hids hportable.macs
  have hsame : (hub.devices.map fun d => if (deviceRecord d).isSome then
      { d.unset with desiredConfig := d.desiredConfig, desiredMode := d.desiredMode }
      else d.unset) = restoredDevices hub := by
    refine List.map_congr_left fun d _ => ?_
    cases hrec : deviceRecord d with
    | some r =>
        obtain ⟨mac, hmac, -⟩ := deviceRecord_eq_some.mp hrec
        rw [hmac]
        rfl
    | none =>
        cases hmac : d.mac?.isSome with
        | true => exact unset_of_deviceRecord hmac hrec
        | false => rfl
  rwa [hsame] at hloop

/-- A restored device keeps its id and its MAC. -/
theorem restored_keeps (d : Device) : (if d.mac?.isSome then d else d.unset).id = d.id ∧
    (if d.mac?.isSome then d else d.unset).macAddress = d.macAddress := by
  split
  · exact ⟨rfl, rfl⟩
  · exact unset_keeps d

theorem filterMap_restoredDevices :
    (restoredDevices hub).filterMap deviceRecord = hub.devices.filterMap deviceRecord := by
  rw [restoredDevices, List.filterMap_map]
  refine List.filterMap_congr fun d _ => ?_
  rw [Function.comp_apply]
  split
  · rfl
  · next hmac =>
      have hnone : d.mac? = none := by simpa using hmac
      have hrecord : ∀ d : Device, d.mac? = none → deviceRecord d = none := by
        intro d hd
        rw [deviceRecord, hd]
        rfl
      rw [hrecord d hnone]
      exact hrecord d.unset hnone

theorem restoredDevices_fit {env : Env} (h : devicesFit env hub.devices) :
    devicesFit env (restoredDevices hub) := by
  rw [devicesFit, List.all_eq_true] at h
  rw [devicesFit, List.all_eq_true]
  intro d' hd'
  obtain ⟨d, hd, rfl⟩ := List.mem_map.mp hd'
  split
  · exact h d hd
  · rfl

/-- The export of a membership depends on the ids and the MACs of the devices. -/
theorem membershipRecord_map {groups : List Group} {devices : List Device} {k : Device → Device}
    (hk : ∀ d, (k d).id = d.id ∧ (k d).macAddress = d.macAddress) (m : GroupMembership) :
    membershipRecord groups (devices.map k) m = membershipRecord groups devices m := by
  have hmac : ∀ d, (k d).mac? = d.mac? := by
    intro d
    rw [Device.mac?, (hk d).2, Device.mac?]
  have hdevice : ((devices.map k).find? (·.id = m.deviceId)).bind Device.mac? =
      (devices.find? (·.id = m.deviceId)).bind Device.mac? := by
    rw [List.find?_map, Option.bind_map]
    simp only [Function.comp_def, (hk _).1, hmac]
  rw [membershipRecord, hdevice, membershipRecord]

/-- A record that knows its site still does when the sites are others of the same names. -/
theorem KnowsSite.of_names {sites sites' : List Site} {ms : Members} (h : KnowsSite sites ms)
    (hnames : ∀ name, name ∈ sites'.map (·.name) ↔ name ∈ sites.map (·.name)) :
    KnowsSite sites' ms := by
  rcases h with h | ⟨s, hs, h⟩
  · exact .inl h
  · obtain ⟨s', hs', hname⟩ := List.mem_map.mp ((hnames s.name).mpr (List.mem_map_of_mem hs))
    exact .inr ⟨s', hs', by rw [h, hname]⟩

/-- **The import on the wiped hub.** -/
theorem imports_wiped {env : Env} (hportable : Portable hub) (hstored : WellStored env hub)
    (hfresh : FreshIds env) :
    ∃ hub', Imports env (wiped hub)
      (writtenRecords (wiped hub) (collectSections c includeSecrets hub)) hub' ∧
        Restored c includeSecrets hub hub' := by
  obtain ⟨settings, hsettings, hsettingsExport⟩ :=
    exists_restored_settings c includeSecrets hportable hstored
  obtain ⟨sites, hsites, hsiteNames, hsitesExport⟩ :=
    exists_restored_section (m := sitesTable env) (c := c) siteRecord siteRecord siteRecord rfl
      (fun _ => rfl) hportable.sites fun s hs rows' =>
        siteRecord_restored hfresh.org (hstored.sites s hs) rows'
  have hsiteIds : Keyed (·.id) sites :=
    sitesTable_lawful.keyed hsites List.nodup_nil hfresh.sites fun _ => List.not_mem_nil
  obtain ⟨groups, hgroups, hgroupNames, hgroupsExport⟩ :=
    exists_restored_section (m := groupsTable env []) (c := c) (groupRecord hub.sites)
      (fun g => unsited (groupRecord sites g)) (fun g => unsited (groupRecord hub.sites g)) rfl
      (fun _ => rfl) hportable.groups
      fun g hg rows' => groupRecord_restored hfresh.org (hstored.groups g hg) rows'
  have hgroupIds : Keyed (·.id) groups :=
    groupsTable_lawful.keyed hgroups List.nodup_nil hfresh.groups fun _ => List.not_mem_nil
  obtain ⟨memberships, hmemberships, hmembershipsExport⟩ :=
    exists_restored_memberships c includeSecrets hportable
      hstored.memberships hstored.deviceIds hgroupIds hgroupNames
  obtain ⟨rules, hrules, -, hrulesExport⟩ :=
    exists_restored_section (m := rulesTable env sites) (c := c) (ruleRecord hub.sites)
      (ruleRecord sites) (fun r => stopEscalation (ruleRecord hub.sites r)) rfl (fun _ => rfl)
      hportable.rules fun r hr rows' => ruleRecord_restored hfresh.org hsiteIds
        ((knowsSite_rule r).of_names hsiteNames) (hstored.rules r hr) rows'
  obtain ⟨schedules, hschedules, -, hschedulesExport⟩ :=
    exists_restored_section (m := schedulesTable env) (c := c) scheduleRecord scheduleRecord
      scheduleRecord rfl (fun _ => rfl) hportable.schedules fun s hs rows' =>
        scheduleRecord_restored hfresh.org (hstored.schedules s hs) rows'
  obtain ⟨scenes, hscenes, -, hscenesExport⟩ :=
    exists_restored_section (m := scenesTable env) (c := c) sceneRecord sceneRecord sceneRecord
      rfl (fun _ => rfl) hportable.scenes fun s hs rows' =>
        sceneRecord_restored hfresh.org (hstored.scenes s hs) rows'
  obtain ⟨sources, hsources, -, hsourcesExport⟩ :=
    exists_restored_section (m := sourcesTable env) (c := c) (sourceRecord includeSecrets)
      (sourceRecord includeSecrets) (fun e => restoredSource (sourceRecord includeSecrets e)) rfl
      (fun _ => rfl)
      hportable.sources fun e he rows' =>
        sourceRecord_restored hfresh.org (hstored.sources e he) rows'
  refine ⟨⟨settings, sites, groups, memberships, rules, schedules, scenes, sources,
    restoredDevices hub⟩, ?_, ?_⟩
  · exact {
      settings := hsettings
      sites := hsites
      groups := hgroups
      memberships := by
        rw [← filter_joinable_wiped hportable] at hmemberships
        exact hmemberships
      rules := hrules
      schedules := hschedules
      scenes := hscenes
      sources := hsources
      devices := returns_restoredDevices hportable hstored.deviceIds
      fits := restoredDevices_fit hstored.devices }
  · exact {
      settings := hsettingsExport
      sites := hsitesExport
      groups := by
        rw [collectSections, collectSections, List.map_map, List.map_map]
        exact hgroupsExport
      memberships := by
        refine (List.filterMap_congr fun m _ => ?_).trans hmembershipsExport
        exact (membershipRecord_map restored_keeps m).trans (membershipRecord_map unset_keeps m).symm
      rules := hrulesExport.trans List.map_map.symm
      schedules := hschedulesExport
      scenes := hscenesExport
      sources := hsourcesExport.trans List.map_map.symm
      deviceConfig := by
        rw [collectSections, filterMap_restoredDevices]
        rfl
      devices := by
        intro d hd hmac
        refine List.mem_map.mpr ⟨d, hd, if_pos hmac⟩ }

end

/-! ### The round trip -/

/-- The import of a file into `hub` leaves `hub'`. -/
def Imported (env : Env) (decrypt : Members → Except BackupError Json) (hub : Hub) (file : Members)
    (hub' : Hub) : Prop :=
  ∃ plan r, parseAndPlan decrypt hub (.obj file) = .ok plan ∧
    applyPlan env hub plan = .ok (hub', r)

section
variable {env : Env} {c : Collation} {now : String} {includeSecrets : Bool} {hub : Hub}
  {file : Members}

/-- An exported file that is opened is imported record by record. -/
theorem imported_of_imports {decrypt : Members → Except BackupError Json} {hub₀ hub' : Hub}
    (hopen : openDocument decrypt (.obj file) = .ok (exportDocument c now includeSecrets hub))
    (h : Imports env hub₀ (writtenRecords hub₀ (collectSections c includeSecrets hub)) hub') :
    Imported env decrypt hub₀ file hub' := by
  obtain ⟨plan, hplan⟩ : ∃ plan, parseAndPlan decrypt hub₀ (.obj file) = .ok plan :=
    exists_plan hopen
  have hrecords : documentRecords (exportDocument c now includeSecrets hub) =
      collectSections c includeSecrets hub := by
    funext s
    exact documentRecords_export
  have hannounced := parseAndPlan_announces hplan hopen
  rw [hrecords] at hannounced
  obtain ⟨r, happly, -⟩ := (applyPlan_iff hannounced).mpr h
  exact ⟨plan, r, hplan, happly⟩

variable {Key : Type} {cipher : Cipher Key} {codec : JsonCodec} {salt nonce : List UInt8}
  {sealedAt : String} {passphrase : Option String}

/-- **The round trip of a backup.**  Importing it on the hub it is from leaves the export as it is,
but for an empty escalation or configuration.  Importing it on the wiped hub restores what was not
redacted. -/
theorem exportConfig_roundTrip (hportable : Portable hub) (hstored : WellStored env hub)
    (hfresh : FreshIds env)
    (hreversible : includeSecrets = true →
      Reversible cipher codec nonce (exportDocument c now includeSecrets hub))
    (hexport : exportConfig c (envelope cipher codec salt nonce sealedAt) now includeSecrets
      passphrase hub = .ok file) :
    (∃ hub', Imported env (decryptDocument cipher codec (passphrase.getD "")) hub file hub' ∧
      ∀ includeSecrets' s, collectSections c includeSecrets' hub' s =
        (collectSections c includeSecrets' hub s).map (reimported s)) ∧
    ∃ hub', Imported env (decryptDocument cipher codec (passphrase.getD "")) (wiped hub) file hub' ∧
      Restored c includeSecrets hub hub' := by
  have hopen := openDocument_export hreversible hexport
  obtain ⟨hub', himports, hrestored⟩ := imports_wiped hportable hstored hfresh
  exact ⟨⟨reimportedHub env c includeSecrets hub,
      imported_of_imports hopen (imports_reimportedHub hportable hstored),
      fun _ s => collectSections_reimportedHub hportable hstored s⟩,
    hub', imported_of_imports hopen himports, hrestored⟩

end

/-! ### A hub with a secret -/

/-- A hub with the password of a mail server, a site and a device. -/
def mailHub : Hub :=
  { Hub.empty with
    settings := [⟨"smtp.password", [("v", .str "hunter2")]⟩]
    sites := [⟨"s1", "Attic", .null⟩]
    devices := [⟨"d1", some "AA:BB:CC:00:11:22", .obj [("name", .str "Lamp")], .str "smart_plug"⟩] }

/-- The plain backup of the hub. -/
def mailFile : Members := exportDocument codePoints "2026-01-01T00:00:00Z" false mailHub

/-- The password is redacted in the backup and is not restored. -/
theorem password_not_restored :
    exportConfig codePoints (fun doc _ => doc) "2026-01-01T00:00:00Z" false none mailHub =
        .ok mailFile ∧
      ¬∃ hub', Imported acmeEnv noPassphrase (wiped mailHub) mailFile hub' ∧
        ∀ s, collectSections codePoints false hub' s = collectSections codePoints false mailHub s := by
  refine ⟨rfl, ?_⟩
  rintro ⟨hub', ⟨plan, r, hplan, happly⟩, hsame⟩
  obtain ⟨plan', hplan', hdone⟩ : ∃ plan,
      parseAndPlan noPassphrase (wiped mailHub) (.obj mailFile) = .ok plan ∧
        (applyPlan acmeEnv (wiped mailHub) plan).toOption.map (·.1.settings) = some [] :=
    ⟨_, rfl, by decide +kernel⟩
  obtain rfl := Except.ok.inj (hplan.symm.trans hplan')
  rw [happly] at hdone
  have hsettings : hub'.settings = [] := Option.some.inj hdone
  have hexport := hsame .runtimeSettings
  rw [collectSections, hsettings] at hexport
  cases hexport

theorem naturalNames_nil : NaturalNames [] := ⟨List.nodup_nil, nofun⟩

theorem naturalNames_singleton (name : String) (h : name ≠ "" ∧ Text.stripped name = name) :
    NaturalNames [name] := ⟨List.nodup_singleton name, List.forall_mem_singleton.mpr h⟩

theorem mailHub_portable : Portable mailHub where
  settings := naturalNames_singleton "smtp.password" (by decide +kernel)
  sites := naturalNames_singleton "Attic" (by decide +kernel)
  groups := naturalNames_nil
  rules := naturalNames_nil
  schedules := naturalNames_nil
  scenes := naturalNames_nil
  sources := naturalNames_nil
  macs := naturalNames_singleton "AA:BB:CC:00:11:22" (by decide +kernel)

theorem mailHub_stored : WellStored acmeEnv mailHub where
  siteIds := List.nodup_singleton _
  groupIds := List.nodup_nil
  ruleIds := List.nodup_nil
  scheduleIds := List.nodup_nil
  sceneIds := List.nodup_nil
  sourceIds := List.nodup_nil
  deviceIds := List.nodup_singleton _
  memberships := List.nodup_nil
  settings := by
    intro r hr
    obtain rfl := List.mem_singleton.mp hr
    decide +kernel
  sites := by
    intro s hs
    obtain rfl := List.mem_singleton.mp hs
    decide +kernel
  groups := List.forall_mem_nil _
  rules := List.forall_mem_nil _
  schedules := List.forall_mem_nil _
  scenes := List.forall_mem_nil _
  sources := List.forall_mem_nil _
  devices := by decide +kernel

theorem acmeEnv_fresh : FreshIds acmeEnv where
  org := rfl
  sites := atticHub_stored.newIds
  groups := atticHub_stored.newIds

/-- A plain file is not encrypted. -/
def noCipher : Cipher Unit where
  deriveKey _ _ := ()
  encrypt _ _ plaintext := plaintext
  decrypt _ _ _ := .error .invalidTag

/-- The document of a plain file is not encoded. -/
def noCodec : JsonCodec where
  dumps _ := []
  loads _ := .error "Expecting value: line 1 column 1 (char 0)"

/-- The backup of the hub on the hub itself, and on the hub when it is wiped. -/
theorem mailHub_roundTrip :
    (∃ hub', Imported acmeEnv (decryptDocument noCipher noCodec "") mailHub mailFile hub' ∧
      ∀ includeSecrets' s, collectSections codePoints includeSecrets' hub' s =
        (collectSections codePoints includeSecrets' mailHub s).map (reimported s)) ∧
    ∃ hub', Imported acmeEnv (decryptDocument noCipher noCodec "") (wiped mailHub) mailFile hub' ∧
      Restored codePoints false mailHub hub' := by
  have hexport : exportConfig codePoints (envelope noCipher noCodec [] [] "") "2026-01-01T00:00:00Z"
      false none mailHub = .ok mailFile := rfl
  exact exportConfig_roundTrip mailHub_portable mailHub_stored acmeEnv_fresh nofun hexport

end RebooterHub.Backup
