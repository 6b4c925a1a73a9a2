import RebooterHub.Backup.Apply

/-!
# Backup — Announced

What a plan announces: which records of a section it will write, and what becomes of each.

* `writtenRecords` are the records that will be written, and `announcedDeed` says which rows they
  make and which they change.
* `parseAndPlan_announces`: a plan announces these, section by section.
* `applyPlan_iff`: an import does what was announced when each section's records do.
-/

namespace RebooterHub.Backup
open RebooterHub.Fallible
open RebooterHub.Logged (Returns)
open RebooterHub.NaturalKey (Deed firsts)
open RebooterHub.Watchdog (field strippedText)

/-! ### Records -/

/-- The dicts among some values. -/
def objects (recs : List Json) : List Members := recs.filterMap fun rec => (asRecord rec).toOption

theorem objects_cons {rec : Json} {recs : List Json} {ms : Members} (h : asRecord rec = .ok ms) :
    objects (rec :: recs) = ms :: objects recs :=
  List.filterMap_cons_some (by rw [h]; rfl)

/-- The records of a section of a document. -/
def documentRecords (doc : Members) (s : Section) : List Members :=
  match field doc "sections" with
  | .obj sections =>
    match field sections s.text with
    | .arr recs => objects recs
    | _ => []
  | _ => []

/-- A planner's name of a record. -/
def strippedName (key : String) (ms : Members) : String := Text.stripped (rawText key ms)

theorem recordName_eq {key name : String} {ms : Members} (h : recordName key ms = .ok name) :
    name = strippedName key ms := by
  obtain ⟨cs, hcs, rfl⟩ := map_eq_ok h
  rw [strippedName, rawText, Text.stripped]
  generalize field ms key = x at hcs
  cases x with
  | str s => rw [← Except.ok.inj hcs]
  | null | bool _ | int _ | float _ | arr _ | obj _ =>
      dsimp only [strippedText] at hcs
      split at hcs
      · cases hcs
      · obtain rfl := Except.ok.inj hcs
        rfl

/-! ### What is announced -/

/-- What a plan announces for a record. -/
def Disposition.deed : Disposition → Deed
  | .create => .created
  | .update => .updated
  | .skip | .conflict => .skipped

/-- The items that are written have the records `written`, and announce their deeds. -/
structure Announces (items : List PlanItem) (written : List Members) (deedOf : Members → Deed) :
    Prop where
  records : (items.filter (·.disposition.writes)).map (·.record) = written
  deeds : ∀ it ∈ items, it.disposition.writes → it.disposition.deed = deedOf it.record

namespace Announces

variable {items : List PlanItem} {it : PlanItem} {written : List Members} {deedOf : Members → Deed}

theorem nil : Announces [] [] deedOf := ⟨rfl, nofun⟩

theorem skip (h : Announces items written deedOf) (hit : it.disposition.writes = false) :
    Announces (it :: items) written deedOf where
  records := by
    rw [List.filter_cons_of_neg (by simp [hit])]
    exact h.records
  deeds := by
    intro it' hmem hwrites
    rcases List.mem_cons.mp hmem with rfl | hmem
    · rw [hit] at hwrites
      cases hwrites
    · exact h.deeds it' hmem hwrites

theorem write (h : Announces items written deedOf) (hit : it.disposition.writes)
    (hdeed : it.disposition.deed = deedOf it.record) :
    Announces (it :: items) (it.record :: written) deedOf where
  records := by
    rw [List.filter_cons_of_pos (by exact hit), List.map_cons, h.records]
  deeds := by
    intro it' hmem hwrites
    rcases List.mem_cons.mp hmem with rfl | hmem
    · exact hdeed
    · exact h.deeds it' hmem hwrites

end Announces

/-- **Applying items.**  It does what they announce when writing their records does. -/
theorem applyItems_iff {σ : Type} {write : σ → Members → Except ApplyError (σ × Deed)} {s t : σ}
    {items : List PlanItem} {written : List Members} {deedOf : Members → Deed}
    (h : Announces items written deedOf) :
    applyItems write s items = .ok (t, items.map (·.disposition.deed)) ↔
      Returns write s written deedOf t := by
  have hskip : ∀ it : PlanItem, it.disposition.writes = false → it.disposition.deed = .skipped := by
    intro it hit
    cases hd : it.disposition with
    | create | update => rw [hd] at hit; cases hit
    | skip | conflict => rfl
  calc applyItems write s items = .ok (t, items.map (·.disposition.deed))
      ↔ Returns (fun s it => if it.disposition.writes then write s it.record else .ok (s, .skipped))
          s items (·.disposition.deed) t := Iff.rfl
    _ ↔ Returns (fun s it => if it.disposition.writes then write s it.record else .ok (s, .skipped))
          s (items.filter (·.disposition.writes)) (·.disposition.deed) t :=
        Logged.returns_filter fun s it _ hit => by rw [if_neg (by simp [hit]), hskip it hit]
    _ ↔ Returns (fun s (it : PlanItem) => write s it.record)
          s (items.filter (·.disposition.writes)) (·.disposition.deed) t :=
        Logged.returns_congr fun s it hit => if_pos (List.mem_filter.mp hit).2
    _ ↔ Returns (fun s (it : PlanItem) => write s it.record)
          s (items.filter (·.disposition.writes)) (fun it => deedOf it.record) t :=
        Logged.returns_expected fun it hit =>
          h.deeds it (List.mem_filter.mp hit).1 (List.mem_filter.mp hit).2
    _ ↔ Returns write s written deedOf t := by rw [← h.records, Logged.returns_map]

/-! ### The planners -/

/-- What is announced for a named record. -/
def namedDeed (key : String) (existing : List String) (ms : Members) : Deed :=
  if strippedName key ms ∈ existing then .updated else .created

theorem planKeyed_announces {texts : NamedTexts} {existing seen : List String} {recs : List Json}
    {items : List PlanItem} (h : planKeyed texts existing seen recs = .ok items) :
    Announces items (firsts (strippedName texts.key) "" seen (objects recs))
      (namedDeed texts.key existing) := by
  induction recs generalizing seen items with
  | nil =>
      obtain rfl := Except.ok.inj h
      exact .nil
  | cons rec recs ih =>
      rw [planKeyed] at h
      obtain ⟨ms, hms, h⟩ := bind_eq_ok h
      obtain ⟨name, hname, h⟩ := bind_eq_ok h
      obtain rfl := recordName_eq hname
      rw [objects_cons hms, firsts]
      by_cases hblank : strippedName texts.key ms = ""
      · rw [if_pos hblank] at h
        obtain ⟨rest, hrest, h⟩ := bind_eq_ok h
        obtain rfl := Except.ok.inj h
        rw [if_pos (.inl hblank)]
        exact (ih hrest).skip rfl
      · rw [if_neg hblank] at h
        by_cases hseen : strippedName texts.key ms ∈ seen
        · rw [if_pos hseen] at h
          obtain ⟨rest, hrest, h⟩ := bind_eq_ok h
          obtain rfl := Except.ok.inj h
          rw [if_pos (.inr hseen)]
          exact (ih hrest).skip rfl
        · rw [if_neg hseen] at h
          obtain ⟨note, -, h⟩ := bind_eq_ok h
          obtain ⟨rest, hrest, h⟩ := bind_eq_ok h
          obtain rfl := Except.ok.inj h
          rw [if_neg (not_or.mpr ⟨hblank, hseen⟩)]
          by_cases hknown : strippedName texts.key ms ∈ existing
          · exact (ih hrest).write (by simp [namedItem, hknown, Disposition.writes])
              (by simp [namedItem, namedDeed, hknown, Disposition.deed])
          · exact (ih hrest).write (by simp [namedItem, hknown, Disposition.writes])
              (by simp [namedItem, namedDeed, hknown, Disposition.deed])

theorem planNamed_announces {existing : List String} {recs : List Json} {items : List PlanItem}
    (h : planNamed existing recs = .ok items) :
    Announces items (firsts (strippedName "name") "" [] (objects recs))
      (namedDeed "name" existing) := by
  have := planKeyed_announces h
  exact this

theorem planExternalSources_announces {existing : List String} {recs : List Json}
    {items : List PlanItem} (h : planExternalSources existing recs = .ok items) :
    Announces items (firsts (strippedName "display_name") "" [] (objects recs))
      (namedDeed "display_name" existing) := by
  have := planKeyed_announces h
  exact this

/-- A setting that is imported: it has a name, and is neither redacted nor of the network. -/
def importable (ms : Members) : Bool :=
  decide (strippedName "name" ms ≠ "" ∧ field ms "value" ≠ redactedSentinel ∧
    ¬"network.".toList <+: (strippedName "name" ms).toList)

theorem planRuntimeSettings_announces {existing : List String} {recs : List Json}
    {items : List PlanItem} (h : planRuntimeSettings existing recs = .ok items) :
    Announces items ((objects recs).filter importable) (namedDeed "name" existing) := by
  induction recs generalizing items with
  | nil =>
      obtain rfl := Except.ok.inj h
      exact .nil
  | cons rec recs ih =>
      rw [planRuntimeSettings] at h
      obtain ⟨ms, hms, h⟩ := bind_eq_ok h
      obtain ⟨name, hname, h⟩ := bind_eq_ok h
      obtain ⟨rest, hrest, h⟩ := bind_eq_ok h
      obtain rfl := Except.ok.inj h
      obtain rfl := recordName_eq hname
      rw [objects_cons hms]
      by_cases hblank : strippedName "name" ms = ""
      · rw [if_pos hblank, List.filter_cons_of_neg (by simp [importable, hblank])]
        exact ih hrest
      rw [if_neg hblank, settingItem]
      by_cases hvalue : field ms "value" = redactedSentinel
      · rw [if_pos hvalue, List.filter_cons_of_neg (by simp [importable, hvalue])]
        exact (ih hrest).skip rfl
      rw [if_neg hvalue]
      by_cases hnetwork : "network.".toList <+: (strippedName "name" ms).toList
      · rw [if_pos hnetwork,
          List.filter_cons_of_neg (by simp only [importable, hnetwork]; simp)]
        exact (ih hrest).skip rfl
      rw [if_neg hnetwork, List.filter_cons_of_pos
        (by rw [importable, decide_eq_true_eq]; exact ⟨hblank, hvalue, hnetwork⟩)]
      by_cases hknown : strippedName "name" ms ∈ existing
      · rw [if_pos hknown]
        exact (ih hrest).write rfl (if_pos hknown).symm
      · rw [if_neg hknown]
        exact (ih hrest).write rfl (if_neg hknown).symm

/-- A planner that makes one item of each record. -/
theorem mapM_announces {plan : Json → Except PyError PlanItem} {p : Members → Bool}
    {deedOf : Members → Deed} {recs : List Json} {items : List PlanItem}
    (hplan : ∀ rec it, plan rec = .ok it → asRecord rec = .ok it.record ∧
      it.disposition.writes = p it.record ∧
        (p it.record = true → it.disposition.deed = deedOf it.record))
    (h : recs.mapM plan = .ok items) : Announces items ((objects recs).filter p) deedOf := by
  induction recs generalizing items with
  | nil =>
      obtain rfl := Except.ok.inj h
      exact .nil
  | cons rec recs ih =>
      rw [List.mapM_cons] at h
      obtain ⟨it, hit, h⟩ := bind_eq_ok h
      obtain ⟨rest, hrest, h⟩ := bind_eq_ok h
      obtain rfl := Except.ok.inj h
      obtain ⟨hms, hwrites, hdeed⟩ := hplan rec it hit
      rw [objects_cons hms]
      cases hp : p it.record with
      | true =>
          rw [List.filter_cons_of_pos hp]
          exact (ih hrest).write (hwrites.trans hp) (hdeed hp)
      | false =>
          rw [List.filter_cons_of_neg (by simp [hp])]
          exact (ih hrest).skip (hwrites.trans hp)

/-- The hub has the membership of the group and the device of these names. -/
def HasMembership (hub : Hub) (gname mac : String) : Prop :=
  ∃ group ∈ groupByName hub.groups gname, ∃ device ∈ deviceByMac hub.devices mac,
    ⟨group.id, device.id⟩ ∈ hub.memberships

instance (hub : Hub) (gname mac : String) : Decidable (HasMembership hub gname mac) :=
  inferInstanceAs (Decidable (∃ group ∈ groupByName hub.groups gname,
    ∃ device ∈ deviceByMac hub.devices mac, ⟨group.id, device.id⟩ ∈ hub.memberships))

/-- A membership that is planned to be made. -/
def joinable (hub : Hub) (ms : Members) : Bool :=
  (deviceByMac hub.devices (strippedName "device_mac" ms)).isSome &&
    decide ¬HasMembership hub (strippedName "group_name" ms) (strippedName "device_mac" ms)

theorem planGroupMemberships_announces {hub : Hub} {recs : List Json} {items : List PlanItem}
    (h : planGroupMemberships hub.groups hub.devices hub.memberships recs = .ok items) :
    Announces items ((objects recs).filter (joinable hub)) fun _ => .created := by
  refine mapM_announces (fun rec it hit => ?_) h
  obtain ⟨ms, hms, hit⟩ := bind_eq_ok hit
  obtain ⟨gname, hgname, hit⟩ := bind_eq_ok hit
  obtain ⟨mac, hmac, hit⟩ := bind_eq_ok hit
  obtain rfl := Except.ok.inj hit
  obtain rfl := recordName_eq hgname
  obtain rfl := recordName_eq hmac
  rw [membershipItem]
  cases hdevice : deviceByMac hub.devices (strippedName "device_mac" ms) with
  | none => exact ⟨hms, by simp [joinable, hdevice, Disposition.writes], by simp [joinable, hdevice]⟩
  | some device =>
      have hhas : HasMembership hub (strippedName "group_name" ms) (strippedName "device_mac" ms) ↔
          (groupByName hub.groups (strippedName "group_name" ms)).any
            fun g => ⟨g.id, device.id⟩ ∈ hub.memberships := by
        simp [HasMembership, hdevice, Option.any_eq_true]
      dsimp only
      split
      · next hany =>
          have := hhas.mpr hany
          exact ⟨hms, by simp [joinable, this, Disposition.writes], by simp [joinable, this]⟩
      · next hany =>
          have := mt hhas.mp hany
          exact ⟨hms, by simp [joinable, hdevice, this, Disposition.writes], fun _ => rfl⟩

theorem deviceByMac_blank {devices : List Device} : deviceByMac devices "" = none := by
  rw [deviceByMac, List.find?_eq_none]
  intro d _ hmac
  obtain ⟨-, hne⟩ := Option.mem_filter_iff.mp (of_decide_eq_true hmac)
  exact absurd rfl (of_decide_eq_true hne)

/-- A configuration that is planned for a device. -/
def attachable (devices : List Device) (ms : Members) : Bool :=
  (deviceByMac devices (strippedName "mac_address" ms)).isSome

theorem planDeviceConfig_announces {devices : List Device} {recs : List Json}
    {items : List PlanItem} (h : planDeviceConfig devices recs = .ok items) :
    Announces items ((objects recs).filter (attachable devices)) fun _ => .updated := by
  refine mapM_announces (fun rec it hit => ?_) h
  obtain ⟨ms, hms, hit⟩ := bind_eq_ok hit
  obtain ⟨mac, hmac, hit⟩ := bind_eq_ok hit
  obtain rfl := Except.ok.inj hit
  obtain rfl := recordName_eq hmac
  rw [deviceItem]
  by_cases hblank : strippedName "mac_address" ms = ""
  · have : attachable devices ms = false := by
      rw [attachable, hblank, deviceByMac_blank]
      rfl
    rw [if_pos hblank]
    exact ⟨hms, this.symm, fun h => absurd (this.symm.trans h) (by decide)⟩
  · rw [if_neg hblank]
    cases hdevice : deviceByMac devices (strippedName "mac_address" ms) with
    | none =>
        exact ⟨hms, by simp [attachable, hdevice, Disposition.writes],
          by simp [attachable, hdevice]⟩
    | some device => exact ⟨hms, by simp [attachable, hdevice, Disposition.writes], fun _ => rfl⟩

/-! ### The plan -/

/-- The records of a section that are planned to be written; `records` are those of the file. -/
def writtenRecords (hub : Hub) (records : Section → List Members) : Section → List Members
  | .runtimeSettings => (records .runtimeSettings).filter importable
  | .groupMemberships => (records .groupMemberships).filter (joinable hub)
  | .externalSources => firsts (strippedName "display_name") "" [] (records .externalSources)
  | .deviceConfig => (records .deviceConfig).filter (attachable hub.devices)
  | s => firsts (strippedName "name") "" [] (records s)

/-- What is announced for a record that is written. -/
def announcedDeed (hub : Hub) : Section → Members → Deed
  | .runtimeSettings => namedDeed "name" (hub.settings.map (·.name))
  | .sites => namedDeed "name" (hub.sites.map (·.name))
  | .groups => namedDeed "name" (hub.groups.map (·.name))
  | .groupMemberships => fun _ => .created
  | .watchdogRules => namedDeed "name" (hub.rules.map (·.name))
  | .schedules => namedDeed "name" (hub.schedules.map (·.name))
  | .scenes => namedDeed "name" (hub.scenes.map (·.name))
  | .externalSources => namedDeed "display_name" (hub.sources.map (·.displayName))
  | .deviceConfig => fun _ => .updated

theorem planSection_announces {hub : Hub} {s : Section} {recs : List Json} {items : List PlanItem}
    {records : Section → List Members} (h : planSection hub s recs = .ok items)
    (hrecords : objects recs = records s) :
    Announces items (writtenRecords hub records s) (announcedDeed hub s) := by
  cases s with
  | runtimeSettings =>
      rw [writtenRecords, ← hrecords]
      exact planRuntimeSettings_announces h
  | groupMemberships =>
      rw [writtenRecords, ← hrecords]
      exact planGroupMemberships_announces h
  | deviceConfig =>
      rw [writtenRecords, ← hrecords]
      exact planDeviceConfig_announces h
  | externalSources =>
      rw [writtenRecords, ← hrecords]
      exact planExternalSources_announces h
  | sites | groups | watchdogRules | schedules | scenes =>
      rw [writtenRecords, ← hrecords]
      · exact planNamed_announces h
      all_goals exact nofun

/-- Texts are not dicts. -/
theorem objects_texts {α : Type} {f : α → String} {xs : List α} :
    objects (xs.map fun x => .str (f x)) = [] := by
  induction xs with
  | nil => rfl
  | cons x xs ih => exact ih

/-- The dicts that a section's loop runs through are its records. -/
theorem objects_sectionRecords {doc sections : Members} {s : Section} {recs : List Json}
    (hsections : field doc "sections" = .obj sections) (h : sectionRecords sections s = .ok recs) :
    objects recs = documentRecords doc s := by
  rw [documentRecords, hsections]
  dsimp only
  have hfield : field sections s.text = (sections.lookup s.text).getD .null := rfl
  rw [hfield]
  rw [sectionRecords] at h
  cases hlookup : sections.lookup s.text with
  | none =>
      rw [hlookup] at h
      obtain rfl := Except.ok.inj h
      rfl
  | some x =>
      rw [hlookup, Option.getD_some, Json.orNil] at h
      rw [Option.getD_some]
      split at h
      · cases x with
        | arr xs =>
            obtain rfl := Except.ok.inj h
            rfl
        | obj ms =>
            obtain rfl := Except.ok.inj h
            exact objects_texts
        | str t =>
            obtain rfl := Except.ok.inj h
            exact objects_texts
        | null | bool _ | int _ | float _ => cases h
      · next hfalse =>
          obtain rfl := Except.ok.inj h
          cases x with
          | arr xs =>
              cases xs with
              | nil => rfl
              | cons y ys => exact absurd rfl hfalse
          | obj _ | str _ | null | bool _ | int _ | float _ => rfl

theorem documentSections_eq {doc sections : Members} (h : documentSections doc = .ok sections) :
    field doc "sections" = .obj sections := by
  rw [documentSections] at h
  split at h
  · cases h
  · split at h
    · next hfield => rw [hfield, Except.ok.inj h]
    · cases h

theorem raised_eq_ok {α : Type} {x : Except PyError α} {a : α} (h : raised x = .ok a) : x = .ok a := by
  cases x with
  | ok b => rw [Except.ok.inj h]
  | error e => cases h

variable {decrypt : Members → Except BackupError Json} {hub : Hub} {raw : Json} {doc : Members}
  {plan : ImportPlan}

/-- The sections of a plan, in the order of the document. -/
theorem parseAndPlan_sections (h : parseAndPlan decrypt hub raw = .ok plan)
    (hdoc : openDocument decrypt raw = .ok doc) : plan.sections.map (·.part) = allSections ∧
      ∀ s, ∃ recs, objects recs = documentRecords doc s ∧
        planSection hub s recs = .ok (plan.items s) := by
  obtain ⟨doc', hdoc', h⟩ := bind_eq_ok h
  obtain rfl := Except.ok.inj (hdoc.symm.trans hdoc')
  obtain ⟨sections, hsections, h⟩ := bind_eq_ok h
  obtain ⟨plans, hplans, h⟩ := bind_eq_ok h
  obtain rfl := Except.ok.inj h
  have hpart : ∀ (s : Section) (sp : SectionPlan), (do
      return (⟨s, ← planSection hub s (← sectionRecords sections s)⟩ : SectionPlan)) =
        (.ok sp : Except PyError SectionPlan) →
      ∃ recs, sectionRecords sections s = .ok recs ∧ planSection hub s recs = .ok sp.items ∧
        sp.part = s := by
    intro s sp hsp
    obtain ⟨recs, hrecs, hsp⟩ := bind_eq_ok hsp
    obtain ⟨items, hitems, hsp⟩ := bind_eq_ok hsp
    obtain rfl := Except.ok.inj hsp
    exact ⟨recs, hrecs, hitems, rfl⟩
  refine ⟨map_mapM (fun s sp hsp => (hpart s sp hsp).choose_spec.2.2) (raised_eq_ok hplans),
    fun s => ?_⟩
  obtain ⟨sp, hfind, hsp⟩ := find?_of_mapM (fun s sp hsp => (hpart s sp hsp).choose_spec.2.2)
    (raised_eq_ok hplans) (show s ∈ allSections by cases s <;> decide)
  obtain ⟨recs, hrecs, hitems, -⟩ := hpart s sp hsp
  refine ⟨recs, objects_sectionRecords (documentSections_eq hsections) hrecs, ?_⟩
  rw [ImportPlan.items, hfind]
  exact hitems

/-- **What a plan announces.** -/
theorem parseAndPlan_announces (h : parseAndPlan decrypt hub raw = .ok plan)
    (hdoc : openDocument decrypt raw = .ok doc) (s : Section) :
    Announces (plan.items s) (writtenRecords hub (documentRecords doc) s) (announcedDeed hub s) := by
  obtain ⟨recs, hrecs, hitems⟩ := (parseAndPlan_sections h hdoc).2 s
  exact planSection_announces hitems hrecs

/-! ### The import -/

/-- The records, written into the tables of `hub`, are each done to what was announced, and leave
`hub'`. -/
structure Imports (env : Env) (hub : Hub) (written : Section → List Members) (hub' : Hub) :
    Prop where
  settings : Returns ((settingsTable env).write hub.settings) hub.settings
    (written .runtimeSettings) (announcedDeed hub .runtimeSettings) hub'.settings
  sites : Returns ((sitesTable env).write hub.sites) hub.sites
    (written .sites) (announcedDeed hub .sites) hub'.sites
  groups : Returns ((groupsTable env hub.sites).write hub.groups) hub.groups
    (written .groups) (announcedDeed hub .groups) hub'.groups
  memberships : Returns (writeMembership hub'.groups hub.devices) hub.memberships
    (written .groupMemberships) (announcedDeed hub .groupMemberships) hub'.memberships
  rules : Returns ((rulesTable env hub'.sites).write hub.rules) hub.rules
    (written .watchdogRules) (announcedDeed hub .watchdogRules) hub'.rules
  schedules : Returns ((schedulesTable env).write hub.schedules) hub.schedules
    (written .schedules) (announcedDeed hub .schedules) hub'.schedules
  scenes : Returns ((scenesTable env).write hub.scenes) hub.scenes
    (written .scenes) (announcedDeed hub .scenes) hub'.scenes
  sources : Returns ((sourcesTable env).write hub.sources) hub.sources
    (written .externalSources) (announcedDeed hub .externalSources) hub'.sources
  devices : Returns writeDevice hub.devices
    (written .deviceConfig) (announcedDeed hub .deviceConfig) hub'.devices
  fits : devicesFit env hub'.devices

/-- **What an import does.** -/
theorem applyPlan_iff {env : Env} {hub' : Hub} {written : Section → List Members}
    (hannounced : ∀ s, Announces (plan.items s) (written s) (announcedDeed hub s)) :
    (∃ r, applyPlan env hub plan = .ok (hub', r) ∧
        ∀ s, r.deeds s = (plan.items s).map (·.disposition.deed)) ↔
      Imports env hub written hub' := by
  constructor
  · rintro ⟨r, h, hdeeds⟩
    obtain ⟨⟨settings, settingDeeds⟩, hsettings, h⟩ := bind_eq_ok h
    obtain ⟨⟨sites, siteDeeds⟩, hsites, h⟩ := bind_eq_ok h
    obtain ⟨⟨groups, groupDeeds⟩, hgroups, h⟩ := bind_eq_ok h
    obtain ⟨⟨memberships, membershipDeeds⟩, hmemberships, h⟩ := bind_eq_ok h
    obtain ⟨⟨rules, ruleDeeds⟩, hrules, h⟩ := bind_eq_ok h
    obtain ⟨⟨schedules, scheduleDeeds⟩, hschedules, h⟩ := bind_eq_ok h
    obtain ⟨⟨scenes, sceneDeeds⟩, hscenes, h⟩ := bind_eq_ok h
    obtain ⟨⟨sources, sourceDeeds⟩, hsources, h⟩ := bind_eq_ok h
    obtain ⟨⟨devices, deviceDeeds⟩, hdevices, h⟩ := bind_eq_ok h
    dsimp only at h
    split at h
    · cases h
    next hfits =>
    obtain ⟨rfl, rfl⟩ := Prod.mk.inj (Except.ok.inj h)
    exact {
      settings := (applyItems_iff (hannounced _)).mp (hdeeds .runtimeSettings ▸ hsettings)
      sites := (applyItems_iff (hannounced _)).mp (hdeeds .sites ▸ hsites)
      groups := (applyItems_iff (hannounced _)).mp (hdeeds .groups ▸ hgroups)
      memberships := (applyItems_iff (hannounced _)).mp (hdeeds .groupMemberships ▸ hmemberships)
      rules := (applyItems_iff (hannounced _)).mp (hdeeds .watchdogRules ▸ hrules)
      schedules := (applyItems_iff (hannounced _)).mp (hdeeds .schedules ▸ hschedules)
      scenes := (applyItems_iff (hannounced _)).mp (hdeeds .scenes ▸ hscenes)
      sources := (applyItems_iff (hannounced _)).mp (hdeeds .externalSources ▸ hsources)
      devices := (applyItems_iff (hannounced _)).mp (hdeeds .deviceConfig ▸ hdevices)
      fits := by simpa using hfits }
  · intro h
    refine ⟨⟨fun s => (plan.items s).map (·.disposition.deed)⟩, ?_, fun s => rfl⟩
    simp only [applyPlan, (applyItems_iff (hannounced _)).mpr h.settings,
      (applyItems_iff (hannounced _)).mpr h.sites, (applyItems_iff (hannounced _)).mpr h.groups,
      (applyItems_iff (hannounced _)).mpr h.memberships,
      (applyItems_iff (hannounced _)).mpr h.rules, (applyItems_iff (hannounced _)).mpr h.schedules,
      (applyItems_iff (hannounced _)).mpr h.scenes, (applyItems_iff (hannounced _)).mpr h.sources,
      (applyItems_iff (hannounced _)).mpr h.devices, ok_bind, h.fits]
    refine congrArg (fun deeds => Except.ok (hub', (⟨deeds⟩ : ImportResult))) (funext fun s => ?_)
    cases s <;> rfl

end RebooterHub.Backup
