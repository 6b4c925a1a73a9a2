import RebooterHub.Sync.PowerParents

/-!
# Sync — Power topology

The devices of a hub as a graph: each points at the device that powers it.

`update_device` walks the graph before it sets a power source; the applier sets what the event
says.  `SetsSource` says which device an event gives which power source, and
`power_topology_acyclic` is the result over runs.
-/

namespace RebooterHub.Sync
open RebooterHub.Pointers RebooterHub.Runs

variable {env : ApplyEnv} {h h' h₁ : Hub} {m : Model} {id source deviceId : String}
  {e : OutboxEvent}
  {row : Row} {scope : Scope} {incoming : Payload}

/-! ### Writes -/

theorem powerSource_put (w : WellFormed .device id row) :
    (h.put .device id row w).powerSource = Function.update h.powerSource id (sourceOf row) := by
  funext id'
  unfold Hub.powerSource
  by_cases hid : id' = id
  · rw [hid, Hub.row_put_self, Function.update_self, Option.bind_some]
  · rw [Hub.row_put_of_ne w (fun hself => hid hself.2), Function.update_of_ne hid]

theorem powerSource_put_of_ne (w : WellFormed m id row) (hm : m ≠ .device) :
    (h.put m id row w).powerSource = h.powerSource := by
  funext id'
  unfold Hub.powerSource
  rw [Hub.row_put_of_ne w fun hself => hm hself.1.symm]

/-- A deletion takes pointers away. -/
theorem powerSource_drop {gone : String} (hs : (h.drop m gone).powerSource id = some source) :
    h.powerSource id = some source := by
  unfold Hub.powerSource at hs ⊢
  by_cases hself : Model.device = m ∧ id = gone
  · obtain ⟨rfl, rfl⟩ := hself
    rw [Hub.row_drop_self] at hs
    cases hs
  · rw [Hub.row_drop_of_ne hself] at hs
    cases hrow : h.row .device id with
    | none =>
        rw [hrow] at hs
        cases hs
    | some row =>
        rw [hrow, Option.map_some, Option.bind_some, sourceOf, Model.clear] at hs
        rw [Option.bind_some, sourceOf]
        split_ifs at hs
        exact hs

theorem sourceOf_updatedRow {changes : Payload} {v : Value}
    (hc : changes .powerSourceDeviceId = some v) :
    updatedRow row changes .powerSourceDeviceId = v := by
  rw [updatedRow, if_neg (by decide), hc, Option.getD_some]

/-- The pointers after a device's row is written. -/
theorem acyclic_put (hacyclic : Acyclic h.powerSource) (w : WellFormed .device id row)
    (hsource : ∀ source ∈ sourceOf row, ¬ Leads h.powerSource source id) :
    Acyclic (h.put .device id row w).powerSource := by
  rw [powerSource_put]
  exact hacyclic.update hsource

/-! ### The walk of `update_device` -/

/-- A walk that ends has not met the device. -/
theorem not_leads_of_walk {parent cur : Row} {hops : Nat}
    (hdevice : (h.row .device deviceId).isSome) (hcur : h.row .device id = some cur)
    (hwalk : walkPowerSources h scope deviceId parent hops cur = .ok ()) :
    ¬ Leads h.powerSource id deviceId := by
  rw [← leads_parentOf_iff hdevice]
  exact ((walk_ok_iff hcur).1 hwalk).1

/-- An accepted power source does not lead to the device. -/
theorem validatePowerSourceDeviceId_ok {v v' : Json} (hdevice : (h.row .device deviceId).isSome)
    (hv : validatePowerSourceDeviceId h scope deviceId v = .ok v') :
    v' = .null ∨ ∃ source, v' = .str source ∧ ¬ Leads h.powerSource source deviceId := by
  cases v with
  | null => exact .inl (Except.ok.inj hv).symm
  | str source =>
      obtain ⟨rfl, hmay⟩ := validate_str_ok_iff.1 hv
      refine .inr ⟨source, rfl, ?_⟩
      rw [← leads_parentOf_iff hdevice]
      exact hmay.not_leads
  | bool _ | int _ | float _ | arr _ | obj _ => cases hv

theorem mem_normalize {patch normalized : List (Column × Json)} {p : Column × Json}
    (hn : normalize h scope deviceId patch = .ok normalized) (hp : p ∈ normalized) :
    ∃ v, validator h scope deviceId p.1 v = .ok p.2 := by
  induction patch generalizing normalized with
  | nil =>
      obtain rfl := Except.ok.inj hn
      cases hp
  | cons q patch ih =>
      unfold normalize at hn
      split at hn
      · cases hn
      case _ v hv =>
      cases hrest : normalize h scope deviceId patch with
      | error x =>
          rw [hrest] at hn
          cases hn
      | ok rest =>
          rw [hrest] at hn
          obtain rfl := Except.ok.inj hn
          rcases List.mem_cons.1 hp with rfl | hp
          · exact ⟨_, hv⟩
          · exact ih hrest hp

/-- What `update_device` sets as the power source. -/
theorem updateDevice_source {now : Time} {patch : List (String × Json)} {op : LocalOp}
    (hu : updateDevice now h scope deviceId patch = .ok (some op)) :
    ∃ changes, op = .update .device deviceId changes ∧
      ∀ v, changes .powerSourceDeviceId = some v →
        v = .null ∨ ∃ source, v = .text source ∧ ¬ Leads h.powerSource source deviceId := by
  unfold updateDevice at hu
  dsimp only at hu
  split at hu
  · cases hu
  split at hu
  · cases hu
  case _ device hget =>
  have hdevice : (h.row .device deviceId).isSome := by
    have hget' := get_device.symm.trans hget
    rw [hget']
    rfl
  unfold applyPatch at hu
  cases hnormalized : normalize h scope deviceId
      (patch.filterMap fun p => (patchable.lookup p.1).map fun c => (c, p.2)) with
  | error x =>
      rw [hnormalized] at hu
      cases hu
  | ok normalized =>
      rw [hnormalized] at hu
      obtain rfl := Option.some.inj (Except.ok.inj hu)
      refine ⟨_, rfl, fun v hv => ?_⟩
      dsimp only at hv
      split at hv
      · rw [touch, Function.update_of_ne (by decide)] at hv
        obtain ⟨j, hj, rfl⟩ := Option.map_eq_some_iff.1 hv
        obtain ⟨before, after, rfl, -⟩ := List.lookup_eq_some_iff.1 hj
        obtain ⟨w, hw⟩ :=
          mem_normalize hnormalized (List.mem_append_right before List.mem_cons_self)
        have hw : validatePowerSourceDeviceId h scope deviceId w = .ok j := hw
        rcases validatePowerSourceDeviceId_ok hdevice hw with rfl | ⟨source, rfl, hleads⟩
        · exact .inl rfl
        · exact .inr ⟨source, rfl, hleads⟩
      · cases hv

/-! ### Events -/

/-- The event sets the power source of the device `id`: of the one it names, if it is newer, or else
of a new one. -/
structure SetsSource (env : ApplyEnv) (h : Hub) (e : OutboxEvent) (id source : String) : Prop where
  tombstoned : h.isTombstoned e.entityId = false
  entityType : Model.ofText e.entityType = some .device
  deletes : deletes e = none
  source : e.payload .powerSourceDeviceId = some (.text source)
  device : match h.row .device e.entityId with
    | some row => id = e.entityId ∧
        ∃ time, incomingUpdated e = .ok time ∧ isStale time (some row.stamp) = false
    | none => insertKey env .device e = some id

/-- The row that is found for a device's event. -/
theorem findExisting_device :
    findExisting h scope .device e.entityId incoming =
      (h.row .device e.entityId).map fun row => (e.entityId, row) := by
  unfold findExisting
  rw [get_device]
  cases h.row .device e.entityId with
  | some row => rfl
  | none => rfl

/-- The site that a reference makes is no device. -/
theorem powerSource_remapped {incoming' : Payload}
    (hr : remapSite env h scope m incoming = .ok (h₁, incoming')) :
    h₁.powerSource = h.powerSource := by
  rcases (remapSite_ok hr).1 with rfl | ⟨-, row, w, -, rfl⟩
  · rfl
  · exact powerSource_put_of_ne w (by decide)

/-- The power source of the payload reaches the applier as it is. -/
theorem source_remapped
    (hr : remapSite env h scope .device
      (pinOrganization scope .device (columnsOf .device e.payload)) = .ok (h₁, incoming)) :
    incoming .powerSourceDeviceId = e.payload .powerSourceDeviceId := by
  rw [(remapSite_ok hr).2 _ (by decide)]
  have hpin : pinOrganization scope .device (columnsOf .device e.payload) =
      columnsOf .device e.payload := by
    cases scope <;> rfl
  rw [hpin, columnsOf, if_neg (by decide)]
  exact Option.map_id'

/-- A power source of an inserted row is the payload's. -/
theorem source_of_inserted {now : Time} {newId entityId : String}
    (hs : insertedRow .device now newId (withId entityId incoming) .powerSourceDeviceId =
      .text source) :
    incoming .powerSourceDeviceId = some (.text source) := by
  have hid : withId entityId incoming .powerSourceDeviceId = incoming .powerSourceDeviceId := by
    unfold withId
    split
    · rfl
    · exact Function.update_of_ne (by decide) ..
  unfold insertedRow at hs
  rw [if_neg (by decide), hid] at hs
  cases hi : incoming .powerSourceDeviceId with
  | none =>
      rw [hi] at hs
      cases hs
  | some v =>
      rw [hi] at hs
      dsimp only at hs
      split at hs
      · cases hs
      · rw [hs]

/-- An upsert whose power sources do not lead to their devices. -/
theorem acyclic_upsert (hacyclic : Acyclic h.powerSource)
    (ht : h.isTombstoned e.entityId = false) (htype : Model.ofText e.entityType = some m)
    (hdeletes : deletes e = none)
    (hset : ∀ id source, SetsSource env h e id source → ¬ Leads h.powerSource source id)
    (heffect : UpsertEffect env h scope m e h') : Acyclic h'.powerSource := by
  cases heffect with
  | nothing => exact hacyclic
  | stale hr =>
      rw [powerSource_remapped hr]
      exact hacyclic
  | @created h₁ incoming id row hr hfind hid hguard _ haccepts =>
      have hsame := powerSource_remapped hr
      by_cases hm : m = .device
      · obtain rfl := hm
        refine acyclic_put (hsame ▸ hacyclic) _ fun source hsource => hsame ▸ hset id source ?_
        rw [Option.mem_def, sourceOf_eq_some, guardWrite_apply hguard (by decide)] at hsource
        refine ⟨ht, htype, hdeletes, ?_, ?_⟩
        · rw [← source_remapped hr]
          exact source_of_inserted hsource
        · rw [findExisting_device, Option.map_eq_none_iff] at hfind
          rw [hfind]
          exact insertKey_of_inserted hr hid
      · rw [powerSource_put_of_ne _ hm, hsame]
        exact hacyclic
  | @updated h₁ incoming time id row row' _ hr htime hfind hstale hguard haccepts =>
      have hsame := powerSource_remapped hr
      by_cases hm : m = .device
      · obtain rfl := hm
        rw [findExisting_device, Option.map_eq_some_iff] at hfind
        obtain ⟨stored, hrow, hpair⟩ := hfind
        obtain ⟨rfl, rfl⟩ := Prod.mk.inj hpair
        refine acyclic_put (hsame ▸ hacyclic) _ fun source hsource => ?_
        rw [Option.mem_def, sourceOf_eq_some, guardWrite_apply hguard (by decide)] at hsource
        rw [hsame]
        cases hpayload : incoming .powerSourceDeviceId with
        -- the event leaves the power source as it is
        | none =>
            refine hacyclic.not_leads ?_
            rw [Hub.powerSource, hrow, Option.bind_some, sourceOf_eq_some, ← hsource, updatedRow,
              if_neg (by decide), hpayload, Option.getD_none]
        | some v =>
            rw [sourceOf_updatedRow hpayload] at hsource
            refine hset _ source ⟨ht, htype, hdeletes, ?_, ?_⟩
            · rw [← source_remapped hr, hpayload, hsource]
            · rw [hrow]
              exact ⟨rfl, time, htime, hstale⟩
      · rw [powerSource_put_of_ne _ hm, hsame]
        exact hacyclic

/-- What an event does to the topology. -/
theorem acyclic_applied (hacyclic : Acyclic h.powerSource)
    (hset : ∀ id source, SetsSource env h e id source → ¬ Leads h.powerSource source id) :
    Acyclic (applied env h e).powerSource := by
  unfold applied
  split
  · case _ h' b ha =>
    unfold applyOutboxEvent at ha
    split at ha
    · cases ha
    case _ scope _ =>
    unfold applyScoped at ha
    split at ha
    · cases ha
      exact hacyclic
    case _ ht =>
    split at ha
    · cases ha
      exact hacyclic
    case _ m htype =>
    split at ha
    · case _ target _ =>
      have hrow := applyDelete_row env h scope m e target
      split at hrow
      · obtain ⟨h₂, heq, hrow⟩ := hrow
        obtain ⟨rfl, -⟩ := Prod.mk.inj (Except.ok.inj (heq.symm.trans ha))
        refine hacyclic.mono fun id source hs => ?_
        unfold Hub.powerSource at hs
        rw [hrow] at hs
        exact powerSource_drop hs
      · have hsame : h'.powerSource = h.powerSource := by
          unfold Hub.powerSource
          rw [hrow h' b ha]
        rwa [hsame]
    · case _ hdeletes =>
      exact acyclic_upsert hacyclic (by simpa using ht) htype hdeletes hset (applyUpsert_effect ha)
  · exact hacyclic

/-! ### Runs -/

/-- The hub after an operation of its own: an error rolls the transaction back. -/
def LocalOp.performed (env : LocalEnv) (scope : Scope) (h : Hub) (op : LocalOp) : Hub :=
  match op.perform env scope h with
  | .ok (h', _) => h'
  | .error _ => h

/-- What changes a device. -/
inductive TopologyStep where
  /-- A registration; none sets a power source. -/
  | create (env : LocalEnv) (scope : Scope) (values : Payload)
  /-- `update_device`. -/
  | update (env : LocalEnv) (scope : Scope) (deviceId : String) (patch : List (String × Json))
  /-- A change that is not `update_device`'s; none sets a power source. -/
  | change (env : LocalEnv) (scope : Scope) (deviceId : String) (changes : Payload)
  | delete (env : LocalEnv) (scope : Scope) (deviceId : String)
  | peer (env : ApplyEnv) (e : OutboxEvent)

/-- What a step does. -/
def topologyStep (h : Hub) : TopologyStep → Hub
  | .create env scope values =>
    LocalOp.performed env scope h
      (.create .device (Function.update values .powerSourceDeviceId none))
  | .update env scope deviceId patch =>
    match updateDevice env.now h scope deviceId patch with
    | .ok (some op) => op.performed env scope h
    | _ => h
  | .change env scope deviceId changes =>
    LocalOp.performed env scope h
      (.update .device deviceId (Function.update changes .powerSourceDeviceId none))
  | .delete env scope deviceId => LocalOp.performed env scope h (.delete .device deviceId)
  | .peer env e => applied env h e

/-- No event sets a power source that leads to the device. -/
def TopologyGuarded (h : Hub) : TopologyStep → Prop
  | .peer env e => ∀ id source, SetsSource env h e id source → ¬ Leads h.powerSource source id
  | .create .. | .update .. | .change .. | .delete .. => True

/-- An update that sets no power source leading to the device. -/
theorem acyclic_performed_update {env : LocalEnv} {changes : Payload}
    (hacyclic : Acyclic h.powerSource)
    (hchanges : ∀ v, changes .powerSourceDeviceId = some v →
      v = .null ∨ ∃ source, v = .text source ∧ ¬ Leads h.powerSource source id) :
    Acyclic (LocalOp.performed env scope h (.update .device id changes)).powerSource := by
  unfold LocalOp.performed
  split
  · case _ h' es hp =>
    rcases perform_update_ok hp with ⟨rfl, -⟩ | ⟨row, row', w, hget, hguard, rfl, -⟩
    · exact hacyclic
    refine acyclic_put hacyclic w fun source hsource => ?_
    rw [Option.mem_def, sourceOf_eq_some, guardWrite_apply hguard (by decide)] at hsource
    cases hc : changes .powerSourceDeviceId with
    | none =>
        refine hacyclic.not_leads ?_
        rw [Hub.powerSource, (Hub.get_eq_some.1 hget).1, Option.bind_some, sourceOf_eq_some,
          ← hsource, updatedRow, if_neg (by decide), hc, Option.getD_none]
    | some v =>
        rw [sourceOf_updatedRow hc] at hsource
        rcases hchanges v hc with rfl | ⟨source', rfl, hleads⟩
        · cases hsource
        · obtain rfl : source' = source := Json.str.inj (Value.json.inj hsource)
          exact hleads
  · exact hacyclic

/-- A guarded step makes no cycle. -/
theorem acyclic_step {l : TopologyStep} (hacyclic : Acyclic h.powerSource)
    (hg : TopologyGuarded h l) : Acyclic (topologyStep h l).powerSource := by
  cases l with
  | create env scope values =>
      unfold topologyStep LocalOp.performed
      dsimp only
      split
      · case _ h' es hp =>
        obtain ⟨row, w, -, hguard, rfl, -⟩ := perform_create_ok hp
        refine acyclic_put hacyclic w fun source hsource => ?_
        rw [Option.mem_def, sourceOf_eq_some, guardWrite_apply hguard (by decide), insertedRow,
          if_neg (by decide), Function.update_of_ne (by decide), Function.update_self] at hsource
        cases hsource
      · exact hacyclic
  | update env scope deviceId patch =>
      unfold topologyStep
      dsimp only
      split
      · case _ op hu =>
        obtain ⟨changes, rfl, hchanges⟩ := updateDevice_source hu
        exact acyclic_performed_update hacyclic hchanges
      · exact hacyclic
  | change env scope deviceId changes =>
      refine acyclic_performed_update hacyclic fun v hv => ?_
      rw [Function.update_self] at hv
      cases hv
  | delete env scope deviceId =>
      unfold topologyStep LocalOp.performed
      dsimp only
      split
      · case _ h' es hp =>
        rcases perform_delete_ok hp with ⟨-, rfl, -⟩ | ⟨-, rfl, -⟩
        · exact hacyclic
        · exact hacyclic.mono fun id source => powerSource_drop
      · exact hacyclic
  | peer env e => exact acyclic_applied hacyclic hg

/-- **The power topology has no cycle.**  In a run in which no event sets a power source that leads
to the device, following the power sources from a device never comes back to it. -/
theorem power_topology_acyclic (hub : Hub) (steps : List TopologyStep)
    (hstart : Acyclic hub.powerSource) (hg : Admits topologyStep TopologyGuarded hub steps) :
    Acyclic (run topologyStep hub steps).powerSource :=
  run_invariant (I := fun h => Acyclic h.powerSource)
    (fun _ _ hacyclic hg => acyclic_step hacyclic hg) hstart hg

theorem wellFormed_attic : WellFormed .site "site-a" (siteRow "site-a" "org-a" "Attic" 10) := by
  decide

/-- Two devices, a lamp and a strip. -/
def twoDevices : Hub :=
  (((Hub.empty [⟨"org-a", "default"⟩] false).put .site "site-a"
    (siteRow "site-a" "org-a" "Attic" 10) wellFormed_attic).put .device "lamp"
      (deviceRow "lamp" "site-a" "Lamp" false 10) (by decide)).put .device "strip"
        (deviceRow "strip" "site-a" "Strip" false 10) (by decide)

/-- The lamp is powered by the strip. -/
def lampOnStrip : TopologyStep :=
  .update ⟨20, ""⟩ .system "lamp" [("power_source_device_id", .str "strip")]

/-- A peer's update of the strip, which it has powered by `source`. -/
def stripPoweredBy (source : Value) : OutboxEvent :=
  updatedEvent .device "strip"
    (Function.update (deviceRow "strip" "site-a" "Strip" false 30) .powerSourceDeviceId source) none

theorem twoDevices_acyclic : Acyclic twoDevices.powerSource := by
  have hnone : twoDevices.powerSource = fun _ => none := by
    unfold twoDevices
    rw [powerSource_put, powerSource_put, powerSource_put_of_ne _ (by decide)]
    funext id
    simp only [Function.update_apply]
    split_ifs <;> rfl
  rw [hnone]
  intro a hcycle
  cases hcycle with
  | single h => cases h
  | tail _ h => cases h

/-- The strip's update comes with no power source. -/
theorem power_topology_acyclic_strip_update :
    Acyclic (run topologyStep twoDevices
      [lampOnStrip, .peer ⟨30, "", ""⟩ (stripPoweredBy .null)]).powerSource := by
  refine power_topology_acyclic _ _ twoDevices_acyclic ⟨trivial, fun id source hset => ?_, trivial⟩
  have hsource : some Value.null = some (.text source) := hset.source
  cases hsource

/-- One hub has the lamp powered by the strip, another the strip by the lamp; each is legal where it
is made. -/
theorem crossing_power_sources :
    (topologyStep twoDevices
        (.update ⟨30, ""⟩ .system "strip" [("power_source_device_id", .str "lamp")])).powerSource
          "strip" = some "lamp" ∧
    ¬ Acyclic (run topologyStep twoDevices
      [lampOnStrip, .peer ⟨30, "", ""⟩ (stripPoweredBy (.text "lamp"))]).powerSource := by
  refine ⟨by decide, fun hacyclic => ?_⟩
  exact hacyclic "lamp" (.head (b := "strip") (by decide) (.single (by decide)))

end RebooterHub.Sync
