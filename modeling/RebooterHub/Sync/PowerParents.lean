import RebooterHub.Support.Pointers
import RebooterHub.Sync.Deletion
import RebooterHub.Sync.Services

/-!
# Sync — Power parents

The devices of a hub as a graph: each points at the device that powers it, and the graph is any at
all, with cycles and with pointers to devices that are gone.

`_validate_power_source_device_id` walks it from a proposed parent up.  `walk_ok_iff` says when the
walk ends well, and `power_parent_validated` when the parent is accepted.
-/

namespace RebooterHub.Sync
open RebooterHub.Pointers
open Relation (TransGen)

/-- The device a row's device is powered by. -/
def sourceOf (row : Row) : Option String :=
  match row .powerSourceDeviceId with
  | .text source => some source
  | _ => none

/-- The device that powers a device. -/
def Hub.powerSource (h : Hub) (id : String) : Option String := (h.row .device id).bind sourceOf

/-- The device that powers a device, where there is such a device. -/
def Hub.parentOf (h : Hub) (id : String) : Option String :=
  (h.powerSource id).filter fun source => (h.row .device source).isSome

variable {h : Hub} {id source deviceId : String} {row parent cur : Row} {scope : Scope} {hops : Nat}

theorem sourceOf_eq_some :
    sourceOf row = some source ↔ row .powerSourceDeviceId = .text source := by
  unfold sourceOf
  constructor
  · intro hs
    split at hs
    · case _ s hrow =>
      obtain rfl := Option.some.inj hs
      exact hrow
    · cases hs
  · intro hs
    rw [hs]

/-- Every session sees every device. -/
theorem get_device : h.get scope .device id = h.row .device id := by
  unfold Hub.get
  cases hrow : h.row .device id with
  | none => rfl
  | some row =>
      refine Option.filter_some_pos ?_
      cases scope with
      | system => rfl
      | org org => simp [Hub.visible, Model.tenantScoped]

theorem powerSource_of_row (hrow : h.row .device id = some row) :
    h.powerSource id = sourceOf row := by
  rw [Hub.powerSource, hrow, Option.bind_some]

theorem parentOf_eq_some :
    h.parentOf id = some source ↔
      h.powerSource id = some source ∧ (h.row .device source).isSome := by
  unfold Hub.parentOf
  rw [Option.filter_eq_some_iff]

/-- The way to a device that is there is over devices that are there. -/
theorem leads_parentOf_iff (hdevice : (h.row .device deviceId).isSome) :
    Leads h.parentOf id deviceId ↔ Leads h.powerSource id deviceId := by
  constructor
  · intro hleads
    exact Relation.ReflTransGen.mono (fun a b hpoints => (parentOf_eq_some.1 hpoints).1) _ _ hleads
  · intro hleads
    induction hleads using Relation.ReflTransGen.head_induction_on with
    | refl => exact .refl
    | @head a b hpoints hrest ih =>
        refine .head (parentOf_eq_some.2 ⟨hpoints, ?_⟩) ih
        rcases hrest.cases_head with rfl | ⟨c, hnext, -⟩
        · exact hdevice
        -- a device that points on has a row
        · cases hrow : h.row .device b with
          | some row => rfl
          | none =>
              rw [Points, Hub.powerSource, hrow] at hnext
              cases hnext

/-! ### The walk -/

/-- **The walk.**  It ends well just when the devices from here on do not come to the device, and
are no more than the hops that are left. -/
theorem walk_ok_iff (hcur : h.row .device id = some cur) :
    walkPowerSources h scope deviceId parent hops cur = .ok () ↔
      ¬ Leads h.parentOf id deviceId ∧ ∃ path, Path h.parentOf id path ∧ path.length < hops := by
  induction hops generalizing id cur with
  | zero =>
      unfold walkPowerSources
      constructor
      · intro hwalk
        cases hwalk
      · rintro ⟨-, path, -, hlength⟩
        exact absurd hlength (Nat.not_lt_zero _)
  | succ hops ih =>
      unfold walkPowerSources
      have hid : cur .id = .text id := (h.wellFormed _ _ _ hcur).row_id
      by_cases hself : id = deviceId
      -- the device is met
      · rw [if_pos (hself ▸ hid)]
        constructor
        · intro hwalk
          cases hwalk
        · rintro ⟨hleads, -⟩
          exact absurd (hself ▸ .refl) hleads
      rw [if_neg fun hmet => hself (Json.str.inj (Value.json.inj (hid.symm.trans hmet)))]
      have hend : h.parentOf id = none →
          (¬ Leads h.parentOf id deviceId ∧
            ∃ path, Path h.parentOf id path ∧ path.length < hops + 1) := by
        intro hnone
        rw [leads_of_none hnone]
        exact ⟨hself, [], .last hnone, Nat.succ_pos _⟩
      have hsource : h.powerSource id = sourceOf cur := powerSource_of_row hcur
      split
      · case _ source hsome =>
        rw [sourceOf_eq_some.2 hsome] at hsource
        rw [get_device]
        cases hrow : h.row .device source with
        | some row =>
            have hnext : h.parentOf id = some source := by
              refine parentOf_eq_some.2 ⟨hsource, ?_⟩
              rw [hrow]
              rfl
            rw [leads_of_some hnext hself, path_lt_of_some hnext]
            exact ih hrow
        -- the pointer dangles
        | none =>
            refine iff_of_true rfl (hend ?_)
            rw [Hub.parentOf, hsource, Option.filter_some_neg]
            rw [hrow]
            decide
      · case _ hother =>
        refine iff_of_true rfl (hend ?_)
        have hnone : sourceOf cur = none := by
          unfold sourceOf
          split
          · case _ source hsome => exact absurd hsome (hother source)
          · rfl
        rw [Hub.parentOf, hsource, hnone]
        rfl

/-! ### The validator -/

/-- `ancestor` is an ancestor of the device `id`. -/
def Hub.Ancestor (h : Hub) (id ancestor : String) : Prop := TransGen (Points h.parentOf) id ancestor

/-- The device `source` can come to power the device `deviceId`. -/
structure Hub.MayPower (h : Hub) (source deviceId : String) : Prop where
  found : (h.row .device source).isSome
  distinct : source ≠ deviceId
  notBelow : ¬ h.Ancestor source deviceId
  /-- From the device over its new parent to the last of the ancestors are at most 50 hops. -/
  bounded : ∃ ancestors, Path h.parentOf source ancestors ∧ (source :: ancestors).length ≤ 50

theorem Hub.MayPower.not_leads (hmay : h.MayPower source deviceId) :
    ¬ Leads h.parentOf source deviceId := by
  intro hleads
  rcases leads_iff_eq_or_transGen.1 hleads with heq | hancestor
  · exact hmay.distinct heq.symm
  · exact hmay.notBelow hancestor

/-- What is accepted of the ids. -/
theorem validate_str_ok_iff {v : Json} :
    validatePowerSourceDeviceId h scope deviceId (.str source) = .ok v ↔
      v = .str source ∧ h.MayPower source deviceId := by
  unfold validatePowerSourceDeviceId
  dsimp only
  split_ifs with hself
  · refine iff_of_false (by rintro ⟨⟩) ?_
    rintro ⟨-, hmay⟩
    exact hmay.distinct hself
  rw [get_device]
  cases hrow : h.row .device source with
  | none =>
      refine iff_of_false (by rintro ⟨⟩) ?_
      rintro ⟨-, hmay⟩
      have hfound := hmay.found
      rw [hrow] at hfound
      cases hfound
  | some parent =>
      have hwalk : walkPowerSources h scope deviceId parent 50 parent = .ok () ↔
          ¬ Leads h.parentOf source deviceId ∧
            ∃ path, Path h.parentOf source path ∧ path.length < 50 := walk_ok_iff hrow
      dsimp only
      constructor
      · intro hv
        cases hresult : walkPowerSources h scope deviceId parent 50 parent with
        | error x =>
            rw [hresult] at hv
            cases hv
        | ok u =>
            rw [hresult] at hv
            obtain ⟨hleads, path, hpath, hlength⟩ := hwalk.1 hresult
            refine ⟨(Except.ok.inj hv).symm, ?_, hself, ?_, path, hpath, hlength⟩
            · rw [hrow]
              rfl
            · exact fun hancestor => hleads hancestor.to_reflTransGen
      · rintro ⟨rfl, hmay⟩
        obtain ⟨path, hpath, hlength⟩ := hmay.bounded
        rw [hwalk.2 ⟨hmay.not_leads, path, hpath, hlength⟩]
        rfl

/-- **What can power a device.**  On every graph the validator ends; it gives back no parent and a
device that can come to power this one, and refuses everything else. -/
theorem power_parent_validated (hub : Hub) (scope : Scope) (deviceId : String) (value : Json) :
    (validatePowerSourceDeviceId hub scope deviceId value = .ok value ∧
      (value = .null ∨ ∃ source, value = .str source ∧ hub.MayPower source deviceId)) ∨
    ((∃ error, validatePowerSourceDeviceId hub scope deviceId value = .error error) ∧
      ¬ (value = .null ∨ ∃ source, value = .str source ∧ hub.MayPower source deviceId)) := by
  cases value with
  | null => exact .inl ⟨rfl, .inl rfl⟩
  | str source =>
      by_cases hmay : hub.MayPower source deviceId
      · exact .inl ⟨validate_str_ok_iff.2 ⟨rfl, hmay⟩, .inr ⟨source, rfl, hmay⟩⟩
      refine .inr ⟨?_, ?_⟩
      · cases hv : validatePowerSourceDeviceId hub scope deviceId (.str source) with
        | error error => exact ⟨error, rfl⟩
        | ok v => exact absurd (validate_str_ok_iff.1 hv).2 hmay
      · rintro (hnull | ⟨source', hsource, hmay'⟩)
        · cases hnull
        · obtain rfl := Json.str.inj hsource
          exact hmay hmay'
  | bool b => exact .inr ⟨⟨_, rfl⟩, by simp⟩
  | int n => exact .inr ⟨⟨_, rfl⟩, by simp⟩
  | float q => exact .inr ⟨⟨_, rfl⟩, by simp⟩
  | arr xs => exact .inr ⟨⟨_, rfl⟩, by simp⟩
  | obj fields => exact .inr ⟨⟨_, rfl⟩, by simp⟩

end RebooterHub.Sync
