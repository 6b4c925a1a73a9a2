import RebooterHub.Enrollment.Keys
import RebooterHub.Support.Runs

/-!
# Enrollment — Duplicates

One live device for each physical MAC.

* `UniqueMacs` is the property.  Only a registration can break it: every other operation leaves
  each device its MAC, and makes no dead device live (`Shrinks`).
* `Recognized` is what a registration is asked for: a fresh one that would make a second row is
  recognized by the duplicate check, which compares texts and looks at active devices only, and a
  restore does not give its target a MAC another device has.
* `unique_macs_run`: runs of such operations keep the property.
-/

namespace RebooterHub.Enrollment
open RebooterHub.Transaction RebooterHub.Runs

/-- No two live devices have the same canonical MAC. -/
def UniqueMacs (h : Hub) : Prop :=
  ∀ d ∈ h.devices, ∀ d' ∈ h.devices, d.isLive → d'.isLive → (canonicalMac d.macAddress).isSome →
    canonicalMac d.macAddress = canonicalMac d'.macAddress → d = d'

instance (h : Hub) : Decidable (UniqueMacs h) := by
  unfold UniqueMacs
  infer_instance

/-- A live device has the canonical MAC of this text. -/
def macTaken (h : Hub) (mac : Option String) : Prop :=
  (canonicalMac mac).isSome ∧
    ∃ d ∈ h.devices, d.isLive ∧ canonicalMac d.macAddress = canonicalMac mac

instance (h : Hub) (mac : Option String) : Decidable (macTaken h mac) := by
  unfold macTaken
  infer_instance

/-- The registration with `p` of a token sees the device that has its MAC. -/
def recognizes (h : Hub) (p : Registration) (et : EnrollmentToken) : Prop :=
  match nonEmpty et.targetDeviceId with
  | none => macTaken h p.macAddress → isRegistered h p.macAddress
  | some target => ∀ d ∈ h.device target, d.isLive → comparedMac d.macAddress = "" →
      ¬macTaken h p.macAddress

instance (h : Hub) (p : Registration) (et : EnrollmentToken) : Decidable (recognizes h p et) := by
  unfold recognizes
  exact match nonEmpty et.targetDeviceId with
    | none => inferInstance
    | some _ => inferInstance

/-- A step whose registration, if its token can be redeemed, sees the device that has its MAC. -/
def Recognized (hash : String → String) (h : Hub) : Operation → Prop
  | .register ctx token body => ∀ p ∈ (checkRegistration body).toOption,
      ∀ et ∈ h.tokenWithHash (hash token), et.consumedAt = none → ctx.now < et.expiresAt →
        recognizes h p et
  | _ => True

instance (hash : String → String) (h : Hub) : (op : Operation) → Decidable (Recognized hash h op)
  | .register .. => by
    unfold Recognized
    infer_instance
  | .mint .. | .revoke .. | .announce .. | .adopt .. | .reject .. | .forceAdopt .. | .merge .. =>
    .isTrue trivial

/-! ### Operations that leave the MACs alone -/

/-- Each device was there before, with its MAC, and was live if it is. -/
def Shrinks (h h' : Hub) : Prop :=
  ∀ d' ∈ h'.devices, ∃ d ∈ h.devices, d.id = d'.id ∧ d.macAddress = d'.macAddress ∧
    (d'.isLive → d.isLive)

namespace Shrinks

variable {hash : String → String} {ctx : Context} {h h' h'' : Hub}

theorem of_devices (hd : h'.devices = h.devices) : Shrinks h h' :=
  fun d hmem => ⟨d, hd ▸ hmem, rfl, rfl, fun hlive => hlive⟩

theorem trans (h₁ : Shrinks h h') (h₂ : Shrinks h' h'') : Shrinks h h'' := by
  intro d'' hd''
  obtain ⟨d', hd', hid', hmac', hlive'⟩ := h₂ d'' hd''
  obtain ⟨d, hd, hid, hmac, hlive⟩ := h₁ d' hd'
  exact ⟨d, hd, hid.trans hid', hmac.trans hmac', fun hl => hlive (hlive' hl)⟩

theorem updateDevice {id : String} {g : Device → Device} (hid : ∀ d, (g d).id = d.id)
    (hmac : ∀ d, (g d).macAddress = d.macAddress) (hlive : ∀ d, (g d).isLive → d.isLive) :
    Shrinks h (h.updateDevice id g) := by
  intro d' hd'
  rcases Rows.mem_amend hd' with ⟨hmem, -⟩ | ⟨d, hd, -, rfl⟩
  · exact ⟨d', hmem, rfl, rfl, fun hl => hl⟩
  · exact ⟨d, hd, (hid d).symm, (hmac d).symm, hlive d⟩

theorem stampLastSeen (now : Time) (mac : String) (h : Hub) :
    Shrinks h (stampLastSeen now mac h) := by
  rcases stampLastSeen_cases now mac h with heq | ⟨id, heq⟩
  · rw [heq]
    exact of_devices rfl
  · rw [heq]
    exact updateDevice (fun _ => rfl) (fun _ => rfl) fun _ hl => hl

theorem polls {a : AnnounceArgs} {row : Announcement} (hpoll : Polls hash ctx a h row h') :
    Shrinks h h' := by
  cases hpoll with
  | @poll raw c row row₁ row₂ g g₁ g₂ hraw hc hrow hre hrec =>
      have hup : g.devices = h.devices := by cases hrow <;> rfl
      have hre : g₁.devices = (Enrollment.stampLastSeen ctx.now (normalizeMac raw) g).devices := by
        cases hre <;> rfl
      have hrec : g₂.devices = g₁.devices := by
        cases hrec with
        | kept | reconciled => rfl
        | rearmed =>
            cases heldToken g₁ row₁ <;> rfl
      exact (of_devices hup).trans ((stampLastSeen _ _ _).trans (of_devices (hrec.trans hre)))

/-- The property is kept when nothing but this happens to the devices. -/
theorem uniqueMacs (hs : Shrinks h h') (hh : Keyed h') (hu : UniqueMacs h) : UniqueMacs h' := by
  intro d₁ hd₁ d₂ hd₂ hlive₁ hlive₂ hsome hmac
  obtain ⟨e₁, he₁, hid₁, hmac₁, hl₁⟩ := hs d₁ hd₁
  obtain ⟨e₂, he₂, hid₂, hmac₂, hl₂⟩ := hs d₂ hd₂
  have heq : e₁ = e₂ := by
    refine hu e₁ he₁ e₂ he₂ (hl₁ hlive₁) (hl₂ hlive₂) ?_ ?_
    · rw [hmac₁]
      exact hsome
    · rw [hmac₁, hmac₂]
      exact hmac
  refine hh.devices.eq hd₁ hd₂ ?_
  rw [← hid₁, ← hid₂, heq]

end Shrinks

/-! ### Registrations -/

section
variable {hash : String → String} {ctx : Context} {h h' : Hub} {p : Registration}
  {et : EnrollmentToken} {d : Device}

/-- A device whose MAC no other live device has may be added. -/
theorem uniqueMacs_append (hu : UniqueMacs h) (hfree : ¬macTaken h d.macAddress)
    (hd : h'.devices = h.devices ++ [d]) : UniqueMacs h' := by
  have hother : ∀ e ∈ h.devices, e.isLive → (canonicalMac d.macAddress).isSome →
      canonicalMac e.macAddress ≠ canonicalMac d.macAddress :=
    fun e he hlive hsome hmac => hfree ⟨hsome, e, he, hlive, hmac⟩
  intro d₁ hd₁ d₂ hd₂ hlive₁ hlive₂ hsome hmac
  rw [hd, List.mem_append, List.mem_singleton] at hd₁ hd₂
  rcases hd₁ with hd₁ | rfl
  · rcases hd₂ with hd₂ | rfl
    · exact hu d₁ hd₁ d₂ hd₂ hlive₁ hlive₂ hsome hmac
    · rw [hmac] at hsome
      exact absurd hmac (hother d₁ hd₁ hlive₁ hsome)
  · rcases hd₂ with hd₂ | rfl
    · exact absurd hmac.symm (hother d₂ hd₂ hlive₂ hsome)
    · rfl

/-- A live device may be given a MAC that no live device has. -/
theorem uniqueMacs_amend (hh : Keyed h) (hu : UniqueMacs h) {g : Device → Device}
    (hmem : d ∈ h.devices) (hlive : d.isLive)
    (hmac : (g d).macAddress = d.macAddress ∨ ¬macTaken h (g d).macAddress)
    (hd : h'.devices = Rows.amend (·.id) d.id g h.devices) : UniqueMacs h' := by
  -- an untouched live device has no MAC in common with the amended one
  have hother : ∀ e ∈ h.devices, e.id ≠ d.id → e.isLive →
      (canonicalMac (g d).macAddress).isSome →
      canonicalMac e.macAddress ≠ canonicalMac (g d).macAddress := by
    intro e he hne hlive' hsome heq
    rcases hmac with hsame | hfree
    · rw [hsame] at heq hsome
      rw [← heq] at hsome
      exact hne (congrArg Device.id (hu e he d hmem hlive' hlive hsome heq))
    · exact hfree ⟨hsome, e, he, hlive', heq⟩
  intro d₁ hd₁ d₂ hd₂ hlive₁ hlive₂ hsome heq
  rw [hd] at hd₁ hd₂
  rcases hh.devices.mem_amend hmem hd₁ with ⟨hd₁, hne₁⟩ | rfl
  · rcases hh.devices.mem_amend hmem hd₂ with ⟨hd₂, hne₂⟩ | rfl
    · exact hu d₁ hd₁ d₂ hd₂ hlive₁ hlive₂ hsome heq
    · rw [heq] at hsome
      exact absurd heq (hother d₁ hd₁ hne₁ hlive₁ hsome)
  · rcases hh.devices.mem_amend hmem hd₂ with ⟨hd₂, hne₂⟩ | rfl
    · exact absurd heq.symm (hother d₂ hd₂ hne₂ hlive₂ hsome)
    · rfl

theorem Redeems.uniqueMacs (hh : Keyed h) (hu : UniqueMacs h) (hrec : recognizes h p et)
    (hd : Redeems hash ctx p et h d h') : UniqueMacs h' := by
  rw [recognizes] at hrec
  cases hd with
  | @restore target d ht hd hlive hmac hcred =>
      simp only [ht] at hrec
      obtain ⟨hmem, rfl⟩ := Rows.find?_key hd
      refine uniqueMacs_amend hh hu hmem hlive (g := restoredDevice ctx.now p) ?_ rfl
      -- a restore writes the MAC of a target that has none
      by_cases hset : comparedMac p.macAddress ≠ "" ∧ comparedMac d.macAddress = ""
      · simp only [restoredDevice, if_pos hset]
        exact .inr (hrec d hd hlive hset.2)
      · simp only [restoredDevice, if_neg hset]
        exact .inl trivial
  | @fresh siteId sites ht hmac hsite hthere hnew hcred =>
      simp only [ht] at hrec
      have hfree : ¬macTaken h (freshDevice ctx et p siteId).macAddress :=
        fun htaken => hmac (hrec htaken)
      exact uniqueMacs_append hu hfree rfl

end

/-! ### Runs -/

theorem uniqueMacs_step (hash : String → String) {h : Hub} (hh : Keyed h) (hu : UniqueMacs h)
    {op : Operation} (hop : Recognized hash h op) : UniqueMacs (step hash h op) := by
  have hh' := hh.step hash op
  rcases step_cases hash h op with heq | hdoes
  · rwa [heq]
  · generalize step hash h op = h' at hdoes hh'
    cases hdoes with
    | mint | revoke | reject | forceAdopt => exact (Shrinks.of_devices rfl).uniqueMacs hh' hu
    | announce hpoll => exact (Shrinks.polls hpoll).uniqueMacs hh' hu
    | adopt ht hadopt =>
        cases hadopt with
        | already => exact hu
        | adopted => exact (Shrinks.of_devices rfl).uniqueMacs hh' hu
    | @register ctx token body p et d g hp het hunused hvalid hd =>
        have hg : UniqueMacs g :=
          hd.uniqueMacs hh hu (hop p (by rw [hp]; rfl) et het hunused hvalid)
        obtain ⟨rows, heq⟩ := markConsumed_tables ctx.now (d.macAddress.getD "") g
        rwa [heq]
    | @merge now keepId retireId =>
        -- the retired device is decommissioned
        have hdead (d : Device) : (retired now d).isLive → d.isLive :=
          fun hl => absurd (of_decide_eq_true hl) (not_not_intro rfl)
        have hs : Shrinks h (h.updateDevice retireId (retired now)) :=
          Shrinks.updateDevice (fun _ => rfl) (fun _ => rfl) hdead
        exact hs.uniqueMacs hh' hu

/-- **One device for each MAC.**  A run in which every registration recognizes the device that has
its MAC keeps the canonical MACs of live devices distinct. -/
theorem unique_macs_run (hash : String → String) {h : Hub} (hh : Keyed h) (hu : UniqueMacs h)
    {ops : List Operation} (hops : Admits (step hash) (Recognized hash) h ops) :
    UniqueMacs (run (step hash) h ops) :=
  (run_invariant (I := fun g => Keyed g ∧ UniqueMacs g)
    (fun _ op hg hop => ⟨hg.1.step hash op, uniqueMacs_step hash hg.1 hg.2 hop⟩) ⟨hh, hu⟩ hops).2

/-- Two tokens are minted, and a device registers with each. -/
def enrolTwice (mac mac' : String) : List Operation :=
  [.mint (request 0 (some "org") "a") (mintFor (some "site") none),
   .mint (request 0 (some "org") "b") (mintFor (some "site") none),
   .register (request 1 none "c") "et_a" (bodyOf mac),
   .register (request 2 none "d") "et_b" (bodyOf mac')]

theorem unique_macs_run_refused : UniqueMacs
    (run (step id) oneSite (enrolTwice "AA:BB:CC:DD:EE:FF" " aa:bb:cc:dd:ee:ff")) :=
  unique_macs_run id (Keyed.start _ _) (by decide)
    ⟨trivial, trivial, by decide, by decide, trivial⟩

theorem twin_devices : ¬∀ (hash : String → String) (orgs : List Organization) (sites : List Site)
    (ops : List Operation), UniqueMacs (run (step hash) (.start orgs sites) ops) := by
  intro h
  exact absurd (h id [⟨"org", "default"⟩] [⟨"site", "Default", "org"⟩]
    (enrolTwice "AA:BB:CC:DD:EE:FF" "aabbccddeeff")) (by decide)

end RebooterHub.Enrollment
