import RebooterHub.Enrollment.Operations
import RebooterHub.Support.Runs

/-!
# Enrollment — Comparison

The three comparisons of MAC texts a restore goes through: the lookup of the announced MAC in SQL,
the check of the adoption, and the check of the registration with the device's own MAC.

`comparisons_agree_iff` says for which texts of one address they all let the restore pass.  The
announcement is compared in its canonical form, the device in the form it was stored in, so a
device stored with separators is found by none.
-/

namespace RebooterHub.Enrollment
open RebooterHub.Transaction RebooterHub.Runs

/-- The stored, the announced and the presented text denote the same address. -/
structure SameAddress (stored announced own : String) : Prop where
  digits : hexDigits stored ≠ []
  announced : hexDigits announced = hexDigits stored
  own : hexDigits own = hexDigits stored

/-- A live device, an announcement the operator may adopt, and everything a mint asks for. -/
structure Restorable (hash : String → String) (ctx : Context) (id : String)
    (byUserId displayName : Option String) (h : Hub) (d : Device) (row : Announcement) : Prop where
  device : h.device d.id = some d
  live : d.isLive
  named : d.id ≠ ""
  visible : visibleAnnouncement h ctx.scope id = some row
  notRejected : row.rejectedAt = none
  notAdopted : row.adoptedAt = none
  mintable : CanMint hash ctx (adoptionArgs row byUserId displayName (some d.id)) h

/-- The registration with a token is not refused because of the MAC, whatever the request says
besides it. -/
def NotMismatched (hash : String → String) (token own : String) (h : Hub) : Prop :=
  ∀ ctx body p, checkRegistration body = .ok p → p.macAddress = some own → ∀ message h',
    consumeEnrollmentToken hash ctx token body h ≠ .error (.refused "device_mismatch" message) h'

section
variable {hash : String → String} {ctx : Context} {id : String}
  {byUserId displayName : Option String} {h : Hub} {d : Device} {row : Announcement}
  {stored announced own : String}

/-! ### The lookup -/

theorem mem_findByMac_iff (hd : h.device d.id = some d) (hlive : d.isLive)
    (hmac : d.macAddress = some stored) {mac : String} (hne : stripUpper mac ≠ "") :
    d ∈ findByMac h mac ↔ sqlForm stored = stripUpper mac := by
  rw [findByMac, if_neg hne, List.mem_filter, hlive, hmac, Bool.true_and, Option.any_some,
    decide_eq_true_iff]
  exact and_iff_right (List.mem_of_find?_eq_some hd)

/-! ### The adoption -/

theorem checkRestore_eq_ok (hd : h.device d.id = some d) (hlive : d.isLive)
    (hmac : stripUpper row.macAddress = stripUpper (d.macAddress.getD "")) :
    checkRestore h row d.id = .ok () := by
  rw [checkRestore, hd]
  simp [hlive, hmac]

/-- The tables after an adoption that restores to `d`. -/
def restoredTo (hash : String → String) (ctx : Context) (id : String)
    (byUserId displayName : Option String) (row : Announcement) (org : String) (d : Device)
    (h : Hub) : Hub :=
  Hub.updateAnnouncement
    { h with tokens := h.tokens ++
        [newToken hash ctx org (adoptionArgs row byUserId displayName (some d.id))] }
    id (adopted ctx byUserId ctx.tokenId ctx.enrollmentSecret)

theorem adopt_restore (hr : Restorable hash ctx id byUserId displayName h d row) {org : String}
    (hm : Mintable hash ctx (adoptionArgs row byUserId displayName (some d.id)) h org)
    (hmac : stripUpper row.macAddress = stripUpper (d.macAddress.getD "")) :
    adopt hash ctx id byUserId displayName "restore" (some d.id) h =
      .ok (adopted ctx byUserId ctx.tokenId ctx.enrollmentSecret row)
        (restoredTo hash ctx id byUserId displayName row org d h) := by
  have htarget : restoreTarget "restore" (some d.id) = .ok (some d.id) := by
    have hne : nonEmpty (some d.id) = some d.id :=
      Option.filter_eq_some_iff.mpr ⟨rfl, decide_eq_true hr.named⟩
    rw [restoreTarget, hne]
    rfl
  have hcheck : checkTarget h row (some d.id) = .ok () := checkRestore_eq_ok hr.device hr.live hmac
  rw [adopt, htarget]
  refine scope_of_ok ?_
  rw [get_bind]
  simp only [hr.visible, hr.notRejected, hr.notAdopted, hcheck, Option.isSome_none,
    Bool.false_eq_true, if_false]
  have hmint : mintEnrollmentToken hash ctx
      (adoptionArgs row byUserId displayName (some d.id)) h = .ok _ _ :=
    scope_of_ok (mintInSession_of_mintable hm)
  exact bind_of_ok hmint _

/-! ### The registration -/

/-- The token of the adoption is the one its secret redeems. -/
theorem restoredTo_token (id : String) {org : String}
    (hm : Mintable hash ctx (adoptionArgs row byUserId displayName (some d.id)) h org) :
    (restoredTo hash ctx id byUserId displayName row org d h).tokenWithHash
        (hash ctx.enrollmentSecret) =
      some (newToken hash ctx org (adoptionArgs row byUserId displayName (some d.id))) :=
  Rows.find?_append_new EnrollmentToken.tokenHash hm.stored.hash

/-- Only the comparison refuses a restore for its MAC. -/
theorem restore_mismatch {p : Registration} {message : String} {h' : Hub}
    (hd : h.device d.id = some d) (hlive : d.isLive)
    (hr : restore hash ctx p d.id h = .error (.refused "device_mismatch" message) h') :
    comparedMac p.macAddress ≠ comparedMac d.macAddress := by
  rw [restore, get_bind, hd, Option.filter_some_pos hlive] at hr
  rcases require_bind_eq_error hr with ⟨hmismatch, -⟩ | ⟨-, hr⟩
  · exact (not_not.mp hmismatch).2.2
  · -- past the comparison only the credential can be refused, for its constraint
    rw [modify_bind, modify_bind] at hr
    rcases bind_eq_error hr with hstore | ⟨u, g, -, hr⟩
    · rw [storeCredential, get_bind] at hstore
      rcases require_bind_eq_error hstore with ⟨-, herr⟩ | ⟨-, hstore⟩
      · cases herr
      · cases hstore
    · cases hr

/-- What refuses a registration for its MAC is the comparison with the target. -/
theorem registration_mismatch {token message : String} {body : List (String × Json)}
    {p : Registration} {et : EnrollmentToken} {h' : Hub}
    (hp : checkRegistration body = .ok p) (het : h.tokenWithHash (hash token) = some et)
    (ht : nonEmpty et.targetDeviceId = some d.id) (hd : h.device d.id = some d) (hlive : d.isLive)
    (hr : consumeEnrollmentToken hash ctx token body h =
      .error (.refused "device_mismatch" message) h') :
    comparedMac p.macAddress ≠ comparedMac d.macAddress := by
  rw [consumeEnrollmentToken, hp, lift_ok_bind] at hr
  rcases bind_eq_error hr with hscope | ⟨r, g, -, hr⟩
  · obtain ⟨u, hredeem⟩ := scope_raised hscope
    rw [redeem, get_bind, het] at hredeem
    rcases require_bind_eq_error hredeem with ⟨-, herr⟩ | ⟨-, hredeem⟩
    · simp at herr
    · rcases require_bind_eq_error hredeem with ⟨-, herr⟩ | ⟨-, hredeem⟩
      · simp at herr
      · rcases bind_eq_error hredeem with hregister | ⟨d', g, -, hr⟩
        · rw [registerDevice, ht] at hregister
          exact restore_mismatch hd hlive hregister
        · cases hr
  · cases hr

/-- A registration whose MAC is not the target's is refused for it. -/
theorem registration_refused {token : String} {body : List (String × Json)}
    {p : Registration} {et : EnrollmentToken}
    (hp : checkRegistration body = .ok p) (het : h.tokenWithHash (hash token) = some et)
    (hunused : et.consumedAt = none) (hvalid : ctx.now < et.expiresAt)
    (ht : nonEmpty et.targetDeviceId = some d.id) (hd : h.device d.id = some d) (hlive : d.isLive)
    (hmac : comparedMac p.macAddress ≠ "" ∧ comparedMac d.macAddress ≠ "" ∧
      comparedMac p.macAddress ≠ comparedMac d.macAddress) :
    consumeEnrollmentToken hash ctx token body h =
      .error (.refused "device_mismatch" "MAC address does not match restore target.") h := by
  have hrestore : restore hash ctx p d.id h =
      .error (.refused "device_mismatch" "MAC address does not match restore target.") h := by
    rw [restore, get_bind, hd, Option.filter_some_pos hlive]
    exact require_bind_of_not (not_not_intro hmac) _
  have hredeem : redeem hash ctx token p h =
      .error (.refused "device_mismatch" "MAC address does not match restore target.") h := by
    rw [redeem, get_bind, het]
    simp only
    rw [require_bind hunused, require_bind hvalid, registerDevice, ht]
    exact bind_of_error hrestore _
  rw [consumeEnrollmentToken, hp, lift_ok_bind]
  exact bind_of_error (scope_of_error hredeem) _

/-! ### The agreement -/

/-- A text that denotes an address is not empty after stripping. -/
theorem stripUpper_of_digits {mac : String} (h : hexDigits mac ≠ []) : stripUpper mac ≠ "" := by
  obtain ⟨c, hc, hhex⟩ := hexDigits_ne_nil h
  exact stripUpper_ne_empty hc hhex

/-- Nor is its canonical form. -/
theorem stripUpper_normalizeMac {mac : String} (h : hexDigits mac ≠ []) :
    stripUpper (normalizeMac mac) ≠ "" := by
  obtain ⟨c, hc, hhex⟩ := hexDigits_ne_nil h
  exact stripUpper_ne_empty (mem_normalizeMac hc hhex) (isHexDigit_toUpper hhex)

/-- The request that presents a MAC and nothing else is valid. -/
theorem checkRegistration_bodyOf (htext : isMacText own) (hlen : own.length ≤ 40) :
    ∃ p, checkRegistration (bodyOf own) = .ok p ∧ p.macAddress = some own := by
  have hmac : checkField "mac_address" 40 (.str own) = .ok (some own) := if_neg (Nat.not_lt.mpr hlen)
  have hall : (nonEmpty (some own)).all isMacText = true := by
    rw [nonEmpty, Option.filter]
    split
    · exact htext
    · rfl
  refine ⟨⟨none, none, none, none, some own, none, none, .obj [], false⟩, ?_, rfl⟩
  change (checkField "mac_address" 40 (.str own) >>= fun mac =>
    if (nonEmpty mac).all isMacText then
      Except.ok (Registration.mk none none none none mac none none (.obj []) false)
    else .error _) = _
  rw [hmac]
  exact if_pos hall

/-- **The comparisons agree.**  For texts of one address, the lookup finds the device, the
adoption restores to it and the registration is not refused for the MAC exactly when the stored
text is the announced one's canonical form in SQL's eyes, and the presented text is the stored one
up to case and surrounding whitespace. -/
theorem comparisons_agree_iff (hr : Restorable hash ctx id byUserId displayName h d row)
    (hstored : d.macAddress = some stored) (hrow : row.macAddress = normalizeMac announced)
    (hsame : SameAddress stored announced own) (htext : isMacText own) (hlen : own.length ≤ 40) :
    (d ∈ findByMac h row.macAddress ∧
      ∃ row' h', adopt hash ctx id byUserId displayName "restore" (some d.id) h = .ok row' h' ∧
        NotMismatched hash ctx.enrollmentSecret own h') ↔
      sqlForm stored = stripUpper (normalizeMac announced) ∧ stripUpper own = stripUpper stored := by
  have hfind : d ∈ findByMac h row.macAddress ↔
      sqlForm stored = stripUpper (normalizeMac announced) := by
    rw [hrow]
    refine mem_findByMac_iff hr.device hr.live hstored (stripUpper_normalizeMac ?_)
    rw [hsame.announced]
    exact hsame.digits
  rw [hfind]
  refine and_congr_right fun hsql => ?_
  -- a device that is found passes the check of the adoption
  have hmac : stripUpper row.macAddress = stripUpper (d.macAddress.getD "") := by
    rw [hstored, hrow, Option.getD_some, stripUpper_of_sqlForm hsql, hsql]
  obtain ⟨org, hm⟩ := hr.mintable
  have hadopt := adopt_restore hr hm hmac
  have htoken := restoredTo_token id hm
  have htarget : nonEmpty (newToken hash ctx org
      (adoptionArgs row byUserId displayName (some d.id))).targetDeviceId = some d.id :=
    Option.filter_eq_some_iff.mpr ⟨rfl, decide_eq_true hr.named⟩
  have hdevice : (restoredTo hash ctx id byUserId displayName row org d h).device d.id = some d :=
    hr.device
  constructor
  · rintro ⟨row', h', hok, hnot⟩
    rw [hadopt] at hok
    cases hok
    obtain ⟨p, hp, hpmac⟩ := checkRegistration_bodyOf htext hlen
    by_contra hne
    refine hnot ctx (bodyOf own) p hp hpmac _ _ (registration_refused hp htoken rfl ?_ htarget
      hdevice hr.live ?_)
    · have hpos : (0 : Int) < 86400 * 7 := by decide
      exact newToken_valid hash ctx org rfl hpos
    · rw [comparedMac, comparedMac, hpmac, hstored]
      exact ⟨stripUpper_of_digits (hsame.own ▸ hsame.digits), stripUpper_of_digits hsame.digits, hne⟩
  · intro hown
    refine ⟨_, _, hadopt, fun ctx' body p hp hpmac message h' hrefused => ?_⟩
    refine registration_mismatch hp htoken htarget hdevice hr.live hrefused ?_
    rw [comparedMac, comparedMac, hpmac, hstored]
    exact hown

end

/-- A device registers with one text of its MAC, and announces itself with another. -/
def announcedAgain (stored announced : String) : Hub :=
  run (step id) oneSite
    [.mint (request 0 (some "org") "a") (mintFor (some "site") none),
     .register (request 1 none "b") "et_a" (bodyOf stored),
     .announce (request 2 none "c") (pollOf announced "10.0.0.7")]

theorem comparisons_agree_bare : ∃ d row,
    (announcedAgain "AABBCCDDEEFF" "aa:bb:cc:dd:ee:ff").device "dev-b" = some d ∧
      (announcedAgain "AABBCCDDEEFF" "aa:bb:cc:dd:ee:ff").announcement "ann-c" = some row ∧
      d ∈ findByMac (announcedAgain "AABBCCDDEEFF" "aa:bb:cc:dd:ee:ff") row.macAddress ∧
      ∃ row' h', adopt id (request 3 (some "org") "d") "ann-c" none none "restore" (some d.id)
          (announcedAgain "AABBCCDDEEFF" "aa:bb:cc:dd:ee:ff") = .ok row' h' ∧
        NotMismatched id "et_d" " aabbccddeeff" h' := by
  have hsame : SameAddress "AABBCCDDEEFF" "aa:bb:cc:dd:ee:ff" " aabbccddeeff" :=
    ⟨by decide, by decide, by decide⟩
  refine ⟨_, _, rfl, rfl, ?_⟩
  refine (comparisons_agree_iff ?_ rfl (by rfl) hsame (by decide) (by decide)).mpr
    ⟨by decide, by decide⟩
  exact ⟨rfl, by decide, by decide, rfl, rfl, rfl, ⟨"org", rfl, by decide, by decide⟩⟩

theorem lookup_misses_colons : ∃ d row,
    (announcedAgain "AA:BB:CC:DD:EE:FF" "AA:BB:CC:DD:EE:FF").device "dev-b" = some d ∧
      (announcedAgain "AA:BB:CC:DD:EE:FF" "AA:BB:CC:DD:EE:FF").announcement "ann-c" = some row ∧
      Restorable id (request 3 (some "org") "d") "ann-c" none none
        (announcedAgain "AA:BB:CC:DD:EE:FF" "AA:BB:CC:DD:EE:FF") d row ∧
      d.macAddress = some "AA:BB:CC:DD:EE:FF" ∧
      row.macAddress = normalizeMac "AA:BB:CC:DD:EE:FF" ∧
      d ∉ findByMac (announcedAgain "AA:BB:CC:DD:EE:FF" "AA:BB:CC:DD:EE:FF") row.macAddress ∧
      adopt id (request 3 (some "org") "d") "ann-c" none none "restore" (some d.id)
          (announcedAgain "AA:BB:CC:DD:EE:FF" "AA:BB:CC:DD:EE:FF") =
        .error (invalid "MAC mismatch between announcement and target device")
          (announcedAgain "AA:BB:CC:DD:EE:FF" "AA:BB:CC:DD:EE:FF") :=
  ⟨_, _, rfl, rfl, ⟨rfl, by decide, by decide, rfl, rfl, rfl, ⟨"org", rfl, by decide, by decide⟩⟩,
    rfl, rfl, by decide, rfl⟩

end RebooterHub.Enrollment
