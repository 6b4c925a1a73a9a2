import RebooterHub.Backup.Announced
import RebooterHub.Backup.Encryption

/-!
# Backup — Uploads

`parse_and_plan` from the bytes of an uploaded file on: the file and the payload of an envelope
are loaded, and every section of the document is planned.

`json.loads` and AES-GCM are those of the libraries.  `json.loads` raises a `RecursionError` on a
text that is nested too deeply, which is no `ValueError`.

* `parseUpload_eq`: where the loading does not raise it, this is `parseAndPlan`.
* `parseUpload_announced_iff`: the files on which only a `ConfigBackupError` is raised.
-/

namespace RebooterHub.Backup
open RebooterHub.Fallible
open RebooterHub.Watchdog (field strippedText Strippable exists_strippedText)

/-! ### From the bytes -/

/-- What `json.loads(data.decode("utf-8"))` raises. -/
inductive LoadError where
  /-- A `ValueError`, with its text. -/
  | value (text : String)
  /-- A `RecursionError`. -/
  | recursion
deriving DecidableEq, Repr

/-- What `parse_and_plan` raises. -/
inductive UploadError where
  | backup (e : BackupError)
  | recursion
deriving DecidableEq, Repr

/-- `except (ValueError, UnicodeDecodeError) as e`, with what the message says before the text. -/
def loading (what : String) : Except LoadError Json → Except UploadError Json
  | .ok x => .ok x
  | .error (.value text) => .error (.backup (.message (what ++ text)))
  | .error .recursion => .error .recursion

/-- An exception of what runs after the loading. -/
def uploading {α : Type} : Except BackupError α → Except UploadError α
  | .ok x => .ok x
  | .error e => .error (.backup e)

section
variable {Key : Type} (cipher : Cipher Key) (load : List UInt8 → Except LoadError Json)

/-- The decryption in `decrypt_document`. -/
def openCiphertext (passphrase : String) (salt nonce ciphertext : List UInt8) :
    Except BackupError (List UInt8) :=
  match cipher.decrypt (cipher.deriveKey passphrase salt) nonce ciphertext with
  | .error .invalidTag =>
    .error (.message "could not decrypt — wrong passphrase or the file was modified")
  | .error (.raised e) => .error (.raised e)
  | .ok plaintext => .ok plaintext

/-- `decrypt_document`, up to the plaintext. -/
def openEnvelope (passphrase : String) (ms : Members) : Except BackupError (List UInt8) :=
  if passphrase = "" then
    .error (.message "this file is encrypted — a passphrase is required")
  else do
    let salt ← hexField ms "salt"
    let nonce ← hexField ms "nonce"
    let ciphertext ← hexField ms "ciphertext"
    openCiphertext cipher passphrase salt nonce ciphertext

/-- `decrypt_document`. -/
def decryptUpload (passphrase : String) (ms : Members) : Except UploadError Json := do
  let plaintext ← uploading (openEnvelope cipher passphrase ms)
  loading "decrypted payload is not valid JSON: " (load plaintext)

/-- The document in a file that was loaded. -/
def openUpload (passphrase : String) (raw : Json) : Except UploadError Members :=
  match raw with
  | .obj raw =>
    if field raw "format" ≠ .str formatName then
      .error (.backup (.message ("not a Rebooter hub config backup (expected format '"
        ++ formatName ++ "')")))
    else if (field raw "encrypted").truthy then do
      uploading (raised (asRecord (← decryptUpload cipher load passphrase raw)))
    else .ok raw
  | _ => .error (.backup (.message "backup file must be a JSON object"))

/-- The plan for a document. -/
def planDocument (hub : Hub) (doc : Members) : Except BackupError ImportPlan := do
  let sections ← documentSections doc
  let plans ← raised (allSections.mapM fun s => do
    return (⟨s, ← planSection hub s (← sectionRecords sections s)⟩ : SectionPlan))
  let network := plans.any fun sp =>
    sp.part = .runtimeSettings ∧ sp.items.any fun it => "network key".toList <+: it.note.toList
  return { sections := plans, warnings := if network then [networkWarning] else [], document := doc }

/-- `parse_and_plan`: the database, and the plan. -/
def parseUpload (hub : Hub) (file : List UInt8) (passphrase : Option String) :
    Hub × Except UploadError ImportPlan :=
  (hub, do
    let raw ← loading "file is not valid JSON: " (load file)
    let doc ← openUpload cipher load (passphrase.getD "") raw
    uploading (planDocument hub doc))

/-! ### What a file may hold -/

/-- A `ConfigBackupError`. -/
inductive UploadError.Announced : UploadError → Prop where
  | message (text : String) : Announced (.backup (.message text))
  | version (v : Json) : Announced (.backup (.unsupportedVersion v))

/-- `bytes.fromhex` takes a text; a field that is missing is announced. -/
def HexText (ms : Members) (key : String) : Prop := ∀ x, ms.lookup key = some x → ∃ s, x = .str s

/-- The fields of a record that its planner strips. -/
def Section.textKeys : Section → List String
  | .runtimeSettings | .sites | .groups | .watchdogRules | .schedules | .scenes => ["name"]
  | .groupMemberships => ["group_name", "device_mac"]
  | .externalSources => ["display_name"]
  | .deviceConfig => ["mac_address"]

/-- The config of an external source is looked through unless the source has no name, or the name
of a source before it. -/
def ConfigFits (before : List Json) (ms : Members) : Prop :=
  strippedName "display_name" ms ≠ "" →
    strippedName "display_name" ms ∉ (objects before).map (strippedName "display_name") →
    (field ms "config").truthy = false ∨ ∃ cfg, field ms "config" = .obj cfg

/-- A record of a section, after others. -/
def RecordFits (s : Section) (before : List Json) (rec : Json) : Prop :=
  ∃ ms, rec = .obj ms ∧ (∀ key ∈ s.textKeys, Strippable (field ms key)) ∧
    (s = .externalSources → ConfigFits before ms)

/-- A section: false, or a list of records. -/
def SectionFits (s : Section) (x : Json) : Prop :=
  x.truthy = false ∨ ∃ recs, x = .arr recs ∧
    ∀ before rec after, recs = before ++ rec :: after → RecordFits s before rec

/-- A document of the format's version. -/
def DocumentFits (doc : Members) : Prop :=
  isFormatVersion (field doc "format_version") → ∀ sections, field doc "sections" = .obj sections →
    ∀ s ∈ allSections, SectionFits s ((sections.lookup s.text).getD (.arr []))

/-- The payload of an envelope. -/
def PayloadFits (plaintext : List UInt8) : Prop :=
  load plaintext ≠ .error .recursion ∧
    ∀ x, load plaintext = .ok x → ∃ doc, x = .obj doc ∧ DocumentFits doc

/-- An envelope: its fields are texts, as far as they are read, the library accepts the nonce, and
the payload fits. -/
def EnvelopeFits (passphrase : String) (ms : Members) : Prop :=
  passphrase ≠ "" →
    HexText ms "salt" ∧ ∀ salt, hexField ms "salt" = .ok salt →
    HexText ms "nonce" ∧ ∀ nonce, hexField ms "nonce" = .ok nonce →
    HexText ms "ciphertext" ∧ ∀ ciphertext, hexField ms "ciphertext" = .ok ciphertext →
    (∀ e, cipher.decrypt (cipher.deriveKey passphrase salt) nonce ciphertext ≠
      .error (.raised e)) ∧
    ∀ plaintext, cipher.decrypt (cipher.deriveKey passphrase salt) nonce ciphertext =
      .ok plaintext → PayloadFits load plaintext

/-- A file: it is not nested too deeply, and what it holds fits. -/
def FileFits (passphrase : String) (file : List UInt8) : Prop :=
  load file ≠ .error .recursion ∧
    ∀ raw, load file = .ok (.obj raw) → field raw "format" = .str formatName →
      if (field raw "encrypted").truthy then EnvelopeFits cipher load passphrase raw
      else DocumentFits raw

end

/-! ### The planners -/

/-- The elements of a list with what comes before them, one by one. -/
theorem forall_split_cons {α : Type} {P : List α → α → Prop} {x : α} {xs : List α} :
    (∀ before a after, x :: xs = before ++ a :: after → P before a) ↔
      P [] x ∧ ∀ before a after, xs = before ++ a :: after → P (x :: before) a := by
  constructor
  · intro h
    exact ⟨h [] x xs rfl, fun before a after hxs => h (x :: before) a after (by rw [hxs]; rfl)⟩
  · rintro ⟨hx, hxs⟩ before a after h
    cases before with
    | nil =>
        obtain ⟨rfl, -⟩ := List.cons.inj h
        exact hx
    | cons y before =>
        obtain ⟨rfl, htail⟩ := List.cons.inj h
        exact hxs before a after htail

theorem exists_asRecord {x : Json} {P : Members → Prop} :
    (∃ ms, asRecord x = .ok ms ∧ P ms) ↔ ∃ ms, x = .obj ms ∧ P ms := by
  cases x with
  | obj ms =>
      constructor
      · rintro ⟨ms', h, hP⟩
        obtain rfl := Except.ok.inj h
        exact ⟨ms, rfl, hP⟩
      · rintro ⟨ms', h, hP⟩
        obtain rfl := Json.obj.inj h
        exact ⟨ms, rfl, hP⟩
  | null | bool _ | int _ | float _ | str _ | arr _ =>
      constructor
      · rintro ⟨_, h, -⟩
        cases h
      · rintro ⟨_, h, -⟩
        cases h

theorem exists_recordName {key : String} {ms : Members} {P : String → Prop} :
    (∃ name, recordName key ms = .ok name ∧ P name) ↔
      Strippable (field ms key) ∧ P (strippedName key ms) := by
  constructor
  · rintro ⟨name, h, hP⟩
    obtain rfl := recordName_eq h
    obtain ⟨cs, hcs, -⟩ := map_eq_ok h
    exact ⟨exists_strippedText.mp ⟨cs, hcs⟩, hP⟩
  · rintro ⟨h, hP⟩
    obtain ⟨cs, hcs⟩ := exists_strippedText.mpr h
    have hname : recordName key ms = .ok (String.ofList cs) := by rw [recordName, hcs]; rfl
    exact ⟨_, hname, recordName_eq hname ▸ hP⟩

/-- What is done with the rest does not decide whether a planner raises. -/
theorem exists_bind_pure {ε α β : Type} {x : Except ε α} {f : α → β} :
    (∃ b, (do return f (← x)) = (.ok b : Except ε β)) ↔ ∃ a, x = .ok a := by
  rw [exists_bind]
  exact exists_congr fun a => and_iff_left ⟨f a, rfl⟩

theorem exists_planRuntimeSettings_iff {existing : List String} {recs : List Json} :
    (∃ items, planRuntimeSettings existing recs = .ok items) ↔
      ∀ rec ∈ recs, ∃ ms, rec = .obj ms ∧ Strippable (field ms "name") := by
  induction recs with
  | nil => exact ⟨fun _ => List.forall_mem_nil _, fun _ => ⟨[], rfl⟩⟩
  | cons rec recs ih =>
      rw [List.forall_mem_cons, ← ih, planRuntimeSettings, exists_bind]
      simp only [exists_bind, exists_asRecord, exists_recordName]
      constructor
      · rintro ⟨ms, hms, hname, items, hitems, -⟩
        exact ⟨⟨ms, hms, hname⟩, items, hitems⟩
      · rintro ⟨⟨ms, hms, hname⟩, items, hitems⟩
        exact ⟨ms, hms, hname, items, hitems, _, rfl⟩

section
variable {texts : NamedTexts} {existing seen : List String} {before : List Json} {rec : Json}

/-- A record of a section of named records, after others. -/
def NamedFits (texts : NamedTexts) (existing seen : List String) (before : List Json)
    (rec : Json) : Prop :=
  ∃ ms, rec = .obj ms ∧ Strippable (field ms texts.key) ∧
    (strippedName texts.key ms ≠ "" →
      strippedName texts.key ms ∉ seen ++ (objects before).map (strippedName texts.key) →
      ∃ note, texts.note (decide (strippedName texts.key ms ∈ existing)) ms = .ok note)

/-- Only the names that came before count. -/
theorem namedFits_congr {seen' : List String} {before' : List Json}
    (h : ∀ n ≠ "", n ∈ seen ++ (objects before).map (strippedName texts.key) ↔
      n ∈ seen' ++ (objects before').map (strippedName texts.key)) :
    NamedFits texts existing seen before rec ↔ NamedFits texts existing seen' before' rec := by
  refine exists_congr fun ms => and_congr_right fun _ => and_congr_right fun _ => ?_
  refine forall_congr' fun hne => ?_
  rw [h _ hne]

theorem exists_planKeyed_iff {recs : List Json} :
    (∃ items, planKeyed texts existing seen recs = .ok items) ↔
      ∀ before rec after, recs = before ++ rec :: after →
        NamedFits texts existing seen before rec := by
  induction recs generalizing seen with
  | nil =>
      refine ⟨fun _ before rec after h => ?_, fun _ => ⟨[], by rw [planKeyed]⟩⟩
      exact absurd h (by simp)
  | cons rec recs ih =>
      rw [forall_split_cons, planKeyed]
      simp only [exists_bind, exists_asRecord, exists_recordName]
      have hrest : ∀ {ms : Members} {seen' : List String}, rec = .obj ms →
          (∀ n ≠ "", n ∈ seen' ↔ n ∈ strippedName texts.key ms :: seen) →
          ((∃ items, planKeyed texts existing seen' recs = .ok items) ↔
            ∀ before a after, recs = before ++ a :: after →
              NamedFits texts existing seen (rec :: before) a) := by
        rintro ms seen' rfl hseen
        rw [ih]
        refine forall_congr' fun before => forall_congr' fun a => forall_congr' fun after =>
          imp_congr_right fun _ => namedFits_congr fun n hn => ?_
        rw [objects_cons rfl, List.map_cons, List.mem_append, hseen n hn, List.mem_append,
          List.mem_cons, List.mem_cons, or_assoc]
        exact or_left_comm
      constructor
      · rintro ⟨ms, rfl, hname, items, hitems⟩
        split at hitems
        · next hempty =>
            obtain ⟨rest, hplan, -⟩ := bind_eq_ok hitems
            refine ⟨⟨ms, rfl, hname, fun hne => absurd hempty hne⟩, (hrest rfl ?_).mp ⟨rest, hplan⟩⟩
            intro n hn
            rw [List.mem_cons, hempty, or_iff_right hn]
        · split at hitems
          · next hmem =>
              obtain ⟨rest, hplan, -⟩ := bind_eq_ok hitems
              refine ⟨⟨ms, rfl, hname, fun _ hnew => absurd (List.mem_append_left _ hmem) hnew⟩,
                (hrest rfl ?_).mp ⟨rest, hplan⟩⟩
              intro n _
              rw [List.mem_cons, or_iff_right_of_imp]
              rintro rfl
              exact hmem
          · obtain ⟨note, hnote, hitems⟩ := bind_eq_ok hitems
            obtain ⟨rest, hplan, -⟩ := bind_eq_ok hitems
            exact ⟨⟨ms, rfl, hname, fun _ _ => ⟨note, hnote⟩⟩,
              (hrest rfl fun n _ => Iff.rfl).mp ⟨rest, hplan⟩⟩
      · rintro ⟨⟨ms, rfl, hname, hnote⟩, hfits⟩
        refine ⟨ms, rfl, hname, ?_⟩
        split
        · next hempty =>
            refine exists_bind_pure.mpr ((hrest rfl fun n hn => ?_).mpr hfits)
            rw [List.mem_cons, hempty, or_iff_right hn]
        · next hne =>
            split
            · next hmem =>
                refine exists_bind_pure.mpr ((hrest rfl fun n _ => ?_).mpr hfits)
                rw [List.mem_cons, or_iff_right_of_imp]
                rintro rfl
                exact hmem
            · next hnew =>
                obtain ⟨note, hnote⟩ := hnote hne (by simpa [objects] using hnew)
                refine exists_bind.mpr ⟨note, hnote, ?_⟩
                exact exists_bind_pure.mpr ((hrest rfl fun n _ => Iff.rfl).mpr hfits)

end

/-- A record is checked by itself where nothing before it counts. -/
theorem forall_mem_iff_split {α : Type} {P : α → Prop} {xs : List α} :
    (∀ x ∈ xs, P x) ↔ ∀ before x after, xs = before ++ x :: after → P x := by
  constructor
  · rintro h before x after rfl
    exact h x (by simp)
  · intro h x hx
    obtain ⟨before, after, hxs⟩ := List.append_of_mem hx
    exact h before x after hxs

theorem exists_planGroupMemberships_iff {groups : List Group} {devices : List Device}
    {memberships : List GroupMembership} {recs : List Json} :
    (∃ items, planGroupMemberships groups devices memberships recs = .ok items) ↔
      ∀ rec ∈ recs, ∃ ms, rec = .obj ms ∧ Strippable (field ms "group_name") ∧
        Strippable (field ms "device_mac") := by
  rw [planGroupMemberships, exists_mapM_iff]
  refine forall_congr' fun rec => forall_congr' fun _ => ?_
  simp only [exists_bind, exists_asRecord, exists_recordName]
  exact exists_congr fun ms => and_congr_right fun _ => and_congr_right fun _ =>
    and_iff_left ⟨_, rfl⟩

theorem exists_planDeviceConfig_iff {devices : List Device} {recs : List Json} :
    (∃ items, planDeviceConfig devices recs = .ok items) ↔
      ∀ rec ∈ recs, ∃ ms, rec = .obj ms ∧ Strippable (field ms "mac_address") := by
  rw [planDeviceConfig, exists_mapM_iff]
  refine forall_congr' fun rec => forall_congr' fun _ => ?_
  simp only [exists_bind, exists_asRecord, exists_recordName]
  exact exists_congr fun ms => and_congr_right fun _ => and_iff_left ⟨_, rfl⟩

/-- The config of a source can be looked through. -/
theorem exists_sourceNote {known : Bool} {ms : Members} :
    (∃ note, sourceTexts.note known ms = .ok note) ↔
      (field ms "config").truthy = false ∨ ∃ cfg, field ms "config" = .obj cfg := by
  generalize hconfig : field ms "config" = x
  have hnote : sourceTexts.note known ms = match x.orEmpty with
      | .obj cfg => .ok (
          if cfg.any (·.2 = redactedSentinel) then
            "config has redacted secrets — re-enter them after import"
          else if known then "updates the existing source" else "")
      | _ => .error .attributeError := by
    rw [← hconfig]
    rfl
  rw [hnote]
  by_cases hx : x.truthy
  · rw [Json.orEmpty, if_pos hx]
    cases x with
    | obj cfg => exact ⟨fun _ => .inr ⟨cfg, rfl⟩, fun _ => ⟨_, rfl⟩⟩
    | null | bool _ | int _ | float _ | str _ | arr _ =>
        constructor
        · rintro ⟨_, h⟩
          cases h
        · rintro (h | ⟨_, h⟩)
          · rw [hx] at h
            cases h
          · cases h
  · rw [Json.orEmpty, if_neg hx]
    exact ⟨fun _ => .inl (eq_false_of_ne_true hx), fun _ => ⟨_, rfl⟩⟩

/-- A section is planned when its records fit. -/
theorem exists_planSection_iff {hub : Hub} {s : Section} {recs : List Json} :
    (∃ items, planSection hub s recs = .ok items) ↔
      ∀ before rec after, recs = before ++ rec :: after → RecordFits s before rec := by
  have halone : ∀ {s : Section} {before : List Json} {rec : Json}, s ≠ .externalSources →
      (RecordFits s before rec ↔
        ∃ ms, rec = .obj ms ∧ ∀ key ∈ s.textKeys, Strippable (field ms key)) := by
    intro s before rec hs
    refine exists_congr fun ms => and_congr_right fun _ => and_iff_left fun heq => absurd heq hs
  cases s with
  | runtimeSettings =>
      simp only [planSection, halone, ne_eq, reduceCtorEq, not_false_eq_true, Section.textKeys,
        List.mem_singleton, forall_eq]
      rw [exists_planRuntimeSettings_iff, forall_mem_iff_split]
  | groupMemberships =>
      simp only [planSection, halone, ne_eq, reduceCtorEq, not_false_eq_true, Section.textKeys,
        List.mem_cons, List.not_mem_nil, or_false, forall_eq_or_imp, forall_eq]
      rw [exists_planGroupMemberships_iff, forall_mem_iff_split]
  | deviceConfig =>
      simp only [planSection, halone, ne_eq, reduceCtorEq, not_false_eq_true, Section.textKeys,
        List.mem_singleton, forall_eq]
      rw [exists_planDeviceConfig_iff, forall_mem_iff_split]
  | sites | groups | watchdogRules | schedules | scenes =>
      simp only [planSection, planNamed, halone, ne_eq, reduceCtorEq, not_false_eq_true,
        Section.textKeys, List.mem_singleton, forall_eq, exists_planKeyed_iff]
      refine forall_congr' fun before => forall_congr' fun rec => forall_congr' fun after =>
        imp_congr_right fun _ => exists_congr fun ms => and_congr_right fun _ => ?_
      exact and_iff_left fun _ _ => ⟨_, rfl⟩
  | externalSources =>
      rw [planSection, planExternalSources, exists_planKeyed_iff]
      refine forall_congr' fun before => forall_congr' fun rec => forall_congr' fun after =>
        imp_congr_right fun _ => exists_congr fun ms => and_congr_right fun _ => ?_
      simp only [Section.textKeys, List.mem_singleton, forall_eq, true_implies, exists_sourceNote,
        List.nil_append]
      rfl

/-- What is gone through in a section that is given is a list, or nothing. -/
theorem sectionFits_iff {s : Section} {x : Json} : SectionFits s x ↔
    ∃ recs, x.orNil.iter = .ok recs ∧
      ∀ before rec after, recs = before ++ rec :: after → RecordFits s before rec := by
  by_cases hx : x.truthy
  · rw [Json.orNil, if_pos hx, SectionFits, hx]
    have hfirst : ∀ {r : Json} {rs : List Json}, (∀ ms, r ≠ .obj ms) →
        ¬∀ before rec after, r :: rs = before ++ rec :: after → RecordFits s before rec := by
      intro r rs hr hall
      obtain ⟨ms, hms, -⟩ := hall [] r rs rfl
      exact hr ms hms
    cases x with
    | arr recs =>
        constructor
        · rintro (h | ⟨recs', h, hfits⟩)
          · cases h
          · obtain rfl := Json.arr.inj h
            exact ⟨recs, rfl, hfits⟩
        · rintro ⟨recs', h, hfits⟩
          obtain rfl := Except.ok.inj h
          exact .inr ⟨recs, rfl, hfits⟩
    | obj ms =>
        cases ms with
        | nil => cases hx
        | cons m ms =>
            constructor
            · rintro (h | ⟨_, h, -⟩) <;> cases h
            · rintro ⟨recs, h, hfits⟩
              obtain rfl := Except.ok.inj h
              exact absurd hfits (hfirst fun _ => Json.noConfusion)
    | str text =>
        cases htext : text.toList with
        | nil =>
            obtain rfl := String.toList_eq_nil_iff.mp htext
            cases hx
        | cons c cs =>
            constructor
            · rintro (h | ⟨_, h, -⟩) <;> cases h
            · rintro ⟨recs, h, hfits⟩
              rw [Json.iter, htext] at h
              obtain rfl := Except.ok.inj h
              exact absurd hfits (hfirst fun _ => Json.noConfusion)
    | null | bool _ | int _ | float _ =>
        constructor
        · rintro (h | ⟨_, h, -⟩) <;> cases h
        · rintro ⟨_, h, -⟩
          cases h
  · rw [Json.orNil, if_neg hx]
    refine ⟨fun _ => ⟨[], rfl, fun before rec after h => absurd h (by simp)⟩,
      fun _ => .inl (eq_false_of_ne_true hx)⟩

/-! ### The document and the file -/

/-- A `ConfigBackupError`, before the loading is counted. -/
abbrev Announced (e : BackupError) : Prop := UploadError.Announced (.backup e)

theorem ends_uploading {α : Type} {Q : α → Prop} {x : Except BackupError α} :
    Ends UploadError.Announced Q (uploading x) ↔ Ends Announced Q x := by
  cases x with
  | error e => exact Iff.rfl
  | ok a => exact Iff.rfl

/-- An exception of Python is not announced. -/
theorem ends_raised {α : Type} {Q : α → Prop} {x : Except PyError α} :
    Ends Announced Q (raised x) ↔ ∃ a, x = .ok a ∧ Q a := by
  cases x with
  | error e => exact iff_of_false nofun fun ⟨_, h, _⟩ => by cases h
  | ok a =>
      refine ⟨fun h => ⟨a, rfl, h⟩, fun ⟨b, hb, h⟩ => ?_⟩
      obtain rfl := Except.ok.inj hb
      exact h

theorem ends_loading {Q : Json → Prop} {what : String} {x : Except LoadError Json} :
    Ends UploadError.Announced Q (loading what x) ↔
      x ≠ .error .recursion ∧ ∀ v, x = .ok v → Q v := by
  cases x with
  | error e =>
      cases e with
      | value text => exact iff_of_true (.message _) ⟨by simp, nofun⟩
      | recursion => exact iff_of_false nofun fun h => h.1 rfl
  | ok x => simp [loading, ends_ok]

theorem ends_documentSections {Q : Members → Prop} {doc : Members} :
    Ends Announced Q (documentSections doc) ↔ (isFormatVersion (field doc "format_version") →
      ∀ sections, field doc "sections" = .obj sections → Q sections) := by
  rw [documentSections]
  by_cases hversion : isFormatVersion (field doc "format_version")
  · rw [if_neg (not_not.mpr hversion), forall_prop_of_true hversion]
    cases field doc "sections" with
    | obj ms => simp [ends_ok]
    | null | bool _ | int _ | float _ | str _ | arr _ =>
        exact iff_of_true (.message _) fun sections h => by cases h
  · rw [if_pos hversion]
    exact iff_of_true (.version _) fun h => absurd h hversion

/-- A document is planned, or refused, when it fits. -/
theorem ends_planDocument {hub : Hub} {doc : Members} :
    Ends Announced (fun _ => True) (planDocument hub doc) ↔ DocumentFits doc := by
  rw [planDocument, ends_bind, ends_documentSections, DocumentFits]
  refine forall_congr' fun _ => forall_congr' fun sections => forall_congr' fun _ => ?_
  have hplans : (∃ plans, (allSections.mapM fun s => do
      return (⟨s, ← planSection hub s (← sectionRecords sections s)⟩ : SectionPlan)) =
        (.ok plans : Except PyError (List SectionPlan))) ↔
      ∀ s ∈ allSections, SectionFits s ((sections.lookup s.text).getD (.arr [])) := by
    rw [exists_mapM_iff]
    refine forall_congr' fun s => forall_congr' fun _ => ?_
    rw [sectionFits_iff, exists_bind]
    refine exists_congr fun recs => and_congr Iff.rfl ?_
    rw [exists_bind_pure, exists_planSection_iff]
  rw [ends_bind, ends_raised, ← hplans]
  exact exists_congr fun plans => and_iff_left trivial

section
variable {Key : Type} {cipher : Cipher Key} {load : List UInt8 → Except LoadError Json}
  {passphrase : String} {ms : Members}

theorem ends_hexField {Q : List UInt8 → Prop} {key : String} :
    Ends Announced Q (hexField ms key) ↔
      HexText ms key ∧ ∀ bytes, hexField ms key = .ok bytes → Q bytes := by
  rw [ends_iff]
  refine and_congr_left fun _ => ?_
  rw [hexField, HexText, failsWith_iff_ends]
  cases ms.lookup key with
  | none => exact iff_of_true (.message _) fun x h => by cases h
  | some x =>
      cases x with
      | str text =>
          refine iff_of_true ?_ fun x hx => ⟨text, (Option.some.inj hx).symm⟩
          dsimp only
          split
          · exact trivial
          · exact .message _
      | null | bool _ | int _ | float _ | arr _ | obj _ =>
          refine iff_of_false (fun h => by cases h) fun h => ?_
          obtain ⟨s, hs⟩ := h _ rfl
          cases hs

theorem ends_openCiphertext {Q : List UInt8 → Prop} {salt nonce ciphertext : List UInt8} :
    Ends Announced Q (openCiphertext cipher passphrase salt nonce ciphertext) ↔
      (∀ e, cipher.decrypt (cipher.deriveKey passphrase salt) nonce ciphertext ≠
        .error (.raised e)) ∧
      ∀ plaintext, cipher.decrypt (cipher.deriveKey passphrase salt) nonce ciphertext =
        .ok plaintext → Q plaintext := by
  rw [openCiphertext]
  cases cipher.decrypt (cipher.deriveKey passphrase salt) nonce ciphertext with
  | ok plaintext => simp [ends_ok]
  | error e =>
      cases e with
      | invalidTag => exact iff_of_true (.message _) ⟨by simp, nofun⟩
      | raised e => exact iff_of_false nofun fun h => h.1 e rfl

theorem ends_asRecord {Q : Members → Prop} {x : Json} :
    Ends Announced Q (raised (asRecord x)) ↔ ∃ doc, x = .obj doc ∧ Q doc := by
  rw [ends_raised, exists_asRecord]

/-- An envelope is opened, or refused, when it fits. -/
theorem ends_openEnvelope :
    Ends Announced (PayloadFits load) (openEnvelope cipher passphrase ms) ↔
      EnvelopeFits cipher load passphrase ms := by
  rw [openEnvelope, EnvelopeFits]
  split
  · next hempty => exact iff_of_true (.message _) fun hne => absurd hempty hne
  · next hne =>
      rw [forall_prop_of_true hne]
      simp only [ends_bind, ends_hexField, ends_openCiphertext]

/-- A file is opened, or refused, when its envelope is; a document that is not encrypted is taken
as it is. -/
theorem ends_openUpload {Q : Members → Prop} {raw : Json} :
    Ends UploadError.Announced Q (openUpload cipher load passphrase raw) ↔
      ∀ ms, raw = .obj ms → field ms "format" = .str formatName →
        if (field ms "encrypted").truthy then
          Ends UploadError.Announced (fun x => ∃ doc, x = .obj doc ∧ Q doc)
            (decryptUpload cipher load passphrase ms)
        else Q ms := by
  cases raw with
  | obj ms =>
      rw [openUpload]
      simp only [Json.obj.injEq, forall_eq']
      split
      · next hformat => exact iff_of_true (.message _) fun h => absurd h hformat
      · next hformat =>
          rw [forall_prop_of_true (not_not.mp hformat)]
          split
          · simp only [ends_bind, ends_uploading, ends_asRecord]
          · exact Iff.rfl
  | null | bool _ | int _ | float _ | str _ | arr _ => exact iff_of_true (.message _) nofun

theorem ends_decryptUpload :
    Ends UploadError.Announced (fun x => ∃ doc, x = .obj doc ∧ DocumentFits doc)
      (decryptUpload cipher load passphrase ms) ↔ EnvelopeFits cipher load passphrase ms := by
  rw [← ends_openEnvelope, decryptUpload, ends_bind, ends_uploading]
  simp only [ends_loading]
  rfl

/-- **Only a `ConfigBackupError` is raised**, and nothing is written, on the files that fit, and on
no others. -/
theorem parseUpload_announced_iff {hub : Hub} {file : List UInt8} {passphrase : Option String} :
    ((parseUpload cipher load hub file passphrase).1 = hub ∧
      FailsWith UploadError.Announced (parseUpload cipher load hub file passphrase).2) ↔
      FileFits cipher load (passphrase.getD "") file := by
  rw [failsWith_iff_ends, parseUpload, and_iff_right rfl, ends_bind, ends_loading, FileFits]
  refine and_congr_right fun _ => ?_
  simp only [ends_bind, ends_openUpload, ends_uploading, ends_planDocument, ends_decryptUpload]
  constructor
  · intro h raw hraw
    exact h _ hraw raw rfl
  · rintro h v hv ms rfl
    exact h ms hv

theorem uploading_bind {α β : Type} {x : Except BackupError α} {f : α → Except BackupError β} :
    uploading (x >>= f) = uploading x >>= fun a => uploading (f a) := by
  cases x with
  | error e => rfl
  | ok a => rfl

section
variable {codec : JsonCodec}
  (hload : ∀ bytes, load bytes = (codec.loads bytes).mapError LoadError.value)
include hload

theorem decryptUpload_eq : decryptUpload cipher load passphrase ms =
    uploading (decryptDocument cipher codec passphrase ms) := by
  rw [decryptUpload, openEnvelope, decryptDocument]
  split
  · rfl
  · cases hexField ms "salt" with
    | error e => rfl
    | ok salt =>
      cases hexField ms "nonce" with
      | error e => rfl
      | ok nonce =>
        cases hexField ms "ciphertext" with
        | error e => rfl
        | ok ciphertext =>
          simp only [ok_bind, openCiphertext]
          cases cipher.decrypt (cipher.deriveKey passphrase salt) nonce ciphertext with
          | error e => cases e <;> rfl
          | ok plaintext =>
              simp only [uploading, ok_bind, hload]
              cases codec.loads plaintext <;> rfl

theorem openUpload_eq {raw : Json} : openUpload cipher load passphrase raw =
    uploading (openDocument (decryptDocument cipher codec passphrase) raw) := by
  cases raw with
  | obj ms =>
      rw [openUpload, openDocument]
      split
      · rfl
      · split
        · rw [decryptUpload_eq hload, uploading_bind]
        · rfl
  | null | bool _ | int _ | float _ | str _ | arr _ => rfl

/-- Where `json.loads` raises no `RecursionError`, a file that is read is planned as its JSON value
is. -/
theorem parseUpload_eq {hub : Hub} {file : List UInt8} {raw : Json} {passphrase : Option String}
    (hraw : codec.loads file = .ok raw) :
    (parseUpload cipher load hub file passphrase).2 =
      uploading (parseAndPlan (decryptDocument cipher codec (passphrase.getD "")) hub raw) := by
  have hread : load file = .ok raw := by
    rw [hload, hraw]
    rfl
  have hplan : parseAndPlan (decryptDocument cipher codec (passphrase.getD "")) hub raw =
      openDocument (decryptDocument cipher codec (passphrase.getD "")) raw >>= planDocument hub :=
    rfl
  rw [hplan, uploading_bind, ← openUpload_eq hload, parseUpload, hread]
  rfl

end

end

/-! ### Files that do not fit -/

/-- `json.loads`, of one text. -/
def loadsText (text : String) (value : Json) (bytes : List UInt8) : Except LoadError Json :=
  if bytes = text.toUTF8.data.toList then .ok value
  else .error (.value "Expecting value: line 1 column 1 (char 0)")

/-- A cipher that opens nothing. -/
def closedCipher : Cipher Unit where
  deriveKey _ _ := ()
  encrypt _ _ _ := []
  decrypt _ _ _ := .error .invalidTag

/-- A backup with a number among the sites. -/
def numberedSites : String :=
  "\x7b\"format\": \"rebooter-hub-config\", \"format_version\": 1, " ++
    "\"sections\": \x7b\"sites\": [5]\x7d\x7d"

/-- A backup whose salt is a number. -/
def numberedSalt : String :=
  "\x7b\"format\": \"rebooter-hub-config\", \"encrypted\": true, \"salt\": 5\x7d"

/-- A number raises an `AttributeError` where a record is expected, and a `TypeError` where a text
is. -/
theorem parseUpload_unannounced :
    ¬FailsWith UploadError.Announced
      (parseUpload closedCipher (loadsText numberedSites (.obj [("format", .str formatName),
        ("format_version", .int 1), ("sections", .obj [("sites", .arr [.int 5])])]))
        Hub.empty numberedSites.toUTF8.data.toList none).2 ∧
    ¬FailsWith UploadError.Announced
      (parseUpload closedCipher (loadsText numberedSalt (.obj [("format", .str formatName),
        ("encrypted", .bool true), ("salt", .int 5)]))
        Hub.empty numberedSalt.toUTF8.data.toList (some "secret")).2 := by
  simp only [parseUpload, loadsText, if_pos]
  constructor
  · intro h
    exact nomatch h (.backup (.raised .attributeError)) rfl
  · intro h
    exact nomatch h (.backup (.raised .typeError)) rfl

end RebooterHub.Backup
