import Mathlib.Data.List.Sort
import RebooterHub.Firmware.Uploads
import RebooterHub.Support.Dict

/-!
# Firmware — Discovery

The scan of the channels' folders for releases that were put there by hand.  It looks a file up by
its name among the rows that were there before the scan, and of the rows with one name it keeps
the last that the query returned.

* `discovery_faithful_iff`: a scan without errors is faithful exactly when each file has its row or
  can have one, files of one name have one digest, and the rows the scan leaves alone, and those
  it takes a file for, record what is on the disk.
* `discovery_unfaithful`: a file of one name in two channels.
-/

namespace RebooterHub.Firmware
open Runs Rows

/-- Where a `download_url` points. -/
inductive Location where
  | flat (name : String)
  | inChannel (channel name : String)
deriving DecidableEq, Repr

/-- The columns `sha256` and `size_bytes`. -/
structure Digest where
  sha256 : String
  sizeBytes : Option Nat
deriving DecidableEq, Repr

/-- A row of `firmware_releases`. -/
structure Release (Id : Type*) where
  id : Id
  version : String
  channel : String
  filename : String
  downloadUrl : Location
  digest : Digest
deriving DecidableEq

/-- A row of `firmware_release_mirrors`. -/
structure Mirror (Id : Type*) where
  releaseId : Id
  kind : String
  url : String
  status : String
  verifiedSha256 : Option String
  lastError : Option String
deriving DecidableEq

/-- The firmware folder and the folders of the channels: their files, under their names. -/
structure Disk where
  flat : List (String × Bytes)
  folder : String → List (String × Bytes)
  nodup : ∀ channel, ((folder channel).map Prod.fst).Nodup

/-- A file in a channel's folder. -/
structure Entry where
  channel : String
  name : String
  bytes : Bytes
deriving DecidableEq

/-- What hashing a file, or writing its row, raises. -/
inductive Fault where
  | hashing (type text : String)
  | database (type text : String)

structure Discovered (Id : Type*) where
  id : Id
  version : String
  channel : String
  filename : String
  digest : Digest

structure Updated (Id : Type*) where
  id : Id
  filename : String
  channel : String
  old : Digest
  new : Digest

structure ScanError where
  path : Location
  error : String

/-- What `discover_on_disk_releases` returns. -/
structure Report (Id : Type*) where
  discovered : List (Discovered Id) := []
  updated : List (Updated Id) := []
  skippedExisting : Nat := 0
  skippedPointer : Nat := 0
  errors : List ScanError := []

/-- The tables and the report, between two files. -/
structure Scan (Id : Type*) where
  rows : List (Release Id)
  mirrors : List (Mirror Id)
  report : Report Id

/-- `CHANNEL_POINTER_FILENAME`. -/
def channelPointerFilename : String := "latest.bin"

namespace Entry

/-- A `.bin` that is no pointer. -/
def isArtifact (e : Entry) : Bool :=
  e.name ≠ channelPointerFilename && ".bin".toList.isSuffixOf e.name.toList

theorem isArtifact_congr {e e' : Entry} (hname : e'.name = e.name) :
    e'.isArtifact = e.isArtifact := by
  rw [isArtifact, hname, isArtifact]

def location (e : Entry) : Location := .inChannel e.channel e.name

def version (e : Entry) : String := parseVersion e.channel e.name

end Entry

namespace Disk

/-- `sorted(channel_dir.iterdir())`, the files of it. -/
def listing (disk : Disk) (channel : String) : List (String × Bytes) :=
  (disk.folder channel).mergeSort fun a b => a.1 ≤ b.1

/-- The files in the order of the scan. -/
def entries (disk : Disk) : List Entry :=
  allowedChannels.flatMap fun channel =>
    (disk.listing channel).map fun f => ⟨channel, f.1, f.2⟩

/-- The file at a place. -/
def bytesAt (disk : Disk) : Location → Option Bytes
  | .flat name => disk.flat.lookup name
  | .inChannel channel name => (disk.folder channel).lookup name

/-- A file of the scan is where its place says. -/
theorem bytesAt_location {disk : Disk} {e : Entry} (he : e ∈ disk.entries) :
    disk.bytesAt e.location = some e.bytes := by
  obtain ⟨channel, -, he⟩ := List.mem_flatMap.mp he
  obtain ⟨file, hfile, rfl⟩ := List.mem_map.mp he
  rw [listing, List.mem_mergeSort] at hfile
  exact Dict.lookup_of_mem (disk.nodup channel) hfile

end Disk

/-- The columns of `uq_firmware_version_channel`. -/
def Release.key {Id : Type*} (r : Release Id) : String × String := (r.version, r.channel)

/-! ### The dictionary -/

section
variable {Id : Type*} {rows new : List (Release Id)} {name : String} {r : Release Id}

/-- `existing.get(name)`: of the rows with one filename, the dictionary has the last. -/
def existing (rows : List (Release Id)) (name : String) : Option (Release Id) :=
  rows.reverse.find? fun r => r.filename = name

theorem existing_mem (hr : existing rows name = some r) : r ∈ rows :=
  List.mem_reverse.mp (List.mem_of_find?_eq_some hr)

theorem existing_filename (hr : existing rows name = some r) : r.filename = name := by
  simpa using List.find?_some hr

theorem existing_eq_none : existing rows name = none ↔ ∀ r ∈ rows, r.filename ≠ name := by
  simp [existing]

theorem existing_append :
    existing (rows ++ new) name = (existing new name).or (existing rows name) := by
  rw [existing, List.reverse_append, List.find?_append]
  rfl

theorem existing_map {f : Release Id → Release Id} (hf : ∀ r, (f r).filename = r.filename) :
    existing (rows.map f) name = (existing rows name).map f := by
  rw [existing, ← List.map_reverse, List.find?_map]
  simp only [existing, Function.comp_def, hf]

end

section
variable {Id : Type*} [DecidableEq Id]

/-- `settings.firmware_public_base.rstrip("/")`. -/
def publicBase (firmwarePublicBase : String) : String :=
  String.ofList (firmwarePublicBase.toList.reverse.dropWhile (· = '/')).reverse

/-- `api_root`. -/
def apiRoot (base : String) : String :=
  if "/firmware".toList.isSuffixOf base.toList then
    String.ofList (base.toList.take (base.toList.length - 9)) ++ "/api/v1/firmware"
  else base

/-- A mirror of a row that the scan inserts. -/
def newMirror (id : Id) (sha256 kind url : String) : Mirror Id where
  releaseId := id
  kind := kind
  url := url
  status := "live"
  verifiedSha256 := some sha256
  lastError := none

namespace Scan

def skip (st : Scan Id) : Scan Id :=
  { st with report := { st.report with skippedExisting := st.report.skippedExisting + 1 } }

def skipPointer (st : Scan Id) : Scan Id :=
  { st with report := { st.report with skippedPointer := st.report.skippedPointer + 1 } }

def fail (st : Scan Id) (e : Entry) (error : String) : Scan Id :=
  { st with report := { st.report with errors := st.report.errors ++ [⟨e.location, error⟩] } }

/-- The row of a file, and its mirrors, get the file's digest. -/
def update (st : Scan Id) (known : Release Id) (e : Entry) (digest : Digest) : Scan Id where
  rows := amend Release.id known.id (fun r => { r with digest := digest }) st.rows
  mirrors := amend Mirror.releaseId known.id
    (fun m => { m with verifiedSha256 := some digest.sha256, lastError := none, status := "live" })
    st.mirrors
  report := { st.report with
    updated := st.report.updated ++ [⟨known.id, e.name, known.channel, known.digest, digest⟩] }

theorem update_rows (st : Scan Id) (known : Release Id) (e : Entry) (digest : Digest) :
    (st.update known e digest).rows =
      amend Release.id known.id (fun r => { r with digest := digest }) st.rows := rfl

theorem update_keys (st : Scan Id) (known : Release Id) (e : Entry) (digest : Digest) :
    (st.update known e digest).rows.map Release.key = st.rows.map Release.key :=
  map_amend (g := fun r : Release Id => { r with digest := digest }) fun _ => rfl

theorem update_ids (st : Scan Id) (known : Release Id) (e : Entry) (digest : Digest) :
    (st.update known e digest).rows.map Release.id = st.rows.map Release.id :=
  map_amend (g := fun r : Release Id => { r with digest := digest }) fun _ => rfl

end Scan

section
variable (sha256 : Bytes → String) (firmwarePublicBase : String)
  (newId : List (Release Id) → Id) (fault : Entry → Option Fault)

/-- `_sha256_of_path` and `stat().st_size`. -/
def digestOf (bytes : Bytes) : Digest := ⟨sha256 bytes, some bytes.length⟩

/-- The row that the scan inserts for a file. -/
def newRelease (id : Id) (e : Entry) : Release Id where
  id := id
  version := e.version
  channel := e.channel
  filename := e.name
  downloadUrl := e.location
  digest := digestOf sha256 e.bytes

/-- A file whose name is among the rows. -/
def scanExisting (known : Release Id) (st : Scan Id) (e : Entry) : Scan Id :=
  match fault e with
  | some (.hashing _ text) => (st.fail e ("OSError while re-hashing existing: " ++ text)).skip
  | other =>
    if digestOf sha256 e.bytes = known.digest then st.skip
    else
      match other with
      | some (.database type text) => st.fail e (type ++ " while updating row: " ++ text)
      | _ =>
        if st.rows.any fun r => r.id = known.id then
          st.update known e (digestOf sha256 e.bytes)
        else st.skip

/-- A file whose name is not. -/
def scanNew (st : Scan Id) (e : Entry) : Scan Id :=
  match fault e with
  | some (.hashing type text) | some (.database type text) => st.fail e (type ++ ": " ++ text)
  | none =>
    let row := newRelease sha256 (newId st.rows) e
    if st.rows.any fun r => r.key = row.key then st.skip
    else
      let base := publicBase firmwarePublicBase
      { rows := st.rows ++ [row]
        mirrors := st.mirrors ++ [
          newMirror row.id row.digest.sha256 "local_per_channel"
            (base ++ "/" ++ e.channel ++ "/" ++ e.name),
          newMirror row.id row.digest.sha256 "local_channel_pointer"
            (apiRoot base ++ "/" ++ e.channel ++ "/latest")]
        report := { st.report with
          discovered := st.report.discovered ++
            [⟨row.id, row.version, row.channel, row.filename, row.digest⟩] } }

/-- One file of the scan, under the dictionary of the rows that were there before. -/
def scanEntry (existing : String → Option (Release Id)) (st : Scan Id) (e : Entry) : Scan Id :=
  if e.name = channelPointerFilename then st.skipPointer
  else if ".bin".toList.isSuffixOf e.name.toList then
    match existing e.name with
    | some known => scanExisting sha256 fault known st e
    | none => scanNew sha256 firmwarePublicBase newId fault st e
  else st

/-- `discover_on_disk_releases`. -/
def discoverOnDiskReleases (disk : Disk) (rows : List (Release Id)) (mirrors : List (Mirror Id)) :
    Scan Id :=
  run (scanEntry sha256 firmwarePublicBase newId fault (existing rows)) ⟨rows, mirrors, {}⟩
    disk.entries

/-- The scan has left the rows as the disk is, and a second scan has nothing to do. -/
structure Faithful (disk : Disk) (rows : List (Release Id)) (after : Scan Id) : Prop where
  tracked : ∀ e ∈ disk.entries, e.isArtifact →
    ∃ r ∈ after.rows, r.channel = e.channel ∧ r.filename = e.name
  recorded : ∀ r ∈ after.rows, ∀ bytes, disk.bytesAt r.downloadUrl = some bytes →
    r.digest = digestOf sha256 bytes
  own : ∀ r ∈ after.rows, (∃ r₀ ∈ rows, r₀.id = r.id ∧ r₀.digest = r.digest) ∨
    ∃ bytes, (disk.bytesAt r.downloadUrl = some bytes ∨
      ⟨r.channel, r.filename, bytes⟩ ∈ disk.entries) ∧ r.digest = digestOf sha256 bytes
  idempotent : ∀ fault,
    let again := discoverOnDiskReleases sha256 firmwarePublicBase newId fault disk after.rows
      after.mirrors
    again.report.discovered = [] ∧ again.report.updated = []

/-- The row is the one that the scan has under its filename, and a file has that name. -/
def Taken (disk : Disk) (rows : List (Release Id)) (r : Release Id) : Prop :=
  existing rows r.filename = some r ∧ ∃ e ∈ disk.entries, e.isArtifact ∧ e.name = r.filename

/-- No row of the table has the file's name, or its version in its channel, and no other such file
of the channel is read as the same version. -/
structure Insertable (disk : Disk) (rows : List (Release Id)) (e : Entry) : Prop where
  name : ∀ r ∈ rows, r.filename ≠ e.name
  version : ∀ r ∈ rows, r.key ≠ (e.version, e.channel)
  only : ∀ e' ∈ disk.entries, e'.isArtifact → e'.channel = e.channel → e'.version = e.version →
    (∀ r ∈ rows, r.filename ≠ e'.name) → e'.name = e.name

/-- The disk and the rows before a scan that is faithful. -/
structure Discoverable (disk : Disk) (rows : List (Release Id)) : Prop where
  /-- Each file has its row or can have one. -/
  tracked : ∀ e ∈ disk.entries, e.isArtifact →
    (∃ r ∈ rows, r.channel = e.channel ∧ r.filename = e.name) ∨ Insertable disk rows e
  /-- Files of one name have one digest. -/
  uniform : ∀ e ∈ disk.entries, ∀ e' ∈ disk.entries, e.isArtifact → e'.name = e.name →
    digestOf sha256 e'.bytes = digestOf sha256 e.bytes
  /-- A row that the scan leaves alone records the file it points to. -/
  left : ∀ r ∈ rows, ∀ bytes, disk.bytesAt r.downloadUrl = some bytes → ¬ Taken disk rows r →
    r.digest = digestOf sha256 bytes
  /-- A file that the scan takes for a row's is as the one it points to. -/
  pointed : ∀ r ∈ rows, ∀ bytes, disk.bytesAt r.downloadUrl = some bytes →
    existing rows r.filename = some r → ∀ e ∈ disk.entries, e.isArtifact → e.name = r.filename →
    digestOf sha256 e.bytes = digestOf sha256 bytes
  /-- Where the row's own files are gone, it records that file already. -/
  gone : ∀ r ∈ rows, existing rows r.filename = some r → disk.bytesAt r.downloadUrl = none →
    (∀ e ∈ disk.entries, e.channel = r.channel → e.name ≠ r.filename) →
    ∀ e ∈ disk.entries, e.isArtifact → e.name = r.filename → r.digest = digestOf sha256 e.bytes

/-! ### What the scan leaves -/

section
variable (known : String → Option (Release Id))

/-- The scan takes the file for the row's, and the row recorded another. -/
def hits (e : Entry) (r : Release Id) : Bool :=
  e.isArtifact && (known e.name).any fun k => k.id = r.id && digestOf sha256 e.bytes ≠ k.digest

/-- A row after some files. -/
def refreshed (es : List Entry) (r : Release Id) : Release Id :=
  es.foldl (fun r e => if hits sha256 known e r then { r with digest := digestOf sha256 e.bytes }
    else r) r

/-- What the scan of the files `pre` leaves: the rows that were there, refreshed, and new ones. -/
structure Scanned (rows₀ : List (Release Id)) (pre : List Entry) (rows new : List (Release Id)) :
    Prop where
  shape : rows = rows₀.map (refreshed sha256 known pre) ++ new
  news : ∀ r ∈ new, ∃ e ∈ pre, e.isArtifact ∧ known e.name = none ∧ r = newRelease sha256 r.id e
  ids : ∀ r ∈ new, ∀ r₀ ∈ rows₀, r.id ≠ r₀.id
  keys : ∀ r ∈ new, ∀ r₀ ∈ rows₀, r.key ≠ r₀.key
  nodup : (new.map Release.key).Nodup
  covered : ∀ e ∈ pre, e.isArtifact → known e.name = none →
    (e.version, e.channel) ∈ rows.map Release.key

end

/-! ### What one file does -/

/-- Nothing but a counter changes. -/
structure Idle (st st' : Scan Id) : Prop where
  rows : st'.rows = st.rows
  discovered : st'.report.discovered = st.report.discovered
  updated : st'.report.updated = st.report.updated
  errors : st'.report.errors = st.report.errors

/-- What one file can do. -/
inductive Does (known : String → Option (Release Id)) (st : Scan Id) (e : Entry) :
    Scan Id → Prop
  | passes {st'} : e.isArtifact = false → Idle st st' → Does known st e st'
  | fails {st'} : fault e ≠ none → st'.rows = st.rows →
      st'.report.discovered = st.report.discovered → st'.report.updated = st.report.updated →
      st'.report.errors ≠ [] → Does known st e st'
  | agrees {st'} (r : Release Id) : e.isArtifact → known e.name = some r →
      digestOf sha256 e.bytes = r.digest → Idle st st' → Does known st e st'
  | gone {st'} (r : Release Id) : e.isArtifact → known e.name = some r →
      r.id ∉ st.rows.map Release.id → Idle st st' → Does known st e st'
  | updates (r : Release Id) : e.isArtifact → known e.name = some r →
      digestOf sha256 e.bytes ≠ r.digest → r.id ∈ st.rows.map Release.id →
      Does known st e (st.update r e (digestOf sha256 e.bytes))
  | conflicts {st'} : e.isArtifact → known e.name = none →
      (e.version, e.channel) ∈ st.rows.map Release.key → Idle st st' → Does known st e st'
  | inserts {st'} : e.isArtifact → known e.name = none →
      (e.version, e.channel) ∉ st.rows.map Release.key →
      st'.rows = st.rows ++ [newRelease sha256 (newId st.rows) e] →
      st'.report.updated = st.report.updated → st'.report.errors = st.report.errors →
      Does known st e st'

variable {sha256 firmwarePublicBase newId fault} {known : String → Option (Release Id)}
  {st st' : Scan Id} {e : Entry} {rows rows₀ after new : List (Release Id)} {es pre : List Entry}
  {disk : Disk} {mirrors : List (Mirror Id)}

theorem scanExisting_does {r : Release Id} (hart : e.isArtifact) (hr : known e.name = some r) :
    Does sha256 newId fault known st e (scanExisting sha256 fault r st e) := by
  have hwrite : fault e = none →
      Does sha256 newId fault known st e
        (if digestOf sha256 e.bytes = r.digest then st.skip
        else if st.rows.any fun r' => r'.id = r.id then st.update r e (digestOf sha256 e.bytes)
        else st.skip) := by
    intro hnone
    split
    · exact .agrees r hart hr ‹_› ⟨rfl, rfl, rfl, rfl⟩
    · split
      · exact .updates r hart hr ‹_› (any_eq_iff.mp ‹_›)
      · exact .gone r hart hr (mt any_eq_iff.mpr ‹_›) ⟨rfl, rfl, rfl, rfl⟩
  unfold scanExisting
  cases hf : fault e with
  | none => exact hwrite hf
  | some f =>
      cases f with
      | hashing type text =>
          exact .fails (by rw [hf]; nofun) rfl rfl rfl (List.append_ne_nil_of_right_ne_nil _ nofun)
      | database type text =>
          dsimp only
          split
          · exact .agrees r hart hr ‹_› ⟨rfl, rfl, rfl, rfl⟩
          · exact .fails (by rw [hf]; nofun) rfl rfl rfl
              (List.append_ne_nil_of_right_ne_nil _ nofun)

theorem scanNew_does (hart : e.isArtifact) (hno : known e.name = none) :
    Does sha256 newId fault known st e
      (scanNew sha256 firmwarePublicBase newId fault st e) := by
  unfold scanNew
  cases hf : fault e with
  | none =>
      dsimp only
      split
      · exact .conflicts hart hno (any_eq_iff.mp ‹_›) ⟨rfl, rfl, rfl, rfl⟩
      · exact .inserts hart hno (mt any_eq_iff.mpr ‹_›) rfl rfl rfl
  | some f =>
      cases f <;>
        exact .fails (by rw [hf]; nofun) rfl rfl rfl (List.append_ne_nil_of_right_ne_nil _ nofun)

/-- **The step lemma.** -/
theorem scanEntry_does : Does sha256 newId fault known st e
    (scanEntry sha256 firmwarePublicBase newId fault known st e) := by
  unfold scanEntry
  split
  case isTrue hpointer => exact .passes (by simp [Entry.isArtifact, hpointer]) ⟨rfl, rfl, rfl, rfl⟩
  case isFalse hpointer =>
    split
    case isTrue hbin =>
      have hart : e.isArtifact := by
        rw [Entry.isArtifact, hbin, Bool.and_true]
        exact decide_eq_true hpointer
      split
      · exact scanExisting_does hart ‹_›
      · exact scanNew_does hart ‹_›
    case isFalse hbin =>
      refine .passes ?_ ⟨rfl, rfl, rfl, rfl⟩
      rw [Entry.isArtifact, Bool.eq_false_iff.mpr hbin, Bool.and_false]

/-- **The run lemma.**  What one file keeps, of the files before it and of what they left, the scan
keeps. -/
theorem discover_invariant {I : List Entry → Scan Id → Prop}
    (hstep : ∀ pre st e st', e ∈ disk.entries → Does sha256 newId fault (existing rows) st e st' →
      I pre st → I (pre ++ [e]) st')
    (hstart : I [] ⟨rows, mirrors, {}⟩) :
    I disk.entries
      (discoverOnDiskReleases sha256 firmwarePublicBase newId fault disk rows mirrors) :=
  labels_invariant disk.entries (fun pre st e he => hstep pre st e _ he scanEntry_does) hstart

/-! ### What the scan leaves of a row -/

theorem refreshed_snoc (r : Release Id) : refreshed sha256 known (es ++ [e]) r =
    if hits sha256 known e (refreshed sha256 known es r) then
      { refreshed sha256 known es r with digest := digestOf sha256 e.bytes }
    else refreshed sha256 known es r := by
  rw [refreshed, List.foldl_append]
  rfl

/-- Only the digest changes. -/
theorem refreshed_eq (r : Release Id) : refreshed sha256 known es r =
    { r with digest := (refreshed sha256 known es r).digest } := by
  induction es using List.reverseRecOn with
  | nil => rfl
  | append_singleton es e ih =>
      rw [refreshed_snoc]
      split
      · rw [ih]
      · exact ih

@[simp] theorem refreshed_id (r : Release Id) : (refreshed sha256 known es r).id = r.id := by
  rw [refreshed_eq]

@[simp] theorem refreshed_key (r : Release Id) : (refreshed sha256 known es r).key = r.key := by
  rw [refreshed_eq]
  rfl

@[simp] theorem refreshed_filename (r : Release Id) :
    (refreshed sha256 known es r).filename = r.filename := by
  rw [refreshed_eq]

theorem hits_refreshed (r : Release Id) :
    hits sha256 known e (refreshed sha256 known es r) = hits sha256 known e r := by
  rw [hits, refreshed_id, hits]

theorem hits_iff {r : Release Id} : hits sha256 known e r ↔ e.isArtifact ∧
    ∃ k, known e.name = some k ∧ k.id = r.id ∧ digestOf sha256 e.bytes ≠ k.digest := by
  simp [hits, Option.any_eq_true]

/-- A row that no file is taken for is left alone. -/
theorem refreshed_of_no_hit {r : Release Id} (hno : ∀ e ∈ es, hits sha256 known e r = false) :
    refreshed sha256 known es r = r := by
  induction es using List.reverseRecOn with
  | nil => rfl
  | append_singleton es e ih =>
      rw [refreshed_snoc, hits_refreshed, hno e (by simp), if_neg nofun]
      exact ih fun e he => hno e (by simp [he])

/-- A row that a file is taken for has the digest of such a file. -/
theorem refreshed_of_hit {r : Release Id} (he : e ∈ es) (hit : hits sha256 known e r) :
    ∃ e ∈ es, hits sha256 known e r ∧
      (refreshed sha256 known es r).digest = digestOf sha256 e.bytes := by
  induction es using List.reverseRecOn with
  | nil => cases he
  | append_singleton es e' ih =>
      rw [refreshed_snoc, hits_refreshed]
      split
      · exact ⟨e', by simp, ‹_›, rfl⟩
      · have hmem : e ∈ es := by
          obtain hmem | rfl := mem_snoc.mp he
          · exact hmem
          · exact absurd hit ‹_›
        obtain ⟨e'', he'', hrest⟩ := ih hmem
        exact ⟨e'', by simp [he''], hrest⟩

theorem eq_of_hits (hids : Keyed Release.id rows) {r : Release Id} (hr : r ∈ rows)
    (hit : hits sha256 (existing rows) e r) :
    existing rows e.name = some r := by
  obtain ⟨-, k, hk, hid, -⟩ := hits_iff.mp hit
  rwa [← hids.eq (existing_mem hk) hr hid]

/-- A row that no file is taken for stays. -/
theorem refreshed_of_not_taken (hids : Keyed Release.id rows) {r : Release Id} (hr : r ∈ rows)
    (hnot : ¬ Taken disk rows r) :
    refreshed sha256 (existing rows) disk.entries r = r := by
  refine refreshed_of_no_hit fun e he => Bool.eq_false_iff.mpr fun hit => hnot ?_
  have hexisting := eq_of_hits hids hr hit
  have hname := existing_filename hexisting
  exact ⟨hname ▸ hexisting, e, he, (hits_iff.mp hit).1, hname.symm⟩

/-- A row that files of one digest are taken for has this digest. -/
theorem refreshed_of_taken (hids : Keyed Release.id rows) {r : Release Id}
    (hr : existing rows r.filename = some r)
    (huniform : ∀ e ∈ disk.entries, ∀ e' ∈ disk.entries, e.isArtifact → e'.name = e.name →
      digestOf sha256 e'.bytes = digestOf sha256 e.bytes)
    (he : e ∈ disk.entries) (hart : e.isArtifact) (hname : e.name = r.filename) :
    (refreshed sha256 (existing rows) disk.entries r).digest = digestOf sha256 e.bytes := by
  have hmem := existing_mem hr
  by_cases hit : ∃ e' ∈ disk.entries, hits sha256 (existing rows) e' r
  · obtain ⟨e', he', hit'⟩ := hit
    obtain ⟨e'', he'', hit'', hdigest⟩ := refreshed_of_hit he' hit'
    rw [hdigest]
    refine huniform e he e'' he'' hart ?_
    rw [hname, existing_filename (eq_of_hits hids hmem hit'')]
  · have hno : ∀ e' ∈ disk.entries, hits sha256 (existing rows) e' r = false :=
      fun e' he' => Bool.eq_false_iff.mpr fun hit' => hit ⟨e', he', hit'⟩
    rw [refreshed_of_no_hit hno]
    by_contra hne
    exact hit ⟨e, he, hits_iff.mpr ⟨hart, r, by rw [hname]; exact hr, rfl, fun heq => hne heq.symm⟩⟩

namespace Scanned

/-- Before the first file. -/
theorem of_nil : Scanned sha256 known rows [] rows [] where
  shape := by
    rw [List.append_nil]
    exact (List.map_id rows).symm
  news := nofun
  ids := nofun
  keys := nofun
  nodup := List.nodup_nil
  covered := nofun

/-- The files of the new rows, under one more. -/
theorem news_snoc (hs : Scanned sha256 known rows₀ pre rows new) :
    ∀ r ∈ new, ∃ e' ∈ pre ++ [e],
      e'.isArtifact ∧ known e'.name = none ∧ r = newRelease sha256 r.id e' := by
  intro r hr
  obtain ⟨e', he', hrest⟩ := hs.news r hr
  exact ⟨e', List.mem_append_left _ he', hrest⟩

/-- A file that changes no row. -/
theorem idle (hs : Scanned sha256 known rows₀ pre rows new)
    (hno : ∀ r, hits sha256 known e r = false)
    (hcovered : e.isArtifact → known e.name = none →
      (e.version, e.channel) ∈ rows.map Release.key) :
    Scanned sha256 known rows₀ (pre ++ [e]) rows new where
  shape := by
    rw [hs.shape]
    congr 1
    refine List.map_congr_left fun r _ => ?_
    rw [refreshed_snoc, hno, if_neg nofun]
  news := hs.news_snoc
  ids := hs.ids
  keys := hs.keys
  nodup := hs.nodup
  covered := by
    intro e' he' hart hno'
    obtain he' | rfl := mem_snoc.mp he'
    · exact hs.covered e' he' hart hno'
    · exact hcovered hart hno'

/-- A file that is taken for a row. -/
theorem update {r : Release Id} (hs : Scanned sha256 known rows₀ pre st.rows new)
    (hart : e.isArtifact) (hr : known e.name = some r) (hmem : r ∈ rows₀)
    (hne : digestOf sha256 e.bytes ≠ r.digest) :
    Scanned sha256 known rows₀ (pre ++ [e]) (st.update r e (digestOf sha256 e.bytes)).rows new where
  shape := by
    have hnew : amend Release.id r.id (fun r => { r with digest := digestOf sha256 e.bytes }) new =
        new := by
      rw [amend]
      refine (List.map_congr_left fun r' hr' => if_neg (hs.ids r' hr' r hmem)).trans (List.map_id _)
    rw [Scan.update_rows, hs.shape, amend, List.map_append, ← amend, ← amend, hnew, amend,
      List.map_map]
    congr 1
    refine List.map_congr_left fun r' _ => ?_
    have hhits : hits sha256 known e r' = decide (r'.id = r.id) := by
      rw [hits, hart, hr, Bool.true_and, Option.any_some, decide_eq_true hne, Bool.and_true]
      exact decide_eq_decide.mpr eq_comm
    simp only [refreshed_snoc, hits_refreshed, hhits, Function.comp_apply, refreshed_id,
      decide_eq_true_eq]
  news := hs.news_snoc
  ids := hs.ids
  keys := hs.keys
  nodup := hs.nodup
  covered := by
    intro e' he' hart hno'
    rw [Scan.update_keys]
    obtain he' | rfl := mem_snoc.mp he'
    · exact hs.covered e' he' hart hno'
    · rw [hr] at hno'
      cases hno'

/-- A file that gets a row. -/
theorem insert {id : Id} (hs : Scanned sha256 known rows₀ pre rows new) (hart : e.isArtifact)
    (hno : known e.name = none) (hid : id ∉ rows.map Release.id)
    (hkey : (e.version, e.channel) ∉ rows.map Release.key) :
    Scanned sha256 known rows₀ (pre ++ [e]) (rows ++ [newRelease sha256 id e])
      (new ++ [newRelease sha256 id e]) where
  shape := by
    have hnone : ∀ r, hits sha256 known e r = false := by
      intro r
      simp [hits, hno]
    rw [hs.shape, ← List.append_assoc]
    congr 2
    refine List.map_congr_left fun r _ => ?_
    rw [refreshed_snoc, hnone, if_neg nofun]
  news := by
    intro r hr
    obtain hr | rfl := mem_snoc.mp hr
    · exact hs.news_snoc r hr
    · exact ⟨e, by simp, hart, hno, rfl⟩
  ids := by
    intro r hr r₀ hr₀
    obtain hr | rfl := mem_snoc.mp hr
    · exact hs.ids r hr r₀ hr₀
    · rintro rfl
      exact hid (by simpa [hs.shape] using .inl ⟨r₀, hr₀, rfl⟩)
  keys := by
    intro r hr r₀ hr₀
    obtain hr | rfl := mem_snoc.mp hr
    · exact hs.keys r hr r₀ hr₀
    · intro heq
      exact hkey (by simpa [hs.shape] using .inl ⟨r₀, hr₀, heq.symm⟩)
  nodup := by
    rw [List.map_append]
    refine List.Nodup.append hs.nodup (List.nodup_singleton _) ?_
    rw [List.map_singleton, List.disjoint_singleton]
    intro hmem
    refine hkey ?_
    rw [hs.shape, List.map_append]
    exact List.mem_append_right _ hmem
  covered := by
    intro e' he' hart hno'
    rw [List.map_append]
    obtain he' | rfl := mem_snoc.mp he'
    · exact List.mem_append_left _ (hs.covered e' he' hart hno')
    · exact List.mem_append_right _ (List.mem_singleton_self _)

/-- **The rows after a scan without errors.** -/
theorem of_discover (hnew : ∀ rows : List (Release Id), newId rows ∉ rows.map Release.id)
    (herr : (discoverOnDiskReleases sha256 firmwarePublicBase newId fault disk rows
      mirrors).report.errors = []) :
    ∃ new, Scanned sha256 (existing rows) rows disk.entries
      (discoverOnDiskReleases sha256 firmwarePublicBase newId fault disk rows mirrors).rows
      new := by
  refine discover_invariant (I := fun pre st => st.report.errors = [] →
    ∃ new, Scanned sha256 (existing rows) rows pre st.rows new) ?_ (fun _ => ⟨[], of_nil⟩) herr
  intro pre st e st' _ hdoes ih herr
  cases hdoes with
  | passes hart hidle =>
      rw [hidle.errors] at herr
      obtain ⟨new, hs⟩ := ih herr
      rw [hidle.rows]
      exact ⟨new, hs.idle (by simp [hits, hart]) (by simp [hart])⟩
  | fails _ _ _ _ hfail => exact absurd herr hfail
  | agrees r hart hr heq hidle =>
      rw [hidle.errors] at herr
      obtain ⟨new, hs⟩ := ih herr
      rw [hidle.rows]
      exact ⟨new, hs.idle (by simp [hits, hr, heq]) (by simp [hr])⟩
  | gone r hart hr hgone hidle =>
      rw [hidle.errors] at herr
      obtain ⟨new, hs⟩ := ih herr
      refine absurd ?_ hgone
      rw [hs.shape, List.map_append, List.map_map]
      exact List.mem_append_left _ (List.mem_map.mpr ⟨r, existing_mem hr, refreshed_id r⟩)
  | updates r hart hr hne hmem =>
      obtain ⟨new, hs⟩ := ih herr
      exact ⟨new, hs.update hart hr (existing_mem hr) hne⟩
  | conflicts hart hno hconflict hidle =>
      rw [hidle.errors] at herr
      obtain ⟨new, hs⟩ := ih herr
      rw [hidle.rows]
      exact ⟨new, hs.idle (by simp [hits, hno]) fun _ _ => hconflict⟩
  | inserts hart hno hkey hrows _ herrors =>
      rw [herrors] at herr
      obtain ⟨new, hs⟩ := ih herr
      rw [hrows]
      exact ⟨_, hs.insert hart hno (hnew st.rows) hkey⟩

end Scanned

/-! ### A second scan -/

/-- A scan does nothing where each file is the one on record. -/
theorem discover_quiet (hknown : ∀ e ∈ disk.entries, e.isArtifact →
      ∃ r, existing rows e.name = some r ∧ digestOf sha256 e.bytes = r.digest) :
    (discoverOnDiskReleases sha256 firmwarePublicBase newId fault disk rows
        mirrors).report.discovered = [] ∧
      (discoverOnDiskReleases sha256 firmwarePublicBase newId fault disk rows
        mirrors).report.updated = [] := by
  refine discover_invariant
    (I := fun _ st => st.report.discovered = [] ∧ st.report.updated = []) ?_ ⟨rfl, rfl⟩
  intro pre st e st' he hdoes ⟨hdiscovered, hupdated⟩
  cases hdoes with
  | passes _ hidle | agrees _ _ _ _ hidle | gone _ _ _ _ hidle | conflicts _ _ _ hidle =>
      rw [hidle.discovered, hidle.updated]
      exact ⟨hdiscovered, hupdated⟩
  | fails _ _ hdisc hupd _ =>
      rw [hdisc, hupd]
      exact ⟨hdiscovered, hupdated⟩
  | updates r hart hr hne _ =>
      obtain ⟨r', hr', heq⟩ := hknown e he hart
      rw [hr] at hr'
      cases hr'
      exact absurd heq hne
  | inserts hart hno _ _ _ _ =>
      obtain ⟨r', hr', -⟩ := hknown e he hart
      rw [hno] at hr'
      cases hr'

/-- A scan updates a row whose file is not the one on record. -/
theorem discover_loud {r : Release Id} (he : e ∈ disk.entries) (hart : e.isArtifact)
    (hr : existing rows e.name = some r) (hne : digestOf sha256 e.bytes ≠ r.digest) :
    (discoverOnDiskReleases sha256 firmwarePublicBase newId (fun _ => none) disk rows
      mirrors).report.updated ≠ [] := by
  refine (discover_invariant (I := fun pre st =>
    r.id ∈ st.rows.map Release.id ∧ (e ∈ pre → st.report.updated ≠ [])) ?_
      ⟨List.mem_map_of_mem (existing_mem hr), nofun⟩).2 he
  intro pre st e' st' _ hdoes ⟨hid, hupdated⟩
  -- a file that changes nothing is another
  have hidle : e ≠ e' → Idle st st' →
      r.id ∈ st'.rows.map Release.id ∧ (e ∈ pre ++ [e'] → st'.report.updated ≠ []) := by
    intro hother hidle
    rw [hidle.rows, hidle.updated]
    exact ⟨hid, fun he => hupdated ((mem_snoc.mp he).resolve_right hother)⟩
  have hunknown : existing rows e'.name = none → e ≠ e' := by
    rintro hno rfl
    rw [hr] at hno
    cases hno
  cases hdoes with
  | passes hart' hsame =>
      refine hidle ?_ hsame
      rintro rfl
      rw [hart] at hart'
      cases hart'
  | fails hfault => exact absurd rfl hfault
  | agrees r' _ hr' heq hsame =>
      refine hidle ?_ hsame
      rintro rfl
      rw [hr] at hr'
      cases hr'
      exact hne heq
  | gone r' _ hr' hgone hsame =>
      refine hidle ?_ hsame
      rintro rfl
      rw [hr] at hr'
      cases hr'
      exact hgone hid
  | conflicts _ hno _ hsame => exact hidle (hunknown hno) hsame
  | updates r' =>
      refine ⟨?_, fun _ => List.append_ne_nil_of_right_ne_nil _ nofun⟩
      rw [Scan.update_ids]
      exact hid
  | inserts _ hno _ hrows hupd _ =>
      rw [hrows, hupd, List.map_append]
      exact ⟨List.mem_append_left _ hid,
        fun he => hupdated ((mem_snoc.mp he).resolve_right (hunknown hno))⟩

/-! ### The rows afterwards -/

section
variable (hs : Scanned sha256 (existing rows) rows disk.entries after new)
include hs

namespace Scanned

/-- The name of a new row is that of no row before. -/
theorem new_unknown {r : Release Id} (hr : r ∈ new) : ∀ r₀ ∈ rows, r₀.filename ≠ r.filename := by
  obtain ⟨e, -, -, hno, heq⟩ := hs.news r hr
  rw [heq]
  exact existing_eq_none.mp hno

/-- The row of a name that no row had before is new. -/
theorem mem_new {r : Release Id} (hr : r ∈ after) (hno : ∀ r₀ ∈ rows, r₀.filename ≠ r.filename) :
    r ∈ new := by
  rw [hs.shape] at hr
  obtain hr | hr := List.mem_append.mp hr
  · obtain ⟨r₀, hr₀, rfl⟩ := List.mem_map.mp hr
    exact absurd (refreshed_filename r₀).symm (hno r₀ hr₀)
  · exact hr

theorem refreshed_mem {r : Release Id} (hr : r ∈ rows) :
    refreshed sha256 (existing rows) disk.entries r ∈ after := by
  rw [hs.shape]
  exact List.mem_append_left _ (List.mem_map_of_mem hr)

theorem mem_cases {r : Release Id} (hr : r ∈ after) :
    (∃ r₀ ∈ rows, r = refreshed sha256 (existing rows) disk.entries r₀) ∨
      ∃ e ∈ disk.entries, e.isArtifact ∧ r ∈ new ∧ r = newRelease sha256 r.id e := by
  rw [hs.shape] at hr
  obtain hr | hr := List.mem_append.mp hr
  · obtain ⟨r₀, hr₀, rfl⟩ := List.mem_map.mp hr
    exact .inl ⟨r₀, hr₀, rfl⟩
  · obtain ⟨e, he, hart, -, heq⟩ := hs.news r hr
    exact .inr ⟨e, he, hart, hr, heq⟩

/-- The row of a file whose name no row had has the file's version. -/
theorem new_key {r : Release Id} (hr : r ∈ new) (hchannel : r.channel = e.channel)
    (hname : r.filename = e.name) : r.key = (e.version, e.channel) := by
  obtain ⟨e', -, -, -, heq⟩ := hs.news r hr
  rw [heq] at hchannel hname ⊢
  exact Prod.ext (congrArg₂ parseVersion hchannel hname) hchannel

/-- Each file has a row exactly where each had one or could have one. -/
theorem tracked_iff : (∀ e ∈ disk.entries, e.isArtifact →
      ∃ r ∈ after, r.channel = e.channel ∧ r.filename = e.name) ↔
    ∀ e ∈ disk.entries, e.isArtifact →
      (∃ r ∈ rows, r.channel = e.channel ∧ r.filename = e.name) ∨ Insertable disk rows e := by
  constructor
  · intro htracked e he hart
    obtain ⟨r, hr, hchannel, hname⟩ := htracked e he hart
    obtain ⟨r₀, hr₀, rfl⟩ | ⟨-, -, -, hmem, -⟩ := hs.mem_cases hr
    · rw [refreshed_eq] at hchannel hname
      exact .inl ⟨r₀, hr₀, hchannel, hname⟩
    · have hkey := hs.new_key hmem hchannel hname
      refine .inr ⟨hname ▸ hs.new_unknown hmem, fun r₀ hr₀ heq => ?_, ?_⟩
      · exact hs.keys r hmem r₀ hr₀ (hkey.trans heq.symm)
      · -- two new rows of one version and channel are one row
        intro e' he' hart' hchannel' hversion' hno'
        obtain ⟨r', hr', hchannel'', hname'⟩ := htracked e' he' hart'
        have hmem' := hs.mem_new hr' (hname' ▸ hno')
        have hkey' := hs.new_key hmem' hchannel'' hname'
        rw [hversion', hchannel', ← hkey] at hkey'
        rw [← hname', ← hname, List.inj_on_of_nodup_map hs.nodup hmem' hmem hkey']
  · intro htracked e he hart
    obtain ⟨r, hr, hchannel, hname⟩ | hins := htracked e he hart
    · exact ⟨_, hs.refreshed_mem hr, by rw [refreshed_eq]; exact hchannel,
        (refreshed_filename r).trans hname⟩
    · obtain ⟨r, hr, hkey⟩ := List.mem_map.mp
        (hs.covered e he hart (existing_eq_none.mpr hins.name))
      obtain ⟨r₀, hr₀, rfl⟩ | ⟨e', he', hart', hmem, heq⟩ := hs.mem_cases hr
      · exact absurd ((refreshed_key r₀).symm.trans hkey) (hins.version r₀ hr₀)
      · have hno := hs.new_unknown hmem
        rw [heq] at hkey hno
        obtain ⟨hversion, hchannel⟩ := Prod.mk.inj hkey
        refine ⟨r, hr, by rw [heq]; exact hchannel, ?_⟩
        rw [heq]
        exact hins.only e' he' hart' hchannel hversion hno

end Scanned

end

/-! ### A faithful scan -/

section
variable {after : Scan Id}

/-- After a faithful scan, each file is the one on record. -/
theorem Faithful.on_record (hf : Faithful sha256 firmwarePublicBase newId disk rows after)
    (he : e ∈ disk.entries) (hart : e.isArtifact) :
    ∃ r, existing after.rows e.name = some r ∧ digestOf sha256 e.bytes = r.digest := by
  obtain ⟨r, hr, -, hname⟩ := hf.tracked e he hart
  cases hex : existing after.rows e.name with
  | none => exact absurd hname (existing_eq_none.mp hex r hr)
  | some r =>
      refine ⟨r, rfl, by_contra fun hne => ?_⟩
      exact discover_loud he hart hex hne (hf.idempotent fun _ => none).2

/-- So files of one name have one digest. -/
theorem Faithful.uniform (hf : Faithful sha256 firmwarePublicBase newId disk rows after) :
    ∀ e ∈ disk.entries, ∀ e' ∈ disk.entries, e.isArtifact → e'.name = e.name →
      digestOf sha256 e'.bytes = digestOf sha256 e.bytes := by
  intro e he e' he' hart hname
  obtain ⟨r, hr, hdigest⟩ := hf.on_record he hart
  obtain ⟨r', hr', hdigest'⟩ := hf.on_record he' (by rwa [Entry.isArtifact_congr hname])
  rw [hname, hr] at hr'
  cases hr'
  rw [hdigest, hdigest']

/-- A row that a file is taken for has what it recorded, or what a file of its own has. -/
theorem own_of_taken (hids : Keyed Release.id rows) (hd : Discoverable sha256 disk rows)
    {r : Release Id} (hr : r ∈ rows) (htaken : Taken disk rows r) :
    (refreshed sha256 (existing rows) disk.entries r).digest = r.digest ∨
      ∃ bytes, (disk.bytesAt r.downloadUrl = some bytes ∨
        ⟨r.channel, r.filename, bytes⟩ ∈ disk.entries) ∧
        (refreshed sha256 (existing rows) disk.entries r).digest = digestOf sha256 bytes := by
  obtain ⟨hex, e, he, hart, hname⟩ := htaken
  rw [refreshed_of_taken hids hex hd.uniform he hart hname]
  cases hbytes : disk.bytesAt r.downloadUrl with
  | some bytes =>
      exact .inr ⟨bytes, .inl rfl, hd.pointed r hr bytes hbytes hex e he hart hname⟩
  | none =>
      by_cases hown : ∃ e' ∈ disk.entries, e'.channel = r.channel ∧ e'.name = r.filename
      · obtain ⟨e', he', hchannel, hname'⟩ := hown
        refine .inr ⟨e'.bytes, .inr (by rwa [← hchannel, ← hname']), ?_⟩
        exact (hd.uniform e he e' he' hart (hname'.trans hname.symm)).symm
      · refine .inl (hd.gone r hr hex hbytes ?_ e he hart hname).symm
        exact fun e' he' hchannel hname' => hown ⟨e', he', hchannel, hname'⟩

namespace Scanned
variable (hs : Scanned sha256 (existing rows) rows disk.entries after.rows new)
  (hids : Keyed Release.id rows)
include hs hids

theorem discoverable (hf : Faithful sha256 firmwarePublicBase newId disk rows after) :
    Discoverable sha256 disk rows where
  tracked := hs.tracked_iff.mp hf.tracked
  uniform := hf.uniform
  left := by
    intro r hr bytes hbytes hnot
    have hmem := hs.refreshed_mem hr
    rw [refreshed_of_not_taken hids hr hnot] at hmem
    exact hf.recorded r hmem bytes hbytes
  pointed := by
    intro r hr bytes hbytes hex e he hart hname
    rw [← refreshed_of_taken hids hex hf.uniform he hart hname]
    refine hf.recorded _ (hs.refreshed_mem hr) bytes ?_
    rw [refreshed_eq]
    exact hbytes
  gone := by
    intro r hr hex hnone hno e he hart hname
    have hdigest := refreshed_of_taken hids hex hf.uniform he hart hname
    obtain ⟨r₀, hr₀, hid, heq⟩ | ⟨bytes, hown, -⟩ := hf.own _ (hs.refreshed_mem hr)
    · rw [refreshed_id] at hid
      rw [← hdigest, ← heq, hids.eq hr₀ hr hid]
    · rw [refreshed_eq] at hown
      obtain hown | hown := hown
      · rw [hnone] at hown
        cases hown
      · exact absurd rfl (hno _ hown rfl)

/-- A row of the scan records the file it points to. -/
theorem recorded (hd : Discoverable sha256 disk rows) {r : Release Id} (hr : r ∈ after.rows)
    {bytes : Bytes} (hbytes : disk.bytesAt r.downloadUrl = some bytes) :
    r.digest = digestOf sha256 bytes := by
  obtain ⟨r₀, hr₀, rfl⟩ | ⟨e, he, -, -, heq⟩ := hs.mem_cases hr
  · have hbytes₀ : disk.bytesAt r₀.downloadUrl = some bytes := by
      rw [refreshed_eq] at hbytes
      exact hbytes
    by_cases htaken : Taken disk rows r₀
    · obtain ⟨hex, e, he, hart, hname⟩ := htaken
      rw [refreshed_of_taken hids hex hd.uniform he hart hname]
      exact hd.pointed r₀ hr₀ bytes hbytes₀ hex e he hart hname
    · rw [refreshed_of_not_taken hids hr₀ htaken]
      exact hd.left r₀ hr₀ bytes hbytes₀ htaken
  · rw [heq] at hbytes ⊢
    have hsame := (Disk.bytesAt_location he).symm.trans hbytes
    rw [Option.some.inj hsame.symm]
    rfl

/-- After the scan each file is the one on record. -/
theorem on_record (hd : Discoverable sha256 disk rows) (he : e ∈ disk.entries)
    (hart : e.isArtifact) :
    ∃ r, existing after.rows e.name = some r ∧ digestOf sha256 e.bytes = r.digest := by
  rw [hs.shape, existing_append]
  cases hexnew : existing new e.name with
  | some r =>
      obtain ⟨e', he', -, -, heq⟩ := hs.news r (existing_mem hexnew)
      refine ⟨r, rfl, ?_⟩
      have hname : e'.name = e.name := by
        rw [← existing_filename hexnew, heq]
        rfl
      rw [heq]
      exact (hd.uniform e he e' he' hart hname).symm
  | none =>
      rw [Option.none_or, existing_map refreshed_filename]
      cases hex : existing rows e.name with
      | some r =>
          have hname := existing_filename hex
          exact ⟨_, rfl,
            (refreshed_of_taken hids (by rwa [hname]) hd.uniform he hart hname.symm).symm⟩
      | none =>
          obtain ⟨r, hr, -, hname⟩ := hs.tracked_iff.mpr hd.tracked e he hart
          have hmem := hs.mem_new hr (hname ▸ existing_eq_none.mp hex)
          exact absurd hname (existing_eq_none.mp hexnew r hmem)

theorem faithful (hd : Discoverable sha256 disk rows) :
    Faithful sha256 firmwarePublicBase newId disk rows after where
  tracked := hs.tracked_iff.mpr hd.tracked
  recorded := fun _ hr _ hbytes => hs.recorded hids hd hr hbytes
  own := by
    intro r hr
    obtain ⟨r₀, hr₀, rfl⟩ | ⟨e, he, -, -, heq⟩ := hs.mem_cases hr
    · by_cases htaken : Taken disk rows r₀
      · obtain hsame | ⟨bytes, hown, hdigest⟩ := own_of_taken hids hd hr₀ htaken
        · exact .inl ⟨r₀, hr₀, (refreshed_id r₀).symm, hsame.symm⟩
        · refine .inr ⟨bytes, ?_, hdigest⟩
          rw [refreshed_eq]
          exact hown
      · refine .inl ⟨r₀, hr₀, (refreshed_id r₀).symm, ?_⟩
        rw [refreshed_of_not_taken hids hr₀ htaken]
    · refine .inr ⟨e.bytes, .inl ?_, ?_⟩
      · rw [heq]
        exact Disk.bytesAt_location he
      · rw [heq]
        rfl
  idempotent := fun _ => discover_quiet fun _ he hart => hs.on_record hids hd he hart

end Scanned

end

/-- Where nothing is raised, there are no errors. -/
theorem discover_errors : (discoverOnDiskReleases sha256 firmwarePublicBase newId (fun _ => none)
    disk rows mirrors).report.errors = [] := by
  refine discover_invariant (I := fun _ st => st.report.errors = []) ?_ rfl
  intro pre st e st' _ hdoes herr
  cases hdoes with
  | passes _ hidle | agrees _ _ _ _ hidle | gone _ _ _ _ hidle | conflicts _ _ _ hidle =>
      exact hidle.errors.trans herr
  | fails hfault => exact absurd rfl hfault
  | updates => exact herr
  | inserts _ _ _ _ _ herrors => exact herrors.trans herr

/-- **A scan is faithful** exactly when each file has its row or can have one, files of one name
have one digest, the rows that the scan leaves alone record the files they point to, and a file
that it takes for a row's is as the row's own, or as the row records it where that is gone. -/
theorem discovery_faithful_iff (sha256 : Bytes → String) (firmwarePublicBase : String)
    (newId : List (Release Id) → Id) (fault : Entry → Option Fault) (disk : Disk)
    (rows : List (Release Id)) (mirrors : List (Mirror Id))
    (hnew : ∀ rows : List (Release Id), newId rows ∉ rows.map Release.id)
    (hids : Keyed Release.id rows)
    (herr : (discoverOnDiskReleases sha256 firmwarePublicBase newId fault disk rows
      mirrors).report.errors = []) :
    Faithful sha256 firmwarePublicBase newId disk rows
        (discoverOnDiskReleases sha256 firmwarePublicBase newId fault disk rows mirrors) ↔
      Discoverable sha256 disk rows := by
  obtain ⟨new, hs⟩ := Scanned.of_discover hnew herr
  exact ⟨hs.discoverable hids, hs.faithful hids⟩

end

end

/-! ### A file in two channels -/

namespace Discovery

/-- A digest that tells the files below apart. -/
def spelled (bytes : Bytes) : String := String.ofList (bytes.map fun b => Char.ofNat b.toNat)

/-- A number that no row has. -/
def nextId (rows : List (Release Nat)) : Nat := rows.foldr (fun r n => max (r.id + 1) n) 0

theorem lt_nextId {rows : List (Release Nat)} {r : Release Nat} (hr : r ∈ rows) :
    r.id < nextId rows := by
  induction rows with
  | nil => cases hr
  | cons a rows ih =>
      rw [nextId, List.foldr_cons]
      obtain rfl | hr := List.mem_cons.mp hr
      · exact Nat.le_max_left ..
      · exact (ih hr).trans_le (Nat.le_max_right ..)

theorem nextId_fresh (rows : List (Release Nat)) : nextId rows ∉ rows.map Release.id := by
  intro hmem
  obtain ⟨r, hr, hid⟩ := List.mem_map.mp hmem
  exact absurd (lt_nextId hr) (by rw [hid]; exact lt_irrefl _)

/-- `app.bin` in the folder `dev`. -/
def oneFile : Disk where
  flat := []
  folder := fun channel => if channel = "dev" then [("app.bin", [1])] else []
  nodup := by
    intro channel
    split <;> decide

/-- `app.bin` in the folders `dev` and `stable`, with different contents. -/
def twoFiles : Disk where
  flat := []
  folder := fun channel =>
    if channel = "dev" then [("app.bin", [1])]
    else if channel = "stable" then [("app.bin", [2])]
    else []
  nodup := by
    intro channel
    split
    · decide
    · split <;> decide

theorem entries_oneFile : oneFile.entries = [⟨"dev", "app.bin", [1]⟩] := by
  simp [Disk.entries, Disk.listing, oneFile, allowedChannels]

theorem entries_twoFiles :
    twoFiles.entries = [⟨"dev", "app.bin", [1]⟩, ⟨"stable", "app.bin", [2]⟩] := by
  simp [Disk.entries, Disk.listing, twoFiles, allowedChannels]

end Discovery

open Discovery

/-- A file of a new name in one channel. -/
theorem discovery_faithful_one :
    Faithful spelled "https://hub/firmware" nextId oneFile []
      (discoverOnDiskReleases spelled "https://hub/firmware" nextId (fun _ => none) oneFile []
        []) := by
  have hids : Keyed Release.id ([] : List (Release Nat)) := List.nodup_nil
  refine (discovery_faithful_iff _ _ _ _ _ _ _ nextId_fresh hids discover_errors).mpr ?_
  exact {
    tracked := by
      intro e he _
      exact .inr ⟨nofun, nofun, fun e' he' _ _ _ _ => by
        rw [entries_oneFile] at he he'
        rw [List.mem_singleton.mp he, List.mem_singleton.mp he']⟩
    uniform := by
      intro e he e' he' _ _
      rw [entries_oneFile] at he he'
      rw [List.mem_singleton.mp he, List.mem_singleton.mp he']
    left := nofun
    pointed := nofun
    gone := nofun }

/-- **A second scan gives a row the digest of another channel's file.** -/
theorem discovery_unfaithful :
    let after := discoverOnDiskReleases spelled "https://hub/firmware" nextId (fun _ => none)
      twoFiles [] []
    after.report.errors = [] ∧
      ¬ Faithful spelled "https://hub/firmware" nextId twoFiles [] after := by
  refine ⟨discover_errors, fun hf => ?_⟩
  have hsame := hf.uniform ⟨"dev", "app.bin", [1]⟩ (by rw [entries_twoFiles]; simp)
    ⟨"stable", "app.bin", [2]⟩ (by rw [entries_twoFiles]; simp) (by decide) rfl
  exact absurd (congrArg Digest.sha256 hsame) (by decide)

end RebooterHub.Firmware
