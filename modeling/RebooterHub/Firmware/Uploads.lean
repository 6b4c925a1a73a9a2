import Mathlib.Logic.Function.Basic
import RebooterHub.Firmware.Filenames
import RebooterHub.Support.Runs

/-!
# Firmware — Uploads

Uploads of releases that run side by side.  `upload_release` is cut into its steps: the file is
staged, its name is looked up, it is moved into place, the folder of its channel is made, the copy
is published, the row is inserted, and what went wrong is cleaned up after.  A step may raise.

A file and a row carry the upload that made them; no step reads that.

* `uploads_consistent`: while a name that was free is still free when the file is moved there,
  nothing but the insert raises after that, and the clean-up finds no other upload's copy, what is
  recorded is on the disk and a failed upload leaves nothing.
* `uploads_inconsistent`: two uploads of one release, and one whose insert fails.
-/

namespace RebooterHub.Firmware
open Runs Function

/-- The contents of a file. -/
abbrev Bytes := List UInt8

/-- The arguments of `upload_release`. -/
structure Upload where
  body : Bytes
  version : String
  channel : String
  expectedSha256 : Option String

/-- A file, and the upload that wrote it. -/
structure File (ι : Type*) where
  bytes : Bytes
  writer : Option ι
deriving DecidableEq

/-- A row of `firmware_releases`, and the upload that inserted it. -/
structure ReleaseRow (ι : Type*) where
  version : String
  channel : String
  filename : String
  sha256 : String
  sizeBytes : Nat
  insertedBy : Option ι

/-- What `upload_release` raises. -/
inductive UploadError where
  | value (message : String)
  /-- An exception of the file system or of the database. -/
  | raised
deriving DecidableEq, Repr

/-- How far an upload is. -/
inductive Stage where
  | start
  | staged
  | checked
  | moved
  | opened
  /-- The copy is published, or that has failed. -/
  | published (copied : Bool)
  /-- The staged file is deleted. -/
  | discarding (e : UploadError)
  /-- The clean-up after an `IntegrityError`: the file, and the copy. -/
  | unlinking
  | unlinkingCopy
  | succeeded (copied : Bool)
  | failed (e : UploadError)
deriving DecidableEq, Repr

/-- How a step ends. -/
inductive Outcome where
  | done
  /-- An exception, and what was written to the file before it. -/
  | raises (written : Option Bytes)
  /-- The database's `IntegrityError`. -/
  | integrity
deriving DecidableEq, Repr

/-- A step of one of the uploads. -/
structure Event (ι : Type*) where
  upload : ι
  outcome : Outcome

/-- The firmware folder with the files that are being staged, the folders of the channels, the
table, and the uploads. -/
structure Hub (ι : Type*) where
  tmp : ι → Option Bytes
  flat : String → Option (File ι)
  perChannel : String × String → Option (File ι)
  rows : List (ReleaseRow ι)
  stage : ι → Stage

namespace Upload

/-- `version.strip()`. -/
def stripped (u : Upload) : String := Text.stripped u.version

/-- `final_name`. -/
def finalName (u : Upload) : String := filename u.stripped u.channel

/-- The place of the copy in the folders of the channels. -/
def copyPath (u : Upload) : String × String := (u.channel, u.finalName)

/-- `firmware {final_name} already exists; bump version or delete first` -/
def taken (u : Upload) : UploadError :=
  .value ("firmware " ++ u.finalName ++ " already exists; bump version or delete first")

/-- The checks of the arguments. -/
def checkArguments (u : Upload) : Except UploadError Unit :=
  if u.channel ∉ allowedChannels then
    .error (.value "channel must be one of ('dev', 'beta', 'stable')")
  else if u.stripped = "" then .error (.value "version is required")
  else .ok ()

/-- The checks of the staged file. -/
def checkStaged (sha256 : Bytes → String) (u : Upload) : Except UploadError Unit :=
  let expected := String.ofList (Text.lower (u.expectedSha256.getD "").toList)
  if u.expectedSha256.any (· ≠ "") ∧ expected ≠ sha256 u.body then
    .error (.value ("sha256 mismatch: expected " ++ expected ++ ", got " ++ sha256 u.body))
  else if u.body = [] then .error (.value "uploaded firmware is empty (0 bytes)")
  else .ok ()

/-- The row of the release. -/
def row {ι : Type*} (sha256 : Bytes → String) (u : Upload) (i : ι) : ReleaseRow ι where
  version := u.stripped
  channel := u.channel
  filename := u.finalName
  sha256 := sha256 u.body
  sizeBytes := u.body.length
  insertedBy := some i

end Upload

namespace Hub
variable {ι : Type*} [DecidableEq ι]

/-- The upload goes on. -/
def go (h : Hub ι) (i : ι) (stage : Stage) : Hub ι :=
  { h with stage := Function.update h.stage i stage }

/-- The file that is staged. -/
def setTmp (h : Hub ι) (i : ι) (bytes : Option Bytes) : Hub ι :=
  { h with tmp := Function.update h.tmp i bytes }

/-- A file of the firmware folder is written or deleted. -/
def setFlat (h : Hub ι) (name : String) (file : Option (File ι)) : Hub ι :=
  { h with flat := Function.update h.flat name file }

/-- A file of a channel's folder is written or deleted. -/
def setCopy (h : Hub ι) (path : String × String) (file : Option (File ι)) : Hub ι :=
  { h with perChannel := Function.update h.perChannel path file }

/-- A row is inserted. -/
def addRow (h : Hub ι) (row : ReleaseRow ι) : Hub ι :=
  { h with rows := h.rows ++ [row] }

section
variable (h : Hub ι) (i : ι)

@[simp] theorem go_tmp (st : Stage) : (h.go i st).tmp = h.tmp := rfl
@[simp] theorem go_flat (st : Stage) : (h.go i st).flat = h.flat := rfl
@[simp] theorem go_perChannel (st : Stage) : (h.go i st).perChannel = h.perChannel := rfl
@[simp] theorem go_rows (st : Stage) : (h.go i st).rows = h.rows := rfl
@[simp] theorem go_stage (st : Stage) : (h.go i st).stage = update h.stage i st := rfl

@[simp] theorem setTmp_tmp (bytes : Option Bytes) :
    (h.setTmp i bytes).tmp = update h.tmp i bytes := rfl
@[simp] theorem setTmp_flat (bytes : Option Bytes) : (h.setTmp i bytes).flat = h.flat := rfl
@[simp] theorem setTmp_stage (bytes : Option Bytes) : (h.setTmp i bytes).stage = h.stage := rfl

end

section
variable {ι : Type*} (h : Hub ι) (file : Option (File ι))

@[simp] theorem setFlat_tmp (name : String) : (h.setFlat name file).tmp = h.tmp := rfl
@[simp] theorem setFlat_flat (name : String) :
    (h.setFlat name file).flat = update h.flat name file := rfl
@[simp] theorem setFlat_stage (name : String) : (h.setFlat name file).stage = h.stage := rfl

@[simp] theorem setCopy_tmp (path : String × String) : (h.setCopy path file).tmp = h.tmp := rfl
@[simp] theorem setCopy_perChannel (path : String × String) :
    (h.setCopy path file).perChannel = update h.perChannel path file := rfl
@[simp] theorem setCopy_stage (path : String × String) :
    (h.setCopy path file).stage = h.stage := rfl

end

/-- The next step of an upload. -/
def step (sha256 : Bytes → String) (U : ι → Upload) (h : Hub ι) (e : Event ι) : Hub ι :=
  let i := e.upload
  let u := U i
  match h.stage i with
  | .start =>
    match u.checkArguments with
    | .error e => h.go i (.failed e)
    | .ok () =>
      match e.outcome with
      | .done =>
        match u.checkStaged sha256 with
        | .ok () => (h.setTmp i (some u.body)).go i .staged
        | .error e => (h.setTmp i (some u.body)).go i (.discarding e)
      | .raises written => (h.setTmp i written).go i (.discarding .raised)
      | .integrity => h.go i (.failed .raised)
  | .staged =>
    match e.outcome with
    | .done => h.go i (if (h.flat u.finalName).isSome then .discarding u.taken else .checked)
    | _ => h.go i (.discarding .raised)
  | .checked =>
    match e.outcome with
    | .done =>
      ((h.setFlat u.finalName ((h.tmp i).map fun bytes => ⟨bytes, some i⟩)).setTmp i none).go i
        .moved
    | _ => h.go i (.discarding .raised)
  | .discarding error =>
    match e.outcome with
    | .done => (h.setTmp i none).go i (.failed error)
    | _ => h.go i (.failed .raised)
  | .moved =>
    match e.outcome with
    | .done => h.go i .opened
    | _ => h.go i (.failed .raised)
  | .opened =>
    match e.outcome, h.flat u.finalName with
    | .done, some file =>
      (h.setCopy u.copyPath (some ⟨file.bytes, some i⟩)).go i (.published true)
    | .raises (some bytes), _ =>
      (h.setCopy u.copyPath (some ⟨bytes, some i⟩)).go i (.published false)
    | _, _ => h.go i (.published false)
  | .published copied =>
    match e.outcome with
    | .done =>
      if h.rows.any fun r => r.version = u.stripped && r.channel = u.channel then h.go i .unlinking
      else (h.addRow (u.row sha256 i)).go i (.succeeded copied)
    | .integrity => h.go i .unlinking
    | .raises _ => h.go i (.failed .raised)
  | .unlinking =>
    match e.outcome with
    | .done => (h.setFlat u.finalName none).go i .unlinkingCopy
    | _ => h.go i .unlinkingCopy
  | .unlinkingCopy =>
    match e.outcome with
    | .done => (h.setCopy u.copyPath none).go i (.failed u.taken)
    | _ => h.go i (.failed u.taken)
  | .succeeded _ | .failed _ => h

end Hub

/-! ### What an upload has -/

namespace Stage

/-- The staged file is complete. -/
def hasTmp : Stage → Bool
  | .staged | .checked => true
  | _ => false

/-- There may be a staged file. -/
def mayTmp : Stage → Bool
  | .staged | .checked | .discarding _ => true
  | _ => false

/-- The file is in place. -/
def hasFile : Stage → Bool
  | .moved | .opened | .published _ | .succeeded _ | .unlinking => true
  | _ => false

/-- The copy is published. -/
def hasCopy : Stage → Bool
  | .published true | .succeeded true => true
  | _ => false

/-- There may be a copy. -/
def mayCopy : Stage → Bool
  | .published _ | .succeeded _ | .unlinking | .unlinkingCopy => true
  | _ => false

/-- The row is inserted. -/
def hasRow : Stage → Bool
  | .succeeded _ => true
  | _ => false

/-- The upload is over. -/
def ended : Stage → Bool
  | .succeeded _ | .failed _ => true
  | _ => false

/-- A copy is of a file in place. -/
theorem hasFile_of_hasCopy {st : Stage} (hcopy : st.hasCopy) : st.hasFile := by
  cases st <;> first | rfl | cases hcopy

end Stage

section
variable {ι : Type*} (sha256 : Bytes → String) (U : ι → Upload)

/-- The row's file is in the firmware folder, as it was recorded. -/
def Recorded (h : Hub ι) (r : ReleaseRow ι) : Prop :=
  ∃ f, h.flat r.filename = some f ∧ sha256 f.bytes = r.sha256 ∧ f.bytes.length = r.sizeBytes ∧
    f.writer = r.insertedBy

/-- Nothing has been uploaded yet, and what is recorded is on the disk. -/
structure Start (h : Hub ι) : Prop where
  stage : ∀ i, h.stage i = .start
  tmp : ∀ i, h.tmp i = none
  recorded : ∀ r ∈ h.rows, Recorded sha256 h r
  flat : ∀ name f, h.flat name = some f → f.writer = none
  perChannel : ∀ path f, h.perChannel path = some f → f.writer = none

/-- What an upload has at a stage, and no more. -/
structure Own (h : Hub ι) (i : ι) (st : Stage) : Prop where
  tmpOf : (h.tmp i).isSome → st.mayTmp
  staged : st.hasTmp → h.tmp i = some (U i).body
  fileOf : ∀ name f, h.flat name = some f → f.writer = some i →
    name = (U i).finalName ∧ st.hasFile
  inPlace : st.hasFile → h.flat (U i).finalName = some ⟨(U i).body, some i⟩
  copyOf : ∀ path f, h.perChannel path = some f → f.writer = some i →
    path = (U i).copyPath ∧ st.mayCopy
  copied : st.hasCopy → h.perChannel (U i).copyPath = some ⟨(U i).body, some i⟩
  rowOf : ∀ r ∈ h.rows, r.insertedBy = some i → st.hasRow
  hasRow : st.hasRow → (U i).row sha256 i ∈ h.rows

/-- What holds between the steps of the uploads. -/
structure Sound (h₀ h : Hub ι) : Prop where
  own : ∀ i, Own sha256 U h i (h.stage i)
  recorded : ∀ r ∈ h.rows, Recorded sha256 h r
  kept : ∀ name f, h₀.flat name = some f → h.flat name = some f
  keptRows : h₀.rows <+: h.rows

/-- The step does not reach for what is another's: a name that is moved to is still free, nothing
but the insert's `IntegrityError` comes between the move and the end, and the clean-up runs
through and finds no other upload's copy. -/
structure Safe (h : Hub ι) (e : Event ι) : Prop where
  free : h.stage e.upload = .checked → e.outcome = .done → h.flat (U e.upload).finalName = none
  opened : h.stage e.upload = .moved → e.outcome = .done
  inserted : ∀ copied written, h.stage e.upload = .published copied → e.outcome ≠ .raises written
  discarded : ∀ error, h.stage e.upload = .discarding error → e.outcome = .done
  unlinked : h.stage e.upload = .unlinking → e.outcome = .done
  unlinkedCopy : h.stage e.upload = .unlinkingCopy → e.outcome = .done ∧
    ∀ f i, h.perChannel (U e.upload).copyPath = some f → f.writer = some i → i = e.upload

end

section
variable {ι : Type*} (sha256 : Bytes → String) (U : ι → Upload)

/-- Nothing that the upload made is left. -/
structure Traceless (h : Hub ι) (i : ι) : Prop where
  tmp : h.tmp i = none
  flat : ∀ name f, h.flat name = some f → f.writer ≠ some i
  perChannel : ∀ path f, h.perChannel path = some f → f.writer ≠ some i
  rows : ∀ r ∈ h.rows, r.insertedBy ≠ some i

/-- What is recorded is on the disk, an upload that failed has left nothing, one that succeeded
still has its files and its row, and what was there before is there. -/
structure Consistent (h₀ h : Hub ι) : Prop where
  recorded : ∀ r ∈ h.rows, Recorded sha256 h r
  failed : ∀ i e, h.stage i = .failed e → Traceless h i
  succeeded : ∀ i copied, h.stage i = .succeeded copied →
    h.flat (U i).finalName = some ⟨(U i).body, some i⟩ ∧
      (copied → h.perChannel (U i).copyPath = some ⟨(U i).body, some i⟩) ∧
      (U i).row sha256 i ∈ h.rows
  kept : ∀ name f, h₀.flat name = some f → h.flat name = some f
  keptRows : h₀.rows <+: h.rows

end

/-- Where nothing is raised, a step is safe that moves to a free name and deletes no copy. -/
theorem Safe.of_done {ι : Type*} {U : ι → Upload} {h : Hub ι} {e : Event ι}
    (hdone : e.outcome = .done)
    (hfree : h.stage e.upload = .checked → h.flat (U e.upload).finalName = none)
    (hcopy : h.stage e.upload ≠ .unlinkingCopy) : Safe U h e where
  free := fun hst _ => hfree hst
  opened := fun _ => hdone
  inserted := by
    intro copied written _ hraises
    rw [hdone] at hraises
    cases hraises
  discarded := fun _ _ => hdone
  unlinked := fun _ => hdone
  unlinkedCopy := fun hst => absurd hst hcopy

/-- What a stage says of an upload's files and row, the next stage says. -/
structure Stage.Goes (st st' : Stage) : Prop where
  hasFile : st'.hasFile = st.hasFile
  mayCopy : st.mayCopy → st'.mayCopy
  hasCopy : st'.hasCopy → st.hasCopy
  hasRow : st'.hasRow = st.hasRow

section
variable {ι : Type*} {sha256 : Bytes → String} {U : ι → Upload} {h₀ h h' : Hub ι} {i j : ι}
  {st st' : Stage}

theorem Own.of_start (hstart : Start sha256 h) (i : ι) : Own sha256 U h i .start where
  tmpOf := fun hi => by simp [hstart.tmp i] at hi
  staged := nofun
  fileOf := fun name f hf hi => by simp [hstart.flat name f hf] at hi
  inPlace := nofun
  copyOf := fun path f hf hi => by simp [hstart.perChannel path f hf] at hi
  copied := nofun
  rowOf := by
    intro r hr hi
    obtain ⟨f, hf, -, -, hwriter⟩ := hstart.recorded r hr
    simp [hi, hstart.flat _ f hf] at hwriter
  hasRow := nofun

/-- A step that changes the staged file at most. -/
theorem Own.goes [DecidableEq ι] (ho : Own sha256 U h i st) (hgoes : st.Goes st')
    {bytes : Option Bytes} (hmay : bytes.isSome → st'.mayTmp)
    (hhas : st'.hasTmp → bytes = some (U i).body) :
    Own sha256 U (h.setTmp i bytes) i st' where
  tmpOf := by simpa using hmay
  staged := by simpa using hhas
  fileOf := by
    rw [hgoes.hasFile]
    exact ho.fileOf
  inPlace := by
    rw [hgoes.hasFile]
    exact ho.inPlace
  copyOf := fun path f hf hi => (ho.copyOf path f hf hi).imp_right hgoes.mayCopy
  copied := fun hcopy => ho.copied (hgoes.hasCopy hcopy)
  rowOf := by
    rw [hgoes.hasRow]
    exact ho.rowOf
  hasRow := by
    rw [hgoes.hasRow]
    exact ho.hasRow

/-- What is staged for one upload is nothing to the others. -/
theorem Own.setTmp [DecidableEq ι] (ho : Own sha256 U h j st) (hne : j ≠ i)
    (bytes : Option Bytes) : Own sha256 U (h.setTmp i bytes) j st :=
  { ho with
    tmpOf := by simpa [hne] using ho.tmpOf
    staged := by simpa [hne] using ho.staged }

/-- A file of the upload that is there after a write or a deletion by another was there before. -/
theorem File.of_update {κ : Type*} [DecidableEq κ] {files : κ → Option (File ι)} {k k' : κ}
    {file : Option (File ι)} {f : File ι} (hfile : ∀ f, file = some f → f.writer ≠ some j)
    (hf : update files k file k' = some f) (hwriter : f.writer = some j) : files k' = some f := by
  by_cases hk : k' = k
  · rw [hk, update_self] at hf
    exact absurd hwriter (hfile f hf)
  · rwa [update_of_ne hk] at hf

/-- What others write to the firmware folder, or delete there, is nothing to an upload whose file
has another name. -/
theorem Own.setFlat [DecidableEq ι] {name : String} {file : Option (File ι)}
    (ho : Own sha256 U h j st) (hfile : ∀ f, file = some f → f.writer ≠ some j)
    (hname : st.hasFile → (U j).finalName ≠ name) : Own sha256 U (h.setFlat name file) j st :=
  { ho with
    fileOf := fun name' f hf hwriter =>
      ho.fileOf name' f (File.of_update hfile hf hwriter) hwriter
    inPlace := fun hst => by simpa [hname hst] using ho.inPlace hst }

@[inherit_doc Own.setFlat]
theorem Own.setCopy [DecidableEq ι] {path : String × String} {file : Option (File ι)}
    (ho : Own sha256 U h j st) (hfile : ∀ f, file = some f → f.writer ≠ some j)
    (hpath : st.hasCopy → (U j).copyPath ≠ path) : Own sha256 U (h.setCopy path file) j st :=
  { ho with
    copyOf := fun path' f hf hwriter =>
      ho.copyOf path' f (File.of_update hfile hf hwriter) hwriter
    copied := fun hst => by simpa [hpath hst] using ho.copied hst }

/-- What one upload writes is not another's. -/
theorem File.writer_ne {bytes : Bytes} (hne : j ≠ i) :
    ∀ f : File ι, some ⟨bytes, some i⟩ = some f → f.writer ≠ some j := by
  rintro f ⟨⟩ hwriter
  exact hne (Option.some.inj hwriter).symm

namespace Sound

theorem of_start (hstart : Start sha256 h) : Sound sha256 U h h where
  own := by
    intro i
    rw [hstart.stage i]
    exact Own.of_start hstart i
  recorded := hstart.recorded
  kept := fun _ _ hf => hf
  keptRows := List.prefix_rfl

/-- A row whose file is the upload's own is its row. -/
theorem own_row (hs : Sound sha256 U h₀ h) (hfile : (h.stage i).hasFile) {r : ReleaseRow ι}
    (hr : r ∈ h.rows) (hname : r.filename = (U i).finalName) : (h.stage i).hasRow := by
  obtain ⟨f, hf, -, -, hwriter⟩ := hs.recorded r hr
  obtain rfl : ⟨(U i).body, some i⟩ = f := by
    rw [hname, (hs.own i).inPlace hfile] at hf
    exact Option.some.inj hf
  exact (hs.own i).rowOf r hr hwriter.symm

/-- Two uploads with a file in place have different names. -/
theorem eq_of_finalName (hs : Sound sha256 U h₀ h) (hi : (h.stage i).hasFile)
    (hj : (h.stage j).hasFile) (hname : (U j).finalName = (U i).finalName) : j = i := by
  have hfile := (hs.own j).inPlace hj
  rw [hname, (hs.own i).inPlace hi] at hfile
  obtain ⟨-, rfl⟩ : (U i).body = (U j).body ∧ i = j := by simpa using hfile
  rfl

/-- What is recorded is on the disk, and no upload touches what it did not make. -/
theorem consistent (hs : Sound sha256 U h₀ h) : Consistent sha256 U h₀ h where
  recorded := hs.recorded
  failed := by
    intro i e hst
    have hi := hs.own i
    rw [hst] at hi
    exact {
      tmp := by
        rw [← Option.not_isSome_iff_eq_none]
        exact fun htmp => absurd (hi.tmpOf htmp) nofun
      flat := fun name f hf hwriter => absurd (hi.fileOf name f hf hwriter).2 nofun
      perChannel := fun path f hf hwriter => absurd (hi.copyOf path f hf hwriter).2 nofun
      rows := fun r hr hwriter => absurd (hi.rowOf r hr hwriter) nofun }
  succeeded := by
    intro i copied hst
    have hi := hs.own i
    rw [hst] at hi
    refine ⟨hi.inPlace rfl, ?_, hi.hasRow rfl⟩
    rintro rfl
    exact hi.copied rfl
  kept := hs.kept
  keptRows := hs.keptRows

variable [DecidableEq ι]

/-- One upload goes on, and the others have what they had. -/
theorem go_on (hs : Sound sha256 U h₀ h) (hstage : h'.stage = h.stage)
    (hi : Own sha256 U h' i st)
    (hother : ∀ j, j ≠ i → Own sha256 U h j (h.stage j) → Own sha256 U h' j (h.stage j))
    (hrecorded : ∀ r ∈ h'.rows, Recorded sha256 h' r)
    (hkept : ∀ name f, h₀.flat name = some f → h'.flat name = some f)
    (hrows : h.rows <+: h'.rows) : Sound sha256 U h₀ (h'.go i st) where
  own := by
    intro j
    have hown : Own sha256 U h' j (update h.stage i st j) :=
      (forall_update_iff h.stage fun j st => Own sha256 U h' j st).mpr
        ⟨hi, fun j hne => hother j hne (hs.own j)⟩ j
    rw [Hub.go_stage, hstage]
    exact { hown with }
  recorded := hrecorded
  kept := hkept
  keptRows := hs.keptRows.trans hrows

/-- A step that changes the staged file at most. -/
theorem goes {bytes : Option Bytes} (hs : Sound sha256 U h₀ h) (hst : h.stage i = st)
    (hgoes : st.Goes st') (hmay : bytes.isSome → st'.mayTmp)
    (hhas : st'.hasTmp → bytes = some (U i).body) :
    Sound sha256 U h₀ ((h.setTmp i bytes).go i st') := by
  subst hst
  exact hs.go_on rfl ((hs.own i).goes hgoes hmay hhas) (fun _ hne ho => ho.setTmp hne bytes)
    hs.recorded hs.kept List.prefix_rfl

/-- The same, where the staged file is left alone. -/
theorem goes_to (hs : Sound sha256 U h₀ h) (hst : h.stage i = st) (hgoes : st.Goes st')
    (hmay : st.mayTmp → st'.mayTmp) (hhas : st'.hasTmp → st.hasTmp) :
    Sound sha256 U h₀ (h.go i st') := by
  have hi := hs.own i
  rw [hst] at hi
  have hsame : h.setTmp i (h.tmp i) = h := by
    rw [Hub.setTmp, update_eq_self]
  rw [← hsame]
  exact hs.goes hst hgoes (fun htmp => hmay (hi.tmpOf htmp)) fun hst' => hi.staged (hhas hst')

/-- The file is moved to a name that is free. -/
theorem move (hs : Sound sha256 U h₀ h) (hst : h.stage i = .checked)
    (hfree : h.flat (U i).finalName = none) :
    Sound sha256 U h₀ (((h.setFlat (U i).finalName
      ((h.tmp i).map fun bytes => ⟨bytes, some i⟩)).setTmp i none).go i .moved) := by
  have hi := hs.own i
  rw [hst] at hi
  rw [hi.staged rfl]
  -- what was there is at other names
  have hkeep : ∀ name f, h.flat name = some f →
      update h.flat (U i).finalName (some ⟨(U i).body, some i⟩) name = some f := by
    intro name f hf
    have hne : name ≠ (U i).finalName := by
      rintro rfl
      rw [hfree] at hf
      cases hf
    rwa [update_of_ne hne]
  refine hs.go_on rfl ?_ ?_ ?_ ?_ List.prefix_rfl
  · exact {
      tmpOf := by simp
      staged := nofun
      fileOf := by
        intro name f hf hwriter
        by_cases hname : name = (U i).finalName
        · exact ⟨hname, rfl⟩
        · exact absurd (hi.fileOf name f (by simpa [hname] using hf) hwriter).2 nofun
      inPlace := fun _ => update_self ..
      copyOf := fun path f hf hwriter => absurd (hi.copyOf path f hf hwriter).2 nofun
      copied := nofun
      rowOf := hi.rowOf
      hasRow := nofun }
  · intro j hne ho
    refine (ho.setFlat (File.writer_ne hne) fun hfile hname => ?_).setTmp hne none
    have hplace := ho.inPlace hfile
    rw [hname, hfree] at hplace
    cases hplace
  · intro r hr
    obtain ⟨f, hf, hrest⟩ := hs.recorded r hr
    exact ⟨f, hkeep _ f hf, hrest⟩
  · exact fun name f hf => hkeep name f (hs.kept name f hf)

/-- The copy is written, in whole or in part. -/
theorem publish {copied : Bool} {bytes : Bytes} (hs : Sound sha256 U h₀ h)
    (hst : h.stage i = .opened) (hcopied : copied = true → bytes = (U i).body) :
    Sound sha256 U h₀
      ((h.setCopy (U i).copyPath (some ⟨bytes, some i⟩)).go i (.published copied)) := by
  have hi := hs.own i
  rw [hst] at hi
  refine hs.go_on rfl ?_ ?_ hs.recorded hs.kept List.prefix_rfl
  · exact {
      tmpOf := fun htmp => absurd (hi.tmpOf htmp) nofun
      staged := nofun
      fileOf := hi.fileOf
      inPlace := hi.inPlace
      copyOf := by
        intro path f hf hwriter
        by_cases hpath : path = (U i).copyPath
        · exact ⟨hpath, rfl⟩
        · exact absurd (hi.copyOf path f (by simpa [hpath] using hf) hwriter).2 nofun
      copied := by
        cases copied
        · exact nofun
        · intro _
          rw [← hcopied rfl]
          exact update_self ..
      rowOf := hi.rowOf
      hasRow := nofun }
  · intro j hne ho
    -- a copy is of a file in place, so its name is another
    refine ho.setCopy (File.writer_ne hne) fun hcopy hpath => hne ?_
    exact hs.eq_of_finalName (by rw [hst]; rfl) (Stage.hasFile_of_hasCopy hcopy)
      (congrArg Prod.snd hpath)

/-- The row is inserted. -/
theorem insert {copied : Bool} (hs : Sound sha256 U h₀ h) (hst : h.stage i = .published copied) :
    Sound sha256 U h₀ ((h.addRow ((U i).row sha256 i)).go i (.succeeded copied)) := by
  have hi := hs.own i
  rw [hst] at hi
  refine hs.go_on rfl ?_ ?_ ?_ hs.kept (List.prefix_append ..)
  · exact {
      tmpOf := fun htmp => absurd (hi.tmpOf htmp) nofun
      staged := nofun
      fileOf := hi.fileOf
      inPlace := hi.inPlace
      copyOf := hi.copyOf
      copied := by
        cases copied
        · exact nofun
        · exact hi.copied
      rowOf := fun _ _ _ => rfl
      hasRow := fun _ => List.mem_append_right _ (List.mem_singleton_self _) }
  · intro j hne ho
    refine { ho with rowOf := ?_, hasRow := fun hrow => List.mem_append_left _ (ho.hasRow hrow) }
    intro r hr hwriter
    obtain hr | rfl := mem_snoc.mp hr
    · exact ho.rowOf r hr hwriter
    · cases hwriter
      exact absurd rfl hne
  · intro r hr
    obtain hr | rfl := mem_snoc.mp hr
    · exact hs.recorded r hr
    · exact ⟨_, hi.inPlace rfl, rfl, rfl, rfl⟩

/-- The clean-up deletes the file. -/
theorem unlink (hs : Sound sha256 U h₀ h) (hstart : Start sha256 h₀)
    (hst : h.stage i = .unlinking) :
    Sound sha256 U h₀ ((h.setFlat (U i).finalName none).go i .unlinkingCopy) := by
  have hi := hs.own i
  have hplace := hi.inPlace (by rw [hst]; rfl)
  have hrow : ¬ (h.stage i).hasRow := by
    rw [hst]
    nofun
  rw [hst] at hi
  refine hs.go_on rfl ?_ ?_ ?_ ?_ List.prefix_rfl
  · exact {
      tmpOf := fun htmp => absurd (hi.tmpOf htmp) nofun
      staged := nofun
      fileOf := by
        intro name f hf hwriter
        by_cases hname : name = (U i).finalName
        · simp [hname] at hf
        · exact absurd (hi.fileOf name f (by simpa [hname] using hf) hwriter).1 hname
      inPlace := nofun
      copyOf := hi.copyOf
      copied := nofun
      rowOf := hi.rowOf
      hasRow := nofun }
  · intro j hne ho
    exact ho.setFlat nofun fun hfile hname =>
      hne (hs.eq_of_finalName (by rw [hst]; rfl) hfile hname)
  · -- the row of the file would be the upload's own
    intro r hr
    obtain ⟨f, hf, hrest⟩ := hs.recorded r hr
    have hname : r.filename ≠ (U i).finalName :=
      fun hname => hrow (hs.own_row (by rw [hst]; rfl) hr hname)
    exact ⟨f, by simpa [hname] using hf, hrest⟩
  · -- a file that was there at the start is nobody's
    intro name f hf
    have hname : name ≠ (U i).finalName := by
      rintro rfl
      have hwriter := hstart.flat _ f hf
      rw [Option.some.inj ((hs.kept _ f hf).symm.trans hplace)] at hwriter
      cases hwriter
    simpa [hname] using hs.kept name f hf

/-- The clean-up deletes the copy, where it is the upload's own. -/
theorem unlinkCopy {e : UploadError} (hs : Sound sha256 U h₀ h)
    (hst : h.stage i = .unlinkingCopy)
    (hown : ∀ f j, h.perChannel (U i).copyPath = some f → f.writer = some j → j = i) :
    Sound sha256 U h₀ ((h.setCopy (U i).copyPath none).go i (.failed e)) := by
  have hi := hs.own i
  rw [hst] at hi
  refine hs.go_on rfl ?_ ?_ hs.recorded hs.kept List.prefix_rfl
  · exact {
      tmpOf := fun htmp => absurd (hi.tmpOf htmp) nofun
      staged := nofun
      fileOf := hi.fileOf
      inPlace := nofun
      copyOf := by
        intro path f hf hwriter
        by_cases hpath : path = (U i).copyPath
        · simp [hpath] at hf
        · exact absurd (hi.copyOf path f (by simpa [hpath] using hf) hwriter).1 hpath
      copied := nofun
      rowOf := hi.rowOf
      hasRow := nofun }
  · intro j hne ho
    refine ho.setCopy nofun fun hcopy hpath => hne ?_
    have hplace := ho.copied hcopy
    rw [hpath] at hplace
    exact hown _ j hplace rfl

/-- **The step lemma.** -/
theorem step (hs : Sound sha256 U h₀ h) (hstart : Start sha256 h₀) {e : Event ι}
    (hsafe : Safe U h e) : Sound sha256 U h₀ (h.step sha256 U e) := by
  obtain ⟨i, outcome⟩ := e
  cases hst : h.stage i with
  | start =>
      cases hargs : (U i).checkArguments with
      | error e =>
          simp only [Hub.step, hst, hargs]
          exact hs.goes_to hst ⟨rfl, nofun, nofun, rfl⟩ nofun nofun
      | ok =>
          cases outcome with
          | done =>
              cases hbody : (U i).checkStaged sha256 with
              | ok =>
                  simp only [Hub.step, hst, hargs, hbody]
                  exact hs.goes hst ⟨rfl, nofun, nofun, rfl⟩ (fun _ => rfl) fun _ => rfl
              | error e =>
                  simp only [Hub.step, hst, hargs, hbody]
                  exact hs.goes hst ⟨rfl, nofun, nofun, rfl⟩ (fun _ => rfl) nofun
          | raises written =>
              simp only [Hub.step, hst, hargs]
              exact hs.goes hst ⟨rfl, nofun, nofun, rfl⟩ (fun _ => rfl) nofun
          | integrity =>
              simp only [Hub.step, hst, hargs]
              exact hs.goes_to hst ⟨rfl, nofun, nofun, rfl⟩ nofun nofun
  | staged =>
      have hdiscard : ∀ e, Sound sha256 U h₀ (h.go i (.discarding e)) := fun e =>
        hs.goes_to hst ⟨rfl, nofun, nofun, rfl⟩ (fun _ => rfl) nofun
      cases outcome with
      | done =>
          simp only [Hub.step, hst]
          split
          · exact hdiscard _
          · exact hs.goes_to hst ⟨rfl, nofun, nofun, rfl⟩ (fun _ => rfl) fun _ => rfl
      | raises | integrity => simpa only [Hub.step, hst] using hdiscard .raised
  | checked =>
      have hdiscard : Sound sha256 U h₀ (h.go i (.discarding .raised)) :=
        hs.goes_to hst ⟨rfl, nofun, nofun, rfl⟩ (fun _ => rfl) nofun
      cases outcome with
      | done => simpa only [Hub.step, hst] using hs.move hst (hsafe.free hst rfl)
      | raises | integrity => simpa only [Hub.step, hst] using hdiscard
  | discarding error =>
      obtain rfl : outcome = .done := hsafe.discarded error hst
      simp only [Hub.step, hst]
      exact hs.goes hst ⟨rfl, nofun, nofun, rfl⟩ nofun nofun
  | moved =>
      obtain rfl : outcome = .done := hsafe.opened hst
      simp only [Hub.step, hst]
      exact hs.goes_to hst ⟨rfl, nofun, nofun, rfl⟩ nofun nofun
  | opened =>
      have hi := hs.own i
      rw [hst] at hi
      have hplace := hi.inPlace rfl
      have hno : Sound sha256 U h₀ (h.go i (.published false)) :=
        hs.goes_to hst ⟨rfl, fun _ => rfl, nofun, rfl⟩ nofun nofun
      rcases outcome with - | (- | bytes) | -
      · simpa only [Hub.step, hst, hplace] using hs.publish hst fun _ => rfl
      · simpa only [Hub.step, hst, hplace] using hno
      · simp only [Hub.step, hst]
        exact hs.publish hst nofun
      · simpa only [Hub.step, hst, hplace] using hno
  | published copied =>
      have hunlink : Sound sha256 U h₀ (h.go i .unlinking) :=
        hs.goes_to hst ⟨rfl, fun _ => rfl, nofun, rfl⟩ nofun nofun
      cases outcome with
      | done =>
          simp only [Hub.step, hst]
          split
          · exact hunlink
          · exact hs.insert hst
      | integrity => simpa only [Hub.step, hst] using hunlink
      | raises written => exact absurd rfl (hsafe.inserted copied written hst)
  | unlinking =>
      obtain rfl : outcome = .done := hsafe.unlinked hst
      simpa only [Hub.step, hst] using hs.unlink hstart hst
  | unlinkingCopy =>
      obtain ⟨rfl, hown⟩ := hsafe.unlinkedCopy hst
      simpa only [Hub.step, hst] using hs.unlinkCopy hst hown
  | succeeded copied => simpa only [Hub.step, hst] using hs
  | failed error => simpa only [Hub.step, hst] using hs

end Sound

/-- **What is recorded is on the disk.**  In every run of the uploads whose steps all are safe, at
every moment, every row's file is in the firmware folder with its digest and size, an upload that
failed has left nothing, and no upload changes what another has made. -/
theorem uploads_consistent [DecidableEq ι] (sha256 : Bytes → String) (U : ι → Upload)
    (h₀ : Hub ι) (events : List (Event ι)) (hstart : Start sha256 h₀)
    (hsafe : Admits (Hub.step sha256 U) (Safe U) h₀ events) :
    Consistent sha256 U h₀ (run (Hub.step sha256 U) h₀ events) :=
  (run_invariant (I := Sound sha256 U h₀) (fun _ _ hs hok => hs.step hstart hok)
    (Sound.of_start hstart) hsafe).consistent

end

/-! ### Two uploads of one release -/

namespace Uploads

/-- A first upload of `1.0`. -/
def fresh : Hub Bool where
  tmp := fun _ => none
  flat := fun _ => none
  perChannel := fun _ => none
  rows := []
  stage := fun _ => .start

/-- Two uploads of `1.0` with different contents. -/
def same (i : Bool) : Upload where
  body := if i then [2] else [1]
  version := "1.0"
  channel := "stable"
  expectedSha256 := none

/-- The steps of the upload `i` end as `outcomes`. -/
def steps (i : Bool) (outcomes : List Outcome) : List (Event Bool) :=
  outcomes.map fun outcome => ⟨i, outcome⟩

/-- Both find the name free, and the second is moved over the first. -/
def race : List (Event Bool) :=
  steps false [.done, .done] ++ steps true [.done, .done] ++ steps false [.done] ++
    steps true [.done] ++ steps false [.done, .done, .done] ++
    steps true [.done, .done, .done, .done, .done]

/-- The insert raises what is no `IntegrityError`. -/
def lost : List (Event Bool) :=
  steps false [.done, .done, .done, .done, .done, .raises none] ++ steps true [.raises none, .done]

theorem start_fresh (sha256 : Bytes → String) : Start sha256 fresh where
  stage := fun _ => rfl
  tmp := fun _ => rfl
  recorded := nofun
  flat := nofun
  perChannel := nofun

end Uploads

open Uploads

/-- The steps of two uploads of `1.0`, taken in turn: the second finds the name taken. -/
theorem uploads_consistent_in_turn :
    Consistent (fun _ => "") same fresh (run (Hub.step (fun _ => "") same) fresh
      (steps false [.done, .done, .done, .done, .done, .done] ++
        steps true [.done, .done, .done])) := by
  refine uploads_consistent _ _ _ _ (start_fresh _) ?_
  refine ⟨?_, ?_, ?_, ?_, ?_, ?_, ?_, ?_, ?_, trivial⟩ <;>
    exact Safe.of_done rfl (by decide +kernel) (by decide +kernel)

/-- **What is recorded need not be on the disk.**  The clean-up of an upload that lost a race
deletes the winner's file, and an upload whose insert fails leaves its own. -/
theorem uploads_inconsistent :
    (∀ i, ((run (Hub.step (fun _ => "") same) fresh race).stage i).ended) ∧
      ¬ Consistent (fun _ => "") same fresh (run (Hub.step (fun _ => "") same) fresh race) ∧
    (∀ i, ((run (Hub.step (fun _ => "") same) fresh lost).stage i).ended) ∧
      ¬ Consistent (fun _ => "") same fresh (run (Hub.step (fun _ => "") same) fresh lost) := by
  refine ⟨by decide +kernel, ?_, by decide +kernel, ?_⟩
  · intro hcon
    have hplace := (hcon.succeeded false true (by decide +kernel)).1
    have hgone :
        (run (Hub.step (fun _ => "") same) fresh race).flat (same false).finalName = none := by
      decide +kernel
    rw [hgone] at hplace
    cases hplace
  · intro hcon
    have hfile : (run (Hub.step (fun _ => "") same) fresh lost).flat (same false).finalName =
        some ⟨[1], some false⟩ := by
      decide +kernel
    exact (hcon.failed false .raised (by decide +kernel)).flat _ _ hfile rfl

end RebooterHub.Firmware
