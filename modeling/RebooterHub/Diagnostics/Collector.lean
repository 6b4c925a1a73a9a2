import Mathlib.Logic.Function.Basic
import RebooterHub.Data.Spelling
import RebooterHub.Support.Dict
import RebooterHub.Support.Pieces
import RebooterHub.Support.Rotation

/-!
# Diagnostics — Collector

The packets that the firmware sends until a device drops off (`diag_syslog_collector`): a line of
JSON for each, in a file for each device, in two generations.

A disk has the files of `/data/diag` by name; no content stands for no file.  `json.dumps` writes
ASCII, so a character is a byte.  Parameters are `str.lower` and `str.isalnum` (`lower`, `isalnum`),
`str` of a float, a list or a dict (`spell`) and `json.dumps` (`dumps`).

* `files_run`: the two files of a device are the generations of its packets.
* `collected`: what the directory holds after any packets.
-/

namespace RebooterHub.Diagnostics
open Rotation Runs

/-- `MAX_FILE_BYTES`. -/
def maxFileBytes : ℕ := 5 * 1024 * 1024

/-- The files of `DIAG_ROOT`. -/
abbrev Disk := List Char → List Char

namespace Disk

def unlink (name : List Char) (d : Disk) : Disk := Function.update d name []

def rename (src dst : List Char) (d : Disk) : Disk :=
  Function.update (Function.update d dst (d src)) src []

def append (name text : List Char) (d : Disk) : Disk := Function.update d name (d name ++ text)

end Disk

/-- `PurePath.with_suffix`, for a name: a name that only starts with a dot has no suffix. -/
def withSuffix (name suffix : List Char) : List Char :=
  let ext := (name.reverse.takeWhile (· ≠ '.')).reverse
  let stem := ((name.reverse.dropWhile (· ≠ '.')).drop 1).reverse
  if stem = [] ∨ ext = [] then name ++ suffix else stem ++ suffix

/-- The file of a device. -/
def fileOf (dev : List Char) : List Char := dev ++ ".jsonl".toList

/-- Its old generation. -/
def rotatedOf (dev : List Char) : List Char := withSuffix (fileOf dev) ".jsonl.1".toList

/-- A packet: what `json.loads` makes of it, if anything, where it comes from and when, and what
goes wrong: when the files change, and, if the write fails, after how many characters. -/
structure Packet where
  parsed : Option Json
  peerIp : String
  recvTs : Rat
  fault : Fault
  cut : Option ℕ

/-- The members of a packet that is an object. -/
def Packet.members (p : Packet) : Option (List (String × Json)) :=
  match p.parsed with
  | some (.obj ms) => some ms
  | _ => none

section
variable (lower : List Char → List Char) (isalnum : Char → Bool) (spell : Json → String)
  (dumps : Json → List Char)

/-- `_safe_mac`. -/
def safeMac (s : List Char) : List Char :=
  let out := (lower s).filter fun c => isalnum c || decide (c ∈ [':', '-'])
  (if out = [] then "unknown".toList else out).filter (· ≠ ':')

/-- The name that `_write_packet` takes for the device. -/
def deviceOf (ms : List (String × Json)) (peerIp : String) : List Char :=
  let dev := (ms.lookup "dev").getD .null
  let dev := if dev.truthy then dev else .str (if peerIp = "" then "unknown" else peerIp)
  safeMac lower isalnum (dev.text spell)

/-- The line of a packet, without its end. -/
def lineOf (ms : List (String × Json)) (p : Packet) : List Char :=
  dumps (.obj (Dict.put "_peer_ip" (.str p.peerIp) (Dict.put "_recv_ts" (.float p.recvTs) ms)))

/-- What reaches the file. -/
def chunkOf (ms : List (String × Json)) (p : Packet) : List Char :=
  match p.cut with
  | none => lineOf dumps ms p ++ ['\n']
  | some n => (lineOf dumps ms p ++ ['\n']).take n

/-- The change of the files. -/
def rotate (fault : Fault) (target : List Char) (d : Disk) : Disk :=
  let rotated := withSuffix target ".jsonl.1".toList
  if (d target).length < maxFileBytes then d
  else match fault with
    | .none => (d.unlink rotated).rename target rotated
    | .early => d
    | .late => d.unlink rotated

/-- `_write_packet`. -/
def writePacket (ms : List (String × Json)) (p : Packet) (d : Disk) : Disk :=
  let target := fileOf (deviceOf lower isalnum spell ms p.peerIp)
  (rotate p.fault target d).append target (chunkOf dumps ms p)

/-- The loop of `_listener_loop`: a packet that is no object is dropped. -/
def step (d : Disk) (p : Packet) : Disk :=
  match p.members with
  | some ms => writePacket lower isalnum spell dumps ms p d
  | none => d

/-- Nothing yet. -/
def blank : Disk := fun _ => []

/-- The two files of a device. -/
def filesOf (dev : List Char) (d : Disk) : Generations Char := ⟨d (rotatedOf dev), d (fileOf dev)⟩

/-- The members of a packet, if it is one of a device. -/
def ownMembers (dev : List Char) (p : Packet) : Option (List (String × Json)) :=
  p.members.filter (deviceOf lower isalnum spell · p.peerIp = dev)

/-- The writes of a device. -/
def writesOf (dev : List Char) (as : List Packet) : List (Fault × List Char) :=
  as.filterMap fun p => (ownMembers lower isalnum spell dev p).map fun ms =>
    (p.fault, chunkOf dumps ms p)

/-- The lines of a device. -/
def linesOf (dev : List Char) (as : List Packet) : List (List Char) :=
  as.filterMap fun p => (ownMembers lower isalnum spell dev p).map fun ms => lineOf dumps ms p

end

/-! ### Names -/

/-- A name in which nothing can lead out of the directory or into another name's suffix. -/
structure Flat (dev : List Char) : Prop where
  dot : '.' ∉ dev
  slash : '/' ∉ dev

section
variable {dev dev' : List Char} {lower : List Char → List Char} {isalnum : Char → Bool}

theorem flat_safeMac (hdot : isalnum '.' = false) (hslash : isalnum '/' = false) (s : List Char) :
    Flat (safeMac lower isalnum s) := by
  have hout : ∀ c, isalnum c = false → c ∉ [':', '-'] → c ∉ "unknown".toList →
      c ∉ safeMac lower isalnum s := by
    intro c hc hmark hunknown hmem
    rw [safeMac] at hmem
    have hmem := (List.mem_filter.mp hmem).1
    split at hmem
    · exact hunknown hmem
    · have hkept := (List.mem_filter.mp hmem).2
      rw [hc, decide_eq_false hmark] at hkept
      cases hkept
  exact ⟨hout '.' hdot (by decide) (by decide), hout '/' hslash (by decide) (by decide)⟩

theorem fileOf_inj (h : fileOf dev = fileOf dev') : dev = dev' := List.append_cancel_right h

theorem rotatedOf_eq (dev : List Char) :
    rotatedOf dev = (if dev = [] then ".jsonl".toList else dev) ++ ".jsonl.1".toList := by
  -- Read from its end, the name has no dot before that of its suffix.
  have hreverse : (fileOf dev).reverse = "lnosj".toList ++ '.' :: dev.reverse := by
    simp [fileOf]
  obtain ⟨hext, hstem⟩ :=
    Pieces.takeWhile_append_cons dev.reverse (by decide : '.' ∉ "lnosj".toList)
  rw [rotatedOf, withSuffix, hreverse, hext, hstem, List.reverse_reverse]
  by_cases hdev : dev = []
  · subst hdev
    rfl
  · have hne : ¬(dev = [] ∨ "lnosj".toList.reverse = []) := by
      rintro (h | h)
      · exact hdev h
      · exact absurd h (by decide)
    rw [if_neg hne, if_neg hdev]

theorem rotatedOf_ne_fileOf : rotatedOf dev ≠ fileOf dev' := by
  intro h
  -- The one name ends in a digit, the other in a letter.
  have hlast := congrArg List.getLast? h
  rw [rotatedOf_eq, fileOf, List.getLast?_append, List.getLast?_append] at hlast
  have hne : (".jsonl.1".toList.getLast?).or none ≠ (".jsonl".toList.getLast?).or none := by decide
  exact hne hlast

theorem rotatedOf_inj (hdev : Flat dev) (hdev' : Flat dev') (h : rotatedOf dev = rotatedOf dev') :
    dev = dev' := by
  rw [rotatedOf_eq, rotatedOf_eq] at h
  have hstem := List.append_cancel_right h
  -- Only the old file of the device without a name has a dot in its stem.
  have hdots : '.' ∈ ".jsonl".toList := by decide
  split at hstem
  · next hnil =>
      split at hstem
      · next hnil' => exact hnil.trans hnil'.symm
      · exact absurd (hstem ▸ hdots) hdev'.dot
  · split at hstem
    · exact absurd (hstem ▸ hdots) hdev.dot
    · exact hstem

end

/-! ### One packet -/

section
variable {lower : List Char → List Char} {isalnum : Char → Bool} {spell : Json → String}
  {dumps : Json → List Char} {dev dev' name : List Char} {d : Disk}

/-- The files of a device whose packet is written. -/
theorem filesOf_self (fault : Fault) (chunk : List Char) :
    filesOf dev ((rotate fault (fileOf dev) d).append (fileOf dev) chunk) =
      (filesOf dev d).write maxFileBytes (fault, chunk) := by
  have hne : rotatedOf dev ≠ fileOf dev := rotatedOf_ne_fileOf
  have hne' : fileOf dev ≠ rotatedOf dev := hne.symm
  have hrotated : withSuffix (fileOf dev) ".jsonl.1".toList = rotatedOf dev := rfl
  unfold Generations.write Generations.rotate rotate
  dsimp only
  rw [hrotated]
  by_cases hroom : (d (fileOf dev)).length < maxFileBytes
  · rw [if_pos hroom, if_pos (by exact hroom)]
    simp only [filesOf, Disk.append, Generations.append, Function.update_self,
      Function.update_of_ne hne]
  · rw [if_neg hroom, if_neg (by exact hroom)]
    cases fault <;>
      simp only [filesOf, Disk.append, Disk.unlink, Disk.rename, Generations.append,
        Function.update_self, Function.update_of_ne hne, Function.update_of_ne hne',
        List.nil_append]

/-- The other names. -/
theorem apply_of_ne {fault : Fault} {chunk : List Char} (hfile : name ≠ fileOf dev)
    (hrotated : name ≠ rotatedOf dev) :
    (rotate fault (fileOf dev) d).append (fileOf dev) chunk name = d name := by
  have hsuffix : withSuffix (fileOf dev) ".jsonl.1".toList = rotatedOf dev := rfl
  rw [Disk.append, Function.update_of_ne hfile]
  unfold rotate
  rw [hsuffix]
  split
  · rfl
  · cases fault with
    | none =>
        change Function.update (Function.update _ _ _) _ _ name = _
        rw [Function.update_of_ne hfile, Function.update_of_ne hrotated]
        exact Function.update_of_ne hrotated _ _
    | early => rfl
    | late => exact Function.update_of_ne hrotated _ _

/-- The files of the other devices. -/
theorem filesOf_of_ne (hdev : Flat dev) (hdev' : Flat dev') (hne : dev ≠ dev') (fault : Fault)
    (chunk : List Char) :
    filesOf dev ((rotate fault (fileOf dev') d).append (fileOf dev') chunk) = filesOf dev d := by
  have hfile : fileOf dev ≠ fileOf dev' := fun h => hne (fileOf_inj h)
  have hrotated : rotatedOf dev ≠ rotatedOf dev' := fun h => hne (rotatedOf_inj hdev hdev' h)
  rw [filesOf, filesOf, apply_of_ne hfile rotatedOf_ne_fileOf.symm,
    apply_of_ne rotatedOf_ne_fileOf hrotated]

/-- A packet at the files of a device. -/
theorem filesOf_step (hdot : isalnum '.' = false) (hslash : isalnum '/' = false) (hdev : Flat dev)
    (d : Disk) (p : Packet) : filesOf dev (step lower isalnum spell dumps d p) =
      run (Generations.write maxFileBytes) (filesOf dev d)
        (writesOf lower isalnum spell dumps dev [p]) := by
  rw [step, writesOf, List.filterMap_cons, List.filterMap_nil, ownMembers]
  cases p.members with
  | none => rfl
  | some ms =>
      have hflat : Flat (deviceOf lower isalnum spell ms p.peerIp) := flat_safeMac hdot hslash _
      rw [Option.filter_some]
      dsimp only
      by_cases hown : deviceOf lower isalnum spell ms p.peerIp = dev
      -- The packet is one of the device, or writes the files of another.
      · rw [writePacket, hown, filesOf_self, if_pos (decide_eq_true rfl)]
        rfl
      · rw [writePacket, filesOf_of_ne hdev hflat (Ne.symm hown),
          if_neg fun h => hown (of_decide_eq_true h)]
        rfl

/-- The names that a packet writes. -/
theorem name_of_step (hdot : isalnum '.' = false) (hslash : isalnum '/' = false) {p : Packet}
    (h : step lower isalnum spell dumps d p name ≠ d name) :
    ∃ dev, Flat dev ∧ (name = fileOf dev ∨ name = rotatedOf dev) := by
  rw [step] at h
  cases hmembers : p.members with
  | none =>
      rw [hmembers] at h
      exact absurd rfl h
  | some ms =>
      rw [hmembers] at h
      refine ⟨deviceOf lower isalnum spell ms p.peerIp, flat_safeMac hdot hslash _, ?_⟩
      by_contra hother
      obtain ⟨hfile, hrotated⟩ := not_or.mp hother
      exact h (apply_of_ne hfile hrotated)

/-! ### Any packets -/

/-- The files of a device are the generations of its packets. -/
theorem files_run (hdot : isalnum '.' = false) (hslash : isalnum '/' = false) (hdev : Flat dev)
    (as : List Packet) : filesOf dev (run (step lower isalnum spell dumps) blank as) =
      run (Generations.write maxFileBytes) .empty (writesOf lower isalnum spell dumps dev as) := by
  induction as using List.reverseRecOn with
  | nil => rfl
  | append_singleton as p ih =>
      have hwrites : writesOf lower isalnum spell dumps dev (as ++ [p]) =
          writesOf lower isalnum spell dumps dev as ++ writesOf lower isalnum spell dumps dev [p] :=
        List.filterMap_append
      rw [run_append, run_cons, run_nil, filesOf_step hdot hslash hdev, ih, hwrites, run_append]

theorem names_run (hdot : isalnum '.' = false) (hslash : isalnum '/' = false) {as : List Packet}
    (h : run (step lower isalnum spell dumps) blank as name ≠ []) :
    ∃ dev, Flat dev ∧ (name = fileOf dev ∨ name = rotatedOf dev) := by
  induction as using List.reverseRecOn with
  | nil => exact absurd rfl h
  | append_singleton as p ih =>
      rw [run_append] at h
      by_cases hold : run (step lower isalnum spell dumps) blank as name = []
      · refine name_of_step hdot hslash (ne_of_ne_of_eq h hold.symm)
      · exact ih hold

/-- Lines with their ends. -/
def text (lines : List (List Char)) : List Char := (lines.map (· ++ ['\n'])).flatten

theorem splitOn_text {lines : List (List Char)} (h : ∀ l ∈ lines, '\n' ∉ l) :
    (text lines).splitOn '\n' = lines ++ [[]] := by
  induction lines with
  | nil => rfl
  | cons l lines ih =>
      obtain ⟨hl, hlines⟩ := List.forall_mem_cons.mp h
      have htext : text (l :: lines) = l ++ '\n' :: text lines := by
        simp [text]
      rw [htext, List.splitOn_append_cons_self_of_not_mem hl, ih hlines]
      rfl

theorem fault_of_mem {as : List Packet} {a : Fault × List Char}
    (h : a ∈ writesOf lower isalnum spell dumps dev as) (has : ∀ p ∈ as, p.fault = .none) :
    a.1 = .none := by
  obtain ⟨p, hp, hwrite⟩ := List.mem_filterMap.mp h
  obtain ⟨ms, -, rfl⟩ := Option.map_eq_some_iff.mp hwrite
  exact has p hp

/-- The chunks of a device whose packets are all written whole. -/
theorem chunks_eq {as : List Packet} (hwhole : ∀ p ∈ as, p.cut = none) :
    (writesOf lower isalnum spell dumps dev as).map Prod.snd =
      (linesOf lower isalnum spell dumps dev as).map (· ++ ['\n']) := by
  rw [writesOf, linesOf, List.map_filterMap, List.map_filterMap]
  refine List.filterMap_congr fun p hp => ?_
  rw [Option.map_map, Option.map_map]
  refine congrArg (Option.map · _) (funext fun ms => ?_)
  rw [Function.comp_apply, Function.comp_apply, chunkOf, hwhole p hp]

theorem mem_linesOf {as : List Packet} {l : List Char}
    (h : l ∈ linesOf lower isalnum spell dumps dev as) : ∃ x, l = dumps x := by
  obtain ⟨p, -, hp⟩ := List.mem_filterMap.mp h
  obtain ⟨ms, -, rfl⟩ := Option.map_eq_some_iff.mp hp
  exact ⟨_, rfl⟩

end

/-- **The collected packets.**  After any packets, whatever goes wrong with the files:

* only files of devices have content, all of them in the directory itself;
* the two files of a device hold some of what was written for it, in order and nothing twice;
* when nothing went wrong, their lines are the packets of the device from some packet on; one is
  missing only when the old file has reached its limit, and no file goes past the limit by more than
  its last line. -/
theorem collected (lower : List Char → List Char) {isalnum : Char → Bool} (spell : Json → String)
    {dumps : Json → List Char} (hdot : isalnum '.' = false) (hslash : isalnum '/' = false)
    (as : List Packet) :
    (∀ name, run (step lower isalnum spell dumps) blank as name ≠ [] →
      ∃ dev, Flat dev ∧ (name = fileOf dev ∨ name = rotatedOf dev)) ∧
    (∀ dev, Flat dev → (filesOf dev (run (step lower isalnum spell dumps) blank as)).Ordered
      ((writesOf lower isalnum spell dumps dev as).map Prod.snd)) ∧
    ((∀ x, '\n' ∉ dumps x) → (∀ p ∈ as, p.fault = .none ∧ p.cut = none) → ∀ dev, Flat dev →
      ∃ lost old current, linesOf lower isalnum spell dumps dev as = lost ++ (old ++ current) ∧
        (run (step lower isalnum spell dumps) blank as (rotatedOf dev)).splitOn '\n' = old ++ [[]] ∧
        (run (step lower isalnum spell dumps) blank as (fileOf dev)).splitOn '\n' =
          current ++ [[]] ∧
        (lost ≠ [] → maxFileBytes ≤
          (run (step lower isalnum spell dumps) blank as (rotatedOf dev)).length) ∧
        ∀ lines ∈ [old, current], ∀ before last, lines = before ++ [last] →
          (text before).length < maxFileBytes) := by
  refine ⟨fun name h => names_run hdot hslash h, fun dev hdev => ?_, fun hline hgood dev hdev => ?_⟩
  · rw [files_run hdot hslash hdev]
    exact Generations.ordered_run _ _
  · have hrotated : (filesOf dev (run (step lower isalnum spell dumps) blank as)).Rotated
        maxFileBytes ((writesOf lower isalnum spell dumps dev as).map Prod.snd) := by
      rw [files_run hdot hslash hdev]
      exact Generations.rotated_run (by decide) fun a ha => fault_of_mem ha fun p hp => (hgood p hp).1
    rw [chunks_eq fun p hp => (hgood p hp).2] at hrotated
    obtain ⟨_, _, _, hchunks, hold, hcurrent, hlost, holdWithin, hwithin⟩ := hrotated
    obtain ⟨lost, kept, hlines, rfl, hkept⟩ := List.map_eq_append_iff.mp hchunks
    obtain ⟨old, current, rfl, rfl, rfl⟩ := List.map_eq_append_iff.mp hkept
    have hends : ∀ l ∈ old ++ current, '\n' ∉ l := by
      intro l hl
      obtain ⟨x, rfl⟩ := mem_linesOf (hlines ▸ List.mem_append_right lost hl)
      exact hline x
    refine ⟨lost, old, current, hlines, ?_, ?_, fun hne => hlost (by simpa using hne), ?_⟩
    · rw [← splitOn_text fun l hl => hends l (List.mem_append_left _ hl)]
      exact congrArg (List.splitOn '\n') hold
    · rw [← splitOn_text fun l hl => hends l (List.mem_append_right _ hl)]
      exact congrArg (List.splitOn '\n') hcurrent
    · intro lines hlines before last heq
      subst heq
      rcases List.mem_pair.mp hlines with rfl | rfl
      · exact holdWithin _ (last ++ ['\n']) (by simp)
      · exact hwithin _ (last ++ ['\n']) (by simp)

/-- A packet of the firmware, and its line. -/
def breadcrumb : Packet := ⟨some (.obj [("dev", .str "0C:F7")]), "10.0.0.9", 3 / 2, .none, none⟩

def breadcrumbLine : List Char :=
  "\x7b\"dev\":\"0C:F7\",\"_recv_ts\":1.5,\"_peer_ip\":\"10.0.0.9\"\x7d".toList

theorem breadcrumb_collected : ∃ lost old current, [breadcrumbLine] = lost ++ (old ++ current) ∧
    (run (step Text.lower Char.isAlphanum (fun _ => "") fun _ => breadcrumbLine) blank [breadcrumb]
      (rotatedOf "0cf7".toList)).splitOn '\n' = old ++ [[]] ∧
    (run (step Text.lower Char.isAlphanum (fun _ => "") fun _ => breadcrumbLine) blank [breadcrumb]
      (fileOf "0cf7".toList)).splitOn '\n' = current ++ [[]] := by
  have hline : ∀ x : Json, '\n' ∉ (fun _ => breadcrumbLine) x := by
    have hend : '\n' ∉ breadcrumbLine := by decide
    exact fun _ => hend
  have hgood : ∀ p ∈ [breadcrumb], p.fault = .none ∧ p.cut = none := by decide
  obtain ⟨lost, old, current, hlines, hold, hcurrent, -⟩ :=
    (collected Text.lower (fun _ => "") (by decide : Char.isAlphanum '.' = false) (by decide)
      [breadcrumb]).2.2 hline hgood "0cf7".toList ⟨by decide, by decide⟩
  exact ⟨lost, old, current, hlines, hold, hcurrent⟩

end RebooterHub.Diagnostics
