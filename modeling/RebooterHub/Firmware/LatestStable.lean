import Mathlib.Data.Char
import Mathlib.Data.List.Lex
import RebooterHub.Data.Spelling
import RebooterHub.Firmware.Deployments
import RebooterHub.Support.TopRows

/-!
# Firmware — LatestStable

`latest_stable_release_dict`, which the devices page offers as the upgrade: the highest version of
the stable channel, compared by `_version_sort_key`.

The versions are compared among the 200 releases that were uploaded last, so what is left out by
then is not offered.

* `latest_stable_iff`: the release is the latest, in whatever order the database arranges uploads
  of one instant, exactly if one of the highest versions has fewer than 200 lower ones uploaded
  with it or after it.
-/

namespace RebooterHub.Firmware
open RebooterHub.TopRows

/-- A row of `firmware_releases`, with its remaining columns that are read here. -/
structure StoredRelease extends FirmwareRelease where
  sizeBytes : Option Int
  createdAt : Time

/-! ### Version order -/

/-- What versions are compared by: the numbers, then the suffix. -/
abbrev VersionKey := List Int ×ₗ List Char

/-- A component of the numeric prefix. -/
def versionPart (p : List Char) : Int := (Text.int p).getD 0

/-- `_version_sort_key`. -/
def versionSortKey (v : Option String) : VersionKey :=
  match v.getD "" |>.toList with
  | [] => toLex ([-1], [])
  | cs =>
    let head := cs.takeWhile (· ≠ '-')
    let tail := (cs.dropWhile (· ≠ '-')).tail
    toLex ((head.splitOn '.').map versionPart, tail)

/-! ### The selection -/

/-- The dict that is returned. -/
structure LatestRelease where
  id : String
  version : String
  channel : String
  sha256 : String
  sizeBytes : Option Int
  filename : String
deriving DecidableEq

/-- The dict of a row. -/
def latestRelease (r : StoredRelease) : LatestRelease :=
  ⟨r.id, r.version, r.channel, r.sha256, r.sizeBytes, r.filename⟩

/-- The releases of the stable channel. -/
def stable (releases : List StoredRelease) : List StoredRelease :=
  releases.filter (·.channel = "stable")

/-- `rows` answers the query of the 200 newest stable releases. -/
def Candidates (releases rows : List StoredRelease) : Prop :=
  Top (·.createdAt) 200 (stable releases) rows

/-- `latest_stable_release_dict`, the query's answer being `rows`. -/
def latestStableReleaseDict (rows : List StoredRelease) : Option LatestRelease :=
  (maxBy (fun r => versionSortKey (some r.version)) rows).map latestRelease

/-- No stable release has a higher version. -/
def Highest (releases : List StoredRelease) (version : String) : Prop :=
  ∀ s ∈ stable releases, versionSortKey (some s.version) ≤ versionSortKey (some version)

instance (releases : List StoredRelease) (version : String) :
    Decidable (Highest releases version) := inferInstanceAs (Decidable (∀ s ∈ _, _))

/-- The release is a stable one of the highest version; there is none only if none is stable. -/
def IsLatest (releases : List StoredRelease) : Option LatestRelease → Prop
  | none => stable releases = []
  | some r => (∃ s ∈ stable releases, r = latestRelease s) ∧ Highest releases r.version

section
variable {releases rows : List StoredRelease}

/-- The dict is the latest exactly if a row of the highest version is among those compared. -/
theorem isLatest_iff (hrows : Candidates releases rows) (hsome : stable releases ≠ []) :
    IsLatest releases (latestStableReleaseDict rows) ↔
      ∃ g ∈ rows, Highest releases g.version := by
  rw [latestStableReleaseDict]
  cases hmax : maxBy (fun r : StoredRelease => versionSortKey (some r.version)) rows with
  | none =>
      obtain rfl := maxBy_eq_none.mp hmax
      simp [IsLatest, hsome]
  | some r =>
      obtain ⟨hmem, hgreatest⟩ := maxBy_spec hmax
      constructor
      · rintro ⟨-, hhighest⟩
        exact ⟨r, hmem, hhighest⟩
      · rintro ⟨g, hg, hhighest⟩
        exact ⟨⟨r, hrows.subset hmem, rfl⟩, fun s hs => (hhighest s hs).trans (hgreatest g hg)⟩

theorem not_highest_iff {g s : StoredRelease} (hg : Highest releases g.version)
    (hgmem : g ∈ stable releases) :
    ¬ Highest releases s.version ↔
      versionSortKey (some s.version) < versionSortKey (some g.version) := by
  constructor
  · intro hnot
    by_contra hle
    exact hnot fun r hr => (hg r hr).trans (not_lt.mp hle)
  · exact fun hlt hs => absurd (hs g hgmem) (not_le.mpr hlt)

end

/-- **The latest stable release.**  Whatever order the database gives uploads of one instant, the
dict is that of the highest stable version exactly if no release is stable, or one of the highest
version has fewer than 200 of a lower one uploaded with it or after it. -/
theorem latest_stable_iff (releases : List StoredRelease) :
    (∀ rows, Candidates releases rows → IsLatest releases (latestStableReleaseDict rows)) ↔
      stable releases = [] ∨ ∃ g ∈ stable releases, Highest releases g.version ∧
        (stable releases).countP (fun s =>
          versionSortKey (some s.version) < versionSortKey (some g.version) ∧
            g.createdAt ≤ s.createdAt) < 200 := by
  by_cases hnone : stable releases = []
  · refine iff_of_true (fun rows hrows => ?_) (.inl hnone)
    have hnil : rows = [] := List.eq_nil_iff_forall_not_mem.mpr fun r hr => by
      simpa [hnone] using hrows.subset hr
    rw [hnil]
    exact hnone
  · have hall : (∀ rows, Candidates releases rows →
        IsLatest releases (latestStableReleaseDict rows)) ↔
        ∀ rows, Top (·.createdAt) 200 (stable releases) rows →
          ∃ g ∈ rows, Highest releases g.version :=
      forall₂_congr fun rows hrows => isLatest_iff hrows hnone
    rw [hall, forall_top_iff fun g : StoredRelease => Highest releases g.version]
    refine Iff.trans ?_ (or_iff_right hnone).symm
    refine exists_congr fun g => and_congr_right fun hg => and_congr_right fun hhighest => ?_
    have hcount := List.countP_congr (l := stable releases)
      (p := fun s => ¬ Highest releases s.version ∧ g.createdAt ≤ s.createdAt)
      (q := fun s => versionSortKey (some s.version) < versionSortKey (some g.version) ∧
        g.createdAt ≤ s.createdAt)
      fun s _ => by simp [not_highest_iff hhighest hg]
    rw [hcount]

/-- A stable release of a version, uploaded `n` seconds after the epoch. -/
def stableRelease (version : String) (n : Nat) : StoredRelease where
  id := "fwr_" ++ version
  version := version
  channel := "stable"
  filename := version ++ ".bin"
  downloadUrl := "/" ++ version
  sha256 := version
  sizeBytes := none
  createdAt := seconds n

/-- The builds of 1.0, the last one first. -/
def builds (n : Nat) : List StoredRelease :=
  (List.range n).reverse.map fun k => stableRelease ("1.0." ++ toString k) (k + 1)

/-- Version 2.0, and 200 builds of 1.0 after it. -/
def longHistory : List StoredRelease := builds 200 ++ [stableRelease "2.0" 0]

/-- The builds are told apart by their number. -/
theorem longHistory_nodup : (longHistory.map fun r => (r.version, r.channel)).Nodup := by
  let number : String × String → Option Nat := fun p => Text.natural (p.1.toList.drop 4)
  have hbuild (k : Nat) : number ("1.0." ++ toString k, "stable") = some k := by
    have hdigits : ("1.0." ++ toString k).toList.drop 4 = Nat.toDigits 10 k := by
      simp [String.toList_append]
    rw [← Text.natural_toDigits k, ← hdigits]
  have hnumbers : (longHistory.map fun r => (r.version, r.channel)).map number =
      (List.range 200).reverse.map some ++ [none] := by
    rw [longHistory, builds, List.map_append, List.map_append, List.map_map, List.map_map]
    exact congrArg (· ++ [none]) (List.map_congr_left fun k _ => hbuild k)
  refine List.Nodup.of_map number ?_
  rw [hnumbers]
  refine List.Nodup.append ?_ (List.nodup_singleton none) (by simp)
  exact (List.nodup_reverse.mpr List.nodup_range).map (Option.some_injective _)

theorem stable_longHistory : stable longHistory = longHistory := by
  refine List.filter_eq_self.mpr fun r hr => ?_
  rcases List.mem_append.mp hr with hr | hr
  · obtain ⟨k, -, rfl⟩ := List.mem_map.mp hr
    rfl
  · rw [List.mem_singleton.mp hr]
    rfl

theorem arranged_longHistory : Arranged (·.createdAt) longHistory longHistory := by
  refine ⟨.refl _, List.pairwise_append.mpr ⟨?_, List.pairwise_singleton _ _, ?_⟩⟩
  · rw [builds, List.pairwise_map, List.pairwise_reverse]
    refine List.pairwise_lt_range.imp fun {a b} hlt => ?_
    simp only [stableRelease, seconds, Time]
    omega
  · intro r hr s hs
    obtain ⟨k, -, rfl⟩ := List.mem_map.mp hr
    rw [List.mem_singleton.mp hs]
    simp only [stableRelease, seconds, Time]
    omega

theorem lt_of_major (rest : String) :
    versionSortKey (some ("1." ++ rest)) < versionSortKey (some "2.0") := by
  have hkey : versionSortKey (some "2.0") = toLex ([2, 0], []) := by decide
  rw [hkey]
  simp [versionSortKey, List.splitOn, List.splitOnP_cons_eq_if_modifyHead, Prod.Lex.toLex_lt_toLex]
  exact List.Lex.rel (by decide)

/-- With the builds among the candidates version 2.0 is passed over. -/
theorem latest_passed_over :
    (longHistory.map fun r => (r.version, r.channel)).Nodup ∧
      Candidates longHistory (builds 200) ∧
      ¬ IsLatest longHistory (latestStableReleaseDict (builds 200)) := by
  have hlatest : stableRelease "2.0" 0 ∈ stable longHistory := by
    rw [stable_longHistory]
    exact List.mem_append_right _ List.mem_cons_self
  have hcandidates : Candidates longHistory (builds 200) := by
    refine ⟨longHistory, stable_longHistory.symm ▸ arranged_longHistory, ?_⟩
    rw [longHistory, List.take_left' (by simp [builds])]
  refine ⟨longHistory_nodup, hcandidates, ?_⟩
  rw [isLatest_iff hcandidates (List.ne_nil_of_mem hlatest)]
  rintro ⟨g, hg, hhighest⟩
  obtain ⟨k, -, rfl⟩ := List.mem_map.mp hg
  exact absurd (hhighest _ hlatest) (not_le.mpr (lt_of_major ("0." ++ toString k)))

end RebooterHub.Firmware
