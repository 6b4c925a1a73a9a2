import Mathlib.Data.List.Infix
import RebooterHub.Data.Text

/-!
# Firmware — Filenames

The filename of a release, and the version that the scan of the disk reads from it.

`upload_release` writes the channel after the version, except for the channel `stable`.  The scan
cuts the channel off wherever it finds it at the end.

* `filename_faithful_iff`: two releases have different filenames, and the scan reads the version
  back, exactly when neither version is the other followed by its channel, and a stable version
  does not end in `-stable`.
* `filenames_ambiguous`: versions that do.
-/

namespace RebooterHub.Firmware

/-- `ALLOWED_CHANNELS`. -/
def allowedChannels : List String := ["dev", "beta", "stable"]

/-- The version and the channel of an upload that is accepted: the version is stripped, and the
filename with it names a file. -/
structure Label where
  version : String
  channel : String
  known : channel ∈ allowedChannels
  stripped : Text.strip version.toList = version.toList
  nonempty : version ≠ ""
  isName : ∀ c ∈ version.toList, c ≠ '/' ∧ c ≠ Char.ofNat 0

/-- `final_name`. -/
def filename (version channel : String) : String :=
  if channel = "stable" then "rebooter-" ++ version ++ ".bin"
  else "rebooter-" ++ version ++ "-" ++ channel ++ ".bin"

/-- `Path(name).stem`: the name before its last dot, if there is something on both sides. -/
def stem (name : List Char) : List Char :=
  let suffix := name.reverse.takeWhile (· ≠ '.')
  match name.reverse.dropWhile (· ≠ '.') with
  | [] => name
  | _ :: before => if before = [] ∨ suffix = [] then name else before.reverse

/-- The version that the scan reads from a filename in the folder of a channel. -/
def parseVersion (channel name : String) : String :=
  let stem := stem name.toList
  let version := if "rebooter-".toList.isPrefixOf stem then stem.drop 9 else stem
  let mark := "-".toList ++ channel.toList
  if mark.isSuffixOf version then String.ofList (version.take (version.length - mark.length))
  else String.ofList version

/-- What stands after the version in the filename, before `.bin`. -/
def mark (channel : String) : List Char :=
  if channel = "stable" then [] else '-' :: channel.toList

/-- A stable version is the other version followed by the other channel. -/
def Clash (p q : Label) : Prop :=
  p.channel ≠ "stable" ∧ q.channel = "stable" ∧ q.version = p.version ++ "-" ++ p.channel

section
variable {p q : Label} {version channel : String}

theorem toList_filename (version channel : String) :
    (filename version channel).toList =
      "rebooter-".toList ++ (version.toList ++ (mark channel ++ ".bin".toList)) := by
  have happend₃ : ∀ s t u : String, (s ++ t ++ u).toList = s.toList ++ (t.toList ++ u.toList) := by
    intro s t u
    simp only [String.toList_append, List.append_assoc]
  have happend₅ : ∀ s t u v w : String, (s ++ t ++ u ++ v ++ w).toList =
      s.toList ++ (t.toList ++ (u.toList ++ v.toList ++ w.toList)) := by
    intro s t u v w
    simp only [String.toList_append, List.append_assoc]
  rw [filename, mark]
  split
  · exact happend₃ ..
  · have hdash : "-".toList = ['-'] := by decide
    rw [happend₅, hdash]
    rfl

@[simp] theorem mark_stable : mark "stable" = [] := if_pos rfl

theorem mark_of_ne (h : channel ≠ "stable") : mark channel = '-' :: channel.toList := if_neg h

/-- Two filenames are the same when version and mark are, put together. -/
theorem filename_eq_iff {version' channel' : String} :
    filename version channel = filename version' channel' ↔
      version.toList ++ mark channel = version'.toList ++ mark channel' := by
  rw [← String.toList_inj, toList_filename, toList_filename, List.append_cancel_left_eq,
    ← List.append_assoc, ← List.append_assoc, List.append_cancel_right_eq]

theorem stem_bin {cs : List Char} (h : cs ≠ []) : stem (cs ++ ".bin".toList) = cs := by
  have hbin : ".bin".toList = ['.', 'b', 'i', 'n'] := by decide
  simp [stem, hbin, h]

/-- The stem of a filename. -/
theorem stem_filename (version channel : String) :
    stem (filename version channel).toList =
      "rebooter-".toList ++ (version.toList ++ mark channel) := by
  have hstart : "rebooter-".toList ≠ [] := by decide
  rw [toList_filename, ← List.append_assoc version.toList, ← List.append_assoc]
  exact stem_bin fun hnil => hstart (List.append_eq_nil_iff.mp hnil).1

/-- The scan reads the version with its mark, and cuts the channel off. -/
theorem parseVersion_filename (version channel : String) :
    parseVersion channel (filename version channel) =
      if ('-' :: channel.toList).isSuffixOf (version.toList ++ mark channel) then
        String.ofList ((version.toList ++ mark channel).take
          ((version.toList ++ mark channel).length - ('-' :: channel.toList).length))
      else String.ofList (version.toList ++ mark channel) := by
  have hdash : "-".toList = ['-'] := by decide
  have hlength : "rebooter-".toList.length = 9 := by decide
  have hdrop : ("rebooter-".toList ++ (version.toList ++ mark channel)).drop 9 =
      version.toList ++ mark channel := by
    rw [← hlength, List.drop_left]
  have hprefix : "rebooter-".toList.isPrefixOf
      ("rebooter-".toList ++ (version.toList ++ mark channel)) = true :=
    List.isPrefixOf_iff_prefix.mpr (List.prefix_append ..)
  simp only [parseVersion, stem_filename, hprefix, if_true, hdrop, hdash, List.singleton_append]

/-- **What the scan reads back.** -/
theorem parseVersion_eq_iff (p : Label) :
    parseVersion p.channel (filename p.version p.channel) = p.version ↔
      ¬(p.channel = "stable" ∧ "-stable".toList <:+ p.version.toList) := by
  rw [parseVersion_filename]
  by_cases hstable : p.channel = "stable"
  · have hmark : "-stable".toList = '-' :: "stable".toList := by decide
    simp only [hstable, mark_stable, List.append_nil, true_and]
    rw [hmark]
    split
    · next hsuffix =>
        have hsuffix := List.isSuffixOf_iff_suffix.mp hsuffix
        refine iff_of_false (fun heq => ?_) (not_not_intro hsuffix)
        -- what is left is shorter
        have hlength := congrArg (·.toList.length) heq
        have hlong := hsuffix.length_le
        simp only [String.toList_ofList, List.length_take, List.length_cons] at hlength hlong
        omega
    · next hsuffix =>
        exact iff_of_true String.ofList_toList (mt List.isSuffixOf_iff_suffix.mpr hsuffix)
  · have hsuffix : ('-' :: p.channel.toList).isSuffixOf (p.version.toList ++ mark p.channel) := by
      rw [mark_of_ne hstable]
      exact List.isSuffixOf_iff_suffix.mpr (List.suffix_append ..)
    rw [if_pos hsuffix, mark_of_ne hstable, List.length_append, Nat.add_sub_cancel, List.take_left]
    exact iff_of_true String.ofList_toList fun h => hstable h.1

/-- The clash, as characters. -/
theorem clash_iff : Clash p q ↔
    p.channel ≠ "stable" ∧ q.channel = "stable" ∧
      p.version.toList ++ mark p.channel = q.version.toList := by
  refine and_congr_right fun hp => and_congr_right fun _ => ?_
  have hdash : "-".toList = ['-'] := by decide
  rw [← String.toList_inj, String.toList_append, String.toList_append, hdash, mark_of_ne hp,
    List.append_assoc, List.singleton_append]
  exact eq_comm

/-- Marks end differently. -/
theorem mark_inj {channel' : String} {cs ds : List Char} (hknown : channel ∈ allowedChannels)
    (hknown' : channel' ∈ allowedChannels) (hc : channel ≠ "stable") (hc' : channel' ≠ "stable")
    (h : cs ++ mark channel = ds ++ mark channel') : channel = channel' := by
  have hdev : (mark "dev").getLast? = some 'v' := by decide
  have hbeta : (mark "beta").getLast? = some 'a' := by decide
  have hlast := congrArg List.getLast? h
  rw [List.getLast?_append, List.getLast?_append] at hlast
  simp only [allowedChannels, List.mem_cons, List.not_mem_nil, or_false] at hknown hknown'
  rcases hknown with rfl | rfl | rfl <;> rcases hknown' with rfl | rfl | rfl <;>
    simp_all

/-- **When two filenames are the same.** -/
theorem filename_eq_clash (p q : Label) :
    filename p.version p.channel = filename q.version q.channel ↔
      (p.version = q.version ∧ p.channel = q.channel) ∨ Clash p q ∨ Clash q p := by
  rw [filename_eq_iff, clash_iff, clash_iff]
  by_cases hp : p.channel = "stable" <;> by_cases hq : q.channel = "stable"
  · simp [hp, hq, String.toList_inj]
  · rw [hp, mark_stable, List.append_nil]
    constructor
    · intro h
      exact .inr (.inr ⟨hq, rfl, h.symm⟩)
    · rintro (⟨-, hc⟩ | ⟨hne, -⟩ | ⟨-, -, h⟩)
      · exact absurd hc.symm hq
      · exact absurd rfl hne
      · exact h.symm
  · rw [hq, mark_stable, List.append_nil]
    constructor
    · intro h
      exact .inr (.inl ⟨hp, rfl, h⟩)
    · rintro (⟨-, hc⟩ | ⟨-, -, h⟩ | ⟨hne, -⟩)
      · exact absurd hc hp
      · exact h
      · exact absurd rfl hne
  · constructor
    · intro h
      have hchannel := mark_inj p.known q.known hp hq h
      rw [hchannel] at h
      exact .inl ⟨String.toList_injective (List.append_cancel_right h), hchannel⟩
    · rintro (⟨hv, hc⟩ | ⟨-, hstable, -⟩ | ⟨-, hstable, -⟩)
      · rw [hv, hc]
      · exact absurd hstable hq
      · exact absurd hstable hp

end

/-- **Filenames are faithful** exactly when no version ends in what would be taken for a channel:
the two labels are told apart, and the version of the first is read back. -/
theorem filename_faithful_iff (p q : Label) :
    ((filename p.version p.channel = filename q.version q.channel →
        p.version = q.version ∧ p.channel = q.channel) ∧
      parseVersion p.channel (filename p.version p.channel) = p.version) ↔
    ¬Clash p q ∧ ¬Clash q p ∧ ¬(p.channel = "stable" ∧ "-stable".toList <:+ p.version.toList) := by
  rw [parseVersion_eq_iff, filename_eq_clash, ← and_assoc]
  refine and_congr_left fun _ => ?_
  have hne : ∀ {p q : Label}, Clash p q → p.channel ≠ q.channel := by
    rintro p q ⟨hp, hq, -⟩ heq
    exact hp (heq.trans hq)
  constructor
  · intro h
    exact ⟨fun hclash => hne hclash (h (.inr (.inl hclash))).2,
      fun hclash => hne hclash (h (.inr (.inr hclash))).2.symm⟩
  · rintro ⟨hpq, hqp⟩ (h | h | h)
    · exact h
    · exact absurd h hpq
    · exact absurd h hqp

/-- Version 1.0 for developers, the stable version 1.0-dev, and the stable version 1.0-stable. -/
def devLabel : Label where
  version := "1.0"
  channel := "dev"
  known := by decide
  stripped := by decide
  nonempty := by decide
  isName := by simp

@[inherit_doc devLabel]
def stableDevLabel : Label where
  version := "1.0-dev"
  channel := "stable"
  known := by decide
  stripped := by decide
  nonempty := by decide
  isName := by simp

@[inherit_doc devLabel]
def stableStableLabel : Label where
  version := "1.0-stable"
  channel := "stable"
  known := by decide
  stripped := by decide
  nonempty := by decide
  isName := by simp

/-- The first two have one filename, and of the third the scan reads version 1.0. -/
theorem filenames_ambiguous :
    ¬(filename devLabel.version devLabel.channel =
        filename stableDevLabel.version stableDevLabel.channel →
      devLabel.version = stableDevLabel.version ∧ devLabel.channel = stableDevLabel.channel) ∧
    parseVersion stableStableLabel.channel
      (filename stableStableLabel.version stableStableLabel.channel) ≠
        stableStableLabel.version := by
  decide +kernel

end RebooterHub.Firmware
