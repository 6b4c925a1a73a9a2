import Mathlib.Data.List.DropRight
import RebooterHub.Data.Text

/-!
# Enrollment — Mac

MAC addresses as texts.

The services compare MAC texts in three forms: `stripUpper`, which registration and the operator's
restore use, `sqlForm`, the same comparison made in SQL, and `normalizeMac`, in which announcements
are stored.  A device row keeps the text the firmware sent.  `hexDigits` is the address a text
denotes.  Upper-casing is that of ASCII letters: the texts the endpoints accept have no others.
-/

namespace RebooterHub.Enrollment

/-- A hexadecimal digit. -/
def isHexDigit (c : Char) : Bool :=
  c.isDigit || decide ('A' ≤ c ∧ c ≤ 'F') || decide ('a' ≤ c ∧ c ≤ 'f')

/-- A character of `[0-9A-Fa-f:.\-\s]`. -/
def isMacChar (c : Char) : Bool :=
  isHexDigit c || c = ':' || c = '.' || c = '-' || Text.isspace c

/-- `_MAC_RE.fullmatch(mac)`. -/
def isMacText (mac : String) : Bool := mac ≠ "" && mac.toList.all isMacChar

/-- `mac.strip().upper()`. -/
def stripUpper (mac : String) : String :=
  String.ofList ((Text.strip mac.toList).map Char.toUpper)

/-- The characters `_normalize_mac` removes. -/
def separators : List Char := [':', '-', '.', ' ', '\t', '\r', '\n']

/-- `_normalize_mac`. -/
def normalizeMac (mac : String) : String :=
  String.ofList (((Text.strip mac.toList).map Char.toUpper).filter (· ∉ separators))

/-- `trim(mac)` of SQL, on characters: it removes spaces only. -/
def sqlTrim (cs : List Char) : List Char :=
  ((cs.dropWhile (· = ' ')).reverse.dropWhile (· = ' ')).reverse

/-- `upper(trim(mac))` of SQL. -/
def sqlForm (mac : String) : String := String.ofList ((sqlTrim mac.toList).map Char.toUpper)

/-- The hexadecimal digits of a text. -/
def hexDigits (mac : String) : List Char := (mac.toList.filter isHexDigit).map Char.toUpper

/-- The canonical form of a device's MAC, if it has one. -/
def canonicalMac (mac : Option String) : Option String :=
  let form := normalizeMac (mac.getD "")
  if form = "" then none else some form

/-! ### Trimming -/

section
variable {p q : Char → Bool} {cs : List Char}

/-- The characters `p` holds of, removed on both sides. -/
def trim (p : Char → Bool) (cs : List Char) : List Char := (cs.dropWhile p).rdropWhile p

theorem rdropWhile_append {ds : List Char} (hds : ∀ c ∈ ds, p c = true) :
    (cs ++ ds).rdropWhile p = cs.rdropWhile p := by
  rw [List.rdropWhile, List.rdropWhile, List.reverse_append, List.dropWhile_append_of_pos]
  exact fun c hc => hds c (List.mem_reverse.mp hc)

/-- What is trimmed may be there on both sides. -/
theorem trim_append {as bs : List Char} (has : ∀ c ∈ as, p c = true)
    (hbs : ∀ c ∈ bs, p c = true) : trim p (as ++ cs ++ bs) = trim p cs := by
  rw [trim, trim, List.append_assoc, List.dropWhile_append_of_pos has, List.dropWhile_append]
  split
  · next hall =>
      have hbs' : bs.dropWhile p = [] := List.dropWhile_eq_nil_iff.mpr hbs
      rw [hbs', List.isEmpty_iff.mp hall]
  · exact rdropWhile_append hbs

/-- Trimming less before trimming does not matter. -/
theorem trim_trim (h : ∀ c, q c = true → p c = true) (cs : List Char) :
    trim p (trim q cs) = trim p cs := by
  have hsplit : cs = cs.takeWhile q ++ trim q cs ++ (cs.dropWhile q).rtakeWhile q := by
    rw [List.append_assoc, trim, List.rdropWhile_append_rtakeWhile, List.takeWhile_append_dropWhile]
  conv_rhs => rw [hsplit]
  refine (trim_append (fun c hc => h c (List.mem_takeWhile_imp hc)) fun c hc => ?_).symm
  exact h c (List.mem_rtakeWhile_imp hc)

theorem trim_map {f : Char → Char} (hf : ∀ c, p (f c) = p c) (cs : List Char) :
    trim p (cs.map f) = (trim p cs).map f := by
  have hp : p ∘ f = p := funext hf
  rw [trim, trim, List.dropWhile_map, hp, List.rdropWhile, List.rdropWhile, ← List.map_reverse,
    List.dropWhile_map, hp, List.map_reverse]

theorem mem_dropWhile {c : Char} (hc : c ∈ cs) (hp : p c = false) : c ∈ cs.dropWhile p := by
  rw [← List.takeWhile_append_dropWhile (p := p) (l := cs), List.mem_append] at hc
  refine hc.resolve_left fun hmem => ?_
  rw [List.mem_takeWhile_imp hmem] at hp
  cases hp

/-- What is not trimmed is there. -/
theorem mem_trim {c : Char} (hc : c ∈ cs) (hp : p c = false) :
    c ∈ trim p cs :=
  List.mem_reverse.mpr (mem_dropWhile (List.mem_reverse.mpr (mem_dropWhile hc hp)) hp)

end

/-! ### Characters -/

theorem toNat_toUpper (c : Char) :
    c.toUpper.toNat = if 97 ≤ c.toNat ∧ c.toNat ≤ 122 then c.toNat - 32 else c.toNat := by
  delta Char.toUpper
  split
  · next h =>
      have hc : c.val.toNat = c.toNat := rfl
      have hlow : 97 ≤ c.toNat ∧ c.toNat ≤ 122 := h
      have hdiff : ('A'.val - 'a'.val).toNat = 4294967264 := by decide
      rw [if_pos hlow, Char.toNat, UInt32.toNat_add, hdiff, hc]
      omega
  · next h =>
      have hhigh : ¬(97 ≤ c.toNat ∧ c.toNat ≤ 122) := h
      rw [if_neg hhigh]

theorem isspace_toUpper (c : Char) : Text.isspace c.toUpper = Text.isspace c := by
  simp only [Text.isspace, toNat_toUpper, decide_eq_decide]
  split <;> omega

theorem isHexDigit_iff (c : Char) : isHexDigit c = true ↔ 48 ≤ c.toNat ∧ c.toNat ≤ 57 ∨
    65 ≤ c.toNat ∧ c.toNat ≤ 70 ∨ 97 ≤ c.toNat ∧ c.toNat ≤ 102 := by
  have hdigit : c.isDigit = true ↔ 48 ≤ c.toNat ∧ c.toNat ≤ 57 := by
    rw [Char.isDigit, Bool.and_eq_true, decide_eq_true_iff, decide_eq_true_iff]
    rfl
  rw [isHexDigit, Bool.or_eq_true, Bool.or_eq_true, hdigit, decide_eq_true_iff, decide_eq_true_iff,
    or_assoc]
  rfl

theorem isHexDigit_toUpper {c : Char} (h : isHexDigit c = true) : isHexDigit c.toUpper = true := by
  rw [isHexDigit_iff] at h ⊢
  rw [toNat_toUpper]
  split <;> omega

theorem isspace_of_isHexDigit {c : Char} (h : isHexDigit c = true) : Text.isspace c = false := by
  rw [isHexDigit_iff] at h
  simp only [Text.isspace, decide_eq_false_iff_not]
  omega

theorem not_mem_separators {c : Char} (h : isHexDigit c = true) : c ∉ separators := by
  intro hmem
  have hall : separators.all (fun c => !isHexDigit c) = true := by decide
  have hnot := List.all_eq_true.mp hall c hmem
  rw [h] at hnot
  cases hnot

theorem isspace_of_space (c : Char) (h : decide (c = ' ') = true) : Text.isspace c = true := by
  rw [of_decide_eq_true h]
  decide

/-- Text whose SQL form has no space around it has the same form in Python. -/
theorem stripUpper_of_sqlForm {mac mac' : String} (h : sqlForm mac = stripUpper mac') :
    stripUpper mac = sqlForm mac := by
  have hform : (sqlTrim mac.toList).map Char.toUpper = (trim Text.isspace mac'.toList).map
      Char.toUpper := String.ofList_injective h
  refine congrArg String.ofList ?_
  change (trim Text.isspace mac.toList).map Char.toUpper = (sqlTrim mac.toList).map Char.toUpper
  calc (trim Text.isspace mac.toList).map Char.toUpper
      = (trim Text.isspace (sqlTrim mac.toList)).map Char.toUpper :=
        congrArg _ (trim_trim isspace_of_space _).symm
    _ = trim Text.isspace ((sqlTrim mac.toList).map Char.toUpper) :=
        (trim_map isspace_toUpper _).symm
    _ = trim Text.isspace ((trim Text.isspace mac'.toList).map Char.toUpper) := by rw [hform]
    _ = (trim Text.isspace (trim Text.isspace mac'.toList)).map Char.toUpper :=
        trim_map isspace_toUpper _
    _ = (sqlTrim mac.toList).map Char.toUpper := by
        rw [trim_trim (fun _ h => h), hform]

/-! ### Digits -/

theorem hexDigits_ne_nil {mac : String} (h : hexDigits mac ≠ []) :
    ∃ c ∈ mac.toList, isHexDigit c = true := by
  obtain ⟨c, hc⟩ := List.exists_mem_of_ne_nil _ h
  obtain ⟨c', hc', -⟩ := List.mem_map.mp hc
  exact ⟨c', List.mem_filter.mp hc'⟩

/-- A text with a hexadecimal digit is not empty after stripping. -/
theorem stripUpper_ne_empty {mac : String} {c : Char} (hc : c ∈ mac.toList)
    (h : isHexDigit c = true) : stripUpper mac ≠ "" := by
  intro hempty
  have hmem : c.toUpper ∈ (trim Text.isspace mac.toList).map Char.toUpper :=
    List.mem_map_of_mem (mem_trim hc (isspace_of_isHexDigit h))
  have hnil : (trim Text.isspace mac.toList).map Char.toUpper = [] := String.ofList_injective hempty
  rw [hnil] at hmem
  cases hmem

/-- The canonical form has the digits of the text. -/
theorem mem_normalizeMac {mac : String} {c : Char} (hc : c ∈ mac.toList) (h : isHexDigit c = true) :
    c.toUpper ∈ (normalizeMac mac).toList := by
  rw [normalizeMac, String.toList_ofList, List.mem_filter]
  exact ⟨List.mem_map_of_mem (mem_trim hc (isspace_of_isHexDigit h)),
    decide_eq_true (not_mem_separators (isHexDigit_toUpper h))⟩

end RebooterHub.Enrollment
