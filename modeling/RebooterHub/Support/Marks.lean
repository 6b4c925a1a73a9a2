import Mathlib.Data.List.Basic

/-!
# Support — Marks

The parts of a list that stand between two marks.  Elements are compared with those of a mark by
their `key`.

* `upTo` finds the first mark, `blocks` what stands between an opening and the next closing mark,
  again and again.
* A mark is `Borderless` if it cannot overlap itself.
* `upTo_append`: the mark after a list without marks is found, and not one that starts earlier.
* `blocks_text`: the bodies that were written between marks are found, and only they.
-/

namespace RebooterHub.Marks

universe u v

variable {α : Type u} {β : Type v} [DecidableEq β] (key : α → β)

/-- What follows a mark, in a list that starts with it. -/
def after : List β → List α → Option (List α)
  | [], xs => some xs
  | _ :: _, [] => none
  | b :: mark, x :: xs => if key x = b then after mark xs else none

/-- What comes before the first mark, and what follows it. -/
def upTo (mark : List β) : List α → Option (List α × List α)
  | [] => (after key mark []).map fun rest => ([], rest)
  | x :: xs => match after key mark (x :: xs) with
    | some rest => some ([], rest)
    | none => (upTo mark xs).map fun r => (x :: r.1, r.2)

/-- What stands between an opening mark and the next closing one, at most `fuel` times. -/
def blocks (opening closing : List β) : Nat → List α → List (List α)
  | 0, _ => []
  | fuel + 1, xs => match upTo key opening xs with
    | none => []
    | some (_, inside) => match upTo key closing inside with
      | none => []
      | some (body, rest) => body :: blocks opening closing fuel rest

/-- A mark stands in a list. -/
def Occurs (mark : List β) (xs : List α) : Prop :=
  ∃ before m rest, xs = before ++ m ++ rest ∧ m.map key = mark

/-- No end of a mark is a start of it. -/
def Borderless (mark : List β) : Prop :=
  ∀ k < mark.length, 0 < k → mark.drop k ≠ mark.take (mark.length - k)

instance (mark : List β) : Decidable (Borderless mark) :=
  inferInstanceAs (Decidable (∀ k < mark.length, _))

variable {key} {mark : List β} {xs rest : List α}

theorem after_eq_some : after key mark xs = some rest ↔ ∃ m, xs = m ++ rest ∧ m.map key = mark := by
  induction mark generalizing xs with
  | nil => simp [after, eq_comm]
  | cons b mark ih =>
      cases xs with
      | nil => simp [after]
      | cons x xs =>
          rw [after]
          split
          · next hx =>
              rw [ih]
              constructor
              · rintro ⟨m, rfl, hm⟩
                exact ⟨x :: m, rfl, by rw [List.map_cons, hx, hm]⟩
              · rintro ⟨m, hxs, hm⟩
                cases m with
                | nil => cases hm
                | cons y m =>
                    rw [List.cons_append] at hxs
                    exact ⟨m, (List.cons.inj hxs).2, (List.cons.inj hm).2⟩
          · next hx =>
              constructor
              · intro h
                cases h
              · rintro ⟨m, hxs, hm⟩
                cases m with
                | nil => cases hm
                | cons y m =>
                    rw [List.cons_append] at hxs
                    obtain ⟨rfl, -⟩ := List.cons.inj hxs
                    exact absurd (List.cons.inj hm).1 hx

theorem after_append {m : List α} (hm : m.map key = mark) (rest : List α) :
    after key mark (m ++ rest) = some rest :=
  after_eq_some.mpr ⟨m, rfl, hm⟩

theorem occurs_of_after (h : after key mark xs = some rest) : Occurs key mark xs := by
  obtain ⟨m, rfl, hm⟩ := after_eq_some.mp h
  exact ⟨[], m, rest, rfl, hm⟩

omit [DecidableEq β] in
theorem Occurs.cons (h : Occurs key mark xs) (x : α) : Occurs key mark (x :: xs) := by
  obtain ⟨before, m, rest, rfl, hm⟩ := h
  exact ⟨x :: before, m, rest, rfl, hm⟩

theorem after_eq_none (h : ¬ Occurs key mark xs) : after key mark xs = none := by
  cases hafter : after key mark xs with
  | none => rfl
  | some rest => exact absurd (occurs_of_after hafter) h

/-- A mark that stands in a list is found. -/
theorem occurs_of_upTo {r : List α × List α} (h : upTo key mark xs = some r) :
    Occurs key mark xs := by
  induction xs generalizing r with
  | nil =>
      obtain ⟨rest, hafter, -⟩ := Option.map_eq_some_iff.mp h
      exact occurs_of_after hafter
  | cons x xs ih =>
      rw [upTo] at h
      split at h
      · next rest hafter => exact occurs_of_after hafter
      · obtain ⟨r', hr', -⟩ := Option.map_eq_some_iff.mp h
        exact (ih hr').cons x

theorem occurs_iff_upTo : Occurs key mark xs ↔ (upTo key mark xs).isSome := by
  constructor
  · intro h
    by_contra hnone
    rw [Bool.not_eq_true, Option.isSome_eq_false_iff, Option.isNone_iff_eq_none] at hnone
    obtain ⟨before, m, rest, rfl, hm⟩ := h
    induction before with
    | nil =>
        have hafter := after_append hm rest
        rw [List.nil_append] at hnone
        cases hxs : m ++ rest with
        | nil =>
            rw [hxs] at hafter hnone
            rw [upTo, hafter] at hnone
            cases hnone
        | cons x xs =>
            rw [hxs] at hafter hnone
            rw [upTo, hafter] at hnone
            cases hnone
    | cons x before ih =>
        rw [List.cons_append, List.cons_append, upTo] at hnone
        split at hnone
        · cases hnone
        · exact ih (Option.map_eq_none_iff.mp hnone)
  · intro h
    obtain ⟨r, hr⟩ := Option.isSome_iff_exists.mp h
    exact occurs_of_upTo hr

instance : Decidable (Occurs key mark xs) := decidable_of_iff _ occurs_iff_upTo.symm

/-- Where no mark stands, none is found. -/
theorem upTo_eq_none (h : ¬ Occurs key mark xs) : upTo key mark xs = none := by
  rw [occurs_iff_upTo, Bool.not_eq_true, Option.isSome_eq_false_iff] at h
  exact Option.isNone_iff_eq_none.mp h

/-- No mark starts in a list without marks and goes on into a mark that follows it. -/
theorem after_eq_none_of_borderless (hmark : Borderless mark) {before m : List α}
    (hne : before ≠ []) (hbefore : ¬ Occurs key mark before) (hm : m.map key = mark) :
    after key mark (before ++ m ++ rest) = none := by
  cases hafter : after key mark (before ++ m ++ rest) with
  | none => rfl
  | some rest' =>
      obtain ⟨m', hsplit, hm'⟩ := after_eq_some.mp hafter
      have hlength : m'.length = mark.length := by rw [← hm', List.length_map]
      have hlength' : m.length = mark.length := by rw [← hm, List.length_map]
      by_cases hlong : mark.length ≤ before.length
      · -- the mark lies inside the list
        refine absurd ?_ hbefore
        have hprefix : m' <+: before := by
          have hwhole : before <+: before ++ m ++ rest := by
            rw [List.append_assoc]
            exact List.prefix_append _ _
          have hfound : m' <+: before ++ m ++ rest := hsplit ▸ List.prefix_append _ _
          exact List.prefix_of_prefix_length_le hfound hwhole (by omega)
        obtain ⟨tail, rfl⟩ := hprefix
        exact ⟨[], m', tail, rfl, hm'⟩
      · -- the end of the mark is a start of the mark that follows
        have htake : m' = (before ++ m).take mark.length := by
          have h := congrArg (List.take mark.length) hsplit
          rw [List.take_append_of_le_length (by simp; omega), ← hlength, List.take_left,
            hlength] at h
          exact h.symm
        have hend : m'.drop before.length = m.take (mark.length - before.length) := by
          rw [htake, List.take_append, List.take_of_length_le (by omega), List.drop_left]
        refine absurd ?_ (hmark before.length (by omega) (List.length_pos_iff.mpr hne))
        have h := congrArg (List.map key) hend
        rw [List.map_drop, List.map_take, hm, hm'] at h
        exact h

/-- The mark after a list without marks is the first one. -/
theorem upTo_append (hmark : Borderless mark) {before m : List α}
    (hbefore : ¬ Occurs key mark before) (hm : m.map key = mark) (rest : List α) :
    upTo key mark (before ++ m ++ rest) = some (before, rest) := by
  induction before with
  | nil =>
      have hafter := after_append hm rest
      rw [List.nil_append]
      cases hxs : m ++ rest with
      | nil =>
          rw [hxs] at hafter
          rw [upTo, hafter, Option.map_some]
      | cons x xs =>
          rw [hxs] at hafter
          rw [upTo, hafter]
  | cons x before ih =>
      have hnone : after key mark (x :: before ++ m ++ rest) = none :=
        after_eq_none_of_borderless hmark (List.cons_ne_nil x before) hbefore hm
      simp only [List.cons_append] at hnone ⊢
      rw [upTo, hnone, ih fun h => hbefore (h.cons x), Option.map_some]

omit [DecidableEq β] in
/-- What breaks a mark parts its occurrences. -/
theorem occurs_append_cons {c : α} (hc : key c ∉ mark) {xs ys : List α}
    (h : Occurs key mark (xs ++ c :: ys)) : Occurs key mark xs ∨ Occurs key mark ys := by
  obtain ⟨before, m, rest, hsplit, hm⟩ := h
  have hcm : c ∉ m := fun hmem => hc (hm ▸ List.mem_map_of_mem hmem)
  rw [List.append_assoc, List.append_eq_append_iff] at hsplit
  rcases hsplit with ⟨a, rfl, ha⟩ | ⟨b, rfl, hb⟩
  · cases a with
    | nil =>
        cases m with
        | nil => exact .inr ⟨[], [], ys, rfl, hm⟩
        | cons y m =>
            cases ha
            exact absurd List.mem_cons_self hcm
    | cons y a =>
        obtain ⟨rfl, rfl⟩ := List.cons.inj ha
        exact .inr ⟨a, m, rest, by simp, hm⟩
  · rw [List.append_eq_append_iff] at hb
    rcases hb with ⟨a, rfl, ha⟩ | ⟨b', rfl, hb'⟩
    · exact .inl ⟨before, m, a, by simp, hm⟩
    · cases b' with
      | nil =>
          refine .inl ⟨before, b, [], by simp, ?_⟩
          rw [← hm, List.append_nil]
      | cons y b' =>
          obtain ⟨rfl, -⟩ := List.cons.inj hb'
          exact absurd (List.mem_append_right _ List.mem_cons_self) hcm

/-! ### Written blocks -/

/-- A body between its marks, and what comes before it. -/
structure Written (α : Type u) where
  gap : List α
  opening : List α
  body : List α
  closing : List α

/-- The list that a block is written as. -/
def Written.text (w : Written α) : List α := w.gap ++ w.opening ++ (w.body ++ w.closing)

/-- The marks are where they should be, and nowhere else. -/
structure Written.Sound (key : α → β) (opening closing : List β) (w : Written α) : Prop where
  opens : w.opening.map key = opening
  closes : w.closing.map key = closing
  gap : ¬ Occurs key opening w.gap
  body : ¬ Occurs key closing w.body

/-- **The bodies are found.** -/
theorem blocks_text {opening closing : List β} (hopening : Borderless opening)
    (hclosing : Borderless closing) {ws : List (Written α)}
    (h : ∀ w ∈ ws, w.Sound key opening closing) {tail : List α} (htail : ¬ Occurs key opening tail)
    {fuel : Nat} (hfuel : ws.length ≤ fuel) :
    blocks key opening closing fuel (ws.flatMap Written.text ++ tail) = ws.map (·.body) := by
  induction ws generalizing fuel with
  | nil =>
      cases fuel with
      | zero => rfl
      | succ fuel => rw [List.flatMap_nil, List.nil_append, blocks, upTo_eq_none htail]; rfl
  | cons w ws ih =>
      obtain ⟨hw, hws⟩ := List.forall_mem_cons.mp h
      cases fuel with
      | zero => cases hfuel
      | succ fuel =>
          have hopen := upTo_append hopening hw.gap hw.opens
            (w.body ++ w.closing ++ (ws.flatMap Written.text ++ tail))
          have hclose := upTo_append hclosing hw.body hw.closes (ws.flatMap Written.text ++ tail)
          simp only [List.append_assoc] at hopen hclose
          rw [List.flatMap_cons, Written.text, blocks]
          simp only [List.append_assoc]
          rw [hopen]
          simp only
          rw [hclose]
          simp only [List.map_cons]
          rw [ih hws (Nat.le_of_succ_le_succ hfuel)]

end RebooterHub.Marks
