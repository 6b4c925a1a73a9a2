import Mathlib.Data.List.Nodup
import Mathlib.Tactic.TypeStar
import RebooterHub.Support.Fallible

/-!
# Support — Logged loops

Loops over a list that may fail and that note for each element what they did with it.

* `Returns step s as expected t` says that the loop returned in state `t` with the expected notes.
* `returns_iff`: it does exactly when each step does, in the state that the steps before it left.
* `Returns.invariant`: what each step keeps, the loop keeps.
* `returns_iff_forall` and `returns_iff_nodup` are for steps that depend on their elements only, and
  for steps that take no element twice.
-/

namespace RebooterHub.Logged
open RebooterHub.Fallible

universe u v w x

variable {ε : Type u} {σ : Type v} {δ : Type x} {α β : Type w} {step : σ → α → Except ε (σ × δ)}
  {expected : α → δ} {s t u : σ} {a : α} {as : List α}

/-- The loop, with the note of each step. -/
def loop (step : σ → α → Except ε (σ × δ)) : σ → List α → Except ε (σ × List δ)
  | s, [] => .ok (s, [])
  | s, a :: as => do
    let (s, d) ← step s a
    let (s, ds) ← loop step s as
    return (s, d :: ds)

/-- The loop returned with the expected notes. -/
def Returns (step : σ → α → Except ε (σ × δ)) (s : σ) (as : List α) (expected : α → δ) (t : σ) :
    Prop :=
  loop step s as = .ok (t, as.map expected)

example : Returns (fun n a => (.ok (n + a, a) : Except Unit (Nat × Nat))) 0 [1, 2] id 3 := by
  simp [Returns, loop]

theorem returns_nil : Returns step s [] expected t ↔ s = t := by
  simp [Returns, loop]

theorem returns_cons : Returns step s (a :: as) expected t ↔
    ∃ u, step s a = .ok (u, expected a) ∧ Returns step u as expected t := by
  constructor
  · intro h
    obtain ⟨⟨u, d⟩, hstep, h⟩ := bind_eq_ok h
    obtain ⟨⟨t', ds⟩, hloop, h⟩ := bind_eq_ok h
    obtain ⟨rfl, hds⟩ := Prod.mk.inj (Except.ok.inj h)
    obtain ⟨rfl, rfl⟩ := List.cons.inj hds
    exact ⟨u, hstep, hloop⟩
  · rintro ⟨u, hstep, hloop⟩
    rw [Returns] at hloop ⊢
    rw [loop, hstep, ok_bind]
    dsimp only
    rw [hloop]
    rfl

section
variable {I : List α → σ → Prop} {P : List α → α → Prop} {pre : List α}

/-- **The steps of a loop.**  `I pre` is what holds after the elements `pre`. -/
theorem returns_iff
    (hstep : ∀ pre a s, I pre s → ((∃ t, step s a = .ok (t, expected a)) ↔ P pre a))
    (hkeep : ∀ pre a s t, I pre s → step s a = .ok (t, expected a) → I (pre ++ [a]) t)
    (hs : I pre s) :
    (∃ t, Returns step s as expected t) ↔
      ∀ mid a post, as = mid ++ a :: post → P (pre ++ mid) a := by
  induction as generalizing pre s with
  | nil =>
      refine iff_of_true ⟨s, returns_nil.mpr rfl⟩ fun mid a post h => ?_
      simp at h
  | cons b as ih =>
      constructor
      · rintro ⟨t, h⟩ mid a post hsplit
        obtain ⟨u, hb, hrest⟩ := returns_cons.mp h
        cases mid with
        | nil =>
            obtain ⟨rfl, rfl⟩ := List.cons.inj hsplit
            rw [List.append_nil]
            exact (hstep pre b s hs).mp ⟨u, hb⟩
        | cons c mid =>
            obtain ⟨rfl, htail⟩ := List.cons.inj hsplit
            rw [List.append_cons]
            exact (ih (hkeep pre b s u hs hb)).mp ⟨t, hrest⟩ mid a post htail
      · intro h
        have hP : P (pre ++ []) b := h [] b as rfl
        rw [List.append_nil] at hP
        obtain ⟨u, hb⟩ := (hstep pre b s hs).mpr hP
        obtain ⟨t, hrest⟩ := (ih (hkeep pre b s u hs hb)).mpr fun mid a post hsplit => by
          rw [List.append_assoc]
          exact h (b :: mid) a post (by rw [hsplit]; rfl)
        exact ⟨t, returns_cons.mpr ⟨u, hb, hrest⟩⟩

/-- What each step keeps, the loop keeps. -/
theorem Returns.invariant
    (hkeep : ∀ pre a s t, I pre s → step s a = .ok (t, expected a) → I (pre ++ [a]) t)
    (h : Returns step s as expected t) (hs : I pre s) : I (pre ++ as) t := by
  induction as generalizing pre s with
  | nil =>
      rw [List.append_nil]
      exact returns_nil.mp h ▸ hs
  | cons a as ih =>
      obtain ⟨u, ha, hrest⟩ := returns_cons.mp h
      rw [List.append_cons]
      exact ih hrest (hkeep pre a s u hs ha)

end

/-- A loop whose steps depend on their elements only. -/
theorem returns_iff_forall {P : α → Prop}
    (hstep : ∀ s, ∀ a ∈ as, (∃ t, step s a = .ok (t, expected a)) ↔ P a) :
    (∃ t, Returns step s as expected t) ↔ ∀ a ∈ as, P a := by
  induction as generalizing s with
  | nil => exact iff_of_true ⟨s, returns_nil.mpr rfl⟩ nofun
  | cons a as ih =>
      have ih := fun s => ih (s := s) fun s b hb => hstep s b (List.mem_cons_of_mem a hb)
      rw [List.forall_mem_cons, ← hstep s a List.mem_cons_self]
      constructor
      · rintro ⟨t, h⟩
        obtain ⟨u, ha, hrest⟩ := returns_cons.mp h
        exact ⟨⟨u, ha⟩, (ih u).mp ⟨t, hrest⟩⟩
      · rintro ⟨⟨u, ha⟩, hall⟩
        obtain ⟨t, hrest⟩ := (ih u).mpr hall
        exact ⟨t, returns_cons.mpr ⟨u, ha, hrest⟩⟩

theorem returns_congr {step' : σ → α → Except ε (σ × δ)} (h : ∀ s, ∀ a ∈ as, step s a = step' s a) :
    Returns step s as expected t ↔ Returns step' s as expected t := by
  induction as generalizing s with
  | nil => rw [returns_nil, returns_nil]
  | cons a as ih =>
      rw [returns_cons, returns_cons, h s a List.mem_cons_self]
      exact exists_congr fun u =>
        and_congr_right fun _ => ih fun s b hb => h s b (List.mem_cons_of_mem a hb)

/-- What is expected of the elements counts. -/
theorem returns_expected {expected' : α → δ} (h : ∀ a ∈ as, expected a = expected' a) :
    Returns step s as expected t ↔ Returns step s as expected' t := by
  rw [Returns, Returns, List.map_congr_left h]

/-- Elements that a loop passes over may be left out. -/
theorem returns_filter {p : α → Bool}
    (hskip : ∀ s, ∀ a ∈ as, p a = false → step s a = .ok (s, expected a)) :
    Returns step s as expected t ↔ Returns step s (as.filter p) expected t := by
  induction as generalizing s with
  | nil => rfl
  | cons a as ih =>
      have ih := fun s => ih (s := s) fun s b hb => hskip s b (List.mem_cons_of_mem a hb)
      cases ha : p a with
      | true =>
          rw [List.filter_cons_of_pos ha, returns_cons, returns_cons]
          exact exists_congr fun u => and_congr_right fun _ => ih u
      | false =>
          rw [List.filter_cons_of_neg (by simp [ha]), returns_cons,
            hskip s a List.mem_cons_self ha]
          constructor
          · rintro ⟨u, hu, hrest⟩
            obtain ⟨rfl, -⟩ := Prod.mk.inj (Except.ok.inj hu)
            exact (ih s).mp hrest
          · intro hrest
            exact ⟨s, rfl, (ih s).mpr hrest⟩

theorem returns_map {f : β → α} {bs : List β} : Returns step s (bs.map f) expected t ↔
    Returns (fun s b => step s (f b)) s bs (fun b => expected (f b)) t := by
  induction bs generalizing s with
  | nil => rw [List.map_nil, returns_nil, returns_nil]
  | cons b bs ih =>
      rw [List.map_cons, returns_cons, returns_cons]
      exact exists_congr fun u => and_congr_right fun _ => ih

/-- No element has the `f` of an earlier one. -/
theorem forall_split_iff_nodup {κ : Type*} {f : α → κ} {q : α → Bool} {pre : List α}
    (hpre : ((pre.filter q).map f).Nodup) :
    (∀ mid a post, as = mid ++ a :: post → q a = true → f a ∉ ((pre ++ mid).filter q).map f) ↔
      (((pre ++ as).filter q).map f).Nodup := by
  induction as generalizing pre with
  | nil =>
      refine iff_of_true (fun mid a post h => ?_) (by rwa [List.append_nil])
      simp at h
  | cons b as ih =>
      have hb : ((pre ++ [b]).filter q).map f =
          (pre.filter q).map f ++ if q b then [f b] else [] := by
        cases hq : q b <;> simp [hq]
      constructor
      · intro h
        rw [List.append_cons]
        have hnew : q b = true → f b ∉ (pre.filter q).map f := by
          simpa using h [] b as rfl
        refine (ih ?_).mp fun mid a post hsplit => ?_
        · rw [hb]
          cases hq : q b with
          | false => simpa [hq] using hpre
          | true =>
              refine List.Nodup.append hpre (List.nodup_singleton _) ?_
              intro x hx hxb
              rw [if_pos rfl, List.mem_singleton] at hxb
              exact hnew hq (hxb ▸ hx)
        · rw [List.append_assoc]
          exact h (b :: mid) a post (by rw [hsplit]; rfl)
      · intro h mid a post hsplit hq hmem
        rw [hsplit, ← List.append_assoc, List.filter_append, List.map_append,
          List.filter_cons_of_pos hq, List.map_cons] at h
        exact (List.nodup_append.mp h).2.2 _ hmem _ List.mem_cons_self rfl

/-- **A loop that takes nothing twice.**  Its steps depend on their elements, and on that none of
the earlier ones with `q` has the same `f`. -/
theorem returns_iff_nodup {κ : Type*} {I : List α → σ → Prop} {Q : α → Prop} {q : α → Bool}
    {f : α → κ}
    (hstep : ∀ pre a s, I pre s → ((∃ t, step s a = .ok (t, expected a)) ↔
      Q a ∧ (q a = true → f a ∉ (pre.filter q).map f)))
    (hkeep : ∀ pre a s t, I pre s → step s a = .ok (t, expected a) → I (pre ++ [a]) t)
    (hs : I [] s) :
    (∃ t, Returns step s as expected t) ↔ (∀ a ∈ as, Q a) ∧ ((as.filter q).map f).Nodup := by
  have hnodup : (∀ mid a post, as = mid ++ a :: post →
      q a = true → f a ∉ (([] ++ mid).filter q).map f) ↔ ((([] ++ as).filter q).map f).Nodup :=
    forall_split_iff_nodup List.nodup_nil
  rw [returns_iff hstep hkeep hs]
  constructor
  · intro hall
    refine ⟨fun a ha => ?_, hnodup.mp fun mid a post hsplit => (hall mid a post hsplit).2⟩
    obtain ⟨mid, post, hsplit⟩ := List.append_of_mem ha
    exact (hall mid a post hsplit).1
  · rintro ⟨hall, hdifferent⟩ mid a post hsplit
    exact ⟨hall a (hsplit ▸ List.mem_append_right mid List.mem_cons_self),
      hnodup.mpr hdifferent mid a post hsplit⟩

end RebooterHub.Logged
