import Mathlib.Logic.Function.Basic
import Mathlib.Tactic.Linarith
import RebooterHub.Commands.Queue
import RebooterHub.Support.Rows
import RebooterHub.Support.Runs

/-!
# Inbox — Acks

`attention_acks`: the items of the attention feed that operators have put away, for good or for a
while.

`Hidden` says what the acknowledgements are for: an item is hidden until a time, or for good.
`acked_refines`: the table does that, and the housekeeping that deletes old rows is never seen.
-/

namespace RebooterHub.Inbox
open Commands (maxTime minTime)
open Rows Runs

/-- A row of `attention_acks`. -/
structure Ack where
  attentionId : String
  ackedByUserId : Option String
  ackedAt : Time
  snoozeUntil : Option Time
  reason : Option String
deriving DecidableEq, Repr

/-- Why `ack` fails: the snooze is out of the range of `datetime`, or the id is longer than its
column. -/
inductive AckError where
  | overflow
  | tooLong
deriving DecidableEq, Repr

/-- The `snooze_until` of `ack`. -/
def snoozeUntil (now : Time) : Option Int → Except AckError (Option Time)
  | none => .ok none
  | some n =>
    if n ≤ 0 then .ok none
    else if now + seconds n ≤ maxTime then .ok (some (now + seconds n))
    else .error .overflow

/-- The arguments of `ack`. -/
structure AckRequest where
  attentionId : String
  byUserId : Option String
  snoozeSeconds : Option Int
  reason : Option String
deriving DecidableEq, Repr

/-- `ack`. -/
def ack (now : Time) (r : AckRequest) (rows : List Ack) : Except AckError (List Ack) := do
  let snooze ← snoozeUntil now r.snoozeSeconds
  if rows.any (·.attentionId = r.attentionId) then
    return amend Ack.attentionId r.attentionId (fun row =>
      { row with
        ackedByUserId := r.byUserId
        ackedAt := now
        snoozeUntil := snooze
        reason := if r.reason.getD "" = "" then row.reason else r.reason }) rows
  else if 120 < r.attentionId.length then .error .tooLong
  else return rows ++ [⟨r.attentionId, r.byUserId, now, snooze, r.reason⟩]

/-- `unack`. -/
def unack (attentionId : String) (rows : List Ack) : List Ack :=
  rows.filter (·.attentionId ≠ attentionId)

/-- `expire_old_acks`. -/
def expireOldAcks (now : Time) (rows : List Ack) : List Ack :=
  rows.filter fun row => match row.snoozeUntil with
    | none => true
    | some until_ => now - seconds 86400 ≤ until_

/-- A snooze is not over. -/
def standing (now : Time) : Option Time → Bool
  | none => true
  | some until_ => now < until_

/-- `acked_ids`. -/
def ackedIds (now : Time) (rows : List Ack) : List String :=
  (rows.filter fun row => standing now row.snoozeUntil).map (·.attentionId)

/-! ### What acknowledgements are for -/

/-- Until when an item is hidden. -/
inductive Hidden where
  | no
  | until_ (t : Time)
  | forGood

/-- The item is hidden at a time. -/
def Hidden.at_ (now : Time) : Hidden → Prop
  | .no => False
  | .until_ t => now < t
  | .forGood => True

/-- A request of the operators, or the housekeeping. -/
inductive AckStep where
  | ack (r : AckRequest)
  | unack (attentionId : String)
  | expire

/-- What a request means: an id that is too long, or a snooze that is, changes nothing. -/
def Hidden.step (hidden : String → Hidden) (a : Time × AckStep) : String → Hidden :=
  match a.2 with
  | .ack r =>
    if 120 < r.attentionId.length then hidden
    else match snoozeUntil a.1 r.snoozeSeconds with
      | .ok none => Function.update hidden r.attentionId .forGood
      | .ok (some t) => Function.update hidden r.attentionId (.until_ t)
      | .error _ => hidden
  | .unack id => Function.update hidden id .no
  | .expire => hidden

/-- The table and the clock. -/
structure AckTable where
  rows : List Ack
  clock : Time

/-- A request at a time; one that fails leaves the table. -/
def AckTable.step (s : AckTable) (a : Time × AckStep) : AckTable where
  rows := match a.2 with
    | .ack r => match ack a.1 r s.rows with
      | .ok rows => rows
      | .error _ => s.rows
    | .unack id => unack id s.rows
    | .expire => expireOldAcks a.1 s.rows
  clock := a.1

/-- Time goes on. -/
def AckTable.ok (s : AckTable) (a : Time × AckStep) : Prop := s.clock ≤ a.1

/-- A row hides the item. -/
def Hides (rows : List Ack) (id : String) (t : Time) : Prop :=
  ∃ row ∈ rows, row.attentionId = id ∧ standing t row.snoozeUntil = true

theorem mem_ackedIds {rows : List Ack} {id : String} {t : Time} :
    id ∈ ackedIds t rows ↔ Hides rows id t := by
  rw [ackedIds, List.mem_map]
  constructor
  · rintro ⟨row, hrow, hid⟩
    obtain ⟨hrow, hstanding⟩ := List.mem_filter.mp hrow
    exact ⟨row, hrow, hid, hstanding⟩
  · rintro ⟨row, hrow, hid, hstanding⟩
    exact ⟨row, List.mem_filter.mpr ⟨hrow, hstanding⟩, hid⟩

/-- The table does what the requests mean, from now on. -/
structure Refines (hidden : String → Hidden) (s : AckTable) : Prop where
  keyed : Keyed Ack.attentionId s.rows
  short : ∀ row ∈ s.rows, row.attentionId.length ≤ 120
  hides : ∀ id t, s.clock ≤ t → (Hides s.rows id t ↔ (hidden id).at_ t)

section
variable {rows rows' : List Ack} {id : String} {t now : Time} {r : AckRequest}
  {hidden : String → Hidden} {s : AckTable}

/-- What an acknowledgement does, if it does not fail. -/
theorem ack_spec (h : ack now r rows = .ok rows') : ∃ snooze,
    snoozeUntil now r.snoozeSeconds = .ok snooze ∧
      ((∃ row ∈ rows, row.attentionId = r.attentionId) ∧ (∃ reason : Ack → Option String,
          rows' = amend Ack.attentionId r.attentionId
            (fun row => ⟨row.attentionId, r.byUserId, now, snooze, reason row⟩) rows) ∨
        (∀ row ∈ rows, row.attentionId ≠ r.attentionId) ∧ r.attentionId.length ≤ 120 ∧
          rows' = rows ++ [⟨r.attentionId, r.byUserId, now, snooze, r.reason⟩]) := by
  rw [ack] at h
  cases hsnooze : snoozeUntil now r.snoozeSeconds with
  | error e =>
      rw [hsnooze] at h
      cases h
  | ok snooze =>
      rw [hsnooze] at h
      refine ⟨snooze, rfl, ?_⟩
      simp only [bind, Except.bind, pure, Except.pure] at h
      split at h
      · next hany =>
          refine .inl ⟨by simpa using hany, _, (Except.ok.inj h).symm⟩
      · next hany =>
          split at h
          · cases h
          · next hshort =>
              exact .inr ⟨by simpa using hany, not_lt.mp hshort, (Except.ok.inj h).symm⟩

/-- An acknowledgement of an item with a row does not fail, unless its snooze does. -/
theorem ack_error {e : AckError} (h : ack now r rows = .error e) :
    (∃ e, snoozeUntil now r.snoozeSeconds = .error e) ∨
      (∀ row ∈ rows, row.attentionId ≠ r.attentionId) ∧ 120 < r.attentionId.length := by
  rw [ack] at h
  cases hsnooze : snoozeUntil now r.snoozeSeconds with
  | error e => exact .inl ⟨e, rfl⟩
  | ok snooze =>
      rw [hsnooze] at h
      simp only [bind, Except.bind, pure, Except.pure] at h
      split at h
      · cases h
      · next hany =>
          split at h
          · next hlong => exact .inr ⟨by simpa using hany, hlong⟩
          · cases h

/-- Which items an acknowledgement hides. -/
theorem hides_ack (h : ack now r rows = .ok rows') {snooze : Option Time}
    (hsnooze : snoozeUntil now r.snoozeSeconds = .ok snooze) :
    Hides rows' id t ↔ if id = r.attentionId then standing t snooze = true else Hides rows id t := by
  obtain ⟨snooze', hsnooze', hcases⟩ := ack_spec h
  obtain rfl := Except.ok.inj (hsnooze.symm.trans hsnooze')
  by_cases hid : id = r.attentionId
  · rw [if_pos hid]
    rcases hcases with ⟨⟨row, hrow, hrid⟩, reason, rfl⟩ | ⟨hnone, -, rfl⟩
    · constructor
      · rintro ⟨row', hrow', hrid', hstanding⟩
        rcases mem_amend hrow' with ⟨-, hne⟩ | ⟨_, _, _, rfl⟩
        · exact absurd (hrid'.trans hid) hne
        · exact hstanding
      · intro hstanding
        have hmem : (⟨row.attentionId, r.byUserId, now, snooze, reason row⟩ : Ack) ∈
            amend Ack.attentionId r.attentionId
              (fun row => ⟨row.attentionId, r.byUserId, now, snooze, reason row⟩) rows := by
          rw [← hrid]
          exact mem_amend_self hrow
        exact ⟨_, hmem, hrid.trans hid.symm, hstanding⟩
    · constructor
      · rintro ⟨row', hrow', hrid', hstanding⟩
        rcases List.mem_append.mp hrow' with hrow' | hrow'
        · exact absurd (hrid'.trans hid) (hnone row' hrow')
        · obtain rfl := List.mem_singleton.mp hrow'
          exact hstanding
      · intro hstanding
        exact ⟨_, List.mem_append_right _ List.mem_cons_self, hid.symm, hstanding⟩
  · rw [if_neg hid]
    rcases hcases with ⟨-, reason, rfl⟩ | ⟨-, -, rfl⟩
    · constructor
      · rintro ⟨row', hrow', hrid', hstanding⟩
        rcases mem_amend hrow' with ⟨hmem, -⟩ | ⟨row, -, hk, rfl⟩
        · exact ⟨row', hmem, hrid', hstanding⟩
        · exact absurd (hrid'.symm.trans hk) hid
      · rintro ⟨row, hrow, hrid, hstanding⟩
        exact ⟨row, mem_amend_of_ne hrow fun heq => hid (hrid.symm.trans heq), hrid, hstanding⟩
    · constructor
      · rintro ⟨row', hrow', hrid', hstanding⟩
        rcases List.mem_append.mp hrow' with hrow' | hrow'
        · exact ⟨row', hrow', hrid', hstanding⟩
        · obtain rfl := List.mem_singleton.mp hrow'
          exact absurd hrid'.symm hid
      · rintro ⟨row, hrow, hrid, hstanding⟩
        exact ⟨row, List.mem_append_left _ hrow, hrid, hstanding⟩

theorem hides_unack {gone : String} :
    Hides (unack gone rows) id t ↔ id ≠ gone ∧ Hides rows id t := by
  constructor
  · rintro ⟨row, hrow, hrid, hstanding⟩
    obtain ⟨hrow, hne⟩ := List.mem_filter.mp hrow
    exact ⟨fun heq => by simp [hrid, heq] at hne, row, hrow, hrid, hstanding⟩
  · rintro ⟨hne, row, hrow, hrid, hstanding⟩
    exact ⟨row, List.mem_filter.mpr ⟨hrow, by simpa [hrid] using hne⟩, hrid, hstanding⟩

/-- The rows that the housekeeping deletes hide nothing any more. -/
theorem hides_expire (ht : now ≤ t) : Hides (expireOldAcks now rows) id t ↔ Hides rows id t := by
  constructor
  · rintro ⟨row, hrow, hrid, hstanding⟩
    exact ⟨row, List.mem_of_mem_filter hrow, hrid, hstanding⟩
  · rintro ⟨row, hrow, hrid, hstanding⟩
    refine ⟨row, List.mem_filter.mpr ⟨hrow, ?_⟩, hrid, hstanding⟩
    cases hsnooze : row.snoozeUntil with
    | none => rfl
    | some until_ =>
        rw [hsnooze, standing, decide_eq_true_iff] at hstanding
        simp only [decide_eq_true_iff]
        have hday : (0 : Int) ≤ seconds 86400 := by decide
        linarith

theorem Refines.later (h : Refines hidden s) (hclock : s.clock ≤ now) :
    Refines hidden { s with clock := now } where
  keyed := h.keyed
  short := h.short
  hides id t ht := h.hides id t (hclock.trans ht)

theorem Refines.ack (h : Refines hidden s) (r : AckRequest) (hclock : s.clock = now) :
    Refines (Hidden.step hidden (now, .ack r)) (s.step (now, .ack r)) := by
  have hnone : ∀ rows', Inbox.ack now r s.rows = .ok rows' → ¬120 < r.attentionId.length := by
    intro rows' hack
    obtain ⟨snooze, -, ⟨⟨row, hrow, hrid⟩, -⟩ | ⟨-, hshort, -⟩⟩ := ack_spec hack
    · exact hrid ▸ not_lt.mpr (h.short row hrow)
    · exact not_lt.mpr hshort
  cases hack : Inbox.ack now r s.rows with
  | error e =>
      have hrows : s.step (now, .ack r) = { s with clock := now } := by
        simp only [AckTable.step, hack]
      have hhidden : Hidden.step hidden (now, .ack r) = hidden := by
        rw [Hidden.step]
        dsimp only
        rcases ack_error hack with ⟨e, hsnooze⟩ | ⟨-, hlong⟩
        · rw [hsnooze, ite_self]
        · rw [if_pos hlong]
      rw [hrows, hhidden]
      exact h.later hclock.le
  | ok rows' =>
      have hrows : s.step (now, .ack r) = ⟨rows', now⟩ := by
        simp only [AckTable.step, hack]
      obtain ⟨snooze, hsnooze, hcases⟩ := ack_spec hack
      rw [hrows]
      refine ⟨?_, ?_, fun id t ht => ?_⟩
      · rcases hcases with ⟨-, reason, rfl⟩ | ⟨hnew, -, rfl⟩
        · exact h.keyed.amend fun _ => rfl
        · exact h.keyed.append (find?_eq_none_iff.mpr (by simpa using hnew))
      · rcases hcases with ⟨-, reason, rfl⟩ | ⟨-, hshort, rfl⟩
        · exact forall_amend h.short fun row hrow _ => h.short row hrow
        · intro row hrow
          rcases List.mem_append.mp hrow with hrow | hrow
          · exact h.short row hrow
          · obtain rfl := List.mem_singleton.mp hrow
            exact hshort
      · rw [hides_ack hack hsnooze, Hidden.step]
        dsimp only
        rw [if_neg (hnone rows' hack), hsnooze]
        have hold := h.hides id t (hclock.le.trans ht)
        cases snooze with
        | none =>
            simp only [Function.update_apply]
            split
            · simp [standing, Hidden.at_]
            · exact hold
        | some until_ =>
            simp only [Function.update_apply]
            split
            · simp [standing, Hidden.at_]
            · exact hold

theorem Refines.step {a : Time × AckStep} (h : Refines hidden s) (hok : s.ok a) :
    Refines (Hidden.step hidden a) (s.step a) := by
  obtain ⟨now, request⟩ := a
  have hnow : Refines hidden { s with clock := now } := h.later hok
  cases request with
  | ack r => exact hnow.ack r rfl
  | unack gone =>
      refine ⟨h.keyed.filter _, fun row hrow => h.short row (List.mem_of_mem_filter hrow), ?_⟩
      intro id t ht
      rw [AckTable.step, Hidden.step]
      dsimp only
      rw [hides_unack, hnow.hides id t ht, Function.update_apply]
      split
      · next heq => simp [heq, Hidden.at_]
      · next hne => simp [hne]
  | expire =>
      refine ⟨h.keyed.filter _, fun row hrow => h.short row (List.mem_of_mem_filter hrow), ?_⟩
      intro id t ht
      have ht : now ≤ t := ht
      rw [AckTable.step, Hidden.step]
      dsimp only
      rw [hides_expire ht, hnow.hides id t ht]

theorem Refines.run {as : List (Time × AckStep)} (h : Refines hidden s)
    (has : Admits AckTable.step AckTable.ok s as) :
    Refines (Runs.run Hidden.step hidden as) (Runs.run AckTable.step s as) := by
  induction as generalizing hidden s with
  | nil => exact h
  | cons a as ih => exact ih (h.step has.1) has.2

/-- No item is hidden in an empty table. -/
theorem refines_start (start : Time) : Refines (fun _ => .no) ⟨[], start⟩ where
  keyed := List.nodup_nil
  short := by simp
  hides := by simp [Hides, Hidden.at_]

/-- An item whose id is too long for its column is never put away. -/
theorem Refines.not_hides_of_long (h : Refines hidden s) (hlong : 120 < id.length) (t : Time) :
    ¬Hides s.rows id t := by
  rintro ⟨row, hrow, rfl, -⟩
  exact not_le.mpr hlong (h.short row hrow)

/-- **Acknowledgements are kept.**  After every run of acknowledgements, withdrawals and
housekeeping the table has one row for an item at most, and from then on an item is among those
that the feed leaves out exactly while the last request about it hides it. -/
theorem acked_refines {start : Time} {as : List (Time × AckStep)}
    (has : Admits AckTable.step AckTable.ok ⟨[], start⟩ as) :
    Keyed Ack.attentionId (run AckTable.step ⟨[], start⟩ as).rows ∧
      ∀ id t, (run AckTable.step ⟨[], start⟩ as).clock ≤ t →
        (id ∈ ackedIds t (run AckTable.step ⟨[], start⟩ as).rows ↔
          (run Hidden.step (fun _ => .no) as id).at_ t) := by
  have hrun := (refines_start start).run has
  refine ⟨hrun.keyed, fun id t ht => ?_⟩
  rw [mem_ackedIds]
  exact hrun.hides id t ht

end

/-- An item snoozed for an hour, put away for good, and then cleared. -/
def requests : List (Time × AckStep) :=
  [(0, .ack ⟨"device_never:dev_1", none, some 3600, none⟩),
    (seconds 60, .ack ⟨"device_never:dev_1", none, none, some "in the drawer"⟩),
    (seconds 90, .expire), (seconds 120, .unack "device_never:dev_1")]

theorem requests_refine :
    Keyed Ack.attentionId (run AckTable.step ⟨[], 0⟩ requests).rows ∧
      ∀ id t, (run AckTable.step ⟨[], 0⟩ requests).clock ≤ t →
        (id ∈ ackedIds t (run AckTable.step ⟨[], 0⟩ requests).rows ↔
          (run Hidden.step (fun _ => .no) requests id).at_ t) :=
  acked_refines (by simp [requests, AckTable.ok, AckTable.step, seconds])

end RebooterHub.Inbox
