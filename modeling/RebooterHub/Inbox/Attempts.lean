import Mathlib.Data.Int.Order.Basic
import RebooterHub.Data.Text
import RebooterHub.Data.Time
import RebooterHub.Support.Rows
import RebooterHub.Support.Runs

/-!
# Inbox — Attempts

`unregistered.record`: the table of the device requests that failed to authenticate.

Requests of one claimed device, address and endpoint share a row that counts them; the unique index
takes rows without a claimed device for different ones.  When the table is over its cap, its oldest
rows go.

* `Faithful`: what the table says of the requests so far, which every run keeps (`Faithful.run`).
-/

namespace RebooterHub.Inbox
open Rows Runs

/-- A request that failed to authenticate.  The device it claims is `str` of what it sent. -/
structure Rejected where
  claimedDeviceId : Option String
  sourceIp : Option String
  endpoint : String
  userAgent : Option String
  authPresent : Bool
deriving DecidableEq, Repr

/-- A row of `unregistered_auth_attempts`. -/
structure Attempt where
  id : ℕ
  claimedDeviceId : Option String
  sourceIp : String
  endpoint : String
  userAgent : Option String
  authPresent : Bool
  firstSeenAt : Time
  lastSeenAt : Time
  hitCount : ℕ
deriving DecidableEq, Repr

/-- `_MAX_ROWS_KEPT`. -/
def maxRowsKept : ℕ := 5000

/-- `cutoff_count`. -/
def cutoffCount : ℕ := max 1 (maxRowsKept / 10)

/-- `_sanitize`. -/
def sanitize (maxLen : ℕ) : Option String → Option String
  | none => none
  | some value =>
    if Text.strip value.toList = [] then none
    else some (String.ofList ((Text.strip value.toList).take maxLen))

/-- What a row is found by: the claimed device, the address and the endpoint. -/
structure Key where
  claimedDeviceId : String
  sourceIp : String
  endpoint : String
deriving DecidableEq, Repr

namespace Rejected

/-- `cdi`. -/
def device (r : Rejected) : Option String := sanitize 80 r.claimedDeviceId

/-- `ip`. -/
def ip (r : Rejected) : String := (sanitize 64 r.sourceIp).getD "unknown"

/-- `ep`. -/
def path (r : Rejected) : String := (sanitize 80 (some r.endpoint)).getD "unknown"

/-- `ua`. -/
def agent (r : Rejected) : Option String := sanitize 200 r.userAgent

/-- The key of a request that claims a device. -/
def key (r : Rejected) : Option Key := r.device.map (⟨·, r.ip, r.path⟩)

/-- The row that a request inserts. -/
def insert (r : Rejected) (now : Time) (id : ℕ) : Attempt where
  id := id
  claimedDeviceId := r.device
  sourceIp := r.ip
  endpoint := r.path
  userAgent := r.agent
  authPresent := r.authPresent
  firstSeenAt := now
  lastSeenAt := now
  hitCount := 1

/-- What a request does to a row it conflicts with. -/
def hit (r : Rejected) (now : Time) (row : Attempt) : Attempt :=
  { row with
    lastSeenAt := now
    hitCount := row.hitCount + 1
    userAgent := r.agent
    authPresent := r.authPresent }

end Rejected

/-- The key of a row with a claimed device; a row without one has none. -/
def Attempt.key (row : Attempt) : Option Key :=
  row.claimedDeviceId.map (⟨·, row.sourceIp, row.endpoint⟩)

/-- `INSERT … ON CONFLICT (claimed_device_id, source_ip, endpoint) DO UPDATE`. -/
def upsert (now : Time) (id : ℕ) (r : Rejected) (rows : List Attempt) : List Attempt :=
  if r.key.isSome ∧ ∃ row ∈ rows, row.key = r.key then amend Attempt.key r.key (r.hit now) rows
  else rows ++ [r.insert now id]

/-- `victims` are the ids that `ORDER BY last_seen_at LIMIT cutoff_count` may find. -/
def Oldest (victims : List ℕ) (rows : List Attempt) : Prop :=
  (rows.filter (·.id ∈ victims)).length = cutoffCount ∧
    ∀ row ∈ rows, row.id ∈ victims → ∀ other ∈ rows, other.id ∉ victims →
      row.lastSeenAt ≤ other.lastSeenAt

/-- The rolling cap. -/
def prune (victims : List ℕ) (rows : List Attempt) : List Attempt :=
  if maxRowsKept < rows.length then rows.filter (·.id ∉ victims) else rows

/-- The table, the clock, and the next id. -/
structure Tracker where
  rows : List Attempt
  clock : Time
  nextId : ℕ

/-- A request at a time, and the rows that go if the table is over its cap. -/
structure Event where
  now : Time
  request : Rejected
  victims : List ℕ

namespace Tracker

/-- `record`. -/
def step (s : Tracker) (a : Event) : Tracker where
  rows := prune a.victims (upsert a.now s.nextId a.request s.rows)
  clock := a.now
  nextId := s.nextId + 1

/-- Time goes on, and the rows that go are the oldest. -/
def ok (s : Tracker) (a : Event) : Prop :=
  s.clock ≤ a.now ∧
    (maxRowsKept < (upsert a.now s.nextId a.request s.rows).length →
      Oldest a.victims (upsert a.now s.nextId a.request s.rows))

/-- The request of an event. -/
def out (_ : Tracker) (a : Event) : List (Time × Rejected) := [(a.now, a.request)]

/-- An empty table. -/
def start (now : Time) : Tracker := ⟨[], now, 0⟩

end Tracker

/-! ### What the table says -/

/-- A row is what a run of requests of one key came to, the first of which made it. -/
structure Sums (row : Attempt) (hits : List (Time × Rejected)) : Prop where
  count : row.hitCount = hits.length
  first : ∃ h, hits.head? = some h ∧ h.1 = row.firstSeenAt
  last : ∃ h, hits.getLast? = some h ∧ h.1 = row.lastSeenAt ∧ h.2.agent = row.userAgent ∧
    h.2.authPresent = row.authPresent
  device : ∀ h ∈ hits, h.2.device = row.claimedDeviceId ∧ h.2.ip = row.sourceIp ∧
    h.2.path = row.endpoint

/-- The requests of a key. -/
def ofKey (k : Key) (log : List (Time × Rejected)) : List (Time × Rejected) :=
  log.filter (·.2.key = some k)

/-- How many rows were seen at a time or later. -/
def seenFrom (t : Time) (rows : List Attempt) : ℕ := rows.countP (t ≤ ·.lastSeenAt)

/-- What the table says of the requests so far.

* It has no two rows of one key.
* A row of a key has counted all its requests from some time on.
* A row without a claimed device is one request alone.
* The row of a key has counted a request and all of its key after it, unless the table holds
  `maxRowsKept + 1 - cutoffCount` rows that were seen no earlier. -/
structure Faithful (log : List (Time × Rejected)) (rows : List Attempt) : Prop where
  unique : (rows.filterMap Attempt.key).Nodup
  keyed : ∀ row ∈ rows, ∀ k, row.key = some k →
    ∃ before after, log = before ++ after ∧ Sums row (ofKey k after)
  lone : ∀ row ∈ rows, row.key = none → ∃ h ∈ log, Sums row [h]
  counted : ∀ before e after k, log = before ++ e :: after → e.2.key = some k →
    (∃ row ∈ rows, row.key = some k ∧ e.1 ≤ row.lastSeenAt ∧
      (ofKey k (e :: after)).length ≤ row.hitCount) ∨
    maxRowsKept + 1 - cutoffCount ≤ seenFrom e.1 rows

section
variable {log : List (Time × Rejected)} {rows : List Attempt} {row : Attempt} {k : Key}
  {now : Time} {r : Rejected} {id : ℕ} {hits : List (Time × Rejected)}

theorem ofKey_append (k : Key) (log log' : List (Time × Rejected)) :
    ofKey k (log ++ log') = ofKey k log ++ ofKey k log' := List.filter_append ..

theorem ofKey_self (h : r.key = some k) : ofKey k [(now, r)] = [(now, r)] := by
  simp [ofKey, h]

theorem ofKey_other (h : r.key ≠ some k) : ofKey k [(now, r)] = [] := by
  simp [ofKey, h]

theorem key_insert : (r.insert now id).key = r.key := rfl

theorem key_hit : (r.hit now row).key = row.key := rfl

theorem sums_insert : Sums (r.insert now id) [(now, r)] where
  count := rfl
  first := ⟨_, rfl, rfl⟩
  last := ⟨_, rfl, rfl, rfl, rfl⟩
  device := by
    intro h hh
    obtain rfl := List.mem_singleton.mp hh
    exact ⟨rfl, rfl, rfl⟩

/-- A request of the key of a row is one more. -/
theorem Sums.hit (h : Sums row hits) (hrow : row.key = some k) (hr : r.key = some k) :
    Sums (r.hit now row) (hits ++ [(now, r)]) where
  count := by
    rw [List.length_append, List.length_singleton, ← h.count]
    rfl
  first := by
    obtain ⟨e, he, hat⟩ := h.first
    exact ⟨e, by rw [List.head?_append, he, Option.some_or], hat⟩
  last := ⟨(now, r), List.getLast?_concat, rfl, rfl, rfl⟩
  device := by
    intro e he
    rcases List.mem_append.mp he with he | he
    · exact h.device e he
    · obtain rfl := List.mem_singleton.mp he
      simp only [Attempt.key, Rejected.key, Option.map_eq_some_iff] at hrow hr
      obtain ⟨d, hd, rfl⟩ := hrow
      obtain ⟨d', hd', hkey⟩ := hr
      obtain ⟨rfl, hip, hpath⟩ := Key.mk.inj hkey
      exact ⟨hd'.trans hd.symm, hip, hpath⟩

/-- A request of another key leaves the sums of a key. -/
theorem keyed_other {before after : List (Time × Rejected)} (h : log = before ++ after)
    (hsums : Sums row (ofKey k after)) (hother : r.key ≠ some k) :
    ∃ before after, log ++ [(now, r)] = before ++ after ∧ Sums row (ofKey k after) := by
  refine ⟨before, after ++ [(now, r)], by rw [h, List.append_assoc], ?_⟩
  rwa [ofKey_append, ofKey_other hother, List.append_nil]

theorem filterMap_hit (key : Option Key) (rows : List Attempt) :
    (amend Attempt.key key (r.hit now) rows).filterMap Attempt.key = rows.filterMap Attempt.key := by
  rw [amend, List.filterMap_map]
  refine List.filterMap_congr fun row _ => ?_
  rw [Function.comp_apply]
  split
  · exact key_hit
  · rfl

theorem seenFrom_hit (hseen : ∀ row ∈ rows, row.lastSeenAt ≤ now) (key : Option Key) (t : Time) :
    seenFrom t rows ≤ seenFrom t (amend Attempt.key key (r.hit now) rows) := by
  rw [seenFrom, seenFrom, amend, List.countP_map]
  refine List.countP_mono_left fun row hrow ht => ?_
  rw [decide_eq_true_iff] at ht
  rw [Function.comp_apply, decide_eq_true_iff]
  split
  · exact ht.trans (hseen row hrow)
  · exact ht

theorem seenFrom_insert (t : Time) : seenFrom t rows ≤ seenFrom t (rows ++ [r.insert now id]) := by
  rw [seenFrom, seenFrom, List.countP_append]
  exact Nat.le_add_right _ _

/-- A request that finds its row. -/
theorem Faithful.hit (h : Faithful log rows) (hseen : ∀ row ∈ rows, row.lastSeenAt ≤ now)
    (hr : r.key = some k) (hfound : ∃ row ∈ rows, row.key = some k) :
    Faithful (log ++ [(now, r)]) (amend Attempt.key (some k) (r.hit now) rows) where
  unique := by
    rw [filterMap_hit]
    exact h.unique
  keyed row hrow k' hk' := by
    rcases mem_amend hrow with ⟨hmem, hne⟩ | ⟨row, hmem, hk, rfl⟩
    · obtain ⟨before, after, hlog, hsums⟩ := h.keyed row hmem k' hk'
      refine keyed_other hlog hsums fun heq => hne ?_
      rw [hk', ← heq, hr]
    · obtain rfl : k = k' := Option.some.inj (hk.symm.trans hk')
      obtain ⟨before, after, hlog, hsums⟩ := h.keyed row hmem k hk
      refine ⟨before, after ++ [(now, r)], by rw [hlog, List.append_assoc], ?_⟩
      rw [ofKey_append, ofKey_self hr]
      exact hsums.hit hk hr
  lone row hrow hk := by
    rcases mem_amend hrow with ⟨hmem, -⟩ | ⟨row, hmem, hk', rfl⟩
    · obtain ⟨e, he, hsums⟩ := h.lone row hmem hk
      exact ⟨e, List.mem_append_left _ he, hsums⟩
    · rw [key_hit, hk'] at hk
      cases hk
  counted before e after k' hlog he := by
    rcases snoc_split hlog with ⟨rfl, rfl, -⟩ | ⟨later, rfl, hold⟩
    · obtain rfl : k = k' := Option.some.inj (hr.symm.trans he)
      obtain ⟨row, hrow, hk⟩ := hfound
      refine .inl ⟨r.hit now row, hk ▸ mem_amend_self hrow, hk, le_rfl, ?_⟩
      rw [ofKey_self hr]
      exact Nat.le_add_left 1 row.hitCount
    · rcases h.counted before e later k' hold he with ⟨row, hrow, hk, hat, hcount⟩ | hmany
      · by_cases hother : k' = k
        · subst hother
          refine .inl ⟨r.hit now row, hk ▸ mem_amend_self hrow, hk, hat.trans (hseen row hrow), ?_⟩
          rw [← List.cons_append, ofKey_append, ofKey_self hr, List.length_append]
          exact Nat.succ_le_succ hcount
        · have hne : r.key ≠ some k' := fun heq => hother (Option.some.inj (heq.symm.trans hr))
          refine .inl ⟨row, mem_amend_of_ne hrow fun heq => hother ?_, hk, hat, ?_⟩
          · exact Option.some.inj (hk.symm.trans heq)
          · rwa [← List.cons_append, ofKey_append, ofKey_other hne, List.append_nil]
      · exact .inr (hmany.trans (seenFrom_hit hseen (some k) e.1))

/-- A request that makes a row. -/
theorem Faithful.insert (h : Faithful log rows)
    (hnew : ∀ k, r.key = some k → ∀ row ∈ rows, row.key ≠ some k) :
    Faithful (log ++ [(now, r)]) (rows ++ [r.insert now id]) where
  unique := by
    have hsingle : [r.insert now id].filterMap Attempt.key = r.key.toList := by
      rw [List.filterMap_cons, key_insert]
      cases r.key <;> rfl
    rw [List.filterMap_append, hsingle, List.nodup_append']
    refine ⟨h.unique, Option.toList_nodup _, fun k hk hk' => ?_⟩
    obtain ⟨row, hrow, hkey⟩ := List.mem_filterMap.mp hk
    exact hnew k (Option.mem_toList.mp hk') row hrow hkey
  keyed row hrow k hk := by
    rcases List.mem_append.mp hrow with hrow | hrow
    · obtain ⟨before, after, hlog, hsums⟩ := h.keyed row hrow k hk
      exact keyed_other hlog hsums fun heq => hnew k heq row hrow hk
    · obtain rfl := List.mem_singleton.mp hrow
      refine ⟨log, [(now, r)], rfl, ?_⟩
      rw [ofKey_self hk]
      exact sums_insert
  lone row hrow hk := by
    rcases List.mem_append.mp hrow with hrow | hrow
    · obtain ⟨e, he, hsums⟩ := h.lone row hrow hk
      exact ⟨e, List.mem_append_left _ he, hsums⟩
    · obtain rfl := List.mem_singleton.mp hrow
      exact ⟨_, List.mem_append_right _ List.mem_cons_self, sums_insert⟩
  counted before e after k hlog he := by
    rcases snoc_split hlog with ⟨rfl, rfl, -⟩ | ⟨later, rfl, hold⟩
    · refine .inl ⟨_, List.mem_append_right _ List.mem_cons_self, he, le_rfl, ?_⟩
      rw [ofKey_self he]
      exact le_rfl
    · rcases h.counted before e later k hold he with ⟨row, hrow, hk, hat, hcount⟩ | hmany
      · refine .inl ⟨row, List.mem_append_left _ hrow, hk, hat, ?_⟩
        have hother : r.key ≠ some k := fun heq => hnew k heq row hrow hk
        rwa [← List.cons_append, ofKey_append, ofKey_other hother, List.append_nil]
      · exact .inr (hmany.trans (seenFrom_insert e.1))

/-- How many rows stay. -/
theorem length_prune {victims : List ℕ} (hoversize : rows.length = maxRowsKept + 1)
    (holdest : Oldest victims rows) :
    (rows.filter (·.id ∉ victims)).length = maxRowsKept + 1 - cutoffCount := by
  have hsplit := List.length_eq_length_filter_add (l := rows) (fun row => row.id ∈ victims)
  have hnot : (rows.filter fun row => !decide (row.id ∈ victims)) =
      rows.filter (·.id ∉ victims) := by simp
  rw [hnot, holdest.1, hoversize] at hsplit
  omega

/-- When a row goes, all rows that stay were seen no earlier. -/
theorem seenFrom_prune_of_victim {victims : List ℕ} (hoversize : rows.length = maxRowsKept + 1)
    (holdest : Oldest victims rows) (hrow : row ∈ rows) (hvictim : row.id ∈ victims) {t : Time}
    (hat : t ≤ row.lastSeenAt) :
    seenFrom t (rows.filter (·.id ∉ victims)) = maxRowsKept + 1 - cutoffCount := by
  rw [← length_prune hoversize holdest, seenFrom, List.countP_eq_length]
  intro other hother
  obtain ⟨hother, hsafe⟩ := List.mem_filter.mp hother
  exact decide_eq_true (hat.trans
    (holdest.2 row hrow hvictim other hother (by simpa using hsafe)))

/-- The oldest rows go. -/
theorem Faithful.prune (h : Faithful log rows) {victims : List ℕ}
    (hoversize : rows.length = maxRowsKept + 1) (holdest : Oldest victims rows) :
    Faithful log (rows.filter (·.id ∉ victims)) where
  unique := h.unique.sublist ((List.filter_sublist).filterMap _)
  keyed row hrow := h.keyed row (List.mem_of_mem_filter hrow)
  lone row hrow := h.lone row (List.mem_of_mem_filter hrow)
  counted before e after k hlog he := by
    rcases h.counted before e after k hlog he with ⟨row, hrow, hk, hat, hcount⟩ | hmany
    · by_cases hvictim : row.id ∈ victims
      · exact .inr (seenFrom_prune_of_victim hoversize holdest hrow hvictim hat).ge
      · exact .inl ⟨row, List.mem_filter.mpr ⟨hrow, by simpa using hvictim⟩, hk, hat, hcount⟩
    · by_cases hvictim : ∃ row ∈ rows, row.id ∈ victims ∧ e.1 ≤ row.lastSeenAt
      · obtain ⟨row, hrow, hvictim, hat⟩ := hvictim
        exact .inr (seenFrom_prune_of_victim hoversize holdest hrow hvictim hat).ge
      · refine .inr (hmany.trans ?_)
        rw [seenFrom, seenFrom, List.countP_filter]
        refine List.countP_mono_left fun row hrow ht => ?_
        rw [decide_eq_true_iff] at ht
        simp only [Bool.and_eq_true, decide_eq_true_iff]
        exact ⟨ht, fun hmem => hvictim ⟨row, hrow, hmem, ht⟩⟩

/-- An event keeps the table faithful, before the cap. -/
theorem Faithful.upsert (h : Faithful log rows) (hseen : ∀ row ∈ rows, row.lastSeenAt ≤ now) :
    Faithful (log ++ [(now, r)]) (upsert now id r rows) := by
  rw [Inbox.upsert]
  split
  · next hfound =>
      obtain ⟨hsome, hfound⟩ := hfound
      obtain ⟨k, hk⟩ := Option.isSome_iff_exists.mp hsome
      rw [hk] at hfound ⊢
      exact h.hit hseen hk hfound
  · next hnone =>
      refine h.insert fun k hk row hrow hkey => hnone ?_
      exact ⟨by rw [hk]; rfl, row, hrow, hkey.trans hk.symm⟩

theorem seen_upsert (hseen : ∀ row ∈ rows, row.lastSeenAt ≤ now) :
    ∀ row ∈ upsert now id r rows, row.lastSeenAt ≤ now := by
  rw [Inbox.upsert]
  split
  · exact forall_amend hseen fun _ _ _ => le_rfl
  · intro row hrow
    rcases List.mem_append.mp hrow with hrow | hrow
    · exact hseen row hrow
    · obtain rfl := List.mem_singleton.mp hrow
      exact le_rfl

theorem length_upsert (now : Time) (id : ℕ) (r : Rejected) (rows : List Attempt) :
    (upsert now id r rows).length ≤ rows.length + 1 := by
  rw [Inbox.upsert]
  split
  · rw [amend, List.length_map]
    omega
  · rw [List.length_append, List.length_singleton]

end

/-- The table, with the requests so far. -/
structure Tracked (log : List (Time × Rejected)) (s : Tracker) : Prop where
  bounded : s.rows.length ≤ maxRowsKept
  faithful : Faithful log s.rows
  seen : ∀ row ∈ s.rows, row.lastSeenAt ≤ s.clock

theorem Tracked.step {log : List (Time × Rejected)} {s : Tracker} {a : Event} (h : Tracked log s)
    (hok : s.ok a) : Tracked (log ++ s.out a) (s.step a) := by
  obtain ⟨hclock, holdest⟩ := hok
  have hseen : ∀ row ∈ s.rows, row.lastSeenAt ≤ a.now := fun row hrow =>
    (h.seen row hrow).trans hclock
  have hupsert : Faithful (log ++ s.out a) (upsert a.now s.nextId a.request s.rows) :=
    h.faithful.upsert hseen
  have hlength := length_upsert a.now s.nextId a.request s.rows
  have hbounded := h.bounded
  by_cases hoversize : maxRowsKept < (upsert a.now s.nextId a.request s.rows).length
  · have hrows : (s.step a).rows =
        (upsert a.now s.nextId a.request s.rows).filter (·.id ∉ a.victims) := if_pos hoversize
    have hfull : (upsert a.now s.nextId a.request s.rows).length = maxRowsKept + 1 := by omega
    exact
      { bounded := by
          rw [hrows, length_prune hfull (holdest hoversize)]
          exact Nat.le_of_ble_eq_true rfl
        faithful := hrows ▸ hupsert.prune hfull (holdest hoversize)
        seen := fun row hrow => seen_upsert hseen row (List.mem_of_mem_filter (hrows ▸ hrow)) }
  · have hrows : (s.step a).rows = upsert a.now s.nextId a.request s.rows := if_neg hoversize
    exact
      { bounded := hrows ▸ not_lt.mp hoversize
        faithful := hrows ▸ hupsert
        seen := fun row hrow => seen_upsert hseen row (hrows ▸ hrow) }

theorem Tracked.run {start : Time} {as : List Event}
    (has : Admits Tracker.step Tracker.ok (Tracker.start start) as) :
    Tracked (emitted Tracker.step Tracker.out (Tracker.start start) as)
      (run Tracker.step (Tracker.start start) as) := by
  have hstart : Tracked [] (Tracker.start start) :=
    { bounded := Nat.zero_le _
      faithful :=
        { unique := List.nodup_nil
          keyed := by simp [Tracker.start]
          lone := by simp [Tracker.start]
          counted := by simp }
      seen := by simp [Tracker.start] }
  have hrun := emitted_invariant (I := Tracked) (fun _ _ _ h hok => h.step hok) hstart has
  rwa [List.nil_append] at hrun

/-- A device that calls twice with a token that was revoked, and a request that claims none. -/
def calls : List Event :=
  [⟨1, ⟨some "dev_1", some "10.0.0.7", "/api/v1/device/heartbeat", none, true⟩, []⟩,
    ⟨2, ⟨some " dev_1 ", some "10.0.0.7", "/api/v1/device/heartbeat", none, true⟩, []⟩,
    ⟨3, ⟨none, some "10.0.0.8", "/api/v1/device/heartbeat", none, false⟩, []⟩]

theorem admits_calls : Admits Tracker.step Tracker.ok (Tracker.start 0) calls := by
  refine ⟨⟨by decide, fun h => ?_⟩, ⟨by decide, fun h => ?_⟩, ⟨by decide, fun h => ?_⟩, trivial⟩
  · exact absurd h (by decide)
  · exact absurd h (by decide)
  · exact absurd h (by decide)

end RebooterHub.Inbox
