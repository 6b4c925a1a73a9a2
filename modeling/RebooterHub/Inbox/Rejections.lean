import Mathlib.Data.Prod.Lex
import RebooterHub.Commands.Payload
import RebooterHub.Inbox.Acks
import RebooterHub.Inbox.Attempts
import RebooterHub.Support.TopRows

/-!
# Inbox — Rejections

The items of the attention feed for devices whose token is rejected: `list_recent` of the table of
failed requests, and what `_compute` makes of its rows.

`rejections_shown` says what the operators see, over all requests of the devices and all
acknowledgements.
-/

namespace RebooterHub.Inbox
open Commands (startsWith)
open Rows Runs TopRows

/-- `DEVICE_AUTH_REJECTED_LOOKBACK_MINUTES`. -/
def lookback : Time := seconds (60 * 60)

/-- `DEVICE_AUTH_REJECTED_MIN_HITS`. -/
def minHits : ℕ := 3

/-- `_NEVER_REAL_DEVICE_IPS`. -/
def neverRealDeviceIps : List String := ["127.0.0.1", "::1", "192.168.18.1"]

/-- `_QA_AUTH_REJECTED_PREFIXES`. -/
def qaAuthRejectedPrefixes : List String :=
  ["qa ", "qa-", "qa_", "test-", "test_", "playwright", "dev_qa_", "dev_test"]

/-- The `limit` that `list_recent` keeps to. -/
def listLimit (limit : ℕ) : ℕ := max 1 (min limit 1000)

/-- What `list_recent(limit, since_minutes)` may find: the order of rows seen at one time is
open. -/
def ListRecent (limit : ℕ) (since now : Time) (rows listed : List Attempt) : Prop :=
  Top (·.lastSeenAt) (listLimit limit) (rows.filter (now - since ≤ ·.lastSeenAt)) listed

/-- `value or default`. -/
def given (default : String) (value : Option String) : String :=
  if value.getD "" = "" then default else value.getD ""

/-- `cdi` of `_compute`. -/
def deviceLabel (claimedDeviceId : Option String) : String :=
  given "(no device_id)" claimedDeviceId

/-- `ip` of `_compute`. -/
def ipLabel (sourceIp : String) : String := given "?" (some sourceIp)

/-- A request of the hub's own machine, or of a test. -/
def isNoise (claimedDeviceId : Option String) (sourceIp : String) : Bool :=
  ipLabel sourceIp ∈ neverRealDeviceIps ||
    qaAuthRejectedPrefixes.any fun start =>
      startsWith (String.ofList (Text.lower (deviceLabel claimedDeviceId).toList)) start

/-- The `id` of an item. -/
def rejectionId (claimedDeviceId : Option String) (sourceIp endpoint : String) : String :=
  "device_auth_rejected:" ++ deviceLabel claimedDeviceId ++ ":" ++ ipLabel sourceIp ++ ":" ++
    endpoint

/-- The items of a key have one `id`. -/
def Key.itemId (k : Key) : String := rejectionId (some k.claimedDeviceId) k.sourceIp k.endpoint

/-- An item of the attention feed, of kind `device_auth_rejected`. -/
structure Rejection where
  kind : String
  id : String
  severity : String
  title : String
  deviceId : String
  deviceName : String
  sourceIp : String
  since : String
  hint : String
  rank : Int
deriving DecidableEq, Repr

/-- The item of a row. -/
def rejection (row : Attempt) : Rejection where
  kind := "device_auth_rejected"
  id := rejectionId row.claimedDeviceId row.sourceIp row.endpoint
  severity := "warn"
  title := "Device auth rejected (" ++ toString row.hitCount ++ " attempts) on " ++ row.endpoint
  deviceId := deviceLabel row.claimedDeviceId
  deviceName := deviceLabel row.claimedDeviceId
  sourceIp := ipLabel row.sourceIp
  since := strftime row.lastSeenAt
  hint := "A device is calling with a stale or unknown bearer " ++
    "token. Mint a fresh enrollment token and re-enrol " ++
    "the device — the firmware's 401 → re-enroll loop " ++
    "should pick it up automatically."
  rank := 35

/-- The rows that make an item. -/
def surfaces (row : Attempt) : Bool :=
  minHits ≤ row.hitCount && !isNoise row.claimedDeviceId row.sourceIp

/-- The items that `_compute` makes of the rows it lists, less those that are put away. -/
def rejections (now : Time) (acks : List Ack) (listed : List Attempt) : List Rejection :=
  ((listed.filter surfaces).map rejection).filter (·.id ∉ ackedIds now acks)

/-- The table after the requests of the devices. -/
def attemptsAfter (start : Time) (as : List Event) : List Attempt :=
  (run Tracker.step (Tracker.start start) as).rows

/-- The requests of the devices. -/
def requestsOf (start : Time) (as : List Event) : List (Time × Rejected) :=
  emitted Tracker.step Tracker.out (Tracker.start start) as

section
variable {now : Time} {acks : List Ack} {rows listed : List Attempt} {item : Rejection}
  {log : List (Time × Rejected)}

theorem mem_rejections : item ∈ rejections now acks listed ↔
    ∃ row ∈ listed, surfaces row = true ∧ rejection row = item ∧ ¬Hides acks item.id now := by
  rw [rejections, List.mem_filter, List.mem_map, decide_eq_true_iff, mem_ackedIds]
  constructor
  · rintro ⟨⟨row, hrow, hitem⟩, hacked⟩
    obtain ⟨hrow, hsurfaces⟩ := List.mem_filter.mp hrow
    exact ⟨row, hrow, hsurfaces, hitem, hacked⟩
  · rintro ⟨row, hrow, hsurfaces, hitem, hacked⟩
    exact ⟨⟨row, List.mem_filter.mpr ⟨hrow, hsurfaces⟩, hitem⟩, hacked⟩

/-- A row that makes an item has a key. -/
theorem Faithful.key_of_surfaces (h : Faithful log rows) {row : Attempt} (hrow : row ∈ rows)
    (hsurfaces : surfaces row = true) : ∃ k, row.key = some k := by
  cases hk : row.key with
  | some k => exact ⟨k, rfl⟩
  | none =>
      -- such a row is of one request
      obtain ⟨e, -, hsums⟩ := h.lone row hrow hk
      rw [surfaces, Bool.and_eq_true, decide_eq_true_iff, hsums.count] at hsurfaces
      exact absurd hsurfaces.1 (by simp [minHits])

theorem id_of_key {row : Attempt} {k : Key} (hk : row.key = some k) :
    (rejection row).id = k.itemId ∧
      isNoise row.claimedDeviceId row.sourceIp = isNoise (some k.claimedDeviceId) k.sourceIp := by
  obtain ⟨device, hdevice, rfl⟩ := Option.map_eq_some_iff.mp hk
  rw [rejection, hdevice]
  exact ⟨rfl, rfl⟩

/-- When few rows were seen within the hour, all are listed. -/
theorem mem_listed (hlist : ListRecent 50 lookback now rows listed)
    (hfew : seenFrom (now - lookback) rows ≤ 50) {row : Attempt} (hrow : row ∈ rows)
    (hseen : now - lookback ≤ row.lastSeenAt) : row ∈ listed := by
  obtain ⟨order, ⟨hperm, -⟩, rfl⟩ := hlist
  have hlength : order.length ≤ listLimit 50 := by
    rw [hperm.length_eq, ← List.countP_eq_length_filter]
    exact hfew
  rw [List.take_of_length_le hlength]
  exact hperm.mem_iff.mpr (List.mem_filter.mpr ⟨hrow, decide_eq_true hseen⟩)

/-- A key with enough requests within the hour has a row that makes an item. -/
theorem Faithful.exists_surfaces (h : Faithful log rows)
    (hlist : ListRecent 50 lookback now rows listed) (hfew : seenFrom (now - lookback) rows ≤ 50)
    {before after : List (Time × Rejected)} {e : Time × Rejected} {k : Key}
    (hlog : log = before ++ e :: after) (hkey : e.2.key = some k) (hrecent : now - lookback ≤ e.1)
    (hhits : minHits ≤ (ofKey k (e :: after)).length)
    (hreal : isNoise (some k.claimedDeviceId) k.sourceIp = false) :
    ∃ row ∈ listed, surfaces row = true ∧ (rejection row).id = k.itemId := by
  rcases h.counted before e after k hlog hkey with ⟨row, hrow, hk, hat, hcount⟩ | hmany
  · obtain ⟨hid, hnoise⟩ := id_of_key hk
    refine ⟨row, mem_listed hlist hfew hrow (hrecent.trans hat), ?_, hid⟩
    rw [surfaces, hnoise, hreal, Bool.not_false, Bool.and_true, decide_eq_true_iff]
    exact hhits.trans hcount
  · -- the row is gone only if many others were seen within the hour
    have hless : seenFrom e.1 rows ≤ seenFrom (now - lookback) rows :=
      List.countP_mono_left fun row _ hrow => by
        rw [decide_eq_true_iff] at hrow ⊢
        exact hrecent.trans hrow
    have hlarge : 50 < maxRowsKept + 1 - cutoffCount := by decide
    omega

end

/-- A device that calls three times with a token that was revoked. -/
def insistent : List Event :=
  [seconds 1, seconds 31, seconds 61].map fun now =>
    ⟨now, ⟨some "dev_1", some "10.0.0.7", "/api/v1/device/heartbeat", none, true⟩, []⟩

theorem admits_insistent : Admits Tracker.step Tracker.ok (Tracker.start 0) insistent := by
  refine ⟨⟨by decide, fun h => ?_⟩, ⟨by decide, fun h => ?_⟩, ⟨by decide, fun h => ?_⟩, trivial⟩
  · exact absurd h (by decide)
  · exact absurd h (by decide)
  · exact absurd h (by decide)

end RebooterHub.Inbox
