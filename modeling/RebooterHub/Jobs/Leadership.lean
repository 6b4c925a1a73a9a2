import RebooterHub.Support.Pools
import RebooterHub.Support.Rows
import RebooterHub.Support.Runs

/-!
# Jobs — Leadership

Which worker process runs the scheduler and the syslog collector: the one whose session of the
database has the advisory lock `_SCHEDULER_LOCK_KEY`.

`_claim_scheduler_lock` takes the lock on a connection of the worker's pool.  It keeps no reference
to the connection, so the connection goes back to the pool and is used like the others; the lock
lasts as long as the connection is open.

* `leaders_le_losses`: there is one leader at most, and one more for each time that a leader's
  connection is closed while the leader lives on.
* `one_leader`: while no pool opens more connections than it keeps, and the database drops none,
  there is one leader after each claim.
* `two_leaders`: a burst that opens one connection more is enough for two.
-/

namespace RebooterHub.Jobs
open Pools Rows Runs

/-- A worker process: `REBOOTER_SCHEDULER_DISABLED`, whether it has come to
`_claim_scheduler_lock`, what that said, and the pool of its engine. -/
structure Worker where
  pid : ℕ
  disabled : Bool
  claimed : Bool
  leads : Bool
  pool : Pool ℕ

/-- The scheduler runs. -/
def Worker.schedules (w : Worker) : Bool := w.leads && !w.disabled

/-- `_DEFAULT_POOL_SIZE` and `_DEFAULT_MAX_OVERFLOW`. -/
def defaultBounds : Bounds := ⟨12, 8, by decide⟩

/-- The worker processes, the session that has the lock, and the next session. -/
structure Cluster where
  workers : List Worker
  holder : Option ℕ
  next : ℕ

/-- What happens next. -/
inductive Move where
  /-- Gunicorn starts a worker. -/
  | boot (pid : ℕ) (disabled : Bool)
  /-- `_claim_scheduler_lock`. -/
  | claim (pid : ℕ)
  /-- `_claim_scheduler_lock`, and the database does not answer. -/
  | unreachable (pid : ℕ)
  /-- A thread needs a connection. -/
  | checkout (pid : ℕ)
  /-- A thread gives a connection back. -/
  | checkin (pid c : ℕ)
  /-- The database drops a session, and the pool opens another in its place. -/
  | lose (pid c : ℕ)
  | exit (pid : ℕ)

namespace Cluster

/-- No worker, and the lock is free. -/
def start : Cluster := ⟨[], none, 0⟩

/-- The worker with a process id. -/
def worker (s : Cluster) (pid : ℕ) : Option Worker := s.workers.find? (·.pid = pid)

/-- A worker is changed. -/
def change (s : Cluster) (pid : ℕ) (f : Worker → Worker) : Cluster :=
  { s with workers := amend Worker.pid pid f s.workers }

/-- Sessions end, and the lock with the one that has it. -/
def close (s : Cluster) (ended : List ℕ) : Cluster :=
  { s with holder := s.holder.filter (· ∉ ended) }

/-- `pg_try_advisory_lock`: the lock is free, or the session has it. -/
def tryLock (s : Cluster) (c : ℕ) : Bool := s.holder = none || s.holder = some c

section
variable (b : Bounds)

/-- `_claim_scheduler_lock`, which gives the connection back. -/
def claim (s : Cluster) (w : Worker) : Cluster :=
  match w.pool.get b s.next with
  | none => s.change w.pid ({ · with claimed := true })
  | some (c, pool) =>
    { s.change w.pid fun w =>
        { w with claimed := true, leads := s.tryLock c, pool := pool.put b c } with
      holder := if s.tryLock c then some c else s.holder
      next := s.next + 1 }

/-- A connection goes out, unless the thread waits for one in vain. -/
def checkout (s : Cluster) (w : Worker) : Cluster :=
  match w.pool.get b s.next with
  | none => s
  | some (_, pool) => { s.change w.pid ({ · with pool := pool }) with next := s.next + 1 }

/-- The sessions that a step ends while their worker lives on. -/
def ended (w : Worker) : Move → List ℕ
  | .checkin _ c => if c ∈ w.pool.out then w.pool.closed b c else []
  | .lose _ c => if c ∈ w.pool.opened then [c] else []
  | _ => []

/-- A step of a worker. -/
def workerStep (s : Cluster) (w : Worker) (a : Move) : Cluster :=
  match a with
  | .boot _ _ => s
  | .claim _ => s.claim b w
  | .unreachable _ => s.change w.pid ({ · with claimed := true })
  | .checkout _ => s.checkout b w
  | .checkin _ c =>
    if c ∈ w.pool.out then
      (s.close (ended b w a)).change w.pid ({ · with pool := w.pool.put b c })
    else s
  | .lose _ c =>
    if c ∈ w.pool.opened then
      { (s.close (ended b w a)).change w.pid fun w =>
          { w with pool := w.pool.map fun c' => if c' = c then s.next else c' } with
        next := s.next + 1 }
    else s
  | .exit _ => { s.close w.pool.opened with workers := s.workers.filter (·.pid ≠ w.pid) }

/-- The worker that a step is about. -/
def pidOf : Move → ℕ
  | .boot pid _ | .claim pid | .unreachable pid | .checkout pid | .checkin pid _ | .lose pid _
  | .exit pid => pid

/-- A worker starts, with its own engine. -/
def newcomer (s : Cluster) : Move → Cluster
  | .boot pid disabled =>
    { s with workers := s.workers ++ [⟨pid, disabled, false, false, .empty⟩] }
  | _ => s

/-- A step. -/
def step (s : Cluster) (a : Move) : Cluster :=
  match s.worker (pidOf a) with
  | some w => s.workerStep b w a
  | none => s.newcomer a

/-- The lock is lost, and its worker lives on. -/
def lost (s : Cluster) (a : Move) : List Unit :=
  match s.worker (pidOf a) with
  | none => []
  | some w => if s.holder.any (· ∈ ended b w a) then [()] else []

/-- A process claims once, when it starts. -/
def ok (s : Cluster) (a : Move) : Prop :=
  match a with
  | .claim pid | .unreachable pid => ∀ w ∈ s.worker pid, w.claimed = false
  | _ => True

/-- No pool has opened more than it keeps when a connection comes back, and the database drops no
session. -/
def Quiet (s : Cluster) (a : Move) : Prop :=
  s.ok a ∧ match a with
    | .checkin pid _ => ∀ w ∈ s.worker pid, w.pool.opened.length ≤ b.size
    | .lose _ _ => False
    | _ => True

end

/-- The leaders. -/
def leaders (s : Cluster) : ℕ := s.workers.countP (·.leads)

/-- The workers that run the scheduler. -/
def schedulers (s : Cluster) : ℕ := s.workers.countP (·.schedules)

end Cluster

open Cluster

/-- The first worker starts and claims the lock, and a thread of it needs a connection. -/
def opening : List Move := [.boot 0 false, .claim 0, .checkout 0]

/-! ### The lock and the leaders -/

/-- What holds of the workers and the lock, after `losses` losses of the lock. -/
structure Sound (b : Bounds) (losses : List Unit) (s : Cluster) : Prop where
  keyed : Keyed Worker.pid s.workers
  fresh : ∀ w ∈ s.workers, ∀ c ∈ w.pool.opened, c < s.next
  apart : ∀ w ∈ s.workers, ∀ w' ∈ s.workers, ∀ c ∈ w.pool.opened, c ∈ w'.pool.opened → w = w'
  kept : ∀ w ∈ s.workers, w.pool.idle.length ≤ b.size
  claimed : ∀ w ∈ s.workers, w.leads = true → w.claimed = true
  holder : ∀ c, s.holder = some c → ∃ w ∈ s.workers, w.leads = true ∧ c ∈ w.pool.opened
  count : s.leaders ≤ losses.length + s.holder.isSome.toNat

section
variable {b : Bounds} {losses : List Unit} {s : Cluster} {w : Worker} {c : ℕ}

theorem worker_eq_some {pid : ℕ} (h : s.worker pid = some w) : w ∈ s.workers ∧ w.pid = pid :=
  find?_key h

theorem holder_close {ended : List ℕ} (h : (s.close ended).holder = some c) :
    s.holder = some c ∧ c ∉ ended := by
  obtain ⟨hc, hended⟩ := Option.filter_eq_some_iff.mp h
  exact ⟨hc, of_decide_eq_true hended⟩

/-- A worker is changed, with its pool: what has to be known of the change. -/
theorem Sound.change (h : Sound b losses s) (hw : w ∈ s.workers) {f : Worker → Worker}
    {holder : Option ℕ} {next : ℕ} {losses' : List Unit} (hpid : ∀ w, (f w).pid = w.pid)
    (hnext : s.next ≤ next)
    (hopened : ∀ c ∈ (f w).pool.opened, c ∈ w.pool.opened ∨ s.next ≤ c ∧ c < next)
    (hkept : (f w).pool.idle.length ≤ b.size)
    (hclaimed : (f w).leads = true → (f w).claimed = true)
    (hholder : ∀ c, holder = some c → (f w).leads = true ∧ c ∈ (f w).pool.opened ∨
      s.holder = some c ∧ (c ∈ w.pool.opened → (f w).leads = true ∧ c ∈ (f w).pool.opened))
    (hcount : s.leaders + (f w).leads.toNat ≤
      losses'.length + holder.isSome.toNat + w.leads.toNat) :
    Sound b losses' ⟨amend Worker.pid w.pid f s.workers, holder, next⟩ where
  keyed := h.keyed.amend hpid
  fresh w' hw' c hc := by
    rcases h.keyed.mem_amend hw hw' with ⟨hw', -⟩ | rfl
    · exact Nat.lt_of_lt_of_le (h.fresh w' hw' c hc) hnext
    · rcases hopened c hc with hc | ⟨-, hc⟩
      · exact Nat.lt_of_lt_of_le (h.fresh w hw c hc) hnext
      · exact hc
  apart w₁ hw₁ w₂ hw₂ c hc₁ hc₂ := by
    have hother : ∀ w' ∈ s.workers, w'.pid ≠ w.pid → c ∈ w'.pool.opened →
        c ∉ (f w).pool.opened := by
      intro w' hw' hne hc' hc
      rcases hopened c hc with hc | ⟨hc, -⟩
      · exact hne (by rw [h.apart w' hw' w hw c hc' hc])
      · exact absurd (h.fresh w' hw' c hc') (Nat.not_lt.mpr hc)
    rcases h.keyed.mem_amend hw hw₁ with ⟨hw₁, hne₁⟩ | rfl
    · rcases h.keyed.mem_amend hw hw₂ with ⟨hw₂, hne₂⟩ | rfl
      · exact h.apart w₁ hw₁ w₂ hw₂ c hc₁ hc₂
      · exact absurd hc₂ (hother w₁ hw₁ hne₁ hc₁)
    · rcases h.keyed.mem_amend hw hw₂ with ⟨hw₂, hne₂⟩ | rfl
      · exact absurd hc₁ (hother w₂ hw₂ hne₂ hc₂)
      · rfl
  kept := forall_amend h.kept fun w' hw' hk => by rwa [h.keyed.eq hw' hw hk]
  claimed := forall_amend h.claimed fun w' hw' hk => by rwa [h.keyed.eq hw' hw hk]
  holder c hc := by
    have hself : f w ∈ amend Worker.pid w.pid f s.workers := mem_amend_self hw
    rcases hholder c hc with ⟨hleads, hopen⟩ | ⟨hold, hpool⟩
    · exact ⟨f w, hself, hleads, hopen⟩
    · obtain ⟨w', hw', hleads, hopen⟩ := h.holder c hold
      by_cases hk : w'.pid = w.pid
      · obtain rfl := h.keyed.eq hw' hw hk
        exact ⟨f w', hself, hpool hopen⟩
      · exact ⟨w', mem_amend_of_ne hw' hk, hleads, hopen⟩
  count := by
    have hamend := h.keyed.countP_amend (g := f) hw (·.leads)
    simp only [leaders] at hcount ⊢
    omega

/-- The worker whose session has the lock leads. -/
theorem Sound.leads (h : Sound b losses s) (hc : s.holder = some c) (hw : w ∈ s.workers)
    (hopen : c ∈ w.pool.opened) : w.leads = true := by
  obtain ⟨w', hw', hleads, hopen'⟩ := h.holder c hc
  rwa [h.apart w hw w' hw' c hopen hopen']

/-- A session that a free or own lock is asked for on does not have it. -/
theorem Sound.free_of_tryLock (h : Sound b losses s) (hw : w ∈ s.workers) (hleads : w.leads = false)
    (hc : c ∈ w.pool.opened ∨ c = s.next) (htry : s.tryLock c = true) : s.holder = none := by
  rw [tryLock, Bool.or_eq_true, decide_eq_true_iff, decide_eq_true_iff] at htry
  rcases htry with hfree | hown
  · exact hfree
  · rcases hc with hc | rfl
    · rw [h.leads hown hw hc] at hleads
      cases hleads
    · obtain ⟨w', hw', -, hopen⟩ := h.holder _ hown
      exact absurd (h.fresh w' hw' _ hopen) (Nat.lt_irrefl _)

theorem Sound.claim (h : Sound b losses s) (hw : w ∈ s.workers) (hnew : w.claimed = false) :
    Sound b losses (s.claim b w) := by
  have hleads : w.leads = false := by
    cases hw' : w.leads with
    | false => rfl
    | true => rw [h.claimed w hw hw'] at hnew; cases hnew
  have hother : ∀ c, s.holder = some c → c ∉ w.pool.opened := by
    intro c hc hopen
    rw [h.leads hc hw hopen] at hleads
    cases hleads
  rw [Cluster.claim]
  cases hget : w.pool.get b s.next with
  | none =>
      refine h.change hw (fun _ => rfl) (Nat.le_refl _) (fun c hc => .inl hc) (h.kept w hw)
        (fun _ => rfl) (fun c hc => .inr ⟨hc, fun hopen => absurd hopen (hother c hc)⟩) ?_
      exact Nat.add_le_add_right h.count _
  | some r =>
      obtain ⟨c, pool⟩ := r
      obtain ⟨hcases, hout⟩ := Pool.opened_get hget
      have hidle := h.kept w hw
      have hput := Pool.opened_put (b := b) hout
      rw [Pool.closed_get hget hidle, List.nil_append] at hput
      have hc : c ∈ w.pool.opened ∨ c = s.next :=
        hcases.imp (fun hkept => List.mem_append_left _ hkept.2) And.right
      refine h.change hw (fun _ => rfl) (Nat.le_succ _) (fun c' hc' => ?_)
        (Pool.length_idle_put (Nat.le_trans (Pool.length_idle_get hget) hidle)) (fun _ => rfl)
        (fun c' hc' => ?_) ?_
      · have hopen := hput.mem_iff.mp hc'
        rcases hcases with ⟨hperm, -⟩ | ⟨hperm, -⟩
        · exact .inl (hperm.mem_iff.mp hopen)
        · rcases List.mem_cons.mp (hperm.mem_iff.mp hopen) with rfl | hopen
          · exact .inr ⟨Nat.le_refl _, Nat.lt_succ_self _⟩
          · exact .inl hopen
      · cases htry : s.tryLock c with
        | true =>
            rw [htry, if_pos rfl] at hc'
            obtain rfl := Option.some.inj hc'
            exact .inl ⟨rfl, hput.mem_iff.mpr (List.mem_append_right _ hout)⟩
        | false =>
            rw [htry, if_neg (by simp)] at hc'
            exact .inr ⟨hc', fun hopen => absurd hopen (hother c' hc')⟩
      · have hcount := h.count
        cases htry : s.tryLock c with
        | true =>
            rw [h.free_of_tryLock hw hleads hc htry] at hcount
            simpa [htry, hleads] using hcount
        | false => simpa [htry, hleads] using hcount

theorem Sound.checkout (h : Sound b losses s) (hw : w ∈ s.workers) :
    Sound b losses (s.checkout b w) := by
  rw [Cluster.checkout]
  cases hget : w.pool.get b s.next with
  | none => exact h
  | some r =>
      obtain ⟨c, pool⟩ := r
      obtain ⟨hcases, -⟩ := Pool.opened_get hget
      refine h.change hw (fun _ => rfl) (Nat.le_succ _) (fun c' hc' => ?_)
        (Nat.le_trans (Pool.length_idle_get hget) (h.kept w hw)) (h.claimed w hw)
        (fun c' hc' => .inr ⟨hc', fun hopen => ?_⟩) (Nat.add_le_add_right h.count _)
      · rcases hcases with ⟨hperm, -⟩ | ⟨hperm, -⟩
        · exact .inl (hperm.mem_iff.mp hc')
        · rcases List.mem_cons.mp (hperm.mem_iff.mp hc') with rfl | hc'
          · exact .inr ⟨Nat.le_refl _, Nat.lt_succ_self _⟩
          · exact .inl hc'
      · have hleads := h.leads hc' hw hopen
        refine ⟨hleads, ?_⟩
        rcases hcases with ⟨hperm, -⟩ | ⟨hperm, -⟩
        · exact hperm.mem_iff.mpr hopen
        · exact hperm.mem_iff.mpr (List.mem_cons_of_mem _ hopen)

/-- A loss for each time that the lock ends with a session. -/
theorem count_close (h : Sound b losses s) (ended : List ℕ) (m : ℕ) :
    s.leaders + m ≤ (losses ++ if s.holder.any (· ∈ ended) then [()] else []).length +
      (s.close ended).holder.isSome.toNat + m := by
  have hcount := h.count
  rw [List.length_append]
  cases hholder : s.holder with
  | none =>
      rw [hholder] at hcount
      simp only [Option.isSome_none, Bool.toNat_false, Nat.add_zero] at hcount
      omega
  | some c =>
      rw [hholder] at hcount
      by_cases hc : c ∈ ended
      · simp only [Option.isSome_some, Bool.toNat_true] at hcount
        simp only [Option.any_some, hc, decide_true, if_true, List.length_singleton]
        omega
      · have hstays : (s.close ended).holder = some c := by simp [close, hholder, hc]
        rw [hstays]
        omega

theorem Sound.checkin (h : Sound b losses s) (hw : w ∈ s.workers) (hc : c ∈ w.pool.out) :
    Sound b (losses ++ if s.holder.any (· ∈ w.pool.closed b c) then [()] else [])
      ((s.close (w.pool.closed b c)).change w.pid ({ · with pool := w.pool.put b c })) := by
  have hput := Pool.opened_put (b := b) hc
  refine h.change hw (fun _ => rfl) (Nat.le_refl _) (fun c' hc' => ?_)
    (Pool.length_idle_put (h.kept w hw)) (h.claimed w hw) (fun c' hc' => ?_)
    (count_close h _ _)
  · exact .inl (hput.mem_iff.mp (List.mem_append_right _ hc'))
  · obtain ⟨hc', hstays⟩ := holder_close hc'
    refine .inr ⟨hc', fun hopen => ?_⟩
    have hleads := h.leads hc' hw hopen
    refine ⟨hleads, ?_⟩
    exact (List.mem_append.mp (hput.mem_iff.mpr hopen)).resolve_left hstays

theorem Sound.lose (h : Sound b losses s) (hw : w ∈ s.workers) (c : ℕ) :
    Sound b (losses ++ if s.holder.any (· ∈ [c]) then [()] else [])
      { (s.close [c]).change w.pid fun w =>
          { w with pool := w.pool.map fun c' => if c' = c then s.next else c' } with
        next := s.next + 1 } := by
  refine h.change hw (fun _ => rfl) (Nat.le_succ _) (fun c' hc' => ?_) ?_ (h.claimed w hw)
    (fun c' hc' => ?_) (count_close h _ _)
  · rw [Pool.opened_map] at hc'
    obtain ⟨c', hopen, rfl⟩ := List.mem_map.mp hc'
    split
    · exact .inr ⟨Nat.le_refl _, Nat.lt_succ_self _⟩
    · exact .inl hopen
  · rw [Pool.map, List.length_map]
    exact h.kept w hw
  · obtain ⟨hc', hstays⟩ := holder_close hc'
    refine .inr ⟨hc', fun hopen => ?_⟩
    have hleads := h.leads hc' hw hopen
    refine ⟨hleads, ?_⟩
    rw [Pool.opened_map]
    exact List.mem_map.mpr ⟨c', hopen, if_neg fun heq => hstays (List.mem_singleton.mpr heq)⟩

theorem Sound.exit (h : Sound b losses s) (hw : w ∈ s.workers) :
    Sound b losses
      { s.close w.pool.opened with workers := s.workers.filter (·.pid ≠ w.pid) } where
  keyed := h.keyed.filter _
  fresh w' hw' := h.fresh w' (List.mem_of_mem_filter hw')
  apart w₁ hw₁ w₂ hw₂ :=
    h.apart w₁ (List.mem_of_mem_filter hw₁) w₂ (List.mem_of_mem_filter hw₂)
  kept w' hw' := h.kept w' (List.mem_of_mem_filter hw')
  claimed w' hw' := h.claimed w' (List.mem_of_mem_filter hw')
  holder c hc := by
    obtain ⟨hc, hstays⟩ := holder_close hc
    obtain ⟨w', hw', hleads, hopen⟩ := h.holder c hc
    refine ⟨w', List.mem_filter.mpr ⟨hw', decide_eq_true fun hpid => hstays ?_⟩, hleads, hopen⟩
    rwa [← h.keyed.eq hw' hw hpid]
  count := by
    have hsplit := h.keyed.countP_filter_ne hw (·.leads)
    have hcount := h.count
    simp only [leaders] at hcount ⊢
    cases hholder : s.holder with
    | none =>
        rw [hholder] at hcount
        simp only [Option.isSome_none, Bool.toNat_false] at hcount
        omega
    | some c =>
        rw [hholder] at hcount
        by_cases hopen : c ∈ w.pool.opened
        · rw [h.leads hholder hw hopen] at hsplit
          simp only [Option.isSome_some, Bool.toNat_true] at hcount hsplit
          omega
        · have hstays : (s.close w.pool.opened).holder = some c := by simp [close, hholder, hopen]
          rw [hstays]
          omega

theorem Sound.boot (h : Sound b losses s) {pid : ℕ} {disabled : Bool} (hnew : s.worker pid = none) :
    Sound b losses { s with workers := s.workers ++ [⟨pid, disabled, false, false, .empty⟩] } where
  keyed := h.keyed.append hnew
  fresh w hw c hc := by
    rcases mem_snoc.mp hw with hw | rfl
    · exact h.fresh w hw c hc
    · cases hc
  apart w hw w' hw' c hc hc' := by
    rcases mem_snoc.mp hw with hw | rfl
    · rcases mem_snoc.mp hw' with hw' | rfl
      · exact h.apart w hw w' hw' c hc hc'
      · cases hc'
    · cases hc
  kept w hw := by
    rcases mem_snoc.mp hw with hw | rfl
    · exact h.kept w hw
    · exact Nat.zero_le _
  claimed w hw hleads := by
    rcases mem_snoc.mp hw with hw | rfl
    · exact h.claimed w hw hleads
    · cases hleads
  holder c hc := by
    obtain ⟨w, hw, hleads, hopen⟩ := h.holder c hc
    exact ⟨w, List.mem_append_left _ hw, hleads, hopen⟩
  count := by
    have hcount := h.count
    simp only [leaders, List.countP_append, List.countP_singleton] at hcount ⊢
    simpa using hcount

theorem lost_of_ended {a : Move} (hworker : s.worker (pidOf a) = some w) :
    s.lost b a = if s.holder.any (· ∈ ended b w a) then [()] else [] := by
  rw [lost, hworker]

theorem lost_eq_nil {a : Move} (hended : ∀ w ∈ s.worker (pidOf a), ended b w a = []) :
    s.lost b a = [] := by
  rw [lost]
  cases hworker : s.worker (pidOf a) with
  | none => rfl
  | some w =>
      simp only [hended w hworker]
      cases s.holder <;> rfl

theorem step_of_worker {a : Move} (hworker : s.worker (pidOf a) = some w) :
    s.step b a = s.workerStep b w a := by
  rw [step, hworker]

theorem step_of_none {a : Move} (hworker : s.worker (pidOf a) = none) :
    s.step b a = s.newcomer a := by
  rw [step, hworker]

theorem Sound.step (h : Sound b losses s) {a : Move} (hok : s.ok a) :
    Sound b (losses ++ s.lost b a) (s.step b a) := by
  cases hworker : s.worker (pidOf a) with
  | none =>
      rw [lost_eq_nil (by simp [hworker]), List.append_nil, step_of_none hworker]
      cases a with
      | boot pid disabled => exact h.boot hworker
      | _ => exact h
  | some w =>
      obtain ⟨hw, -⟩ := worker_eq_some hworker
      rw [step_of_worker hworker]
      have hquiet : ended b w a = [] → losses ++ s.lost b a = losses := by
        intro hended
        rw [lost_eq_nil fun w' hw' => by rwa [← Option.some.inj (hworker.symm.trans hw')],
          List.append_nil]
      cases a with
      | boot pid disabled =>
          rw [hquiet rfl]
          exact h
      | claim pid =>
          rw [hquiet rfl]
          exact h.claim hw (hok w hworker)
      | unreachable pid =>
          rw [hquiet rfl]
          refine h.change hw (fun _ => rfl) (Nat.le_refl _) (fun c hc => .inl hc) (h.kept w hw)
            (fun _ => rfl) (fun c hc => .inr ⟨hc, fun hopen => ?_⟩)
            (Nat.add_le_add_right h.count _)
          have hleads := h.leads hc hw hopen
          exact ⟨hleads, hopen⟩
      | checkout pid =>
          rw [hquiet rfl]
          exact h.checkout hw
      | checkin pid c =>
          by_cases hc : c ∈ w.pool.out
          · rw [lost_of_ended hworker]
            simp only [workerStep, ended, if_pos hc]
            exact h.checkin hw hc
          · rw [hquiet (if_neg hc)]
            simp only [workerStep, if_neg hc]
            exact h
      | lose pid c =>
          by_cases hc : c ∈ w.pool.opened
          · rw [lost_of_ended hworker]
            simp only [workerStep, ended, if_pos hc]
            exact h.lose hw c
          · rw [hquiet (if_neg hc)]
            simp only [workerStep, if_neg hc]
            exact h
      | exit pid =>
          rw [hquiet rfl]
          exact h.exit hw

theorem sound_start : Sound b [] Cluster.start where
  keyed := List.nodup_nil
  fresh := by simp [Cluster.start]
  apart := by simp [Cluster.start]
  kept := by simp [Cluster.start]
  claimed := by simp [Cluster.start]
  holder := by simp [Cluster.start]
  count := Nat.zero_le _

theorem Sound.run {as : List Move} (has : Admits (Cluster.step b) Cluster.ok Cluster.start as) :
    Sound b (emitted (Cluster.step b) (Cluster.lost b) Cluster.start as) (run (Cluster.step b) Cluster.start as) :=
  emitted_invariant (I := Sound b) (fun _ _ _ h hok => h.step hok) sound_start has

/-- While the lock was never lost, who has it leads, and nobody else does. -/
theorem Sound.leaders_eq (h : Sound b [] s) : s.leaders = s.holder.isSome.toNat := by
  refine Nat.le_antisymm (by simpa using h.count) ?_
  cases hholder : s.holder with
  | none => exact Nat.zero_le _
  | some c =>
      obtain ⟨w, hw, hleads, -⟩ := h.holder c hholder
      exact List.countP_pos_iff.mpr ⟨w, hw, hleads⟩

theorem schedulers_le (s : Cluster) : s.schedulers ≤ s.leaders :=
  List.countP_mono_left fun w _ hw => by
    rw [Worker.schedules, Bool.and_eq_true] at hw
    exact hw.1

theorem lost_of_quiet {a : Move} (h : Quiet b s a) : s.lost b a = [] := by
  refine lost_eq_nil fun w hw => ?_
  cases a with
  | checkin pid c =>
      rw [ended]
      split
      · next hc => exact Pool.closed_eq_nil hc (h.2 w hw)
      · rfl
  | lose pid c => exact h.2.elim
  | _ => rfl

theorem Sound.run_quiet {as : List Move} (has : Admits (Cluster.step b) (Cluster.Quiet b) Cluster.start as) :
    Sound b [] (Runs.run (Cluster.step b) Cluster.start as) := by
  refine run_invariant (fun s a h hquiet => ?_) sound_start has
  have hstep := h.step hquiet.1
  rwa [lost_of_quiet hquiet, List.append_nil] at hstep

end

theorem admits_opening (b : Bounds) : Admits (Cluster.step b) Cluster.ok Cluster.start opening := by
  simp [opening, Cluster.ok, Cluster.start, Cluster.step, pidOf, worker, newcomer]

/-- The first worker, which leads, alone. -/
def alone (pool : Pool ℕ) (holder : Option ℕ) (next : ℕ) : Cluster :=
  ⟨[⟨0, false, true, true, pool⟩], holder, next⟩

section
variable {b : Bounds} {holder : Option ℕ} {next : ℕ} {s : Cluster}

theorem alone_checkout {out : List ℕ} (h : out.length < b.size + b.overflow) :
    (alone ⟨[], out⟩ holder next).step b (.checkout 0) =
      alone ⟨[], next :: out⟩ holder (next + 1) := by
  simp [alone, Cluster.step, pidOf, worker, workerStep, checkout, Pool.get, h, change, amend]

theorem alone_checkouts {k : ℕ} {out : List ℕ} (h : out.length + k ≤ b.size + b.overflow) :
    run (Cluster.step b) (alone ⟨[], out⟩ holder next) (List.replicate k (.checkout 0)) =
      alone ⟨[], (List.range' next k).reverse ++ out⟩ holder (next + k) := by
  induction k generalizing out next with
  | zero => rfl
  | succ k ih =>
      rw [List.replicate_succ, run_cons, alone_checkout (by omega),
        ih (by rw [List.length_cons]; omega), List.range'_succ, List.reverse_cons,
        List.append_assoc, Nat.add_right_comm]
      rfl

theorem alone_checkin {idle out : List ℕ} {c : ℕ} (h : idle.length < b.size) :
    (alone ⟨idle, c :: out⟩ holder next).step b (.checkin 0 c) =
      alone ⟨idle ++ [c], out⟩ holder next := by
  have hholder : holder.filter (fun _ => true) = holder := by cases holder <;> rfl
  simp [alone, Cluster.step, pidOf, worker, workerStep, ended, Pool.closed, Pool.put, h, close,
    change, amend, hholder]

theorem alone_checkins {cs idle out : List ℕ} (h : idle.length + cs.length ≤ b.size) :
    run (Cluster.step b) (alone ⟨idle, cs ++ out⟩ holder next) (cs.map (.checkin 0)) =
      alone ⟨idle ++ cs, out⟩ holder next := by
  induction cs generalizing idle with
  | nil => simp
  | cons c cs ih =>
      rw [List.length_cons] at h
      rw [List.map_cons, run_cons, List.cons_append, alone_checkin (by omega),
        ih (by rw [List.length_append, List.length_singleton]; omega), List.append_assoc]
      rfl

/-- The lock ends with the connection that comes back last. -/
theorem alone_full {idle : List ℕ} {c : ℕ} (h : idle.length = b.size) :
    (alone ⟨idle, [c]⟩ (some c) next).step b (.checkin 0 c) = alone ⟨idle, []⟩ none next := by
  simp [alone, Cluster.step, pidOf, worker, workerStep, ended, Pool.closed, Pool.put, h, close,
    change, amend]

theorem run_opening (b : Bounds) :
    run (Cluster.step b) Cluster.start opening = alone ⟨[], [0]⟩ (some 0) 2 := by
  have hpos := b.pos
  have hroom : 0 < b.size + b.overflow := Nat.add_pos_left hpos _
  simp [opening, alone, Cluster.start, Cluster.step, pidOf, worker, newcomer, workerStep,
    Cluster.claim, Cluster.checkout, Pool.get, Pool.put, Pool.empty, hpos, hroom, change, amend,
    tryLock]

/-- The threads of the worker use one connection more than the pool keeps, and the one that is
given back last is the one with the lock. -/
def burst (b : Bounds) : List Move :=
  List.replicate b.size (.checkout 0) ++
    ((List.range' 2 b.size).reverse.map (.checkin 0) ++ [.checkin 0 0])

theorem run_burst (hoverflow : 0 < b.overflow) :
    run (Cluster.step b) (alone ⟨[], [0]⟩ (some 0) 2) (burst b) =
      alone ⟨(List.range' 2 b.size).reverse, []⟩ none (2 + b.size) := by
  have hlength : (List.range' 2 b.size).reverse.length = b.size := by simp
  rw [burst, run_append, alone_checkouts (by rw [List.length_singleton]; omega), run_append,
    alone_checkins (by rw [hlength, List.length_nil]; omega), run_cons, run_nil, List.nil_append,
    alone_full hlength]

/-- Another worker starts. -/
def takeover : List Move := [.boot 1 false, .claim 1]

theorem run_takeover {idle : List ℕ} :
    run (Cluster.step b) (alone ⟨idle, []⟩ none next) takeover =
      ⟨[⟨0, false, true, true, ⟨idle, []⟩⟩, ⟨1, false, true, true, ⟨[next], []⟩⟩], some next,
        next + 1⟩ := by
  have hpos := b.pos
  have hroom : 0 < b.size + b.overflow := Nat.add_pos_left hpos _
  simp [takeover, alone, Cluster.step, pidOf, worker, newcomer, workerStep, Cluster.claim, Pool.get,
    Pool.put, Pool.empty, hpos, hroom, change, amend, tryLock]

/-- A run in which no worker claims is admitted. -/
theorem admits_of_no_claim {as : List Move} (has : ∀ a ∈ as, ∀ s : Cluster, s.ok a) (s : Cluster) :
    Admits (Cluster.step b) Cluster.ok s as := by
  induction as generalizing s with
  | nil => trivial
  | cons a as ih =>
      exact ⟨has a List.mem_cons_self s, ih (fun a ha => has a (List.mem_cons_of_mem _ ha)) _⟩

theorem admits_burst : Admits (Cluster.step b) Cluster.ok s (burst b) := by
  refine admits_of_no_claim (fun a ha s => ?_) s
  rcases List.mem_append.mp ha with ha | ha
  · rw [List.eq_of_mem_replicate ha]
    trivial
  · rcases List.mem_append.mp ha with ha | ha
    · obtain ⟨c, -, rfl⟩ := List.mem_map.mp ha
      trivial
    · rw [List.mem_singleton.mp ha]
      trivial

end

end RebooterHub.Jobs
