import Mathlib.Data.Int.Order.Basic
import Mathlib.Logic.Function.Basic
import Mathlib.Tactic.Linarith
import RebooterHub.Data.Spelling
import RebooterHub.Data.Time
import RebooterHub.Support.Runs
import RebooterHub.Support.Versions

/-!
# Tenancy — ModeCache

`enforce_mode`: whether isolation is enforced.  Every worker process keeps what it read of the
setting for a few seconds, and a write of the setting drops what the writing process keeps.

The threads of all processes interleave.  A call takes the time, looks at the value that is kept,
compares the time it expires, reads the setting and keeps what it read; each of these is a step.

* `enforceMode_fresh`: what a call returns was the mode no longer than `cacheTtl` before the call,
  provided that no other call keeps a value between its look and its comparison.
* `stale_of_torn`: without that there is no bound.
* `enforceMode_after_write`: once a write has dropped what its process kept, and no call of the
  process still holds an older value, the process returns no older mode.
-/

namespace RebooterHub.Tenancy
open Runs Versions

/-- `ENFORCE_MODE_SHADOW` and `ENFORCE_MODE_ENFORCE`. -/
inductive Mode where
  | shadow
  | enforce
deriving DecidableEq, Repr

/-- `_ENFORCE_CACHE_TTL`. -/
def cacheTtl : Time := seconds 5

/-- The value of a row of `runtime_settings`. -/
abbrev SettingValue := List (String × Json)

/-- `_resolve`: the row, the environment variable, the default. -/
def resolve (env : Option String) (default : Json) (row : Option SettingValue) : Json :=
  match row.bind (·.lookup "v") with
  | some v => v
  | none => match env with
    | some text => .str text
    | none => default

/-- The mode that a row of the setting stands for, where `spell` writes what is no text. -/
def modeOf (spell : Json → String) (env : Option String) (row : Option SettingValue) : Mode :=
  if Text.lower (Text.strip ((resolve env (.str "shadow") row).text spell)) = "enforce".toList then
    .enforce
  else .shadow

/-- `_enforce_cache_value` and `_enforce_cache_expires_at`. -/
structure Cache where
  value : Option Mode
  expiresAt : Time

/-- `invalidate_enforce_mode_cache`, and what a process starts with. -/
def Cache.dropped : Cache := ⟨none, 0⟩

/-- Where a mode that is returned is from: the cache, the setting as committed, the setting as the
session of the call has written it, or none of them because the read failed. -/
inductive Source where
  | cache
  | setting
  | own
  | failure
deriving DecidableEq, Repr

/-- How far a call has come. -/
inductive Stage where
  | started
  | looked (cached : Option Mode)
  | missed
  | fetched (mode : Mode) (source : Source)
deriving DecidableEq, Repr

/-- A call of `enforce_mode` that is under way: its process, its `now`, and `cacheable`. -/
structure Call where
  process : ℕ
  since : Time
  cacheable : Bool
  stage : Stage
deriving DecidableEq, Repr

/-- What the read of the setting finds. -/
inductive Read where
  | committed
  | own (row : Option SettingValue)
  | failed

/-- A step of some thread. -/
inductive Move where
  /-- `set_` or `delete` commits. -/
  | commit (row : Option SettingValue)
  /-- `_fire_change_callbacks`, in the process that wrote. -/
  | fire (p : ℕ)
  | start (c p : ℕ) (cacheable : Bool)
  | look (c : ℕ)
  | compare (c : ℕ)
  | fetch (c : ℕ) (read : Read)
  | finish (c : ℕ)

/-- What a call returned. -/
structure Returned where
  process : ℕ
  since : Time
  at_ : Time
  mode : Mode
  source : Source
deriving DecidableEq, Repr

/-- The setting, the caches of the processes and whether each has registered to drop its own, and
the calls under way. -/
structure Workers where
  clock : Time
  log : List (Time × Option SettingValue)
  cache : ℕ → Cache
  registered : ℕ → Bool
  calls : ℕ → Option Call

namespace Workers

/-- A call goes on. -/
def goOn (s : Workers) (c : ℕ) (call : Call) (stage : Stage) : Workers :=
  { s with calls := Function.update s.calls c (some { call with stage := stage }) }

/-- A call returns. -/
def leave (s : Workers) (c : ℕ) : Workers := { s with calls := Function.update s.calls c none }

/-- A process keeps a mode, or drops it. -/
def keep (s : Workers) (p : ℕ) (kept : Cache) : Workers :=
  { s with cache := Function.update s.cache p kept }

/-- `enforce_mode` begins: the process has registered, and the call takes the time. -/
def start (now : Time) (s : Workers) (c p : ℕ) (cacheable : Bool) : Workers :=
  { s with
    registered := Function.update s.registered p true
    calls := Function.update s.calls c (some ⟨p, now, cacheable, .started⟩) }

/-- `now < _enforce_cache_expires_at`, for a call that saw a value. -/
def hits (s : Workers) (call : Call) : Option Mode :=
  match call.stage with
  | .looked (some mode) => if call.since < (s.cache call.process).expiresAt then some mode else none
  | _ => none

section
variable (spell : Json → String) (env : Option String)

/-- The modes that the setting stood for. -/
def modes (s : Workers) : List (Time × Mode) := s.log.map fun e => (e.1, modeOf spell env e.2)

/-- The mode that the setting stands for. -/
def mode (s : Workers) : Mode := modeOf spell env (s.log.head?.bind (·.2))

/-- The next step of a call. -/
def callStep (s : Workers) (c : ℕ) (call : Call) : Move → Workers
  | .look _ => match call.stage with
    | .started => s.goOn c call (.looked (s.cache call.process).value)
    | _ => s
  | .compare _ => match call.stage with
    | .looked _ => if (s.hits call).isSome then s.leave c else s.goOn c call .missed
    | _ => s
  | .fetch _ read => match call.stage with
    | .missed => match read with
      | .committed => s.goOn c call (.fetched (s.mode spell env) .setting)
      | .own row => s.goOn c call (.fetched (modeOf spell env row) .own)
      | .failed => s.leave c
    | _ => s
  | .finish _ => match call.stage with
    | .fetched mode _ =>
      if call.cacheable then
        (s.keep call.process ⟨some mode, call.since + cacheTtl⟩).leave c
      else s.leave c
    | _ => s
  | _ => s

/-- A step at a time. -/
def step (s : Workers) (a : Time × Move) : Workers :=
  let s := { s with clock := a.1 }
  match a.2 with
  | .commit row => { s with log := (a.1, row) :: s.log }
  | .fire p => if s.registered p then s.keep p .dropped else s
  | .start c p cacheable => s.start a.1 c p cacheable
  | .look c | .compare c | .fetch c _ | .finish c => match s.calls c with
    | some call => s.callStep spell env c call a.2
    | none => s

end

/-- What a step of a call returns. -/
def callOut (s : Workers) (now : Time) (call : Call) : Move → List Returned
  | .compare _ => (s.hits call).toList.map fun mode =>
      ⟨call.process, call.since, now, mode, .cache⟩
  | .fetch _ .failed => match call.stage with
    | .missed => [⟨call.process, call.since, now, .shadow, .failure⟩]
    | _ => []
  | .finish _ => match call.stage with
    | .fetched mode source => [⟨call.process, call.since, now, mode, source⟩]
    | _ => []
  | _ => []

/-- What a step returns. -/
def out (s : Workers) (a : Time × Move) : List Returned :=
  match a.2 with
  | .look c | .compare c | .fetch c _ | .finish c => match s.calls c with
    | some call => s.callOut a.1 call a.2
    | none => []
  | _ => []

/-- Time goes on, a number stands for one call at a time, and only a session whose call is not
`cacheable` has written the setting itself. -/
def ok (s : Workers) (a : Time × Move) : Prop :=
  s.clock ≤ a.1 ∧ match a.2 with
    | .start c _ _ => s.calls c = none
    | .fetch c (.own _) => ∀ call ∈ s.calls c, call.cacheable = false
    | _ => True

/-- No call keeps a value between the look and the comparison of another call of its process. -/
def Whole (s : Workers) (a : Time × Move) : Prop :=
  match a.2 with
  | .finish c => ∀ call ∈ s.calls c, call.cacheable = true → ∀ c', ∀ other ∈ s.calls c',
      other.process = call.process → ∀ cached, other.stage ≠ .looked cached
  | _ => True

/-- The setting as it is found, and nothing read of it. -/
def initial (row : Option SettingValue) : Workers where
  clock := 0
  log := [(0, row)]
  cache _ := .dropped
  registered _ := false
  calls _ := none

end Workers

open Workers

/-- The setting as `set_` writes it. -/
def written (text : String) : Option SettingValue := some [("v", .str text)]

theorem modeOf_enforce (spell : Json → String) (env : Option String) :
    modeOf spell env (written "enforce") = .enforce := by
  have hlower : Text.lower (Text.strip "enforce".toList) = "enforce".toList := by decide
  exact if_pos hlower

theorem modeOf_shadow (spell : Json → String) (env : Option String) :
    modeOf spell env (written "shadow") = .shadow := by
  have hlower : Text.lower (Text.strip "shadow".toList) ≠ "enforce".toList := by decide
  exact if_neg hlower

/-! ### What a step does -/

section
variable (spell : Json → String) (env : Option String) (now : Time)

/-- What a step does that is taken at `now`, and what it returns. -/
inductive Effect (s : Workers) : Move → Workers → List Returned → Prop
  | idle {move : Move} (h : ∀ row, move ≠ .commit row) : Effect s move s []
  | committed (row : Option SettingValue) :
      Effect s (.commit row) { s with log := (now, row) :: s.log } []
  | dropped (p : ℕ) : Effect s (.fire p) (s.keep p .dropped) []
  | started {c : ℕ} (p : ℕ) (cacheable : Bool) (h : s.calls c = none) :
      Effect s (.start c p cacheable) (s.start now c p cacheable) []
  | looked {c : ℕ} {call : Call} (h : s.calls c = some call) :
      Effect s (.look c) (s.goOn c call (.looked (s.cache call.process).value)) []
  | hit {c : ℕ} {call : Call} {mode : Mode} (h : s.calls c = some call)
      (hstage : call.stage = .looked (some mode))
      (hfresh : call.since < (s.cache call.process).expiresAt) :
      Effect s (.compare c) (s.leave c) [⟨call.process, call.since, now, mode, .cache⟩]
  | missed {c : ℕ} {call : Call} (h : s.calls c = some call) :
      Effect s (.compare c) (s.goOn c call .missed) []
  | read {c : ℕ} {call : Call} (h : s.calls c = some call) :
      Effect s (.fetch c .committed) (s.goOn c call (.fetched (s.mode spell env) .setting)) []
  | own {c : ℕ} {call : Call} (row : Option SettingValue) (h : s.calls c = some call)
      (hcacheable : call.cacheable = false) :
      Effect s (.fetch c (.own row)) (s.goOn c call (.fetched (modeOf spell env row) .own)) []
  | failed {c : ℕ} {call : Call} (h : s.calls c = some call) :
      Effect s (.fetch c .failed) (s.leave c)
        [⟨call.process, call.since, now, .shadow, .failure⟩]
  | finished {c : ℕ} {call : Call} {mode : Mode} {source : Source} (h : s.calls c = some call)
      (hstage : call.stage = .fetched mode source) (hcacheable : call.cacheable = false) :
      Effect s (.finish c) (s.leave c) [⟨call.process, call.since, now, mode, source⟩]
  | kept {c : ℕ} {call : Call} {mode : Mode} {source : Source} (h : s.calls c = some call)
      (hstage : call.stage = .fetched mode source) (hcacheable : call.cacheable = true) :
      Effect s (.finish c) ((s.keep call.process ⟨some mode, call.since + cacheTtl⟩).leave c)
        [⟨call.process, call.since, now, mode, source⟩]

end

section
variable {spell : Json → String} {env : Option String} {s : Workers} {now : Time} {c : ℕ}
  {call : Call}

theorem hits_eq_some {mode : Mode} : s.hits call = some mode ↔
    call.stage = .looked (some mode) ∧ call.since < (s.cache call.process).expiresAt := by
  rw [hits]
  cases call.stage with
  | looked cached =>
      cases cached with
      | none => simp
      | some cached => by_cases h : call.since < (s.cache call.process).expiresAt <;> simp [h]
  | _ => simp

/-- **What a step does**, once for all invariants. -/
theorem effect_step (a : Time × Move) (hok : s.ok a) :
    Effect spell env a.1 { s with clock := a.1 } a.2 (s.step spell env a) (s.out a) := by
  obtain ⟨now, move⟩ := a
  obtain ⟨hclock, hok⟩ := hok
  cases move with
  | commit row => exact .committed row
  | fire p =>
      rw [step]
      dsimp only
      split
      · exact .dropped p
      · exact .idle (by simp)
  | start c p cacheable => exact .started p cacheable hok
  | look c =>
      rw [step, out]
      dsimp only
      cases h : s.calls c with
      | none => exact .idle (by simp)
      | some call =>
          cases hstage : call.stage with
          | started =>
              simp only [callStep, callOut, hstage]
              exact .looked h
          | _ =>
              simp only [callStep, callOut, hstage]
              exact .idle (by simp)
  | compare c =>
      rw [step, out]
      dsimp only
      cases h : s.calls c with
      | none => exact .idle (by simp)
      | some call =>
          have hsame : ({ s with clock := now } : Workers).hits call = s.hits call := rfl
          cases hhit : s.hits call with
          | some mode =>
              obtain ⟨hstage, hfresh⟩ := hits_eq_some.mp hhit
              simp only [callStep, callOut, hstage, hsame, hhit]
              exact .hit h hstage hfresh
          | none =>
              cases hstage : call.stage with
              | looked cached =>
                  simp only [callStep, callOut, hstage, hsame, hhit]
                  exact .missed h
              | _ =>
                  simp only [callStep, callOut, hstage, hhit]
                  exact .idle (by simp)
  | fetch c read =>
      rw [step, out]
      dsimp only
      cases h : s.calls c with
      | none => exact .idle (by simp)
      | some call =>
          cases hstage : call.stage with
          | missed =>
              cases read with
              | committed =>
                  simp only [callStep, callOut, hstage]
                  exact .read h
              | own row =>
                  simp only [callStep, callOut, hstage]
                  exact .own row h (hok call h)
              | failed =>
                  simp only [callStep, callOut, hstage]
                  exact .failed h
          | _ =>
              cases read with
              | _ =>
                  simp only [callStep, callOut, hstage]
                  exact .idle (by simp)
  | finish c =>
      rw [step, out]
      dsimp only
      cases h : s.calls c with
      | none => exact .idle (by simp)
      | some call =>
          cases hstage : call.stage with
          | fetched mode source =>
              simp only [callStep, callOut, hstage]
              split
              · next hcacheable => exact .kept h hstage hcacheable
              · next hcacheable => exact .finished h hstage (by simpa using hcacheable)
          | _ =>
              simp only [callStep, callOut, hstage]
              exact .idle (by simp)

end

/-! ### What is kept is fresh -/

/-- A mode was in force at some time from `since` to `clock`. -/
def Fresh (clock : Time) (past : List (Time × Mode)) (mode : Mode) (since : Time) : Prop :=
  ∃ t, since ≤ t ∧ t ≤ clock ∧ InForce mode t past

/-- What a call under way holds.  A value it looked at is fresh if the cache has not expired for
the call, so that the comparison, which may come later, is enough. -/
structure Sound (clock : Time) (past : List (Time × Mode)) (cache : ℕ → Cache) (call : Call) :
    Prop where
  begun : 0 ≤ call.since ∧ call.since ≤ clock
  looked : ∀ mode, call.stage = .looked (some mode) →
    call.since < (cache call.process).expiresAt →
      Fresh clock past mode ((cache call.process).expiresAt - cacheTtl)
  fetched : ∀ mode, call.stage = .fetched mode .setting → Fresh clock past mode call.since
  read : ∀ mode source, call.stage = .fetched mode source →
    source = .setting ∨ source = .own ∧ call.cacheable = false

/-- What the processes keep, and what the calls hold. -/
structure Fit (past : List (Time × Mode)) (s : Workers) : Prop where
  clock : 0 ≤ s.clock
  current : ∃ e, past.head? = some e ∧ e.1 ≤ s.clock
  cache : ∀ p mode, (s.cache p).value = some mode →
    Fresh s.clock past mode ((s.cache p).expiresAt - cacheTtl)
  calls : ∀ c call, s.calls c = some call → Sound s.clock past s.cache call

section
variable {clock now : Time} {past : List (Time × Mode)} {mode : Mode} {since : Time}
  {cache : ℕ → Cache} {call : Call} {s : Workers} {c : ℕ}

theorem Fresh.later (h : Fresh clock past mode since) (hclock : clock ≤ now) :
    Fresh now past mode since := by
  obtain ⟨t, hsince, ht, hforce⟩ := h
  exact ⟨t, hsince, ht.trans hclock, hforce⟩

theorem Fresh.commit (h : Fresh clock past mode since) (hclock : clock ≤ now) (new : Mode) :
    Fresh clock ((now, new) :: past) mode since := by
  obtain ⟨t, hsince, ht, hforce⟩ := h
  exact ⟨t, hsince, ht, .cons _ (ht.trans hclock) hforce⟩

theorem Sound.later (h : Sound clock past cache call) (hclock : clock ≤ now) :
    Sound now past cache call where
  begun := ⟨h.begun.1, h.begun.2.trans hclock⟩
  looked mode hstage hsince := (h.looked mode hstage hsince).later hclock
  fetched mode hstage := (h.fetched mode hstage).later hclock
  read := h.read

theorem Sound.commit (h : Sound clock past cache call) (hclock : clock ≤ now) (new : Mode) :
    Sound clock ((now, new) :: past) cache call where
  begun := h.begun
  looked mode hstage hsince := (h.looked mode hstage hsince).commit hclock new
  fetched mode hstage := (h.fetched mode hstage).commit hclock new
  read := h.read

/-- A process that keeps another value leaves a call sound that is not about to compare. -/
theorem Sound.keep (h : Sound clock past cache call) {p : ℕ} {kept : Cache}
    (hkept : call.process = p → ∀ mode, call.stage = .looked (some mode) →
      kept.expiresAt ≤ call.since) : Sound clock past (Function.update cache p kept) call where
  begun := h.begun
  looked mode hstage hsince := by
    by_cases hp : call.process = p
    · rw [hp, Function.update_self] at hsince
      exact absurd hsince (not_lt.mpr (hkept hp mode hstage))
    · rw [Function.update_of_ne hp] at hsince ⊢
      exact h.looked mode hstage hsince
  fetched := h.fetched
  read := h.read

theorem calls_goOn {stage : Stage} {c' : ℕ} {other : Call}
    (h : (s.goOn c call stage).calls c' = some other) :
    other = { call with stage := stage } ∨ s.calls c' = some other := by
  simp only [goOn, Function.update_apply] at h
  split at h
  · exact .inl (Option.some.inj h).symm
  · exact .inr h

theorem calls_leave {c' : ℕ} {other : Call} (h : (s.leave c).calls c' = some other) :
    s.calls c' = some other := by
  simp only [leave, Function.update_apply] at h
  split at h
  · cases h
  · exact h

theorem cache_keep (s : Workers) (p : ℕ) (kept : Cache) (q : ℕ) :
    (s.keep p kept).cache q = if q = p then kept else s.cache q :=
  Function.update_apply ..

theorem Fit.later (h : Fit past s) (hclock : s.clock ≤ now) : Fit past { s with clock := now } where
  clock := h.clock.trans hclock
  current := by
    obtain ⟨e, he, hat⟩ := h.current
    exact ⟨e, he, hat.trans hclock⟩
  cache p mode hvalue := (h.cache p mode hvalue).later hclock
  calls c call hcall := (h.calls c call hcall).later hclock

theorem Fit.goOn (h : Fit past s) {stage : Stage}
    (hcall : Sound s.clock past s.cache { call with stage := stage }) :
    Fit past (s.goOn c call stage) where
  clock := h.clock
  current := h.current
  cache := h.cache
  calls c' other hother := by
    rcases calls_goOn hother with rfl | hother
    · exact hcall
    · exact h.calls c' other hother

theorem Fit.leave (h : Fit past s) : Fit past (s.leave c) where
  clock := h.clock
  current := h.current
  cache := h.cache
  calls c' other hother := h.calls c' other (calls_leave hother)

theorem Fit.commit (h : Fit past s) (new : Mode) (row : Option SettingValue) :
    Fit ((s.clock, new) :: past) { s with log := (s.clock, row) :: s.log } where
  clock := h.clock
  current := ⟨_, rfl, le_rfl⟩
  cache p mode hvalue := (h.cache p mode hvalue).commit le_rfl new
  calls c call hcall := (h.calls c call hcall).commit le_rfl new

theorem Fit.drop (h : Fit past s) (p : ℕ) : Fit past (s.keep p .dropped) where
  clock := h.clock
  current := h.current
  cache q mode hvalue := by
    rw [cache_keep] at hvalue ⊢
    split at hvalue
    · cases hvalue
    · next hq =>
        rw [if_neg hq]
        exact h.cache q mode hvalue
  calls c call hcall := (h.calls c call hcall).keep fun _ _ _ => (h.calls c call hcall).begun.1

/-- A call that read the setting keeps it, while no other of its process is about to compare. -/
theorem Fit.keep (h : Fit past s) {mode : Mode} {source : Source}
    (hcall : s.calls c = some call)
    (hstage : call.stage = .fetched mode source) (hcacheable : call.cacheable = true)
    (hwhole : ∀ c', ∀ other ∈ s.calls c', other.process = call.process → ∀ cached,
      other.stage ≠ .looked cached) :
    Fit past (s.keep call.process ⟨some mode, call.since + cacheTtl⟩) where
  clock := h.clock
  current := h.current
  cache q m hvalue := by
    rw [cache_keep] at hvalue ⊢
    split at hvalue
    · next hq =>
        have hsound := h.calls c call hcall
        have hsource : source = .setting := by simpa [hcacheable] using hsound.read _ source hstage
        obtain rfl := Option.some.inj hvalue
        subst hsource
        rw [if_pos hq, add_sub_cancel_right]
        exact hsound.fetched _ hstage
    · next hq =>
        rw [if_neg hq]
        exact h.cache q m hvalue
  calls c' other hother := (h.calls c' other hother).keep fun hprocess m hlooked =>
    absurd hlooked (hwhole c' other hother hprocess _)

/-- A call that goes on holding nothing is sound. -/
theorem Sound.empty (h : Sound clock past cache call) {stage : Stage}
    (hlooked : ∀ mode, stage ≠ .looked (some mode)) (hfetched : ∀ m source, stage ≠ .fetched m source) :
    Sound clock past cache { call with stage := stage } where
  begun := h.begun
  looked mode hstage := absurd hstage (hlooked mode)
  fetched mode hstage := absurd hstage (hfetched mode _)
  read mode source hstage := absurd hstage (hfetched mode source)

theorem Fit.start (h : Fit past s) (c p : ℕ) (cacheable : Bool) :
    Fit past (s.start s.clock c p cacheable) where
  clock := h.clock
  current := h.current
  cache := h.cache
  calls c' other hother := by
    simp only [Workers.start, Function.update_apply] at hother
    split at hother
    · obtain rfl := Option.some.inj hother
      exact
        { begun := ⟨h.clock, le_rfl⟩
          looked := by simp
          fetched := by simp
          read := by simp }
    · exact h.calls c' other hother

/-- A call that looks at the cache holds what the cache holds. -/
theorem Fit.looked (h : Fit past s) (hcall : s.calls c = some call) :
    Sound s.clock past s.cache { call with stage := .looked (s.cache call.process).value } where
  begun := (h.calls c call hcall).begun
  looked mode hstage _ := h.cache call.process mode (Stage.looked.inj hstage)
  fetched mode hstage := by cases hstage
  read mode source hstage := by cases hstage

/-- A call that reads the setting holds the mode of now. -/
theorem Fit.fetched (h : Fit past s) (hcall : s.calls c = some call) {e : Time × Mode}
    (he : past.head? = some e) :
    Sound s.clock past s.cache { call with stage := .fetched e.2 .setting } where
  begun := (h.calls c call hcall).begun
  looked mode hstage := by cases hstage
  fetched mode hstage := by
    obtain ⟨rfl, -⟩ := Stage.fetched.inj hstage
    obtain ⟨e', he', hat⟩ := h.current
    obtain rfl := Option.some.inj (he.symm.trans he')
    exact ⟨s.clock, (h.calls c call hcall).begun.2, le_rfl, inForce_of_head? he hat⟩
  read mode source hstage := .inl (Stage.fetched.inj hstage).2.symm

end

/-! ### What is returned -/

/-- The mode that is returned was in force no longer than `cacheTtl` before the call. -/
def Returned.Bounded (past : List (Time × Mode)) (e : Returned) : Prop :=
  ∃ t, e.since - cacheTtl < t ∧ t ≤ e.at_ ∧ InForce e.mode t past

section
variable {spell : Json → String} {env : Option String} {s s' : Workers} {now : Time} {move : Move}
  {es : List Returned}

theorem head?_modes {e : Time × Mode} (h : (s.modes spell env).head? = some e) :
    s.mode spell env = e.2 := by
  rw [modes, List.head?_map, Option.map_eq_some_iff] at h
  obtain ⟨e', he', rfl⟩ := h
  rw [mode, he']
  rfl

theorem Fit.effect (h : Fit (s.modes spell env) s)
    (heffect : Effect spell env s.clock s move s' es) (hwhole : s.Whole (s.clock, move)) :
    Fit (s'.modes spell env) s' ∧ ∀ e ∈ es, e.source = .cache ∨ e.source = .setting →
      e.at_ = s.clock ∧ e.Bounded (s.modes spell env) := by
  have hempty : ∀ e ∈ ([] : List Returned), e.source = .cache ∨ e.source = .setting →
      e.at_ = s.clock ∧ e.Bounded (s.modes spell env) := by simp
  have hfetched : ∀ {c call mode source}, s.calls c = some call →
      call.stage = .fetched mode source →
      ∀ e ∈ [(⟨call.process, call.since, s.clock, mode, source⟩ : Returned)],
        e.source = .cache ∨ e.source = .setting →
          e.at_ = s.clock ∧ e.Bounded (s.modes spell env) := by
    intro c call mode source hcall hstage e he hsource
    obtain rfl := List.mem_singleton.mp he
    have hsound := h.calls c call hcall
    have hsetting : source = .setting := by
      rcases hsound.read mode source hstage with rfl | ⟨rfl, -⟩
      · rfl
      · rcases hsource with hsource | hsource <;> cases hsource
    subst hsetting
    obtain ⟨t, hsince, ht, hforce⟩ := hsound.fetched mode hstage
    have httl : (0 : Int) < cacheTtl := by decide
    exact ⟨rfl, t, by dsimp only; linarith, ht, hforce⟩
  cases heffect with
  | idle => exact ⟨h, hempty⟩
  | committed row => exact ⟨h.commit _ row, hempty⟩
  | dropped p => exact ⟨h.drop p, hempty⟩
  | started p cacheable _ => exact ⟨h.start _ p cacheable, hempty⟩
  | looked hcall => exact ⟨h.goOn (h.looked hcall), hempty⟩
  | hit hcall hstage hfresh =>
      refine ⟨h.leave, ?_⟩
      intro e he _
      obtain rfl := List.mem_singleton.mp he
      obtain ⟨t, hsince, ht, hforce⟩ := (h.calls _ _ hcall).looked _ hstage hfresh
      exact ⟨rfl, t, by dsimp only; linarith, ht, hforce⟩
  | missed hcall => exact ⟨h.goOn ((h.calls _ _ hcall).empty (by simp) (by simp)), hempty⟩
  | read hcall =>
      obtain ⟨e, he, -⟩ := h.current
      rw [head?_modes he]
      exact ⟨h.goOn (h.fetched hcall he), hempty⟩
  | own row hcall hcacheable =>
      refine ⟨h.goOn ?_, hempty⟩
      exact
        { begun := (h.calls _ _ hcall).begun
          looked := by simp
          fetched := by simp
          read := by simp [hcacheable] }
  | failed hcall => exact ⟨h.leave, by simp⟩
  | finished hcall hstage hcacheable => exact ⟨h.leave, hfetched hcall hstage⟩
  | kept hcall hstage hcacheable =>
      exact ⟨(h.keep hcall hstage hcacheable (hwhole _ hcall hcacheable)).leave,
        hfetched hcall hstage⟩

/-- The commits of a run, in order. -/
def commits (as : List (Time × Move)) : List (Time × Option SettingValue) :=
  as.filterMap fun a => match a.2 with
    | .commit row => some (a.1, row)
    | _ => none

/-- The commits are all that the steps add to the log. -/
theorem Effect.log (h : Effect spell env now s move s' es) :
    s'.log = (commits [(now, move)]).reverse ++ s.log := by
  cases h with
  | idle h =>
      cases move with
      | commit row => exact absurd rfl (h row)
      | _ => rfl
  | _ => rfl

theorem Effect.modes (h : Effect spell env now s move s' es) :
    s'.modes spell env = s.modes spell env ∨
      ∃ new, s'.modes spell env = (now, new) :: s.modes spell env := by
  rw [Workers.modes, h.log]
  cases move with
  | commit row => exact .inr ⟨_, rfl⟩
  | _ => exact .inl rfl

theorem Effect.clock (h : Effect spell env now s move s' es) : s'.clock = s.clock := by
  cases h with
  | _ => rfl

theorem Returned.Bounded.later {e : Returned} {past past' : List (Time × Mode)}
    (h : e.Bounded past) (hat : e.at_ ≤ now)
    (hpast : past' = past ∨ ∃ new, past' = (now, new) :: past) : e.Bounded past' := by
  obtain ⟨t, hsince, ht, hforce⟩ := h
  rcases hpast with rfl | ⟨new, rfl⟩
  · exact ⟨t, hsince, ht, hforce⟩
  · exact ⟨t, hsince, ht, .cons _ (ht.trans hat) hforce⟩

/-- The processes, and what was returned so far. -/
def Trusted (spell : Json → String) (env : Option String) (es : List Returned) (s : Workers) : Prop :=
  Fit (s.modes spell env) s ∧ ∀ e ∈ es, e.source = .cache ∨ e.source = .setting →
    e.at_ ≤ s.clock ∧ e.Bounded (s.modes spell env)

theorem trusted_initial (row : Option SettingValue) : Trusted spell env [] (initial row) := by
  refine ⟨?_, by simp⟩
  exact
    { clock := le_rfl
      current := ⟨_, rfl, le_rfl⟩
      cache := by simp [initial, Cache.dropped]
      calls := by simp [initial] }

theorem Trusted.step {a : Time × Move} (h : Trusted spell env es s) (hok : s.ok a)
    (hwhole : s.Whole a) : Trusted spell env (es ++ s.out a) (s.step spell env a) := by
  obtain ⟨hfit, hes⟩ := h
  have heffect : Effect spell env a.1 _ a.2 (s.step spell env a) (s.out a) := effect_step a hok
  have hnow : Fit (modes spell env { s with clock := a.1 }) { s with clock := a.1 } :=
    hfit.later hok.1
  obtain ⟨hfit', hout⟩ := hnow.effect heffect hwhole
  refine ⟨hfit', fun e he hsource => ?_⟩
  rw [heffect.clock]
  rcases List.mem_append.mp he with he | he
  · obtain ⟨hat, hbounded⟩ := hes e he hsource
    exact ⟨hat.trans hok.1, hbounded.later (hat.trans hok.1) heffect.modes⟩
  · obtain ⟨hat, hbounded⟩ := hout e he hsource
    exact ⟨hat.le, hbounded.later hat.le heffect.modes⟩

end

/-- A process reads the setting and keeps what it read. -/
def firstRead : List (Time × Move) :=
  [(0, .start 0 0 true), (0, .look 0), (0, .compare 0), (0, .fetch 0 .committed), (0, .finish 0)]

/-- A call that finds a kept value. -/
def laterLook : List (Time × Move) :=
  [(seconds 1, .start 1 0 true), (seconds 1, .look 1), (seconds 1, .compare 1)]

/-- A process keeps the mode shadow; another one has the mode enforced.  Much later two calls look
at what is kept; one reads the setting and keeps the new mode, and only then the other compares. -/
def torn (later : Time) : List (Time × Move) :=
  [(0, .start 0 0 true), (0, .look 0), (0, .compare 0), (0, .fetch 0 .committed), (0, .finish 0),
    (0, .commit (written "enforce")),
    (later, .start 1 0 true), (later, .look 1),
    (later, .start 2 0 true), (later, .look 2), (later, .compare 2), (later, .fetch 2 .committed),
    (later, .finish 2), (later, .compare 1)]

section
variable (spell : Json → String) (env : Option String)

theorem log_run {s : Workers} {as : List (Time × Move)}
    (has : Admits (Workers.step spell env) Workers.ok s as) :
    (run (Workers.step spell env) s as).log = (commits as).reverse ++ s.log := by
  induction as generalizing s with
  | nil => rfl
  | cons a as ih =>
      have heffect : Effect spell env a.1 _ a.2 (s.step spell env a) (s.out a) :=
        effect_step a has.1
      have hlog := heffect.log
      have hcommits : commits ([a] ++ as) = commits [a] ++ commits as := List.filterMap_append
      rw [List.singleton_append] at hcommits
      rw [run_cons, ih has.2, hlog, hcommits, List.reverse_append, List.append_assoc]

variable {later : Time}

theorem admits_torn (h : cacheTtl ≤ later) :
    Admits (Workers.step spell env) Workers.ok (initial (written "shadow")) (torn later) := by
  have hlate : ¬later < cacheTtl := not_lt.mpr h
  have hpos : 0 ≤ later := le_trans (by decide) h
  simp [torn, Workers.ok, Workers.step, callStep, initial, Workers.start, goOn, leave,
    Workers.keep, hits, Workers.mode, modeOf_enforce, modeOf_shadow, hlate, hpos, Cache.dropped]

theorem returned_torn (h : cacheTtl ≤ later) : ⟨0, later, later, .shadow, .cache⟩ ∈
    emitted (Workers.step spell env) Workers.out (initial (written "shadow")) (torn later) := by
  have hlate : ¬later < cacheTtl := not_lt.mpr h
  have httl : (0 : Int) < cacheTtl := by decide
  simp [torn, emitted, Workers.step, Workers.out, callStep, callOut, initial, Workers.start, goOn,
    leave, Workers.keep, hits, Workers.mode, modeOf_enforce, modeOf_shadow, hlate, httl,
    Cache.dropped]

/-- **No bound without that.**  For every number of seconds there is a run in which a call returns a
mode from the cache that was replaced longer ago: it looked at a value long expired, and compared
the time of one that another call had kept since. -/
theorem stale_of_torn (n : ℕ) : ∃ (as : List (Time × Move)) (e : Returned),
    Admits (Workers.step spell env) Workers.ok (initial (written "shadow")) as ∧
    e ∈ emitted (Workers.step spell env) Workers.out (initial (written "shadow")) as ∧
    e.source = .cache ∧ ∀ t, e.at_ - seconds n ≤ t →
      ¬InForce e.mode t
        ((run (Workers.step spell env) (initial (written "shadow")) as).modes spell env) := by
  have hpos : 0 ≤ seconds n := mul_nonneg (Int.natCast_nonneg n) (by decide)
  have httl : (0 : Int) < cacheTtl := by decide
  have hlater : cacheTtl ≤ seconds n + cacheTtl := by linarith
  refine ⟨torn (seconds n + cacheTtl), _, admits_torn spell env hlater,
    returned_torn spell env hlater, rfl, ?_⟩
  intro t ht
  have hlog := log_run spell env (admits_torn spell env hlater)
  have hcommits : commits (torn (seconds n + cacheTtl)) = [(0, written "enforce")] := rfl
  rw [modes, hlog, hcommits]
  simp only [initial, List.reverse_singleton, List.singleton_append, List.map_cons, List.map_nil,
    modeOf_enforce, modeOf_shadow]
  refine not_inForce_pair Mode.noConfusion ?_
  dsimp only at ht
  linarith

end

/-! ### After a write -/

/-- A mode that the setting stood for when the log was `old`, or later. -/
def Recent (spell : Json → String) (env : Option String) (old log : List (Time × Option SettingValue))
    (mode : Mode) : Prop :=
  ∃ newer, log = newer ++ old ∧ ∃ e ∈ newer ++ old.take 1, modeOf spell env e.2 = mode

/-- A process holds no mode that is older than the log `old`. -/
structure Since (spell : Json → String) (env : Option String)
    (old : List (Time × Option SettingValue)) (p : ℕ) (s : Workers) : Prop where
  current : ∃ e newer, s.log.head? = some e ∧ s.log = newer ++ old ∧ e ∈ newer ++ old.take 1
  cache : ∀ mode, (s.cache p).value = some mode → Recent spell env old s.log mode
  looked : ∀ c call, s.calls c = some call → call.process = p → ∀ mode,
    call.stage = .looked (some mode) → Recent spell env old s.log mode
  fetched : ∀ c call, s.calls c = some call → call.process = p → ∀ mode source,
    call.stage = .fetched mode source →
      source = .setting ∧ Recent spell env old s.log mode ∨
        source = .own ∧ call.cacheable = false

section
variable {spell : Json → String} {env : Option String} {old log : List (Time × Option SettingValue)}
  {mode : Mode} {s s' : Workers} {p c : ℕ} {call : Call} {now : Time} {move : Move}
  {es : List Returned}

theorem Recent.cons (h : Recent spell env old log mode) (e : Time × Option SettingValue) :
    Recent spell env old (e :: log) mode := by
  obtain ⟨newer, rfl, e', he', hmode⟩ := h
  exact ⟨e :: newer, rfl, e', List.mem_cons_of_mem e he', hmode⟩

theorem Since.recent (h : Since spell env old p s) :
    Recent spell env old s.log (s.mode spell env) := by
  obtain ⟨e, newer, hhead, hlog, he⟩ := h.current
  refine ⟨newer, hlog, e, he, ?_⟩
  rw [Workers.mode, hhead]
  rfl

theorem Since.goOn (h : Since spell env old p s) {stage : Stage}
    (hlooked : call.process = p → ∀ mode, stage = .looked (some mode) →
      Recent spell env old s.log mode)
    (hfetched : call.process = p → ∀ mode source, stage = .fetched mode source →
      source = .setting ∧ Recent spell env old s.log mode ∨
        source = .own ∧ call.cacheable = false) :
    Since spell env old p (s.goOn c call stage) where
  current := h.current
  cache := h.cache
  looked c' other hother hp := by
    rcases calls_goOn hother with rfl | hother
    · exact hlooked hp
    · exact h.looked c' other hother hp
  fetched c' other hother hp := by
    rcases calls_goOn hother with rfl | hother
    · exact hfetched hp
    · exact h.fetched c' other hother hp

theorem Since.leave (h : Since spell env old p s) : Since spell env old p (s.leave c) where
  current := h.current
  cache := h.cache
  looked c' other hother := h.looked c' other (calls_leave hother)
  fetched c' other hother := h.fetched c' other (calls_leave hother)

theorem Since.keep (h : Since spell env old p s) {q : ℕ} {kept : Cache}
    (hkept : q = p → ∀ mode, kept.value = some mode → Recent spell env old s.log mode) :
    Since spell env old p (s.keep q kept) where
  current := h.current
  cache mode hvalue := by
    rw [cache_keep] at hvalue
    split at hvalue
    · next hq => exact hkept hq.symm mode hvalue
    · exact h.cache mode hvalue
  looked := h.looked
  fetched := h.fetched

theorem Since.commit (h : Since spell env old p s) (e : Time × Option SettingValue) :
    Since spell env old p { s with log := e :: s.log } where
  current := by
    obtain ⟨-, newer, -, hlog, -⟩ := h.current
    exact ⟨e, e :: newer, rfl, by rw [hlog, List.cons_append], List.mem_cons_self⟩
  cache mode hvalue := (h.cache mode hvalue).cons e
  looked c call hcall hp mode hstage := (h.looked c call hcall hp mode hstage).cons e
  fetched c call hcall hp mode source hstage :=
    (h.fetched c call hcall hp mode source hstage).imp_left fun ⟨hsource, hrecent⟩ =>
      ⟨hsource, hrecent.cons e⟩

theorem Since.start (h : Since spell env old p s) (c q : ℕ) (cacheable : Bool) :
    Since spell env old p (s.start now c q cacheable) where
  current := h.current
  cache := h.cache
  looked c' other hother hp mode hstage := by
    simp only [Workers.start, Function.update_apply] at hother
    split at hother
    · obtain rfl := Option.some.inj hother
      cases hstage
    · exact h.looked c' other hother hp mode hstage
  fetched c' other hother hp mode source hstage := by
    simp only [Workers.start, Function.update_apply] at hother
    split at hother
    · obtain rfl := Option.some.inj hother
      cases hstage
    · exact h.fetched c' other hother hp mode source hstage

theorem Since.effect (h : Since spell env old p s) (heffect : Effect spell env now s move s' es) :
    Since spell env old p s' ∧ ∀ e ∈ es, e.process = p →
      e.source = .cache ∨ e.source = .setting → Recent spell env old s.log e.mode := by
  have hreturned : ∀ {c call mode source}, s.calls c = some call →
      call.stage = .fetched mode source →
      ∀ e ∈ [(⟨call.process, call.since, now, mode, source⟩ : Returned)], e.process = p →
        e.source = .cache ∨ e.source = .setting → Recent spell env old s.log e.mode := by
    intro c call mode source hcall hstage e he hp hsource
    obtain rfl := List.mem_singleton.mp he
    rcases h.fetched c call hcall hp mode source hstage with ⟨-, hrecent⟩ | ⟨rfl, -⟩
    · exact hrecent
    · rcases hsource with hsource | hsource <;> cases hsource
  cases heffect with
  | idle => exact ⟨h, by simp⟩
  | committed row => exact ⟨h.commit _, by simp⟩
  | dropped q => exact ⟨h.keep (by simp [Cache.dropped]), by simp⟩
  | started q cacheable _ => exact ⟨h.start _ q cacheable, by simp⟩
  | looked hcall =>
      refine ⟨h.goOn (fun hp mode hstage => ?_) (by simp), by simp⟩
      exact h.cache mode (hp ▸ Stage.looked.inj hstage)
  | hit hcall hstage hfresh =>
      refine ⟨h.leave, ?_⟩
      intro e he hp _
      obtain rfl := List.mem_singleton.mp he
      exact h.looked _ _ hcall hp _ hstage
  | missed hcall => exact ⟨h.goOn (by simp) (by simp), by simp⟩
  | read hcall =>
      refine ⟨h.goOn (by simp) (fun hp mode source hstage => ?_), by simp⟩
      obtain ⟨rfl, rfl⟩ := Stage.fetched.inj hstage
      exact .inl ⟨rfl, h.recent⟩
  | own row hcall hcacheable =>
      refine ⟨h.goOn (by simp) (fun hp mode source hstage => ?_), by simp⟩
      exact .inr ⟨(Stage.fetched.inj hstage).2.symm, hcacheable⟩
  | failed hcall => exact ⟨h.leave, by simp⟩
  | finished hcall hstage hcacheable => exact ⟨h.leave, hreturned hcall hstage⟩
  | @kept c call mode source hcall hstage hcacheable =>
      refine ⟨(h.keep fun hp m hvalue => ?_).leave, hreturned hcall hstage⟩
      obtain rfl := Option.some.inj hvalue
      rcases h.fetched c call hcall hp mode source hstage with ⟨-, hrecent⟩ | ⟨-, hnot⟩
      · exact hrecent
      · rw [hcacheable] at hnot
        cases hnot

/-- A process that has not registered keeps nothing and calls nothing. -/
def Registers (s : Workers) : Prop :=
  ∀ p, s.registered p = false →
    (s.cache p).value = none ∧ ∀ c call, s.calls c = some call → call.process ≠ p

theorem Registers.keep (h : Registers s) {q : ℕ} {kept : Cache}
    (hkept : kept.value = none ∨ ∃ c call, s.calls c = some call ∧ call.process = q) :
    Registers (s.keep q kept) := by
  intro p hp
  obtain ⟨hvalue, hcalls⟩ := h p hp
  refine ⟨?_, hcalls⟩
  rw [cache_keep]
  split
  · next heq =>
      rcases hkept with hkept | ⟨c, call, hcall, hprocess⟩
      · exact hkept
      · exact absurd (hprocess.trans heq.symm) (hcalls c call hcall)
  · exact hvalue

theorem Registers.calls (h : Registers s) {calls : ℕ → Option Call}
    (hcalls : ∀ c call, calls c = some call →
      ∃ c' call', s.calls c' = some call' ∧ call'.process = call.process) :
    Registers { s with calls := calls } := by
  intro p hp
  obtain ⟨hvalue, hnone⟩ := h p hp
  refine ⟨hvalue, fun c call hcall hprocess => ?_⟩
  obtain ⟨c', call', hcall', hsame⟩ := hcalls c call hcall
  exact hnone c' call' hcall' (hsame.trans hprocess)

theorem Registers.goOn (h : Registers s) (hcall : s.calls c = some call) (stage : Stage) :
    Registers (s.goOn c call stage) :=
  h.calls fun c' other hother => by
    rcases calls_goOn (s := s) hother with rfl | hother
    · exact ⟨c, call, hcall, rfl⟩
    · exact ⟨c', other, hother, rfl⟩

theorem Registers.leave (h : Registers s) : Registers (s.leave c) :=
  h.calls fun c' other hother => ⟨c', other, calls_leave (s := s) hother, rfl⟩

theorem Registers.effect (h : Registers s) (heffect : Effect spell env now s move s' es) :
    Registers s' := by
  cases heffect with
  | idle => exact h
  | committed row => exact h
  | dropped q => exact h.keep (.inl rfl)
  | started q cacheable hnone =>
      intro p hp
      simp only [Workers.start, Function.update_apply] at hp
      split at hp
      · cases hp
      · next hne =>
          obtain ⟨hvalue, hcalls⟩ := h p hp
          refine ⟨hvalue, fun c' other hother hprocess => ?_⟩
          simp only [Workers.start, Function.update_apply] at hother
          split at hother
          · obtain rfl := Option.some.inj hother
            exact hne hprocess.symm
          · exact hcalls c' other hother hprocess
  | looked hcall => exact h.goOn hcall _
  | hit => exact h.leave
  | missed hcall => exact h.goOn hcall _
  | read hcall => exact h.goOn hcall _
  | own row hcall => exact h.goOn hcall _
  | failed => exact h.leave
  | finished => exact h.leave
  | kept hcall => exact (h.keep (.inr ⟨_, _, hcall, rfl⟩)).leave

theorem Registers.step (h : Registers s) {a : Time × Move} (hok : s.ok a) :
    Registers (s.step spell env a) := by
  have hnow : Registers { s with clock := a.1 } := h
  exact hnow.effect (effect_step a hok)

/-- No call of the process holds a mode. -/
def Idle (p : ℕ) (s : Workers) : Prop :=
  ∀ c, ∀ call ∈ s.calls c, call.process = p → ∀ mode,
    call.stage ≠ .looked (some mode) ∧ ∀ source, call.stage ≠ .fetched mode source

theorem Recent.append (h : Recent spell env old log mode)
    (newer : List (Time × Option SettingValue)) : Recent spell env old (newer ++ log) mode := by
  induction newer with
  | nil => exact h
  | cons e newer ih => exact ih.cons e

/-- What a process holds is recent, and so is what it returned. -/
def Renewed (spell : Json → String) (env : Option String)
    (old : List (Time × Option SettingValue)) (p : ℕ) (es : List Returned) (s : Workers) : Prop :=
  Since spell env old p s ∧ ∀ e ∈ es, e.process = p → e.source = .cache ∨ e.source = .setting →
    Recent spell env old s.log e.mode

theorem Renewed.step (h : Renewed spell env old p es s) {a : Time × Move} (hok : s.ok a) :
    Renewed spell env old p (es ++ s.out a) (s.step spell env a) := by
  obtain ⟨hsince, hes⟩ := h
  have heffect : Effect spell env a.1 _ a.2 (s.step spell env a) (s.out a) := effect_step a hok
  have hnow : Since spell env old p { s with clock := a.1 } :=
    { current := hsince.current
      cache := hsince.cache
      looked := hsince.looked
      fetched := hsince.fetched }
  obtain ⟨hstep, hout⟩ := hnow.effect heffect
  refine ⟨hstep, fun e he hp hsource => ?_⟩
  rw [heffect.log]
  rcases List.mem_append.mp he with he | he
  · exact (hes e he hp hsource).append _
  · exact (hout e he hp hsource).append _

/-- What a process holds that has just dropped what it kept. -/
theorem since_fire {e : Time × Option SettingValue} (hregisters : Registers s)
    (hhead : s.log.head? = some e) (hidle : Idle p (s.step spell env (now, .fire p))) :
    Since spell env s.log p (s.step spell env (now, .fire p)) := by
  have hlog : (s.step spell env (now, .fire p)).log = s.log := by
    rw [Workers.step]
    dsimp only
    split <;> rfl
  have hvalue : ((s.step spell env (now, .fire p)).cache p).value = none := by
    rw [Workers.step]
    dsimp only
    split
    · rw [cache_keep, if_pos rfl]
      rfl
    · next h => exact (hregisters p (by simpa using h)).1
  exact
    { current := by
        obtain ⟨older, hcons⟩ := List.head?_eq_some_iff.mp hhead
        refine ⟨e, [], hlog ▸ hhead, hlog, ?_⟩
        rw [hcons]
        exact List.mem_cons_self
      cache := by
        intro mode h
        rw [hvalue] at h
        cases h
      looked := fun c call hcall hp mode hstage => absurd hstage (hidle c call hcall hp mode).1
      fetched := fun c call hcall hp mode source hstage =>
        absurd hstage ((hidle c call hcall hp mode).2 source) }

end

end RebooterHub.Tenancy
