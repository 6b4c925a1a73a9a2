import Mathlib.Logic.Function.Basic
import RebooterHub.Auth.Accounts
import RebooterHub.Support.Once

/-!
# Auth — Password resets under interleaving

Attempts to use one password-reset token, each in a transaction of its own under read-committed
isolation: the look-up of the token and the load of the user each read what is committed then, and
the writes take effect with the commit.

The look-up takes no lock on the token's row, and the commit does not look at it again.

* `resets_once_iff`: in a run at most one attempt succeeds exactly when each attempt that commits
  finds the token's row still unconsumed.
* `resets_once_of_locked`: that is so when no attempt looks the token up while another one is open,
  as a lock on the row would have it.
-/

namespace RebooterHub.Auth
open RebooterHub.Runs RebooterHub.Once

/-- What an attempt brings: its clock and the new password. -/
structure Attempt where
  now : Time
  newPassword : String
deriving DecidableEq, Repr

/-- How far an attempt is, with the rows it has read. -/
inductive ResetPhase where
  | fresh
  | found (rec : PasswordReset)
  | loaded (rec : PasswordReset) (u : User)
  | finished (result : Option User)
deriving DecidableEq, Repr

/-- The committed tables and the attempts. -/
structure ResetRace where
  committed : Accounts
  phase : Nat → ResetPhase

/-- The attempt `i` moves on. -/
def ResetRace.moveTo (s : ResetRace) (i : Nat) (p : ResetPhase) : ResetRace :=
  { s with phase := Function.update s.phase i p }

/-- The next statement of an attempt. -/
inductive ResetStep where
  /-- The checks of the arguments and the look-up of the token. -/
  | lookUp (i : Nat)
  /-- The load of the user. -/
  | load (i : Nat)
  /-- The writes and the commit. -/
  | commit (i : Nat)
deriving DecidableEq, Repr

/-- The columns `consume_reset` writes to a user. -/
def resetUser (cfg : Settings) (salt : Nat) (attempt : Attempt) (u : User) : User :=
  { u with
    passwordHash := cfg.hashPassword salt attempt.newPassword
    updatedAt := attempt.now
    tokensValidAfter := attempt.now }

/-- What a commit of `consume_reset` writes. -/
def commitReset (cfg : Settings) (a : Accounts) (attempt : Attempt) (rec : PasswordReset)
    (u : User) : Accounts :=
  Accounts.updateUser
    { a with
      drawn := a.drawn + 1
      resets := a.resets.map fun r =>
        if r.tokenHash = rec.tokenHash then { r with consumedAt := some attempt.now } else r }
    u.id (resetUser cfg a.drawn attempt)

section
variable (cfg : Settings) (token : String) (attempt : Nat → Attempt)

/-- Where the look-up of an attempt leads. -/
def lookUpPhase (a : Accounts) (i : Nat) : ResetPhase :=
  if token = "" ∨ (attempt i).newPassword.length < 8 then .finished none
  else match a.pendingReset cfg (attempt i).now token with
    | none => .finished none
    | some rec => .found rec

/-- Where the load of the user leads. -/
def loadPhase (a : Accounts) (rec : PasswordReset) : ResetPhase :=
  match (a.loadUser rec.userId).filter (·.isActive) with
  | none => .finished none
  | some u => .loaded rec u

/-- One step of the attempts; an attempt whose turn it is not stays where it is. -/
def resetStep (s : ResetRace) : ResetStep → ResetRace
  | .lookUp i => match s.phase i with
    | .fresh => s.moveTo i (lookUpPhase cfg token attempt s.committed i)
    | _ => s
  | .load i => match s.phase i with
    | .found rec => s.moveTo i (loadPhase s.committed rec)
    | _ => s
  | .commit i => match s.phase i with
    | .loaded rec u =>
      { s with committed := commitReset cfg s.committed (attempt i) rec u }.moveTo i
        (.finished (some (resetUser cfg s.committed.drawn (attempt i) u)))
    | _ => s

/-- The attempt that succeeds at a step. -/
def succeeds (s : ResetRace) : ResetStep → List Nat
  | .commit i => match s.phase i with
    | .loaded _ _ => [i]
    | _ => []
  | .lookUp _ | .load _ => []

/-- The token's row is there and unconsumed. -/
def Unconsumed (s : ResetRace) : Prop :=
  ∃ rec, s.committed.resets.find? (·.tokenHash = cfg.hashToken token) = some rec ∧ rec.consumedAt = none

/-- The row an attempt has found, if it is still open. -/
def ResetPhase.openRow : ResetPhase → Option PasswordReset
  | .found rec | .loaded rec _ => some rec
  | .fresh | .finished _ => none

end

/-- A look-up waits until no other attempt is open. -/
def LookUpAlone (s : ResetRace) : ResetStep → Prop
  | .lookUp i => ∀ j, j ≠ i → (s.phase j).openRow = none
  | .load _ | .commit _ => True

/-- No attempt has begun. -/
def ResetRace.start (a : Accounts) : ResetRace := ⟨a, fun _ => .fresh⟩

/-! ### What a step does -/

section
variable {cfg : Settings} {token : String} {attempt : Nat → Attempt} {s : ResetRace}

/-- A look-up finds the token's row unconsumed, or ends the attempt. -/
theorem lookUpPhase_openRow {a : Accounts} {i : Nat} {rec : PasswordReset}
    (h : (lookUpPhase cfg token attempt a i).openRow = some rec) :
    a.resets.find? (·.tokenHash = cfg.hashToken token) = some rec ∧ rec.consumedAt = none := by
  rw [lookUpPhase] at h
  split at h
  · cases h
  · split at h
    · cases h
    · next hpending =>
        obtain rfl := Option.some_inj.mp h
        obtain ⟨hfind, hopen⟩ := Option.filter_eq_some_iff.mp hpending
        simp only [decide_eq_true_eq] at hopen
        exact ⟨hfind, hopen.1⟩

theorem loadPhase_openRow {a : Accounts} {rec rec' : PasswordReset}
    (h : (loadPhase a rec).openRow = some rec') : rec' = rec := by
  rw [loadPhase] at h
  split at h
  · cases h
  · exact (Option.some_inj.mp h).symm

/-- What is open when one attempt has moved on. -/
theorem moveTo_openRow {i j : Nat} {p : ResetPhase} {rec : PasswordReset}
    (h : ((s.moveTo i p).phase j).openRow = some rec) :
    (j = i ∧ p.openRow = some rec) ∨ (s.phase j).openRow = some rec := by
  by_cases hij : j = i
  · subst hij
    exact .inl ⟨rfl, by simpa [ResetRace.moveTo] using h⟩
  · exact .inr (by simpa [ResetRace.moveTo, hij] using h)

/-- What an attempt holds open after a step it held open before, or has just found. -/
theorem resetStep_openRow {a : ResetStep} {i : Nat} {rec : PasswordReset}
    (h : ((resetStep cfg token attempt s a).phase i).openRow = some rec) :
    (s.phase i).openRow = some rec ∨
      a = .lookUp i ∧ s.committed.resets.find? (·.tokenHash = cfg.hashToken token) = some rec ∧
        rec.consumedAt = none := by
  cases a with
  | lookUp j =>
      rw [resetStep] at h
      split at h
      · rcases moveTo_openRow h with ⟨rfl, hfound⟩ | hbefore
        · exact .inr ⟨rfl, lookUpPhase_openRow hfound⟩
        · exact .inl hbefore
      · exact .inl h
  | load j =>
      rw [resetStep] at h
      split at h
      · next hphase =>
          rcases moveTo_openRow h with ⟨rfl, hloaded⟩ | hbefore
          · rw [loadPhase_openRow hloaded, hphase]
            exact .inl rfl
          · exact .inl hbefore
      · exact .inl h
  | commit j =>
      rw [resetStep] at h
      split at h
      · rcases moveTo_openRow h with ⟨-, hfinished⟩ | hbefore
        · cases hfinished
        · exact .inl hbefore
      · exact .inl h

/-- A step of nobody's success changes no table. -/
theorem resetStep_committed {a : ResetStep} (h : succeeds s a = []) :
    (resetStep cfg token attempt s a).committed = s.committed := by
  cases a with
  | lookUp i => rw [resetStep]; split <;> rfl
  | load i => rw [resetStep]; split <;> rfl
  | commit i =>
      rw [resetStep]
      split
      · next hphase =>
          rw [succeeds, hphase] at h
          cases h
      · rfl

/-- A success is a commit of an attempt that has read both rows. -/
theorem succeeds_ne_nil (cfg : Settings) (token : String) (attempt : Nat → Attempt) {a : ResetStep}
    (h : succeeds s a ≠ []) :
    ∃ i rec u, a = .commit i ∧ s.phase i = .loaded rec u ∧
      resetStep cfg token attempt s a =
        { s with committed := commitReset cfg s.committed (attempt i) rec u }.moveTo i
          (.finished (some (resetUser cfg s.committed.drawn (attempt i) u))) := by
  cases a with
  | lookUp i | load i => exact absurd rfl h
  | commit i =>
      rw [succeeds] at h
      split at h
      · next rec u hphase =>
          refine ⟨i, rec, u, rfl, hphase, ?_⟩
          rw [resetStep, hphase]
      · exact absurd rfl h

theorem succeeds_length (s : ResetRace) (a : ResetStep) : (succeeds s a).length ≤ 1 := by
  cases a with
  | lookUp i | load i => exact Nat.zero_le 1
  | commit i =>
      rw [succeeds]
      split <;> simp

/-! ### At most one success -/

/-- The open rows are those of the token. -/
def OpenRowsOf (cfg : Settings) (token : String) (s : ResetRace) : Prop :=
  ∀ i rec, (s.phase i).openRow = some rec → rec.tokenHash = cfg.hashToken token

theorem openRowsOf_step (a : ResetStep) (h : OpenRowsOf cfg token s) :
    OpenRowsOf cfg token (resetStep cfg token attempt s a) := by
  intro i rec hopen
  rcases resetStep_openRow hopen with hbefore | ⟨-, hfind, -⟩
  · exact h i rec hbefore
  · simpa using List.find?_some hfind

/-- A success consumes the token's row. -/
theorem consumed_of_succeeds {a : ResetStep} (hopen : OpenRowsOf cfg token s)
    (h : succeeds s a ≠ []) : ¬Unconsumed cfg token (resetStep cfg token attempt s a) := by
  obtain ⟨i, rec, u, -, hphase, hstep⟩ := succeeds_ne_nil cfg token attempt h
  have hrec : rec.tokenHash = cfg.hashToken token := hopen i rec (by rw [hphase]; rfl)
  rintro ⟨r, hfind, hr⟩
  rw [hstep, ResetRace.moveTo, commitReset, Accounts.updateUser, hrec] at hfind
  have hhash : r.tokenHash = cfg.hashToken token := by simpa using List.find?_some hfind
  obtain ⟨r₀, -, rfl⟩ := List.mem_map.mp (List.mem_of_find?_eq_some hfind)
  split at hr
  · cases hr
  · next hne =>
      rw [if_neg hne] at hhash
      exact hne hhash

/-- Consumed stays consumed. -/
theorem consumed_step (a : ResetStep) (hopen : OpenRowsOf cfg token s)
    (h : ¬Unconsumed cfg token s) : ¬Unconsumed cfg token (resetStep cfg token attempt s a) := by
  by_cases hsucceeds : succeeds s a = []
  · rwa [Unconsumed, resetStep_committed hsucceeds]
  · exact consumed_of_succeeds hopen hsucceeds

/-- While nobody has succeeded, an open attempt has seen the row as it still is. -/
def OpenUnconsumed (cfg : Settings) (token : String) (s : ResetRace) : Prop :=
  ∀ i rec, (s.phase i).openRow = some rec → Unconsumed cfg token s

theorem openUnconsumed_step {a : ResetStep} (h : OpenUnconsumed cfg token s)
    (hsucceeds : succeeds s a = []) : OpenUnconsumed cfg token (resetStep cfg token attempt s a) := by
  intro i rec hopen
  rw [Unconsumed, resetStep_committed hsucceeds]
  rcases resetStep_openRow hopen with hbefore | ⟨-, hfind, hconsumed⟩
  · exact h i rec hbefore
  · exact ⟨rec, hfind, hconsumed⟩

end

/-- **Single use.**  In a run of attempts with one token, at most one succeeds exactly when each
attempt that commits finds the token's row unconsumed. -/
theorem resets_once_iff (cfg : Settings) (token : String) (attempt : Nat → Attempt) (a : Accounts)
    (steps : List ResetStep) :
    (emitted (resetStep cfg token attempt) succeeds (.start a) steps).length ≤ 1 ↔
      Admits (resetStep cfg token attempt) (FindsFree succeeds (Unconsumed cfg token)) (.start a)
        steps := by
  constructor
  · refine admits_of_once (I := OpenUnconsumed cfg token) (fun s step hs hne => ?_)
      (fun s step hs => openUnconsumed_step hs) fun i rec hopen => by cases hopen
    obtain ⟨i, rec, u, -, hphase, -⟩ := succeeds_ne_nil cfg token attempt hne
    exact hs i rec (by rw [hphase]; rfl)
  · exact once_of_admits (fun s step => openRowsOf_step step) succeeds_length
      (fun s step => consumed_step step) (fun s step => consumed_of_succeeds)
      fun i rec hopen => by cases hopen

/-! ### Look-ups one at a time -/

/-- At most one attempt is open, and it has seen the row as it still is. -/
structure OneOpen (cfg : Settings) (token : String) (s : ResetRace) : Prop where
  unconsumed : OpenUnconsumed cfg token s
  unique : ∀ i j, (s.phase i).openRow ≠ none → (s.phase j).openRow ≠ none → i = j

theorem oneOpen_step {cfg : Settings} {token : String} {attempt : Nat → Attempt} {s : ResetRace}
    {a : ResetStep} (h : OneOpen cfg token s) (halone : LookUpAlone s a) :
    OneOpen cfg token (resetStep cfg token attempt s a) := by
  -- an attempt open after the step was open, or has just looked the token up
  have hopen : ∀ i, ((resetStep cfg token attempt s a).phase i).openRow ≠ none →
      (s.phase i).openRow ≠ none ∨ a = .lookUp i := by
    intro i hi
    obtain ⟨rec, hrec⟩ := Option.ne_none_iff_exists'.mp hi
    rcases resetStep_openRow hrec with hbefore | ⟨ha, -⟩
    · exact .inl (by rw [hbefore]; exact Option.some_ne_none rec)
    · exact .inr ha
  have hothers : ∀ i j, (s.phase j).openRow ≠ none → a = .lookUp i → i = j := by
    rintro i j hj rfl
    by_contra hne
    exact hj (halone j (Ne.symm hne))
  refine ⟨?_, fun i j hi hj => ?_⟩
  · by_cases hsucceeds : succeeds s a = []
    · exact openUnconsumed_step h.unconsumed hsucceeds
    · obtain ⟨i, rec, u, rfl, hphase, hstep⟩ := succeeds_ne_nil cfg token attempt hsucceeds
      intro j rec' hj
      rw [hstep] at hj
      rcases moveTo_openRow hj with ⟨-, hfinished⟩ | hbefore
      · cases hfinished
      · have hij : i = j := h.unique i j (by rw [hphase]; exact Option.some_ne_none rec)
          (by rw [show (s.phase j).openRow = some rec' from hbefore]; exact Option.some_ne_none rec')
        subst hij
        simp [ResetRace.moveTo, ResetPhase.openRow] at hj
  · rcases hopen i hi with hi' | hi' <;> rcases hopen j hj with hj' | hj'
    · exact h.unique i j hi' hj'
    · exact (hothers j i hi' hj').symm
    · exact hothers i j hj' hi'
    · rw [hi', ResetStep.lookUp.injEq] at hj'
      exact hj'

/-- **With a lock.**  If each look-up waits for the attempt that is open, at most one succeeds. -/
theorem resets_once_of_locked {cfg : Settings} {token : String} {attempt : Nat → Attempt}
    {a : Accounts} {steps : List ResetStep}
    (h : Admits (resetStep cfg token attempt) LookUpAlone (.start a) steps) :
    (emitted (resetStep cfg token attempt) succeeds (.start a) steps).length ≤ 1 := by
  rw [resets_once_iff]
  refine admits_of_invariant (I := OneOpen cfg token) (fun s step hs halone => ?_)
    ⟨fun i rec (hopen : none = some rec) => (Option.some_ne_none rec hopen.symm).elim,
      fun i j hi => absurd rfl hi⟩ h
  refine ⟨oneOpen_step hs halone, fun hne => ?_⟩
  obtain ⟨i, rec, u, -, hphase, -⟩ := succeeds_ne_nil cfg token attempt hne
  exact hs.unconsumed i rec (by rw [hphase]; rfl)

/-- **One attempt by itself** is `consume_reset`. -/
theorem run_alone (cfg : Settings) (token : String) (attempt : Nat → Attempt) (a : Accounts) (i : Nat) :
    (run (resetStep cfg token attempt) (.start a) [.lookUp i, .load i, .commit i]).committed =
      (consumeReset cfg a (attempt i).now token (attempt i).newPassword).1 := by
  have hlookUp : resetStep cfg token attempt (.start a) (.lookUp i) =
      (ResetRace.start a).moveTo i (lookUpPhase cfg token attempt a i) := rfl
  rw [run_cons, run_cons, run_cons, run_nil, hlookUp, consumeReset, lookUpPhase]
  by_cases hargs : token = "" ∨ (attempt i).newPassword.length < 8
  · simp [if_pos hargs, resetStep, ResetRace.moveTo, ResetRace.start]
  rw [if_neg hargs, if_neg hargs]
  cases hpending : a.pendingReset cfg (attempt i).now token with
  | none => simp [resetStep, ResetRace.moveTo, ResetRace.start]
  | some rec =>
      cases huser : a.loadUser rec.userId with
      | none => simp [resetStep, loadPhase, huser, ResetRace.moveTo, ResetRace.start]
      | some u =>
          cases hactive : u.isActive with
          | false =>
              simp [resetStep, loadPhase, huser, hactive, Option.filter, ResetRace.moveTo,
                ResetRace.start]
          | true =>
              simp [resetStep, loadPhase, huser, hactive, Option.filter, ResetRace.moveTo,
                ResetRace.start]
              rfl

/-! ### Two attempts -/

/-- Nothing is hashed, and a reset lives a minute. -/
def unhashed : Settings := ⟨fun _ p => p, fun h p => h = p, id, 60, 60⟩

/-- A user with a pending reset. -/
def resetPending : Accounts where
  users := [⟨"u", "u@hub", "old password", "U", true, "viewer", 0, 0, none⟩]
  sessions := []
  resets := [⟨"u", "u@hub", "pwr_0", 60, none⟩]
  drawn := 1

/-- Two attempts that look the token up before either commits. -/
def bothLookUp : List ResetStep := [.lookUp 0, .lookUp 1, .load 0, .load 1, .commit 0, .commit 1]

/-- Both of them change the password. -/
theorem both_succeed :
    ¬(emitted (resetStep unhashed "pwr_0" fun _ => ⟨1, "new password"⟩) succeeds
      (.start resetPending) bothLookUp).length ≤ 1 := by
  decide

end RebooterHub.Auth
