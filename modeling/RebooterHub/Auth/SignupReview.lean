import Mathlib.Logic.Function.Basic
import RebooterHub.Auth.Invitations
import RebooterHub.Support.Runs

/-!
# Auth — Signup review

The approve and reject handlers of one signup request, step by step.  An approve handler looks at
the request, mints the invitation in one transaction and moves the status in a later one; a reject
handler looks and moves.

The status is asked for when a handler looks and again when it moves, but not when it mints, and a
move that fails leaves the invitation behind.

* `review_exclusive`: in a run in which every mint finds the request pending and nobody between mint
  and move, no reject comes between the two, and no approve move fails, the review is exclusive in
  every state.
-/

namespace RebooterHub.Auth
open RebooterHub.Runs

/-- The statuses of a request. -/
inductive SignupStatus where
  | pending
  | approved
  | rejected
deriving DecidableEq, Repr

/-- The text of a status. -/
def SignupStatus.text : SignupStatus → String
  | .pending => "pending"
  | .approved => "approved"
  | .rejected => "rejected"

/-- A row of `signup_requests`. -/
structure SignupRequest where
  id : String
  email : String
  displayName : String
  status : SignupStatus
  reviewedByUserId : Option String
  reviewedAt : Option Time
  invitationId : Option String
deriving DecidableEq, Repr

/-- `SignupRequestError`. -/
structure SignupRequestError where
  code : String
  message : String
deriving DecidableEq, Repr

/-- The check that `approve_signup_request` and `reject_signup_request` share. -/
def checkPending (req : SignupRequest) : Except SignupRequestError SignupRequest :=
  if req.status ≠ .pending then .error ⟨"already_reviewed", "Request already " ++ req.status.text⟩
  else .ok req

/-- `approve_signup_request`, on the row with the id. -/
def approveSignupRequest (now : Time) (reviewerUserId invitationId : String)
    (row : Option SignupRequest) : Except SignupRequestError (Option SignupRequest) :=
  row.mapM fun req => do
    let req ← checkPending req
    return { req with
      status := .approved
      reviewedByUserId := some reviewerUserId
      reviewedAt := some now
      invitationId := some invitationId }

/-- `reject_signup_request`, on the row with the id. -/
def rejectSignupRequest (now : Time) (reviewerUserId : String) (row : Option SignupRequest) :
    Except SignupRequestError (Option SignupRequest) :=
  row.mapM fun req => do
    let req ← checkPending req
    return { req with
      status := .rejected
      reviewedByUserId := some reviewerUserId
      reviewedAt := some now }

/-! ### The handlers -/

/-- A handler: what the reviewer asked for. -/
inductive Handler where
  | approve (role : String)
  | reject
deriving DecidableEq, Repr

/-- What a handler reports when it fails. -/
inductive ReviewFailure where
  | notFound
  | alreadyReviewed (status : SignupStatus)
  | invitation (e : InvitationError)
  | review (e : SignupRequestError)
  | database
deriving DecidableEq, Repr

/-- How far a handler is. -/
inductive ReviewPhase where
  | fresh
  /-- It has seen the request pending. -/
  | seen (req : SignupRequest)
  /-- It has minted an invitation. -/
  | minted (invitationId : String)
  | succeeded
  | failed (e : ReviewFailure)
deriving DecidableEq, Repr

/-- The request, the invitations minted for it with the handlers that minted them, and the
handlers. -/
structure Review where
  request : Option SignupRequest
  minted : List (Nat × Invitation)
  phase : Nat → ReviewPhase

/-- The next step of a handler; `fails` says that the database fails its transaction. -/
inductive ReviewStep where
  | look (i : Nat)
  | mint (i : Nat) (ctx : MintContext) (fails : Bool)
  | move (i : Nat) (now : Time) (fails : Bool)
deriving DecidableEq, Repr

/-- The handler `i` moves on. -/
def Review.moveTo (s : Review) (i : Nat) (p : ReviewPhase) : Review :=
  { s with phase := Function.update s.phase i p }

/-- `get_signup_request` and the check of the status. -/
def lookAtRequest (row : Option SignupRequest) : ReviewPhase :=
  match row with
  | none => .failed .notFound
  | some req => if req.status ≠ .pending then .failed (.alreadyReviewed req.status) else .seen req

/-- What an approve handler passes to `mint_invitation`. -/
def invitationFor (req : SignupRequest) (role reviewerUserId : String) : InvitationRequest where
  email := req.email
  role := role
  issuedByUserId := some reviewerUserId
  note := some ("Approved signup request from " ++ req.displayName)
  scopePayload := none

section
variable (cfg : InvitationSettings) (reviewer : Nat → String) (handler : Nat → Handler)

/-- The mint of an approve handler. -/
def mintStep (s : Review) (i : Nat) (ctx : MintContext) (fails : Bool) (req : SignupRequest)
    (role : String) : Review :=
  match mintInvitation cfg ctx (invitationFor req role (reviewer i)) with
  | .error e => s.moveTo i (.failed (.invitation e))
  | .ok inv =>
    if fails then s.moveTo i (.failed .database)
    else { s with minted := s.minted ++ [(i, inv)] }.moveTo i (.minted inv.id)

/-- The move of a handler, by what the service answers. -/
def moveStep (s : Review) (i : Nat) (fails : Bool)
    (answer : Except SignupRequestError (Option SignupRequest)) : Review :=
  match answer with
  | .error e => s.moveTo i (.failed (.review e))
  | .ok request =>
    if fails then s.moveTo i (.failed .database)
    else { s with request := request }.moveTo i .succeeded

/-- One step of the handlers; one whose turn it is not stays where it is. -/
def reviewStep (s : Review) : ReviewStep → Review
  | .look i => match s.phase i with
    | .fresh => s.moveTo i (lookAtRequest s.request)
    | _ => s
  | .mint i ctx fails => match handler i, s.phase i with
    | .approve role, .seen req => mintStep cfg reviewer s i ctx fails req role
    | _, _ => s
  | .move i now fails => match handler i, s.phase i with
    | .approve _, .minted invitationId =>
      moveStep s i fails (approveSignupRequest now (reviewer i) invitationId s.request)
    | .reject, .seen _ => moveStep s i fails (rejectSignupRequest now (reviewer i) s.request)
    | _, _ => s

/-- The request is pending. -/
def Review.IsPending (s : Review) : Prop := ∃ req, s.request = some req ∧ req.status = .pending

/-- An approve handler is between its mint and its move. -/
def Review.BetweenMintAndMove (s : Review) : Prop := ∃ i invitationId, s.phase i = .minted invitationId

/-- The condition on a step: a mint that goes through finds the request pending and nobody between
mint and move, a reject of a pending request finds nobody there, and an approve move does not
fail. -/
def Orderly (s : Review) : ReviewStep → Prop
  | .look _ => True
  | .mint i ctx fails => ∀ role req inv, handler i = .approve role → s.phase i = .seen req →
      mintInvitation cfg ctx (invitationFor req role (reviewer i)) = .ok inv → fails = false →
      s.IsPending ∧ ¬s.BetweenMintAndMove
  | .move i _ fails =>
      (∀ invitationId, s.phase i = .minted invitationId → fails = false) ∧
        (∀ req, handler i = .reject → s.phase i = .seen req → fails = false → s.IsPending →
          ¬s.BetweenMintAndMove)

end

/-- Before the handlers begin. -/
def Review.start (request : Option SignupRequest) : Review := ⟨request, [], fun _ => .fresh⟩

/-- The review is exclusive: at most one invitation was minted, a rejected request has none that can
be redeemed, and neither has a handler that failed. -/
structure Review.Exclusive (s : Review) : Prop where
  once : s.minted.length ≤ 1
  rejected : ∀ req, s.request = some req → req.status = .rejected →
    ∀ m ∈ s.minted, ∀ now, m.2.isPending now = false
  failed : ∀ i e, s.phase i = .failed e → ∀ m ∈ s.minted, m.1 = i → ∀ now, m.2.isPending now = false

/-! ### The services -/

theorem approveSignupRequest_pending (now : Time) (reviewer invitationId : String)
    {req : SignupRequest} (h : req.status = .pending) :
    ∃ req', approveSignupRequest now reviewer invitationId (some req) = .ok (some req') ∧
      req'.status = .approved :=
  ⟨_, by simp only [approveSignupRequest, Option.mapM_some, checkPending, h, ne_eq,
    not_true_eq_false, if_false]; rfl, rfl⟩

/-- A reject that goes through found the request pending, or no request. -/
theorem rejectSignupRequest_eq_ok {now : Time} {reviewer : String} {row row' : Option SignupRequest}
    (h : rejectSignupRequest now reviewer row = .ok row') :
    (row = none ∧ row' = none) ∨ ∃ req, row = some req ∧ req.status = .pending ∧
      ∃ req', row' = some req' ∧ req'.status = .rejected := by
  cases row with
  | none =>
      obtain rfl := Except.ok.inj h
      exact .inl ⟨rfl, rfl⟩
  | some req =>
      simp only [rejectSignupRequest, Option.mapM_some, checkPending] at h
      by_cases hpending : req.status = .pending
      · rw [if_neg (not_not.mpr hpending)] at h
        obtain rfl := Except.ok.inj h
        exact .inr ⟨req, rfl, hpending, _, rfl, rfl⟩
      · rw [if_pos hpending] at h
        cases h

theorem lookAtRequest_ne_minted (row : Option SignupRequest) (invitationId : String) :
    lookAtRequest row ≠ .minted invitationId := by
  cases row with
  | none => exact ReviewPhase.noConfusion
  | some req =>
      by_cases hpending : req.status = .pending <;> simp [lookAtRequest, hpending]

/-! ### The invariant -/

/-- The handler has minted and not failed. -/
def ReviewPhase.isPastMint : ReviewPhase → Bool
  | .minted _ | .succeeded => true
  | .fresh | .seen _ | .failed _ => false

/-- What an orderly run keeps. -/
structure Review.InOrder (s : Review) : Prop where
  once : s.minted.length ≤ 1
  /-- Whoever is between mint and move has minted the only invitation, for a pending request. -/
  between : ∀ i invitationId, s.phase i = .minted invitationId →
    s.IsPending ∧ ∃ inv, s.minted = [(i, inv)]
  /-- A pending request without anybody there has no invitation. -/
  pending : s.IsPending → ¬s.BetweenMintAndMove → s.minted = []
  /-- What an invitation was minted for is there and not rejected. -/
  kept : s.minted ≠ [] → ∃ req, s.request = some req ∧ req.status ≠ .rejected
  /-- Whoever has minted has not failed. -/
  past : ∀ m ∈ s.minted, (s.phase m.1).isPastMint

theorem Review.InOrder.exclusive {s : Review} (h : s.InOrder) : s.Exclusive where
  once := h.once
  rejected req hreq hrejected m hm := by
    obtain ⟨req', hreq', hkept⟩ := h.kept (List.ne_nil_of_mem hm)
    obtain rfl := Option.some_inj.mp (hreq.symm.trans hreq')
    exact absurd hrejected hkept
  failed i e hfailed m hm hi := by
    have hpast := h.past m hm
    rw [hi, hfailed] at hpast
    cases hpast

theorem inOrder_start (request : Option SignupRequest) : (Review.start request).InOrder where
  once := Nat.zero_le 1
  between i invitationId h := by cases h
  pending _ _ := rfl
  kept h := absurd rfl h
  past m hm := by cases hm

section
variable {cfg : InvitationSettings} {reviewer : Nat → String} {handler : Nat → Handler} {s : Review}
  {i : Nat}

@[simp] theorem moveTo_self (s : Review) (i : Nat) (p : ReviewPhase) :
    (s.moveTo i p).phase i = p := by
  simp [Review.moveTo]

theorem moveTo_of_ne {j : Nat} (p : ReviewPhase) (h : j ≠ i) : (s.moveTo i p).phase j = s.phase j := by
  simp [Review.moveTo, h]

/-- Nobody is between mint and move when the one who was has moved on. -/
theorem not_between_moveTo {p : ReviewPhase} (hp : ∀ invitationId, p ≠ .minted invitationId)
    (hothers : ∀ j invitationId, j ≠ i → s.phase j ≠ .minted invitationId) :
    ¬(s.moveTo i p).BetweenMintAndMove := by
  rintro ⟨j, invitationId, hj⟩
  by_cases hij : j = i
  · subst hij
    rw [moveTo_self] at hj
    exact hp _ hj
  · rw [moveTo_of_ne p hij] at hj
    exact hothers j invitationId hij hj

/-- A handler that has not minted may move on to any phase but that. -/
theorem InOrder.moveTo (h : s.InOrder) {p : ReviewPhase} (hbefore : (s.phase i).isPastMint = false)
    (hp : ∀ invitationId, p ≠ .minted invitationId) : (s.moveTo i p).InOrder where
  once := h.once
  between j invitationId hj := by
    by_cases hij : j = i
    · subst hij
      rw [moveTo_self] at hj
      exact absurd hj (hp _)
    · rw [moveTo_of_ne p hij] at hj
      exact h.between j invitationId hj
  pending hpending hnobody := by
    refine h.pending hpending ?_
    rintro ⟨j, invitationId, hj⟩
    refine hnobody ⟨j, invitationId, ?_⟩
    rw [moveTo_of_ne p, hj]
    rintro rfl
    rw [hj] at hbefore
    cases hbefore
  kept := h.kept
  past m hm := by
    have hpast := h.past m hm
    rw [moveTo_of_ne p]
    · exact hpast
    · intro hi
      rw [hi, hbefore] at hpast
      cases hpast

/-- The only invitation is minted. -/
theorem InOrder.mint (h : s.InOrder) (hpending : s.IsPending) (hnobody : ¬s.BetweenMintAndMove)
    (inv : Invitation) :
    ({ s with minted := s.minted ++ [(i, inv)] }.moveTo i (.minted inv.id)).InOrder := by
  have hnone := h.pending hpending hnobody
  have hminted : s.minted ++ [(i, inv)] = [(i, inv)] := by rw [hnone, List.nil_append]
  refine ⟨?_, fun j invitationId hj => ?_, fun _ hno => ?_, fun _ => ?_, fun m hm => ?_⟩
  · exact Nat.le_of_eq (congrArg List.length hminted)
  · refine ⟨hpending, inv, ?_⟩
    by_cases hij : j = i
    · subst hij
      exact hminted
    · rw [moveTo_of_ne _ hij] at hj
      exact absurd ⟨j, invitationId, hj⟩ hnobody
  · exact absurd ⟨i, inv.id, moveTo_self _ _ _⟩ hno
  · obtain ⟨req, hreq, hstatus⟩ := hpending
    exact ⟨req, hreq, by rw [hstatus]; exact SignupStatus.noConfusion⟩
  · obtain rfl := List.mem_singleton.mp (hminted ▸ hm)
    rw [moveTo_self]
    rfl

/-- The handler that minted approves. -/
theorem InOrder.approve (h : s.InOrder) {invitationId : String} {req : SignupRequest}
    (hi : s.phase i = .minted invitationId) (happroved : req.status = .approved) :
    ({ s with request := some req }.moveTo i .succeeded).InOrder := by
  obtain ⟨-, inv, hminted⟩ := h.between i invitationId hi
  have hothers : ∀ j invitationId', j ≠ i → s.phase j ≠ .minted invitationId' := by
    intro j invitationId' hij hj
    obtain ⟨-, inv', hminted'⟩ := h.between j invitationId' hj
    rw [hminted] at hminted'
    obtain ⟨hpair, -⟩ := List.cons.inj hminted'
    exact hij (congrArg Prod.fst hpair).symm
  refine ⟨h.once, fun j invitationId' hj => ?_, ?_, fun _ => ⟨req, rfl, ?_⟩, fun m hm => ?_⟩
  · exact absurd ⟨j, invitationId', hj⟩ (not_between_moveTo (by simp) hothers)
  · rintro ⟨req', hreq', hpending⟩
    obtain rfl := Option.some_inj.mp hreq'
    rw [happroved] at hpending
    cases hpending
  · rw [happroved]
    exact SignupStatus.noConfusion
  · have hm' : m ∈ s.minted := hm
    rw [hminted] at hm'
    obtain rfl := List.mem_singleton.mp hm'
    rw [moveTo_self]
    rfl

/-- A reject without an invitation. -/
theorem InOrder.reject (h : s.InOrder) {request : Option SignupRequest} (hnone : s.minted = [])
    (hnobody : ¬s.BetweenMintAndMove) :
    ({ s with request := request }.moveTo i .succeeded).InOrder := by
  refine ⟨h.once, fun j invitationId hj => ?_, fun _ _ => hnone, fun hne => absurd hnone hne,
    fun m hm => ?_⟩
  · exact absurd ⟨j, invitationId, hj⟩
      (not_between_moveTo (by simp) fun j' id' _ hj' => hnobody ⟨j', id', hj'⟩)
  · have hm' : m ∈ s.minted := hm
    rw [hnone] at hm'
    cases hm'

/-- Nobody has minted for a request that is not there. -/
theorem nobody_without_request (h : s.InOrder) (hrow : s.request = none) :
    s.minted = [] ∧ ¬s.BetweenMintAndMove := by
  constructor
  · by_contra hne
    obtain ⟨req, hreq, -⟩ := h.kept hne
    rw [hrow] at hreq
    cases hreq
  · rintro ⟨i, invitationId, hi⟩
    obtain ⟨⟨req, hreq, -⟩, -⟩ := h.between i invitationId hi
    rw [hrow] at hreq
    cases hreq

/-- **One step** of an orderly run. -/
theorem inOrder_step {a : ReviewStep} (h : s.InOrder) (ha : Orderly cfg reviewer handler s a) :
    (reviewStep cfg reviewer handler s a).InOrder := by
  cases a with
  | look i =>
      rw [reviewStep]
      split
      · next hfresh =>
          exact InOrder.moveTo h (by rw [hfresh]; rfl) (lookAtRequest_ne_minted s.request)
      · exact h
  | mint i ctx fails =>
      rw [reviewStep]
      split
      · next role req hhandler hseen =>
          have hbefore : (s.phase i).isPastMint = false := by rw [hseen]; rfl
          rw [mintStep]
          split
          · exact InOrder.moveTo h hbefore fun _ => ReviewPhase.noConfusion
          · next inv hinv =>
              split
              · exact InOrder.moveTo h hbefore fun _ => ReviewPhase.noConfusion
              · next hstored =>
                  obtain ⟨hpending, hnobody⟩ :=
                    ha role req inv hhandler hseen hinv (by simpa using hstored)
                  exact InOrder.mint h hpending hnobody inv
      · exact h
  | move i now fails =>
      rw [reviewStep]
      split
      · next role invitationId hhandler hminted =>
          obtain ⟨⟨req, hreq, hpending⟩, -⟩ := h.between i invitationId hminted
          obtain ⟨req', hanswer, happroved⟩ :=
            approveSignupRequest_pending now (reviewer i) invitationId hpending
          rw [hreq, hanswer, ha.1 invitationId hminted]
          exact InOrder.approve h hminted happroved
      · next req hhandler hseen =>
          have hbefore : (s.phase i).isPastMint = false := by rw [hseen]; rfl
          cases hanswer : rejectSignupRequest now (reviewer i) s.request with
          | error e => exact InOrder.moveTo h hbefore fun _ => ReviewPhase.noConfusion
          | ok request =>
              cases fails with
              | true => exact InOrder.moveTo h hbefore fun _ => ReviewPhase.noConfusion
              | false =>
                  obtain ⟨hnone, hnobody⟩ : s.minted = [] ∧ ¬s.BetweenMintAndMove := by
                    rcases rejectSignupRequest_eq_ok hanswer with ⟨hrow, -⟩ | ⟨req', hrow, hstatus, -⟩
                    · exact nobody_without_request h hrow
                    · have hpending : s.IsPending := ⟨req', hrow, hstatus⟩
                      have hnobody := ha.2 req hhandler hseen rfl hpending
                      exact ⟨h.pending hpending hnobody, hnobody⟩
                  exact InOrder.reject h hnone hnobody
      · exact h

end

/-- **Exclusive review.**  In a run whose steps are orderly the review is exclusive in every state
that is reached. -/
theorem review_exclusive {cfg : InvitationSettings} {reviewer : Nat → String}
    {handler : Nat → Handler} {request : Option SignupRequest} {before after : List ReviewStep}
    (h : Admits (reviewStep cfg reviewer handler) (Orderly cfg reviewer handler) (.start request)
      (before ++ after)) :
    (run (reviewStep cfg reviewer handler) (.start request) before).Exclusive := by
  refine Review.InOrder.exclusive ?_
  exact run_invariant (fun s a hs ha => inOrder_step hs ha) (inOrder_start request)
    ((admits_append _ before after).mp h).1

/-! ### Two reviewers -/

/-- A pending request. -/
def accessRequest : SignupRequest := ⟨"sreq", "a@hub", "A", .pending, none, none, none⟩

/-- Handler 0 approves, the others reject. -/
def twoReviewers : Nat → Handler
  | 0 => .approve roleViewer
  | _ => .reject

/-- One reviewer by himself. -/
def approval : List ReviewStep := [.look 0, .mint 0 ⟨"inv", "inv_a", 0⟩ false, .move 0 1 false]

theorem review_exclusive_alone :
    (run (reviewStep plainInvitations (fun _ => "r") twoReviewers) (.start (some accessRequest))
      approval).Exclusive := by
  have hnobody : ¬((Review.start (some accessRequest)).moveTo 0
      (lookAtRequest (some accessRequest))).BetweenMintAndMove :=
    not_between_moveTo (lookAtRequest_ne_minted _) fun _ _ _ => ReviewPhase.noConfusion
  have h : Admits (reviewStep plainInvitations (fun _ => "r") twoReviewers)
      (Orderly plainInvitations (fun _ => "r") twoReviewers) (.start (some accessRequest))
      (approval ++ []) :=
    ⟨trivial, fun _ _ _ _ _ _ _ => ⟨⟨accessRequest, rfl, rfl⟩, hnobody⟩,
      ⟨fun _ _ => rfl, fun _ hreject => by cases hreject⟩, trivial⟩
  exact review_exclusive h

/-- Both look, the one mints, the other rejects: the request is rejected, and its invitation can be
redeemed. -/
theorem rejected_with_invitation :
    ¬∀ steps, (run (reviewStep plainInvitations (fun _ => "r") twoReviewers)
      (.start (some accessRequest)) steps).Exclusive := by
  intro h
  have hrejected := (h [.look 0, .look 1, .mint 0 ⟨"inv", "inv_a", 0⟩ false, .move 1 1 false]).rejected
    ⟨"sreq", "a@hub", "A", .rejected, some "r", some 1, none⟩ rfl rfl
    (0, ⟨"inv", "a@hub", roleViewer, "inv_a", some "r", some "Approved signup request from A", none,
      60000000, none, none⟩) List.mem_cons_self 1
  exact absurd hrejected (by decide)

end RebooterHub.Auth
