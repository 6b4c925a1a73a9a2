import RebooterHub.Audit.Prune
import RebooterHub.Support.Runs

/-!
# Audit — Conservation

No audit event is lost, doubled or changed by pruning.

`AsTheyWere` says that only events were written, `Moved` that all old events went to the archive.
Each part of a run but the commit of its session leaves the tables as they were, so a run does one
or the other (`prune_effect`); a run that fails has moved the events only if what failed was the
mark of the day, which is written after the commit.

`audit_prune_conserves` is the result over any sequence of new events and runs.
-/

namespace RebooterHub.Audit
open Refills Runs Transaction

/-- The tables are as they were, but for events that were written since. -/
def AuditStore.AsTheyWere (s t : AuditStore) : Prop :=
  t.archive = s.archive ∧
    ∃ new, t.live.rows = s.live.rows ++ new ∧ t.written = s.written ++ new

/-- The events older than the cut-off, and no others, went to the archive; events may have been
written since. -/
def AuditStore.Moved (cutoff archivedAt : Time) (s t : AuditStore) : Prop :=
  ∃ moved new, (∀ event ∈ moved, event.at_ < cutoff) ∧
    (∀ event ∈ s.live.rows, event.at_ < cutoff → event ∈ moved) ∧
    t.archive.rows = s.archive.rows ++ moved.map (archiveRow archivedAt) ∧
    (t.live.rows ++ moved).Perm (s.live.rows ++ new) ∧
    t.written = s.written ++ new

/-- Each event is in the tables as often as it was written. -/
def AuditStore.Conserved (s : AuditStore) : Prop := (s.live.rows ++ s.archived).Perm s.written

variable {s t u : AuditStore} {x y : Pruning} {r : PruneRun} {p : PruneStep}
  {c archivedAt : Time} {today : String} {oldEvents : List AuditEvent}

/-! ### Events that are written -/

theorem AuditStore.AsTheyWere.refl (s : AuditStore) : s.AsTheyWere s :=
  ⟨rfl, [], (List.append_nil _).symm, (List.append_nil _).symm⟩

theorem AuditStore.AsTheyWere.trans (h : s.AsTheyWere t) (h' : t.AsTheyWere u) :
    s.AsTheyWere u := by
  obtain ⟨harchive, new, hlive, hwritten⟩ := h
  obtain ⟨harchive', new', hlive', hwritten'⟩ := h'
  refine ⟨harchive'.trans harchive, new ++ new', ?_, ?_⟩
  · rw [hlive', hlive, List.append_assoc]
  · rw [hwritten', hwritten, List.append_assoc]

theorem asTheyWere_record (s : AuditStore) (event : AuditEvent) :
    s.AsTheyWere (s.record event) := by
  rw [AuditStore.record]
  split
  · next live hinsert => exact ⟨rfl, [event], Store.insertAll_eq_some.mp hinsert, rfl⟩
  · exact .refl s

theorem asTheyWere_recordAll (s : AuditStore) (events : List AuditEvent) :
    s.AsTheyWere (s.recordAll events) := by
  induction events generalizing s with
  | nil => exact .refl s
  | cons event events ih => exact (asTheyWere_record s event).trans (ih _)

/-! ### Parts of a run -/

/-- The part of a run writes to neither table. -/
def Quiet {α : Type} (m : Prune α) : Prop := Keeps (fun x y => x.store.AsTheyWere y.store) m

theorem Quiet.bind {α β : Type} {m : Prune α} {f : α → Prune β} (hm : Quiet m)
    (hf : ∀ a, Quiet (f a)) : Quiet (m >>= f) :=
  Keeps.bind (fun _ _ _ h h' => h.trans h') hm hf

theorem quiet_pure {α : Type} (a : α) : Quiet (pure a : Prune α) := keeps_pure (fun _ => .refl _) a

theorem quiet_throw {α : Type} (e : PruneError) : Quiet (throw e : Prune α) :=
  keeps_throw (fun _ => .refl _) e

theorem quiet_get : Quiet (get : Prune Pruning) := keeps_get fun _ => .refl _

theorem quiet_attempt : Quiet (r.attempt p) := by
  refine .bind (keeps_modify fun x => asTheyWere_recordAll x.store _) fun _ => ?_
  split
  · exact quiet_throw _
  · exact quiet_pure _

theorem attempt_eq_error {e : PruneError} (h : r.attempt p x = .error e y) :
    (r.fails p).isSome := by
  cases hfails : r.fails p with
  | some message => rfl
  | none =>
      rw [PruneRun.attempt, modify_bind, hfails] at h
      cases h

theorem quiet_mark : Quiet (r.mark today) :=
  .bind quiet_attempt fun _ => keeps_modify fun x => ⟨rfl, (AuditStore.AsTheyWere.refl x.store).2⟩

theorem mark_eq_error {e : PruneError} (h : r.mark today x = .error e y) :
    (r.fails .mark).isSome := by
  rcases bind_eq_error h with hattempt | ⟨_, z, -, hmodify⟩
  · exact attempt_eq_error hattempt
  · cases hmodify

theorem quiet_copyAndDelete : Quiet (r.copyAndDelete oldEvents) := by
  refine .bind (keeps_modify fun x => .refl x.store) fun _ => ?_
  refine .bind quiet_attempt fun _ => ?_
  refine .bind quiet_get fun x => ?_
  split
  · exact quiet_throw _
  · refine .bind quiet_attempt fun _ => ?_
    exact .bind (keeps_modify fun x => .refl x.store) fun _ => quiet_pure _

/-- The archive as the session sees it. -/
theorem copyAndDelete_eq_ok {archive : Store AuditEventArchive.id}
    (h : r.copyAndDelete oldEvents x = .ok archive y) :
    archive.rows = x.store.archive.rows ++ oldEvents.map (archiveRow r.archivedAt) := by
  obtain ⟨_, x₁, hcount, h⟩ := bind_eq_ok h
  cases hcount
  obtain ⟨_, x₂, hcopy, h⟩ := bind_eq_ok h
  have harchive : x₂.store.archive = x.store.archive := (quiet_attempt.of_ok hcopy).1
  rw [get_bind] at h
  cases hinsert : x₂.store.archive.insertAll (oldEvents.map (archiveRow r.archivedAt)) with
  | none =>
      rw [hinsert] at h
      cases h
  | some inserted =>
      rw [hinsert] at h
      obtain ⟨_, x₃, -, h⟩ := bind_eq_ok h
      obtain ⟨_, x₄, -, h⟩ := bind_eq_ok h
      cases h
      rw [← harchive]
      exact Store.insertAll_eq_some.mp hinsert

/-! ### The commit -/

theorem AuditStore.AsTheyWere.moved (h : s.AsTheyWere t) (h' : t.Moved c archivedAt u) :
    s.Moved c archivedAt u := by
  obtain ⟨harchive, new, hlive, hwritten⟩ := h
  obtain ⟨moved, new', hold, hall, harchive', hperm, hwritten'⟩ := h'
  rw [hlive] at hall hperm
  refine ⟨moved, new ++ new', hold, ?_, ?_, ?_, ?_⟩
  · exact fun event hevent => hall event (List.mem_append_left _ hevent)
  · rw [harchive', harchive]
  · rwa [List.append_assoc] at hperm
  · rw [hwritten', hwritten, List.append_assoc]

theorem AuditStore.Moved.asTheyWere (h : s.Moved c archivedAt t) (h' : t.AsTheyWere u) :
    s.Moved c archivedAt u := by
  obtain ⟨moved, new, hold, hall, harchive, hperm, hwritten⟩ := h
  obtain ⟨harchive', new', hlive', hwritten'⟩ := h'
  refine ⟨moved, new ++ new', hold, hall, ?_, ?_, ?_⟩
  · rw [harchive', harchive]
  · have hswap : (u.live.rows ++ moved).Perm (t.live.rows ++ moved ++ new') := by
      rw [hlive', List.append_assoc, List.append_assoc]
      exact List.perm_append_comm.append_left _
    rw [← List.append_assoc]
    exact hswap.trans (hperm.append_right new')
  · rw [hwritten', hwritten, List.append_assoc]

theorem oldEvents_perm : (s.oldEvents c).Perm (s.live.rows.filter (·.at_ < c)) :=
  List.perm_insertionSort ..

theorem mem_oldEvents {event : AuditEvent} :
    event ∈ s.oldEvents c ↔ event ∈ s.live.rows ∧ event.at_ < c := by
  rw [oldEvents_perm.mem_iff, List.mem_filter, decide_eq_true_eq]

theorem nodup_oldEvents : (s.oldEvents c).Nodup :=
  oldEvents_perm.nodup_iff.mpr ((List.Nodup.of_map _ s.live.keyed).filter _)

/-- **The commit** moves the events that were read. -/
theorem moved_of_commit {archive : Store AuditEventArchive.id} (hread : s.AsTheyWere x.store)
    (harchive : archive.rows =
      x.store.archive.rows ++ (s.oldEvents c).map (archiveRow r.archivedAt))
    (h : r.commit (s.oldEvents c) archive x = .ok ⟨⟩ y) : s.Moved c r.archivedAt y.store := by
  obtain ⟨_, z, hattempt, h⟩ := bind_eq_ok h
  cases h
  have hsince : s.AsTheyWere z.store := hread.trans (quiet_attempt.of_ok hattempt)
  obtain ⟨-, new, hlive, hwritten⟩ := hsince
  refine ⟨s.oldEvents c, new, ?_, ?_, ?_, ?_, hwritten⟩
  · exact fun event hevent => (mem_oldEvents.mp hevent).2
  · exact fun event hevent hold => mem_oldEvents.mpr ⟨hevent, hold⟩
  · rw [harchive, hread.1]
  · rw [← hlive]
    refine z.store.live.keyed.perm_left_append nodup_oldEvents fun event hevent => ?_
    rw [hlive]
    exact List.mem_append_left _ (mem_oldEvents.mp hevent).1

/-- A commit that fails changes nothing. -/
theorem asTheyWere_of_commit {archive : Store AuditEventArchive.id} {e : PruneError}
    (h : r.commit oldEvents archive x = .error e y) : x.store.AsTheyWere y.store := by
  rcases bind_eq_error h with hattempt | ⟨_, z, -, hmodify⟩
  · exact quiet_attempt.of_error hattempt
  · cases hmodify

/-! ### A run -/

/-- What a part of a run does: the tables are as they were, or the old events moved and then only
the mark of the day can have failed. -/
def Effect (r : PruneRun) (c : Time) (s t : AuditStore) (failed : Prop) : Prop :=
  s.AsTheyWere t ∨ s.Moved c r.archivedAt t ∧ (failed → (r.fails .mark).isSome)

/-- The computation raises. -/
def Raises {α : Type} (m : Prune α) (x : Pruning) : Prop := ∃ e y, m x = .error e y

theorem move_effect : Effect r c x.store
    (exec (r.move today (x.store.oldEvents c)) x).store
    (Raises (r.move today (x.store.oldEvents c)) x) := by
  cases hold : x.store.oldEvents c with
  | nil =>
      have hquiet : Quiet (r.move today []) := .bind quiet_mark fun _ => quiet_attempt
      exact .inl (hquiet x)
  | cons event events =>
      rw [PruneRun.move, ← hold]
      cases hcopied : r.copyAndDelete (x.store.oldEvents c) x with
      | error e y =>
          rw [exec_bind_of_error hcopied]
          exact .inl (quiet_copyAndDelete.of_error hcopied)
      | ok archive y =>
          have hread : x.store.AsTheyWere y.store := quiet_copyAndDelete.of_ok hcopied
          have harchive := copyAndDelete_eq_ok hcopied
          rw [← hread.1] at harchive
          rw [exec_bind_of_ok hcopied, Raises, bind_of_ok hcopied]
          cases hcommit : r.commit (x.store.oldEvents c) archive y with
          | error e z =>
              rw [exec_bind_of_error hcommit]
              exact .inl (hread.trans (asTheyWere_of_commit hcommit))
          | ok u z =>
              have hmoved := moved_of_commit hread harchive hcommit
              rw [exec_bind_of_ok hcommit, bind_of_ok hcommit]
              refine .inr ⟨hmoved.asTheyWere (quiet_mark z), ?_⟩
              rintro ⟨e, w, hmark⟩
              exact mark_eq_error hmark

theorem body_effect : Effect r c x.store (exec (r.body today c) x).store
    (Raises (r.body today c) x) := by
  rw [PruneRun.body]
  cases hselect : r.attempt .select x with
  | error e y =>
      rw [exec_bind_of_error hselect]
      exact .inl (quiet_attempt.of_error hselect)
  | ok u y =>
      have hsince : x.store.AsTheyWere y.store := quiet_attempt.of_ok hselect
      rw [exec_bind_of_ok hselect, Raises, bind_of_ok hselect]
      rcases move_effect with hsame | ⟨hmoved, hfailed⟩
      · exact .inl (hsince.trans hsame)
      · exact .inr ⟨hsince.moved hmoved, hfailed⟩

theorem reported_of_ok {u : PUnit} (h : r.body today c x = .ok u y) :
    r.reported today c x = .ok ⟨y.archived, y.pruned, false, []⟩ y := by
  rw [PruneRun.reported, h]

theorem reported_of_error {e : PruneError} (h : r.body today c x = .error e y) :
    r.reported today c x = .ok ⟨y.archived, y.pruned, false, [e]⟩ y := by
  rw [PruneRun.reported, h]

theorem reported_effect : Effect r c x.store (exec (r.reported today c) x).store
    (match r.reported today c x with
      | .ok stats _ => stats.errors ≠ []
      | .error _ _ => True) := by
  have hbody : Effect r c x.store (exec (r.body today c) x).store (Raises (r.body today c) x) :=
    body_effect
  cases hx : r.body today c x with
  | ok u y =>
      rw [exec_of_ok hx] at hbody
      rw [exec_of_ok (reported_of_ok hx), reported_of_ok hx]
      exact hbody.imp_right fun ⟨hmoved, _⟩ => ⟨hmoved, fun herrors => absurd rfl herrors⟩
  | error e y =>
      rw [exec_of_error hx] at hbody
      rw [exec_of_ok (reported_of_error hx), reported_of_error hx]
      exact hbody.imp_right fun ⟨hmoved, hfailed⟩ => ⟨hmoved, fun _ => hfailed ⟨e, y, hx⟩⟩

/-- **A run** leaves the tables as they were, or moves the events older than its cut-off. -/
theorem prune_effect (r : PruneRun) (s : AuditStore) :
    s.AsTheyWere (s.step (.prune r)) ∨
      ∃ c, r.cutoff = .ok c ∧ s.Moved c r.archivedAt (s.step (.prune r)) ∧
        (r.Failed s → (r.fails .mark).isSome) := by
  rw [AuditStore.step, PruneRun.Failed, PruneRun.cutoff, PruneRun.pruneOldAuditEvents]
  cases hretention : r.attempt .readRetention ⟨s, 0, 0⟩ with
  | error e y =>
      rw [exec_bind_of_error hretention]
      exact .inl (quiet_attempt.of_error hretention)
  | ok u y =>
      have hsince : s.AsTheyWere y.store := quiet_attempt.of_ok hretention
      rw [exec_bind_of_ok hretention, bind_of_ok hretention]
      cases hdays : r.days with
      | error e => exact .inl hsince
      | ok days =>
          dsimp only
          cases hlast : r.attempt .readLastRun y with
          | error e z =>
              rw [exec_bind_of_error hlast]
              exact .inl (hsince.trans (quiet_attempt.of_error hlast))
          | ok u z =>
              have hsince : s.AsTheyWere z.store := hsince.trans (quiet_attempt.of_ok hlast)
              rw [exec_bind_of_ok hlast, bind_of_ok hlast, exec, get_bind]
              split_ifs with hran
              · exact .inl hsince
              rw [Except.bind]
              cases hcutoff : r.cutoffFor days with
              | error e => exact .inl hsince
              | ok c =>
                  rcases reported_effect with hsame | ⟨hmoved, hfailed⟩
                  · exact .inl (hsince.trans hsame)
                  · exact .inr ⟨c, rfl, hsince.moved hmoved, hfailed⟩

/-! ### Any sequence -/

theorem AuditStore.AsTheyWere.conserved (h : s.AsTheyWere t) (hs : s.Conserved) :
    t.Conserved := by
  obtain ⟨harchive, new, hlive, hwritten⟩ := h
  rw [AuditStore.Conserved, AuditStore.archived, hlive, harchive, hwritten, List.append_assoc]
  have hlast : (s.live.rows ++ (new ++ s.archived)).Perm (s.live.rows ++ (s.archived ++ new)) :=
    List.perm_append_comm.append_left _
  rw [← List.append_assoc s.live.rows s.archived] at hlast
  exact hlast.trans (hs.append_right new)

theorem AuditStore.Moved.conserved (h : s.Moved c archivedAt t) (hs : s.Conserved) :
    t.Conserved := by
  obtain ⟨moved, new, -, -, harchive, hperm, hwritten⟩ := h
  have hback : (moved.map (archiveRow archivedAt)).map AuditEventArchive.event = moved := by
    rw [List.map_map]
    exact List.map_id' moved
  rw [AuditStore.Conserved, AuditStore.archived, harchive, hwritten, List.map_append, hback]
  have hmoved : (t.live.rows ++ (s.archived ++ moved)).Perm
      (t.live.rows ++ moved ++ s.archived) := by
    rw [List.append_assoc]
    exact List.perm_append_comm.append_left _
  have hnew : (s.live.rows ++ new ++ s.archived).Perm (s.live.rows ++ s.archived ++ new) := by
    rw [List.append_assoc, List.append_assoc]
    exact List.perm_append_comm.append_left _
  exact hmoved.trans ((hperm.append_right _).trans (hnew.trans (hs.append_right new)))

/-- Every action conserves the events. -/
theorem conserved_step (a : AuditAction) (hs : s.Conserved) : (s.step a).Conserved := by
  cases a with
  | record event => exact (asTheyWere_record s event).conserved hs
  | prune r =>
      rcases prune_effect r s with hsame | ⟨c, -, hmoved, -⟩
      · exact hsame.conserved hs
      · exact hmoved.conserved hs

theorem conserved_run (actions : List AuditAction) (hs : s.Conserved) :
    (run AuditStore.step s actions).Conserved :=
  run_invariant (fun _ a hs _ => conserved_step a hs) hs
    (admits_of_forall (fun _ _ => trivial) s actions)

theorem conserved_start (live : Store AuditEvent.id) (archive : Store AuditEventArchive.id)
    (lastRun : Option Json) : (AuditStore.start live archive lastRun).Conserved := List.Perm.refl _

theorem AuditStore.Conserved.count (hs : s.Conserved) (event : AuditEvent) :
    s.live.rows.count event + s.archived.count event = s.written.count event := by
  rw [← List.count_append]
  exact hs.count_eq event

/-- What a run archives is older than its cut-off. -/
theorem old_of_archived (r : PruneRun) (s : AuditStore) {row : AuditEventArchive}
    (hrow : row ∈ (s.step (.prune r)).archive.rows) (hnew : row ∉ s.archive.rows) :
    ∃ c, r.cutoff = .ok c ∧ row.at_ < c := by
  rcases prune_effect r s with ⟨harchive, -⟩ | ⟨c, hcutoff, hmoved, -⟩
  · rw [harchive] at hrow
    exact absurd hrow hnew
  · obtain ⟨moved, -, hold, -, harchive, -⟩ := hmoved
    rw [harchive] at hrow
    rcases List.mem_append.mp hrow with hrow | hrow
    · exact absurd hrow hnew
    · obtain ⟨event, hevent, rfl⟩ := List.mem_map.mp hrow
      exact ⟨c, hcutoff, hold event hevent⟩

/-- **Pruning conserves the audit events.**  After any sequence of new events and of runs, failing
or not, each event that was written is in the two tables as often as it was written, with all its
fields.  A run from there archives no event that is not older than its cut-off, and one that fails
leaves the tables as they were, unless the mark of the day, after the commit, was what failed. -/
theorem audit_prune_conserves (live : Store AuditEvent.id) (archive : Store AuditEventArchive.id)
    (lastRun : Option Json) (actions : List AuditAction) :
    (∀ event,
      (run AuditStore.step (.start live archive lastRun) actions).live.rows.count event +
        (run AuditStore.step (.start live archive lastRun) actions).archived.count event =
      (run AuditStore.step (.start live archive lastRun) actions).written.count event) ∧
    ∀ r, let s := run AuditStore.step (.start live archive lastRun) actions
      (∀ row ∈ (s.step (.prune r)).archive.rows, row ∉ s.archive.rows →
        ∃ c, r.cutoff = .ok c ∧ row.at_ < c) ∧
      (r.Failed s → s.AsTheyWere (s.step (.prune r)) ∨
        (r.fails .mark).isSome ∧ ∃ c, r.cutoff = .ok c ∧
          s.Moved c r.archivedAt (s.step (.prune r))) := by
  refine ⟨(conserved_run actions (conserved_start live archive lastRun)).count, fun r => ?_⟩
  refine ⟨fun row hrow hnew => old_of_archived r _ hrow hnew, fun hfailed => ?_⟩
  rcases prune_effect r _ with hsame | ⟨c, hcutoff, hmoved, hmark⟩
  · exact .inl hsame
  · exact .inr ⟨hmark hfailed, c, hcutoff, hmoved⟩

/-! ### A mark that fails -/

/-- An event of 1970-01-01. -/
def oldEvent : AuditEvent := ⟨1, 0, none, none, "login", none, none, .obj [], none, none⟩

/-- The event is all there is. -/
def oneEvent : AuditStore := .start ⟨[oldEvent], List.nodup_singleton _⟩ ⟨[], List.nodup_nil⟩ none

/-- A run a hundred days later whose mark fails. -/
def unmarked : PruneRun where
  retentionDays := none
  retentionEnv := none
  today := seconds 8640000
  now := seconds 8640000
  archivedAt := seconds 8640000
  fails p := if p = .mark then some "database is locked" else none
  meanwhile _ := []

/-- The run reports an error, and the event is in the archive. -/
theorem unmarked_run_moves_events :
    unmarked.Failed oneEvent ∧ ¬ oneEvent.AsTheyWere (oneEvent.step (.prune unmarked)) := by
  refine ⟨by decide, fun hsame => ?_⟩
  have hrows : (oneEvent.step (.prune unmarked)).archive.rows =
      [archiveRow (seconds 8640000) oldEvent] := by decide
  rw [hsame.1] at hrows
  cases hrows

end RebooterHub.Audit
