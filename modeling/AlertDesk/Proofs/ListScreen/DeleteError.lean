import AlertDesk.Proofs.ListScreen.Log
import AlertDesk.Record.Alert

/-!
# AlertDesk.Proofs.ListScreen.DeleteError

The error of a list screen tells how the last delete ended, until another record
is staged.  So of the whole history only two things count: records that were
staged, and answers to deletes that were taken in.  `Entry.verdict?` picks them
out of the log, and the error is what the last one of them says; every transition
either adds none and leaves the error, or adds one and sets it.

Main fact: `error_of_last_delete`.
-/

namespace AlertDesk.ListScreen

/-! ## what counts -/

/-- What an entry says of the error: a record that is staged and a delete that
goes through take it away, and a delete that fails sets it. -/
def Entry.verdict? : Entry → Option (Option PortalError)
  | .note (.removed true) => some none
  | .receipt _ (.ok ()) => some none
  | .receipt _ (.error e) => some (some e)
  | _ => none

/-- What the last entry of a log says that says anything of the error. -/
def lastVerdict (log : List Entry) : Option (Option PortalError) :=
  (log.filterMap Entry.verdict?).getLast?

variable {log new : List Entry} {v : Option PortalError} {e : PortalError}

theorem Entry.eq_of_verdict? {x : Entry} (h : x.verdict? = some (some e)) :
    ∃ n, x = .receipt n (.error e) := by
  unfold Entry.verdict? at h
  split at h <;> simp_all

theorem lastVerdict_append_of_nil (h : new.filterMap Entry.verdict? = []) :
    lastVerdict (log ++ new) = lastVerdict log := by
  rw [lastVerdict, List.filterMap_append, h, List.append_nil, lastVerdict]

theorem lastVerdict_append (h : new.filterMap Entry.verdict? = [v]) :
    lastVerdict (log ++ new) = some v := by
  rw [lastVerdict, List.filterMap_append, h, List.getLast?_concat]

/-- The last verdict is a failure exactly if the answer that tells of it is in the
log and nothing behind it counts. -/
theorem lastVerdict_eq_failure_iff : lastVerdict log = some (some e) ↔
    ∃ before n after, log = before ++ .receipt n (.error e) :: after ∧
      ∀ x ∈ after, x.verdict? = none := by
  rw [lastVerdict, List.getLast?_filterMap, List.findSome?_eq_some_iff]
  constructor
  · rintro ⟨after, x, before, hsplit, hx, hafter⟩
    obtain ⟨n, rfl⟩ := Entry.eq_of_verdict? hx
    have hlog : log = before.reverse ++ .receipt n (.error e) :: after.reverse := by
      simpa using congrArg List.reverse hsplit
    exact ⟨before.reverse, n, after.reverse, hlog, fun y hy => hafter y (List.mem_reverse.mp hy)⟩
  · rintro ⟨before, n, after, rfl, hafter⟩
    exact ⟨after.reverse, .receipt n (.error e), before.reverse, by simp, rfl,
      fun y hy => hafter y (List.mem_reverse.mp hy)⟩

/-! ## the error against the log -/

namespace Session

variable {α : Type} [Entity α] {s s' : Session α} {event : Event}

/-- **Every transition** adds nothing that counts and leaves the error, or adds
one entry that counts and leaves behind what it says.  The latter is a record that
is staged, or an answer to a delete that is taken in. -/
theorem Transition.verdict (t : Transition s event s' new) :
    (new.filterMap Entry.verdict? = [] ∧ s'.screen.deleteError = s.screen.deleteError) ∨
      (new.filterMap Entry.verdict? = [s'.screen.deleteError] ∧
        ((∃ id, event = .remove id ∧ .note (.removed true) ∈ new) ∨
          ∃ n answer, event = .answerDelete n answer ∧ .receipt n answer ∈ new)) := by
  cases t with
  | staged id stage => exact .inr ⟨rfl, .inl ⟨id, rfl, by simp⟩⟩
  | failed task id e waits awaited => exact .inr ⟨rfl, .inr ⟨_, _, rfl, by simp⟩⟩
  | deleted task id waits awaited => exact .inr ⟨rfl, .inr ⟨_, _, rfl, by simp⟩⟩
  | _ => exact .inl ⟨rfl, rfl⟩

theorem deleteError_run (token : CsrfToken) (es : List Event) :
    ((opened token : Session α).run es).1.screen.deleteError =
      (lastVerdict ((opened token : Session α).log es)).join := by
  refine run_induction (P := fun s log => s.screen.deleteError = (lastVerdict log).join)
    rfl (fun h t => ?_) es
  obtain ⟨hnew, hkept⟩ | ⟨hnew, -⟩ := t.verdict
  · rw [lastVerdict_append_of_nil hnew, hkept, h]
  · rw [lastVerdict_append hnew, Option.join_some]

/-- **The error is that of the last delete.**  After every run of a list screen
the screen has an error exactly if, of the records that were staged and the
answers to deletes that were taken in, the last is the answer that the delete
failed with that error.  Nothing but these two ever changes it. -/
theorem error_of_last_delete (token : CsrfToken) (es : List Event) :
    let s := ((opened token : Session α).run es).1
    let log := (opened token : Session α).log es
    (∀ e, s.screen.deleteError = some e ↔
      ∃ before n after, log = before ++ .receipt n (.error e) :: after ∧
        ∀ x ∈ after, x.verdict? = none) ∧
    ∀ event, (s.step event).1.screen.deleteError ≠ s.screen.deleteError →
      (∃ id, event = .remove id ∧ .note (.removed true) ∈ s.entries event) ∨
        ∃ n answer, event = .answerDelete n answer ∧ .receipt n answer ∈ s.entries event := by
  intro s log
  have herror : s.screen.deleteError = (lastVerdict log).join := deleteError_run token es
  refine ⟨fun e => ?_, fun event changed => ?_⟩
  · rw [herror, Option.join_eq_some_iff, lastVerdict_eq_failure_iff]
  · obtain ⟨-, hkept⟩ | ⟨-, counts⟩ := (transition s event).verdict
    · exact absurd hkept changed
    · exact counts

/-- The delete of one record fails; a second is refused while it is in flight, a
cancelled one changes nothing, and the failure of a query is none of a delete.
Staging a record takes the error away. -/
theorem error_of_last_delete_query :
    let start : Session Alert := opened ⟨"t"⟩
    let failure : PortalError := .server 500 "down"
    let es : List Event := [.query none, .remove "a", .confirm, .remove "b",
      .answerDelete 1 (.error failure), .cancel, .answerQuery 0 (.error (.network "reset"))]
    let s := (start.run es).1
    s.screen.deleteError = some failure ∧
      (∃ before n after, start.log es = before ++ .receipt n (.error failure) :: after ∧
        ∀ x ∈ after, x.verdict? = none) ∧
      (s.step (.remove "b")).1.screen.deleteError ≠ s.screen.deleteError ∧
      .note (.removed true) ∈ s.entries (.remove "b") := by
  intro start failure es s
  obtain ⟨hlast, hchanges⟩ := error_of_last_delete (α := Alert) ⟨"t"⟩ es
  have herror : s.screen.deleteError = some failure := rfl
  have changed : (s.step (.remove "b")).1.screen.deleteError ≠ s.screen.deleteError := nofun
  refine ⟨herror, (hlast failure).mp herror, changed, ?_⟩
  obtain ⟨id, -, hmem⟩ | ⟨n, answer, hevent, -⟩ := hchanges (.remove "b") changed
  · exact hmem
  · cases hevent

end Session

end AlertDesk.ListScreen
