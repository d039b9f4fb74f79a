import AlertDesk.Proofs.ListScreen.Log
import AlertDesk.Proofs.PagedList.Run
import AlertDesk.Record.Alert

/-!
# AlertDesk.Proofs.ListScreen.Refresh

What a list screen shows, against the log.  `lastQuery` finds the query call
made last and what was logged behind it.  `Current` says that the newest ticket
belongs to that call alone, and that a list which is not loading shows the
answer that was taken in to it; it is kept by every transition.

A delete that goes through queries the list in the same step, so from then on
the last query is one that was made behind it, and every older answer comes
with an old ticket.

Main fact: `rows_after_delete` — behind a delete nothing is shown that was
queried before it.
-/

namespace AlertDesk.ListScreen

/-! ## the query made last -/

/-- The number of the query call made last, and what was logged behind it. -/
def lastQuery : List Entry → Option (Nat × List Entry)
  | [] => none
  | x :: r => (lastQuery r).or (x.query?.map fun n => (n, r))

variable {log new : List Entry} {n : Nat}

theorem lastQuery_append (a b : List Entry) :
    lastQuery (a ++ b) = (lastQuery b).or ((lastQuery a).map fun p => (p.1, p.2 ++ b)) := by
  induction a with
  | nil => simp [lastQuery]
  | cons x a ih =>
      rw [List.cons_append, lastQuery, ih, lastQuery]
      cases lastQuery b <;> cases lastQuery a <;> cases x.query? <;> simp

/-- Behind entries of which none is a query call the last one is still the last. -/
theorem lastQuery_append_of_none (h : ∀ x ∈ new, x.query? = none) :
    lastQuery (log ++ new) = (lastQuery log).map fun p => (p.1, p.2 ++ new) := by
  have hnew : lastQuery new = none := by
    induction new with
    | nil => rfl
    | cons x new ih =>
        rw [lastQuery, ih fun y hy => h y (List.mem_cons_of_mem x hy), h x List.mem_cons_self]
        rfl
  rw [lastQuery_append, hnew, Option.none_or]

/-- The last query call stands in the log, in front of what follows it. -/
theorem eq_of_lastQuery {since : List Entry} (h : lastQuery log = some (n, since)) :
    ∃ earlier kind query, log = earlier ++ .note (.called n (.query kind query)) :: since := by
  induction log with
  | nil => contradiction
  | cons x log ih =>
      rw [lastQuery] at h
      cases hr : lastQuery log with
      | some p =>
          rw [hr, Option.some_or, Option.some.injEq] at h
          obtain ⟨earlier, kind, query, rfl⟩ := ih (hr.trans (congrArg some h))
          exact ⟨x :: earlier, kind, query, rfl⟩
      | none =>
          rw [hr, Option.none_or, Option.map_eq_some_iff] at h
          obtain ⟨m, hm, hpair⟩ := h
          obtain ⟨rfl, rfl⟩ := Prod.mk.inj hpair
          unfold Entry.query? at hm
          split at hm
          · obtain rfl := Option.some.inj hm
            exact ⟨[], _, _, rfl⟩
          · contradiction

/-- A log with a query call has a last one. -/
theorem exists_lastQuery {x : Entry} (hx : x ∈ log) (hq : x.query? = some n) :
    ∃ m since, lastQuery log = some (m, since) := by
  obtain ⟨a, b, rfl⟩ := List.append_of_mem hx
  rw [lastQuery_append, lastQuery, hq]
  cases lastQuery b with
  | none => exact ⟨n, b, rfl⟩
  | some p => exact ⟨p.1, p.2, rfl⟩

namespace Session

variable {α : Type} [Entity α] {s s' : Session α}

/-! ## the list against the log -/

/-- How the list of a session agrees with the log that led to it. -/
structure Current (s : Session α) (log : List Entry) : Prop where
  ticket_le : ∀ t ∈ s.waiting, ∀ ticket deleted, t.awaited = .page ticket deleted →
    ticket ≤ s.screen.list.issued
  /-- Whoever waits with the newest ticket made the last query call. -/
  newest : ∀ t ∈ s.waiting, ∀ deleted, t.awaited = .page s.screen.list.issued deleted →
    ∃ since, lastQuery log = some (t.call, since)
  /-- A list that is not loading shows the answer to the last query call. -/
  shown : ∀ n since, lastQuery log = some (n, since) → s.screen.list.view.loading = false →
    ∃ answer, .pageAnswer n answer ∈ since ∧ s.screen.list.view.Shows (Page.ofAnswer answer)

theorem current_opened (token : CsrfToken) : Current (opened token : Session α) [] where
  ticket_le := by simp [opened]
  newest := by simp [opened]
  shown := by simp [lastQuery]

/-- What makes no query call and leaves the list keeps them in agreement. -/
theorem Current.keep (h : Current s log) (hnew : ∀ x ∈ new, x.query? = none)
    (hlist : s'.screen.list = s.screen.list)
    (hwaiting : ∀ t ∈ s'.waiting, t ∈ s.waiting ∨ ∃ id, t.awaited = .receipt id) :
    Current s' (log ++ new) where
  ticket_le := by
    intro t ht ticket deleted hawaited
    rw [hlist]
    obtain hold | ⟨id, hid⟩ := hwaiting t ht
    · exact h.ticket_le t hold ticket deleted hawaited
    · rw [hid] at hawaited
      contradiction
  newest := by
    intro t ht deleted hawaited
    rw [hlist] at hawaited
    obtain hold | ⟨id, hid⟩ := hwaiting t ht
    · obtain ⟨since, hlast⟩ := h.newest t hold deleted hawaited
      exact ⟨since ++ new, by rw [lastQuery_append_of_none hnew, hlast]; rfl⟩
    · rw [hid] at hawaited
      contradiction
  shown := by
    intro n since hlast hloading
    rw [lastQuery_append_of_none hnew, Option.map_eq_some_iff] at hlast
    obtain ⟨⟨m, since⟩, hold, heq⟩ := hlast
    obtain ⟨rfl, rfl⟩ := Prod.mk.inj heq
    rw [hlist] at hloading ⊢
    obtain ⟨answer, hmem, hshows⟩ := h.shown m since hold hloading
    exact ⟨answer, List.mem_append_left new hmem, hshows⟩

/-- A query call that was just made is the last one, and every other ticket is old. -/
theorem Current.began (h : Current s log) {params : Option ListQuery}
    (hnew : lastQuery new = some (s.calls, []))
    (hlist : s'.screen.list = s.screen.list.begin params)
    (hwaiting : ∀ t ∈ s'.waiting, t ∈ s.waiting ∨
      ∃ number deleted, t = ⟨number, s.calls, .page (s.screen.list.issued + 1) deleted⟩) :
    Current s' (log ++ new) where
  ticket_le := by
    intro t ht ticket deleted' hawaited
    rw [hlist, PagedList.issued_begin]
    obtain hold | ⟨number, deleted, rfl⟩ := hwaiting t ht
    · exact Nat.le_succ_of_le (h.ticket_le t hold ticket deleted' hawaited)
    · cases hawaited
      exact Nat.le_refl _
  newest := by
    intro t ht deleted' hawaited
    rw [hlist, PagedList.issued_begin] at hawaited
    obtain hold | ⟨number, deleted, rfl⟩ := hwaiting t ht
    · exact absurd (h.ticket_le t hold _ deleted' hawaited) (Nat.not_succ_le_self _)
    · exact ⟨[], by rw [lastQuery_append, hnew]; rfl⟩
  shown := by
    intro n since hlast hloading
    rw [hlist] at hloading
    contradiction

/-- The answer with the newest ticket is shown, and it answers the last query call. -/
theorem Current.answered (h : Current s log) {task : Task} {deleted : Option String}
    (waits : task ∈ s.waiting) (hawaited : task.awaited = .page s.screen.list.issued deleted)
    (answer : Except PortalError QueryResponse) {rest : List Entry}
    (hrest : ∀ x ∈ rest, x.query? = none)
    (hlist : s'.screen.list =
      (s.screen.list.settle s.screen.list.issued (Page.ofAnswer answer)).1)
    (hwaiting : s'.waiting ⊆ s.waiting) :
    Current s' (log ++ .pageAnswer task.call answer :: rest) := by
  obtain ⟨since, hlast⟩ := h.newest task waits deleted hawaited
  have hissued : s'.screen.list.issued = s.screen.list.issued := by
    rw [hlist, PagedList.issued_settle]
  have hnone : ∀ x ∈ Entry.pageAnswer task.call answer :: rest, x.query? = none := by
    intro x hx
    obtain rfl | hx := List.mem_cons.mp hx
    · rfl
    · exact hrest x hx
  have hshows := (PagedList.settle_newest rfl (Page.ofAnswer answer) (l := s.screen.list)).2.2
  constructor
  · intro t ht ticket deleted' hpage
    rw [hissued]
    exact h.ticket_le t (hwaiting ht) ticket deleted' hpage
  · intro t ht deleted' hpage
    rw [hissued] at hpage
    obtain ⟨since', hlast'⟩ := h.newest t (hwaiting ht) deleted' hpage
    exact ⟨_, by rw [lastQuery_append_of_none hnone, hlast']; rfl⟩
  · intro n since' hlast' hloading
    rw [lastQuery_append_of_none hnone, hlast, Option.map_some, Option.some.injEq] at hlast'
    obtain ⟨rfl, rfl⟩ := Prod.mk.inj hlast'
    exact ⟨answer, by simp, hlist ▸ hshows⟩

/-- **Every transition keeps the list in agreement with the log.** -/
theorem Current.keeps (h : Current s log) {e : Event} (t : Transition s e s' new) :
    Current s' (log ++ new) := by
  have hforget : ∀ p : Task → Bool, ∀ t ∈ s.waiting.filter p, t ∈ s.waiting :=
    fun p t ht => (List.mem_filter.mp ht).1
  cases t with
  | queried params =>
      refine h.began rfl rfl fun t ht => ?_
      obtain hold | rfl : t ∈ s.waiting ∨ t = _ := by simpa using ht
      · exact .inl hold
      · exact .inr ⟨_, _, rfl⟩
  | refused id other stage => exact h.keep (by simp [Entry.query?]) rfl fun t ht => .inl ht
  | staged id stage => exact h.keep (by simp [Entry.query?, emit]) rfl fun t ht => .inl ht
  | nothingToSend stage => exact h.keep (by simp [Entry.query?]) rfl fun t ht => .inl ht
  | sent id stage =>
      refine h.keep (by simp [Entry.query?]) rfl fun t ht => ?_
      obtain hold | rfl : t ∈ s.waiting ∨ t = _ := by simpa using ht
      · exact .inl hold
      · exact .inr ⟨id, rfl⟩
  | nothingToCancel stage => exact h.keep (by simp) rfl fun t ht => .inl ht
  | cancelled id stage => exact h.keep (by simp [Entry.query?, emit]) rfl fun t ht => .inl ht
  | settled task ticket deleted answer waits awaited =>
      by_cases hticket : s.screen.list.issued = ticket
      · subst hticket
        exact h.answered waits awaited answer (by simp [Entry.query?]) rfl fun t => hforget _ t
      · refine h.keep (by simp [Entry.query?]) ?_ fun t ht => .inl (hforget _ t ht)
        exact congrArg Prod.fst (PagedList.settle_superseded hticket _)
  | failed task id e waits awaited =>
      exact h.keep (by simp [Entry.query?, emit]) rfl fun t ht => .inl (hforget _ t ht)
  | deleted task id waits awaited =>
      refine h.began rfl rfl fun t ht => ?_
      obtain hold | hnew := List.mem_append.mp ht
      · exact .inl (hforget _ t hold)
      · exact .inr ⟨_, _, List.mem_singleton.mp hnew⟩
  | strayPage call answer => exact h.keep (by simp) rfl fun t ht => .inl ht
  | strayReceipt call answer => exact h.keep (by simp) rfl fun t ht => .inl ht
  | dropped n => exact h.keep (by simp) rfl fun t ht => .inl (hforget _ t ht)
  | uiClosed => exact h.keep (by simp) rfl fun t ht => .inl ht

/-- **After every run the list agrees with the log.** -/
theorem current_run (token : CsrfToken) (es : List Event) :
    Current ((opened token : Session α).run es).1 ((opened token : Session α).log es) :=
  run_induction (current_opened token) (fun h t => h.keeps t) es

/-! ## behind a delete -/

/-- A delete that goes through queries the list in the same step. -/
theorem Transition.refresh {e : Event} (t : Transition s e s' new) {pre post : List Entry}
    (h : new = pre ++ .receipt n (.ok ()) :: post) : ∃ x ∈ post, x.query? = some s.calls := by
  have hmem : .receipt n (.ok ()) ∈ new := h ▸ List.mem_append_right pre List.mem_cons_self
  cases t with
  | deleted task id waits awaited =>
      cases pre with
      | nil =>
          obtain ⟨-, rfl⟩ := List.cons_eq_cons.mp h
          exact ⟨_, List.mem_cons_of_mem _ List.mem_cons_self, rfl⟩
      | cons x pre =>
          obtain ⟨-, hrest⟩ := List.cons_eq_cons.mp h
          have hlater : .receipt n (.ok ()) ∈ pre.append (.receipt n (.ok ()) :: post) :=
            List.mem_append_right pre List.mem_cons_self
          rw [← hrest] at hlater
          simp [emit] at hlater
  | _ => simp [emit] at hmem

/-- Behind a delete that went through there is a query call. -/
theorem exists_query_of_receipt {token : CsrfToken} {es : List Event} {before after : List Entry}
    (h : (opened token : Session α).log es = before ++ .receipt n (.ok ()) :: after) :
    ∃ x ∈ after, ∃ m, x.query? = some m := by
  obtain ⟨earlier, e, later, pre, post, -, hnew, -, rfl⟩ := exists_step_of_log_eq h
  obtain ⟨x, hx, hq⟩ := (transition _ e).refresh hnew
  exact ⟨x, List.mem_append_left _ hx, _, hq⟩

/-- An answer to any call but the last query leaves the list as it is. -/
theorem Current.stale (h : Current s log) {call : Nat}
    (hcall : ∀ since, lastQuery log ≠ some (call, since))
    (answer : Except PortalError QueryResponse) :
    (s.step (.answerQuery call answer)).1.screen.list = s.screen.list := by
  have t := transition s (.answerQuery call answer)
  generalize (s.step (.answerQuery call answer)).1 = s', s.entries _ = new at t ⊢
  cases t with
  | settled task ticket deleted answer waits awaited =>
      have hticket : s.screen.list.issued ≠ ticket := by
        rintro rfl
        obtain ⟨since, hlast⟩ := h.newest task waits deleted awaited
        exact hcall since hlast
      exact congrArg Prod.fst (PagedList.settle_superseded hticket _)
  | strayPage call answer => rfl

/-- **No row comes back.**  Behind a delete that went through, a list that is
neither loading nor failed shows the page that answers a query called since,
and whatever answers an older query call leaves the list as it is. -/
theorem rows_after_delete (token : CsrfToken) (es : List Event) :
    let s := ((opened token : Session α).run es).1
    ∀ before n after,
      (opened token : Session α).log es = before ++ .receipt n (.ok ()) :: after →
      (s.screen.list.view.loading = false → s.screen.list.view.error = none →
        ∃ earlier c kind query since answer page,
          after = earlier ++ .note (.called c (.query kind query)) :: since ∧
          .pageAnswer c answer ∈ since ∧ Page.ofAnswer answer = .ok page ∧
          s.screen.list.view.items = page.items ∧
          s.screen.list.view.pagination = page.pagination) ∧
      ∀ c kind query, .note (.called c (.query kind query)) ∈ before →
        ∀ answer, (s.step (.answerQuery c answer)).1.screen.list = s.screen.list := by
  intro s before n after hlog
  have h : Current s _ := current_run token es
  -- the refresh is in `after`, and so is the last query call
  obtain ⟨x, hx, m, hq⟩ := exists_query_of_receipt hlog
  obtain ⟨c, since, hlast⟩ := exists_lastQuery hx hq
  have hlast' : lastQuery ((opened token : Session α).log es) = some (c, since) := by
    rw [hlog, lastQuery_append, lastQuery, hlast]
    rfl
  obtain ⟨earlier, kind, query, rfl⟩ := eq_of_lastQuery hlast
  constructor
  · intro hloading herror
    obtain ⟨answer, hanswer, hshows⟩ := h.shown c since hlast' hloading
    cases hpage : Page.ofAnswer (α := α) answer with
    | ok page =>
        rw [hpage] at hshows
        exact ⟨earlier, c, kind, query, since, answer, page, rfl, hanswer, hpage, hshows.1,
          hshows.2.1⟩
    | error e =>
        rw [hpage] at hshows
        exact absurd (herror.symm.trans hshows) (by simp)
  · intro old kind' query' hold answer
    refine h.stale (fun since' hlast => ?_) answer
    obtain ⟨rfl, -⟩ := Prod.mk.inj (Option.some.inj (hlast'.symm.trans hlast))
    -- then its number would have been given out twice
    have hnodup := calls_log (α := α) token es ▸ List.nodup_range
    rw [hlog, List.filterMap_append] at hnodup
    have hbefore : c ∈ before.filterMap Entry.call? := List.mem_filterMap.mpr ⟨_, hold, rfl⟩
    have hafter : c ∈ (.receipt n (.ok ()) ::
        (earlier ++ .note (.called c (.query kind query)) :: since)).filterMap Entry.call? :=
      List.mem_filterMap.mpr ⟨.note (.called c (.query kind query)), by simp, rfl⟩
    exact (List.nodup_append.mp hnodup).2.2 c hbefore c hafter rfl

/-- A query is overtaken by a delete: its answer, which still holds the deleted
record, changes nothing. -/
theorem rows_after_delete_overtaken :
    let stale : QueryResponse := { data := [Alert.encode { id := "a" }] }
    let fresh : QueryResponse := { data := [Alert.encode { id := "b" }] }
    let es : List Event := [.query none, .remove "a", .confirm, .answerDelete 1 (.ok ()),
      .answerQuery 2 (.ok fresh)]
    let s := ((opened ⟨"t"⟩ : Session Alert).run es).1
    let asked : Entry := .note (.called 0 (.query .alert {}))
    let before : List Entry := [asked, .note (.emitted (.requestConfirmation "a") true),
      .note (.removed true), .note (.called 1 (.delete .alert "a" ⟨"t"⟩))]
    let after : List Entry := [.note (.emitted .closeConfirmation true),
      .note (.called 2 (.query .alert {})), .pageAnswer 2 (.ok fresh),
      .note (.finished 1 (.confirmed (some "a")))]
    s.screen.list.view.loading = false ∧ s.screen.list.view.error = none ∧
      (∃ earlier c kind query since answer page,
        after = earlier ++ .note (.called c (.query kind query)) :: since ∧
        .pageAnswer c answer ∈ since ∧ Page.ofAnswer (α := Alert) answer = .ok page ∧
        s.screen.list.view.items = page.items ∧
        s.screen.list.view.pagination = page.pagination) ∧
      asked ∈ before ∧
      (s.step (.answerQuery 0 (.ok stale))).1.screen.list = s.screen.list := by
  intro stale fresh es s asked before after
  have hasked : asked ∈ before := List.mem_cons_self
  obtain ⟨hrows, hstale⟩ := rows_after_delete (α := Alert) ⟨"t"⟩ es before 1 after rfl
  exact ⟨rfl, rfl, hrows rfl rfl, hasked, hstale 0 .alert {} hasked (.ok stale)⟩

end Session

end AlertDesk.ListScreen
