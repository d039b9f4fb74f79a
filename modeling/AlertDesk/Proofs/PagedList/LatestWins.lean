import AlertDesk.Proofs.PagedList.Run
import AlertDesk.Record.Alert

/-!
# AlertDesk.Proofs.PagedList.LatestWins

Of all the queries of a list the one started last wins, in whatever order
their answers come and whichever of them are given up.

`Completes` reads off a run which queries came to their end, with which answer
and how.  From these the state after a run is told by its history: `Told` is
the invariant, with tickets, numbers and completions tied together, and is kept
by every transition.

Main fact: `latest_query_wins`.
-/

namespace AlertDesk.PagedList.Session

variable {α : Type}

/-! ## completions -/

/-- In the run of the events the query with the number was given the answer
and came to its end with the outcome. -/
def Completes (es : List (Event α)) (number : Nat) (answer : Except PortalError (Page α))
    (outcome : Settled) : Prop :=
  ∃ before after, es = before ++ .answer number answer :: after ∧
    .finished number outcome ∈
      ((({} : Session α).run before).1.step (.answer number answer)).2

theorem not_completes_nil {number : Nat} {answer : Except PortalError (Page α)}
    {outcome : Settled} : ¬ Completes [] number answer outcome := by
  rintro ⟨before, after, h, -⟩
  simp at h

/-- What has completed after one more event: what had before, and what that event completes. -/
theorem completes_concat {es : List (Event α)} {e : Event α} {number : Nat}
    {answer : Except PortalError (Page α)} {outcome : Settled} :
    Completes (es ++ [e]) number answer outcome ↔
      Completes es number answer outcome ∨ (e = .answer number answer ∧
        .finished number outcome ∈ ((({} : Session α).run es).1.step e).2) := by
  rw [Completes, split_concat_iff]
  refine or_congr Iff.rfl ⟨?_, ?_⟩
  · rintro ⟨rfl, hnote⟩
    exact ⟨rfl, hnote⟩
  · rintro ⟨rfl, hnote⟩
    exact ⟨rfl, hnote⟩

/-- The page that is shown is that of the query started last among those that
were applied; an empty one if there is none. -/
def TellsPage (es : List (Event α)) (v : ListView α) : Prop :=
  (∃ n page, Completes es n (.ok page) .applied ∧
    (∀ m page', Completes es m (.ok page') .applied → m ≤ n) ∧
    v.items = page.items ∧ v.pagination = page.pagination) ∨
  ((∀ n page, ¬ Completes es n (.ok page) .applied) ∧ v.items = [] ∧ v.pagination = {})

/-- The error that is shown is that of the query started last among those that
were not overtaken, if that one failed. -/
def TellsError (es : List (Event α)) (v : ListView α) : Prop :=
  ∀ e, v.error = some e ↔ ∃ n, Completes es n (.error e) (.failed e) ∧
    ∀ m answer outcome, Completes es m answer outcome → outcome ≠ .superseded → m ≤ n

/-- How a session agrees with the events that led to it. -/
structure Told (s : Session α) (es : List (Event α)) : Prop where
  issued_eq : s.list.issued = s.started
  ticket_eq : ∀ f ∈ s.waiting, f.ticket = f.number + 1
  number_lt : ∀ f ∈ s.waiting, f.number < s.started
  completes_lt : ∀ {n answer outcome}, Completes es n answer outcome → n < s.started
  /-- Whoever waits has not come to an end. -/
  waiting_open : ∀ f ∈ s.waiting, ∀ answer outcome, ¬ Completes es f.number answer outcome
  /-- Nobody comes to an end twice. -/
  completes_inj : ∀ {n answer answer' outcome outcome'}, Completes es n answer outcome →
    Completes es n answer' outcome' → answer = answer' ∧ outcome = outcome'
  page : TellsPage es s.list.view
  error : TellsError es s.list.view

theorem told_nil : Told ({} : Session α) [] where
  issued_eq := rfl
  ticket_eq := by simp
  number_lt := by simp
  completes_lt := fun h => absurd h not_completes_nil
  waiting_open := by simp
  completes_inj := fun h => absurd h not_completes_nil
  page := .inr ⟨fun _ _ => not_completes_nil, rfl, rfl⟩
  error := fun e => by simp [not_completes_nil]

/-! ### one more event -/

variable {s : Session α} {es es' : List (Event α)} {v v' : ListView α} {n : Nat}
  {answer : Except PortalError (Page α)} {outcome : Settled}

theorem TellsPage.congr (h : TellsPage es v)
    (hc : ∀ n page, Completes es' n (.ok page) .applied ↔ Completes es n (.ok page) .applied)
    (hi : v'.items = v.items) (hp : v'.pagination = v.pagination) : TellsPage es' v' := by
  simpa only [TellsPage, hc, hi, hp] using h

theorem TellsError.congr (h : TellsError es v)
    (hc : ∀ n answer outcome, outcome ≠ .superseded →
      (Completes es' n answer outcome ↔ Completes es n answer outcome))
    (he : v'.error = v.error) : TellsError es' v' := by
  intro e
  rw [he, h e]
  constructor
  · rintro ⟨n, hn, hmax⟩
    exact ⟨n, (hc _ _ _ (by simp)).mpr hn, fun m a o hm ho => hmax m a o ((hc _ _ _ ho).mp hm) ho⟩
  · rintro ⟨n, hn, hmax⟩
    exact ⟨n, (hc _ _ _ (by simp)).mp hn, fun m a o hm ho => hmax m a o ((hc _ _ _ ho).mpr hm) ho⟩

/-- The events complete what others do and, besides, the query `n`. -/
def Adds (es es' : List (Event α)) (n : Nat) (answer : Except PortalError (Page α))
    (outcome : Settled) : Prop :=
  ∀ m a o, Completes es' m a o ↔ Completes es m a o ∨ (m = n ∧ a = answer ∧ o = outcome)

/-- A query that completes as the newest one tells what is shown. -/
theorem Told.newest (h : Told s es) (hadds : Adds es es' n answer (Settled.ofAnswer answer))
    (hn : s.started = n + 1) (hopen : ∀ a o, ¬ Completes es n a o)
    (hshows : v.Shows answer)
    (hkeep : ∀ e, answer = .error e →
      v.items = s.list.view.items ∧ v.pagination = s.list.view.pagination) :
    TellsPage es' v ∧ TellsError es' v := by
  -- tickets count the queries, so no other query that completed was started later
  have hle : ∀ {m a o}, Completes es' m a o → m ≤ n := by
    intro m a o hm
    obtain hm | ⟨rfl, -⟩ := (hadds m a o).mp hm
    · have := h.completes_lt hm
      omega
    · exact Nat.le_refl _
  have hnew : Completes es' n answer (Settled.ofAnswer answer) :=
    (hadds ..).mpr (.inr ⟨rfl, rfl, rfl⟩)
  constructor
  · cases answer with
    | ok page => exact .inl ⟨n, page, hnew, fun m page' hm => hle hm, hshows.1, hshows.2.1⟩
    | error e =>
        obtain ⟨hi, hp⟩ := hkeep e rfl
        exact h.page.congr (fun m page => by simp [hadds m, Settled.ofAnswer]) hi hp
  · intro e
    have herror : v.error = some e ↔ answer = .error e := by
      cases answer with
      | ok page => simp [hshows.2.2]
      | error e' => simp [show v.error = some e' from hshows]
    rw [herror]
    constructor
    · rintro rfl
      exact ⟨n, hnew, fun m a o hm _ => hle hm⟩
    · rintro ⟨m, hm, hmax⟩
      have hsuper : Settled.ofAnswer answer ≠ .superseded := by
        cases answer <;> simp [Settled.ofAnswer]
      have hnm : n ≤ m := hmax n answer _ hnew hsuper
      have hmn : m = n := Nat.le_antisymm (hle hm) hnm
      obtain hold | ⟨-, ha, -⟩ := (hadds ..).mp hm
      · exact absurd (hmn ▸ hold) (hopen _ _)
      · exact ha.symm

/-- A query that waited has come to its end, and the list tells of it. -/
theorem Told.ended (h : Told s es) {f : Fetch} (hf : f ∈ s.waiting)
    (hadds : Adds es es' f.number answer outcome) {l : PagedList α}
    (hl : l.issued = s.list.issued) (hpage : TellsPage es' l.view)
    (herror : TellsError es' l.view) : Told { s.forget f.number with list := l } es' where
  issued_eq := hl.trans h.issued_eq
  ticket_eq := fun g hg => h.ticket_eq g (List.mem_filter.mp hg).1
  number_lt := fun g hg => h.number_lt g (List.mem_filter.mp hg).1
  completes_lt := by
    intro n a o hc
    obtain hold | ⟨rfl, -⟩ := (hadds n a o).mp hc
    · exact h.completes_lt hold
    · exact h.number_lt f hf
  waiting_open := by
    intro g hg a o hc
    obtain ⟨hmem, hne⟩ := List.mem_filter.mp hg
    obtain hold | ⟨heq, -⟩ := (hadds g.number a o).mp hc
    · exact h.waiting_open g hmem a o hold
    · simp [heq] at hne
  completes_inj := by
    intro n a a' o o' hc hc'
    obtain hold | ⟨rfl, rfl, rfl⟩ := (hadds n a o).mp hc
    · obtain hold' | ⟨rfl, -⟩ := (hadds n a' o').mp hc'
      · exact h.completes_inj hold hold'
      · exact absurd hold (h.waiting_open f hf a o)
    · obtain hold' | ⟨-, rfl, rfl⟩ := (hadds _ a' o').mp hc'
      · exact absurd hold' (h.waiting_open f hf a' o')
      · exact ⟨rfl, rfl⟩
  page := hpage
  error := herror

/-- The events have completed what the session tells, and nothing else. -/
theorem Told.congr (h : Told s es) {s' : Session α}
    (hc : ∀ n a o, Completes es' n a o ↔ Completes es n a o) (hlist : s'.list = s.list)
    (hstarted : s'.started = s.started) (hwaiting : s'.waiting ⊆ s.waiting) : Told s' es' where
  issued_eq := by rw [hlist, hstarted, h.issued_eq]
  ticket_eq := fun f hf => h.ticket_eq f (hwaiting hf)
  number_lt := fun f hf => hstarted ▸ h.number_lt f (hwaiting hf)
  completes_lt := fun hn => hstarted ▸ h.completes_lt ((hc ..).mp hn)
  waiting_open := fun f hf a o ho => h.waiting_open f (hwaiting hf) a o ((hc ..).mp ho)
  completes_inj := fun hn hn' => h.completes_inj ((hc ..).mp hn) ((hc ..).mp hn')
  page := h.page.congr (fun n page => hc ..) (by rw [hlist]) (by rw [hlist])
  error := h.error.congr (fun n a o _ => hc n a o) (by rw [hlist])

/-- The next query has been started. -/
theorem Told.began (h : Told s es) (hc : ∀ n a o, Completes es' n a o ↔ Completes es n a o)
    (params : Option ListQuery) :
    Told { list := s.list.begin params
           waiting := s.waiting ++ [⟨s.started, s.list.issued + 1⟩]
           started := s.started + 1 } es' where
  issued_eq := by rw [issued_begin, h.issued_eq]
  ticket_eq := by
    intro f hf
    obtain hf | rfl : f ∈ s.waiting ∨ f = _ := by simpa using hf
    · exact h.ticket_eq f hf
    · exact congrArg (· + 1) h.issued_eq
  number_lt := by
    intro f hf
    obtain hf | rfl : f ∈ s.waiting ∨ f = _ := by simpa using hf
    · exact Nat.lt_succ_of_lt (h.number_lt f hf)
    · exact Nat.lt_succ_self _
  completes_lt := fun hn => Nat.lt_succ_of_lt (h.completes_lt ((hc ..).mp hn))
  waiting_open := by
    intro f hf a o ho
    have hold := (hc ..).mp ho
    obtain hf | rfl : f ∈ s.waiting ∨ f = _ := by simpa using hf
    · exact h.waiting_open f hf a o hold
    · exact Nat.lt_irrefl _ (h.completes_lt hold)
  completes_inj := fun hn hn' => h.completes_inj ((hc ..).mp hn) ((hc ..).mp hn')
  page := h.page.congr (fun n page => hc ..) rfl rfl
  error := h.error.congr (fun n a o _ => hc n a o) rfl

/-- **Every event keeps a session told by its history.** -/
theorem Told.step (h : Told s es) {e : Event α} {s' : Session α} {notes : List Note}
    (t : Transition s e s' notes)
    (hc : ∀ n a o, Completes es' n a o ↔
      Completes es n a o ∨ (e = .answer n a ∧ .finished n o ∈ notes)) : Told s' es' := by
  cases t with
  | started params => exact h.began (fun n a o => by simp [hc]) params
  | overtaken f answer waits newer =>
      have hf := (mem_of_find? waits).1
      have hadds : Adds es es' f.number answer .superseded := by
        intro n a o
        rw [hc]
        grind
      have hpage : TellsPage es' s.list.view :=
        h.page.congr (fun n page => by simp [hadds n]) rfl rfl
      have herror : TellsError es' s.list.view :=
        h.error.congr (fun n a o ho => by simp [hadds n, ho]) rfl
      exact h.ended hf hadds rfl hpage herror
  | settled f answer waits newest =>
      have hf := (mem_of_find? waits).1
      have hadds : Adds es es' f.number answer (Settled.ofAnswer answer) := by
        intro n a o
        rw [hc]
        grind
      have hlast : s.started = f.number + 1 := by
        rw [← h.issued_eq, newest, h.ticket_eq f hf]
      have hkeep : ∀ e, answer = .error e →
          (s.list.settle f.ticket answer).1.view.items = s.list.view.items ∧
            (s.list.settle f.ticket answer).1.view.pagination = s.list.view.pagination := by
        rintro e rfl
        exact settle_error newest e
      obtain ⟨hpage, herror⟩ := h.newest hadds hlast (h.waiting_open f hf)
        (settle_newest newest answer).2.2 hkeep
      exact h.ended hf hadds (issued_settle ..) hpage herror
  | stray n answer unknown =>
      exact h.congr (fun n a o => by simp [hc]) rfl rfl (List.Subset.refl _)
  | dropped n =>
      exact h.congr (fun n a o => by simp [hc]) rfl rfl List.filter_sublist.subset

/-- **After every run the session is told by the events.** -/
theorem told_run (es : List (Event α)) : Told (({} : Session α).run es).1 es := by
  -- from the end, as `Completes` looks at the run up to an event
  induction es using List.reverseRecOn with
  | nil => exact told_nil
  | append_singleton es e ih =>
      rw [run_concat]
      exact ih.step (transition _ e) fun n a o => completes_concat

/-! ## a query that still waits -/

/-- Whoever waits is found: there are not two of a number. -/
theorem Told.find?_eq (h : Told s es) {f : Fetch} (hf : f ∈ s.waiting) :
    s.find? f.number = some f := by
  cases hg : s.find? f.number with
  | none => simpa using List.find?_eq_none.mp hg f hf
  | some g =>
      obtain ⟨hmem, hnumber⟩ := mem_of_find? hg
      have hticket : g.ticket = f.ticket := by rw [h.ticket_eq g hmem, h.ticket_eq f hf, hnumber]
      cases f
      cases g
      simp_all

/-- A query that has not come to its end and was not given up waits, and its
ticket is as far from the newest one as there were queries since. -/
theorem find?_of_between {before between : List (Event α)} {params : Option ListQuery}
    (hn : n = (({} : Session α).run before).1.started) (h : ∀ e ∈ between, ¬ e.Ends n)
    (hs : s = (({} : Session α).run (before ++ .query params :: between)).1) :
    ∃ f : Fetch, f.number = n ∧ s.find? n = some f ∧
      s.list.issued = f.ticket + between.countP Event.isQuery := by
  have htold : Told s (before ++ .query params :: between) := hs ▸ told_run _
  have hissued := (told_run before).issued_eq
  rw [run_append, run_cons] at hs
  refine ⟨⟨n, n + 1⟩, rfl, htold.find?_eq (f := ⟨n, n + 1⟩) ?_, ?_⟩
  · rw [hs]
    refine mem_waiting_run ?_ h
    simp [step, hn, hissued]
  · rw [hs, issued_run, (transition _ _).issued]
    simp [Event.isQuery, hn, hissued]

/-- **The query started last wins.**  An answer that comes for a query is taken
in, or fails it, if no query was started behind it, and is superseded
otherwise.  Superseded answers and queries that are given up change nothing of
the list.  So the list shows the page of the latest query that was applied, and
the error of the latest one that was not superseded. -/
theorem latest_query_wins (es : List (Event α)) :
    let s := (({} : Session α).run es).1
    (∀ before params between n, es = before ++ .query params :: between →
      n = (({} : Session α).run before).1.started → (∀ e ∈ between, ¬ e.Ends n) →
      ∀ answer, ∃ outcome, (s.step (.answer n answer)).2 = [.finished n outcome] ∧
        (outcome = Settled.ofAnswer answer ↔ ∀ later, .query later ∉ between) ∧
        (outcome = .superseded ↔ ∃ later, .query later ∈ between)) ∧
    (∀ n answer, .finished n .superseded ∈ (s.step (.answer n answer)).2 →
      (s.step (.answer n answer)).1.list = s.list) ∧
    (∀ n, (s.step (.drop n)).1.list = s.list) ∧
    (∀ n answer answer' outcome outcome', Completes es n answer outcome →
      Completes es n answer' outcome' → answer = answer' ∧ outcome = outcome') ∧
    TellsPage es s.list.view ∧ TellsError es s.list.view := by
  intro s
  have htold : Told s es := told_run es
  refine ⟨?_, ?_, fun n => rfl, fun _ _ _ _ _ => htold.completes_inj, htold.page, htold.error⟩
  · intro before params between n hes hn hbetween answer
    obtain ⟨f, rfl, hf, hissued⟩ := find?_of_between hn hbetween (s := s) (by rw [← hes])
    have hsuper : Settled.ofAnswer answer ≠ .superseded := by
      cases answer <;> simp [Settled.ofAnswer]
    have hsettle : (s.step (.answer f.number answer)).2 =
        [.finished f.number (s.list.settle f.ticket answer).2] := by simp [step, hf]
    by_cases hlast : between.countP Event.isQuery = 0
    · have hnewest : s.list.issued = f.ticket := by omega
      have hnone := countP_isQuery_eq_zero.mp hlast
      have houtcome := (settle_newest hnewest answer).1
      refine ⟨Settled.ofAnswer answer, by rw [hsettle, houtcome], by simpa using hnone, ?_⟩
      simpa [hsuper] using hnone
    · have hnewer : s.list.issued ≠ f.ticket := by omega
      rw [countP_isQuery_eq_zero] at hlast
      have hsome : ∃ later, .query later ∈ between := not_forall_not.mp hlast
      have houtcome := settle_superseded hnewer answer
      refine ⟨.superseded, by rw [hsettle, houtcome], ?_, by simpa using hsome⟩
      simpa [Ne.symm hsuper] using hsome
  · intro n answer hmem
    have t := transition s (.answer n answer)
    generalize (s.step (.answer n answer)).1 = s', (s.step (.answer n answer)).2 = notes at *
    cases t with
    | overtaken f answer waits newer => rfl
    | settled f answer waits newest => cases answer <;> simp [Settled.ofAnswer] at hmem
    | stray n answer unknown => rfl

/-- Of two queries the second is answered first: its page is shown, and the
answer to the first one changes nothing. -/
theorem latest_query_wins_overtaken :
    let page : Page Alert := { items := [{ id := "new" }], pagination := { page := some 2 } }
    let stale : Page Alert := { items := [{ id := "old" }], pagination := {} }
    let es : List (Event Alert) := [.query none, .query none, .answer 1 (.ok page)]
    let s := (({} : Session Alert).run es).1
    Completes es 1 (.ok page) .applied ∧ TellsPage es s.list.view ∧ TellsError es s.list.view ∧
      (s.step (.answer 0 (.ok stale))).2 = [.finished 0 .superseded] ∧
      (s.step (.answer 0 (.ok stale))).1.list = s.list ∧ s.list.view.items = page.items := by
  intro page stale es s
  have h := latest_query_wins es
  have hbetween : ∀ e ∈ [.query none, .answer 1 (.ok page)], ¬ Event.Ends e 0 := by
    simp [Event.Ends]
  obtain ⟨outcome, hnotes, -, hsuper⟩ :=
    h.1 [] none [.query none, .answer 1 (.ok page)] 0 rfl rfl hbetween (.ok stale)
  obtain rfl : outcome = .superseded := hsuper.mpr ⟨none, by simp⟩
  have hcompletes : Completes es 1 (.ok page) .applied :=
    ⟨[.query none, .query none], [], rfl, List.mem_singleton.mpr rfl⟩
  exact ⟨hcompletes, h.2.2.2.2.1, h.2.2.2.2.2, hnotes, h.2.1 0 _ (by rw [hnotes]; simp), rfl⟩

end AlertDesk.PagedList.Session
