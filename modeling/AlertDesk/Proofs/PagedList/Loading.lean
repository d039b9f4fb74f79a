import AlertDesk.Proofs.PagedList.LatestWins

/-!
# AlertDesk.Proofs.PagedList.Loading

What a list shows agrees with what it says it shows.  A list says that it is
loading from the start of a query until that query comes to its end, unless
another is started behind it; a query that is given up comes to no end, so that
the list goes on loading.  Otherwise what is shown came of the very query whose
parameters are shown, its page or its failure.

`Agrees` is the invariant: it is about the query started last, and is kept by
every transition.

Main facts:

* `fate` — a query that has not come to its end waits, or was given up;
* `shown_for_query` — when a list is loading, and what it shows when it is not.
-/

namespace AlertDesk.PagedList.Session

variable {α : Type}

/-! ## what becomes of a query -/

/-- The query with the number is waiting for its answer. -/
def Outstanding (s : Session α) (number : Nat) : Prop := ∃ f ∈ s.waiting, f.number = number

/-- In the run of the events the query with the number was given up while it
was waiting. -/
def GivenUp (es : List (Event α)) (number : Nat) : Prop :=
  ∃ before after, es = before ++ .drop number :: after ∧
    (({} : Session α).run before).1.Outstanding number

/-- In the run of the events the query with the number came to its end. -/
def Completed (es : List (Event α)) (number : Nat) : Prop :=
  ∃ answer outcome, Completes es number answer outcome

variable {s s' : Session α} {es : List (Event α)} {e : Event α} {notes new : List Note} {n : Nat}

theorem not_givenUp_nil : ¬ GivenUp ([] : List (Event α)) n := by
  rintro ⟨before, after, h, -⟩
  simp at h

theorem givenUp_concat : GivenUp (es ++ [e]) n ↔
    GivenUp es n ∨ (e = .drop n ∧ (({} : Session α).run es).1.Outstanding n) :=
  split_concat_iff

theorem completed_concat : Completed (es ++ [e]) n ↔ Completed es n ∨
    ∃ answer outcome, e = .answer n answer ∧
      .finished n outcome ∈ ((({} : Session α).run es).1.step e).2 := by
  simp only [Completed, completes_concat, exists_or]

/-- What waits came out of a list from which a query was taken. -/
theorem outstanding_forget {m : Nat} : (s.forget m).Outstanding n ↔ s.Outstanding n ∧ n ≠ m := by
  constructor
  · rintro ⟨f, hf, rfl⟩
    obtain ⟨hmem, hne⟩ := List.mem_filter.mp hf
    exact ⟨⟨f, hmem, rfl⟩, by simpa using hne⟩
  · rintro ⟨⟨f, hf, rfl⟩, hne⟩
    exact ⟨f, List.mem_filter.mpr ⟨hf, by simpa using hne⟩, rfl⟩

/-- What becomes of a query: it waits, or was given up, or came to its end, and
is in no two of these states. -/
structure Fates (s : Session α) (es : List (Event α)) : Prop where
  known : ∀ n, n < s.started → s.Outstanding n ∨ GivenUp es n ∨ Completed es n
  started : ∀ n, GivenUp es n → n < s.started
  gone : ∀ n, GivenUp es n → ¬ s.Outstanding n ∧ ¬ Completed es n

/-- A query that waited has come to its end. -/
theorem Fates.ended (h : Fates s es) {es' : List (Event α)} {m : Nat} (hm : s.Outstanding m)
    (hstarted : s'.started = s.started)
    (hout : ∀ n, s'.Outstanding n ↔ s.Outstanding n ∧ n ≠ m)
    (hg : ∀ n, GivenUp es' n ↔ GivenUp es n)
    (hc : ∀ n, Completed es' n ↔ Completed es n ∨ n = m) : Fates s' es' := by
  obtain ⟨known, started, gone⟩ := h
  constructor <;> grind

theorem Fates.step (h : Fates s es) (told : Told s es) (t : Transition s e s' new)
    {es' : List (Event α)}
    (hg : ∀ n, GivenUp es' n ↔ GivenUp es n ∨ (e = .drop n ∧ s.Outstanding n))
    (hc : ∀ n, Completed es' n ↔ Completed es n ∨
      ∃ answer outcome, e = .answer n answer ∧ .finished n outcome ∈ new) : Fates s' es' := by
  have hopen : ∀ n, s.Outstanding n → n < s.started ∧ ¬ Completed es n := by
    rintro n ⟨f, hf, rfl⟩
    exact ⟨told.number_lt f hf, fun ⟨answer, outcome, hend⟩ => told.waiting_open f hf _ _ hend⟩
  cases t with
  | started params =>
      obtain ⟨known, started, gone⟩ := h
      have hout : ∀ n, Outstanding { list := s.list.begin params
                                     waiting := s.waiting ++ [⟨s.started, s.list.issued + 1⟩]
                                     started := s.started + 1 } n ↔
          s.Outstanding n ∨ n = s.started := by
        simp [Outstanding, or_and_right, exists_or, eq_comm]
      simp only [reduceCtorEq, false_and, or_false, exists_false] at hg hc
      constructor <;> grind
  | overtaken f answer waits newer =>
      exact h.ended ⟨f, (mem_of_find? waits).1, rfl⟩ rfl (fun n => outstanding_forget)
        (fun n => by simp [hg]) fun n => by simp [hc, eq_comm]
  | settled f answer waits newest =>
      exact h.ended ⟨f, (mem_of_find? waits).1, rfl⟩ rfl (fun n => outstanding_forget)
        (fun n => by simp [hg]) fun n => by simp [hc, eq_comm]
  | stray m answer unknown =>
      obtain ⟨known, started, gone⟩ := h
      simp only [reduceCtorEq, false_and, or_false, exists_false, List.not_mem_nil, and_false]
        at hg hc
      constructor <;> grind
  | dropped m =>
      obtain ⟨known, started, gone⟩ := h
      have hstarted : (s.forget m).started = s.started := rfl
      simp only [Event.drop.injEq, reduceCtorEq, false_and, or_false, exists_false] at hg hc
      constructor <;> grind [outstanding_forget]

theorem fates_run (es : List (Event α)) : Fates (({} : Session α).run es).1 es := by
  induction es using List.reverseRecOn with
  | nil => exact ⟨by simp, fun _ h => absurd h not_givenUp_nil, fun _ h => absurd h not_givenUp_nil⟩
  | append_singleton es e ih =>
      rw [run_concat]
      exact ih.step (told_run es) (transition _ e) (fun n => givenUp_concat)
        fun n => completed_concat

/-- **A query that has not come to its end waits, or was given up.** -/
theorem fate (h : n < (({} : Session α).run es).1.started) :
    ¬ Completed es n ↔ (({} : Session α).run es).1.Outstanding n ∨ GivenUp es n := by
  have hfates := fates_run es
  constructor
  · intro hopen
    obtain hwaits | hgiven | hend := hfates.known n h
    · exact .inl hwaits
    · exact .inr hgiven
    · exact absurd hend hopen
  · rintro (⟨f, hf, rfl⟩ | hgiven) hend
    · obtain ⟨answer, outcome, hcompletes⟩ := hend
      exact (told_run es).waiting_open f hf answer outcome hcompletes
    · exact (hfates.gone n hgiven).2 hend

/-! ## the query started last -/

/-- The numbers of queries count them. -/
theorem started_run (es : List (Event α)) :
    (({} : Session α).run es).1.started = es.countP Event.isQuery := by
  rw [← (told_run es).issued_eq, issued_run]
  exact Nat.zero_add _

/-- What a session shows agrees with the query that was started last: it is
loading while that has not come to its end, its parameters are those with which
the page was asked for, and what came of it is shown. -/
structure Agrees (s : Session α) (notes : List Note) (es : List (Event α)) : Prop where
  loading_iff : s.list.view.loading = true ↔ ∃ n, s.started = n + 1 ∧ ¬ Completed es n
  called_lt : ∀ {n q}, .called n q ∈ notes → n < s.started
  called_iff : ∀ {n q}, s.started = n + 1 → (.called n q ∈ notes ↔ q = s.list.view.query)
  shows : ∀ {n}, s.started = n + 1 → s.list.view.loading = false →
    ∃ answer, Completes es n answer (Settled.ofAnswer answer) ∧ s.list.view.Shows answer

theorem agrees_nil : Agrees ({} : Session α) [] [] where
  loading_iff := by simp
  called_lt := by simp
  called_iff := by simp
  shows := by simp

/-- Nothing has happened to the list, nor to the query that was started last. -/
theorem Agrees.keep (h : Agrees s notes es) {es' : List (Event α)} (hlist : s'.list = s.list)
    (hstarted : s'.started = s.started) (hnew : ∀ n q, .called n q ∉ new)
    (hc : ∀ n, s.started = n + 1 → ∀ answer outcome,
      Completes es' n answer outcome ↔ Completes es n answer outcome) :
    Agrees s' (notes ++ new) es' where
  loading_iff := by
    rw [hlist, hstarted, h.loading_iff]
    refine exists_congr fun n => and_congr_right fun hn => not_congr ?_
    simp only [Completed, hc n hn]
  called_lt := by
    intro n q hmem
    rw [hstarted]
    exact h.called_lt ((List.mem_append.mp hmem).resolve_right (hnew n q))
  called_iff := by
    intro n q hn
    rw [hlist, List.mem_append, or_iff_left (hnew n q)]
    exact h.called_iff (hstarted ▸ hn)
  shows := by
    intro n hn hloading
    rw [hstarted] at hn
    rw [hlist] at hloading ⊢
    obtain ⟨answer, hend, hshows⟩ := h.shows hn hloading
    exact ⟨answer, (hc n hn _ _).mpr hend, hshows⟩

theorem Agrees.step (h : Agrees s notes es) (told : Told s es) (t : Transition s e s' new)
    {es' : List (Event α)}
    (hc : ∀ n answer outcome, Completes es' n answer outcome ↔ Completes es n answer outcome ∨
      (e = .answer n answer ∧ .finished n outcome ∈ new)) : Agrees s' (notes ++ new) es' := by
  cases t with
  | started params =>
      have hopen : ¬ Completed es' s.started := by
        rintro ⟨answer, outcome, hend⟩
        have hold : Completes es s.started answer outcome := by simpa using (hc ..).mp hend
        exact Nat.lt_irrefl _ (told.completes_lt hold)
      constructor
      · exact iff_of_true rfl ⟨s.started, rfl, hopen⟩
      · intro n q hmem
        obtain hold | hnew := List.mem_append.mp hmem
        · exact Nat.lt_succ_of_lt (h.called_lt hold)
        · obtain ⟨rfl, -⟩ : n = s.started ∧ _ := by simpa using hnew
          exact Nat.lt_succ_self _
      · intro n q hn
        obtain rfl : s.started = n := Nat.succ.inj hn
        have hold : .called s.started q ∉ notes := fun hmem =>
          Nat.lt_irrefl _ (h.called_lt hmem)
        simp [hold]
      · intro n _ hloading
        contradiction
  | overtaken f answer waits newer =>
      refine h.keep rfl rfl (by simp) fun n hn a o => ?_
      have hother : f.number ≠ n := by
        rintro rfl
        exact newer (by rw [told.issued_eq, hn, told.ticket_eq f (mem_of_find? waits).1])
      simp [hc, hother]
  | settled f answer waits newest =>
      have hlast : s.started = f.number + 1 := by
        rw [← told.issued_eq, newest, told.ticket_eq f (mem_of_find? waits).1]
      have hend : Completes es' f.number answer (Settled.ofAnswer answer) :=
        (hc ..).mpr (.inr ⟨rfl, List.mem_singleton.mpr rfl⟩)
      obtain ⟨-, hloading, hshows⟩ := settle_newest newest answer
      constructor
      · refine iff_of_false (by simp [hloading]) ?_
        rintro ⟨n, hn, hopen⟩
        obtain rfl : f.number = n := Nat.succ.inj (hlast.symm.trans hn)
        exact hopen ⟨_, _, hend⟩
      · intro n q hmem
        exact h.called_lt (by simpa using hmem)
      · intro n q hn
        simpa using h.called_iff (q := q) hn
      · intro n hn _
        obtain rfl : f.number = n := Nat.succ.inj (hlast.symm.trans hn)
        exact ⟨answer, hend, hshows⟩
  | stray m answer unknown => exact h.keep rfl rfl (by simp) fun n _ a o => by simp [hc]
  | dropped m => exact h.keep rfl rfl (by simp) fun n _ a o => by simp [hc]

theorem agrees_run (es : List (Event α)) :
    Agrees (({} : Session α).run es).1 (({} : Session α).run es).2 es := by
  induction es using List.reverseRecOn with
  | nil => exact agrees_nil
  | append_singleton es e ih =>
      have hnotes : (({} : Session α).run (es ++ [e])).2 =
          (({} : Session α).run es).2 ++ ((({} : Session α).run es).1.step e).2 := by
        simp [run_append, run_cons]
      rw [run_concat, hnotes]
      exact ih.step (told_run es) (transition _ e) fun n a o => completes_concat

/-- **What a list shows is what it says it shows.**  Let `n` be the number of the
query started last.  The list is loading as long as that has not come to its
end, that is, while it waits or if it was given up.  When the list is not
loading, the page was asked for with exactly the parameters that are shown, and
the list shows what came of that: the page without an error, or the failure. -/
theorem shown_for_query (es : List (Event α)) :
    let s := (({} : Session α).run es).1
    let notes := (({} : Session α).run es).2
    s.started = es.countP Event.isQuery ∧
    (s.list.view.loading = true ↔ ∃ n, s.started = n + 1 ∧ ¬ Completed es n) ∧
    ∀ n, s.started = n + 1 →
      (¬ Completed es n ↔ s.Outstanding n ∨ GivenUp es n) ∧
      (s.list.view.loading = false →
        (∀ q, .called n q ∈ notes ↔ q = s.list.view.query) ∧
        ∃ answer, Completes es n answer (Settled.ofAnswer answer) ∧
          s.list.view.Shows answer) := by
  intro s notes
  have hagrees : Agrees s notes es := agrees_run es
  refine ⟨started_run es, hagrees.loading_iff, fun n hn => ⟨fate ?_, fun hloading => ?_⟩⟩
  · exact hn ▸ Nat.lt_succ_self n
  · exact ⟨fun q => hagrees.called_iff hn, hagrees.shows hn hloading⟩

/-- The page that comes for the older of two queries is not shown, the failure of
the newer one is, and with it the parameters of the newer one. -/
theorem shown_for_query_failed :
    let second : ListQuery := .ofPage 2
    let page : Page Alert := { items := [{ id := "old" }], pagination := {} }
    let es : List (Event Alert) := [.query none, .query (some second), .answer 0 (.ok page),
      .answer 1 (.error (.network "timed out"))]
    let s := (({} : Session Alert).run es).1
    s.started = 1 + 1 ∧ s.list.view.loading = false ∧ s.list.view.query = second ∧
      .called 1 second ∈ (({} : Session Alert).run es).2 ∧
      ∃ answer, Completes es 1 answer (Settled.ofAnswer answer) ∧ s.list.view.Shows answer := by
  intro second page es s
  have hstarted : s.started = 1 + 1 := rfl
  have hquery : s.list.view.query = second := rfl
  obtain ⟨hcalled, hshown⟩ := ((shown_for_query es).2.2 1 hstarted).2 rfl
  exact ⟨hstarted, rfl, hquery, (hcalled second).mpr hquery.symm, hshown⟩

/-- The newest of two queries is given up: the page that comes for the older one
is not shown, and the list goes on loading. -/
example :
    let page : Page Alert := { items := [{ id := "old" }], pagination := {} }
    let s := (({} : Session Alert).run [.query none, .query none, .drop 1, .answer 0 (.ok page)]).1
    s.list.view.loading = true ∧ s.list.view.items = [] := ⟨rfl, rfl⟩

end AlertDesk.PagedList.Session
