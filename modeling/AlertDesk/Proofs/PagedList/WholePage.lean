import AlertDesk.Proofs.Chain
import AlertDesk.Proofs.PagedList.Loading
import AlertDesk.Record.OfKind

/-!
# AlertDesk.Proofs.PagedList.WholePage

A page is read as a whole.  Of the raw records in a response either all are
read, each in its place, or none is, and the first that cannot be read is what
is wrong with the response.

A list takes the answer to its newest query as a whole too.  Behind that answer
nothing waits with the newest ticket, so nothing happens to the list until
another query is started (`list_run_of_overtaken`): what it showed in front of
the answer and what came with the answer tell what it shows from then on.

Main facts:

* `Page.ofAnswer_eq_ok_iff`, `Page.ofAnswer_eq_error_iff` — which page is read
  from a response, and why none is;
* `list_of_latest_answer` — what the newest answer makes of a list stays;
* `page_all_or_nothing` — the whole page in order, or what was there before.
-/

namespace AlertDesk

/-! ## reading a page -/

namespace Page

variable {α : Type} [Entity α] {r : QueryResponse} {page : Page α} {e : PortalError}

/-- The page of a response has what is read from each raw record, in order. -/
theorem ofAnswer_eq_ok_iff : ofAnswer (.ok r) = .ok page ↔
    r.data.map Entity.decode = page.items.map .ok ∧ page.pagination = r.pagination := by
  change r.data.mapM Entity.decode >>= _ = _ ↔ _
  rw [bind_eq_ok_iff]
  constructor
  · rintro ⟨items, hitems, hpage⟩
    obtain rfl := Except.ok.inj hpage
    exact ⟨mapM_eq_ok_iff.mp hitems, rfl⟩
  · rintro ⟨hitems, hpagination⟩
    exact ⟨page.items, mapM_eq_ok_iff.mpr hitems, by rw [← hpagination]; rfl⟩

/-- A response has no page because of the first raw record that cannot be read. -/
theorem ofAnswer_eq_error_iff : ofAnswer (α := α) (.ok r) = .error e ↔
    ∃ before v after, r.data = before ++ v :: after ∧
      (∀ w ∈ before, ∃ record : α, Entity.decode w = .ok record) ∧
      Entity.decode (α := α) v = .error e := by
  change r.data.mapM Entity.decode >>= _ = _ ↔ _
  rw [bind_eq_error_iff, ← mapM_eq_error_iff]
  refine or_iff_left ?_
  rintro ⟨items, -, hpage⟩
  contradiction

/-- A response has a page if every raw record can be read. -/
theorem exists_ofAnswer_iff : (∃ page : Page α, ofAnswer (.ok r) = .ok page) ↔
    ∀ v ∈ r.data, ∃ record : α, Entity.decode v = .ok record := by
  rw [← exists_mapM_eq_ok_iff]
  constructor
  · rintro ⟨page, hpage⟩
    exact ⟨page.items, mapM_eq_ok_iff.mpr (ofAnswer_eq_ok_iff.mp hpage).1⟩
  · rintro ⟨items, hitems⟩
    exact ⟨⟨items, r.pagination⟩, ofAnswer_eq_ok_iff.mpr ⟨mapM_eq_ok_iff.mp hitems, rfl⟩⟩

end Page

/-! ## behind the newest answer -/

namespace PagedList

variable {α : Type}

/-- The answer to the newest query is shown as a whole: the page in place of what
was shown, or the failure beside it. -/
theorem settle_whole {l : PagedList α} {ticket : Nat} (h : l.issued = ticket)
    (answer : Except PortalError (Page α)) :
    let v := (l.settle ticket answer).1.view
    v.loading = false ∧
      ((∃ page, answer = .ok page ∧ v.items = page.items ∧ v.pagination = page.pagination ∧
          v.error = none) ∨
        ∃ e, answer = .error e ∧ v.items = l.view.items ∧ v.pagination = l.view.pagination ∧
          v.error = some e) := by
  intro v
  obtain ⟨-, hloading, hshows⟩ := settle_newest h answer
  refine ⟨hloading, ?_⟩
  cases answer with
  | ok page => exact .inl ⟨page, rfl, hshows⟩
  | error e =>
      obtain ⟨hitems, hpagination⟩ := settle_error h e
      exact .inr ⟨e, rfl, hitems, hpagination, hshows⟩

namespace Session

variable {s s' : Session α} {e : Event α} {notes : List Note}

/-- What waits with an older ticket does nothing to a list. -/
theorem Transition.list_of_overtaken (t : Transition s e s' notes)
    (hold : ∀ f ∈ s.waiting, f.ticket ≠ s.list.issued) (he : e.isQuery = false) :
    s'.list = s.list ∧ s'.waiting ⊆ s.waiting := by
  cases t with
  | started params => contradiction
  | overtaken f answer waits newer => exact ⟨rfl, List.filter_sublist.subset⟩
  | settled f answer waits newest => exact absurd newest.symm (hold f (mem_of_find? waits).1)
  | stray m answer unknown => exact ⟨rfl, List.Subset.refl _⟩
  | dropped m => exact ⟨rfl, List.filter_sublist.subset⟩

/-- A list for whose newest query nobody waits stays as it is until another
query is started. -/
theorem list_run_of_overtaken {es : List (Event α)}
    (hold : ∀ f ∈ s.waiting, f.ticket ≠ s.list.issued) (hes : es.countP Event.isQuery = 0) :
    (s.run es).1.list = s.list := by
  induction es generalizing s with
  | nil => rfl
  | cons e es ih =>
      have hnone := List.countP_eq_zero.mp hes
      have he : e.isQuery = false := by simpa using hnone e List.mem_cons_self
      have hrest : es.countP Event.isQuery = 0 :=
        List.countP_eq_zero.mpr fun e' he' => hnone e' (List.mem_cons_of_mem e he')
      obtain ⟨hlist, hwaiting⟩ := (transition s e).list_of_overtaken hold he
      rw [run_cons, ← hlist]
      exact ih (fun f hf => hlist ▸ hold f (hwaiting hf)) hrest

/-- **What the newest answer makes of a list stays**, whatever comes behind it,
if the query that is answered is the one that is started last. -/
theorem list_of_latest_answer {earlier later : List (Event α)} {n : Nat}
    {answer : Except PortalError (Page α)} (hwaits : (({} : Session α).run earlier).1.Outstanding n)
    (hlast : (({} : Session α).run (earlier ++ .answer n answer :: later)).1.started = n + 1) :
    let list := (({} : Session α).run earlier).1.list
    list.issued = n + 1 ∧
      (({} : Session α).run (earlier ++ .answer n answer :: later)).1.list =
        (list.settle (n + 1) answer).1 := by
  intro list
  have told := told_run earlier
  obtain ⟨f, hf, rfl⟩ := hwaits
  -- the query was started in `earlier` and is the last, so `later` starts none
  have hstarted := told.number_lt f hf
  rw [started_run] at hlast hstarted
  rw [List.countP_append, List.countP_cons_of_neg (by simp [Event.isQuery])] at hlast
  have hnone : later.countP Event.isQuery = 0 := by omega
  have hissued : list.issued = f.number + 1 := by
    rw [told.issued_eq, started_run]
    omega
  have hticket := told.ticket_eq f hf
  rw [run_append, run_cons, list_run_of_overtaken _ hnone]
  · refine ⟨hissued, ?_⟩
    simp only [step, told.find?_eq hf, hticket]
    rfl
  · intro g hg
    rw [step, told.find?_eq hf] at hg ⊢
    obtain ⟨hmem, hother⟩ := List.mem_filter.mp hg
    have hg' := told.ticket_eq g hmem
    rw [issued_settle, hg', hissued]
    simpa using hother

/-! ## the whole page, or none of it -/

/-- **A page is shown as a whole or not at all.**  The portal's failure to answer
is handed on.  A response gives a page if and only if every raw record can be
read; then each stands in its place, with the pagination of the response.
Otherwise the first raw record that cannot be read is what is wrong.

So once the query that was started last is answered, a list either shows every
record of the response in order, or what it showed before with the error beside
it; and it goes on to, until another query is started. -/
theorem page_all_or_nothing (k : Kind) :
    (∀ e, Page.ofAnswer (α := k.Record) (.error e) = .error e) ∧
    (∀ r : QueryResponse,
      ((∃ page : Page k.Record, Page.ofAnswer (.ok r) = .ok page) ↔
        ∀ v ∈ r.data, ∃ record : k.Record, Entity.decode v = .ok record) ∧
      (∀ page : Page k.Record, Page.ofAnswer (.ok r) = .ok page ↔
        page.items.length = r.data.length ∧
          (∀ i (h : i < r.data.length) (h' : i < page.items.length),
            Entity.decode r.data[i] = .ok page.items[i]) ∧
          page.pagination = r.pagination) ∧
      ∀ e, Page.ofAnswer (α := k.Record) (.ok r) = .error e ↔
        ∃ before v after, r.data = before ++ v :: after ∧
          (∀ w ∈ before, ∃ record : k.Record, Entity.decode w = .ok record) ∧
          Entity.decode (α := k.Record) v = .error e) ∧
    ∀ (earlier later : List (Event k.Record)) (n : Nat) (answer : Except PortalError QueryResponse),
      let previous := (({} : Session k.Record).run earlier).1
      let s := (({} : Session k.Record).run
        (earlier ++ .answer n (Page.ofAnswer answer) :: later)).1
      previous.Outstanding n → s.started = n + 1 → s.list.view.loading = false ∧
        ((∃ r, answer = .ok r ∧ r.data.map Entity.decode = s.list.view.items.map .ok ∧
            s.list.view.pagination = r.pagination ∧ s.list.view.error = none) ∨
          ∃ e, Page.ofAnswer (α := k.Record) answer = .error e ∧
            s.list.view.items = previous.list.view.items ∧
            s.list.view.pagination = previous.list.view.pagination ∧
            s.list.view.error = some e) := by
  refine ⟨fun e => rfl, fun r => ⟨Page.exists_ofAnswer_iff, fun page => ?_, fun e =>
    Page.ofAnswer_eq_error_iff⟩, ?_⟩
  · have hlength : page.items.length = r.data.length ↔ r.data.length = page.items.length := eq_comm
    rw [Page.ofAnswer_eq_ok_iff, List.ext_getElem_iff, and_assoc, hlength]
    simp only [List.length_map, List.getElem_map]
  · intro earlier later n answer previous s hwaits hlast
    obtain ⟨hissued, hlist⟩ := list_of_latest_answer hwaits hlast
    obtain ⟨hloading, hview⟩ := settle_whole hissued (Page.ofAnswer answer)
    rw [← hlist] at hloading hview
    refine ⟨hloading, ?_⟩
    obtain ⟨page, hpage, hitems, hpagination, herror⟩ | hfailed := hview
    · cases answer with
      | error e => contradiction
      | ok r =>
          obtain ⟨hdata, hresponse⟩ := Page.ofAnswer_eq_ok_iff.mp hpage
          rw [← hitems] at hdata
          exact .inl ⟨r, rfl, hdata, hpagination.trans hresponse, herror⟩
    · exact .inr hfailed

/-- The second of three groups notifies by fax and the third has no identifier:
the first of the two is flagged, none of the three is shown, and the group that
was shown before still is, whatever comes for an older query. -/
theorem page_all_or_nothing_fax :
    let shown : Kind.notificationGroup.Record := NotificationGroup.mk "g0" "on call" [.email "a@x"]
    let fax : Json := .obj [("address", .str "123"), ("type", .str "fax")]
    let whole : QueryResponse := { data := [Entity.encode shown] }
    let spoilt : QueryResponse := { data := [
      .obj [("id", .str "g1")], .obj [("id", .str "g2"), ("recipients", .arr [fax])], .obj []] }
    let earlier : List (Event Kind.notificationGroup.Record) :=
      [.query none, .answer 0 (Page.ofAnswer (.ok whole)), .query none, .query none]
    let later : List (Event Kind.notificationGroup.Record) :=
      [.answer 1 (Page.ofAnswer (.ok { whole with data := [] })), .drop 2]
    let s := (({} : Session Kind.notificationGroup.Record).run
      (earlier ++ .answer 2 (Page.ofAnswer (.ok spoilt)) :: later)).1
    (({} : Session Kind.notificationGroup.Record).run earlier).1.Outstanding 2 ∧
      s.started = 2 + 1 ∧ s.list.view.items = [shown] ∧
      s.list.view.error = some (.unrecognizedVariant "fax") := by
  intro shown fax whole spoilt earlier later s
  have hwaits : (({} : Session Kind.notificationGroup.Record).run earlier).1.Outstanding 2 :=
    ⟨⟨2, 3⟩, .tail _ (.head _), rfl⟩
  have hlast : s.started = 2 + 1 := rfl
  have hspoilt : Page.ofAnswer (α := Kind.notificationGroup.Record) (.ok spoilt) =
      .error (.unrecognizedVariant "fax") := rfl
  obtain ⟨-, hwhole | ⟨e, he, hitems, -, herror⟩⟩ :=
    (page_all_or_nothing .notificationGroup).2.2 earlier later 2 (.ok spoilt) hwaits hlast
  · obtain ⟨r, hr, hdata, -⟩ := hwhole
    obtain rfl := Except.ok.inj hr
    have hpage : Page.ofAnswer (.ok spoilt) = .ok ⟨s.list.view.items, spoilt.pagination⟩ :=
      Page.ofAnswer_eq_ok_iff.mpr ⟨hdata, rfl⟩
    rw [hspoilt] at hpage
    contradiction
  · obtain rfl : .unrecognizedVariant "fax" = e := Except.error.inj (hspoilt.symm.trans he)
    exact ⟨hwaits, hlast, hitems, herror⟩

end Session

end PagedList

end AlertDesk
