import AlertDesk.Proofs.PagedList.Run

/-!
# AlertDesk.Proofs.PagedList.Parameters

The parameters with which a list is queried.  A query that is started with
parameters sets them for itself and for those that follow it; one that is
started without goes with what was set last (`standing`).

A history of queries is kept in two lists, in the order of their start: how each
was started, and which parameters it was handed over with.  `Carries` ties both
to what the list shows.  Only the start of a query adds to them, and only the
start of a query changes the parameters that are shown: whatever becomes of a
query, `begin` is the only operation that `Carries` has to know of.

Main facts:

* `standing_concat` — what one query more does to the standing parameters;
* `Carries.began`, `Carries.keep` — a list goes on carrying its history;
* `carries_run` — it does so in every run.
-/

namespace AlertDesk

/-- The parameters in force after queries that were started with the given ones:
those of the last query that was given any, the default if none was. -/
def standing (asked : List (Option ListQuery)) : ListQuery :=
  (asked.filterMap id).getLast?.getD {}

@[simp] theorem standing_nil : standing [] = {} := rfl

@[simp] theorem standing_concat (asked : List (Option ListQuery)) (params : Option ListQuery) :
    standing (asked ++ [params]) = params.getD (standing asked) := by
  cases params <;> simp [standing]

variable {α : Type}

/-- How a list agrees with the history of its queries: how they were started,
and with which parameters they were handed over. -/
structure ListView.Carries (v : ListView α) (asked : List (Option ListQuery))
    (handed : List ListQuery) : Prop where
  /-- Every query that was started was handed over. -/
  length_eq : handed.length = asked.length
  /-- Each with the parameters in force at its start. -/
  handed_eq : ∀ k q, handed[k]? = some q → q = standing (asked.take (k + 1))
  query_eq : v.query = standing asked

namespace ListView

variable {v v' : ListView α} {asked : List (Option ListQuery)} {handed : List ListQuery}

theorem carries_nil : ({} : ListView α).Carries [] [] where
  length_eq := rfl
  handed_eq := by simp
  query_eq := rfl

/-- Nothing is started, and no other parameters are shown. -/
theorem Carries.keep {more : List (Option ListQuery)} {new : List ListQuery}
    (h : v.Carries asked handed) (hquery : v'.query = v.query) (hmore : more = [])
    (hnew : new = []) : v'.Carries (asked ++ more) (handed ++ new) where
  length_eq := by rw [hmore, hnew, List.append_nil, List.append_nil, h.length_eq]
  handed_eq := by
    rw [hmore, hnew, List.append_nil, List.append_nil]
    exact h.handed_eq
  query_eq := by rw [hmore, List.append_nil, hquery, h.query_eq]

/-- A query is started, with new parameters or those in force. -/
theorem Carries.began (params : Option ListQuery) (h : v.Carries asked handed)
    (hquery : v'.query = params.getD v.query) :
    v'.Carries (asked ++ [params]) (handed ++ [params.getD v.query]) where
  length_eq := by simp [h.length_eq]
  handed_eq := by
    intro k q hq
    by_cases hk : k < handed.length
    · rw [List.getElem?_append_left hk] at hq
      have hle : k + 1 ≤ asked.length := h.length_eq ▸ hk
      rw [List.take_append_of_le_length hle]
      exact h.handed_eq k q hq
    · obtain ⟨hlen, -⟩ := List.getElem?_eq_some_iff.mp hq
      obtain rfl : k = handed.length := by
        simp at hlen
        omega
      have hall : (asked ++ [params]).length ≤ handed.length + 1 := by simp [h.length_eq]
      rw [List.take_of_length_le hall, standing_concat, ← h.query_eq]
      simpa [eq_comm] using hq
  query_eq := by rw [hquery, standing_concat, h.query_eq]

/-- The parameters that are shown are those of the query that was handed over last. -/
theorem Carries.query_eq_last (h : v.Carries asked handed) : v.query = handed.getLast?.getD {} := by
  have hshown := h.query_eq
  rw [List.getLast?_eq_getElem?]
  by_cases hempty : handed = []
  · obtain rfl : asked = [] := List.length_eq_zero_iff.mp (by rw [← h.length_eq, hempty]; rfl)
    rw [hshown, hempty]
    rfl
  · have hpos : 0 < handed.length := List.length_pos_iff.mpr hempty
    have hlast := List.getElem?_eq_getElem (l := handed) (i := handed.length - 1) (by omega)
    have hall : asked.length ≤ handed.length - 1 + 1 := by
      rw [h.length_eq] at hpos ⊢
      omega
    have hq := h.handed_eq _ _ hlast
    rw [List.take_of_length_le hall] at hq
    rw [hshown, hlast, hq]
    rfl

end ListView

namespace PagedList

/-- How the query is started that an event starts. -/
def Event.asked? : Event α → Option (Option ListQuery)
  | .query params => some params
  | .answer .. | .drop _ => none

namespace Session

variable {s s' : Session α} {e : Event α} {notes : List Note}

/-- Every event leaves the list carrying its history. -/
theorem Transition.carries (t : Transition s e s' notes) {asked : List (Option ListQuery)}
    {handed : List ListQuery} (h : s.list.view.Carries asked handed) :
    s'.list.view.Carries (asked ++ e.asked?.toList) (handed ++ notes.filterMap Note.call?) := by
  cases t with
  | started params => exact h.began params rfl
  | overtaken fetch answer waits newer => exact h.keep rfl rfl rfl
  | settled fetch answer waits newest => exact h.keep (query_settle ..) rfl rfl
  | stray number answer unknown => exact h.keep rfl rfl rfl
  | dropped number => exact h.keep rfl rfl rfl

/-- **A list carries the history of its queries**, whatever becomes of them. -/
theorem carries_run (s : Session α) (es : List (Event α)) {asked : List (Option ListQuery)}
    {handed : List ListQuery} (h : s.list.view.Carries asked handed) :
    (s.run es).1.list.view.Carries (asked ++ es.filterMap Event.asked?)
      (handed ++ (s.run es).2.filterMap Note.call?) := by
  induction es generalizing s asked handed with
  | nil => simpa using h
  | cons e es ih =>
      have hstep := (transition s e).carries h
      have hrest := ih _ hstep
      have hmore : (e :: es).filterMap Event.asked? =
          e.asked?.toList ++ es.filterMap Event.asked? := by
        cases hasked : e.asked? <;> simp [hasked]
      rw [run_cons, hmore, List.filterMap_append, ← List.append_assoc, ← List.append_assoc]
      exact hrest

end Session

end PagedList

end AlertDesk
