import AlertDesk.Proofs.Client.Answer
import AlertDesk.Proofs.Console.Delete

/-!
# AlertDesk.Proofs.Console.Remaining

The count in the last line of a delete.

Once an attempt has gone through, a page is asked for, and the last line takes its
count from the list (`Asking.after_deleted`).  But the list shows the total of the
last page it got: if the page behind the delete cannot be had, the count is that
of the page before the delete, of which nothing in the line tells.

Main fact: `remaining_line` — the count is a count after the delete exactly if
there is a page after it, or was none with a total before it.
-/

namespace AlertDesk.Console

open ListScreen (Session)

/-! ## counts as text -/

/-- A count can be read back from its text. -/
theorem countText_inj {a b : Option UInt64} : countText a = countText b ↔ a = b := by
  have digits (n : UInt64) : (countText (some n)).toList = Nat.toDigits 10 n.toNat :=
    String.toList_ofList
  have unknown (n : UInt64) : countText (some n) ≠ countText none := by
    intro h
    have text : Nat.toDigits 10 n.toNat = ['?'] :=
      (digits n).symm.trans (congrArg String.toList h)
    have mem : '?' ∈ Nat.toDigits 10 n.toNat := text ▸ List.mem_singleton_self '?'
    exact absurd (Nat.isDigit_of_mem_toDigits (by decide) (by decide) mem) (by decide)
  refine ⟨fun h => ?_, congrArg countText⟩
  match a, b with
  | none, none => rfl
  | some n, none => exact absurd h (unknown n)
  | none, some n => exact absurd h.symm (unknown n)
  | some n, some m =>
    have same := congrArg (Nat.ofDigitChars 10 ·.toList 0) h
    simp only [digits, Nat.ofDigitChars_ten_toDigits] at same
    exact congrArg some (UInt64.toNat_inj.mp same)

theorem printed_remaining_inj {kind : Kind} {a b : Option UInt64} :
    printed (remaining kind a) = printed (remaining kind b) ↔ a = b := by
  simp only [printed, remaining, Event.printed.injEq, String.append_left_inj,
    String.append_right_inj, countText_inj]

/-! ## behind an attempt that goes through -/

section

variable {α σ : Type} [Entity α] (answer : (call : Call) → σ → call.Answer × σ)
variable {token : CsrfToken} {id : String}

/-- Where a call stands that is known to be the first one: there, with nothing
called before it, or further behind. -/
theorem place_of_first (p : σ) {asked before after : List Event} {call : Call}
    (quiet : ∀ call, .called call ∉ asked) (later : List Event)
    (h : asked ++ .called call :: later = before ++ .called call :: after) :
    (kept answer p before = p ∧ after = later) ∨
      ∃ before', kept answer p before = kept answer (answer call p).2 before' ∧
        later = before' ++ .called call :: after := by
  induction asked generalizing before with
  | nil =>
    cases before with
    | nil => exact .inl ⟨rfl, (List.cons.inj h).2.symm⟩
    | cons event before' =>
      obtain ⟨rfl, rest⟩ := List.cons.inj h
      exact .inr ⟨before', rfl, rest⟩
  | cons event asked ih =>
    cases before with
    | nil => exact absurd ((List.cons.inj h).1 ▸ List.mem_cons_self) (quiet call)
    | cons event' before' =>
      obtain ⟨rfl, rest⟩ := List.cons.inj h
      have skips : kept answer p (event :: before') = kept answer p before' := by
        cases event with
        | called call => exact absurd List.mem_cons_self (quiet call)
        | _ => rfl
      rw [skips]
      exact ih (fun call hmem => quiet call (.tail _ hmem)) rest

/-- A question is a step of its own, at which nothing is called. -/
theorem consent_asked {kind : Kind} {yes : Bool} {input rest : Input} {said : Answer}
    {asked : List Event} (hc : consent kind id yes input = (said, asked, rest)) :
    stepsOf asked = asked ∧ ∀ call, .called call ∉ asked := by
  cases yes <;> obtain ⟨-, rfl, -⟩ := by simpa [consent] using hc
  · exact ⟨rfl, by simp⟩
  · exact ⟨rfl, by simp⟩

variable {answer}

/-- **An attempt that goes through is the last**: a page is asked for, and the
total that is known then is printed. -/
theorem Asking.after_deleted {kind : Kind} {yes : Bool} {d : Deletion α σ}
    (h : Asking token id d) (same : Entity.kind α = kind) {before after : List Event}
    (steps : (attend (.answering answer) yes d).steps =
      before ++ .called (.delete kind id token) :: after)
    (went : (answer (.delete kind id token) (kept answer d.portal before)).1 = .ok ()) :
    let query := Call.query kind {}
    let p := (answer (.delete kind id token) (kept answer d.portal before)).2
    let run := attend (.answering answer) yes d
    after = [.called query] ∧ run.result = some (.ok ()) ∧
      run.events.getLast? = some (printed (remaining kind
        (Session.totalAfter α d.screen.total (answer query p).1))) := by
  subst same
  cases hc : consent (Entity.kind α) id yes d.input with | mk said more =>
  obtain ⟨asked, rest⟩ := more
  obtain ⟨asks, quiet⟩ := consent_asked hc
  have called : asked ≠ before ++ .called (.delete (Entity.kind α) id token) :: after :=
    fun h => quiet _ (h ▸ List.mem_append_right _ List.mem_cons_self)
  cases said with
  | unreadable =>
    exact absurd (by simpa [h.attend_unreadable hc, Run.steps, Run.failed, asks] using steps) called
  | no =>
    exact absurd (by simpa [h.attend_refused hc, Run.steps, Run.done, asks] using steps) called
  | yes =>
    cases sent : answer (.delete (Entity.kind α) id token) d.portal with | mk result p₁ =>
    cases result with
    | ok =>
      have run := h.attend_deleted hc sent
      obtain ⟨keeps, rfl⟩ | ⟨before', -, later⟩ := place_of_first answer d.portal quiet
        [.called (.query (Entity.kind α) {})]
        (by simpa [run, Run.steps, Run.done, asks] using steps)
      · simp [run, Run.done, keeps, sent]
      · obtain _ | ⟨event, before'⟩ := before' <;> simp at later
    | error e =>
      have elsewhere : kept answer d.portal before ≠ d.portal :=
        fun keeps => by simp [keeps, sent] at went
      cases yes with
      | true =>
        obtain ⟨keeps, -⟩ | ⟨before', -, later⟩ := place_of_first answer d.portal quiet []
          (by simpa [h.attend_given_up hc sent, Run.steps, Run.failed, asks] using steps)
        · exact absurd keeps elsewhere
        · simp at later
      | false =>
        have run := h.attend_failed hc sent
        obtain ⟨keeps, -⟩ | ⟨before', keeps, later⟩ := place_of_first answer d.portal quiet _
          (by simpa [run, asks] using steps)
        · exact absurd keeps elsewhere
        · -- it went through at a later question, which has less input left
          rw [keeps, sent] at went
          obtain ⟨ended, result, last⟩ :=
            Asking.after_deleted (h.failed e rest p₁) rfl later went
          simp only [keeps, sent, run]
          exact ⟨ended, result, by rw [Run.after, List.getLast?_append, last]; rfl⟩
termination_by d.input.length
decreasing_by
  have shorter := (length_consent (Entity.kind α) id false d.input).2 (by rw [hc]) rfl
  simpa [hc, Deletion.failed] using shorter

end

/-! ## the whole delete -/

section

variable {σ : Type} {answer : (call : Call) → σ → call.Answer × σ}
variable {token : CsrfToken} {kind : Kind} {id : String} {p : σ}

/-- The end of a delete with an attempt that went through. -/
theorem delete_after_deleted {yes : Bool} {input : Input} {before after : List Event} {run : Run σ}
    (ran : run = delete (.answering answer) token kind.Record id yes input p)
    (steps : run.steps = before ++ .called (.delete kind id token) :: after)
    (went : (answer (.delete kind id token) (kept answer p before)).1 = .ok ()) :
    let query := Call.query kind {}
    let known := Session.totalAfter kind.Record none (answer query p).1
    let p' := kept answer p (before ++ [.called (.delete kind id token)])
    after = [.called query] ∧ run.result = some (.ok ()) ∧
      run.events.getLast? = some (printed (remaining kind
        (Session.totalAfter kind.Record known (answer query p').1))) := by
  subst ran
  rw [delete_eq_opened] at steps ⊢
  have asking := asking_opened (α := kind.Record) token id input (answer (.query kind {}) p).1
    (answer (.query kind {}) p).2
  rw [steps_after] at steps
  obtain _ | ⟨first, before⟩ := before
  · simp at steps
  · obtain ⟨rfl, later⟩ := List.cons.inj steps
    obtain ⟨ended, result, last⟩ := asking.after_deleted (Kind.Record.kind_eq kind) later went
    rw [total_opened] at last
    refine ⟨ended, result, ?_⟩
    rw [Run.after, List.getLast?_append, last, List.cons_append, kept, kept_append]
    rfl

end

/-- **Which count a delete ends with.**  An attempt whose response says that the
record is gone is the last one; a page is asked for behind it, and the delete
succeeds.  The count in its last line is that of the page, and `?` if the page
gives none; but if there is no page, it is that of the page before the delete.  So
it is a count after the delete exactly if there is a page after it, or no total
was known before. -/
theorem remaining_line (c : Client) (script : Script) (token : CsrfToken) (kind : Kind)
    (id : String) (yes : Bool) (input : Input) (j : Journal) {before after : List Event}
    (steps : (delete (c.portal script) token kind.Record id yes input j).steps =
      before ++ .called (.delete kind id token) :: after)
    (sent : c.CanSend (.delete kind id token))
    (gone : (script (kept (c.answer script) j before).exchanges.length).Succeeds) :
    let run := delete (c.portal script) token kind.Record id yes input j
    let query := Call.query kind {}
    let answered := kept (c.answer script) j (before ++ [.called (.delete kind id token)])
    let response := (c.answer script query answered).1
    let page : Except PortalError (Page kind.Record) := Page.ofAnswer response
    let known := Session.totalAfter kind.Record none (c.answer script query j).1
    let ends := fun total => run.events.getLast? = some (printed (remaining kind total))
    after = [.called query] ∧ run.result = some (.ok ()) ∧
      (∀ shown, page = .ok shown → ends shown.pagination.totalCount) ∧
      (∀ e, page = .error e → ends known) ∧
      (ends (Session.totalAfter kind.Record none response) ↔
        (∃ shown, page = .ok shown) ∨ known = none) := by
  intro run query answered response page known ends
  have went := Client.delete_eq_ok_iff.mpr ⟨sent, gone⟩
  obtain ⟨ended, result, last⟩ := delete_after_deleted rfl steps went
  have last : ends (Session.totalAfter kind.Record known response) := last
  have same {shown printed} (h : ends shown) : ends printed ↔ shown = printed := by
    simp only [ends, h.trans, Option.some.injEq, printed_remaining_inj]
  refine ⟨ended, result, ?_⟩
  obtain ⟨shown, hpage⟩ | ⟨e, hpage⟩ : (∃ shown, page = .ok shown) ∨ ∃ e, page = .error e := by
    cases page <;> simp
  · rw [Session.totalAfter_of_ok hpage] at last ⊢
    refine ⟨fun _ h => ?_, fun _ h => ?_, iff_of_true last (.inl ⟨shown, hpage⟩)⟩
    · obtain rfl := Except.ok.inj (hpage.symm.trans h)
      exact last
    · cases hpage.symm.trans h
  · have none : ¬ ∃ shown, page = .ok shown := fun ⟨_, h⟩ => nomatch hpage.symm.trans h
    rw [Session.totalAfter_of_error hpage] at last ⊢
    exact ⟨fun shown h => absurd ⟨shown, h⟩ none, fun _ _ => last,
      (same last).trans (or_iff_right none).symm⟩

/-- What a delete without questions does, once its attempt goes through. -/
theorem steps_at_once {σ : Type} {answer : (call : Call) → σ → call.Answer × σ} {token : CsrfToken}
    {kind : Kind} {id : String} {input : Input} {p : σ}
    (went : (answer (.delete kind id token) (answer (.query kind {}) p).2).1 = .ok ()) :
    (delete (.answering answer) token kind.Record id true input p).steps =
      [.called (.query kind {}), .called (.delete kind id token), .called (.query kind {})] := by
  obtain ⟨d, asking, -, portal, begun⟩ := delete_eq_attend answer token kind id true input p
  have once := (asking.at_once answer).1
  rw [Kind.Record.kind_eq, portal] at once
  obtain ⟨-, steps, -⟩ | ⟨e, failed, -⟩ := once
  · rw [begun, steps_after, steps]
    rfl
  · cases failed.symm.trans went

/-! ## a desk with one alert less -/

section

variable {script : Script}

/-- A page with a total of five, a delete that goes through, and another page. -/
def replies (page : Outcome) : Script :=
  .ofList [.reply ⟨200, by decide⟩
    (Text.Utf8.bytes "\x7b\"data\":[],\"pagination\":\x7b\"total\":5\x7d\x7d") true,
    .reply ⟨204, by decide⟩ [] true, page]

theorem canSend_desk : Client.desk.CanSend (.delete .alert "a1" ⟨"t"⟩) :=
  ⟨_, Client.sends_iff.mpr ⟨_, _, rfl, rfl, rfl⟩⟩

/-- The first page takes the first outcome, so that the delete gets the second. -/
theorem gone_desk (gone : (script 1).Succeeds) :
    (script (kept (Client.desk.answer script) {}
      [.called (.query .alert {})]).exchanges.length).Succeeds := by
  have sent : Client.desk.Sends (.query .alert {}) _ := Client.sends_iff.mpr ⟨_, _, rfl, rfl, rfl⟩
  have second : (Client.desk.answer script (.query .alert {}) {}).2.exchanges.length = 1 :=
    congrArg List.length (sent script {})
  rw [kept, kept, second]
  exact gone

theorem steps_desk (gone : (script 1).Succeeds) :
    (delete (Client.desk.portal script) ⟨"t"⟩ Kind.alert.Record "a1" true [] {}).steps =
      [.called (.query .alert {}), .called (.delete .alert "a1" ⟨"t"⟩),
        .called (.query .alert {})] :=
  steps_at_once (Client.delete_eq_ok_iff.mpr ⟨canSend_desk, gone_desk gone⟩)

end

/-- A page without a total leaves the count open, whatever was known before. -/
theorem remaining_line_unknown :
    let script := replies (.reply ⟨200, by decide⟩ (Text.Utf8.bytes "\x7b\"data\":[]\x7d") true)
    let run := delete (Client.desk.portal script) ⟨"t"⟩ Kind.alert.Record "a1" true [] {}
    let query := Call.query .alert {}
    let send := Call.delete .alert "a1" ⟨"t"⟩
    run.steps = [.called query] ++ .called send :: [.called query] ∧
      Client.desk.CanSend send ∧
      (script (kept (Client.desk.answer script) {} [.called query]).exchanges.length).Succeeds ∧
      run.events.getLast? = some (printed "-- alerts remaining: ?") := by
  intro script run query send
  have replied : (script 1).Succeeds := ⟨_, _, _, rfl, rfl⟩
  have gone := gone_desk replied
  have steps : run.steps = [.called query] ++ .called send :: [.called query] := steps_desk replied
  obtain ⟨-, -, -, -, counts⟩ :=
    remaining_line Client.desk script ⟨"t"⟩ .alert "a1" true [] {} steps canSend_desk gone
  let response := (Client.desk.answer script query
    (kept (Client.desk.answer script) {} ([.called query] ++ [.called send]))).1
  have page : (Page.ofAnswer response :
      Except PortalError (Page Kind.alert.Record)).isOk = true := by
    decide +kernel
  have unknown : Session.totalAfter Kind.alert.Record none response = none := by
    decide +kernel
  have shown : ∃ shown : Page Kind.alert.Record, Page.ofAnswer response = .ok shown := by
    cases h : (Page.ofAnswer response : Except PortalError (Page Kind.alert.Record)) with
    | ok shown => exact ⟨shown, rfl⟩
    | error e => simp [h, Except.isOk, Except.toBool] at page
  have last := counts.mpr (.inl shown)
  refine ⟨steps, canSend_desk, gone, last.trans ?_⟩
  exact congrArg (fun total => some (printed (remaining .alert total))) unknown

/-- No page behind the delete, and the count of the page before it. -/
theorem remaining_line_stale :
    let script := replies (.reply ⟨500, by decide⟩ [] true)
    let run := delete (Client.desk.portal script) ⟨"t"⟩ Kind.alert.Record "a1" true [] {}
    let query := Call.query .alert {}
    let send := Call.delete .alert "a1" ⟨"t"⟩
    let response := (Client.desk.answer script query
      (kept (Client.desk.answer script) {} [.called query, .called send])).1
    run.steps = [.called query, .called send, .called query] ∧ Client.desk.CanSend send ∧
      (script 1).Succeeds ∧ Session.totalAfter Kind.alert.Record none response = none ∧
      run.events.getLast? = some (printed "-- alerts remaining: 5") := by
  intro script run query send response
  have gone : (script 1).Succeeds := ⟨_, _, _, rfl, rfl⟩
  have went := Client.delete_eq_ok_iff.mpr ⟨canSend_desk, gone_desk gone⟩
  have steps : run.steps = [.called query] ++ .called send :: [.called query] := steps_desk gone
  obtain ⟨-, -, last⟩ := delete_after_deleted rfl steps went
  have known : Session.totalAfter Kind.alert.Record (Session.totalAfter Kind.alert.Record none
      (Client.desk.answer script query {}).1) response = some 5 := by
    decide +kernel
  refine ⟨steps, canSend_desk, gone, by decide +kernel, last.trans ?_⟩
  exact congrArg (fun total => some (printed (remaining .alert total))) known

end AlertDesk.Console
