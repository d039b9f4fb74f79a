import AlertDesk.Proofs.EditForm.Course
import AlertDesk.Proofs.Record.Identifier
import AlertDesk.Reply

/-!
# AlertDesk.Proofs.EditForm.InputKept

A save loses nothing that was entered.  It asks the portal at most once, with
the record as it stands in the form, and however that ends, whether the portal
accepts the record, refuses it or never answers, the record stays in the form.
So a save that went wrong can be made again: it hands over the same record.

Main facts:

* `calls_of_saves` — saving again and again hands over the same record;
* `save_keeps_input` — every way in which a save can end.
-/

namespace AlertDesk.EditForm

variable {σ : Type}

/-- However often a form is saved, and whatever comes of it, the record stays in
the form and is handed over every time. -/
theorem calls_of_saves {α : Type} [Entity α] (portal : Portal σ) (token : CsrfToken)
    (f : EditForm α) (p : σ) (n : Nat) :
    ∀ t ∈ turns portal token f p (List.replicate n .save), t.form.record = f.record ∧
      t.calls = if Entity.id f.record = "" then []
        else [.upsert (Entity.kind α) (Entity.encode f.record) token] := by
  induction n generalizing f p with
  | zero => simp [turns]
  | succ n ih =>
      have hrecord : (f.act portal token p .save).form.record = f.record :=
        record_save portal token f p
      intro t ht
      obtain rfl | ht := List.mem_cons.mp ht
      · exact ⟨hrecord, calls_save portal token f p⟩
      · have hlater := ih _ _ t ht
        rw [hrecord] at hlater
        exact hlater

/-- **A save loses nothing that was entered**, whatever phase the form is in and
whatever error it shows.  The record stays as it is.  Without an identifier it is
refused as an invalid target, and nobody hears of it.  With one it can be written, and the portal is
asked once, to put exactly that; if it does, the form is left for the list; if it
does not, the form is open again, with the reason; and until it answers, the form
is saving.  However often this is repeated, the record stays and is what the
portal is asked to put. -/
theorem save_keeps_input (k : Kind) (portal : Portal σ) (token : CsrfToken)
    (f : EditForm k.Record) (p : σ) :
    let t := f.save portal token p
    let answer := (portal (.upsert k (Entity.encode f.record) token) p).1
    t.form.record = f.record ∧
    (Entity.id f.record = "" →
      t.result = some (.error (.invalidTarget
        (k.route ++ " has no id; activate the form before saving"))) ∧
      t.calls = [] ∧ t.commands = []) ∧
    (Entity.id f.record ≠ "" →
      (∃ members, Entity.encode f.record = .obj members) ∧
      t.calls = [.upsert k (Entity.encode f.record) token] ∧
      (answer = some (.ok ()) → t.result = some (.ok ()) ∧ t.form.phase = .done ∧
        t.form.error = none ∧ t.commands = [.navigate k.listRoute]) ∧
      (∀ e, answer = some (.error e) → t.result = some (.error e) ∧ t.form.phase = .editing ∧
        t.form.error = some e ∧ t.commands = []) ∧
      (answer = none → t.result = none ∧ t.form.phase = .saving ∧ t.form.error = none ∧
        t.commands = [])) ∧
    ∀ n, ∀ t' ∈ turns portal token f p (List.replicate n .save), t'.form.record = f.record ∧
      t'.calls = if Entity.id f.record = "" then []
        else [.upsert k (Entity.encode f.record) token] := by
  intro t answer
  obtain ⟨members, hbody, -⟩ := Kind.Record.get?_id_encode f.record
  have hsaves := calls_of_saves portal token f p
  rw [Kind.Record.kind_eq] at hsaves
  have hcourse : Course portal token f p .save t := course_save
  clear_value t
  cases hcourse with
  | refused unnamed =>
      rw [Kind.Record.kind_eq]
      exact ⟨rfl, fun _ => ⟨rfl, rfl, rfl⟩, absurd unnamed, hsaves⟩
  | saving named p' unanswered =>
      rw [Kind.Record.kind_eq] at unanswered ⊢
      have hanswer : answer = none := congrArg Prod.fst unanswered
      refine ⟨rfl, fun unnamed => absurd unnamed named, fun _ => ⟨⟨members, hbody⟩, rfl, ?_⟩, hsaves⟩
      simp [hanswer]
  | saved named p' answered =>
      rw [Kind.Record.kind_eq] at answered ⊢
      have hanswer : answer = some (.ok ()) := congrArg Prod.fst answered
      refine ⟨rfl, fun unnamed => absurd unnamed named, fun _ => ⟨⟨members, hbody⟩, rfl, ?_⟩, hsaves⟩
      simp [hanswer]
  | unsaved named e p' answered =>
      rw [Kind.Record.kind_eq] at answered ⊢
      have hanswer : answer = some (.error e) := congrArg Prod.fst answered
      refine ⟨rfl, fun unnamed => absurd unnamed named, fun _ => ⟨⟨members, hbody⟩, rfl, ?_⟩, hsaves⟩
      simp [hanswer]

/-- A report that somebody else has changed in between is refused.  It stays in
the form, so that the second save, which the portal never answers, hands it over
again.  Without an identifier it is not handed over at all. -/
theorem save_keeps_input_conflict :
    let conflict : PortalError := .conflict "edited elsewhere"
    let entered : Kind.report.Record := ⟨"r1", Dict.empty.insert "owner" .null⟩
    let unnamed : Kind.report.Record := ⟨"", Dict.empty.insert "owner" .null⟩
    let put : Call := .upsert .report (.obj [("id", .str "r1"), ("owner", .null)]) ⟨"t"⟩
    let t := (EditForm.mk entered .done none).save Reply.script ⟨"t"⟩ [.error conflict]
    let again := t.form.save Reply.script ⟨"t"⟩ t.portal
    let refused := (EditForm.mk unnamed .editing none).save Reply.script ⟨"t"⟩ [.ok .null]
    (Entity.id entered ≠ "" ∧
      (Reply.script put [.error conflict]).1 = some (.error conflict) ∧
      t.result = some (.error conflict) ∧ t.form.record = entered ∧ t.form.phase = .editing ∧
      t.calls = [put]) ∧
    ((Reply.script put []).1 = none ∧ again.result = none ∧ again.form.record = entered ∧
      again.form.phase = .saving ∧ again.calls = [put]) ∧
    Entity.id unnamed = "" ∧ refused.result = some (.error (.invalidTarget
        "report has no id; activate the form before saving")) ∧
      refused.form.record = unnamed ∧ refused.calls = [] := by
  intro conflict entered unnamed put t again refused
  have hnamed : Entity.id entered ≠ "" := by decide
  have hanswer : (Reply.script put [.error conflict]).1 = some (.error conflict) := rfl
  have hnone : (Reply.script put []).1 = none := rfl
  obtain ⟨hkept, -, hfirst, -⟩ := save_keeps_input .report Reply.script ⟨"t"⟩
    (EditForm.mk entered .done none) [.error conflict]
  obtain ⟨-, hcalls, -, hfailed, -⟩ := hfirst hnamed
  obtain ⟨hresult, hphase, -, -⟩ := hfailed conflict hanswer
  obtain ⟨hkept', -, hsecond, -⟩ := save_keeps_input .report Reply.script ⟨"t"⟩ t.form t.portal
  obtain ⟨-, hcalls', -, -, hgiven⟩ := hsecond hnamed
  obtain ⟨hresult', hphase', -, -⟩ := hgiven hnone
  obtain ⟨hunnamed, hrefused, -, -⟩ := save_keeps_input .report Reply.script ⟨"t"⟩
    (EditForm.mk unnamed .editing none) [.ok .null]
  obtain ⟨hinvalid, hsilent, -⟩ := hrefused rfl
  exact ⟨⟨hnamed, hanswer, hresult, hkept, hphase, hcalls⟩,
    ⟨hnone, hresult', hkept', hphase', hcalls'⟩, rfl, hinvalid, hunnamed, hsilent⟩

end AlertDesk.EditForm
