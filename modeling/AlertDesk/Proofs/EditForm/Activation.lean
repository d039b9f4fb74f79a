import AlertDesk.Proofs.EditForm.Course
import AlertDesk.Record.OfKind
import AlertDesk.Reply

/-!
# AlertDesk.Proofs.EditForm.Activation

A form that is turned to another record forgets the one before.  Neither the old
record nor its error nor the phase the form was in has any influence on what is
shown afterwards, on what is asked of the portal, or on anything that is done
with the form from then on; so nothing of one record is ever saved into another.

Main facts:

* `activate_congr` — two forms of whatever past come to the same;
* `turns_activate` — and so do the sessions behind them;
* `activate_forgets` — what a form shows, for every way in which a load can end.
-/

namespace AlertDesk.EditForm

section Forms

variable {α σ τ : Type} [Entity α]

/-- Two forms that are turned to the same record, and are given the same answer
for it, come to the same. -/
theorem activate_congr {portal : Portal σ} {portal' : Portal τ} {f g : EditForm α} {p : σ} {q : τ}
    {id : Option String} {fresh fresh' : String} (hfresh : id = none → fresh = fresh')
    (hanswer : ∀ asked, id = some asked →
      (portal (.get (Entity.kind α) asked) p).1 = (portal' (.get (Entity.kind α) asked) q).1) :
    (f.activate portal id fresh p).form = (g.activate portal' id fresh' q).form ∧
      (f.activate portal id fresh p).result = (g.activate portal' id fresh' q).result ∧
      (f.activate portal id fresh p).calls = (g.activate portal' id fresh' q).calls := by
  cases id with
  | none =>
      obtain rfl := hfresh rfl
      exact ⟨rfl, rfl, rfl⟩
  | some id =>
      have hsame := hanswer id rfl
      rcases h : portal (.get (Entity.kind α) id) p with ⟨answer, p'⟩
      rcases h' : portal' (.get (Entity.kind α) id) q with ⟨answer', q'⟩
      rw [h, h'] at hsame
      obtain rfl : answer = answer' := hsame
      cases answer with
      | none =>
          rw [activate_unanswered h, activate_unanswered h']
          exact ⟨rfl, rfl, rfl⟩
      | some answer =>
          rw [activate_answered h, activate_answered h']
          exact ⟨rfl, rfl, rfl⟩

/-- Whatever is done with a form once it is turned to a record goes the same way
for every other form. -/
theorem turns_activate (portal : Portal σ) (token : CsrfToken) (f g : EditForm α) (p : σ)
    (id : Option String) (fresh : String) (as : List (Action α)) :
    turns portal token f p (.activate id fresh :: as) =
      turns portal token g p (.activate id fresh :: as) := by
  have hturn : f.activate portal id fresh p = g.activate portal id fresh p := by
    cases id <;> rfl
  simp only [turns, act, hturn]

end Forms

/-- **A form forgets the record before.**  Two forms, whatever they show and
whatever phase they are in, that are turned to the same record and are given the
same answer for it (or none), show the same from then on, with the same result
and the same call to the portal; the user interface is told nothing, and all that
is done with the one afterwards goes as it does with the other.

A new record is blank.  A record that is asked for is shown if it can be read;
otherwise the form is blank but for the identifier that was asked for, with the
reason beside it, or still loading if no answer came. -/
theorem activate_forgets (k : Kind) {σ τ : Type} (portal : Portal σ) (portal' : Portal τ)
    (token : CsrfToken) (f g : EditForm k.Record) (p : σ) (q : τ) (id : Option String)
    (fresh fresh' : String) (hfresh : id = none → fresh = fresh')
    (hanswer : ∀ asked, id = some asked →
      (portal (.get k asked) p).1 = (portal' (.get k asked) q).1) :
    let t := f.activate portal id fresh p
    let u := g.activate portal' id fresh' q
    (t.form = u.form ∧ t.result = u.result ∧ t.calls = u.calls ∧ t.commands = [] ∧
      u.commands = []) ∧
    (∀ as, turns portal token f p (.activate id fresh :: as) =
      turns portal token g p (.activate id fresh :: as)) ∧
    (id = none → t.result = some (.ok ()) ∧ t.form = ⟨Entity.blank fresh, .editing, none⟩) ∧
    ∀ asked, id = some asked → match (portal (.get k asked) p).1 with
      | none => t.result = none ∧ t.form = ⟨Entity.blank asked, .loading, none⟩
      | some answer => match answer.bind (Entity.decode (α := k.Record)) with
        | .ok r => t.result = some (.ok ()) ∧ t.form = ⟨r, .editing, none⟩
        | .error e =>
          t.result = some (.error e) ∧ t.form = ⟨Entity.blank asked, .editing, some e⟩ := by
  intro t u
  have hcongr : t.form = u.form ∧ t.result = u.result ∧ t.calls = u.calls :=
    activate_congr hfresh (by rwa [Kind.Record.kind_eq])
  obtain ⟨hform, hresult, hcalls⟩ := hcongr
  have hsilent : t.commands = [] := commands_activate portal f id fresh p
  refine ⟨⟨hform, hresult, hcalls, hsilent, commands_activate portal' g id fresh' q⟩,
    turns_activate portal token f g p id fresh, ?_⟩
  have hcourse : Course portal token f p (.activate id fresh) t := course_activate id fresh
  clear_value t
  cases hcourse with
  | started fresh => exact ⟨fun _ => ⟨rfl, rfl⟩, by simp⟩
  | loading id fresh p' unanswered =>
      rw [Kind.Record.kind_eq] at unanswered
      refine ⟨by simp, fun asked hid => ?_⟩
      obtain rfl := Option.some.inj hid
      rw [unanswered]
      exact ⟨rfl, rfl⟩
  | loaded id fresh answer r p' answered read =>
      rw [Kind.Record.kind_eq] at answered
      refine ⟨by simp, fun asked hid => ?_⟩
      obtain rfl := Option.some.inj hid
      rw [answered]
      simp only [read, and_self]
  | unloaded id fresh answer e p' answered unread =>
      rw [Kind.Record.kind_eq] at answered
      refine ⟨by simp, fun asked hid => ?_⟩
      obtain rfl := Option.some.inj hid
      rw [answered]
      simp only [unread, and_self]

/-- An alert that is being saved, after a failure, and a form that was never used
are turned to an alert that cannot be read: both show a blank alert under the
identifier that was asked for, and why. -/
theorem activate_forgets_unread :
    let reply : Reply := .ok (.obj [("id", .num (.int 7)), ("name", .str "cpu")])
    let always : Portal Unit := fun call _ => (some (reply.answer call), ())
    let used : EditForm Kind.alert.Record :=
      ⟨Alert.mk "a1" "disk full" "disk > 90" "5m" "" "", .saving, some (.network "down")⟩
    let t := used.activate Reply.script (some "a2") "f" [reply]
    let u := (initial : EditForm Kind.alert.Record).activate always (some "a2") "g" ()
    (some "a2" = none → "f" = "g") ∧
      (∀ asked, some "a2" = some asked →
        (Reply.script (.get .alert asked) [reply]).1 = (always (.get .alert asked) ()).1) ∧
      t.form = u.form ∧ t.result = u.result ∧ t.form = ⟨Entity.blank "a2", .editing,
        some (.decode "invalid type: integer `7`, expected a string")⟩ := by
  intro reply always used t u
  have hfresh : some "a2" = none → "f" = "g" := nofun
  have hanswer : ∀ asked, some "a2" = some asked →
      (Reply.script (.get .alert asked) [reply]).1 = (always (.get .alert asked) ()).1 :=
    fun asked _ => rfl
  obtain ⟨⟨hform, hresult, -⟩, -, -, hshown⟩ := activate_forgets .alert Reply.script always ⟨"t"⟩
    used initial [reply] () (some "a2") "f" "g" hfresh hanswer
  exact ⟨hfresh, hanswer, hform, hresult, (hshown "a2" rfl).2⟩

end AlertDesk.EditForm
