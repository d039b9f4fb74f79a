import AlertDesk.Proofs.EditForm.Course
import AlertDesk.Proofs.Record.Identifier
import AlertDesk.Reply

/-!
# AlertDesk.Proofs.EditForm.SavedId

The identifier under which a form saves.  A save asks the record for its
identifier, refuses an empty one, and writes the whole record.  The object that
is written names the record's identifier, unless somebody put a member called
`id` among the other members of a report: that one is written instead, and is
not asked for.

Main fact: `saved_id` — under which `id` a form saves, and that it is the
record's own as long as no edit puts another in front of it.
-/

namespace AlertDesk.EditForm

open Kind.Record (shadowId?)

variable {k : Kind} {σ : Type} {portal : Portal σ} {token : CsrfToken} {p : σ}

/-- Loading, saving and leaving put nothing in front of an identifier. -/
theorem Course.shadowId?_eq_none {f : EditForm k.Record} {a : Action k.Record}
    {t : Turn k.Record σ} (h : Course portal token f p a t)
    (hedit : ∀ change, a = .edit change → ∀ r, shadowId? k r = none → shadowId? k (change r) = none)
    (hnone : shadowId? k f.record = none) : shadowId? k t.form.record = none := by
  cases h with
  | started fresh => exact Kind.Record.shadowId?_blank k fresh
  | loading id | unloaded id => exact Kind.Record.shadowId?_blank k id
  | loaded id fresh answer r p' answered read =>
      obtain ⟨v, -, hv⟩ := bind_eq_ok_iff.mp read
      exact Kind.Record.shadowId?_of_decode hv
  | edited change => exact hedit change rfl f.record hnone
  | refused | saving | saved | unsaved => exact hnone
  | cancelled => exact Kind.Record.shadowId?_empty k

/-- **The identifier under which a form saves.**  Whatever is done with a form,
every record that it writes is an object, the record has an identifier, and the
object's `id` is that, or else what stands in front of it in the record.  As
long as no edit puts anything there, it is the identifier. -/
theorem saved_id (k : Kind) (portal : Portal σ) (token : CsrfToken) (p : σ)
    (as : List (Action k.Record)) :
    ∀ t ∈ turns portal token initial p as, ∀ kind body token',
      .upsert kind body token' ∈ t.calls →
        Entity.id t.form.record ≠ "" ∧ ∃ members, body = .obj members ∧
          Keyed.get? "id" members =
            some ((shadowId? k t.form.record).getD (.str (Entity.id t.form.record))) ∧
          ((∀ change, .edit change ∈ as →
              ∀ r, shadowId? k r = none → shadowId? k (change r) = none) →
            Keyed.get? "id" members = some (.str (Entity.id t.form.record))) := by
  intro t ht kind body token' hcall
  obtain ⟨f, p', a, ha, rfl⟩ := exists_act_of_mem_turns ht
  obtain ⟨-, -, -, hid, rfl⟩ := upsert_of_act hcall
  obtain ⟨members, hencode, hget⟩ :=
    Kind.Record.get?_id_encode (act portal token f p' a).form.record
  refine ⟨hid, members, hencode, hget, fun hedits => ?_⟩
  have hnone : shadowId? k (act portal token f p' a).form.record = none :=
    forall_turns (P := fun f => shadowId? k f.record = none) (Kind.Record.shadowId?_empty k)
      (fun b hb f p h =>
        (course b).shadowId?_eq_none (fun change hchange => hedits change (hchange ▸ hb)) h)
      _ ht
  rw [hget, hnone, Option.getD_none]

/-- A new report with another member than `id` is written under its identifier. -/
theorem saved_id_new :
    let owned : Kind.report.Record → Kind.report.Record := fun r => Report.setField r "owner" .null
    let as : List (Action Kind.report.Record) := [.activate none "r1", .edit owned, .save]
    let body : List (String × Json) := [("id", .str "r1"), ("owner", .null)]
    (∀ change, .edit change ∈ as →
        ∀ r, shadowId? .report r = none → shadowId? .report (change r) = none) ∧
      ∃ t ∈ turns Reply.script ⟨"t"⟩ initial [.ok .null] as,
        .upsert .report (.obj body) ⟨"t"⟩ ∈ t.calls ∧ Entity.id t.form.record ≠ "" ∧
          Keyed.get? "id" body = some (.str (Entity.id t.form.record)) := by
  intro owned as body
  have hedits : ∀ change, .edit change ∈ as →
      ∀ r, shadowId? .report r = none → shadowId? .report (change r) = none := by
    intro change hmem r hr
    obtain rfl : change = owned := by simpa [as] using hmem
    exact (Kind.Record.shadowId?_setField (k := .report) (v := .null) (by decide) rfl).trans hr
  refine ⟨hedits, _, .tail _ (.tail _ (.head _)), .head _, ?_⟩
  obtain ⟨hid, members, hbody, -, hsaved⟩ := saved_id .report Reply.script ⟨"t"⟩ [.ok .null] as
    _ (.tail _ (.tail _ (.head _))) .report (.obj body) ⟨"t"⟩ (.head _)
  obtain rfl := Json.obj.inj hbody
  exact ⟨hid, hsaved hedits⟩

/-- A report that is called `r1` is written as `r2`, once that stands among its
other members. -/
theorem saved_id_shadowed :
    let as : List (Action Kind.report.Record) := [.edit fun r => Entity.setId r "r1",
      .edit fun r => Report.setField r "id" (.str "r2"), .save]
    let body : List (String × Json) := [("id", .str "r2")]
    ∃ t ∈ turns Reply.script ⟨"t"⟩ initial [.ok .null] as,
      .upsert .report (.obj body) ⟨"t"⟩ ∈ t.calls ∧ Entity.id t.form.record = "r1" ∧
        Keyed.get? "id" body ≠ some (.str (Entity.id t.form.record)) := by
  intro as body
  exact ⟨_, .tail _ (.tail _ (.head _)), .head _, rfl, by decide⟩

end AlertDesk.EditForm
