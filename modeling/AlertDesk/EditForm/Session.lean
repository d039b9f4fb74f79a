import AlertDesk.EditForm

/-!
# AlertDesk.EditForm.Session

A form in use: it is loaded, changed by hand, saved and left, in any order.  A
load or a save has the form to itself until the portal has answered or it is
given up, so that a session is a list of turns, each of which starts from the
form and the portal that the one before has left.

Main facts:

* `forall_turns`: what the first form has and every action keeps holds of the
  form after every turn;
* `upsert_of_act`: only a save writes, and it writes the record of the form.
-/

namespace AlertDesk.EditForm

/-- What is done with a form. -/
inductive Action (α : Type) where
  /-- Loads the record with an identifier, or starts a new one under the fresh identifier. -/
  | activate (id : Option String) (fresh : String)
  /-- Assigns to the record. -/
  | edit (change : α → α)
  | save
  | cancel

/-- Whether an action assigns to the record. -/
def Action.isEdit {α : Type} : Action α → Bool
  | .edit _ => true
  | .activate .. | .save | .cancel => false

variable {α σ : Type} [Entity α]

/-- One action. -/
def act (portal : Portal σ) (token : CsrfToken) (f : EditForm α) (p : σ) : Action α → Turn α σ
  | .activate id fresh => f.activate portal id fresh p
  | .edit change => { form := f.edit change, result := some (.ok ()), portal := p }
  | .save => f.save portal token p
  | .cancel =>
    let (form, commands) := f.cancel
    { form, result := some (.ok ()), commands, portal := p }

/-- The turns that a form takes under actions in turn. -/
def turns (portal : Portal σ) (token : CsrfToken) (f : EditForm α) (p : σ) :
    List (Action α) → List (Turn α σ)
  | [] => []
  | a :: as =>
    let t := f.act portal token p a
    t :: turns portal token t.form t.portal as

/-! ## what holds of every turn -/

variable {portal : Portal σ} {token : CsrfToken} {f : EditForm α} {p : σ} {as : List (Action α)}

/-- Every turn is some action on some form. -/
theorem exists_act_of_mem_turns {t : Turn α σ} (h : t ∈ turns portal token f p as) :
    ∃ f' p' a, a ∈ as ∧ t = act portal token f' p' a := by
  induction as generalizing f p with
  | nil => contradiction
  | cons a as ih =>
      obtain rfl | h := List.mem_cons.mp h
      · exact ⟨f, p, a, List.mem_cons_self, rfl⟩
      · obtain ⟨f', p', a', hmem, ht⟩ := ih h
        exact ⟨f', p', a', List.mem_cons_of_mem a hmem, ht⟩

/-- **Induction over a session**: what the first form has, and every action
keeps, holds of the form after every turn. -/
theorem forall_turns {P : EditForm α → Prop} (start : P f)
    (keeps : ∀ a ∈ as, ∀ f p, P f → P (act portal token f p a).form) :
    ∀ t ∈ turns portal token f p as, P t.form := by
  induction as generalizing f p with
  | nil => simp [turns]
  | cons a as ih =>
      intro t ht
      have hfirst := keeps a List.mem_cons_self f p start
      obtain rfl | ht := List.mem_cons.mp ht
      · exact hfirst
      · exact ih hfirst (fun b hb => keeps b (List.mem_cons_of_mem a hb)) t ht

/-! ## what an answer leads to -/

section Answers

variable {id fresh : String} {r : α} {e : PortalError} {p' : σ}

theorem loaded_of_ok {answer : Except PortalError Json} (h : answer.bind Entity.decode = .ok r) :
    f.loaded answer = ({ f with record := r, phase := .editing }, .ok ()) := by
  simp [loaded, h]

theorem loaded_of_error {answer : Except PortalError Json}
    (h : answer.bind (Entity.decode (α := α)) = .error e) :
    f.loaded answer = ({ f with phase := .editing, error := some e }, .error e) := by
  simp [loaded, h]

theorem activate_unanswered (h : portal (.get (Entity.kind α) id) p = (none, p')) :
    f.activate portal (some id) fresh p =
      { form := f.startLoading id, result := none
        calls := [.get (Entity.kind α) id], portal := p' } := by
  simp [activate, h]

theorem activate_answered {answer : Except PortalError Json}
    (h : portal (.get (Entity.kind α) id) p = (some answer, p')) :
    f.activate portal (some id) fresh p =
      { form := ((f.startLoading id).loaded answer).1
        result := some ((f.startLoading id).loaded answer).2
        calls := [.get (Entity.kind α) id], portal := p' } := by
  simp [activate, h]

theorem save_unnamed (hid : Entity.id f.record = "") :
    f.save portal token p =
      { form := { f with error := some (idMissing (Entity.kind α)) }
        result := some (.error (idMissing (Entity.kind α))), portal := p } := by
  simp [save, hid]

theorem save_unanswered (hid : Entity.id f.record ≠ "")
    (h : portal (.upsert (Entity.kind α) (Entity.encode f.record) token) p = (none, p')) :
    f.save portal token p =
      { form := { f with phase := .saving, error := none }, result := none
        calls := [.upsert (Entity.kind α) (Entity.encode f.record) token], portal := p' } := by
  simp [save, hid, h]

theorem save_answered {answer : Except PortalError Unit} (hid : Entity.id f.record ≠ "")
    (h : portal (.upsert (Entity.kind α) (Entity.encode f.record) token) p = (some answer, p')) :
    f.save portal token p =
      { form := (saved { f with phase := .saving, error := none } answer).1
        result := some answer
        calls := [.upsert (Entity.kind α) (Entity.encode f.record) token]
        commands := (saved { f with phase := .saving, error := none } answer).2
        portal := p' } := by
  simp [save, hid, h]

end Answers

/-! ## what an action asks of the portal -/

theorem calls_activate (portal : Portal σ) (f : EditForm α) (id : Option String) (fresh : String)
    (p : σ) : (f.activate portal id fresh p).calls =
      (id.map fun id => Call.get (Entity.kind α) id).toList := by
  cases id with
  | none => rfl
  | some id =>
      simp only [activate]
      split <;> rfl

theorem commands_activate (portal : Portal σ) (f : EditForm α) (id : Option String)
    (fresh : String) (p : σ) : (f.activate portal id fresh p).commands = [] := by
  cases id with
  | none => rfl
  | some id =>
      simp only [activate]
      split <;> rfl

theorem calls_save (portal : Portal σ) (token : CsrfToken) (f : EditForm α) (p : σ) :
    (f.save portal token p).calls = if Entity.id f.record = "" then []
      else [.upsert (Entity.kind α) (Entity.encode f.record) token] := by
  unfold save
  split
  · rfl
  · dsimp only
    split <;> rfl

/-- **Only a save writes**, and it writes the record that the form holds, before
and after, if that has an identifier. -/
theorem upsert_of_act {a : Action α} {kind : Kind} {body : Json} {token' : CsrfToken}
    (h : .upsert kind body token' ∈ (f.act portal token p a).calls) :
    a = .save ∧ kind = Entity.kind α ∧ token' = token ∧
      Entity.id (f.act portal token p a).form.record ≠ "" ∧
      body = Entity.encode (f.act portal token p a).form.record := by
  cases a with
  | activate id fresh =>
      change _ ∈ (f.activate portal id fresh p).calls at h
      rw [calls_activate] at h
      cases id <;> simp at h
  | edit change => contradiction
  | save =>
      change _ ∈ (f.save portal token p).calls at h
      rw [calls_save] at h
      split at h
      · contradiction
      · next hid =>
          obtain ⟨rfl, rfl, rfl⟩ : kind = _ ∧ body = _ ∧ token' = _ := by simpa using h
          refine ⟨rfl, rfl, rfl, ?_⟩
          rw [act, record_save]
          exact ⟨hid, rfl⟩
  | cancel => contradiction

end AlertDesk.EditForm
