import AlertDesk.Call

/-!
# AlertDesk.EditForm

The form in which one record is created or edited.

`activate` loads a record, or starts a new one under a fresh identifier;
`save` writes the record back and leaves for the list; `cancel` leaves without
writing.  A load begins with an empty record of the identifier that was asked for,
and leaves it there if it fails; a save that fails leaves the record alone.  Both
put the error beside the form.  Either may also be given up while the portal has
not yet answered, which leaves the form loading or saving.

Main facts: `record_save`, the record survives every save; `save_refused`,
a record without identifier is not sent.
-/

namespace AlertDesk

/-- What a form is doing. -/
inductive Phase where
  | loading
  | editing
  | saving
  /-- The form has been left. -/
  | done
  deriving DecidableEq

/-- A form. -/
structure EditForm (α : Type) where
  record : α
  phase : Phase := .editing
  /-- The failure of the last load or save. -/
  error : Option PortalError := none
  deriving DecidableEq

namespace EditForm

/-- What an operation on a form leads to. -/
structure Turn (α σ : Type) where
  form : EditForm α
  /-- `none` if the operation was given up. -/
  result : Option (Except PortalError Unit)
  calls : List Call := []
  commands : List UiCommand := []
  portal : σ

variable {α σ : Type} [Entity α]

/-- A form that has not been used. -/
def initial : EditForm α := { record := Entity.empty }

/-- Starts a new record under an identifier. -/
def startNew (f : EditForm α) (id : String) : EditForm α :=
  { f with record := Entity.blank id, phase := .editing, error := none }

/-- Starts to load the record with an identifier. -/
def startLoading (f : EditForm α) (id : String) : EditForm α :=
  { f with record := Entity.blank id, phase := .loading, error := none }

/-- Takes in the answer to a load. -/
def loaded (f : EditForm α) (answer : Except PortalError Json) :
    EditForm α × Except PortalError Unit :=
  match answer.bind Entity.decode with
  | .ok record => ({ f with record, phase := .editing }, .ok ())
  | .error e => ({ f with phase := .editing, error := some e }, .error e)

/-- Loads the record with an identifier; without one, starts a new record under
the fresh identifier. -/
def activate (portal : Portal σ) (f : EditForm α) (id : Option String) (fresh : String) (p : σ) :
    Turn α σ :=
  match id with
  | none => { form := f.startNew fresh, result := some (.ok ()), portal := p }
  | some id =>
    let form := f.startLoading id
    let call := Call.get (Entity.kind α) id
    match portal (.get (Entity.kind α) id) p with
    | (none, p) => { form, result := none, calls := [call], portal := p }
    | (some answer, p) =>
      let (form, result) := form.loaded answer
      { form, result := some result, calls := [call], portal := p }

/-- Why a record without identifier cannot be saved. -/
def idMissing (kind : Kind) : PortalError :=
  .invalidTarget (kind.route ++ " has no id; activate the form before saving")

/-- Takes in the answer to a save. -/
def saved (f : EditForm α) (answer : Except PortalError Unit) : EditForm α × List UiCommand :=
  match answer with
  | .ok () => ({ f with phase := .done, error := none },
      [.navigate (Entity.kind α).listRoute])
  | .error e => ({ f with phase := .editing, error := some e }, [])

/-- Writes the record back. -/
def save (portal : Portal σ) (token : CsrfToken) (f : EditForm α) (p : σ) : Turn α σ :=
  if Entity.id f.record = "" then
    let e := idMissing (Entity.kind α)
    { form := { f with error := some e }, result := some (.error e), portal := p }
  else
    let form := { f with phase := .saving, error := none }
    let body := Entity.encode f.record
    let call := Call.upsert (Entity.kind α) body token
    match portal (.upsert (Entity.kind α) body token) p with
    | (none, p) => { form, result := none, calls := [call], portal := p }
    | (some answer, p) =>
      let (form, commands) := form.saved answer
      { form, result := some answer, calls := [call], commands, portal := p }

/-- Leaves the form without writing. -/
def cancel (f : EditForm α) : EditForm α × List UiCommand :=
  ({ f with record := Entity.empty, phase := .done, error := none },
    [.navigate (Entity.kind α).listRoute])

/-- Changes the record by hand. -/
def edit (f : EditForm α) (change : α → α) : EditForm α := { f with record := change f.record }

/-! ## what a save keeps -/

theorem save_refused (portal : Portal σ) (token : CsrfToken) (f : EditForm α) (p : σ)
    (h : Entity.id f.record = "") : (f.save portal token p).calls = [] := by
  simp [save, h]

theorem record_save (portal : Portal σ) (token : CsrfToken) (f : EditForm α) (p : σ) :
    (f.save portal token p).form.record = f.record := by
  unfold save
  split
  · rfl
  · dsimp only
    split
    · rfl
    · simp only [saved]
      split <;> rfl

end EditForm

end AlertDesk
