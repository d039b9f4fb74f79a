import AlertDesk.Proofs.Chain
import AlertDesk.Record.OfKind

/-!
# AlertDesk.Proofs.Record.Faults

What a decoder can find wrong.  The fields of a payload may not fit the record;
behind that, the record's identifier and its recipients are looked at
(`PortalError.OfRecord`).  Either is an error about the payload
(`PortalError.OfPayload`).  In particular a record that cannot be decoded is
never taken for one that does not exist.  All but the tags of recipients are
found wrong as values that cannot be decoded (`PortalError.IsDecode`).

Main facts:

* `faults_requireId`, `faults_recipient` — what is wrong with identifiers and recipients;
* `faults_decode` — whatever a decoder finds wrong is about the payload.
-/

namespace AlertDesk

namespace PortalError

/-- An error about a payload. -/
def OfPayload : PortalError → Prop
  | .decode _ | .unrecognizedVariant _ => True
  | .network _ | .notFound .. | .validation .. | .conflict _ | .invalidTarget _ | .server .. =>
    False

/-- An error about the identifier or the recipients of a record.  The message is
none about a field that is given twice: those begin with a `d`. -/
def OfRecord : PortalError → Prop
  | .decode message => message.toList.head? ≠ some 'd'
  | .unrecognizedVariant _ => True
  | .network _ | .notFound .. | .validation .. | .conflict _ | .invalidTarget _ | .server .. =>
    False

/-- A value that does not have the expected shape. -/
def IsDecode (e : PortalError) : Prop := ∃ reason, e = .decode reason

theorem IsDecode.ofPayload {e : PortalError} (h : e.IsDecode) : e.OfPayload := by
  obtain ⟨reason, rfl⟩ := h
  trivial

theorem OfRecord.ofPayload {e : PortalError} (h : e.OfRecord) : e.OfPayload := by
  cases e <;> trivial

end PortalError

/-- If the step fails, then with an error of that sort. -/
def Faults {α : Type} (sort : PortalError → Prop) (x : Except PortalError α) : Prop :=
  ∀ e, x = .error e → sort e

namespace Faults

variable {α β : Type} {sort : PortalError → Prop}

theorem ok (a : α) : Faults sort (.ok a) := by
  intro e h
  contradiction

theorem error {e : PortalError} (he : sort e) : Faults (α := α) sort (.error e) := by
  intro e' h
  exact Except.error.inj h ▸ he

theorem mono {x : Except PortalError α} (hx : Faults sort x) {other : PortalError → Prop}
    (hsort : ∀ {e}, sort e → other e) : Faults other x :=
  fun e h => hsort (hx e h)

theorem bind {x : Except PortalError α} {f : α → Except PortalError β} (hx : Faults sort x)
    (hf : ∀ a, Faults sort (f a)) : Faults sort (x >>= f) := by
  intro e h
  obtain h | ⟨a, -, h⟩ := bind_eq_error_iff.mp h
  · exact hx e h
  · exact hf a e h

theorem mapM {f : α → Except PortalError β} (hf : ∀ a, Faults sort (f a)) (as : List α) :
    Faults sort (as.mapM f) := by
  intro e h
  obtain ⟨before, a, after, -, -, ha⟩ := mapM_eq_error_iff.mp h
  exact hf a e ha

/-- A step with no other faults succeeds or is a decode error. -/
theorem ok_or_decode {x : Except PortalError α} (h : Faults PortalError.IsDecode x) :
    (∃ a, x = .ok a) ∨ ∃ reason, x = .error (.decode reason) := by
  cases x with
  | ok a => exact .inl ⟨a, rfl⟩
  | error e =>
      obtain ⟨reason, rfl⟩ := h e rfl
      exact .inr ⟨reason, rfl⟩

end Faults

open Faults PortalError

/-! ## identifiers and recipients -/

theorem faults_requireId {α : Type} (kind : Kind) (id : α → String) (r : α) :
    Faults OfRecord (requireId kind id r) := by
  unfold requireId
  split
  · refine error ?_
    cases kind <;> simp [OfRecord, Kind.route]
  · exact ok r

theorem isDecode_requireId {α : Type} (kind : Kind) (id : α → String) (r : α) :
    Faults IsDecode (requireId kind id r) := by
  unfold requireId
  split
  · exact error ⟨_, rfl⟩
  · exact ok r

theorem faults_requireText (members : List (String × Json)) (key : String) :
    Faults OfRecord (Recipient.requireText members key) := by
  unfold Recipient.requireText
  split
  · exact ok _
  · exact error (by simp [OfRecord])

theorem faults_recipient (v : Json) : Faults OfRecord (Recipient.decode v) := by
  unfold Recipient.decode
  split
  · split
    case h_1 | h_2 | h_3 => exact (faults_requireText _ _).bind fun _ => ok _
    case h_4 | h_5 => exact error trivial
    case h_6 => exact error (by simp [OfRecord])
  · exact error (by simp [OfRecord])

/-! ## records -/

theorem isDecode_decoded {α : Type} (x : Except Mismatch α) : Faults IsDecode (decoded x) := by
  cases x with
  | ok a => exact ok a
  | error m => exact error ⟨m.message, rfl⟩

theorem faults_decoded {α : Type} (x : Except Mismatch α) : Faults OfPayload (decoded x) :=
  (isDecode_decoded x).mono IsDecode.ofPayload

/-- **Whatever a decoder finds wrong is about the payload.** -/
theorem Kind.Record.faults_decode (k : Kind) (v : Json) :
    Faults OfPayload (Entity.decode v : Except PortalError k.Record) := by
  cases k with
  | alert | pagerDutyEndpoint | report =>
      exact (faults_decoded _).bind fun _ => (faults_requireId _ _ _).mono OfRecord.ofPayload
  | notificationGroup =>
      refine (faults_decoded _).bind fun _ => mono ?_ OfRecord.ofPayload
      exact (mapM faults_recipient _).bind fun _ => faults_requireId _ _ _

end AlertDesk
