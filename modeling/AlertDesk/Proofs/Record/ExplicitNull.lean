import AlertDesk.Paging
import AlertDesk.Proofs.Layout.ExplicitNull
import AlertDesk.Proofs.Record.Faults
import AlertDesk.Proofs.Record.Identifier

/-!
# AlertDesk.Proofs.Record.ExplicitNull

Null means the same as nothing: a record, or a page of them, is read the same
from an object and from the object without its nulls.  For a field with two
spellings this takes a condition.  Given under both it is refused, and a null
counts as given there; without the null the other spelling is read.

Main facts:

* `null_as_missing` — for every record type and for pages, when taking out the
  nulls makes a difference;
* `null_beside_value` — an endpoint for which it does.
-/

namespace AlertDesk

/-! ## fields given twice, among the errors -/

/-- Only the message about a field given twice starts with a `d`. -/
theorem Mismatch.head_message (m : Mismatch) : m.message.toList.head? =
    some (match m with | .duplicateField _ => 'd' | _ => 'i') := by
  unfold message
  cases m <;> simp

/-- The field that was given twice is known from the error. -/
theorem Mismatch.eq_duplicateField {m : Mismatch} {name : String}
    (h : m.toError = (Mismatch.duplicateField name).toError) : m = .duplicateField name := by
  have hm : m.message = (Mismatch.duplicateField name).message := PortalError.decode.inj h
  have hhead := head_message (.duplicateField name)
  rw [← hm, head_message] at hhead
  unfold message at hm
  cases m with
  | duplicateField name' => simpa using hm
  | wrongType | wrongValue | tooLong => simp at hhead

/-- A reader's result refuses a field as given twice if the reader did. -/
theorem decoded_eq_duplicateField_iff {α : Type} {x : Except Mismatch α} {name : String} :
    decoded x = .error (Mismatch.duplicateField name).toError ↔
      x = .error (.duplicateField name) := by
  cases x with
  | ok a => simp [decoded]
  | error m =>
      refine ⟨fun h => congrArg _ (Mismatch.eq_duplicateField (Except.error.inj h)), ?_⟩
      rintro ⟨⟩
      rfl

/-- A step of a decoder that does not refuse a field as given twice. -/
def FreeOfRepeats {α : Type} (x : Except PortalError α) : Prop :=
  ∀ name, x ≠ .error (Mismatch.duplicateField name).toError

/-! ## decoders that pass over nulls -/

namespace Layout

variable {l : Layout} {members fields : List (String × Json)} {key : String} {α : Type}
  {make : List (String × Json) → Except PortalError α}

theorem get?_lessNulls (h : (fields.map Prod.fst).Nodup) :
    Keyed.get? key (lessNulls fields) = (Keyed.get? key fields).filter fun v => !v.isNull :=
  Keyed.get?_filter_value h fun v => !v.isNull

theorem textOf_lessNulls (h : (fields.map Prod.fst).Nodup) :
    textOf (Keyed.get? key (lessNulls fields)) = textOf (Keyed.get? key fields) := by
  rw [get?_lessNulls h]
  cases Keyed.get? key fields with
  | none => rfl
  | some v => cases v <;> rfl

theorem itemsOf_lessNulls (h : (fields.map Prod.fst).Nodup) :
    itemsOf (Keyed.get? key (lessNulls fields)) = itemsOf (Keyed.get? key fields) := by
  rw [get?_lessNulls h]
  cases Keyed.get? key fields with
  | none => rfl
  | some v => cases v <;> rfl

theorem paginationOf_lessNulls (h : (fields.map Prod.fst).Nodup) :
    QueryResponse.paginationOf (Keyed.get? key (lessNulls fields)) =
      QueryResponse.paginationOf (Keyed.get? key fields) := by
  rw [get?_lessNulls h]
  cases Keyed.get? key fields with
  | none => rfl
  | some v => cases v <;> rfl

/-- What a decoder makes of an object's members. -/
def decodeWith (l : Layout) (make : List (String × Json) → Except PortalError α)
    (members : List (String × Json)) : Except PortalError α :=
  decoded (l.readMembers [] members) >>= make

/-- Without the nulls the same is made, unless the object was refused over a clash. -/
theorem decodeWith_dropNulls (hcheck : ∀ f ∈ l.fields, f.check .null = .ok ())
    (hmake : ∀ fields, (fields.map Prod.fst).Nodup → make (lessNulls fields) = make fields)
    (hm : (members.map Prod.fst).Nodup) :
    l.decodeWith make (l.dropNulls members) = l.decodeWith make members ∨
      ∃ name, l.Clash members name ∧
        l.decodeWith make members = .error (Mismatch.duplicateField name).toError := by
  obtain heq | ⟨name, hclash, herr⟩ := readMembers_dropNulls hcheck hm
  · left
    rw [decodeWith, decodeWith, heq]
    cases hread : l.readMembers [] members with
    | error m => rfl
    | ok fields =>
        obtain ⟨rfl, hfits⟩ := readMembers_eq_ok_iff.mp hread
        exact hmake _ hfits.once
  · refine .inr ⟨name, hclash, ?_⟩
    rw [decodeWith, herr]
    rfl

/-- If the object was refused over a clash, without the nulls it is not. -/
theorem decodeWith_dropNulls_ne {name : String} (hl : (l.fields.map Field.name).Nodup)
    (hcheck : ∀ f ∈ l.fields, ∀ v, f.check v ≠ .error (.duplicateField name))
    (hmake : ∀ fields, FreeOfRepeats (make fields)) (hm : (members.map Prod.fst).Nodup)
    (hclash : l.Clash members name) :
    l.decodeWith make (l.dropNulls members) ≠ .error (Mismatch.duplicateField name).toError := by
  intro h
  obtain h | ⟨fields, -, h⟩ := bind_eq_error_iff.mp h
  · exact readMembers_dropNulls_ne hl hcheck hm hclash (decoded_eq_duplicateField_iff.mp h)
  · exact hmake fields name h

theorem others_dropNulls (l : Layout) (members : List (String × Json)) :
    l.others (.obj (l.dropNulls members)) = l.others (.obj members) := by
  simp only [others, dropNulls, List.filter_filter]
  refine List.filter_congr fun p _ => ?_
  cases l.owns p.1 <;> rfl

end Layout

/-! ## every record type -/

theorem checkText_ne_duplicateField (v : Json) (name : String) :
    checkText v ≠ .error (.duplicateField name) := by
  cases v <;> simp [checkText]

theorem checkList_ne_duplicateField (v : Json) (name : String) :
    checkList v ≠ .error (.duplicateField name) := by
  cases v <;> simp [checkList]

/-- The named fields of the records of a kind. -/
def Kind.layout : Kind → Layout
  | .alert => Alert.layout
  | .notificationGroup => NotificationGroup.layout
  | .pagerDutyEndpoint => PagerDutyEndpoint.layout
  | .report => Report.layout

theorem Kind.layout_names (k : Kind) : (k.layout.fields.map Field.name).Nodup := by
  cases k <;> decide

/-- The fields of records are texts and lists. -/
theorem Kind.layout_check (k : Kind) :
    ∀ f ∈ k.layout.fields, f.check = checkText ∨ f.check = checkList := by
  cases k <;> simp [layout, Alert.layout, NotificationGroup.layout, PagerDutyEndpoint.layout,
    Report.layout]

theorem Kind.check_null (k : Kind) : ∀ f ∈ k.layout.fields, f.check .null = .ok () := by
  intro f hf
  obtain h | h := k.layout_check f hf <;> rw [h] <;> rfl

theorem Kind.check_ne_duplicateField (k : Kind) (name : String) :
    ∀ f ∈ k.layout.fields, ∀ v, f.check v ≠ .error (.duplicateField name) := by
  intro f hf v
  obtain h | h := k.layout_check f hf <;> rw [h]
  · exact checkText_ne_duplicateField v name
  · exact checkList_ne_duplicateField v name

namespace Kind.Record

variable {members fields : List (String × Json)}

/-- The record made from the fields that were read and the other members. -/
def assemble : (k : Kind) → (others fields : List (String × Json)) → Except PortalError k.Record
  | .alert, _, fields => requireId .alert Alert.id (Alert.ofFields fields)
  | .notificationGroup, _, fields => do
    let recipients ← (itemsOf (Keyed.get? "recipients" fields)).mapM Recipient.decode
    requireId .notificationGroup NotificationGroup.id {
      id := textOf (Keyed.get? "id" fields)
      name := textOf (Keyed.get? "name" fields)
      recipients := recipients }
  | .pagerDutyEndpoint, _, fields =>
    requireId .pagerDutyEndpoint PagerDutyEndpoint.id (PagerDutyEndpoint.ofFields fields)
  | .report, others, fields =>
    requireId .report Report.id {
      id := textOf (Keyed.get? "id" fields)
      fields := Dict.ofList others }

theorem decode_obj (k : Kind) (members : List (String × Json)) :
    (Entity.decode (.obj members) : Except PortalError k.Record) =
      k.layout.decodeWith (assemble k (k.layout.others (.obj members))) members := by
  cases k <;> rfl

theorem assemble_lessNulls (k : Kind) (others : List (String × Json))
    (h : (fields.map Prod.fst).Nodup) :
    assemble k others (Layout.lessNulls fields) = assemble k others fields := by
  cases k <;> simp only [assemble, Alert.ofFields, PagerDutyEndpoint.ofFields,
    Layout.textOf_lessNulls h, Layout.itemsOf_lessNulls h]

/-- What is wrong with an identifier or a recipient is not that it is given twice. -/
theorem assemble_freeOfRepeats (k : Kind) (others fields : List (String × Json)) :
    FreeOfRepeats (assemble k others fields) := by
  have faults : Faults PortalError.OfRecord (assemble k others fields) := by
    cases k with
    | notificationGroup =>
        exact (Faults.mapM faults_recipient _).bind fun _ => faults_requireId _ _ _
    | alert | pagerDutyEndpoint | report => exact faults_requireId _ _ _
  intro name h
  exact faults _ h (Mismatch.head_message _)

/-- Taking out the nulls makes a difference for the objects that are refused over a clash. -/
theorem decode_dropNulls_eq_iff (k : Kind) (hm : (members.map Prod.fst).Nodup) :
    (Entity.decode (.obj (k.layout.dropNulls members)) : Except PortalError k.Record) =
        Entity.decode (.obj members) ↔
      ∀ name, k.layout.Clash members name →
        (Entity.decode (.obj members) : Except PortalError k.Record) ≠
          .error (Mismatch.duplicateField name).toError := by
  rw [decode_obj, decode_obj, Layout.others_dropNulls]
  constructor
  · intro heq name hclash
    rw [← heq]
    exact Layout.decodeWith_dropNulls_ne k.layout_names (k.check_ne_duplicateField name)
      (assemble_freeOfRepeats k _) hm hclash
  · intro hnone
    obtain heq | ⟨name, hclash, herr⟩ := Layout.decodeWith_dropNulls k.check_null
      (fun fields h => assemble_lessNulls k (k.layout.others (.obj members)) h) hm
    · exact heq
    · exact absurd herr (hnone name hclash)

end Kind.Record

/-! ## pages -/

namespace QueryResponse

variable {members : List (String × Json)}

theorem layout_plain : layout.Plain := by decide

theorem check_null : ∀ f ∈ layout.fields, f.check .null = .ok () := by
  simp [layout, checkList, checkPagination]

theorem decode_dropNulls (hm : (members.map Prod.fst).Nodup) :
    decode (.obj (layout.dropNulls members)) = decode (.obj members) := by
  let make (fields : List (String × Json)) : Except PortalError QueryResponse := .ok {
    data := itemsOf (Keyed.get? "data" fields)
    pagination := paginationOf (Keyed.get? "pagination" fields) }
  have hmake : ∀ fields, (fields.map Prod.fst).Nodup →
      make (Layout.lessNulls fields) = make fields := by
    intro fields h
    simp only [make, Layout.itemsOf_lessNulls h, Layout.paginationOf_lessNulls h]
  change layout.decodeWith make _ = layout.decodeWith make _
  refine (Layout.decodeWith_dropNulls check_null hmake hm).resolve_right ?_
  rintro ⟨name, hclash, -⟩
  exact layout_plain.not_clash hclash

end QueryResponse

/-! ## main result -/

/-- **Null means the same as nothing.**  Taking out of an object the members that
give null to a field makes no difference for a page, nor for a record of any
kind, unless the record was refused because a field is given under both its
spellings, under one of them as null.  Then it always makes one. -/
theorem null_as_missing (k : Kind) (members : List (String × Json))
    (h : Keyed.Ascending members) :
    ((Entity.decode (.obj (k.layout.dropNulls members)) : Except PortalError k.Record) =
        Entity.decode (.obj members) ↔
      ∀ name, k.layout.Clash members name →
        (Entity.decode (.obj members) : Except PortalError k.Record) ≠
          .error (Mismatch.duplicateField name).toError) ∧
    QueryResponse.decode (.obj (QueryResponse.layout.dropNulls members)) =
      QueryResponse.decode (.obj members) :=
  ⟨Kind.Record.decode_dropNulls_eq_iff k h.nodup, QueryResponse.decode_dropNulls h.nodup⟩

/-- An endpoint whose address and name are null, under one spelling each, and a
page of nothing but nulls are read as if the nulls were not there. -/
theorem null_as_missing_endpoint :
    let members : List (String × Json) :=
      [("address", .null), ("id", .str "p1"), ("name", .null), ("serviceKey", .str "k")]
    let page : List (String × Json) := [("data", .null), ("pagination", .null)]
    Keyed.Ascending members ∧ (∀ name, ¬ PagerDutyEndpoint.layout.Clash members name) ∧
      PagerDutyEndpoint.decode (.obj [("id", .str "p1"), ("serviceKey", .str "k")]) =
        PagerDutyEndpoint.decode (.obj members) ∧
      Keyed.Ascending page ∧ QueryResponse.decode (.obj []) = QueryResponse.decode (.obj page) := by
  intro members page
  have hmembers : Keyed.Ascending members := by decide
  have hpage : Keyed.Ascending page := by decide
  have hnames : (members.map fun p => PagerDutyEndpoint.layout.name? p.1).Nodup := by decide
  have hclash : ∀ name, ¬ PagerDutyEndpoint.layout.Clash members name := by
    rintro name ⟨key, key', v, hne, hname, hname', hkey, hkey'⟩
    have heq := List.inj_on_of_nodup_map hnames hkey hkey' (hname.trans hname'.symm)
    exact hne (Prod.mk.inj heq).1
  exact ⟨hmembers, hclash, (null_as_missing .pagerDutyEndpoint members hmembers).1.mpr
    fun name h => absurd h (hclash name), hpage, (null_as_missing .report page hpage).2⟩

/-- An endpoint with an address and, under the other spelling, a null: it is
refused, although without the null it is read. -/
theorem null_beside_value :
    let members : List (String × Json) :=
      [("address", .null), ("id", .str "p1"), ("pagerDutyUrl", .str "https://pd")]
    Keyed.Ascending members ∧
      PagerDutyEndpoint.decode (.obj (PagerDutyEndpoint.layout.dropNulls members)) =
        .ok { id := "p1", address := "https://pd" } ∧
      PagerDutyEndpoint.decode (.obj members) =
        .error (.decode "duplicate field `address`") :=
  ⟨by decide, rfl, rfl⟩

end AlertDesk
