import AlertDesk.Proofs.Record.Format

/-!
# AlertDesk.Proofs.Record.Texts

Alerts and endpoints, the records of nothing but texts.  Each is read from
exactly the values of its format: objects in which what stands under the
record's keys is null or a string, and under each field's keys once at most, and
arrays of nulls and strings with no more items than the record has fields.  What
is missing or null is the empty text, and the identifier must not be empty.

Main facts:

* `readsTexts` — so reads every decoder of a layout of texts;
* `text_records_exact` — what is read as an alert or an endpoint, and from what;
  and what is written.
-/

namespace AlertDesk

variable {v : Json} {fields : List (String × Json)}

/-! ## decoders of texts -/

/-- A decoder of records of texts, whose fields have the keys `keys`, in the order of
an array.  `ofValue` is the record of what a value holds for its fields. -/
structure ReadsTexts {α : Type} (decode : Json → Except PortalError α)
    (keys : List (List String)) (id : α → String) (ofValue : Json → α) : Prop where
  /-- What is read, and from what. -/
  reads : ∀ v r, decode v = .ok r ↔
    v.Follows (textFormat keys) ∧ id (ofValue v) ≠ "" ∧ r = ofValue v
  /-- What cannot be read is a decode error. -/
  refuses : ∀ v, (∃ r, decode v = .ok r) ∨ ∃ reason, decode v = .error (.decode reason)
  /-- Members of other keys are without influence. -/
  passesOver : ∀ members,
    decode (.obj (members.filter fun p => p.1 ∈ keys.flatten)) = decode (.obj members)

/-- **A layout of texts reads texts.** -/
theorem readsTexts {α : Type} {l : Layout} {kind : Kind} {id : α → String}
    {make : List (String × Json) → α} {ofValue : Json → α} (h : l.Apart)
    (texts : ∀ f ∈ l.fields, f.check = checkText)
    (hmake : ∀ v fields, l.read v = .ok fields → make fields = ofValue v) :
    ReadsTexts (fun v => decoded (l.read v) >>= fun fields => requireId kind id (make fields))
      (l.fields.map Field.keys) id ofValue where
  reads v r := by
    rw [← Layout.format_of_texts texts]
    exact h.decode_eq_ok_iff (hmake v)
  refuses v := by
    refine Faults.ok_or_decode (Faults.bind (isDecode_decoded _) fun fields => ?_)
    exact isDecode_requireId kind id (make fields)
  passesOver members := by rw [l.read_filter members]

/-! ## the two record types -/

namespace Alert

/-- The keys of an alert's fields, in the order of an array. -/
def keys : List (List String) :=
  [["id"], ["name"], ["query"], ["checkInterval"], ["comment"], ["notificationGroupId"]]

/-- The alert of what a value holds. -/
def ofValue (v : Json) : Alert where
  id := v.textAt ["id"] 0
  name := v.textAt ["name"] 1
  query := v.textAt ["query"] 2
  checkInterval := v.textAt ["checkInterval"] 3
  comment := v.textAt ["comment"] 4
  notificationGroupId := v.textAt ["notificationGroupId"] 5

theorem layout_apart : layout.Apart := by decide

theorem ofFields_of_read (h : layout.read v = .ok fields) : ofFields fields = ofValue v := by
  unfold ofFields ofValue
  congr 1 <;> exact layout_apart.textOf_of_read h rfl

theorem encode_eq_object (a : Alert) : a.encode = .object [
    ("id", .str a.id), ("name", .str a.name), ("query", .str a.query),
    ("checkInterval", .str a.checkInterval), ("comment", .str a.comment),
    ("notificationGroupId", .str a.notificationGroupId)] := by
  simp +decide only [encode, Json.object, Keyed.ofList, Keyed.insertAll, Keyed.insert,
    List.foldl_cons, List.foldl_nil, if_true, if_false]

end Alert

namespace PagerDutyEndpoint

/-- The keys of an endpoint's fields, in the order of an array. -/
def keys : List (List String) :=
  [["id"], ["name"], ["address", "pagerDutyUrl"], ["serviceKey"], ["comment"]]

/-- The endpoint of what a value holds. -/
def ofValue (v : Json) : PagerDutyEndpoint where
  id := v.textAt ["id"] 0
  name := v.textAt ["name"] 1
  address := v.textAt ["address", "pagerDutyUrl"] 2
  serviceKey := v.textAt ["serviceKey"] 3
  comment := v.textAt ["comment"] 4

theorem layout_apart : layout.Apart := by decide

theorem ofFields_of_read (h : layout.read v = .ok fields) : ofFields fields = ofValue v := by
  unfold ofFields ofValue
  congr 1 <;> exact layout_apart.textOf_of_read h rfl

theorem encode_eq_object (e : PagerDutyEndpoint) : e.encode = .object [
    ("id", .str e.id), ("name", .str e.name), ("address", .str e.address),
    ("serviceKey", .str e.serviceKey), ("comment", .str e.comment)] := by
  simp +decide only [encode, Json.object, Keyed.ofList, Keyed.insertAll, Keyed.insert,
    List.foldl_cons, List.foldl_nil, if_true, if_false]

end PagerDutyEndpoint

/-- **Alerts and endpoints are read from exactly the values of their formats.**  What
is read is what the value holds under the record's keys or at its places, other
members are without influence, and whatever cannot be read is a decode error.
What is written are the fields under their names, an endpoint's address never
under its older one. -/
theorem text_records_exact :
    ReadsTexts Alert.decode Alert.keys Alert.id Alert.ofValue ∧
      (∀ a : Alert, a.encode = .object [
        ("id", .str a.id), ("name", .str a.name), ("query", .str a.query),
        ("checkInterval", .str a.checkInterval), ("comment", .str a.comment),
        ("notificationGroupId", .str a.notificationGroupId)]) ∧
      ReadsTexts PagerDutyEndpoint.decode PagerDutyEndpoint.keys PagerDutyEndpoint.id
        PagerDutyEndpoint.ofValue ∧
      ∀ e : PagerDutyEndpoint, e.encode = .object [
          ("id", .str e.id), ("name", .str e.name), ("address", .str e.address),
          ("serviceKey", .str e.serviceKey), ("comment", .str e.comment)] ∧
        e.encode.get? "pagerDutyUrl" = none := by
  have alerts : ∀ f ∈ Alert.layout.fields, f.check = checkText := by simp [Alert.layout]
  have endpoints : ∀ f ∈ PagerDutyEndpoint.layout.fields, f.check = checkText := by
    simp [PagerDutyEndpoint.layout]
  refine ⟨readsTexts Alert.layout_apart alerts fun v fields => Alert.ofFields_of_read,
    Alert.encode_eq_object, readsTexts PagerDutyEndpoint.layout_apart endpoints
      fun v fields => PagerDutyEndpoint.ofFields_of_read, fun e => ⟨e.encode_eq_object, ?_⟩⟩
  rfl

/-- An address under its older name, nulls and other members against an array that
stops at the address. -/
example : PagerDutyEndpoint.decode (.obj [("comment", .null), ("id", .str "p1"),
      ("pagerDutyUrl", .str "https://pd"), ("since", .num (.int 2019))]) =
    PagerDutyEndpoint.decode (.arr [.str "p1", .null, .str "https://pd"]) := rfl

end AlertDesk
