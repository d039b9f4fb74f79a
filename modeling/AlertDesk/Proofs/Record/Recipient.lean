import AlertDesk.Proofs.Keyed.Lookup
import AlertDesk.Record.NotificationGroup

/-!
# AlertDesk.Proofs.Record.Recipient

Recipients as they are read and written.  A written recipient is an object with
two members, its tag and its target.  A recipient is read from exactly the
objects that contain what it is written as; whatever else such an object holds,
the members of another type of recipient among it, is passed over.

All that can come of a payload is told once (`Reading`), and every result below
is a case analysis of it.

Main facts:

* `reading` — what comes of a payload;
* `contains_encode_iff` — to contain a written recipient is to have its tag and
  its target;
* `recipient_read_exactly` — which recipient is read from a payload, and what is
  wrong with the others.
-/

namespace AlertDesk

/-- The value is an object that has every member of another one, with the same value. -/
def Json.Contains (v part : Json) : Prop :=
  ∃ members, v = .obj members ∧
    ∀ key w, part.get? key = some w → Keyed.get? key members = some w

namespace Recipient

/-- The tags of recipients. -/
def tags : List Json := [.str "email", .str "webhook", .str "pagerduty"]

/-- A tag as a message names it: a string as it is, another value as JSON text. -/
def tagText : Json → String
  | .str s => s
  | w => w.compact

/-- **What comes of a payload.** -/
inductive Reading : Json → Except PortalError Recipient → Prop
  /-- The payload is no object. -/
  | unshaped {v : Json} (h : ∀ members, v ≠ .obj members) :
    Reading v (.error (.decode ("recipient must be an object, got " ++ v.compact)))
  /-- It has no tag. -/
  | untagged {members : List (String × Json)} (h : Keyed.get? "type" members = none) :
    Reading (.obj members) (.error (.decode "recipient is missing 'type'"))
  /-- Its tag is none of the known ones. -/
  | unknown {members : List (String × Json)} {w : Json} (h : Keyed.get? "type" members = some w)
      (unknown : w ∉ tags) :
    Reading (.obj members) (.error (.unrecognizedVariant (tagText w)))
  /-- It has a known tag, but not the text that goes with it. -/
  | untargeted {members : List (String × Json)} (r : Recipient)
      (h : Keyed.get? "type" members = some (.str r.kind))
      (missing : ∀ s, Keyed.get? r.targetKey members ≠ some (.str s)) :
    Reading (.obj members) (.error (.decode
      ("recipient field '" ++ r.targetKey ++ "' is missing or not a string")))
  /-- It has both. -/
  | read {members : List (String × Json)} (r : Recipient)
      (h : Keyed.get? "type" members = some (.str r.kind))
      (target : Keyed.get? r.targetKey members = some (.str r.target)) :
    Reading (.obj members) (.ok r)

variable {v w : Json} {members : List (String × Json)} {r r' : Recipient} {text : String}

/-! ## one payload -/

theorem kind_mem_tags (r : Recipient) : .str r.kind ∈ tags := by
  cases r <;> simp [kind, tags]

theorem tagText_of_ne (h : ∀ s, w ≠ .str s) : tagText w = w.compact := by
  cases w with
  | str s => exact absurd rfl (h s)
  | _ => rfl

theorem targetKey_ne (r : Recipient) : r.targetKey ≠ "type" := by
  cases r <;> simp [targetKey]

/-- A recipient is told by its tag and its target. -/
theorem eq_of_kind (hkind : r.kind = r'.kind) (htarget : r.target = r'.target) : r = r' := by
  cases r <;> cases r' <;> simp_all [kind, target]

theorem targetKey_of_kind (h : r.kind = r'.kind) : r.targetKey = r'.targetKey := by
  cases r <;> cases r' <;> simp_all [kind, targetKey]

/-- The text that goes with a tag is there, or it is not. -/
theorem requireText_cases (members : List (String × Json)) (key : String) :
    (∃ s, Keyed.get? key members = some (.str s) ∧ requireText members key = .ok s) ∨
      (∀ s, Keyed.get? key members ≠ some (.str s)) ∧ requireText members key =
        .error (.decode ("recipient field '" ++ key ++ "' is missing or not a string")) := by
  unfold requireText
  split
  · next s hs => exact .inl ⟨s, hs, rfl⟩
  · next h => exact .inr ⟨h, rfl⟩

/-- The recipient of a tag and a target, or the error about its target. -/
theorem reading_of_tag (make : String → Recipient) (hkind : ∀ s, (make s).kind = (make "").kind)
    (htarget : ∀ s, (make s).target = s)
    (h : Keyed.get? "type" members = some (.str (make "").kind)) :
    Reading (.obj members)
      (requireText members (make "").targetKey >>= fun s => .ok (make s)) := by
  obtain ⟨s, hs, hread⟩ | ⟨hmissing, hread⟩ := requireText_cases members (make "").targetKey
  · rw [hread]
    refine .read (make s) (hkind s ▸ h) ?_
    rw [targetKey_of_kind (hkind s), htarget, hs]
  · rw [hread]
    exact .untargeted (make "") h hmissing

/-- What comes of a payload is one of the cases. -/
theorem reading (v : Json) : Reading v (decode v) := by
  unfold decode
  split
  · next members =>
      split
      case h_1 h => exact reading_of_tag .email (fun s => rfl) (fun s => rfl) h
      case h_2 h => exact reading_of_tag .webHook (fun s => rfl) (fun s => rfl) h
      case h_3 h => exact reading_of_tag .pagerDuty (fun s => rfl) (fun s => rfl) h
      case h_4 type hemail hwebhook hpagerduty h =>
        refine .unknown h ?_
        simpa [tags] using ⟨hemail, hwebhook, hpagerduty⟩
      case h_5 w hemail hwebhook hpagerduty hstr h =>
        rw [← tagText_of_ne hstr]
        refine .unknown h ?_
        simpa [tags] using ⟨hemail, hwebhook, hpagerduty⟩
      case h_6 h => exact .untagged h
  · next h => exact .unshaped h

/-! ## reading and writing -/

theorem encode_eq_object (r : Recipient) :
    r.encode = .object [("type", .str r.kind), (r.targetKey, .str r.target)] := by
  cases r <;> simp +decide only [encode, kind, target, targetKey, Json.object, Keyed.ofList,
    Keyed.insertAll, Keyed.insert, List.foldl_cons, List.foldl_nil, if_true]

/-- **To contain a written recipient** is to have its tag and its target. -/
theorem contains_encode_iff : v.Contains r.encode ↔ ∃ members, v = .obj members ∧
    Keyed.get? "type" members = some (.str r.kind) ∧
      Keyed.get? r.targetKey members = some (.str r.target) := by
  have htag : r.encode.get? "type" = some (.str r.kind) := by cases r <;> rfl
  have htarget : r.encode.get? r.targetKey = some (.str r.target) := by cases r <;> rfl
  constructor
  · rintro ⟨members, rfl, hpart⟩
    exact ⟨members, rfl, hpart _ _ htag, hpart _ _ htarget⟩
  · rintro ⟨members, rfl, hkind, hmember⟩
    refine ⟨members, rfl, fun key w hw => ?_⟩
    by_cases hkey : key = r.targetKey
    · rw [hkey, htarget] at hw
      rw [hkey, hmember, hw]
    by_cases htype : key = "type"
    · rw [htype, htag] at hw
      rw [htype, hkind, hw]
    · simp [encode, Json.get?, Keyed.get?_cons, hkey, htype] at hw

/-- What is read is what the payload contains as it is written. -/
theorem decode_eq_ok_iff : decode v = .ok r ↔ v.Contains r.encode := by
  rw [contains_encode_iff]
  have hreading := reading v
  constructor
  · intro h
    rw [h] at hreading
    cases hreading with
    | read _ hkind htarget => exact ⟨_, rfl, hkind, htarget⟩
  · rintro ⟨members, rfl, hkind, htarget⟩
    generalize decode (.obj members) = result at hreading
    cases hreading with
    | unshaped h => exact absurd rfl (h members)
    | untagged h =>
        rw [hkind] at h
        contradiction
    | unknown h unknown =>
        obtain rfl := Option.some.inj (hkind.symm.trans h)
        exact absurd r.kind_mem_tags unknown
    | untargeted r' h missing =>
        have heq : r.kind = r'.kind := by simpa [hkind] using h
        exact absurd (targetKey_of_kind heq ▸ htarget) (missing r.target)
    | read r' h target =>
        have heq : r.kind = r'.kind := by simpa [hkind] using h
        have hsame : r.target = r'.target := by
          simpa [← targetKey_of_kind heq, htarget] using target
        rw [eq_of_kind heq hsame]

/-- A tag that is none of the known ones is named by the error. -/
theorem decode_eq_unrecognized_iff : decode v = .error (.unrecognizedVariant text) ↔
    ∃ w, v.get? "type" = some w ∧ w ∉ tags ∧ text = tagText w := by
  have hreading := reading v
  constructor
  · intro h
    rw [h] at hreading
    cases hreading with
    | unknown htag hunknown => exact ⟨_, htag, hunknown, rfl⟩
  · rintro ⟨w, hget, hunknown, rfl⟩
    generalize decode v = result at hreading
    cases hreading with
    | unshaped h =>
        cases v with
        | obj members => exact absurd rfl (h members)
        | _ => contradiction
    | untagged h => simp [Json.get?, h] at hget
    | unknown h _ =>
        obtain rfl := Option.some.inj (hget.symm.trans h)
        rfl
    | untargeted r h _ | read r h _ =>
        obtain rfl := Option.some.inj (hget.symm.trans h)
        exact absurd r.kind_mem_tags hunknown

/-- **A recipient is read from exactly the objects that contain what it is written as**:
its kind as their `type`, and its target.  Of the other payloads those with another
`type` are refused for it, under its name, and the rest are decode errors. -/
theorem recipient_read_exactly (v : Json) :
    (∀ r, decode v = .ok r ↔ v.Contains r.encode) ∧
      (∀ r : Recipient, r.targetKey ≠ "type" ∧
        r.encode = .object [("type", .str r.kind), (r.targetKey, .str r.target)]) ∧
      (∀ text, decode v = .error (.unrecognizedVariant text) ↔
        ∃ w, v.get? "type" = some w ∧ w ∉ tags ∧ text = tagText w) ∧
      ((∃ r, decode v = .ok r) ∨ (∃ text, decode v = .error (.unrecognizedVariant text)) ∨
        ∃ reason, decode v = .error (.decode reason)) := by
  refine ⟨fun r => decode_eq_ok_iff, fun r => ⟨r.targetKey_ne, r.encode_eq_object⟩,
    fun text => decode_eq_unrecognized_iff, ?_⟩
  have hreading := reading v
  generalize decode v = result at hreading
  cases hreading with
  | read r => exact .inl ⟨r, rfl⟩
  | unknown => exact .inr (.inl ⟨_, rfl⟩)
  | unshaped | untagged | untargeted => exact .inr (.inr ⟨_, rfl⟩)

/-- The members of another type of recipient are passed over, and do not stand in for
the one that is missing. -/
example :
    decode (.obj [("address", .str "a@x"), ("pagerDutyEndpointName", .str "ops"),
      ("type", .str "pagerduty")]) = .ok (.pagerDuty "ops") ∧
    decode (.obj [("address", .str "a@x"), ("type", .str "pagerduty")]) =
      .error (.decode "recipient field 'pagerDutyEndpointName' is missing or not a string") :=
  ⟨rfl, rfl⟩

end Recipient

end AlertDesk
