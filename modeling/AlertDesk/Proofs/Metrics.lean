import AlertDesk.Metrics
import AlertDesk.Proofs.Keyed.Lookup

/-!
# AlertDesk.Proofs.Metrics

The samples of a list of events.  No two events share a sample: no label has a
quotation mark in it, so a sample's labels are read off its name one after the other.

Main facts:

* `Event.sample_injective` — a sample counts one event;
* `get?_samples_eq_some_iff` — there is a sample of every event that occurred, with
  its count, and no other.
-/

namespace AlertDesk

/-! ## labels -/

theorem Kind.collection_injective {a b : Kind} (h : a.collection = b.collection) : a = b := by
  revert h
  cases a <;> cases b <;> decide

namespace Metrics

theorem Method.label_injective {a b : Method} (h : a.label = b.label) : a = b := by
  revert h
  cases a <;> cases b <;> decide

theorem Status.label_injective {a b : Status} (h : a.label = b.label) : a = b := by
  revert h
  cases a <;> cases b <;> decide

/-- A text without quotation marks is read up to the next one. -/
theorem eq_of_quoted {a b x y : List Char} (ha : '"' ∉ a) (hb : '"' ∉ b)
    (h : a ++ '"' :: x = b ++ '"' :: y) : a = b ∧ x = y := by
  have hcut : ∀ {c : List Char}, '"' ∉ c → ∀ z, (c ++ '"' :: z).takeWhile (· ≠ '"') = c := by
    intro c hc z
    have hplain : ∀ d ∈ c, decide (d ≠ '"') = true := fun d hd =>
      decide_eq_true fun heq => hc (heq ▸ hd)
    rw [List.takeWhile_append_of_pos hplain]
    simp
  have hname : a = b := by rw [← hcut ha x, h, hcut hb y]
  subst hname
  exact ⟨rfl, (List.cons_eq_cons.mp (List.append_cancel_left h)).2⟩

theorem append_cancel {p x y : String} (h : p ++ x = p ++ y) : x = y := by
  have htext := congrArg String.toList h
  rw [String.toList_append, String.toList_append] at htext
  exact String.toList_inj.mp (List.append_cancel_left htext)

/-- A label is read off a text that begins with it. -/
theorem label_append_inj {name a b x y : String} (ha : '"' ∉ a.toList) (hb : '"' ∉ b.toList)
    (h : label name a ++ x = label name b ++ y) : a = b ∧ x = y := by
  have hquoted : ∀ c z : String, label name c ++ z = name ++ "=\"" ++ (c ++ ("\"" ++ z)) := by
    intro c z
    simp only [label, String.append_assoc]
  rw [hquoted, hquoted] at h
  have htext := congrArg String.toList (append_cancel h)
  simp only [String.toList_append] at htext
  obtain ⟨hvalue, hrest⟩ := eq_of_quoted ha hb htext
  exact ⟨String.toList_inj.mp hvalue, String.toList_inj.mp hrest⟩

/-! ## samples -/

theorem mark_not_mem_collection (kind : Kind) : '"' ∉ kind.collection.toList := by
  cases kind <;> decide

theorem mark_not_mem_method (method : Method) : '"' ∉ method.label.toList := by
  cases method <;> decide

theorem mark_not_mem_status (status : Status) : '"' ∉ status.label.toList := by
  cases status <;> decide

/-- Kind and method are read off a text that their labels stand in. -/
theorem labels_inj {kind kind' : Kind} {method method' : Method} {x y : String}
    (h : label "entity" kind.collection ++ ("," ++ (label "method" method.label ++ x)) =
      label "entity" kind'.collection ++ ("," ++ (label "method" method'.label ++ y))) :
    kind = kind' ∧ method = method' ∧ x = y := by
  obtain ⟨hkind, h⟩ :=
    label_append_inj (mark_not_mem_collection kind) (mark_not_mem_collection kind') h
  obtain ⟨hmethod, hrest⟩ :=
    label_append_inj (mark_not_mem_method method) (mark_not_mem_method method') (append_cancel h)
  exact ⟨Kind.collection_injective hkind, Method.label_injective hmethod, hrest⟩

/-- The name of a sample, from left to right. -/
theorem Event.sample_request (kind : Kind) (method : Method) (status : Status) :
    (Event.request kind method status).sample = "portal_requests_total\x7b" ++
      (label "entity" kind.collection ++ ("," ++ (label "method" method.label ++
        ("," ++ (label "status" status.label ++ "\x7d"))))) := by
  have hassoc : ∀ p a q b r c z : String,
      p ++ a ++ q ++ b ++ r ++ c ++ z = p ++ (a ++ (q ++ (b ++ (r ++ (c ++ z))))) := by
    intro p a q b r c z
    simp only [String.append_assoc]
  exact hassoc _ _ _ _ _ _ _

theorem Event.sample_timed (kind : Kind) (method : Method) :
    (Event.timed kind method).sample = "portal_request_duration_seconds_count\x7b" ++
      (label "entity" kind.collection ++ ("," ++ (label "method" method.label ++ "\x7d"))) := by
  have hassoc : ∀ p a q b z : String, p ++ a ++ q ++ b ++ z = p ++ (a ++ (q ++ (b ++ z))) := by
    intro p a q b z
    simp only [String.append_assoc]
  exact hassoc _ _ _ _ _

/-- **A sample counts one event.** -/
theorem Event.sample_injective {e e' : Event} (h : e.sample = e'.sample) : e = e' := by
  have hapart : ∀ x y : String, "portal_requests_total\x7b" ++ x ≠
      "portal_request_duration_seconds_count\x7b" ++ y := by
    intro x y heq
    have hletter := congrArg (fun s => s.toList[14]?) heq
    simp [String.toList_append] at hletter
  cases e with
  | request kind method status =>
      rw [sample_request] at h
      cases e' with
      | request kind' method' status' =>
          rw [sample_request] at h
          obtain ⟨rfl, rfl, hrest⟩ := labels_inj (append_cancel h)
          obtain ⟨hstatus, -⟩ := label_append_inj (mark_not_mem_status status)
            (mark_not_mem_status status') (append_cancel hrest)
          rw [Status.label_injective hstatus]
      | timed kind' method' =>
          rw [sample_timed] at h
          exact absurd h (hapart _ _)
  | timed kind method =>
      rw [sample_timed] at h
      cases e' with
      | request kind' method' status' =>
          rw [sample_request] at h
          exact absurd h.symm (hapart _ _)
      | timed kind' method' =>
          rw [sample_timed] at h
          obtain ⟨rfl, rfl, -⟩ := labels_inj (append_cancel h)
          rfl

/-- **There is a sample of every event that occurred, with its count, and no other.** -/
theorem get?_samples_eq_some_iff {events : List Event} {name : String} {n : Nat} :
    (samples events).get? name = some n ↔ ∃ e, e.sample = name ∧ count events e = n ∧ 0 < n := by
  have hlookup : (samples events).get? name =
      Keyed.get? name (events.map fun e => (e.sample, count events e)).reverse :=
    Keyed.get?_ofList_reverse
  rw [hlookup]
  constructor
  · intro h
    have hmem := List.mem_reverse.mp (Keyed.mem_of_get? h)
    obtain ⟨e, he, heq⟩ := List.mem_map.mp hmem
    obtain ⟨rfl, rfl⟩ := Prod.mk.inj heq
    exact ⟨e, rfl, rfl, List.count_pos_iff.mpr he⟩
  · rintro ⟨e, rfl, rfl, hpos⟩
    cases hget : Keyed.get? e.sample
        (events.map fun e => (e.sample, count events e)).reverse with
    | none =>
        have hmem : e ∈ events := List.count_pos_iff.mp hpos
        refine absurd ?_ (Keyed.get?_eq_none_iff.mp hget)
        exact List.mem_map_of_mem (List.mem_reverse.mpr (List.mem_map_of_mem hmem))
    | some m =>
        obtain ⟨e', -, heq⟩ := List.mem_map.mp (List.mem_reverse.mp (Keyed.mem_of_get? hget))
        obtain ⟨hsample, rfl⟩ := Prod.mk.inj heq
        rw [Event.sample_injective hsample]

end Metrics

end AlertDesk
