import AlertDesk.Proofs.Client.Answer
import AlertDesk.Proofs.Metrics

/-!
# AlertDesk.Proofs.Client.Counts

What a client counts.

A `Visit` is a call together with what came of its request, if it sent one.  What
a call adds to the counts is decided by its visit alone (`events_answer`): it is
timed, and counted once more unless it was refused, as a success if a response
said so and as a failure otherwise.  So what many calls add up to depends on
their visits, in whichever order (`events_run`).

Main facts:

* `events_answer` — what one call adds to the counts;
* `events_run`, `count_run` — what many calls add up to;
* `calls_counted` — every call is accounted for once.
-/

namespace AlertDesk

open Metrics (Event)

/-- Whether a response says that the request was carried out. -/
instance (o : Outcome) : Decidable o.Succeeds :=
  decidable_of_iff (∃ response ∈ o.response?, response.status.isSuccess = true)
    ⟨fun ⟨⟨status, body, complete⟩, heq, h⟩ => ⟨status, body, complete, heq, h⟩,
      fun ⟨status, body, complete, heq, h⟩ => ⟨⟨status, body, complete⟩, heq, h⟩⟩

/-- The labels under which a call is counted. -/
def Call.Labelled (kind : Kind) (method : Metrics.Method) (call : Call) : Prop :=
  call.kind = kind ∧ call.method = method

instance (kind : Kind) (method : Metrics.Method) (call : Call) :
    Decidable (call.Labelled kind method) :=
  inferInstanceAs (Decidable (call.kind = kind ∧ call.method = method))

/-- A call that was made, and what came of its request, if it sent one. -/
structure Visit where
  call : Call
  outcome : Option Outcome

/-- A response said that the request was carried out. -/
def Visit.Succeeded (v : Visit) : Prop := ∃ o ∈ v.outcome, o.Succeeds

@[simp] theorem succeeded_some (call : Call) (o : Outcome) :
    (⟨call, some o⟩ : Visit).Succeeded ↔ o.Succeeds := by
  simp [Visit.Succeeded]

@[simp] theorem not_succeeded_none (call : Call) : ¬ (⟨call, none⟩ : Visit).Succeeded := by
  simp [Visit.Succeeded]

instance (v : Visit) : Decidable v.Succeeded :=
  inferInstanceAs (Decidable (∃ o ∈ v.outcome, o.Succeeds))

namespace Client

variable {c : Client} {script : Script} {call : Call} {j : Journal} {kind : Kind}
  {method : Metrics.Method} {v : Visit}

instance (call : Call) : Decidable (c.Refuses call) :=
  decidable_of_iff ((c.url call).toOption = none) <| by
    rw [refuses_iff_url]
    cases c.url call <;> simp [Except.toOption]

/-! ## one call -/

/-- A call, and what came of its request. -/
def visit (c : Client) (script : Script) (call : Call) (j : Journal) : Visit where
  call
  outcome := (c.answer script call j).2.exchanges[j.exchanges.length]?.map Prod.snd

theorem visit_of_canSend (h : c.CanSend call) :
    c.visit script call j = ⟨call, some (script j.exchanges.length)⟩ := by
  obtain ⟨new, leaves, hnew⟩ := c.exists_leaves script call j
  cases leaves with
  | nothing unsent => exact absurd h unsent
  | request sent => simp [visit, hnew]

theorem visit_of_not_canSend (h : ¬ c.CanSend call) : c.visit script call j = ⟨call, none⟩ := by
  obtain ⟨new, leaves, hnew⟩ := c.exists_leaves script call j
  cases leaves with
  | nothing unsent => simp [visit, hnew]
  | request sent => exact absurd ⟨_, sent⟩ h

/-- How a visit is counted, besides being timed. -/
def counted (c : Client) (v : Visit) : Option Metrics.Status :=
  if v.Succeeded then some .success else if c.Refuses v.call then none else some .failure

/-- What a visit adds to the counts. -/
def eventsOf (c : Client) (v : Visit) : List Event :=
  (c.counted v).toList.map (Event.request v.call.kind v.call.method) ++
    [.timed v.call.kind v.call.method]

theorem nodup_eventsOf (c : Client) (v : Visit) : (c.eventsOf v).Nodup := by
  cases h : c.counted v <;> simp [eventsOf, h]

theorem timed_mem_eventsOf : .timed kind method ∈ c.eventsOf v ↔ v.call.Labelled kind method := by
  simp [eventsOf, Call.Labelled, eq_comm]

theorem request_mem_eventsOf {status : Metrics.Status} :
    .request kind method status ∈ c.eventsOf v ↔
      v.call.Labelled kind method ∧ c.counted v = some status := by
  cases h : c.counted v with
  | none => simp [eventsOf, h]
  | some counted =>
      simp only [eventsOf, h, Option.toList_some, List.map_cons, List.map_nil, List.mem_append,
        List.mem_singleton, Event.request.injEq, reduceCtorEq, or_false, Option.some.injEq,
        Call.Labelled]
      constructor
      · rintro ⟨rfl, rfl, rfl⟩
        exact ⟨⟨rfl, rfl⟩, rfl⟩
      · rintro ⟨⟨rfl, rfl⟩, rfl⟩
        exact ⟨rfl, rfl, rfl⟩

theorem counted_eq_success_iff : c.counted v = some .success ↔ v.Succeeded := by
  unfold counted
  split
  · next h => exact iff_of_true rfl h
  · next h => split <;> simp [h]

theorem counted_eq_failure_iff :
    c.counted v = some .failure ↔ ¬ v.Succeeded ∧ ¬ c.Refuses v.call := by
  unfold counted
  split
  · next h => simp [h]
  · next h => split <;> simp [*]

/-- **What one call adds to the counts.** -/
theorem events_answer (c : Client) (script : Script) (call : Call) (j : Journal) :
    (c.answer script call j).2.events = j.events ++ c.eventsOf (c.visit script call j) := by
  by_cases hsend : c.CanSend call
  · obtain ⟨r, hsends⟩ := hsend
    obtain ⟨u, p, hurl, hbuild, -⟩ := sends_iff.mp hsends
    have hrefused : ¬ c.Refuses call := by simp [refuses_iff_url, hurl]
    rw [visit_of_canSend ⟨r, hsends⟩]
    cases hresponse : (script j.exchanges.length).response? with
    | none =>
        obtain ⟨reason, hsettle⟩ := Prepared.exists_settle_eq_error p.url hresponse
        simp [answer, perform, hurl, hbuild, send, hsettle, eventsOf, counted, hrefused,
          Outcome.not_succeeds hresponse]
    | some response =>
        have hsettle := Prepared.settle_eq_ok_iff (u := p.url).mpr hresponse
        cases hsuccess : response.status.isSuccess <;>
          simp [answer, perform, hurl, hbuild, send, hsettle, eventsOf, counted, hrefused,
            Outcome.succeeds_iff hresponse, hsuccess]
  · rw [visit_of_not_canSend hsend]
    cases hurl : c.url call with
    | error e =>
        have hrefused : c.Refuses call := refuses_iff_url.mpr ⟨e, hurl⟩
        simp [answer, perform, hurl, eventsOf, counted, hrefused]
    | ok u =>
        have hrefused : ¬ c.Refuses call := by simp [refuses_iff_url, hurl]
        cases hbuild : Prepared.build call u with
        | error reason =>
            simp [answer, perform, hurl, hbuild, eventsOf, counted, hrefused]
        | ok p => exact absurd ⟨_, sends_iff.mpr ⟨u, p, hurl, hbuild, rfl⟩⟩ hsend

/-! ## many calls -/

/-- Makes calls in turn. -/
def run (c : Client) (script : Script) : List Call → Journal → Journal
  | [], j => j
  | call :: calls, j => c.run script calls (c.answer script call j).2

/-- The calls, each with what came of its request. -/
def visits (c : Client) (script : Script) : List Call → Journal → List Visit
  | [], _ => []
  | call :: calls, j => c.visit script call j :: c.visits script calls (c.answer script call j).2

theorem calls_visits (c : Client) (script : Script) (calls : List Call) (j : Journal) :
    (c.visits script calls j).map Visit.call = calls := by
  induction calls generalizing j with
  | nil => rfl
  | cons call calls ih => rw [visits, List.map_cons, ih, visit]

/-- **What many calls add up to**, visit by visit. -/
theorem events_run (c : Client) (script : Script) (calls : List Call) (j : Journal) :
    (c.run script calls j).events =
      j.events ++ (c.visits script calls j).flatMap c.eventsOf := by
  induction calls generalizing j with
  | nil => simp [run, visits]
  | cons call calls ih =>
      rw [run, ih, events_answer, visits, List.flatMap_cons, List.append_assoc]

/-- **A count is the number of visits that add to it.** -/
theorem count_run (c : Client) (script : Script) (calls : List Call) (e : Event) :
    Metrics.count (c.run script calls {}).events e =
      (c.visits script calls {}).countP fun v => e ∈ c.eventsOf v := by
  have hcount : ∀ vs : List Visit, (vs.flatMap c.eventsOf).count e =
      vs.countP fun v => e ∈ c.eventsOf v := by
    intro vs
    induction vs with
    | nil => rfl
    | cons v vs ih =>
        rw [List.flatMap_cons, List.count_append, ih, (nodup_eventsOf c v).count,
          List.countP_cons, Nat.add_comm]
        simp
  rw [Metrics.count, events_run, List.nil_append, hcount]

/-- A call that is refused gets no response. -/
theorem not_succeeded_of_mem {calls : List Call} (h : v ∈ c.visits script calls j)
    (hrefused : c.Refuses v.call) : ¬ v.Succeeded := by
  induction calls generalizing j with
  | nil => contradiction
  | cons call calls ih =>
      obtain rfl | h := List.mem_cons.mp h
      · have unsent : ¬ c.CanSend call := not_canSend_of_refuses hrefused
        rw [visit_of_not_canSend unsent]
        exact not_succeeded_none call
      · exact ih h

/-- Every visit is a success, a failure, or was refused. -/
theorem countP_labelled {vs : List Visit} (h : ∀ v ∈ vs, c.Refuses v.call → ¬ v.Succeeded) :
    (vs.countP fun v => v.call.Labelled kind method ∧ v.Succeeded) +
      (vs.countP fun v => v.call.Labelled kind method ∧ ¬ v.Succeeded ∧ ¬ c.Refuses v.call) +
      (vs.countP fun v => v.call.Labelled kind method ∧ c.Refuses v.call) =
      vs.countP fun v => v.call.Labelled kind method := by
  have hsplit : ∀ p q : Visit → Bool,
      vs.countP p = (vs.countP fun v => p v && q v) + vs.countP fun v => p v && !q v := by
    intro p q
    rw [List.countP_eq_countP_filter_add vs p q, List.countP_filter, List.countP_filter]
  -- first by what was answered, and what was not a success by whether it was refused
  have hanswered := hsplit (fun v => v.call.Labelled kind method) (fun v => v.Succeeded)
  have hrest := hsplit (fun v => v.call.Labelled kind method && !decide v.Succeeded)
    (fun v => c.Refuses v.call)
  have hrefused : (vs.countP fun v => v.call.Labelled kind method && !decide v.Succeeded &&
      decide (c.Refuses v.call)) =
      vs.countP fun v => v.call.Labelled kind method ∧ c.Refuses v.call := by
    refine List.countP_congr fun v hv => ?_
    simpa using fun hrefused _ => h v hv hrefused
  simp only [← Bool.decide_and, ← decide_not, and_assoc] at hanswered hrest hrefused ⊢
  omega

/-- Only calls that fetch or delete a record are refused. -/
theorem method_of_refuses (h : c.Refuses call) : call.method = .get ∨ call.method = .delete := by
  obtain ⟨e, hurl⟩ := refuses_iff_url.mp h
  cases call with
  | get kind id => exact .inl rfl
  | delete kind id token => exact .inr rfl
  | query kind q => contradiction
  | upsert kind body token => contradiction

/-- **Every call is accounted for once.**  Under its kind and its method a call is
timed; it is a success if a response says so, whatever becomes of its body, and a
failure if none does and it was not refused.  The refused ones, which fetch or delete
a record, are all that successes and failures fall short of the calls, and no call is
counted as both.  A sample is there if its count is positive, and with that count.
The counts are those of any calls, in any order, that got the same responses. -/
theorem calls_counted (c : Client) (script : Script) (calls : List Call) :
    let visits := c.visits script calls {}
    let events := (c.run script calls {}).events
    visits.map Visit.call = calls ∧
    (∀ kind method,
      Metrics.count events (.timed kind method) =
        calls.countP (fun call => call.Labelled kind method) ∧
      Metrics.count events (.request kind method .success) =
        visits.countP (fun v => v.call.Labelled kind method ∧ v.Succeeded) ∧
      Metrics.count events (.request kind method .failure) =
        visits.countP (fun v => v.call.Labelled kind method ∧ ¬ v.Succeeded ∧
          ¬ c.Refuses v.call) ∧
      Metrics.count events (.request kind method .success) +
          Metrics.count events (.request kind method .failure) +
          calls.countP (fun call => call.Labelled kind method ∧ c.Refuses call) =
        Metrics.count events (.timed kind method)) ∧
    (∀ call, c.Refuses call → call.method = .get ∨ call.method = .delete) ∧
    (∀ call j, ∃ status? : Option Metrics.Status, (c.answer script call j).2.events =
      j.events ++ status?.toList.map (.request call.kind call.method) ++
        [.timed call.kind call.method]) ∧
    (∀ name n, (Metrics.samples events).get? name = some n ↔
      ∃ e : Event, e.sample = name ∧ Metrics.count events e = n ∧ 0 < n) ∧
    ∀ script' calls', (c.visits script' calls' {}).Perm visits →
      ∀ e, Metrics.count (c.run script' calls' {}).events e = Metrics.count events e := by
  intro visits events
  have hcalls : visits.map Visit.call = calls := calls_visits c script calls {}
  have htimed : ∀ kind method, Metrics.count events (.timed kind method) =
      visits.countP fun v => v.call.Labelled kind method := by
    intro kind method
    simp only [events, count_run, timed_mem_eventsOf]
    rfl
  have hsuccess : ∀ kind method, Metrics.count events (.request kind method .success) =
      visits.countP fun v => v.call.Labelled kind method ∧ v.Succeeded := by
    intro kind method
    simp only [events, count_run, request_mem_eventsOf, counted_eq_success_iff]
    rfl
  have hfailure : ∀ kind method, Metrics.count events (.request kind method .failure) =
      visits.countP fun v => v.call.Labelled kind method ∧ ¬ v.Succeeded ∧
        ¬ c.Refuses v.call := by
    intro kind method
    simp only [events, count_run, request_mem_eventsOf, counted_eq_failure_iff]
    rfl
  refine ⟨hcalls, fun kind method => ⟨?_, hsuccess kind method, hfailure kind method, ?_⟩,
    fun call => method_of_refuses, fun call j => ?_, fun name n => Metrics.get?_samples_eq_some_iff,
    fun script' calls' hperm e => ?_⟩
  · rw [htimed, ← hcalls, List.countP_map]
    rfl
  · rw [hsuccess, hfailure, htimed, ← hcalls, List.countP_map]
    exact countP_labelled fun v => not_succeeded_of_mem
  · refine ⟨c.counted (c.visit script call j), ?_⟩
    rw [events_answer, eventsOf, List.append_assoc]
    rfl
  · simp only [events, count_run]
    exact hperm.countP_eq _

/-- Of a call that is refused, one whose body is no record, and one that nothing
answers, the second succeeds and the third fails, also the other way round. -/
theorem calls_counted_desk :
    let calls : List Call := [.get .alert "", .get .alert "a1", .get .alert "a2"]
    let script : Script := .ofList [.reply ⟨200, by decide⟩ [] true, .dropped]
    let events := (desk.run script calls {}).events
    let turned := (desk.run (.ofList [.dropped, .reply ⟨200, by decide⟩ [] true])
      [.get .alert "a2", .get .alert "a1", .get .alert ""] {}).events
    Metrics.count events (.timed .alert .get) = 3 ∧
      Metrics.count events (.request .alert .get .success) = 1 ∧
      Metrics.count events (.request .alert .get .failure) = 1 ∧
      ∀ e, Metrics.count turned e = Metrics.count events e := by
  intro calls script events turned
  obtain ⟨-, hcounts, -, -, -, hperm⟩ := calls_counted desk script calls
  obtain ⟨htimed, hsuccess, hfailure, -⟩ := hcounts .alert .get
  have hvisits : desk.visits script calls {} = [⟨.get .alert "", none⟩,
      ⟨.get .alert "a1", some (.reply ⟨200, by decide⟩ [] true)⟩,
      ⟨.get .alert "a2", some .dropped⟩] := rfl
  refine ⟨htimed.trans (by decide), hsuccess.trans ?_, hfailure.trans ?_, hperm _ _ ?_⟩
  · rw [hvisits]
    decide
  · rw [hvisits]
    decide
  · exact List.reverse_perm (desk.visits script calls {})

end Client

end AlertDesk
