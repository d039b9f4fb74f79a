import AlertDesk.Proofs.Client.Answer
import AlertDesk.Proofs.Console.Put
import AlertDesk.Proofs.Record.Faults

/-!
# AlertDesk.Proofs.Console.PutCourse

A put from its file to its end.  There is a record to write (`Puts`) if the file
can be read, nothing went wrong in looking up its identifier, and what the file
holds decodes under the identifier that the lookup left (`CleanLookup`).  Then
the record is written and nothing more; otherwise the put fails behind the
lookup at the latest.

Main facts:

* `writesUnder_iff` — a lookup leaves an identifier if its response says that the
  record is there, or that it is not;
* `put_of_puts`, `put_of_not_puts` — all that a put can come to;
* `put_course` — what a put sends, prints and returns.
-/

namespace AlertDesk.Console

variable {k : Kind} {σ : Type} {token : CsrfToken} {p : σ} {v : Json} {fresh under : String}
variable {answer : (call : Call) → σ → call.Answer × σ} {record : k.Record}

/-! ## one step after the other -/

/-- The calls of a put before it writes: its lookup, if the file has an identifier. -/
def lookups (k : Kind) (v : Json) : List Event :=
  (fileId? v).toList.map fun id => .called (.get k id)

/-- A put that has a record writes it, and prints its identifier if that goes well. -/
def writing (answer : (call : Call) → σ → call.Answer × σ) (token : CsrfToken)
    (record : k.Record) (p : σ) : Run σ :=
  let call := Call.upsert k (Entity.encode record) token
  match (answer (.upsert k (Entity.encode record) token) p).1 with
  | .ok () => .done [.called call, printed (Entity.id record)] (answer call p).2
  | .error e => .failed (.portal e) [.called call] (answer call p).2

theorem writing_of_ok (h : (answer (.upsert k (Entity.encode record) token) p).1 = .ok ()) :
    writing answer token record p =
      .done [.called (.upsert k (Entity.encode record) token), printed (Entity.id record)]
        (answer (.upsert k (Entity.encode record) token) p).2 := by
  simp only [writing, h]

theorem writing_of_error {e : PortalError}
    (h : (answer (.upsert k (Entity.encode record) token) p).1 = .error e) :
    writing answer token record p =
      .failed (.portal e) [.called (.upsert k (Entity.encode record) token)]
        (answer (.upsert k (Entity.encode record) token) p).2 := by
  simp only [writing, h]

theorem portal_writing (p : σ) : (writing answer token record p).portal =
    (answer (.upsert k (Entity.encode record) token) p).2 := by
  cases h : (answer (.upsert k (Entity.encode record) token) p).1 with
  | ok => rw [writing_of_ok h]; rfl
  | error e => rw [writing_of_error h]; rfl

theorem calls_writing (p : σ) : (writing answer token record p).calls =
    [.upsert k (Entity.encode record) token] := by
  cases h : (answer (.upsert k (Entity.encode record) token) p).1 with
  | ok => rw [writing_of_ok h]; rfl
  | error e => rw [writing_of_error h]; rfl

theorem putOver_of_error {form : EditForm k.Record} {e : PortalError}
    (h : (Entity.decode (withId v (Entity.id form.record)) : Except PortalError k.Record) =
      .error e) : putOver (.answering answer) token form v p = .failed (.portal e) [] p := by
  simp only [putOver, h]

theorem putOver_of_ok {form : EditForm k.Record}
    (h : Entity.decode (withId v (Entity.id form.record)) = .ok record) :
    putOver (.answering answer) token form v p = writing answer token record p := by
  have hid : Entity.id record ≠ "" := Kind.Record.id_ne_empty_of_decode h
  have hsave := EditForm.save_answered (f := form.edit fun _ => record) hid
    (Portal.answering_apply answer (.upsert _ _ token) p)
  rw [Kind.Record.kind_eq] at hsave
  simp only [EditForm.edit] at hsave
  simp only [putOver, h, EditForm.edit, hsave, writing, EditForm.saved]
  cases (answer (.upsert k (Entity.encode record) token) p).1 <;> rfl

/-- What a form has looked up. -/
theorem activate_named {form : EditForm k.Record} {id : String} :
    form.activate (.answering answer) (some id) fresh p =
      { form := ((form.startLoading id).loaded (answer (.get k id) p).1).1
        result := some ((form.startLoading id).loaded (answer (.get k id) p).1).2
        calls := [.get k id], portal := (answer (.get k id) p).2 } := by
  have hturn : form.activate (.answering answer) (some id) fresh p = _ :=
    EditForm.activate_answered (Portal.answering_apply answer (.get (Entity.kind k.Record) id) p)
  rwa [Kind.Record.kind_eq] at hturn

/-- A lookup that leaves an identifier is followed by the decoding of the file. -/
theorem putValue_of_writesUnder (token : CsrfToken)
    (h : WritesUnder k (lookup answer k p) v fresh under) :
    ∃ form : EditForm k.Record, Entity.id form.record = under ∧
      putValue (.answering answer) token k.Record v fresh p =
        (putOver (.answering answer) token form v (kept answer p (lookups k v))).after
          (lookups k v) := by
  cases h with
  | anew unnamed =>
      refine ⟨EditForm.initial.startNew fresh, Kind.Record.id_blank k fresh, ?_⟩
      simp only [putValue, lookups, fileId?_eq_none_iff.mpr unnamed]
      rfl
  | @create _ collection named names absent =>
      have hloaded := EditForm.loaded_of_error (f := EditForm.initial.startLoading under) absent
      refine ⟨{ (EditForm.initial : EditForm k.Record).startLoading under with
        phase := .editing, error := some (.notFound collection named) },
        Kind.Record.id_blank k under, ?_⟩
      simp only [putValue, lookups, fileId?_eq_some_iff.mpr names, activate_named, hloaded]
      rfl
  | @replace asked record names there =>
      have hloaded := EditForm.loaded_of_ok (f := EditForm.initial.startLoading asked) there
      refine ⟨{ (EditForm.initial : EditForm k.Record).startLoading asked with
        record, phase := .editing }, rfl, ?_⟩
      simp only [putValue, lookups, fileId?_eq_some_iff.mpr names, activate_named, hloaded]
      rfl

/-- A lookup that leaves none is where a put ends. -/
theorem putValue_of_not_writesUnder (token : CsrfToken)
    (h : ∀ under, ¬ WritesUnder k (lookup answer k p) v fresh under) :
    ∃ e, putValue (.answering answer) token k.Record v fresh p =
      .failed (.portal e) (lookups k v) (kept answer p (lookups k v)) := by
  cases hfile : fileId? v with
  | none => exact absurd (.anew (fileId?_eq_none_iff.mp hfile)) (h fresh)
  | some asked =>
      have names := fileId?_eq_some_iff.mp hfile
      cases hlookup : lookup answer k p asked with
      | ok record => exact absurd (.replace names hlookup) (h _)
      | error e =>
          have hclean : clean (.error e) = .error e := by
            cases e with
            | notFound collection named => exact absurd (.create names hlookup) (h asked)
            | _ => rfl
          have hloaded :=
            EditForm.loaded_of_error (f := EditForm.initial.startLoading asked) hlookup
          refine ⟨e, ?_⟩
          simp only [putValue, lookups, hfile, activate_named, hloaded, Option.map_some, hclean]
          rfl

/-! ## with a client -/

section

variable {c : Client} {script : Script} {file : Except FileFault String}

/-- What the responses to a lookup leave to write under; `v` is the value of the file. -/
inductive CleanLookup (c : Client) (script : Script) (k : Kind) (v : Json) (fresh : String) :
    String → Prop
  /-- A file without an identifier is not looked up. -/
  | unneeded (unnamed : ∀ asked, ¬ Names v asked) : CleanLookup c script k v fresh fresh
  | absent {asked : String} {status : Status} {body : List UInt8} {complete : Bool}
      (names : Names v asked) (replied : c.Replied script (.get k asked) 0 status body complete)
      (code : status.code = 404) : CleanLookup c script k v fresh asked
  | there {asked : String} {status : Status} {body : List UInt8} {complete : Bool} {found : Json}
      {record : k.Record} (names : Names v asked)
      (replied : c.Replied script (.get k asked) 0 status body complete)
      (success : status.isSuccess = true) (read : bodyValue body complete = .ok found)
      (decodes : Entity.decode found = .ok record) :
      CleanLookup c script k v fresh (Entity.id record)

theorem Names.inj {a b : String} (ha : Names v a) (hb : Names v b) : a = b :=
  Json.str.inj (Option.some.inj (ha.1.symm.trans hb.1))

theorem CleanLookup.inj {a b : String} (ha : CleanLookup c script k v fresh a)
    (hb : CleanLookup c script k v fresh b) : a = b := by
  cases ha with
  | unneeded unnamed =>
      cases hb with
      | unneeded => rfl
      | absent names | there names => exact absurd names (unnamed _)
  | absent names replied code =>
      cases hb with
      | unneeded unnamed => exact absurd names (unnamed _)
      | absent names' => exact names.inj names'
      | there names' replied' success =>
          obtain ⟨rfl, -, -⟩ := replied.inj replied'
          simp [Status.isSuccess, code] at success
  | there names replied success read decodes =>
      cases hb with
      | unneeded unnamed => exact absurd names (unnamed _)
      | absent names' replied' code =>
          obtain ⟨rfl, -, -⟩ := replied.inj replied'
          simp [Status.isSuccess, code] at success
      | there names' replied' success' read' decodes' =>
          obtain ⟨-, rfl, rfl⟩ := replied.inj replied'
          obtain rfl := Except.ok.inj (read.symm.trans read')
          rw [Except.ok.inj (decodes.symm.trans decodes')]

/-- A record that cannot be decoded is not taken for one that is not there. -/
theorem lookup_notFound_iff {asked : String} {j : Journal} :
    (∃ collection named, lookup (c.answer script) k j asked = .error (.notFound collection named)) ↔
      ∃ collection named,
        (c.answer script (.get k asked) j).1 = .error (.notFound collection named) := by
  simp only [lookup]
  cases (c.answer script (.get k asked) j).1 with
  | error e => simp [Except.bind]
  | ok found =>
      refine iff_of_false ?_ nofun
      rintro ⟨collection, named, h⟩
      exact Kind.Record.faults_decode k found _ h

/-- **A lookup leaves an identifier** if its response says that the record is
there, or that it is not. -/
theorem writesUnder_iff : WritesUnder k (lookup (c.answer script) k {}) v fresh under ↔
    CleanLookup c script k v fresh under := by
  constructor
  · intro h
    cases h with
    | anew unnamed => exact .unneeded unnamed
    | create names absent =>
        have hget := lookup_notFound_iff.mp ⟨_, _, absent⟩
        obtain ⟨status, body, complete, replied, code⟩ := Client.get_notFound_iff.mp hget
        exact .absent names replied code
    | replace names there =>
        obtain ⟨found, hget, decodes⟩ := bind_eq_ok_iff.mp there
        obtain ⟨status, body, complete, replied, success, read⟩ := Client.get_eq_ok_iff.mp hget
        exact .there names replied success read decodes
  · intro h
    cases h with
    | unneeded unnamed => exact .anew unnamed
    | absent names replied code =>
        have hget := Client.get_notFound_iff (j := {}).mpr ⟨_, _, _, replied, code⟩
        obtain ⟨collection, named, hlookup⟩ := lookup_notFound_iff.mpr hget
        exact .create names hlookup
    | there names replied success read decodes =>
        have hget := Client.get_eq_ok_iff (j := {}).mpr ⟨_, _, _, replied, success, read⟩
        exact .replace names (bind_eq_ok_iff.mpr ⟨_, hget, decodes⟩)

/-- The file can be read, its lookup comes out clean, and what it holds decodes as the record. -/
def Puts (c : Client) (script : Script) (k : Kind) (file : Except FileFault String)
    (fresh : String) (record : k.Record) : Prop :=
  ∃ text v under, file = .ok text ∧ Json.read? text = .ok v ∧
    CleanLookup c script k v fresh under ∧ Entity.decode (withId v under) = .ok record

/-- There is one record to write at most. -/
theorem Puts.inj {r r' : k.Record} (h : Puts c script k file fresh r)
    (h' : Puts c script k file fresh r') : r = r' := by
  obtain ⟨text, v, under, rfl, read, hclean, decodes⟩ := h
  obtain ⟨text', v', under', htext, read', hclean', decodes'⟩ := h'
  obtain rfl := Except.ok.inj htext
  obtain rfl := Except.ok.inj (read.symm.trans read')
  obtain rfl := hclean.inj hclean'
  exact Except.ok.inj (decodes.symm.trans decodes')

/-- The calls of a put before it writes. -/
inductive Lookups (k : Kind) (file : Except FileFault String) : List Event → Prop
  | none : Lookups k file []
  | one {text asked : String} {v : Json} (is : file = .ok text) (read : Json.read? text = .ok v)
      (names : Names v asked) : Lookups k file [.called (.get k asked)]

theorem lookups_lookups {text : String} (hfile : file = .ok text) (read : Json.read? text = .ok v) :
    Lookups k file (lookups k v) := by
  unfold lookups
  cases hid : fileId? v with
  | none => exact .none
  | some asked => exact .one hfile read (fileId?_eq_some_iff.mp hid)

/-- A clean lookup is followed by the write, if the file decodes under what it left. -/
theorem put_of_cleanLookup (token : CsrfToken) {text : String} (read : Json.read? text = .ok v)
    (hclean : CleanLookup c script k v fresh under)
    (decodes : Entity.decode (withId v under) = .ok record) :
    put (c.portal script) token k.Record (.ok text) fresh {} =
      (writing (c.answer script) token record (kept (c.answer script) {} (lookups k v))).after
        (lookups k v) := by
  obtain ⟨form, rfl, hput⟩ := putValue_of_writesUnder token (writesUnder_iff.mpr hclean)
  simp only [put, read, Client.portal, hput, putOver_of_ok decodes]

/-- **With a record to write**, a put writes it behind its lookup. -/
theorem put_of_puts (token : CsrfToken) (h : Puts c script k file fresh record) :
    ∃ before, Lookups k file before ∧ put (c.portal script) token k.Record file fresh {} =
      (writing (c.answer script) token record (kept (c.answer script) {} before)).after before := by
  obtain ⟨text, v, under, rfl, read, hclean, decodes⟩ := h
  exact ⟨lookups k v, lookups_lookups rfl read, put_of_cleanLookup token read hclean decodes⟩

/-- **Without a record to write**, a put fails behind its lookup. -/
theorem put_of_not_puts (token : CsrfToken)
    (h : ∀ record, ¬ Puts c script k file fresh record) :
    ∃ before fault, Lookups k file before ∧ put (c.portal script) token k.Record file fresh {} =
      .failed fault before (kept (c.answer script) {} before) := by
  cases file with
  | error fault => exact ⟨[], .file fault, .none, rfl⟩
  | ok text =>
      cases read : Json.read? text with
      | error reason => exact ⟨[], .json reason, .none, by simp only [put, read, kept]⟩
      | ok v =>
          refine ⟨lookups k v, ?_⟩
          by_cases hclean : ∃ under, WritesUnder k (lookup (c.answer script) k {}) v fresh under
          · obtain ⟨under, hunder⟩ := hclean
            obtain ⟨form, rfl, hput⟩ := putValue_of_writesUnder token hunder
            cases decodes : (Entity.decode (withId v (Entity.id form.record)) :
                Except PortalError k.Record) with
            | ok record =>
                have hputs : Puts c script k (.ok text) fresh record :=
                  ⟨text, v, _, rfl, read, writesUnder_iff.mp hunder, decodes⟩
                exact absurd hputs (h record)
            | error e =>
                refine ⟨.portal e, lookups_lookups rfl read, ?_⟩
                simp only [put, read, Client.portal, hput, putOver_of_error decodes, Run.after,
                  Run.failed, List.append_nil]
          · obtain ⟨e, hput⟩ := putValue_of_not_writesUnder token (not_exists.mp hclean)
            refine ⟨.portal e, lookups_lookups rfl read, ?_⟩
            simp only [put, read, Client.portal, hput]

/-! ## what is sent and what is printed -/

/-- The request is the one for the record with the identifier of the file. -/
def LooksUp (c : Client) (k : Kind) (file : Except FileFault String) (r : Request) : Prop :=
  ∃ text v asked, file = .ok text ∧ Json.read? text = .ok v ∧ Names v asked ∧
    c.Sends (.get k asked) r

/-- What a lookup leaves in the journal. -/
structure Looked (c : Client) (k : Kind) (file : Except FileFault String)
    (looked : List (Request × Outcome)) : Prop where
  sublist : (looked.map fun x => x.1.method).Sublist ["GET"]
  looksUp : ∀ x ∈ looked, LooksUp c k file x.1

namespace Looked

variable {looked new : List (Request × Outcome)} {body : Json}

theorem method (h : Looked c k file looked) : ∀ x ∈ looked, x.1.method = "GET" := by
  intro x hx
  have hmem := h.sublist.subset (List.mem_map_of_mem hx)
  exact List.mem_singleton.mp hmem

/-- Behind a lookup, a GET is the lookup. -/
theorem looksUp_of_get (h : Looked c k file looked)
    (leaves : c.Leaves script (.upsert k body token) looked.length new) :
    ∀ x ∈ looked ++ new, x.1.method = "GET" → LooksUp c k file x.1 := by
  intro x hx hmethod
  obtain hx | hx := List.mem_append.mp hx
  · exact h.looksUp x hx
  · simp [(Client.request_of_sends (leaves.mem_iff.mp hx).1).1, Call.verb] at hmethod

/-- And a PUT is the write. -/
theorem mem_put_iff (h : Looked c k file looked)
    (leaves : c.Leaves script (.upsert k body token) looked.length new)
    {x : Request × Outcome} : x ∈ looked ++ new ∧ x.1.method = "PUT" ↔
      c.Sends (.upsert k body token) x.1 ∧ x.2 = script looked.length := by
  rw [List.mem_append, ← leaves.mem_iff]
  constructor
  · rintro ⟨hx | hx, hmethod⟩
    · simp [h.method x hx] at hmethod
    · exact hx
  · intro hx
    exact ⟨.inr hx, (Client.request_of_sends (leaves.mem_iff.mp hx).1).1⟩

theorem exists_put_iff (h : Looked c k file looked)
    (leaves : c.Leaves script (.upsert k body token) looked.length new) {P : Outcome → Prop} :
    (∃ x ∈ looked ++ new, x.1.method = "PUT" ∧ P x.2) ↔
      c.CanSend (.upsert k body token) ∧ P (script looked.length) := by
  constructor
  · rintro ⟨x, hx, hmethod, holds⟩
    obtain ⟨sent, houtcome⟩ := (h.mem_put_iff leaves).mp ⟨hx, hmethod⟩
    exact ⟨⟨x.1, sent⟩, houtcome ▸ holds⟩
  · rintro ⟨⟨r, sent⟩, holds⟩
    obtain ⟨hx, hmethod⟩ :=
      (h.mem_put_iff leaves (x := (r, script looked.length))).mpr ⟨sent, rfl⟩
    exact ⟨_, hx, hmethod, holds⟩

end Looked

namespace Lookups

variable {before : List Event}

theorem looked (h : Lookups k file before) :
    Looked c k file (kept (c.answer script) {} before).exchanges := by
  cases h with
  | none => exact ⟨List.nil_sublist _, by simp [kept, Journal.exchanges]⟩
  | @one text asked v hfile read names =>
      obtain ⟨new, leaves, hnew⟩ := c.exists_leaves script (.get k asked) {}
      rw [kept, kept, hnew]
      refine ⟨leaves.sublist, fun x hx => ?_⟩
      exact ⟨text, v, asked, hfile, read, names, (leaves.mem_iff.mp hx).1⟩

theorem stdout (h : Lookups k file before) : String.join (before.map Event.toStdout) = "" := by
  cases h <;> rfl

/-- Nothing is written before the lookup is over. -/
theorem not_upsert (h : Lookups k file before) {body : Json} :
    .upsert k body token ∉ before.filterMap Event.call? := by
  cases h <;> simp [Event.call?]

end Lookups

/-- Without a record to write nothing is written, and the put fails. -/
theorem put_fails (token : CsrfToken) (h : ∀ record, ¬ Puts c script k file fresh record) :
    let run := put (c.portal script) token k.Record file fresh {}
    Looked c k file run.portal.exchanges ∧ (∀ body, .upsert k body token ∉ run.calls) ∧
      (∃ fault, run.result = some (.error fault)) ∧ run.stdout = "" := by
  obtain ⟨before, fault, hbefore, hput⟩ := put_of_not_puts token h
  rw [hput]
  exact ⟨hbefore.looked, fun body => hbefore.not_upsert, ⟨fault, rfl⟩, hbefore.stdout⟩

/-- With a record to write the put makes its write, and ends as that ends. -/
theorem put_writes (token : CsrfToken) (h : Puts c script k file fresh record) :
    let run := put (c.portal script) token k.Record file fresh {}
    let call := Call.upsert k (Entity.encode record) token
    ∃ looked new, Looked c k file looked ∧ c.Leaves script call looked.length new ∧
      run.portal.exchanges = looked ++ new ∧
      (∀ body, .upsert k body token ∈ run.calls ↔ body = Entity.encode record) ∧
      (c.CanSend call ∧ (script looked.length).Succeeds →
        run.result = some (.ok ()) ∧ run.stdout = Entity.id record ++ "\n") ∧
      (¬ (c.CanSend call ∧ (script looked.length).Succeeds) →
        (∃ fault, run.result = some (.error fault)) ∧ run.stdout = "") := by
  intro run call
  obtain ⟨before, hbefore, hput⟩ := put_of_puts token h
  have hrun : run = _ := hput
  obtain ⟨new, leaves, hnew⟩ := c.exists_leaves script call (kept (c.answer script) {} before)
  refine ⟨_, new, hbefore.looked, leaves, ?_, fun body => ?_, fun hsuccess => ?_,
    fun hfailure => ?_⟩
  · rw [hrun, portal_after, portal_writing, hnew]
  · rw [hrun, calls_after, calls_writing, List.mem_append, or_iff_right hbefore.not_upsert]
    simp
  · rw [hrun, writing_of_ok (Client.upsert_eq_ok_iff.mpr hsuccess)]
    refine ⟨rfl, ?_⟩
    simp [Run.stdout, Run.done, hbefore.stdout, Event.toStdout, printed]
  · cases hanswer : (c.answer script call (kept (c.answer script) {} before)).1 with
    | ok => exact absurd (Client.upsert_eq_ok_iff.mp hanswer) hfailure
    | error e =>
        rw [hrun, writing_of_error hanswer]
        refine ⟨⟨_, rfl⟩, ?_⟩
        simp [Run.stdout, Run.failed, hbefore.stdout, Event.toStdout]

/-- **A put writes behind a clean lookup, and not otherwise.**  Whatever the file
holds and the server answers, a put sends one GET and one PUT of its own at most, in
this order, and the GET asks for the identifier of the file.  It makes its write if
there is a record to write, and the write is that record; it sends a PUT if there is
one and the client can send it, and the body of every PUT is what is written of the
record.  The put succeeds if and only if the response that the PUT gets in the end is
a success; it then prints the identifier of the record, and otherwise fails without
printing anything.  Without redirects nothing else goes over the wire; with them, what
follows these two requests, and a PUT behind one repeats its own.  The record is that
of the file with the identifier set and nothing else changed. -/
theorem put_course (c : Client) (script : Script) (token : CsrfToken) (k : Kind)
    (file : Except FileFault String) (fresh : String) :
    let run := put (c.portal script) token k.Record file fresh {}
    let sent := run.portal.exchanges
    let puts := Puts c script k file fresh
    (sent.map fun x => x.1.method).Sublist ["GET", "PUT"] ∧
    (∀ x ∈ sent, x.1.method = "GET" → LooksUp c k file x.1) ∧
    (∀ body, .upsert k body token ∈ run.calls ↔
      ∃ record, puts record ∧ body = Entity.encode record) ∧
    ((∃ x ∈ sent, x.1.method = "PUT") ↔
      ∃ record, puts record ∧ c.CanSend (.upsert k (Entity.encode record) token)) ∧
    (∀ x ∈ sent, x.1.method = "PUT" →
      ∃ record, puts record ∧ x.1.body = some (Entity.encode record)) ∧
    (run.result = some (.ok ()) ↔ ∃ x ∈ sent, x.1.method = "PUT" ∧ x.2.Succeeds) ∧
    (run.result = some (.ok ()) → ∃ record, puts record ∧
      run.stdout = Entity.id record ++ "\n") ∧
    (run.result ≠ some (.ok ()) → (∃ fault, run.result = some (.error fault)) ∧
      run.stdout = "") ∧
    ((∀ x ∈ sent, x.2.Direct) → run.portal.wire.map (fun x => (x.1.request, x.2)) = sent) ∧
    (∀ x ∈ run.portal.wire, x.1.request.method = "PUT" →
      ∃ y ∈ sent, y.1.method = "PUT" ∧ x.1.request.body = y.1.body) ∧
    ∀ v id, Identified id v (withId v id) := by
  intro run sent puts
  have direct : (∀ x ∈ sent, x.2.Direct) →
      run.portal.wire.map (fun x => (x.1.request, x.2)) = sent := Journal.wire_of_direct
  have repeated : ∀ x ∈ run.portal.wire, x.1.request.method = "PUT" →
      ∃ y ∈ sent, y.1.method = "PUT" ∧ x.1.request.body = y.1.body := by
    intro x hx hput
    obtain ⟨y, hy, method, body⟩ := Journal.exchange_of_mem_wire hx (by simp [hput])
    exact ⟨y, hy, method.trans hput, body⟩
  by_cases hrecord : ∃ record, puts record
  · obtain ⟨record, hputs⟩ := hrecord
    have hone : ∀ r, puts r ↔ r = record := fun r => ⟨fun h => h.inj hputs, fun h => h ▸ hputs⟩
    obtain ⟨looked, new, hlooked, leaves, hall, hcalls, hsuccess, hfailure⟩ :=
      put_writes token hputs
    have hsent : sent = looked ++ new := hall
    have hresult : run.result = some (.ok ()) ↔
        c.CanSend (.upsert k (Entity.encode record) token) ∧ (script looked.length).Succeeds := by
      refine ⟨fun h => ?_, fun h => (hsuccess h).1⟩
      by_contra hnot
      obtain ⟨⟨fault, hfault⟩, -⟩ := hfailure hnot
      simp [run, hfault] at h
    refine ⟨?_, ?_, ?_, ?_, ?_, ?_, ?_, ?_, direct, repeated, identified_withId⟩
    · rw [hsent, List.map_append]
      exact hlooked.sublist.append leaves.sublist
    · rw [hsent]
      exact hlooked.looksUp_of_get leaves
    · simpa only [hone, exists_eq_left] using hcalls
    · rw [hsent]
      simpa [hone] using hlooked.exists_put_iff leaves (P := fun _ => True)
    · intro x hx hmethod
      rw [hsent] at hx
      exact ⟨record, hputs,
        (Client.request_of_sends ((hlooked.mem_put_iff leaves).mp ⟨hx, hmethod⟩).1).2⟩
    · rw [hsent]
      exact hresult.trans (hlooked.exists_put_iff leaves).symm
    · exact fun h => ⟨record, hputs, (hsuccess (hresult.mp h)).2⟩
    · exact fun h => hfailure (mt hresult.mpr h)
  · have hnone : ∀ record, ¬ puts record := not_exists.mp hrecord
    obtain ⟨hlooked, hcalls, ⟨fault, hfault⟩, hstdout⟩ := put_fails token hnone
    have hput : ∀ x ∈ sent, x.1.method ≠ "PUT" := fun x hx => by simp [hlooked.method x hx]
    have hresult : run.result ≠ some (.ok ()) := by simp [run, hfault]
    refine ⟨hlooked.sublist.trans (by decide), fun x hx _ => hlooked.looksUp x hx, ?_, ?_,
      fun x hx hmethod => absurd hmethod (hput x hx), ?_, fun h => absurd h hresult,
      fun _ => ⟨⟨fault, hfault⟩, hstdout⟩, direct, repeated, identified_withId⟩
    · simp [run, hcalls, hnone]
    · refine iff_of_false ?_ ?_
      · rintro ⟨x, hx, hmethod⟩
        exact hput x hx hmethod
      · rintro ⟨record, hputs, -⟩
        exact hnone record hputs
    · refine iff_of_false hresult ?_
      rintro ⟨x, hx, hmethod, -⟩
      exact hput x hx hmethod

/-- A PUT that is redirected to a page is not the last request, and succeeds if the
page does. -/
theorem put_redirected :
    let login : Url := { scheme := "http", host := some "portal", path := .segments ["login"] }
    let script := Script.ofList [.redirect .fetch login (.reply ⟨200, by decide⟩ [] true)]
    let run := put (Client.desk.portal script) ⟨"t"⟩ Kind.alert.Record
      (.ok "[\"a1\", \"disk\"]") "f" {}
    run.result = some (.ok ()) ∧ run.stdout = "a1\n" ∧
      run.portal.wire.map (fun x => (x.1.request.method, x.1.request.target)) =
        [("PUT", "/desk/v1/alerts"), ("GET", "/login")] := by
  decide +kernel

/-- A list is read by position; it has no identifier to look up, and none is set. -/
example :
    let done : Outcome := .reply ⟨204, by decide⟩ [] true
    let run := put (Client.desk.portal (.ofList [done])) ⟨"t"⟩ Kind.alert.Record
      (.ok "[\"a1\", \"disk\"]") "f" {}
    run.stdout = "a1\n" ∧ run.portal.exchanges.map (fun x => x.1.method) = ["PUT"] := by
  decide +kernel

end

end AlertDesk.Console
