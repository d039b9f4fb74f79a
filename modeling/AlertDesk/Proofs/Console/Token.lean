import AlertDesk.Console
import AlertDesk.Proofs.Client.TokenSent
import AlertDesk.Proofs.ListScreen.Token

/-!
# AlertDesk.Proofs.Console.Token

What the token has an influence on: the header of the requests that change
something, and of those that follow them behind a redirect, and nothing else.

Every part of the console is followed with one token in place of another, from
the forms to whole runs: calls are the same apart from their token, and texts,
questions and results are the same (`Run.withToken`).  That a run is also what
it is with its own token in place of itself says which header each of its
requests has.

Main facts:

* `turn_withToken`, `attend_withToken` — one turn of a delete, and all of them;
* `execute_withToken` — every command;
* `token_confined` — runs whose settings differ in the token alone.
-/

namespace AlertDesk

variable {α σ : Type} {portal : Portal σ} {a b : CsrfToken} {change : σ → σ}

/-! ## forms -/

namespace EditForm

/-- What an operation leads to with another token. -/
def Turn.withToken (t : CsrfToken) (change : σ → σ) (turn : Turn α σ) : Turn α σ :=
  { turn with calls := turn.calls.map (Call.withToken t), portal := change turn.portal }

@[simp] theorem result_withToken (turn : Turn α σ) :
    (turn.withToken a change).result = turn.result := rfl

@[simp] theorem form_withToken (turn : Turn α σ) :
    (turn.withToken a change).form = turn.form := rfl

@[simp] theorem portal_withToken (turn : Turn α σ) :
    (turn.withToken a change).portal = change turn.portal := rfl

variable [Entity α]

theorem activate_withToken (h : portal.Indifferent a b change) (f : EditForm α)
    (id : Option String) (fresh : String) (p : σ) :
    f.activate portal id fresh (change p) = (f.activate portal id fresh p).withToken b change := by
  cases id with
  | none => rfl
  | some id =>
      simp only [activate, h.get]
      cases portal (.get (Entity.kind α) id) p with
      | mk answer p => cases answer <;> rfl

theorem save_withToken (h : portal.Indifferent a b change) (f : EditForm α) (p : σ) :
    f.save portal b (change p) = (f.save portal a p).withToken b change := by
  unfold save
  split
  · rfl
  · simp only [h.upsert]
    cases portal (.upsert (Entity.kind α) (Entity.encode f.record) a) p with
    | mk answer p => cases answer <;> rfl

end EditForm

namespace Console

open ListScreen (Session Note)

/-! ## events and runs -/

/-- The event with another token in its call. -/
def Event.withToken (t : CsrfToken) : Event → Event
  | .called call => .called (call.withToken t)
  | .printed text => .printed text
  | .warned text => .warned text
  | .asked question answer => .asked question answer

theorem Event.toStdout_withToken (t : CsrfToken) (event : Event) :
    (event.withToken t).toStdout = event.toStdout := by
  cases event <;> rfl

theorem Event.toStderr_withToken (t : CsrfToken) (event : Event) :
    (event.withToken t).toStderr = event.toStderr := by
  cases event <;> rfl

@[simp] theorem withToken_printed (t : CsrfToken) (line : String) :
    (printed line).withToken t = printed line := rfl

/-- The run with another token in its calls. -/
def Run.withToken (t : CsrfToken) (change : σ → σ) (run : Run σ) : Run σ :=
  { run with events := run.events.map (Event.withToken t), portal := change run.portal }

namespace Run

variable {t : CsrfToken} {run : Run σ} {events : List Event} {p : σ} {f : Fault}

theorem stdout_withToken : (run.withToken t change).stdout = run.stdout := by
  simp [stdout, withToken, Function.comp_def, Event.toStdout_withToken]

theorem stderr_withToken : (run.withToken t change).stderr = run.stderr := by
  simp [stderr, withToken, Function.comp_def, Event.toStderr_withToken]

theorem withToken_after : (run.after events).withToken t change =
    (run.withToken t change).after (events.map (Event.withToken t)) := by
  simp [withToken, after]

@[simp] theorem withToken_done : (done events p).withToken t change =
    done (events.map (Event.withToken t)) (change p) := rfl

@[simp] theorem withToken_failed : (failed f events p).withToken t change =
    failed f (events.map (Event.withToken t)) (change p) := rfl

@[simp] theorem withToken_waiting : (waiting events p).withToken t change =
    waiting (events.map (Event.withToken t)) (change p) := rfl

end Run

/-! ## what a screen did -/

variable {t : CsrfToken}

theorem callsOf_withToken (notes : List Note) :
    callsOf (notes.map (Note.withToken t)) = (callsOf notes).map (Event.withToken t) := by
  induction notes with
  | nil => rfl
  | cons note notes ih =>
      cases note <;> simp_all [callsOf, Note.withToken, Note.call?, Event.withToken]

theorem endingOf_withToken (notes : List Note) :
    endingOf (notes.map (Note.withToken t)) = endingOf notes := by
  rw [endingOf, List.findSome?_map]
  exact congrArg (fun f => (List.findSome? f notes).map Prod.snd)
    (funext fun _ => Note.finished?_withToken)

theorem delivered_withToken (notes : List Note) :
    (notes.map (Note.withToken t)).filterMap Note.delivered? =
      notes.filterMap Note.delivered? := by
  rw [List.filterMap_map]
  exact congrArg (List.filterMap · notes) (funext fun _ => Note.delivered?_withToken)

theorem staged_withToken (notes : List Note) :
    staged (notes.map (Note.withToken t)) = staged notes := by
  induction notes with
  | nil => rfl
  | cons note notes ih => cases note <;> simp_all [staged, Note.withToken]

theorem callsOfTurn_withToken (turn : EditForm.Turn α σ) :
    callsOfTurn (turn.withToken t change) = (callsOfTurn turn).map (Event.withToken t) := by
  simp [callsOfTurn, EditForm.Turn.withToken, Event.withToken]

/-! ## one page and one record -/

section Commands

variable [Entity α]

theorem list_withToken (h : portal.Indifferent a b change) (query : ListQuery) (p : σ) :
    list portal b α query (change p) = (list portal a α query p).withToken b change := by
  have hperform :
      ({ token := b } : Session α).perform portal (.query (some query)) (change p) = _ :=
    Session.perform_withToken h { token := a } (.query (some query)) p
  unfold list
  simp only [hperform, endingOf_withToken, callsOf_withToken]
  split <;> simp_all [Session.withToken, Function.comp_def]

theorem display_withToken (h : portal.Indifferent a b change) (id : String) (p : σ) :
    display portal α id (change p) = (display portal α id p).withToken b change := by
  unfold display
  simp only [EditForm.activate_withToken h, callsOfTurn_withToken, EditForm.result_withToken]
  split <;> simp_all

theorem new_withToken (h : portal.Indifferent a b change) (fresh : String) (p : σ) :
    new portal α fresh (change p) = (new portal α fresh p).withToken b change := by
  unfold new
  simp [EditForm.activate_withToken h, callsOfTurn_withToken]

/-! ## from a file -/

theorem putOver_withToken (h : portal.Indifferent a b change) (form : EditForm α) (v : Json)
    (p : σ) :
    putOver portal b form v (change p) = (putOver portal a form v p).withToken b change := by
  unfold putOver
  dsimp only
  split
  · simp
  · simp only [EditForm.save_withToken h, callsOfTurn_withToken, EditForm.result_withToken]
    split <;> simp_all

theorem putValue_withToken (h : portal.Indifferent a b change) (v : Json) (fresh : String)
    (p : σ) :
    putValue portal b α v fresh (change p) =
      (putValue portal a α v fresh p).withToken b change := by
  unfold putValue
  simp only [EditForm.activate_withToken h, callsOfTurn_withToken, EditForm.result_withToken]
  split <;> simp_all [putOver_withToken h, Run.withToken_after]

theorem put_withToken (h : portal.Indifferent a b change) (text : Except FileFault String)
    (fresh : String) (p : σ) :
    put portal b α text fresh (change p) = (put portal a α text fresh p).withToken b change := by
  unfold put
  cases text with
  | error fault => rfl
  | ok text =>
      dsimp only
      split
      · rfl
      · exact putValue_withToken h ..

/-! ## deleting -/

namespace Deletion

/-- The delete with another token. -/
def withToken (t : CsrfToken) (change : σ → σ) (d : Deletion α σ) : Deletion α σ :=
  { d with screen := d.screen.withToken t, portal := change d.portal }

omit [Entity α] in
@[simp] theorem portal_withToken (d : Deletion α σ) :
    (d.withToken t change).portal = change d.portal := rfl

theorem perform_withToken (h : portal.Indifferent a b change) {d : Deletion α σ}
    (hd : d.screen.token = a) (e : ListScreen.Event) : (d.withToken b change).perform portal e =
      ((d.perform portal e).1.withToken b change,
        (d.perform portal e).2.map (Note.withToken b)) := by
  have hself : d.screen.withToken a = d.screen := by rw [← hd, Session.withToken_self]
  simp only [perform, withToken, Session.perform_withToken h, delivered_withToken, hself]

/-- An event leaves the token as it is: it is what it is with the token in place of itself. -/
theorem token_perform {d : Deletion α σ} (hd : d.screen.token = a) (portal : Portal σ)
    (e : ListScreen.Event) : (d.perform portal e).1.screen.token = a := by
  have hself := perform_withToken (.refl portal a) hd e
  rw [show d.withToken a id = d by rw [← hd]; rfl] at hself
  exact congrArg (·.1.screen.token) hself

end Deletion

/-- What a turn comes to with another token. -/
def Turn.withToken (t : CsrfToken) (change : σ → σ) : Turn α σ → Turn α σ
  | .over run => .over (run.withToken t change)
  | .more events d => .more (events.map (Event.withToken t)) (d.withToken t change)

theorem warning_withToken (e : Option PortalError) :
    (warning e).map (Event.withToken t) = warning e := by
  cases e <;> rfl

theorem consent_withToken (kind : Kind) (id : String) (yes : Bool) (input : Input) :
    (consent kind id yes input).2.1.map (Event.withToken t) = (consent kind id yes input).2.1 := by
  cases yes <;> rfl

/-- **A turn of a delete is the same**, whatever the token. -/
theorem turn_withToken (h : portal.Indifferent a b change) (yes : Bool) {d : Deletion α σ}
    (hd : d.screen.token = a) :
    (d.withToken b change).turn portal yes = (d.turn portal yes).withToken b change := by
  obtain ⟨screen, queue, input, p⟩ := d
  match queue with
  | [] => rfl
  | .closeConfirmation :: queue => rfl
  | .navigate route :: queue => rfl
  | .requestConfirmation record :: queue =>
      have hsaid := @warning_withToken b screen.screen.deleteError
      have hasked := @consent_withToken b (Entity.kind α) record yes input
      cases hconsent : consent (Entity.kind α) record yes input with
      | mk answer said =>
          -- what is done with the answer starts from the rest of queue and input
          have hperform := @Deletion.perform_withToken _ _ _ _ b _ _ h ⟨screen, queue, said.2, p⟩ hd
          rw [hconsent] at hasked
          simp only [Deletion.withToken] at hperform
          simp only [Deletion.turn, Deletion.withToken, hconsent, Session.withToken_screen]
          cases answer with
          | unreadable => simp [Turn.withToken, hsaid, hasked]
          | no =>
              simp [hperform, Turn.withToken, Deletion.withToken, callsOf_withToken, hsaid, hasked]
          | yes =>
              simp only [hperform, endingOf_withToken, callsOf_withToken]
              split <;> simp_all [Turn.withToken, Deletion.withToken]

/-- A turn leaves the token as it is: it is what it is with the token in place of itself. -/
theorem token_of_more {yes : Bool} {d d' : Deletion α σ} {events : List Event}
    (hd : d.screen.token = a) (h : d.turn portal yes = .more events d') :
    d'.screen.token = a := by
  have hself := turn_withToken (.refl portal a) yes hd
  rw [show d.withToken a id = d by rw [← hd]; rfl, h] at hself
  exact congrArg (·.screen.token) (Turn.more.inj hself).2

/-- **A delete is the same**, whatever the token. -/
theorem attend_withToken (h : portal.Indifferent a b change) (yes : Bool) (d : Deletion α σ)
    (hd : d.screen.token = a) :
    attend portal yes (d.withToken b change) = (attend portal yes d).withToken b change := by
  fun_induction attend portal yes d with
  | case1 d run hover =>
      refine attend_of_over portal ?_
      rw [turn_withToken h yes hd, hover, Turn.withToken]
  | case2 d events d' hmore ih =>
      rw [Run.withToken_after, ← ih (token_of_more hd hmore)]
      refine attend_of_more portal ?_
      rw [turn_withToken h yes hd, hmore, Turn.withToken]

theorem delete_withToken (h : portal.Indifferent a b change) (id : String) (yes : Bool)
    (input : Input) (p : σ) :
    delete portal b α id yes input (change p) =
      (delete portal a α id yes input p).withToken b change := by
  obtain ⟨d, hd⟩ : ∃ d : Deletion α σ, d = { screen := { token := a }, input, portal := p } :=
    ⟨_, rfl⟩
  have hstart : ({ screen := { token := b }, input, portal := change p } : Deletion α σ) =
      d.withToken b change := by
    rw [hd]
    rfl
  have htoken : d.screen.token = a := by rw [hd]
  have htoken' := Deletion.token_perform htoken portal (.query none)
  have htoken'' := Deletion.token_perform htoken' portal (.remove (Entity.id (Entity.blank id : α)))
  unfold delete
  simp only [hstart, ← hd, Deletion.perform_withToken h htoken,
    Deletion.perform_withToken h htoken', endingOf_withToken, callsOf_withToken,
    staged_withToken, attend_withToken h yes _ htoken'']
  split
  · rfl
  · split
    · simp [Run.withToken_after]
    · simp

end Commands

/-! ## the console -/

/-- The file of a command is the same in two surroundings, if it has one. -/
def SameFile (c : Command) (s s' : Surroundings) : Prop :=
  ∀ kind file, c = .put kind file → s'.files file = s.files file

/-- **A command does the same, whatever the token.** -/
theorem execute_withToken (h : portal.Indifferent a b change) {s s' : Surroundings} (c : Command)
    (hinput : s'.input = s.input) (hfresh : s'.fresh = s.fresh) (hfile : SameFile c s s') (p : σ) :
    execute portal b s' c (change p) = (execute portal a s c p).withToken b change := by
  cases c with
  | list kind page pageSize contains => exact list_withToken h ..
  | display kind id => exact display_withToken h ..
  | new kind =>
      simp only [execute, hfresh]
      exact new_withToken h ..
  | put kind file =>
      simp only [execute, hfresh, hfile kind file rfl]
      exact put_withToken h ..
  | delete kind id yes =>
      simp only [execute, hinput]
      exact delete_withToken h ..

section Runs

variable {script : Script} {s s' : Surroundings} {line : CommandLine} {x x' : Settings}

/-- A configuration that can be used leaves the making of the client. -/
theorem run_of_settings (hx : settings s line.config = .ok x) : run script s line =
    match Client.ofSettings x with
    | .error e => .failed (.portal e) [] {}
    | .ok c => execute (c.portal script) x.token s line.command {} := by
  simp only [run, connect, hx, bind, Except.bind]
  cases Client.ofSettings x <;> rfl

/-- **Runs whose settings differ in the token alone** are the same, apart from
the token in calls and headers. -/
theorem run_withToken (hx : settings s line.config = .ok x)
    (hx' : settings s' line.config = .ok x') (hsame : { x with token := x'.token } = x')
    (hfits : x.token.fitsHeader = x'.token.fitsHeader) (hinput : s'.input = s.input)
    (hfresh : s'.fresh = s.fresh) (hfile : SameFile line.command s s') :
    run script s' line =
      (run script s line).withToken x'.token (Journal.withToken x'.token) := by
  have hurl : x'.url = x.url := by rw [← hsame]
  have hclient : Client.ofSettings x' = Client.ofSettings x := by
    simp only [Client.ofSettings, hurl]
  rw [run_of_settings hx, run_of_settings hx', hclient]
  cases Client.ofSettings x with
  | error e => rfl
  | ok c =>
      exact execute_withToken (c.indifferent script hfits) line.command hinput hfresh hfile {}

/-- A run is what it is with its own token in place of itself. -/
theorem tokenOnWire_run (hx : settings s line.config = .ok x) :
    (run script s line).portal.TokenOnWire x.token := by
  have hself := @run_withToken script _ _ _ _ _ hx hx rfl rfl rfl rfl fun _ _ _ => rfl
  have hportal : (run script s line).portal =
      Journal.withToken x.token (run script s line).portal := congrArg (·.portal) hself
  exact Journal.tokenOnWire_of_withToken hportal.symm

/-- **The token has an influence on its header alone.**  Two runs of a command
whose settings differ in the token alone have the same result, the same output,
the same metrics and the same requests on the wire with the same outcomes, if both
tokens can be sent; only the token in the header is each run's own.  It is in the
header of every request that changes something.  Of those that only read it is in
none but the ones that follow a redirect of a request that changes something. -/
theorem token_confined (hx : settings s line.config = .ok x)
    (hx' : settings s' line.config = .ok x') (hsame : { x with token := x'.token } = x')
    (hprint : x.token.Printable) (hprint' : x'.token.Printable) (hinput : s'.input = s.input)
    (hfresh : s'.fresh = s.fresh) (hfile : SameFile line.command s s') :
    let one := run script s line
    let other := run script s' line
    other.result = one.result ∧ other.stdout = one.stdout ∧ other.stderr = one.stderr ∧
      other.portal.events = one.portal.events ∧ other.portal.bareWire = one.portal.bareWire ∧
      one.portal.TokenOnWire x.token ∧ other.portal.TokenOnWire x'.token := by
  intro one other
  have hfits : x.token.fitsHeader = x'.token.fitsHeader := by
    rw [CsrfToken.fitsHeader_iff.mpr hprint, CsrfToken.fitsHeader_iff.mpr hprint']
  have hrun : other = one.withToken x'.token (Journal.withToken x'.token) :=
    run_withToken hx hx' hsame hfits hinput hfresh hfile
  refine ⟨?_, ?_, ?_, ?_, ?_, tokenOnWire_run hx, tokenOnWire_run hx'⟩
  · rw [hrun]
    rfl
  · rw [hrun, Run.stdout_withToken]
  · rw [hrun, Run.stderr_withToken]
  · rw [hrun]
    rfl
  · rw [hrun]
    exact Journal.bareWire_withToken ..

/-- A record is put with one token from the environment and with another. -/
theorem token_confined_put :
    let config := "portal: \x7burl: http://h, csrfTokenFrom: T\x7d"
    let record := "\x7b\"id\":\"a1\"\x7d"
    let around (token : String) : Surroundings :=
      { files := fun name => .ok (if name = "c" then config else record)
        env := fun _ => some token
        fresh := "f" }
    let line : CommandLine := { config := "c", command := .put .alert "r" }
    let script := Script.ofList [.reply ⟨404, by decide⟩ [] true, .reply ⟨204, by decide⟩ [] true]
    let one := run script (around "one") line
    let other := run script (around "two") line
    settings (around "one") "c" = .ok { url := "http://h", token := ⟨"one"⟩ } ∧
      settings (around "two") "c" = .ok { url := "http://h", token := ⟨"two"⟩ } ∧
      one.portal.wire.map (·.1.request.method) = ["GET", "PUT"] ∧
      other.stdout = one.stdout ∧ other.portal.bareWire = one.portal.bareWire ∧
      one.portal.TokenOnWire ⟨"one"⟩ ∧ other.portal.TokenOnWire ⟨"two"⟩ := by
  intro config record around line script one other
  have hone : settings (around "one") "c" = .ok { url := "http://h", token := ⟨"one"⟩ } :=
    eq_ok_of_toOption (by decide +kernel)
  have htwo : settings (around "two") "c" = .ok { url := "http://h", token := ⟨"two"⟩ } :=
    eq_ok_of_toOption (by decide +kernel)
  obtain ⟨-, hstdout, -, -, hbare, hheader, hheader'⟩ :=
    @token_confined script _ _ line _ _ hone htwo rfl (by decide) (by decide) rfl rfl
      fun _ _ _ => rfl
  exact ⟨hone, htwo, by decide +kernel, hstdout, hbare, hheader, hheader'⟩

/-- Behind a put that is redirected to a page there is a GET that has the token. -/
theorem token_redirected :
    let config := "portal: \x7burl: http://h, csrfToken: one\x7d"
    let around : Surroundings :=
      { files := fun name => .ok (if name = "c" then config else "\x7b\x7d"), fresh := "f" }
    let login : Url := { scheme := "http", host := some "h", path := .segments ["login"] }
    let script := Script.ofList [.redirect .fetch login (.reply ⟨200, by decide⟩ [] true)]
    let one := run script around { config := "c", command := .put .alert "r" }
    one.portal.wire.map (fun x => (x.1.request.method, x.1.request.target, x.1.request.token)) =
      [("PUT", "/v1/alerts", some ⟨"one"⟩), ("GET", "/login", some ⟨"one"⟩)] := by
  decide +kernel

end Runs

end Console

end AlertDesk
