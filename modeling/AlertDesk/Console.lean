import AlertDesk.Client
import AlertDesk.CommandLine
import AlertDesk.Config
import AlertDesk.EditForm
import AlertDesk.ListScreen.Session
import AlertDesk.Prompt
import AlertDesk.Record.OfKind

/-!
# AlertDesk.Console

The screens at a terminal.  A command works one screen, has a portal answer its
calls, and prints what the screen shows.

What is seen of a command is a list of events in order: texts that are printed,
questions with their answers, calls to the portal.  Standard output and standard
error are read off it.

Deleting is a dialogue with the list screen.  The console sees to the screen's
commands one after the other: it asks when it is told to, unless it need not
ask, and it stops when the confirmation is closed.  A delete that fails makes
the screen ask again, so that there can be as many questions as there are lines
of input to say yes, and one more.

Main fact: `turn_decreases`, every turn of a delete brings it nearer to its end.
-/

namespace AlertDesk.Console

/-! ## faults -/

/-- Why a file cannot be read. -/
inductive FileFault where
  | missing
  /-- The file is not UTF-8. -/
  | notText
  | unreadable (reason : String)
  deriving DecidableEq

/-- The message for bytes that are not UTF-8. -/
def notTextMessage : String := "stream did not contain valid UTF-8"

/-- The text of a file fault. -/
def FileFault.message : FileFault → String
  | .missing => "No such file or directory (os error 2)"
  | .notText => notTextMessage
  | .unreadable reason => reason

/-- Why a command fails. -/
inductive Fault where
  | portal (error : PortalError)
  | config (fault : Config.Fault)
  | file (fault : FileFault)
  /-- A file that is not JSON. -/
  | json (reason : String)
  /-- An answer that is not text. -/
  | answer
  /-- The screen refused to stage the record. -/
  | deleteUnderWay
  deriving DecidableEq

/-- The text of a fault. -/
def Fault.message : Fault → String
  | .portal error => error.message
  | .config fault => fault.message
  | .file fault => fault.message
  | .json reason => reason
  | .answer => notTextMessage
  | .deleteUnderWay => "Another delete is still in flight"

/-! ## events -/

/-- What is seen of a command. -/
inductive Event where
  | printed (text : String)
  /-- A text on standard error. -/
  | warned (text : String)
  | asked (question : String) (answer : Answer)
  | called (call : Call)
  deriving DecidableEq

namespace Event

/-- What an event writes to standard output. -/
def toStdout : Event → String
  | .printed text | .asked text _ => text
  | .warned _ | .called _ => ""

/-- What an event writes to standard error. -/
def toStderr : Event → String
  | .warned text => text
  | .printed _ | .asked .. | .called _ => ""

/-- The call of an event. -/
def call? : Event → Option Call
  | .called call => some call
  | _ => none

/-- The answer that an event got. -/
def answer? : Event → Option Answer
  | .asked _ answer => some answer
  | _ => none

end Event

/-- A text on a line of its own. -/
def printed (line : String) : Event := .printed (line ++ "\n")

/-- What comes of a command. -/
structure Run (σ : Type) where
  /-- `none` if the command waits for ever. -/
  result : Option (Except Fault Unit)
  events : List Event := []
  portal : σ

namespace Run

variable {σ : Type}

/-- A command that has done its work. -/
def done (events : List Event) (p : σ) : Run σ := { result := some (.ok ()), events, portal := p }

/-- A command that fails. -/
def failed (f : Fault) (events : List Event) (p : σ) : Run σ :=
  { result := some (.error f), events, portal := p }

/-- A command that waits for ever. -/
def waiting (events : List Event) (p : σ) : Run σ := { result := none, events, portal := p }

/-- Puts events in front. -/
def after (o : Run σ) (events : List Event) : Run σ := { o with events := events ++ o.events }

/-- The text on standard output. -/
def stdout (o : Run σ) : String := String.join (o.events.map Event.toStdout)

/-- The text on standard error. -/
def stderr (o : Run σ) : String := String.join (o.events.map Event.toStderr)

/-- The calls that were made. -/
def calls (o : Run σ) : List Call := o.events.filterMap Event.call?

/-- The answers that were given. -/
def answers (o : Run σ) : List Answer := o.events.filterMap Event.answer?

end Run

/-- A number that may not be known. -/
def countText : Option UInt64 → String
  | some n => toString n.toNat
  | none => "?"

section Commands

variable {σ : Type} (portal : Portal σ) (token : CsrfToken)

/-! ## one page -/

/-- The calls among the notes of a list screen. -/
def callsOf (notes : List ListScreen.Note) : List Event :=
  notes.filterMap fun note => note.call?.map fun c => .called c.2

/-- How the task that a step started ended. -/
def endingOf (notes : List ListScreen.Note) : Option ListScreen.Ending :=
  (notes.findSome? ListScreen.Note.finished?).map (·.2)

/-- The line of a record. -/
def recordLine {α : Type} [Entity α] (r : α) : String :=
  Entity.id r ++ "\t" ++ Entity.editUri r ++ "\t" ++ (Entity.encode r).compact

/-- The line below the records of a page. -/
def pageLine {α : Type} [Entity α] (v : ListView α) : String :=
  "-- " ++ toString v.items.length ++ " " ++ (Entity.kind α).collection ++ " shown, " ++
    countText v.pagination.totalCount ++ " total"

/-- Prints one page of records. -/
def list (α : Type) [Entity α] (query : ListQuery) (p : σ) : Run σ :=
  let screen : ListScreen.Session α := { token }
  let (screen, notes, p) := screen.perform portal (.query (some query)) p
  match endingOf notes with
  | none => .waiting (callsOf notes) p
  | some (.query (.failed e)) => .failed (.portal e) (callsOf notes) p
  | some _ =>
    let view := screen.screen.list.view
    .done (callsOf notes ++ view.items.map (fun r => printed (recordLine r)) ++
      [printed (pageLine view)]) p

/-! ## one record -/

/-- The calls of a form. -/
def callsOfTurn {α : Type} (t : EditForm.Turn α σ) : List Event := t.calls.map .called

/-- Prints a single record. -/
def display (α : Type) [Entity α] (id : String) (p : σ) : Run σ :=
  let turn := (EditForm.initial : EditForm α).activate portal (some id) "" p
  match turn.result with
  | none => .waiting (callsOfTurn turn) turn.portal
  | some (.error e) => .failed (.portal e) (callsOfTurn turn) turn.portal
  | some (.ok ()) =>
    let r := turn.form.record
    .done (callsOfTurn turn ++
      [printed (Entity.encode r).pretty, printed ("-- " ++ Entity.editUri r)]) turn.portal

/-- Prints an empty record under a fresh identifier. -/
def new (α : Type) [Entity α] (fresh : String) (p : σ) : Run σ :=
  let turn := (EditForm.initial : EditForm α).activate portal none fresh p
  .done (callsOfTurn turn ++ [printed (Entity.encode turn.form.record).pretty]) turn.portal

/-! ## from a file -/

/-- The identifier that a file gives its record. -/
def fileId? (v : Json) : Option String := ((v.get? "id").bind Json.text?).filter (· ≠ "")

/-- A value with its identifier set, if it is an object. -/
def withId (v : Json) (id : String) : Json :=
  match v with
  | .obj members => .obj (Keyed.insert "id" (.str id) members)
  | v => v

/-- Whether a lookup came out clean: the record was there, or it was not. -/
def clean : Except PortalError Unit → Except PortalError Unit
  | .error (.notFound ..) => .ok ()
  | result => result

/-- Writes the value of a file in place of the record that a form has looked up. -/
def putOver {α : Type} [Entity α] (form : EditForm α) (v : Json) (p : σ) : Run σ :=
  let decoded : Except PortalError α := Entity.decode (withId v (Entity.id form.record))
  match decoded with
  | .error e => .failed (.portal e) [] p
  | .ok record =>
    let turn := (form.edit fun _ => record).save portal token p
    match turn.result with
    | none => .waiting (callsOfTurn turn) turn.portal
    | some (.error e) => .failed (.portal e) (callsOfTurn turn) turn.portal
    | some (.ok ()) =>
      .done (callsOfTurn turn ++ [printed (Entity.id turn.form.record)]) turn.portal

/-- Creates or replaces a record by a value: looks the record up, then writes. -/
def putValue (α : Type) [Entity α] (v : Json) (fresh : String) (p : σ) : Run σ :=
  let turn := (EditForm.initial : EditForm α).activate portal (fileId? v) fresh p
  match turn.result.map clean with
  | none => .waiting (callsOfTurn turn) turn.portal
  | some (.error e) => .failed (.portal e) (callsOfTurn turn) turn.portal
  | some (.ok ()) => (putOver portal token turn.form v turn.portal).after (callsOfTurn turn)

/-- Creates or replaces a record from the text of a file. -/
def put (α : Type) [Entity α] (text : Except FileFault String) (fresh : String) (p : σ) : Run σ :=
  match text with
  | .error fault => .failed (.file fault) [] p
  | .ok text => match Json.read? text with
    | .error reason => .failed (.json reason) [] p
    | .ok v => putValue portal token α v fresh p

/-! ## deleting -/

/-- A delete under way. -/
structure Deletion (α σ : Type) where
  screen : ListScreen.Session α
  /-- The screen's commands that have not been seen to. -/
  queue : List UiCommand := []
  input : Input
  portal : σ

/-- Performs an event of the screen. -/
def Deletion.perform {α : Type} [Entity α] (d : Deletion α σ) (event : ListScreen.Event) :
    Deletion α σ × List ListScreen.Note :=
  let (screen, notes, p) := d.screen.perform portal event d.portal
  ({ d with
      screen, queue := d.queue ++ notes.filterMap ListScreen.Note.delivered?, portal := p }, notes)

/-- The question before a delete. -/
def question (kind : Kind) (id : String) : String :=
  "Delete " ++ kind.route ++ " " ++ id ++ "? [y/N] "

/-- What is said of a delete that failed. -/
def warning : Option PortalError → List Event
  | some e => [.warned ("Delete failed: " ++ e.message ++ "\n")]
  | none => []

/-- Asks before a delete, unless `yes` says that there is no need to. -/
def consent (kind : Kind) (id : String) (yes : Bool) (input : Input) :
    Answer × List Event × Input :=
  if yes then (.yes, [], input)
  else
    let (answer, input) := Answer.ask input
    (answer, [.asked (question kind id) answer], input)

/-- The last line of a delete. -/
def remainingLine {α : Type} [Entity α] (d : Deletion α σ) : String :=
  "-- " ++ (Entity.kind α).collection ++ " remaining: " ++
    countText d.screen.screen.list.view.pagination.totalCount

/-- What seeing to a command of the screen comes to. -/
inductive Turn (α σ : Type) where
  | over (run : Run σ)
  | more (events : List Event) (d : Deletion α σ)

/-- Sees to the first command of the screen. -/
def Deletion.turn {α : Type} [Entity α] (yes : Bool) (d : Deletion α σ) : Turn α σ :=
  match d.queue with
  | [] => .over (.waiting [] d.portal)
  | .closeConfirmation :: _ => .over (.done [printed (remainingLine d)] d.portal)
  | .navigate _ :: queue => .more [] { d with queue }
  | .requestConfirmation id :: queue =>
    let said := warning d.screen.screen.deleteError
    let (answer, asked, input) := consent (Entity.kind α) id yes d.input
    let d := { d with queue, input }
    match answer with
    | .unreadable => .over (.failed .answer (said ++ asked) d.portal)
    | .no =>
      let (d, notes) := d.perform portal .cancel
      .more (said ++ asked ++ callsOf notes) d
    | .yes =>
      let (d, notes) := d.perform portal .confirm
      let events := said ++ asked ++ callsOf notes
      match endingOf notes, yes with
      | none, _ => .over (.waiting events d.portal)
      | some (.confirmFailed e), true => .over (.failed (.portal e) events d.portal)
      | some _, _ => .more events d

/-- Whether a command is a question. -/
def asks : UiCommand → Bool
  | .requestConfirmation _ => true
  | .navigate _ | .closeConfirmation => false

/-- How much a delete leaves to see to.  A question counts twice: once it is
answered, the dialogue may still have to be closed. -/
def Deletion.burden {α : Type} (d : Deletion α σ) : Nat := d.queue.length + d.queue.countP asks

@[simp] theorem queue_perform {α : Type} [Entity α] (d : Deletion α σ)
    (event : ListScreen.Event) : (d.perform portal event).1.queue =
      d.queue ++ (d.screen.perform portal event d.portal).2.1.filterMap
        ListScreen.Note.delivered? := rfl

/-- An answer that closes the dialogue at most leaves less to see to than its question. -/
theorem burden_answered {α : Type} [Entity α] {screen : ListScreen.Session α}
    {event : ListScreen.Event} {p : σ}
    (h : ((screen.perform portal event p).2.1.filterMap ListScreen.Note.delivered?).Sublist
      [.closeConfirmation]) (id : String) (queue : List UiCommand) (input rest : Input) :
    (Deletion.perform portal ⟨screen, queue, rest, p⟩ event).1.burden <
      (⟨screen, .requestConfirmation id :: queue, input, p⟩ : Deletion α σ).burden := by
  have short : _ ≤ 1 := h.length_le
  have quiet : List.countP asks _ ≤ 0 := h.countP_le
  simp only [Deletion.burden, queue_perform, List.length_append, List.countP_append,
    List.length_cons, List.countP_cons, asks, if_true]
  omega

/-- A question never adds to the input, and one that is answered with yes takes
from it. -/
theorem length_consent (kind : Kind) (id : String) (yes : Bool) (input : Input) :
    (consent kind id yes input).2.2.length ≤ input.length ∧
      ((consent kind id yes input).1 = .yes → yes = false →
        (consent kind id yes input).2.2.length < input.length) := by
  cases yes with
  | true => simp [consent]
  | false => exact ⟨Answer.length_ask_le input, fun h _ => Answer.length_lt_of_ask_yes h⟩

/-- A turn takes a line of input, or leaves less to see to. -/
theorem turn_decreases {α : Type} [Entity α] {yes : Bool} {d d' : Deletion α σ}
    {events : List Event} (h : d.turn portal yes = .more events d') :
    Prod.Lex (· < ·) (· < ·) (d'.input.length, d'.burden) (d.input.length, d.burden) := by
  obtain ⟨screen, queue, input, p⟩ := d
  match queue with
  | [] => simp [Deletion.turn] at h
  | .closeConfirmation :: _ => simp [Deletion.turn] at h
  | .navigate _ :: queue =>
    simp only [Deletion.turn, Turn.more.injEq] at h
    obtain ⟨-, rfl⟩ := h
    exact .right _ (by simp [Deletion.burden, asks])
  | .requestConfirmation id :: queue =>
    obtain ⟨shorter, taken⟩ := length_consent (Entity.kind α) id yes input
    simp only [Deletion.turn] at h
    split at h
    · cases h
    · obtain ⟨-, rfl⟩ := Turn.more.inj h
      have closes := ListScreen.Session.delivered_cancel portal screen p
      exact .right' (· < ·) shorter (burden_answered portal closes ..)
    · next answered =>
      cases yes with
      | false =>
        split at h
        · cases h
        · simp_all
        · obtain ⟨-, rfl⟩ := Turn.more.inj h
          exact .left _ _ (taken answered rfl)
      | true =>
        split at h
        · cases h
        · cases h
        · next going ended =>
          obtain ⟨-, rfl⟩ := Turn.more.inj h
          obtain ⟨task, e, failed⟩ | closes := ListScreen.Session.delivered_confirm portal screen p
          · have failure := going.symm.trans (congrArg (Option.map Prod.snd) failed)
            exact (ended e rfl (Option.some.inj failure)).elim
          · exact .right' (· < ·) shorter (burden_answered portal closes ..)

/-- Sees to the commands of the screen, one after the other. -/
def attend {α : Type} [Entity α] (yes : Bool) (d : Deletion α σ) : Run σ :=
  match _h : d.turn portal yes with
  | .over run => run
  | .more events d' => (attend yes d').after events
termination_by (d.input.length, d.burden)
decreasing_by exact turn_decreases portal _h

theorem attend_of_over {α : Type} [Entity α] {yes : Bool} {d : Deletion α σ} {run : Run σ}
    (h : d.turn portal yes = .over run) : attend portal yes d = run := by
  rw [attend]
  split <;> simp_all

theorem attend_of_more {α : Type} [Entity α] {yes : Bool} {d d' : Deletion α σ}
    {events : List Event} (h : d.turn portal yes = .more events d') :
    attend portal yes d = (attend portal yes d').after events := by
  rw [attend]
  split <;> simp_all

/-- Whether a record was staged. -/
def staged (notes : List ListScreen.Note) : Bool := notes.contains (.removed true)

/-- Deletes a record.  The page that is loaded first need not load. -/
def delete (α : Type) [Entity α] (id : String) (yes : Bool) (input : Input) (p : σ) : Run σ :=
  let d : Deletion α σ := { screen := { token }, input, portal := p }
  let (d, loaded) := d.perform portal (.query none)
  if (endingOf loaded).isNone then .waiting (callsOf loaded) d.portal
  else
    let (d, removed) := d.perform portal (.remove (Entity.id (Entity.blank id : α)))
    let events := callsOf loaded ++ callsOf removed
    if staged removed then (attend portal yes d).after events
    else .failed .deleteUnderWay events d.portal

end Commands

/-! ## the console -/

/-- What a run finds around it. -/
structure Surroundings where
  files : String → Except FileFault String
  env : String → Option String := fun _ => none
  input : Input := []
  /-- An identifier that has not been used. -/
  fresh : String

/-- Executes a command. -/
def execute {σ : Type} (portal : Portal σ) (token : CsrfToken) (s : Surroundings) (c : Command)
    (p : σ) : Run σ :=
  match c with
  | .list kind page pageSize contains =>
    list portal token kind.Record { page, pageSize, contains } p
  | .display kind id => display portal kind.Record id p
  | .new kind => new portal kind.Record s.fresh p
  | .put kind file => put portal token kind.Record (s.files file) s.fresh p
  | .delete kind id yes => delete portal token kind.Record id yes s.input p

/-- The settings in a configuration file. -/
def settings (s : Surroundings) (file : String) : Except Fault Settings :=
  match s.files file with
  | .error fault => .error (.file fault)
  | .ok text => (Config.parse s.env text).mapError .config

/-- The client for the settings in a configuration file, and its token. -/
def connect (s : Surroundings) (file : String) : Except Fault (Client × CsrfToken) := do
  let settings ← settings s file
  let client ← (Client.ofSettings settings).mapError .portal
  return (client, settings.token)

/-- Runs a command line; what comes of the requests is in the script. -/
def run (script : Script) (s : Surroundings) (line : CommandLine) : Run Journal :=
  match connect s line.config with
  | .error fault => .failed fault [] {}
  | .ok (client, token) => execute (client.portal script) token s line.command {}

/-! ## what is seen of a run -/

@[simp] theorem events_after {σ : Type} (o : Run σ) (events : List Event) :
    (o.after events).events = events ++ o.events := rfl

@[simp] theorem result_after {σ : Type} (o : Run σ) (events : List Event) :
    (o.after events).result = o.result := rfl

@[simp] theorem calls_after {σ : Type} (o : Run σ) (events : List Event) :
    (o.after events).calls = events.filterMap Event.call? ++ o.calls := by
  simp [Run.calls]

@[simp] theorem answers_after {σ : Type} (o : Run σ) (events : List Event) :
    (o.after events).answers = events.filterMap Event.answer? ++ o.answers := by
  simp [Run.answers]

end AlertDesk.Console
