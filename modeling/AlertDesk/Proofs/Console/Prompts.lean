import AlertDesk.Proofs.Client.Answer
import AlertDesk.Proofs.Console.Delete

/-!
# AlertDesk.Proofs.Console.Prompts

Which part of the input the questions of a delete read.

A text has lines (`textLine`), and the reads of a pipe find it in chunks, cut
anywhere (`Supplies`).  A question reads the first line of what is left, whatever
chunks that is spread over, and what stands behind it in its last chunk is gone
for the questions to come (`Supplies.readLine`, `lost`).  As long as nothing is
lost, every question reads the line of its own number (`Supplies.line_eq`); once
something is, the lines that are read are too few to be all lines of the text
(`Supplies.lost_eq_nil`).

Main fact: `prompts_read` — all questions read their own lines exactly if no
chunk goes on behind the end of a line; of a text that is there at once, none but
the first does.
-/

namespace AlertDesk

namespace Input

/-! ## the lines of a text -/

/-- The first line of a text, with the byte that ends it if there is one. -/
def firstLine (text : List UInt8) : List UInt8 :=
  text.takeWhile (· ≠ newline) ++ (text.dropWhile (· ≠ newline)).take 1

/-- What stands behind the first line of a text. -/
def behindLine (text : List UInt8) : List UInt8 := (text.dropWhile (· ≠ newline)).drop 1

/-- A line of a text, by its number.  Behind the last line there are only empty ones. -/
def textLine (text : List UInt8) : Nat → List UInt8
  | 0 => firstLine text
  | n + 1 => textLine (behindLine text) n

variable {text head : List UInt8}

@[simp] theorem firstLine_nil : firstLine [] = [] := rfl

@[simp] theorem behindLine_nil : behindLine [] = [] := rfl

theorem firstLine_append_behindLine (text : List UInt8) :
    firstLine text ++ behindLine text = text := by
  rw [firstLine, behindLine, List.append_assoc, List.take_append_drop,
    List.takeWhile_append_dropWhile]

/-- A line that has no end goes on in what follows. -/
theorem firstLine_append_of_notMem (h : newline ∉ head) (text : List UInt8) :
    firstLine (head ++ text) = head ++ firstLine text ∧
      behindLine (head ++ text) = behindLine text := by
  have goes : ∀ b ∈ head, decide (b ≠ newline) = true :=
    fun b hb => decide_eq_true fun heq => h (heq ▸ hb)
  simp only [firstLine, behindLine, List.takeWhile_append_of_pos goes,
    List.dropWhile_append_of_pos goes, List.append_assoc, and_self]

/-- What follows a whole line stands behind it. -/
theorem firstLine_append_of_mem (h : newline ∈ head) (text : List UInt8) :
    firstLine (head ++ text) = head.takeWhile (· ≠ newline) ++ [newline] ∧
      behindLine (head ++ text) = behindLine head ++ text := by
  induction head with
  | nil => simp at h
  | cons b head ih =>
    by_cases hb : b = newline
    · simp [firstLine, behindLine, hb]
    · obtain ⟨line, behind⟩ := ih (List.mem_of_ne_of_mem (Ne.symm hb) h)
      simp_all [firstLine, behindLine]

/-- Nothing stands behind the first line if only the last byte ends one. -/
theorem behindLine_eq_nil_iff : behindLine text = [] ↔ newline ∉ text.dropLast := by
  induction text with
  | nil => simp
  | cons b text ih =>
    cases text with
    | nil => by_cases hb : b = newline <;> simp [behindLine, hb]
    | cons b' text =>
      by_cases hb : b = newline
      · simp [behindLine, hb]
      · simp_all [behindLine, Ne.symm hb]

theorem length_behindLine_le (text : List UInt8) : (behindLine text).length ≤ text.length - 1 := by
  rw [behindLine, List.length_drop]
  exact Nat.sub_le_sub_right (List.dropWhile_sublist _).length_le 1

/-- The lines of a text make up the text. -/
theorem flatMap_textLine {n : Nat} (h : text.length ≤ n) :
    (List.range n).flatMap (textLine text) = text := by
  induction n generalizing text with
  | zero => simpa using h
  | succ n ih =>
    have shorter := ih (Nat.le_trans (length_behindLine_le text) (Nat.sub_le_of_le_add h))
    rw [List.range_succ_eq_map, List.flatMap_cons, List.flatMap_map]
    exact (congrArg (firstLine text ++ ·) shorter).trans (firstLine_append_behindLine text)

/-! ## what a question reads -/

/-- A text as the reads of a pipe find it: in chunks, of which none is empty
before the end. -/
structure Supplies (input : Input) (text : List UInt8) : Prop where
  flatten : input.flatten = text
  filled : ∀ chunk ∈ input, chunk ≠ []

theorem piped_supplies (text : List UInt8) : (piped text).Supplies text where
  flatten := flatten_piped text
  filled := by
    fun_induction piped text with
    | case1 => nofun
    | case2 text h ih =>
      have first : text.take chunkSize ≠ [] := by simpa [chunkSize] using h
      exact List.forall_mem_cons.mpr ⟨first, ih⟩

/-- A short text that is there at once is a single chunk. -/
theorem piped_of_length_le {text : List UInt8} (h : text ≠ []) (short : text.length ≤ chunkSize) :
    piped text = [text] := by
  have rest : text.drop chunkSize = [] := List.drop_eq_nil_of_le short
  rw [piped, rest, List.take_of_length_le short]
  simp [h, piped]

/-- What stands behind the line in the last chunk that a question reads. -/
def lost : Input → List UInt8
  | [] => []
  | chunk :: rest => if newline ∈ chunk then behindLine chunk else lost rest

/-- What is left of the input after so many questions. -/
def left (input : Input) : Nat → Input
  | 0 => input
  | n + 1 => left input.readLine.2 n

variable {input : Input}

theorem readLine_cons {chunk : List UInt8} (h : chunk ≠ []) (rest : Input) :
    readLine (chunk :: rest) =
      if newline ∈ chunk then (chunk.takeWhile (· ≠ newline) ++ [newline], rest)
      else (chunk ++ rest.readLine.1, rest.readLine.2) := by
  simp [readLine, h]

/-- A question takes chunks from the front. -/
theorem readLine_suffix (input : Input) : input.readLine.2 <:+ input := by
  induction input with
  | nil => simp [readLine]
  | cons chunk rest ih =>
    have shorter := ih.trans (List.suffix_cons chunk rest)
    simp only [readLine]
    split
    · exact List.suffix_cons ..
    · split
      · exact List.suffix_cons ..
      · exact shorter

/-- A question reads the first line; what stands behind it is lost or left. -/
theorem Supplies.readLine (h : input.Supplies text) : ∃ rest,
    input.readLine.2.Supplies rest ∧ input.readLine.1 = firstLine text ∧
      behindLine text = input.lost ++ rest := by
  obtain ⟨rfl, filled⟩ := h
  refine ⟨_, ⟨rfl, fun c hc => filled c ((readLine_suffix input).mem hc)⟩, ?_⟩
  induction input with
  | nil => simp [Input.readLine, lost]
  | cons chunk rest ih =>
    obtain ⟨line, behind⟩ := ih fun c hc => filled c (List.mem_cons_of_mem _ hc)
    rw [readLine_cons (filled chunk List.mem_cons_self), List.flatten_cons, lost]
    by_cases h : newline ∈ chunk
    · have whole := firstLine_append_of_mem h rest.flatten
      simp [h, whole]
    · have goes := firstLine_append_of_notMem h rest.flatten
      simp [h, goes, line, behind]

/-- **As long as nothing is lost, a question reads the line of its own number.** -/
theorem Supplies.line_eq {n : Nat} (h : input.Supplies text)
    (keeps : ∀ k < n, (input.left k).lost = []) : input.line n = textLine text n := by
  induction n generalizing input text with
  | zero =>
    obtain ⟨-, -, line, -⟩ := h.readLine
    exact line
  | succ n ih =>
    obtain ⟨rest, later, -, behind⟩ := h.readLine
    have nothing : input.lost = [] := keeps 0 (Nat.zero_lt_succ n)
    rw [nothing, List.nil_append] at behind
    have aligned := ih later fun k hk => keeps (k + 1) (Nat.succ_lt_succ hk)
    exact aligned.trans (congrArg (textLine · n) behind.symm)

/-- No byte is read twice. -/
theorem Supplies.length_lines_le (h : input.Supplies text) (n : Nat) :
    ((List.range n).flatMap input.line).length ≤ text.length := by
  induction n generalizing input text with
  | zero => simp
  | succ n ih =>
    obtain ⟨rest, later, line, behind⟩ := h.readLine
    have fewer := ih later
    have whole := congrArg List.length (firstLine_append_behindLine text)
    rw [behind, ← line, List.length_append, List.length_append] at whole
    rw [List.range_succ_eq_map, List.flatMap_cons, List.flatMap_map, List.length_append]
    change input.readLine.1.length + ((List.range n).flatMap input.readLine.2.line).length ≤ _
    omega

/-- Questions that all read the lines of their own numbers begin by losing
nothing: the lines they read would be too few otherwise. -/
theorem Supplies.lost_eq_nil (h : input.Supplies text)
    (aligned : ∀ k, input.line k = textLine text k) : input.lost = [] := by
  obtain ⟨rest, later, -, behind⟩ := h.readLine
  have lines : input.readLine.2.line = textLine (behindLine text) :=
    funext fun k => aligned (k + 1)
  have enough := later.length_lines_le (behindLine text).length
  rw [lines, flatMap_textLine (Nat.le_refl _), behind, List.length_append] at enough
  exact List.length_eq_zero_iff.mp (by omega)

/-- All questions read the lines of their own numbers exactly if none loses anything. -/
theorem Supplies.line_eq_iff (h : input.Supplies text) :
    (∀ k, input.line k = textLine text k) ↔ ∀ k, (input.left k).lost = [] := by
  refine ⟨fun aligned n => ?_, fun keeps n => h.line_eq fun k _ => keeps k⟩
  induction n generalizing input text with
  | zero => exact h.lost_eq_nil aligned
  | succ n ih =>
    obtain ⟨rest, later, -, behind⟩ := h.readLine
    rw [h.lost_eq_nil aligned, List.nil_append] at behind
    exact ih later fun k => behind ▸ aligned (k + 1)

/-- Nothing is lost exactly if no chunk goes on behind the end of a line. -/
theorem lost_left_iff (filled : ∀ chunk ∈ input, chunk ≠ []) :
    (∀ k, (input.left k).lost = []) ↔ ∀ chunk ∈ input, newline ∉ chunk.dropLast := by
  induction input with
  | nil =>
    refine iff_of_true (fun k => ?_) (by simp)
    induction k with
    | zero => rfl
    | succ k ih => exact ih
  | cons chunk rest ih =>
    have first := readLine_cons (filled chunk List.mem_cons_self) rest
    rw [List.forall_mem_cons, ← ih fun c hc => filled c (List.mem_cons_of_mem _ hc),
      ← behindLine_eq_nil_iff, ← Nat.and_forall_add_one]
    by_cases h : newline ∈ chunk
    · simp [left, lost, first, h]
    · -- the question goes on with the next chunk, as if it began there
      have cut : behindLine chunk = [] :=
        behindLine_eq_nil_iff.mpr fun hmem => h ((List.dropLast_sublist chunk).subset hmem)
      rw [← Nat.and_forall_add_one (p := fun k => (left rest k).lost = [])]
      simp [left, lost, first, h, cut]

end Input

namespace Console

open Input (newline textLine)

/-! ## the answers of a run -/

section

variable {α σ : Type} [Entity α] {answer : (call : Call) → σ → call.Answer × σ}
variable {token : CsrfToken} {kind : Kind} {id : String} {input : Input} {p : σ}

/-- The answers of a run are those of its steps. -/
theorem answers_eq_steps (run : Run σ) : run.answers = run.steps.filterMap Event.answer? := by
  have same : Event.answer? = fun event => if event.isStep then event.answer? else none :=
    funext fun event => by cases event <;> rfl
  rw [Run.answers, Run.steps, stepsOf, List.filterMap_filter, ← same]

theorem answers_rounds (text : String) (a : Answer) (call : Call) (n : Nat) :
    (rounds (.asked text a) (.called call) n).filterMap Event.answer? = List.replicate n a := by
  induction n with
  | zero => rfl
  | succ n ih =>
    rw [rounds_succ, List.replicate_succ, ← ih]
    rfl

/-- The answers of a dialogue: yes after every failure, and then the last one. -/
theorem Course.answers_eq {failures : Nat} {run : Run σ}
    (h : Course answer kind id token input p failures run) :
    run.answers = (List.range (failures + 1)).map input.reply := by
  have before : (List.range failures).map input.reply = List.replicate failures .yes := by
    refine List.eq_replicate_iff.mpr ⟨by simp, fun a ha => ?_⟩
    obtain ⟨i, hi, rfl⟩ := List.mem_map.mp ha
    exact (h.failing i (List.mem_range.mp hi)).1
  rw [List.range_succ, List.map_append, before, answers_eq_steps]
  obtain ⟨-, steps, -⟩ | ⟨reply, -, steps, -⟩ := h.ending
  · rw [steps, List.filterMap_append, answers_rounds]
    rfl
  · rw [steps, List.filterMap_append, answers_rounds, List.map_singleton, reply,
      ← List.replicate_succ']
    simp [Event.answer?]

/-- An attempt is a call, whatever the portal keeps by then. -/
theorem exists_attempt_eq (answer : (call : Call) → σ → call.Answer × σ) (call : Call) (p : σ)
    (n : Nat) : ∃ p', attempt answer call p n = (answer call p').1 := by
  induction n generalizing p with
  | zero => exact ⟨p, rfl⟩
  | succ n ih => exact ih _

/-- The questions of a delete: all but the last are answered with yes.  So is the
last only if an attempt goes through. -/
theorem delete_answers (answer : (call : Call) → σ → call.Answer × σ) (token : CsrfToken)
    (kind : Kind) (id : String) (input : Input) (p : σ) : ∃ n,
      (delete (.answering answer) token kind.Record id false input p).answers =
        (List.range (n + 1)).map input.reply ∧
      (∀ k < n, input.reply k = .yes) ∧
      (input.reply n = .yes → ∃ p', (answer (.delete kind id token) p').1 = .ok ()) := by
  obtain ⟨d, asking, rfl, -, begun⟩ := delete_eq_attend answer token kind id false input p
  obtain ⟨n, course⟩ := asking.course answer
  rw [Kind.Record.kind_eq] at course
  refine ⟨n, begun ▸ course.answers_eq, fun k hk => (course.failing k hk).1, fun yes => ?_⟩
  obtain ⟨refused, -⟩ | ⟨-, went, -⟩ := course.ending
  · exact absurd yes refused
  · obtain ⟨p', same⟩ := exists_attempt_eq answer (.delete kind id token) d.portal n
    exact ⟨p', same.symm.trans went⟩

end

/-! ## questions and lines -/

/-- What the lines of a text answer to so many questions, each to its own. -/
def answersOf (text : List UInt8) (n : Nat) : List Answer :=
  (List.range n).map fun k => .ofLine (textLine text k)

/-- **Which lines the questions of a delete read.**  The first reads the first line
of the text, and the others theirs as long as no question before them has lost
anything.  All questions that there can be read their own lines exactly if no
chunk goes on behind the end of a line.  Of a text that is there at once, none but
the first does: there are at most two questions, and the second is refused, which
is its own line's answer only if that is a refusal. -/
theorem prompts_read (c : Client) (script : Script) (token : CsrfToken) (kind : Kind) (id : String)
    {text : List UInt8} {input : Input} (supplied : input.Supplies text) (j : Journal) :
    let run := delete (c.portal script) token kind.Record id false input j
    (∃ n, run.answers = (List.range (n + 1)).map input.reply ∧
      ((∀ k < n, (input.left k).lost = []) → run.answers = answersOf text (n + 1)) ∧
      (input.length ≤ 1 → n ≤ 1 ∧
        (run.answers = answersOf text (n + 1) ↔ n = 0 ∨ Answer.ofLine (textLine text 1) = .no))) ∧
    input.line 0 = textLine text 0 ∧
    ((∀ k, input.line k = textLine text k) ↔ ∀ chunk ∈ input, newline ∉ chunk.dropLast) := by
  intro run
  obtain ⟨n, answers, consents, -⟩ := delete_answers (c.answer script) token kind id input j
  have answers : run.answers = _ := answers
  refine ⟨⟨n, answers, fun keeps => ?_, fun short => ?_⟩, supplied.line_eq nofun,
    supplied.line_eq_iff.trans (Input.lost_left_iff supplied.filled)⟩
  · refine answers.trans (List.map_congr_left fun k hk => congrArg Answer.ofLine ?_)
    exact supplied.line_eq fun i hi => keeps i (by have := List.mem_range.mp hk; omega)
  · have refused : input.reply 1 = .no := Input.reply_of_length_le short
    have few : n ≤ 1 := Nat.le_of_not_lt fun more =>
      nomatch (consents 1 more).symm.trans refused
    have first : input.reply 0 = .ofLine (textLine text 0) :=
      congrArg Answer.ofLine (supplied.line_eq nofun)
    refine ⟨few, ?_⟩
    rw [answers, answersOf]
    match n, few with
    | 0, _ => simp [first]
    | 1, _ =>
      change [input.reply 0, input.reply 1] = [_, _] ↔ _
      rw [first, refused]
      simp [eq_comm]

/-- Two lines that say yes, before a portal that is out of reach: of those that are
there at once at most the first is read, and of those that are typed each. -/
theorem prompts_read_twice_yes :
    let text := Text.Utf8.bytes "y\ny\n"
    let typed := Input.typed ["y", "y"]
    let run := fun input =>
      delete (Client.desk.portal .offline) ⟨"t"⟩ Kind.alert.Record "a1" false input {}
    (Input.piped text).Supplies text ∧ (Input.piped text).length ≤ 1 ∧
      (∃ n ≤ 1, (run (.piped text)).answers.length = n + 1 ∧
        ((run (.piped text)).answers = answersOf text (n + 1) ↔
          n = 0 ∨ Answer.ofLine (textLine text 1) = .no)) ∧
      typed.Supplies text ∧ ∀ k, typed.line k = textLine text k := by
  intro text typed run
  have supplied : (Input.piped text).Supplies text := Input.piped_supplies text
  have supplied' : typed.Supplies text := ⟨by decide, by decide⟩
  have short : (Input.piped text).length ≤ 1 := by
    rw [Input.piped_of_length_le (by decide) (by decide)]
    decide
  obtain ⟨⟨n, answers, -, once⟩, -⟩ :=
    prompts_read Client.desk .offline ⟨"t"⟩ .alert "a1" supplied {}
  obtain ⟨-, -, each⟩ := prompts_read Client.desk .offline ⟨"t"⟩ .alert "a1" supplied' {}
  exact ⟨supplied, short, ⟨n, (once short).1, by simp [run, answers], (once short).2⟩, supplied',
    each.mpr (by decide)⟩

/-- There at once, the second of these lines is lost, and the second question is refused. -/
theorem prompts_misread :
    let text := Text.Utf8.bytes "y\ny\n"
    let run := delete (Client.desk.portal .offline) ⟨"t"⟩ Kind.alert.Record "a1" false
      (.piped text) {}
    run.answers = [.yes, .no] ∧ answersOf text 2 = [.yes, .yes] := by
  intro text run
  have read : Input.piped text = [text] := Input.piped_of_length_le (by decide) (by decide)
  have first : (Input.piped text).reply 0 = .yes := read ▸ (by decide +kernel)
  have second : (Input.piped text).reply 1 = .no := read ▸ (by decide +kernel)
  obtain ⟨n, answers, consents, last⟩ :=
    delete_answers (Client.desk.answer .offline) ⟨"t"⟩ .alert "a1" (.piped text) {}
  have answers : run.answers = _ := answers
  refine ⟨?_, by decide +kernel⟩
  obtain rfl | rfl | more : n = 0 ∨ n = 1 ∨ 1 < n := by omega
  · -- the first question cannot be the last: no attempt goes through
    obtain ⟨j, went⟩ := last first
    obtain ⟨-, _, _, _, replied, -⟩ := Client.delete_eq_ok_iff.mp went
    cases replied
  · rw [answers, List.range_succ, List.map_append]
    simp only [List.range_one, List.map_singleton, first, second, List.singleton_append]
  · cases (consents 1 more).symm.trans second

end Console

end AlertDesk
