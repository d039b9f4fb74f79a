import AlertDesk.Text.Blank
import AlertDesk.Text.Utf8

/-!
# AlertDesk.Prompt

Questions that are answered with a line of standard input.

Standard input arrives in chunks, and a read takes one of them.  A question
reads chunks until it has a whole line; what stands behind the line in its last
chunk is lost.  Typed input has one line in each chunk, so that nothing is lost;
piped input is there at once and is read in chunks of 8 KiB.

Main facts: `flatten_piped`, piped input is all there and in order;
`length_readLine_le`, reading never adds to the input; `length_lt_of_ask_yes`, a
question that is answered with yes has taken a chunk.
-/

namespace AlertDesk

/-- What is left of standard input.  An empty chunk is an end of input, as is
the end of the list. -/
abbrev Input := List (List UInt8)

namespace Input

/-- The byte that ends a line. -/
def newline : UInt8 := 0x0A

/-- Input that is typed line by line. -/
def typed (lines : List String) : Input := lines.map fun l => Text.Utf8.bytes l ++ [newline]

/-- The most bytes that a read takes. -/
def chunkSize : Nat := 8192

/-- Input that is there at once. -/
def piped (bytes : List UInt8) : Input :=
  if bytes.isEmpty then [] else bytes.take chunkSize :: piped (bytes.drop chunkSize)
termination_by bytes.length
decreasing_by
  simp_all only [List.isEmpty_iff, List.length_drop, chunkSize]
  have := List.length_pos_iff.mpr ‹_›
  omega

/-- Nothing of piped input is lost before it is read. -/
theorem flatten_piped (bytes : List UInt8) : (piped bytes).flatten = bytes := by
  rw [piped]
  split
  · simp_all
  · rw [List.flatten_cons, flatten_piped (bytes.drop chunkSize), List.take_append_drop]
termination_by bytes.length
decreasing_by
  simp_all only [List.isEmpty_iff, List.length_drop, chunkSize]
  have := List.length_pos_iff.mpr ‹_›
  omega

/-- Reads a line, with the byte that ends it if there is one. -/
def readLine : Input → List UInt8 × Input
  | [] => ([], [])
  | chunk :: rest =>
    if chunk.isEmpty then ([], rest)
    else if chunk.contains newline then (chunk.takeWhile (· ≠ newline) ++ [newline], rest)
    else
      let (line, left) := readLine rest
      (chunk ++ line, left)

theorem length_readLine_le (input : Input) : (readLine input).2.length ≤ input.length := by
  induction input with
  | nil => simp [readLine]
  | cons chunk rest ih =>
    simp only [readLine]
    split
    · simp
    · split
      · simp
      · simp only [List.length_cons]
        omega

theorem length_readLine_cons (chunk : List UInt8) (rest : Input) :
    (readLine (chunk :: rest)).2.length ≤ rest.length := by
  simp only [readLine]
  split
  · simp
  · split
    · simp
    · exact length_readLine_le rest

end Input

/-- What the answer to a question comes to. -/
inductive Answer where
  | yes
  | no
  /-- The line is no text. -/
  | unreadable
  deriving DecidableEq

namespace Answer

/-- The lines that say yes, blanks around them aside. -/
def consents : List (List Char) := [['y'], ['Y'], ['y', 'e', 's']]

/-- What a line comes to. -/
def ofLine (line : List UInt8) : Answer :=
  match Text.Utf8.decode? line with
  | none => .unreadable
  | some cs => if Text.trimChars cs ∈ consents then .yes else .no

/-- End of input is a refusal. -/
@[simp] theorem ofLine_nil : ofLine [] = .no := by decide

/-- Reads the answer to a question. -/
def ask (input : Input) : Answer × Input :=
  let (line, rest) := input.readLine
  (ofLine line, rest)

@[simp] theorem ask_nil : ask [] = (.no, []) := by simp [ask, Input.readLine]

theorem length_ask_le (input : Input) : (ask input).2.length ≤ input.length :=
  Input.length_readLine_le input

theorem length_lt_of_ask_yes {input : Input} (h : (ask input).1 = .yes) :
    (ask input).2.length < input.length := by
  cases input with
  | nil => simp at h
  | cons chunk rest =>
    have := Input.length_readLine_cons chunk rest
    simp only [ask, List.length_cons]
    omega

end Answer

end AlertDesk
