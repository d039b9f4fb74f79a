import AlertDesk.Csrf
import AlertDesk.Text.Blank

/-!
# AlertDesk.Settings

How to reach the portal.  The token is given outright or is read from an
environment variable; given both ways, the first one counts.  A token of
nothing but blanks is refused.
-/

namespace AlertDesk

/-- How to reach the portal. -/
structure Settings where
  url : String
  token : CsrfToken
  insecure : Bool := false
  /-- Seconds to wait for a response. -/
  timeout : Nat := 30
  deriving DecidableEq

namespace Settings

/-- What can be wrong with the token. -/
inductive Fault where
  /-- The environment variable is not set. -/
  | variableUnset (name : String)
  | tokenMissing
  | tokenEmpty
  deriving DecidableEq

/-- The text of a fault. -/
def Fault.message : Fault → String
  | .variableUnset name =>
    "Failed to read CSRF token from " ++ name ++ ": environment variable not found"
  | .tokenMissing => "Either csrfToken or csrfTokenFrom must be set"
  | .tokenEmpty => "CSRF token is empty"

/-- Settings as they are written down. -/
structure Raw where
  url : String := ""
  token : Option String := none
  /-- The environment variable that holds the token. -/
  tokenFrom : Option String := none
  insecure : Option Bool := none
  timeout : Option Nat := none
  deriving DecidableEq

/-- The token, from wherever it is given. -/
def Raw.findToken (raw : Raw) (env : String → Option String) : Except Fault String :=
  match raw.token, raw.tokenFrom with
  | some token, _ => .ok token
  | none, some name => match env name with
    | some token => .ok token
    | none => .error (.variableUnset name)
  | none, none => .error .tokenMissing

/-- Settings with the token found. -/
def resolve (env : String → Option String) (raw : Raw) : Except Fault Settings := do
  let token ← raw.findToken env
  if Text.allBlank token then throw .tokenEmpty
  return {
    url := Text.dropTrailingSlashes raw.url
    token := ⟨token⟩
    insecure := raw.insecure.getD false
    timeout := raw.timeout.getD 30 }

/-- No settings have a blank token. -/
theorem not_allBlank_of_resolve {env : String → Option String} {raw : Raw} {s : Settings}
    (h : resolve env raw = .ok s) : Text.allBlank s.token.text = false := by
  unfold resolve at h
  cases ht : raw.findToken env with
  | error e => simp [ht, bind, Except.bind] at h
  | ok token =>
    simp only [ht, bind, Except.bind] at h
    by_cases hb : Text.allBlank token = true
    · simp [hb, throw, throwThe, MonadExceptOf.throw] at h
    · simp [hb, pure, Except.pure] at h
      rw [← h]
      simpa using hb

end Settings

end AlertDesk
