/-!
# AlertDesk.Csrf

The token that guards changes.  It is resolved once, at start, and handed to
every changing call; it is sent in one header and shown nowhere.
-/

namespace AlertDesk

/-- A CSRF token. -/
structure CsrfToken where
  text : String
  deriving DecidableEq

namespace CsrfToken

/-- How a token is shown: not at all. -/
def shown (_ : CsrfToken) : String := "CsrfToken(<redacted>)"

/-- The header that carries the token, in the lower case of the wire. -/
def header : String := "csrf-token"

/-- Whether the token can be the value of a header: a control character other
than tab cannot. -/
def fitsHeader (t : CsrfToken) : Bool :=
  t.text.toList.all fun c => c = '\t' || (0x20 ≤ c.toNat && c.toNat ≠ 0x7F)

end CsrfToken

end AlertDesk
