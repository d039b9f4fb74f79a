/-!
# AlertDesk.Url.Fault

What keeps a text from being a URL.
-/

namespace AlertDesk.Url

/-- A reason why a text is no URL. -/
inductive Fault where
  | relative
  | emptyHost
  | badDomain
  | badHostCharacter
  | badPort
  | badV4
  | badV6
  deriving DecidableEq

/-- The text of a reason. -/
def Fault.message : Fault → String
  | .relative => "relative URL without a base"
  | .emptyHost => "empty host"
  | .badDomain => "invalid international domain name"
  | .badHostCharacter => "invalid domain character"
  | .badPort => "invalid port number"
  | .badV4 => "invalid IPv4 address"
  | .badV6 => "invalid IPv6 address"

end AlertDesk.Url
