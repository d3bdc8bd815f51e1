import Transclusion.Digest.Sha256
import Transclusion.Fault

/-! Settings of the log.

Whether records are sent on, whether they are shown on the console and with
which token they are sent is taken from variables of the environment. A switch
is a word for yes or no, in any case of its letters. -/
namespace Transclusion.Logging

structure Settings where
  enabled : Bool
  console : Bool
  token : Option String
  deriving DecidableEq, Repr

/-- Variables of the environment. -/
abbrev Environment := List (String × String)

def enabledName : String := "SITEPARTIALS_LOGFIRE"

def consoleName : String := "SITEPARTIALS_LOG_CONSOLE"

def tokenName : String := "LOGFIRE_TOKEN"

def yesWords : List String := ["1", "on", "t", "true", "y", "yes"]

def noWords : List String := ["0", "off", "f", "false", "n", "no"]

/-- The switch that a word means. -/
def switch? (word : String) : Option Bool :=
  let lower := String.ofList (word.toList.map Char.toLower)
  if yesWords.contains lower then some true
  else if noWords.contains lower then some false
  else none

/-- A switch of the environment, which is off unless it is set. -/
def switchOf (environment : Environment) (name : String) : Except (List Complaint) Bool :=
  match environment.lookup name with
  | none => .ok false
  | some word => match switch? word with
    | some b => .ok b
    | none => .error [⟨[.field name], .boolean⟩]

def Settings.ofEnvironment (environment : Environment) : Except Fault Settings :=
  let token := environment.lookup tokenName
  match switchOf environment enabledName, switchOf environment consoleName with
  | .ok enabled, .ok console => .ok ⟨enabled, console, token⟩
  | .error cs, .ok _ => .error (.invalid cs)
  | .ok _, .error cs => .error (.invalid cs)
  | .error cs, .error ds => .error (.invalid (cs ++ ds))

/-- What is kept of a token for comparison; an empty token is none. -/
def fingerprint? (token : Option String) : Option String :=
  match token with
  | none => none
  | some s =>
    if s = "" then none
    else some (String.ofList ((Digest.sha256 (Text.encodeUtf8 s)).flatMap fun b =>
      Text.hexDigits 2 b.toNat))

end Transclusion.Logging
