import SearchQuery.Command.Compile
import SearchQuery.Proofs.Query.Shown
import SearchQuery.Proofs.Settings.Usable

/-!
# How a compilation ends

The outcome of compiling decides how the command ends, with two exceptions.  An error is printed as markup, so a
message that closes a tag which is not open makes the run break down, and so does a bound of too many digits in a query
that compiles.  What the program itself puts around messages and queries never does.
-/

set_option autoImplicit false

namespace SearchQuery

open SearchQuery.Markup

/-! ## Runs -/

namespace Run

variable {α β : Type}

/-- What a run comes to, and the session that it leaves behind. -/
def after (run : Run α) (session : Session) : Except Stop α × Session :=
  (ExceptT.run run).run session

/-- The markup in which a message is printed as an error. -/
def errorMarkup (message : Text) : Text :=
  styled "error" "Error:" ++ ' ' :: message

/-- How a run ends that has an error to report, `before` being what was printed to the error stream before: what the
console makes of the message decides, and a plain message is printed as it is. -/
structure Reports (status : Nat) (message before : Text) (ended : Except Stop Unit × Session) : Prop where
  reported : ∀ shown, Console.print (errorMarkup message) = .ok shown →
    ended.1 = .error (.exit status) ∧ ∃ hinted, ended.2.stderr = before ++ shown ++ hinted
  unrenderable : ∀ fault, Console.print (errorMarkup message) = .error fault →
    ended.1 = .error (.breakdown (.markup fault))
  safe : Safe message → ended.1 = .error (.exit status)
  verbatim : IsPlain message → Console.FitsLine ("Error: " ++ message) →
    ended.1 = .error (.exit status) ∧
      ∃ hinted, ended.2.stderr = before ++ ("Error: " ++ message ++ ['\n']) ++ hinted

end Run

end SearchQuery
