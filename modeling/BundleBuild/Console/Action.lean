/-
Actions of console markup: a tag that starts with an at sign may name a handler with arguments in
round brackets, or hold any other literal. Literals are read when the tag is closed, and one that
stands for nothing is refused; what it stands for is never shown.
-/
import BundleBuild.Literal.Value
import BundleBuild.Text.Blank

namespace BundleBuild.Console

/-- The literal that the parameters of an action hold: the arguments of a handler, or all of it. -/
def actionLiteral (parameters : List Char) : List Char :=
  let name := parameters.takeWhile fun c => isWordChar c || c = '.'
  match parameters.drop name.length with
  | [] => ['(', ')']
  | '(' :: rest =>
    if rest.getLast? = some ')' && !rest.contains '\n' then '(' :: rest else parameters
  | _ => parameters

/-- The complaint about the parameters of an action. -/
def actionComplaint? (parameters : List Char) : Option String :=
  let literal := actionLiteral (trimChars parameters)
  let given := quoteText (String.ofList parameters)
  if parameters.isEmpty then none
  else (Literal.complaint? literal).map fun
    | .spelling flaw => "error parsing " ++ quoteText (String.ofList literal) ++ " in " ++ given ++
        "; " ++ flaw.message
    | .exhausted => "error parsing " ++ given ++ "; "
    | .value flaw => "error parsing " ++ given ++ "; " ++ flaw.message

end BundleBuild.Console
