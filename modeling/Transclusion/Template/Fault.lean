import Transclusion.Value.Printing

/-! What is wrong with a template.

A template is rejected as a whole when its text does not follow the grammar
(`SyntaxFault`) or names something that does not exist (`NameFault`), each at a
line of the text. A template that was accepted can still stop while it renders
(`RunFault`). -/
namespace Transclusion.Template

/-- A tag where it may not stand, or the end of the text within a block. -/
structure Misplaced where
  /-- The tag; none at the end of the text. -/
  tag : Option String
  /-- The tags that the open blocks wait for, the innermost block first. -/
  wanted : List (List String)
  /-- The name of the innermost open block. -/
  innermost : Option String
  deriving DecidableEq, Repr

inductive SyntaxFault where
  | unexpectedChar (c : Char) (position : Nat)
  /-- A closing bracket without its opening one. -/
  | unexpectedBracket (found : Char) (expected : Option Char)
  | unclosedComment
  | unclosedRaw
  /-- A run of characters of names that is no name. -/
  | badName
  | badEscape (reason : String)
  | unexpectedToken (description : String)
  | expectedToken (expected found : String)
  /-- The text ends where a token is expected. -/
  | endExpecting (expected : String)
  | expectedExpression (found : String)
  | expectedMember
  | expectedTag
  | notAssignable (form : String)
  | badArguments
  | chainedTests
  | callExpected
  | subscriptExpected
  | hyphenInBlockName
  | requiredContent
  | defaultOrder
  | invalidMarkup (tag : String)
  | misplaced (what : Misplaced)
  deriving DecidableEq, Repr

inductive NameFault where
  | filter (name : String)
  | test (name : String)
  | loopTarget
  | duplicateBlock (name : String)
  /-- An inheritance declared within something else. -/
  | nestedInheritance
  | hiddenImport
  /-- A parameter for the body of a caller that has no default. -/
  | callerParameter
  deriving DecidableEq, Repr

inductive RunFault where
  /-- An undefined value was used. -/
  | undefined (absence : Absence)
  /-- A filter that is not there, in a part of the template that need not have run. -/
  | filter (name : String)
  /-- A test that is not there, in such a part. -/
  | test (name : String)
  /-- An attribute of something that takes none. -/
  | attributeTarget
  /-- A block that must be filled in elsewhere. -/
  | requiredBlock (name : String)
  /-- A choice among no templates. -/
  | noTemplates
  /-- A directive outside of a rendering pass. -/
  | noPass (tag : String)
  deriving DecidableEq, Repr

/-- Tags in quotes with "or" between them. -/
def tagChoice (tags : List String) : String := " or ".intercalate (tags.map Text.quoted)

def Misplaced.message (m : Misplaced) : String :=
  let opening := match m.tag with
    | none => "Unexpected end of template."
    | some tag => s!"Encountered unknown tag {Text.quoted tag}."
  let looking := match m.wanted with
    | [] => []
    | tags :: _ =>
      match m.tag with
      | some tag =>
        if m.wanted.any (·.contains tag) then
          ["You probably made a nesting mistake. Jinja is expecting this tag, but currently looking " ++
            s!"for {tagChoice tags}."]
        else [s!"Jinja was looking for the following tags: {tagChoice tags}."]
      | none => [s!"Jinja was looking for the following tags: {tagChoice tags}."]
  let innermost := match m.innermost with
    | none => []
    | some name => [s!"The innermost block that needs to be closed is {Text.quoted name}."]
  " ".intercalate (opening :: looking ++ innermost)

namespace SyntaxFault

def message : SyntaxFault → String
  | unexpectedChar c position => s!"unexpected char {Text.quoted (String.singleton c)} at {position}"
  | unexpectedBracket found none => s!"unexpected '{found}'"
  | unexpectedBracket found (some expected) => s!"unexpected '{found}', expected '{expected}'"
  | unclosedComment => "Missing end of comment tag"
  | unclosedRaw => "Missing end of raw directive"
  | badName => "Invalid character in identifier"
  | badEscape reason => reason
  | unexpectedToken description => s!"unexpected {Text.quoted description}"
  | expectedToken expected found => s!"expected token {Text.quoted expected}, got {Text.quoted found}"
  | endExpecting expected => s!"unexpected end of template, expected {Text.quoted expected}."
  | expectedMember => "expected name or number"
  | expectedExpression found => s!"Expected an expression, got {Text.quoted found}"
  | expectedTag => "tag name expected"
  | notAssignable form => s!"can't assign to {Text.quoted form}"
  | badArguments => "invalid syntax for function call expression"
  | chainedTests => "You cannot chain multiple tests with is"
  | callExpected => "expected call"
  | subscriptExpected => "expected subscript expression"
  | hyphenInBlockName =>
    "Block names in Jinja have to be valid Python identifiers and may not contain hyphens, " ++
      "use an underscore instead."
  | requiredContent => "Required blocks can only contain comments or whitespace"
  | defaultOrder => "non-default argument follows default argument"
  | invalidMarkup tag => s!"Invalid markup for '{tag}' tag"
  | misplaced what => what.message

end SyntaxFault

namespace NameFault

def message : NameFault → String
  | filter name => s!"No filter named {Text.quoted name}."
  | test name => s!"No test named {Text.quoted name}."
  | loopTarget => "Can't assign to special loop variable in for-loop target"
  | duplicateBlock name => s!"block {Text.quoted name} defined twice"
  | nestedInheritance => "cannot use extend from a non top-level scope"
  | hiddenImport => "names starting with an underline can not be imported"
  | callerParameter =>
    "When defining macros or call blocks the special \"caller\" argument must be omitted or be given a " ++
      "default."

end NameFault

namespace RunFault

def message : RunFault → String
  | undefined absence => absence.message
  | filter name => s!"No filter named {Text.quoted name} found."
  | test name => s!"No test named {Text.quoted name} found."
  | attributeTarget => "cannot assign attribute on non-namespace object"
  | requiredBlock name => s!"Required block {Text.quoted name} not found"
  | noTemplates => "Tried to select from an empty list of templates."
  | noPass tag =>
    s!"'{tag}' tag rendered outside of a render pass; render templates through SiteRenderer"

end RunFault

end Transclusion.Template
