import Transclusion.Inclusion.Run
import Transclusion.Template.Syntax
import Transclusion.Template.Token

/-! Reading templates.

The parts of a template are read from its tokens by descent. What has been met
of directives is kept in the order in which it was met, also when the reading
stops behind it: a directive's markup is judged before anything that follows.
The reading stops at a token that cannot be read as soon as it would be the next
one. -/
namespace Transclusion.Template

open Inclusion (Run)

/-- A directive as it is met: its tag and its markup. -/
abbrev MetDirective := String × List Char

/-- The tokens left, and the directives met. -/
structure Reading where
  /-- The number of tokens at the start, which bounds what can still be read. -/
  size : Nat
  tokens : List Token
  met : List MetDirective

abbrev Parser (α : Type) := Run Reading α

namespace TokenKind

/-- A token in words. -/
def describe : TokenKind → String
  | data _ => "template data / text"
  | blockBegin => "begin of statement block"
  | blockEnd => "end of statement block"
  | variableBegin => "begin of print statement"
  | variableEnd => "end of print statement"
  | name s => s
  | string _ => "string"
  | integer _ => "integer"
  | float _ => "float"
  | symbol s => s
  | finish => "end of template"
  | broken _ => ""

end TokenKind

namespace Parser

def current : Parser Token := do
  match (← get).tokens with
  | t :: _ => pure t
  | [] => pure ⟨1, .finish⟩

def fail {α : Type} (line : Nat) (fault : SyntaxFault) : Parser α := throw (.syntaxError fault line)

/-- Stops if a token cannot be read. -/
def checkToken (t : Token) : Parser Unit :=
  match t.kind with
  | .broken (.grammar fault) => fail t.line fault
  | .broken (.digits count) => throw (.digitLimit (some count))
  | .broken (.numeral first) => throw (.numeral first)
  | _ => pure ()

/-- Stops if the next token cannot be read. -/
def checkNext : Parser Unit := do checkToken (← current)

/-- Takes the next token; the end of the text stays. -/
def advance : Parser Token := do
  let t ← current
  modify fun r => { r with tokens := if t.kind = .finish then r.tokens else r.tokens.tail }
  checkNext
  pure t

def expect (kind : TokenKind) (description : String) : Parser Token := do
  let t ← current
  if t.kind = kind then advance
  else if t.kind = .finish then fail t.line (.endExpecting description)
  else fail t.line (.expectedToken description t.kind.describe)

/-- The kind of the token behind the next one. -/
def ahead : Parser TokenKind := do
  match (← get).tokens with
  | _ :: t :: _ => do checkToken t; pure t.kind
  | _ => pure .finish

def expectSymbol (s : String) : Parser Unit := discard (expect (.symbol s) s)

def expectName : Parser (Token × String) := do
  let t ← current
  match t.kind with
  | .name s => do discard advance; pure (t, s)
  | .finish => fail t.line (.endExpecting "name")
  | kind => fail t.line (.expectedToken "name" kind.describe)

/-- Takes a token of a kind if it is the next one. -/
def skip? (kind : TokenKind) : Parser Bool := do
  if (← current).kind = kind then do discard advance; pure true
  else pure false

/-- Repeats a step as long as it goes on; `fuel` bounds the number of steps. -/
def iterate {α : Type} (step : α → Parser (Option α)) : (fuel : Nat) → α → Parser α
  | 0, a => pure a
  | fuel + 1, a => do
    match ← step a with
    | some b => iterate step fuel b
    | none => pure a

/-- Repeats a step that takes a token each time. -/
def loop {α : Type} (step : α → Parser (Option α)) (a : α) : Parser α := do
  iterate step ((← get).size + 1) a

def meetsName (names : List String) : Parser Bool := do
  match (← current).kind with
  | .name n => pure (names.contains n)
  | _ => pure false

/-- A literal text, with the literals behind it. -/
def texts (first : String) : Parser String :=
  loop (fun s => do
    match (← current).kind with
    | .string more => do discard advance; pure (some (s ++ more))
    | _ => pure none) first

/-- The value of a name that is a literal. -/
def namedLiteral? (n : String) : Option Constant :=
  [("true", .bool true), ("True", .bool true), ("false", .bool false), ("False", .bool false),
    ("none", .null), ("None", .null)].lookup n

/-- Items between commas up to a closing symbol, which is taken. -/
def itemsUpTo {α : Type} (item : Parser α) (close : String) : Parser (List α) := do
  let items ← loop (fun (items : List α) => do
    if (← current).kind = .symbol close then pure none
    else do
      if !items.isEmpty then expectSymbol ","
      if (← current).kind = .symbol close then pure none
      else pure (some ((← item) :: items))) []
  expectSymbol close
  pure items.reverse

/-- Whether the next token ends a tuple: the end of a tag or a closing bracket. -/
def atTupleEnd : Parser Bool := do
  match (← current).kind with
  | .variableEnd | .blockEnd | .symbol ")" => pure true
  | _ => pure false

/-- Items between commas, and whether there is a comma behind one. -/
def sequence {α : Type} (item : Parser α) : Parser (List α × Bool) := do
  let (items, isTuple, _) ← loop (fun (items, isTuple, goesOn) => do
    if !goesOn then pure none
    else do
      if !items.isEmpty then expectSymbol ","
      if ← atTupleEnd then pure (some (items, isTuple, false))
      else do
        let items := (← item) :: items
        if (← current).kind = .symbol "," then pure (some (items, true, true))
        else pure (some (items, isTuple, false))) ([], false, true)
  pure (items.reverse, isTuple)

/-- One expression, or several between commas as a tuple. -/
def tupleOf (item : Parser Expr) (mayBeEmpty : Bool) : Parser Expr := do
  match ← sequence item with
  | (items, true) => pure (.tuple items)
  | (e :: _, false) => pure e
  | ([], false) =>
    if mayBeEmpty then pure (.tuple [])
    else do
      let t ← current
      fail t.line (.expectedExpression t.kind.describe)

def mapping (inner : Parser Expr) : Parser Expr := do
  let entries ← itemsUpTo (do
    let key ← inner
    expectSymbol ":"
    pure (key, ← inner)) "\x7d"
  pure (.dict entries)

/-- A name, a literal, a collection or an expression in brackets; `inner` reads expressions. -/
def primary (inner : Parser Expr) : Parser Expr := do
  let t ← current
  match t.kind with
  | .name n => do
    discard advance
    match namedLiteral? n with
    | some c => pure (.literal c)
    | none => pure (.name n)
  | .string s => do
    discard advance
    pure (.literal (.text (← texts s)))
  | .integer n => do discard advance; pure (.literal (.int n))
  | .float x => do discard advance; pure (.literal (.float x))
  | .symbol "(" => do
    discard advance
    let e ← tupleOf inner true
    expectSymbol ")"
    pure e
  | .symbol "[" => do
    discard advance
    pure (.list (← itemsUpTo inner "]"))
  | .symbol "\x7b" => do
    discard advance
    mapping inner
  | kind => fail t.line (.unexpectedToken kind.describe)

/-- A part of a slice, which may be left out before one of the symbols. -/
def sliceBound (inner : Parser Expr) (ends : List String) : Parser Expr := do
  match (← current).kind with
  | .symbol s => if ends.contains s then pure (.literal .null) else inner
  | _ => inner

/-- A position in brackets, or the bounds of a slice of `e`: what stands for the part of `e`, if it is
a slice, and the position otherwise. -/
def subscript (inner : Parser Expr) (e : Expr) : Parser (Expr ⊕ Expr) := do
  let first ← if (← current).kind = .symbol ":" then pure (Expr.literal .null) else inner
  if ← skip? (.symbol ":") then do
    let last ← sliceBound inner [":", "]", ","]
    let step ← if ← skip? (.symbol ":") then sliceBound inner ["]", ","] else pure (.literal .null)
    pure (.inl (.slice e first last step))
  else pure (.inr first)

/-- What is taken of a value by positions in brackets. -/
def subscripted (inner : Parser Expr) (e : Expr) : Parser Expr := do
  let subscripts ← loop (fun (subscripts : List (Expr ⊕ Expr)) => do
    if (← current).kind = .symbol "]" then pure none
    else do
      if !subscripts.isEmpty then expectSymbol ","
      pure (some ((← subscript inner e) :: subscripts))) []
  expectSymbol "]"
  match subscripts.reverse with
  | [.inl slice] => pure slice
  | [.inr position] => pure (.element e position)
  | several => pure (.element e (.tuple (several.map fun
    | .inl slice => slice
    | .inr position => position)))

/-- Arguments as they are read, each kind in the order in which they stand. -/
structure Arguments where
  positional : List Expr
  named : List (String × Expr)
  spread : Option Expr
  spreadNamed : Option Expr

namespace Arguments

def none : Arguments := ⟨[], [], .none, .none⟩

/-- The arguments in the order in which they get their values. -/
def toList (a : Arguments) : List (Passing × Expr) :=
  a.positional.map (.positional, ·) ++ a.spread.toList.map (.spread, ·) ++
    a.named.map (fun (name, e) => (.named name, e)) ++ a.spreadNamed.toList.map (.spreadNamed, ·)

end Arguments

/-- One argument behind others; `line` is that of the opening bracket. -/
def argument (inner : Parser Expr) (line : Nat) (a : Arguments) : Parser Arguments := do
  let allow (allowed : Bool) : Parser Unit := if allowed then pure () else fail line .badArguments
  match (← current).kind with
  | .symbol "*" => do
    allow (a.spread.isNone && a.spreadNamed.isNone)
    discard advance
    pure { a with spread := some (← inner) }
  | .symbol "**" => do
    allow a.spreadNamed.isNone
    discard advance
    pure { a with spreadNamed := some (← inner) }
  | .name n => do
    if (← ahead) = .symbol "=" then do
      allow a.spreadNamed.isNone
      discard advance
      discard advance
      pure { a with named := a.named ++ [(n, ← inner)] }
    else do
      allow (a.spread.isNone && a.spreadNamed.isNone && a.named.isEmpty)
      pure { a with positional := a.positional ++ [← inner] }
  | _ => do
    allow (a.spread.isNone && a.spreadNamed.isNone && a.named.isEmpty)
    pure { a with positional := a.positional ++ [← inner] }

def arguments (inner : Parser Expr) : Parser (List (Passing × Expr)) := do
  let opening ← expect (.symbol "(") "("
  let (a, _) ← loop (fun (a, isFirst) => do
    if (← current).kind = .symbol ")" then pure none
    else do
      if !isFirst then expectSymbol ","
      if (← current).kind = .symbol ")" then pure none
      else pure (some (← argument inner opening.line a, false))) (Arguments.none, true)
  expectSymbol ")"
  pure a.toList

def argumentsIfAny (inner : Parser Expr) : Parser (List (Passing × Expr)) := do
  if (← current).kind = .symbol "(" then arguments inner else pure []

/-- Members, elements and calls behind a value. -/
def members (inner : Parser Expr) (e : Expr) : Parser Expr :=
  loop (fun e => do
    match (← current).kind with
    | .symbol "." => do
      discard advance
      let t ← advance
      match t.kind with
      | .name n => pure (some (.member e n))
      | .integer n => pure (some (.element e (.literal (.int n))))
      | _ => fail t.line .expectedMember
    | .symbol "[" => do
      discard advance
      pure (some (← subscripted inner e))
    | .symbol "(" => pure (some (.call e (← arguments inner)))
    | _ => pure none) e

/-- The rest of a filter's name, behind points. -/
def dottedName (first : String) : Parser String :=
  loop (fun s => do
    if ← skip? (.symbol ".") then pure (some (s ++ "." ++ (← expectName).2))
    else pure none) first

/-- A filter of a value, from its name on. -/
def filterOf (inner : Parser Expr) (e : Expr) : Parser Expr := do
  let (word, first) ← expectName
  let name ← dottedName first
  pure (.filter e name (← argumentsIfAny inner) word.line)

def filters (inner : Parser Expr) (e : Expr) : Parser Expr :=
  loop (fun e => do
    if ← skip? (.symbol "|") then pure (some (← filterOf inner e)) else pure none) e

/-- The arguments of a test: in brackets, or one that stands behind the name. -/
def testArguments (inner : Parser Expr) : Parser (List (Passing × Expr)) := do
  let one : Parser (List (Passing × Expr)) := do pure [(.positional, ← members inner (← primary inner))]
  let t ← current
  match t.kind with
  | .symbol "(" => arguments inner
  | .name n =>
    if n = "else" ∨ n = "or" ∨ n = "and" then pure []
    else if n = "is" then fail t.line .chainedTests
    else one
  | .string _ | .integer _ | .float _ | .symbol "[" | .symbol "\x7b" => one
  | _ => pure []

/-- Filters, tests and calls behind a value. -/
def applications (inner : Parser Expr) (e : Expr) : Parser Expr :=
  loop (fun e => do
    let t ← current
    match t.kind with
    | .symbol "|" => do
      discard advance
      pure (some (← filterOf inner e))
    | .name "is" => do
      discard advance
      let isNegated ← skip? (.name "not")
      let (_, first) ← expectName
      let name ← dottedName first
      let test := Expr.test e name (← testArguments inner) t.line
      pure (some (if isNegated then .negation test else test))
    | .symbol "(" => pure (some (.call e (← arguments inner)))
    | _ => pure none) e

/-- Operands joined by operators, from the left; `combine?` tells what a token joins two by. -/
def joined (operand : Parser Expr) (combine? : TokenKind → Option (Expr → Expr → Expr)) :
    Parser Expr := do
  loop (fun e => do
    match combine? (← current).kind with
    | some combine => do
      discard advance
      pure (some (combine e (← operand)))
    | none => pure none) (← operand)

/-- A value with signs before it and with what stands behind it. -/
def unary (inner : Parser Expr) : Parser Expr := do
  let signs ← loop (fun (signs : List Bool) => do
    match (← current).kind with
    | .symbol "-" => do discard advance; pure (some (true :: signs))
    | .symbol "+" => do discard advance; pure (some (false :: signs))
    | _ => pure none) []
  let e ← members inner (← primary inner)
  applications inner (signs.foldl (fun e isMinus => .signed isMinus e) e)

def powers (inner : Parser Expr) : Parser Expr :=
  joined (unary inner) fun
    | .symbol "**" => some (.binary .power)
    | _ => none

def products (inner : Parser Expr) : Parser Expr :=
  joined (powers inner) fun
    | .symbol "*" => some (.binary .multiply)
    | .symbol "/" => some (.binary .divide)
    | .symbol "//" => some (.binary .floorDivide)
    | .symbol "%" => some (.binary .remainder)
    | _ => none

def concatenations (inner : Parser Expr) : Parser Expr := do
  let items ← loop (fun (items : List Expr) => do
    if ← skip? (.symbol "~") then pure (some ((← products inner) :: items)) else pure none)
    [← products inner]
  match items with
  | [e] => pure e
  | items => pure (.concat items.reverse)

def sums (inner : Parser Expr) : Parser Expr :=
  joined (concatenations inner) fun
    | .symbol "+" => some (.binary .add)
    | .symbol "-" => some (.binary .subtract)
    | _ => none

/-- Takes a comparison's operator, if one comes next. -/
def comparison? : Parser (Option Comparison) := do
  let simple (c : Comparison) : Parser (Option Comparison) := do discard advance; pure (some c)
  match (← current).kind with
  | .symbol "==" => simple .same
  | .symbol "!=" => simple .differ
  | .symbol "<" => simple .less
  | .symbol "<=" => simple .atMost
  | .symbol ">" => simple .greater
  | .symbol ">=" => simple .atLeast
  | .name "in" => simple .inside
  | .name "not" => do
    if (← ahead) = .name "in" then do
      discard advance
      simple .outside
    else pure none
  | _ => pure none

def comparisons (inner : Parser Expr) : Parser Expr := do
  let first ← sums inner
  let others ← loop (fun (others : List (Comparison × Expr)) => do
    match ← comparison? with
    | some c => pure (some ((c, ← sums inner) :: others))
    | none => pure none) []
  pure (if others.isEmpty then first else .compare first others.reverse)

/-- A comparison behind any number of negations. -/
def negations (inner : Parser Expr) : Parser Expr := do
  let count ← loop (fun (n : Nat) => do
    if ← skip? (.name "not") then pure (some (n + 1)) else pure none) 0
  let e ← comparisons inner
  pure (Nat.repeat Expr.negation count e)

def conjunctions (inner : Parser Expr) : Parser Expr :=
  joined (negations inner) fun
    | .name "and" => some .both
    | _ => none

def disjunctions (inner : Parser Expr) : Parser Expr :=
  joined (conjunctions inner) fun
    | .name "or" => some .either
    | _ => none

/-- An expression, with what it is if a test does not hold. -/
def conditionals (inner : Parser Expr) : Parser Expr := do
  let start ← current
  let (e, _) ← loop (fun (e, line) => do
    if ← skip? (.name "if") then do
      let test ← disjunctions inner
      let otherwise ← if ← skip? (.name "else") then inner else pure (.unmatched line)
      pure (some (.conditional test e otherwise, (← current).line))
    else pure none) (← disjunctions inner, start.line)
  pure e

/-- An expression with brackets nested to a depth at most. -/
def expressionTo : (depth : Nat) → Parser Expr
  | 0 => do
    let t ← current
    fail t.line (.unexpectedToken t.kind.describe)
  | depth + 1 => conditionals (expressionTo depth)

def expression : Parser Expr := do expressionTo ((← get).size + 1)

/-- An expression, or several as a tuple. -/
def tuple : Parser Expr := tupleOf expression false

/-- An expression that is no conditional one, or several as a tuple. -/
def plainTuple : Parser Expr := tupleOf (do disjunctions expression) false

/-- Takes a name that can be given a meaning. -/
def expectFreeName : Parser (Token × String) := do
  let (t, name) ← expectName
  if (namedLiteral? name).isSome then fail t.line (.notAssignable "name")
  pure (t, name)

/-- What an expression is, as far as assigning to it goes. -/
def form : Expr → String
  | .name _ => "name"
  | .literal _ | .constant _ _ => "const"
  | .list _ => "list"
  | .tuple _ => "tuple"
  | .dict _ => "dict"
  | .member _ _ => "getattr"
  | .element _ _ | .slice _ _ _ _ => "getitem"
  | .call _ _ => "call"
  | .negation _ => "not"
  | .signed true _ => "neg"
  | .signed false _ => "pos"
  | .both _ _ => "and"
  | .either _ _ => "or"
  | .compare _ _ => "compare"
  | .binary .add _ _ => "add"
  | .binary .subtract _ _ => "sub"
  | .binary .multiply _ _ => "mul"
  | .binary .divide _ _ => "div"
  | .binary .floorDivide _ _ => "floordiv"
  | .binary .remainder _ _ => "mod"
  | .binary .power _ _ => "pow"
  | .concat _ => "concat"
  | .conditional _ _ _ => "condexpr"
  | .unmatched _ => "condexpr"
  | .filter _ _ _ _ => "filter"
  | .test _ _ _ _ => "test"
  | .captured => "name"

mutual

/-- The target that an expression is, if it can be assigned to. -/
def targetOf? (line : Nat) : Expr → Option Target
  | .name n => some (.name n line)
  | .tuple items => (targetsOf? line items).map .tuple
  | _ => none

/-- The targets that expressions are. -/
def targetsOf? (line : Nat) : List Expr → Option (List Target)
  | [] => some []
  | e :: rest => do
    let target ← targetOf? line e
    some (target :: (← targetsOf? line rest))

end

/-- One target, or what stands in place of one; an attribute may be one. -/
def oneTarget (mayBeAttribute : Bool) : Parser (Except String Target) := do
  let t ← current
  let e ← primary expression
  match e with
  | .name n => do
    if mayBeAttribute && t.kind = .name n && (← current).kind = .symbol "." then do
      discard advance
      let (_, member) ← expectName
      pure (.ok (.attribute n member))
    else pure (.ok (.name n t.line))
  | e => match targetOf? t.line e with
    | some target => pure (.ok target)
    | none => pure (.error (form e))

/-- What is assigned to: a name, or several targets between commas. -/
def target (mayBeAttribute : Bool) : Parser Target := do
  let t ← current
  let (items, isTuple) ← sequence (oneTarget mayBeAttribute)
  match isTuple, items with
  | false, [.ok target] => pure target
  | false, [.error form] => fail t.line (.notAssignable form)
  | false, _ => do
    let t ← current
    fail t.line (.expectedExpression t.kind.describe)
  | true, items =>
    match items.mapM Except.toOption with
    | some targets => pure (.tuple targets)
    | none => fail t.line (.notAssignable "tuple")

/-- The blocks that are open around a place, the innermost first. -/
structure Surroundings where
  /-- The names that are directives. -/
  directives : List String
  /-- The tags that the blocks wait for. -/
  wanted : List (List String)
  /-- The tags that opened them. -/
  opened : List String

namespace Surroundings

/-- The surroundings within one more tag. -/
def within (s : Surroundings) (tag : String) : Surroundings := { s with opened := tag :: s.opened }

/-- The surroundings within a body that ends at one of the tags. -/
def upTo (s : Surroundings) (ends : List String) : Surroundings := { s with wanted := ends :: s.wanted }

end Surroundings

/-- The name that comes next, if one does. -/
def currentName? : Parser (Option String) := do
  match (← current).kind with
  | .name n => pure (some n)
  | _ => pure none

/-- Reads the parts of a body. -/
abbrev Body := Surroundings → Parser (List Part)

/-- A body from the end of its tag up to one of the end tags; its name is the next token then. -/
def bodyUpTo (parts : Body) (s : Surroundings) (ends : List String) : Parser (List Part) := do
  discard (skip? (.symbol ":"))
  discard (expect .blockEnd "end of statement block")
  let body ← parts (s.upTo ends)
  let t ← current
  if t.kind = .finish then
    fail t.line (.misplaced ⟨none, ends :: s.wanted, s.opened.head?⟩)
  pure body

/-- A body up to its only end tag, whose name is taken. -/
def bodyTo (parts : Body) (s : Surroundings) (ending : String) : Parser (List Part) := do
  let body ← bodyUpTo parts s [ending]
  discard advance
  pure body

/-- A choice behind its word, up to the name of its last end tag. -/
def choiceTo (parts : Body) (s : Surroundings) :
    (branches : Nat) → Parser (Expr × List Part × List Part × List Part)
  | 0 => do
    let t ← current
    fail t.line (.unexpectedToken t.kind.describe)
  | branches + 1 => do
    let test ← plainTuple
    let body ← bodyUpTo parts s ["elif", "else", "endif"]
    match (← advance).kind with
    | .name "elif" => do
      let (test', body', further, otherwise) ← choiceTo parts s branches
      pure (test, body, .choice test' body' [] [] :: further, otherwise)
    | .name "else" => do pure (test, body, [], ← bodyTo parts s "endif")
    | _ => pure (test, body, [], [])

def choiceTag (parts : Body) (s : Surroundings) : Parser Part := do
  let (test, body, further, otherwise) ← choiceTo parts s ((← get).size + 1)
  pure (.choice test body further otherwise)

def loopTag (parts : Body) (s : Surroundings) : Parser Part := do
  let variable_ ← target false
  discard (expect (.name "in") "in")
  let range ← plainTuple
  let test ← if ← skip? (.name "if") then do pure (some (← expression)) else pure none
  let isRecursive ← skip? (.name "recursive")
  let body ← bodyUpTo parts s ["endfor", "else"]
  match (← advance).kind with
  | .name "else" => do pure (.loop variable_ range test isRecursive body (← bodyTo parts s "endfor"))
  | _ => pure (.loop variable_ range test isRecursive body [])

def assignTag (parts : Body) (s : Surroundings) : Parser Part := do
  let variable_ ← target true
  if ← skip? (.symbol "=") then pure (.assign variable_ (← tuple))
  else do
    let e ← filters expression .captured
    pure (.assignRegion variable_ e (← bodyTo parts s "endset"))

/-- Names of its own for a body, behind the word. -/
def scopedTag (parts : Body) (s : Surroundings) : Parser Part := do
  let items ← loop (fun (items : List (Target × Expr)) => do
    if (← current).kind = .blockEnd then pure none
    else do
      if !items.isEmpty then expectSymbol ","
      let variable_ ← target false
      expectSymbol "="
      pure (some ((variable_, ← expression) :: items))) []
  let items := items.reverse
  pure (.scoped (items.map Prod.fst) (items.map Prod.snd) (← bodyTo parts s "endwith"))

/-- Whether a part is data of blanks alone. -/
def isBlankData : Part → Bool
  | .data text => text.toList.all Text.isBlank
  | _ => false

/-- A named body behind its word. -/
def blockTag (parts : Body) (s : Surroundings) (line : Nat) : Parser Part := do
  let (_, name) ← expectName
  let isScoped ← skip? (.name "scoped")
  let isRequired ← skip? (.name "required")
  let t ← current
  if t.kind = .symbol "-" then fail t.line .hyphenInBlockName
  let body ← bodyTo parts s "endblock"
  if isRequired && !body.all isBlankData then fail (← current).line .requiredContent
  discard (skip? (.name name))
  pure (.block name isScoped isRequired line body)

/-- Takes two names if they come next. -/
def skipNames? (first : List String) (second : String) : Parser Bool := do
  if ← meetsName first then do
    if (← ahead) = .name second then do
      discard advance
      discard advance
      pure true
    else pure false
  else pure false

/-- Takes what tells whether another template sees the variables. -/
def contextWords : Parser Bool := skipNames? ["with", "without"] "context"

/-- Whether an expression is a choice among templates, or may be one. -/
def isChoice : Expr → Bool
  | .literal (.text _) => false
  | _ => true

/-- Another template in place, behind the word. -/
def loadTag : Parser Part := do
  let e ← expression
  let isOptional ← skipNames? ["ignore"] "missing"
  discard contextWords
  pure (.load e (isChoice e) isOptional)

/-- Another template under a name, behind the word. -/
def importTag : Parser Part := do
  let e ← expression
  discard (expect (.name "as") "as")
  discard expectFreeName
  discard contextWords
  pure (.load e false false)

/-- Names from another template, behind the word. -/
def importNamesTag : Parser Part := do
  let e ← expression
  discard (expect (.name "import") "import")
  discard (loop (fun (isFirst, goesOn) => do
    if !goesOn then pure none
    else do
      if !isFirst then expectSymbol ","
      match (← current).kind with
      | .name _ => do
        if ← contextWords then pure (some (false, false))
        else do
          let (t, name) ← expectFreeName
          if name.startsWith "_" then throw (.nameError .hiddenImport t.line)
          if ← skip? (.name "as") then discard expectFreeName
          if ← contextWords then pure (some (false, false))
          else pure (some (false, (← current).kind = .symbol ","))
      | _ => do discard expectName; pure none) (true, true))
  pure (.load e false false)

/-- The parameters of a callable body in brackets, and the defaults of the last of them. -/
def parameters : Parser (List String × List Expr) := do
  expectSymbol "("
  let taken ← loop (fun ((names, defaults) : List String × List Expr) => do
    if (← current).kind = .symbol ")" then pure none
    else do
      if !names.isEmpty then expectSymbol ","
      let (_, name) ← expectFreeName
      if ← skip? (.symbol "=") then pure (some (names ++ [name], defaults ++ [← expression]))
      else if defaults.isEmpty then pure (some (names ++ [name], defaults))
      else fail (← current).line .defaultOrder) ([], [])
  expectSymbol ")"
  pure taken

/-- A callable body behind its word. -/
def defineTag (parts : Body) (s : Surroundings) (line : Nat) : Parser Part := do
  let (_, name) ← expectFreeName
  let (names, defaults) ← parameters
  pure (.define name line names defaults (← bodyTo parts s "endmacro"))

/-- A call with a callable body, behind the word. -/
def callTag (parts : Body) (s : Surroundings) (line : Nat) : Parser Part := do
  let (names, defaults) ← if (← current).kind = .symbol "(" then parameters else pure ([], [])
  match ← expression with
  | .call e args => do pure (.calling e args line names defaults (← bodyTo parts s "endcall"))
  | _ => fail line .callExpected

def printTag : Parser (List Part) := do
  let items ← loop (fun (items : List Expr) => do
    if (← current).kind = .blockEnd then pure none
    else do
      if !items.isEmpty then expectSymbol ","
      pure (some ((← expression) :: items))) []
  pure (items.reverse.map .print)

/-- A directive behind its name. -/
def directiveTag (tag : String) (line : Nat) : Parser Part := do
  match ← expression with
  | .literal (.text markup) => do
    let markup := markup.toList
    modify fun r => { r with met := r.met ++ [(tag, markup)] }
    pure (.directive tag markup)
  | _ => fail line (.invalidMarkup tag)

/-- The tags of the language itself, which no directive replaces. -/
def ownTags : List String :=
  ["for", "if", "block", "extends", "print", "macro", "include", "from", "import", "set", "with",
    "autoescape", "call", "filter"]

/-- A tag of the language behind its word. -/
def ownTag (parts : Body) (s : Surroundings) (word : String) (line : Nat) : Parser (List Part) := do
  let one (m : Parser Part) : Parser (List Part) := do pure [← m]
  match word with
  | "if" => one (choiceTag parts s)
  | "for" => one (loopTag parts s)
  | "set" => one (assignTag parts s)
  | "with" => one (scopedTag parts s)
  | "print" => printTag
  | "block" => one (blockTag parts s line)
  | "extends" => do pure [.inherit (← expression) line]
  | "include" => one loadTag
  | "import" => one importTag
  | "from" => one importNamesTag
  | "macro" => one (defineTag parts s line)
  | "call" => one (callTag parts s line)
  | "autoescape" => do
    let e ← expression
    pure [.escaping e (← bodyTo parts s "endautoescape")]
  | _ => do
    let e ← filters expression (← filterOf expression .captured)
    pure [.filtered e (← bodyTo parts s "endfilter")]

/-- A tag up to its end. -/
def statement (parts : Body) (s : Surroundings) : Parser (List Part) := do
  let t ← current
  match t.kind with
  | .name n =>
    if ownTags.contains n then do
      discard advance
      ownTag parts (s.within n) n t.line
    else if s.directives.contains n then do
      discard advance
      pure [← directiveTag n t.line]
    else fail t.line (.misplaced ⟨some n, s.wanted, s.opened.head?⟩)
  | _ => fail t.line .expectedTag

/-- The parts up to the end, or up to one of the tags that the innermost body waits for. -/
def partsTo : (fuel : Nat) → Surroundings → Parser (List Part)
  | 0, _ => pure []
  | fuel + 1, s => do
    match (← current).kind with
    | .data text => do
      discard advance
      pure (.data (String.ofList text) :: (← partsTo fuel s))
    | .variableBegin => do
      discard advance
      let e ← tuple
      discard (expect .variableEnd "end of print statement")
      pure (.print e :: (← partsTo fuel s))
    | .blockBegin => do
      discard advance
      let ends := s.wanted.headD []
      match ← currentName? with
      | some n =>
        if ends.contains n then pure []
        else do
          let part ← statement (partsTo fuel) s
          discard (expect .blockEnd "end of statement block")
          pure (part ++ (← partsTo fuel s))
      -- A tag that begins with no name is a fault.
      | none => discard (statement (partsTo fuel) s); pure []
    | _ => pure []

end Parser

/-- The parts of a template, and the directives met on the way. -/
def parse (directives : List String) (tokens : List Token) :
    Except Fault (List Part) × List MetDirective :=
  let m : Parser (List Part) := do
    Parser.checkNext
    Parser.partsTo (tokens.length + 1) ⟨directives, [], []⟩
  let (outcome, r) := m.start ⟨tokens.length, tokens, []⟩
  (outcome, r.met)

end Transclusion.Template
