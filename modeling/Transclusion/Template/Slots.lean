import Transclusion.Template.Syntax

/-! Slots of templates.

A template and every region with names of its own, such as the body of a loop,
have a frame with a slot for each name that they read or bind first; branches of
a choice share the frame around them. Where a slot gets its value from when the
frame is entered is settled by the text alone: a name that is read first comes
from the variables of the template; one that is bound first comes from the frame
around it if that has a slot for the name, and is empty if not; one that is first
bound in a branch is filled as if it were read. The name of the template itself
and the state of a loop have slots only where they are read before anything else
is bound under these names. -/
namespace Transclusion.Template

/-- Where a slot gets its value from. -/
inductive Load where
  /-- From the variables. -/
  | resolve
  /-- From the slot of the same name around it. -/
  | alias
  /-- From nowhere. -/
  | empty
  /-- From whoever enters the frame. -/
  | given
  deriving DecidableEq, Repr

/-- The slots of a frame in the order of their making, and the names bound in it. -/
structure Symbols where
  loads : List (String × Load)
  stores : List String
  deriving DecidableEq, Repr

namespace Symbols

def none : Symbols := ⟨[], []⟩

def has (s : Symbols) (name : String) : Bool := (s.loads.lookup name).isSome

/-- Sets where a slot gets its value from. -/
def setLoad (s : Symbols) (name : String) (load : Load) : Symbols :=
  if s.has name then { s with loads := s.loads.map fun (n, l) => if n = name then (n, load) else (n, l) }
  else { s with loads := s.loads ++ [(name, load)] }

def addStore (s : Symbols) (name : String) : Symbols :=
  if s.stores.contains name then s else { s with stores := s.stores ++ [name] }

/-- A name that whoever enters the frame gives a value. -/
def give (s : Symbols) (name : String) : Symbols := (s.addStore name).setLoad name .given

/-- A name is read; `outer` are the names with slots around the frame. -/
def read (outer : List String) (s : Symbols) (name : String) : Symbols :=
  if s.has name || outer.contains name then s else s.setLoad name .resolve

/-- A name is bound. -/
def store (outer : List String) (s : Symbols) (name : String) : Symbols :=
  let s := s.addStore name
  if s.has name then s else s.setLoad name (if outer.contains name then .alias else .empty)

/-- The names that branches bind and the frame does not. -/
def branchStores (s : Symbols) (branches : List Symbols) : List String :=
  ((branches.flatMap Symbols.stores).filter (!s.stores.contains ·)).eraseDups

/-- The frame after branches that were read each by itself. -/
def merge (outer : List String) (s : Symbols) (branches : List Symbols) : Symbols :=
  let merged := branches.foldl (fun (m : Symbols) (b : Symbols) =>
    b.stores.foldl addStore (b.loads.foldl (fun m (n, l) => m.setLoad n l) m)) s
  (s.branchStores branches).foldl (fun (m : Symbols) name =>
    m.setLoad name (if outer.contains name then .alias else .resolve)) merged

end Symbols

mutual

/-- The names that an expression reads, in order. -/
def Expr.names : Expr → List String
  | .name n => [n]
  | .literal _ | .unmatched _ | .captured => []
  | .constant _ e => e.names
  | .list items | .tuple items | .concat items => namesOfAll items
  | .dict entries => namesOfEntries entries
  | .member e _ | .negation e | .signed _ e => e.names
  | .element a b | .both a b | .either a b | .binary _ a b => a.names ++ b.names
  | .slice e first last step => e.names ++ first.names ++ last.names ++ step.names
  | .conditional test e otherwise => test.names ++ e.names ++ otherwise.names
  | .compare e others => e.names ++ namesOfOthers others
  | .call e args | .filter e _ args _ | .test e _ args _ => e.names ++ namesOfArguments args

def namesOfAll : List Expr → List String
  | [] => []
  | e :: rest => e.names ++ namesOfAll rest

/-- The names of the entries of a mapping. -/
def namesOfEntries : List (Expr × Expr) → List String
  | [] => []
  | (key, e) :: rest => key.names ++ e.names ++ namesOfEntries rest

/-- The names of the right sides of comparisons. -/
def namesOfOthers : List (Comparison × Expr) → List String
  | [] => []
  | (_, e) :: rest => e.names ++ namesOfOthers rest

def namesOfArguments : List (Passing × Expr) → List String
  | [] => []
  | (_, e) :: rest => e.names ++ namesOfArguments rest

end

mutual

/-- The names that a target binds, with their lines. -/
def Target.names : Target → List (String × Nat)
  | .name n line => [(n, line)]
  | .attribute _ _ => []
  | .tuple items => namesOfTargets items

def namesOfTargets : List Target → List (String × Nat)
  | [] => []
  | target :: rest => target.names ++ namesOfTargets rest

end

mutual

/-- The names of whose values a target changes a part. -/
def Target.holders : Target → List String
  | .name _ _ => []
  | .attribute n _ => [n]
  | .tuple items => holdersOfTargets items

def holdersOfTargets : List Target → List String
  | [] => []
  | target :: rest => target.holders ++ holdersOfTargets rest

end

namespace Symbols

def readAll (outer : List String) (s : Symbols) (e : Expr) : Symbols := e.names.foldl (read outer) s

def storeAll (outer : List String) (s : Symbols) (target : Target) : Symbols :=
  let s := target.holders.foldl (read outer) s
  (target.names.map Prod.fst).foldl (store outer) s

/-- The names of a target are given values by whoever enters the frame. -/
def giveAll (s : Symbols) (target : Target) : Symbols := (target.names.map Prod.fst).foldl give s

end Symbols

mutual

def Part.symbols (outer : List String) (s : Symbols) : Part → Symbols
  | .data _ | .directive _ _ | .escaping _ _ | .block _ _ _ _ _ => s
  | .print e | .inherit e _ | .load e _ _ | .filtered e _ => s.readAll outer e
  | .assign target e => (s.readAll outer e).storeAll outer target
  | .assignRegion target _ _ => s.storeAll outer target
  | .choice test body further otherwise =>
    let s := s.readAll outer test
    s.merge outer
      [symbolsAfter outer s body, symbolsAfter outer s further, symbolsAfter outer s otherwise]
  | .loop _ range _ _ _ _ => s.readAll outer range
  | .scoped _ items _ => items.foldl (fun (s : Symbols) e => s.readAll outer e) s
  | .define name _ _ _ _ => s.store outer name
  | .calling e args _ _ _ _ => s.readAll outer (.call e args)

def symbolsAfter (outer : List String) (s : Symbols) : List Part → Symbols
  | [] => s
  | part :: rest => symbolsAfter outer (part.symbols outer s) rest

end

/-- What happens first to a name. -/
inductive FirstUse where
  | read
  | bound
  | none
  deriving DecidableEq, Repr

namespace FirstUse

/-- One use, and if there is none another. -/
def orElse : FirstUse → FirstUse → FirstUse
  | none, use => use
  | use, _ => use

/-- The use of a name by an expression. -/
def ofExpr (name : String) (e : Expr) : FirstUse := if e.names.contains name then read else none

/-- The use of a name by a target. -/
def ofTarget (name : String) (target : Target) : FirstUse :=
  if (target.names.map Prod.fst).contains name then bound else none

/-- The use of a name by what stands before a body that can be called. -/
def ofHead (name : String) (parameters : List String) (defaults : List Expr) : FirstUse :=
  if parameters.contains name then bound
  else defaults.foldl (fun use e => use.orElse (ofExpr name e)) none

end FirstUse

mutual

/-- What a part, named bodies apart, does first to a name. -/
def Part.firstUse (name : String) : Part → FirstUse
  | .data _ | .directive _ _ | .block _ _ _ _ _ => .none
  | .print e | .inherit e _ | .load e _ _ => .ofExpr name e
  | .assign target e => (FirstUse.ofTarget name target).orElse (.ofExpr name e)
  | .assignRegion target e body =>
    ((FirstUse.ofTarget name target).orElse (.ofExpr name e)).orElse (firstUseIn name body)
  | .choice test body further otherwise =>
    (((FirstUse.ofExpr name test).orElse (firstUseIn name body)).orElse (firstUseIn name further)).orElse
      (firstUseIn name otherwise)
  | .loop target range test _ body otherwise =>
    ((((FirstUse.ofTarget name target).orElse (.ofExpr name range)).orElse
      (firstUseIn name body)).orElse (firstUseIn name otherwise)).orElse
        (test.toList.foldl (fun use e => use.orElse (.ofExpr name e)) .none)
  | .scoped targets items body =>
    let use := targets.foldl (fun (use : FirstUse) target => use.orElse (.ofTarget name target)) .none
    (items.foldl (fun use e => use.orElse (.ofExpr name e)) use).orElse (firstUseIn name body)
  | .escaping e body => (FirstUse.ofExpr name e).orElse (firstUseIn name body)
  | .filtered e body => (firstUseIn name body).orElse (.ofExpr name e)
  | .define _ _ parameters defaults body =>
    (FirstUse.ofHead name parameters defaults).orElse (firstUseIn name body)
  | .calling e args _ parameters defaults body =>
    ((FirstUse.ofExpr name (.call e args)).orElse (.ofHead name parameters defaults)).orElse
      (firstUseIn name body)

/-- What several parts do first to a name. -/
def firstUseIn (name : String) : List Part → FirstUse
  | [] => .none
  | part :: rest => (part.firstUse name).orElse (firstUseIn name rest)

end

mutual

/-- Whether a part holds a named body that sees the names around it. -/
def Part.holdsScopedBlock : Part → Bool
  | .block _ isScoped _ _ body => isScoped || holdScopedBlock body
  | .choice _ body further otherwise =>
    holdScopedBlock body || holdScopedBlock further || holdScopedBlock otherwise
  | .loop _ _ _ _ body otherwise => holdScopedBlock body || holdScopedBlock otherwise
  | .assignRegion _ _ body | .scoped _ _ body | .escaping _ body | .filtered _ body
  | .define _ _ _ _ body | .calling _ _ _ _ _ body => holdScopedBlock body
  | _ => false

/-- Whether one of the parts does. -/
def holdScopedBlock : List Part → Bool
  | [] => false
  | part :: rest => part.holdsScopedBlock || holdScopedBlock rest

end

/-- The name under which a template finds itself. -/
def selfName : String := "self"

/-- The name under which a loop finds its state. -/
def loopName : String := "loop"

/-- A frame with a slot for a name that is read before it is bound. -/
def symbolsFor (names : List String) (parts : List Part) : Symbols :=
  (names.filter fun name => firstUseIn name parts = .read).foldl Symbols.give .none

def templateSymbols (parts : List Part) : Symbols := symbolsAfter [] (symbolsFor [selfName] parts) parts

/-- The name under which a named body finds what it replaces. -/
def parentName : String := "super"

def blockSymbols (parts : List Part) : Symbols :=
  symbolsAfter [] (symbolsFor [selfName, parentName] parts) parts

def loopSymbols (outer : List String) (target : Target) (isRecursive : Bool)
    (body otherwise : List Part) : Symbols :=
  let hasState := isRecursive || firstUseIn loopName body = .read || holdScopedBlock body ||
    holdScopedBlock otherwise
  let s := if hasState then Symbols.none.give loopName else Symbols.none
  symbolsAfter outer (s.giveAll target) body

/-- The frame of a test on the items of a loop. -/
def loopTestSymbols (outer : List String) (target : Target) (test : Expr) : Symbols :=
  (Symbols.none.giveAll target).readAll outer test

/-- The frame of a region without targets, such as what stands in for a loop without rounds. -/
def regionSymbols (outer : List String) (parts : List Part) : Symbols := symbolsAfter outer .none parts

/-- The frame of a region whose text goes through an expression. -/
def filteredSymbols (outer : List String) (e : Expr) (parts : List Part) : Symbols :=
  (symbolsAfter outer .none parts).readAll outer e

/-- The frame of a region behind an expression. -/
def escapingSymbols (outer : List String) (e : Expr) (parts : List Part) : Symbols :=
  symbolsAfter outer (Symbols.none.readAll outer e) parts

def scopedSymbols (outer : List String) (targets : List Target) (parts : List Part) : Symbols :=
  symbolsAfter outer (targets.foldl Symbols.giveAll .none) parts

namespace Routine

/-- The name under which the body of a macro finds the body that its caller hands over. -/
def callerName : String := "caller"

/-- The name under which it finds the arguments given by name that no parameter takes. -/
def namedName : String := "kwargs"

/-- The name under which it finds the arguments given by position that no parameter takes. -/
def restName : String := "varargs"

/-- Whether the body reads a name before it binds it. -/
def reads (m : Routine) (name : String) : Bool := firstUseIn name m.body = .read

/-- Whether the body finds something under a name that is none of the parameters. -/
def finds (m : Routine) (name : String) : Bool := m.reads name && !m.parameters.contains name

/-- The frame of the body: its parameters, and what else it finds. -/
def symbols (outer : List String) (m : Routine) : Symbols :=
  let s := m.defaults.foldl (Symbols.readAll outer) (m.parameters.foldl Symbols.give .none)
  ([callerName, namedName, restName].filter m.finds).foldl Symbols.give (symbolsAfter outer s m.body)

end Routine

/-- The line at which a target binds the name of a loop's state. -/
def Target.bindsLoop? (target : Target) : Option Nat := target.names.lookup loopName

mutual

/-- The line at which a part, within a loop, binds the name of the loop's state. -/
def Part.bindsLoop? : Part → Option Nat
  | .data _ | .directive _ _ | .print _ | .inherit _ _ | .load _ _ _ => none
  | .assign target _ => target.bindsLoop?
  | .assignRegion target _ body => target.bindsLoop? <|> bindLoop? body
  | .choice _ body further otherwise => bindLoop? body <|> bindLoop? further <|> bindLoop? otherwise
  | .loop target _ _ _ body otherwise => target.bindsLoop? <|> bindLoop? body <|> bindLoop? otherwise
  | .scoped _ _ body | .escaping _ body | .filtered _ body | .block _ _ _ _ body
  | .define _ _ _ _ body | .calling _ _ _ _ _ body => bindLoop? body

/-- The first line at which some part binds the name. -/
def bindLoop? : List Part → Option Nat
  | [] => none
  | part :: rest => part.bindsLoop? <|> bindLoop? rest

end

mutual

/-- The named bodies in a part, each before those in it. -/
def Part.blocks : Part → List (String × Nat × List Part)
  | .block name _ _ line body => (name, line, body) :: blocksIn body
  | .choice _ body further otherwise => blocksIn body ++ blocksIn further ++ blocksIn otherwise
  | .loop _ _ _ _ body otherwise => blocksIn body ++ blocksIn otherwise
  | .assignRegion _ _ body | .scoped _ _ body | .escaping _ body | .filtered _ body
  | .define _ _ _ _ body | .calling _ _ _ _ _ body => blocksIn body
  | _ => []

/-- The named bodies in several parts. -/
def blocksIn : List Part → List (String × Nat × List Part)
  | [] => []
  | part :: rest => part.blocks ++ blocksIn rest

end

end Transclusion.Template
