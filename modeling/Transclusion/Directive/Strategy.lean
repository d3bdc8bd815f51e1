import Transclusion.Site.Basic

/-! Search strategies.

A strategy says in which directories a reference is searched, in order of
priority. The two strategies of a site search its directories of partials, or
the directory of the document that is being rendered; a fixed strategy searches
the same directories always. Any other strategy has a name and, for every site and
document, directories to search. -/
namespace Transclusion.Directive

inductive Strategy where
  | includeRoots
  | documentDirectory
  | fixed (roots : List String)
  | custom (name : String) (roots : Site → Option Document → List String)

namespace Strategy

def name : Strategy → String
  | includeRoots => "include-roots"
  | documentDirectory => "document-directory"
  | fixed _ => "fixed"
  | custom name _ => name

/-- The strategy of a name; any other name is itself the only directory. -/
def ofName (name : String) : Strategy :=
  if name = "include-roots" then includeRoots
  else if name = "document-directory" then documentDirectory
  else fixed [name]

/-- The directory of the document at hand; without one, the source. -/
def documentRoot (site : Site) : Option Document → Path
  | none => site.source
  | some document => document.directory site

/-- The directories to search. -/
def roots (site : Site) (document : Option Document) : Strategy → List String
  | includeRoots => site.includeRoots.map Path.toString
  | documentDirectory => [(documentRoot site document).toString]
  | fixed roots => roots
  | custom _ roots => roots site document

end Strategy

end Transclusion.Directive
