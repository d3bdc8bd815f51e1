import Transclusion.Decoding
import Transclusion.FrontMatter
import Transclusion.Site.Basic

/-! Stored configurations and documents.

A site's configuration is stored as a mapping. Its source, and its further
directories of partials, are meant relative to the real directory of the file
that says them; without a source, that directory is the source. A document is
read in the encoding of its site. -/
namespace Transclusion

namespace SiteConfig

/-- The encoding of configurations. -/
def storedEncoding : String := "utf-8"

/-- A path that is given as a text. -/
def givenPath : Value → Except Fault Path
  | .text s => .ok (.ofString s)
  | v => .error (.misuse (.path v.kind))

/-- A given path as seen from a directory. -/
def seenFrom (base : Path) (v : Value) : Except Fault Value :=
  (givenPath v).map fun path => .text (base.append path).toString

/-- What a value consists of, if it consists of values. -/
def constituents : Value → Except Fault (List Value)
  | .list items => .ok items
  | .dict entries => .ok (entries.map (·.1))
  | .text s => .ok (s.toList.map fun c => .text (String.singleton c))
  | v => .error (.misuse (.iteration v.qualifiedKind))

/-- The value of a key, unless it counts as false. -/
def given (entries : List (Value × Value)) (field : String) (default : Value) : Value :=
  match Value.lookupKey (.text field) entries with
  | some v => if v.isTruthy then v else default
  | none => default

/-- The entries without a key that has nothing for a value. -/
def withoutNull (field : String) (entries : List (Value × Value)) : List (Value × Value) :=
  match Value.lookupKey (.text field) entries with
  | some .null => entries.filter fun (k, _) => !Value.sameScalar k (.text field)
  | _ => entries

/-- The entries of a configuration with all paths seen from a directory. -/
def anchored (base : Path) (entries : List (Value × Value)) : Except Fault (List (Value × Value)) := do
  let source ← seenFrom base (given entries "source" (.text "."))
  let extra ← constituents (given entries "extra_include_paths" (.list []))
  let extra ← extra.mapM (seenFrom base)
  return withoutNull "deprecated_directives" <| withoutNull "includes_dirs" <|
    Value.insertKey (.text "extra_include_paths") (.list extra) <|
      Value.insertKey (.text "source") source entries

/-- The entries of a stored text; one that counts as false has none. -/
def storedEntries (path : Path) (text : List Char) : Except Fault (List (Value × Value)) := do
  match ← Yaml.load text with
  | .dict entries => return entries
  | v => if v.isTruthy then throw (.configurationShape path.toString) else return []

/-- A fault of a text that is read piece by piece: a sequence that the end of the text cuts short is the
whole of the last piece, and is counted from there. -/
def inLastPiece : Fault → Fault
  | .undecodable error =>
    .undecodable (if error.reason = .endOfData then { error with position := 0 } else error)
  | fault => fault

/-- The configuration that is stored under a path. -/
def load (files : Files) (path : Path) : Except Fault SiteConfig := do
  let isThere ← (files.isFile path).mapError (.lookup · path.toString)
  unless isThere do throw (.noConfiguration path.toString)
  let bytes ← (files.read path).mapError (.ofAccess)
  let text ← (decodeLines storedEncoding bytes).mapError inLastPiece
  let entries ← anchored (files.realPath path.parent) (← storedEntries path text)
  (ofEntries entries).mapError (.configuration path.toString)

end SiteConfig

/-- The document that is stored under a path, and in a collection if in any. -/
def Site.load (site : Site) (files : Files) (relativePath : String) (collection : Option String)
    (further : Codecs := .none) : Except Fault Document := do
  let path := site.documentPath relativePath collection
  let bytes ← (files.read path).mapError (.ofAccess)
  let (data, content) ← FrontMatter.parse (← decodeLines site.config.encoding bytes further)
  return ⟨relativePath, collection, data, String.ofList content⟩

end Transclusion
