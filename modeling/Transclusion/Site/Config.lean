import Transclusion.Fault

/-! Site configurations.

A configuration says where a site's content lies, which of its directories hold
partials, which further directories do, and how its texts are read. It is
checked field by field, in a fixed order, and every complaint is kept: a field
that must be there, a field of the wrong kind, an entry of the wrong kind within
a field. -/
namespace Transclusion

structure SiteConfig where
  source : Path
  /-- Directories of partials, below the source. -/
  includesDirs : List String
  /-- Further directories of partials. -/
  extraIncludePaths : List Path
  /-- The directory, below the source, that collections are kept in. -/
  collectionsDir : String
  encoding : String
  excerptSeparator : String
  /-- Notices for directives that should no longer be used. -/
  deprecatedDirectives : List (String × String)
  deriving DecidableEq

namespace SiteConfig

def defaultIncludesDirs : List String := ["_includes"]

def defaultEncoding : String := "utf-8"

def defaultExcerptSeparator : String := "\n\n"

/-- A checked field: its value, or the complaints about it. -/
abbrev Checked (α : Type) := Except (List Complaint) α

/-- One complaint. -/
def complain {α : Type} (location : List LocationStep) (expected : Expectation) : Checked α :=
  .error [⟨location, expected⟩]

/-- All items, or the complaints about all of them. -/
def collect {α : Type} : List (Checked α) → Checked (List α)
  | [] => .ok []
  | c :: cs => match c, collect cs with
    | .ok a, .ok as => .ok (a :: as)
    | .ok _, .error es => .error es
    | .error es, .ok _ => .error es
    | .error es, .error fs => .error (es ++ fs)

def checkText (location : List LocationStep) : Value → Checked String
  | .text s => .ok s
  | _ => complain location .text

def checkPath (location : List LocationStep) : Value → Checked Path
  | .text s => .ok (.ofString s)
  | _ => complain location .path

def checkList {α : Type} (field : String) (item : List LocationStep → Value → Checked α) :
    Value → Checked (List α)
  | .list items => collect (items.mapIdx fun i v => item [.field field, .index i] v)
  | _ => complain [.field field] .list

/-- Numbers from here on, and those below its negative, stand in a location as they are written. -/
def indexLimit : Int := 9223372036854775808

/-- The step to an entry of a mapping. -/
def keyStep : Value → LocationStep
  | .text s => .field s
  | .bool b => .index (if b then 1 else 0)
  | .int n => if -indexLimit ≤ n ∧ n < indexLimit then .index n else .field (toString n)
  | v => .field v.quotedForm

/-- Checks an entry: its key, and then its value. -/
def checkEntry (field : String) (entry : Value × Value) : Checked (String × String) :=
  let (key, value) := entry
  let place := [.field field, keyStep key]
  match checkText (place ++ [.field "[key]"]) key, checkText place value with
  | .ok k, .ok v => .ok (k, v)
  | .error es, .ok _ => .error es
  | .ok _, .error es => .error es
  | .error es, .error fs => .error (es ++ fs)

def checkMapping (field : String) : Value → Checked (List (String × String))
  | .dict entries => collect (entries.map (checkEntry field))
  | _ => complain [.field field] .mapping

/-- A field, or what stands in for it. -/
def fieldOr {α : Type} (entries : List (Value × Value)) (field : String) (default : Checked α)
    (check : Value → Checked α) : Checked α :=
  match Value.lookupKey (.text field) entries with
  | none => default
  | some v => check v

def complaints {α : Type} : Checked α → List Complaint
  | .ok _ => []
  | .error es => es

/-- A directory may stand for the list of it alone. -/
def listOfOne : Value → Value
  | .text s => .list [.text s]
  | v => v

/-- Nothing may stand for no text. -/
def emptyText : Value → Value
  | .null => .text ""
  | v => v

def ofEntries (entries : List (Value × Value)) : Checked SiteConfig :=
  let source := fieldOr entries "source" (complain [.field "source"] .present)
    (checkPath [.field "source"])
  let includesDirs := fieldOr entries "includes_dirs" (.ok defaultIncludesDirs) fun v =>
    checkList "includes_dirs" checkText (listOfOne v)
  let extra := fieldOr entries "extra_include_paths" (.ok []) fun v =>
    checkList "extra_include_paths" checkPath v
  let collections := fieldOr entries "collections_dir" (.ok "") fun v =>
    checkText [.field "collections_dir"] (emptyText v)
  let encoding := fieldOr entries "encoding" (.ok defaultEncoding) (checkText [.field "encoding"])
  let separator := fieldOr entries "excerpt_separator" (.ok defaultExcerptSeparator)
    (checkText [.field "excerpt_separator"])
  let deprecated := fieldOr entries "deprecated_directives" (.ok []) fun v =>
    checkMapping "deprecated_directives" v
  -- A field that is refused keeps no other from being checked.
  match source, includesDirs, extra, collections, encoding, separator, deprecated with
  | .ok source, .ok includesDirs, .ok extra, .ok collections, .ok encoding, .ok separator,
      .ok deprecated =>
    .ok ⟨source, includesDirs, extra, collections, encoding, separator, deprecated⟩
  | source, includesDirs, extra, collections, encoding, separator, deprecated =>
    .error (complaints source ++ complaints includesDirs ++ complaints extra ++
      complaints collections ++ complaints encoding ++ complaints separator ++ complaints deprecated)

/-- The configuration as a value, field by field. -/
def toValue (c : SiteConfig) : Value :=
  .ofBindings [("source", .text c.source.toString), ("includes_dirs", .texts c.includesDirs),
    ("extra_include_paths", .texts (c.extraIncludePaths.map Path.toString)),
    ("collections_dir", .text c.collectionsDir), ("encoding", .text c.encoding),
    ("excerpt_separator", .text c.excerptSeparator),
    ("deprecated_directives", .ofBindings (c.deprecatedDirectives.map fun (k, v) => (k, .text v)))]

end SiteConfig

end Transclusion
