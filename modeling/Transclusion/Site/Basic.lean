import Transclusion.Site.Config

/-! Sites and documents.

A site is a source directory with its layout. What is named relative to it is
joined below the source, part by part and without leading slashes, so that it
never leaves the source by being anchored. A document knows the path it is
stored under, which for a document of a collection is relative to the directory
of collections. The excerpt of a document is a document of its own, its path
marked. -/
namespace Transclusion

structure Site where
  config : SiteConfig

namespace Site

def source (site : Site) : Path := site.config.source

/-- Joins parts below the source. -/
def inSource (site : Site) (parts : List String) : Path :=
  site.source.belowAll (parts.map String.toList)

/-- The directories that are searched for partials: those below the source, then the others. -/
def includeRoots (site : Site) : List Path :=
  (site.config.includesDirs.map fun directory => site.inSource [directory]) ++
    site.config.extraIncludePaths

/-- Where a document of this path, and of this collection if of any, is stored. -/
def documentPath (site : Site) (relativePath : String) (collection : Option String) : Path :=
  match collection with
  | none => site.inSource [relativePath]
  | some _ => site.inSource [site.config.collectionsDir, relativePath]

end Site

/-- What the path of an excerpt ends with. -/
def excerptMarker : List Char := "/#excerpt".toList

structure Document where
  relativePath : String
  collection : Option String
  data : List (Value × Value)
  content : String

namespace Document

def isExcerpt (d : Document) : Bool := excerptMarker.isSuffixOf d.relativePath.toList

/-- The document cut before the first separator, with its path marked. -/
def excerpt (d : Document) (separator : String) : Except Fault Document :=
  if separator = "" then .error .emptySeparator
  else
    let content := d.content.toList
    let head := match Text.cutAt? separator.toList content with
      | some (head, _) => head
      | none => content
    .ok { d with
      relativePath := String.ofList (d.relativePath.toList ++ excerptMarker)
      content := String.ofList head }

/-- What templates see of the document: its front matter, path, collection and content. -/
def payload (d : Document) : List (Value × Value) :=
  [("path", .text d.relativePath), ("collection", .ofText? d.collection),
    ("content", .text d.content)].foldl (fun entries (name, v) => Value.insertKey (.text name) v entries)
    d.data

/-- The stored path below the source: a document of a collection lies in the directory of
collections. -/
def resourcePath (site : Site) (d : Document) : List Char :=
  match d.collection with
  | none => d.relativePath.toList
  | some _ =>
    let container := Text.trim (· == '/') site.config.collectionsDir.toList
    if container = [] then d.relativePath.toList
    else container ++ '/' :: d.relativePath.toList

/-- A path without the mark of an excerpt. -/
def withoutMarker (cs : List Char) : List Char :=
  if excerptMarker.isSuffixOf cs then cs.take (cs.length - excerptMarker.length) else cs

/-- The part of a path before its last slash. -/
def beforeLastSlash (cs : List Char) : List Char :=
  match Text.cutAtLast? '/' cs with
  | some (before, _) => before
  | none => []

/-- The directory that holds the document. -/
def directory (site : Site) (d : Document) : Path :=
  site.inSource [String.ofList (beforeLastSlash (withoutMarker (d.resourcePath site)))]

end Document

end Transclusion
