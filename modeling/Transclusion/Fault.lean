import Transclusion.Files
import Transclusion.Misuse
import Transclusion.Template.Fault

/-! Faults.

Everything that can go wrong, by its cause. A fault has a kind, which is the
word under which it is reported, and a message. The faults of inclusion say
besides where they arose: a fault inside an included partial is wrapped once, at
that partial, and the wrapper then records every further inclusion that it
crosses on its way out. -/
namespace Transclusion

/-- A step of the way to a part of a configuration. -/
inductive LocationStep where
  | field (name : String)
  | index (n : Int)
  deriving DecidableEq, Repr

/-- What a part of a configuration should have been. -/
inductive Expectation where
  | present
  | text
  | list
  | mapping
  | path
  | boolean
  deriving DecidableEq, Repr

/-- One complaint about a configuration: where, and what was expected. -/
structure Complaint where
  location : List LocationStep
  expected : Expectation
  deriving DecidableEq, Repr

def Expectation.code : Expectation → String
  | present => "missing"
  | text => "string_type"
  | list => "list_type"
  | mapping => "dict_type"
  | path => "path_type"
  | boolean => "bool_parsing"

/-- The families of faults that a host raises with values of its own. -/
inductive RaisedKind where
  | value
  | key
  | type
  | runtime
  deriving DecidableEq, Repr

def RaisedKind.text : RaisedKind → String
  | value => "ValueError"
  | key => "KeyError"
  | type => "TypeError"
  | runtime => "RuntimeError"

inductive Fault where
  /-- A fault of inclusion without a cause of its own. -/
  | inclusion (note : String) (details : Bindings)
  | malformedArguments (tag markup example_ : String)
  | unsafeReference (tag reference example_ : String)
  | notFound (reference : String) (roots : List String)
  /-- The partial at a path was rejected. -/
  | compilation (path : String) (cause : Fault)
  /-- The partial at a path stopped; the paths of the inclusions crossed since, innermost first. -/
  | execution (path : String) (cause : Fault) (crossed : List String)
  /-- Inclusions nest without end. -/
  | nesting
  | baseLayer
  | unknownDirective (name : String) (known : List String)
  | duplicateDirective (name : String)
  | unclosedFrontMatter
  | frontMatterShape
  | frontMatterData
  | noConfiguration (path : String)
  | configurationShape (path : String)
  | configuration (path : String) (complaints : List Complaint)
  | invalid (complaints : List Complaint)
  /-- Data that is not well-formed. -/
  | data
  | lookup (fault : LookupFault) (path : String)
  | nulByte
  | undecodable (error : Text.DecodeError)
  | unknownEncoding (name : String)
  | calendar (fault : CalendarFault)
  /-- A text that is not made of digits of a base. -/
  | notDigits (base : Nat) (text : String)
  | zoneRange (form : String)
  /-- A number without a first character. -/
  | noDigits
  /-- A text that is said to be a moment and is none. -/
  | noMoment
  /-- A number that numbers no character. -/
  | codePoint
  | emptySeparator
  /-- A source that a segment host rejects. -/
  | badSource (name : String)
  | syntaxError (fault : Template.SyntaxFault) (line : Nat)
  | nameError (fault : Template.NameFault) (line : Nat)
  | run (fault : Template.RunFault)
  | misuse (fault : Misuse)
  | zeroDivisor (what : ZeroDivisor)
  | overflow (what : Overflow)
  /-- A whole number of too many digits; how many, if it was read. -/
  | digitLimit (digits : Option Nat)
  /-- A number with a fraction or an exponent in other digits than ASCII ones, by its first digit. -/
  | numeral (first : Char)
  /-- A word in the place of a number that has no digits. -/
  | unboundWord (word : String)
  /-- A name that holds a NUL. -/
  | nulCharacter
  /-- A parameter that shares its slot with one before it. -/
  | repeatedParameter (name : String)
  /-- A value of a kind asked for something that it does not have. -/
  | noMember (kind name : String)
  /-- The number of values that a target takes, and the smaller number that there are, if it is
  smaller. -/
  | unpacking (wanted : Nat) (given : Option Nat)
  | sliceStep
  | raised (kind : RaisedKind) (args : List Value)
  deriving Inhabited, Repr

namespace Fault

/-- What keeps a path from being read, put or taken away. -/
def ofAccess : Files.AccessFault → Fault
  | .lookup fault path => .lookup fault path.toString
  | .nul => .nulByte

/-- What a fault says whose carried values are `args`. -/
def argsMessage (kind : RaisedKind) : List Value → String
  | [] => ""
  | [v] => if kind = .key then v.quotedForm else v.shown
  | args => "(" ++ ", ".intercalate (args.map Value.quotedForm) ++ ")"

/-- The word under which a failed lookup is reported. -/
def lookupKind : LookupFault → String
  | .missing => "FileNotFoundError"
  | .exists_ => "FileExistsError"
  | .notDirectory => "NotADirectoryError"
  | .isDirectory => "IsADirectoryError"
  | .barred .denied => "PermissionError"
  | .barred .unanswered | .nameTooLong | .tooManyLinks => "OSError"

/-- The word under which a fault is reported. -/
def kind : Fault → String
  | inclusion _ _ => "IncludeError"
  | malformedArguments _ _ _ => "MalformedArgumentsError"
  | unsafeReference _ _ _ => "UnsafeFileReferenceError"
  | notFound _ _ => "IncludeNotFoundError"
  | compilation _ _ => "PartialCompileError"
  | execution _ _ _ => "PartialExecutionError"
  | nesting => "RecursionError"
  | baseLayer => "ScopeError"
  | unknownDirective _ _ => "InvalidDirectiveError"
  | duplicateDirective _ => "DuplicateDirectiveError"
  | unclosedFrontMatter | frontMatterShape | frontMatterData => "FrontMatterError"
  | noConfiguration _ | configurationShape _ | configuration _ _ => "SiteConfigError"
  | invalid _ => "ValidationError"
  | data => "YAMLError"
  | lookup fault _ => lookupKind fault
  | nulByte | calendar _ | notDigits _ _ | zoneRange _ | codePoint | emptySeparator | digitLimit _
  | nulCharacter | unpacking _ _ | sliceStep => "ValueError"
  | noDigits => "IndexError"
  | noMoment | noMember _ _ => "AttributeError"
  | undecodable _ => "UnicodeDecodeError"
  | unknownEncoding _ => "LookupError"
  | badSource _ | numeral _ | repeatedParameter _ => "SyntaxError"
  | syntaxError _ _ => "TemplateSyntaxError"
  | nameError _ _ => "TemplateAssertionError"
  | unboundWord _ => "NameError"
  | run (.undefined _) => "UndefinedError"
  | run (.noPass _) => "RenderPassMissingError"
  | run .noTemplates => "TemplatesNotFound"
  | run _ => "TemplateRuntimeError"
  | misuse _ => "TypeError"
  | zeroDivisor _ => "ZeroDivisionError"
  | overflow _ => "OverflowError"
  | raised kind _ => kind.text

/-- What is wrong with an undecodable sequence, in words. -/
def decodeReason : Text.DecodeReason → String
  | .startByte => "invalid start byte"
  | .continuationByte => "invalid continuation byte"
  | .endOfData => "unexpected end of data"
  | .beyondAscii => "ordinal not in range(128)"
  | .unassigned => "character maps to <undefined>"

def decodeMessage (e : Text.DecodeError) : String :=
  let what :=
    if e.length ≤ 1 then
      s!"byte 0x{String.ofList (Text.hexDigits 2 e.byte.toNat)} in position {e.position}"
    else s!"bytes in position {e.position}-{e.position + e.length - 1}"
  s!"'{e.encoding.codec}' codec can't decode {what}: {decodeReason e.reason}"

/-- The code point of a character, in four or more hexadecimal digits. -/
def hexCode (c : Char) : String :=
  String.ofList ((Text.hexDigits (if c.toNat < 0x10000 then 4 else 5) c.toNat).map Char.toUpper)

def message : Fault → String
  | inclusion note _ => note
  | malformedArguments tag markup shape =>
    s!"Invalid syntax for {tag} tag:\n\n{markup}\n\nValid syntax:\n\n{shape}\n"
  | unsafeReference tag reference shape =>
    s!"Invalid syntax for {tag} tag. File contains invalid characters or sequences:\n\n  {reference}" ++
      s!"\n\nValid syntax:\n\n  {shape}\n"
  | notFound reference roots =>
    s!"Could not locate the included file '{reference}' in any of {Text.quotedList roots}. " ++
      "Ensure it exists in one of those directories."
  | compilation path cause => s!"Could not compile included file '{path}': {cause.message}"
  | execution path cause crossed =>
    s!"Error in included file '{path}': {cause.message}" ++
      (if crossed.isEmpty then ""
      else "\n  include chain: " ++ " <- ".intercalate (path :: crossed))
  | nesting => "maximum recursion depth exceeded"
  | baseLayer => "Cannot pop the base scope layer"
  | unknownDirective name known =>
    s!"Unknown directive: '{name}'. Registered directives: {Text.quotedList known}"
  | duplicateDirective name => s!"Directive '{name}' is already registered"
  | unclosedFrontMatter => "Front matter not properly closed with ---"
  | frontMatterShape => "Front matter must be a mapping of key: value pairs"
  | frontMatterData => "Invalid front matter"
  | noConfiguration path => s!"Site configuration not found: {path}"
  | configurationShape path => s!"Invalid site configuration in {path}: expected a mapping"
  | configuration path _ => s!"Invalid site configuration in {path}"
  | invalid _ => ""
  | data => ""
  | lookup fault path => s!"[Errno {fault.number}] {fault.wording}: {Text.quoted path}"
  | nulByte => "embedded null byte"
  | undecodable error => decodeMessage error
  | unknownEncoding name => s!"unknown encoding: {name}"
  | calendar fault => fault.message
  | notDigits base text => s!"invalid literal for int() with base {base}: {Text.quoted text}"
  | zoneRange form =>
    "offset must be a timedelta strictly between -timedelta(hours=24) and timedelta(hours=24), " ++
      s!"not {form}."
  | noDigits => "string index out of range"
  | noMoment => "'NoneType' object has no attribute 'groupdict'"
  | codePoint => "chr() arg not in range(0x110000)"
  | emptySeparator => "empty separator"
  | badSource name => s!"bad partial {name}"
  | syntaxError fault _ => fault.message
  | nameError fault _ => fault.message
  | run fault => fault.message
  | misuse fault => fault.message
  | zeroDivisor what => what.message
  | overflow what => what.message
  | digitLimit digits =>
    let count := match digits with
      | some n => s!": value has {n} digits"
      | none => ""
    s!"Exceeds the limit ({Value.digitLimit} digits) for integer string conversion{count}; " ++
      "use sys.set_int_max_str_digits() to increase the limit"
  | numeral first =>
    if first.toNat < 0x80 then "invalid decimal literal (<unknown>, line 1)"
    else
      s!"invalid character '{first}' (U+{hexCode first}) (<unknown>, line 1)"
  | unboundWord word => s!"name '{word}' is not defined"
  | nulCharacter => "embedded null character"
  | repeatedParameter name => s!"duplicate argument {Text.quoted name} in function definition"
  | noMember kind name => s!"{Text.quoted kind} object has no attribute {Text.quoted name}"
  | unpacking wanted (some given) => s!"not enough values to unpack (expected {wanted}, got {given})"
  | unpacking wanted none => s!"too many values to unpack (expected {wanted})"
  | sliceStep => "slice step cannot be zero"
  | raised kind args => argsMessage kind args

/-- The values that a fault carries: its own, or what it reports in words. -/
def args : Fault → List Value
  | raised _ args => args
  | fault => [.text fault.message]

def isInclusion : Fault → Bool
  | inclusion _ _ | malformedArguments _ _ _ | unsafeReference _ _ _ | notFound _ _
  | compilation _ _ | execution _ _ _ => true
  | _ => false

/-- Whether a fault is about a template: its grammar, its names or its run. -/
def isTemplate : Fault → Bool
  | syntaxError _ _ | nameError _ _ | run _ => true
  | _ => false

def isArithmetic : Fault → Bool
  | zeroDivisor _ | overflow _ => true
  | _ => false

/-- Whether a fault is about something that is not where it is looked for. -/
def isLookup : Fault → Bool
  | unknownEncoding _ | noDigits | run .noTemplates | raised .key _ => true
  | _ => false

/-- Whether a fault is about a value of the wrong kind. -/
def isType : Fault → Bool
  | misuse _ | raised .type _ => true
  | _ => false

/-- Whether a fault is about a value that is not acceptable. -/
def isValue : Fault → Bool
  | unclosedFrontMatter | frontMatterShape | frontMatterData
  | noConfiguration _ | configurationShape _ | configuration _ _ | invalid _
  | nulByte | undecodable _ | calendar _ | notDigits _ _ | zoneRange _ | codePoint | emptySeparator
  | digitLimit _ | nulCharacter | unpacking _ _ | sliceStep | raised .value _ => true
  | _ => false

/-- Whether a text could not be decoded. -/
def isUndecodable : Fault → Bool
  | undecodable _ => true
  | _ => false

/-- The partials that a fault crossed, innermost first. -/
def chain : Fault → List String
  | execution path _ crossed => path :: crossed
  | _ => []

/-- The template that a fault of inclusion is reported for. -/
def templateName? : Fault → Option String
  | compilation path _ => some path
  | execution path _ crossed => some (crossed.getLastD path)
  | _ => none

/-- Where the fault stands in relation to the template that is reported. -/
def context? : Fault → Option String
  | compilation _ _ | execution _ _ _ => some "included"
  | _ => none

def details : Fault → Bindings
  | inclusion _ details => details
  | malformedArguments tag markup _ => [("tag_name", .text tag), ("markup", .text markup)]
  | unsafeReference tag reference _ => [("tag_name", .text tag), ("reference", .text reference)]
  | notFound reference roots => [("reference", .text reference), ("roots", .texts roots)]
  | compilation path cause => [("path", .text path), ("error_type", .text cause.kind)]
  | execution path cause crossed =>
    [("path", .text path), ("error_type", .text cause.kind)] ++
      (if crossed.isEmpty then [] else [("include_chain", .texts (path :: crossed))])
  | _ => []

/-- The fault after one more inclusion that it crosses. -/
def crossing (path : String) : Fault → Fault
  | execution source cause crossed => execution source cause (crossed ++ [path])
  | fault => fault

end Fault

end Transclusion
