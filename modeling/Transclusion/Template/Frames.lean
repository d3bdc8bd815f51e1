import Transclusion.Template.Slots
import Transclusion.Template.Usage
import Transclusion.Text.Compatibility

/-! Frames of a running template.

A frame finds a name among those it has slots for as the name is written; names
that are compatible share a slot, so the last of them to be filled fills it for
all. Names are read from the slots of the frames that are open. An assignment
fills a slot of the innermost frame, and one in the frame of the template itself
also changes the variables from there on.

A macro sees the frames that were open where it was defined, as they are when it
is called. When it is called or leaves the template otherwise it takes along what
these frames hold then; its body runs where they are opened again. -/
namespace Transclusion.Template

/-- The slots of a frame, by compatible names and some of them empty. -/
structure Frame where
  symbols : Symbols
  slots : List (String × Option Value)
  kind : FrameKind

namespace Frame

/-- The frame with a slot filled or emptied. -/
def put (f : Frame) (name : String) (v : Option Value) : Frame :=
  let key := Text.compatibleName name
  { f with slots := (key, v) :: f.slots.filter fun (n, _) => n ≠ key }

/-- What the slot of a name holds. -/
def get? (f : Frame) (name : String) : Option Value := (f.slots.lookup (Text.compatibleName name)).join

/-- What a macro takes along of the frame. -/
def layer (f : Frame) : Layer :=
  (f.kind, (f.symbols.loads.map Prod.fst).filter (!f.symbols.stores.contains ·),
    f.symbols.stores.map fun name => (name, f.get? name))

/-- The frame that was taken along, opened over variables. -/
def ofLayer (variables_ : Bindings) (layer : Layer) : Frame :=
  let (kind, readNames, bound) := layer
  let s : Symbols := ⟨readNames.map (·, .resolve) ++ bound.map fun (name, _) => (name, .empty),
    bound.map Prod.fst⟩
  let f := readNames.foldl (fun f name => f.put name (variables_.get? name)) (⟨s, [], kind⟩ : Frame)
  bound.foldl (fun f (name, v) => f.put name v) f

end Frame

/-- What a place of a running template sees. -/
structure Env where
  /-- The open frames, the innermost first. -/
  frames : List Frame
  /-- The variables that the template was given. -/
  given : Bindings
  /-- The variables that it has changed. -/
  changed : Bindings

/-- The names that every template finds, unless it is given variables of these names. -/
def globals : Bindings :=
  let known (kind form : String) : Value := .handle ⟨kind, "", form⟩
  [("range", known "type" "<class 'range'>"), ("dict", known "type" "<class 'dict'>"),
    ("lipsum", known "function" "<function generate_lorem_ipsum>"),
    ("cycler", known "type" "<class 'jinja2.utils.Cycler'>"),
    ("joiner", known "type" "<class 'jinja2.utils.Joiner'>"),
    ("namespace", known "type" "<class 'jinja2.utils.Namespace'>")]

/-- What stands in the slot of a name that was given no value. -/
def missingValue : Value := .handle ⟨"MissingType", "jinja2.utils", "missing"⟩

namespace Env

/-- The place before a template that is given variables. -/
def ofVariables (variables_ : Bindings) : Env := ⟨[], globals.update variables_, []⟩

def resolve (env : Env) (name : String) : Option Value :=
  match env.changed.get? name with
  | some v => some v
  | none => env.given.get? name

/-- The innermost frame with a slot for a name. -/
def frameOf? (env : Env) (name : String) : Option Frame := env.frames.find? (·.symbols.has name)

/-- What the innermost slot of a name holds. -/
def slot (env : Env) (name : String) : Option Value := (env.frameOf? name).bind (·.get? name)

def slotNames (env : Env) : List String :=
  env.frames.flatMap fun frame => frame.symbols.loads.map Prod.fst

/-- The value of a name in an expression. -/
def valueOf (env : Env) (name : String) : Value :=
  match env.slot name with
  | some v => v
  | none =>
    if ((env.frameOf? name).bind (·.symbols.loads.lookup name)) = some .given then missingValue
    else .undefined (.name name)

/-- The frame with a slot filled as it is to be when the frame is entered. -/
def filled (env : Env) (f : Frame) (entry : String × Load) : Frame :=
  match entry with
  | (name, .resolve) => f.put name (env.resolve name)
  | (name, .alias) => f.put name (env.slot name)
  | _ => f

/-- The frame with a slot emptied if it is to be empty when the frame is entered. -/
def emptied (f : Frame) (entry : String × Load) : Frame :=
  match entry with
  | (name, .empty) => f.put name none
  | _ => f

/-- Opens a frame whose given names have these values; slots are filled in their order, and those that
are to be empty are emptied last. -/
def enter (env : Env) (s : Symbols) (values : Bindings) (kind : FrameKind) : Env :=
  let given := values.filter fun (name, _) => s.loads.lookup name = some .given
  let f : Frame := given.foldl (fun f (name, v) => f.put name (some v)) ⟨s, [], kind⟩
  let f := s.loads.foldl env.filled f
  { env with frames := s.loads.foldl emptied f :: env.frames }

/-- Opens a frame without given names, within another. -/
def within (env : Env) (s : Symbols) : Env := env.enter s [] .region

/-- Fills a slot of the innermost frame. -/
def put (env : Env) (name : String) (v : Value) : Env :=
  match env.frames with
  | frame :: outer => { env with frames := frame.put name (some v) :: outer }
  | [] => env

def assign (env : Env) (values : Bindings) : Env :=
  let env := values.foldl (fun (env : Env) (name, v) => env.put name v) env
  if env.frames.head?.any (·.kind = .template) then
    let changed := values.foldl (fun (changed : Bindings) (name, v) =>
      changed.insert name ((env.slot name).getD v)) env.changed
    { env with changed }
  else env

/-- What the slots of bound names hold. -/
def locals (env : Env) : Bindings :=
  (env.frames.flatMap (·.symbols.stores)).eraseDups.filterMap fun name =>
    (env.slot name).map fun v => (name, v)

/-- The variables as they are at this place. -/
def variables_ (env : Env) : Bindings := env.given.update env.changed

/-- What a macro takes along that sees so many frames. -/
def captured (env : Env) (level : Nat) : List Layer × Bindings :=
  ((env.frames.drop (env.frames.length - level)).map Frame.layer, env.variables_.sorted)

/-- A value as it leaves this place. -/
def close (env : Env) (v : Value) : Value := v.close env.captured

/-- Values as they leave this place. -/
def closeAll (env : Env) (values : Bindings) : Bindings := values.map fun (name, v) => (name, env.close v)

/-- All that a directive at this place sees. -/
def visible (env : Env) : Bindings := env.closeAll (env.variables_.update env.locals)

/-- What a named body sees of this place: the variables, or all of it. -/
def around (env : Env) (isScoped : Bool) : Env :=
  ⟨[], if isScoped then env.visible else env.closeAll env.variables_, []⟩

/-- The place around the body of a macro that has taken along what it sees. -/
def reopened (layers : List Layer) (variables_ : Bindings) : Env :=
  ⟨layers.map (Frame.ofLayer variables_), variables_.sorted, []⟩

end Env

mutual

/-- The values of the names of a target, when a value is assigned to it. -/
def Target.bind (o : Options) : Target → Value → Except Fault Bindings
  | .name n _, v => .ok [(n, v)]
  | .attribute _ _, _ => .error (.run .attributeTarget)
  | .tuple items, v => do
    let values ← match o.itemsOf v with
      | .ok values => pure values
      | .error (.misuse _) => .error (.misuse (.unpacking v.qualifiedKind))
      | .error fault => .error fault
    if values.length < items.length then .error (.unpacking items.length (some values.length))
    else if items.length < values.length then .error (.unpacking items.length none)
    else bindTargets o items values

/-- The values of the names of targets for values. -/
def bindTargets (o : Options) : List Target → List Value → Except Fault Bindings
  | target :: rest, v :: values => do
    let bound ← target.bind o v
    pure (bound ++ (← bindTargets o rest values))
  | _, _ => .ok []

end

end Transclusion.Template
