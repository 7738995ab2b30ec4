import PageScript.Report.FieldPattern
import PageScript.Report.Record
import PageScript.Text.Search
import PageScript.Text.Utf8

/-!
# Filters for the log

A filter is a list of directives. A directive sets the slightest level that passes, for all records
or for those of topics that start with its target, and perhaps only for those that have a field.
The directive that names a record most closely decides: the one with the longest target, then one
with a field, then the one whose field comes later by name, and of equal ones the last. Without any
that fits, nothing passes. Directives about spans of time or about the values of fields fit no
record.
-/

namespace PageScript

/-- A field that a directive asks for. -/
structure AskedField where
  name : String
  /-- Whether the value of the field has to fit a pattern. -/
  hasPattern : Bool := false
  deriving DecidableEq, Repr

/-- A directive of a filter; without a level nothing passes. -/
structure LogDirective where
  target : Option String := none
  span : Option String := none
  field : Option AskedField := none
  level : Option Level := some .trace
  deriving DecidableEq, Repr

/-- The directives of a filter, in order. -/
abbrev LogFilter := List LogDirective

/-- Why a text is no filter. -/
inductive FilterError where
  | malformed
  /-- A piece would have to be cut out from inside a character. -/
  | torn
  deriving DecidableEq, Repr

namespace LogDirective

/-- Whether a directive is about a record. -/
def fits (d : LogDirective) (r : Record) : Bool :=
  d.span.isNone
    && d.target.all (fun target => target.toList.isPrefixOf r.topic.path.toList)
    && d.field.all fun field => !field.hasPattern && r.hasField field.name

/-- How closely a directive names records, but for the names of fields. -/
def closeness (d : LogDirective) : Nat :=
  2 * (d.target.map fun target => target.utf8ByteSize + 1).getD 0 + d.field.toList.length

/-- The name of the field that a directive asks for. -/
def fieldName (d : LogDirective) : String :=
  (d.field.map (·.name)).getD ""

/-- Whether a directive names records more closely than another. -/
def isCloserThan (d e : LogDirective) : Bool :=
  e.closeness < d.closeness || (d.closeness == e.closeness && e.fieldName < d.fieldName)

/-- A level by its word in any case or its number; the outer option says whether there is one. -/
def levelOf? (word : List Char) : Option (Option Level) :=
  match Text.readNat? 10 word with
  | some n =>
    if n = 0 then some none
    else ([Level.error, .warn, .info, .debug, .trace].find? (·.rank == n)).map some
  | none =>
    let s := (String.ofList word).toLower
    if s == "off" then some none
    else
      ([Level.error, .warn, .info, .debug, .trace].find? fun l => l.word.toLower == s).map some

def canStart (c : Char) : Bool :=
  c == '-' || c == ':' || c == '_' || Text.isLetterOrNumber c

/-! ## Reading a directive

A directive is read without the white space around it, but its pieces are cut out of the text with
the white space, at the places that were found without it. -/

/-- Where reading stands, with the number of bytes before the piece that has begun. -/
inductive Stage where
  | start
  | word (start : Nat)
  | span (start : Nat)
  | field (start : Nat)
  | fieldEnd
  | spanEnd
  | level (start : Nat)
  deriving DecidableEq, Repr

/-- The piece of a text from a place on, to another place if there is one. -/
def piece (text : List Char) (start : Nat) (stop : Option Nat) :
    Except FilterError (List Char) :=
  let found := do
    let rest ← Text.dropBytes? start text
    match stop with
    | some stop => Text.takeBytes? (stop - start) rest
    | none => return rest
  match found with
  | some piece => .ok piece
  | none => .error .torn

/-- Reads what is asked of a field: its name, and perhaps a pattern after an equals sign. -/
def fieldOf (text : List Char) : Except FilterError AskedField :=
  if text.isEmpty then .error .malformed
  else
    match Text.cutAt '=' text with
    | name :: pattern :: _ =>
      if FieldPattern.isWellFormed pattern then .ok ⟨String.ofList name, true⟩
      else .error .malformed
    | _ => .ok ⟨String.ofList text, false⟩

/-- Takes one more character of a directive, which stands after a number of bytes. -/
def take (text : List Char) (d : LogDirective) (stage : Stage) (place : Nat) (c : Char) :
    Except FilterError (LogDirective × Stage) :=
  match stage, c with
  | .start, '[' => return (d, .span (place + 1))
  | .start, c => if canStart c then return (d, .word place) else .error .malformed
  | .word start, '=' => do
    let target ← piece text start place
    return ({ d with target := some (String.ofList target) }, .level (place + 1))
  | .word start, '[' => do
    let target ← piece text start place
    return ({ d with target := some (String.ofList target) }, .span (place + 1))
  | .span start, ']' => do
    let span ← piece text start place
    return ({ d with span := some (String.ofList span) }, .spanEnd)
  | .span start, '\x7b' => do
    let span ← piece text start place
    let span := if span.isEmpty then none else some (String.ofList span)
    return ({ d with span }, .field (place + 1))
  | .field start, '\x7d' => do
    let field ← fieldOf (← piece text start place)
    return ({ d with field := some field }, .fieldEnd)
  | .fieldEnd, ']' => return (d, .spanEnd)
  | .spanEnd, '=' => return (d, .level (place + 1))
  | .fieldEnd, _ | .spanEnd, _ => .error .malformed
  | stage, _ => return (d, stage)

/-- Takes what is left when a directive ends: a level, or a target for which all levels pass. -/
def finish (text : List Char) (d : LogDirective) : Stage → Except FilterError LogDirective
  | .word start => do
    let word ← piece text start none
    match levelOf? word with
    | some level => return { d with level }
    | none => return { d with target := some (String.ofList word) }
  | .level start => do
    let word ← piece text start none
    if word.isEmpty then return d
    match levelOf? word with
    | some level => return { d with level }
    | none => .error .malformed
  | .spanEnd => return d
  | _ => .error .malformed

/-- Reads characters of a directive to its end. -/
def readFrom (text : List Char) :
    LogDirective → Stage → (place : Nat) → List Char → Except FilterError LogDirective
  | d, stage, _, [] => d.finish text stage
  | d, stage, place, c :: r => do
    let (d, stage) ← d.take text stage place c
    readFrom text d stage (place + c.utf8Size) r

/-- Reads a directive. -/
def ofText (text : List Char) : Except FilterError LogDirective :=
  readFrom text {} .start 0 (Text.trim text)

end LogDirective

namespace LogFilter

/-- The closer of two directives, the second if they are equally close. -/
def closer (best : Option LogDirective) (d : LogDirective) : Option LogDirective :=
  match best with
  | none => some d
  | some b => if b.isCloserThan d then some b else some d

/-- The directive that decides about a record. -/
def deciding? (f : LogFilter) (r : Record) : Option LogDirective :=
  (f.filter (·.fits r)).foldl closer none

def passes (f : LogFilter) (r : Record) : Bool :=
  match (f.deciding? r).bind LogDirective.level with
  | none => false
  | some level => r.level.rank ≤ level.rank

/-- Reads directives with commas between them. -/
def ofText (s : String) : Except FilterError LogFilter :=
  ((Text.cutAt ',' s.toList).filter fun part => !part.isEmpty).mapM LogDirective.ofText

/-- The filter unless another one is set: it lets through what the program itself tells, from
information or from details on. -/
def usual (verbose : Bool) : LogFilter :=
  if verbose then [{ target := some "voodoo", level := some .debug }, { level := some .info }]
  else [{ target := some "voodoo", level := some .info }, { level := some .warn }]

/-- The filter that is set, if it is well formed, and otherwise the usual one; none if what is set
cannot be cut into its pieces. -/
def choose? (setting : Option String) (verbose : Bool) : Option LogFilter :=
  match setting.map ofText with
  | some (.ok filter) => some filter
  | some (.error .torn) => none
  | some (.error .malformed) | none => some (usual verbose)

end LogFilter
end PageScript
