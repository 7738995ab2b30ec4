import PageScript.Document.Yaml.Cursor
import PageScript.Text.Numeral

/-!
# Tags of YAML texts

A tag says what its node is to stand for. It is written out between angle brackets, or as a handle
followed by a suffix, where the handle stands for the beginning of the tag. Directives at the start
of a document say what handles stand for. Tags are kept as octets, because escaped octets in them
need not make a text. An octet of zero and all that follows it is not part of a tag.
-/

namespace PageScript.Yaml

/-- A tag, as octets. -/
abbrev Tag := List UInt8

namespace Tag

/-- The tag that is written as a text. -/
def ofText (s : String) : Tag := s.toUTF8.toList

/-- The beginning of the tags that the standard names. -/
def standardLead : Tag := ofText "tag:yaml.org,2002:"

def standard (name : String) : Tag := standardLead ++ ofText name

/-- The tag of a lone exclamation mark. -/
def bare : Tag := ofText "!"

/-- The octets of a tag that count: those before a zero. -/
def counted (octets : Tag) : Tag := octets.takeWhile (· != 0)

/-- Whether a tag is one of an application's own, a lone exclamation mark included. -/
def isLocal (t : Tag) : Bool :=
  t.head? == some '!'.toUInt8 && (String.fromUTF8? ⟨t.toArray⟩).isSome

end Tag

/-- Whether a character can stand in a tag; within angle brackets more of them can. -/
def isTagChar (bracketed : Bool) (c : Char) : Bool :=
  isNameChar c || ";/?:@&=+$.!~*'()".toList.contains c
    || (bracketed && (c == ',' || c == '[' || c == ']'))

/-- Reads a percent sign and two hexadecimal digits. -/
def readOctet (p : Cursor) : Option (Nat × Cursor) := do
  if !p.at_ '%' then none
  let digits := (p.rest.drop 1).take 2
  if digits.length < 2 then none
  return (← Text.readDigits? 16 digits, p.skipMany 3)

/-- The number of octets of a character that begins with a certain octet. -/
def octetsOf? (first : Nat) : Option Nat :=
  if first < 0x80 then some 1
  else if first < 0xC0 then none
  else if first < 0xE0 then some 2
  else if first < 0xF0 then some 3
  else if first < 0xF8 then some 4
  else none

/-- Reads the octets of a character after the first. -/
def readMoreOctets : Nat → Tag → Cursor → Option (Tag × Cursor)
  | 0, t, p => some (t, p)
  | n + 1, t, p => do
    let (octet, p) ← readOctet p
    if octet < 0x80 || 0xC0 ≤ octet then none
    readMoreOctets n (t ++ [octet.toUInt8]) p

/-- Reads the escaped octets of one character. -/
def readEscapedChar (p : Cursor) : Option (Tag × Cursor) := do
  let (first, p) ← readOctet p
  readMoreOctets ((← octetsOf? first) - 1) [first.toUInt8] p

/-- Reads the characters of a tag. -/
def readTagText (bracketed : Bool) : Nat → Tag → Cursor → Option (Tag × Cursor)
  | 0, t, p => some (t, p)
  | fuel + 1, t, p =>
    match p.peek with
    | none => some (t, p)
    | some c =>
      if c == '%' then
        match readEscapedChar p with
        | some (octets, p) => readTagText bracketed fuel (t ++ octets) p
        | none => none
      else if isTagChar bracketed c then readTagText bracketed fuel (t ++ [c.toUInt8]) p.skip
      else some (t, p)

/-- A tag as it is written: its handle, which is empty if it is written out, and the rest. -/
structure WrittenTag where
  handle : List Char := []
  suffix : Tag
  deriving Repr

/-- Reads a handle: an exclamation mark, a name and a second mark, which may both be missing. -/
def readHandle (p : Cursor) : List Char × Cursor :=
  let name := (p.rest.drop 1).takeWhile isNameChar
  let p := p.skipMany (name.length + 1)
  if p.at_ '!' then ('!' :: name ++ ['!'], p.skip) else ('!' :: name, p)

/-- Whether a handle ends with a second mark. -/
def isWholeHandle (handle : List Char) : Bool :=
  1 < handle.length && handle.getLast? == some '!'

/-- Reads a tag up to where it ends, which must be at a gap or in a flow before a comma. -/
def readTag (inFlow : Bool) (p : Cursor) : Option (WrittenTag × Cursor) := do
  let fuel := p.rest.length
  let (tag, p) ←
    if p.at_ '<' 1 then do
      let (suffix, p) ← readTagText true fuel [] (p.skipMany 2)
      if suffix.isEmpty || !p.at_ '>' then none
      pure (({ suffix := suffix.counted } : WrittenTag), p.skip)
    else do
      let (handle, p) := readHandle p
      if isWholeHandle handle then
        let (suffix, p) ← readTagText false fuel [] p
        if suffix.isEmpty then none
        pure (⟨handle, suffix.counted⟩, p)
      else
        let (suffix, p) ← readTagText false fuel (Tag.ofText (String.ofList (handle.drop 1))) p
        let suffix := suffix.counted
        pure (if suffix.isEmpty then ⟨[], Tag.bare⟩ else ⟨['!'], suffix⟩, p)
  if p.atGap || (inFlow && p.at_ ',') then return (tag, p)
  none

/-- Reads the name of an anchor or alias up to where it ends, which must be at a gap or before one
of a few signs. -/
def readAnchorName (p : Cursor) : Option (String × Cursor) :=
  let name := p.rest.takeWhile isNameChar
  let p := p.skipMany name.length
  let ends := p.atGap || p.atOneOf "?:,]\x7d%@" || (p.peek.any fun c => c.toNat == 0x60)
  if name.isEmpty || !ends then none else some (String.ofList name, p)

/-! ## Directives -/

/-- What a directive says. -/
inductive Directive where
  | version (major minor : Nat)
  | handle (name : List Char) (lead : Tag)
  deriving Repr

/-- The largest number of digits in the number of a version. -/
def versionDigits : Nat := 9

def readVersionNumber (p : Cursor) : Option (Nat × Cursor) := do
  let digits := p.rest.takeWhile Char.isDigit
  if versionDigits < digits.length then none
  return (← Text.readDigits? 10 digits, p.skipMany digits.length)

/-- Reads what follows the name of a directive. -/
def readDirectiveValue (name : String) (p : Cursor) : Option (Directive × Cursor) := do
  let p := p.skipWhile isBlank
  match name with
  | "YAML" =>
    let (major, p) ← readVersionNumber p
    if !p.at_ '.' then none
    let (minor, p) ← readVersionNumber p.skip
    return (.version major minor, p)
  | "TAG" =>
    if !p.at_ '!' then none
    let (handle, p) := readHandle p
    if handle != ['!'] && !isWholeHandle handle then none
    if !p.atBlank then none
    let (lead, p) ← readTagText true p.rest.length [] (p.skipWhile isBlank)
    if lead.isEmpty || !p.atGap then none
    return (.handle handle lead.counted, p)
  | _ => none

/-- Reads a directive, which starts with a percent sign, to the end of its line. -/
def readDirective (p : Cursor) : Option (Directive × Cursor) := do
  let p := p.skip
  let name := p.rest.takeWhile isNameChar
  let p := p.skipMany name.length
  if name.isEmpty || !p.atGap then none
  let (directive, p) ← readDirectiveValue (String.ofList name) p
  let p := p.skipWhile isBlank
  let p := if p.at_ '#' then p.skipToBreak else p
  if !p.atBreakOrEnd then none
  return (directive, p.passLine)

end PageScript.Yaml
