/-!
# Kinds of events

Every tag a script may use names one kind. Commands drive the interpreter itself, markup kinds
stand for inert elements of the page, controls for the parts of a form. A frame is markup too, but
it switches the browser's context instead of being located and acted on.
-/

namespace PageScript

/-- Interpreter commands, which target no element of the page. -/
inductive Command where
  | alert | arg | attach | browser | csv | delete | dnd | execute | javaplugin | javascript
  | pluginloader | puts | savehtml | screenshot | script | timestamp | var | wait | whitelist
  deriving DecidableEq, Repr

/-- Inert elements of a page. -/
inductive Markup where
  | abbr | acronym | address | area | b | big | blockquote | br | caption | cite | code | col
  | colgroup | dd | del | dfn | div | dl | dt | em | form | h1 | h2 | h3 | h4 | h5 | h6 | hr | i
  | image | ins | kbd | label | li | link | map | object | ol | p | pre | q | s | samp | small
  | span | strike | strong | sub | sup | table | tbody | td | tfoot | th | thead | tr | tt | u | ul
  deriving DecidableEq, Repr

/-- Interactive parts of a form. -/
inductive Control where
  | button | checkbox | email | filefield | hidden | input | password | radio | select | textarea
  | textfield
  deriving DecidableEq, Repr

/-- What an event does, as its tag says. -/
inductive Kind where
  | command (c : Command)
  | markup (m : Markup)
  | frame
  | control (c : Control)
  deriving DecidableEq, Repr

/-- Broad grouping of kinds. -/
inductive Category where
  | command | markup | form
  deriving DecidableEq, Repr

/-- What the interpreter does with a kind beyond its actions. -/
inductive Capability where
  /-- An element of the page is located before anything else. -/
  | needsElement
  /-- `set` is a selected or deselected state. -/
  | toggle
  /-- Text is entered through `set`, `append` and `clear`. -/
  | textInput
  /-- `arg` children are positional arguments. -/
  | args
  /-- Text content is kept as the `content` action. -/
  | rawText
  /-- The event runs its children itself. -/
  | ownsChildren
  /-- The browser's context is switched and has to be restored after the children. -/
  | restoresContext
  deriving DecidableEq, Repr

/-- The HTML element a kind targets. -/
structure HtmlTarget where
  tag : String
  inputType : Option String := none
  deriving DecidableEq, Repr

def Command.tag : Command → String
  | .alert => "alert" | .arg => "arg" | .attach => "attach" | .browser => "browser"
  | .csv => "csv" | .delete => "delete" | .dnd => "dnd" | .execute => "execute"
  | .javaplugin => "javaplugin" | .javascript => "javascript" | .pluginloader => "pluginloader"
  | .puts => "puts" | .savehtml => "savehtml" | .screenshot => "screenshot" | .script => "script"
  | .timestamp => "timestamp" | .var => "var" | .wait => "wait" | .whitelist => "whitelist"

/-- The tag of a markup kind. -/
def Markup.tag : Markup → String
  | .abbr => "abbr" | .acronym => "acronym" | .address => "address" | .area => "area" | .b => "b"
  | .big => "big" | .blockquote => "blockquote" | .br => "br" | .caption => "caption"
  | .cite => "cite" | .code => "code" | .col => "col" | .colgroup => "colgroup" | .dd => "dd"
  | .del => "del" | .dfn => "dfn" | .div => "div" | .dl => "dl" | .dt => "dt" | .em => "em"
  | .form => "form" | .h1 => "h1" | .h2 => "h2" | .h3 => "h3" | .h4 => "h4" | .h5 => "h5"
  | .h6 => "h6" | .hr => "hr" | .i => "i" | .image => "image" | .ins => "ins" | .kbd => "kbd"
  | .label => "label" | .li => "li" | .link => "link" | .map => "map" | .object => "object"
  | .ol => "ol" | .p => "p" | .pre => "pre" | .q => "q" | .s => "s" | .samp => "samp"
  | .small => "small" | .span => "span" | .strike => "strike" | .strong => "strong"
  | .sub => "sub" | .sup => "sup" | .table => "table" | .tbody => "tbody" | .td => "td"
  | .tfoot => "tfoot" | .th => "th" | .thead => "thead" | .tr => "tr" | .tt => "tt" | .u => "u"
  | .ul => "ul"

def Control.tag : Control → String
  | .button => "button" | .checkbox => "checkbox" | .email => "email"
  | .filefield => "filefield" | .hidden => "hidden" | .input => "input"
  | .password => "password" | .radio => "radio" | .select => "select"
  | .textarea => "textarea" | .textfield => "textfield"

/-- The commands, in the order they are declared. -/
def Command.all : List Command :=
  [.alert, .arg, .attach, .browser, .csv, .delete, .dnd, .execute, .javaplugin, .javascript,
    .pluginloader, .puts, .savehtml, .screenshot, .script, .timestamp, .var, .wait, .whitelist]

/-- The markup kinds declared before the frame. -/
def Markup.beforeFrame : List Markup :=
  [.abbr, .acronym, .address, .area, .b, .big, .blockquote, .br, .caption, .cite, .code, .col,
    .colgroup, .dd, .del, .dfn, .div, .dl, .dt, .em, .form]

/-- The markup kinds declared after the frame. -/
def Markup.afterFrame : List Markup :=
  [.h1, .h2, .h3, .h4, .h5, .h6, .hr, .i, .image, .ins, .kbd, .label, .li, .link, .map, .object,
    .ol, .p, .pre, .q, .s, .samp, .small, .span, .strike, .strong, .sub, .sup, .table, .tbody, .td,
    .tfoot, .th, .thead, .tr, .tt, .u, .ul]

/-- The controls, in the order they are declared. -/
def Control.all : List Control :=
  [.button, .checkbox, .email, .filefield, .hidden, .input, .password, .radio, .select, .textarea,
    .textfield]

namespace Kind

/-- Every kind, in the order they are declared. -/
def all : List Kind :=
  Command.all.map .command ++ Markup.beforeFrame.map .markup ++ [.frame]
    ++ Markup.afterFrame.map .markup ++ Control.all.map .control

/-- The tag that names a kind in a script. -/
def tag : Kind → String
  | .command c => c.tag
  | .markup m => m.tag
  | .frame => "frame"
  | .control c => c.tag

/-- The kind a tag names, whatever the case of its ASCII letters. -/
def ofTag? (t : String) : Option Kind :=
  all.find? (·.tag == t.toLower)

/-- The group a kind belongs to. -/
def category : Kind → Category
  | .command _ => .command
  | .markup _ | .frame => .markup
  | .control _ => .form

/-- The HTML element a kind targets, if it targets one. -/
def htmlTarget : Kind → Option HtmlTarget
  | .command _ => none
  | .frame => some ⟨"iframe", none⟩
  | .markup .image => some ⟨"img", none⟩
  | .markup .link => some ⟨"a", none⟩
  | .markup m => some ⟨m.tag, none⟩
  | .control .button => some ⟨"button", none⟩
  | .control .select => some ⟨"select", none⟩
  | .control .textarea => some ⟨"textarea", none⟩
  | .control .input => some ⟨"input", none⟩
  | .control .filefield => some ⟨"input", some "file"⟩
  | .control .textfield => some ⟨"input", some "text"⟩
  | .control c => some ⟨"input", some c.tag⟩

def capabilities : Kind → List Capability
  | .command .attach | .frame => [.restoresContext]
  | .command .csv => [.ownsChildren]
  | .command .execute | .command .javaplugin => [.args]
  | .command .javascript | .command .whitelist => [.rawText]
  | .command _ => []
  | .markup _ => [.needsElement]
  | .control .checkbox | .control .radio => [.needsElement, .toggle]
  | .control .email | .control .hidden | .control .input | .control .password
  | .control .textarea | .control .textfield => [.needsElement, .textInput]
  | .control _ => [.needsElement]

def can (k : Kind) (c : Capability) : Bool :=
  k.capabilities.contains c

end Kind

/-- The word for a group of kinds. -/
def Category.word : Category → String
  | .command => "command"
  | .markup => "markup"
  | .form => "form"

end PageScript
