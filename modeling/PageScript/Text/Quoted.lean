import PageScript.Text.Shown

/-!
# Quoted text

How values are shown in log lines that quote them: a string stands in double quotes with what does
not show escaped, a list in brackets, a pair in parentheses.
-/

namespace PageScript.Text

/-- One character inside double quotes. -/
def quotedChar (c : Char) : List Char :=
  if c = '"' then ['\\', '"']
  else if c = '\\' then ['\\', '\\']
  else if c = '\n' then ['\\', 'n']
  else if c = '\r' then ['\\', 'r']
  else if c = '\t' then ['\\', 't']
  else if c.toNat = 0 then ['\\', '0']
  else if isShown c then [c]
  else "\\u\x7b".toList ++ Nat.toDigits 16 c.toNat ++ ['\x7d']

/-- A string in double quotes. -/
def quoted (s : String) : String :=
  String.ofList ('"' :: s.toList.flatMap quotedChar ++ ['"'])

/-- A list of shown values in brackets. -/
def quotedList (items : List String) : String :=
  "[" ++ ", ".intercalate items ++ "]"

/-- A pair of strings in parentheses. -/
def quotedPair (p : String × String) : String :=
  "(" ++ quoted p.1 ++ ", " ++ quoted p.2 ++ ")"

end PageScript.Text
