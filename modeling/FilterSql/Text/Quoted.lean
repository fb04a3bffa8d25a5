import FilterSql.Text.Printable

/-!
Quoted text, as messages and reports show it: every character that is not plain is written by an
escape, so a quoted text stays on one line and cannot act on a terminal.
-/

namespace FilterSql.Text

/-- The code point in hexadecimal between braces. -/
def escapeByNumber (c : Char) : List Char :=
  '\\' :: 'u' :: '\x7b' :: hexDigits c.toNat ++ ['\x7d']

def escape (c : Char) : List Char :=
  if c == '\x00' then ['\\', '0']
  else if c == '\t' then ['\\', 't']
  else if c == '\n' then ['\\', 'n']
  else if c == '\r' then ['\\', 'r']
  else if c == '"' || c == '\\' then ['\\', c]
  else if isPlain c then [c]
  else escapeByNumber c

def quoteChars (cs : List Char) : List Char :=
  '"' :: cs.flatMap escape ++ ['"']

def quote (s : String) : String :=
  String.ofList (quoteChars s.toList)

end FilterSql.Text
