import FilterSql.Pattern.Property.Category
import FilterSql.Pattern.Property.Letter
import FilterSql.Pattern.Property.Script
import FilterSql.Pattern.Property.Symbol
import FilterSql.Text.Blank

/-! Properties of characters that a pattern can ask for, and the names it asks by. -/

namespace FilterSql.Pattern

inductive Property
  | any
  | ascii
  | assigned
  | unassigned
  /-- Controls, formats, private use and what is unassigned. -/
  | other
  /-- The characters of one of the categories. -/
  | categories (cs : List Category)
  /-- The characters of the script with the given name. -/
  | script (name : String)
  | alphabetic
  | lowercase
  | uppercase
  | whiteSpace
  | math
  | dash
  | hexDigit
  | asciiHexDigit
  | ideographic
  | emoji
  | quotationMark
  | joinControl
  /-- What a word is made of: letters, marks, digits, connectors and joiners. -/
  | word
  deriving DecidableEq, Repr

namespace Property

def inCategories (cs : List Category) (c : Char) : Bool :=
  cs.any fun k => k.ranges.contains c

def isWordChar (c : Char) : Bool :=
  alphabeticRanges.contains c || joinControlRanges.contains c ||
    inCategories [.spacingMark, .enclosingMark, .nonspacingMark, .decimalNumber,
      .connectorPunctuation] c

def contains : Property → Char → Bool
  | any, _ => true
  | ascii, c => c.toNat < 128
  | assigned, c => inCategories Category.all c
  | unassigned, c => !inCategories Category.all c
  | other, c => inCategories [.control, .format, .privateUse] c || !inCategories Category.all c
  | categories cs, c => inCategories cs c
  | script name, c => Script.all.any fun s => s.names.contains name && s.ranges.contains c
  | alphabetic, c => alphabeticRanges.contains c
  | lowercase, c => lowercaseRanges.contains c
  | uppercase, c => uppercaseRanges.contains c
  | whiteSpace, c => Text.isBlank c
  | math, c => mathRanges.contains c
  | dash, c => dashRanges.contains c
  | hexDigit, c => hexDigitRanges.contains c
  | asciiHexDigit, c => asciiHexDigitRanges.contains c
  | ideographic, c => ideographicRanges.contains c
  | emoji, c => emojiRanges.contains c
  | quotationMark, c => quotationMarkRanges.contains c
  | joinControl, c => joinControlRanges.contains c
  | word, c => isWordChar c

def digit : Property := categories [.decimalNumber]

/-- A name without case, separators and a leading `is`. -/
def normalName (cs : List Char) : List Char :=
  let lower := cs.map Char.toLower
  let (bare, hadIs) := match lower with
    | 'i' :: 's' :: rest => (rest, true)
    | _ => (lower, false)
  let kept := bare.filter fun c => c.toNat < 128 && c != ' ' && c != '_' && c != '-'
  if hadIs && kept == ['c'] then ['i', 's', 'c'] else kept

/-- The properties that have a name of their own. -/
def named : List (String × Property) :=
  [("alphabetic", alphabetic), ("alpha", alphabetic), ("lowercase", lowercase), ("lower", lowercase),
   ("uppercase", uppercase), ("upper", uppercase), ("whitespace", whiteSpace),
   ("wspace", whiteSpace), ("space", whiteSpace), ("math", math), ("dash", dash),
   ("hexdigit", hexDigit), ("hex", hexDigit), ("asciihexdigit", asciiHexDigit),
   ("ahex", asciiHexDigit), ("ideographic", ideographic), ("ideo", ideographic), ("emoji", emoji),
   ("quotationmark", quotationMark), ("qmark", quotationMark), ("joincontrol", joinControl),
   ("joinc", joinControl)]

/-- Categories by the names of their groups. -/
def categoryGroups : List (List String × List Category) :=
  [(["l", "letter"],
     [.lowercaseLetter, .modifierLetter, .otherLetter, .titlecaseLetter, .uppercaseLetter]),
   (["lc", "casedletter"], [.lowercaseLetter, .titlecaseLetter, .uppercaseLetter]),
   (["m", "mark", "combiningmark"], [.spacingMark, .enclosingMark, .nonspacingMark]),
   (["n", "number"], [.decimalNumber, .letterNumber, .otherNumber]),
   (["p", "punctuation", "punct"],
     [.connectorPunctuation, .dashPunctuation, .closePunctuation, .finalPunctuation,
      .initialPunctuation, .otherPunctuation, .openPunctuation]),
   (["s", "symbol"], [.currencySymbol, .modifierSymbol, .mathSymbol, .otherSymbol]),
   (["z", "separator"], [.lineSeparator, .paragraphSeparator, .spaceSeparator]),
   (["cntrl"], [.control]),
   (["digit"], [.decimalNumber])]

def ofCategory? (name : String) : Option Property :=
  if name == "any" then some any
  else if name == "ascii" then some ascii
  else if name == "assigned" then some assigned
  else if name == "cn" || name == "unassigned" then some unassigned
  else if name == "c" || name == "other" then some other
  else match Category.all.find? fun k => k.abbreviation == name || k.fullName == name with
    | some k => some (categories [k])
    | none => (categoryGroups.find? fun g => g.1.contains name).map fun g => categories g.2

def ofScript? (name : String) : Option Property :=
  (Script.all.find? fun s => s.names.contains name).map fun _ => script name

/-- The property that a single name stands for. -/
def ofName? (name : List Char) : Option Property :=
  let normal := String.ofList (normalName name)
  (named.lookup normal).or ((ofCategory? normal).or (ofScript? normal))

/-- The property that a name and a value stand for. -/
def ofValue? (name value : List Char) : Option Property :=
  let name := String.ofList (normalName name)
  let value := String.ofList (normalName value)
  if name == "gc" || name == "generalcategory" then ofCategory? value
  else if name == "sc" || name == "script" then ofScript? value
  else none

end Property

end FilterSql.Pattern
