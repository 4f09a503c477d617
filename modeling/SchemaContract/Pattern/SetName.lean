import SchemaContract.Pattern.CharSet

/-!
# Names of sets

A set of characters is named by a property, by a general category or by a script, or by one of these
with a value. Names are compared without regard to case, blanks, hyphens and underscores, and may
begin with `is`.
-/

namespace SchemaContract.Pattern

open Unicode

def plainName (name : List Char) : String :=
  let (start, name) := match name with
    | a :: b :: rest =>
      if a.toLower = 'i' ∧ b.toLower = 's' then (true, rest) else (false, name)
    | _ => (false, name)
  let plain := (name.filter fun c => c.toNat < 0x80 && !" _-".toList.contains c).map Char.toLower
  if start && plain == ['c'] then "isc" else String.ofList plain

/-! ## General categories -/

/-- The groups of categories, and other names of single ones. -/
def categoryGroups : List (String × List Category) :=
  [("l", Category.letters), ("letter", Category.letters),
   ("lc", [.uppercaseLetter, .lowercaseLetter, .titlecaseLetter]),
   ("casedletter", [.uppercaseLetter, .lowercaseLetter, .titlecaseLetter]),
   ("m", Category.marks), ("mark", Category.marks), ("combiningmark", Category.marks),
   ("n", Category.numbers), ("number", Category.numbers),
   ("p", Category.punctuation), ("punctuation", Category.punctuation),
   ("punct", Category.punctuation), ("s", Category.symbols), ("symbol", Category.symbols),
   ("z", Category.separators), ("separator", Category.separators), ("c", Category.others),
   ("other", Category.others), ("any", Category.all),
   ("assigned", Category.all.filter (· != .unassigned)), ("digit", [.decimalNumber]),
   ("cntrl", [.control]), ("uppercaseletter", [.uppercaseLetter]),
   ("lowercaseletter", [.lowercaseLetter]), ("titlecaseletter", [.titlecaseLetter]),
   ("modifierletter", [.modifierLetter]), ("otherletter", [.otherLetter]),
   ("nonspacingmark", [.nonspacingMark]), ("spacingmark", [.spacingMark]),
   ("enclosingmark", [.enclosingMark]), ("decimalnumber", [.decimalNumber]),
   ("letternumber", [.letterNumber]), ("othernumber", [.otherNumber]),
   ("connectorpunctuation", [.connectorPunctuation]), ("dashpunctuation", [.dashPunctuation]),
   ("openpunctuation", [.openPunctuation]), ("closepunctuation", [.closePunctuation]),
   ("initialpunctuation", [.initialPunctuation]), ("finalpunctuation", [.finalPunctuation]),
   ("otherpunctuation", [.otherPunctuation]), ("mathsymbol", [.mathSymbol]),
   ("currencysymbol", [.currencySymbol]), ("modifiersymbol", [.modifierSymbol]),
   ("othersymbol", [.otherSymbol]), ("spaceseparator", [.spaceSeparator]),
   ("lineseparator", [.lineSeparator]), ("paragraphseparator", [.paragraphSeparator]),
   ("control", [.control]), ("format", [.format]), ("privateuse", [.privateUse]),
   ("unassigned", [.unassigned])]

/-- The set of a category or a group; the surrogates have none, since no text holds them. -/
def categorySet? (name : String) : Option CharSet :=
  if name == "ascii" then some (.ranges [(0x00, 0x7F)])
  else
    match categoryGroups.find? fun g => g.1 == name with
    | some (_, categories) => some (.categories categories)
    | none =>
      (Category.all.find? fun c =>
        c != .surrogate && plainName c.abbreviation.toList == name).map fun c => .categories [c]

/-! ## Scripts and ages -/

/-- The code of a script, whose name may be the code itself. -/
def scriptCode? (name : String) : Option String :=
  let special := match name with
    | "qaai" => "zinh"
    | "qaac" => "copt"
    | _ => name
  (scripts.find? fun s => plainName s.1.toList == special || plainName s.2.toList == special).map
    (·.1)

/-- The version that a name such as `6.0` or `V6_0` stands for. -/
def version? (name : String) : Option String :=
  versions.find? fun v => v == name || "v" ++ String.ofList (v.toList.filter (· != '.')) == name

/-! ## Sets by name -/

def setOfName? (name : List Char) : Option CharSet :=
  let name := plainName name
  match Property.ofName? name with
  | some p => some (.property p)
  | none =>
    match categorySet? name with
    | some set => some set
    | none => (scriptCode? name).map .script

def setOfValue? (property value : List Char) : Option CharSet :=
  let value := plainName value
  match plainName property with
  | "gc" | "generalcategory" => categorySet? value
  | "sc" | "script" => (scriptCode? value).map .script
  | "scx" | "scriptextensions" => (scriptCode? value).map .usedScript
  | "age" => (version? value).map .ofAge
  | _ => none

/-- The text before and behind the first occurrence of an operator. -/
def cutAtOperator? (operator : List Char) : List Char → Option (List Char × List Char)
  | [] => none
  | c :: rest =>
    if operator.isPrefixOf (c :: rest) then some ([], (c :: rest).drop operator.length)
    else (cutAtOperator? operator rest).map fun r => (c :: r.1, r.2)

/-- The set that stands between the braces of an escape, and whether its complement is meant. -/
def setBetweenBraces? (text : List Char) : Option (Bool × CharSet) :=
  match cutAtOperator? ['!', '='] text, cutAtOperator? [':'] text, cutAtOperator? ['='] text with
  | some (property, value), _, _ => (setOfValue? property value).map (true, ·)
  | none, some (property, value), _ => (setOfValue? property value).map (false, ·)
  | none, none, some (property, value) => (setOfValue? property value).map (false, ·)
  | none, none, none => (setOfName? text).map (false, ·)

end SchemaContract.Pattern
