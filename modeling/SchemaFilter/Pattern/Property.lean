import SchemaFilter.Pattern.Basic
import SchemaFilter.Pattern.Tree
import SchemaFilter.Unicode.Age
import SchemaFilter.Unicode.Script
import SchemaFilter.Unicode.Segmentation

/-!
# Properties in patterns

The class of characters that a property names. Names are compared without case, blanks, hyphens and
underscores, and a leading "is" does not count. A bare name is a binary property, a general category
or a script, in this order.
-/

namespace SchemaFilter.Pattern

open Unicode

/-- A character without the differences that do not count in names. -/
def normalizeNameChar? (c : Char) : Option Char :=
  if c = ' ' ∨ c = '_' ∨ c = '-' ∨ 128 ≤ c.toNat then none else some c.toLower

/-- A name of a property or a value in its normal form. The abbreviation "isc" is no name with a
leading "is". -/
def normalizeName (name : String) : String :=
  let cs := name.toList
  match cs with
  | a :: b :: rest =>
    if a.toLower = 'i' ∧ b.toLower = 's' then
      match rest.filterMap normalizeNameChar? with
      | ['c'] => "isc"
      | short => String.ofList short
    else String.ofList (cs.filterMap normalizeNameChar?)
  | _ => String.ofList (cs.filterMap normalizeNameChar?)

/-- The names of the general categories with their codes. A code of one letter stands for all
categories whose codes start with it. -/
def categoryNames : List (List String × List String) :=
  [(["letter", "l"], ["L"]),
   (["casedletter", "lc"], ["Lu", "Ll", "Lt"]),
   (["uppercaseletter", "lu"], ["Lu"]),
   (["lowercaseletter", "ll"], ["Ll"]),
   (["titlecaseletter", "lt"], ["Lt"]),
   (["modifierletter", "lm"], ["Lm"]),
   (["otherletter", "lo"], ["Lo"]),
   (["mark", "combiningmark", "m"], ["M"]),
   (["nonspacingmark", "mn"], ["Mn"]),
   (["spacingmark", "mc"], ["Mc"]),
   (["enclosingmark", "me"], ["Me"]),
   (["number", "n"], ["N"]),
   (["decimalnumber", "digit", "nd"], ["Nd"]),
   (["letternumber", "nl"], ["Nl"]),
   (["othernumber", "no"], ["No"]),
   (["punctuation", "punct", "p"], ["P"]),
   (["connectorpunctuation", "pc"], ["Pc"]),
   (["dashpunctuation", "pd"], ["Pd"]),
   (["openpunctuation", "ps"], ["Ps"]),
   (["closepunctuation", "pe"], ["Pe"]),
   (["initialpunctuation", "pi"], ["Pi"]),
   (["finalpunctuation", "pf"], ["Pf"]),
   (["otherpunctuation", "po"], ["Po"]),
   (["symbol", "s"], ["S"]),
   (["mathsymbol", "sm"], ["Sm"]),
   (["currencysymbol", "sc"], ["Sc"]),
   (["modifiersymbol", "sk"], ["Sk"]),
   (["othersymbol", "so"], ["So"]),
   (["separator", "z"], ["Z"]),
   (["spaceseparator", "zs"], ["Zs"]),
   (["lineseparator", "zl"], ["Zl"]),
   (["paragraphseparator", "zp"], ["Zp"]),
   (["control", "cntrl", "cc"], ["Cc"]),
   (["format", "cf"], ["Cf"]),
   (["privateuse", "co"], ["Co"])]

/-- The characters of the categories whose codes start with one of the given ones. -/
def categories (codes : List String) : CharClass :=
  .unions <| (GeneralCategory.table.filter fun (code, _) =>
    codes.any fun c => c.toList.isPrefixOf code.toList).map fun (_, r) => .property r

def assigned : CharClass :=
  categories ["L", "M", "N", "P", "S", "Z", "C"]

def category? (name : String) : Option CharClass :=
  match name with
  | "any" => some .any
  | "ascii" => some (.range '\x00' '\x7f')
  | "assigned" => some assigned
  | "unassigned" | "cn" => some (.complement assigned)
  | "other" | "c" => some (.complement (categories ["L", "M", "N", "P", "S", "Z"]))
  | _ => (categoryNames.find? fun (names, _) => names.contains name).map fun (_, codes) =>
    categories codes

/-- What the standard adds to general categories, and takes away from them, to make a property of
characters. -/
def contribution? (name : String) : Option CharClass :=
  let beyond (property : Ranges) (codes : List String) : CharClass :=
    .difference (.property property) (categories codes)
  match name with
  | "otheralphabetic" | "oalpha" => some (beyond BinaryProperty.alphabetic ["L", "Nl"])
  | "otherlowercase" | "olower" => some (beyond BinaryProperty.lowercase ["Ll"])
  | "otheruppercase" | "oupper" => some (beyond BinaryProperty.uppercase ["Lu"])
  | "othermath" | "omath" => some (beyond BinaryProperty.math ["Sm"])
  | "othergraphemeextend" | "ogrext" => some (beyond BinaryProperty.graphemeExtend ["Mn", "Me"])
  | "otheridstart" | "oids" => some (beyond BinaryProperty.idStart ["L", "Nl"])
  | "otheridcontinue" | "oidc" =>
    some (.difference (beyond BinaryProperty.idContinue ["Mn", "Mc", "Nd", "Pc"])
      (.property BinaryProperty.idStart))
  | "otherdefaultignorablecodepoint" | "odi" =>
    some (.property (.ofLines
      ["34F 115F-1160 17B4-17B5 2065 3164 FFA0 FFF0-FFF8 E0000 E0002-E001F E0080-E00FF",
        "E01F0-E0FFF"]))
  | _ => none

def binaryProperty? (name : String) : Option CharClass :=
  ((BinaryProperty.table.find? fun (names, _) => names.contains name).map fun (_, r) =>
    .property r) <|> contribution? name

/-- The characters of a script, or those that are used with it. -/
def script? (withExtensions : Bool) (name : String) : Option CharClass :=
  (Script.table.find? (·.names.contains name)).map fun entry =>
    .property (.ofLines (if withExtensions then entry.extended.getD entry.own else entry.own))

/-- The class of a property, by its name alone. Three names of categories also abbreviate other
properties, and the categories come first. -/
def namedProperty? (name : String) : Option CharClass :=
  let name := normalizeName name
  let binary := if name = "cf" ∨ name = "sc" ∨ name = "lc" then none else binaryProperty? name
  binary <|> category? name <|> script? false name

def valuedProperty? (name value : String) : Option CharClass :=
  let value := normalizeName value
  match normalizeName name with
  | "generalcategory" | "gc" | "category" => category? value
  | "script" | "sc" => script? false value
  | "scriptextensions" | "scx" => script? true value
  | "age" => (Age.upTo? value).map fun added => .unions (added.map fun r => .property (.ofLines r))
  | "graphemeclusterbreak" | "gcb" => (Segmentation.graphemeClass? value).map .property
  | "wordbreak" | "wb" => (Segmentation.class? Segmentation.wordBreak value).map .property
  | "sentencebreak" | "sb" => (Segmentation.class? Segmentation.sentenceBreak value).map .property
  | _ => none

def PropertyQuery.class? : PropertyQuery → Option CharClass
  | letter c => namedProperty? (String.singleton c)
  | named name => namedProperty? name
  | valued name value => valuedProperty? name value

end SchemaFilter.Pattern
