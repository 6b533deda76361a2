import Runbook.Pattern.Property.Age
import Runbook.Pattern.Property.Break
import Runbook.Pattern.Property.Extension

/-!
# Properties of characters

The classes that a pattern names by a property, or by a property and its value.  Names are compared
without regard to letter case, blanks, hyphens, low lines and the syllable `is` in front.

* `loosen` keeps of a name what counts;
* `propertyNames` has the names of all properties that a standard knows.  Most of them are of no
  use in patterns, but tell a value that is unknown from a property that is;
* `Property.find` looks a name up that stands alone: of a property that holds or not, of a general
  category, or of a script;
* `Property.findValue` looks up the value of a property.
-/

namespace Runbook.Pattern.Property

/-! ## Names -/

/-- What counts of a name: only the basic alphabet does, and the syllable `is` in front does not,
except in the name `isc`. -/
def loosen (name : List Char) : String :=
  let kept (cs : List Char) : List Char :=
    (cs.filter (fun c => c.toNat < 128 && c != ' ' && c != '_' && c != '-')).map Char.toLower
  match name with
  | i :: s :: rest =>
    if i.toLower = 'i' && s.toLower = 's' then
      let rest := kept rest
      String.ofList (if rest = ['c'] then ['i', 's', 'c'] else rest)
    else String.ofList (kept name)
  | _ => String.ofList (kept name)

/-- The names of all properties, in lowercase and without separators. -/
def propertyNames : List String :=
  ["age", "ahex", "alpha", "alphabetic", "asciihexdigit", "bc", "bidic", "bidiclass", "bidicontrol",
    "bidim", "bidimirrored", "bidimirroringglyph", "bidipairedbracket", "bidipairedbrackettype",
    "blk", "block", "bmg", "bpb", "bpt", "canonicalcombiningclass", "cased", "casefolding",
    "caseignorable", "ccc", "ce", "cf", "changeswhencasefolded", "changeswhencasemapped",
    "changeswhenlowercased", "changeswhennfkccasefolded", "changeswhentitlecased",
    "changeswhenuppercased", "ci", "cjkaccountingnumeric", "cjkcompatibilityvariant", "cjkiicore",
    "cjkirggsource", "cjkirghsource", "cjkirgjsource", "cjkirgkpsource", "cjkirgksource",
    "cjkirgmsource", "cjkirgssource", "cjkirgtsource", "cjkirguksource", "cjkirgusource",
    "cjkirgvsource", "cjkothernumeric", "cjkprimarynumeric", "cjkrsunicode", "compex",
    "compositionexclusion", "cwcf", "cwcm", "cwkcf", "cwl", "cwt", "cwu", "dash",
    "decompositionmapping", "decompositiontype", "defaultignorablecodepoint", "dep", "deprecated",
    "di", "dia", "diacritic", "dm", "dt", "ea", "eastasianwidth", "ebase", "ecomp", "emod", "emoji",
    "emojicomponent", "emojimodifier", "emojimodifierbase", "emojipresentation", "epres", "equideo",
    "equivalentunifiedideograph", "expandsonnfc", "expandsonnfd", "expandsonnfkc", "expandsonnfkd",
    "ext", "extendedpictographic", "extender", "extpict", "fcnfkc", "fcnfkcclosure",
    "fullcompositionexclusion", "gc", "gcb", "generalcategory", "graphemebase",
    "graphemeclusterbreak", "graphemeextend", "graphemelink", "grbase", "grext", "grlink",
    "hangulsyllabletype", "hex", "hexdigit", "hst", "hyphen", "idc", "idcompatmathcontinue",
    "idcompatmathstart", "idcontinue", "ideo", "ideographic", "ids", "idsb", "idsbinaryoperator",
    "idst", "idstart", "idstrinaryoperator", "idsu", "idsunaryoperator", "incb",
    "indicconjunctbreak", "indicpositionalcategory", "indicsyllabiccategory", "inpc", "insc", "isc",
    "jamoshortname", "jg", "joinc", "joincontrol", "joininggroup", "joiningtype", "jsn", "jt",
    "kaccountingnumeric", "kcompatibilityvariant", "kiicore", "kirggsource", "kirghsource",
    "kirgjsource", "kirgkpsource", "kirgksource", "kirgmsource", "kirgssource", "kirgtsource",
    "kirguksource", "kirgusource", "kirgvsource", "kothernumeric", "kprimarynumeric", "krsunicode",
    "lb", "lc", "linebreak", "loe", "logicalorderexception", "lower", "lowercase",
    "lowercasemapping", "math", "mcm", "modifiercombiningmark", "na", "na1", "name", "namealias",
    "nchar", "nfcqc", "nfcquickcheck", "nfdqc", "nfdquickcheck", "nfkccasefold", "nfkccf", "nfkcqc",
    "nfkcquickcheck", "nfkcscf", "nfkcsimplecasefold", "nfkdqc", "nfkdquickcheck",
    "noncharactercodepoint", "nt", "numerictype", "numericvalue", "nv", "oalpha", "ocomment", "odi",
    "ogrext", "oidc", "oids", "olower", "omath", "otheralphabetic",
    "otherdefaultignorablecodepoint", "othergraphemeextend", "otheridcontinue", "otheridstart",
    "otherlowercase", "othermath", "otheruppercase", "oupper", "patsyn", "patternsyntax",
    "patternwhitespace", "patws", "pcm", "prependedconcatenationmark", "qmark", "quotationmark",
    "radical", "regionalindicator", "ri", "sb", "sc", "scf", "script", "scriptextensions", "scx",
    "sd", "sentencebreak", "sentenceterminal", "sfc", "simplecasefolding", "simplelowercasemapping",
    "simpletitlecasemapping", "simpleuppercasemapping", "slc", "softdotted", "space", "stc",
    "sterm", "suc", "tc", "term", "terminalpunctuation", "titlecasemapping", "uc", "uideo",
    "unicode1name", "unicoderadicalstroke", "unifiedideograph", "upper", "uppercase",
    "uppercasemapping", "urs", "variationselector", "verticalorientation", "vo", "vs", "wb",
    "whitespace", "wordbreak", "wspace", "xidc", "xidcontinue", "xids", "xidstart", "xonfc",
    "xonfd", "xonfkc", "xonfkd"]

/-! ## Looking names up -/

/-- What comes of looking a name up. -/
inductive Found where
  /-- The characters that are meant. -/
  | known (formula : Formula)
  /-- There is no such property. -/
  | unknown
  /-- There is the property, but it has no such value. -/
  | unknownValue

/-- What a value means in a list of values with their names. -/
def pick? {α : Type} (values : List (List String × α)) (name : String) : Option α :=
  (values.find? (fun (names, _) => names.contains name)).map (·.2)

/-- A class, or an unknown value. -/
def Found.ofValue : Option Formula → Found
  | some formula => .known formula
  | none => .unknownValue

/-- The characters of a general category. -/
def findCategory (name : String) : Found := .ofValue ((pick? categories name).getD none)

/-- The characters of a script. -/
def findScript (name : String) : Found := .ofValue ((pick? scripts name).map .table)

/-- The characters that are used with a script. -/
def findUses (name : String) : Found :=
  match scripts.find? (fun (names, _) => names.contains name) with
  | some (short :: _, members) => .known (usedWith short members)
  | _ => .unknownValue

/-- Looks up a name that stands alone.  Three names of categories win over properties that are
called the same. -/
def find (name : List Char) : Found :=
  let name := loosen name
  let isCategory := (pick? categories name).isSome
  if propertyNames.contains name && !(["cf", "sc", "lc"].contains name) then
    match pick? plainProperties name with
    | some formula => .known formula
    | none => .unknown
  else if isCategory then findCategory name
  else if (pick? scripts name).isSome || emptyScripts.contains name then findScript name
  else .unknown

/-- Looks up the value of a property. -/
def findValue (property value : List Char) : Found :=
  let value := loosen value
  match loosen property with
  | "gc" | "generalcategory" => findCategory value
  | "sc" | "script" => findScript value
  | "scx" | "scriptextensions" => findUses value
  | "age" => .ofValue (since? value)
  | "gcb" | "graphemeclusterbreak" => .ofValue (pick? clusterBreaks value)
  | "wb" | "wordbreak" => .ofValue (pick? wordBreaks value)
  | "sb" | "sentencebreak" => .ofValue (pick? sentenceBreaks value)
  | property => if propertyNames.contains property then .unknownValue else .unknown

end Runbook.Pattern.Property
