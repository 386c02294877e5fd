import Courier.Unicode.Category

/-! Properties that a character has or has not. Those that follow the categories are kept as what
sets them apart from these. -/
namespace Courier.Unicode

def alphabeticChange : List String :=
  ["alh9tSguhhhihihhCorBwthnwhDlnkkiikhBjh-wDmrDlijphjhkDqhB8sjnm0B2iivhiljqi9jB6niiiiqhqi9jB6lk",
    "iiikh-ijhrjB6ohjhi1i2jkjB6niiiipiqi-hB7ljjhjqhBolB5nhjhjoiri9jB6nhjhjoirivhskB6nhjhjqhqi9jCr",
    "mhhhoyiB9hinyhDjhimhiwhFjzprhBkDushhik3kkjhjinjktshhqkBT0i-i-i-iCizF8iBihD2skpG-lB5qi0CqirjB",
    "xlBwvB8j-piiB5rByzM8BiBWhB0CH2BgeD0oBiiLihoh3lC4iBywhhB5hBml8sBtkBwsBlhCjushoiBtjByhhjiilhBs",
    "llhHtoTZzhCC3lBUmjhilkY0kChhKhiCtjIjjB1uBtirjBtpphB9jBksyiB5jBwtuiC8pihmhihE9q3kB6niiiiqhqiC",
    "0phhihhkhiDnthjDqyHtnin9iCyvhhDqrDnuIhtH3mhiiijhhhEunimkh8qBqlhkyrBuuGooGnohnCz2huD6mjhhihjh",
    "hjhCilhihkK8kpihhBwnjjQO9xDRghhB3nkC9iTFshIbhnhxinhihlDkhBSzhihnilhSxhBfo6m6m6"]

def lowercaseChange : List String :=
  ["FqhvhP1pni-lDghB0hDMhhDBvB+thBiBlVxhthwtGzwaw6BcyieQ-iGyhEgkjibikphXA2hijhBqhpBWD1B-"]

def uppercaseChange : List String :=
  ["ILgwam6DTDg6m6m6"]

def idStartChange : List String :=
  ["GEliCExh1hDIghTri"]

def idContinueChange : List String :=
  ["F3hWvhDfhpBTohBRxiEHthBTTph"]

def xidStartChange : List String :=
  ["b6hCV4hD+hIPniBSehmM2iD0hhhhhhhhhhhhhhhI+i"]

def xidContinueChange : List String :=
  ["b6hLJgiBSehmM2iD0hhhhhhhhhhhhhhh"]

def graphemeExtendChange : List String :=
  ["CN-h4hLmh4hDmh4hHohhhkihipiDnh4hD3hvhCJ1h-hBAghlhhhliDlhCniBA4hEBhieJjhDshVO9iERghD0hIohuhph",
    "DghphihhjlhHghshHxhImhT5hshBQjhUFuiYLzimmYLVtDg"]

def mathChange : List String :=
  ["C-hbxjih6iiiHBgh7jrhBgk4iuiChtkhjiklyhkhiqhhjlmhjiiihjhmjkllCrlikhihihhhliikikyiihhhnhhmiJik",
    "Foihh4hxhN9ispllliiijluhhhim4iB5hhh9kpiK2i+qMz2B+kBgiBVDjhhhkhGzhhhBVGhC1hCnhiihiiikhshhhnhC",
    "hhkiohnh8hkhlhhjnhK0i5h5h+h5h+h5h+h5h+h5hoiByFQgkh7hihhihhqhkhhhhmhkhhhhhhjhihhihhhhhhhhhhih",
    "hikhnhkhkhhhqhxljhlhx"]

/-- The characters of a base set, save for a change that adds those outside of it and takes those
inside. -/
def changed (base : CharSet) (change : List String) : CharSet :=
  base.symmDiff (ranges 0 (unpack change))

def letterKinds : List Nat := [0, 1, 2, 3, 4, 9]

def alphabetic : CharSet := changed (ofCategories letterKinds) alphabeticChange
def lowercase : CharSet := changed (ofCategories [1]) lowercaseChange
def uppercase : CharSet := changed (ofCategories [0]) uppercaseChange
def decimalDigits : CharSet := ofCategories [8]

def idStart : CharSet := changed (ofCategories letterKinds) idStartChange

def idContinue : CharSet :=
  changed (idStart.union (ofCategories [5, 6, 8, 11])) idContinueChange

/-- Properties kept as they are, by their names. -/
def plainProperties : List (List String × List String) :=
  [(["whitespace", "wspace", "space"],
      ["plyhDkh6hFO+hCL+r9ilhBvhDdgh"]),
    (["emoji"],
      ["BjhmhlqDvhkhHcthshG4h2hC6mviLvishFmh5rkjGnhHniqhphB6khlphihiiihkhihhiihjhjiojlhhhlsriihhihhy",
        "hiiymhhhijilhiikiriliihlihhhi0ilmhkihkhihimhhihhhhhmhjhmhqivhihkhhhkjhhriBwjphuhuhL0iOvjziBz",
        "hkhBG6hshS5hhhDPLqhGqhFgisiuhiqCr6hi3h0hip1iFuBiiDwiihjiCzijhInhB+rmh4niioshikihkitiihoiphlj",
        "sjojihhhkhmhjhmC2BwCmloikjqjhhijhiqHjskhI7BvhqhF5DwtjrjB5hhkwiskq"]),
    (["emojipresentation", "epres"],
      ["IY6iGtkjhihQpi1iBysBrhzhthoixiliohlh1hnihhkhihnhki8hBjhhhkjhhB9j4huha7iBzhkhDRFuhGqhF-hiqCr6",
        "hh4h0hilhj1iFuBhsphCmh2sBrklsxjhjCnhhhF7iB+tkh4yh6ithC2C1BwCmmhjjikjkrinpHjskhI7BvhqhF5Dwtjr",
        "jB5hhkwiskq"]),
    (["emojimodifier", "emod"],
      ["Dcf7l"]),
    (["emojimodifierbase", "ebase"],
      ["JQ9hG7hwkDTD3hB8jihijD1iir1zjhkjhjnhhh4hGpikh1hkiFujjlCzhwjphrhR+hihoomhpqijB4hB9ihihhxjhtHl",
        "jBqp"]),
    (["emojicomponent", "ecomp"],
      ["BjhmhlqHezhG1hBXJrhBce26P7lBNwkYBTsDg"]),
    (["extendedpictographic", "extpict"],
      ["FphkhHcthshG4h2hC6mviLvishFmh5rkjGnhHniqhphB6khlphihiiihkhihhiihjhjiojlhhhlsriihhihhyhiiymhh",
        "hijilhiikiriliihlihhhi0ilmhkihkhihimhhihhhhhmhjhmhqivhihkhhhkjhhriBwjphuhuhL0iOvjziBzhkhBG6h",
        "shS5hhhDPLqhBnkDksvivhuiBlqDwisiuhiqzB47vqh0hiphkp3mF8iDwiihjiCzijhklH-hB+rmh4niioshikihkiti",
        "ihoiphljsjojihhhkhmhjhmC2BwCmloixjhhmitG6BmskB4oqmBoo-iskiupBnsBvhqhF5C4ouEyIgf-"]),
    (["asciihexdigit", "ahex"],
      ["Bwqnm6m"]),
    (["hexdigit", "hex"],
      ["Bwqnm6mBfVpqnm6m"]),
    (["dash"],
      ["BthBK8hBzhDShhBAlhCApmB9hBnhvhMmhDAkhih+ikh8hN-hzhDvhBTMwiBlhqhFphDTghJ-h"]),
    (["ideographic", "ideo"],
      ["MAmi5pujelGOgCgUQgWIgLuiDqdIqhtlpHG2BpBgDhDzIb9MsTIkBJXgBgEI-iFUuiHJxvTuCNiQ-BPiEarlIJq"]),
    (["diacritic", "dia"],
      ["C-hhhCnhmhkhiiP3E+holmxikhpiH9lGxhB3BthhhihihhEjokiEmikijjCj7C7rB6rBiiD-oBpqw8B9hwhjk8hCqhwh",
        "DuhwhDuhwhBvjB8hwhnhD3hDuhwhDuhwhDtiwhD8hDvhsmhhDrhtlCri7hhhhhkiCijhiB-hDwhhiBoikl5nhhqiWhjd",
        "0i-hE0rphK7jJkh0oihBwvirjvisCohvhBmpB2iB6hriCiiCgmCy5khmhijByB+BwBklsBlrN9hhjrjtjtjtiDHwjJ9h",
        "P6mDpkC+hdLyhsihh8iCyiuBiDmjDmhmishBlhE3h7yB5kBkhC+hshBkhE1jChkBzhDklpjEgiTZwhYhwIuhhhBvhBti",
        "CjhX8hBE+mhBqhpT9jkhFliR7mBmh6lMshijCmrBxkGghBphCoiD4iB-hCshpjDoiFyiCwiwh4njlC5jhitiC+hjhD7i",
        "H7iD-hD2iDzhItiIiikhE8hCzhyhCxhNlhIihhiCxhChhLni3hFHsvLG5hCOglB7nR0iRixCwiPf-khnhiHYhBui3Rgj",
        "jmooin-kDUiB-GinL3hB9kX-iXgnDtjhj"]),
    (["extender", "ext"],
      ["F3hQ4ibuhN5hT2hEphC5hXwhD+hCKjhB4hTjhMuhCkhEcphBrlDniC9jbY2hBP2heih2hEphDsh1iVD7hCAwiBOrh7hk",
        "hBGnhJlhD0iPyjBGvhaghTLoiBE8ihhuicKoiBFxha0j"]),
    (["quotationmark", "qmark"],
      ["BihkhEjhvhHa8o5iDQnhOpktjBTRhkF9hkhC6i"]),
    (["terminalpunctuation", "term"],
      ["BhhqhhhrijhZ-hohQhhB5hCohuhhjF0hBrrhhHriB2mho+hIliBH0iFshkmJ3iY1oYlhD8jCniE9jjhBnkiiJ6iLikFi",
        "iqihj9jF7lB-idkh3ipjDFvjJyhthkhqhhijiNsidH7iItjHjlL-iC2iC+hE3jEzjD+hwiH5hURmhiiB5jhkFphqhhhr",
        "ijhChhihBB6hBwhBEmhGnhJ2iE4mCkmC5kd4lBskF9nDwkD+jEhimhwiC4lDshJqiD1jsiLmkjvDpiH5jQlhhhH7iC3i",
        "kiM-jBthUliCqiBJrlRP5iElhChjqhRpiJniTQmhHPnk"]),
    (["sentenceterminal", "sterm"],
      ["BhhshwhBKphEzjF0hBrjH2hB9hhhjiJliBXkiY2hkiYlhGmiE9iBthlhJ6iLikFiiqiii9jF7iChidkh3ipjDFvjJyht",
        "h2iNthdH8hIuiHjhjhL-iC2iC+hE4iEzjEwiH5hURmhiiB7hjiFphshwhChhCX0iBH9lBskF9iD1kD+jEhimhwiC4ihi",
        "DshJqiD1iL1ilvDpiH5jQlhhhH7iC3iNkiV0iCqiSZpiElhChirhRpiJohTQmhHPoh"]),
    (["unifiedideograph", "uideo"],
      ["NAgGOgCgUQgWQuihhhiqhhhhiijCBO2BJXgBgEI-iFUuiHJxvTuENiEarlIJq"]),
    (["noncharactercodepoint", "nchar"],
      ["BfOwBgQuiBff-iBff-iBff-iBff-iBff-iBff-iBff-iBff-iBff-iBff-iBff-iBff-iBff-iBff-iBff-iBff-i"]),
    (["variationselector", "vs"],
      ["GArjhhBZPwwaAXwHw"]),
    (["joincontrol", "joinc"],
      ["IAsi"]),
    (["regionalindicator", "ri"],
      ["DcPm6"]),
    (["bidicontrol", "bidic"],
      ["BQ8hGPxi6lB3k"]),
    (["defaultignorablecodepoint", "di"],
      ["FthVhhWshCaiiBSziC1lBf7l6lBxwEH0hBTE7wHvhFghCvpBPFnkFGvoYLUlEAg"]),
    (["deprecated", "dep"],
      ["KphBJphCIjhhhCBpiCGlmV5ibXG2h"]),
    (["idsbinaryoperator", "idsb"],
      ["LfwiiqPxh"]),
    (["idstrinaryoperator", "idst"],
      ["Lfyi"]),
    (["logicalorderexception", "loe"],
      ["DSglD7lCXwjihBEH6iihhi"]),
    (["patternsyntax", "patsyn"],
      ["Bhvqn6khh6kBinhhhihhhikhkhjh3h+hHY44ovizhqJxWwFgT2-BDsQgEgMhjk5vhBTItiIli"]),
    (["patternwhitespace", "patws"],
      ["plyhDkhHcoi4i"]),
    (["radical"],
      ["LUg6hC5sG2"]),
    (["softdotted", "sd"],
      ["DpiGkhI5h-hB0h0hKghDihhhGIphBzhthjhEkhE9hNlhG2iCZyhDJdliByiByiByiByiByiByiByiByiByiByiByiByi",
        "CEmhJxi6h"])]

def plain? (name : String) : Option CharSet :=
  (plainProperties.find? fun (names, _) => names.contains name).map fun (_, table) =>
    ranges 0 (unpack table)

def blanks : CharSet := (plain? "whitespace").getD []

/-- Characters of words: letters and what goes with them, marks, digits, connectors, joiners. -/
def wordCharacters : CharSet :=
  CharSet.normalize (alphabetic ++ ofCategories [5, 6, 7, 8, 11] ++ (plain? "joincontrol").getD [])

def property? (name : String) : Option CharSet :=
  if ["alphabetic", "alpha"].contains name then some alphabetic
  else if ["lowercase", "lower"].contains name then some lowercase
  else if ["uppercase", "upper"].contains name then some uppercase
  else if name == "cased" then some ((lowercase.union uppercase).union (ofCategories [2]))
  else if ["idstart", "ids"].contains name then some idStart
  else if ["idcontinue", "idc"].contains name then some idContinue
  else if ["xidstart", "xids"].contains name then some (changed idStart xidStartChange)
  else if ["xidcontinue", "xidc"].contains name then some (changed idContinue xidContinueChange)
  else if ["graphemeextend", "grext"].contains name then
    some (changed (ofCategories [5, 7]) graphemeExtendChange)
  else if name == "math" then some (changed (ofCategories [18]) mathChange)
  else plain? name

end Courier.Unicode
