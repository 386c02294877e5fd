import Courier.Unicode.Table

/-! The scripts of characters: the one that a character belongs to, and those that it is written in. -/
namespace Courier.Unicode

/-- Names of the scripts, in the order of their numbers in the table, which start at one. -/
def scriptNames : List (List String) :=
  [["adlm", "adlam"], ["aghb", "caucasianalbanian"], ["ahom"], ["arab", "arabic"],
    ["armi", "imperialaramaic"], ["armn", "armenian"], ["avst", "avestan"],
    ["bali", "balinese"], ["bamu", "bamum"], ["bass", "bassavah"], ["batk", "batak"],
    ["beng", "bengali"], ["berf", "beriaerfe"], ["bhks", "bhaiksuki"], ["bopo", "bopomofo"],
    ["brah", "brahmi"], ["brai", "braille"], ["bugi", "buginese"], ["buhd", "buhid"],
    ["cakm", "chakma"], ["cans", "canadianaboriginal"], ["cari", "carian"], ["cham"],
    ["cher", "cherokee"], ["chrs", "chorasmian"], ["cpmn", "cyprominoan"], ["cprt", "cypriot"],
    ["cyrl", "cyrillic"], ["deva", "devanagari"], ["diak", "divesakuru"], ["dogr", "dogra"],
    ["dsrt", "deseret"], ["dupl", "duployan"], ["egyp", "egyptianhieroglyphs"],
    ["elba", "elbasan"], ["elym", "elymaic"], ["ethi", "ethiopic"], ["gara", "garay"],
    ["geor", "georgian"], ["glag", "glagolitic"], ["gong", "gunjalagondi"],
    ["gonm", "masaramgondi"], ["goth", "gothic"], ["gran", "grantha"], ["grek", "greek"],
    ["gujr", "gujarati"], ["gukh", "gurungkhema"], ["guru", "gurmukhi"], ["hang", "hangul"],
    ["hani", "han"], ["hano", "hanunoo"], ["hatr", "hatran"], ["hebr", "hebrew"],
    ["hira", "hiragana"], ["hluw", "anatolianhieroglyphs"], ["hmng", "pahawhhmong"],
    ["hmnp", "nyiakengpuachuehmong"], ["hung", "oldhungarian"], ["ital", "olditalic"],
    ["java", "javanese"], ["kali", "kayahli"], ["kana", "katakana"], ["kawi"],
    ["khar", "kharoshthi"], ["khmr", "khmer"], ["khoj", "khojki"],
    ["kits", "khitansmallscript"], ["knda", "kannada"], ["krai", "kiratrai"],
    ["kthi", "kaithi"], ["lana", "taitham"], ["laoo", "lao"], ["latn", "latin"],
    ["lepc", "lepcha"], ["limb", "limbu"], ["lina", "lineara"], ["linb", "linearb"], ["lisu"],
    ["lyci", "lycian"], ["lydi", "lydian"], ["mahj", "mahajani"], ["maka", "makasar"],
    ["mand", "mandaic"], ["mani", "manichaean"], ["marc", "marchen"], ["medf", "medefaidrin"],
    ["mend", "mendekikakui"], ["merc", "meroiticcursive"], ["mero", "meroitichieroglyphs"],
    ["mlym", "malayalam"], ["modi"], ["mong", "mongolian"], ["mroo", "mro"],
    ["mtei", "meeteimayek"], ["mult", "multani"], ["mymr", "myanmar"], ["nagm", "nagmundari"],
    ["nand", "nandinagari"], ["narb", "oldnortharabian"], ["nbat", "nabataean"], ["newa"],
    ["nkoo", "nko"], ["nshu", "nushu"], ["ogam", "ogham"], ["olck", "olchiki"],
    ["onao", "olonal"], ["orkh", "oldturkic"], ["orya", "oriya"], ["osge", "osage"],
    ["osma", "osmanya"], ["ougr", "olduyghur"], ["palm", "palmyrene"], ["pauc", "paucinhau"],
    ["perm", "oldpermic"], ["phag", "phagspa"], ["phli", "inscriptionalpahlavi"],
    ["phlp", "psalterpahlavi"], ["phnx", "phoenician"], ["plrd", "miao"],
    ["prti", "inscriptionalparthian"], ["qaac", "copt", "coptic"], ["rjng", "rejang"],
    ["rohg", "hanifirohingya"], ["runr", "runic"], ["samr", "samaritan"],
    ["sarb", "oldsoutharabian"], ["saur", "saurashtra"], ["sgnw", "signwriting"],
    ["shaw", "shavian"], ["shrd", "sharada"], ["sidd", "siddham"], ["sidt", "sidetic"],
    ["sind", "khudawadi"], ["sinh", "sinhala"], ["sogd", "sogdian"], ["sogo", "oldsogdian"],
    ["sora", "sorasompeng"], ["soyo", "soyombo"], ["sund", "sundanese"], ["sunu", "sunuwar"],
    ["sylo", "sylotinagri"], ["syrc", "syriac"], ["tagb", "tagbanwa"], ["takr", "takri"],
    ["tale", "taile"], ["talu", "newtailue"], ["taml", "tamil"], ["tang", "tangut"],
    ["tavt", "taiviet"], ["tayo", "taiyo"], ["telu", "telugu"], ["tfng", "tifinagh"],
    ["tglg", "tagalog"], ["thaa", "thaana"], ["thai"], ["tibt", "tibetan"], ["tirh", "tirhuta"],
    ["tnsa", "tangsa"], ["todr", "todhri"], ["tols", "tolongsiki"], ["toto"],
    ["tutg", "tulutigalari"], ["ugar", "ugaritic"], ["vaii", "vai"], ["vith", "vithkuqi"],
    ["wara", "warangciti"], ["wcho", "wancho"], ["xpeo", "oldpersian"], ["xsux", "cuneiform"],
    ["yezi", "yezidi"], ["yiii", "yi"], ["zanb", "zanabazarsquare"],
    ["zinh", "inherited", "qaai"], ["zyyy", "common"], ["zzzz", "unknown"]]

def scriptRuns : List String :=
  ["ChFu6CpmFu6CpBvFuhCpvFuhCplFu3CphFu+CphFuOhCpBnFulCplFuiv0FuDwFtkBthFujBtiFvkBthFuhBtkFvhBth",
    "FuhBthFujBthFvhBthFv0BthFvB+BtuD5wBtEl8iFtFp8hFvBmmiFvBymiFvjmhFvB3B1oFv7B1kFvmB1rFvlkhFumkh",
    "FuukhFujkhFuBgkhFuqkrFt6khFtDskhFuBikuEuhFvB8EuiFvjEuBwkByE6uFvB7DmiFvjDmBuD9iFvvD9hFv8CziFv",
    "hCzhFvrEulFvBiklFvCrkhFu9kCx9kFtv9iFu69kshFvosiFvisiFv2shFvnshFvhsjFvksiFvpsiFvisiFvksoFvhsk",
    "FvishFvlsiFv5siFvjBwhFvmBwkFviBwiFv2BwhFvnBwhFviBwhFviBwhFviBwiFvhBwhFvlBwkFviBwiFvjBwjFvhBw",
    "nFvkBwhFvhBwnFvxBwqFvjBuhFvpBuhFvjBuhFv2BuhFvnBuhFviBuhFvlBuiFvqBuhFvjBuhFvjBuiFvhBuvFvkBuiF",
    "vsBunFvnBuhFvjDshFvoDsiFviDsiFv2DshFvnDshFviDshFvlDsiFvpDsiFviDsiFvjDsnFvjDskFviDshFvlDsiFvy",
    "DsqFviEzhFvmEzjFvjEzhFvkEzjFviEzhFvhEzhFviEzjFviEzjFvjEzjFvsEzkFvlEzjFvjEzhFvkEziFvhEzmFvhEz",
    "uFv1EzlFvtE3hFvjE3hFv3E3hFvwE3iFvpE3hFvjE3hFvkE3nFviE3hFvjE3hFviE3iFvkE3iFvqE3nFvpE3tCkhFvjC",
    "khFv3CkhFvqCkhFvlCkiFvpCkhFvjCkhFvkCknFviCklFvjCkhFvkCkiFvqCkhFvjCksFvtC6hFvjC6hFvBzC6hFvjC6",
    "hFvmC6kFvwC6iFv6C6hFvjEmhFvyEmjFv4EmhFvpEmhFvhEmiFvnEmjFvhEmkFvmEmhFvhEmhFvoEmmFvqEmiFvjEmsF",
    "vB6E7kFvhFu8E7BlFviCohFvhCohFvlCohFv4CohFvhCohFv3CoiFvlCohFvhCohFvnCohFvqCoiFvkCoBgFvCoE8hFv",
    "BkE8kFvBnE8hFvBkE8hFvvE8hFvnE8kFuiE8BlFvFgDgBmBnhFvhBnlFvhBniFvBrBnhFukBnIgBxCpBlhFvkBliFvnB",
    "lhFvhBlhFvkBliFvBpBlhFvkBliFvBhBlhFvkBliFvnBlhFvhBlhFvkBliFvvBlhFvB5BlhFvkBliFvCjBliFvBgBljF",
    "v6BlmFvC24iFvm4iFvUg19DojFvCrD8jFurD8nFv2E5pFvhE51BziFupFv0zsFvtEvhFvjEvhFviEvsFvC-ChiFvqChm",
    "FvqChmFviC8iFuhC8hFu0C8mFvC5C8nFvBrC8lFvCm1qFv+CrhFvsCrkFvsCrkFvhCrjFvsCr-ExiFvlExrFvBsEykFv",
    "6EymFvrEyjFviEyBgCh8yiFviyB+CnhFv9CniFvrCnmFvqCnmFvuCniFvBuFtiFvsFt0FvCtohFvByoCgErB0roFvkrB",
    "4CqjFvvCqjFvjCqBwDpr8lFvBrBniFvjBnoEroFvjFthFutFthFunFtkFuhFtmFuhFtjFuiFthFulFvBmCplBth8BxCp",
    "lBtkCplBttCph8CmCphBtCgFtIgCp2BtiFvmBtiFvBmBtiFvmBtiFvoBthFvhBthFvhBthFvhBthFv+BtiFvB1BthFvv",
    "BthFvuBtiFvmBthFvzBtiFvjBthFvpBthFvsFuiFtC3FuhFvrFuhCpiFvrFuhCpvFuhFvtCpjFvBiFuuFvBhFtvFvBmF",
    "uhBtjFuiCpmFuhCp7FuhCpxFuBpCpjFukFvU6Fu2FvrFu1FvdgFuIgxT0FuiFvEqFuDgBoBgCpD0D5lFvnD5BmBnhFvh",
    "BnlFvhBniFvB4E4nFviE4uFvhE43BlpFvnBlhFvnBlhFvnBlhFvnBlhFvnBlhFvnBlhFvnBlhFvnBlhFvBg8C-FuBiFv",
    "6ByhFvC5BysFvG2By6Fv1FuhByhFuhBy5FupBykFtiBxoFukBykFuhFvC2B2iFviFtiFujB2hFuC6B-iFujB-lFvBrvh",
    "FvC-BxhFvwFuBgvBmFupFvhFuwB-+BxhFvCgFu+BxCxFuBvB-hFuC4B-FoFuGOgByCgFuUQgByBEtFrjFvB3FrpFvBwC",
    "uJsFk0FvDg8C4poFvBiFuDmCpjFuCyCp0FvvCpBtEtjFvqFumFvB4DzoFvCmD+oFvsD+mFvBg9BuB9hFuhB9BkD6rFvh",
    "D69BxjFvCuB8hFvhFuqB8kFviB8+DghFvB33pFvu3iFvq3iFvk3BgDgCjE14FvlE13C-qFvmBliFvmBliFvmBlpFvnBl",
    "hFvnBlhFvBrCphFupCphBtkCpiFukFvCw4BuC-iFvqC-mFvKdkBxsFv3BxkFvBxBxIIkFvLuByiFvDqByBmFvnCpsFvl",
    "mlFv6B1hFvlB1hFvhB1hFviB1hFviB1hFvqB1PukiFuEwkBgFvwkwFtqFumFvuFti8BjFuhFvzFuhFvkFukFvlkhFvEn",
    "kiFvhFuhFvBgFu6CpmFu6CprFuqB-hFuBtB-iFu+BxjFvmBxiFvmBxiFvmBxiFvjBxjFvnFuhFvnFuqFvlFuiFvsCthF",
    "v6CthFvzCthFviCthFvvCtiFvuCtBiFvD7CtlFvjFukFvBtFujFvpFuCvBthFvtFujFvhBtBvFvBtFuhFtEiFv9CvjFv",
    "Bx2vFvhFt7FukFvBkB7pFvjB77BrlFvBrDylFv-FjhFvhFjBkFokFvuFoBqFvCwBgBwEh-DuiFvqDumFvBkDtkFvBkDt",
    "kFvBoBjoFvB0irFvhirFlhFvvFlhFvnFlhFviFlhFvrFlhFvvFlhFvnFlhFviFljFvB0E+sFvJ3CspFv2CsqFvoCs4Fv",
    "mCphFvBqCphFvpCpClFvm7iFvh7hFvBs7hFvi7jFvh7iFvh72lhFvplBgDw+DkoFvpDkBwFvzB0hFviB0lFvlB08D2jF",
    "vhD26CwlFvhCw6EkBmFvBgC54C4kFv0C4iFvBuC4kCghFviCglFvoCghFvjCghFv9CgiFvjCgkFvqCgnFvpCgnFvBgD-",
    "BgDjBgFvBnC0kFvsC0pFvB2njFvnn2D4iFvoD4zD0lFvoD0yD1nFvkD1sFvnD1CwFvCpDrB3FvBzB6tFvBzB6nFvmB6B",
    "oD7oFvqD7mFvBmBmjFv9BmoFviBmGwFv+khFvBqFqhFvjFqiFviFqwFvmkoFvpkBhFvmkBoEooFvBqEn2Fv6DvBmFv85",
    "0Fv3BkpFvCuwkFvBkwpFvhwCjCmqFvhCmiFv5EpnFvqEpmFvB10hFvy0oFvBnCxpFvDgEihFv0EmrFvyCihFvBvCiB-F",
    "vnC+hFvhC+hFvkC+hFvvC+hFvrC+mFvB7EllFvqElmFvkBshFvoBsiFviBsiFv2BshFvnBshFviBshFvlBshFvhFtpBs",
    "iFviBsiFvjBsiFvhBsmFvhBslFvnBsiFvnBsjFvlBsrFvqFihFvhFiiFvhFihFvBmFihFvqFihFvhFiiFvhFihFvkFih",
    "FvqFihFviFioFviFi9FvC8DlhFvlDl-FvCoE9oFvqE9FmFvB2EjiFvBmEjBiFvClC7rFvqC7mFvtC8zFvB6EwmFvqEwm",
    "Fv0Dg8Fv7jiFvvjkFv3jF5FvB8+DkFvCzFmsFvhFmn-iFvh-iFvo-hFvi-hFv--hFvi-iFvs-pFvq-CmFvoDiiFvBuDi",
    "iFvrDi7FvCoFsoFvCzEqtFvw1B5DxnFvq9C2FvoEiC4FvBiEsuFvqEsmFvpuhFvBtuhFvuuqFv9ujFvBgC1iFv2C1hFv",
    "uC1CpFvnBqhFviBqhFvBsBqjFvhBqhFviBqhFvpBqoFvqBqmFvmBphFviBphFvBlBphFviBphFvmBpnFvqBpmFvBsFgk",
    "FvqFgH2Fv5CynFvxB+hFvBpB+jFv9B+C1FvhCuvFvByEztFvhEzc6FpDmFvDvFphFvlFprFvGkFpCSsFvDj6tFvBC2Bi",
    "qFvDc7BilFvSnB3GV5FvB6BvBWmFvR5pnFv+C9hFvqC9kFviC9CvE-hFvqE-mFv-qiFvmqqFvCmB4qFvqB4hFvnB4hFv",
    "1B4lFvzB4NwFvB6ClGmFvC7C2lFv5tiFv5tBsFvCrD3kFvB5D3nFvxD3CgFvhE0hDniByhCjrFvnBypFvGYgE0O2CjBp",
    "FvhCj+E0DhFvDzE0IP9FvkB-hFvnB-hFviB-hFvhB-I+B2jB-vFvhB29FvjB2iFvhB-uFvkB-oFvMsDnCIkFvDrBhlFv",
    "tBhjFvpBhnFvqBhiFvkBhkFuDa8FvH9FujFvN0FumFv3FuvFvxFuvFvBuFtiFv3FtpFvD0FuB8FvH2FuqFvBnFuiFvB-",
    "FujFtxFuoFtiFunFt-FukFtB9Fu1FvCmBtD6Fv0FusFv0FusFvC3FupFv5FuEnFvC1FuhFvCnFuhFviFuiFvhFuiFviF",
    "uiFvkFuhFvsFuhFvhFuhFvnFuhFvChFuhFvkFuiFvoFuhFvnFuhFv8FuhFvkFuhFvlFuhFvhFujFvnFuhFvK0FuiFvJk",
    "FuiFvByFuUsEgvFvlEghFvvEgBCwFv+CpmFvmCpG1FvnBohFvxBoiFvnBohFviBohFvlBolFvB-8BhFvh8DwFvBtB5jF",
    "vuB5iFvqB5kFviB5KgFv+FhxFvB6FnlFvhFnOwFvBqDhG2FvBrDqkFvhDqGgFv+E2hFv2E2oFviE2HgFvnBlhFvkBlhF",
    "viBlhFvvBlhFvGlC3iFvwC3BpFvCshkFvqhkFvihYxFvCkFuCsFvB9FuGiFvkkhFv7khFvikhFvhkiFvhkhFvqkhFvkk",
    "hFvhkhFvhkmFvhkkFvhkhFvhkhFvhkhFvjkhFvikhFvhkiFvhkhFvhkhFvhkhFvhkhFvhkhFvikhFvhkiFvkkhFvnkhF",
    "vkkhFvkkhFvhkhFvqkhFvxklFvjkhFvlkhFvxkB0FvikIuFvBsFukFvDkFusFvvFuiFvvFuhFvvFuhFvBlFuqFvFuFuB",
    "4Fv6FuhB2iFutFvBsFukFvpFunFviFuuFvmFuE6Fve5FujFvxFujFvtFujFvG6FumFvsFukFvhFuvFvsFukFvB4FuoFv",
    "qFumFvBoFuoFv-FuiFvsFukFviFuuFvpFuBnFvK4FuoFvuFuiFvtFujFvrFujFvB5FuhFvhFukFvwFuiFvsFukFvqFun",
    "FvEzFuhFvDnFuBAlFvBJXgByBgFvEI-ByiFvFUuByiFvHJxByvFvTuByCNiFvQ-ByBPiFvEarBylFvIJqByVScnFvhFu",
    "-FvDgFuEgFvHwFtFfQwFv"]

def scriptTable : List (Nat × Nat × Nat) := runs 0 (unpack scriptRuns)

/-- Characters that are written in other scripts than their own alone: runs of a length and the number
of a set of scripts, from one on. -/
def extensionRuns : List String :=
  ["F3ghhQkghiqghjhgjjhghkpghlhghjBmghmhnhohphqhrhshthuhvhwhxhyhzh0hghzh1hgh2vgh3h4h5ngh6h5hgh7h",
    "8wgh9igh9ygh-lgh+kgtBgkgiBhItghBihBjiBkhBjIhghBlEighBmughBmhBnighBoBgghBpqgrBqqgqBrmghBqDjgh",
    "BsT8ghBthBuxghBvhBwqBxD2gqByD2gqBzD2gqB0H2guB1HygqB2awgqB3FxghB4BPvgjB5CngiB6GrgiB7hghB7BGqg",
    "hB8hB9hB8hB-hB9hB+hCghChhCihCjhCkhB9iCjiB9hCjhClhCmmB9hCnhCohCphB9hCqkB9hCrhCshCtiClhCuiCshC",
    "vGlgi9B2ghCwhghCxR0ghCy+ghCzqghC0ighC1EyghC2DJmghC34ghC4hC5qghC6kghC7hghBjNsgwC8hghC9hC-hC+i",
    "ghDghgiDhiDimDjhghC+oDjkC+qgkDkighC+lDlhghC+kgiDmiDgC5gkDljghDlC6ghDjhDlEzgwDgBggBmDgpghC8Bw",
    "gBoDgB4gBxDgvgsDgBzghDgC4g5DgqglDgDgg+DgcTwghBjEwgoDnJogjDojDpiDqhDrhDqF3ghDshghDtB6ghDuFggh",
    "DvUbugiDwFyghDxqghDxCngiC+I6glDjqghDlBtgiDlLggiDyhDzkgBtD0jgpDzNgg8D1Bf2ghD2CAughB1hghB1B3gi",
    "B1DEzgiB1hghB1BHGsgkC6FV8gyDgHW-giDgeDNug"]

def extensionSets : List String :=
  ["wn2BhBjBnBoBpBrBtByCpCwCxDyD5Ehns89CpCuE7FhivCpiCpCuiCpE7o48BtCpDyD5EsExo48BtCpDtEsExE+k48Cp",
    "E4lBoCpEsEuE7ri48BrBtCpDtD5EuE4E+mBjBoBrB-CpD5l8BtCpDyE4pBhB1CpDyD5EuExE4E+rm8BhBrBtB1CpDyEu",
    "ExE4iCpE4jBhCpEuk48CpDtj4CpExiCpEsiBlCpj8CpE+kBtCpDyE+m4BhB-CpEuE4k4BhCpEuiCpEujCpEsEuj4CpEu",
    "ni4BrCpEsEuE7hBtiCpDtjiCpE+hCpiBtD5i8Dyi8Boi8CpjmBnBonkBmDmD7EuE6FqjkEuE6ohkBmDmD7EuE6FqphkC",
    "zC0DvD1D7EnEuikEujkE6FqikD7vs9BsBuBwCkCpC6DiDlDsEiEzE3E9ts9BsBuBwCkCpC6DlDsEzE3E91s9+BpBqBsB",
    "uBwCkCxC6DiDqDsElEmEtEwEzE3E93s9+BpBqBsBuBvBwCkCrCxC6DiDqDsElEmEtEwEzE3E9k9+CmCxjs0EtiBwC+iB",
    "uCiiBsEzjCkDiFij0DgExjBnBoCphD8kzBzEvE5iC8Dzks9BsCkh9j9BsCkls9DlE3E9js9E3j9DlEiks9DlE3i9Eim9",
    "CkC6DsEzE3is9j9DlE9j9DiDljs9Eii9Dlks9DlEirs9BsCkC6DiDsEmE3E9Fii9Bsk9BsCkFihshDij8CpEuhEujCpC",
    "8Dzihkm2BnBoB6CvDrk2BtB6C5j9BsCpiCpD5inDrnn2BnB6CmCwD9hBhjhkB6iByE0nvBxByB2B-C8FrovBxByB2B-C",
    "8DzFrlvBxByB2B-hByovBxByB2B-C8E8FrpvBxByB2B-CuC8E8FrmvBxByB2B-FrivByiB2B-jByB2B-iByCpw9+BuBw",
    "CiCkCmCxC6C7DiEiElEwE9Fiv9+BuBwCiCkCmCxC7DiEiElEwE9Fir9+BuBwCiCmCxC7ElEwE9s9+BuBwCiCmCxC7EiE",
    "lEwE9js9Fii9EzjB9CpDgiyB8ikDmikE6j67Cti7Ctj7CsCtikD5iC0Dv"]

def extensionTable : List (Nat × Nat × Nat) :=
  (runs 0 (unpack extensionRuns)).filter (·.1 != 0)

def scriptNumber? (name : String) : Option Nat :=
  (scriptNames.findIdx? fun names => names.contains name).map (· + 1)

def script? (name : String) : Option CharSet :=
  (scriptNumber? name).map fun number =>
    scriptTable.filterMap fun (kind, range) => if kind == number then some range else none

def scriptExtensions? (name : String) : Option CharSet := do
  let number ← scriptNumber? name
  let own ← script? name
  let sets := unpack extensionSets
  let numbers := ((groups sets.length sets).zipIdx 1).filterMap fun (set, i) =>
    if set.contains number then some i else none
  let shared := extensionTable.filterMap fun (kind, range) =>
    if numbers.contains kind then some range else none
  return (own.diff (extensionTable.map (·.2))).union shared

end Courier.Unicode
