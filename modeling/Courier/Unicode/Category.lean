import Courier.Unicode.Table

/-! The general categories of characters. -/
namespace Courier.Unicode

/-- Short and long names of the categories, in the order of their numbers in the table. -/
def categoryNames : List (String × String) :=
  [("lu", "uppercaseletter"), ("ll", "lowercaseletter"), ("lt", "titlecaseletter"),
    ("lm", "modifierletter"), ("lo", "otherletter"), ("mn", "nonspacingmark"),
    ("mc", "spacingmark"), ("me", "enclosingmark"), ("nd", "decimalnumber"),
    ("nl", "letternumber"), ("no", "othernumber"), ("pc", "connectorpunctuation"),
    ("pd", "dashpunctuation"), ("ps", "openpunctuation"), ("pe", "closepunctuation"),
    ("pi", "initialpunctuation"), ("pf", "finalpunctuation"), ("po", "otherpunctuation"),
    ("sm", "mathsymbol"), ("sc", "currencysymbol"), ("sk", "modifiersymbol"),
    ("so", "othersymbol"), ("zs", "spaceseparator"), ("zl", "lineseparator"),
    ("zp", "paragraphseparator"), ("cc", "control"), ("cf", "format"), ("cs", "surrogate"),
    ("co", "privateuse"), ("cn", "unassigned")]

/-- Names of groups of categories, with the numbers of their members. -/
def categoryGroups : List (List String × List Nat) :=
  [(["lc", "casedletter"], [0, 1, 2]), (["l", "letter"], [0, 1, 2, 3, 4]),
    (["m", "mark", "combiningmark"], [5, 6, 7]), (["n", "number"], [8, 9, 10]),
    (["p", "punctuation", "punct"], [11, 12, 13, 14, 15, 16, 17]),
    (["s", "symbol"], [18, 19, 20, 21]), (["z", "separator"], [22, 23, 24]),
    (["c", "other"], [25, 26, 27, 28, 29]), (["digit"], [8]), (["cntrl"], [25])]

def categoryRuns : List String :=
  ["Bg5h2jxhzjxhthuhxhyhxhsixqoixjyix6ghthxhuh0hrh06hhthyhuhyBh5h2hxkzh1hxh0h1hkhvhyh6h1h0h1hyiq",
    "h0hhixh0hqhkhwjqhx3ghyng4hhyohhghhhghhhghhhghhhghhhghhhghhhghhhghhhghhhghhhghhhghhhghhhghhhg",
    "hhhghhhghhhghhhghhhghhhghhhghhhghhhghhhghhhghhhgihhghhhghhhghhhghhhghhhghhhghhhgihhghhhghhhg",
    "hhhghhhghhhghhhghhhghhhghhhghhhghhhghhhghhhghhhghhhghhhghhhghhhghhhghhhghhhghhhghhighhhghhhg",
    "jhighhhghhighhjgihkghhighhjgjhighhighhhghhhghhighhhgihhghhighhjghhhghhigihhkhgjhkkhghihhhghi",
    "hhhghihhhghhhghhhghhhghhhghhhghhhghhhgihhghhhghhhghhhghhhghhhghhhghhhghhhgihhghihhhghhjghhhg",
    "hhhghhhghhhghhhghhhghhhghhhghhhghhhghhhghhhghhhghhhghhhghhhghhhghhhghhhghhhghhhghhhghhhghhhg",
    "hhhghhhghhhghhhghhhgnhighhigihhghhkghhhghhhghhhghhhgClhik6hyjk0sju0ljn0hjh0hjx0Dwlhghhhghhhj",
    "h0hghhi9hjjhhxhgk9i0hghxjgh9hgh9ighhxgh9pgBjhhgihjgjhhghhhghhhghhhghhhghhhghhhghhhghhhghhhgh",
    "hhghhhglhhghhhyhghhigihBzgBwhhghhhghhhghhhghhhghhhghhhghhhghhhghhhghhhghhhghhhghhhghhhghhhgh",
    "hhghhh1llinhghhhghhhghhhghhhghhhghhhghhhghhhghhhghhhghhhghhhghhhghhhghhhghhhghhhghhhghhhghhh",
    "ghhhghhhghhhghhhghhhghhhghhighhhghhhghhhghhhghhhghhhgihhghhhghhhghhhghhhghhhghhhghhhghhhghhh",
    "ghhhghhhghhhghhhghhhghhhghhhghhhghhhghhhghhhghhhghhhghhhghhhghhhghhhghhhghhhghhhghhhghhhghhh",
    "ghhhghhhghhhghhhghhhghhhghhhghhhghhhghhhghhhghhhghhhghhhghhhghhh9Bmgi9hjmxBphhxhsi9i1hzh9Btl",
    "hshlhxilhxilhxhlo97kk9kkixr9m6jyixhzixi1rlhxh6jxBgkhjqk1lqokxikhlDjkhxhknlh6h1mlijilh1klikqo",
    "jki1hkuxh9h6hkhl-k7li9C5krlhku9qoBhkplijh1jxhji9hliz2kklhjplhjjlhjlli9vxh95kjli9hxh9rkl94kh0",
    "nki6l9plBpkhj4lh6BglhmB2khlhmhlhkjmolkmhlimhknlqkilixqohxhjvkhlimh9oki9iki92kh9nkh9hkj9kki9h",
    "lhkjmkli9imi9imhlhko9hmk9ikh9jkili9qoikizmqh1hzhkhxhli9ilhmh9mkk9iki92kh9nkh9ikh9ikh9iki9hlh",
    "9jmilk9ili9jlj9hln9kkh9hkn9qoiljkhlhxq9ilhmh9pkh9jkh92kh9nkh9ikh9lki9hlhkjmllh9ilhmh9imhli9h",
    "kv9ikili9qohxhzn9hkmlh9hlimh9oki9iki92kh9nkh9ikh9lki9hlhkhmhlhmkli9imi9imhln9ilhmk9ikh9jkili",
    "9qoh1hkmqq9hlhkh9mkj9jkh9kkj9ikh9hkh9ikj9ikj9jkj9skk9imhlimj9jmh9jmhli9hkm9hmu9qojqm1hzh1l9h",
    "ljmhlokh9jkh93kh9wki9hlhkjlkmh9jlh9kln9ilh9jkh9iki9ikili9qon9hxnqh1hkhlimhxokh9jkh93kh9qkh9l",
    "ki9hlhkhmhllmh9hlimh9imiln9iml9jkh9ikili9qoh9ikhms9ilimpkh9jkh9Bpkilhkjmklh9jmh9jmhlhkh1k9jk",
    "hmnqjkili9qopqh1mkh9hlimh9ykj94kh9pkh9hki9nkj9hlk9jmjlh9hlh9omm9qoi9imhxs9Bwkhliknlk9hzmkhjo",
    "lhxqoixBl9ikh9hkh9lkh94kh9hkh9qkhlikplhki9lkh9hjh9nlh9qoi9kkBg9hkj1vxh1hxj1ilm1qoqqh1hlh1hlh",
    "1hlhthuhthuimokh9Bkkk9ulhmllhxillkrlh9Bklh9o1hlm1h9i1lxk1ixBl9Brkimklhmmlhmilimilhkqomxmkimi",
    "lkkjlhkjmiknmjkkltkhlimilmmhlhkhmqojmhli1Bmgh9hgl9hgi9BrhhxhjjhKpkh9kki9nkh9hkh9kki9Bpkh9kki",
    "9Bhkh9kki9nkh9hkh9kki9vkh9B5kh9kki9Cjki9jlpx0qj9wkq1m9C2gi9mhi9hsTskh1hxxkh26khthuj9Crkjxjpo",
    "kn9ykjlhmp9zkilhmixp9ykils9tkh9jkh9ils9B0kilhmnlomhlimrljxhjjxhzhkhli9qom9qqm9mxhskxjlh6hlqo",
    "m9BjkhjB1kn9lkilBikhlhkl9Cmkq9+kh9jlkmiljmk9imhlmmjlk9h1j9ixqo-ki9lkr9Bskk96km9qohqj9Bi13kil",
    "imhli9ixB1khmhlhmnlh9hlhmhlimolmmqli9hlqom9qom9nxhjmxi9ulhn+li9sl09klhmBvkhlhmllhmhllmhlimok",
    "h9ixqonxq1plp1jxilhm-khmklimilhmjlikqoBskhlhmiljmhlhmjlimo9kxBkkomolimilj9lxqoj9jkqo-kmjixph",
    "hghhl9Brgi9jgoxo9jlhxtlhmnlkkhlmkhlikhmilhkl9BshB+jthhjBihBljCglhghhhghhhghhhghhhghhhghhhghh",
    "hghhhghhhghhhghhhghhhghhhghhhghhhghhhghhhghhhghhhghhhghhhghhhghhhghhhghhhghhhghhhghhhghhhghh",
    "hghhhghhhghhhghhhghhhghhhghhhghhhghhhghhhghhhghhhghhhghhhghhhghhhghhhghhhghhhghhhghhhghhhghh",
    "hghhhghhhghhhghhhghhhghhhghhhghhhghhhghhhghhhghhhghhhghhhghhhghhhghhhghhhghhhghhhghhhgphhghh",
    "hghhhghhhghhhghhhghhhghhhghhhghhhghhhghhhghhhghhhghhhghhhghhhghhhghhhghhhghhhghhhghhhghhhghh",
    "hghhhghhhghhhghhhghhhghhhghhhghhhghhhghhhghhhghhhghhhghhhghhhghhhghhhghhhghhhghhhghhhghhhghh",
    "hghhhgphogmhi9mgi9ohogohogmhi9mgi9ohh9hgh9hgh9hgh9hgohoguhi9ohoiohoiohoilhh9ihkghih0hhj0jhh9",
    "ihkghij0khi9ihkgh9j0ohlgj0i9jhh9ihkghii0h9r2l6msixhvhwhtivhwhthvoxh3h4l6h2pxhvhwkxirjxhyhthu",
    "rxhyhxhrqxh2l6h9q6hqhji9mqjyhthuhjqqjyhthuh9tjj9Bizu9tlknhljnslv9i1hgk1hgi1hhjgihjghhh1hgi1h",
    "ylgm1hgh1hgh1hgh1kgh1hhkghhkkhhi1ihiglyhgkhh1hyi1hhh1wqBjphghhkphqi1k9lyl1iyk1hyi1hyi1hyn1hy",
    "+1iyi1hyh1hy+1Isyo1hthuhthu01iyn1hthuCx1hy-15yBo1myCo129r119B8qCu12qF31hyp1hyB21oyDv1hyH41ht",
    "huhthuhthuhthuhthuhthuhthu-qBs1lyhthu+yhthuhthuhthuhthuhthuwyIg1Ejyhthuhthuhthuhthuhthuhthuh",
    "thuhthuhthuhthuhthuB+yhthuhthuBgyhthuIiyBw11yi1myBn1i9Eq1BwgBwhhghhjgihhghhhghhhghhkghhhgihh",
    "gmhijjghhhghhhghhhghhhghhhghhhghhhghhhghhhghhhghhhghhhghhhghhhghhhghhhghhhghhhghhhghhhghhhgh",
    "hhghhhghhhghhhghhhghhhghhhghhhghhhghhhghhhghhhghhhghhhghhhghhhghhhghhhghhhghhhghhhghhhghhhgh",
    "hhghhhghhhghhhghhhgihm1hghhhghhjlhghhl9kxhqixBmhh9hhl9hhi9B4kn9hjhxu9hl3kp9nkh9nkh9nkh9nkh9n",
    "kh9nkh9nkh9nkh9Bglixhvhwhvhwjxhvhwhxhvhwpxhsixhshxhvhwixhvhwhthuhthuhthuhthulxhjqxiskxhshxht",
    "txi1jxhthuhthuhthuhthuhsBi961h9C51s9G2169w1h2jxh1hjhkhphthuhthuhthuhthuhthui1hthuhthuhthuhth",
    "uhshtiuh1ppklimhslji1jphjhkhxi1h9C2ki9ili0ijhkhsC6khxjjhkl9Brkh9C-kh9i1kqq1BgkBm1p9h1wk+1h9q",
    "q-1oqh1vqBg1qqBn1vqKg1GOgkCg1UQ1khjBD3kj9B31p9BokmjixIskhjjxwkqoik09hghhhghhhghhhghhhghhhghh",
    "hghhhghhhghhhghhhghhhghhhghhhghhhghhhghhhghhhghhhghhhghhhghhhghhhghhhkhljnhxqlhxhjhghhhghhhg",
    "hhhghhhghhhghhhghhhghhhghhhghhhghhhghhhghhhghhijilCmkqpilmxo930pji0hghhhghhhghhhghhhghhhghhh",
    "gjhhghhhghhhghhhghhhghhhghhhghhhghhhghhhghhhghhhghhhghhhghhhghhhghhhghhhghhhghhhghhhghhhghhh",
    "ghhhghhhghhhghhhghhhghhhghhhghhhghhhjohhghhhghhighhhghhhghhhghhhghhhji0hghhhghhhkhghhhgjhhgh",
    "hhghhhghhhghhhghhhghhhghhhghhhghhhghhlghhlghhhghhhghhhghhhghhhghhhghhhghhkghhhghhighhhghhhgh",
    "hhghhhghhhghhhghhhghhhg09kjhghhhkijhhnkhljkhlkkhl3kimilhmk1hlj9mqi1hzh1m9B0kkxo9imBykwmilo9i",
    "xqom9ylmkjxhkhxikhlqo8kolix3krlimr9hx9kj9jlhmBvkhlimklimiljmtxh9hjqok9ixlkhlhjpkqolkh9Bpkmli",
    "milimilp9jkhlokhlhmi9qoi9kxwkhjmkj1hkhmhlhmBykhlhkjlikillkilhkhlhk49ikhjixrkhmilimixhkijhmhl",
    "q9mki9mki9mkp9nkh9nkh9Brhh0kjphhji0k9CwhBjkimhlimhlimhxhmhli9qom9Kdkks93kk9Bxkk9CAg7GIg8Luki",
    "9DqkBm9nhs9lhl9hkhlqkhytkh9lkh9hkh9ikh9ikh9Dskx0w1Lrkhuhtw1Cgki1B2ko1Bg9skhzj1wlnxhthuhxm9wl",
    "hxisirhthuhthuhthuhthuhthuhthuhthuhthuixhthukxjrjxh9kxhshthuhthuhthujxhyhsjyh9hxhzixk9lkh9En",
    "ki9h6h9jxhzjxhthuhxhyhxhsixqoixjyix6ghthxhuh0hrh06hhthyhuhyhthuhxhthuixqkhjBtkij+kj9mki9mki9",
    "mki9jkj9izhyh0h1izh9h1kyi1q9j6i1i9skh96kh9zkh9ikh9vki9ukBi9D7kl9jxk9Btqj9p1B1pkqx1iqj1h9t1j9",
    "h1Bv9Bt1hlEi99kj9Bxkv9hl7qk9Bgkkqp90khpokhpl9Bmklll9-kh9hxBkkk9okhxlpBq9BogBohCuki9qom9Bkgk9",
    "Bkhk9Boko9B0kr9hxrgh9vgh9ngh9igh9rhh9vhh9nhh9ihj9B0ks9J3kp92kq9ok49mjh9Bqjh9pjCl9mki9hkh9Bsk",
    "h9ikj9hki93kh9hxoq3ki1nq+ko9pqBw9zkh9ikl9lq2kmqj9hx6kl9hx6kBm9B4kk9iqikwqi9Buqhkjlh9ill9klkk",
    "h9jkh99ki9jlk9hlpqn9pxn99kiqhx9kjqBg9okh18kilk9lqnxp9B2kj9nx2ki9oqzkl9oqykn9kxs9nqCw9CpkB39B",
    "zgt9Bzhn9mqBkkklo9qom9qokkhjhk2gj9llhshj2ho9iyGw9+qh9Bqkh9ilhsi9ikw9jkhjiko9hxo1Bh9ml9kqqhko",
    "92krlkqlx29ykklkxBm91knq093kp9hmhlhmB1kvlnxk90qqohlikilhkp9jlhmBtkjmklimilixh6kxhlq9h6i95kn9",
    "qom9jlBkkllhmolh9qokxhkimhko9Bjkhlixhkp9ilhmBwkjmplimkkkxklhxhmhlqohkhxhkjxh90qr9ykh95kjmjli",
    "mhlhmilmxhlikhlB-9nkh9hkh9kkh9vkh9qkhxm9Bvkhljmoll9qom9ilimh9oki9iki92kh9nkh9ikh9lkh9ilhkimh",
    "lkmi9imi9jmi9hkm9hml9lkimi9nlj9llr9qkh9hki9hkh9Bmkh9hkjmmlh9hmi9hmh9kmh9imhlhmhlhkhlhkixh9ix",
    "o9il99B1kjmolimjlhmhlkklxqoixh9hxhljk-9Bwkjmmlhmhlkmilhmilikhxhko9qoFm9Bvkjmkli9kmilhmil3xkk",
    "ilBi9Bwkjmolimhlhmiljxhkr9qom9txz9Brkhlhmhlimmlhmhlhkhxm9qom90o897ki9hlhmhlimklhmllk9qoiqjxh",
    "1nkF59BskjmplhmilhxDk9BggBghqopqs9oki9hki9okh9ikh94kmmh9imi9ilhmhlhkhmhkhmhljxp9qoCm9oki9Bnk",
    "jmkli9ilkmhlhkhxhkhm79hkqlBokmlhmhkkloxhlo9hkmlimjlBuktlhmiljxhklxt9Cpkn9qxC29hlhmjlhmhlhmC4",
    "9Bhkhxu9qom9pkh9Blkhmnlh9mlhmhlhklxq9qozqj9ix-ki92lh9hmnlhmilhmilCp9nkh9ikh9Bmkmlj9hlh9ilh9n",
    "lhkhlo9qom9mkh9ikh9Bgklmh9ilh9imhlhmhlhkn9qom9Bpkhjikk9qoH29zkilimixn9ilhkhmtkh9Bikimllj9imh",
    "lhmhltxqohlC19hkv91qo1kzx1t9hxc6kDm9Dvph9lxr9GkkCSs9Dhkixt9BBwkw6hlmkvlq9Dc7kl9SnkGV59-ksljm",
    "jlqoBWm9R5kn9+kh9qok9ixCvkh9qom9-ki9llhxq9Bwknllxk1kjhxh1q9qoh9nqh91kl9zkNw9jjBokijjxqoGm9Bg",
    "gBgh3qkxl95gi95hBs9Crkk9hlhkB3mn9kltjCg9ijhxhjhlr9imijjpp9HG2kBp9BgkDh9DzkIP99kjh9njh9ijh9Jj",
    "kv9hk99jki9hku9kko9MskCIk9Drkl9tkj9pkn9qki9h1ilhxk6Da89Hw1qoj1j9N01m931v9w1hyv9Buli93lp9D01B",
    "89H21q9Bn1i9B81imjlj1mmo6oli1nl-1klB9119Ci1jlh1D690qs90qs9C31p95qEn96g6h6gnhh9yh6g6hhgh9igi9",
    "hgi9igi9kgh9ogkhh9hhh9nhh9rh6g6high9kgi9ogh9ngh96high9kgh9lgh9hgj9ngh96h6g6h6g6h6g6h6g6h6g6h",
    "6g8hi95ghy5hhymh5ghy5hhymh5ghy5hhymh5ghy5hhymh5ghy5hhymhhghhi9ByoQg1B3lk1Bylo1hlu1hli1lxv9ll",
    "h9vlBCw9qhhk0hm9mhG19nlh9xli9nlh9ilh9lll9B-jBh9hlDw9Btkj9nlnji9qok9hkh1Kg9-khlx9Bskklqol9hzO",
    "w97khjklqoG29-kilhkqok9hxGg9+kh9jkhlikhlnkillkhlo9hkhjHg9nkh9kkh9ikh9vkh9Glki9pqnlBp9BigBihn",
    "lhjk9qok9ixYx9B7qh1jqhzkqCs9Btqh1vqGi9kkh97kh9ikh9hki9hkh9qkh9kkh9hkh9hkm9hkk9hkh9hkh9hkh9jk",
    "h9ikh9hki9hkh9hkh9hkh9hkh9hkh9ikh9hki9kkh9nkh9kkh9kkh9hkh9qkh9xkl9jkh9lkh9xkB09iyIu9Bs1k9Dk1",
    "s9v1i9v1h9v1h9Bl1q9tqFh1B4991t9Bs1k9p1n9i1u9m1E69H71l0W51j9x1j9t1j9G61m9s1k9h1v9s1k9B41o9q1m",
    "9Bo1o9-1i9s1k9i1u9pyBn9K41o9u1i9t1j9r1j9B51h9h1k9w1i9s1k9q1n9Ez1h9C81qoh1BAl9BJXgkBg9EI-ki9F",
    "Uuki9HJxkv9TukCNi9Q-kBPi9Earkl9IJqkVScn9h6-9Dg6Eg9HwlBfQw9Bff-8i9Bff-8i9"]

def categoryTable : List (Nat × Nat × Nat) := runs 0 (unpack categoryRuns)

def ofCategories (kinds : List Nat) : CharSet :=
  CharSet.normalize (categoryTable.filterMap fun (kind, range) =>
    if kinds.contains kind then some range else none)

def category? (name : String) : Option CharSet :=
  if name == "any" then some [(0, CharSet.greatest)]
  else if name == "ascii" then some [(0, 0x7F)]
  else if name == "assigned" then some (ofCategories (List.range 29))
  else match categoryGroups.find? fun (names, _) => names.contains name with
    | some (_, kinds) => some (ofCategories kinds)
    | none =>
      match categoryNames.findIdx? fun (short, long) => name == short || name == long with
      | some kind => some (ofCategories [kind])
      | none => none

end Courier.Unicode
