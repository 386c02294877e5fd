import Courier.Unicode.Table

/-! The version of the character set that a character came with. -/
namespace Courier.Unicode

def versions : List String :=
  ["1.1", "2.0", "2.1", "3.0", "3.1", "3.2", "4.0", "4.1", "5.0", "5.1", "5.2", "6.0", "6.1", "6.2",
    "6.3", "7.0", "8.0", "9.0", "10.0", "11.0", "12.0", "12.1", "13.0", "14.0", "15.0", "15.1",
    "16.0", "17.0"]

/-- Runs of a length and the number of a version, from one on; characters that are not assigned have
zero. -/
def ageRuns : List String :=
  ["P2hkk-hokhmhnykjnroupC5hlkinBvhhkqhlkxnCmhpkhmonlojnihhktmkqihiqighhjphhhwkgnhhghhhg0hhgBshh",
    "qnhhkimhhhkhhhkhhhkhhhkyhilhmlnkohkshhkCihhkshhkBphhqikimkkB1himihimihimhp8hikohioihmpwmkpwq",
    "irisowhgBmhignhh0Bnhh0hhhkigiwhthgxihotiqhhpphhijoog7hkgh0lhrgknhthwlqhohhpnlqhhhvh4hohhhs6h",
    "lqzhjkjnmohsuhimCohiklhhkvhhk-hinqhlkhnukhg-kjn7kigjn-oyqBxkhmugB7pigj0Burigvrhg8sighshgrzlg",
    "+4h8i4lgh7o4hthwrtmwixh4oyq3r4h0vyhx7thwhrjhhnB1hisyhhrhslhhris5hiqlshwiriphoiphwjhhgohigihi",
    "g2hhgnhhghhjgkhighhhnnhigihigjhhooghhkgihhglhig1hhrizh0ighnhhhnhgmhkgihig2hhgnhhgihhgihhgihi",
    "ghhhglhkgihigjhjghqngkhhghhngvhhqh0qgjhhgnhhnhhhgjhhg2hhgnhhgihhglhigqhhgjhhgjhighhvghhjnigq",
    "hhthnnghxmzhgjhhgohigihig2hhgnhhgihhghnkhigohhqigihigjhngh3ihkgihhgjhiqigrhhnmsqgihhgmhjgjhh",
    "gkhjgihhghhhgihjgihjgjhjgohhojhkglhjgjhhgkhighqmghhughoshonlghwjhh0ohhgjhhg3hhgqhhwlhigh4hqn",
    "hhgjhhgkhngihhgiqhxhgh8h4igihiqigqhngh1oqhyhwihh0ohhgjhhg3hhgqhhglhiginnhhgjhhgkhngihlgh8h4h",
    "hhgihipigqhhgiph5sghzhwihh3ohhgjhhg3hhswhhsizhqmhhqhgjhhgkhhshykgjyhhnyhxihiqigqhmqjynqhgh3i",
    "khgykjg4khgpkhghkignkjghkkgmkhghkhgokmgqwigjksgB6hkg9hBlgihhghhhgh1ihh1hhhgh1hhm1khh1nhh1jhh",
    "ghhhghhi1ihh1thh1jhiglhhghhhgmhh5hgqhigihitBggCoihgBhihkiqkg7iksmihkhihg1ijknihkhijkhgvkhghq",
    "hkiojqkrisBlgBikhqlkhqikhqnkjqkkmq6kCgqkriqBmhhghtlghtigBnhimiohhhojtC6hlrCkhlrCyhmrnkhoB+kh",
    "ohkhgkkignkhghkhgkkigBnkhohkhgkkig+khohkhgkkignkhghkhgkkignkhonkhg3kho+khohkhgkkignkhoBnkhoz",
    "kigisio8kjg6omgC1khxigmxighrT2kpr9kjgCxkowngtmh4nmh4pgh43mpg0msgtmhgjmhgimsgC9khnigqkmgqnmgv",
    "kh4qkmgC4kh0ngBqkhqlgCmrqg9niwhgsnkgsnkghnjgBqniglnrgBqoirkg6omgqohrjgioBgn8oigioB+rhg9rigrr",
    "mgqrmgurigvwi3u4v8igs80gCsph4hgi7Btpi4h7BrqjtsqmtB0sogksB4qjgvqjgBzqpyi7lgBr0igj0otogBjrkthz",
    "iwh1lgDsnC4onp8qvwkzh4hyhshripE7hhikqC6hmq2higmhigBmhigmhigohhghhhghhhghhhg+higB1hhgvhhguhig",
    "mhhgzhigjhhgphhgBvhhk3hhmmklminiohmnolmhqhgkvnhhmig7hhgloosjgrhhihjjkimkojrhshujwhxhzh4h8ugy",
    "hiknmhokphqvgB5hikhnhovmhoiphqjrBwhhkhpkqhrixkgC7hpksmHyhumhhhkD5hhkhm-kB0minrosphrrsnwkyhzB",
    "lhikj72grh1gErh0mhnE2hqmCwhokom0hinimhohkC2hiksmioqmonrohqirinwohpqqjrkqqrhszrhshrks4rhwkhhs",
    "khis8hhsBjhhshhhskhjshhhrnhisnhum+hjs4hhsuhhsnokphthqhtis8mkqwmIgkQgmunmonplqkpBpqjwlqlr6wig",
    "Bgwh8h3Biwj0swh1owhz50kxv0h1Bvoh4Bvoh4tpjqhrjqkpmqirDronritlgBtohghtlghtigB2oitnghohsughs3op",
    "gnohgnohgnohgnohgnohgnohgnohgnohgBgq4okqiozqhrqtnwiylzl0h1j3r4Big6khgC5ksgG2k6gskk6B4hjkjmhk",
    "hhhgC0himigmhimC-hhmlgBohhqhzh0hgC-hhgwh4kjsl3wo0qi7pgh6wm9hinhgBkhsrhnvm8hinhoByhvmshknBvhh",
    "2D3hknDjhin+hhnGN2kq3CgnUNmh2ooqorhtpx1zl0t3j4BEtkjgykimwkhmskhmjkhmhkpgBwrJsq0gBgqisyqot8qm",
    "whxhtC4rog3okplqipDrqishxisitswqshtjwhyh0iwmxi0m1i4l1k3j7i8i4h8h4h8l4j70gh8j4i3hwithslqBsoh3",
    "jgqrmgB4pogClqhyogsqmg8rixi0C0qrghq9rjgCurhgrrkgir+whgB3qpguqigqqigkq8rkwCjr4glr3tqgmsigmsig",
    "mspgnshgnshgBwwkxiwi1k3kgCwxBurigqrmgKdkisg3rkgBxrkgCAgiGRuhitB7mjrigDqoBmgnhsglhlghk5hhglhh",
    "ghhhgihhgihhgDshwsh4w8Lthw4Cghi8B2hn8h4Bglshhmhni4wmqomgkhjqnwix1himinqhhgzhhgkhkgjhhmhhhgEn",
    "highhhgC-himC-hjgmhigmhigmhigjhjgnhhgnhqgjkhjjhsnhg6nhgznhginhgvnigunBigD7nlgjnkgBtnjgpnCroi",
    "wiyhgsqh3jghwBvgBuqEig9qjgBxqvg8wkg+lhwklpgjz7llgBrwlg-nhghnBkokguoBqgBmlinBmlCwnigqnmgBkykg",
    "BkykgBowogB0wrghwr4hgv4hgn4hgi4hgr4hgv4hgn4hgi4jgB07sgJ3wpg2wqgow4gm4hgBq4hgp4ClgmnighnhgBsn",
    "hginjghnighn2rhgprB+wogpwBwgzxhgixlglx6pirjghp6qlghq68BmgB4tkgixitwxigBuxkohgiolgoohgjohg7oi",
    "0igjokgpoh0ngpongBgrBgwBggBnwkgswpgB2rjg9rig7rlgorywngkwsgnwCwgCprB3gBzxtgBzxngmxBo0ogq0mgBm",
    "7jg97ogi7Gwg+rhgBq3hgj3igi3wgj7j8ogp8Bhgi8h7j5Bo0ogBq02g64Bmg830g31pgCuskg-sm4pghwCirh4qgh0i",
    "g5tngqtmgB1thgutj0h3ogBnwpgCptkxhwi3qthwlxhg0wrgywhgBrwhyj5B-gnxhghxhgkxhgvxhgrxmgB7wlgqwmgh",
    "xjwhgowigiwig2whgnwhgiwhglwhgh0pwigiwigjwighxmghwlgnwignwjglwrgq7hgh7igh7hgBm7hgq7hgh7igh7hg",
    "k7hgq7hgi7ogi79gC6yh3hyhghyh0h1i3-gCowogqwFmgB2wigyw0xBigClwrgqwmgtyzgB4th1h4mgqtmg078g6xh0i",
    "gvxkgwxn4F5gB80DkgCzwsghwn3igh3igo3hgi3hg-3hgi3igs3pgq3Cmgo1igBu1igr17gCozogB0zi13zh0lztgw4B",
    "5wngq5C2go8C4gBi7ugq7mgpyhgBtyhguyqg9yjgBgyig2yhguyCpgnzhgizhgBszjghzhgizhgpzogqzmgm0hgi0hgB",
    "l0hgi0hgm0ngq0mgBs8kgq8H2g50ngx5hgBp5jg85h7C1gh3vgBy1tgh1bvpBqwhxDmgDjpswhgkphwrgGkxCSsgDj4t",
    "gBBvrh5p195qgDc77lgSnxGV5gB67BWmgR5sng+whgqwkgiwCv4hgq4mg-wigmwqgCmwqgqwhgnwhg1wlgzwNwgB67Gm",
    "gC70lg58ig58BsgCltm1kgh1Bvtp1ngxtCgghyhzi1h3rgi3l8pgFftyl0m1o8XzyPj3Bpgh7p328DhgDz8IP9gk4hgn",
    "4hgi4hgisI9zk4vgh59gj1igh5ugk1ogMszCIkgDrwlgtwjgpwngqwigowDa8gH67j8jgN07mg38vgx8vgBu4ig34pgD",
    "04B8gH2lqgBnlighqF0lrxi41gCmoD6g05sg00sgC3npgypn0EngC1lhgCnlhgilighligiligklhgslhghlhgklhnil",
    "hgChlhgkligolhgnlhg8lhgklhgllhghljgnlhgKylioigJilipigBylUsxvglxhgvxBCwg+4mgm5G1gnyhgxyignyhg",
    "iyhglylgB-5Bhgh5DwgBt1jgu1igq1kgi1Kgg+4xgB61lgh1OwgBq5G2gBr7kgh7Ggg+8hg28ogi8Hggn4hgk4hgi4hg",
    "v4hgGlwigwwBpgCryh1kgqykgiyYxgCk0CsgB91Gigkthg7thgithghtighthgqthgkthghthghtmghtkghthghthght",
    "hgjthgithghtighthghthghthghthghthgithghtigkthgnthgkthgkthghthgqthgxtlgjthglthgxtB0gitIugBsqk",
    "gDkqsgvsigushwhgvshgvs2wqgrriwj3+rh0hshrrshrhshrishrjshrjslroshrnshrqsith1j3pshrhsirishrqskr",
    "ishrqsyyh3B4g6shristgBirpshykgprngisugmzE6gBhsswjxmshwCmshwix0sswBlshwlskwlxswxsnwoxB+shwhsh",
    "wF2shwksiwhxB-siwktnwlx4sywhyBpwhyC2wlshtwshtjshthshthshthshtjshtmsitkshthsitkshtssiwixrsBww",
    "Cmsqwhxiyizh1i3h8jgh5j4twjgkwjyizh0h1i3jgD0sj5k8l5C1wk0h5mgs1kgh4vgswkgB4wogqwmgBowog-wigi3q",
    "7kgi7ugp8Bngszh3j1pxmyhzoyozhyizsyh1syhzj0vytzl0h1h3k0i3h4h0h1k0lxtymzr0i3m1j3i1q0m1hxi0o1h3",
    "h4j13z50C01k8ogu0igk1h3j5j1i4jgj1k3i5h7h8jgh8h7m1z3k4j5n3k4j5h7h5j3j4h7hgh8kgh8i5n3j4i5h7igh",
    "7o4h5h7h8kgh8n4i5ngEz3hgB33Bl7q3h8BAjgiiBJW3ln3i4BggEB1rk4h5m8G-sigFUixs8igHJxzvgTu6CNigQ-lB",
    "PggiiEar3lgEDg5EGq8BSckgiiBff-giiBff-giiBff-giiBff-giiBff-giiBff-giiBff-giiBff-giiBff-giiBff",
    "-giihghl-gDglEggHwnBfQugEAAii"]

/-- The characters of a version and of all before it. Version 1.1 may also be named v11. -/
def age? (name : String) : Option CharSet := do
  let place ← versions.findIdx? fun version =>
    version == name || "v" ++ String.ofList (version.toList.filter (· != '.')) == name
  return CharSet.normalize ((runs 0 (unpack ageRuns)).filterMap fun (kind, range) =>
    if 0 < kind && kind ≤ place + 1 then some range else none)

end Courier.Unicode
