import Conform.Text.Blank
import Conform.Text.Split

/-!
# Letters of domain names

What stands for a character in a domain name: the small letter for a capital, the plain letters for
a presentation form of them, nothing for a character that only guides display.
-/

namespace Conform.Uri

/-- Runs of characters with a replacement: the first and the last code point, the step between two
characters of the run, and the replacement of the first. -/
def foldedRuns : List (Nat × Nat × Nat × Nat) :=
  [(0x00C0, 0x00D6, 1, 0x00E0), (0x00D8, 0x00DE, 1, 0x00F8), (0x0100, 0x012E, 2, 0x0101),
   (0x0139, 0x013D, 2, 0x013A), (0x0141, 0x0147, 2, 0x0142), (0x014A, 0x0176, 2, 0x014B),
   (0x0179, 0x017D, 2, 0x017A), (0x01A0, 0x01A4, 2, 0x01A1), (0x01CD, 0x01DB, 2, 0x01CE),
   (0x01DE, 0x01EE, 2, 0x01DF), (0x01F8, 0x021E, 2, 0x01F9), (0x0222, 0x0232, 2, 0x0223),
   (0x0246, 0x024E, 2, 0x0247), (0x0388, 0x038A, 1, 0x03AD), (0x0391, 0x03A1, 1, 0x03B1),
   (0x03A3, 0x03AB, 1, 0x03C3), (0x03D8, 0x03EE, 2, 0x03D9), (0x03FD, 0x03FF, 1, 0x037B),
   (0x0400, 0x040F, 1, 0x0450), (0x0410, 0x042F, 1, 0x0430), (0x0460, 0x0480, 2, 0x0461),
   (0x048A, 0x04BE, 2, 0x048B), (0x04C1, 0x04CD, 2, 0x04C2), (0x04D0, 0x052E, 2, 0x04D1),
   (0x0531, 0x0556, 1, 0x0561), (0x10A0, 0x10C5, 1, 0x2D00), (0x13F8, 0x13FD, 1, 0x13F0),
   (0x1C90, 0x1CBA, 1, 0x10D0), (0x1CBD, 0x1CBF, 1, 0x10FD), (0x1D33, 0x1D3A, 1, 0x0067),
   (0x1D5D, 0x1D5F, 1, 0x03B2), (0x1DA4, 0x1DA6, 1, 0x0268), (0x1DAE, 0x1DB1, 1, 0x0272),
   (0x1DBC, 0x1DBE, 1, 0x0290), (0x1E00, 0x1E94, 2, 0x1E01), (0x1EA0, 0x1EFE, 2, 0x1EA1),
   (0x1F08, 0x1F0F, 1, 0x1F00), (0x1F18, 0x1F1D, 1, 0x1F10), (0x1F28, 0x1F2F, 1, 0x1F20),
   (0x1F38, 0x1F3F, 1, 0x1F30), (0x1F48, 0x1F4D, 1, 0x1F40), (0x1F59, 0x1F5F, 2, 0x1F51),
   (0x1F68, 0x1F6F, 1, 0x1F60), (0x2074, 0x2079, 1, 0x0034), (0x2080, 0x2089, 1, 0x0030),
   (0x2096, 0x2099, 1, 0x006B), (0x2119, 0x211B, 1, 0x0070), (0x2135, 0x2138, 1, 0x05D0),
   (0x2460, 0x2468, 1, 0x0031), (0x24B6, 0x24CF, 1, 0x0061), (0x24D0, 0x24E9, 1, 0x0061),
   (0x2C00, 0x2C2F, 1, 0x2C30), (0x2C67, 0x2C6B, 2, 0x2C68), (0x2C80, 0x2CE2, 2, 0x2C81),
   (0x3137, 0x3139, 1, 0x1103), (0x313A, 0x313F, 1, 0x11B0), (0x3141, 0x3143, 1, 0x1106),
   (0x3145, 0x314E, 1, 0x1109), (0x314F, 0x3163, 1, 0x1161), (0x3178, 0x317C, 1, 0x112B),
   (0x3184, 0x3186, 1, 0x1157), (0x3263, 0x3265, 1, 0x1105), (0x3269, 0x326D, 1, 0x110E),
   (0x32E4, 0x32E9, 1, 0x30CA), (0x32EE, 0x32F2, 1, 0x30DE), (0x32F5, 0x32FA, 1, 0x30E8),
   (0x32FB, 0x32FE, 1, 0x30EF), (0xA640, 0xA66C, 2, 0xA641), (0xA680, 0xA69A, 2, 0xA681),
   (0xA722, 0xA72E, 2, 0xA723), (0xA732, 0xA76E, 2, 0xA733), (0xA77E, 0xA786, 2, 0xA77F),
   (0xA796, 0xA7A8, 2, 0xA797), (0xA7B4, 0xA7C2, 2, 0xA7B5), (0xAB70, 0xABBF, 1, 0x13A0),
   (0xFB24, 0xFB26, 1, 0x05DB), (0xFE41, 0xFE44, 1, 0x300C), (0xFF01, 0xFF20, 1, 0x0021),
   (0xFF21, 0xFF3A, 1, 0x0061), (0xFF3B, 0xFF5E, 1, 0x005B), (0xFF85, 0xFF8A, 1, 0x30CA),
   (0xFF8F, 0xFF93, 1, 0x30DE), (0xFF96, 0xFF9B, 1, 0x30E8), (0xFFA7, 0xFFA9, 1, 0x1103),
   (0xFFAA, 0xFFAF, 1, 0x11B0), (0xFFB1, 0xFFB3, 1, 0x1106), (0xFFB5, 0xFFBE, 1, 0x1109),
   (0xFFC2, 0xFFC7, 1, 0x1161), (0xFFCA, 0xFFCF, 1, 0x1167), (0xFFD2, 0xFFD7, 1, 0x116D),
   (0xFFDA, 0xFFDC, 1, 0x1173), (0xFFE9, 0xFFEC, 1, 0x2190), (0x10400, 0x10427, 1, 0x10428),
   (0x104B0, 0x104D3, 1, 0x104D8), (0x10570, 0x1057A, 1, 0x10597), (0x1057C, 0x1058A, 1, 0x105A3),
   (0x1058C, 0x10592, 1, 0x105B3), (0x107B6, 0x107B8, 1, 0x01C0), (0x10C80, 0x10CB2, 1, 0x10CC0),
   (0x118A0, 0x118BF, 1, 0x118C0), (0x16E40, 0x16E5F, 1, 0x16E60), (0x1D400, 0x1D419, 1, 0x0061),
   (0x1D41A, 0x1D433, 1, 0x0061), (0x1D434, 0x1D44D, 1, 0x0061), (0x1D44E, 0x1D454, 1, 0x0061),
   (0x1D456, 0x1D467, 1, 0x0069), (0x1D468, 0x1D481, 1, 0x0061), (0x1D482, 0x1D49B, 1, 0x0061),
   (0x1D4A9, 0x1D4AC, 1, 0x006E), (0x1D4AE, 0x1D4B5, 1, 0x0073), (0x1D4B6, 0x1D4B9, 1, 0x0061),
   (0x1D4BD, 0x1D4C3, 1, 0x0068), (0x1D4C5, 0x1D4CF, 1, 0x0070), (0x1D4D0, 0x1D4E9, 1, 0x0061),
   (0x1D4EA, 0x1D503, 1, 0x0061), (0x1D507, 0x1D50A, 1, 0x0064), (0x1D50D, 0x1D514, 1, 0x006A),
   (0x1D516, 0x1D51C, 1, 0x0073), (0x1D51E, 0x1D537, 1, 0x0061), (0x1D53B, 0x1D53E, 1, 0x0064),
   (0x1D540, 0x1D544, 1, 0x0069), (0x1D54A, 0x1D550, 1, 0x0073), (0x1D552, 0x1D56B, 1, 0x0061),
   (0x1D56C, 0x1D585, 1, 0x0061), (0x1D586, 0x1D59F, 1, 0x0061), (0x1D5A0, 0x1D5B9, 1, 0x0061),
   (0x1D5BA, 0x1D5D3, 1, 0x0061), (0x1D5D4, 0x1D5ED, 1, 0x0061), (0x1D5EE, 0x1D607, 1, 0x0061),
   (0x1D608, 0x1D621, 1, 0x0061), (0x1D622, 0x1D63B, 1, 0x0061), (0x1D63C, 0x1D655, 1, 0x0061),
   (0x1D656, 0x1D66F, 1, 0x0061), (0x1D670, 0x1D689, 1, 0x0061), (0x1D68A, 0x1D6A3, 1, 0x0061),
   (0x1D6A8, 0x1D6B8, 1, 0x03B1), (0x1D6BA, 0x1D6C0, 1, 0x03C3), (0x1D6C2, 0x1D6D2, 1, 0x03B1),
   (0x1D6D4, 0x1D6DA, 1, 0x03C3), (0x1D6E2, 0x1D6F2, 1, 0x03B1), (0x1D6F4, 0x1D6FA, 1, 0x03C3),
   (0x1D6FC, 0x1D70C, 1, 0x03B1), (0x1D70E, 0x1D714, 1, 0x03C3), (0x1D71C, 0x1D72C, 1, 0x03B1),
   (0x1D72E, 0x1D734, 1, 0x03C3), (0x1D736, 0x1D746, 1, 0x03B1), (0x1D748, 0x1D74E, 1, 0x03C3),
   (0x1D756, 0x1D766, 1, 0x03B1), (0x1D768, 0x1D76E, 1, 0x03C3), (0x1D770, 0x1D780, 1, 0x03B1),
   (0x1D782, 0x1D788, 1, 0x03C3), (0x1D790, 0x1D7A0, 1, 0x03B1), (0x1D7A2, 0x1D7A8, 1, 0x03C3),
   (0x1D7AA, 0x1D7BA, 1, 0x03B1), (0x1D7BC, 0x1D7C2, 1, 0x03C3), (0x1D7CE, 0x1D7D7, 1, 0x0030),
   (0x1D7D8, 0x1D7E1, 1, 0x0030), (0x1D7E2, 0x1D7EB, 1, 0x0030), (0x1D7EC, 0x1D7F5, 1, 0x0030),
   (0x1D7F6, 0x1D7FF, 1, 0x0030), (0x1E900, 0x1E921, 1, 0x1E922), (0x1EE0A, 0x1EE0D, 1, 0x0643),
   (0x1EE2A, 0x1EE2D, 1, 0x0643), (0x1EE8B, 0x1EE8D, 1, 0x0644), (0x1EEAB, 0x1EEAD, 1, 0x0644),
   (0x1F130, 0x1F149, 1, 0x0061), (0x1FBF0, 0x1FBF9, 1, 0x0030)]

/-- Characters outside the runs, each followed by its replacement, with bars between them. -/
def foldedTexts : List String :=
  ["\u00a0\u0020|¨\u0020\u0308|ªa|¯\u0020\u0304|²2|³3|´\u0020\u0301|µμ|¸\u0020\u0327|¹1|ºo|¼1⁄4",
   "½1⁄2|¾3⁄4|İi\u0307|Ĳij|ĳij|Ĵĵ|Ķķ|Ŀl·|ŀl·|ŉʼn|Ÿÿ|ſs|Ɓɓ|Ƃƃ|Ƅƅ|Ɔɔ|Ƈƈ|Ɖɖ|Ɗɗ|Ƌƌ|Ǝǝ|Əə|Ɛɛ|Ƒƒ|Ɠɠ|Ɣɣ",
   "Ɩɩ|Ɨɨ|Ƙƙ|Ɯɯ|Ɲɲ|Ɵɵ|Ʀʀ|Ƨƨ|Ʃʃ|Ƭƭ|Ʈʈ|Ưư|Ʊʊ|Ʋʋ|Ƴƴ|Ƶƶ|Ʒʒ|Ƹƹ|Ƽƽ|Ǆdž|ǅdž|ǆdž|Ǉlj|ǈlj|ǉlj|Ǌnj|ǋnj|ǌnj",
   "Ǳdz|ǲdz|ǳdz|Ǵǵ|Ƕƕ|Ƿƿ|Ƞƞ|Ⱥⱥ|Ȼȼ|Ƚƚ|Ⱦⱦ|Ɂɂ|Ƀƀ|Ʉʉ|Ʌʌ|ʰh|ʱɦ|ʲj|ʳr|ʴɹ|ʵɻ|ʶʁ|ʷw|ʸy|˘\u0020\u0306",
   "˙\u0020\u0307|˚\u0020\u030a|˛\u0020\u0328|˜\u0020\u0303|˝\u0020\u030b|ˠɣ|ˡl|ˢs|ˣx|ˤʕ",
   "\u0340\u0300|\u0341\u0301|\u0343\u0313|\u0344\u0308\u0301|\u0345ι|Ͱͱ|Ͳͳ|ʹʹ|Ͷͷ|ͺ\u0020ι|;;|Ϳϳ",
   "΄\u0020\u0301|΅\u0020\u0308\u0301|Άά|··|Όό|Ύύ|Ώώ|Ϗϗ|ϐβ|ϑθ|ϒυ|ϓύ|ϔϋ|ϕφ|ϖπ|ϰκ|ϱρ|ϲσ|ϴθ|ϵε|Ϸϸ",
   "Ϲσ|Ϻϻ|Ӏӏ|ևեւ|ٵاٴ|ٶوٴ|ٷۇٴ|ٸيٴ|क़क\u093c|ख़ख\u093c|ग़ग\u093c|ज़ज\u093c|ड़ड\u093c|ढ़ढ\u093c|फ़फ\u093c",
   "य़य\u093c|ড়ড\u09bc|ঢ়ঢ\u09bc|য়য\u09bc|ਲ਼ਲ\u0a3c|ਸ਼ਸ\u0a3c|ਖ਼ਖ\u0a3c|ਗ਼ਗ\u0a3c|ਜ਼ਜ\u0a3c|ਫ਼ਫ\u0a3c",
   "ଡ଼ଡ\u0b3c|ଢ଼ଢ\u0b3c|ำ\u0e4dา|ຳ\u0ecdາ|ໜຫນ|ໝຫມ|༌་|གྷག\u0fb7|ཌྷཌ\u0fb7|དྷད\u0fb7|བྷབ\u0fb7|ཛྷཛ\u0fb7",
   "ཀྵཀ\u0fb5|\u0f73\u0f71\u0f72|\u0f75\u0f71\u0f74|\u0f76\u0fb2\u0f80|\u0f77\u0fb2\u0f71\u0f80",
   "\u0f78\u0fb3\u0f80|\u0f79\u0fb3\u0f71\u0f80|\u0f81\u0f71\u0f80|\u0f93\u0f92\u0fb7",
   "\u0f9d\u0f9c\u0fb7|\u0fa2\u0fa1\u0fb7|\u0fa7\u0fa6\u0fb7|\u0fac\u0fab\u0fb7",
   "\u0fb9\u0f90\u0fb5|Ⴧⴧ|Ⴭⴭ|ჼნ|ᲀв|ᲁд|ᲂо|ᲃс|ᲄт|ᲅт|ᲆъ|ᲇѣ|ᲈꙋ|ᴬa|ᴭæ|ᴮb|ᴰd|ᴱe|ᴲǝ|ᴼo|ᴽȣ|ᴾp|ᴿr|ᵀt|ᵁu",
   "ᵂw|ᵃa|ᵄɐ|ᵅɑ|ᵆᴂ|ᵇb|ᵈd|ᵉe|ᵊə|ᵋɛ|ᵌɜ|ᵍg|ᵏk|ᵐm|ᵑŋ|ᵒo|ᵓɔ|ᵔᴖ|ᵕᴗ|ᵖp|ᵗt|ᵘu|ᵙᴝ|ᵚɯ|ᵛv|ᵜᴥ|ᵠφ|ᵡχ|ᵢi|ᵣr|ᵤu",
   "ᵥv|ᵦβ|ᵧγ|ᵨρ|ᵩφ|ᵪχ|ᵸн|ᶛɒ|ᶜc|ᶝɕ|ᶞð|ᶟɜ|ᶠf|ᶡɟ|ᶢɡ|ᶣɥ|ᶧᵻ|ᶨʝ|ᶩɭ|ᶪᶅ|ᶫʟ|ᶬɱ|ᶭɰ|ᶲɸ|ᶳʂ|ᶴʃ|ᶵƫ|ᶶʉ|ᶷʊ|ᶸᴜ|ᶹʋ",
   "ᶺʌ|ᶻz|ᶿθ|ẚaʾ|ẛṡ|ẞß|άά|έέ|ήή|ίί|όό|ύύ|ώώ|ᾀἀι|ᾁἁι|ᾂἂι|ᾃἃι|ᾄἄι|ᾅἅι|ᾆἆι|ᾇἇι|ᾈἀι|ᾉἁι|ᾊἂι|ᾋἃι|ᾌἄι",
   "ᾍἅι|ᾎἆι|ᾏἇι|ᾐἠι|ᾑἡι|ᾒἢι|ᾓἣι|ᾔἤι|ᾕἥι|ᾖἦι|ᾗἧι|ᾘἠι|ᾙἡι|ᾚἢι|ᾛἣι|ᾜἤι|ᾝἥι|ᾞἦι|ᾟἧι|ᾠὠι|ᾡὡι|ᾢὢι|ᾣὣι",
   "ᾤὤι|ᾥὥι|ᾦὦι|ᾧὧι|ᾨὠι|ᾩὡι|ᾪὢι|ᾫὣι|ᾬὤι|ᾭὥι|ᾮὦι|ᾯὧι|ᾲὰι|ᾳαι|ᾴάι|ᾷᾶι|Ᾰᾰ|Ᾱᾱ|Ὰὰ|Άά|ᾼαι",
   "᾽\u0020\u0313|ιι|᾿\u0020\u0313|῀\u0020\u0342|῁\u0020\u0308\u0342|ῂὴι|ῃηι|ῄήι|ῇῆι|Ὲὲ|Έέ|Ὴὴ|Ήή",
   "ῌηι|῍\u0020\u0313\u0300|῎\u0020\u0313\u0301|῏\u0020\u0313\u0342|ΐΐ|Ῐῐ|Ῑῑ|Ὶὶ|Ίί",
   "῝\u0020\u0314\u0300|῞\u0020\u0314\u0301|῟\u0020\u0314\u0342|ΰΰ|Ῠῠ|Ῡῡ|Ὺὺ|Ύύ|Ῥῥ",
   "῭\u0020\u0308\u0300|΅\u0020\u0308\u0301|`\x60|ῲὼι|ῳωι|ῴώι|ῷῶι|Ὸὸ|Όό|Ὼὼ|Ώώ|ῼωι|´\u0020\u0301",
   "῾\u0020\u0314|\u2000\u0020|\u2001\u0020|\u2002\u0020|\u2003\u0020|\u2004\u0020|\u2005\u0020",
   "\u2006\u0020|\u2007\u0020|\u2008\u0020|\u2009\u0020|\u200a\u0020|‑‐|‗\u0020\u0333|․.|‥..",
   "…...|\u202f\u0020|″′′|‴′′′|‶‵‵|‷‵‵‵|‼!!|‾\u0020\u0305|⁇??|⁈?!|⁉!?|⁗′′′′|\u205f\u0020|⁰0|ⁱi",
   "⁺+|⁻−|⁼=|⁽(|⁾)|ⁿn|₊+|₋−|₌=|₍(|₎)|ₐa|ₑe|ₒo|ₓx|ₔə|ₕh|ₚp|ₛs|ₜt|₨rs|℀a/c|℁a/s|ℂc|℃°c|℅c/o|℆c/u",
   "ℇɛ|℉°f|ℊg|ℋh|ℌh|ℍh|ℎh|ℏħ|ℐi|ℑi|ℒl|ℓl|ℕn|№no|ℜr|ℝr|℠sm|℡tel|™tm|ℤz|Ωω|ℨz|Kk|Åå|ℬb|ℭc|ℯe|ℰe|ℱf",
   "Ⅎⅎ|ℳm|ℴo|ℹi|℻fax|ℼπ|ℽγ|ℾγ|ℿπ|⅀∑|ⅅd|ⅆd|ⅇe|ⅈi|ⅉj|⅐1⁄7|⅑1⁄9|⅒1⁄10|⅓1⁄3|⅔2⁄3|⅕1⁄5|⅖2⁄5|⅗3⁄5|⅘4⁄5",
   "⅙1⁄6|⅚5⁄6|⅛1⁄8|⅜3⁄8|⅝5⁄8|⅞7⁄8|⅟1⁄|Ⅰi|Ⅱii|Ⅲiii|Ⅳiv|Ⅴv|Ⅵvi|Ⅶvii|Ⅷviii|Ⅸix|Ⅹx|Ⅺxi|Ⅻxii|Ⅼl|Ⅽc|Ⅾd",
   "Ⅿm|ⅰi|ⅱii|ⅲiii|ⅳiv|ⅴv|ⅵvi|ⅶvii|ⅷviii|ⅸix|ⅹx|ⅺxi|ⅻxii|ⅼl|ⅽc|ⅾd|ⅿm|Ↄↄ|↉0⁄3|∬∫∫|∭∫∫∫|∯∮∮|∰∮∮∮",
   "〈〈|〉〉|⑩10|⑪11|⑫12|⑬13|⑭14|⑮15|⑯16|⑰17|⑱18|⑲19|⑳20|⑴(1)|⑵(2)|⑶(3)|⑷(4)|⑸(5)|⑹(6)|⑺(7)|⑻(8)",
   "⑼(9)|⑽(10)|⑾(11)|⑿(12)|⒀(13)|⒁(14)|⒂(15)|⒃(16)|⒄(17)|⒅(18)|⒆(19)|⒇(20)|⒈1.|⒉2.|⒊3.|⒋4.|⒌5.",
   "⒍6.|⒎7.|⒏8.|⒐9.|⒑10.|⒒11.|⒓12.|⒔13.|⒕14.|⒖15.|⒗16.|⒘17.|⒙18.|⒚19.|⒛20.|⒜(a)|⒝(b)|⒞(c)|⒟(d)",
   "⒠(e)|⒡(f)|⒢(g)|⒣(h)|⒤(i)|⒥(j)|⒦(k)|⒧(l)|⒨(m)|⒩(n)|⒪(o)|⒫(p)|⒬(q)|⒭(r)|⒮(s)|⒯(t)|⒰(u)|⒱(v)",
   "⒲(w)|⒳(x)|⒴(y)|⒵(z)|⓪0|⨌∫∫∫∫|⩴::=|⩵==|⩶===|⫝̸⫝\u0338|Ⱡⱡ|Ɫɫ|Ᵽᵽ|Ɽɽ|Ɑɑ|Ɱɱ|Ɐɐ|Ɒɒ|Ⱳⱳ|Ⱶⱶ|ⱼj|ⱽv|Ȿȿ",
   "Ɀɀ|Ⳬⳬ|Ⳮⳮ|Ⳳⳳ|ⵯⵡ|⺟母|⻳龟|⼀一|⼁丨|⼂丶|⼃丿|⼄乙|⼅亅|⼆二|⼇亠|⼈人|⼉儿|⼊入|⼋八|⼌冂|⼍冖|⼎冫|⼏几|⼐凵|⼑刀|⼒力|⼓勹|⼔匕|⼕匚|⼖匸|⼗十",
   "⼘卜|⼙卩|⼚厂|⼛厶|⼜又|⼝口|⼞囗|⼟土|⼠士|⼡夂|⼢夊|⼣夕|⼤大|⼥女|⼦子|⼧宀|⼨寸|⼩小|⼪尢|⼫尸|⼬屮|⼭山|⼮巛|⼯工|⼰己|⼱巾|⼲干|⼳幺|⼴广|⼵廴|⼶廾",
   "⼷弋|⼸弓|⼹彐|⼺彡|⼻彳|⼼心|⼽戈|⼾戶|⼿手|⽀支|⽁攴|⽂文|⽃斗|⽄斤|⽅方|⽆无|⽇日|⽈曰|⽉月|⽊木|⽋欠|⽌止|⽍歹|⽎殳|⽏毋|⽐比|⽑毛|⽒氏|⽓气|⽔水|⽕火",
   "⽖爪|⽗父|⽘爻|⽙爿|⽚片|⽛牙|⽜牛|⽝犬|⽞玄|⽟玉|⽠瓜|⽡瓦|⽢甘|⽣生|⽤用|⽥田|⽦疋|⽧疒|⽨癶|⽩白|⽪皮|⽫皿|⽬目|⽭矛|⽮矢|⽯石|⽰示|⽱禸|⽲禾|⽳穴|⽴立",
   "⽵竹|⽶米|⽷糸|⽸缶|⽹网|⽺羊|⽻羽|⽼老|⽽而|⽾耒|⽿耳|⾀聿|⾁肉|⾂臣|⾃自|⾄至|⾅臼|⾆舌|⾇舛|⾈舟|⾉艮|⾊色|⾋艸|⾌虍|⾍虫|⾎血|⾏行|⾐衣|⾑襾|⾒見|⾓角",
   "⾔言|⾕谷|⾖豆|⾗豕|⾘豸|⾙貝|⾚赤|⾛走|⾜足|⾝身|⾞車|⾟辛|⾠辰|⾡辵|⾢邑|⾣酉|⾤釆|⾥里|⾦金|⾧長|⾨門|⾩阜|⾪隶|⾫隹|⾬雨|⾭靑|⾮非|⾯面|⾰革|⾱韋|⾲韭",
   "⾳音|⾴頁|⾵風|⾶飛|⾷食|⾸首|⾹香|⾺馬|⾻骨|⾼高|⾽髟|⾾鬥|⾿鬯|⿀鬲|⿁鬼|⿂魚|⿃鳥|⿄鹵|⿅鹿|⿆麥|⿇麻|⿈黃|⿉黍|⿊黑|⿋黹|⿌黽|⿍鼎|⿎鼓|⿏鼠|⿐鼻|⿑齊",
   "⿒齒|⿓龍|⿔龜|⿕龠|\u3000\u0020|〶〒|〸十|〹卄|〺卅|゛\u0020\u3099|゜\u0020\u309a|ゟより|ヿコト|ㄱᄀ|ㄲᄁ|ㄳᆪ|ㄴᄂ|ㄵᆬ|ㄶᆭ",
   "ㅀᄚ|ㅄᄡ|ㅤᅠ|ㅥᄔ|ㅦᄕ|ㅧᇇ|ㅨᇈ|ㅩᇌ|ㅪᇎ|ㅫᇓ|ㅬᇗ|ㅭᇙ|ㅮᄜ|ㅯᇝ|ㅰᇟ|ㅱᄝ|ㅲᄞ|ㅳᄠ|ㅴᄢ|ㅵᄣ|ㅶᄧ|ㅷᄩ|ㅽᄲ|ㅾᄶ|ㅿᅀ|ㆀᅇ|ㆁᅌ|ㆂᇱ|ㆃᇲ|ㆇᆄ|ㆈᆅ",
   "ㆉᆈ|ㆊᆑ|ㆋᆒ|ㆌᆔ|ㆍᆞ|ㆎᆡ|㆒一|㆓二|㆔三|㆕四|㆖上|㆗中|㆘下|㆙甲|㆚乙|㆛丙|㆜丁|㆝天|㆞地|㆟人|㈀(ᄀ)|㈁(ᄂ)|㈂(ᄃ)|㈃(ᄅ)|㈄(ᄆ)|㈅(ᄇ)",
   "㈆(ᄉ)|㈇(ᄋ)|㈈(ᄌ)|㈉(ᄎ)|㈊(ᄏ)|㈋(ᄐ)|㈌(ᄑ)|㈍(ᄒ)|㈎(가)|㈏(나)|㈐(다)|㈑(라)|㈒(마)|㈓(바)|㈔(사)|㈕(아)|㈖(자)|㈗(차)",
   "㈘(카)|㈙(타)|㈚(파)|㈛(하)|㈜(주)|㈝(오전)|㈞(오후)|㈠(一)|㈡(二)|㈢(三)|㈣(四)|㈤(五)|㈥(六)|㈦(七)|㈧(八)|㈨(九)|㈩(十)|㈪(月)",
   "㈫(火)|㈬(水)|㈭(木)|㈮(金)|㈯(土)|㈰(日)|㈱(株)|㈲(有)|㈳(社)|㈴(名)|㈵(特)|㈶(財)|㈷(祝)|㈸(労)|㈹(代)|㈺(呼)|㈻(学)|㈼(監)",
   "㈽(企)|㈾(資)|㈿(協)|㉀(祭)|㉁(休)|㉂(自)|㉃(至)|㉄問|㉅幼|㉆文|㉇箏|㉐pte|㉑21|㉒22|㉓23|㉔24|㉕25|㉖26|㉗27|㉘28|㉙29|㉚30",
   "㉛31|㉜32|㉝33|㉞34|㉟35|㉠ᄀ|㉡ᄂ|㉢ᄃ|㉦ᄉ|㉧ᄋ|㉨ᄌ|㉮가|㉯나|㉰다|㉱라|㉲마|㉳바|㉴사|㉵아|㉶자|㉷차|㉸카|㉹타|㉺파|㉻하|㉼참고|㉽주의|㉾우",
   "㊀一|㊁二|㊂三|㊃四|㊄五|㊅六|㊆七|㊇八|㊈九|㊉十|㊊月|㊋火|㊌水|㊍木|㊎金|㊏土|㊐日|㊑株|㊒有|㊓社|㊔名|㊕特|㊖財|㊗祝|㊘労|㊙秘|㊚男|㊛女|㊜適|㊝優|㊞印",
   "㊟注|㊠項|㊡休|㊢写|㊣正|㊤上|㊥中|㊦下|㊧左|㊨右|㊩医|㊪宗|㊫学|㊬監|㊭企|㊮資|㊯協|㊰夜|㊱36|㊲37|㊳38|㊴39|㊵40|㊶41|㊷42|㊸43|㊹44",
   "㊺45|㊻46|㊼47|㊽48|㊾49|㊿50|㋀1月|㋁2月|㋂3月|㋃4月|㋄5月|㋅6月|㋆7月|㋇8月|㋈9月|㋉10月|㋊11月|㋋12月|㋌hg|㋍erg|㋎ev|㋏ltd",
   "㋐ア|㋑イ|㋒ウ|㋓エ|㋔オ|㋕カ|㋖キ|㋗ク|㋘ケ|㋙コ|㋚サ|㋛シ|㋜ス|㋝セ|㋞ソ|㋟タ|㋠チ|㋡ツ|㋢テ|㋣ト|㋪ヒ|㋫フ|㋬ヘ|㋭ホ|㋳ヤ|㋴ユ|㋿令和|㌀アパート",
   "㌁アルファ|㌂アンペア|㌃アール|㌄イニング|㌅インチ|㌆ウォン|㌇エスクード|㌈エーカー|㌉オンス|㌊オーム|㌋カイリ|㌌カラット|㌍カロリー|㌎ガロン|㌏ガンマ|㌐ギガ|㌑ギニー",
   "㌒キュリー|㌓ギルダー|㌔キロ|㌕キログラム|㌖キロメートル|㌗キロワット|㌘グラム|㌙グラムトン|㌚クルゼイロ|㌛クローネ|㌜ケース|㌝コルナ|㌞コーポ|㌟サイクル|㌠サンチーム",
   "㌡シリング|㌢センチ|㌣セント|㌤ダース|㌥デシ|㌦ドル|㌧トン|㌨ナノ|㌩ノット|㌪ハイツ|㌫パーセント|㌬パーツ|㌭バーレル|㌮ピアストル|㌯ピクル|㌰ピコ|㌱ビル|㌲ファラッド",
   "㌳フィート|㌴ブッシェル|㌵フラン|㌶ヘクタール|㌷ペソ|㌸ペニヒ|㌹ヘルツ|㌺ペンス|㌻ページ|㌼ベータ|㌽ポイント|㌾ボルト|㌿ホン|㍀ポンド|㍁ホール|㍂ホーン|㍃マイクロ",
   "㍄マイル|㍅マッハ|㍆マルク|㍇マンション|㍈ミクロン|㍉ミリ|㍊ミリバール|㍋メガ|㍌メガトン|㍍メートル|㍎ヤード|㍏ヤール|㍐ユアン|㍑リットル|㍒リラ|㍓ルピー|㍔ルーブル",
   "㍕レム|㍖レントゲン|㍗ワット|㍘0点|㍙1点|㍚2点|㍛3点|㍜4点|㍝5点|㍞6点|㍟7点|㍠8点|㍡9点|㍢10点|㍣11点|㍤12点|㍥13点|㍦14点|㍧15点|㍨16点",
   "㍩17点|㍪18点|㍫19点|㍬20点|㍭21点|㍮22点|㍯23点|㍰24点|㍱hpa|㍲da|㍳au|㍴bar|㍵ov|㍶pc|㍷dm|㍸dm2|㍹dm3|㍺iu|㍻平成|㍼昭和",
   "㍽大正|㍾明治|㍿株式会社|㎀pa|㎁na|㎂μa|㎃ma|㎄ka|㎅kb|㎆mb|㎇gb|㎈cal|㎉kcal|㎊pf|㎋nf|㎌μf|㎍μg|㎎mg|㎏kg|㎐hz|㎑khz",
   "㎒mhz|㎓ghz|㎔thz|㎕μl|㎖ml|㎗dl|㎘kl|㎙fm|㎚nm|㎛μm|㎜mm|㎝cm|㎞km|㎟mm2|㎠cm2|㎡m2|㎢km2|㎣mm3|㎤cm3|㎥m3|㎦km3",
   "㎧m∕s|㎨m∕s2|㎩pa|㎪kpa|㎫mpa|㎬gpa|㎭rad|㎮rad∕s|㎯rad∕s2|㎰ps|㎱ns|㎲μs|㎳ms|㎴pv|㎵nv|㎶μv|㎷mv|㎸kv|㎹mv",
   "㎺pw|㎻nw|㎼μw|㎽mw|㎾kw|㎿mw|㏀kω|㏁mω|㏂a.m.|㏃bq|㏄cc|㏅cd|㏆c∕kg|㏇co.|㏈db|㏉gy|㏊ha|㏋hp|㏌in|㏍kk|㏎km|㏏kt",
   "㏐lm|㏑ln|㏒log|㏓lx|㏔mb|㏕mil|㏖mol|㏗ph|㏘p.m.|㏙ppm|㏚pr|㏛sr|㏜sv|㏝wb|㏞v∕m|㏟a∕m|㏠1日|㏡2日|㏢3日|㏣4日|㏤5日",
   "㏥6日|㏦7日|㏧8日|㏨9日|㏩10日|㏪11日|㏫12日|㏬13日|㏭14日|㏮15日|㏯16日|㏰17日|㏱18日|㏲19日|㏳20日|㏴21日|㏵22日|㏶23日|㏷24日",
   "㏸25日|㏹26日|㏺27日|㏻28日|㏼29日|㏽30日|㏾31日|㏿gal|ꚜъ|ꚝь|ꝰꝯ|Ꝺꝺ|Ꝼꝼ|Ᵹᵹ|Ꞌꞌ|Ɥɥ|Ꞑꞑ|Ꞓꞓ|Ɦɦ|Ɜɜ|Ɡɡ|Ɬɬ|Ɪɪ|Ʞʞ|Ʇʇ",
   "Ʝʝ|Ꭓꭓ|Ꞔꞔ|Ʂʂ|Ᶎᶎ|Ꟈꟈ|Ꟊꟊ|Ꟑꟑ|Ꟗꟗ|Ꟙꟙ|ꟲc|ꟳf|ꟴq|Ꟶꟶ|ꟸħ|ꟹœ|ꭜꜧ|ꭝꬷ|ꭞɫ|ꭟꭒ|ꭩʍ|豈豈|更更|車車|賈賈|滑滑|串串|句句|龜龜|龜龜|契契",
   "金金|喇喇|奈奈|懶懶|癩癩|羅羅|蘿蘿|螺螺|裸裸|邏邏|樂樂|洛洛|烙烙|珞珞|落落|酪酪|駱駱|亂亂|卵卵|欄欄|爛爛|蘭蘭|鸞鸞|嵐嵐|濫濫|藍藍|襤襤|拉拉|臘臘|蠟蠟|廊廊",
   "朗朗|浪浪|狼狼|郎郎|來來|冷冷|勞勞|擄擄|櫓櫓|爐爐|盧盧|老老|蘆蘆|虜虜|路路|露露|魯魯|鷺鷺|碌碌|祿祿|綠綠|菉菉|錄錄|鹿鹿|論論|壟壟|弄弄|籠籠|聾聾|牢牢|磊磊",
   "賂賂|雷雷|壘壘|屢屢|樓樓|淚淚|漏漏|累累|縷縷|陋陋|勒勒|肋肋|凜凜|凌凌|稜稜|綾綾|菱菱|陵陵|讀讀|拏拏|樂樂|諾諾|丹丹|寧寧|怒怒|率率|異異|北北|磻磻|便便|復復",
   "不不|泌泌|數數|索索|參參|塞塞|省省|葉葉|說說|殺殺|辰辰|沈沈|拾拾|若若|掠掠|略略|亮亮|兩兩|凉凉|梁梁|糧糧|良良|諒諒|量量|勵勵|呂呂|女女|廬廬|旅旅|濾濾|礪礪",
   "閭閭|驪驪|麗麗|黎黎|力力|曆曆|歷歷|轢轢|年年|憐憐|戀戀|撚撚|漣漣|煉煉|璉璉|秊秊|練練|聯聯|輦輦|蓮蓮|連連|鍊鍊|列列|劣劣|咽咽|烈烈|裂裂|說說|廉廉|念念|捻捻",
   "殮殮|簾簾|獵獵|令令|囹囹|寧寧|嶺嶺|怜怜|玲玲|瑩瑩|羚羚|聆聆|鈴鈴|零零|靈靈|領領|例例|禮禮|醴醴|隸隸|惡惡|了了|僚僚|寮寮|尿尿|料料|樂樂|燎燎|療療|蓼蓼|遼遼",
   "龍龍|暈暈|阮阮|劉劉|杻杻|柳柳|流流|溜溜|琉琉|留留|硫硫|紐紐|類類|六六|戮戮|陸陸|倫倫|崙崙|淪淪|輪輪|律律|慄慄|栗栗|率率|隆隆|利利|吏吏|履履|易易|李李|梨梨",
   "泥泥|理理|痢痢|罹罹|裏裏|裡裡|里里|離離|匿匿|溺溺|吝吝|燐燐|璘璘|藺藺|隣隣|鱗鱗|麟麟|林林|淋淋|臨臨|立立|笠笠|粒粒|狀狀|炙炙|識識|什什|茶茶|刺刺|切切|度度",
   "拓拓|糖糖|宅宅|洞洞|暴暴|輻輻|行行|降降|見見|廓廓|兀兀|嗀嗀|塚塚|晴晴|凞凞|猪猪|益益|礼礼|神神|祥祥|福福|靖靖|精精|羽羽|蘒蘒|諸諸|逸逸|都都|飯飯|飼飼|館館",
   "鶴鶴|郞郞|隷隷|侮侮|僧僧|免免|勉勉|勤勤|卑卑|喝喝|嘆嘆|器器|塀塀|墨墨|層層|屮屮|悔悔|慨慨|憎憎|懲懲|敏敏|既既|暑暑|梅梅|海海|渚渚|漢漢|煮煮|爫爫|琢琢|碑碑",
   "社社|祉祉|祈祈|祐祐|祖祖|祝祝|禍禍|禎禎|穀穀|突突|節節|練練|縉縉|繁繁|署署|者者|臭臭|艹艹|艹艹|著著|褐褐|視視|謁謁|謹謹|賓賓|贈贈|辶辶|逸逸|難難|響響|頻頻",
   "恵恵|𤋮𤋮|舘舘|並並|况况|全全|侀侀|充充|冀冀|勇勇|勺勺|喝喝|啕啕|喙喙|嗢嗢|塚塚|墳墳|奄奄|奔奔|婢婢|嬨嬨|廒廒|廙廙|彩彩|徭徭|惘惘|慎慎|愈愈|憎憎|慠慠|懲懲",
   "戴戴|揄揄|搜搜|摒摒|敖敖|晴晴|朗朗|望望|杖杖|歹歹|殺殺|流流|滛滛|滋滋|漢漢|瀞瀞|煮煮|瞧瞧|爵爵|犯犯|猪猪|瑱瑱|甆甆|画画|瘝瘝|瘟瘟|益益|盛盛|直直|睊睊|着着",
   "磌磌|窱窱|節節|类类|絛絛|練練|缾缾|者者|荒荒|華華|蝹蝹|襁襁|覆覆|視視|調調|諸諸|請請|謁謁|諾諾|諭諭|謹謹|變變|贈贈|輸輸|遲遲|醙醙|鉶鉶|陼陼|難難|靖靖|韛韛",
   "響響|頋頋|頻頻|鬒鬒|龜龜|𢡊𢡊|𢡄𢡄|𣏕𣏕|㮝㮝|䀘䀘|䀹䀹|𥉉𥉉|𥳐𥳐|𧻓𧻓|齃齃|龎龎|ﬀff|ﬁfi|ﬂfl|ﬃffi|ﬄffl|ﬅst|ﬆst|ﬓմն|ﬔմե|ﬕմի",
   "ﬖվն|ﬗմխ|יִי\u05b4|ײַײ\u05b7|ﬠע|ﬡא|ﬢד|ﬣה|ﬧר|ﬨת|﬩+|שׁש\u05c1|שׂש\u05c2|שּׁש\u05bc\u05c1",
   "שּׂש\u05bc\u05c2|אַא\u05b7|אָא\u05b8|אּא\u05bc|בּב\u05bc|גּג\u05bc|דּד\u05bc|הּה\u05bc|וּו\u05bc",
   "זּז\u05bc|טּט\u05bc|יּי\u05bc|ךּך\u05bc|כּכ\u05bc|לּל\u05bc|מּמ\u05bc|נּנ\u05bc|סּס\u05bc|ףּף\u05bc",
   "פּפ\u05bc|צּצ\u05bc|קּק\u05bc|רּר\u05bc|שּש\u05bc|תּת\u05bc|וֹו\u05b9|בֿב\u05bf|כֿכ\u05bf|פֿפ\u05bf",
   "ﭏאל|ﭐٱ|ﭑٱ|ﭒٻ|ﭓٻ|ﭔٻ|ﭕٻ|ﭖپ|ﭗپ|ﭘپ|ﭙپ|ﭚڀ|ﭛڀ|ﭜڀ|ﭝڀ|ﭞٺ|ﭟٺ|ﭠٺ|ﭡٺ|ﭢٿ|ﭣٿ|ﭤٿ|ﭥٿ|ﭦٹ|ﭧٹ|ﭨٹ|ﭩٹ|ﭪڤ|ﭫڤ|ﭬڤ",
   "ﭭڤ|ﭮڦ|ﭯڦ|ﭰڦ|ﭱڦ|ﭲڄ|ﭳڄ|ﭴڄ|ﭵڄ|ﭶڃ|ﭷڃ|ﭸڃ|ﭹڃ|ﭺچ|ﭻچ|ﭼچ|ﭽچ|ﭾڇ|ﭿڇ|ﮀڇ|ﮁڇ|ﮂڍ|ﮃڍ|ﮄڌ|ﮅڌ|ﮆڎ|ﮇڎ|ﮈڈ|ﮉڈ|ﮊژ|ﮋژ",
   "ﮌڑ|ﮍڑ|ﮎک|ﮏک|ﮐک|ﮑک|ﮒگ|ﮓگ|ﮔگ|ﮕگ|ﮖڳ|ﮗڳ|ﮘڳ|ﮙڳ|ﮚڱ|ﮛڱ|ﮜڱ|ﮝڱ|ﮞں|ﮟں|ﮠڻ|ﮡڻ|ﮢڻ|ﮣڻ|ﮤۀ|ﮥۀ|ﮦہ|ﮧہ|ﮨہ|ﮩہ|ﮪھ",
   "ﮫھ|ﮬھ|ﮭھ|ﮮے|ﮯے|ﮰۓ|ﮱۓ|ﯓڭ|ﯔڭ|ﯕڭ|ﯖڭ|ﯗۇ|ﯘۇ|ﯙۆ|ﯚۆ|ﯛۈ|ﯜۈ|ﯝۇٴ|ﯞۋ|ﯟۋ|ﯠۅ|ﯡۅ|ﯢۉ|ﯣۉ|ﯤې|ﯥې|ﯦې|ﯧې|ﯨى|ﯩى",
   "ﯪئا|ﯫئا|ﯬئە|ﯭئە|ﯮئو|ﯯئو|ﯰئۇ|ﯱئۇ|ﯲئۆ|ﯳئۆ|ﯴئۈ|ﯵئۈ|ﯶئې|ﯷئې|ﯸئې|ﯹئى|ﯺئى|ﯻئى|ﯼی|ﯽی|ﯾی|ﯿی|ﰀئج|ﰁئح",
   "ﰂئم|ﰃئى|ﰄئي|ﰅبج|ﰆبح|ﰇبخ|ﰈبم|ﰉبى|ﰊبي|ﰋتج|ﰌتح|ﰍتخ|ﰎتم|ﰏتى|ﰐتي|ﰑثج|ﰒثم|ﰓثى|ﰔثي|ﰕجح|ﰖجم|ﰗحج|ﰘحم",
   "ﰙخج|ﰚخح|ﰛخم|ﰜسج|ﰝسح|ﰞسخ|ﰟسم|ﰠصح|ﰡصم|ﰢضج|ﰣضح|ﰤضخ|ﰥضم|ﰦطح|ﰧطم|ﰨظم|ﰩعج|ﰪعم|ﰫغج|ﰬغم|ﰭفج|ﰮفح|ﰯفخ",
   "ﰰفم|ﰱفى|ﰲفي|ﰳقح|ﰴقم|ﰵقى|ﰶقي|ﰷكا|ﰸكج|ﰹكح|ﰺكخ|ﰻكل|ﰼكم|ﰽكى|ﰾكي|ﰿلج|ﱀلح|ﱁلخ|ﱂلم|ﱃلى|ﱄلي|ﱅمج|ﱆمح",
   "ﱇمخ|ﱈمم|ﱉمى|ﱊمي|ﱋنج|ﱌنح|ﱍنخ|ﱎنم|ﱏنى|ﱐني|ﱑهج|ﱒهم|ﱓهى|ﱔهي|ﱕيج|ﱖيح|ﱗيخ|ﱘيم|ﱙيى|ﱚيي|ﱛذ\u0670",
   "ﱜر\u0670|ﱝى\u0670|ﱞ\u0020\u064c\u0651|ﱟ\u0020\u064d\u0651|ﱠ\u0020\u064e\u0651",
   "ﱡ\u0020\u064f\u0651|ﱢ\u0020\u0650\u0651|ﱣ\u0020\u0651\u0670|ﱤئر|ﱥئز|ﱦئم|ﱧئن|ﱨئى|ﱩئي|ﱪبر|ﱫبز",
   "ﱬبم|ﱭبن|ﱮبى|ﱯبي|ﱰتر|ﱱتز|ﱲتم|ﱳتن|ﱴتى|ﱵتي|ﱶثر|ﱷثز|ﱸثم|ﱹثن|ﱺثى|ﱻثي|ﱼفى|ﱽفي|ﱾقى|ﱿقي|ﲀكا|ﲁكل|ﲂكم",
   "ﲃكى|ﲄكي|ﲅلم|ﲆلى|ﲇلي|ﲈما|ﲉمم|ﲊنر|ﲋنز|ﲌنم|ﲍنن|ﲎنى|ﲏني|ﲐى\u0670|ﲑير|ﲒيز|ﲓيم|ﲔين|ﲕيى|ﲖيي|ﲗئج|ﲘئح",
   "ﲙئخ|ﲚئم|ﲛئه|ﲜبج|ﲝبح|ﲞبخ|ﲟبم|ﲠبه|ﲡتج|ﲢتح|ﲣتخ|ﲤتم|ﲥته|ﲦثم|ﲧجح|ﲨجم|ﲩحج|ﲪحم|ﲫخج|ﲬخم|ﲭسج|ﲮسح|ﲯسخ",
   "ﲰسم|ﲱصح|ﲲصخ|ﲳصم|ﲴضج|ﲵضح|ﲶضخ|ﲷضم|ﲸطح|ﲹظم|ﲺعج|ﲻعم|ﲼغج|ﲽغم|ﲾفج|ﲿفح|ﳀفخ|ﳁفم|ﳂقح|ﳃقم|ﳄكج|ﳅكح|ﳆكخ",
   "ﳇكل|ﳈكم|ﳉلج|ﳊلح|ﳋلخ|ﳌلم|ﳍله|ﳎمج|ﳏمح|ﳐمخ|ﳑمم|ﳒنج|ﳓنح|ﳔنخ|ﳕنم|ﳖنه|ﳗهج|ﳘهم|ﳙه\u0670|ﳚيج|ﳛيح|ﳜيخ",
   "ﳝيم|ﳞيه|ﳟئم|ﳠئه|ﳡبم|ﳢبه|ﳣتم|ﳤته|ﳥثم|ﳦثه|ﳧسم|ﳨسه|ﳩشم|ﳪشه|ﳫكل|ﳬكم|ﳭلم|ﳮنم|ﳯنه|ﳰيم|ﳱيه",
   "ﳲـ\u064e\u0651|ﳳـ\u064f\u0651|ﳴـ\u0650\u0651|ﳵطى|ﳶطي|ﳷعى|ﳸعي|ﳹغى|ﳺغي|ﳻسى|ﳼسي|ﳽشى|ﳾشي|ﳿحى|ﴀحي",
   "ﴁجى|ﴂجي|ﴃخى|ﴄخي|ﴅصى|ﴆصي|ﴇضى|ﴈضي|ﴉشج|ﴊشح|ﴋشخ|ﴌشم|ﴍشر|ﴎسر|ﴏصر|ﴐضر|ﴑطى|ﴒطي|ﴓعى|ﴔعي|ﴕغى|ﴖغي|ﴗسى",
   "ﴘسي|ﴙشى|ﴚشي|ﴛحى|ﴜحي|ﴝجى|ﴞجي|ﴟخى|ﴠخي|ﴡصى|ﴢصي|ﴣضى|ﴤضي|ﴥشج|ﴦشح|ﴧشخ|ﴨشم|ﴩشر|ﴪسر|ﴫصر|ﴬضر|ﴭشج|ﴮشح",
   "ﴯشخ|ﴰشم|ﴱسه|ﴲشه|ﴳطم|ﴴسج|ﴵسح|ﴶسخ|ﴷشج|ﴸشح|ﴹشخ|ﴺطم|ﴻظم|ﴼا\u064b|ﴽا\u064b|ﵐتجم|ﵑتحج|ﵒتحج|ﵓتحم",
   "ﵔتخم|ﵕتمج|ﵖتمح|ﵗتمخ|ﵘجمح|ﵙجمح|ﵚحمي|ﵛحمى|ﵜسحج|ﵝسجح|ﵞسجى|ﵟسمح|ﵠسمح|ﵡسمج|ﵢسمم|ﵣسمم|ﵤصحح|ﵥصحح",
   "ﵦصمم|ﵧشحم|ﵨشحم|ﵩشجي|ﵪشمخ|ﵫشمخ|ﵬشمم|ﵭشمم|ﵮضحى|ﵯضخم|ﵰضخم|ﵱطمح|ﵲطمح|ﵳطمم|ﵴطمي|ﵵعجم|ﵶعمم|ﵷعمم",
   "ﵸعمى|ﵹغمم|ﵺغمي|ﵻغمى|ﵼفخم|ﵽفخم|ﵾقمح|ﵿقمم|ﶀلحم|ﶁلحي|ﶂلحى|ﶃلجج|ﶄلجج|ﶅلخم|ﶆلخم|ﶇلمح|ﶈلمح|ﶉمحج",
   "ﶊمحم|ﶋمحي|ﶌمجح|ﶍمجم|ﶎمخج|ﶏمخم|ﶒمجخ|ﶓهمج|ﶔهمم|ﶕنحم|ﶖنحى|ﶗنجم|ﶘنجم|ﶙنجى|ﶚنمي|ﶛنمى|ﶜيمم|ﶝيمم",
   "ﶞبخي|ﶟتجي|ﶠتجى|ﶡتخي|ﶢتخى|ﶣتمي|ﶤتمى|ﶥجمي|ﶦجحى|ﶧجمى|ﶨسخى|ﶩصحي|ﶪشحي|ﶫضحي|ﶬلجي|ﶭلمي|ﶮيحي|ﶯيجي",
   "ﶰيمي|ﶱممي|ﶲقمي|ﶳنحي|ﶴقمح|ﶵلحم|ﶶعمي|ﶷكمي|ﶸنجح|ﶹمخي|ﶺلجم|ﶻكمم|ﶼلجم|ﶽنجح|ﶾجحي|ﶿحجي|ﷀمجي|ﷁفمي",
   "ﷂبحي|ﷃكمم|ﷄعجم|ﷅصمم|ﷆسخي|ﷇنجي|ﷰصلے|ﷱقلے|ﷲالله|ﷳاكبر|ﷴمحمد|ﷵصلعم|ﷶرسول|ﷷعليه|ﷸوسلم|ﷹصلى",
   "ﷺصلى\u0020الله\u0020عليه\u0020وسلم|ﷻجل\u0020جلاله|﷼ریال|︐,|︑、|︒。|︓:|︔;|︕!|︖?|︗〖|︘〗|︙...|︰..",
   "︱—|︲–|︳_|︴_|︵(|︶)|︷\x7b|︸\x7d|︹〔|︺〕|︻【|︼】|︽《|︾》|︿〈|﹀〉|﹇[|﹈]|﹉\u0020\u0305|﹊\u0020\u0305",
   "﹋\u0020\u0305|﹌\u0020\u0305|﹍_|﹎_|﹏_|﹐,|﹑、|﹒.|﹔;|﹕:|﹖?|﹗!|﹘—|﹙(|﹚)|﹛\x7b|﹜\x7d|﹝〔|﹞〕|﹟#|﹠&",
   "﹡*|﹢+|﹣-|﹤<|﹥>|﹦=|﹨\\|﹩$|﹪%|﹫@|ﹰ\u0020\u064b|ﹱـ\u064b|ﹲ\u0020\u064c|ﹴ\u0020\u064d",
   "ﹶ\u0020\u064e|ﹷـ\u064e|ﹸ\u0020\u064f|ﹹـ\u064f|ﹺ\u0020\u0650|ﹻـ\u0650|ﹼ\u0020\u0651|ﹽـ\u0651",
   "ﹾ\u0020\u0652|ﹿـ\u0652|ﺀء|ﺁآ|ﺂآ|ﺃأ|ﺄأ|ﺅؤ|ﺆؤ|ﺇإ|ﺈإ|ﺉئ|ﺊئ|ﺋئ|ﺌئ|ﺍا|ﺎا|ﺏب|ﺐب|ﺑب|ﺒب|ﺓة|ﺔة|ﺕت|ﺖت",
   "ﺗت|ﺘت|ﺙث|ﺚث|ﺛث|ﺜث|ﺝج|ﺞج|ﺟج|ﺠج|ﺡح|ﺢح|ﺣح|ﺤح|ﺥخ|ﺦخ|ﺧخ|ﺨخ|ﺩد|ﺪد|ﺫذ|ﺬذ|ﺭر|ﺮر|ﺯز|ﺰز|ﺱس|ﺲس|ﺳس|ﺴس|ﺵش",
   "ﺶش|ﺷش|ﺸش|ﺹص|ﺺص|ﺻص|ﺼص|ﺽض|ﺾض|ﺿض|ﻀض|ﻁط|ﻂط|ﻃط|ﻄط|ﻅظ|ﻆظ|ﻇظ|ﻈظ|ﻉع|ﻊع|ﻋع|ﻌع|ﻍغ|ﻎغ|ﻏغ|ﻐغ|ﻑف|ﻒف|ﻓف|ﻔف",
   "ﻕق|ﻖق|ﻗق|ﻘق|ﻙك|ﻚك|ﻛك|ﻜك|ﻝل|ﻞل|ﻟل|ﻠل|ﻡم|ﻢم|ﻣم|ﻤم|ﻥن|ﻦن|ﻧن|ﻨن|ﻩه|ﻪه|ﻫه|ﻬه|ﻭو|ﻮو|ﻯى|ﻰى|ﻱي|ﻲي|ﻳي",
   "ﻴي|ﻵلآ|ﻶلآ|ﻷلأ|ﻸلأ|ﻹلإ|ﻺلإ|ﻻلا|ﻼلا|｟⦅|｠⦆|｡.|｢「|｣」|､、|･・|ｦヲ|ｧァ|ｨィ|ｩゥ|ｪェ|ｫォ|ｬャ|ｭュ|ｮョ|ｯッ|ｰー|ｱア",
   "ｲイ|ｳウ|ｴエ|ｵオ|ｶカ|ｷキ|ｸク|ｹケ|ｺコ|ｻサ|ｼシ|ｽス|ｾセ|ｿソ|ﾀタ|ﾁチ|ﾂツ|ﾃテ|ﾄト|ﾋヒ|ﾌフ|ﾍヘ|ﾎホ|ﾔヤ|ﾕユ|ﾜワ|ﾝン|ﾞ\u3099",
   "ﾟ\u309a|ﾠᅠ|ﾡᄀ|ﾢᄁ|ﾣᆪ|ﾤᄂ|ﾥᆬ|ﾦᆭ|ﾰᄚ|ﾴᄡ|￠¢|￡£|￢¬|￣\u0020\u0304|￤¦|￥¥|￦₩|￨│|￭■|￮○|𐖔𐖻|𐖕𐖼|𐞁ː|𐞂ˑ|𐞃æ",
   "𐞄ʙ|𐞅ɓ|𐞇ʣ|𐞈ꭦ|𐞉ʥ|𐞊ʤ|𐞋ɖ|𐞌ɗ|𐞍ᶑ|𐞎ɘ|𐞏ɞ|𐞐ʩ|𐞑ɤ|𐞒ɢ|𐞓ɠ|𐞔ʛ|𐞕ħ|𐞖ʜ|𐞗ɧ|𐞘ʄ|𐞙ʪ|𐞚ʫ|𐞛ɬ|𐞜𝼄|𐞝ꞎ|𐞞ɮ|𐞟𝼅|𐞠ʎ|𐞡𝼆|𐞢ø|𐞣ɶ",
   "𐞤ɷ|𐞥q|𐞦ɺ|𐞧𝼈|𐞨ɽ|𐞩ɾ|𐞪ʀ|𐞫ʨ|𐞬ʦ|𐞭ꭧ|𐞮ʧ|𐞯ʈ|𐞰ⱱ|𐞲ʏ|𐞳ʡ|𐞴ʢ|𐞵ʘ|𐞹𝼊|𐞺𝼞|𝅗𝅥𝅗𝅥|𝅘𝅥𝅘𝅥|𝅘𝅥𝅮𝅘𝅥𝅮|𝅘𝅥𝅯𝅘𝅥𝅯|𝅘𝅥𝅰𝅘𝅥𝅰|𝅘𝅥𝅱𝅘𝅥𝅱|𝅘𝅥𝅲𝅘𝅥𝅲",
   "𝆹𝅥𝆹𝅥|𝆺𝅥𝆺𝅥|𝆹𝅥𝅮𝆹𝅥𝅮|𝆺𝅥𝅮𝆺𝅥𝅮|𝆹𝅥𝅯𝆹𝅥𝅯|𝆺𝅥𝅯𝆺𝅥𝅯|𝒜a|𝒞c|𝒟d|𝒢g|𝒥j|𝒦k|𝒻f|𝔄a|𝔅b|𝔸a|𝔹b|𝕆o|𝚤ı|𝚥ȷ|𝚹θ|𝛁∇|𝛓σ|𝛛∂|𝛜ε|𝛝θ|𝛞κ",
   "𝛟φ|𝛠ρ|𝛡π|𝛳θ|𝛻∇|𝜍σ|𝜕∂|𝜖ε|𝜗θ|𝜘κ|𝜙φ|𝜚ρ|𝜛π|𝜭θ|𝜵∇|𝝇σ|𝝏∂|𝝐ε|𝝑θ|𝝒κ|𝝓φ|𝝔ρ|𝝕π|𝝧θ|𝝯∇|𝞁σ|𝞉∂|𝞊ε|𝞋θ|𝞌κ|𝞍φ",
   "𝞎ρ|𝞏π|𝞡θ|𝞩∇|𝞻σ|𝟃∂|𝟄ε|𝟅θ|𝟆κ|𝟇φ|𝟈ρ|𝟉π|𝟊ϝ|𝟋ϝ|𞸀ا|𞸁ب|𞸂ج|𞸃د|𞸅و|𞸆ز|𞸇ح|𞸈ط|𞸉ي|𞸎س|𞸏ع|𞸐ف|𞸑ص|𞸒ق|𞸓ر|𞸔ش|𞸕ت",
   "𞸖ث|𞸗خ|𞸘ذ|𞸙ض|𞸚ظ|𞸛غ|𞸜ٮ|𞸝ں|𞸞ڡ|𞸟ٯ|𞸡ب|𞸢ج|𞸤ه|𞸧ح|𞸩ي|𞸮س|𞸯ع|𞸰ف|𞸱ص|𞸲ق|𞸴ش|𞸵ت|𞸶ث|𞸷خ|𞸹ض|𞸻غ|𞹂ج|𞹇ح|𞹉ي|𞹋ل|𞹍ن",
   "𞹎س|𞹏ع|𞹑ص|𞹒ق|𞹔ش|𞹗خ|𞹙ض|𞹛غ|𞹝ں|𞹟ٯ|𞹡ب|𞹢ج|𞹤ه|𞹧ح|𞹨ط|𞹩ي|𞹪ك|𞹬م|𞹭ن|𞹮س|𞹯ع|𞹰ف|𞹱ص|𞹲ق|𞹴ش|𞹵ت|𞹶ث|𞹷خ|𞹹ض|𞹺ظ|𞹻غ",
   "𞹼ٮ|𞹾ڡ|𞺀ا|𞺁ب|𞺂ج|𞺃د|𞺄ه|𞺅و|𞺆ز|𞺇ح|𞺈ط|𞺉ي|𞺎س|𞺏ع|𞺐ف|𞺑ص|𞺒ق|𞺓ر|𞺔ش|𞺕ت|𞺖ث|𞺗خ|𞺘ذ|𞺙ض|𞺚ظ|𞺛غ|𞺡ب|𞺢ج|𞺣د|𞺥و|𞺦ز",
   "𞺧ح|𞺨ط|𞺩ي|𞺮س|𞺯ع|𞺰ف|𞺱ص|𞺲ق|𞺳ر|𞺴ش|𞺵ت|𞺶ث|𞺷خ|𞺸ذ|𞺹ض|𞺺ظ|𞺻غ|🄀0.|🄁0,|🄂1,|🄃2,|🄄3,|🄅4,|🄆5,|🄇6,|🄈7,|🄉8,",
   "🄊9,|🄐(a)|🄑(b)|🄒(c)|🄓(d)|🄔(e)|🄕(f)|🄖(g)|🄗(h)|🄘(i)|🄙(j)|🄚(k)|🄛(l)|🄜(m)|🄝(n)|🄞(o)|🄟(p)|🄠(q)",
   "🄡(r)|🄢(s)|🄣(t)|🄤(u)|🄥(v)|🄦(w)|🄧(x)|🄨(y)|🄩(z)|🄪〔s〕|🄫c|🄬r|🄭cd|🄮wz|🅊hv|🅋mv|🅌sd|🅍ss|🅎ppv|🅏wc|🅪mc",
   "🅫md|🅬mr|🆐dj|🈀ほか|🈁ココ|🈂サ|🈐手|🈑字|🈒双|🈓デ|🈔二|🈕多|🈖解|🈗天|🈘交|🈙映|🈚無|🈛料|🈜前|🈝後|🈞再|🈟新|🈠初|🈡終|🈢生|🈣販|🈤声|🈥吹|🈦演",
   "🈧投|🈨捕|🈩一|🈪三|🈫遊|🈬左|🈭中|🈮右|🈯指|🈰走|🈱打|🈲禁|🈳空|🈴合|🈵満|🈶有|🈷月|🈸申|🈹割|🈺営|🈻配|🉀〔本〕|🉁〔三〕|🉂〔二〕|🉃〔安〕|🉄〔点〕|🉅〔打〕",
   "🉆〔盗〕|🉇〔勝〕|🉈〔敗〕|🉐得|🉑可|丽丽|丸丸|乁乁|𠄢𠄢|你你|侮侮|侻侻|倂倂|偺偺|備備|僧僧|像像|㒞㒞|𠘺𠘺|免免|兔兔|兤兤|具具|𠔜𠔜|㒹㒹|內內|再再|𠕋𠕋|冗冗",
   "冤冤|仌仌|冬冬|况况|𩇟𩇟|凵凵|刃刃|㓟㓟|刻刻|剆剆|割割|剷剷|㔕㔕|勇勇|勉勉|勤勤|勺勺|包包|匆匆|北北|卉卉|卑卑|博博|即即|卽卽|卿卿|卿卿|卿卿|𠨬𠨬|灰灰|及及",
   "叟叟|𠭣𠭣|叫叫|叱叱|吆吆|咞咞|吸吸|呈呈|周周|咢咢|哶哶|唐唐|啓啓|啣啣|善善|善善|喙喙|喫喫|喳喳|嗂嗂|圖圖|嘆嘆|圗圗|噑噑|噴噴|切切|壮壮|城城|埴埴|堍堍|型型",
   "堲堲|報報|墬墬|𡓤𡓤|売売|壷壷|夆夆|多多|夢夢|奢奢|𡚨𡚨|𡛪𡛪|姬姬|娛娛|娧娧|姘姘|婦婦|㛮㛮|㛼㛼|嬈嬈|嬾嬾|嬾嬾|𡧈𡧈|寃寃|寘寘|寧寧|寳寳|𡬘𡬘|寿寿|将将|当当",
   "尢尢|㞁㞁|屠屠|屮屮|峀峀|岍岍|𡷤𡷤|嵃嵃|𡷦𡷦|嵮嵮|嵫嵫|嵼嵼|巡巡|巢巢|㠯㠯|巽巽|帨帨|帽帽|幩幩|㡢㡢|𢆃𢆃|㡼㡼|庰庰|庳庳|庶庶|廊廊|𪎒𪎒|廾廾|𢌱𢌱|𢌱𢌱|舁舁",
   "弢弢|弢弢|㣇㣇|𣊸𣊸|𦇚𦇚|形形|彫彫|㣣㣣|徚徚|忍忍|志志|忹忹|悁悁|㤺㤺|㤜㤜|悔悔|𢛔𢛔|惇惇|慈慈|慌慌|慎慎|慌慌|慺慺|憎憎|憲憲|憤憤|憯憯|懞懞|懲懲|懶懶|成成",
   "戛戛|扝扝|抱抱|拔拔|捐捐|𢬌𢬌|挽挽|拼拼|捨捨|掃掃|揤揤|𢯱𢯱|搢搢|揅揅|掩掩|㨮㨮|摩摩|摾摾|撝撝|摷摷|㩬㩬|敏敏|敬敬|𣀊𣀊|旣旣|書書|晉晉|㬙㬙|暑暑|㬈㬈|㫤㫤",
   "冒冒|冕冕|最最|暜暜|肭肭|䏙䏙|朗朗|望望|朡朡|杞杞|杓杓|𣏃𣏃|㭉㭉|柺柺|枅枅|桒桒|梅梅|𣑭𣑭|梎梎|栟栟|椔椔|㮝㮝|楂楂|榣榣|槪槪|檨檨|𣚣𣚣|櫛櫛|㰘㰘|次次|𣢧𣢧",
   "歔歔|㱎㱎|歲歲|殟殟|殺殺|殻殻|𣪍𣪍|𡴋𡴋|𣫺𣫺|汎汎|𣲼𣲼|沿沿|泍泍|汧汧|洖洖|派派|海海|流流|浩浩|浸浸|涅涅|𣴞𣴞|洴洴|港港|湮湮|㴳㴳|滋滋|滇滇|𣻑𣻑|淹淹|潮潮",
   "𣽞𣽞|𣾎𣾎|濆濆|瀹瀹|瀞瀞|瀛瀛|㶖㶖|灊灊|災災|灷灷|炭炭|𠔥𠔥|煅煅|𤉣𤉣|熜熜|𤎫𤎫|爨爨|爵爵|牐牐|𤘈𤘈|犀犀|犕犕|𤜵𤜵|𤠔𤠔|獺獺|王王|㺬㺬|玥玥|㺸㺸|㺸㺸|瑇瑇",
   "瑜瑜|瑱瑱|璅璅|瓊瓊|㼛㼛|甤甤|𤰶𤰶|甾甾|𤲒𤲒|異異|𢆟𢆟|瘐瘐|𤾡𤾡|𤾸𤾸|𥁄𥁄|㿼㿼|䀈䀈|直直|𥃳𥃳|𥃲𥃲|𥄙𥄙|𥄳𥄳|眞眞|真真|真真|睊睊|䀹䀹|瞋瞋|䁆䁆|䂖䂖|𥐝𥐝",
   "硎硎|碌碌|磌磌|䃣䃣|𥘦𥘦|祖祖|𥚚𥚚|𥛅𥛅|福福|秫秫|䄯䄯|穀穀|穊穊|穏穏|𥥼𥥼|𥪧𥪧|𥪧𥪧|竮竮|䈂䈂|𥮫𥮫|篆篆|築築|䈧䈧|𥲀𥲀|糒糒|䊠䊠|糨糨|糣糣|紀紀|𥾆𥾆|絣絣",
   "䌁䌁|緇緇|縂縂|繅繅|䌴䌴|𦈨𦈨|𦉇𦉇|䍙䍙|𦋙𦋙|罺罺|𦌾𦌾|羕羕|翺翺|者者|𦓚𦓚|𦔣𦔣|聠聠|𦖨𦖨|聰聰|𣍟𣍟|䏕䏕|育育|脃脃|䐋䐋|脾脾|媵媵|𦞧𦞧|𦞵𦞵|𣎓𣎓|𣎜𣎜|舁舁",
   "舄舄|辞辞|䑫䑫|芑芑|芋芋|芝芝|劳劳|花花|芳芳|芽芽|苦苦|𦬼𦬼|若若|茝茝|荣荣|莭莭|茣茣|莽莽|菧菧|著著|荓荓|菊菊|菌菌|菜菜|𦰶𦰶|𦵫𦵫|𦳕𦳕|䔫䔫|蓱蓱|蓳蓳|蔖蔖",
   "𧏊𧏊|蕤蕤|𦼬𦼬|䕝䕝|䕡䕡|𦾱𦾱|𧃒𧃒|䕫䕫|虐虐|虜虜|虧虧|虩虩|蚩蚩|蚈蚈|蜎蜎|蛢蛢|蝹蝹|蜨蜨|蝫蝫|螆螆|䗗䗗|蟡蟡|蠁蠁|䗹䗹|衠衠|衣衣|𧙧𧙧|裗裗|裞裞|䘵䘵|裺裺",
   "㒻㒻|𧢮𧢮|𧥦𧥦|䚾䚾|䛇䛇|誠誠|諭諭|變變|豕豕|𧲨𧲨|貫貫|賁賁|贛贛|起起|𧼯𧼯|𠠄𠠄|跋跋|趼趼|跰跰|𠣞𠣞|軔軔|輸輸|𨗒𨗒|𨗭𨗭|邔邔|郱郱|鄑鄑|𨜮𨜮|鄛鄛|鈸鈸|鋗鋗",
   "鋘鋘|鉼鉼|鏹鏹|鐕鐕|𨯺𨯺|開開|䦕䦕|閷閷|𨵷𨵷|䧦䧦|雃雃|嶲嶲|霣霣|𩅅𩅅|𩈚𩈚|䩮䩮|䩶䩶|韠韠|𩐊𩐊|䪲䪲|𩒖𩒖|頋頋|頋頋|頩頩|𩖶𩖶|飢飢|䬳䬳|餩餩|馧馧|駂駂|駾駾",
   "䯎䯎|𩬰𩬰|鬒鬒|鱀鱀|鳽鳽|䳎䳎|䳭䳭|鵧鵧|𪃎𪃎|䳸䳸|𪄅𪄅|𪈎𪈎|𪊑𪊑|麻麻|䵖䵖|黹黹|黾黾|鼅鼅|鼏鼏|鼖鼖|鼻鼻|𪘀𪘀"]

/-- The replacements of `foldedTexts`. -/
def foldedSingly : List (Char × List Char) :=
  (foldedTexts.flatMap fun text => Text.pieces '|' text.toList).filterMap fun
    | [] => none
    | c :: image => some (c, image)

/-- Characters that vanish from a domain name. -/
def isIgnored (c : Char) : Bool :=
  let n := c.toNat
  [0xAD, 0x034F, 0x180F, 0x200B, 0x2060, 0x2064, 0xFEFF].contains n
    || Text.inRanges [(0x180B, 0x180D), (0xFE00, 0xFE0F), (0x1BCA0, 0x1BCA3), (0xE0100, 0xE01EF)] n

/-- What stands for a character in a domain name. -/
def foldLetter (c : Char) : List Char :=
  let n := c.toNat
  if n < 0x80 then if 'A' ≤ c ∧ c ≤ 'Z' then [Char.ofNat (n + 32)] else [c]
  else if c = '\u3002' then ['.']
  else if isIgnored c then []
  else match foldedRuns.find? fun (low, high, step, _) =>
      decide (low ≤ n) && decide (n ≤ high) && (n - low) % step == 0 with
    | some (low, _, _, image) => [Char.ofNat (image + (n - low))]
    | none => (foldedSingly.lookup c).getD [c]

end Conform.Uri
