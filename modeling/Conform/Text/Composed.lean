import Conform.Text.Mark

/-!
# Composed characters

The composed form of a text: each character and the marks behind it written as one character where
there is one, the marks left over in the order of their classes. Two spellings of one text, letter
and accent apart or together, have the same composed form.
-/

namespace Conform.Text

/-! ## The characters and their parts -/

/-- Composed characters by the mark they end in: what stands before the mark, and the composed
character, in turn. Hangul syllables are composed by rule and not listed. -/
def composedByMark : List (Nat × String) :=
  [(0x0300, "AÀEÈIÌOÒUÙaàeèiìoòuùÜǛüǜNǸnǹЕЀИЍеѐиѝĒḔēḕŌṐōṑWẀwẁÂẦâầĂẰăằÊỀêềÔỒôồƠỜơờƯỪưừYỲyỳἀἂἁἃἈἊἉἋ"),
   (0x0300, "ἐἒἑἓἘἚἙἛἠἢἡἣἨἪἩἫἰἲἱἳἸἺἹἻὀὂὁὃὈὊὉὋὐὒὑὓὙὛὠὢὡὣὨὪὩὫαὰεὲηὴιὶοὸυὺωὼΑᾺΕῈΗῊ᾿῍ϊῒΙῚ῾῝ϋῢΥῪ¨῭ΟῸΩῺ"),
   (0x0301, "AÁEÉIÍOÓUÚYÝaáeéiíoóuúyýCĆcćLĹlĺNŃnńRŔrŕSŚsśZŹzźÜǗüǘGǴgǵÅǺåǻÆǼæǽØǾøǿ¨΅ΑΆΕΈΗΉΙΊΟΌΥΎΩΏ"),
   (0x0301, "ϊΐαάεέηήιίϋΰοόυύωώϒϓГЃКЌгѓкќÇḈçḉĒḖēḗÏḮïḯKḰkḱMḾmḿÕṌõṍŌṒōṓPṔpṕŨṸũṹWẂwẃÂẤâấĂẮăắÊẾêếÔỐôố"),
   (0x0301, "ƠỚơớƯỨưứἀἄἁἅἈἌἉἍἐἔἑἕἘἜἙἝἠἤἡἥἨἬἩἭἰἴἱἵἸἼἹἽὀὄὁὅὈὌὉὍὐὔὑὕὙὝὠὤὡὥὨὬὩὭ᾿῎῾῞"),
   (0x0302, "AÂEÊIÎOÔUÛaâeêiîoôuûCĈcĉGĜgĝHĤhĥJĴjĵSŜsŝWŴwŵYŶyŷZẐzẑẠẬạậẸỆẹệỌỘọộ"),
   (0x0303, "AÃNÑOÕaãnñoõIĨiĩUŨuũVṼvṽÂẪâẫĂẴăẵEẼeẽÊỄêễÔỖôỗƠỠơỡƯỮưữYỸyỹ"),
   (0x0304, "AĀaāEĒeēIĪiīOŌoōUŪuūÜǕüǖÄǞäǟȦǠȧǡÆǢæǣǪǬǫǭÖȪöȫÕȬõȭȮȰȯȱYȲyȳИӢиӣУӮуӯGḠgḡḶḸḷḹṚṜṛṝαᾱΑᾹιῑΙῙ"),
   (0x0304, "υῡΥῩ"), (0x0306, "AĂaăEĔeĕGĞgğIĬiĭOŎoŏUŬuŭУЎИЙийуўЖӁжӂАӐаӑЕӖеӗȨḜȩḝẠẶạặαᾰΑᾸιῐΙῘυῠΥῨ"),
   (0x0307, "CĊcċEĖeėGĠgġIİZŻzżAȦaȧOȮoȯBḂbḃDḊdḋFḞfḟHḢhḣMṀmṁNṄnṅPṖpṗRṘrṙSṠsṡŚṤśṥŠṦšṧṢṨṣṩTṪtṫWẆwẇXẊ"),
   (0x0307, "xẋYẎyẏſẛ"),
   (0x0308, "AÄEËIÏOÖUÜaäeëiïoöuüyÿYŸΙΪΥΫιϊυϋϒϔЕЁІЇеёіїАӒаӓӘӚәӛЖӜжӝЗӞзӟИӤиӥОӦоӧӨӪөӫЭӬэӭУӰуӱЧӴчӵЫӸ"),
   (0x0308, "ыӹHḦhḧÕṎõṏŪṺūṻWẄwẅXẌxẍtẗ"),
   (0x0309, "AẢaảÂẨâẩĂẲăẳEẺeẻÊỂêểIỈiỉOỎoỏÔỔôổƠỞơởUỦuủƯỬưửYỶyỷ"), (0x030A, "AÅaåUŮuůwẘyẙ"),
   (0x030B, "OŐoőUŰuűУӲуӳ"),
   (0x030C, "CČcčDĎdďEĚeěLĽlľNŇnňRŘrřSŠsšTŤtťZŽzžAǍaǎIǏiǐOǑoǒUǓuǔÜǙüǚGǦgǧKǨkǩƷǮʒǯjǰHȞhȟ"),
   (0x030F, "AȀaȁEȄeȅIȈiȉOȌoȍRȐrȑUȔuȕѴѶѵѷ"), (0x0311, "AȂaȃEȆeȇIȊiȋOȎoȏRȒrȓUȖuȗ"),
   (0x0313, "αἀΑἈεἐΕἘηἠΗἨιἰΙἸοὀΟὈυὐωὠΩὨρῤ"), (0x0314, "αἁΑἉεἑΕἙηἡΗἩιἱΙἹοὁΟὉυὑΥὙωὡΩὩρῥΡῬ"),
   (0x031B, "OƠoơUƯuư"),
   (0x0323, "BḄbḅDḌdḍHḤhḥKḲkḳLḶlḷMṂmṃNṆnṇRṚrṛSṢsṣTṬtṭVṾvṿWẈwẉZẒzẓAẠaạEẸeẹIỊiịOỌoọƠỢơợUỤuụƯỰưựYỴyỵ"),
   (0x0324, "UṲuṳ"), (0x0325, "AḀaḁ"), (0x0326, "SȘsșTȚtț"),
   (0x0327, "CÇcçGĢgģKĶkķLĻlļNŅnņRŖrŗSŞsşTŢtţEȨeȩDḐdḑHḨhḩ"), (0x0328, "AĄaąEĘeęIĮiįUŲuųOǪoǫ"),
   (0x032D, "DḒdḓEḘeḙLḼlḽNṊnṋTṰtṱUṶuṷ"), (0x032E, "HḪhḫ"), (0x0330, "EḚeḛIḬiḭUṴuṵ"),
   (0x0331, "BḆbḇDḎdḏKḴkḵLḺlḻNṈnṉRṞrṟTṮtṯZẔzẕhẖ"),
   (0x0338, "←↚→↛↔↮⇐⇍⇔⇎⇒⇏∃∄∈∉∋∌∣∤∥∦∼≁≃≄≅≇≈≉=≠≡≢≍≭<≮>≯≤≰≥≱≲≴≳≵≶≸≷≹≺⊀≻⊁⊂⊄⊃⊅⊆⊈⊇⊉⊢⊬⊨⊭⊩⊮⊫⊯≼⋠≽⋡⊑⋢⊒⋣⊲⋪⊳⋫"),
   (0x0338, "⊴⋬⊵⋭"), (0x0342, "ἀἆἁἇἈἎἉἏἠἦἡἧἨἮἩἯἰἶἱἷἸἾἹἿὐὖὑὗὙὟὠὦὡὧὨὮὩὯαᾶ¨῁ηῆ᾿῏ιῖϊῗ῾῟υῦϋῧωῶ"),
   (0x0345, "ἀᾀἁᾁἂᾂἃᾃἄᾄἅᾅἆᾆἇᾇἈᾈἉᾉἊᾊἋᾋἌᾌἍᾍἎᾎἏᾏἠᾐἡᾑἢᾒἣᾓἤᾔἥᾕἦᾖἧᾗἨᾘἩᾙἪᾚἫᾛἬᾜἭᾝἮᾞἯᾟὠᾠὡᾡὢᾢὣᾣὤᾤὥᾥὦᾦὧᾧὨᾨὩᾩ"),
   (0x0345, "ὪᾪὫᾫὬᾬὭᾭὮᾮὯᾯὰᾲαᾳάᾴᾶᾷΑᾼὴῂηῃήῄῆῇΗῌὼῲωῳώῴῶῷΩῼ"), (0x0653, "اآ"), (0x0654, "اأوؤيئەۀہۂےۓ"),
   (0x0655, "اإ"), (0x093C, "नऩरऱळऴ"), (0x09BE, "\u09c7\u09cb"), (0x09D7, "\u09c7\u09cc"),
   (0x0B3E, "\u0b47\u0b4b"), (0x0B56, "\u0b47\u0b48"), (0x0B57, "\u0b47\u0b4c"),
   (0x0BBE, "\u0bc6\u0bca\u0bc7\u0bcb"), (0x0BD7, "ஒஔ\u0bc6\u0bcc"), (0x0C56, "\u0c46\u0c48"),
   (0x0CC2, "\u0cc6\u0cca"), (0x0CD5, "\u0cbf\u0cc0\u0cc6\u0cc7\u0cca\u0ccb"),
   (0x0CD6, "\u0cc6\u0cc8"), (0x0D3E, "\u0d46\u0d4a\u0d47\u0d4b"), (0x0D57, "\u0d46\u0d4c"),
   (0x0DCA, "\u0dd9\u0dda\u0ddc\u0ddd"), (0x0DCF, "\u0dd9\u0ddc"), (0x0DDF, "\u0dd9\u0dde"),
   (0x102E, "ဥဦ"),
   (0x1B35, "ᬅᬆᬇᬈᬉᬊᬋᬌᬍᬎᬑᬒ\u1b3a\u1b3b\u1b3c\u1b3d\u1b3e\u1b40\u1b3f\u1b41\u1b42\u1b43"),
   (0x3099, "かがきぎくぐけげこごさざしじすずせぜそぞただちぢつづてでとどはばひびふぶへべほぼうゔゝゞカガキギクグケゲコゴサザシジスズセゼソゾタダチヂツヅテデトドハバヒビフブヘベホボ"),
   (0x3099, "ウヴワヷヰヸヱヹヲヺヽヾ"), (0x309A, "はぱひぴふぷへぺほぽハパヒピフプヘペホポ"), (0x110BA, "𑂙𑂚𑂛𑂜𑂥𑂫"),
   (0x11127, "𑄱𑄮𑄲𑄯"), (0x1133E, "𑍇𑍋"), (0x11357, "𑍇𑍌"), (0x114B0, "𑒹𑒼"), (0x114BA, "𑒹𑒻"),
   (0x114BD, "𑒹𑒾"), (0x115AF, "𑖸𑖺𑖹𑖻"), (0x11930, "𑤵𑤸")]

/-- The members of a list two by two. -/
def twoByTwo {α : Type} : List α → List (α × α)
  | a :: b :: rest => (a, b) :: twoByTwo rest
  | _ => []

/-- A character made of a base and a mark. -/
structure Composition where
  base : Char
  mark : Char
  composed : Char

def compositions : List Composition :=
  composedByMark.flatMap fun (mark, text) =>
    (twoByTwo text.toList).map fun (base, composed) => ⟨base, Char.ofNat mark, composed⟩

/-- The character that two characters make. -/
def compose? (base mark : Char) : Option Char :=
  let b := base.toNat
  let m := mark.toNat
  if 0x1100 ≤ b ∧ b ≤ 0x1112 ∧ 0x1161 ≤ m ∧ m ≤ 0x1175 then
    some (Char.ofNat (0xAC00 + ((b - 0x1100) * 21 + (m - 0x1161)) * 28))
  else if 0xAC00 ≤ b ∧ b ≤ 0xD7A3 ∧ (b - 0xAC00) % 28 = 0 ∧ 0x11A8 ≤ m ∧ m ≤ 0x11C2 then
    some (Char.ofNat (b + (m - 0x11A7)))
  else (compositions.find? fun e => e.base == base && e.mark == mark).map Composition.composed

/-- The two characters that make one. -/
def split? (c : Char) : Option (Char × Char) :=
  let n := c.toNat
  if n < 0xC0 then none
  else if 0xAC00 ≤ n ∧ n ≤ 0xD7A3 then
    let syllable := n - 0xAC00
    if syllable % 28 = 0 then
      some (Char.ofNat (0x1100 + syllable / 588), Char.ofNat (0x1161 + syllable / 28 % 21))
    else some (Char.ofNat (n - syllable % 28), Char.ofNat (0x11A7 + syllable % 28))
  else (compositions.find? fun e => e.composed == c).map fun e => (e.base, e.mark)

/-! ## The composed form -/

/-- A character split as often as `depth` allows, from the last mark on. -/
def parts : Nat → Char → List Char
  | 0, c => [c]
  | depth + 1, c => match split? c with
    | some (base, mark) => parts depth base ++ [mark]
    | none => [c]

/-- Puts a character before marks in order of class: a mark goes behind those of smaller class. -/
def placeMark (c : Char) : List Char → List Char
  | [] => [c]
  | d :: ds =>
    if 0 < combiningClass d ∧ combiningClass d < combiningClass c then d :: placeMark c ds
    else c :: d :: ds

/-- Joins to a base the marks behind it. A mark is kept apart when one of its class or a higher one
was: `kept` holds those, the last first. -/
def joinMarks (base : Char) (kept : List Char) : List Char → List Char
  | [] => base :: kept.reverse
  | c :: cs =>
    let barred := kept.head?.any fun d => decide (combiningClass c ≤ combiningClass d)
    match if barred then none else compose? base c with
    | some joined => joinMarks joined kept cs
    | none =>
      if combiningClass c = 0 then base :: (kept.reverse ++ joinMarks c [] cs)
      else joinMarks base (c :: kept) cs

/-- Joins marks to the base before them; marks at the start have none. -/
def joinAll : List Char → List Char
  | [] => []
  | c :: cs => if combiningClass c = 0 then joinMarks c [] cs else c :: joinAll cs

/-- The composed form. No listed character has more than four parts. -/
def composedForm (cs : List Char) : List Char :=
  if cs.all fun c => decide (c.toNat < 0xC0) then cs
  else joinAll ((cs.flatMap (parts 4)).foldr placeMark [])

end Conform.Text
