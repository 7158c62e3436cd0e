import ApiTypes.Text.Mark

/-!
# Composed letters

A letter with a mark may be written as one character or as two. In composed form
marks stand in order and every letter that can be one with a mark is. The pairs
are those of Unicode 14; syllables of Hangul are composed by counting.
-/

set_option autoImplicit false
set_option maxRecDepth 4096

namespace ApiTypes.Text

/-- The code points of marks, each with the letters that it is set on, and behind each letter both
in one. -/
def composites : List (Nat × String) :=
  [(0x300, "AÀEÈIÌNǸOÒUÙWẀYỲaàeèiìnǹoòuùwẁyỳ¨῭ÂẦÊỀÔỒÜǛâầêềôồüǜĂẰăằĒḔēḕŌṐōṑƠỜơờƯỪưừΑᾺΕῈΗῊΙῚΟῸ" ++
     "ΥῪΩῺαὰεὲηὴιὶοὸυὺωὼϊῒϋῢЕЀИЍеѐиѝἀἂἁἃἈἊἉἋἐἒἑἓἘἚἙἛἠἢἡἣἨἪἩἫἰἲἱἳἸἺἹἻὀὂὁὃὈὊὉὋὐὒὑὓὙὛὠὢὡὣ" ++
     "ὨὪὩὫ᾿῍῾῝"),
   (0x301, "AÁCĆEÉGǴIÍKḰLĹMḾNŃOÓPṔRŔSŚUÚWẂYÝZŹaácćeégǵiíkḱlĺmḿnńoópṕrŕsśuúwẃyýzź¨΅ÂẤÅǺÆǼÇḈÊẾ" ++
     "ÏḮÔỐÕṌØǾÜǗâấåǻæǽçḉêếïḯôốõṍøǿüǘĂẮăắĒḖēḗŌṒōṓŨṸũṹƠỚơớƯỨưứΑΆΕΈΗΉΙΊΟΌΥΎΩΏαάεέηήιίοόυύ" ++
     "ωώϊΐϋΰϒϓГЃКЌгѓкќἀἄἁἅἈἌἉἍἐἔἑἕἘἜἙἝἠἤἡἥἨἬἩἭἰἴἱἵἸἼἹἽὀὄὁὅὈὌὉὍὐὔὑὕὙὝὠὤὡὥὨὬὩὭ᾿῎῾῞"),
   (0x302, "AÂCĈEÊGĜHĤIÎJĴOÔSŜUÛWŴYŶZẐaâcĉeêgĝhĥiîjĵoôsŝuûwŵyŷzẑẠẬạậẸỆẹệỌỘọộ"),
   (0x303, "AÃEẼIĨNÑOÕUŨVṼYỸaãeẽiĩnñoõuũvṽyỹÂẪÊỄÔỖâẫêễôỗĂẴăẵƠỠơỡƯỮưữ"),
   (0x304, "AĀEĒGḠIĪOŌUŪYȲaāeēgḡiīoōuūyȳÄǞÆǢÕȬÖȪÜǕäǟæǣõȭöȫüǖǪǬǫǭȦǠȧǡȮȰȯȱΑᾹΙῙΥῩαᾱιῑυῡИӢУӮиӣуӯ" ++
     "ḶḸḷḹṚṜṛṝ"),
   (0x306, "AĂEĔGĞIĬOŎUŬaăeĕgğiĭoŏuŭȨḜȩḝΑᾸΙῘΥῨαᾰιῐυῠАӐЕӖЖӁИЙУЎаӑеӗжӂийуўẠẶạặ"),
   (0x307, "AȦBḂCĊDḊEĖFḞGĠHḢIİMṀNṄOȮPṖRṘSṠTṪWẆXẊYẎZŻaȧbḃcċdḋeėfḟgġhḣmṁnṅoȯpṗrṙsṡtṫwẇxẋyẏzżŚṤ" ++
     "śṥŠṦšṧſẛṢṨṣṩ"),
   (0x308, "AÄEËHḦIÏOÖUÜWẄXẌYŸaäeëhḧiïoötẗuüwẅxẍyÿÕṎõṏŪṺūṻΙΪΥΫιϊυϋϒϔІЇАӒЕЁЖӜЗӞИӤОӦУӰЧӴЫӸЭӬаӓ" ++
     "еёжӝзӟиӥоӧуӱчӵыӹэӭіїӘӚәӛӨӪөӫ"),
   (0x309, "AẢEẺIỈOỎUỦYỶaảeẻiỉoỏuủyỷÂẨÊỂÔỔâẩêểôổĂẲăẳƠỞơởƯỬưử"),
   (0x30a, "AÅUŮaåuůwẘyẙ"),
   (0x30b, "OŐUŰoőuűУӲуӳ"),
   (0x30c, "AǍCČDĎEĚGǦHȞIǏKǨLĽNŇOǑRŘSŠTŤUǓZŽaǎcčdďeěgǧhȟiǐjǰkǩlľnňoǒrřsštťuǔzžÜǙüǚƷǮʒǯ"),
   (0x30f, "AȀEȄIȈOȌRȐUȔaȁeȅiȉoȍrȑuȕѴѶѵѷ"),
   (0x311, "AȂEȆIȊOȎRȒUȖaȃeȇiȋoȏrȓuȗ"),
   (0x313, "ΑἈΕἘΗἨΙἸΟὈΩὨαἀεἐηἠιἰοὀρῤυὐωὠ"),
   (0x314, "ΑἉΕἙΗἩΙἹΟὉΡῬΥὙΩὩαἁεἑηἡιἱοὁρῥυὑωὡ"),
   (0x31b, "OƠUƯoơuư"),
   (0x323, "AẠBḄDḌEẸHḤIỊKḲLḶMṂNṆOỌRṚSṢTṬUỤVṾWẈYỴZẒaạbḅdḍeẹhḥiịkḳlḷmṃnṇoọrṛsṣtṭuụvṿwẉyỵzẓƠỢơợ" ++
     "ƯỰưự"),
   (0x324, "UṲuṳ"),
   (0x325, "AḀaḁ"),
   (0x326, "SȘTȚsștț"),
   (0x327, "CÇDḐEȨGĢHḨKĶLĻNŅRŖSŞTŢcçdḑeȩgģhḩkķlļnņrŗsştţ"),
   (0x328, "AĄEĘIĮOǪUŲaąeęiįoǫuų"),
   (0x32d, "DḒEḘLḼNṊTṰUṶdḓeḙlḽnṋtṱuṷ"),
   (0x32e, "HḪhḫ"),
   (0x330, "EḚIḬUṴeḛiḭuṵ"),
   (0x331, "BḆDḎKḴLḺNṈRṞTṮZẔbḇdḏhẖkḵlḻnṉrṟtṯzẕ"),
   (0x338, "<≮=≠>≯←↚→↛↔↮⇐⇍⇒⇏⇔⇎∃∄∈∉∋∌∣∤∥∦∼≁≃≄≅≇≈≉≍≭≡≢≤≰≥≱≲≴≳≵≶≸≷≹≺⊀≻⊁≼⋠≽⋡⊂⊄⊃⊅⊆⊈⊇⊉⊑⋢⊒⋣⊢⊬⊨⊭⊩⊮⊫⊯" ++
     "⊲⋪⊳⋫⊴⋬⊵⋭"),
   (0x342, "¨῁αᾶηῆιῖυῦωῶϊῗϋῧἀἆἁἇἈἎἉἏἠἦἡἧἨἮἩἯἰἶἱἷἸἾἹἿὐὖὑὗὙὟὠὦὡὧὨὮὩὯ᾿῏῾῟"),
   (0x345, "ΑᾼΗῌΩῼάᾴήῄαᾳηῃωῳώῴἀᾀἁᾁἂᾂἃᾃἄᾄἅᾅἆᾆἇᾇἈᾈἉᾉἊᾊἋᾋἌᾌἍᾍἎᾎἏᾏἠᾐἡᾑἢᾒἣᾓἤᾔἥᾕἦᾖἧᾗἨᾘἩᾙἪᾚἫᾛἬᾜἭᾝἮᾞ" ++
     "ἯᾟὠᾠὡᾡὢᾢὣᾣὤᾤὥᾥὦᾦὧᾧὨᾨὩᾩὪᾪὫᾫὬᾬὭᾭὮᾮὯᾯὰᾲὴῂὼῲᾶᾷῆῇῶῷ"),
   (0x653, "اآ"),
   (0x654, "اأوؤيئہۂےۓەۀ"),
   (0x655, "اإ"),
   (0x93c, "नऩरऱळऴ"),
   (0x9be, "েো"),
   (0x9d7, "েৌ"),
   (0xb3e, "େୋ"),
   (0xb56, "େୈ"),
   (0xb57, "େୌ"),
   (0xbbe, "ெொேோ"),
   (0xbd7, "ஒஔெௌ"),
   (0xc56, "ెై"),
   (0xcc2, "ೆೊ"),
   (0xcd5, "ಿೀೆೇೊೋ"),
   (0xcd6, "ೆೈ"),
   (0xd3e, "െൊേോ"),
   (0xd57, "െൌ"),
   (0xdca, "ෙේොෝ"),
   (0xdcf, "ෙො"),
   (0xddf, "ෙෞ"),
   (0x102e, "ဥဦ"),
   (0x1b35, "ᬅᬆᬇᬈᬉᬊᬋᬌᬍᬎᬑᬒᬺᬻᬼᬽᬾᭀᬿᭁᭂᭃ"),
   (0x3099, "うゔかがきぎくぐけげこごさざしじすずせぜそぞただちぢつづてでとどはばひびふぶへべほぼゝゞウヴカガキギクグケゲコゴサザシジスズセゼソゾタダチヂツヅテデトドハバヒビ" ++
     "フブヘベホボワヷヰヸヱヹヲヺヽヾ"),
   (0x309a, "はぱひぴふぷへぺほぽハパヒピフプヘペホポ"),
   (0x110ba, "𑂙𑂚𑂛𑂜𑂥𑂫"),
   (0x11127, "𑄱𑄮𑄲𑄯"),
   (0x1133e, "𑍇𑍋"),
   (0x11357, "𑍇𑍌"),
   (0x114b0, "𑒹𑒼"),
   (0x114ba, "𑒹𑒻"),
   (0x114bd, "𑒹𑒾"),
   (0x115af, "𑖸𑖺𑖹𑖻"),
   (0x11930, "𑤵𑤸")]

def pairIn (first : Char) : List Char → Option Char
  | a :: ab :: rest => if a = first then some ab else pairIn first rest
  | _ => none

def partIn (whole : Char) : List Char → Option Char
  | a :: ab :: rest => if ab = whole then some a else partIn whole rest
  | _ => none

def firstSyllable : Nat := 0xAC00
def firstLead : Nat := 0x1100
def firstVowel : Nat := 0x1161
def beforeTails : Nat := 0x11A7
def leads : Nat := 19
def vowels : Nat := 21
def tails : Nat := 28

def isSyllable (n : Nat) : Bool := firstSyllable ≤ n && n < firstSyllable + leads * vowels * tails

def syllableParts (n : Nat) : List Char :=
  let i := n - firstSyllable
  let tail := i % tails
  [Char.ofNat (firstLead + i / (vowels * tails)), Char.ofNat (firstVowel + i % (vowels * tails) / tails)]
    ++ (if tail = 0 then [] else [Char.ofNat (beforeTails + tail)])

def syllable? (a b : Nat) : Option Char :=
  if firstLead ≤ a && a < firstLead + leads && firstVowel ≤ b && b < firstVowel + vowels then
    some (Char.ofNat (firstSyllable + ((a - firstLead) * vowels + (b - firstVowel)) * tails))
  else if isSyllable a && (a - firstSyllable) % tails = 0 && beforeTails < b && b < beforeTails + tails then
    some (Char.ofNat (a + (b - beforeTails)))
  else none

def composed? (a b : Char) : Option Char :=
  (syllable? a.toNat b.toNat).or
    (match composites.find? (·.1 = b.toNat) with
    | some row => pairIn a row.2.toList
    | none => none)

def parts? (c : Char) : Option (Char × Char) :=
  composites.findSome? fun row => (partIn c row.2.toList).map fun a => (a, Char.ofNat row.1)

/-- Marks may be set on a letter that has marks already; no letter has more than this many. -/
def deepest : Nat := 3

def allParts : Nat → Char → List Char
  | 0, c => [c]
  | left + 1, c =>
    if isSyllable c.toNat then syllableParts c.toNat
    else match parts? c with
      | some (a, m) => allParts left a ++ [m]
      | none => [c]

def insertMark (c : Char) : List Char → List Char
  | [] => [c]
  | d :: r => if markOrder c < markOrder d then c :: d :: r else d :: insertMark c r

/-- Each row of marks in order; all other characters keep their place. -/
def arrangeMarks (s : List Char) : List Char :=
  let (done, marks) := s.foldl (fun (done, marks) c =>
    if markOrder c = 0 then (done ++ marks ++ [c], []) else (done, insertMark c marks))
    (([] : List Char), ([] : List Char))
  done ++ marks

/-- A text in the course of its composition: what is finished, the last letter, and the
characters behind it that are not one with it. -/
structure Composing where
  done : List Char
  letter : Option Char
  behind : List Char

/-- A character is one with the last letter unless one of its own kind stands between them. -/
def Composing.step (s : Composing) (c : Char) : Composing :=
  let isReached := match s.behind.getLast? with
    | none => true
    | some d => markOrder d ≠ 0 && markOrder d < markOrder c
  match s.letter.bind fun letter => if isReached then composed? letter c else none with
  | some both => { s with letter := some both }
  | none =>
    if markOrder c = 0 then ⟨s.done ++ s.letter.toList ++ s.behind, some c, []⟩
    else { s with behind := s.behind ++ [c] }

def composed (s : List Char) : List Char :=
  let final := (arrangeMarks (s.flatMap (allParts deepest))).foldl Composing.step ⟨[], none, []⟩
  final.done ++ final.letter.toList ++ final.behind

def isComposed (s : List Char) : Bool := composed s = s

end ApiTypes.Text
