import Estate.Text.Table

/-!
Names of general categories and of scripts, in lower case and without underscores, with the
abbreviation or the full name they stand for.
-/

namespace Estate.Text

def categoryNames : String := "
  c=C other=C cc=Cc control=Cc cntrl=Cc cf=Cf format=Cf cn=Cn unassigned=Cn co=Co privateuse=Co
  cs=Cs surrogate=Cs l=L letter=L lc=LC casedletter=LC ll=Ll lowercaseletter=Ll lm=Lm
  modifierletter=Lm lo=Lo otherletter=Lo lt=Lt titlecaseletter=Lt lu=Lu uppercaseletter=Lu m=M
  mark=M combiningmark=M mc=Mc spacingmark=Mc me=Me enclosingmark=Me mn=Mn nonspacingmark=Mn n=N
  number=N nd=Nd decimalnumber=Nd digit=Nd nl=Nl letternumber=Nl no=No othernumber=No p=P
  punctuation=P punct=P pc=Pc connectorpunctuation=Pc pd=Pd dashpunctuation=Pd pe=Pe
  closepunctuation=Pe pf=Pf finalpunctuation=Pf pi=Pi initialpunctuation=Pi po=Po
  otherpunctuation=Po ps=Ps openpunctuation=Ps s=S symbol=S sc=Sc currencysymbol=Sc sk=Sk
  modifiersymbol=Sk sm=Sm mathsymbol=Sm so=So othersymbol=So z=Z separator=Z zl=Zl
  lineseparator=Zl zp=Zp paragraphseparator=Zp zs=Zs spaceseparator=Zs"

def scriptNames : String := "
  adlm=Adlam adlam=Adlam aghb=Caucasian_Albanian caucasianalbanian=Caucasian_Albanian ahom=Ahom
  arab=Arabic arabic=Arabic armi=Imperial_Aramaic imperialaramaic=Imperial_Aramaic armn=Armenian
  armenian=Armenian avst=Avestan avestan=Avestan bali=Balinese balinese=Balinese bamu=Bamum
  bamum=Bamum bass=Bassa_Vah bassavah=Bassa_Vah batk=Batak batak=Batak beng=Bengali
  bengali=Bengali bhks=Bhaiksuki bhaiksuki=Bhaiksuki bopo=Bopomofo bopomofo=Bopomofo brah=Brahmi
  brahmi=Brahmi brai=Braille braille=Braille bugi=Buginese buginese=Buginese buhd=Buhid
  buhid=Buhid cakm=Chakma chakma=Chakma cans=Canadian_Aboriginal
  canadianaboriginal=Canadian_Aboriginal cari=Carian carian=Carian cham=Cham cher=Cherokee
  cherokee=Cherokee chrs=Chorasmian chorasmian=Chorasmian copt=Coptic coptic=Coptic qaac=Coptic
  cpmn=Cypro_Minoan cyprominoan=Cypro_Minoan cprt=Cypriot cypriot=Cypriot cyrl=Cyrillic
  cyrillic=Cyrillic deva=Devanagari devanagari=Devanagari diak=Dives_Akuru divesakuru=Dives_Akuru
  dogr=Dogra dogra=Dogra dsrt=Deseret deseret=Deseret dupl=Duployan duployan=Duployan
  egyp=Egyptian_Hieroglyphs egyptianhieroglyphs=Egyptian_Hieroglyphs elba=Elbasan elbasan=Elbasan
  elym=Elymaic elymaic=Elymaic ethi=Ethiopic ethiopic=Ethiopic gara=Garay garay=Garay
  geor=Georgian georgian=Georgian glag=Glagolitic glagolitic=Glagolitic gong=Gunjala_Gondi
  gunjalagondi=Gunjala_Gondi gonm=Masaram_Gondi masaramgondi=Masaram_Gondi goth=Gothic
  gothic=Gothic gran=Grantha grantha=Grantha grek=Greek greek=Greek gujr=Gujarati
  gujarati=Gujarati gukh=Gurung_Khema gurungkhema=Gurung_Khema guru=Gurmukhi gurmukhi=Gurmukhi
  hang=Hangul hangul=Hangul hani=Han han=Han hano=Hanunoo hanunoo=Hanunoo hatr=Hatran
  hatran=Hatran hebr=Hebrew hebrew=Hebrew hira=Hiragana hiragana=Hiragana
  hluw=Anatolian_Hieroglyphs anatolianhieroglyphs=Anatolian_Hieroglyphs hmng=Pahawh_Hmong
  pahawhhmong=Pahawh_Hmong hmnp=Nyiakeng_Puachue_Hmong nyiakengpuachuehmong=Nyiakeng_Puachue_Hmong
  hung=Old_Hungarian oldhungarian=Old_Hungarian ital=Old_Italic olditalic=Old_Italic java=Javanese
  javanese=Javanese kali=Kayah_Li kayahli=Kayah_Li kana=Katakana katakana=Katakana kawi=Kawi
  khar=Kharoshthi kharoshthi=Kharoshthi khmr=Khmer khmer=Khmer khoj=Khojki khojki=Khojki
  kits=Khitan_Small_Script khitansmallscript=Khitan_Small_Script knda=Kannada kannada=Kannada
  krai=Kirat_Rai kiratrai=Kirat_Rai kthi=Kaithi kaithi=Kaithi lana=Tai_Tham taitham=Tai_Tham
  laoo=Lao lao=Lao latn=Latin latin=Latin lepc=Lepcha lepcha=Lepcha limb=Limbu limbu=Limbu
  lina=Linear_A lineara=Linear_A linb=Linear_B linearb=Linear_B lisu=Lisu lyci=Lycian
  lycian=Lycian lydi=Lydian lydian=Lydian mahj=Mahajani mahajani=Mahajani maka=Makasar
  makasar=Makasar mand=Mandaic mandaic=Mandaic mani=Manichaean manichaean=Manichaean marc=Marchen
  marchen=Marchen medf=Medefaidrin medefaidrin=Medefaidrin mend=Mende_Kikakui
  mendekikakui=Mende_Kikakui merc=Meroitic_Cursive meroiticcursive=Meroitic_Cursive
  mero=Meroitic_Hieroglyphs meroitichieroglyphs=Meroitic_Hieroglyphs mlym=Malayalam
  malayalam=Malayalam modi=Modi mong=Mongolian mongolian=Mongolian mroo=Mro mro=Mro
  mtei=Meetei_Mayek meeteimayek=Meetei_Mayek mult=Multani multani=Multani mymr=Myanmar
  myanmar=Myanmar nagm=Nag_Mundari nagmundari=Nag_Mundari nand=Nandinagari nandinagari=Nandinagari
  narb=Old_North_Arabian oldnortharabian=Old_North_Arabian nbat=Nabataean nabataean=Nabataean
  newa=Newa nkoo=Nko nko=Nko nshu=Nushu nushu=Nushu ogam=Ogham ogham=Ogham olck=Ol_Chiki
  olchiki=Ol_Chiki onao=Ol_Onal olonal=Ol_Onal orkh=Old_Turkic oldturkic=Old_Turkic orya=Oriya
  oriya=Oriya osge=Osage osage=Osage osma=Osmanya osmanya=Osmanya ougr=Old_Uyghur
  olduyghur=Old_Uyghur palm=Palmyrene palmyrene=Palmyrene pauc=Pau_Cin_Hau paucinhau=Pau_Cin_Hau
  perm=Old_Permic oldpermic=Old_Permic phag=Phags_Pa phagspa=Phags_Pa phli=Inscriptional_Pahlavi
  inscriptionalpahlavi=Inscriptional_Pahlavi phlp=Psalter_Pahlavi psalterpahlavi=Psalter_Pahlavi
  phnx=Phoenician phoenician=Phoenician plrd=Miao miao=Miao prti=Inscriptional_Parthian
  inscriptionalparthian=Inscriptional_Parthian rjng=Rejang rejang=Rejang rohg=Hanifi_Rohingya
  hanifirohingya=Hanifi_Rohingya runr=Runic runic=Runic samr=Samaritan samaritan=Samaritan
  sarb=Old_South_Arabian oldsoutharabian=Old_South_Arabian saur=Saurashtra saurashtra=Saurashtra
  sgnw=SignWriting signwriting=SignWriting shaw=Shavian shavian=Shavian shrd=Sharada
  sharada=Sharada sidd=Siddham siddham=Siddham sind=Khudawadi khudawadi=Khudawadi sinh=Sinhala
  sinhala=Sinhala sogd=Sogdian sogdian=Sogdian sogo=Old_Sogdian oldsogdian=Old_Sogdian
  sora=Sora_Sompeng sorasompeng=Sora_Sompeng soyo=Soyombo soyombo=Soyombo sund=Sundanese
  sundanese=Sundanese sunu=Sunuwar sunuwar=Sunuwar sylo=Syloti_Nagri sylotinagri=Syloti_Nagri
  syrc=Syriac syriac=Syriac tagb=Tagbanwa tagbanwa=Tagbanwa takr=Takri takri=Takri tale=Tai_Le
  taile=Tai_Le talu=New_Tai_Lue newtailue=New_Tai_Lue taml=Tamil tamil=Tamil tang=Tangut
  tangut=Tangut tavt=Tai_Viet taiviet=Tai_Viet telu=Telugu telugu=Telugu tfng=Tifinagh
  tifinagh=Tifinagh tglg=Tagalog tagalog=Tagalog thaa=Thaana thaana=Thaana thai=Thai tibt=Tibetan
  tibetan=Tibetan tirh=Tirhuta tirhuta=Tirhuta tnsa=Tangsa tangsa=Tangsa todr=Todhri todhri=Todhri
  toto=Toto tutg=Tulu_Tigalari tulutigalari=Tulu_Tigalari ugar=Ugaritic ugaritic=Ugaritic vaii=Vai
  vai=Vai vith=Vithkuqi vithkuqi=Vithkuqi wara=Warang_Citi warangciti=Warang_Citi wcho=Wancho
  wancho=Wancho xpeo=Old_Persian oldpersian=Old_Persian xsux=Cuneiform cuneiform=Cuneiform
  yezi=Yezidi yezidi=Yezidi yiii=Yi yi=Yi zanb=Zanabazar_Square zanabazarsquare=Zanabazar_Square
  zinh=Inherited inherited=Inherited qaai=Inherited zyyy=Common common=Common zzzz=Unknown
  unknown=Unknown"

/-- What a name stands for in a list of names. -/
def nameIn? (names : String) (name : String) : Option String :=
  ((words names).find? fun w => w.takeWhile (· != '=') == name.toList).map fun w =>
    .ofList ((w.dropWhile (· != '=')).drop 1)

def categoryNamed? (name : String) : Option String := nameIn? categoryNames name

def scriptNamed? (name : String) : Option String := nameIn? scriptNames name

end Estate.Text
