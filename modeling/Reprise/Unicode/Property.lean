import Reprise.Unicode.Category

/-!
# Properties of characters (Unicode 16)

The properties that a character has or has not.  Where the standard derives a property from the
general category and a list of exceptions, the definition says so (`alphabetic`, `lowercase`,
`idStart`), and only the exceptions are tables.  `wordChars`, `digits` and `blanks` are the classes
that patterns have letters for.
-/

namespace Reprise.Unicode

open Text Category

/-! ## Tables of exceptions -/

/-- Lower case characters that are no lower case letters. -/
def otherLowercase : CodeSet := .ofText [
    "Ba1f1Ll972u5z01xk1zI11zxfxvd1x2x5Rh1d1gdCjgWgqxYi2+Mu2Ci1A1332X2491Twm1231xa19xSzlxu"]

/-- Upper case characters that are no upper case letters. -/
def otherUppercase : CodeSet := .ofText ["EH0gW6qzPz0q6q6q"]

/-- Alphabetic characters that are neither letters nor letter numbers. -/
def otherAlphabetic : CodeSet := .ofText [
    "W51tdO0e11121211y8bxgd17g1z57442241x31ugz6bz52391314za1xsc376kxm22f1253a2t3xq72222a1a2t3xq54",
    "22241u231b3xq81312l2m343xq7222292a2u1xr53313a1x85xp7131382b2t3xq7131382b2f1c4xq71313a1a2t3yb",
    "61118i2xt127i1z312612g1B3j9b1x4zec1124n443132734dc11a4xPk2u2u2u2y2jBs2x21zmc49Cu5xpa2kya2b3x",
    "h5xgfxs3u922xpbxijIsx2xS1xkyDmx0+zk8x22H2181n5yo2xig11xp1x65scxd4xgcx51y3ec182xd3xi1132251xc",
    "551Dd8PVj1yyn5xQ631254Uk4y11G12yf1E33xlexd2b3xd991xt3x4ci2xp3xgde2ys9216121Atan4xq72222a1a2y",
    "k911211412z7d13zaiDd727t2yif11zabz7eE1dDn612223111Ae72641saxa514ibxeeIn817yjm1ezq63112131131",
    "y251214Gs49211xg733MKthzN011xn74yt2PBc1EX171h271215z41yBn1x-8q6q6q"]

/-- Mathematical characters that are no mathematical symbols. -/
def otherMath : CodeSet := .ofText [
    "yu1Xh321q222Dx01r3b1x04o2e2y1d413245i1412a113561322213163455yb5241212111522424i2211171162F24",
    "B8211o1h1Jt2c955522235e11126o2xp111t492Gm2vaIjmxv4x02xRz311141Cj111xRC1yl1y7122122241c11171y",
    "11428171s141511371Gk2p1p1v1p1v1p1v1p1v1p182xiBM041r1211211a141111614111111312112111111111121",
    "124171414111a1h53151h"]

/-- Characters that have a meaning in the syntax of patterns and programs. -/
def patternSyntax : CodeSet := .ofText [
    "x1fa7q411q4x2711121112414131n1v1DUoo8f2j1aFhSgB0PmuxzcM0A0I134pf1xPEd2E52"]

/-- Characters that may start an identifier for the sake of older identifiers. -/
def otherIdStart : CodeSet := .ofText ["CA52yAh1l1zXc2"]

/-- Characters that may stand inside an identifier for the sake of older identifiers. -/
def otherIdContinue : CodeSet := .ofText ["Bn1Sf1z-19xP81xNh2ADd1xPP91"]

/-- Characters that extend a grapheme and are no nonspacing or enclosing marks. -/
def otherGraphemeExtend : CodeSet := .ofText [
    "yJu1o1H61o1z61o1D8111421292z71o1zn1f1yFl1u1xw01511152z51y72xwo1Ax12+F31zc1RKt2AN01zk1E81e191",
    "z0191211351D01c1Dh1E61Pp1c1xM31QBe2UHj266UHRdz0"]

/-- Characters that select a variant of the character before them. -/
def variationSelector : CodeSet := .ofText ["Cwb311xVLggWwTgDg"]

/-- Characters that are ignored where they cannot be shown, besides formats and selectors. -/
def otherDefaultIgnorable : CodeSet := .ofText [
    "Wf1zMf2xOj2yBf1ADu1xPNr1yf9Www711uz0A0DgzMg"]

/-- Formats that enclose the digits after them. -/
def prependedMark : CodeSet := .ofText ["xM06Cn1xh1I02yg1yx+q1f1"]

/-- Lower case characters that do not change when they are put in upper case. -/
def caseless : CodeSet := .ofText [
    "Ba1f1zt1yk1s2e131z21i6r12111232141521122171211236511182q72u5Al1A11H31x71yXj1zw3zp131g1xhCs21",
    "1Kh1d1gdzd13231r141412284yV712127z61+Jn2Ai2xu9l161p1x3111s333Vlx3171eTwm1231xa19xPyvqq71iqqq",
    "411171bqqqqqqqqqqqqqqqqqssp16qp16qp16qp16qp1611xVka1k66E5xu"]

/-- Upper case characters that do not change when they are put in lower case. -/
def uppercaseOnly : CodeSet := .ofText [
    "+i3DFd141332321356131322211a251zIRqqqqqqq11221222418qqq2142817r214151137rqqqqqqqqqqqupx1px1p",
    "x1px1px11CH5q6q6q"]

/-- Characters that change by folding but not by lowering, or the other way round. -/
def foldDiffers : CodeSet := .ofText [
    "Bl1x91z91xl1K51zs1d232p231Ih1zMoym26yA29Mh2D488888a321a321xa321xyXoygPW07c5"]

/-- Characters that change in upper case but not in title case, or the other way round. -/
def titleDiffers : CodeSet := .ofText ["K421212x52zStxb23zQ888888c1f1xf1"]

/-- Punctuation that may stand inside a word. -/
def midWord : CodeSet := .ofText [
    "x7161b1zs1Sf1Kn1Ak1CN32a121xTLb1xu121Bh161b1"]

/-- Dashes that are no dash punctuation. -/
def otherDash : CodeSet := .ofText ["Eyj1x71f1I61"]

/-- Characters that may not start an identifier once it is brought to a normal form. -/
def notXidStart : CodeSet := .ofText [
    "Xq1yRo1zv1EL72xO+16Im2zk111111111111111Ev2"]

/-- Characters that may not stand in an identifier once it is brought to a normal form. -/
def notXidContinue : CodeSet := .ofText ["Xq1HF02xO+16Im2zk111111111111111"]

/-- Ideographs and other signs that stand for words. -/
def ideographic : CodeSet := .ofText [
    "Iw62p9e3+5CK0y0QM0SE0He2zaZEa1rB-o8xCmx9aFz7IcPE4xFT0x0Axq6Cu2BQ2eDFhfPeyJ2MuxL2AWb5Az0"]

/-- Signs that end sentences. -/
def sentenceTerminal : CodeSet := .ofText [
    "x11c1g1xG91Aj3Bk1xb3Dm1xt11132F52xT42Um142U51C62At2xd151Fq2H24B22a222t3Br2y12Z41n293zBf3Fi1d",
    "1m2Jd1ZDs1Ee2D3131Hu2ym2yv1Ao2Aj3Ag2Dp1QN6122xr132B91c1g1y11yTk2xDt5xc4Bt2zl4zv3A1261g2yo212",
    "zc1Fa2zl2Hl25fz92Dp3M5111Dr2yn2J42Rk2ya2OV92A51y12b1N92F81PM61DL81"]

/-! ## Derived properties -/

def lowercase : CodeSet := lowerLetter.chars.union otherLowercase

def uppercase : CodeSet := upperLetter.chars.union otherUppercase

def cased : CodeSet := .unions [lowercase, uppercase, titleLetter.chars]

def alphabetic : CodeSet := (charsOf (letterNumber :: letters)).union otherAlphabetic

def math : CodeSet := mathSymbol.chars.union otherMath

def changesWhenLowercased : CodeSet := (uppercase.union titleLetter.chars).diff uppercaseOnly

def changesWhenUppercased : CodeSet := (lowercase.union titleLetter.chars).diff caseless

def changesWhenTitlecased : CodeSet := changesWhenUppercased.symmDiff titleDiffers

/-- Folding lowers, but takes some pairs of lower case characters together and brings Cherokee
letters to their capitals. -/
def changesWhenCasefolded : CodeSet := changesWhenLowercased.symmDiff foldDiffers

def changesWhenCasemapped : CodeSet :=
  .unions [changesWhenLowercased, changesWhenUppercased, changesWhenTitlecased]

def caseIgnorable : CodeSet :=
  (charsOf [nonspacingMark, enclosingMark, format, modifierLetter, modifierSymbol]).union midWord

def graphemeExtend : CodeSet :=
  (charsOf [nonspacingMark, enclosingMark]).union otherGraphemeExtend

/-- The characters that have a shape and extend no other. -/
def graphemeBase : CodeSet :=
  (charsOf [control, format, privateUse, unassigned, surrogate, lineSeparator, paragraphSeparator]
    |>.union graphemeExtend).complement

def patternWhiteSpace : CodeSet :=
  .ofRanges [('\t', '\r'), (' ', ' '), ('\x85', '\x85'), ('\u200e', '\u200f'),
    ('\u2028', '\u2029')]

def idStart : CodeSet :=
  (charsOf (letterNumber :: letters)).union otherIdStart
    |>.diff (patternSyntax.union patternWhiteSpace)

def idContinue : CodeSet :=
  CodeSet.unions [idStart, otherIdContinue,
      charsOf [nonspacingMark, spacingMark, decimalNumber, connectorPunctuation]]
    |>.diff (patternSyntax.union patternWhiteSpace)

/-- Formats and the like; annotations and the joiners of hieroglyphs are shown. -/
def defaultIgnorable : CodeSet :=
  CodeSet.unions [format.chars, variationSelector, otherDefaultIgnorable]
    |>.diff (.unions [prependedMark, .ofRange 0x13430 0x1343f, .ofRange 0xfff9 0xfffb])

def joinControl : CodeSet := .ofRanges [('\u200c', '\u200d')]

def regionalIndicator : CodeSet := .ofRange 0x1f1e6 0x1f1ff

def emojiModifier : CodeSet := .ofRange 0x1f3fb 0x1f3ff

def whiteSpace : CodeSet :=
  (charsOf [spaceSeparator, lineSeparator, paragraphSeparator]).union
    (.ofRanges [('\t', '\r'), ('\x85', '\x85')])

/-- The last two code points of every plane and a block of 32. -/
def noncharacters : CodeSet :=
  .unions (.ofRange 0xfdd0 0xfdef ::
    (List.range 17).map fun plane => .ofRange (0x10000 * plane + 0xfffe) (0x10000 * plane + 0xffff))

/-! ## Classes of patterns -/

/-- Alphabetic characters, marks, decimal digits, connectors and joiners. -/
def wordChars : CodeSet :=
  .unions [alphabetic, charsOf (decimalNumber :: connectorPunctuation :: marks), joinControl]

def digits : CodeSet := decimalNumber.chars

def blanks : CodeSet := whiteSpace

/-! ## All properties -/

/-- A property: its long name, its short names, and the characters that have it. -/
structure Property where
  name : String
  codes : List String
  chars : CodeSet

/-- The properties by name. -/
def properties : List Property := [
  ⟨"ASCII_Hex_Digit", ["AHex"], .ofText ["xga76q6"]⟩,
  ⟨"Alphabetic", ["Alpha"], alphabetic⟩,
  ⟨"Bidi_Control", ["Bidi_C"], .ofText ["xMs1CLh2q5xn4"]⟩,
  ⟨"Bidi_Mirrored", ["Bidi_M"], .ofText [
    "x82i111s111t111xd1f1zPu4xWt2yIs2a2xm2e2Bh1C043631323414111149511i549211181x02451922j5295224o",
    "2g84k272xxteya124121354533eIjm261e817631451225411322a622cj14211121145263o2b24412224xb281x851",
    "113553413511E01M343212e22axb8Jba28xPNt652B22i111s111t1111212xRXn1xp1xp1xp1xp1"]⟩,
  ⟨"Case_Ignorable", ["CI"], caseIgnorable⟩,
  ⟨"Cased", [], cased⟩,
  ⟨"Changes_When_Casefolded", ["CWCF"], changesWhenCasefolded⟩,
  ⟨"Changes_When_Casemapped", ["CWCM"], changesWhenCasemapped⟩,
  ⟨"Changes_When_Lowercased", ["CWL"], changesWhenLowercased⟩,
  ⟨"Changes_When_Titlecased", ["CWT"], changesWhenTitlecased⟩,
  ⟨"Changes_When_Uppercased", ["CWU"], changesWhenUppercased⟩,
  ⟨"Dash", [], dashPunctuation.chars.union otherDash⟩,
  ⟨"Default_Ignorable_Code_Point", ["DI"], defaultIgnorable⟩,
  ⟨"Deprecated", ["Dep"], .ofText ["G91xF91yE3111yx92yC56Rp2XTCm1"]⟩,
  ⟨"Diacritic", ["Dia"], .ofText [
    "yu111y71614122LnAv1856h24192Dt5Ch1xnxd11121211A3842A624233y3ryrbxqbx22zu8x9agsxt1g134s1ya1g1",
    "ze1g1ze1g1xf3xs1g171zn1ze1g1ze1g1zd2g1zs1zf1c611zb1d5yb2r1111142y2312xu1zg112x8245p711a2S13Z",
    "k2u1Akb91Gr3F41k821xgf2bz81f1x69xm2xq1b2y22y06yip416123xixvypcx5bJt113b3d3d3d2zDg3Ft1Lq6z94y",
    "v1ZHi1c211s2yi2ex2z63zd2c1x51An1rixp4x41yv1c1x41Al3y14xj1z4593A02PVg1U1gEe111xf1xd2y31Ts1xAv",
    "61xa19Pt341B52Nr6x61q5If3y6bxh4C01x91y82zo2xu1yc193z82Bi2yg2g1o735yp312d2yv131zr2Dr2zu1zm2zj",
    "1Ed2E2241As1yj1i1yh1J51E2112yh1J92n1BDcfHCp1yK05xr7Nk2N2hyg2L-u41712DU1xe2nN03368827u4zQ2xuC",
    "27Hn1xt4Tu2T07zd313"]⟩,
  ⟨"Emoji", [], .ofText [
    "x31615azf141DYd1c1Co1m1yq6f2Hf2c1B61pb43C71D72a191xq415912122214121122131328351115cb2211211i",
    "122i6111232512242b25221521112k256142141212611211111613161a2f12141114311b2xg391e1e1Hk2Kf3j2xj",
    "141xCq1c1Op111zLHa1Ca1B02c2e12aybq12n1k129l2Bex22zg22132yj231E71xvb61o7228c1242142d221829153",
    "c38321114161316ymxgy658234a3112312aD3c41Erxf1a1Bpzgd3a5xo7f2b69"]⟩,
  ⟨"Emoji_Component", ["EComp"], .ofText ["x31615aD+j1Cl1xTFb1xY+mqLr5xJg4UxPcz0"]⟩,
  ⟨"Emoji_Modifier", ["EMod"], emojiModifier⟩,
  ⟨"Emoji_Modifier_Base", ["EBase"], .ofText [
    "FMt1Cr1g4zPzn1xs32123zl22blj3143137111o1C9241l142Be335yj1g391b1Nv12188619a23xo1xt21211h31dD5",
    "3xa9"]⟩,
  ⟨"Emoji_Presentation", ["EPres"], .ofText [
    "EUq2Cd43121M92l2xicxb1j1d182h2528151l1721141217142s1x31114311xt3o1e1Wr2xj141zNBe1Ca1Bu12aybq",
    "11o1k12513l2Bex1c91y61mcxb45ch313y7111Br2xvd41oi1q2d1ymylxgy661332344b279D3c41Erxf1a1Bpzgd3a",
    "5xo7f2b69"]⟩,
  ⟨"Extended_Pictographic", ["ExtPict"], .ofText [
    "B9141DYd1c1Co1m1yq6f2Hf2c1yv1y61pb43C71D72a191xq4161c1ziazm2b1111613161a2f12141114311b5xd391",
    "e1e1Hk2Kf3j2xj141xCq1c1Op111zLH6E0d3v1xs6c2e12aixprfa1k129149Ji5Fu8EaxgA0zkcylxbc4xo8a6x88uy",
    "icxf1a1JpE0-u"]⟩,
  ⟨"Extender", ["Ext"], .ofText [
    "Bn1Mo2Xe1Jp1Pm1A91yp1Tg1zv1yG31xo1P31Ie1y41AY91xb5z72yt3XUm1xLm1+21m1A91zc1l2Rzr1ywg2xKb1r14",
    "1xC71F51zk2Li3xCf1QB92xAs211YGo2xBh1Wk3"]⟩,
  ⟨"Grapheme_Base", ["Gr_Base"], graphemeBase⟩,
  ⟨"Grapheme_Extend", ["Gr_Ext"], graphemeExtend⟩,
  ⟨"Grapheme_Link", ["Gr_Link"], .ofText [
    "yGd1zv1zv1zv1zv1zv1zv1zv1zd2g1zs1zf1zv1C91Bk2xSp2u1At1Qd1D31z52y62AIb1+Q61x51An1Ae1zc1Fl1Dm1",
    "TOh1xM61x91e1xp1zp2Ab1zk1Bk1z21A03zh1zv1Ds1zv1zm1zk1Ed1E32B11yj1i1yh1J51E42yh1J92MLc1"]⟩,
  ⟨"Hex_Digit", ["Hex"], .ofText ["xga76q6x-R9a76q6"]⟩,
  ⟨"Hyphen", [], .ofText ["xd1zv1xCs1APr1yw92zM51T31xPH71B91yn1"]⟩,
  ⟨"IDS_Binary_Operator", ["IDSB"], .ofText ["H-g22aLh1"]⟩,
  ⟨"IDS_Trinary_Operator", ["IDST"], .ofText ["H-i2"]⟩,
  ⟨"IDS_Unary_Operator", ["IDSU"], .ofText ["H-u2"]⟩,
  ⟨"ID_Compat_Math_Continue", [], .ofText [
    "Bi251DZm13b1fHj141m1zJB21p1v1p1v1p1v1p1v1p1"]⟩,
  ⟨"ID_Compat_Math_Start", [], .ofText ["EM2141m1zJB21p1v1p1v1p1v1p1v1p1"]⟩,
  ⟨"ID_Continue", ["IDC"], idContinue⟩,
  ⟨"ID_Start", ["IDS"], idStart⟩,
  ⟨"Ideographic", ["Ideo"], ideographic⟩,
  ⟨"Join_Control", ["Join_C"], joinControl⟩,
  ⟨"Logical_Order_Exception", ["LOE"], .ofText ["zO05zr5yTg321xADq22112"]⟩,
  ⟨"Lowercase", ["Lower"], lowercase⟩,
  ⟨"Math", [], math⟩,
  ⟨"Modifier_Combining_Mark", ["MCM"], .ofText ["xOk221A316132L121331v1"]⟩,
  ⟨"Noncharacter_Code_Point", ["NChar"], noncharacters⟩,
  ⟨"Other_Alphabetic", ["OAlpha"], otherAlphabetic⟩,
  ⟨"Other_Default_Ignorable_Code_Point", ["ODI"], otherDefaultIgnorable⟩,
  ⟨"Other_Grapheme_Extend", ["OGr_Ext"], otherGraphemeExtend⟩,
  ⟨"Other_ID_Continue", ["OIDC"], otherIdContinue⟩,
  ⟨"Other_ID_Start", ["OIDS"], otherIdStart⟩,
  ⟨"Other_Lowercase", ["OLower"], otherLowercase⟩,
  ⟨"Other_Math", ["OMath"], otherMath⟩,
  ⟨"Other_Uppercase", ["OUpper"], otherUppercase⟩,
  ⟨"Pattern_Syntax", ["Pat_Syn"], patternSyntax⟩,
  ⟨"Pattern_White_Space", ["Pat_WS"], patternWhiteSpace⟩,
  ⟨"Prepended_Concatenation_Mark", ["PCM"], prependedMark⟩,
  ⟨"Quotation_Mark", ["QMark"], .ofText ["x2141A31f1DWs8p2zM71K94d3xPN14Bt141yq2"]⟩,
  ⟨"Radical", [], .ofText ["HQ0q1ypcCm"]⟩,
  ⟨"Regional_Indicator", ["RI"], regionalIndicator⟩,
  ⟨"Sentence_Terminal", ["STerm"], sentenceTerminal⟩,
  ⟨"Soft_Dotted", ["SD"], .ofText [
    "z92C41Ep1u1xk1k1G01z2111CE91xj1d131A41At1J51Cm2yVi1zFZ52xi2xi2xi2xi2xi2xi2xi2xi2xi2xi2xi2xi2",
    "yA61Fh2q1"]⟩,
  ⟨"Terminal_Punctuation", ["Term"], .ofText [
    "x11a111b231Vu181M11xp1y81e113Bk1xbb11Db2xm618v1E52xDk2Bc146Fn2Ul8U51zs3y72At331x7422Fq2H24B2",
    "2a213t3Br5xu2Z41n293zBf3Fi1d141a11232Jc2ZDr2Ed3D35Hu2ym2yv1An3Aj3zv1g2Dp1QN6122xp314B91a111b",
    "231y1121xxq1xg1xA61C71Fm2Ao6y46yp4Zo5xc4Bt7zg4zv3A1261g2yo5zc1Fa2zl3c2H643fz92Dp3M5111Dr2yn2",
    "42Iu3xd1Q52ya2xFb5NLp2A51y13a1N92F72PM61DL74"]⟩,
  ⟨"Unified_Ideograph", ["UIdeo"], .ofText [
    "Jw0CK0y0QM0SMe21112a1111223yxKmxFT0x0Axq6Cu2BQ2eDFhfPeAJ2AWb5Az0"]⟩,
  ⟨"Uppercase", ["Upper"], uppercase⟩,
  ⟨"Variation_Selector", ["VS"], variationSelector⟩,
  ⟨"White_Space", ["WSpace", "space"], whiteSpace⟩,
  ⟨"XID_Continue", ["XIDC"], idContinue.diff notXidContinue⟩,
  ⟨"XID_Start", ["XIDS"], idStart.diff notXidStart⟩]

end Reprise.Unicode
