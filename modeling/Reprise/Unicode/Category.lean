import Reprise.Text.CodeSet

/-!
# General categories (Unicode 16)

Every character has one general category.  `Category.chars` lists the characters of a category;
`unassigned` is what no other category holds.  `families` are the unions that have names of their
own, such as all letters.
-/

namespace Reprise.Unicode

open Text

/-- The general category of a character. -/
inductive Category where
  | upperLetter | lowerLetter | titleLetter | modifierLetter | otherLetter
  | nonspacingMark | spacingMark | enclosingMark
  | decimalNumber | letterNumber | otherNumber
  | connectorPunctuation | dashPunctuation | openPunctuation | closePunctuation
  | initialPunctuation | finalPunctuation | otherPunctuation
  | mathSymbol | currencySymbol | modifierSymbol | otherSymbol
  | spaceSeparator | lineSeparator | paragraphSeparator
  | control | format | privateUse | unassigned
  /-- No characters at all; only a range of others leads across them. -/
  | surrogate

namespace Category

/-- The names of a category, the shortest first; surrogates cannot be asked for. -/
def names : Category → List String
  | .upperLetter => ["Lu", "Uppercase_Letter"]
  | .lowerLetter => ["Ll", "Lowercase_Letter"]
  | .titleLetter => ["Lt", "Titlecase_Letter"]
  | .modifierLetter => ["Lm", "Modifier_Letter"]
  | .otherLetter => ["Lo", "Other_Letter"]
  | .nonspacingMark => ["Mn", "Nonspacing_Mark"]
  | .spacingMark => ["Mc", "Spacing_Mark"]
  | .enclosingMark => ["Me", "Enclosing_Mark"]
  | .decimalNumber => ["Nd", "Decimal_Number", "digit"]
  | .letterNumber => ["Nl", "Letter_Number"]
  | .otherNumber => ["No", "Other_Number"]
  | .connectorPunctuation => ["Pc", "Connector_Punctuation"]
  | .dashPunctuation => ["Pd", "Dash_Punctuation"]
  | .openPunctuation => ["Ps", "Open_Punctuation"]
  | .closePunctuation => ["Pe", "Close_Punctuation"]
  | .initialPunctuation => ["Pi", "Initial_Punctuation"]
  | .finalPunctuation => ["Pf", "Final_Punctuation"]
  | .otherPunctuation => ["Po", "Other_Punctuation"]
  | .mathSymbol => ["Sm", "Math_Symbol"]
  | .currencySymbol => ["Sc", "Currency_Symbol"]
  | .modifierSymbol => ["Sk", "Modifier_Symbol"]
  | .otherSymbol => ["So", "Other_Symbol"]
  | .spaceSeparator => ["Zs", "Space_Separator"]
  | .lineSeparator => ["Zl", "Line_Separator"]
  | .paragraphSeparator => ["Zp", "Paragraph_Separator"]
  | .control => ["Cc", "Control", "cntrl"]
  | .format => ["Cf", "Format"]
  | .privateUse => ["Co", "Private_Use"]
  | .unassigned => ["Cn", "Unassigned"]
  | .surrogate => []

/-- The categories that are listed. -/
def assigned : List Category := [
  .upperLetter, .lowerLetter, .titleLetter, .modifierLetter, .otherLetter, .nonspacingMark,
  .spacingMark, .enclosingMark, .decimalNumber, .letterNumber, .otherNumber,
  .connectorPunctuation, .dashPunctuation, .openPunctuation, .closePunctuation,
  .initialPunctuation, .finalPunctuation, .otherPunctuation, .mathSymbol, .currencySymbol,
  .modifierSymbol, .otherSymbol, .spaceSeparator, .lineSeparator, .paragraphSeparator, .control,
  .format, .privateUse]

/-- The code points that the tables give a category; the unassigned ones have none. -/
def listed : Category → CodeSet
  | .upperLetter => .ofText [
    "y1qz5n17x11111111111111111111111111111111111111111111111111111111211111111111111121111111111",
    "11111111111111111111111111111111111121111321112132412133212111112112112131112317121212111111",
    "11111111121111111111111111121211311111111111111111111111111111111111111111111111111111111117",
    "212211411111111F11113181611311121h19x31233111111111111111111111115121122xjxg1111111111111111",
    "11111111111111111911111111111111111111111111111111111111111111111111111121111111111112111111",
    "111111111111111111111111111111111111111111111111111111111111111111111111111111111111111112x6",
    "yW9x61151SiymyAj16xb23G011111111111111111111111111111111111111111111111111111111111111111111",
    "11111111111111111111111111111111111111111111111111111111111111111111111111111111191111111111",
    "1111111111111111111111111111111111111111111111111111111111111111111111111111111111111119886a",
    "88886b111111188y84c4c4c5b4E6141332321356111111424a251xt1yPsxgxg11321111114112183111111111111",
    "11111111111111111111111111111111111111111111111111111111111111111111111111111111111111811141",
    "+Gd111111111111111111111111111111111111111111111j111111111111111111111111111A711111111111113",
    "1111111111111111111111111111111111111111111111111111111111111a111121111111141112111311111111",
    "111111111111515111111111111111411123151111111o1RVbqxC5x8A8x4Asb1f1712xTaxjAtmyVqx0RI0x0VJ0qq",
    "qqqq11221222418qqq2142817r214151137rqqqqqqqqqqqupx1px1px1px1px11AFlx2"]
  | .lowerLetter => .ofText [
    "z1qxq1x9o18111111111111111111111111111111111111111111111111111111121111111111111112111111111",
    "11111111111111111111111111111111111112111132111213241213321211111211211213111222361212111111",
    "11111111112111111111111111112211131111111111111111111111111111111111111111111111111111111111",
    "7212211411111111y51rC11113133i1rx31233111111111111111111111115112122xjxg11111111111111111111",
    "11111111111111911111111111111111111111111111111111111111111111111111211111111111121111111111",
    "11111111111111111111111111111111111111111111111111111111111111111111111111111111111111xgx9yW",
    "7xb23To6yA2911zlxcxvd1x2z6111111111111111111111111111111111111111111111111111111111111111111",
    "11111111111111111111111111111111111111111111111111111111111111111111111111111111119111111111",
    "1111111111111111111111111111111111111111111111111111111111111111111111111111111111111111986a",
    "88886a8888e2888888512613312842288a312Ei13231r14141228441xl1yRbxg1132111111411216511111111111",
    "11111111111111111111111111111111111111111111111111111111111111111111111111111111111111127111",
    "41cx61151+Ej111111111111111111111111111111111111111111111j111111111111111111111111111A711111",
    "11111113111111111111111111111111111111111111111111111111111111111111111811112111111111411121",
    "1311111111111111111111515111111111111111411121311111111111q131Vlxb597ygPW07c5xx9qxCdx8A8x4Ar",
    "b1f1712xU3xjztmyVqx0RI0x0VIqqq71iqqq411171bqqqqqqqqqqqqqqqqqssp16qp16qp16qp16qp1611xVka1k66y",
    "Lnx2"]
  | .titleLetter => .ofText ["K512121x61DIl88888c1f1xf1"]
  | .modifierLetter => .ofText [
    "Rgi4ce57111A5151Ku1D61B42Ed241v19131B01B71xCk1zv1Nl1xSq1zb1P31Kg6Bexvd1x2x5Rh1d1gdy+v2Dh1Bv1",
    "Kl1xb551z12yt3XUm1xD26Ee1zi1s2zp9yg1n1z9332Kl1m1A91zc1l2z7491Rw61xd2x-061xa19xIj1x01TKg4Ls3x",
    "82N6dy0211Mwc41712IxhxuC97Zd1xyv1"]
  | .otherLetter => .ofText [
    "Ba1f1E0144Cg1Vrr44xdx01ax321z311o2a321g11utypb1ox1lmxap7b5o16hx9xrxm31i17agf48222m17113431g1",
    "d213e2a186422m17121212v411j3g9131m17121531i1f2n1b8222m17121531u213f1h116331432111232333cm1xk",
    "8131n1g31q32122u148131n1a1531v212f2h9131x921g15383o65i3o191127xqxg12c6xr211151o111a129125n4x",
    "01xv81x4r5zjxbk1g6443132734dc1zhG9142711142x9142x1142711142f1xp142y3x5gzhPc2h1q5yb687idjeied",
    "13fxkx81y3x31xl752x2115y6avxhu25bxc4qxmn9xlBgxfh8xmud2axcqx4x93auzh4161231xxq4y-nxoon9717171",
    "717171717N71xl14ym811yq415xb1yuhx0xggM0CK0y0QMl1xzny3x88Ec4ga2y21xhy6B91z713713141ntxkexixu6",
    "3112bsanpt7xfxd529a51x9n318kg16313xi1132252111o23b71e626269717Ahx3tGZ4cn4xhEE4He2zay311a1d15",
    "1112121zcx1Hbiy02xmx8czk51A7z9a1xd2v36262623x3c1q1j121f2ex2zrI5t3xhxfx0dk186x6au2x448A0yez2x",
    "88xkysxkcFn9ma8Ao6211xc12312nan9vy1j12amaqy6xo62y01f4131txat3tx381srxmamajdizey9Bnx4x6411Fgx",
    "a62g3xrta18mxaixelrncxlxp221dxdx0pqx4t1218x331cxge4l111x3i1pj2xv711141f1a7xfx68222m17121531i",
    "1c5ua11211x611p111xcxli4k3uxgk211Boxfx94x4xgk1xrxbd1y7rx57BpxcCj82128121of111yu82x7g111s1ax8",
    "71l1bxej1iy9C7x1v91x5h1xhuzg7121x6l1p6121x0e1G7jf11d1x2zs1yfYqD6C4yOcz1fxxgh6pzYr5O7CRpuxT2N",
    "p7vhyfhuixgxjl5jJjx8Ilyb51BfB-o8xCmx9aETnF3f1t321e48IcyE4zb5d397aEPg1Llxdx11G1uixcL4rD5u21Lf",
    "714121f1C5xFr41r1211211a141111614111111312112111111111121124171414111a1h53151hAG4xFT0x0Axq6C",
    "u2BQ2eDFhfPeyJ2MuxL2AWb5Az0"]
  | .nonspacingMark => .ofText [
    "U0zgEj5E9xd11121211y8bxglg1z57262214x31uryrbxq991o4191315xb3xr9xao1x0xn111484137a2t1xq14481k",
    "2q122xp142422331u231b2xp1451241k2m611xq121148172b2u1xt1c1xi131xn113531472b2t1xq1216152k2s2xp",
    "24481k2t1y817311yq127c8z2129b7y92r11111xne15125b1x491z64161222p243g4d12261f1Rv3Zi3t2u2u2y021",
    "7812b91xd311zl2x21zm3429163Cr221xq1171111286a21xge1gxh4xg1151151x89c2x042213xo1123113xq822Ao",
    "31d17416132C6y0Sgd413cy-u3Ad1z0x0Na4zb2ZKk14ax02yg2Eg13141p251An2qid1x68pbxe3xg12422x71y3622",
    "22c181xf1xj113225211xa281De12141PVg1T1ggg+d1D21Al5xQ631254x8341B52Nt4y15Ft2yf4y6bxh4zr1xmfx9",
    "122a3xh42271xt3x4518xu1c2xk9a421yv321126121At138l2xp231x5735y66d11111e2yl82311n1yk6114212De4",
    "6212r2yl82112za1112611z51112415E3912E021141Ag42241x0ax8624819623xed12Im71611yim271212zq63112",
    "1711y823111Gr2b2xk55111n1BD516fHC8c33yK05xr7xwo1xv4yh1PBo2AP1xe2nN03h827u4Ak3xZrxn4xi81e1m51",
    "fxGg71h271215z41B07Hn1xt4Ls4Du2T07zd7UBZlDg"]
  | .spacingMark => .ofText [
    "yE31xn1238412xi2xq36222a1xb1xq3y21xq38112xl2xq1116222a1z62123313a1x93xt4xt2xq115221292s1e2xq",
    "35313a1xa2yb368i2Ga2xv1Bb2416122p2a327l22621a3xPo1u1A117812Gq4234216D02xq111911286Ah1xg15115",
    "12xt1u14221xs1231132xg882Bb1l1AVm2Z-j221yo2xigAe2xf1xg24223ze222o1xd111zd12251Dd2121211Vwj11",
    "1zv1xd342zj1o2xr1xg392d1yt33211Ba3v2xq214222391a2yk37121141211z538231za3611421Dd36421zh38211",
    "zd11261z711241E5391Dn612412111Ae38441yk1t2xu1In1e1za17121Cl54211Gu2c1xg28211ML83zN4xnz82UHj2",
    "66"]
  | .enclosingMark => .ofText ["xA82BNk1xMu413xxIb3"]
  | .decimalNumber => .ofText [
    "xgaxN6aA6aC6aIsazmazmazmazmazmazmazmazmazmaz0azmay6aEmay6axW6ax6aFcaA0aB6a6aBmaymaA6a6axyK6a",
    "R6ax6aC6amaymaImaQUmaxI6ayA6a6aUsaA0axsaAgaEmaGmazmaHmaz6a6kycaJ6az6aQmaymaDmay6aJ6aMKmayF6a",
    "ymaA6aMmaTXmaySkxiyG0aJ6aLmaDnaWlaAQma"]
  | .letterNumber => .ofText [
    "BTe3yPfx324zPu1p9e3ZRbaSOgxlKc181A65Exazf"]
  | .otherNumber => .ofText [
    "Bi25123yFl6Ho6zo3A57Cp7h9JhaxxlkxzjaL01xQl1366aC6gx91SmxsyemPmuxH91xAk4Aaau81fx0ax7fZHg6SChx",
    "dy14h2Glrx44xFk8p7x79yb5m6B022g2xey09xk2u3yb5z88o8x97Ga6H0vAuaxa4zg7A6kHrkxG52Je9X7jWjlOY67U",
    "unVx9kckzcpBGe9Z1xr1314ycxd1f+2d"]
  | .connectorPunctuation => .ofText ["yv1D+v2j1xTKu2o3Df1"]
  | .dashPunctuation => .ofText [
    "xd1xGs1xj1zO11xw51yw96zM1121v241s1Ju1j1zf1xPIg2x51a1B91zP01Fu1"]
  | .openPunctuation => .ofText [
    "x81xi1v1zRu111xWu1yHu131x61xn1f1Pq111u1xxu1111111111111yg1x0111111111Ik111111111111111111111",
    "y0111x11xx51111111p1i1111111Jc1111111113111111121xPF11Cn1t11111111111111131h11111Ba1xi1v1312",
    "1"]
  | .closePunctuation => .ofText [
    "x91xj1v1zRt111xWu1yJ91xn1f1Pq111u1xxu1111111111111yg1x0111111111Ik111111111111111111111y0111",
    "x11xx51111111xc1111111Jc1111111113111111122xPEu1Cp1t11111111111111131h11111Ba1xj1v12121"]
  | .initialPunctuation => .ofText ["Bb1DXc12221p1zK81114121f131"]
  | .finalPunctuation => .ofText ["Br1DWt131s1zK81114121f131"]
  | .otherPunctuation => .ofText [
    "x1313211112a232r1y4151e271Ru181Ki6x91xm12121xc2k212d113ya4z61xbeD93xmfv1E52a1Ac1zo1zp1I61c1H",
    "f1yq1a2B8f11zg1ya542zf6Bb1P49U51zs3y72At313x5614Fp2Co2A0716B02a7s3zs4xr5xu2y08b1W22888924233",
    "b111azAq412zg1Af2432129121122a51a24111d23Jc3xp1Bt1Zw22Ed3z31a1zj6Hs4ym2x8311xh2xf1z1dg2zs4zu",
    "2g2Dp1QN4721m1k2243314736112Al313211112a232r1x4122Iq3Qs1xg1Iu1T71C71v1Eg9x61zg7y27yp4Zo5xc4B",
    "t7zd214zu4xg2yf441d113yo6zb1Fa212zi5a211z81Dqnz93sdyc1A23Ds1E83Ar1ys8yj315ytaCn1yv5xa2Q52yad",
    "Bf1xzg5yXs2KPr2A51y1581N83F74G71PBs1DL75yXj1Wu2"]
  | .mathSymbol => .ofText [
    "xb1g3xt111xd141x51v1Tu1Mf3CNr1d1x73d3Ab1x7561y455241212171v22111vEcx02yq1upx86Kl191xm8zf1Gg5",
    "2vagE0A3mxv4x02E2xgl26xP+s1Vo113B41g3xt111A3164zJ12xOFh1p1v1p1v1p1v1p1v1p1BVc2"]
  | .currencySymbol => .ofText [
    "x41zt4xD91zr1Li2Li271Dl1E71O51yIr1yC4x1xxXn1RK31zc1Aq1Cr232D-m4xMUu1yJg1"]
  | .modifierSymbol => .ofText [
    "yu111y71614131M94ce57111hzl1e2xE21BVk113b3d3d3d2AAs2ZP3n92z72+g1e2Qy6hXr111B21xZwn5"]
  | .otherSymbol => .ofText [
    "B61214111+h1Ea2zv2Ce1a1j2Dn1M31Hl1A2611A41Cf1x91I73f11326k11111A58161254C52TgaSj1Si1Atx2H1a9",
    "9xI321412a1126611111141b2e11211xq295241212171v22111vEc84k272yh1upx86y8mbyhyemBn191xm8zf1Doxc",
    "xcy0E0M0xgl26x72x01z9D56H52xeq1ypcCmqg41d2c1l262Gg24ax0x691gvbu81fx0ax7fG0CK0y0RQgxnX14a211N",
    "t3QS6gzv1xd3L413142d2Fp9xph231d31xfxdxPq2Of1zzm1yAl84hOWa451QGm1zX3DggJkAszkxsDmax72xs53m27u",
    "4xtly231BqynxB9M0xn4xi81e12xS81yWs1A11Shxc4z4cf2f1f1x5nB1xotdxc4972e6AqDr5So4h3d3zn4yv6c41fc",
    "4xo8a6x88u2c42xuGkce2d3a5xo7f2b697Aj1ys"]
  | .spaceSeparator => .ofText ["x01zv1BKv1yHvbx41xf1zZ01"]
  | .lineSeparator => .ofText ["Ex81"]
  | .paragraphSeparator => .ofText ["Ex91"]
  | .control => .ofText ["0x0yvx1"]
  | .format => .ofText [
    "Bd1xGi6m1C01xh1I02yg1zVb1x-s5q5xh51axTQf1Dp3AC11f1EX2gxyz04BCf8UHQ61uz0"]
  | .privateUse => .ofText ["xUw0CE0YxU0x--u2x--u"]
  | .unassigned => .empty
  | .surrogate => .ofRange 0xd800 0xdfff

/-- The characters of a category. -/
def chars : Category → CodeSet
  | .unassigned => (CodeSet.unions (assigned.map listed)).complement
  | c => c.listed

end Category

open Category

def letters : List Category :=
  [upperLetter, lowerLetter, titleLetter, modifierLetter, otherLetter]

def marks : List Category := [nonspacingMark, spacingMark, enclosingMark]

/-- The unions of categories that have names. -/
def families : List (List String × List Category) := [
  (["LC", "Cased_Letter"], [upperLetter, lowerLetter, titleLetter]),
  (["L", "Letter"], letters),
  (["M", "Mark", "Combining_Mark"], marks),
  (["N", "Number"], [decimalNumber, letterNumber, otherNumber]),
  (["P", "Punctuation", "punct"],
    [connectorPunctuation, dashPunctuation, openPunctuation, closePunctuation, initialPunctuation,
      finalPunctuation, otherPunctuation]),
  (["S", "Symbol"], [mathSymbol, currencySymbol, modifierSymbol, otherSymbol]),
  (["Z", "Separator"], [spaceSeparator, lineSeparator, paragraphSeparator]),
  (["C", "Other"], [control, format, privateUse, unassigned, surrogate])]

/-- The characters of any of the categories. -/
def charsOf (categories : List Category) : CodeSet := .unions (categories.map Category.chars)

end Reprise.Unicode
