import Reprise.Text.CodeSet

/-!
# Scripts (Unicode 16)

A script is a writing system.  Every character belongs to one script, among them `Common` for what
many scripts use and `Inherited` for marks that take the script of their base.  Some characters of
these two, and a few others, are known to be used in certain scripts only: the script extensions
list them there (`Script.further`) and take them away from `Common` and `Inherited`.
-/

namespace Reprise.Unicode

open Text

/-- A script: its name, its code and other short names, its characters, and the characters of other
scripts that are used in it, too. -/
structure Script where
  name : String
  codes : List String
  chars : CodeSet
  further : CodeSet := .empty

/-- The scripts by name. -/
def scripts : List Script := [
  ⟨"Adlam", ["Adlm"], .ofText ["zWE0yc4a42"], .ofText ["xMv1x01CMe1zLh1"]⟩,
  ⟨"Ahom", ["Ahom"], .ofText ["yBU0r2f4n"], .empty⟩,
  ⟨"Anatolian_Hieroglyphs", ["Hluw"], .ofText ["yNw0O7"], .empty⟩,
  ⟨"Arabic", ["Arab"], .ofText [
    "xM05161e131x01abq1zc1x2ygxgDgv125yb1txYOgzjgHb2yg2xm71x0gzg51A7zX3vy33xn4xTU041r1211211a1411",
    "11614111111312112111111111121124171414111a1h53151hxk2"],
    .ofText ["xMc1e131x01abq1CKu1zLh1xPTs2xJ0s"]⟩,
  ⟨"Armenian", ["Armn"], .ofText ["xFhx62xi23xZI35"], .ofText ["U81"]⟩,
  ⟨"Avestan", ["Avst"], .ofText ["yyU0xm37"], .ofText ["Bn1HHo2"]⟩,
  ⟨"Balinese", ["Bali"], .ofText ["CU0yd1xi"], .empty⟩,
  ⟨"Bamum", ["Bamu"], .ofText ["xFR0yoxME8Np"], .empty⟩,
  ⟨"Bassa_Vah", ["Bass"], .ofText ["yWSgu26"], .empty⟩,
  ⟨"Batak", ["Batk"], .ofText ["C+0xk84"], .empty⟩,
  ⟨"Bengali", ["Beng"], .ofText ["yI0418222m1711342922248142152p"],
    .ofText ["Rs1xQk2h2AXa11122118181214123xy-p1"]⟩,
  ⟨"Bhaiksuki", ["Bhks"], .ofText ["yDw091xd1eat"], .empty⟩,
  ⟨"Bopomofo", ["Bopo"], .ofText ["Ta2HMpxbzgx0"], .ofText ["S7113d1HF734a1da42161C31xPG92Eq5"]⟩,
  ⟨"Brahmi", ["Brah"], .ofText ["yAw0ye4x491"], .empty⟩,
  ⟨"Braille", ["Brai"], .ofText ["Gw0E0"], .empty⟩,
  ⟨"Buginese", ["Bugi"], .ofText ["CM0s22"], .ofText ["xGKf1"]⟩,
  ⟨"Buhid", ["Buhd"], .ofText ["BW0k"], .ofText ["BVl2"]⟩,
  ⟨"Canadian_Aboriginal", ["Cans"], .ofText ["Bw0Q0Ngy6ywJqg"], .empty⟩,
  ⟨"Carian", ["Cari"], .ofText ["ywR0xh"], .ofText ["Bn1DZ2121zKj1"]⟩,
  ⟨"Caucasian_Albanian", ["Aghb"], .ofText ["yxFgxkb1"], .ofText ["U41xc1xc1"]⟩,
  ⟨"Chakma", ["Cakm"], .ofText ["yAE0xl1i"], .ofText ["yL6axOga"]⟩,
  ⟨"Cham", ["Cham"], .ofText ["xGM0xn9e2a24"], .empty⟩,
  ⟨"Cherokee", ["Cher"], .ofText ["AZ0ym26xBXiyg"], .ofText ["U031162m2b2"]⟩,
  ⟨"Chorasmian", ["Chrs"], .ofText ["yzZgs"], .empty⟩,
  ⟨"Common", ["Zyyy"], .ofText [
    "0y1q6qxf1f15n1v1K1x7552kzk1916111Pt161e131x01As1M41A12xCp1Il4F21xLf3y72Cb211xCd1d174161321U5",
    "c2yn1b3b1fhx1xvx613261r1hx934QqmblZ0E0Pk2x01z9M0yuIil111pf844yr231yq2Ajgx0x691xgy0vyhxf1yoB8",
    "CK0y0SE0x2z63B5aDk1B01Ib1e2QKi2Cgamx31j14Aj11x0q6qba1xd2y0717a5E234xd39ygdxjxdD4rxKJ44zWsDq6",
    "JkAszkxsDmax72xu3h827u4xtClkckcyn9pA7yl1y7122122241c11171y11428171s141511371Gk2F42xiBzhy4ycx",
    "tS2xc4z4cf2f1f1x5aBexoq12dxc4972e6Aq+o4h3d3zn4yv6c41fc4xo8a6x88u2c42xuGkce2d3a5xo7f2b697Aj1z",
    "6Uxw71uz0"], .empty⟩,
  ⟨"Coptic", ["Copt", "Qaac"], .ofText ["-2eGAgzk57"], .ofText ["Bn1O813211zc2GR11xRC8s"]⟩,
  ⟨"Cuneiform", ["Xsux"], .ofText ["yEw0Yqz6zf15bC4"], .empty⟩,
  ⟨"Cypriot", ["Cprt"], .ofText ["yyw06211xc123121"], .ofText ["ywE034xd39"]⟩,
  ⟨"Cypro_Minoan", ["Cpmn"], .ofText ["yHYgz3"], .ofText ["ywE02"]⟩,
  ⟨"Cyrillic", ["Cyrl"], .ofText [
    "xw0A52B9BWgbB01yc1Az7x0+y0z0RYe2xUM0xux11"], .ofText ["Rs1y331111112151Hj2CHh1Aya1"]⟩,
  ⟨"Deseret", ["Dsrt"], .ofText ["yxw0yg"], .empty⟩,
  ⟨"Devanagari", ["Deva"], .ofText ["yE0yh4f2qxDX0x0YM0a"], .ofText ["Rs1xQk2h2AXax712-m1xxVva"]⟩,
  ⟨"Dives_Akuru", ["Diak"], .ofText ["yCE072128121u122c9a"], .empty⟩,
  ⟨"Dogra", ["Dogr"], .ofText ["yCw0xs"], .ofText ["yH4cxDS0a"]⟩,
  ⟨"Duployan", ["Dupl"], .ofText ["zLw0zb5d397a24"], .ofText ["Bn1Of211o2GUn1zzP34"]⟩,
  ⟨"Egyptian_Hieroglyphs", ["Egyp"], .ofText ["yIw0xymazYr"], .empty⟩,
  ⟨"Elbasan", ["Elba"], .ofText ["yxE0x8"], .ofText ["Bn1Od1"]⟩,
  ⟨"Elymaic", ["Elym"], .ofText ["yz-0n"], .empty⟩,
  ⟨"Ethiopic", ["Ethi"], .ofText [
    "AM0y9142711142x9142x1142711142f1xp142y32x03qCL6n9717171717171717-F2626269717yLBh714121f"],
    .ofText ["Ue1"]⟩,
  ⟨"Garay", ["Gara"], .ofText ["yzG0x63t82"], .ofText ["xMc1e131"]⟩,
  ⟨"Georgian", ["Geor"], .ofText ["AB0x611512xb14yYgxb23Ay0x61151"],
    .ofText ["Bn1xCh1yXh1zWu1zKm1"]⟩,
  ⟨"Glagolitic", ["Glag"], .ofText ["Hw0z0zIZ071h271215"],
    .ofText ["Bn1Ob111Hu121E11yXh1zWu1zL81+xb1"]⟩,
  ⟨"Gothic", ["Goth"], .ofText ["ywVgr"], .ofText ["Bn1Oc221x81"]⟩,
  ⟨"Grantha", ["Gran"], .ofText ["yAU0418222m1712152922232161572735"],
    .ofText ["yGh2h2Q0eACs112u332-m1xYOa1zAk211"]⟩,
  ⟨"Greek", ["Grek"], .ofText [
    "Xg4132411411113111k1xvegCF65xi545yk1G0m262x626281111111v2xl1f1e261j2319F71xyNu1RKqyfh1xQyvy6"],
    .ofText ["Bn1O82211111a1xe121xe1COb2Qr1"]⟩,
  ⟨"Gujarati", ["Gujr"], .ofText ["yQ1319131m1712152a131321f42c77"], .ofText ["yGh2h2xDSaa"]⟩,
  ⟨"Gunjala_Gondi", ["Gong"], .ofText ["yDH06121x512167a"], .ofText ["Bn1yBc2"]⟩,
  ⟨"Gurmukhi", ["Guru"], .ofText ["yM1316422m17121212211542233174117h"], .ofText ["yGh2h2xDSaa"]⟩,
  ⟨"Gurung_Khema", ["Gukh"], .ofText ["yUE0xq"], .ofText ["yH51"]⟩,
  ⟨"Han", ["Hani"], .ofText [
    "HQ0q1ypcCmxf111p9e4+4CK0y0QM0SE0He2zaZE82c2xAwexFT0x0Axq6Cu2BQ2eDFhfPeyJ2MuxL2AWb5Az0"],
    .ofText [
    "Bn1HVog13211a1da4216144Br1Akgx0x691xgx8xoxhfcxj1yopa5z0vYU18RVt2Eq5xQ-qiDSu2"]⟩,
  ⟨"Hangul", ["Hang"], .ofText [
    "AE0E0DNe2E1yuzhvy1vZT1tQ3GZ4cn4xhFZ4v36262623"], .ofText ["Iw134a1dg161C31xPG92Eq5"]⟩,
  ⟨"Hanifi_Rohingya", ["Rohg"], .ofText ["yzE0x88a"], .ofText ["xMc1e131x01Aj1"]⟩,
  ⟨"Hanunoo", ["Hano"], .ofText ["BV0l"], .ofText ["BVl2"]⟩,
  ⟨"Hatran", ["Hatr"], .ofText ["yyD0j1255"], .empty⟩,
  ⟨"Hebrew", ["Hebr"], .ofText ["xIhxn8r46xZF8q151112121a"], .ofText ["U72"]⟩,
  ⟨"Hiragana", ["Hira"], .ofText ["Iy1ym63y-X1Evi1t3MBd1"],
    .ofText ["Iw134a1dg61142yr431yq2xPG82Eq5a1xd2"]⟩,
  ⟨"Imperial_Aramaic", ["Armi"], .ofText ["yyy0m19"], .empty⟩,
  ⟨"Inherited", ["Zinh", "Qaai"], .ofText [
    "U0zgEl2K4bq1T04AGrvM131d17416132C6y0Mc2C2x1zVp4zb2xPH5gge+f1D21Ayq1xK+4xe2nN03h827u4UHWiDg"],
    .empty⟩,
  ⟨"Inscriptional_Pahlavi", ["Phli"], .ofText ["yyX0j58"], .empty⟩,
  ⟨"Inscriptional_Parthian", ["Prti"], .ofText ["yyW0m28"], .empty⟩,
  ⟨"Javanese", ["Java"], .ofText ["xGI0ye2a42"], .ofText ["xGKf1"]⟩,
  ⟨"Kaithi", ["Kthi"], .ofText ["yAA0y3a1"], .ofText ["yH6aFC11+Lua"]⟩,
  ⟨"Kannada", ["Knda"], .ofText ["zA0d131n1a152913147262142a13"],
    .ofText ["yGh2h2AXa11261n111xyVr6"]⟩,
  ⟨"Katakana", ["Kana"], .ofText [
    "IB1yq23DggCgxf1yoxPwea1xdxIyi4171211Ev3xi1e4"], .ofText [
    "U51t1HCt34a1dg61142yr431yq2xPG82Eq5a1xd2"]⟩,
  ⟨"Kawi", ["Kawi"], .ofText ["yDU0h1x93t"], .empty⟩,
  ⟨"Kayah_Li", ["Kali"], .ofText ["xGE0xe11"], .ofText ["xGFe1"]⟩,
  ⟨"Kharoshthi", ["Khar"], .ofText ["yyM041258131t234a79"], .empty⟩,
  ⟨"Khitan_Small_Script", ["Kits"], .ofText ["yX-41CUrKmx91"], .empty⟩,
  ⟨"Khmer", ["Khmr"], .ofText ["BY0yu2a6aL6x0"], .empty⟩,
  ⟨"Khojki", ["Khoj"], .ofText ["yAM0i1xf"], .ofText ["yT6axDG0a"]⟩,
  ⟨"Khudawadi", ["Sind"], .ofText ["yARgxr5a"], .ofText ["yH42xDSaa"]⟩,
  ⟨"Kirat_Rai", ["Krai"], .ofText ["yXG0xq"], .empty⟩,
  ⟨"Lao", ["Laoo"], .ofText ["zQ1211151o111n2511171a24"], .empty⟩,
  ⟨"Latin", ["Latn"], .ofText [
    "y1q6qxf1f15n1v1K1x75CMrx66xh545d1y6y1E0Hh1d1gdAd261r1hx9ySnx0+R2z63y3221118leVgxb1914PYm7xwq",
    "q6qyx561xa19xRW5v66"], .ofText [
    "Bn1M41a113119111x6f1211c1237212x61514dEl2xCa2xZ81zDs1Nm1C01zF61+D88N61"]⟩,
  ⟨"Lepcha", ["Lepc"], .ofText ["Dw0xo3f33"], .empty⟩,
  ⟨"Limbu", ["Limb"], .ofText ["CE0v1c4c413c"], .ofText ["yH51"]⟩,
  ⟨"Linear_A", ["Lina"], .ofText ["yxM0Fn9ma8"], .ofText ["ywE7xd"]⟩,
  ⟨"Linear_B", ["Linb"], .ofText ["yww0c1q1j121f2ex2zr"], .ofText ["ywE034xd39"]⟩,
  ⟨"Lisu", ["Lisu"], .ofText ["xFCgxg+Rg1"], .ofText ["Rs1g1HFs2"]⟩,
  ⟨"Lycian", ["Lyci"], .ofText ["ywQ0t"], .ofText ["Eyq1"]⟩,
  ⟨"Lydian", ["Lydi"], .ofText ["yyF0q51"], .ofText ["Bn1HHp1"]⟩,
  ⟨"Mahajani", ["Mahj"], .ofText ["yAGgx7"], .ofText ["Bn1yBccxDS0a"]⟩,
  ⟨"Makasar", ["Maka"], .ofText ["yDT0p"], .empty⟩,
  ⟨"Malayalam", ["Mlym"], .ofText ["zE0d131xj13164g2q"], .ofText ["yGh2h2AXk1n1xyVt3"]⟩,
  ⟨"Mandaic", ["Mand"], .ofText ["yy0s21"], .ofText ["xO01"]⟩,
  ⟨"Manichaean", ["Mani"], .ofText ["yyS0x74c"], .ofText ["xO01"]⟩,
  ⟨"Marchen", ["Marc"], .ofText ["yDzgx02m1e"], .empty⟩,
  ⟨"Masaram_Gondi", ["Gonm"], .ofText ["yDE07121xc3112198a"], .ofText ["yH42"]⟩,
  ⟨"Medefaidrin", ["Medf"], .ofText ["yXO0yr"], .empty⟩,
  ⟨"Meetei_Mayek", ["Mtei"], .ofText ["xGT0nC9xe2a"], .empty⟩,
  ⟨"Mende_Kikakui", ["Mend"], .ofText ["zWw0C52g"], .empty⟩,
  ⟨"Meroitic_Cursive", ["Merc"], .ofText ["yyJ0o4k2xe"], .empty⟩,
  ⟨"Meroitic_Hieroglyphs", ["Mero"], .ofText ["yyI0x0"], .ofText ["Eyt1"]⟩,
  ⟨"Miao", ["Plrd"], .ofText ["yXU0yb4xp7h"], .empty⟩,
  ⟨"Modi", ["Modi"], .ofText ["yBM0y5ba"], .ofText ["xGxga"]⟩,
  ⟨"Mongolian", ["Mong"], .ofText ["Cw02211k6yp7xbx-Jld"], .ofText ["Cw2211yx91z+h254"]⟩,
  ⟨"Mro", ["Mroo"], .ofText ["yWO0v1a42"], .empty⟩,
  ⟨"Multani", ["Mult"], .ofText ["yAQ0711141f1b"], .ofText ["yP6a"]⟩,
  ⟨"Myanmar", ["Mymr"], .ofText ["Aw0B0xCG0vz1x0Xygk"], .ofText ["xGFe1"]⟩,
  ⟨"Nabataean", ["Nbat"], .ofText ["yyA0v89"], .empty⟩,
  ⟨"Nag_Mundari", ["Nagm"], .ofText ["zVCgxa"], .empty⟩,
  ⟨"Nandinagari", ["Nand"], .ofText ["yCJ082xe2b"], .ofText ["yH42Y0az-p18171xyVl6"]⟩,
  ⟨"New_Tai_Lue", ["Talu"], .ofText ["CI0xc4q6b32"], .empty⟩,
  ⟨"Newa", ["Newa"], .ofText ["yBw0ys15"], .empty⟩,
  ⟨"Nko", ["Nkoo"], .ofText ["x+0xr23"], .ofText ["xMc1e131xZUu2"]⟩,
  ⟨"Nushu", ["Nshu"], .ofText ["yX-11MIeIc"], .empty⟩,
  ⟨"Nyiakeng_Puachue_Hmong", ["Hmnp"], .ofText ["zUE0xd3e2a42"], .empty⟩,
  ⟨"Ogham", ["Ogam"], .ofText ["BQ0t"], .empty⟩,
  ⟨"Ol_Chiki", ["Olck"], .ofText ["Dygxg"], .empty⟩,
  ⟨"Ol_Onal", ["Onao"], .ofText ["zVKgxb41"], .ofText ["yH42"]⟩,
  ⟨"Old_Hungarian", ["Hung"], .ofText ["yzA0xjdxj76"], .ofText ["Eyq121zKj1f1"]⟩,
  ⟨"Old_Italic", ["Ital"], .ofText ["ywU0x493"], .empty⟩,
  ⟨"Old_North_Arabian", ["Narb"], .ofText ["yyQ0x0"], .empty⟩,
  ⟨"Old_Permic", ["Perm"], .ofText ["ywWgxb"], .ofText ["Bn1O8153a1Hf1"]⟩,
  ⟨"Old_Persian", ["Xpeo"], .ofText ["ywZ0x44e"], .empty⟩,
  ⟨"Old_Sogdian", ["Sogo"], .ofText ["yzU0x8"], .empty⟩,
  ⟨"Old_South_Arabian", ["Sarb"], .ofText ["yyP0x0"], .empty⟩,
  ⟨"Old_Turkic", ["Orkh"], .ofText ["yzw0y9"], .ofText ["Eyq1zKl1"]⟩,
  ⟨"Old_Uyghur", ["Ougr"], .ofText ["yzXgq"], .ofText ["xO01yxBh1"]⟩,
  ⟨"Oriya", ["Orya"], .ofText ["yU1318222m1712152922237342152i"], .ofText ["yGh2h2AXk1n1"]⟩,
  ⟨"Osage", ["Osge"], .ofText ["yxBgx44x4"], .ofText ["U112161yc1"]⟩,
  ⟨"Osmanya", ["Osma"], .ofText ["yxA0u2a"], .empty⟩,
  ⟨"Pahawh_Hmong", ["Hmng"], .ofText ["yWU0y6aa171l5j"], .empty⟩,
  ⟨"Palmyrene", ["Palm"], .ofText ["yyz0x0"], .empty⟩,
  ⟨"Pau_Cin_Hau", ["Pauc"], .ofText ["yCS0xp"], .empty⟩,
  ⟨"Phags_Pa", ["Phag"], .ofText ["xGy0xo"], .ofText ["Cw2211yx91z+i1"]⟩,
  ⟨"Phoenician", ["Phnx"], .ofText ["yyE0s31"], .empty⟩,
  ⟨"Psalter_Pahlavi", ["Phlp"], .ofText ["yyY0i74c7"], .ofText ["xO01"]⟩,
  ⟨"Rejang", ["Rjng"], .ofText ["xGFgx4b1"], .empty⟩,
  ⟨"Runic", ["Runr"], .ofText ["BR0yb3b"], .ofText ["BTb3"]⟩,
  ⟨"Samaritan", ["Samr"], .ofText ["yw0xe2f"], .ofText ["HNh1"]⟩,
  ⟨"Saurashtra", ["Saur"], .ofText ["xGA0y68c"], .empty⟩,
  ⟨"Sharada", ["Shrd"], .ofText ["yAI0z0"], .ofText ["yGh1AY511122219121xyW2621"]⟩,
  ⟨"Shavian", ["Shaw"], .ofText ["yxygxg"], .ofText ["Bn1"]⟩,
  ⟨"Siddham", ["Sidd"], .ofText ["yBI0xm2x6"], .empty⟩,
  ⟨"SignWriting", ["Sgnw"], .ofText ["zSw0Qcf51f"], .empty⟩,
  ⟨"Sinhala", ["Sinh"], .ofText ["zI131i3o191127314611186a23yw-ck"], .ofText ["yH42AYc1"]⟩,
  ⟨"Sogdian", ["Sogd"], .ofText ["yzVgxa"], .ofText ["xO01"]⟩,
  ⟨"Sora_Sompeng", ["Sora"], .ofText ["yACgp7a"], .empty⟩,
  ⟨"Soyombo", ["Soyo"], .ofText ["yCOgyj"], .empty⟩,
  ⟨"Sundanese", ["Sund"], .ofText ["CY0y0E08"], .empty⟩,
  ⟨"Sunuwar", ["Sunu"], .ofText ["yC+0x2ea"], .ofText ["U02119121s131"]⟩,
  ⟨"Syloti_Nagri", ["Sylo"], .ofText ["xGw0xd"], .ofText ["yH42A0a"]⟩,
  ⟨"Syriac", ["Syrc"], .ofText ["xU0e1xs23Egb"], .ofText ["U322211l1237211Sr1e221x01abq1BY7111"]⟩,
  ⟨"Tagalog", ["Tglg"], .ofText ["BU0m91"], .ofText ["BVl2"]⟩,
  ⟨"Tagbanwa", ["Tagb"], .ofText ["BX0d1312"], .ofText ["BVl2"]⟩,
  ⟨"Tai_Le", ["Tale"], .ofText ["CGgu25"], .ofText ["U025231zFja"]⟩,
  ⟨"Tai_Tham", ["Lana"], .ofText ["CN0xv1t2b6a6e"], .empty⟩,
  ⟨"Tai_Viet", ["Tavt"], .ofText ["xGQ0y3o5"], .empty⟩,
  ⟨"Takri", ["Takr"], .ofText ["yBQ0xq6a"], .ofText ["yH42xDSaa"]⟩,
  ⟨"Tamil", ["Taml"], .ofText [
    "yY2216331432111232333c4533142161elyA+5xid1"], .ofText ["yGh2h2AXk1xzwo1WMd111xn2"]⟩,
  ⟨"Tangsa", ["Tnsa"], .ofText ["yWPgyf1a"], .empty⟩,
  ⟨"Tangut", ["Tang"], .ofText ["yX-01vB-o8U0M09"], .ofText ["H-ggLf1"]⟩,
  ⟨"Telugu", ["Telu"], .ofText ["zw0d131n1g291314721321242a79"], .ofText ["yGh2h2AXf21111n1"]⟩,
  ⟨"Thaana", ["Thaa"], .ofText ["xY0xi"], .ofText ["xMc1e221y0axZY81a1"]⟩,
  ⟨"Thai", ["Thai"], .ofText ["zM1xq5s"], .ofText ["Rs1q1xb1xd1"]⟩,
  ⟨"Tibetan", ["Tibt"], .ofText ["zU0y81x44x71x41f1742"], .ofText ["Iw84"]⟩,
  ⟨"Tifinagh", ["Tfng"], .ofText ["HFgxo72e1"], .ofText ["U21112111"]⟩,
  ⟨"Tirhuta", ["Tirh"], .ofText ["yBA0y88a"], .ofText ["yGh2h2AXf1c1f1xyVta"]⟩,
  ⟨"Todhri", ["Todr"], .ofText ["yxK0xk"], .ofText ["U1121219111ya1"]⟩,
  ⟨"Toto", ["Toto"], .ofText ["zUQgv"], .ofText ["Rs1"]⟩,
  ⟨"Tulu_Tigalari", ["Tutg"], .ofText ["yAY0a11211x61a1121141a1282"],
    .ofText ["zD6aAw2111xyVr6Br1"]⟩,
  ⟨"Ugaritic", ["Ugar"], .ofText ["ywY0u11"], .empty⟩,
  ⟨"Vai", ["Vaii"], .ofText ["xFE0Fc"], .empty⟩,
  ⟨"Vithkuqi", ["Vith"], .ofText ["yxHgb1f17121b1f1712"], .empty⟩,
  ⟨"Wancho", ["Wcho"], .ofText ["zUS0xq51"], .empty⟩,
  ⟨"Warang_Citi", ["Wara"], .ofText ["yCB0yjc1"], .empty⟩,
  ⟨"Yezidi", ["Yezi"], .ofText ["yzQ0xa1322"], .ofText ["xMc1e131y0a"]⟩,
  ⟨"Yi", ["Yiii"], .ofText ["xEw0xAd3xn"], .ofText ["Iw125a28Cv1xPP55"]⟩,
  ⟨"Zanabazar_Square", ["Zanb"], .ofText ["yCM0y8"], .empty⟩]

/-- The characters that the script extensions list under scripts of their own. -/
def shared : CodeSet := .unions (scripts.map Script.further)

/-- The characters that are used in the script, by the script extensions. -/
def Script.users (s : Script) : CodeSet :=
  if s.name = "Common" || s.name = "Inherited" then s.chars.diff shared else s.chars.union s.further

end Reprise.Unicode
