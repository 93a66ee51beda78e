import Reprise.Text.CodeSet

/-!
# Characters without a printed form of their own (Unicode 17)

The table of code points that quoted text writes by number: controls, formats, private use,
unassigned code points, separators other than the space, characters that extend the grapheme before
them, and characters that are ignored where they cannot be shown.  The two halfwidth sound marks of
Katakana, which extend graphemes but take a place of their own, are printed as they are.
-/

namespace Reprise.Text

/-- Code points that quoted text writes by number. -/
def unprintable : CodeSet := .ofText [
    "0x0yvx2c1Oizg82647111k1D07B61x62xi23xe11121219r46hab11xelg1z58162214x0211utypb1exb973o419131",
    "7f1p511b5x0gxaxpxn111484137a2t1218222m1711343112622211d2134o5116422m1712121243o4117a2311c119",
    "131m17121534811231f24c718218222m17121531216222f2134ib116331432111232333c5112331331ll6318131n",
    "1g3134j312224a7a1b131n1a15322112n3124a13eb131x92112531312431a4q221i3o19112792677a23cxg12b88d",
    "x5211151o111a129125119a24x0o2r11111e1x4i15125xh8161dx5xd4161222p243g4d12261f1x811512Af2D8142",
    "711142x9142x1142711142f1xp142y35t3q6ym262Q01s3yp7idj329ied13fxk217812b93a6a6b5a6yp752x2115y6",
    "av44234216713xa25bxc4q6b3xp223xo11911286da6a6eymxga4381t9c2x0426xo112311dxg825f3xu5xb2bb1d17",
    "41613215C0y0Em262x626281111111v2xl1f1e261j2319ho8xfh22r1d3x2xuAc4QqmblxUk2Hp325xd11512xo72fn",
    "9717171717171717x1yux2q1ypcCmqg1x96g1ym4z55xb1xj1xa1ym9xg1YPd3xn9Gskxf41ax02yg268Ctkh13141p2",
    "54a6xo8y4acod1x68pb1cu6xg1242221d1b471p1x96222b318112a2x01xj1132252111oh28b6262697171xs4zl12",
    "143a6GZ4cn4xhEE4He2zax67c5511o151112121Qax0ggamx31j14451A74Av1u362626233717d22c1q1j121f2ex2z",
    "r534xd3yo1d31xfxdA3t3xhgr4x49u5x6au1x54exaAu2a6x44x44x88xkbc1f17121b1f17123xkcFn9ma8o61xa19y",
    "56211xc12312n1y889xgj125x13r5rx6xo4k2xff4131ta9797y0x0x56c9xm3t2r5q74c7ygy9xnxjdxj7xaca6x68o",
    "82Cgv1xa3122g689x7x88mb9mi44x6skn911xmf74u1221cxh422214ep7a9x4519i8x313bxk9118421g1kbi1s3246",
    "12xv711141f1b6xf13da8218222m171215311114222231c7sa11211x61112f112311312x7xo82311l1113uxg1261",
    "121121248aB6xf1264212rx4xj821124ba6djxb1112826a6ksr3112419nBpxf9121z4yjc82128121o151264139ay",
    "682xa8414r1ax8624891623xed129dy97ayn13111yox2ea691x6e116at3x0p17121yb7121x6l19a66121x5421111",
    "7a6xc4aDmj249f1x4823nym1fxidYrz6zf15bC4yOcz3dxxgh6pzYr5O7CRpuc33axS6Np7v1a4yh1a6u71axg7faa17",
    "1l5jJgxqC6yr5p2pxcyb5xobdy04e59DCmx9x0z1zjELt417121F3f1t321e48IcyE4zb5d397a2121zX0Dt3Jk6nfhy",
    "vzkxsDmax72xs53m27u4xtly231zqkckcyn9pA7yl1y7122122241c11171y11428171s141511371Gk2F42Nixn4xi8",
    "1e17xzkv66E5xuAixda72a42G0uixc4a51Kgs4aCmu2b41C0v1312172592D0714121f1C529xgy4714a42Uhy4ycxtC",
    "241r1211211a141111614111111312112111111111121124171414111a1h53151hxk2Eexc4z4cf2f1f1x5aBexotd",
    "xc4972e6Aq+p3h3d3Cq6c41fc4xo8a6x88u2c42e9x7Go8e2d3b3xp114g2c4a7Aj1z7xw5xFT0x0AEu2BQe2DFhfPey",
    "J2MuxL2AWb5EFaXOY6"]

end Reprise.Text
