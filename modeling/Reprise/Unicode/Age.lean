import Reprise.Text.CodeSet

/-!
# The versions that assigned characters (Unicode 1.1 to 16)

Every assigned code point has an age, the version of the standard that assigned it.  Asking for an
age means all characters that a version has, so `Age.assigned` takes in the ages before it.
-/

namespace Reprise.Unicode

open Text

/-- A version of the standard, by its two numbers, and the code points that it assigned. -/
structure Age where
  major : Nat
  minor : Nat
  added : CodeSet

/-- The versions in their order. -/
def ages : List Age := [
  ⟨1, 1, .ofText [
    "0Lm4uxoyp7xf1amy6q2i2413157111k1xc17311111111idc1y21c1x99xl22223s2822xnx6271x711x6a19cr55n1e",
    "1311q5jde2y8251f1u2aM731xl2i253pg318222m171134211722239142152l7126422m1712121221154223b4117f",
    "c31711131m1712152a131321f15ah318222m1712242832238242134bh21633143211123233381345331491fce318",
    "131n1a1547131472924ai218131n1a154713147271124ai218131n1g46231491824aAhxq4tx52112211216417131",
    "111221d132511162a22K2x6ax7414yq5y45yizw6Ar5yq6m262x626281111111v2xl1f1e261j23191xf1nx373rhbx",
    "5iuxpqxgdyrlDie11zpA5x5rblAblAmayggk6ymAh4142s1x31114311727ev3o1eyy1xo711yk462yu6x84yu1gz0t3",
    "x4ss3xifc4xf1zn4z32vCM1QJ6MyqCNeCi7c56p151112121zcx1Hdgy02xmx8cx44cl4a1j1443111A7211yu2yu362",
    "626233717e3"]⟩,
  ⟨2, 0, .ofText [
    "xIhh1dk1yFry81x17r46111l3711zT11Mf1xyWkGZ4yGyq2x--u2x--u2x--u2x--u2x--u2x--u2x--u2x--u2x--u2",
    "x--u2x--u2x--u2x--uAww2"]⟩,
  ⟨2, 1, .ofText ["EBc1xTWf1"]⟩,
  ⟨3, 0, .ofText [
    "Lm4u82izl5xh1a5yn9j1zk131111111u1c1y21c1xa224ys2As1C83z2251f1xa51e1u3rxlxhxKh21i3o1911273146",
    "1118i3Hl1xb1n371131f21xgx2151217346qJ671xv11142711142x711142v111427111427171n1v1114271x71j6s",
    "x3ylcPm9t3yhAfyt3amf1a6yo8xaxY51o6yv3xi2yl2y81z79Ed1zp11uAa2K98x11ym2IeE0xI0q1ypcCmqcxs331H1",
    "oO8CJmQOaxAd3i2g1c1311ROm1xCr3"]⟩,
  ⟨3, 1, .ofText [
    "-k2x+Kqx0xEgv14crBlx62x6xOZiDmax73BkN2yl1y7122122241c1114121y11428171s141511371Gi4F24xiGw0xF",
    "SnQF9MuSxL31uz0"]⟩,
  ⟨3, 2, .ofText [
    "N01Fe1jdz82s1Aj2xp22222xhgGu2G11yG52xM7d17bn9kcd1312yCj1654175d1xu2xi7yifB8cDiezs1uxkEskAnay",
    "o8m2yqc2aCueyqs4gE0M0xFr3yn282yu1DggyhfyhfYL22g1c131RHaxrYh13gxl2xc1Db2"]⟩,
  ⟨4, 0, .ofText [
    "N11i3zn2xvhyg853An5M4499y03Al2f1xd3t3Jk1Bo1y3111A81yk3d1y31xr1A18C12yUv1iaE6t3c4c413xa25zbx0",
    "U0zcT72D61Qj2Fe1Ek2zk8e2xyuexUf2xh1xb2ye4B74z32v1CK0y0xH-t1y92Jnc1q1j121f2ex2zr534xd39O0u11A",
    "62x6yg2aWm6211xc123121xOS0ynHa1UHxuDg"]⟩,
  ⟨4, 1, .ofText [
    "NnbEm5Av4Dm2Ba1x23y31i1xq6DhuMf1yg1L71xf1-92F7211Ea1xv1xv1x71v1v1v1f1x71n2vqxL6xa6q6a42x0s22",
    "WcyoQh217xh5t4xl1yg1f1Q4bNs1z52ib5gEe7W76Dcxf1xfx1zbexdaxm91gn9717171717171717x1o42Z2gBe1XF7",
    "mxW4nD9xcQO4zaVmaV6ybMlx44exNa41258131r434989xNZ7y6xyu2"]⟩,
  ⟨5, 0, .ofText [
    "O2eFb3Gh1xa6g4B61M5xrI0212X22d2zMdyc4xdO77xj2Tc4yt2xl1OncSa1Ek4W9754Fsd74+Qv452EuxoUA8q51BT0",
    "XfAhz3d4xHTcixyo2"]⟩,
  ⟨5, 1, .ofText [
    "Xg422yn1Bn1AcgD25b5x05FeiLh2Cu1x31Ce1t2zc1zc1q282k8Bt161t2c637Lb2z1133yd151217346qy042ywa1Sl",
    "xb3cy6xo3f3xjGbsBl4yq6H41Ab1yu1xl4xEk1la34E81v4Vb54x935Eo31346H2x0o42jTs1B2kXKo8xFsFckx02i8s",
    "A352zbze5A0y59cx6ykb1B0xn9e2a24Q+43X9cxkxeA2t3xhxOfq51xN-91DSmxc4z4"]⟩,
  ⟨5, 2, .ofText [
    "xF42Sqxe2fC11yd161x32A01xKp4C14Bs5y45yi6M01Pm9Ngy6Bk2xe1y5xv1t2b6a6eN2x3Ea1Ro3An3xm1Ou1Rl2t3",
    "4a1j114oyn1-t5Em1d2zb7Fv1xwicXHk8xE4xgJ0yoFoaB6sz4t3ye1b42A0s4y3o5D0xe2aGZmn4xhEPf3zKim19Bq2",
    "G4x0A0xm3t2r58A0y9MnvM1y2DVuxxfxLChb5v21b1112131358171p11221a421zf1fx2e9xJBnAxl"]⟩,
  ⟨6, 0, .ofText [
    "xF62Do1xu1L0s21Cr2j162r5Lq6Jh1g1j1Nt4y92Y22yz1xk84Ls1Qo8s1VfbSq1j114t142s1x31114392xk3o1e1e2",
    "xJ01e1xxo3ZB52Fb212eayg1U6626269717QA3gBxuye4uRYgNpNK72MAuf2e2f1fyg11b1112131358171a6911221a",
    "421aybq12xf9l2Bex1f61y63kcx515lhfxv111Bm143xuioAj51g1311111113162411241c4bxgy6xqzkxL+cCu"]⟩,
  ⟨6, 1, .ofText [
    "xIf1zk1Qr11bxnrLh1-d2L7151xf3yRb3c6E08xb4ySk111xF42xj151xo2CaaYIg1xR78x31Di2m1yd2T6nPVn2zWgx",
    "o62xUgp7a6xl1exsy97axB6xo8aSxmy5bxfgh-P041r1211211a14111161411111131211211111111112112417141",
    "4111a1h53151hxk2Po2+k4Bs1g1311111113162411241"]⟩,
  ⟨6, 2, .ofText ["EBq1"]⟩,
  ⟨6, 3, .ofText ["xMs1CO94"]⟩,
  ⟨7, 0, .ofText [
    "Xv1J88yt2zm1Qr1b6yc1zo171Pv1xj1yc1zv1D4ayE18N42IhfNp2DdfS53Vm7U51xyc3aq2x02x23c18Pa7+yl6Dmcb",
    "322y51L8vzt4Bgxg42QS17Wt2j1Fvsx31xgxbI5x88xkb1AgFn9ma8Doxv89Kgx0x0x74cA9i74c7xCf1Cgx7ym1c16k",
    "bi1xbzixr5a7318222m17121529222391572735Eby88aB6xm2ixmy5baO6yjc1K0xpyzmxaCac51NKbv1a42z0u26ay",
    "6aa171l5jQzgzb5d397a28GWsC52gx-81x0ml2Mkc91y61mcx51545ch7y7111Bm142xv247ti1x91ymy62dxgy6agd3",
    "4Acylxbc4xo8a6x88u"]⟩,
  ⟨8, 0, .ofText [
    "yBj2xe1Ml1H01E41xQl126zC01Cb2yP04Y+t9xS81Dg1x26G42P24cygQPe2yRgj1255Bs22g2xeQ0xjdxj76xC94e5B",
    "0711141f1bym1yf1PpkF2q3f4gzyp1D6C4DRsO7xyYnbxMnQcf51fCzt3ye2yf5x48Dv1yb5Dj2Ab1Nv9z75xr1xLOvB",
    "Q2"]⟩,
  ⟨9, 0, .ofText [
    "yBm8mfYt1Ce14317n3zU79Hi1xLv4yO42+H91Em1SC72V1x44x4zG21K1yq1111M2dxIj91xd1eat3x02m1eQV91vB-d",
    "jTjREd71h271215yClyb5a42yxriAe1Vu1x91Fc2x13N2618812c1c4fx6d"]⟩,
  ⟨10, 0, .ofText [
    "yz0bIh2Ds6M01xq2zZq1Du4S51Vv1x+i1Pi5T41XR7lUW23BSgy88xk2n15Ot7121xc3112198aQQ71Mx0EtyhIcLX46",
    "xzd2x22M7cj18812p1idx66xonxRC9DFh"]⟩,
  ⟨11, 0, .ofText [
    "xH01x71z61Md3Cj1Fa1zn1Id1zv1y-j1xwnxb23zTq3mp4fOb5T01XRr5xZv182G42UFk2i1Rnx88aK6x88xaHj1zm3L",
    "k1F21Rr1D5xsP11S26121x512167aFmpPW7yrCGi5OTekzu7CDoy4xzq1xK91Cr4Hk3s5243114obda72x4pz0e"]⟩,
  ⟨12, 0, .ofText [
    "zzn1Me121211641717221d1zNv1zSe1xl1Of1+Ha625Yv2Vzonxz81Oo1T782xe2bAv2xFqxid1Bxg9KUc641xf9yq2C",
    "we6GGo3h4HYoxd3e2a42Hgxq51xOb1Zlxtxxe1xH81x41D5cF13xf1xh191x9632a63823xgyks44353d6"]⟩,
  ⟨12, 1, .ofText ["ITv1"]⟩,
  ⟨13, 0, .ofText [
    "yBuaQd1Je1zs1zFt2ACm1Ro3X85C-maQNgdx+a4xa2xl1Vr4RNg1zD3xa1322DusHr1A62Qa152xAu72128121u122c9",
    "axOm1Qxj1b2CU1L3xa9Vw43yt3xt1xF82x32Jj2yq1z5142xa263t1B81e4fj7793d7x9Aj1xnx5axGSt7SF2AWb"]⟩,
  ⟨14, 0, .ofText [
    "xMt1Oiv1268l1ibX91x01zv1yNf17191Df1Rhezt1xg2Pr1S51yXe1xf1LjbYIv3x+02e21115o3Q+d1Htgzv1xe2xXg",
    "b1f17121b1f1712K361xa19xZlqD66yc1xLm1A67X9gBCgz3KPtyf1aNF641712F04DKtxe2n9zkN52zElvXhvxFh714",
    "121fzSu3Eg1I81yi1Be2xc4a483h36887xG-72Ayl4"]⟩,
  ⟨15, 0, .ofText [
    "zDj1Kq1ywxe3Vv3yBua-mh1x93sBCl19t-Cs1x21EHakzyh6E5xux11xy0xaAL21An345yp1Qr3f2x43b311e2a2c1e2",
    "xLy01TwmAz0"]⟩,
  ⟨15, 1, .ofText ["H-s4Lf1BKM0Pe"]⟩,
  ⟨16, 0, .ofText [
    "yAn1ARm2xf1E92xYs3zJq2ZL53c3TL3xkxWcx63t82Fi3xn1xA3a11211x61a1121141a1282TdkxCsx2eaX01BE5zYr",
    "DE5xqzw6xqDY51LU0Dq6JkBUsxb41ARia42K7151xe171l12191D1x5"]⟩]

/-- The two ways to write a version. -/
def Age.names (a : Age) : List String :=
  [toString a.major ++ "." ++ toString a.minor, "V" ++ toString a.major ++ "_" ++ toString a.minor]

/-- Whether the version is not later than the other. -/
def Age.upTo (a b : Age) : Bool := a.major < b.major || (a.major == b.major && a.minor ≤ b.minor)

/-- The code points that the version has. -/
def Age.assigned (a : Age) : CodeSet := .unions ((ages.filter (·.upTo a)).map Age.added)

end Reprise.Unicode
