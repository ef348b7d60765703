/-!
# States 1396 to 2576

States of the automaton of the grammar without markup, packed two letters a number. How they are
laid out is said beside the function that unpacks them.
-/

namespace ServiceCapsule
namespace TypeScript
namespace Automaton

def plainThird : String := "
  2g00010l2!0000010%2t8B00011a5b8B00011a5c0000010B0A0001%jJu020R230B2C0000010B2D7401&+Jv000001%jJw
  020R230B2C0000010924Dw01&+Jx000000010B4iDy02&ZJy&+Jz000000010Q0J0000010;0F9i01!r0000GD00010B2BEO
  01%.J!00GK00010B2PGL00010B2WHg00010B2C9l01&+J$00Hj00010B2C0000010B4;0000010B0U0000010Q0h0000010Q
  0i0000010I0c9,01!r00000001!*J%000000010(1S0000010Q3F0M01%.J&000000010Q3G5f01&fJ(000M01%.J)005202
  %BJ*&fJ+001V05$@J,$^J,&yJ,&^J,&_J,00H>00010^3SH>03!iJ.%9J;%AJ;010^3S00000109222,01%.J<0000000109
  2N000001092U00000109232x01&+J>0000000109230+00012E1F0302%(J?)5J?012E1C0000012N0,F401!*J@000001J?
  001,02&FJ^&xJ_001,02&FJ|&xK0000000010B0%1101%(K1001101%(K200F401!*K3000001K2001101%(K400F401!*K5
  000001K4001,03!*K6&FK7&xK800F700000000020aP21|230b23B601&+K9000000020aP21|230b230000020aP220240b
  240000020a1N0h570000010h570M01%.KA000001!*KB00Bp01%.R,011;468B01$6KC000004!nKD$jcU$lcV%SwO012I5m
  4m01(eKE004m01(eKF004m01(eKG000000011L6P2+01&fKH00Bp01%.R.011;470001$0KI00Ic01Fa000001$6KJ002+02
  %BKK&fKL001V05$@KM$^KM&yKM&^KM&_KM00Ig00010^3S1@02&qKN(ZKO010Z3fBo03KGKMKN010Z3f0000010Z3f5,01&q
  KP010Z3g0000010Z3h5,01&qKQ010Z3i0000010Z3jIg03!iKR%9KS%AKS011C3S6?05!zKT%BKUKK&qKV(ZKW010Z3k2w01
  (eKX00Fc04(WKY(XKY(YKY(ZKY001>04KS%BKTKUKV010Z3k6<05$@KZ$^KZ&yKZ&^KZ&_KZ011.3SIu01%8Ka00Iu0000GO
  01&fKb000000010Z4I0000010Z4JCH02%BKc&fKd000000010Z3l6<09KQ$IKe$@Kf$^Kf%9SQ%ASQ&yKf&^Kf&_Kf011C3S
  F$03KaKMKN010Z3f1V05$@Kg$^Kg&yKg&^Kg&_Kg00I(00010^3SB(05!zKh%BKi&fd;&qKj(ZKk010Z3k1@02&qKl(ZKm01
  0Z3fG603&fd.KkKl010Z3f0000010Z3f5,01&qKn010Z3g6<09!iuI$IR9$@Ko$^Ko%9R8%AR8&yKo&^Ko&_Ko011C3S1>04
  Kg%BKhKiKj010Z3k6<05$@Kp$^Kp&yKp&^Kp&_Kp011.3SI?01%8Kq00I?0000I@02O6(SKr011.3SI?01%OKs011.3S0000
  010Z3h5,01&qKt010Z3i0000010Z3jI<01%8Ku000000010B2E0001%jKv020R2V0B2X0000010B2R0000010B2Y0000011L
  460000011J5$CS02!rKw%iKw00GO01&fKx000000011L470000011L6MCH02%BKy&fKz001V05$@K!$^K!&yK!&^K!&_K!00
  JF00010^3SCV02Kw(ZK$011L5>0000011L5?0000011L5@JF03!iK%%9K&%AK&011I3S7e03%BK(Ky(ZK)011L5^0000011L
  6M5)01(ZK*011L6NCS02!r00%i00006<09K$$IK+$@K,$^K,%9ST%AST&yK,&^K,&_K,011I3S0001$6K.000001$6K;0000
  01$6K<000001$6K>002g02%jPr!)Pr010Q1cGZ02%BK?&fS0011L5,Ga01&fR|011L5.6<09!inJ$InL$@K@$^K@%9fJ%AfJ
  &yK@&^K@&_K@011I3SJX01%8K^000000010q6ZDD01$600000000010q5O0000010q5O2w01(eK_008B01$0K|009t02%jL0
  !)L0000000010B4j0003j3i(X$012O6@0002i(X.012O6^0000012O6^HQ00012OJc0000010B4(0002n)HU010Q6|000001
  0Q70HT01!rL1000000010B4(0002!qL2Jp010QJe0000010B4)HT01!rL3000000010B4)0000010B2F0001%jL4020R250B
  2G0000010B2F0000010B4kDw01&+L5000000010B4kJ500010B2XJv00010B2G0000011%4W0000010Q3H0M01%.L6000000
  010Q3I5f01&fL7000M01%.L8005202%BL9&fLA001V05$@LB$^LB&yLB&^LB&_LB00J.00010^3S000001092V0000010925
  0+00012E1D0000012N0.F401!*LC000001!*LD00F401!*LE000001LD000000010B0&0000010B0&1101%(LF000000010B
  0&1101%(LG001101%(LH00F401!*LI000001LH000000020aP222250b250000011)1H0M01%.LJ00Fc04(WLK(XLK(YLK(Z
  LK002w01(eLL000003TwTxwJ011L58KE00011L59KE00011L5ABp01%.SK011;482w01(eLM00Fc04(WLN(XLN(YLN(ZLN00
  2+01&fLO00Bp01%.SL011;492+02%BLP&fLQ000000010Z3m5,01&qLR010Z3n0000010Z3o0000010Z3p1V05$@LS$^LS&y
  LS&^LS&_LS00KR00010^3S1@02&qLT(ZLU010Z3qBo03LNLSLT010Z3q0000010Z3q5,01&qLV010Z3r8B01$6LW00000001
  1L6Q1>04!zLX%BLX&qLY(ZLZ010Z3s6<05$@La$^La&yLa&^La&_La011.3S0000010Z4KGO01&fLb000000010Z4LKR03!i
  Lc%9Ld%ALd011C3S6?05!zLX%BLeLPLXLY010Z3sCH02%BLf&fLg001@02&qLh(ZLi010Z3qG603&feQLgLh010Z3q000001
  0Z3q5,01&qLj010Z3r0000010Z3m5,01&qLk010Z3n0000010Z3oB(05!zLl%BLm&feR&qLn(ZLo010Z3s1>04Lk%BLlLmLn
  010Z3s6<05$@Lp$^Lp&yLp&^Lp&_Lp011.3SKq01%8Lq00Kq00000000010Z3p6<09!iuP$IR<$@Lr$^Lr%9R;%AR;&yLr&^
  Lr&_Lr011C3S0000010B2Z0000011J5%0000011L48GO01&fLs000000011L49CH02%BLt&fLu000000011L5_1V05$@Lv$^
  Lv&yLv&^Lv&_Lv00K%00010^3SCV02Lr(ZLw011L5|0000011L600000011L6OK%03!iLx%9Ly%ALy011I3S7e03%BLzLt(Z
  L!011L610000012F5g0000012F5g0000012F5g0000012F5gJH01&fSO011L5>JL02%BL$&fSP011L5^6<09!inS$InU$@L%
  $^L%%9fK%AfK&yL%&^L%&_L%011I3S0000010q5P2w01(eL&000000010B4f0000010B4*HT01!r00000000010B4+000001
  0B2H0000010B4l0000010Q3J0M01%.L(000000010Q3K5f01&fL)000M01%.L*005202%BL+&fL,000000012N0;0000012N
  0;0000012N0;0000010B0(0000010B0(0000010B0(1101%(L.000000011)1I0000011L6R8B00012I5n8B01$6L;000000
  011L6SBp01%.Sa011;4A2+01&fL<00Bp01%.Sb011;4B0000010Z3t2+02%BL>&fL?000000010Z3u5,01&qL@010Z3v0000
  010Z3wFc04(WL^(XL^(YL^(ZL^001@02&qL_(ZL|010Z3x0000010Z3x5,01&qM0010Z3y1>04!zM1%BM1&qM2(ZM3010Z3z
  0000010Z4M1V05$@M4$^M4&yM4&^M4&_M400Lc00010^3SBo03L;L^L_010Z3xGO01&fM5000000010Z4N0000010Z3u5,01
  &qM6010Z3v0000010Z3w0000010Z3t1@02&qM7(ZM8010Z3xG603&fehM6M7010Z3x0000010Z3x5,01&qM9010Z3y1>04!z
  MA%BMA&qMB(ZMC010Z3z6<05$@MD$^MD&yMD&^MD&_MD011.3SB(05!zMA%BME&feiMAMB010Z3z0000011L4AGO01&fMF00
  0000011L4BCH02%BMG&fMH000000011L621V05$@MI$^MI&yMI&^MI&_MI00Lx00010^3SCV02ME(ZMJ011L630000011L64
  K(01&fSc011L5|K,02%BMK&fSd011L618B00011a5Y0000010Q3L0M01%.ML000000010Q3M5f01&fMM000M01%.MN000000
  010B0)Fc04(WMO(XMO(YMO(ZMO00Bp01%.Sf011;4C2+01&fMP00Bp01%.Sg011;4D0000010Z3!0000011L6T0000010Z3$
  5,01&qMQ010Z3%0000010Z3&1@02&qMR(ZMS010Z3(0000010Z3(5,01&qMT010Z3)2+02%BMU&fMV000000010Z4O000001
  0Z3!0000010Z3$5,01&qMW010Z3%0000010Z3&1@02&qMX(ZMY010Z3(0000010Z3(5,01&qMZ010Z3)1>04!zMa%BMa&qMb
  (ZMc010Z3*G603&fepMWMX010Z3(0000011L4CGO01&fMd000000011L4DCH02%BMe&fMf000000011L65Lz01&fSh011L63
  0000010Q3N0M01%.Mg000000010Q3O0000011L6UBp01%.Sj011;4E0000010Z3+0000010Z3,5,01&qMh010Z3.0000010Z
  3;2+01&fMi00Bp01%.Sk011;4F0000010Z3+0000010Z3,5,01&qMj010Z3.0000010Z3;1@02&qMk(ZMl010Z3<0000010Z
  3<5,01&qMm010Z3>0000011L4EGO01&fMn000000011L4F0000010Q3P0000010Z3?Bp01%.Sn011;4G0000010Z3?000001
  0Z3@5,01&qMo010Z3^0000010Z3_0000011L4G0000010Z3|8v02!iNA&FNB012P1O8v01&FNX000000012Q1N2B00012R1N
  0000011L0L2B00022R1N022w0006lYbX$LbgaEbe&zNw012S1M0000012Q1M0002aENv012T1M0000012U6i0004$0Nz(ZN!
  (dN!(sN!012V2e0000022W0L2X1M8v01&FN$008v03!phH%.N*&FN+000000011L030000011L0L8v01&FN,000M02$Abs%.
  N;012Y4oM*01$Abt012Y4o0M01N.012Y4o0000010B4n1Z00032W0v131R0S1W1y01p6020A1N022w2502p614020A1N022w
  1&01p6020A1N022w2^032,p614020X1N022wC&07lYNp$&Nt$(NtbeNdNt012Z2%7&00030a1N022w0i3A2?01p6030a1N02
  2w0i3A0000012a352@01p6030a1N022w0i3A2^01p6030e1N022w0i3A0000020a1N0h537$00020a1N0i3A2C02p6p5030a
  1N022w0h3A7&00040f1N0g4<022w0h3A7&00040f1N0g4>022w0h3A7$00030a1N022w0i3AM^03bbNgbd012b2p8v01&FOS
  008w03!q00!*00)D00012c1P0000032d1e2eP21e1h0c1h0000012f2*0000012Q1@2&04!*N0&ga$(Ta$(Ua$00Mv04bW$r
  f(&&Oe(+Of012g2m0000012h5q4001(eO$004001(eO%000000012i5t0000012h5o0000012h5S4001(eO*00400F383H3J
  3K3N3P3R3S(ecN(k3V(lO+(o3V3Y)13V)43V00NO01(lO.000002bY(+O?012j5Q3y02$AcR&&O@012k5H0001$AcS012l5H
  0000012h5H0001$5cX012m5H0000012h5Q0000012h5oM^02$&00$(00012n2&0000012Q2,8v01&FP2003R04!(he$Ace&&
  P3(+cf012U2|0000012U2|0000011L4d0000011L4m0000012Q2j8v01&FPD008v01&FPG000000012o428v01&FPH008v01
  &FPI008v01&FPJ008v01&FPK008v01&FPL008v01&FPM008v01&FPN008v01&FPO007;0x!hSw!kSwVK!pg1!scA!xSw!zaA
  aAMo$5g3Sx$MPPk($mcD$ncD$!aAl|$%aA$&Mq$(Mq$.g5$@Td!fPQaF%0PR%2Td%3Td%4Td%5PS%7Sw%8PT%9Sw%ASw%CSw
  %DSw%ESw%FSw%GSw%HSw%IPU%JPU%KPU%LPU%MPU%NPUg5MtP1&JoE&NoEaK&lMu&mMuaL&roE&yTd(1Mu(ef%M!008v01&F
  PV008v01&FPW000000012Q2(B?00012p4V0002Nf)IPY011S2)0000012Q2jM%02%.Pa&FPb008v01&FPc002w0.!iXJ!piu
  !siv!yXX!(qo$5iw$DkT$EkU$Mqp$jXK$lXL$mix$nix$$XM$.iy$@XN!fPd%0Pe%2XN%3XN%4XN%5XN%8XP%BXQ%IXM%JXM
  %KXM%LXM%MXM%NXM%Ov$%ac)%biz%dXR%ei!%fXM%gXM%hiu%wi$&RrZ&yXN&,i%(KXS(aT*(bT+(cPh(eT.(kXV(lXW(nXX
  (oXV(pXX(qXX(rPj(xXX(yXX(zXX($XX(%XY(&XX((XX()XX(*Pk(,XX(<qr(|XX)0XX)1XV)2XX)3XX)4XV000000012V2f
  B?04NpbeNdNt012q4SMz03(ZPl(dPl(sPl012V2g0003aHMxN%012UJ50000011L040000011L050000012Q2aNB00012c2a
  NB00012c2u0000012Q2?0000010B4p0000032d1S2eP21S1X0c1X0000011D3S5400020QP33S6p6s2G3S5400030QP33S6p
  6s2G3S0V4<5400030QP33S6p6s2G3S0V4>0000011B0w7&00030a1N022w2r3BM|00030a1N022w2r3BN100030a1N022w2r
  3BN200030e1N022w2r3B7$00020a1N2r3B7$00030a1N022w2r3B1V08u1$@mh$^mh%9u3%Au3&ymh&^mh&_mh011C3SO503
  %950%A50!i00011C3S0000021D3S0V4>000001121Y0000012Q1T0001%jP%012s0w5l02!rN<bt010U3S0000032d1R2eP2
  1R1W0c1W5n02N;bt010U3S5o02N;bt010U3SOD015R010U3S5q02N;bt010U3SOB00020U3S0V4<OB00020U3S0V4>000001
  2t1W0000012t1h8v01&FP)002w039J9K9M000000011L0m0000011L0o0000012N1K0000012a360001%jTC012u0vNB0001
  2c1Q0000012Q1f000001121i0000012f2+0000012Q33750002131^2W26NQ02$AcM(+O)012v5R0000012Q1_0000012Q1_
  M%02%.Q1&FQ200M%02%.Q4&FQ5000000012Q2K0000012Q2nB?01&&Q9012p2n8v01&FQA000001$?QB012w2<0000012h5y
  3y04$AdKbY&&QE(+QF012x5j0001dJ012l5jOj03$AdL&&QG(+QH012x5jOj03$AdM&&QI(+QJ012x5j0001$AdN012l5j00
  00012h5j7q0X!hgg!ka0!oa0!qdP!ra3!xa0!)o)$Igh$Mgi!fa0%7gj%8gk%9gl%Agl%Ca0%Da1%Ea1%Fa1%Ga2%Ha0%Ia0
  %Ja0%Ka0%La0%Ma0%Na0%iTV%qf|(2f|(.f|(;f|(^f|(_f|000907!fQR%0QS%wdV7k7l7m7n002802C.C;040e1N0bP21N
  3A022w0c3A0901$@QV000901$500010s5t0000031x1N1wP21N5o1T5o7902M(M$071N1N2yP21N3A1SP31N3A5R1QP21N5R
  022w0c3A1T5R0000061N1N2yP21N531SP31N535S1QP21N5S0c531T5S2B00051N1N2yP21N3A1U5o1QP21N5o0c3A7%02M(
  M$041V1N0bP21N3A022w0S3A2400061N1N2yP21N3A1U5t1QP21N5t022w0c3A0000012h6W0000012h6d0001O^012z6b00
  00012h5p0000012h5U0000012h5Z8+00011m6aNU00021b5H2!5r0001%SQh01095WNU00012m5k0000012i5u0000012h5E
  4007!fWB%0WC%ah;(cQl(eQm(rQl(*WD000000012h5a0000012h5E0000012h5v4001(eQs004001(eQt000000012$6600
  00012Q2.M^09!iNf$gNk$hNk$iNk$mNo$nNo$oNf$pNfNo012%2$0000012U310000011L4e0000011L4s0000011L4z0000
  012&2@0000012o2q0000012o2r0000012o2q0000012o2r0000012Q2kM^01No012(2$0000022Q4T1T5Q0003$jW4$lW5%S
  wL012)4TNB00010j6$NB07!n00!z00$e00$f00$y00%Q00%l00012*2$PH01Nh012+2$P203$g00$h00$i00012,2$PH03$j
  00$k00$l00012.2$PK01Nk012;2$PL01Nl012<2$PJ02$m00$n00012>2$N901No012?2$Or00022@1N022wOv00042^1N1w
  P21N5R022w1T5R0000032_1N1wP21N5S1T5S2B00032^1N1wP21N5o1T5o3I02M(M$022|1N022w2400042^1N1wP21N5t02
  2w1T5tPK04$t00$u00$v00$w0001302$PI01Ni01312$PF00012)4UNv00010jJN0000012Q2k0000012Q2bNB00012c2bNB
  00012c2x0004$AkC$rk3%cQ.(+ZM01325R0001Q,01325S0003!(i($AgG&&Tv02335B1b5H0001$AgH02335B1b5H000001
  2V5GKE0001335B0000012V5d0001%cQ>01325Q0000012V2h9R06l5k$$Itls^Mz)6lp000000011L040000012Q1_000001
  1L060000011L070000011L060000011L26000001341v000001341w0000012Q1U000001121Z1V05$@m;$^m;&ym;&^m;&_
  m;011C3SPx03uH%9uJ%AuJ011C3S000001121a0000012Q1V000001353C0000011B0x0000012Q1^0000012t1XNB00010j
  2y0000011L0n0000011L0p0000011L4!0000012N1L0000012a370000012Q1g000001121jBS00011C3S5g00011L430000
  012Q34B.0002131|2W27B>0002131|2W270000012Q200000012Q2cNB00012c2c0000012Q2L0000012Q2dNB00012c2d00
  00012Q2S0000011L4PCC0002132M2W2O0000012Q2oNB00012c2v0000012Q2>CJ00011I3S0000012h5z0000012h5h0000
  012h5i0000012h5h0000012h5i0000012h5h0000012h5iCp024@4^011I3S0000041x1R1wP21R5y0S1W1T5yCt024@4^01
  1I3SCu024@4^011K3SCv024@4^011I3SCw024@4^011I3SCx024@4^011I3S7i021C1403361N0s5j022w7j0002371N0s5j
  0000041x1e1wP21e6W0S1h1T6WD700031V1N022w1W3A0000021x1N0s5p0000031x2,1wP22,5U1T5U000002092j1T5E00
  00012h5s0000012h6X7902nfne061N1N0mP31N5R3B1QP21N5R022w1T5R0|3B5O00051N1N0mP31N5o3B1QP21N5o1T5o0|
  3B5K00061N1N0mP31N5t3B1QP21N5t022w1T5t0|3B0000012h6X4001(eRg000000012h5V00000227P21v4r2l4r4001(e
  Rj000000012h5C0000012h5D00000227P21w4r2l4r0000012h6f8+00011m6f0000012h5C0000012h5D0000012h5C0000
  012h5D0000012h5w0000012h6eO%00012z6c0000012h5w0000012h6VO>03(cRm(eRn(rRm000000012$670000012U4R00
  000138300000012U320000011L4g0000011L4t0000011L4t0000011L4$0000012&2^8v01&FRv000000012o2s0000012Q
  2lNz09!fXn%0XO(aXT(bXU(eRx(*XX%a00(c00(r0000Pe0001325F000001325FQ.01(eRy000000011L08E5000213212W
  290000012Q200000012Q200000011L090000011L090000011L270000011L270000011L290000011L4.0000011L4q0000
  011D3U000001353D1V05$@nD$^nD&ynD&^nD&_nD011C3SR803uO%9uQ%AuQ011C3S000001353E0000012Q1|0000012Q1|
  0000012Q2M0000012Q210000012a38A800011L44Ff00011C3SF&00011C3SAX00011L45GD000213222W2B0000012Q2T00
  00011L4QGK0002132N2W2PGL0002132U2W2W0000011L2Q0000012h5!GW00011I3S0000012h5e0000012h5f0000012h5e
  0000012h5f0000012h5e0000012h5f0000012h5e0000012h5f000002092j1T5hB?0001395i0000020%2q1T5C0000020%
  2r1T5D0000012h6Y0000012h6Y0000012h5N4001(eS8004001(eS9008+00011m5X0000012h5x0000012h5l0000012h6g
  8+00011m6g0000012$680000011L4h0000011L4h0000011L4u0000011L4%0000011L4&0000012&2_NB00012c2!000001
  2o2t0003$jX?$lX@%SwM013A5bRx00013A5c0000011L0AHg000213232W2CHj000213232W2C0000012Q240000011L4i00
  00011L2B0000011L2C0000011L2C0000011L4;000001353F000001353G1V05$@nP$^nP&ynP&^nP&_nP011C3SR;03!iuS
  %9uT%AuT011C3S0000012Q220000012Q2N0000012Q2U0000012Q230000012Q23Et00011L46Ey00011L47Ig00011C3SJ5
  0002132V2W2X0000011L2R0000011L2Y0000012h5$JF00011I3S0000012h6Z0000012h5O0000012h5O4001(eSU000000
  011L4j0000011L4(0000011L4(0000011L4)0000011L4)Jv000213252W2G0000011L4k0000011L4k0000011L2G000001
  353H000001353I0000012Q2V0000012Q25H+00011L48H;00011L49KR00011C3S0000011L2Z0000012h5%K%00011I3S00
  00012h5P4001(eSe000000011L4f0000011L4*0000011L4+0000011L4l000001353J000001353KJ(00011L4AJ+00011L
  4B8+00011m5Y000001353L000001353ML700011L4CLA00011L4D000001353N000001353OL)00011L4EL,00011L4F0000
  01353PMM00011L4G0004$0e((ZT8(dT8(sT8013B2e0000021L0L3C1M2,02$Af*%.TA013D4oSr01$Af+013D4o2,01T901
  1B4o0000011B4n0001%jN_023E0v0S1W2400022R1N022w0703l2l0$000020+1N022w2700022R1N022w2800022@1N022w
  0002rerd040a1N2IP21N3A022w2J3A2502rerd040a1N2IP21N3A022w2J3A0000013F35BO01$000040a1N2IP21N3A022w
  2J3ABP01$000040e1N2IP21N3A022w2J3A0001re030a1N2IP21N3A2J3AS)00040a1N2IP21N3A022w2J3A0000023G1e0S
  1h0000010L2*2&04!*S%&gfl(Tfl(Ufl000000013H5q4m01(eTi004m01(eTj000000013I5t0000013H5o0000013H5S4m
  01(eTn004m0F383H3J3K3N3P3R3S(egD(k3V(lTo(o3V3Y)13V)43V00S|01(lTq000002$rhf(+Tu013H5QPf00013H5HPg
  00013H5H0000013H5H0001$5gK013J5H0000013H5Q0000013H5o0000013B2fSp03(ZT>(dT>(sT>013B2g0000011B4p00
  00023G1S0S1X0000010L0w0000010(1T0001%jT|012u0wOB01!rTB010U3S0000023G1R0S1WOD01TA010U3SOE01TA010U
  3SOF01TA010U3SOG01TA010U3STF00020U3S0V4<TF00020U3S0V4>0000013K1K0000013F36Sv00012s0v0000010L2+00
  00010L330000020a1^1L26T102$AgC(+Tm013H5ROh00013L2<0000013H5yPf05$AgY$LgZhe&&U8(+U9013H5j0002gXgY
  013H5jTW04$Aga$Lgb&&UA(+UB013H5jTW04$Agc$Lgd&&UC(+UD013H5j0002$Age$Lgf013H5j0000013H5j6u02&Fnl$5
  0001395t0000032_1N1wP21N5o1T5oTT02nfne061N1N0QP31N3A5R1QP21N5R022w0S3A3M5R5O00041N1N3N5o1QP21N5o
  0S3A5K00051N1N3N5t1QP21N5t022w0S3A0000013H6W0000013H6d0001Tw013O6b0000013H5p0000013H5U0000013H5Z
  KE00013P6aT500021b5H335r0001%SUS013Q5WT500013J5k0000013I5u0000013R5E4m07!fT(%0T)%agP(cUW(eUX(rUW
  (*T<000000013H5a0000013R5E0000013S5v4m01(eUd004m01(eUe000000013T2@7z00043U1N3VP21N5R022w3W5R0000
  033X1N3VP21N5S3W5S7$00033U1N3VP21N5o3W5o7&00043U1N3VP21N5t022w3W5tTT01%cfF013H5R0001fE013H5S0003
  !(k2$Aj8&&X<022V5B1b5H0001$Aj9022V5B1b5H0000013B5GRx00012V5B0000013B5d0001%cfG013H5Q0000013B2h00
  00013Y1v0000013Y1w0000010(1U0000010(1V0000010L0x2Q0Q!,oj%lwJ!iol$8oj$eom$fon$goo$hoo$ioo$jop$koq
  $lor$mos$nos$ool$pol$qot$rli$soj$tou$uou$vou$wou$xoj$yov$zoj013Z2y0000013K1L0000013F370000010L34
  0000020a1|1L270000020a1|1L270001%jRP020a2M3a2O0000013H5z0000013b5h0000013H5i0000013b5h0000013H5i
  0000013b5h0000013H5i0000042_1R1wP21R5y0S1W1T5y7i02M(M$033c1N0s5j022w7j00023d1N0s5j0000042_1e1wP2
  1e6W0S1h1T6WS_02nfne041V1N0QP21N3A022w0S3A0000023e1N0s5p0000032_2,1wP22,5U1T5U0000022R2j1T5E0000
  013H5s0000013H6X0000013H6X4m01(eU*000000013H5V000002271v3f4r4m01(eU.000000013g5C0000013g5D000002
  271w3f4r0000013H6fKE00013P6f0000013g5C0000013g5D0000013g5C0000013g5D0000013S5w0000013H6eTj00013O
  6c0000013S5w0000013H6VTt03(cU>(eU?(rU>000000013T2^4001(eX200T)00013H5F0000013H5F4001(eX300000002
  0a211L290000013F380000020a221L2B0001%jS3020a2N3a2P0001%jS4020a2U3a2W0000013H5!0000013h5e0000013h
  5f0000013h5e0000013h5f0000013h5e0000013h5f0000013h5e0000013h5f0000022R2j1T5h0000023i2q255C000002
  3i2r255D0000013H6Y0000013H6Y0000013H5N4m01(eV4004m01(eV500KE00013P5X0000013S5x0000013H5l0000013H
  6gKE00013P6g0000013T2_KE00013P5bKE00013P5c0000020a231L2C0000020a231L2C0001%jSR020a2V3a2X0000013H
  5$0000013H6Z0000013H5O0000013H5O4m01(eVD000000020a251L2G0000013H5%0000013h5g0000013h5g0000013h5g
  0000013h5g0000013H5P4m01(eVF00KE00013P5Y0003$Ahg!phP%.Ve013j4oVG01$Ahh013j4o0002hOVd013k4o000001
  2Q4n0001%jVg022Q0v0S1W2500022R1N022w0000020a1e0i1h0000012&2*0000013S5q2w0*!iVO!phU!shV!yVc!(p*$5
  hWhIhJ$Mp+$jVP$lVQ$mhX$nhX$$VR$.hY$@VS!fVu%0VT%2VS%3VS%4VS%5VS%8VU%BVV%IVR%JVR%KVR%LVR%MVR%NVR%O
  vr%bhZ%dVW%eha%fVR%gVR%hhU%whb&Rp,&yVS&,hc(KVX(aVY(bVZ(eV+(kVa(lVb(nVc(oVa(pVc(qVc(xVc(yVc(zVc($
  Vc(%Vd(&Vc((Vc()Vc(*Vc(,Vc(<p.(|Vc)0Vc)1Va)2Vc)3Vc)4Va00VP01(eV,000000013l5t0000013S5o0000013S5S
  VP01(eV>00VP0F383H3J3K3N3P3R3S(ehy(k3V(lV?(o3V3Y)13V)43V00VV01(lV^000002f&(+W1013m5QB?02$Ah$&&W2
  013n5H0001$Ah%013o5H0000013S5H0001$5h)013p5H0000013S5Q0000013S5o0000012Q4p0000020a1S0i1X0000012Q
  0w0001%jY7011F0wOB01Ve010U3S0000020a1R0i1WOD01Ve010U3SOE01Ve010U3SOF01Ve010U3SOG01Ve010U3SVi0002
  0U3S0V4<Vi00020U3S0V4>0000013q1KVK00012Q0v0000012&2+0000013r33VX02$Ahx(+V<013s5R7R00013t2<000001
  3S5yB?04$Ah@f&&&WL(+WM013u5j0001h?013o5jVx03$Ah^&&WN(+WO013u5jVx03$Ah_&&WP(+WQ013u5j0001$Ah|013o
  5j0000013S5j0000033X1N3VP21N5o3W5o5O00041N1N3v5o1QP21N5o0S3A5K00051N1N3v5t1QP21N5t022w0S3A000001
  3S6W0000013S6d0001W3013w6b0000013S5p0000013S5U0000013S5ZPF00012)6aVb00021b5H3x5r0001%SWe012Q5WVb
  00013p5k0000013l5u0000013S5EVP07!fY2%0Y3%ajH(cWi(eWj(rWi(*Y4000000013S5a0000013S5E0000013y5vVP01
  (eWp00VP01(eWq000000013z2@7902l2l0043!1N3VP21N5R022w3W5R0000031N1N1OP21N5S1|5S0001l2033!1N3VP21N
  5o3W5oW901l0043!1N3VP21N5t022w3W5tOY01%cUj012v5R0001Ui012h5S0001%cUm012h5Q0000012Q1v0000012Q1w00
  00012Q0x5P0Q!,s9%lso!isA$8s9$esB$fsC$gsD$hsD$isD$jsE$ksF$lsG$msH$nsH$osA$psA$qsI$ru%$ss9$tsJ$usJ
  $vsJ$wsJ$xs9$ysK$zs9013$2y"

end Automaton
end TypeScript
end ServiceCapsule
