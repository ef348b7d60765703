/-!
# States 1471 to 2664

States of the automaton of the grammar with markup, packed two letters a number. How they are
laid out is said beside the function that unpacks them.
-/

namespace ServiceCapsule
namespace TypeScript
namespace Automaton

def markupThird : String := "
  0000010h570M01%.Kh000001!*Ki00BD01%.Sj011;468&01$6Kj000004!nKk$jeq$ler%Sxt012I5m4P01(eKl004P01(e
  Km004P01(eKn000000011L6P2+01&fKo00BD01%.Sk011;470001$0Kp00Ii01F8000001$6Kq002+02%BKr&fKs001V05$@
  Kt$^Kt&yKt&^Kt&_Kt00Im00010^3S1@02&qKu(ZKv010Z3fBC03KnKtKu010Z3f0000010Z3f5l01&qKw010Z3g0000010Z
  3h5l01&qKx010Z3i0000010Z3jIm03!iKy%9Kz%AKz011C3S6q05!zK!%BK$Kr&qK%(ZK&010Z3k2w01(eK(00FA04(WK)(X
  K)(YK)(ZK)001>04Kz%BK!K$K%010Z3k6o05$@K*$^K*&yK*&^K*&_K*011.3SI!01%8K+00I!0000Bj03&fK,Tjg;000000
  010Z4I0000010Z4JFY02%BK.&fK;000000010Z3l6o09Kx$IK<$@K>$^K>%9TF%ATF&yK>&^K>&_K>011C3SFZ03K+KtKu01
  0Z3f1V05$@K?$^K?&yK?&^K?&_K?00I;00010^3SBS05!zK@%BK^&ffG&qK_(ZK|010Z3k1@02&qL0(ZL1010Z3fFw03&ffF
  K|L0010Z3f0000010Z3f5l01&qL2010Z3g6o09!iuR$IRn$@L3$^L3%9Rm%ARm&yL3&^L3&_L3011C3S1>04K?%BK@K^K_01
  0Z3k6o05$@L4$^L4&yL4&^L4&_L4011.3SJ101%8L500J10000J202Or(SL6011.3SJ101%OL7011.3S0000010Z3h5l01&q
  L8010Z3i0000010Z3jI|01%8L9000000010B2E4402%jQ8!)Q800I&01&fLA000000011L44G102!rLB%iLB000000011J5!
  G305%jLC!qLC!rLB!)LC%iLB00FY02%BLD&fLE000000011L6K5i01(ZLF011L6L1V05$@LG$^LG&yLG&^LG&_LG00JK0001
  0^3SJK03!iLH%9LI%ALI011I3SBq03%BLJLD(ZLK011L5,G402L9(ZLL011L5.0000011L5;6o09LG$ILM$@LN$^LN%9TH%A
  TH&yLN&^LN&_LN011I3S5i01(ZLO011L6LF?01&,LP000000011L730004!qLQ!)LQ%jLQJT011LJh0000011L450000011L
  5<JQ01%8LR000000012F5e0000012F5f8z08j;j<$@LS&yLS(*LS!f00%000(r00000000012F5e0000012F5fJa03$@LT&y
  LT(*LT000000012F5e0000012F5fJa03$@LU&yLU(*LU000000012F5e0000012F5fJa03$@LV&yLV(*LV000000010m5J00
  00010q6Y0000010m75GY01$6LW000000010q6Y0002!qLXJo010mJj0000010q5N2w01(eLY00000001235T2w01(eLZ0000
  01$KLa008&00011a5X2w01(eLb000000010q5l0000010q6g8&00011a6g0001%jLc020R2V0B2X0000010B2R0000010B2Y
  0000016l1>0004$7Le$DLd$FLe)GLe000004$7Lf$ELd$GLf)HLf009H02%jLg!)Lg000000010B4j0003kUs*ZO012O6@00
  02s*ZW012O6^0000012O6^H600012OJc0000010B4(6401HA010Q6|0000010Q70H901!rLh000000010B4(0002!qLiJ_01
  0QJe0000010B4)H901!rLj000000010B4)0000016q5x2g02%jQ8!)Q8010Q1cJN02%BLk&fSt011L5,JO01&fSs011L5.6o
  09!ioH$IoJ$@Ll$^Ll%9g&%Ag&&yLl&^Ll&_Ll011I3SK701%8Lm000000010B2F0001%jLn020R250B2G0000010B2F0000
  010B4kC>01&+Lo000000010B4kJ!00010B2XKA00010B2G0000011%4W0000010Q3H0M01%.Lp000000010Q3I5I01&fLq00
  0M01%.Lr004x02%BLs&fLt001V05$@Lu$^Lu&yLu&^Lu&_Lu00KO00010^3S000001092V00000109250+00012E1D000001
  2N0.Eu01!*Lv000001!*Lw00Eu01!*Lx000001Lw000000010B0&0000010B0&1101%(Ly000000010B0&1101%(Lz001101
  %(L!00Eu01!*L$000001L!000000020aP222250b250000011)1H0M01%.L%00FA04(WL&(XL&(YL&(ZL&002w01(eL(0000
  03V3V4xo011L58Kl00011L59Kl00011L5ABD01%.T9011;482w01(eL)00FA04(WL*(XL*(YL*(ZL*002+01&fL+00BD01%.
  TA011;492+02%BL,&fL.000000010Z3m5l01&qL;010Z3n0000010Z3o0000010Z3p1V05$@L<$^L<&yL<&^L<&_L<00Ky00
  010^3S1@02&qL>(ZL?010Z3qBC03L*L<L>010Z3q0000010Z3q5l01&qL@010Z3r8&01$6L^000000011L6Q1>04!zL_%BL_
  &qL|(ZM0010Z3s6o05$@M1$^M1&yM1&^M1&_M1011.3S0000010Z4KI&01&fM2000000010Z4LKy03!iM3%9M4%AM4011C3S
  6q05!zL_%BM5L,L_L|010Z3sFY02%BM6&fM7001@02&qM8(ZM9010Z3qFw03&ffyM7M8010Z3q0000010Z3q5l01&qMA010Z
  3r0000010Z3m5l01&qMB010Z3n0000010Z3oBS05!zMC%BMD&ffz&qME(ZMF010Z3s1>04MB%BMCMDME010Z3s6o05$@MG$^
  MG&yMG&^MG&_MG011.3SL501%8MH00L500000000010Z3p6o09!iub$ISm$@MI$^MI%9Sl%ASl&yMI&^MI&_MI011C3S0000
  011L460000011J5$G102!rMJ%iMJ00I&01&fMK000000011L470000011L6MFY02%BML&fMM001V05$@MN$^MN&yMN&^MN&_
  MN00LH00010^3SG402MJ(ZMO011L5>0000011L5?0000011L5@LH03!iMP%9MQ%AMQ011I3SBq03%BMRML(ZMS011L5^0000
  011L6M5i01(ZMT011L6NG102!r00%i00006o09MO$IMU$@MV$^MV%9TW%ATW&yMV&^MV&_MV011I3S0001$6MW000001$6MX
  000001$6MY000001$6MZ000000010q6ZGY01$600000000010q5O0000010q5O2w01(eMa008&01$0Mb000000010B2Z0000
  016l1?J(01$D00016rJLJ)01$E00016sJM0000010B4f0000010B4*H901!r00000000010B4+LJ01&fTD011L5>LN02%BMc
  &fTE011L5^6o09!ioU$IoW$@Md$^Md%9g(%Ag(&yMd&^Md&_Md011I3S0000010B2H0000010B4l0000010Q3J0M01%.Me00
  0000010Q3K5I01&fMf000M01%.Mg004x02%BMh&fMi000000012N0;0000012N0;0000012N0;0000010B0(0000010B0(00
  00010B0(1101%(Mj000000011)1I0000011L6R8&00012I5n8&01$6Mk000000011L6SBD01%.TR011;4A2+01&fMl00BD01
  %.TS011;4B0000010Z3t2+02%BMm&fMn000000010Z3u5l01&qMo010Z3v0000010Z3wFA04(WMp(XMp(YMp(ZMp001@02&q
  Mq(ZMr010Z3x0000010Z3x5l01&qMs010Z3y1>04!zMt%BMt&qMu(ZMv010Z3z0000010Z4M1V05$@Mw$^Mw&yMw&^Mw&_Mw
  00M300010^3SBC03MkMpMq010Z3xI&01&fMx000000010Z4N0000010Z3u5l01&qMy010Z3v0000010Z3w0000010Z3t1@02
  &qMz(ZM!010Z3xFw03&fg2MyMz010Z3x0000010Z3x5l01&qM$010Z3y1>04!zM%%BM%&qM&(ZM(010Z3z6o05$@M)$^M)&y
  M)&^M)&_M)011.3SBS05!zM%%BM*&fg3M%M&010Z3z0000011J5%0000011L48I&01&fM+000000011L49FY02%BM,&fM.00
  0000011L5_1V05$@M;$^M;&yM;&^M;&_M;00MP00010^3SG402M*(ZM<011L5|0000011L600000011L6OMP03!iM>%9M?%A
  M?011I3SBq03%BM@M,(ZM^011L610000012F5g0000012F5g0000012F5g0000012F5g0000010q5P2w01(eM_00MR01&fTT
  011L5|MV02%BM|&fTU011L610000010Q3L0M01%.N0000000010Q3M5I01&fN1000M01%.N2000000010B0)FA04(WN3(XN3
  (YN3(ZN300BD01%.TZ011;4C2+01&fN400BD01%.Ta011;4D0000010Z3!0000011L6T0000010Z3$5l01&qN5010Z3%0000
  010Z3&1@02&qN6(ZN7010Z3(0000010Z3(5l01&qN8010Z3)2+02%BN9&fNA000000010Z4O0000010Z3!0000010Z3$5l01
  &qNB010Z3%0000010Z3&1@02&qNC(ZND010Z3(0000010Z3(5l01&qNE010Z3)1>04!zNF%BNF&qNG(ZNH010Z3*Fw03&fgC
  NBNC010Z3(0000011L4AI&01&fNI000000011L4BFY02%BNJ&fNK000000011L621V05$@NL$^NL&yNL&^NL&_NL00M>0001
  0^3SG402NH(ZNM011L630000011L648&00011a5YM@01&fTb011L630000010Q3N0M01%.NN000000010Q3O0000011L6UBD
  01%.Te011;4E0000010Z3+0000010Z3,5l01&qNO010Z3.0000010Z3;2+01&fNP00BD01%.Tf011;4F0000010Z3+000001
  0Z3,5l01&qNQ010Z3.0000010Z3;1@02&qNR(ZNS010Z3<0000010Z3<5l01&qNT010Z3>0000011L4CI&01&fNU00000001
  1L4DFY02%BNV&fNW000000011L650000010Q3P0000010Z3?BD01%.Ti011;4G0000010Z3?0000010Z3@5l01&qNX010Z3^
  0000010Z3_0000011L4EI&01&fNY000000011L4F0000010Z3|0000011L4G6X02!iN<&FN>016t1O6X01&FO1000000012Q
  1N2B00012w1N0000011L0L2B00022w1N022w0006mUcv$Lc&bmc$&zOQ012S1M0000012Q1M0002bmOP012T1M0000012U6i
  0004$0c,(ZOU(dOU(sOU012V2e0000022W0L2X1M6X03!piv%.OZ&FOa000000011L030000011L0L6X01&FOb000M02$AhU
  %.Od012Y4oNp01$AhV012Y4o0M01Oc012Y4o0000010B4n1Z00032W0v131R0S1W1y01oi020A1N022w2502oi14020A1N02
  2w1&01oi020A1N022w2^032,oi14020X1N022w0r09cumUcvOJ$&ON$(ONc$O7ON016u2%B*00030a1N022w0i3A2?01oi03
  0a1N022w0i3A0000012a352@01oi030a1N022w0i3A2^01oi030e1N022w0i3A0000020a1N0h53B(00020a1N0i3A2C02oi
  oh030a1N022w0h3AB*00040f1N0g4<022w0h3AB*00040f1N0g4>022w0h3AB(00030a1N022w0i3ANy03cyOAc!016v2p6X
  01&FO>005200016w1P0000032d1e2eP21e1h0c1h0000012f2*0000012Q1@2&04!*N$&gcI(TcI(UcI00Nf04cu$rpx&&PM
  (+PN012g2m0000012Q1$Ny02$&00$(00016x2&0000012Q2,6X01&FPU003G04!(k2$Ads&&PV(+dt012U2|0000012U2|00
  00011L4d0000011L4m0000012Q2j6X01&FPf006X01&FPi000000012o426X01&FPj006X01&FPk006X01&FPl006X01&FPm
  006X01&FPn006X01&FPo006X01&FPp006X01&FPq00Dd0P!pd@!sPr$5d_$mPt$nPt$.d|$@Pv!fPw%0Px%2Pv%3Pv%4Pv%5
  Py%IP!%JP!%KP!%LP!%MP!%NP!PT&yPv(ehv7E(o7E&x00006X01&FP$006X01&FP%000000012Q2(Bb00012p4V0002O9)I
  P(016y2)0000012Q2j0000012Q1kNl02%.P.&FP;006X01&FP<000000012V2fNj03(ZQ2(dQ2(sQ2012V2g0003bpNhOV01
  2UJ50000011L040000011L050000012Q2a5200016w2a5200016w2u0000012Q2?0000010B4p0000032d1S2eP21S1X0c1X
  0000011D3S4z00020QP33S6p6s2G3S4z00030QP33S6p6s2G3S0V4<4z00030QP33S6p6s2G3S0V4>0000011B0wB*00030a
  1N022w2r3BN!00030a1N022w2r3BN%00030a1N022w2r3BN&00030e1N022w2r3BB(00020a1N2r3BB(00030a1N022w2r3B
  1V08u8$@nT$^nT%9uA%AuA&ynT&^nT&_nT011C3SOq03%94v%A4v!i00011C3S0000021D3S0V4>000001121Y0000012Q1T
  0001%jQJ012s0w5O02!rOe)Bd3010U3S0000032d1R2eP21R1W0c1W5Q02Odd2010U3S5R02Odd2010U3SOy0154010U3S5T
  02Odd2010U3SOw00020U3S0V4<Ow00020U3S0V4>0000012t1W0000012t1h6X01&FQM000000011L0m0000011L0o000001
  2N1K0000012a360001%jT<012u0v5200016w1Q0000012Q1f000001121i0000012f2+0000012Q336z0002131^2W260000
  012h5q0000012h5Q3r01(eQn003r01(eQo000000012i5t0000012h5o0003$AejmR(+Qr012v5R0000012h5S3r01(eQs00
  3r0F6.70727376787A7B(eek(k7E(lQt(o7E7G)17E)47E00P901(lQv000002mR(+Qz012j5Q3X02$Aeo&&Q!012k5H0001
  $Aep012l5H0000012h5H0001$5es012m5H0000012h5o0000012Q1_0000012Q1_Nl02%.Q(&FQ)00Nl02%.Q+&FQ,000000
  012Q2K0000012Q2nBb01&&Q>012p2n6X01&FQ?000001$?Q@012w2<0000012Q1%0000012Q1&0000012$660000012Q2.Ny
  09!iO9$gOE$hOE$iOE$mOI$nOI$oO9$pO9OI016z2$0000012U310000011L4e0000011L4s0000011L4z0000012&2@0000
  012o2q0000012o2r0000012o2q0000012o2r0000012Q2kNy01OI016!2$0000022Q4T1T5Q0003$jXc$lXd%Sxq012)4T52
  00016$6$5207%l00!n00!z00$e00$f00$y00%Q00016%2$Pj01OB016&2$PU03$g00$h00$i00016(2$Pj03$j00$k00$l00
  016)2$Pm01OE016*2$Pn01OF016+2$Pl02$m00$n00016,2$N;01OI016.2$6X08!fRK%0RL%we<&FNyBwBxByBz002802DX
  DY026;1N022w6X02$@RONx006X02Nx$500012L5t0000032_1N1wP21N5o1T5o6|02NnNk046<1N1wP21N5R022w1T5R0000
  032_1N1wP21N5S1T5S2B00036<1N1wP21N5o1T5o7102NnNk026>1N022w2400046<1N1wP21N5t022w1T5tPm04$t00$u00
  $v00$w00016?2$Pk01OC016@2$Ph00012)4UOP00016$JN0000012Q2k0000016l1m0000012Q1y0000012Q1l0000012Q2b
  5200016w2b5200016w2x0004$AlF$rs^%cRV(+au01325R0001RU01325S0003!(i>$Ai2&&V302335B1b5H0001$Ai30233
  5B1b5H0000012V5GKl0001335B0000012V5d0001%cRY01325Q0000012V2h8+08m9l*$ItotC%Ctp%HtqNj)6mk00000001
  1L040000012Q1_0000011L060000011L070000011L060000011L260000016^1v0000016^1w0000012Q1U000001121Z1V
  05$@n)$^n)&yn)&^n)&_n)011C3SQE03uQ%9uS%AuS011C3S000001121a0000012Q1V000001353C0000011B0x0000012Q
  1^0000012t1X5200016_2y0000011L0n0000011L0p0000011L4!0000012N1L0000012a370000012Q1g000001121jA,00
  011C3S5J00011L430000012Q34BX0002131|2W27Ba0002131|2W270000012h5y3X04$AfSmR&&R$(+R%012x5j0001fR01
  2l5jQa03$AfT&&R&(+R(012x5jQa03$AfU&&R)(+R*012x5j0001$AfV012l5j0000012h5jPs00040e1N0bP21N3A022w0c
  3APw00071N1N2yP21N3A1SP31N3A5R1QP21N5R022w0c3A1T5R0000061N1N2yP21N531SP31N535S1QP21N5S0c531T5S2B
  00051N1N2yP21N3A1U5o1QP21N5o0c3AB)02NnNk041V1N0bP21N3A022w0S3A2400061N1N2yP21N3A1U5t1QP21N5t022w
  0c3A0000012h6W0000012h6d0001Q!012z6b0000012h5p0000012h5U0000012h5Z8900011m6aPF00021b5H2!5r0001%S
  R_01095WPF00012m5k0000012i5u0000012h5E3r07!fUd%0Ue%ah)(cS2(eS3(rS2(*Uk000000012h5a0000012h5E3r01
  (eS8003r01(eS9000000012Q200000012Q2c5200016w2c0000012Q2L0000012Q2d5200016w2d0000012Q2S0000011L4P
  Cf0002132M2W2O0000012Q2o5200016w2v0000012Q2>0000012Q1(0000012Q1(0000012Q1)0000012Q1)0000012$6700
  00012U4R00000138300000012U320000011L4g0000011L4t0000011L4t0000011L4$0000012&2^0000012h5v6X01&FSS
  000000012o2sDD02!rT;d2011I3S0000042_1R1wP21R5y0S1W1T5yDH02T.d2011I3SDI02T.d2011K3SDJ02T.d2011I3S
  DK02T.d2011I3SDL02T.d2011I3SBu02NnNk036|1N0s5j022wBv00023d1N0s5j0000042_1e1wP21e6W0S1h1T6WGS0003
  1V1N022w1W3A0000023e1N0s5p0000032_2,1wP22,5U1T5U0000023G2j1|5E0000012Q2l0000016l1n0000012Q1z0000
  012Q1!2w0*!iY!!pk6!sk7!yY$!(s9$5k8$DlV$ElW$MsA$jY%$lY&$mk9$nk9$$Y($.kA$@Y)!fY*%0Y+%2Y)%3Y)%4Y)%5
  Y)%8Y,%BY.%IY(%JY(%KY(%LY(%MY(%NY(%OxA%bkB%dY;%ekC%fY(%gY(%hk6%wkD&Rs.&yY)&,kE(KY<(aY>(bY?(eSY(k
  Y@(lY^(nY$(oY@(pY$(qY$(xY$(yY$(zY$($Y$(%Y_(&Y$((Y$()Y$(*Y$(,Y$(<sC(|Y$)0Y$)1Y@)2Y$)3Y$)4Y@00P?00
  01325F000001325FRV01(eSZ000000011L08Dv000213212W290000012Q200000012Q200000011L090000011L09000001
  1L270000011L270000011L290000011L4.0000011L4q0000011D3U000001353D1V05$@oB$^oB&yoB&^oB&_oB011C3SRm
  03ua%9uc%Auc011C3S000001353E0000012Q1|0000012Q1|0000012Q2M0000012Q210000012a389o00011L44FD00011C
  3SFb00011C3S9?00011L45F&000213222W2BF;00011I3S0000012h5z0000012h5h0000012h5i0000012h5h0000012h5i
  0000012h5h0000012h5i0000012h5s0000012h6XPw00061N1N0mP31N5R3B1QP21N5R022w1T5R0|3B2B00051N1N0mP31N
  5o3B1QP21N5o1T5o0|3B2400061N1N0mP31N5t3B1QP21N5t022w1T5t0|3B0000012h6X3r01(eS+000000012h5V000002
  27P21v4r2l4r3r01(eS;000000012h5C0000012h5D00000227P21w4r2l4r0000012h6f8900011m6f0000012h5C000001
  2h5D0000012h5C0000012h5D0000012h6eQo00012z6c0000012h6VQy03(cS>(eS?(rS>000000012Q2T0000011L4QG)00
  02132N2W2PG*0002132U2W2W0000011L2Q0000012Q1*0000012Q1+0000012$680000011L4h0000011L4h0000011L4u00
  00011L4%0000011L4&0000012&2_0000012h5w0000012h5w5200016w2!0000023G2j1|5hBb0001395i0000022M2q1T5C
  0000022M2r1T5D0000012o2t0003$jZZ$lZa%Sxr013A5bSY00013A5c0000011L0AHm000213232W2CHp000213232W2C00
  00012Q240000011L4i0000011L2B0000011L2C0000011L2C0000011L4;000001353F000001353G1V05$@oR$^oR&yoR&^
  oR&_oR011C3SSl03!iuf%9ug%Aug011C3S0000012Q220000012Q2N0000012Q2U0000012Q230000012Q23ER00011L46EW
  00011L47Im00011C3S0000012h5!JK00011I3S0000012h5e0000012h5f0000012h5e0000012h5f0000012h5e0000012h
  5f0000012h5e0000012h5f0000012h6Y0000012h6Y0000012h5N3r01(eTJ003r01(eTK008900011m5X0000012h5l0000
  012h6g8900011m6gJ!0002132V2W2X0000011L2R0000011L2Y0000011L4j0000011L4(0000011L4(0000011L4)000001
  1L4)0000012h5xKA000213252W2G0000011L4k0000011L4k0000011L2G000001353H000001353I0000012Q2V0000012Q
  25H?00011L48H_00011L49Ky00011C3S0000012h5$LH00011I3S0000012h6Z0000012h5O0000012h5O3r01(eTX000000
  011L2Z0000011L4f0000011L4*0000011L4+0000011L4l000001353J000001353KKJ00011L4AKM00011L4B0000012h5%
  MP00011I3S0000012h5P3r01(eTd00000001353L000001353MLq00011L4CLt00011L4D8900011m5Y000001353N000001
  353OMf00011L4EMi00011L4F000001353PN100011L4G0004$0hS(ZT+(dT+(sT+013B2e0000021L0L3C1M2,02$Ai^%.T.
  013D4oTm01$Ai_013D4o2,01T,011B4o0000011B4n0001%jOj023E0v0S1W2400022w1N022w0703m6m4$000020+1N022w
  2700022w1N022w2800026;1N022w0002rZrY040a1N2IP21N3A022w2J3A2502rZrY040a1N2IP21N3A022w2J3A0000013F
  35A(01$000040a1N2IP21N3A022w2J3AA)01$000040e1N2IP21N3A022w2J3A0001rZ030a1N2IP21N3A2J3AT!00040a1N
  2IP21N3A022w2J3A0000023G1e0S1h0000010L2*2&04!*Tx&ghE(ThE(UhE000000016j1$0000016j1k0000013B2fTk03
  (ZUl(dUl(sUl013B2g0000011B4p0000023G1S0S1X0000010L0w0000010(1T0001%jUq012u0wOw01T.010U3S0000023G
  1R0S1WOy01T.010U3SOz01T.010U3SO!01T.010U3SO$01T.010U3ST@00020U3S0V4<T@00020U3S0V4>0000013K1K0000
  013F36Tq00012s0v0000010L2+0000010L330000020a1^1L260000013H5q0000013H5Q4P01(eU,004P01(eU.00000001
  3I5t0000013H5o0003$Ah_$rs7(+U>013H5R0000013H5S4P01(eU?004P0F6.70727376787A7B(eh|(k7E(lU@(o7E7G)1
  7E)47E00UJ01(lU_000002s6(+V2013H5QP@00013H5HP^00013H5H0000013H5H0001$5i4013J5H0000013H5oPP00013L
  2<0000016j1%0000016j1&0000013T2@Pu0001395t0000031N1N1OP21N5o1P5oB%00043U1N3VP21N5R022w3W5R000003
  701N3VP21N5S3W5SB(00033U1N3VP21N5o3W5oB*00043U1N3VP21N5t022w3W5t0000016j1y0000016j1lP601%cVT012v
  5R0001VS012h5S0003!(l2$AkZ&&ZY022V5B1b5H0001$Aka022V5B1b5H0000013B5GSY00012V5B0000013B5d0001%cVW
  012h5Q0000013B2h000001341v000001341w0000010(1U0000010(1V0000010L0x2Q0Q!,pw%lxm!ipz$8pw$ep!$fp$$g
  p%$hp%$ip%$jp&$kp($lp)$mp*$np*$opz$ppz$qp+$rme$spw$tp,$up,$vp,$wp,$xpw$yp.$zpw013Z2y0000013K1L00
  00013F370000010L340000020a1|1L270000020a1|1L270000013H5yP@05$AiL$LiMs6&&Vb(+Vc013H5j0002iKiL013H
  5jUy04$AiN$LiO&&Vd(+Ve013H5jUy04$AiP$LiQ&&Vf(+Vg013H5j0002$AiR$LiS013H5j0000013H5jUG02NnNk061N1N
  0QP31N3A5R1QP21N5R022w0S3A3M5R2B00041N1N3N5o1QP21N5o0S3A2400051N1N3N5t1QP21N5t022w0S3A0000013H6W
  0000013H6d0001V3013O6b0000013H5p0000013H5U0000013H5ZKl00013P6aUP00021b5H335r0001%SVn013Q5WUP0001
  3J5k0000013I5u0000013R5E4P07!fX5%0X6%ajQ(cVr(eVs(rVr(*X7000000013H5a0000013R5E4P01(eVx004P01(eVy
  000001%jSG020a2M3a2O0000016j1(0000016j1(0000016j1)0000016j1)0000013T2^0000013S5vRD01Od011I3S0000
  051N1R1QP21R5y1R1W1SP21W5y1T5yRF01Od011I3SRG01Od011K3SRH01Od011I3SRI01Od011I3SRJ01Od011I3SBu02oi
  oh031?1N1@5j022wBv00021^1N1_5j0000051N1e1QP21e6W1R1h1SP21h6W1T6WUI02NnNk041V1N0QP21N3A022w0S3A00
  0002211N1_5p0000031N2,1OP22,5U1P5U000002712j725E0000016j1z0000016j1!3r01(eV<00Ue00012h5F0000012h
  5F3r01(eV>000000020a211L290000013F380000020a221L2B0000013H5z0000013b5h0000013H5i0000013b5h000001
  3H5i0000013b5h0000013H5i0000013H5s0000013H6X0000013H6X4P01(eW8000000013H5V000002271v3f4r4P01(eWB
  000000013g5C0000013g5D000002271w3f4r0000013H6fKl00013P6f0000013g5C0000013g5D0000013g5C0000013g5D
  0000013H6eU.00013O6c0000013H6VV103(cWD(eWE(rWD000001%jS^020a2N3a2P0001%jS_020a2U3a2W0000016j1*00
  00016j1+0000013T2_0000013S5w0000013S5w000002712j725h000002732q255C000002732r255D8900011m5b890001
  1m5c0000020a231L2C0000020a231L2C0000013H5!0000013h5e0000013h5f0000013h5e0000013h5f0000013h5e0000
  013h5f0000013h5e0000013h5f0000013H6Y0000013H6Y0000013H5N4P01(eWK004P01(eWL00Kl00013P5X0000013H5l
  0000013H6gKl00013P6g0001%jTM020a2V3a2X0000013S5x0000020a251L2G0000013H5$0000013H6Z0000013H5O0000
  013H5O4P01(eWS000000013H5%0000013h5g0000013h5g0000013h5g0000013h5g0000013H5P4P01(eWU00Kl00013P5Y
  0003$Ak3!pi(%.Wf013j4oWV01$Ak4013j4o0002i&We013k4o0000012Q4n0001%jWh022Q0v0S1W2500022w1N022w0000
  020a1e0i1h0000012&2*0000016l1$0000016l1k0000012Q4p0000020a1S0i1X0000012Q0w0001%jZB011F0wOw01!rWg
  010U3S0000020a1R0i1WOy01Wf010U3SOz01Wf010U3SO!01Wf010U3SO$01Wf010U3SWj00020U3S0V4<Wj00020U3S0V4>
  0000013q1KWZ00012Q0v0000012&2+0000013r330000013S5q0000013S5Q2w0*!iWv!pj1!sj2!yWw!(rQ$5j3iwix$MrR
  $jWx$lWy$mj4$nj4$$Wz$.j5$@W!!fW$%0W%%2W!%3W!%4W!%5W!%8W&%BW(%IWz%JWz%KWz%LWz%MWz%NWz%Ox0%bj6%dW)
  %ej7%fWz%gWz%hj1%wj8&RrS&yW!&,j9(KW*(aW+(bW,(eXO(kW.(lW;(nWw(oW.(pWw(qWw(xWw(yWw(zWw($Ww(%W<(&Ww
  ((Ww()Ww(*Ww(,Ww(<rT(|Ww)0Ww)1W.)2Ww)3Ww)4W.00Wx01(eXP000000013l5t0000013S5o0003$AjYpw(+XS013s5R
  0000013S5SWx01(eXT00Wx0F6.70727376787A7B(ejZ(k7E(lXU(o7E7G)17E)47E00W(01(lXW000002pw(+Xa013m5QBb
  02$Ajc&&Xb013n5H0001$Ajd013o5H0000013S5H0001$5je013p5H0000013S5o7Y00013t2<0000016l1%0000016l1&00
  00013b2@000003701N3VP21N5o3W5o6|02m6m4043!1N3VP21N5R022w3W5R0000031N1N1OP21N5S1|5S0001m6033!1N3V
  P21N5o3W5oX101m4043!1N3VP21N5t022w3W5t0000016l1y0000016l1lUG01%cgz013H5R0001gy013H5S0001%cg!013H
  5Q0000013Y1v0000013Y1w0000012Q0x520Q!,sP%ls,!isQ$8sP$esR$fsS$gsT$hsT$isT$jsU$ksV$lsW$msX$nsX$osQ
  $psQ$qsY$rvz$ssP$tsZ$usZ$vsZ$wsZ$xsP$ysa$zsP013$2y0000013q1L0000013r340000013S5yBb04$Ajrpw&&Xw(+
  Xx013u5j0001jq013o5jXF03$Ajs&&Xy(+Xz013u5jXF03$Ajt&&X!(+X$013u5j0001$Aju013o5j0000013S5j2B00041N
  1N3v5o1QP21N5o0S3A2400051N1N3v5t1QP21N5t022w0S3A0000013S6W0000013S6d0001Xb013w6b"

end Automaton
end TypeScript
end ServiceCapsule
