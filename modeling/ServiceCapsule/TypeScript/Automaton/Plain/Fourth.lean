/-!
# States 2577 to 3626

States of the automaton of the grammar without markup, packed two letters a number. How they are
laid out is said beside the function that unpacks them.
-/

namespace ServiceCapsule
namespace TypeScript
namespace Automaton

def plainFourth : String := "
  0000013q1L0000013r340000013S5z0000013S5h0000013S5i0000013S5h0000013S5i0000013S5h0000013S5i000004
  3X1R3VP21R5y0S1W3W5y7i02nfne031?1N1Y5j022w7j00023%1N1Y5j0000043X1e3VP21e6W0S1h3W6W0000021N1N1Y5p
  0000033X2,3VP22,5U3W5U0000023&2j255E0000013S5s0000013S6X0000013S6XVP01(eW<000000013S5V00000227P2
  1v4r3o4rVP01(eW@000000013S5C0000013S5D00000227P21w4r3o4r0000013S6fPF00012)6f0000013S5C0000013S5D
  0000013S5C0000013S5D0000013y5w0000013S6eV,00013w6c0000013y5w0000013S6VW003(cW|(eX0(rW|000000013z
  2^WC00012h5F0000012h5F0000013S5!0000013S5e0000013S5f0000013S5e0000013S5f0000013S5e0000013S5f0000
  013S5e0000013S5f0000023&2j255h0000023(2q1|5C0000023(2r1|5D0000013S6Y0000013S6Y0000013S5NVP01(eX6
  00VP01(eX700PF00012)5X0000013y5x0000013S5l0000013S6gPF00012)6g0000013z2_8+00011m5b8+00011m5c0000
  013S5$0000013S6Z0000013S5O0000013S5OVP01(eXA000000013S5%0000013S5PVP01(eXC00PF00012)5YEO02i)%.XZ
  011L4oXD01i*011L4oEO01XY011L4o0000011L4n0000033)1e3*P21e1h3+1h0000013,2*000001325qQ.01(eXy00Q.01
  (eXz000000013.5t000001325o000001325SQ.01(eX&00Q.0F383H3J3K3N3P3R3S(ej5(k3V(lX((o3V3Y)13V)43V00XQ
  01(lX*000002k2(+ZN01325QT*0001325HT+0001325H000001325H0001$5jC013;5H000001325Q000001325o0000011L
  4p0000033)1S3*P21S1X3+1X0000011F0wOB01!rXa010U3S0000033)1R3*P21R1W3+1WOD01XZ010U3SOE01XZ010U3SOF
  01XZ010U3SOG01XZ010U3SXc00020U3S0V4<Xc00020U3S0V4>0001%jXb011F0v0000013,2+0000010B33Pd01%c000132
  5ROh00012d2<000001325yT*05$AjL$LjMk2&&YA(+YB01325j0002jKjL01325jXq04$AjN$LjO&&YC(+YD01325jXq04$A
  jP$LjQ&&YE(+YF01325j0002$AjR$LjS01325j000001325j000003211N3<P21N5o1T5o000001326W000001326d0001X>
  013>6b000001325p000001325U0000012O5ZRx00013A6aXW00021b5H2V5r0001%SYT013?5WXW00013;5k0000013.5u00
  00013@5ENz05XSXT(cYX(eYY(rYX000000012O5a0000013@5E0000013^5vQ.01(eYe00Q.01(eYf000000013b2@Qa0004
  3_1N3|P21N5R022w1T5R0000031N1N1QP21N5S255S5O00033_1N3|P21N5o1T5o5K00043_1N3|P21N5t022w1T5tVu01%c
  hE013s5R0001hD013S5S0001%chF013S5Q000001401v000001401w0000011F0x0000010B34000001325z000001415h00
  0001325i000001415h000001325i000001415h000001325i0000061N1R2yP21R1W1SP31R1W5y1QP21R5y0c1W1T5yTW02
  nfne031?1N395j022wTX00023%1N395j0000061N1e2yP21e1h1SP31e1h6W1QP21e6W0c1h1T6W0000021N1N395p000003
  212,3<P22,5U1T5U0000020+2j3W5E000001325s000001326X000001326XQ.01(eY!00000001325V000002271v424rQ.
  01(eY&00000001435C000001435D000002271w424r000001326fRx00013A6f000001435C000001435D000001435C0000
  01435D0000013^5w000001326eXz00013>6c0000013^5w000001326VX.03(cY*(eY+(rY*000000013b2^Y300013S5F00
  00013S5F000001325!000001445e000001445f000001445e000001445f000001445e000001445f000001445e00000144
  5f0000020+2j3W5h000002452q3W5C000002452r3W5D000001326Y000001326Y000001325NQ.01(eY?00Q.01(eY@00Rx
  00013A5X0000013^5x000001325l000001326gRx00013A6g0000013b2_PF00012)5bPF00012)5c000001325$00000132
  6Z000001325O000001325OQ.01(eZ300000001325%000001445g000001445g000001445g000001445g000001325PQ.01
  (eZ500Rx00013A5Y0000030a1e2IP21e1h2J1h000001462*0000030a1S2IP21S1X2J1X0000013r0wVi00011I3S000003
  0a1R2IP21R1W2J1WOD01!rZ8010U3SOE01Z7010U3SOF01Z7010U3SOG01Z7010U3SVi00021I3S0V4<Vi00021I3S0V4>00
  01%jZ901470v000001462+000001485y0000031N1N1QP21N5o255o000001325Z000001325a000001325v000001412@00
  00033!1N3VP21N5S3W5S0000013r0x000001485z0000051N1R0mP31R1W5y1QP21R5y491W1|5y0000051N1e0mP31e1h6W
  1QP21e6W491h1|6W0000031N2,1QP22,5U255U0000021*2j3W5E000002271v4A4r000002271w4A4r000001325w000001
  325w000001412^000001485!0000021*2j3W5h0000024B2q3W5C0000024B2r3W5D000001325x000001412_000001485$
  000001485%000001322*0000030a1S0mP21S1X491X000001350w5l00011I3S5l00021I3S0V4<5l00021I3S0V4>0001%j
  Zm011F0v000001322+0000033!1N3VP21N5o3W5o0000014C2@0000033_1N3|P21N5S1T5S000001350x0000041N1R1QP2
  1R5y491W255y0000041N1e1QP21e6W491h256W0000033!2,3VP22,5U3W5U0000024D2j3M5E0000014C2^0000024D2j3M
  5h0000024E2q3M5C0000024E2r3M5D0000014C2_OB01Z7010U3SZ)00020U3S0V4<Z)00020U3S0V4>0000031N1N4FP21N
  5o3M5o0000031N1N4FP21N5S3M5S0000043!1R3VP21R5y0S1W3W5y0000043!1e3VP21e6W0S1h3W6W0000031N2,4FP22,
  5U3M5UTF00011I3STF00021I3S0V4<TF00021I3S0V4>0000043_1R3|P21R5y0S1W1T5y0000043_1e3|P21e6W0S1h1T6W
  OB00011I3SOB00021I3S0V4<OB00021I3S0V4>0000051N1R0QP31R1W5y1QP21R5y0S1W3M5y0000051N1e0QP31e1h6W1Q
  P21e6W0S1h3M6WOB01!rZl011I3Sa500021I3S0V4<a500021I3S0V4>1!01$0aS02031N022w0801!rM;008v01&FM^008v
  01&FN9000T04$6NCa(a*a,000004$DND$)a<$+a<)Ja<000004$END$*a>$+a>)Ka>000e05%kbS$+bS$.NY&!bS)LbS0000
  01!,NZ007$0001091N0005!(lV!fNa&)Na&*Nb(5Nb007(02bXNd007$0002091N022w0001$KNx00000F$ONy$PNy$QNy$R
  Ny$SNy$TNy$UNy$VNy$WNy$XNy$YNy$ZNy$aNy$bNy$cNy007$00000002NE&,N%00Pm024P4Q000003!lw2!ftm(JN)004I
  04!fXD&RXE&yXF(IXG000L014c007S0C!ktiw1%HbT%UbU%vNc!i00!j00!m00!n00!p00%r00%s0000aR01(INd001803%j
  N)!)N)%zbj000001$|N.001U02TAbt040M1N0NP21N3S022w0O3S1W02TAbt040P1N0NP21N3S022w0O3S1X02TAbt040P1N
  0NP21N3S022w0O3S1a02TAbt040T1N0NP21N3S022w0O3S1c02TAbt040P1N0NP21N3S022w0O3S1d02TAbt03081N022w0O
  3S1g02TAbt040P1N0NP21N3S022w0O3S1i02TAbt040P1N0NP21N3S022w0O3S1j02TAbt040P1N0NP21N3S022w0O3S1k02
  TAbt040P1N0NP21N3S022w0O3S1l02TAbt040P1N0NP21N3S022w0O3Sad00050V4<0W1N0NP21N3S022w0O3Sad00050V4>
  0W1N0NP21N3S022w0O3S1o02TAbt040P1N0NP21N3S022w0O3S1p02!rO8)Cbw001r02!rO9)Bbx000+01!rOA001w01O800
  1x01O7000001$AaW01040M1$0S!hOB!kOB!oOB!rOC!xOB$IOD$MOB!fOB%7OE%8OF%9OG%AOG%COB%DOH%EOH%FOH%GOI%H
  OB%IOB%JOB%KOB%LOB%MOB%NOB&sam&>am&?aman006S04!fb!&Za^&+NE(<a_000L015x001;0S!hb%!kb%!ob%!rOJ!xb%
  $Ib%$Mb%!fb%%7b%%8b%%9b%%Ab%%Cb%%Db%%Eb%%Fb%%Gb%%Hb%%Ib%%Jb%%Kb%%Lb%%Mb%%Nb%&L1p&<1p&@1p1w001<04
  OJ2j2l2n001?03%jON!)ON)9b(001?03%jOO!)OO)9b)000L01%(l%000L016E002F02!*OP(Zb,000003!qb.!*OQ)Nb;00
  0001OO000L016Y000303!rOR%(fh)5fh002j02$6OT)Db>002k02$6OU)Eb?002l02OSb<00a*016t002n01OS002o01OT00
  2q01$DOV002r01$EOV002s04!rOW!)b@&.b@)Mb@005t03&Zb^&+OX(<b_00B601&+OZ00B802&Zc0&+Oa000001$KOb0000
  01$KOc00VI01%.Od000001$_N.002;07NgbWlYbXbeNdNt002>01!mOg020a1N022w2?01Of020a1N022w2@01Of020a1N02
  2w2^01Of020e1N022w0001Of010a1Nb800020a1N022wb800000001$<Oh00340A!ql@!rOi!)l@%iOi%qc4(2c4(.c4(;c4
  (^c4(_c4003507!fOj%0Ok%wc6(tOl(uOm(vOn(wOo003807!qcI$6O!(fcJ(gcJ(hcJ(icJ(jcJ00Fb017_00Fb01(em500
  0001$@O&003E04%kcL$.O((mcL)TcL00Fb01(em600Fb0A383H3J3K3N3P3R(em78C3Y000001!fO,00bK018F000001%MO;
  003y02$AcO&&O<000001$KO>003U03!qcT$8O^)QcW000003!qcZ$8P0)Vca003e01$.P100aU01$AwC00EO01%.P4003q05
  !pft%hft(Mch(,P5(<ci000002!pcj(OP6003s04!*P7&Fck&scl)Dcm000002!fP8$^P9002w01bP000002!fPA$^PB00B?
  0000VP02!yPE(ePF003@0w!hl5!kl5l5!pkk!sn;!xl5!zs?s?s@$5kll6$MmPv>$mn>$nn>$!s?$$n?$%s?$&s|$(s|$.kc
  $@Zs!fW7s|%0ZQ%2Zs%3Zs%4Zs%5W9%7l5%8mS%9l5%Al5%Cl5%Dl5%El5%Fl5%Gl5%Hl5%IWA%JWA%KWA%LWA%MWA%NWA%w
  i_&Et3&Fcb&Jt6&Nt6t3&lt3&mt3t4&rt6&yZs(1t3k>00VP01(ePX00ba01$5mW003R03bW&&PZ(+c$010$2i4A01bc014G
  4S4D01!jPm000002%jPp!)Pp004M01%,ax020,1N022waT02l2l0020+1N022waU02l2l0020+1N022w4R02%jPq!)Pq0018
  03%jPr!)Pr%zc.004e03&Zc<&+Ps(<c>004R02%j00!)00014H2abq00014H2u0001!fPt000001!fPu001w01!rPv001x01
  !rPw001x01!rPz001w01!rP!00Bp00000001%jZR01470wB503&Zd3&+P&(<d4006S04!fd6&Zc+&+Po(<c,005z02!rP(4_
  010|3S090n!hoX!koX!ooY!svG!xoX!zvG!+vH$4vI$IoZ$Moa$NwI$mvG$nvG$op)$!vG$$vG$%vG$&k+$(k+!foX$^vK%5
  vL%7oX%8oX%9oX%AoX%CoX%DoX%EoX%FoX%GoX%HoX%IoX%JoX%KoX%LoX%MoX%NoX&EvM&FU0&JvP&NvP&fvN&lvM&mvM&o
  vO&rvP(1vM(+oU005<02%jP*!)P*005<02%jP+!)P+00bW01(OP,000L01A;000001!*P.006K01!*P;006M02!qd8P.00bq
  00014H1Q2n01$6P<002o01$6P>007101!rP^002x01&+P_002$02&ZdA&+P|007901i(01485RB601&+Q000VI01%.Q300VI
  01%.Q6007M02fm%.Q8000006%jdI!qdI!rQD!)dI%iQD)UdJ007i02!(kYi(01485jOj01$A00007l02kXi(01485j7m02kX
  i(01485j7q0S!hQK!kZn!oZn!rQL!xZn$IQM$MQN!fZn%7QO%8QP%9QQ%AQQ%CZn%DZo%EZo%FZo%GZp%HZn%IZn%JZn%KZn
  %LZn%MZn%NZn&s1r&>1r&?1r1v00aA07!fUF%0UG%wgm7k7l7m7n007s022E2I007t04$6QT2i2k2m00aA01$@UJ000e05C>
  $.QWC@(m84)T84000r02$AdY&&QX000&01$KTt011X2e7*01!*QY000001$6QZ000003!qda$6Qd)Wdb000001$KQe008401
  $.Qf000001!fQg008+00000002!fQi$^Qj000001!fQk00Fb07!fc(%0mZ%ama(cDW(edg(rDW(*mb000002!fQn$^Qo0000
  02!fQp$^Qq008Q01$8Qr00Fb01Dd00Fb01(edh008V02!qdi$8Qu002w02$6Qv(edj000001$KQw008Y01$8Qx008a02!qdl
  Qw001*0A!ilY$glc$hlc$ilc$mlg$nlg$olY$plYlgbc014I2$3h01!*Qy000001Qx000001!fQz000002hd&&Q!004e03&Z
  dm&+Q$(<dn000003!pft%hft(,Q%00ch038n(Mdo(,Q&001V07!rQ($@dp$^dp&ydp&^dp&_dp(Pdq008w02!*Q))Ddr008x
  02Q(dq008y01Q(008(01$0Q*001*02lgbc014J2$8.01$6Q+000001Q*00bq07!n00!z00$e00$f00$y00%Q00%l00014K2$
  cr01lZ014L2$cb03$g00$h00$i00014M2$cr03$j00$k00$l00014N2$cu01lc014O2$cv01ld014P2$ct02$m00$n00014Q
  2$2Q02lgbc014R2$cu04$t00$u00$v00$w00014S2$cs01la014T2$B?01&&Q,00bq00014H2bbq00014H2xb|01%cdu0148
  5R9J04!fQ;%0Q;(rQ<(*dw005t03&Zdz&+Q@(<d!00B601&+Q^00B802&Zd$&+Q_000002%jQ|!)Q|000002%jR0!)R0009l
  01&+R1009n02&Zd&&+R2009r04%jQ7%oQ7!)Q7%.d)004e03&Zd*&+R3(<d+009t02%jR4!)R4009;02%jR5!)R500c_01i*
  00A601$6R600FZ0000F+0000B601&+RB00B802&Zd<&+RC00VI01%.RD00B503&Zd@&+RE(<d^000L01E^006K01!*RF00CH
  02%Bd|RF002x01&+RK00bq00014H2cVI01%.RL00C502fm%.RN00bq00014H2d2,01%.RO00bq00014H2v0006%je2!qe2!r
  RQ!)e2%iRQ)Ue300CS02!rRQ%iRQ00dH01Gf000002!fRS$^RT000002!fRU$^RV000002!fRW$^RX000002!fRY$^RZ00Cp
  01TA011I3SCq06%qgV(2gV(.gV(;gV(^gV(_gV010QP26o6rCt01TA011I3SCu01TA011K3SCv01TA011I3SCw01TA011I3S
  Cx01TA011I3S0r02&&Ra(+e4002h01$6UN010mP26u6w0&01$KUP011X2e0002!fRc$^Rd004B01$KUh011X2gDD01$6Re00
  DF02!qe6$6Rf00Fb01H7000001$KRh000001$KRi00Fb01(eeA00IV01!n00014U6f0001cT014V6c8Q01$8Rk008B01$6Rl
  00cQ03(cHH(eeB(rHH008Y01$8Ro009l01&+Rp009n02&ZeC&+Rq00ch01(,Rr00D*03!qeD!rRs)SeE000003!qeF!rRt)S
  eG008y01!*Ru008.01$6Rw000001Rv00Fb01(eeI000001dt01485FPk0000Fb01(eeJ004R02%jRz!)Rz002x01&+R!002$
  02&ZeK&+R$00B601&+R%004e03&ZeL&+R&(<eM009l01&+R(009r04%jRM%oRM!)RM%.eN00U600013a2O9l01&+R)009n02
  &ZeP&+R*009t02%jR+!)R+00IT0000Ib0000B601&+R>00VI01%.R?00VI01%.R@00B601&+R^00B802&ZeT&+R_000L01IA
  00GO01R_00CH02%BeXR|002,01%.S200CS02!rS5%iS500CU05%jeZ!qeZ!rS5!)eZ%iS5003y00010s5i4B01$KU+011X2g
  DD01$6S700Fb01Ja00Fb01Jb000001$KSA00dg00014U5Xdg00014U6g9l01&+SB00HT01!rSC00HW02!qed!rSD00HT01!r
  SE00HW02!qee!rSF00bq00014H2!dg00014U5bdg00014U5c2x01&+SG009l01&+SH009n02&Zef&+SI00Uq00013a2PUr00
  013a2W9l01&+SJ00KH0000KL0000VI01%.SM00B601&+SN000L01K0000L01K1000L01K300GO01SN00CH02%BemSO00CS02
  !rSS%iSS00Fb01K^008B01$0SV009t02%jSW!)SW00HT01!rSX00HT01!rSY009l01&+SZ00V100013a2XLO0000LQ00000L
  01LE000L01LF000L01LG00GO01Sb00CH02%BesSc00Fb01(eeu00L<0000L?00000L01L,00GO01Sg00CH02%Bex&fSi00dg
  00014U5YMP0000MV0000GO01&fSl00CH02%Be!&fSm00Mi0000GO01&fSo000y00013C1MC^0Pg0!sg2g2$moP$noPg4$@Td
  !fn^PQ%2Td%3Td%4Td%5n_%Io0%Jo0%Ko0%Lo0%Mo0%No0&Fe>&yTdf$3V(o3V&x00003y00011<4VTt05PePf(cT,Ph(rT;
  00N$01e$014W4S5P00014X2a5P00014X2u0001%jWG012Q0w0a0n!hs)!ks)!os,!ssY!xs)!zsY!+sZ$4p3$Is*$Ms+$Nsn
  $msY$nsY$oqn$!sY$$sY$%sY$&p4$(p4!fs)$^sa%5v<%7s)%8s)%9s)%As)%Cs)%Ds)%Es)%Fs)%Gs)%Hs)%Is)%Js)%Ks)
  %Ls)%Ms)%Ns)&Ev>&FWH&Jv;&Nv;&fsb&lv>&mv>&osc&rv;(1v>(+s5005P00014X1Q5N02&,dX(<mt040e1N0QP21N3A02
  2w0S3AM^0A!inr$gnv$hnv$inv$mnz$nnz$onr$pnrnze$014Y2$M^02nze$014Z2$5P00014a6$5P07%l00!n00!z00$e00
  $f00$y00%Q00014b2$e^01ns014c2$e>03$g00$h00$i00014d2$e^03$j00$k00$l00014e2$f001nv014f2$f101nw014g
  2$e|02$m00$n00014h2$N902nze$014i2$f004$t00$u00$v00$w00014j2$e_01nt014k2$5P00014X2b5P00014X2xCG0U
  !ktk!lw4ku!xbkkw$HoR$Ivd$JvJ%Cbl%Hbmt1k;k<%vQ?%*Mt%+Mt&Fdy&YMt&bMt&dMt(4Mt(EMt(FMt(GMt(HSq(JMt(L
  Mt(NMt(QMt)6oz005P00010Q2y1V05$@e0$^e0&ye0&^e0&_e0011I3S5P00014X2c5P00014X2d5P00014X2v4m01(eU^00
  4m01(eU_001V05$@eY$^eY&yeY&^eY&_eY011I3S5P00014X2!1V05$@en$^en&yen&^en&_en011I3S1V05$@et$^et&yet
  &^et&_et011I3S0001%jZv011F0w0803!rSv%(an)5an00aC01$6S+000004$DS,$)fo$+fo)Jfo000004$ES,$*fp$+fp)K
  fp00CM01&,T900f902%vN(&Fbn00aX01N;040M1N0NP21N3S022w0O3SaY01N;040P1N0NP21N3S022w0O3SaZ01N;040P1N
  0NP21N3S022w0O3Saa01N;040T1N0NP21N3S022w0O3Sab01N;040P1N0NP21N3S022w0O3Sac01N;03081N022w0O3Sad01
  N;040P1N0NP21N3S022w0O3Sae01N;040P1N0NP21N3S022w0O3Saf01N;040P1N0NP21N3S022w0O3Sag01N;040P1N0NP2
  1N3S022w0O3Sah01N;040P1N0NP21N3S022w0O3SfY00050V4<0W1N0NP21N3S022w0O3SfY00050V4>0W1N0NP21N3S022w
  0O3Sak01N;040P1N0NP21N3S022w0O3S1r02!rTD)Bf.000+01!rTE001w01TC00ar0O!hTF!kTF!oTF!rTG!xTF$ITH$MTF
  !fTF%7TI%8TJ%9TK%ATK%CTF%DTL%ETL%FTL%GTM%HTF%ITF%JTF%KTF%LTF%MTF%NTF002F02!*TN(Zf;000003!qf<!*TO
  )Nf>000001TM000303!rTP%(an)5an002q01$DTQ002r01$ETQ002s04!rTR!)f?&.f?)Mf?005t03&Zf@&+TS(<f^000001
  $<TU00340A!qo)!rTV!)o)%iTV%qf|(2f|(.f|(;f|(^f|(_f|003507!fTW%0TX%wg0(tTY(uTZ(vTa(wTb003807!qg8$6
  Th(fg9(gg9(hg9(ig9(jg9000001$@Tk003E04%kgB$.Tl(mgB)TgB000001!fTp000001%MTr00Pf02$AgE&&Ts000001Ts
  003U03!qgI$8Tw)QgJ003s04!*Tz&FgM&sgN)DgO002w01f$00aT04!jf9aT%vPn%U00000001!fT?000001!fT@001w01!r
  T^001w01!rT_000001!*U1006K01!*U2006M02!qgRU1007101!rU3002x01&+U4002$02&ZgS&+U500c?02fm%.U6000006
  %jgW!qgW!rU7!)gW%iU7)UgX00T103i&U7U8007q0O!hdO!kZ?!oZ?!rUE!xZ?$IdQ$MdR!fZ?%7dS%8dT%9dU%AdU%CZ?%D
  Z@%EZ@%FZ@%GZ^%HZ?%IZ?%JZ?%KZ?%LZ?%MZ?%NZ?006u08!fo7UFC%nk7k7l7m7n007t01$6UH007v01UI007x01$.UK00
  7(01&&UL007*01!*UM000001UM000003!qgo$6UO)Wgp000001UO008401$.UQ000001!fUR00KE00000002!fUT$^UU0000
  01!fUV000002!fUY$^UZ000002!fUa$^Ub008Q01$8Uc008V02!qgs$8Uf002w02$6Ug(egt000001Ug008w02!*Ui)Dgu00
  8x02Uhgt008y01Uh009J04!fUk%0Uk(rUl(*gv005t03&Zgw&+Un(<gx006K01!*Uo002x01&+Up00d(02fm%.Uq002,01%.
  Ur000006%jgz!qgz!rUs!)gz%iUs)Ug!00CS02!rUs%iUs00gV01Gf000002!fUt$^Uu00gY01$5o_000002!fUv$^Uw00ga
  01$5o|000002!fUx$^Uy00gc01$5p0000002!fUz$^U!00ge01$5p100Cp01N;011I3SCt01N;011I3SCu01N;011K3SCv01
  N;011I3SCw01N;011I3SCx01N;011I3SC&01&&U$000002!fU%$^U&00DD01$6U(00DF02!qg$$6U)000001U*000001$KU,
  008Q01$8U;008B01$6U<008y01!*U@00T<00002x01&+U|002$02&Zg&&+V0002,01%.V100CS02!rV2%iV200CU05%jg(!q
  g(!rV2!)g(%iV200DD01$6V3000001$KV6002x01&+V700CS02!rV8%iV8000001$6V9000001$6VA000001$6VB000001$6
  VC008B01$0VE007;0i!hr$!kr$r(!phm!shn!xr$$5hor$$Mpb$mg4$ng4$.hq$@V&!fT!%0T$%2V&%3V&%4V&%5T%%7r$%8
  pe%9r$%Ar$%Cr$%Dr$%Er$%Fr$%Gr$%Hr$%IT&%JT&%KT&%LT&%MT&%NT&&Fg^&JaN&NaN&lvl&mvl&raN&yV&(1vlf$00N$
  01g.014l4Sb300014m2ab300014m2ub300014m1QM^0A!ipI$gpL$hpL$ipL$mpP$npP$opI$ppIpPg.014n2$M^02pPg.01
  4o2$b307%l00!n00!z00$e00$f00$y00%Q00014p2$g|01pI014q2$g^03$g00$h00$i00014r2$g|03$j00$k00$l00014s
  2$h201pL014t2$h301pM014u2$h102$m00$n00014v2$N902pPg.014w2$h204$t00$u00$v00$w00014x2$h001pJ014y2$
  b300014m2bb300014m2xb300014m2cb300014m2db300014m2vVP01(eY.00VP01(eY;00b300014m2!080U!haX!kaY!oaZ
  !rVK!xaa$Iab$Mac!fad%7ae%8af%9ag%Aag%Cah%Dai%Eai%Fai%Gaj%Hak%Iad%Jad%Kad%Lad%Mad%Nad%(hL&sam&>am
  &?am)5hLan00aC01$6VM000004$DVN$)hQ$+hQ)JhQ000004$EVN$*hR$+hR)KhR000+01!re,00ar0O!hVi!kVi!oVi!rVj
  !xVi$IVk$MVi!fVi%7Vl%8Vm%9Vn%AVn%CVi%DVo%EVo%FVo%GVp%HVi%IVi%JVi%KVi%LVi%MVi%NVi002F02!*Vq(Zhi00
  0001Vp000303!rVr%(hL)5hL002q01$DVs002r01$EVs002s04!rVt!)hj&.hj)Mhj000001$<Vv00340A!qp<!rVw!)p<%i
  Vw%qhk(2hk(.hk(;hk(^hk(_hk003507!fVx%0Vy%whl(tVz(uV!(vV$(wV%003807!qht$6V*(fhu(ghu(hhu(ihu(jhu00
  0001$@V.003E04%khw$.V;(mhw)Thw000001!fV@000001%MV_00B?02$Ahz&&V|000001$KW0003U03!qh&$8W3)Qh(003s
  04!*W6&Fh+&sh,)Dh.002w01(ehd000001!fWE000001!fWF000001!*WI007101!rWJ000006%jh>!qh>!rWK!)h>%iWK)U
  h?00Vx01$A0000Op0ACp!rWR7T7U%q7c(27c(.7c(;7c(^7c(_7c007r03!fplUF%wi6007t01$6WU006u02$@WVnk007x01
  $.WW007(02$Agn&&WX007*01!*WY000001$6WZ000003!qi8$6Wa)Wi9000001$KWb008401$.Wc000001!fWd00PF000000
  02!fWf$^Wg000001!fWh000002!fWk$^Wl000002!fWm$^Wn008Q01$8Wo008V02!qiC$8Wr002w02$6Ws(eiD000001$KWt
  008w02!*Wu)DiE008x02WtiD008y01Wt009J04!fWv%0Wv(rWw(*iF000006%jiG!qiG!rWx!)iG%iWx)UiH00CS02!rWx%i
  Wx00h<01Gf000002!fWy$^Wz000002!fW!$^W$000002!fW%$^W&000002!fW($^W)00Cp01Zk011I3SCt01Zk011I3SCu01
  Zk011K3SCv01Zk011I3SCw01Zk011I3SCx01Zk011I3SC&01&&W*000002!fW+$^W,00DD01$6W.00DF02!qiI$6W;000001
  $KW>000001$KW?008Q01$8W^008B01$6W_008y01!*X100WD0000CS02!rX4%iX400CU05%jiK!qiK!rX4!)iK%iX400DD01
  $6X5000001$KX800CS02!rX9%iX9008B01$0XB00g;0n!hsT!ksTsW!pkr!soO!xsT!zrIrIvssT$MrArX$mqk$nqk$!rI$$
  qu$%rI$&vu$(vu!fuYrJ%5uZ%7sT%8rB%9sT%AsT%CsT%DsT%EsT%FsT%GsT%HsT%Iua%Jua%Kua%Lua%Mua%Nua&Ev*&FiR
  &Jv!&Nv!rK&lv*&mv*rL&rv!(1v*q%00N$01iL014z4S8(01$000014!2aiO00014!2uiO00014!1QM^0A!iq>$gq^$hq^$i
  q^$mr1$nr1$oq>$pq>r1iL014$2$M^02r1iL014%2$iO07!n00!z00$e00$f00$y00%Q00%l00014&2$iT01q>014(2$iR03
  $g00$h00$i00014)2$iT03$j00$k00$l00014*2$iW01q^014+2$iX01q_014,2$iV02$m00$n00014.2$N902r1iL014;2$
  iW04$t00$u00$v00$w00014<2$iU01q?014>2$iO00014!2biO00014!2xiO00014!2ciO00014!2diO00014!2viO00014!
  2!hH0N!hfS!kfT!ofU!xfV$IfW$MfX!ffY%7fZ%8fa%9fb%Afb%Cfc%Dfd%Efd%Ffd%Gfe%Hff%IfY%JfY%KfY%LfY%MfY%N
  fY00aC01$6XH000004$DXI$)iq$+iq)Jiq000004$EXI$*ir$+ir)Kir000+01!rVh00ar0O!hXc!kXc!oXc!rXd!xXc$IXe
  $MXc!fXc%7Xf%8Xg%9Xh%AXh%CXc%DXi%EXi%FXi%GXj%HXc%IXc%JXc%KXc%LXc%MXc%NXc000303!rXk%(in)5in002q01
  $DXl002r01$EXl002s04!rXm!)i,&.i,)Mi,000001$<Xo00340A!qqt!rXp!)qt%iXp%qi.(2i.(.i.(;i.(^i.(_i.0035
  07!fXq%0Xr%wi;(tXs(uXt(vXu(wXv003807!qj0$6Xx(fj1(gj1(hj1(ij1(jj1000001$@X!003E04%kj3$.X$(mj3)Tj3
  000001!fX)000001%MX+00T*02$Aj6&&X,000001$KX.003U03!qjA$8X>)QjB003s04!*X^&FjE&sjF)DjG002w01(ei&00
  0001!fY5000001!fY6007101!rY8000006%jjJ!qjJ!rY9!)jJ%iY9)UjK00XS03k1Y9YA00hm01!rYG00g202!fWS%0WT00
  7t01$6YJ007v01WU007x01$.YL000r02$AjU&&YM007*01!*YN000001$6YO000003!qjV$6YP)WjW000001$KYQ008401$.
  YR000001!fYS00Rx00000002!fYU$^YV000001!fYW000002!fYZ$^Ya000002!fYb$^Yc008Q01$8Yd008V02!qjZ$8Yg00
  2w02$6Yh(eja000001$KYi008w02!*Yj)Djb008x02Yija008y01Yi009J04!fYk%0Yk(rYl(*jc000006%jjd!qjd!rYm!)
  jd%iYm)Uje00CS02!rYm%iYm00jI01Gf000002!fYn$^Yo00jL01$5qy000002!fYp$^Yq00jN01$5qz000002!fYr$^Ys00
  jP01$5q!000002!fYt$^Yu00"

end Automaton
end TypeScript
end ServiceCapsule
