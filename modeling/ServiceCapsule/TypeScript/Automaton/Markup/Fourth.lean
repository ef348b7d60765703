/-!
# States 2665 to 3737

States of the automaton of the grammar with markup, packed two letters a number. How they are
laid out is said beside the function that unpacks them.
-/

namespace ServiceCapsule
namespace TypeScript
namespace Automaton

def markupFourth : String := "
  0000013S5p0000013S5U0000013S5ZPh00012)6aW;00021b5H3x5r0001%SX,012Q5WW;00013p5k0000013l5u0000013S
  5EWx07!fZ6%0Z7%akN(cX>(eX?(rX>(*Z8000000013S5a0000013S5EWx01(eY000Wx01(eY1000000016l1(0000016l1(
  0000016l1)0000016l1)0000013b2^000001745v000004701R3VP21R5y0S1W3W5yRK00031?1N1Y5j022wBv00023%1N1Y
  5j000004701e3VP21e6W0S1h3W6W0000021N1N1Y5p000003702,3VP22,5U3W5U0000020+2j3W5E0000016l1z0000016l
  1!X600013H5F0000013H5F0000013S5z0000013S5h0000013S5i0000013S5h0000013S5i0000013S5h0000013S5i0000
  013S5s0000013S6X0000013S6XWx01(eYP000000013S5V00000227P21v4r3o4rWx01(eYS000000013S5C0000013S5D00
  000227P21w4r3o4r0000013S6fPh00012)6f0000013S5C0000013S5D0000013S5C0000013S5D0000013S6eXP00013w6c
  0000013S6VXZ03(cYU(eYV(rYU000000016l1*0000016l1+0000013b2_000001745w000001745w0000020+2j3W5h0000
  023(2q1|5C0000023(2r1|5DKl00013P5bKl00013P5c0000013S5!0000013S5e0000013S5f0000013S5e0000013S5f00
  00013S5e0000013S5f0000013S5e0000013S5f0000013S6Y0000013S6Y0000013S5NWx01(eYZ00Wx01(eYa00Ph00012)
  5X0000013S5l0000013S6gPh00012)6g000001745x0000013S5$0000013S6Z0000013S5O0000013S5OWx01(eYd000000
  013S5%0000013S5PWx01(eYf00Ph00012)5YD@02l2%.Ym011L4oYg01l3011L4oD@01Yl011L4o0000011L4n0000033)1e
  3*P21e1h3+1h0000013,2*0000011L4p0000033)1S3*P21S1X3+1X0000011F0wOw01!rYn010U3S0000033)1R3*P21R1W
  3+1WOy01Ym010U3SOz01Ym010U3SO!01Ym010U3SO$01Ym010U3SYp00020U3S0V4<Yp00020U3S0V4>0001%jYo011F0v00
  00013,2+0000010B33000001325q000001325QRV01(eZL00RV01(eZM000000013.5t000001325oP>01%c0001325R0000
  01325SRV01(eZQ00RV0F6.70727376787A7B(ekW(k7E(lZR(o7E7G)17E)47E00Y.01(lZT000002s@(+av01325QUf0001
  325HUg0001325H000001325H0001$5kb013;5H000001325oPP00012d2<0000013z2@000003211N3<P21N5o1T5oPw0004
  3_1N3|P21N5R022w1T5R0000033!1N3VP21N5S3W5S2B00033_1N3|P21N5o1T5o2400043_1N3|P21N5t022w1T5tW$01%c
  it013s5R0001is013S5S0001%ciu013S5Q0000012Q1v0000012Q1w0000011F0x0000010B34000001325yUf05$Akm$Lkn
  s@&&Zn(+Zo01325j0002klkm01325jZE04$Ako$Lkp&&Zp(+Zq01325jZE04$Akq$Lkr&&Zr(+Zs01325j0002$Aks$Lkt01
  325j000001325j000001326W000001326d0001ZY013>6b000001325p000001325U0000012O5ZSY00013A6aY^00021b5H
  2V5r0001%SZz013?5WY^00013;5k0000013.5u0000013@5ERV07!fP>%0P?%aeE(cZ&(eZ((rZ&(*Q1000000012O5a0000
  013@5ERV01(eZ.00RV01(eZ;000000013z2^0000013y5v0000061N1R2yP21R1W1SP31R1W5y1QP21R5y0c1W1T5yUy02Nn
  Nk031?1N395j022wUz00023%1N395j0000061N1e2yP21e1h1SP31e1h6W1QP21e6W0c1h1T6W0000021N1N395p00000321
  2,3<P22,5U1T5U0000021*2j3W5EZ700013S5F0000013S5F000001325z000001415h000001325i000001415h00000132
  5i000001415h000001325i000001325s000001326X000001326XRV01(eaE00000001325V000002271v424rRV01(eaH00
  000001435C000001435D000002271w424r000001326fSY00013A6f000001435C000001435D000001435C000001435D00
  0001326eZM00013>6c000001326VZW03(caJ(eaK(raJ000000013z2_0000013y5w0000013y5w0000021*2j3W5h000002
  452q3W5C000002452r3W5DPh00012)5bPh00012)5c000001325!000001445e000001445f000001445e000001445f0000
  01445e000001445f000001445e000001445f000001326Y000001326Y000001325NRV01(eaO00RV01(eaP00SY00013A5X
  000001325l000001326gSY00013A6g0000013y5x000001325$000001326Z000001325O000001325ORV01(eaW00000001
  325%000001445g000001445g000001445g000001445g000001325PRV01(eaY00SY00013A5Y0000030a1e2IP21e1h2J1h
  000001462*0000030a1S2IP21S1X2J1X0000013r0w5O00011I3S0000030a1R2IP21R1W2J1WOy01!rab010U3SOz01aa01
  0U3SO!01aa010U3SO$01aa010U3S5O00021I3S0V4<5O00021I3S0V4>0001%jac01470v000001462+000001412@000003
  3!1N3VP21N5o3W5o0000031N1N1QP21N5S255S000001401v000001401w0000013r0x000001485y000001325Z00000132
  5a000001412^0000012O5v0000051N1R0mP31R1W5y1QP21R5y491W1|5y0000051N1e0mP31e1h6W1QP21e6W491h1|6W00
  00033!2,3VP22,5U3W5U0000024D2j3M5E000001485z000002271v4A4r000002271w4A4r000001412_0000012O5w0000
  012O5w0000024D2j3M5h0000024B2q3W5C0000024B2r3W5D000001485!0000012O5x000001485$000001485%00000132
  2*0000030a1S0mP21S1X491X000001350wOw01aa010U3Sb000020U3S0V4<b000020U3S0V4>0001%ja|011F0v00000132
  2+0000014C2@0000031N1N1QP21N5o255o0000033_1N3|P21N5S1T5S000001350x0000014C2^000001325v0000043!1R
  3VP21R5y0S1W3W5y0000043!1e3VP21e6W0S1h3W6W0000031N2,1QP22,5U255U0000014C2_000001325w000001325w00
  00024E2q3M5C0000024E2r3M5D000001325xT@00011I3ST@00021I3S0V4<T@00021I3S0V4>0000031N1N4FP21N5o3M5o
  0000031N1N4FP21N5S3M5S0000041N1R1QP21R5y491W255y0000041N1e1QP21e6W491h256W0000031N2,4FP22,5U3M5U
  Wj00011I3SWj00021I3S0V4<Wj00021I3S0V4>0000043_1R3|P21R5y0S1W1T5y0000043_1e3|P21e6W0S1h1T6WOw0001
  1I3SOw00021I3S0V4<Ow00021I3S0V4>0000051N1R0QP31R1W5y1QP21R5y0S1W3M5y0000051N1e0QP31e1h6W1QP21e6W
  0S1h3M6WOw01!ra_011I3Sbc00021I3S0V4<bc00021I3S0V4>1!01$0b$02031N022w0801!rNt006X01Nx006X01&FN;00
  0T04$6N?&FcM&scO)DcQ000004$DN@$)cS$+cS)JcS000004$EN@$*cT$+cT)KcT000c05$9cl$CO0!fcm&Rcn&Sco000e05
  %kcq$+cq$.O2&!cq)Lcq000001!,O300B(0001091N0005!(mQ!fO4&)O4&*O5(5O5000r05cucv&hcxO7(+cy00B(000209
  1N022w0x08%nc+$7c+$Bc)&Oc+&Pc+&TOR&Uc+)Fc+000001$KOS00000F$OOT$POT$QOT$ROT$SOT$TOT$UOT$VOT$WOT$X
  OT$YOT$ZOT$aOT$bOT$cOT00B(00000002N^&,OV00Q3024243000003!lxH!ftr(JOY003?04!fYg&RYh&yYi(IYj000L01
  4F00Be0C!ktkxG%Hcr%Ucs%vO6!i00!j00!m00!n00!p00%r00%s0000b!01(IO7001803%jOY!)OY%zc;000001$|Oc001U
  02T.d2040M1N0NP21N3S022w0O3S1W02T.d2040P1N0NP21N3S022w0O3S1X02T.d2040P1N0NP21N3S022w0O3S1a02T.d2
  040T1N0NP21N3S022w0O3S1c02T.d2040P1N0NP21N3S022w0O3S1d02T.d203081N022w0O3S1g02T.d2040P1N0NP21N3S
  022w0O3S1i02T.d2040P1N0NP21N3S022w0O3S1j02T.d2040P1N0NP21N3S022w0O3S1k02T.d2040P1N0NP21N3S022w0O
  3S1l02T.d2040P1N0NP21N3S022w0O3Sb>00050V4<0W1N0NP21N3S022w0O3Sb>00050V4>0W1N0NP21N3S022w0O3S1o02
  T.d2040P1N0NP21N3S022w0O3S1p02!rOt)Cd5001r02!rOu)Bd6000+01!rOv001w01Ot001x01Os000001$Ab)01040M1$
  0S!hOw!kOw!oOw!rOx!xOw$IOy$MOw!fOw%7Oz%8O!%9O$%AO$%COw%DO%%EO%%FO%%GO&%HOw%IOw%JOw%KOw%LOw%MOw%N
  Ow&sc3&>c3&?c3)Bc5006504!fd9&ZcW&+N^(<cX000L015a001;0S!hdB!kdB!odB!rO(!xdB$IdB$MdB!fdB%7dB%8dB%9
  dB%AdB%CdB%DdB%EdB%FdB%GdB%HdB%IdB%JdB%KdB%LdB%MdB%NdB&L1p&<1p&@1p1w001<04O(2j2l2n001?03%jO+!)O+
  )9dE001?03%jO,!)O,)9dF000L0T!hw3!kw4!oxh!uw5!xw6!$xj!&w7!;w8$Iw9$MwA!fwC%7wC%8wC%9wC%AwC%CwD%DwC
  %EwC%FwC%GwC%Hpn%IwC%JwC%KwC%LwC%MwC%NwC%(mx)6wE000L015.002F02!*O.(ZdI000003!qdJ!*O;)NdK000001O,
  000L016B000303!rO<%(hA)5hA002j02$6O?)DdM002k02$6O@)EdN002l02O>dL00cN016W002n01O>002o01O?002q01$D
  O^002r01$EO^002s04!rO_!)dO&.dO)MdO005W03&ZdP&+O|(<dQ00Am01&+PH00Ao02&Zdf&+PI000001$KPJ000001$KPK
  00WX01%.PL000001$_Oc002;07OAcumUcvc$O7ON002>01!mPO020a1N022w2?01PN020a1N022w2@01PN020a1N022w2^01
  PN020e1N022w0001PN010a1Nch00020a1N022wch00000001$<PP003402$CPQ)Odj003603PP(+dkdi010u693703$CPR(+
  dl)Odm003802PPdi000003!qdn$8PS)Vdo003D01$.PT00b&01$AxR00D@01%.PW003P05!phe%hhe(Mdv(,PX(<dw000002
  !pdx(OPY003R04!*PZ&Fdy&sdz)Dd!000002!fPa$^Pb000002!fPc$^Pd00Bb0000Wx02!yPg(ePh003n0v!hm9!km9m9!p
  lf!sn6!xm9!ztAtAtB$5lgmA$Mn7xD$mn8$nn8$!tA$$n9$%tA$&tE$(tE$.lC$@ao!fW|tE%0Z3%2ao%3ao%4ao%5X1%7m9
  %8nC%9m9%Am9%Cm9%Dm9%Em9%Fm9%Gm9%Hm9%IX2%JX2%KX2%LX2%MX2%NX2%wkM&EtI&Fdp&JtL&NtLtI&ltI&mtItJ&rtL
  &yao(1tI00Wx01(eP&00cx01$5nH003v03cu&&P)(+e4010$2i3x04!rP*&Fe5&se6&xe6000005$8P+$9e7!fe8&Re9&SeA
  003z05$9i.$CWd!feB&Ri;&Si<003$02c(&TP,00ZW05(aUf(bUg(cP_(eUi(rQ0003,04!jQ3!otN%CtP%HtQ000002%jQ6
  !)Q6003|01%,cE020,1N022wb%02m6m4020+1N022wb&02m6m4020+1N022w4402%jQ7!)Q7001803%jQ8!)Q8%zeI004H03
  &ZeK&+Q9(<eL004402%j00!)00014H2ac|00014H2u0001!fQA000001!fQB001w01!rQC001x01!rQD001x01!rQG001w01
  !rQH00BD00000001%jas01470wAl03&ZeU&+QK(<eV006504!feX&ZeG&+Q5(<eH005c02!rQL4t010|3S090m!hpq!kpq!o
  pr!swd!xpq!zwd!+we$4wf$Ips$Mpt$Nxk$mwd$nwd$orN$!wd$$wd$%wd$&l>$(l>!fpq$^wh%5wi%7pq%8pq%9pq%Apq%C
  pq%Dpq%Epq%Fpq%Gpq%Hpq%Ipq%Jpq%Kpq%Lpq%Mpq%Npq&Ewj&FUr&Jwm&Nwm&fwk&lwj&mwj&owl&rwm(1wj002w038z8!
  8%005o02%jQN!)QN005o02%jQO!)QO00cu01(OQP000L01AY000001!*QQ005^01!*QR005|02!qeZQQ00c|00014H1Q2n01
  $6QS002o01$6QT006w01!rQW002x01&+QX002$02&Zeb&+QY006)0A!qnb!rQZ!)nb%iQZ%qec(2ec(.ec(;ec(^ec(_ec00
  6*07!fQa%0Qb%wed(tQc(uQd(vQe(wQf006.07!qef$6Qm(feg(geg(heg(ieg(jeg00F901B_00F901(eni000001$@Qp00
  6^04%kei$.Qq(mei)Tei00F901(enj00F90A6.70727376787A(enkC87G000001!fQu00dZ01CB000001%MQw003X02$Ael
  &&Qx000001$KQy00Am01&+Q&00WX01%.Q*00WX01%.Q.007T02hF%.Q<007g01$CQ^007k02$CQ_)Oe!007p02$CQ|)Oe$00
  7q01$CR0007r01$8R1007t02!qe%R0001*0A!imU$gmY$hmY$imY$mmc$nmc$omU$pmUmccz014I2$3G01!*R2000001R100
  0001!fR3000002k1&&R4004H03&Ze&&+R5(<e(000003!phe%hhe(,R600dv037*(Me)(,R7001V07!rR8$@e*$^e*&ye*&^
  e*&_e*(Pe+007^02!*R9)De,006Y02R8e+006Y01R8007D03!qe.$8RA)Qe;008601$0RB001*02mccz014J2$8B01$6RC00
  0001RB00c|07!n00!z00$e00$f00$y00%Q00%l00014K2$d*01mV014L2$dp03$g00$h00$i00014M2$d*03$j00$k00$l00
  014N2$d.01mY014O2$d;01mZ014P2$d,02$m00$n00014Q2$2Q02mccz014R2$8L0S!hRD!kbK!obK!rRE!xbK$IRF$MRG!f
  bK%7RH%8RI%9RJ%ARJ%CbK%DbL%EbL%FbL%GbM%HbK%IbK%JbK%KbK%LbK%MbK%NbK&sc3&>c3&?c3c4008N02&FhD&xhF00
  8O04$6RMcLcNcP008S04$+cq$.RP&!cq)Lcq00br02$Ae@&&RQ000(01$KV1011X2ed.04$t00$u00$v00$w00014S2$d+01
  mW014T2$Bb01&&RR007u01!rRS000001RR008n01$8RT008o01RS008p01$8RU000001RS008r03$CW?(+jB)OjA00c|0001
  4H2bc|00014H2x8z04!fRW%0RW(rRX(*f2005W03&Zf5&+Ra(<f600Am01&+Rb00Ao02&Zf7&+Rc000002%jRd!)Rd000002
  %jRe!)Re009901&+Rf009B02&Zf9&+Rg009F04%jQ;%oQ;!)Q;%.fB004H03&ZfC&+Rh(<fD009H02%jRi!)Ri009Y02%jRj
  !)Rj00eP01l3009m01$6Rk00F70000Ff0000Am01&+Rp00Ao02&ZfH&+Rq00WX01%.Rr00Al03&ZfK&+Rs(<fL000L01En00
  5^01!*Rt00FY02%BfNRt002x01&+Ry000006%jfQ!qfQ!rR!!)fQ%iR!)UfR00Qa01$A00008&01!*R+000001$6R,000003
  !qfW$6R>)WfX000001$KR?00C401$.R@000001!fR^008900000002!fR|$^S0000001!fS100F907!fnK%0nL%anM(cGo(e
  fc(rGo(*nN000002!fS4$^S5000002!fS6$^S700F901Gu00F901(efd002w02$6SA(efe000001$KSB00c|00014H2cWX01
  %.SC00CY02hF%.SE00c|00014H2d2,01%.SF00c|00014H2vCw01$CSH00C!01$CSI007r01$8SJ009901&+SK009B02&Zfh
  &+SL00dv01(,SM00D403!qfi!rSN)Sfj000003!qfk!rSO)Sfl006Y01!*SP00CM01$8SQ00CQ02!qfm$8SR00br03rN&&ST
  (+fo002h01$6Vi010mP26u6w0(01$KVk011X2e0002!fSV$^SW003*01$KV!011X2g8B01$6SX000001SW00F901(efq0000
  01%cf001485FQ10000F901(efr004402%jSa!)Sa002x01&+Sb002$02&Zfs&+Sc00Am01&+Sd004H03&Zft&+Se(<fu0099
  01&+Sf009F04%jSD%oSD!)SD%.fv00V600013a2O9901&+Sg009B02&Zfx&+Sh009H02%jSi!)Si00IZ0000Ih0000Am01&+
  Sn00WX01%.So00WX01%.Sp00Am01&+Sq00Ao02&Zf$&+Sr000L01IG00I&01Sr00FY02%Bf)Ss000006%jf+!qf+!rSv!)f+
  %iSv)Uf,00G102!rSv%iSv00fP01JT000002!fSx$^Sy000002!fSz$^S!000002!fS$$^S%000002!fS&$^S(00GY01$6S)
  00Ga02!qf.$6S*00F901Jp000001$KS,000001$KS.00F901(ef?00Ib01!n00014U6f0001ep014V6c8&01$6S<00en03(c
  Jy(ef@(rJy002,01%.S@009901&+S|00H901!rT000HC02!qf_!rT100H901!rT200HC02!qf|!rT300CM01$8T400c|0001
  4H2!Bb00012L5i3*01$KW9011X2gfc00014U5bfc00014U5c2x01&+T5009901&+T6009B02&Zg0&+T700V$00013a2PV%00
  013a2W9901&+T800Ko0000Ks0000WX01%.TB00Am01&+TC000L01KX000L01KY000L01Ka00I&01TC00FY02%Bg7TD00G102
  !rTG%iTG00G305%jg9!qg9!rTG!)g9%iTG00GY01$6TI00F901LX00F901LY000001$KTL00fc00014U5Xfc00014U6g9H02
  %jTN!)TN00H901!rTO00H901!rTP009901&+TQ00WF00013a2XL+0000L.00000L01Lx000L01Ly000L01Lz00I&01TS00FY
  02%BgFTT00G102!rTV%iTV00F901MZ008&01$0TY00Ml0000Mn00000L01Mi00I&01Ta00FY02%BgK&fTc00F901(egM00N4
  0000NA0000I&01&fTg00FY02%BgO&fTh00fc00014U5YNP0000I&01&fTj000z00013C1MB;0i!hqz!kqzq$!pjI!so>!xqz
  $5jJqz$Mo?$mo@$no@$.jK$@W_!fUX%0UY%2W_%3W_%4W_%5UZ%7qz%8o_%9qz%Aqz%Cqz%Dqz%Eqz%Fqz%Gqz%Hqz%IUa%J
  Ua%KUa%LUa%MUa%NUa&FgX&Jbw&Nbw&lul&mul&rbw&yW_(1ulhu003X00011<4Vcc00014m2acc00014m2u0001%jXA012Q
  0w0a0m!ht2!kt2!ot5!ssr!xt2!zsr!+ss$4qO$It3$Mt4$Ns*$msr$nsr$os6$!sr$$sr$%sr$&qP$(qP!ft2$^st%5xC%7
  t2%8t2%9t2%At2%Ct2%Dt2%Et2%Ft2%Gt2%Ht2%It2%Jt2%Kt2%Lt2%Mt2%Nt2&ExD&FXB&Jx9&Nx9&fsu&lxD&mxD&osv&r
  x9(1xD00cc00014m1QNy0A!iow$goz$hoz$ioz$mo&$no&$oow$powo&gP014n2$Ny02o&gP014o2$cc07%l00!n00!z00$e
  00$f00$y00%Q00014p2$gZ01ow014q2$gX03$g00$h00$i00014r2$gZ03$j00$k00$l00014s2$gc01oz014t2$gd01o!01
  4u2$gb02$m00$n00014v2$N;02o&gP014w2$2^0C!fVK%0VL%wiD&FoqNeBwBxByBz$A00!m00$K00002^06$@VOopNe$A00
  !m00$K0000gc04$t00$u00$v00$w00014x2$ga01ox014y2$cc00014m2bcc00014m2xF+0U!ktn!lxJlz!xc<l$$Hpk$Iwz
  $Jwg%Cc>%Hc?tGl^l_%vRZ%*Nd%+Nd&Ff4&YNd&bNd&dNd(4Nd(ENd(FNd(GNd(HTl(JNd(LNd(NNd(QNd)6p?001V05$@fO
  $^fO&yfO&^fO&_fO011I3S2802&,e?(<ny040e1N0QP21N3A022w0S3Acc00014m2ccc00014m2dcc00014m2vRD01Wf011I
  3SRF01Wf011I3SRG01Wf011K3SRH01Wf011I3SRI01Wf011I3SRJ01Wf011I3S4P01(eYC004P01(eYD001V05$@f*$^f*&y
  f*&^f*&_f*011I3Scc00014m2!1V05$@g8$^g8&yg8&^g8&_g8011I3S1V05$@gG$^gG&ygG&^gG&_gG011I3S0001%jb801
  1F0w0803!rTq%(c4)5c400bj01$6T%000004$DT&$)hH$+hH)JhH000004$ET&$*hI$+hI)KhI000x08%nhR$7hR$BhQ&OhR
  &PhR&TT*&UhR)FhR00F?01&,T,00gn02%vOX&Fc@00b*01Od040M1N0NP21N3S022w0O3Sb+01Od040P1N0NP21N3S022w0O
  3Sb,01Od040P1N0NP21N3S022w0O3Sb.01Od040T1N0NP21N3S022w0O3Sb;01Od040P1N0NP21N3S022w0O3Sb<01Od0308
  1N022w0O3Sb>01Od040P1N0NP21N3S022w0O3Sb?01Od040P1N0NP21N3S022w0O3Sb@01Od040P1N0NP21N3S022w0O3Sb^
  01Od040P1N0NP21N3S022w0O3Sb_01Od040P1N0NP21N3S022w0O3Sh100050V4<0W1N0NP21N3S022w0O3Sh100050V4>0W
  1N0NP21N3S022w0O3Sc101Od040P1N0NP21N3S022w0O3S1r02!rT>)BhX000+01!rT?001w01T<00c80O!hT@!kT@!oT@!r
  T^!xT@$IT_$MT@!fT@%7T|%8U0%9U1%AU1%CT@%DU2%EU2%FU2%GU3%HT@%IT@%JT@%KT@%LT@%MT@%NT@002F02!*U4(ZhY
  000003!qhZ!*U5)Nha000001U3000303!rU6%(c4)5c4002q01$DU7002r01$EU7002s04!rU8!)hb&.hb)Mhb005W03&Zhc
  &+U9(<hd000001$<UR003402URhn003703$CUT(+hq)Ohr003802URhn003R04!*UU&Fhs&sht)Dhu000005$8Ub$9h$!fh%
  &Rh&&Sh(003$02hP&TUc00V105P?P@(cUhP_(rUj00b%04!jgnb%%vQ4%U00000001!fUm000001!fUn001w01!rUo001w01
  !rUp000001!*Us005^01!*Ut005|02!qh+Us006w01!rUu002x01&+Uv002$02&Zh,&+Uw006)0A!qqC!rUx!)qC%iUx%qh.
  (2h.(.h.(;h.(^h.(_h.006*07!fUy%0Uz%wh;(tU!(uU$(vU%(wU&006.07!qh>$6U+(fh?(gh?(hh?(ih?(jh?000001$@
  U;006^04%kh^$.U<(mh^)Th^000001!fU^000001%MU|00P@02$Ai0&&V0000001V000eM02hF%.V6007g01$CV7007k02$C
  V8)Oi8007p02$CV9)Oi9007q01$CVA007^02!*VB)DiA006Y02VAi9006Y01VA007D03!qiB$8VC)QiC00d@0O!hgt!kbS!o
  bS!rVE!xbS$Igu$Mgv!fbS%7gw%8gx%9gy%Agy%CbS%DbT%EbT%FbT%GbU%HbS%IbS%JbS%KbS%LbS%MbS%NbS00d^01(eh<
  00d_01$6VM00d|01$.VP00e001&&VQ008n01$8VR008o01VQ008p01$8VS000001VQ008z04!fVU%0VU(rVV(*iF005W03&Z
  iG&+VX(<iH005^01!*VY002x01&+VZ000006%jiJ!qiJ!rVa!)iJ%iVa)UiK00UL03i<VaVb008&01!*Vh000001Vh000003
  !qiT$6Vj)WiU000001Vj00C401$.Vl000001!fVm00Kl00000002!fVo$^Vp000001!fVq000002!fVt$^Vu000002!fVv$^
  Vw002w02$6Vz(eiX000001Vz00fA02hF%.V$002,01%.V%00Cw01$CV&00C!01$CV(006Y01!*V)00CM01$8V*00CQ02!qiZ
  $8V+00e<01&&V,000002!fV.$^V;00Uk00002x01&+V?002$02&Zia&+V@000006%jib!qib!rV^!)ib%iV^)Uic00G102!r
  V^%iV^00iI01JT000002!fV_$^V|00iL01$5qJ000002!fW0$^W100iN01$5qK000002!fW2$^W300iP01$5qL000002!fW4
  $^W500iR01$5qM00GY01$6W600Ga02!qid$6W7000001W8000001$KWA008&01$6WC002,01%.WF00CM01$8WG002x01&+WH
  00G102!rWI%iWI00G305%jif!qif!rWI!)if%iWI00GY01$6WJ000001$KWM00G102!rWN%iWN000001$6WO000001$6WP00
  0001$6WQ000001$6WR008&01$0WT00Pr02!fp4VK00Pt01VN00RD01a^011I3SRF01a^011I3SRG01a^011K3SRH01a^011I
  3SRI01a^011I3SRJ01a^011I3SWx01(ea100Wx01(ea200080U!hb*!kb+!ob,!rWZ!xb.$Ib;$Mb<!fb>%7b?%8b@%9b^%A
  b^%Cb_%Db|%Eb|%Fb|%Gc0%Hc1%Ib>%Jb>%Kb>%Lb>%Mb>%Nb>%(i!&sc3&>c3&?c3)5i!c400bj01$6Wb000004$DWc$)i)
  $+i))Ji)000004$EWc$*i*$+i*)Ki*000x08%ni@$7i@$Bi?&Oi@&Pi@&TWe&Ui@)Fi@000+01!rgU00c80O!hWj!kWj!oWj
  !rWk!xWj$IWl$MWj!fWj%7Wm%8Wn%9Wo%AWo%CWj%DWp%EWp%FWp%GWq%HWj%IWj%JWj%KWj%LWj%MWj%NWj002F02!*Wr(Z
  i|000001Wq000303!rWs%(i!)5i!002q01$DWt002r01$EWt002s04!rWu!)j0&.j0)Mj0000001$<W>003402W>j9003703
  $CW@(+jC)OjD003802W>j9003R04!*W^&FjE&sjF)DjG000005$8X3$9jM!fjN&RjO&SjP003$02i>&TX4000001!fX80000
  01!fX9000001!*XC006w01!rXD006)0A!qrU!rXE!)rU%iXE%qjR(2jR(.jR(;jR(^jR(_jR006*07!fXF%0XG%wjS(tXH(u
  XI(vXJ(wXK006.07!qjU$6XN(fjV(gjV(hjV(ijV(jjV000001$@XQ006^04%kjX$.XR(mjX)TjX000001!fXV000001%MXX
  00Bb02$Aja&&XY000001$KXZ007g01$CXe007k02$CXf)Ojg007p02$CXg)Ojh007q01$CXh007^02!*Xi)Dji006Y02Xhjh
  006Y01Xh007D03!qjj$8Xj)Qjk00d@0O!hVD!kbX!obX!rXk!xbX$IVF$MVG!fbX%7VH%8VI%9VJ%AVJ%CbX%DbY%EbY%FbY
  %GbZ%HbX%IbX%JbX%KbX%LbX%MbX%NbX00d_01$6Xn00d|01$.Xp00h!01$AiE008n01$8Xr008o01Xq008p01$8Xs000001
  Xq008z04!fXt%0Xt(rXu(*jn000006%jjp!qjp!rXv!)jp%iXv)Ujq00XF01$A00008&01!*X%000001$6X&000003!qjv$6
  X()Wjw000001$KX)00C401$.X*000001!fX+00Ph00000002!fX.$^X;000001!fX<000002!fX@$^X^000002!fX_$^X|00
  2w02$6Y2(ejz000001$KY300Cw01$CY400C!01$CY5006Y01!*Y600CM01$8Y700CQ02!qj!$8Y800DR01&&Y9000002!fYA
  $^YB00X700000006%jj$!qj$!rYE!)j$%iYE)Uj%00G102!rYE%iYE00jo01JT000002!fYF$^YG000002!fYH$^YI000002
  !fYJ$^YK000002!fYL$^YM00GY01$6YN00Ga02!qj&$6YO000001$KYQ000001$KYR008&01$6YT00CM01$8YW00G102!rYX
  %iYX00G305%jj)!qj)!rYX!)j)%iYX00GY01$6YY000001$KYb00G102!rYc%iYc008&01$0Ye00Pr02!fXl%0Xm00Pt01$@
  Xo00iv0N!hg?!kg@!og^!xg_$Ig|$Mh0!fh1%7h2%8h3%9h4%Ah4%Ch5%Dh6%Eh6%Fh6%Gh7%Hh8%Ih1%Jh1%Kh1%Lh1%Mh1
  %Nh100bj01$6Yk000004$DYl$)j_$+j_)Jj_000004$EYl$*j|$+j|)Kj|000+01!rWi00c80O!hYp!kYp!oYp!rYq!xYp$I
  Yr$MYp!fYp%7Ys%8Yt%9Yu%AYu%CYp%DYv%EYv%FYv%GYw%HYp%IYp%JYp%KYp%LYp%MYp%NYp000303!rYx%(j?)5j?002q
  01$DYy002r01$EYy002s04!rYz!)k5&.k5)Mk5000001$<Y|003R04!*Z0&FkF&skG)DkH000001!fZ9000001!fZA006w01
  !rZC006)0A!qsD!rZD!)sD%iZD%qkO(2kO(.kO(;kO(^kO(_kO006*07!fZE%0ZF%wkP(tZG(uZH(vZI(wZJ006.07!qkR$6
  ZK(fkS(gkS(hkS(ikS(jkS000001$@ZN006^04%kkU$.ZO(mkU)TkU000001!fZS000001%MZU00Uf02$AkX&&ZV000001$K
  ZW007^02!*Zb)Dkd006Y02Zakc006Y01Za007D03!qke$8Zc)Qkf00jI01!rZd00d_01$6Zg00d|01$.Zi000r02$Akh&&Xq
  008z04!fZk%0Zk(rZl(*ki000006%jkk!qkk!rZm!)kk%iZm)Ukl00Y<03l1ZmZn008&01!*Zt000001$6Zu000003!qku$6
  Zv)Wkv000001$KZw00C401$.Zx000001!fZy00SY00000002!fZ!$^Z$000001!fZ%000002!fZ)$^Z*000002!fZ+$^Z,00
  2w02$6Z<(eky000001$KZ>006Y01!*Z?00CM01$8Z@00CQ02!qkz$8Z^00e<01&&Z_000002!fZ|$^a000Z800000006%jk!
  !qk!!ra3!)k!%ia3)Uk$00G102!ra3%ia300kj01JT000002!fa4$^a500km01$5sH000002!fa6$^a700ko01$5sI000002
  !fa8$^a900kq01$5sJ000002!faA$^aB00ks01$5sK00GY01$6aC00Ga02!qk%$6aD000001$KaF00"

end Automaton
end TypeScript
end ServiceCapsule
