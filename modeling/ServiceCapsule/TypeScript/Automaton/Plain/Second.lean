/-!
# States 496 to 1395

States of the automaton of the grammar without markup, packed two letters a number. How they are
laid out is said beside the function that unpacks them.
-/

namespace ServiceCapsule
namespace TypeScript
namespace Automaton

def plainSecond : String := "
  0000010h540000010%1K0001!*A>002&04!*A?&gA@(TA@(UA@000000010d360003!qA^A>)NA_002C04!mp7p5%0A|&;B0
  030a1N022w0h3A2N03A_%8B1A|000004OKOL&qB2(ZB3010j4|0000010j4@0002OK&qB4010j4^0W05!pa?!fB5&ZB6&+B7
  (<B8000000020a1N0h546N02%0B9&;BA030a1N022w0h3A0000010h542M04B8%8BBB9(SBC002N03B8BAB9001+01$Hb$02
  166j17J50000010B0<0002!(lC&EBD001Z00010@0v0M02!(BE%.BF000M01%.BG0000026c&DBH010B0^0000010B0^0000
  010B110000010B130000010B160000010B172g00010l1Q5P00010m6v0000010m6x000001186v00016t010m6x3d04mE6k
  6m&x00010m6u000001091f2n01$6BI00000001111i2o01$6BJ003d02&FBK&x000000026o6u010mJH00025$6v010mJJ00
  00010n2+2q01$D000119JO2r01$E00011AJP1V05$@BL$^BL&yBL&^BL&_BL000000011B33510P!hBM!kBM!oBN!xBM$IBO
  $MBP!fBQ%7BM%8BM%9BM%ABM%CBM%DBM%EBM%FBM%GBM%HBM%IBM%JBM%KBM%LBM%MBM%NBM&Fd0(!BR006!03!iBS%9BT%A
  BT011C3S0001%8BU004I0X!hN>BR!kN>!oN>!pip!xN>$5lw$IBV$MN>$@BY!fN>$^BY%7N>%8BW%9P?%AP?%CN>%DN>%EN>
  %FN>O6%HN>%IN>%JN>%KN>%LN>%MN>%NN>%.BX&yBY&^BY&_BY(SBZ011C3S6)07$5Ba%8N>%GN>%OBb!p00%.00(S00011C
  3S6!00011C3S6*0Klv$IN>$@Bf$^Bf%7Bc%8Bd%9N>%AN>%D6.%E6.%F6.O6%OBe%PBb&yBf&^Bf&_Bf(RBg(SBe!i00011C
  3S0000021D3S1E4<6)0D!iBh$IN>$@Bk$^Bk%8Bi%9Bj%ABj&yBk&^Bk&_Bk(SBl!p00%.00006*0BlvN<$@Bf$^Bf%9N>%A
  N>&yBf&^Bf&_Bf!i00%O00000002!)Bm%jBm011FJS2+075&!zBn5)%BBo&fBp&qBq(ZBr010Z3V6>01!qBm006@01%oBm00
  6*08lv%7Bs%8Bt%CBuO6%OBvBaBY006*03lvBV%O00006,0K!itB$IBw$@B($^B(aH%7Bx%8By%9Bz%ABz%CB!%OB$%PB%&y
  B(Mx&>B&&^B(&_B((RB)(SB*)6N&002s04!rB+!)B,&.B,)MB,0036000000058485%S868889010u690002fp&+B.000001
  %jB;020R1^0B262$03fp&ZB<&+B>005P0R%lqs!iq8!,q7$8q7$eq9$fqA$gqB$hqB$iqB$jqC$kqD$lqE$mqF$nqF$oq8$p
  q8$qqG$rud$sq7$tqH$uqH$vqH$wqH$xq7$yqI$zq7(+B?011G4Z0002!qB@)PB^011H4X3R028687010w5R3U03!qB_)QB|
  $800010o4b000001091_0000010o2J2x01&+C000000001091_1502%.C1&FC2002*02!fC3&fC4002+01&fC5002,01%.C6
  001502%.C7&FC8005f01&fC9002,01%.CA001S04%jCB%oCB!)CB%.CC00000001092K000001092n3y01&&CD010&2n0901
  &FCE000001$?CF010A2<1C0b!ik^!jfR!kk_!laQ!mCG!nt7!oaR0_!wkv!xk|!ykx$Hl0$Iv@$Jt8%CaT%HaU%Ot2%Vk<%W
  k>%rl2%saV%vM&%*Mt%+Mt&YMt&bMt&dMt(4Mt(EMt(FMt(GMt(HM((JMt(LMt(NMt(QMt)6t9011I3S1V05$@CH$^CH&yCH
  &^CH&_CH00340A%qCI(2CI(.CI(;CI(^CI(_CI!q00!r00!)00%i00000000011J5y7T03!iCJ%9CK%ACK011I3S3903S,&,
  CL(<CM011K3S6;0BCI$ICN$@CP$^CP%8CO%9QC%AQC&yCP&^CP&_CP(SCQ011I3S7Y04BZ%8N>%GN>(S00011I3S7T00011I
  3S0001$MCR000006%jCS!qCS!rCT!)CS%iCT)UCU000000011L5&7X065)%BCV&fCWSo(ZCXfP011L5(7Y01%7CY007Z02lv
  CN004G01!hf)003h04$ACZ$LCa&&Cb(+Cc010w5j0002CYCZ010q5j3R03f%CaCb003h04$ACd$LCe&&Cf(+Cg010w5j3h04
  $ACh$LCi&&Cj(+Ck010w5j0002$ACl$LCm010q5j0000010q5j7302(?Cn(@Co010u6A340l!hCp!il,!kZA!oZAat!qCq!r
  Cr!xZA$5Cs$ICt$MCu1d$@Cy!fZA$^Cy%7Cv%8Cw%9Cx%ACx%CZA%DZG%EZG%FZG%GZH%HZA%IZA%JZA%KZA%LZA%MZA%NZA
  &J5D&L1p&N5D&r5D&sam&yCy&<1p&>am&?am&@1p&^Cy&_Cy(RCz(SC!)Bao1w002^0C!fC$%0C%%wC&&FpCMu7k7l7m7n$A
  00!m00$K0000370x!h24!k2424!pi<!sl^!x24!zaAaAMo$5i?26$MOrk($ml|$nl|$!aA$$m0$%aA$&Mq$(Mq$.i^$@Xw!f
  OvaF%0Ow%2Xw%3Xw%4Xw%5Ox%724%8Oy%924%A24%C24%D2D%E2D%F2D2D%H24%IOz%JOz%KOz%LOz%MOz%NOz%wg6&EMu&F
  fk&J2I&N2IaK&l2H&m2HaL&r2I&xfm&yXw(12HM!000T0_31!pk6!qC(!si>!y3X7r$5k8$6C)$Mn<$dC*tXtY$mhp$nhp$$
  o,7w$@7y!fC+%0W8%27y%37y%47y%5Tf%8C,ta%ITg%JTg%KTg%LTg%MTg%NTgwMv|td3M%f3D%g3D33%wm1&Fa)3O&sa+&y
  7y&,t)&<C.3QlQ3S7>(f7@(g7@(h7@(i7@(j7@(k3V3V(n3X(o3V(p3X(q3X(x3X(y3X(z3X($3X3X(&3X((3X()3X(*3X(,
  3X(<w8(|3X)03X)13V)23X)33X)43V)Da.002^03p6&,C;(<C<030e1N022w0h3A2^06$@C>pBMu$A00!m00$K00007v02$@
  Mr$500011M5t3E06%kC?$+bS$.C@$;C^&!bS)LbS000000031N1N1OP21N5o1P5o7902p6p5061N1N1QP21N5R022w1R3A1S
  P23A5R1T5R0000051N1N1QP21N5S1R531SP2535S1T5S0001p6041N1N1QP21N5o1R3A1U5o370Ip6p5%0C_%8QU%DM_%EM_
  %FM_%GM_6G8AlA!*00&g00(R00(S00(T00(U00(V00031V1N022w1W3A2>01p6051N1N1QP21N5t022w1R3A1U5t0r05bW$A
  C|&hba&&D0(+bb000&018K011X2e0004!*D18R8S8T000*01&,D2000001$6D3000000010q6W7%0n!htq!ktq!otr!pkZ!s
  k7!xtq$5kb$Its$MD4$mi@$ni@$.kA$@ZL!fD5%0X|%2ZL%3ZL%4ZL%5D6%7tq%8D7%9tq%Atq%Ctq%Dtq%Etq%Ftq%Gtq%H
  tq%ID8%JD8%KD8%LD8%MD8%ND8%whr&Jtu&Ntu&ltt&mtt&rtu&yZL(1tt(eD9!m00$K00$d00&;00&<00007903%BDAOL(Z
  DB011Y5R0002OLDA000004$jmB$lmC%BDC%SwQ010m5M0003!qDD$6DE)WDF000001$KDG000*01&,DH000000010q6d0001
  8R011Z6b0000010q5p0000010q5U3J02(lDI(oDJ003E04%kDL$.DK(mDL)TDL002w01(eDM002w01(eDN000001!fDO0000
  00010q5Z0000010u6B000284(?DP010u6C7*01!*00011a6a8B00003W00021b5H1c5r3902&,DQ(<DR000001%SDS011d5W
  3W00010y5k0000010t5u0002!fDT$^DU000000011e5E0001!fDV0048053R3S(cDW(eDX(rDW000000010q5a0002!fDY$^
  DZ000000011e5E0002!fDa$^Db002w02$8Dc(eDd000000011f5v2w01(eDe002w01(eDf002w0Dv^tXtYtZtawMv|tdlMte
  lQ(eDgw0000003!qDh$8Di)QDj002w02$6Dk(eDl000001$KDm002t02$8Dn(>Do000000011g660003!qDpDm)VDq005P03
  !rDrnrn%000001Dq00000001092.3e01$.00011hJR1*09!i3$$g3,$h3,$i3,$m3>$n3>$o3$$p3$3>011i2$3h01!*Ds00
  0001Dr000001!fDt000000011j310002f%&&Du000001!fDv000000010B4e2u04!pis&ZDw&+Dx(<Dy000004!fDz&Rqq(K
  D!(qD$000003!p34%h34(,D%000000010B4s8p038n(MD&(,D(001V07!rD)$@D*$^D*&yD*&^D*&_D*(PD+000000010B4z
  0000011k2@1,02&Fly&x00002F06l)!*D,)DD.$000(Z00)I00000003l)D+D,008x01)Dl+000000010%2q0000010%2r00
  00010%2q0000010%2r000001092k5P0R%lra!iq>!,q<$0D;$8q<$eq?$fq@$gq^$hq^$iq^$jq_$kq|$lr0$mr1$nr1$oq>
  $pq>$qr2$riM$sq<$tr3$ur3$vr3$wr3$xq<$yr4$zq<001*013>011l2$000002094T1T5Q0003$jO_$lO|%SwB011m4T2g
  00010Z6$5P03$6D<nrn%000001D;002g07!n00!z00$e00$f00$y00%Q00%l00011n2$8<013)011o2$8f03$g00$h00$i00
  011p2$8<03$j00$k00$l00011q2$8@013,011r2$8^013.011s2$8?02$m00$n00011t2$2Q013>011u2$1)02C.C;020X1N
  022w79021C14041v1N1wP21N5R022w1T5R0000031x1N1wP21N5S1T5S0i00031v1N1wP21N5o1T5o3I021C14021y1N022w
  1y00041v1N1wP21N5t022w1T5t8@04$t00$u00$v00$w00011z2$8>013*011!2$8+00011m4U3d02&FD>&xD?004300010Z
  JN000001092k3y01&&D@00000001092b2g00010l2b2g00010l2x7901%cD^010x5R0001D@010x5S000E$$3D!fD_%0D_%I
  3D%J3D%K3D%L3D%M3D%N3D3M%f3D%g3D(rD|(*E0003S00021$5B1b5H3T00021$5B1b5H0000010F5G8B00011$5B000001
  0F5d0001%cE1010x5Q0000010F2h0<02%vE2&FE3000000010B042u03&ZE4&+E5(<E6002x01&+E700000001091_2$02&Z
  E8&+E9000001!fEA000000010I0B0000011%0X0000010B060000010B070000010B060002%jEB!)EB0000029.9<000002
  %jEC!)EC000001!nED010Q0H0000010;0D0|03!rEE%tEF!q00000003!qEGED)7EH004H04!jEI!fEI%uEI&yEI000002hR
  &+EJ007500010B262$03hR&ZEK&+EL000001!fEM002+01&fEN005f01&fEO007M02!pj^%.EP004e03&ZEQ&+ER(<ES0000
  05%jET!)ET$jTx$lTy%SwK004m01(eEU000000010I0Y00019;001N03%jEV!)EV%&EW000000010B0P0002%jEX!)EX0000
  00010B0Q0002%jEY!)EY000001!nEZ010Q4000034o!fEa(0Ea000001!nEb000000010Q0e0000010I0a9&02!fEc(0Ec00
  1H03!rEd%%Ee!q00000003!qEfEc)8Eg000003%jEh!)Eh$Ai*000001!(Ei009;01$Ai+000000010B0Q0002%jEj!)Ej00
  5b0T!hEk!kEk!oEk5a!rEl!xEk$IEm$MEk!fEk%7En%8Eo%9Ep%AEp%CEk%DEq%EEq%FEq%GEr%HEk%IEk%JEk%KEk%LEk%M
  Ek%NEk&sfg&>fg&?fg)Bfi000000010(0j0000010B0R0000010I0W0000010L1v0000010L1w4W00020.P21c2u1&1c0000
  01091U000001111Z5P0R%ls4!iri!,rh$6Es$8rh$erj$frk$grl$hrl$irl$jrm$krn$lro$mrp$nrp$ori$pri$qrq$rjn
  $srh$trr$urr$vrr$wrr$xrh$yrs$zrh005f01&fEt000M01%.Eu002g00030.P21c2u1&1c0(2u6u01&FEv006u01&FEw00
  0000030P1f0NP21f3U0O3U5202%BEx&fEy001V05$@Ez$^Ez&yEz&^Ez&_Ez00AE00010^3SAE03!iE!%9E$%AE$010^3SAG
  01$IE%010^3S5400020|3S0Q6s000001111a2g00030.P21d2u1&1d0(2u0000020U3S0Q6p5601!m00020U3S0Q6p1t014|
  020U3S0Q6pAM015R020U3S0Q6p1V00020U3S0Q6p0000030U3S0V4<0Q6p0000030U3S0V4>0Q6p1s01$0E&00000001091V
  5P00010Q3Q0000010Q3R6o00010Q3R0M01%.E(000000010Q3CAH01%8E)000000010@0x2x01&+E*00000001091^2$02&Z
  E+&+E,007G01!fE.005f01&fE;005f01&fE<002,01%.E>005t03&ZE?&+E@(<E^00000001121X5%02AUAV002g00010Z2y
  0000010Z0t0000010Z0u0000010Z6m0000010B0n00025.Ap010ZJ80000010B0p0000010B4!1101%(E_000000010B0!00
  01$0E|000000010B1A3d02&FF0&xF1005_04!rF2&AF3&BF3)AF3001,02&FF4&xF5001>04!mb&!,F6!.F6&qF7010Z0qA!
  01!z00010Z0qA!03%jF85&5*010Z0qA%01!z00010Z0q1,03!*F9&FFA&xFB006A01!)FC000001FB006803&7FD&FFE&xFF
  000006at$5av!fFG&JFG&NFG&rFG0060081;p61.p5!fFH&JFH&NFH&rFH020a1N022wA.04!,00!m00!.00$K0000000001
  0B0+0000010%1L0000010d370000010j6.6K01!*FI000002!qFJA^010jJV0000020a1N0h550000010h556N02%0FK&;FL
  030a1N022w0h3A0000010j506R01&qFM010j510000010j4_2u04a>&ZFN&+FO(<FP000002a>&+FQ000000020aP21@1_0b
  1_2$03a>&ZFR&+FS000000020a1N0h550000010h556N02%0FT&;FU030a1N022w0h3A2N03FS%8FVFT000002!)FW%jFW01
  1(0>A,04!fFX&JFX&NFX&rFX000000011)1G0000010B1J0000010B0_000001091g000001111j5P00010_1b2+02%BFY&f
  FZ000003!mrf$0Fa$Kre021*1N022w2503reFZrd021*1N022w270R!hr<!kr<re!or<!xr<FZ$Ir<rd$Mr<!fr<%7r<%8r<
  %9r<%Ar<%Cr<%Dr<%Er<%Fr<%Gr<%Hr<%Ir<%Jr<%Kr<%Lr<%Mr<%Nr<&fr>021*1N022w280R!hs$!ks$re!os(!xs$FZ$I
  s%rd$Ms&!fs$%7s$%8s$%9s$%As$%Cs$%Ds$%Es$%Fs$%Gs$%Hs$%Is$%Js$%Ks$%Ls$%Ms$%Ns$r,021+1N022wBM01!,Fb
  021,1N022w0001$6Fc001V05$@Fd$^Fd&yFd&^Fd&_Fd00BS00010^3S0001$5Fe00BS03!iFf%9Fg%AFg011C3S6<09Fe$I
  Fh$@Fi$^Fi%9RH%ARH&yFi&^Fi&_Fi011C3S0000011F396?05!zFj%BFkFY&qFl(ZFm010Z3WBW01%8Fn006%0O!hFo!kFo
  !oFp!xFo$IFq$MFr!fFs%7Fo%8Fo%9Fo%AFo%CFo%DFo%EFo%FFo%GFo%HFo%IFo%JFo%KFo%LFo%MFo%NFo(!Ft006<05$@
  Fu$^Fu&yFu&^Fu&_Fu00Bb03%8FvO6(SFw011.3SBb01%OFx011.3SBb01Fu001>04Fi%BFjFkFl010Z3WBc04%7Fy%8Fz%O
  Fw%PFx001V05$@F!$^F!&yF!&^F!&_F!00Bb00011C3SBh00011C3SBY05S,%BF$&fF%SofP010Z3WBh03!iF&%9F(%AF(00
  0000011F6+1@02&qF)(ZF*010Z3X2+055&5)&fF+F(F)010Z3X0002!pkV%.P$011;430000010Z3X5,01&qF,010Z3YBZ02
  O6(SF.011C3SBW01%OFx011C3SBg00011C3SBc09F%$@F;$^F;%9RI%ARI&yF;&^F;&_F;(SF<001V08!itp$@lx$^lx%9tv
  %Atv&ylx&^lx&_lx011C3S6;0Bto$IO5$@F?$^F?%8F>%9O6%AO6&yF?&^F?&_F?(SF@011C3SBx04%8N>%GN>%OF^(S0001
  1C3SBw03%950%A50!i00011C3S6,0B$@G1$^G1%7F_%8F|%OG0%PF^&yG1&^G1&_G1(RG2(SG0011C3S6<06$@G1$^G1%8G3
  &yG1&^G1&_G100B$01%8N>000002!)G4%jG4011FJT1s075&!zG55)%BG6&fby&qG7(ZG8010Z3WBx05%7G9%8GA%CGB%OG0
  F@00By02F<%O00000000011B347101!r00011FJT0001%jGC020R1|0B270000010B287401&+GD000001%jGE020R1|0B27
  0002bW&&PC021<4V1G4a2v01(CGF007801)PGG011H4Y2w01Dc000002B^Di010o4c0000010920000001092c2g00010l2c
  5f01&fGH002,01%.GI001S04%jGJ%oGJ!)GJ%.GK00000001092L000001092d2g00010l2d1S01%.GL00000001092S0000
  010B4P0001%jGM020R2M0B2O000001092o2g00010l2v000001092>0<0V!kl51y!ol6!xl51$$Il71&%Cl5%Hl5&FGN0v1*
  !w00!y00%O00%V00%W00%v00%*00%+00&Y00&b00&d00(400(E00(F00(G00(J00(L00(N00(Q00007X04%BGO&fGPSofP00
  0006%jGQ!qGQ!rGR!)GQ%iGR)UGS001V05$@GT$^GT&yGT&^GT&_GT00CJ00010^3S5)01(ZGU011L6J0002S,&,GV00CJ03
  !iGW%9GX%AGX011I3S6<09GV$IGY$@GZ$^GZ%9RR%ARR&yGZ&^GZ&_GZ011I3S7e03%BGaGO(ZGb011L5)CO01%8Gc007X02
  &,Gd(<Ge007U08!rGR%iGR%qGf(2Gf(.Gf(;Gf(^Gf(_Gf000000011J5zCI01)UGg007e03&fGh(ZGi%B00011L5*000001
  1L430000011L5+CQ02O6(SGj011I3S0002!fGk$^Gl00CZ01$5Gm000000011>5h0000010q5i0002!fGn$^Go00Cd01$5Gp
  000000011>5h0000010q5i0002!fGq$^Gr00Ch01$5Gs000000011>5h0000010q5i0002!fGt$^Gu00Cl01$5Gv00000001
  0u6D8A01(?Gw010u6E7S051X!rVf!mGx)Bbu4_011I3S7U0h!hGyl+!kN?!oN?at!xN?Cr$IGz$MG!1d$@Cy!fN?$^Cy%7G$
  %8G%%9G&%AG&%CN?%DN@%EN@%FN@%GN^%HN?%IN?%JN?%KN?%LN?%MN?%NN?&J5D&L5C&N5D&r5D&s5E&yCy&<5C&>5E&?5E
  &@5C&^Cy&_CyCyCz010QP26o6r0000051N1R1QP21R5y1R1W1SP21W5y1T5y550P!hG(!kG(!oG)!xG($IG*$MG+!fG,%7G(
  %8G(%9G(%AG(%CG(%DG(%EG(%FG(%GG(%HG(%IG(%JG(%KG(%LG(%MG(%NG(c|BQ005n0AVe!imm$@d9$^d9%9mn%Amn&yd9
  &^d9&_d9bt011I3S7X051XVeA9bt4_011K3S6;0G1XVemlA9$Imo$@G;$^G;%8G.%9fB%AfB&yG;&^G;&_G;(SG<bt4_011I
  3SCv04BZN<%GN>(S00011I3SCt03%950%A50!i00011I3S7e03$0G>%BG?&fP@011L5(Cv06%7G@!q00!r00!m00)B00)C00
  00Cz03%7N>%GN>(S00007i02p6p5031?1N1@5j022w7j00021^1N1_5j7(03bX&&G^(+G_002h01D2010mP26u6w0000051N
  1e1QP21e6W1R1h1SP21h6W1T6W7%0v!h5K!k5K5K!pkni<!x5K!zo9o9uTk75L$MmuoR$mhp$nhp$!o9o+$%o9$&uV$(uV!f
  QaoAW7%5Qb%75K%8uA%95K%A5K%C5K%D5K%E5K%F5K%G5K%H5K%IQc%JQc%KQc%LQc%MQc%NQc&EuX5O&J5R&N5RoB&l5Q&m
  5QoC&r5R(15QD8nd!m00$K00$d00&;00&<00007<02nfne061N1N0mP31N3A5R1QP21N5R022w0S3A1|5R8U03nfne(et.04
  1V1N0mP21N3A022w0S3A7>0001203A0&01DF011X2e0*01&,G|00000002211N1_5p000002226(23P26(710000031N2,1O
  P22,5U1P5UC*0l!hpi!kpipl!pkp!so*!xpi$5kopi$Mn@$mo+$no+i@$@Xw!fX_%0Zu%2Xw%3Xw%4Xw%5Y0%7pi%8n|%9pi
  %Api%Cpi%Dpi%Epi%Fpi%Gpi%Hpi%IY1%JY1%KY1%LY1%MY1%NY18a&Juc&Nuc&luX&muX&ruc8b&yXw(1uX8BDHDI000000
  051N1N1QP21N5S1SP25S541T5S1R540002!fH0$^H100000002242j1P5E0000010q5s4B01Dl011X2g0000010q6X7u0003
  0e1N022w0|3B7z00051N1N1QP21N5R022w255R0|3B7$00041N1N1QP21N5o255o0|3B3I02p6p5031V1N022w0|3B7&0005
  1N1N1QP21N5t022w255t0|3B8B00010m5L7>01(ZH2000000010m5I0000010m5K3807$6H3(fH4(gH4(hH4(iH4(jH4!q00
  000000010q6X0003!qH5$6H6)WH7002w01(eH8000001$KH9003W01!rHA011b5H0001H9011b5H0000010q5V8401$.0001
  23Jg8B00010u6H8B0001266I000002271v284r0000010u6F0001$KHB000*01&,HC002w01(eHD00000001295C00000129
  5D000002271w284r0000010q6f8B00011a6f000001295C000001295D000001295C000001295D0000011f5w8B00012A6?
  0000010q6e8000011Z6c7?01%BHE008Q01$8HF000000011f5wB|00012AJZ0000010q6V8B01$6HG008L03(cHH(eHI(rHH
  000000011g670000010u748Y01$8HJ000002!qHKDp010uJi0000011h2;0000010E4R0000012B300000011j320001$0HL
  000002ir&+HM000000010B4g2$03ir&ZHN&+HO000005!qHP$Aj4$ri)(+X%)RHQ012C4v0004HOi((+X;)RHR012C4w0002
  HOHQ012C4w0000010B4t8p01(,HS000000010B4t0000010B4$0005!mn*!qHT!rHU&qHV)SHW000003!qHX!rHY)SHZ0000
  00011k2^8y01!*Ha000901&FHb000000010%2s8.01$6Hc000001Hb00000001092l2w01(eHd009I00010x5F0000010q5F
  9P00002w01(eHe000000010B084R02%jHf!)Hf007401&+Hg000001%jHh020R210B297602&ZHi&+Hj0000000109202x01
  &+Hk0000000109208n03&ZHl&+Hm(<Hn000000010B090000010B094H04!jHo!fHo%uHo&yHo000000010;0E0000010Q6k
  9i01!rHp000002!qHqEG010QJ60000010Q0IB.00010B279l01&+Hr00B>00010B275f01&fHs00C502j@%.Ht000002j@%.
  Hu00CC00010B2O9l01&+Hv00E500010B299n02&ZHw&+Hx000000010B4.9t02%jHy!)Hy000000010B0S0002%jHz!)Hz00
  0000010B0T0000010B0S9&02!fH!(0H!000000010Q0f9&02!fH$(0H$000000010Q0g0000010I0b0000010Q6l9,01!rH%
  000002!qH&Ef010QJ70000010B4q0003ikil&yH(000000010B0S1r02!rH))Bf,010U3S0000010(1RAM035aH(f+010U3S
  AN035aH(f+010U3SEm015R010U3S1V035aH(f+010U3SEk00020U3S0V4<Ek00020U3S0V4>0000012D3U0M01%.H*000000
  010Q3D5P00010Q1c5P00010Q1d5f01&fH+000M01%.H,005202%BH.&fH;001V05$@H<$^H<&yH<&^H<&_H<00E!00010^3S
  E!03!iH>%9H?%AH?010^3S6u01AT000000010Q3EE%01$IH@010^3S000001091|2x01&+H^00000001091|5f01&fH_002,
  01%.H|002,01%.I000000001092M2x01&+I10000000109212$02&ZI2&+I3000000010B0y0302%(I4)5I4012E1E5P03$0
  I5nrn%000001I4000000010B1BAy01!r00012EJ92F03!*I6$000(Z00000001I5001,02&FI7&xI8000002!,I9!.I9010Z
  0r0002!,IA!.IA001101%(IB00F401!*IC000001IB001,03!*ID&FIE&xIF001,03!*IG&FIH&xII006A01!)IJ000001II
  000004!me.!,F6!.F6&qIK000003F7!,F6!.F6000000010d386K01!*00000000020a1N0h560000010h560000010j52B6
  01&+IL000000020aP21^210b21B802&ZIM&+IN000000020aP21_200b20B601&+IO000000020aP21_200b200000020a1N
  0h560000010h566N02%0IP&;IQ030a1N022w0h3A0000010B0?7>02!*IR(ZIS002+01&fIT00Bp01%.R7011;442w01(eIU
  002w0K!pk0!slKj;j<$MtX$jbF$lbG!fb|%8bJ%BbK%Ov|%btd%dbM%hk0%wof&,lP(KlQ(aoh(eIV(<tg005)07%XIW%YIX
  %ZIY(WIZ(XIZ(YIZ(ZIZ002+02%BIa&fIb00000O!hIc!kIc!oIc!xIc$IIc$MIc!fId%7Ic%8Ic%9Ic%AIc%CIc%DIc%EIc
  %FIc%GIc%HIc%IIc%JIc%KIc%LIc%MIc%NIc(!Ie001V05$@If$^If&yIf&^If&_If00Ff00010^3SFf03!iIg%9Ih%AIh01
  1C3S6?05!zIi%BIjIa&qIk(ZIl010Z3Z1@02&qIm(ZIn010Z3aBo03ISIlIm010Z3a0000010Z3a5,01&qIo010Z3b6<09If
  $IIp$@Iq$^Iq%9S1%AS1&yIq&^Iq&_Iq011C3SBM01$0Ir021*1N022wBN01Iq021*1N022wBO01Iq021*1N022wBP01Iq02
  1+1N022wBQ01Iq021,1N022w0001$6Is001>04Ih%BIiIjIk010Z3Z6<05$@It$^It&yIt&^It&_It011C3SFv01%8Iu00Fv
  0000Fw02O6(SIv011.3SFv01%OIw011.3SCH02%BIx&fIy00CV045&&fIzIlIm010Z3a0000010Z4H1V05$@I!$^I!&yI!&^
  I!&_I!00F&00010^3S0000010Z3c5,01&qI$010Z3dBp01%.RA011;450000010Z3eFn01%8I%00Fi05S,%BI&IxSofP010Z
  3ZF&03!iI(%9I)%AI)006<09!iu2$IPy$@I*$^I*%9Px%APx&yI*&^I*&_I*011C3SB(05!zI+%BI,&fd1&qI.(ZI;010Z3Z
  F>01%8I<006<05$@I>$^I>&yI>&^I>&_I>00F^03%8I?O6(SI@011.3SF^01%OI^011.3SF^01I>001>04I*%BI+I,I.010Z
  3ZF_04%7I_%8I|%OI@%PI^00F^00011.3S0000011F6,1@02&qJ0(ZJ1010Z3a5f055&5)&fd2I|J0010Z3a0000010Z3a5,
  01&qJ2010Z3bF@02O6(SJ3011C3SF>01%OI^011C3SG200011C3S0000010B2A0001%jJ4020R220B2B0000010B2A000001
  1G6>B^00011GJY1S01%.J500000001092T0000010B4Q0001%jJ6020R2N0B2P0001%jJ7020R2U0B2W0000010B2Q4R02%j
  Pr!)Pr007X03&fJ8SofP000000011L44CS02!rJ9%iJ9000000011J5!CU05%jJA!qJA!rJ9!)JA%iJ900CH02%BJB&fJC00
  0000011L6K5)01(ZJD011L6L1V05$@JE$^JE&yJE&^JE&_JE00GW00010^3SGW03!iJF%9JG%AJG011I3S7e03%BJHJB(ZJI
  011L5,CV02J7(ZJJ011L5.0000011L5;6<09JE$IJK$@JL$^JL%9S6%AS6&yJL&^JL&_JL011I3S5)01(ZJM011L6LCM01&,
  JN000000011L730004!qJO!)JO%jJOGf011LJh0000011L450000011L5<Gc01%8JP000000012F5e0000012F5f9J08ikil
  $@JQ&yJQ(*JQ!f00%000(r00000000012F5e0000012F5fGm03$@JR&yJR(*JR000000012F5e0000012F5fGm03$@JS&yJS
  (*JS000000012F5e0000012F5fGm03$@JT&yJT(*JT000000010u6G0901&FJU007S01Gw020QP33S6p6s2G3SCt04!q00!r
  00)B00)C00020QP33S6p6s2G3S7X01A9020QP33S6p6s2H3SCz02A9%7N>020QP33S6p6s2G3SC!03A9BZ%8N>020QP33S6p
  6s2G3SGz03%950%A50!i00020QP33S6p6s2G3SBM00040a1N2IP21N3A022w2J3ABN00040a1N2IP21N3A022w2J3ABO0004
  0a1N2IP21N3A022w2J3ABP00040e1N2IP21N3A022w2J3ABQ00042K1N2IP21N3A022w2J3A6<09!im_$In0$@JV$^JV%9fH
  %AfH&yJV&^JV&_JV011I3SCP02%BJW&fRG011L5)G.01%8JX005e0*S.!pOp!ska!yT6!(l_$5kq0T0U$Me<S;S<$mk9$nk9
  $$Tc$.km$@Z,!fTe%0Z.%2Z,%3Z,%4Z,%5V(%8UIS_%IV)%JV)%KV)%LV)%MV)%NV)vbfxS|fy%fS?%gS?fs%wkdof&yZ,&,
  cGT0PePfPh(kT4T4(nT6(oT4(pT6(qT6(xT6(yT6(zT6($T6T6(&T6((T6()T6(*T6(,T6(<m2(|T6)0T6)1T4)2T6)3T6)4
  T400CV01&fRJ011L5*G<02O6(SJY011I3S000002242j1P5hB?00012L5i4B01H8011X2g0000022M2q1T5C0000022M2r1T
  5D0000010m5J0000010q6Y0000010m75DD01$6JZ000000010q6Y0002!qJaH6010mJj0000010q5N2w01(eJb0000000123
  5T2w01(eJc000001$KJd008B00011a5X2w01(eJe000000011f5x0000010q5l0000010q6g8B00011a6g0000011g682t01
  Dn004m01(eJf000000010B4hDw01&+Jg000000010B4h8o03!fJh(KJi(qJj00D$01)RJk012C4xHQ00012C4y0000010B4u
  1V07!rJl$@Jm$^Jm&yJm&^Jm&_Jm(PJn000000010B4%0000010Q4,0003!qJo!rJp)SJq00HT01!rJr000000010B4&HW02
  !qJs!rJt000000011k2_"

end Automaton
end TypeScript
end ServiceCapsule
