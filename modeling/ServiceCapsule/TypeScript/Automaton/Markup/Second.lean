/-!
# States 537 to 1470

States of the automaton of the grammar with markup, packed two letters a number. How they are
laid out is said beside the function that unpacks them.
-/

namespace ServiceCapsule
namespace TypeScript
namespace Automaton

def markupSecond : String := "
  2s04!rBV!)BW&.BW)MBW0000057g$07j%S7j7k7l010u690002hI&+BX000001%jBY020R1^0B262$03hI&ZBZ&+Ba00520R
  %lwG!iuq!,up$8up$eur$fus$gut$hut$iut$juu$kuv$luw$mux$nux$ouq$puq$quy$ruz$sup$tu!$uu!$vu!$wu!$xup
  $yu$$zup(+Bb011G4Z0002!qBc)PBd011H4X0000010q5q0000010r0M6l0c!hBe!iBf!qBg!rBh!(T(!)Bg6e$IBi$MBj$m
  6h$n6h2s$@Bq$^Bq0i%7Bk%8Bl%9Bm%ABm%OBn%iBh%qBo&fBp&yBq0%&,Tk&^Bq&_Bq(2Bo(RBr(SBs(.Bo(;Bo(<g<(^Bo
  (_Bo)6Bt%P000000086&!fBu%0Bv%wBw(tBx(uBy(vBz(wB!000000010q5Q2&0(6%!phw!sgh!y6+!(d^$5hy$MB$6;6<$m
  gi$ngi$$o^$.hz$@UW!fB%%0B&%2UW%3UW%4UW%5B(%8B)71%IB*%JB*%KB*%LB*%MB*%NB*72737475%f6@%g6@6(%wh!77
  &yUW8Z797A7B(eB+(k7E7E(n6+(o7E(p6+(q6+(x6+(y6+(z6+($6+7F(&6+((6+()6+(*6+(,6+8a(|6+)06+)17E)26+)3
  6+)47E002w0N!qB,$6B.$MxN$dB;$jt;$lt<!fB<%8t>%Bt?%Oxs%bxP%dt_%wm&&,t|&<B>(am*(eB?(fB@(gB@(hB@(iB@
  (jB@(<xQ000*032s&,B^(<B_002w01(eB|002w01(eC0000001$@C1000000010t5t0005%kC4$.C2$;C3(mC4)TC4000000
  010q5o0003$AC5$rrO(+C6010q5R0000010q5S2w01(eC7002w02(eC8(lC9000001$MCA000001!fCB007201(lCC000001
  %MCD000003hO$ACE&&CF000001$ACG000001$KCH000002rN(+CI010q5Q7702$ACJ&&CK010x5H0001$ACL010q5H0005!q
  CM$jCN$lCO%SCP)QCQ010o4b0000010q5H0001$5CR010y5H0000010q5o0*01&,CS00000001091_0000010o2J2x01&+CT
  00000001091_1502%.CU&FCV002*02!fCW&fCX002+01&fCY002,01%.CZ001502%.Ca&FCb005I01&fCc002,01%.Cd001S
  04%jCe%oCe!)Ce%.Cf00000001092K000001092n3X01&&Cg010&2n0901&FCh000001$?Ci010A2<6x02(?Cj(@Ck010u6A
  0002$9Cl!fCl000000016j1p0002!mCm7Z016l1,000001091%0000016l6;0001!mCn016l1.3803$8Co$CCp)OCq002w01
  (eCr002w03$9Cl!fCs(eCt002w01Cs003803$8Cu$CCv)OCw000000010u6B00027g(?Cx010u6C0000016j1q000001091&
  3803$8Cy$CCz)OC!007g02$8C$$CC%002t02$8C&(>C(000000011g660003!qC)C%)VC*005203!rC+O9OO000001C*0000
  0001092.3D01$.00011hJR1*09!i3a$g3h$h3h$i3h$m3l$n3l$o3a$p3a3l011i2$3G01!*C,000001C+000001!fC.0000
  00011j310002hO&&C;000001!fC<000000010B4e2u04!pk0&ZC>&+C?(<C@000004!fC^&RsB(KC_(qC|000003!p6)%h6)
  (,D0000000010B4s7,037*(MD1(,D2001V07!rD3$@D4$^D4&yD4&^D4&_D4(PD5000000010B4z0000011k2@6X01510052
  036R!*D6)DD7006Y02D5D6006Y01D5000000010%2q0000010%2r7D03!qD8$8D9)QDA000000010%2q0000010%2r000001
  092k520R%lrP!iqc!,qb$0DB$8qb$eqd$fqe$gqf$hqf$iqf$jqg$kqh$lqi$mqj$nqj$oqc$pqc$qqk$rpO$sqb$tql$uql
  $vql$wql$xqb$yqm$zqb001*013l011l2$000002094T1T5Q0003$jQ$$lQ%%SxW011m4T2g00010Z6$5203$6DCO9OO0000
  01DB002g07!n00!z00$e00$f00$y00%Q00%l00011n2$8D013e011o2$7y03$g00$h00$i00011p2$8D03$j00$k00$l0001
  1q2$8G013h011r2$8H013i011s2$8F02$m00$n00011t2$2Q013l011u2$6)0l!hDD!im!!kad!oadcA!qDE!rDF!xad$5DG
  $IDH$MDI1d$@DM!fad$^DM%7DJ%8DK%9DL%ADL%Cad%Daj%Eaj%Faj%Gak%Had%Iad%Jad%Kad%Lad%Mad%Nad&J4,&L1p&N
  4,&r4,&s1r&yDM&<1p&>1r&?1r&@1p&^DM&_DM(RDN(SDO1v1w000907!fDP%0DQ%wDRBwBxByBz006,0w!h24!k2424!pkJ
  !sil!x24!zbhbhNY$5kK26$MQgl.$mim$nim$!bh$$Pu$%bh$&Na$(Na$.kL$@Z1!fQhbn%0Qi%2Z1%3Z1%4Z1%5Qj%724%8
  Qk%924%A24%C24%D2D%E2D%F2D2D%H24%IQl%JQl%KQl%LQl%MQl%NQl%we0&ENe2E&J2I&N2Ibt&l2H&m2Hbu&r2I2I&yZ1
  (12H008N0z!plA!qDS!sj+$5lB$6DT$MvF$dDUt.t;$mj,$nj,hy$@UW!fDV%0X0%2UW%3UW%4UW%5U)%8DWt>%D24%E24%F
  24%G24%IU*%JU*%KU*%LU*%MU*%NU*xrxOt^%wpN2i2j2k&yUW&,u32l&<DXm)B>(fB@(gB@(hB@(iB@(jB@(<xSmE2m2n!*
  00&g00&x00(R00(S00(T00(U00(V00001)02&,DY(<DZ020X1N022w0901$@Da000901$500010s5t0e05%kDb$.Dc$;Dd(m
  C4)TC4000000031x1N1wP21N5o1T5o6|021C14041v1N1wP21N5R022w1T5R0000031x1N1wP21N5S1T5S0i00031v1N1wP2
  1N5o1T5o71021C14021y1N022w1y00041v1N1wP21N5t022w1T5t0r02$ADe&&Df000(01CG011X2e0*01&,Dg008G04$t00
  $u00$v00$w00011z2$8E013f011!2$8900011m4U1,02&FDh&xDi003u00010ZJN000001092k3X01&&Dj000000016j1m7u
  01!rDk000001Dj00000001091y00027Z$8Dl008n01d0000002$8Dmd1000001Dk003405d0$CUS3T(+hp)Oho0000000109
  1l3$02$B00&T00016jJK000001092b2g00010l2b2g00010l2x6|01%cDn010x5R0001Dm010x5S000E$$6@!fDo%0Do%I6@
  %J6@%K6@%L6@%M6@%N6@75%f6@%g6@(rDp(*Dq007B00021$5B1b5H7C00021$5B1b5H0000010F5G0003CMCNCO011$5B00
  00010F5d0001%cDr010x5Q0000010F2h0<02%vDs&FDt000000010B042u03&ZDu&+Dv(<Dw002x01&+Dx00000001091_2$
  02&ZDy&+Dz000001!fD!000000010I0B0000011%0X0000010B060000010B070000010B060002%jD$!)D$0000029X9Z00
  0002%jD%!)D%000001!nD&010Q0H0000010;0D0|03!rD(%tD)!q00000003!qD*D&)7D+003>04!jD,!fD,%uD,&yD,0000
  02i*&+D.006z00010B262$03i*&ZD;&+D<000001!fD>002+01&fD?005I01&fD@007T02!pk|%.D^004H03&ZD_&+D|(<E0
  000005%jE1!)E1$jV4$lV5%Sxp004P01(eE2000000010I0Y00019Y001N03%jE3!)E3%&E4000000010B0P0002%jE5!)E5
  000000010B0Q0002%jE6!)E6000001!nE7010Q4000034R!fE8(0E8000001!nE9000000010Q0e0000010I0a9R02!fEA(0
  EA001H03!rEB%%EC!q00000003!qEDEA)8EE000003%jEF!)EF$Al3000001!(EG009Y01$Al4000000010B0Q0002%jEH!)
  EH005E0T!hEI!kEI!oEI5D!rEJ!xEI$IEK$MEI!fEI%7EL%8EM%9EN%AEN%CEI%DEO%EEO%FEO%GEP%HEI%IEI%JEI%KEI%L
  EI%MEI%NEI&sh9&>h9&?h9)BhB000000010(0j0000010B0R0000010I0W0000010L1v0000010L1w4900020.P21c2u1&1c
  000001091U000001111Z520R%ls8!irh!,rg$6EQ$8rg$eri$frj$grk$hrk$irk$jrl$krm$lrn$mro$nro$orh$prh$qrp
  $rr0$srg$trq$urq$vrq$wrq$xrg$yrr$zrg005I01&fER000M01%.ES002g00030.P21c2u1&1c0(2u6X01&FET006X01&F
  EU000000030P1f0NP21f3U0O3U4x02%BEV&fEW001V05$@EX$^EX&yEX&^EX&_EX009u00010^3S9u03!iEY%9EZ%AEZ010^
  3S9w01$IEa010^3S4z00020|3S0Q6s000001111a2g00030.P21d2u1&1d0(2u0000020U3S0Q6p4$01!m00020U3S0Q6p1t
  014u020U3S0Q6p9%0154020U3S0Q6p1V00020U3S0Q6p0000030U3S0V4<0Q6p0000030U3S0V4>0Q6p1s01$0Eb00000001
  091V5200010Q3Q0000010Q3R6R00010Q3R0M01%.Ec000000010Q3C9x01%8Ed000000010@0x2x01&+Ee00000001091^2$
  02&ZEf&+Eg007N01!fEh005I01&fEi005I01&fEj002,01%.Ek005W03&ZEl&+Em(<En00000001121X5f029;9<002g0001
  0Z2y0000010Z0t0000010Z0u0000010Z6m0000010B0n00025mAD010ZJ80000010B0p0000010B4!1101%(Eo000000010B
  0!0001$0Ep000000010B1A1,02&FEq&xEr005t04!rEs&AEt&BEt)AEt001,02&FEu&xEv001>04!mdC!,Ew!.Ew&qEx010Z
  0qAO01!z00010Z0qAO03%jEy5g5j010Z0qAQ01!z00010Z0q1,03!*Ez&FE!&xE$005)01!)E%000001E$005&03&7E&&FE(
  &xE)000006cA$5cC!fE*&JE*&NE*&rE*005v081;oi1.oh!fE+&JE+&NE+&rE+020a1N022wAX04!,00!m00!.00$K000000
  00010B0+0000010%1L0000010d370000010j6.5^01!*E,000002!qE.Ad010jJV0000020a1N0h550000010h556002%0E;
  &;E<030a1N022w0h3A0000010j506401&qE>010j510000010j4_2u04cT&ZE?&+E@(<E^000002cT&+E_000000020aP21@
  1_0b1_2$03cT&ZE|&+F0000000020a1N0h550000010h556002%0F1&;F2030a1N022w0h3A2N03F0%8F3F1000002!)F4%j
  F4011(0>AW04!fF5&JF5&NF5&rF5000000011)1G0000010B1J0000010B0_000001091g000001111j5200010_1b2+02%B
  F6&fF7000003!mra$0F8$KrZ021*1N022w2503rZF7rY021*1N022w270R!hr?!kr?rZ!or?!xr?F7$Ir?rY$Mr?!fr?%7r?
  %8r?%9r?%Ar?%Cr?%Dr?%Er?%Fr?%Gr?%Hr?%Ir?%Jr?%Kr?%Lr?%Mr?%Nr?&fr@021*1N022w280R!hs_!ks_rZ!ot1!xs_
  F7$Is|rY$Mt0!fs_%7s_%8s_%9s_%As_%Cs_%Ds_%Es_%Fs_%Gs_%Hs_%Is_%Js_%Ks_%Ls_%Ms_%Ns_r;021+1N022wA%01
  !,F9021,1N022w0001$6FA001V05$@FB$^FB&yFB&^FB&_FB00A,00010^3S0001$5FC00A,03!iFD%9FE%AFE011C3S6o09
  FC$IFF$@FG$^FG%9Rv%ARv&yFG&^FG&_FG011C3S0000011F396q05!zFH%BFIF6&qFJ(ZFK010Z3WA>01%8FL006f0O!hFM
  !kFM!oFN!xFM$IFO$MFP!fFQ%7FM%8FM%9FM%AFM%CFM%DFM%EFM%FFM%GFM%HFM%IFM%JFM%KFM%LFM%MFM%NFM(!FR006o
  05$@FS$^FS&yFS&^FS&_FS00A|03%8FTOr(SFU011.3SA|01%OFV011.3SA|01FS001>04FG%BFHFIFJ010Z3WB004%7FW%8
  FX%OFU%PFV001V05$@FY$^FY&yFY&^FY&_FY00A|00011C3SB500011C3SA@05T&%BFZ&fFaTjg;010Z3WB503!iFb%9Fc%A
  Fc000000011F6+1@02&qFd(ZFe010Z3X2+055g5i&fFfFcFd010Z3X0002!plX%.QI011;430000010Z3X5l01&qFg010Z3Y
  A^02Or(SFh011C3SA>01%OFV011C3SB400011C3SB009Fa$@Fi$^Fi%9Rw%ARw&yFi&^Fi&_Fi(SFj001V08!itu$@ms$^ms
  %9t!%At!&yms&^ms&_ms011C3S6n0Btt$IOq$@Fl$^Fl%8Fk%9Or%AOr&yFl&^Fl&_Fl(SFm011C3SBL04%8Of%GOf%OFn(S
  00011C3SBK03%94v%A4v!i00011C3S6l0B$@Fr$^Fr%7Fo%8Fp%OFq%PFn&yFr&^Fr&_Fr(RFs(SFq011C3S6o06$@Fr$^Fr
  %8Ft&yFr&^Fr&_Fr00BP01%8Of000002!)Fu%jFu011FJT1s075g!zFv5i%BFw&fd7&qFx(ZFy010Z3WBL05%7Fz%8F!%CF$
  %OFqFm00BM02Fj%O00000000011B346w01!r00011FJT0001%jF%020R1|0B270000010B286y01&+F&000001%jF(020R1|
  0B270002cu&&Pe021<4V1G4a2v01(CF)006%01)PF*011H4Y1C0b!im1!jg>!km2!lbz!mF+!ntM!ob!0_!wl!!xm3!yl%$H
  m4$IxF$JtO%Cb%%Hb&%OtH%Vl_%Wl|%rm6%sb(%vNm%*Nd%+Nd&YNd&bNd&dNd(4Nd(ENd(FNd(GNd(HNn(JNd(LNd(NNd(Q
  Nd)6tR011I3S1V05$@F,$^F,&yF,&^F,&_F,006)0A%qF.(2F.(.F.(;F.(^F.(_F.!q00!r00!)00%i00000000011J5yBf
  03!iF;%9F<%AF<011I3S6;03T&&,F>(<F?011K3S6n0BF.$IF@$@F_$^F_%8F^%9Rz%ARz&yF_&^F_&_F_(SF|011I3SBk04
  A^Oe%GOf(S00011I3SBf00011I3S0001$MG0000006%jG1!qG1!rG2!)G1%iG2)UG3000000011L5&Bj065i%BG4&fG5Tj(Z
  G6g;011L5(Bk01%7G700Bl02mqF@003<01!hhT003G05$AG8$LG9rN&&GA(+GB010w5j0002G7G8010q5j7A03hOG9GA00Bu
  04$AGC$LGD&&GE(+GF010w5jBu04$AGG$LGH&&GI(+GJ010w5j0002$AGK$LGL010q5j0000010q5j2^03oiDXDY030e1N02
  2w0h3A6|02oioh061N1N1QP21N5R022w1R3A1SP23A5R1T5R0000051N1N1QP21N5S1R531SP2535S1T5S0001oi041N1N1Q
  P21N5o1R3A1U5o6,0Ioioh%0GM%8RN%DNz%ENz%FNz%GNz5<C6mE!*00&g00(R00(S00(T00(U00(V00031V1N022w1W3A2>
  01oi051N1N1QP21N5t022w1R3A1U5t8&01!*GN000001$6GO000000010q6WB)0n!htv!ktv!otw!plo!sk;!xtv$5lp$Itx
  $MGP$mk<$nk<$.lh$@b6!fGQ%0ap%2b6%3b6%4b6%5GR%7tv%8GS%9tv%Atv%Ctv%Dtv%Etv%Ftv%Gtv%Htv%IGT%JGT%KGT
  %LGT%MGT%NGT%wjL&Jtz&Ntz&lty&mty&rtz&yb6(1ty(eGU!m00$K00$d00&;00&<00006|03%BGVdC(ZGW011Y5R0002dC
  GV000004$jno$lnp%BGX%Sxv010m5M0003!qGY$6GZ)WGa000001$KGb000*01&,Gc000000010q6d0001CM011Z6b000001
  0q5p0000010q5U7202(lGd(oGe006^04%kGg$.Gf(mGg)TGg000001!fGh000000010q5Z8&00011a6a8&00007F00021b5H
  1c5r6;02&,Gi(<Gj000001%SGk011d5W7F00010y5k0000010t5u0002!fGl$^Gm000000011e5E0001!fGn003(057A7B(c
  Go(eGp(rGo000000010q5a0002!fGq$^Gr000000011e5E0002!fGs$^Gt002w01(eGu002w01(eGv002w01(eGw002w0DxM
  t.t;t<t>xrxOt^m%t_m)(eGxxP000002CL)QGy010o4c2w02$6Gz(eG!000001$KG$000000010920000001092c2g00010l
  2c5I01&fG%002,01%.G&001S04%jG(%oG(!)G(%.G)00000001092L000001092d2g00010l2d1S01%.G*00000001092S00
  00010B4P0001%jG+020R2M0B2O000001092o2g00010l2v000001092>0000010u6D7m01(?G,010u6E0000016m1x0009c&
  $DG.$EG;$rc*&OG<&PG<&Qiz&UG<&WG<00Cm04&OG>&PG>&UG>&WG>000000016j1r000001091(7g02$800$C00016lJX8&
  00010u6H6|00036n5R6oP25R1x6p1x8&0001266I0000016j1r000001091(7g02$8G?$CG@000000010u6F0000016j1s00
  0001091)7g02$8G^$CG_000000016j1s000001091)0000011g670000010u747r01$8G|000002!qH0C)010uJi0000011h
  2;0000010E4R0000012B300000011j320001$0H1000002j|&+H2000000010B4g2$03j|&ZH3&+H4000005!qH5$AkV$rs+
  (+ZP)RH6012C4v0004H4s*(+ZX)RH7012C4w0002H4H6012C4w0000010B4t7,01(,H8000000010B4t0000010B4$6404!q
  H9!rHA&qHB)SHC000003!qHD!rHE)SHF000000011k2^6Y01!*HG00CM01$8HH000000016q5vCQ02!qHI$8HJ000901&FHK
  000000010%2sBe051X4r!mHL4s4t011I3SBg0h!hHMmz!kOg!oOgcA!xOgDF$IHN$MHO1d$@DM!fOg$^DM%7HP%8HQ%9HR%A
  HR%COg%DOh%EOh%FOh%GOi%HOg%IOg%JOg%KOg%LOg%MOg%NOg&J4,&L4+&N4,&r4,&s4.&yDM&<4+&>4.&?4.&@4+&^DM&_
  DMDMDN010QP26o6r0000041x1R1wP21R5y0S1W1T5y4!0P!hHS!kHS!oHT!xHS$IHU$MHV!fHW%7HS%8HS%9HS%AHS%CHS%D
  HS%EHS%FHS%GHS%HHS%IHS%JHS%KHS%LHS%MHS%NHSeQA*005Q08!inY$@ea$^ea%9nZ%AnZ&yea&^ea&_ea011I3S5O04T&
  2sF<F>011K3S6n0G1X4rnX9p$Ina$@HY$^HY%8HX%9go%Ago&yHY&^HY&_HY(SHZ4s4t011I3SDJ04A^%8Of%GOf(S00011I
  3SDH03%94v%A4v!i00011I3SBq03$0Ha%BHb&fQV011L5(DJ06%7Hc!q00!r00!m00)B00)C0000DN03%7Of%GOf(S0000Bu
  021C1403361N0s5j022wBv0002371N0s5j0r03rN&&Hd(+He002h01GN010mP26u6w0000041x1e1wP21e6W0S1h1T6WB;0v
  !h4^!k4^4^!pltj*!x4^!zbhbhNYlA4_$Mn@l.$mj,$nj,$!bhPt$%bh$&Na$(Nahy$@UW!fR.bnW|%2UW%3UW%4UW%5R;%7
  4^%8uV%94^%A4^%C4^%D4^%E4^%F4^%G4^%H4^%IR<%JR<%KR<%LR<%MR<%NR<d|Nd51&J54&N54bt&l53&m53bu&r54&yUW
  (15300B<02NnNk061N1N0mP31N3A5R1QP21N5R022w0S3A1|5RCP03NnNk(euH041V1N0mP21N3A022w0S3AB>0001203A0(
  01Ga011X2e0*01&,Hf000000021x1N0s5p000002226(23P26(710000031x2,1wP22,5U1T5UDU0l!hTr!kTrWZ!plvik!x
  Tr$5lsTs$MPs$mim$nimkK$@Z1!fZ2%0b7%2Z1%3Z1%4Z1%5Z4%7Tr%8Pz%9Tr%ATr%CTr%DTr%ETr%FTr%GTr%HTr%IZ5%J
  Z5%KZ5%LZ5%MZ5%NZ57t&JpC&NpC&lNe&mNe&rpC7u&yZ1(1NeC7GcGd000002!fHg$^Hh00000002092j1T5E3*01G!011X
  2g8B01$6Hi000001Hh00000001092l0000016j1n000001091z000001091!2w01(eHj008y00010x5F0000010q5F8)0000
  2w01(eHk000000010B084402%jHl!)Hl006y01&+Hm000001%jHn020R210B296!02&ZHo&+Hp0000000109202x01&+Hq00
  00000109207*03&ZHr&+Hs(<Ht000000010B090000010B093>04!jHu!fHu%uHu&yHu000000010;0E0000010Q6k9601!r
  Hv000002!qHwD*010QJ60000010Q0IBX00010B279901&+Hx00Ba00010B275I01&fHy00CY02k_%.Hz000002k_%.H!00Cf
  00010B2O9901&+H$00Dv00010B299B02&ZH%&+H&000000010B4.9H02%jH(!)H(000000010B0S0002%jH)!)H)00000001
  0B0T0000010B0S9R02!fH*(0H*000000010Q0f9R02!fH+(0H+000000010Q0g0000010I0b0000010Q6l9W01!rH,000002
  !qH.ED010QJ70000010B4q0003j;j<&yH;000000010B0S1r02!rH<)BhW010U3S0000010(1R9%035DH;hV010U3S9&035D
  H;hV010U3SEK0154010U3S1V035DH;hV010U3SEI00020U3S0V4<EI00020U3S0V4>0000012D3U0M01%.H>000000010Q3D
  5200010Q1c5200010Q1d5I01&fH?000M01%.H@004x02%BH^&fH_001V05$@H|$^H|&yH|&^H|&_H|00EY00010^3SEY03!i
  I0%9I1%AI1010^3S6X019.000000010Q3EEa01$II2010^3S000001091|2x01&+I300000001091|5I01&fI4002,01%.I5
  002,01%.I600000001092M2x01&+I70000000109212$02&ZI8&+I9000000010B0y0302%(IA)5IA012E1E5203$0IBO9OO
  000001IA000000010B1BAM01!r00012EJ95203!*ICO9OO000001IB001,02&FID&xIE000002!,IF!.IF010Z0r0002!,IG
  !.IG001101%(IH00Eu01!*II000001IH001,03!*IJ&FIK&xIL001,03!*IM&FIN&xIO005)01!)IP000001IO000004!mgV
  !,Ew!.Ew&qIQ000003Ex!,Ew!.Ew000000010d385^01!*00000000020a1N0h560000010h560000010j52Am01&+IR0000
  00020aP21^210b21Ao02&ZIS&+IT000000020aP21_200b20Am01&+IU000000020aP21_200b200000020a1N0h56000001
  0h566002%0IV&;IW030a1N022w0h3A0000010B0?B>02!*IX(ZIY002+01&fIZ00BD01%.Rl011;442w01(eIa002w0I!pl5
  !st,k>k?$Mt.$jdU$ldV%8dY%BdZ%OxO%bt^%ddb%hl5%wp_&,m)(aq0(eIb(<u0005i07%XIc%YId%ZIe(WIf(XIf(YIf(Z
  If002+02%BIg&fIh00000O!hIi!kIi!oIi!xIi$IIi$MIi!fIj%7Ii%8Ii%9Ii%AIi%CIi%DIi%EIi%FIi%GIi%HIi%IIi%J
  Ii%KIi%LIi%MIi%NIi(!Ik001V05$@Il$^Il&yIl&^Il&_Il00FD00010^3SFD03!iIm%9In%AIn011C3S6q05!zIo%BIpIg
  &qIq(ZIr010Z3Z1@02&qIs(ZIt010Z3aBC03IYIrIs010Z3a0000010Z3a5l01&qIu010Z3b6o09Il$IIv$@Iw$^Iw%9Su%A
  Su&yIw&^Iw&_Iw011C3SA%01$0Ix021*1N022wA&01Iw021*1N022wA(01Iw021*1N022wA)01Iw021+1N022wA*01Iw021,
  1N022w0001$6Iy001>04In%BIoIpIq010Z3Z6o05$@Iz$^Iz&yIz&^Iz&_Iz011C3SFT01%8I!00FT0000FU02Or(SI$011.
  3SFT01%OI%011.3SBj04%BI&&fI(Tjg;00FI04T&&fI)Tjg;010Z3a0000010Z4H1V05$@I*$^I*&yI*&^I*&_I*00Fb0001
  0^3S0000010Z3c5l01&qI+010Z3dBD01%.Ro011;450000010Z3eFL01%8I,00FG05T&%BI.I&Tjg;010Z3ZFb03!iI;%9I<
  %AI<006o09!iu9$IQF$@I>$^I>%9QE%AQE&yI>&^I>&_I>011C3SBS05!zI?%BI@&feS&qI^(ZI_010Z3ZFk01%8I|006o05
  $@J0$^J0&yJ0&^J0&_J000Fn03%8J1Or(SJ2011.3SFn01%OJ3011.3SFn01J0001>04I>%BI?I@I^010Z3ZFo04%7J4%8J5
  %OJ2%PJ300Fn00011.3S0000011F6,1@02&qJ6(ZJ7010Z3a5I055g5i&feTJ5J6010Z3a0000010Z3a5l01&qJ8010Z3bFm
  02Or(SJ9011C3SFk01%OJ3011C3SFs00011C3S0000010B2A0001%jJA020R220B2B0000010B2A0000011G6>Bd00011GJY
  0<0V!km91y!omA!xm91$$ImB1&%Cm9%Hm9&FJB0v1*!w00!y00%O00%V00%W00%v00%*00%+00&Y00&b00&d00(400(E00(F
  00(G00(J00(L00(N00(Q0000FY02%BJC&fJD000006%jJE!qJE!rJF!)JE%iJF)UJG001V05$@JH$^JH&yJH&^JH&_JH00F;
  00010^3S5i01(ZJI011L6J0002T&&,JJ00F;03!iJK%9JL%AJL011I3S6o09JJ$IJM$@JN$^JN%9Sw%ASw&yJN&^JN&_JN01
  1I3SBq03%BJOJC(ZJP011L5)F^01%8JQ00Bj02&,JR(<JS00Bg08!rJF%iJF%qJT(2JT(.JT(;JT(^JT(_JT000000011J5z
  F.01)UJU00Bq03&fJV(ZJW%B00011L5*0000011L430000011L5+F|02Or(SJX011I3S0002!fJY$^JZ00G801$5Ja000000
  011>5h0000010q5i0002!fJb$^Jc00GC01$5Jd000000011>5h0000010q5i0002!fJe$^Jf00GG01$5Jg000000011>5h00
  00010q5i0002!fJh$^Ji00GK01$5Jj000000051N1N1QP21N5S1SP25S541T5S1R540000010q5s0000010q6XB$00030e1N
  022w0|3BB%00051N1N1QP21N5R022w255R0|3BB(00041N1N1QP21N5o255o0|3B7102oioh031V1N022w0|3BB*00051N1N
  1QP21N5t022w255t0|3B8&00010m5LB>01(ZJk000000010m5I0000010m5K6.07$6Jl(fJm(gJm(hJm(iJm(jJm!q000000
  00010q6X0003!qJn$6Jo)WJp002w01(eJq000001$KJr007F01!rJs011b5H0001Jr011b5H0000010q5VC401$.000123Jg
  000002271v284r0001$KJt000*01&,Ju002w01(eJv00000001295C000001295D000002271w284r0000010q6f8&00011a
  6f000001295C000001295D000001295C000001295D8&00012A6?0000010q6eC000011Z6cB?01%BJw00CQ00012AJZ0000
  010q6V8&01$6Jx00CH03(cJy(eJz(rJy001S01%.J!00000001092T0000010B4Q0001%jJ$020R2N0B2P0001%jJ%020R2U
  0B2W0000010B2Q0000010u6G0004$7J($DJ&$FJ()GJ(000004$7J)$EJ&$GJ))HJ)000000016l1;0000016l1<0000016j
  1t000001091*0000016j1u000001091+0000011g682t01C&004P01(eJ*000000010B4hC>01&+J+000000010B4h7+03!f
  J,(KJ.(qJ;00C|01)RJ<012C4xH600012C4y0000010B4u1V07!rJ>$@J?$^J?&yJ?&^J?&_J?(PJ@000000010B4%000001
  0Q4,0003!qJ^!rJ_)SJ|00H901!rK0000000010B4&HC02!qK1!rK2000000011k2_0000016q5wCM01$8K3000000016q5w
  2g00010l2!0901&FK400Be01HK020QP33S6p6s2G3SDH04!q00!r00)B00)C00020QP33S6p6s2G3SBj019p020QP33S6p6s
  2H3SDN029p%7Of020QP33S6p6s2G3SDO039pA^%8Of020QP33S6p6s2G3SHN03%94v%A4v!i00020QP33S6p6s2G3SA%0004
  0a1N2IP21N3A022w2J3AA&00040a1N2IP21N3A022w2J3AA(00040a1N2IP21N3A022w2J3AA)00040e1N2IP21N3A022w2J
  3AA*00042K1N2IP21N3A022w2J3A6o09!in<$In?$@K5$^K5%9g$%Ag$&yK5&^K5&_K5011I3SF_02%BK6&fRu011L5)HX01
  %8K7005H0*U9!plw!slT!yUB!(hx$5lu0T0U$MgpUBUC$mlU$nlU$$UV$.lq$@bN!fU(%0bO%2bN%3bN%4bN%5XL%8VNUI%I
  XM%JXM%KXM%LXM%MXM%NXMw!hiUJhj%fUE%gUEhd%wlip_&ybN&,e1UKP?P@P_(kUOUO(nUB(oUO(pUB(qUB(xUB(yUB(zUB
  ($UBUP(&UB((UB()UB(*UB(,UB(<nE(|UB)0UB)1UO)2UB)3UB)4UO00G401&fRx011L5*HZ02Or(SK8011I3S000002092j
  1T5h3X00010s5i3*01Jq011X2g0000020%2q1T5C0000020%2r1T5D0000010%2t8&00011a5b8&00011a5c0000010B0A00
  01%jK9020R230B2C0000010B2D6y01&+KA000001%jKB020R230B2C0000010924C>01&+KC000000010B4iC@02&ZKD&+KE
  000000010Q0J0000010;0F9601!r0000F&00010B2BD@01%.KF00G)00010B2PG*00010B2WHm00010B2C9901&+KG00Hp00
  010B2C0000010B4;0000010B0U0000010Q0h0000010Q0i0000010I0c9W01!r00000001!*KH000000010(1S0000010Q3F
  0M01%.KI000000010Q3G5I01&fKJ000M01%.KK004x02%BKL&fKM001V05$@KN$^KN&yKN&^KN&_KN00I000010^3SI003!i
  KO%9KP%AKP010^3S00000109222,01%.KQ00000001092N000001092U00000109232x01&+KR0000000109230+00012E1F
  0302%(KS)5KS012E1C0000012N0,Eu01!*KT000001KS001,02&FKU&xKV001,02&FKW&xKX000000010B0%1101%(KY0011
  01%(KZ00Eu01!*Ka000001KZ001101%(Kb00Eu01!*Kc000001Kb001,03!*Kd&FKe&xKf00Ex00000000020aP21|230b23
  Am01&+Kg000000020aP21|230b230000020aP220240b240000020a1N0h57"

end Automaton
end TypeScript
end ServiceCapsule
