/-!
# States 0 to 536

States of the automaton of the grammar with markup, packed two letters a number. How they are
laid out is said beside the function that unpacks them.
-/

namespace ServiceCapsule
namespace TypeScript
namespace Automaton

def markupFirst : String := "
  000000001>!g03!h04!k05!l06!o07!p08!s09!u0A!w0B!x0C!y0D!z09!$0E!%0F!&0G!(0H!)0I!+0J!;0K!<0L!>0M!?
  0N!@0O!^0P!_0Q!|0R$40S$50T$D0U$E0V$H0W$I0X$J0Y$M0Z$N0a$m09$n09$o0b$r0c$!09$$09$%09$&0d$(0d$.0e$@
  0f!f0g$^0h%00f%10f%20f%30f%40f%50i%60j%70g%80g%90g%A0g%C0k%D0g%E0g%F0g%G0g%H0l%I0g%J0g%K0g%L0g%M
  0g%N0g%O0m%V0n%W0o%p0p%q0q%v0q%w0r%x0q%(0+%)0q%*0s%+0s%.0q%<0q%>0q%?0q%@0q%_0q%|0q&00q&10q&20q&3
  0q&40q&50q&60q&70q&80q&E0t&F0u&G0v&H0w&I0f&J0$&M0f&N0$&O0w&Q0x&U0w&X0f&Y0s&a0f&b0s&c0f&d0s&e0f&f
  0y&i0f&j0z&k0w&l0t&m0t&n0w&o0!&p0w&r0$&t0w&u0w&v0w&w0w&x0%&y0f&z0f&$0f&%0f&(0&&,0((10t(40s(70w(8
  0w(90w(E0s(F0s(G0s(H0)(J0s(L0s(N0s(Q0s(<0*)50+)60,0100000204%(0.)50.!g00%p00010001000f!i0;!n0^!j
  0<!k0>!l0?!m0@!o0_!p0|0A!x100C$011$H12$I13$J14$K150i%C16%H170l0m0n%r18%s19%v1A%*0s%+0s&Y0s&b0s&d
  0s0%(40s(E0s(F0s(G0s(H1B(J0s(L0s(N0s(Q0s)61C02011N022w0004!m1D1014!f1E02031N022w000E$A1J!i1F!k1G
  !p1H!s1I$Dbk$Ebl!f1K%y1L%!1M%$1M&y1N(01O(A1P01040M0506$Dg,$Eg.!f1Q&R1R&y1S(I1T02031N022w030m!h1U
  !i1V!k1W!o1X!q1Y!r1Z!x1a$51b$I1c$M1d$d1e$@1f!f1g$^1h%71i%81j%91k%A1k%C1l%D1m%E1m%F1m%G1n%H1o%I1g
  %J1g%K1g%L1g%M1g%N1g%(1v&J1q&L1p&N1q&r1q&s1r&y1f&<1p&>1r&?1r&@1p&^1s&_1s(R1t(S1u)51v)B1w)C1x0000
  1I!h1y!k1y!l1z!o1!!p1$!s09!x1y!z090G0I0R0S0T0U$H1%$I1&$J1($M1)0Z$m09$n090a0b$!09$$09$%09$&0d$(0d
  0d$@0f!f1y0g%00f%10f%20f%30f%40f0h0i%71y%81y%91y%A1y%C1y%D1y%E1y%F1y%G1y%H1y%I1y%J1y%K1y%L1y%M1y
  %N1y0q&E0t&F1*0u&H0w&I0f&J0$&M0f&N0$&O0w0w&U0w&X0f&a0f&c0f&e0f0x&i0f0y&k0w&l0t&m0t&n0w0z&p0w&r0$
  &t0w&u0w&v0w&w0w&y0f&z0f&$0f&%0f0%0&(10t(70w(80w(90w(H0w0))61+000002!(1,&E1.000007!p1;$51<!f1>%,
  1?&J1@&N1@&r1@000B041C1014%,1^02051N022w0B02%W1_1@000A01&E1|000A01&E20000003!(21!+22%^2300091P!h
  24!k24!lc7!o25!pc8!sbh!x24!zbh!(l)!*26!+bi$4NZ$5bj$Dix$Eiy$Hc9$I27$JmC$M28$Nl;$d29$mbh$nbh$ol<$r
  bm$!bh$$bh$%bh$&Na$(Na$.bn$@Nb!f24$^bo%02A%1Nb%2Nb%3Nb%4Nb%52B%724%82C%924%A24%C24%D2D%E2D%F2D%G
  2E%H24%I24%J24%K24%L24%M24%N24%wbr&ENe&F2F&GNf&HNg&INb&J2I&MNb&N2I&ONg&Qbt&UNg&XNb&aNb&cNb&eNb&f
  bu&g2G&iNb&jNh&kNg&l2H&m2H&nNg&obv&pNg&r2I&tNg&uNg&vNg&wNg&x2J&yNb&zNb&$Nb&%Nb&;2K&<2L(12H(7Ng(8
  Ng(9Ng(HNg(R2M(S2N(T2G(U2G(V2O)62P0000000106180901&F2Q000A01&E2R00030Y!hlx!kly!obf!pbg!ulz!xl$!$
  l&!&l(!;l*$Hl+$Il,$JtD$Ml.!fl?%7l?%8l?%9l?%Al?%Cl@%Dl?%El?%Fl?%Gl?%Hl^%Il?%Jl?%Kl?%Ll?%Ml?%Nl?%(
  2S(HNk)6m0)500000002!p2T%.2U000003%j2V!)2V!f2W000003%j2X!)2X!f2Y000002%j2Z!)2Z000904%j2a!)2a&F2b
  &x2c000902&F2d&x2e000902!i2f&F2g01071O0H0O!q2h$62i1d%0Nb%824%D24%E24%F24%G24&F2j&K2k&s2l&;2m)6mF
  )D2n)E2o!*00&g00&x00(R00(S00(T00(U00(V00000004$D2p$)2q$+2q)J2q000004$E2p$*2r$+2r)K2r00000A!p2s$r
  2t!f2u%S2v%T2w&Z2x&+2y(B2z(D2!(<2$00050T!(2&2s!h2%!k2%!o2%!x2%$I2%$J2($M2%!f2%%72%%82%%92%%A2%%C
  2%%D2%%E2%%F2%%G2%%H2%%I2%%J2%%K2%%L2%%M2%%N2%&f2)0&0)02031N022w0007!i2*2%2s!f2+&f2,0&0)00090*!z
  p7$A2.$mp7$np7bl$&oh$(oh!hNu!kNu1C!oNv!sp7!xNu!+p810$4og$INw14$MNx$Npl$!p7$$p7$%p7!fNu$^p9%5bp%7
  Nu%8Nu%9Nu%ANu%CNu%DNu%ENu%FNu%GNu%HNu%INu%JNu%KNu%LNu%MNu%NNu&Ebs&F2;&G2<&HNg&Jbw&Nbw&ONgbs&UNg
  &jgP&kNg&lbs&mbs&nNg&opB&pNg&rbw&tNg&uNg&vNg&wNg(1bs(7Ng(8Ng(9Ng(HNg02081N022w0T0u!h2>!k2>!o2?!s
  p7!x2>!zp7p7of$I2@$M2^pk$mp7$np7$!p7$$p7$%p7$&oh$(oh!f2>p8%52_%72>%82>%92>%A2>%C2>%D2>%E2>%F2>%G
  2>%H2>%I2>%J2>%K2>%L2>%M2>%N2>&E2|&Fcc&J30&N30&fpA&l2|&m2|pA&r30(12|!q00$600$d00&K00&s00&;00&<00
  )D00)E00000001$>31000008!y32$833$934$C35!f36&R37&S38(>39000901&F3A000006%k3D$+3D$.3B$;3C&!3D)L3D
  00000001091N0501!f0002031N022w0001!,3E0000011C010A1N0005!(3F!f3G&)3G&*3H(53H00040C!k3I!l3J1C%H3K
  %U3L%v3M!i00!n00!j00!p00%r00%s0002031N022w0506$Dj<$Ej>!fNp&RNq&yNr(I3N02031N022w0001$H3O000001!f
  3P000001!f3Q0000000100760000010B0k0007!(3R$A3S$L3T$r3U&h3V&&3W(+3X000000010B0L0i00020A1N022w0r0c
  !)3Y%j3Y%l3Z!i3a!n3b!q3c!z3d3D$53e$83E$e3f$f3g$g3h$h3h$i3h$j3i$k3j$l3k$m3l$n3l$o3a$p3a$q3m$r3n$s
  3E$t3o$u3o$v3o$w3o$x3E$y3p$z3E$&3q$(3q%Q3r&h3s(+3t)I3u0000063d3R$L3v0d3r&z3w010C1M000001091M000B
  %n3$!p3x$73$$B3y$r3z&O3$&P3$&Qg;&T3!&U3$)F3$000001$K3%0000020d3v010D1M000F$O3&$P3&$Q3&$R3&$S3&$T
  3&$U3&$V3&$W3&$X3&$Y3&$Z3&$a3&$b3&$c3&000i000000023X!)3Y000000010E6i0004$03((Z3)(d3)(s3)010F2e00
  00020B0L0G1M00022%&,3*000302%(3+)53+0100010006!h3,$H3.0i%O3;0%)63<000+000100020003!n3>!t3?%z3@00
  090.!hm9!k3^!l3_!oTs!stA0A!x3|0C!ztA!+tB$4tC0V$I400X$MmD$NxE$mtA$ntA$!tA$$tA$%tA$&tE$(tE!fm9$^tF
  %5tG%7m9%8m9%9m9%Am9%C41%Dm9%Em9%Fm9%Gm9%H42%Im9%Jm9%Km9%Lm9%Mm9%Nm90l0m0n%v43%*0s%+0s&EtI&F44&J
  tL&NtL&Y0s&b0s&d0s&ftJ&ltI&mtI&otK&rtL(1tI(40s(E0s(F0s(G0s0((J0s(L0s(N0s(Q0s)6450000030_1D%s4600
  00033I!f47(J48000901&F49000001!o4A000006j;j<NoNpNq(INs00000B!j4F!k4B!q4C!r4D!s4B$Dk?$Ek@!f4F%t4E
  %u4F&y4F000B011@000302%(4G)500000001!f4H000001$J4I000002!i4J!f4K000903!pg*%.4L&F4M000k03!m00$000
  $K00000_013M0000023>3?001802%j48!)48000000010B030000010B0L0,02$H4N!h00000901&F4O000003!m4P2s(<4Q
  000001!n4R000607!k4S!f4T%y4U&y4V(A4W$A00!s00010H40000C!j4c!k4X!q4Y!r4Z!s4ak>k?!f4b%u4c%%4d&y4c(0
  4e001G00000001$|4f000001!m4g010H411801%z4h000000010I0V0005%j4i!u4j!v4j!)4i%&4k000001!q4l010I0V1N
  03%j4m!)4m%&4n000003!pcL$A4o%.4p010J4o1Q01$A4q010J4o0002cK4o010K4o0000010L4n0404!m4r!r4s)B4t)C4u
  040M1N0NP21N3S022w0O3S000V!h4v!k4v!o4v!x4v$54wj;j<$I4v$M4v$@4x!f4v$^4x%74v%84v%94v%A4v%C4v%D4v%E
  4v%F4v%G4v%H4v%I4v%J4v%K4v%L4v%M4v%N4v&y4x&^4x&_4x000504!m4y4r4s4t040P1N0NP21N3S022w0O3S07044x4r
  4s4t040P1N0NP21N3S022w0O3S1V0h!h4z1U!k4z!o4z!pcB!x4z$54!$I4$$M4z1d$@1s!f4z$^1s%74%%84&%94(%A4(%C
  4z%D4)%E4)%F4)%G4*%H4z%I4z%J4z%K4z%L4z%M4z%N4z&J4,&L4+&N4,&r4,&s4.&y1s&<4+&>4.&?4.&@4+&^1s&_1s1s
  1t010QP26o6r0001%j4;030B0v0R1R0S1W0C044x4r4s4t040T1N0NP21N3S022w0O3S0T01&F4<001V0a!i4?2%2s10!h4>
  !k4>4x!o4>4r!x4>$I4>2&14$M4>!f4>%74>%84>%94@%A4@%C4>%D4>%E4>%F4>%G4>%H4>%I4>%J4>%K4>%L4>%M4>%N4>
  2(0&0)4s4t040P1N0NP21N3S022w0O3S0Z044x4r4s4t03081N022w0O3S0T0e!h4^!k4^!o4_!x4^$I4|$M50!f4^%551%7
  4^%84^%94^%A4^%C4^%D4^%E4^%F4^%G4^%H4^%I4^%J4^%K4^%L4^%M4^%N4^&F52&J54&N54&l53&m53&r54(153!q00$6
  00$d00&K00&s00&;00&<00)D00)E00000000030P1N0NP21N3T0O3T1W01!f00040P1N0NP21N3S022w0O3S0h00010U3T1V
  0D4>104x4r$I5514%856%957%A57%G58(S594s4t040P1N0NP21N3S022w0O3S1i03%84v%G4v(S00040P1N0NP21N3S022w
  0O3S1V06104x4r144s4t040P1N0NP21N3S022w0O3S0k044x4r4s4t040P1N0NP21N3S022w0O3S1g00050V4<0W1N0NP21N
  3S022w0O3S1g00050V4>0W1N0NP21N3S022w0O3S0l044x4r4s4t040P1N0NP21N3S022w0O3S0003!q5A!r5B)C5C000001
  !m5D000003!q5E!r5F)B5G000*06$05H2s%B5I&f5J0&0)001V084>54%75K55%957%A575758001t03%74v%G4v(S00000+
  01!r5L001r01)B5M001p01)C5N000i0114020A1N022w00011I01040M1y060T0U!fTm&RTn&yTo(ITp020A1N022w1Y0X!h
  5O!k5O!o5O1X!r5P!x5O$I5Q$M5O!f5O%75R%85S%95T%A5T%C5O%D5U%E5U%F5U%G5V%H5O%I5O%J5O%K5O%L5O%M5O%N5O
  &L1p&s1r&<1p&>1r&?1r&@1p1v1w000W01!f5W000X02$J5X$000020A1N022w0Y02!i5Y!f5Z000Z01$000020X1N022w0r
  063d3m$&3q$(3q3r3s010Y2%1C02$H5a%O00001e0Y!hTr!kTr!oWa!phC!xTr$5g+$ITt$MTu!fTr%5Nc%7Tr%8Tr%9Tr%A
  Tr%CTr%DTr%ETr%FTr%GTr%HTr%ITr%JTr%KTr%LTr%MTr%NTr&FcH&JpC&NpC&lNe&mNe&rpC&xcJ(1Ne001101%(5b001V
  0e!h5c!k5c!o5ccA59!r5d!x5c4z$I5c$M5c28$@5e!f5c$^5e%75c%85c%95c%A5c%C5c%D5c%E5c%F5c%G5c%H5c%I5c%J
  5c%K5c%L5c%M5c%N5c&J4,&Lc2&N4,&r4,&y5e&<c2&@c2&^5e&_5e)Cc6000a0e!hNz!kNz!oN!!pi$!q5f!xNz$5iw$65g
  $IN%$MN&28!fNz%5N)%7Nz%8Nz%9Nz%ANz%CNz%DNz%ENz%FNz%GNz%HNz%INz%JNz%KNz%LNz%MNz%NNz&Eul&JtV&KcN&N
  tV&lN.&mN.&rtV&;cP2K(1N.)EcR000005!m5h!z5i$05j&q5k(Z5l010Z0q0004%j5m!q5n!)5m)95o001>01!z00010Z0q
  1?03%j5p!)5p)95q000001!f5r001101%(5s000002!p5t&95u001e0f!h5v!k5v!o5w!pj@!w5x!x5y!y5z0H$5j;$I5!$M
  5$!f5v%55%%75v%85v%95v%A5v%C5v%D5v%E5v%F5v%G5v%H5v%I5v%J5v%K5v%L5v%M5v%N5v%*5&%+5&&75&&E5(&F5)&J
  5*&N5*&l5(&m5(&r5*&x5+(15(000002!(5,%^5.001101%(5;000002!mNo$KNl040a1N2eP21N3A022w0c3A2406iwix!f
  WV&RWW&yWX(IWY040a1N2eP21N3A022w0c3A0000010d351&0RNn!hcY!kcY!ocY!xcY$IcY$JmuNk$McY!fcY%7cY%8cY%9
  cY%AcY%CcY%DcY%EcY%FcY%GcY%HcY%IcY%JcY%KcY%LcY%McY%NcY&fcZ040a1N2eP21N3A022w0c3A0a0cg*$AcbNn!hp1
  !kp1!op5hB!xp1$Ip2Nk$Mp3!fp1%5uk%7p1%8p1%9p1%Ap1%Cp1%Dp1%Ep1%Fp1%Gp1%Hp1%Ip1%Jp1%Kp1%Lp1%Mp1%Np1
  uk&GN|&Jbw&Nbwbt&lul&mul&rbw(1ul040e1N2eP21N3A022w0c3A0a0X!hOk!kOk!oOli!!xOkiv$IOm$MOn!fOk%5Oo%7
  Ok%8Ok%9Ok%AOk%COk%DOk%EOk%FOk%GOk%HOk%IOk%JOk%KOk%LOk%MOk%NOk&Eul&Jtz&Ntz&lOp&mOp&rtz(1Op000000
  030a1N0bP21N530c530001Nn030a1N2eP21N3A0c3A1<08NnNk%05<&;5>!q00$600&K00)E00040a1N0bP21N3A022w0c3A
  2400050f1N0bP21N3A0g4<022w0c3A2400050f1N0bP21N3A0g4>022w0c3A0r0g!*5?%lmT!iO9!ncz!qOA!zOB!(cv!,O3
  $0dD$5mV$8O3$Acw$eOC$fOD$gOE$hOE$iOE$jOF$kOG$lOH$mOI$nOI$oO9$pO9$qOJ$rOK$sO3$tOL$uOL$vOL$wOL$xO3
  $yOM$zO3$&ON$(ON%Qc$&hc%&&O8(Z5@(+OO)IOP000003!q5^!*5_)N5|002B00040a1N2eP21N3A022w0c3A2B00010i3A
  00015>000000010h530000010i3A2C05%860%GN,(S61!m00$K00002M02%GNz(S00000005!mO*dC%B62&q63(Z64010j4?
  2M0A$H65%066%867%DN+%EN+%FN+&;68(R69(S6A)66B001*033a3c3q010k2p1101%(6C000001!;6D000303!r6E%(1v)5
  1v000004$26F$36G&C6H&D6I010B0@0000010B100002%j6J!)6J000000010B120002%j6K!)6K000000010B140000010B
  150u02!)6L%j6L0000026K!)6L000u02!)6M%j6M0000026L!)6M000901&F6N000u04!)00%j00!q00)I00010l1P0T08&F
  6O&K6P&s6Q&;6R!q00$600)D00)E00010mP26u6w000002091e0S1h2F07!q6S$66T)D6U!*00$000(Z00)I000000035e$6
  6V)E6W0000036R6S6T002k01!m6X002l01)D6Y002k01)E6Z000000010n2*0004$D6a$)6b$+6b)J6b000004$E6a$*6c$+
  6c)K6c00000o!hOf!i6d!kOf!oOf!r6e!xOf!)6w$56fbjbk$I6g$MOf$m6h$n6h$@6q!fOf$^6q%6bq%76i%86j%96k%A6k
  %C6l%D6m%E6m%F6m%GOs%HOf%IOf%JOf%KOf%LOf%MOf%NOf%O6n%P6o&y6q&(Ni&.6w&>6p&^6q&_6q&|6r(26s(36r(R6t
  (S6u(_6r)66v)M6w00000331!f6x38000W05!phJ&Z6y&+6z(<6!!f00000a0p!hvM!kvM!ovShB!svT!xvM!zvT!+vU$4ui
  g*$IvN$MvO$NwB$mvT$nvT$opm$!vT$$vT$%vT$&uj$(uj!fvM$^vV%5xb%7vM%8vM%9vM%AvM%CvM%DvM%EvM%FvM%GvM%H
  vM%IvM%JvM%KvM%LvM%MvM%NvM&Exc&F6$&Jwc&Nwc&fvW&lxc&mxc&ovX&rwc(1xc(C6%00000,!i6&!l6(!p6)!s6*!y6+
  !(6,$56.j;j<$M6;$j6<$l6>$m6?$n6?2s$$6@$.6^$@6_!f6|%070%26_%36_%46_%56_%871%B72%I6@%J6@%K6@%L6@%M
  6@%N6@%O73%b74%d75%e76%f6@%g6@%h6)%w77&R78&y6_&,79(K7A(a7B(b7C(e7D(k7E(l7F(n6+(o7E(p6+(q6+(x6+(y
  6+(z6+($6+(%7G(&6+((6+()6+(*6+(,6+(<7H(|6+)06+)17E)26+)36+)47E0000022r&+7I00000001091@00022v(D7J
  010o2I0000010o2I2x062u2v&Z7K&+7L2y2z000001$K7M002P0C25c8%0N(%8N*&g2G2J2L2M(T2G(U2G2N2O000Y03!i7N
  !f7O&f7P000001$K7Q000Y03!f7R&f7S!i00000005!(N_2s&f7T&,Nj(<bx000002!phG%.7U000001$_4f002Q0V%lpy!i
  owcy!,ov$8ov$eox$foy$goz$hoz$ioz$jo!$ko$$lo%$mo&$no&$oow$pow$qo($rgQ$sov$to)$uo)$vo)$wo)$xov$yo*
  $zov$&ON$(ONc!(+gR000v043Q$rmS&&7V(+7W010p2m0002!m7X$Koi020a1N022w25027Woh020a1N022w270Q!hpD!kpD
  7W!opD!xpD$IpDoh$MpD!fpD%7pD%8pD%9pD%ApD%CpD%DpD%EpD%FpD%GpD%HpD%IpD%JpD%KpD%LpD%MpD%NpD&fpE020a
  1N022w280Sbi!hqz!kqz7W!oq%c7!xqz$Iq!oh$Mq$!fqz%7qz%8qz%9qz%Aqz%Cqz%Dqz%Eqz%Fqz%Gqz%Hqz%Iqz%Jqz%K
  qz%Lqz%Mqz%Nqzp9020e1N022w00017W010a1N2_00020a1N022w2_00000001$<7Y000001!f7Z000000016j1o000A!pc(
  $07a$87b$97c$C7d!f7c&P7e&S7f&V7e)O7g00000001091$3408!m7h$07i$Ad13T%S7j(+7k(?7l(@7m010u693407$87n
  $Ad2$C7o3T(+7p)O7q$000003401$000000003!q7r$87s)V7t000r043d3m3r3s010z2&000001092,1,02&F7u&x7v000e
  05%k7x$+7x$.7w&!7x)L7x000901&F7y000003!f7z&)7z&*7!000005!(hP$A7$3T&&7%(+7&010!2|0000010E2|00011D
  00000146001701$A7(000M01%.7)000000010B4d0000010B4m0001!f7*000007!p6)$rmM%S7+%h6)(M7,(,7.(<7;0000
  02!p7<(O7>001,076R!*7?$d7@&F7^&s7_)D7|&x00000002!f80$^81000000010$2i2w01(e82000002!f83$^84000000
  01092j00023Q&&85000000010B0l0a0n!hr(!kr(!or+hB!sq&!xr(!zq&!+q($4w;g*$Ir)$Mr*$NrM$mq&$nq&$!q&$$q&
  $%q&$&w<$(w<!fr($^q)%5w>%7r(%8r(%9r(%Ar(%Cr(%Dr(%Er(%Fr(%Gr(%Hr(%Ir(%Jr(%Kr(%Lr(%Mr(%Nr(&Ew?&F86
  &JvY&NvY&fq*&lw?&mw?&oq+&rvY(1w?000901&F87002w0*!iP0!pdR!sdS!y88!(m$$5dT0T0U$Mm%$jP2$lP3$mdW$ndW
  $$P4$.dX$@P5!fP6%0P7%2P5%3P5%4P5%5P5%8P8%BP9%IP4%JP4%KP4%LP4%MP4%NP4%Ot@%bda%dPA%edc%fP4%gP4%hdR
  %wdd&Rm(&yP5&,de(KPB(aPC(bPD(e89(kPE(lPF(nP1(oPE(pP1(qP1(xP1(yP1(zP1($P1(%PG(&P1((P1()P1(*P1(,P1
  (<m+(|P1)0P1)1PE)2P1)3P1)4PE000901&F8A000000010%421,02&F8B&x8C000901&F8D000901&F8E000901&F8F0009
  01&F8G000901&F8H000901&F8I000901&F8J000901&F8K003E0(6%!p8L!s8M!y6+!(8N$58O$M8P6;6<$m8Q$n8Q$$8R$.
  8S$@8T!f8U%08V%28T%38T%48T%58W%88X71%I8Y%J8Y%K8Y%L8Y%M8Y%N8Y72737475%f6@%g6@6(%w8Z77&y8T&,8a797A
  7B(ed$(k7E7E(n6+(o7E(p6+(q6+(x6+(y6+(z6+($6+7F(&6+((6+()6+(*6+(,6+(<8b(|6+)06+)17E)26+)36+)47E00
  0901&F8c000901&F8d00000001092(3b02!yP1(e8e003V01$58f003X00010&4V00023b)I8g010(2)3X033T&&8h(+8i01
  0$2i000001092j1,05!r8j$dm@&F8k&s8l&x8l000005$88m$98n!f8o&R8p&S8q00000632$9hM$CT)!f8r&RhN&ShO0000
  0001091k0x07%n8t$78t&O8t&P8t&T8s&U8t)F8t001502%.8u&F8v000901&F8w002w09!f8x%08y%a8z(a8!(b8$(c8%(e
  8&(r8((*8)000000010F2f0(03(Z8*(d8*(s8*010F2g0+00010*J31604!j8+16%v8,%U00000W04!f8.&Z8;&+8<(<8>00
  0001$H8?001+01$H00010EJ50006!j8@j;j<!f8@%u8@&y8@000003bjbk&y8^000002%j8_!)8_003I02!mm7$Km5020+1N
  022w1z014601040M1002m6m4020,1N022w1&0R!htY!ktYm6!otY!xtY$ItY2&m4$MtY!ftY%7tY%8tY%9tY%AtY%CtY%DtY
  %EtY%FtY%GtY%HtY%ItY%JtY%KtY%LtY%MtY%NtY&fta020+1N022w1602m6m4020+1N022w1702m6m4020+1N022w000001
  0B042Q0S%j8|%lxI!imU!)8|!,mP$8mP$emW$fmX$gmY$hmY$imY$jmZ$kma$lmb$mmc$nmc$omU$pmU$qmd$rc!$smP$tmf
  $umf$vmf$wmf$xmP$ymg$zmP001C013,001803%j90!)90%z91000001!m92000000010B052g028|%j90010.2u0001!f93
  000006!j94k>k?!f94%u94&y94000001!r95000000010;0C4C02!q96)797000001!n98010Q0G0000010B192u04!pi+&Z
  99&+9A(<9B000002!i9C!f9D000001!f9E002+01&f9F00000001092a2g00010l2a0001!f9G002g00010l2u2w0*!iUA!p
  he!shf!yUB!(p@$5hgbjbk$Mp^$jUC$lUD$mhh$nhh$$UE$.hi$@UF!fUG%0UH%2UF%3UF%4UF%5UF%8UI%BUJ%IUE%JUE%K
  UE%LUE%MUE%NUE%Ow$%bhj%dUK%ehk%fUE%gUE%hhe%whl&Rp|&yUF&,hm(KUL(aUM(bUN(e9H(kUO(lUP(nUB(oUO(pUB(q
  UB(xUB(yUB(zUB($UB(%UQ(&UB((UB()UB(*UB(,UB(<q1(|UB)0UB)1UO)2UB)3UB)4UO000001!m9I000001!f9J000000
  010<400001!m9K010H411801%z9L001N03%j9M!)9M%&9N001N03%j9O!)9O%&9P004B07!j9S!k9Q!n9R4a%u9S&y9S(09T
  010Q400001!r9U000000010I0Z4X01!n00000000020>0K0Q410001!n9V004Y02!q9W)89X000000010Q0d000001092?00
  03!f9Y%R9Z&R9a001N03%j9b!)9b%&9c000000010B0N0002!p9d&I9e000002%j9f!)9f0000041E1G%!9g%$9g00000001
  0B0O0002%j9O!)9O000001!f9h000000010L4p0001!f9i000901&F9j00000002091S0S1X1w01!r9k001x01!r9l000000
  010?3S3Z0l!hsn!ksn!osq!sr,!xsn!zr,!+r.$4x2$Iso$Msp$Ns5$mr,$nr,$!r,$$r,$%r,$&x3$(x3!fsn$^r;%5x4%7
  sn%8sn%9sn%Asn%Csn%Dsn%Esn%Fsn%Gsn%Hsn%Isn%Jsn%Ksn%Lsn%Msn%Nsn&Ex5&F9m&Jw|&Nw|&fr<&lx5&mx5&or>&r
  w|(1x5001s03%B9n&f9o$000000901&F9p000001!m9q020U3S0QP26p6s4w0d!hTv!kTv!oTw!pk_5e!xTv$5k>$6O)$ITy
  $MTz28!fTv%5T!%7Tv%8Tv%9Tv%ATv%CTv%DTv%ETv%FTv%GTv%HTv%ITv%JTv%KTv%LTv%MTv%NTv&Jwn2j&Nwn&lT$&mT$
  &rwn2l2K(1T$2n001V044>9p%957%A57020U3S0QP26p6s1t029p%74v020U3S0QP26p6s4$0154020U3S0QP26p6s1V019p
  020U3S0QP26p6s4z00030U3S0V4<0QP26p6s4z00030U3S0V4>0QP26p6s0000010Q6t0001!m9r000000010Q6q0000010@
  0w2j01$69s002%00010^3S1V05$@9t$^9t&y9t&^9t&_9t004?017L010^3S2400040a1N0_P21N3B022w0|3B2500040a1N
  0_P21N3B022w0|3B2700040a1N0_P21N3B022w0|3B2800030e1N0_P21N3B022w2B00020a1N0_P21N3B2j03!q00$600)D
  00016k2z2B00040a1N0_P21N3B022w0|3B2B0001103B4?03!i9u%99v%A9v010^3S5501$I9w010^3S4?00010^3S000002
  0^3S0V4>5601%89x001;0T!h9y!k9y!o9y!x9y$I9y$M9y!f9y%79y%89y%99y%A9y%C9y%D9y%E9y%F9y%G9y%H9y%I9y%J
  9y%K9y%L9y%M9y%N9y&L4+&<4+&@4+!q00!r00)C00010Q6r000001111Y1x01!r9z000901&F9!001V0Z!h9$1U!k9$!o9$
  !x9$$I9%$M9$7?$@9,!f9$$^9,%79&%89(%99)%A9)%C9$%D9*%E9*%F9*%G9+%H9$%I9$%J9$%K9$%L9$%M9$%N9$&s4.&y
  9,&>4.&?4.&^9,&_9,1s1t010Q6o000001091T1w01!r9.002h0528&F9;&K9<&;9>&s00002*02&f9?!f00000M01%.9@00
  590257(S9^010^3S0001%j9_010@0w00025D5L010QJC0002595M010QJF4z041X4r4s4t010U3S000002091R0S1W4$041X
  4r4s4t010U3S4%041X4r4s4t010U3S5Q0154010U3S4(041X4r4s4t010U3S5O00020U3S0V4<5O00020U3S0V4>2u042r&Z
  9|&+A0(<A1002(02!iA2!fA3002*01!fA4005I01&fA5003.01!fA6000000010B0|1p039p!rA7)Cd4010|3S000001121W
  0001$0A8002N04Na%8Nz6O6Q010m6w000001121h0901&FA90000025i(ZAA004P03(aP@(bP^(eP|000000010Z0r00025g
  &qAB010Z0s0000010B0m0B01%,AC001?03%jAD!)AD)9AE000000010B0o5o02%jAF!)AF003Q01(OAG000002!!AH%;AI01
  0*0z0006!jAJ!rAK$1AL&AAM&BAM)AAM000000010B0$2402!,AN!.AN02131N022w2502!,AN!.AN02131N022w0B04!fAO
  &JAP&NAP&rAP005v071;1.!fAQ1@&JAR&NAR&rAR02141N022w1004AP&JAR&NAR&rAR002702!,AN!.AN02131N022w2802
  !,AN!.AN02151N022w5v01$K0001131N1,040H&7AS&FAT&xAU005%0002131N022w5203!)AVO9OO005%00000001AU000a
  0Z!ht$!kt$!ot%j?!wAW!xAX!yAYj.$It&$Mmy!ft$%5t(%7t$%8t$%9t$%At$%Ct$%Dt$%Et$%Ft$%Gt$%Ht$%It$%Jt$%K
  t$%Lt$%Mt$%Nt$&Et*&Jt+&Nt+&lt*&mt*&rt+(1t*001101%(AZ000000010B0*0000020a1N0h540000010h540000010%
  1K0001!*Aa002&04!*Ab&gAc(TAc(UAc000000010d360003!qAdAa)NAe002C04!mojoh%0Af&;Ag030a1N022w0h3A2N03
  Ae%8AhAf000004O)dC&qAi(ZAj010j4|0000010j4@0002O)&qAk010j4^0W05!pcU!fAl&ZAm&+An(<Ao000000020a1N0h
  546002%0Ap&;Aq030a1N022w0h3A0000010h542M04Ao%8ArAp(SAs002N03AoAqAp001+01$HdA02166j17J50000010B0<
  0002!(mG&EAt001Z00010@0v0M02!(Au%.Av000M01%.Aw0000026F&DAx010B0^0000010B0^0000010B110000010B1300
  00010B160000010B172g00010l1Q520001186v0000010m6x000001186v00016W010m6x1,047?6N6P&x0001186u000001
  091f2n01$6Ay00000001111i2o01$6Az001,02&FA!&x000000026R6X0118JH00025e6Y010mJJ0000010n2+2q01$D0001
  19JO2r01$E00011AJP1V05$@A$$^A$&yA$&^A$&_A$000000011B334w0P!hA%!kA%!oA&!xA%$IA($MA)!fA*%7A%%8A%%9
  A%%AA%%CA%%DA%%EA%%FA%%GA%%HA%%IA%%JA%%KA%%LA%%MA%%NA%&FeR(!A+006d03!iA,%9A.%AA.011C3S0001%8A;00
  3?0X!hOfA+!kOf!oOf!pj^!xOf$5mr$IA<$MOf$@A@!fOf$^A@%7Of%8A>%9QU%AQU%COf%DOf%EOf%FOfOr%HOf%IOf%JOf
  %KOf%LOf%MOf%NOf%.A?&yA@&^A@&_A@(SA^011C3S6i07$5A_%8Of%GOf%OA|!p00%.00(S00011C3S6d00011C3S6j0Kmq
  $IOf$@B3$^B3%7B0%8B1%9Of%AOf%D6m%E6m%F6mOr%OB2%PA|&yB3&^B3&_B3(RB4(SB2!i00011C3S0000021D3S1E4<6i
  0D!iB5$IOf$@B8$^B8%8B6%9B7%AB7&yB8&^B8&_B8(SB9!p00%.00006j0BmqOe$@B3$^B3%9Of%AOf&yB3&^B3&_B3!i00
  %O00000002!)BA%jBA011FJS2+075g!zBB5i%BBC&fBD&qBE(ZBF010Z3V6p01!qBA006r01%oBA006j08mq%7BG%8BH%CBI
  Or%OBJA_A@006j03mqA<%O00006l0K!itT$IBK$@BS$^BSbp%7BL%8BM%9BN%ABN%CBO%OBP%PBQ&yBSNh&>BR&^BS&_BS(R
  BT(SBU)6OW00"

end Automaton
end TypeScript
end ServiceCapsule
