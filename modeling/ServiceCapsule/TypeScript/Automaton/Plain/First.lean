/-!
# States 0 to 495

States of the automaton of the grammar without markup, packed two letters a number. How they are
laid out is said beside the function that unpacks them.
-/

namespace ServiceCapsule
namespace TypeScript
namespace Automaton

def plainFirst : String := "
  000000001<!g03!h04!k05!l06!o07!p08!s09!u0A!w0B!x0C!y0D!z09!$0E!%0F!&0G!(0H!)0I!+0J!;0K!<0L!>0M!?
  0N!@0O!^0P!_0Q!|0R$40S$50T$D0U$E0V$H0W$I0X$J0Y$M0Z$N0a$m09$n09$o0b$r0c$!09$$09$%09$&0d$(0d$.0e$@
  0f!f0g$^0h%00f%10f%20f%30f%40f%50i%60j%70g%80g%90g%A0g%C0k%D0g%E0g%F0g%G0g%H0l%I0g%J0g%K0g%L0g%M
  0g%N0g%O0m%V0n%W0o%p0p%q0q%v0q%w0r%x0q%(0+%)0q%*0s%+0s%.0q%<0q%>0q%?0q%@0q%_0q%|0q&00q&10q&20q&3
  0q&40q&50q&60q&70q&80q&E0t&F0u&G0v&H0w&I0f&J0!&M0f&N0!&X0f&Y0s&a0f&b0s&c0f&d0s&e0f&f0x&i0f&j0y&k
  0w&l0t&m0t&n0w&o0z&p0w&r0!&t0w&u0w&v0w&w0w&x0$&y0f&z0f&$0f&%0f&(0%&,0&(10t(40s(60w(70w(80w(90w(E
  0s(F0s(G0s(H0((J0s(L0s(N0s(Q0s(+0)(<0*)50+)60,0100000204%(0.)50.!g00%p00010001000f!i0;!n0^!j0<!k
  0>!l0?!m0@!o0_!p0|0A!x100C$011$H12$I13$J14$K150i%C16%H170l0m0n%r18%s19%v1A%*0s%+0s&Y0s&b0s&d0s0$
  (40s(E0s(F0s(G0s(H1B(J0s(L0s(N0s(Q0s)61C02011N022w0004!m1D1014!f1E02031N022w000E$A1J!i1F!k1G!p1H
  !s1I$DaD$EaE!f1K%y1L%!1M%$1M&y1N(01O(A1P01040M0506$DfO$EfP!f1Q&R1R&y1S(I1T02031N022w030m!h1U!i1V
  !k1W!o1X!q1Y!r1Z!x1a$51b$I1c$M1d$d1e$@1f!f1g$^1h%71i%81j%91k%A1k%C1l%D1m%E1m%F1m%G1n%H1o%I1g%J1g
  %K1g%L1g%M1g%N1g%(1v&J1q&L1p&N1q&r1q&s1r&y1f&<1p&>1r&?1r&@1p&^1s&_1s(R1t(S1u)51v)B1w)C1x00001H!h
  1y!k1y!l1z!o1!!p1$!s09!x1y!z090G0I0R0S0T0U$H1%$I1&$J1($M1)0Z$m09$n090a0b$!09$$09$%09$&0d$(0d0d$@
  0f!f1y0g%00f%10f%20f%30f%40f0h0i%71y%81y%91y%A1y%C1y%D1y%E1y%F1y%G1y%H1y%I1y%J1y%K1y%L1y%M1y%N1y
  0q&E0t&F1*0u&H0w&I0f&J0!&M0f&N0!&X0f&a0f&c0f&e0f0w&i0f0x&k0w&l0t&m0t&n0w0y&p0w&r0!&t0w&u0w&v0w&w
  0w&y0f&z0f&$0f&%0f0$0%(10t(60w(70w(80w(90w(H0w0(0))61+000002!(1,&E1.000007!p1;$51<!f1>%,1?&J1@&N
  1@&r1@000B041C1014%,1^02051N022w0B02%W1_1@000A01&E1|000A01&E20000003!(21!+22%^2300091N!h24!k24!l
  aq!o25!par!saA!x24!zaA!(k!!*26!+aB$4Mp$5aC$DhJ$EhK$Has$I27$Jl8$M28$Nk)$d29$maA$naA$ok*$!aA$$aA$%
  aA$&Mq$(Mq$.aF$@Mr!f24$^aG%02A%1Mr%2Mr%3Mr%4Mr%52B%724%82C%924%A24%C24%D2D%E2D%F2D%G2E%H24%I24%J
  24%K24%L24%M24%N24%waJ&EMu&F2F&GMv&HMw&IMr&J2I&MMr&N2I&XMr&aMr&cMr&eMr&faL&g2G&iMr&jMx&kMw&l2H&m
  2H&nMw&oaM&pMw&r2I&tMw&uMw&vMw&wMw&x2J&yMr&zMr&$Mr&%Mr&;2K&<2L(12H(6Mw(7Mw(8Mw(9Mw(HMw(R2M(S2N(T
  2G(U2G(V2O(+M$)62P0000000106180901&F2Q000A01&E2R00030Y!hks!kkt!oa8!pa9!uku!xkw!$ky!&kz!;k$$Hk%$I
  k&$Js_$Mk(!fk,%7k,%8k,%9k,%Ak,%Ck.%Dk,%Ek,%Fk,%Gk,%Hk;%Ik,%Jk,%Kk,%Lk,%Mk,%Nk,%(2S(HM!)6k@)50000
  0002!p2T%.2U000003%j2V!)2V!f2W000003%j2X!)2X!f2Y000002%j2Z!)2Z000904%j2a!)2a&F2b&x2c000902&F2d&x
  2e000902!i2f&F2g01071O0H0(!htD!ktD!otE!q2h!so9!xtD!zo9!+oA$4uU$62i$ItF$MtG$NoS1d$mo9$no9$!o9$$o9
  $%o9$&uV$(uV!ftD$^oB%0Mr%5tH%7tD%8tD%9tD%AtD%CtD%DtD%EtD%FtD%GtD%HtD%ItD%JtD%KtD%LtD%MtD%NtD&EuX
  &F2j&JtJ&K2k&NtJ&foC&ltI&mtI&ooD&rtJ&s2l&;2m(1tI(+ne)6lB)D2n)E2o!*00&g00&x00(R00(S00(T00(U00(V00
  000004$D2p$)2q$+2q)J2q000004$E2p$*2r$+2r)K2r00000A!p2s$r2t!f2u%S2v%T2w&Z2x&+2y(B2z(D2!(<2$00050T
  !(2&2s!h2%!k2%!o2%!x2%$I2%$J2($M2%!f2%%72%%82%%92%%A2%%C2%%D2%%E2%%F2%%G2%%H2%%I2%%J2%%K2%%L2%%M
  2%%N2%&f2)0%0)02031N022w0007!i2*2%2s!f2+&f2,0%0)00090(!zpn$A2.$mpn$npn$&nd$(nd!hM<!kM<1C!oM>!spn
  !xM<!+po10$4nc$IM?14$MM@$Np($!pn$$pn$%pn!fM<$^pp%5aH%7M<%8M<%9M<%AM<%CM<%DM<%EM<%FM<%GM<%HM<%IM<
  %JM<%KM<%LM<%MM<%NM<&EaK&F2;&G2<&HMw&JaN&NaN&je$&kMw&laK&maK&nMw&opr&pMw&raN&tMw&uMw&vMw&wMw(1aK
  (6Mw(7Mw(8Mw(9Mw(HMw(+p502081N022w0T0v!h2>!k2>!o2?!spn!x2>!zpnpnnb$I2@$M2^p&$mpn$npn$!pn$$pn$%pn
  $&nd$(nd!f2>po%52_%72>%82>%92>%A2>%C2>%D2>%E2>%F2>%G2>%H2>%I2>%J2>%K2>%L2>%M2>%N2>&E2|&Fb3&J30&N
  30&fpq&l2|&m2|pq&r30(12|p4!q00$600$d00&K00&s00&;00&<00)D00)E00000001$>3100000.!i32!l33!p34!s35!y
  36!(37$538$Dil$Eim$M39$j3A$l3B$m3C$n3C2s$$3D$.3E$@3F!f3G%03H%23F%33F%43F%53F%83I%B3J%I3D%J3D%K3D
  %L3D%M3D%N3D%O3K%b3L%d3M%e3N%f3D%g3D%h34%w3O&R3P&y3F&,3Q(K3R(a3S(b3T(e3U(k3V(l3W(n3X(o3V(p3X(q3X
  (x3X(y3X(z3X($3X(%3Y(&3X((3X()3X(*3X(,3X(<3Z(>3a(|3X)03X)13V)23X)33X)43V000901&F3b000006%k3e$+3e
  $.3c$;3d&!3e)L3e00000001091N0501!f0002031N022w0001!,3f0000011C010A1N0005!(3g!f3h&)3h&*3i(53i0004
  0C!k3j!l3k1C%H3l%U3m%v3n!i00!n00!j00!p00%r00%s0002031N022w0506ikil!fM*&RM+&yM,(I3o02031N022w0001
  $H3p000001!f3q000001!f3r0000000100760000010B0k0007!(3s$A3t$L3u$r3v&h3w&&3x(+3y000000010B0L0i0002
  0A1N022w0r0c!)3z%j3z%l3!!i3$!n3%!q3&!z3(3e$53)$83f$e3*$f3+$g3,$h3,$i3,$j3.$k3;$l3<$m3>$n3>$o3$$p
  3$$q3?$r3@$s3f$t3^$u3^$v3^$w3^$x3f$y3_$z3f$&3|$(3|%Q40&h41(+42)I430000063(3s$L440d40&z45010C1M00
  0001091M0001$K460000020d44010D1M000F$O47$P47$Q47$R47$S47$T47$U47$V47$W47$X47$Y47$Z47$a47$b47$c47
  000i000000023y!)3z000000010E6i0004$048(Z49(d49(s49010F2e0000020B0L0G1M0901&F4A0000022%&,4B000302
  %(4C)54C0100010006!h4D$H4E0i%O4F0$)64G000+000100020003!n4H!t4I%z4J00090;!hl5!k4K!l4L!oSx!ss?0A!x
  4M0C!zs?!+s@$4s^0V$I4N0X$Ml9$Nv?$ms?$ns?$!s?$$s?$%s?$&s|$(s|!fl5$^t0%5t1%7l5%8l5%9l5%Al5%C4O%Dl5
  %El5%Fl5%Gl5%H4P%Il5%Jl5%Kl5%Ll5%Ml5%Nl50l0m0n%v4Q%*0s%+0s&Et3&F4R&Jt6&Nt6&Y0s&b0s&d0s&ft4&lt3&m
  t3&ot5&rt6(1t3(40s(E0s(F0s(G0s0&(J0s(L0s(N0s(Q0s(+k?)64S0000030_1D%s4T0000033j!f4U(J4V000901&F4W
  000001!o4X000006ikilM)M*M+(IM.00000B!j4c!k4Y!q4Z!r4a!s4Y$Dj<$Ej>!f4c%t4b%u4c&y4c000B011@000302%(
  4d)500000001!f4e000001$J4f000002!i4g!f4h000903!pfM%.4i&F4j000k03!m00$000$K00000_013n0000024H4I00
  1802%j4V!)4V000000010B030000010B0L0,02$H4k!h00000901&F4l000003!m4m2s(<4n000001!n4o000607!k4p!f4q
  %y4r&y4s(A4t$A00!s00010H40000C!j4z!k4u!q4v!r4w!s4xj;j<!f4y%u4z%%4!&y4z(04$001G00000001$|4%000001
  !m4&010H411801%z4(000000010I0V0005%j4)!u4*!v4*!)4)%&4+000001!q4,010I0V1N03%j4.!)4.%&4;000003!pa(
  $A4<%.4>010J4o1Q01$A4?010J4o0002a&4<010K4o0000010L4n0404!m4@!r4^)B4_)C4|040M1N0NP21N3S022w0O3S00
  0V!h50!k50!o50!x50$551ikil$I50$M50$@52!f50$^52%750%850%950%A50%C50%D50%E50%F50%G50%H50%I50%J50%K
  50%L50%M50%N50&y52&^52&_52000504!m534@4^4_040P1N0NP21N3S022w0O3S0704524@4^4_040P1N0NP21N3S022w0O
  3S1V0h!h541U!k54!o54!pau!x54$555$I56$M541d$@1s!f54$^1s%757%858%959%A59%C54%D5A%E5A%F5A%G5B%H54%I
  54%J54%K54%L54%M54%N54&J5D&L5C&N5D&r5D&s5E&y1s&<5C&>5E&?5E&@5C&^1s&_1s1s1t010QP26o6r0001%j5F030B
  0v0R1R0S1W0C04524@4^4_040T1N0NP21N3S022w0O3S0T01&F5G001V0a!i5I2%2s10!h5H!k5H52!o5H4@!x5H$I5H2&14
  $M5H!f5H%75H%85H%95J%A5J%C5H%D5H%E5H%F5H%G5H%H5H%I5H%J5H%K5H%L5H%M5H%N5H2(0%0)4^4_040P1N0NP21N3S
  022w0O3S0Z04524@4^4_03081N022w0O3S0T0e!h5K!k5K!o5L!x5K$I5M$M5N!f5K%55O%75K%85K%95K%A5K%C5K%D5K%E
  5K%F5K%G5K%H5K%I5K%J5K%K5K%L5K%M5K%N5K&F5P&J5R&N5R&l5Q&m5Q&r5R(15Q!q00$600$d00&K00&s00&;00&<00)D
  00)E00000000030P1N0NP21N3T0O3T1W01!f00040P1N0NP21N3S022w0O3S0h00010U3T1V0D5H10524@$I5S14%85T%95U
  %A5U%G5V(S5W4^4_040P1N0NP21N3S022w0O3S1i03%850%G50(S00040P1N0NP21N3S022w0O3S1V0610524@144^4_040P
  1N0NP21N3S022w0O3S0k04524@4^4_040P1N0NP21N3S022w0O3S1g00050V4<0W1N0NP21N3S022w0O3S1g00050V4>0W1N
  0NP21N3S022w0O3S0l04524@4^4_040P1N0NP21N3S022w0O3S0003!q5X!r5Y)C5Z000001!m5a000003!q5b!r5c)B5d00
  0*06$05e2s%B5f&f5g0%0)001V085H5R%75h5S%95U%A5U5U5V001t03%750%G50(S00000+01!r5i001r01)B5j001p01)C
  5k000i0114020A1N022w00011I01040M1y060T0U!fSr&RSs&ySt(ISu020A1N022w1Y0X!h5l!k5l!o5l1X!r5m!x5l$I5n
  $M5l!f5l%75o%85p%95q%A5q%C5l%D5r%E5r%F5r%G5s%H5l%I5l%J5l%K5l%L5l%M5l%N5l&L1p&s1r&<1p&>1r&?1r&@1p
  1v1w000W01!f5t000X02$J5u$000020A1N022w0Y02!i5v!f5w000Z01$000020X1N022w0r063(3?$&3|$(3|4041010Y2%
  1C02$H5x%O00000H0k!hSw!kSw!oVL!pfj!xSw$5fN$ISy$MSz!fSwMq%5Ms%7Sw%8Sw%9Sw%ASw%CSw%DSw%ESw%FSw%GSw
  %HSw%ISw%JSw%KSw%LSw%MSw%NSw&Fa!&JoE&NoE&lMu&mMu&roE&xa%(1MulA!*00$d00&g00&;00&<00(R00(S00(T00(U
  00(V00001101%(5y001V0e!h5z!k5z!o5zat5W!r5!!x5z54$I5z$M5z28$@5$!f5z$^5$%75z%85z%95z%A5z%C5z%D5z%E
  5z%F5z%G5z%H5z%I5z%J5z%K5z%L5z%M5z%N5z&J5D&Lal&N5D&r5D&y5$&<al&@al&^5$&_5$)Cap000a0e!hM_!kM_!oM|
  !phM!q5%!xM_$5hI$65&$IN1$MN228!fM_%5N4%7M_%8M_%9M_%AM_%CM_%DM_%EM_%FM_%GM_%HM_%IM_%JM_%KM_%LM_%M
  M_%NM_&Evl&JvQ&Ka*&NvQ&lN8&mN8&rvQ&;a,2K(1N8)Ea;000005!m5(!z5)$05*&q5+(Z5,010Z0q0004%j5.!q5;!)5.
  )95<001>01!z00010Z0q1?03%j5>!)5>)95?000001!f5@001101%(5^000002!p5_&95|001e0f!h60!k60!o61!pio!w62
  !x63!y640H$5ik$I65$M66!f60%567%760%860%960%A60%C60%D60%E60%F60%G60%H60%I60%J60%K60%L60%M60%N60%*
  68%+68&768&E69&F6A&J6B&N6B&l69&m69&r6B&x6C(169000002!(6D%^6E001101%(6F000002!mM)$KM%040a1N0bP21N
  3A022w0c3A2406hIhJ!fVG&RVH&yVI(IVJ040a1N0bP21N3A022w0c3A0000010d351&0RM(!ha|!ka|!oa|!xa|$Ia|$Jlz
  M$$Ma|!fa|%7a|%8a|%9a|%Aa|%Ca|%Da|%Ea|%Fa|%Ga|%Ha|%Ia|%Ja|%Ka|%La|%Ma|%Na|&fb0040a1N0bP21N3A022w
  0c3A0a0cfM$Ab2M(!ho4!ko4!oo8fi!xo4$Io5M$$Mo6!fo4%5uW%7o4%8o4%9o4%Ao4%Co4%Do4%Eo4%Fo4%Go4%Ho4%Io4
  %Jo4%Ko4%Lo4%Mo4%No4vk&GNG&JaN&NaNaK&lvl&mvl&raN(1vl040e1N0bP21N3A022w0c3A0a0X!hN|!kN|!oO0hL!xN|
  hH$IO1$MO2!fN|%5O3%7N|%8N|%9N|%AN|%CN|%DN|%EN|%FN|%GN|%HN|%IN|%JN|%KN|%LN|%MN|%NN|&Evl&Jtu&Ntu&l
  O4&mO4&rtu(1O4000000030a1N0bP21N530c530001M(030a1N0bP21N3A0c3A1<08M(M$%06G&;6H!q00$600&K00)E0004
  0a1N0bP21N3A022w0c3A2400050f1N0bP21N3A0g4<022w0c3A2400050f1N0bP21N3A0g4>022w0c3A0r0g!*6I%llX!iNf
  !nbc!qNg!zNh!(bX!,NZ$0OM$5lZ$8NZ$AbY$eNi$fNj$gNk$hNk$iNk$jNl$kNm$lNn$mNo$nNo$oNf$pNf$qNp$rNq$sNZ
  $tNr$uNr$vNr$wNr$xNZ$yNs$zNZ$&Nt$(Nt%Qbe&hbf&&Ne(Z6J(+Nu)INv000003!q6K!*6L)N6M002B00040a1N0bP21N
  3A022w0c3A2B00010h3A00016H000000010h530000010i3A2C05%86N%GN7(S6O!m00$K00002M02%GM_(S00000005!mOL
  OL%B6P&q6Q(Z6R010j4?2M0A$H6S%06T%86U%DN6%EN6%FN6&;6V(R6W(S6X)66Y001*033$3&3|010k2p1101%(6Z000001
  !;6a000303!r6b%(1v)51v000004$26c$36d&C6e&D6f010B0@0000010B100002%j6g!)6g000000010B120002%j6h!)6h
  000000010B140000010B150u02!)6i%j6i0000026h!)6i000u02!)6j%j6j0000026i!)6j000901&F6k000u04!)00%j00
  !q00)I00010l1P0T08&F6l&K6m&s6n&;6o!q00$600)D00)E00010mP26u6w000002091e0S1h2F0X%lok!inr!q6p!,nq$6
  6q$8nq$ent$fnu$gnv$hnv$inv$jnw$knx$lny$mnz$nnz$onr$pnr$qn!$re%$snq$tn$$un$$vn$$wn$$xnq$yn%$znq)D
  6r!*00$000(Z00)I000000035$$66s)E6t0000036o6p6q002k01!m6u002l01)D6v002k01)E6w000000010n2*0004$D6x
  $)6y$+6y)J6y000004$E6x$*6z$+6z)K6z00000o!hN>!i6!!kN>!oN>!r6$!xN>!)71$56%aCaD$I6&$MN>$m6($n6($@6?
  !fN>$^6?%6aI%76)%86*%96+%A6+%C6,%D6.%E6.%F6.%GO7%HN>%IN>%JN>%KN>%LN>%MN>%NN>%O6;%P6<&y6?&(My&.71
  &>6>&^6?&_6?&|6@(26^(36@(R6_(S6|(_6@)670)M71000003!y72!f733Z000W05!pfq&Z74&+75(<76!f00000a0q!hrD
  !krD!orHfi!sqW!xrD!zqW!+qX$4vifM$IrE$MrF$Nqm$mqW$nqW$ooT$!qW$$qW$%qW$&vj$(vj!frD$^qY%5vv%7rD%8rD
  %9rD%ArD%CrD%DrD%ErD%FrD%GrD%HrD%IrD%JrD%KrD%LrD%MrD%NrD&Evw&F77&Jvp&Nvp&fqZ&lvw&mvw&oqa&rvp(1vw
  (C78(+p|000c04!y3X!f79(e7A(>000000022r&+7B00000001091@00022v(D7C010o2I0000010o2I2x062u2v&Z7D&+7E
  2y2z000001$K7F002P0C25ar%0N3%8N5&g2G2J2L2M(T2G(U2G2N2O000Y03!i7G!f7H&f7I000001$K7J000Y03!f7K&f7L
  !i00000005!(NF2s&f7M&,Mz(<aO000002!pfn%.7N000001$_4%002Q0V%lp;!ipIbb!,pH$8pH$epJ$fpK$gpL$hpL$ipL
  $jpM$kpN$lpO$mpP$npP$opI$ppI$qpQ$rg;$spH$tpR$upR$vpR$wpR$xpH$ypS$zpH$&Nt$(Ntbd(+e&000v043r$rbZ&&
  7O(+7P010p2m0002!m7Q$Kp6020a1N022w25027Pp5020a1N022w270Q!hps!kps7P!ops!xps$Ipsp5$Mps!fps%7ps%8ps
  %9ps%Aps%Cps%Dps%Eps%Fps%Gps%Hps%Ips%Jps%Kps%Lps%Mps%Nps&fpt020a1N022w280SaB!hr$!kr$7P!or)aq!xr$
  $Ir%p5$Mr&!fr$%7r$%8r$%9r$%Ar$%Cr$%Dr$%Er$%Fr$%Gr$%Hr$%Ir$%Jr$%Kr$%Lr$%Mr$%Nr$pp020e1N022w00017P
  010a1N2_00020a1N022w2_00000001$<7R000000010q5q0000010r0M2s0f!h7S!i7T!q7U!r7V!(S.!)7U$I7W$M7X2s$@
  7e$^7e0i%77Y%87Z%97a%A7a%CN>%O7b%i7V%q7c&f7d&y7e0$&,Sp&^7e&_7e(27c(R7f(S7g(.7c(;7c(<fQ(^7c(_7c)6
  7h%P00&.00&>00&|00(300)M0000000832!f7i%07j%w7k(t7l(u7m(v7n(w7o000001!f7p010s5Q2&0(31!p7q!s7r3W!(
  7s$57t$M7u393A$m7v$n7v$$7w$.7x$@7y!f7z%07!%27y%37y%47y%57$%87%3I%I7&%J7&%K7&%L7&%M7&%N7&3J3K3L3M
  %f3D%g3D33%w7(3O&y7y&,7)3Q3R3S(e7*(k3V3V(n3X(o3V(p3X(q3X(x3X(y3X(z3X($3X3X(&3X((3X()3X(*3X(,3X(<
  7+(|3X)03X)13V)23X)33X)43V002w0N!q7,$67.$Mv_$d7;$jtY$ltZ!f7<%8ta%Btb%OwN%bw0%dte%wlN&,tf&<7>(alR
  (e7?(f7@(g7@(h7@(i7@(j7@(<w1000*032s&,7^(<7_002w01(e7|002w01(e80000001$@81000000010t5t0005%k84$.
  82$;83(m84)T84000000010q5o0008%S86!m85$086$A873u(+88(?89(@8A020uP25R690v5R0000010q5S2w01(e8B002w
  02(e8C(l8D000001$M8E000001!f8F003J01(l8G000001%M8H000003!(f&$A8I&&8J000001$A8K000001$K8L0000023u
  (+8M010w5Q3O02$A8N&&8O010x5H0001$A8P010q5H0006!q8Q$88R$j8S$l8T%S8U)Q8V000000010q5H0001$58W010y5H
  0000010q5Q0000010q5o0*01&,8X000003!q8Y$88Z)V8a000r043(3?4041010z2&000001092,1e0Y!hpi!kpi!opmfi!x
  pifM$Ipj$Mpk!fpi%5vk%7pi%8pi%9pi%Api%Cpi%Dpi%Epi%Fpi%Gpi%Hpi%Ipi%Jpi%Kpi%Lpi%Mpi%Npi&F8b&Juc&Nuc
  &luX&muX&ruc&x8c(1uX000e05%k8e$+8e$.8d&!8e)L8e000901&F8f000003!f8g&)8g&*8h003O04$A8i3u&&8j(+8k01
  0!2|0000010E2|00011D0000014T001701$A8l000M01%.8m000000010B4d0000010B4m0001!f8n000007!p34$rlI%S8o
  %h34(M8p(,8q(<8r000002!p8s(O8t001,07!ql*!*8u$d8v&F8w&s8x)D8y&x00000002!f8z$^8!000000010$2i2w013T
  000002!f8$$^8%00000001092j00023r&&8&000000010B0l0a0o!hsT!ksT!osXfi!srI!xsT!zrI!+rJ$4vtfM$IsU$MsV
  $NrY$mrI$nrI$!rI$$rI$%rI$&vu$(vu!fsT$^rK%5v)%7sT%8sT%9sT%AsT%CsT%DsT%EsT%FsT%GsT%HsT%IsT%JsT%KsT
  %LsT%MsT%NsT&Ev*&F8(&Jv!&Nv!&frL&lv*&mv*&orM&rv!(1v*(+q&000901&F8)002w0*!iNH!pbC!sbD!y8*!(lL$5bE
  0T0U$MlM$jNI$lNJ$mbH$nbH$$NK$.bI$@NL!fOY%0NM%2NL%3NL%4NL%5NL%8NN%BNO%INK%JNK%KNK%LNK%MNK%NNK%Otc
  %bbL%dNP%ebN%fNK%gNK%hbC%wbO&RlO&yNL&,bP(KNQ(aNR(bNS(e8+(kNT(lNU(nNV(oNT(pNV(qNV(xNV(yNV(zNV($NV
  (%NW(&NV((NV()NV(*NV(,NV(<lS(|NV)0NV)1NT)2NV)3NV)4NT000901&F8,000000010%423d02&F8.&x8;000901&F8<
  000901&F8>000901&F8?000901&F8@000901&F8^000901&F8_000901&F8|000901&F90003f0(31!pc9!sOq!y3X!(cB$5
  cC$M91393A$mOs$nOs$$Ot$.cE$@Ou!f92%093%2Ou%3Ou%4Ou%594%8953I%I96%J96%K96%L96%M96%N963J3K3L3M%f3D
  %g3D33%wcF3O&yOu7(3Q3R3S(ebQ(k3V3V(n3X(o3V(p3X(q3X(x3X(y3X(z3X($3X3X(&3X((3X()3X(*3X(,3X7*(|3X)0
  3X)13V)23X)33X)43V000901&F97000901&F9800000001092(3%02!yNV(e99003w01$59A003y00010&4V00023%)I9B01
  0(2)3R033r&&9C(+9D010$2i000001092j1502%.9E&F9F000901&F9G002w09!f9H%09I%a9J(a9K(b9L(c9M(e9N(r9O(*
  9P000000010F2f3y043?403w41010)4S0&03(Z9Q(d9Q(s9Q010F2g0+00010*J31604!j9R16%v9S%U00000W04!f9T&Z9U
  &+9V(<9W000001$H9X001+01$H00010EJ50006!j9Yikil!f9Y%u9Y&y9Y000003aCaD&y9Z000002%j9a!)9a003j02!ml3
  $Kl1020+1N022w1z014T01040M1002l2l0020,1N022w1&0R!htM!ktMl2!otM!xtM$ItM2&l0$MtM!ftM%7tM%8tM%9tM%A
  tM%CtM%DtM%EtM%FtM%GtM%HtM%ItM%JtM%KtM%LtM%MtM%NtM&ftO020+1N022w1602l2l0020+1N022w1702l2l0020+1N
  022w0000010B042Q0S%j9b%lw3!ilY!)9b!,lU$8lU$ela$flb$glc$hlc$ilc$jld$kle$llf$mlg$nlg$olY$plY$qlh$r
  bd$slU$tlj$ulj$vlj$wlj$xlU$ylk$zlU001C014D001803%j9c!)9c%z9d000001!m9e000000010B052g029b%j9c010.
  2u0001!f9f000006!j9gj;j<!f9g%u9g&y9g000001!r9h000000010;0C4Z02!q9i)79j000001!n9k010Q0G0000010B19
  2u04!phS&Z9l&+9m(<9n000002!i9o!f9p000001!f9q002+01&f9r00000001092a2g00010l2a0001!f9s002g00010l2u
  2w0*!iS;!pft!sfu!yT6!(od$5fvaCaD$Moe$jS<$lS>$mfw$nfw$$S?$.fx$@S@!fTT%0S^%2S@%3S@%4S@%5S@%8S_%BS|
  %IS?%JS?%KS?%LS?%MS?%NS?%Ovc%bfy%dT0%efz%fS?%gS?%hft%wf!&Rog&yS@&,f$(KT1(aT2(bT3(e9t(kT4(lT5(nT6
  (oT4(pT6(qT6(xT6(yT6(zT6($T6(%T7(&T6((T6()T6(*T6(,T6(<oi(|T6)0T6)1T4)2T6)3T6)4T4000001!m9u000001
  !f9v000000010<400001!m9w010H411801%z9x001N03%j9y!)9y%&9z001N03%j9!!)9!%&9$004Y07!j9(!k9%!n9&4x%u
  9(&y9((09)010Q400001!r9*000000010I0Z4u01!n00000000020>0K0Q410001!n9+004v02!q9,)89.000000010Q0d00
  0001092?0003!f9;%R9<&R9>001N03%j9?!)9?%&9@000000010B0N0002!p9^&I9_000002%j9|!)9|0000041E1G%!A0%$
  A0000000010B0O0002%j9!!)9!000001!fA1000000010L4p0001!fA2000901&FA300000002091S0S1X1w01!rA4001x01
  !rA5000000010?3S3!0m!hsp!ksp!oss!sr*!xsp!zr*!+r+$4v&$Isq$Msr$Ns3$mr*$nr*$!r*$$r*$%r*$&v($(v(!fsp
  $^r,%5v,%7sp%8sp%9sp%Asp%Csp%Dsp%Esp%Fsp%Gsp%Hsp%Isp%Jsp%Ksp%Lsp%Msp%Nsp&Ev.&FA6&Jv+&Nv+&fr.&lv.
  &mv.&or;&rv+(1v.(+rd001s03%BA7&fA8$000000901&FA9000001!mAA020U3S0QP26p6s510d!hS!!kS!!oS$!pj@5$!x
  S!$5j;$6OK$IS&$MS(28!fS!%5S)%7S!%8S!%9S!%AS!%CS!%DS!%ES!%FS!%GS!%HS!%IS!%JS!%KS!%LS!%MS!%NS!&Jvq
  2j&Nvq&lS*&mS*&rvq2l2K(1S*2n001V045HA9%95U%A5U020U3S0QP26p6s1t02A9%750020U3S0QP26p6s56015R020U3S
  0QP26p6s1V01A9020U3S0QP26p6s5400030U3S0V4<0QP26p6s5400030U3S0V4>0QP26p6s0000010Q6t0001!mAB000000
  010Q6q0000010@0w2j01$6AC002%00010^3S1V05$@AD$^AD&yAD&^AD&_AD005I017E010^3S0002!mng$Knf040a1N0_P2
  1N3B022w0|3B2502nfne040a1N0_P21N3B022w0|3B270Q!hoF!koFnf!ooF!xoF$IoFne$MoF!foF%7oF%8oF%9oF%AoF%C
  oF%DoF%EoF%FoF%GoF%HoF%IoF%JoF%KoF%LoF%MoF%NoF&foG040a1N0_P21N3B022w0|3B280Q!hqR!kqRnf!oqV!xqR$I
  qSne$MqT!fqR%7qR%8qR%9qR%AqR%CqR%DqR%EqR%FqR%GqR%HqR%IqR%JqR%KqR%LqR%MqR%NqRoB030e1N0_P21N3B022w
  0001nf020a1N0_P21N3B2j03!q00$600)D00010_2z5O00040a1N0_P21N3B022w0|3B5O0001103B5I03!iAE%9AF%AAF01
  0^3S5S01$IAG010^3S5I00010^3S0000020^3S0V4>5T01%8AH001;0T!hAI!kAI!oAI!xAI$IAI$MAI!fAI%7AI%8AI%9AI
  %AAI%CAI%DAI%EAI%FAI%GAI%HAI%IAI%JAI%KAI%LAI%MAI%NAI&L5C&<5C&@5C!q00!r00)C00010Q6r000001111Y1x01
  !rAJ000901&FAK001V0Z!hAL1U!kAL!oAL!xAL$IAM$MAL$dmF$@AS!fAL$^AS%7AN%8AO%9AP%AAP%CAL%DAQ%EAQ%FAQ%G
  AR%HAL%IAL%JAL%KAL%LAL%MAL%NAL&s5E&yAS&>5E&?5E&^AS&_AS1s1t010Q6o000001091T1w01!rAT002h0528&FAU&K
  AV&;AW&s00002*02&fAX!f00000M01%.AY005W025U(SAZ010^3S0001%jAa010@0w00025a5i010QJC00025W5j010QJF54
  041X4@4^4_010U3S000002091R0S1W56041X4@4^4_010U3S57041X4@4^4_010U3S5n015R010U3S59041X4@4^4_010U3S
  5l00020U3S0V4<5l00020U3S0V4>2u042r&ZAb&+Ac(<Ad002(02!iAe!fAf002*01!fAg005f01&fAh004E01!fAi000000
  010B0|1p03A9!rAj)Cbv010|3S000001121W0001$0Ak002N04Mq%8M_6l6n010m6w000001121h0901&FAl0000025)(ZAm
  004m03(aPf(bPg(ePi000000010Z0r00025&&qAn010Z0s0000010B0m0B01%,Ao001?03%jAp!)Ap)9Aq000000010B0o5<
  02%jAr!)Ar003r01(OAs000002!!At%;Au010*0z0006!jAv!rAw$1Ax&AAy&BAy)AAy000000010B0$5K02!,Az!.Az0213
  1N022w5L02!,Az!.Az02131N022w0B04!fA!&JA$&NA$&rA$0060071;1.!fA%1@&JA&&NA&&rA&02141N022w1004A$&JA&
  &NA&&rA&005M02!,Az!.Az02131N022w5N02!,Az!.Az02151N022w6001$K0001131N3d040H&7A(&FA)&xA*0067000213
  1N022w5P03!)A+!qns)In&006700000001A*000a0Z!htw!ktw!otxin!wA,!xA.!yA;ij$Ity$Ml&!ftw%5tz%7tw%8tw%9
  tw%Atw%Ctw%Dtw%Etw%Ftw%Gtw%Htw%Itw%Jtw%Ktw%Ltw%Mtw%Ntw&Et$&Jt%&Nt%&lt$&mt$&rt%(1t$001101%(A<0000
  00010B0*0000020a1N0h54"

end Automaton
end TypeScript
end ServiceCapsule
