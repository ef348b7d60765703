/-!
# States 3738 to 4776

States of the automaton of the grammar with markup, packed two letters a number. How they are
laid out is said beside the function that unpacks them.
-/

namespace ServiceCapsule
namespace TypeScript
namespace Automaton

def markupFifth : String := "
  0001$KaG008&01$6aI00CM01$8aL00G102!raM%iaM00G305%jk(!qk(!raM!)k(%iaM00GY01$6aN000001$KaQ00G102!r
  aR%iaR000001$6aS000001$6aT000001$6aU000001$6aV008&01$0aX00gh02!fp6Xl00gi01Xn00bj01$6aZ000004$Daa
  $)l0$+l0)Jl0000004$Eaa$*l1$+l1)Kl1000+01!rg)00c80O!hb0!kb0!ob0!rae!xb0$Iaf$Mb0!fb0%7ag%8ah%9ai%A
  ai%Cb0%Db1%Eb1%Fb1%Gb2%Hb0%Ib0%Jb0%Kb0%Lb0%Mb0%Nb0000303!ral%(m8)5m8002q01$Dam002r01$Eam003R04!*
  an&Fl6&sl7)Dl8000001!faq000001!far006)0A!qs;!rat!)s;%iat%qlE(2lE(.lE(;lE(^lE(_lE007^02!*aw)DlH00
  6Y02avlG006Y01av007D03!qlI$8ax)QlJ00jI01!ray00d_01$6az008S01$.a!00br02$AlL&&Zj000006%jlN!qlN!ra%
  !)lN%ia%)UlO000001!fa&000001!fa(006Y01!*a)00CM01$8a*00CQ02!qlP$8a+00br043Qs6&&a,(+SU000002!fa.$^
  a;000006%jlQ!qlQ!ra<!)lQ%ia<)UlR00G102!ra<%ia<00lM01JT00CM01$8a>00G102!ra?%ia?00G305%jlS!qlS!ra?
  !)lS%ia?00G102!ra@%ia@00Pr07!fZe%0Zf%wlKUzU!U$U%00Pt01$@Zh000004$Da^$)lY$+lY)JlY000004$Ea^$*lZ$+
  lZ)KlZ000303!rb3%(k^)5k^002q01$Db4002r01$Eb4003R04!*b5&Flb&slc)Dld007^02!*b9)Dlj006Y02b8li006Y01
  b8007D03!qlk$8bA)Qll008L01!rbB008O01$6bC00d|01$.bD00br033Q$Alm&&a$006Y01!*bE00CM01$8bF00CQ02!qln
  $8bG000002!fbH$^bI00CM01$8bJ00hw01!rbP00d_01$6bQ00d|03$.bR(mh^)Th^00d@01Xj00d_01$6bW00lA0N!hin!k
  bc!obc!xbc$Iio$Mip!fbc%7iq%8ir%9is%Ais%Cbc%Dbd%Ebd%Fbd%Gbe%Hbc%Ibc%Jbc%Kbc%Lbc%Mbc%Nbc00d_07!qe>
  $6bb(fh?(gh?(hh?(ih?(jh?00d@01!rbV00jI0A!qnw!rbaqBUw%qh.(2h.(.h.(;h.(^h.(_h.000405!jbytMb!tOtP02
  011N022w0501b!02031N022w0A01&EcA000B01%,cD000C01b!02051N022w0B02%WmHcD000A01&EcF000003!(xG!+mI%^
  cG000H02hChE000A01&EcK000W01!fcV000X02b!$JtZ02031N022w0Z01b!02081N022w0a0V!hcd!kcd!oce!xcd$Icf$M
  cg!fcd%5ch%7cd%8cd%9cd%Acd%Ccd%Dcd%Ecd%Fcd%Gcd%Hcd%Icd%Jcd%Kcd%Lcd%Mcd%Ncd&Eci&Jcj&Ncj&lci&mci&r
  cj(1ci000001$>ck00dC01&Ftj000g01b!02031N022w0k04tMb!tO%Htl02031N022w0l03b!!fok&Rol02031N022w0001
  !fct000001!fcu000,02!hc.$Hmj000;01c.000>02!ftS%sc^000B01cD000001!fc_00F+03g)4K&Fc|001801c.00F+01
  &Fd0000+01!rd800X200020+1N022w1!02m6m4020+1N022w40015W020+1N022w0Y03!imv!fmw&fca001)0Q!hom!komm6
  !oon!xom$Ioom4$Mop!fom%7om%8om%9om%Aom%Com%Dom%Eom%Fom%Gom%Hom%Iom%Jom%Kom%Lom%Mom%NomtI02591N02
  2w1*01cz015A2%6B00001,02&Fi%&xi&000001!fdG002201%^dH002Q01cz015B2pF+01&FdL00c|00014H1P2t01(>cp00
  2+01&fdi003A01cz015C2&F+01do000003!fdq&)dq&*dr000001!fdu002w01d!003Z01&Fd%00F+01&Fd&001,02&Fd(&x
  d)00F+01&Fd*00F+01&Fd+00F+01&Fd,00F+01&Fd.00F+01&Fd;00F+01&Fd<00F+01&Fd>00F+01&Fd?003n0m!hpq!kpq
  pq!sq7!xpq!zwdwdwepr$Mq8xj$mq9$nq9rM$!wd$$qA$%wd$&l>$(l>!fnAwg%5nB%7pq%8qB%9pq%Apq%Cpq%Dpq%Epq%F
  pq%Gpq%Hpq%InD%JnD%KnD%LnD%MnD%NnD&Ewj&Fm?&Jwm&Nwmwj&lwj&mwjwk&rwm(1wj00F+01&Fe200F+01&Fe300m502
  8t&FeC00F+01&FeD003.01!feF001C01mi000001!feJ002+01&feM00Ur00015E2a0001!feN00Ur00015E2u4P01(eeO00
  4w01eQ004x02%BnSeR008601$000011&2z0Y03!inU!fnV&fdg002*02!fnW&fdh005I01&feW005s01!!eY015F0zN&02!,
  AN!.AN020e1N022wUr00015E1QHR01!m00006,01(eee006;02&,eh(<nh007701k1000001$Aem000001$Ken007B01k101
  1Y5H0*01&,et00m502CT&Feu002+01&few00m502CZ&Fex005I01&fey00F+01&Fez001*0A!ipz$gp%$hp%$ip%$mp*$np*
  $opz$ppzp*md015I2$3Z01&Fmt001*02p*md015J2$Ur07%l00!n00!z00$e00$f00$y00%Q00015K2$m_01pz015L2$m?03
  $g00$h00$i00015M2$m_03$j00$k00$l00015N2$n101p%015O2$n201p&015P2$n002$m00$n00015Q2$2Q02p*md015R2$
  F+08!fnxDP%wjl&FmEBwBxByBz00mD02DXDY02591N022wF+02DZmD00F+02mD$500010s5t6|02!mpp$Kpo045S1N1wP21N
  5R022w1T5R0001po035S1N1wP21N5o1T5o7102m6m4025T1N022wnB01pn045S1N1wP21N5t022w1T5t0*01&,e^00n104$t
  00$u00$v00$w00015U2$m|01p!015V2$1,02&Fe_&xe|00Ur00015E2bUr00015E2x6|01e|01485Rf10001485S8z03!ff1
  %0f1(*n$000001%cf301485Q0001!ff8000002!feP&ReQ002+01&ffA004P01(efE005I01fE004x02%Bn(fF002*02!fn*
  &fev005I01&ffI005I01&ffJ001,03!*fM&Fn+&xn,00go0000go00010^3Sgo03n;%9n>%An>011I3SBg06%qfP(2fP(.fP
  (;fP(^fP(_fP00Bu01!(la01485jBw01lZ00Bx01lZ01485jBy01lZ01485j0001$KfY000*01&,fZ00fd00014V6bfc0001
  4U6afc00006;02&,fa(<o0000001%Sfb015H5WCP07!fu4%0u5%au6(cGo(eo2(rGo(*u700CP01Gu00CP01(eo3000001$K
  ff00Ur00015E2c5I01&ffg00Ur00015E2dUr00015E2vF+01&Ffn00DE06%qiI(2iI(.iI(;iI(^iI(_iI010QP26o6rBu02
  m6m4035g1N0s5j022w0*01&,fp00CP01(eo7000001%cnz011Y5FnN0000CP01(eo800D@01%.fw005I01fx004x02%BoAfy
  005I01&ff!00Eu01!*f%000001f$001,03!*f&&FoC&xoD001,03!*f(&FoE&xoF00g$0000g$00010^3Sg$03oG%9oI%AoI
  011I3SPs00040e1N0mP21N3B022w0|3BCP01Jp000001$Kf;000001$Kf<000*01&,f>00CP01(eoN00B?01%B00015W6f00
  01nn015X6cnn03(cJy(eoP(rJy004P01(ef^00Ur00015E2!o200015W5bo200015W5cD@01%.g1005I01g1004x02%BoQg2
  00Eu01!*g4000001g300Eu01!*g5000001g4001,03!*g6&FoS&xoT00g&0000g&00010^3Sg&03oT%9oV%AoV011I3SCP01
  LX00CP01LY000001$KgA00o200015W5X2w01(egB00o200015W6g5I01gB004x02%BoZ&fgD00Eu01!*gE000001gD00g(00
  00g(00010^3Sg(03!iob%9oc%Aoc011I3SCP01MZ008&01$0gH005I01&fgI004x02%Boe&fgJ001V05$@gL$^gL&ygL&^gL
  &_gL00ob00010^3SCP01(eof005I01&fgN00o200015W5Ygi03!ios$@Nb&Fot015Y1Ogi02Na&Fou00oh03!pj.OY&FgS00
  oh01&FgT00Np01d0015F4oNp01d1015F4oB(01m4020+1N022wNv01m4020+1N022wmB01oi020+1N022wNx01m402591N02
  2wNy01gP015m2%N;01gP015n2poh01&FgW00cc00014m1PO101gP015o2&oh01gW00oh01&FgY00oh01&FgZ00oh01&Fga00
  oh01&Fgb00oh01&Fgc00oh01&Fgd00oh01&Fge00oh01&Fgf00oh01&Fgg00oh01&Fgj00oh01&Fgk00oi02P,&Fgl00oh01
  &Fgm00oi02Q&&Fgq00oi02Q*&Fgr00oh01&Fgs00gh02!fp0RK00B$00020e1N022wgi01RN00gi02Na$500011M5tGS0002
  1V1N022woh01&Fg%00VK00035s1N0s5j022w2401oi022w1N022w2701oi022w1N022wN&01Nk026;1N022wRK00035|1N1_
  5j022w2501oi022w1N022wVK00031?1N625j022wgi01Na00oh01&For000001!,ov000001$Ko+00000F$Oo,$Po,$Qo,$R
  o,$So,$To,$Uo,$Vo,$Wo,$Xo,$Yo,$Zo,$ao,$bo,$co,002B00000001$Ko.000001$Ko;002>01!mo<020a1N022w2?01
  o;020a1N022w2@01o;020a1N022w2^01o;020e1N022w0001o;010a1NpJ00020a1N022wpJ00008601$0o|00e001$Ajm00
  gQ0m!hr(!kr(r*!plr!sqs!xr(!zq&q&w.r($MqtrL$mqu$nqu$!q&$$qv$%q&$&w<$(w<!fvPq(%5vQ%7r(%8qw%9r(%Ar(
  %Cr(%Dr(%Er(%Fr(%Gr(%Hr(%IvR%JvR%KvR%LvR%MvR%NvR&Ew?&FpS&JvY&NvYq)&lw?&mw?q*&rvY(1w?00mt0001752a
  mt0001752umt0001751QNy0A!iqc$gqf$hqf$iqf$mqj$nqj$oqc$pqcqjpN01762$Ny02qjpN01772$mt07%l00!n00!z00
  $e00$f00$y00%Q0001782$pU01qc01792$pS03$g00$h00$i00017A2$pU03$j00$k00$l00017B2$pX01qf017C2$pY01qg
  017D2$pW02$m00$n00017E2$N;02qjpN017F2$pX04$t00$u00$v00$w00017G2$pV01qd017H2$mt0001752bmt0001752x
  mt0001752cmt0001752dmt0001752vmt0001752!0W01!fhK000a0V!hpF!kpF!opG!xpF$IpH$MpI!fpF%5pJ%7pF%8pF%9
  pF%ApF%CpF%DpF%EpF%FpF%GpF%HpF%IpF%JpF%KpF%LpF%MpF%NpF&EpK&JpL&NpL&lpK&mpK&rpL(1pK000001$>hL000l
  01$0va02031N022wdC03g)4K&Fmn00dC01&Fmp00nD00023t1N022w1!02popn023t1N022w1&0Q!hwo!kwopo!owo!xwo$I
  wopn$Mwo!fwo%7wo%8wo%9wo%Awo%Cwo%Dwo%Ewo%Fwo%Gwo%Hwo%Iwo%Jwo%Kwo%Lwo%Mwo%Nwo&fwq023t1N022w1)0RrM
  !hqS!kqSpo!oqT!xqS$IqUpn$MqV!fqS%7qS%8qS%9qS%AqS%CqS%DqS%EqS%FqS%GqS%HqS%IqS%JqS%KqS%LqS%MqS%NqS
  wj025i1N022wdC01&Fmz002+01&fhn00dC01m>002w01hu003Z01&FpM00dC01&Fm^00dC01&Fm_00dC01&Fm|00dC01&Fn0
  00dC01&Fn100dC01&Fn200dC01&Fn300dC01&Fn400dC01&Fn500dC01&FnF00dC01&FnG00po028t&FnI00dC01&FnJ003.
  01!fh*001C02$Hp>%Otm006,01h;006;02&,h@(<qD007701lZ000001$Ai1007B01lZ01485H0*01&,i500po02CT&Fnr00
  2+01&fi600po02CZ&Fnt005I01&fi700dC01&Fnu00dC08!fqHDPDQ&FtUBwBxByBz00pt02DXDY025i1N022wdC02DZtT00
  dC02tT$500010s5t7102popn025k1N022wBg06%qiI(2iI(.iI(;iI(^iI(_iI000*01&,iV006;02&,iW(<qI005I01&fiY
  00dC01&Fo600Bu02popn035q1N0s5j022w0*01&,ie00Ja03$@ig&yig(*ig00Ja03$@ih&yih(*ih00Ja03$@ii&yii(*ii
  00Ja03$@ij&yij(*ij002w01(eik00gV02!isO&FwW015l1OgV01&FwX003Z03iuOY&FpP003Z01&FpQ00B(01pn023t1N02
  2wNv01pn023t1N022wps01oi023t1N022wNx01pn025i1N022wNy01pN017I2%N;01pN017J2p3Z01&FpR00mt0001751PO1
  01pN017K2&3Z01pR003Z01&FpT003Z01&FpU003Z01&FpV003Z01&FpW003Z01&FpX003Z01&FpY003Z01&FpZ003Z01&Fpa
  003Z01&Fpb003Z01&Fpc003Z01&Fpd00qQ02P,&Fpe003Z01&Fpf00qQ02Q&&Fpg00qQ02Q*&Fph003Z01&Fpi003Z08!fqy
  RKiC&FqWBwBxByBz00Ps0Q!hs<!ks<!mqR!os@!xs<$Is>$KqQ$Ms?!fs<%7s<%8s<%9s<%As<%Cs<%Ds<%Es<%Fs<%Gs<%H
  s<%Is<%Js<%Ks<%Ls<%Ms<%Ns<q)027L1N022w3Z02RNqV003Z02qV$500010s5t7102qQqP027M1N022w3Z01&Fpj00Bu02
  qQqP037N1N0s5j022wB*00020a1N022wN%00020a1N022wN&00020e1N022wN!00020a1N022w3Z01qV003Z01&FqX000001
  !,qb000001$Kqn00000F$Oqo$Pqo$Qqo$Rqo$Sqo$Tqo$Uqo$Vqo$Wqo$Xqo$Yqo$Zqo$aqo$bqo$cqo000001$Kqp000001
  $Kqq002>01!mqr020a1N022w2?01qq020a1N022w2@01qq020a1N022w2^01qq020e1N022w0001qq010a1Nq@00020a1N02
  2wq@00008601$0qx00pO0m!hsn!ksnsp!srx!xsn!zr,r,x1sn$Mrys4$mrz$nrz$!r,$$r!$%r,$&x3$(x3!fw@r.%5w^%7
  sn%8r$%9sn%Asn%Csn%Dsn%Esn%Fsn%Gsn%Hsn%Iw_%Jw_%Kw_%Lw_%Mw_%Nw_%wlD&Ex5&Fr4&Jw|&Nw|r;&lx5&mx5r<&r
  w|(1x5009m01$600014@2ar100014@2ur100014@1QNy0A!irh$grk$hrk$irk$mro$nro$orh$prhroq|014^2$Ny02roq|
  014_2$r107!n00!z00$e00$f00$y00%Q00%l00014|2$r601rh01502$r403$g00$h00$i0001512$r603$j00$k00$l0001
  522$r901rk01532$rA01rl01542$r802$m00$n0001552$N;02roq|01562$r904$t00$u00$v00$w0001572$r701ri0158
  2$r100014@2br100014@2xr100014@2cr100014@2dr100014@2vr100014@2!0a0V!hq;!kq;!oq<!xq;$Iq>$Mq?!fq;%5
  q@%7q;%8q;%9q;%Aq;%Cq;%Dq;%Eq;%Fq;%Gq;%Hq;%Iq;%Jq;%Kq;%Lq;%Mq;%Nq;&Eq^&Jq_&Nq_&lq^&mq^&rq_(1q^00
  0001$>i,002w01(ejH003Z01&Fq|006,01(ejT006;02&,jW(<rV000001$Ajb000*01&,jf00Bg06%qjo(2jo(.jo(;jo(^
  jo(_jo000*01&,jx006;02&,jy(<rX000*01&,j(002w01(ej*004w03iuOY&Fr1004w01&Fr200Ny01q|015z2%N;01q|01
  5!2p4w01&Fr300r100014@1PO101q|015$2&4w01r3004w01&Fr5004w01&Fr6004w01&Fr7004w01&Fr8004w01&Fr9004w
  01&FrA004w01&FrB004w01&FrC004w01&FrD004w01&FrE004w01&FrF00rZ02P,&FrG004w01&FrH00rZ02Q&&FrI00rZ02
  Q*&FrJ004w01&FrK004w08!fr&RK%wkg&FrbBwBxByBz00Tz02DXDY021+1N022w4w02RNra004w02ra$500010s5t7102rZ
  rY025)1N022w4w01&FrL00Bu02rZrY035*1N0s5j022w0002qQqP027O1N022w270Q!hq,!kq,qQ!oq,!xq,$Iq,qP$Mq,!f
  q,%7q,%8q,%9q,%Aq,%Cq,%Dq,%Eq,%Fq,%Gq,%Hq,%Iq,%Jq,%Kq,%Lq,%Mq,%Nq,&fq.027O1N022wqt020&0)027L1N02
  2w2502qQqP027O1N022w4w01ra004w01&Frc000001!,rg000001$Krs00000F$Ort$Prt$Qrt$Rrt$Srt$Trt$Urt$Vrt$W
  rt$Xrt$Yrt$Zrt$art$brt$crt000001$Kru000001$Krv002>01!mrw020a1N022w2?01rv020a1N022w2@01rv020a1N02
  2w2^01rv020e1N022w0001rv010a1Ns100020a1N022ws100008601$0r%000a0V!hr^!kr^!or_!xr^$Ir|$Ms0!fr^%5s1
  %7r^%8r^%9r^%Ar^%Cr^%Dr^%Er^%Fr^%Gr^%Hr^%Ir^%Jr^%Kr^%Lr^%Mr^%Nr^&Es2&Js3&Ns3&ls2&ms2&rs3(1s20000
  01$>k1002w01(ekI003Z01&Fs4006,01(ekQ006;02&,kT(<sE000001$AkY000*01&,kc00Bg06%qkj(2kj(.kj(;kj(^kj
  (_kj000*01&,kw006;02&,kx(<sG000*01&,k&00Ja03$@k)&yk)(*k)00Ja03$@k*&yk*(*k*00Ja03$@k+&yk+(*k+00Ja
  03$@k,&yk,(*k,002w01(ek.00gV03j,OY&Fv!00gV01&Fv$00gV01&Fv%00gV01&Fv&00gV01&Fv(00gV01&Fv)00gV01&F
  v*00gV01&Fv+00gV01&Fv,00gV01&Fv.00gV01&Fv;00gV01&Fv<00gV01&Fv>00gV01&Fv?00gV01&Fv@00sM02P,&Fv^00
  gV01&Fv_00sM02Q&&Fv|00sM02Q*&Fw000gV01&Fw100gV08!fsmRKiC&FwUBwBxByBz00B$0Rs5!ht6!kt6!msN!ot9!xt6
  $It7$KsM$Mt8!ft6%7t6%8t6%9t6%At6%Ct6%Dt6%Et6%Ft6%Gt6%Ht6%It6%Jt6%Kt6%Lt6%Mt6%Nt6st025+1N022wgV02
  RNwT00gV02wT$500010s5t7102sMsL025,1N022wgV01&Fw200Bu02sMsL035;1N0s5j022wTv00021*1N022wTy00021*1N
  022wTz00021+1N022wTw00021*1N022wgV01wT00gV01&FwV000001!,sP000001$Ksb00000F$Osc$Psc$Qsc$Rsc$Ssc$T
  sc$Usc$Vsc$Wsc$Xsc$Ysc$Zsc$asc$bsc$csc000001$Ksd000001$Kse002>01!msf020a1N022w2?01se020a1N022w2@
  01se020a1N022w2^01se020e1N022w0001se010a1Ns%00020a1N022ws%00008601$0sl000a0V!hsy!ksy!osz!xsy$Is!
  $Ms$!fsy%5s%%7sy%8sy%9sy%Asy%Csy%Dsy%Esy%Fsy%Gsy%Hsy%Isy%Jsy%Ksy%Lsy%Msy%Nsy&Es&&Js(&Ns(&ls&&ms&
  &rs((1s&002w01(el9003Z01&Fs)000001$AlG00Bg06%qlM(2lM(.lM(;lM(^lM(_lM00B(01qP027O1N022wr)01oi027O
  1N022wN&01qP027L1N022wNv01qP027O1N022w2w01(ele00B(01rY021*1N022wTy01oi021*1N022wN&01rY021+1N022w
  Nv01rY021*1N022w0002sMsL022d1N022w270Q!hsw!kswsM!osw!xsw$IswsL$Msw!fsw%7sw%8sw%9sw%Asw%Csw%Dsw%E
  sw%Fsw%Gsw%Hsw%Isw%Jsw%Ksw%Lsw%Msw%Nsw&fsx022d1N022wsh020&0)025+1N022w2502sMsL022d1N022wB(01sL02
  2d1N022wt301oi022d1N022wN&01sL025+1N022wNv01sL022d1N022wF+01mD00F+01&FmJ00F+02!imK&FmL015<1O0Y02
  !itb!fmN00F+01&FmO000001!,mP00X100010+1N0001$HmR00X100020+1N022w0001$Kmh00000F$Omi$Pmi$Qmi$Rmi$S
  mi$Tmi$Umi$Vmi$Wmi$Xmi$Ymi$Zmi$ami$bmi$cmi00X100000001!oml000_02ojok000002!ixK!fmm001603tMtOtk00
  tN013M00p?01$Hmo001E02!mmq(<tt00BN00001*01md015>2%B(00010i3A2Q01md015@2pUr00015E1P0001$Km,002(02
  !iu1!fm.000001$Km;002*01!fm<002>01!mm>020a1N022w2?01m<020a1N022w2@01m<020a1N022w2^01m<020e1N022w
  0001m<010a1Ntg00020a1N022wtg00003A01md015^2&0001tR00tQ017&000001$HnO003^01tR020+1N022w4001tY020+
  1N022wtP02m6m4020+1N022w4202ojok020+1N022w0001!mnP000002!ixT!fnQ000001!mnR00Or0000B*00030a1N022w
  0|3BN!00030a1N022w0|3BN%00030a1N022w0|3BB(00030a1N022w0|3BB(00012r3BOr00010^3S5v02oioh020a1N022w
  5w02oioh020a1N022wN%02!,AN!.AN020a1N022w5%01oi010a1N5&03&7nX&FuB&xuC00t(00020a1N022wt(00006*04!f
  nc%wnd(tne(unf006;02&,ng(<uF00CP01B_00CP01(euG00CP01uG007205t.t;t>t^(euI000001$Mnl000001!fnm00t?
  01CB000001$Knn000*01&,nq007N01!fns008601$0nv000(01nm011X2e6|01ny011Y5Rn!00011Y5S8z03!fn!%0n!(*uP
  000001%cn%011Y5Q5I01&fn&00QE0000QE00010^3S5)01!)n.000001n,005&03&7n;&FuT&xuU000001$Kn^000*01&,n_
  00o300015X6bo200015W6ao200006;02&,n|(<uY000001%So1015_5W0001$Ko4000001$0o5000(01n@011X2e3*01o301
  1X2gu700005I01&fo900Rm0000Rm00010^3S5)01!)oG000001oF00Pz00041V1N0mP21N3B022w0|3B0001$KoK000001$K
  oL000*01&,oM00B?01%BoO003*01oJ011X2gSl0000Sl00010^3S0001$KoX002w01(eoY001V05$@oa$^oa&yoa&^oa&_oa
  00uf00010^3S8&01$0od002v03!iuo&Fxf(C00016e1O2v02&Fxg(C0000B(00012Q1NB(00022Q1N022wuj03iuOY&Fu(00
  uj01&Fu)00uj01&Fu*00uj01&Fu;00uj01&Fu<00uj01&Fu>00uj01&Fu?00uj01&Fu@00uj01&Fu^00uj01&Fu_00uj01&F
  u|00uj01&Fv000uj01&Fv100OK0m!hvM!kvMvR!sv2!xvM!zvTvTuhvM$Mv3wA$mv4$nv4pl$!vT$$v5$%vT$&uj$(uj!fv6
  vU%5v7%7vM%8v8%9vM%AvM%CvM%DvM%EvM%FvM%GvM%HvM%Iv9%Jv9%Kv9%Lv9%Mv9%Nv9&Excu.&Jwc&NwcvV&lxc&mxcvW
  &rwc(1xc00uj01&FvA00uj01&FvB00um02P,&FvC00uj01&FvD006$01ON01642au(0001642uu(0001641Qum02Q&&FvG00
  um02Q*&FvH00uj01&FvI00Ny0A!iuq$gut$hut$iut$mux$nux$ouq$puquxuy01652$Ny02uxuy01662$u(07!n00!z00$e
  00$f00$y00%Q00%l0001672$u>01uq01682$u;03$g00$h00$i0001692$u>03$j00$k00$l00016A2$u^01ut016B2$u_01
  uu016C2$u@02$m00$n00016D2$N;02uxuy016E2$uj08!fvKRKe;&FxdBwBxByBz00Ps0Rpl!hwY!kwY!mun!owb!xwY$IwZ
  $Kum$Mwa!fwY%7wY%8wY%9wY%AwY%CwY%DwY%EwY%FwY%GwY%HwY%IwY%JwY%KwY%LwY%MwY%NwYvV025w1N022wuj02RNxc
  00uj02xc$500010s5t6|02umul045p1N1wP21N5R022w1T5R0001um035p1N1wP21N5o1T5o7102umul025x1N022wv701ul
  045p1N1wP21N5t022w1T5tu^04$t00$u00$v00$w00016F2$u?01ur016G2$u(0001642bu(0001642xQ3024041002802&,
  uN(<xX040e1N0mP21N3A022w0S3Au(0001642cu(0001642du(0001642vuj01&FvL00Bu02umul035y1N0s5j022wu(0001
  642!v900023L1N022w270Q!hve!kveum!ove!xve$Iveul$Mve!fve%7ve%8ve%9ve%Ave%Cve%Dve%Eve%Fve%Gve%Hve%I
  ve%Jve%Kve%Lve%Mve%Nve&fvf023L1N022wv3020&0)025w1N022w6|02qQqP047P1N3VP21N5R022w3W5R0001qQ037P1N
  3VP21N5o3W5or(00047P1N3VP21N5t022w3W5t2502umul023L1N022wuj01xc00uj01&Fxe000001!,up000001$Ku%0000
  0F$Ou&$Pu&$Qu&$Ru&$Su&$Tu&$Uu&$Vu&$Wu&$Xu&$Yu&$Zu&$au&$bu&$cu&00vQ0000by02404100cF014F00cF015a00
  cF015.00cF016B000001$Ku+000001$Ku,002>01!mu.020a1N022w2?01u,020a1N022w2@01u,020a1N022w2^01u,020e
  1N022w0001u,010a1Nvk00020a1N022wvk00003,01!jvE00cF01AY008601$0vJ00cF01En00cF01IG00cF01KX00cF01KY
  00cF01Ka00cF01Lx00cF01Ly00cF01Lz00cF01Mi00gQ0m!ht2!kt2t4!ssg!xt2!zsrsrqNt2$Mshs)$msi$nsis5$!sr$$
  sj$%sr$&qP$(qP!fx6ss%5x7%7t2%8sk%9t2%At2%Ct2%Dt2%Et2%Ft2%Gt2%Ht2%Ix8%Jx8%Kx8%Lx8%Mx8%Nx8&ExDv%&J
  x9&Nx9st&lxD&mxDsu&rx9(1xD00XB00016I2aXB00016I2uXB00016I1QNy0A!isQ$gsT$hsT$isT$msX$nsX$osQ$psQsX
  vy016J2$Ny02sXvy016K2$XB07%l00!n00!z00$e00$f00$y00%Q00016L2$v)01sQ016M2$v&03$g00$h00$i00016N2$v)
  03$j00$k00$l00016O2$v,01sT016P2$v.01sU016Q2$v+02$m00$n00016R2$N;02sXvy016S2$v,04$t00$u00$v00$w00
  016T2$v*01sR016U2$XB00016I2bXB00016I2xXB00016I2cXB00016I2dXB00016I2vXB00016I2!0402!jvZvZ02011N02
  2w0501vZ02031N022w0A01&Evb000C01vZ02051N022w0003!(xl!+wF%^vc000A01&Evd00l,01vZ02031N022w0Z01vZ02
  081N022w0a0V!hvg!kvg!ovh!xvg$Ivi$Mvj!fvg%5vk%7vg%8vg%9vg%Avg%Cvg%Dvg%Evg%Fvg%Gvg%Hvg%Ivg%Jvg%Kvg
  %Lvg%Mvg%Nvg&Evl&Jvm&Nvm&lvl&mvl&rvm(1vl000g01vZ02031N022w0k01vZ02031N022wm001!hvn002201%^vo003Z
  01&Fvp005s01!!vq015F0z1,03!*vr&FwJ&xwK00Eu01!*vs000001vr001,03!*vt&FwN&xwO001,03!*vu&FwP&xwQ00Eu
  01!*vv000001vu00Eu01!*vw000001vv001,03!*vx&FwS&xwT00Eu01!*vy000001vx00Ny01vy016Y2%N;01vy016Z2pXB
  00016I1PO101vy016a2&B(01ul023L1N022wvN01oi023L1N022wN&01ul025w1N022wNv01ul023L1N022wv70000dC01tT
  00dC01&FtW00dC02!ipu&FtX016b1O0Y02!iwr!fpv000001!,pw00nB00013t1NnB00023t1N022w0001$Kp;00000F$Op<
  $Pp<$Qp<$Rp<$Sp<$Tp<$Up<$Vp<$Wp<$Xp<$Yp<$Zp<$ap<$bp<$cp<00nB0000T!0001203A0001$Kq2002(02!iw%!fq3
  000001$Kq4002*01!fq5002>01!mq6020a1N022w2?01q5020a1N022w2@01q5020a1N022w2^01q5020e1N022w0001q501
  0a1Nww00020a1N022www00004001$Jwp020+1N022w5&03&7wI&Fw(&xw)000001$MqE007N01!fqF008601$0qG005)01!)
  wL000001wK005&03&7wM&Fw+&xw,005)01!)wR000001wQ00B?01%BqN003Z02!iqY&FqZ017Q1O3Z01&Fqa00vQ00017O1N
  vQ00027O1N022w6|02rZrY046f1N3VP21N5R022w3W5RT!00036f1N3VP21N5o3W5oTv00046f1N3VP21N5t022w3W5tT!00
  000001$MrW00B?01%BrY004w02!ird&Fre016i1O4w01&Frf00T!00011*1NT!00021*1N022w6|02sMsL046h1N3VP21N5R
  022w3W5R0001sM036h1N3VP21N5o3W5ot200046h1N3VP21N5t022w3W5tx700000001$MsF00B?01%BsL00x700012d1Nx7
  00022d1N022w0a0V!htc!ktc!otd!xtc$Ite$Mtf!ftc%5tg%7tc%8tc%9tc%Atc%Ctc%Dtc%Etc%Ftc%Gtc%Htc%Itc%Jtc
  %Ktc%Ltc%Mtc%Ntc&Eth&Jti&Nti&lth&mth&rti(1th000001$Jts002105%*t)%+t)&7t)&FxL&xxM000001tq003Z01&F
  u2001z01tq01040M0001!fu8005)01!)uD000001uC006;02&,uE(<xU000001$MuJ000001!fuK000*01&,uL000001!fuM
  000*01&,uO000001!fuQ000*01&,uW006;02&,uX(<xY00CP01(euZ000*01&,ua000*01&,ud00B?01%Bue002w01(euh00
  v700013L1Nv700023L1N022wNy01uy016V2%N;01uy016W2pu(0001641PO101uy016X2&1!01vZ02031N022wcF01%(wH00
  0A01&Exi000a0V!hws!kws!owt!xws$Iwu$Mwv!fws%5ww%7ws%8ws%9ws%Aws%Cws%Dws%Ews%Fws%Gws%Hws%Iws%Jws%K
  ws%Lws%Mws%Nws&Ewx&Jwy&Nwy&lwx&mwx&rwy(1wx002105%*w!%+w!&7w!&Fxn&xxo003Z01&Fw&005)01!)w*000001w)
  00CP01(ew.00CP01(ex100CP01(exB000001$MxV00CP01(exZ00B?01%Bxa00CP01(exu00"

end Automaton
end TypeScript
end ServiceCapsule
