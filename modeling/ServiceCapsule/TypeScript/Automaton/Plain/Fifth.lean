/-!
# States 3627 to 4665

States of the automaton of the grammar without markup, packed two letters a number. How they are
laid out is said beside the function that unpacks them.
-/

namespace ServiceCapsule
namespace TypeScript
namespace Automaton

def plainFifth : String := "
  jR01$5q$00dV01&&Yv000002!fYw$^Yx00DD01$6Yy00DF02!qjf$6Yz000001$KY$000001$KY%008Q01$8Y(008B01$6Y)
  008y01!*Y,00Y40000CS02!rY<%iY<00CU05%jjh!qjh!rY<!)jh%iY<00DD01$6Y>000001$KY^00CS02!rY_%iY_000001
  $6Y|000001$6Z0000001$6Z1000001$6Z2008B01$0Z400iM0n!hsp!kspsr!sp$!xsp!zr*r*v%sp$Mrys2$mrW$nrW$!r*
  $$rc$%r*$&v($(v(!fvmr+%5vn%7sp%8rz%9sp%Asp%Csp%Dsp%Esp%Fsp%Gsp%Hsp%Ivo%Jvo%Kvo%Lvo%Mvo%Nvo%wkB&E
  v.&Fjs&Jv+&Nv+r,&lv.&mv.r.&rv+(1v.rc00N$01jm014?4SA601$600014@2ajp00014@2ujp00014@1QM^0A!iri$grl
  $hrl$irl$mrp$nrp$ori$prirpjm014^2$M^02rpjm014_2$jp07!n00!z00$e00$f00$y00%Q00%l00014|2$ju01ri0150
  2$js03$g00$h00$i0001512$ju03$j00$k00$l0001522$jx01rl01532$jy01rm01542$jw02$m00$n0001552$N902rpjm
  01562$jx04$t00$u00$v00$w0001572$jv01rj01582$jp00014@2bjp00014@2xjp00014@2cjp00014@2djp00014@2vjp
  00014@2!aC01$6Z6000004$DZ7$)j_$+j_)Jj_000004$EZ7$*j|$+j|)Kj|000+01!rfL00ar0O!hZ)!kZ)!oZ)!rZB!xZ)
  $IZC$MZ)!fZ)%7ZD%8ZE%9ZF%AZF%CZ)%DZ*%EZ*%FZ*%GZ+%HZ)%IZ)%JZ)%KZ)%LZ)%MZ)%NZ)000303!rZI%(l4)5l400
  2q01$DZJ002r01$EZJ00340A!qrb!rZK!)rb%iZK%qk4(2k4(.k4(;k4(^k4(_k4003U03!qkE$8ZO)QkF003s04!*ZP&FkG
  &skH)DkI002w01(ek1000006%jkK!qkK!rZS!)kK%iZS)UkL007k02kXi(00hm01!rZT00hn02!fubWS007t01$6ZU00hp01
  $@YK007x01$.ZV007(02$AkN&&ZW000001!fZX000001!fZY008Q01$8ZZ008V02!qkO$8Za008w02!*Zb)DkP008x02ZakO
  008y01Za000006%jkQ!qkQ!rZc!)kQ%iZc)UkR00CS02!rZc%iZc00kJ01Gf00C&01&&Zd000002!fZe$^Zf008Q01$8Zg00
  8y01!*Zh00CS02!rZi%iZi00CU05%jkS!qkS!rZi!)kS%iZi00CS02!rZj%iZj000004$DZk$)kW$+kW)JkW000004$EZk$*
  kX$+kX)KkX000303!rZq%(j?)5j?002q01$DZr002r01$EZr003s04!*Zt&Fke&skf)Dkg007q01!rZw00g207!fYH%0YI%w
  khTXTYTZTa007t01$6Zx00cE01$.Zy007(033r$Aki&&Zz008w02!*Z!)Dkj008x02Zzki008y01Zz00C&043rhe&&Z$(+Rb
  000002!fZ%$^Z&008y01!*Z(00c901!rZ;00cC01$6Z<007x03$.Z>(mgB)TgB00k60N!hi0!ka5!oa5!xa5$Ii1$Mi2!fa5
  %7i3%8i4%9i5%Ai5%Ca5%Da6%Ea6%Fa6%Ga7%Ha5%Ia5%Ja5%Ka5%La5%Ma5%Na5007t01$6Z|00g101!rZ_007t07!qdW$6
  a4(fg9(gg9(hg9(ig9(jg900g101WQ000402!jaPaR02011N022w0501aR02031N022w0A01&Eat000B01%,aw000C01aR02
  051N022w0B02%WlDaw000A01&Eay000003!(v^!+lE%^az000H02fjfl000A01&Ea&000W01!fa@000X02aR$JtN02031N02
  2w0Z01aR02081N022w0a0V!hb4!kb4!ob5!xb4$Ib6$Mb7!fb4%5b8%7b4%8b4%9b4%Ab4%Cb4%Db4%Eb4%Fb4%Gb4%Hb4%I
  b4%Jb4%Kb4%Lb4%Mb4%Nb4&Eb9&JbA&NbA&lb9&mb9&rbA(1b9000001$>bB00b&01&Fth000g01aR02031N022w0k01aR02
  031N022w0l01aR02031N022w0001!fbV000001!fbW00CG01&Fbh000,02!hbi$Hlo000;01bi000>02!ftA%sbo000B01aw
  000001!fbp00CG03fL4h&Fbq001801bi00CG01&Fbr000+01!rbz00WA00020+1N022w1!02l2l0020+1N022w4N015t020+
  1N022w0Y03!il!!fl$&fb1001)0Q!hnh!knhl2!oni!xnh$Injl0$Mnk!fnh%7nh%8nh%9nh%Anh%Cnh%Dnh%Enh%Fnh%Gnh
  %Hnh%Inh%Jnh%Knh%Lnh%Mnh%Nnht302591N022w1*01bc015A2%6Y00001,02&FhN&xhO000001!fb*002201%^b+002Q01
  bc015B2pCG01&Fb<00bq00014H1P2t01(>bR002+01&fc3003504!fc5%wk5(tc7(uc8003701(ecH003902&,cK(<m4003O
  01hd000001$AcP000001$KcQ003R01i(01485Q3S01hd011Y5H0*01&,cY003b01bc015C2&CG01ca000003!fcc&)cc&*cd
  000001!fcg003!01&Fcn00CG01&Fco003d02&Fcp&xcq00CG01&Fcr00CG01&Fcs00CG01&Fct00CG01&Fcu00CG01&Fcv00
  CG01&Fcw00CG01&Fcx00CG01&Fcy003@0n!hoX!koXoX!spY!xoX!zvGvGvHoY$Mo<wH$mpZ$npZp($!vG$$pa$%vG$&k+$(
  k+!fmQvJ%5mR%7oX%8o>%9oX%AoX%CoX%DoX%EoX%FoX%GoX%HoX%ImT%JmT%KmT%LmT%MmT%NmT&EvM&FmE&JvP&NvPvM&l
  vM&mvMvN&rvP(1vMoT00CG01&Fcz00CG01&Fc!00l1029D&Fc%00CG01&Fc&004A01lh015D4S4E01!fc*001C01ln000001
  !fc;002+01&fc?00U000015E2a0001!fc@00U000015E2u4m01(ec^005101c|005202%Bmgd000NB00010j2z0Y03!imi!f
  mj&fc1002*02!fmk&fc2005f01&fd5005^01!!d7015F0zN202!,Az!.Az020e1N022wU000015E1QNB00010j6v8v038u&F
  l)6m010j6u0002l)l*010jJHG&01!m0000l102C0&FdB002+01&fdD00l102C6&FdE005f01&fdF00CG01&FdG007U06%qdH
  (2dH(.dH(;dH(^dH(_dH00cA02!fu7C$007s01(eg700aA01C<00aA01$500015G5t7(01$Ai7000*01&,dZ000001$Kdc00
  0*01&,dd00dh00014V6bdg00014U6adg00003902&,de(<my000001%Sdf015H5W8U07!ft^%0t_%at|(cDW(em!(rDW(*u0
  008U01Dd008U01(em$000001$Kdk001*0A!iol$goo$hoo$ioo$mos$nos$ool$poloslh015I2$6u015O001*02oslh015J
  2$U007%l00!n00!z00$e00$f00$y00%Q00015K2$mH01ol015L2$mE03$g00$h00$i00015M2$mH03$j00$k00$l00015N2$
  mK01oo015O2$mL01op015P2$mJ02$m00$n00015Q2$2Q02oslh015R2$l902C.C;02591N022w7902!moW$KoV045S1N1wP2
  1N5R022w1T5R0001oV035S1N1wP21N5o1T5o3I02l2l0025T1N022wmR01oU045S1N1wP21N5t022w1T5tmK04$t00$u00$v
  00$w00015U2$mI01om015V2$3d02&Fds&xdt00U000015E2bU000015E2xdv0001485S9J03!fdv%0dv(*m*000001%cdx01
  485Q0001!fd%000002!fc_&Rc|002+01&fd(004m01(ed,005f01d,005202%Bm.d.002*02!fm<&fdC005f01&fd>005f01
  &fd?001,03!*d_&Fm>&xm?00fB0000fB00010^3SfB03m^%9m|%Am|011I3SU000015E2c5f01&fe100U000015E2dU00001
  5E2v0*01&,e5005N02C.C;040e1N0mP21N3B022w0|3B8U01H7000001$Ke7000001$Ke8000*01&,e9008U01(en4007?01
  %B00015W6f0001mA015X6cmA03(cHH(en6(rHH00CG01&FeH008U01(en9000001%cm(011Y5Fmb00008U01(enA00EO01%.
  eO005f01eP005202%BnCeQ005f01&feS00F401!*eU000001eT001,03!*eV&FnE&xnF001,03!*eW&FnG&xnH00fH0000fH
  00010^3SfH03nI%9nK%AnK011I3S8U01Ja008U01Jb000001$Kea00m!00015W5X2w01(eeb00m!00015W6g4m01(eec00U0
  00015E2!m!00015W5bm!00015W5cEO01%.eg005f01eg005202%BnOeh00F401!*ej000001ei00F401!*ek000001ej001,
  03!*el&FnQ&xnR00fJ0000fJ00010^3SfJ03nR%9nT%AnT011I3S8U01K^008B01$0eo005f01eo005202%BnW&feq00F401
  !*er000001eq00fK0000fK00010^3SfK03!inY%9nZ%AnZ011I3S8U01(ena005f01&fev005202%Bnb&few001V05$@ey$^
  ey&yey&^ey&_ey00nY00010^3Sm!00015W5Y5f01&fez007v03!ipEMq&FpF015Y1O7v02Mq&FpG006u01&Fe)006u03hGN)
  &Fe*006u01&Fe+007$01l0020+1N022wM>01l0020+1N022wl701p6020+1N022wM@01l002591N022wM^01e$015Z2%N901
  e$015a2p6u01&Fe;005P00014X1PNX01e$015b2&6u01e<006u01&Fe?006u01&Fe@006u01&Fe^006u01&Fe_006u01&Fe|
  006u01&Ff0006u01&Ff1006u01&Ff2006u01&Ff3006u01&Ff4006u01&Ff5006u01&Ff6000002nr)Io1015c2)nf02PZ&F
  f7006u01&Ff8006u01&FfA00nf02Q0&FfC00nf02Q3&FfD006u01&FfE00CG08!fo2QR%wjT&FlA7k7l7m7n005N02&,u8(<
  wE040e1N0mP21N3A022w0S3ACG02QUl900CG02l9$500010s5tmu00025d1N022wQa00045e1N1wP21N5R022w1T5R5O0003
  5e1N1wP21N5o1T5o3I02nfne025f1N022w5K00045e1N1wP21N5t022w1T5tn&00014aJN7i02l2l0035g1N0s5j022w6u01
  &FfI002401p6022R1N022w2701p6022R1N022wN201M$022@1N022wWS00035h1N0s5j022w2501p6022R1N022w6u01nk00
  6u01&Fnm000001!,nq000001$Kn(00000F$On)$Pn)$Qn)$Rn)$Sn)$Tn)$Un)$Vn)$Wn)$Xn)$Yn)$Zn)$an)$bn)$cn)00
  2B00000001$Kn+000001$Kn,002>01!mn.020a1N022w2?01n,020a1N022w2@01n,020a1N022w2^01n,020e1N022w0001
  n,010a1NoL00020a1N022woL00003!08!frGUFi5&Fq27k7l7m7n00hp01UI008(01$0o3000W01!ffr000a0V!hoH!koH!o
  oI!xoH$IoJ$MoK!foH%5oL%7oH%8oH%9oH%AoH%CoH%DoH%EoH%FoH%GoH%HoH%IoH%JoH%KoH%LoH%MoH%NoH&EoM&JoN&N
  oN&loM&moM&roN(1oM000001$>fs00b&01&Fln00b&03fL4h&Fls00b&01&Flu00mT00023t1N022w1!02oVoU023t1N022w
  1&0Q!hvR!kvRoV!ovR!xvR$IvRoU$MvR!fvR%7vR%8vR%9vR%AvR%CvR%DvR%EvR%FvR%GvR%HvR%IvR%JvR%KvR%LvR%MvR
  %NvR&fvT023t1N022w1)0Rp(!hp8!kp8oV!op9!xp8$IpAoU$MpB!fp8%7p8%8p8%9p8%Ap8%Cp8%Dp8%Ep8%Fp8%Gp8%Hp8
  %Ip8%Jp8%Kp8%Lp8%Mp8%Np8vM025i1N022wb&01&Fl(002+01&ff_003701g6003902&,gA(<o.003O01kX000001$AgF00
  3S01kX01485H0*01&,gL00b&01mD003!01&FoQ00b&01&FmG00b&01&FmH00b&01&FmI00b&01&FmJ00b&01&FmK00b&01&F
  mL00b&01&FmM00b&01&FmN00b&01&FmO00b&01&FmU00b&01&FmV00oV029D&FmX00b&01&FmY004E01!fgQ001C02$Hoy%O
  tj00oV02C0&Fmp002+01&fgT00oV02C6&Fmr005f01&fgU00b&01&Fms007U06%qgV(2gV(.gV(;gV(^gV(_gV00g202!fvg
  C$00hp01C<00Tc00015j5t0*01&,gq003902&,gr(<o@00oa02C.C;025i1N022w3I02oVoU025k1N022w5f01&fgy000*01
  &,g%00b&01&Fn800Gm03$@g)&yg)(*g)00Gm03$@g*&yg*(*g*00Gm03$@g+&yg+(*g+00Gm03$@g,&yg,(*g,002w01(eg.
  00e.02!is8&FvE015l1Oe.01&FvF00nd01&Fg<00nd03!pijN)&Fg>00nd01&Fg?007$01oU023t1N022wM>01oU023t1N02
  2woZ01p6023t1N022wM@01oU025i1N022wM^01g.015m2%N901g.015n2pnd01&Fg@00b300014m1PNX01g.015o2&nd01g@
  00nd01&Fg_00nd01&Fg|00nd01&Fh000nd01&Fh100nd01&Fh200nd01&Fh300nd01&Fh400nd01&Fh500nd01&Fh600nd01
  &Fh700nd01&Fh800p602PZ&Fh900nd01&FhA00p602Q0&FhB00p602Q3&FhC00nd01&FhD00b&08!fpgQRdU&FtC7k7l7m7n
  00b&02QUtB00b&02tB$500010s5t7u00020e1N022w7902!mq1$Kq0045p1N1wP21N5R022w1T5R0001q0035p1N1wP21N5o
  1T5oD700021V1N022wpd01p|045p1N1wP21N5t022w1T5t7i02oVoU035q1N0s5j022wnd01&FhG005K00025r1N022w5M00
  025r1N022w5N00025d1N022wC$00035s1N0s5j022w5L00025r1N022w7v01Mq00nd01&FpD000001!,pH000001$KpT0000
  0F$OpU$PpU$QpU$RpU$SpU$TpU$UpU$VpU$WpU$XpU$YpU$ZpU$apU$bpU$cpU000001$KpV000001$KpW002>01!mpX020a
  1N022w2?01pW020a1N022w2@01pW020a1N022w2^01pW020e1N022w0001pW010a1Npy00020a1N022wpy00005108!fr(UF
  %wkM&Fq*7k7l7m7n002v03UI&Fv8(C00008(01$0ph000a0V!hpu!kpu!opv!xpu$Ipw$Mpx!fpu%5py%7pu%8pu%9pu%Apu
  %Cpu%Dpu%Epu%Fpu%Gpu%Hpu%Ipu%Jpu%Kpu%Lpu%Mpu%Npu&Epz&Jp!&Np!&lpz&mpz&rp!(1pz000001$>hT003701(ehs
  003902&,hv(<p?000001$Ah!000*01&,h*003!01&Fp&007U06%qh<(2h<(.h<(;h<(^h<(_h<00p%02Mq$500010s5t0*01
  &,iA003902&,iB(<p^000*01&,iJ002w01(eiL00p%02Mq&Fue00p|03hGN)&Fuf00p|01&Fug00M^01iL015t2%N901iL01
  5u2pp|01&Fuh00iO00014!1PNX01iL015v2&p|01&Fui00p|01&Fuj00p|01&Fuk00p|01&Ful00p|01&Fum00p|01&Fun00
  p|01&Fuo00p|01&Fup00p|01&Fuq00p|01&Fur00p|01&Fus00p|01&Fut00q002PZ&Fuu00p|01&Fuv00q002Q0&Fuw00q0
  02Q3&Fux00p|01&Fuy00Or0RoS!hst!kstq0!osw!xst$Isup|$Msv!fst%7st%8st%9st%Ast%Cst%Dst%Est%Fst%Gst%H
  st%Ist%Jst%Kst%Lst%Mst%NstqY025w1N022w3I02q0p|025x1N022wp|01&Fuz005K01p6025r1N022w5M01p6025r1N02
  2wN201ne025d1N022w7i02q0p|035y1N0s5j022w5L01p6025r1N022wp%01Mq00p|01&Fv9000001!,q7000001$KqJ0000
  0F$OqK$PqK$QqK$RqK$SqK$TqK$UqK$VqK$WqK$XqK$YqK$ZqK$aqK$bqK$cqK000001$KqL000001$KqM002>01!mqN020a
  1N022w2?01qM020a1N022w2@01qM020a1N022w2^01qM020e1N022w0001qM010a1Nqh00020a1N022wqh00003!02UIq100
  8(01$0qQ000a0V!hqd!kqd!oqe!xqd$Iqf$Mqg!fqd%5qh%7qd%8qd%9qd%Aqd%Cqd%Dqd%Eqd%Fqd%Gqd%Hqd%Iqd%Jqd%K
  qd%Lqd%Mqd%Nqd&Eqi&Jqj&Nqj&lqi&mqi&rqj(1qi000001$>it003701(ei|003902&,j2(<qv000001$Aj7000*01&,jD
  003!01&Fql007U06%qjI(2jI(.jI(;jI(^jI(_jI003!02q1$500010s5t0*01&,jX003902&,jY(<qx000*01&,jg00Gm03
  $@ji&yji(*ji00Gm03$@jj&yjj(*jj00Gm03$@jk&yjk(*jk00Gm03$@jl&yjl(*jl002w01(ejm003!01&FiN003!03hGN)
  &FiO003!01&FiP00M^01jm015z2%N901jm015!2p3!01&FiQ00jp00014@1PNX01jm015$2&3!01iQ003!01&FiS003!01&F
  iT003!01&FiU003!01&FiV003!01&FiW003!01&FiX003!01&FiY003!01&FiZ003!01&Fia003!01&Fib003!01&Fic00q(
  02PZ&Fid003!01&Fie00q(02Q0&Fif00q(02Q3&Fig003!01&Fih00Or0Q!hsx!ksx!mq)!os!!xsx$Isy$Kq($Msz!fsx%7
  sx%8sx%9sx%Asx%Csx%Dsx%Esx%Fsx%Gsx%Hsx%Isx%Jsx%Ksx%Lsx%Msx%NsxrK025%1N022w3I02q(q&025&1N022w3!01
  &Fii00pf00023L1N022w270Q!hqb!kqbq0!oqb!xqb$Iqbp|$Mqb!fqb%7qb%8qb%9qb%Aqb%Cqb%Dqb%Eqb%Fqb%Gqb%Hqb
  %Iqb%Jqb%Kqb%Lqb%Mqb%Nqb&fqc023L1N022wqO020%0)025w1N022w7i02q(q&035(1N0s5j022w2502q0p|023L1N022w
  3!01q1003!01&Fq3000001!,q<000001$Kr500000F$Or6$Pr6$Qr6$Rr6$Sr6$Tr6$Ur6$Vr6$Wr6$Xr6$Yr6$Zr6$ar6$b
  r6$cr6000001$Kr7000001$Kr8002>01!mr9020a1N022w2?01r8020a1N022w2@01r8020a1N022w2^01r8020e1N022w00
  01r8010a1NrT00020a1N022wrT00005102UIq)008(01$0rC000a0V!hrP!krP!orQ!xrP$IrR$MrS!frP%5rT%7rP%8rP%9
  rP%ArP%CrP%DrP%ErP%FrP%GrP%HrP%IrP%JrP%KrP%LrP%MrP%NrP&ErU&JrV&NrV&lrU&mrU&rrV(1rU000001$AkD003!
  01&FrX007U06%qkJ(2kJ(.kJ(;kJ(^kJ(_kJ005102q)$500010s5t5101&Fjo005103hGN)&Fjp005101&Fjq005101&Fjr
  005101jr005101&Fjt005101&Fju005101&Fjv005101&Fjw005101&Fjx005101&Fjy005101&Fjz005101&Fj!005101&F
  j$005101&Fj%005101&Fj&00re02PZ&Fj(005101&Fj)00re02Q0&Fj*00re02Q3&Fj+005101&Fj,00S(02C.C;021+1N02
  2w3I02rerd025)1N022w5101&Fj.007&00020a1N022wN100020a1N022wN200020e1N022w7i02rerd035*1N0s5j022wM|
  00020a1N022w5101q)005101&Fq+000001!,rh000001$Krt00000F$Oru$Pru$Qru$Rru$Sru$Tru$Uru$Vru$Wru$Xru$Y
  ru$Zru$aru$bru$cru000001$Krv000001$Krw002>01!mrx020a1N022w2?01rw020a1N022w2@01rw020a1N022w2^01rw
  020e1N022w0001rw010a1Nr|00020a1N022wr|00008(01$0r!000a0V!hr?!kr?!or@!xr?$Ir^$Mr_!fr?%5r|%7r?%8r?
  %9r?%Ar?%Cr?%Dr?%Er?%Fr?%Gr?%Hr?%Ir?%Jr?%Kr?%Lr?%Mr?%Nr?&Es0&Js1&Ns1&ls0&ms0&rs1(1s0003!01&Fs200
  e.01&Fu&00e.03iiN)&Fu(00e.01&Fu)00e.01&Fu*00e.01&Fu+00e.01&Fu,00e.01&Fu.00e.01&Fu;00e.01&Fu<00e.
  01&Fu>00e.01&Fu?00e.01&Fu@00e.01&Fu^00e.01&Fu_00e.01&Fu|00e.01&Fv000s602PZ&Fv100e.01&Fv200s602Q0
  &Fv300s602Q3&Fv400e.01&Fv5007u0Rqm!hs.!ks.!ms7!os>!xs.$Is;$Ks6$Ms<!fs.%7s.%8s.%9s.%As.%Cs.%Ds.%E
  s.%Fs.%Gs.%Hs.%Is.%Js.%Ks.%Ls.%Ms.%Ns.sa025+1N022w3I02s6s5025,1N022we.01&Fv6000002q(q&025.1N022w
  270Q!hrN!krNq(!orN!xrN$IrNq&$MrN!frN%7rN%8rN%9rN%ArN%CrN%DrN%ErN%FrN%GrN%HrN%IrN%JrN%KrN%LrN%MrN
  %NrN&frO025.1N022wrA020%0)025%1N022w7i02s6s5035;1N0s5j022w2502q(q&025.1N022we.01&FvC00e.01&FvD00
  0001!,s9000001$KsL00000F$OsM$PsM$QsM$RsM$SsM$TsM$UsM$VsM$WsM$XsM$YsM$ZsM$asM$bsM$csM000001$KsN00
  0001$KsO002>01!msP020a1N022w2?01sO020a1N022w2@01sO020a1N022w2^01sO020e1N022w0001sO010a1Nsj00020a
  1N022wsj00008(01$0sS000a0V!hsf!ksf!osg!xsf$Ish$Msi!fsf%5sj%7sf%8sf%9sf%Asf%Csf%Dsf%Esf%Fsf%Gsf%H
  sf%Isf%Jsf%Ksf%Lsf%Msf%Nsf&Esk&Jsl&Nsl&lsk&msk&rsl(1sk003!01&Fsm00S!00021*1N022wS&00021*1N022wS(
  00021+1N022wS$00021*1N022w7$01p|023L1N022wrE01p6023L1N022wN201p|025w1N022wM>01p|023L1N022w7$01q&
  025.1N022wsU01p6025.1N022wN201q&025%1N022wM>01q&025.1N022w7$01rd021*1N022wS&01p6021*1N022wN201rd
  021+1N022wM>01rd021*1N022w0002s6s5022d1N022w270Q!hsd!ksds6!osd!xsd$Isds5$Msd!fsd%7sd%8sd%9sd%Asd
  %Csd%Dsd%Esd%Fsd%Gsd%Hsd%Isd%Jsd%Ksd%Lsd%Msd%Nsd&fse022d1N022wsQ020%0)025+1N022w2502s6s5022d1N02
  2w7$01s5022d1N022ws*01p6022d1N022wN201s5025+1N022wM>01s5022d1N022wCG01l900CG01&FlF00CG02!ilG&FlH
  015<1O0Y02!itP!flJ00CG01&FlT000001!,lU00W900010+1N0001$HlW00W900020+1N022w0001$Kll00000F$Olm$Plm
  $Qlm$Rlm$Slm$Tlm$Ulm$Vlm$Wlm$Xlm$Ylm$Zlm$alm$blm$clm00W900000001!olq000002!iw5!flr00oz01$Hlt001E
  02!mlv(<to00Bz00001*01lh015>2%5K00040a1N0_P21N3A022w0S3A5L00040a1N0_P21N3A022w0S3A5M00040a1N0_P2
  1N3A022w0S3A5N00040e1N0_P21N3A022w0S3A5O00030a1N0_P21N3A0S3A5O00040a1N0_P21N3A022w0S3A5O00015?3A
  2Q01lh015@2pU000015E1P0001$Kl.002(02!it&!fl;000001$Kl<002*01!fl>002>01!ml?020a1N022w2?01l>020a1N
  022w2@01l>020a1N022w2^01l>020e1N022w0001l>010a1NtU00020a1N022wtU00003902&,m3(<t+008U017_008U01(e
  t,008U01t,003J05tXtYtatd(et;000001$Mm8000001!fm900tb018F000001$KmA000*01&,mD003b01lh015^2&0001t9
  000001$Hmc004K01t9020+1N022w4N01tM020+1N022w0001!mmd000002!iwD!fme000001!mmf00O600007&00030a1N02
  2w0|3BM|00030a1N022w0|3BN100030a1N022w0|3B7$00030a1N022w0|3B7$00012r3BO600010^3S6002p6p5020a1N02
  2w6102p6p5020a1N022wN102!,Az!.Az020a1N022w6701p6010a1N6803&7ml&Fu4&xu500tz00020a1N022wtz00007G01
  !fmq00sY01$500010s5t0&01m9011X2e0001$Kmv000*01&,mw00m$00015X6bm!00015W6am!00003902&,mx(<uD000001
  %Smz015_5W0001$Km%008(01$0m&007901m&011Y5Rm)00011Y5S9J03!fm)%0m)(*uG000001%cm+011Y5Q5f01&fm,00Px
  0000Px00010^3S6A01!)m@000001m?006803&7m^&FuK&xuL00UF00035|1N1@5j022w0&01mu011X2e4B01m$011X2gn|00
  041V1N0mP21N3B022w0|3B0001$Kn1000001$Kn2000*01&,n3007?01%Bn5000001$0n700u000005f01&fnB00R80000R8
  00010^3S6A01!)nI000001nH004B01n0011X2g0001$KnM002w01(enN00R;0000R;00010^3S8B01$0nV001V05$@nX$^nX
  &ynX&^nX&_nX00uS00010^3S6u02!inn&Fno01601O6u01&Fnp007$00012Q1N5O00025r1N022w7902q(q&04611N3VP21N
  5R022w3W5R0001q(03611N3VP21N5o3W5osT0004611N3VP21N5t022w3W5tC$00031?1N625j022w5O0000e%0n!hrD!krD
  rG!su!!xrD!zqWqWvhrD$MqOql$mp%$np%oS$!qW$$p>$%qW$&vj$(vj!fpcqX%5pd%7rD%8qP%9rD%ArD%CrD%DrD%ErD%F
  rD%GrD%HrD%Ipf%Jpf%Kpf%Lpf%Mpf%Npf&Evwuh&Jvp&NvpqY&lvw&mvwqZ&rvp(1vwp_00N$01uc01634S7701Nt01642a
  uf0001642uuf0001641QM^0A!iq8$gqB$hqB$iqB$mqF$nqF$oq8$pq8qFuc01652$M^02qFuc01662$uf07!n00!z00$e00
  $f00$y00%Q00%l0001672$uk01q801682$ui03$g00$h00$i0001692$uk03$j00$k00$l00016A2$un01qB016B2$uo01qC
  016C2$um02$m00$n00016D2$N902qFuc016E2$un04$t00$u00$v00$w00016F2$ul01q9016G2$uf0001642buf0001642x
  uf0001642cuf0001642duf0001642vuf0001642!qW07!fqUUFC%7k7l7m7n00sY01UI00g;0n!hs)!ks)s+!sv7!xs)!zsY
  sYp2s)$MsQsm$mu$$nu$qm$!sY$$t($%sY$&p4$(p4!fvxsZ%5vy%7s)%8sR%9s)%As)%Cs)%Ds)%Es)%Fs)%Gs)%Hs)%Ivz
  %Jvz%Kvz%Lvz%Mvz%Nvz&Ev>u*&Jv;&Nv;sa&lv>&mv>sb&rv;(1v>s400N$01u$016H4SWH00016I2aWH00016I2uWH0001
  6I1QM^0A!isA$gsD$hsD$isD$msH$nsH$osA$psAsHu$016J2$M^02sHu$016K2$WH07%l00!n00!z00$e00$f00$y00%Q00
  016L2$u.01sA016M2$u+03$g00$h00$i00016N2$u.03$j00$k00$l00016O2$u>01sD016P2$u?01sE016Q2$u<02$m00$n
  00016R2$N902sHu$016S2$u>04$t00$u00$v00$w00016T2$u;01sB016U2$WH00016I2bWH00016I2xWH00016I2cWH0001
  6I2dWH00016I2vWH00016I2!sY07!fsWUFi57k7l7m7n00M^01uc016V2%N901uc016W2puf0001641PNX01uc016X2&M^01
  u$016Y2%N901u$016Z2pWH00016I1PNX01u$016a2&b&01tB00b&01&FtK00b&02!iob&FtL016b1O0Y02!ivU!foc000001
  !,oj00mR00013t1NmR00023t1N022w0001$Kow00000F$Oox$Pox$Qox$Rox$Sox$Tox$Uox$Vox$Wox$Xox$Yox$Zox$aox
  $box$cox00mR00007$00010i3A0001$Ko!002(02!ive!fo$000001$Ko%002*01!fo&002>01!mo(020a1N022w2?01o&02
  0a1N022w2@01o&020a1N022w2^01o&020e1N022w0001o&010a1NvZ00020a1N022wvZ00000001$Mo;004N01$JvS020+1N
  022w7G01!fo?008(01$0o^00WS00036c1N6d5j022w7?01%Bp200p|02!iq4&FvA016e1Op|01&FvB005O00015r1N7$0002
  2Q1N022w7902rerd046f1N3VP21N5R022w3W5RS)00036f1N3VP21N5o3W5oS!00046f1N3VP21N5t022w3W5tpd0000S)00
  01203A0001$Mp@007?01%Bp_003!02!iq,&Fq5016g1O3!01&Fq600pd00013L1Npd00023L1N022w7902s6s5046h1N3VP2
  1N5R022w3W5R0001s6036h1N3VP21N5o3W5os)00046h1N3VP21N5t022w3W5tuZ00000001$Mqw007?01%Bq%005102!irg
  &Fq.016i1O5101&Fq;00uZ00015.1NuZ00025.1N022wS)0000S)00011*1NS)00021*1N022wvy0000vy00012d1Nvy0002
  2d1N022w0a0V!htQ!ktQ!otR!xtQ$ItS$MtT!ftQ%5tU%7tQ%8tQ%9tQ%AtQ%CtQ%DtQ%EtQ%FtQ%GtQ%HtQ%ItQ%JtQ%KtQ
  %LtQ%MtQ%NtQ&EtV&JtW&NtW&ltV&mtV&rtW(1tV000001$Jtn002105%*t!%+t!&7t!&Fw6&xw7003902&,t*(<w9000001
  $Mt<000001!ft>000*01&,t?000001tl003!01&Ft@001z01tl01040M0001!fu1006A01!)u6000001u5000*01&,u9000*
  01&,uB003902&,uC(<wF008U01(euE000001!fuF000001!fuH000*01&,uM000*01&,uN007?01%BuO002w01(euR000a0V
  !hvV!kvV!ovW!xvV$IvX$MvY!fvV%5vZ%7vV%8vV%9vV%AvV%CvV%DvV%EvV%FvV%GvV%HvV%IvV%JvV%KvV%LvV%MvV%NvV
  &Eva&Jvb&Nvb&lva&mva&rvb(1va003!01&Fvf008U01(evh008U01(evs008U01(ev%000001$MwA008U01(ewG007?01%B
  wH008U01(ewP00"

end Automaton
end TypeScript
end ServiceCapsule
