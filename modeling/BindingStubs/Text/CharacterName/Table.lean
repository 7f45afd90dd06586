set_option autoImplicit false

/-!
# The list of names of characters

The names and aliases of Unicode 14.0, which Python 3.11 knows, in the form that
`BindingStubs.Text.CharacterName.Basic` reads. The digits are those of a number in the interval that
is left when the bits of the list have divided it by `BindingStubs.Text.CharacterName.Packing`.
-/

namespace BindingStubs.Text.CharacterName

def listedSize : Nat := 339569

def packedList : String := "
Q-<A6+_Id-yt'*H_[@KY]rQ82L9rbh=_&u:|L%wHE>~F.lPl*4iO7pNNLpNbd[m`pgHov,HoB_aSC7[#j'<`9KZp8<cg`jMMd;6]
23Yz.Z:vprPwFGNlw-+X>T&FgSdunY&$be;e0`2iEcM0W3+lM3ygT9-?6,tO|7OVuz^;|aN@5IM>BX'Xbh'oBH&soIHg#2TZ[I
H?%Tb45zu<WLW`pCmk:$5&%J3y!UQ[Vflf`$paXf&a_3N<:=4p:eL3u!&$r#b-3TYCn?#7^5!@|(9`p+u~5tgQJS#ar>l14</
O?`&2A0+F_@-6Fxs!(J#3AXRWS(m4AtI@s0k|BiWc:|V_dvBJgpQIf#1mu&+Uno1If9r:,XY`r^D'&~~J4kSc!ugv)D??1UOXUM`
q*4wIl2dXa9jF&HT_[j&=E$nM#vG$!QCkLnNP]'jF0]#'*H;Zn%`C2O3rlNbO$KD_;@6#7;E.BVa3~$xRJ3)U1F<(5!BZ8t(-'Y
F`iyxNCKu!EZ66Zr0Hspf;bbXYRl~/oUDDW<p1bx^np2H2T+FcTr!@7zX9i2VousJ6i(-z;H>)'yo(nN3<81y/]gg%WWEm)Qw~J
E#rTqx,R7[B`dd_!qZ71WFDG)<(#!#G@M.;rg^5%8j:&NRJ?1]txhi!7G!<a.N^9jBp25e+M)B5|?[#LM2Y+Xf_,-`~`(!Msj0o2
cCBK-CN0)8*oG@5ei~ZHt%cR,OaFU[;KHPJTKvYHrV5f0[f`?i$YUUp?=KcHs*@~UUl|l[IO'mYU$r/-BM~&9DTcW1yK1BQpFIX4
dIt8AUYt7CneV'sBh/zv2@~8z>Bfr8E7Nj6|$iauXELu-?P4iUFad2>dkXCs=rZKZRsm8+epyo4]o1Xh,:<$RT>*Us1KYXmjICsQ
aJ@,1_u<;1w@a1T8Z0vm$+bXdSYLSyQ:w5%2[t3G`9mra_d]PyxpWZ^5Sk))6uw-7nGVnBG^Ghc4#@U6ZU1Kxze'/awRl=j0!zp0
p~s-tY>QW3Z$SZ;IhqYS~6w*Wur7KvM.uC>On'[Jfy?b`kO1)Y~iD'u<^:-2C/GRMQqV@Ay|KBH++f:x!p^s0DVXRfs[$;I)([&M
bmCQ<$3(m65Z$3jv#/k][@RC4B+5w9`-i$-14Cd?SD~p@:93kJPa`p?K(W!?fTd,T*_4Mt6>9=g'.S;?-G2g:lOY[?ji%|Sf)sLY
U9uBgh~>EtRX<F1y3]4g<D+B<Z>rvrg]:DQiKbx8X3*%a<38nx%=a,Uv^OTc'l3dUcrNol_]C]EXKRJf|#F>5EqKwd_+|~8Xcve-
l`H,.t`>&dK_Qdrvu6z6Ni$E%Cn=nEiD(#YWTzPJQ6D#V~1d2./*|baayshsPUy!o]h8~c2HbsXKIJ1/U(sW?wqhkV0=^Y6gJS
v@~Sqs/,I'<8ZjUK=t1+M0YWcwJAOj<q5+RHX57MPJj5`z$4`*aX4EspS2<mj]@)9/eVb`N7,w7]mB$+3SPJlSjn^*Uk]l]UuZqf
CRVXdK!jatm4vQkA~JV^&h#,RM<Hp:7`@xsy68ETRHhx-xBi#TRZ,slSauY]?67Jj.(YbDXlZ/a6^|lsUc]21>~7R*gXT|ubAq>
J(??N6y:lnZU:ecRrWnD'gL,p1a`psb08B|NW*%|WdhOX=Y7!2GSc2Mm/f;|zDrJiW@_ZWU_D4HWS)*nwF=2g%ru|?|Hkb~&n4
N!*QjUyu12)Q2dXW&ei=Vln(-DQmr5NJ&h[7Q1tk4:Bk;4d6!m_]>q>T^_6Qh-|0er%2%NlSK@DQ2yN[%JsX]%[cX4!Q-9oc04BU
hZ<nZ6]Bcy9|9G]m4['09zVvP&`(SXbR5aT:[up)=7EET!=TWha/O_d8(IoK|W1&bctE+3F@H)4><|#l`e|tri;XUlzRas~GB_b
e-Fbw_,-&L_nYrac<uR'p.sz([VBC--T?;e61?lEe!b.cYT.&[vWhnV*f-sXbAAOu:OiRRl~t$:eKIIND&H>hEq|%0wc(KZl,C^M
OFkS7n#|h83NKD]kN^LqXDU!zS!68F'6lZ~X9PBnMmIH-*Z+V_0vqu[rt%:qm,2sFd$wOf,$nAm|M`^.x~e|V8t?e%m7S)<@W#AY
a=6]jB6*hWY>+[1TBiEk7r)2Ss`b.U0ClmmWG|!C>GSaDK.orb^~M6Dol-@3Yoz=+'g~c=(i,yWXZ^R>_,2u$=TZvi-<O,luQ[V
X&D<aBjJK^9-umVbrR$IN>n6ZsaksdCOC?@hIn^G~!s_:qv9Vu%'$y2y/zk*KpgdG=`TcB[?boKjiNIInPUp+4>]-+h=Xwj>8#2;
1t323%KmOf@'S^<*.>;0J?Wa&%FbS[*3JBRI`2hm>jGJ4Ev8aX8U'N2Ztxt?,%44l6AjEE([vmYWV^/kAkhTbsCV3dHJ96B:]
D~^;y>!z<+-^r`H.W[Y8z7hQIaJAUy7`(hCq4H,$Gd.'KXiaoC]mE7ko-DyH^8rIJ]?(.yj2^5)5XAD]oZMMx4a&x_2QsE.S7ue
R~@iax!_TF_,rab,]p$r:wl$b1`g&A_zQ(,j8iH8g1@hi1O#vH>S[KG@*Z<ni/dh7!AVlWx0j;Emu0,`a1rTHHtXyiWPJ7J:.^C
8)<Ahc|hoRMIp$0MIL:]U#q]&s0-oJ5TZZZA%HMCRR8PZM6d>+-NT6kMWYB,nj:S+koPJRWj;3=(kmzt&RkGDyijRw]YEj1htT
W+$h~58V@;h-d-i'e?eBn9T,Z=-<sxMAt#BhJh*h)=KL&,Sls~6`U4uF!BrT'@o%`Rj&6J86f>#WFNZg#,:~6QSQs[%gigT~Zhy
o[S5#%QK@WSbEB8,y<RyT6nHT/t33Er~@4[ESiUfXp,=y/o5FpB@K$)tZNVbW~aS`;vXW:c1G~@A4&.mokzN$<~x8m%+I,FlPs5<
ldMZcz~3`Q&-g|7./`jlEk!uP2I5eS5&(B;[ufU&nRccw2jOH,0.$w)05'7&O8mkLY(Gi06W*!_OsT|*6fqcnDmD)q&~vki94zX
0,tsHS#^F42R'T>s12tM:I.CKy8>,kcV7h+qK@pm:Y-txK'D7l]D&l|_5joFDzamz!Q9Am=F]Ry;3|=xPU/7B$+`D;0HA(/N>OWZ
1#&2=,2r)V(J122hjOxlEaWMx=LK59f1Ty$JIGt3HXsxK.Y%9rpRP~$&yn^du5pz]G|zn70@`z%rE4ZICMr1o0_b;pMLp3jl$may
v@o!<pODtZjA_NzrNS|`wKPsEl)vVg?>XLcd.[2+|aW<_mBTv>K$$|Ii?qcCgzX#)-4YV$etyX8|STm@pD_;70Plp|_oUk*IQaO
L_:GO=LQ~-q[[O=[Hkt2?>x,`6gbQY@oD9A|t6M7t>dn=V'cJIXQIp734ID|lBhoTx?i4mP+U*E[&E#na-!d>-min!;YW3-v4'd
S$wF~'D9yJg63D%MQ'pyTSS?rX>E@D-oD?-=(_=+W2?3&Ywg!Z<+3n(>9tNX#jMOq)F?kDVgVtYdIkm(dg20b.Lo`j?'cEpn)lae
a,7[Bs,+B(2vh!.Tvt#@<28I9v-qDs5i(yrgypBW-7-|[OOvPJru3fkzmsX+$8t^Y-OV>yhl0p^cD'^.,1DxeMAJmvA^R<;-%VUW
uAo(4i<XqMu9?oDG8Tw;3oUFC[>/)M1H%KAg;pcv*Zh9;[CNv[:6ddnzv*ry~:MZx>GO1htHHW@'!zkp_T`K0mX=0v37(VaVj<$&
q&u(lUoe)!y8jgTL_X)4u/[cXC#!F,]x]JaZtQgzp]B*/7]/C96ewqJO*HSRNmAJ$:)Kg';/#M`GCM^VfVuJZ^fN$Ou<H<!i,<q
D`1F9y/Kw%)1:o9jX6iFZx8/1KlHf`TA]'TVIK$)F^rpCX&,l|da1`~||IaxUjK|.cbo//Do<oZLRhWb9+.~2>Xx'zcAd^F?h*q
C;TR)!149q~nl$Cfj|g[/T7<?'BhIrU-2mpf$q$1D[~@2dcFOFk`JPbh+[$t0W.c21+&a,K-cKj@-hwjF-q,KWud5.u2716j-*X5
0#uJO/JVL)MUw7vfnP*L$+sx0lb_YTHe;n`su_av|Im-GldA_a-_/L>?p<Ja$zMwuFB90E+=WG9]4Cz]43IJ`T)E`'r5oFKL`P+
d[x7x]~j;Vws;STY:#Q%2G56em|b<hW#_41n<n|1fcmk9hU%v*8o@:V#U[YJ2,+uT/la=ade*(,Ppq^?aImG:2YG0wrn0zgfF`@.
qk@~;Q;9]Th;*BE4HwVQpm='P03!!|KHfYm92Fp@;m'):;ifJk9m~T6w6LAmmlcGpkHT:2qL+sK7fZ<ZlcS#4Q;bpZxoT3V//(Px
Fexo6I43)Ml#vs=;h_H;V9i*%Cg2yJZ-`RtJB~9;dVN*HGwV<Fa.6s9[CP+Cyr7,P@wTD_4>pm.L<0?|ga2#?ph=2G.-_/j3E?Bt
CDBD7QX3v0d8H6~5G@jE:@i%;7P1*8wq(/Ej0x[Uh]uf%2QFNX;n'q0!|ft)EQ`_+f['#;tfxgR,4@Y1%S4~-_L3p#DmytiV)-Ih
S1Rkl%xfcRSF)L$<47Y-hT8!VreW#(p5wafli|Sj1#&MeDoqv^seiY3/WW92W:_4|[>3ETMBgF2vnMRkUNQznj.P2h:EMB)PEw(
Y`_QQY~jJa6.T-j7p1VB$o7H7VgfpM%X$'5b=8TuB.yBh9`,?E_J-4UREG@Nj'@l]z!VDg:[ia5,9W=??b[]ayV4Qt6&d5!ZNLf0
r!miS&Hl3ukgDM!NfUIqe[c4G7o?wlQkGQ)qt#rJk~xA|UVs0'qwAEv:p[qJk8^T&x)_t0)07znaip&1S`)Y]K(.Q^:&A[0th01D
6dCb%ZVN;V7sL]Y;TMwI.ASmT(L8m%Kf7QlFeAIAI`='>X'Hdjx%K0:x!'`F67p:~CO'^=Gb('mpYP6LlO/&&-+4d-u*Np3:V45*
Sw<hurAEv*:(fLg5'>x]0mX5IU:N<[p4aeh;p7.Co&&|yX|nUYf9]`&G1lXH^5^q'DI?+q3(9/C%[UzKN]1G5*Gl$Pp~p3q:b~v3
6=Pkn<A#c:k!9pf9EWnD'@e*pE0QD@xz0+%2=E|da+xQ`z:?m)lYn_/,)vfXL^]7*IMd<%VjM>^?g1K..whU&Bx[mQ~nQEvj1>K|
WSg+$C*4_hO7C8BwG9TDW#AM:]zw&XEEIHEP~eCDv'bmc=`HgNuFApZO8|kZKPI_6Ll!ijJ2%-$T&AL~B9UT448js]!BhNj@%n*M
1aJxj^3ck2<G2pzvw7`i_T~DdfcXbJA@wnf.=*I7zHb0mbTL^>;sv2emr1F`O(vjz@57ZDPMksz>!rB~s]I*U7$?d3!SvJ_T$#~F
I(FBw!I,Qgwcf;b&Uj]f$s+!.>c*?|7-xE3ZTEkq?=lwuCqS=EtMsMO:LvBf0N>(`xC|TCk0ZlUBCr*AI.qD_NI^JtzPQ=Z&vS
f>*5+IxG~FiDF<+k>2<a3F,[E_<b>b)X+H*Z]+EF>_e<s3h<Y8NOA9:^j-[s=_[|pbv$~wzfy4Y:x?,5->e8&L2@<bqSVaH5g7EY
L3HvDJe(qZOboD3t6#hXT(>~O)_N~+B2BBXocbiq=t*)GDVz[5cn1`cPC:]1i7n)X|b;BV!GWEMTkB6V3qF.9>8=cu~SPso@AF7
O?$g+<yh>%rMHw:<uKYpW'aH:8$G[,dPz0s)7*;!RY2]Y-~zbLb:zPAdBHJtF%3El-jNfgRb6Rnjbh4RP~<bzK*Y#ZP4/3c8_7D~
vwzCMqlVg@/8Ly_[o3*]'lf&@?I?5>y2EO3iA*U-CE%+sL?v/D%]ihu]r(DWsXL<@[6[9^lo-snWutxk|vNJMk]bUU@K7h|3#kr]
E$^VAZ93k0lL/7x5%wj>wtm;twM[PPODu1eZLjxX=1@V/5&YHQ|6~N$t][9-$Vgx<B3-|?+>F2,h-mPmt9Oh_bjzs15~)4,zS-nH
fk5:jDgnKS#h,NG1r=5g~dnmbL|_FUK$,F1(ctdvM(,kvE[E+41Kq4k2o`fp:~,$4G'SRcM^fG;HLC:#qG2`5.**f@#B-0JY5Cg1
mKv'n~u[Uf_SB<wBNJ.:~pS^P]O#RANg[~'VfJC9$]gmet%=EZ3a^qMx0Q%Y7t[$VN`oRH*X[M=4')!yxpfYltc0Eb&7v5m&s60^
I]epmp9SWTV78o`NK_?xh,zO!p:,P(:cb62YTu*XZcU/-*GLInf|,E^:zg=U`zQBjpVW3ud=5OsB:qok)|k3Bfjm*tBZ[=DL$Pdd
a)pS[V,M[;>]vHwZ7Y,8G#z?]<nJY0&xX:o-|REoofUrD&4~jr)|#/&:wt[+j!TD8=0Xss9+GgS_tdA)TKAQ,u#S_#O1?6#7pO9
4'qFiNDY=w)i+`$/5)GWxZ9i?3I:i#oMM]!ckBnV=Nv_8O<lCEKGAPoE?Al0']RP&-Hwwj)C<$Nyxad8JicVG(LFTcx*%rpkNA.S
4k;k8syg+-GC5(jj8_l#JDk@xZ&a~oSsjF%:F@(8h7(LiY,GS%1|v04OMmh0j4JA>[h0i9g4S5n;q0$4inP|,I_4mJQ#Q,BMNt|
a+MWuW'((y$eI-+<r7nPG))b;;nPPkpr]*_</;)gSCs^?:Usxf-uAN1EV^!~ecI<C#T&I0@3DOx3^g?R&gRJ<<@pakQ]XHqgLnn<
k>Ss4<BmQ8Ov.zdoc]~fR@N~9xK9!d8&<9TLMoYW'q=jP%Ov]!8(Up<e40Fc8mX=Ea9O?<UVj'cX~qHGG/cKeo$;7S_T)':qd*
n#_?Nq*,y.>#qE<=D$D=t+ml4.bHj!NoJ(nLbf;Uj-N7s/~P_gsDOYwn7y2x3nETl.FUCE>q/!fEQ2U3p@HEJWeYb@45O8'QUZ,
4&T07OM7C)=FO-cYN'06>7)Go>|@I%rxB,KQ4.pV$tgv0*s>!q&Q|.m(&XZl(%,uGaJ`.1xe7Ok-[Y6__Bdr:^y7aS6-]-1U%$+
t:dSP/lb1g4cx?tY.^<hlTMpO9A/Y^s0;qHv<:D4dotJ`~HV|0]l^KL>;?-sW8CXg,gq4P1tf_68k+4XCNhWx2h1yhz;W;(g_dQ
q):MhhwtstiOr0j7soMGEoPv6L)T?Y^%HQE@v,|i7!Dh$iRw8.HS3Abi]_d?8GU8y_P;$[DM<TWrO/ZR|y#C$C51:OE~VJL#ySk2
bdj`kyFQZ<^J~dUw$GH9tu(qvNIRIr~c=Pr@(xcc#^Qw:Np':N_I'WD)?@e#Pz?i2A'n`4Z5@-ZfB]]Bk-B_1R3RaV3!wUUWc_8
N&Es-9@('%iD=M[`A:HVF/,pP~j@p/As;7:7Fb6~H8N='.y|3&o^^>5e$]<4$VL@;_8VF^aYx&PM&|g+,*0OboiEaGW*X*z9nx_
V?+.C#pZ=st]of$YMvoue!Gun?h<:eqHil;a.+7a+W(i.v,t_.T$W|hy1xo^HHC@2?tf**zR'i.O(sF=06?M$1Et:+&kD?t%ml^8
OUdS7#kQqUV|#UXsv&.f7ga9V-v!-Mg^O]d>s6z@_C(Fe9VVb42zRp*j$u9'w=N.fOob_R:.?WsV*%pj1?6bBcR^KD3h)Ln]ds_k
olBH??gm$F2]gsK++]VC|C.+xbx~i2/1*-tdi~2hp6~t:SX^EvhLQ6,$7]?.wEBm6[(dxIj=OI_ru5fnJ2`p;M)gl~LQ0uf7(`CO
HU+(KEEuKV`^/F3.;Sw22ZT2sfX|1%J@AwIS-m=Uqb'Q8)Cz<v@oiF,I5Tu[-|n.<9sz!EQgq>=uiIqOlVvyGmy,(VYPwusRpH/8
lAk.pC7Jp1KE~3,A0luCG>Iz=|>ZK6/!&|J9uG1ockb>NUSXtlc$ysK~$Eh3.jpW%WZkr%dsz9N3FDa4<,h^zAFN:wwrCj_aL_]
X+rTgrbT;r>o33f%mJH:9Q@YMS<Cl?lTcDR9,`b<%<.2D$B:l,'RlrHcQ-qzk7*+Jw3he<F)-V586~='Wu@f5xqkagat3L)/Qq-m
xLMZ7e!./KkcJpIS~uv>_H3[8gZEAUk1b(xO.o/Y2G16*<,2gnEH#_uh)Jsb.B>1/n?))IP7/sKuGs^75cQ]MINqJr*gr6yNF!HG
hY'wH&#gIxsGr$tQRax|rYLaQR/UsW~E`=rZ;UMsH~l))Rnwe><4u%3[pt7=oN_+%LKJDu71g&ZU?vNZ0MAbUc!^E!^!/m.FK51Q
M9D&y&f4z5d]'@B<=uIS#V$r5~j@A:&a8<*)!d4tC0jxVLB)c5Q)0-@ma4p&8Kq~ojPPzp)+:i)X~qh@%3?x/vZV^H1~^HKO<AY-
dU=a|U%P*Ci(zVLQH7wce.mq;zs9n,r'~eL2aC~/[bq5>CyPRs_]7jFdwietX:0l:Dd&NX_SDf?;S~EswEYcUwUBVFLyKqq,Bf^
D):`[)A`I)Ft)>Q9<7_Pqy%SJQcatlU,]^DspQKg65vz+Gjo3jM+>.YQc$c6;ARmpL6P!q'J|jt~H|&OYp<qs'2E=?iG51bxn.b~
ZicXL_W?FfAbcF6:8cQLh+1LcOHE00ankV&)Jc:atsm0q[Q%~iTi%)NABR3Vs3-5mu3,&SRm7tv]vNlF>rsRO%l1AA6k81Qd*E|I
1H[~6(+^0`N?Hgv#N%62NUzA]U/='.v5,HMty>z10Np3VdGM_&-o)K2e~&3loDE0li_ntjH_A[Kjy'QyaA3AYc0F,ixM8j]2t
c--!$cirBq&z-62u7D8s3gr#wrG^]YjBmW[RvoWOc6.gVL0i&|F.)6,9,#Vf91*h^;utRYQG=]|qxve?pW-pdf#:&K_6bH@
n;^(?!GeZ-9ZoS<9J87/<G=<zYlz@n)'M~257dA5Y<:3)TJ-w7CE>j$a%3O/B*f4o5I.T.N,Je*%vbNktUPMotmL)wL!%LjW!rc
x,xTYdqKA(>F*IU'o8XGA~@APqTUP2jg,`j[=VK0K:?Q>l`/0_7*b8`+O;^H)nAZ.T.%O`.?w/]u]YMuEIV``g<:0+C7d<y$?Wcm
CoPRuah!)3$)#@hJgEUS91t3hpp:,O#V2(3m<e.[>5H1JJWClDIE(nLR$)|Z]D)O%F~jqZTA<FH2dGcFA_j9VX=r6XREE_j-MvQu
DTkaAx-b^ktlrw<Da6c,$<;53QOO;D*RM`q',5CUX/!^2I~K[ABq7o-sBh49HoM)|,-nmlHEv4y|L9/=5kZB*8>@YbFkr6?$)`y?
uuhqzsfsS@p5ou*EWC^rFfD.w.,XYa$wj-GOAAtPPT!SL@8f;fT7R]fMN>kZXW9zC7N+AnP>um!k/a3<)b_)bc>-sZe3i]o1V1Mb
nd9-gH%KI+zV0#/n,Jn7rv~1|0I?T835$XL-]X|-wWd:@0Te+AfU/o')c1Us^8J[as?KV9=9~2KdVeq7l&YkgO:ye|u!;z.59[M/
dg-V/#Chy~h^bx3EA@IQ;0L^^Yb5V'<xc$8Cg/6P=#V5)VMKX?.:gvu>[K$fE|C?PFNjabMV#ylO|-$Cb_(6Y:sxQ21tun6#ipA^
oK&Rc(j4mb(4uZavkfqiH|fh#tg;tLIC!=VI$1!h*7>Rr:bBh=AYpJu|SL[3zDUpx/pj8^~;.Vcz8os!hHm1>aGM0|`A^)xE#w3
r@Rf4Rp77TJk.@`FHa)Lv98`*/Fql39HeEl>|$zh)OmZ,@[oaj?zWr|Y)ut1SY-_;6MEMFCM(XsQP~|vYL$u/KjWK.n0!A=H<jbs
t&A;@`1Me?xGdOM/;QSfm@Qunxu&xo#Ocli6?yE2L!HJlS=)t%Xor$cirZIpx<Wp%e4Q9.~tsSt3]i);O[JtYj%pO<Vg&S=c]dg9
whl:?/)wX]f53s'G5pjoMt;rz1fg`OMO#vvg2m>uyU.iH*q^&fMK1;7o!tVqidmgHUbV-aoR.[L`.pI?r63jB@d~OD+Yll<re*NV
r3MH]Av1,4shDLgdr!0''K-_)DX;LZz^GP!Ec~K=5u__a2)t:j^1q%';W%6(h7d7zhP.ZOH#qAYyt#Ubl&NYX$4:7VuA#mu2O`?0
Tc?K.SMeW,Nn~eZXnjx4v7CKvPsjyM6dc[SmJq|[Ps=lfnA%q)YuG?)O&/~Z~,JOa1>0iV2o2S)@*uDC2H$V*jFb-L/<G,s|U-]
r@IO+h0SZ!`i>r.mN476y,ZHoKP=P`&3T%/o!o|UYdSgfHF*SF(/FDtwm5cw_BrmZlCS>MJIod=>'.#L@!Mq779Sk|dlr0!r|P_3
8bX;;.&M^7ilg$JXJi$#6@A5KSFXJ~Qs]2aUY3I~-7*4%gl8s-2-J_**uT](dk3S@d(v#.K~C0A1is`+;;0x'o#;QiL>8(`15'C^
V1Dwp6H;c[[v`Wnj3kqgM#hJ^k8.Z2BM(kM+y[K<qhXZBy/Gp+gExemsB?+%SZ_9OQw-dG`fC]Brqne['-360U0pBJB=^@Wk5U;/
sh9px4`<)^PQ7c:zPZdC/iEuFihedFMI%,0tcgw;VcJ5ymX;u.kpl3(<)'u?GJ_:47E+h_2@%/soQxpG5I`<N%'<[[+[)xc;99T`
ZPV$q!l26W[qR??yB)NDpmImn9]5zo=h`Yzxqu_^G$x02EEcKCJ|G3wyS|PtSFFf<^W|2Nk|^U~7ER5Jup>IdF9_WwQ=,vZ4y~`U
fIYp(He6g17??!e%ybD3`n*<qdwmL|;jpyh!ki8qy!xk0).i'?-*IgXtQe`tsT*],^Nj=$'i]RATGCxzV/)sK&qws.oy-'g_Y^.r
S+NxW6IjkQz.0cLGdb<H&&s.yjcHzW,<C_Ri!5&Aaz>,p[4),VFaGi+hps2TB^S!^N#Mzqn|X~^~1u1OsbgYqn[]oZFohz:vZ1k
H$gM3-`j2?G@YdIWwD>nsUl/8$x/cWZ3C?|rlm-X(Lt9Qk.GhAICbv)!K1_HueZf#jH@@Y`0MAKv`LFnRJ+y2rSL=El$x7En9,9.
g4v$cXIx>EhD88v7RiD~CGW`k/1IOxdQ4-GWge'#a65'w5z~Dt7M6H7KtDm9/(aBXWUaO+:r@C|BeLLT&t([l(D7PI0)`7>7VnP`
5tz3|4UFNdWjR1G%Q6recFRy_a%G>8~SJsr:'zVJ?-y#W3h4mz#p<~y`YkmAHJBy[i4]%+)^Xp$igDr=7i_;_:O^gcvhDvVUrH|2
XO|0k5]@%GoHzAB8VO|O*WGI?3xx)~E6M~U<MrOsC|m/Q563dootWcI!?Lj9^61|~hi~EK7A6Vm+e:,BxL/L6ZmFj~&]z/F1LSXQ
SCXLxTnH72?sB])&b)|=GAY_J46@F0Q*;FF|+L?k4_WPRDBD`KhzGnM~.u[KKNzOg4iEQulZAuU5nS]GZ#-l(l~lBb0@%NFl+:$?
VP@[&^sp.g+;HCRpR7yOX*|*RG^+23eT!Kx(l)2AW:p^s-@|_n!cKQ$Js'54[>c/@C&`jr=k4?(lmoJ52.uHPo@x!sq?FESQ+nn
R:/Lq.>Z&xp`4IyB6mXCxo#UTxl7h,uAAfO0lgALQ?K/bR/gSD#7+*YdraN:Y[aXAw^SC~|GfusuOo.pn(ZQspb[ep8]`qqN$*#(
Pvp@lU7=F0|TKR:%wehi5,mti=(wiXv5`1.px(X*HJNvgV$t*^(9$XRYQ3e!6Hq>_&%h-*>eH@P]ZR+IPdnvn9.+X~Fx'0GWu>V
D*p(Q@Sg1zO<,G_B2'<?w^!uzx.N4wABrC%gHl0peeeJ/xUISvSpWC00oW[w._c6Yx(En>$Z/3q4!g,.(D:pXE$'8<[,nDYX,QZ
I*~guH>lv=xlJoz*dAN@(f6jQCt=F2I3=(ogm<nu!V6&JA1;JucA9tDyABA.Mu:!Onc)WBS*y_]o(&F`SeoZ[i*#,4YQ[4N`f0#O
1rWYB%Z<cbvd9t3v@Us5*9+7*Ga[+qqY%[^`|2N3d4l7^Dq;Xpu_NP^I*/J<dmm5IW;i'z[0GT1)Y~N)(ED.*$hza3MFo]4WtQrl
gTR9l&&!-]Xw-N<6<*(-t#2&#[8b8t9yrLm/uSV7Xcs3P:A2g.xVzE>5$OFt3mDNv@=T>:-P`Tgr5NVwDf?HDuQzh1Jyhk_[[@Hc
GoNp=pB]3[)SD2(V4t$)z~gfjFDw8k8DJ^OVajfi51wz~]u2e;lO+HP$LV=6m%,rdHTh@_upMxDpPEutUZ?eb%,1GC0LNy`iquCb
VA|fYO)is)exXrPI=-%[LxQqo+eo'qBG~xc;.z:Dr|.nvZ-.j&$/'Q##uStj800Xhl*`l+DS;n/lWbK$UlnYWkeq9frL`596C2Eg
DDY&HfL47)0O8qj4b(5HVxV:J~;H6eVL6Ti<Ngl@X,%i5H<ZLO[J&0$VtfL4[6s0xuy4uLt!*!C%tcL-.!~VYy@ODCYdgg6rELl
o])pzIj-9VrjNGm,-EkfaX;WjBm7!t!EK35]5sSNW/nDbo>Upa.@46+yFwosy+0%>OUvG3*$0E~ZRo*HkQB[x|~nqpwxnPPK>z:
9[xlog`SJa#z8.-N*gA,p(zO%=i9#H!l@^X@h(>Ugt2OYg_9G7jxU?p7x;sA*2^NNZ!h]rJ8Z.t?[Cb&][%c01X0],$WBWQlVy-
M+!Ghex_U2#ly<+<C;]Q6.Bm-;--%vkSxotIh|:feJc-ija=hN/z-Hge3g?CB_+-X7OxYBvG:q0-/#rr@_5g!-5:CX)<mEodq*&'
nCr@fthI(K-Qmg8<1>'0)?s;C2P;dsRHPG40b26ZCi[6'J(DoDg6RKxy^]biGD;Yvl!XE!Sa,il,>74M5'd9YhKh;ZIhRU2h$hT
c,LL]u*<9$'*yZ;el4i<l!;*]DR(u34SLoD4ll<,r3lj5y1[@Axyt$u9CJaf3qy=&E!s'U>^57F?T^3vKEWf4vVt?Tvb1mjz
7``[,XeA|jxbiO6<T31<.a`dmi0ytE7By%mPg$]ID'Z6CZKpUM~OTfnMQmY=3(gx0%@ua^wi1>jQ>W>+N!*2|5T6@zD7kcFT~g.r
uv6j~1L_:O-1bzK2LxQfNn<y-R#30V3/G+e)gVP$b8il$)UnoAY#F/,lI)6lXlAKM`Fn1w@]v5@I)aO.HB)pL+5!n&@)Kzu71|I9
Pr?rjckL/6Inq8-z&[Ha~MfoW)+347-;fO%ne*[|uilss@XrlL_2TC$3F3`+tF/HWyQiG|f<oB#*_#D|A|6BK=IK%I]#qtfk#l-~
R2rwG6hGFm=Wq48hAOacf`lu*^5U=SbVc3TafMtt~uRZX']6W##rb&7RrbpyCyM&N!eyxERBc-TKY7~L4)URW9|<d<tc8T~-e+*[
L<JBR54%bk`>?.ab&(E]2K~Jb&:0##EJ&&U7a`kP0|iOeoiD:#*7Z.)=/PG|mRi2XgKvp7c/qSpu~qY^y$Wv5x|aoO70fsjMT,.
F/0~<)4WoISEQC*?h@lS4wVoG@~8v0~wLd#X]AFmh5Sp'eY;S@vd]ygh]7hwIw7)8pu4*dZ?IW+f/$e$wVV6J=`?B|av#fe!$ZiC
j/@[rZ^~Ds3|>2o~><:4zCg%`]__)2,_8':B5`3%T.9Ut<i'##IFZ/8h<3>gX?m;chnRnHD_'o9ECQpDuFttZfI2eiz!-6bRy7;
k#@CC;20Ka:`s$4Iz9:s2v)XfWU+TQnM#[C#7&t8l@]-!!Yw<qw@d;yv#jk|MHx.7Utot#:QU]#)'w<A$wju@$ht/bah.>lw~i|
L+2|oi)[*(3D$k-(<e$auOdV8Hyz>8SUg]~(Qdg02X;:-ruIz;8=h!h3V7ATZ-f#yC.j`e:(+R(I|9|=Na41y|[g3tH9R0_yrdD|
c;E-qr;FEkCx$h_wOW^?,V&+W.npa^xo~w`EcdU,4-_0x.',B<4V$8dIsGsNoWu[b4G-*8P)v=tG$:i0)cB<uWPj=#xe&Z'>-ldW
H5.|x&n`_-?8g#C*Fvv5mYxzrmqt`^Zy<>I5~JnZN<H`gy0nK90HeG>#N^T+vSgVLiQax'%c_ZIOFsA;?z>F`=~[EU>1*-0Y-x~1
7o?2gSS`g9&Z`veZ^>N@e+Hw>HU'gB]r'al4>^^Q/?W_f^'Ebts?WwZFs0KvN>:(N`$c'x<(MHn](rc(x**.*_r*bT`0$Hvg_By
8`R^d'nItNDOzt3hh#JPMba[m;-EIN-*huAf^j-gGdGb6LVC^AH[y~DBq+_AQMHuTNCn[)T/R$w)'daO!:pf!PsdS+$(Odm_@$Ft
BUYco/)*gZe9;sm7?D+O)+Ui`Umnzx?<xQ%1vU4Cznj4qb#XoP<PJfMb6]0GPX8|8hz_'UA],k|ion'v]E?DW^5u*LD9%wugY;U9
J)7A-w:Y_V)3PW&s<`erYx7cG4T^d?V~#;)fM?KfRBaUrBZ6]^6ua)EnE`1AIWa<)o~tQ][uedin4afn]H*Ep<tT:c<S?cDT<J4H
8-O?;la/#C<rNz6r?%syYa-&r^yHWK]%Vz-r$u_*6^bF~+4jD906u)1([m'Xom:)6S21cB<n1r|2Wl:tYfmg(|pL9j<7C|_8(uKH
1,$riasix)f2@NBgT-)#T@:)dg]xuY#VUc#MZ>fpl#UU!+N).q=@5lWn>u5E>~baRLPkGEXaENEc.o#Do&qqV8_&?viK+`]tr-of
l)Xzb.!eRJ>0;(u7=4n/`/R@x-KiE:P(n.wMRNfF-F5`a.brer'Ir$BpcX_^bULVvJVpUt:RrZm6=nOcDODz^oRA%S6$ud@z$-*
D-@d<fgUB|U322y.2EhSrq2.>7bd9#)-?TW@w#N;DfeRzU34z?%*8$oi)as7c+;]g'QqV[=[Zh>b^#lZApI]zh0%DJ5M[24#EkiY
D~CmuLlLKSM>Ofv8npH@U>a0DOH5#Pk0&&~)eCZ&L/r8O]GlD#/%JlyZeR8El9CVSuOsSUM1SFc#Lsr%HK(A7:^laP:sZ+#oLrOY
Or!:-gR8GRHFsPQ3-,w&M#OWLpn^a2=f!Cj+iPyqdM*sh9.g=HtUJ)AF#2t.E)q:w)'Yg!J-LMhK*,:1q*%qQz:H!DdwV8q)|5IB
P:~-Lw6KNnW0SyPV|$W<,v;-&#,Nes.BD;8R%jXMsc6_n:q/*u[d,~4`dv1n#spx^M5(USlC4@9bOCFMi5Xn'AW(!%k'19,<h^2!
x,(pDNdZ9PQ+##]*1^SM/V&((VtAp8O_'cjefD&?!Nv*kWLt^2/!?oTvXju:DWbmXcCC]r?'(AOHTpg6OQj8Aj#e0+|_(#ml^4O
t+V!7]Fj:6oAn5hyD#@0h~zr(;[51ftVL|8PME0/dx%q$vupYZIXJeyuXjbT-#zqSJ5c)Va?'v6fr<5b<|Zyu3a=3S/wDVhf6sM
C(40-V5.Th'~iE;-IL+31n,ywF/WJhliN]QgwvPgBzGi^vV5cr]pwN<#ZP|FA>3R,;lKT.ioE|3[k|MH>Ch<v,]~-$W~d'`T(Nr3
dR+s.i=`o2^cYloj!nj~cTYSn++1|)%4?H;Cf.khF<j>2Gs!kZ|8@id/C5dwmBX#=P.w-s4^zI4Jswb.I%ix`z~gD7si[<?x**d
o_5g>^1A*F9iz'A(%jO+.b(HBPT%vC>K-5#8@DaODlyVg.P'M[o6m#$tC*PQ.r9h*Ig[R8=98!ys`-.G~4fC(M)(Yaz%ghU<OJ
A)|l35>!Dm$U&B5rWgFX~r&%O.pf:lgiDCDBs7hKL$z7/LCS7#BJ&94@VoE%guT/jK2-bU(v-Y$Q,)Kt9q[>>Wu]s#aG|i[3wV0
O@wl0Fy&t(-m!kXZ-_h,;NShM$Qhzy:mB)t[V(wDY(']yn4KjxPQy-d*=(_R]XtpUx=To|d(xy`D+s_IX_/lWdT$Wpa|(N$b[@`
D=,e:2_wa2^8/nE_7THj0*U%Gjlm!3R,19`[&4g&FYi-`bHwVAEQ4(LzEh5+6okf-6nyO#XugA5Mudes@db!BL%X[lY7KuUgt!i!
mVBl!c3r8J=k_y78:mRxk:$Nnj=M*Ul!N5p8yP+K4#@8s<e!y&NY1x:h8LL^6:su7Fe.urMpZ%6TBklqPj`S.G:ZoQhK^lBd@_Wq
i0;JtDwaq*(]B~o+Q<m~C5y6!>d>z'f9c~;!c0FzEe4hJ91EpUWNHs0!6)*qyYdD*z](2&k)^l8aI<hbmji+h5twX~RAlftn]luq
K-F2_+Z)@r^tX_6l9RI]!%mI@3|$1z'swFyXiSp9hD?,DTT46n0e=?c9gBPQm-,x$vrrND&_+~kL_a$nRE%ul(#V>:!SKK2(&CQX
8ktq0x[$,c0v(-vzWFrYsa_-E9H$w`/_=r(E`^*cv_Jg4W$Pq$3<:VE+TEt_m@~SIVuEa+<#^@IZ,_aB1WzGZ2x;=Ekn]QOh&k>^
t6|(|ac$n>5yiuj=Cgnu0Pyl?orBl8(g^bNGkmI$Yb;]vRC`)WChuRF4O;Zs%_n0[`_sj&1@DTK3v;2XRKX^F/MLnFmG*Kvk2d&b
K,AuIA+&'+6vs<lzYl+x@4(@#N^yd9KBg-@@/UzIAf~z*)yAB7KAx9HO$wrH#db)(^_+F!O*K9(19v=D](idhXY^4Vc=5mQ@xgy
K&S?U%KM.&)J$~GJ>RL-ux|l.:Vhka'G@Wa`CV|^?M.o.JKql>:fiU!]SDY(Q8SdvJ;#EP&l_p#Fpi|V62[,,n]~lOTI~p<St&X.
Pb;<'l=/xS([dnSg9bzR(R+9PF6H5UlS5M]DdW27)~2yXib&86d%wh:oFk@bjON82~r=3*hDZ#Ix]uh9ls,fE^?X(#gunU+cZICt
NSCY5WS^CV@f*6aJEPWJm6]6.i4FiYxkFSV8.OW(4g*hSciT:CTXytmYPP12uCU<X]?_#EFofKJ[%$&ctKGMQtZ`rph-D(O^^-
t$;s2-y2Bk(xu#XU2,;#.2Cj!~ZuCa=Ccv'5?/ataSDB_af@Q'8I*75arGD+cL2#A.E((yRVLsh'EBjTFh]j^F=xA#0aNFW'Q-*`
T(OBuB]bvBrt?Nac(2VWNaN<!jOlj(pQ7N/^p|2*Z^bJ02<X`St6Iz5*l#H~W|:6*4TZyJ_nCD4[I8@v|)qM%cfaW@s<MH258S>
4&mT_xSwQ%`lLIg;)<wRsTxVbikv2YHA:X*9!BR*qD'p!FRGeLhY'N%&gTQM=|E#T5jI2r=r<$zHCa,Wqn|O+Jk($%@hfpzJX!)
a(bRT!J~:Bnec.GDjqMgCZBZ?R)C;L&;xl+*z>`^QJRPo_&G)Iz;W^U:LxUVUJLVqh:/i+y$y?oOf[M7Xd7prIG!b5!arAU]PFS
A,|u=szsA;q6yRer.#W/R-/1RZ-:,3|<[q6TC6_.(5q7(!SA&zT%wRm.SF:Yg<?R41mX#x1&tAgz;Di@%_;YRk$0lvGNx7db-K
i@$KA|rocFdOODE$v:_4:R6(JEEn#GWg7`q1Z`e/Sm-w.)TBk;%j/ye,%jj>qQ)'>P+JyDblY'F`G4dl_k&|Eid3Wd-k+)<;?TQy
fZn~iW[NHw[tpk>,[.QxyKjO8Vbczx8sKl]40TNzm0-4_QyF#u!y+)(s0?9)u34J8D:9zGiwjZ_k?'D>b:=>U)Aau)pK%x=`_EWp
EWB#xPqcAqu$4?t4z5|0rk)EI5%K)AZ!19aBU=6u9_v*hp'6)pWKh62<wR?vmROCudl(_RWJhI*?<UTf6'20D<O>4xx5]|!ie-
B+|4YVy]MLxS)Do<5E+b.pZsw.7:NI@u/Ld-0-*[&jJIV2aWM5:akTT=&2A*/g/6o<;c%IXq=7h(%wmra=+nqQ$i[YzpR.MR
N.[?#p$>B4@^+K[pOQhlS@*$>Y`!4Q6ba]JkXmhP@cM&L1.0k1F/CQlCWM#@=tuWZ_g+*|q$V_&!vRzklk:,oQml`EnAaT3#w*
z-=<kLkJQaX2a1:gtrW<[qEX[.UWL::D_+|X|jQiy*DTmV~=6-G8kl;H>c+'-=XMvNjuwWYU3#lkU)V8As[r[b;@X5|TZQ1(rOF&
gMuL_$_:]K3;r#I7auXKMf[w!31vE*ea8z>@*e$E=!gGeFp$HvnRE.W0F^lN],%DdUAd]oOXv;.g&90szD8$<KzPxg'm/7:yT!x
Z~T'm^?3>77h<QoqCM*'pC/&:tqR*Z30^!R`Onq@q2)a00+Dj>G/c2:tBb.'V6;$$PEM[4oGl,Gl]VVjS|Nri=IJdvj8't:eCdwu
w_BZJi-d5rT$T*o0jK`OXp$O'.@g')gC7vEZnM@,a!7=Lv_h'bJnwhN)HFp9[VD3Pt$;8_yhTxo/%6lw+m#@&!Qis3GZnWMJ7hc/
H=,j=/14(U9C]L,3XUn>-3~o*R9xhxN$a)B!06o!<;,'n^S^T.YF[:%B/pVfO3Kq-.IEQhH:d!#V5D7&G28K6hMh'nWT.[l$;G
M~&wxe,E+xj9u:du>PIBz9R3eS$tfcPI.JR$c;KQ.y|thla@y|cNm$;H>k+Zaz-w;!+mv]Yb?=h*tXUUz1^j?b7$[#og@dfLr^Z9
K%E8w@g_O6,wWcr@7Dg&Z+^2P&er1?K'&4@-](L@,3L6U'H)Vcp%F(BdwRIh7PK<<MH-^SU%uY0!`9qgnv=%]uJ3:$F2,GmFP8
H&+m3KdI)Xf1wehq~R!q7%,_p_9|>qV1sg%1U!(nbSM~p|/M#-$2qc',mpTVVo@OIo6bV61bwD[R30@]5)q,D=_oQ/GNpbx6#n.?
AbZ_>cOAI`i*?m<qeg`HJwen?$sv3UD<uY$NJqNTQq%Thz^Qm8EnsbqA~lOxj!z,8h(Jz?aR=oZ4CGZjF)bDo7;|zdp@L3vrYz
b]?D6qnSHx'YgoTmBPQA,[.e)<Aw8&JfibLcWq:v,$=IQYT'IDDy^1foXd=0'B_mNV44O8uk^ra+dq~~CkY^@u]&H;Rv2%>V`Y)j
C2XSIrU,INL+!C1/_scO'J)|n.[fkU1Gb-..|1gKl=_u&bYIvcT'3q;^Id1vrUZe0ktR;%veI`>Ic'zApYZKU9,&UrCMa~0DJN0Q
0dgsR0dxXFo|#TB>:(P6T[$(q+cn~w8-?Uijw0*WtSB.m,~lo]QdB/d$i-iwZi3puncGou27<Dqo!>>=3@R1DfV;_<~uCelZ;Mi0
lpW8AI(+w0;aXGu3G&%9B+54Qpl2~d,p<Ha.#?;3/-,!)ao+i2ET;ox.#X_2A8lP#D@`2dJEzP`is_VglR2ut:q6yZrwfWXQsCcq
iv|74C$_q8*zS7p`@;Xzy.>0HCM%Yh8y6h=4HPYx?y4f$7b%Scf0q2HhcL7R)X.AiYniTIcX,+F3%z[7jN++t%sL(aHTL2.W%:/G
XlCC/`5d`Kj[pBXEdazCQnheq1x[@/ssyFZTheKIM':J;cYu,gj;PBnd2|SeqGl|N<W,9_`xiy!ZlCl[kn(+nv=Yf#3>POkp$t7a
wkN_(J/ok/[5CWS<S/P.J9Eyk-lJjG_y,zTh~pdxy%z.a64q3B)Q:e!uPUWxGi20=|5R8Z`q'kV-dNU`I*UE[P-V@T?(ral,WWOc
kp7&wd8$JMLwu=c.54p,NQjUxp8u!-)$tAn<VgGJ[SQw[g9`+YV#,cp?Mu7Iw/@9^5ZvS_D_@~*1QxvIS~Eysp~9<5m1J.EeR1lR
n4[8QnA8T$%~[W*cy:f*u`=*bE:,NMzR:7#Dwvz.-/!)7HO0(YS?Sv8';^[Mnfs$^:z0F>xYx@B/BWatFGl%H-h+,JcLt!Y-*d<.
d?~8K)@*|NCz%)_$aI3O|[&34OR]B3<o7.qeFJaCubRE[r,WD!Isw!6hGbIUr,7.<:EA@',3aT,#&<C'l5)qWX|Pn!vY:eF`UWg(
jzw^Lk,hK~@FMuTB>(wN/$G@g_5~LM:33X[HWUR!wc],7#jV[+,hgF>Xinwia7L%x$z`Ak_Lu_C84M1<7[`$r^&$fsm'h:QZ9bZN
AEl)h,vyp_mVqZ3M0t%dktBcql#_,G+z2K%e0Mk2ZS5OOgj1!,x8qjQgG_<`O1OiVw^CotCS+Ju';[TR<9J`n;(_?Cm|R0,J-!l2
za@M`,76-TN/^02J/*z1@q'V[@#2TW[iDo?LepCwq6]L%WWJc@bHE$<<AojuVs]2qoxST&Ql9*S(kr1DMx)|e._,^jA_A20M9i_8
l99W*[s5Wb8y?|dxRpE:v!$3k2lpZ_C_?=I!3bNkO7t5y/IGq=IsKN22vD5nnth6NFh=3+AQ2sLzMF;MG:/t!b(17xt@GF%2~i
D]/haJA:&08`Zz5l5O$Y.k>-vluofD=x8v9qFm>8vLGH`)>;MQ)1woK^M0Z3XJu8E[7F_8A?J@&Iq_@B7jUjkRzx*cr0]iX@G7A7
c=lv:I*PZtJ4X<6ZbE[_EkYP8:t$e<MXIfq?]loh!/v%FR`)75jDLj&!&G;e~PJ&/d)Z=OR/odJpY9^9ey(C_p;VN.t8Ohiyy0B0
F*p#$H?i(U$#W9Hy.1z4jXWg54o,[p#mt)YzB2rg8Q/wg)5<==hj|#G-i>Bph]oI%;n8uKMN6r>~'c`85j`-=W*pO4sg7&k`+hm
5&/=JF6F0uJX|M8)XCQlQZK7fd&r^i/G>b-:l@hvtr[i!Z(i^Fiqo(3n9=|d#B5s#RA8FM@JgX'ZlW8Alfik__i3m)s:AxW[IOs7
JHFgRcFviMrF(RdR$DVrpj*W!cW+;8g*;iKT-H&^)/#YPs$9C.L@B?R~WgL(L^Y)kV*yM;K(7lWwbX*HTV'blT5`^r,#FH~Gia@
P`:*?a.tq?>qP(&l&KW/E>!+LYB2[]ac>^aNE*p.WA@Np-DR-iOM_71X`Qn!^`mxG'QWE%MYLk.,)INA/+(|44KQ<UyD5#f0+C|
0[LfiY`)f?1W@)h0Oo^tS]q(D;oDp*`>B[tzuCMVp(1>O]A^;zUR7y<7c4)LR6.PZo']#_O0xHdAn,5;an)j-Lu,[<EKo.f>:%
6+(4&^A<nL73;q[Q.2uJ-f!E%g$+Q.-=c<eW*Eem#E~_dD<ss[+:Jb4!H'i@aMrw?cPsvew59h9.`H|&u7'Mi'(;rB@`1m7Dglu#
Q17yhj&6d]X,*v`N@YnFr-%8_GM[A,74G>x2#=m,:&M#uPZ%8jRS1J)Eq66Lo_TltHEA=/s]29R(:F8qCbFa3G0!UNIW'2Njn5
J,=|GH)s(UEp1eoo*[b'n..wcm$$0Ye2sU#2JLO#?^RS~aMK:O_m1?(~'gSFNs74nqN@o_.nl-;U5tkyPnlU$~C<k`M|NA9@4Ycg
6B=2LDOR33E;n712A3DtJrFYpJ@ElScDC|Sp7.MJ)InTK`%A!PqO+xQ4amBi>uM4vxorH!y,PCCaK02x=!.ac.3w.w8b(+wwLh;t
C~[f8*QSs~OyE)cQRNQ_Ft'~)iQ|aUJ+mcm)VnWmaa9F/g[$z9u'h4EWPR+6LtNx9YFLW]-rgp@dyVTI-~b<(;]DbGFA+M#ZSK
K`/%(a`<b<EShuSkfJ?vE83x^~SL0WL'*xSbP9`g,0p,C`Z/-5g'jqP'c+;M29)CC._T!VkEkn9-b]Q'5vDJm</OattQ!a3qCs)
1+*RSf^z$GFSZ?kqTu$^3Lv6Nt9O)d=!!a|/AgSEYZPgO^H8<)1(Z?5O4P>ym@Y:cB+ML<$/|4!H9g~q]F>HO0m[^+o:ruto4e<*
p*g?RZuEK938cKI]OV<CAj_Dab-q7<6~+V.i_JaeU-Gd:GVP0MICteU`HboToQ1D_$G=g8vfPU4DV7l?v@aL;ntj080.nemajxtQ
jU_)kXpK-a!SHSFw?O5fxlfWl6E+px')ovX:i<gXgLQIX>U^G0X`)_rB8]2r7x@Y&!AIaO<:=9P_Z3K=,eG+&|kxi4x3MB'T:Lp
T|Gd)x(J!+a)w[TScFB4&k62>'+Qt0t=S,H|Fxx[q=>j[HoN[hU)4#%4bfryk%3t3R96/P>SuJj*$Ja!$.9Ob:c[ajB1Kj/i&w1C
I_4w=:>(`eOA*?%L>7;ui.c,2l-U(Gy&zFJeboNP5h]og9.Y~w<gqs>|9p]wE5Sd7aYY_QZCdtLf;$9b/T$_kCpH(b2i?fOmR'6/
qvotZW3io)Wu<z1jS.r1+b$qoq7@_EGwOhlt/XEGCh>TknI.]X@3?N'ofH/eLX8od~FMSnoKUb;2cd&<>5e#Ja']wmn=#65m@[**
BN,sXG4iwq%AW!(l>K+W'fgT0UPcECgBUCU8rbGAQd8N1'4cDE@Z|4&~-gW52hTwxZ]d9Ck(Xb'w$g>2yBrD2W9/kAd<f^B/zDx%
Ap$lMGbAq-msJg#ENU_4_N]*`29tSAh`xE^C1:z>3kW]n8O2))QCUge)rq-EcloVg(S@?Fal>iQ9RTbirH&Og6P2v5y)9<Y5g+Uj
lk(-:y7Y^HZexmMSBy7kD+?ondpR~Fp1>O:me+m3)5+U(31r+C1E`[!B%Dsg';Gk;gaxC/^7j[!Zo-yQCziB#VR[hm,-2AFKep$
B-iMPD!E>NG]LYikCk9'UdGwvQi>K~/8^-q8]aED=B_D_MEZOkG&b3`r~<2AX<5kUA__/FB2@r3'C[;?MUE<q'hK4e4`VN4/)qG:
b^KO6]a#fQnamJrJo2`o%4N0W@Cng;I7<v9D6;8<gLuD#][N][x*9X5$Sef#$`kq2R?n2`W&fCVA7K?%0WZXxTPmm#EWQwLsxu
v/*-vG)J0kR3(diU3BB4%2.8wwD:opZ'/Di8d>r]aU;w8]QF$dy>*o+VhRE:rJ1_cX$(;vz=_&3u%UbZt5<ylntNh613B9zCj$#P
bH]mO[k:!s;,z7>;z0UMW^Ma)o_(d*E@T0[&e?t~,o~G.!|bw/wEBP(-XKMH;-A*8XaTI-^66N;5S@`Xu=CY^/B,Af;_P5KvDa
t+<1#7)ASq,1|`kc.zAAIn'k7BFy/do^t,HN/G?*P7i-^%w+F<@6El#]kYNj.%,GqD]/c@*Zj_me:P8G9<4V]T)DSM]mzx6:EC^e
u[CL7L9gI$VWz4yFt5BJXhw_1uNvxK)FS%x~A%?)U-R2ElKug7+w)q^<>pi`5n[|I`+J4VzSlDg-`Lj1;-/5,Q4T)@SX[*,X0Ayj
0ggKcvBe:K=v=9!R)H'~b3CgE@8/Mn:OF)'Uq,Lrl?PZone&!]<=#]b^AN5t[<&X=;ArTvOBYttxsCZmZ+liJg+7Fa3():z;'V`b
D6!%-^RsG=QAn#YRhH6yWA5&cj&J,GO_grO>Ml1bZ-R$3,99UK#=Iwr3S.9!%p1:%Lg+]5jeW<7M?@%31p5zBaye#H0Mq4eL42;J
ze;>z4M27DniVRksR:SkP|Oy%;.UUmLTc0@)TG#Q]8,'GCID!oC[N@_RssRPAM21UpceSYM&L&,EeaVQ(VD%Y4*[?lg~%/R_29>N
w1T~7C7|T@OpBJ.O;%WOBvtS3<p;u/GV(#F+3^7LU5_`]DD8NYv-8C2k#&7TP-&&IS6#yHS-;X~UyK(|/J[(_]pTTt&]1.I<IXw=
gj-JN|_]kPSgC#jrE<r4XV@rr<H=J;D]bxoS+316A$j7=;:om~#4?r+B9OsQLzVEf_w9FwP1.pH'=@Y's)]?M7Ir)A=*]nx^,Tk]
D4d$mpZ3ZXO=;^jJUZar2|M*-R];;EUf#Td-FkMt-4Ox/'dG,'ZFzzZ8N27=MQT8L&f.9Vy_`-BjxFhy:7?#Zp-b^E?rmdH^jBQc
7+BQ,Ag@%T:%wUgrgymPxrTuytVNIyr'b#`8+]<Np3n2wqFLVEb7R-@[tk2K3e#`,jfk,'PxFRMu5f*:~#!c@s1R(#wKYP9lpf
P#,wvLhErutsR!fxFlpB(y#5|@,[7LLX)f-#Z/_F`SJA`p4!4CV!%,S8#A:S@C/`GXsXv,Mki;#TcM,NNZec]||1Nb!)nOOB$q2M
j;Z'oPH4KEb:v:cEVz*%40Q_$8!ON>&UseQH=B9)y!#rp`9BmB&)thY6W-iefjr#S0Jx)VM@A%dtzcR=q4kcfm!NCL.,,E/(**6G
E~g@YAUIpcfjp3o>kCqtV&3&@OHD5D6Yu'Qz-D0A5ez^dUiz,XC')rMKn>iZjcaw5VKY++HC_TTkg~fd-%fK-L[*)>@Xc;g4L=C
V?<ysW,='='mq&_H+&G7i,1TDu'?6Cuu$!finh_sHZh(aJ1)Sq$s.W)YHHcT>V60wktteQua8,xg=aAthtr8fxidyty?:'-%!ny
3~.W7!f6`EW$#bJH&@y;9Zn_F,b6`Dxp0I;UYX9A/=->u0QV3Ya=&*.:j`C%jUHQQ~pY-fXk_7XR,QIFbqaS&2_r^_oX$YlaC7^s
sWOyd?[^|aZs`Y0CH6p>9sZL#AU(V^0Z;65|ygn[DL5b^MqLhjhnU|xjpofk@wZM~wzwz#V'YW1g`[U<(|Lni#F8:A02@5Z]f8it
ES|m~INXgw*Tmt80#`Xy1V$D>O8W/op#lk4XL*b]^~;ER<uQPcb!JfLFZEe@IB%*^X.=|ZM=^PXg/OGlPLkW@<%UX*kyAmW|R%
G,$Hj1fd.!4t|E]dTnkr`a>tct[h'(uR1sok+k~?*v=q&U:.5lKHkTyaEEvTTXQE1plV%d+-8OL`,luh@H$X.qKF(0FL&k,@!#BS
fKAahs.H3ez]YIJED.f$Wz`$2Khbfqv<Vc>/P`r(/`ecsRqZc^-ii_o>miaXiDFsbJUmRT0O_Kh)tw'l;/xWoNwo/j(v@~L22$*u
3&WAr=6alX#)]'X[aj,OimF04+4sVf5uyeAYIPgxKuDYU):U5S'NCk1aj<dsOz^CI?'-84;3HnSER]O)'qI!h0erDmJ'4Ze1:(W+
wQ2Ns,DSCZ%ai-S]74]Usn(o22HdTtH>4e%dEX/C-]_L8#o<78T;(-@(71;Q$'1(heP,Rn0rs1rA~FS:z!5')iI~,|Tv.WPeU9U7
n3muusS%.$Qnw,[y+v31t:mVn7YlYQ)e9@-=5o+Jb`RncfF+ydo$=-xSTgMgUZzk*'8Wv&KDd9#a$`3d`|v/<h,$b>ughhniS$%|
TKWHyY1UpkV)l*,h@ch[jP+gphS2sN0JCv~S!1eNBGRnMkZ!VF*aE+'%b>NRd/L`=Jy):7DA:0k9Gh~N.#(S='wY?eP]Tin)sy_
9:`js9@7ex[u/uf[;.+$([7)1b:e_w8#+]18:8p)$[xqepm)p@.,DF$O5[|2Y=[OB>6Tr,j$0DQCwcB!Ux>io$PWJk<b5LO$7r]^
bH%LhcdP1+KI[N&0gc^QBdDZjb~Z+W;eznGFhccj5QJ?:XrAXy]pD1R,4Ix9UfqFj>g(;(kG`U'@9hW/p%7DpJ1g@pLr$q=v-Bc`
EG=P^Eyb:1E1V9fr^(5>Xkl),ayv9NyOz,o:sN@:6ko'YaCVSP&w,0na'fBs#ERR4*k-pgVUt@;QxTD`[m!hn!cv=S^u;@Q`F7j
N<L7nu]OAPr0h8/9KE]3bor|xS4+.M2x>4N$&%zCh8Gu[Iqluv)93s)-M1xr?Yaa^fu~eT|n|m*`-QAUckpKlq[e'oU(I_TP-l/&
M9717?b,zwr$34F:+C~vk=G.uS'h?Gg9Fi|?z9.FB9&z&=v(aS9mgicEYJ1>@nrpLZH<[Xn[^ZyL='z>o8i@f2oFV[7D4%pL1kp
v.r!*=ksV&2h.]s^~>|lM.B,A7rERypG9X[-x$:;Bfu4@wehaCcX7rocs0>Qyge`9_fXERgL:yawR]GdybR1+j;D$,2TbITdRU
0::./i4;Z_g++fJ(o`VEjNLf:JB':&wrR&MyW!!AK]5(!?YS4m=:gt'F;FyXxqB/sYOFMMsSDId^!UWue<T;9QKD+m-I:E^$==4F
JI0+y.tWGDc|A~x5?NAx|P>NqWjQbixNmNj`w5]qJUZ>5dt(czJ3W?lxB)I;exAav0KLyNZhK#;:nY_d0?C>Z&<I>vcA8s&JH-G
A.h''hrM[dG3PT>oTNkDlv]E7jK:JVtQ5)bZ!Dr3/Iek|=vjwpVV3)Y3$#2faU_eR(6D=3N8IbqP]UN_8>emBQ'94i'?>bJi7gX^
R-P-+GjKWbz)u1?'hYIiF%odeo1fPkBv3>-7(:1E%irWDM0y6we7n:w(Pv0SKj6($^!nt=14r,v7Yg]gW$#5X[q@/RSS(SE@$Ge-
Mg^4='DI~Qi@p-*;n<f(HpO/yk@RP,n;vV:]4$auJ4@4,FP*g.?%9)7n;B]taz!3XVrU8zz-)/j%)?*fwBic26bp!JS9$>iji&DY
zp_Rfy`&2?Ru<He&d'KeSj@*)6=p5`z%&X5+r$yFQj[9M`Z-xv$*1xx='AL`nst+|c`ql@hDW?qF3SP?(jWxEy8I~xFJ2e!2.59
X'yc+rF?MC<?YGt^tgZ[o))iA*lGJpnrT$jxVxp33CyCe^6eq<yKC&O-U[t01Yz.Hko)g>no.3PdgbxBpGB[?EdY^a??XBdpoXOJ
GI4^|C.%)gj7OTyn7a,4%,RS4Ztvjda!LhckTJ;sG?^O(;fetLv#~kMUF3FHuh`!y%y%e'<S/'KN>)e>9aq8TB&+x)xrdIQQa_vL
V)bjDD`;^lH62EUqz@zL4LJs<P|$E^m*sNRJ:ze0Un$/sZ6:tP7GE;]u(]/<cXrGYcm0Aa/m@|j/903/o2f2Z*=6hRHh,U`[Z>y)
7iZb]D;A^O4SkJgD>8NBblN~N~.$mG@Y=bpA)~ZD6XtNU7NE-B.eHNj3FK8V-+YuclDY]m'5JS72Z9,,v0M[9sfRrdy6~XR]+ni!
S^lki/~dr.]l03;u-lsO:,f,t1)6+2D4lAeyM/!%2p0_VSqqu=),h9Ycl2dfmi6vNImU5aDF]3z6<u=-Q*JlH>z=#HLvOrJpFv
a(~9~~NO3<q/[AlSA6cJYY5tC.T6QRq;XS:Yj*7=%.M5wUsN'Hk#d#[WWr7@^Mep~^Zp9<:@2]Od@2~0Zwv0KaFf:a72`;6#CIT`
h!x4@Z<tcuMo!A-]Zcz2:R*E,OBddf4`QJ-[;Efz],N8v%~/-zbo<>A/flhZ5,h>KOxKiD7g?E|?t0G6atYwpH'izOBwAd1*;'m)
Y(]=Z6yzW2_jVsITM-W$<!9lfwK_+a>6w_.p<~eiK%sL>7h2nL=b[C2C];*=|~]lcg.7dR$r%QAlsmgxmi50T~Y,zAr_E##=yb^y
w#*'0tAd$'5n|T5t[$p::N,Wdn8SG#yNg^d`%s|5`@Fw]|NB%GHdE2d)O:.RCZn`+hk~k1kQBndU)`=qoeC=kDMiF)*+6d7<QiBU
u$A=c5E`5p,|0*!/lBJL#^U^ikvg)C%MoA4Za&>pU)Jws+*vdZ&(|lTnF;j9K+H`5AgoK:RmT&kxdAUy=+0<%z&X24k4f+9Z9xI$
KU*`(>,`m5>Xr!cu|mQwex@?y(cJiJab/u.z+TNK`:]o+VUFVj]F,aSe?X>piEjVq|p,*9.>B=CuW4L?mpte+59+~qfTl<2eReZR
LI`-d2'FIEcAgbLw7:$rx^&IZC/+LOqInryocvJ#;nM)`6W[S>5hY+ZL1]o!AXt$Ee9JAl/%+~@R4_)l[CN>>ApcqjF;H>Ed>lZx
7<kyrZPqs^u>6(Sb%qo6]69]uoTk4B@MQ!Vt6_e<UVT2no%:%p&_-cx3:r_K@dbVl`dL)_$J5eL$4q!4cLP3uE=R(?^G&U9PzJu
v;VHjYs`<4YB4nC<n>erl=zWpXTjJp>3/+qipA]jAH265!s3p54p<x*+$Y`c&I/+0LbE6g1YsRuUGKQ)(mJS3yxEup5+QA'8:)z
4)D-#/nNO_Oko^~q+>wo;2k<uc^rM@=vI,A-:d0/>EW)I]si?-8EJptmHx&_ayv`vN!tM-b5bo=u^JhUU:zb$M)_J2K+>^Z3~e
f!,gj@<>,nYrzE5a+gk)1'hz$[pDpnP=t!cL`$M9TQGWovg$U|U:s^qH.~s^gj6h[Rb`D6(u5EkR8Z<?L8<Tw~F'.S-<qJ|<<LXd
R^V7-R3ZnJZ7w5_Iqo'UCu<z?$ToV.c?$%YNC,UoC?`KhW^|:Vj7zJ(.pJ*#dFeI,AWViJO[S^dQ~DMycm?H2P^Z,U)>n%|3]l
I`>jQPF*hgTi?(/HDuWlsG:kzc`--4q;uHDJ|[3d9qR*06W`>3?:;Ffnhgatg@>,vYfYoCOHF&(.~F>z_3`V=p^09U#_AQKP/q0p
V3LJGAl215f,ITU:5;Q'=%V5<Z*wEd?He!dgx>;r<:u2+!*-~_h:?pQEBR&CLo>+6|xyAkNa1`PO]zeQr`:jyk7^j(tPx;aR&)<v
3[Gc!QQX_R/?wkmnRPF-Rwt2F`lJF1EX?h@vmt.-D`L(CC:&&)v6YufV)(DXJZv;a-(E2=GhbK9n*aPaPe+vJ,|k$PT%0o<hpfOV
o9wx6?BVrYzU3!~XMEYi%[n@B^LWSz1EcW4Y_L<[w;R0#S*OcyPk;2N|%GoqdTR5MPt)N($@$k22jz)KB`v6-S4j7jBC5yHznsgc
5@|5P$G)uVdi+uY4FXfNa0W4CcSu,il_&EQ7yVw?EQ0bNS'[D</3RIu'JsH]$xLVoOi/Tp)pj%;iVdlP#2yYwd+[U)iA3^'iQAH
7=hc%7J%PIEcas=5<yWsmd;Beh^DJ*avTt3s[xfG5>*qk<iukgQc.Hm+,8D'#.&K]u4UmN-LOO@Bqq|k7Y%:W.?O$M3;S^|fd|4j
mE|thsyEO&i<EzM5N*_*vcIGseQS;%$kQs`'^-c$tn3TWk/PM#)83Y[Ur^|<oN54[S<|l`wM'&FZ989-gT/~oU(0X*=X]!o@wn`b
Xno/n6hB(Cn1VJQc1`;zKuPg&=&KU@aMRT'?OemI=e.8-T1+6##kP0Lu`yp4y2[E>@JSfjCG/YF)CTb-$kurl3wO2tb3'%u0Zho
g+ITC<|aR/>pXenzCq9l`3?MLj-xS^d3S4%oIxm|5L,-[vKgO0wccUs&t^/-9(KjHYk'4`+roE;X)IMm>Xl[LGbZ%Cc;xH'7)z
x;-m-@TtALSV6UOK-IZ#JlFM!ls7HV)XJxzDRwmrvAv!M@Q04tz5g.XsH:RNpaiFHw5u017(~uytJBZbOam-#:7-:Hh,+Nrf.M
T:)Q7H8<IC9cDh+HA/-A@7!xRX<F0Im~G@0Tq)1gT;qSTUL?Q>q'-m/:p;Q:A8^y6dL);RQ4(Wx=y#'RAhgwcA~#0yFq$Xo(Al%:
Ope<+MK[_In90?j.ES=NlO,6.`:@>Li^e^e4h7+^1zdFnJ//ui9D<uste0_'q2=&,QhE2h@*U+]<Kb?iQ$%HroD#>d]TaBrc|=y%
YQdn,PnHO_d5tUrzc=ku%M6T]S&P)>JV'0I4d*VT[CsX58pdkK94GH~2:*~SyW1vt8!?2HdBWk|>`+q0ut,mz`SzClEhflTBi$
5.>x2.ap=PoolH$X@?z4<qYCWs&!M1Tb]x5*aC*wQbY_r#g&SqpN-3IRCWffHz3mEc0S%'O!FB]m^~8xq_U<f]Y~YgRJwlr#A.D
O.]QQ&&:K:@WnNiqK9MM:PtH%2L].g>h0w'wDsSNT%:'T.^1-3ssT[uo^-,=BH5?U/rOo?oy2D$gkfb_^Yqw@-H7nB'U27o$W0+
A|21Q](#1HcXgXYnO,aQvW'.FJ,8gB7dJ*>*Lh[(`|;ba9xLRjMMKpDSP4/0-7,xQ;K>034DID?FnMloWXdL4l0$Ky.^g2q/cCJs
cRSopgjZ4Y>>2YxX.SIeE?2yJF=;+YVYjl^~|UPS$FKoA`d5[]lZEDUQ>8q;@+Q>`-b-?d3UZESRu24^OoV>`C,CDm9WNnq+Vu<V
jliG&kj,k?5&427_B*[Z7g5tuM`d$wc(hn@yaXYJX0Ddze_#w1l;@K`W@sQCS/da669#lBr#N_lMu>~-WHE:C=)VkV_TTm92.IO
d#Iz4bmyvQ^e,f8+VTgQS'_$LX,WKt&q=jn0]`#Nb?,=N0a3S+8A`7l:m,fn):ZcRMcJ#)po>k+ej7_gsP;a0t>L<(&o/*>tXp||
nXs0[JCgi^TdF;!K9p]*XCsh@D[WoX[ul375e,*lJ_*kxg?H-BN7[Ra?Y54`rJIKE87xGVK|t+oS03.Nyd&p]$n!]8->OVrq(d~
h>.7~1-NTFs#d)9x%W1a;e+o_eFKei=>&vjSE:[d[@3)*P=EBu61E?+#>~_ebI|8r4Laz,Rovt_k)fn8.q3mK~&+I!B*awWFut7
D@=9LHw$JY?n;%2DqrJrt>p>'xVDy9C,^6QatoaM0(duo(O<oF[A$[cMwo9Fg=9ijFnzL'&N$(/&rpcxHTZY>r/j0|-N7C7(OI=6
9YxB7)g6WYLsLHZPZkG]L=l-//|4[k^ea*W^HG0'96sbue6~`6J,riX@bxQ/RnuUgUyl=lhxd+Jp)6JfDj5!vaFwh50.sk7vY$
p<(-!M'tc,]M'egO_@SMijIW$&u%R-WU%Hc.F(b9C(:&($N9Lf[Nh@!:Q>FtzVq#j)jue9<K|stgimiRKob9QccgfhO@/(.>HZ<y
h<hH+4#plN2fja1a([a,@!jxxh'R0'wAH2Aj'.z*a)#R:S'FvmU$Ea*sXO+t-:?-fb%<p?X5r(q5'SdLJoQc%3?LW~.ZAIOoLaH@
116*fz`q?X24pFnh`M#9z)<|aPDfdK4F<_FGpYZy|mWbLoK,x&HrPXI`n2hd=zy|as;%B6,8w?j$*h73=<>wC0:IqI;t$xA.^NW
S@=7aSTpvy~ZxXx#k/LMo3%>_zh;XcvgBXx%91Che#*`O6M>pzA1;o^5WelYHI7I$^5h-NF*+&RqVI'P6Dsuezn/#30W'!bxQH1T
t+eUPow~|wFyVdJ!P#BekP3~;YbD~U>`dl@iF+*t@O,6Wo0L~-aX<&~1QXz$BEFt7nX?aZmj`%cHI/rl9E'x,q]/80D3&(Q]z(R$
rzEfH#Y:ifXJiUX#z+V;1a|tga6:NYi4U@51u2hoERbX6`hQ^kOpJsMnFK)[+*c_0n[&jr#rY[EPDAK1xi6HuQELyD_k<afI*1~S
Hnzc/bl_NCJBR(TSOtf*WUbZ@W80/45#=Ty-$<WlnyZ`fz)sD55?]w)z5H`utZ`VfGU'.buUfzhmvyomt!3M%xH:GY(+*i4%z<*M
m.D~JjO.qEKPLKf?,<!@~1Y]HYhb2ml>*JIJ<?txZzv5bQ;IQY@pc7$%Vzm~a:k~pBh%RIwR[268ck-%ht$z6u5sRe&IhBj&;
8]%*K#S7;J+*sysM1]xqwf%4`GncA-15T1`Lb?5oMu1P!|kIL:VbW8`$*Bw,w8s%z~6Dtxpq|em%2D?ZVgW%~XwbEW+MgvH42sOt
I)uy]w5jb)1pO;d:ZnX6Z@a#:>a>0C&1@!`NA?0a[.LYnn_r?T]pBe'Gsnxg3XxQt#<UT[j15]`1X8W*eDyCv0Rj4e(K9C0P5-l9
R9w=FSgNgS#K)M)SVMCI_'p_e*6sIuuD|D>8+nA-6q>x5W%xvCV]*SC3FRm&fm~idE4i-'rB@5i)Y,0%v2%Y=P#<9E8YOK=^P4!D
a&vEfv|kx,C%=`&Lk2uJMpa%qK0dyeU-u|!c&2>nkrJo(QBSFmGb5'|XKGU?`%z>J'Q3<%u&xkC7|T,31sH^,sMG>tK;TNRmS/r9
1)H=#I6gc+aXFzofmliQjhcZ@lFPf7e0Moff-/,-qBNgw8|A3xPobJAvul:l:>VCwpN!**|]C^$?;=4>g+O/7qMnRID61&m)LgC
b'k.J:1+tM^4K!9@Pqz2o?P.@5-0L1.HqWF;'+y85J/lHCr?n+0N_62wqn0q[D!#3D36)%_>!Oh*Kf0sA3q?-h'4tnP`uaKo=ZT?
1pwhc~gk9pBq@(|_hE'XbfhDXuZ;TgRA`-q/(XxU&U4#D*y$%XT9vogzJ7fj0Zg9;~EEtS=er]?-o)O(3[%-sZ-9W$$pJ<^Qa;?
L^1[W0ZL0`X3(+LrxU1(=gh<KF=c>)'!]HQ],DjV6LAG8Qz_Ws0%RV1*3I@/]RtaVYnn63dvrsA/1PS/S<D_[Iihu|Q#Rg[82r
k<.rF!(oZys_~;tG'F-J3Z!M0KS3IvCP]JYss+unQbZlsjIDu?8c|iqVw-KOOs'iw(D7.:aRhY3e`qf*SH_>x#=Br0I.'&&So@$n
Nu!?j3M!vtF!ljY@c5w[HMu49[@rg,s60)&Z`$f[`MsCMSBqgrT&.3&[;S^bJ>m;J/ZT[%4k3^Idkr:_wN]c#OjgGV@I,2!(uT;3
c&+Vx%BO74~i=x;Im9jv(#JP)I$PB6B|r:j^Tk_y4OJm!_RWL9<_jbW_/?RkwSzC6OHjrEBlLn^<|ZhWb[QfTrj*SfK+$#'N,Pq
e~Hn1@I+I?g&~Y+]&)-xhkP-5=CjXTSRCX7LTs`gA!D>+|(FMv/^8j#:A+30Uo(k&=gCN'2ndIvtc)|UH:UKLCcN4)P/q|gEj?Y`
kkdZnu:F6f^jv6vw`;WNn;;EBWdi70J<SX_Ddb#O3TV`vH,xJ:hCy~YH]9aMZrMo+t+Idt|b`70rRlBVSFK'Y9JOvApauLObJnQ.
Bev-HqN$R`>vYy!Vd/NJ<s*;ve0elqrqpdSD~L,wFurs4o3J>y|hHxuxXOS3%yD#nbHQEUjZh,9s@->_bt$=)`>M^R_zwb(T#rJc
RAk2#Bt<t_XH1Wny7eVUT/J41](^!`g~kg[1cY|[-.F44@Lw~%(d_7<RbUp$(cJ,b>D>(9eCvSrOBSBHOsz#a.F%2*kUqr`@31bf
ksr!+e1(bxta5r4f7QR81L#_=CtHkwnUYVu0.kxn&~)7;h_fU,CGXuME`*efPto(6zjOy3kTr&uZKG+~'w.ImuF@h+[]-j7AEo
8%*h~qF)Uc4Mf#rD;ftc4,Lyw('vY,>C`]=-KVYz3oj_oC~sIr)VNE0A`UP8$=G0C1U)i%@R|4e$AeLFVTGLWWwOmPDMa)krPVSV
LJ(a$r;Jg>:F2M>~(Pk!9wfzgC_SrurF*el0Z%*B_4IZAyR4+K`-&jA~9aL3Vj!TN9-sb~uUH$*j&&r[KmIL6<8M<N4_8n-g4kQ7
i#H&NZbNmK@v<%<Ng;2#A=n;MA@p8OYV|I7W]/r=nr~3CjiL.?^n]Z4&0=K#shwjt%6&r%L*DWgNHH>?$Na'_r~s4X']oR3l)a1,
k|`&<M?s(^FmlKo7Vp3P?:RZ?'B:D/G;7b2v2zz|/wqXSbFetUc.jd=o8(;HE@8!*yX$UMReW@BRqp>V,Y(MZLmS#WxdRj/UBMWs
V`EIEg's;qiHC(4JMsEujt-QeM3@P7^C<0[B3h?or9h%QK)%OJ4InUPC?%3&'!.yQYQO~!-u|KOuKBvmI;l?;wC5:<G1u4S(M;
j'@N>KdWh92^m<*lS8Om5.A1Jjjgv--Q>2,+k>O7z.iaj)VCny.m+L3L?lxQ!,I!'L2rwXsfEeOuje<P5=N&@n!l2MmbYrRg:2c+
b/^mr<c80OFyc4,v.<zQysc8[F-_cFfs>X3x5_)F7,oxpZQqgRb:xa>oKf+a.b':5rriO$B&J&E3[^9brTezVPngpc`5XC,Ijje+
NFQ!dYS&U:hR4EWeC*z]2y>M`RgovCSDm?/?;k=!k_t@%r'lGsYseBVS[@a!.M]n$ZTb_HwHx~N$?&;L?s~;HD|yBjU20O#E1&.
l>Nae:L,hQjMF5,AP/$yW^n=wx)%JxAjUR6_SGwbVn*/;3Qn,Hweo:D>MUG=w.BfN&=2U%P0jQ>d,kcYCM=zG-;wpay((Z<07)+%
By0naJ?vi;!f0X><jhv<phm:VzZ>[ND/HP=tgnQ[kC9W>wA73~@C4eH'hTNz$7_#zBT6;=XGW<v/A!f8a7pC5ltf]J3hi@Vy3)[b
TIE61&h!c:?iPo58$?_/J.ob=&FHQ*SyH4i]yt&x3|SgBAB*$s.::=|_UU=8Lrj7_F^sgQ&[3dXT@BDzD%4CqcUZ0+insT03QOLW
N7IW)AXRoY=`QQ#YL7`Z5erLNMq|ZDHhs/J]]QxbaR),N_M?Pz9F.2w0hiVfU--yyu5UW,oHY4cDsf$^IuuOhV]&U@,(yGdTdq1
V.uu-UKAXcw%c;NghdhVrjkQirIBlvm=dL8)IjFjFPzQ69)RFej5fpW=eDM3O?f5d1/zegm`.S.0?:e/-;6%~_;G:9l5^qzJn',.
N!t%@a>T^UcDIQ*;u)+<h7`-d)csun_'/GWSMti-eyScZ=[Le>4s]wVY)>qrf.i()%Quf*:XC_[]<Y?=2ag=$][NL%.5'IBh
B:_~(s<Qbdg@Z^RkyS-n[3GhExs2~oQ)J@gMN^QOR|19k|z3<U[>VY9P;bpgF0Jx'?.9|s=;)*^XEhH)^25`~ukqay<s!mUj(msu
5bc3Zuetza@#U)'28uFf[hBj7jWYMen>%T`n$uyOc:~Vpa(*:#]Yq)&oH@@RsPz^'yJbH:qF7,Nf4580kO!]F'hR-v:Yr(q
r=,.`>Q^7A[9>.gGr,=IJhj(['yfw_&1NARb8xC#PA@o!d8I1z`lAKhcUs0E+XlLd<XyC;<tn!%w)9y3wePOsrmGp9zr4V@e.7?~
vgoQ!G~*1+Zh!s6avRVi[Qno`#Hp??|0hc/a4Kb^1VFS?4b`L'98+yXb.'#z3_U+hNc/o.SyB_rLqH03rSo/s**'1UfvR+u=6E1-
S^U/+w-;|B2Ls*UQ.~LeeH#?s+ulX2t`4*?~eKqcA_B|&#r-CLEJ2%(z7rbRqorTPh).![/<vWh8oI/;y>n|a$0S-tffvCG$k1~|
wx;-bolLZPz2Zw_7x$RR&_-l(x6P1j-|J8HUZe&^*9'GeXAOpwO~x(nPiD>yyoT>bF^7HL)AZC~@au7xA/@_EJd7C~PqAq4ki+Br
kZz;T6Vj&Lsk5Uk~hB#qL&M&i8x67]D^zfh,EK#?978uUnTyUonxgcX*`t2FvvN.z&)>/yzn2FwzR,4N:rNw-k*CoeR57%-0Az!
P.YQd,`v[J;$7*H7YNblUu3()xxRfp%ju.:RA,7GvqfeM!z[zUW|.1IHugJGdyvUZdP>A|+pl!$J*guZBl^R!D%^XsyG?QKQq5
b@:BLi.dM#9y3n[z1JRgtTKdRLtNo)>E<'YbEu54t&R<nQA7x]Ckr&7sDSx(*Ru@ar:hTCVMEHdrg+VG1Iz49S^y!^1(;92I>2EC
jja+@b1z^VG`?!V^L[-O2dM/M?t+:2$H]KH#n0pm4AT.ICL5B1C(`]z,J<VrX5nncSU1e2/gI](#rJ95KkRaiAY)ou:[tX7CF
n<_-xI/0j%D5x7Hbn/7H76lzPHnXPx2+8OT!Dz+d,yl$^McUuaWv6%cAxO]=u3_x#SAFu#F00|YkCiU~6qc2[K|_)Z)7wG=bWa[C
632D.8@u|4Bmq8;1t:<xwMr0^d0HMzw@o`@ZT%pAB|@4p*D,;jCF1D3)=FAvp.??>_4j^)/$8yD^PE=33JR&LI71d.2(mmM6H|B)
X`*?SAFcg(:&|/'39p=-gI/,Dar/x(7bq,'4;rUG_GH`Vl.:F-9u=[<NwCcPw1lx*^jV-z1-f_#+tLrwV^26Yw/$n`Oy=WmxS||W
3f#UwZ|XuV8KC)cWj0tK+.oNf5@N;D=~KzR,020ni@aG-adHNc|kVHv..FW;4)4dg+XXJUP9c$rQ:4K*@z1M|]M^?9SaA-5k^Gnx
HcM7aANUEt5S71u6mE)$iRyysIbCQm>BUR?<vO-]V:TS9kKHF`nc*)///Iq.#xXLV3o%OE^$ikik8y?@Yz-za<JNtbP2dCM[oiyx
d0b`0&L!wY^*[jUO(=>dfXy8pPdQy*L;L5Ua?n5B2G==zir;,j-fBC2uUII*lsgwc.riaxsPE?wmum^-Dl['pE2/hU/48[L|$=.
K.?m5M.UsJ.fQ=KUAqPd-Q=B%B?)h(bblbP:gg72gr/6kBePZajWQ-6Q.eFRCt7g_UU]:ks/p&,$P2@jp(@!ns(;uM4N`DZ)~.p[
s9M|J@c||u<N?LLrESM,x6&-V5!SV)C$(*iI?-(~&@bj3Y@~cEFtcu~1qaLLok$#klr?m6vE>fD,-5-BOy@YMuH5C<Ev_ZxIpxiQ
kt9T;-GVA<oOC`B9-PtYZ!M5P:BL]<2h~UTI-.r%:h;mhJ$IM,!UNNfAH3(B?p1o*i*:t*?.AQM7tW/<?1>~-~])8KbyI?q4Yuy%
1K'B]s&#UF-LHb$x*GlU*0`UBN-4YIFG|<mbwl@B*2'5%|Fh3e*kWV/%Z=bS#2*)glY<|5M9[wTPP.+G?dC6[7vIi[2g_8c#S-
Q(:^G*0GwGk+7M]ljJi7lJ5S%:]M|Q@v&Uf2&VThdA;de>UV9erFcG7('F2)~P%.'hJf+.~`cqMIdA#:Z07t4G1|):8Ux'b;@4k(
hMy~-fcHW.vcW5~`EM5df;/OC@py*$7k!k'bzua.Y[9u<1|*gf_T.r:8Qd$G.I0y[C<ufK.(_;!)8iFH;tb:J;80a7L|(hRkD6j5
JaS6^y>wiys;)SH9,%Kj!=t.<ij|)#15<9ODv-F;]1L0xIsPOPaJxjCVdBuk=ajTg$:KX]gh))`yvd?S+_Z.xtBr4K^~K=EE-bT
g$NfA.Y6K_:M)I(Mh*RGi'HG0x:b&D><><dQ't*&n,r.=wE&JDS'i+Bn-jbV+c`RaW$_-WuVa<'6RX9zC&x~i3!Qa_F92nm_WK&c
5~ux;+dVs<!R3Ns9#Z~<LO-Bp^V.[Vf313cVf:X)*9V?/`U:s=_uj@r]|=E84?9#[bgK=p-IEnRXn)X8gj(3vGom8VspckR*vO
7;;MP%B+'FB`vVma-JBE]Y-;c<=|mP&V6:KRQ|JKn!vG85Ljxe*45Rc<2t`H%:]q/bUO$>RsDw*5Ng3W||>:V4=|><aZpx%XG
N`*)gp)J+]^wy]1*;HZ'vdQWLL+rAo%aUr~wop9myhN9kA~8-TQe*m8aKuP/PL6EN~Gj#KiVpr5Jp+YZJv&zGII4z>@Q!$XdeWX
N.%4o+~AqoSj<=*2/0Vze<9MzgJ<fnFUPJ1J~UeylFEUw;-O(T/y(Ouk1Sckr(wPh~HB9='1e9Vc$QqhGEXDO|catR]m5Ti`Oz*T
Y[E@$c!5$60rGz0mY>34ylqd#e@#P8D;$CrjsqoNg>cYoZK8?<#%'zIB9hz.z=~tow/OLUbs[*9W%W!*<Df@5*<~~E`_ZW+ys'4$
DBv@1_bC^-uP9f.0c,nd#p,t%[urjY~ZZ:+<tr@T|at#pt.PwqwiLSJw:a#8:7IwpByJsrg`mPJa)(U-.JJ^9C(uOF32_u0!Ln_i
bP%?U6D_>ooZuw1b8SYe8Utem>l#h@#Dcc`N4f#MBnGZeDR5]u*c*aPIRX'#`c)M*!h)dr)@oa-|V?:d=-L|4=&^&)H;(-z&'axx
qlHEh4P,[I[c#Z%|cF!WOz6FH[.73Ox3lSB+Csb~vka;%X13QOmZw4+T'Ex11)fu6Tn$D66_CeG!WRa0/g6|PsrsNV*rgZEXjm#
w>:F~Q'67k]s1Zv1Nr0XCK?[D'@k`i]+h2LmE?8bSG*daFs&5Y)>#EzR@!]0K,hWG2.M<gJ%,?sN4[zw[^a/Ou,6Hs4'AprP)6ts
l$(:HQT.&jV$Rq$kh9A+W`$/~RrQP'a,Ep3$Z.r@2pL>#Tiqrb`4|#<?-)(4=5iw+O,gkTidTDl|.Q2>L7*YqB]$CRh(b`)pvef'
2GW$4l2w3kw[mqk.$g+5ED;)*Z>zjH[m,kf.#8'aNyED[#SWSz&v$bJN^n.yW[Lw(OH,)vH)9B$Ce!DwKz(olRv6,Y<CS#F]hwTC
TiBodl_U+zP12_:2BZ^@?1F(-0IaY`IXAtS`>V#32*Vqduhw%xMa_S9H4#POUN%)/];Fr[hnCXSUx.>j?qL^pwF>UnU.:_Y1'y??
Lwpb/Dk>-7!kCA3r-]Qe!k!ycI;<y4yH]eyP~^n5;#`CDrM>QIg;GhYJ@WbS^WUj0)$uaK8eGg@3q4~WsPdr['pG/6-G@dn-4)H=
QxPfBHM>`Na[1bh~$AnFV)>0Y#'YzxyR`6nwg|'9Vq?fWhUVBbyh97W@&-cG!wgjUyXh^qntyJMn*U,s*LALH*Xs^Z%zZ6'h]wV;
Y(h&PCX5<uzN0G,x^b&(fZ==?FZe3?U!k,r_N6P<q'_>~]?>eR?V'eDX=-MhsXj~vv^Q$9%p2!rArho^D&4VxmXyuT5Y#$#RwPVM
VI4p#s`8k@fn5`S2-M*--<lsURfR.5RH)h&Ne1^_lC'B<QUdXBxtcN_@1A!q@ESbEw|XFoJZ;:]W$$]6.MVa4~QT*L.Na7ycNR
P=`_O1yI:O|zW=h:sG&i:&C.XB~SbCjCHuHoMv>m)iR%XP-SRyAlgHL#8,@$6YNT-p)U_2y[0jz2fbyyCfK'*?gv:1S/)wgC+sCV
wbKc]]WQfvUIXCtWoorEqzy2p@e*i]A|s4JH'F01x2ZLN|Zz^+fN~elTfk9[ue.T$s(?UXV>PnoSddFe|c417E/R3]1PHW'zgZ.
f:NfC^Sda1+OQm@v^=S^c[G)7Myg$v]2,1v%ho70Y?HGP7D|tA*bz;85[^#@,|oo3`Rglul0BnuQCb!S0NzRj%k#Ew+X$*,;m[7v
WGIhR+<saem[zNEhag=Zp]n-cxb(4iXcZRD@yQ6XuBB<A90JL[bHO6llIorCtzP`0RAMwy[E|Ur3?s0](*4kUO2QIF4oVSE*8,,~
m4;NYa(Ywx:msL|t?1F^)w2n>iV5IT7d^hRkTh5#;6rtv%mJIvS?Dt85x4U:leMLwLG8;);JNn-]jicr[gIIBNY,Fi9rHVv&80T
Z-|w!q^EMsiR7XAV3yu2,z[,>l`S_fN`P:*UZod3r^A;Gn|]tky|,]#3KfZ_m)zQ;nLyj;c!)(eW4W[a|7b~vD1.ud9mb_p[fS_h
AUZHz0UndS>gW!SqUWc2,:8w:lV>h]Q-I'`#*(e!<az>q;K66?`bqFW0DC^I%z+CG1NX+BO(B8udAg2j%LY`266'J6cTIS0+JZF~
fRW$'bMlIGR4ui_A.wf0NZ^JizQ6k;<E,Cyn**#Px@x[NK2KRc];dN%v29=;Hgjyfmr;Q!b!w[^x)RPiKC<UX.pMuRA+ed)7FD15
KJ2o|Y=FfcH(?Atd*Hxk~PpDLS=ys&+JUd&V73/4`$9uHs*aEDeQh?A<nDQ0||/*$REC<j0p6:wP!b;2%eD1=ck2>b!!YMGA1E!A
gzIb|z>bnm!Z>5($,|[M|2eR6mKmnPK+AY@M.5ZOI0FshD=:)l+zlmcd:?,l<`a1lp'vkY%kg?CG`weLuHR2:Gs;JA<fsqaB=oG
x/A*5&85Wdj-O>Zf!ADq(&Q&d3$P54S-r-M2I.cHVX4$9[xHlh1H:]FC*SDka+e;PinC<G5-P0@kB!$!xU<rbrYa_aqj([|!?U&O
a`?4n<KD~;W%)`+>In+8=Uq5P#CcKZ>'*5n6j,%N!ZG'sQuQiF6Uhf+@B49((RyLS4=bN[NiEdRXbQW0/)ILK5(MOQ?[fz8='g9f
i6ON/[V5473=+lzrH9kURAU!T~&B6|.g6[G|!`(@5S118LcGOn.lTlsOXX%i@2I*qG-ecU3(Qmpp0FaC+uGK7;EVgOkEPRJ[SLCB
R@.BH&'-|Kz^V&j<8N8w[Xvq|$RwznAs?=-_PM~'@[tI^q$FqvEp4V^=Yx7.r4ARY<vUu,;2k02bs<->#=*,7_KPmSeq+cdqSi
Z(-rk]cN^sc_@W`7$;4WPx#kg:6mGB)515HRar0+eqVP:F=HoxAn|4l!Jpi$IT`Ad9bDBYNcFV3(ib2([XHW,lM;2Bpmbw)KEE5N
8apn~+Hd;*-9Fi.(a%]ss_5lF<4?%e9MAt1rGx0Bi2jTHT^*!aTJ'mv2yq)y%'AZ#=Iz^FOfh@+994[PLc&[HNkJ48>=ABmINs?
Q%OoX<RT7!v<=)$8?Tav2[+oD6MUN|$7mm9j4K0OBFGrC1iio'wgC&Up:|x[/;`#<0P+Eml/oqP#;BjND]B[@)zeJ~=EqjH(x$iQ
FNC?Cd?EL,/vFWJFi^fU;#bLPwvyKc&H<,!7|*(#@|hA-D?!#6l3a!RZC-MgxE)7@[h<5XAFxgU[:1E,v:?3~8t,/>4uZQ@@@IOQ
m;8wmb_Yv82Ogzdi75>beUC->O$;.0Z9g_zFr~%gCwjO4IL)W]8!qZULCt`*8l*d)mg.?,/vNv(O4&eU6218b~5f85u#1?)7F<
x!(E9r2a#KM49!Kv.f4~(z2W%eZa@t7crX*lu=]I:[-t'ytU`#IZNp;bFJ,dg(O]g1qx|||g6G6NkR[%26X:N_RGg96o.KvQ3<
j[*5t'Zq~x[dbo-szU1rDOs9iAN=^mdPw%H+vupA7L[sGwgRT*l;(/[/;8iFR?y:Fk3e'9WfkHX@<*F[Zo%)0R=CpKK*Pmg8g!&<
i6U=oVNv;OEyf9*g+m86|!cYTk0Fb:G*1pf7D!hnJ@0&=rFkfDsvPo5;`Aj]G[m>~K$WH9e2PN?,/gX%/yyeS`1YR,|$by6@O<s
x)W[#:gBM+QsYy>vDKkjp4VV?`6A</%?K;JXoZ-C-1(+=^X[b-cKZ73L^ETcJ1ZlCjW]|xu5Qp~bu[B$EM-I4/lQT5SQGIM2o_4
m-TnUvtCMX31~j&HTfj4`acLVS)+.%N6&@fH#0JV>x<eE[WQA]=uXfUnOhnBcbkd#bPI|)BP8v.QHw^isx-Ya5RlU@KFEK%R`h'
k,R0*D^PixsSz$c8|W%C09omZJiUU6fLZ:.55F%Ry&Fd1K<Dp[XJ9@^90sQK&5OOUxAY:d)0`GGbDWxltYl=SU/L!1TKBMFMzJ3e
LI*Whj*TN(S_>4!>SuU7<0uSP5agG+4F]A#!44I<U/v|06&y~]NmtVF7imLO.znVCLs3h'*I`$5GuE3'-c!y~[Kwr5Mp^oYW8Dc
t$?a=eP'#)G@#X^8SZqr-D]m%e^VTo|/(|uREn6?dIKqrh%`Dr^Rb[`ppA*V79p?*Lhkjvk>5oZLG];Fu85-SKK9+ug<?ZX.Y$Q
n]|gD,!5/c|v%XQjuebMM^?re_&zfy'fHB.Y#<K,E?L6v,?ZDNmb)z!gObj,as^aOrYU^1&gu'H@gK_|ee7Txl|Ns)dM/^1e>7P`
8uCE2!sREY]R[+'+c@.pq0E=4/L!|SMZ~CL)X]KV<puRdwV[aY.7fd[Pea>Suh>*L%&BC@kntRanr,5hMCL!pf1.=3O_sE`~VIiU
m,XT#k$#H_SrR1pPI$#)1Gwr[y([zIJQGSl;0cHRSqMIo/>U!H@Poha6~HfLAccW'FVo_Y252.xs*Z2kQ=:Q>Va@^:wD3)#!Z$6?
na0D_?@'G#.e2d986:PkS:?m5cj]rx_/bFqRYM^&S$~V,N>n)LLP7=$xcRpaTN*XTRKd(]R#HHC6UU|V?w:kH~_V9[rggEk<U>;S
bzIj2iJIm%2;t;84Q<t#G!z|9%EK!SEUf9zq!Zk&G@Qo0jA9=7pa,W.rxow[]oUt8lF`8Pd'k]O|`4b#9OvI+&LkAbcPg[uqkH9
L`hkG|vmsM+v6%:w$DTc/f@iOGYVFU~a2W'|<6qA,zhwl@R(O=EOvV-)-h4yUdKMMk4(>'ji5Gr<'ZE=g~Z+`k3Je*@[U-SD/u
A]&yt<~FRX^*4;J=x,8lH3RQ%pmBQ)=Ww&E_f(4Y%oT&nzF`c9bYpRu%[i3o1_V[ig/p*0/%BqlHep~Z4gcT~DzE:E<=)s1/,RhX
LfYIU23cZwCP|FZS%/pJd?agj!s|b^)c-lHOyj4^]T0@dg|tCKeW=yq&DHI_j5tp`0hUAu%#:-I_T4PZj.`d!e:4JI2tNn2DU*by
A*~V:_vk0lZ`umuaJc;]j7yr1G5A0=J2PSWVh/&/.N0TK!5[(M9`?6pKyl*2SA72&TM7]cZZkG_q#'KG@^[jC4Fe]XhuLL,eV7KG
ofG<O'b$ZofKLqlwW8&kAqVU74j.IY-|W>kfg3UCX0znne=Z0qkvc79S!,x'_i4d_U;<r,wga-~.W#z&;_R3D]Fd~3D>&MCr^cy*
e3F5U)lzd75@uR`4sC71IWf'*ag<Wul,<@QJiM--EdFq*?eeTiJ#U9TFV]ihy`,4jtP0|vF~<;Uh4Z:ve.$!fr=,H8b$&.;oev
D&.ldX'=HMI31r75`*|>9$Wo_YrnWfF]fznuGvWx^bizz+[|2EmGJXlk$F9zt,VQWf[)1D~8)P]&o`.iuY3e:l/a^Q)3(%+?6/&
o)5?ovmD:kzC+,AFrq,|d.sg445[$MIYQ1>WScJ(yIa.(vX8+/kJ#pcfx>F$;W1#!OvQf2D!XIR5%tia10u=+ed|vOcBVa&E^Khu
P(`]ld04*Pd7sp;ovtk^y683`l,,;FGQWiUT(uCN0S9:xC<gZV~8a`ntq*i[rL1~o,CNLz)6hdFn$b=Jm7Jz7C^)f>Hb:CM9wRD
x-QN6(f)D&+#/F1rMUJr!><|4YrDhJZepj%B/I]P|'3WwgI<G3?D'q^]Hl4Y1Hv;~f*^Q3p~[Py=A9c-c,9Ns&/:s+Cbh,1@JFr5
m0JGllYbGM$Kk(W*mW#P&gX7d06k5:1EyPgLt'*E.%6y&7YxPJ=lJ[(U)2bNP8cvw&UaZ=T3QwF!R,s`z)d2JJWj?UoJY($3P(vn
6ft9|qk+uE=]tN|c'>4p|U/e!n6x`)(Vo@ij4`X%~D(az':'N.bGkv$LOm_[`y>,+2mvtR4P9EdXAP'?Qe|<3;Sc[nd4&/?qLh~S
51PfaUVK@&X2W>9QwFkH?1de)G_,tIWKeKn4~B0#qD):Ap5k8BGvJ`!OTQvR=6mW@I.z?BsPfIR?t(j1mf92Im[v5)5tJg^OY>'T
6Rg^;q*sqvi&mecfJ)IQsWm?@_2=Z[!DHBe>Ex.>Yt3z6|-b-e]]N>x/ZquS5$q@NWbhoJ;LJ+ZvLT[1KP9oEm6SGqNZ/r=S_C%C
RnWL,[+7B*K7BZ:|D=i`N$d[i54uo~M55OFXx6UZx=)cukTmp+_Q6E(l:>Xz]lh;]&&KJzE>]:]U<_A~sX-n,d04~$c<b^snot
E~;5VHgjoWRPB%qV(d*gFbgE/#GD-wPnc=hamo0-u>eTfhDDKHY@LBf>rRzA~aDcQ)OSjNof1U9)MZuI(ofn?$LF?%!`L<J?<r,^
Y2od_?1O/$)'-!4>`X1T:Qmn^vi,Z|9;@_0VobqZ9%y?kBO.B>N3r8`nNt>LP;e^nia3eSeoLuy!nl)W7^U4VC%wX4h)Z/2:B,U
X:7jY_VY~|uM|LjturrK'rMGU]]6/8~|;h:NvuD2v^n5y^6Q4_+nqkz*a(`K&81zO__@ziZr;iW-.U6DzXA!!7C=WBOYD~/!KK2X
Vb2:==`S539+X2sFYRA8NZJaOMMcms$b2nJf1at`2$J4tOnB:*FG>owF`ztZH=^QFX5mkxCbmpuB~AGF%A?/um&kReFg7I2d<+
d%%,:RdX.Ni#,w8w&ez]5W!]EYQ^6QmW_elC#O~o&K/AQeH(l*!7uZ[@fq?;aejv`eElfAWfAi7$teb?sH?u::?6YvX~/K0A<C
e@,VS($5i7VByvf>:Z_Y?LWGi?;7h*S=]$A5.zxc@VOfE_ql&%=eb134D_L%x|Y]xAw4SU&;3D3]X?.WVm@Jd;PHJvVP4kxhd,&x
H=>g/i9?EcRk|V5n3|#7#i(bvm<K?sQ>d1!S0s5oD6?$wzCF^[2c^5!CL>_G//O[DX-fUTrl1%BW^)$7TieNZ=4G9Nb8KnedG-9J
4:~<JB8M^%%rZp/8~1I9QY]%BYWY%+)kO^%CaBVo@,:5-@@ZQJ(j60oAoj$9XU2'iDzQ62D-s_B=4EF=$($F<[qH3t'`-sgt,WIy
JG(`95/bxCg'oJCI=]pdc83v19C5:iei-gvF&o[KDPif3aII:Wxt$'`g_OT;PI%mmcy9s/5O|x0^/A=.Wbe0WIJ'WZQunn|lhb
p(;KX0@VPc<KkHu]Gy<,?Wff#Lz]S<AVW..tf638X`H0f+~&E.zY<ZdDZodPopbIC^A;tryN7t<,!]qWEOl!;Svknts(,jbpu=]d
Qx#3SBEx1)rqEO@K=n'B4i*rLR)^o(/2h6*LE]z3#OEV])]C@X#B2P&'R2]!k2F#!@rL?FWr.WDE._T%BB1TFeZ1IA9Eu3-CJiF
E_VFqewIxcJ5ue/aYO=!RPwY$LH5NT5a*T*uOcRpw-o>QplOyeYoEz0dCS8'=<1Z95v*u^7%C-5@:'`_;sYe?0MWWk&JG*esVhzz
oWYI,YR0koGg&u<iUZhUI&j++=rA!))Wu8Hx2mM$mjEnL3%sN7:r7J85Djo=1eLUFr5YT1,R=GS~K2a^K?pC.pI!9Dl&o[Eslt
I?|>8P)3zKu_S^TUn7;y&+4m9@mDqb<(K|H/2<T</8t0$_AmZ$q([/`wBR:6rki6$4tDzb@WGVv;B%y)Ik4&D@Lcs]1],5Cf+YxH
zu95mWmKBD9|_+A_,y_=v2=]T#)E$(ZE6rL?3js8p_k/+PRKX*5INGn_9`G[Q][^!l@o'E&gLK3iL)vN!nVQx1yn3J%L$d^#=bvc
n4&t5-nm]Nq6rWwsgYdTg#@Te~~amH-Py6o'Mv.*Fno]joMXR[jN+u&m5l;wXy&fkQA%eeIj?!Xr_Y~;77g%5cycrjp4fGfdVW
e?~y5<h`%]L;u,U$s=:3ZVGxzh9<03E|ZVi:[Z9dSHMa*F>')am!QR-;Qa;kqRpL3@mDJ=^wroi6sflc.&U6tHtD*SW`,.bzePLc
u!$z9KrJm*twFVZm38H7#[[IBB5ya(e9UG9/@%KMJ6%@aI.f:Ml[I&1KU?%J1C*#4_^a+n#vk>lb#nk,,V>Xl8@/y?#hC=0#Si(H
3ys,aQ)k((w6P'#VzW=G+z-UqqW;>9YFu6gU&&49b#mH#N^AK_u>c^m/KE_T9SOk>bWvL_AqOQ,Kmkh`en9.cWl<1=JXAZf>61
X^?Ds*4YaGsM$p%.Ew'lmO7xE+&mm('4nvF`.HFnuziG;l:hZ2+OtG@Up;3t>v5HKA_*Lcb1;9>+u[0u%MKyac^^ivC<bo
U:>|;/`47I]zH'%'6sQM!FwYD'h^aYzI$2.?l+>Z*U!C-zV@*ze|)=]GVAOxuGG#MJ7Xgy&W]dJ;S*!<u5s]-BZXjA-pG5>y^Xl$
A4^Y2f'hiXF>wQ<>a`kde~hW5xyWpr#t?~%96vHN7||Aol_,F_~7F1BxL[+qG0M@.WmpF?n11<FT=->k%/+6g`um|D;2Y_AU,JT
w@p$e~h&KqT+iN~8kr]#vXvB1lgT*r*z<536j*ZnStAJC3QMgvRf/-b:Grt7cru9,:Jzy0!:8:<d]g#82lS~&i.j`/m*$rXv1$Q
P[EYW-<R7J~ZF7h&K4-w/Y[bhI&`#uN0%~Qv,myBEGjeX+pw7_TjVROd@a]<hy_1n<t6Ze(6HZL`3t>rXe3rCX2S;f3j$<`!xgaT
hH(kfcTGk3j@*2LZ:_5zT%ceU*vkb>A=2@C|Rm'XO0rRJ3[kbrPn^@~V+i[cT%qwA*UWh>Woi$=5G^ZHzobLWYxo#5YXkt^n4Htp
cE4Ek<:Qu|:C=2TFc2@h7pe0:U+k-4fS^A>U.OR2XmUyamBWeqj(Q~J$A-*;AuW5GRIo0r)8m#)u+^y'jX|!#RAl5rG/xn%A-UOO
Qn!.3AN2eCoP|m!=Re6MQE`<|$UfQiZgqoepehIa!)_N6VYFLP=WN67y5?qOB4rh/NWs<`k]`zz_)MVX_m8)&x'8*q8|z9e1W@5]
JcL<U1;ZDpBPNGIE3:+Fz&h.qqj@_7lh(5W!X]I'0+^9Ew*j^:(clmw_vdvwN*5+?*yOQn*34v!]e:]av.uetMBfCN_K*:>[o74e
i<!hnJ%LT>bsKoV!>rBvsed2@V1?WrRrVEX@gKjMkg+$9Fv~~/'VD?azIqU^Hor<xSD5W^~p@8h^wa14?H9h>A+N7.`bjB.,],'=
u(s5N79'PR8&-51;@[gUXgtEPG_L*KK8=OrP_R#x[2ua^X?9O!%,%yF,k3L~npcO8$/,t`;z.>IV;|v?GiJ!u4#c`-Xe*%Qp]ef&
4kjmL]DEOJF)I4)rOgY>RS?YehAF$nN!D:>QU-v(!Vmn:nt]W[wfA&qP?;1f?aW7g!rsNTF:Ry6>Ni`4SyzEaS23c9rLg4mS-_JM
e@BYA~+U7&1I>_NPO6NWh)blv;V03!XC!FlmV*&hfkW,J)b']-z'G:MCjt`iQ7oBxEQyf%[`Fz,c%0<y6lgY>;upT!H83,++c%
G&+x8#lq'6DId5R&T&2m`b8#VsM'`3?7[y+%X`9xW!D|7l/&+^eGI^C(R$(h5|qePbww]E:T*+E(8_2mE=sG6OjYfheJQi#z!j%<
9%2)CT-2NgD/0a5,[n:.;s2e.U1Viv#hECCV#r^F+L]Pu>pyyOS6BzN&F]7q]NOx,S.:JGN?Ey<#R|:C)2$=:n9aiGfwG3EPo(G
x&3mUw3J]1zpS4MjE[FwC/LyN],:-a5Ga2$NpnzGc`?+u7(MD^tE!%m,g92@P/hh&gt7O2,W+ySR1zr>?f=~qll[|@?-nBO6S@%p
Tx0?dN[d&$F^VOwkjp_zpbMT5Cg#ft?As=U(O5xlmtq;nwD@li!ac$b$upVGjP&>xB%oPX@V.k8Q;Vo%A2-tpIR^wn&^&)sq<h`M
kI$$PeSt>TjZRR_Py#;_E^BT/3gugQUyh_2tj;nF1G5#^mSDxe!183zIuLCDn#wp/6:o!nsAAAb-N-e8MY%R|:G`=l$OPWnsb[(%
4`4Jw(nq^~?@wwscc[NavXYR&|<QI91^7w'`^~O4ZB:'3eSilAJj8xP^Fi$maEHl7`a;<D8z:TdiOco`KbV%@<Oh*IV.UGZt:D^9
oMw^qYOUIQuJq)nRhhKL3ElD_.@4ZY.6EdC)a!<&XDm/GUCTQ>IPV/YYL60@4`@IVcb`2&NMrJ;l>y7nzO-/DTBA^iLiN*[=GfU>
eM!rC'tHQao('oDE/YNkd<;^=V$m+95-?TPpqa(FsCyVOME#p@;Y680va9`?E:zA4*so^Nw)@hvocP^>Ozv.qXNPl,C)JHu3$kf-
yeROfg=.bH4JuLt@_3c58.<!QI*Jp^S@*76@^x?*tsvFl@z=V5nZ$ET3[8e<(Y'l2=%wwhQrs::g:hQ!7_`>E@L%+Q?PYuqla/|t
l9%Mhq0$Efa+AVkHPo>s'YLXTLNsShWq'MDlBec-iKQUcD?Zirb8[xbYmqg!YCwmWV_y.aq>c'Ao,2bHR+E*gg^HJ6GxA4dr0jOu
e#I1b[DIY~s9IXFvdC5Su-3a@?]<e2-EY]XBtVpDzd]Wt9<+~My42x.3@M`zK:zabik$SQR5?3i1&7q$NdJpCe>v5_X)T6wFBRO
k_6_.I-Z@gCoNG<u|I>|#+MM04s6Ie&5V+cEv#I485@SRf;n:9+t)soNd2LA5wZ*+<DpT&M'):<SW9Sl^Qt_&J!v]-D<c4+He^xN
V<8:k['kB$M<Vlx88E2@#)OQj|F>IQi|-;c*M:^v2%SP8|`Z86GrpK6oKc0]9/yalJ%tL?ItsRa6/g|3Bh=N;g#EmDq7:6g7f+_<
C9YkzNzl(@FvV(Yh5<^>moE^-2Qe'-tGeSEk.D^6!a&uQIm=///,$f-Kv5Kuqlq,((Zd1~>LsKOC_K|LyQ9[^Ek',Qmb>,jI<(v:
26`0xf`No]W9^M+%D<10cmmfmvC(3D<n!j^1c=Bta~d|.`>tux:)Isw#V!V`>vZ2iK4Dd0oph`%@+zfD&@.L`0MI`+<.T`x1klxJ
zRp+sx&W]$0&siR5i?4kWi$S&SqEB6cvEo05Ppo/o7Es3eQs;V)ec?vR.PEz2i~cn&XHEl.IN=Va~4S%m6@tX?6fC%r^|-IYd2
W`^%99'LQemKfNtm&Y&@tKuG*u=;NqFOkUnu!S_6afvC~50.Id-x+&RX@*g?Ax<*4lUgku8v#I7W/4D!(uZ2#kp;G2qVr+2B3,q
Q&p>?$Ew3kYjpveT]h+r9ZTYqC0_6ysvX`ouq~~kO$m]0#6UO&x2ag%diK3lT%&CfEzd59h'jzrb.MJPPVTa7+3x!buU<Y7?+1T
3@#<NzuOy92Grt)k3^y%_^pDq.y&`*X@I'mX[nEU_L!e.4/p=QIA)+u=~fLae=BJZNnfMAj)l`79j/(n`|;tX^:[t^(-MZ..1/Qo
lG5H`o>.Ah|#;L&zoFR9PcMbrPx]&'ZhI|TgHR27@ObIm-d(t;H[BXE@<*iWVzcX$a1M.D2Ryg0pK='vgXQr,#Uuh]ZF)Wka0TN8
zbOj:P28uqx#p,A$hi0+:/x$[[#)8VXHSo3FK%HdOBNL(TB/?-XgyfJ_n9;|%3>=#yNys6a~tY9z3x5e~C4:~X(RoN)]'|H*2[47
ft)jXHR`^2`,1FH,i6S?1]wQ6kPHCf@5f&<0BL#rRKgwiUUihs3=/uAdCP`^NM:<E!;B[?N;Xh!!JtxMk`O@D20o[:;)t95oH9z
Q.#>2O(f]dg,,YD2%8t;u;2jXu#VpQkS<j]/C^N[bx.%MJ:yv#zXg2~^$%u%5mJq8-FV8MB56N5v>*TGa&rp68W)<GX-4T0]x0
k.^>LFQpu/O+1@(r`?xTiud>ZM/6I9'X>#C%Ob$V4]v4*>FX7;g2.amp8DPk+5wh#`%MR<&.n+>)s7O9c^$X[X(UcudTVAl4wK,f
t>]Vx_2(`&0WPfUXuq?QriTzIO#Z+AxZ~W,f&E,LUPl_Bju*i~av](K?D|=3U|X9/GwZ!siJRNw[vA;cvEIsD.v;pgEMOe9iZb`
1.@3>4m.B|PH)3!1,Y/yE=C!c@O;hiE,q%WXAw|_,b7=$TY_sr8]LcmWwJ*O!jqjZS'l-(i*;S`jJ3;eU%cb_<F@>Od(o@>Ajda+
9HGSSR(Mp?ks;k^/FH.fq,TQ)314FBaHL_aJ3MX=Mdn+ES972;=)a?nq5]TT,A.]_q+.>|(z%R8cmY5o%J[~x+!V6X%M)4rm&dnR
Vf+8:RaOS[R(nx9hVnShmi53P<I!1y[My48--j@VDlBhFYa5*'b<2@lVY,/|Bk2O%jCb41JCd2P5~<)(OT*QavGjA1RMDP5E)FoJ
EpII&FADWZR]e$MqF1]^>;2Td3E=HK|)>BsD'4>-.?TyD(G*#VqRul+oge!jD_'C4L+D'+jpT`YF4CYDGI<H;_Z-*<*hUZ=H?fAL
w]:Gr*wn;THo~U>`2XC5d3J&qKuYa?6B)2r/N9ughuY<;[ohOMB>1s!)@&s0hi#Y493a5j1ZW;nntW.a&KU|k_~@SYJWst9^z;Pl
iKvF&Hn&iAE3Z@af'`PuJ09YVb9D65Hi;0!qv@'>.?(D*%?19s;d7W,w52H3S<;44!OJ4Ae)deM/vlKJOuhreC$_#vy<AZ-Mxx3I
n1W#:tPFsx>,;E';,[iIEq$i1~&y'T]N:23TYLIZ0fBM9.QDYoOXs@+?3]#!!sB?sT2Ek<f5q%?~%Ue1Pc0WdfHJ?)<M&R`k,=wt
AGqxV_;>KQI2Fr!LMatauj2E6g.`?sVhI=XcC~s:oa8Yc^L<5!SBsy$v2brF1YW/1IwHa]TSXllmISY-Gy<G,S^tiy>Q2>$0EApS
V/Io-4cw1)~=/1yMK/aiJRijn[q<7UC$D=h;):3G'PFt&@^y<<|W*ekaQ7&o?!4fpBrC,7B?d-]'EM9yl/*zj)H]g&B=pj$$j[#
T$(Mz[n4-g-.50m4@9U^+dVi`;1aP3?(D]aTA](8Yj*tKr&H8W+z[3W86Lm(I?~D?K]%eO?Yd0(b2LwyXTky,AlwSO04xH[9PK8$
mLF5I`Inwy`#h##RoBQqbRn(N>ELN2jh6rk[5D6(CEF^m1ZvsEG9#vUe%h=oE;91rf?nkaThfsj9s.IVB/4h?<l`hjh*p-8$7xa
y^x4V8cFdMdp!.1w>oE1gpV5TZ(d1T~4)ClAAM;(7kT$w#RUG:hhMGLTvGp5%Y*A'QN`(5b3U&L0nE7IxW$7lb?6:N);V,sdVBO2
1>.c=$R<W<aM~iV+wSnqCFnxdSfbpa|b8gA>`e'^f;,u@5wfvk@sHh=Xpz^ID=c,bgx<ju[9]mA86nSAo&W:`sNhate8KX]_Y:
m|)pr0E<@QE+=HqW6i|H.=|w3.pVO_5a]<A8lv_1@5*B-tfA%kr~?WYuXkQ`cwfg)uVJgTXc%Y[t!ASUqzm$&RBID31pxZfT#eGq
Mdq;YVA4i]$i?]~3y&^i)4P]5IPhZa38Wrv)O+5itK*3io1K.xlR3J|wb:b^#Co9RLmmvM8YANt@np&=mEjFweyOw(Xe_1NQhUi#
3ak.*2H.JZwdS6nXi~hj_Qg?VrDqH>$HSF?dBqVS9.rLsyk~I|ORvii1:PdGC,gz^ee&)qo;|]QKyanZ>Z>!'@W#+nc4S_>enuv1
wP_.(O3=QO~ZCS^egNDj93=Uam)yIB5x#]Mc/IVTEZS)Ck`K+j)Db`D:9-3@Sh:#j?s*FwX6:BEq@@l3x+]Dr[]7V^DRGty;(8b
s~H`u;M57,Z##w]#/mO$A]cKG$>f&A!`Z+Oh-<9dE1,%q5Va-izNH?LVf5YLSS,MJ!fM0(~2M*9Mu74um^*.HfFq%/%gzg_5ChP
U?[,hWb6:D5H[$5b~`QuzZ<?P>!k!8Y_'E7yj^H`;W]r:3zvY?GYBp9!WFiJ^hOx~-e]smgLWzr[LNe*C._e5dR/Hl6#>4e)^@
E|(/LAVb!MtsIaC_o+4Xk93W@q)QA%++B1Yx/wpi~;9Vnoh:;d|NMC%MQb2v(02Z]~u30TV6bBn`!x+-Bo*/IBY0gN#zV@ujDz1x
mD`?UzZ(;Y%IPe.nllmu@CmYo,K%L9Ovjqe&QgQsB742S4j6$om!dd'_dU7FtaXf%IxWN4SQIIZF]k-TdY6g:*Bzab>Sc/f)Y;Ju
zP%*-;yLNz)+ig^tblXt>PXvCBmd~YXs]>2_WB?L4jKy(!,B#,^BcoZ/zUS9E=~M[&$uYj|=154j:[vE~OdP',AA+J=^ABphFM]n
kQX0cIehqWzrTTQ^LGo|`9brFamJny8o5;W.XIr*f8NLVMjYRT@j?p7G?VlD0ZbB6_Ds._Gm.I%#KR%/Q6H-axfGe=8Og)0_O#Ti
46>X'UGQLkx$;_&/fYX7lnfh:,u9nerRqEcEuVf@4$heX~XQ<|dCi7d~RO<1Xb/vJq6fG3i6Js'9JBN5=~`U&/Yz^l#lgJ;YXU9N
h[h$$_dd,KY6bz<N`13M7N:ly:z@XhW$QyxzmX6~pLiTsJ5wyP=KCS!QHOhGsgxOyDW21EUUVX]-$5#+v;@I=&x,TegZtU,Od>
M$'X7|:y&-[a8p^(DGE#5GoM`kDsafpQHN$poCb5q~^QvvCTIsfuS3f@*bJB-S1,7|t|d5my@E?YLx^kqWSj4XA>RV@pJoj~U~p[
A8+rF8)6FGLGrh2fDCMcs1b+Sn5k[UI$%c`uDex+2YOPM#WLu)-~q!q_OIL%Zc%,ViXqti<!?RIe&[Y3VS,)n+jPH!*k[>[ZoI,i
z$/$bSSZj'^5cgWa/j)30@F>lE&mAM)-G<MPdabQKO@?LOYMXF4p>%u*Av>>~G=NI8JdTw.`Y<wENzQ+0q/=5LZ-6+:>Sxsz,2N
u`D.$7zlVuwgPi%]:khc*SENW_'[Xii@xO<3VK51(.v_m/Gn+]W&ByPjS9x(8E|GN`&%4PHfWwhh$HD,w:8a1..Za(CJJ`>ngC`T
k)=1qCh=Fb:VjjU3A@@`x(7g&jg.$,5/NZYri%C2+0gwK;7HMhp!fs8;9+vGvQ~ma:<!Yx?0DMued@Hs;qmcMldgT*yLlNX-Lch|
KvPXX)(rNmgDY=xB;ri,4XH$9SIx?gstBHJ*BkraKs_m*^d~6(mDkbN!AsmP;kbh|+@S+7[)'H%LX$l4A@Ct#VW@A8xJ6GT2'O2f
BE;hxldLg0n]IlmrPo^vg1!IEF4nHQr[tEg[Vyp6T/W[i%_iiQiaQ2NjlMlF10'<YM;3$%v>42NH1GSc&S;=(pW5YzE+R2JTyF7
g_X`;zfy2on?*rqpr=FiklxG,;)f6tw88DB?COC@J2[f8wY3Ezxc$`bJ))K$Cx[(lZm^S9QV>|(/j1lRW6I.~yP&]-9[lL@>ezW,
VUDUSm!'~U0zZJiRjx0c]tQiBMQLEMdCU9bUG=fuo+YPg7dOn?%MFxT',xs~3nC^88|'U(,:I#~Q`c6k_>rVvs%hogam?Zfdh:Qi
8~6$ZCPgtW(1XBL=YEqsh'b*to,xjaDafs7HT>Ddnm2D,'[&WXKlo2T[y.<[wl,iw#T]z5yfL+*il2ADeLnGw0F5o0sg0:VBt.Q
D+l67OF4>yst5IJ1i@*.Co9.uv:GT.jZHD)`0bl/tQU2Z@rdB9z.P//SO46?4wx2!4Uz)4K5'2e?Xr_Q$YS=@'s%J$-2^,exp)*
B|h&'G[+`6o?:P5^kl?_aHzP?G,x:Ph)[.TMqvSg<ws>t'O4,6r>f$1O=&e5rh@__.w8JI&HEGoOUF><q3q5.L_.%UucnEN'LJ|
S+!;~QZ.`Yw5g.^NQkTv%..Is@gYg%M5;~=[V9aeDHZEe=X(3.7')h^^xCPwXg8B6d8GCLSpl89ATc%;<=%)XhCY/?o57*oRiqe
H|[p*gTdcj5'A%#wBQRBilRvmsbFchc:>T,xyWgr&Tbr,'J]LJHy~vgbaMW=vH_B%h#4$aisEoD&pr7zKPk_2UumNv<3TyH5_bFC
B9>K;$uGH%#3(3W;Orf&WTQR%?;cb>`|_3s|XHc0[YMSVz4b[x-366C3,MrxZVz^)oiFTh]]Ql<SerQ$Tmwa`sGJ?SppcWFzT95i
JI,$y~nN7&AniP=cuW;(pvrYHmkC>@#eWdYe;:2dCTs-$m2gi*@wItV%CMtJS|mzC_noV@YgfU)BhfqT>b$p>jpmlnO~w9Bi0HFr
K!<curEP3_C=G-m%1c+K1;9ZOR_d$.*<OGrTV06|K1=k6<s[F[/J.aZv77EJM-wz?fd4DEI&GLux/hm^W;HX$it~0pL/:'|dB'l
I(Aa=ld0;o7hilFm!LrlZ#=|+Xk%V0Bl3unNh#>s'%%?a4i^4<yGYAjXyyqsfsmGPhpZ:=NKhA~G:R!a9[9iaivf7?~-0W/T(iQZ
RMSHDkW6AQHt.1F4i*Ng4^&cPEWd`BxP('$C4Lc*=XB@<=2Um+KIj:+P)nEN>Q1.@mJILf.*]yWCDR.8,Bp;!U4)D,Qi53C)HG;H
3]4d&Rag3*~-H+DT.7T0!AhX7V%Y|Cu!ZOwv+Igb9XKiQdSV)LKWLI9<Y7;C.#0*o1pl[m>2J=r/Hcl13ooufiB6>m2!etVnPjb
n]7Y-U?|G9+Z;l&yXIL.0r#0|&8oMg7ge-4);98beKZ&OZd3F$AVdB%V<5k]Y4v!qhJRCP:'LXCq>4DkrGX*KS6P;[2nDBuR:S5c
pr`n!*&dobirKFgn`J&iSxW.%qS)->wg<1MAjSftx8<tvXrCYH9_$X7oWYvdfcW/s^JTZK3vRnsJd!j>,S2d;q9lFB(H,z#R;cM%
v^|c$)P&]qtO(B7O?_n.3X`fX!>tR>y$)THC@C/JkBu0Sv~R6Guz*j>U'D0%d`:v(51a3'iM*q(wujxZbv@UwmH+|XBUD2v'o:,Y
7>j%#S!6<a[Q_*+Fmxz;=Frm-upPi1SsVeD7nSx>;pwE=t/Lyk9#k$S;HZk.l5jeC77YwCSUWXsn$yJ@I;,QQI@l6cf%Y0A!TM/8
fX@Sx#`zILo@^q6;8J+`>|CMTb$Ol_9OWnZ#a/$T<b6`ZY'bb=DrswI%6X9A-J)J^/EZAR*pr0k8.~lwWp6GP5:_c;(.t*Br4^+
6~)r9ut(24qXe[mqm(ZgCiW+sMp^3hKAtN%jEL,F|yu>[.BTBB,Tu%J|8k58mh<LoRJA+^U`;m6q7][^aAx,`#oWEB?[+.EbvFew
FmLIo/t42=$iIawhyf]4sRdeaT=-TFe%<C*4N+*Y[8T3CecUVKkO^nKY2+En['u$kFgA(=ws#((Sxoh?T[N)Hc2_bTbnK[kn)v
j.&wVbSWsJoC[YCGM$E5#k>b)|FWhgIe[[+e-PtPd./U:8XD'81r`uMc1_2]K.*hB.<vw.M|tE$ZxdEEy~^UJ:dQ`<V(BNTUbiZ
n)PPGPbPE|cA0G:c5Ni2lh'HP(D#>8/=IpM''s`Yf2Yiv:;3*+CF|o<gY#VsKtBrh2IqoPOLOv-1PtIR9L%bfw)Gtou9SKw<[LQ
i&%izf7]cn8/#)JXQ~^+xNZT&%w/FXBg1(?1?Ppob@`t`F+bZpw9ch!JqtKA+Y4*1:_)UJMG~C;Tho?GcYHXc%CpW]5hp=)FGMhq
p3&*.ea(vc[M2Yy^@~dDec5`o^%sZt|Z`8#pb|I_WWVi&hrc&DS1,,)4,MU7mW(4D<.v;F8C<WY?P3VJvfAeDbU)1@Z4~[0m8/RY
Y;T_qx&h+2-BSw=NST~~R_-tV=D;WJt~)6)J0=_F~z(q|:JsAKI|8O-kPet(M]Sr*1jzFbd/P<H>Hc!.G4sRwzMNHiSw79ZS1E(
R=~Hqp<M9wW]5%Np9%8.cZ6~TGHpiuv1xk/fnGn/G;mO#wbSU%HKfj'_Lk7<%#Ei[x((^(3qhgt<1]k6mmu#2|E%[(z04tA1BDDx
w;njI*@s4Q&15uU:^gG)R)'Vud^R#y0TYO!uQ<sjK&+VEMMTOr@&E_`2J~u:Bshk6BOHD'UIusJeeL;b97!<bRw%&DY];Z13GiyF
sN3[r3Q!d~ZZ<]:OT7gEabzqN+ZG3N0!Z^926ROa!sljE:?1$FNO`yw9%y2J7&]u53vf?0hWQvyWCoBq#gC!<siOM1o:VQS;:~O;
Z-4;*mSSfOuhGDdrfuFnP5~J#U[Dv0gPoPuSL0b_1',(|M`X~sKV6koIWOJs!~do[`tG_+?i!&6.+E#BS5zWRe2QOZiSrIQFB,th
yGBi9nOO;->l'oS~r%jbfV2Kx7it!E@:&N^7>w;mdoB)c79kdC2%j`ns@nm[fh:lI:F,I?4%Ou(NMbcwjk)B5AihJ'a..Q(<:&6(
gbqGV;<ySRe~/`1ezpnxDjEX|xw]~l#TJBtd568&.3/V2hG#:zKlHH1c4!(%#pw3BtsQVG@s-t3tX=CQ40r'vrPhqY19I`F,!Xj
Q~;*HEa.fQrb:XyywMPyj54P6PotbNYSkhS?<0qsqx8blr2CYC>,e_1Rp'u!UCy,92=siiP#Yy.[,*mXJY#&<<A1~Z1n1akHZjL6
0`y$:m2<:B2m@6~K3Ap>eo`MHOqjq,*rMc;$dJy]CDnXuo|H@;Gc.md90,v>SJdks~?CyrOErni~UrqhSEayF;n:N<nxBhr>w?~M
p*M~1%4nT4@ay?Eyga#dbiPqYShBN2sBmL4TEl|NlU^z0i]t7l)uREk-q3!bmewGtPBD?'U-@t/c`b'k~:rn80U10cc%&n05eT
h!%[!n(vvY-,1hDngasD,$)*J([9pl]D6UWSYVx7Vs`!z`1AZ#GW(Sk@~2/l%A3,'V$N>qSug'hiPxDa84`5~B!Y7+u]#A;8(M&
h|$n~ITrRWoq0r@TFk7nosuLKCU'x)PoLINL0n[_Q[@E@zci$H*(HBZ-Kgv;.uBK5Lbz=>FElUlKs|yP2'm5Wl<Ud`_E@&t2n;(
M;:xk@yN4BB-$h)SAe|Q.9Ki702?t>ECOb*s4;a.ZeZ>fLcAyHR.gwTjnDcB-k;~@XGRX6R'2Q~G.]4hW'u]Ye:SaZ1q+|OLd@m>
Y|sS%GRdeClw7zPFuaJmLkx(e]K)V3f/l*QHa!6^o/<o|Iat[v2NN8-WTn]j0kK~?S=AFN((@h|.CEA;1]BmuP;42WcF5*rE[KDS
6;|<Qgp_44R2k4jjY3C%oXKSk_&LSxvx_=Zm<CY8#(_xl00H4WpLGU]a2^m?H&LuXsY=s^&n?y#3,LXCa7MV'hy=LrGb3FmR2;#4
eZcn%.7R56!p&ujakb9wC[Vy'o89[)^GyI|))tM0dC8/XUnJ^ir]-.G#d>?r^orlkxcW_#R0S.9AG&z?Td-6H@/-S)rD%g|RY~)M
MSh$gfmw,CSJvkw.A2&YwZ|8rwhz2pB2baKT(thKv`!-Ilb::';F(XSbCat)IUfz=A_t4aw![A<FCX$%&DC#I'@NazjR`5MArT]Z
cPwlEq~XkdD3M0`U5-_rxiP`ewe1=S-fP*OzbG$6HOy:#x1Km?0*?H3~DX]T.0/~![9b8E)1Rj0I/z]5yP)/PGuoIBmI@&eSha1;
9SvOZ8K%SR)5_kKLZ'R@K_:/S><Jo5($YAKC)tmgJ4Cm$m;>OX%5k-o;PvnrgG5B-g*1<[Cip=`U@8DVy`+J'o`P/]gUl1~[&M0W
Gv|3_Ps2$9x/a7-7e;C921N~B=6'%.%f5D<_7yb2gG(9~W&0]&=)qI*Sxh/@t$bI&SG/TXx=T)`HU;)m*JYi~IJT?%=~Mz5U#vbV
g`Z%kr^&F7^5S3rf1TQTuv&4do,o0xuL<%XpeG8K+x.MP!'FJv$u1ebdQfE.!~ZB7/y%y%Z5EQEGZI29A_eJVnrGwSqFf[$z=]b
M[F~w`iBNkau;GO%:Wd>h=D;lmGuT?PvN*:F)bfUG(u9ZR/(?C4j&k<-s,aW+>DmF3o3!$GyN4.8)aFk6t.V8RU494>^#WE@5#E]
tAK~(C$/T~Mwd0YF9fB_>xGFgah?CBnTwmeCFMnVqAfQ#3ijfdQ/s8K(*Aq.l#x+Ux|)g0.XSp(dSyH*2Pw:)(is&?te)t)`6=A[
Prj`zOWa1~F8L(p?.YilR3?=r(jQSki,!#uN#ebrNIy%_]SbQwT-8Qsz=EKKV*246gtEucN|LMyvD^:XW89z|.]u8|^yEgBy+G>t
cG=/|)v-['flu/,?$=C%gyh#g0u;4SHa3Mt)d>DCZPC9p&.rFDTpJ8U!1<J,GATboxLywP~zXv7-~`v~w*WDz[hW>EJ=RjWGh
c);^+.`N`=^Ui%,L?R1Mznljmf|z(UXI%~L[%u(0v|%W=6[X0<Io-yR]OEd1b'-|`_B6LWpNJ16NAgq1?6W|lB;Q(j!m1l,<BqI|
QR*'AJ2e4T/qx=gsjvMs7=^x.g6dyK]ohCgzS!Sb#5.4ktk9^TsHBC2>RENlp_V6Y3/x#8d$'ck5P]CPw&kP&yqe92**k+/<6bmj
u1xDr*i5y~[mEg`ZMjJ;)lVd7nm?d$AM5mw4y]ZrPAAv#O+T!0]AnuAhP>6=#a<6Ji>+XfSm-i'/mCke,k<JII.6rhw4(T<H>ax
R$gD=cf7B33tXRKNP~ZvyzD3bA|+ASX4%wnJCeUWp>YPP1O[D)24g1Az55ToFadSv/3)i|Q$Pd56s5(8$9tU~[?TN0z]nzEXFav)
BE<ux'l6VYQt?&yAe!X+4FY#.)2r-67.>l9pluZO;-C4-cDZD4qOHHGQHLN92;6h9.tlK!!zKT+d(+vml|-pCAf$+j%kF~X`59*q
VU:?d`Rb)*m7-5-C~%L?sET00#*I?H.EooCG5?GBR(6mr/D[+D[2/wnbr.2Mq!e#*4e&Wdkr$n]jh,;s[8WU9MgtLsr2Xu=hHl*F
y&.0u_/GSHQ2:AdY2RnxCOUyQYLqthBJJ9gjNVUB]Dq?nIf(c5::9HD8SI*k>><(a5z5UYa?cDynTA7vHi!<U0=EhtIe~mW<4,d*
q:&/+Z|548@M$h66=wn-u@|oU?Ana^ewIce@H`0loDdz#jjl`z.-sa1gK7Jy:*Gu18ezuU%r|Dr.w%Nc`+sL5k5^1kBJjaSd;?>
p`S?<b.4ar5tLY&|i;eT,Vuo+Evd'K&Io+_QWE85)qn4.WJ3V6V#ubA@_|aZAow[3=<AQr(y63fu*e/fp-!M^a't+ch3>w06_,w
j;NFG!.=@Ti-hArTeefBko#<]ngvI*NmJ)HX?8]]<6m<pu#/t2*E[M#4M8Z)'e;q]'2KW6K+#-$K)T$nz?[M*NbPFqYqt6%U3%,
M)FAv8CN8mWAqDBpsUDo2Wnak@Hr(zgzF;p!$^dt>*pRgmK2y(B50AhmJ`h>HB%6zDi!:cWC64A?rU'5?HTYZhOtE_3^FloUkUsf
Y&n-;5|Z/%WR625o?C/lr6u|,tDy1`l~KBs:KEzB;Um]!@q=a=B!DN1?Kt0pPjUCkUa<dLCx_#o[)nm3@RSybE~G~3PLgF7/Z:cZ
E!@YLcbx2Kjr@$:K!|#2N4-Q8f8lQ0mK0n=@?.F|^|1BA)Ll4b,-$UMRFCJ25:&;Mz$&fgSE;0@8jM20c-,xfWEDEa>e+t_#U?
f]~>>|d^#^iLCHA>CFSX5*b1V[.rv@DAaA0*=EL)1T+2k.6WO]C0g:5$pt9I-b%L.s1j7w-wCcmcj!%#(ykuIDe_V!$M@ln8'i`W
LYy^olA&PDha,SQy_$zn+J09EfYYc8:Kw<4$c8|;TS~biUa8Z6MVC4)$STt^<w+ahft?N:9o=hXT(FLfW?+HoV[LMTd3aJ,G|#gB
YC~P`Ji4[)FT-3Xv[R2dSy2;o[S<4<h9OHwmf2Wpr,%>(^Vxv0?VI-`$,A.((42b^+)47M9do$1$8^s7ea;_%CKK;!7#gI?|8S[
m!>4CvxbYD?9z6#q|o.cSw/O-Zjnbz^#t;3[D<%s~g]^JS`W:rX@dg%R6X.jNAMyU4n|zwbe<Q43HvLP<rL&Q;qE[ujG(`n|;u6r
qzUvIeWB_aP5#E48ss$[Ip2-6;fOsi-&s[Y%ORm@N~Lm<e!9$4>?fRtq_Zq.9m[~A7B-[#/3MD[VHgA&g[Icc](&0?WlI?J#?O
A>;xKXI#Q`bY-R@OdVl0xl`N^-N6.#%/zm6)Z-zXQ?d]5$d//:/sL[<G(nK,HX3qz34`[o?q.0+x7#v9$g9a4+.-(R=/PA@%pu|4
mr~WrC=939KL!O`eG-.;Bj`RAq*!LJaPXyF/w[KK0Fs|IGgTjRrfS~kwNId.r>e3zKFq-</,5jK:'r<mJ:og[EO>q|;Hu<nC9O
G[.OK:df+Ma;%+e!7Y:]-dCnsm('N:m1M,;.[52@y7+g8o(<)ZznKF73G]`Grm)7yX>gr#/i`i?)NjD#MY&T5D#jT*+XF0q1oO
0*_qRD55LKS4p9&wu-|[lb#h7T?5>KxpCv`-G6;ld*Na*lUme0G:|i@%QAVlqDR0!4>>!2J(lib$/hkEN47wj32oLBnS51Kds:y
V*5:6R<si=tDk>|~-,Qx$KNB:6$&Lq!51AfnkL6l:u$X]@X127!@o1xOs<5.Dvo'!X/H]9+&lj?5)cwy!VtOAREY_OxsCx?kYP#`
P*]4zy&OzJ,w*1&brJ^qAxclb4xfkaW8$(DL|zM2gY@_4vBV&8[^F&@9f&.RPjspLm,02!XX%NX8hZaV[YHv[-zAFfH-9Bd)<vx;
I3SSas0~35g<E*``-`5'kXT9gqGp15ySvUBnY<C7zM7`;h4(!vLj^$eMMbQu6?Z7@ErPI^*njZe7SwQNwT's*=WmgMg28I-i1&[I
xCbYUL4wwW;L(X!gZl;c]dC*z)/zv*]TDUXMg8sV~;0rE`3AOxpEhxtKFGLfj~yXD=rVfA-BtP1s(+S2-qQXp=2(Jpe&K&&8IBZA
9Mpb&CIrv>_l6H:DmN^a4Aj_?c-?FR1r;Z2vffzQ=XP=]DJSfX[gXU~gVs1vI_yyHI.uj!E8^#Hq^k*QP'$3%<>+Ln3]ZfW+2Oc8
a~2oMm[2[Nt!+xpXN'W/6htazH5LGm@GZtLg#&K8p[(U*YJjyQ^,<d??-jTFXTo!%3v4qn>4yj~_3hMAEw/Aat=CZ=&@;N~WNL
w*/%TkrH8hI2^X5AU^46TE!)Tq12UFcK(lW8KL-Kf#yc3y3Eo*q:e66Yrrb:xRpGq5Mr9b/GDOAoku6oPL$s`&-#=cxqj'G_alee
R&hXOqFqmgVV$gaJGInqvqF2hOwfkA`$bNIv.pXTDHktmC*>O/^:t,]y7rDcnUVqn']A;$w+rk:xf#%]a7%)+Wfz6g#5KvJaMIy8
Pt.(dnAV,BpvKN%fOm)R3K'90fu(gqv*1+5%wwEFPxrK!skZ55BBYC<<>|YqscfXu-eyGP-:3@zT/t4FD1FVQ_E7~n9V)K&9uMY.
FVTk+ihd8EjI_o/0Igivz%Qrij0b=L=/uy*cu'XWeB:M#%1xA|eG+xu/SuyYsp&/gjSE]U<tve]znn+rx-@)hLFsO*sr=?3bw.c
d%HNo.h#8<he66#zM~92JGmBVfm0]|!?DPC9.FGajvn9Jo1OMo9>PZqt?R.Kw0NrJpU2[IO+]PO6n,VzD#uK5B;1t(xQ]lZAsnd
Y_kZ:rwr(en]Hw7^8cBhG>U,|?-Rp]0W..~~C.x<>i%e_V]Mde3Q!b*y-IrqJTZ5(E|mI|_Uxc!trr)csWa^^XL7muFhU)0*)OHk
R4-V3@X#Or,^^(GtwkJGbdge~y&9Sj/U3Cv>)b*p2~w`6l!/s]b[Pd9ILIJRH[JS(HH&-B*)27TG`0~H/*B9QNv@uIXO]*c$r<_;
m8)?LcGd]hjRhImWl~1TeQ*_;J]=LJr'nh!Wtit=LmnpStXzioK9@|qLF3U6CW;:n(wlPYQ+GYP|h(S/wI8DB<~WfG!,cB%b6Vj;
y3WU8rkJQsGN>tLU0c<^,Ya:;r<Z>reW?)5AHV.Gbfhm-FX@UFV1e9)<&z6p3ieio$qLH7Zgh6#<-4PRVl&Mqk1|0,]$=n|]N%S
E@8vttp+vodTD8`CZi)9?6zD3g(=b%$.L`#5N2g9n]%U_v+/F`&>tD0>wQo)9QnPZZ2-Si,EF4#us#nh3WN,<xsLcI8#bM2Jb5Kz
ym'O#yG_,b)p/4CkJyO=Bvco/F#7SI*!LRWDG9dJ<CCgl`_-)3trEzuF?>lMQg^^X,EZIAFQX<v^&OpxJm[Yh;hVlfJT.C'cxN
P<#k5H^8w[x&JbRH5Z1Z-Wnrg@=RdwQvg>aU9XR8O>OJfo:upucG]v`DL3_P_&g4eLeV9+2Q+r^FL@m^/D]<j)@f8Vqdem?9S1K[
h5zFX@u@yE(dHZO|HrDL]mHANr'Tx-o,I>0s]+AIpBAjWWC#I*eu]7;ZazF.S$<__UG*2<sigKey:rHsC+<7UZH>5oM)EI's=4I:
Yn0LyBaollWlN:ReoPoY*u!oKtIF7QPO@g>y5LMCK7'apLz82W)g1I;E*u'z_G7g`b8%[ivg0%dz>QW)o`2/:YKbg[sYQ<'me
x!//H5YPj-h-yPspHHE)4>&&W3WJK:N4yC_Q;yL5p9TLTJ29(aYfJTSs#p>*c57JZ2hfis5p7J'@E0g%j>OmL23Iokz#c%JO1>u
Y%hm_B,3:hyWTlK!j.210fl#Yvw]0HXHvHo2L+4!C@i'nlNhqNVqS+z~gz.zOroZf!`fPlvR7s;T&H[%;o]xJW(]14t?|HS;q3!k
RztN&a1Vr@j,M&28JAy/h)upfAs>&!`oYfWJ|;H:1i-OZDPHTDrXi]YAXBK3vnNi(oDm95<~%Qb(,q<agvB<i^2F`(`[%@b-z$63
bH:ed~.27QLMWSKz_C-Vuf7DK3O|+>?HX1R=<:$3Kj)^Ka=:s>*zIy4JuL+^#~i(0m2v:VNp0S>y8;#Uq4oF>n0oWXH;:u0[twd
5:k<1;GBJHH~e(@`71?<q?=:a_Oq]4[)nru!;5Z_$yIe:ot`_V>S'~[wzmWm_2oszd%fAm^%+7uM!2>T't1Jz)t>5F^lMf.(j^k0
ym52bJ3Z%i/H-rt=wWCCGGL.d,wiFpUr33b9Xf1:VSo~9lFYh|j@Lx/@H+`K;no^R%DRJd:8zu5-QoF@m6=#;6c(4OY;6kcsD7-H
9@fziRDAk5VcvRx[.iwUD@nZSaD<mCj!%^TPa~=xfic~/3^'c7xNY:+:n>*-9/.3nW!uhZw37k1$)*Vz@W01GX()n*.<(`[5(GBX
S1?wJ^]?k!LdP(fX.=jWD!RW7%VNbBm>nk/;qW6~dOqXMLGi3:hsDb^k+jePjeDNxenT&HUG1Hmxe0B_EsFQ`LEDPQ1Tq#wDm%8
4/_ENKr>U,s`pPoX3#u(ehE+c/HLyNf(nwV5_ili=8|iKxBHztBE?tuD(!A3ES^T?i.S1aaYJ5inBBt>-3b9p23-+TOK4`nR7o_K
AY!KB>gn1f06kmCvCv8BMdbOf6zxSybYmL(-!kX!$gkCU8a>Sn-lur>jYv<=/fwG)ra=%Wb,mZ5w&BcP9eeG_iTd#4yIrGjTUfi
f|G]f)nb~=lh_,l4YK$fQD|_,M?rs_j'&T%Wyg]f;r7#@_8WKF=3:eol]1hejh>sAcNY?Jf6xk=Eb.-S)M#(yIeb$DzN#`n^PT*
F!R_eQe`i*_7E5;ntT*jnp/wT5)jx7/In/(7dSBKGNM^CU#pL2P9!xcvd4fP|c[`c%;q!Pk8;>PTJ/)1Ao(3YQt1t*>ru;Ghlv
P@-MpfpZkv[1tJE.sN7d&2NHt>dO*QqC<Oiu2z9zFN|lFaVQ]+b0pUxiog*&msGO42QL#>'%%+[cG..XOPpt7n[7b6s$HArC0/u
y/,UP7~]XI2q8V^CTryoeVet=B]~H1N0xdWuoS|_(oNlXO>rJoN.XRH-jM~^w2DEL3_+PM[$jZ@%J,^f:lwEj9V+LT]vl;bFXx0Y
4;x<Jgvo$H!3'b_xvTE,qFD9TD6FT+H89;)p;pR5hgSToz:%PFk;|oxg+lUX.BRmn>W.1]nUVOcXMVg2yEkI/H9NLCM'3p7Bfcq;
zgjd1b/X^.z|$]P6WH?k.jdtN8Vz~GxZkW@@DY%&)tWh,F4~Gq%%Yjq$ArQ~Fp))Z&=<&3vY@u#vzi#bS3UB/y3C?^&1D_peAQ
r.;r?;g'gV<W.Hp$[iZ6-s1pu?dt/wOLHV>#H=_K?kUJmdpMM#idPlL<7:Ycd'+WOM$K`uQ6@WAf1m7rx]~5EVZ,y/pBYc.O;;HW
gl&?7se$!Ja~5ew:n:OrzTVu;hzKoOaC!xtS3h5_vjB_[(|g+_jo!-_[X]8u8:5e?:?S[VhTAKVBI3T^4JKyyJcaEgb7o+[9S2'6
k<G/Wp9SeWoeeN<U'i/I(J!7I%)E6zBdrvBQas0JUwGB./?0iY##C-zw;+N?$.Dmb|h.KA9]>%V*w`-]+wpYkt1|6TAAL&OOji
y#`QL&u2BKvWE`b^jZr1D3p^6hBIZ)B`eX'Xqb*C$W+H!B.t^#@N@3`@wvA%%K~7m(7o3h>(t_8g(s<~B>,]X4ucaJ=^~PLyqk
z)>M/4$AJ~p['z!gy89^9|?)]VC#6PE^3%UfqnGXL&@.q_uSt3h1o8pKsUyBj^1~W5p[u*=0ac;_iJh5w2^[Snw5CUPhV|F(NM&5
GC_Dl3ytr(`]2d&AdmNmI'@1;p)@fKK,[cT.5BQ>k%f@5*U2$(3NH3L<onL,U#vDO.>q_L5ax-IQO+M&nR.ON9p=Nzss/@IU7MTE
B,KB3#dRg)S'<QyPQx5PLi,!4D$#EKqz-K5=J3hn>Soy/d+:N(#ElMdnRGRE>yMQZn5.H>!6;FZZIkFLy`KxzpHirhELN4wdbt_g
HKstnI@bM:O+/5Mr:8%;tV^>2'bk#3q)!]F(T'fike)0*(?3mTLh:RD+H)7.T9+mZ>Wu^(I_S~X)[Ly+F[!+Q91p+h4!PXLEQpou
N4WNqH4+=%v.5Lut>+%q)@k%L0`8,5;vW4Sd*5VW(c2|CxxV^tWtvk_~WG*wydE7VtVltq,S.'h.aaxW9#l>lRy+N*,?Rx?D]ID@
GaHys9Wr-'[rq_6P)Qeyh7%mbtgjwZ]Jm]OkzU^L8#K`h>E?W~`dx_K5&iUk`+PQ1a,*GBOSy$S/Y^=MD!CR~EiyE].=,&U(7*f
V;oB&T`$.'4=ww;gX**E30gCh0>5n|pc(Tky%`7|a~u/7A);E@4S)':JPd+jy(|~>:K:hF-WZ+q!zJ;G44;5og_3n#p(r&R~c,(5
sR1L>k~~^.#pvaTKT+U1?O5j`O!SX<!56c4$ybO](ecPqUKi8+aA=W?~?G:/|2G[<SWSd)az!|=7YHwlE,4vp(?9hqGX::'7y20
V#0!?n/Vqq27fF,_?>-&^DdVK~64_yrRt>h(1KJH'B;[)y.RlM|-p;%S(#T0H5J*g:%e[iYSFrx0]FKEu~h=kZC360Ge|.q,tWSN
CjE6@1UF9O4v<iGo1EQB-&][s2qQ;7`CR?gWQdj87npleo-P6)[$82y'0.'ce?~A<l-'t?>yNY%#X4goPPG7Z5c^tX.-Y(vEpV)N
d're6PYoGjII?!y*!(3~9wf7CnZ^!X,<_%]>V^8odyJZb8yO4E028xwL8+3~33uoumt]Zh$7@>a|@bgS'h6akb2TR/imaMQ8sE%
4'DA9x_`bE-y`tr^Scj2#V*d>[OD:rHy%+;06o.b.>_pR#0Qo$$[TX~&n.F/j|~<b[dETe$]kB1M%yZYchB,/=8.PZ_I+fspj$%Z
opGf+.Tv=n^7W@nnnDjjMO/QC+Gz]9T]e#_.ic#$:p=iz*hnnuX&hi$gM1Bz)*F8!A4386C/H~1+/r@I8Gp<?k(EvP``*v~2<4p4
i&nN>D:;/k^:1?o3LkIL3[G3UCG]v$S|_)nTcag`~/6Idyl|W]GhhD#cu6Q`/Jhc9gpmLs<7#e`z0N38d[_S:m3|((^q/Ni<S2c
r[;b)7WV_xG.C<4qkGTZsoZHp4]w5q8FjS9pu:4I<-.D/S21N^@Cr+J$U!#&Q&gs0FW&wllz$,eOTuhrmAA2j%d>s3l^]y12U%/H
FM)1sfk]l~5wNdB<2s[ug'MweDF?.qMM)#$j?#f?EdBP,V^8EVeN1aN6/ZN?DjxDUigVPE0Usl:2pp'CFodUY#raF&UVO,bcw,^K
sK1cbk>!eh_s-^my'>&iZg@sD6CjEYctEPMjKEYiPTCBMExrI=;zh)yZ0>x']D(![a252pt`cWMB)+)O0a|2|LJ:YEpWN(b.cZ
6!%G].K3d,ZS6*l'ZO?~X;`4KlkE+AB)r3Fx*/pdP_3X>-'PEW!2yJeJK0tc2-EZ6flG+jl6yaVc]v<('CbW5USFOZAxm3(3`E02
16Gw77+pv;Qp'`GJPk9T3Z/Yu6PHjd_*FGL0d+quO2B7#8#GAbg&Kg%/[YZOd#)3r3-g^4Dlpb9qkT5BMj6]u9vsP[H1y'qm/ppv
I.'6DduU&m7/F#|bE'&fS,8/wyb84@zZu`Qa6rV48b?7hMW%AwFj-T1]?_RNv&AQ0X?^mJJ`z?^d)s1BD>>l6^ufWWF3S?G3g#:-
y++qCkK7+$NZW)rBEZxQwVlSj4Q'Mp(gTE+md,MM0g)]y38$sJwaF?8'M+aO@`SL14A92T+!?O~fG)GSbb/#o7g;NVWx&)<=2Ybz
v4npqGx#*NuK]mA%b21ds,G|4z1>NS4G*iVmz/d:O/8kXuoDiZY6t,>DpA:dM>+DNq&7/'v$^Y<HZiv29?D;4+FcF&g~z+cN@lt
1[YUlLw6jgCPuwBW8`Klsb5r#>nL8d)kOY_ja.u$G!e=e&Q?t[k69DbC)giPBFICC0lq_d!UI&r+L)$)xX=r<tUI@1(Zn$l/fZY)
OIbjp2.L>`4#ABXCR#^TK:x|cZK,d~/0V51I%Gxh3yB2|DZy/W/b%]PccDT-=S]^]Ea1cFy1@MP<BvN&]4&~M=pSah|gz|PmI0)x
LhVrp0)9/A:P-*$z+0pnAyv723-G6t`h9.$!x$%ZcNAYlw_l)n/S5h!-Hj^;M.3iAn-@N|~oT]BXc%S?'xIUv__)zNy,3~E7;%
w+):~b3f@P<^Abzkm$IRmu4]E:xs@a0]qp~pGXs%8t<opZ1BUg.L,h(JPyTQs|0Z!^[d=St521@n%Qfl-_yywJmqmRe;XN7f7CL3
1ba>U;Ta$l'uo6HadeUZ%@-m~2or+ou(Zm<N*7FO?=LMK2Uk:Y0JX9^7p'3;Y&<nd;?vdvEV.taJ_`,+IL`ZzPvHAk/]CPBuqv)
P'Ij]NP9*I1DUgA+f0ViqLuL0$&_a6$Z^N&|*EH;zIwvJ|[@z_WqS[DxSX#1_;EAI?hFcUYkBj??zww=th[fzW%,:wiFdc`i<#]C
D>8guzlY_w0_r/Dn6/(F^9@mPO8fQ7S:)hBbeh|6;QHz&<Ec3$lO%ceXBGOajCG!oXGOPgD@,?wA~yK9o21qABh,7YZ0Fh56z&H&
mt>wGb2m.Sj.;/J<pNeq?k!,64,?b3pi$z$D9I]RW!p;Xy+ucZNMssW!N4&O/gixQSks0bUv%Y-@(bb]4Z5*<.!=cwQ;|Z8#!gX|
8p=a?:X-P+uCJ3<JT2i|T[wM~^VA|&30e~|ef^Y(YvRC=:XM?%^<ir3.g]4Wo[>yvBk%/PtMTI:qx#9G%@|5YgeH|c)=>J388xA
Q>`K=,M'UDd=:]R*d!yKC7GQ`n*1(U@2G'DWAJwgXK(8||]p~i'fS9V;6cf[B:>50sBUOjGX<zN/K,]zJ#(ZO_NWs@h3qlAqYeu*
ZeS)nV<=HLB^e]^Hr>*alwE2B|@ofHo1;EM)0!E'4zWxHAMy|,ZK1Jp'_=75]<[>cbzvadEdP55:/%n%85F.gQkj2@^$N.mI9i
s`,)ZW|]+@<@o%y^ce|h)HC=ZEf`j%sOHfGKiN3&yvodo0B*R~upR~>$1[a~!d+fO>_wd(o<sa-)7~xUU[D=?X9sq*~@XxKX!$Xo
2`7%*B/ABjFn$9MI#f[gd`Qmp/8Wn~hs85X9QE'JHJPL32c$g0-D!@Jv8bh8uKYbvb#HX?6M^%z!'7hu/CY&OrVH+OF)rGhOUJwJ
m%`tG$B<tK:65Fo]<0YR%E]/QFr%DK4#Z;X~|L!X(xTg00a;_$$FmP4;U8P#J&W*>VcqUx;8-WkQ>g)B;#L6@&N0~;VCzHrjs/<M
Aq)50jNFcRui-=tTDK5B'UAvAx)NGRpvufWh/QH-FJ2fEuc4z6-i7``Xko?O$u+?-*jD<[eDQ<1dVC<_Vq%r[YS+JF)9<R:l9b/
3^LM-:LVKQeWe<6f&LBfkTUCf(Z.zh4|txU<n|,ZlOIhBn8E#A:*:(S6F)Bv'*!_mF~qd$_>U=ttaj5E$'/|Mwk!$dw7QJq)-|@q
j'zdFeQ3nVI~Ro/gWzG6'7coSsdu]PD9xA)&)C+gW~gaVAGZr>n62o?_)akev|HWGnx?_ds1Pfi^<xYXF8*p;k/k5/7@Lv1-s7nd
kD_1Np=^6OZ0*t*22aN/b>,|;ug4.upk]>/U`;tKzV@ks/]`Gm+dl/S_N)V]|fqv@UJ'f=g3eE&U(,@Dl1.3MEa^h%IYQa;:)w<`
8c/E9uGccRl@8SgB&$3!*'2xys'T*.sH[T=,jUR4!.XZ'hgDF0_CHzk_mH8RPI-&QmDw(vDDg'F]OT5GU><2RiH7MpuV'lU$44mY
n12SkAT#o:5&rh->JCG:#=!+H4gd:zf7`D6cbPKBLuyVKm#JkM!+Eo<W5YlfWFQZ<);Oq?XT,wLoYcdh-6m7.-bTsEG,yt<cB8^h
bYDJIj??A/ua.n!c>91gT%<@e,BbowSR*qI*ZJll@44!Ha-X;DD.D^C,oj[K]aJsMZpY(`>UFc;^8aACmOkd@Ai[2%/S?#+x|M7(
e=A|S'-m*UOj0)*dRKbHZ<BhhoYQ|TCwQ$0I_p1(K(6l0O</u:$|PL,~Ah*e:#(KK5GA&8-5dLGC.&;Y42b-|*9cHdrdH=*#YM
s@+g5K`x*p)3l~:<jwAbbe(|5?0Kl|ib~rwEfUsL^nz*<#`lpY'Z-9#DfO;w:~HQX#r@X%VkQ5bP/8Q`Z.(g-DS=y[|,#aQ(gxW)
l$ayc&jgY|Bzxs6Jk1j13BGBp(N&C?<?B4]Eqbrn2$2kC`qXY+FU,osUeJd?zl-#Q|fV*;+1tZs_aWtkJPB]iUEM)9hOLxFs'J
X|@P4thq!xj'H9j)@P1)'*-Yzz!#=7DHohz)4+qehhL&$640ck@aA~ucn>=e$v+VnBDY6A]x4w<$]#JNq#`0ngyGG@!>-^W.tzC(
X_Fgl9-wh?[TOAnWgD?|K6@Hp;%O_vTseE0q]vci6e]eJ4'3wMO]DOT:;!F`_D7QS[4P-A:^VjI!y6U2u1h5fs',4O`6k=S/2a4,
ixWrA|)!/CF._q6RERd8v.9OtS2`0wrjb]<uyq;:7+dUenT%^`@5N/&ftlI%Ob'OG8BB-c8FW|ITV0[`G[^_7>#jBHdPW*W.l=hA
F&fF5#v,&L|6UWv'(j0Izk1K0!B%+vSxwoY*/SLSBA`KSQxo3#7FjodIneJpQDyl`|91QzaZ>G##:/MzV*(6U2%p>4b%A)e1O,w/
S1VX9?d^Y<DJf(%EbgXxC:~f&%ElaiHx@yvaGw)Noy9/0n3T[b=m+7Yxf+]&te/6aj7he+AW&6h[zOM&HJchnch)RAC'rvXB3^P
o+F?9X$2AdFS3f~lLbD;?8dOJbUlHGn(efNq`'!:pEY9EHyP?zW<42_vW'5`UY7vT'/:z&zFzcQBEa@@l1]#qQDilNa>sF=<NyXX
2NZVy&8@9@wQWZ?+f&A97|!)kO&X=oK)N*i`k`YLYIMy$mu<c`[go%A!aU|]ZCYV4gtHM4A>JSq2w6^#`W^Ui.NL((_H;>~r8]$J
jB9g8R!uy]YcgY!p@.%*~/o6RPQU8.S337fE[w6o_-&5BAa(BZg=]KA9|vaEJ!C@V/hCuN?#Zk2D@+61XShbd?7Fh#ney7eAsf>e
l;#[eigxX?y0BhO@?uT7*wyZ==AR-@(t<eL0nnOwrQ`z7Gqm*KTyrQn.E~`WItpvn@+3,?5@WXOqzuqLu]5k+|e_y;GB';g?V:J^
tbnY(1S4=XsT_aHQKLRq[w0i@a'yq!|*$|Cof%<m6n%NEa-C/%=ytwK*M0Cc;=2z^.G;=>x+2S!3G-yHsu5!udc:2r~0(dan/0~M
F1cpmM.)ne8]MO:QcSC:BW7,nlO2Yy4V3Si!&HWBBT$~.3vNISo'[Dt'gab*A+)6ajo~Y+Pu#ff_RI9.E]]MR@)qcXb[O&r*u*M&
9e=IA|J);6DDDxTS.@m]tJqX||jtw.(Ca~*g_G]$1,aK^~HQFF0rEYy*TDL68^@YwmZpPyLfvR+?-WE1ragI.1S>*@izqM$d:3_G
to8FM.0w,a&;JY[)(Txf>a^8q,kMQ.oU)HHskzV4i;8jP@hz$3+qgx2X_;x3gdjz]`ip45T7G&T4%9[>1U=yDtLve:$b2XDwI[>)
ojJAHU6np`w>o11Bq53[HEH$zun-o[%;2w-cp*y]=i5,pXm.4mj1DNwTjOw1.z:8Kf|l-OV'yZ`y3:sB+6%H+WT[6uHyeIu)`;R.
2co'eNAAIfTgPOi_l7tL0g57(8E:v-(p%(:a.wT6U7OxOHm1Q)9!jKnw;Wc+@P(LqO>#v!4rd9/Y+?3$]0f_:34WL4y30okAl<A
x+X*f_`TZB_vvuEM/)vCz+|g:eFUoKhLxg9qX5+6H-po~yb/b#IsS!j=v>/Y]eO[`bYyv=1Ac;f&r&2]<P>B5N;O2Zy>KtlJHCOl
IGDw0Hu>cctPt*oJb3N6|q1~)Rp9_B!12'pOW8uQ^]r*1[|rjSA(a?+Iv66x&DJ&CX)v)KWi*fN,*L|]mwcp*~^y[<F[=MD'RGv
I$Pu2=4Dk7:_38:sdz%v`b/3A;qzV9YK&[6H/b9!Hc<R1$tC_mS_c7NzxQI:@@zr7^mmkEyyuaTmMxrSOm#*@0J<g_4IK3G#5`TV
hTo<W5D,qf+njy>:|GD3O8X'%o/EKkyr.=t3H/Xr5i;H]HZ5M]'vg@~HKsUt`V$Pit1`vO;7!Yj$D<!FaaX_,Z+KYDKN]Qr([b(m
z~?Aa5UK>:FQLT(.vde!~wGX]6e~x];*y6jsA:%AUpy^l=qd758@tP9QL?D=,W;u1-MsL04'mXqt%*O6Yug;CHL-!;,6:o%c6bxq
d,-`@Y&_)0Btg?JhEb:Zo_x%7zPA$_ea0UyB0@61w>C3l#$)x5rn2kOZQc|*~]1j?.TDq9a~1I9|c)H(3lyX.|XRbYO&<H%toZ
7#$!scjPLiP(64~sdQUAaqewMiVt1@@5S>S6W:yH*tn7a`Ib^A](0W'Nb;fG,(X<ak3(g&;)~cQ2?$=Y,PFkxgs_G)M_^^j+1+Zt
65Dyn&&4C:<)/M:ko*Hb)oQ5-Nu,azf:&uTaV1<$~N':ISrW>|igE`<rlSC$zNS@x?h@xsAtLnxq0^3)!PT-^7uRYbU8t5Az*lbL
qVLdk6mrTAL--$<73tbiB~J6az.;qbi@qU-FHrC4.'p!WC#2p_oLFn(^l9Uy1r;lR?4vt4n=(Ox-LMP%G=8;-maLOb$Sa|;jCXuW
X8Z;fc[2-nTb5iGg0Z[_f6IB+lCt^Ag;yCnOhmGJ2|;^QH)#Il5#]$;xcR`D!?F9p~I3uiFu`l7Y4%97(P,+$dBo'te3*u/q%B
p@@=c=-b,n?8!OBmNp8'4l>&HAC75j.NAvPgunTTNp;rsfiM$;OqfJ$=4#Y-%Q5~T+p=&jGDQrSq*'oE)V9]=o#Pm2)#`CC./.E#
if6yH8qaqUCu3sO=B2!|]iC@bhv8w?yx?gh7uLjU!L^.-^RIt>s3`kf#eq0MS9>eRq&xz;0z!8aO<f!O'%za@/3WoFSx-M'oLCfq
z=e3Lj~N|+p^,diP;U&pHX/PK17ZwVaQO|En98817_hokF?,BS>A/CPRp56G&GHD<hR54=p]u&zltDu_'qy/++IJop~DIe(`sM2p
8&`#5#P>5r$@E|qHg)PbZA_^is1A:yM2W8bON2PbL>WXaW^ZG_IGqxR.1[XS2`RP)6dT>xMWsriFs9ie~g45EC(g#X--$pjWS~58
l;i$`epC$xHqYtrW7m8L^EPh9_f6[vh/gy-(aG])^Rr?eko_'k5(+NjU$(|]+3A%p77-GR@R]b;fKH`%IFr$32PHCCq/f>hVGv~l
0nWD`twwRU/iq,8nMDR@=kW[Zm)NANfsfqk9_~^0zXp/xmX:ToG?S%e)%/Xy/0=0:7<h%VVa$)z7IuDL>v=8xwE[4hA.J[&SzVFe
b,d2e.H[33@p2^M]C+oI_vKmlPX_Pe=)%WotNX9fQSe8*JWn>c!g&t$edu`X=9dZY&/8c|`_&hlY2Q0~`ITZaP|#?p~#U>cJ/W=
6]y9ehaKqNNZ=BXvWp/Mlm9PLo!/0GO%q_yjg;lTRhUa3Dkg'O?7hQ<N06Rft<$&Qu;ByAMwo&?%!OFE0_QboTEY?onkpr+.*
e(>=~i^moT5n-'-^-@ZKb6[sg,A1`64i@KRym:2Ho8_g3PD2kwZS4ix5c8N*<c!9nZ6u]D3zV%tR>#x%+Z>)R2#'*V3z9W<AubIG
9gFA;-,,5h~ZclJ*T9gifpGte-p7a*.i+s,f`P@tw>+)ESG+f:(=@iqQ(wD&||lx$#A7v!q*!AN:J`AQ^m:S2382_E_$(I$=.s?~
UXNAme=xbZEIBH_m!8-slgZ1_N/*ylCRvALiFvxMIS2Wu!QpG3@N$zQr'JeYZTcCdLK?RPG|zB$/!l1h%F]5iqk'[u%#qKY+c8'w
u:c/Q;rsdgZ?Ug8_@v<$SpVsLL~^H#b_|34yHTRV:':=eI==,BU(xN:(>=@mde)yYSO+u[V.0fGC$LRib>p`+2k,KLpgW_%.?Z:
G#HGhOrvw/*|As'qQSww;;QjB8_[L,?,gADc3g:ujHtDtA6|,FENm!ENJ|pCs.'Y$2[R<jy'Imew,Fc&5qC#A.ApHzi]!~zvw!01
L+Ojo3>2lLt?R5(i4-u~l'$rsSX$Q9>Lky!u,q5gKjbcY=4xY?ihsU)L><5*;g]!Pk@l+edc(O)Dz5$1iloo._~]n/O,N5$<7B~j
0+67]8Q](Lg5v|0SCJ6d)#7koi0`Y]i/izE<BHRkE(FAG)ItR#~!1Q[PV>R6-C]4[K:@u^I<'aBj7~&jl.wyh0BZm9z,i/uRZ|@
k>Z;V=(ee)!R0tv5R*3fK44uc19m-go_L#l1Ml~Hxpe+Po1*||3C_zIm_zZC])6KkWLZTZshOIV>ItY^9?tZ`)M$GxH`MnLTz-'B
oaf<JqP%2A,>p/uhSH,B<22kzMFNi2@J(+.grl&k7EEgJ0&p@[syV'H0_TiG$O|.HJ@YW$(H)r'q>5|cLV~z21b4nqTu0,(Ob;T9
aI0+*R%tS(.(],j8H_hRy.GL?_[kr^C]T?Pd`x-Wlr7k#Wn=rcD(Av8`VJUf>*%fI.&IKc,s0xbEo.yR6T@E&H5ubpn8rLU%/`+t
6e4`D%GRqNK~!5b^)i<'`mW:-sqg!`__&elWBua'dMG_CD&%'B)2d>~|L(Z1dt]]`*f:8_+enD:4@/g8etZwj`<h+kvk9OY)UFw'
hSr?9aU-4/d~f-0.x9c;02[vieBqJ$J'e>EE?^bQtC3BRt]mlo8:wKzz+wBeckktY/no,.3*eZ*DCLn3v~UUT6=.$GH$_/v0I
6[~#p_kpby9DEu;i2#5DI?o$lM%,]N*FKc;lk'iRgg_8F:GM0PJBV[aL$XTA*`81yz:=?)xO`V#OxhbrqJh>O+@,V6dh_XUCR.4P
4H1Lx5y<eeHze-H$U$$/sk00%;,Vj`2InKqwN0RA(pH$^tUnlzh22[K-&wh.r4fyyzs.<iQ?_[B50(*p*9-t8gXl2VbeTH*CP:m
2_SLQd:(px0FBS45'9Opx$OW2.F2y::yXL>hLtnt_cNi6S)sZ1TW6^M-n~o0OOq@rxfQis60|3mXQ=+wV/!c8@h<*+^>)*W6jJ^4
ZrJS/3J&ixE4G3CMo'>xsMogOYS,F.q6RVG5i#EaR@7U_APci,TWwMRJatVQjYyeSSVW5IF=cFu#*J+qhtS*TBm3?Tw+n$xo%Mpr
fx%W)&<HM<ff88#S~?zFZX(^QFO<4Cij=;D:;7JGZ;01Mq1;s'zn)xD>v6)pl;SHkkfS*Qu`!v[e+uNOK[Yo?xVh==AOZcrW&Ii
3~p!?^dP_?+hI0`xI<@#JzZa:DmmXraWxbyjTmr~o0!~yoQw98J2awbhW~k-hR[hw,'.jV`:3NK9CKZ7N<A4d?lmMjaJb&GO6&*?
l8QXN_TKyh#VPkeS|%)p<kO'w:L00b%4().uD^iBk~O_5UkxFW:$|S#|`1eIM@Ma_(glPuRw;IZ$O,y~Wz=&g23f&)_TDy-<IXBp
3>UGDL&BUU4Z-S@aq/Odw!04|EW+VwM;xVy<ikIz:Xpo!m,'io4).F:Lu+7zZ]FtK&LUZZ8Ojl,7+$[u0%a<IRq_`27quzmDcs+$
o/`@iE.=>1'e>yS1unzbi<A>n2n@OXbV8J8WFsn|WU([ASTnvcn:qxMpF`<.fS0UJW&n&xP;wfSp[;(5~A#?W_v))]AE~e%bMDsZ
eX]<&g5^fpG>T=70)jm2DkCqy`uke8~5%3yud~SQHp23A~%H?us9d:wgzy[%OFzqsBOy@7@Ol2c)qMLQC,nfC9jhGx?;z8$P!%zF
ZStN]ao4&D%q_`E.?eB!-;9$j-[.S(.i%njhJU*WIW':xk1XIm~?~RU3fDjoQ<OSFvRC>JiL+J6Urx?Ku;TINpDC|@&7<!tlBu6
3+E+~j`%9V|9zIg1('@yVWCq8h_V$E4]3oRV6_#[KLmX#(aE[!WBSY0.'HImCi6N,09=rplTc6B#0($@i&vkY[Or=`56lmyg8Aoj
P*(6a-[|Yr#h"

end BindingStubs.Text.CharacterName
