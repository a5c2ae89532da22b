import BlogTheme.Text.Transliteration.Block

/-!
# Syllabic scripts

Readings of signs that stand for syllables, and of the Korean letters of which
syllables are made.
-/

namespace BlogTheme.Text.Transliteration.Syllabaries

/-- Korean letters. -/
def jamo : List Block := [
  .ofText 0x1100 "g gg n d dd r m b bb s ss ∅ j jj c k t p h",
  .ofText 0x1161 "a ae ya yae eo e yeo ye o wa wae oe yo u weo we wi yu eu yi i",
  .ofText 0x11A8 "g gg gs n nj nh d l lg lm lb ls lt lp lh m b bs s ss ng j c k t p h",
  .ofText 0x3131 "g gg gs n nj nh d dd r lg lm lb ls lt lp rh m b bb bs s ss ∅ j jj c k t p h a ae
    ya yae eo e yeo ye o wa wae oe yo u weo we wi yu eu yi i ∅",
  .ofText 0xFFA1 "g gg gs n nj nh d dd r lg lm lb ls lt lp □ m b bb □ s ss ∅ j jj c k t p h □ □ □
    a ae ya yae eo e □ □ yeo ye o wa wae oe □ □ yo u weo we wi yu □ □ eu yi i"]

/-- Ethiopic. -/
def ethiopic : List Block := [
  .ofText 0x1200 "ha hu hi haa hee he ho hoa la lu li laa lee le lo lwa hha hhu hhi hhaa hhee hhe
    hho hhwa ma mu mi maa mee me mo mwa sza szu szi szaa szee sze szo szwa ra ru ri raa ree re ro
    rwa sa su si saa see se so swa sha shu shi shaa shee she sho shwa qa qu qi qaa qee qe qo qoa
    qwa □ qwi qwaa qwee qwe □ □ qha qhu qhi qhaa qhee qhe qho □ qhwa □ qhwi qhwaa qhwee qhwe □ □
    ba bu bi baa bee be bo bwa va vu vi vaa vee ve vo vwa ta tu ti taa tee te to twa ca cu ci caa
    cee ce co cwa xa xu xi xaa xee xe xo xoa xwa □ xwi xwaa xwee xwe □ □ na nu ni naa nee ne no
    nwa nya nyu nyi nyaa nyee nye nyo nywa a u i aa ee e o wa ka ku ki kaa kee ke ko koa kwa □ kwi
    kwaa kwee kwe □ □ kxa kxu kxi kxaa kxee kxe kxo □ kxwa □ kxwi kxwaa kxwee kxwe □ □ wa wu wi
    waa wee we wo woa `a `u `i `aa `ee `e `o □ za zu zi zaa zee ze zo zwa zha zhu zhi zhaa zhee
    zhe zho zhwa ya yu yi yaa yee ye yo yoa da du di daa dee de do dwa dda ddu ddi ddaa ddee dde
    ddo ddwa ja ju ji jaa jee je jo jwa ga gu gi gaa gee ge go goa gwa □ gwi gwaa gwee gwe □ □ gga
    ggu ggi ggaa ggee gge ggo ggwaa tha thu thi thaa thee the tho thwa cha chu chi chaa chee che
    cho chwa pha phu phi phaa phee phe pho phwa tsa tsu tsi tsaa tsee tse tso tswa tza tzu tzi
    tzaa tzee tze tzo tzoa fa fu fi faa fee fe fo fwa pa pu pi paa pee pe po pwa rya mya fya",
  .ofText 0x1361 "␣ .␣ ,␣ ;␣ :␣ :␣ ?␣ //␣ 1 2 3 4 5 6 7 8 9 10+ 20+ 30+ 40+ 50+ 60+ 70+ 80+ 90+
    100+ 10,000+ □ □ □ mwa mwi mwee mwe bwa bwi bwee bwe fwa fwi fwee fwe pwa pwi pwee pwe"]

/-- Cherokee. -/
def cherokee : List Block := [
  .ofText 0x13A0 "a e i o u v ga ka ge gi go gu gv ha he hi ho hu hv la le li lo lu lv ma me mi mo
    mu na hna nah ne ni no nu nv qua que qui quo quu quv sa s se si so su sv da ta de te di ti do
    du dv dla tla tle tli tlo tlu tlv tsa tse tsi tso tsu tsv wa we wi wo wu wv ya ye yi yo yu yv
    mv"]

/-- Syllabics of Canada. -/
def canadian : List Block := [
  .ofText 0x1401 "e aai i ii o oo oo ee i a aa we we wi wi wii wii wo wo woo woo woo wa wa waa waa
    waa ai w . ' ' ' ' ' ' ' ' . ' ' ' en in on an pe paai pi pii po poo poo hee hi pa paa pwe pwe
    pwi pwi pwii pwii pwo pwo pwoo pwoo pwa pwa pwaa pwaa pwaa p p h te taai ti tii to too too dee
    di ta taa twe twe twi twi twii twii two two twoo twoo twa twa twaa twaa twaa t tte tti tto tta
    ke kaai ki kii ko koo koo ka kaa kwe kwe kwi kwi kwii kwii kwo kwo kwoo kwoo kwa kwa kwaa kwaa
    kwaa k kw keh kih koh kah ce caai ci cii co coo coo ca caa cwe cwe cwi cwi cwii cwii cwo cwo
    cwoo cwoo cwa cwa cwaa cwaa cwaa c th me maai mi mii mo moo moo ma maa mwe mwe mwi mwi mwii
    mwii mwo mwo mwoo mwoo mwa mwa mwaa mwaa mwaa m m mh m m ne naai ni nii no noo noo na naa nwe
    nwe nwa nwa nwaa nwaa nwaa n ng nh le laai li lii lo loo loo la laa lwe lwe lwi lwi lwii lwii
    lwo lwo lwoo lwoo lwa lwa lwaa lwaa l l l se saai si sii so soo soo sa saa swe swe swi swi
    swii swii swo swo swoo swoo swa swa swaa swaa swaa s s sw s sk skw s-w spwa stwa skwa scwa she
    shi shii sho shoo sha shaa shwe shwe shwi shwi shwii shwii shwo shwo shwoo shwoo shwa shwa
    shwaa shwaa sh ye yaai yi yii yo yoo yoo ya yaa ywe ywe ywi ywi ywii ywii ywo ywo ywoo ywoo
    ywa ywa ywaa ywaa ywaa y y y yi re re le raai ri rii ro roo lo ra raa la rwaa rwaa r r r fe
    faai fi fii fo foo fa faa fwaa fwaa f the the thi thi thii thii tho thoo tha thaa thwaa thwaa
    th tthe tthi ttho ttha tth tye tyi tyo tya he hi hii ho hoo ha haa h h hk qaai qi qii qo qoo
    qa qaa q tlhe tlhi tlho tlha re ri ro ra ngaai ngi ngii ngo ngoo nga ngaa ng nng she shi sho
    sha the thi tho tha th lhi lhii lho lhoo lha lhaa lh the thi thii tho thoo tha thaa th b e i o
    a we wi wo wa ne ni no na ke ki ko ka he hi ho ha ghu gho ghe ghee ghi gha ru ro re ree ri ra
    wu wo we wee wi wa hwu hwo hwe hwee hwi hwa thu tho the thee thi tha ttu tto tte ttee tti tta
    pu po pe pee pi pa p gu go ge gee gi ga khu kho khe khee khi kha kku kko kke kkee kki kka kk
    nu no ne nee ni na mu mo me mee mi ma yu yo ye yee yi ya ju ju jo je jee ji ji ja jju jjo jje
    jjee jji jja lu lo le lee li la dlu dlo dle dlee dli dla lhu lho lhe lhee lhi lha tlhu tlho
    tlhe tlhee tlhi tlha tlu tlo tle tlee tli tla zu zo ze zee zi za z z dzu dzo dze dzee dzi dza
    su so se see si sa shu sho she shee shi sha sh tsu tso tse tsee tsi tsa chu cho che chee x cha
    ttsu ttso ttse ttsee ttsi ttsa sign . qai ngai nngi nngii nngo nngoo nnga nngaa"]

/-- Hiragana. -/
def hiragana : List Block := [
  .ofText 0x3041 "a a i i u u e e o o ka ga ki gi ku gu ke ge ko go sa za si zi su zu se ze so zo
    ta da ti di tu tu du te de to do na ni nu ne no ha ba pa hi bi pi hu bu pu he be pe ho bo po ma
    mi mu me mo ya ya yu yu yo yo ra ri ru re ro wa wa wi we wo n vu ka ke □ □ ∅ ∅ \" \" \" \"
    yori"]

/-- Katakana, also of half width. -/
def katakana : List Block := [
  .ofText 0x30A0 "= a a i i u u e e o o ka ga ki gi ku gu ke ge ko go sa za si zi su zu se ze so zo
    ta da ti di tu tu du te de to do na ni nu ne no ha ba pa hi bi pi hu bu pu he be pe ho bo po ma
    mi mu me mo ya ya yu yu yo yo ra ri ru re ro wa wa wi we wo n vu ka ke va vi ve vo * ∅ \" \"
    koto",
  .ofText 0xFF61 ". [ ] , * wo a i u e o ya yu yo tu - a i u e o ka ki ku ke ko sa si su se so ta
    ti tu te to na ni nu ne no ha hi hu he ho ma mi mu me mo ya yu yo ra ri ru re ro wa n ∅ ∅"]

/-- Chinese phonetic signs. -/
def bopomofo : List Block := [
  .ofText 0x3105 "B P M F D T N L G K H J Q X ZH CH SH R Z C S A O E EH AI EI AU OU AN EN ANG ENG
    ER I U IU V NG GN"]

/-- Yi, with its radicals. -/
def yi : List Block := [
  .ofText 0xA000 "it ix i ip iet iex ie iep at ax a ap uox uo uop ot ox o op ex e wu bit bix bi bip
    biet biex bie biep bat bax ba bap buox buo buop bot box bo bop bex be bep but bux bu bup burx
    bur byt byx by byp byrx byr pit pix pi pip piex pie piep pat pax pa pap puox puo puop pot pox
    po pop put pux pu pup purx pur pyt pyx py pyp pyrx pyr bbit bbix bbi bbip bbiet bbiex bbie
    bbiep bbat bbax bba bbap bbuox bbuo bbuop bbot bbox bbo bbop bbex bbe bbep bbut bbux bbu bbup
    bburx bbur bbyt bbyx bby bbyp nbit nbix nbi nbip nbiex nbie nbiep nbat nbax nba nbap nbot nbox
    nbo nbop nbut nbux nbu nbup nburx nbur nbyt nbyx nby nbyp nbyrx nbyr hmit hmix hmi hmip hmiex
    hmie hmiep hmat hmax hma hmap hmuox hmuo hmuop hmot hmox hmo hmop hmut hmux hmu hmup hmurx hmur
    hmyx hmy hmyp hmyrx hmyr mit mix mi mip miex mie miep mat max ma map muot muox muo muop mot mox
    mo mop mex me mut mux mu mup murx mur myt myx my myp fit fix fi fip fat fax fa fap fox fo fop
    fut fux fu fup furx fur fyt fyx fy fyp vit vix vi vip viet viex vie viep vat vax va vap vot vox
    vo vop vex vep vut vux vu vup vurx vur vyt vyx vy vyp vyrx vyr dit dix di dip diex die diep dat
    dax da dap duox duo dot dox do dop dex de dep dut dux du dup durx dur tit tix ti tip tiex tie
    tiep tat tax ta tap tuot tuox tuo tuop tot tox to top tex te tep tut tux tu tup turx tur ddit
    ddix ddi ddip ddiex ddie ddiep ddat ddax dda ddap dduox dduo dduop ddot ddox ddo ddop ddex dde
    ddep ddut ddux ddu ddup ddurx ddur ndit ndix ndi ndip ndiex ndie ndat ndax nda ndap ndot ndox
    ndo ndop ndex nde ndep ndut ndux ndu ndup ndurx ndur hnit hnix hni hnip hniet hniex hnie hniep
    hnat hnax hna hnap hnuox hnuo hnot hnox hnop hnex hne hnep hnut nit nix ni nip niex nie niep
    nax na nap nuox nuo nuop not nox no nop nex ne nep nut nux nu nup nurx nur hlit hlix hli hlip
    hliex hlie hliep hlat hlax hla hlap hluox hluo hluop hlox hlo hlop hlex hle hlep hlut hlux hlu
    hlup hlurx hlur hlyt hlyx hly hlyp hlyrx hlyr lit lix li lip liet liex lie liep lat lax la lap
    luot luox luo luop lot lox lo lop lex le lep lut lux lu lup lurx lur lyt lyx ly lyp lyrx lyr
    git gix gi gip giet giex gie giep gat gax ga gap guot guox guo guop got gox go gop get gex ge
    gep gut gux gu gup gurx gur kit kix ki kip kiex kie kiep kat kax ka kap kuox kuo kuop kot kox
    ko kop ket kex ke kep kut kux ku kup kurx kur ggit ggix ggi ggiex ggie ggiep ggat ggax gga ggap
    gguot gguox gguo gguop ggot ggox ggo ggop gget ggex gge ggep ggut ggux ggu ggup ggurx ggur
    mgiex mgie mgat mgax mga mgap mguox mguo mguop mgot mgox mgo mgop mgex mge mgep mgut mgux mgu
    mgup mgurx mgur hxit hxix hxi hxip hxiet hxiex hxie hxiep hxat hxax hxa hxap hxuot hxuox hxuo
    hxuop hxot hxox hxo hxop hxex hxe hxep ngiex ngie ngiep ngat ngax nga ngap nguot nguox nguo
    ngot ngox ngo ngop ngex nge ngep hit hiex hie hat hax ha hap huot huox huo huop hot hox ho hop
    hex he hep wat wax wa wap wuox wuo wuop wox wo wop wex we wep zit zix zi zip ziex zie ziep zat
    zax za zap zuox zuo zuop zot zox zo zop zex ze zep zut zux zu zup zurx zur zyt zyx zy zyp zyrx
    zyr cit cix ci cip ciet ciex cie ciep cat cax ca cap cuox cuo cuop cot cox co cop cex ce cep
    cut cux cu cup curx cur cyt cyx cy cyp cyrx cyr zzit zzix zzi zzip zziet zziex zzie zziep zzat
    zzax zza zzap zzox zzo zzop zzex zze zzep zzux zzu zzup zzurx zzur zzyt zzyx zzy zzyp zzyrx
    zzyr nzit nzix nzi nzip nziex nzie nziep nzat nzax nza nzap nzuox nzuo nzox nzop nzex nze nzux
    nzu nzup nzurx nzur nzyt nzyx nzy nzyp nzyrx nzyr sit six si sip siex sie siep sat sax sa sap
    suox suo suop sot sox so sop sex se sep sut sux su sup surx sur syt syx sy syp syrx syr ssit
    ssix ssi ssip ssiex ssie ssiep ssat ssax ssa ssap ssot ssox sso ssop ssex sse ssep ssut ssux
    ssu ssup ssyt ssyx ssy ssyp ssyrx ssyr zhat zhax zha zhap zhuox zhuo zhuop zhot zhox zho zhop
    zhet zhex zhe zhep zhut zhux zhu zhup zhurx zhur zhyt zhyx zhy zhyp zhyrx zhyr chat chax cha
    chap chuot chuox chuo chuop chot chox cho chop chet chex che chep chux chu chup churx chur chyt
    chyx chy chyp chyrx chyr rrax rra rruox rruo rrot rrox rro rrop rret rrex rre rrep rrut rrux
    rru rrup rrurx rrur rryt rryx rry rryp rryrx rryr nrat nrax nra nrap nrox nro nrop nret nrex
    nre nrep nrut nrux nru nrup nrurx nrur nryt nryx nry nryp nryrx nryr shat shax sha shap shuox
    shuo shuop shot shox sho shop shet shex she shep shut shux shu shup shurx shur shyt shyx shy
    shyp shyrx shyr rat rax ra rap ruox ruo ruop rot rox ro rop rex re rep rut rux ru rup rurx rur
    ryt ryx ry ryp ryrx ryr jit jix ji jip jiet jiex jie jiep juot juox juo juop jot jox jo jop jut
    jux ju jup jurx jur jyt jyx jy jyp jyrx jyr qit qix qi qip qiet qiex qie qiep quot quox quo
    quop qot qox qo qop qut qux qu qup qurx qur qyt qyx qy qyp qyrx qyr jjit jjix jji jjip jjiet
    jjiex jjie jjiep jjuox jjuo jjuop jjot jjox jjo jjop jjut jjux jju jjup jjurx jjur jjyt jjyx
    jjy jjyp njit njix nji njip njiet njiex njie njiep njuox njuo njot njox njo njop njux nju njup
    njurx njur njyt njyx njy njyp njyrx njyr nyit nyix nyi nyip nyiet nyiex nyie nyiep nyuox nyuo
    nyuop nyot nyox nyo nyop nyut nyux nyu nyup xit xix xi xip xiet xiex xie xiep xuox xuo xot xox
    xo xop xyt xyx xy xyp xyrx xyr yit yix yi yip yiet yiex yie yiep yuot yuox yuo yuop yot yox yo
    yop yut yux yu yup yurx yur yyt yyx yy yyp yyrx yyr",
  .ofText 0xA490 "Qot Li Kit Nyip Cyp Ssi Ggop Gep Mi Hxit Lyr Bbut Mop Yo Put Hxuo Tat Ga Zup Cyt
    Ddur Bur Gguo Nyop Tu Op Jjut Zot Pyt Hmo Yit Vur Shy Vep Za Jo Nzup Jjy Got Jjie Wo Du Shur
    Lie Cy Cuop Cip Hxop Shat Zur Shop Che Zziet Nbie Ke"]

/-- All of them. -/
def blocks : List Block :=
  jamo ++ ethiopic ++ cherokee ++ canadian ++ hiragana ++ katakana ++ bopomofo ++ yi

end BlogTheme.Text.Transliteration.Syllabaries
