import BlogTheme.Text.Transliteration.Block

/-!
# Other alphabets

Readings of the letters of alphabets other than the Latin one. Where vowels are
not written, the reading has none either.
-/

namespace BlogTheme.Text.Transliteration.Alphabets

/-- Greek and Coptic. -/
def greek : List Block := [
  .ofText 0x370 "H h S s ' , W w □ □ ∅ s s s ? J □ □ □ □ ∅ ∅ A ; E E I □ O □ U O I A B G D E Z E Th
    I K L M N Ks O P R □ S T U Ph Kh Ps O I U a e e i u a b g d e z e th i k l m n x o p r s s t u
    ph kh ps o i u o u o & b th U U U ph p & Q q St st W w Q q Sp sp Sh sh F f Kh kh H h G g CH ch
    Ti ti k r c j Th e e Sh sh S S s r S S S",
  .ofText 0x1F00 "a a a a a a a a A A A A A A A A e e e e e e □ □ E E E E E E □ □ e e e e e e e e
    E E E E E E E E i i i i i i i i I I I I I I I I o o o o o o □ □ O O O O O O □ □ u u u u u u u
    u □ U □ U □ U □ U o o o o o o o o O O O O O O O O a a e e e e i i o o u u o o □ □ a a a a a a
    a a A A A A A A A A e e e e e e e e E E E E E E E E o o o o o o o o O O O O O O O O a a a a a
    □ a a A A A A A ␣ i ␣ ␣ ␣ e e e □ e e E E E E E ␣ ␣ ␣ i i i i □ □ i i I I I I □ ␣ ␣ ␣ u u u u
    r r u u U U U U R ␣ ␣ ` □ □ o o o □ o o O O O O O ␣ ␣"]

/-- Cyrillic. -/
def cyrillic : List Block := [
  .ofText 0x400 "Ie Io Dj Gj E Dz I Yi J Lj Nj Tsh Kj I U Dzh A B V G D E Zh Z I I K L M N O P R S
    T U F Kh Ts Ch Sh Shch ' Y ' E Iu Ia a b v g d e zh z i i k l m n o p r s t u f kh ts ch sh
    shch ' y ' e iu ia ie io dj gj ie dz i yi j lj nj tsh kj i u dzh O o E e Ie ie E e Ie ie O o Io
    io Ks ks Ps ps F f Y y Y y u u O o O o Ot ot Q q *1000* ∅ ∅ ∅ ∅ ∅ *100.000* *1.000.000* Jh jh '
    ' R' r' G' g' G' g' G' g' Zh' zh' Z' z' K' k' K' k' K' k' K' k' N' n' Ng ng P' p' Kh kh S' s'
    T' t' U u U' u' Kh' kh' Tts tts Ch' ch' Ch' ch' H h Ch ch Ch' ch' ` Zh zh K' k' Lh lh N' n' Nh
    nh Ch ch Mh mh ` A a A a Ae ae Ie ie @ @ @ @ Zh zh Z z Dz dz I i I i O o O o O o E e U u U u U
    u Ch ch Gh gh Y y Xh xh H h H h D d Dj dj Zj zj Dz dz Lj lj Nj nj Sj sj Tj tj A a L l Lkh lkh
    Rkh rkh Ye ye Q q W w K k L l N n P p N n Dzzh dzzh Nch nch L l"]

/-- Armenian, with its ligatures. -/
def armenian : List Block := [
  .ofText 0x531 "A B G D E Z E E T` Zh I L Kh Ts K H Dz Gh Ch M Y N Sh O Ch` P J Rh S V T R Ts` W
    P` K` O F □ □ < ' / ! , ? . y a b g d e z e e t` zh i l kh ts k h dz gh ch m y n sh o ch` p j
    rh s v t r ts` w p` k` o f ew y : -",
  .ofText 0xFB13 "mn me mi vn mkh"]

/-- Hebrew, with its composed forms. -/
def hebrew : List Block := [
  .ofText 0x5B0 "@ e a o i e e a a o o u ' - - - | ∅ ∅ : ∅ ∅ ∅ o",
  .ofText 0x5D0 "' b g d h v z kh t y k k l m m n n s ` p p ts ts q r sh t □ □ □ □ yyy V oy i '
    \"",
  .ofText 0xFB1D "yi □ ia ` ' d h k l m r t + sh sh sh' sh' a a ' b' g' d' h' v' z' □ t' y' k' k'
    l' □ m' □ n' s' □ p' p' □ ts' q' r' sh' t' vo b- k- p- l"]

/-- Arabic, with the forms that its letters take in words. -/
def arabic : List Block := [
  .ofText 0x60C ",",
  .ofText 0x61B "; □ □ □ ? y ∅ a ' w' ∅ y' ∅ b @ t th j H kh d dh r z s sh S D T Z ` G ∅ ∅ ∅ ∅ ∅ ∅
    f q k l m n h w ~ y an un in a u i W ∅ ∅ ' '",
  .ofText 0x660 "0 1 2 3 4 5 6 7 8 9 % . , * b q ∅ ' ' ' ∅ ' 'w 'u 'y tt tth b t T p th bh 'h H ny
    dy H ch cch dd D D Dt dh ddh d D D rr R R R R R R j R S S S S S T GH F F F v f ph Q Q kh k K K
    ng K g G N G G G L L L L N N N N N h Ch hy h H @ W oe oe u yu yu W v y Y Y W ∅ ∅ y y' . ae",
  .ofText 0x6DD "@ #",
  .ofText 0x6E9 "^ ∅ ∅ ∅ ∅ d r 0 1 2 3 4 5 6 7 8 9 Sh D Gh & +m h",
  .ofText 0xFB50 "' ' b b b b p p p p bh bh bh bh tth tth tth tth th th th th tt tt tt tt v v v v
    ph ph ph ph dy dy dy dy ny ny ny ny ch ch ch ch cch cch cch cch ddh ddh dh dh d d dd dd j j rr
    rr kh kh kh kh g g g g G G G G N N N N N N N N N N ae' ae' h h h h h h h h y y y' y'",
  .ofText 0xFBD3 "ng ng ng ng u u oe oe yu yu u v v oe oe yu yu ∅ ∅ ∅ ∅ ~ ~ y' y' y'ae y'ae y'w
    y'w y'u y'u y'oe y'oe y'yu y'yu y' y' y' y'~ y'~ y'~ y y y y y'j y'H y'm y'~ y'y bj bH bkh bm
    b~ by tj tH tkh tm t~ ty thj thm th~ thy jH jm Hj Hm khj khH khm sj sH skh sm SH Sm Dj DH Dkh
    Dm TH Tm Zm `j `m Gj Gm fj fH fkh fm f~ fy qH qm q~ qy k kj kH kkh kl km k~ ky lj lH lkh lm l~
    ly mj mH mkh mm m~ my nj nH nkh nm n~ ny hj hm h~ hy yj yH ykh ym y~ yy dh r ~ ␣unW ␣inW ␣aW
    ␣uW ␣iW ␣W y'r y'z y'm y'n y'~ y'y br bz bm bn b~ by tr tz tm tn t~ ty thr thz thm thn th~ thy
    f~ fy q~ qy k kl km k~ ky lm l~ ly m mm nr nz nm nn n~ ny ~ yr yz ym yn y~ yy y'j y'H y'kh y'm
    y'h bj bH bkh bm bh tj tH tkh tm th thm jH jm Hj Hm khj khm sj sH skh sm SH Skh Sm Dj DH Dkh
    Dm TH Zm `j `m Gj Gm fj fH fkh fm qH qm kj kH kkh kl km lj lH lkh lm lh mj mH mkh mm nj nH nkh
    nm nh hj hm h yj yH ykh ym yh y'm y'h bm bh tm th thm thh sm sh shm shh kl km lm nm nh ym yh
    aW uW iW T~ Ty `~ `y G~ Gy s~ sy sh~ shy H~ Hy j~ jy kh~ khy S~ Sy D~ Dy shj shH shkh shm shr
    sr Sr Dr T~ Ty `~ `y G~ Gy s~ sy sh~ shy H~ Hy j~ jy kh~ khy S~ Sy D~ Dy shj shH shkh shm shr
    sr Sr Dr shj shH shkh shm sh shh Tm sj sH skh shj shH shkh Tm Zm an an",
  .ofText 0xFD50 "tjm tHj tHj tHm tkhm tmj tmH tmkh jmH jmH Hmy Hm~ sHj sjH sj~ smH smH smj smm
    smm SHH SHH Smm shHm shHm shjy shmkh shmkh shmm shmm DH~ Dkhm Dkhm TmH TmH Tmm Tmy `jm `mm `mm
    `m~ Gmm Gmy Gm~ fkhm fkhm qmH qmm lHm lHy lH~ ljj ljj lkhm lkhm lmH lmH mHj mHm mHy mjH mjm
    mkhj mkhm □ □ mjkh hmj hmm nHm nH~ njm njm nj~ nmy nm~ ymm ymm bkhy tjy tj~ tkhy tkh~ tmy tm~
    jmy jH~ jm~ skh~ SHy shHy DHy ljy lmy yHy yjy ymy mmy qmy nHy qmH lHm `my kmy njH mkhy ljm kmm
    ljm njH jHy Hjy mjy fmy bHy kmm `jm Smm skhy njy",
  .ofText 0xFDF0 "Sly qly llh kbr mHmd Sl`m rswl `lyh wslm Sl~ Sl~␣llh␣`lyh␣wslm jl␣jllh ryl",
  .ofText 0xFE70 "␣an an ␣un □ ␣in □ ␣a a ␣u u ␣i i ␣W W ␣ ∅ ∅ ∅ ∅ ' ' w' w' ' ' y' y' y' y' ∅ ∅ b
    b b b @ @ t t t t th th th th j j j j H H H H kh kh kh kh d d dh dh r r z z s s s s sh sh sh
    sh S S S S D D D D T T T T Z Z Z Z ` ` ` ` G G G G f f f f q q q q k k k k l l l l m m m m n n
    n n h h h h w w ~ ~ y y y y l l l' l' l' l' l l"]

/-- Syriac and Thaana. -/
def syriac : List Block := [
  .ofText 0x700 "// / , ! ! - , , ; ? ~ \x7b \x7d * □ ∅ ' ∅ b g g d d h w z H t t y yh k l m n s s
    ` p p S q r sh t b g d ∅ ∅ a a a A A A e e e E i i u u u o ∅ ` ' ∅ ∅ X Q @ @ | +",
  .ofText 0x780 "h sh n r b L k ' v m f dh th l g ny s d z t y p j ch tt hh kh th z sh s d t z `
    gh q w a aa i ee u oo e ey o oa ∅ n"]

/-- Georgian. -/
def georgian : List Block := [
  .ofText 0x10A0 "A B G D E V Z T` I K L M N O P Zh R S T U P` K` G' Q Sh Ch` C` Z` C Ch X J H E Y
    W Xh OE",
  .ofText 0x10D0 "a b g d e v z t` i k l m n o p zh r s t u p` k` g' q sh ch` c` z` c ch x j h e y
    w xh oe f □ □ □ □ ␣//␣",
  .ofText 0x1C90 "A B G D E V Z T` I K L M N O P Zh R S T U P` K` G' Q Sh Ch` C` Z` C Ch X J H E Y W
    Xh OE F"]

/-- Ogham and runes. -/
def runic : List Block := [
  .ofText 0x1680 "␣ b l f s n h d t c q m g ng z r a o u e i ch th ph p x p < > □ □ □ f v u yr y w
    th th a o ac ae o o o oe on r k c k g ng g g w h h h h n n n i e j g ae a eo p z s s s c z t t
    d b b p p e m m m l l ng ng d o ear ior qu qu qu s yr yr yr q x . : + 17 18 19"]

/-- Gothic and Deseret. -/
def historic : List Block := [
  .ofText 0x10330 "a b g d e q z h th i k l m n j u p q r s t w f x hw o z",
  .ofText 0x10400 "i e a ah o oo i e a ah o oo ay ow wu yee h pee bee tee dee chee jee kay gay ef
    vee eth thee es zee esh zhee er el em en eng oi ew i e a ah o oo i e a ah o oo ay ow wu yee h
    pee bee tee dee chee jee kay gay ef vee eth thee es zee esh zhee er el em en eng oi ew"]

/-- All of them. -/
def blocks : List Block :=
  greek ++ cyrillic ++ armenian ++ hebrew ++ arabic ++ syriac ++ georgian ++ runic ++ historic

end BlogTheme.Text.Transliteration.Alphabets
