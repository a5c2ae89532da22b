import BlogTheme.Text.Transliteration.Block

/-!
# Punctuation and signs

Readings of punctuation, of numbers in letters or circles, of signs for currencies
and measures, and of letters in the styles of mathematics.
-/

namespace BlogTheme.Text.Transliteration.Signs

/-- General punctuation. -/
def punctuation : List Block := [
  .ofText 0x2000 "␣ ␣ ␣ ␣ ␣ ␣ ␣ ␣ ␣ ␣ ␣ ␣ ∅ ∅ ∅ ∅ - - - - - - || _ ' ' , ' \" \" ,, \" + ++ * *> .
    .. ... . ␣ ␣ ∅ ∅ ∅ ∅ ∅ ␣ %0 %00 ' '' ''' ` `` ``` ^ < > * !! !? - _ - ^ *** - / -[ ]- ?? ?! !?
    7 PP (] [) * ; - ** % ~ - * ... '''' : : : : : : | ␣",
  .ofText 0x2E00 "< > < > < > < > < > < > < > < >"]

/-- Raised and lowered digits and letters, fractions and Roman numbers. -/
def numbers : List Block := [
  .ofText 0x2070 "0 i □ □ 4 5 6 7 8 9 + - = ( ) n 0 1 2 3 4 5 6 7 8 9 + - = ( ) □ a e o x @ h k l
    m n p s t",
  .ofText 0x2150 "␣1/7␣ ␣1/9␣ ␣1/10␣ ␣1/3␣ ␣2/3␣ ␣1/5␣ ␣2/5␣ ␣3/5␣ ␣4/5␣ ␣1/6␣ ␣5/6␣ ␣1/8␣ ␣3/8␣
    ␣5/8␣ ␣7/8␣ ␣1/ I II III IV V VI VII VIII IX X XI XII L C D M i ii iii iv v vi vii viii ix x xi
    xii l c d m (D D) ((|)) ) c ␣ □ □ □ ␣0/3␣"]

/-- Currencies. -/
def currencies : List Block := [
  .ofText 0x20A0 "ECU CL Cr FF L mil N Pts Rs W NS D EUR K T Dr Pf P G A hrn C| L Sm T Rs TL M m
    Rb l BTC"]

/-- Signs made of letters. -/
def letterlike : List Block := [
  .ofText 0x2100 "a/c a/s C C CL c/o c/u E DZ F g H H H h h I I L l lb N No (p) P P Q R R R Rx R
    SM TEL TM V Z o Ohm M Z i K A B C e e E F F M o a b g d information␣source Q (fax) pi g G Pi S
    G Y L Y D d e i j P & per A/S f aleph"]

/-- Arrows and operators. -/
def mathematics : List Block := [
  .ofText 0x2190 "<- ^ -> v <-> ^v",
  .ofText 0x2200 "V □ d E □ 0 D V E",
  .ofText 0x220F "P □ S - □ □ / \\ * o □ sqrt 3sqrt 4sqrt ~ inf",
  .ofText 0x2228 "v n U S",
  .ofText 0x2260 "!= □ □ □ <= >="]

/-- Numbers and letters in circles and brackets. -/
def enclosed : List Block := [
  .ofText 0x2460 "1 2 3 4 5 6 7 8 9 10 11 12 13 14 15 16 17 18 19 20 (1) (2) (3) (4) (5) (6) (7)
    (8) (9) (10) (11) (12) (13) (14) (15) (16) (17) (18) (19) (20) 1. 2. 3. 4. 5. 6. 7. 8. 9. 10.
    11. 12. 13. 14. 15. 16. 17. 18. 19. 20. (a) (b) (c) (d) (e) (f) (g) (h) (i) (j) (k) (l) (m)
    (n) (o) (p) (q) (r) (s) (t) (u) (v) (w) (x) (y) (z) A B C D E F G H I J K L M N O P Q R S T U
    V W X Y Z a b c d e f g h i j k l m n o p q r s t u v w x y z 0 11 12 13 14 15 16 17 18 19 20
    1 2 3 4 5 6 7 8 9 10 0",
  .ofText 0x2776 "1 2 3 4 5 6 7 8 9 10 1 2 3 4 5 6 7 8 9 10 1 2 3 4 5 6 7 8 9 10",
  .ofText 0x1F100 "0. 0, 1, 2, 3, 4, 5, 6, 7, 8, 9, □ □ □ □ □ (A) (B) (C) (D) (E) (F) (G) (H) (I)
    (J) (K) (L) (M) (N) (O) (P) (Q) (R) (S) (T) (U) (V) (W) (X) (Y) (Z) [S]␣ C R CD WZ □ A B C D E
    F G H I J K L M N O P Q R S T U V W X Y Z HV MV SD SS PPV WC A B C D E F G H I J K L M N O P Q
    R S T U V W X Y Z MC MD MR □ □ □ A B C D E F G H I J K L M N O P Q R S T U V W X Y Z",
  .ofText 0x1F1E6 "A B C D E F G H I J K L M N O P Q R S T U V W X Y Z"]

/-- Stars, notes and ticks. -/
def ornaments : List Block := [
  .ofText 0x2600 "* □ □ □ □ * *",
  .ofText 0x266D "b",
  .ofText 0x2713 "OK □ □ □ X X",
  .ofText 0x2764 "heart"]

/-- Braille of six dots. -/
def braille : List Block := [
  .ofText 0x2800 "␣ a 1 b ' k 2 l @ c i f / m s p \" e 3 h 9 o 6 r ^ d j g > n t q , * 5 < - u 8 v
    . % [ $ + x ! & ; : 4 \\ 0 z 7 ( _ ? w ] # y ) ="]

/-- Punctuation between ideographs. -/
def ideographic : List Block := [
  .ofText 0x3000 "␣ ,␣ .␣ \" [JIS] \" / 0 < >␣ << >>␣ [ ]␣ \x7b \x7d␣ [( )]␣ @ X␣ [ ]␣ [[ ]]␣ ((
    ))␣ [[ ]]␣ ~␣ `` '' ,, @ 1 2 3 4 5 6 7 8 9 ∅ ∅ ∅ ∅ ∅ ∅ ~ + + + + ∅ @ ␣//␣ +10+ +20+ +30+",
  .ofText 0xFE10 ", ,␣ .␣ : ; ! ? [[ ]]␣ ...",
  .ofText 0xFE30 ".. - - _ _ ( ) \x7b \x7d [ ]␣ [( )]␣ << >>␣ < >␣ [ ]␣ \x7b \x7d␣ □ □ [ ] ␣ ␣ ␣ ␣
    _ _ _ , ,␣ . □ ; : ? ! - ( ) \x7b \x7d [ ]␣ # & * + - < > = □ \\ $ % @",
  .ofText 0xFF5F "+ +",
  .ofText 0xFFE0 "C/ PS ! ␣ | Y= W □ - <- ^ -> v # #"]

/-- Words and measures in one sign. -/
def squared : List Block := [
  .ofText 0x3200 "(g) (n) (d) (r) (m) (b) (s) () (j) (c) (k) (t) (p) (h) (ga) (na) (da) (ra) (ma)
    (ba) (sa) (a) (ja) (ca) (ka) (ta) (pa) (ha) (ju) (ojeon) (ohu)",
  .ofText 0x3250 "PTE 21 22 23 24 25 26 27 28 29 30 31 32 33 34 35 g n d r m b s ∅ j c k t p h ga
    na da ra ma ba sa a ja ca ka ta pa ha camgo juyi u",
  .ofText 0x3297 "congratulations □ secret",
  .ofText 0x32B1 "36 37 38 39 40 41 42 43 44 45 46 47 48 49 50 1M 2M 3M 4M 5M 6M 7M 8M 9M 10M 11M
    12M Hg erg eV LTD a i u e o ka ki ku ke ko sa si su se so ta ti tu te to na ni nu ne no ha hi
    hu he ho ma mi mu me mo ya yu yo ra ri ru re ro wa wi we wo □ apartment alpha ampere are inning
    inch won escudo acre ounce ohm kai-ri carat calorie gallon gamma giga guinea curie guilder kilo
    kilogram kilometer kilowatt gram gram␣ton cruzeiro krone case koruna co-op cycle centime
    shilling centi cent dozen desi dollar ton nano knot heights percent parts barrel piaster picul
    pico building farad feet bushel franc hectare peso pfennig hertz pence page beta point volt hon
    pound hall horn micro mile mach mark mansion micron milli millibar mega megaton meter yard yard
    yuan liter lira rupee ruble rem roentgen watt 0h 1h 2h 3h 4h 5h 6h 7h 8h 9h 10h 11h 12h 13h 14h
    15h 16h 17h 18h 19h 20h 21h 22h 23h 24h hPa da AU bar oV pc dm dm2 dm3 IU □ □ □ □ □ pA nA mA mA
    kA KB MB GB cal kcal pF nF mF mg mg kg Hz kHz MHz GHz THz ml ml dl kl fm nm mm mm cm km mm2 cm2
    m2 km2 mm3 cm3 m3 km3 m/s m/s2 Pa kPa MPa GPa rad rad/s rad/s2 ps ns ms ms pV nV mV mV kV MV pW
    nW mW mW kW MW kO MO a.m. Bq cc cd C/kg Co. dB Gy ha HP in KK KM kt lm ln log lx mb mil mol PH
    p.m. PPM PR sr Sv Wb V/m A/m 1d 2d 3d 4d 5d 6d 7d 8d 9d 10d 11d 12d 13d 14d 15d 16d 17d 18d 19d
    20d 21d 22d 23d 24d 25d 26d 27d 28d 29d 30d 31d gal"]

/-- Letters and digits in the styles of mathematics. -/
def styled : List Block := [
  .ofText 0x1D400 "A B C D E F G H I J K L M N O P Q R S T U V W X Y Z a b c d e f g h i j k l m n
    o p q r s t u v w x y z A B C D E F G H I J K L M N O P Q R S T U V W X Y Z a b c d e f g □ i
    j k l m n o p q r s t u v w x y z A B C D E F G H I J K L M N O P Q R S T U V W X Y Z a b c d
    e f g h i j k l m n o p q r s t u v w x y z A □ C D □ □ G □ □ J K □ □ N O P Q □ S T U V W X Y
    Z a b c d □ f □ h i j k l m n □ p q r s t u v w x y z A B C D E F G H I J K L M N O P Q R S T
    U V W X Y Z a b c d e f g h i j k l m n o p q r s t u v w x y z A B □ D E F G □ □ J K L M N O
    P Q □ S T U V W X Y □ a b c d e f g h i j k l m n o p q r s t u v w x y z A B □ D E F G □ I J
    K L M □ O □ □ □ S T U V W X Y □ a b c d e f g h i j k l m n o p q r s t u v w x y z A B C D E
    F G H I J K L M N O P Q R S T U V W X Y Z a b c d e f g h i j k l m n o p q r s t u v w x y z
    A B C D E F G H I J K L M N O P Q R S T U V W X Y Z a b c d e f g h i j k l m n o p q r s t u
    v w x y z A B C D E F G H I J K L M N O P Q R S T U V W X Y Z a b c d e f g h i j k l m n o p
    q r s t u v w x y z A B C D E F G H I J K L M N O P Q R S T U V W X Y Z a b c d e f g h i j k
    l m n o p q r s t u v w x y z A B C D E F G H I J K L M N O P Q R S T U V W X Y Z a b c d e f
    g h i j k l m n o p q r s t u v w x y z A B C D E F G H I J K L M N O P Q R S T U V W X Y Z a
    b c d e f g h i j k l m n o p q r s t u v w x y z i j □ □ A B G D E Z E Th I K L M N Ks O P R
    Th S T U Ph Kh Ps O V a b g d e z e th i k l m n x o p r s s t u ph kh ps o d e th k ph r p A
    B G D E Z E Th I K L M N Ks O P R Th S T U Ph Kh Ps O V a b g d e z e th i k l m n x o p r s s
    t u ph kh ps o d e th k ph r p A B G D E Z E Th I K L M N Ks O P R Th S T U Ph Kh Ps O V a b g
    d e z e th i k l m n x o p r s s t u ph kh ps o d e th k ph r p A B G D E Z E Th I K L M N Ks
    O P R Th S T U Ph Kh Ps O V a b g d e z e th i k l m n x o p r s s t u ph kh ps o d e th k ph
    r p A B G D E Z E Th I K L M N Ks O P R Th S T U Ph Kh Ps O V a b g d e z e th i k l m n x o p
    r s s t u ph kh ps o d e th k ph r p W w □ □ 0 1 2 3 4 5 6 7 8 9 0 1 2 3 4 5 6 7 8 9 0 1 2 3 4
    5 6 7 8 9 0 1 2 3 4 5 6 7 8 9 0 1 2 3 4 5 6 7 8 9",
  .ofText 0x1FBF0 "0 1 2 3 4 5 6 7 8 9"]

/-- All of them. -/
def blocks : List Block :=
  punctuation ++ numbers ++ currencies ++ letterlike ++ mathematics ++ enclosed ++ ornaments ++
    braille ++ ideographic ++ squared ++ styled

end BlogTheme.Text.Transliteration.Signs
