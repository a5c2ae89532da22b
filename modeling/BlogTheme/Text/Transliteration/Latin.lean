import BlogTheme.Text.Transliteration.Block

/-!
# Latin letters

Readings of Latin letters with marks, of phonetic letters, of ligatures, and of
the letters and signs that have the width of an ideograph.
-/

namespace BlogTheme.Text.Transliteration.Latin

/-- Letters and signs of U+00A0 to U+024F. -/
def supplement : List Block := [
  .ofText 0xA0 "␣ ! C/ PS $? Y= | SS \" (c) a << ! ∅ (r) - deg +- 2 3 ' u P * , 1 o >> 1/4 1/2 3/4
    ? A A A A A A AE C E E E E I I I I D N O O O O O x O U U U U Y Th ss a a a a a a ae c e e e e i
    i i i d n o o o o o / o u u u u y th y A a A a A a C c C c C c C c D d D d E e E e E e E e E e
    G g G g G g G g H h H h I i I i I i I i I i IJ ij J j K k k L l L l L l L l L l N n N n N n 'n
    NG ng O o O o O o OE oe R r R r R r S s S s S s S s T t T t T t U u U u U u U u U u U u W w Y y
    Y Z z Z z Z z s b B B b 6 6 O C c D D D d d 3 @ E F f G G hv I I K k l l W N n O O o OI oi P p
    YR 2 2 SH sh t T t T U u Y V Y y Z z ZH ZH zh zh 2 5 5 ts w | || |= ! DZ Dz dz LJ Lj lj NJ Nj
    nj A a I i O o U u U u U u U u U u @ A a A a AE ae G g G g K k O o O o ZH zh j DZ Dz dz G g HV
    W N n A a AE ae O o A a A a E e E e I i I i O o O o R r R r U u U u S s T t Y y H h N d OU ou Z
    z A a E e O o O o O o O o Y y l n t j db qp A C c L T s z ? ? B U ^ E e J j Q q R r Y y"]

/-- Phonetic letters and modifier letters. -/
def phonetic : List Block := [
  .ofText 0x250 "a a a b o c d d e @ @ e e e e j g g g g u Y h h i i I l l l lZ W W m n n n o OE O
    F r r r r r r r R R s S j S S t t u U v ^ w y Y z z Z Z ? ? ? C @ B E G H j k L q ? ? dz dZ dz
    ts tS tC fN ls lz WW ]] h h h h j r r r r w y ' \" ` ' ` ` ' ? ? < > ^ V ^ V ' - / \\ , _ \\ /
    : . ` ' ^ V + - V . @ , ~ \" R X G l s x ?",
  .ofText 0x2EC "V = \" ? ? ? ? ? ? ? ? ? ? ? ? ? ? ? ? ?",
  .ofText 0x1D00 "a ae ae b c d d e e i j k l m n o o o o o oe ou o o p r r t u u u w v w z zh",
  .ofText 0x1D2C "A AE B b D E 3 G H I J K L M N n O OU P R T U W a a a ae b d e @ e e g i k m ng
    o o o o p t u u m v □ b □ d □ x i r u v □ □ □ □ □ ue b d f m n p r r s t z g □ g th i i p u u
    b d f g k l m n p r s sh v x z a a d e e e @ i o sh u zh a c c d e f j g h i i i i j l l l m m
    n n n o ph s sh t □ u u v v z z z zh",
  .ofText 0xAB30 "a □ e e e f g l l l m n ng o o o oe oe oe □ □ r r □ □ r □ r r sh u □ □ □ u x x x
    x x x x y □ h l l u □ □ oe uo a"]

/-- Letters written above another letter. -/
def above : List Block := [
  .ofText 0x363 "a e i o u c d h m r t v x",
  .ofText 0x1DD3 "a ae ao av c c d d g G k l L M n N R r s s z"]

/-- Letters with marks, of Vietnamese and other languages. -/
def additional : List Block := [
  .ofText 0x1E00 "A a B b B b B b C c D d D d D d D d D d E e E e E e E e E e F f G g H h H h H h
    H h H h I i I i K k K k K k L l L l L l L l M m M m M m N n N n N n N n O o O o O o O o P p P
    p R r R r R r R r S s S s S s S s S s T t T t T t T t U u U u U u U u U u V v V v W w W w W w
    W w W w X x X x Y y Z z Z z Z z h t w y a s s s SS d A a A a A a A a A a A a A a A a A a A a A
    a A a E e E e E e E e E e E e E e E e I i I i O o O o O o O o O o O o O o O o O o O o O o O o
    U u U u U u U u U u U u U u Y y Y y Y y Y y LL ll V v Y y"]

/-- Letters of old spellings and of further languages. -/
def extended : List Block := [
  .ofText 0x2C60 "L l L P R a t H h K k Z z A M A A v W w v H h o e r o e j V S Z",
  .ofText 0xA722 "' ' ' ' H h TZ tz 3 3 4 4 4 4 f s AA aa AO ao AU au AV av AV av AY ay C c K k K
    k K k L l L l O o O o OO oo P p P p P p Q q Q q □ □ □ □ V v VY vy □ □ TH th TH th V v ET et IS
    is CON con us □ □ □ □ rum rum tum um D d F f G G g L l R r S s T t □ □ □ □ □ H l □ N n C c c h
    B b F f",
  .ofText 0xA7A0 "G g K k N n R r S s H E G L i q K T J X B b O o U u",
  .ofText 0xA7C4 "C S Z D d S s □ □ □ □ □ G g",
  .ofText 0xA7F2 "C F Q H h i H oe m f p m □ m"]

/-- Ligatures, and letters and signs as wide as an ideograph. -/
def wide : List Block := [
  .ofText 0xFB00 "ff fi fl ffi ffl st st",
  .ofText 0xFF01 "! \" # $ % & ' ( ) * + , - . / 0 1 2 3 4 5 6 7 8 9 : ; < = > ? @ A B C D E F G H
    I J K L M N O P Q R S T U V W X Y Z [ \\ ] ^ _ ` a b c d e f g h i j k l m n o p q r s t u v w
    x y z \x7b | \x7d ~ + +"]

/-- All of them. -/
def blocks : List Block :=
  supplement ++ phonetic ++ above ++ additional ++ extended ++ wide

end BlogTheme.Text.Transliteration.Latin
