import BlogTheme.Text.Transliteration.Block

/-!
# Scripts of southern Asia

Readings of letters that carry a vowel sign. The vowel that a letter has without
such a sign is not read.
-/

namespace BlogTheme.Text.Transliteration.Abugidas

/-- Devanagari. -/
def devanagari : List Block := [
  .ofText 0x900 "m N N H a a aa i ii u uu R L eN e e ai oN o o au k kh g gh ng c ch j jh ny tt tth
    dd ddh nn t th d dh n nnn p ph b bh m y r rr l l lll v sh ss s h □ □ ' ' aa i ii u uu R RR eN e
    e ai oN o o au ∅ □ □ AUM ' ' ` ' + + + q khh ghh z dddh rh f yy RR LL L LL ␣/␣ ␣//␣ 0 1 2 3 4 5
    6 7 8 9 . □ a o o au u u d z y g j □ d b"]

/-- Bengali. -/
def bengali : List Block := [
  .ofText 0x980 "N N N H □ a aa i ii u uu R L □ □ e ai □ □ o au k kh g gh ng c ch j jh ny tt tth
    dd ddh nn t th d dh n □ p ph b bh m y r □ l □ □ □ sh ss s h □ □ ' ' aa i ii u uu R RR □ □ e ai
    □ □ o au ∅ t",
  .ofText 0x9D7 "+ □ □ □ □ rr rh □ yy RR LL L LL □ □ 0 1 2 3 4 5 6 7 8 9 r' r` Rs Rs 1/ 2/ 3/ 4/
    ␣1␣-␣1/ /16"]

/-- Gurmukhi. -/
def gurmukhi : List Block := [
  .ofText 0xA01 "m N H □ a aa i ii u uu □ □ □ □ ee ai □ □ oo au k kh g gh ng c ch j jh ny tt tth dd
    ddh nn t th d dh n □ p ph b bb m y r □ l ll □ v sh □ s h □ □ ' □ aa i ii u uu □ □ □ □ ee ai □ □
    oo au ∅",
  .ofText 0xA59 "khh ghh z rr □ f",
  .ofText 0xA66 "0 1 2 3 4 5 6 7 8 9 N H ∅ ∅ G.E.O. y"]

/-- Gujarati. -/
def gujarati : List Block := [
  .ofText 0xA81 "N N H □ a aa i ii u uu R L eN □ e ai oN □ o au k kh g gh ng c ch j jh ny tt tth dd
    ddh nn t th d dh n □ p ph b bh m ya r □ l ll □ v sh ss s h □ □ ' ' aa i ii u uu R RR eN □ e ai
    oN □ o au ∅ □ □ AUM",
  .ofText 0xAE0 "RR LL L LL □ □ 0 1 2 3 4 5 6 7 8 9 . r"]

/-- Oriya. -/
def oriya : List Block := [
  .ofText 0xB01 "N N H □ a aa i ii u uu R L □ □ e ai □ □ o au k kh g gh ng c ch j jh ny tt tth dd
    ddh nn t th d dh n □ p ph b bh m y r □ l ll □ v sh ss s h □ □ ' ' aa i ii u uu R RR □ □ e ai □
    □ o au ∅",
  .ofText 0xB55 "+ + + □ □ □ □ rr rh □ yy RR LL L LL □ □ 0 1 2 3 4 5 6 7 8 9 ∅"]

/-- Tamil. -/
def tamil : List Block := [
  .ofText 0xB82 "N H □ a aa i ii u uu □ □ □ e ee ai □ o oo au k □ □ □ ng c □ j □ ny tt □ □ □ nn t □
    □ □ n nnn p □ □ □ m y r rr l ll lll v s ss s h □ □ □ □ aa i ii u uu □ □ □ e ee ai □ o oo au ∅ □
    □ om",
  .ofText 0xBD7 "+",
  .ofText 0xBE6 "0 1 2 3 4 5 6 7 8 9 +10+ +100+ +1000+ n m v p v m r n"]

/-- Telugu. -/
def telugu : List Block := [
  .ofText 0xC00 "m N N H □ a aa i ii u uu R L □ e ee ai □ o oo au k kh g gh ng c ch j jh ny tt tth
    dd ddh nn t th d dh n □ p ph b bh m y r rr l ll l v sh ss s h □ □ ' ' aa i ii u uu R RR □ e ee
    ai □ o oo au ∅",
  .ofText 0xC55 "+ + □ ts dz r",
  .ofText 0xC60 "RR LL L LL □ □ 0 1 2 3 4 5 6 7 8 9",
  .ofText 0xC78 "0 1 2 3 1 2 3"]

/-- Kannada. -/
def kannada : List Block := [
  .ofText 0xC80 "m m N H □ a aa i ii u uu R L □ e ee ai □ o oo au k kh g gh ng c ch j jh ny tt tth
    dd ddh nn t th d dh n □ p ph b bh m y r rr l ll □ v sh ss s h □ □ ' ' aa i ii u uu R RR □ e ee
    ai □ o oo au ∅",
  .ofText 0xCD5 "+ +",
  .ofText 0xCE0 "RR LL L LL □ □ 0 1 2 3 4 5 6 7 8 9"]

/-- Malayalam. -/
def malayalam : List Block := [
  .ofText 0xD00 "m m N H □ a aa i ii u uu R L □ e ee ai □ o oo au k kh g gh ng c ch j jh ny tt tth
    dd ddh nn t th d dh n n p ph b bh m y r rr l ll lll v sh ss s h t □ ' ' aa i ii u uu R RR □ e
    ee ai □ o oo au ∅ r",
  .ofText 0xD55 "+ + +",
  .ofText 0xD60 "RR LL L LL □ □ 0 1 2 3 4 5 6 7 8 9",
  .ofText 0xD7A "n n r l l k"]

/-- Sinhala. -/
def sinhala : List Block := [
  .ofText 0xD82 "N H □ a aa ae aae i ii u uu R RR L LL e ee ai o oo au □ □ □ k kh g gh ng nng c ch
    j jh ny jny nyj tt tth dd ddh nn nndd t th d dh n □ nd p ph b bh m mb y r □ l □ □ v sh ss s h
    ll f □ □ □ ∅ □ □ □ □ aa ae aae i ii u □ uu □ R e ee ai o oo au L",
  .ofText 0xDF2 "RR LL ␣.␣"]

/-- Thai. -/
def thai : List Block := [
  .ofText 0xE01 "k kh kh kh kh kh ng cch ch ch ch ch y d t th th th n d t th th th n b p ph f ph f
    ph m y r R l L w s s s h l ` h ~ a a aa am i ii ue uue u uu ' □ □ □ □ Bh. e ae o ai ai ao + ∅
    ∅ ∅ ∅ ∅ ∅ M ∅ ␣*␣ 0 1 2 3 4 5 6 7 8 9 ␣//␣ ␣///␣"]

/-- Lao. -/
def lao : List Block := [
  .ofText 0xE81 "k kh □ kh □ □ ng ch □ s □ □ ny",
  .ofText 0xE94 "d h th th □ n b p ph f ph f □ m y r □ l □ w □ □ s h □ ` ∅ ~ a ∅ aa am i ii y yy u
    uu □ o l ny □ □ e ei o ay ai □ + □ ∅ ∅ ∅ ∅ ∅ M □ □ 0 1 2 3 4 5 6 7 8 9 □ □ hn hm"]

/-- Tibetan. -/
def tibetan : List Block := [
  .ofText 0xF00 "AUM",
  .ofText 0xF0B "- ␣ /␣ //␣",
  .ofText 0xF20 "0 1 2 3 4 5 6 7 8 9",
  .ofText 0xF40 "k kh g gh ng c ch j □ ny tt tth dd ddh nn t th d dh n p ph b bh m ts tsh dz dzh w
    zh z ' y r l sh ssh s h a kss r",
  .ofText 0xF71 "aa i ii u uu R RR L LL e ee o oo M H i ii ∅ ∅ ∅ ∅",
  .ofText 0xF90 "k kh g gh ng c ch j □ ny tt tth dd ddh nn t th d dh n p ph b bh m ts tsh dz dzh w
    zh z ' y r l sh ss s h a kss w y r"]

/-- Burmese. -/
def myanmar : List Block := [
  .ofText 0x1000 "k kh g gh ng c ch j jh ny nny tt tth dd ddh nn tt th d dh n p ph b bh m y r l w
    s h ll a □ i ii u uu e □ o au □ aa i ii u uu e ai □ □ □ N ' : ∅ □ y r w h s 0 1 2 3 4 5 6 7 8
    9 ␣/␣ ␣//␣ n* r* l* e* sh ss R RR L LL R RR L LL"]

/-- Khmer. -/
def khmer : List Block := [
  .ofText 0x1780 "k kh g gh ng c ch j jh ny t tth d ddh nn t th d dh n p ph b bh m y r l v sh ss s
    h l q a aa i ii u uk uu uuv ry ryy ly lyy e ai oo oo au a aa aa i ii y yy u uu ua oe ya ie e
    ae ai oo au M H a` ∅ ∅ ∅ r ∅ ! ∅ ∅ ∅ ∅ ∅ . ␣//␣ : + ++ ␣*␣ ␣///␣ KR ' □ □ □ 0 1 2 3 4 5 6 7 8
    9"]

/-- Mongolian. -/
def mongolian : List Block := [
  .ofText 0x1810 "0 1 2 3 4 5 6 7 8 9",
  .ofText 0x1820 "a e i o u O U ee n ng b p q g m l s sh t d ch j y r w f k kha ts z h zr lh zh ch"]

/-- All of them. -/
def blocks : List Block :=
  devanagari ++ bengali ++ gurmukhi ++ gujarati ++ oriya ++ tamil ++ telugu ++ kannada ++
    malayalam ++ sinhala ++ thai ++ lao ++ tibetan ++ myanmar ++ khmer ++ mongolian

end BlogTheme.Text.Transliteration.Abugidas
