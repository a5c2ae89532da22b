/-!
# Pictographs

The names of pictographs. A smiley, an arrow or a sign of arithmetic has for its name
the ASCII signs that draw it.
-/

namespace BlogTheme.Text.Transliteration.Pictographs

/-- Signs that are also pictographs. -/
def signs : List (Nat × String) :=
  [(0x231A, "watch"), (0x231B, "hourglass"), (0x2328, "keyboard"), (0x2388, "helm symbol"),
   (0x23CF, "eject"), (0x23E9, "fast forward"), (0x23EA, "rewind"), (0x23EB, "arrow double up"),
   (0x23EC, "arrow double down"), (0x23ED, "track next"), (0x23EE, "track previous"),
   (0x23EF, "play pause"), (0x23F0, "alarm clock"), (0x23F1, "stopwatch"), (0x23F2, "timer"),
   (0x23F3, "hourglass flowing sand"), (0x23F8, "pause button"), (0x23F9, "stop button"),
   (0x23FA, "record button"), (0x2601, "cloud"), (0x2602, "umbrella"), (0x2603, "snowman"),
   (0x2604, "comet"), (0x260E, "telephone"), (0x2611, "ballot box with check"),
   (0x2614, "umbrella"), (0x2615, "coffee"), (0x2618, "shamrock"), (0x261D, "^"),
   (0x2620, "skull crossbones"), (0x2622, "radioactive"), (0x2623, "biohazard"),
   (0x2626, "orthodox cross"), (0x262A, "star and crescent"), (0x262E, "peace"),
   (0x262F, "yin yang"), (0x2638, "wheel of dharma"), (0x2639, ":("), (0x263A, ":)"),
   (0x2640, "female sign"), (0x2642, "male sign"), (0x2648, "aries"), (0x2649, "taurus"),
   (0x264A, "gemini"), (0x264B, "cancer"), (0x264C, "leo"), (0x264D, "virgo"), (0x264E, "libra"),
   (0x264F, "scorpius"), (0x2650, "sagittarius"), (0x2651, "capricorn"), (0x2652, "aquarius"),
   (0x2653, "pisces"), (0x265F, "chess pawn"), (0x2660, "spades"), (0x2663, "clubs"),
   (0x2665, "hearts"), (0x2666, "diamonds"), (0x2668, "hotsprings"), (0x267B, "recycle"),
   (0x267E, "infinity"), (0x267F, "wheelchair"), (0x2692, "hammer pick"), (0x2693, "anchor"),
   (0x2694, "crossed swords"), (0x2695, "medical symbol"), (0x2696, "scales"), (0x2697, "alembic"),
   (0x2699, "gear"), (0x269B, "atom"), (0x269C, "fleur de lis"), (0x26A0, "warning"),
   (0x26A1, "zap"), (0x26AA, "white circle"), (0x26AB, "black circle"), (0x26B0, "coffin"),
   (0x26B1, "urn"), (0x26BD, "soccer"), (0x26BE, "baseball"), (0x26C4, "snowman"),
   (0x26C5, "partly sunny"), (0x26C8, "thunder cloud rain"), (0x26CE, "ophiuchus"),
   (0x26CF, "pick"), (0x26D1, "helmet with cross"), (0x26D3, "chains"), (0x26D4, "no entry"),
   (0x26E9, "shinto shrine"), (0x26EA, "church"), (0x26F0, "mountain"), (0x26F1, "beach umbrella"),
   (0x26F2, "fountain"), (0x26F3, "golf"), (0x26F4, "ferry"), (0x26F5, "sailboat"),
   (0x26F7, "skier"), (0x26F8, "ice skate"), (0x26F9, "basketball player"), (0x26FA, "tent"),
   (0x26FD, "fuelpump"), (0x2702, "scissors"), (0x2705, "white check mark"), (0x2708, "airplane"),
   (0x2709, "envelope"), (0x270A, "fist"), (0x270B, "raised hand"), (0x270C, "v"),
   (0x270D, "writing hand"), (0x270F, "pencil"), (0x2712, "black nib"), (0x2714, "checkmark"),
   (0x2716, "x"), (0x271D, "cross"), (0x2721, "star of david"), (0x2728, "sparkles"), (0x2733, "*"),
   (0x2734, "*"), (0x2744, "*"), (0x2747, "*"), (0x274C, "x"),
   (0x274E, "negative squared cross mark"), (0x2753, "?"), (0x2754, "?"), (0x2755, "!"),
   (0x2757, "!"), (0x2763, "heart exclamation"), (0x2795, "+"), (0x2796, "-"), (0x2797, "/"),
   (0x27A1, "arrow right"), (0x27B0, "curly loop"), (0x27BF, "loop"), (0x2934, "arrow heading up"),
   (0x2935, "arrow heading down"), (0x2B05, "<-"), (0x2B06, "^"), (0x2B07, "v"),
   (0x2B1B, "black large square"), (0x2B1C, "white large square"), (0x2B50, "*"), (0x2B55, "o")]

/-- Weather, plants, food, sports, places and animals. -/
def things : List (Nat × String) :=
  [(0x1F004, "mahjong"), (0x1F0CF, "black joker"), (0x1F170, "a"), (0x1F171, "b"), (0x1F17E, "o2"),
   (0x1F17F, "parking"), (0x1F18E, "ab"), (0x1F191, "cl"), (0x1F192, "cool"), (0x1F193, "free"),
   (0x1F194, "id"), (0x1F195, "new"), (0x1F196, "ng"), (0x1F197, "ok"), (0x1F198, "sos"),
   (0x1F199, "up"), (0x1F19A, "vs"), (0x1F201, "koko"), (0x1F202, "sa"), (0x1F21A, "none"),
   (0x1F22F, "u6307"), (0x1F232, "u7981"), (0x1F233, "u7a7a"), (0x1F234, "u5408"),
   (0x1F235, "u6e80"), (0x1F236, "u6709"), (0x1F237, "u6708"), (0x1F238, "u7533"),
   (0x1F239, "u5272"), (0x1F23A, "u55b6"), (0x1F250, "ideograph advantage"), (0x1F251, "accept"),
   (0x1F300, "cyclone"), (0x1F301, "foggy"), (0x1F302, "closed umbrella"),
   (0x1F303, "night with stars"), (0x1F304, "sunrise over mountains"), (0x1F305, "sunrise"),
   (0x1F306, "city dusk"), (0x1F307, "city sunset"), (0x1F308, "rainbow"),
   (0x1F309, "bridge at night"), (0x1F30A, "ocean"), (0x1F30B, "volcano"), (0x1F30C, "milky way"),
   (0x1F30D, "earth africa"), (0x1F30E, "earth americas"), (0x1F30F, "earth asia"),
   (0x1F310, "globe with meridians"), (0x1F311, "new moon"), (0x1F312, "waxing crescent moon"),
   (0x1F313, "first quarter moon"), (0x1F314, "moon"), (0x1F315, "full moon"),
   (0x1F316, "waning gibbous moon"), (0x1F317, "last quarter moon"),
   (0x1F318, "waning crescent moon"), (0x1F319, "crescent moon"), (0x1F31A, "new moon with face"),
   (0x1F31B, "first quarter moon with face"), (0x1F31C, "last quarter moon with face"),
   (0x1F31D, "full moon with face"), (0x1F31E, "sun with face"), (0x1F31F, "*"), (0x1F320, "stars"),
   (0x1F321, "thermometer"), (0x1F324, "white sun small cloud"), (0x1F325, "white sun cloud"),
   (0x1F326, "white sun rain cloud"), (0x1F327, "cloud rain"), (0x1F328, "cloud snow"),
   (0x1F329, "cloud lightning"), (0x1F32A, "cloud tornado"), (0x1F32B, "fog"),
   (0x1F32C, "wind blowing face"), (0x1F32D, "hotdog"), (0x1F32E, "taco"), (0x1F32F, "burrito"),
   (0x1F330, "chestnut"), (0x1F331, "seedling"), (0x1F332, "evergreen tree"),
   (0x1F333, "deciduous tree"), (0x1F334, "palm tree"), (0x1F335, "cactus"),
   (0x1F336, "hot pepper"), (0x1F337, "tulip"), (0x1F338, "cherry blossom"), (0x1F339, "rose"),
   (0x1F33A, "hibiscus"), (0x1F33B, "sunflower"), (0x1F33C, "blossom"), (0x1F33D, "corn"),
   (0x1F33E, "ear of rice"), (0x1F33F, "herb"), (0x1F340, "four leaf clover"),
   (0x1F341, "maple leaf"), (0x1F342, "fallen leaf"), (0x1F343, "leaves"), (0x1F344, "mushroom"),
   (0x1F345, "tomato"), (0x1F346, "eggplant"), (0x1F347, "grapes"), (0x1F348, "melon"),
   (0x1F349, "watermelon"), (0x1F34A, "orange"), (0x1F34B, "lemon"), (0x1F34C, "banana"),
   (0x1F34D, "pineapple"), (0x1F34E, "apple"), (0x1F34F, "green apple"), (0x1F350, "pear"),
   (0x1F351, "peach"), (0x1F352, "cherries"), (0x1F353, "strawberry"), (0x1F354, "hamburger"),
   (0x1F355, "pizza"), (0x1F356, "meat on bone"), (0x1F357, "poultry leg"),
   (0x1F358, "rice cracker"), (0x1F359, "rice ball"), (0x1F35A, "rice"), (0x1F35B, "curry"),
   (0x1F35C, "ramen"), (0x1F35D, "spaghetti"), (0x1F35E, "bread"), (0x1F35F, "fries"),
   (0x1F360, "sweet potato"), (0x1F361, "dango"), (0x1F362, "oden"), (0x1F363, "sushi"),
   (0x1F364, "fried shrimp"), (0x1F365, "fish cake"), (0x1F366, "icecream"),
   (0x1F367, "shaved ice"), (0x1F368, "ice cream"), (0x1F369, "doughnut"), (0x1F36A, "cookie"),
   (0x1F36B, "chocolate bar"), (0x1F36C, "candy"), (0x1F36D, "lollipop"), (0x1F36E, "custard"),
   (0x1F36F, "honey pot"), (0x1F370, "cake"), (0x1F371, "bento"), (0x1F372, "stew"),
   (0x1F373, "fried egg"), (0x1F374, "fork and knife"), (0x1F375, "tea"), (0x1F376, "sake"),
   (0x1F377, "wine glass"), (0x1F378, "cocktail"), (0x1F379, "tropical drink"), (0x1F37A, "beer"),
   (0x1F37B, "beers"), (0x1F37C, "baby bottle"), (0x1F37D, "fork knife plate"),
   (0x1F37E, "champagne"), (0x1F37F, "popcorn"), (0x1F380, "ribbon"), (0x1F381, "gift"),
   (0x1F382, "birthday"), (0x1F383, "jack o lantern"), (0x1F384, "christmas tree"),
   (0x1F385, "santa"), (0x1F386, "fireworks"), (0x1F387, "sparkler"), (0x1F388, "balloon"),
   (0x1F389, "tada"), (0x1F38A, "confetti ball"), (0x1F38B, "tanabata tree"),
   (0x1F38C, "crossed flags"), (0x1F38D, "bamboo"), (0x1F38E, "dolls"), (0x1F38F, "flags"),
   (0x1F390, "wind chime"), (0x1F391, "rice scene"), (0x1F392, "school satchel"),
   (0x1F393, "mortar board"), (0x1F396, "military medal"), (0x1F397, "reminder ribbon"),
   (0x1F399, "microphone"), (0x1F39A, "level slider"), (0x1F39B, "control knobs"),
   (0x1F39E, "film frames"), (0x1F39F, "tickets"), (0x1F3A0, "carousel horse"),
   (0x1F3A1, "ferris wheel"), (0x1F3A2, "roller coaster"), (0x1F3A3, "fishing pole and fish"),
   (0x1F3A4, "microphone"), (0x1F3A5, "movie camera"), (0x1F3A6, "cinema"), (0x1F3A7, "headphones"),
   (0x1F3A8, "art"), (0x1F3A9, "tophat"), (0x1F3AA, "circus tent"), (0x1F3AB, "ticket"),
   (0x1F3AC, "clapper"), (0x1F3AD, "performing arts"), (0x1F3AE, "video game"), (0x1F3AF, "dart"),
   (0x1F3B0, "slot machine"), (0x1F3B1, "8ball"), (0x1F3B2, "game die"), (0x1F3B3, "bowling"),
   (0x1F3B4, "flower playing cards"), (0x1F3B5, "musical note"), (0x1F3B6, "notes"),
   (0x1F3B7, "saxophone"), (0x1F3B8, "guitar"), (0x1F3B9, "musical keyboard"), (0x1F3BA, "trumpet"),
   (0x1F3BB, "violin"), (0x1F3BC, "musical score"), (0x1F3BD, "running shirt with sash"),
   (0x1F3BE, "tennis"), (0x1F3BF, "ski"), (0x1F3C0, "basketball"), (0x1F3C1, "checkered flag"),
   (0x1F3C2, "snowboarder"), (0x1F3C3, "runner"), (0x1F3C4, "surfer"), (0x1F3C5, "medal"),
   (0x1F3C6, "trophy"), (0x1F3C7, "horse racing"), (0x1F3C8, "football"),
   (0x1F3C9, "rugby football"), (0x1F3CA, "swimmer"), (0x1F3CB, "lifter"), (0x1F3CC, "golfer"),
   (0x1F3CD, "motorcycle"), (0x1F3CE, "race car"), (0x1F3CF, "cricket"), (0x1F3D0, "volleyball"),
   (0x1F3D1, "field hockey"), (0x1F3D2, "hockey"), (0x1F3D3, "ping pong"),
   (0x1F3D4, "mountain snow"), (0x1F3D5, "camping"), (0x1F3D6, "beach"),
   (0x1F3D7, "construction site"), (0x1F3D8, "homes"), (0x1F3D9, "cityscape"),
   (0x1F3DA, "house abandoned"), (0x1F3DB, "classical building"), (0x1F3DC, "desert"),
   (0x1F3DD, "island"), (0x1F3DE, "park"), (0x1F3DF, "stadium"), (0x1F3E0, "house"),
   (0x1F3E1, "house with garden"), (0x1F3E2, "office"), (0x1F3E3, "post office"),
   (0x1F3E4, "european post office"), (0x1F3E5, "hospital"), (0x1F3E6, "bank"), (0x1F3E7, "atm"),
   (0x1F3E8, "hotel"), (0x1F3E9, "love hotel"), (0x1F3EA, "convenience store"), (0x1F3EB, "school"),
   (0x1F3EC, "department store"), (0x1F3ED, "factory"), (0x1F3EE, "lantern"),
   (0x1F3EF, "japanese castle"), (0x1F3F0, "european castle"), (0x1F3F3, "flag white"),
   (0x1F3F4, "black flag"), (0x1F3F5, "rosette"), (0x1F3F7, "label"), (0x1F3F8, "badminton"),
   (0x1F3F9, "bow and arrow"), (0x1F3FA, "amphora"), (0x1F400, "rat"), (0x1F401, "mouse"),
   (0x1F402, "ox"), (0x1F403, "water buffalo"), (0x1F404, "cow"), (0x1F405, "tiger"),
   (0x1F406, "leopard"), (0x1F407, "rabbit"), (0x1F408, "cat"), (0x1F409, "dragon"),
   (0x1F40A, "crocodile"), (0x1F40B, "whale"), (0x1F40C, "snail"), (0x1F40D, "snake"),
   (0x1F40E, "racehorse"), (0x1F40F, "ram"), (0x1F410, "goat"), (0x1F411, "sheep"),
   (0x1F412, "monkey"), (0x1F413, "rooster"), (0x1F414, "chicken"), (0x1F415, "dog"),
   (0x1F416, "pig"), (0x1F417, "boar"), (0x1F418, "elephant"), (0x1F419, "octopus"),
   (0x1F41A, "shell"), (0x1F41B, "bug"), (0x1F41C, "ant"), (0x1F41D, "bee"), (0x1F41E, "beetle"),
   (0x1F41F, "fish"), (0x1F420, "tropical fish"), (0x1F421, "blowfish"), (0x1F422, "turtle"),
   (0x1F423, "hatching chick"), (0x1F424, "baby chick"), (0x1F425, "hatched chick"),
   (0x1F426, "bird"), (0x1F427, "penguin"), (0x1F428, "koala"), (0x1F429, "poodle"),
   (0x1F42A, "dromedary camel"), (0x1F42B, "camel"), (0x1F42C, "dolphin"), (0x1F42D, "mouse"),
   (0x1F42E, "cow"), (0x1F42F, "tiger"), (0x1F430, "rabbit"), (0x1F431, "cat"),
   (0x1F432, "dragon face"), (0x1F433, "whale"), (0x1F434, "horse"), (0x1F435, "monkey face"),
   (0x1F436, "dog"), (0x1F437, "pig"), (0x1F438, "frog"), (0x1F439, "hamster"), (0x1F43A, "wolf"),
   (0x1F43B, "bear"), (0x1F43C, "panda face"), (0x1F43D, "pig nose"), (0x1F43E, "feet"),
   (0x1F43F, "chipmunk")]

/-- Bodies, people, objects and symbols. -/
def objects : List (Nat × String) :=
  [(0x1F440, "eyes"), (0x1F441, "eye"), (0x1F442, "ear"), (0x1F443, "nose"), (0x1F444, "lips"),
   (0x1F445, "tongue"), (0x1F446, "point up"), (0x1F447, "point down"), (0x1F448, "point left"),
   (0x1F449, "point right"), (0x1F44A, "punch"), (0x1F44B, "wave"), (0x1F44C, "ok hand"),
   (0x1F44D, "+1"), (0x1F44E, "-1"), (0x1F44F, "clap"), (0x1F450, "open hands"), (0x1F451, "crown"),
   (0x1F452, "womans hat"), (0x1F453, "eyeglasses"), (0x1F454, "necktie"), (0x1F455, "shirt"),
   (0x1F456, "jeans"), (0x1F457, "dress"), (0x1F458, "kimono"), (0x1F459, "bikini"),
   (0x1F45A, "womans clothes"), (0x1F45B, "purse"), (0x1F45C, "handbag"), (0x1F45D, "pouch"),
   (0x1F45E, "shoe"), (0x1F45F, "athletic shoe"), (0x1F460, "high heel"), (0x1F461, "sandal"),
   (0x1F462, "boot"), (0x1F463, "footprints"), (0x1F464, "bust in silhouette"),
   (0x1F465, "busts in silhouette"), (0x1F466, "boy"), (0x1F467, "girl"), (0x1F468, "man"),
   (0x1F469, "woman"), (0x1F46A, "family"), (0x1F46B, "couple"), (0x1F46C, "two men holding hands"),
   (0x1F46D, "two women holding hands"), (0x1F46E, "cop"), (0x1F46F, "dancers"),
   (0x1F470, "bride with veil"), (0x1F471, "person with blond hair"),
   (0x1F472, "man with gua pi mao"), (0x1F473, "man with turban"), (0x1F474, "older man"),
   (0x1F475, "older woman"), (0x1F476, "baby"), (0x1F477, "construction worker"),
   (0x1F478, "princess"), (0x1F479, "japanese ogre"), (0x1F47A, "japanese goblin"),
   (0x1F47B, "ghost"), (0x1F47C, "angel"), (0x1F47D, "alien"), (0x1F47E, "space invader"),
   (0x1F47F, "imp"), (0x1F480, "skull"), (0x1F481, "information desk person"), (0x1F482, "guard"),
   (0x1F483, "dancer"), (0x1F484, "lipstick"), (0x1F485, "nail care"), (0x1F486, "massage"),
   (0x1F487, "haircut"), (0x1F488, "barber"), (0x1F489, "syringe"), (0x1F48A, "pill"),
   (0x1F48B, "kiss"), (0x1F48C, "love letter"), (0x1F48D, "ring"), (0x1F48E, "gem"),
   (0x1F48F, "couplekiss"), (0x1F490, "bouquet"), (0x1F491, "couple with heart"),
   (0x1F492, "wedding"), (0x1F493, "heartbeat"), (0x1F494, "broken heart"), (0x1F495, "two hearts"),
   (0x1F496, "sparkling heart"), (0x1F497, "heartpulse"), (0x1F498, "cupid"),
   (0x1F499, "blue heart"), (0x1F49A, "green heart"), (0x1F49B, "yellow heart"),
   (0x1F49C, "purple heart"), (0x1F49D, "gift heart"), (0x1F49E, "revolving hearts"),
   (0x1F49F, "heart decoration"), (0x1F4A0, "diamond shape with a dot inside"), (0x1F4A1, "bulb"),
   (0x1F4A2, "anger"), (0x1F4A3, "bomb"), (0x1F4A4, "zzz"), (0x1F4A5, "boom"),
   (0x1F4A6, "sweat drops"), (0x1F4A7, "droplet"), (0x1F4A8, "dash"), (0x1F4A9, "poop"),
   (0x1F4AA, "muscle"), (0x1F4AB, "dizzy"), (0x1F4AC, "speech balloon"),
   (0x1F4AD, "thought balloon"), (0x1F4AE, "white flower"), (0x1F4AF, "100"), (0x1F4B0, "moneybag"),
   (0x1F4B1, "currency exchange"), (0x1F4B2, "heavy dollar sign"), (0x1F4B3, "credit card"),
   (0x1F4B4, "yen"), (0x1F4B5, "dollar"), (0x1F4B6, "euro"), (0x1F4B7, "pound"),
   (0x1F4B8, "money with wings"), (0x1F4B9, "chart"), (0x1F4BA, "seat"), (0x1F4BB, "computer"),
   (0x1F4BC, "briefcase"), (0x1F4BD, "minidisc"), (0x1F4BE, "floppy disk"), (0x1F4BF, "cd"),
   (0x1F4C0, "dvd"), (0x1F4C1, "file folder"), (0x1F4C2, "open file folder"),
   (0x1F4C3, "page with curl"), (0x1F4C4, "page facing up"), (0x1F4C5, "date"),
   (0x1F4C6, "tear-off calendar"), (0x1F4C7, "card index"), (0x1F4C8, "chart with upwards trend"),
   (0x1F4C9, "chart with downwards trend"), (0x1F4CA, "bar chart"), (0x1F4CB, "clipboard"),
   (0x1F4CC, "pushpin"), (0x1F4CD, "round pushpin"), (0x1F4CE, "paperclip"),
   (0x1F4CF, "straight ruler"), (0x1F4D0, "triangular ruler"), (0x1F4D1, "bookmark tabs"),
   (0x1F4D2, "ledger"), (0x1F4D3, "notebook"), (0x1F4D4, "notebook with decorative cover"),
   (0x1F4D5, "closed book"), (0x1F4D6, "open book"), (0x1F4D7, "green book"),
   (0x1F4D8, "blue book"), (0x1F4D9, "orange book"), (0x1F4DA, "books"), (0x1F4DB, "name badge"),
   (0x1F4DC, "scroll"), (0x1F4DD, "memo"), (0x1F4DE, "telephone receiver"), (0x1F4DF, "pager"),
   (0x1F4E0, "fax"), (0x1F4E1, "satellite antenna"), (0x1F4E2, "loudspeaker"), (0x1F4E3, "mega"),
   (0x1F4E4, "outbox tray"), (0x1F4E5, "inbox tray"), (0x1F4E6, "package"), (0x1F4E7, "e-mail"),
   (0x1F4E8, "incoming envelope"), (0x1F4E9, "envelope with arrow"), (0x1F4EA, "mailbox closed"),
   (0x1F4EB, "mailbox"), (0x1F4EC, "mailbox with mail"), (0x1F4ED, "mailbox with no mail"),
   (0x1F4EE, "postbox"), (0x1F4EF, "postal horn"), (0x1F4F0, "newspaper"), (0x1F4F1, "iphone"),
   (0x1F4F2, "calling"), (0x1F4F3, "vibration mode"), (0x1F4F4, "mobile phone off"),
   (0x1F4F5, "no mobile phones"), (0x1F4F6, "signal strength"), (0x1F4F7, "camera"),
   (0x1F4F8, "camera with flash"), (0x1F4F9, "video camera"), (0x1F4FA, "tv"), (0x1F4FB, "radio"),
   (0x1F4FC, "vhs"), (0x1F4FD, "film projector"), (0x1F4FF, "prayer beads"),
   (0x1F500, "twisted rightwards arrows"), (0x1F501, "repeat"), (0x1F502, "repeat one"),
   (0x1F503, "arrows clockwise"), (0x1F504, "arrows counterclockwise"), (0x1F505, "low brightness"),
   (0x1F506, "high brightness"), (0x1F507, "mute"), (0x1F508, "speaker"), (0x1F509, "sound"),
   (0x1F50A, "loud sound"), (0x1F50B, "battery"), (0x1F50C, "electric plug"), (0x1F50D, "mag"),
   (0x1F50E, "mag right"), (0x1F50F, "lock with ink pen"), (0x1F510, "closed lock with key"),
   (0x1F511, "key"), (0x1F512, "lock"), (0x1F513, "unlock"), (0x1F514, "bell"),
   (0x1F515, "no bell"), (0x1F516, "bookmark"), (0x1F517, "link"), (0x1F518, "radio button"),
   (0x1F519, "back"), (0x1F51A, "end"), (0x1F51B, "on"), (0x1F51C, "soon"), (0x1F51D, "top"),
   (0x1F51E, "underage"), (0x1F51F, "keycap ten"), (0x1F520, "capital abcd"), (0x1F521, "abcd"),
   (0x1F522, "1234"), (0x1F523, "symbols"), (0x1F524, "abc"), (0x1F525, "fire"),
   (0x1F526, "flashlight"), (0x1F527, "wrench"), (0x1F528, "hammer"), (0x1F529, "nut and bolt"),
   (0x1F52A, "hocho"), (0x1F52B, "gun"), (0x1F52C, "microscope"), (0x1F52D, "telescope"),
   (0x1F52E, "crystal ball"), (0x1F52F, "six pointed star"), (0x1F530, "beginner"),
   (0x1F531, "trident"), (0x1F532, "black square button"), (0x1F533, "white square button"),
   (0x1F534, "red circle"), (0x1F535, "blue circle"), (0x1F536, "large orange diamond"),
   (0x1F537, "large blue diamond"), (0x1F538, "small orange diamond"),
   (0x1F539, "small blue diamond"), (0x1F53A, "small red triangle"),
   (0x1F53B, "small red triangle down"), (0x1F53C, "arrow up small"), (0x1F53D, "arrow down small"),
   (0x1F549, "om symbol"), (0x1F54A, "dove"), (0x1F54B, "kaaba"), (0x1F54C, "mosque"),
   (0x1F54D, "synagogue"), (0x1F54E, "menorah with nine branches"), (0x1F550, "clock1"),
   (0x1F551, "clock2"), (0x1F552, "clock3"), (0x1F553, "clock4"), (0x1F554, "clock5"),
   (0x1F555, "clock6"), (0x1F556, "clock7"), (0x1F557, "clock8"), (0x1F558, "clock9"),
   (0x1F559, "clock10"), (0x1F55A, "clock11"), (0x1F55B, "clock12"), (0x1F55C, "clock130"),
   (0x1F55D, "clock230"), (0x1F55E, "clock330"), (0x1F55F, "clock430"), (0x1F560, "clock530"),
   (0x1F561, "clock630"), (0x1F562, "clock730"), (0x1F563, "clock830"), (0x1F564, "clock930"),
   (0x1F565, "clock1030"), (0x1F566, "clock1130"), (0x1F567, "clock1230"), (0x1F56F, "candle"),
   (0x1F570, "clock"), (0x1F573, "hole"), (0x1F574, "levitate"), (0x1F575, "detective"),
   (0x1F576, "dark sunglasses"), (0x1F577, "spider"), (0x1F578, "spider web"),
   (0x1F579, "joystick"), (0x1F57A, "man dancing"), (0x1F587, "paperclips"),
   (0x1F58A, "pen ballpoint"), (0x1F58B, "pen fountain"), (0x1F58C, "paintbrush"),
   (0x1F58D, "crayon"), (0x1F590, "hand splayed"), (0x1F595, "fu"), (0x1F596, "vulcan"),
   (0x1F5A4, "black heart"), (0x1F5A5, "desktop"), (0x1F5A8, "printer"),
   (0x1F5B1, "mouse three button"), (0x1F5B2, "trackball"), (0x1F5BC, "frame photo"),
   (0x1F5C2, "dividers"), (0x1F5C3, "card box"), (0x1F5C4, "file cabinet"),
   (0x1F5D1, "wastebasket"), (0x1F5D2, "notepad spiral"), (0x1F5D3, "calendar spiral"),
   (0x1F5DC, "compression"), (0x1F5DD, "key"), (0x1F5DE, "newspaper"), (0x1F5E1, "dagger"),
   (0x1F5E3, "speaking head"), (0x1F5E8, "speech left"), (0x1F5EF, "anger right"),
   (0x1F5F3, "ballot box"), (0x1F5FA, "map"), (0x1F5FB, "mount fuji"), (0x1F5FC, "tokyo tower"),
   (0x1F5FD, "statue of liberty"), (0x1F5FE, "map of japan"), (0x1F5FF, "moyai")]

/-- Faces, gestures and traffic. -/
def faces : List (Nat × String) :=
  [(0x1F600, "grinning"), (0x1F601, "grin"), (0x1F602, "joy"), (0x1F603, "smiley"),
   (0x1F604, "smile"), (0x1F605, "sweat smile"), (0x1F606, "laughing"), (0x1F607, "innocent"),
   (0x1F608, "smiling imp"), (0x1F609, "wink"), (0x1F60A, "blush"), (0x1F60B, "yum"),
   (0x1F60C, "relieved"), (0x1F60D, "heart eyes"), (0x1F60E, "sunglasses"), (0x1F60F, "smirk"),
   (0x1F610, "neutral face"), (0x1F611, "expressionless"), (0x1F612, "unamused"),
   (0x1F613, "sweat"), (0x1F614, "pensive"), (0x1F615, "confused"), (0x1F616, "confounded"),
   (0x1F617, "kissing"), (0x1F618, "kissing heart"), (0x1F619, "kissing smiling eyes"),
   (0x1F61A, "kissing closed eyes"), (0x1F61B, "stuck out tongue"),
   (0x1F61C, "stuck out tongue winking eye"), (0x1F61D, "stuck out tongue closed eyes"),
   (0x1F61E, "disappointed"), (0x1F61F, "worried"), (0x1F620, "angry"), (0x1F621, "rage"),
   (0x1F622, "cry"), (0x1F623, "persevere"), (0x1F624, "triumph"),
   (0x1F625, "disappointed relieved"), (0x1F626, "frowning"), (0x1F627, "anguished"),
   (0x1F628, "fearful"), (0x1F629, "weary"), (0x1F62A, "sleepy"), (0x1F62B, "tired face"),
   (0x1F62C, "grimacing"), (0x1F62D, "sob"), (0x1F62E, "open mouth"), (0x1F62F, "hushed"),
   (0x1F630, "cold sweat"), (0x1F631, "scream"), (0x1F632, "astonished"), (0x1F633, "flushed"),
   (0x1F634, "sleeping"), (0x1F635, "dizzy face"), (0x1F636, "no mouth"), (0x1F637, "mask"),
   (0x1F638, "smile cat"), (0x1F639, "joy cat"), (0x1F63A, "smiley cat"),
   (0x1F63B, "heart eyes cat"), (0x1F63C, "smirk cat"), (0x1F63D, "kissing cat"),
   (0x1F63E, "pouting cat"), (0x1F63F, "crying cat face"), (0x1F640, "scream cat"),
   (0x1F641, "slight frown"), (0x1F642, "slight smile"), (0x1F643, "upside down"),
   (0x1F644, "roll eyes"), (0x1F645, "no good"), (0x1F646, "ok woman"), (0x1F647, "bow"),
   (0x1F648, "see no evil"), (0x1F649, "hear no evil"), (0x1F64A, "speak no evil"),
   (0x1F64B, "raising hand"), (0x1F64C, "raised hands"), (0x1F64D, "frowning person"),
   (0x1F64E, "pouting face"), (0x1F64F, "pray"), (0x1F680, "rocket"), (0x1F681, "helicopter"),
   (0x1F682, "steam locomotive"), (0x1F683, "railway car"), (0x1F684, "bullettrain side"),
   (0x1F685, "bullettrain front"), (0x1F686, "train"), (0x1F687, "metro"), (0x1F688, "light rail"),
   (0x1F689, "station"), (0x1F68A, "tram"), (0x1F68B, "train"), (0x1F68C, "bus"),
   (0x1F68D, "oncoming bus"), (0x1F68E, "trolleybus"), (0x1F68F, "busstop"), (0x1F690, "minibus"),
   (0x1F691, "ambulance"), (0x1F692, "fire engine"), (0x1F693, "police car"),
   (0x1F694, "oncoming police car"), (0x1F695, "taxi"), (0x1F696, "oncoming taxi"),
   (0x1F697, "car"), (0x1F698, "oncoming automobile"), (0x1F699, "blue car"), (0x1F69A, "truck"),
   (0x1F69B, "articulated lorry"), (0x1F69C, "tractor"), (0x1F69D, "monorail"),
   (0x1F69E, "mountain railway"), (0x1F69F, "suspension railway"), (0x1F6A0, "mountain cableway"),
   (0x1F6A1, "aerial tramway"), (0x1F6A2, "ship"), (0x1F6A3, "rowboat"), (0x1F6A4, "speedboat"),
   (0x1F6A5, "traffic light"), (0x1F6A6, "vertical traffic light"), (0x1F6A7, "construction"),
   (0x1F6A8, "rotating light"), (0x1F6A9, "triangular flag on post"), (0x1F6AA, "door"),
   (0x1F6AB, "no entry sign"), (0x1F6AC, "smoking"), (0x1F6AD, "no smoking"),
   (0x1F6AE, "put litter in its place"), (0x1F6AF, "do not litter"), (0x1F6B0, "potable water"),
   (0x1F6B1, "non potable water"), (0x1F6B2, "bike"), (0x1F6B3, "no bicycles"),
   (0x1F6B4, "bicyclist"), (0x1F6B5, "mountain bicyclist"), (0x1F6B6, "walking"),
   (0x1F6B7, "no pedestrians"), (0x1F6B8, "children crossing"), (0x1F6B9, "mens"),
   (0x1F6BA, "womens"), (0x1F6BB, "restroom"), (0x1F6BC, "baby symbol"), (0x1F6BD, "toilet"),
   (0x1F6BE, "wc"), (0x1F6BF, "shower"), (0x1F6C0, "bath"), (0x1F6C1, "bathtub"),
   (0x1F6C2, "passport control"), (0x1F6C3, "customs"), (0x1F6C4, "baggage claim"),
   (0x1F6C5, "left luggage"), (0x1F6CB, "couch"), (0x1F6CC, "sleeping bed"),
   (0x1F6CD, "shopping bags"), (0x1F6CE, "bellhop"), (0x1F6CF, "bed"),
   (0x1F6D0, "place of worship"), (0x1F6D1, "stop sign"), (0x1F6D2, "shopping cart"),
   (0x1F6D5, "hindu temple"), (0x1F6D6, "hut"), (0x1F6D7, "elevator"),
   (0x1F6DD, "playground slide"), (0x1F6DE, "wheel"), (0x1F6DF, "ring buoy"), (0x1F6E0, "tools"),
   (0x1F6E1, "shield"), (0x1F6E2, "oil"), (0x1F6E3, "motorway"), (0x1F6E4, "railway track"),
   (0x1F6E5, "motorboat"), (0x1F6E9, "airplane small"), (0x1F6EB, "flight departure"),
   (0x1F6EC, "flight arrival"), (0x1F6F3, "cruise ship"), (0x1F6F4, "scooter"),
   (0x1F6F5, "motor scooter"), (0x1F6F6, "canoe"), (0x1F6F7, "sled"), (0x1F6F8, "flying saucer"),
   (0x1F6F9, "skateboard"), (0x1F6FA, "auto rickshaw"), (0x1F6FB, "pickup truck"),
   (0x1F6FC, "roller skate"), (0x1F7E0, "orange circle"), (0x1F7E1, "yellow circle"),
   (0x1F7E2, "green circle"), (0x1F7E3, "purple circle"), (0x1F7E4, "brown circle"),
   (0x1F7E5, "red square"), (0x1F7E6, "blue square"), (0x1F7E7, "orange square"),
   (0x1F7E8, "yellow square"), (0x1F7E9, "green square"), (0x1F7EA, "purple square"),
   (0x1F7EB, "brown square"), (0x1F7F0, "heavy equals sign")]

/-- Later additions. -/
def more : List (Nat × String) :=
  [(0x1F90C, "pinched fingers"), (0x1F90D, "white heart"), (0x1F90E, "brown heart"),
   (0x1F90F, "pinching hand"), (0x1F910, "zipper mouth"), (0x1F911, "money mouth"),
   (0x1F912, "thermometer face"), (0x1F913, "nerd"), (0x1F914, "thinking"),
   (0x1F915, "head bandage"), (0x1F916, "robot"), (0x1F917, "hugs"), (0x1F918, "metal"),
   (0x1F919, "call me"), (0x1F91A, "raised back of hand"), (0x1F91B, "fist left"),
   (0x1F91C, "fist right"), (0x1F91D, "handshake"), (0x1F91E, "crossed fingers"),
   (0x1F91F, "love you gesture"), (0x1F920, "cowboy"), (0x1F921, "clown"),
   (0x1F922, "nauseated face"), (0x1F923, "rofl"), (0x1F924, "drooling face"),
   (0x1F925, "lying face"), (0x1F926, "facepalm"), (0x1F927, "sneezing face"),
   (0x1F928, "raised eyebrow"), (0x1F929, "star struck"), (0x1F92A, "zany face"),
   (0x1F92B, "shushing face"), (0x1F92C, "cursing face"), (0x1F92D, "hand over mouth"),
   (0x1F92E, "vomiting face"), (0x1F92F, "exploding head"), (0x1F930, "pregnant woman"),
   (0x1F931, "breast feeding"), (0x1F932, "palms up together"), (0x1F933, "selfie"),
   (0x1F934, "prince"), (0x1F935, "man in tuxedo"), (0x1F936, "mrs claus"), (0x1F937, "shrug"),
   (0x1F938, "cartwheeling"), (0x1F939, "juggling"), (0x1F93A, "person fencing"),
   (0x1F93C, "wrestling"), (0x1F93D, "water polo"), (0x1F93E, "handball"), (0x1F93F, "diving mask"),
   (0x1F940, "wilted flower"), (0x1F941, "drum"), (0x1F942, "champagne glass"),
   (0x1F943, "tumbler glass"), (0x1F944, "spoon"), (0x1F945, "goal"), (0x1F947, "first place"),
   (0x1F948, "second place"), (0x1F949, "third place"), (0x1F94A, "boxing glove"),
   (0x1F94B, "martial arts uniform"), (0x1F94C, "curling stone"), (0x1F94D, "lacrosse"),
   (0x1F94E, "softball"), (0x1F94F, "flying disc"), (0x1F950, "croissant"), (0x1F951, "avocado"),
   (0x1F952, "cucumber"), (0x1F953, "bacon"), (0x1F954, "potato"), (0x1F955, "carrot"),
   (0x1F956, "french bread"), (0x1F957, "salad"), (0x1F958, "shallow pan of food"),
   (0x1F959, "stuffed flatbread"), (0x1F95A, "egg"), (0x1F95B, "milk"), (0x1F95C, "peanuts"),
   (0x1F95D, "kiwi"), (0x1F95E, "pancakes"), (0x1F95F, "dumpling"), (0x1F960, "fortune cookie"),
   (0x1F961, "takeout box"), (0x1F962, "chopsticks"), (0x1F963, "bowl with spoon"),
   (0x1F964, "cup with straw"), (0x1F965, "coconut"), (0x1F966, "broccoli"), (0x1F967, "pie"),
   (0x1F968, "pretzel"), (0x1F969, "cut of meat"), (0x1F96A, "sandwich"), (0x1F96B, "canned food"),
   (0x1F96C, "leafy green"), (0x1F96D, "mango"), (0x1F96E, "moon cake"), (0x1F96F, "bagel"),
   (0x1F970, "smiling face with three hearts"), (0x1F971, "yawning face"),
   (0x1F972, "smiling face with tear"), (0x1F973, "partying face"), (0x1F974, "woozy face"),
   (0x1F975, "hot face"), (0x1F976, "cold face"), (0x1F977, "ninja"), (0x1F978, "disguised face"),
   (0x1F979, "face holding back tears"), (0x1F97A, "pleading face"), (0x1F97B, "sari"),
   (0x1F97C, "lab coat"), (0x1F97D, "goggles"), (0x1F97E, "hiking boot"), (0x1F97F, "flat shoe"),
   (0x1F980, "crab"), (0x1F981, "lion"), (0x1F982, "scorpion"), (0x1F983, "turkey"),
   (0x1F984, "unicorn"), (0x1F985, "eagle"), (0x1F986, "duck"), (0x1F987, "bat"),
   (0x1F988, "shark"), (0x1F989, "owl"), (0x1F98A, "fox"), (0x1F98B, "butterfly"),
   (0x1F98C, "deer"), (0x1F98D, "gorilla"), (0x1F98E, "lizard"), (0x1F98F, "rhinoceros"),
   (0x1F990, "shrimp"), (0x1F991, "squid"), (0x1F992, "giraffe"), (0x1F993, "zebra"),
   (0x1F994, "hedgehog"), (0x1F995, "sauropod"), (0x1F996, "t rex"), (0x1F997, "cricket"),
   (0x1F998, "kangaroo"), (0x1F999, "llama"), (0x1F99A, "peacock"), (0x1F99B, "hippopotamus"),
   (0x1F99C, "parrot"), (0x1F99D, "raccoon"), (0x1F99E, "lobster"), (0x1F99F, "mosquito"),
   (0x1F9A0, "microbe"), (0x1F9A1, "badger"), (0x1F9A2, "swan"), (0x1F9A3, "mammoth"),
   (0x1F9A4, "dodo"), (0x1F9A5, "sloth"), (0x1F9A6, "otter"), (0x1F9A7, "orangutan"),
   (0x1F9A8, "skunk"), (0x1F9A9, "flamingo"), (0x1F9AA, "oyster"), (0x1F9AB, "beaver"),
   (0x1F9AC, "bison"), (0x1F9AD, "seal"), (0x1F9AE, "guide dog"), (0x1F9AF, "probing cane"),
   (0x1F9B0, "red hair"), (0x1F9B1, "curly hair"), (0x1F9B2, "bald"), (0x1F9B3, "white hair"),
   (0x1F9B4, "bone"), (0x1F9B5, "leg"), (0x1F9B6, "foot"), (0x1F9B7, "tooth"),
   (0x1F9B8, "superhero"), (0x1F9B9, "supervillain"), (0x1F9BA, "safety vest"),
   (0x1F9BB, "ear with hearing aid"), (0x1F9BC, "motorized wheelchair"),
   (0x1F9BD, "manual wheelchair"), (0x1F9BE, "mechanical arm"), (0x1F9BF, "mechanical leg"),
   (0x1F9C0, "cheese"), (0x1F9C1, "cupcake"), (0x1F9C2, "salt"), (0x1F9C3, "beverage box"),
   (0x1F9C4, "garlic"), (0x1F9C5, "onion"), (0x1F9C6, "falafel"), (0x1F9C7, "waffle"),
   (0x1F9C8, "butter"), (0x1F9C9, "mate"), (0x1F9CA, "ice cube"), (0x1F9CB, "bubble tea"),
   (0x1F9CC, "troll"), (0x1F9CD, "person standing"), (0x1F9CE, "person kneeling"),
   (0x1F9CF, "deaf person"), (0x1F9D0, "monocle face"), (0x1F9D1, "adult"), (0x1F9D2, "child"),
   (0x1F9D3, "older adult"), (0x1F9D4, "bearded person"), (0x1F9D5, "woman with headscarf"),
   (0x1F9D6, "person in steamy room"), (0x1F9D7, "climbing"), (0x1F9D8, "lotus position"),
   (0x1F9D9, "mage"), (0x1F9DA, "fairy"), (0x1F9DB, "vampire"), (0x1F9DC, "merperson"),
   (0x1F9DD, "elf"), (0x1F9DE, "genie"), (0x1F9DF, "zombie"), (0x1F9E0, "brain"),
   (0x1F9E1, "orange heart"), (0x1F9E2, "billed cap"), (0x1F9E3, "scarf"), (0x1F9E4, "gloves"),
   (0x1F9E5, "coat"), (0x1F9E6, "socks"), (0x1F9E7, "red envelope"), (0x1F9E8, "firecracker"),
   (0x1F9E9, "jigsaw"), (0x1F9EA, "test tube"), (0x1F9EB, "petri dish"), (0x1F9EC, "dna"),
   (0x1F9ED, "compass"), (0x1F9EE, "abacus"), (0x1F9EF, "fire extinguisher"), (0x1F9F0, "toolbox"),
   (0x1F9F1, "brick"), (0x1F9F2, "magnet"), (0x1F9F3, "luggage"), (0x1F9F4, "lotion bottle"),
   (0x1F9F5, "thread"), (0x1F9F6, "yarn"), (0x1F9F7, "safety pin"), (0x1F9F8, "teddy bear"),
   (0x1F9F9, "broom"), (0x1F9FA, "basket"), (0x1F9FB, "roll of paper"), (0x1F9FC, "soap"),
   (0x1F9FD, "sponge"), (0x1F9FE, "receipt"), (0x1F9FF, "nazar amulet"), (0x1FA70, "ballet shoes"),
   (0x1FA71, "one-piece swimsuit"), (0x1FA72, "briefs"), (0x1FA73, "shorts"),
   (0x1FA74, "thong sandal"), (0x1FA78, "drop of blood"), (0x1FA79, "adhesive bandage"),
   (0x1FA7A, "stethoscope"), (0x1FA7B, "x ray"), (0x1FA7C, "crutch"), (0x1FA80, "yo-yo"),
   (0x1FA81, "kite"), (0x1FA83, "boomerang"), (0x1FA84, "magic wand"), (0x1FA85, "pinata"),
   (0x1FA86, "nesting dolls"), (0x1FA90, "ringed planet"), (0x1FA91, "chair"), (0x1FA92, "razor"),
   (0x1FA93, "axe"), (0x1FA94, "diya lamp"), (0x1FA95, "banjo"), (0x1FA96, "military helmet"),
   (0x1FA97, "accordion"), (0x1FA98, "long drum"), (0x1FA99, "coin"), (0x1FA9A, "carpentry saw"),
   (0x1FA9B, "screwdriver"), (0x1FA9C, "ladder"), (0x1FA9D, "hook"), (0x1FA9E, "mirror"),
   (0x1FA9F, "window"), (0x1FAA0, "plunger"), (0x1FAA1, "sewing needle"), (0x1FAA2, "knot"),
   (0x1FAA3, "bucket"), (0x1FAA4, "mouse trap"), (0x1FAA5, "toothbrush"), (0x1FAA6, "headstone"),
   (0x1FAA7, "placard"), (0x1FAA8, "rock"), (0x1FAA9, "mirror ball"),
   (0x1FAAA, "identification card"), (0x1FAAB, "low battery"), (0x1FAAC, "hamsa"), (0x1FAB0, "fly"),
   (0x1FAB1, "worm"), (0x1FAB2, "beetle"), (0x1FAB3, "cockroach"), (0x1FAB4, "potted plant"),
   (0x1FAB5, "wood"), (0x1FAB6, "feather"), (0x1FAB7, "lotus"), (0x1FAB8, "coral"),
   (0x1FAB9, "empty nest"), (0x1FABA, "nest with eggs"), (0x1FAC0, "anatomical heart"),
   (0x1FAC1, "lungs"), (0x1FAC2, "people hugging"), (0x1FAC3, "pregnant man"),
   (0x1FAC4, "pregnant person"), (0x1FAC5, "person with crown"), (0x1FAD0, "blueberries"),
   (0x1FAD1, "bell pepper"), (0x1FAD2, "olive"), (0x1FAD3, "flatbread"), (0x1FAD4, "tamale"),
   (0x1FAD5, "fondue"), (0x1FAD6, "teapot"), (0x1FAD7, "pouring liquid"), (0x1FAD8, "beans"),
   (0x1FAD9, "jar"), (0x1FAE0, "melting face"), (0x1FAE1, "saluting face"),
   (0x1FAE2, "face with open eyes and hand over mouth"), (0x1FAE3, "face with peeking eye"),
   (0x1FAE4, "face with diagonal mouth"), (0x1FAE5, "dotted line face"), (0x1FAE6, "biting lip"),
   (0x1FAE7, "bubbles"), (0x1FAF0, "hand with index finger and thumb crossed"),
   (0x1FAF1, "rightwards hand"), (0x1FAF2, "leftwards hand"), (0x1FAF3, "palm down hand"),
   (0x1FAF4, "palm up hand"), (0x1FAF5, "index pointing at the viewer"), (0x1FAF6, "heart hands")]

/-- The name of a pictograph. -/
def name? (n : Nat) : Option String :=
  let names :=
    if n < 0x1F000 then signs
    else if n < 0x1F440 then things
    else if n < 0x1F600 then objects
    else if n < 0x1F900 then faces
    else more
  names.lookup n

end BlogTheme.Text.Transliteration.Pictographs
