set_option autoImplicit false

/-!
# Characters outside ASCII

The boundaries of the characters that begin identifiers, of those that continue them, of letters and
characters with a numeric value, and of the characters that are shown as they are.
-/

namespace BindingStubs.Text

/-! ## Boundaries of character classes

A class of characters outside ASCII is given by the code points at which membership changes: a code
point belongs to the class when an odd number of these boundaries are at most that code point. They
are written as the distances from one to the next, the first one from zero, in rows of hexadecimal
digits: the octal digits of each distance, with eight added to every one but the last. -/

def placesFrom : (start : Nat) → List Nat → List Nat
  | _, [] => []
  | start, distance :: rest => (start + distance) :: placesFrom (start + distance) rest

/-- The distances of a row, read from the right: `value` is one that is read in part, `weight` what
its next digit counts, and `later` are those after it. -/
def distancesOf : (digits : Nat) → (row weight value : Nat) → (later : List Nat) → List Nat
  | 0, _, _, value, later => value :: later
  | digits + 1, row, weight, value, later =>
    if row = 0 then value :: later
    else if row % 16 < 8 then distancesOf digits (row / 16) 8 (row % 16) (value :: later)
    else distancesOf digits (row / 16) (weight * 8) (value + (row % 16 - 8) * weight) later

/-- The boundaries of the characters that are in just one of two classes. -/
def apart : List Nat → List Nat → List Nat
  | [], others => others
  | bound :: rest, others =>
    let later := others.dropWhile (· < bound)
    others.takeWhile (· < bound) ++
      if later.head? = some bound then apart rest later.tail else bound :: apart rest later

/-- The boundaries that rows of at most a hundred digits give, for a class that differs by them
from another one. -/
def boundsFrom (base : Array Nat) (rows : List Nat) : Array Nat :=
  (apart base.toList
    (placesFrom 0 (rows.flatMap fun row => distancesOf 100 (row / 16) 8 (row % 16) []))).toArray

def nameStartBounds : Array Nat := boundsFrom #[] [
  0xad21921415a71b71f924949657111a8151233116113111a419a31a9390ac61c6216d1987b344d5d3c3219c31197272,
  0x92321a011b6b59b1931b0c1912415a64191131a7b17935b016a1d2f2e631a2179297a0490222a617113431a0195213,
  0x962921906422a617121212b7411a33a091131a617121531a21972a719390222a617121531b6213971a1116331432111,
  0x23233394a61e490131a71a031b232122b61490131a71921531b7212972a191131d121a0153903b065a23b01911127f2,
  0xe011957f2211151b011192119212511a54c01f7901c4b359e3d3a41a0644313273495941a1c611512d31d9514271114,
  0x2d1142c1142711142971f1142983c5a0a09a626399d42a11b259933937a295a396a296951397e4c31419839b17d1115,
  0x98692b7e1b62593d44b2e6a791e59a219b5d7a190e6b695292d4b2c4d1392c42917d323d141612315b80980ca6262c6,
  0x262901111111b72e517113317342649553179e41951a0959c514129211266111111a0245541a1d1d9e7bc5643294c61,
  0x1512f071a0a79171717171717171798c63b191752549a66319b2145d319b6a1c0e0a098809cf80980dba95983d62c95,
  0x3a0922a4d7a0b729a0c79129c72980521115b0a013141a7b5e496e2f66311293b492a7b1b57d7b41a051929251d1a73,
  0x190a4a7313e21132252111b03293739462626917171d319669e3b5adec494a74e1a8c84dd629d2c6794551192195151,
  0x1121219d4c1a936bb2a29802e6d0929e71113111111119f6c4b26b293f02b736262623c3941b21a312197296c29f3,
  0x985e5c93b53e1d7c095b65c692b62c449015d2ab6a2c44c44d090e4949319717121931971712983ce791a69290b061,
  0xd21919856211d412312a792a791b7981a31292a692b2986f0629801974131b5d2b53b5c3901b4b3e692a692a395a2,
  0x9d6991e7e395e395c4db4d262996b592190a6d2a2d6a5b3a794e5f122195d5c0b1b2c4b512190c33194e0964a5111c3,
  0xa21b19a4711141971927d7c690222a617121531a21945ab6e5a24a43b6e0a4211af0d7d14c4e0a41f3d3951987b3c57,
  0xaf1d49e4980b79021290121b0971119b6902c7a0111b4192d071a5193d6a31a2991c87911c5a11e1b69e07121c6a51,
  0xb16121c0961d87a3af519979eb29c69d7a1b84d9949c197a8d7ffa19987a8ef198f17b7a1997a1b6a2e0a04b7a55a3,
  0x9ae0980a809935198295980211b49bff090aba6d291a9bc7417121cc3d53a1490e94cc849d35953917929bdc69a51,
  0x987122122241941117198114290171b4141511371da42b11b11b71b11b71b11b71b11b71b1190bce4b7fc1d5927a01,
  0xd81b6a2d4abe4714121971b85f398471aae441b3121121192141111614111111312112111111111121124171414111,
  0x921a153151a198d849abbc0c0988f17bb629ba82969ece1e8b798b6afc299d93]

def namePartBounds : Array Nat := boundsFrom nameStartBounds [
  0xae7199909e0a71bf35c91d51112121199093e0b7619c57262214292a71b6b39b3939792c191911b041911315d33f490,
  0xd2b01c1e631a217922292a13f0117222391192229296123f0115422331a49431933f011901313a4229292613f011722,
  0x2373922292a21f3533149119692a05e7117131472932292a13f0117131472932292a04e72171314911922292a139861,
  0x461119069222f5119094901929a71192936292f62692931111142e1a4125931c49119c4a4192944431327349594197,
  0x9af7391919ec04b43b52b62980c0911292c13193a9719e6944949292a8093f45f1921b5293692a6961a0e15d7a19392,
  0xa191943b695292d496e0a490926929e631a5416123b8698098f72a319f39541394dff63a9519c0c098d269d12fae85,
  0x929851492c029a02ca013141a75419a32e2a292926a29593b490b195d44d79697929319292d796941902292c13e2113,
  0x225211d1552bd49012292cfcc419bc1a0a0a032b03b8092c519b6299b51bc21aa55cc592ada731254d0341ac5298f54,
  0x9092de12ab193e149f23e597b79322924d59371d59263c49619252d41943e0969041949a29461ac09459264e7217222,
  0x39119222735b80a29192419a1a49492ba57291b329a2a197929a19590929a397492be297ac5929866122411129492,
  0x9e772731b492d07149019193d6a0ea590190a092f0a61969f26311217119092e0512159092d914cddd1929a692c65f3,
  0x7b1929fe511e7749a11932cead32999c1d62a798b6536909027b64aa43ae91e29880e74e2901961a65197ada071a127,
  0x1215c8579192dc41f596afa679d5759299aa692b88ac86be0]

def alnumBounds : Array Nat := boundsFrom nameStartBounds [
  0xae2251239af319bc592a8692b8692eb4929e692469d4929e6929e692269d6959e3929079c7929d077a39d5929831b4,
  0x929b11b492986a4c9492986929b97a4a9c392692a6929d32af792a8093ac592692ae6929a692a8692692a8a6136692,
  0xa961a51c1a0d119ba6f4996a699e6b6add11ce119dc24a9292b690197c092c797f9dc09298866ab292c692b8692a692,
  0x9a692ea692d89c46ea629e4111111111111111aa192a842dc7d59814a12da5b3c44df4929ed690b17c7919935a66ac0,
  0x22a02d698091e42b6399359d090b090d17d926e092cc6b7ab692d249e07a86b6a8092f492aa0927a4bf392da6929e6,
  0x92de6929c6929c694ec4a39b5929be6b5bc3929869298a6a5cda93929a692a8692179cb6a7ea991a49d4b1a9a5e2,
  0xcd8092ec692af9591a80929ca7f31314994d51979f8295dbc392]

def decimalBounds : Array Nat := boundsFrom #[] [
  0xb9c092a8692b8692eb4929e6929e6929e6929e6929e6929e6929e6929e6929e6929c0929e69298692ca69298692bd86,
  0x92c692cd492a8092ac692692ae6929a692a869269298cf86929ac692c692b8692a6929a692ea692d9ca692ae8692,
  0xca86929cd492a8092f492aa092ca692da6929e692de6929c6929c692ec6929c6929be692be69298692ceae6929a692,
  0xa8692ee9e4e2cd8092ec692b9a69299aa692]

def digitBounds : Array Nat := boundsFrom decimalBounds [
  0xae225199ad791b9d01baa51366929fa691939193919b1192911199e6911911919e9ad54a8b491fd1919e8ac593]

def numericBounds : Array Nat := boundsFrom digitBounds [
  0xaf43cce56df069f03a857bb17a191ee192a8f6939de13bf792cda6e3259bb79391939193997929119a801911911add1,
  0x19c911b191963da74a9292b690197c092c797d8519f519ec619cc2199ae212131119a31d617111d02b61901c419c21,
  0xea319811c211111fa3113619e449ca6198a5171ae801a832943119fd519951aa851bce31aa9719bc71d88719ec51,
  0xca811419f41cbe01c4151d319f51ffd792d806d8ce517141f11b6111d11bc91d594f1a12da5b3c44b51901a865aa82,
  0x90b17c7919935a66ac022a02d69845e42b6399359d090b090d17d926dd1a6ab692d249e07a9793df3a4ad852ed691,
  0x9dc7a39da3a5a8d39d7cbbd479cb6a7ea991a49d4b19ad96919ec1f31314994d51979f952fbe419c219f51f61c8901,
  0x9b01901971d951a21b319c9e61b887198e821abda1199b8c21]

def printableBounds : Array Nat := boundsFrom namePartBounds [
  0xac1911217111215a71b71f924949657111a19e514131529e01a93152ba06d1223d61112121d42a1929311399249c61,
  0x911921a32196bd0442e097b71d11bb32921a8192119f019f129f61169f0939f49141b921907a1929f219921971922,
  0xac5a72692931111149871f090161959d7699629b3199c4919193a3929c6199d42d4299639872ab5314a492693ce5132,
  0xab0c2b62a80716a01ab3a191939f54f35f62980909319bd1113933953953952a1b090972a3192a11393197a1c1b4413,
  0xb3214129211266111111a0245541a1d1349aa7b193a5bca42c019d1bc569679e01a979b6c2b219b194ba6b294543b1,
  0x97152539b32319b21aa4a0c0c4b4b71fc09cf80980dbaa0e7e72c9539c049219e3690a79129c72ab54492f249a62d03,
  0x11e12d719c195a029f44a739c42a029d119629f71cfcf51a90a1ab36bb2a29f71d26a092a632b0331a3144111111111,
  0x111111a8297927b2411b2939f2717952c8234d5391e5b219531d7d5bc4b3c449f31e01eb619bc791a791c7919935a66,
  0x31b719f422a02d698091791c43b53d01c2949827b090b090b14947d926dc0b7d619d792d291d44f379f374a49a5214,
  0x9f64e02997441951131a498369d31ec15922119d01bf2a79d13b4959941a806bf31ad6919a13ab319b4909a3315eb65,
  0xa4a3329a852b87e2951a9e05ddf42bd9f32a8519819142a579cb6b3d871ceaf112199ae09e4f4be692c72f453a627b6,
  0x4f5a598231ab2a4949a791b19d901b11b71b11b71b11b71b11b71b11f49880e74e29019617bb831ed71af8791a962,
  0x9ca1984994f5ee22c96d449c494972971971c592ad6f0b595d449172966ab29fb05a039539e4949b17944197944f090,
  0x926d090b622996da4949625353791b539356929269090791aa31e7]

/-! ## Letter case outside ASCII

Upper-case letters and the other forms of letters, given by boundaries, by runs and by groups. -/

/-- The boundaries of upper-case letters that are in no paired run. -/
def loneUpperBounds : Array Nat := boundsFrom #[] [
  0xce01ab4111111111111111b01fb53b719dad1199c31413323213561111114221192251bb9af2b2b2b2b2b2b21122122,
  0x24190b2b2b221429017b3214151137b3b2b2b2b2b2b2b2b2b2b2b2b6b1c1b1c1b1c1b1c1b1c119cdc5b26b26b2]

def singles : List (Nat × Int) → List (Nat × Nat × Nat × Int) :=
  List.map fun (code, distance) => (code, code, 1, distance)

/-- Runs of lower-case letters that are the lower-case forms of their upper-case forms, which lie at
a fixed distance: first, last, step, distance. -/
def pairedRuns : List (Nat × Nat × Nat × Int) := [
  (224, 246, 1, -32), (248, 254, 1, -32), (575, 576, 1, 10815), (598, 599, 1, -205),
  (650, 651, 1, -217), (891, 893, 1, 130), (941, 943, 1, -37), (945, 961, 1, -32),
  (963, 971, 1, -32), (973, 974, 1, -63), (1072, 1103, 1, -32), (1104, 1119, 1, -80),
  (1377, 1414, 1, -48), (4304, 4346, 1, 3008), (4349, 4351, 1, 3008), (5112, 5117, 1, -8),
  (7936, 7943, 1, 8), (7952, 7957, 1, 8), (7968, 7975, 1, 8), (7984, 7991, 1, 8),
  (8000, 8005, 1, 8), (8017, 8023, 2, 8), (8032, 8039, 1, 8), (8048, 8049, 1, 74),
  (8050, 8053, 1, 86), (8054, 8055, 1, 100), (8056, 8057, 1, 128), (8058, 8059, 1, 112),
  (8060, 8061, 1, 126), (8112, 8113, 1, 8), (8144, 8145, 1, 8), (8160, 8161, 1, 8),
  (8560, 8575, 1, -16), (9424, 9449, 1, -26), (11312, 11359, 1, -48), (11520, 11557, 1, -7264),
  (43888, 43967, 1, -38864), (65345, 65370, 1, -32), (66600, 66639, 1, -40), (66776, 66811, 1, -40),
  (66967, 66977, 1, -39), (66979, 66993, 1, -39), (66995, 67001, 1, -39), (67003, 67004, 1, -39),
  (68800, 68850, 1, -64), (71872, 71903, 1, -32), (93792, 93823, 1, -32),
  (125218, 125251, 1, -34)] ++
  -- Both cases in turn.
  List.map (fun (first, last) => (first, last, 2, -1)) [
  (257, 303), (307, 311), (314, 328), (331, 375), (378, 382), (387, 389), (392, 392), (396, 396),
  (402, 402), (409, 409), (417, 421), (424, 424), (429, 429), (432, 432), (436, 438), (441, 441),
  (445, 445), (479, 495), (505, 543), (547, 563), (572, 572), (578, 578), (583, 591), (881, 883),
  (887, 887), (985, 1007), (1016, 1016), (1019, 1019), (1121, 1153), (1163, 1215), (1218, 1230),
  (1233, 1327), (7681, 7829), (7841, 7935), (8580, 8580), (11361, 11361), (11368, 11372),
  (11379, 11379), (11382, 11382), (11393, 11491), (11500, 11502), (11507, 11507), (42561, 42605),
  (42625, 42651), (42787, 42799), (42803, 42863), (42874, 42876), (42879, 42887), (42892, 42892),
  (42897, 42899), (42903, 42921), (42933, 42947), (42952, 42954), (42961, 42961), (42967, 42969),
  (42998, 42998)] ++ singles [
  (255, 121), (384, 195), (405, 97), (410, 163), (414, 130), (447, 56), (454, -2), (457, -2),
  (460, -2), (477, -79), (499, -2), (592, 10783), (593, 10780), (594, 10782), (595, -210),
  (596, -206), (601, -202), (603, -203), (604, 42319), (608, -205), (609, 42315), (611, -207),
  (613, 42280), (614, 42308), (616, -209), (617, -211), (618, 42308), (619, 10743), (620, 42305),
  (623, -211), (625, 10749), (626, -213), (629, -214), (637, 10727), (640, -218), (642, 42307),
  (643, -218), (647, 42282), (648, -218), (649, -69), (652, -71), (658, -219), (669, 42261),
  (670, 42258), (940, -38), (972, -64), (983, -8), (1010, 7), (1011, -116), (1231, -15),
  (7545, 35332), (7549, 3814), (7566, 35384), (8165, 7), (8526, -28), (11365, -10795),
  (11366, -10792), (11559, -7264), (11565, -7264), (42900, 48), (43859, -928)]

def otherRun : Nat × Nat × Nat × Int → Nat × Nat × Nat × Int
  | (first, last, step, distance) =>
    ((first + distance).toNat, (last + distance).toNat, step, -distance)

def upperRuns : List (Nat × Nat × Nat × Int) :=
  pairedRuns ++ [(462, 476, 2, -1), (7299, 7300, 1, -6242)] ++ singles [
  (181, 743), (305, -232), (383, -300), (453, -1), (456, -1), (459, -1), (498, -1), (501, -1),
  (837, 84), (962, -31), (976, -62), (977, -57), (981, -47), (982, -54), (1008, -86), (1009, -80),
  (1013, -96), (7296, -6254), (7297, -6253), (7298, -6244), (7301, -6243), (7302, -6236),
  (7303, -6181), (7304, 35266), (7835, -59), (8126, -7205)]

def upperSequences : List (Nat × List Nat) :=
  (List.range 48).map (fun i => (8064 + i, [[7944, 7976, 8040].getD (i / 16) 0 + i % 8, 921])) ++ [
  (223, [83, 83]), (329, [700, 78]), (496, [74, 780]), (912, [921, 776, 769]),
  (944, [933, 776, 769]), (1415, [1333, 1362]), (7830, [72, 817]), (7831, [84, 776]),
  (7832, [87, 778]), (7833, [89, 778]), (7834, [65, 702]), (8016, [933, 787]),
  (8018, [933, 787, 768]), (8020, [933, 787, 769]), (8022, [933, 787, 834]), (8114, [8122, 921]),
  (8115, [913, 921]), (8116, [902, 921]), (8118, [913, 834]), (8119, [913, 834, 921]),
  (8124, [913, 921]), (8130, [8138, 921]), (8131, [919, 921]), (8132, [905, 921]),
  (8134, [919, 834]), (8135, [919, 834, 921]), (8140, [919, 921]), (8146, [921, 776, 768]),
  (8147, [921, 776, 769]), (8150, [921, 834]), (8151, [921, 776, 834]), (8162, [933, 776, 768]),
  (8163, [933, 776, 769]), (8164, [929, 787]), (8166, [933, 834]), (8167, [933, 776, 834]),
  (8178, [8186, 921]), (8179, [937, 921]), (8180, [911, 921]), (8182, [937, 834]),
  (8183, [937, 834, 921]), (8188, [937, 921]), (64256, [70, 70]), (64257, [70, 73]),
  (64258, [70, 76]), (64259, [70, 70, 73]), (64260, [70, 70, 76]), (64261, [83, 84]),
  (64262, [83, 84]), (64275, [1348, 1350]), (64276, [1348, 1333]), (64277, [1348, 1339]),
  (64278, [1358, 1350]), (64279, [1348, 1341])]

def lowerRuns : List (Nat × Nat × Nat × Int) := pairedRuns.map otherRun ++ [
  (459, 475, 2, 1), (498, 500, 2, 1), (8072, 8079, 1, -8), (8088, 8095, 1, -8), (8104, 8111, 1, -8)] ++
  singles [
  (304, -199), (453, 1), (456, 1), (1012, -60), (7838, -7615), (8124, -9), (8140, -9), (8188, -9),
  (8486, -7517), (8490, -8383), (8491, -8262)]

/-- Lower-case letters that share their upper-case form with others. -/
def lowerTwins : List (List Nat) := [
  [105, 305], [115, 383], [181, 956], [837, 953, 8126], [912, 8147], [944, 8163], [946, 976],
  [949, 1013], [952, 977], [954, 1008], [960, 982], [961, 1009], [962, 963], [966, 981],
  [1074, 7296], [1076, 7297], [1086, 7298], [1089, 7299], [1090, 7300, 7301], [1098, 7302],
  [1123, 7303], [7304, 42571], [7777, 7835], [64261, 64262]]

end BindingStubs.Text
