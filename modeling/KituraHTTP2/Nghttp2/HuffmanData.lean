import KituraHTTP2.Lib.PrefixCode

/-!
# The tables of the Huffman code

`huffSymTable` and `huffDecodeTable` hold the numbers of `nghttp2_hd_huffman_data.c`.  A row of the
second one is the sixteen entries of a state in one numeral, five hexadecimal digits for each: two
for the state, one for the flags, two for the symbol.
-/

namespace KituraHTTP2.Nghttp2

/-- `huff_sym_table`: the number of bits of each word, and the word as a number.  The last one is
that of the terminal symbol. -/
def huffSymTable : List (ℕ × ℕ) := [
  (13, 0x1ff8), (23, 0x7fffd8), (28, 0xfffffe2), (28, 0xfffffe3), (28, 0xfffffe4), (28, 0xfffffe5),
  (28, 0xfffffe6), (28, 0xfffffe7), (28, 0xfffffe8), (24, 0xffffea), (30, 0x3ffffffc),
  (28, 0xfffffe9), (28, 0xfffffea), (30, 0x3ffffffd), (28, 0xfffffeb), (28, 0xfffffec),
  (28, 0xfffffed), (28, 0xfffffee), (28, 0xfffffef), (28, 0xffffff0), (28, 0xffffff1),
  (28, 0xffffff2), (30, 0x3ffffffe), (28, 0xffffff3), (28, 0xffffff4), (28, 0xffffff5),
  (28, 0xffffff6), (28, 0xffffff7), (28, 0xffffff8), (28, 0xffffff9), (28, 0xffffffa),
  (28, 0xffffffb), (6, 0x14), (10, 0x3f8), (10, 0x3f9), (12, 0xffa), (13, 0x1ff9), (6, 0x15),
  (8, 0xf8), (11, 0x7fa), (10, 0x3fa), (10, 0x3fb), (8, 0xf9), (11, 0x7fb), (8, 0xfa), (6, 0x16),
  (6, 0x17), (6, 0x18), (5, 0x0), (5, 0x1), (5, 0x2), (6, 0x19), (6, 0x1a), (6, 0x1b), (6, 0x1c),
  (6, 0x1d), (6, 0x1e), (6, 0x1f), (7, 0x5c), (8, 0xfb), (15, 0x7ffc), (6, 0x20), (12, 0xffb),
  (10, 0x3fc), (13, 0x1ffa), (6, 0x21), (7, 0x5d), (7, 0x5e), (7, 0x5f), (7, 0x60), (7, 0x61),
  (7, 0x62), (7, 0x63), (7, 0x64), (7, 0x65), (7, 0x66), (7, 0x67), (7, 0x68), (7, 0x69),
  (7, 0x6a), (7, 0x6b), (7, 0x6c), (7, 0x6d), (7, 0x6e), (7, 0x6f), (7, 0x70), (7, 0x71),
  (7, 0x72), (8, 0xfc), (7, 0x73), (8, 0xfd), (13, 0x1ffb), (19, 0x7fff0), (13, 0x1ffc),
  (14, 0x3ffc), (6, 0x22), (15, 0x7ffd), (5, 0x3), (6, 0x23), (5, 0x4), (6, 0x24), (5, 0x5),
  (6, 0x25), (6, 0x26), (6, 0x27), (5, 0x6), (7, 0x74), (7, 0x75), (6, 0x28), (6, 0x29), (6, 0x2a),
  (5, 0x7), (6, 0x2b), (7, 0x76), (6, 0x2c), (5, 0x8), (5, 0x9), (6, 0x2d), (7, 0x77), (7, 0x78),
  (7, 0x79), (7, 0x7a), (7, 0x7b), (15, 0x7ffe), (11, 0x7fc), (14, 0x3ffd), (13, 0x1ffd),
  (28, 0xffffffc), (20, 0xfffe6), (22, 0x3fffd2), (20, 0xfffe7), (20, 0xfffe8), (22, 0x3fffd3),
  (22, 0x3fffd4), (22, 0x3fffd5), (23, 0x7fffd9), (22, 0x3fffd6), (23, 0x7fffda), (23, 0x7fffdb),
  (23, 0x7fffdc), (23, 0x7fffdd), (23, 0x7fffde), (24, 0xffffeb), (23, 0x7fffdf), (24, 0xffffec),
  (24, 0xffffed), (22, 0x3fffd7), (23, 0x7fffe0), (24, 0xffffee), (23, 0x7fffe1), (23, 0x7fffe2),
  (23, 0x7fffe3), (23, 0x7fffe4), (21, 0x1fffdc), (22, 0x3fffd8), (23, 0x7fffe5), (22, 0x3fffd9),
  (23, 0x7fffe6), (23, 0x7fffe7), (24, 0xffffef), (22, 0x3fffda), (21, 0x1fffdd), (20, 0xfffe9),
  (22, 0x3fffdb), (22, 0x3fffdc), (23, 0x7fffe8), (23, 0x7fffe9), (21, 0x1fffde), (23, 0x7fffea),
  (22, 0x3fffdd), (22, 0x3fffde), (24, 0xfffff0), (21, 0x1fffdf), (22, 0x3fffdf), (23, 0x7fffeb),
  (23, 0x7fffec), (21, 0x1fffe0), (21, 0x1fffe1), (22, 0x3fffe0), (21, 0x1fffe2), (23, 0x7fffed),
  (22, 0x3fffe1), (23, 0x7fffee), (23, 0x7fffef), (20, 0xfffea), (22, 0x3fffe2), (22, 0x3fffe3),
  (22, 0x3fffe4), (23, 0x7ffff0), (22, 0x3fffe5), (22, 0x3fffe6), (23, 0x7ffff1), (26, 0x3ffffe0),
  (26, 0x3ffffe1), (20, 0xfffeb), (19, 0x7fff1), (22, 0x3fffe7), (23, 0x7ffff2), (22, 0x3fffe8),
  (25, 0x1ffffec), (26, 0x3ffffe2), (26, 0x3ffffe3), (26, 0x3ffffe4), (27, 0x7ffffde),
  (27, 0x7ffffdf), (26, 0x3ffffe5), (24, 0xfffff1), (25, 0x1ffffed), (19, 0x7fff2), (21, 0x1fffe3),
  (26, 0x3ffffe6), (27, 0x7ffffe0), (27, 0x7ffffe1), (26, 0x3ffffe7), (27, 0x7ffffe2),
  (24, 0xfffff2), (21, 0x1fffe4), (21, 0x1fffe5), (26, 0x3ffffe8), (26, 0x3ffffe9),
  (28, 0xffffffd), (27, 0x7ffffe3), (27, 0x7ffffe4), (27, 0x7ffffe5), (20, 0xfffec),
  (24, 0xfffff3), (20, 0xfffed), (21, 0x1fffe6), (22, 0x3fffe9), (21, 0x1fffe7), (21, 0x1fffe8),
  (23, 0x7ffff3), (22, 0x3fffea), (22, 0x3fffeb), (25, 0x1ffffee), (25, 0x1ffffef), (24, 0xfffff4),
  (24, 0xfffff5), (26, 0x3ffffea), (23, 0x7ffff4), (26, 0x3ffffeb), (27, 0x7ffffe6),
  (26, 0x3ffffec), (26, 0x3ffffed), (27, 0x7ffffe7), (27, 0x7ffffe8), (27, 0x7ffffe9),
  (27, 0x7ffffea), (27, 0x7ffffeb), (28, 0xffffffe), (27, 0x7ffffec), (27, 0x7ffffed),
  (27, 0x7ffffee), (27, 0x7ffffef), (27, 0x7fffff0), (26, 0x3ffffee), (30, 0x3fffffff)]

/-- `huff_decode_table`, row by row -/
def huffDecodeTable : List ℕ := [
  0x04000_05000_07000_08000_0b000_0c000_10000_13000_19000_1c000_20000_23000_2a000_31000_39000_40100,
  0x00330_00331_00332_00361_00363_00365_00369_0036f_00373_00374_0d000_0e000_11000_12000_14000_15000,
  0x01230_16330_01231_16331_01232_16332_01261_16361_01263_16363_01265_16365_01269_16369_0126f_1636f,
  0x02230_09230_17230_28330_02231_09231_17231_28331_02232_09232_17232_28332_02261_09261_17261_28361,
  0x03230_06230_0a230_0f230_18230_1f230_29230_38330_03231_06231_0a231_0f231_18231_1f231_29231_38331,
  0x03232_06232_0a232_0f232_18232_1f232_29232_38332_03261_06261_0a261_0f261_18261_1f261_29261_38361,
  0x02263_09263_17263_28363_02265_09265_17265_28365_02269_09269_17269_28369_0226f_0926f_1726f_2836f,
  0x03263_06263_0a263_0f263_18263_1f263_29263_38363_03265_06265_0a265_0f265_18265_1f265_29265_38365,
  0x03269_06269_0a269_0f269_18269_1f269_29269_38369_0326f_0626f_0a26f_0f26f_1826f_1f26f_2926f_3836f,
  0x01273_16373_01274_16374_00320_00325_0032d_0032e_0032f_00333_00334_00335_00336_00337_00338_00339,
  0x02273_09273_17273_28373_02274_09274_17274_28374_01220_16320_01225_16325_0122d_1632d_0122e_1632e,
  0x03273_06273_0a273_0f273_18273_1f273_29273_38373_03274_06274_0a274_0f274_18274_1f274_29274_38374,
  0x02220_09220_17220_28320_02225_09225_17225_28325_0222d_0922d_1722d_2832d_0222e_0922e_1722e_2832e,
  0x03220_06220_0a220_0f220_18220_1f220_29220_38320_03225_06225_0a225_0f225_18225_1f225_29225_38325,
  0x0322d_0622d_0a22d_0f22d_1822d_1f22d_2922d_3832d_0322e_0622e_0a22e_0f22e_1822e_1f22e_2922e_3832e,
  0x0122f_1632f_01233_16333_01234_16334_01235_16335_01236_16336_01237_16337_01238_16338_01239_16339,
  0x0222f_0922f_1722f_2832f_02233_09233_17233_28333_02234_09234_17234_28334_02235_09235_17235_28335,
  0x0322f_0622f_0a22f_0f22f_1822f_1f22f_2922f_3832f_03233_06233_0a233_0f233_18233_1f233_29233_38333,
  0x03234_06234_0a234_0f234_18234_1f234_29234_38334_03235_06235_0a235_0f235_18235_1f235_29235_38335,
  0x02236_09236_17236_28336_02237_09237_17237_28337_02238_09238_17238_28338_02239_09239_17239_28339,
  0x03236_06236_0a236_0f236_18236_1f236_29236_38336_03237_06237_0a237_0f237_18237_1f237_29237_38337,
  0x03238_06238_0a238_0f238_18238_1f238_29238_38338_03239_06239_0a239_0f239_18239_1f239_29239_38339,
  0x1a000_1b000_1d000_1e000_21000_22000_24000_25000_2b000_2e000_32000_35000_3a000_3d000_41000_44100,
  0x0033d_00341_0035f_00362_00364_00366_00367_00368_0036c_0036d_0036e_00370_00372_00375_26000_27000,
  0x0123d_1633d_01241_16341_0125f_1635f_01262_16362_01264_16364_01266_16366_01267_16367_01268_16368,
  0x0223d_0923d_1723d_2833d_02241_09241_17241_28341_0225f_0925f_1725f_2835f_02262_09262_17262_28362,
  0x0323d_0623d_0a23d_0f23d_1823d_1f23d_2923d_3833d_03241_06241_0a241_0f241_18241_1f241_29241_38341,
  0x0325f_0625f_0a25f_0f25f_1825f_1f25f_2925f_3835f_03262_06262_0a262_0f262_18262_1f262_29262_38362,
  0x02264_09264_17264_28364_02266_09266_17266_28366_02267_09267_17267_28367_02268_09268_17268_28368,
  0x03264_06264_0a264_0f264_18264_1f264_29264_38364_03266_06266_0a266_0f266_18266_1f266_29266_38366,
  0x03267_06267_0a267_0f267_18267_1f267_29267_38367_03268_06268_0a268_0f268_18268_1f268_29268_38368,
  0x0126c_1636c_0126d_1636d_0126e_1636e_01270_16370_01272_16372_01275_16375_0033a_00342_00343_00344,
  0x0226c_0926c_1726c_2836c_0226d_0926d_1726d_2836d_0226e_0926e_1726e_2836e_02270_09270_17270_28370,
  0x0326c_0626c_0a26c_0f26c_1826c_1f26c_2926c_3836c_0326d_0626d_0a26d_0f26d_1826d_1f26d_2926d_3836d,
  0x0326e_0626e_0a26e_0f26e_1826e_1f26e_2926e_3836e_03270_06270_0a270_0f270_18270_1f270_29270_38370,
  0x02272_09272_17272_28372_02275_09275_17275_28375_0123a_1633a_01242_16342_01243_16343_01244_16344,
  0x03272_06272_0a272_0f272_18272_1f272_29272_38372_03275_06275_0a275_0f275_18275_1f275_29275_38375,
  0x0223a_0923a_1723a_2833a_02242_09242_17242_28342_02243_09243_17243_28343_02244_09244_17244_28344,
  0x0323a_0623a_0a23a_0f23a_1823a_1f23a_2923a_3833a_03242_06242_0a242_0f242_18242_1f242_29242_38342,
  0x03243_06243_0a243_0f243_18243_1f243_29243_38343_03244_06244_0a244_0f244_18244_1f244_29244_38344,
  0x2c000_2d000_2f000_30000_33000_34000_36000_37000_3b000_3c000_3e000_3f000_42000_43000_45000_48100,
  0x00345_00346_00347_00348_00349_0034a_0034b_0034c_0034d_0034e_0034f_00350_00351_00352_00353_00354,
  0x01245_16345_01246_16346_01247_16347_01248_16348_01249_16349_0124a_1634a_0124b_1634b_0124c_1634c,
  0x02245_09245_17245_28345_02246_09246_17246_28346_02247_09247_17247_28347_02248_09248_17248_28348,
  0x03245_06245_0a245_0f245_18245_1f245_29245_38345_03246_06246_0a246_0f246_18246_1f246_29246_38346,
  0x03247_06247_0a247_0f247_18247_1f247_29247_38347_03248_06248_0a248_0f248_18248_1f248_29248_38348,
  0x02249_09249_17249_28349_0224a_0924a_1724a_2834a_0224b_0924b_1724b_2834b_0224c_0924c_1724c_2834c,
  0x03249_06249_0a249_0f249_18249_1f249_29249_38349_0324a_0624a_0a24a_0f24a_1824a_1f24a_2924a_3834a,
  0x0324b_0624b_0a24b_0f24b_1824b_1f24b_2924b_3834b_0324c_0624c_0a24c_0f24c_1824c_1f24c_2924c_3834c,
  0x0124d_1634d_0124e_1634e_0124f_1634f_01250_16350_01251_16351_01252_16352_01253_16353_01254_16354,
  0x0224d_0924d_1724d_2834d_0224e_0924e_1724e_2834e_0224f_0924f_1724f_2834f_02250_09250_17250_28350,
  0x0324d_0624d_0a24d_0f24d_1824d_1f24d_2924d_3834d_0324e_0624e_0a24e_0f24e_1824e_1f24e_2924e_3834e,
  0x0324f_0624f_0a24f_0f24f_1824f_1f24f_2924f_3834f_03250_06250_0a250_0f250_18250_1f250_29250_38350,
  0x02251_09251_17251_28351_02252_09252_17252_28352_02253_09253_17253_28353_02254_09254_17254_28354,
  0x03251_06251_0a251_0f251_18251_1f251_29251_38351_03252_06252_0a252_0f252_18252_1f252_29252_38352,
  0x03253_06253_0a253_0f253_18253_1f253_29253_38353_03254_06254_0a254_0f254_18254_1f254_29254_38354,
  0x00355_00356_00357_00359_0036a_0036b_00371_00376_00377_00378_00379_0037a_46000_47000_49000_4a100,
  0x01255_16355_01256_16356_01257_16357_01259_16359_0126a_1636a_0126b_1636b_01271_16371_01276_16376,
  0x02255_09255_17255_28355_02256_09256_17256_28356_02257_09257_17257_28357_02259_09259_17259_28359,
  0x03255_06255_0a255_0f255_18255_1f255_29255_38355_03256_06256_0a256_0f256_18256_1f256_29256_38356,
  0x03257_06257_0a257_0f257_18257_1f257_29257_38357_03259_06259_0a259_0f259_18259_1f259_29259_38359,
  0x0226a_0926a_1726a_2836a_0226b_0926b_1726b_2836b_02271_09271_17271_28371_02276_09276_17276_28376,
  0x0326a_0626a_0a26a_0f26a_1826a_1f26a_2926a_3836a_0326b_0626b_0a26b_0f26b_1826b_1f26b_2926b_3836b,
  0x03271_06271_0a271_0f271_18271_1f271_29271_38371_03276_06276_0a276_0f276_18276_1f276_29276_38376,
  0x01277_16377_01278_16378_01279_16379_0127a_1637a_00326_0032a_0032c_0033b_00358_0035a_4b000_4e000,
  0x02277_09277_17277_28377_02278_09278_17278_28378_02279_09279_17279_28379_0227a_0927a_1727a_2837a,
  0x03277_06277_0a277_0f277_18277_1f277_29277_38377_03278_06278_0a278_0f278_18278_1f278_29278_38378,
  0x03279_06279_0a279_0f279_18279_1f279_29279_38379_0327a_0627a_0a27a_0f27a_1827a_1f27a_2927a_3837a,
  0x01226_16326_0122a_1632a_0122c_1632c_0123b_1633b_01258_16358_0125a_1635a_4c000_4d000_4f000_51000,
  0x02226_09226_17226_28326_0222a_0922a_1722a_2832a_0222c_0922c_1722c_2832c_0223b_0923b_1723b_2833b,
  0x03226_06226_0a226_0f226_18226_1f226_29226_38326_0322a_0622a_0a22a_0f22a_1822a_1f22a_2922a_3832a,
  0x0322c_0622c_0a22c_0f22c_1822c_1f22c_2922c_3832c_0323b_0623b_0a23b_0f23b_1823b_1f23b_2923b_3833b,
  0x02258_09258_17258_28358_0225a_0925a_1725a_2835a_00321_00322_00328_00329_0033f_50000_52000_54000,
  0x03258_06258_0a258_0f258_18258_1f258_29258_38358_0325a_0625a_0a25a_0f25a_1825a_1f25a_2925a_3835a,
  0x01221_16321_01222_16322_01228_16328_01229_16329_0123f_1633f_00327_0032b_0037c_53000_55000_58000,
  0x02221_09221_17221_28321_02222_09222_17222_28322_02228_09228_17228_28328_02229_09229_17229_28329,
  0x03221_06221_0a221_0f221_18221_1f221_29221_38321_03222_06222_0a222_0f222_18222_1f222_29222_38322,
  0x03228_06228_0a228_0f228_18228_1f228_29228_38328_03229_06229_0a229_0f229_18229_1f229_29229_38329,
  0x0223f_0923f_1723f_2833f_01227_16327_0122b_1632b_0127c_1637c_00323_0033e_56000_57000_59000_5a000,
  0x0323f_0623f_0a23f_0f23f_1823f_1f23f_2923f_3833f_02227_09227_17227_28327_0222b_0922b_1722b_2832b,
  0x03227_06227_0a227_0f227_18227_1f227_29227_38327_0322b_0622b_0a22b_0f22b_1822b_1f22b_2922b_3832b,
  0x0227c_0927c_1727c_2837c_01223_16323_0123e_1633e_00300_00324_00340_0035b_0035d_0037e_5b000_5c000,
  0x0327c_0627c_0a27c_0f27c_1827c_1f27c_2927c_3837c_02223_09223_17223_28323_0223e_0923e_1723e_2833e,
  0x03223_06223_0a223_0f223_18223_1f223_29223_38323_0323e_0623e_0a23e_0f23e_1823e_1f23e_2923e_3833e,
  0x01200_16300_01224_16324_01240_16340_0125b_1635b_0125d_1635d_0127e_1637e_0035e_0037d_5d000_5e000,
  0x02200_09200_17200_28300_02224_09224_17224_28324_02240_09240_17240_28340_0225b_0925b_1725b_2835b,
  0x03200_06200_0a200_0f200_18200_1f200_29200_38300_03224_06224_0a224_0f224_18224_1f224_29224_38324,
  0x03240_06240_0a240_0f240_18240_1f240_29240_38340_0325b_0625b_0a25b_0f25b_1825b_1f25b_2925b_3835b,
  0x0225d_0925d_1725d_2835d_0227e_0927e_1727e_2837e_0125e_1635e_0127d_1637d_0033c_00360_0037b_5f000,
  0x0325d_0625d_0a25d_0f25d_1825d_1f25d_2925d_3835d_0327e_0627e_0a27e_0f27e_1827e_1f27e_2927e_3837e,
  0x0225e_0925e_1725e_2835e_0227d_0927d_1727d_2837d_0123c_1633c_01260_16360_0127b_1637b_60000_6e000,
  0x0325e_0625e_0a25e_0f25e_1825e_1f25e_2925e_3835e_0327d_0627d_0a27d_0f27d_1827d_1f27d_2927d_3837d,
  0x0223c_0923c_1723c_2833c_02260_09260_17260_28360_0227b_0927b_1727b_2837b_61000_65000_6f000_85000,
  0x0323c_0623c_0a23c_0f23c_1823c_1f23c_2923c_3833c_03260_06260_0a260_0f260_18260_1f260_29260_38360,
  0x0327b_0627b_0a27b_0f27b_1827b_1f27b_2927b_3837b_62000_63000_66000_69000_70000_77000_86000_99000,
  0x0035c_003c3_003d0_64000_67000_68000_6a000_6b000_71000_74000_78000_7e000_87000_8e000_9a000_a9000,
  0x0125c_1635c_012c3_163c3_012d0_163d0_00380_00382_00383_003a2_003b8_003c2_003e0_003e2_6c000_6d000,
  0x0225c_0925c_1725c_2835c_022c3_092c3_172c3_283c3_022d0_092d0_172d0_283d0_01280_16380_01282_16382,
  0x0325c_0625c_0a25c_0f25c_1825c_1f25c_2925c_3835c_032c3_062c3_0a2c3_0f2c3_182c3_1f2c3_292c3_383c3,
  0x032d0_062d0_0a2d0_0f2d0_182d0_1f2d0_292d0_383d0_02280_09280_17280_28380_02282_09282_17282_28382,
  0x03280_06280_0a280_0f280_18280_1f280_29280_38380_03282_06282_0a282_0f282_18282_1f282_29282_38382,
  0x01283_16383_012a2_163a2_012b8_163b8_012c2_163c2_012e0_163e0_012e2_163e2_00399_003a1_003a7_003ac,
  0x02283_09283_17283_28383_022a2_092a2_172a2_283a2_022b8_092b8_172b8_283b8_022c2_092c2_172c2_283c2,
  0x03283_06283_0a283_0f283_18283_1f283_29283_38383_032a2_062a2_0a2a2_0f2a2_182a2_1f2a2_292a2_383a2,
  0x032b8_062b8_0a2b8_0f2b8_182b8_1f2b8_292b8_383b8_032c2_062c2_0a2c2_0f2c2_182c2_1f2c2_292c2_383c2,
  0x022e0_092e0_172e0_283e0_022e2_092e2_172e2_283e2_01299_16399_012a1_163a1_012a7_163a7_012ac_163ac,
  0x032e0_062e0_0a2e0_0f2e0_182e0_1f2e0_292e0_383e0_032e2_062e2_0a2e2_0f2e2_182e2_1f2e2_292e2_383e2,
  0x02299_09299_17299_28399_022a1_092a1_172a1_283a1_022a7_092a7_172a7_283a7_022ac_092ac_172ac_283ac,
  0x03299_06299_0a299_0f299_18299_1f299_29299_38399_032a1_062a1_0a2a1_0f2a1_182a1_1f2a1_292a1_383a1,
  0x032a7_062a7_0a2a7_0f2a7_182a7_1f2a7_292a7_383a7_032ac_062ac_0a2ac_0f2ac_182ac_1f2ac_292ac_383ac,
  0x72000_73000_75000_76000_79000_7b000_7f000_82000_88000_8b000_8f000_92000_9b000_a2000_aa000_b4000,
  0x003b0_003b1_003b3_003d1_003d8_003d9_003e3_003e5_003e6_7a000_7c000_7d000_80000_81000_83000_84000,
  0x012b0_163b0_012b1_163b1_012b3_163b3_012d1_163d1_012d8_163d8_012d9_163d9_012e3_163e3_012e5_163e5,
  0x022b0_092b0_172b0_283b0_022b1_092b1_172b1_283b1_022b3_092b3_172b3_283b3_022d1_092d1_172d1_283d1,
  0x032b0_062b0_0a2b0_0f2b0_182b0_1f2b0_292b0_383b0_032b1_062b1_0a2b1_0f2b1_182b1_1f2b1_292b1_383b1,
  0x032b3_062b3_0a2b3_0f2b3_182b3_1f2b3_292b3_383b3_032d1_062d1_0a2d1_0f2d1_182d1_1f2d1_292d1_383d1,
  0x022d8_092d8_172d8_283d8_022d9_092d9_172d9_283d9_022e3_092e3_172e3_283e3_022e5_092e5_172e5_283e5,
  0x032d8_062d8_0a2d8_0f2d8_182d8_1f2d8_292d8_383d8_032d9_062d9_0a2d9_0f2d9_182d9_1f2d9_292d9_383d9,
  0x032e3_062e3_0a2e3_0f2e3_182e3_1f2e3_292e3_383e3_032e5_062e5_0a2e5_0f2e5_182e5_1f2e5_292e5_383e5,
  0x012e6_163e6_00381_00384_00385_00386_00388_00392_0039a_0039c_003a0_003a3_003a4_003a9_003aa_003ad,
  0x022e6_092e6_172e6_283e6_01281_16381_01284_16384_01285_16385_01286_16386_01288_16388_01292_16392,
  0x032e6_062e6_0a2e6_0f2e6_182e6_1f2e6_292e6_383e6_02281_09281_17281_28381_02284_09284_17284_28384,
  0x03281_06281_0a281_0f281_18281_1f281_29281_38381_03284_06284_0a284_0f284_18284_1f284_29284_38384,
  0x02285_09285_17285_28385_02286_09286_17286_28386_02288_09288_17288_28388_02292_09292_17292_28392,
  0x03285_06285_0a285_0f285_18285_1f285_29285_38385_03286_06286_0a286_0f286_18286_1f286_29286_38386,
  0x03288_06288_0a288_0f288_18288_1f288_29288_38388_03292_06292_0a292_0f292_18292_1f292_29292_38392,
  0x0129a_1639a_0129c_1639c_012a0_163a0_012a3_163a3_012a4_163a4_012a9_163a9_012aa_163aa_012ad_163ad,
  0x0229a_0929a_1729a_2839a_0229c_0929c_1729c_2839c_022a0_092a0_172a0_283a0_022a3_092a3_172a3_283a3,
  0x0329a_0629a_0a29a_0f29a_1829a_1f29a_2929a_3839a_0329c_0629c_0a29c_0f29c_1829c_1f29c_2929c_3839c,
  0x032a0_062a0_0a2a0_0f2a0_182a0_1f2a0_292a0_383a0_032a3_062a3_0a2a3_0f2a3_182a3_1f2a3_292a3_383a3,
  0x022a4_092a4_172a4_283a4_022a9_092a9_172a9_283a9_022aa_092aa_172aa_283aa_022ad_092ad_172ad_283ad,
  0x032a4_062a4_0a2a4_0f2a4_182a4_1f2a4_292a4_383a4_032a9_062a9_0a2a9_0f2a9_182a9_1f2a9_292a9_383a9,
  0x032aa_062aa_0a2aa_0f2aa_182aa_1f2aa_292aa_383aa_032ad_062ad_0a2ad_0f2ad_182ad_1f2ad_292ad_383ad,
  0x89000_8a000_8c000_8d000_90000_91000_93000_96000_9c000_9f000_a3000_a6000_ab000_ae000_b5000_be000,
  0x003b2_003b5_003b9_003ba_003bb_003bd_003be_003c4_003c6_003e4_003e8_003e9_94000_95000_97000_98000,
  0x012b2_163b2_012b5_163b5_012b9_163b9_012ba_163ba_012bb_163bb_012bd_163bd_012be_163be_012c4_163c4,
  0x022b2_092b2_172b2_283b2_022b5_092b5_172b5_283b5_022b9_092b9_172b9_283b9_022ba_092ba_172ba_283ba,
  0x032b2_062b2_0a2b2_0f2b2_182b2_1f2b2_292b2_383b2_032b5_062b5_0a2b5_0f2b5_182b5_1f2b5_292b5_383b5,
  0x032b9_062b9_0a2b9_0f2b9_182b9_1f2b9_292b9_383b9_032ba_062ba_0a2ba_0f2ba_182ba_1f2ba_292ba_383ba,
  0x022bb_092bb_172bb_283bb_022bd_092bd_172bd_283bd_022be_092be_172be_283be_022c4_092c4_172c4_283c4,
  0x032bb_062bb_0a2bb_0f2bb_182bb_1f2bb_292bb_383bb_032bd_062bd_0a2bd_0f2bd_182bd_1f2bd_292bd_383bd,
  0x032be_062be_0a2be_0f2be_182be_1f2be_292be_383be_032c4_062c4_0a2c4_0f2c4_182c4_1f2c4_292c4_383c4,
  0x012c6_163c6_012e4_163e4_012e8_163e8_012e9_163e9_00301_00387_00389_0038a_0038b_0038c_0038d_0038f,
  0x022c6_092c6_172c6_283c6_022e4_092e4_172e4_283e4_022e8_092e8_172e8_283e8_022e9_092e9_172e9_283e9,
  0x032c6_062c6_0a2c6_0f2c6_182c6_1f2c6_292c6_383c6_032e4_062e4_0a2e4_0f2e4_182e4_1f2e4_292e4_383e4,
  0x032e8_062e8_0a2e8_0f2e8_182e8_1f2e8_292e8_383e8_032e9_062e9_0a2e9_0f2e9_182e9_1f2e9_292e9_383e9,
  0x01201_16301_01287_16387_01289_16389_0128a_1638a_0128b_1638b_0128c_1638c_0128d_1638d_0128f_1638f,
  0x02201_09201_17201_28301_02287_09287_17287_28387_02289_09289_17289_28389_0228a_0928a_1728a_2838a,
  0x03201_06201_0a201_0f201_18201_1f201_29201_38301_03287_06287_0a287_0f287_18287_1f287_29287_38387,
  0x03289_06289_0a289_0f289_18289_1f289_29289_38389_0328a_0628a_0a28a_0f28a_1828a_1f28a_2928a_3838a,
  0x0228b_0928b_1728b_2838b_0228c_0928c_1728c_2838c_0228d_0928d_1728d_2838d_0228f_0928f_1728f_2838f,
  0x0328b_0628b_0a28b_0f28b_1828b_1f28b_2928b_3838b_0328c_0628c_0a28c_0f28c_1828c_1f28c_2928c_3838c,
  0x0328d_0628d_0a28d_0f28d_1828d_1f28d_2928d_3838d_0328f_0628f_0a28f_0f28f_1828f_1f28f_2928f_3838f,
  0x9d000_9e000_a0000_a1000_a4000_a5000_a7000_a8000_ac000_ad000_af000_b1000_b6000_b9000_bf000_cf000,
  0x00393_00395_00396_00397_00398_0039b_0039d_0039e_003a5_003a6_003a8_003ae_003af_003b4_003b6_003b7,
  0x01293_16393_01295_16395_01296_16396_01297_16397_01298_16398_0129b_1639b_0129d_1639d_0129e_1639e,
  0x02293_09293_17293_28393_02295_09295_17295_28395_02296_09296_17296_28396_02297_09297_17297_28397,
  0x03293_06293_0a293_0f293_18293_1f293_29293_38393_03295_06295_0a295_0f295_18295_1f295_29295_38395,
  0x03296_06296_0a296_0f296_18296_1f296_29296_38396_03297_06297_0a297_0f297_18297_1f297_29297_38397,
  0x02298_09298_17298_28398_0229b_0929b_1729b_2839b_0229d_0929d_1729d_2839d_0229e_0929e_1729e_2839e,
  0x03298_06298_0a298_0f298_18298_1f298_29298_38398_0329b_0629b_0a29b_0f29b_1829b_1f29b_2929b_3839b,
  0x0329d_0629d_0a29d_0f29d_1829d_1f29d_2929d_3839d_0329e_0629e_0a29e_0f29e_1829e_1f29e_2929e_3839e,
  0x012a5_163a5_012a6_163a6_012a8_163a8_012ae_163ae_012af_163af_012b4_163b4_012b6_163b6_012b7_163b7,
  0x022a5_092a5_172a5_283a5_022a6_092a6_172a6_283a6_022a8_092a8_172a8_283a8_022ae_092ae_172ae_283ae,
  0x032a5_062a5_0a2a5_0f2a5_182a5_1f2a5_292a5_383a5_032a6_062a6_0a2a6_0f2a6_182a6_1f2a6_292a6_383a6,
  0x032a8_062a8_0a2a8_0f2a8_182a8_1f2a8_292a8_383a8_032ae_062ae_0a2ae_0f2ae_182ae_1f2ae_292ae_383ae,
  0x022af_092af_172af_283af_022b4_092b4_172b4_283b4_022b6_092b6_172b6_283b6_022b7_092b7_172b7_283b7,
  0x032af_062af_0a2af_0f2af_182af_1f2af_292af_383af_032b4_062b4_0a2b4_0f2b4_182b4_1f2b4_292b4_383b4,
  0x032b6_062b6_0a2b6_0f2b6_182b6_1f2b6_292b6_383b6_032b7_062b7_0a2b7_0f2b7_182b7_1f2b7_292b7_383b7,
  0x003bc_003bf_003c5_003e7_003ef_b0000_b2000_b3000_b7000_b8000_ba000_bb000_c0000_c7000_d0000_df000,
  0x012bc_163bc_012bf_163bf_012c5_163c5_012e7_163e7_012ef_163ef_00309_0038e_00390_00391_00394_0039f,
  0x022bc_092bc_172bc_283bc_022bf_092bf_172bf_283bf_022c5_092c5_172c5_283c5_022e7_092e7_172e7_283e7,
  0x032bc_062bc_0a2bc_0f2bc_182bc_1f2bc_292bc_383bc_032bf_062bf_0a2bf_0f2bf_182bf_1f2bf_292bf_383bf,
  0x032c5_062c5_0a2c5_0f2c5_182c5_1f2c5_292c5_383c5_032e7_062e7_0a2e7_0f2e7_182e7_1f2e7_292e7_383e7,
  0x022ef_092ef_172ef_283ef_01209_16309_0128e_1638e_01290_16390_01291_16391_01294_16394_0129f_1639f,
  0x032ef_062ef_0a2ef_0f2ef_182ef_1f2ef_292ef_383ef_02209_09209_17209_28309_0228e_0928e_1728e_2838e,
  0x03209_06209_0a209_0f209_18209_1f209_29209_38309_0328e_0628e_0a28e_0f28e_1828e_1f28e_2928e_3838e,
  0x02290_09290_17290_28390_02291_09291_17291_28391_02294_09294_17294_28394_0229f_0929f_1729f_2839f,
  0x03290_06290_0a290_0f290_18290_1f290_29290_38390_03291_06291_0a291_0f291_18291_1f291_29291_38391,
  0x03294_06294_0a294_0f294_18294_1f294_29294_38394_0329f_0629f_0a29f_0f29f_1829f_1f29f_2929f_3839f,
  0x003ab_003ce_003d7_003e1_003ec_003ed_bc000_bd000_c1000_c4000_c8000_cb000_d1000_d8000_e0000_ee000,
  0x012ab_163ab_012ce_163ce_012d7_163d7_012e1_163e1_012ec_163ec_012ed_163ed_003c7_003cf_003ea_003eb,
  0x022ab_092ab_172ab_283ab_022ce_092ce_172ce_283ce_022d7_092d7_172d7_283d7_022e1_092e1_172e1_283e1,
  0x032ab_062ab_0a2ab_0f2ab_182ab_1f2ab_292ab_383ab_032ce_062ce_0a2ce_0f2ce_182ce_1f2ce_292ce_383ce,
  0x032d7_062d7_0a2d7_0f2d7_182d7_1f2d7_292d7_383d7_032e1_062e1_0a2e1_0f2e1_182e1_1f2e1_292e1_383e1,
  0x022ec_092ec_172ec_283ec_022ed_092ed_172ed_283ed_012c7_163c7_012cf_163cf_012ea_163ea_012eb_163eb,
  0x032ec_062ec_0a2ec_0f2ec_182ec_1f2ec_292ec_383ec_032ed_062ed_0a2ed_0f2ed_182ed_1f2ed_292ed_383ed,
  0x022c7_092c7_172c7_283c7_022cf_092cf_172cf_283cf_022ea_092ea_172ea_283ea_022eb_092eb_172eb_283eb,
  0x032c7_062c7_0a2c7_0f2c7_182c7_1f2c7_292c7_383c7_032cf_062cf_0a2cf_0f2cf_182cf_1f2cf_292cf_383cf,
  0x032ea_062ea_0a2ea_0f2ea_182ea_1f2ea_292ea_383ea_032eb_062eb_0a2eb_0f2eb_182eb_1f2eb_292eb_383eb,
  0xc2000_c3000_c5000_c6000_c9000_ca000_cc000_cd000_d2000_d5000_d9000_dc000_e1000_e7000_ef000_f6000,
  0x003c0_003c1_003c8_003c9_003ca_003cd_003d2_003d5_003da_003db_003ee_003f0_003f2_003f3_003ff_ce000,
  0x012c0_163c0_012c1_163c1_012c8_163c8_012c9_163c9_012ca_163ca_012cd_163cd_012d2_163d2_012d5_163d5,
  0x022c0_092c0_172c0_283c0_022c1_092c1_172c1_283c1_022c8_092c8_172c8_283c8_022c9_092c9_172c9_283c9,
  0x032c0_062c0_0a2c0_0f2c0_182c0_1f2c0_292c0_383c0_032c1_062c1_0a2c1_0f2c1_182c1_1f2c1_292c1_383c1,
  0x032c8_062c8_0a2c8_0f2c8_182c8_1f2c8_292c8_383c8_032c9_062c9_0a2c9_0f2c9_182c9_1f2c9_292c9_383c9,
  0x022ca_092ca_172ca_283ca_022cd_092cd_172cd_283cd_022d2_092d2_172d2_283d2_022d5_092d5_172d5_283d5,
  0x032ca_062ca_0a2ca_0f2ca_182ca_1f2ca_292ca_383ca_032cd_062cd_0a2cd_0f2cd_182cd_1f2cd_292cd_383cd,
  0x032d2_062d2_0a2d2_0f2d2_182d2_1f2d2_292d2_383d2_032d5_062d5_0a2d5_0f2d5_182d5_1f2d5_292d5_383d5,
  0x012da_163da_012db_163db_012ee_163ee_012f0_163f0_012f2_163f2_012f3_163f3_012ff_163ff_003cb_003cc,
  0x022da_092da_172da_283da_022db_092db_172db_283db_022ee_092ee_172ee_283ee_022f0_092f0_172f0_283f0,
  0x032da_062da_0a2da_0f2da_182da_1f2da_292da_383da_032db_062db_0a2db_0f2db_182db_1f2db_292db_383db,
  0x032ee_062ee_0a2ee_0f2ee_182ee_1f2ee_292ee_383ee_032f0_062f0_0a2f0_0f2f0_182f0_1f2f0_292f0_383f0,
  0x022f2_092f2_172f2_283f2_022f3_092f3_172f3_283f3_022ff_092ff_172ff_283ff_012cb_163cb_012cc_163cc,
  0x032f2_062f2_0a2f2_0f2f2_182f2_1f2f2_292f2_383f2_032f3_062f3_0a2f3_0f2f3_182f3_1f2f3_292f3_383f3,
  0x032ff_062ff_0a2ff_0f2ff_182ff_1f2ff_292ff_383ff_022cb_092cb_172cb_283cb_022cc_092cc_172cc_283cc,
  0x032cb_062cb_0a2cb_0f2cb_182cb_1f2cb_292cb_383cb_032cc_062cc_0a2cc_0f2cc_182cc_1f2cc_292cc_383cc,
  0xd3000_d4000_d6000_d7000_da000_db000_dd000_de000_e2000_e4000_e8000_eb000_f0000_f3000_f7000_fa000,
  0x003d3_003d4_003d6_003dd_003de_003df_003f1_003f4_003f5_003f6_003f7_003f8_003fa_003fb_003fc_003fd,
  0x012d3_163d3_012d4_163d4_012d6_163d6_012dd_163dd_012de_163de_012df_163df_012f1_163f1_012f4_163f4,
  0x022d3_092d3_172d3_283d3_022d4_092d4_172d4_283d4_022d6_092d6_172d6_283d6_022dd_092dd_172dd_283dd,
  0x032d3_062d3_0a2d3_0f2d3_182d3_1f2d3_292d3_383d3_032d4_062d4_0a2d4_0f2d4_182d4_1f2d4_292d4_383d4,
  0x032d6_062d6_0a2d6_0f2d6_182d6_1f2d6_292d6_383d6_032dd_062dd_0a2dd_0f2dd_182dd_1f2dd_292dd_383dd,
  0x022de_092de_172de_283de_022df_092df_172df_283df_022f1_092f1_172f1_283f1_022f4_092f4_172f4_283f4,
  0x032de_062de_0a2de_0f2de_182de_1f2de_292de_383de_032df_062df_0a2df_0f2df_182df_1f2df_292df_383df,
  0x032f1_062f1_0a2f1_0f2f1_182f1_1f2f1_292f1_383f1_032f4_062f4_0a2f4_0f2f4_182f4_1f2f4_292f4_383f4,
  0x012f5_163f5_012f6_163f6_012f7_163f7_012f8_163f8_012fa_163fa_012fb_163fb_012fc_163fc_012fd_163fd,
  0x022f5_092f5_172f5_283f5_022f6_092f6_172f6_283f6_022f7_092f7_172f7_283f7_022f8_092f8_172f8_283f8,
  0x032f5_062f5_0a2f5_0f2f5_182f5_1f2f5_292f5_383f5_032f6_062f6_0a2f6_0f2f6_182f6_1f2f6_292f6_383f6,
  0x032f7_062f7_0a2f7_0f2f7_182f7_1f2f7_292f7_383f7_032f8_062f8_0a2f8_0f2f8_182f8_1f2f8_292f8_383f8,
  0x022fa_092fa_172fa_283fa_022fb_092fb_172fb_283fb_022fc_092fc_172fc_283fc_022fd_092fd_172fd_283fd,
  0x032fa_062fa_0a2fa_0f2fa_182fa_1f2fa_292fa_383fa_032fb_062fb_0a2fb_0f2fb_182fb_1f2fb_292fb_383fb,
  0x032fc_062fc_0a2fc_0f2fc_182fc_1f2fc_292fc_383fc_032fd_062fd_0a2fd_0f2fd_182fd_1f2fd_292fd_383fd,
  0x003fe_e3000_e5000_e6000_e9000_ea000_ec000_ed000_f1000_f2000_f4000_f5000_f8000_f9000_fb000_fc000,
  0x012fe_163fe_00302_00303_00304_00305_00306_00307_00308_0030b_0030c_0030e_0030f_00310_00311_00312,
  0x022fe_092fe_172fe_283fe_01202_16302_01203_16303_01204_16304_01205_16305_01206_16306_01207_16307,
  0x032fe_062fe_0a2fe_0f2fe_182fe_1f2fe_292fe_383fe_02202_09202_17202_28302_02203_09203_17203_28303,
  0x03202_06202_0a202_0f202_18202_1f202_29202_38302_03203_06203_0a203_0f203_18203_1f203_29203_38303,
  0x02204_09204_17204_28304_02205_09205_17205_28305_02206_09206_17206_28306_02207_09207_17207_28307,
  0x03204_06204_0a204_0f204_18204_1f204_29204_38304_03205_06205_0a205_0f205_18205_1f205_29205_38305,
  0x03206_06206_0a206_0f206_18206_1f206_29206_38306_03207_06207_0a207_0f207_18207_1f207_29207_38307,
  0x01208_16308_0120b_1630b_0120c_1630c_0120e_1630e_0120f_1630f_01210_16310_01211_16311_01212_16312,
  0x02208_09208_17208_28308_0220b_0920b_1720b_2830b_0220c_0920c_1720c_2830c_0220e_0920e_1720e_2830e,
  0x03208_06208_0a208_0f208_18208_1f208_29208_38308_0320b_0620b_0a20b_0f20b_1820b_1f20b_2920b_3830b,
  0x0320c_0620c_0a20c_0f20c_1820c_1f20c_2920c_3830c_0320e_0620e_0a20e_0f20e_1820e_1f20e_2920e_3830e,
  0x0220f_0920f_1720f_2830f_02210_09210_17210_28310_02211_09211_17211_28311_02212_09212_17212_28312,
  0x0320f_0620f_0a20f_0f20f_1820f_1f20f_2920f_3830f_03210_06210_0a210_0f210_18210_1f210_29210_38310,
  0x03211_06211_0a211_0f211_18211_1f211_29211_38311_03212_06212_0a212_0f212_18212_1f212_29212_38312,
  0x00313_00314_00315_00317_00318_00319_0031a_0031b_0031c_0031d_0031e_0031f_0037f_003dc_003f9_fd000,
  0x01213_16313_01214_16314_01215_16315_01217_16317_01218_16318_01219_16319_0121a_1631a_0121b_1631b,
  0x02213_09213_17213_28313_02214_09214_17214_28314_02215_09215_17215_28315_02217_09217_17217_28317,
  0x03213_06213_0a213_0f213_18213_1f213_29213_38313_03214_06214_0a214_0f214_18214_1f214_29214_38314,
  0x03215_06215_0a215_0f215_18215_1f215_29215_38315_03217_06217_0a217_0f217_18217_1f217_29217_38317,
  0x02218_09218_17218_28318_02219_09219_17219_28319_0221a_0921a_1721a_2831a_0221b_0921b_1721b_2831b,
  0x03218_06218_0a218_0f218_18218_1f218_29218_38318_03219_06219_0a219_0f219_18219_1f219_29219_38319,
  0x0321a_0621a_0a21a_0f21a_1821a_1f21a_2921a_3831a_0321b_0621b_0a21b_0f21b_1821b_1f21b_2921b_3831b,
  0x0121c_1631c_0121d_1631d_0121e_1631e_0121f_1631f_0127f_1637f_012dc_163dc_012f9_163f9_fe000_ff000,
  0x0221c_0921c_1721c_2831c_0221d_0921d_1721d_2831d_0221e_0921e_1721e_2831e_0221f_0921f_1721f_2831f,
  0x0321c_0621c_0a21c_0f21c_1821c_1f21c_2921c_3831c_0321d_0621d_0a21d_0f21d_1821d_1f21d_2921d_3831d,
  0x0321e_0621e_0a21e_0f21e_1821e_1f21e_2921e_3831e_0321f_0621f_0a21f_0f21f_1821f_1f21f_2921f_3831f,
  0x0227f_0927f_1727f_2837f_022dc_092dc_172dc_283dc_022f9_092f9_172f9_283f9_0030a_0030d_00316_00400,
  0x0327f_0627f_0a27f_0f27f_1827f_1f27f_2927f_3837f_032dc_062dc_0a2dc_0f2dc_182dc_1f2dc_292dc_383dc,
  0x032f9_062f9_0a2f9_0f2f9_182f9_1f2f9_292f9_383f9_0120a_1630a_0120d_1630d_01216_16316_00400_00400,
  0x0220a_0920a_1720a_2830a_0220d_0920d_1720d_2830d_02216_09216_17216_28316_00400_00400_00400_00400,
  0x0320a_0620a_0a20a_0f20a_1820a_1f20a_2920a_3830a_0320d_0620d_0a20d_0f20d_1820d_1f20d_2920d_3830d,
  0x03216_06216_0a216_0f216_18216_1f216_29216_38316_00400_00400_00400_00400_00400_00400_00400_00400]

end KituraHTTP2.Nghttp2
