/-
  TemplateEngine.Text.PropertyTable — characters with a yes-or-no property, by Unicode 16.

  Only properties that do not follow from others and from general categories. The names
  that begin with `other` hold what such a rule leaves out.
-/

namespace TemplateEngine.Text.Property

def otherAlphabetic : List (Nat × Nat) :=
  [(837, 837), (867, 879), (1456, 1469), (1471, 1471), (1473, 1474), (1476, 1477), (1479, 1479),
    (1552, 1562), (1611, 1623), (1625, 1631), (1648, 1648), (1750, 1756), (1761, 1764),
    (1767, 1768), (1773, 1773), (1809, 1809), (1840, 1855), (1958, 1968), (2070, 2071),
    (2075, 2083), (2085, 2087), (2089, 2092), (2199, 2199), (2260, 2271), (2275, 2281),
    (2288, 2307), (2362, 2363), (2366, 2380), (2382, 2383), (2389, 2391), (2402, 2403),
    (2433, 2435), (2494, 2500), (2503, 2504), (2507, 2508), (2519, 2519), (2530, 2531),
    (2561, 2563), (2622, 2626), (2631, 2632), (2635, 2636), (2641, 2641), (2672, 2673),
    (2677, 2677), (2689, 2691), (2750, 2757), (2759, 2761), (2763, 2764), (2786, 2787),
    (2810, 2812), (2817, 2819), (2878, 2884), (2887, 2888), (2891, 2892), (2902, 2903),
    (2914, 2915), (2946, 2946), (3006, 3010), (3014, 3016), (3018, 3020), (3031, 3031),
    (3072, 3076), (3134, 3140), (3142, 3144), (3146, 3148), (3157, 3158), (3170, 3171),
    (3201, 3203), (3262, 3268), (3270, 3272), (3274, 3276), (3285, 3286), (3298, 3299),
    (3315, 3315), (3328, 3331), (3390, 3396), (3398, 3400), (3402, 3404), (3415, 3415),
    (3426, 3427), (3457, 3459), (3535, 3540), (3542, 3542), (3544, 3551), (3570, 3571),
    (3633, 3633), (3636, 3642), (3661, 3661), (3761, 3761), (3764, 3769), (3771, 3772),
    (3789, 3789), (3953, 3971), (3981, 3991), (3993, 4028), (4139, 4150), (4152, 4152),
    (4155, 4158), (4182, 4185), (4190, 4192), (4194, 4196), (4199, 4205), (4209, 4212),
    (4226, 4237), (4239, 4239), (4250, 4253), (5906, 5907), (5938, 5939), (5970, 5971),
    (6002, 6003), (6070, 6088), (6277, 6278), (6313, 6313), (6432, 6443), (6448, 6456),
    (6679, 6683), (6741, 6750), (6753, 6772), (6847, 6848), (6860, 6862), (6912, 6916),
    (6965, 6979), (7040, 7042), (7073, 7081), (7084, 7085), (7143, 7153), (7204, 7222),
    (7635, 7668), (9398, 9449), (11744, 11775), (42612, 42619), (42654, 42655), (43010, 43010),
    (43019, 43019), (43043, 43047), (43136, 43137), (43188, 43203), (43205, 43205),
    (43263, 43263), (43302, 43306), (43335, 43346), (43392, 43395), (43444, 43455),
    (43493, 43493), (43561, 43574), (43587, 43587), (43596, 43597), (43643, 43645),
    (43696, 43696), (43698, 43700), (43703, 43704), (43710, 43710), (43755, 43759),
    (43765, 43765), (44003, 44010), (64286, 64286), (66422, 66426), (68097, 68099),
    (68101, 68102), (68108, 68111), (68900, 68903), (68969, 68969), (69291, 69292),
    (69372, 69372), (69632, 69634), (69688, 69701), (69747, 69748), (69760, 69762),
    (69808, 69816), (69826, 69826), (69888, 69890), (69927, 69938), (69957, 69958),
    (70016, 70018), (70067, 70079), (70094, 70095), (70188, 70196), (70199, 70199),
    (70206, 70206), (70209, 70209), (70367, 70376), (70400, 70403), (70462, 70468),
    (70471, 70472), (70475, 70476), (70487, 70487), (70498, 70499), (70584, 70592),
    (70594, 70594), (70597, 70597), (70599, 70602), (70604, 70605), (70709, 70721),
    (70723, 70725), (70832, 70849), (71087, 71093), (71096, 71102), (71132, 71133),
    (71216, 71230), (71232, 71232), (71339, 71349), (71453, 71466), (71724, 71736),
    (71984, 71989), (71991, 71992), (71995, 71996), (72000, 72000), (72002, 72002),
    (72145, 72151), (72154, 72159), (72164, 72164), (72193, 72202), (72245, 72249),
    (72251, 72254), (72273, 72283), (72330, 72343), (72751, 72758), (72760, 72766),
    (72850, 72871), (72873, 72886), (73009, 73014), (73018, 73018), (73020, 73021),
    (73023, 73025), (73027, 73027), (73031, 73031), (73098, 73102), (73104, 73105),
    (73107, 73110), (73459, 73462), (73472, 73473), (73475, 73475), (73524, 73530),
    (73534, 73536), (90398, 90414), (94031, 94031), (94033, 94087), (94095, 94098),
    (94192, 94193), (113822, 113822), (122880, 122886), (122888, 122904), (122907, 122913),
    (122915, 122916), (122918, 122922), (123023, 123023), (125255, 125255), (127280, 127305),
    (127312, 127337), (127344, 127369)]

def otherLowercase : List (Nat × Nat) :=
  [(170, 170), (186, 186), (688, 696), (704, 705), (736, 740), (837, 837), (890, 890),
    (4348, 4348), (7468, 7530), (7544, 7544), (7579, 7615), (8305, 8305), (8319, 8319),
    (8336, 8348), (8560, 8575), (9424, 9449), (11388, 11389), (42652, 42653), (42864, 42864),
    (42994, 42996), (43000, 43001), (43868, 43871), (43881, 43881), (67456, 67456),
    (67459, 67461), (67463, 67504), (67506, 67514), (122928, 122989)]

def otherUppercase : List (Nat × Nat) :=
  [(8544, 8559), (9398, 9423), (127280, 127305), (127312, 127337), (127344, 127369)]

def otherMath : List (Nat × Nat) :=
  [(94, 94), (976, 978), (981, 981), (1008, 1009), (1012, 1013), (8214, 8214), (8242, 8244),
    (8256, 8256), (8289, 8292), (8317, 8318), (8333, 8334), (8400, 8412), (8417, 8417),
    (8421, 8422), (8427, 8431), (8450, 8450), (8455, 8455), (8458, 8467), (8469, 8469),
    (8473, 8477), (8484, 8484), (8488, 8489), (8492, 8493), (8495, 8497), (8499, 8504),
    (8508, 8511), (8517, 8521), (8597, 8601), (8604, 8607), (8609, 8610), (8612, 8613),
    (8615, 8615), (8617, 8621), (8624, 8625), (8630, 8631), (8636, 8653), (8656, 8657),
    (8659, 8659), (8661, 8667), (8669, 8669), (8676, 8677), (8968, 8971), (9140, 9141),
    (9143, 9143), (9168, 9168), (9186, 9186), (9632, 9633), (9646, 9654), (9660, 9664),
    (9670, 9671), (9674, 9675), (9679, 9683), (9698, 9698), (9700, 9700), (9703, 9708),
    (9733, 9734), (9792, 9792), (9794, 9794), (9824, 9827), (9837, 9838), (10181, 10182),
    (10214, 10223), (10627, 10648), (10712, 10715), (10748, 10749), (65121, 65121),
    (65123, 65123), (65128, 65128), (65340, 65340), (65342, 65342), (119808, 119892),
    (119894, 119964), (119966, 119967), (119970, 119970), (119973, 119974), (119977, 119980),
    (119982, 119993), (119995, 119995), (119997, 120003), (120005, 120069), (120071, 120074),
    (120077, 120084), (120086, 120092), (120094, 120121), (120123, 120126), (120128, 120132),
    (120134, 120134), (120138, 120144), (120146, 120485), (120488, 120512), (120514, 120538),
    (120540, 120570), (120572, 120596), (120598, 120628), (120630, 120654), (120656, 120686),
    (120688, 120712), (120714, 120744), (120746, 120770), (120772, 120779), (120782, 120831),
    (126464, 126467), (126469, 126495), (126497, 126498), (126500, 126500), (126503, 126503),
    (126505, 126514), (126516, 126519), (126521, 126521), (126523, 126523), (126530, 126530),
    (126535, 126535), (126537, 126537), (126539, 126539), (126541, 126543), (126545, 126546),
    (126548, 126548), (126551, 126551), (126553, 126553), (126555, 126555), (126557, 126557),
    (126559, 126559), (126561, 126562), (126564, 126564), (126567, 126570), (126572, 126578),
    (126580, 126583), (126585, 126588), (126590, 126590), (126592, 126601), (126603, 126619),
    (126625, 126627), (126629, 126633), (126635, 126651)]

def otherGraphemeExtend : List (Nat × Nat) :=
  [(2494, 2494), (2519, 2519), (2878, 2878), (2903, 2903), (3006, 3006), (3031, 3031),
    (3264, 3264), (3266, 3266), (3271, 3272), (3274, 3275), (3285, 3286), (3390, 3390),
    (3415, 3415), (3535, 3535), (3551, 3551), (5909, 5909), (5940, 5940), (6965, 6965),
    (6971, 6971), (6973, 6973), (6979, 6980), (7082, 7082), (7154, 7155), (8204, 8204),
    (12334, 12335), (43347, 43347), (43456, 43456), (65438, 65439), (70080, 70080),
    (70197, 70197), (70462, 70462), (70477, 70477), (70487, 70487), (70584, 70584),
    (70594, 70594), (70597, 70597), (70599, 70601), (70607, 70607), (70832, 70832),
    (70845, 70845), (71087, 71087), (71350, 71350), (71984, 71984), (71997, 71997),
    (73537, 73537), (94192, 94193), (119141, 119142), (119149, 119154), (917536, 917631)]

def otherDefaultIgnorableCodePoint : List (Nat × Nat) :=
  [(847, 847), (4447, 4448), (6068, 6069), (8293, 8293), (12644, 12644), (65440, 65440),
    (65520, 65528), (917504, 917504), (917506, 917535), (917632, 917759), (918000, 921599)]

def otherIdStart : List (Nat × Nat) :=
  [(6277, 6278), (8472, 8472), (8494, 8494), (12443, 12444)]

def otherIdContinue : List (Nat × Nat) :=
  [(183, 183), (903, 903), (4969, 4977), (6618, 6618), (8204, 8205), (12539, 12539),
    (65381, 65381)]

def asciiHexDigit : List (Nat × Nat) :=
  [(48, 57), (65, 70), (97, 102)]

def bidiControl : List (Nat × Nat) :=
  [(1564, 1564), (8206, 8207), (8234, 8238), (8294, 8297)]

def bidiMirrored : List (Nat × Nat) :=
  [(40, 41), (60, 60), (62, 62), (91, 91), (93, 93), (123, 123), (125, 125), (171, 171),
    (187, 187), (3898, 3901), (5787, 5788), (8249, 8250), (8261, 8262), (8317, 8318),
    (8333, 8334), (8512, 8512), (8705, 8708), (8712, 8717), (8721, 8721), (8725, 8726),
    (8730, 8733), (8735, 8738), (8740, 8740), (8742, 8742), (8747, 8755), (8761, 8761),
    (8763, 8780), (8786, 8789), (8799, 8800), (8802, 8802), (8804, 8811), (8813, 8844),
    (8847, 8850), (8856, 8856), (8866, 8867), (8870, 8888), (8894, 8895), (8905, 8909),
    (8912, 8913), (8918, 8941), (8944, 8959), (8968, 8971), (8992, 8993), (9001, 9002),
    (10088, 10101), (10176, 10176), (10179, 10182), (10184, 10185), (10187, 10189),
    (10195, 10198), (10204, 10206), (10210, 10223), (10627, 10648), (10651, 10656),
    (10658, 10671), (10680, 10680), (10688, 10693), (10697, 10697), (10702, 10706),
    (10708, 10709), (10712, 10716), (10721, 10721), (10723, 10725), (10728, 10729),
    (10740, 10745), (10748, 10749), (10762, 10780), (10782, 10785), (10788, 10788),
    (10790, 10790), (10793, 10793), (10795, 10798), (10804, 10805), (10812, 10814),
    (10839, 10840), (10852, 10853), (10858, 10861), (10863, 10864), (10867, 10868),
    (10873, 10915), (10918, 10925), (10927, 10966), (10972, 10972), (10974, 10974),
    (10978, 10982), (10988, 10990), (10995, 10995), (10999, 11003), (11005, 11005),
    (11262, 11262), (11778, 11781), (11785, 11786), (11788, 11789), (11804, 11805),
    (11808, 11817), (11861, 11868), (12296, 12305), (12308, 12315), (65113, 65118),
    (65124, 65125), (65288, 65289), (65308, 65308), (65310, 65310), (65339, 65339),
    (65341, 65341), (65371, 65371), (65373, 65373), (65375, 65376), (65378, 65379),
    (120539, 120539), (120597, 120597), (120655, 120655), (120713, 120713), (120771, 120771)]

def dash : List (Nat × Nat) :=
  [(45, 45), (1418, 1418), (1470, 1470), (5120, 5120), (6150, 6150), (8208, 8213), (8275, 8275),
    (8315, 8315), (8331, 8331), (8722, 8722), (11799, 11799), (11802, 11802), (11834, 11835),
    (11840, 11840), (11869, 11869), (12316, 12316), (12336, 12336), (12448, 12448),
    (65073, 65074), (65112, 65112), (65123, 65123), (65293, 65293), (68974, 68974), (69293, 69293)]

def deprecated : List (Nat × Nat) :=
  [(329, 329), (1651, 1651), (3959, 3959), (3961, 3961), (6051, 6052), (8298, 8303),
    (9001, 9002), (917505, 917505)]

def diacritic : List (Nat × Nat) :=
  [(94, 94), (96, 96), (168, 168), (175, 175), (180, 180), (183, 184), (688, 846), (848, 855),
    (861, 866), (884, 885), (890, 890), (900, 901), (1155, 1159), (1369, 1369), (1425, 1441),
    (1443, 1469), (1471, 1471), (1473, 1474), (1476, 1476), (1611, 1618), (1623, 1624),
    (1759, 1760), (1765, 1766), (1770, 1772), (1840, 1866), (1958, 1968), (2027, 2037),
    (2072, 2073), (2200, 2207), (2249, 2258), (2275, 2302), (2364, 2364), (2381, 2381),
    (2385, 2388), (2417, 2417), (2492, 2492), (2509, 2509), (2620, 2620), (2637, 2637),
    (2748, 2748), (2765, 2765), (2813, 2815), (2876, 2876), (2893, 2893), (2901, 2901),
    (3021, 3021), (3132, 3132), (3149, 3149), (3260, 3260), (3277, 3277), (3387, 3388),
    (3405, 3405), (3530, 3530), (3642, 3642), (3655, 3660), (3662, 3662), (3770, 3770),
    (3784, 3788), (3864, 3865), (3893, 3893), (3895, 3895), (3897, 3897), (3902, 3903),
    (3970, 3972), (3974, 3975), (4038, 4038), (4151, 4151), (4153, 4154), (4195, 4196),
    (4201, 4205), (4231, 4237), (4239, 4239), (4250, 4251), (4957, 4959), (5908, 5909),
    (5940, 5940), (6089, 6099), (6109, 6109), (6457, 6459), (6752, 6752), (6773, 6780),
    (6783, 6783), (6832, 6846), (6849, 6859), (6964, 6964), (6980, 6980), (7019, 7027),
    (7082, 7083), (7142, 7142), (7154, 7155), (7222, 7223), (7288, 7293), (7376, 7400),
    (7405, 7405), (7412, 7412), (7415, 7417), (7468, 7530), (7620, 7631), (7669, 7679),
    (8125, 8125), (8127, 8129), (8141, 8143), (8157, 8159), (8173, 8175), (8189, 8190),
    (11503, 11505), (11823, 11823), (12330, 12335), (12441, 12444), (12540, 12540),
    (42607, 42607), (42620, 42621), (42623, 42623), (42652, 42653), (42736, 42737),
    (42752, 42785), (42888, 42890), (43000, 43001), (43014, 43014), (43052, 43052),
    (43204, 43204), (43232, 43249), (43307, 43310), (43347, 43347), (43443, 43443),
    (43456, 43456), (43493, 43493), (43643, 43645), (43711, 43714), (43766, 43766),
    (43867, 43871), (43881, 43883), (44012, 44013), (64286, 64286), (65056, 65071),
    (65342, 65342), (65344, 65344), (65392, 65392), (65438, 65439), (65507, 65507),
    (66272, 66272), (67456, 67461), (67463, 67504), (67506, 67514), (68152, 68154),
    (68159, 68159), (68325, 68326), (68898, 68903), (68942, 68942), (68969, 68973),
    (69373, 69375), (69446, 69456), (69506, 69509), (69702, 69702), (69744, 69744),
    (69817, 69818), (69939, 69940), (70003, 70003), (70080, 70080), (70090, 70092),
    (70197, 70198), (70377, 70378), (70459, 70460), (70477, 70477), (70502, 70508),
    (70512, 70516), (70606, 70608), (70610, 70611), (70625, 70626), (70722, 70722),
    (70726, 70726), (70850, 70851), (71103, 71104), (71231, 71231), (71350, 71351),
    (71467, 71467), (71737, 71738), (71997, 71998), (72003, 72003), (72160, 72160),
    (72244, 72244), (72263, 72263), (72345, 72345), (72767, 72767), (73026, 73026),
    (73028, 73029), (73111, 73111), (73537, 73538), (73562, 73562), (78919, 78933),
    (90415, 90415), (92912, 92916), (92976, 92982), (93547, 93548), (94095, 94111),
    (94192, 94193), (110576, 110579), (110581, 110587), (110589, 110590), (118528, 118573),
    (118576, 118598), (119143, 119145), (119149, 119154), (119163, 119170), (119173, 119179),
    (119210, 119213), (122928, 122989), (123184, 123190), (123566, 123566), (123628, 123631),
    (124398, 124399), (125136, 125142), (125252, 125254), (125256, 125258)]

def emoji : List (Nat × Nat) :=
  [(35, 35), (42, 42), (48, 57), (169, 169), (174, 174), (8252, 8252), (8265, 8265),
    (8482, 8482), (8505, 8505), (8596, 8601), (8617, 8618), (8986, 8987), (9000, 9000),
    (9167, 9167), (9193, 9203), (9208, 9210), (9410, 9410), (9642, 9643), (9654, 9654),
    (9664, 9664), (9723, 9726), (9728, 9732), (9742, 9742), (9745, 9745), (9748, 9749),
    (9752, 9752), (9757, 9757), (9760, 9760), (9762, 9763), (9766, 9766), (9770, 9770),
    (9774, 9775), (9784, 9786), (9792, 9792), (9794, 9794), (9800, 9811), (9823, 9824),
    (9827, 9827), (9829, 9830), (9832, 9832), (9851, 9851), (9854, 9855), (9874, 9879),
    (9881, 9881), (9883, 9884), (9888, 9889), (9895, 9895), (9898, 9899), (9904, 9905),
    (9917, 9918), (9924, 9925), (9928, 9928), (9934, 9935), (9937, 9937), (9939, 9940),
    (9961, 9962), (9968, 9973), (9975, 9978), (9981, 9981), (9986, 9986), (9989, 9989),
    (9992, 9997), (9999, 9999), (10002, 10002), (10004, 10004), (10006, 10006), (10013, 10013),
    (10017, 10017), (10024, 10024), (10035, 10036), (10052, 10052), (10055, 10055),
    (10060, 10060), (10062, 10062), (10067, 10069), (10071, 10071), (10083, 10084),
    (10133, 10135), (10145, 10145), (10160, 10160), (10175, 10175), (10548, 10549),
    (11013, 11015), (11035, 11036), (11088, 11088), (11093, 11093), (12336, 12336),
    (12349, 12349), (12951, 12951), (12953, 12953), (126980, 126980), (127183, 127183),
    (127344, 127345), (127358, 127359), (127374, 127374), (127377, 127386), (127462, 127487),
    (127489, 127490), (127514, 127514), (127535, 127535), (127538, 127546), (127568, 127569),
    (127744, 127777), (127780, 127891), (127894, 127895), (127897, 127899), (127902, 127984),
    (127987, 127989), (127991, 128253), (128255, 128317), (128329, 128334), (128336, 128359),
    (128367, 128368), (128371, 128378), (128391, 128391), (128394, 128397), (128400, 128400),
    (128405, 128406), (128420, 128421), (128424, 128424), (128433, 128434), (128444, 128444),
    (128450, 128452), (128465, 128467), (128476, 128478), (128481, 128481), (128483, 128483),
    (128488, 128488), (128495, 128495), (128499, 128499), (128506, 128591), (128640, 128709),
    (128715, 128722), (128725, 128727), (128732, 128741), (128745, 128745), (128747, 128748),
    (128752, 128752), (128755, 128764), (128992, 129003), (129008, 129008), (129292, 129338),
    (129340, 129349), (129351, 129535), (129648, 129660), (129664, 129673), (129679, 129734),
    (129742, 129756), (129759, 129769), (129776, 129784)]

def emojiComponent : List (Nat × Nat) :=
  [(35, 35), (42, 42), (48, 57), (8205, 8205), (8419, 8419), (65039, 65039), (127462, 127487),
    (127995, 127999), (129456, 129459), (917536, 917631)]

def emojiModifier : List (Nat × Nat) :=
  [(127995, 127999)]

def emojiModifierBase : List (Nat × Nat) :=
  [(9757, 9757), (9977, 9977), (9994, 9997), (127877, 127877), (127938, 127940),
    (127943, 127943), (127946, 127948), (128066, 128067), (128070, 128080), (128102, 128120),
    (128124, 128124), (128129, 128131), (128133, 128135), (128143, 128143), (128145, 128145),
    (128170, 128170), (128372, 128373), (128378, 128378), (128400, 128400), (128405, 128406),
    (128581, 128583), (128587, 128591), (128675, 128675), (128692, 128694), (128704, 128704),
    (128716, 128716), (129292, 129292), (129295, 129295), (129304, 129311), (129318, 129318),
    (129328, 129337), (129340, 129342), (129399, 129399), (129461, 129462), (129464, 129465),
    (129467, 129467), (129485, 129487), (129489, 129501), (129731, 129733), (129776, 129784)]

def emojiPresentation : List (Nat × Nat) :=
  [(8986, 8987), (9193, 9196), (9200, 9200), (9203, 9203), (9725, 9726), (9748, 9749),
    (9800, 9811), (9855, 9855), (9875, 9875), (9889, 9889), (9898, 9899), (9917, 9918),
    (9924, 9925), (9934, 9934), (9940, 9940), (9962, 9962), (9970, 9971), (9973, 9973),
    (9978, 9978), (9981, 9981), (9989, 9989), (9994, 9995), (10024, 10024), (10060, 10060),
    (10062, 10062), (10067, 10069), (10071, 10071), (10133, 10135), (10160, 10160),
    (10175, 10175), (11035, 11036), (11088, 11088), (11093, 11093), (126980, 126980),
    (127183, 127183), (127374, 127374), (127377, 127386), (127462, 127487), (127489, 127489),
    (127514, 127514), (127535, 127535), (127538, 127542), (127544, 127546), (127568, 127569),
    (127744, 127776), (127789, 127797), (127799, 127868), (127870, 127891), (127904, 127946),
    (127951, 127955), (127968, 127984), (127988, 127988), (127992, 128062), (128064, 128064),
    (128066, 128252), (128255, 128317), (128331, 128334), (128336, 128359), (128378, 128378),
    (128405, 128406), (128420, 128420), (128507, 128591), (128640, 128709), (128716, 128716),
    (128720, 128722), (128725, 128727), (128732, 128735), (128747, 128748), (128756, 128764),
    (128992, 129003), (129008, 129008), (129292, 129338), (129340, 129349), (129351, 129535),
    (129648, 129660), (129664, 129673), (129679, 129734), (129742, 129756), (129759, 129769),
    (129776, 129784)]

def extendedPictographic : List (Nat × Nat) :=
  [(169, 169), (174, 174), (8252, 8252), (8265, 8265), (8482, 8482), (8505, 8505), (8596, 8601),
    (8617, 8618), (8986, 8987), (9000, 9000), (9096, 9096), (9167, 9167), (9193, 9203),
    (9208, 9210), (9410, 9410), (9642, 9643), (9654, 9654), (9664, 9664), (9723, 9726),
    (9728, 9733), (9735, 9746), (9748, 9861), (9872, 9989), (9992, 10002), (10004, 10004),
    (10006, 10006), (10013, 10013), (10017, 10017), (10024, 10024), (10035, 10036),
    (10052, 10052), (10055, 10055), (10060, 10060), (10062, 10062), (10067, 10069),
    (10071, 10071), (10083, 10087), (10133, 10135), (10145, 10145), (10160, 10160),
    (10175, 10175), (10548, 10549), (11013, 11015), (11035, 11036), (11088, 11088),
    (11093, 11093), (12336, 12336), (12349, 12349), (12951, 12951), (12953, 12953),
    (126976, 127231), (127245, 127247), (127279, 127279), (127340, 127345), (127358, 127359),
    (127374, 127374), (127377, 127386), (127405, 127461), (127489, 127503), (127514, 127514),
    (127535, 127535), (127538, 127546), (127548, 127551), (127561, 127994), (128000, 128317),
    (128326, 128591), (128640, 128767), (128884, 128895), (128981, 129023), (129036, 129039),
    (129096, 129103), (129114, 129119), (129160, 129167), (129198, 129279), (129292, 129338),
    (129340, 129349), (129351, 129791), (130048, 131069)]

def extender : List (Nat × Nat) :=
  [(183, 183), (720, 721), (1600, 1600), (2042, 2042), (2673, 2673), (2811, 2811), (2901, 2901),
    (3654, 3654), (3782, 3782), (6154, 6154), (6211, 6211), (6823, 6823), (7222, 7222),
    (7291, 7291), (12293, 12293), (12337, 12341), (12445, 12446), (12540, 12542), (40981, 40981),
    (42508, 42508), (43471, 43471), (43494, 43494), (43632, 43632), (43741, 43741),
    (43763, 43764), (65392, 65392), (67457, 67458), (68942, 68942), (68970, 68970),
    (68975, 68975), (70199, 70199), (70493, 70493), (70610, 70611), (71110, 71112),
    (72344, 72344), (92994, 92995), (94176, 94177), (94179, 94179), (123196, 123197),
    (124399, 124399), (125252, 125254)]

def graphemeLink : List (Nat × Nat) :=
  [(2381, 2381), (2509, 2509), (2637, 2637), (2765, 2765), (2893, 2893), (3021, 3021),
    (3149, 3149), (3277, 3277), (3387, 3388), (3405, 3405), (3530, 3530), (3642, 3642),
    (3770, 3770), (3972, 3972), (4153, 4154), (5908, 5909), (5940, 5940), (6098, 6098),
    (6752, 6752), (6980, 6980), (7082, 7083), (7154, 7155), (11647, 11647), (43014, 43014),
    (43052, 43052), (43204, 43204), (43347, 43347), (43456, 43456), (43766, 43766),
    (44013, 44013), (68159, 68159), (69702, 69702), (69744, 69744), (69759, 69759),
    (69817, 69817), (69939, 69940), (70080, 70080), (70197, 70197), (70378, 70378),
    (70477, 70477), (70606, 70608), (70722, 70722), (70850, 70850), (71103, 71103),
    (71231, 71231), (71350, 71350), (71467, 71467), (71737, 71737), (71997, 71998),
    (72160, 72160), (72244, 72244), (72263, 72263), (72345, 72345), (72767, 72767),
    (73028, 73029), (73111, 73111), (73537, 73538), (90415, 90415)]

def hexDigit : List (Nat × Nat) :=
  [(48, 57), (65, 70), (97, 102), (65296, 65305), (65313, 65318), (65345, 65350)]

def hyphen : List (Nat × Nat) :=
  [(45, 45), (173, 173), (1418, 1418), (6150, 6150), (8208, 8209), (11799, 11799),
    (12539, 12539), (65123, 65123), (65293, 65293), (65381, 65381)]

def idsBinaryOperator : List (Nat × Nat) :=
  [(12272, 12273), (12276, 12285), (12783, 12783)]

def idsTrinaryOperator : List (Nat × Nat) :=
  [(12274, 12275)]

def idsUnaryOperator : List (Nat × Nat) :=
  [(12286, 12287)]

def idCompatMathContinue : List (Nat × Nat) :=
  [(178, 179), (185, 185), (8304, 8304), (8308, 8318), (8320, 8334), (8706, 8706), (8711, 8711),
    (8734, 8734), (120513, 120513), (120539, 120539), (120571, 120571), (120597, 120597),
    (120629, 120629), (120655, 120655), (120687, 120687), (120713, 120713), (120745, 120745),
    (120771, 120771)]

def idCompatMathStart : List (Nat × Nat) :=
  [(8706, 8706), (8711, 8711), (8734, 8734), (120513, 120513), (120539, 120539),
    (120571, 120571), (120597, 120597), (120629, 120629), (120655, 120655), (120687, 120687),
    (120713, 120713), (120745, 120745), (120771, 120771)]

def ideographic : List (Nat × Nat) :=
  [(12294, 12295), (12321, 12329), (12344, 12346), (13312, 19903), (19968, 40959),
    (63744, 64109), (64112, 64217), (94180, 94180), (94208, 100343), (100352, 101589),
    (101631, 101640), (110960, 111355), (131072, 173791), (173824, 177977), (177984, 178205),
    (178208, 183969), (183984, 191456), (191472, 192093), (194560, 195101), (196608, 201546),
    (201552, 205743)]

def joinControl : List (Nat × Nat) :=
  [(8204, 8205)]

def logicalOrderException : List (Nat × Nat) :=
  [(3648, 3652), (3776, 3780), (6581, 6583), (6586, 6586), (43701, 43702), (43705, 43705),
    (43707, 43708)]

def modifierCombiningMark : List (Nat × Nat) :=
  [(1620, 1621), (1624, 1624), (1756, 1756), (1763, 1763), (1767, 1768), (2250, 2251),
    (2253, 2255), (2259, 2259), (2291, 2291)]

def noncharacterCodePoint : List (Nat × Nat) :=
  [(64976, 65007), (65534, 65535), (131070, 131071), (196606, 196607), (262142, 262143),
    (327678, 327679), (393214, 393215), (458750, 458751), (524286, 524287), (589822, 589823),
    (655358, 655359), (720894, 720895), (786430, 786431), (851966, 851967), (917502, 917503),
    (983038, 983039), (1048574, 1048575), (1114110, 1114111)]

def patternSyntax : List (Nat × Nat) :=
  [(33, 47), (58, 64), (91, 94), (96, 96), (123, 126), (161, 167), (169, 169), (171, 172),
    (174, 174), (176, 177), (182, 182), (187, 187), (191, 191), (215, 215), (247, 247),
    (8208, 8231), (8240, 8254), (8257, 8275), (8277, 8286), (8592, 9311), (9472, 10101),
    (10132, 11263), (11776, 11903), (12289, 12291), (12296, 12320), (12336, 12336),
    (64830, 64831), (65093, 65094)]

def patternWhiteSpace : List (Nat × Nat) :=
  [(9, 13), (32, 32), (133, 133), (8206, 8207), (8232, 8233)]

def prependedConcatenationMark : List (Nat × Nat) :=
  [(1536, 1541), (1757, 1757), (1807, 1807), (2192, 2193), (2274, 2274), (69821, 69821),
    (69837, 69837)]

def quotationMark : List (Nat × Nat) :=
  [(34, 34), (39, 39), (171, 171), (187, 187), (8216, 8223), (8249, 8250), (11842, 11842),
    (12300, 12303), (12317, 12319), (65089, 65092), (65282, 65282), (65287, 65287), (65378, 65379)]

def radical : List (Nat × Nat) :=
  [(11904, 11929), (11931, 12019), (12032, 12245)]

def regionalIndicator : List (Nat × Nat) :=
  [(127462, 127487)]

def sentenceTerminal : List (Nat × Nat) :=
  [(33, 33), (46, 46), (63, 63), (1417, 1417), (1565, 1567), (1748, 1748), (1792, 1794),
    (2041, 2041), (2103, 2103), (2105, 2105), (2109, 2110), (2404, 2405), (4170, 4171),
    (4962, 4962), (4967, 4968), (5742, 5742), (5941, 5942), (6100, 6101), (6147, 6147),
    (6153, 6153), (6468, 6469), (6824, 6827), (6990, 6991), (7002, 7003), (7006, 7007),
    (7037, 7039), (7227, 7228), (7294, 7295), (8228, 8228), (8252, 8253), (8263, 8265),
    (11513, 11515), (11822, 11822), (11836, 11836), (11859, 11860), (12290, 12290),
    (42239, 42239), (42510, 42511), (42739, 42739), (42743, 42743), (43126, 43127),
    (43214, 43215), (43311, 43311), (43464, 43465), (43613, 43615), (43760, 43761),
    (44011, 44011), (65042, 65042), (65045, 65046), (65106, 65106), (65110, 65111),
    (65281, 65281), (65294, 65294), (65311, 65311), (65377, 65377), (68182, 68183),
    (69461, 69465), (69510, 69513), (69703, 69704), (69822, 69825), (69953, 69955),
    (70085, 70086), (70093, 70093), (70110, 70111), (70200, 70201), (70203, 70204),
    (70313, 70313), (70612, 70613), (70731, 70732), (71106, 71107), (71113, 71127),
    (71233, 71234), (71484, 71486), (72004, 72004), (72006, 72006), (72258, 72259),
    (72347, 72348), (72769, 72770), (73463, 73464), (73539, 73540), (92782, 92783),
    (92917, 92917), (92983, 92984), (92996, 92996), (93550, 93551), (93848, 93848),
    (113823, 113823), (121480, 121480)]

def softDotted : List (Nat × Nat) :=
  [(105, 106), (303, 303), (585, 585), (616, 616), (669, 669), (690, 690), (1011, 1011),
    (1110, 1110), (1112, 1112), (7522, 7522), (7574, 7574), (7588, 7588), (7592, 7592),
    (7725, 7725), (7883, 7883), (8305, 8305), (8520, 8521), (11388, 11388), (119842, 119843),
    (119894, 119895), (119946, 119947), (119998, 119999), (120050, 120051), (120102, 120103),
    (120154, 120155), (120206, 120207), (120258, 120259), (120310, 120311), (120362, 120363),
    (120414, 120415), (120466, 120467), (122650, 122650), (122956, 122957), (122984, 122984)]

def terminalPunctuation : List (Nat × Nat) :=
  [(33, 33), (44, 44), (46, 46), (58, 59), (63, 63), (894, 894), (903, 903), (1417, 1417),
    (1475, 1475), (1548, 1548), (1563, 1563), (1565, 1567), (1748, 1748), (1792, 1802),
    (1804, 1804), (2040, 2041), (2096, 2101), (2103, 2110), (2142, 2142), (2404, 2405),
    (3674, 3675), (3848, 3848), (3853, 3858), (4170, 4171), (4961, 4968), (5742, 5742),
    (5867, 5869), (5941, 5942), (6100, 6102), (6106, 6106), (6146, 6149), (6152, 6153),
    (6468, 6469), (6824, 6827), (6990, 6991), (7002, 7003), (7005, 7007), (7037, 7039),
    (7227, 7231), (7294, 7295), (8228, 8228), (8252, 8253), (8263, 8265), (11513, 11515),
    (11822, 11822), (11836, 11836), (11841, 11841), (11852, 11852), (11854, 11855),
    (11859, 11860), (12289, 12290), (42238, 42239), (42509, 42511), (42739, 42743),
    (43126, 43127), (43214, 43215), (43311, 43311), (43463, 43465), (43613, 43615),
    (43743, 43743), (43760, 43761), (44011, 44011), (65042, 65042), (65045, 65046),
    (65104, 65106), (65108, 65111), (65281, 65281), (65292, 65292), (65294, 65294),
    (65306, 65307), (65311, 65311), (65377, 65377), (65380, 65380), (66463, 66463),
    (66512, 66512), (67671, 67671), (67871, 67871), (68182, 68183), (68336, 68341),
    (68410, 68415), (68505, 68508), (69461, 69465), (69510, 69513), (69703, 69709),
    (69822, 69825), (69953, 69955), (70085, 70086), (70093, 70093), (70110, 70111),
    (70200, 70204), (70313, 70313), (70612, 70613), (70731, 70733), (70746, 70747),
    (71106, 71109), (71113, 71127), (71233, 71234), (71484, 71486), (72004, 72004),
    (72006, 72006), (72258, 72259), (72347, 72348), (72353, 72354), (72769, 72771),
    (72817, 72817), (73463, 73464), (73539, 73540), (74864, 74868), (92782, 92783),
    (92917, 92917), (92983, 92985), (92996, 92996), (93550, 93551), (93847, 93848),
    (113823, 113823), (121479, 121482)]

def unifiedIdeograph : List (Nat × Nat) :=
  [(13312, 19903), (19968, 40959), (64014, 64015), (64017, 64017), (64019, 64020),
    (64031, 64031), (64033, 64033), (64035, 64036), (64039, 64041), (131072, 173791),
    (173824, 177977), (177984, 178205), (178208, 183969), (183984, 191456), (191472, 192093),
    (196608, 201546), (201552, 205743)]

def variationSelector : List (Nat × Nat) :=
  [(6155, 6157), (6159, 6159), (65024, 65039), (917760, 917999)]

/-- Cased characters that have no form in another case. -/
def unmappedCased : List (Nat × Nat) :=
  [(170, 170), (186, 186), (312, 312), (397, 397), (426, 427), (442, 442), (446, 446),
    (545, 545), (564, 569), (597, 597), (600, 600), (602, 602), (605, 607), (610, 610),
    (615, 615), (621, 622), (624, 624), (627, 628), (630, 636), (638, 639), (641, 641),
    (644, 646), (653, 657), (659, 659), (661, 668), (671, 696), (704, 705), (736, 740),
    (890, 890), (978, 980), (1020, 1020), (1376, 1376), (1416, 1416), (4348, 4348), (7424, 7544),
    (7546, 7548), (7550, 7565), (7567, 7615), (7836, 7837), (7839, 7839), (8305, 8305),
    (8319, 8319), (8336, 8348), (8450, 8450), (8455, 8455), (8458, 8467), (8469, 8469),
    (8473, 8477), (8484, 8484), (8488, 8488), (8492, 8493), (8495, 8497), (8499, 8500),
    (8505, 8505), (8508, 8511), (8517, 8521), (11377, 11377), (11380, 11380), (11383, 11389),
    (11492, 11492), (42652, 42653), (42800, 42801), (42864, 42872), (42894, 42894),
    (42901, 42901), (42927, 42927), (42963, 42963), (42965, 42965), (42994, 42996),
    (43000, 43002), (43824, 43858), (43860, 43866), (43868, 43881), (67456, 67456),
    (67459, 67461), (67463, 67504), (67506, 67514), (119808, 119892), (119894, 119964),
    (119966, 119967), (119970, 119970), (119973, 119974), (119977, 119980), (119982, 119993),
    (119995, 119995), (119997, 120003), (120005, 120069), (120071, 120074), (120077, 120084),
    (120086, 120092), (120094, 120121), (120123, 120126), (120128, 120132), (120134, 120134),
    (120138, 120144), (120146, 120485), (120488, 120512), (120514, 120538), (120540, 120570),
    (120572, 120596), (120598, 120628), (120630, 120654), (120656, 120686), (120688, 120712),
    (120714, 120744), (120746, 120770), (120772, 120779), (122624, 122633), (122635, 122654),
    (122661, 122666), (122928, 122989), (127280, 127305), (127312, 127337), (127344, 127369)]

end TemplateEngine.Text.Property
