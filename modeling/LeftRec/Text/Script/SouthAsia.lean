import LeftRec.Text.Script

/-!
# South Asian scripts

The scripts of South Asia, most of which go back to Brahmi.
-/

namespace LeftRec.Text

/-- The scripts of South Asia. -/
def southAsianScripts : List Script :=
  [ ⟨["ahom"],
      [ (0x11700, 0x1171a), (0x1171d, 0x1172b), (0x11730, 0x11746) ]⟩,
    ⟨["bengali", "beng"],
      [ (0x980, 0x983), (0x985, 0x98c), (0x98f, 0x990), (0x993, 0x9a8), (0x9aa, 0x9b0),
        (0x9b2, 0x9b2), (0x9b6, 0x9b9), (0x9bc, 0x9c4), (0x9c7, 0x9c8), (0x9cb, 0x9ce),
        (0x9d7, 0x9d7), (0x9dc, 0x9dd), (0x9df, 0x9e3), (0x9e6, 0x9fe) ]⟩,
    ⟨["bhaiksuki", "bhks"],
      [ (0x11c00, 0x11c08), (0x11c0a, 0x11c36), (0x11c38, 0x11c45), (0x11c50, 0x11c6c) ]⟩,
    ⟨["brahmi", "brah"],
      [ (0x11000, 0x1104d), (0x11052, 0x11075), (0x1107f, 0x1107f) ]⟩,
    ⟨["chakma", "cakm"],
      [ (0x11100, 0x11134), (0x11136, 0x11147) ]⟩,
    ⟨["devanagari", "deva"],
      [ (0x900, 0x950), (0x955, 0x963), (0x966, 0x97f), (0xa8e0, 0xa8ff), (0x11b00, 0x11b09) ]⟩,
    ⟨["divesakuru", "diak"],
      [ (0x11900, 0x11906), (0x11909, 0x11909), (0x1190c, 0x11913), (0x11915, 0x11916),
        (0x11918, 0x11935), (0x11937, 0x11938), (0x1193b, 0x11946), (0x11950, 0x11959) ]⟩,
    ⟨["dogra", "dogr"],
      [ (0x11800, 0x1183b) ]⟩,
    ⟨["grantha", "gran"],
      [ (0x11300, 0x11303), (0x11305, 0x1130c), (0x1130f, 0x11310), (0x11313, 0x11328),
        (0x1132a, 0x11330), (0x11332, 0x11333), (0x11335, 0x11339), (0x1133c, 0x11344),
        (0x11347, 0x11348), (0x1134b, 0x1134d), (0x11350, 0x11350), (0x11357, 0x11357),
        (0x1135d, 0x11363), (0x11366, 0x1136c), (0x11370, 0x11374) ]⟩,
    ⟨["gujarati", "gujr"],
      [ (0xa81, 0xa83), (0xa85, 0xa8d), (0xa8f, 0xa91), (0xa93, 0xaa8), (0xaaa, 0xab0),
        (0xab2, 0xab3), (0xab5, 0xab9), (0xabc, 0xac5), (0xac7, 0xac9), (0xacb, 0xacd),
        (0xad0, 0xad0), (0xae0, 0xae3), (0xae6, 0xaf1), (0xaf9, 0xaff) ]⟩,
    ⟨["gunjalagondi", "gong"],
      [ (0x11d60, 0x11d65), (0x11d67, 0x11d68), (0x11d6a, 0x11d8e), (0x11d90, 0x11d91),
        (0x11d93, 0x11d98), (0x11da0, 0x11da9) ]⟩,
    ⟨["gurmukhi", "guru"],
      [ (0xa01, 0xa03), (0xa05, 0xa0a), (0xa0f, 0xa10), (0xa13, 0xa28), (0xa2a, 0xa30),
        (0xa32, 0xa33), (0xa35, 0xa36), (0xa38, 0xa39), (0xa3c, 0xa3c), (0xa3e, 0xa42),
        (0xa47, 0xa48), (0xa4b, 0xa4d), (0xa51, 0xa51), (0xa59, 0xa5c), (0xa5e, 0xa5e),
        (0xa66, 0xa76) ]⟩,
    ⟨["hanifirohingya", "rohg"],
      [ (0x10d00, 0x10d27), (0x10d30, 0x10d39) ]⟩,
    ⟨["kaithi", "kthi"],
      [ (0x11080, 0x110c2), (0x110cd, 0x110cd) ]⟩,
    ⟨["kannada", "knda"],
      [ (0xc80, 0xc8c), (0xc8e, 0xc90), (0xc92, 0xca8), (0xcaa, 0xcb3), (0xcb5, 0xcb9),
        (0xcbc, 0xcc4), (0xcc6, 0xcc8), (0xcca, 0xccd), (0xcd5, 0xcd6), (0xcdd, 0xcde),
        (0xce0, 0xce3), (0xce6, 0xcef), (0xcf1, 0xcf3) ]⟩,
    ⟨["kharoshthi", "khar"],
      [ (0x10a00, 0x10a03), (0x10a05, 0x10a06), (0x10a0c, 0x10a13), (0x10a15, 0x10a17),
        (0x10a19, 0x10a35), (0x10a38, 0x10a3a), (0x10a3f, 0x10a48), (0x10a50, 0x10a58) ]⟩,
    ⟨["khojki", "khoj"],
      [ (0x11200, 0x11211), (0x11213, 0x11241) ]⟩,
    ⟨["khudawadi", "sind"],
      [ (0x112b0, 0x112ea), (0x112f0, 0x112f9) ]⟩,
    ⟨["lepcha", "lepc"],
      [ (0x1c00, 0x1c37), (0x1c3b, 0x1c49), (0x1c4d, 0x1c4f) ]⟩,
    ⟨["limbu", "limb"],
      [ (0x1900, 0x191e), (0x1920, 0x192b), (0x1930, 0x193b), (0x1940, 0x1940), (0x1944, 0x194f) ]⟩,
    ⟨["mahajani", "mahj"],
      [ (0x11150, 0x11176) ]⟩,
    ⟨["malayalam", "mlym"],
      [ (0xd00, 0xd0c), (0xd0e, 0xd10), (0xd12, 0xd44), (0xd46, 0xd48), (0xd4a, 0xd4f),
        (0xd54, 0xd63), (0xd66, 0xd7f) ]⟩,
    ⟨["masaramgondi", "gonm"],
      [ (0x11d00, 0x11d06), (0x11d08, 0x11d09), (0x11d0b, 0x11d36), (0x11d3a, 0x11d3a),
        (0x11d3c, 0x11d3d), (0x11d3f, 0x11d47), (0x11d50, 0x11d59) ]⟩,
    ⟨["meeteimayek", "mtei"],
      [ (0xaae0, 0xaaf6), (0xabc0, 0xabed), (0xabf0, 0xabf9) ]⟩,
    ⟨["modi"],
      [ (0x11600, 0x11644), (0x11650, 0x11659) ]⟩,
    ⟨["mro", "mroo"],
      [ (0x16a40, 0x16a5e), (0x16a60, 0x16a69), (0x16a6e, 0x16a6f) ]⟩,
    ⟨["multani", "mult"],
      [ (0x11280, 0x11286), (0x11288, 0x11288), (0x1128a, 0x1128d), (0x1128f, 0x1129d),
        (0x1129f, 0x112a9) ]⟩,
    ⟨["nagmundari", "nagm"],
      [ (0x1e4d0, 0x1e4f9) ]⟩,
    ⟨["nandinagari", "nand"],
      [ (0x119a0, 0x119a7), (0x119aa, 0x119d7), (0x119da, 0x119e4) ]⟩,
    ⟨["newa"],
      [ (0x11400, 0x1145b), (0x1145d, 0x11461) ]⟩,
    ⟨["olchiki", "olck"],
      [ (0x1c50, 0x1c7f) ]⟩,
    ⟨["oriya", "orya"],
      [ (0xb01, 0xb03), (0xb05, 0xb0c), (0xb0f, 0xb10), (0xb13, 0xb28), (0xb2a, 0xb30),
        (0xb32, 0xb33), (0xb35, 0xb39), (0xb3c, 0xb44), (0xb47, 0xb48), (0xb4b, 0xb4d),
        (0xb55, 0xb57), (0xb5c, 0xb5d), (0xb5f, 0xb63), (0xb66, 0xb77) ]⟩,
    ⟨["saurashtra", "saur"],
      [ (0xa880, 0xa8c5), (0xa8ce, 0xa8d9) ]⟩,
    ⟨["sharada", "shrd"],
      [ (0x11180, 0x111df) ]⟩,
    ⟨["siddham", "sidd"],
      [ (0x11580, 0x115b5), (0x115b8, 0x115dd) ]⟩,
    ⟨["sinhala", "sinh"],
      [ (0xd81, 0xd83), (0xd85, 0xd96), (0xd9a, 0xdb1), (0xdb3, 0xdbb), (0xdbd, 0xdbd),
        (0xdc0, 0xdc6), (0xdca, 0xdca), (0xdcf, 0xdd4), (0xdd6, 0xdd6), (0xdd8, 0xddf),
        (0xde6, 0xdef), (0xdf2, 0xdf4), (0x111e1, 0x111f4) ]⟩,
    ⟨["sorasompeng", "sora"],
      [ (0x110d0, 0x110e8), (0x110f0, 0x110f9) ]⟩,
    ⟨["sylotinagri", "sylo"],
      [ (0xa800, 0xa82c) ]⟩,
    ⟨["takri", "takr"],
      [ (0x11680, 0x116b9), (0x116c0, 0x116c9) ]⟩,
    ⟨["tamil", "taml"],
      [ (0xb82, 0xb83), (0xb85, 0xb8a), (0xb8e, 0xb90), (0xb92, 0xb95), (0xb99, 0xb9a),
        (0xb9c, 0xb9c), (0xb9e, 0xb9f), (0xba3, 0xba4), (0xba8, 0xbaa), (0xbae, 0xbb9),
        (0xbbe, 0xbc2), (0xbc6, 0xbc8), (0xbca, 0xbcd), (0xbd0, 0xbd0), (0xbd7, 0xbd7),
        (0xbe6, 0xbfa), (0x11fc0, 0x11ff1), (0x11fff, 0x11fff) ]⟩,
    ⟨["telugu", "telu"],
      [ (0xc00, 0xc0c), (0xc0e, 0xc10), (0xc12, 0xc28), (0xc2a, 0xc39), (0xc3c, 0xc44),
        (0xc46, 0xc48), (0xc4a, 0xc4d), (0xc55, 0xc56), (0xc58, 0xc5a), (0xc5d, 0xc5d),
        (0xc60, 0xc63), (0xc66, 0xc6f), (0xc77, 0xc7f) ]⟩,
    ⟨["thaana", "thaa"],
      [ (0x780, 0x7b1) ]⟩,
    ⟨["tirhuta", "tirh"],
      [ (0x11480, 0x114c7), (0x114d0, 0x114d9) ]⟩,
    ⟨["toto"],
      [ (0x1e290, 0x1e2ae) ]⟩,
    ⟨["wancho", "wcho"],
      [ (0x1e2c0, 0x1e2f9), (0x1e2ff, 0x1e2ff) ]⟩,
    ⟨["warangciti", "wara"],
      [ (0x118a0, 0x118f2), (0x118ff, 0x118ff) ]⟩ ]

end LeftRec.Text
