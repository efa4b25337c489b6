import LeftRec.Text.Script

/-!
# Characters of several scripts

Some characters are used with several scripts, and some with one other script only than the one
that they count under.  All others are used with their own script alone.
-/

namespace LeftRec.Text

/-- Characters that are used with some scripts, of which the codes are given. -/
structure Sharing where
  scripts : List String
  ranges : Ranges

/-- The characters for which their own script does not tell where they are used. -/
def sharings : List Sharing :=
  [ ⟨["grek"], [(0x342, 0x342), (0x345, 0x345), (0x1dc0, 0x1dc1)]⟩,
    ⟨["latn"], [(0x363, 0x36f)]⟩,
    ⟨["cyrl", "perm"], [(0x483, 0x483)]⟩,
    ⟨["cyrl", "glag"], [(0x484, 0x484), (0x487, 0x487), (0x2e43, 0x2e43), (0xa66f, 0xa66f)]⟩,
    ⟨["cyrl", "latn"], [(0x485, 0x486)]⟩,
    ⟨["arab", "nkoo", "rohg", "syrc", "thaa", "yezi"], [(0x60c, 0x60c), (0x61b, 0x61b)]⟩,
    ⟨["arab", "syrc", "thaa"], [(0x61c, 0x61c)]⟩,
    ⟨["adlm", "arab", "nkoo", "rohg", "syrc", "thaa", "yezi"], [(0x61f, 0x61f)]⟩,
    ⟨["adlm", "arab", "mand", "mani", "ougr", "phlp", "rohg", "sogd", "syrc"], [(0x640, 0x640)]⟩,
    ⟨["arab", "syrc"], [(0x64b, 0x655), (0x670, 0x670)]⟩,
    ⟨["arab", "thaa", "yezi"], [(0x660, 0x669)]⟩,
    ⟨["arab", "rohg"], [(0x6d4, 0x6d4)]⟩,
    ⟨["beng", "deva", "gran", "gujr", "guru", "knda", "latn", "mlym", "orya", "shrd", "taml",
       "telu", "tirh"],
     [(0x951, 0x951)]⟩,
    ⟨["beng", "deva", "gran", "gujr", "guru", "knda", "latn", "mlym", "orya", "taml", "telu",
       "tirh"],
     [(0x952, 0x952)]⟩,
    ⟨["beng", "deva", "dogr", "gong", "gonm", "gran", "gujr", "guru", "knda", "mahj", "mlym",
       "nand", "orya", "sind", "sinh", "sylo", "takr", "taml", "telu", "tirh"],
     [(0x964, 0x964)]⟩,
    ⟨["beng", "deva", "dogr", "gong", "gonm", "gran", "gujr", "guru", "knda", "limb", "mahj",
       "mlym", "nand", "orya", "sind", "sinh", "sylo", "takr", "taml", "telu", "tirh"],
     [(0x965, 0x965)]⟩,
    ⟨["deva", "dogr", "kthi", "mahj"], [(0x966, 0x96f)]⟩,
    ⟨["beng", "cakm", "sylo"], [(0x9e6, 0x9ef)]⟩,
    ⟨["guru", "mult"], [(0xa66, 0xa6f)]⟩,
    ⟨["gujr", "khoj"], [(0xae6, 0xaef)]⟩,
    ⟨["gran", "taml"],
     [(0xbe6, 0xbf3), (0x11301, 0x11301), (0x11303, 0x11303), (0x1133b, 0x1133c),
       (0x11fd0, 0x11fd1), (0x11fd3, 0x11fd3)]⟩,
    ⟨["knda", "nand"], [(0xce6, 0xcef)]⟩,
    ⟨["cakm", "mymr", "tale"], [(0x1040, 0x1049)]⟩,
    ⟨["geor", "latn"], [(0x10fb, 0x10fb)]⟩,
    ⟨["buhd", "hano", "tagb", "tglg"], [(0x1735, 0x1736)]⟩,
    ⟨["mong", "phag"], [(0x1802, 0x1803), (0x1805, 0x1805)]⟩,
    ⟨["beng", "deva", "gran", "knda"], [(0x1cd0, 0x1cd0), (0x1cd2, 0x1cd2)]⟩,
    ⟨["deva"],
     [(0x1cd1, 0x1cd1), (0x1cd4, 0x1cd4), (0x1cdb, 0x1cdb), (0x1cde, 0x1cdf), (0x1ce2, 0x1ce8),
       (0x1ceb, 0x1cec), (0x1cee, 0x1cf1)]⟩,
    ⟨["deva", "gran"], [(0x1cd3, 0x1cd3), (0x1cf3, 0x1cf3), (0x1cf8, 0x1cf9)]⟩,
    ⟨["beng", "deva"],
     [(0x1cd5, 0x1cd6), (0x1cd8, 0x1cd8), (0x1ce1, 0x1ce1), (0x1cea, 0x1cea), (0x1ced, 0x1ced),
       (0x1cf5, 0x1cf6), (0xa8f1, 0xa8f1)]⟩,
    ⟨["deva", "shrd"], [(0x1cd7, 0x1cd7), (0x1cd9, 0x1cd9), (0x1cdc, 0x1cdd), (0x1ce0, 0x1ce0)]⟩,
    ⟨["deva", "knda", "mlym", "orya", "taml", "telu"], [(0x1cda, 0x1cda)]⟩,
    ⟨["deva", "nand"], [(0x1ce9, 0x1ce9)]⟩,
    ⟨["beng", "deva", "gran", "knda", "nand", "orya", "telu", "tirh"], [(0x1cf2, 0x1cf2)]⟩,
    ⟨["deva", "gran", "knda"], [(0x1cf4, 0x1cf4)]⟩,
    ⟨["beng"], [(0x1cf7, 0x1cf7)]⟩,
    ⟨["nand"], [(0x1cfa, 0x1cfa)]⟩,
    ⟨["cyrl", "syrc"], [(0x1df8, 0x1df8)]⟩,
    ⟨["syrc"], [(0x1dfa, 0x1dfa)]⟩,
    ⟨["latn", "mong"], [(0x202f, 0x202f)]⟩,
    ⟨["deva", "gran", "latn"], [(0x20f0, 0x20f0)]⟩,
    ⟨["bopo", "hang", "hani", "hira", "kana", "yiii"],
     [(0x3001, 0x3002), (0x3008, 0x3011), (0x3014, 0x301b), (0x30fb, 0x30fb), (0xff61, 0xff65)]⟩,
    ⟨["bopo", "hang", "hani", "hira", "kana"],
     [(0x3003, 0x3003), (0x3013, 0x3013), (0x301c, 0x301f), (0x3030, 0x3030), (0x3037, 0x3037),
       (0xfe45, 0xfe46)]⟩,
    ⟨["hani"],
     [(0x3006, 0x3006), (0x303e, 0x303f), (0x3190, 0x319f), (0x31c0, 0x31e3), (0x3220, 0x3247),
       (0x3280, 0x32b0), (0x32c0, 0x32cb), (0x32ff, 0x32ff), (0x3358, 0x3370), (0x337b, 0x337f),
       (0x33e0, 0x33fe), (0x1d360, 0x1d371), (0x1f250, 0x1f251)]⟩,
    ⟨["bopo", "hani"], [(0x302a, 0x302d)]⟩,
    ⟨["hira", "kana"],
     [(0x3031, 0x3035), (0x3099, 0x309c), (0x30a0, 0x30a0), (0x30fc, 0x30fc), (0xff70, 0xff70),
       (0xff9e, 0xff9f)]⟩,
    ⟨["hani", "hira", "kana"], [(0x303c, 0x303d)]⟩,
    ⟨["hani", "latn"], [(0xa700, 0xa707)]⟩,
    ⟨["deva", "dogr", "gujr", "guru", "khoj", "knda", "kthi", "mahj", "mlym", "modi", "nand",
       "sind", "takr", "tirh"],
     [(0xa830, 0xa832)]⟩,
    ⟨["deva", "dogr", "gujr", "guru", "khoj", "knda", "kthi", "mahj", "modi", "nand", "sind",
       "takr", "tirh"],
     [(0xa833, 0xa835)]⟩,
    ⟨["deva", "dogr", "gujr", "guru", "khoj", "kthi", "mahj", "modi", "sind", "takr", "tirh"],
     [(0xa836, 0xa839)]⟩,
    ⟨["deva", "taml"], [(0xa8f3, 0xa8f3)]⟩,
    ⟨["kali", "latn", "mymr"], [(0xa92e, 0xa92e)]⟩,
    ⟨["bugi", "java"], [(0xa9cf, 0xa9cf)]⟩,
    ⟨["arab", "nkoo"], [(0xfd3e, 0xfd3f)]⟩,
    ⟨["arab", "thaa"], [(0xfdf2, 0xfdf2), (0xfdfd, 0xfdfd)]⟩,
    ⟨["cpmn", "cprt", "linb"], [(0x10100, 0x10101)]⟩,
    ⟨["cprt", "linb"], [(0x10102, 0x10102), (0x10137, 0x1013f)]⟩,
    ⟨["cprt", "lina", "linb"], [(0x10107, 0x10133)]⟩,
    ⟨["arab", "copt"], [(0x102e0, 0x102fb)]⟩,
    ⟨["mani", "ougr"], [(0x10af2, 0x10af2)]⟩,
    ⟨["dupl"], [(0x1bca0, 0x1bca3)]⟩ ]

end LeftRec.Text
