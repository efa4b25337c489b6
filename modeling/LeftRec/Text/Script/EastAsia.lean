import LeftRec.Text.Script

/-!
# East Asian scripts

The scripts of East and Central Asia.
-/

namespace LeftRec.Text

/-- The scripts of East and Central Asia. -/
def eastAsianScripts : List Script :=
  [ ⟨["han", "hani"],
      [ (0x2e80, 0x2e99), (0x2e9b, 0x2ef3), (0x2f00, 0x2fd5), (0x3005, 0x3005), (0x3007, 0x3007),
        (0x3021, 0x3029), (0x3038, 0x303b), (0x3400, 0x4dbf), (0x4e00, 0x9fff), (0xf900, 0xfa6d),
        (0xfa70, 0xfad9), (0x16fe2, 0x16fe3), (0x16ff0, 0x16ff1), (0x20000, 0x2a6df),
        (0x2a700, 0x2b739), (0x2b740, 0x2b81d), (0x2b820, 0x2cea1), (0x2ceb0, 0x2ebe0),
        (0x2f800, 0x2fa1d), (0x30000, 0x3134a), (0x31350, 0x323af) ]⟩,
    ⟨["hiragana", "hira"],
      [ (0x3041, 0x3096), (0x309d, 0x309f), (0x1b001, 0x1b11f), (0x1b132, 0x1b132),
        (0x1b150, 0x1b152), (0x1f200, 0x1f200) ]⟩,
    ⟨["katakana", "kana"],
      [ (0x30a1, 0x30fa), (0x30fd, 0x30ff), (0x31f0, 0x31ff), (0x32d0, 0x32fe), (0x3300, 0x3357),
        (0xff66, 0xff6f), (0xff71, 0xff9d), (0x1aff0, 0x1aff3), (0x1aff5, 0x1affb),
        (0x1affd, 0x1affe), (0x1b000, 0x1b000), (0x1b120, 0x1b122), (0x1b155, 0x1b155),
        (0x1b164, 0x1b167) ]⟩,
    ⟨["hangul", "hang"],
      [ (0x1100, 0x11ff), (0x302e, 0x302f), (0x3131, 0x318e), (0x3200, 0x321e), (0x3260, 0x327e),
        (0xa960, 0xa97c), (0xac00, 0xd7a3), (0xd7b0, 0xd7c6), (0xd7cb, 0xd7fb), (0xffa0, 0xffbe),
        (0xffc2, 0xffc7), (0xffca, 0xffcf), (0xffd2, 0xffd7), (0xffda, 0xffdc) ]⟩,
    ⟨["bopomofo", "bopo"],
      [ (0x2ea, 0x2eb), (0x3105, 0x312f), (0x31a0, 0x31bf) ]⟩,
    ⟨["yi", "yiii"],
      [ (0xa000, 0xa48c), (0xa490, 0xa4c6) ]⟩,
    ⟨["lisu"],
      [ (0xa4d0, 0xa4ff), (0x11fb0, 0x11fb0) ]⟩,
    ⟨["miao", "plrd"],
      [ (0x16f00, 0x16f4a), (0x16f4f, 0x16f87), (0x16f8f, 0x16f9f) ]⟩,
    ⟨["nushu", "nshu"],
      [ (0x16fe1, 0x16fe1), (0x1b170, 0x1b2fb) ]⟩,
    ⟨["tangut", "tang"],
      [ (0x16fe0, 0x16fe0), (0x17000, 0x187f7), (0x18800, 0x18aff), (0x18d00, 0x18d08) ]⟩,
    ⟨["khitansmallscript", "kits"],
      [ (0x16fe4, 0x16fe4), (0x18b00, 0x18cd5) ]⟩,
    ⟨["mongolian", "mong"],
      [ (0x1800, 0x1801), (0x1804, 0x1804), (0x1806, 0x1819), (0x1820, 0x1878), (0x1880, 0x18aa),
        (0x11660, 0x1166c) ]⟩,
    ⟨["phagspa", "phag"],
      [ (0xa840, 0xa877) ]⟩,
    ⟨["tibetan", "tibt"],
      [ (0xf00, 0xf47), (0xf49, 0xf6c), (0xf71, 0xf97), (0xf99, 0xfbc), (0xfbe, 0xfcc),
        (0xfce, 0xfd4), (0xfd9, 0xfda) ]⟩,
    ⟨["marchen", "marc"],
      [ (0x11c70, 0x11c8f), (0x11c92, 0x11ca7), (0x11ca9, 0x11cb6) ]⟩,
    ⟨["soyombo", "soyo"],
      [ (0x11a50, 0x11aa2) ]⟩,
    ⟨["zanabazarsquare", "zanb"],
      [ (0x11a00, 0x11a47) ]⟩,
    ⟨["oldturkic", "orkh"],
      [ (0x10c00, 0x10c48) ]⟩,
    ⟨["olduyghur", "ougr"],
      [ (0x10f70, 0x10f89) ]⟩,
    ⟨["sogdian", "sogd"],
      [ (0x10f30, 0x10f59) ]⟩,
    ⟨["oldsogdian", "sogo"],
      [ (0x10f00, 0x10f27) ]⟩ ]

end LeftRec.Text
