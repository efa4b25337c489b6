import LeftRec.Text.Script

/-!
# African scripts

The scripts of Africa, from the hieroglyphs to those of the last centuries.
-/

namespace LeftRec.Text

/-- The scripts of Africa. -/
def africanScripts : List Script :=
  [ ⟨["coptic", "copt", "qaac"],
      [ (0x3e2, 0x3ef), (0x2c80, 0x2cf3), (0x2cf9, 0x2cff) ]⟩,
    ⟨["ethiopic", "ethi"],
      [ (0x1200, 0x1248), (0x124a, 0x124d), (0x1250, 0x1256), (0x1258, 0x1258), (0x125a, 0x125d),
        (0x1260, 0x1288), (0x128a, 0x128d), (0x1290, 0x12b0), (0x12b2, 0x12b5), (0x12b8, 0x12be),
        (0x12c0, 0x12c0), (0x12c2, 0x12c5), (0x12c8, 0x12d6), (0x12d8, 0x1310), (0x1312, 0x1315),
        (0x1318, 0x135a), (0x135d, 0x137c), (0x1380, 0x1399), (0x2d80, 0x2d96), (0x2da0, 0x2da6),
        (0x2da8, 0x2dae), (0x2db0, 0x2db6), (0x2db8, 0x2dbe), (0x2dc0, 0x2dc6), (0x2dc8, 0x2dce),
        (0x2dd0, 0x2dd6), (0x2dd8, 0x2dde), (0xab01, 0xab06), (0xab09, 0xab0e), (0xab11, 0xab16),
        (0xab20, 0xab26), (0xab28, 0xab2e), (0x1e7e0, 0x1e7e6), (0x1e7e8, 0x1e7eb),
        (0x1e7ed, 0x1e7ee), (0x1e7f0, 0x1e7fe) ]⟩,
    ⟨["tifinagh", "tfng"],
      [ (0x2d30, 0x2d67), (0x2d6f, 0x2d70), (0x2d7f, 0x2d7f) ]⟩,
    ⟨["nko", "nkoo"],
      [ (0x7c0, 0x7fa), (0x7fd, 0x7ff) ]⟩,
    ⟨["vai", "vaii"],
      [ (0xa500, 0xa62b) ]⟩,
    ⟨["bamum", "bamu"],
      [ (0xa6a0, 0xa6f7), (0x16800, 0x16a38) ]⟩,
    ⟨["bassavah", "bass"],
      [ (0x16ad0, 0x16aed), (0x16af0, 0x16af5) ]⟩,
    ⟨["mendekikakui", "mend"],
      [ (0x1e800, 0x1e8c4), (0x1e8c7, 0x1e8d6) ]⟩,
    ⟨["adlam", "adlm"],
      [ (0x1e900, 0x1e94b), (0x1e950, 0x1e959), (0x1e95e, 0x1e95f) ]⟩,
    ⟨["medefaidrin", "medf"],
      [ (0x16e40, 0x16e9a) ]⟩,
    ⟨["osmanya", "osma"],
      [ (0x10480, 0x1049d), (0x104a0, 0x104a9) ]⟩,
    ⟨["meroitichieroglyphs", "mero"],
      [ (0x10980, 0x1099f) ]⟩,
    ⟨["meroiticcursive", "merc"],
      [ (0x109a0, 0x109b7), (0x109bc, 0x109cf), (0x109d2, 0x109ff) ]⟩,
    ⟨["egyptianhieroglyphs", "egyp"],
      [ (0x13000, 0x13455) ]⟩ ]

end LeftRec.Text
