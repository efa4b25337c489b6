import LeftRec.Text.Script

/-!
# Southeast Asian scripts

The scripts of Southeast Asia and its islands.
-/

namespace LeftRec.Text

/-- The scripts of Southeast Asia. -/
def southeastAsianScripts : List Script :=
  [ ⟨["thai"],
      [ (0xe01, 0xe3a), (0xe40, 0xe5b) ]⟩,
    ⟨["lao", "laoo"],
      [ (0xe81, 0xe82), (0xe84, 0xe84), (0xe86, 0xe8a), (0xe8c, 0xea3), (0xea5, 0xea5),
        (0xea7, 0xebd), (0xec0, 0xec4), (0xec6, 0xec6), (0xec8, 0xece), (0xed0, 0xed9),
        (0xedc, 0xedf) ]⟩,
    ⟨["khmer", "khmr"],
      [ (0x1780, 0x17dd), (0x17e0, 0x17e9), (0x17f0, 0x17f9), (0x19e0, 0x19ff) ]⟩,
    ⟨["myanmar", "mymr"],
      [ (0x1000, 0x109f), (0xa9e0, 0xa9fe), (0xaa60, 0xaa7f) ]⟩,
    ⟨["taile", "tale"],
      [ (0x1950, 0x196d), (0x1970, 0x1974) ]⟩,
    ⟨["newtailue", "talu"],
      [ (0x1980, 0x19ab), (0x19b0, 0x19c9), (0x19d0, 0x19da), (0x19de, 0x19df) ]⟩,
    ⟨["taitham", "lana"],
      [ (0x1a20, 0x1a5e), (0x1a60, 0x1a7c), (0x1a7f, 0x1a89), (0x1a90, 0x1a99), (0x1aa0, 0x1aad) ]⟩,
    ⟨["taiviet", "tavt"],
      [ (0xaa80, 0xaac2), (0xaadb, 0xaadf) ]⟩,
    ⟨["cham"],
      [ (0xaa00, 0xaa36), (0xaa40, 0xaa4d), (0xaa50, 0xaa59), (0xaa5c, 0xaa5f) ]⟩,
    ⟨["kayahli", "kali"],
      [ (0xa900, 0xa92d), (0xa92f, 0xa92f) ]⟩,
    ⟨["pahawhhmong", "hmng"],
      [ (0x16b00, 0x16b45), (0x16b50, 0x16b59), (0x16b5b, 0x16b61), (0x16b63, 0x16b77),
        (0x16b7d, 0x16b8f) ]⟩,
    ⟨["nyiakengpuachuehmong", "hmnp"],
      [ (0x1e100, 0x1e12c), (0x1e130, 0x1e13d), (0x1e140, 0x1e149), (0x1e14e, 0x1e14f) ]⟩,
    ⟨["paucinhau", "pauc"],
      [ (0x11ac0, 0x11af8) ]⟩,
    ⟨["balinese", "bali"],
      [ (0x1b00, 0x1b4c), (0x1b50, 0x1b7e) ]⟩,
    ⟨["javanese", "java"],
      [ (0xa980, 0xa9cd), (0xa9d0, 0xa9d9), (0xa9de, 0xa9df) ]⟩,
    ⟨["buginese", "bugi"],
      [ (0x1a00, 0x1a1b), (0x1a1e, 0x1a1f) ]⟩,
    ⟨["batak", "batk"],
      [ (0x1bc0, 0x1bf3), (0x1bfc, 0x1bff) ]⟩,
    ⟨["sundanese", "sund"],
      [ (0x1b80, 0x1bbf), (0x1cc0, 0x1cc7) ]⟩,
    ⟨["rejang", "rjng"],
      [ (0xa930, 0xa953), (0xa95f, 0xa95f) ]⟩,
    ⟨["makasar", "maka"],
      [ (0x11ee0, 0x11ef8) ]⟩,
    ⟨["kawi"],
      [ (0x11f00, 0x11f10), (0x11f12, 0x11f3a), (0x11f3e, 0x11f59) ]⟩,
    ⟨["tagalog", "tglg"],
      [ (0x1700, 0x1715), (0x171f, 0x171f) ]⟩,
    ⟨["hanunoo", "hano"],
      [ (0x1720, 0x1734) ]⟩,
    ⟨["buhid", "buhd"],
      [ (0x1740, 0x1753) ]⟩,
    ⟨["tagbanwa", "tagb"],
      [ (0x1760, 0x176c), (0x176e, 0x1770), (0x1772, 0x1773) ]⟩,
    ⟨["tangsa", "tnsa"],
      [ (0x16a70, 0x16abe), (0x16ac0, 0x16ac9) ]⟩ ]

end LeftRec.Text
