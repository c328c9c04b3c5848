import RestartCheck.Text.CharRange

/-!
# Letters of host names

Which characters a host name outside ASCII can consist of: the letters, marks and digits of all
scripts, in their lower case and in the simplest of their forms.  Letters of one alphabet often lie
two apart, so the table holds runs with a step.  The other tables tell the scripts and the shapes of
these characters apart; they say nothing about characters that are no letters of host names.

**Results.**
* `isLetter_ascii`: in ASCII the small letters, the digits and the hyphen are meant.
-/

namespace RestartCheck.Host

/-- Code points `first`, `first + step`, …, `last`. -/
structure Run where
  first : Nat
  last : Nat
  step : Nat

/-- The code point belongs to the run. -/
def Run.has (run : Run) (code : Nat) : Bool :=
  run.first ≤ code && code ≤ run.last && (code - run.first) % run.step == 0

/-- Letters outside ASCII. -/
def letterRuns : List Run :=
  [⟨0x00df, 0x00f6, 1⟩, ⟨0x00f8, 0x00ff, 1⟩, ⟨0x0101, 0x0131, 2⟩, ⟨0x0135, 0x0135, 1⟩,
   ⟨0x0137, 0x0138, 1⟩, ⟨0x013a, 0x013e, 2⟩, ⟨0x0142, 0x0148, 2⟩, ⟨0x014b, 0x0177, 2⟩,
   ⟨0x017a, 0x0180, 2⟩, ⟨0x0183, 0x0185, 2⟩, ⟨0x0188, 0x0188, 1⟩, ⟨0x018c, 0x018d, 1⟩,
   ⟨0x0192, 0x0192, 1⟩, ⟨0x0195, 0x0195, 1⟩, ⟨0x0199, 0x019b, 1⟩, ⟨0x019e, 0x019e, 1⟩,
   ⟨0x01a1, 0x01a5, 2⟩, ⟨0x01a8, 0x01a8, 1⟩, ⟨0x01aa, 0x01ab, 1⟩, ⟨0x01ad, 0x01ad, 1⟩,
   ⟨0x01b0, 0x01b0, 1⟩, ⟨0x01b4, 0x01b6, 2⟩, ⟨0x01b9, 0x01bb, 1⟩, ⟨0x01bd, 0x01c3, 1⟩,
   ⟨0x01ce, 0x01da, 2⟩, ⟨0x01dc, 0x01dd, 1⟩, ⟨0x01df, 0x01ed, 2⟩, ⟨0x01ef, 0x01f0, 1⟩,
   ⟨0x01f5, 0x01f5, 1⟩, ⟨0x01f9, 0x0231, 2⟩, ⟨0x0233, 0x0239, 1⟩, ⟨0x023c, 0x023c, 1⟩,
   ⟨0x023f, 0x0240, 1⟩, ⟨0x0242, 0x0242, 1⟩, ⟨0x0247, 0x024d, 2⟩, ⟨0x024f, 0x02af, 1⟩,
   ⟨0x02b9, 0x02c1, 1⟩, ⟨0x02c6, 0x02d1, 1⟩, ⟨0x02ec, 0x02ee, 2⟩, ⟨0x0300, 0x033f, 1⟩,
   ⟨0x0342, 0x0342, 1⟩, ⟨0x0346, 0x034e, 1⟩, ⟨0x0350, 0x036f, 1⟩, ⟨0x0371, 0x0373, 2⟩,
   ⟨0x0377, 0x0377, 1⟩, ⟨0x037b, 0x037d, 1⟩, ⟨0x0390, 0x0390, 1⟩, ⟨0x03ac, 0x03ce, 1⟩,
   ⟨0x03d7, 0x03ef, 2⟩, ⟨0x03f3, 0x03f3, 1⟩, ⟨0x03f8, 0x03f8, 1⟩, ⟨0x03fb, 0x03fc, 1⟩,
   ⟨0x0430, 0x045f, 1⟩, ⟨0x0461, 0x0481, 2⟩, ⟨0x0483, 0x0487, 1⟩, ⟨0x048b, 0x04bf, 2⟩,
   ⟨0x04c2, 0x04cc, 2⟩, ⟨0x04ce, 0x04cf, 1⟩, ⟨0x04d1, 0x052f, 2⟩, ⟨0x0559, 0x0559, 1⟩,
   ⟨0x0560, 0x0586, 1⟩, ⟨0x0588, 0x0588, 1⟩, ⟨0x0591, 0x05bd, 1⟩, ⟨0x05bf, 0x05bf, 1⟩,
   ⟨0x05c1, 0x05c2, 1⟩, ⟨0x05c4, 0x05c5, 1⟩, ⟨0x05c7, 0x05c7, 1⟩, ⟨0x05d0, 0x05ea, 1⟩,
   ⟨0x05ef, 0x05f2, 1⟩, ⟨0x0610, 0x061a, 1⟩, ⟨0x0620, 0x063f, 1⟩, ⟨0x0641, 0x065f, 1⟩,
   ⟨0x066e, 0x0674, 1⟩, ⟨0x0679, 0x06d3, 1⟩, ⟨0x06d5, 0x06dc, 1⟩, ⟨0x06df, 0x06e8, 1⟩,
   ⟨0x06ea, 0x06ef, 1⟩, ⟨0x06fa, 0x06ff, 1⟩, ⟨0x0710, 0x074a, 1⟩, ⟨0x074d, 0x07b1, 1⟩,
   ⟨0x07c0, 0x07f5, 1⟩, ⟨0x07fd, 0x07fd, 1⟩, ⟨0x0800, 0x082d, 1⟩, ⟨0x0840, 0x085b, 1⟩,
   ⟨0x0860, 0x086a, 1⟩, ⟨0x0870, 0x0887, 1⟩, ⟨0x0889, 0x088e, 1⟩, ⟨0x0898, 0x08e1, 1⟩,
   ⟨0x08e3, 0x0957, 1⟩, ⟨0x0960, 0x0963, 1⟩, ⟨0x0966, 0x096f, 1⟩, ⟨0x0971, 0x0983, 1⟩,
   ⟨0x0985, 0x098c, 1⟩, ⟨0x098f, 0x0990, 1⟩, ⟨0x0993, 0x09a8, 1⟩, ⟨0x09aa, 0x09b0, 1⟩,
   ⟨0x09b2, 0x09b2, 1⟩, ⟨0x09b6, 0x09b9, 1⟩, ⟨0x09bc, 0x09c4, 1⟩, ⟨0x09c7, 0x09c8, 1⟩,
   ⟨0x09cb, 0x09ce, 1⟩, ⟨0x09d7, 0x09d7, 1⟩, ⟨0x09e0, 0x09e3, 1⟩, ⟨0x09e6, 0x09f1, 1⟩,
   ⟨0x09fc, 0x09fe, 2⟩, ⟨0x0a01, 0x0a03, 1⟩, ⟨0x0a05, 0x0a0a, 1⟩, ⟨0x0a0f, 0x0a10, 1⟩,
   ⟨0x0a13, 0x0a28, 1⟩, ⟨0x0a2a, 0x0a30, 1⟩, ⟨0x0a32, 0x0a32, 1⟩, ⟨0x0a35, 0x0a35, 1⟩,
   ⟨0x0a38, 0x0a39, 1⟩, ⟨0x0a3c, 0x0a3c, 1⟩, ⟨0x0a3e, 0x0a42, 1⟩, ⟨0x0a47, 0x0a48, 1⟩,
   ⟨0x0a4b, 0x0a4d, 1⟩, ⟨0x0a51, 0x0a51, 1⟩, ⟨0x0a5c, 0x0a5c, 1⟩, ⟨0x0a66, 0x0a75, 1⟩,
   ⟨0x0a81, 0x0a83, 1⟩, ⟨0x0a85, 0x0a8d, 1⟩, ⟨0x0a8f, 0x0a91, 1⟩, ⟨0x0a93, 0x0aa8, 1⟩,
   ⟨0x0aaa, 0x0ab0, 1⟩, ⟨0x0ab2, 0x0ab3, 1⟩, ⟨0x0ab5, 0x0ab9, 1⟩, ⟨0x0abc, 0x0ac5, 1⟩,
   ⟨0x0ac7, 0x0ac9, 1⟩, ⟨0x0acb, 0x0acd, 1⟩, ⟨0x0ad0, 0x0ad0, 1⟩, ⟨0x0ae0, 0x0ae3, 1⟩,
   ⟨0x0ae6, 0x0aef, 1⟩, ⟨0x0af9, 0x0aff, 1⟩, ⟨0x0b01, 0x0b03, 1⟩, ⟨0x0b05, 0x0b0c, 1⟩,
   ⟨0x0b0f, 0x0b10, 1⟩, ⟨0x0b13, 0x0b28, 1⟩, ⟨0x0b2a, 0x0b30, 1⟩, ⟨0x0b32, 0x0b33, 1⟩,
   ⟨0x0b35, 0x0b39, 1⟩, ⟨0x0b3c, 0x0b44, 1⟩, ⟨0x0b47, 0x0b48, 1⟩, ⟨0x0b4b, 0x0b4d, 1⟩,
   ⟨0x0b55, 0x0b57, 1⟩, ⟨0x0b5f, 0x0b63, 1⟩, ⟨0x0b66, 0x0b6f, 1⟩, ⟨0x0b71, 0x0b71, 1⟩,
   ⟨0x0b82, 0x0b83, 1⟩, ⟨0x0b85, 0x0b8a, 1⟩, ⟨0x0b8e, 0x0b90, 1⟩, ⟨0x0b92, 0x0b95, 1⟩,
   ⟨0x0b99, 0x0b9a, 1⟩, ⟨0x0b9c, 0x0b9c, 1⟩, ⟨0x0b9e, 0x0b9f, 1⟩, ⟨0x0ba3, 0x0ba4, 1⟩,
   ⟨0x0ba8, 0x0baa, 1⟩, ⟨0x0bae, 0x0bb9, 1⟩, ⟨0x0bbe, 0x0bc2, 1⟩, ⟨0x0bc6, 0x0bc8, 1⟩,
   ⟨0x0bca, 0x0bcd, 1⟩, ⟨0x0bd0, 0x0bd0, 1⟩, ⟨0x0bd7, 0x0bd7, 1⟩, ⟨0x0be6, 0x0bef, 1⟩,
   ⟨0x0c00, 0x0c0c, 1⟩, ⟨0x0c0e, 0x0c10, 1⟩, ⟨0x0c12, 0x0c28, 1⟩, ⟨0x0c2a, 0x0c39, 1⟩,
   ⟨0x0c3c, 0x0c44, 1⟩, ⟨0x0c46, 0x0c48, 1⟩, ⟨0x0c4a, 0x0c4d, 1⟩, ⟨0x0c55, 0x0c56, 1⟩,
   ⟨0x0c58, 0x0c5a, 1⟩, ⟨0x0c5d, 0x0c5d, 1⟩, ⟨0x0c60, 0x0c63, 1⟩, ⟨0x0c66, 0x0c6f, 1⟩,
   ⟨0x0c80, 0x0c83, 1⟩, ⟨0x0c85, 0x0c8c, 1⟩, ⟨0x0c8e, 0x0c90, 1⟩, ⟨0x0c92, 0x0ca8, 1⟩,
   ⟨0x0caa, 0x0cb3, 1⟩, ⟨0x0cb5, 0x0cb9, 1⟩, ⟨0x0cbc, 0x0cc4, 1⟩, ⟨0x0cc6, 0x0cc8, 1⟩,
   ⟨0x0cca, 0x0ccd, 1⟩, ⟨0x0cd5, 0x0cd6, 1⟩, ⟨0x0cdd, 0x0cde, 1⟩, ⟨0x0ce0, 0x0ce3, 1⟩,
   ⟨0x0ce6, 0x0cef, 1⟩, ⟨0x0cf1, 0x0cf2, 1⟩, ⟨0x0d00, 0x0d0c, 1⟩, ⟨0x0d0e, 0x0d10, 1⟩,
   ⟨0x0d12, 0x0d44, 1⟩, ⟨0x0d46, 0x0d48, 1⟩, ⟨0x0d4a, 0x0d4e, 1⟩, ⟨0x0d54, 0x0d57, 1⟩,
   ⟨0x0d5f, 0x0d63, 1⟩, ⟨0x0d66, 0x0d6f, 1⟩, ⟨0x0d7a, 0x0d7f, 1⟩, ⟨0x0d81, 0x0d83, 1⟩,
   ⟨0x0d85, 0x0d96, 1⟩, ⟨0x0d9a, 0x0db1, 1⟩, ⟨0x0db3, 0x0dbb, 1⟩, ⟨0x0dbd, 0x0dbd, 1⟩,
   ⟨0x0dc0, 0x0dc6, 1⟩, ⟨0x0dca, 0x0dca, 1⟩, ⟨0x0dcf, 0x0dd4, 1⟩, ⟨0x0dd6, 0x0dd6, 1⟩,
   ⟨0x0dd8, 0x0ddf, 1⟩, ⟨0x0de6, 0x0def, 1⟩, ⟨0x0df2, 0x0df3, 1⟩, ⟨0x0e01, 0x0e32, 1⟩,
   ⟨0x0e34, 0x0e3a, 1⟩, ⟨0x0e40, 0x0e4e, 1⟩, ⟨0x0e50, 0x0e59, 1⟩, ⟨0x0e81, 0x0e82, 1⟩,
   ⟨0x0e84, 0x0e84, 1⟩, ⟨0x0e86, 0x0e8a, 1⟩, ⟨0x0e8c, 0x0ea3, 1⟩, ⟨0x0ea5, 0x0ea5, 1⟩,
   ⟨0x0ea7, 0x0eb2, 1⟩, ⟨0x0eb4, 0x0ebd, 1⟩, ⟨0x0ec0, 0x0ec4, 1⟩, ⟨0x0ec6, 0x0ec6, 1⟩,
   ⟨0x0ec8, 0x0ecd, 1⟩, ⟨0x0ed0, 0x0ed9, 1⟩, ⟨0x0ede, 0x0edf, 1⟩, ⟨0x0f00, 0x0f00, 1⟩,
   ⟨0x0f0b, 0x0f0b, 1⟩, ⟨0x0f18, 0x0f19, 1⟩, ⟨0x0f20, 0x0f29, 1⟩, ⟨0x0f35, 0x0f39, 2⟩,
   ⟨0x0f3e, 0x0f42, 1⟩, ⟨0x0f44, 0x0f47, 1⟩, ⟨0x0f49, 0x0f4c, 1⟩, ⟨0x0f4e, 0x0f51, 1⟩,
   ⟨0x0f53, 0x0f56, 1⟩, ⟨0x0f58, 0x0f5b, 1⟩, ⟨0x0f5d, 0x0f68, 1⟩, ⟨0x0f6a, 0x0f6c, 1⟩,
   ⟨0x0f71, 0x0f72, 1⟩, ⟨0x0f74, 0x0f74, 1⟩, ⟨0x0f7a, 0x0f80, 1⟩, ⟨0x0f82, 0x0f84, 1⟩,
   ⟨0x0f86, 0x0f92, 1⟩, ⟨0x0f94, 0x0f97, 1⟩, ⟨0x0f99, 0x0f9c, 1⟩, ⟨0x0f9e, 0x0fa1, 1⟩,
   ⟨0x0fa3, 0x0fa6, 1⟩, ⟨0x0fa8, 0x0fab, 1⟩, ⟨0x0fad, 0x0fb8, 1⟩, ⟨0x0fba, 0x0fbc, 1⟩,
   ⟨0x0fc6, 0x0fc6, 1⟩, ⟨0x1000, 0x1049, 1⟩, ⟨0x1050, 0x109d, 1⟩, ⟨0x10d0, 0x10fa, 1⟩,
   ⟨0x10fd, 0x10ff, 1⟩, ⟨0x1200, 0x1248, 1⟩, ⟨0x124a, 0x124d, 1⟩, ⟨0x1250, 0x1256, 1⟩,
   ⟨0x1258, 0x1258, 1⟩, ⟨0x125a, 0x125d, 1⟩, ⟨0x1260, 0x1288, 1⟩, ⟨0x128a, 0x128d, 1⟩,
   ⟨0x1290, 0x12b0, 1⟩, ⟨0x12b2, 0x12b5, 1⟩, ⟨0x12b8, 0x12be, 1⟩, ⟨0x12c0, 0x12c0, 1⟩,
   ⟨0x12c2, 0x12c5, 1⟩, ⟨0x12c8, 0x12d6, 1⟩, ⟨0x12d8, 0x1310, 1⟩, ⟨0x1312, 0x1315, 1⟩,
   ⟨0x1318, 0x135a, 1⟩, ⟨0x135d, 0x135f, 1⟩, ⟨0x1380, 0x138f, 1⟩, ⟨0x13a0, 0x13f5, 1⟩,
   ⟨0x1401, 0x166c, 1⟩, ⟨0x166f, 0x167f, 1⟩, ⟨0x1681, 0x169a, 1⟩, ⟨0x16a0, 0x16ea, 1⟩,
   ⟨0x16f1, 0x16f8, 1⟩, ⟨0x1700, 0x1715, 1⟩, ⟨0x171f, 0x1734, 1⟩, ⟨0x1740, 0x1753, 1⟩,
   ⟨0x1760, 0x176c, 1⟩, ⟨0x176e, 0x1770, 1⟩, ⟨0x1772, 0x1773, 1⟩, ⟨0x1780, 0x17b3, 1⟩,
   ⟨0x17b6, 0x17d3, 1⟩, ⟨0x17d7, 0x17d7, 1⟩, ⟨0x17dc, 0x17dd, 1⟩, ⟨0x17e0, 0x17e9, 1⟩,
   ⟨0x1810, 0x1819, 1⟩, ⟨0x1820, 0x1878, 1⟩, ⟨0x1880, 0x18aa, 1⟩, ⟨0x18b0, 0x18f5, 1⟩,
   ⟨0x1900, 0x191e, 1⟩, ⟨0x1920, 0x192b, 1⟩, ⟨0x1930, 0x193b, 1⟩, ⟨0x1946, 0x196d, 1⟩,
   ⟨0x1970, 0x1974, 1⟩, ⟨0x1980, 0x19ab, 1⟩, ⟨0x19b0, 0x19c9, 1⟩, ⟨0x19d0, 0x19d9, 1⟩,
   ⟨0x1a00, 0x1a1b, 1⟩, ⟨0x1a20, 0x1a5e, 1⟩, ⟨0x1a60, 0x1a7c, 1⟩, ⟨0x1a7f, 0x1a89, 1⟩,
   ⟨0x1a90, 0x1a99, 1⟩, ⟨0x1aa7, 0x1aa7, 1⟩, ⟨0x1ab0, 0x1abd, 1⟩, ⟨0x1abf, 0x1ace, 1⟩,
   ⟨0x1b00, 0x1b4c, 1⟩, ⟨0x1b50, 0x1b59, 1⟩, ⟨0x1b6b, 0x1b73, 1⟩, ⟨0x1b80, 0x1bf3, 1⟩,
   ⟨0x1c00, 0x1c37, 1⟩, ⟨0x1c40, 0x1c49, 1⟩, ⟨0x1c4d, 0x1c7d, 1⟩, ⟨0x1cd0, 0x1cd2, 1⟩,
   ⟨0x1cd4, 0x1cfa, 1⟩, ⟨0x1d00, 0x1d2b, 1⟩, ⟨0x1d2f, 0x1d2f, 1⟩, ⟨0x1d3b, 0x1d3b, 1⟩,
   ⟨0x1d4e, 0x1d4e, 1⟩, ⟨0x1d6b, 0x1d77, 1⟩, ⟨0x1d79, 0x1d9a, 1⟩, ⟨0x1dc0, 0x1dff, 1⟩,
   ⟨0x1e01, 0x1e93, 2⟩, ⟨0x1e95, 0x1e99, 1⟩, ⟨0x1e9c, 0x1e9d, 1⟩, ⟨0x1e9f, 0x1efd, 2⟩,
   ⟨0x1eff, 0x1f07, 1⟩, ⟨0x1f10, 0x1f15, 1⟩, ⟨0x1f20, 0x1f27, 1⟩, ⟨0x1f30, 0x1f37, 1⟩,
   ⟨0x1f40, 0x1f45, 1⟩, ⟨0x1f50, 0x1f57, 1⟩, ⟨0x1f60, 0x1f67, 1⟩, ⟨0x1f70, 0x1f7c, 2⟩,
   ⟨0x1fb0, 0x1fb1, 1⟩, ⟨0x1fb6, 0x1fb6, 1⟩, ⟨0x1fc6, 0x1fc6, 1⟩, ⟨0x1fd0, 0x1fd2, 1⟩,
   ⟨0x1fd6, 0x1fd7, 1⟩, ⟨0x1fe0, 0x1fe2, 1⟩, ⟨0x1fe4, 0x1fe7, 1⟩, ⟨0x1ff6, 0x1ff6, 1⟩,
   ⟨0x214e, 0x214e, 1⟩, ⟨0x2184, 0x2184, 1⟩, ⟨0x2c30, 0x2c5f, 1⟩, ⟨0x2c61, 0x2c61, 1⟩,
   ⟨0x2c65, 0x2c66, 1⟩, ⟨0x2c68, 0x2c6c, 2⟩, ⟨0x2c71, 0x2c71, 1⟩, ⟨0x2c73, 0x2c74, 1⟩,
   ⟨0x2c76, 0x2c7b, 1⟩, ⟨0x2c81, 0x2ce1, 2⟩, ⟨0x2ce3, 0x2ce4, 1⟩, ⟨0x2cec, 0x2cec, 1⟩,
   ⟨0x2cee, 0x2cf1, 1⟩, ⟨0x2cf3, 0x2cf3, 1⟩, ⟨0x2d00, 0x2d25, 1⟩, ⟨0x2d27, 0x2d27, 1⟩,
   ⟨0x2d2d, 0x2d2d, 1⟩, ⟨0x2d30, 0x2d67, 1⟩, ⟨0x2d7f, 0x2d96, 1⟩, ⟨0x2da0, 0x2da6, 1⟩,
   ⟨0x2da8, 0x2dae, 1⟩, ⟨0x2db0, 0x2db6, 1⟩, ⟨0x2db8, 0x2dbe, 1⟩, ⟨0x2dc0, 0x2dc6, 1⟩,
   ⟨0x2dc8, 0x2dce, 1⟩, ⟨0x2dd0, 0x2dd6, 1⟩, ⟨0x2dd8, 0x2dde, 1⟩, ⟨0x2de0, 0x2dff, 1⟩,
   ⟨0x2e2f, 0x2e2f, 1⟩, ⟨0x3005, 0x3007, 1⟩, ⟨0x302a, 0x302d, 1⟩, ⟨0x303c, 0x303c, 1⟩,
   ⟨0x3041, 0x3096, 1⟩, ⟨0x3099, 0x309a, 1⟩, ⟨0x309d, 0x309e, 1⟩, ⟨0x30a1, 0x30fa, 1⟩,
   ⟨0x30fc, 0x30fe, 1⟩, ⟨0x3105, 0x312f, 1⟩, ⟨0x31a0, 0x31bf, 1⟩, ⟨0x31f0, 0x31ff, 1⟩,
   ⟨0x3400, 0x4dbf, 1⟩, ⟨0x4e00, 0xa48c, 1⟩, ⟨0xa4d0, 0xa4fd, 1⟩, ⟨0xa500, 0xa60c, 1⟩,
   ⟨0xa610, 0xa62b, 1⟩, ⟨0xa641, 0xa66b, 2⟩, ⟨0xa66d, 0xa66f, 1⟩, ⟨0xa674, 0xa67d, 1⟩,
   ⟨0xa67f, 0xa69b, 2⟩, ⟨0xa69e, 0xa6e5, 1⟩, ⟨0xa6f0, 0xa6f1, 1⟩, ⟨0xa717, 0xa71f, 1⟩,
   ⟨0xa723, 0xa72d, 2⟩, ⟨0xa72f, 0xa731, 1⟩, ⟨0xa733, 0xa76f, 2⟩, ⟨0xa771, 0xa778, 1⟩,
   ⟨0xa77a, 0xa77c, 2⟩, ⟨0xa77f, 0xa785, 2⟩, ⟨0xa787, 0xa788, 1⟩, ⟨0xa78c, 0xa78c, 1⟩,
   ⟨0xa78e, 0xa78f, 1⟩, ⟨0xa791, 0xa791, 1⟩, ⟨0xa793, 0xa795, 1⟩, ⟨0xa797, 0xa7a9, 2⟩,
   ⟨0xa7af, 0xa7af, 1⟩, ⟨0xa7b5, 0xa7c3, 2⟩, ⟨0xa7c8, 0xa7ca, 2⟩, ⟨0xa7d1, 0xa7d9, 2⟩,
   ⟨0xa7f6, 0xa7f7, 1⟩, ⟨0xa7fa, 0xa827, 1⟩, ⟨0xa82c, 0xa82c, 1⟩, ⟨0xa840, 0xa873, 1⟩,
   ⟨0xa880, 0xa8c5, 1⟩, ⟨0xa8d0, 0xa8d9, 1⟩, ⟨0xa8e0, 0xa8f7, 1⟩, ⟨0xa8fb, 0xa8fb, 1⟩,
   ⟨0xa8fd, 0xa92d, 1⟩, ⟨0xa930, 0xa953, 1⟩, ⟨0xa980, 0xa9c0, 1⟩, ⟨0xa9cf, 0xa9d9, 1⟩,
   ⟨0xa9e0, 0xa9fe, 1⟩, ⟨0xaa00, 0xaa36, 1⟩, ⟨0xaa40, 0xaa4d, 1⟩, ⟨0xaa50, 0xaa59, 1⟩,
   ⟨0xaa60, 0xaa76, 1⟩, ⟨0xaa7a, 0xaac2, 1⟩, ⟨0xaadb, 0xaadd, 1⟩, ⟨0xaae0, 0xaaef, 1⟩,
   ⟨0xaaf2, 0xaaf6, 1⟩, ⟨0xab01, 0xab06, 1⟩, ⟨0xab09, 0xab0e, 1⟩, ⟨0xab11, 0xab16, 1⟩,
   ⟨0xab20, 0xab26, 1⟩, ⟨0xab28, 0xab2e, 1⟩, ⟨0xab30, 0xab5a, 1⟩, ⟨0xab60, 0xab68, 1⟩,
   ⟨0xabc0, 0xabea, 1⟩, ⟨0xabec, 0xabed, 1⟩, ⟨0xabf0, 0xabf9, 1⟩, ⟨0xac00, 0xd7a3, 1⟩,
   ⟨0xfa0e, 0xfa0f, 1⟩, ⟨0xfa11, 0xfa11, 1⟩, ⟨0xfa13, 0xfa14, 1⟩, ⟨0xfa1f, 0xfa21, 2⟩,
   ⟨0xfa23, 0xfa24, 1⟩, ⟨0xfa27, 0xfa29, 1⟩, ⟨0xfb1e, 0xfb1e, 1⟩, ⟨0xfe20, 0xfe2f, 1⟩,
   ⟨0xfe73, 0xfe73, 1⟩, ⟨0x10000, 0x1000b, 1⟩, ⟨0x1000d, 0x10026, 1⟩, ⟨0x10028, 0x1003a, 1⟩,
   ⟨0x1003c, 0x1003d, 1⟩, ⟨0x1003f, 0x1004d, 1⟩, ⟨0x10050, 0x1005d, 1⟩, ⟨0x10080, 0x100fa, 1⟩,
   ⟨0x101fd, 0x101fd, 1⟩, ⟨0x10280, 0x1029c, 1⟩, ⟨0x102a0, 0x102d0, 1⟩, ⟨0x102e0, 0x102e0, 1⟩,
   ⟨0x10300, 0x1031f, 1⟩, ⟨0x1032d, 0x10340, 1⟩, ⟨0x10342, 0x10349, 1⟩, ⟨0x10350, 0x1037a, 1⟩,
   ⟨0x10380, 0x1039d, 1⟩, ⟨0x103a0, 0x103c3, 1⟩, ⟨0x103c8, 0x103cf, 1⟩, ⟨0x10428, 0x1049d, 1⟩,
   ⟨0x104a0, 0x104a9, 1⟩, ⟨0x104d8, 0x104fb, 1⟩, ⟨0x10500, 0x10527, 1⟩, ⟨0x10530, 0x10563, 1⟩,
   ⟨0x10597, 0x105a1, 1⟩, ⟨0x105a3, 0x105b1, 1⟩, ⟨0x105b3, 0x105b9, 1⟩, ⟨0x105bb, 0x105bc, 1⟩,
   ⟨0x10600, 0x10736, 1⟩, ⟨0x10740, 0x10755, 1⟩, ⟨0x10760, 0x10767, 1⟩, ⟨0x10780, 0x10780, 1⟩,
   ⟨0x10800, 0x10805, 1⟩, ⟨0x10808, 0x10808, 1⟩, ⟨0x1080a, 0x10835, 1⟩, ⟨0x10837, 0x10838, 1⟩,
   ⟨0x1083c, 0x1083c, 1⟩, ⟨0x1083f, 0x10855, 1⟩, ⟨0x10860, 0x10876, 1⟩, ⟨0x10880, 0x1089e, 1⟩,
   ⟨0x108e0, 0x108f2, 1⟩, ⟨0x108f4, 0x108f5, 1⟩, ⟨0x10900, 0x10915, 1⟩, ⟨0x10920, 0x10939, 1⟩,
   ⟨0x10980, 0x109b7, 1⟩, ⟨0x109be, 0x109bf, 1⟩, ⟨0x10a00, 0x10a03, 1⟩, ⟨0x10a05, 0x10a06, 1⟩,
   ⟨0x10a0c, 0x10a13, 1⟩, ⟨0x10a15, 0x10a17, 1⟩, ⟨0x10a19, 0x10a35, 1⟩, ⟨0x10a38, 0x10a3a, 1⟩,
   ⟨0x10a3f, 0x10a3f, 1⟩, ⟨0x10a60, 0x10a7c, 1⟩, ⟨0x10a80, 0x10a9c, 1⟩, ⟨0x10ac0, 0x10ac7, 1⟩,
   ⟨0x10ac9, 0x10ae6, 1⟩, ⟨0x10b00, 0x10b35, 1⟩, ⟨0x10b40, 0x10b55, 1⟩, ⟨0x10b60, 0x10b72, 1⟩,
   ⟨0x10b80, 0x10b91, 1⟩, ⟨0x10c00, 0x10c48, 1⟩, ⟨0x10cc0, 0x10cf2, 1⟩, ⟨0x10d00, 0x10d27, 1⟩,
   ⟨0x10d30, 0x10d39, 1⟩, ⟨0x10e80, 0x10ea9, 1⟩, ⟨0x10eab, 0x10eac, 1⟩, ⟨0x10eb0, 0x10eb1, 1⟩,
   ⟨0x10f00, 0x10f1c, 1⟩, ⟨0x10f27, 0x10f27, 1⟩, ⟨0x10f30, 0x10f50, 1⟩, ⟨0x10f70, 0x10f85, 1⟩,
   ⟨0x10fb0, 0x10fc4, 1⟩, ⟨0x10fe0, 0x10ff6, 1⟩, ⟨0x11000, 0x11046, 1⟩, ⟨0x11066, 0x11075, 1⟩,
   ⟨0x1107f, 0x110ba, 1⟩, ⟨0x110c2, 0x110c2, 1⟩, ⟨0x110d0, 0x110e8, 1⟩, ⟨0x110f0, 0x110f9, 1⟩,
   ⟨0x11100, 0x11134, 1⟩, ⟨0x11136, 0x1113f, 1⟩, ⟨0x11144, 0x11147, 1⟩, ⟨0x11150, 0x11173, 1⟩,
   ⟨0x11176, 0x11176, 1⟩, ⟨0x11180, 0x111c4, 1⟩, ⟨0x111c9, 0x111cc, 1⟩, ⟨0x111ce, 0x111da, 1⟩,
   ⟨0x111dc, 0x111dc, 1⟩, ⟨0x11200, 0x11211, 1⟩, ⟨0x11213, 0x11237, 1⟩, ⟨0x1123e, 0x1123e, 1⟩,
   ⟨0x11280, 0x11286, 1⟩, ⟨0x11288, 0x11288, 1⟩, ⟨0x1128a, 0x1128d, 1⟩, ⟨0x1128f, 0x1129d, 1⟩,
   ⟨0x1129f, 0x112a8, 1⟩, ⟨0x112b0, 0x112ea, 1⟩, ⟨0x112f0, 0x112f9, 1⟩, ⟨0x11300, 0x11303, 1⟩,
   ⟨0x11305, 0x1130c, 1⟩, ⟨0x1130f, 0x11310, 1⟩, ⟨0x11313, 0x11328, 1⟩, ⟨0x1132a, 0x11330, 1⟩,
   ⟨0x11332, 0x11333, 1⟩, ⟨0x11335, 0x11339, 1⟩, ⟨0x1133b, 0x11344, 1⟩, ⟨0x11347, 0x11348, 1⟩,
   ⟨0x1134b, 0x1134d, 1⟩, ⟨0x11350, 0x11350, 1⟩, ⟨0x11357, 0x11357, 1⟩, ⟨0x1135d, 0x11363, 1⟩,
   ⟨0x11366, 0x1136c, 1⟩, ⟨0x11370, 0x11374, 1⟩, ⟨0x11400, 0x1144a, 1⟩, ⟨0x11450, 0x11459, 1⟩,
   ⟨0x1145e, 0x11461, 1⟩, ⟨0x11480, 0x114c5, 1⟩, ⟨0x114c7, 0x114c7, 1⟩, ⟨0x114d0, 0x114d9, 1⟩,
   ⟨0x11580, 0x115b5, 1⟩, ⟨0x115b8, 0x115c0, 1⟩, ⟨0x115d8, 0x115dd, 1⟩, ⟨0x11600, 0x11640, 1⟩,
   ⟨0x11644, 0x11644, 1⟩, ⟨0x11650, 0x11659, 1⟩, ⟨0x11680, 0x116b8, 1⟩, ⟨0x116c0, 0x116c9, 1⟩,
   ⟨0x11700, 0x1171a, 1⟩, ⟨0x1171d, 0x1172b, 1⟩, ⟨0x11730, 0x11739, 1⟩, ⟨0x11740, 0x11746, 1⟩,
   ⟨0x11800, 0x1183a, 1⟩, ⟨0x118c0, 0x118e9, 1⟩, ⟨0x118ff, 0x11906, 1⟩, ⟨0x11909, 0x11909, 1⟩,
   ⟨0x1190c, 0x11913, 1⟩, ⟨0x11915, 0x11916, 1⟩, ⟨0x11918, 0x11935, 1⟩, ⟨0x11937, 0x11938, 1⟩,
   ⟨0x1193b, 0x11943, 1⟩, ⟨0x11950, 0x11959, 1⟩, ⟨0x119a0, 0x119a7, 1⟩, ⟨0x119aa, 0x119d7, 1⟩,
   ⟨0x119da, 0x119e1, 1⟩, ⟨0x119e3, 0x119e4, 1⟩, ⟨0x11a00, 0x11a3e, 1⟩, ⟨0x11a47, 0x11a47, 1⟩,
   ⟨0x11a50, 0x11a99, 1⟩, ⟨0x11a9d, 0x11a9d, 1⟩, ⟨0x11ab0, 0x11af8, 1⟩, ⟨0x11c00, 0x11c08, 1⟩,
   ⟨0x11c0a, 0x11c36, 1⟩, ⟨0x11c38, 0x11c40, 1⟩, ⟨0x11c50, 0x11c59, 1⟩, ⟨0x11c72, 0x11c8f, 1⟩,
   ⟨0x11c92, 0x11ca7, 1⟩, ⟨0x11ca9, 0x11cb6, 1⟩, ⟨0x11d00, 0x11d06, 1⟩, ⟨0x11d08, 0x11d09, 1⟩,
   ⟨0x11d0b, 0x11d36, 1⟩, ⟨0x11d3a, 0x11d3a, 1⟩, ⟨0x11d3c, 0x11d3d, 1⟩, ⟨0x11d3f, 0x11d47, 1⟩,
   ⟨0x11d50, 0x11d59, 1⟩, ⟨0x11d60, 0x11d65, 1⟩, ⟨0x11d67, 0x11d68, 1⟩, ⟨0x11d6a, 0x11d8e, 1⟩,
   ⟨0x11d90, 0x11d91, 1⟩, ⟨0x11d93, 0x11d98, 1⟩, ⟨0x11da0, 0x11da9, 1⟩, ⟨0x11ee0, 0x11ef6, 1⟩,
   ⟨0x11fb0, 0x11fb0, 1⟩, ⟨0x12000, 0x12399, 1⟩, ⟨0x12480, 0x12543, 1⟩, ⟨0x12f90, 0x12ff0, 1⟩,
   ⟨0x13000, 0x1342e, 1⟩, ⟨0x14400, 0x14646, 1⟩, ⟨0x16800, 0x16a38, 1⟩, ⟨0x16a40, 0x16a5e, 1⟩,
   ⟨0x16a60, 0x16a69, 1⟩, ⟨0x16a70, 0x16abe, 1⟩, ⟨0x16ac0, 0x16ac9, 1⟩, ⟨0x16ad0, 0x16aed, 1⟩,
   ⟨0x16af0, 0x16af4, 1⟩, ⟨0x16b00, 0x16b36, 1⟩, ⟨0x16b40, 0x16b43, 1⟩, ⟨0x16b50, 0x16b59, 1⟩,
   ⟨0x16b63, 0x16b77, 1⟩, ⟨0x16b7d, 0x16b8f, 1⟩, ⟨0x16e60, 0x16e7f, 1⟩, ⟨0x16f00, 0x16f4a, 1⟩,
   ⟨0x16f4f, 0x16f87, 1⟩, ⟨0x16f8f, 0x16f9f, 1⟩, ⟨0x16fe0, 0x16fe1, 1⟩, ⟨0x16fe3, 0x16fe4, 1⟩,
   ⟨0x16ff0, 0x16ff1, 1⟩, ⟨0x17000, 0x187f7, 1⟩, ⟨0x18800, 0x18cd5, 1⟩, ⟨0x18d00, 0x18d08, 1⟩,
   ⟨0x1aff0, 0x1aff3, 1⟩, ⟨0x1aff5, 0x1affb, 1⟩, ⟨0x1affd, 0x1affe, 1⟩, ⟨0x1b000, 0x1b122, 1⟩,
   ⟨0x1b150, 0x1b152, 1⟩, ⟨0x1b164, 0x1b167, 1⟩, ⟨0x1b170, 0x1b2fb, 1⟩, ⟨0x1bc00, 0x1bc6a, 1⟩,
   ⟨0x1bc70, 0x1bc7c, 1⟩, ⟨0x1bc80, 0x1bc88, 1⟩, ⟨0x1bc90, 0x1bc99, 1⟩, ⟨0x1bc9d, 0x1bc9e, 1⟩,
   ⟨0x1cf00, 0x1cf2d, 1⟩, ⟨0x1cf30, 0x1cf46, 1⟩, ⟨0x1da00, 0x1da36, 1⟩, ⟨0x1da3b, 0x1da6c, 1⟩,
   ⟨0x1da75, 0x1da75, 1⟩, ⟨0x1da84, 0x1da84, 1⟩, ⟨0x1da9b, 0x1da9f, 1⟩, ⟨0x1daa1, 0x1daaf, 1⟩,
   ⟨0x1df00, 0x1df1e, 1⟩, ⟨0x1e000, 0x1e006, 1⟩, ⟨0x1e008, 0x1e018, 1⟩, ⟨0x1e01b, 0x1e021, 1⟩,
   ⟨0x1e023, 0x1e024, 1⟩, ⟨0x1e026, 0x1e02a, 1⟩, ⟨0x1e100, 0x1e12c, 1⟩, ⟨0x1e130, 0x1e13d, 1⟩,
   ⟨0x1e140, 0x1e149, 1⟩, ⟨0x1e14e, 0x1e14e, 1⟩, ⟨0x1e290, 0x1e2ae, 1⟩, ⟨0x1e2c0, 0x1e2f9, 1⟩,
   ⟨0x1e7e0, 0x1e7e6, 1⟩, ⟨0x1e7e8, 0x1e7eb, 1⟩, ⟨0x1e7ed, 0x1e7ee, 1⟩, ⟨0x1e7f0, 0x1e7fe, 1⟩,
   ⟨0x1e800, 0x1e8c4, 1⟩, ⟨0x1e8d0, 0x1e8d6, 1⟩, ⟨0x1e922, 0x1e94b, 1⟩, ⟨0x1e950, 0x1e959, 1⟩,
   ⟨0x20000, 0x2a6df, 1⟩, ⟨0x2a700, 0x2b738, 1⟩, ⟨0x2b740, 0x2b81d, 1⟩, ⟨0x2b820, 0x2cea1, 1⟩,
   ⟨0x2ceb0, 0x2ebe0, 1⟩, ⟨0x30000, 0x3134a, 1⟩]

/-- A character that can stand in a host name anywhere. -/
def isLetter (c : Char) : Bool :=
  if c.toNat < 0x80 then ('a' ≤ c && c ≤ 'z') || c.isDigit || c = '-'
  else letterRuns.any (·.has c.toNat)

/-- Among ASCII, host names hold small letters, digits and hyphens. -/
theorem isLetter_ascii {c : Char} (h : c.toNat < 0x80) :
    isLetter c = (('a' ≤ c && c ≤ 'z') || c.isDigit || c = '-') := by
  simp [isLetter, h]

/-! ## Scripts -/

def greekRanges : Text.CharRanges :=
  [(0x0371, 0x03e1), (0x03f3, 0x03fc), (0x1d26, 0x1d2a), (0x1f00, 0x1ff6), (0xab65, 0xab65)]

def hebrewRanges : Text.CharRanges :=
  [(0x0591, 0x05f4), (0xfb1e, 0xfb1e)]

/-- Letters and syllables that are written along with the Japanese middle dot. -/
def japaneseRanges : Text.CharRanges :=
  [(0x3005, 0x3005), (0x3007, 0x3007), (0x3041, 0x3096), (0x309d, 0x30fa), (0x30fd, 0x30fe),
   (0x31f0, 0x9fff), (0xfa0e, 0xfa29), (0x16fe3, 0x16fe3), (0x16ff0, 0x16ff1), (0x1aff0, 0x1b167),
   (0x20000, 0x3134a)]

/-! ## Directions -/

def rightToLeftRanges : Text.CharRanges :=
  [(0x05d0, 0x064a), (0x066e, 0x06ef), (0x06fa, 0x08c9), (0xfe73, 0xfe73), (0x10800, 0x10d23),
   (0x10e80, 0x10ff6), (0x1e800, 0x1e959)]

def arabicDigitRanges : Text.CharRanges :=
  [(0x0660, 0x0669), (0x10d30, 0x10d39)]

def europeanDigitRanges : Text.CharRanges :=
  [(0x0030, 0x0039), (0x06f0, 0x06f9)]

/-- Characters without a direction. -/
def neutralRanges : Text.CharRanges :=
  [(0x002d, 0x002d), (0x00b7, 0x00b7), (0x02b9, 0x02ba), (0x02c6, 0x02cf), (0x02ec, 0x02ec),
   (0x0375, 0x0375), (0x200c, 0x200d), (0x2e2f, 0x2e2f), (0x30fb, 0x30fb), (0xa67f, 0xa67f),
   (0xa717, 0xa71f), (0xa788, 0xa788)]

/-! ## Joining -/

def forwardJoiningRanges : Text.CharRanges :=
  [(0x0620, 0x0620), (0x0626, 0x0626), (0x0628, 0x0628), (0x062a, 0x062e), (0x0633, 0x0647),
   (0x0649, 0x064a), (0x066e, 0x066f), (0x0679, 0x0687), (0x069a, 0x06bf), (0x06c1, 0x06c2),
   (0x06cc, 0x06cc), (0x06ce, 0x06ce), (0x06d0, 0x06d1), (0x06fa, 0x06fc), (0x06ff, 0x06ff),
   (0x0712, 0x0714), (0x071a, 0x071d), (0x071f, 0x0727), (0x0729, 0x0729), (0x072b, 0x072b),
   (0x072d, 0x072e), (0x074e, 0x0758), (0x075c, 0x076a), (0x076d, 0x0770), (0x0772, 0x0772),
   (0x0775, 0x0777), (0x077a, 0x077f), (0x07ca, 0x07ea), (0x0841, 0x0845), (0x0848, 0x0848),
   (0x084a, 0x0853), (0x0855, 0x0855), (0x0860, 0x0860), (0x0862, 0x0865), (0x0868, 0x0868),
   (0x0886, 0x0886), (0x0889, 0x088d), (0x08a0, 0x08a9), (0x08af, 0x08b0), (0x08b3, 0x08b8),
   (0x08ba, 0x08c8), (0x1820, 0x1878), (0x1887, 0x18aa), (0xa840, 0xa872), (0x10ac0, 0x10ac4),
   (0x10acd, 0x10acd), (0x10ad3, 0x10adc), (0x10ade, 0x10ae0), (0x10b80, 0x10b80),
   (0x10b82, 0x10b82), (0x10b86, 0x10b88), (0x10b8a, 0x10b8b), (0x10b8d, 0x10b8d),
   (0x10b90, 0x10b90), (0x10d00, 0x10d21), (0x10d23, 0x10d23), (0x10f30, 0x10f32),
   (0x10f34, 0x10f44), (0x10f70, 0x10f73), (0x10f76, 0x10fb0), (0x10fb2, 0x10fb3),
   (0x10fb8, 0x10fb8), (0x10fbb, 0x10fbc), (0x10fbe, 0x10fbf), (0x10fc1, 0x10fc1),
   (0x10fc4, 0x10fc4), (0x1e922, 0x1e943)]

def backwardJoiningRanges : Text.CharRanges :=
  [(0x0620, 0x0620), (0x0622, 0x064a), (0x066e, 0x0673), (0x0679, 0x06d5), (0x06ee, 0x06ef),
   (0x06fa, 0x06fc), (0x06ff, 0x077f), (0x07ca, 0x07ea), (0x0840, 0x0860), (0x0862, 0x0865),
   (0x0867, 0x0882), (0x0886, 0x0886), (0x0889, 0x08ac), (0x08ae, 0x08c8), (0x1820, 0x1878),
   (0x1887, 0x18aa), (0xa840, 0xa871), (0x10ac0, 0x10ac5), (0x10ac7, 0x10aca), (0x10ace, 0x10ad6),
   (0x10ad8, 0x10ae1), (0x10ae4, 0x10ae4), (0x10b80, 0x10b91), (0x10d01, 0x10d23),
   (0x10f30, 0x10f44), (0x10f70, 0x10fb0), (0x10fb2, 0x10fb6), (0x10fb8, 0x10fbf),
   (0x10fc1, 0x10fc4), (0x1e922, 0x1e943)]

end RestartCheck.Host
