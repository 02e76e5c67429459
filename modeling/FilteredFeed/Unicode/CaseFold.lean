import FilteredFeed.Text.CharSet

namespace FilteredFeed.Unicode.CaseFold

open FilteredFeed.Text (CharSet)

-- Characters that differ only in case come mostly in pairs, and the pairs in runs: `count` pairs,
-- whose first members are `stride` apart, and whose second members follow at a fixed distance.
structure PairRun where
  first : Nat
  stride : Nat
  count : Nat
  distance : Nat

def pairRuns : List PairRun :=
  [⟨0x41, 1, 10, 32⟩, ⟨0x4c, 1, 7, 32⟩, ⟨0x54, 1, 7, 32⟩, ⟨0xc0, 1, 5, 32⟩,
   ⟨0xc6, 1, 17, 32⟩, ⟨0xd8, 1, 7, 32⟩, ⟨0xdf, 1, 1, 7615⟩, ⟨0xff, 1, 1, 121⟩,
   ⟨0x100, 2, 24, 1⟩, ⟨0x132, 2, 3, 1⟩, ⟨0x139, 2, 8, 1⟩, ⟨0x14a, 2, 23, 1⟩,
   ⟨0x179, 2, 3, 1⟩, ⟨0x180, 1, 1, 195⟩, ⟨0x181, 1, 1, 210⟩, ⟨0x182, 2, 2, 1⟩,
   ⟨0x186, 1, 1, 206⟩, ⟨0x187, 1, 1, 1⟩, ⟨0x189, 1, 2, 205⟩, ⟨0x18b, 1, 1, 1⟩,
   ⟨0x18e, 1, 1, 79⟩, ⟨0x18f, 1, 1, 202⟩, ⟨0x190, 1, 1, 203⟩, ⟨0x191, 1, 1, 1⟩,
   ⟨0x193, 1, 1, 205⟩, ⟨0x194, 1, 1, 207⟩, ⟨0x195, 1, 1, 97⟩, ⟨0x196, 1, 1, 211⟩,
   ⟨0x197, 1, 1, 209⟩, ⟨0x198, 1, 1, 1⟩, ⟨0x19a, 1, 1, 163⟩, ⟨0x19b, 1, 1, 42561⟩,
   ⟨0x19c, 1, 1, 211⟩, ⟨0x19d, 1, 1, 213⟩, ⟨0x19e, 1, 1, 130⟩, ⟨0x19f, 1, 1, 214⟩,
   ⟨0x1a0, 2, 3, 1⟩, ⟨0x1a6, 1, 1, 218⟩, ⟨0x1a7, 1, 1, 1⟩, ⟨0x1a9, 1, 1, 218⟩,
   ⟨0x1ac, 1, 1, 1⟩, ⟨0x1ae, 1, 1, 218⟩, ⟨0x1af, 1, 1, 1⟩, ⟨0x1b1, 1, 2, 217⟩,
   ⟨0x1b3, 2, 2, 1⟩, ⟨0x1b7, 1, 1, 219⟩, ⟨0x1b8, 1, 1, 1⟩, ⟨0x1bc, 1, 1, 1⟩,
   ⟨0x1bf, 1, 1, 56⟩, ⟨0x1cd, 2, 8, 1⟩, ⟨0x1de, 2, 9, 1⟩, ⟨0x1f4, 1, 1, 1⟩,
   ⟨0x1f8, 2, 20, 1⟩, ⟨0x222, 2, 9, 1⟩, ⟨0x23a, 1, 1, 10795⟩, ⟨0x23b, 1, 1, 1⟩,
   ⟨0x23e, 1, 1, 10792⟩, ⟨0x23f, 1, 2, 10815⟩, ⟨0x241, 1, 1, 1⟩, ⟨0x244, 1, 1, 69⟩,
   ⟨0x245, 1, 1, 71⟩, ⟨0x246, 2, 5, 1⟩, ⟨0x250, 1, 1, 10783⟩, ⟨0x251, 1, 1, 10780⟩,
   ⟨0x252, 1, 1, 10782⟩, ⟨0x25c, 1, 1, 42319⟩, ⟨0x261, 1, 1, 42315⟩, ⟨0x264, 1, 1, 42343⟩,
   ⟨0x265, 1, 1, 42280⟩, ⟨0x266, 1, 1, 42308⟩, ⟨0x26a, 1, 1, 42308⟩, ⟨0x26b, 1, 1, 10743⟩,
   ⟨0x26c, 1, 1, 42305⟩, ⟨0x271, 1, 1, 10749⟩, ⟨0x27d, 1, 1, 10727⟩, ⟨0x282, 1, 1, 42307⟩,
   ⟨0x287, 1, 1, 42282⟩, ⟨0x29d, 1, 1, 42261⟩, ⟨0x29e, 1, 1, 42258⟩, ⟨0x370, 2, 2, 1⟩,
   ⟨0x376, 1, 1, 1⟩, ⟨0x37b, 1, 3, 130⟩, ⟨0x37f, 1, 1, 116⟩, ⟨0x386, 1, 1, 38⟩,
   ⟨0x388, 1, 3, 37⟩, ⟨0x38c, 1, 1, 64⟩, ⟨0x38e, 1, 2, 63⟩, ⟨0x390, 1, 1, 7235⟩,
   ⟨0x391, 2, 2, 32⟩, ⟨0x394, 2, 2, 32⟩, ⟨0x397, 1, 1, 32⟩, ⟨0x39b, 2, 2, 32⟩,
   ⟨0x39e, 1, 2, 32⟩, ⟨0x3a4, 1, 2, 32⟩, ⟨0x3a7, 1, 2, 32⟩, ⟨0x3aa, 1, 2, 32⟩,
   ⟨0x3b0, 1, 1, 7219⟩, ⟨0x3cf, 1, 1, 8⟩, ⟨0x3d8, 2, 12, 1⟩, ⟨0x3f2, 1, 1, 7⟩,
   ⟨0x3f7, 1, 1, 1⟩, ⟨0x3fa, 1, 1, 1⟩, ⟨0x400, 1, 16, 80⟩, ⟨0x410, 1, 2, 32⟩,
   ⟨0x413, 2, 2, 32⟩, ⟨0x416, 1, 8, 32⟩, ⟨0x41f, 1, 2, 32⟩, ⟨0x423, 1, 7, 32⟩,
   ⟨0x42b, 1, 5, 32⟩, ⟨0x460, 1, 1, 1⟩, ⟨0x464, 2, 15, 1⟩, ⟨0x48a, 2, 27, 1⟩,
   ⟨0x4c0, 1, 1, 15⟩, ⟨0x4c1, 2, 7, 1⟩, ⟨0x4d0, 2, 48, 1⟩, ⟨0x531, 1, 38, 48⟩,
   ⟨0x10a0, 1, 38, 7264⟩, ⟨0x10c7, 1, 1, 7264⟩, ⟨0x10cd, 1, 1, 7264⟩, ⟨0x10d0, 1, 43, 3008⟩,
   ⟨0x10fd, 1, 3, 3008⟩, ⟨0x13a0, 1, 80, 38864⟩, ⟨0x13f0, 1, 6, 8⟩, ⟨0x1c89, 1, 1, 1⟩,
   ⟨0x1d79, 1, 1, 35332⟩, ⟨0x1d7d, 1, 1, 3814⟩, ⟨0x1d8e, 1, 1, 35384⟩, ⟨0x1e00, 2, 48, 1⟩,
   ⟨0x1e62, 2, 26, 1⟩, ⟨0x1ea0, 2, 48, 1⟩, ⟨0x1f00, 1, 8, 8⟩, ⟨0x1f10, 1, 6, 8⟩,
   ⟨0x1f20, 1, 8, 8⟩, ⟨0x1f30, 1, 8, 8⟩, ⟨0x1f40, 1, 6, 8⟩, ⟨0x1f51, 2, 4, 8⟩,
   ⟨0x1f60, 1, 8, 8⟩, ⟨0x1f70, 1, 2, 74⟩, ⟨0x1f72, 1, 4, 86⟩, ⟨0x1f76, 1, 2, 100⟩,
   ⟨0x1f78, 1, 2, 128⟩, ⟨0x1f7a, 1, 2, 112⟩, ⟨0x1f7c, 1, 2, 126⟩, ⟨0x1f80, 1, 8, 8⟩,
   ⟨0x1f90, 1, 8, 8⟩, ⟨0x1fa0, 1, 8, 8⟩, ⟨0x1fb0, 1, 2, 8⟩, ⟨0x1fb3, 1, 1, 9⟩,
   ⟨0x1fc3, 1, 1, 9⟩, ⟨0x1fd0, 1, 2, 8⟩, ⟨0x1fe0, 1, 2, 8⟩, ⟨0x1fe5, 1, 1, 7⟩,
   ⟨0x1ff3, 1, 1, 9⟩, ⟨0x2132, 1, 1, 28⟩, ⟨0x2160, 1, 16, 16⟩, ⟨0x2183, 1, 1, 1⟩,
   ⟨0x24b6, 1, 26, 26⟩, ⟨0x2c00, 1, 48, 48⟩, ⟨0x2c60, 1, 1, 1⟩, ⟨0x2c67, 2, 3, 1⟩,
   ⟨0x2c72, 1, 1, 1⟩, ⟨0x2c75, 1, 1, 1⟩, ⟨0x2c80, 2, 50, 1⟩, ⟨0x2ceb, 2, 2, 1⟩,
   ⟨0x2cf2, 1, 1, 1⟩, ⟨0xa640, 2, 5, 1⟩, ⟨0xa64c, 2, 17, 1⟩, ⟨0xa680, 2, 14, 1⟩,
   ⟨0xa722, 2, 7, 1⟩, ⟨0xa732, 2, 31, 1⟩, ⟨0xa779, 2, 2, 1⟩, ⟨0xa77e, 2, 5, 1⟩,
   ⟨0xa78b, 1, 1, 1⟩, ⟨0xa790, 2, 2, 1⟩, ⟨0xa794, 1, 1, 48⟩, ⟨0xa796, 2, 10, 1⟩,
   ⟨0xa7b3, 1, 1, 928⟩, ⟨0xa7b4, 2, 8, 1⟩, ⟨0xa7c7, 2, 2, 1⟩, ⟨0xa7cc, 2, 8, 1⟩,
   ⟨0xa7f5, 1, 1, 1⟩, ⟨0xfb05, 1, 1, 1⟩, ⟨0xff21, 1, 26, 32⟩, ⟨0x10400, 1, 40, 40⟩,
   ⟨0x104b0, 1, 36, 40⟩, ⟨0x10570, 1, 11, 39⟩, ⟨0x1057c, 1, 15, 39⟩, ⟨0x1058c, 1, 7, 39⟩,
   ⟨0x10594, 1, 2, 39⟩, ⟨0x10c80, 1, 51, 64⟩, ⟨0x10d50, 1, 22, 32⟩, ⟨0x118a0, 1, 32, 32⟩,
   ⟨0x16e40, 1, 32, 32⟩, ⟨0x16ea0, 1, 25, 27⟩, ⟨0x1e900, 1, 34, 34⟩]

-- The sets of three and more.
def larger : List (List Nat) :=
  [[0x4b, 0x6b, 0x212a], [0x53, 0x73, 0x17f], [0xb5, 0x39c, 0x3bc],
   [0xc5, 0xe5, 0x212b], [0x1c4, 0x1c5, 0x1c6], [0x1c7, 0x1c8, 0x1c9],
   [0x1ca, 0x1cb, 0x1cc], [0x1f1, 0x1f2, 0x1f3], [0x345, 0x399, 0x3b9, 0x1fbe],
   [0x392, 0x3b2, 0x3d0], [0x395, 0x3b5, 0x3f5], [0x398, 0x3b8, 0x3d1, 0x3f4],
   [0x39a, 0x3ba, 0x3f0], [0x3a0, 0x3c0, 0x3d6], [0x3a1, 0x3c1, 0x3f1],
   [0x3a3, 0x3c2, 0x3c3], [0x3a6, 0x3c6, 0x3d5], [0x3a9, 0x3c9, 0x2126],
   [0x412, 0x432, 0x1c80], [0x414, 0x434, 0x1c81], [0x41e, 0x43e, 0x1c82],
   [0x421, 0x441, 0x1c83], [0x422, 0x442, 0x1c84, 0x1c85], [0x42a, 0x44a, 0x1c86],
   [0x462, 0x463, 0x1c87], [0x1c88, 0xa64a, 0xa64b], [0x1e60, 0x1e61, 0x1e9b]]

namespace PairRun

-- The partners of the members of `lo..hi` in one direction: up from first to second members,
-- or down.
private def partners (run : PairRun) (lo hi : Nat) : List (Nat × Nat) :=
  (List.range run.count).flatMap fun k =>
    let a := run.first + k * run.stride
    let b := a + run.distance
    (if lo ≤ a ∧ a ≤ hi then [(b, b)] else []) ++ (if lo ≤ b ∧ b ≤ hi then [(a, a)] else [])

end PairRun

-- A set together with every character that differs from a member only in case.
def close (s : CharSet) : CharSet :=
  let added := s.ranges.flatMap fun (lo, hi) =>
    pairRuns.flatMap (·.partners lo hi) ++
      larger.flatMap fun orbit =>
        if orbit.any fun code => lo ≤ code ∧ code ≤ hi then orbit.map fun code => (code, code)
        else []
  .ofRanges (s.ranges ++ added)

end FilteredFeed.Unicode.CaseFold
