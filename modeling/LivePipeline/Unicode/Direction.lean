import LivePipeline.Text.CharSet

/-! The direction in which characters are written, as of Unicode 17. -/

namespace LivePipeline.Unicode

/-- How a character takes part in the direction of a text. -/
inductive Direction where
  | left
  | right
  | arabicNumber
  | europeanNumber
  | neutral
  | mark
  | other
  deriving BEq, DecidableEq

/-- Characters of texts that run from left to right. -/
def leftTable : String :=
  "41.19 7.19 30 b 5 6.16 2.1e 2.1c0 3.6 f.1 f.4 a 82.3 3.1 3.3 2 7 2.2 2 2.13 2.52 2.8b 8.a5
   2.25 3.30 37a.36 2 2.3 9.3 2.2 8.9 3.1c 2.1 2.7 3.1 3.15 2.6 2 4.3 4.3 7.1 3.1 2 9 5.1 2.2
   5.b 3.6 2.1 6 2.5 5.1 3.15 2.6 2.1 2.1 2.1 5.2 19.3 2 8.9 3.2 2 d 2.8 2.2 2.15 2.6 2.1 2.4
   4.3 9 2.1 4 10.1 5.a 9 9.1 2.7 3.1 3.15 2.6 2.1 2.4 4.1 2 7.1 3.1 b 5.1 2.2 5.11 c 2.5 4.2
   2.3 4.1 2 2.1 4.1 4.2 4.b 5.1 2.1 4.2 2.2 4 7 f.c f.2 2.7 2.2 2.16 2.f 4 4.3 14.2 2.1 3.1 5.9
   8 8.1 2.a 2.2 2.16 2.9 2.4 4.7 2.2 2.1 a.1 6.2 2.1 5.9 2.2 f.a 2.2 2.28 3.3 6.2 2.2 2.1 5.d
   5.19 3.1 2.11 4.17 2.8 2 3.6 9.2 7.7 7.9 3.2 d.2f 2.1 d.6 9.c 26.1 2 2.4 2.17 2 2.9 2.1 a 3.4
   2 a.9 3.3 21.17 3.1a 2 2 6.9 2.23 13 6 3.4 32.7 2.5 2.c 26.2c 5 7 3.1 3.18 3.3 4.f 5.c 2.1
   3.5 2.e 2.27 2 6 3.178 2.3 3.6 2 2.3 3.28 2.3 3.20 2.3 3.6 2 2.3 3.e 2.38 2.3 3.42 6.1c 4.f
   11.55 3.5 4.27e 2.19 6.58 8.11 4 a.12 3.2 a.11 f.c 2.2 10.33 3 8.7 2.1 c.6 2 4.9 27.9 7.58
   8.4 3.21 2 6.45 b.1e 5.3 3.2 5.1 2.5 e.27 3.4 c.2b 5.19 7.a 26.16 3.1 4.37 2 a 2.1 9.5 e.9
   7.9 7.d 57.2f 2 6 2.4 2.9 2.1c a.b 3.1f 5.1 3 4.37 2 3.2 2 4.1 9.2f 9.1 6.e 4.3d 6.2a 3.a c e
   8.3 2.5 2.2 3 6.bf 41.115 3.5 3.25 3.5 3.7 2 2 2 2.1e 3.34 2.6 2 4.2 2.6 4.3 3.5 5.c 6.2 2.6
   12 63 e 11.c 66 5 3.9 2 4.4 7 2 2 2.3 2.a 3.3 6.4 5.1 11.28 1ae.44 1b 107.4d 1c3 154.ff
   301.e4 7.3 4.1 d.25 2 6 3.37 8.1 10.16 a.6 2.6 2.6 2.6 2.6 2.6 2.6 2.6 21e.3 6.2 1a.8 5.1 2.4
   3.4 5.55 7.2 2.59 2.3 6.2a 2.5d 2.2f 30.2d 4.2f 11.1b 4.31 10.b 5.a6 5.62 3.1e 2.19bf 41.568c
   44.13c 4.1b 15.2e 12.1d 3.4f 3.5 2b.65 2.53 15.10 2.2 2.3 2.18 3 9.7 9.33 d.43 b.b 19.c 2.25
   9.18 c.1 c.1d 7.2f 2.1 5.1 3.f 2.a 5.6 2.18 2.28 7.1 3.1 c.2 2.7 2 3.9 3.1f 2.32 2 4.1 3.4 3
   2 19.10 3.7 c.5 3.5 3.5 a.6 2.6 2.39 7.74 2.1 2.3 4.9 7.2ba3 d.16 5.30 5.226d 3.69 27.6 d.4
   40a.19 7.19 c.58 4.5 3.5 3.5 3.2 24.b 2.19 2.12 2.1 2.e 3.d 23.7a 6 2 5.2c 4.8 4e.1 42.2c
   84.1c 4.30 30.23 a.1d 6.25 b.1d 2.24 5.d 2b.9d 3.9 7.23 5.23 5.27 9.33 c.b 2.e 2.6 2.1 2.a
   2.e 2.6 2.1 4.33 d.136 a.15 b.7 19.5 2.29 2.8 846 2.35 10.6 19.9 2.1 3 d.30 5.1 3.6 c 3.18
   8.9 a.23 6 a.11 9.22 2.2 c.33 a.9 5.1 2.f 2.13 c.11 2.1b 4.1 2 3.5 2.1 40.6 2 2.3 2.e 2.a
   7.2e 2.2 e.9 9.1 2.7 3.1 3.15 2.6 2.1 2.4 4.2 2.3 3.1 3.2 3 7 6.6 1d.9 2 3 2.25 2.3 8 3 2.3
   2.1 2 2 2.2 2.1 28.37 9.1 4 2.14 2 2.2 1f.32 7 2.3 3 3.3 9.9 a7.31 7.3 3 3.1a 25.32 9.1 2 3.3
   c.9 27.2a 2 2.1 7 2.1 7.9 7.13 1d.1a 6.1 5 a.16 ba.2e a 3 65.52 d.7 3 3.7 2.1 2.1d 2.1 5 2.3
   2.2 a.9 47.7 3.29 9.3 2.3 1c 7.1 3.27 7.1 5.7 a 7.1 4.2d e 3.8 e.48 8.9 58 4 2 59.21 f.9 7.8
   2.25 f.7 b.1c 4.1f 1a 8 3 4c.6 2.1 2.25 16 a.9 7.5 2.1 2.24 5.1 2 2 8.9 7.2b 5.9 f7.12 3.3
   a.e 2.23 9.1 2 2.16 57 10.14 2b.39a 67.6e 2.4 c.c3 a4d.62 e.43f 2.5 1a.f9a 6.246 1aba.1d d.2
   4.9 6c7.238 8.1e 2.9 5.50 2.9 7.1d 8 b.2f 8.e b.9 2.6 2.14 6.12 1b1.39 c7.5a 6.18 3.18 2d.4a
   6.37 c.c 41.1 2 d.6 a.1cd5 2a.1f 62.72 21fe.3 2.6 2.1 2.122 10 1e.2 3 f.3 9.18b 905.6a 6.c
   4.8 8.9 3 3 1037.23 257.73 3d.f5 b.26 3.3d 4.8 11.1 8.1d 5.3a d8.13 d.13 6d.18 88.54 2.46 2.1
   3 3.1 3.3 2.b 2 2.6 2.40 2.3 3.7 2.6 2.1b 2.3 2.4 2 4.6 2.153 3.32 2.38 2.38 2.38 2.38 2.7
   35.1ff 38.3 33.7 2.d 2.6 475.1e 7.5 106.3d 93.2c b.6 3.9 5.1 141.1d 13.2b 5.9 1d7.1b 5.9
   d7.1d 3.a 5 c1.1e 2.2 2.1 2.6 3.4 a.1 e1.6 2.3 2.1 2.e 912.1e 2.39 7.3c 3a.1c e.2b 5.8 8.1
   daf.a6df 21.111d 3.168d 3.1d30 10.26d 9a3.21d 5e3.134a 6.2129 bcb87.fffd 3.fffd"

/-- Characters of texts that run from right to left. -/
def rightTable : String :=
  "5be 2 3 3 a.1a 5.5 14 3 2 e.2f 23.2 2.64 10.1 8.1 b.13 2.1 2.1d 1e.58 c f.2a a.1 5 4.17 5 a 4
   8.e 2.18 6 2.a 6.1f 11.29 1746 db0e 2.9 2.c 2.4 2 2.1 2.1 2.7c 11.16a 13.3f 3.35 29.c 74.4
   2.86 904.5 3 2.2b 2.1 4 3.16 2.47 9.8 31.12 2.1 6.20 5.19 6.1a 27.37 5.13 3.2e 10.3 2.2 2.1c
   b.8 8.8 8.3f 21.24 7.b a.35 b.15 3.1a 6.19 8.3 d.6 51.48 38.32 e.32 8.29 27.1b a.16 9.1 f1.29
   4 3.1 11.5 39.27 9.15 c.8 17.11 5.3 27.1b 15.16 d80a.c4 3.8 31.43 8 5.9 5.1 312.43 4d.3c c3.3
   2.1a 2.1 2 3 2.9 2.3 2 2 7 5 2 2 2.2 2.1 2 3 2 2 2 2 2.1 2 3.3 2.6 2.3 2.3 2 2.9 2.10 6.2 2.4
   2.10"

/-- Digits that are used in texts from right to left. -/
def arabicNumberTable : String :=
  "600.5 5b.9 2.1 71 1b3.1 51 1044e.9 127.1e"

/-- Digits that are used in both directions. -/
def europeanNumberTable : String :=
  "30.9 79.1 6 637.9 1977 4.5 7.9 3ff.13 da75.9 3c8.1a a45.9 ca85.31 1901.a ae6.9"

/-- Characters that take the direction of what is around them. -/
def neutralTable : String :=
  "0.8 6.d 6.e b.6 1b.5 1b.9 2.23 2.6 3 2.2 3.4 18 20 1c2.1 8.d 3.d 6.8 2.10 75.1 9 6.1 2 6f 194
   3.2 77.1 2.1 2 2.1 5b 74 b 10d.3 1f9.1 8 f6 102.7 7e.6 1c1 fb.3 453.9 67 29b.1 13f 15.9 7.a 4
   132 4.1 99.21 5be 2.2 c.2 e.2 e.2 e.1 d.2 3.17 8.2f 2.4 6.5 b.4 c.4 12.21 3f.1 2.3 2.1 b 2.2
   6.5 2 2 2 5 c.1 5.4 6.3 3.f 2a.2 5.1a5 46.19 2.93 17.a 16.27 63.1c1 2.152 101.273 3.89 e6.5
   f.6 101.5d 23.19 2.58 d.d5 1b.b 6.3 4.18 10 6.1 6.2 5c.1 4 5b c5.25 38.1 32.f 1d.2 33.e d.3
   a8.3 64.1 20 19c1.3f 5691.36 147.2 64 b.1 81.21 67 a0.3 d.1 3b.3 2f3.1 4fbe 9a.f 16c.11 41.1
   37.7 2e.2 11.9 17.22 2.12 2.3 94 2.e b.6 1b.5 1b.a 7b.6 2.6 b.4 104 3f.4c 4.c 4 77f 21a.6 22f
   162.8 17a.13 5fb.c 969.1c 4ff1 4cbe.3 f5d.d5 25.2 4.1b3 7.16 10.10 283.7 6f.1 16.41 4 bb.56
   385 3a 3a 3a 3a b3c bf1.1 10f.2b 5.63 d.e 3.e 2.e 2.24 16.4 20 3b.5 3e b3.5 9b.3d8 4.10 4.c
   4.d9 7.b 5 10.b 5.37 9.9 7.27 9.1d 3.b 5.1 f.8 28.157 9.d 3.c 4.a 4.38 2 5.f 3.b 5.9 8.92
   2.5b b c0407 1f.5f"

/-- Marks, which take the direction of what they stand on. -/
def markTable : String :=
  "300.6f 114.6 108.2c 2 2.1 2.1 2 49.a 31.14 11 66.6 3.5 3.1 2.3 24 1f.1a 5c.a 3b.8 a 19.3 2.8
   2.2 2.4 2c.2 3c.8 2b.17 2.1f 38 2 5.7 5 4.6 b.1 1e 3b 5.3 9 15.1 1b 3.1 3a 5.1 5.1 3.2 4 1f.1
   4 c.1 3a 5.4 2.1 5 15.1 17.5 2 3b 3 2.3 9 8.1 c.1 1f 3e d 33 4 38 2.2 6.2 2.3 8.1 c.1 1e 3b
   10.1 15.1 1d.1 3a.1 5.3 9 15.1 1e 49 8.2 2 5b 3.6 d.7 63 3.8 c.6 4a.1 1c 2 2 38.d 2.4 2.1 6.a
   2.23 a 67.3 2.5 2.1 3.1 1a.1 5.2 11.3 e 3.1 7 10 2c0.2 3b3.2 1e.1 1f.1 1f.1 41.1 2.6 9 3.a a
   2e.2 2 76.1 23 77.2 5.1 a 7.2 dc.1 3 3b 2.6 2 2 3.7 7.9 3 31.2d 3.b 15.3 31 2.4 2 6 29.8 d.1
   21.3 3.1 2.2 39 2.1 4 2.2 3b.7 3.1 99.2 2.c 2.6 5 7 4.1 c7.3f 2d1.20 bff.2 8e 61.1f 22b.3
   6c.1 75d5.3 2.9 21.1 51.1 111 4 5 1a.1 6 98.1 1b.11 e 27.7 1a.a 2f.2 31 3.3 3.1 28 44.5 3.1
   3.1 d 9 30 34 2.2 3.1 6.1 2 2b.1 9 ef 3 5 4f31 2e2.f 11.f 3ce e3 96.4 687.2 2.1 6.3 29.2 5
   a6.1 23e.3 42.4 13e.1 4e.5 47.a 32.3 7c 37.e 2a 3.1 b.2 32.3 3.1 8 3e.2 25.4 2.7 3f d.1 35.8
   b.3 3 60.2 3 2.1 7 3 9e 4.7 16.1 3a.1 4 26.6 4.4 47.5 e 2 2 f.1 56.7 3.2 2 18 55.5 2 5.1 2.1
   ef.3 7.1 2.1 1c.1 56.7 3 2.1 6b 2 3.5 2 66.2 3.3 2.4 104.8 2.1 101.1 2 5 91.3 3.1 5 21.5 3.1
   29.5 3.3 9 a.5 3.2 2f.c 2.1 c7 2.2 2 ca.6 2.5 55.15 3.6 2.1 2.1 7b.5 4 2.1 2.6 2 49.1 4 2
   15c.1 c.1 35.4 6 2 18 14e6 7.e 2cc9.b 4.2 9c1.4 3c.6 419 40.3 52 4cb9.1 1262.2d 3.16 221.2
   12.7 3.6 1f.3 95.2 7bc.36 5.31 9 f 17.4 2.e 551.6 2.10 3.6 2.1 2.4 65 a1.6 178 3e.3 1fd.3
   ff.1 f4 3 8.1 6 1db.6 6e.6 c17b6.ef"

def directionSets : List (Direction × CharSet) := [
  (.left, .ofTable leftTable),
  (.right, .ofTable rightTable),
  (.arabicNumber, .ofTable arabicNumberTable),
  (.europeanNumber, .ofTable europeanNumberTable),
  (.neutral, .ofTable neutralTable),
  (.mark, .ofTable markTable)]

def direction (c : Char) : Direction :=
  match directionSets.find? (·.2.contains c) with
  | some (direction, _) => direction
  | none => .other

end LivePipeline.Unicode
